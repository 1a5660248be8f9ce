/-!
# Drawing at random

Values drawn from a seed: a state of 64 bits that is moved on by a fixed step and scrambled into an
even distribution.
-/

namespace ResultMapping.Sample

/-- A way to draw a value. -/
abbrev Draw := StateM UInt64

/-- The next 64 bits. -/
def bits : Draw UInt64 := do
  let seed := (← get) + 0x9E3779B97F4A7C15
  set seed
  let x := (seed ^^^ (seed >>> 30)) * 0xBF58476D1CE4E5B9
  let x := (x ^^^ (x >>> 27)) * 0x94D049BB133111EB
  pure (x ^^^ (x >>> 31))

/-- A number below the bound, each with the same chance; zero if there is none. -/
def below (bound : Nat) : Draw Nat := do
  pure ((← bits).toNat % max bound 1)

def coin : Draw Bool := do
  pure ((← below 2) == 1)

/-- As many draws as asked for. -/
def times {α : Type} (draw : Draw α) : Nat → Draw (List α)
  | 0 => pure []
  | n + 1 => do
    let first ← draw
    let others ← times draw n
    pure (first :: others)

/-- One of the characters. -/
def charOf (chars : List Char) : Draw Char := do
  pure (chars.getD (← below chars.length) ' ')

end ResultMapping.Sample

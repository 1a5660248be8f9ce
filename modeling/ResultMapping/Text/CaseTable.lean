/-!
# Case tables

A case mapping as data: runs of characters that move by one distance, and single characters that
become several. A text is converted character by character (`CaseTable.convertChars_cons`).
-/

namespace ResultMapping.Text

/-- Every `stride`-th code point from `first` to `last`; the first of them becomes `image`, and the
others keep their distance from it. -/
structure CaseRun where
  first : Nat
  last : Nat
  stride : Nat
  image : Nat
deriving DecidableEq, Repr

namespace CaseRun

/-- Whether the run moves the code point. -/
def covers (run : CaseRun) (code : Nat) : Bool :=
  run.first ≤ code && code ≤ run.last && (code - run.first) % run.stride == 0

/-- Where the run moves a code point that it covers. -/
def move (run : CaseRun) (code : Nat) : Nat :=
  code - run.first + run.image

end CaseRun

/-- A case mapping: characters in a run become one character, those in `expansions` become several,
and all others stay as they are. -/
structure CaseTable where
  runs : List CaseRun
  expansions : List (Nat × List Nat)

namespace CaseTable

/-- What one code point becomes. -/
def codes (table : CaseTable) (code : Nat) : List Nat :=
  match table.runs.find? (·.covers code) with
  | some run => [run.move code]
  | none => (table.expansions.lookup code).getD [code]

/-- What one character becomes. -/
def convertChar (table : CaseTable) (c : Char) : List Char :=
  (table.codes c.toNat).map Char.ofNat

def convertChars (table : CaseTable) (cs : List Char) : List Char :=
  cs.flatMap table.convertChar

/-- The text with every character converted. -/
def convert (table : CaseTable) (text : String) : String :=
  .ofList (table.convertChars text.toList)

theorem convertChars_cons (table : CaseTable) (c : Char) (cs : List Char) :
    table.convertChars (c :: cs) = table.convertChar c ++ table.convertChars cs :=
  List.flatMap_cons

end CaseTable

end ResultMapping.Text

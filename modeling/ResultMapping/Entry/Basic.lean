import ResultMapping.Entry.Flags
import ResultMapping.Text.Separated

/-!
# Mapping entries

An entry ties a column of a result to a property or a constructor argument of the target type. Its
value may also come from another descriptor (a nested result map), from a second query (a nested
query) or from several columns at once (a composite, whose parts are entries again).
-/

namespace ResultMapping

/-- The name of the type that rows are turned into. -/
structure TargetType where
  name : String
deriving DecidableEq, Repr

structure Entry where
  property : Option String := none
  column : Option String := none
  targetType : Option TargetType := none
  flags : Flags := .empty
  nestedResultMap : Option String := none
  nestedQuery : Option String := none
  /-- The result set that the value is joined from. -/
  resultSet : Option String := none
  foreignColumn : Option String := none
  columnPrefix : Option String := none
  notNullColumns : List String := []
  /-- The parts of a key of several columns. -/
  composites : List Entry := []
  isLazy : Bool := false

namespace Entry

instance : Inhabited Entry := ⟨{}⟩

mutual

/-- Entries are compared field by field, and their parts one by one. -/
def decEq : (a b : Entry) → Decidable (a = b)
  | ⟨p, c, t, f, m, q, r, fc, cp, nn, parts, l⟩,
      ⟨p', c', t', f', m', q', r', fc', cp', nn', parts', l'⟩ =>
    match decEqList parts parts' with
    | .isFalse h => .isFalse fun e => h (by injection e)
    | .isTrue h =>
      if h' : p = p' ∧ c = c' ∧ t = t' ∧ f = f' ∧ m = m' ∧ q = q' ∧ r = r' ∧ fc = fc' ∧ cp = cp'
          ∧ nn = nn' ∧ l = l' then
        .isTrue (by simp [h, h'])
      else .isFalse fun e => h' (by injection e; simp_all)

def decEqList : (as bs : List Entry) → Decidable (as = bs)
  | [], [] => .isTrue rfl
  | [], _ :: _ => .isFalse nofun
  | _ :: _, [] => .isFalse nofun
  | a :: as, b :: bs =>
    match decEq a b, decEqList as bs with
    | .isTrue h, .isTrue h' => .isTrue (by rw [h, h'])
    | .isFalse h, _ => .isFalse fun e => h (by injection e)
    | _, .isFalse h => .isFalse fun e => h (by injection e)

end

instance : DecidableEq Entry := decEq

/-- A part of a composite key: a property and its column. -/
def composite (property column : String) : Entry :=
  { property := some property, column := some column }

def isComposite (e : Entry) : Bool := !e.composites.isEmpty

def hasFlags (e : Entry) (flags : Flags) : Bool := e.flags.contains flags

/-- The name by which errors refer to the entry. -/
def label (e : Entry) : String := e.property.getD "<constructor>"

/-- The comma-separated names in a column text; an absent text has none. -/
def columnNames (column : Option String) : List String :=
  match column with
  | none => []
  | some text => Text.splitCommas text

end Entry

end ResultMapping

import ResultMapping.Entry.Building
import Mathlib.Data.List.DropRight
import Mathlib.Data.List.Induction

/-!
# What building an entry comes to

The settings of an entry are made one after the other, so the last one that concerns a field decides
it. The flags are different: they can be replaced, and the roles given after that are added to them.
The entry so declared is then refused for the first of three faults, if it has any.

* `draft_eq_declared`: the entry that settings leave, field by field;
* `fault?_eq`: the three faults, in the order of their precedence;
* `build_declared`: when building ends in which way, and with which entry or error.
-/

namespace ResultMapping.Entry

variable {s : Setting}

/-! ## The last setting counts -/

/-- The argument of the last setting that has one. -/
def lastSet {α : Type} (argument : Setting → Option α) (settings : List Setting) : Option α :=
  (settings.filterMap argument).getLast?

theorem lastSet_append {α : Type} (argument : Setting → Option α) (settings later : List Setting) :
    lastSet argument (settings ++ later)
      = (lastSet argument later).or (lastSet argument settings) := by
  rw [lastSet, List.filterMap_append, List.getLast?_append, lastSet, lastSet]

theorem lastSet_singleton {α : Type} (argument : Setting → Option α) (s : Setting) :
    lastSet argument [s] = argument s := by
  cases h : argument s <;> simp [lastSet, h]

/-- The flags that a setting puts in place of all others. -/
def Setting.flags? : Setting → Option Flags
  | .flags given => some given
  | _ => none

def Setting.isId : Setting → Bool
  | .id => true
  | _ => false

def Setting.isConstructor : Setting → Bool
  | .constructor => true
  | _ => false

/-- The settings made since all flags were last replaced. -/
def sinceFlags (settings : List Setting) : List Setting :=
  settings.rtakeWhile (·.flags?.isNone)

/-- A bit that is set if a role has been given since all flags were last replaced. -/
def roleBit (isRole : Setting → Bool) (bit : UInt8) (settings : List Setting) : UInt8 :=
  if (sinceFlags settings).any isRole then bit else 0

/-- The flags that some settings declare: those last given, with the roles given after them. -/
def declaredFlags (settings : List Setting) : Flags where
  bits := ((lastSet (·.flags?) settings).getD .empty).bits
    ||| roleBit (·.isId) 1 settings ||| roleBit (·.isConstructor) 2 settings

/-- The entry that some settings declare: a field is what was last said of it, or blank. -/
def declared (property : Option String) (settings : List Setting) : Entry where
  property := property
  column := lastSet (fun | .column name => some name | _ => none) settings
  targetType := lastSet (fun | .targetType type => some type | _ => none) settings
  flags := declaredFlags settings
  nestedResultMap := lastSet (fun | .nestedResultMap id => some id | _ => none) settings
  nestedQuery := lastSet (fun | .nestedQuery id => some id | _ => none) settings
  resultSet := lastSet (fun | .resultSet name => some name | _ => none) settings
  foreignColumn := lastSet (fun | .foreignColumn name => some name | _ => none) settings
  columnPrefix := lastSet (fun | .columnPrefix text => some text | _ => none) settings
  notNullColumns :=
    (lastSet (fun | .notNullColumns names => some names | _ => none) settings).getD []
  composites := (lastSet (fun | .composites parts => some parts | _ => none) settings).getD []
  isLazy := (lastSet (fun | .isLazy value => some value | _ => none) settings).getD false

theorem draft_concat (property : Option String) (settings : List Setting) (s : Setting) :
    draft property (settings ++ [s]) = (draft property settings).set s := by
  rw [draft, List.foldl_append, List.foldl_cons, List.foldl_nil, draft]

theorem sinceFlags_concat (settings : List Setting) (s : Setting) :
    sinceFlags (settings ++ [s]) = if s.flags?.isNone then sinceFlags settings ++ [s] else [] :=
  List.rtakeWhile_concat _ _ _

theorem roleBit_concat (isRole : Setting → Bool) (bit : UInt8) (settings : List Setting)
    (h : s.flags? = none) :
    roleBit isRole bit (settings ++ [s])
      = if isRole s then bit else roleBit isRole bit settings := by
  rw [roleBit, sinceFlags_concat, h, Option.isNone_none, if_pos rfl, List.any_append, roleBit]
  cases hs : isRole s <;> simp [hs]

theorem roleBit_or (isRole : Setting → Bool) (bit : UInt8) (settings : List Setting) :
    roleBit isRole bit settings ||| bit = bit := by
  rw [roleBit]
  split <;> simp

theorem declaredFlags_concat (settings : List Setting) (s : Setting) :
    declaredFlags (settings ++ [s]) = match s with
      | .flags flags => flags
      | .id => (declaredFlags settings).union .id
      | .constructor => (declaredFlags settings).union .constructor
      | _ => declaredFlags settings := by
  cases s with
  | flags flags =>
    simp [declaredFlags, lastSet_append, lastSet_singleton, roleBit, sinceFlags_concat,
      Setting.flags?]
  | id =>
    -- The new bit takes in the one that earlier roles may have set already.
    rw [declaredFlags, lastSet_append, roleBit_concat _ _ _ rfl, roleBit_concat _ _ _ rfl]
    have hbits (given ids constructors : UInt8) (h : ids ||| 1 = 1) :
        given ||| 1 ||| constructors = given ||| ids ||| constructors ||| 1 :=
      calc given ||| 1 ||| constructors
        _ = given ||| (ids ||| 1) ||| constructors := by rw [h]
        _ = given ||| ids ||| constructors ||| 1 := by ac_rfl
    exact congrArg Flags.mk (hbits _ _ _ (roleBit_or _ 1 settings))
  | constructor =>
    rw [declaredFlags, lastSet_append, roleBit_concat _ _ _ rfl, roleBit_concat _ _ _ rfl]
    have hbits (given constructors : UInt8) (h : constructors ||| 2 = 2) :
        given ||| 2 = given ||| constructors ||| 2 := by
      rw [UInt8.or_assoc, h]
    exact congrArg Flags.mk (hbits _ _ (roleBit_or _ 2 settings))
  | _ =>
    rw [declaredFlags, lastSet_append, roleBit_concat _ _ _ rfl, roleBit_concat _ _ _ rfl]
    rfl

theorem declared_concat (property : Option String) (settings : List Setting) (s : Setting) :
    declared property (settings ++ [s]) = (declared property settings).set s := by
  cases s <;> simp [declared, declaredFlags_concat, lastSet_append, lastSet_singleton, set]

/-- Each field is as it was last set. -/
theorem draft_eq_declared (property : Option String) (settings : List Setting) :
    draft property settings = declared property settings := by
  induction settings using List.reverseRecOn with
  | nil => rfl
  | append_singleton settings s ih => rw [draft_concat, declared_concat, ih]

/-- Replacing all flags takes back a role that was given before. -/
example : draft none [.id, .flags ⟨0x80⟩, .constructor] = { flags := ⟨0x82⟩ } := by decide

/-! ## Faults -/

/-- How many names a column text lists: one more than it has commas, and none if it is absent. -/
def nameCount : Option String → Nat
  | none => 0
  | some text => text.toList.count ',' + 1

theorem length_columnNames (column : Option String) :
    (columnNames column).length = nameCount column := by
  cases column with
  | none => rfl
  | some text =>
    rw [columnNames, Text.splitCommas, List.length_map, Text.length_splitChars, nameCount]

/-- Both a query and a descriptor are nested for the value. -/
def Ambiguous (e : Entry) : Prop := e.nestedQuery.isSome ∧ e.nestedResultMap.isSome

/-- There is nothing to take the value from. -/
def Sourceless (e : Entry) : Prop :=
  e.nestedResultMap = none ∧ e.column = none ∧ e.composites = []

/-- The columns of a join over a result set are not as many as the foreign columns. -/
def Unpaired (e : Entry) : Prop :=
  e.resultSet.isSome ∧ nameCount e.column ≠ nameCount e.foreignColumn

instance (e : Entry) : Decidable e.Ambiguous := inferInstanceAs (Decidable (_ ∧ _))

instance (e : Entry) : Decidable e.Sourceless := inferInstanceAs (Decidable (_ ∧ _ ∧ _))

instance (e : Entry) : Decidable e.Unpaired := inferInstanceAs (Decidable (_ ∧ _))

theorem fault?_eq (e : Entry) :
    e.fault? =
      if e.Ambiguous then some (.conflictingNestedReferences e.label)
      else if e.Sourceless then some (.missingColumn e.label)
      else if e.Unpaired then
        some (.foreignColumnMismatch e.label (e.column.getD "") (e.foreignColumn.getD ""))
      else none := by
  have hambiguous : (e.nestedQuery.isSome && e.nestedResultMap.isSome) = true ↔ e.Ambiguous :=
    Bool.and_eq_true_iff
  have hsourceless :
      (e.nestedResultMap.isNone && e.column.isNone && e.composites.isEmpty) = true
        ↔ e.Sourceless := by
    simp [Sourceless, and_assoc]
  have hunpaired :
      (e.resultSet.isSome && (columnNames e.column).length != (columnNames e.foreignColumn).length)
        = true ↔ e.Unpaired := by
    simp [Unpaired, length_columnNames]
  simp only [fault?, hambiguous, hsourceless, hunpaired]

theorem fault?_eq_none_iff {e : Entry} :
    e.fault? = none ↔ ¬e.Ambiguous ∧ ¬e.Sourceless ∧ ¬e.Unpaired := by
  rw [fault?_eq]
  split_ifs <;> simp [*]

/-! ## Outcomes -/

/-- Building ends in one of four ways: the entry that was declared is refused for nesting two
things, or else for having nothing to take its value from, or else for columns that are not paired
with foreign columns, and otherwise it is what comes out. -/
theorem build_declared (property : Option String) (settings : List Setting) :
    let e := declared property settings
    let name := property.getD "<constructor>"
    (build property settings = .error (.conflictingNestedReferences name) ↔ e.Ambiguous) ∧
    (build property settings = .error (.missingColumn name) ↔ ¬e.Ambiguous ∧ e.Sourceless) ∧
    (build property settings
        = .error (.foreignColumnMismatch name (e.column.getD "") (e.foreignColumn.getD "")) ↔
      ¬e.Ambiguous ∧ ¬e.Sourceless ∧ e.Unpaired) ∧
    (build property settings = .ok e ↔ ¬e.Ambiguous ∧ ¬e.Sourceless ∧ ¬e.Unpaired) := by
  intro e name
  have hdraft : draft property settings = e := draft_eq_declared property settings
  have hname : e.label = name := rfl
  simp only [build, hdraft, fault?_eq, hname]
  split_ifs with hambiguous hsourceless hunpaired <;> simp [*]

end ResultMapping.Entry

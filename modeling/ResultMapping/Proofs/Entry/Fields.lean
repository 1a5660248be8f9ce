import ResultMapping.Entry.Json
import Mathlib.Data.List.Nodup

/-!
# The fields of an entry

An entry is its twelve fields: it is written by writing each of them under its name, and read by
reading those that an object gives and assigning them to the blank entry.

* `toJson_eq`: the written entry, field by field;
* `readMembers_eq_mapM`: when no field is given twice, the fields among the members of an object are
  read one by one, whatever other members stand between them;
* `ofAssignments_perm`: the order of assignments to different fields does not matter;
* `ofAssignments_assignment`: an entry is the blank entry with its fields assigned;
* `assignment_ofAssignments`: fields that are not assigned stay blank.
-/

namespace ResultMapping.Entry

namespace Field

@[simp] theorem named?_name (f : Field) : named? f.name = some f := by
  cases f <;> rfl

theorem name_injective : Function.Injective name := fun f g h => by
  have hnamed := congrArg named? h
  rwa [named?_name, named?_name, Option.some.injEq] at hnamed

theorem mem_all (f : Field) : f ∈ all := by
  cases f <;> decide

theorem nodup_all : all.Nodup := by decide

end Field

/-! ## Assignments -/

/-- The field that is assigned. -/
def Assignment.field : Assignment → Field
  | .property _ => .property
  | .column _ => .column
  | .targetType _ => .targetType
  | .flags _ => .flags
  | .nestedResultMap _ => .nestedResultMap
  | .nestedQuery _ => .nestedQuery
  | .resultSet _ => .resultSet
  | .foreignColumn _ => .foreignColumn
  | .columnPrefix _ => .columnPrefix
  | .notNullColumns _ => .notNullColumns
  | .composites _ => .composites
  | .isLazy _ => .isLazy

/-- A field with the value that the entry has there. -/
def assignment (e : Entry) : Field → Assignment
  | .property => .property e.property
  | .column => .column e.column
  | .targetType => .targetType e.targetType
  | .flags => .flags e.flags
  | .nestedResultMap => .nestedResultMap e.nestedResultMap
  | .nestedQuery => .nestedQuery e.nestedQuery
  | .resultSet => .resultSet e.resultSet
  | .foreignColumn => .foreignColumn e.foreignColumn
  | .columnPrefix => .columnPrefix e.columnPrefix
  | .notNullColumns => .notNullColumns e.notNullColumns
  | .composites => .composites e.composites
  | .isLazy => .isLazy e.isLazy

@[simp] theorem field_assignment (e : Entry) (f : Field) : (e.assignment f).field = f := by
  cases f <;> rfl

theorem assign_comm {a b : Assignment} (h : a.field ≠ b.field) (e : Entry) :
    (e.assign a).assign b = (e.assign b).assign a := by
  cases a <;> cases b <;> first | rfl | exact absurd rfl h

/-- Assignments to different fields may be made in any order. -/
theorem ofAssignments_perm {as bs : List Assignment} (h : as.Perm bs)
    (hfields : (as.map Assignment.field).Nodup) : ofAssignments as = ofAssignments bs := by
  refine h.foldl_eq' (fun a ha b hb e => ?_) _
  by_cases hfield : a.field = b.field
  · rw [List.inj_on_of_nodup_map hfields ha hb hfield]
  · exact assign_comm hfield e

theorem assignment_assign_of_ne {a : Assignment} {f : Field} (h : a.field ≠ f) (e : Entry) :
    (e.assign a).assignment f = e.assignment f := by
  cases a <;> cases f <;> first | rfl | exact absurd rfl h

/-- A field to which nothing is assigned stays blank. -/
theorem assignment_ofAssignments {as : List Assignment} {f : Field}
    (h : f ∉ as.map Assignment.field) : (ofAssignments as).assignment f = assignment {} f := by
  refine List.foldlRecOn (motive := fun e => assignment e f = assignment {} f) as assign rfl
    fun e he a ha => ?_
  have hne : a.field ≠ f := fun hf => h (List.mem_map.2 ⟨a, ha, hf⟩)
  rw [assignment_assign_of_ne hne, he]

theorem ofAssignments_assignment (e : Entry) :
    ofAssignments (Field.all.map e.assignment) = e := by
  cases e
  rfl

/-! ## Members -/

/-- The value that a field is written as, given how to write the parts. -/
def written (part : Entry → Json) (e : Entry) : Field → Json
  | .property => .ofOption .string e.property
  | .column => .ofOption .string e.column
  | .targetType => .ofOption TargetType.toJson e.targetType
  | .flags => e.flags.toJson
  | .nestedResultMap => .ofOption .string e.nestedResultMap
  | .nestedQuery => .ofOption .string e.nestedQuery
  | .resultSet => .ofOption .string e.resultSet
  | .foreignColumn => .ofOption .string e.foreignColumn
  | .columnPrefix => .ofOption .string e.columnPrefix
  | .notNullColumns => .array (e.notNullColumns.map .string)
  | .composites => .array (e.composites.map part)
  | .isLazy => .bool e.isLazy

/-- The members that an entry is written as. -/
def members (part : Entry → Json) (e : Entry) : List (String × Json) :=
  Field.all.map fun f => (f.name, e.written part f)

theorem toJsonList_eq_map (es : List Entry) : toJsonList es = es.map toJson := by
  induction es with
  | nil => rfl
  | cons e rest ih => rw [toJsonList, ih, List.map_cons]

theorem toJson_eq (e : Entry) : e.toJson = .object (e.members toJson) := by
  cases e
  rw [toJson, toJsonList_eq_map]
  rfl

/-- The fields among the members of an object, with their values. -/
def fieldsOf (members : List (String × Json)) : List (Field × Json) :=
  members.filterMap fun (name, value) => (Field.named? name).map (·, value)

theorem fieldsOf_cons_of_none {name : String} (h : Field.named? name = none) (value : Json)
    (rest : List (String × Json)) : fieldsOf ((name, value) :: rest) = fieldsOf rest := by
  simp [fieldsOf, h]

theorem fieldsOf_cons_of_some {name : String} {f : Field} (h : Field.named? name = some f)
    (value : Json) (rest : List (String × Json)) :
    fieldsOf ((name, value) :: rest) = (f, value) :: fieldsOf rest := by
  simp [fieldsOf, h]

theorem fieldsOf_members (part : Entry → Json) (e : Entry) :
    fieldsOf (e.members part) = Field.all.map fun f => (f, e.written part f) := by
  simp [fieldsOf, members, List.filterMap_map, List.filterMap_eq_map']

theorem readMembers_eq_mapM {seen : List Field} {members : List (String × Json)}
    (hseen : ∀ x ∈ fieldsOf members, x.1 ∉ seen) (hfields : ((fieldsOf members).map (·.1)).Nodup) :
    readMembers seen members = (fieldsOf members).mapM fun x => readField x.1 x.2 := by
  induction members generalizing seen with
  | nil => rfl
  | cons m rest ih =>
    obtain ⟨name, value⟩ := m
    cases hname : Field.named? name with
    | none =>
      rw [fieldsOf_cons_of_none hname] at hseen hfields ⊢
      simp only [readMembers, hname]
      exact ih hseen hfields
    | some f =>
      rw [fieldsOf_cons_of_some hname] at hseen hfields ⊢
      obtain ⟨hnew, hrest⟩ := List.nodup_cons.1 hfields
      have hf : f ∉ seen := hseen (f, value) List.mem_cons_self
      have hseen' : ∀ x ∈ fieldsOf rest, x.1 ∉ f :: seen := by
        intro x hx hmem
        rcases List.mem_cons.1 hmem with heq | hmem
        · exact hnew (heq ▸ List.mem_map_of_mem (f := (·.1)) hx)
        · exact hseen x (List.mem_cons_of_mem _ hx) hmem
      simp only [readMembers, hname, if_neg hf, ih hseen' hrest, List.mapM_cons]

theorem ofJsonList_eq_mapM (items : List Json) : ofJsonList items = items.mapM ofJson := by
  induction items with
  | nil => rfl
  | cons item rest ih => rw [ofJsonList, ih, List.mapM_cons]

end ResultMapping.Entry

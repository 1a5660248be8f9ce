import ResultMapping.Proofs.Json.RoundTrip
import Mathlib.Data.List.Perm.Basic
import Mathlib.Logic.Relation

/-!
# The forms of an entry

An entry may be given as an object or as an array of its first fields in order, and so may each of
its composites. The members of an object may stand in any order and among other members. None of
this makes a difference to what is read.

* `Entry.ofJson_object_eq_ok_iff`: an object gives the values of its known members, each of which
  must stand there once; `Entry.ofJson_object_of_perm`: whatever their order is;
* `Entry.ofJson_array`: an array is read as the object that names its items;
* `Entry.Restates.ofJson_eq_ok_iff`: a value with itself, or a composite at any depth, in another
  form is read as the same entry;
* `Entry.ofJson_forms`: all this together, and what is refused in either form.
-/

namespace ResultMapping

/-! ## Readings of lists -/

theorem map_eq_ok_iff {α β : Type} {outcome : Except Refusal α} {f : α → β} {b : β} :
    f <$> outcome = .ok b ↔ ∃ a, outcome = .ok a ∧ f a = b := by
  refine ⟨exists_of_map_eq_ok, ?_⟩
  rintro ⟨a, rfl, rfl⟩
  rfl

theorem mapM_eq_ok_iff {α β : Type} {read : α → Except Refusal β} {as : List α} {bs : List β} :
    as.mapM read = .ok bs ↔ List.Forall₂ (fun a b => read a = .ok b) as bs := by
  induction as generalizing bs with
  | nil =>
    rw [List.forall₂_nil_left_iff, eq_comm]
    exact ⟨fun h => Except.ok.inj h, fun h => h ▸ rfl⟩
  | cons a rest ih =>
    rw [List.mapM_cons, List.forall₂_cons_left_iff]
    constructor
    · intro h
      obtain ⟨b, hb, h⟩ := exists_of_bind_eq_ok h
      obtain ⟨others, hothers, h⟩ := exists_of_bind_eq_ok h
      exact ⟨b, others, hb, ih.1 hothers, (Except.ok.inj h).symm⟩
    · rintro ⟨b, others, hb, hothers, rfl⟩
      rw [hb, ih.2 hothers]
      rfl

/-- One item may be replaced by another that is related to the same values. -/
theorem forall₂_replace_iff {α β : Type} {R : α → β → Prop} {a a' : α}
    (h : ∀ b, R a b ↔ R a' b) (before after : List α) (bs : List β) :
    List.Forall₂ R (before ++ a :: after) bs ↔ List.Forall₂ R (before ++ a' :: after) bs := by
  induction before generalizing bs with
  | nil => simp [List.forall₂_cons_left_iff, h]
  | cons x before ih => simp [List.forall₂_cons_left_iff, ih]

namespace Entry

variable {e : Entry} {f : Field} {value : Json} {a : Assignment}
  {members members' : List (String × Json)} {items : List Json}

/-! ## Known members -/

/-- The members whose names are those of fields. -/
def knownMembers (members : List (String × Json)) : List (String × Json) :=
  members.filter fun m => m.1 ∈ Field.all.map Field.name

/-- The members that give values to fields. -/
def named (values : List (Field × Json)) : List (String × Json) :=
  values.map fun x => (x.1.name, x.2)

theorem fieldsOf_named (values : List (Field × Json)) : fieldsOf (named values) = values := by
  simp [fieldsOf, named, List.filterMap_map]

theorem mem_names_of_named? {name : String} (h : Field.named? name = some f) :
    name ∈ Field.all.map Field.name ∧ f.name = name := by
  rw [Field.named?] at h
  have hname : f.name = name := by simpa using List.find?_some h
  exact ⟨List.mem_map.2 ⟨f, List.mem_of_find?_eq_some h, hname⟩, hname⟩

theorem not_mem_names_of_named? {name : String} (h : Field.named? name = none) :
    name ∉ Field.all.map Field.name := by
  rintro hmem
  obtain ⟨f, hf, hname⟩ := List.mem_map.1 hmem
  exact List.find?_eq_none.1 h f hf (beq_iff_eq.2 hname)

theorem named_fieldsOf (members : List (String × Json)) :
    named (fieldsOf members) = knownMembers members := by
  induction members with
  | nil => rfl
  | cons m rest ih =>
    obtain ⟨name, value⟩ := m
    cases h : Field.named? name with
    | none =>
      have hunknown := not_mem_names_of_named? h
      rw [fieldsOf_cons_of_none h, ih, knownMembers, knownMembers,
        List.filter_cons_of_neg (by simpa using hunknown)]
    | some f =>
      obtain ⟨hknown, rfl⟩ := mem_names_of_named? h
      rw [fieldsOf_cons_of_some h, knownMembers, List.filter_cons_of_pos (by simpa using hknown)]
      exact congrArg ((f.name, value) :: ·) ih

theorem nodup_names_iff :
    ((knownMembers members).map (·.1)).Nodup ↔ ((fieldsOf members).map (·.1)).Nodup := by
  have hnames : (knownMembers members).map (·.1)
      = ((fieldsOf members).map (·.1)).map Field.name := by
    rw [← named_fieldsOf, named, List.map_map, List.map_map]
    rfl
  rw [hnames, List.nodup_map_iff Field.name_injective]

/-! ## Objects -/

theorem nodup_of_readMembers {seen : List Field} {as : List Assignment}
    (h : readMembers seen members = .ok as) :
    ((fieldsOf members).map (·.1)).Nodup ∧ ∀ x ∈ fieldsOf members, x.1 ∉ seen := by
  induction members generalizing seen as with
  | nil => exact ⟨.nil, fun _ hx => (List.not_mem_nil hx).elim⟩
  | cons m rest ih =>
    obtain ⟨name, value⟩ := m
    cases hname : Field.named? name with
    | none =>
      simp only [readMembers, hname] at h
      rw [fieldsOf_cons_of_none hname]
      exact ih h
    | some f =>
      simp only [readMembers, hname] at h
      split at h
      · contradiction
      · rename_i hf
        obtain ⟨_, -, h⟩ := exists_of_bind_eq_ok h
        obtain ⟨_, hrest, -⟩ := exists_of_bind_eq_ok h
        obtain ⟨hnodup, hseen⟩ := ih hrest
        have hnew : f ∉ (fieldsOf rest).map (·.1) := fun hmem => by
          obtain ⟨x, hx, rfl⟩ := List.mem_map.1 hmem
          exact hseen x hx List.mem_cons_self
        rw [fieldsOf_cons_of_some hname, List.map_cons]
        exact ⟨List.nodup_cons.2 ⟨hnew, hnodup⟩, List.forall_mem_cons.2
          ⟨hf, fun x hx hmem => hseen x hx (List.mem_cons_of_mem _ hmem)⟩⟩

/-- The values of fields are read as these assignments. -/
def ReadAs (values : List (Field × Json)) (as : List Assignment) : Prop :=
  List.Forall₂ (fun x a => readField x.1 x.2 = .ok a) values as

theorem ofJson_object_eq_ok_iff :
    ofJson (.object members) = .ok e ↔ ((fieldsOf members).map (·.1)).Nodup ∧
      ∃ as, ReadAs (fieldsOf members) as ∧ ofAssignments as = e := by
  have hread (hfields : ((fieldsOf members).map (·.1)).Nodup) (as : List Assignment) :
      readMembers [] members = .ok as ↔ ReadAs (fieldsOf members) as := by
    rw [readMembers_eq_mapM (fun _ _ => List.not_mem_nil) hfields, mapM_eq_ok_iff, ReadAs]
  rw [ofJson, map_eq_ok_iff]
  constructor
  · rintro ⟨as, has, he⟩
    obtain ⟨hfields, -⟩ := nodup_of_readMembers has
    exact ⟨hfields, as, (hread hfields as).1 has, he⟩
  · rintro ⟨hfields, as, has, he⟩
    exact ⟨as, (hread hfields as).2 has, he⟩

theorem field_of_readPlain (h : readPlain f value = .ok a) : a.field = f := by
  cases f with
  | composites => contradiction
  | _ =>
    obtain ⟨_, -, rfl⟩ := exists_of_map_eq_ok h
    rfl

theorem field_of_readField (h : readField f value = .ok a) : a.field = f := by
  by_cases hf : f = .composites
  · subst hf
    cases value with
    | array items =>
      rw [readField] at h
      obtain ⟨_, -, rfl⟩ := exists_of_map_eq_ok h
      rfl
    | _ =>
      rw [readField] at h
      · contradiction
      · simp
  · rw [readField_of_ne hf] at h
    exact field_of_readPlain h

theorem ReadAs.map_field {values : List (Field × Json)} {as : List Assignment}
    (h : ReadAs values as) : as.map Assignment.field = values.map (·.1) := by
  induction h with
  | nil => rfl
  | cons hread _ ih => rw [List.map_cons, List.map_cons, ih, field_of_readField hread]

/-- The order of the members makes no difference, nor do members with other names. -/
theorem ofJson_object_of_perm (h : (knownMembers members').Perm (knownMembers members))
    (hread : ofJson (.object members) = .ok e) : ofJson (.object members') = .ok e := by
  obtain ⟨hnodup, as, has, rfl⟩ := ofJson_object_eq_ok_iff.1 hread
  have hfields : (fieldsOf members').Perm (fieldsOf members) := by
    rw [← fieldsOf_named (fieldsOf members), ← fieldsOf_named (fieldsOf members'), named_fieldsOf,
      named_fieldsOf]
    exact h.filterMap _
  have hnodup' : ((fieldsOf members').map (·.1)).Nodup := (hfields.map _).nodup_iff.2 hnodup
  obtain ⟨as', has' : ReadAs _ as', hperm⟩ := List.perm_comp_forall₂ hfields has
  have hassign : (as'.map Assignment.field).Nodup := has'.map_field ▸ hnodup'
  exact ofJson_object_eq_ok_iff.2 ⟨hnodup', as', has', ofAssignments_perm hperm hassign⟩

/-! ## Arrays -/

theorem readItems_eq_mapM {fields : List Field} (h : items.length ≤ fields.length) :
    readItems fields items = (fields.zip items).mapM fun x => readField x.1 x.2 := by
  induction fields generalizing items with
  | nil =>
    rw [List.eq_nil_of_length_eq_zero (Nat.le_zero.1 h)]
    rfl
  | cons f fields ih =>
    cases items with
    | nil => rfl
    | cons value rest =>
      have hrest : rest.length ≤ fields.length := Nat.le_of_succ_le_succ h
      rw [readItems, ih hrest, List.zip_cons_cons, List.mapM_cons]

theorem map_fst_zip_all (h : items.length ≤ Field.all.length) :
    (Field.all.zip items).map (·.1) = Field.all.take items.length := by
  rw [List.zip_eq_zip_take_min, Nat.min_eq_right h, List.take_length]
  exact List.map_fst_zip (by simp)

/-- An array is read as the object that names its items. -/
theorem ofJson_array (h : items.length ≤ Field.all.length) :
    ofJson (.array items) = ofJson (.object (named (Field.all.zip items))) := by
  have hnodup : ((fieldsOf (named (Field.all.zip items))).map (·.1)).Nodup := by
    rw [fieldsOf_named, map_fst_zip_all h]
    exact (List.take_sublist _ _).nodup Field.nodup_all
  rw [ofJson, ofJson, readItems_eq_mapM h, readMembers_eq_mapM (fun _ _ => List.not_mem_nil) hnodup,
    fieldsOf_named]

/-- The fields after those that an array has items for stay blank. -/
theorem assignment_of_ofJson_array (h : items.length ≤ Field.all.length)
    (hread : ofJson (.array items) = .ok e) (hf : f ∈ Field.all.drop items.length) :
    e.assignment f = assignment {} f := by
  rw [ofJson_array h, ofJson_object_eq_ok_iff, fieldsOf_named] at hread
  obtain ⟨-, as, has, rfl⟩ := hread
  refine assignment_ofAssignments ?_
  rw [has.map_field, map_fst_zip_all h]
  exact fun htake => List.disjoint_take_drop Field.nodup_all le_rfl htake hf

theorem exists_refusal_of_length_lt (fields : List Field) (h : fields.length < items.length) :
    ∃ refusal, readItems fields items = .error refusal := by
  induction fields generalizing items with
  | nil =>
    obtain ⟨value, rest, rfl⟩ := List.exists_cons_of_length_pos h
    exact ⟨.tooLong, rfl⟩
  | cons f fields ih =>
    obtain ⟨value, rest, rfl⟩ := List.exists_cons_of_length_pos (Nat.zero_lt_of_lt h)
    obtain ⟨refusal, hrest⟩ := ih (Nat.lt_of_succ_lt_succ h)
    rw [readItems, hrest]
    cases readField f value with
    | error refusal => exact ⟨refusal, rfl⟩
    | ok => exact ⟨refusal, rfl⟩

/-! ## Other forms -/

/-- The second value is the first with one entry in another form, which is the value itself or one
of its composites at some depth. -/
inductive Restates : Json → Json → Prop
  | array {items : List Json} (h : items.length ≤ 12) :
      Restates (.array items) (.object (named (Field.all.zip items)))
  | object {members members' : List (String × Json)}
      (h : (knownMembers members').Perm (knownMembers members)) :
      Restates (.object members) (.object members')
  | composite {part part' : Json} (before after : List (String × Json)) (earlier later : List Json)
      (h : Restates part part') :
      Restates (.object (before ++ ("composites", .array (earlier ++ part :: later)) :: after))
        (.object (before ++ ("composites", .array (earlier ++ part' :: later)) :: after))

theorem readField_composites_iff {part part' : Json}
    (h : ∀ c, ofJson part = .ok c ↔ ofJson part' = .ok c) (earlier later : List Json)
    (a : Assignment) :
    readField .composites (.array (earlier ++ part :: later)) = .ok a ↔
      readField .composites (.array (earlier ++ part' :: later)) = .ok a := by
  have hparts (cs : List Entry) : ofJsonList (earlier ++ part :: later) = .ok cs ↔
      ofJsonList (earlier ++ part' :: later) = .ok cs := by
    rw [ofJsonList_eq_mapM, ofJsonList_eq_mapM, mapM_eq_ok_iff, mapM_eq_ok_iff]
    exact forall₂_replace_iff h earlier later cs
  simp only [readField, map_eq_ok_iff, hparts]

theorem Restates.ofJson_eq_ok_iff {v w : Json} (h : Restates v w) (e : Entry) :
    ofJson v = .ok e ↔ ofJson w = .ok e := by
  induction h generalizing e with
  | array h => rw [ofJson_array h]
  | object h => exact ⟨ofJson_object_of_perm h, ofJson_object_of_perm h.symm⟩
  | composite before after earlier later _ ih =>
    have hfields (value : Json) : fieldsOf (before ++ ("composites", value) :: after)
        = fieldsOf before ++ (.composites, value) :: fieldsOf after := by
      rw [fieldsOf, List.filterMap_append]
      rfl
    have hread (as : List Assignment) :
        ReadAs (fieldsOf before ++ (.composites, _) :: fieldsOf after) as ↔
          ReadAs (fieldsOf before ++ (.composites, _) :: fieldsOf after) as :=
      forall₂_replace_iff (readField_composites_iff ih earlier later) _ _ as
    simp only [ofJson_object_eq_ok_iff, hfields, List.map_append, List.map_cons, hread]

/-! ## All forms -/

/-- An array of at most twelve items is read as the object that gives them to the first fields, and
leaves the other fields blank; a longer one is refused. An object is read by its known members
alone, in any order, and refused if one of them is repeated. So are the composites of an entry,
whatever their form is at whatever depth. -/
theorem ofJson_forms :
    (∀ items : List Json, items.length ≤ 12 →
      (∀ e, ofJson (.array items) = .ok e ↔
        ofJson (.object (named (Field.all.zip items))) = .ok e) ∧
      (∀ e, ofJson (.array items) = .ok e →
        ∀ f ∈ Field.all.drop items.length, e.assignment f = assignment {} f)) ∧
    (∀ items : List Json, 12 < items.length → ∃ refusal, ofJson (.array items) = .error refusal) ∧
    (∀ members members' : List (String × Json),
      (knownMembers members').Perm (knownMembers members) →
      ∀ e, ofJson (.object members) = .ok e ↔ ofJson (.object members') = .ok e) ∧
    (∀ members : List (String × Json), ¬((knownMembers members).map (·.1)).Nodup →
      ∃ refusal, ofJson (.object members) = .error refusal) ∧
    (∀ v w : Json, Relation.EqvGen Restates v w → ∀ e, ofJson v = .ok e ↔ ofJson w = .ok e) := by
  refine ⟨fun items h => ⟨fun e => ?_, fun e hread f => assignment_of_ofJson_array h hread⟩,
    fun items h => ?_, fun members members' h e => ?_, fun members h => ?_, fun v w h => ?_⟩
  · rw [ofJson_array h]
  · obtain ⟨refusal, hrefusal⟩ := exists_refusal_of_length_lt Field.all h
    exact ⟨refusal, by rw [ofJson, hrefusal]; rfl⟩
  · exact ⟨ofJson_object_of_perm h, ofJson_object_of_perm h.symm⟩
  · cases hread : ofJson (.object members) with
    | error refusal => exact ⟨refusal, rfl⟩
    | ok e => exact absurd (nodup_names_iff.2 (ofJson_object_eq_ok_iff.1 hread).1) h
  · induction h with
    | rel v w h => exact h.ofJson_eq_ok_iff
    | refl v => exact fun e => .rfl
    | symm v w _ ih => exact fun e => (ih e).symm
    | trans u v w _ _ ih ih' => exact fun e => (ih e).trans (ih' e)

/-- A key of one column, which is given by the value. -/
def keyOf (tenant : Json) : Json := .object [("composites", .array [tenant])]

/-- The values of all fields of the tenant's column, which is flagged as an id. -/
def tenantItems : List Json :=
  [.string "tenant", .string "tenant_id", .null, .integer 1, .null, .null, .null, .null, .null,
    .array [], .array [], .bool false]

/-- The tenant's column with its flag by position, and by name among other members. With one item
more it is refused, and so is a property that is given twice. -/
theorem tenant_key_in_two_forms :
    let byPosition := keyOf (.array (tenantItems.take 4))
    let byName := keyOf (.object [("flags", .integer 1), ("target_type", .null), ("comment", .null),
      ("column", .string "tenant_id"), ("property", .string "tenant")])
    let tenant : Entry := { Entry.composite "tenant" "tenant_id" with flags := .id }
    Relation.EqvGen Restates byPosition byName ∧
      ofJson byPosition = .ok { composites := [tenant] } ∧
      ofJson byName = .ok { composites := [tenant] } ∧
      ofJson (.array tenantItems) = .ok tenant ∧
      ofJson (.object (named (Field.all.zip tenantItems))) = .ok tenant ∧
      (∃ refusal, ofJson (.array (tenantItems ++ [.null])) = .error refusal) ∧
      ∃ refusal, ofJson (.object [("property", .string "tenant"), ("comment", .null),
        ("property", .string "tenant")]) = .error refusal := by
  intro byPosition byName tenant
  let inOrder : List (String × Json) := named (Field.all.zip (tenantItems.take 4))
  have hnamed : Restates byPosition (keyOf (.object inOrder)) :=
    .composite [] [] [] [] (.array (by decide))
  have hreordered : Restates (keyOf (.object inOrder)) byName :=
    .composite [] [] [] [] (.object (List.reverse_perm inOrder))
  have hforms : Relation.EqvGen Restates byPosition byName :=
    .trans _ _ _ (.rel _ _ hnamed) (.rel _ _ hreordered)
  have hread : ofJson byPosition = .ok { composites := [tenant] } := rfl
  have hall : ofJson (.array tenantItems) = .ok tenant := rfl
  obtain ⟨harray, hlong, -, hrepeated, hsame⟩ := ofJson_forms
  exact ⟨hforms, hread, (hsame _ _ hforms _).1 hread, hall,
    ((harray tenantItems (by decide)).1 tenant).1 hall, hlong _ (by decide),
    hrepeated _ (by decide)⟩

end Entry

end ResultMapping

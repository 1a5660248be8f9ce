import ResultMapping.Proofs.Registry.Acceptance
import Mathlib.Data.List.Induction

/-!
# Groups of descriptors that do not name each other

Every registration looks at all registered descriptors and may change any of them. Those of one
group are nevertheless registered as if the other group was not there, in whatever order the two are
mixed, provided that no id is in both and no descriptor has a case in the other group.

* `restrict_register_of_mem`, `restrict_register_of_not_mem`: what one registration does to the
  part of a registry that belongs to a group;
* `restrict_registerAll`: so the part that belongs to a group is the registry of the group alone;
* `attempts_of_sameTaken`: of the attempts to register, the same ones fail;
* `registerAll_interleaved`: both for two groups mixed in any order.
-/

namespace ResultMapping

/-- The third list has the members of the other two, those of each in their order. -/
inductive Interleaved {α : Type} : List α → List α → List α → Prop
  | nil : Interleaved [] [] []
  | left {xs ys zs : List α} (x : α) : Interleaved xs ys zs → Interleaved (x :: xs) ys (x :: zs)
  | right {xs ys zs : List α} (y : α) : Interleaved xs ys zs → Interleaved xs (y :: ys) (y :: zs)

namespace Interleaved

variable {α : Type} {xs ys zs : List α}

theorem symm (h : Interleaved xs ys zs) : Interleaved ys xs zs := by
  induction h with
  | nil => exact .nil
  | left x _ ih => exact .right x ih
  | right y _ ih => exact .left y ih

theorem mem_iff (h : Interleaved xs ys zs) {a : α} : a ∈ zs ↔ a ∈ xs ∨ a ∈ ys := by
  induction h with
  | nil => simp
  | left x _ ih => rw [List.mem_cons, List.mem_cons, ih, or_assoc]
  | right y _ ih => rw [List.mem_cons, List.mem_cons, ih, or_left_comm]

/-- The members of one list are found again by a test that those of the other do not pass. -/
theorem filter_eq_left (h : Interleaved xs ys zs) {p : α → Bool} (hxs : ∀ x ∈ xs, p x = true)
    (hys : ∀ y ∈ ys, p y = false) : zs.filter p = xs := by
  induction h with
  | nil => rfl
  | left x _ ih =>
    obtain ⟨hx, hxs⟩ := List.forall_mem_cons.1 hxs
    rw [List.filter_cons_of_pos hx, ih hxs hys]
  | right y _ ih =>
    obtain ⟨hy, hys⟩ := List.forall_mem_cons.1 hys
    rw [List.filter_cons_of_neg (by simp [hy]), ih hxs hys]

end Interleaved

namespace Registry

variable {r : Registry} {d : Descriptor} {ds xs ys zs : List Descriptor} {group : String → Bool}

/-! ## Parts of a registry -/

/-- The part of a registry whose ids belong to a group. -/
def restrict (r : Registry) (group : String → Bool) : Registry where
  descriptors := r.descriptors.filter (group ·.id)
  distinct := r.distinct.sublist (List.filter_sublist.map _)

@[simp] theorem descriptors_restrict (r : Registry) (group : String → Bool) :
    (r.restrict group).descriptors = r.descriptors.filter (group ·.id) := rfl

theorem ext_descriptors {r s : Registry} (h : r.descriptors = s.descriptors) : r = s := by
  cases r; cases s; cases h; rfl

theorem mem_ids_restrict {id : String} :
    id ∈ (r.restrict group).ids ↔ id ∈ r.ids ∧ group id = true := by
  simp only [ids, descriptors_restrict, List.mem_map, List.mem_filter]
  constructor
  · rintro ⟨d, ⟨hd, hgroup⟩, rfl⟩
    exact ⟨⟨d, hd, rfl⟩, hgroup⟩
  · rintro ⟨⟨d, hd, rfl⟩, hgroup⟩
    exact ⟨d, ⟨hd, hgroup⟩, rfl⟩

theorem get?_restrict {id : String} (h : group id = true) :
    (r.restrict group).get? id = r.get? id := by
  ext d
  rw [get?_eq_some_iff, get?_eq_some_iff, descriptors_restrict, List.mem_filter]
  constructor
  · rintro ⟨⟨hd, -⟩, hid⟩
    exact ⟨hd, hid⟩
  · rintro ⟨hd, rfl⟩
    exact ⟨⟨hd, h⟩, rfl⟩

/-! ## One registration -/

/-- No descriptor of a registry and a further descriptor of another group name each other. -/
structure Apart (group : String → Bool) (r : Registry) (d : Descriptor) : Prop where
  of_new : ∀ e ∈ r.descriptors, e.id ∈ d.caseIds → group e.id = group d.id
  of_old : ∀ e ∈ r.descriptors, d.id ∈ e.caseIds → group d.id = group e.id

theorem Apart.isNested_restrict (h : Apart group r d) (hgroup : group d.id = true) {id : String}
    (hid : id ∈ d.caseIds) : (r.restrict group).isNested id = r.isNested id := by
  rw [Bool.eq_iff_iff, isNested_iff, isNested_iff]
  constructor
  · rintro ⟨e, he, hnested⟩
    exact ⟨e, (List.mem_filter.1 he).1, hnested⟩
  · rintro ⟨e, he, rfl, hnested⟩
    have hsame : group e.id = true := (h.of_new e he hid).trans hgroup
    exact ⟨e, List.mem_filter.2 ⟨he, hsame⟩, rfl, hnested⟩

/-- Whether a descriptor joins nested is decided within its group. -/
theorem Apart.joinsNested_restrict (h : Apart group r d) (hgroup : group d.id = true) :
    (r.restrict group).joinsNested d = r.joinsNested d := by
  have hcases : d.caseIds.any (r.restrict group).isNested = d.caseIds.any r.isNested := by
    rw [Bool.eq_iff_iff, List.any_eq_true, List.any_eq_true]
    exact exists_congr fun id => and_congr_right fun hid => by rw [h.isNested_restrict hgroup hid]
  rw [joinsNested, joinsNested, hcases]

/-- Registering a descriptor of the group. -/
theorem restrict_register_of_mem (h : Apart group r d) (hgroup : group d.id = true) :
    (r.register d).restrict group = (r.restrict group).register d := by
  by_cases hd : d.id ∈ r.ids
  · rw [register_of_mem hd, register_of_mem (mem_ids_restrict.2 ⟨hd, hgroup⟩)]
  · have hd' : d.id ∉ (r.restrict group).ids := fun hmem => hd (mem_ids_restrict.1 hmem).1
    have hown : [d.withNested (r.joinsNested d)].filter (group ·.id)
        = [d.withNested (r.joinsNested d)] := List.filter_cons_of_pos hgroup
    apply ext_descriptors
    rw [descriptors_register hd', h.joinsNested_restrict hgroup, descriptors_restrict,
      descriptors_register hd, List.filter_append, List.filter_map, hown]
    rfl

/-- Registering a descriptor of another group. -/
theorem restrict_register_of_not_mem (h : Apart group r d) (hgroup : group d.id = false) :
    (r.register d).restrict group = r.restrict group := by
  by_cases hd : d.id ∈ r.ids
  · rw [register_of_mem hd]
  · have hkept : ∀ e ∈ r.descriptors.filter (group ·.id),
        e.withNested (e.hasNestedResultMaps || (r.joinsNested d && e.caseIds.contains d.id))
          = e := by
      intro e he
      obtain ⟨he, he'⟩ := List.mem_filter.1 he
      have hcase : e.caseIds.contains d.id = false := by
        rw [Bool.eq_false_iff, ne_eq, List.contains_iff_mem]
        intro hid
        rw [h.of_old e he hid, he'] at hgroup
        cases hgroup
      rw [hcase, Bool.and_false, Bool.or_false, e.withNested_self]
    have hforeign : [d.withNested (r.joinsNested d)].filter (group ·.id) = [] :=
      List.filter_cons_of_neg (by simp [hgroup])
    apply ext_descriptors
    rw [descriptors_restrict, descriptors_register hd, List.filter_append, List.filter_map,
      hforeign, List.append_nil]
    exact (List.map_congr_left hkept).trans (List.map_id' _)

/-! ## Runs -/

/-- No descriptor of the list has a case in it that belongs to another group. -/
def Separates (group : String → Bool) (ds : List Descriptor) : Prop :=
  ∀ d ∈ ds, ∀ e ∈ ds, e.id ∈ d.caseIds → group e.id = group d.id

theorem Separates.of_concat (h : Separates group (ds ++ [d])) : Separates group ds :=
  fun e he f hf => h e (List.mem_append_left _ he) f (List.mem_append_left _ hf)

theorem Separates.apart (h : Separates group (ds ++ [d])) :
    Apart group (empty.registerAll ds) d where
  of_new e he := by
    obtain ⟨came, hcame, b, rfl⟩ := exists_of_mem_registerAll he
    exact h d (by simp) came (List.mem_append_left _ hcame)
  of_old e he := by
    obtain ⟨came, hcame, b, rfl⟩ := exists_of_mem_registerAll he
    exact h came (List.mem_append_left _ hcame) d (by simp)

/-- The part of a registry that belongs to a group is the registry of the group alone. -/
theorem restrict_registerAll (h : Separates group ds) :
    (empty.registerAll ds).restrict group = empty.registerAll (ds.filter (group ·.id)) := by
  induction ds using List.reverseRecOn with
  | nil => rfl
  | append_singleton ds d ih =>
    rw [registerAll_concat, List.filter_append]
    cases hgroup : group d.id with
    | true =>
      have hown : [d].filter (group ·.id) = [d] := List.filter_cons_of_pos hgroup
      rw [restrict_register_of_mem h.apart hgroup, ih h.of_concat, hown, registerAll_concat]
    | false =>
      have hforeign : [d].filter (group ·.id) = [] := List.filter_cons_of_neg (by simp [hgroup])
      rw [restrict_register_of_not_mem h.apart hgroup, ih h.of_concat, hforeign, List.append_nil]

/-! ## Attempts -/

/-- What becomes of an attempt to register a descriptor. -/
def attempt (r : Registry) (d : Descriptor) : Except MappingError Unit := (r.add d).map fun _ => ()

/-- Attempts to register some descriptors one after the other, each with what becomes of it. -/
def attempts (r : Registry) : List Descriptor → List (Descriptor × Except MappingError Unit)
  | [] => []
  | d :: ds => (d, r.attempt d) :: attempts (r.register d) ds

theorem attempt_eq (r : Registry) (d : Descriptor) :
    r.attempt d = if d.id ∈ r.ids then .error (.duplicateDescriptor d.id) else .ok () := by
  split
  · rename_i h
    rw [attempt, add_of_mem h]
    rfl
  · rename_i h
    obtain ⟨events, hadd⟩ := add_of_not_mem h
    rw [attempt, hadd]
    rfl

/-- Two registries in which the same of some descriptors have their ids taken. -/
def SameTaken (r s : Registry) (ds : List Descriptor) : Prop :=
  ∀ d ∈ ds, d.id ∈ r.ids ↔ d.id ∈ s.ids

theorem SameTaken.attempt_eq {s : Registry} (h : SameTaken r s (d :: ds)) :
    r.attempt d = s.attempt d := by
  simp only [Registry.attempt_eq, h d List.mem_cons_self]

theorem SameTaken.register {s : Registry} (h : SameTaken r s (d :: ds)) :
    SameTaken (r.register d) (s.register d) ds := by
  intro e he
  rw [mem_ids_register, mem_ids_register, h e (List.mem_cons_of_mem _ he)]

/-- A descriptor of none of the ids makes no difference. -/
theorem SameTaken.register_left {s : Registry} (h : SameTaken r s ds) (hd : ∀ e ∈ ds, e.id ≠ d.id) :
    SameTaken (r.register d) s ds := by
  intro e he
  rw [mem_ids_register, or_iff_left (hd e he), h e he]

/-- Mixed lists of descriptors without common ids fare as each of them alone. -/
theorem attempts_of_sameTaken {r s t : Registry} (hmix : Interleaved xs ys zs)
    (hids : ∀ x ∈ xs, ∀ y ∈ ys, x.id ≠ y.id) (hxs : SameTaken t r xs) (hys : SameTaken t s ys) :
    Interleaved (r.attempts xs) (s.attempts ys) (t.attempts zs) := by
  induction hmix generalizing r s t with
  | nil => exact .nil
  | left x _ ih =>
    obtain ⟨hx, hids⟩ := List.forall_mem_cons.1 hids
    rw [attempts, attempts, hxs.attempt_eq]
    exact .left _ (ih hids hxs.register (hys.register_left fun y hy => (hx y hy).symm))
  | @right xs ys zs y _ ih =>
    have hy : ∀ x ∈ xs, x.id ≠ y.id := fun x hx => hids x hx y List.mem_cons_self
    rw [attempts, attempts, hys.attempt_eq]
    exact .right _ (ih (fun x hx y hy => hids x hx y (List.mem_cons_of_mem _ hy))
      (hxs.register_left hy) hys.register)

/-! ## Two groups -/

/-- Two lists of descriptors without common ids, none of which has a case in the other list. -/
def Unrelated (xs ys : List Descriptor) : Prop :=
  ∀ x ∈ xs, ∀ y ∈ ys, x.id ≠ y.id ∧ y.id ∉ x.caseIds ∧ x.id ∉ y.caseIds

instance (xs ys : List Descriptor) : Decidable (Unrelated xs ys) :=
  inferInstanceAs (Decidable (∀ x ∈ xs, ∀ y ∈ ys, _ ∧ _ ∧ _))

theorem Unrelated.symm (h : Unrelated xs ys) : Unrelated ys xs := fun y hy x hx =>
  let ⟨hids, hx', hy'⟩ := h x hx y hy
  ⟨hids.symm, hy', hx'⟩

/-- The ids of some descriptors as a group. -/
def groupOf (ds : List Descriptor) (id : String) : Bool := (ds.map (·.id)).contains id

theorem groupOf_eq_true_iff {id : String} : groupOf ds id = true ↔ id ∈ ds.map (·.id) :=
  List.contains_iff_mem

theorem groupOf_of_mem (h : d ∈ ds) : groupOf ds d.id = true :=
  groupOf_eq_true_iff.2 (List.mem_map_of_mem h)

theorem Unrelated.groupOf_eq_false (h : Unrelated xs ys) (hd : d ∈ ys) :
    groupOf xs d.id = false := by
  rw [Bool.eq_false_iff, ne_eq, groupOf_eq_true_iff, List.mem_map]
  rintro ⟨x, hx, hid⟩
  exact (h x hx d hd).1 hid

theorem Unrelated.separates (h : Unrelated xs ys) (hmix : Interleaved xs ys zs) :
    Separates (groupOf xs) zs := by
  intro d hd e he hid
  rcases hmix.mem_iff.1 hd with hd | hd <;> rcases hmix.mem_iff.1 he with he | he
  · rw [groupOf_of_mem hd, groupOf_of_mem he]
  · exact absurd hid (h d hd e he).2.1
  · exact absurd hid (h e he d hd).2.2
  · rw [h.groupOf_eq_false hd, h.groupOf_eq_false he]

theorem Unrelated.restrict_registerAll (h : Unrelated xs ys) (hmix : Interleaved xs ys zs) :
    (empty.registerAll zs).restrict (groupOf xs) = empty.registerAll xs := by
  rw [Registry.restrict_registerAll (h.separates hmix),
    hmix.filter_eq_left (fun _ => groupOf_of_mem) fun _ => h.groupOf_eq_false]

/-- Two lists of descriptors that have nothing to do with each other can be mixed in any order: of
the attempts to register them the same fail, for the same reason, as if each list was registered
alone, and the part of the registry with the ids of a list is the registry of that list. -/
theorem registerAll_interleaved (h : Unrelated xs ys) (hmix : Interleaved xs ys zs) :
    Interleaved (empty.attempts xs) (empty.attempts ys) (empty.attempts zs) ∧
    (empty.registerAll zs).restrict (groupOf xs) = empty.registerAll xs ∧
    (empty.registerAll zs).restrict (groupOf ys) = empty.registerAll ys ∧
    (∀ id ∈ xs.map (·.id), (empty.registerAll zs).get? id = (empty.registerAll xs).get? id) ∧
    (∀ id ∈ ys.map (·.id), (empty.registerAll zs).get? id = (empty.registerAll ys).get? id) := by
  have hxs := h.restrict_registerAll hmix
  have hys := h.symm.restrict_registerAll hmix.symm
  refine ⟨?_, hxs, hys, fun id hid => ?_, fun id hid => ?_⟩
  · exact attempts_of_sameTaken hmix (fun x hx y hy => (h x hx y hy).1) (fun _ _ => Iff.rfl)
      fun _ _ => Iff.rfl
  · rw [← hxs, get?_restrict (groupOf_eq_true_iff.2 hid)]
  · rw [← hys, get?_restrict (groupOf_eq_true_iff.2 hid)]

namespace Vehicles

def boat : Descriptor := bare "boat" ["yacht"]

def yacht : Descriptor := (bare "yacht" []).withNested true

end Vehicles

open Vehicles

/-- Boats registered in between do not help the vehicle, which is not nested for its own group's
sake; the boat is nested, and a second one is rejected, as if there were no vehicles. -/
theorem vehicles_among_boats :
    Unrelated [vehicle, car, sportsCar] [boat, yacht, boat] ∧
    Interleaved [vehicle, car, sportsCar] [boat, yacht, boat]
      [vehicle, boat, car, yacht, boat, sportsCar] ∧
    (empty.attempts [boat, yacht, boat]).map (·.2)
      = [.ok (), .ok (), .error (.duplicateDescriptor "boat")] ∧
    Interleaved (empty.attempts [vehicle, car, sportsCar]) (empty.attempts [boat, yacht, boat])
      (empty.attempts [vehicle, boat, car, yacht, boat, sportsCar]) ∧
    (empty.registerAll [vehicle, boat, car, yacht, boat, sportsCar]).restrict
      (groupOf [boat, yacht, boat]) = empty.registerAll [boat, yacht, boat] ∧
    (empty.registerAll [vehicle, boat, car, yacht, boat, sportsCar]).get? "vehicle"
      = some (vehicle.withNested false) ∧
    (empty.registerAll [vehicle, boat, car, yacht, boat, sportsCar]).get? "boat"
      = some (boat.withNested true) := by
  have hmix : Interleaved [vehicle, car, sportsCar] [boat, yacht, boat]
      [vehicle, boat, car, yacht, boat, sportsCar] :=
    .left _ (.right _ (.left _ (.right _ (.right _ (.left _ .nil)))))
  have hnone : Unrelated [vehicle, car, sportsCar] [boat, yacht, boat] := by decide
  obtain ⟨hattempts, -, hboats, hvehicle, hboat⟩ := registerAll_interleaved hnone hmix
  refine ⟨hnone, hmix, rfl, hattempts, hboats, ?_, ?_⟩
  · rw [hvehicle "vehicle" (by decide)]
    rfl
  · rw [hboat "boat" (by decide)]
    rfl

end Registry

end ResultMapping

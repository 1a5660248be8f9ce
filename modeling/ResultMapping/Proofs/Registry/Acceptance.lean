import ResultMapping.Proofs.Registry.Nesting
import Mathlib.Data.List.Dedup

/-!
# What a registry accepts and keeps

Of the descriptors with one id the first is accepted, and what is found under the id from then on is
that descriptor, whose flag for nested result maps may have been raised. A rejected descriptor
changes nothing, not even where a registry is changed in place.

* `run_addInPlace`: registration in place, which writes nothing before it fails;
* `raised_register`, `raised_registerAll`: what is found stays but for raised flags;
* `exists_raised_of_find?`: the first descriptor of an id is the one that is found;
* `size_freeze`, `require_freeze_of_mem`, `require_freeze_of_not_mem`: freezing changes nothing of
  that;
* `registerAll_keeps_first`: all this of a whole run.
-/

namespace ResultMapping

/-- The second is the first, with the flag for nested result maps possibly raised. -/
structure Descriptor.RaisedTo (d e : Descriptor) : Prop where
  same : e = d.withNested e.hasNestedResultMaps
  nested : d.hasNestedResultMaps = true → e.hasNestedResultMaps = true

namespace Descriptor.RaisedTo

variable {d e f : Descriptor}

theorem refl (d : Descriptor) : d.RaisedTo d := ⟨rfl, fun hd => hd⟩

theorem trans (h : d.RaisedTo e) (h' : e.RaisedTo f) : d.RaisedTo f where
  same := by
    rw [h'.same, h.same]
    rfl
  nested hd := h'.nested (h.nested hd)

theorem withNested_or (d : Descriptor) (b : Bool) :
    d.RaisedTo (d.withNested (d.hasNestedResultMaps || b)) :=
  ⟨rfl, fun hd => by simp [hd]⟩

end Descriptor.RaisedTo

namespace Registry

variable {r : Registry} {d : Descriptor} {id : String}

/-! ## One registration -/

theorem add_of_mem (h : d.id ∈ r.ids) : r.add d = .error (.duplicateDescriptor d.id) := by
  simp [add, addScanning, contains_iff.2 h]

theorem add_of_not_mem (h : d.id ∉ r.ids) : ∃ events, r.add d = .ok (r.register d, events) := by
  simp [register, add, addScanning, contains_eq_false_iff.2 h]

/-! ## Registration in place

A registry can also be changed where it stands: the new descriptor is forced by its cases, then
forces those it is a case of, and is stored at last. What has been written before an error stays.
-/

abbrev Editing := ExceptT MappingError (StateM (List Descriptor))

/-- The new descriptor after a look back at its cases. -/
def lookBack (registered : List Descriptor) (d : Descriptor) : Descriptor :=
  let nestedCase := d.caseIds.any fun case =>
    registered.any fun e => e.id == case && e.hasNestedResultMaps
  if !d.hasNestedResultMaps && nestedCase then d.forceNestedResultMaps else d

def storeInPlace (d : Descriptor) : Editing Unit := do
  if d.hasNestedResultMaps then
    modify (forceOld Descriptor.caseIds d.id)
  modify (· ++ [d])

def addInPlace (d : Descriptor) : Editing Unit := do
  let registered ← get
  if registered.any (·.id == d.id) then throw (.duplicateDescriptor d.id)
  else storeInPlace (lookBack registered d)

theorem run_storeInPlace (registered : List Descriptor) (d : Descriptor) :
    (storeInPlace d).run registered
      = (.ok (), (if d.hasNestedResultMaps then forceOld Descriptor.caseIds d.id registered
          else registered) ++ [d]) := by
  rw [storeInPlace]
  by_cases h : d.hasNestedResultMaps = true
  · rw [if_pos h, if_pos h]
    rfl
  · rw [if_neg h, if_neg h]
    rfl

/-- In place a registration leaves what it makes of the registry, and an error leaves the registry
alone. -/
theorem run_addInPlace (r : Registry) (d : Descriptor) :
    (addInPlace d).run r.descriptors =
      match r.add d with
      | .ok (after, _) => (.ok (), after.descriptors)
      | .error e => (.error e, r.descriptors) := by
  have hrun : (addInPlace d).run r.descriptors
      = (if r.contains d.id then throw (.duplicateDescriptor d.id)
          else storeInPlace (r.receive Descriptor.caseIds d) : Editing Unit).run r.descriptors :=
    rfl
  rw [hrun]
  by_cases h : r.contains d.id = true
  · rw [if_pos h, add_of_mem (contains_iff.1 h)]
    rfl
  · have hadd : r.add d = .ok (⟨r.descriptorsAfter Descriptor.caseIds d, _⟩,
        r.eventsOf Descriptor.caseIds d) := dif_neg h
    rw [if_neg h, hadd, run_storeInPlace, id_receive]
    rfl

/-! ## What is kept -/

theorem raised_register (r : Registry) (d' : Descriptor) (h : r.get? id = some d) :
    ∃ e, (r.register d').get? id = some e ∧ d.RaisedTo e := by
  by_cases hd' : d'.id ∈ r.ids
  · rw [register_of_mem hd']
    exact ⟨d, h, .refl d⟩
  · obtain ⟨hmem, hid⟩ := get?_eq_some_iff.1 h
    refine ⟨d.withNested (d.hasNestedResultMaps || (r.joinsNested d' && d.caseIds.contains d'.id)),
      get?_eq_some_iff.2 ⟨?_, hid⟩, .withNested_or d _⟩
    rw [descriptors_register hd']
    exact List.mem_append_left _ (List.mem_map.2 ⟨d, hmem, rfl⟩)

theorem raised_registerAll (r : Registry) (ds : List Descriptor) (h : r.get? id = some d) :
    ∃ e, (r.registerAll ds).get? id = some e ∧ d.RaisedTo e := by
  induction ds generalizing r d with
  | nil => exact ⟨d, h, .refl d⟩
  | cons d' ds ih =>
    obtain ⟨e, he, hde⟩ := raised_register r d' h
    obtain ⟨f, hf, hef⟩ := ih (r.register d') he
    exact ⟨f, hf, hde.trans hef⟩

theorem registerAll_append (r : Registry) (ds es : List Descriptor) :
    r.registerAll (ds ++ es) = (r.registerAll ds).registerAll es := List.foldl_append

theorem mem_ids_register : id ∈ (r.register d).ids ↔ id ∈ r.ids ∨ id = d.id := by
  by_cases h : d.id ∈ r.ids
  · rw [register_of_mem h, or_iff_left_of_imp]
    rintro rfl
    exact h
  · simp [ids_register h]

theorem mem_ids_registerAll (r : Registry) (ds : List Descriptor) :
    id ∈ (r.registerAll ds).ids ↔ id ∈ r.ids ∨ id ∈ ds.map (·.id) := by
  induction ds generalizing r with
  | nil => simp [registerAll]
  | cons d ds ih =>
    rw [show r.registerAll (d :: ds) = (r.register d).registerAll ds from rfl, ih,
      mem_ids_register, List.map_cons, List.mem_cons, or_assoc]

theorem mem_ids_registerAll_empty {ds : List Descriptor} :
    id ∈ (empty.registerAll ds).ids ↔ id ∈ ds.map (·.id) := by
  rw [mem_ids_registerAll]
  exact or_iff_right List.not_mem_nil

/-- Of the descriptors of a new id the first is kept. -/
theorem exists_raised_of_find? {ds : List Descriptor} (hnew : id ∉ r.ids)
    (h : ds.find? (·.id == id) = some d) :
    ∃ e, (r.registerAll ds).get? id = some e ∧ d.RaisedTo e := by
  induction ds generalizing r with
  | nil => cases h
  | cons d' ds ih =>
    by_cases hid : d'.id = id
    · subst hid
      rw [List.find?_cons_of_pos (by simp), Option.some_inj] at h
      subst h
      have hget : (r.register d').get? d'.id = some (d'.withNested (r.joinsNested d')) :=
        get?_eq_some_iff.2 ⟨by simp [descriptors_register hnew], rfl⟩
      obtain ⟨e, he, hraised⟩ := raised_registerAll (r.register d') ds hget
      exact ⟨e, he, (Descriptor.RaisedTo.withNested_or d' _).trans hraised⟩
    · rw [List.find?_cons_of_neg (by simpa using hid)] at h
      refine ih (r := r.register d') (fun hmem => ?_) h
      rcases mem_ids_register.1 hmem with hr | rfl
      · exact hnew hr
      · exact hid rfl

/-! ## Frozen registries -/

theorem mem_keys_freeze {r : Registry} : id ∈ r.freeze.descriptors.keys ↔ id ∈ r.ids := by
  have hget : r.freeze.descriptors.get? id = r.get? id := get?_freeze r id
  rw [Dictionary.mem_keys_iff, hget, ← not_iff_not, ← get?_eq_none_iff,
    Option.not_isSome_iff_eq_none]

theorem perm_keys_freeze (r : Registry) : r.freeze.descriptors.keys.Perm r.ids :=
  (List.perm_ext_iff_of_nodup (Dictionary.nodup_keys _) r.distinct).2 fun _ => mem_keys_freeze

theorem size_freeze (r : Registry) : r.freeze.size = r.size :=
  calc r.freeze.size
    _ = r.freeze.descriptors.keys.length := (List.length_map _).symm
    _ = r.ids.length := r.perm_keys_freeze.length_eq
    _ = r.size := List.length_map _

theorem require_freeze_of_mem {r : Registry} (h : id ∈ r.ids) :
    ∃ d, r.get? id = some d ∧ r.freeze.get? id = some d ∧ r.freeze.require id = .ok d := by
  obtain ⟨d, hd⟩ := Option.ne_none_iff_exists'.1 fun hnone => get?_eq_none_iff.1 hnone h
  have hfrozen : r.freeze.get? id = some d := (get?_freeze r id).trans hd
  exact ⟨d, hd, hfrozen, by rw [FrozenRegistry.require, hfrozen]⟩

theorem require_freeze_of_not_mem {r : Registry} (h : id ∉ r.ids) :
    r.freeze.get? id = none ∧ r.freeze.require id = .error (.descriptorNotFound id) := by
  have hfrozen : r.freeze.get? id = none := (get?_freeze r id).trans (get?_eq_none_iff.2 h)
  exact ⟨hfrozen, by rw [FrozenRegistry.require, hfrozen]⟩

/-! ## Runs -/

theorem size_registerAll (ds : List Descriptor) :
    (empty.registerAll ds).size = (ds.map (·.id)).dedup.length := by
  have hperm : (empty.registerAll ds).ids.Perm (ds.map (·.id)).dedup :=
    (List.perm_ext_iff_of_nodup (empty.registerAll ds).distinct (List.nodup_dedup _)).2 fun id => by
      rw [← ids, mem_ids_registerAll_empty, List.mem_dedup]
  exact (List.length_map _).symm.trans hperm.length_eq

theorem raised_registerAll_take {ds : List Descriptor} {t u : Nat} (htu : t ≤ u)
    (h : (empty.registerAll (ds.take t)).get? id = some d) :
    ∃ e, (empty.registerAll (ds.take u)).get? id = some e ∧ d.RaisedTo e := by
  have hsplit : ds.take u = ds.take t ++ (ds.take u).drop t := by
    rw [← Nat.min_eq_left htu, ← List.take_take, Nat.min_eq_left htu, List.take_append_drop]
  rw [hsplit, registerAll_append]
  exact raised_registerAll _ _ h

theorem registerAll_take_succ {ds : List Descriptor} {t : Nat} (h : ds[t]? = some d) :
    empty.registerAll (ds.take (t + 1)) = (empty.registerAll (ds.take t)).register d := by
  rw [List.take_add_one, h, Option.toList_some, registerAll_concat]

/-- In any run, a registration fails just when a descriptor of the same id was passed before; it
says so, and nothing is changed, in place either, where every registration leaves what it makes of
the registry. In the end the ids are those passed, and under
each of them, unchanged but for a flag that may have been raised since, the first descriptor passed
with it. The frozen registry has the same descriptors under the same ids. -/
theorem registerAll_keeps_first (ds : List Descriptor) :
    (∀ t d, ds[t]? = some d →
      (d.id ∈ (ds.take t).map (·.id) →
        (empty.registerAll (ds.take t)).add d = .error (.duplicateDescriptor d.id) ∧
        empty.registerAll (ds.take (t + 1)) = empty.registerAll (ds.take t) ∧
        (addInPlace d).run (empty.registerAll (ds.take t)).descriptors
          = (.error (.duplicateDescriptor d.id), (empty.registerAll (ds.take t)).descriptors)) ∧
      (d.id ∉ (ds.take t).map (·.id) →
        ∃ events, (empty.registerAll (ds.take t)).add d
          = .ok (empty.registerAll (ds.take (t + 1)), events)) ∧
      (addInPlace d).run (empty.registerAll (ds.take t)).descriptors =
        match (empty.registerAll (ds.take t)).add d with
        | .ok (after, _) => (.ok (), after.descriptors)
        | .error e => (.error e, (empty.registerAll (ds.take t)).descriptors)) ∧
    (∀ t u id d, t ≤ u → (empty.registerAll (ds.take t)).get? id = some d →
      ∃ e, (empty.registerAll (ds.take u)).get? id = some e ∧ d.RaisedTo e) ∧
    (empty.registerAll ds).ids.Nodup ∧
    (∀ id, id ∈ (empty.registerAll ds).ids ↔ id ∈ ds.map (·.id)) ∧
    (empty.registerAll ds).size = (ds.map (·.id)).dedup.length ∧
    (∀ id d, ds.find? (·.id == id) = some d →
      ∃ e, (empty.registerAll ds).get? id = some e ∧ e.id = id ∧ d.RaisedTo e ∧
        (empty.registerAll ds).freeze.get? id = some e ∧
        (empty.registerAll ds).freeze.require id = .ok e) ∧
    (∀ id, id ∉ ds.map (·.id) →
      (empty.registerAll ds).get? id = none ∧
      (empty.registerAll ds).freeze.get? id = none ∧
      (empty.registerAll ds).freeze.require id = .error (.descriptorNotFound id)) ∧
    (empty.registerAll ds).freeze.size = (empty.registerAll ds).size := by
  refine ⟨fun t d hd => ⟨fun hold => ?_, fun hnew => ?_, run_addInPlace _ d⟩,
    fun t u id d => raised_registerAll_take, (empty.registerAll ds).distinct,
    fun id => mem_ids_registerAll_empty, size_registerAll ds,
    fun id d hfind => ?_, fun id hid => ?_, size_freeze _⟩
  · have hmem : d.id ∈ (empty.registerAll (ds.take t)).ids := mem_ids_registerAll_empty.2 hold
    refine ⟨add_of_mem hmem, ?_, ?_⟩
    · rw [registerAll_take_succ hd, register_of_mem hmem]
    · rw [run_addInPlace, add_of_mem hmem]
  · rw [registerAll_take_succ hd]
    exact add_of_not_mem fun hmem => hnew (mem_ids_registerAll_empty.1 hmem)
  · obtain ⟨e, he, hraised⟩ := exists_raised_of_find? (r := empty) List.not_mem_nil hfind
    obtain ⟨hmem, hid⟩ := get?_eq_some_iff.1 he
    obtain ⟨e', he', hfrozen, hrequire⟩ := require_freeze_of_mem (List.mem_map.2 ⟨e, hmem, hid⟩)
    obtain rfl := Option.some_inj.1 (he.symm.trans he')
    exact ⟨e, he, hid, hraised, hfrozen, hrequire⟩
  · have hnot : id ∉ (empty.registerAll ds).ids :=
      fun hmem => hid (mem_ids_registerAll_empty.1 hmem)
    exact ⟨get?_eq_none_iff.2 hnot, require_freeze_of_not_mem hnot⟩

open Vehicles in
/-- A nested car that comes second is rejected, and the vehicle that has it as a case is not
forced. The first car is stored behind the vehicle, in place too. -/
theorem second_car_rejected :
    (empty.registerAll [vehicle, bare "car" []]).add (car.withNested true)
      = .error (.duplicateDescriptor "car") ∧
    empty.registerAll [vehicle, bare "car" [], car.withNested true]
      = empty.registerAll [vehicle, bare "car" []] ∧
    (addInPlace (bare "car" [])).run (empty.registerAll [vehicle]).descriptors
      = (.ok (), [vehicle, bare "car" []]) ∧
    (addInPlace (car.withNested true)).run (empty.registerAll [vehicle, bare "car" []]).descriptors
      = (.error (.duplicateDescriptor "car"), [vehicle, bare "car" []]) ∧
    (empty.registerAll [vehicle, bare "car" [], car.withNested true]).size = 2 ∧
    (empty.registerAll [vehicle, bare "car" [], car.withNested true]).get? "vehicle"
      = some vehicle ∧
    (∃ e, (empty.registerAll [vehicle, bare "car" [], car.withNested true]).freeze.require "car"
      = .ok e ∧ (bare "car" []).RaisedTo e) ∧
    (empty.registerAll [vehicle, bare "car" [], car.withNested true]).freeze.require "truck"
      = .error (.descriptorNotFound "truck") := by
  obtain ⟨hcalls, -, -, -, hsize, hfirst, hmissing, -⟩ :=
    registerAll_keeps_first [vehicle, bare "car" [], car.withNested true]
  obtain ⟨-, -, hstored⟩ := hcalls 1 (bare "car" []) rfl
  obtain ⟨herror, hsame, hrefused⟩ := (hcalls 2 (car.withNested true) rfl).1 (by decide)
  obtain ⟨e, -, -, hraised, -, hrequire⟩ := hfirst "car" (bare "car" []) rfl
  exact ⟨herror, hsame, hstored, hrefused, hsize.trans (by decide), rfl, ⟨e, hrequire, hraised⟩,
    (hmissing "truck" (by decide)).2.2⟩

end Registry

end ResultMapping

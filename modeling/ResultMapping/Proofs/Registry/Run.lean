import ResultMapping.Dictionary.Lemmas
import ResultMapping.Registry.Frozen
import Mathlib.Data.List.Nodup

/-!
# Runs of registrations

Descriptors are registered one after the other; one whose id is taken is rejected and changes
nothing. A run is the run of the descriptors that it accepts, whose ids are distinct, so what runs
do is said of lists of distinct ids.

* `registerAll_accepted`: the rejected descriptors leave no trace;
* `accepted_eq_self`: descriptors with new and distinct ids are all accepted;
* `get?_eq_some_iff`, `get?_freeze`: what a look-up finds, before and after freezing;
* `descriptors_register`: all that one registration does.
-/

namespace ResultMapping

namespace Descriptor

/-- The same descriptor with the flag for nested result maps set as given. -/
def withNested (d : Descriptor) (nested : Bool) : Descriptor :=
  { d with hasNestedResultMaps := nested }

@[simp] theorem id_withNested (d : Descriptor) (b : Bool) : (d.withNested b).id = d.id := rfl

@[simp] theorem caseIds_withNested (d : Descriptor) (b : Bool) :
    (d.withNested b).caseIds = d.caseIds := rfl

@[simp] theorem hasNestedResultMaps_withNested (d : Descriptor) (b : Bool) :
    (d.withNested b).hasNestedResultMaps = b := rfl

@[simp] theorem withNested_withNested (d : Descriptor) (b c : Bool) :
    (d.withNested b).withNested c = d.withNested c := rfl

theorem withNested_injective (d : Descriptor) : Function.Injective d.withNested :=
  fun _ _ h => congrArg Descriptor.hasNestedResultMaps h

theorem withNested_self (d : Descriptor) : d.withNested d.hasNestedResultMaps = d := rfl

theorem force_if_eq (d : Descriptor) (b : Bool) :
    (if !d.hasNestedResultMaps && b then d.forceNestedResultMaps else d)
      = d.withNested (d.hasNestedResultMaps || b) := by
  cases h : d.hasNestedResultMaps
  · cases b
    · exact (h ▸ d.withNested_self).symm
    · rfl
  · exact (h ▸ d.withNested_self).symm

end Descriptor

namespace Registry

/-- The registry after an attempt to register a descriptor. -/
def register (r : Registry) (d : Descriptor) : Registry :=
  match r.add d with
  | .ok (after, _) => after
  | .error _ => r

/-- The registry after attempts to register some descriptors one after the other. -/
def registerAll (r : Registry) (ds : List Descriptor) : Registry := ds.foldl register r

/-- Those of the descriptors that are registered when all are tried one after the other. -/
def accepted (r : Registry) : List Descriptor → List Descriptor
  | [] => []
  | d :: ds =>
    match r.add d with
    | .ok (after, _) => d :: accepted after ds
    | .error _ => accepted r ds

/-! ## Look-ups -/

theorem contains_iff {r : Registry} {id : String} : r.contains id = true ↔ id ∈ r.ids := by
  simp [contains, ids]

theorem contains_eq_false_iff {r : Registry} {id : String} :
    r.contains id = false ↔ id ∉ r.ids := by
  rw [← contains_iff, Bool.not_eq_true]

theorem find?_id_eq_some_iff {ds : List Descriptor} (h : (ds.map (·.id)).Nodup) {id : String}
    {d : Descriptor} : ds.find? (·.id == id) = some d ↔ d ∈ ds ∧ d.id = id := by
  constructor
  · intro hfind
    exact ⟨List.mem_of_find?_eq_some hfind, by simpa using List.find?_some hfind⟩
  · rintro ⟨hd, rfl⟩
    cases hfind : ds.find? (·.id == d.id) with
    | none =>
      have := List.find?_eq_none.1 hfind d hd
      simp at this
    | some e =>
      have hid : e.id = d.id := by simpa using List.find?_some hfind
      rw [List.inj_on_of_nodup_map h (List.mem_of_find?_eq_some hfind) hd hid]

theorem get?_eq_some_iff {r : Registry} {id : String} {d : Descriptor} :
    r.get? id = some d ↔ d ∈ r.descriptors ∧ d.id = id := find?_id_eq_some_iff r.distinct

theorem get?_eq_none_iff {r : Registry} {id : String} : r.get? id = none ↔ id ∉ r.ids := by
  simp [get?, ids]

theorem lookup_id (ds : List Descriptor) (id : String) :
    (ds.map fun d => (d.id, d)).lookup id = ds.find? (·.id == id) := by
  induction ds with
  | nil => rfl
  | cons d ds ih =>
    rw [List.map_cons, List.lookup_cons, ih, List.find?_cons, BEq.comm]

/-- Freezing changes nothing of what is found. -/
theorem get?_freeze (r : Registry) (id : String) : r.freeze.get? id = r.get? id := by
  have hreverse : (r.descriptors.reverse.map (·.id)).Nodup := by
    rw [List.map_reverse]
    exact List.nodup_reverse.2 r.distinct
  rw [freeze, FrozenRegistry.get?, Dictionary.ofList, Dictionary.get?_insertAll,
    Dictionary.get?_empty, Option.or_none, ← List.map_reverse, lookup_id]
  ext d
  rw [find?_id_eq_some_iff hreverse, List.mem_reverse, get?_eq_some_iff]

theorem isNested_iff {r : Registry} {id : String} :
    r.isNested id = true ↔ ∃ d ∈ r.descriptors, d.id = id ∧ d.hasNestedResultMaps = true := by
  simp [isNested]

/-! ## One registration -/

theorem register_of_mem {r : Registry} {d : Descriptor} (h : d.id ∈ r.ids) :
    r.register d = r := by
  simp [register, add, addScanning, contains_iff.2 h]

/-- Whether a descriptor is nested once it is registered. -/
def joinsNested (r : Registry) (d : Descriptor) : Bool :=
  d.hasNestedResultMaps || d.caseIds.any r.isNested

theorem receive_eq (r : Registry) (d : Descriptor) :
    r.receive Descriptor.caseIds d = d.withNested (r.joinsNested d) := d.force_if_eq _

theorem forceOld_eq (nestedId : String) (ds : List Descriptor) :
    forceOld Descriptor.caseIds nestedId ds
      = ds.map fun e => e.withNested (e.hasNestedResultMaps || e.caseIds.contains nestedId) :=
  List.map_congr_left fun e _ => e.force_if_eq _

/-- All that registering a descriptor of a new id does: it comes last, and the registered ones that
have it as a case become nested if it is nested. -/
theorem descriptors_register {r : Registry} {d : Descriptor} (h : d.id ∉ r.ids) :
    (r.register d).descriptors
      = (r.descriptors.map fun e =>
          e.withNested (e.hasNestedResultMaps || (r.joinsNested d && e.caseIds.contains d.id)))
        ++ [d.withNested (r.joinsNested d)] := by
  have hadd : (r.register d).descriptors = r.descriptorsAfter Descriptor.caseIds d := by
    simp [register, add, addScanning, contains_eq_false_iff.2 h]
  rw [hadd, descriptorsAfter, receive_eq, forceOld_eq]
  cases r.joinsNested d <;> simp [Descriptor.withNested_self]

/-- Whoever is registered came as it is, but for its flag. -/
theorem exists_of_mem_register {r : Registry} {d e : Descriptor}
    (h : e ∈ (r.register d).descriptors) :
    ∃ came ∈ r.descriptors ++ [d], ∃ nested, e = came.withNested nested := by
  by_cases hd : d.id ∈ r.ids
  · rw [register_of_mem hd] at h
    exact ⟨e, List.mem_append_left _ h, e.hasNestedResultMaps, e.withNested_self.symm⟩
  · rw [descriptors_register hd, List.mem_append, List.mem_map, List.mem_singleton] at h
    rcases h with ⟨came, hcame, rfl⟩ | rfl
    · exact ⟨came, List.mem_append_left _ hcame, _, rfl⟩
    · exact ⟨d, List.mem_append_right _ List.mem_cons_self, _, rfl⟩

theorem ids_register {r : Registry} {d : Descriptor} (h : d.id ∉ r.ids) :
    (r.register d).ids = r.ids ++ [d.id] := by
  simp [ids, descriptors_register h, Function.comp_def]

/-! ## Runs -/

theorem registerAll_concat {ds : List Descriptor} (r : Registry) (d : Descriptor) :
    r.registerAll (ds ++ [d]) = (r.registerAll ds).register d := by
  simp [registerAll]

theorem exists_of_mem_registerAll {r : Registry} {ds : List Descriptor} {e : Descriptor}
    (h : e ∈ (r.registerAll ds).descriptors) :
    ∃ came ∈ r.descriptors ++ ds, ∃ nested, e = came.withNested nested := by
  induction ds generalizing r with
  | nil => exact ⟨e, by simpa [registerAll] using h, _, e.withNested_self.symm⟩
  | cons d ds ih =>
    obtain ⟨e', he', b, rfl⟩ := ih (r := r.register d) h
    rcases List.mem_append.1 he' with hreg | hds
    · obtain ⟨came, hcame, c, rfl⟩ := exists_of_mem_register hreg
      refine ⟨came, ?_, b, rfl⟩
      rw [List.append_cons]
      exact List.mem_append_left _ hcame
    · exact ⟨e', List.mem_append_right _ (List.mem_cons_of_mem _ hds), b, rfl⟩

theorem accepted_cons_of_mem {r : Registry} {d : Descriptor} (h : d.id ∈ r.ids)
    (ds : List Descriptor) : r.accepted (d :: ds) = r.accepted ds := by
  simp [accepted, add, addScanning, contains_iff.2 h]

theorem accepted_cons_of_not_mem {r : Registry} {d : Descriptor} (h : d.id ∉ r.ids)
    (ds : List Descriptor) : r.accepted (d :: ds) = d :: (r.register d).accepted ds := by
  simp [accepted, register, add, addScanning, contains_eq_false_iff.2 h]

/-- Rejected descriptors leave no trace. -/
theorem registerAll_accepted (r : Registry) (ds : List Descriptor) :
    r.registerAll (r.accepted ds) = r.registerAll ds := by
  induction ds generalizing r with
  | nil => rfl
  | cons d ds ih =>
    simp only [registerAll, List.foldl_cons] at ih ⊢
    by_cases h : d.id ∈ r.ids
    · rw [accepted_cons_of_mem h, register_of_mem h, ih]
    · rw [accepted_cons_of_not_mem h, List.foldl_cons, ih]

theorem ids_registerAll (r : Registry) (ds : List Descriptor) :
    (r.registerAll ds).ids = r.ids ++ (r.accepted ds).map (·.id) := by
  induction ds generalizing r with
  | nil => simp [registerAll, accepted]
  | cons d ds ih =>
    simp only [registerAll, List.foldl_cons] at ih ⊢
    by_cases h : d.id ∈ r.ids
    · rw [accepted_cons_of_mem h, register_of_mem h, ih]
    · rw [accepted_cons_of_not_mem h, ih, ids_register h, List.map_cons, List.append_assoc,
        List.singleton_append]

theorem ids_registerAll_empty (ds : List Descriptor) :
    (empty.registerAll ds).ids = (empty.accepted ds).map (·.id) := ids_registerAll empty ds

theorem nodup_accepted (ds : List Descriptor) : ((empty.accepted ds).map (·.id)).Nodup := by
  rw [← ids_registerAll_empty]
  exact (empty.registerAll ds).distinct

/-- Descriptors with new and distinct ids are all accepted. -/
theorem accepted_eq_self {r : Registry} {ds : List Descriptor}
    (h : (r.ids ++ ds.map (·.id)).Nodup) : r.accepted ds = ds := by
  induction ds generalizing r with
  | nil => rfl
  | cons d ds ih =>
    have hd : d.id ∉ r.ids := fun hmem =>
      (List.nodup_append.1 h).2.2 d.id hmem d.id (by simp) rfl
    rw [accepted_cons_of_not_mem hd, ih]
    rw [ids_register hd]
    simpa using h

theorem accepted_empty_eq_self {ds : List Descriptor} (h : (ds.map (·.id)).Nodup) :
    empty.accepted ds = ds := accepted_eq_self h

theorem ids_registerAll_of_nodup {ds : List Descriptor} (h : (ds.map (·.id)).Nodup) :
    (empty.registerAll ds).ids = ds.map (·.id) := by
  rw [ids_registerAll_empty, accepted_empty_eq_self h]

end Registry

end ResultMapping

import ResultMapping.Proofs.Registry.Nesting

/-!
# Descriptors whose cases are nested

A row of a descriptor may be mapped by any of its cases, so a descriptor with a nested case should
be nested as well. Registration sees to that for the cases that are nested when the later of the two
is registered, but not for a registered case that becomes nested afterwards.

* `closedUnderCases_iff`: what has to hold of a run for its registry to be closed;
* `not_closedUnderCases_vehicles`: it does not hold of every run.
-/

namespace ResultMapping.Registry

variable {ds : List Descriptor}

/-- Of the descriptors that a look-up finds, each with a nested case is nested. -/
def ClosedUnderCases (find : String → Option Descriptor) : Prop :=
  ∀ {x y : String} {d e : Descriptor}, find x = some d → find y = some e → e.id ∈ d.caseIds →
    e.hasNestedResultMaps = true → d.hasNestedResultMaps = true

/-- The flags at the end of a run are closed just when the history of the run closes them. -/
theorem closedUnderCases_get?_iff (h : (ds.map (·.id)).Nodup) :
    ClosedUnderCases (empty.registerAll ds).get?
      ↔ ∀ i j, HasCase ds i j → NestedBy ds ds.length j → NestedBy ds ds.length i := by
  constructor
  · rintro hclosed i j ⟨d, e, hd, he, hid⟩ hj
    obtain ⟨b, hfindd, hi⟩ := get?_registerAll h hd
    obtain ⟨c, hfinde, hj'⟩ := get?_registerAll h he
    exact hi.1 (hclosed hfindd hfinde (Descriptor.mem_caseIds_iff.2 hid) (hj'.2 hj))
  · intro hcases x y d e hd he hid hnested
    obtain ⟨i, d, b, hi, rfl, hflagi⟩ := exists_of_get?_registerAll h hd
    obtain ⟨j, e, c, hj, rfl, hflagj⟩ := exists_of_get?_registerAll h he
    exact hflagi.2 (hcases i j ((hasCase_iff hi hj).2 hid) (hflagj.1 hnested))

/-- Flags that the cases pass on are passed on along chains of cases. -/
theorem forall_hasCase_iff_forall_reachable :
    (∀ i j, HasCase ds i j → NestedBy ds ds.length j → NestedBy ds ds.length i)
      ↔ ∀ i j, Relation.ReflTransGen (HasCase ds) i j → ComesNested ds j →
          NestedBy ds ds.length i := by
  constructor
  · intro hcases i j hreach hj
    induction hreach using Relation.ReflTransGen.head_induction_on with
    | refl => exact .itself hj.lt_length hj
    | head hcase _ ih => exact hcases _ _ hcase ih
  · intro hreach i j hcase hj
    obtain ⟨k, hchain, hk⟩ := hj.exists_reachable
    exact hreach i k (.head hcase hchain) hk

/-- After any run, the registry and its frozen form are closed just when every descriptor with a
chain of cases to one that came nested has such a chain in the order of a nesting path. -/
theorem closedUnderCases_iff (ds : List Descriptor) :
    (ClosedUnderCases (empty.registerAll ds).get?
      ↔ ∀ i j, Relation.ReflTransGen (HasCase (empty.accepted ds)) i j →
          ComesNested (empty.accepted ds) j →
          ∃ p m, p 0 = i ∧ NestingPath (empty.accepted ds) p m) ∧
    (ClosedUnderCases (empty.registerAll ds).freeze.get?
      ↔ ClosedUnderCases (empty.registerAll ds).get?) := by
  constructor
  · rw [← registerAll_accepted, closedUnderCases_get?_iff (nodup_accepted ds),
      forall_hasCase_iff_forall_reachable]
    simp only [nestedBy_iff_path]
  · rw [show (empty.registerAll ds).freeze.get? = (empty.registerAll ds).get? from
      funext (get?_freeze _)]

open Vehicles in
/-- The vehicle is registered first and its case, the car, becomes nested only with the car's own
case: the vehicle is passed over. -/
theorem not_closedUnderCases_vehicles :
    ¬ ClosedUnderCases (empty.registerAll [vehicle, car, sportsCar]).get? := by
  intro hclosed
  have hvehicle : (empty.registerAll [vehicle, car, sportsCar]).get? "vehicle"
      = some (vehicle.withNested false) := rfl
  have hcar : (empty.registerAll [vehicle, car, sportsCar]).get? "car"
      = some (car.withNested true) := rfl
  exact Bool.false_ne_true (hclosed hvehicle hcar (by decide) rfl)

end ResultMapping.Registry

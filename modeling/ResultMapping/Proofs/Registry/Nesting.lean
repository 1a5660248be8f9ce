import ResultMapping.Proofs.Registry.Run
import Mathlib.Logic.Relation

/-!
# Which descriptors become nested

Descriptors are numbered in the order in which they are registered. Whether one of them is nested
depends on when its cases are registered, and when the cases of these are.

* `Descriptor.mem_caseIds_iff`: the ids that registration goes through are those that some column
  value chooses, which is how `HasCase`, the step of all paths, is said;
* `Tracks.register`: each registration keeps the flags as `NestedBy` has them, which follows the
  history of every flag; `tracks_registerAll_take` has them so at every point of a run;
* `nestedBy_iff_path`: at the end of a run a descriptor is nested just when a `NestingPath` starts
  at it;
* `get?_registerAll_iff_path`: the same of what is found in a registry.
-/

namespace ResultMapping

/-- The discriminator has a column value under which the descriptor of the given id is chosen. -/
def Descriptor.Chooses (d : Descriptor) (id : String) : Prop :=
  ∃ discriminator value,
    d.discriminator = some discriminator ∧ discriminator.cases.get? value = some id

theorem Descriptor.mem_caseIds_iff {d : Descriptor} {id : String} :
    id ∈ d.caseIds ↔ d.Chooses id := by
  rw [caseIds, Chooses]
  cases d.discriminator with
  | none => simp
  | some discriminator =>
    simp only [Discriminator.descriptorIds, Dictionary.mem_values_iff, Option.some_inj,
      exists_and_left, exists_eq_left']

namespace Registry

variable {ds : List Descriptor}

/-- A case of the `i`-th descriptor's discriminator is the `j`-th descriptor. -/
def HasCase (ds : List Descriptor) (i j : Nat) : Prop :=
  ∃ d e, ds[i]? = some d ∧ ds[j]? = some e ∧ d.Chooses e.id

/-- The `i`-th descriptor is nested when it comes to be registered. -/
def ComesNested (ds : List Descriptor) (i : Nat) : Prop :=
  ∃ d, ds[i]? = some d ∧ d.hasNestedResultMaps = true

theorem HasCase.lt_left {i j : Nat} (h : HasCase ds i j) : i < ds.length := by
  obtain ⟨d, e, hd, -, -⟩ := h
  exact (List.getElem?_eq_some_iff.1 hd).1

theorem HasCase.lt_right {i j : Nat} (h : HasCase ds i j) : j < ds.length := by
  obtain ⟨d, e, -, he, -⟩ := h
  exact (List.getElem?_eq_some_iff.1 he).1

theorem ComesNested.lt_length {i : Nat} (h : ComesNested ds i) : i < ds.length := by
  obtain ⟨d, hd, -⟩ := h
  exact (List.getElem?_eq_some_iff.1 hd).1

theorem HasCase.exists_case {i j : Nat} {d : Descriptor} (h : HasCase ds i j)
    (hd : ds[i]? = some d) : ∃ e, ds[j]? = some e ∧ e.id ∈ d.caseIds := by
  obtain ⟨d', e, hd', he, hchooses⟩ := h
  obtain rfl := Option.some_inj.1 (hd.symm.trans hd')
  exact ⟨e, he, Descriptor.mem_caseIds_iff.2 hchooses⟩

theorem hasCase_iff {i j : Nat} {d e : Descriptor} (hd : ds[i]? = some d) (he : ds[j]? = some e) :
    HasCase ds i j ↔ e.id ∈ d.caseIds := by
  constructor
  · intro h
    obtain ⟨e', he', hid⟩ := h.exists_case hd
    obtain rfl := Option.some_inj.1 (he.symm.trans he')
    exact hid
  · exact fun hid => ⟨d, e, hd, he, Descriptor.mem_caseIds_iff.1 hid⟩

theorem comesNested_iff {i : Nat} {d : Descriptor} (hd : ds[i]? = some d) :
    ComesNested ds i ↔ d.hasNestedResultMaps = true := by
  simp [ComesNested, hd]

/-- When the first `t` descriptors are registered, the `i`-th is nested. -/
inductive NestedBy (ds : List Descriptor) : Nat → Nat → Prop
  | itself {t i : Nat} : i < t → ComesNested ds i → NestedBy ds t i
  /-- A case was nested when the descriptor was registered. -/
  | earlier {t i j : Nat} : i < t → j < i → HasCase ds i j → NestedBy ds i j → NestedBy ds t i
  /-- A case was registered later, and was nested then. -/
  | later {t i k : Nat} : i < k → k < t → HasCase ds i k → NestedBy ds (k + 1) k → NestedBy ds t i

/-- A path from case to case which ends at a descriptor that comes nested. From its second step on,
the next descriptor was registered before the present one, or after it but before the last one. -/
structure NestingPath (ds : List Descriptor) (p : Nat → Nat) (m : Nat) : Prop where
  case_of : ∀ a < m, HasCase ds (p a) (p (a + 1))
  nested : ComesNested ds (p m)
  ordered : ∀ a, 1 ≤ a → a < m →
    p (a + 1) < p a ∨ p a < p (a + 1) ∧ p (a + 1) < p (a - 1)

/-! ## The history of a flag -/

theorem NestedBy.lt {t i : Nat} (h : NestedBy ds t i) : i < t := by
  cases h with
  | itself hi => exact hi
  | earlier hi => exact hi
  | later hik hk => omega

/-- How a descriptor is nested from the first. -/
theorem nestedBy_succ_self_iff {t : Nat} :
    NestedBy ds (t + 1) t ↔ ComesNested ds t ∨ ∃ j < t, HasCase ds t j ∧ NestedBy ds t j := by
  constructor
  · intro h
    cases h with
    | itself _ hown => exact .inl hown
    | earlier _ hj hcase hnested => exact .inr ⟨_, hj, hcase, hnested⟩
    | later htk hk => omega
  · rintro (hown | ⟨j, hj, hcase, hnested⟩)
    · exact .itself (Nat.lt_succ_self t) hown
    · exact .earlier (Nat.lt_succ_self t) hj hcase hnested

/-- What one more registration does to the flag of a registered descriptor. -/
theorem nestedBy_succ_iff {t i : Nat} (hi : i < t) :
    NestedBy ds (t + 1) i ↔ NestedBy ds t i ∨ NestedBy ds (t + 1) t ∧ HasCase ds i t := by
  constructor
  · intro h
    cases h with
    | itself _ hown => exact .inl (.itself hi hown)
    | earlier _ hj hcase hnested => exact .inl (.earlier hi hj hcase hnested)
    | @later _ _ k hik hk hcase hnested =>
      rcases Nat.lt_succ_iff_lt_or_eq.1 hk with hkt | rfl
      · exact .inl (.later hik hkt hcase hnested)
      · exact .inr ⟨hnested, hcase⟩
  · rintro (h | ⟨hnested, hcase⟩)
    · cases h with
      | itself _ hown => exact .itself (by omega) hown
      | earlier _ hj hcase hnested => exact .earlier (by omega) hj hcase hnested
      | later hik hk hcase hnested => exact .later hik (by omega) hcase hnested
    · exact .later hi (Nat.lt_succ_self t) hcase hnested

/-! ## The registry of a run -/

theorem nodup_ids_take (h : (ds.map (·.id)).Nodup) (t : Nat) : ((ds.take t).map (·.id)).Nodup := by
  rw [List.map_take]
  exact h.sublist (List.take_sublist ..)

theorem ids_registerAll_take (h : (ds.map (·.id)).Nodup) (t : Nat) :
    (empty.registerAll (ds.take t)).ids = (ds.take t).map (·.id) :=
  ids_registerAll_of_nodup (nodup_ids_take h t)

theorem getElem_id_not_mem_ids (h : (ds.map (·.id)).Nodup) {t : Nat} (ht : t < ds.length) :
    ds[t].id ∉ (empty.registerAll (ds.take t)).ids := by
  have hnodup := (empty.registerAll (ds.take (t + 1))).distinct
  rw [← ids, ids_registerAll_take h, List.take_succ_eq_append_getElem ht, List.map_append,
    List.nodup_append] at hnodup
  rw [ids_registerAll_take h]
  exact fun hmem => hnodup.2.2 _ hmem _ (by simp) rfl

/-- A registry that holds the first `t` descriptors as they came, but for the flags, which are as
the history has it. -/
structure Tracks (ds : List Descriptor) (t : Nat) (r : Registry) : Prop where
  size : r.descriptors.length = t
  flag : ∀ {i : Nat} {d : Descriptor}, i < t → ds[i]? = some d →
    ∃ b, r.descriptors[i]? = some (d.withNested b) ∧ (b = true ↔ NestedBy ds t i)

namespace Tracks

variable {r : Registry} {t : Nat}

theorem exists_of_mem (htr : Tracks ds t r) (ht : t ≤ ds.length) {e : Descriptor}
    (he : e ∈ r.descriptors) :
    ∃ i d b, ds[i]? = some d ∧ e = d.withNested b ∧ (b = true ↔ NestedBy ds t i) := by
  obtain ⟨i, hi, rfl⟩ := List.mem_iff_getElem.1 he
  have hit : i < t := htr.size ▸ hi
  have hd := List.getElem?_eq_getElem (Nat.lt_of_lt_of_le hit ht)
  obtain ⟨b, hb, hflag⟩ := htr.flag hit hd
  rw [List.getElem?_eq_getElem hi, Option.some_inj] at hb
  exact ⟨i, _, b, hd, hb, hflag⟩

theorem isNested_iff (htr : Tracks ds t r) (ht : t ≤ ds.length) {id : String} :
    r.isNested id = true
      ↔ ∃ j e, ds[j]? = some e ∧ e.id = id ∧ NestedBy ds t j := by
  rw [Registry.isNested_iff]
  constructor
  · rintro ⟨e, he, rfl, hnested⟩
    obtain ⟨j, d, b, hd, rfl, hflag⟩ := htr.exists_of_mem ht he
    exact ⟨j, d, hd, rfl, hflag.1 hnested⟩
  · rintro ⟨j, e, he, rfl, hnested⟩
    obtain ⟨b, hb, hflag⟩ := htr.flag hnested.lt he
    exact ⟨_, List.mem_of_getElem? hb, rfl, hflag.2 hnested⟩

theorem joinsNested_iff (htr : Tracks ds t r) (ht : t < ds.length) :
    r.joinsNested ds[t] = true ↔ NestedBy ds (t + 1) t := by
  have hd : ds[t]? = some ds[t] := List.getElem?_eq_getElem ht
  rw [nestedBy_succ_self_iff, joinsNested, Bool.or_eq_true, List.any_eq_true]
  refine or_congr (comesNested_iff hd).symm ⟨?_, ?_⟩
  · rintro ⟨id, hid, hnested⟩
    obtain ⟨j, e, he, rfl, hj⟩ := (htr.isNested_iff (Nat.le_of_lt ht)).1 hnested
    exact ⟨j, hj.lt, (hasCase_iff hd he).2 hid, hj⟩
  · rintro ⟨j, hjt, hcase, hj⟩
    have he : ds[j]? = some ds[j] := List.getElem?_eq_getElem (Nat.lt_trans hjt ht)
    exact ⟨_, (hasCase_iff hd he).1 hcase,
      (htr.isNested_iff (Nat.le_of_lt ht)).2 ⟨j, _, he, rfl, hj⟩⟩

/-- What one registration preserves. -/
theorem register (htr : Tracks ds t r) (ht : t < ds.length) (hnew : ds[t].id ∉ r.ids) :
    Tracks ds (t + 1) (r.register ds[t]) := by
  have hjoins := htr.joinsNested_iff ht
  refine ⟨by simp [descriptors_register hnew, htr.size], fun {i d} hi hd => ?_⟩
  rw [descriptors_register hnew]
  rcases Nat.lt_succ_iff_lt_or_eq.1 hi with hit | rfl
  · obtain ⟨b, hb, hflag⟩ := htr.flag hit hd
    refine ⟨b || (r.joinsNested ds[t] && d.caseIds.contains ds[t].id), ?_, ?_⟩
    · rw [List.getElem?_append_left (by simpa [htr.size] using hit), List.getElem?_map, hb]
      rfl
    · rw [Bool.or_eq_true, Bool.and_eq_true, nestedBy_succ_iff hit, hflag, hjoins,
        List.contains_iff_mem, hasCase_iff hd (List.getElem?_eq_getElem ht)]
  · refine ⟨r.joinsNested ds[i], ?_, hjoins⟩
    obtain rfl : ds[i] = d := Option.some_inj.1 ((List.getElem?_eq_getElem ht).symm.trans hd)
    rw [List.getElem?_append_right (by simp [htr.size])]
    simp [htr.size]

end Tracks

/-- The registry after the first `t` registrations. -/
theorem tracks_registerAll_take (h : (ds.map (·.id)).Nodup) {t : Nat} (ht : t ≤ ds.length) :
    Tracks ds t (empty.registerAll (ds.take t)) := by
  induction t with
  | zero => exact ⟨rfl, fun hi => absurd hi (Nat.not_lt_zero _)⟩
  | succ t ih =>
    rw [List.take_succ_eq_append_getElem ht, registerAll_concat]
    exact (ih (Nat.le_of_lt ht)).register ht (getElem_id_not_mem_ids h ht)

/-! ## Paths -/

/-- A path with one more step in front. -/
def prepend (i : Nat) (p : Nat → Nat) : Nat → Nat
  | 0 => i
  | a + 1 => p a

theorem NestingPath.prepend {p : Nat → Nat} {m i : Nat} (h : NestingPath ds p m)
    (hcase : HasCase ds i (p 0)) (hfirst : 0 < m → p 1 ≠ p 0 ∧ (p 1 < p 0 ∨ p 1 < i)) :
    NestingPath ds (prepend i p) (m + 1) where
  case_of a ha := by
    cases a with
    | zero => exact hcase
    | succ a => exact h.case_of a (Nat.lt_of_succ_lt_succ ha)
  nested := h.nested
  ordered a ha hm := by
    match a, ha with
    | 1, _ =>
      have := hfirst (Nat.lt_of_succ_lt_succ hm)
      show p 1 < p 0 ∨ p 0 < p 1 ∧ p 1 < i
      omega
    | a + 2, _ => exact h.ordered (a + 1) (Nat.le_add_left 1 a) (Nat.lt_of_succ_lt_succ hm)

theorem NestingPath.tail {p : Nat → Nat} {m : Nat} (h : NestingPath ds p (m + 1)) :
    NestingPath ds (fun a => p (a + 1)) m where
  case_of a ha := h.case_of (a + 1) (Nat.succ_lt_succ ha)
  nested := h.nested
  ordered a ha hm := by
    obtain ⟨a, rfl⟩ : ∃ b, a = b + 1 := ⟨a - 1, by omega⟩
    exact h.ordered (a + 2) (by omega) (by omega)

/-- A flag that is set has a path behind it. Its first step goes to another descriptor, of those
registered so far. -/
theorem NestedBy.exists_path {t i : Nat} (h : NestedBy ds t i) :
    ∃ p m, p 0 = i ∧ NestingPath ds p m ∧ (0 < m → p 1 ≠ i ∧ p 1 < t) := by
  induction h with
  | @itself t i _ hown => exact ⟨fun _ => i, 0, rfl, ⟨nofun, hown, fun _ _ => nofun⟩, nofun⟩
  | @earlier t i j hi hj hcase _ ih =>
    obtain ⟨q, m, rfl, hq, hfirst⟩ := ih
    -- The step after the case may lead forward, but not past the descriptor it is a case of.
    exact ⟨_, m + 1, rfl, hq.prepend hcase fun hm => (hfirst hm).imp_right .inr,
      fun _ => ⟨Nat.ne_of_lt hj, Nat.lt_trans hj hi⟩⟩
  | @later t i k hik hk hcase _ ih =>
    obtain ⟨q, m, rfl, hq, hfirst⟩ := ih
    -- What came before the case is all there is for the next step.
    have hback : 0 < m → q 1 ≠ q 0 ∧ q 1 < q 0 := fun hm => by
      have := hfirst hm
      omega
    exact ⟨_, m + 1, rfl, hq.prepend hcase fun hm => (hback hm).imp_right .inl,
      fun _ => ⟨Nat.ne_of_gt hik, hk⟩⟩

theorem NestingPath.nestedBy {p : Nat → Nat} {m t : Nat} (h : NestingPath ds p m) (ht : p 0 < t)
    (hfirst : 0 < m → p 1 < t) : NestedBy ds t (p 0) := by
  induction m generalizing p t with
  | zero => exact .itself ht h.nested
  | succ m ih =>
    have hp1 : p 1 < t := hfirst (Nat.succ_pos m)
    have hcase := h.case_of 0 (Nat.succ_pos m)
    have hsecond : 0 < m → p 2 < p 1 ∨ p 1 < p 2 ∧ p 2 < p 0 := fun hm =>
      h.ordered 1 (Nat.le_refl 1) (Nat.succ_lt_succ hm)
    rcases Nat.lt_trichotomy (p 1) (p 0) with hback | hself | hforth
    · have hnext : 0 < m → p 2 < p 0 := fun hm => by
        have := hsecond hm
        omega
      exact .earlier ht hback hcase (ih h.tail hback hnext)
    · -- A step to itself is no help: the rest of the path does as well.
      have hnext : 0 < m → p 2 < t := fun hm => by
        have := hsecond hm
        omega
      exact hself ▸ ih h.tail hp1 hnext
    · have hnext : 0 < m → p 2 < p 1 + 1 := fun hm => by
        have := hsecond hm
        omega
      exact .later hforth hp1 hcase (ih h.tail (Nat.lt_succ_self _) hnext)

theorem NestingPath.lt_length {p : Nat → Nat} {m : Nat} (h : NestingPath ds p m) :
    p 0 < ds.length := by
  cases m with
  | zero => exact h.nested.lt_length
  | succ m => exact (h.case_of 0 (Nat.succ_pos m)).lt_left

theorem nestedBy_iff_path {i : Nat} :
    NestedBy ds ds.length i ↔ ∃ p m, p 0 = i ∧ NestingPath ds p m := by
  constructor
  · intro h
    obtain ⟨p, m, hp, hpath, -⟩ := h.exists_path
    exact ⟨p, m, hp, hpath⟩
  · rintro ⟨p, m, rfl, hpath⟩
    exact hpath.nestedBy hpath.lt_length fun hm => (hpath.case_of 0 hm).lt_right

theorem NestedBy.exists_reachable {t i : Nat} (h : NestedBy ds t i) :
    ∃ j, Relation.ReflTransGen (HasCase ds) i j ∧ ComesNested ds j := by
  induction h with
  | itself _ hown => exact ⟨_, .refl, hown⟩
  | earlier _ _ hcase _ ih =>
    obtain ⟨j, hreach, hown⟩ := ih
    exact ⟨j, .head hcase hreach, hown⟩
  | later _ _ hcase _ ih =>
    obtain ⟨j, hreach, hown⟩ := ih
    exact ⟨j, .head hcase hreach, hown⟩

/-! ## What is found at the end of a run -/

theorem tracks_registerAll (h : (ds.map (·.id)).Nodup) :
    Tracks ds ds.length (empty.registerAll ds) := by
  have := tracks_registerAll_take h (Nat.le_refl ds.length)
  rwa [List.take_length] at this

/-- Descriptors of distinct ids are found as they came, but for the flags of `NestedBy`. -/
theorem get?_registerAll (h : (ds.map (·.id)).Nodup) {i : Nat} {d : Descriptor}
    (hd : ds[i]? = some d) :
    ∃ b, (empty.registerAll ds).get? d.id = some (d.withNested b) ∧
      (b = true ↔ NestedBy ds ds.length i) := by
  obtain ⟨b, hb, hflag⟩ := (tracks_registerAll h).flag (List.getElem?_eq_some_iff.1 hd).1 hd
  exact ⟨b, get?_eq_some_iff.2 ⟨List.mem_of_getElem? hb, rfl⟩, hflag⟩

theorem exists_of_get?_registerAll (h : (ds.map (·.id)).Nodup) {id : String} {e : Descriptor}
    (he : (empty.registerAll ds).get? id = some e) :
    ∃ i d b, ds[i]? = some d ∧ e = d.withNested b ∧ (b = true ↔ NestedBy ds ds.length i) :=
  (tracks_registerAll h).exists_of_mem (Nat.le_refl _) (get?_eq_some_iff.1 he).1

/-- After any run, a registered descriptor is as it came, except that it is nested just when a
nesting path starts at it; so it is not without a chain of cases to one that came nested. -/
theorem get?_registerAll_iff_path (ds : List Descriptor) {i : Nat} {d : Descriptor}
    (hd : (empty.accepted ds)[i]? = some d) :
    ∃ nested, (empty.registerAll ds).get? d.id = some (d.withNested nested) ∧
      (nested = true ↔ ∃ p m, p 0 = i ∧ NestingPath (empty.accepted ds) p m) ∧
      (nested = true → ∃ j, Relation.ReflTransGen (HasCase (empty.accepted ds)) i j ∧
        ComesNested (empty.accepted ds) j) := by
  obtain ⟨b, hb, hflag⟩ := get?_registerAll (nodup_accepted ds) hd
  rw [registerAll_accepted] at hb
  refine ⟨b, hb, ?_, fun hnested => (hflag.1 hnested).exists_reachable⟩
  rw [hflag, nestedBy_iff_path]

/-! ## A chain of descriptors -/

namespace Vehicles

/-- A descriptor without entries, with the given cases. -/
def bare (id : String) (cases : List String) : Descriptor where
  id := id
  targetType := ⟨"Vehicle"⟩
  entries := []
  idEntries := []
  constructorEntries := []
  propertyEntries := []
  mappedColumns := ∅
  discriminator := some ⟨.composite "kind" "kind", .ofList (cases.map fun case => (case, case))⟩
  hasNestedResultMaps := false
  hasNestedQueries := false
  autoMapping := none

def vehicle : Descriptor := bare "vehicle" ["car"]

def car : Descriptor := bare "car" ["sportsCar"]

def garage : Descriptor := bare "garage" ["car"]

def engine : Entry := { property := some "engine", nestedResultMap := some "engine" }

/-- The only one of them that comes nested, for its engine. -/
def sportsCar : Descriptor :=
  { bare "sportsCar" [] with
    entries := [engine]
    idEntries := [engine]
    propertyEntries := [engine]
    discriminator := none
    hasNestedResultMaps := true }

end Vehicles

open Vehicles

/-- Registered before its cases, the vehicle is not nested: the only way on from the car leads to a
descriptor registered after both. A second vehicle in between is rejected. The car came without the
flag and is forced, for the way from it to the sports car is a nesting path. -/
theorem path_from_car_not_from_vehicle :
    (empty.accepted [vehicle, car, vehicle, sportsCar])[0]? = some vehicle ∧
    (empty.registerAll [vehicle, car, vehicle, sportsCar]).get? "vehicle"
      = some (vehicle.withNested false) ∧
    (¬ ∃ p m, p 0 = 0 ∧ NestingPath (empty.accepted [vehicle, car, vehicle, sportsCar]) p m) ∧
    (empty.accepted [vehicle, car, vehicle, sportsCar])[1]? = some car ∧
    car.hasNestedResultMaps = false ∧
    (empty.registerAll [vehicle, car, vehicle, sportsCar]).get? "car"
      = some (car.withNested true) ∧
    (∃ p m, p 0 = 1 ∧ NestingPath (empty.accepted [vehicle, car, vehicle, sportsCar]) p m) ∧
    ∃ j, Relation.ReflTransGen (HasCase (empty.accepted [vehicle, car, vehicle, sportsCar])) 1 j ∧
      ComesNested (empty.accepted [vehicle, car, vehicle, sportsCar]) j := by
  obtain ⟨nested, hget, hpath, -⟩ :=
    get?_registerAll_iff_path [vehicle, car, vehicle, sportsCar] (i := 0) (d := vehicle) rfl
  have hfound : (empty.registerAll [vehicle, car, vehicle, sportsCar]).get? vehicle.id
      = some (vehicle.withNested false) := rfl
  have hflat : false = nested :=
    vehicle.withNested_injective (Option.some_inj.1 (hfound.symm.trans hget))
  obtain ⟨forced, hgetCar, hpathCar, hchainCar⟩ :=
    get?_registerAll_iff_path [vehicle, car, vehicle, sportsCar] (i := 1) (d := car) rfl
  have hfoundCar : (empty.registerAll [vehicle, car, vehicle, sportsCar]).get? car.id
      = some (car.withNested true) := rfl
  have hforced : true = forced :=
    car.withNested_injective (Option.some_inj.1 (hfoundCar.symm.trans hgetCar))
  refine ⟨rfl, hfound, ?_, rfl, rfl, hfoundCar, hpathCar.1 hforced.symm, hchainCar hforced.symm⟩
  rw [← hpath, ← hflat]
  exact Bool.false_ne_true

end Registry

end ResultMapping

import ResultMapping.Proofs.Registry.Nesting
import Mathlib.Data.List.Perm.Basic

/-!
# Orders of registration

The same descriptors can be registered in any order, but the order has a say in which of them become
nested. In every order at least those are nested that come nested or have a case that does. No
others are if the ones that come nested are registered last, and a chain of cases registered from
its end is nested throughout.

* `registerAll_perm`: what two orders of the same descriptors have in common, when they agree, and
  for which descriptors all orders do.
-/

namespace ResultMapping.Registry

variable {ds es : List Descriptor}

/-- Two registries in which the same descriptors are found. -/
def Agree (r s : Registry) : Prop := ∀ id, r.get? id = s.get? id

/-- The descriptor is nested when all are registered. -/
def EndsNested (ds : List Descriptor) (d : Descriptor) : Prop :=
  ∃ i, ds[i]? = some d ∧ NestedBy ds ds.length i

/-- The descriptor comes nested or has a case that does. -/
def DirectlyNested (ds : List Descriptor) (d : Descriptor) : Prop :=
  d.hasNestedResultMaps = true ∨ ∃ e ∈ ds, e.id ∈ d.caseIds ∧ e.hasNestedResultMaps = true

/-- Who has a case that is directly nested is directly nested. -/
def Shallow (ds : List Descriptor) : Prop :=
  ∀ d ∈ ds, ∀ e ∈ ds, e.id ∈ d.caseIds → DirectlyNested ds e → DirectlyNested ds d

/-! ## What an order cannot change -/

theorem nodup_ids_of_perm (hperm : es.Perm ds) (h : (ds.map (·.id)).Nodup) :
    (es.map (·.id)).Nodup := (hperm.map _).nodup_iff.2 h

theorem directlyNested_congr (hperm : es.Perm ds) (d : Descriptor) :
    DirectlyNested es d ↔ DirectlyNested ds d := by
  simp only [DirectlyNested, hperm.mem_iff]

theorem directlyNested_iff {i : Nat} {d : Descriptor} (hd : ds[i]? = some d) :
    DirectlyNested ds d ↔ ComesNested ds i ∨ ∃ j, HasCase ds i j ∧ ComesNested ds j := by
  refine or_congr (comesNested_iff hd).symm ⟨?_, ?_⟩
  · rintro ⟨e, he, hid, hnested⟩
    obtain ⟨j, hj⟩ := List.mem_iff_getElem?.1 he
    exact ⟨j, (hasCase_iff hd hj).2 hid, (comesNested_iff hj).2 hnested⟩
  · rintro ⟨j, hcase, e, hj, hnested⟩
    exact ⟨e, List.mem_of_getElem? hj, (hasCase_iff hd hj).1 hcase, hnested⟩

/-- In every order the directly nested descriptors are nested in the end. -/
theorem endsNested_of_directlyNested {d : Descriptor} (hd : d ∈ ds) (h : DirectlyNested ds d) :
    EndsNested ds d := by
  obtain ⟨i, hi⟩ := List.mem_iff_getElem?.1 hd
  have hlt : i < ds.length := (List.getElem?_eq_some_iff.1 hi).1
  refine ⟨i, hi, ?_⟩
  rcases (directlyNested_iff hi).1 h with hown | ⟨j, hcase, hj⟩
  · exact .itself hlt hown
  · rcases Nat.lt_trichotomy j i with hji | rfl | hij
    · exact .earlier hlt hji hcase (.itself hji hj)
    · exact .itself hlt hj
    · exact .later hij hj.lt_length hcase (.itself (Nat.lt_succ_self j) hj)

theorem Shallow.of_hasCase {i j : Nat} {d : Descriptor} (h : Shallow ds) (hi : ds[i]? = some d)
    (hcase : HasCase ds i j) (hj : ∀ {e}, ds[j]? = some e → DirectlyNested ds e) :
    DirectlyNested ds d := by
  obtain ⟨e, he, hid⟩ := hcase.exists_case hi
  exact h d (List.mem_of_getElem? hi) e (List.mem_of_getElem? he) hid (hj he)

/-- In every order no other descriptors of a shallow list are nested in the end. -/
theorem Shallow.directlyNested {d : Descriptor} (h : Shallow ds) (hd : EndsNested ds d) :
    DirectlyNested ds d := by
  obtain ⟨i, hi, hnested⟩ := hd
  generalize ds.length = t at hnested
  induction hnested generalizing d with
  | itself _ hown => exact .inl ((comesNested_iff hi).1 hown)
  | earlier _ _ hcase _ ih => exact h.of_hasCase hi hcase fun he => ih he
  | later _ _ hcase _ ih => exact h.of_hasCase hi hcase fun he => ih he

theorem Shallow.endsNested_iff {d : Descriptor} (h : Shallow ds) (hd : d ∈ ds) :
    EndsNested ds d ↔ DirectlyNested ds d :=
  ⟨h.directlyNested, endsNested_of_directlyNested hd⟩

theorem Shallow.congr (hperm : es.Perm ds) (h : Shallow ds) : Shallow es := by
  intro d hd e he
  rw [directlyNested_congr hperm, directlyNested_congr hperm]
  exact h d (hperm.mem_iff.1 hd) e (hperm.mem_iff.1 he)

/-! ## Two orders that differ -/

/-- Nothing is nested before something comes nested. -/
theorem NestedBy.exists_comesNested {t i : Nat} (h : NestedBy ds t i) :
    ∃ k < t, ComesNested ds k := by
  induction h with
  | itself hi hown => exact ⟨_, hi, hown⟩
  | earlier hi _ _ _ ih =>
    obtain ⟨k, hk, hown⟩ := ih
    exact ⟨k, Nat.lt_trans hk hi, hown⟩
  | later _ hk _ _ ih =>
    obtain ⟨l, hl, hown⟩ := ih
    exact ⟨l, by omega, hown⟩

/-- If those that come nested are registered last, only the directly nested descriptors are nested
in the end. -/
theorem directlyNested_of_nested_last
    (hlast : ds.Pairwise fun d e => d.hasNestedResultMaps = true → e.hasNestedResultMaps = true)
    {d : Descriptor} (hd : EndsNested ds d) : DirectlyNested ds d := by
  have hcomes : ∀ {i j}, i < j → j < ds.length → ComesNested ds i → ComesNested ds j := by
    rintro i j hij hj ⟨c, hc, hnested⟩
    obtain ⟨hi, rfl⟩ := List.getElem?_eq_some_iff.1 hc
    exact ⟨_, List.getElem?_eq_getElem hj, List.pairwise_iff_getElem.1 hlast i j hi hj hij hnested⟩
  obtain ⟨i, hi, hnested⟩ := hd
  have hlt : i < ds.length := (List.getElem?_eq_some_iff.1 hi).1
  rw [directlyNested_iff hi]
  cases hnested with
  | itself _ hown => exact .inl hown
  | earlier _ _ _ hj =>
    obtain ⟨k, hk, hown⟩ := hj.exists_comesNested
    exact .inl (hcomes hk hlt hown)
  | @later _ _ k _ hkt hcase hk =>
    obtain ⟨l, hl, hown⟩ := hk.exists_comesNested
    rcases Nat.lt_succ_iff_lt_or_eq.1 hl with hlk | rfl
    · exact .inr ⟨k, hcase, hcomes hlk hkt hown⟩
    · exact .inr ⟨l, hcase, hown⟩

theorem exists_perm_nested_last (ds : List Descriptor) :
    ∃ es : List Descriptor, es.Perm ds ∧ ∀ d, EndsNested es d → DirectlyNested ds d := by
  let flat := fun d : Descriptor => !d.hasNestedResultMaps
  have hperm : (ds.filter flat ++ ds.filter (!flat ·)).Perm ds := List.filter_append_perm flat ds
  refine ⟨_, hperm, fun d hd =>
    (directlyNested_congr hperm d).1 (directlyNested_of_nested_last ?_ hd)⟩
  have hflat : ∀ d ∈ ds.filter flat, ∀ e : Descriptor,
      d.hasNestedResultMaps = true → e.hasNestedResultMaps = true := by
    intro d hd e hnested
    have := (List.mem_filter.1 hd).2
    simp [flat, hnested] at this
  have hrest : ∀ e ∈ ds.filter (!flat ·), e.hasNestedResultMaps = true := by
    intro e he
    simpa [flat] using (List.mem_filter.1 he).2
  rw [List.pairwise_append]
  exact ⟨List.pairwise_of_forall_mem_list fun d hd e _ => hflat d hd e,
    List.pairwise_of_forall_mem_list fun _ _ e he _ => hrest e he, fun d hd e _ => hflat d hd e⟩

/-- Three descriptors of the list can be registered before the others. -/
theorem exists_perm_chain {c d e : Descriptor} (hc : c ∈ ds) (he : e ∈ ds) (hd : d ∈ ds)
    (hec : e ≠ c) (hdc : d ≠ c) (hde : d ≠ e) :
    ∃ rest : List Descriptor, (c :: e :: d :: rest).Perm ds := by
  have he' : e ∈ ds.erase c := (List.mem_erase_of_ne hec).2 he
  have hd' : d ∈ (ds.erase c).erase e :=
    (List.mem_erase_of_ne hde).2 ((List.mem_erase_of_ne hdc).2 hd)
  have htail : (ds.erase c).Perm (e :: d :: ((ds.erase c).erase e).erase d) :=
    (List.perm_cons_erase he').trans ((List.perm_cons_erase hd').cons e)
  exact ⟨_, ((List.perm_cons_erase hc).trans (htail.cons c)).symm⟩

/-- A chain of two cases that is registered from its end is nested throughout. -/
theorem endsNested_of_chain {c d e : Descriptor} (rest : List Descriptor)
    (hc : c.hasNestedResultMaps = true) (hce : c.id ∈ e.caseIds) (hed : e.id ∈ d.caseIds) :
    EndsNested (c :: e :: d :: rest) d := by
  have hcomes : ComesNested (c :: e :: d :: rest) 0 := ⟨c, rfl, hc⟩
  have h₁ : NestedBy (c :: e :: d :: rest) 2 1 :=
    .earlier (by omega) Nat.zero_lt_one ((hasCase_iff rfl rfl).2 hce)
      (.itself Nat.zero_lt_one hcomes)
  exact ⟨2, rfl, .earlier (by simp) (by omega) ((hasCase_iff rfl rfl).2 hed) h₁⟩

/-! ## When orders agree -/

theorem endsNested_iff_path {d : Descriptor} :
    EndsNested ds d ↔ ∃ p m, ds[p 0]? = some d ∧ NestingPath ds p m := by
  simp only [EndsNested, nestedBy_iff_path]
  constructor
  · rintro ⟨i, hi, p, m, rfl, hpath⟩
    exact ⟨p, m, hi, hpath⟩
  · rintro ⟨p, m, hi, hpath⟩
    exact ⟨p 0, hi, p, m, rfl, hpath⟩

theorem endsNested_iff {i : Nat} {d : Descriptor} (h : (ds.map (·.id)).Nodup)
    (hi : ds[i]? = some d) : EndsNested ds d ↔ NestedBy ds ds.length i := by
  constructor
  · rintro ⟨j, hj, hnested⟩
    have hlt : i < ds.length := (List.getElem?_eq_some_iff.1 hi).1
    rwa [(List.getElem?_inj hlt (.of_map _ h)).1 (hi.trans hj.symm)]
  · exact fun hnested => ⟨i, hi, hnested⟩

theorem get?_registerAll_of_mem (h : (ds.map (·.id)).Nodup) {d : Descriptor} (hd : d ∈ ds) :
    ∃ b, (empty.registerAll ds).get? d.id = some (d.withNested b) ∧
      (b = true ↔ EndsNested ds d) := by
  obtain ⟨i, hi⟩ := List.mem_iff_getElem?.1 hd
  simpa only [endsNested_iff h hi] using get?_registerAll h hi

/-- In any order the same ids are registered, for the same descriptors but for the flags. -/
theorem get?_registerAll_perm (hperm : es.Perm ds) (h : (ds.map (·.id)).Nodup) (id : String) :
    (empty.registerAll es).get? id = none ∧ (empty.registerAll ds).get? id = none ∨
    ∃ d ∈ ds, ∃ b c, d.id = id ∧ (empty.registerAll es).get? id = some (d.withNested b) ∧
      (empty.registerAll ds).get? id = some (d.withNested c) ∧
      (b = true ↔ EndsNested es d) ∧ (c = true ↔ EndsNested ds d) := by
  have h' := nodup_ids_of_perm hperm h
  by_cases hid : id ∈ ds.map (·.id)
  · obtain ⟨d, hd, rfl⟩ := List.mem_map.1 hid
    obtain ⟨b, hb, hbflag⟩ := get?_registerAll_of_mem h' (hperm.mem_iff.2 hd)
    obtain ⟨c, hc, hcflag⟩ := get?_registerAll_of_mem h hd
    exact .inr ⟨d, hd, b, c, rfl, hb, hc, hbflag, hcflag⟩
  · refine .inl ⟨?_, ?_⟩ <;> rw [get?_eq_none_iff, ids_registerAll_of_nodup ‹_›]
    · rwa [(hperm.map _).mem_iff]
    · exact hid

theorem agree_iff (hperm : es.Perm ds) (h : (ds.map (·.id)).Nodup) :
    Agree (empty.registerAll es) (empty.registerAll ds)
      ↔ ∀ d ∈ ds, (EndsNested es d ↔ EndsNested ds d) := by
  constructor
  · intro hagree d hd
    obtain ⟨b, hb, hbflag⟩ := get?_registerAll_of_mem (nodup_ids_of_perm hperm h)
      (hperm.mem_iff.2 hd)
    obtain ⟨c, hc, hcflag⟩ := get?_registerAll_of_mem h hd
    have hsame : d.withNested b = d.withNested c :=
      Option.some_inj.1 (hb.symm.trans ((hagree d.id).trans hc))
    rw [← hbflag, ← hcflag, d.withNested_injective hsame]
  · intro hends id
    rcases get?_registerAll_perm hperm h id with
      ⟨hes, hds⟩ | ⟨d, hd, b, c, rfl, hb, hc, hbflag, hcflag⟩
    · rw [hes, hds]
    · rw [hb, hc, Bool.eq_iff_iff.2 ((hbflag.trans (hends d hd)).trans hcflag.symm)]

theorem shallow_of_agree (h : (ds.map (·.id)).Nodup)
    (hagree : ∀ es : List Descriptor, es.Perm ds →
      Agree (empty.registerAll es) (empty.registerAll ds)) : Shallow ds := by
  have hends : ∀ {es}, es.Perm ds → ∀ d ∈ ds, (EndsNested es d ↔ EndsNested ds d) :=
    fun hperm => (agree_iff hperm h).1 (hagree _ hperm)
  intro d hd e he hed hdirect
  rcases hdirect with hnested | ⟨c, hc, hce, hnested⟩
  · exact .inr ⟨e, he, hed, hnested⟩
  · by_contra hnot
    obtain ⟨hdflat, hno⟩ := not_or.1 hnot
    have heflat : ¬ e.hasNestedResultMaps = true := fun hnested' => hno ⟨e, he, hed, hnested'⟩
    have hec : e ≠ c := fun heq => heflat (heq ▸ hnested)
    have hdc : d ≠ c := fun heq => hdflat (heq ▸ hnested)
    have hde : d ≠ e := fun heq => hno ⟨c, hc, heq ▸ hce, hnested⟩
    obtain ⟨rest, hchain⟩ := exists_perm_chain hc he hd hec hdc hde
    obtain ⟨es, hlast, hdirect⟩ := exists_perm_nested_last ds
    have hd_ends := (hends hchain d hd).1 (endsNested_of_chain rest hnested hce hed)
    exact hnot (hdirect d ((hends hlast d hd).2 hd_ends))

theorem Shallow.agree (hshallow : Shallow ds) (h : (ds.map (·.id)).Nodup) (hperm : es.Perm ds) :
    Agree (empty.registerAll es) (empty.registerAll ds) := by
  refine (agree_iff hperm h).2 fun d hd => ?_
  calc EndsNested es d
    _ ↔ DirectlyNested es d := (hshallow.congr hperm).endsNested_iff (hperm.mem_iff.2 hd)
    _ ↔ DirectlyNested ds d := directlyNested_congr hperm d
    _ ↔ EndsNested ds d := (hshallow.endsNested_iff hd).symm

/-- Descriptors of distinct ids are all accepted in every order, and stay as they are but for the
flags. Two orders agree on the flags just when the same descriptors start a nesting path in both;
all orders do just when the descriptors are shallow. -/
theorem registerAll_perm (h : (ds.map (·.id)).Nodup) :
    (∀ es : List Descriptor, es.Perm ds → empty.accepted es = es ∧
      (∀ id, ((empty.registerAll es).get? id).map (·.withNested false)
        = ((empty.registerAll ds).get? id).map (·.withNested false)) ∧
      (Agree (empty.registerAll es) (empty.registerAll ds) ↔
        ∀ d ∈ ds, ((∃ p m, es[p 0]? = some d ∧ NestingPath es p m)
          ↔ ∃ p m, ds[p 0]? = some d ∧ NestingPath ds p m))) ∧
    ((∀ es : List Descriptor, es.Perm ds →
      Agree (empty.registerAll es) (empty.registerAll ds)) ↔ Shallow ds) := by
  refine ⟨fun es hperm => ⟨?_, fun id => ?_, ?_⟩, ?_, ?_⟩
  · exact accepted_empty_eq_self (nodup_ids_of_perm hperm h)
  · rcases get?_registerAll_perm hperm h id with ⟨hes, hds⟩ | ⟨d, -, b, c, -, hb, hc, -⟩
    · rw [hes, hds]
    · simp [hb, hc]
  · simp only [agree_iff hperm h, endsNested_iff_path]
  · exact shallow_of_agree h
  · exact fun hshallow es hperm => hshallow.agree h hperm

open Vehicles

instance (ds : List Descriptor) (d : Descriptor) : Decidable (DirectlyNested ds d) :=
  inferInstanceAs (Decidable (_ ∨ ∃ e ∈ ds, _ ∧ _))

instance (ds : List Descriptor) : Decidable (Shallow ds) :=
  inferInstanceAs (Decidable (∀ d ∈ ds, ∀ e ∈ ds, _ → _ → _))

/-- With the sports car among its own cases the vehicle is nested in every order. -/
theorem agree_of_direct_case :
    ([bare "vehicle" ["car", "sportsCar"], car, sportsCar].map (·.id)).Nodup ∧
    ∀ es : List Descriptor, es.Perm [bare "vehicle" ["car", "sportsCar"], car, sportsCar] →
      Agree (empty.registerAll es)
        (empty.registerAll [bare "vehicle" ["car", "sportsCar"], car, sportsCar]) :=
  ⟨by decide, (registerAll_perm (by decide)).2.2 (by decide)⟩

/-- The vehicle is nested if its cases are registered before it, and not if they come after it. -/
theorem not_agree_vehicles :
    ([vehicle, car, sportsCar].map (·.id)).Nodup ∧
    [sportsCar, car, vehicle].Perm [vehicle, car, sportsCar] ∧
    ¬ Agree (empty.registerAll [sportsCar, car, vehicle])
      (empty.registerAll [vehicle, car, sportsCar]) := by
  refine ⟨by decide, by decide, fun hagree => ?_⟩
  have hlast : (empty.registerAll [sportsCar, car, vehicle]).get? "vehicle"
      = some (vehicle.withNested true) := rfl
  have hfirst : (empty.registerAll [vehicle, car, sportsCar]).get? "vehicle"
      = some (vehicle.withNested false) := rfl
  have hsame := Option.some_inj.1 (hlast.symm.trans ((hagree "vehicle").trans hfirst))
  exact Bool.false_ne_true (vehicle.withNested_injective hsame).symm

end ResultMapping.Registry

import ResultMapping.Proofs.Registry.Closure
import ResultMapping.Proofs.Registry.Permutation

/-!
# Registering cases first

If every descriptor is registered after its cases, one look back at them settles its flag for good:
nothing that comes later can change it, and the flags are what the chains of cases make them.

* `descriptors_register_of_no_case`: a descriptor that is nobody's case changes nobody;
* `CasesFirst.registered_prefix`: so no registered descriptor is changed;
* `CasesFirst.endsNested_iff`: those are nested that a chain of cases leads from to one that came
  nested;
* `registerAll_casesFirst`: all that this order of registration is good for.
-/

namespace ResultMapping.Registry

variable {ds es : List Descriptor}

/-- No descriptor is registered before one of its cases. It may be a case of its own, and cases
that are never registered do not matter. -/
def CasesFirst (ds : List Descriptor) : Prop := ds.Pairwise fun d e => e.id ∉ d.caseIds

instance (ds : List Descriptor) : Decidable (CasesFirst ds) :=
  inferInstanceAs (Decidable (ds.Pairwise _))

/-- The second descriptor is in the list and a case of the first. -/
def CaseIn (ds : List Descriptor) (d e : Descriptor) : Prop := e ∈ ds ∧ e.id ∈ d.caseIds

/-- A chain of cases, which may be empty, leads from the descriptor to one that comes nested. -/
def LeadsToNested (ds : List Descriptor) (d : Descriptor) : Prop :=
  ∃ e, Relation.ReflTransGen (CaseIn ds) d e ∧ e.hasNestedResultMaps = true

theorem CasesFirst.take (h : CasesFirst ds) (t : Nat) : CasesFirst (ds.take t) :=
  List.Pairwise.sublist (List.take_sublist t ds) h

theorem CasesFirst.le_of_hasCase (h : CasesFirst ds) {i j : Nat} (hcase : HasCase ds i j) :
    j ≤ i := by
  have hi : i < ds.length := hcase.lt_left
  have hj : j < ds.length := hcase.lt_right
  have hid : ds[j].id ∈ ds[i].caseIds :=
    (hasCase_iff (List.getElem?_eq_getElem hi) (List.getElem?_eq_getElem hj)).1 hcase
  by_contra hlt
  exact List.pairwise_iff_getElem.1 h i j hi hj (Nat.lt_of_not_le hlt) hid

/-! ## No registered descriptor is changed -/

/-- A descriptor that is no case of a registered one is added, and that is all. -/
theorem descriptors_register_of_no_case {r : Registry} {d : Descriptor} (h : d.id ∉ r.ids)
    (hnone : ∀ e ∈ r.descriptors, d.id ∉ e.caseIds) :
    (r.register d).descriptors = r.descriptors ++ [d.withNested (r.joinsNested d)] := by
  have hsame : ∀ e ∈ r.descriptors,
      e.withNested (e.hasNestedResultMaps || (r.joinsNested d && e.caseIds.contains d.id)) = e := by
    intro e he
    have hcase : e.caseIds.contains d.id = false := by simpa using hnone e he
    rw [hcase, Bool.and_false, Bool.or_false, e.withNested_self]
  rw [descriptors_register h, List.map_congr_left hsame, List.map_id']

theorem CasesFirst.id_not_mem_caseIds (hids : (ds.map (·.id)).Nodup) (h : CasesFirst ds) {t : Nat}
    (ht : t < ds.length) {e : Descriptor} (he : e ∈ (empty.registerAll (ds.take t)).descriptors) :
    ds[t].id ∉ e.caseIds := by
  obtain ⟨i, d, b, hi, rfl, -⟩ :=
    (tracks_registerAll (nodup_ids_take hids t)).exists_of_mem (Nat.le_refl _) he
  obtain ⟨hit, hd⟩ : i < t ∧ ds[i]? = some d := by simpa [List.getElem?_take] using hi
  intro hid
  have := h.le_of_hasCase ((hasCase_iff hd (List.getElem?_eq_getElem ht)).2 hid)
  omega

/-- The registered descriptors stay as they are. -/
theorem CasesFirst.registered_prefix (hids : (ds.map (·.id)).Nodup) (h : CasesFirst ds) (t : Nat) :
    (empty.registerAll (ds.take t)).descriptors
      <+: (empty.registerAll (ds.take (t + 1))).descriptors := by
  rcases Nat.lt_or_ge t ds.length with ht | ht
  · rw [List.take_succ_eq_append_getElem ht, registerAll_concat,
      descriptors_register_of_no_case (getElem_id_not_mem_ids hids ht)
        fun e he => h.id_not_mem_caseIds hids ht he]
    exact List.prefix_append ..
  · have hsame : ds.take (t + 1) = ds.take t := by
      rw [List.take_of_length_le ht, List.take_of_length_le (Nat.le_succ_of_le ht)]
    exact hsame ▸ List.prefix_refl _

/-! ## The flags are those of the chains -/

/-- A flag is settled when its descriptor is registered. -/
theorem CasesFirst.nestedBy_of_lt (h : CasesFirst ds) {t u i : Nat} (hi : NestedBy ds t i)
    (hu : i < u) : NestedBy ds u i := by
  cases hi with
  | itself _ hown => exact .itself hu hown
  | earlier _ hji hcase hj => exact .earlier hu hji hcase hj
  | later hik _ hcase _ =>
    have := h.le_of_hasCase hcase
    omega

theorem CasesFirst.nestedBy_of_hasCase (h : CasesFirst ds) {t u i j : Nat}
    (hcase : HasCase ds i j) (hj : NestedBy ds t j) (hu : i < u) : NestedBy ds u i := by
  rcases Nat.lt_or_eq_of_le (h.le_of_hasCase hcase) with hji | rfl
  · exact .earlier hu hji hcase (h.nestedBy_of_lt hj hji)
  · exact h.nestedBy_of_lt hj hu

theorem CasesFirst.closedUnderCases (hids : (ds.map (·.id)).Nodup) (h : CasesFirst ds) :
    ClosedUnderCases (empty.registerAll ds).get? :=
  (closedUnderCases_get?_iff hids).2 fun _ _ hcase hj =>
    h.nestedBy_of_hasCase hcase hj hcase.lt_left

theorem LeadsToNested.of_hasCase {i j : Nat} {d : Descriptor} (hi : ds[i]? = some d)
    (hcase : HasCase ds i j) (hj : ∀ {e}, ds[j]? = some e → LeadsToNested ds e) :
    LeadsToNested ds d := by
  obtain ⟨e, he, hid⟩ := hcase.exists_case hi
  obtain ⟨c, hchain, hc⟩ := hj he
  exact ⟨c, .head ⟨List.mem_of_getElem? he, hid⟩ hchain, hc⟩

/-- In any order, a flag that is set has a chain of cases behind it. -/
theorem leadsToNested_of_endsNested {d : Descriptor} (hd : EndsNested ds d) :
    LeadsToNested ds d := by
  obtain ⟨i, hi, hnested⟩ := hd
  generalize ds.length = t at hnested
  induction hnested generalizing d with
  | itself _ hown => exact ⟨d, .refl, (comesNested_iff hi).1 hown⟩
  | earlier _ _ hcase _ ih => exact .of_hasCase hi hcase fun he => ih he
  | later _ _ hcase _ ih => exact .of_hasCase hi hcase fun he => ih he

theorem CasesFirst.nestedBy_of_leadsToNested (h : CasesFirst ds) {i : Nat} {d : Descriptor}
    (hi : ds[i]? = some d) (hd : LeadsToNested ds d) : NestedBy ds ds.length i := by
  obtain ⟨c, hchain, hnested⟩ := hd
  induction hchain using Relation.ReflTransGen.head_induction_on generalizing i with
  | refl => exact .itself (List.getElem?_eq_some_iff.1 hi).1 ⟨c, hi, hnested⟩
  | @head d e hcase _ ih =>
    obtain ⟨j, hj⟩ := List.mem_iff_getElem?.1 hcase.1
    exact h.nestedBy_of_hasCase ((hasCase_iff hi hj).2 hcase.2) (ih hj)
      (List.getElem?_eq_some_iff.1 hi).1

/-- In the end those descriptors are nested that lead to one that came nested. -/
theorem CasesFirst.endsNested_iff (h : CasesFirst ds) {d : Descriptor} (hd : d ∈ ds) :
    EndsNested ds d ↔ LeadsToNested ds d := by
  refine ⟨leadsToNested_of_endsNested, fun hleads => ?_⟩
  obtain ⟨i, hi⟩ := List.mem_iff_getElem?.1 hd
  exact ⟨i, hi, h.nestedBy_of_leadsToNested hi hleads⟩

theorem leadsToNested_congr (hperm : es.Perm ds) (d : Descriptor) :
    LeadsToNested es d ↔ LeadsToNested ds d := by
  have hcase : CaseIn es = CaseIn ds := by
    ext d e
    rw [CaseIn, CaseIn, hperm.mem_iff]
  rw [LeadsToNested, LeadsToNested, hcase]

/-- All such orders of the same descriptors come to the same. -/
theorem CasesFirst.agree (hids : (ds.map (·.id)).Nodup) (hperm : es.Perm ds) (h : CasesFirst ds)
    (h' : CasesFirst es) : Agree (empty.registerAll es) (empty.registerAll ds) := by
  refine (agree_iff hperm hids).2 fun d hd => ?_
  calc EndsNested es d
    _ ↔ LeadsToNested es d := h'.endsNested_iff (hperm.mem_iff.2 hd)
    _ ↔ LeadsToNested ds d := leadsToNested_congr hperm d
    _ ↔ EndsNested ds d := (h.endsNested_iff hd).symm

/-- If all descriptors are accepted and none comes before one of its cases, then at every point of
the run the registry is closed, those are nested that lead to one that came nested, and the next
registration changes none of them. Every other such order ends with the same registry. -/
theorem registerAll_casesFirst (hall : empty.accepted ds = ds) (hfirst : CasesFirst ds) :
    (∀ t, ClosedUnderCases (empty.registerAll (ds.take t)).get? ∧
      (∀ d ∈ ds.take t, ∃ nested,
        (empty.registerAll (ds.take t)).get? d.id = some (d.withNested nested) ∧
        (nested = true ↔ LeadsToNested (ds.take t) d)) ∧
      ∀ id d, (empty.registerAll (ds.take t)).get? id = some d →
        (empty.registerAll (ds.take (t + 1))).get? id = some d) ∧
    ∀ es : List Descriptor, es.Perm ds → CasesFirst es →
      empty.accepted es = es ∧ Agree (empty.registerAll es) (empty.registerAll ds) := by
  have hids : (ds.map (·.id)).Nodup := hall ▸ nodup_accepted ds
  refine ⟨fun t => ⟨?_, fun d hd => ?_, fun id d hd => ?_⟩, fun es hperm hfirst' => ⟨?_, ?_⟩⟩
  · exact (hfirst.take t).closedUnderCases (nodup_ids_take hids t)
  · obtain ⟨b, hb, hflag⟩ := get?_registerAll_of_mem (nodup_ids_take hids t) hd
    exact ⟨b, hb, hflag.trans ((hfirst.take t).endsNested_iff hd)⟩
  · obtain ⟨hmem, hid⟩ := get?_eq_some_iff.1 hd
    exact get?_eq_some_iff.2 ⟨(hfirst.registered_prefix hids t).subset hmem, hid⟩
  · exact accepted_empty_eq_self (nodup_ids_of_perm hperm hids)
  · exact hfirst.agree hids hperm hfirst'

namespace Vehicles

def truck : Descriptor := bare "truck" []

/-- Any vehicle at all, and by default itself. -/
def fleet : Descriptor := bare "fleet" ["truck", "car", "fleet", "bicycle"]

end Vehicles

open Vehicles

/-- The fleet is nested by way of the car, in both orders; the truck is not. -/
theorem fleet_nested_in_both_orders :
    empty.accepted [sportsCar, car, truck, fleet] = [sportsCar, car, truck, fleet] ∧
    CasesFirst [sportsCar, car, truck, fleet] ∧
    ClosedUnderCases (empty.registerAll [sportsCar, car, truck, fleet]).get? ∧
    LeadsToNested [sportsCar, car, truck, fleet] fleet ∧
    ¬ LeadsToNested [sportsCar, car, truck, fleet] truck ∧
    (empty.registerAll [sportsCar, car]).get? "car"
      = (empty.registerAll [sportsCar, car, truck]).get? "car" ∧
    [truck, sportsCar, car, fleet].Perm [sportsCar, car, truck, fleet] ∧
    CasesFirst [truck, sportsCar, car, fleet] ∧
    Agree (empty.registerAll [truck, sportsCar, car, fleet])
      (empty.registerAll [sportsCar, car, truck, fleet]) := by
  have hall : empty.accepted [sportsCar, car, truck, fleet] = [sportsCar, car, truck, fleet] := rfl
  have hfirst : CasesFirst [sportsCar, car, truck, fleet] := by decide
  obtain ⟨hsteps, horders⟩ := registerAll_casesFirst hall hfirst
  obtain ⟨hclosed, hflags, -⟩ := hsteps 4
  have hflag : ∀ {d : Descriptor} {b : Bool}, d ∈ [sportsCar, car, truck, fleet] →
      (empty.registerAll [sportsCar, car, truck, fleet]).get? d.id = some (d.withNested b) →
      (b = true ↔ LeadsToNested [sportsCar, car, truck, fleet] d) := by
    intro d b hd hb
    obtain ⟨nested, hnested, hleads⟩ := hflags d hd
    have hsame := Option.some_inj.1 (hb.symm.trans hnested)
    rwa [d.withNested_injective hsame]
  have hkept := (hsteps 2).2.2 "car" (car.withNested true) rfl
  exact ⟨hall, hfirst, hclosed, (hflag (b := true) (by simp) rfl).1 rfl,
    fun htruck => Bool.false_ne_true ((hflag (b := false) (by simp) rfl).2 htruck),
    hkept.symm, by decide, by decide, (horders _ (by decide) (by decide)).2⟩

end ResultMapping.Registry

import ResultMapping.Proofs.Registry.Enumeration
import Mathlib.Data.List.Induction

/-!
# The log of a run

The log of a run has the reports of its registrations one after the other, and nothing of those that
are rejected. From it the ids and the flags of the registry can be told.

* `Accounts`: what a log tells of the registry of its run, with `Accounts.concat_of_mem` and
  `Accounts.concat_of_not_mem`: that one more registration keeps it so;
* `accounts_log`: so the log of every run accounts for its registry;
* `log_registerAll`: what the log of any run tells, and what a registration in place adds to a log.
-/

namespace ResultMapping.Registry

variable {d : Descriptor} {ds : List Descriptor} {id : String}

/-! ## Reports one after the other -/

/-- What some attempts to register descriptors one after the other report, each of them. -/
def reports (r : Registry) : List Descriptor → List (List Event)
  | [] => []
  | d :: ds => r.report d :: reports (r.register d) ds

/-- All that a run reports. -/
def log (ds : List Descriptor) : List Event := (empty.reports ds).flatten

theorem getElem?_reports (r : Registry) (ds : List Descriptor) (t : Nat) :
    (r.reports ds)[t]? = ds[t]?.map (r.registerAll (ds.take t)).report := by
  induction ds generalizing r t with
  | nil => rfl
  | cons d ds ih =>
    cases t with
    | zero => rfl
    | succ t => exact ih (r.register d) t

theorem reports_concat (r : Registry) (ds : List Descriptor) (d : Descriptor) :
    r.reports (ds ++ [d]) = r.reports ds ++ [(r.registerAll ds).report d] := by
  induction ds generalizing r with
  | nil => rfl
  | cons d' ds ih => exact congrArg _ (ih (r.register d'))

theorem log_concat (ds : List Descriptor) (d : Descriptor) :
    log (ds ++ [d]) = log ds ++ (empty.registerAll ds).report d := by
  rw [log, reports_concat, List.flatten_append, List.flatten_singleton, log]

/-! ## What the log tells -/

/-- What a log tells of the registry of its run: who is registered, whose flag was forced, and what
the flags are. -/
structure Accounts (ds : List Descriptor) (log : List Event) : Prop where
  registered : log.filterMap Event.registered? = (empty.registerAll ds).ids
  once : (log.filterMap Event.forced?).Nodup
  forced_iff : ∀ {id}, id ∈ log.filterMap Event.forced? ↔
    ∃ e, (empty.registerAll ds).get? id = some e ∧ e.hasNestedResultMaps = true ∧
      ∃ d, ds.find? (·.id == id) = some d ∧ d.hasNestedResultMaps = false
  flag : ∀ {id e}, (empty.registerAll ds).get? id = some e →
    ∃ before nested after, log = before ++ .descriptorRegistered id nested :: after ∧
      (e.hasNestedResultMaps = true ↔ nested = true ∨ id ∈ after.filterMap Event.forced?)

/-- Who is registered was passed before. -/
theorem exists_find?_of_get? {e : Descriptor} (h : (empty.registerAll ds).get? id = some e) :
    ∃ d, ds.find? (·.id == id) = some d ∧ d.RaisedTo e := by
  obtain ⟨he, rfl⟩ := get?_eq_some_iff.1 h
  have hid : e.id ∈ ds.map (·.id) := mem_ids_registerAll_empty.1 (List.mem_map_of_mem he)
  obtain ⟨d', hd', hid'⟩ := List.mem_map.1 hid
  obtain ⟨d, hd⟩ := Option.isSome_iff_exists.1
    (List.find?_isSome.2 ⟨d', hd', by simpa using hid'⟩ : (ds.find? (·.id == e.id)).isSome)
  obtain ⟨e', he', hraised⟩ := exists_raised_of_find? (r := empty) List.not_mem_nil hd
  obtain rfl := Option.some_inj.1 (h.symm.trans he')
  exact ⟨d, hd, hraised⟩

namespace Accounts

variable {log : List Event}

/-- A rejected descriptor is not the first of its id. -/
theorem concat_of_mem (h : Accounts ds log) (hd : d.id ∈ (empty.registerAll ds).ids) :
    Accounts (ds ++ [d]) log := by
  have hsame : empty.registerAll (ds ++ [d]) = empty.registerAll ds := by
    rw [registerAll_concat, register_of_mem hd]
  refine ⟨hsame ▸ h.registered, h.once, fun {id} => ?_, hsame ▸ h.flag⟩
  rw [h.forced_iff, hsame]
  refine exists_congr fun e => and_congr_right fun he => ?_
  obtain ⟨c, hc, -⟩ := exists_find?_of_get? he
  rw [List.find?_append, hc, Option.some_or]

theorem once_concat (h : Accounts ds log) (hd : d.id ∉ (empty.registerAll ds).ids) :
    ((log ++ (empty.registerAll ds).report d).filterMap Event.forced?).Nodup := by
  rw [List.filterMap_append, List.nodup_append]
  refine ⟨h.once, nodup_forced_report hd, ?_⟩
  rintro id hold _ hnew rfl
  obtain ⟨e, he, hnested, -⟩ := h.forced_iff.1 hold
  obtain ⟨hflat, -⟩ := (mem_forced_report_iff_of_get? hd he).1 hnew
  exact Bool.false_ne_true (hflat.symm.trans hnested)

theorem forced_iff_concat (h : Accounts ds log) (hd : d.id ∉ (empty.registerAll ds).ids) :
    id ∈ (log ++ (empty.registerAll ds).report d).filterMap Event.forced? ↔
      ∃ e, ((empty.registerAll ds).register d).get? id = some e ∧ e.hasNestedResultMaps = true ∧
        ∃ c, (ds ++ [d]).find? (·.id == id) = some c ∧ c.hasNestedResultMaps = false := by
  rw [List.filterMap_append, List.mem_append, h.forced_iff, get?_register hd, List.find?_append]
  by_cases hid : id = d.id
  · subst hid
    have hnone : (empty.registerAll ds).get? d.id = none := get?_eq_none_iff.2 hd
    have hfirst : ds.find? (·.id == d.id) = none := by
      rw [List.find?_eq_none]
      intro c hc hcid
      exact hd (mem_ids_registerAll_empty.2 (List.mem_map.2 ⟨c, hc, by simpa using hcid⟩))
    rw [mem_forced_report_iff hd, hnone, hfirst, if_pos rfl, Option.none_or]
    simp [and_comm]
  · rw [if_neg hid, List.find?_cons_of_neg (by simpa using Ne.symm hid), List.find?_nil,
      Option.or_none]
    cases he : (empty.registerAll ds).get? id with
    | none => simp [mem_forced_report_iff hd, he, hid]
    | some e =>
      obtain ⟨c, hc, hraised⟩ := exists_find?_of_get? he
      rw [mem_forced_report_iff_of_get? hd he, hc]
      cases hnested : e.hasNestedResultMaps with
      | true => simp [hnested]
      | false =>
        have hflat : c.hasNestedResultMaps = false := by
          rw [Bool.eq_false_iff]
          intro hc
          rw [hraised.nested hc] at hnested
          cases hnested
        simp [hnested, hflat]

theorem flag_concat (h : Accounts ds log) (hd : d.id ∉ (empty.registerAll ds).ids)
    {e : Descriptor} (he : ((empty.registerAll ds).register d).get? id = some e) :
    ∃ before nested after, log ++ (empty.registerAll ds).report d
        = before ++ .descriptorRegistered id nested :: after ∧
      (e.hasNestedResultMaps = true ↔ nested = true ∨ id ∈ after.filterMap Event.forced?) := by
  rw [get?_register hd] at he
  split at he
  · rename_i hid
    subst hid
    obtain rfl := Option.some_inj.1 he
    refine ⟨log ++ (empty.registerAll ds).forcings d, (empty.registerAll ds).joinsNested d, [], ?_,
      ?_⟩
    · rw [report_of_not_mem hd, List.append_assoc]
    · simp
  · obtain ⟨e, hold, rfl⟩ := Option.map_eq_some_iff.1 he
    obtain ⟨before, nested, after, rfl, hflag⟩ := h.flag hold
    refine ⟨before, nested, after ++ (empty.registerAll ds).report d, by simp, ?_⟩
    rw [List.filterMap_append, List.mem_append, mem_forced_report_iff_of_get? hd hold, ← or_assoc,
      ← hflag]
    cases e.hasNestedResultMaps <;> simp

/-- A descriptor of a new id is registered at the end of its report. -/
theorem concat_of_not_mem (h : Accounts ds log) (hd : d.id ∉ (empty.registerAll ds).ids) :
    Accounts (ds ++ [d]) (log ++ (empty.registerAll ds).report d) where
  registered := by
    rw [registerAll_concat, ids_register hd, List.filterMap_append, h.registered,
      report_of_not_mem hd, List.filterMap_append, registered_forcings]
    rfl
  once := h.once_concat hd
  forced_iff := by
    rw [registerAll_concat]
    exact h.forced_iff_concat hd
  flag he := by
    rw [registerAll_concat] at he
    exact h.flag_concat hd he

end Accounts

/-- The log of a run accounts for its registry. -/
theorem accounts_log (ds : List Descriptor) : Accounts ds (log ds) := by
  induction ds using List.reverseRecOn with
  | nil =>
    exact ⟨rfl, List.nodup_nil, fun {id} => iff_of_false List.not_mem_nil nofun,
      fun he => nomatch he⟩
  | append_singleton ds d ih =>
    rw [log_concat]
    by_cases hd : d.id ∈ (empty.registerAll ds).ids
    · rw [report_of_mem hd, List.append_nil]
      exact ih.concat_of_mem hd
    · exact ih.concat_of_not_mem hd

/-- In any run, a rejected descriptor is not reported, and a registration in place adds nothing to
the log before it fails. An accepted one is reported last, after those that its registration forces,
which are the descriptor itself or registered ones that have it as a case and are not nested yet,
and then it is nested; in place the same is added to the log, in some order of the forced
descriptors. Each accepted descriptor is reported as
registered once and as forced at most once, and is forced just when it came without the flag and has
it in the end. In the end those are nested that were registered nested or forced later. -/
theorem log_registerAll (ds : List Descriptor) :
    (∀ t d, ds[t]? = some d →
      (d.id ∈ (ds.take t).map (·.id) →
        (empty.registerAll (ds.take t)).add d = .error (.duplicateDescriptor d.id) ∧
        (empty.reports ds)[t]? = some [] ∧
        ∀ (o : Enumeration) (logged : List Event),
          (o.addInOrder d).run ((empty.registerAll (ds.take t)).stored, logged)
            = (.error (.duplicateDescriptor d.id), (empty.registerAll (ds.take t)).stored,
                logged)) ∧
      (d.id ∉ (ds.take t).map (·.id) →
        ∃ forcings nested,
          (empty.registerAll (ds.take t)).add d = .ok (empty.registerAll (ds.take (t + 1)),
            forcings ++ [.descriptorRegistered d.id nested]) ∧
          (empty.reports ds)[t]? = some (forcings ++ [.descriptorRegistered d.id nested]) ∧
          (∀ (o : Enumeration) (logged : List Event), ∃ events : List Event,
            (o.addInOrder d).run ((empty.registerAll (ds.take t)).stored, logged)
              = (.ok (), (empty.registerAll (ds.take (t + 1))).stored, logged ++ events) ∧
            Event.Rearranged events (forcings ++ [.descriptorRegistered d.id nested])) ∧
          ∀ event ∈ forcings, nested = true ∧ (event = .forcedByCase d.id ∨
            ∃ e, event = .forcedByRegistration e.id d.id ∧
              (empty.registerAll (ds.take t)).get? e.id = some e ∧ d.id ∈ e.caseIds ∧
              e.hasNestedResultMaps = false))) ∧
    (log ds).filterMap Event.registered? = (empty.registerAll ds).ids ∧
    ((log ds).filterMap Event.forced?).Nodup ∧
    (∀ id, id ∈ (log ds).filterMap Event.forced? ↔
      ∃ e, (empty.registerAll ds).get? id = some e ∧ e.hasNestedResultMaps = true ∧
        ∃ d, ds.find? (·.id == id) = some d ∧ d.hasNestedResultMaps = false) ∧
    (∀ id e, (empty.registerAll ds).get? id = some e →
      ∃ before nested after, log ds = before ++ .descriptorRegistered id nested :: after ∧
        (e.hasNestedResultMaps = true ↔
          nested = true ∨ id ∈ after.filterMap Event.forced?)) := by
  have haccounts := accounts_log ds
  refine ⟨fun t d hd => ⟨fun hold => ?_, fun hnew => ?_⟩, haccounts.registered, haccounts.once,
    fun _ => haccounts.forced_iff, fun _ _ => haccounts.flag⟩
  · have hmem : d.id ∈ (empty.registerAll (ds.take t)).ids := mem_ids_registerAll_empty.2 hold
    refine ⟨add_of_mem hmem, ?_, fun o logged => o.run_addInOrder_of_mem hmem logged⟩
    rw [getElem?_reports, hd, Option.map_some, report_of_mem hmem]
  · have hmem : d.id ∉ (empty.registerAll (ds.take t)).ids :=
      fun hmem => hnew (mem_ids_registerAll_empty.1 hmem)
    refine ⟨(empty.registerAll (ds.take t)).forcings d,
      (empty.registerAll (ds.take t)).joinsNested d, ?_, ?_, fun o logged => ?_,
      fun event hevent => ?_⟩
    · rw [add_eq_of_not_mem hmem, registerAll_take_succ hd, report_of_not_mem hmem]
    · rw [getElem?_reports, hd, Option.map_some, report_of_not_mem hmem]
    · rw [registerAll_take_succ hd, ← report_of_not_mem hmem]
      exact o.run_addInOrder_of_not_mem hmem logged
    · rcases mem_forcings_iff.1 hevent with ⟨rfl, -, hjoins⟩ | ⟨e, he, rfl, hcase, hflat, hjoins⟩
      · exact ⟨hjoins, .inl rfl⟩
      · exact ⟨hjoins, .inr ⟨e, rfl, get?_eq_some_iff.2 ⟨he, rfl⟩, hcase, hflat⟩⟩

open Vehicles Enumeration

/-- The car is forced when its case is registered and the garage by the car; the vehicle, which was
registered before, is left out, and a second car is not reported and adds nothing to the log. -/
theorem garage_reported_after_car :
    log [vehicle, car, sportsCar, garage, car]
      = [.descriptorRegistered "vehicle" false, .descriptorRegistered "car" false,
        .forcedByRegistration "car" "sportsCar", .descriptorRegistered "sportsCar" true,
        .forcedByCase "garage", .descriptorRegistered "garage" true] ∧
    car.id ∈ [vehicle, car, sportsCar, garage].map (·.id) ∧
    (empty.reports [vehicle, car, sportsCar, garage, car])[4]? = some [] ∧
    (backward.addInOrder car).run
        ((empty.registerAll [vehicle, car, sportsCar, garage]).stored,
          log [vehicle, car, sportsCar, garage])
      = (.error (.duplicateDescriptor "car"),
          (empty.registerAll [vehicle, car, sportsCar, garage]).stored,
          log [vehicle, car, sportsCar, garage]) ∧
    garage.id ∉ [vehicle, car, sportsCar].map (·.id) ∧
    (∃ forcings nested, (empty.reports [vehicle, car, sportsCar, garage, car])[3]?
      = some (forcings ++ [.descriptorRegistered "garage" nested])) ∧
    "sportsCar" ∉ (log [vehicle, car, sportsCar, garage, car]).filterMap Event.forced? ∧
    (empty.registerAll [vehicle, car, sportsCar, garage, car]).get? "car"
      = some (car.withNested true) ∧
    ∃ before nested after, log [vehicle, car, sportsCar, garage, car]
        = before ++ .descriptorRegistered "car" nested :: after ∧
      (nested = true ∨ "car" ∈ after.filterMap Event.forced?) := by
  obtain ⟨hcalls, -, -, hforced, hflags⟩ := log_registerAll [vehicle, car, sportsCar, garage, car]
  have hcar : (empty.registerAll [vehicle, car, sportsCar, garage, car]).get? "car"
      = some (car.withNested true) := rfl
  obtain ⟨-, hsilent, hinPlace⟩ := (hcalls 4 car rfl).1 (by decide)
  obtain ⟨forcings, nested, -, hgarage, -⟩ := (hcalls 3 garage rfl).2 (by decide)
  obtain ⟨before, nested', after, hlog, hflag⟩ := hflags "car" _ hcar
  refine ⟨rfl, by decide, hsilent, hinPlace backward _, by decide, ⟨forcings, nested, hgarage⟩,
    fun hmem => ?_, hcar, before, nested', after, hlog, hflag.1 rfl⟩
  obtain ⟨-, -, -, d, hd, hflat⟩ := (hforced "sportsCar").1 hmem
  obtain rfl : sportsCar = d := Option.some_inj.1 hd
  cases hflat

end ResultMapping.Registry

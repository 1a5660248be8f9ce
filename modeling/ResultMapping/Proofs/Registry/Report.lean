import ResultMapping.Proofs.Registry.Acceptance

/-!
# What a registration reports

A registration reports whom it forces and, at its end, the new descriptor with its flag; a rejected
one reports nothing. A flag is raised where the report says so and nowhere else.

* `report_of_mem`, `report_of_not_mem`, `mem_forcings_iff`: what one registration reports;
* `mem_forced_report_iff`, `nodup_forced_report`: whom it reports as forced, each of them once;
* `get?_register`: what becomes of the flags.
-/

namespace ResultMapping

namespace Event

/-- The descriptor that the event says is forced. -/
def forced? : Event → Option String
  | forcedByCase id => some id
  | forcedByRegistration id _ => some id
  | _ => none

/-- The descriptor that the event says is registered. -/
def registered? : Event → Option String
  | descriptorRegistered id _ => some id
  | _ => none

end Event

namespace Registry

variable {r : Registry} {d : Descriptor} {id : String}

/-! ## What one registration reports -/

/-- What an attempt to register a descriptor reports. -/
def report (r : Registry) (d : Descriptor) : List Event :=
  match r.add d with
  | .ok (_, events) => events
  | .error _ => []

/-- Whom the registration of a descriptor of a new id forces: itself, and those it is a case of. -/
def forcings (r : Registry) (d : Descriptor) : List Event :=
  (if !d.hasNestedResultMaps && r.joinsNested d then [.forcedByCase d.id] else [])
    ++ if r.joinsNested d then
        (r.descriptors.filter (forcesOld Descriptor.caseIds d.id)).map
          (.forcedByRegistration ·.id d.id)
      else []

theorem report_of_mem (h : d.id ∈ r.ids) : r.report d = [] := by
  rw [report, add_of_mem h]

theorem add_eq_of_not_mem (h : d.id ∉ r.ids) : r.add d = .ok (r.register d, r.report d) := by
  obtain ⟨events, hadd⟩ := add_of_not_mem h
  rw [report, hadd]

theorem forcesNew_eq (r : Registry) (d : Descriptor) :
    r.forcesNew Descriptor.caseIds d = (!d.hasNestedResultMaps && r.joinsNested d) := by
  rw [forcesNew, joinsNested]
  cases d.hasNestedResultMaps <;> rfl

theorem report_of_not_mem (h : d.id ∉ r.ids) :
    r.report d = r.forcings d ++ [.descriptorRegistered d.id (r.joinsNested d)] := by
  have hevents : r.report d = r.eventsOf Descriptor.caseIds d := by
    simp [report, add, addScanning, contains_eq_false_iff.2 h]
  rw [hevents, eventsOf, forcesNew_eq, receive_eq, Descriptor.hasNestedResultMaps_withNested,
    forcings]

theorem forcesOld_iff {e : Descriptor} {nestedId : String} :
    forcesOld Descriptor.caseIds nestedId e = true
      ↔ e.hasNestedResultMaps = false ∧ nestedId ∈ e.caseIds := by
  rw [forcesOld, Bool.and_eq_true, Bool.not_eq_true', List.contains_iff_mem]

theorem mem_forcings_iff {event : Event} :
    event ∈ r.forcings d ↔
      event = .forcedByCase d.id ∧ d.hasNestedResultMaps = false ∧ r.joinsNested d = true ∨
      ∃ e ∈ r.descriptors, event = .forcedByRegistration e.id d.id ∧ d.id ∈ e.caseIds ∧
        e.hasNestedResultMaps = false ∧ r.joinsNested d = true := by
  rw [forcings, List.mem_append]
  refine or_congr ?_ ?_
  · by_cases h : d.hasNestedResultMaps = false ∧ r.joinsNested d = true
    · simp [h]
    · rw [if_neg (by simpa using h)]
      exact iff_of_false List.not_mem_nil fun h' => h h'.2
  · by_cases h : r.joinsNested d = true
    · rw [if_pos h]
      simp only [List.mem_map, List.mem_filter, forcesOld_iff, h, and_true]
      constructor
      · rintro ⟨e, ⟨he, hflat, hcase⟩, rfl⟩
        exact ⟨e, he, rfl, hcase, hflat⟩
      · rintro ⟨e, he, rfl, hcase, hflat⟩
        exact ⟨e, ⟨he, hflat, hcase⟩, rfl⟩
    · rw [if_neg h]
      refine iff_of_false List.not_mem_nil ?_
      rintro ⟨e, -, -, -, -, hjoins⟩
      exact h hjoins

theorem registered_forcings (r : Registry) (d : Descriptor) :
    (r.forcings d).filterMap Event.registered? = [] := by
  rw [List.filterMap_eq_nil_iff]
  intro event hevent
  rcases mem_forcings_iff.1 hevent with ⟨rfl, -⟩ | ⟨e, -, rfl, -⟩ <;> rfl

/-- The descriptors that a registration forces are the new one, if it came without the flag and
joins nested, and those that are not nested and have it as a case. -/
theorem mem_forced_report_iff (h : d.id ∉ r.ids) :
    id ∈ (r.report d).filterMap Event.forced? ↔ r.joinsNested d = true ∧
      (id = d.id ∧ d.hasNestedResultMaps = false ∨
        ∃ e, r.get? id = some e ∧ e.hasNestedResultMaps = false ∧ d.id ∈ e.caseIds) := by
  rw [report_of_not_mem h, List.mem_filterMap]
  constructor
  · rintro ⟨event, hevent, hforced⟩
    rcases List.mem_append.1 hevent with hevent | hevent
    · rcases mem_forcings_iff.1 hevent with
        ⟨rfl, hflat, hjoins⟩ | ⟨e, he, rfl, hcase, hflat, hjoins⟩
      · obtain rfl : d.id = id := Option.some_inj.1 hforced
        exact ⟨hjoins, .inl ⟨rfl, hflat⟩⟩
      · obtain rfl : e.id = id := Option.some_inj.1 hforced
        exact ⟨hjoins, .inr ⟨e, get?_eq_some_iff.2 ⟨he, rfl⟩, hflat, hcase⟩⟩
    · rw [List.mem_singleton.1 hevent] at hforced
      cases hforced
  · rintro ⟨hjoins, ⟨rfl, hflat⟩ | ⟨e, hget, hflat, hcase⟩⟩
    · exact ⟨.forcedByCase d.id,
        List.mem_append_left _ (mem_forcings_iff.2 (.inl ⟨rfl, hflat, hjoins⟩)), rfl⟩
    · obtain ⟨he, rfl⟩ := get?_eq_some_iff.1 hget
      exact ⟨.forcedByRegistration e.id d.id, List.mem_append_left _
        (mem_forcings_iff.2 (.inr ⟨e, he, rfl, hcase, hflat, hjoins⟩)), rfl⟩

/-- A new registration forces another descriptor just when that one's flag is raised. -/
theorem mem_forced_report_iff_of_get? (hd : d.id ∉ r.ids) {e : Descriptor}
    (he : r.get? id = some e) :
    id ∈ (r.report d).filterMap Event.forced? ↔
      e.hasNestedResultMaps = false ∧ r.joinsNested d = true ∧ d.id ∈ e.caseIds := by
  rw [mem_forced_report_iff hd]
  constructor
  · rintro ⟨hjoins, ⟨rfl, -⟩ | ⟨e', he', hflat, hcase⟩⟩
    · rw [get?_eq_none_iff.2 hd] at he
      cases he
    · obtain rfl := Option.some_inj.1 (he.symm.trans he')
      exact ⟨hflat, hjoins, hcase⟩
  · rintro ⟨hflat, hjoins, hcase⟩
    exact ⟨hjoins, .inr ⟨e, he, hflat, hcase⟩⟩

/-- No registration forces a descriptor twice. -/
theorem nodup_forced_report (h : d.id ∉ r.ids) :
    ((r.report d).filterMap Event.forced?).Nodup := by
  have hothers : ((r.descriptors.filter (forcesOld Descriptor.caseIds d.id)).map (·.id)).Nodup :=
    r.distinct.sublist (List.filter_sublist.map _)
  have hnew : d.id ∉ (r.descriptors.filter (forcesOld Descriptor.caseIds d.id)).map (·.id) :=
    fun hmem => h ((List.filter_sublist.map _).subset hmem)
  have hforced : (r.forcings d).filterMap Event.forced?
      = (if !d.hasNestedResultMaps && r.joinsNested d then [d.id] else [])
        ++ if r.joinsNested d then
            (r.descriptors.filter (forcesOld Descriptor.caseIds d.id)).map (·.id)
          else [] := by
    rw [forcings, List.filterMap_append]
    congr 1
    · split <;> rfl
    · split
      · rw [List.filterMap_map]
        exact congrFun List.filterMap_eq_map _
      · rfl
  rw [report_of_not_mem h, List.filterMap_append, hforced]
  show (_ ++ _ ++ []).Nodup
  rw [List.append_nil]
  split <;> split
  · exact List.nodup_cons.2 ⟨hnew, hothers⟩
  · exact List.nodup_singleton _
  · exact hothers
  · exact List.nodup_nil

/-! ## What becomes of the flags -/

/-- What is found after a registration: the new descriptor under its id, and the others as before
but for their flags. -/
theorem get?_register (h : d.id ∉ r.ids) (id : String) :
    (r.register d).get? id
      = if id = d.id then some (d.withNested (r.joinsNested d))
        else (r.get? id).map fun e =>
          e.withNested (e.hasNestedResultMaps || (r.joinsNested d && e.caseIds.contains d.id)) := by
  have hold : (r.descriptors.map fun e =>
        e.withNested (e.hasNestedResultMaps || (r.joinsNested d && e.caseIds.contains d.id))).find?
          (·.id == id)
      = (r.get? id).map fun e =>
          e.withNested (e.hasNestedResultMaps || (r.joinsNested d && e.caseIds.contains d.id)) :=
    List.find?_map ..
  rw [get?, descriptors_register h, List.find?_append, hold]
  split
  · rename_i hid
    subst hid
    rw [get?_eq_none_iff.2 h, List.find?_cons_of_pos (by simp)]
    rfl
  · rename_i hid
    rw [List.find?_cons_of_neg (by simpa using Ne.symm hid), List.find?_nil, Option.or_none]

end Registry

end ResultMapping

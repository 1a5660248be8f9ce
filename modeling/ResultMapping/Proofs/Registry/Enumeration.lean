import ResultMapping.Proofs.Registry.Independence
import ResultMapping.Proofs.Registry.Report

/-!
# Registration in any order of enumeration

Where descriptors are stored in a map, a registration goes through them, and through the cases of
their discriminators, in whatever order the map has them at the time, and it raises flags on its
way. The order is nothing to go by: a visit reads and writes only what is stored under the id that
it is at, and no id is visited twice.

* `run_visit`, `run_visits`: what a visit does, and what visits to different ids do;
* `run_storeNew`, `run_addInOrder_of_not_mem`: what the scan of all stored descriptors and a whole
  registration come to, said without an order;
* `Event.Rearranged`: logs that differ only in the order of forced descriptors, and
  `Event.rearranged_of_perm`;
* `alike_registration`, `alike_registrations`: in any order a registration, and any number of them
  each in an order of its own, come to what they come to in the order of earlier registrations;
* `registration_in_any_order`: so no order can be told from another.
-/

namespace ResultMapping

/-! ## Logs up to the order of forced descriptors -/

namespace Event

/-- The event says that a registered descriptor is forced. -/
def ForcesRegistered (e : Event) : Prop := ∃ id case, e = .forcedByRegistration id case

/-- The same log, but for the order in which registered descriptors are forced: events that say so
may change places where they follow each other. -/
inductive Rearranged : List Event → List Event → Prop
  | nil : Rearranged [] []
  | cons {xs ys : List Event} (e : Event) : Rearranged xs ys → Rearranged (e :: xs) (e :: ys)
  | swap {e f : Event} (xs : List Event) :
    e.ForcesRegistered → f.ForcesRegistered → Rearranged (e :: f :: xs) (f :: e :: xs)
  | trans {xs ys zs : List Event} : Rearranged xs ys → Rearranged ys zs → Rearranged xs zs

namespace Rearranged

variable {xs ys : List Event}

theorem refl (xs : List Event) : Rearranged xs xs := by
  induction xs with
  | nil => exact .nil
  | cons e xs ih => exact .cons e ih

theorem symm (h : Rearranged xs ys) : Rearranged ys xs := by
  induction h with
  | nil => exact .nil
  | cons e _ ih => exact .cons e ih
  | swap xs he hf => exact .swap xs hf he
  | trans _ _ ih₁ ih₂ => exact ih₂.trans ih₁

theorem append_left (before : List Event) (h : Rearranged xs ys) :
    Rearranged (before ++ xs) (before ++ ys) := by
  induction before with
  | nil => exact h
  | cons e before ih => exact .cons e ih

theorem append_right (after : List Event) (h : Rearranged xs ys) :
    Rearranged (xs ++ after) (ys ++ after) := by
  induction h with
  | nil => exact refl after
  | cons e _ ih => exact .cons e ih
  | swap xs he hf => exact .swap (xs ++ after) he hf
  | trans _ _ ih₁ ih₂ => exact ih₁.trans ih₂

end Rearranged

/-- Events that only say who is forced may be in any order. -/
theorem rearranged_of_perm {xs ys : List Event} (h : xs.Perm ys)
    (hforces : ∀ e ∈ xs, e.ForcesRegistered) : Rearranged xs ys := by
  induction h with
  | nil => exact .nil
  | cons e _ ih => exact .cons e (ih (List.forall_mem_cons.1 hforces).2)
  | swap f e xs =>
    obtain ⟨he, hrest⟩ := List.forall_mem_cons.1 hforces
    exact .swap xs he (List.forall_mem_cons.1 hrest).1
  | trans h₁ _ ih₁ ih₂ =>
    exact (ih₁ hforces).trans (ih₂ fun e he => hforces e (h₁.mem_iff.2 he))

end Event

namespace Registry

variable {r s : Registry} {d : Descriptor}

/-! ## What is stored and what is reported -/

/-- The registered descriptors under their ids, in no order that means anything. -/
def stored (r : Registry) : Dictionary Descriptor := r.freeze.descriptors

theorem get?_stored (r : Registry) (id : String) : r.stored.get? id = r.get? id := get?_freeze r id

theorem contains_stored (r : Registry) (id : String) : r.stored.contains id = r.contains id := by
  rw [Bool.eq_iff_iff, Dictionary.contains, ← Dictionary.mem_keys_iff, contains_iff]
  exact mem_keys_freeze

/-- A case is nested if what is stored under its id is. -/
theorem any_get?_stored (r : Registry) (id : String) :
    (r.stored.get? id).any (·.hasNestedResultMaps) = r.isNested id := by
  rw [Bool.eq_iff_iff, isNested_iff, get?_stored, Option.any_eq_true]
  simp only [get?_eq_some_iff, and_assoc]

/-- What is reported of a new descriptor that its cases force. -/
def ownForcing (r : Registry) (d : Descriptor) : List Event :=
  if !d.hasNestedResultMaps && r.joinsNested d then [.forcedByCase d.id] else []

/-- What is reported of the registered descriptors that a nested one of the given id forces. -/
def forcingsBy (r : Registry) (newId : String) : List Event :=
  (r.descriptors.filter (forcesOld Descriptor.caseIds newId)).map (.forcedByRegistration ·.id newId)

theorem forcings_eq (r : Registry) (d : Descriptor) :
    r.forcings d = r.ownForcing d ++ if r.joinsNested d then r.forcingsBy d.id else [] := rfl

theorem forcesRegistered_of_mem_forcingsBy {newId : String} {event : Event}
    (h : event ∈ r.forcingsBy newId) : event.ForcesRegistered := by
  obtain ⟨e, -, rfl⟩ := List.mem_map.1 h
  exact ⟨e.id, newId, rfl⟩

/-! ## Registration in place -/

/-- An order in which maps are gone through: the stored descriptors, by their ids, and the cases of
each discriminator. It may depend on all that is stored. -/
structure Enumeration where
  ids : Dictionary Descriptor → List String
  cases : Descriptor → List String
  perm_ids (stored : Dictionary Descriptor) : (ids stored).Perm stored.keys
  perm_cases (d : Descriptor) : (cases d).Perm d.caseIds

/-- Work on the stored descriptors, with a log. -/
abbrev Storing := ExceptT MappingError (StateM (Dictionary Descriptor × List Event))

def note (event : Event) : Storing Unit := modify fun (stored, log) => (stored, log ++ [event])

def put (id : String) (d : Descriptor) : Storing Unit :=
  modify fun (stored, log) => (stored.insert id d, log)

namespace Enumeration

variable (o : Enumeration)

/-- A new descriptor is forced by a nested case. -/
def forceNew (d : Descriptor) : Storing Descriptor := do
  let (stored, _) ← get
  let nestedCase := (o.cases d).any fun id => (stored.get? id).any (·.hasNestedResultMaps)
  if !d.hasNestedResultMaps && nestedCase then
    note (.forcedByCase d.id)
    pure d.forceNestedResultMaps
  else pure d

/-- Looks at what is stored under an id by now, and forces it if need be. -/
def visit (newId id : String) : Storing Unit := do
  let (stored, _) ← get
  match stored.get? id with
  | some e =>
    if forcesOld o.cases newId e then
      note (.forcedByRegistration e.id newId)
      put id e.forceNestedResultMaps
    else pure ()
  | none => pure ()

/-- A nested descriptor forces the stored ones that have it as a case; then it is stored itself. -/
def storeNew (d : Descriptor) : Storing Unit := do
  if d.hasNestedResultMaps then
    let (stored, _) ← get
    (o.ids stored).forM (o.visit d.id)
  note (.descriptorRegistered d.id d.hasNestedResultMaps)
  put d.id d

/-- Registers a descriptor, unless its id is taken. -/
def addInOrder (d : Descriptor) : Storing Unit := do
  let (stored, _) ← get
  if stored.contains d.id then throw (.duplicateDescriptor d.id)
  else
    let received ← o.forceNew d
    o.storeNew received

/-! ## Any order of cases -/

theorem any_cases (d : Descriptor) (p : String → Bool) : (o.cases d).any p = d.caseIds.any p :=
  (o.perm_cases d).any_eq

theorem forcesOld_cases : forcesOld o.cases = forcesOld Descriptor.caseIds := by
  funext newId e
  rw [forcesOld, forcesOld, (o.perm_cases e).contains_eq]

theorem forcesNew_cases (r : Registry) : r.forcesNew o.cases = r.forcesNew Descriptor.caseIds := by
  funext d
  rw [forcesNew, forcesNew, o.any_cases]

/-- In which order the cases of a discriminator are gone through makes no difference. -/
theorem addScanning_cases (r : Registry) (d : Descriptor) : r.addScanning o.cases d = r.add d := by
  have hreceive : r.receive o.cases d = r.receive Descriptor.caseIds d := by
    rw [receive, receive, o.forcesNew_cases]
  have hforceOld : forceOld o.cases = forceOld Descriptor.caseIds := by
    funext newId ds
    rw [forceOld, forceOld, o.forcesOld_cases]
  have hafter : r.descriptorsAfter o.cases d = r.descriptorsAfter Descriptor.caseIds d := by
    rw [descriptorsAfter, descriptorsAfter, hreceive, hforceOld]
  have hevents : r.eventsOf o.cases d = r.eventsOf Descriptor.caseIds d := by
    rw [eventsOf, eventsOf, hreceive, o.forcesNew_cases, o.forcesOld_cases]
  simp only [Registry.add, addScanning, hafter, hevents]

/-! ## What a registration in place does -/

theorem run_bind_of_ok {α β : Type} {x : Storing α} {f : α → Storing β} {a : α}
    {before after : Dictionary Descriptor × List Event} (h : x.run before = (.ok a, after)) :
    (x >>= f).run before = (f a).run after := by
  show (ExceptT.bindCont f (x.run before).1).run (x.run before).2 = _
  rw [h]
  rfl

/-- A stored descriptor after a visit. -/
def visited (newId : String) (e : Descriptor) : Descriptor :=
  e.withNested (e.hasNestedResultMaps || e.caseIds.contains newId)

/-- What a visit reports. -/
def forcing? (newId : String) (stored : Dictionary Descriptor) (id : String) : Option Event :=
  (stored.get? id).bind fun e =>
    if forcesOld Descriptor.caseIds newId e then some (.forcedByRegistration e.id newId) else none

/-- A visit changes what is stored under its id, and nothing else. -/
theorem run_visit (newId id : String) (stored : Dictionary Descriptor) (log : List Event) :
    ∃ after : Dictionary Descriptor,
      (o.visit newId id).run (stored, log)
        = (.ok (), after, log ++ (forcing? newId stored id).toList) ∧
      after.get? id = (stored.get? id).map (visited newId) ∧
      ∀ k, k ≠ id → after.get? k = stored.get? k := by
  have hrun : (o.visit newId id).run (stored, log) = (match stored.get? id with
      | some e => if forcesOld o.cases newId e then do
          note (.forcedByRegistration e.id newId)
          put id e.forceNestedResultMaps
        else pure ()
      | none => pure () : Storing Unit).run (stored, log) := rfl
  rw [hrun, o.forcesOld_cases, forcing?]
  cases hget : stored.get? id with
  | none =>
    refine ⟨stored, ?_, hget, fun _ _ => rfl⟩
    rw [Option.bind_none, Option.toList_none, List.append_nil]
    rfl
  | some e =>
    have hvisited : (if forcesOld Descriptor.caseIds newId e then e.forceNestedResultMaps else e)
        = visited newId e := e.force_if_eq _
    simp only [Option.bind_some]
    by_cases hforces : forcesOld Descriptor.caseIds newId e = true
    · rw [if_pos hforces] at hvisited ⊢
      refine ⟨stored.insert id e.forceNestedResultMaps, ?_, ?_, fun k hk => ?_⟩
      · rw [if_pos hforces]
        rfl
      · rw [Dictionary.get?_insert, if_pos rfl, hvisited, Option.map_some]
      · rw [Dictionary.get?_insert, if_neg hk]
    · rw [if_neg hforces] at hvisited ⊢
      refine ⟨stored, ?_, ?_, fun _ _ => rfl⟩
      · rw [if_neg hforces, Option.toList_none, List.append_nil]
        rfl
      · rw [hget, Option.map_some, ← hvisited]

/-- Visits to different ids do not see each other's changes. -/
theorem run_visits (newId : String) {ids : List String} (h : ids.Nodup)
    (stored : Dictionary Descriptor) (log : List Event) :
    ∃ after : Dictionary Descriptor,
      (ids.forM (o.visit newId)).run (stored, log)
        = (.ok (), after, log ++ ids.filterMap (forcing? newId stored)) ∧
      ∀ k, after.get? k
        = if k ∈ ids then (stored.get? k).map (visited newId) else stored.get? k := by
  induction ids generalizing stored log with
  | nil => exact ⟨stored, by rw [List.filterMap_nil, List.append_nil]; rfl, fun k => rfl⟩
  | cons id ids ih =>
    obtain ⟨hid, hids⟩ := List.nodup_cons.1 h
    obtain ⟨between, hvisit, hself, hother⟩ := o.run_visit newId id stored log
    obtain ⟨after, hrest, hafter⟩ := ih hids between (log ++ (forcing? newId stored id).toList)
    -- None of the ids still to come is the one just visited, so they are found as they were.
    have hunseen : ids.filterMap (forcing? newId between) = ids.filterMap (forcing? newId stored) :=
      List.filterMap_congr fun k hk => by
        rw [forcing?, forcing?, hother k (ne_of_mem_of_not_mem hk hid)]
    refine ⟨after, ?_, fun k => ?_⟩
    · show (o.visit newId id >>= fun _ => ids.forM (o.visit newId)).run (stored, log) = _
      rw [run_bind_of_ok hvisit, hrest, hunseen, List.append_assoc]
      cases hforcing : forcing? newId stored id with
      | none => rw [List.filterMap_cons_none hforcing]; rfl
      | some event => rw [List.filterMap_cons_some hforcing]; rfl
    · rw [hafter]
      by_cases hk : k = id
      · subst hk
        rw [if_neg hid, if_pos List.mem_cons_self, hself]
      · simp only [hother k hk, List.mem_cons, hk, false_or]

theorem perm_ids_stored (r : Registry) : (o.ids r.stored).Perm r.ids :=
  (o.perm_ids r.stored).trans r.perm_keys_freeze

theorem perm_forcingsBy (newId : String) (r : Registry) :
    ((o.ids r.stored).filterMap (forcing? newId r.stored)).Perm (r.forcingsBy newId) := by
  have hforcing : ∀ e ∈ r.descriptors, forcing? newId r.stored e.id
      = if forcesOld Descriptor.caseIds newId e then some (.forcedByRegistration e.id newId)
        else none := fun e he => by
    rw [forcing?, get?_stored, get?_eq_some_iff.2 ⟨he, rfl⟩, Option.bind_some]
  have hregistered : r.ids.filterMap (forcing? newId r.stored) = r.forcingsBy newId := by
    rw [forcingsBy, Registry.ids, List.filterMap_map, ← List.filterMap_eq_map,
      List.filterMap_filter]
    exact List.filterMap_congr hforcing
  exact hregistered ▸ (o.perm_ids_stored r).filterMap (forcing? newId r.stored)

/-- Going through all that is stored forces those that registration forces. -/
theorem run_visits_stored (newId : String) (r : Registry) (log : List Event) :
    ∃ (after : Dictionary Descriptor) (events : List Event),
      ((o.ids r.stored).forM (o.visit newId)).run (r.stored, log)
        = (.ok (), after, log ++ events) ∧
      (∀ k, after.get? k = (r.get? k).map (visited newId)) ∧
      events.Perm (r.forcingsBy newId) := by
  have hdistinct : (o.ids r.stored).Nodup := (o.perm_ids_stored r).nodup_iff.2 r.distinct
  obtain ⟨after, hrun, hafter⟩ := o.run_visits newId hdistinct r.stored log
  refine ⟨after, _, hrun, fun k => ?_, o.perm_forcingsBy newId r⟩
  rw [hafter, get?_stored]
  split
  · rfl
  · rename_i hk
    have hnone : r.get? k = none := by rwa [get?_eq_none_iff, ← (o.perm_ids_stored r).mem_iff]
    rw [hnone, Option.map_none]

theorem run_forceNew (r : Registry) (d : Descriptor) (log : List Event) :
    (o.forceNew d).run (r.stored, log)
      = (.ok (d.withNested (r.joinsNested d)), r.stored, log ++ r.ownForcing d) := by
  have hforces : (!d.hasNestedResultMaps && (o.cases d).any fun id =>
      (r.stored.get? id).any (·.hasNestedResultMaps)) = r.forcesNew Descriptor.caseIds d := by
    rw [o.any_cases, forcesNew]
    simp only [any_get?_stored]
  have hrun : (o.forceNew d).run (r.stored, log)
      = (if r.forcesNew Descriptor.caseIds d then do
          note (.forcedByCase d.id)
          pure d.forceNestedResultMaps
        else pure d : Storing Descriptor).run (r.stored, log) := by
    rw [← hforces]
    rfl
  rw [hrun, ← receive_eq, receive, ownForcing, ← forcesNew_eq]
  split
  · rfl
  · rw [List.append_nil]
    rfl

/-- A new descriptor is stored as it is, and those that have it as a case are forced if it is
nested. -/
theorem run_storeNew (r : Registry) (d : Descriptor) (log : List Event) :
    ∃ (after : Dictionary Descriptor) (forcings : List Event),
      (o.storeNew d).run (r.stored, log) = (.ok (), after,
        log ++ forcings ++ [.descriptorRegistered d.id d.hasNestedResultMaps]) ∧
      (∀ k, after.get? k = if k = d.id then some d else (r.get? k).map fun e =>
        e.withNested (e.hasNestedResultMaps
          || (d.hasNestedResultMaps && e.caseIds.contains d.id))) ∧
      forcings.Perm (if d.hasNestedResultMaps then r.forcingsBy d.id else []) := by
  rw [storeNew]
  cases hnested : d.hasNestedResultMaps with
  | true =>
    obtain ⟨after, forcings, hvisits, hafter, hperm⟩ := o.run_visits_stored d.id r log
    refine ⟨after.insert d.id d, forcings, ?_, fun k => ?_, hperm⟩
    · show ((o.ids r.stored).forM (o.visit d.id) >>= fun _ => (do
        note (.descriptorRegistered d.id true)
        put d.id d)).run (r.stored, log) = _
      rw [run_bind_of_ok hvisits]
      rfl
    · rw [Dictionary.get?_insert, hafter]
      rfl
  | false =>
    refine ⟨r.stored.insert d.id d, [], ?_, fun k => ?_, .refl _⟩
    · rw [List.append_nil]
      rfl
    · rw [Dictionary.get?_insert, get?_stored]
      simp [Descriptor.withNested_self]

theorem run_addInOrder (d : Descriptor) (stored : Dictionary Descriptor) (log : List Event) :
    (o.addInOrder d).run (stored, log)
      = if stored.contains d.id then (.error (.duplicateDescriptor d.id), stored, log)
        else (o.forceNew d >>= o.storeNew).run (stored, log) := by
  show (if stored.contains d.id then throw (.duplicateDescriptor d.id)
    else o.forceNew d >>= o.storeNew : Storing Unit).run (stored, log) = _
  split <;> rfl

theorem run_addInOrder_of_mem (h : d.id ∈ r.ids) (log : List Event) :
    (o.addInOrder d).run (r.stored, log)
      = (.error (.duplicateDescriptor d.id), r.stored, log) := by
  rw [run_addInOrder, contains_stored, contains_iff.2 h, if_pos rfl]

/-- A descriptor of a new id is registered as it is in any registry, and reported the same but for
the order of those that it forces. -/
theorem run_addInOrder_of_not_mem (h : d.id ∉ r.ids) (log : List Event) :
    ∃ events : List Event,
      (o.addInOrder d).run (r.stored, log) = (.ok (), (r.register d).stored, log ++ events) ∧
      Event.Rearranged events (r.report d) := by
  obtain ⟨after, forcings, hstore, hafter, hperm⟩ :=
    o.run_storeNew r (d.withNested (r.joinsNested d)) (log ++ r.ownForcing d)
  have hsame : after = (r.register d).stored := Dictionary.ext_get? fun k => by
    rw [hafter, get?_stored, get?_register h]
    rfl
  have hforces : ∀ event ∈ forcings, event.ForcesRegistered := fun event hevent => by
    replace hevent := hperm.mem_iff.1 hevent
    split at hevent
    · exact forcesRegistered_of_mem_forcingsBy hevent
    · cases hevent
  refine ⟨r.ownForcing d ++ forcings ++ [.descriptorRegistered d.id (r.joinsNested d)], ?_, ?_⟩
  · rw [run_addInOrder, contains_stored, contains_eq_false_iff.2 h, if_neg Bool.false_ne_true,
      run_bind_of_ok (o.run_forceNew r d log), hstore, hsame, List.append_assoc, List.append_assoc,
      List.append_assoc]
    rfl
  · rw [report_of_not_mem h, forcings_eq]
    exact ((Event.rearranged_of_perm hperm hforces).append_left _).append_right _

end Enumeration

/-! ## Registrations -/

/-- What an attempt to register a descriptor comes to, what is stored after it, and what it
reports. -/
structure Registration where
  result : Except MappingError Unit
  stored : Dictionary Descriptor
  events : List Event

/-- Two registrations that differ at most in the order in which they force descriptors. -/
structure Registration.Alike (a b : Registration) : Prop where
  result : a.result = b.result
  stored : a.stored = b.stored
  events : Event.Rearranged a.events b.events

namespace Registration.Alike

variable {a b c : Registration}

theorem symm (h : a.Alike b) : b.Alike a := ⟨h.result.symm, h.stored.symm, h.events.symm⟩

theorem trans (h : a.Alike b) (h' : b.Alike c) : a.Alike c :=
  ⟨h.result.trans h'.result, h.stored.trans h'.stored, h.events.trans h'.events⟩

end Registration.Alike

/-- Registering a descriptor in the order of earlier registrations. -/
def registration (r : Registry) (d : Descriptor) : Registration :=
  ⟨r.attempt d, (r.register d).stored, r.report d⟩

/-- Registering some descriptors one after the other, in the order of earlier registrations. -/
def registrations (r : Registry) : List Descriptor → List Registration
  | [] => []
  | d :: ds => r.registration d :: registrations (r.register d) ds

/-- Registering a descriptor in any order. -/
def Enumeration.registration (o : Enumeration) (stored : Dictionary Descriptor) (d : Descriptor) :
    Registration :=
  let (result, after, events) := (o.addInOrder d).run (stored, [])
  ⟨result, after, events⟩

/-- Registering some descriptors one after the other, each in an order of its own. -/
def registrationsInOrders (stored : Dictionary Descriptor) :
    List (Enumeration × Descriptor) → List Registration
  | [] => []
  | (o, d) :: steps =>
    let first := o.registration stored d
    first :: registrationsInOrders first.stored steps

/-- In any order a registration comes to what it comes to in the order of earlier registrations. -/
theorem alike_registration (o : Enumeration) (r : Registry) (d : Descriptor) :
    (o.registration r.stored d).Alike (r.registration d) := by
  by_cases h : d.id ∈ r.ids
  · rw [Enumeration.registration, o.run_addInOrder_of_mem h, registration, attempt_eq, if_pos h,
      register_of_mem h, report_of_mem h]
    exact ⟨rfl, rfl, .nil⟩
  · obtain ⟨events, hrun, hevents⟩ := o.run_addInOrder_of_not_mem h []
    rw [Enumeration.registration, hrun, registration, attempt_eq, if_neg h]
    exact ⟨rfl, rfl, hevents⟩

theorem alike_registrations (r : Registry) (steps : List (Enumeration × Descriptor)) :
    List.Forall₂ Registration.Alike (registrationsInOrders r.stored steps)
      (r.registrations (steps.map (·.2))) := by
  induction steps generalizing r with
  | nil => exact .nil
  | cons step steps ih =>
    obtain ⟨o, d⟩ := step
    have hfirst := alike_registration o r d
    have hstored : (o.registration r.stored d).stored = (r.register d).stored := hfirst.stored
    refine .cons hfirst ?_
    rw [hstored]
    exact ih (r.register d)

theorem stored_eq_of_perm (h : r.descriptors.Perm s.descriptors) : r.stored = s.stored := by
  refine Dictionary.ext_get? fun id => ?_
  ext d
  rw [get?_stored, get?_stored, get?_eq_some_iff, get?_eq_some_iff, h.mem_iff]

theorem forall₂_alike_of_common {xs ys zs : List Registration}
    (hxs : List.Forall₂ Registration.Alike xs zs) (hys : List.Forall₂ Registration.Alike ys zs) :
    List.Forall₂ Registration.Alike xs ys := by
  rw [List.forall₂_iff_get] at hxs hys ⊢
  refine ⟨hxs.1.trans hys.1.symm, fun i hx hy => ?_⟩
  exact (hxs.2 i hx (hxs.1 ▸ hx)).trans (hys.2 i hy (hxs.1 ▸ hx)).symm

/-- The order in which descriptors and cases are gone through is not to be told from what
registrations do. Whatever it is, and in whatever order the descriptors were registered, a further
registration has the same result and leaves the same descriptors with the same flags, and it reports
the same but for the order among the registered descriptors that it forces. So do any number of
registrations, each in an order of its own. -/
theorem registration_in_any_order (h : r.descriptors.Perm s.descriptors)
    {steps steps' : List (Enumeration × Descriptor)}
    (hsteps : steps.map (·.2) = steps'.map (·.2)) :
    (∀ (o o' : Enumeration) (d : Descriptor),
      (o.registration r.stored d).Alike (o'.registration s.stored d) ∧
      (o.registration r.stored d).Alike (r.registration d) ∧
      (r.registration d).Alike (s.registration d) ∧
      r.addScanning o.cases d = r.add d) ∧
    List.Forall₂ Registration.Alike (registrationsInOrders r.stored steps)
      (registrationsInOrders s.stored steps') ∧
    List.Forall₂ Registration.Alike (registrationsInOrders r.stored steps)
      (r.registrations (steps.map (·.2))) := by
  have hstored : r.stored = s.stored := stored_eq_of_perm h
  have hboth : ∀ (o : Enumeration) (d : Descriptor),
      (o.registration r.stored d).Alike (r.registration d) ∧
      (o.registration r.stored d).Alike (s.registration d) := fun o d =>
    ⟨alike_registration o r d, hstored ▸ alike_registration o s d⟩
  refine ⟨fun o o' d => ⟨?_, (hboth o d).1, ?_, o.addScanning_cases r d⟩, ?_,
    alike_registrations r steps⟩
  · rw [← hstored]
    exact (hboth o d).1.trans (hboth o' d).1.symm
  · exact (hboth o d).1.symm.trans (hboth o d).2
  · rw [← hstored]
    exact forall₂_alike_of_common (alike_registrations r steps)
      (hsteps ▸ alike_registrations r steps')

namespace Enumeration

/-- Ids go up by code points, and so do the column values of the cases. -/
def forward : Enumeration where
  ids stored := stored.keys
  cases := Descriptor.caseIds
  perm_ids _ := .refl _
  perm_cases _ := .refl _

def backward : Enumeration where
  ids stored := stored.keys.reverse
  cases d := d.caseIds.reverse
  perm_ids stored := stored.keys.reverse_perm
  perm_cases d := d.caseIds.reverse_perm

end Enumeration

open Vehicles Enumeration

/-- The garage is forced before the vehicle or after it, and a second car is rejected either way. -/
theorem garage_and_vehicle_forced :
    (empty.registerAll [vehicle, garage]).descriptors.Perm
      (empty.registerAll [garage, vehicle]).descriptors ∧
    (forward.registration (empty.registerAll [vehicle, garage]).stored
      (car.withNested true)).events
      = [.forcedByRegistration "garage" "car", .forcedByRegistration "vehicle" "car",
        .descriptorRegistered "car" true] ∧
    (backward.registration (empty.registerAll [garage, vehicle]).stored
      (car.withNested true)).events
      = [.forcedByRegistration "vehicle" "car", .forcedByRegistration "garage" "car",
        .descriptorRegistered "car" true] ∧
    (forward.registration (empty.registerAll [vehicle, garage]).stored (car.withNested true)).Alike
      (backward.registration (empty.registerAll [garage, vehicle]).stored
        (car.withNested true)) ∧
    (backward.registration (empty.registerAll [garage, vehicle]).stored
      (car.withNested true)).stored.get? "garage" = some (garage.withNested true) ∧
    List.Forall₂ Registration.Alike
      (registrationsInOrders (empty.registerAll [vehicle, garage]).stored
        [(forward, car.withNested true), (backward, car)])
      (registrationsInOrders (empty.registerAll [garage, vehicle]).stored
        [(backward, car.withNested true), (forward, car)]) := by
  have hperm : (empty.registerAll [vehicle, garage]).descriptors.Perm
      (empty.registerAll [garage, vehicle]).descriptors := by decide
  obtain ⟨hone, hall, -⟩ := registration_in_any_order hperm
    (show [(forward, car.withNested true), (backward, car)].map (·.2)
      = [(backward, car.withNested true), (forward, car)].map (·.2) from rfl)
  exact ⟨hperm, rfl, rfl, (hone forward backward (car.withNested true)).1, rfl, hall⟩

end Registry

end ResultMapping

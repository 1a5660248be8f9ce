import ResultMapping.Proofs.Interception.Recording

/-!
# Failures in chains of recordings

A failure of the target passes through recordings as it is until one of them recovers from it; a
recording that short-circuits keeps the call from the target. Targets are watched here: every call
that reaches one is noted.

* `passAll_eq_error_iff`: an outcome is a failure just when it was one and nothing recovers;
* `reportAll_error`, `reportAll_ok`: the first recording that recovers reports it, and no other;
* `BareTarget.run_invoke_wrapAll_watched`: how often the target is called, when the call fails, and
  which events it leaves.
-/

namespace ResultMapping

variable {σ : Type}

/-- A call as it arrives at a target. -/
abbrev Arrival := String × List Json

/-- A target that answers from a state of its own. It may write to the log of calls, but has no part
in the events. -/
structure BareTarget (σ : Type) where
  type : String
  answer : String → List Json → σ → Outcome × σ
  /-- What a call writes to the log. -/
  lines : String → List Json → σ → List String := fun _ _ _ => []

/-- The target, with its calls noted beside its state in the order in which they arrive. -/
def BareTarget.watched (t : BareTarget σ) : Target (σ × List Arrival) where
  type := t.type
  invoke operation args := fun run =>
    let (state, arrivals) := run.state
    let (outcome, state') := t.answer operation args state
    (outcome, { run with
      state := (state', arrivals ++ [(operation, args)])
      calls := run.calls ++ t.lines operation args state })

namespace Recording

def recovers (r : Recording) : Bool :=
  match r.behavior with
  | .recover _ => true
  | _ => false

def shortCircuits (r : Recording) : Bool := r.shortCircuit?.isSome

/-- What recordings report of the outcome of the target they are around: if it fails and they let
the call through to it, the first that recovers says so. -/
def recovery (ms : List Recording) (outcome : Outcome) : List Event :=
  match outcome with
  | .ok _ => []
  | .error e =>
    if ms.any (·.shortCircuits) then []
    else ((ms.find? (·.recovers)).map fun r => .failureRecovered r.name e).toList

/-! ## One recording -/

theorem pass_ok (r : Recording) (value : Json) :
    (∃ value', r.pass (.ok value) = .ok value') ∧ r.report (.ok value) = [] := by
  obtain ⟨name, behavior, signature⟩ := r
  cases behavior <;> exact ⟨⟨_, rfl⟩, rfl⟩

theorem pass_error_of_recovers {r : Recording} (h : r.recovers = true) (e : Error) :
    (∃ value, r.pass (.error e) = .ok value) ∧
      r.report (.error e) = [.failureRecovered r.name e] := by
  obtain ⟨name, behavior, signature⟩ := r
  cases behavior with
  | recover value => exact ⟨⟨value, rfl⟩, rfl⟩
  | proceed => cases h
  | shortCircuit value => cases h
  | wrapResult => cases h

theorem pass_error_of_not_recovers {r : Recording} (h : r.recovers = false) (e : Error) :
    r.pass (.error e) = .error e ∧ r.report (.error e) = [] := by
  obtain ⟨name, behavior, signature⟩ := r
  cases behavior with
  | recover value => cases h
  | proceed => exact ⟨rfl, rfl⟩
  | shortCircuit value => exact ⟨rfl, rfl⟩
  | wrapResult => exact ⟨rfl, rfl⟩

theorem pass_eq_error_iff {r : Recording} {outcome : Outcome} {e : Error} :
    r.pass outcome = .error e ↔ r.recovers = false ∧ outcome = .error e := by
  cases outcome with
  | ok value =>
    obtain ⟨⟨value', hpass⟩, -⟩ := r.pass_ok value
    simp [hpass]
  | error e' =>
    cases hr : r.recovers with
    | false => simp [(pass_error_of_not_recovers hr e').1]
    | true =>
      obtain ⟨⟨value, hpass⟩, -⟩ := pass_error_of_recovers hr e'
      simp [hpass]

/-! ## Outcomes on their way out -/

theorem passAll_eq_error_iff {ms : List Recording} {outcome : Outcome} {e : Error} :
    passAll ms outcome = .error e ↔ (∀ r ∈ ms, r.recovers = false) ∧ outcome = .error e := by
  induction ms generalizing outcome with
  | nil => simp [passAll]
  | cons r ms ih =>
    rw [show passAll (r :: ms) outcome = passAll ms (r.pass outcome) from rfl, ih,
      pass_eq_error_iff, List.forall_mem_cons, and_left_comm, and_assoc]

theorem reportAll_ok (ms : List Recording) (value : Json) : reportAll ms (.ok value) = [] := by
  induction ms generalizing value with
  | nil => rfl
  | cons r ms ih =>
    obtain ⟨⟨value', hpass⟩, hreport⟩ := r.pass_ok value
    rw [reportAll, hreport, hpass, ih, List.append_nil]

/-- A failure is reported by the first recording that recovers from it. -/
theorem reportAll_error (ms : List Recording) (e : Error) :
    reportAll ms (.error e)
      = ((ms.find? (·.recovers)).map fun r => Event.failureRecovered r.name e).toList := by
  induction ms with
  | nil => rfl
  | cons r ms ih =>
    cases hr : r.recovers with
    | false =>
      obtain ⟨hpass, hreport⟩ := pass_error_of_not_recovers hr e
      rw [reportAll, hreport, hpass, ih, List.nil_append, List.find?_cons_of_neg (by simp [hr])]
    | true =>
      obtain ⟨⟨value, hpass⟩, hreport⟩ := pass_error_of_recovers hr e
      rw [reportAll, hreport, hpass, reportAll_ok, List.append_nil,
        List.find?_cons_of_pos (by simp [hr])]
      rfl

/-! ## Calls of watched targets -/

theorem any_shortCircuits (ms : List Recording) :
    ms.any (·.shortCircuits) = (lastAnswer? ms).isSome := by
  rcases lastShortCircuit_cases ms with
    ⟨-, hnone⟩ | ⟨inner, r, outer, value, rfl, hr, -, hlast⟩
  · rw [lastAnswer?_of_forall_none hnone]
    exact List.any_eq_false.2 fun r hr => by simp [shortCircuits, hnone r hr]
  · rw [lastAnswer?_append_cons hlast]
    simp [shortCircuits, hr]

theorem reportAll_eq_recovery {ms : List Recording} (h : ms.any (·.shortCircuits) = false)
    (outcome : Outcome) : reportAll ms outcome = recovery ms outcome := by
  cases outcome with
  | ok value => exact reportAll_ok ms value
  | error e => rw [reportAll_error, recovery, h, if_neg Bool.false_ne_true]

theorem recovery_eq_nil {ms : List Recording} (h : ms.any (·.shortCircuits) = true)
    (outcome : Outcome) : recovery ms outcome = [] := by
  cases outcome with
  | ok value => rfl
  | error e => rw [recovery, h, if_pos rfl]

/-- What a recovery shows is the failure of the target. -/
theorem fields_of_mem_recovery {ms : List Recording} {outcome : Outcome} {event : Event}
    (h : event ∈ recovery ms outcome) :
    ∃ r ∈ ms, ∃ e, outcome = .error e ∧ event.message = "Recovering from failure" ∧
      event.fields = [("interceptor", .string r.name), ("error", .string e.message)] := by
  cases outcome with
  | ok value => cases h
  | error e =>
    rw [recovery] at h
    split at h
    · cases h
    · rw [Option.mem_toList, Option.map_eq_some_iff] at h
      obtain ⟨r, hr, rfl⟩ := h
      exact ⟨r, List.mem_of_find?_eq_some hr, e, rfl, rfl, rfl⟩

/-- With no short circuit a call fails if the target does and nothing recovers. -/
theorem passAll_eq_error_iff_of_proceeding {ms : List Recording}
    (h : ms.any (·.shortCircuits) = false) {outcome : Outcome} {e : Error} :
    passAll ms outcome = .error e ↔
      (∀ r ∈ ms, r.shortCircuits = false ∧ r.recovers = false) ∧ outcome = .error e := by
  have hproceed : ∀ r ∈ ms, r.shortCircuits = false := by simpa using h
  rw [passAll_eq_error_iff]
  exact and_congr_left fun _ => forall₂_congr fun r hr => (and_iff_right (hproceed r hr)).symm

/-- With a short circuit no call fails. -/
theorem passAll_ok_eq_error_iff_of_shortCircuit {ms outer : List Recording}
    (h : ms.any (·.shortCircuits) = true) {value : Json} {outcome : Outcome} {e : Error} :
    passAll outer (.ok value) = .error e ↔
      (∀ r ∈ ms, r.shortCircuits = false ∧ r.recovers = false) ∧ outcome = .error e := by
  obtain ⟨r, hr, hshort⟩ := List.any_eq_true.1 h
  refine iff_of_false (fun herror => ?_) fun hnone => ?_
  · cases (passAll_eq_error_iff.1 herror).2
  · exact Bool.false_ne_true ((hnone.1 r hr).1.symm.trans hshort)

/-- Through a chain of recordings, a watched target is called once, with the operation and the
arguments that were given, if no recording that covers the call short-circuits, and else never. The
call fails just when the target does and none of them short-circuits or recovers, and then with the
target's error. Of the events, the layers that are reached come first, the outermost before the
others; a recovery comes last, with the target's error, from the first registered recording that
recovers. -/
theorem run_invoke_wrapAll_watched (t : BareTarget σ) (rs : List Recording) (limit : Nat)
    (run : Run (σ × List Arrival)) :
    ∃ proxy, ((chain rs limit).wrapAll t.watched).run run
        = (proxy, { run with events := run.events
            ++ Layer.wrapEvents (rs.map layer : List (Layer (σ × List Arrival))) t.type }) ∧
      ∀ (operation : String) (args : List Json) (before : Run (σ × List Arrival)),
        let ms := covering rs t.type operation
        let direct := t.answer operation args before.state.1
        ∃ outcome after, (proxy.invoke operation args).run before = (outcome, after) ∧
          after.state = (if ms.any (·.shortCircuits) then before.state
            else (direct.2, before.state.2 ++ [(operation, args)])) ∧
          (∀ e, outcome = .error e ↔
            (∀ r ∈ ms, r.shortCircuits = false ∧ r.recovers = false) ∧ direct.1 = .error e) ∧
          after.events = before.events
            ++ (ms.drop (lastShortCircuit ms - 1)).reverse.map
              (fun r => .callIntercepted r.name t.type operation)
            ++ recovery ms direct.1 ∧
          ∀ event ∈ recovery ms direct.1, ∃ r ∈ ms, ∃ e, direct.1 = .error e ∧
            event.message = "Recovering from failure" ∧
            event.fields = [("interceptor", .string r.name), ("error", .string e.message)] := by
  refine ⟨_, run_wrapAll_chain rs limit t.watched run, fun operation args before => ?_⟩
  intro ms direct
  have hany : ms.any (·.shortCircuits) = (lastAnswer? ms).isSome := any_shortCircuits ms
  cases hanswer : lastAnswer? ms with
  | none =>
    rw [hanswer, Option.isSome_none] at hany
    refine ⟨_, _, run_invoke_of_proceeding hanswer args before, ?_,
      fun e => passAll_eq_error_iff_of_proceeding hany, ?_, fun _ => fields_of_mem_recovery⟩
    · rw [hany]
      rfl
    · rw [lastAnswer?_eq_none_iff.1 hanswer, ← reportAll_eq_recovery hany]
      rfl
  | some value =>
    rw [hanswer, Option.isSome_some] at hany
    refine ⟨_, _, run_invoke_of_shortCircuit hanswer args before, ?_,
      fun e => passAll_ok_eq_error_iff_of_shortCircuit hany, ?_, fun _ => fields_of_mem_recovery⟩
    · rw [hany]
      rfl
    · rw [recovery_eq_nil hany, ← reportAll_ok (ms.drop (lastShortCircuit ms - 1)) value]
      rfl

/-- Recovers from every failure. -/
def backup (name : String) : Recording := ⟨name, .recover .null, .always⟩

/-- An executor on which every call fails for the same reason. -/
def deadlocked : BareTarget Unit where
  type := "Executor"
  answer operation _ state :=
    (.error (.interception (.operationFailed "Executor" operation "deadlock")), state)

/-- Of two recordings that could recover the one registered first does, with the error of the
executor's one call. -/
theorem first_backup_recovers :
    ∃ proxy, ((chain [backup "first", backup "second"] 64).wrapAll deadlocked.watched).run
          ⟨((), []), [], []⟩
        = (proxy, ⟨((), []), [], [.targetWrapped "first" "Executor",
            .targetWrapped "second" "Executor"]⟩) ∧
      ∃ outcome after, (proxy.invoke "query" []).run ⟨((), []), [], []⟩ = (outcome, after) ∧
        after.state = ((), [("query", [])]) ∧
        (∀ e, outcome ≠ .error e) ∧
        after.events = [.callIntercepted "second" "Executor" "query",
          .callIntercepted "first" "Executor" "query",
          .failureRecovered "first"
            (.interception (.operationFailed "Executor" "query" "deadlock"))] ∧
        ∃ r ∈ [backup "first", backup "second"], ∃ e : Error,
          (deadlocked.answer "query" [] ()).1 = .error e ∧
          (Event.failureRecovered "first"
            (.interception (.operationFailed "Executor" "query" "deadlock"))).fields
            = [("interceptor", .string r.name), ("error", .string e.message)] := by
  obtain ⟨proxy, hwrap, hcalls⟩ := run_invoke_wrapAll_watched deadlocked
    [backup "first", backup "second"] 64 ⟨((), []), [], []⟩
  obtain ⟨outcome, after, hrun, hstate, herror, hevents, hshown⟩ :=
    hcalls "query" [] ⟨((), []), [], []⟩
  obtain ⟨r, hr, e, hfailed, -, hfields⟩ := hshown _ List.mem_cons_self
  refine ⟨proxy, hwrap, outcome, after, hrun, hstate, fun e' he' => ?_, hevents,
    r, hr, e, hfailed, hfields⟩
  exact Bool.false_ne_true
    (((herror e').1 he').1 (backup "first") List.mem_cons_self).2.symm

end Recording

end ResultMapping

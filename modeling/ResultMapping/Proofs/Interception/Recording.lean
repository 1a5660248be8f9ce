import ResultMapping.Interception.Recording
import ResultMapping.Proofs.Interception.Dispatch

/-!
# Calls through recording interceptors

A call goes in through the recordings that cover it, the last registered first, until one of them
short-circuits or the target is reached, and its outcome comes out again through the same ones. Each
writes a line on the way in and a line on the way out, so the log is bracketed whatever happens in
between.

* `run_body_of_shortCircuit`, `run_body_of_proceeding`: what one recording does;
* `run_compose_of_proceeding`: what recordings that all proceed do, by induction on them;
* `run_compose_of_shortCircuit`: those inside the last that short-circuits do nothing;
* `Recording.run_invoke_wrapAll`: log and outcome of any call through a chain of recordings.
-/

namespace ResultMapping

variable {σ : Type}

namespace Recording

/-- The value with which the recording answers instead of proceeding. -/
def shortCircuit? (r : Recording) : Option Json :=
  match r.behavior with
  | .shortCircuit value => some value
  | _ => none

/-- What the recording makes of the outcome of proceeding. -/
def pass (r : Recording) (outcome : Outcome) : Outcome :=
  match r.behavior, outcome with
  | .wrapResult, .ok value => .ok (.object [(r.name, value)])
  | .recover value, .error _ => .ok value
  | _, outcome => outcome

/-- What the recording reports of the outcome of proceeding. -/
def report (r : Recording) (outcome : Outcome) : List Event :=
  match r.behavior, outcome with
  | .recover _, .error e => [.failureRecovered r.name e]
  | _, _ => []

/-- An outcome on its way out through some recordings, the first of them innermost. -/
def passAll (ms : List Recording) (outcome : Outcome) : Outcome :=
  ms.foldl (fun outcome r => r.pass outcome) outcome

/-- What is reported on this way. -/
def reportAll : List Recording → Outcome → List Event
  | [], _ => []
  | r :: ms, outcome => r.report outcome ++ reportAll ms (r.pass outcome)

/-- The number, counted from one, of the last recording that short-circuits; zero if none does. -/
def lastShortCircuit : List Recording → Nat
  | [] => 0
  | r :: ms =>
    match lastShortCircuit ms with
    | 0 => if r.shortCircuit?.isSome then 1 else 0
    | s + 1 => s + 2

/-- The value of the last recording that short-circuits. -/
def lastAnswer? (ms : List Recording) : Option Json :=
  ms[lastShortCircuit ms - 1]?.bind (·.shortCircuit?)

/-- The recordings that cover an operation. -/
def covering (rs : List Recording) (type operation : String) : List Recording :=
  rs.filter (·.signature.covers type operation)

/-- The chain of some recordings, in the order of their registration. -/
def chain (rs : List Recording) (limit : Nat) : Chain σ := ⟨rs.map (·.interceptor), limit⟩

/-- The recording as a layer: of the target it needs no more than a way to proceed. -/
def layer (r : Recording) : Layer σ where
  name := r.name
  signature := r.signature
  body operation args proceed :=
    r.intercept ⟨{ type := "", invoke := fun _ _ => proceed }, operation, args⟩

end Recording

/-- The run after a call has gone in through some recordings, the first of them innermost. -/
def Run.enter (run : Run σ) (ms : List Recording) (type operation : String) : Run σ :=
  { run with
    calls := run.calls ++ ms.reverse.map (·.name ++ ":before")
    events := run.events ++ ms.reverse.map fun r => .callIntercepted r.name type operation }

/-- The run after an outcome has come out through some recordings. -/
def Run.leave (run : Run σ) (ms : List Recording) (outcome : Outcome) : Run σ :=
  { run with
    calls := run.calls ++ ms.map (·.name ++ ":after")
    events := run.events ++ Recording.reportAll ms outcome }

theorem Run.enter_nil (run : Run σ) (type operation : String) :
    run.enter [] type operation = run := by
  simp only [Run.enter, List.reverse_nil, List.map_nil, List.append_nil]

theorem Run.leave_nil (run : Run σ) (outcome : Outcome) : run.leave [] outcome = run := by
  simp only [Run.leave, Recording.reportAll, List.map_nil, List.append_nil]

theorem Run.enter_cons (run : Run σ) (r : Recording) (ms : List Recording)
    (type operation : String) :
    (run.enter ms type operation).enter [r] type operation
      = run.enter (r :: ms) type operation := by
  simp [Run.enter]

theorem Run.leave_cons (run : Run σ) (r : Recording) (ms : List Recording) (outcome : Outcome) :
    (run.leave [r] outcome).leave ms (r.pass outcome) = run.leave (r :: ms) outcome := by
  simp [Run.leave, Recording.reportAll]

namespace Recording

/-! ## Recordings as layers -/

theorem interceptor_layer (r : Recording) : (r.layer : Layer σ).interceptor = r.interceptor := rfl

theorem chain_eq (rs : List Recording) (limit : Nat) :
    (chain rs limit : Chain σ) = Layer.chain (rs.map layer) limit := by
  rw [chain, Layer.chain, List.map_map]
  exact congrArg (Chain.mk · limit) (List.map_congr_left fun r _ => (interceptor_layer r).symm)

theorem covering_map_layer (rs : List Recording) (type operation : String) :
    (Layer.covering (rs.map layer) type operation : List (Layer σ))
      = (covering rs type operation).map layer := List.filter_map

/-! ## One recording -/

theorem behavior_of_shortCircuit? {r : Recording} {value : Json}
    (h : r.shortCircuit? = some value) : r.behavior = .shortCircuit value := by
  rw [shortCircuit?] at h
  split at h
  · next v hr => rw [hr, Option.some_inj.1 h]
  · cases h

theorem pass_of_shortCircuit {r : Recording} {value : Json} (h : r.shortCircuit? = some value)
    (outcome : Outcome) : r.pass outcome = outcome := by
  simp only [pass, behavior_of_shortCircuit? h]

theorem report_of_shortCircuit {r : Recording} {value : Json} (h : r.shortCircuit? = some value)
    (outcome : Outcome) : r.report outcome = [] := by
  simp only [report, behavior_of_shortCircuit? h]

theorem run_answer_of_proceeding {r : Recording} (h : r.shortCircuit? = none) (call : Call σ)
    (run : Run σ) :
    (r.answer call).run run
      = (r.pass (call.proceed.run run).1,
        { (call.proceed.run run).2 with
          events := (call.proceed.run run).2.events ++ r.report (call.proceed.run run).1 }) := by
  obtain ⟨name, behavior, signature⟩ := r
  cases behavior with
  | shortCircuit v => cases h
  | proceed =>
    simp only [answer, pass, report, List.append_nil]
    rfl
  | wrapResult =>
    simp only [answer, Effect.run_bind]
    obtain ⟨outcome, back⟩ := call.proceed.run run
    cases outcome <;> simp only [pass, report, List.append_nil] <;> rfl
  | recover v =>
    simp only [answer, Effect.run_bind]
    obtain ⟨outcome, back⟩ := call.proceed.run run
    cases outcome <;> simp only [pass, report, List.append_nil] <;> rfl

theorem run_body (r : Recording) (type operation : String) (args : List Json)
    (proceed : Effect σ Outcome) (run : Run σ) :
    ((r.layer.announced type).body operation args proceed).run run =
      let answered := (r.answer ⟨{ type := "", invoke := fun _ _ => proceed }, operation, args⟩).run
        (run.enter [r] type operation)
      (answered.1, { answered.2 with calls := answered.2.calls ++ [r.name ++ ":after"] }) := rfl

theorem run_body_of_shortCircuit {r : Recording} {value : Json} (h : r.shortCircuit? = some value)
    (type operation : String) (args : List Json) (proceed : Effect σ Outcome) (run : Run σ) :
    ((r.layer.announced type).body operation args proceed).run run
      = (.ok value, (run.enter [r] type operation).leave [r] (.ok value)) := by
  have hanswer (call : Call σ) : r.answer call = pure (.ok value) := by
    rw [answer, behavior_of_shortCircuit? h]
  rw [run_body, hanswer, Run.leave, reportAll, reportAll, report_of_shortCircuit h, List.append_nil,
    List.append_nil]
  rfl

theorem run_body_of_proceeding {r : Recording} (h : r.shortCircuit? = none)
    (type operation : String) (args : List Json) (proceed : Effect σ Outcome) (run : Run σ) :
    ((r.layer.announced type).body operation args proceed).run run
      = (r.pass (proceed.run (run.enter [r] type operation)).1,
        (proceed.run (run.enter [r] type operation)).2.leave [r]
          (proceed.run (run.enter [r] type operation)).1) := by
  rw [run_body, run_answer_of_proceeding h]
  simp [Run.leave, reportAll, Call.proceed]

/-! ## Recordings around a call -/

/-- Recordings that all proceed take the call in and its outcome out. -/
theorem run_compose_of_proceeding {ms : List Recording} (h : ∀ r ∈ ms, r.shortCircuit? = none)
    (type operation : String) (args : List Json) (call : Effect σ Outcome) (run : Run σ) :
    (Layer.compose (ms.map fun r => r.layer.announced type) operation args call).run run
      = (passAll ms (call.run (run.enter ms type operation)).1,
        (call.run (run.enter ms type operation)).2.leave ms
          (call.run (run.enter ms type operation)).1) := by
  induction ms generalizing call with
  | nil =>
    rw [Run.enter_nil, Run.leave_nil]
    rfl
  | cons r ms ih =>
    rw [List.map_cons, Layer.compose_cons, ih fun r' hr' => h r' (List.mem_cons_of_mem _ hr'),
      run_body_of_proceeding (h r List.mem_cons_self), Run.enter_cons, Run.leave_cons]
    rfl

/-- Inside a recording that short-circuits nothing is done. -/
theorem run_compose_of_shortCircuit (inner : List Recording) {r : Recording} {value : Json}
    {outer : List Recording} (hr : r.shortCircuit? = some value)
    (houter : ∀ r ∈ outer, r.shortCircuit? = none) (type operation : String) (args : List Json)
    (call : Effect σ Outcome) (run : Run σ) :
    (Layer.compose ((inner ++ r :: outer).map fun r => r.layer.announced type) operation args
        call).run run
      = (passAll outer (.ok value),
        (run.enter (r :: outer) type operation).leave (r :: outer) (.ok value)) := by
  have hleave := Run.leave_cons (run.enter (r :: outer) type operation) r outer (.ok value)
  rw [pass_of_shortCircuit hr] at hleave
  rw [List.map_append, List.map_cons, Layer.compose_append, Layer.compose_cons,
    run_compose_of_proceeding houter, run_body_of_shortCircuit hr, Run.enter_cons, hleave]

/-! ## The last short circuit -/

/-- Either none of the recordings short-circuits, or the last one that does stands between some
others and some that proceed. -/
theorem lastShortCircuit_cases (ms : List Recording) :
    (lastShortCircuit ms = 0 ∧ ∀ r ∈ ms, r.shortCircuit? = none) ∨
    ∃ inner r outer value, ms = inner ++ r :: outer ∧ r.shortCircuit? = some value ∧
      (∀ r ∈ outer, r.shortCircuit? = none) ∧ lastShortCircuit ms = inner.length + 1 := by
  induction ms with
  | nil => exact .inl ⟨rfl, nofun⟩
  | cons r ms ih =>
    rcases ih with ⟨hzero, hnone⟩ | ⟨inner, r', outer, value, rfl, hr', houter, hlast⟩
    · cases hr : r.shortCircuit? with
      | none =>
        refine .inl ⟨by simp [lastShortCircuit, hzero, hr], fun r' hr' => ?_⟩
        rcases List.mem_cons.1 hr' with rfl | hr'
        · exact hr
        · exact hnone r' hr'
      | some value =>
        exact .inr ⟨[], r, ms, value, rfl, hr, hnone, by simp [lastShortCircuit, hzero, hr]⟩
    · exact .inr ⟨r :: inner, r', outer, value, rfl, hr', houter, by simp [lastShortCircuit, hlast]⟩

theorem lastAnswer?_of_forall_none {ms : List Recording} (h : ∀ r ∈ ms, r.shortCircuit? = none) :
    lastAnswer? ms = none := by
  rw [lastAnswer?, Option.bind_eq_none_iff]
  exact fun r hr => h r (List.mem_of_getElem? hr)

theorem lastAnswer?_append_cons {inner outer : List Recording} {r : Recording}
    (h : lastShortCircuit (inner ++ r :: outer) = inner.length + 1) :
    lastAnswer? (inner ++ r :: outer) = r.shortCircuit? := by
  simp [lastAnswer?, h]

theorem lastAnswer?_eq_none_iff {ms : List Recording} :
    lastAnswer? ms = none ↔ lastShortCircuit ms = 0 := by
  rcases lastShortCircuit_cases ms with
    ⟨hzero, hnone⟩ | ⟨inner, r, outer, value, rfl, hr, -, hlast⟩
  · simp [hzero, lastAnswer?_of_forall_none hnone]
  · simp [hlast, lastAnswer?_append_cons hlast, hr]

/-! ## Chains of recordings -/

theorem run_wrapAll_chain (rs : List Recording) (limit : Nat) (target : Target σ) (run : Run σ) :
    ((chain rs limit).wrapAll target).run run
      = (Layer.encloseAll target (rs.map layer),
        { run with events :=
            run.events ++ Layer.wrapEvents (rs.map layer : List (Layer σ)) target.type }) := by
  rw [chain_eq, Layer.run_wrapAll]

theorem invoke_encloseAll_layers (rs : List Recording) (target : Target σ) (operation : String)
    (args : List Json) :
    (Layer.encloseAll target (rs.map layer)).invoke operation args
      = Layer.compose
          ((covering rs target.type operation).map fun r => r.layer.announced target.type)
          operation args (target.invoke operation args) := by
  rw [Layer.invoke_encloseAll, covering_map_layer, List.map_map]
  rfl

/-- If no recording short-circuits, the call goes in through all that cover it, and the outcome of
the target comes out through them. -/
theorem run_invoke_of_proceeding {rs : List Recording} {target : Target σ} {operation : String}
    (h : lastAnswer? (covering rs target.type operation) = none) (args : List Json)
    (run : Run σ) :
    ((Layer.encloseAll target (rs.map layer)).invoke operation args).run run =
      let ms := covering rs target.type operation
      let (outcome, back) := (target.invoke operation args).run (run.enter ms target.type operation)
      (passAll ms outcome, back.leave ms outcome) := by
  rw [invoke_encloseAll_layers]
  rcases lastShortCircuit_cases (covering rs target.type operation) with
    ⟨-, hnone⟩ | ⟨inner, r, outer, value, hms, hr, -, hlast⟩
  · exact run_compose_of_proceeding hnone ..
  · rw [hms] at h hlast
    rw [lastAnswer?_append_cons hlast, hr] at h
    cases h

/-- Otherwise the last that short-circuits answers, and the target is not called. -/
theorem run_invoke_of_shortCircuit {rs : List Recording} {target : Target σ} {operation : String}
    {value : Json} (h : lastAnswer? (covering rs target.type operation) = some value)
    (args : List Json) (run : Run σ) :
    ((Layer.encloseAll target (rs.map layer)).invoke operation args).run run =
      let ms := covering rs target.type operation
      let reached := ms.drop (lastShortCircuit ms - 1)
      (passAll (ms.drop (lastShortCircuit ms)) (.ok value),
        (run.enter reached target.type operation).leave reached (.ok value)) := by
  rw [invoke_encloseAll_layers]
  rcases lastShortCircuit_cases (covering rs target.type operation) with
    ⟨-, hnone⟩ | ⟨inner, r, outer, value', hms, -, houter, hlast⟩
  · rw [lastAnswer?_of_forall_none hnone] at h
    cases h
  · rw [hms] at h hlast
    rw [lastAnswer?_append_cons hlast] at h
    have hdrop : (inner ++ r :: outer).drop (inner.length + 1) = outer := by
      rw [← List.drop_drop, List.drop_left, List.drop_one, List.tail_cons]
    simp only [hms, hlast, hdrop, Nat.add_sub_cancel, List.drop_left]
    exact run_compose_of_shortCircuit inner h houter ..

/-- A call through a chain of recordings around a target that logs its calls as they do. Of the
recordings that cover it those from the last short circuit on, or all of them, log it on the way in,
the last registered first; the target logs it if none short-circuits; and the same ones log it on
the way out, the first registered first. The outcome comes from the last short circuit or the
target, through the recordings registered after that, the first registered first. -/
theorem run_invoke_wrapAll (rs : List Recording) (limit : Nat) (component : Component)
    (outcome : Outcome) (run : Run σ) :
    ∃ proxy, ((chain rs limit).wrapAll (StandIn.scripted component outcome)).run run
        = (proxy, { run with events :=
            run.events ++ Layer.wrapEvents (rs.map layer : List (Layer σ)) component.name }) ∧
      ∀ (operation : String) (args : List Json) (before : Run σ),
        let ms := covering rs component.name operation
        let s := lastShortCircuit ms
        ∃ after, (proxy.invoke operation args).run before
            = (passAll (ms.drop s) ((lastAnswer? ms).elim outcome .ok), after) ∧
          after.state = before.state ∧
          after.calls = before.calls ++ (ms.drop (s - 1)).reverse.map (·.name ++ ":before")
            ++ (if s = 0 then ["target:" ++ operation] else [])
            ++ (ms.drop (s - 1)).map (·.name ++ ":after") := by
  refine ⟨_, run_wrapAll_chain rs limit _ run, fun operation args before => ?_⟩
  intro ms s
  cases hanswer : lastAnswer? ms with
  | none =>
    have hzero : s = 0 := lastAnswer?_eq_none_iff.1 hanswer
    rw [hzero, if_pos rfl]
    exact ⟨_, run_invoke_of_proceeding hanswer args before, rfl, rfl⟩
  | some value =>
    have hpos : s ≠ 0 := fun hzero => by
      rw [lastAnswer?_eq_none_iff.2 hzero] at hanswer
      cases hanswer
    rw [if_neg hpos, List.append_nil]
    exact ⟨_, run_invoke_of_shortCircuit hanswer args before, rfl, rfl⟩

end Recording

end ResultMapping

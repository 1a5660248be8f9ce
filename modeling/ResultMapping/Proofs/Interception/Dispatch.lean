import ResultMapping.Interception.Chain
import ResultMapping.Interception.StandIn

/-!
# Calls through a chain

A chain puts proxies around a target, of which each asks its signature again at every call. For
interceptors that use a call only through its operation and arguments and by proceeding, what comes
of a call is the plain composition of those whose signatures cover it around the call of the target.

* `run_wrap`, `invoke_wrapped`: what one interceptor makes of a target, and of its calls;
* `run_wrapAll`: what a chain makes of a target, and what that leaves behind;
* `invoke_encloseAll`: a call of what it makes is the composition of the layers that cover it;
* `alike_compose`: the events that proxies report make no other difference to a composition;
* `wrapAll_eq_compose`: what calling through a chain comes to.
-/

namespace ResultMapping

variable {σ : Type}

/-- An interceptor that knows nothing of the target but what proceeding does. -/
structure Layer (σ : Type) where
  name : String
  signature : Signature
  /-- What is done with an operation and its arguments, given a way to proceed. -/
  body : String → List Json → Effect σ Outcome → Effect σ Outcome

namespace Layer

def interceptor (l : Layer σ) : Interceptor σ where
  name := l.name
  signature := l.signature
  intercept call := l.body call.operation call.args call.proceed

/-- Layers stand for the interceptors that wrap what they are offered and that see of a call only
its operation, its arguments and what proceeding does. -/
theorem exists_interceptor_eq_iff {i : Interceptor σ} :
    (∃ l : Layer σ, l.interceptor = i) ↔ i.wraps = true ∧
      ∃ body : String → List Json → Effect σ Outcome → Effect σ Outcome,
        ∀ call, i.intercept call = body call.operation call.args call.proceed := by
  constructor
  · rintro ⟨l, rfl⟩
    exact ⟨rfl, l.body, fun _ => rfl⟩
  · rintro ⟨hwraps, body, hbody⟩
    refine ⟨⟨i.name, i.signature, body⟩, ?_⟩
    obtain ⟨name, signature, intercept, wraps⟩ := i
    obtain rfl : wraps = true := hwraps
    obtain rfl : intercept = _ := funext hbody
    rfl

/-- The layer as proxies run it: each call of it is among the events. -/
def announced (l : Layer σ) (type : String) : Layer σ where
  name := l.name
  signature := l.signature
  body operation args proceed := do
    emit (.callIntercepted l.name type operation)
    l.body operation args proceed

/-- The layers around a call, the first innermost; all are given the same operation and
arguments. -/
def compose (layers : List (Layer σ)) (operation : String) (args : List Json)
    (call : Effect σ Outcome) : Effect σ Outcome :=
  layers.foldl (fun proceed l => l.body operation args proceed) call

theorem compose_cons (l : Layer σ) (layers : List (Layer σ)) (operation : String)
    (args : List Json) (call : Effect σ Outcome) :
    compose (l :: layers) operation args call
      = compose layers operation args (l.body operation args call) := rfl

theorem compose_append (inner outer : List (Layer σ)) (operation : String) (args : List Json)
    (call : Effect σ Outcome) :
    compose (inner ++ outer) operation args call
      = compose outer operation args (compose inner operation args call) := List.foldl_append

/-- The layers that cover an operation. -/
def covering (layers : List (Layer σ)) (type operation : String) : List (Layer σ) :=
  layers.filter (·.signature.covers type operation)

/-- The chain of some layers, in the order of their registration. -/
def chain (layers : List (Layer σ)) (limit : Nat) : Chain σ := ⟨layers.map (·.interceptor), limit⟩

/-- The target behind a layer, if the layer may apply to it. -/
def enclose (target : Target σ) (l : Layer σ) : Target σ :=
  if l.signature.mayApplyTo target.type then l.interceptor.proxy target else target

/-- The target behind all layers that may apply to it, the last outermost. -/
def encloseAll (target : Target σ) (layers : List (Layer σ)) : Target σ :=
  layers.foldl enclose target

/-- What wrapping reports. -/
def wrapEvents (layers : List (Layer σ)) (type : String) : List Event :=
  (layers.filter (·.signature.mayApplyTo type)).map fun l => .targetWrapped l.name type

end Layer

theorem Signature.mayApplyTo_of_covers {s : Signature} {type operation : String}
    (h : s.covers type operation = true) : s.mayApplyTo type = true := by
  cases s with
  | predicate holds => rfl
  | manifest operations =>
    obtain ⟨names, hnames, -⟩ := (Option.any_eq_true ..).1 h
    simp [mayApplyTo, Dictionary.contains, hnames]

/-! ## What one interceptor makes of a target -/

namespace Interceptor

/-- The target behind an interceptor, if the interceptor may apply to it. -/
def wrapped (i : Interceptor σ) (target : Target σ) : Target σ :=
  if i.signature.mayApplyTo target.type then i.proxy target else target

/-- What wrapping by an interceptor reports. -/
def wrapReport (i : Interceptor σ) (type : String) : List Event :=
  if i.signature.mayApplyTo type then [.targetWrapped i.name type] else []

theorem run_wrap (i : Interceptor σ) (target : Target σ) (run : Run σ) :
    (i.wrap target).run run
      = (i.wrapped target, { run with events := run.events ++ i.wrapReport target.type }) := by
  rw [wrap, wrapped, wrapReport]
  by_cases h : i.signature.mayApplyTo target.type = true
  · rw [if_pos h, if_pos h, if_pos h]
    rfl
  · rw [if_neg h, if_neg h, if_neg h, List.append_nil]
    rfl

/-- The test before a target is wrapped loses no call that the test at the call would find. -/
theorem invoke_wrapped (i : Interceptor σ) (target : Target σ) (operation : String)
    (args : List Json) :
    (i.wrapped target).invoke operation args =
      if i.signature.covers target.type operation then do
        emit (.callIntercepted i.name target.type operation)
        i.intercept ⟨target, operation, args⟩
      else target.invoke operation args := by
  rw [wrapped]
  by_cases h : i.signature.mayApplyTo target.type = true
  · rw [if_pos h]
    rfl
  · rw [if_neg h, if_neg fun hcovers => h (Signature.mayApplyTo_of_covers hcovers)]

end Interceptor

namespace Layer

/-! ## What a chain makes of a target -/

theorem type_enclose (target : Target σ) (l : Layer σ) : (enclose target l).type = target.type := by
  rw [enclose]
  split <;> rfl

theorem type_encloseAll (target : Target σ) (layers : List (Layer σ)) :
    (encloseAll target layers).type = target.type := by
  induction layers generalizing target with
  | nil => rfl
  | cons l layers ih => exact (ih (enclose target l)).trans (type_enclose target l)

theorem encloseAll_eq_self {target : Target σ} {layers : List (Layer σ)}
    (h : ∀ l ∈ layers, l.signature.mayApplyTo target.type = false) :
    encloseAll target layers = target := by
  induction layers with
  | nil => rfl
  | cons l layers ih =>
    have hl : enclose target l = target := by rw [enclose, h l List.mem_cons_self]; rfl
    rw [encloseAll, List.foldl_cons, hl]
    exact ih fun l' hl' => h l' (List.mem_cons_of_mem _ hl')

theorem wrapEvents_singleton (l : Layer σ) (type : String) :
    wrapEvents [l] type = l.interceptor.wrapReport type := by
  rw [wrapEvents, List.filter_cons, List.filter_nil]
  show _ = if l.signature.mayApplyTo type then [Event.targetWrapped l.name type] else []
  split <;> rfl

theorem run_accept (target : Target σ) (l : Layer σ) (run : Run σ) :
    (l.interceptor.accept target).run run
      = (enclose target l, { run with events := run.events ++ wrapEvents [l] target.type }) := by
  rw [wrapEvents_singleton]
  exact l.interceptor.run_wrap target run

theorem wrapEvents_cons (l : Layer σ) (layers : List (Layer σ)) (type : String) :
    wrapEvents (l :: layers) type = wrapEvents [l] type ++ wrapEvents layers type := by
  rw [wrapEvents, wrapEvents, wrapEvents, ← List.map_append, ← List.filter_append,
    List.singleton_append]

/-- Wrapping by a chain encloses the target and reports it, and changes nothing else. -/
theorem run_wrapAll (layers : List (Layer σ)) (limit : Nat) (target : Target σ) (run : Run σ) :
    ((chain layers limit).wrapAll target).run run
      = (encloseAll target layers,
        { run with events := run.events ++ wrapEvents layers target.type }) := by
  induction layers generalizing target run with
  | nil =>
    show (target, run) = (target, { run with events := run.events ++ [] })
    rw [List.append_nil]
  | cons l layers ih =>
    have hcons : (chain (l :: layers) limit).wrapAll target
        = l.interceptor.accept target >>= (chain layers limit).wrapAll := rfl
    rw [hcons, StateT.run_bind, run_accept]
    show ((chain layers limit).wrapAll (enclose target l)).run _ = _
    rw [ih, type_enclose, wrapEvents_cons l layers, ← List.append_assoc]
    rfl

/-! ## What comes of a call -/

theorem invoke_enclose (target : Target σ) (l : Layer σ) (operation : String) (args : List Json) :
    (enclose target l).invoke operation args =
      if l.signature.covers target.type operation then
        (l.announced target.type).body operation args (target.invoke operation args)
      else target.invoke operation args :=
  l.interceptor.invoke_wrapped target operation args

/-- A call of the enclosed target is the composition of the layers that cover it. -/
theorem invoke_encloseAll (target : Target σ) (layers : List (Layer σ)) (operation : String)
    (args : List Json) :
    (encloseAll target layers).invoke operation args
      = compose ((covering layers target.type operation).map (·.announced target.type))
          operation args (target.invoke operation args) := by
  induction layers generalizing target with
  | nil => rfl
  | cons l layers ih =>
    rw [encloseAll, List.foldl_cons, ← encloseAll, ih, type_enclose, invoke_enclose, covering]
    by_cases h : l.signature.covers target.type operation = true
    · rw [if_pos h, covering, List.filter_cons, if_pos h, List.map_cons, compose_cons]
    · rw [if_neg h, covering, List.filter_cons, if_neg h]

end Layer

/-! ## Without the events -/

/-- Two runs that differ in nothing but their events. -/
def Run.SameButEvents (r s : Run σ) : Prop := r.state = s.state ∧ r.calls = s.calls

/-- Effects that do the same but for events, whatever the events before them. -/
def Effect.Alike {α : Type} (m n : Effect σ α) : Prop :=
  ∀ r s : Run σ, r.SameButEvents s →
    (m.run r).1 = (n.run s).1 ∧ (m.run r).2.SameButEvents (n.run s).2

/-- A target whose calls do not look at events. -/
def Target.EventBlind (target : Target σ) : Prop :=
  ∀ operation args, Effect.Alike (target.invoke operation args) (target.invoke operation args)

/-- A layer whose body does not look at events. -/
def Layer.EventBlind (l : Layer σ) : Prop :=
  ∀ operation args proceed proceed', Effect.Alike proceed proceed' →
    Effect.Alike (l.body operation args proceed) (l.body operation args proceed')

namespace Effect

theorem run_bind {α β : Type} (m : Effect σ α) (f : α → Effect σ β) (run : Run σ) :
    (m >>= f).run run = (f (m.run run).1).run (m.run run).2 := rfl

theorem Alike.bind {α β : Type} {m m' : Effect σ α} {f f' : α → Effect σ β} (hm : Alike m m')
    (hf : ∀ a, Alike (f a) (f' a)) : Alike (m >>= f) (m' >>= f') := by
  intro r s hrs
  obtain ⟨hvalue, hafter⟩ := hm r s hrs
  rw [run_bind, run_bind, hvalue]
  exact hf _ _ _ hafter

theorem alike_pure {α : Type} (a : α) : Alike (pure a : Effect σ α) (pure a) :=
  fun _ _ hrs => ⟨rfl, hrs⟩

theorem alike_record (line : String) : Alike (record line : Effect σ Unit) (record line) :=
  fun _ _ hrs => ⟨rfl, hrs.1, congrArg (· ++ [line]) hrs.2⟩

/-- An event in front goes unnoticed. -/
theorem Alike.emit_left {α : Type} {m n : Effect σ α} (h : Alike m n) (event : Event) :
    Alike (emit event >>= fun _ => m) n := fun _ s hrs => h _ s hrs

end Effect

namespace Layer

theorem alike_compose {layers : List (Layer σ)} (h : ∀ l ∈ layers, l.EventBlind) (type : String)
    (operation : String) (args : List Json) {call call' : Effect σ Outcome}
    (hcall : Effect.Alike call call') :
    Effect.Alike (compose (layers.map (·.announced type)) operation args call)
      (compose layers operation args call') := by
  induction layers generalizing call call' with
  | nil => exact hcall
  | cons l layers ih =>
    rw [List.map_cons, compose_cons, compose_cons]
    refine ih (fun l' hl' => h l' (List.mem_cons_of_mem _ hl')) ?_
    exact (h l List.mem_cons_self _ _ _ _ hcall).emit_left _

end Layer

/-- What a chain makes of a target has the target's type, and calls of it are the composition of
the layers that cover them, the one registered first next to the target; it is the target itself if
no layer may apply to it. Wrapping leaves only events behind, and so do the proxies: if nothing
looks at events, a call is the composition of the bare layers. -/
theorem Chain.wrapAll_eq_compose (layers : List (Layer σ)) (limit : Nat) (target : Target σ)
    (run : Run σ) :
    ∃ proxy, ((Layer.chain layers limit).wrapAll target).run run
        = (proxy, { run with events := run.events ++ Layer.wrapEvents layers target.type }) ∧
      proxy.type = target.type ∧
      (∀ operation args, proxy.invoke operation args
        = Layer.compose
            ((Layer.covering layers target.type operation).map (·.announced target.type))
            operation args (target.invoke operation args)) ∧
      ((∀ l ∈ layers, l.EventBlind) → target.EventBlind → ∀ operation args,
        Effect.Alike (proxy.invoke operation args)
          (Layer.compose (Layer.covering layers target.type operation) operation args
            (target.invoke operation args))) ∧
      ((∀ l ∈ layers, l.signature.mayApplyTo target.type = false) → proxy = target) := by
  refine ⟨Layer.encloseAll target layers, Layer.run_wrapAll layers limit target run,
    Layer.type_encloseAll target layers, Layer.invoke_encloseAll target layers,
    fun hlayers htarget operation args => ?_, Layer.encloseAll_eq_self⟩
  rw [Layer.invoke_encloseAll]
  exact Layer.alike_compose (fun l hl => hlayers l (List.mem_filter.1 hl).1) _ _ _
    (htarget operation args)

namespace Layer

/-- Counts its calls in the state and proceeds twice. -/
def twice : Layer Nat where
  name := "twice"
  signature := .always
  body _ _ proceed := do
    modify fun run => { run with state := run.state + 1 }
    let _ ← proceed
    proceed

/-- Sees updates of an executor only. -/
def updates : Layer Nat where
  name := "updates"
  signature := Signature.empty.addComponent .executor "update"
  body _ _ proceed := proceed

theorem eventBlind_twice : twice.EventBlind := by
  intro operation args proceed proceed' h
  have hcount : Effect.Alike
      (modify fun run => { run with state := run.state + 1 } : Effect Nat Unit)
      (modify fun run => { run with state := run.state + 1 }) :=
    fun _ _ hrs => ⟨rfl, congrArg (· + 1) hrs.1, hrs.2⟩
  exact hcount.bind fun _ => h.bind fun _ => h

end Layer

theorem StandIn.eventBlind_scripted (component : Component) (outcome : Outcome) :
    (scripted component outcome : Target σ).EventBlind :=
  fun _ _ => (Effect.alike_record _).bind fun _ => Effect.alike_pure _

open Layer in
/-- A query passes through the one layer that covers it; a statement handler has no use for updates
of executors. -/
theorem wrapAll_twice_updates :
    ((∀ l ∈ [updates, twice], l.EventBlind) ∧
      (StandIn.returning .executor .null : Target Nat).EventBlind ∧
      ∃ proxy after, ((chain [updates, twice] 64).wrapAll
          (StandIn.returning .executor .null)).run ⟨0, [], []⟩ = (proxy, after) ∧
        Effect.Alike (proxy.invoke "query" [])
          (twice.body "query" [] ((StandIn.returning .executor .null).invoke "query" []))) ∧
    (∀ l ∈ [updates], l.signature.mayApplyTo "StatementHandler" = false) ∧
    ∃ after, ((chain [updates] 64).wrapAll
        (StandIn.returning .statementHandler .null)).run ⟨0, [], []⟩
      = (StandIn.returning .statementHandler .null, after) := by
  have hlayers : ∀ l ∈ [updates, twice], l.EventBlind := by
    intro l hl
    obtain rfl | rfl : l = updates ∨ l = twice := by simpa using hl
    · exact fun _ _ _ _ h => h
    · exact eventBlind_twice
  have hnone : ∀ l ∈ [updates], l.signature.mayApplyTo "StatementHandler" = false := by
    intro l hl
    obtain rfl := List.mem_singleton.1 hl
    rfl
  have htarget := StandIn.eventBlind_scripted (σ := Nat) .executor (.ok .null)
  obtain ⟨proxy, hrun, -, -, hcall, -⟩ := Chain.wrapAll_eq_compose [updates, twice] 64
    (StandIn.returning .executor .null) ⟨0, [], []⟩
  obtain ⟨bare, hbare, -, -, -, hself⟩ := Chain.wrapAll_eq_compose [updates] 64
    (StandIn.returning .statementHandler .null) ⟨0, [], []⟩
  exact ⟨⟨hlayers, htarget, proxy, _, hrun, hcall hlayers htarget "query" []⟩,
    hnone, _, hself hnone ▸ hbare⟩

end ResultMapping

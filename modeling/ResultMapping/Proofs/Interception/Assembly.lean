import ResultMapping.Interception.Probe
import ResultMapping.Interception.Recording
import Mathlib.Data.List.Induction

/-!
# Putting chains together

Interceptors are offered to a chain one after the other, some of them with properties that they may
refuse. Those that can be had are candidates; the chain takes the first of them up to its limit, and
an offer that comes to nothing leaves no trace.

* `offer_eq_error_of_candidate`, `offer_eq_error_of_full`, `offer_eq_ok`: what becomes of an offer;
* `run_offerInPlace`: the same where a chain is changed in place, which writes nothing before it
  fails;
* `Assembled`: a chain of the first candidates, with a log of their positions, and
  `Assembled.offer`: that one more offer keeps it so;
* `offerAll_ofSettings`: what any number of offers makes of an empty chain.
-/

namespace ResultMapping

variable {σ : Type}

/-- What is offered to a chain: an interceptor as it is, or one that has to be given its properties
first. -/
inductive Offer (σ : Type) where
  | ready (interceptor : Interceptor σ)
  | unconfigured (configure : Properties → Except Error (Interceptor σ)) (properties : Properties)

namespace Offer

/-- The interceptor that the chain could have, with its properties. -/
def candidate : Offer σ → Except Error (Interceptor σ)
  | ready interceptor => .ok interceptor
  | unconfigured configure properties => configure properties

/-- The interceptors that can be had among some offers. -/
def candidates (offers : List (Offer σ)) : List (Interceptor σ) :=
  offers.filterMap fun o => o.candidate.toOption

theorem candidates_concat_error {o : Offer σ} {e : Error} (h : o.candidate = .error e)
    (offers : List (Offer σ)) : candidates (offers ++ [o]) = candidates offers := by
  rw [candidates, List.filterMap_append, List.filterMap_cons, h]
  exact List.append_nil _

theorem candidates_concat_ok {o : Offer σ} {i : Interceptor σ} (h : o.candidate = .ok i)
    (offers : List (Offer σ)) : candidates (offers ++ [o]) = candidates offers ++ [i] := by
  rw [candidates, List.filterMap_append, List.filterMap_cons, h]
  rfl

end Offer

namespace Chain

variable {c : Chain σ} {o : Offer σ} {i : Interceptor σ} {e : Error}

/-! ## One offer -/

/-- Registers what is offered, after giving it its properties if it has yet to get them. -/
def offer (c : Chain σ) : Offer σ → Except Error (Chain σ × List Event)
  | .ready i => (c.add i).mapError .interception
  | .unconfigured configure p => c.addConfigured configure p

/-- What the chain reports of an offer. -/
def report (c : Chain σ) (o : Offer σ) : List Event :=
  match c.offer o with
  | .ok (_, events) => events
  | .error _ => []

/-- The chain after an offer. -/
def afterOffer (c : Chain σ) (o : Offer σ) : Chain σ :=
  match c.offer o with
  | .ok (after, _) => after
  | .error _ => c

/-- The chain with one interceptor more. -/
def push (c : Chain σ) (i : Interceptor σ) : Chain σ :=
  { c with interceptors := c.interceptors ++ [i] }

@[simp] theorem interceptors_push (c : Chain σ) (i : Interceptor σ) :
    (c.push i).interceptors = c.interceptors ++ [i] := rfl

theorem offer_eq (c : Chain σ) (o : Offer σ) :
    c.offer o = match o.candidate with
      | .error e => .error e
      | .ok i => (c.add i).mapError .interception := by
  cases o with
  | ready i => rfl
  | unconfigured configure p =>
    show c.addConfigured configure p = match configure p with
      | .error e => .error e
      | .ok i => (c.add i).mapError .interception
    rw [addConfigured]
    cases configure p with
    | error e => rfl
    | ok i => cases h : c.add i <;> simp only [h] <;> rfl

/-- What an interceptor has against its properties comes first. -/
theorem offer_eq_error_of_candidate (h : o.candidate = .error e) : c.offer o = .error e := by
  rw [offer_eq, h]

theorem offer_eq_error_of_full (h : o.candidate = .ok i) (hfull : c.limit ≤ c.size) :
    c.offer o = .error (.interception (.chainFull c.limit)) := by
  rw [offer_eq, h]
  simp only [add, if_pos hfull]
  rfl

theorem offer_eq_ok (h : o.candidate = .ok i) (hroom : c.size < c.limit) :
    c.offer o = .ok (c.push i, [.interceptorRegistered i.name c.size]) := by
  rw [offer_eq, h]
  simp only [add, if_neg (Nat.not_le.2 hroom)]
  rfl

theorem afterOffer_of_error (h : c.offer o = .error e) : c.afterOffer o = c ∧ c.report o = [] := by
  rw [afterOffer, report, h]
  exact ⟨rfl, rfl⟩

theorem afterOffer_of_ok {after : Chain σ} {events : List Event}
    (h : c.offer o = .ok (after, events)) : c.afterOffer o = after ∧ c.report o = events := by
  rw [afterOffer, report, h]
  exact ⟨rfl, rfl⟩

/-! ## Offers in place

A chain can also be changed where it stands, its events going to a log. What has been written before
an error stays.
-/

abbrev Assembling (σ : Type) := ExceptT Error (StateM (Chain σ × List Event))

def addInPlace (i : Interceptor σ) : Assembling σ Unit := do
  let (c, _) ← get
  if c.limit ≤ c.size then throw (.interception (.chainFull c.limit))
  else
    modify fun (c, log) => (c, log ++ [.interceptorRegistered i.name c.size])
    modify fun (c, log) => (c.push i, log)

def offerInPlace : Offer σ → Assembling σ Unit
  | .ready i => addInPlace i
  | .unconfigured configure p => do
    let i ← (configure p : Except Error (Interceptor σ))
    addInPlace i

theorem run_addInPlace (c : Chain σ) (log : List Event) (i : Interceptor σ) :
    (addInPlace i).run (c, log) = match c.add i with
      | .ok (after, events) => (.ok (), after, log ++ events)
      | .error e => (.error (.interception e), c, log) := by
  have hrun : (addInPlace i).run (c, log)
      = (if c.limit ≤ c.size then throw (.interception (.chainFull c.limit))
          else do
            modify fun (c, log) => (c, log ++ [.interceptorRegistered i.name c.size])
            modify fun (c, log) => (c.push i, log) : Assembling σ Unit).run (c, log) := rfl
  rw [hrun, add]
  by_cases hfull : c.limit ≤ c.size
  · rw [if_pos hfull, if_pos hfull]
    rfl
  · rw [if_neg hfull, if_neg hfull]
    rfl

/-- In place an offer leaves what it makes of the chain, and an error leaves chain and log alone. -/
theorem run_offerInPlace (c : Chain σ) (log : List Event) (o : Offer σ) :
    (offerInPlace o).run (c, log) = match c.offer o with
      | .ok (after, events) => (.ok (), after, log ++ events)
      | .error e => (.error e, c, log) := by
  have hadd : ∀ i, (addInPlace i).run (c, log) = match (c.add i).mapError Error.interception with
      | .ok (after, events) => (.ok (), after, log ++ events)
      | .error e => (.error e, c, log) := by
    intro i
    rw [run_addInPlace]
    cases c.add i <;> rfl
  rw [offer_eq]
  cases o with
  | ready i => exact hadd i
  | unconfigured configure p =>
    have hrun : (offerInPlace (.unconfigured configure p)).run (c, log) = match configure p with
        | .error e => (.error e, c, log)
        | .ok i => (addInPlace i).run (c, log) := by
      rw [offerInPlace]
      cases configure p <;> rfl
    rw [hrun, Offer.candidate]
    cases configure p with
    | error e => rfl
    | ok i => exact hadd i

/-! ## Any number of offers -/

/-- The chain after some offers, one after the other. -/
def offerAll (c : Chain σ) (offers : List (Offer σ)) : Chain σ := offers.foldl afterOffer c

/-- All that the chain reports of them. -/
def reportAll (c : Chain σ) : List (Offer σ) → List Event
  | [] => []
  | o :: offers => c.report o ++ reportAll (c.afterOffer o) offers

theorem offerAll_concat (c : Chain σ) (offers : List (Offer σ)) (o : Offer σ) :
    c.offerAll (offers ++ [o]) = (c.offerAll offers).afterOffer o := by
  rw [offerAll, List.foldl_append, List.foldl_cons, List.foldl_nil, offerAll]

theorem reportAll_concat (c : Chain σ) (offers : List (Offer σ)) (o : Offer σ) :
    c.reportAll (offers ++ [o]) = c.reportAll offers ++ (c.offerAll offers).report o := by
  induction offers generalizing c with
  | nil => exact List.append_nil _
  | cons o' offers ih =>
    show c.report o' ++ (c.afterOffer o').reportAll (offers ++ [o]) = _
    rw [ih, ← List.append_assoc]
    rfl

theorem offerAll_take_succ {offers : List (Offer σ)} {t : Nat} (h : offers[t]? = some o)
    (c : Chain σ) :
    c.offerAll (offers.take (t + 1)) = (c.offerAll (offers.take t)).afterOffer o := by
  rw [List.take_add_one, h, Option.toList_some, offerAll_concat]

/-- The events of the registration of some interceptors, each at its position. -/
def registrations (interceptors : List (Interceptor σ)) : List Event :=
  interceptors.mapIdx fun position i => .interceptorRegistered i.name position

/-- A chain that took the first of some candidates, and has reported each at its position. -/
structure Assembled (limit : Nat) (candidates : List (Interceptor σ)) (c : Chain σ)
    (log : List Event) : Prop where
  limit_eq : c.limit = limit
  interceptors_eq : c.interceptors = candidates.take limit
  log_eq : log = registrations c.interceptors

namespace Assembled

variable {limit : Nat} {candidates : List (Interceptor σ)} {log : List Event}
  {offers : List (Offer σ)}

theorem size_eq (h : Assembled limit candidates c log) : c.size = min limit candidates.length := by
  rw [size, h.interceptors_eq, List.length_take]

theorem size_le (h : Assembled limit candidates c log) : c.size ≤ c.limit := by
  rw [h.size_eq, h.limit_eq]
  exact Nat.min_le_left _ _

/-- A candidate that comes to a full chain is not taken. -/
theorem concat_of_full (h : Assembled limit candidates c log) (hfull : c.limit ≤ c.size)
    (i : Interceptor σ) : Assembled limit (candidates ++ [i]) c log where
  limit_eq := h.limit_eq
  interceptors_eq := by
    have hlength : limit ≤ candidates.length := by
      have := h.size_eq
      have := h.limit_eq
      omega
    rw [h.interceptors_eq, List.take_append_of_le_length hlength]
  log_eq := h.log_eq

/-- One that finds room is taken and reported at the end. -/
theorem concat_of_room (h : Assembled limit candidates c log) (hroom : c.size < c.limit)
    (i : Interceptor σ) :
    Assembled limit (candidates ++ [i]) (c.push i)
      (log ++ [.interceptorRegistered i.name c.size]) where
  limit_eq := h.limit_eq
  interceptors_eq := by
    have hlength : (candidates ++ [i]).length ≤ limit := by
      have := h.size_eq
      have := h.limit_eq
      rw [List.length_append, List.length_singleton]
      omega
    have hall : candidates.take limit = candidates :=
      List.take_of_length_le (by rw [List.length_append] at hlength; omega)
    rw [interceptors_push, h.interceptors_eq, hall, List.take_of_length_le hlength]
  log_eq := by
    rw [h.log_eq, registrations, registrations, interceptors_push, List.mapIdx_append]
    simp [size]

/-- What one more offer preserves. -/
theorem offer (h : Assembled limit (Offer.candidates offers) c log) (o : Offer σ) :
    Assembled limit (Offer.candidates (offers ++ [o])) (c.afterOffer o) (log ++ c.report o) := by
  cases hcandidate : o.candidate with
  | error e =>
    obtain ⟨hafter, hreport⟩ :=
      afterOffer_of_error (offer_eq_error_of_candidate (c := c) hcandidate)
    rw [Offer.candidates_concat_error hcandidate, hafter, hreport, List.append_nil]
    exact h
  | ok i =>
    rw [Offer.candidates_concat_ok hcandidate]
    rcases Nat.lt_or_ge c.size c.limit with hroom | hfull
    · obtain ⟨hafter, hreport⟩ := afterOffer_of_ok (offer_eq_ok hcandidate hroom)
      rw [hafter, hreport]
      exact h.concat_of_room hroom i
    · obtain ⟨hafter, hreport⟩ := afterOffer_of_error (offer_eq_error_of_full hcandidate hfull)
      rw [hafter, hreport, List.append_nil]
      exact h.concat_of_full hfull i

end Assembled

theorem assembled_offerAll (s : Settings) (offers : List (Offer σ)) :
    Assembled s.maxInterceptors.toNat (Offer.candidates offers) ((ofSettings s).offerAll offers)
      ((ofSettings s).reportAll offers) := by
  induction offers using List.reverseRecOn with
  | nil => exact ⟨rfl, List.take_nil.symm, rfl⟩
  | append_singleton offers o ih =>
    rw [offerAll_concat, reportAll_concat]
    exact ih.offer o

/-- After any offers to a chain with the limit of some settings, it consists of the first candidates
among them up to the limit, in their order and with their properties, and each has been reported at
its position. An offer fails with what its interceptor has against its properties, if anything, and
otherwise just when the chain is full, saying so; then nothing is changed, in place either, where
every offer leaves what it makes of the chain and of the log. -/
theorem offerAll_ofSettings (s : Settings) (offers : List (Offer σ)) :
    ((ofSettings s).offerAll offers).interceptors
      = (Offer.candidates offers).take s.maxInterceptors.toNat ∧
    ((ofSettings s).offerAll offers).limit = s.maxInterceptors.toNat ∧
    ((ofSettings s).offerAll offers).size ≤ s.maxInterceptors.toNat ∧
    (ofSettings s).reportAll offers
      = ((ofSettings s).offerAll offers).interceptors.mapIdx
          (fun position i => .interceptorRegistered i.name position) ∧
    ∀ t o, offers[t]? = some o →
      let before := (ofSettings s).offerAll (offers.take t)
      let after := (ofSettings s).offerAll (offers.take (t + 1))
      (∀ e, o.candidate = .error e → before.offer o = .error e) ∧
      (∀ i, o.candidate = .ok i →
        (before.size = s.maxInterceptors.toNat →
          before.offer o = .error (.interception (.chainFull s.maxInterceptors.toNat))) ∧
        (before.size ≠ s.maxInterceptors.toNat →
          before.offer o = .ok (after, [.interceptorRegistered i.name before.size]))) ∧
      (∀ e log, before.offer o = .error e →
        after = before ∧ (offerInPlace o).run (before, log) = (.error e, before, log)) ∧
      ∀ log, (offerInPlace o).run (before, log) = match before.offer o with
        | .ok (made, events) => (.ok (), made, log ++ events)
        | .error e => (.error e, before, log) := by
  have hall := assembled_offerAll s offers
  refine ⟨hall.interceptors_eq, hall.limit_eq, hall.limit_eq ▸ hall.size_le, hall.log_eq,
    fun t o ho => ?_⟩
  have hbefore := assembled_offerAll s (offers.take t)
  intro before after
  have hafter : after = before.afterOffer o := offerAll_take_succ ho _
  have hlimit : before.limit = s.maxInterceptors.toNat := hbefore.limit_eq
  refine ⟨fun e he => offer_eq_error_of_candidate he,
    fun i hi => ⟨fun hfull => ?_, fun hroom => ?_⟩, fun e log he => ⟨?_, ?_⟩,
    fun log => run_offerInPlace before log o⟩
  · rw [offer_eq_error_of_full hi (by omega), hlimit]
  · have hlt : before.size < before.limit := by
      have : before.size ≤ before.limit := hbefore.size_le
      omega
    have hoffer := offer_eq_ok hi hlt
    rw [hafter, (afterOffer_of_ok hoffer).1, hoffer]
  · rw [hafter, (afterOffer_of_error he).1]
  · rw [run_offerInPlace, he]

/-! ## A chain for two -/

/-- A recording that proceeds. -/
def proceeding (name : String) : Recording := ⟨name, .proceed, .always⟩

/-- A recording that is to be renamed. -/
def renamed (name : String) : Offer Unit :=
  .unconfigured (fun p => .ok ((proceeding "unnamed").setProperties p).interceptor)
    (.ofList [("name", name)])

/-- A probe that is to be given a limit. -/
def limited (limit : String) : Offer Unit :=
  .unconfigured (fun p => (Probe.setProperties ⟨"probe", .limit, .always, true, none⟩ p).map
    (·.interceptor)) (.ofList [("limit", limit)])

/-- Two that the chain takes, with one in between that is refused for its properties, then one for
which there is no room, and last one that would have been refused anyway. -/
def fiveOffers : List (Offer Unit) :=
  [.ready (proceeding "audit").interceptor, limited "many", renamed "timing",
    .ready (proceeding "late").interceptor, limited "many"]

/-- Of the two that are too late for the chain, one is refused for its properties all the same. In
place the third is taken and reported, and the fourth leaves chain and log alone. -/
theorem names_of_fiveOffers :
    ((ofSettings { maxInterceptors := 2 }).offerAll fiveOffers).interceptors.map (·.name)
      = ["audit", "timing"] ∧
    (ofSettings { maxInterceptors := 2 }).reportAll fiveOffers
      = [.interceptorRegistered "audit" 0, .interceptorRegistered "timing" 1] ∧
    (limited "many").candidate
      = .error (.interception (.invalidProperty "limit" "many" "invalid digit found in string")) ∧
    ((ofSettings { maxInterceptors := 2 }).offerAll (fiveOffers.take 4)).offer (limited "many")
      = .error (.interception (.invalidProperty "limit" "many" "invalid digit found in string")) ∧
    ((ofSettings { maxInterceptors := 2 }).offerAll (fiveOffers.take 3)).size = 2 ∧
    ((ofSettings { maxInterceptors := 2 }).offerAll (fiveOffers.take 3)).offer
      (.ready (proceeding "late").interceptor) = .error (.interception (.chainFull 2)) ∧
    (ofSettings { maxInterceptors := 2 }).offerAll (fiveOffers.take 4)
      = (ofSettings { maxInterceptors := 2 }).offerAll (fiveOffers.take 3) ∧
    (offerInPlace (renamed "timing")).run
        ((ofSettings { maxInterceptors := 2 }).offerAll (fiveOffers.take 2),
          [.interceptorRegistered "audit" 0])
      = (.ok (), (ofSettings { maxInterceptors := 2 }).offerAll (fiveOffers.take 3),
          [.interceptorRegistered "audit" 0, .interceptorRegistered "timing" 1]) ∧
    (offerInPlace (.ready (proceeding "late").interceptor)).run
        ((ofSettings { maxInterceptors := 2 }).offerAll (fiveOffers.take 3), [])
      = (.error (.interception (.chainFull 2)),
          (ofSettings { maxInterceptors := 2 }).offerAll (fiveOffers.take 3), []) := by
  obtain ⟨hinterceptors, -, -, hreport, hcalls⟩ :=
    offerAll_ofSettings { maxInterceptors := 2 } fiveOffers
  have hrefused : (limited "many").candidate
      = .error (.interception (.invalidProperty "limit" "many" "invalid digit found in string")) :=
    rfl
  have hfull : ((ofSettings { maxInterceptors := 2 }).offerAll (fiveOffers.take 3)).size = 2 := rfl
  obtain ⟨-, -, -, htaken⟩ := hcalls 2 (renamed "timing") rfl
  obtain ⟨-, htooLate, hunchanged, -⟩ := hcalls 3 (.ready (proceeding "late").interceptor) rfl
  have hlate := (htooLate _ rfl).1 hfull
  obtain ⟨hsame, hinPlace⟩ := hunchanged _ [] hlate
  refine ⟨?_, ?_, hrefused, (hcalls 4 (limited "many") rfl).1 _ hrefused, hfull, hlate, hsame,
    htaken _, hinPlace⟩
  · rw [hinterceptors]
    rfl
  · rw [hreport, hinterceptors]
    rfl

end Chain

end ResultMapping

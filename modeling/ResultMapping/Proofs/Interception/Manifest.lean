import ResultMapping.Dictionary.Lemmas
import ResultMapping.Interception.Probe
import ResultMapping.Proofs.Interception.Dispatch
import Mathlib.Tactic.Tauto

/-!
# Manifests

A signature that starts as the empty manifest and has operations listed in it covers exactly the
pairs of type and operation that were listed, in whatever order and however often. No type stands
in it without an operation, so the test before a target is wrapped is as exact as it can be.

* `covers_listAll_iff`, `mayApplyTo_listAll_iff`: what a manifest covers after some listings;
* `listAll_predicate`: listing leaves predicates alone;
* `listAll_eq_of_pairs`: there is one manifest for every set of pairs;
* `covers_exactly_listed`: all this, and what it means for targets that are wrapped.
-/

namespace ResultMapping

namespace Signature

/-- One more operation for a signature, on targets of a type or on an engine component. -/
inductive Listing where
  | onType (type operation : String)
  | onComponent (component : Component) (operation : String)

namespace Listing

def pair : Listing → String × String
  | onType type operation => (type, operation)
  | onComponent component operation => (component.name, operation)

/-- The pairs of some listings. -/
def pairs (ls : List Listing) : List (String × String) := ls.map pair

end Listing

/-- The signature with the operation listed. -/
def list (s : Signature) : Listing → Signature
  | .onType type operation => s.add type operation
  | .onComponent component operation => s.addComponent component operation

/-- The signature with some operations listed, one after the other. -/
def listAll (s : Signature) (ls : List Listing) : Signature := ls.foldl list s

theorem list_eq_add (s : Signature) (l : Listing) : s.list l = s.add l.pair.1 l.pair.2 := by
  cases l <;> rfl

theorem listAll_predicate (holds : String → String → Bool) (ls : List Listing) :
    (predicate holds).listAll ls = predicate holds := by
  induction ls with
  | nil => rfl
  | cons l ls ih =>
    rw [listAll, List.foldl_cons, list_eq_add]
    exact ih

/-! ## Manifests -/

variable {operations others : Dictionary NameSet} {type operation : String}

theorem covers_manifest_iff :
    (manifest operations).covers type operation = true ↔
      ((operations.get? type).getD ∅).contains operation = true := by
  rw [covers]
  cases operations.get? type <;> simp [Dictionary.contains]

theorem covers_add_iff {t o : String} :
    ((manifest operations).add t o).covers type operation = true ↔
      (manifest operations).covers type operation = true ∨ (type, operation) = (t, o) := by
  rw [add, covers_manifest_iff, covers_manifest_iff, Dictionary.get?_insert, Prod.mk.injEq]
  by_cases h : type = t
  · rw [if_pos h, Option.getD_some, Dictionary.contains_insert, h]
    simp
  · rw [if_neg h]
    simp [h]

theorem mayApplyTo_add_iff {t o : String} :
    ((manifest operations).add t o).mayApplyTo type = true ↔
      (manifest operations).mayApplyTo type = true ∨ type = t :=
  Dictionary.contains_insert

/-- A manifest stays one and covers what is listed on top of what it covered before. -/
theorem listAll_manifest (operations : Dictionary NameSet) (ls : List Listing) :
    ∃ others, (manifest operations).listAll ls = manifest others ∧
      (∀ type operation, (manifest others).covers type operation = true ↔
        (manifest operations).covers type operation = true ∨
          (type, operation) ∈ Listing.pairs ls) ∧
      (∀ type, (manifest others).mayApplyTo type = true ↔
        (manifest operations).mayApplyTo type = true ∨
          ∃ operation, (type, operation) ∈ Listing.pairs ls) := by
  induction ls generalizing operations with
  | nil => exact ⟨operations, rfl, by simp [Listing.pairs], by simp [Listing.pairs]⟩
  | cons l ls ih =>
    obtain ⟨others, hlisted, hcovers, happlies⟩ := ih (operations.insert l.pair.1
      (((operations.get? l.pair.1).getD ∅).insert l.pair.2 ()))
    have hadd : manifest (operations.insert l.pair.1
        (((operations.get? l.pair.1).getD ∅).insert l.pair.2 ()))
          = (manifest operations).add l.pair.1 l.pair.2 := rfl
    have hpairs : Listing.pairs (l :: ls) = l.pair :: Listing.pairs ls := rfl
    refine ⟨others, ?_, fun type operation => ?_, fun type => ?_⟩
    · rw [listAll, List.foldl_cons, list_eq_add, ← hadd]
      exact hlisted
    · rw [hcovers, hadd, covers_add_iff, hpairs, List.mem_cons, or_assoc]
    · rw [happlies, hadd, mayApplyTo_add_iff, hpairs]
      simp only [List.mem_cons, or_assoc, exists_or, Prod.ext_iff, exists_and_left, exists_eq,
        and_true]

theorem covers_listAll_iff {ls : List Listing} :
    (empty.listAll ls).covers type operation = true ↔ (type, operation) ∈ Listing.pairs ls := by
  obtain ⟨others, hlisted, hcovers, -⟩ := listAll_manifest ∅ ls
  have hnone : (manifest ∅).covers type operation = false := rfl
  rw [empty, hlisted, hcovers, hnone]
  simp

theorem mayApplyTo_listAll_iff {ls : List Listing} :
    (empty.listAll ls).mayApplyTo type = true ↔
      ∃ operation, (type, operation) ∈ Listing.pairs ls := by
  obtain ⟨others, hlisted, -, happlies⟩ := listAll_manifest ∅ ls
  have hnone : (manifest ∅).mayApplyTo type = false := rfl
  rw [empty, hlisted, happlies, hnone]
  simp

/-- Manifests have nothing beyond what the two tests see of them. -/
theorem ext_manifest
    (hcovers : ∀ type operation, (manifest operations).covers type operation = true ↔
      (manifest others).covers type operation = true)
    (happlies : ∀ type, (manifest operations).mayApplyTo type = true ↔
      (manifest others).mayApplyTo type = true) : operations = others := by
  refine Dictionary.ext_get? fun type => ?_
  have htype : (operations.get? type).isSome = true ↔ (others.get? type).isSome = true :=
    happlies type
  have hnames := hcovers type
  simp only [covers_manifest_iff] at hnames
  cases hone : operations.get? type with
  | none =>
    cases hother : others.get? type with
    | none => rfl
    | some names => simp [hone, hother] at htype
  | some names =>
    cases hother : others.get? type with
    | none => simp [hone, hother] at htype
    | some names' =>
      rw [hone, hother] at hnames
      exact congrArg some (NameSet.ext_contains hnames)

theorem listAll_eq_of_pairs {ls ms : List Listing}
    (h : ∀ p, p ∈ Listing.pairs ls ↔ p ∈ Listing.pairs ms) :
    empty.listAll ls = empty.listAll ms := by
  obtain ⟨operations, hls, -⟩ := listAll_manifest ∅ ls
  obtain ⟨others, hms, -⟩ := listAll_manifest ∅ ms
  have hcovers (type operation : String) : (empty.listAll ls).covers type operation = true ↔
      (empty.listAll ms).covers type operation = true := by
    rw [covers_listAll_iff, covers_listAll_iff]
    exact h (type, operation)
  have happlies (type : String) : (empty.listAll ls).mayApplyTo type = true ↔
      (empty.listAll ms).mayApplyTo type = true := by
    rw [mayApplyTo_listAll_iff, mayApplyTo_listAll_iff]
    exact exists_congr fun operation => h (type, operation)
  rw [empty, hls, hms] at hcovers happlies ⊢
  rw [ext_manifest hcovers happlies]

variable {σ : Type}

/-- A manifest covers the pairs listed in it and no others, and may apply to the types of these
pairs, so to those of which it covers an operation. The pairs are all there is to it, and listing
them in a predicate has no effect. What wrapping makes of a target hands every call that the
signature covers to the interceptor, and answers all others as the target does. -/
theorem covers_exactly_listed (ls : List Listing) :
    (∀ type operation, (empty.listAll ls).covers type operation = true ↔
      (type, operation) ∈ Listing.pairs ls) ∧
    (∀ type, (empty.listAll ls).mayApplyTo type = true ↔
      ∃ operation, (type, operation) ∈ Listing.pairs ls) ∧
    (∀ type, (empty.listAll ls).mayApplyTo type = true ↔
      ∃ operation, (empty.listAll ls).covers type operation = true) ∧
    (∀ ms, (∀ p, p ∈ Listing.pairs ls ↔ p ∈ Listing.pairs ms) →
      empty.listAll ls = empty.listAll ms) ∧
    (∀ holds type operation,
      ((predicate holds).listAll ls).covers type operation = holds type operation ∧
      ((predicate holds).listAll ls).mayApplyTo type = (predicate holds).mayApplyTo type) ∧
    (∀ (i : Interceptor σ) (target : Target σ) (run : Run σ),
      ∃ wrapped after, (i.wrap target).run run = (wrapped, after) ∧
        ∀ operation args,
          (i.signature.covers target.type operation = true →
            wrapped.layers = target.layers + 1 ∧
            wrapped.invoke operation args = do
              emit (.callIntercepted i.name target.type operation)
              i.intercept ⟨target, operation, args⟩) ∧
          (i.signature.covers target.type operation = false →
            wrapped.invoke operation args = target.invoke operation args)) := by
  refine ⟨fun _ _ => covers_listAll_iff, fun _ => mayApplyTo_listAll_iff, fun type => ?_,
    fun _ => listAll_eq_of_pairs, fun holds type operation => ?_, fun i target run => ?_⟩
  · rw [mayApplyTo_listAll_iff]
    exact exists_congr fun _ => covers_listAll_iff.symm
  · rw [listAll_predicate]
    exact ⟨rfl, rfl⟩
  · refine ⟨_, _, i.run_wrap target run, fun operation args => ⟨fun hcovers => ⟨?_, ?_⟩,
      fun hcovers => ?_⟩⟩
    · rw [Interceptor.wrapped, if_pos (mayApplyTo_of_covers hcovers)]
      rfl
    · rw [i.invoke_wrapped, if_pos hcovers]
    · rw [i.invoke_wrapped, hcovers]
      rfl

/-- Preparing is listed twice, on the component and on its type, and may as well be listed once; an
interceptor for it sees a statement handler being prepared and nothing of its being closed. -/
theorem preparing_listed_twice :
    let ls : List Listing := [.onType "StatementHandler" "prepare",
      .onComponent .executor "query", .onComponent .statementHandler "prepare"]
    let ms : List Listing := [.onComponent .executor "query", .onType "StatementHandler" "prepare"]
    let i : Interceptor Unit := .passive "preparing" (empty.listAll ls)
    let handler : Target Unit := StandIn.returning .statementHandler .null
    (∀ p, p ∈ Listing.pairs ls ↔ p ∈ Listing.pairs ms) ∧
    empty.listAll ls = empty.listAll ms ∧
    i.signature.covers handler.type "prepare" = true ∧
    i.signature.covers handler.type "close" = false ∧
    ∃ wrapped after, (i.wrap handler).run ⟨(), [], []⟩ = (wrapped, after) ∧
      wrapped.layers = 1 ∧
      wrapped.invoke "prepare" [] = (do
        emit (.callIntercepted "preparing" "StatementHandler" "prepare")
        handler.invoke "prepare" []) ∧
      wrapped.invoke "close" [] = handler.invoke "close" [] := by
  intro ls ms i handler
  obtain ⟨hcovers, -, -, hpairs, -, hwrap⟩ := covers_exactly_listed (σ := Unit) ls
  have same : ∀ p, p ∈ Listing.pairs ls ↔ p ∈ Listing.pairs ms := by
    intro p
    simp only [ls, ms, Listing.pairs, Listing.pair, Component.name, List.map_cons, List.map_nil,
      List.mem_cons, List.not_mem_nil, or_false]
    tauto
  have hprepare : i.signature.covers handler.type "prepare" = true := (hcovers _ _).2 (by decide)
  have hclose : i.signature.covers handler.type "close" = false := by
    refine Bool.eq_false_iff.2 fun h => ?_
    exact absurd ((hcovers _ _).1 h) (by decide)
  obtain ⟨wrapped, after, hrun, hcalls⟩ := hwrap i handler ⟨(), [], []⟩
  obtain ⟨hlayers, hintercepted⟩ := (hcalls "prepare" []).1 hprepare
  exact ⟨same, hpairs ms same, hprepare, hclose, wrapped, after, hrun, hlayers, hintercepted,
    (hcalls "close" []).2 hclose⟩

end Signature

end ResultMapping

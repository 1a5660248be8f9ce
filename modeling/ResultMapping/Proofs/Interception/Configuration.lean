import ResultMapping.Dictionary.Lemmas
import ResultMapping.Interception.Recording
import Mathlib.Data.List.Dedup

/-!
# Properties by their histories

Properties are collected from pairs, written to and merged into one another. All this is writing
pairs one after the other, and of the pairs with one key the last one counts; nothing else of a
history can be told from the properties. Configuring a recording time and again is configuring it
once with everything merged.

* `History.outcome_eq_ofList`: a history comes to its writes, collected;
* `lastWrite_iff`, `get?_outcome_iff`: what is found is what was written last;
* `name_setProperties`, `foldl_setProperties`: the name that a configuration leaves, and many
  configurations in one;
* `last_write_wins`: all this together.
-/

namespace ResultMapping

namespace Properties

/-- How properties come about: collected from pairs, then changed by writing single values and by
merging other properties into them. -/
inductive History where
  | collected (pairs : List (String × String))
  | set (before : History) (key value : String)
  | merged (before other : History)

/-- Of the pairs with this key the last one has this value. -/
def LastWrite (writes : List (String × String)) (key value : String) : Prop :=
  ∃ before after, writes = before ++ (key, value) :: after ∧ ∀ p ∈ after, p.1 ≠ key

theorem lastWrite_iff {writes : List (String × String)} {key value : String} :
    LastWrite writes key value ↔ writes.reverse.lookup key = some value := by
  rw [List.lookup_eq_some_iff]
  constructor
  · rintro ⟨before, after, rfl, hlast⟩
    refine ⟨after.reverse, before.reverse, by simp, fun p hp => bne_iff_ne.2 ?_⟩
    exact (hlast p (List.mem_reverse.1 hp)).symm
  · rintro ⟨after, before, hsplit, hlast⟩
    refine ⟨before.reverse, after.reverse, ?_, fun p hp => ?_⟩
    · rw [← List.reverse_reverse writes, hsplit]
      simp
    · exact (bne_iff_ne.1 (hlast p (List.mem_reverse.1 hp))).symm

namespace History

/-- The properties that a history leads to. -/
def outcome : History → Properties
  | collected pairs => .ofList pairs
  | set before key value => before.outcome.insert key value
  | merged before other => before.outcome.merge other.outcome

/-- All pairs that are written in the course of a history; merging writes those of the other
properties. -/
def writes : History → List (String × String)
  | collected pairs => pairs
  | set before key value => before.writes ++ [(key, value)]
  | merged before other => before.writes ++ other.outcome.entries

/-- The keys that are written, with repeats. -/
def written (h : History) : List String := h.writes.map (·.1)

/-- Whichever way pairs are written, they might as well have been collected. -/
theorem outcome_eq_ofList (h : History) : h.outcome = .ofList h.writes := by
  induction h with
  | collected pairs => rfl
  | set before key value ih =>
    rw [outcome, writes, Dictionary.ofList_append, ih]
    rfl
  | merged before other ih _ =>
    rw [outcome, writes, Dictionary.ofList_append, ih]
    rfl

theorem get?_outcome_iff {h : History} {key value : String} :
    h.outcome.get? key = some value ↔ LastWrite h.writes key value := by
  rw [outcome_eq_ofList, Dictionary.get?_ofList, lastWrite_iff]

theorem mem_keys_outcome {h : History} {key : String} :
    key ∈ h.outcome.keys ↔ key ∈ h.written := by
  rw [Dictionary.mem_keys_iff, outcome_eq_ofList, Dictionary.get?_ofList, List.lookup_isSome_iff,
    written, List.mem_map]
  exact exists_congr fun p => and_congr List.mem_reverse (beq_iff_eq.trans eq_comm)

theorem get?_outcome_eq_none_iff {h : History} {key : String} :
    h.outcome.get? key = none ↔ key ∉ h.written := by
  rw [← mem_keys_outcome, Dictionary.mem_keys_iff, Option.not_isSome_iff_eq_none]

theorem size_outcome (h : History) : h.outcome.size = h.written.dedup.length := by
  have hperm : h.outcome.keys.Perm h.written.dedup :=
    (List.perm_ext_iff_of_nodup h.outcome.nodup_keys (List.nodup_dedup _)).2 fun key => by
      rw [mem_keys_outcome, List.mem_dedup]
  rw [← hperm.length_eq, Dictionary.keys, List.length_map, Dictionary.size]

/-- The last writes are all that properties keep of their history. -/
theorem outcome_eq_of_lastWrite {h other : History}
    (same : ∀ key value, LastWrite h.writes key value ↔ LastWrite other.writes key value) :
    h.outcome = other.outcome := by
  refine Dictionary.ext_get? fun key => Option.ext fun value => ?_
  rw [get?_outcome_iff, get?_outcome_iff]
  exact same key value

end History

end Properties

namespace Recording

/-! ## Configuring a recording -/

@[simp] theorem name_setProperties (r : Recording) (p : Properties) :
    (r.setProperties p).name = p.getOr "name" r.name := rfl

theorem setProperties_setProperties (r : Recording) (p q : Properties) :
    (r.setProperties p).setProperties q = r.setProperties (p.merge q) := by
  rw [setProperties, setProperties, setProperties, Properties.getOr, Properties.getOr,
    Properties.getOr, Dictionary.get?_merge]
  cases q.get? "name" <;> rfl

/-- One configuration after the other comes to one with all properties merged in this order. -/
theorem foldl_setProperties (r : Recording) (p : Properties) (ps : List Properties) :
    (p :: ps).foldl setProperties r = r.setProperties (ps.foldl Dictionary.merge p) := by
  induction ps generalizing p with
  | nil => rfl
  | cons q ps ih =>
    calc (p :: q :: ps).foldl setProperties r
      _ = ps.foldl setProperties ((r.setProperties p).setProperties q) := rfl
      _ = ((p.merge q) :: ps).foldl setProperties r := by rw [setProperties_setProperties]; rfl
      _ = r.setProperties ((q :: ps).foldl Dictionary.merge p) := ih (p.merge q)

end Recording

namespace Properties

open History in
/-- Properties of any history have under each key what was written to it last, and nothing under
others. They list every key that was written, once and in the order of code points. Merging is
associative and idempotent, and histories with the same last writes lead to the same properties. A
recording that is configured with some properties one after the other is in the state in which all
of them merged would put it. -/
theorem last_write_wins :
    (∀ h : History,
      (∀ key value, h.outcome.get? key = some value ↔ LastWrite h.writes key value) ∧
      (∀ key, h.outcome.get? key = none ↔ key ∉ h.written) ∧
      (∀ key value, (key, value) ∈ h.outcome.entries ↔ LastWrite h.writes key value) ∧
      (∀ key ∈ h.written, h.outcome.keys.count key = 1) ∧
      h.outcome.keys.Pairwise
        (fun s t => s.toList.map Char.toNat < t.toList.map Char.toNat) ∧
      h.outcome.size = h.written.dedup.length) ∧
    (∀ p q r : Properties, (p.merge q).merge r = p.merge (q.merge r)) ∧
    (∀ p : Properties, p.merge p = p) ∧
    (∀ h other : History,
      (∀ key value, LastWrite h.writes key value ↔ LastWrite other.writes key value) →
      h.outcome = other.outcome ∧ h.outcome.toJson.compact = other.outcome.toJson.compact) ∧
    (∀ (r : Recording) (p : Properties) (ps : List Properties),
      (p :: ps).foldl Recording.setProperties r =
        r.setProperties (ps.foldl Dictionary.merge p) ∧
      ((p :: ps).foldl Recording.setProperties r).name =
        Properties.getOr (ps.foldl Dictionary.merge p) "name" r.name) := by
  refine ⟨fun h => ⟨fun _ _ => get?_outcome_iff, fun _ => get?_outcome_eq_none_iff,
    fun key value => ?_, fun key hkey => ?_, h.outcome.keys_increasing, h.size_outcome⟩,
    Dictionary.merge_assoc, Dictionary.merge_self, fun h other same => ?_,
    fun r p ps => ⟨Recording.foldl_setProperties r p ps, ?_⟩⟩
  · rw [Dictionary.mem_entries_iff, get?_outcome_iff]
  · exact List.count_eq_one_of_mem h.outcome.nodup_keys (mem_keys_outcome.2 hkey)
  · have heq := outcome_eq_of_lastWrite same
    exact ⟨heq, heq ▸ rfl⟩
  · rw [Recording.foldl_setProperties, Recording.name_setProperties]

/-- A threshold is set anew and a mode merged over another; two pairs would have done. A recording
that is named twice and then left its name has the second one. -/
theorem threshold_and_mode_rewritten :
    let h : History := .merged
      (.set (.collected [("mode", "slow"), ("threshold", "10")]) "threshold" "20")
      (.collected [("mode", "fast")])
    let other : History := .collected [("mode", "fast"), ("threshold", "20")]
    (∀ key value, LastWrite h.writes key value ↔ LastWrite other.writes key value) ∧
    h.outcome = other.outcome ∧
    "threshold" ∈ h.written ∧ h.outcome.keys.count "threshold" = 1 ∧
    ([.ofList [("mode", "slow"), ("name", "first")], .ofList [("name", "second")],
      h.outcome].foldl Recording.setProperties ⟨"plain", .proceed, .always⟩).name = "second" ∧
    ([h.outcome].foldl Recording.setProperties ⟨"plain", .proceed, .always⟩).name = "plain" := by
  intro h other
  obtain ⟨hall, -, -, heq, hrecording⟩ := last_write_wins
  have hwrites : h.writes
      = [("mode", "slow"), ("threshold", "10"), ("threshold", "20"), ("mode", "fast")] := rfl
  have same : ∀ key value, LastWrite h.writes key value ↔ LastWrite other.writes key value := by
    intro key value
    have hother : other.writes = [("mode", "fast"), ("threshold", "20")] := rfl
    rw [lastWrite_iff, lastWrite_iff, hwrites, hother]
    by_cases hmode : key = "mode"
    · simp [hmode, List.lookup_cons]
    · by_cases hthreshold : key = "threshold"
      · simp [hthreshold, List.lookup_cons]
      · simp [List.lookup_cons, beq_eq_false_iff_ne.2 hmode, beq_eq_false_iff_ne.2 hthreshold]
  have hwritten : "threshold" ∈ h.written := by
    rw [History.written, hwrites]
    decide
  exact ⟨same, (heq h other same).1, hwritten, (hall h).2.2.2.1 "threshold" hwritten,
    (hrecording _ _ _).2.trans (by decide), (hrecording _ _ _).2.trans (by decide)⟩

end Properties

end ResultMapping

import ResultMapping.Dictionary.Basic
import Mathlib.Data.List.Induction

/-!
# Look-ups in dictionaries

What a look-up finds after each operation, and that nothing but look-ups tells two dictionaries
apart.

* `get?_insert`: the last value written to a key is the one found;
* `get?_merge`: of two merged dictionaries the second decides where both have the key;
* `ext_get?`: there is one dictionary for every map, so merging is associative and idempotent
  (`merge_assoc`, `merge_self`);
* `ofList_entries`, `perm_entries_ofList`: the dictionary of pairs that are sorted already, and of
  pairs with different keys;
* `mem_keys_iff`, `mem_entries_iff`, `mem_values_iff`: the keys, entries and values are what is
  found;
* `keys_increasing`: the keys go up by code points;
* `NameSet.contains_insertNames`, `NameSet.ext_contains`: sets of names and their members.
-/

namespace ResultMapping.Dictionary

variable {α : Type}

theorem lookup_insertEntry (key : String) (value : α) {entries : List (String × α)}
    (h : Increasing entries) (k : String) :
    (insertEntry key value entries).lookup k
      = if k = key then some value else entries.lookup k := by
  induction entries with
  | nil =>
    by_cases hk : k = key
    · simp [insertEntry, hk]
    · simp [insertEntry, hk, List.lookup_cons, beq_eq_false_iff_ne.2 hk]
  | cons e rest ih =>
    obtain ⟨a, b⟩ := e
    obtain ⟨ha, hrest⟩ := List.pairwise_cons.1 h
    simp only [insertEntry]
    split
    · by_cases hk : k = key
      · simp [hk]
      · simp [hk, List.lookup_cons, beq_eq_false_iff_ne.2 hk]
    · split
      · rename_i heq
        subst heq
        by_cases hk : k = key
        · simp [hk]
        · simp [hk, List.lookup_cons, beq_eq_false_iff_ne.2 hk]
      · rename_i hne
        by_cases hka : k = a
        · subst hka
          simp [Ne.symm hne]
        · simp [List.lookup_cons, beq_eq_false_iff_ne.2 hka, ih hrest]

@[simp] theorem get?_insert (d : Dictionary α) (key : String) (value : α) (k : String) :
    (d.insert key value).get? k = if k = key then some value else d.get? k :=
  lookup_insertEntry key value d.increasing k

@[simp] theorem get?_empty (k : String) : (∅ : Dictionary α).get? k = none := rfl

/-- The value of the last pair with the key, or what the dictionary had before. -/
theorem get?_insertAll (d : Dictionary α) (pairs : List (String × α)) (k : String) :
    (d.insertAll pairs).get? k = (pairs.reverse.lookup k).or (d.get? k) := by
  induction pairs generalizing d with
  | nil => simp [insertAll]
  | cons p rest ih =>
    obtain ⟨a, b⟩ := p
    have := ih (d.insert a b)
    simp only [insertAll, List.foldl_cons] at this ⊢
    rw [this, get?_insert]
    simp only [List.reverse_cons, List.lookup_append, Option.or_assoc]
    congr 1
    by_cases hk : k = a
    · simp [hk]
    · simp [hk, List.lookup_cons, beq_eq_false_iff_ne.2 hk]

theorem lookup_eq_none_of_lt {k : String} {entries : List (String × α)}
    (h : ∀ x ∈ entries, k < x.1) : entries.lookup k = none := by
  induction entries with
  | nil => rfl
  | cons e rest ih =>
    obtain ⟨a, b⟩ := e
    have hlt : k < a := h (a, b) List.mem_cons_self
    have hne : k ≠ a := fun heq => String.lt_irrefl a (heq ▸ hlt)
    rw [List.lookup_cons, beq_eq_false_iff_ne.2 hne]
    exact ih fun x hx => h x (List.mem_cons_of_mem _ hx)

theorem entries_eq_of_lookup {entries others : List (String × α)} (h : Increasing entries)
    (h' : Increasing others) (same : ∀ k, entries.lookup k = others.lookup k) :
    entries = others := by
  induction entries generalizing others with
  | nil =>
    cases others with
    | nil => rfl
    | cons e rest =>
      obtain ⟨a, b⟩ := e
      have := same a
      simp at this
  | cons e rest ih =>
    obtain ⟨a, b⟩ := e
    obtain ⟨ha, hrest⟩ := List.pairwise_cons.1 h
    cases others with
    | nil =>
      have := same a
      simp at this
    | cons e' rest' =>
      obtain ⟨a', b'⟩ := e'
      obtain ⟨ha', hrest'⟩ := List.pairwise_cons.1 h'
      have hkey : a = a' := by
        apply Decidable.byContradiction
        intro hne
        by_cases hlt : a < a'
        · have hfar : ∀ x ∈ (a', b') :: rest', a < x.1 := by
            intro x hx
            rcases List.mem_cons.1 hx with rfl | hx
            · exact hlt
            · exact String.lt_trans hlt (ha' x hx)
          have := same a
          rw [lookup_eq_none_of_lt hfar] at this
          simp at this
        · have hlt' := lt_of_not_lt_of_ne hlt hne
          have hfar : ∀ x ∈ (a, b) :: rest, a' < x.1 := by
            intro x hx
            rcases List.mem_cons.1 hx with rfl | hx
            · exact hlt'
            · exact String.lt_trans hlt' (ha x hx)
          have := same a'
          rw [lookup_eq_none_of_lt hfar] at this
          simp at this
      subst hkey
      have hvalue : b = b' := by
        have := same a
        simpa [List.lookup_cons] using this
      subst hvalue
      congr 1
      refine ih hrest hrest' fun k => ?_
      by_cases hk : k = a
      · subst hk
        rw [lookup_eq_none_of_lt ha, lookup_eq_none_of_lt ha']
      · have := same k
        simpa [List.lookup_cons, beq_eq_false_iff_ne.2 hk] using this

/-- A dictionary is determined by its look-ups. -/
theorem ext_get? {d e : Dictionary α} (h : ∀ k, d.get? k = e.get? k) : d = e :=
  ext_entries (entries_eq_of_lookup d.increasing e.increasing h)

theorem lookup_reverse {entries : List (String × α)} (h : Increasing entries) (k : String) :
    entries.reverse.lookup k = entries.lookup k := by
  induction entries with
  | nil => rfl
  | cons e rest ih =>
    obtain ⟨a, b⟩ := e
    obtain ⟨ha, hrest⟩ := List.pairwise_cons.1 h
    rw [List.reverse_cons, List.lookup_append, ih hrest]
    by_cases hk : k = a
    · subst hk
      simp [lookup_eq_none_of_lt ha]
    · simp [List.lookup_cons, beq_eq_false_iff_ne.2 hk]

@[simp] theorem get?_merge (d e : Dictionary α) (k : String) :
    (d.merge e).get? k = (e.get? k).or (d.get? k) := by
  rw [merge, get?_insertAll, lookup_reverse e.increasing]
  rfl

theorem merge_assoc (d e f : Dictionary α) : (d.merge e).merge f = d.merge (e.merge f) := by
  refine ext_get? fun k => ?_
  rw [get?_merge, get?_merge, get?_merge, get?_merge, Option.or_assoc]

theorem merge_self (d : Dictionary α) : d.merge d = d := by
  refine ext_get? fun k => ?_
  rw [get?_merge, Option.or_self]

/-! ## Dictionaries of lists -/

theorem get?_ofList (pairs : List (String × α)) (k : String) :
    (ofList pairs).get? k = pairs.reverse.lookup k := by
  rw [ofList, get?_insertAll, get?_empty, Option.or_none]

theorem ofList_append (pairs others : List (String × α)) :
    ofList (pairs ++ others) = (ofList pairs).insertAll others := List.foldl_append

theorem ofList_entries (d : Dictionary α) : ofList d.entries = d := by
  refine ext_get? fun k => ?_
  rw [get?_ofList, lookup_reverse d.increasing]
  rfl

theorem perm_insertEntry (key : String) (value : α) {entries : List (String × α)}
    (h : key ∉ entries.map (·.1)) :
    (insertEntry key value entries).Perm ((key, value) :: entries) := by
  induction entries with
  | nil => exact .refl _
  | cons e rest ih =>
    obtain ⟨k, v⟩ := e
    obtain ⟨hne, hrest⟩ : key ≠ k ∧ key ∉ rest.map (·.1) := by
      rwa [List.map_cons, List.mem_cons, not_or] at h
    simp only [insertEntry]
    split
    · exact .refl _
    · exact ((ih hrest).cons (k, v)).trans (.swap (key, value) (k, v) rest)

/-- The entries of the dictionary of some pairs with different keys are these pairs. -/
theorem perm_entries_ofList {pairs : List (String × α)} (h : (pairs.map (·.1)).Nodup) :
    (ofList pairs).entries.Perm pairs := by
  induction pairs using List.reverseRecOn with
  | nil => exact .refl _
  | append_singleton pairs p ih =>
    have hadd : ofList (pairs ++ [p]) = (ofList pairs).insert p.1 p.2 :=
      List.foldl_append
    rw [List.map_append, List.nodup_append] at h
    obtain ⟨hpairs, -, hnew⟩ := h
    have hfresh : p.1 ∉ (ofList pairs).entries.map (·.1) := fun hmem =>
      hnew p.1 (((ih hpairs).map _).subset hmem) p.1 List.mem_cons_self rfl
    rw [hadd]
    refine (perm_insertEntry p.1 p.2 hfresh).trans ?_
    exact ((ih hpairs).cons p).trans (List.perm_append_singleton p pairs).symm

/-! ## Keys -/

theorem nodup_keys (d : Dictionary α) : d.keys.Nodup := by
  refine List.pairwise_map.2 (List.Pairwise.imp (fun hlt heq => ?_) d.increasing)
  rw [heq] at hlt
  exact String.lt_irrefl _ hlt

theorem mem_keys_iff {d : Dictionary α} {k : String} : k ∈ d.keys ↔ (d.get? k).isSome = true := by
  rw [get?, List.lookup_isSome_iff, keys, List.mem_map]
  exact exists_congr fun p => and_congr_right fun _ => eq_comm.trans beq_iff_eq.symm

theorem contains_insert {d : Dictionary α} {key : String} {value : α} {k : String} :
    (d.insert key value).contains k = true ↔ d.contains k = true ∨ k = key := by
  rw [contains, get?_insert, contains]
  by_cases h : k = key <;> simp [h]

theorem mem_entries_iff {d : Dictionary α} {k : String} {value : α} :
    (k, value) ∈ d.entries ↔ d.get? k = some value := by
  rw [get?, List.lookup_eq_some_iff]
  constructor
  · intro h
    obtain ⟨before, after, hsplit⟩ := List.append_of_mem h
    have hincreasing : Increasing (before ++ (k, value) :: after) := hsplit ▸ d.increasing
    refine ⟨before, after, hsplit, fun p hp => bne_iff_ne.2 fun hkey => ?_⟩
    have hlt : p.1 < k := (List.pairwise_append.1 hincreasing).2.2 p hp _ List.mem_cons_self
    exact String.lt_irrefl k (hkey ▸ hlt)
  · rintro ⟨before, after, hsplit, -⟩
    rw [hsplit]
    exact List.mem_append_right _ List.mem_cons_self

theorem mem_values_iff {d : Dictionary α} {value : α} :
    value ∈ d.values ↔ ∃ k, d.get? k = some value := by
  simp only [values, List.mem_map, Prod.exists, exists_eq_right, mem_entries_iff]

/-- Texts are compared by their code points. -/
theorem lt_iff_codePoints {s t : String} :
    s < t ↔ s.toList.map Char.toNat < t.toList.map Char.toNat := by
  show s.toList < t.toList ↔ _
  generalize s.toList = cs
  generalize t.toList = ds
  induction cs generalizing ds with
  | nil => cases ds <;> simp
  | cons c cs ih =>
    cases ds with
    | nil => simp
    | cons d ds =>
      rw [List.map_cons, List.map_cons, List.cons_lt_cons_iff, List.cons_lt_cons_iff, ih,
        Char.toNat_inj]
      exact Iff.rfl

theorem keys_increasing (d : Dictionary α) :
    d.keys.Pairwise fun s t => s.toList.map Char.toNat < t.toList.map Char.toNat :=
  List.pairwise_map.2 (d.increasing.imp lt_iff_codePoints.1)

end ResultMapping.Dictionary

namespace ResultMapping.NameSet

theorem contains_insertNames (s : NameSet) (names : List String) (name : String) :
    (s.insertNames names).contains name = true ↔ s.contains name = true ∨ name ∈ names := by
  induction names generalizing s with
  | nil => simp [insertNames, Dictionary.insertAll]
  | cons n names ih =>
    have hcons : s.insertNames (n :: names)
        = insertNames (Dictionary.insert s n ()) names := rfl
    rw [hcons, ih, Dictionary.contains_insert, List.mem_cons, or_assoc]

/-- A set is determined by its members. -/
theorem ext_contains {s t : NameSet} (h : ∀ name, s.contains name = true ↔ t.contains name = true) :
    s = t := by
  refine Dictionary.ext_get? fun name => ?_
  have hname : (s.get? name).isSome = (t.get? name).isSome := Bool.eq_iff_iff.2 (h name)
  cases hs : s.get? name <;> cases ht : t.get? name <;> simp_all

end ResultMapping.NameSet

/-!
# Dictionaries

A finite map from texts, kept as its entries in strictly increasing order of the keys. Keys are
compared character by character, by code point. Writing an entry keeps the order
(`increasing_insertEntry`).
-/

namespace ResultMapping

/-- Entries whose keys are strictly increasing. -/
def Increasing {α : Type} (entries : List (String × α)) : Prop :=
  entries.Pairwise (fun x y => x.1 < y.1)

instance {α : Type} (entries : List (String × α)) : Decidable (Increasing entries) :=
  inferInstanceAs (Decidable (entries.Pairwise _))

structure Dictionary (α : Type) where
  entries : List (String × α)
  increasing : Increasing entries

namespace Dictionary

variable {α : Type}

theorem ext_entries {d e : Dictionary α} (h : d.entries = e.entries) : d = e := by
  cases d; cases e; cases h; rfl

instance [DecidableEq α] : DecidableEq (Dictionary α) := fun d e =>
  if h : d.entries = e.entries then .isTrue (ext_entries h)
  else .isFalse fun same => h (congrArg entries same)

def empty : Dictionary α := ⟨[], .nil⟩

instance : EmptyCollection (Dictionary α) := ⟨empty⟩

instance : Inhabited (Dictionary α) := ⟨empty⟩

/-- The value under a key. -/
def get? (d : Dictionary α) (key : String) : Option α := d.entries.lookup key

def contains (d : Dictionary α) (key : String) : Bool := (d.get? key).isSome

def size (d : Dictionary α) : Nat := d.entries.length

def isEmpty (d : Dictionary α) : Bool := d.entries.isEmpty

def keys (d : Dictionary α) : List String := d.entries.map (·.1)

def values (d : Dictionary α) : List α := d.entries.map (·.2)

/-- Writes an entry at its place, over an entry of the same key. -/
def insertEntry (key : String) (value : α) : List (String × α) → List (String × α)
  | [] => [(key, value)]
  | (k, v) :: rest =>
    if key < k then (key, value) :: (k, v) :: rest
    else if key = k then (key, value) :: rest
    else (k, v) :: insertEntry key value rest

theorem mem_insertEntry {key : String} {value : α} {entries : List (String × α)}
    {x : String × α} (h : x ∈ insertEntry key value entries) : x = (key, value) ∨ x ∈ entries := by
  induction entries with
  | nil => simpa [insertEntry] using h
  | cons e rest ih =>
    obtain ⟨k, v⟩ := e
    simp only [insertEntry] at h
    split at h
    · simpa using h
    · split at h
      · rcases List.mem_cons.1 h with h | h
        · exact .inl h
        · exact .inr (List.mem_cons_of_mem _ h)
      · rcases List.mem_cons.1 h with h | h
        · exact .inr (h ▸ List.mem_cons_self)
        · rcases ih h with h | h
          · exact .inl h
          · exact .inr (List.mem_cons_of_mem _ h)

theorem lt_of_not_lt_of_ne {s t : String} (h : ¬ s < t) (hne : s ≠ t) : t < s :=
  Decidable.byContradiction fun h' => hne (String.le_antisymm h' h)

theorem increasing_insertEntry (key : String) (value : α) {entries : List (String × α)}
    (h : Increasing entries) : Increasing (insertEntry key value entries) := by
  induction entries with
  | nil => exact List.pairwise_singleton _ _
  | cons e rest ih =>
    obtain ⟨k, v⟩ := e
    obtain ⟨hk, hrest⟩ := List.pairwise_cons.1 h
    simp only [insertEntry]
    split
    · rename_i hlt
      refine List.pairwise_cons.2 ⟨fun x hx => ?_, h⟩
      rcases List.mem_cons.1 hx with rfl | hx
      · exact hlt
      · exact String.lt_trans hlt (hk x hx)
    · split
      · rename_i heq
        subst heq
        exact List.pairwise_cons.2 ⟨hk, hrest⟩
      · rename_i hlt hne
        refine List.pairwise_cons.2 ⟨fun x hx => ?_, ih hrest⟩
        rcases mem_insertEntry hx with rfl | hx
        · exact lt_of_not_lt_of_ne hlt hne
        · exact hk x hx

/-- The dictionary with a value written under a key. -/
def insert (d : Dictionary α) (key : String) (value : α) : Dictionary α :=
  ⟨insertEntry key value d.entries, increasing_insertEntry key value d.increasing⟩

/-- The pairs written one after the other into a dictionary. -/
def insertAll (d : Dictionary α) (pairs : List (String × α)) : Dictionary α :=
  pairs.foldl (fun d (key, value) => d.insert key value) d

/-- The dictionary of some pairs; of repeated keys the last one counts. -/
def ofList (pairs : List (String × α)) : Dictionary α :=
  (∅ : Dictionary α).insertAll pairs

/-- All entries of the second dictionary written into the first. -/
def merge (d e : Dictionary α) : Dictionary α := d.insertAll e.entries

end Dictionary

/-- A set of names is a dictionary that has nothing but keys. -/
abbrev NameSet := Dictionary Unit

namespace NameSet

/-- The set with some more names. -/
def insertNames (s : NameSet) (names : List String) : NameSet := s.insertAll (names.map (·, ()))

def ofNames (names : List String) : NameSet := insertNames ∅ names

end NameSet

end ResultMapping

import ResultMapping.Descriptor
import ResultMapping.Dictionary.Lemmas
import Mathlib.Data.List.Induction
import Mathlib.Data.List.Perm.Basic
import Mathlib.Data.Nat.Bitwise

/-!
# How a descriptor sorts its entries

The entries of a descriptor are gone through once. All that is noted of them on the way is a matter
of each entry for itself, but for the fallback for the identity of a row, which is decided at the
end.

* `EntryIndex.Indexes`: what an index says of the entries that it has taken note of;
* `EntryIndex.Indexes.add`, `EntryIndex.indexes_ofEntries`: one more entry keeps it right, and so it
  is right after any number of them;
* `Blueprint.build_sorts_entries`: what becomes of a blueprint.
-/

namespace ResultMapping

/-! ## Roles are bits -/

theorem Flags.contains_eq_testBit (a : Flags) {b : Flags} {i : Nat}
    (hb : b.bits.toNat = 1 <<< i) : a.contains b = a.bits.toNat.testBit i := by
  rw [Bool.eq_iff_iff, Flags.contains, beq_iff_eq, ← UInt8.toNat_inj, UInt8.toNat_and, hb,
    Nat.one_shiftLeft, Nat.and_two_pow]
  cases a.bits.toNat.testBit i with
  | false => simp [(Nat.two_pow_pos i).ne]
  | true => simp

theorem Entry.isId_eq_testBit (e : Entry) : e.isId = e.flags.bits.toNat.testBit 0 :=
  Flags.contains_eq_testBit e.flags rfl

theorem Entry.isConstructor_eq_testBit (e : Entry) :
    e.isConstructor = e.flags.bits.toNat.testBit 1 :=
  Flags.contains_eq_testBit e.flags rfl

/-! ## The pass over the entries -/

namespace EntryIndex

variable {index : EntryIndex} {entries : List Entry}

/-- The index says of some entries what is to be said of them. -/
structure Indexes (index : EntryIndex) (entries : List Entry) : Prop where
  idEntries_eq : index.idEntries = entries.filter (·.isId)
  constructorEntries_eq : index.constructorEntries = entries.filter (·.isConstructor)
  propertyEntries_eq : index.propertyEntries = entries.filter (!·.isConstructor)
  contains_iff (name : String) : index.mappedColumns.contains name = true ↔
    ∃ e ∈ entries, ∃ column ∈ e.directColumns, normalizeColumn column = name
  hasNestedResultMaps_iff : index.hasNestedResultMaps = true ↔ ∃ e ∈ entries, e.nestsInRow = true
  hasNestedQueries_iff :
    index.hasNestedQueries = true ↔ ∃ e ∈ entries, e.nestedQuery.isSome = true

theorem indexes_empty : Indexes {} [] where
  idEntries_eq := rfl
  constructorEntries_eq := rfl
  propertyEntries_eq := rfl
  contains_iff _ := by simp [Dictionary.contains]
  hasNestedResultMaps_iff := by simp
  hasNestedQueries_iff := by simp

/-- What taking note of one more entry preserves. -/
theorem Indexes.add (h : index.Indexes entries) (e : Entry) :
    (index.add e).Indexes (entries ++ [e]) where
  idEntries_eq := by
    rw [List.filter_append, ← h.idEntries_eq, EntryIndex.add]
    cases he : e.isId <;> simp [he]
  constructorEntries_eq := by
    rw [List.filter_append, ← h.constructorEntries_eq, EntryIndex.add]
    cases he : e.isConstructor <;> simp [he]
  propertyEntries_eq := by
    rw [List.filter_append, ← h.propertyEntries_eq, EntryIndex.add]
    cases he : e.isConstructor <;> simp [he]
  contains_iff name := by
    simp only [EntryIndex.add, NameSet.contains_insertNames, h.contains_iff, List.mem_append,
      List.mem_map, List.mem_singleton, or_and_right, exists_or, exists_eq_left]
  hasNestedResultMaps_iff := by
    simp only [EntryIndex.add, Bool.or_eq_true, h.hasNestedResultMaps_iff, List.mem_append,
      List.mem_singleton, or_and_right, exists_or, exists_eq_left]
  hasNestedQueries_iff := by
    simp only [EntryIndex.add, Bool.or_eq_true, h.hasNestedQueries_iff, List.mem_append,
      List.mem_singleton, or_and_right, exists_or, exists_eq_left]

theorem indexes_ofEntries (entries : List Entry) : (ofEntries entries).Indexes entries := by
  induction entries using List.reverseRecOn with
  | nil => exact indexes_empty
  | append_singleton entries e ih =>
    have hconcat : ofEntries (entries ++ [e]) = (ofEntries entries).add e := List.foldl_append
    rw [hconcat]
    exact ih.add e

end EntryIndex

/-! ## Descriptors -/

namespace Blueprint

/-- Building fails for want of an id and for no other reason. -/
theorem build_eq_error_iff {b : Blueprint} {fault : MappingError} :
    b.build = .error fault ↔ b.id = "" ∧ fault = .missingDescriptorId := by
  rw [build, ← String.isEmpty_iff]
  split
  · next h => simp [h, eq_comm]
  · next h => simp [h]

/-- A descriptor has the entries of its blueprint in their order, those with the bit of a
constructor argument among the constructor arguments and all others among the properties, and those
with the bit of an identity, if there is any, identify a row; in this it makes no difference which
other bits they have. -/
theorem build_sorts_entries (b : Blueprint) :
    (∀ fault, b.build = .error fault ↔ b.id = "" ∧ fault = .missingDescriptorId) ∧
    (b.id ≠ "" → ∃ d, b.build = .ok d ∧
      d.id = b.id ∧ d.targetType = b.targetType ∧ d.autoMapping = b.autoMapping ∧
      d.discriminator = b.discriminator ∧ d.entries = b.entries ∧
      d.constructorEntries = b.entries.filter (·.flags.bits.toNat.testBit 1) ∧
      d.propertyEntries = b.entries.filter (!·.flags.bits.toNat.testBit 1) ∧
      (d.constructorEntries ++ d.propertyEntries).Perm b.entries ∧
      ((∃ e ∈ b.entries, e.flags.bits.toNat.testBit 0 = true) →
        d.idEntries = b.entries.filter (·.flags.bits.toNat.testBit 0)) ∧
      ((∀ e ∈ b.entries, e.flags.bits.toNat.testBit 0 = false) → d.idEntries = b.entries) ∧
      (d.hasNestedQueries = true ↔ ∃ e ∈ b.entries, e.nestedQuery ≠ none) ∧
      (d.hasNestedResultMaps = true ↔
        ∃ e ∈ b.entries, e.nestedResultMap ≠ none ∧ e.resultSet = none)) := by
  refine ⟨fun fault => build_eq_error_iff, fun hid => ?_⟩
  have hindex := EntryIndex.indexes_ofEntries b.entries
  have hconstructors := hindex.constructorEntries_eq
  have hproperties := hindex.propertyEntries_eq
  have hids := hindex.idEntries_eq
  simp only [Entry.isConstructor_eq_testBit] at hconstructors hproperties
  simp only [Entry.isId_eq_testBit] at hids
  have hempty : b.id.isEmpty = false := by simpa using hid
  rw [build, hempty]
  refine ⟨_, rfl, rfl, rfl, rfl, rfl, rfl, hconstructors, hproperties, ?_, ?_, ?_, ?_, ?_⟩
  · show (_ ++ _ : List Entry).Perm _
    rw [hconstructors, hproperties]
    exact List.filter_append_perm _ _
  · rintro ⟨e, he, hbit⟩
    show (if _ then _ else _) = _
    rw [hids, if_neg]
    rw [List.isEmpty_iff, List.filter_eq_nil_iff]
    exact fun hnone => hnone e he hbit
  · intro hnone
    show (if _ then _ else _) = _
    rw [hids, if_pos]
    rw [List.isEmpty_iff, List.filter_eq_nil_iff]
    intro e he
    rw [hnone e he]
    exact Bool.false_ne_true
  · show (EntryIndex.ofEntries b.entries).hasNestedQueries = true ↔ _
    rw [hindex.hasNestedQueries_iff]
    simp [Option.isSome_iff_ne_none]
  · show (EntryIndex.ofEntries b.entries).hasNestedResultMaps = true ↔ _
    rw [hindex.hasNestedResultMaps_iff]
    simp [Entry.nestsInRow, Option.isSome_iff_ne_none]

/-! ## An order -/

/-- A constructor argument that identifies the row, with a bit besides that has no meaning. -/
def orderNumber : Entry := { column := some "number", flags := ⟨0x83⟩ }

/-- An entry that could not have been built, joined over a result set. -/
def buyer : Entry :=
  { property := some "buyer", flags := ⟨0x04⟩, nestedResultMap := some "buyer",
    nestedQuery := some "selectBuyer", resultSet := some "buyers" }

def order : Blueprint where
  id := "order"
  targetType := ⟨"Order"⟩
  entries := [buyer, orderNumber, buyer]

theorem order_sorts_entries :
    order.id ≠ "" ∧ ∃ d, order.build = .ok d ∧
      d.constructorEntries = [orderNumber] ∧ d.propertyEntries = [buyer, buyer] ∧
      d.idEntries = [orderNumber] ∧ d.hasNestedQueries = true ∧ d.hasNestedResultMaps = false := by
  have hid : order.id ≠ "" := by decide
  obtain ⟨d, hd, -, -, -, -, -, hconstructors, hproperties, -, hids, -, hqueries, hnested⟩ :=
    (build_sorts_entries order).2 hid
  refine ⟨hid, d, hd, hconstructors, hproperties, hids ⟨orderNumber, by decide, by decide⟩,
    hqueries.2 ⟨buyer, by decide, by decide⟩, ?_⟩
  rw [Bool.eq_false_iff, ne_eq, hnested]
  decide

end Blueprint

end ResultMapping

import ResultMapping.Proofs.Descriptor.Classification
import ResultMapping.Proofs.Registry.Acceptance

/-!
# The columns of a descriptor

A descriptor knows the columns that its entries read, in the form in which column names are
compared. An entry reads its own column; one without a column reads those of its composites, and
goes no deeper.

* `Entry.Reads`: whether an entry reads a column of some normal form;
* `Blueprint.contains_mappedColumns_iff`: the mapped columns are those that some entry reads;
* `Blueprint.mappedColumns_eq`: so they depend on nothing else;
* `Blueprint.isMappedColumn_iff_reads`: what a descriptor says of columns, and that it keeps saying
  it while it is registered.
-/

namespace ResultMapping

namespace Entry

variable {e : Entry} {name : String}

/-- The column of the entry, or the column of a composite if it has none, has the normal form. -/
def Reads (e : Entry) (name : String) : Prop :=
  (∃ column, e.column = some column ∧ normalizeColumn column = name) ∨
  (e.column = none ∧ ∃ part ∈ e.composites, ∃ column,
    part.column = some column ∧ normalizeColumn column = name)

theorem exists_mem_directColumns_iff :
    (∃ column ∈ e.directColumns, normalizeColumn column = name) ↔ e.Reads name := by
  rw [directColumns, Reads]
  cases h : e.column with
  | some column => simp
  | none =>
    constructor
    · rintro ⟨column, hcolumn, hname⟩
      obtain ⟨part, hpart, hsome⟩ := List.mem_filterMap.1 hcolumn
      exact .inr ⟨rfl, part, hpart, column, hsome, hname⟩
    · rintro (⟨column, hown, -⟩ | ⟨-, part, hpart, column, hsome, hname⟩)
      · cases hown
      · exact ⟨column, List.mem_filterMap.2 ⟨part, hpart, hsome⟩, hname⟩

instance : Decidable (e.Reads name) := decidable_of_iff _ exists_mem_directColumns_iff

/-- The entry without the parts that it reads no columns of: all its composites if it has a column,
and otherwise their composites. -/
def pruned (e : Entry) : Entry :=
  match e.column with
  | some _ => { e with composites := [] }
  | none => { e with composites := e.composites.map fun part => { part with composites := [] } }

theorem reads_pruned : e.pruned.Reads name ↔ e.Reads name := by
  rw [pruned, Reads, Reads]
  cases h : e.column with
  | some column => simp
  | none => simp

end Entry

namespace Blueprint

variable {b b' : Blueprint} {d d' : Descriptor}

theorem contains_mappedColumns_iff (h : b.build = .ok d) (name : String) :
    d.mappedColumns.contains name = true ↔ ∃ e ∈ b.entries, e.Reads name := by
  have hindex := (EntryIndex.indexes_ofEntries b.entries).contains_iff name
  simp only [Entry.exists_mem_directColumns_iff] at hindex
  rw [build] at h
  split at h
  · cases h
  · cases h
    exact hindex

/-- Descriptors whose entries read the same columns have the same mapped columns. -/
theorem mappedColumns_eq (h : b.build = .ok d) (h' : b'.build = .ok d')
    (same : ∀ name, (∃ e ∈ b'.entries, e.Reads name) ↔ ∃ e ∈ b.entries, e.Reads name) :
    d'.mappedColumns = d.mappedColumns := by
  refine NameSet.ext_contains fun name => ?_
  rw [contains_mappedColumns_iff h, contains_mappedColumns_iff h', same]

/-- The columns that a descriptor knows are those that one of its entries reads. There are no
others, whatever the order of the entries is and whatever parts they have that are not looked at,
and they stay the same when the descriptor is forced and while it is registered. -/
theorem isMappedColumn_iff_reads (h : b.build = .ok d) :
    (∀ column, d.isMappedColumn column = true ↔
      ∃ e ∈ b.entries, e.Reads (normalizeColumn column)) ∧
    (∀ name, name ∈ d.mappedColumns.keys ↔ ∃ e ∈ b.entries, e.Reads name) ∧
    d.mappedColumns.keys.Nodup ∧
    (∀ (b' : Blueprint) d', b'.build = .ok d' → b'.entries.Perm b.entries →
      d'.mappedColumns = d.mappedColumns) ∧
    (∀ (b' : Blueprint) d', b'.build = .ok d' →
      b'.entries.map Entry.pruned = b.entries.map Entry.pruned →
      d'.mappedColumns = d.mappedColumns) ∧
    d.forceNestedResultMaps.mappedColumns = d.mappedColumns ∧
    (∀ (r : Registry) ds, d.id ∉ r.ids → ∃ e,
      (r.registerAll (d :: ds)).get? d.id = some e ∧ e.mappedColumns = d.mappedColumns) := by
  refine ⟨fun column => contains_mappedColumns_iff h _, fun name => ?_,
    Dictionary.nodup_keys _, fun b' d' h' hperm => ?_, fun b' d' h' hpruned => ?_, rfl,
    fun r ds hnew => ?_⟩
  · rw [← contains_mappedColumns_iff h, Dictionary.mem_keys_iff, Dictionary.contains]
  · exact mappedColumns_eq h h' fun name => exists_congr fun e => and_congr_left fun _ =>
      hperm.mem_iff
  · have hreads (entries : List Entry) (name : String) :
        (∃ e ∈ entries, e.Reads name) ↔ ∃ e ∈ entries.map Entry.pruned, e.Reads name := by
      simp [Entry.reads_pruned]
    refine mappedColumns_eq h h' fun name => ?_
    rw [hreads, hpruned, ← hreads]
  · have hfirst : (d :: ds).find? (·.id == d.id) = some d := List.find?_cons_of_pos (by simp)
    obtain ⟨e, he, hraised⟩ := Registry.exists_raised_of_find? hnew hfirst
    refine ⟨e, he, ?_⟩
    rw [hraised.same]
    rfl

/-! ## A shop -/

/-- The street has a column, so its composite is not looked at; the key has none, and of its
composites only the first has one. -/
def shop : Blueprint where
  id := "shop"
  targetType := ⟨"Shop"⟩
  entries := [
    { property := some "street", column := some "Straße",
      composites := [.composite "no" "number"] },
    { composites := [.composite "tenant" "tenant_id",
        { composites := [.composite "region" "region_id"] }] }]

theorem shop_reads_street_and_tenant :
    ∃ d, shop.build = .ok d ∧
      d.isMappedColumn "strasse" = true ∧ d.isMappedColumn "Tenant_Id" = true ∧
      d.isMappedColumn "number" = false ∧ d.isMappedColumn "region_id" = false ∧
      ∃ e, (Registry.empty.registerAll [d, d]).get? "shop" = some e ∧
        e.mappedColumns = d.mappedColumns := by
  have hbuild : ∃ d, shop.build = .ok d := ⟨_, rfl⟩
  obtain ⟨d, hd⟩ := hbuild
  obtain ⟨hmapped, -, -, -, -, -, hregistered⟩ := isMappedColumn_iff_reads hd
  have hunmapped {column : String} (h : ¬∃ e ∈ shop.entries, e.Reads (normalizeColumn column)) :
      d.isMappedColumn column = false := Bool.eq_false_iff.2 fun h' => h ((hmapped column).1 h')
  refine ⟨d, hd, (hmapped _).2 ?_, (hmapped _).2 ?_, hunmapped ?_, hunmapped ?_, ?_⟩
  · decide +kernel
  · decide +kernel
  · decide +kernel
  · decide +kernel
  · have hid : "shop" = d.id := congrArg Descriptor.id (Except.ok.inj hd)
    rw [hid]
    exact hregistered Registry.empty [d] List.not_mem_nil

end Blueprint

end ResultMapping

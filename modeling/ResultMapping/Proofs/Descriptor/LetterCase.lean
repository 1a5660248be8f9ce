import ResultMapping.Proofs.Descriptor.Columns
import ResultMapping.Proofs.Text.UpperCase

/-!
# Looking up columns in any case

Columns are looked up in their normal form, and so they are kept. A name in normal form is its own
normal form, though the form of a name may be longer than the name.

* `isMappedColumn_eq_of_caseVariants`: the case of letters from `A` to `Z` makes no difference;
* `isMappedColumn_of_mem_keys`: every name that is kept is found;
* `isMappedColumn_ignores_case`: all this of every descriptor that is built.
-/

namespace ResultMapping

theorem normalizeColumn_normalizeColumn (column : String) :
    normalizeColumn (normalizeColumn column) = normalizeColumn column :=
  Text.upperCase_upperCase column

theorem Entry.Reads.normalizeColumn_eq {e : Entry} {name : String} (h : e.Reads name) :
    normalizeColumn name = name := by
  obtain ⟨column, -, rfl⟩ := exists_mem_directColumns_iff.2 h
  exact normalizeColumn_normalizeColumn column

namespace Descriptor

variable {d : Descriptor}

theorem isMappedColumn_eq_of_caseVariants {column other : String}
    (h : Text.CaseVariants column other) : d.isMappedColumn column = d.isMappedColumn other :=
  congrArg d.mappedColumns.contains (Text.upperCase_eq_of_caseVariants h)

theorem isMappedColumn_normalizeColumn (column : String) :
    d.isMappedColumn (normalizeColumn column) = d.isMappedColumn column :=
  congrArg d.mappedColumns.contains (normalizeColumn_normalizeColumn column)

end Descriptor

namespace Blueprint

variable {b : Blueprint} {d : Descriptor}

theorem isMappedColumn_of_mem_keys (h : b.build = .ok d) {name : String}
    (hname : name ∈ d.mappedColumns.keys) : d.isMappedColumn name = true := by
  have hcontains : d.mappedColumns.contains name = true := Dictionary.mem_keys_iff.1 hname
  obtain ⟨e, -, hreads⟩ := (contains_mappedColumns_iff h name).1 hcontains
  rwa [Descriptor.isMappedColumn, hreads.normalizeColumn_eq]

/-- It makes no difference to a look-up in which case the letters from `A` to `Z` are written, nor
whether the name is normalized before, and every name that a descriptor keeps is found. -/
theorem isMappedColumn_ignores_case (h : b.build = .ok d) :
    (∀ column other, Text.CaseVariants column other →
      d.isMappedColumn column = d.isMappedColumn other) ∧
    (∀ column, normalizeColumn (normalizeColumn column) = normalizeColumn column) ∧
    (∀ column, d.isMappedColumn (normalizeColumn column) = d.isMappedColumn column) ∧
    (∀ name ∈ d.mappedColumns.keys, d.isMappedColumn name = true) :=
  ⟨fun _ _ => Descriptor.isMappedColumn_eq_of_caseVariants, normalizeColumn_normalizeColumn,
    Descriptor.isMappedColumn_normalizeColumn, fun _ => isMappedColumn_of_mem_keys h⟩

/-- The street of the shop is found in letters of any case, and under the longer name that is kept;
the number, which is no column of the shop, is not found in any. -/
theorem shop_finds_street_in_any_case :
    ∃ d, shop.build = .ok d ∧ Text.CaseVariants "sTRAße" "Straße" ∧
      d.isMappedColumn "sTRAße" = d.isMappedColumn "Straße" ∧
      "STRASSE" ∈ d.mappedColumns.keys ∧ d.isMappedColumn "STRASSE" = true ∧
      Text.CaseVariants "nUMBER" "number" ∧
      d.isMappedColumn "number" = false ∧ d.isMappedColumn "nUMBER" = false ∧
      d.isMappedColumn (normalizeColumn "number") = false := by
  have hbuild : ∃ d, shop.build = .ok d := ⟨_, rfl⟩
  obtain ⟨d, hd⟩ := hbuild
  obtain ⟨hvariants, -, hnormal, hkeys⟩ := isMappedColumn_ignores_case hd
  have hstreet : Text.CaseVariants "sTRAße" "Straße" := by decide
  have hkept : "STRASSE" ∈ d.mappedColumns.keys := by
    cases hd
    decide +kernel
  have hnumber : Text.CaseVariants "nUMBER" "number" := by decide
  have hmissing : d.isMappedColumn "number" = false := by
    cases hd
    decide +kernel
  exact ⟨d, hd, hstreet, hvariants _ _ hstreet, hkept, hkeys _ hkept, hnumber, hmissing,
    (hvariants _ _ hnumber).trans hmissing, (hnormal _).trans hmissing⟩

end Blueprint

end ResultMapping

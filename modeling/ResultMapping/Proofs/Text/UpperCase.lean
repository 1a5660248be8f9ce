import ResultMapping.Proofs.Text.CaseTable
import ResultMapping.Text.UpperCase
import Mathlib.Data.List.Forall2

/-!
# Upper-case texts

* `upperCase_upperCase`: a text in upper case stays as it is;
* `upperCase_eq_of_caseVariants`: the case of the letters from `A` to `Z` makes no difference;
* `count_comma_upperCase`: commas are neither lost nor made.
-/

namespace ResultMapping.Text

/-! ## The table -/

theorem settled_upperTable : upperTable.Settled where
  clear := by decide +kernel
  inRange := by decide +kernel

theorem upperCase_upperCase (text : String) : upperCase (upperCase text) = upperCase text :=
  settled_upperTable.convert_convert text

theorem count_comma_upperCase (text : String) :
    (upperCase text).toList.count ',' = text.toList.count ',' := by
  rw [upperCase, CaseTable.convert, String.toList_ofList]
  exact settled_upperTable.count_convertChars (by decide +kernel) (by decide +kernel) _

/-! ## Letters from A to Z -/

/-- The two characters are the same but for the case of a letter from `A` to `Z`. -/
def CaseVariant (c d : Char) : Prop :=
  c = d ∨ ∃ letter < 26, (c.toNat = 0x41 + letter ∧ d.toNat = 0x61 + letter) ∨
    (c.toNat = 0x61 + letter ∧ d.toNat = 0x41 + letter)

instance (c d : Char) : Decidable (CaseVariant c d) := inferInstanceAs (Decidable (_ ∨ _))

/-- The two texts are the same, character by character, but for the case of letters from `A` to
`Z`. -/
def CaseVariants (text other : String) : Prop :=
  List.Forall₂ CaseVariant text.toList other.toList

instance (text other : String) : Decidable (CaseVariants text other) :=
  inferInstanceAs (Decidable (List.Forall₂ _ _ _))

theorem CaseVariants.exists_mem {text other : String} (h : CaseVariants text other) :
    ∀ c ∈ text.toList, ∃ d ∈ other.toList, CaseVariant c d := by
  unfold CaseVariants at h
  generalize text.toList = cs at h ⊢
  generalize other.toList = ds at h ⊢
  induction h with
  | nil => exact nofun
  | cons hchar _ ih =>
    intro c hc
    rcases List.mem_cons.1 hc with rfl | hc
    · exact ⟨_, List.mem_cons_self, hchar⟩
    · obtain ⟨d, hd, hvariant⟩ := ih c hc
      exact ⟨d, List.mem_cons_of_mem _ hd, hvariant⟩

theorem codes_upperTable_letter :
    ∀ letter < 26, upperTable.codes (0x41 + letter) = upperTable.codes (0x61 + letter) := by
  decide +kernel

theorem CaseVariant.convertChar_eq {c d : Char} (h : CaseVariant c d) :
    upperTable.convertChar c = upperTable.convertChar d := by
  rcases h with rfl | ⟨letter, hletter, hpair⟩
  · rfl
  · have hcodes := codes_upperTable_letter letter hletter
    rcases hpair with ⟨hc, hd⟩ | ⟨hc, hd⟩
    · rw [CaseTable.convertChar, CaseTable.convertChar, hc, hd, hcodes]
    · rw [CaseTable.convertChar, CaseTable.convertChar, hc, hd, hcodes]

theorem upperCase_eq_of_caseVariants {text other : String} (h : CaseVariants text other) :
    upperCase text = upperCase other := by
  have hchars : upperTable.convertChars text.toList = upperTable.convertChars other.toList := by
    unfold CaseVariants at h
    generalize text.toList = cs at h ⊢
    generalize other.toList = ds at h ⊢
    induction h with
    | nil => rfl
    | cons hchar _ ih =>
      exact congrArg₂ (· ++ ·) hchar.convertChar_eq ih
  exact congrArg String.ofList hchars

end ResultMapping.Text

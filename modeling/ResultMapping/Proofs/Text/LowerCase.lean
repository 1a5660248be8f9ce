import ResultMapping.Proofs.Text.UpperCase
import ResultMapping.Text.LowerCase

/-!
# Lower-case texts

Most letters from `a` to `z` are the lower-case form of no characters but themselves and the capital
letter: the Kelvin sign becomes `k`, and a capital `I` with a dot becomes `i` and a dot by itself.
So a text of such letters comes only from texts that differ from it in the case of letters.

* `caseVariant_of_mem_convertChar`: where a plain letter comes from;
* `convertChars_lowerTable_eq_iff`: which texts have a lower-case form of plain letters;
* `LowerForm`: lower-case forms with either form of sigma, of which `LowerForm.eq_iff_of_plain` says
  that they make no difference to texts of plain letters.
-/

namespace ResultMapping.Text

/-! ## Plain letters -/

/-- A letter from `a` to `z`, but not `k`, which is also the lower-case form of the Kelvin sign. -/
def Plain (d : Char) : Prop := 0x61 ≤ d.toNat ∧ d.toNat ≤ 0x7A ∧ d.toNat ≠ 0x6B

instance (d : Char) : Decidable (Plain d) := inferInstanceAs (Decidable (_ ∧ _))

theorem codes_lowerTable_letter : ∀ letter < 26,
    lowerTable.codes (0x41 + letter) = [0x61 + letter] ∧
    lowerTable.codes (0x61 + letter) = [0x61 + letter] := by
  decide +kernel

/-- No run leads to plain letters but that of the capital letters. -/
theorem lowerRuns_apart : ∀ run ∈ lowerRuns,
    run = ⟨0x41, 0x5A, 1, 0x61⟩ ∨ run = ⟨0x212A, 0x212A, 1, 0x6B⟩ ∨ 0x7A < run.image := by
  decide +kernel

variable {c d : Char}

/-- A code point moves with a run, or is the capital `I` with a dot, or stays. -/
theorem codes_lowerTable_cases (code : Nat) :
    (∃ run ∈ lowerRuns, run.covers code = true ∧ lowerTable.codes code = [run.move code]) ∨
    (code = 0x130 ∧ lowerTable.codes code = [0x69, 0x307]) ∨
    lowerTable.codes code = [code] := by
  rw [CaseTable.codes]
  cases hrun : lowerTable.runs.find? (·.covers code) with
  | some run =>
    have hcovers := List.find?_some hrun
    exact .inl ⟨run, List.mem_of_find?_eq_some hrun, hcovers, rfl⟩
  | none =>
    by_cases hdot : code = 0x130
    · subst hdot
      exact .inr (.inl ⟨rfl, rfl⟩)
    · have hnone : lowerTable.expansions.lookup code = none := by
        simp [lowerTable, lowerExpansions, List.lookup_cons, beq_eq_false_iff_ne.2 hdot]
      rw [hnone]
      exact .inr (.inr rfl)

/-- A plain letter comes from itself or its capital, or else from the capital `I` with a dot. -/
theorem caseVariant_of_mem_convertChar (hd : Plain d) (h : d ∈ lowerTable.convertChar c) :
    CaseVariant c d ∨ c.toNat = 0x130 := by
  obtain ⟨image, himage, hchar⟩ := List.mem_map.1 h
  obtain ⟨hfirst, hlast, hk⟩ := hd
  obtain rfl : image = d.toNat := by
    rw [← hchar]
    exact (toNat_ofNat_of_ne_zero (by rw [hchar]; omega)).symm
  rcases codes_lowerTable_cases c.toNat with ⟨run, hrun, hcovers, hcodes⟩ | ⟨hdot, -⟩ | hcodes
  · rw [hcodes, List.mem_singleton] at himage
    simp only [CaseRun.covers, Bool.and_eq_true, decide_eq_true_eq] at hcovers
    have hmove := run.image_le_move c.toNat
    rcases lowerRuns_apart run hrun with rfl | rfl | habove
    · simp only [CaseRun.move] at himage hcovers
      exact .inl (.inr ⟨c.toNat - 0x41, by omega, .inl ⟨by omega, by omega⟩⟩)
    · -- The Kelvin sign becomes `k`, which is not plain.
      simp only [CaseRun.move] at himage hcovers
      omega
    · omega
  · exact .inr hdot
  · rw [hcodes, List.mem_singleton, Char.toNat_inj] at himage
    exact .inl (.inl himage.symm)

theorem convertChar_of_caseVariant (hd : Plain d) (h : CaseVariant c d) :
    lowerTable.convertChar c = [d] := by
  obtain ⟨letter, hletter, hcode⟩ : ∃ letter < 26, d.toNat = 0x61 + letter :=
    ⟨d.toNat - 0x61, by have := hd.2.1; omega, by have := hd.1; omega⟩
  have hchar : Char.ofNat (0x61 + letter) = d := by rw [← hcode, Char.ofNat_toNat]
  obtain ⟨hupper, hlower⟩ := codes_lowerTable_letter letter hletter
  rcases h with rfl | ⟨other, hother, ⟨hc, hd'⟩ | ⟨-, hd'⟩⟩
  · rw [CaseTable.convertChar, hcode, hlower, List.map_singleton, hchar]
  · obtain rfl : other = letter := by omega
    rw [CaseTable.convertChar, hc, hupper, List.map_singleton, hchar]
  · have := hd.1
    omega

/-- A dot that is no letter comes with the `i` of a dotted capital `I`. -/
theorem exists_of_plain_convertChar (h : ∀ d ∈ lowerTable.convertChar c, Plain d) :
    ∃ d, lowerTable.convertChar c = [d] ∧ Plain d ∧ CaseVariant c d := by
  have hne : lowerTable.convertChar c ≠ [] := by
    rw [CaseTable.convertChar, Ne, List.map_eq_nil_iff]
    rcases codes_lowerTable_cases c.toNat with ⟨run, -, -, hcodes⟩ | ⟨-, hcodes⟩ | hcodes <;>
      simp [hcodes]
  obtain ⟨d, hd⟩ := List.exists_mem_of_ne_nil _ hne
  rcases caseVariant_of_mem_convertChar (h d hd) hd with hvariant | hdot
  · exact ⟨d, convertChar_of_caseVariant (h d hd) hvariant, h d hd, hvariant⟩
  · have hconverted : lowerTable.convertChar c = ['i', '\u0307'] := by
      rw [CaseTable.convertChar, hdot]
      decide +kernel
    rw [hconverted] at h
    exact absurd (h '\u0307' (by decide)) (by decide)

/-- The texts whose lower-case form is a text of plain letters. -/
theorem convertChars_lowerTable_eq_iff {cs ds : List Char} (h : ∀ d ∈ ds, Plain d) :
    lowerTable.convertChars cs = ds ↔ List.Forall₂ CaseVariant cs ds := by
  induction cs generalizing ds with
  | nil =>
    rw [List.forall₂_nil_left_iff]
    exact eq_comm
  | cons c cs ih =>
    rw [CaseTable.convertChars_cons]
    constructor
    · rintro rfl
      obtain ⟨d, hchar, -, hvariant⟩ :=
        exists_of_plain_convertChar fun d hd => h d (List.mem_append_left _ hd)
      rw [hchar] at h ⊢
      exact .cons hvariant ((ih fun d hd => h d (List.mem_append_right _ hd)).1 rfl)
    · intro hvariants
      obtain ⟨d, rest, hvariant, hrest, rfl⟩ := List.forall₂_cons_left_iff.1 hvariants
      obtain ⟨hd, hplain⟩ := List.forall_mem_cons.1 h
      rw [convertChar_of_caseVariant hd hvariant, (ih hplain).2 hrest]
      rfl

/-! ## Sigma -/

/-- The second list is a lower-case form of the first: every character is converted by the table,
but a capital sigma may also take the form that it has at the end of a word. -/
inductive LowerForm : List Char → List Char → Prop
  | nil : LowerForm [] []
  | cons (c : Char) {cs es : List Char} (h : LowerForm cs es) :
      LowerForm (c :: cs) (lowerTable.convertChar c ++ es)
  | finalSigma {cs es : List Char} (h : LowerForm cs es) : LowerForm ('Σ' :: cs) ('ς' :: es)

theorem lowerForm_convertChars (cs : List Char) : LowerForm cs (lowerTable.convertChars cs) := by
  induction cs with
  | nil => exact .nil
  | cons c cs ih => exact .cons c ih

namespace LowerForm

variable {cs es ds : List Char}

/-- A form of a text without sigma is what the table makes of it. -/
theorem eq_convertChars (h : LowerForm cs es) (hsigma : 'Σ' ∉ cs) :
    es = lowerTable.convertChars cs := by
  induction h with
  | nil => rfl
  | cons c _ ih => rw [ih fun hmem => hsigma (List.mem_cons_of_mem _ hmem)]; rfl
  | finalSigma _ => exact absurd List.mem_cons_self hsigma

theorem exists_not_plain (h : LowerForm cs es) (hsigma : 'Σ' ∈ cs) : ∃ d ∈ es, ¬Plain d := by
  induction h with
  | nil => cases hsigma
  | cons c _ ih =>
    rcases List.mem_cons.1 hsigma with rfl | hsigma
    · exact ⟨'σ', List.mem_append_left _ (by decide +kernel), by decide⟩
    · obtain ⟨d, hd, hplain⟩ := ih hsigma
      exact ⟨d, List.mem_append_right _ hd, hplain⟩
  | finalSigma _ => exact ⟨'ς', List.mem_cons_self, by decide⟩

/-- For a text of plain letters it makes no difference which form of sigma is taken. -/
theorem eq_iff_of_plain (h : LowerForm cs es) (hds : ∀ d ∈ ds, Plain d) :
    es = ds ↔ lowerTable.convertChars cs = ds := by
  by_cases hsigma : 'Σ' ∈ cs
  · have hne {form : List Char} (hform : LowerForm cs form) : form ≠ ds := by
      rintro rfl
      obtain ⟨d, hd, hplain⟩ := hform.exists_not_plain hsigma
      exact hplain (hds d hd)
    exact iff_of_false (hne h) (hne (lowerForm_convertChars cs))
  · rw [h.eq_convertChars hsigma]

end LowerForm

end ResultMapping.Text

import ResultMapping.Text.Numeral
import ResultMapping.Text.WhiteSpace

/-!
# What numerals denote

A numeral is digits with or without a sign in front. Reading one checks the range after each digit;
as digits only ever lead away from zero, this is to check it once at the end.

* `Numeral.Denotes`: the numerals and their values;
* `Numeral.ascend_eq_ok_iff`, `Numeral.descend_eq_ok_iff`: appending digits within a bound;
* `Numeral.readChars_eq_ok_iff`: a text is read as an integer just when it is a numeral of that
  value and the value is in the range;
* `Numeral.denotes_toString`: the decimal text of an integer is a numeral of its value;
* `Numeral.read_trim_eq_ok_iff`, `Numeral.padded_toString`: the same with white space around.
-/

namespace ResultMapping.Text

namespace IntRange

def Contains (range : IntRange) (n : Int) : Prop := range.least ≤ n ∧ n ≤ range.greatest

instance (range : IntRange) (n : Int) : Decidable (range.Contains n) :=
  inferInstanceAs (Decidable (_ ∧ _))

theorem hasNegatives_iff {range : IntRange} : range.hasNegatives = true ↔ range.least < 0 :=
  decide_eq_true_iff

end IntRange

namespace Numeral

variable {range : IntRange} {c : Char} {cs : List Char} {n : Int}

/-- One or more decimal digits. -/
def IsDigits (cs : List Char) : Prop := cs ≠ [] ∧ ∀ c ∈ cs, c.isDigit = true

instance (cs : List Char) : Decidable (IsDigits cs) :=
  decidable_of_iff (cs ≠ [] ∧ cs.all Char.isDigit = true) (and_congr_right' List.all_eq_true)

/-- The characters are a numeral of the value: digits, after a sign or not. A minus is a sign only
for a range with negative members. -/
inductive Denotes (range : IntRange) : List Char → Int → Prop
  | digits {cs : List Char} (h : IsDigits cs) : Denotes range cs (Nat.ofDigitChars 10 cs 0)
  | plus {cs : List Char} (h : IsDigits cs) : Denotes range ('+' :: cs) (Nat.ofDigitChars 10 cs 0)
  | minus {cs : List Char} (h : IsDigits cs) (hneg : range.least < 0) :
      Denotes range ('-' :: cs) (-Nat.ofDigitChars 10 cs 0)

/-! ## Digits -/

theorem isDigit_iff : c.isDigit = true ↔ '0' ≤ c ∧ c ≤ '9' := by
  rw [Char.isDigit_iff_toNat, Char.le_def, Char.le_def, UInt32.le_iff_toNat_le,
    UInt32.le_iff_toNat_le]
  rfl

theorem digit?_of_isDigit (h : c.isDigit = true) : digit? c = some (c.toNat - '0'.toNat) :=
  if_pos (isDigit_iff.1 h)

theorem digit?_of_not_isDigit (h : ¬c.isDigit = true) : digit? c = none :=
  if_neg (mt isDigit_iff.2 h)

theorem le_ofDigitChars (cs : List Char) (value : Nat) :
    value ≤ Nat.ofDigitChars 10 cs value := by
  induction cs generalizing value with
  | nil => exact Nat.le_refl value
  | cons c rest ih =>
    rw [Nat.ofDigitChars_cons]
    have hrest := ih (10 * value + (c.toNat - '0'.toNat))
    omega

/-- More digits only make a number larger, so the bound may be left to the end. -/
theorem ascend_eq_ok_iff {greatest : Int} {value : Nat} (h : value ≤ greatest) :
    ascend greatest value cs = .ok n ↔
      (∀ c ∈ cs, c.isDigit = true) ∧ n = Nat.ofDigitChars 10 cs value ∧ n ≤ greatest := by
  induction cs generalizing value with
  | nil =>
    rw [ascend, Except.ok.injEq]
    constructor
    · rintro rfl
      exact ⟨nofun, rfl, h⟩
    · exact fun h => h.2.1.symm
  | cons c rest ih =>
    rw [ascend, List.forall_mem_cons, Nat.ofDigitChars_cons]
    by_cases hc : c.isDigit = true
    · rw [digit?_of_isDigit hc]
      simp only [hc, true_and]
      have hnext : (10 * (value : Int) + ((c.toNat - '0'.toNat : Nat) : Int))
          = ((10 * value + (c.toNat - '0'.toNat) : Nat) : Int) := by
        omega
      rw [hnext]
      split
      · rename_i hle
        exact ih hle
      · rename_i hlt
        have hgrows := le_ofDigitChars rest (10 * value + (c.toNat - '0'.toNat))
        simp only [reduceCtorEq, false_iff]
        omega
    · rw [digit?_of_not_isDigit hc]
      simp [hc]

/-- Descending is ascending with all signs changed. -/
theorem descend_eq_ok_iff_ascend {least value : Int} :
    descend least value cs = .ok n ↔ ascend (-least) (-value) cs = .ok (-n) := by
  induction cs generalizing value with
  | nil =>
    simp only [descend, ascend, Except.ok.injEq]
    omega
  | cons c rest ih =>
    rw [descend, ascend]
    cases digit? c with
    | none => simp
    | some d =>
      have hnext : 10 * -value + (d : Int) = -(10 * value - d) := by omega
      have hbound : -(10 * value - d) ≤ -least ↔ least ≤ 10 * value - d := by omega
      simp only [hnext, hbound]
      split
      · exact ih
      · simp

theorem descend_eq_ok_iff {least : Int} (h : least ≤ 0) :
    descend least 0 cs = .ok n ↔
      (∀ c ∈ cs, c.isDigit = true) ∧ n = -(Nat.ofDigitChars 10 cs 0 : Int) ∧ least ≤ n := by
  have hzero : ((0 : Nat) : Int) ≤ -least := by omega
  have hascend : ascend (-least) (-0) cs = .ok (-n) ↔
      (∀ c ∈ cs, c.isDigit = true) ∧ -n = (Nat.ofDigitChars 10 cs 0 : Int) ∧ -n ≤ -least :=
    ascend_eq_ok_iff hzero
  rw [descend_eq_ok_iff_ascend, hascend]
  refine and_congr_right fun _ => ?_
  omega

/-! ## Signs -/

theorem denotes_plus_iff :
    Denotes range ('+' :: cs) n ↔ IsDigits cs ∧ n = Nat.ofDigitChars 10 cs 0 := by
  constructor
  · rintro (h | h)
    · exact absurd (h.2 '+' List.mem_cons_self) (by decide)
    · exact ⟨h, rfl⟩
  · rintro ⟨h, rfl⟩
    exact .plus h

theorem denotes_minus_iff :
    Denotes range ('-' :: cs) n ↔
      range.least < 0 ∧ IsDigits cs ∧ n = -(Nat.ofDigitChars 10 cs 0 : Int) := by
  constructor
  · rintro (h | _ | ⟨h, hneg⟩)
    · exact absurd (h.2 '-' List.mem_cons_self) (by decide)
    · exact ⟨hneg, h, rfl⟩
  · rintro ⟨hneg, h, rfl⟩
    exact .minus h hneg

theorem denotes_iff_of_no_sign (hplus : cs.head? ≠ some '+') (hminus : cs.head? ≠ some '-') :
    Denotes range cs n ↔ IsDigits cs ∧ n = Nat.ofDigitChars 10 cs 0 := by
  constructor
  · rintro (h | h | ⟨h, hneg⟩)
    · exact ⟨h, rfl⟩
    · exact absurd rfl hplus
    · exact absurd rfl hminus
  · rintro ⟨h, rfl⟩
    exact .digits h

/-! ## Reading -/

theorem ascend_eq_ok_iff_contains (hzero : range.Contains 0) (hcs : cs ≠ []) :
    ascend range.greatest 0 cs = .ok n ↔
      (IsDigits cs ∧ n = Nat.ofDigitChars 10 cs 0) ∧ range.Contains n := by
  have hascend : ascend range.greatest 0 cs = .ok n ↔ (∀ c ∈ cs, c.isDigit = true) ∧
      n = (Nat.ofDigitChars 10 cs 0 : Int) ∧ n ≤ range.greatest := ascend_eq_ok_iff hzero.2
  have hleast := hzero.1
  rw [hascend, IsDigits, IntRange.Contains]
  constructor
  · rintro ⟨hdigits, hn, hle⟩
    exact ⟨⟨⟨hcs, hdigits⟩, hn⟩, by omega, hle⟩
  · rintro ⟨⟨⟨-, hdigits⟩, hn⟩, -, hle⟩
    exact ⟨hdigits, hn, hle⟩

theorem descend_eq_ok_iff_contains (hzero : range.Contains 0) (hcs : cs ≠ []) :
    descend range.least 0 cs = .ok n ↔
      (IsDigits cs ∧ n = -(Nat.ofDigitChars 10 cs 0 : Int)) ∧ range.Contains n := by
  have hgreatest := hzero.2
  rw [descend_eq_ok_iff hzero.1, IsDigits, IntRange.Contains]
  constructor
  · rintro ⟨hdigits, hn, hle⟩
    exact ⟨⟨⟨hcs, hdigits⟩, hn⟩, hle, by omega⟩
  · rintro ⟨⟨⟨-, hdigits⟩, hn⟩, hle, -⟩
    exact ⟨hdigits, hn, hle⟩

/-- Exactly the numerals with a value in the range are read, and as that value. -/
theorem readChars_eq_ok_iff (hzero : range.Contains 0) :
    readChars range cs = .ok n ↔ Denotes range cs n ∧ range.Contains n := by
  cases cs with
  | nil =>
    rw [denotes_iff_of_no_sign (by decide) (by decide)]
    simp [readChars, IsDigits]
  | cons c rest =>
    by_cases hplus : c = '+'
    · subst hplus
      rw [readChars, if_pos rfl, denotes_plus_iff]
      cases rest with
      | nil => simp [IsDigits]
      | cons d rest => exact ascend_eq_ok_iff_contains hzero (List.cons_ne_nil d rest)
    · by_cases hminus : c = '-'
      · subst hminus
        rw [readChars, if_neg hplus, if_pos rfl, denotes_minus_iff, ← IntRange.hasNegatives_iff]
        cases rest with
        | nil => simp [IsDigits]
        | cons d rest =>
          cases range.hasNegatives with
          | false => simp
          | true =>
            have hdescend := descend_eq_ok_iff_contains (n := n) hzero (List.cons_ne_nil d rest)
            simpa using hdescend
      · rw [readChars, if_neg hplus, if_neg hminus,
          ascend_eq_ok_iff_contains hzero (List.cons_ne_nil c rest),
          denotes_iff_of_no_sign (by simpa using hplus) (by simpa using hminus)]

/-! ## Decimal texts -/

theorem isDigits_toDigits (value : Nat) : IsDigits (Nat.toDigits 10 value) :=
  ⟨Nat.toDigits_ne_nil, fun _ => Nat.isDigit_of_mem_toDigits (by decide) (by decide)⟩

theorem denotes_toString (h : range.Contains n) : Denotes range (toString n).toList n := by
  cases n with
  | ofNat value =>
    have htext : (toString (Int.ofNat value)).toList = Nat.toDigits 10 value := Nat.toList_repr
    rw [htext]
    have hdenotes : Denotes range _ _ := .digits (isDigits_toDigits value)
    rwa [Nat.ofDigitChars_ten_toDigits] at hdenotes
  | negSucc value =>
    have htext : (toString (Int.negSucc value)).toList = '-' :: Nat.toDigits 10 (value + 1) := by
      have happend : toString (Int.negSucc value) = "-" ++ (value + 1).repr := rfl
      rw [happend, String.toList_append, Nat.toList_repr]
      rfl
    have hneg : range.least < 0 := Int.lt_of_le_of_lt h.1 (Int.negSucc_lt_zero value)
    have hdenotes := Denotes.minus (isDigits_toDigits (value + 1)) hneg
    rw [Nat.ofDigitChars_ten_toDigits] at hdenotes
    rw [htext]
    exact hdenotes

/-! ## White space around numerals -/

/-- The text is a numeral, of a value in the range, with white space around it. -/
def Padded (range : IntRange) (text : String) (n : Int) : Prop :=
  ∃ before numeral after : List Char, Blank before ∧ Blank after ∧
    text.toList = before ++ numeral ++ after ∧ Denotes range numeral n ∧ range.Contains n

theorem isWhiteSpace_of_isDigit (h : c.isDigit = true) : isWhiteSpace c = false := by
  have hbounds : 48 ≤ c.toNat ∧ c.toNat ≤ 57 := Char.isDigit_iff_toNat.1 h
  exact isWhiteSpace_eq_false (by omega) (by omega)

theorem Denotes.isWhiteSpace_eq_false (h : Denotes range cs n) :
    ∀ c ∈ cs, isWhiteSpace c = false := by
  have hdigits {ds : List Char} (hds : IsDigits ds) : ∀ c ∈ ds, isWhiteSpace c = false :=
    fun c hc => isWhiteSpace_of_isDigit (hds.2 c hc)
  cases h with
  | digits h => exact hdigits h
  | plus h => exact List.forall_mem_cons.2 ⟨by decide, hdigits h⟩
  | minus h _ => exact List.forall_mem_cons.2 ⟨by decide, hdigits h⟩

theorem read_trim_eq_ok_iff (hzero : range.Contains 0) {text : String} :
    read range (trim text) = .ok n ↔ Padded range text n := by
  rw [read, trim, String.toList_ofList, readChars_eq_ok_iff hzero]
  constructor
  · rintro ⟨hdenotes, hn⟩
    obtain ⟨before, after, hbefore, hafter, htext⟩ := exists_eq_append_trimChars text.toList
    exact ⟨before, _, after, hbefore, hafter, htext, hdenotes, hn⟩
  · rintro ⟨before, numeral, after, hbefore, hafter, htext, hdenotes, hn⟩
    rw [htext, trimChars_append hbefore hafter hdenotes.isWhiteSpace_eq_false]
    exact ⟨hdenotes, hn⟩

theorem padded_toString (h : range.Contains n) {before after : String}
    (hbefore : Blank before.toList) (hafter : Blank after.toList) :
    Padded range (before ++ toString n ++ after) n :=
  ⟨_, _, _, hbefore, hafter, by rw [String.toList_append, String.toList_append],
    denotes_toString h, h⟩

end Numeral

end ResultMapping.Text

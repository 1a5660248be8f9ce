import ResultMapping.Dictionary.Lemmas
import ResultMapping.Interception.Properties
import ResultMapping.Proofs.Text.Numeral

/-!
# Properties read as integers

A property has an integer value if its text is a numeral within the range, with white space around
it or not; any other text is refused as it stands.

* `Properties.parsed_integer_eq`: reading in terms of the look-up;
* `Properties.parsed_integer_exact`: what is read and what is refused.
-/

namespace ResultMapping

namespace Properties

open Text Text.Numeral

variable {range : IntRange}

theorem parsed_integer_eq (p : Properties) (range : IntRange) (key : String) :
    parsed p (.integer range) key =
      match p.get? key with
      | none => .ok none
      | some raw =>
        match read range (trim raw) with
        | .ok n => .ok (some n)
        | .error fault => .error (.invalidProperty key raw fault.message) := by
  rw [parsed]
  cases p.get? key with
  | none => rfl
  | some raw =>
    simp only [Reading.integer]
    cases read range (trim raw) <;> rfl

theorem parsed_integer_of_padded {p : Properties} {key raw : String} {n : Int}
    (hzero : range.Contains 0) (hkey : p.get? key = some raw) (h : Padded range raw n) :
    parsed p (.integer range) key = .ok (some n) := by
  simp only [parsed_integer_eq, hkey, (read_trim_eq_ok_iff hzero).2 h]

/-- A property has no integer value just when it is missing, and the value that its text is a
numeral of if there is one in the range; else it is refused with its key and its text untrimmed. So
every integer of the range that is written in decimal, with white space at either end, is read. -/
theorem parsed_integer_exact (p : Properties) (key : String)
    (hrange : range ∈ [IntRange.unsigned 64, IntRange.signed 64]) :
    (parsed p (.integer range) key = .ok none ↔ p.get? key = none) ∧
    (∀ raw, p.get? key = some raw →
      (∀ n, parsed p (.integer range) key = .ok (some n) ↔ Padded range raw n) ∧
      ((∀ n, ¬Padded range raw n) → ∃ fault : NumeralFault,
        parsed p (.integer range) key = .error (.invalidProperty key raw fault.message))) ∧
    (∀ n, range.Contains n → ∀ before after : String,
      Blank before.toList → Blank after.toList →
      parsed (p.insert key (before ++ toString n ++ after)) (.integer range) key
        = .ok (some n)) := by
  have hranges : ∀ range ∈ [IntRange.unsigned 64, IntRange.signed 64], range.Contains 0 := by
    decide
  have hzero := hranges range hrange
  refine ⟨?_, fun raw hkey => ⟨fun n => ?_, fun hnone => ?_⟩, fun n hn before after hbefore
    hafter => ?_⟩
  · rw [parsed_integer_eq]
    cases p.get? key with
    | none => simp
    | some raw =>
      simp only [reduceCtorEq, iff_false]
      cases read range (trim raw) <;> simp
  · simp only [parsed_integer_eq, hkey, ← read_trim_eq_ok_iff hzero]
    cases read range (trim raw) <;> simp
  · cases hread : read range (trim raw) with
    | ok n => exact absurd ((read_trim_eq_ok_iff hzero).1 hread) (hnone n)
    | error fault => exact ⟨fault, by simp only [parsed_integer_eq, hkey, hread]⟩
  · refine parsed_integer_of_padded hzero ?_ (padded_toString hn hbefore hafter)
    rw [Dictionary.get?_insert, if_pos rfl]

/-- The limit is as large and the offset as small as they can be; an excess of one is refused with
the white space before it. -/
theorem limits_read_at_the_bounds :
    let p : Properties := .ofList [("limit", "+018446744073709551615\u3000"),
      ("excess", "\t18446744073709551616"), ("offset", " -9223372036854775808")]
    parsed p (.integer (.unsigned 64)) "limit" = .ok (some 18446744073709551615) ∧
    (∃ fault : NumeralFault, parsed p (.integer (.unsigned 64)) "excess"
      = .error (.invalidProperty "excess" "\t18446744073709551616" fault.message)) ∧
    parsed p (.integer (.signed 64)) "offset" = .ok (some (-9223372036854775808)) ∧
    parsed (p.insert "offset" ("\r\n" ++ toString (-5 : Int) ++ "\u00a0")) (.integer (.signed 64))
      "offset" = .ok (some (-5)) := by
  intro p
  have hlimit := parsed_integer_exact p "limit" (by decide : IntRange.unsigned 64 ∈ _)
  have hexcess := parsed_integer_exact p "excess" (by decide : IntRange.unsigned 64 ∈ _)
  have hoffset := parsed_integer_exact p "offset" (by decide : IntRange.signed 64 ∈ _)
  refine ⟨?_, ?_, ?_, ?_⟩
  · exact ((hlimit.2.1 _ rfl).1 _).2 ⟨[], '+' :: "018446744073709551615".toList,
      ['\u3000'], by decide, by decide, by decide, denotes_plus_iff.2 (by decide), by decide⟩
  · refine (hexcess.2.1 _ rfl).2 fun n hn => ?_
    have hread := (read_trim_eq_ok_iff (by decide)).2 hn
    cases hread
  · exact ((hoffset.2.1 _ rfl).1 _).2 ⟨[' '], '-' :: "9223372036854775808".toList, [],
      by decide, by decide, by decide, denotes_minus_iff.2 (by decide), by decide⟩
  · exact hoffset.2.2 (-5) (by decide) "\r\n" "\u00a0" (by decide) (by decide)

end Properties

end ResultMapping

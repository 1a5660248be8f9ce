import ResultMapping.Proofs.Text.LowerCase
import ResultMapping.Settings

/-!
# Reading a choice of automatic mapping

A text is read as a choice just when it is the name of the choice with its letters in either case
and with white space around it or not. Though a text is compared in lower case, nothing else slips
in: the names have no letters that come from characters beyond ASCII.

* `lookup_choices_iff`: choices are found under their names;
* `parse_eq_ok_iff`: what is read as which choice;
* `parse_exactly_names`: this, and what is refused.
-/

namespace ResultMapping.AutoMapping

open Text

/-- The text is the name of the choice, its letters in either case, with white space around it or
not. -/
def Spells (text : String) (choice : AutoMapping) : Prop :=
  ∃ before word after : String, Blank before.toList ∧ Blank after.toList ∧
    text = before ++ word ++ after ∧ CaseVariants word choice.name

theorem plain_of_mem_name (choice : AutoMapping) : ∀ d ∈ choice.name.toList, Plain d := by
  -- Deciding the statement as it stands would take all characters there are.
  have hall : choice.name.toList.all (fun d => decide (Plain d)) = true := by
    cases choice <;> decide
  exact fun d hd => of_decide_eq_true (List.all_eq_true.1 hall d hd)

theorem lookup_choices_iff {text : String} {choice : AutoMapping} :
    choices.lookup text = some choice ↔ text = choice.name := by
  constructor
  · intro h
    obtain ⟨before, after, hsplit, -⟩ := List.lookup_eq_some_iff.1 h
    have hmem : (text, choice) ∈ choices := by simp [hsplit]
    obtain ⟨other, -, heq⟩ := List.mem_map.1 hmem
    cases heq
    rfl
  · rintro rfl
    cases choice <;> rfl

theorem parse_eq_ok_iff_lookup {text : String} {choice : AutoMapping} :
    parse text = .ok choice ↔ choices.lookup (lowerCase (trim text)) = some choice := by
  rw [parse]
  cases choices.lookup (lowerCase (trim text)) <;> simp

theorem parse_eq_error_iff {text : String} :
    parse text = .error (.invalidValue "auto_mapping_behavior" text
      "expected one of none, partial, full") ↔ ∀ choice, parse text ≠ .ok choice := by
  rw [parse]
  cases choices.lookup (lowerCase (trim text)) <;> simp

/-- What is looked up is a name just when the trimmed text is that name but for the case. -/
theorem lookup_lowerCase_iff {text : String} {choice : AutoMapping} :
    choices.lookup (lowerCase text) = some choice ↔ CaseVariants text choice.name := by
  rw [lookup_choices_iff, CaseVariants, ← convertChars_lowerTable_eq_iff (plain_of_mem_name choice),
    lowerCase, CaseTable.convert, ← String.toList_inj, String.toList_ofList]

theorem isWhiteSpace_of_caseVariant {c d : Char} (hd : Plain d) (h : CaseVariant c d) :
    isWhiteSpace c = false := by
  obtain ⟨hfirst, hlast, -⟩ := hd
  rcases h with rfl | ⟨letter, hletter, ⟨hc, -⟩ | ⟨hc, -⟩⟩ <;>
    exact isWhiteSpace_eq_false (by omega) (by omega)

theorem isWhiteSpace_of_caseVariants {word : String} {choice : AutoMapping}
    (h : CaseVariants word choice.name) : ∀ c ∈ word.toList, isWhiteSpace c = false := by
  intro c hc
  obtain ⟨d, hd, hvariant⟩ := h.exists_mem c hc
  exact isWhiteSpace_of_caseVariant (plain_of_mem_name choice d hd) hvariant

theorem parse_eq_ok_iff {text : String} {choice : AutoMapping} :
    parse text = .ok choice ↔ Spells text choice := by
  rw [parse_eq_ok_iff_lookup, lookup_lowerCase_iff]
  constructor
  · intro h
    obtain ⟨before, after, hbefore, hafter, htext⟩ := exists_eq_append_trimChars text.toList
    refine ⟨.ofList before, trim text, .ofList after, by simpa, by simpa, ?_, h⟩
    rw [← String.toList_inj, htext]
    simp [trim]
  · rintro ⟨before, word, after, hbefore, hafter, rfl, hword⟩
    have htrim : trim (before ++ word ++ after) = word := by
      rw [trim, String.toList_append, String.toList_append, trimChars_append hbefore hafter
        (isWhiteSpace_of_caseVariants hword), String.ofList_toList]
    rwa [htrim]

theorem parse_name (choice : AutoMapping) : parse choice.name = .ok choice := by
  refine parse_eq_ok_iff.2 ⟨"", choice.name, "", by decide, by decide, by simp, ?_⟩
  cases choice <;> decide

/-- Names are looked up with the same result whichever form of sigma a lower-case text has. -/
theorem lookup_lowerForm {text form : String} (h : LowerForm text.toList form.toList) :
    choices.lookup form = choices.lookup (lowerCase text) := by
  refine Option.ext fun choice => ?_
  rw [lookup_choices_iff, lookup_choices_iff, ← String.toList_inj,
    h.eq_iff_of_plain (plain_of_mem_name choice), ← String.toList_inj, lowerCase, CaseTable.convert,
    String.toList_ofList]

/-- A text is read as a choice just when it spells the choice's name, in whatever case and padded
with whatever white space; otherwise it is refused as it stands. So no text is read that has any
character besides white space and letters of the name, and it makes no difference which form a sigma
takes in lower case. -/
theorem parse_exactly_names (text : String) :
    (∀ choice, parse text = .ok choice ↔ Spells text choice) ∧
    (parse text = .error (.invalidValue "auto_mapping_behavior" text
      "expected one of none, partial, full") ↔ ∀ choice, ¬Spells text choice) ∧
    (∀ choice, parse text = .ok choice → ∀ c ∈ text.toList,
      isWhiteSpace c = true ∨ ∃ d ∈ choice.name.toList, CaseVariant c d) ∧
    (∀ form : String, LowerForm (trim text).toList form.toList →
      choices.lookup form = choices.lookup (lowerCase (trim text))) ∧
    (∀ (choice : AutoMapping) (before word after : String), Blank before.toList →
      Blank after.toList → CaseVariants word choice.name →
      parse (before ++ word ++ after) = .ok choice) := by
  refine ⟨fun _ => parse_eq_ok_iff, ?_, fun choice h c hc => ?_, fun _ => lookup_lowerForm,
    fun choice before word after hbefore hafter hword =>
      parse_eq_ok_iff.2 ⟨before, word, after, hbefore, hafter, rfl, hword⟩⟩
  · rw [parse_eq_error_iff]
    exact forall_congr' fun _ => not_congr parse_eq_ok_iff
  · obtain ⟨before, word, after, hbefore, hafter, rfl, hword⟩ := parse_eq_ok_iff.1 h
    rw [String.toList_append, String.toList_append, List.mem_append, List.mem_append] at hc
    rcases hc with (hc | hc) | hc
    · exact .inl (hbefore c hc)
    · exact .inr (hword.exists_mem c hc)
    · exact .inl (hafter c hc)

/-- A padded name in mixed case is read, and every character of it is accounted for; a word that
ends in sigma is looked up to no effect in either form. -/
theorem full_read_in_mixed_case :
    parse ("\u00a0" ++ "fULL" ++ "\n") = .ok .always ∧
    ('U' ∈ ("\u00a0" ++ "fULL" ++ "\n").toList ∧
      (isWhiteSpace 'U' = true ∨ ∃ d ∈ always.name.toList, CaseVariant 'U' d)) ∧
    LowerForm (trim "ΟΔΟΣ ").toList "οδος".toList ∧
    choices.lookup "οδος" = choices.lookup (lowerCase (trim "ΟΔΟΣ ")) := by
  obtain ⟨-, -, hchars, -, hspelled⟩ := parse_exactly_names ("\u00a0" ++ "fULL" ++ "\n")
  obtain ⟨-, -, -, hforms, -⟩ := parse_exactly_names "ΟΔΟΣ "
  have hread : parse ("\u00a0" ++ "fULL" ++ "\n") = .ok .always :=
    hspelled .always _ _ _ (by decide) (by decide) (by decide)
  have hmem : 'U' ∈ ("\u00a0" ++ "fULL" ++ "\n").toList := by decide
  have hform : LowerForm (trim "ΟΔΟΣ ").toList "οδος".toList := by
    have htrim : (trim "ΟΔΟΣ ").toList = ['Ο', 'Δ', 'Ο', 'Σ'] := by decide +kernel
    have hlower : "οδος".toList = lowerTable.convertChars ['Ο', 'Δ', 'Ο'] ++ ['ς'] := by
      decide +kernel
    rw [htrim, hlower]
    exact .cons 'Ο' (.cons 'Δ' (.cons 'Ο' (.finalSigma .nil)))
  exact ⟨hread, ⟨hmem, hchars .always hread 'U' hmem⟩, hform, hforms _ hform⟩

end ResultMapping.AutoMapping

/-!
# White space

The 25 characters with the Unicode property `White_Space`, and trimming by them. A text is what is
left of it with white space at both ends (`exists_eq_append_trimChars`), and a text without white
space is what is left of it when some is put at its ends (`trimChars_append`).
-/

namespace ResultMapping.Text

/-- The characters with the property, as ranges of code points with both ends included. -/
def whiteSpaceRanges : List (Nat × Nat) := [
  (0x9, 0xD), (0x20, 0x20), (0x85, 0x85), (0xA0, 0xA0), (0x1680, 0x1680), (0x2000, 0x200A),
  (0x2028, 0x2029), (0x202F, 0x202F), (0x205F, 0x205F), (0x3000, 0x3000)]

def isWhiteSpace (c : Char) : Bool :=
  whiteSpaceRanges.any fun (first, last) => first ≤ c.toNat && c.toNat ≤ last

/-- There is no white space among the visible characters of ASCII. -/
theorem isWhiteSpace_eq_false {c : Char} (hfirst : 0x20 < c.toNat) (hlast : c.toNat < 0x7F) :
    isWhiteSpace c = false := by
  refine Bool.eq_false_iff.2 fun hspace => ?_
  obtain ⟨⟨first, last⟩, hmem, hin⟩ := List.any_eq_true.1 hspace
  have happart : ∀ range ∈ whiteSpaceRanges, range.2 ≤ 0x20 ∨ 0x7F ≤ range.1 := by decide
  have hrange := happart _ hmem
  simp only [Bool.and_eq_true, decide_eq_true_eq] at hin
  omega

def trimStartChars (cs : List Char) : List Char :=
  cs.dropWhile isWhiteSpace

/-- The characters without white space at either end. -/
def trimChars (cs : List Char) : List Char :=
  (trimStartChars (trimStartChars cs).reverse).reverse

/-- All characters are white space. -/
def Blank (cs : List Char) : Prop := ∀ c ∈ cs, isWhiteSpace c = true

instance (cs : List Char) : Decidable (Blank cs) :=
  decidable_of_iff (cs.all isWhiteSpace = true) List.all_eq_true

theorem exists_eq_append_trimStartChars (cs : List Char) :
    ∃ before, Blank before ∧ cs = before ++ trimStartChars cs :=
  ⟨cs.takeWhile isWhiteSpace, List.all_eq_true.1 List.all_takeWhile,
    List.takeWhile_append_dropWhile.symm⟩

theorem exists_eq_append_trimChars (cs : List Char) :
    ∃ before after, Blank before ∧ Blank after ∧ cs = before ++ trimChars cs ++ after := by
  obtain ⟨before, hbefore, hstart⟩ := exists_eq_append_trimStartChars cs
  obtain ⟨after, hafter, hend⟩ := exists_eq_append_trimStartChars (trimStartChars cs).reverse
  refine ⟨before, after.reverse, hbefore, fun c hc => hafter c (List.mem_reverse.1 hc), ?_⟩
  calc cs
    _ = before ++ trimStartChars cs := hstart
    _ = before ++ (after ++ trimStartChars (trimStartChars cs).reverse).reverse := by
      rw [← hend, List.reverse_reverse]
    _ = before ++ trimChars cs ++ after.reverse := by
      rw [List.reverse_append, ← List.append_assoc, trimChars]

theorem trimStartChars_append {before cs : List Char} (hbefore : Blank before)
    (hcs : ∀ c ∈ cs.head?, isWhiteSpace c = false) : trimStartChars (before ++ cs) = cs := by
  rw [trimStartChars, List.dropWhile_append_of_pos hbefore]
  cases cs with
  | nil => rfl
  | cons c rest => rw [List.dropWhile_cons_of_neg (by simp [hcs c rfl])]

theorem trimChars_append {before cs after : List Char} (hbefore : Blank before)
    (hafter : Blank after) (hcs : ∀ c ∈ cs, isWhiteSpace c = false) :
    trimChars (before ++ cs ++ after) = cs := by
  have hafter' : Blank after.reverse := fun c hc => hafter c (List.mem_reverse.1 hc)
  have hend : trimStartChars (after.reverse ++ cs.reverse) = cs.reverse :=
    trimStartChars_append hafter' fun c hc =>
      hcs c (List.mem_reverse.1 (List.mem_of_mem_head? hc))
  cases cs with
  | nil =>
    have hblank : Blank (before ++ after) := fun c hc =>
      (List.mem_append.1 hc).elim (hbefore c) (hafter c)
    have hstart : trimStartChars (before ++ after ++ []) = [] :=
      trimStartChars_append hblank nofun
    rw [List.append_nil] at hstart ⊢
    rw [trimChars, hstart]
    rfl
  | cons c rest =>
    rw [List.append_assoc, trimChars, trimStartChars_append hbefore, List.reverse_append, hend,
      List.reverse_reverse]
    rintro _ ⟨⟩
    exact hcs c List.mem_cons_self

/-- The text without white space at either end. -/
def trim (text : String) : String :=
  .ofList (trimChars text.toList)

end ResultMapping.Text

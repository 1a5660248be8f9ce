/-!
# Separated text

Cutting a text at a separator. A text has one part more than it has separators
(`length_splitChars`), so the empty text has one part, which is empty. No part has a separator in it
(`not_mem_of_mem_splitChars`), and a text without one is its only part
(`splitChars_of_not_mem`).
-/

namespace ResultMapping.Text

/-- The parts between the separators. -/
def splitChars (separator : Char) : List Char → List (List Char)
  | [] => [[]]
  | c :: rest =>
    if c = separator then [] :: splitChars separator rest
    else
      match splitChars separator rest with
      | [] => [[c]]
      | part :: parts => (c :: part) :: parts

theorem length_splitChars (separator : Char) (cs : List Char) :
    (splitChars separator cs).length = cs.count separator + 1 := by
  induction cs with
  | nil => rfl
  | cons c rest ih =>
    rw [splitChars]
    split
    · rename_i h
      simp [h, ih]
    · rename_i h
      rw [List.count_cons_of_ne h, ← ih]
      cases hparts : splitChars separator rest with
      | nil => simp [hparts] at ih
      | cons part parts => rfl

theorem not_mem_of_mem_splitChars {separator : Char} {cs part : List Char}
    (h : part ∈ splitChars separator cs) : separator ∉ part := by
  induction cs generalizing part with
  | nil =>
    rw [List.mem_singleton.1 h]
    exact List.not_mem_nil
  | cons c rest ih =>
    rw [splitChars] at h
    split at h
    · rcases List.mem_cons.1 h with rfl | h
      · exact List.not_mem_nil
      · exact ih h
    · rename_i hc
      cases hparts : splitChars separator rest with
      | nil =>
        rw [hparts] at h
        rw [List.mem_singleton.1 h]
        simp [Ne.symm hc]
      | cons first parts =>
        rw [hparts] at h ih
        rcases List.mem_cons.1 h with rfl | h
        · have hfirst := ih List.mem_cons_self
          simp [Ne.symm hc, hfirst]
        · exact ih (List.mem_cons_of_mem _ h)

theorem splitChars_of_not_mem {separator : Char} {cs : List Char} (h : separator ∉ cs) :
    splitChars separator cs = [cs] := by
  induction cs with
  | nil => rfl
  | cons c rest ih =>
    obtain ⟨hc, hrest⟩ := not_or.1 (mt List.mem_cons.2 h)
    rw [splitChars, if_neg (Ne.symm hc), ih hrest]

/-- The parts of a text between commas. -/
def splitCommas (text : String) : List String := (splitChars ',' text.toList).map .ofList

theorem comma_not_mem_of_mem_splitCommas {text part : String} (h : part ∈ splitCommas text) :
    ',' ∉ part.toList := by
  obtain ⟨cs, hcs, rfl⟩ := List.mem_map.1 h
  rw [String.toList_ofList]
  exact not_mem_of_mem_splitChars hcs

theorem splitCommas_of_comma_not_mem {text : String} (h : ',' ∉ text.toList) :
    splitCommas text = [text] := by
  rw [splitCommas, splitChars_of_not_mem h, List.map_singleton, String.ofList_toList]

end ResultMapping.Text

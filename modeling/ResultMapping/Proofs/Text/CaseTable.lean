import ResultMapping.Text.CaseTable

/-!
# What comes out of a case table

A case table converts characters one by one. Converting a text twice is converting it once as long
as the table leaves alone whatever comes out of it. This need not be tried character by character:
the images of a run make a run again, so it is enough to compare runs with one another.

* `CaseTable.exists_of_mem_codes`: where an image comes from;
* `CaseTable.Settled`: the table changes none of its images;
* `CaseTable.Settled.convert_convert`: converting twice is converting once;
* `CaseTable.Settled.count_convertChars`: a character that stands apart from all changes occurs in
  the converted text as often as in the text.
-/

namespace ResultMapping.Text

theorem toNat_ofNat_of_isValidChar {code : Nat} (h : code.isValidChar) :
    (Char.ofNat code).toNat = code := by
  have hchar : Char.ofNat code = Char.ofNatAux code h := dif_pos h
  rw [hchar]
  rfl

/-- Numbers that are no characters stand for the character zero. -/
theorem toNat_ofNat_of_ne_zero {code : Nat} (h : (Char.ofNat code).toNat ≠ 0) :
    (Char.ofNat code).toNat = code := by
  by_cases hvalid : code.isValidChar
  · exact toNat_ofNat_of_isValidChar hvalid
  · rw [Char.ofNat, dif_neg hvalid] at h
    exact absurd rfl h

/-! ## Runs -/

namespace CaseRun

variable {run other : CaseRun} {code : Nat}

/-- The run of one code point, which stays where it is. -/
def single (code : Nat) : CaseRun := ⟨code, code, 1, code⟩

theorem covers_single : (single code).covers code = true := by
  simp [covers, single]

theorem move_single : (single code).move code = code := by
  simp [move, single]

/-- The image of the last code point. -/
def lastImage (run : CaseRun) : Nat := run.move run.last

theorem image_le_move (run : CaseRun) (code : Nat) : run.image ≤ run.move code :=
  Nat.le_add_left ..

theorem move_le_lastImage (h : run.covers code = true) : run.move code ≤ run.lastImage := by
  simp only [covers, Bool.and_eq_true, decide_eq_true_eq] at h
  simp only [lastImage, move]
  omega

/-- Whether all code points that the run covers have the parity of the first. -/
def keepsParity (run : CaseRun) : Bool := Nat.beq run.first run.last || Nat.beq (run.stride % 2) 0

theorem mod_two_of_covers (hparity : run.keepsParity = true) (h : run.covers code = true) :
    (code - run.first) % 2 = 0 := by
  simp only [keepsParity, Bool.or_eq_true, Nat.beq_eq] at hparity
  simp only [covers, Bool.and_eq_true, decide_eq_true_eq, beq_iff_eq] at h
  rcases hparity with hsingle | heven
  · omega
  · exact Nat.mod_eq_zero_of_dvd
      (Nat.dvd_trans (Nat.dvd_of_mod_eq_zero heven) (Nat.dvd_of_mod_eq_zero h.2))

/-- Whether the other run covers no image of this one, told from the ends of the runs: they lie
apart, or go by different parities. -/
def clearOf (run other : CaseRun) : Bool :=
  Nat.blt run.lastImage other.first || Nat.blt other.last run.image
    || (run.keepsParity && other.keepsParity && Nat.beq ((run.image + other.first) % 2) 1)

theorem covers_move_eq_false (hclear : run.clearOf other = true) (h : run.covers code = true) :
    other.covers (run.move code) = false := by
  refine Bool.eq_false_iff.2 fun hother => ?_
  have himage := run.image_le_move code
  have hlast := move_le_lastImage h
  have hbounds : other.first ≤ run.move code ∧ run.move code ≤ other.last := by
    simp only [covers, Bool.and_eq_true, decide_eq_true_eq] at hother
    exact hother.1
  simp only [clearOf, Bool.or_eq_true, Bool.and_eq_true, Nat.blt_eq, Nat.beq_eq] at hclear
  rcases hclear with (hbelow | habove) | ⟨⟨hparity, hparity'⟩, hends⟩
  · omega
  · omega
  · have hfrom := mod_two_of_covers hparity h
    have hto := mod_two_of_covers hparity' hother
    have hmove : run.move code = code - run.first + run.image := rfl
    omega

/-- Whether all images of the run are characters. -/
def inRange (run : CaseRun) : Bool :=
  Nat.blt run.lastImage 0xD800 || (Nat.blt 0xDFFF run.image && Nat.blt run.lastImage 0x110000)

theorem isValidChar_move (hrange : run.inRange = true) (h : run.covers code = true) :
    (run.move code).isValidChar := by
  have himage := run.image_le_move code
  have hlast := move_le_lastImage h
  simp only [inRange, Bool.or_eq_true, Bool.and_eq_true, Nat.blt_eq] at hrange
  simp only [Nat.isValidChar]
  omega

end CaseRun

/-! ## Images -/

namespace CaseTable

variable {table : CaseTable} {code image : Nat} {c : Char}

/-- Runs that cover every code point that the table changes. -/
def changing (table : CaseTable) : List CaseRun :=
  table.runs ++ table.expansions.map fun x => .single x.1

/-- Runs with every image that is not the code point itself. -/
def producing (table : CaseTable) : List CaseRun :=
  table.runs ++ (table.expansions.flatMap (·.2)).map .single

theorem codes_eq_self (h : ∀ run ∈ table.changing, run.covers code = false) :
    table.codes code = [code] := by
  have hruns : table.runs.find? (·.covers code) = none :=
    List.find?_eq_none.2 fun run hrun => by simp [h run (List.mem_append_left _ hrun)]
  have hexpansions : table.expansions.lookup code = none := by
    refine List.lookup_eq_none_iff.2 fun x hx => bne_iff_ne.2 fun heq => ?_
    have hcovers := h _ (List.mem_append_right _ (List.mem_map_of_mem hx))
    rw [← heq, CaseRun.covers_single] at hcovers
    exact Bool.noConfusion hcovers
  simp [codes, hruns, hexpansions]

/-- A code point becomes what a run makes of one it covers, or stays as it is. -/
theorem exists_of_mem_codes (h : image ∈ table.codes code) :
    (∃ run ∈ table.producing, ∃ covered, run.covers covered = true ∧ image = run.move covered) ∨
    (image = code ∧ table.codes code = [code]) := by
  rw [codes] at h ⊢
  cases hrun : table.runs.find? (·.covers code) with
  | some run =>
    rw [hrun] at h
    have hmem : run ∈ table.producing :=
      List.mem_append_left _ (List.mem_of_find?_eq_some hrun)
    have hcovers := List.find?_some hrun
    exact .inl ⟨run, hmem, code, hcovers, List.mem_singleton.1 h⟩
  | none =>
    rw [hrun] at h
    cases hexpansion : table.expansions.lookup code with
    | some images =>
      obtain ⟨before, after, hsplit, -⟩ := List.lookup_eq_some_iff.1 hexpansion
      have hmem : (code, images) ∈ table.expansions := by simp [hsplit]
      have hproducing : CaseRun.single image ∈ table.producing := by
        rw [hexpansion] at h
        exact List.mem_append_right _ (List.mem_map_of_mem (List.mem_flatMap_of_mem hmem h))
      exact .inl ⟨_, hproducing, image, CaseRun.covers_single, CaseRun.move_single.symm⟩
    | none =>
      rw [hexpansion] at h
      exact .inr ⟨List.mem_singleton.1 h, rfl⟩

theorem convertChars_eq_self {cs : List Char} (h : ∀ c ∈ cs, table.convertChar c = [c]) :
    table.convertChars cs = cs := by
  induction cs with
  | nil => rfl
  | cons c rest ih =>
    obtain ⟨hc, hrest⟩ := List.forall_mem_cons.1 h
    rw [convertChars_cons, hc, ih hrest, List.singleton_append]

/-- All images are characters that the table leaves alone. -/
structure Settled (table : CaseTable) : Prop where
  clear : (table.producing.all fun run => table.changing.all run.clearOf) = true
  inRange : table.producing.all CaseRun.inRange = true

namespace Settled

theorem codes_image (h : table.Settled) (himage : image ∈ table.codes code) :
    table.codes image = [image] := by
  rcases exists_of_mem_codes himage with ⟨run, hrun, covered, hcovers, rfl⟩ | ⟨rfl, hself⟩
  · have hclear := List.all_eq_true.1 (List.all_eq_true.1 h.clear run hrun)
    exact codes_eq_self fun other hother =>
      CaseRun.covers_move_eq_false (hclear other hother) hcovers
  · exact hself

theorem toNat_ofNat_image (h : table.Settled) (himage : image ∈ table.codes c.toNat) :
    (Char.ofNat image).toNat = image := by
  refine toNat_ofNat_of_isValidChar ?_
  rcases exists_of_mem_codes himage with ⟨run, hrun, covered, hcovers, rfl⟩ | ⟨rfl, -⟩
  · exact CaseRun.isValidChar_move (List.all_eq_true.1 h.inRange run hrun) hcovers
  · exact c.valid

/-! ## Converting twice -/

theorem convertChar_image (h : table.Settled) {d : Char} (hd : d ∈ table.convertChar c) :
    table.convertChar d = [d] := by
  obtain ⟨image, himage, rfl⟩ := List.mem_map.1 hd
  rw [convertChar, h.toNat_ofNat_image himage, h.codes_image himage, List.map_singleton]

/-- Converting twice is converting once. -/
theorem convert_convert (h : table.Settled) (text : String) :
    table.convert (table.convert text) = table.convert text := by
  have hself : table.convertChars (table.convertChars text.toList)
      = table.convertChars text.toList := by
    refine convertChars_eq_self fun d hd => ?_
    obtain ⟨c, -, hd⟩ := List.mem_flatMap.1 hd
    exact h.convertChar_image hd
  rw [convert, convert, String.toList_ofList, hself]

/-! ## Counting characters -/

/-- A character that no run changes or leads to comes out of itself alone. -/
theorem count_convertChar (h : table.Settled)
    (hchanging : ∀ run ∈ table.changing, run.covers c.toNat = false)
    (hproducing : ∀ run ∈ table.producing, c.toNat < run.image ∨ run.lastImage < c.toNat)
    (d : Char) : (table.convertChar d).count c = [d].count c := by
  by_cases hd : d = c
  · subst hd
    rw [convertChar, codes_eq_self hchanging, List.map_singleton, Char.ofNat_toNat]
  · rw [List.count_cons_of_ne hd, List.count_nil, List.count_eq_zero]
    intro hc
    obtain ⟨image, himage, hchar⟩ := List.mem_map.1 hc
    have hcode : image = c.toNat := by
      rw [← hchar, h.toNat_ofNat_image himage]
    rcases exists_of_mem_codes himage with ⟨run, hrun, covered, hcovers, hmove⟩ | ⟨hself, -⟩
    · have hfirst := run.image_le_move covered
      have hlast := CaseRun.move_le_lastImage hcovers
      rcases hproducing run hrun with hbelow | habove <;> omega
    · exact hd (by rw [← Char.ofNat_toNat d, ← hself, hchar])

theorem count_convertChars (h : table.Settled)
    (hchanging : ∀ run ∈ table.changing, run.covers c.toNat = false)
    (hproducing : ∀ run ∈ table.producing, c.toNat < run.image ∨ run.lastImage < c.toNat)
    (cs : List Char) : (table.convertChars cs).count c = cs.count c := by
  induction cs with
  | nil => rfl
  | cons d rest ih =>
    calc (table.convertChars (d :: rest)).count c
      _ = (table.convertChar d ++ table.convertChars rest).count c := by rw [convertChars_cons]
      _ = [d].count c + rest.count c := by
        rw [List.count_append, h.count_convertChar hchanging hproducing d, ih]
      _ = (d :: rest).count c := by rw [← List.count_append, List.singleton_append]

end Settled

end CaseTable

end ResultMapping.Text

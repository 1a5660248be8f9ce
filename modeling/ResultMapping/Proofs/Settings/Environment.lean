import ResultMapping.Proofs.Settings.AutoMapping
import ResultMapping.Proofs.Text.Numeral

/-!
# Settings from the environment

Each setting is read from its own variable, and where that has nothing to read the default stays.
The two readers differ: a choice may have white space around it, but a number may not, and a number
that does not fit in 64 bits is read no more than other text.

* `Variable.Names`, `Variable.Asks`: the choice and the number that a variable asks for;
* `Variable.getD_bind_text?_eq_iff`: what any reader with a default makes of a variable;
* `Settings.autoMapping_ofEnvironment_iff`, `Settings.maxInterceptors_ofEnvironment_iff`: the two
  settings;
* `Settings.ofEnvironment_name_toString`: settings that are written to the variables come back;
* `Settings.ofEnvironment_exact`: all of this, and what is refused as invalid.
-/

namespace ResultMapping

open Text

theorem toOption_eq_some_iff {ε α : Type} {result : Except ε α} {value : α} :
    result.toOption = some value ↔ result = .ok value := by
  cases result <;> simp [Except.toOption]

/-! ## Numbers of 64 bits -/

namespace Text.Numeral

theorem contains_toNat (n : UInt64) : (IntRange.unsigned 64).Contains n.toNat := by
  have hgreatest : (n.toNat : Int) ≤ UInt64.size - 1 :=
    Int.le_sub_one_of_lt (Int.ofNat_lt.2 n.toNat_lt_size)
  exact ⟨Int.natCast_nonneg _, hgreatest⟩

/-- No number of the range is cut down to 64 bits. -/
theorem toNat_ofNat_of_contains {value : Int} (h : (IntRange.unsigned 64).Contains value) :
    ((UInt64.ofNat value.toNat).toNat : Int) = value := by
  have hleast : 0 ≤ value := h.1
  have hgreatest : value ≤ UInt64.size - 1 := h.2
  have hlt : value.toNat < UInt64.size := by omega
  rw [UInt64.toNat_ofNat_of_lt' hlt, Int.toNat_of_nonneg hleast]

theorem read_map_ofNat_eq_some_iff {text : String} {n : UInt64} :
    ((read (.unsigned 64) text).toOption.map fun value => UInt64.ofNat value.toNat) = some n ↔
      Denotes (.unsigned 64) text.toList n.toNat := by
  have hzero : (IntRange.unsigned 64).Contains 0 := by decide
  simp only [Option.map_eq_some_iff, toOption_eq_some_iff, read, readChars_eq_ok_iff hzero]
  constructor
  · rintro ⟨value, ⟨hdenotes, hcontains⟩, rfl⟩
    rwa [toNat_ofNat_of_contains hcontains]
  · intro h
    exact ⟨n.toNat, ⟨h, contains_toNat n⟩, by simp⟩

end Text.Numeral

/-! ## Variables -/

namespace Variable

theorem text?_eq_some_iff {v : Variable} {value : String} :
    v.text? = some value ↔ v = .text value := by
  cases v <;> simp [text?]

theorem ofBytes_toUTF8 (value : String) : ofBytes value.toUTF8 = .text value := by
  have hvalid : value.toUTF8.IsValidUTF8 := value.isValidUTF8
  rw [ofBytes, String.fromUTF8?, dif_pos hvalid]
  rfl

theorem ofBytes_eq_notText {bytes : ByteArray} (h : ∀ value : String, value.toUTF8 ≠ bytes) :
    ofBytes bytes = .notText := by
  have hinvalid : ¬bytes.IsValidUTF8 := fun hvalid => h (.fromUTF8 bytes hvalid) rfl
  rw [ofBytes, String.fromUTF8?, dif_neg hinvalid]

theorem getD_bind_text?_eq_iff {α : Type} {reader : String → Option α} {fallback value : α}
    {v : Variable} :
    (v.text?.bind reader).getD fallback = value ↔
      (∃ text, v = .text text ∧ reader text = some value) ∨
      (value = fallback ∧ ∀ other, ¬∃ text, v = .text text ∧ reader text = some other) := by
  have hread {other : α} : v.text?.bind reader = some other ↔
      ∃ text, v = .text text ∧ reader text = some other := by
    simp only [Option.bind_eq_some_iff, text?_eq_some_iff]
  simp only [← hread]
  cases v.text?.bind reader with
  | none => simp [eq_comm]
  | some found => simp

/-- The variable's text is a name of the choice. -/
def Names (v : Variable) (choice : AutoMapping) : Prop :=
  ∃ text, v = .text text ∧ AutoMapping.parse text = .ok choice

theorem names_name (choice : AutoMapping) : (text choice.name).Names choice :=
  ⟨_, rfl, choice.parse_name⟩

/-- The variable's text is a numeral of the number. -/
def Asks (v : Variable) (n : UInt64) : Prop :=
  ∃ text, v = .text text ∧ Numeral.Denotes (.unsigned 64) text.toList n.toNat

theorem asks_toString (n : UInt64) : (text (toString n)).Asks n := by
  have htext : toString n = toString (n.toNat : Int) := rfl
  rw [htext]
  exact ⟨_, rfl, Numeral.denotes_toString (Numeral.contains_toNat n)⟩

end Variable

/-! ## Settings -/

namespace Settings

variable {autoMapping maxInterceptors : Variable}

theorem autoMapping_ofEnvironment_iff {choice : AutoMapping} :
    (ofEnvironment autoMapping maxInterceptors).autoMapping = choice ↔
      autoMapping.Names choice ∨ (choice = .flatOnly ∧ ∀ other, ¬autoMapping.Names other) := by
  simp only [ofEnvironment, Variable.getD_bind_text?_eq_iff, toOption_eq_some_iff, Variable.Names]

theorem maxInterceptors_ofEnvironment_iff {n : UInt64} :
    (ofEnvironment autoMapping maxInterceptors).maxInterceptors = n ↔
      maxInterceptors.Asks n ∨ (n = 64 ∧ ∀ other, ¬maxInterceptors.Asks other) := by
  simp only [ofEnvironment, Option.map_bind, Function.comp_def, Variable.getD_bind_text?_eq_iff,
    Numeral.read_map_ofNat_eq_some_iff, Variable.Asks]

theorem validate_eq_error_iff {s : Settings} {e : SettingsError} :
    s.validate = .error e ↔ s.maxInterceptors = 0 ∧
      e = .invalidValue "max_interceptors" "0" "max_interceptors must be greater than 0" := by
  rw [validate]
  split
  · rename_i hzero
    rw [hzero, Except.error.injEq, eq_comm]
    exact (and_iff_right rfl).symm
  · rename_i hzero
    simp [hzero]

theorem ofEnvironment_name_toString (s : Settings) :
    ofEnvironment (.text s.autoMapping.name) (.text (toString s.maxInterceptors)) = s := by
  have hchoice := Variable.names_name s.autoMapping
  have hlimit := Variable.asks_toString s.maxInterceptors
  exact Settings.ext (autoMapping_ofEnvironment_iff.2 (.inl hchoice))
    (maxInterceptors_ofEnvironment_iff.2 (.inl hlimit))

/-- Each setting is what its own variable asks for, or the default if that asks for nothing; in
particular a variable of bytes that are no text counts as unset. So any settings survive being
written to the variables, and settings are refused just when a limit of zero was asked for. -/
theorem ofEnvironment_exact (autoMapping maxInterceptors : Variable) :
    (∀ other, (ofEnvironment autoMapping other).autoMapping =
      (ofEnvironment autoMapping maxInterceptors).autoMapping) ∧
    (∀ other, (ofEnvironment other maxInterceptors).maxInterceptors =
      (ofEnvironment autoMapping maxInterceptors).maxInterceptors) ∧
    (∀ n, (ofEnvironment autoMapping maxInterceptors).maxInterceptors = n ↔
      maxInterceptors.Asks n ∨ (n = 64 ∧ ∀ other, ¬maxInterceptors.Asks other)) ∧
    (∀ choice, (ofEnvironment autoMapping maxInterceptors).autoMapping = choice ↔
      autoMapping.Names choice ∨ (choice = .flatOnly ∧ ∀ other, ¬autoMapping.Names other)) ∧
    (∀ value : String, .ofBytes value.toUTF8 = Variable.text value) ∧
    (∀ bytes, (∀ value : String, value.toUTF8 ≠ bytes) →
      ofEnvironment (.ofBytes bytes) maxInterceptors = ofEnvironment .unset maxInterceptors ∧
      ofEnvironment autoMapping (.ofBytes bytes) = ofEnvironment autoMapping .unset) ∧
    (∀ s : Settings,
      ofEnvironment (.text s.autoMapping.name) (.text (toString s.maxInterceptors)) = s) ∧
    (∀ e, (ofEnvironment autoMapping maxInterceptors).validate = .error e ↔
      maxInterceptors.Asks 0 ∧
      e = .invalidValue "max_interceptors" "0" "max_interceptors must be greater than 0") := by
  refine ⟨fun _ => rfl, fun _ => rfl, fun _ => maxInterceptors_ofEnvironment_iff,
    fun _ => autoMapping_ofEnvironment_iff, Variable.ofBytes_toUTF8, fun bytes hbytes => ?_,
    ofEnvironment_name_toString, fun e => ?_⟩
  · rw [Variable.ofBytes_eq_notText hbytes]
    exact ⟨rfl, rfl⟩
  · -- A limit of zero is not the default, so it can only have been asked for.
    have hdefault : (0 : UInt64) ≠ 64 := by decide
    rw [validate_eq_error_iff, maxInterceptors_ofEnvironment_iff,
      or_iff_left fun h => hdefault h.1]

/-- A padded choice is read, a padded number is not, and a byte that is no text leaves the default
in place beside a limit of zero, which is refused. -/
theorem full_read_beside_padded_number :
    ofEnvironment (.text "\tFull ") (.text " 7") = ⟨.always, 64⟩ ∧
    (∀ value : String, value.toUTF8 ≠ ⟨#[0xff]⟩) ∧
    ofEnvironment (.ofBytes ⟨#[0xff]⟩) (.text "+00") = ofEnvironment .unset (.text "+00") ∧
    (ofEnvironment (.ofBytes ⟨#[0xff]⟩) (.text "+00")).validate =
      .error (.invalidValue "max_interceptors" "0" "max_interceptors must be greater than 0") := by
  obtain ⟨-, -, hlimit, hchoice, -⟩ := ofEnvironment_exact (.text "\tFull ") (.text " 7")
  obtain ⟨-, -, -, -, -, hunset, -, hvalid⟩ :=
    ofEnvironment_exact (.ofBytes ⟨#[0xff]⟩) (.text "+00")
  have hnames : (Variable.text "\tFull ").Names .always :=
    ⟨_, rfl, AutoMapping.parse_eq_ok_iff.2
      ⟨"\t", "Full", " ", by decide, by decide, by decide, by decide⟩⟩
  have hpadded : ∀ n, ¬(Variable.text " 7").Asks n := by
    rintro n ⟨text, htext, hdenotes⟩
    cases htext
    rw [Numeral.denotes_iff_of_no_sign (by decide) (by decide)] at hdenotes
    exact absurd hdenotes.1 (by decide)
  have hbytes : ∀ value : String, value.toUTF8 ≠ ⟨#[0xff]⟩ := by
    intro value h
    have hvalue : value.toUTF8.IsValidUTF8 := value.isValidUTF8
    rw [h] at hvalue
    exact absurd hvalue (by decide)
  have hzero : (Variable.text "+00").Asks 0 := ⟨_, rfl, .plus (by decide)⟩
  exact ⟨Settings.ext ((hchoice _).2 (.inl hnames)) ((hlimit _).2 (.inr ⟨rfl, hpadded⟩)), hbytes,
    (hunset _ hbytes).1, (hvalid _).2 ⟨hzero, rfl⟩⟩

end Settings

end ResultMapping

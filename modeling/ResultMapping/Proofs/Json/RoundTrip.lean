import ResultMapping.Dictionary.Lemmas
import ResultMapping.Interception.Properties
import ResultMapping.Proofs.Entry.Fields
import ResultMapping.Proofs.Entry.Parts
import Mathlib.Data.List.Permutation

/-!
# Reading back what was written

Entries, discriminators, settings and properties are read back as they were written, in whatever
order the members of an object stand. The one thing that is written but not read is a flag without
a meaning.

* `ReadsBack`: what reading gives for something written, with `ReadsBack.bind` and `ReadsBack.mapM`
  for readings made of others;
* `Entry.readsBack_object`: an entry comes back if its composites do, and so by induction over them
  `Entry.readsBack`;
* `Entry.known_of_ofJson`: an entry that was read has known flags only;
* `Json.roundTrip`: everything that is written comes back.
-/

namespace ResultMapping

/-! ## Outcomes -/

/-- What may come of reading something written. It comes back as it was if the flags of all entries
written with it are known; else it is refused for the flags of one whose are not. -/
inductive ReadsBack {α : Type} (entries : Entry → Prop) (a : α) : Except Refusal α → Prop
  | ok (known : ∀ e : Entry, entries e → e.flags.isKnown = true) : ReadsBack entries a (.ok a)
  | refused {e : Entry} (he : entries e) (unknown : e.flags.isKnown = false) :
      ReadsBack entries a (.error (.unknownFlags e.flags.bits.toNat))

namespace ReadsBack

variable {α β ι : Type} {E F : Entry → Prop} {a : α} {b : β} {outcome : Except Refusal α}

theorem eq_ok (h : ReadsBack E a outcome) (known : ∀ e : Entry, E e → e.flags.isKnown = true) :
    outcome = .ok a := by
  cases h with
  | ok => rfl
  | refused he unknown => exact absurd (known _ he) (by simp [unknown])

theorem exists_eq_error (h : ReadsBack E a outcome) {e : Entry} (he : E e)
    (unknown : e.flags.isKnown = false) :
    ∃ e' : Entry, E e' ∧ e'.flags.isKnown = false
      ∧ outcome = .error (.unknownFlags e'.flags.bits.toNat) := by
  cases h with
  | ok known => exact absurd (known e he) (by simp [unknown])
  | refused he' unknown' => exact ⟨_, he', unknown', rfl⟩

/-- What is written without any entry comes back. -/
theorem of_ok : ReadsBack (fun _ => False) a (.ok a) := .ok fun _ => False.elim

theorem congr (h : ReadsBack E a outcome) (hEF : ∀ e, E e ↔ F e) : ReadsBack F a outcome := by
  cases h with
  | ok known => exact .ok fun e he => known e ((hEF e).2 he)
  | refused he unknown => exact .refused ((hEF _).1 he) unknown

theorem map (f : α → β) (h : ReadsBack E a outcome) : ReadsBack E (f a) (f <$> outcome) := by
  cases h with
  | ok known => exact .ok known
  | refused he unknown => exact .refused he unknown

theorem bind {next : α → Except Refusal β} (h : ReadsBack E a outcome)
    (hnext : ReadsBack F b (next a)) : ReadsBack (fun e => E e ∨ F e) b (outcome >>= next) := by
  cases h with
  | ok known =>
    change ReadsBack _ b (next a)
    generalize next a = outcome at hnext ⊢
    cases hnext with
    | ok known' => exact .ok fun e he => he.elim (known e) (known' e)
    | refused he unknown => exact .refused (.inr he) unknown
  | refused he unknown => exact .refused (.inl he) unknown

theorem mapM {E : ι → Entry → Prop} {value : ι → α} {read : ι → Except Refusal α} {is : List ι}
    (h : ∀ i ∈ is, ReadsBack (E i) (value i) (read i)) :
    ReadsBack (fun e => ∃ i ∈ is, E i e) (is.map value) (is.mapM read) := by
  induction is with
  | nil => exact of_ok.congr (by simp)
  | cons i rest ih =>
    have hrest := ih fun j hj => h j (List.mem_cons_of_mem _ hj)
    rw [List.mapM_cons]
    exact ((h i List.mem_cons_self).bind (hrest.map (value i :: ·))).congr (by simp)

end ReadsBack

/-! ## Values of one kind -/

namespace Json

theorem toNatBelow_integer {bound n : Nat} (h : n < bound) :
    toNatBelow bound (integer n) = .ok n := by
  rw [toNatBelow, if_pos ⟨Int.natCast_nonneg n, Int.ofNat_lt.2 h⟩]
  rfl

theorem toOptionalText_ofOption (text : Option String) :
    (ofOption string text).toOptionalText = .ok text := by
  cases text <;> rfl

theorem toTexts_array (texts : List String) : (array (texts.map string)).toTexts = .ok texts := by
  rw [toTexts]
  induction texts with
  | nil => rfl
  | cons text rest ih =>
    rw [List.map_cons, decodeAll, ih]
    rfl

theorem toPairs_map (pairs : List (String × String)) :
    toPairs (pairs.map fun (name, text) => (name, string text)) = .ok pairs := by
  induction pairs with
  | nil => rfl
  | cons pair rest ih =>
    rw [List.map_cons, toPairs, ih]
    rfl

theorem toDictionary_ofDictionary (d : Dictionary String) :
    (ofDictionary d).toDictionary = .ok d := by
  rw [ofDictionary, toDictionary, toPairs_map]
  exact congrArg Except.ok (Dictionary.ofList_entries d)

/-- A record of two members is read from them in either order. -/
theorem readsBack_toRecord {α β : Type} {E F : Entry → Prop} {first second : String}
    (hne : second ≠ first) {decodeFirst : Decoder α} {decodeSecond : Decoder β} {a : α} {b : β}
    {v w : Json} (hv : ReadsBack E a (decodeFirst v)) (hw : ReadsBack F b (decodeSecond w))
    {members : List (String × Json)} (h : members.Perm [(first, v), (second, w)]) :
    ReadsBack (fun e => E e ∨ F e) (a, b)
      (toRecord first second decodeFirst decodeSecond (object members)) := by
  rcases List.perm_pair.1 h with rfl | rfl
  · simp only [toRecord, toRecordMembers, hne, Option.isSome_none, Bool.false_eq_true, ↓reduceIte]
    refine ReadsBack.congr (hv.bind (hw.bind .of_ok)) fun e => ?_
    rw [or_false]
  · simp only [toRecord, toRecordMembers, hne, Option.isSome_none, Bool.false_eq_true, ↓reduceIte]
    refine ReadsBack.congr (hw.bind (hv.bind .of_ok)) fun e => ?_
    rw [or_false, or_comm]

/-! ## Sorted members -/

theorem canonicalItems_eq_map (items : List Json) : canonicalItems items = items.map canonical := by
  induction items with
  | nil => rfl
  | cons item rest ih => rw [canonicalItems, ih, List.map_cons]

theorem canonicalMembers_eq_map (members : List (String × Json)) :
    canonicalMembers members = members.map fun m => (m.1, m.2.canonical) := by
  induction members with
  | nil => rfl
  | cons m rest ih => rw [canonicalMembers, ih, List.map_cons]

theorem exists_perm_canonical {members : List (String × Json)}
    (h : (members.map (·.1)).Nodup) :
    ∃ sorted, (object members).canonical = object sorted
      ∧ sorted.Perm (members.map fun m => (m.1, m.2.canonical)) := by
  refine ⟨_, rfl, ?_⟩
  rw [canonicalMembers_eq_map]
  refine Dictionary.perm_entries_ofList ?_
  rwa [List.map_map]

theorem canonical_ofOption {α : Type} {f : α → Json} (h : ∀ a, (f a).canonical = f a)
    (a? : Option α) : (ofOption f a?).canonical = ofOption f a? := by
  cases a? with
  | none => rfl
  | some a => exact h a

theorem canonical_ofDictionary (d : Dictionary String) :
    (ofDictionary d).canonical = ofDictionary d := by
  -- The entries of a dictionary are sorted already, and stay so when their texts are written.
  let written : Dictionary Json :=
    ⟨d.entries.map fun (name, text) => (name, string text),
      List.pairwise_map.2 (d.increasing.imp id)⟩
  have hsame : canonicalMembers written.entries = written.entries := by
    rw [canonicalMembers_eq_map]
    exact (List.map_map ..).trans (List.map_congr_left fun _ _ => rfl)
  change object (Dictionary.ofList (canonicalMembers written.entries)).entries = _
  rw [hsame, Dictionary.ofList_entries]
  rfl

/-- A value as it is written, and with the members of its objects sorted. -/
def forms (v : Json) : List Json := [v, v.canonical]

theorem mem_forms_self (v : Json) : v ∈ forms v := List.mem_cons_self

theorem canonical_mem_forms (v : Json) : v.canonical ∈ forms v :=
  List.mem_cons_of_mem _ List.mem_cons_self

theorem eq_of_mem_forms {v w : Json} (h : v.canonical = v) (hw : w ∈ forms v) : w = v := by
  simpa [forms, h] using hw

/-- A record comes back in both forms if its members do. -/
theorem readsBack_record {α β : Type} {E F : Entry → Prop} {first second : String}
    (hne : second ≠ first) {decodeFirst : Decoder α} {decodeSecond : Decoder β} {a : α} {b : β}
    {v w : Json} (hv : ∀ v' ∈ forms v, ReadsBack E a (decodeFirst v'))
    (hw : ∀ w' ∈ forms w, ReadsBack F b (decodeSecond w')) {record : Json}
    (h : record ∈ forms (object [(first, v), (second, w)])) :
    ReadsBack (fun e => E e ∨ F e) (a, b)
      (toRecord first second decodeFirst decodeSecond record) := by
  rcases List.mem_pair.1 h with rfl | rfl
  · exact readsBack_toRecord hne (hv v (mem_forms_self v)) (hw w (mem_forms_self w)) (.refl _)
  · have hnames : ([(first, v), (second, w)].map (·.1)).Nodup := by simp [hne.symm]
    obtain ⟨sorted, hsorted, hperm⟩ := exists_perm_canonical hnames
    rw [hsorted]
    exact readsBack_toRecord hne (hv _ (canonical_mem_forms v)) (hw _ (canonical_mem_forms w)) hperm

end Json

/-! ## Entries -/

theorem Flags.ofJson_toJson (flags : Flags) :
    ofJson flags.toJson
      = if flags.isKnown then .ok flags else .error (.unknownFlags flags.bits.toNat) := by
  have hlt : flags.bits.toNat < 256 := flags.bits.toNat_lt
  have hbits : ofBits? flags.bits = if flags.isKnown then some flags else none := rfl
  simp only [toJson, ofJson, Json.toNatBelow_integer hlt, bind, Except.bind, UInt8.ofNat_toNat,
    hbits]
  cases flags.isKnown <;> rfl

namespace Entry

variable {e : Entry} {w : Entry → Json}

/-- Whether the flags of a part of an entry stand in the value of a field. -/
def StandsUnder (e : Entry) : Field → Entry → Prop
  | .flags, p => p = e
  | .composites, p => ∃ c ∈ e.composites, p.Within c
  | _, _ => False

theorem within_iff_standsUnder {p : Entry} : p.Within e ↔ ∃ f, e.StandsUnder f p := by
  rw [within_iff]
  constructor
  · rintro (h | h)
    · exact ⟨.flags, h⟩
    · exact ⟨.composites, h⟩
  · rintro ⟨f, h⟩
    cases f with
    | flags => exact .inl h
    | composites => exact .inr h
    | _ => exact h.elim

theorem readField_of_ne {f : Field} (h : f ≠ .composites) (value : Json) :
    readField f value = readPlain f value := by
  rw [readField]
  exact fun _ hf _ => h hf

theorem readPlain_written {f : Field} (hflags : f ≠ .flags) (hcomposites : f ≠ .composites) :
    readPlain f (e.written w f) = .ok (e.assignment f) := by
  cases f with
  | flags | composites => contradiction
  | targetType =>
    rw [readPlain, written, assignment]
    cases e.targetType <;> rfl
  | notNullColumns =>
    rw [readPlain, written, Json.toTexts_array]
    rfl
  | isLazy => rfl
  | _ =>
    rw [readPlain, written, Json.toOptionalText_ofOption]
    rfl

theorem readsBack_field
    (hparts : ∀ c ∈ e.composites, ReadsBack (·.Within c) c (ofJson (w c))) (f : Field) :
    ReadsBack (e.StandsUnder f) (e.assignment f) (readField f (e.written w f)) := by
  cases f with
  | flags =>
    rw [readField_of_ne (by decide), readPlain, written, Flags.ofJson_toJson]
    split
    · rename_i hknown
      exact .ok fun _ hp => hp ▸ hknown
    · rename_i hunknown
      exact .refused rfl (Bool.eq_false_iff.2 hunknown)
  | composites =>
    have hlist := (ReadsBack.mapM hparts).map Assignment.composites
    rw [List.map_id'] at hlist
    rw [written, readField, ofJsonList_eq_mapM, List.mapM_map]
    exact hlist
  | _ =>
    rw [readField_of_ne (by decide), readPlain_written (by decide) (by decide)]
    exact .of_ok

/-- An entry comes back from its members in any order if its composites come back. -/
theorem readsBack_object
    (hparts : ∀ c ∈ e.composites, ReadsBack (·.Within c) c (ofJson (w c)))
    {members : List (String × Json)} (h : members.Perm (e.members w)) :
    ReadsBack (·.Within e) e (ofJson (.object members)) := by
  -- All fields stand among the members, each of them once.
  have hperm : (fieldsOf members).Perm (Field.all.map fun f => (f, e.written w f)) := by
    rw [← fieldsOf_members]
    exact h.filterMap _
  have hfields : ((fieldsOf members).map (·.1)).Nodup := by
    rw [(hperm.map _).nodup_iff, List.map_map]
    exact Field.nodup_all
  have heach : ∀ x ∈ fieldsOf members,
      ReadsBack (e.StandsUnder x.1) (e.assignment x.1) (readField x.1 x.2) := by
    intro x hx
    obtain ⟨f, -, rfl⟩ := List.mem_map.1 (hperm.mem_iff.1 hx)
    exact readsBack_field hparts f
  have hentry : ofAssignments ((fieldsOf members).map fun x => e.assignment x.1) = e := by
    have hassign := hperm.map fun x => e.assignment x.1
    rw [List.map_map] at hassign
    rw [ofAssignments_perm hassign (by simpa [Function.comp_def] using hfields)]
    exact ofAssignments_assignment e
  have hread := (ReadsBack.mapM heach).map ofAssignments
  rw [hentry] at hread
  rw [ofJson, readMembers_eq_mapM (fun _ _ => List.not_mem_nil) hfields]
  refine hread.congr fun p => ?_
  rw [within_iff_standsUnder]
  constructor
  · rintro ⟨x, -, hx⟩
    exact ⟨x.1, hx⟩
  · rintro ⟨f, hf⟩
    exact ⟨_, hperm.mem_iff.2 (List.mem_map_of_mem f.mem_all), hf⟩

theorem readsBack_toJson (e : Entry) : ReadsBack (·.Within e) e (ofJson e.toJson) := by
  induction e using induction_parts with
  | entry e ih =>
    rw [toJson_eq]
    exact readsBack_object ih (.refl _)

theorem canonical_written (f : Field) :
    (e.written w f).canonical = e.written (fun c => (w c).canonical) f := by
  cases f with
  | notNullColumns | composites =>
    simp [written, Json.canonical, Json.canonicalItems_eq_map]
  | flags | isLazy => rfl
  | _ => exact Json.canonical_ofOption (fun _ => rfl) _

theorem readsBack_canonical (e : Entry) :
    ReadsBack (·.Within e) e (ofJson e.toJson.canonical) := by
  induction e using induction_parts with
  | entry e ih =>
    have hnames : ((e.members toJson).map (·.1)).Nodup := by
      rw [members, List.map_map]
      exact Field.nodup_all.map Field.name_injective
    obtain ⟨sorted, hsorted, hperm⟩ := Json.exists_perm_canonical hnames
    rw [toJson_eq, hsorted]
    refine readsBack_object (w := fun c => c.toJson.canonical) ih ?_
    simpa [members, Function.comp_def, canonical_written] using hperm

end Entry

/-! ## What was read -/

theorem exists_of_bind_eq_ok {α β : Type} {outcome : Except Refusal α}
    {next : α → Except Refusal β} {b : β} (h : outcome >>= next = .ok b) :
    ∃ a, outcome = .ok a ∧ next a = .ok b := by
  cases outcome with
  | error => contradiction
  | ok a => exact ⟨a, rfl, h⟩

theorem exists_of_map_eq_ok {α β : Type} {outcome : Except Refusal α} {f : α → β} {b : β}
    (h : f <$> outcome = .ok b) : ∃ a, outcome = .ok a ∧ f a = b := by
  cases outcome with
  | error => contradiction
  | ok a => exact ⟨a, rfl, Except.ok.inj h⟩

/-- What holds of the first value and of all others that are read holds of the whole list. -/
theorem forall_mem_of_cons_eq_ok {α : Type} {P : α → Prop} {first : Except Refusal α}
    {others : Except Refusal (List α)} {as : List α}
    (h : (do let a ← first; let rest ← others; pure (a :: rest)) = .ok as)
    (hfirst : ∀ {a}, first = .ok a → P a)
    (hothers : ∀ {rest}, others = .ok rest → ∀ a ∈ rest, P a) : ∀ a ∈ as, P a := by
  obtain ⟨a, ha, h⟩ := exists_of_bind_eq_ok h
  obtain ⟨rest, hrest, h⟩ := exists_of_bind_eq_ok h
  cases h
  exact List.forall_mem_cons.2 ⟨hfirst ha, hothers hrest⟩

theorem Flags.isKnown_of_ofJson {value : Json} {flags : Flags} (h : ofJson value = .ok flags) :
    flags.isKnown = true := by
  obtain ⟨bits, -, hbits⟩ := exists_of_bind_eq_ok h
  unfold ofBits? at hbits
  cases hknown : isKnown ⟨.ofNat bits⟩ with
  | false =>
    rw [hknown] at hbits
    contradiction
  | true =>
    rw [hknown] at hbits
    exact Except.ok.inj hbits ▸ hknown

namespace Entry

/-- No flag without a meaning is assigned. -/
def Assignment.Known : Assignment → Prop
  | .flags value => value.isKnown = true
  | .composites value => ∀ c ∈ value, c.Known
  | _ => True

theorem Known.assign {e : Entry} {a : Assignment} (h : e.Known) (ha : a.Known) :
    (e.assign a).Known := by
  rw [known_iff] at h ⊢
  cases a with
  | flags => exact ⟨ha, h.2⟩
  | composites => exact ⟨h.1, ha⟩
  | _ => exact h

theorem known_ofAssignments {as : List Assignment} (h : ∀ a ∈ as, a.Known) :
    (ofAssignments as).Known := by
  have hblank : Known {} := known_iff.2 ⟨rfl, fun _ hc => (List.not_mem_nil hc).elim⟩
  refine List.foldlRecOn as assign hblank fun e he a ha => ?_
  exact he.assign (h a ha)

theorem known_of_readPlain {f : Field} {value : Json} {a : Assignment}
    (h : readPlain f value = .ok a) : a.Known := by
  cases f with
  | flags =>
    obtain ⟨flags, hflags, rfl⟩ := exists_of_map_eq_ok h
    exact Flags.isKnown_of_ofJson hflags
  | composites => contradiction
  | _ =>
    obtain ⟨_, -, rfl⟩ := exists_of_map_eq_ok h
    trivial

mutual

/-- An entry that was read has no flags without a meaning, at whatever depth. -/
theorem known_of_ofJson {e : Entry} : ∀ {v : Json}, ofJson v = .ok e → e.Known
  | .object members, h => by
    rw [ofJson] at h
    obtain ⟨as, has, rfl⟩ := exists_of_map_eq_ok h
    exact known_ofAssignments (known_of_readMembers has)
  | .array items, h => by
    rw [ofJson] at h
    obtain ⟨as, has, rfl⟩ := exists_of_map_eq_ok h
    exact known_ofAssignments (known_of_readItems has)
  | .null, h | .bool _, h | .integer _, h | .real _, h | .string _, h => by
    simp [ofJson] at h

theorem known_of_readMembers {seen : List Field} :
    ∀ {members : List (String × Json)} {as : List Assignment},
      readMembers seen members = .ok as → ∀ a ∈ as, a.Known
  | [], as, h => by
    cases h
    exact fun _ ha => (List.not_mem_nil ha).elim
  | (name, value) :: rest, as, h => by
    rw [readMembers] at h
    split at h
    · exact known_of_readMembers h
    · split at h
      · contradiction
      · exact forall_mem_of_cons_eq_ok h known_of_readField known_of_readMembers

theorem known_of_readItems : ∀ {fields : List Field} {items : List Json} {as : List Assignment},
    readItems fields items = .ok as → ∀ a ∈ as, a.Known
  | _, [], as, h => by
    rw [readItems] at h
    cases h
    exact fun _ ha => (List.not_mem_nil ha).elim
  | [], _ :: _, as, h => by
    rw [readItems] at h
    contradiction
  | f :: fields, value :: rest, as, h => by
    rw [readItems] at h
    exact forall_mem_of_cons_eq_ok h known_of_readField known_of_readItems

theorem known_of_readField {f : Field} : ∀ {value : Json} {a : Assignment},
    readField f value = .ok a → a.Known
  -- Only an array of parts has entries in it.
  | .array items, a, h => by
    by_cases hf : f = .composites
    · subst hf
      rw [readField] at h
      obtain ⟨es, hes, rfl⟩ := exists_of_map_eq_ok h
      exact known_of_ofJsonList hes
    · rw [readField_of_ne hf] at h
      exact known_of_readPlain h
  | .null, a, h | .bool _, a, h | .integer _, a, h | .real _, a, h | .string _, a, h
  | .object _, a, h => by
    rw [readField] at h
    · exact known_of_readPlain h
    · exact fun _ _ => nofun

theorem known_of_ofJsonList : ∀ {items : List Json} {es : List Entry},
    ofJsonList items = .ok es → ∀ e ∈ es, e.Known
  | [], es, h => by
    cases h
    exact fun _ he => (List.not_mem_nil he).elim
  | item :: rest, es, h => by
    rw [ofJsonList] at h
    exact forall_mem_of_cons_eq_ok h known_of_ofJson known_of_ofJsonList

end

end Entry

/-! ## Everything that is written -/

theorem Entry.readsBack (e : Entry) {v : Json} (h : v ∈ e.toJson.forms) :
    ReadsBack (·.Within e) e (ofJson v) := by
  rcases List.mem_pair.1 h with rfl | rfl
  · exact readsBack_toJson e
  · exact readsBack_canonical e

theorem Properties.ofJson_of_mem_forms (p : Properties) {v : Json}
    (h : v ∈ (Properties.toJson p).forms) : Properties.ofJson v = .ok p := by
  rw [Json.eq_of_mem_forms (Json.canonical_ofDictionary p) h]
  exact Json.toDictionary_ofDictionary p

theorem Discriminator.readsBack (d : Discriminator) {v : Json} (h : v ∈ d.toJson.forms) :
    ReadsBack (·.Within d.entry) d (ofJson v) := by
  have hcases : ∀ w ∈ (Json.ofDictionary d.cases).forms,
      ReadsBack (fun _ => False) d.cases w.toDictionary := by
    intro w hw
    rw [Json.eq_of_mem_forms (Json.canonical_ofDictionary d.cases) hw,
      Json.toDictionary_ofDictionary]
    exact .of_ok
  have hrecord := Json.readsBack_record (by decide) (fun w hw => d.entry.readsBack hw) hcases h
  refine ReadsBack.congr (hrecord.bind .of_ok) fun e => ?_
  rw [or_false, or_false]

theorem Settings.ofJson_of_mem_forms (s : Settings) {v : Json} (h : v ∈ s.toJson.forms) :
    ofJson v = .ok s := by
  have hchoice : ∀ w ∈ s.autoMapping.toJson.forms,
      ReadsBack (fun _ => False) s.autoMapping (AutoMapping.ofJson w) := by
    intro w hw
    rw [Json.eq_of_mem_forms rfl hw]
    cases s.autoMapping <;> exact .of_ok
  have hlimit : ∀ w ∈ (Json.integer s.maxInterceptors.toNat).forms,
      ReadsBack (fun _ => False) s.maxInterceptors.toNat (Json.toNatBelow UInt64.size w) := by
    intro w hw
    rw [Json.eq_of_mem_forms rfl hw, Json.toNatBelow_integer s.maxInterceptors.toNat_lt]
    exact .of_ok
  have hrecord := Json.readsBack_record (by decide) hchoice hlimit h
  rw [ofJson, hrecord.eq_ok (by simp)]
  change Except.ok (Settings.mk s.autoMapping (.ofNat s.maxInterceptors.toNat)) = .ok s
  rw [UInt64.ofNat_toNat]

/-- Whatever is written comes back from either form, except that an entry with an unknown flag
somewhere within is refused for such a flag; and what is read can be written and read again. -/
theorem Json.roundTrip :
    (∀ e : Entry, ∀ v ∈ e.toJson.forms,
      (e.Known → Entry.ofJson v = .ok e) ∧
      (¬ e.Known → ∃ part : Entry, part.Within e ∧ part.flags.isKnown = false ∧
        Entry.ofJson v = .error (.unknownFlags part.flags.bits.toNat))) ∧
    (∀ (v : Json) (e : Entry), Entry.ofJson v = .ok e →
      e.Known ∧ ∀ w ∈ e.toJson.forms, Entry.ofJson w = .ok e) ∧
    (∀ d : Discriminator, d.entry.Known → ∀ v ∈ d.toJson.forms, Discriminator.ofJson v = .ok d) ∧
    (∀ s : Settings, ∀ v ∈ s.toJson.forms, Settings.ofJson v = .ok s) ∧
    (∀ p : Properties, ∀ v ∈ (Properties.toJson p).forms, Properties.ofJson v = .ok p) := by
  refine ⟨fun e v hv => ⟨(e.readsBack hv).eq_ok, fun hunknown => ?_⟩, fun v e h => ?_,
    fun d hd v hv => (d.readsBack hv).eq_ok hd, fun s v => s.ofJson_of_mem_forms,
    fun p v => p.ofJson_of_mem_forms⟩
  · obtain ⟨part, hpart, hflags⟩ : ∃ part : Entry, part.Within e ∧ ¬ part.flags.isKnown = true := by
      simpa [Entry.Known] using hunknown
    exact (e.readsBack hv).exists_eq_error hpart (Bool.eq_false_iff.2 hflags)
  · have hknown := Entry.known_of_ofJson h
    exact ⟨hknown, fun w hw => (e.readsBack hw).eq_ok hknown⟩

/-- A key of a tenant and a user, who is told by two columns again; the flags are those of the last
column. -/
def nestedKey (flags : Flags) : Entry :=
  let number : Entry := { Entry.composite "number" "user_no" with flags }
  let user : Entry :=
    { property := some "user", composites := [Entry.composite "region" "region", number] }
  { property := some "key", composites := [Entry.composite "tenant" "tenant_id", user] }

theorem nestedKey_roundTrip :
    ((nestedKey .id).Known ∧
      Entry.ofJson (nestedKey .id).toJson.canonical = .ok (nestedKey .id)) ∧
    (¬ (nestedKey ⟨4⟩).Known ∧ ∃ part : Entry, part.Within (nestedKey ⟨4⟩) ∧
      part.flags.isKnown = false ∧
      Entry.ofJson (nestedKey ⟨4⟩).toJson = .error (.unknownFlags part.flags.bits.toNat)) ∧
    (Entry.ofJson (.array [.string "region", .string "region"])
        = .ok (Entry.composite "region" "region") ∧
      (Entry.composite "region" "region").Known) ∧
    Discriminator.ofJson (Discriminator.mk (nestedKey .id) ∅).toJson
      = .ok (Discriminator.mk (nestedKey .id) ∅) := by
  have hknown : (nestedKey .id).Known := by decide
  have hunknown : ¬ (nestedKey ⟨4⟩).Known := by decide
  have hregion : Entry.ofJson (.array [.string "region", .string "region"])
      = .ok (Entry.composite "region" "region") := rfl
  obtain ⟨hentries, hread, hdiscriminators, -⟩ := Json.roundTrip
  exact ⟨⟨hknown, (hentries _ _ (Json.canonical_mem_forms _)).1 hknown⟩,
    ⟨hunknown, (hentries _ _ (Json.mem_forms_self _)).2 hunknown⟩,
    ⟨hregion, (hread _ _ hregion).1⟩,
    hdiscriminators (Discriminator.mk (nestedKey .id) ∅) hknown _ (Json.mem_forms_self _)⟩

end ResultMapping

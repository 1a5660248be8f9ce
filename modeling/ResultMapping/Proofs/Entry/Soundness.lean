import ResultMapping.Proofs.Entry.Building
import ResultMapping.Proofs.Entry.Parts

/-!
# Entries that were built

Building looks at an entry but not at its composites, which are taken as they are. An entry is sound
at every depth all the same if its composites were made as it was itself, by building them or as
plain parts. These are also all the entries that are sound at every depth.

* `build_eq_ok_iff`, `exists_of_mem_composites_draft`: what building lets through, and where the
  composites are from;
* `Constructed.sound`: so all parts of an entry that was made in these ways are sound, by induction
  on how it was made;
* `exists_source`: an entry whose parts are all sound has a part with a value of its own;
* `Constructed.of_sound`: such an entry is built from its own fields;
* `constructed_iff_sound`: all this together.
-/

namespace ResultMapping.Entry

variable {property : Option String} {settings : List Setting} {e c : Entry}

/-- What building checks of an entry. -/
structure Sound (e : Entry) : Prop where
  unambiguous : ¬(e.nestedQuery.isSome ∧ e.nestedResultMap.isSome)
  has_source : e.column.isSome ∨ e.composites ≠ [] ∨ e.nestedResultMap.isSome
  paired : e.resultSet.isSome → nameCount e.column = nameCount e.foreignColumn

/-- The entries that are made without reading them from outside. -/
inductive Constructed : Entry → Prop
  | composite (property column : String) : Constructed (.composite property column)
  | build {property : Option String} {settings : List Setting} {e : Entry}
      (hparts : ∀ parts, .composites parts ∈ settings → ∀ part ∈ parts, Constructed part)
      (h : Entry.build property settings = .ok e) : Constructed e

/-! ## What is made is sound -/

theorem sound_iff : e.Sound ↔ ¬e.Ambiguous ∧ ¬e.Sourceless ∧ ¬e.Unpaired := by
  have hsource : (e.column.isSome ∨ e.composites ≠ [] ∨ e.nestedResultMap.isSome)
      ↔ ¬e.Sourceless := by
    simp only [Sourceless, Option.isSome_iff_ne_none]
    tauto
  have hpaired : (e.resultSet.isSome → nameCount e.column = nameCount e.foreignColumn)
      ↔ ¬e.Unpaired := by
    simp [Unpaired]
  rw [← hsource, ← hpaired]
  constructor
  · intro h
    exact ⟨h.unambiguous, h.has_source, h.paired⟩
  · rintro ⟨hunambiguous, hsource, hpaired⟩
    exact ⟨hunambiguous, hsource, hpaired⟩

theorem build_eq_ok_iff :
    build property settings = .ok e ↔ draft property settings = e ∧ e.Sound := by
  rw [sound_iff, ← fault?_eq_none_iff, build]
  cases h : (draft property settings).fault? with
  | none =>
    simp only [Except.ok.injEq, iff_self_and]
    rintro rfl
    exact h
  | some fault =>
    simp only [reduceCtorEq, false_iff, not_and]
    rintro rfl hnone
    rw [hnone] at h
    cases h

theorem exists_of_mem_composites_draft (h : c ∈ (draft property settings).composites) :
    ∃ parts, .composites parts ∈ settings ∧ c ∈ parts := by
  induction settings using List.reverseRecOn with
  | nil => cases h
  | append_singleton settings s ih =>
    -- A list of composites that has been overwritten no longer counts.
    rw [draft_concat] at h
    cases s with
    | composites parts => exact ⟨parts, List.mem_concat_self, h⟩
    | _ =>
      obtain ⟨parts, hparts, hc⟩ := ih h
      exact ⟨parts, List.mem_append_left _ hparts, hc⟩

theorem sound_composite (property column : String) : (composite property column).Sound where
  unambiguous h := by cases h.1
  has_source := .inl rfl
  paired h := by cases h

theorem Constructed.sound (h : e.Constructed) : ∀ part : Entry, part.Within e → part.Sound := by
  induction h with
  | composite property column =>
    rintro part (_ | ⟨hc, _⟩)
    · exact sound_composite property column
    · cases hc
  | @build property settings e _ h ih =>
    -- Building has looked at `e` alone; its composites were given, and are sound as such.
    obtain ⟨rfl, hsound⟩ := build_eq_ok_iff.1 h
    rintro part (_ | ⟨hc, hpart⟩)
    · exact hsound
    · obtain ⟨parts, hparts, hmem⟩ := exists_of_mem_composites_draft hc
      exact ih parts hparts _ hmem part hpart

/-! ## What is sound can be made -/

/-- Settings that leave all fields of an entry as they are in it. -/
def toSettings (e : Entry) : List Setting :=
  e.column.toList.map .column ++ e.targetType.toList.map .targetType
    ++ e.nestedResultMap.toList.map .nestedResultMap ++ e.nestedQuery.toList.map .nestedQuery
    ++ e.resultSet.toList.map .resultSet ++ e.foreignColumn.toList.map .foreignColumn
    ++ e.columnPrefix.toList.map .columnPrefix
    ++ [.notNullColumns e.notNullColumns, .composites e.composites, .isLazy e.isLazy]
    ++ [.flags e.flags]

theorem lastSet_map_toList {α β : Type} (argument : Setting → Option β) (setting : α → Setting)
    (o : Option α) :
    lastSet argument (o.toList.map setting) = o.bind fun value => argument (setting value) := by
  cases o with
  | none => rfl
  | some value => exact lastSet_singleton argument (setting value)

theorem draft_toSettings (e : Entry) : draft e.property e.toSettings = e := by
  rw [draft_eq_declared]
  simp only [declared, toSettings, declaredFlags_concat, lastSet_append, lastSet_map_toList]
  cases e
  simp [lastSet]

/-! ## Where values come from -/

theorem exists_source (h : ∀ part : Entry, part.Within e → part.Sound) :
    ∃ part : Entry, part.Within e ∧ (part.column.isSome ∨ part.nestedResultMap.isSome) := by
  induction e using induction_parts with
  | entry e ih =>
    rcases (h e .self).has_source with hcolumn | hcomposites | hnested
    · exact ⟨e, .self, .inl hcolumn⟩
    · obtain ⟨c, hc⟩ := List.exists_mem_of_ne_nil _ hcomposites
      obtain ⟨part, hpart, hsource⟩ := ih c hc fun part hpart => h part (.composite hc hpart)
      exact ⟨part, .composite hc hpart, hsource⟩
    · exact ⟨e, .self, .inr hnested⟩

theorem Constructed.of_sound (h : ∀ part : Entry, part.Within e → part.Sound) : e.Constructed := by
  induction e using induction_parts with
  | entry e ih =>
    have hbuild : Entry.build e.property e.toSettings = .ok e :=
      build_eq_ok_iff.2 ⟨draft_toSettings e, h e .self⟩
    refine .build (fun parts hparts part hpart => ?_) hbuild
    obtain rfl : parts = e.composites := by
      simpa [toSettings] using hparts
    exact ih part hpart fun part' hpart' => h part' (.composite hpart hpart')

/-- The entries that are made by building and as plain parts are those that are sound at every
depth, and one of them that has nothing to take a value from has a part, at some depth, that has
something. -/
theorem constructed_iff_sound (e : Entry) :
    (e.Constructed ↔ ∀ part : Entry, part.Within e → part.Sound) ∧
    (e.Constructed → e.nestedResultMap = none → e.column = none →
      ∃ c ∈ e.composites, ∃ part : Entry, part.Within c ∧
        (part.column.isSome ∨ part.nestedResultMap.isSome)) := by
  refine ⟨⟨Constructed.sound, Constructed.of_sound⟩, fun h hnested hcolumn => ?_⟩
  obtain ⟨part, hpart, hsource⟩ := exists_source h.sound
  rcases hpart with _ | ⟨hc, hpart⟩
  · simp [hcolumn, hnested] at hsource
  · exact ⟨_, hc, part, hpart, hsource⟩

/-! ## A key within a key -/

def regionKey : Entry := { composites := [.composite "region" "region_id"] }

/-- Its first parts have been overwritten. -/
def orderKey : Entry :=
  { property := some "orders", composites := [regionKey], nestedQuery := some "selectOrders" }

theorem constructed_regionKey : regionKey.Constructed := by
  have hbuild : Entry.build none [.composites [.composite "region" "region_id"]] = .ok regionKey :=
    rfl
  refine .build (fun parts hparts part hpart => ?_) hbuild
  obtain rfl : parts = [.composite "region" "region_id"] := by simpa using hparts
  obtain rfl := List.mem_singleton.1 hpart
  exact .composite "region" "region_id"

theorem constructed_orderKey : orderKey.Constructed := by
  have hbuild : Entry.build (some "orders") [.composites [.composite "tenant" "tenant_id"],
      .nestedQuery "selectOrders", .composites [regionKey]] = .ok orderKey := rfl
  refine .build (fun parts hparts part hpart => ?_) hbuild
  have heither : parts = [.composite "tenant" "tenant_id"] ∨ parts = [regionKey] := by
    simpa using hparts
  rcases heither with rfl | rfl
  · obtain rfl := List.mem_singleton.1 hpart
    exact .composite "tenant" "tenant_id"
  · obtain rfl := List.mem_singleton.1 hpart
    exact constructed_regionKey

/-- The column is found two levels below the key. -/
theorem orderKey_reaches_column :
    orderKey.Constructed ∧ (∀ part : Entry, part.Within orderKey → part.Sound) ∧
    ∃ c ∈ orderKey.composites, ∃ part : Entry, part.Within c ∧
      (part.column.isSome ∨ part.nestedResultMap.isSome) :=
  ⟨constructed_orderKey, (constructed_iff_sound orderKey).1.1 constructed_orderKey,
    (constructed_iff_sound orderKey).2 constructed_orderKey rfl rfl⟩

end ResultMapping.Entry

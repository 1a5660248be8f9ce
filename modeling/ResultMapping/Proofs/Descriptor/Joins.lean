import ResultMapping.Proofs.Descriptor.Columns
import ResultMapping.Proofs.Entry.Soundness
import ResultMapping.Proofs.Text.UpperCase

/-!
# The columns of a join

The column text of an entry that is joined over a result set lists names between commas, and each of
them is paired with a foreign column. A descriptor, however, keeps the column text of an entry as
one name.

* `Entry.normalizeColumn_eq_iff_of_mem_splitCommas`: a listed name is looked up as the text is only
  if it is the text;
* `Blueprint.isMappedColumn_listed_iff`: which of the listed names a descriptor knows, and
  `Blueprint.isMappedColumn_joined_iff`: when it knows them all;
* `Blueprint.tenant_not_mapped_in_blog`: it need not know all of them.
-/

namespace ResultMapping

namespace Entry

variable {e : Entry} {text name : String}

theorem reads_iff_of_column (h : e.column = some text) :
    e.Reads name ↔ normalizeColumn text = name := by
  simp [Reads, h]

/-- Upper-casing neither makes nor loses a comma, so a text that lists several names is none of
them in any case. -/
theorem normalizeColumn_eq_iff_of_mem_splitCommas (h : name ∈ Text.splitCommas text) :
    normalizeColumn text = normalizeColumn name ↔ text = name := by
  refine ⟨fun heq => ?_, congrArg normalizeColumn⟩
  have hcount : text.toList.count ',' = 0 :=
    calc text.toList.count ','
      _ = (normalizeColumn text).toList.count ',' := (Text.count_comma_upperCase text).symm
      _ = (normalizeColumn name).toList.count ',' := by rw [heq]
      _ = name.toList.count ',' := Text.count_comma_upperCase name
      _ = 0 := List.count_eq_zero.2 (Text.comma_not_mem_of_mem_splitCommas h)
  rw [Text.splitCommas_of_comma_not_mem (List.count_eq_zero.1 hcount)] at h
  exact (List.mem_singleton.1 h).symm

end Entry

namespace Blueprint

variable {property : Option String} {settings : List Entry.Setting} {e : Entry} {text : String}
  {b : Blueprint} {d : Descriptor}

/-- Whether some entry other than the given one reads a column of the normal form. -/
def ReadElsewhere (b : Blueprint) (e : Entry) (name : String) : Prop :=
  ∃ other ∈ b.entries, other ≠ e ∧ other.Reads name

instance (e : Entry) (name : String) : Decidable (b.ReadElsewhere e name) :=
  inferInstanceAs (Decidable (∃ other ∈ b.entries, _ ∧ _))

theorem isMappedColumn_iff_of_column (hcolumn : e.column = some text)
    (hdescriptor : b.build = .ok d) (he : e ∈ b.entries) (name : String) :
    d.isMappedColumn name = true ↔ normalizeColumn text = normalizeColumn name ∨
      b.ReadElsewhere e (normalizeColumn name) := by
  rw [Descriptor.isMappedColumn, contains_mappedColumns_iff hdescriptor,
    ← Entry.reads_iff_of_column hcolumn]
  constructor
  · rintro ⟨other, hother, hread⟩
    by_cases heq : other = e
    · exact .inl (heq ▸ hread)
    · exact .inr ⟨other, hother, heq, hread⟩
  · rintro (hread | ⟨other, hother, -, hread⟩)
    · exact ⟨e, he, hread⟩
    · exact ⟨other, hother, hread⟩

theorem isMappedColumn_listed_iff (hcolumn : e.column = some text)
    (hdescriptor : b.build = .ok d) (he : e ∈ b.entries) {name : String}
    (hname : name ∈ Text.splitCommas text) :
    d.isMappedColumn name = true ↔ text = name ∨ b.ReadElsewhere e (normalizeColumn name) := by
  rw [isMappedColumn_iff_of_column hcolumn hdescriptor he,
    Entry.normalizeColumn_eq_iff_of_mem_splitCommas hname]

/-- A descriptor with a join over a result set knows its column text as one name. Of the names that
the text lists, which are as many as the foreign columns, it knows the one that is all of the text
and those that another entry reads: all of them just when there is no comma in the text or all are
read elsewhere. -/
theorem isMappedColumn_joined_iff (hentry : Entry.build property settings = .ok e)
    (hjoin : e.resultSet.isSome = true) (hcolumn : e.column = some text)
    (hdescriptor : b.build = .ok d) (he : e ∈ b.entries) :
    (Text.splitCommas text).length = (Entry.columnNames e.foreignColumn).length ∧
    d.isMappedColumn text = true ∧
    (∀ name ∈ Text.splitCommas text, d.isMappedColumn name = true ↔
      text = name ∨ b.ReadElsewhere e (normalizeColumn name)) ∧
    ((∀ name ∈ Text.splitCommas text, d.isMappedColumn name = true) ↔
      ',' ∉ text.toList ∨
        ∀ name ∈ Text.splitCommas text, b.ReadElsewhere e (normalizeColumn name)) := by
  have hlisted : ∀ name ∈ Text.splitCommas text, d.isMappedColumn name = true ↔
      text = name ∨ b.ReadElsewhere e (normalizeColumn name) :=
    fun _ => isMappedColumn_listed_iff hcolumn hdescriptor he
  have hwhole : d.isMappedColumn text = true :=
    (isMappedColumn_iff_of_column hcolumn hdescriptor he text).2 (.inl rfl)
  refine ⟨?_, hwhole, hlisted, ?_⟩
  · have hpaired := (Entry.build_eq_ok_iff.1 hentry).2.paired hjoin
    rw [hcolumn, ← Entry.length_columnNames, ← Entry.length_columnNames] at hpaired
    exact hpaired
  · constructor
    · intro hall
      by_cases hcomma : ',' ∈ text.toList
      · refine .inr fun name hname => ?_
        rcases (hlisted name hname).1 (hall name hname) with rfl | helsewhere
        · exact absurd hcomma (Text.comma_not_mem_of_mem_splitCommas hname)
        · exact helsewhere
      · exact .inl hcomma
    · rintro (hcomma | helsewhere) name hname
      · rw [Text.splitCommas_of_comma_not_mem hcomma] at hname
        rwa [List.mem_singleton.1 hname]
      · exact (hlisted name hname).2 (.inr (helsewhere name hname))

/-! ## A blog -/

/-- The posts are joined over the id of the blog and its tenant. -/
def posts : List Entry.Setting :=
  [.column "id,tenant_id", .foreignColumn "blog_id,tenant_id", .resultSet "posts",
    .nestedResultMap "post"]

/-- Of the two columns that the posts are joined over, only the id is read by itself. -/
def blog : Blueprint where
  id := "blog"
  targetType := ⟨"Blog"⟩
  entries := [.composite "id" "ID", .draft (some "posts") posts]

theorem build_posts :
    Entry.build (some "posts") posts = .ok (.draft (some "posts") posts) := rfl

theorem blog_knows_id_but_not_tenant :
    ∃ d, blog.build = .ok d ∧ d.isMappedColumn "id,tenant_id" = true ∧
      d.isMappedColumn "id" = true ∧ d.isMappedColumn "tenant_id" = false := by
  have hbuild : ∃ d, blog.build = .ok d := ⟨_, rfl⟩
  obtain ⟨d, hd⟩ := hbuild
  obtain ⟨-, hwhole, hlisted, -⟩ := isMappedColumn_joined_iff build_posts rfl rfl hd
    (List.mem_cons_of_mem _ List.mem_cons_self)
  refine ⟨d, hd, hwhole, (hlisted "id" (by decide)).2 (.inr ?_), ?_⟩
  · exact ⟨.composite "id" "ID", List.mem_cons_self, by decide, by decide +kernel⟩
  · refine Bool.eq_false_iff.2 fun hmapped => ?_
    rcases (hlisted "tenant_id" (by decide)).1 hmapped with htext | helsewhere
    · exact absurd htext (by decide)
    · exact absurd helsewhere (by decide +kernel)

/-- Not every name that a join lists is known: the tenant is not. -/
theorem tenant_not_mapped_in_blog :
    ¬ ∀ (property : Option String) (settings : List Entry.Setting) (e : Entry) (text : String)
        (b : Blueprint) (d : Descriptor), Entry.build property settings = .ok e →
      e.resultSet.isSome = true → e.column = some text → b.build = .ok d → e ∈ b.entries →
      ∀ name ∈ Text.splitCommas text, d.isMappedColumn name = true := by
  intro hall
  have hbuild : ∃ d, blog.build = .ok d := ⟨_, rfl⟩
  obtain ⟨d, hd⟩ := hbuild
  have htenant := hall _ _ _ _ _ _ build_posts rfl rfl hd
    (List.mem_cons_of_mem _ List.mem_cons_self) "tenant_id" (by decide)
  cases hd
  exact absurd htenant (by decide +kernel)

end Blueprint

end ResultMapping

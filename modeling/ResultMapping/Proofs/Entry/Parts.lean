import ResultMapping.Entry.Basic

/-!
# Parts of entries

A composite entry has entries as its parts, and these may be composite again. A part of an entry is
found at any depth; the entry itself counts among its parts.

* `induction_parts`: what holds of an entry when it holds of its composites holds of every entry;
* `within_iff`: a part is the entry itself or a part of one of its composites;
* `known_iff`: all flags of an entry are known when its own and those of its composites are, which
  can be decided.
-/

namespace ResultMapping.Entry

/-- A composite is smaller than the entry it is a part of. -/
theorem sizeOf_lt_of_mem_composites {e c : Entry} (h : c ∈ e.composites) : sizeOf c < sizeOf e := by
  have hlt := List.sizeOf_lt_of_mem h
  have hle : sizeOf e.composites < sizeOf e := by
    cases e
    simp only [mk.sizeOf_spec]
    omega
  omega

/-- Induction over the tree that an entry and its composites make. -/
@[elab_as_elim]
theorem induction_parts {motive : Entry → Prop}
    (entry : ∀ e : Entry, (∀ c ∈ e.composites, motive c) → motive e) (e : Entry) : motive e :=
  entry e fun c _ => induction_parts entry c
termination_by sizeOf e
decreasing_by exact sizeOf_lt_of_mem_composites ‹_›

/-- Whether an entry stands somewhere within another one. -/
inductive Within (part : Entry) : Entry → Prop
  | self : Within part part
  | composite {e c : Entry} (hc : c ∈ e.composites) (h : Within part c) : Within part e

theorem within_iff {part e : Entry} :
    part.Within e ↔ part = e ∨ ∃ c ∈ e.composites, part.Within c := by
  constructor
  · rintro (_ | ⟨hc, h⟩)
    · exact .inl rfl
    · exact .inr ⟨_, hc, h⟩
  · rintro (rfl | ⟨c, hc, h⟩)
    · exact .self
    · exact .composite hc h

/-- No part of the entry has a flag without a meaning. -/
def Known (e : Entry) : Prop := ∀ part : Entry, part.Within e → part.flags.isKnown = true

theorem known_iff {e : Entry} :
    e.Known ↔ e.flags.isKnown = true ∧ ∀ c ∈ e.composites, c.Known := by
  constructor
  · intro h
    exact ⟨h e .self, fun c hc part hpart => h part (.composite hc hpart)⟩
  · rintro ⟨hself, hcomposites⟩ part (_ | ⟨hc, h⟩)
    · exact hself
    · exact hcomposites _ hc part h

mutual

/-- The flags are looked at entry by entry. -/
def decKnown : (e : Entry) → Decidable e.Known
  | ⟨p, c, t, flags, m, q, r, fc, cp, nn, composites, l⟩ =>
    haveI := decKnownList composites
    decidable_of_iff (flags.isKnown = true ∧ ∀ c ∈ composites, c.Known)
      (known_iff (e := ⟨p, c, t, flags, m, q, r, fc, cp, nn, composites, l⟩)).symm

def decKnownList : (es : List Entry) → Decidable (∀ e ∈ es, e.Known)
  | [] => .isTrue nofun
  | e :: rest =>
    haveI := decKnown e
    haveI := decKnownList rest
    decidable_of_iff (e.Known ∧ ∀ c ∈ rest, c.Known) List.forall_mem_cons.symm

end

instance : DecidablePred Known := decKnown

end ResultMapping.Entry

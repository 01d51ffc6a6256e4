import LoxScan.Segment.Grammar

/-! # Tilings

A row of segments is a **tiling** if each of them is well formed and ends where it must
before the text of all later ones.  Whether it does depends on the characters that follow,
not on the segments they belong to; that is why a name and a number next to each other are
one name, and not a tiling.

**Every text has exactly one tiling, and cutting finds it** (`segments_eq_iff`).  So two
texts are compared by exhibiting a tiling of each: the readers need not be run. -/

namespace LoxScan

namespace Segment

/-- Each segment is well formed and ends where it must before the text of all later ones. -/
inductive Tiling : List Segment → Prop
  | nil : Tiling []
  | cons {s : Segment} {ss : List Segment} (wellFormed : s.WellFormed)
      (endsBefore : s.EndsBefore (ss.flatMap text)) (rest : Tiling ss) : Tiling (s :: ss)

theorem tiling_cons_iff {s : Segment} {ss : List Segment} :
    Tiling (s :: ss) ↔ s.WellFormed ∧ s.EndsBefore (ss.flatMap text) ∧ Tiling ss := by
  constructor
  · intro h
    cases h with
    | cons hs he ht => exact ⟨hs, he, ht⟩
  · rintro ⟨hs, he, ht⟩
    exact .cons hs he ht

theorem Tiling.wellFormed_of_mem {s : Segment} {ss : List Segment} (h : Tiling ss) (hs : s ∈ ss) :
    s.WellFormed := by
  induction h with
  | nil => cases hs
  | cons hwf _ _ ih =>
      rcases List.mem_cons.mp hs with rfl | hs
      · exact hwf
      · exact ih hs

/-- A well-formed segment is not empty. -/
theorem WellFormed.text_ne_nil {s : Segment} (h : s.WellFormed) : s.text ≠ [] := by
  cases s with
  | number whole fraction =>
      rw [text]
      split
      · exact h.1
      · simp
  | word name =>
      obtain ⟨c, cs, rfl, -⟩ := h
      exact List.cons_ne_nil c cs
  | operator o => exact o.spelling_ne_nil
  | _ => exact List.cons_ne_nil _ _

/-- The segments of a text are a tiling. -/
theorem tiling_segments (cs : List Char) : Tiling (segments cs) := by
  fun_induction segments cs with
  | case1 => exact .nil
  | case2 c cs first ih =>
      obtain ⟨-, hs, he⟩ := isFirst_next c cs
      refine .cons hs ?_ ih
      rwa [flatMap_text_segments]

/-- A text is cut behind its first segment. -/
theorem segments_of_isFirst {cs rest : List Char} {s : Segment} (h : IsFirst cs s rest) :
    segments cs = s :: segments rest := by
  cases cs with
  | nil => exact absurd (List.append_eq_nil_iff.mp h.append).1 h.wellFormed.text_ne_nil
  | cons c cs => rw [segments_cons, next_eq_iff.mpr h]

/-- Cutting the text of a tiling gives the tiling back. -/
theorem Tiling.segments_flatMap_text {ss : List Segment} (h : Tiling ss) :
    segments (ss.flatMap text) = ss := by
  induction h with
  | nil => exact segments_nil
  | @cons s ss hs he _ ih =>
      rw [List.flatMap_cons, segments_of_isFirst ⟨rfl, hs, he⟩, ih]

/-- **The segments of a text are its one tiling.** -/
theorem segments_eq_iff {cs : List Char} {ss : List Segment} :
    segments cs = ss ↔ Tiling ss ∧ ss.flatMap text = cs := by
  constructor
  · rintro rfl
    exact ⟨tiling_segments cs, flatMap_text_segments cs⟩
  · rintro ⟨ht, rfl⟩
    exact ht.segments_flatMap_text

/-- Two tilings of one text are the same. -/
theorem Tiling.eq_of_flatMap_text_eq {ss ts : List Segment} (hs : Tiling ss) (ht : Tiling ts)
    (h : ss.flatMap text = ts.flatMap text) : ss = ts := by
  rw [← hs.segments_flatMap_text, h, ht.segments_flatMap_text]

/-- The rest of a text, behind some of its segments, is cut as it was cut in the text. -/
theorem segments_flatMap_text_of_append {cs : List Char} {before after : List Segment}
    (h : segments cs = before ++ after) : segments (after.flatMap text) = after := by
  refine Tiling.segments_flatMap_text ?_
  have ht := tiling_segments cs
  rw [h] at ht
  clear h
  induction before with
  | nil => exact ht
  | cons s ss ih => exact ih (tiling_cons_iff.mp ht).2.2

end Segment
end LoxScan

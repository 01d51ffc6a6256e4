import LoxScan.Proofs.Extent
import LoxScan.Proofs.Rule

/-! # Comments are blanks

A comment that is closed may be overwritten with spaces, so long as its line feeds stay, and
scanning finds the same items with the same values on the same lines (`items_blankComments`).
So a comment separates what stands before and behind it as a blank does and has no other effect
than to move on in the text and to count lines.

What looks like a comment inside a string is none and is not touched, and neither is a comment
that runs to the end of the text, which is an error.  Nothing else is read differently because
of the blanks: what ended before the slash of a comment ends before a space as well
(`Segment.Tiling.stopsLike_blanked`). -/

namespace LoxScan

open Text Segment

/-- A space in the place of a character.  A line feed stays. -/
def Text.blankOut (c : Char) : Char := if c = '\n' then '\n' else ' '

/-- The extent is a comment that is passed over: it yields nothing and begins with a slash. -/
def Extent.isComment (source : String) (e : Extent) : Bool :=
  e.item?.isNone && source.toList[e.start]? == some '/'

/-- The character with `n` characters before it stands in a comment that is passed over. -/
def inComment (source : String) (n : Nat) : Bool :=
  (extents source).any fun e => e.isComment source && (e.start ≤ n && n < e.stop)

/-- The text with its comments blanked out. -/
def blankComments (source : String) : String :=
  String.ofList (source.toList.mapIdx fun n c => if inComment source n then blankOut c else c)

example : blankComments "a/*\"\n*/\"//\"/*" = "a   \n  \"//\"/*" := by decide +kernel

namespace Segment

/-- A comment that is closed. -/
def isComment : Segment → Bool
  | lineComment _ | blockComment _ => true
  | _ => false

/-- The segment itself, or a row of blanks in the place of a comment. -/
def blanked (s : Segment) : List Segment :=
  if s.isComment then s.text.map fun c => blank (blankOut c) else [s]

variable {s : Segment} {ss : List Segment} {cs rest rest' : List Char}

/-! ### One segment -/

theorem isBlank_blankOut (c : Char) : isBlank (blankOut c) = true := by
  by_cases h : c = '\n' <;> simp [blankOut, h, isBlank]

theorem count_map_blankOut (cs : List Char) : (cs.map blankOut).count '\n' = cs.count '\n' := by
  have hnewline (c : Char) : blankOut c = '\n' ↔ c = '\n' := by
    by_cases h : c = '\n' <;> simp [blankOut, h]
  induction cs with
  | nil => rfl
  | cons c cs ih => simp only [List.map_cons, List.count_cons, ih, beq_iff_eq, hnewline]

theorem flatMap_text_blanks (cs : List Char) :
    (cs.map fun c => blank (blankOut c)).flatMap text = cs.map blankOut := by
  induction cs with
  | nil => rfl
  | cons c cs ih =>
      rw [List.map_cons, List.flatMap_cons, ih, List.map_cons, text, List.singleton_append]

theorem flatMap_text_blanked (s : Segment) :
    s.blanked.flatMap text = if s.isComment then s.text.map blankOut else s.text := by
  rw [blanked]
  split
  · exact flatMap_text_blanks s.text
  · exact List.append_nil _

theorem length_flatMap_text_blanked (ss : List Segment) :
    ((ss.flatMap blanked).flatMap text).length = (ss.flatMap text).length := by
  induction ss with
  | nil => rfl
  | cons s ss ih =>
      rw [List.flatMap_cons, List.flatMap_append, List.length_append, ih, flatMap_text_blanked,
        List.flatMap_cons, List.length_append]
      split <;> simp

/-- What ends before a segment ends before the blanks in its place: if it is a comment, it begins
with a slash, and a space stops all that a slash stops. -/
theorem stopsLike_text_blanked (hrest : StopsLike rest rest') :
    StopsLike (s.text ++ rest) (s.blanked.flatMap text ++ rest') := by
  rw [flatMap_text_blanked]
  cases s with
  | lineComment body => exact stopsLike_space (by decide)
  | blockComment body => exact stopsLike_space (by decide)
  | _ => exact hrest.append_left _

theorem Tiling.blanks_append (cs : List Char) (h : Tiling ss) :
    Tiling ((cs.map fun c => blank (blankOut c)) ++ ss) := by
  induction cs with
  | nil => exact h
  | cons c cs ih => exact .cons (isBlank_blankOut c) trivial ih

theorem itemsFrom_blanks_append (cs : List Char) (ss : List Segment) (line : Nat) :
    itemsFrom line ((cs.map fun c => blank (blankOut c)) ++ ss) =
      itemsFrom (line + cs.count '\n') ss := by
  rw [← count_map_blankOut]
  induction cs generalizing line with
  | nil => rfl
  | cons c cs ih =>
      show itemsFrom (line + (blank (blankOut c)).lineFeeds)
        ((cs.map fun c => blank (blankOut c)) ++ ss) = _
      rw [ih, List.map_cons, lineFeeds, text, Nat.add_assoc, ← List.count_append,
        List.singleton_append]

/-! ### A row of segments -/

/-- **Blanking the comments of a tiling gives a tiling.** -/
theorem Tiling.flatMap_blanked (h : Tiling ss) : Tiling (ss.flatMap blanked) := by
  refine Tiling.rewrite (fun s _ rest rest' => stopsLike_text_blanked) ?_ h
  intro s hs rest hends hrest
  rw [blanked]
  split
  · exact hrest.blanks_append s.text
  · exact .cons hs hends hrest

/-- Blanks yield nothing, as the comments did, and count the same lines. -/
theorem itemsFrom_flatMap_blanked (ss : List Segment) (line : Nat) :
    itemsFrom line (ss.flatMap blanked) = itemsFrom line ss := by
  induction ss generalizing line with
  | nil => rfl
  | cons s ss ih =>
      rw [List.flatMap_cons, blanked]
      by_cases hcomment : s.isComment = true
      · have hitem : s.item? line = none := by
          cases s <;> first | rfl | cases hcomment
        rw [if_pos hcomment, itemsFrom_blanks_append, ih, itemsFrom, hitem]
        rfl
      · rw [if_neg hcomment, List.singleton_append, itemsFrom, ih, itemsFrom]

end Segment

/-! ### The places of comments -/

variable {source : String} {before after : List Segment} {s : Segment}

/-- The extent of a segment is a comment exactly if the segment is one. -/
theorem isComment_extent (h : segments source.toList = before ++ s :: after) (stop line : Nat) :
    (⟨(before.flatMap text).length, stop, s.item? line⟩ : Extent).isComment source =
      s.isComment := by
  have hs : s.WellFormed := (tiling_segments source.toList).wellFormed_of_mem (by rw [h]; simp)
  cases s with
  | blank c =>
      have hslash : c ≠ '/' := by
        rintro rfl
        cases hs
      simp [Extent.isComment, toList_of_segments h, text, hslash, Segment.isComment]
  | lineComment | blockComment =>
      simp [Extent.isComment, toList_of_segments h, text, Segment.isComment, item?]
  | _ => rfl

/-- The characters of a comment, and of nothing else, stand in a comment: no other extent
reaches into that of a segment. -/
theorem inComment_eq (h : segments source.toList = before ++ s :: after) {n : Nat}
    (hn : n < s.text.length) : inComment source ((before.flatMap text).length + n) = s.isComment := by
  have he := mem_extents_iff.mpr ⟨before, s, after, h, rfl⟩
  rw [← isComment_extent h _ (1 + (before.flatMap text).count '\n')]
  apply Bool.eq_iff_iff.mpr
  simp only [inComment, List.any_eq_true, Bool.and_eq_true, decide_eq_true_eq]
  constructor
  · rintro ⟨e, hmem, hcomment, hplace⟩
    rwa [← (isLayout_extents source).consecutive.eq_of_overlap hmem he hplace
      ⟨Nat.le_add_right _ _, Nat.add_lt_add_left hn _⟩]
  · intro hcomment
    exact ⟨_, he, hcomment, Nat.le_add_right _ _, Nat.add_lt_add_left hn _⟩

theorem mapIdx_text_blanked (h : segments source.toList = before ++ s :: after) :
    (s.text.mapIdx fun n c =>
      if inComment source ((before.flatMap text).length + n) then blankOut c else c) =
      s.blanked.flatMap text := by
  rw [flatMap_text_blanked]
  refine List.mapIdx_eq_iff.mpr fun n => ?_
  cases hc : s.text[n]? with
  | none => cases s.isComment <;> simp [hc]
  | some c =>
      rw [Option.map_some, inComment_eq h (List.getElem?_eq_some_iff.mp hc).1]
      cases s.isComment <;> simp [hc]

/-! ### The whole text -/

theorem toList_blankComments (source : String) :
    (blankComments source).toList = ((segments source.toList).flatMap blanked).flatMap text := by
  have htext := mapIdx_flatMap (l := segments source.toList) (t := text)
    (φ := fun n c => if inComment source n then blankOut c else c)
    fun before s after h => mapIdx_text_blanked h
  rw [flatMap_text_segments] at htext
  rw [blankComments, String.toList_ofList, htext, List.flatMap_assoc]

theorem segments_blankComments (source : String) :
    segments (blankComments source).toList = (segments source.toList).flatMap blanked :=
  segments_eq_iff.mpr
    ⟨(tiling_segments source.toList).flatMap_blanked, (toList_blankComments source).symm⟩

/-- What stands in the place of a segment are its blanks, if it is a comment, and else the
segment itself. -/
theorem extract_blankComments (h : segments source.toList = before ++ s :: after) :
    (blankComments source).toList.extract (before.flatMap text).length
        ((before.flatMap text).length + s.text.length) = s.blanked.flatMap text := by
  have hlength : (s.blanked.flatMap text).length = s.text.length := by
    rw [flatMap_text_blanked]
    split <;> simp
  rw [toList_blankComments, h, List.flatMap_append, List.flatMap_cons, List.flatMap_append,
    List.flatMap_append, ← length_flatMap_text_blanked before, List.extract_eq_take_drop,
    List.drop_left, Nat.add_sub_cancel_left, ← hlength, List.take_left]

/-- **Comments are blanks.**  Each extent that is a comment is one of the two sorts of comments
and is blanked out, no other extent is touched, and scanning finds the same items as before. -/
theorem items_blankComments (source : String) :
    IsLayout source (extents source) ∧
      (∀ e ∈ extents source,
        (e.isComment source = true →
          (Rule.lineComment.Matches (source.toList.extract e.start e.stop) ∨
            Rule.blockComment.Matches (source.toList.extract e.start e.stop)) ∧
          (blankComments source).toList.extract e.start e.stop =
            (source.toList.extract e.start e.stop).map blankOut) ∧
        (e.isComment source = false →
          (blankComments source).toList.extract e.start e.stop =
            source.toList.extract e.start e.stop)) ∧
      items (blankComments source) = items source := by
  refine ⟨isLayout_extents source, ?_, ?_⟩
  · intro e he
    obtain ⟨before, s, after, h, rfl⟩ := mem_extents_iff.mp he
    have hs : s.WellFormed := (tiling_segments source.toList).wellFormed_of_mem (by rw [h]; simp)
    have htext : source.toList.extract (before.flatMap text).length
        ((before.flatMap text).length + s.text.length) = s.text := by
      rw [toList_of_segments h, List.append_assoc, List.extract_eq_take_drop, List.drop_left,
        Nat.add_sub_cancel_left, List.take_left]
    rw [isComment_extent h, extract_blankComments h, htext, flatMap_text_blanked]
    constructor
    · intro hcomment
      rw [if_pos hcomment]
      refine ⟨?_, rfl⟩
      cases s with
      | lineComment body => exact .inl (Rule.matches_text rfl hs)
      | blockComment body => exact .inr (Rule.matches_text rfl hs)
      | _ => cases hcomment
    · intro hcomment
      rw [if_neg (Bool.eq_false_iff.mp hcomment)]
  · rw [items, segments_blankComments, itemsFrom_flatMap_blanked, items]

/-- A block comment over two lines that holds a quote, before a string that holds slashes and a
comment that is not closed. -/
theorem blankComments_spares_strings :
    (⟨1, 7, none⟩ : Extent) ∈ extents "a/*\"\n*/\"//\"/*" ∧
      (⟨1, 7, none⟩ : Extent).isComment "a/*\"\n*/\"//\"/*" = true ∧
      (blankComments "a/*\"\n*/\"//\"/*").toList.extract 1 7 =
        ("a/*\"\n*/\"//\"/*".toList.extract 1 7).map blankOut ∧
      items (blankComments "a/*\"\n*/\"//\"/*") = items "a/*\"\n*/\"//\"/*" := by
  have he : (⟨1, 7, none⟩ : Extent) ∈ extents "a/*\"\n*/\"//\"/*" := by decide +kernel
  have hcomment : (⟨1, 7, none⟩ : Extent).isComment "a/*\"\n*/\"//\"/*" = true := by
    decide +kernel
  have h := items_blankComments "a/*\"\n*/\"//\"/*"
  exact ⟨he, hcomment, ((h.2.1 _ he).1 hcomment).2, h.2.2⟩

end LoxScan

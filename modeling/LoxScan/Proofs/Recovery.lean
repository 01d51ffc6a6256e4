import LoxScan.Proofs.FirstError
import LoxScan.Proofs.Malformed

/-! # Going on behind an unexpected character

Where a character begins no lexeme, scanning reports it and goes on with the next character.
This module says that it goes on as if nothing had happened: had a space stood in the place
of each reported character, then exactly the same would have been found, without the reports
(`items_clearUnexpected`).  So no token is lost or invented by the recovery, and no line is
counted wrongly.

The two texts are compared by their segments.  Writing a blank for each unexpected character
in the segments of the first text gives a tiling again (`Tiling.map_cleared`): what ended
before the character ends before the space as well, whether it saw the character directly or
behind a point.  As a text has one tiling, these are the segments of the second text. -/

namespace LoxScan

open Segment

/-- The item reports a character that begins no lexeme. -/
def Item.isUnexpected : Item → Bool
  | error ⟨_, .unexpectedCharacter _⟩ => true
  | _ => false

/-- An unexpected character was reported at the place that has `n` characters before it. -/
def reportedAt (es : List Extent) (n : Nat) : Bool :=
  es.any fun e => e.start = n && e.item?.any Item.isUnexpected

/-- The text with a space in the place of each character that was reported as unexpected. -/
def clearUnexpected (source : String) : String :=
  String.ofList (source.toList.mapIdx fun n c => if reportedAt (extents source) n then ' ' else c)

/-- A blank in the place of an unexpected character. -/
def Segment.cleared : Segment → Segment
  | unexpected _ => blank ' '
  | s => s

variable {s : Segment} {ss : List Segment}

/-! ### One segment -/

theorem cleared_eq_self (h : ∀ c, s ≠ unexpected c) : s.cleared = s := by
  cases s with
  | unexpected c => exact absurd rfl (h c)
  | _ => rfl

theorem wellFormed_cleared (h : s.WellFormed) : s.cleared.WellFormed := by
  cases s with
  | unexpected c => exact rfl
  | _ => exact h

theorem endsBefore_cleared {rest : List Char} (h : s.EndsBefore rest) :
    s.cleared.EndsBefore rest := by
  cases s with
  | unexpected c => trivial
  | _ => exact h

/-- An unexpected character is no line feed. -/
theorem ne_newline_of_unexpected {c : Char} (h : (unexpected c).WellFormed) : c ≠ '\n' := by
  rintro rfl
  exact absurd h.1 (by decide)

theorem lineFeeds_cleared (h : s.WellFormed) : s.cleared.lineFeeds = s.lineFeeds := by
  cases s with
  | unexpected c => simp [cleared, lineFeeds, text, ne_newline_of_unexpected h]
  | _ => rfl

/-- Clearing a segment removes its report, and keeps every other item. -/
theorem toList_item?_cleared (line : Nat) (s : Segment) :
    (s.cleared.item? line).toList =
      (s.item? line).toList.filter fun i => !i.isUnexpected := by
  cases s <;> rfl

/-- What ends before a segment ends before the cleared segment. -/
theorem stopsLike_text_cleared (h : s.WellFormed) {rest rest' : List Char}
    (hrest : StopsLike rest rest') :
    StopsLike (s.text ++ rest) (s.cleared.text ++ rest') := by
  cases s with
  | unexpected c => exact stopsLike_space (ne_newline_of_unexpected h)
  | _ => exact hrest.append_left _

/-! ### A row of segments -/

/-- **Clearing the segments of a tiling gives a tiling.** -/
theorem Segment.Tiling.map_cleared (h : Tiling ss) : Tiling (ss.map cleared) := by
  rw [List.map_eq_flatMap]
  refine Tiling.rewrite (fun s hs rest rest' hrest => ?_) (fun s hs rest hends hrest => ?_) h
  · rw [List.flatMap_singleton]
    exact stopsLike_text_cleared hs hrest
  · exact .cons (wellFormed_cleared hs) (endsBefore_cleared hends) hrest

/-- The items of cleared segments are the items of the segments without the reports. -/
theorem itemsFrom_map_cleared (h : Tiling ss) (line : Nat) :
    itemsFrom line (ss.map cleared) = (itemsFrom line ss).filter fun i => !i.isUnexpected := by
  induction h generalizing line with
  | nil => rfl
  | @cons s ss hs _ _ ih =>
      rw [List.map_cons, itemsFrom, itemsFrom, List.filter_append, ih, lineFeeds_cleared hs,
        toList_item?_cleared]

/-! ### The places of the reports -/

variable {source : String} {before after : List Segment}

theorem any_isUnexpected_item? (line : Nat) (s : Segment) :
    (s.item? line).any Item.isUnexpected = true ↔ ∃ c, s = unexpected c := by
  cases s <;> simp [item?, Item.isUnexpected]

/-- Inside a segment a report stands only if the segment is an unexpected character: no other
extent begins there. -/
theorem reportedAt_iff (h : segments source.toList = before ++ s :: after) {n : Nat}
    (hn : n < s.text.length) :
    reportedAt (extents source) ((before.flatMap text).length + n) = true ↔
      ∃ c, s = unexpected c := by
  have he := mem_extents_iff.mpr ⟨before, s, after, h, rfl⟩
  have hlayout := (isLayout_extents source).consecutive
  simp only [reportedAt, List.any_eq_true, Bool.and_eq_true, decide_eq_true_eq]
  constructor
  · rintro ⟨e, hmem, hplace, hreport⟩
    have hlt := hlayout.start_lt_stop hmem
    rw [hplace] at hlt
    have hsame := hlayout.eq_of_overlap hmem he ⟨Nat.le_of_eq hplace, hlt⟩
      ⟨Nat.le_add_right _ _, Nat.add_lt_add_left hn _⟩
    rw [hsame] at hreport
    exact (any_isUnexpected_item? _ s).mp hreport
  · rintro ⟨c, rfl⟩
    obtain rfl : n = 0 := Nat.lt_one_iff.mp hn
    exact ⟨_, he, rfl, rfl⟩

theorem mapIdx_text_cleared (h : segments source.toList = before ++ s :: after) :
    (s.text.mapIdx fun n c =>
      if reportedAt (extents source) ((before.flatMap text).length + n) then ' ' else c) =
      s.cleared.text := by
  by_cases hs : ∃ c, s = unexpected c
  · have hpos : 0 < s.text.length := by
      obtain ⟨c, rfl⟩ := hs
      exact Nat.one_pos
    have hreported := (reportedAt_iff h hpos).mpr hs
    obtain ⟨c, rfl⟩ := hs
    show [if reportedAt (extents source) ((before.flatMap text).length + 0) then ' ' else c] = [' ']
    rw [if_pos hreported]
  · rw [cleared_eq_self fun c hc => hs ⟨c, hc⟩]
    refine List.mapIdx_eq_iff.mpr fun n => ?_
    cases hc : s.text[n]? with
    | none => rfl
    | some c =>
        have hplace := reportedAt_iff h (List.getElem?_eq_some_iff.mp hc).1
        rw [Option.map_some, if_neg (mt hplace.mp hs)]

/-! ### The whole text -/

theorem segments_clearUnexpected (source : String) :
    segments (clearUnexpected source).toList = (segments source.toList).map cleared := by
  have ht := tiling_segments source.toList
  have htext := mapIdx_flatMap (l := segments source.toList) (t := text)
    (φ := fun n c => if reportedAt (extents source) n then ' ' else c)
    fun before s after h => mapIdx_text_cleared h
  rw [flatMap_text_segments] at htext
  refine segments_eq_iff.mpr ⟨ht.map_cleared, ?_⟩
  rw [clearUnexpected, String.toList_ofList, htext, List.flatMap_map]

/-- No token is a report. -/
theorem filterMap_token?_filter (found : List Item) :
    (found.filter fun i => !i.isUnexpected).filterMap Item.token? =
      found.filterMap Item.token? := by
  rw [List.filterMap_filter]
  congr 1
  funext i
  cases i with
  | token t => rfl
  | error e => cases h : Item.isUnexpected (.error e) <;> rfl

/-- If all errors are reports of unexpected characters, then the tokens are left without them. -/
theorem scan_of_items_eq_filter {source other : String}
    (hitems : items other = (items source).filter fun i => !i.isUnexpected)
    (h : ∀ e, .error e ∈ items source → ¬ e.Unterminated) :
    scan other = .ok ((items source).filterMap Item.token?) := by
  have hno : ∀ e, .error e ∉ items other := by
    rintro ⟨line, cause⟩ he
    rw [hitems, List.mem_filter] at he
    cases cause with
    | unexpectedCharacter c => cases he.2
    | unterminatedString => exact h _ he.1 (.inl rfl)
    | unterminatedBlockComment => exact h _ he.1 (.inr rfl)
  obtain ⟨ts, hts⟩ := exists_eq_map_token hno
  rw [scan_eq_stopAtError, hts, stopAtError_map, ← filterMap_token?_filter, ← hitems, hts,
    filterMap_token?_map]

/-- **Recovery loses and invents nothing.**  Where each character that is reported as
unexpected is replaced by a space, scanning finds what it found before, in the same places and
on the same lines, without the reports.  If no other error was found, it now gives the tokens
that were found among the errors. -/
theorem items_clearUnexpected (source : String) :
    IsLayout source (extents source) ∧
      (∀ e ∈ extents source, ∀ line c,
        e.item? = some (.error ⟨line, .unexpectedCharacter c⟩) →
          source.toList.extract e.start e.stop = [c]) ∧
      items (clearUnexpected source) = (items source).filter (fun i => !i.isUnexpected) ∧
      ((∀ e, .error e ∈ items source → ¬ e.Unterminated) →
        scan (clearUnexpected source) = .ok ((items source).filterMap Item.token?)) := by
  have hitems : items (clearUnexpected source) =
      (items source).filter (fun i => !i.isUnexpected) := by
    rw [items, segments_clearUnexpected]
    exact itemsFrom_map_cleared (tiling_segments source.toList) 1
  refine ⟨isLayout_extents source, ?_, hitems, scan_of_items_eq_filter hitems⟩
  intro e he line c hitem
  obtain ⟨s, -, htext, hsegment⟩ := exists_isFirst_of_mem_extents he
  rw [htext]
  rw [hitem] at hsegment
  cases s <;> cases hsegment
  rfl

/-- Of the characters that begin no lexeme, those inside a name or a string are not reported. -/
theorem clearUnexpected_spares_strings :
    (⟨2, 3, some (.error ⟨1, .unexpectedCharacter '@'⟩)⟩ : Extent) ∈ extents "a.@b²\"@\"²" ∧
      "a.@b²\"@\"²".toList.extract 2 3 = ['@'] ∧
      (∀ e, .error e ∈ items "a.@b²\"@\"²" → ¬ e.Unterminated) ∧
      scan (clearUnexpected "a.@b²\"@\"²") =
        .ok ((items "a.@b²\"@\"²").filterMap Item.token?) := by
  have hplace : (⟨2, 3, some (.error ⟨1, .unexpectedCharacter '@'⟩)⟩ : Extent) ∈
      extents "a.@b²\"@\"²" := by decide +kernel
  have herrors : ∀ e ∈ (items "a.@b²\"@\"²").filterMap Item.error?, ¬ e.Unterminated := by
    decide +kernel
  have h : ∀ e, .error e ∈ items "a.@b²\"@\"²" → ¬ e.Unterminated :=
    fun e he => herrors e (List.mem_filterMap.mpr ⟨_, he, rfl⟩)
  have hclear := items_clearUnexpected "a.@b²\"@\"²"
  exact ⟨hplace, hclear.2.1 _ hplace 1 '@' rfl, h, hclear.2.2.2 h⟩

end LoxScan

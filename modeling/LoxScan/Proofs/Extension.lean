import Mathlib.Control.Monad.Basic
import LoxScan.Proofs.Malformed

/-! # Errors and longer texts

A program that reads a text piece by piece, such as a prompt that asks for another line, has
to know whether more text can mend an error.  The sorts of errors tell
(`extension_of_scan_error`).

An unexpected character is fatal: whatever is written behind the text, scanning fails there
as before.  The segments before the character see no further than the character, and so does
the character itself.  A string or a comment that is not closed needs more text, and its
closing mark is enough: there is no mark in it yet, so the first one is the one that was
written, also where the text ended with a star or with the opening mark of the comment. -/

namespace LoxScan

open Segment

/-- The mark that is missing where something is not closed. -/
def ScanError.Cause.closingMark? : ScanError.Cause → Option String
  | unexpectedCharacter _ => none
  | unterminatedString => some "\""
  | unterminatedBlockComment => some "*/"

variable {s : String} {before after : List Segment} {u v : Segment}

/-- Text behind a text leaves all segments before some character as they are, unless that
character is a point: it is the last one they see. -/
theorem segments_append_text {c : Char} {cs : List Char}
    (hcut : segments s.toList = before ++ after)
    (htext : after.flatMap text = c :: cs) (hc : c ≠ '.') (t : String) :
    segments (s ++ t).toList = before ++ segments (c :: (cs ++ t.toList)) := by
  have htiling : Tiling (before ++ after) := hcut ▸ tiling_segments s.toList
  have hafter : after ≠ [] := by
    rintro rfl
    cases htext
  have hstops : StopsLike (after.flatMap text) (c :: (cs ++ t.toList)) := by
    rw [htext]
    exact stopsLike_of_head hc
  have happend := segments_append hcut (htiling.isOpen_eq_false hafter) hstops
  have hwhole : (s ++ t).toList = before.flatMap text ++ c :: (cs ++ t.toList) := by
    rw [String.toList_append, ← flatMap_text_segments s.toList, hcut, List.flatMap_append, htext]
    simp
  rw [hwhole, happend]

/-! ### Fatal errors -/

/-- A point is an operator, so it is never unexpected. -/
theorem ne_point_of_unexpected {c : Char} (h : (unexpected c).WellFormed) : c ≠ '.' := by
  rintro rfl
  exact h.2.2.2.2 .dot rfl

/-- **An unexpected character stays unexpected**, and the first error, whatever follows. -/
theorem scan_append_of_unexpected {line : Nat} {c : Char}
    (h : scan s = .error ⟨line, .unexpectedCharacter c⟩) (t : String) :
    scan (s ++ t) = .error ⟨line, .unexpectedCharacter c⟩ := by
  obtain ⟨before, u, after, hcut, hbefore, hitem⟩ := tokensFrom_eq_error_iff.mp h
  obtain rfl : u = unexpected c := by
    cases u <;> cases hitem
    rfl
  have hc : (unexpected c).WellFormed :=
    (tiling_segments s.toList).wellFormed_of_mem (by rw [hcut]; simp)
  have htext : (unexpected c :: after).flatMap text = c :: after.flatMap text := rfl
  have hfirst : IsFirst (c :: (after.flatMap text ++ t.toList)) (unexpected c)
      (after.flatMap text ++ t.toList) := ⟨rfl, hc, trivial⟩
  rw [scan, segments_append_text hcut htext (ne_point_of_unexpected hc),
    segments_of_isFirst hfirst]
  exact tokensFrom_append_of_error hbefore hitem

/-! ### Errors that more text can mend -/

/-- A text of which the last segment is open is scanned without an error once a mark behind it
makes a closed segment of the open one. -/
theorem exists_scan_append_eq_ok {mark : String} {c : Char} {cs : List Char}
    (hcut : segments s.toList = before ++ [u]) (hbefore : ∀ t ∈ before, t.isMalformed = false)
    (hu : u.text = c :: cs) (hc : c ≠ '.') (hv : v.WellFormed) (hclosed : v.isMalformed = false)
    (htext : v.text = u.text ++ mark.toList) : ∃ ts, scan (s ++ mark) = .ok ts := by
  have hlast : [u].flatMap text = c :: cs := by simp [hu]
  have hfirst : IsFirst (c :: (cs ++ mark.toList)) v [] :=
    ⟨by rw [htext, hu]; simp, hv, endsBefore_nil v⟩
  have hwhole : segments (s ++ mark).toList = before ++ [v] := by
    rw [segments_append_text hcut hlast hc, segments_of_isFirst hfirst, segments_nil]
  refine exists_tokensFrom_eq_ok_iff.mpr ?_
  rw [hwhole]
  intro t ht
  rcases List.mem_append.mp ht with ht | ht
  · exact hbefore t ht
  · rwa [List.mem_singleton.mp ht]

/-- The segment of an unterminated error is the last one, and nothing before it is malformed. -/
theorem exists_segments_eq_of_unterminated {e : ScanError} (h : scan s = .error e)
    (he : e.Unterminated) :
    ∃ before u line, segments s.toList = before ++ [u] ∧
      (∀ t ∈ before, t.isMalformed = false) ∧ u.WellFormed ∧ u.item? line = some (.error e) := by
  obtain ⟨before, u, after, hcut, hbefore, hitem⟩ := tokensFrom_eq_error_iff.mp h
  have htiling : Tiling (before ++ u :: after) := hcut ▸ tiling_segments s.toList
  have hu : u.WellFormed := htiling.wellFormed_of_mem (by simp)
  obtain rfl : after = [] := by
    -- With anything behind it, `u` would not run to the end of the text.
    refine Classical.byContradiction fun hafter => ?_
    rw [List.append_cons] at htiling
    have hclosed := htiling.isOpen_eq_false hafter u (by simp)
    rw [(isOpen_iff _).mpr ⟨e, hitem, he⟩] at hclosed
    cases hclosed
  exact ⟨before, u, _, hcut, hbefore, hu, hitem⟩

theorem unterminated_of_closingMark? {e : ScanError} {mark : String}
    (h : e.cause.closingMark? = some mark) : e.Unterminated := by
  cases hcause : e.cause with
  | unexpectedCharacter c =>
      rw [hcause] at h
      cases h
  | unterminatedString => exact .inl hcause
  | unterminatedBlockComment => exact .inr hcause

/-- **What is not closed can be closed by its mark.** -/
theorem exists_scan_append_mark {e : ScanError} {mark : String} (h : scan s = .error e)
    (hmark : e.cause.closingMark? = some mark) : ∃ ts, scan (s ++ mark) = .ok ts := by
  obtain ⟨before, u, line, hcut, hbefore, hu, hitem⟩ :=
    exists_segments_eq_of_unterminated h (unterminated_of_closingMark? hmark)
  cases u with
  | openString body =>
      have hv : (string body).WellFormed := hu
      cases hitem
      cases hmark
      exact exists_scan_append_eq_ok hcut hbefore rfl (by decide) hv rfl rfl
  | openComment body =>
      have hv : (blockComment body).WellFormed := hu
      cases hitem
      cases hmark
      exact exists_scan_append_eq_ok hcut hbefore rfl (by decide) hv rfl rfl
  | unexpected c =>
      cases hitem
      cases hmark
  | _ => cases hitem

/-! ### The sorts of errors -/

/-- **Errors tell whether more text can mend them.**  An unexpected character is the error of
every longer text too; a string or a comment that is not closed can be closed by its mark.  So
the unterminated errors are exactly those of texts that some longer text without an error
begins with. -/
theorem extension_of_scan_error (s : String) :
    (∀ line c, scan s = .error ⟨line, .unexpectedCharacter c⟩ →
      ∀ t, scan (s ++ t) = .error ⟨line, .unexpectedCharacter c⟩) ∧
    (∀ line, scan s = .error ⟨line, .unterminatedString⟩ → ∃ ts, scan (s ++ "\"") = .ok ts) ∧
    (∀ line, scan s = .error ⟨line, .unterminatedBlockComment⟩ →
      ∃ ts, scan (s ++ "*/") = .ok ts) ∧
    ∀ e, scan s = .error e → ((∃ t ts, scan (s ++ t) = .ok ts) ↔ e.Unterminated) := by
  refine ⟨fun _ _ => scan_append_of_unexpected,
    fun _ h => exists_scan_append_mark h rfl, fun _ h => exists_scan_append_mark h rfl, ?_⟩
  rintro ⟨line, cause⟩ h
  cases cause with
  | unexpectedCharacter c =>
      simp [scan_append_of_unexpected h, ScanError.Unterminated]
  | unterminatedString =>
      exact ⟨fun _ => .inl rfl, fun _ => ⟨_, exists_scan_append_mark h rfl⟩⟩
  | unterminatedBlockComment =>
      exact ⟨fun _ => .inr rfl, fun _ => ⟨_, exists_scan_append_mark h rfl⟩⟩

/-- Digits before a point before an unexpected character, a string that ends with a line feed,
and a comment that ends with a slash behind its opening mark. -/
theorem extension_of_three_errors :
    (scan "1.@" = .error ⟨1, .unexpectedCharacter '@'⟩ ∧
      ∀ t, scan ("1.@" ++ t) = .error ⟨1, .unexpectedCharacter '@'⟩) ∧
    (scan "a\"*/\n" = .error ⟨2, .unterminatedString⟩ ∧
      ∃ ts, scan ("a\"*/\n" ++ "\"") = .ok ts) ∧
    (scan "1./*/" = .error ⟨1, .unterminatedBlockComment⟩ ∧
      (∃ ts, scan ("1./*/" ++ "*/") = .ok ts) ∧
      ((∃ t ts, scan ("1./*/" ++ t) = .ok ts) ↔
        ScanError.Unterminated ⟨1, .unterminatedBlockComment⟩)) := by
  have hfatal : scan "1.@" = .error ⟨1, .unexpectedCharacter '@'⟩ := by decide +kernel
  have hstring : scan "a\"*/\n" = .error ⟨2, .unterminatedString⟩ := by decide +kernel
  have hcomment : scan "1./*/" = .error ⟨1, .unterminatedBlockComment⟩ := by decide +kernel
  exact ⟨⟨hfatal, (extension_of_scan_error "1.@").1 1 '@' hfatal⟩,
    ⟨hstring, (extension_of_scan_error "a\"*/\n").2.1 2 hstring⟩,
    ⟨hcomment, (extension_of_scan_error "1./*/").2.2.1 1 hcomment,
      (extension_of_scan_error "1./*/").2.2.2 _ hcomment⟩⟩

end LoxScan

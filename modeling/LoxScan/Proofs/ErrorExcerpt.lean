import Mathlib.Control.Monad.Basic
import LoxScan.Proofs.ItemLine
import LoxScan.Proofs.Malformed
import LoxScan.Proofs.Reporting

/-! # A diagnostic quotes the place of its error

Lines are counted twice.  The scanner counts the line feeds that it has passed, and a
diagnostic cuts the source into lines, of which a final line feed opens none and a carriage
return at the end is dropped.  This module says that the two agree wherever it matters.

An unexpected character is neither a line feed nor a carriage return, so it stands on the line
that the line feeds before it lead to (`exists_mem_line_of_unexpected`), and this line is
quoted.  A string or a comment that is not closed carries the number of the last line, which is
quoted as well; if the source ends with a line feed, that line has no text, lies behind all
lines (`line_eq_of_unterminated`), and the header stands alone. -/

namespace LoxScan

open Segment

namespace Diagnostic

/-- The header as a text. -/
def headerText (coloured : Bool) (e : ScanError) : String :=
  String.ofList ((header e).render coloured)

/-- A number right-aligned in so many columns. -/
def inColumns (width number : Nat) : List Char := (Nat.toDigits 10 number).leftpad width ' '

/-- The columns of all gutters: the digits of the number after the error's. -/
def gutterWidth (number : Nat) : Nat := (Nat.toDigits 10 (number + 1)).length

/-- The text of a quoted line: two spaces, the number in its columns, a bar, and the line. -/
def quotedText (width : Nat) (quoted : Nat × List Char) : List Char :=
  ' ' :: ' ' :: inColumns width quoted.1 ++ ' ' :: '|' :: ' ' :: quoted.2 ++ ['\n']

/-- The same in colours: the number stands between two style sequences, which are those of blue,
and of bold too on the line of the error. -/
def colouredText (width own : Nat) (quoted : Nat × List Char) : List Char :=
  let opening := if quoted.1 = own then ['\x1b', '[', '1', ';', '3', '4', 'm']
    else ['\x1b', '[', '3', '4', 'm']
  ' ' :: ' ' :: opening ++ inColumns width quoted.1 ++
    '\x1b' :: '[' :: '0' :: 'm' :: ' ' :: '|' :: ' ' :: quoted.2 ++ ['\n']

/-- The diagnostic shows the line, behind a gutter with its number, in colours or not. -/
structure Quotes (d : Diagnostic) (number : Nat) (line : List Char) : Prop where
  plain : quotedText (gutterWidth d.error.line) (number, line) <:+: (d.render false).toList
  coloured : colouredText (gutterWidth d.error.line) d.error.line (number, line) <:+:
    (d.render true).toList

variable {ls : List (List Char)} {l : List Char} {number : Nat} {e : ScanError} {source : String}

/-! ### What is quoted -/

/-- The line with the given number is in the excerpt. -/
theorem mem_excerpt_self (hpos : 1 ≤ number) (hl : ls[number - 1]? = some l) :
    (number, l) ∈ excerpt ls number := by
  obtain ⟨hlt, -⟩ := List.getElem?_eq_some_iff.mp hl
  have hrange : ¬ (number = 0 ∨ ls.length < number) := by omega
  have hline : lineAt? ls number = some l := by
    rw [lineAt?, if_neg (by omega), hl]
  rw [excerpt, if_neg hrange, List.mem_filterMap]
  exact ⟨number, by simp, by rw [hline]; rfl⟩

/-- The excerpt is empty exactly for numbers of no line. -/
theorem excerpt_eq_nil_iff : excerpt ls number = [] ↔ number = 0 ∨ ls.length < number := by
  constructor
  · intro h
    refine Decidable.byContradiction fun hrange => ?_
    have hlt : number - 1 < ls.length := by omega
    have hmem := mem_excerpt_self (by omega) (List.getElem?_eq_getElem hlt)
    rw [h] at hmem
    cases hmem
  · intro h
    rw [excerpt, if_pos h]

/-- The text of a diagnostic is the header and the quoted lines, one after the other. -/
theorem toList_render (coloured : Bool) (e : ScanError) (source : String) :
    (Diagnostic.render coloured ⟨e, some source⟩).toList =
      (headerText coloured e).toList ++ (excerpt (Text.lines source.toList) e.line).flatMap
        fun q => Styled.render coloured (quotation e.line q) := by
  rw [Diagnostic.render, headerText, String.toList_ofList, String.toList_ofList, styled,
    Styled.render_append]
  refine congrArg _ ?_
  rw [Styled.render, List.flatMap_assoc]
  rfl

/-- Without colours a quotation is its text. -/
theorem render_false_quotation (number : Nat) (quoted : Nat × List Char) :
    Styled.render false (quotation number quoted) = quotedText (gutterWidth number) quoted := by
  rw [Styled.render_false]
  simp [quotation, quotedText, gutter, inColumns, gutterWidth, Span.plain, Span.styled]

theorem render_true_quotation (number : Nat) (quoted : Nat × List Char) :
    Styled.render true (quotation number quoted) =
      colouredText (gutterWidth number) number quoted := by
  by_cases h : quoted.1 = number <;>
    simp [h, quotation, colouredText, gutter, gutterStyle, inColumns, gutterWidth, Styled.render,
      Span.render, Span.plain, Span.styled, Style.opening, Style.parameters, Style.reset,
      Style.escapeSequence]

theorem render_quotation_infix {q : Nat × List Char}
    (h : q ∈ excerpt (Text.lines source.toList) e.line) (coloured : Bool) :
    Styled.render coloured (quotation e.line q) <:+:
      (Diagnostic.render coloured ⟨e, some source⟩).toList := by
  obtain ⟨before, after, hsplit⟩ := List.append_of_mem h
  rw [toList_render, hsplit, List.flatMap_append, List.flatMap_cons, ← List.append_assoc,
    ← List.append_assoc]
  exact List.infix_append _ _ _

theorem quotes_of_mem_excerpt (h : (number, l) ∈ excerpt (Text.lines source.toList) e.line) :
    Quotes ⟨e, some source⟩ number l where
  plain := render_false_quotation e.line (number, l) ▸ render_quotation_infix h false
  coloured := render_true_quotation e.line (number, l) ▸ render_quotation_infix h true

/-- **The header stands alone exactly if there is no line to quote.** -/
theorem render_eq_headerText_iff (coloured : Bool) (e : ScanError) (source : String) :
    Diagnostic.render coloured ⟨e, some source⟩ = headerText coloured e ↔
      e.line = 0 ∨ (Text.lines source.toList).length < e.line := by
  rw [← excerpt_eq_nil_iff, ← String.toList_inj, toList_render, List.append_right_eq_self]
  constructor
  · intro h
    cases hexcerpt : excerpt (Text.lines source.toList) e.line with
    | nil => rfl
    | cons q qs =>
        -- Every quotation begins with two spaces.
        rw [hexcerpt] at h
        cases h
  · intro h
    rw [h]
    rfl

end Diagnostic

open Diagnostic

variable {source : String} {e : ScanError}

/-! ### Where an error stands -/

/-- A string or a comment that is not closed ends on the last line of the text. -/
theorem lineAt_add_lineFeeds_of_isOpen {cs rest : List Char} {s : Segment} {start : Nat}
    (h : IsFirst (cs.drop start) s rest) (hopen : s.isOpen = true) :
    cs ≠ [] ∧ lineAt cs start + s.lineFeeds = 1 + cs.count '\n' := by
  have hrest : rest = [] := by
    cases s with
    | openString body | openComment body => exact h.endsBefore
    | _ => cases hopen
  subst hrest
  refine ⟨?_, lineAt_add_lineFeeds h⟩
  rintro rfl
  have htext := h.append
  rw [List.drop_nil] at htext
  exact h.wellFormed.text_ne_nil (List.append_eq_nil_iff.mp htext).1

/-- An error is that of a character somewhere in the text, or it carries the last line. -/
theorem exists_place_of_error (h : .error e ∈ items source) :
    (∃ before c after, source.toList = before ++ c :: after ∧
        e = ⟨1 + before.count '\n', .unexpectedCharacter c⟩ ∧ c ≠ '\n' ∧ c ≠ '\r') ∨
      (e.Unterminated ∧ source.toList ≠ [] ∧ e.line = 1 + source.toList.count '\n') := by
  rw [items_eq_filterMap_extents, List.mem_append] at h
  rcases h with h | h
  · obtain ⟨x, hx, hitem⟩ := List.mem_filterMap.mp h
    obtain ⟨s, hs, -, hsegment⟩ := exists_isFirst_of_mem_extents hx
    rw [hitem] at hsegment
    cases s with
    | unexpected c =>
        cases hsegment
        have hsource := List.take_append_drop x.start source.toList
        rw [← hs.append] at hsource
        have hblank := hs.wellFormed.1
        refine .inl ⟨_, c, _, hsource.symm, rfl, ?_, ?_⟩
        · rintro rfl
          cases hblank
        · rintro rfl
          cases hblank
    | openString body =>
        cases hsegment
        exact .inr ⟨.inl rfl, lineAt_add_lineFeeds_of_isOpen hs rfl⟩
    | openComment body =>
        cases hsegment
        exact .inr ⟨.inr rfl, lineAt_add_lineFeeds_of_isOpen hs rfl⟩
    | _ => cases hsegment
  · cases List.mem_singleton.mp h

/-- **An unexpected character is on the line that its error carries.** -/
theorem exists_mem_line_of_unexpected {line : Nat} {c : Char}
    (h : .error ⟨line, .unexpectedCharacter c⟩ ∈ items source) :
    1 ≤ line ∧ ∃ l, (Text.lines source.toList)[line - 1]? = some l ∧ c ∈ l := by
  rcases exists_place_of_error h with
    ⟨before, d, after, hsource, heq, hnewline, hreturn⟩ | ⟨hopen, -⟩
  · cases heq
    obtain ⟨l, hl, hmem⟩ := Text.exists_mem_lines hnewline hreturn before after
    rw [← hsource] at hl
    refine ⟨Nat.le_add_right 1 _, l, ?_, hmem⟩
    rwa [Nat.add_sub_cancel_left]
  · rcases hopen with hcause | hcause <;> cases hcause

/-- **What is not closed carries the last line**, which a final line feed puts behind all
others. -/
theorem line_eq_of_unterminated (h : .error e ∈ items source) (hopen : e.Unterminated) :
    source.toList ≠ [] ∧
      e.line = (Text.lines source.toList).length +
        if source.toList.getLast? = some '\n' then 1 else 0 := by
  rcases exists_place_of_error h with ⟨_, _, _, -, rfl, -⟩ | ⟨-, hne, hline⟩
  · rcases hopen with hcause | hcause <;> cases hcause
  · refine ⟨hne, ?_⟩
    rw [hline, Text.length_lines]
    by_cases hlast : source.toList.getLast? = some '\n'
    · rw [if_pos (.inr hlast), if_pos hlast]
      omega
    · have hnot : ¬ (source.toList = [] ∨ source.toList.getLast? = some '\n') :=
        not_or.mpr ⟨hne, hlast⟩
      rw [if_neg hnot, if_neg hlast]
      omega

/-- **A diagnostic points at the text that caused the error.**  The line of an unexpected
character holds the character, and is quoted.  What is not closed stands on the last line,
which is quoted too; if the text ends with a line feed, that is a line behind all others,
and in exactly this case the header stands alone. -/
theorem diagnostic_points_at_error {errors : List ScanError} (h : scanAll source = .error errors)
    (he : e ∈ errors) :
    (∀ c, e.cause = .unexpectedCharacter c →
      1 ≤ e.line ∧ e.line ≤ (Text.lines source.toList).length ∧
        ∃ l, (Text.lines source.toList)[e.line - 1]? = some l ∧ c ∈ l ∧
          Quotes ⟨e, some source⟩ e.line l) ∧
    (e.Unterminated →
      (source.toList.getLast? ≠ some '\n' →
        e.line = (Text.lines source.toList).length ∧
          ∃ l, (Text.lines source.toList).getLast? = some l ∧
            Quotes ⟨e, some source⟩ e.line l) ∧
      (source.toList.getLast? = some '\n' →
        e.line = (Text.lines source.toList).length + 1) ∧
      ∀ coloured, Diagnostic.render coloured ⟨e, some source⟩ = headerText coloured e ↔
        source.toList.getLast? = some '\n') := by
  have hitem := error_mem_items h he
  refine ⟨fun c hc => ?_, fun hopen => ?_⟩
  · obtain ⟨line, cause⟩ := e
    obtain rfl : cause = .unexpectedCharacter c := hc
    obtain ⟨hpos, l, hl, hmem⟩ := exists_mem_line_of_unexpected hitem
    obtain ⟨hlt, -⟩ := List.getElem?_eq_some_iff.mp hl
    refine ⟨hpos, ?_, l, hl, hmem, quotes_of_mem_excerpt (mem_excerpt_self hpos hl)⟩
    show line ≤ (Text.lines source.toList).length
    omega
  · obtain ⟨hne, hline⟩ := line_eq_of_unterminated hitem hopen
    have hpos := List.length_pos_iff.mpr (Text.lines_ne_nil hne)
    by_cases hlast : source.toList.getLast? = some '\n'
    · rw [if_pos hlast] at hline
      refine ⟨fun hno => absurd hlast hno, fun _ => hline, fun coloured => ?_⟩
      rw [render_eq_headerText_iff]
      exact iff_of_true (.inr (by omega)) hlast
    · rw [if_neg hlast, Nat.add_zero] at hline
      refine ⟨fun _ => ⟨hline, ?_⟩, fun hyes => absurd hyes hlast, fun coloured => ?_⟩
      · have hl := List.getLast?_eq_some_getLast (Text.lines_ne_nil hne)
        refine ⟨_, hl, quotes_of_mem_excerpt (mem_excerpt_self (by omega) ?_)⟩
        rw [hline, ← List.getLast?_eq_getElem?, hl]
      · rw [render_eq_headerText_iff]
        exact iff_of_false (by omega) hlast

/-- In a text with both sorts of line ends, a character behind a string of two lines, and a
comment that the final line feed does not close. -/
theorem diagnostic_behind_long_string :
    scanAll "\"\n\"@\r\n/*\n" =
        .error [⟨2, .unexpectedCharacter '@'⟩, ⟨4, .unterminatedBlockComment⟩] ∧
      (∃ l, (Text.lines "\"\n\"@\r\n/*\n".toList)[1]? = some l ∧ '@' ∈ l ∧
        Quotes ⟨⟨2, .unexpectedCharacter '@'⟩, some "\"\n\"@\r\n/*\n"⟩ 2 l) ∧
      Diagnostic.render false ⟨⟨4, .unterminatedBlockComment⟩, some "\"\n\"@\r\n/*\n"⟩ =
        headerText false ⟨4, .unterminatedBlockComment⟩ := by
  have hscan : scanAll "\"\n\"@\r\n/*\n" =
      .error [⟨2, .unexpectedCharacter '@'⟩, ⟨4, .unterminatedBlockComment⟩] := by
    decide +kernel
  have hcharacter := diagnostic_points_at_error hscan List.mem_cons_self
  have hcomment := diagnostic_points_at_error hscan (List.mem_cons_of_mem _ List.mem_cons_self)
  refine ⟨hscan, (hcharacter.1 '@' rfl).2.2, ?_⟩
  exact ((hcomment.2 (.inr rfl)).2.2 false).mpr (by decide)

end LoxScan

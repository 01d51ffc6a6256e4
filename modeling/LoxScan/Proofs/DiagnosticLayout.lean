import LoxScan.Diagnostic.ByIndex
import LoxScan.Proofs.ErrorExcerpt
import LoxScan.Proofs.SignificantDigits
import LoxScan.Text.CharClass

/-! # The layout of a diagnostic

An error may be shown with a source that it was not found in, so its line is any word, and the
source decides what is quoted.  Of the three lines around the number those are quoted that exist,
in order (`isExcerpt_excerpt`); a number of no line quotes nothing.  Each quoted line stands
behind its number, in columns that are as many as the digits of the number after the error's.
No number of the three has more digits than that one, so all gutters have this width and no
number is cut (`toDigits_suffix_inColumns`, `length_inColumns`), whether a digit is gained from
one line to the next or there is no next line.

Quoting by index comes to the same (`context?_eq`): every sum and difference on the way is a
word, and every place is that of a line. -/

namespace LoxScan

namespace Diagnostic

/-- Of the line with a number and its two neighbours those that exist, in ascending order. -/
structure IsExcerpt (lines : List (List Char)) (number : Nat) (quoted : List (Nat × List Char)) :
    Prop where
  ascending : quoted.Pairwise fun p q => p.1 < q.1
  mem_iff : ∀ k line, (k, line) ∈ quoted ↔
    (k + 1 = number ∨ k = number ∨ k = number + 1) ∧ 1 ≤ k ∧ lines[k - 1]? = some line

variable {lines : List (List Char)} {number k : Nat} {line : List Char}

/-! ### Which lines are quoted -/

theorem lineAt?_eq_some_iff : lineAt? lines k = some line ↔ 1 ≤ k ∧ lines[k - 1]? = some line := by
  rw [lineAt?]
  split <;> rename_i h
  · exact iff_of_false (by simp) (by omega)
  · exact (and_iff_right (by omega)).symm

/-- **The excerpt is what exists of the three lines.** -/
theorem isExcerpt_excerpt (hpos : 1 ≤ number) (hle : number ≤ lines.length) :
    IsExcerpt lines number (excerpt lines number) := by
  have hrange : ¬ (number = 0 ∨ lines.length < number) := by omega
  rw [excerpt, if_neg hrange]
  constructor
  · -- Behind a number come only those that are greater.
    have hnumbers : [number - 1, number, number + 1].Pairwise (· < ·) := by
      simp only [List.pairwise_cons, List.mem_cons, List.not_mem_nil, or_false]
      refine ⟨?_, ?_, ?_⟩ <;> grind
    refine hnumbers.filterMap _ fun m n hmn p hp q hq => ?_
    obtain ⟨-, -, rfl⟩ := Option.map_eq_some_iff.mp hp
    obtain ⟨-, -, rfl⟩ := Option.map_eq_some_iff.mp hq
    exact hmn
  · intro k line
    rw [List.mem_filterMap]
    constructor
    · rintro ⟨n, hn, heq⟩
      obtain ⟨l, hl, hpair⟩ := Option.map_eq_some_iff.mp heq
      cases hpair
      refine ⟨?_, lineAt?_eq_some_iff.mp hl⟩
      simp only [List.mem_cons, List.not_mem_nil, or_false] at hn
      omega
    · rintro ⟨hnear, hline⟩
      refine ⟨k, ?_, by rw [lineAt?_eq_some_iff.mpr hline]; rfl⟩
      simp only [List.mem_cons, List.not_mem_nil, or_false]
      omega

/-! ### Gutters -/

/-- A number is never cut. -/
theorem toDigits_suffix_inColumns (width k : Nat) : Nat.toDigits 10 k <:+ inColumns width k :=
  List.leftpad_suffix

/-- Up to the number after the error's, all numbers fit. -/
theorem length_inColumns (h : k ≤ number + 1) :
    (inColumns (gutterWidth number) k).length = gutterWidth number := by
  rw [inColumns, List.length_leftpad, Nat.max_eq_left]
  refine (Nat.length_toDigits_le_iff (by decide) Nat.length_toDigits_pos).mpr ?_
  exact Nat.lt_of_le_of_lt h (lt_pow_length_toDigits (number + 1))

/-! ### The text -/

/-- The line and the message of an error, in a line of text. -/
def headerLine (e : ScanError) : String :=
  "[line " ++ toString e.line ++ "] Error: " ++ e.message ++ "\n"

theorem headerText_false (e : ScanError) : headerText false e = headerLine e := by
  rw [headerText, ← String.toList_inj, String.toList_ofList, Styled.render_false]
  simp [header, headerLine, Span.plain, Span.styled]

/-- In a gutter stand spaces and digits. -/
theorem not_mem_inColumns {c : Char} (hspace : c ≠ ' ') (hdigit : c.isDigit = false)
    (width k : Nat) : c ∉ inColumns width k := by
  rw [inColumns, List.leftpad, List.mem_append, not_or]
  exact ⟨fun h => hspace (List.eq_of_mem_replicate h), Text.not_mem_toDigits hdigit k⟩

/-- Quoted lines without line feeds of their own have one each. -/
theorem count_flatMap_quotedText {quoted : List (Nat × List Char)}
    (h : ∀ q ∈ quoted, '\n' ∉ q.2) (width : Nat) :
    (quoted.flatMap (quotedText width)).count '\n' = quoted.length := by
  induction quoted with
  | nil => rfl
  | cons q quoted ih =>
      obtain ⟨hq, hquoted⟩ := List.forall_mem_cons.mp h
      have hgutter : '\n' ∉ inColumns width q.1 := not_mem_inColumns (by decide) rfl width q.1
      have hone : (quotedText width q).count '\n' = 1 := by
        simp [quotedText, List.count_eq_zero.mpr hgutter, List.count_eq_zero.mpr hq]
      rw [List.flatMap_cons, List.count_append, hone, ih hquoted, List.length_cons, Nat.add_comm]

/-- A header and an excerpt below it, with gutters of one width that hold whole numbers. -/
structure IsLaidOut (lines : List (List Char)) (e : ScanError) (quoted : List (Nat × List Char))
    (text : String) : Prop where
  isExcerpt : IsExcerpt lines e.line quoted
  text_eq : text =
    headerLine e ++ String.ofList (quoted.flatMap (quotedText (gutterWidth e.line)))
  length_gutter : ∀ q ∈ quoted, (inColumns (gutterWidth e.line) q.1).length = gutterWidth e.line
  whole_number : ∀ q ∈ quoted, Nat.toDigits 10 q.1 <:+ inColumns (gutterWidth e.line) q.1
  lineFeeds : (quoted.flatMap (quotedText (gutterWidth e.line))).count '\n' = quoted.length

/-- **A diagnostic for a line of the source is laid out.** -/
theorem isLaidOut_render {e : ScanError} {source : String} (hpos : 1 ≤ e.line)
    (hle : e.line ≤ (Text.lines source.toList).length) :
    IsLaidOut (Text.lines source.toList) e (excerpt (Text.lines source.toList) e.line)
      (Diagnostic.render false ⟨e, some source⟩) := by
  have hexcerpt := isExcerpt_excerpt hpos hle
  refine ⟨hexcerpt, ?_, ?_, fun q _ => toDigits_suffix_inColumns _ _, ?_⟩
  · rw [← String.toList_inj, toList_render, headerText_false,
      funext (render_false_quotation e.line), String.toList_append, String.toList_ofList]
  · intro q hq
    have hnear := ((hexcerpt.mem_iff q.1 q.2).mp hq).1
    exact length_inColumns (by omega)
  · refine count_flatMap_quotedText (fun q hq => ?_) _
    have hline := ((hexcerpt.mem_iff q.1 q.2).mp hq).2.2
    exact Text.newline_not_mem_of_mem_lines (List.mem_of_getElem? hline)

/-! ### Quoting by index -/

/-- The line with a number, in a row of its own if it exists. -/
def quoted? (lines : List (List Char)) (k : Nat) : List (Nat × List Char) :=
  ((lineAt? lines k).map (k, ·)).toList

theorem excerpt_eq_append (hpos : 1 ≤ number) (hle : number ≤ lines.length) :
    excerpt lines number =
      quoted? lines (number - 1) ++ quoted? lines number ++ quoted? lines (number + 1) := by
  have hrange : ¬ (number = 0 ∨ lines.length < number) := by omega
  rw [excerpt, if_neg hrange, List.filterMap_eq_flatMap_toList]
  simp [quoted?]

/-- The line at a place, under the number of the place. -/
theorem quoteAt?_eq (lines : List (List Char)) {n place : UInt64}
    (hplace : place.toNat + 1 = n.toNat) (hlt : place.toNat < lines.length) (number : Nat) :
    quoteAt? lines.toArray (gutterWidth number) (gutterStyle number n.toNat) n place =
      some ((quoted? lines n.toNat).flatMap (quotation number)) := by
  have hline : lineAt? lines n.toNat = some lines[place.toNat] := by
    rw [lineAt?_eq_some_iff, ← hplace, Nat.add_sub_cancel, List.getElem?_eq_getElem hlt]
    exact ⟨Nat.le_add_left 1 _, rfl⟩
  rw [quoteAt?, List.getElem?_toArray, List.getElem?_eq_getElem hlt, quoted?, hline]
  rfl

theorem gutterStyle_self (number : Nat) : gutterStyle number number = .boldBlue := if_pos rfl

theorem gutterStyle_of_ne (h : k ≠ number) : gutterStyle number k = .blue := if_neg h

theorem quoted?_eq_nil (h : k = 0 ∨ lines.length < k) : quoted? lines k = [] := by
  have hnone : lineAt? lines k = none := by
    rw [Option.eq_none_iff_forall_ne_some]
    intro line hline
    obtain ⟨hpos, hline⟩ := lineAt?_eq_some_iff.mp hline
    obtain ⟨hlt, -⟩ := List.getElem?_eq_some_iff.mp hline
    omega
  rw [quoted?, hnone]
  rfl

theorem before?_eq {number place : UInt64} (hplace : place.toNat + 1 = number.toNat)
    (hle : number.toNat ≤ lines.length) :
    before? lines.toArray (gutterWidth number.toNat) place =
      some ((quoted? lines (number.toNat - 1)).flatMap (quotation number.toNat)) := by
  have hnumber : number.toNat - 1 = place.toNat := by omega
  rw [before?, hnumber]
  split <;> rename_i hpos <;> rw [UInt64.lt_iff_toNat_lt, UInt64.toNat_zero] at hpos
  · obtain ⟨first, hfirst, hbefore⟩ := Word.exists_sub?_eq_some (a := place) (b := 1) hpos
    have hquote := quoteAt?_eq lines hbefore (by omega) number.toNat
    rw [gutterStyle_of_ne (by omega)] at hquote
    rw [hfirst]
    exact hquote
  · rw [quoted?_eq_nil (by omega)]
    rfl

theorem after?_eq {number place : UInt64} (hplace : place.toNat + 1 = number.toNat)
    (hle : number.toNat ≤ lines.length) (hsize : lines.length + 1 < UInt64.size) :
    after? lines.toArray (gutterWidth number.toNat) number place =
      some ((quoted? lines (number.toNat + 1)).flatMap (quotation number.toNat)) := by
  have hsame : Word.add? place 1 = some number := Word.add?_eq_some_iff.mpr hplace
  obtain ⟨next, hnext, hafter⟩ := Word.exists_add?_eq_some (a := number) (b := 1)
    (Nat.lt_of_le_of_lt (Nat.succ_le_succ hle) hsize)
  replace hafter : next.toNat = number.toNat + 1 := hafter
  rw [after?, hsame, Option.bind_eq_bind, Option.bind_some, List.size_toArray]
  split <;> rename_i hlt
  · have hquote := quoteAt?_eq lines hafter.symm hlt number.toNat
    rw [gutterStyle_of_ne (by omega), hafter] at hquote
    rw [hnext]
    exact hquote
  · rw [quoted?_eq_nil (by omega)]
    rfl

/-- **Quoting by index finds the excerpt**, if there is a word after the number of lines. -/
theorem context?_eq (number : UInt64) (hsize : lines.length + 1 < UInt64.size) :
    context? lines.toArray number =
      some ((excerpt lines number.toNat).flatMap (quotation number.toNat)) := by
  have hzero : number = 0 ↔ number.toNat = 0 := by rw [← UInt64.toNat_inj, UInt64.toNat_zero]
  rw [context?, List.size_toArray]
  by_cases hrange : number.toNat = 0 ∨ lines.length < number.toNat
  · rw [if_pos (by rwa [hzero]), excerpt, if_pos hrange]
    rfl
  · obtain ⟨hpos, hle⟩ : 1 ≤ number.toNat ∧ number.toNat ≤ lines.length := by omega
    obtain ⟨place, hplace, hbefore⟩ := Word.exists_sub?_eq_some (a := number) (b := 1) hpos
    obtain ⟨next, hnext, hafter⟩ := Word.exists_add?_eq_some (a := number) (b := 1)
      (Nat.lt_of_le_of_lt (Nat.succ_le_succ hle) hsize)
    replace hbefore : place.toNat + 1 = number.toNat := hbefore
    have hwidth : (Nat.toDigits 10 next.toNat).length = gutterWidth number.toNat := by
      rw [hafter, gutterWidth, UInt64.toNat_one]
    have hown := quoteAt?_eq lines hbefore (by omega) number.toNat
    rw [gutterStyle_self] at hown
    rw [if_neg (by rwa [hzero]), excerpt_eq_append hpos hle]
    simp only [hplace, hnext, hwidth, before?_eq hbefore hle, hown, after?_eq hbefore hle hsize,
      Option.bind_eq_bind, Option.bind_some, List.flatMap_append]
    rfl

end Diagnostic

open Diagnostic

/-- **The layout of a diagnostic.**  Quoting by index has a result for every word, and the
diagnostic is its header and that.  Without colours the header stands alone if the word is the
number of no line.  Otherwise the line and its neighbours follow, as far as they exist, each
behind its own number in columns of one width. -/
theorem diagnostic_layout (cause : ScanError.Cause) (number : UInt64) (source : String)
    (hsize : (Text.lines source.toList).length < 2 ^ 64 - 1) :
    (∃ context, context? (Text.lines source.toList).toArray number = some context ∧
      ∀ coloured, Diagnostic.render coloured ⟨⟨number.toNat, cause⟩, some source⟩ =
        headerText coloured ⟨number.toNat, cause⟩ ++ String.ofList (context.render coloured)) ∧
    (number.toNat = 0 ∨ (Text.lines source.toList).length < number.toNat →
      Diagnostic.render false ⟨⟨number.toNat, cause⟩, some source⟩ =
        headerLine ⟨number.toNat, cause⟩) ∧
    (1 ≤ number.toNat → number.toNat ≤ (Text.lines source.toList).length →
      ∃ quoted, IsLaidOut (Text.lines source.toList) ⟨number.toNat, cause⟩ quoted
        (Diagnostic.render false ⟨⟨number.toNat, cause⟩, some source⟩)) := by
  have hword : (Text.lines source.toList).length + 1 < UInt64.size := Nat.add_lt_of_lt_sub hsize
  refine ⟨⟨_, context?_eq number hword, fun coloured => ?_⟩, fun hnone => ?_, fun hpos hle => ?_⟩
  · rw [Diagnostic.render, styled, Styled.render_append, String.ofList_append]
    rfl
  · rw [(render_eq_headerText_iff false _ _).mpr hnone, headerText_false]
  · exact ⟨_, isLaidOut_render hpos hle⟩

/-- In a source of ten lines, an error on the ninth, where the numbers gain a digit, and one that
carries the greatest word. -/
theorem layout_of_line_nine :
    (Text.lines "a\nb\nc\nd\ne\nf\ng\nh\ni\nj".toList).length < 2 ^ 64 - 1 ∧
      (∃ quoted, IsLaidOut (Text.lines "a\nb\nc\nd\ne\nf\ng\nh\ni\nj".toList)
        ⟨9, .unterminatedString⟩ quoted
        "[line 9] Error: Unterminated string\n   8 | h\n   9 | i\n  10 | j\n") ∧
      (∃ context, context? (Text.lines "a\nb\nc\nd\ne\nf\ng\nh\ni\nj".toList).toArray
        18446744073709551615 = some context) ∧
      Diagnostic.render false
        ⟨⟨18446744073709551615, .unterminatedString⟩, some "a\nb\nc\nd\ne\nf\ng\nh\ni\nj"⟩ =
        headerLine ⟨18446744073709551615, .unterminatedString⟩ := by
  have hsize : (Text.lines "a\nb\nc\nd\ne\nf\ng\nh\ni\nj".toList).length < 2 ^ 64 - 1 := by
    decide +kernel
  have hnine := diagnostic_layout .unterminatedString 9 _ hsize
  have hgreatest := diagnostic_layout .unterminatedString 18446744073709551615 _ hsize
  have htext : Diagnostic.render false
      ⟨⟨9, .unterminatedString⟩, some "a\nb\nc\nd\ne\nf\ng\nh\ni\nj"⟩ =
        "[line 9] Error: Unterminated string\n   8 | h\n   9 | i\n  10 | j\n" := by
    decide +kernel
  obtain ⟨context, hcontext, -⟩ := hgreatest.1
  refine ⟨hsize, htext ▸ hnine.2.2 (by decide) (by decide +kernel), ⟨context, hcontext⟩, ?_⟩
  exact hgreatest.2.1 (.inr (by decide +kernel))

end LoxScan

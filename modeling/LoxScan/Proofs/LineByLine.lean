import Mathlib.Data.List.Basic
import LoxScan.Proofs.Newline
import LoxScan.Proofs.Prompt
import LoxScan.Proofs.WellFormedToken

/-! # A text scanned line by line

The prompt scans every line of its input as a text of its own, without the line end; a script
is scanned as a whole.  Where no line is open at its end both find the same, except that a
script counts the lines (`itemsFrom_eq_flatMap_lines`).

One line is the step.  The carriage returns that were trimmed leave no trace where they
stand: a line comment takes them in, and anywhere else they are blanks
(`itemsFrom_trimLineEnd`).  The line feed behind them ends every segment, so what follows is
scanned as if it stood alone, one line further down (`itemsFrom_line_append`). -/

namespace LoxScan

open Segment Text

/-- The token on the given line. -/
def Token.onLine (line : Nat) (t : Token) : Token := { t with line := line }

/-- The tokens on a line of input, without the mark at its end; none if the line is malformed. -/
def lineTokens (line : String) : List Token :=
  match scan (typed line) with
  | .ok tokens => tokens.dropLast
  | .error _ => []

/-- What becomes of a segment where a carriage return is written behind it. -/
def Segment.withReturn : Segment → List Segment
  | lineComment body => [lineComment (body ++ ['\r'])]
  | s => [s, blank '\r']

variable {s : Segment} {cs : List Char}

/-! ### Carriage returns at the end of a text -/

theorem isOpen_of_mem_withReturn (h : s.isOpen = false) : ∀ t ∈ s.withReturn, t.isOpen = false := by
  cases s <;> simp_all [withReturn, isOpen]

theorem itemsFrom_withReturn (line : Nat) (s : Segment) :
    itemsFrom line s.withReturn = itemsFrom line [s] := by
  cases s <;> simp [withReturn, itemsFrom, item?, lineFeeds, text]

theorem segments_text_append_return (hs : s.WellFormed) (hopen : s.isOpen = false) :
    segments (s.text ++ ['\r']) = s.withReturn := by
  rw [segments_eq_iff]
  have hreturn : Tiling [.blank '\r'] := .cons rfl trivial .nil
  have hblank (hline : ∀ body, s ≠ lineComment body) : s.EndsBefore ['\r'] :=
    endsBefore_of_isBlank hopen rfl (.inr hline)
  cases s with
  | lineComment body =>
      have hbody : '\n' ∉ body ++ ['\r'] := by
        rw [List.mem_append, not_or]
        exact ⟨hs, by decide⟩
      exact ⟨.cons hbody (endsBefore_nil _) .nil, by simp [withReturn, text]⟩
  | _ => exact ⟨.cons hs (hblank fun _ => Segment.noConfusion) hreturn, rfl⟩

/-- **A carriage return at the end of a text leaves no trace**, if the text is not open there. -/
theorem itemsFrom_append_return (h : ∀ s ∈ segments cs, s.isOpen = false) :
    (∀ s ∈ segments (cs ++ ['\r']), s.isOpen = false) ∧
      ∀ line, itemsFrom line (segments (cs ++ ['\r'])) = itemsFrom line (segments cs) := by
  rcases List.eq_nil_or_concat (segments cs) with hnil | ⟨before, s, hcut⟩
  · have hcs : cs = [] := by
      rw [← flatMap_text_segments cs, hnil]
      rfl
    have hreturn : segments ['\r'] = [.blank '\r'] :=
      segments_eq_iff.mpr ⟨.cons rfl trivial .nil, rfl⟩
    rw [hcs, List.nil_append, hreturn, segments_nil]
    exact ⟨by simp [isOpen], fun _ => rfl⟩
  · rw [List.concat_eq_append] at hcut
    rw [hcut, List.forall_mem_append] at h
    have hs : s.WellFormed := (tiling_segments cs).wellFormed_of_mem (by simp [hcut])
    have hopen : s.isOpen = false := h.2 s (List.mem_singleton_self s)
    have hlast : [s].flatMap text = s.text := List.flatMap_singleton _ _
    have hstops : StopsLike ([s].flatMap text) (s.text ++ ['\r']) := by
      rw [hlast]
      exact stopsLike_append hs.text_ne_nil (beginsWithout_cons_iff.mpr rfl)
    have hwhole : segments (cs ++ ['\r']) = before ++ s.withReturn := by
      rw [← segments_text_append_return hs hopen, ← segments_append hcut h.1 hstops,
        ← List.append_assoc, ← hlast, ← List.flatMap_append, ← hcut, flatMap_text_segments]
    rw [hwhole, hcut, List.forall_mem_append]
    refine ⟨⟨h.1, isOpen_of_mem_withReturn hopen⟩, fun line => ?_⟩
    rw [itemsFrom_append, itemsFrom_append, itemsFrom_withReturn]

/-- So do any number of them. -/
theorem itemsFrom_append_returns {returns : List Char} (hreturns : ∀ c ∈ returns, c = '\r')
    (h : ∀ s ∈ segments cs, s.isOpen = false) :
    (∀ s ∈ segments (cs ++ returns), s.isOpen = false) ∧
      ∀ line, itemsFrom line (segments (cs ++ returns)) = itemsFrom line (segments cs) := by
  induction returns generalizing cs with
  | nil =>
      rw [List.append_nil]
      exact ⟨h, fun _ => rfl⟩
  | cons c returns ih =>
      obtain ⟨rfl, htail⟩ := List.forall_mem_cons.mp hreturns
      obtain ⟨hopen, hitems⟩ := itemsFrom_append_return h
      obtain ⟨hopen, hmore⟩ := ih htail hopen
      rw [List.append_cons]
      exact ⟨hopen, fun line => (hmore line).trans (hitems line)⟩

/-! ### One line -/

/-- **What is trimmed from a line is not missed.** -/
theorem itemsFrom_trimLineEnd (hline : '\n' ∉ cs)
    (h : ∀ s ∈ segments (trimLineEnd cs), s.isOpen = false) :
    (∀ s ∈ segments cs, s.isOpen = false) ∧
      ∀ line, itemsFrom line (segments cs) = itemsFrom line (segments (trimLineEnd cs)) := by
  obtain ⟨returns, hcs, hreturns⟩ := exists_eq_trimLineEnd_append hline
  have hitems := itemsFrom_append_returns hreturns h
  rwa [← hcs] at hitems

/-- The items of a text in one line are those of what was typed, with the mark at the end. -/
theorem itemsFrom_line (hline : '\n' ∉ cs)
    (h : ∀ s ∈ segments (trimLineEnd cs), s.isOpen = false) (line : Nat) :
    itemsFrom line (segments cs) =
      (itemsFrom line (segments (trimLineEnd cs))).dropLast ++ [.token (.eof line)] := by
  have hend := itemsFrom_append line (segments cs) []
  rw [List.append_nil, flatMap_text_segments, List.count_eq_zero.mpr hline] at hend
  rw [← (itemsFrom_trimLineEnd hline h).2]
  exact hend

/-- **A line in front of a text** puts its items in front and everything else one line down. -/
theorem itemsFrom_line_append (hline : '\n' ∉ cs)
    (h : ∀ s ∈ segments (trimLineEnd cs), s.isOpen = false) (line : Nat) (ds : List Char) :
    itemsFrom line (segments (cs ++ '\n' :: ds)) =
      (itemsFrom line (segments (trimLineEnd cs))).dropLast ++
        itemsFrom (line + 1) (segments ds) := by
  obtain ⟨hopen, hitems⟩ := itemsFrom_trimLineEnd hline h
  rw [segments_append_newline hopen, itemsFrom_append, flatMap_text_segments,
    List.count_eq_zero.mpr hline, hitems]
  rfl

/-! ### All lines -/

/-- **The items of a text are those of its lines**, each line on its number and scanned as a text
of its own.  The induction is along the lines of the text. -/
theorem itemsFrom_eq_flatMap_lines {cs : List Char}
    (h : ∀ l ∈ cutAfter (· == '\n') cs, ∀ s ∈ segments (trimLineEnd l), s.isOpen = false)
    (line : Nat) :
    itemsFrom line (segments cs) =
      (((cutAfter (· == '\n') cs).zipIdx line).flatMap fun l =>
        (itemsFrom l.2 (segments (trimLineEnd l.1))).dropLast) ++
      [.token (.eof (line + cs.count '\n'))] := by
  have hno {as : List Char} (has : ∀ a ∈ as, (a == '\n') = false) : '\n' ∉ as :=
    fun hmem => absurd (has '\n' hmem) (by decide)
  induction cs using cutAfter_induction (· == '\n') generalizing line with
  | last as has =>
      by_cases hne : as = []
      · subst hne
        simp [cutAfter, itemsFrom]
      · rw [cutAfter_of_no_separator hne has] at h ⊢
        have hclosed := h as (List.mem_singleton_self as)
        rw [itemsFrom_line (hno has) hclosed, List.count_eq_zero.mpr (hno has)]
        simp
  | piece as a bs has ha ih =>
      obtain rfl : a = '\n' := beq_iff_eq.mp ha
      rw [cutAfter_append_separator has ha, List.forall_mem_cons, trimLineEnd_append_newline] at h
      rw [cutAfter_append_separator has ha, itemsFrom_line_append (hno has) h.1, ih h.2,
        List.zipIdx_cons, List.flatMap_cons, trimLineEnd_append_newline, List.count_append,
        List.count_eq_zero.mpr (hno has), List.count_cons_self]
      simp [Nat.add_assoc, Nat.add_comm 1]

/-! ### The prompt and the script -/

/-- The lines of a text, as the prompt reads them. -/
def inputLines (text : String) : List String :=
  (cutAfter (· == '\n') text.toList).map String.ofList

/-- The lines that are read from the bytes of a text are its lines. -/
theorem map_ofUtf8?_cutAfter {input : List UInt8} {text : String}
    (htext : ofUtf8? input = some text) :
    (cutAfter (· == 10) input).map ofUtf8? = (inputLines text).map some := by
  rw [← ofUtf8?_eq_some_iff.mp htext, cutAfter_utf8, inputLines, List.map_map, List.map_map]
  exact List.map_congr_left fun l _ => ofUtf8?_utf8 l

/-- On a line that is read a line feed is the end. -/
theorem newline_not_mem_of_mem_inputLines {text line : String} (h : line ∈ inputLines text) :
    '\n' ∉ (typed line).toList := by
  obtain ⟨l, hl, rfl⟩ := List.mem_map.mp h
  rw [typed, String.toList_ofList, String.toList_ofList]
  refine newline_not_mem_trimLineEnd fun hmem => ?_
  exact absurd (not_isSeparator_of_mem_dropLast hl '\n' hmem) (by decide)

variable {line : String}

/-- The tokens of a well-formed line stand on line one, and so does the mark at its end. -/
theorem scan_typed_eq (hline : '\n' ∉ (typed line).toList) (h : ∃ ts, scan (typed line) = .ok ts) :
    scan (typed line) = .ok (lineTokens line ++ [.eof 1]) ∧ ∀ t ∈ lineTokens line, t.line = 1 := by
  obtain ⟨ts, hts⟩ := h
  obtain ⟨us, rfl, -⟩ := exists_wellFormed_of_scan hts
  have htokens : lineTokens line = us := by
    rw [lineTokens, hts]
    exact List.dropLast_concat
  rw [List.count_eq_zero.mpr hline] at hts
  rw [htokens]
  refine ⟨hts, fun t ht => ?_⟩
  exact line_eq_one_of_scan hline hts (List.mem_append_left _ ht)

/-- Further down, the same tokens are found, each on the line on which it is scanned. -/
theorem dropLast_itemsFrom_typed (hline : '\n' ∉ (typed line).toList)
    (h : ∃ ts, scan (typed line) = .ok ts) {number : Nat} (hnumber : 1 ≤ number) :
    (itemsFrom number (segments (typed line).toList)).dropLast =
      ((lineTokens line).map (Token.onLine number)).map .token := by
  obtain ⟨hscan, hone⟩ := scan_typed_eq hline h
  have hitems : itemsFrom 1 (segments (typed line).toList) =
      (lineTokens line ++ [Token.eof 1]).map .token := scan_eq_ok_iff.mp hscan
  obtain ⟨k, rfl⟩ := Nat.exists_eq_add_of_le hnumber
  rw [itemsFrom_add, hitems, List.map_append, List.map_append, List.map_singleton,
    List.map_singleton, List.dropLast_concat, List.map_map, List.map_map]
  refine List.map_congr_left fun t ht => ?_
  show Item.token { t with line := t.line + k } = .token { t with line := 1 + k }
  rw [hone t ht]

/-- A text of well-formed lines scans to the tokens of its lines. -/
theorem scan_eq_flatMap_inputLines {text : String}
    (h : ∀ line ∈ inputLines text, ∃ ts, scan (typed line) = .ok ts) :
    scan text = .ok (((inputLines text).zipIdx 1).flatMap (fun l =>
      (lineTokens l.1).map (Token.onLine l.2)) ++ [.eof (1 + text.toList.count '\n')]) := by
  have hclosed : ∀ l ∈ cutAfter (· == '\n') text.toList,
      ∀ s ∈ segments (trimLineEnd l), s.isOpen = false := by
    intro l hl s hs
    have hok := h (String.ofList l) (List.mem_map_of_mem hl)
    rw [scan, typed, String.toList_ofList, String.toList_ofList] at hok
    exact isOpen_of_isMalformed (exists_tokensFrom_eq_ok_iff.mp hok s hs)
  rw [scan_eq_ok_iff, items, itemsFrom_eq_flatMap_lines hclosed, List.map_append,
    List.map_flatMap, inputLines, List.zipIdx_map, List.flatMap_map]
  refine congrArg (· ++ _) (List.flatMap_congr fun l hl => ?_)
  obtain ⟨hnumber, -⟩ := List.mem_zipIdx hl
  have hmem : String.ofList l.1 ∈ inputLines text :=
    List.mem_map_of_mem (List.fst_mem_of_mem_zipIdx hl)
  have hfound := dropLast_itemsFrom_typed (newline_not_mem_of_mem_inputLines hmem)
    (h _ hmem) hnumber
  rwa [typed, String.toList_ofList, String.toList_ofList] at hfound

/-- **The prompt and a script agree.**  The input of a session is a text that is cut into lines.
If every line, without its end, scans to tokens, then so does the whole text, and its tokens are
those of its lines, one line after the other.  In the session each of them stands on line one,
in the text on the number of its line. -/
theorem prompt_agrees_with_script {input : List UInt8} {text : String}
    (htext : ofUtf8? input = some text) :
    ∃ lines : List String, (cutAfter (· == 10) input).map ofUtf8? = lines.map some ∧
      ((∀ line ∈ lines, ∃ ts, scan (typed line) = .ok ts) →
        (∀ line ∈ lines, scan (typed line) = .ok (lineTokens line ++ [.eof 1]) ∧
          ∀ t ∈ lineTokens line, t.line = 1) ∧
        scan text = .ok ((lines.zipIdx 1).flatMap (fun l =>
          (lineTokens l.1).map (Token.onLine l.2)) ++ [.eof (1 + text.toList.count '\n')])) := by
  refine ⟨inputLines text, map_ofUtf8?_cutAfter htext, fun h => ⟨?_, ?_⟩⟩
  · intro line hline
    exact scan_typed_eq (newline_not_mem_of_mem_inputLines hline) (h line hline)
  · exact scan_eq_flatMap_inputLines h

/-- A comment with carriage returns behind it, and a last line without a line feed. -/
theorem script_of_comment_and_string :
    ofUtf8? [97, 47, 47, 13, 13, 10, 34, 98, 34, 13] = some "a//\r\r\n\"b\"\r" ∧
      (∀ line ∈ ["a//\r\r\n", "\"b\"\r"], ∃ ts, scan (typed line) = .ok ts) ∧
      scan "a//\r\r\n\"b\"\r" =
        .ok ((["a//\r\r\n", "\"b\"\r"].zipIdx 1).flatMap (fun l =>
          (lineTokens l.1).map (Token.onLine l.2)) ++ [.eof 2]) := by
  have htext : ofUtf8? [97, 47, 47, 13, 13, 10, 34, 98, 34, 13] = some "a//\r\r\n\"b\"\r" := by
    decide +kernel
  have hscans : ∀ line ∈ ["a//\r\r\n", "\"b\"\r"], ∃ ts, scan (typed line) = .ok ts := by
    have ha : scan (typed "a//\r\r\n") =
        .ok [⟨.identifier, "a", some (.identifier "a"), 1⟩, .eof 1] := by decide +kernel
    have hb : scan (typed "\"b\"\r") =
        .ok [⟨.string, "\"b\"", some (.string "b"), 1⟩, .eof 1] := by decide +kernel
    simpa using ⟨⟨_, ha⟩, ⟨_, hb⟩⟩
  obtain ⟨lines, hlines, hagree⟩ := prompt_agrees_with_script htext
  have hcut : (cutAfter (· == 10) [97, 47, 47, 13, 13, 10, 34, 98, 34, 13]).map ofUtf8? =
      ["a//\r\r\n", "\"b\"\r"].map some := by decide +kernel
  obtain rfl : lines = ["a//\r\r\n", "\"b\"\r"] :=
    List.map_injective_iff.mpr (fun _ _ => Option.some.inj) (hlines.symm.trans hcut)
  exact ⟨htext, hscans, (hagree hscans).2⟩

end LoxScan

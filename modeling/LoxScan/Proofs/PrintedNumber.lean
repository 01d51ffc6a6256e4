import LoxScan.Proofs.DisplayedDouble
import LoxScan.Proofs.Newline
import LoxScan.Proofs.WellFormedToken

/-! # Printed numbers are number literals

A double that is written out without an exponent is displayed as a number literal: scanning what is
displayed gives one number token, with the displayed text as its lexeme and the double as its
value (`scan_display`).  So in a text the lexeme of a number may be replaced by what is displayed
for its value, and nothing else changes (`items_replace_display`).  The text around it is cut as
before, because every segment tells a digit from other characters, but not one digit from another
(`stopsLike_digits`). -/

namespace LoxScan

open Text Segment Rule

variable {c c' : Char} {cs rest rest' whole fraction whole' fraction' : List Char}

/-! ### One digit for another -/

/-- No operator is spelled with a digit. -/
theorem Operator.isDigit_of_mem_spelling {o : Operator} (h : c ∈ o.spelling) :
    c.isDigit = false := by
  have hall : (o.spelling.all fun d => !d.isDigit) = true := by
    cases o <;> decide
  simpa using List.all_eq_true.mp hall c h

/-- What would take in a digit would take in every other digit. -/
theorem Segment.GoesOn.of_isDigit {s : Segment} (h : s.GoesOn c') (hc : c.isDigit = true)
    (hc' : c'.isDigit = true) : s.GoesOn c := by
  cases s with
  | lineComment body =>
      rintro rfl
      cases hc
  | number whole fraction => exact hc
  | word name => exact isWordPart_of_isDigit hc
  | operator o =>
      rcases h with ⟨p, hp⟩ | ⟨-, rfl | rfl⟩
      · have hmem : c' ∈ p.spelling := by simp [hp]
        rw [Operator.isDigit_of_mem_spelling hmem] at hc'
        cases hc'
      · cases hc'
      · cases hc'
  | openString body | openComment body => trivial
  | _ => exact h

/-- **What ends before a digit ends before every text that begins with a digit.** -/
theorem stopsLike_digits (hc : c.isDigit = true) (hc' : c'.isDigit = true) :
    StopsLike (c :: rest) (c' :: rest') := by
  intro s _ h
  have hpoint : c' ≠ '.' := by
    rintro rfl
    cases hc'
  refine endsBefore_cons_iff.mpr ⟨fun hgoes => ?_, fun _ _ h => absurd h hpoint⟩
  exact (endsBefore_cons_iff.mp h).1 (hgoes.of_isDigit hc hc')

/-! ### Number literals -/

theorem text_number (h : IsDigits fraction) :
    (number whole fraction).text = whole ++ '.' :: fraction :=
  if_neg h.1

theorem wellFormed_number (hwhole : IsDigits whole) (hfraction : IsDigits fraction) :
    (number whole fraction).WellFormed :=
  ⟨hwhole.1, hwhole.2, hfraction.2⟩

/-- A number with digits behind its point ends wherever a number ends. -/
theorem endsBefore_number (hfraction : IsDigits fraction)
    (h : (number whole' fraction').EndsBefore rest) : (number whole fraction).EndsBefore rest := by
  obtain ⟨d, ds, rfl⟩ := List.exists_cons_of_ne_nil hfraction.1
  cases fraction' with
  | nil => exact h.1
  | cons => exact h

theorem head_text_number (h : (number whole fraction).WellFormed) :
    ∃ c cs, (number whole fraction).text = c :: cs ∧ c.isDigit = true := by
  obtain ⟨hne, hwhole, -⟩ := h
  obtain ⟨c, cs, rfl⟩ := List.exists_cons_of_ne_nil hne
  have hc := hwhole c List.mem_cons_self
  by_cases hfraction : fraction = []
  · exact ⟨c, cs, if_pos hfraction, hc⟩
  · exact ⟨c, cs ++ '.' :: fraction, if_neg hfraction, hc⟩

/-- A number stands on one line. -/
theorem lineFeeds_number (h : (number whole fraction).WellFormed) :
    (number whole fraction).lineFeeds = 0 := by
  obtain ⟨-, hwhole, hfraction⟩ := h
  have hdigits : ∀ digits : List Char, (∀ c ∈ digits, c.isDigit = true) → '\n' ∉ digits := by
    intro digits h hmem
    cases h '\n' hmem
  apply List.count_eq_zero.mpr
  rw [text]
  split
  · exact hdigits whole hwhole
  · simp [hdigits whole hwhole, hdigits fraction hfraction]

/-- The items of a text in which a number stands: those before it, its token, and those behind. -/
theorem itemsFrom_number {before after : List Segment} (h : (number whole fraction).WellFormed) :
    itemsFrom 1 (before ++ number whole fraction :: after) =
      (itemsFrom 1 before).dropLast ++
        .token ⟨.number, (number whole fraction).lexeme,
          some (.number (.ofDecimal false (.ofDigits whole fraction))),
          1 + (before.flatMap text).count '\n'⟩ ::
        itemsFrom (1 + (before.flatMap text).count '\n') after := by
  rw [itemsFrom_append, itemsFrom, lineFeeds_number h, Nat.add_zero]
  rfl

/-- **What is displayed is scanned as one number.** -/
theorem scan_display {n : Double} (h : n.IsWrittenOut) :
    scan n.display = .ok [⟨.number, n.display, some (.number n), 1⟩, .eof 1] := by
  obtain ⟨whole, fraction, htext, hwhole, hfraction, hvalue⟩ := h.exists_display_eq
  have hs := wellFormed_number hwhole hfraction
  have hcut : segments n.display.toList = [] ++ [number whole fraction] :=
    segments_eq_iff.mpr ⟨.cons hs (endsBefore_nil _) .nil, by
      rw [htext, String.toList_ofList, List.nil_append, List.flatMap_singleton,
        text_number hfraction]⟩
  rw [scan_eq_ok_iff, items, hcut, itemsFrom_number hs, Segment.lexeme, text_number hfraction,
    ← htext, ← hvalue]
  rfl

/-! ### Replacing a number -/

/-- The text with another text in the place of the extent. -/
def Extent.replace (e : Extent) (source text : String) : String :=
  String.ofList (source.toList.take e.start ++ text.toList ++ source.toList.drop e.stop)

/-- A segment with the value of a number is a number. -/
theorem exists_number_of_item? {s : Segment} {line : Nat} {t : Token} {n : Double}
    (hitem : s.item? line = some (.token t)) (hliteral : t.literal? = some (.number n)) :
    ∃ whole fraction, s = number whole fraction := by
  cases s <;> cases hitem
  case number whole fraction => exact ⟨whole, fraction, rfl⟩
  case word name =>
    rw [wordToken] at hliteral
    split at hliteral <;> cases hliteral
  all_goals cases hliteral

/-- A number may be exchanged for another one in a row of segments. -/
theorem Segment.Tiling.exchange_number {before after : List Segment}
    (h : Tiling (before ++ number whole' fraction' :: after)) (hwhole : IsDigits whole)
    (hfraction : IsDigits fraction) : Tiling (before ++ number whole fraction :: after) := by
  -- The number and what is behind it are a tiling by themselves.
  have hrow : segments ((before ++ number whole' fraction' :: after).flatMap text) =
      before ++ number whole' fraction' :: after := h.segments_flatMap_text
  have hbehind : Tiling (number whole' fraction' :: after) :=
    (segments_eq_iff.mp (segments_flatMap_text_of_append hrow)).1
  obtain ⟨hs', hends, hafter⟩ := tiling_cons_iff.mp hbehind
  have hs := wellFormed_number hwhole hfraction
  refine h.exchange (h.isOpen_eq_false (List.cons_ne_nil _ _))
    (.cons hs (endsBefore_number hfraction hends) hafter) ?_
  obtain ⟨c, cs, htext, hc⟩ := head_text_number hs'
  obtain ⟨c', cs', htext', hc'⟩ := head_text_number hs
  rw [List.flatMap_cons, List.flatMap_cons, htext, htext', List.cons_append, List.cons_append]
  exact stopsLike_digits hc hc'

/-- **A number may be replaced by what is displayed for its value.**  The items of the text stay
what they are, but for the lexeme of the number. -/
theorem items_replace_display {source : String} {e : Extent} {t : Token} {n : Double}
    (he : e ∈ extents source) (hitem : e.item? = some (.token t))
    (hliteral : t.literal? = some (.number n)) (h : n.IsWrittenOut) :
    ∃ before after, items source = before ++ .token t :: after ∧
      items (e.replace source n.display) =
        before ++ .token { t with lexeme := n.display } :: after := by
  obtain ⟨before, s, after, hcut, rfl⟩ := mem_extents_iff.mp he
  obtain ⟨whole', fraction', rfl⟩ := exists_number_of_item? hitem hliteral
  obtain ⟨whole, fraction, htext, hwhole, hfraction, hvalue⟩ := h.exists_display_eq
  have htiling : Tiling (before ++ number whole' fraction' :: after) :=
    (segments_eq_iff.mp hcut).1
  have hs' := htiling.wellFormed_of_mem (s := number whole' fraction') (by simp)
  have hs := wellFormed_number hwhole hfraction
  have hlexeme : (number whole fraction).lexeme = n.display := by
    rw [Segment.lexeme, text_number hfraction, htext]
  have hreplaced : segments (Extent.replace ⟨(before.flatMap text).length,
      (before.flatMap text).length + (number whole' fraction').text.length,
      (number whole' fraction').item? (1 + (before.flatMap text).count '\n')⟩ source
        n.display).toList = before ++ number whole fraction :: after := by
    -- The text around the number is that of the segments before and behind it.
    refine segments_eq_iff.mpr ⟨htiling.exchange_number hwhole hfraction, ?_⟩
    rw [Extent.replace, String.toList_ofList, toList_of_segments hcut, ← List.length_append,
      List.drop_left, List.append_assoc (before.flatMap text), List.take_left, ← hlexeme,
      Segment.lexeme, String.toList_ofList, List.flatMap_append, List.flatMap_cons,
      List.append_assoc]
  refine ⟨(itemsFrom 1 before).dropLast,
    itemsFrom (1 + (before.flatMap text).count '\n') after, ?_, ?_⟩
  · rw [items, hcut, itemsFrom_number hs']
    cases hitem
    rfl
  · rw [items, hreplaced, itemsFrom_number hs, hlexeme]
    cases hitem
    cases hliteral
    rw [← hvalue]

/-! ### Printing and reading -/

/-- **Printed numbers read back.**  What is printed for a number is a numeral that rounds to this
number, bit for bit, so different numbers are printed differently, and the numeral is as short as
it can be.  For zero and for the numbers from `10 ^ (-4)` up to `10 ^ 16` it is a number literal,
which scans to one token with the number as its value; and it may take the place of every other
lexeme of the number, of which neither the value nor what is printed for it changes. -/
theorem printed_numbers_read_back :
    (∀ n : Double, n.isNaN = false →
      ∃ x, Numeral.ofText? (Literal.number n).display.toList = some x ∧ Double.IsShortestNumeral x n) ∧
    (∀ a b : Double, a.isNaN = false → b.isNaN = false →
      (Literal.number a).display = (Literal.number b).display → a = b) ∧
    ∀ n : Double, n.IsWrittenOut →
      (∃ whole fraction, IsDigits whole ∧ IsDigits fraction ∧
        (Literal.number n).display = String.ofList (whole ++ '.' :: fraction)) ∧
      scan (Literal.number n).display =
        .ok [⟨.number, (Literal.number n).display, some (.number n), 1⟩, .eof 1] ∧
      ∀ (source : String) (e : Extent) (t : Token), e ∈ extents source →
        e.item? = some (.token t) → t.literal? = some (.number n) →
        ∃ before after, items source = before ++ .token t :: after ∧
          items (e.replace source (Literal.number n).display) =
            before ++ .token { t with lexeme := (Literal.number n).display } :: after := by
  refine ⟨fun n => Double.exists_reads_display, fun a b => Double.display_injective,
    fun n hn => ⟨?_, scan_display hn, fun source e t he hitem hliteral => ?_⟩⟩
  · obtain ⟨whole, fraction, htext, hwhole, hfraction, -⟩ := hn.exists_display_eq
    exact ⟨whole, fraction, hwhole, hfraction, htext⟩
  · exact items_replace_display he hitem hliteral hn

/-- In `x=2.50;` the number is printed without its last zero, and may be written so. -/
theorem printed_number_in_text :
    (Double.ofDecimal false ⟨25, -1⟩).isNaN = false ∧
      (∃ x, Numeral.ofText? (Literal.number (.ofDecimal false ⟨25, -1⟩)).display.toList = some x ∧
        Double.IsShortestNumeral x (.ofDecimal false ⟨25, -1⟩)) ∧
      (Double.ofDecimal false ⟨25, -1⟩).IsWrittenOut ∧
      scan "2.5" = .ok [⟨.number, "2.5", some (.number (.ofDecimal false ⟨25, -1⟩)), 1⟩, .eof 1] ∧
      ∃ before after, items "x=2.50;" = before ++
          .token ⟨.number, "2.50", some (.number (.ofDecimal false ⟨25, -1⟩)), 1⟩ :: after ∧
        items "x=2.5;" = before ++
          .token ⟨.number, "2.5", some (.number (.ofDecimal false ⟨25, -1⟩)), 1⟩ :: after := by
  obtain ⟨hreads, -, hwritten⟩ := printed_numbers_read_back
  have hmagnitude : (Double.ofDecimal false ⟨25, -1⟩).magnitude = 0x4004000000000000 := by
    decide +kernel
  have hvalue : (Double.ofDecimal false ⟨25, -1⟩).value = 5 / 2 := by
    rw [Double.value_of_not_negative rfl, hmagnitude]
    norm_num [Double.magnitudeValue]
  have hfinite : (Double.ofDecimal false ⟨25, -1⟩).isFinite = true := by decide +kernel
  have hout : (Double.ofDecimal false ⟨25, -1⟩).IsWrittenOut :=
    ⟨rfl, hfinite, .inr (by rw [hvalue]; norm_num)⟩
  have hnumber := Double.isNaN_ofDecimal false ⟨25, -1⟩
  have hdisplay : (Literal.number (.ofDecimal false ⟨25, -1⟩)).display = "2.5" := by
    decide +kernel
  obtain ⟨-, hscan, hreplace⟩ := hwritten _ hout
  rw [hdisplay] at hscan hreplace
  have he : ⟨2, 6, some (.token ⟨.number, "2.50",
      some (.number (.ofDecimal false ⟨25, -1⟩)), 1⟩)⟩ ∈ extents "x=2.50;" := by
    decide +kernel
  have hitems := hreplace "x=2.50;" _ _ he rfl rfl
  have htext : (⟨2, 6, some (.token ⟨.number, "2.50",
      some (.number (.ofDecimal false ⟨25, -1⟩)), 1⟩)⟩ : Extent).replace "x=2.50;" "2.5" =
        "x=2.5;" := by
    decide
  rw [htext] at hitems
  exact ⟨hnumber, hreads _ hnumber, hout, hscan, hitems⟩

end LoxScan

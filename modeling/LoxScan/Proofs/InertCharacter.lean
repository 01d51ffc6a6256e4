import LoxScan.Proofs.Extent
import LoxScan.Proofs.Lookahead
import LoxScan.Segment.Characters

/-! # Characters that mean nothing

No rule of the grammar speaks of an at sign, of an arrow or of the character with code point
zero.  Such a character is **inert**: it may stand in a string or a comment, and anywhere else
it is unexpected.  Which inert character it is makes no difference, so exchanging inert
characters for others commutes with scanning (`items_mapText`).  In particular no inert
character is taken for the end of the text: everything ends where it ended before, and the
character with code point zero is one of those that may come in.

An exchange cannot be seen by the rules: a class that holds of no inert character holds of the
same places as before (`ExchangesInert.class_eq`), and so a tiling stays a tiling
(`Segment.Tiling.map_mapText`). -/

namespace LoxScan

namespace Text

/-- The characters that a rule of the grammar names. -/
def named : List Char :=
  ['(', ')', '\x7b', '\x7d', ',', '.', '-', '+', ';', '*', '/', '!', '=', '<', '>', '_', '"', ' ',
   '\t', '\r', '\n']

/-- The character is in no class of the grammar, and no rule names it. -/
def isInert (c : Char) : Bool := !isAlphabetic c && !isNumeric c && !named.contains c

/-- The function exchanges inert characters for inert ones and leaves the others alone. -/
structure ExchangesInert (f : Char → Char) : Prop where
  inert : ∀ c, isInert c = true → isInert (f c) = true
  fixed : ∀ c, isInert c = false → f c = c

variable {c d : Char} {cs : List Char} {f : Char → Char}

/-! ### What an inert character is not -/

theorem isInert_iff :
    isInert c = true ↔ isAlphabetic c = false ∧ isNumeric c = false ∧ c ∉ named := by
  simp [isInert, and_assoc]

theorem isInert_of_mem_named (h : c ∈ named) : isInert c = false := by
  simp [isInert, h]

theorem isWordPart_of_isInert (h : isInert c = true) : isWordPart c = false := by
  obtain ⟨halphabetic, hnumeric, hnamed⟩ := isInert_iff.mp h
  have hunderscore : c ≠ '_' := by
    rintro rfl
    exact hnamed (by decide)
  simp [isWordPart, halphabetic, hnumeric, hunderscore]

theorem isInert_of_isWordPart (h : isWordPart c = true) : isInert c = false := by
  apply Bool.eq_false_iff.mpr
  intro hinert
  rw [isWordPart_of_isInert hinert] at h
  cases h

/-- An inert character is in no class of word parts. -/
theorem eq_false_of_isInert {p : Char → Bool} (hp : ∀ d, p d = true → isWordPart d = true)
    (h : isInert c = true) : p c = false := by
  apply Bool.eq_false_iff.mpr
  intro hclass
  have hpart := hp c hclass
  rw [isWordPart_of_isInert h] at hpart
  cases hpart

theorem isWordStart_of_isInert (h : isInert c = true) : isWordStart c = false :=
  eq_false_of_isInert (fun _ => isWordPart_of_isWordStart) h

theorem isDigit_of_isInert (h : isInert c = true) : c.isDigit = false :=
  eq_false_of_isInert (fun _ => isWordPart_of_isDigit) h

theorem isInert_of_isBlank (h : isBlank c = true) : isInert c = false := by
  apply isInert_of_mem_named
  rcases isBlank_iff.mp h with rfl | rfl | rfl | rfl <;> decide

/-- Operators are spelled with named characters. -/
theorem isInert_of_mem_spelling {o : Operator} (h : c ∈ o.spelling) : isInert c = false := by
  have hall : (o.spelling.all fun d => named.contains d) = true := by
    cases o <;> decide
  exact isInert_of_mem_named (List.contains_iff_mem.mp (List.all_eq_true.mp hall c h))

theorem ne_of_isInert (h : isInert c = true) (hd : isInert d = false) : c ≠ d := by
  rintro rfl
  rw [h] at hd
  cases hd

/-! ### What an exchange keeps -/

namespace ExchangesInert

/-- **An exchange is not seen by a class** that holds of no inert character. -/
theorem class_eq (hf : ExchangesInert f) {p : Char → Bool}
    (hp : ∀ d, isInert d = true → p d = false) (c : Char) : p (f c) = p c := by
  cases h : isInert c with
  | false => rw [hf.fixed c h]
  | true => rw [hp c h, hp (f c) (hf.inert c h)]

/-- A character that is not inert stays where it is, and no other becomes one. -/
theorem eq_iff (hf : ExchangesInert f) (hd : isInert d = false) : f c = d ↔ c = d := by
  have hclass := hf.class_eq (p := (· == d))
    (fun e he => beq_eq_false_iff_ne.mpr (ne_of_isInert he hd)) c
  rw [← beq_iff_eq, hclass, beq_iff_eq]

theorem fixed_of_mem_named (hf : ExchangesInert f) (h : c ∈ named) : f c = c :=
  hf.fixed c (isInert_of_mem_named h)

theorem map_eq_self (hf : ExchangesInert f) (h : ∀ c ∈ cs, isInert c = false) : cs.map f = cs := by
  induction cs with
  | nil => rfl
  | cons c cs ih =>
      rw [List.map_cons, hf.fixed c (h c List.mem_cons_self),
        ih fun d hd => h d (List.mem_cons_of_mem c hd)]

theorem mem_map_iff (hf : ExchangesInert f) (hd : isInert d = false) : d ∈ cs.map f ↔ d ∈ cs := by
  simp [hf.eq_iff hd]

/-- No line feed comes or goes. -/
theorem count_newline_map (hf : ExchangesInert f) (cs : List Char) :
    (cs.map f).count '\n' = cs.count '\n' := by
  have hnewline : isInert '\n' = false := isInert_of_mem_named (by decide)
  induction cs with
  | nil => rfl
  | cons c cs ih => simp only [List.map_cons, List.count_cons, ih, beq_iff_eq, hf.eq_iff hnewline]

end ExchangesInert
end Text

open Text

/-! ### Items with exchanged characters -/

/-- The value with the characters of its text exchanged; a number has none. -/
def Literal.mapText (f : Char → Char) : Literal → Literal
  | number value => number value
  | string text => string (text.map f)
  | identifier name => identifier (name.map f)

/-- The token with the characters of its lexeme and its value exchanged. -/
def Token.mapText (f : Char → Char) (t : Token) : Token :=
  { t with lexeme := t.lexeme.map f, literal? := t.literal?.map (Literal.mapText f) }

/-- The error with the character it reports exchanged. -/
def ScanError.mapText (f : Char → Char) : ScanError → ScanError
  | ⟨line, .unexpectedCharacter c⟩ => ⟨line, .unexpectedCharacter (f c)⟩
  | e => e

def Item.mapText (f : Char → Char) : Item → Item
  | token t => token (t.mapText f)
  | error e => error (e.mapText f)

/-- The extent with the characters of its item exchanged. -/
def Extent.mapText (f : Char → Char) (e : Extent) : Extent :=
  { e with item? := e.item?.map (Item.mapText f) }

namespace Segment

/-- The segment with the characters exchanged that may be inert. -/
def mapText (f : Char → Char) : Segment → Segment
  | lineComment body => lineComment (body.map f)
  | blockComment body => blockComment (body.map f)
  | string value => string (value.map f)
  | unexpected c => unexpected (f c)
  | openString body => openString (body.map f)
  | openComment body => openComment (body.map f)
  | s => s

variable {s : Segment} {ss : List Segment} {c : Char} {rest : List Char} {f : Char → Char}

/-! ### One segment -/

/-- A number, a word or an operator holds no inert character. -/
theorem isInert_of_mem_text (hplain : s.isPlain = true) (hs : s.WellFormed) (hc : c ∈ s.text) :
    isInert c = false := by
  rcases isWordPart_or_mem_spelling hplain hs hc with hpart | ⟨o, ho⟩
  · exact isInert_of_isWordPart hpart
  · exact isInert_of_mem_spelling ho

theorem text_mapText (hf : ExchangesInert f) (hs : s.WellFormed) :
    (s.mapText f).text = s.text.map f := by
  have hquote : f '"' = '"' := hf.fixed_of_mem_named (by decide)
  have hslash : f '/' = '/' := hf.fixed_of_mem_named (by decide)
  have hstar : f '*' = '*' := hf.fixed_of_mem_named (by decide)
  cases s with
  | blank c => simp [mapText, text, hf.fixed c (isInert_of_isBlank hs)]
  | number | word | operator =>
      exact (hf.map_eq_self fun c hc => isInert_of_mem_text rfl hs hc).symm
  | _ => simp [mapText, text, hquote, hslash, hstar]

theorem lexeme_mapText (hf : ExchangesInert f) (hs : s.WellFormed) :
    (s.mapText f).lexeme = s.lexeme.map f := by
  apply String.toList_injective
  rw [lexeme, lexeme, String.toList_ofList, String.toList_map, String.toList_ofList,
    text_mapText hf hs]

theorem lineFeeds_mapText (hf : ExchangesInert f) (hs : s.WellFormed) :
    (s.mapText f).lineFeeds = s.lineFeeds := by
  rw [lineFeeds, text_mapText hf hs, hf.count_newline_map, lineFeeds]

/-- An exchange writes no closing mark. -/
theorem not_infix_map (hf : ExchangesInert f) {body : List Char} (h : ¬ commentEnd <:+: body) :
    ¬ commentEnd <:+: body.map f := by
  intro hin
  obtain ⟨mark, hmark, heq⟩ := List.infix_map_iff.mp hin
  -- The mark was there before, as its two characters are not inert.
  have hfixed : mark.map f = mark := by
    apply hf.map_eq_self
    intro c hc
    apply Bool.eq_false_iff.mpr
    intro hinert
    have hmem : f c ∈ commentEnd := heq ▸ List.mem_map_of_mem hc
    have hnamed : (commentEnd.all fun d => named.contains d) = true := by decide
    have hno := isInert_of_mem_named
      (List.contains_iff_mem.mp (List.all_eq_true.mp hnamed (f c) hmem))
    rw [hf.inert c hinert] at hno
    cases hno
  rw [heq, hfixed] at h
  exact h hmark

/-- An inert character that stands alone is unexpected. -/
theorem wellFormed_unexpected_of_isInert (h : isInert c = true) : (unexpected c).WellFormed := by
  refine ⟨?_, ?_, isDigit_of_isInert h, isWordStart_of_isInert h, ?_⟩
  · apply Bool.eq_false_iff.mpr
    intro hblank
    rw [isInert_of_isBlank hblank] at h
    cases h
  · exact ne_of_isInert h (isInert_of_mem_named (by decide))
  · intro o ho
    have hmem : c ∈ o.spelling := ho ▸ List.mem_singleton_self c
    rw [isInert_of_mem_spelling hmem] at h
    cases h

theorem wellFormed_mapText (hf : ExchangesInert f) (hs : s.WellFormed) :
    (s.mapText f).WellFormed := by
  have hquote : isInert '"' = false := isInert_of_mem_named (by decide)
  have hnewline : isInert '\n' = false := isInert_of_mem_named (by decide)
  cases s with
  | lineComment body => exact fun h => hs ((hf.mem_map_iff hnewline).mp h)
  | string value => exact fun h => hs ((hf.mem_map_iff hquote).mp h)
  | openString body => exact fun h => hs ((hf.mem_map_iff hquote).mp h)
  | blockComment body => exact not_infix_map hf hs
  | openComment body => exact not_infix_map hf hs
  | unexpected c =>
      cases h : isInert c with
      | false => rwa [mapText, hf.fixed c h]
      | true => exact wellFormed_unexpected_of_isInert (hf.inert c h)
  | _ => exact hs

/-- Of all segments, only a line comment and what is open go on with an inert character. -/
theorem goesOn_mapText (hf : ExchangesInert f) : (s.mapText f).GoesOn (f c) ↔ s.GoesOn c := by
  cases s with
  | lineComment body =>
      have hnewline : isInert '\n' = false := isInert_of_mem_named (by decide)
      exact not_congr (hf.eq_iff hnewline)
  | number whole fraction =>
      show (f c).isDigit = true ↔ c.isDigit = true
      rw [hf.class_eq (fun d hd => isDigit_of_isInert hd)]
  | word name =>
      show isWordPart (f c) = true ↔ isWordPart c = true
      rw [hf.class_eq (fun d hd => isWordPart_of_isInert hd)]
  | operator o =>
      have hslash : isInert '/' = false := isInert_of_mem_named (by decide)
      have hstar : isInert '*' = false := isInert_of_mem_named (by decide)
      have hlonger (d : Char) (hd : isInert d = true) :
          ¬ ∃ p : Operator, p.spelling = o.spelling ++ [d] := by
        rintro ⟨p, hp⟩
        have hmem : d ∈ p.spelling := by simp [hp]
        rw [isInert_of_mem_spelling hmem] at hd
        cases hd
      refine or_congr ?_ (and_congr_right fun _ => or_congr (hf.eq_iff hslash) (hf.eq_iff hstar))
      cases h : isInert c with
      | false => rw [hf.fixed c h]
      | true => exact iff_of_false (hlonger (f c) (hf.inert c h)) (hlonger c h)
  | _ => exact Iff.rfl

theorem endsBefore_mapText (hf : ExchangesInert f) (h : s.EndsBefore rest) :
    (s.mapText f).EndsBefore (rest.map f) := by
  cases rest with
  | nil => exact endsBefore_nil _
  | cons c rest =>
      obtain ⟨hstops, hpoint⟩ := endsBefore_cons_iff.mp h
      refine endsBefore_cons_iff.mpr ⟨mt (goesOn_mapText hf).mp hstops, ?_⟩
      intro whole hwhole hc d hd
      have hs : s = number whole [] := by
        cases s <;> cases hwhole
        rfl
      have hdot : isInert '.' = false := isInert_of_mem_named (by decide)
      have hrest := hpoint whole hs ((hf.eq_iff hdot).mp hc)
      rw [List.head?_map, Option.map_eq_some_iff] at hd
      obtain ⟨e, he, rfl⟩ := hd
      rw [hf.class_eq (fun d hd => isDigit_of_isInert hd), hrest e he]

/-- A word is fixed, and so is the token made of it. -/
theorem mapText_wordToken (hf : ExchangesInert f) {name : List Char} (hs : (word name).WellFormed)
    (line : Nat) : (wordToken name line).mapText f = wordToken name line := by
  have hname : (String.ofList name).map f = String.ofList name := (lexeme_mapText hf hs).symm
  simp only [wordToken]
  split <;> simp [Token.mapText, Literal.mapText, hname]

theorem item?_mapText (hf : ExchangesInert f) (hs : s.WellFormed) (line : Nat) :
    (s.mapText f).item? line = (s.item? line).map (Item.mapText f) := by
  have hlexeme := lexeme_mapText hf hs
  have hfeeds := lineFeeds_mapText hf hs
  cases s with
  | blank | lineComment | blockComment | unexpected => rfl
  | string value =>
      have hvalue : String.ofList (value.map f) = (String.ofList value).map f := by
        apply String.toList_injective
        simp
      rw [mapText] at hlexeme
      simp [mapText, item?, Item.mapText, Token.mapText, Literal.mapText, hlexeme, hvalue]
  | number whole fraction =>
      have hself : (number whole fraction).mapText f = number whole fraction := rfl
      rw [hself] at hlexeme ⊢
      simp [item?, Item.mapText, Token.mapText, Literal.mapText, ← hlexeme]
  | operator o =>
      have hself : (operator o).mapText f = operator o := rfl
      rw [hself] at hlexeme ⊢
      simp [item?, Item.mapText, Token.mapText, ← hlexeme]
  | word name => simp [mapText, item?, Item.mapText, mapText_wordToken hf hs]
  | openString | openComment =>
      rw [mapText] at hfeeds
      simp [mapText, item?, Item.mapText, ScanError.mapText, hfeeds]

/-! ### A row of segments -/

theorem Tiling.flatMap_text_mapText (hf : ExchangesInert f) (h : Tiling ss) :
    (ss.map (Segment.mapText f)).flatMap text = (ss.flatMap text).map f := by
  induction h with
  | nil => rfl
  | cons hs _ _ ih =>
      rw [List.map_cons, List.flatMap_cons, List.flatMap_cons, List.map_append, ih,
        text_mapText hf hs]

/-- **Exchanging inert characters makes a tiling of a tiling.** -/
theorem Tiling.map_mapText (hf : ExchangesInert f) (h : Tiling ss) :
    Tiling (ss.map (Segment.mapText f)) := by
  induction h with
  | nil => exact .nil
  | cons hs hends hss ih =>
      refine .cons (wellFormed_mapText hf hs) ?_ ih
      rw [hss.flatMap_text_mapText hf]
      exact endsBefore_mapText hf hends

theorem itemsFrom_map_mapText (hf : ExchangesInert f) (h : Tiling ss) (line : Nat) :
    itemsFrom line (ss.map (Segment.mapText f)) = (itemsFrom line ss).map (Item.mapText f) := by
  induction h generalizing line with
  | nil => simp [itemsFrom, Item.mapText, Token.mapText, Token.eof]
  | @cons s ss hs _ _ ih =>
      rw [List.map_cons, itemsFrom, itemsFrom, List.map_append, ih, lineFeeds_mapText hf hs,
        item?_mapText hf hs]
      cases s.item? line <;> rfl

theorem extentsFrom_map_mapText (hf : ExchangesInert f) (h : Tiling ss) (start line : Nat) :
    extentsFrom start line (ss.map (Segment.mapText f)) =
      (extentsFrom start line ss).map (Extent.mapText f) := by
  induction h generalizing start line with
  | nil => rfl
  | @cons s ss hs _ _ ih =>
      have hlength : (s.mapText f).text.length = s.text.length := by
        rw [text_mapText hf hs, List.length_map]
      rw [List.map_cons, extentsFrom, extentsFrom, List.map_cons, ih, hlength,
        lineFeeds_mapText hf hs, item?_mapText hf hs, Extent.mapText]

theorem segments_map (hf : ExchangesInert f) (cs : List Char) :
    segments (cs.map f) = (segments cs).map (Segment.mapText f) := by
  have ht := tiling_segments cs
  refine segments_eq_iff.mpr ⟨ht.map_mapText hf, ?_⟩
  rw [ht.flatMap_text_mapText hf, flatMap_text_segments]

end Segment

/-! ### The whole text -/

/-- **Which inert character stands at a place makes no difference.**  Where inert characters are
exchanged for inert ones, scanning cuts the text at the same places and finds the same items,
with the characters exchanged in lexemes, values and reports.  The character with code point
zero is inert. -/
theorem items_mapText {f : Char → Char} (hf : ExchangesInert f) (source : String) :
    isInert '\x00' = true ∧
      items (source.map f) = (items source).map (Item.mapText f) ∧
      extents (source.map f) = (extents source).map (Extent.mapText f) := by
  have ht := Segment.tiling_segments source.toList
  refine ⟨by decide +kernel, ?_, ?_⟩
  · rw [items, String.toList_map, Segment.segments_map hf, Segment.itemsFrom_map_mapText hf ht,
      items]
  · rw [extents, String.toList_map, Segment.segments_map hf, Segment.extentsFrom_map_mapText hf ht,
      extents]

/-- An at sign for the character with code point zero. -/
def zeroAsAt (c : Char) : Char := if c = '\x00' then '@' else c

theorem exchangesInert_zeroAsAt : ExchangesInert zeroAsAt where
  inert c h := by
    by_cases hzero : c = '\x00'
    · rw [zeroAsAt, if_pos hzero]
      decide +kernel
    · rwa [zeroAsAt, if_neg hzero]
  fixed c h := by
    have hzero : isInert '\x00' = true := by decide +kernel
    rw [zeroAsAt, if_neg (ne_of_isInert hzero h).symm]

/-- The character with code point zero ends neither a string nor a comment, and where it is
unexpected it is reported. -/
theorem items_with_zeros :
    ExchangesInert zeroAsAt ∧
      "\"\x00\"//\x00\n/*\x00*/\x00".map zeroAsAt = "\"@\"//@\n/*@*/@" ∧
      items "\"@\"//@\n/*@*/@" =
        (items "\"\x00\"//\x00\n/*\x00*/\x00").map (Item.mapText zeroAsAt) := by
  have htext : "\"\x00\"//\x00\n/*\x00*/\x00".map zeroAsAt = "\"@\"//@\n/*@*/@" := by
    decide +kernel
  have hitems := (items_mapText exchangesInert_zeroAsAt "\"\x00\"//\x00\n/*\x00*/\x00").2.1
  rw [htext] at hitems
  exact ⟨exchangesInert_zeroAsAt, htext, hitems⟩

end LoxScan

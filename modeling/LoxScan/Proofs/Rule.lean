import LoxScan.Scan
import LoxScan.Proofs.Lookahead

/-! # The rules of the lexical grammar

A rule says which texts are lexemes of one sort, and nothing about what may follow them.
Blanks, the two sorts of comments, operators, strings, numbers and words have a rule each;
the malformed segments have none.

The rules and the segments describe the same texts (`matches_iff`), and no text follows two
rules (`eq_of_matches`).  The second does not need the rules to be compared in pairs: a
text that is one segment is cut in one way only, with nothing behind it. -/

namespace LoxScan

open Text Segment

/-- The rules of the lexical grammar. -/
inductive Rule where
  | blank
  | lineComment
  | blockComment
  | operator (o : Operator)
  | string
  | number
  | word
  deriving DecidableEq

namespace Rule

/-- A row of ASCII digits, at least one. -/
def IsDigits (cs : List Char) : Prop := cs ≠ [] ∧ ∀ c ∈ cs, c.isDigit = true

/-- The texts of each rule. -/
def Matches : Rule → List Char → Prop
  | blank, cs => cs = [' '] ∨ cs = ['\t'] ∨ cs = ['\r'] ∨ cs = ['\n']
  | lineComment, cs => ∃ body, cs = '/' :: '/' :: body ∧ '\n' ∉ body
  | blockComment, cs => ∃ body, cs = '/' :: '*' :: (body ++ commentEnd) ∧ ¬ commentEnd <:+: body
  | operator o, cs => cs = o.spelling
  | string, cs => ∃ value, cs = '"' :: (value ++ ['"']) ∧ '"' ∉ value
  | number, cs =>
      IsDigits cs ∨
        ∃ whole fraction, cs = whole ++ '.' :: fraction ∧ IsDigits whole ∧ IsDigits fraction
  | word, cs =>
      ∃ c name, cs = c :: name ∧ (isAlphabetic c = true ∨ c = '_') ∧
        ∀ d ∈ name, isAlphabetic d = true ∨ isNumeric d = true ∨ d = '_'

/-- The kind of the tokens that a rule makes of its texts; blanks and comments make none. -/
def kind? : Rule → List Char → Option Kind
  | blank, _ | lineComment, _ | blockComment, _ => none
  | operator o, _ => some (.operator o)
  | string, _ => some .string
  | number, _ => some .number
  | word, cs =>
      some (((Keyword.ofSpelling? (String.ofList cs)).map Kind.keyword).getD .identifier)

/-- What is found for a lexeme is what its rule makes of it: nothing, or a token of the
right kind that carries the lexeme. -/
def Treats (r : Rule) (lexeme : List Char) (found : Option Item) : Prop :=
  match r.kind? lexeme with
  | none => found = none
  | some k => ∃ t, found = some (.token t) ∧ t.kind = k ∧ t.lexeme = String.ofList lexeme

/-- The rule of a segment. -/
def ofSegment? : Segment → Option Rule
  | .blank _ => some blank
  | .lineComment _ => some lineComment
  | .blockComment _ => some blockComment
  | .operator o => some (operator o)
  | .string _ => some string
  | .number _ _ => some number
  | .word _ => some word
  | .unexpected _ | .openString _ | .openComment _ => none

variable {r : Rule} {cs : List Char} {s : Segment}

/-! ### Rules and segments -/

theorem exists_segment_of_matches (h : r.Matches cs) :
    ∃ s, ofSegment? s = some r ∧ s.WellFormed ∧ s.text = cs := by
  cases r with
  | blank =>
      rcases h with rfl | rfl | rfl | rfl <;>
        exact ⟨.blank _, rfl, isBlank_iff.mpr (by decide), rfl⟩
  | lineComment =>
      obtain ⟨body, rfl, hbody⟩ := h
      exact ⟨.lineComment body, rfl, hbody, rfl⟩
  | blockComment =>
      obtain ⟨body, rfl, hbody⟩ := h
      exact ⟨.blockComment body, rfl, hbody, rfl⟩
  | operator o => exact ⟨.operator o, rfl, trivial, h.symm⟩
  | string =>
      obtain ⟨value, rfl, hvalue⟩ := h
      exact ⟨.string value, rfl, hvalue, rfl⟩
  | number =>
      rcases h with ⟨hne, hdigits⟩ | ⟨whole, fraction, rfl, hwhole, hfraction⟩
      · exact ⟨.number cs [], rfl, ⟨hne, hdigits, by simp⟩, rfl⟩
      · refine ⟨.number whole fraction, rfl, ⟨hwhole.1, hwhole.2, hfraction.2⟩, ?_⟩
        simp [text, hfraction.1]
  | word =>
      obtain ⟨c, name, rfl, hc, hname⟩ := h
      refine ⟨.word (c :: name), rfl, ⟨c, name, rfl, ?_, ?_⟩, rfl⟩
      · simpa [isWordStart, or_comm] using hc
      · intro d hd
        simpa [isWordPart, or_assoc, or_comm, or_left_comm] using hname d hd

theorem matches_text (hr : ofSegment? s = some r) (hs : s.WellFormed) : r.Matches s.text := by
  cases s <;> cases hr
  case blank c => rcases isBlank_iff.mp hs with rfl | rfl | rfl | rfl <;> simp [Matches, text]
  case lineComment body => exact ⟨body, rfl, hs⟩
  case blockComment body => exact ⟨body, rfl, hs⟩
  case string value => exact ⟨value, rfl, hs⟩
  case number whole fraction =>
    obtain ⟨hne, hwhole, hfraction⟩ := hs
    by_cases h : fraction = []
    · subst h
      exact .inl ⟨hne, hwhole⟩
    · exact .inr ⟨whole, fraction, by simp [text, h], ⟨hne, hwhole⟩, ⟨h, hfraction⟩⟩
  case word name =>
    obtain ⟨c, cs, rfl, hc, hcs⟩ := hs
    refine ⟨c, cs, rfl, ?_, ?_⟩
    · simpa [isWordStart, or_comm] using hc
    · intro d hd
      simpa [isWordPart, or_assoc, or_comm, or_left_comm] using hcs d hd
  case operator o => rfl

/-- **The rules describe the texts of the well-formed segments** that are not malformed. -/
theorem matches_iff :
    r.Matches cs ↔ ∃ s, ofSegment? s = some r ∧ s.WellFormed ∧ s.text = cs := by
  constructor
  · exact exists_segment_of_matches
  · rintro ⟨s, hr, hs, rfl⟩
    exact matches_text hr hs

theorem treats_text (hr : ofSegment? s = some r) (line : Nat) :
    r.Treats s.text (s.item? line) := by
  cases s <;> cases hr
  case word name => exact ⟨_, rfl, wordToken_kind name line, wordToken_lexeme name line⟩
  case blank | lineComment | blockComment => rfl
  all_goals exact ⟨_, rfl, rfl, rfl⟩

/-! ### A text follows one rule -/

/-- **No text follows two rules.** -/
theorem eq_of_matches {r' : Rule} (h : r.Matches cs) (h' : r'.Matches cs) : r = r' := by
  obtain ⟨s, hr, hs, rfl⟩ := matches_iff.mp h
  obtain ⟨t, hr', ht, htext⟩ := matches_iff.mp h'
  have hstiling : Tiling [s] := .cons hs (endsBefore_nil s) .nil
  have httiling : Tiling [t] := .cons ht (endsBefore_nil t) .nil
  have hone : [s] = [t] := hstiling.eq_of_flatMap_text_eq httiling (by simp [htext])
  obtain rfl : s = t := List.singleton_inj.mp hone
  exact Option.some.inj (hr.symm.trans hr')

end Rule
end LoxScan

import LoxScan.Proofs.Extent
import LoxScan.Proofs.FirstError
import LoxScan.Proofs.Rule

/-! # Well-formed tokens

A token is **well formed** if its kind, its text and its value fit each other: an operator or
a reserved word has its one spelling and no value, a string denotes what stands between its
quotes, a number what its digits say, and a name itself.  Nothing is said about where it
stands, and the mark at the end of a text is not among them.

These are exactly the tokens that segments yield: what a well-formed segment yields is well
formed (`wellFormed_of_item?`), and every well-formed token is what some segment with its text
yields (`Token.WellFormed.exists_segment`).  As a text is one segment in one way only, the text
of a well-formed token says all that there is to know about it (`Token.WellFormed.content_eq`). -/

namespace LoxScan

open Text Segment

namespace Token

/-- What a token is, wherever it stands: its kind, its text and its value. -/
def content (t : Token) : Kind × String × Option Literal := (t.kind, t.lexeme, t.literal?)

/-- The kind, the text and the value of the token fit each other. -/
inductive WellFormed : Token → Prop
  | operator (o : Operator) (line : Nat) :
      WellFormed ⟨.operator o, String.ofList o.spelling, none, line⟩
  | keyword (k : Keyword) (line : Nat) : WellFormed ⟨.keyword k, k.spelling, none, line⟩
  | identifier {name : List Char} (line : Nat) (word : Rule.word.Matches name)
      (free : ∀ k : Keyword, String.ofList name ≠ k.spelling) :
      WellFormed ⟨.identifier, String.ofList name, some (.identifier (String.ofList name)), line⟩
  | string {value : List Char} (line : Nat) (inside : '"' ∉ value) :
      WellFormed ⟨.string, String.ofList ('"' :: (value ++ ['"'])),
        some (.string (String.ofList value)), line⟩
  | integer {digits : List Char} (line : Nat) (isDigits : Rule.IsDigits digits) :
      WellFormed ⟨.number, String.ofList digits,
        some (.number (Double.ofDecimal false (Decimal.ofDigits digits []))), line⟩
  | decimal {whole fraction : List Char} (line : Nat) (before : Rule.IsDigits whole)
      (behind : Rule.IsDigits fraction) :
      WellFormed ⟨.number, String.ofList (whole ++ '.' :: fraction),
        some (.number (Double.ofDecimal false (Decimal.ofDigits whole fraction))), line⟩

end Token

/-! ### Tokens and segments -/

/-- The token of a word is a reserved word or a name. -/
theorem wellFormed_wordToken {name : List Char} (h : Rule.word.Matches name) (line : Nat) :
    (wordToken name line).WellFormed := by
  simp only [wordToken]
  split
  · rename_i k hk
    rw [Keyword.ofSpelling?_eq_some_iff.mp hk]
    exact .keyword k line
  · rename_i hnone
    refine .identifier line h fun k hk => ?_
    rw [Keyword.ofSpelling?_eq_some_iff.mpr hk] at hnone
    cases hnone

/-- A well-formed segment yields a well-formed token. -/
theorem wellFormed_of_item? {s : Segment} {line : Nat} {t : Token} (hs : s.WellFormed)
    (h : s.item? line = some (.token t)) : t.WellFormed := by
  cases s <;> cases h
  case string value => exact .string line hs
  case number whole fraction =>
    obtain ⟨hne, hwhole, hfraction⟩ := hs
    by_cases hf : fraction = []
    · subst hf
      exact .integer line ⟨hne, hwhole⟩
    · have hdecimal := Token.WellFormed.decimal line ⟨hne, hwhole⟩ ⟨hf, hfraction⟩
      simpa only [lexeme, text, if_neg hf] using hdecimal
  case word name =>
    have hmatches : Rule.word.Matches (Segment.word name).text := Rule.matches_text rfl hs
    exact wellFormed_wordToken hmatches line
  case operator o => exact .operator o line

/-- Every text that is a word is a word segment. -/
theorem wellFormed_of_matches_word {name : List Char} (h : Rule.word.Matches name) :
    (word name).WellFormed := by
  obtain ⟨s, hr, hs, rfl⟩ := Rule.matches_iff.mp h
  cases s <;> cases hr
  exact hs

/-- A reserved word is spelled as a word. -/
theorem wellFormed_word_spelling (k : Keyword) : (word k.spelling.toList).WellFormed := by
  have hhead : k.spelling.toList.head?.any isWordStart = true := by
    cases k <;> decide +kernel
  have htail : k.spelling.toList.tail.all isWordPart = true := by
    cases k <;> decide +kernel
  cases hspelling : k.spelling.toList with
  | nil =>
      rw [hspelling] at hhead
      cases hhead
  | cons c cs =>
      rw [hspelling] at hhead htail
      exact ⟨c, cs, rfl, hhead, List.all_eq_true.mp htail⟩

/-- **Every well-formed token is yielded by a segment with its text**, on its line. -/
theorem Token.WellFormed.exists_segment {t : Token} (h : t.WellFormed) :
    ∃ s : Segment, s.WellFormed ∧ s.text = t.lexeme.toList ∧
      ∀ line, s.item? line = some (.token { t with line := line }) := by
  cases h with
  | operator o line => exact ⟨.operator o, trivial, by simp [text], fun _ => rfl⟩
  | keyword k line =>
      refine ⟨.word k.spelling.toList, wellFormed_word_spelling k, rfl, ?_⟩
      intro line
      simp [item?, wordToken, Keyword.ofSpelling?_eq_some_iff.mpr rfl]
  | @identifier name line hword hfree =>
      refine ⟨.word name, wellFormed_of_matches_word hword, by simp [text], ?_⟩
      intro line
      have hnone : Keyword.ofSpelling? (String.ofList name) = none := by
        refine Option.eq_none_iff_forall_ne_some.mpr fun k hk => ?_
        exact hfree k (Keyword.ofSpelling?_eq_some_iff.mp hk)
      simp [item?, wordToken, hnone]
  | @string value line hinside => exact ⟨.string value, hinside, by simp [text], fun _ => rfl⟩
  | @integer digits line hdigits =>
      exact ⟨.number digits [], ⟨hdigits.1, hdigits.2, by simp⟩, by simp [text], fun _ => rfl⟩
  | @decimal whole fraction line hwhole hfraction =>
      have htext : (Segment.number whole fraction).text = whole ++ '.' :: fraction := by
        simp [text, hfraction.1]
      refine ⟨.number whole fraction, ⟨hwhole.1, hwhole.2, hfraction.2⟩, by simp [htext], ?_⟩
      intro line
      rw [item?, Segment.lexeme, htext]

/-- A well-formed token has a lexeme, unlike the mark at the end. -/
theorem Token.WellFormed.lexeme_ne_empty {t : Token} (h : t.WellFormed) : t.lexeme ≠ "" := by
  obtain ⟨s, hs, htext, -⟩ := h.exists_segment
  intro hempty
  rw [hempty] at htext
  exact hs.text_ne_nil htext

/-- **The lexeme of a well-formed token determines what it is**: the text of a token is cut in one
way only, and the one segment in it yields the token. -/
theorem Token.WellFormed.content_eq {t u : Token} (ht : t.WellFormed) (hu : u.WellFormed)
    (h : t.lexeme = u.lexeme) : t.content = u.content := by
  obtain ⟨s, hs, hstext, hsitem⟩ := ht.exists_segment
  obtain ⟨s', hs', hstext', hsitem'⟩ := hu.exists_segment
  have htiling : Tiling [s] := .cons hs (endsBefore_nil s) .nil
  have htiling' : Tiling [s'] := .cons hs' (endsBefore_nil s') .nil
  have htext : [s].flatMap text = [s'].flatMap text := by simp [hstext, hstext', h]
  obtain rfl : s = s' := by simpa using htiling.eq_of_flatMap_text_eq htiling' htext
  have hitem : some (Item.token { t with line := 1 }) = some (.token { u with line := 1 }) :=
    (hsitem 1).symm.trans (hsitem' 1)
  have htoken : { t with line := 1 } = { u with line := 1 } :=
    Item.token.inj (Option.some.inj hitem)
  show Token.content { t with line := 1 } = Token.content { u with line := 1 }
  rw [htoken]

/-! ### Tokens of a text -/

/-- Every token that is found in a text is well formed, up to the mark at the end. -/
theorem wellFormed_of_mem_items {source : String} {t : Token}
    (h : .token t ∈ (items source).dropLast) : t.WellFormed := by
  rw [items_eq_filterMap_extents, List.dropLast_concat] at h
  obtain ⟨e, he, hitem⟩ := List.mem_filterMap.mp h
  obtain ⟨s, hs, -, hyields⟩ := exists_isFirst_of_mem_extents he
  exact wellFormed_of_item? hs.wellFormed (hyields.symm.trans hitem)

/-- The tokens of a text are well formed, up to the mark at the end, which stands on the last
line. -/
theorem exists_wellFormed_of_scan {source : String} {ts : List Token} (h : scan source = .ok ts) :
    ∃ us, ts = us ++ [.eof (1 + source.toList.count '\n')] ∧ ∀ u ∈ us, u.WellFormed := by
  have hitems := scan_eq_ok_iff.mp h
  have hlast : (items source).getLast? = some (.token (.eof (1 + source.toList.count '\n'))) := by
    rw [items_eq_filterMap_extents, List.getLast?_concat]
  rw [hitems, List.getLast?_map, Option.map_eq_some_iff] at hlast
  obtain ⟨t, ht, htoken⟩ := hlast
  cases htoken
  obtain ⟨us, rfl⟩ := List.getLast?_eq_some_iff.mp ht
  refine ⟨us, rfl, fun u hu => ?_⟩
  have hmem : .token u ∈ (items source).dropLast := by
    rw [hitems, List.map_append, List.map_singleton, List.dropLast_concat]
    exact List.mem_map_of_mem hu
  exact wellFormed_of_mem_items hmem

end LoxScan

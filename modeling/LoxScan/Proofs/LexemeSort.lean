import Mathlib.Logic.ExistsUnique
import LoxScan.Proofs.WellFormedToken

/-! # What a lexeme means

The text of a token says what the token is.  There are four sorts of lexemes, each with its own
shape, kinds and values (`LexemeSort.Describes`).  Every token that is found in a text is of
exactly one sort, also behind an error, so nothing about a token but its line depends on the
place where it was found (`lexeme_determines_token`). -/

namespace LoxScan

open Text

/-- The sorts of lexemes. -/
inductive LexemeSort where
  | operator | string | number | word
  deriving DecidableEq

/-- The number that a lexeme denotes: the digits up to its point are whole, those behind it a
fraction. -/
def Double.ofLexeme (lexeme : String) : Double :=
  .ofDecimal false <| .ofDigits (lexeme.toList.takeWhile (· ≠ '.'))
    (lexeme.toList.dropWhile (· ≠ '.')).tail

namespace LexemeSort

/-- The token has a lexeme of this sort, and the kind and the value that the lexeme tells. -/
def Describes : LexemeSort → Token → Prop
  | operator, t =>
      ∃ o : Operator, t.kind = .operator o ∧ t.lexeme.toList = o.spelling ∧ t.literal? = none
  | string, t =>
      t.kind = .string ∧ ∃ value : List Char, '"' ∉ value ∧
        t.lexeme.toList = '"' :: (value ++ ['"']) ∧
        t.literal? = some (.string (String.ofList value))
  | number, t =>
      t.kind = .number ∧ Rule.number.Matches t.lexeme.toList ∧
        t.literal? = some (.number (.ofLexeme t.lexeme))
  | word, t =>
      Rule.word.Matches t.lexeme.toList ∧
        ((∃ k, Keyword.ofSpelling? t.lexeme = some k ∧ t.kind = .keyword k ∧ t.literal? = none) ∨
          (Keyword.ofSpelling? t.lexeme = none ∧ t.kind = .identifier ∧
            t.literal? = some (.identifier t.lexeme)))

/-- The sort of the lexemes of tokens of a kind; the mark at the end has no lexeme. -/
def ofKind? : Kind → Option LexemeSort
  | .operator _ => some operator
  | .keyword _ | .identifier => some word
  | .string => some string
  | .number => some number
  | .eof => none

variable {sort : LexemeSort} {t : Token}

theorem ofKind?_of_describes (h : sort.Describes t) : ofKind? t.kind = some sort := by
  cases sort with
  | operator =>
      obtain ⟨o, hkind, -⟩ := h
      rw [hkind]
      rfl
  | string | number =>
      rw [h.1]
      rfl
  | word =>
      rcases h.2 with ⟨k, -, hkind, -⟩ | ⟨-, hkind, -⟩ <;> rw [hkind] <;> rfl

/-- No token has a lexeme of two sorts. -/
theorem eq_of_describes {sort' : LexemeSort} (h : sort.Describes t) (h' : sort'.Describes t) :
    sort = sort' :=
  Option.some.inj ((ofKind?_of_describes h).symm.trans (ofKind?_of_describes h'))

end LexemeSort

/-! ### Numbers -/

/-- No digit is a point. -/
theorem ne_point_of_isDigits {digits : List Char} (h : Rule.IsDigits digits) :
    ∀ c ∈ digits, (decide (c ≠ '.')) = true := by
  intro c hc
  rw [decide_eq_true_eq]
  rintro rfl
  cases h.2 _ hc

theorem ofLexeme_digits {digits : List Char} (h : Rule.IsDigits digits) :
    Double.ofLexeme (String.ofList digits) = .ofDecimal false (.ofDigits digits []) := by
  have htake := Segment.takeWhile_run (ne_point_of_isDigits h) (Segment.beginsWithout_nil _)
  have hdrop := Segment.dropWhile_run (ne_point_of_isDigits h) (Segment.beginsWithout_nil _)
  rw [List.append_nil] at htake hdrop
  rw [Double.ofLexeme, String.toList_ofList, htake, hdrop, List.tail_nil]

theorem ofLexeme_point {whole fraction : List Char} (h : Rule.IsDigits whole) :
    Double.ofLexeme (String.ofList (whole ++ '.' :: fraction)) =
      .ofDecimal false (.ofDigits whole fraction) := by
  have hpoint : Segment.BeginsWithout (· ≠ '.') ('.' :: fraction) :=
    Segment.beginsWithout_cons_iff.mpr rfl
  have htake := Segment.takeWhile_run (ne_point_of_isDigits h) hpoint
  have hdrop := Segment.dropWhile_run (ne_point_of_isDigits h) hpoint
  rw [Double.ofLexeme, String.toList_ofList, htake, hdrop, List.tail_cons]

/-! ### Tokens -/

/-- Every well-formed token has a lexeme of some sort. -/
theorem Token.WellFormed.exists_describes {t : Token} (h : t.WellFormed) :
    ∃ sort : LexemeSort, sort.Describes t := by
  cases h with
  | operator o line => exact ⟨.operator, o, rfl, String.toList_ofList, rfl⟩
  | keyword k line =>
      have hmatches := Rule.matches_text rfl (wellFormed_word_spelling k)
      exact ⟨.word, hmatches, .inl ⟨k, Keyword.ofSpelling?_eq_some_iff.mpr rfl, rfl, rfl⟩⟩
  | @identifier name line hword hfree =>
      have hnone : Keyword.ofSpelling? (String.ofList name) = none := by
        refine Option.eq_none_iff_forall_ne_some.mpr fun k hk => ?_
        exact hfree k (Keyword.ofSpelling?_eq_some_iff.mp hk)
      refine ⟨.word, ?_, .inr ⟨hnone, rfl, rfl⟩⟩
      rwa [String.toList_ofList]
  | @string value line hinside =>
      exact ⟨.string, rfl, value, hinside, String.toList_ofList, rfl⟩
  | @integer digits line hdigits =>
      refine ⟨.number, rfl, ?_, by rw [ofLexeme_digits hdigits]⟩
      rw [String.toList_ofList]
      exact .inl hdigits
  | @decimal whole fraction line hwhole hfraction =>
      refine ⟨.number, rfl, ?_, by rw [ofLexeme_point hwhole]⟩
      rw [String.toList_ofList]
      exact .inr ⟨whole, fraction, rfl, hwhole, hfraction⟩

/-- **Every well-formed token has a lexeme of one sort**, which tells its kind and its value. -/
theorem Token.WellFormed.existsUnique_describes {t : Token} (h : t.WellFormed) :
    ∃! sort : LexemeSort, sort.Describes t := by
  obtain ⟨sort, hsort⟩ := h.exists_describes
  exact ⟨sort, hsort, fun _ hother => LexemeSort.eq_of_describes hother hsort⟩

/-- **The lexeme determines the token.**  Up to the mark at the end, every token among the items
of a text has a lexeme of exactly one sort, from which its kind and its value follow; so tokens
with the same lexeme, from whatever texts, have the same kind and the same value. -/
theorem lexeme_determines_token (source : String) :
    (∃ line, (items source).getLast? = some (.token (.eof line))) ∧
    ∀ t, .token t ∈ (items source).dropLast →
      (∃! sort : LexemeSort, sort.Describes t) ∧
      ∀ (other : String) (u : Token), .token u ∈ (items other).dropLast → t.lexeme = u.lexeme →
        t.kind = u.kind ∧ t.literal? = u.literal? := by
  refine ⟨⟨1 + source.toList.count '\n', ?_⟩, fun t ht => ⟨?_, fun other u hu hlexeme => ?_⟩⟩
  · rw [items_eq_filterMap_extents, List.getLast?_concat]
  · exact (wellFormed_of_mem_items ht).existsUnique_describes
  · have hcontent := (wellFormed_of_mem_items ht).content_eq (wellFormed_of_mem_items hu) hlexeme
    exact ⟨congrArg Prod.fst hcontent, congrArg (fun c => c.2.2) hcontent⟩

/-- A string that holds a line feed, behind an unexpected character and in another text. -/
theorem lexeme_determines_string :
    .token ⟨.string, "\"\n\"", some (.string "\n"), 2⟩ ∈ (items "@\n\"\n\"").dropLast ∧
      .token ⟨.string, "\"\n\"", some (.string "\n"), 1⟩ ∈ (items "\"\n\"x").dropLast ∧
      (∃! sort : LexemeSort, sort.Describes ⟨.string, "\"\n\"", some (.string "\n"), 2⟩) ∧
      (⟨.string, "\"\n\"", some (.string "\n"), 2⟩ : Token).literal? =
        (⟨.string, "\"\n\"", some (.string "\n"), 1⟩ : Token).literal? := by
  have ht : .token ⟨.string, "\"\n\"", some (.string "\n"), 2⟩ ∈ (items "@\n\"\n\"").dropLast := by
    decide +kernel
  have hu : .token ⟨.string, "\"\n\"", some (.string "\n"), 1⟩ ∈ (items "\"\n\"x").dropLast := by
    decide +kernel
  obtain ⟨hsort, hsame⟩ := (lexeme_determines_token "@\n\"\n\"").2 _ ht
  exact ⟨ht, hu, hsort, (hsame "\"\n\"x" _ hu rfl).2⟩

end LoxScan

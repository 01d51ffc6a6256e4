import LoxScan.Segment.Grammar

/-! # The characters of a lexeme

A string and a comment may hold anything but what closes them.  A number, a word and an
operator are **plain**: each of their characters is a word part or belongs to the spelling of
some operator (`isWordPart_or_mem_spelling`).  Line ends, quotes and apostrophes are neither,
so they occur in no plain lexeme. -/

namespace LoxScan

open Text

namespace Segment

/-- A number, a word or an operator. -/
def isPlain : Segment → Bool
  | number _ _ | word _ | operator _ => true
  | _ => false

variable {s : Segment} {c : Char}

/-- **A plain lexeme is made of word parts and of what operators are spelled with.** -/
theorem isWordPart_or_mem_spelling (hplain : s.isPlain = true) (hs : s.WellFormed)
    (hc : c ∈ s.text) : isWordPart c = true ∨ ∃ o : Operator, c ∈ o.spelling := by
  cases s with
  | number whole fraction =>
      obtain ⟨-, hwhole, hfraction⟩ := hs
      have hcases : c ∈ whole ∨ c = '.' ∨ c ∈ fraction := by
        rw [text] at hc
        split at hc
        · exact .inl hc
        · simpa using hc
      rcases hcases with hc | rfl | hc
      · exact .inl (isWordPart_of_isDigit (hwhole c hc))
      · exact .inr ⟨.dot, List.mem_singleton_self _⟩
      · exact .inl (isWordPart_of_isDigit (hfraction c hc))
  | word name =>
      obtain ⟨d, ds, rfl, hd, hds⟩ := hs
      rcases List.mem_cons.mp hc with rfl | hc
      · exact .inl (isWordPart_of_isWordStart hd)
      · exact .inl (hds c hc)
  | operator o => exact .inr ⟨o, hc⟩
  | _ => cases hplain

/-- What is neither a word part nor in the spelling of an operator is in no plain lexeme. -/
theorem not_mem_text_of_isPlain (hplain : s.isPlain = true) (hs : s.WellFormed)
    (hpart : isWordPart c = false) (hspelling : ∀ o ∈ Operator.all, c ∉ o.spelling) :
    c ∉ s.text := by
  intro hc
  rcases isWordPart_or_mem_spelling hplain hs hc with h | ⟨o, ho⟩
  · rw [hpart] at h
    cases h
  · exact hspelling o (Operator.mem_all o) ho

theorem newline_not_mem_text (hplain : s.isPlain = true) (hs : s.WellFormed) : '\n' ∉ s.text :=
  not_mem_text_of_isPlain hplain hs (isWordPart_of_isBlank rfl) (by decide)

theorem quote_not_mem_text (hplain : s.isPlain = true) (hs : s.WellFormed) : '"' ∉ s.text :=
  not_mem_text_of_isPlain hplain hs (not_isWordPart_mark (.inl rfl)) (by decide)

theorem apostrophe_not_mem_text (hplain : s.isPlain = true) (hs : s.WellFormed) :
    '\x27' ∉ s.text :=
  not_mem_text_of_isPlain hplain hs (by decide +kernel) (by decide)

end Segment
end LoxScan

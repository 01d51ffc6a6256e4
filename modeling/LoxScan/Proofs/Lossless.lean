import LoxScan.Proofs.Extent

/-! # Scanning loses nothing

Every character of a text belongs to exactly one extent, and what an extent yields agrees
with the text it covers (`extents_lossless`).  So no character is dropped, read twice or
swallowed, whatever the text is: a token carries its own text, an error covers the text
that is malformed, and what yields nothing is a blank or a comment. -/

namespace LoxScan

open Segment

/-- The texts that scanning passes over, each with the text that follows it. -/
inductive IsTrivia (rest : List Char) : List Char → Prop
  | blank {c : Char} (h : c = ' ' ∨ c = '\t' ∨ c = '\r' ∨ c = '\n') : IsTrivia rest [c]
  /-- A line comment ends at the end of the text or right before the next line feed. -/
  | lineComment {body : List Char} (inside : '\n' ∉ body)
      (ends : rest = [] ∨ rest.head? = some '\n') : IsTrivia rest ('/' :: '/' :: body)
  /-- A block comment ends with the first closing mark behind its opening one. -/
  | blockComment {body : List Char}
      (first : ∀ before after, before ++ commentEnd ++ after = body ++ commentEnd ++ rest →
        body.length ≤ before.length) : IsTrivia rest ('/' :: '*' :: (body ++ commentEnd))

/-- What an extent yields agrees with the text it covers and the text that follows it.  Only
the end of the text is marked by a token of kind `eof`. -/
inductive Fits (rest : List Char) : List Char → Option Item → Prop
  | trivia {covered : List Char} (h : IsTrivia rest covered) : Fits rest covered none
  | token {t : Token} (kind : t.kind ≠ .eof) : Fits rest t.lexeme.toList (some (.token t))
  | unexpected {line : Nat} {c : Char} :
      Fits rest [c] (some (.error ⟨line, .unexpectedCharacter c⟩))
  | openString {line : Nat} {body : List Char} (inside : '"' ∉ body) (ends : rest = []) :
      Fits rest ('"' :: body) (some (.error ⟨line, .unterminatedString⟩))
  | openComment {line : Nat} {body : List Char} (inside : ¬ commentEnd <:+: body)
      (ends : rest = []) :
      Fits rest ('/' :: '*' :: body) (some (.error ⟨line, .unterminatedBlockComment⟩))

/-! ### What an extent yields -/

/-- A mark that closes a text without one closes it where it stands, and nowhere before. -/
theorem length_le_of_append_commentEnd {body rest before after : List Char}
    (h : ¬ commentEnd <:+: body)
    (heq : before ++ commentEnd ++ after = body ++ commentEnd ++ rest) :
    body.length ≤ before.length := by
  refine Nat.le_of_not_lt fun hlt => ?_
  -- `body` goes on behind `before` with the first one or two characters of the mark.
  obtain ⟨more, rfl, hmore⟩ : ∃ more, body = before ++ more ∧
      commentEnd ++ after = more ++ commentEnd ++ rest := by
    rw [List.append_assoc, List.append_assoc] at heq
    rcases List.append_eq_append_iff.mp heq with ⟨more, hb, hm⟩ | ⟨more, hb, -⟩
    · exact ⟨more, hb, by rwa [List.append_assoc]⟩
    · rw [hb, List.length_append] at hlt
      omega
  match more, hmore with
  | [], _ => simp at hlt
  | [_], hmore => simp [commentEnd] at hmore
  | c :: d :: tail, hmore =>
      simp only [commentEnd, List.cons_append, List.nil_append, List.cons.injEq] at hmore
      obtain ⟨rfl, rfl, -⟩ := hmore
      exact h ⟨before, tail, by simp [commentEnd]⟩

theorem isTrivia_of_item?_eq_none {cs rest : List Char} {s : Segment} {line : Nat}
    (h : IsFirst cs s rest) (hitem : s.item? line = none) : IsTrivia rest s.text := by
  have hs := h.wellFormed
  have he := h.endsBefore
  cases s with
  | blank c => exact .blank (Text.isBlank_iff.mp hs)
  | lineComment body =>
      refine .lineComment hs ?_
      cases rest with
      | nil => exact .inl rfl
      | cons c cs =>
          have hc := he c rfl
          exact .inr (congrArg some (by simpa using hc))
  | blockComment body => exact .blockComment fun _ _ => length_le_of_append_commentEnd hs
  | _ => cases hitem

theorem fits_of_isFirst {cs rest : List Char} {s : Segment} (h : IsFirst cs s rest) (line : Nat) :
    Fits rest s.text (s.item? line) := by
  cases hitem : s.item? line with
  | none => exact .trivia (isTrivia_of_item?_eq_none h hitem)
  | some i =>
      cases i with
      | token t =>
          obtain ⟨htext, -, hkind⟩ := token_of_item? hitem
          rw [← htext]
          exact .token hkind
      | error e =>
          have hs := h.wellFormed
          have he := h.endsBefore
          cases s <;> cases hitem
          · exact .unexpected
          · exact .openString hs he
          · exact .openComment hs he

/-- **Scanning loses nothing.**  The extents of a text follow each other from its first
character to its last, each yields what its text says, and the items are what they yield
with the mark at the end of the text behind them. -/
theorem extents_lossless (source : String) :
    IsLayout source (extents source) ∧
      ∀ e ∈ extents source,
        Fits (source.toList.drop e.stop) (source.toList.extract e.start e.stop) e.item? := by
  refine ⟨isLayout_extents source, ?_⟩
  intro e he
  obtain ⟨s, hs, htext, hitem⟩ := exists_isFirst_of_mem_extents he
  rw [htext, hitem]
  exact fits_of_isFirst hs _

/-- A comment that holds slashes and stars ends with its first closing mark; the string
behind it has no end. -/
theorem fits_comment_before_open_string :
    (⟨0, 6, none⟩ : Extent) ∈ extents "/*//*/\"" ∧ Fits ['"'] ['/', '*', '/', '/', '*', '/'] none := by
  have he : (⟨0, 6, none⟩ : Extent) ∈ extents "/*//*/\"" := by decide +kernel
  exact ⟨he, (extents_lossless "/*//*/\"").2 _ he⟩

end LoxScan

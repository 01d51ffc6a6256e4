import LoxScan.Segment

/-! # The lexical grammar

The readers of `LoxScan.Segment` say how a text is cut.  This module says what the pieces
are, without a reader: which texts a segment of each kind may have (`WellFormed`), and what
may not follow it, because it would have belonged to it (`EndsBefore`).

**The two together determine the first segment of a text** (`next_eq_iff`): cutting
finds the one front part that is well formed and ends where it must. -/

namespace LoxScan

open Text

namespace Segment

/-- The mark that closes a block comment. -/
def commentEnd : List Char := ['*', '/']

/-- The texts that a segment of each kind may have. -/
def WellFormed : Segment → Prop
  | blank c => isBlank c = true
  | lineComment body => '\n' ∉ body
  | blockComment body => ¬ commentEnd <:+: body
  | string value => '"' ∉ value
  | number whole fraction =>
      whole ≠ [] ∧ (∀ c ∈ whole, c.isDigit = true) ∧ ∀ c ∈ fraction, c.isDigit = true
  | word name =>
      ∃ c cs, name = c :: cs ∧ isWordStart c = true ∧ ∀ d ∈ cs, isWordPart d = true
  | operator _ => True
  | unexpected c =>
      isBlank c = false ∧ c ≠ '"' ∧ c.isDigit = false ∧ isWordStart c = false ∧
        ∀ o : Operator, o.spelling ≠ [c]
  | openString body => '"' ∉ body
  | openComment body => ¬ commentEnd <:+: body

/-- The text does not begin with a character of the class. -/
def BeginsWithout (p : Char → Bool) (rest : List Char) : Prop :=
  ∀ c, rest.head? = some c → p c = false

/-- What may follow a segment: nothing that would have belonged to it. -/
def EndsBefore (s : Segment) (rest : List Char) : Prop :=
  match s with
  | lineComment _ => BeginsWithout (· ≠ '\n') rest
  | number _ [] =>
      BeginsWithout Char.isDigit rest ∧
        ∀ c cs, rest = '.' :: c :: cs → c.isDigit = false
  | number _ (_ :: _) => BeginsWithout Char.isDigit rest
  | word _ => BeginsWithout isWordPart rest
  | operator o =>
      (∀ p : Operator, p.spelling <+: o.spelling ++ rest →
        p.spelling.length ≤ o.spelling.length) ∧
      (o = .slash → BeginsWithout (fun c => c = '/' || c = '*') rest)
  | openString _ | openComment _ => rest = []
  | _ => True

/-- `s` is a segment at the front of `cs`, well formed and properly ended, and `rest` is what
follows it. -/
structure IsFirst (cs : List Char) (s : Segment) (rest : List Char) : Prop where
  append : s.text ++ rest = cs
  wellFormed : s.WellFormed
  endsBefore : s.EndsBefore rest

/-! ### Longest runs of a class -/

section Runs

variable {p : Char → Bool} {body cs rest : List Char}

/-- A run of a class that ends before the class does is the longest one. -/
theorem takeWhile_run (inside : ∀ c ∈ body, p c = true) (outside : BeginsWithout p rest) :
    (body ++ rest).takeWhile p = body := by
  rw [List.takeWhile_append_of_pos inside]
  cases rest with
  | nil => simp
  | cons c cs => simp [outside c rfl]

/-- What follows a run of a class is left over. -/
theorem dropWhile_run (inside : ∀ c ∈ body, p c = true) (outside : BeginsWithout p rest) :
    (body ++ rest).dropWhile p = rest := by
  rw [List.dropWhile_append_of_pos inside]
  cases rest with
  | nil => rfl
  | cons c cs => simp [outside c rfl]

theorem mem_takeWhile {c : Char} (h : c ∈ cs.takeWhile p) : p c = true :=
  List.all_eq_true.mp List.all_takeWhile c h

/-- All characters but one are a class as well. -/
theorem decide_ne_of_not_mem {c : Char} (h : c ∉ body) : ∀ d ∈ body, decide (d ≠ c) = true := by
  intro d hd
  rw [decide_eq_true_eq]
  rintro rfl
  exact h hd

/-- Behind the longest run the class does not go on. -/
theorem beginsWithout_dropWhile : BeginsWithout p (cs.dropWhile p) := by
  intro c h
  cases hd : cs.dropWhile p with
  | nil => simp [hd] at h
  | cons d ds =>
      rw [hd] at h
      cases h
      exact not_of_dropWhile_eq_cons hd

end Runs

/-! ### Block comments -/

/-- A text with one more character at the front holds the closing mark if the tail does or
if the mark stands at the front. -/
theorem commentEnd_infix_cons {c : Char} {cs : List Char} :
    commentEnd <:+: c :: cs ↔ (c = '*' ∧ cs.head? = some '/') ∨ commentEnd <:+: cs := by
  rw [List.infix_cons_iff]
  refine or_congr_left ?_
  cases cs with
  | nil => simp [commentEnd]
  | cons d ds =>
      simp only [commentEnd, List.cons_prefix_cons, List.nil_prefix, and_true, List.head?_cons,
        Option.some.injEq]
      exact and_congr eq_comm eq_comm

theorem cutAtCommentEnd?_cons {c : Char} {cs : List Char}
    (h : ¬ (c = '*' ∧ cs.head? = some '/')) :
    cutAtCommentEnd? (c :: cs) =
      (cutAtCommentEnd? cs).map fun (body, rest) => (c :: body, rest) := by
  rw [cutAtCommentEnd?]
  rintro ds rfl rfl
  exact h ⟨rfl, rfl⟩

/-- No cut is found exactly where the closing mark does not occur. -/
theorem cutAtCommentEnd?_eq_none_iff {cs : List Char} :
    cutAtCommentEnd? cs = none ↔ ¬ commentEnd <:+: cs := by
  induction cs with
  | nil => simp [cutAtCommentEnd?, commentEnd]
  | cons c cs ih =>
      by_cases h : c = '*' ∧ cs.head? = some '/'
      · obtain ⟨rfl, hcs⟩ := h
        obtain ⟨ds, rfl⟩ : ∃ ds, cs = '/' :: ds := by
          cases cs with
          | nil => cases hcs
          | cons d ds => exact ⟨ds, by rw [Option.some.inj hcs]⟩
        simp [cutAtCommentEnd?, commentEnd_infix_cons]
      · rw [cutAtCommentEnd?_cons h, Option.map_eq_none_iff, ih, commentEnd_infix_cons]
        simp [h]

/-- The text before the first closing mark does not hold one. -/
theorem not_infix_of_cutAtCommentEnd? {cs body rest : List Char}
    (h : cutAtCommentEnd? cs = some (body, rest)) : ¬ commentEnd <:+: body := by
  induction cs generalizing body with
  | nil => cases h
  | cons c cs ih =>
      by_cases hc : c = '*' ∧ cs.head? = some '/'
      · obtain ⟨rfl, hcs⟩ := hc
        cases cs with
        | nil => cases hcs
        | cons d ds =>
            cases hcs
            cases h
            simp [commentEnd]
      · rw [cutAtCommentEnd?_cons hc] at h
        obtain ⟨⟨b, r⟩, hb, heq⟩ := Option.map_eq_some_iff.mp h
        cases heq
        rw [commentEnd_infix_cons]
        rintro (⟨rfl, hhead⟩ | hin)
        · refine hc ⟨rfl, ?_⟩
          rw [← append_of_cutAtCommentEnd? hb]
          cases b with
          | nil => cases hhead
          | cons d ds => exact hhead
        · exact ih hb hin

/-- A text without the closing mark, followed by one, is cut right there. -/
theorem cutAtCommentEnd?_append {body rest : List Char} (h : ¬ commentEnd <:+: body) :
    cutAtCommentEnd? (body ++ '*' :: '/' :: rest) = some (body, rest) := by
  induction body with
  | nil => rfl
  | cons c body ih =>
      rw [commentEnd_infix_cons, not_or] at h
      rw [List.cons_append, cutAtCommentEnd?_cons, ih h.2]
      · rfl
      · rintro ⟨rfl, hhead⟩
        refine h.1 ⟨rfl, ?_⟩
        cases body with
        | nil => cases hhead
        | cons d ds => exact hhead

/-! ### What a reader takes is a first segment -/

section Sound

variable {cs rest : List Char} {s : Segment}

theorem isFirst_of_readBlank? (h : readBlank? cs = some (s, rest)) : IsFirst cs s rest := by
  refine ⟨(takes_of_readBlank? h).2, ?_, ?_⟩ <;> unfold readBlank? at h <;>
    grind [WellFormed, EndsBefore]

theorem isFirst_of_readComment? (h : readComment? cs = some (s, rest)) : IsFirst cs s rest := by
  have happ := (takes_of_readComment? h).2
  unfold readComment? at h
  split at h
  · cases h
    refine ⟨happ, ?_, beginsWithout_dropWhile⟩
    intro hmem
    simpa using mem_takeWhile hmem
  · split at h
    · rename_i hcut
      cases h
      exact ⟨happ, not_infix_of_cutAtCommentEnd? hcut, trivial⟩
    · rename_i hcut
      cases h
      exact ⟨happ, cutAtCommentEnd?_eq_none_iff.mp hcut, rfl⟩
  · cases h

theorem isFirst_of_readString? (h : readString? cs = some (s, rest)) : IsFirst cs s rest := by
  have happ := (takes_of_readString? h).2
  unfold readString? at h
  split at h
  · rename_i ds
    split at h
    · cases h
      refine ⟨happ, ?_, trivial⟩
      intro hmem
      simpa using mem_takeWhile hmem
    · rename_i hd
      cases h
      refine ⟨happ, ?_, rfl⟩
      intro hmem
      have hcs := List.takeWhile_append_dropWhile (p := (· ≠ '"')) (l := ds)
      rw [hd, List.append_nil] at hcs
      rw [← hcs] at hmem
      simpa using mem_takeWhile hmem
  · cases h

theorem isFirst_of_readNumber? (h : readNumber? cs = some (s, rest)) : IsFirst cs s rest := by
  have happ := (takes_of_readNumber? h).2
  unfold readNumber? at h
  split at h
  · rename_i c cs
    split at h
    · rename_i hc
      have whole : ∀ d ∈ c :: cs.takeWhile Char.isDigit, d.isDigit = true := by
        intro d hd
        rcases List.mem_cons.mp hd with rfl | hd
        · exact hc
        · exact mem_takeWhile hd
      have stop : BeginsWithout Char.isDigit (cs.dropWhile Char.isDigit) :=
        beginsWithout_dropWhile
      split at h
      · rename_i d ds hd
        split at h
        · rename_i hdigit
          cases h
          refine ⟨happ, ⟨List.cons_ne_nil _ _, whole, ?_⟩, beginsWithout_dropWhile⟩
          intro e he
          rcases List.mem_cons.mp he with rfl | he
          · exact hdigit
          · exact mem_takeWhile he
        · rename_i hdigit
          cases h
          refine ⟨happ, ⟨List.cons_ne_nil _ _, whole, by simp⟩, hd ▸ stop, ?_⟩
          intro e es heq
          cases heq
          exact Bool.eq_false_iff.mpr hdigit
      · rename_i hno
        cases h
        refine ⟨happ, ⟨List.cons_ne_nil _ _, whole, by simp⟩, stop, ?_⟩
        intro e es heq
        exact absurd heq (hno e es)
    · cases h
  · cases h

theorem isFirst_of_readWord? (h : readWord? cs = some (s, rest)) : IsFirst cs s rest := by
  have happ := (takes_of_readWord? h).2
  unfold readWord? at h
  split at h
  · split at h
    · rename_i hstart
      cases h
      exact ⟨happ, ⟨_, _, rfl, hstart, fun d hd => mem_takeWhile hd⟩, beginsWithout_dropWhile⟩
    · cases h
  · cases h

theorem isFirst_of_readOperator? (hcomment : readComment? cs = none)
    (h : readOperator? cs = some (s, rest)) : IsFirst cs s rest := by
  have happ := (takes_of_readOperator? h).2
  obtain ⟨o, ho, heq⟩ := Option.map_eq_some_iff.mp h
  cases heq
  refine ⟨happ, trivial, ?_, ?_⟩
  · intro p hp
    change p.spelling <+: (operator o).text ++ _ at hp
    rw [happ] at hp
    exact Operator.length_spelling_le_of_longest? ho hp
  · rintro rfl c hc
    cases hrest : cs.drop Operator.slash.spelling.length with
    | nil => simp [hrest] at hc
    | cons d ds =>
        rw [hrest] at hc happ
        cases hc
        rw [← happ] at hcomment
        unfold readComment? at hcomment
        simp only [Bool.or_eq_false_iff, decide_eq_false_iff_not]
        constructor
        · rintro rfl
          simp [text, Operator.spelling] at hcomment
        · rintro rfl
          simp only [text, Operator.spelling, List.cons_append, List.nil_append] at hcomment
          split at hcomment <;> cases hcomment

/-- The first segment of a text is well formed and ends where it must. -/
theorem isFirst_next (c : Char) (cs : List Char) :
    IsFirst (c :: cs) (next c cs).1 (next c cs).2 := by
  unfold next
  cases h : readBlank? (c :: cs) <|> readComment? (c :: cs) <|> readString? (c :: cs) <|>
    readNumber? (c :: cs) <|> readWord? (c :: cs) <|> readOperator? (c :: cs) with
  | some found =>
      obtain ⟨s, rest⟩ := found
      simp only [Option.orElse_eq_orElse, Option.orElse_eq_or, Option.or_eq_some_iff] at h
      rcases h with h | ⟨-, h | ⟨hc, h | ⟨-, h | ⟨-, h | ⟨-, h⟩⟩⟩⟩⟩
      · exact isFirst_of_readBlank? h
      · exact isFirst_of_readComment? h
      · exact isFirst_of_readString? h
      · exact isFirst_of_readNumber? h
      · exact isFirst_of_readWord? h
      · exact isFirst_of_readOperator? hc h
  | none =>
      simp only [Option.orElse_eq_orElse, Option.orElse_eq_or, Option.or_eq_none_iff] at h
      obtain ⟨hblank, -, hstring, hnumber, hword, hoperator⟩ := h
      refine ⟨rfl, ⟨?_, ?_, ?_, ?_, ?_⟩, trivial⟩
      · simpa [readBlank?] using hblank
      · rintro rfl
        unfold readString? at hstring
        simp only at hstring
        split at hstring <;> cases hstring
      · cases hd : c.isDigit with
        | false => rfl
        | true =>
            simp only [readNumber?, hd, if_true] at hnumber
            split at hnumber
            · split at hnumber <;> cases hnumber
            · cases hnumber
      · simpa [readWord?] using hword
      · intro o ho
        have hnone := Operator.longest?_eq_none_iff.mp (Option.map_eq_none_iff.mp hoperator) o
        exact hnone (ho ▸ ⟨cs, rfl⟩)

end Sound

/-! ### A first segment is what the readers take -/

section Complete

variable {c : Char} {cs rest : List Char} {s : Segment}

theorem readBlank?_eq_none (h : isBlank c = false) : readBlank? (c :: cs) = none := by
  simp [readBlank?, h]

theorem readComment?_eq_none (h : c ≠ '/') : readComment? (c :: cs) = none := by
  unfold readComment?
  split <;> simp_all

theorem readString?_eq_none (h : c ≠ '"') : readString? (c :: cs) = none := by
  unfold readString?
  split <;> simp_all

theorem readNumber?_eq_none (h : c.isDigit = false) : readNumber? (c :: cs) = none := by
  simp [readNumber?, h]

theorem readWord?_eq_none (h : isWordStart c = false) : readWord? (c :: cs) = none := by
  simp [readWord?, h]

/-- No operator begins with a character that begins something else. -/
theorem operator_first {o : Operator} (h : o.spelling ++ rest = c :: cs) :
    isBlank c = false ∧ c ≠ '"' ∧ c.isDigit = false ∧ isWordStart c = false ∧
      (c = '/' → o = .slash) := by
  cases o <;> cases h <;> decide +kernel

theorem readComment?_lineComment {body : List Char} (hs : WellFormed (lineComment body))
    (he : EndsBefore (lineComment body) rest) :
    readComment? ((lineComment body).text ++ rest) = some (lineComment body, rest) := by
  have inside := decide_ne_of_not_mem hs
  simp only [text, List.cons_append, readComment?, takeWhile_run inside he,
    dropWhile_run inside he]

theorem readComment?_blockComment {body : List Char} (hs : WellFormed (blockComment body)) :
    readComment? ((blockComment body).text ++ rest) = some (blockComment body, rest) := by
  have hcut : cutAtCommentEnd? (body ++ '*' :: '/' :: rest) = some (body, rest) :=
    cutAtCommentEnd?_append hs
  simp [text, readComment?, hcut]

theorem readComment?_openComment {body : List Char} (hs : WellFormed (openComment body)) :
    readComment? (openComment body).text = some (openComment body, []) := by
  have hcut := cutAtCommentEnd?_eq_none_iff.mpr hs
  simp [text, readComment?, hcut]

theorem readString?_string {value : List Char} (hs : WellFormed (string value)) :
    readString? ((string value).text ++ rest) = some (string value, rest) := by
  have inside := decide_ne_of_not_mem hs
  have outside : BeginsWithout (· ≠ '"') ('"' :: rest) := by
    intro d hd
    cases hd
    rfl
  have htake := takeWhile_run inside outside
  have hdrop := dropWhile_run inside outside
  simp only [text, List.cons_append, List.append_assoc, List.nil_append, readString?, hdrop, htake]

theorem readString?_openString {body : List Char} (hs : WellFormed (openString body)) :
    readString? (openString body).text = some (openString body, []) := by
  have inside := decide_ne_of_not_mem hs
  have outside : BeginsWithout (· ≠ '"') [] := by
    intro d hd
    cases hd
  have hdrop := dropWhile_run inside outside
  rw [List.append_nil] at hdrop
  simp only [text, readString?, hdrop]

theorem readNumber?_number {whole fraction : List Char} (hs : WellFormed (number whole fraction))
    (he : EndsBefore (number whole fraction) rest) :
    readNumber? ((number whole fraction).text ++ rest) =
      some (number whole fraction, rest) := by
  obtain ⟨hne, hwhole, hfraction⟩ := hs
  obtain ⟨d, ds, rfl⟩ := List.exists_cons_of_ne_nil hne
  have hd := hwhole d List.mem_cons_self
  have hds : ∀ e ∈ ds, e.isDigit = true := fun e he => hwhole e (List.mem_cons_of_mem _ he)
  cases fraction with
  | nil =>
      obtain ⟨hstop, hpoint⟩ := he
      simp only [text, if_true, List.cons_append, readNumber?, hd, takeWhile_run hds hstop,
        dropWhile_run hds hstop]
      split
      · rename_i e es
        simp [hpoint e es rfl]
      · rfl
  | cons e es =>
      have hpoint : BeginsWithout Char.isDigit ('.' :: e :: (es ++ rest)) := by
        intro x hx
        cases hx
        rfl
      have hes : ∀ x ∈ es, x.isDigit = true := fun x hx => hfraction x (List.mem_cons_of_mem _ hx)
      simp only [text, reduceCtorEq, if_false, List.cons_append, List.append_assoc, readNumber?, hd,
        if_true, takeWhile_run hds hpoint, dropWhile_run hds hpoint,
        hfraction e List.mem_cons_self, takeWhile_run hes he, dropWhile_run hes he]

theorem readOperator?_operator {o : Operator} (he : EndsBefore (operator o) rest) :
    readOperator? ((operator o).text ++ rest) = some (operator o, rest) := by
  have hprefix : o.spelling <+: o.spelling ++ rest := ⟨rest, rfl⟩
  cases hp : Operator.longest? (o.spelling ++ rest) with
  | none => exact absurd hprefix (Operator.longest?_eq_none_iff.mp hp o)
  | some p =>
      have hpp := Operator.spelling_prefix_of_longest? hp
      have hle := he.1 p hpp
      have hge := Operator.length_spelling_le_of_longest? hp hprefix
      have heq : p.spelling = o.spelling :=
        List.IsPrefix.eq_of_length (List.prefix_of_prefix_length_le hpp hprefix hle)
          (Nat.le_antisymm hle hge)
      rw [Operator.spelling_injective heq] at hp
      simp [text, readOperator?, hp]

theorem next_of_readComment? (hb : isBlank c = false)
    (h : readComment? (c :: cs) = some (s, rest)) : next c cs = (s, rest) := by
  simp [next, readBlank?_eq_none hb, h]

theorem next_of_readString? (hb : isBlank c = false) (hc : c ≠ '/')
    (h : readString? (c :: cs) = some (s, rest)) : next c cs = (s, rest) := by
  simp [next, readBlank?_eq_none hb, readComment?_eq_none hc, h]

theorem next_of_readNumber? (hb : isBlank c = false) (hc : c ≠ '/') (hs : c ≠ '"')
    (h : readNumber? (c :: cs) = some (s, rest)) : next c cs = (s, rest) := by
  simp [next, readBlank?_eq_none hb, readComment?_eq_none hc, readString?_eq_none hs, h]

theorem next_of_readWord? (hb : isBlank c = false) (hc : c ≠ '/') (hs : c ≠ '"')
    (hd : c.isDigit = false) (h : readWord? (c :: cs) = some (s, rest)) :
    next c cs = (s, rest) := by
  simp [next, readBlank?_eq_none hb, readComment?_eq_none hc, readString?_eq_none hs,
    readNumber?_eq_none hd, h]

theorem next_of_readOperator? (hb : isBlank c = false) (hc : readComment? (c :: cs) = none)
    (hs : c ≠ '"') (hd : c.isDigit = false) (hw : isWordStart c = false)
    (h : readOperator? (c :: cs) = some (s, rest)) : next c cs = (s, rest) := by
  simp [next, readBlank?_eq_none hb, hc, readString?_eq_none hs, readNumber?_eq_none hd,
    readWord?_eq_none hw, h]

/-- A text whose first character begins nothing starts with an unexpected character. -/
theorem next_unexpected (h : WellFormed (unexpected c)) : next c cs = (unexpected c, cs) := by
  obtain ⟨hb, hs, hd, hw, ho⟩ := h
  have hc : c ≠ '/' := by
    rintro rfl
    exact ho .slash rfl
  have hnone : readOperator? (c :: cs) = none := by
    rw [readOperator?, Option.map_eq_none_iff, Operator.longest?_eq_none_iff]
    intro o hprefix
    obtain ⟨p, -, hp⟩ := o.exists_spelling_eq_take_one
    obtain ⟨d, ds, hspelling⟩ := List.exists_cons_of_ne_nil o.spelling_ne_nil
    rw [hspelling] at hprefix hp
    exact ho p (by rw [hp, (List.cons_prefix_cons.mp hprefix).1]; rfl)
  simp [next, readBlank?_eq_none hb, readComment?_eq_none hc, readString?_eq_none hs,
    readNumber?_eq_none hd, readWord?_eq_none hw, hnone]

theorem readWord?_word {name : List Char} (hs : WellFormed (word name))
    (he : EndsBefore (word name) rest) :
    readWord? ((word name).text ++ rest) = some (word name, rest) := by
  obtain ⟨d, ds, rfl, hd, hds⟩ := hs
  simp only [text, List.cons_append, readWord?, hd, if_true, takeWhile_run hds he,
    dropWhile_run hds he]

/-- A text that starts with a slash that ends properly starts with no comment. -/
theorem readComment?_slash (he : EndsBefore (operator .slash) rest) :
    readComment? ('/' :: rest) = none := by
  have hmark := he.2 rfl
  unfold readComment?
  split
  · rename_i heq
    cases heq
    exact absurd (hmark _ rfl) (by decide)
  · rename_i heq
    cases heq
    exact absurd (hmark _ rfl) (by decide)
  · rfl

/-! A segment in front of a text is read by its own reader, and the readers before that one leave
it alone, which its first character decides. -/

theorem next_blank {b : Char} (happ : (blank b).text ++ rest = c :: cs)
    (hs : WellFormed (blank b)) : next c cs = (blank b, rest) := by
  cases happ
  simp [next, readBlank?, show isBlank c = true from hs]

theorem eq_of_head?_text {d : Char} (happ : s.text ++ rest = c :: cs)
    (hfirst : s.text.head? = some d) : d = c := by
  obtain ⟨more, htext⟩ := List.head?_eq_some_iff.mp hfirst
  rw [htext] at happ
  exact (List.cons.inj happ).1

theorem next_comment (happ : s.text ++ rest = c :: cs) (hfirst : s.text.head? = some '/')
    (hread : readComment? (s.text ++ rest) = some (s, rest)) : next c cs = (s, rest) := by
  obtain rfl := eq_of_head?_text happ hfirst
  rw [happ] at hread
  exact next_of_readComment? rfl hread

theorem next_string (happ : s.text ++ rest = c :: cs) (hfirst : s.text.head? = some '"')
    (hread : readString? (s.text ++ rest) = some (s, rest)) : next c cs = (s, rest) := by
  obtain rfl := eq_of_head?_text happ hfirst
  rw [happ] at hread
  exact next_of_readString? rfl (by decide) hread

theorem next_number {whole fraction : List Char}
    (happ : (number whole fraction).text ++ rest = c :: cs)
    (hs : WellFormed (number whole fraction)) (he : EndsBefore (number whole fraction) rest) :
    next c cs = (number whole fraction, rest) := by
  have hread := readNumber?_number hs he
  rw [happ] at hread
  have hdigit : c.isDigit = true := by
    cases hdigit : c.isDigit with
    | true => rfl
    | false => rw [readNumber?_eq_none hdigit] at hread; cases hread
  have hpart := isWordPart_of_isDigit hdigit
  obtain ⟨hquote, hslash⟩ := ne_mark_of_isWordPart hpart
  exact next_of_readNumber? (isBlank_of_isWordPart hpart) hslash hquote hread

theorem next_word {name : List Char} (happ : (word name).text ++ rest = c :: cs)
    (hs : WellFormed (word name)) (he : EndsBefore (word name) rest) :
    next c cs = (word name, rest) := by
  have hread := readWord?_word hs he
  rw [happ] at hread
  have hstart : isWordStart c = true := by
    cases hstart : isWordStart c with
    | true => rfl
    | false => rw [readWord?_eq_none hstart] at hread; cases hread
  have hpart := isWordPart_of_isWordStart hstart
  obtain ⟨hquote, hslash⟩ := ne_mark_of_isWordPart hpart
  exact next_of_readWord? (isBlank_of_isWordPart hpart) hslash hquote
    (isDigit_of_isWordStart hstart) hread

theorem next_operator {o : Operator} (happ : (operator o).text ++ rest = c :: cs)
    (he : EndsBefore (operator o) rest) : next c cs = (operator o, rest) := by
  have hread := readOperator?_operator he
  rw [happ] at hread
  obtain ⟨hblank, hquote, hdigit, hword, hslash⟩ := operator_first happ
  refine next_of_readOperator? hblank ?_ hquote hdigit hword hread
  by_cases hc : c = '/'
  · subst hc
    obtain rfl := hslash rfl
    obtain rfl : rest = cs := (List.cons.inj happ).2
    exact readComment?_slash he
  · exact readComment?_eq_none hc

end Complete

/-- **The first segment of a text is the one front part that is well formed and ends where
it must.** -/
theorem next_eq_iff {c : Char} {cs rest : List Char} {s : Segment} :
    next c cs = (s, rest) ↔ IsFirst (c :: cs) s rest := by
  constructor
  · intro h
    have := isFirst_next c cs
    rwa [h] at this
  · rintro ⟨happ, hs, he⟩
    cases s with
    | blank b => exact next_blank happ hs
    | lineComment body => exact next_comment happ rfl (readComment?_lineComment hs he)
    | blockComment body => exact next_comment happ rfl (readComment?_blockComment hs)
    | string value => exact next_string happ rfl (readString?_string hs)
    | number whole fraction => exact next_number happ hs he
    | word name => exact next_word happ hs he
    | operator o => exact next_operator happ he
    | unexpected d =>
        cases happ
        exact next_unexpected hs
    -- What is not closed ends where the text ends.
    | openString body =>
        cases he
        exact next_string happ rfl (by rw [List.append_nil, readString?_openString hs])
    | openComment body =>
        cases he
        exact next_comment happ rfl (by rw [List.append_nil, readComment?_openComment hs])

end Segment
end LoxScan

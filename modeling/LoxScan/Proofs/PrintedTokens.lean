import Mathlib.Control.Monad.Basic
import LoxScan.Cli.Report
import LoxScan.Proofs.RoundTrip
import LoxScan.Segment.Characters

/-! # Printed tokens can be told apart

A token is printed on a line of its own, with its lexeme between apostrophes and its value
between parentheses, and nothing in them is escaped.  A string may hold line feeds,
apostrophes and whatever else the printed form consists of, so the printed text cannot be cut
into lines, and it may look as if it held more tokens than it does.  Yet it determines the
tokens (`printed_injective`).

It is read from the front.  Before the lexeme no apostrophe is printed, which tells where the
lexeme begins.  A lexeme that begins with a double quote goes on to the next one, and any other
lexeme goes on to the next apostrophe, as it holds none (`Delimited`).  So the lexeme is known;
it tells the kind and the value (`Token.Scanned.eq_of_lexeme_eq`), hence how long the rest of
the token is. -/

namespace LoxScan

open Segment

variable {c : Char} {as bs xs ys : List Char}

/-- Two texts that agree are cut alike in front of the first occurrence of a character. -/
theorem eq_of_append_cons_eq (ha : c ∉ as) (hb : c ∉ bs) (h : as ++ c :: xs = bs ++ c :: ys) :
    as = bs ∧ xs = ys := by
  rcases List.append_eq_append_iff.mp h with ⟨ms, rfl, hms⟩ | ⟨ms, rfl, hms⟩
  · cases ms with
    | nil => simpa using hms
    | cons m ms =>
        obtain ⟨rfl, -⟩ := List.cons.inj hms
        simp at hb
  · cases ms with
    | nil => simpa [eq_comm] using hms
    | cons m ms =>
        obtain ⟨rfl, -⟩ := List.cons.inj hms
        simp at ha

/-! ### Lexemes between apostrophes -/

/-- The text shows where it ends if an apostrophe follows it: it is quoted, or it has neither
quotes nor apostrophes. -/
def Delimited (cs : List Char) : Prop :=
  (∃ value, '"' ∉ value ∧ cs = '"' :: (value ++ ['"'])) ∨ ('"' ∉ cs ∧ '\x27' ∉ cs)

/-- A text without double quotes does not begin with one in front of an apostrophe. -/
theorem head?_ne_quote (h : '"' ∉ as) : (as ++ '\x27' :: xs).head? ≠ some '"' := by
  cases as with
  | nil => simp
  | cons a as =>
      intro ha
      have hquote : a = '"' := by simpa using ha
      subst hquote
      simp at h

/-- **A delimited text is known from what follows its opening apostrophe.** -/
theorem Delimited.eq_of_append_eq (ha : Delimited as) (hb : Delimited bs)
    (h : as ++ '\x27' :: xs = bs ++ '\x27' :: ys) : as = bs ∧ xs = ys := by
  rcases ha with ⟨v, hv, rfl⟩ | ⟨haq, ha⟩ <;> rcases hb with ⟨w, hw, rfl⟩ | ⟨hbq, hb⟩
  · have hvw : v ++ '"' :: '\x27' :: xs = w ++ '"' :: '\x27' :: ys := by simpa using h
    obtain ⟨rfl, hrest⟩ := eq_of_append_cons_eq hv hw hvw
    exact ⟨rfl, (List.cons.inj hrest).2⟩
  · exact absurd (by rw [← h]; rfl) (head?_ne_quote hbq)
  · exact absurd (by rw [h]; rfl) (head?_ne_quote haq)
  · exact eq_of_append_cons_eq ha hb h

/-! ### Tokens of a scan -/

namespace Token

variable {t u : Token}

/-- Some scan that has succeeded has found the token. -/
def Scanned (t : Token) : Prop := ∃ source ts, scan source = .ok ts ∧ t ∈ ts

/-- A token that was found is the mark at the end, or it is well formed. -/
theorem Scanned.eq_eof_or_wellFormed (h : t.Scanned) : t = .eof t.line ∨ t.WellFormed := by
  obtain ⟨source, ts, hscan, ht⟩ := h
  obtain ⟨us, rfl, hus⟩ := exists_wellFormed_of_scan hscan
  rcases List.mem_append.mp ht with ht | ht
  · exact .inr (hus t ht)
  · rw [List.mem_singleton.mp ht]
    exact .inl rfl

/-- **The lexeme of a token that was found is delimited.** -/
theorem Scanned.delimited (h : t.Scanned) : Delimited t.lexeme.toList := by
  rcases h.eq_eof_or_wellFormed with ht | ht
  · rw [ht]
    exact .inr ⟨List.not_mem_nil, List.not_mem_nil⟩
  · obtain ⟨s, hs, htext, hitem⟩ := ht.exists_segment
    rw [← htext]
    have hyields := hitem t.line
    cases s with
    | string value => exact .inl ⟨value, hs, rfl⟩
    | number whole fraction =>
        exact .inr ⟨quote_not_mem_text rfl hs, apostrophe_not_mem_text rfl hs⟩
    | word name => exact .inr ⟨quote_not_mem_text rfl hs, apostrophe_not_mem_text rfl hs⟩
    | operator o => exact .inr ⟨quote_not_mem_text rfl hs, apostrophe_not_mem_text rfl hs⟩
    | _ => cases hyields

/-- **The lexeme and the line of a token that was found determine it.** -/
theorem Scanned.eq_of_lexeme_eq (ht : t.Scanned) (hu : u.Scanned) (hlexeme : t.lexeme = u.lexeme)
    (hline : t.line = u.line) : t = u := by
  rcases ht.eq_eof_or_wellFormed with ht | ht <;> rcases hu.eq_eof_or_wellFormed with hu | hu
  · rw [ht, hu, hline]
  · rw [ht] at hlexeme
    exact absurd hlexeme.symm hu.lexeme_ne_empty
  · rw [hu] at hlexeme
    exact absurd hlexeme ht.lexeme_ne_empty
  · have hcontent := ht.content_eq hu hlexeme
    obtain ⟨kind, lexeme, literal, line⟩ := t
    cases hcontent
    cases hline
    rfl

/-! ### The printed form -/

/-- What is printed of a token in front of its lexeme. -/
def opening (t : Token) : List Char :=
  '[' :: (Nat.toDigits 10 t.line ++ ']' :: ' ' :: (t.kind.name.toList ++ [' ']))

/-- What is printed of a token behind its lexeme. -/
def closing (t : Token) : List Char :=
  ' ' :: '(' :: (((t.literal?.map Literal.display).getD "").toList ++ [')'])

theorem toList_display (t : Token) :
    t.display.toList = t.opening ++ '\x27' :: (t.lexeme.toList ++ '\x27' :: t.closing) := by
  simp [display, opening, closing, Nat.toList_repr]

theorem apostrophe_not_mem_name (k : Kind) : '\x27' ∉ k.name.toList := by
  have hall : ∀ k ∈ Kind.all, '\x27' ∉ k.name.toList := by decide +kernel
  exact hall k (Kind.mem_all k)

theorem apostrophe_not_mem_opening (t : Token) : '\x27' ∉ t.opening := by
  have hdigits := Text.not_mem_toDigits (c := '\x27') rfl t.line
  have hname := apostrophe_not_mem_name t.kind
  simp [opening, hdigits, hname]

theorem line_eq_of_opening_eq (h : t.opening = u.opening) : t.line = u.line := by
  have hbracket (n : Nat) : ']' ∉ Nat.toDigits 10 n := Text.not_mem_toDigits rfl n
  obtain ⟨hdigits, -⟩ := eq_of_append_cons_eq (hbracket _) (hbracket _) (List.cons.inj h).2
  rw [← Nat.ofDigitChars_ten_toDigits (n := t.line), hdigits, Nat.ofDigitChars_ten_toDigits]

/-- **A printed token is known from any text that begins with it.** -/
theorem Scanned.eq_of_display_append_eq (ht : t.Scanned) (hu : u.Scanned)
    (h : t.display.toList ++ xs = u.display.toList ++ ys) : t = u ∧ xs = ys := by
  rw [toList_display, toList_display] at h
  simp only [List.append_assoc, List.cons_append] at h
  obtain ⟨hopening, hrest⟩ :=
    eq_of_append_cons_eq t.apostrophe_not_mem_opening u.apostrophe_not_mem_opening h
  obtain ⟨hlexeme, hrest⟩ := ht.delimited.eq_of_append_eq hu.delimited hrest
  obtain rfl := ht.eq_of_lexeme_eq hu (String.toList_inj.mp hlexeme)
    (line_eq_of_opening_eq hopening)
  exact ⟨rfl, List.append_cancel_left hrest⟩

end Token

/-! ### Rows of tokens -/

theorem toList_printed_report (r : Report) :
    r.printed.toList = r.tokens.flatMap fun t => t.display.toList ++ ['\n'] := by
  simp [Report.printed, String.toList_join, List.flatMap_map]

/-- **Printed tokens are uniquely decodable.**  If two rows of tokens, each found by some scan,
are printed as the same text, then they are the same tokens. -/
theorem printed_injective {r r' : Report} (hr : ∀ t ∈ r.tokens, t.Scanned)
    (hr' : ∀ t ∈ r'.tokens, t.Scanned) (h : r.printed = r'.printed) : r.tokens = r'.tokens := by
  have htext : r.printed.toList = r'.printed.toList := by rw [h]
  rw [toList_printed_report, toList_printed_report] at htext
  generalize r.tokens = ts at hr htext
  generalize r'.tokens = us at hr' htext
  -- Each token is known from the text that it begins, and then so is the rest of the text.
  induction ts generalizing us with
  | nil =>
      cases us with
      | nil => rfl
      | cons u us => simp [Token.toList_display, Token.opening] at htext
  | cons t ts ih =>
      cases us with
      | nil => simp [Token.toList_display, Token.opening] at htext
      | cons u us =>
          obtain ⟨ht, hts⟩ := List.forall_mem_cons.mp hr
          obtain ⟨hu, hus⟩ := List.forall_mem_cons.mp hr'
          rw [List.flatMap_cons, List.flatMap_cons, List.append_assoc, List.append_assoc] at htext
          obtain ⟨rfl, hrest⟩ := ht.eq_of_display_append_eq hu htext
          rw [ih hts us hus (List.cons.inj hrest).2]

/-- A string that looks like the end of its own line and like a further token, found by either
way of scanning. -/
theorem printed_injective_imitation :
    (∀ t ∈ (Report.ofSource false "\"' ()\n[1] EOF '' ()\"").tokens, t.Scanned) ∧
      (∀ t ∈ (Report.ofSource true "\"' ()\n[1] EOF '' ()\"").tokens, t.Scanned) ∧
      (Report.ofSource false "\"' ()\n[1] EOF '' ()\"").printed =
        (Report.ofSource true "\"' ()\n[1] EOF '' ()\"").printed ∧
      (Report.ofSource false "\"' ()\n[1] EOF '' ()\"").tokens =
        (Report.ofSource true "\"' ()\n[1] EOF '' ()\"").tokens := by
  have hstopping : scan "\"' ()\n[1] EOF '' ()\"" =
      .ok (Report.ofSource false "\"' ()\n[1] EOF '' ()\"").tokens := by decide +kernel
  have hrecovering : scan "\"' ()\n[1] EOF '' ()\"" =
      .ok (Report.ofSource true "\"' ()\n[1] EOF '' ()\"").tokens := by decide +kernel
  have hprinted : (Report.ofSource false "\"' ()\n[1] EOF '' ()\"").printed =
      (Report.ofSource true "\"' ()\n[1] EOF '' ()\"").printed := by decide +kernel
  have hr : ∀ t ∈ (Report.ofSource false "\"' ()\n[1] EOF '' ()\"").tokens, t.Scanned :=
    fun t ht => ⟨_, _, hstopping, ht⟩
  have hr' : ∀ t ∈ (Report.ofSource true "\"' ()\n[1] EOF '' ()\"").tokens, t.Scanned :=
    fun t ht => ⟨_, _, hrecovering, ht⟩
  exact ⟨hr, hr', hprinted, printed_injective hr hr' hprinted⟩

end LoxScan

import LoxScan.Text.Alphabetic
import LoxScan.Text.Numeric

/-! # The character classes of the lexical grammar

Four classes decide where a lexeme begins and how far it goes.  A **blank** separates
lexemes and is otherwise ignored; there are four of them, and the white space of other
scripts is not among them.  A **digit** is one of the ten ASCII digits (`Char.isDigit`).
A **word start** begins a name or a reserved word, and **word parts** continue it; these
two follow the Unicode properties, so that names may be written in any script.

Blanks, digits, word starts and the double quote are pairwise disjoint: the first
character of a lexeme decides what it is. -/

namespace LoxScan.Text

/-- Space, tab, carriage return and line feed. -/
def isBlank (c : Char) : Bool := c = ' ' || c = '\t' || c = '\r' || c = '\n'

/-- What a name may begin with: an alphabetic character or an underscore. -/
def isWordStart (c : Char) : Bool := c = '_' || isAlphabetic c

/-- What a name may go on with: an alphabetic or numeric character or an underscore. -/
def isWordPart (c : Char) : Bool := c = '_' || isAlphabetic c || isNumeric c

theorem isWordPart_of_isWordStart {c : Char} (h : isWordStart c = true) :
    isWordPart c = true := by
  simp only [isWordStart, isWordPart, Bool.or_eq_true] at h ⊢
  exact .inl h

/-! ### Below code point 128

There the classes are read off the tables by evaluation. -/

/-- What holds of the 128 ASCII characters one by one holds of every character below
code point 128. -/
theorem forall_ascii {P : Char → Prop} (h : ∀ n < 128, P (Char.ofNat n)) {c : Char}
    (hc : c.toNat < 128) : P c := by
  have := h c.toNat hc
  rwa [Char.ofNat_toNat] at this

/-- An ASCII character is numeric exactly if it is a digit. -/
theorem isNumeric_of_lt {c : Char} (h : c.toNat < 128) : isNumeric c = c.isDigit :=
  forall_ascii (P := fun c => isNumeric c = c.isDigit) (by decide +kernel) h

theorem toNat_lt_of_isDigit {c : Char} (h : c.isDigit = true) : c.toNat < 128 := by
  simp only [Char.isDigit, Bool.and_eq_true, decide_eq_true_eq] at h
  exact Nat.lt_of_le_of_lt (UInt32.le_iff_toNat_le.mp h.2) (by decide)

/-- A name may go on with every digit. -/
theorem isWordPart_of_isDigit {c : Char} (h : c.isDigit = true) : isWordPart c = true := by
  simp [isWordPart, isNumeric_of_lt (toNat_lt_of_isDigit h), h]

/-- A digit begins no name. -/
theorem isWordStart_of_isDigit {c : Char} (h : c.isDigit = true) : isWordStart c = false :=
  forall_ascii (P := fun c => c.isDigit = true → isWordStart c = false) (by decide +kernel)
    (toNat_lt_of_isDigit h) h

/-- A number is written with digits and nothing else. -/
theorem not_mem_toDigits {c : Char} (h : c.isDigit = false) (n : Nat) : c ∉ Nat.toDigits 10 n := by
  intro hmem
  rw [Nat.isDigit_of_mem_toDigits (by decide) (by decide) hmem] at h
  cases h

/-- The four blanks. -/
theorem isBlank_iff {c : Char} :
    isBlank c = true ↔ c = ' ' ∨ c = '\t' ∨ c = '\r' ∨ c = '\n' := by
  simp [isBlank, or_assoc]

/-- A blank neither begins a name nor continues one. -/
theorem isWordPart_of_isBlank {c : Char} (h : isBlank c = true) : isWordPart c = false := by
  rcases isBlank_iff.mp h with rfl | rfl | rfl | rfl <;> decide +kernel

theorem isBlank_of_isWordPart {c : Char} (h : isWordPart c = true) : isBlank c = false := by
  cases hb : isBlank c with
  | false => rfl
  | true => rw [isWordPart_of_isBlank hb] at h; cases h

/-- A word starts with no digit. -/
theorem isDigit_of_isWordStart {c : Char} (h : isWordStart c = true) : c.isDigit = false := by
  cases hd : c.isDigit with
  | false => rfl
  | true => rw [isWordStart_of_isDigit hd] at h; cases h

/-- The double quote and the slash are neither digits nor word parts. -/
theorem not_isWordPart_mark {c : Char} (h : c = '"' ∨ c = '/') : isWordPart c = false := by
  rcases h with rfl | rfl <;> decide +kernel

/-- A word part is no mark that opens a string or a comment. -/
theorem ne_mark_of_isWordPart {c : Char} (h : isWordPart c = true) : c ≠ '"' ∧ c ≠ '/' := by
  constructor <;> rintro rfl
  · rw [not_isWordPart_mark (.inl rfl)] at h; cases h
  · rw [not_isWordPart_mark (.inr rfl)] at h; cases h

end LoxScan.Text

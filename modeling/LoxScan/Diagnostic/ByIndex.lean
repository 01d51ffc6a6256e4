import LoxScan.Diagnostic

/-! # Quoting by index

`Diagnostic.excerpt` asks for three lines by their numbers and keeps those that exist.  A machine
goes another way.  Its numbers are words of 64 bits, and its lines stand in an array whose places
are counted from zero, so the number of a line and its place are one apart.  Ones are added and
taken away on the way from a line to its neighbours, and that must not lead beyond the ends of
the range of words, nor to a place where no line is.

`context?` is this way of quoting.  A sum or a difference that is no word has no result, and
neither has a look at a place behind the last line. -/

namespace LoxScan

/-! ### Words -/

namespace Word

/-- The sum of two words, if it is a word. -/
def add? (a b : UInt64) : Option UInt64 :=
  if a.toNat + b.toNat < UInt64.size then some (a + b) else none

/-- The difference of two words, if it is a word. -/
def sub? (a b : UInt64) : Option UInt64 := if b ≤ a then some (a - b) else none

variable {a b c : UInt64}

theorem add?_eq_some_iff : add? a b = some c ↔ a.toNat + b.toNat = c.toNat := by
  rw [add?, Option.ite_none_right_eq_some, Option.some.injEq]
  constructor
  · rintro ⟨hlt, rfl⟩
    rw [UInt64.toNat_add, Nat.mod_eq_of_lt hlt]
  · intro h
    have hlt : a.toNat + b.toNat < UInt64.size := h ▸ c.toNat_lt
    refine ⟨hlt, UInt64.toNat_inj.mp ?_⟩
    rw [UInt64.toNat_add, Nat.mod_eq_of_lt hlt, h]

theorem sub?_eq_some_iff : sub? a b = some c ↔ c.toNat + b.toNat = a.toNat := by
  rw [sub?, Option.ite_none_right_eq_some, Option.some.injEq, UInt64.le_iff_toNat_le]
  constructor
  · rintro ⟨hle, rfl⟩
    rw [UInt64.toNat_sub_of_le a b (UInt64.le_iff_toNat_le.mpr hle), Nat.sub_add_cancel hle]
  · intro h
    have hle : b.toNat ≤ a.toNat := h ▸ Nat.le_add_left _ _
    refine ⟨hle, UInt64.toNat_inj.mp ?_⟩
    rw [UInt64.toNat_sub_of_le a b (UInt64.le_iff_toNat_le.mpr hle), ← h, Nat.add_sub_cancel]

/-- A sum below the end of the range is a word. -/
theorem exists_add?_eq_some (h : a.toNat + b.toNat < UInt64.size) :
    ∃ c, add? a b = some c ∧ c.toNat = a.toNat + b.toNat := by
  have hsum : add? a b = some (a + b) := if_pos h
  exact ⟨a + b, hsum, (add?_eq_some_iff.mp hsum).symm⟩

/-- A difference that is not negative is a word. -/
theorem exists_sub?_eq_some (h : b.toNat ≤ a.toNat) :
    ∃ c, sub? a b = some c ∧ c.toNat + b.toNat = a.toNat := by
  have hdifference : sub? a b = some (a - b) := if_pos (UInt64.le_iff_toNat_le.mpr h)
  exact ⟨a - b, hdifference, sub?_eq_some_iff.mp hdifference⟩

end Word

namespace Diagnostic

/-- The line at a place, behind its number, which is right-aligned in so many columns. -/
def quoteAt? (lines : Array (List Char)) (width : Nat) (style : Style) (number place : UInt64) :
    Option Styled :=
  lines[place.toNat]?.map fun line =>
    [.plain [' ', ' '], .styled style ((Nat.toDigits 10 number.toNat).leftpad width ' '),
     .plain [' ', '|', ' '], .plain (line ++ ['\n'])]

/-- The line in front of a place, if there is one, whose number is that of the place. -/
def before? (lines : Array (List Char)) (width : Nat) (place : UInt64) : Option Styled :=
  if 0 < place then do quoteAt? lines width .blue place (← Word.sub? place 1)
  else some []

/-- The line behind the one with a number and a place, if there is one. -/
def after? (lines : Array (List Char)) (width : Nat) (number place : UInt64) : Option Styled := do
  let next ← Word.add? place 1
  if next.toNat < lines.size then quoteAt? lines width .blue (← Word.add? number 1) next
  else some []

/-- The line with the given number between its neighbours, found by their places. -/
def context? (lines : Array (List Char)) (number : UInt64) : Option Styled :=
  if number = 0 ∨ lines.size < number.toNat then some []
  else do
    let place ← Word.sub? number 1
    let width := (Nat.toDigits 10 (← Word.add? number 1).toNat).length
    let before ← before? lines width place
    let own ← quoteAt? lines width .boldBlue number place
    let after ← after? lines width number place
    return before ++ own ++ after

example : context? #[['a'], ['b']] 2 =
    some ((excerpt [['a'], ['b']] 2).flatMap (quotation 2)) := by decide +kernel

end Diagnostic
end LoxScan

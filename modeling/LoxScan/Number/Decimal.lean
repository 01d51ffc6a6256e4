/-! # Decimals

A decimal is a natural number times a power of ten.  Number lexemes denote decimals, and
doubles are printed as decimals, so this is the type in which reading and printing meet.

The exact value of a decimal is kept as a fraction of natural numbers, counted in **units**
of `2 ^ (-1074)`.  That is the finest spacing of doubles: every finite double is a whole
number of units, and comparing a decimal with doubles needs no negative exponent. -/

namespace LoxScan

/-- The number `coefficient · 10 ^ exponent`. -/
structure Decimal where
  coefficient : Nat
  exponent : Int
  deriving DecidableEq, Repr

namespace Decimal

/-- The number written as `whole.fraction`; with an empty fraction, the whole number. -/
def ofDigits (whole fraction : List Char) : Decimal :=
  ⟨Nat.ofDigitChars 10 (whole ++ fraction) 0, -fraction.length⟩

/-- The value in units of `2 ^ (-1074)` is `numerator / denominator`. -/
def numerator (d : Decimal) : Nat :=
  d.coefficient * Nat.pow 10 d.exponent.toNat * Nat.pow 2 1074

/-- The value in units of `2 ^ (-1074)` is `numerator / denominator`. -/
def denominator (d : Decimal) : Nat := Nat.pow 10 (-d.exponent).toNat

theorem denominator_pos (d : Decimal) : 0 < d.denominator :=
  Nat.pow_pos (by decide)

/-- The decimal digits of the coefficient, most significant first. -/
def digits (d : Decimal) : List Char := Nat.toDigits 10 d.coefficient

example : ofDigits ['1', '2'] ['5', '0'] = ⟨1250, -2⟩ := by decide

end Decimal
end LoxScan

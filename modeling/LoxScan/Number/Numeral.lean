import LoxScan.Number.Double

/-! # Numerals

A numeral is a text that denotes a number.  It is digits with or without a point among them, a
sign in front if need be, and a power of ten behind an `e`; infinity, and what is no number, have
names.  Other texts are no numerals, so reading one can fail (`Numeral.ofText?`).

What a numeral denotes is a decimal, however many digits it has.  The double that it stands for is
the decimal rounded (`Double.ofText?`). -/

namespace LoxScan

/-- What a numeral denotes. -/
inductive Numeral where
  | decimal (negative : Bool) (value : Decimal)
  | infinite (negative : Bool)
  | notANumber (negative : Bool)
  deriving DecidableEq

namespace Numeral

/-- Whether there is a minus sign in front, and what is behind the sign. -/
def splitSign : List Char → Bool × List Char
  | '-' :: cs => (true, cs)
  | '+' :: cs => (false, cs)
  | cs => (false, cs)

/-- A row of digits, at least one, with or without a sign. -/
def integer? (cs : List Char) : Option Int :=
  let (negative, digits) := splitSign cs
  if digits ≠ [] ∧ digits.all Char.isDigit then
    let n := Nat.ofDigitChars 10 digits 0
    some (if negative then -n else n)
  else none

/-- Digits, at least one, with or without a point in front of, among or behind them. -/
def mantissa? (cs : List Char) : Option Decimal :=
  let whole := cs.takeWhile Char.isDigit
  match cs.dropWhile Char.isDigit with
  | [] => if whole ≠ [] then some (.ofDigits whole []) else none
  | '.' :: fraction =>
      if fraction.all Char.isDigit ∧ (whole ≠ [] ∨ fraction ≠ []) then
        some (.ofDigits whole fraction)
      else none
  | _ => none

def isExponentMark (c : Char) : Bool := c = 'e' || c = 'E'

/-- A mantissa, with or without a power of ten. -/
def unsigned? (cs : List Char) : Option Decimal :=
  let mantissa := cs.takeWhile (!isExponentMark ·)
  match cs.dropWhile (!isExponentMark ·) with
  | [] => mantissa? mantissa
  | _ :: exponent => do
      let d ← mantissa? mantissa
      let e ← integer? exponent
      return ⟨d.coefficient, d.exponent + e⟩

/-- What a text denotes, if it is a numeral.  The names may be in capitals. -/
def ofText? (cs : List Char) : Option Numeral :=
  let (negative, body) := splitSign cs
  let name := body.map Char.toLower
  if name = ['i', 'n', 'f'] ∨ name = ['i', 'n', 'f', 'i', 'n', 'i', 't', 'y'] then
    some (infinite negative)
  else if name = ['n', 'a', 'n'] then some (notANumber negative)
  else (unsigned? body).map (decimal negative)

example : ofText? ['-', '1', '2', '.', '5', 'e', '-', '7'] = some (decimal true ⟨125, -8⟩) := by
  decide +kernel
example : ofText? ['+', '.', '5'] = some (decimal false ⟨5, -1⟩) := by decide +kernel
example : ofText? ['I', 'n', 'f'] = some (infinite false) := by decide +kernel
example : ofText? ['1', '.', '2', '.', '3'] = none := by decide +kernel

/-- The double for which a numeral stands. -/
def double : Numeral → Double
  | decimal negative value => .ofDecimal negative value
  | infinite negative => ⟨negative, Double.infinityMagnitude, by decide⟩
  | notANumber negative => ⟨negative, Double.infinityMagnitude + Nat.pow 2 51, by decide⟩

end Numeral

/-- The double for which a text stands, if it is a numeral. -/
def Double.ofText? (text : String) : Option Double :=
  (Numeral.ofText? text.toList).map Numeral.double

end LoxScan

import LoxScan.Number.Shortest

/-! # How a double is written

Every finite double is written with the digits of its shortest decimal.  Numbers from
`0.0001` up to, but not including, `10 ^ 16` are written out with a decimal point, which
always has a digit on both sides; smaller and larger ones in scientific form, `1.5e-7` or
`1e16`, where a single digit stands without a point.  The sign of zero is kept. -/

namespace LoxScan

namespace Decimal

/-- How many digits stand before the decimal point; zero or less if the number starts behind
it. -/
def pointPosition (d : Decimal) : Int := d.digits.length + d.exponent

/-- The digits with a decimal point among them, filled up with zeros where the point lies
outside. -/
def positional (d : Decimal) : List Char :=
  let point := d.pointPosition
  if point ≤ 0 then
    '0' :: '.' :: List.replicate (-point).toNat '0' ++ d.digits
  else if d.exponent < 0 then
    d.digits.take point.toNat ++ '.' :: d.digits.drop point.toNat
  else
    d.digits ++ List.replicate d.exponent.toNat '0' ++ ['.', '0']

/-- The first digit, the others behind a point, and the power of ten of the first digit. -/
def scientific (d : Decimal) : List Char :=
  let mantissa := match d.digits with
    | first :: second :: rest => first :: '.' :: second :: rest
    | digits => digits
  mantissa ++ 'e' :: (toString (d.pointPosition - 1)).toList

/-- The numbers from `10 ^ (-4)` up to `10 ^ 16` are written out. -/
def isPositional (d : Decimal) : Bool := -4 < d.pointPosition && d.pointPosition ≤ 16

/-- The written form of a positive decimal. -/
def written (d : Decimal) : List Char :=
  if d.isPositional then d.positional else d.scientific

end Decimal

namespace Double

/-- The written form of the absolute value of a double. -/
def writtenMagnitude (magnitude : Nat) : List Char :=
  if magnitude = 0 then ['0', '.', '0']
  else if magnitude = infinityMagnitude then ['i', 'n', 'f']
  else (shortest magnitude).written

/-- The written form of a double. -/
def display (d : Double) : String :=
  if d.isNaN then "NaN"
  else String.ofList ((if d.negative then ['-'] else []) ++ writtenMagnitude d.magnitude)

example : (ofDecimal false ⟨25, -1⟩).display = "2.5" := by decide +kernel
example : (ofDecimal true ⟨0, 0⟩).display = "-0.0" := by decide +kernel
example : (ofDecimal false ⟨1, -4⟩).display = "0.0001" := by decide +kernel
example : (ofDecimal false ⟨12345, -9⟩).display = "1.2345e-5" := by decide +kernel
example : (ofDecimal false ⟨1, 16⟩).display = "1e16" := by decide +kernel
example : (ofDecimal false ⟨9999999999999998, 0⟩).display = "9999999999999998.0" := by
  decide +kernel

end Double
end LoxScan

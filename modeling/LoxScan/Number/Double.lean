import LoxScan.Number.Decimal

/-! # Doubles

A double is the 64-bit binary floating-point number of IEEE 754, kept as its sign and the
other 63 bits read as one natural number, the **magnitude**.  Magnitudes order the absolute
values: the magnitude after `n` belongs to the next larger double, the magnitudes below
`2 ^ 52` are the subnormal numbers, `2047 · 2 ^ 52` is infinity, and everything above is no
number.  So rounding, overflow and the spacing of doubles are questions about naturals.

Reading a decimal is correct rounding: `ofDecimal` picks the nearest double, of two equally
near ones the even one, and infinity from half a spacing above the largest finite double. -/

namespace LoxScan

/-- A 64-bit binary floating-point number: its sign bit and its other bits. -/
structure Double where
  negative : Bool
  magnitude : Nat
  magnitude_lt : magnitude < Nat.pow 2 63
  deriving DecidableEq

namespace Double

/-! ### Bit patterns -/

/-- The double with the given 64 bits; higher bits are ignored. -/
def ofBits (bits : Nat) : Double :=
  ⟨bits.testBit 63, bits % Nat.pow 2 63, Nat.mod_lt _ (by decide)⟩

/-- The 64 bits of a double. -/
def bits (d : Double) : Nat := (if d.negative then Nat.pow 2 63 else 0) + d.magnitude

theorem bits_lt (d : Double) : d.bits < Nat.pow 2 64 := by
  have h := d.magnitude_lt
  unfold bits
  simp only [Nat.pow_eq, Nat.reducePow] at h ⊢
  split <;> omega

/-- The bit pattern determines the double. -/
theorem ofBits_bits (d : Double) : ofBits d.bits = d := by
  obtain ⟨s, m, h⟩ := d
  have hm : m / Nat.pow 2 63 = 0 := Nat.div_eq_of_lt h
  cases s
  · simp only [ofBits, bits, Bool.false_eq_true, if_false, Nat.zero_add, Double.mk.injEq,
      Nat.mod_eq_of_lt h, and_true]
    rw [Nat.testBit_eq_decide_div_mod_eq, hm]
    rfl
  · simp only [ofBits, bits, if_true, Double.mk.injEq, Nat.add_mod_left, Nat.mod_eq_of_lt h,
      and_true]
    rw [Nat.testBit_eq_decide_div_mod_eq, Nat.add_div_left _ (by decide), hm]
    rfl

/-! ### Classes and comparison -/

/-- The magnitude of the two infinities. -/
def infinityMagnitude : Nat := 2047 * Nat.pow 2 52

/-- Above infinity lie the patterns that are no number. -/
def isNaN (d : Double) : Bool := infinityMagnitude < d.magnitude

/-- Numeric equality: nothing equals a pattern that is no number, not even itself, and the
two zeros are equal. -/
def equals (a b : Double) : Bool :=
  !a.isNaN && !b.isNaN && a.magnitude == b.magnitude &&
    (a.negative == b.negative || a.magnitude == 0)

/-- The absolute value of a finite double in units of `2 ^ (-1074)`: the fraction bits, with
the hidden bit above them unless the exponent is the lowest, scaled by the exponent. -/
def units (magnitude : Nat) : Nat :=
  if magnitude < Nat.pow 2 52 then magnitude
  else (Nat.pow 2 52 + magnitude % Nat.pow 2 52) * Nat.pow 2 (magnitude / Nat.pow 2 52 - 1)

/-! ### Rounding -/

/-- The natural number nearest to `num / den`; of two equally near ones, the even one. -/
def roundHalfEven (num den : Nat) : Nat :=
  let quotient := num / den
  let remainder := num % den
  if 2 * remainder < den then quotient
  else if den < 2 * remainder then quotient + 1
  else quotient + quotient % 2

/-- The magnitude of the double nearest to `num / den` units.  The quotient keeps its
leading 53 bits, or fewer where the spacing is one unit, and a carry out of them moves on to
the next exponent by itself. -/
def nearestMagnitude (num den : Nat) : Nat :=
  let shift := (num / den).log2 - 52
  min (shift * Nat.pow 2 52 + roundHalfEven num (den * Nat.pow 2 shift)) infinityMagnitude

theorem nearestMagnitude_le (num den : Nat) : nearestMagnitude num den ≤ infinityMagnitude :=
  Nat.min_le_right _ _

/-- The double nearest to a decimal, with the given sign. -/
def ofDecimal (negative : Bool) (d : Decimal) : Double :=
  ⟨negative, nearestMagnitude d.numerator d.denominator,
    Nat.lt_of_le_of_lt (nearestMagnitude_le _ _) (by decide)⟩

theorem negative_ofDecimal (negative : Bool) (d : Decimal) :
    (ofDecimal negative d).negative = negative := rfl

theorem magnitude_ofDecimal (negative : Bool) (d : Decimal) :
    (ofDecimal negative d).magnitude = nearestMagnitude d.numerator d.denominator := rfl

/-- A decimal never reads as a pattern that is no number. -/
theorem isNaN_ofDecimal (negative : Bool) (d : Decimal) : (ofDecimal negative d).isNaN = false :=
  decide_eq_false (Nat.not_lt.mpr (nearestMagnitude_le _ _))

example : (ofDecimal false ⟨25, -1⟩).bits = 0x4004000000000000 := by decide +kernel
example : (ofDecimal false ⟨9007199254740993, 0⟩).bits = 0x4340000000000000 := by decide +kernel
example : (ofDecimal false ⟨1, 309⟩).magnitude = infinityMagnitude := by decide +kernel

end Double
end LoxScan

import Mathlib.Algebra.Order.Field.Power
import Mathlib.Algebra.Order.Field.Rat
import Mathlib.Tactic.FieldSimp
import Mathlib.Tactic.Linarith
import Mathlib.Tactic.Positivity
import Mathlib.Tactic.Ring
import LoxScan.Number.Display

/-! # The exact values of decimals and doubles

A decimal and a finite double both stand for a rational number, so the question which double
is nearest to a decimal has an exact answer.  The value of a double is read off its sign, its
exponent bits and its fraction bits as the standard says; that it is a whole number of units of
`2 ^ (-1074)` is a theorem (`magnitudeValue_eq`).  The pattern of infinity would have the value
`2 ^ 1024` by the same reading, which is where the finite doubles end. -/

namespace LoxScan

/-- The exact value of a decimal. -/
def Decimal.value (d : Decimal) : ℚ := d.coefficient * 10 ^ d.exponent

/-- A number with its sign. -/
def signed (negative : Bool) (r : ℚ) : ℚ := if negative then -r else r

theorem Decimal.value_nonneg (d : Decimal) : 0 ≤ d.value :=
  mul_nonneg (Nat.cast_nonneg _) (zpow_nonneg (by norm_num) _)

/-- The digits behind the point are so many tenths, hundredths, and so on. -/
theorem Decimal.value_ofDigits (whole fraction : List Char) :
    (ofDigits whole fraction).value =
      Nat.ofDigitChars 10 whole 0 + Nat.ofDigitChars 10 fraction 0 / 10 ^ fraction.length := by
  rw [value, ofDigits, Nat.ofDigitChars_append, Nat.ofDigitChars_eq_ofDigitChars_zero, zpow_neg,
    zpow_natCast, ← div_eq_mul_inv, Nat.cast_add, Nat.cast_mul, Nat.cast_pow, Nat.cast_ofNat,
    add_div, mul_div_cancel_left₀ _ (by positivity)]

/-- Zeros at the end of a coefficient are part of the exponent. -/
theorem Decimal.value_mul_pow (n j : ℕ) (e : ℤ) :
    (⟨n * 10 ^ j, e⟩ : Decimal).value = (⟨n, e + j⟩ : Decimal).value := by
  rw [value, value, zpow_add₀ (by norm_num), zpow_natCast, Nat.cast_mul, Nat.cast_pow,
    Nat.cast_ofNat, mul_comm ((10 : ℚ) ^ e), mul_assoc]

theorem Decimal.value_le_value {n k : ℕ} {e f : ℤ} (hn : n ≤ k) (he : e ≤ f) :
    (⟨n, e⟩ : Decimal).value ≤ (⟨k, f⟩ : Decimal).value :=
  mul_le_mul (Nat.cast_le.mpr hn) (zpow_le_zpow_right₀ (by norm_num) he)
    (zpow_nonneg (by norm_num) _) (Nat.cast_nonneg _)

theorem abs_signed (negative : Bool) {r : ℚ} (h : 0 ≤ r) : |signed negative r| = r := by
  cases negative
  · exact abs_of_nonneg h
  · exact (abs_neg r).trans (abs_of_nonneg h)

theorem abs_signed_sub_signed (negative : Bool) (r q : ℚ) :
    |signed negative r - signed negative q| = |r - q| := by
  cases negative
  · rfl
  · show |-r - -q| = |r - q|
    rw [← abs_neg, neg_sub_neg, neg_sub]

/-- The distance to a signed number is a distance of absolute values once the sign is taken off. -/
theorem abs_sub_signed (negative : Bool) (r q : ℚ) :
    |r - signed negative q| = |signed negative r - q| := by
  cases negative
  · rfl
  · show |r - -q| = |-r - q|
    rw [← abs_neg, neg_sub, ← neg_add', ← neg_add', add_comm]

theorem signed_injective (negative : Bool) : Function.Injective (signed negative) := by
  cases negative
  · exact Function.injective_id
  · exact neg_injective

namespace Double

/-- The value of the bits below the sign: of the exponent, the bits from the 52nd on, and of the
fraction, the bits under it.  With the lowest exponent the number is subnormal and has no
leading one. -/
def magnitudeValue (magnitude : Nat) : ℚ :=
  let exponent : ℕ := magnitude / 2 ^ 52
  let fraction : ℕ := magnitude % 2 ^ 52
  if exponent = 0 then fraction * 2 ^ (-1074 : ℤ)
  else (1 + fraction / 2 ^ 52) * 2 ^ ((exponent : ℤ) - 1023)

/-- The value of a finite double. -/
def value (d : Double) : ℚ := signed d.negative (magnitudeValue d.magnitude)

def isFinite (d : Double) : Bool := d.magnitude < infinityMagnitude

/-- The place of a double in the order of numbers; both zeros have the same. -/
def rank (d : Double) : Int := if d.negative then -d.magnitude else d.magnitude

/-- Numeric comparison: a pattern that is no number is not comparable. -/
def atMost (a b : Double) : Bool := !a.isNaN && !b.isNaN && a.rank ≤ b.rank

/-! ### Values in units -/

/-- The finest spacing of doubles. -/
def unit : ℚ := 2 ^ (-1074 : ℤ)

theorem unit_pos : 0 < unit := zpow_pos (by norm_num) _

theorem units_eq (magnitude : Nat) :
    units magnitude =
      if magnitude < 2 ^ 52 then magnitude
      else (2 ^ 52 + magnitude % 2 ^ 52) * 2 ^ (magnitude / 2 ^ 52 - 1) := rfl

/-- **Every finite double is a whole number of units.** -/
theorem magnitudeValue_eq (magnitude : Nat) :
    magnitudeValue magnitude = units magnitude * unit := by
  rw [units_eq, magnitudeValue]
  by_cases h : magnitude < 2 ^ 52
  · simp only [Nat.div_eq_of_lt h, Nat.mod_eq_of_lt h, if_pos, h, unit]
  · have hexponent : 1 ≤ magnitude / 2 ^ 52 := by omega
    have hne : ¬ magnitude / 2 ^ 52 = 0 := by omega
    simp only [if_neg h, if_neg hne]
    generalize magnitude % 2 ^ 52 = fraction
    generalize magnitude / 2 ^ 52 = exponent at hexponent
    obtain ⟨e, rfl⟩ := Nat.exists_eq_add_of_le hexponent
    have hshift : ((1 + e : ℕ) : ℤ) - 1023 = (e : ℤ) + (-1074) + 52 := by
      push_cast
      ring
    rw [hshift, zpow_add₀ (by norm_num), zpow_add₀ (by norm_num), zpow_natCast,
      Nat.add_sub_cancel_left]
    generalize hunit : (2 : ℚ) ^ (-1074 : ℤ) = u
    rw [show unit = u from hunit]
    push_cast
    ring

theorem magnitudeValue_nonneg (magnitude : Nat) : 0 ≤ magnitudeValue magnitude := by
  rw [magnitudeValue_eq]
  exact mul_nonneg (Nat.cast_nonneg _) unit_pos.le

/-- A power of ten as a fraction of two powers, one of which is one. -/
theorem zpow_eq_pow_div_pow (e : ℤ) : (10 : ℚ) ^ e = 10 ^ e.toNat / 10 ^ (-e).toNat := by
  rw [← zpow_natCast, ← zpow_natCast, ← zpow_sub₀ (by norm_num)]
  congr 1
  omega

theorem pow_mul_zpow {n : ℕ} {e : ℤ} (h : e = -n) : (2 : ℚ) ^ n * 2 ^ e = 1 := by
  rw [h, zpow_neg, zpow_natCast]
  exact mul_inv_cancel₀ (pow_ne_zero n (by norm_num))

/-- The fraction that rounding works on is the value of the decimal in units. -/
theorem numerator_div_denominator (d : Decimal) :
    (d.numerator : ℚ) / d.denominator * unit = d.value := by
  have hunit : (2 : ℚ) ^ 1074 * unit = 1 := pow_mul_zpow rfl
  rw [Decimal.value, zpow_eq_pow_div_pow]
  simp only [Decimal.numerator, Decimal.denominator, Nat.pow_eq, Nat.cast_mul, Nat.cast_pow,
    Nat.cast_ofNat]
  rw [div_mul_eq_mul_div, mul_assoc, hunit, mul_one, mul_div_assoc]

end Double
end LoxScan

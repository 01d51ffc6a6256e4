import LoxScan.Number.Display
import LoxScan.Proofs.CorrectRounding
import LoxScan.Proofs.Numeral
import LoxScan.Proofs.SignificantDigits

/-! # Written numbers are numerals

A decimal that is written out, or in scientific form, reads as a decimal of the same value and
without a significant digit more (`ofText?_written`).  Only the zero behind the point of a whole
number is not a digit of the decimal, and it is not significant. -/

namespace LoxScan

open Rule

namespace Decimal

variable (d : Decimal)

theorem isDigits_digits : IsDigits d.digits := Numeral.isDigits_toDigits d.coefficient

theorem ofDigitChars_digits : Nat.ofDigitChars 10 d.digits 0 = d.coefficient :=
  Nat.ofDigitChars_ten_toDigits

theorem isDigits_zero : IsDigits ['0'] := by
  refine ⟨List.cons_ne_nil _ _, fun c hc => ?_⟩
  rw [List.mem_singleton.mp hc]
  rfl

/-- Two rows of digits, of which one may be empty, are one row. -/
theorem isDigits_append {cs ds : List Char} (hne : cs ++ ds ≠ [])
    (hcs : ∀ c ∈ cs, c.isDigit = true) (hds : ∀ c ∈ ds, c.isDigit = true) : IsDigits (cs ++ ds) :=
  ⟨hne, List.forall_mem_append.mpr ⟨hcs, hds⟩⟩

theorem isDigit_of_mem_zeros {c : Char} {n : Nat} (h : c ∈ List.replicate n '0') :
    c.isDigit = true := by
  rw [List.eq_of_mem_replicate h]
  rfl

/-- The same number with more digits at the end, all of them zero. -/
def withZeros (j : Nat) : Decimal := ⟨d.coefficient * 10 ^ j, d.exponent - j⟩

theorem withZeros_zero : d.withZeros 0 = d := by
  rw [withZeros, pow_zero, mul_one, Nat.cast_zero, sub_zero]

theorem value_withZeros (j : Nat) : (d.withZeros j).value = d.value := by
  rw [withZeros, value_mul_pow, sub_add_cancel]

/-- Zeros at the end are not significant. -/
theorem significantDigits_withZeros_le (j : Nat) :
    (d.withZeros j).significantDigits ≤ d.significantDigits := by
  obtain ⟨a, i, hcoefficient, hlt⟩ := d.exists_significand
  refine significantDigits_le_iff.mpr ⟨a, i + j, ?_, hlt⟩
  rw [withZeros, hcoefficient, pow_add, mul_assoc]

/-! ### Written out -/

/-- **What is written out has a point between digits**, which denote the decimal, perhaps with
zeros at its end. -/
theorem exists_positional :
    ∃ whole fraction, d.positional = whole ++ '.' :: fraction ∧
      IsDigits whole ∧ IsDigits fraction ∧ ∃ j, ofDigits whole fraction = d.withZeros j := by
  have hdigits := d.isDigits_digits
  have hlength : 0 < d.digits.length := List.length_pos_iff.mpr hdigits.1
  have hpoint : d.pointPosition = d.digits.length + d.exponent := rfl
  rw [positional]
  by_cases hbefore : d.pointPosition ≤ 0
  · -- All digits are behind the point.
    rw [if_pos hbefore]
    refine ⟨['0'], List.replicate (-d.pointPosition).toNat '0' ++ d.digits, rfl,
      isDigits_zero, isDigits_append (List.append_ne_nil_of_right_ne_nil _ hdigits.1)
        (fun _ => isDigit_of_mem_zeros) hdigits.2, 0, ?_⟩
    have hrow : ['0'] ++ (List.replicate (-d.pointPosition).toNat '0' ++ d.digits) =
        List.replicate ((-d.pointPosition).toNat + 1) '0' ++ d.digits := rfl
    rw [withZeros_zero, ofDigits, hrow, Nat.ofDigitChars_append, ofDigitChars_replicate_zero,
      zero_mul, ofDigitChars_digits, List.length_append, List.length_replicate]
    congr
    omega
  · rw [if_neg hbefore]
    by_cases hinside : d.exponent < 0
    · -- The point is among the digits.
      rw [if_pos hinside]
      refine ⟨d.digits.take d.pointPosition.toNat, d.digits.drop d.pointPosition.toNat, rfl,
        ⟨?_, fun c hc => hdigits.2 c (List.mem_of_mem_take hc)⟩,
        ⟨?_, fun c hc => hdigits.2 c (List.mem_of_mem_drop hc)⟩, 0, ?_⟩
      · apply List.ne_nil_of_length_pos
        rw [List.length_take]
        omega
      · apply List.ne_nil_of_length_pos
        rw [List.length_drop]
        omega
      · rw [withZeros_zero, ofDigits, List.take_append_drop, ofDigitChars_digits,
          List.length_drop]
        congr
        omega
    · -- All digits are before the point.
      rw [if_neg hinside]
      refine ⟨d.digits ++ List.replicate d.exponent.toNat '0', ['0'], rfl,
        isDigits_append (List.append_ne_nil_of_left_ne_nil hdigits.1 _) hdigits.2
          fun _ => isDigit_of_mem_zeros,
        isDigits_zero, d.exponent.toNat + 1, ?_⟩
      have hrow : d.digits ++ List.replicate d.exponent.toNat '0' ++ ['0'] =
          d.digits ++ List.replicate (d.exponent.toNat + 1) '0' := by
        rw [List.replicate_succ', List.append_assoc]
      rw [withZeros, ofDigits, hrow, Nat.ofDigitChars_append, ofDigitChars_digits,
        ofDigitChars_replicate_zero, List.length_singleton]
      congr
      omega

/-! ### In scientific form -/

/-- In scientific form the point is behind the first digit. -/
theorem exists_scientific :
    ∃ mantissa r, d.scientific = mantissa ++ 'e' :: (toString (d.pointPosition - 1)).toList ∧
      Numeral.IsMantissa mantissa r ∧
      (⟨r.coefficient, r.exponent + (d.pointPosition - 1)⟩ : Decimal) = d := by
  have hdigits := d.isDigits_digits
  have hcoefficient := d.ofDigitChars_digits
  have hpoint : d.pointPosition = d.digits.length + d.exponent := rfl
  rw [scientific]
  cases hcons : d.digits with
  | nil => exact absurd hcons hdigits.1
  | cons first rest =>
      rw [hcons] at hdigits hcoefficient hpoint
      have hfirst : IsDigits [first] := by
        refine ⟨List.cons_ne_nil _ _, fun c hc => ?_⟩
        rw [List.mem_singleton.mp hc]
        exact hdigits.2 first List.mem_cons_self
      have hmoved : (⟨(ofDigits [first] rest).coefficient,
          (ofDigits [first] rest).exponent + (d.pointPosition - 1)⟩ : Decimal) = d := by
        have hwhole : (ofDigits [first] rest).coefficient = d.coefficient := hcoefficient
        have hbehind : (ofDigits [first] rest).exponent = -rest.length := rfl
        rw [List.length_cons] at hpoint
        rw [hwhole, hbehind]
        congr
        omega
      cases rest with
      | nil => exact ⟨[first], _, rfl, Numeral.isMantissa_digits hfirst, hmoved⟩
      | cons second rest =>
          have hrest : IsDigits (second :: rest) :=
            ⟨List.cons_ne_nil _ _, fun c hc => hdigits.2 c (List.mem_cons_of_mem first hc)⟩
          exact ⟨[first] ++ '.' :: second :: rest, _, rfl,
            Numeral.isMantissa_point hfirst hrest, hmoved⟩

/-- **A written decimal is a numeral** of the same value. -/
theorem ofText?_written (negative : Bool) :
    ∃ j, Numeral.ofText? (Numeral.sign negative ++ d.written) =
      some (.decimal negative (d.withZeros j)) := by
  rw [written]
  split
  · obtain ⟨whole, fraction, htext, hwhole, hfraction, j, hvalue⟩ := d.exists_positional
    refine ⟨j, ?_⟩
    rw [htext, ← hvalue]
    exact (Numeral.isMantissa_point hwhole hfraction).ofText?_eq negative
  · obtain ⟨mantissa, r, htext, hmantissa, hmoved⟩ := d.exists_scientific
    refine ⟨0, ?_⟩
    rw [htext, withZeros_zero, hmantissa.ofText?_exponent, hmoved]

/-! ### Which form is chosen -/

/-- The first digit has the place that the position of the point says. -/
theorem pointPosition_bounds (hpos : 0 < d.coefficient) :
    10 ^ (d.pointPosition - 1) ≤ d.value ∧ d.value < 10 ^ d.pointPosition := by
  have hlength : 0 < d.digits.length := List.length_pos_iff.mpr d.isDigits_digits.1
  have hscale : (0 : ℚ) < 10 ^ d.exponent := zpow_pos (by norm_num) _
  have hlower : 10 ^ (d.digits.length - 1) ≤ d.coefficient :=
    pow_le_of_lt_length_toDigits (Nat.sub_lt hlength Nat.one_pos) hpos
  have hupper : d.coefficient < 10 ^ d.digits.length := lt_pow_length_toDigits _
  have hfirst : d.pointPosition - 1 = (d.digits.length - 1 : ℕ) + d.exponent := by
    rw [pointPosition]
    omega
  rw [hfirst, pointPosition, value, zpow_add₀ (by norm_num), zpow_add₀ (by norm_num),
    zpow_natCast, zpow_natCast]
  constructor
  · exact mul_le_mul_of_nonneg_right (by exact_mod_cast hlower) hscale.le
  · exact mul_lt_mul_of_pos_right (by exact_mod_cast hupper) hscale

/-- Numbers from `10 ^ (-4)` up to `10 ^ 16` are written out. -/
theorem isPositional_of_value (hlower : 1 / 10 ^ 4 ≤ d.value) (hupper : d.value < 10 ^ 16) :
    d.isPositional = true := by
  have hpos : 0 < d.coefficient := by
    by_contra hzero
    obtain hzero : d.coefficient = 0 := by omega
    rw [value, hzero, Nat.cast_zero, zero_mul] at hlower
    norm_num at hlower
  obtain ⟨hfirst, hlast⟩ := d.pointPosition_bounds hpos
  have hleft : -4 < d.pointPosition := by
    by_contra hle
    have hpower : (10 : ℚ) ^ d.pointPosition ≤ 10 ^ (-4 : ℤ) :=
      zpow_le_zpow_right₀ (by norm_num) (by omega)
    norm_num at hpower hlower
    linarith
  have hright : d.pointPosition ≤ 16 := by
    by_contra hlt
    have hpower : (10 : ℚ) ^ (16 : ℤ) ≤ 10 ^ (d.pointPosition - 1) :=
      zpow_le_zpow_right₀ (by norm_num) (by omega)
    norm_num at hpower hupper
    linarith
  simp [isPositional, hleft, hright]

end Decimal
end LoxScan

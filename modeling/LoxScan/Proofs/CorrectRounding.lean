import LoxScan.Number.Numeral
import LoxScan.Proofs.RoundingInterval

/-! # Rounding is correct

Reading a decimal gives the double nearest to its value, of two equally near ones the one whose
last bit is zero, and infinity from half a spacing above the largest finite double
(`isCorrectlyRounded_ofDecimal`).  There is only one such double for each sign
(`IsCorrectlyRounded.eq`), so what a decimal reads as is a question about its value, and not about
how it is written or how rounding is computed. -/

namespace LoxScan
namespace Double

/-- The double is what the standard asks for where the exact result is `r`: the nearest finite
double, of two equally near ones the one whose last bit is zero, but infinity from the midpoint
between the largest finite double and `2 ^ 1024` on.  The sign of a result zero is left open. -/
structure IsCorrectlyRounded (r : ℚ) (d : Double) : Prop where
  isNaN_eq : d.isNaN = false
  negative_iff : r ≠ 0 → (d.negative = true ↔ r < 0)
  infinite_iff : d.magnitude = infinityMagnitude ↔ 2 ^ 1024 - 2 ^ 970 ≤ |r|
  nearest : d.isFinite = true → ∀ e : Double, e.isFinite = true → |r - d.value| ≤ |r - e.value|
  tie : d.isFinite = true → ∀ e : Double, e.isFinite = true →
    |r - e.value| = |r - d.value| → e.value = d.value ∨ d.magnitude % 2 = 0

theorem isFinite_iff {d : Double} : d.isFinite = true ↔ d.magnitude < infinityMagnitude :=
  decide_eq_true_iff

/-- A double is its sign and its magnitude. -/
theorem eq_of_magnitude_eq {a b : Double} (hnegative : a.negative = b.negative)
    (hmagnitude : a.magnitude = b.magnitude) : a = b := by
  cases a
  cases b
  congr

theorem isNaN_eq_false_iff {d : Double} : d.isNaN = false ↔ d.magnitude ≤ infinityMagnitude :=
  decide_eq_false_iff_not.trans Nat.not_lt

/-! ### The two ends of the finite doubles -/

theorem magnitudeValue_zero : magnitudeValue 0 = 0 := by
  rw [magnitudeValue_eq, show units 0 = 0 from rfl, Nat.cast_zero, zero_mul]

theorem magnitudeValue_one : magnitudeValue 1 = unit := by
  rw [magnitudeValue_eq, show units 1 = 1 from rfl, Nat.cast_one, one_mul]

theorem magnitudeValue_infinity : magnitudeValue infinityMagnitude = 2 ^ 1024 := by
  have hexponent : infinityMagnitude / 2 ^ 52 = 2047 := by decide
  have hfraction : infinityMagnitude % 2 ^ 52 = 0 := by decide
  simp only [magnitudeValue, hexponent, hfraction]
  norm_num

/-- The largest finite double is one spacing below `2 ^ 1024`. -/
theorem magnitudeValue_largest : magnitudeValue (infinityMagnitude - 1) = 2 ^ 1024 - 2 ^ 971 := by
  have hexponent : (infinityMagnitude - 1) / 2 ^ 52 = 2046 := by decide
  have hfraction : (infinityMagnitude - 1) % 2 ^ 52 = 2 ^ 52 - 1 := by decide
  have hpower : (2 : ℚ) ^ 1024 = 2 ^ 53 * 2 ^ 971 := by rw [← pow_add]
  have hhalf : (2 : ℚ) ^ 1023 = 2 ^ 52 * 2 ^ 971 := by rw [← pow_add]
  have hshift : ((2046 : ℕ) : ℤ) - 1023 = (1023 : ℕ) := rfl
  have hne : ¬ (2046 : ℕ) = 0 := by decide
  simp only [magnitudeValue, hexponent, hfraction, hshift, zpow_natCast, if_neg hne]
  rw [hpower, hhalf]
  generalize (2 : ℚ) ^ 971 = spacing
  push_cast
  ring

/-! ### The order of doubles -/

theorem magnitudeValue_eq_zero_iff {m : Nat} : magnitudeValue m = 0 ↔ m = 0 := by
  rw [← magnitudeValue_zero]
  exact strictMono_magnitudeValue.injective.eq_iff

/-- **Finite doubles compare as their values.** -/
theorem atMost_iff_value_le {a b : Double} (ha : a.isFinite = true) (hb : b.isFinite = true) :
    a.atMost b = true ↔ a.value ≤ b.value := by
  have hanumber := isNaN_eq_false_iff.mpr (isFinite_iff.mp ha).le
  have hbnumber := isNaN_eq_false_iff.mpr (isFinite_iff.mp hb).le
  have haorder := magnitudeValue_nonneg a.magnitude
  have hborder := magnitudeValue_nonneg b.magnitude
  have hazero := magnitudeValue_eq_zero_iff (m := a.magnitude)
  have hbzero := magnitudeValue_eq_zero_iff (m := b.magnitude)
  have hrank : a.atMost b = true ↔ a.rank ≤ b.rank := by simp [atMost, hanumber, hbnumber]
  rw [hrank, rank, rank, value, value, signed, signed]
  cases a.negative <;> cases b.negative
  · simp [strictMono_magnitudeValue.le_iff_le]
  · -- Only if both are zero is a number without a sign at most one with a sign.
    simp only [Bool.false_eq_true, if_false, if_true]
    constructor
    · intro h
      rw [hazero.mpr (by omega), hbzero.mpr (by omega), neg_zero]
    · intro h
      have ham := hazero.mp (by linarith)
      have hbm := hbzero.mp (by linarith)
      omega
  · simp only [Bool.false_eq_true, if_false, if_true]
    exact iff_of_true (by omega) (by linarith)
  · simp [strictMono_magnitudeValue.le_iff_le]

/-! ### What a decimal reads as -/

variable {r q : ℚ} {m n : Nat}

theorem abs_sub_magnitudeValue (r : ℚ) (m : Nat) :
    |r - magnitudeValue m| = |r / unit - units m| * unit := by
  have hunit := unit_pos
  rw [magnitudeValue_eq, ← abs_of_pos hunit, ← abs_mul, sub_mul, abs_of_pos hunit,
    div_mul_cancel₀ _ hunit.ne']

/-- No magnitude is nearer to a number than the one in whose interval it lies, and none is as near
if that is odd. -/
theorem InInterval.nearest (h : InInterval (r / unit) m) (hne : n ≠ m) :
    |r - magnitudeValue m| ≤ |r - magnitudeValue n| ∧
      (m % 2 = 1 → |r - magnitudeValue m| < |r - magnitudeValue n|) := by
  obtain ⟨hle, hlt⟩ := h.abs_sub_le hne
  rw [abs_sub_magnitudeValue, abs_sub_magnitudeValue]
  exact ⟨mul_le_mul_of_nonneg_right hle unit_pos.le,
    fun hodd => mul_lt_mul_of_pos_right (hlt hodd) unit_pos⟩

/-- The sum of two magnitudes is twice a midpoint. -/
theorem midpoint_le_iff (r : ℚ) (m n : Nat) :
    (units m : ℚ) + units n ≤ 2 * (r / unit) ↔ magnitudeValue m + magnitudeValue n ≤ 2 * r := by
  rw [magnitudeValue_eq, magnitudeValue_eq, ← add_mul, ← mul_div_assoc, le_div_iff₀ unit_pos]

theorem le_midpoint_iff (r : ℚ) (m n : Nat) :
    2 * (r / unit) ≤ (units m : ℚ) + units n ↔ 2 * r ≤ magnitudeValue m + magnitudeValue n := by
  rw [magnitudeValue_eq, magnitudeValue_eq, ← add_mul, ← mul_div_assoc, div_le_iff₀ unit_pos]

variable (d : Decimal)

theorem inInterval_value :
    InInterval (d.value / unit) (nearestUnbounded d.numerator d.denominator) := by
  rw [← numerator_div_denominator, mul_div_cancel_right₀ _ unit_pos.ne']
  exact inInterval_nearestUnbounded d.denominator_pos

/-- Infinity begins half a spacing above the largest finite double. -/
theorem nearestMagnitude_eq_infinity_iff :
    nearestMagnitude d.numerator d.denominator = infinityMagnitude ↔
      2 ^ 1024 - 2 ^ 970 ≤ d.value := by
  have hodd : (infinityMagnitude - 1) % 2 = 1 := by decide
  have hnext : infinityMagnitude - 1 + 1 = infinityMagnitude := by decide
  have hthreshold := (inInterval_value d).lt_iff_of_odd hodd
  rw [midpoint_le_iff, hnext, magnitudeValue_infinity, magnitudeValue_largest] at hthreshold
  have hspacing : (2 : ℚ) ^ 971 = 2 * 2 ^ 970 := by rw [← pow_succ']
  rw [hspacing] at hthreshold
  rw [nearestMagnitude_eq, min_eq_right_iff]
  -- The powers are only compared, and are too large to be evaluated.
  generalize (2 : ℚ) ^ 1024 = top at hthreshold ⊢
  generalize (2 : ℚ) ^ 970 = half at hthreshold ⊢
  constructor
  · intro h
    have hle := hthreshold.mp (by omega)
    linarith
  · intro h
    have hlt := hthreshold.mpr (by linarith)
    omega

/-- Up to half the smallest positive double everything is rounded to zero. -/
theorem nearestMagnitude_eq_zero_iff :
    nearestMagnitude d.numerator d.denominator = 0 ↔ d.value ≤ 2 ^ (-1075 : ℤ) := by
  have hthreshold := (inInterval_value d).le_iff_of_even (n := 0) (by decide)
  rw [le_midpoint_iff, magnitudeValue_zero, magnitudeValue_one] at hthreshold
  have hinfinity : 0 < infinityMagnitude := by decide
  have hunit : unit = 2 * 2 ^ (-1075 : ℤ) := by
    rw [unit, ← zpow_one_add₀ (by norm_num)]
    rfl
  rw [hunit] at hthreshold
  rw [nearestMagnitude_eq]
  constructor
  · intro h
    have hle := hthreshold.mp (by omega)
    linarith
  · intro h
    have hle := hthreshold.mpr (by linarith)
    omega

/-- What is not rounded to infinity is rounded to the magnitude in whose interval it lies. -/
theorem inInterval_nearestMagnitude
    (h : nearestMagnitude d.numerator d.denominator < infinityMagnitude) :
    InInterval (d.value / unit) (nearestMagnitude d.numerator d.denominator) := by
  have hinterval := inInterval_value d
  rw [nearestMagnitude_eq] at h ⊢
  rwa [Nat.min_eq_left (by omega)]

/-- Larger decimals do not read as smaller doubles. -/
theorem nearestMagnitude_le_of_value_le {a b : Decimal} (h : a.value ≤ b.value) :
    nearestMagnitude a.numerator a.denominator ≤ nearestMagnitude b.numerator b.denominator := by
  have hle : a.value / unit ≤ b.value / unit := div_le_div_of_nonneg_right h unit_pos.le
  have hmagnitude := (inInterval_value a).le_of_le (inInterval_value b) hle
  rw [nearestMagnitude_eq, nearestMagnitude_eq]
  omega

/-- The value of a double reads as that double. -/
theorem nearestMagnitude_of_value_eq (h : d.value = magnitudeValue m)
    (hm : m ≤ infinityMagnitude) : nearestMagnitude d.numerator d.denominator = m := by
  have hunits : d.value / unit = units m := by
    rw [h, magnitudeValue_eq, mul_div_cancel_right₀ _ unit_pos.ne']
  have hinterval := inInterval_value d
  rw [hunits] at hinterval
  rw [nearestMagnitude_eq, hinterval.unique (InInterval.of_units m), Nat.min_eq_left hm]

/-! ### Reading is correct rounding -/

/-- With the sign of a number, a double is as far from it as their absolute values are apart, and
with the other sign as far as their sum. -/
theorem abs_signed_sub_value (negative : Bool) (hr : 0 ≤ r) (e : Double) :
    |signed negative r - e.value| =
      if e.negative = negative then |r - magnitudeValue e.magnitude|
      else r + magnitudeValue e.magnitude := by
  have hvalue := magnitudeValue_nonneg e.magnitude
  rw [value]
  split
  · rename_i h
    rw [h, abs_signed_sub_signed]
  · rename_i h
    have hopposite : e.negative = !negative := by
      cases negative <;> cases hsign : e.negative <;> simp_all
    rw [hopposite]
    cases negative
    · show |r - -magnitudeValue e.magnitude| = _
      rw [sub_neg_eq_add, abs_of_nonneg (by linarith)]
    · show |-r - magnitudeValue e.magnitude| = _
      rw [abs_of_nonpos (by linarith)]
      ring

/-- The nearest magnitude is no farther away than zero, which is even. -/
theorem InInterval.abs_sub_le_self (h : InInterval (r / unit) m) (hr : 0 ≤ r) :
    |r - magnitudeValue m| ≤ r ∧ (m % 2 = 1 → |r - magnitudeValue m| < r) := by
  have hzero : |r - magnitudeValue 0| = r := by
    rw [magnitudeValue_zero, sub_zero, abs_of_nonneg hr]
  by_cases hm : m = 0
  · subst hm
    exact ⟨hzero.le, fun hodd => absurd hodd (by decide)⟩
  · have hnearest := h.nearest (Ne.symm hm)
    rwa [hzero] at hnearest

/-- **Reading a decimal rounds its value correctly.** -/
theorem isCorrectlyRounded_ofDecimal (negative : Bool) :
    IsCorrectlyRounded (signed negative d.value) (ofDecimal negative d) where
  isNaN_eq := isNaN_ofDecimal negative d
  negative_iff hne := by
    have hvalue := d.value_nonneg
    cases negative
    · exact iff_of_false Bool.false_ne_true (not_lt.mpr hvalue)
    · refine iff_of_true rfl ?_
      show -d.value < 0
      exact neg_lt_zero.mpr (lt_of_le_of_ne hvalue fun h => hne (neg_eq_zero.mpr h.symm))
  infinite_iff := by
    rw [abs_signed negative d.value_nonneg]
    exact nearestMagnitude_eq_infinity_iff d
  nearest hfinite e _ := by
    have hinterval := inInterval_nearestMagnitude d (isFinite_iff.mp hfinite)
    have hself := (hinterval.abs_sub_le_self d.value_nonneg).1
    have hnonneg := magnitudeValue_nonneg e.magnitude
    rw [abs_signed_sub_value negative d.value_nonneg e, value, ofDecimal, abs_signed_sub_signed]
    split
    · by_cases hne : e.magnitude = nearestMagnitude d.numerator d.denominator
      · rw [hne]
      · exact (hinterval.nearest hne).1
    · -- With the other sign, it lies behind zero.
      linarith
  tie hfinite e _ htie := by
    have hinterval := inInterval_nearestMagnitude d (isFinite_iff.mp hfinite)
    have hself := (hinterval.abs_sub_le_self d.value_nonneg).2
    have hnonneg := magnitudeValue_nonneg e.magnitude
    have hsame : |signed negative d.value - (ofDecimal negative d).value| =
        |d.value - magnitudeValue (nearestMagnitude d.numerator d.denominator)| :=
      abs_signed_sub_signed _ _ _
    rw [abs_signed_sub_value negative d.value_nonneg e, hsame] at htie
    show _ ∨ nearestMagnitude d.numerator d.denominator % 2 = 0
    by_cases hne : e.magnitude = nearestMagnitude d.numerator d.denominator ∧ e.negative = negative
    · left
      rw [value, hne.1, hne.2]
      rfl
    · right
      by_contra hparity
      have hodd : nearestMagnitude d.numerator d.denominator % 2 = 1 := by omega
      split at htie
      · rename_i hsign
        have hlt := (hinterval.nearest fun h => hne ⟨h, hsign⟩).2 hodd
        exact absurd htie hlt.ne'
      · have hlt := hself hodd
        linarith

/-! ### Only one double is the correct one -/

/-- What lies between two numbers is nearer to the middle between them. -/
theorem abs_sub_lt_of_between {a b c : ℚ} (hac : a < c) (hcb : c < b) (h : |r - b| = |r - a|) :
    |r - c| < |r - a| := by
  have hmiddle : r - a = b - r := by
    rcases abs_eq_abs.mp h with heq | heq <;> linarith
  have hpos : 0 < r - a := by linarith
  rw [abs_of_pos hpos]
  exact abs_lt.mpr ⟨by linarith, by linarith⟩

namespace IsCorrectlyRounded

variable {a b : Double}

/-- Two doubles of one sign are not both correct: if both are nearest, then both are even, and the
double behind the first is nearer. -/
theorem not_lt (ha : IsCorrectlyRounded r a) (hb : IsCorrectlyRounded r b)
    (hsign : a.negative = b.negative) : ¬ a.magnitude < b.magnitude := by
  intro hlt
  have hbfinite : b.magnitude < infinityMagnitude := by
    refine lt_of_le_of_ne (isNaN_eq_false_iff.mp hb.isNaN_eq) fun hinfinite => ?_
    have hsame := ha.infinite_iff.mpr (hb.infinite_iff.mp hinfinite)
    omega
  have hfa := isFinite_iff.mpr (hlt.trans hbfinite)
  have hfb := isFinite_iff.mpr hbfinite
  have hequal : |r - b.value| = |r - a.value| :=
    le_antisymm (hb.nearest hfb a hfa) (ha.nearest hfa b hfb)
  have hmagnitude := strictMono_magnitudeValue hlt
  have hne : b.value ≠ a.value := by
    rw [value, value, hsign]
    intro h
    exact hmagnitude.ne' (signed_injective _ h)
  have haeven := (ha.tie hfa b hfb hequal).resolve_left hne
  have hbeven := (hb.tie hfb a hfa hequal.symm).resolve_left hne.symm
  -- As both magnitudes are even, there is an odd one between them.
  let c : Double := ⟨a.negative, a.magnitude + 1, by have := b.magnitude_lt; omega⟩
  have hac : magnitudeValue a.magnitude < magnitudeValue c.magnitude :=
    strictMono_magnitudeValue (Nat.lt_succ_self _)
  have hcb : magnitudeValue c.magnitude < magnitudeValue b.magnitude :=
    strictMono_magnitudeValue (show a.magnitude + 1 < b.magnitude by omega)
  have hfc : c.isFinite = true := isFinite_iff.mpr (show a.magnitude + 1 < _ by omega)
  have hc := ha.nearest hfa c hfc
  -- Distances to doubles of one sign are distances of magnitudes.
  rw [value, value, ← hsign, abs_sub_signed, abs_sub_signed] at hequal
  rw [value, value, abs_sub_signed, abs_sub_signed] at hc
  exact absurd hc (not_le.mpr (abs_sub_lt_of_between hac hcb hequal))

/-- **There is one correct double for each sign**, and for each sign of zero. -/
theorem eq (ha : IsCorrectlyRounded r a) (hb : IsCorrectlyRounded r b)
    (hsign : r = 0 → a.negative = b.negative) : a = b := by
  have hnegative : a.negative = b.negative := by
    by_cases hr : r = 0
    · exact hsign hr
    · exact Bool.eq_iff_iff.mpr ((ha.negative_iff hr).trans (hb.negative_iff hr).symm)
  have hmagnitude : a.magnitude = b.magnitude :=
    le_antisymm (Nat.not_lt.mp (hb.not_lt ha hnegative.symm))
      (Nat.not_lt.mp (ha.not_lt hb hnegative))
  exact eq_of_magnitude_eq hnegative hmagnitude

end IsCorrectlyRounded
end Double

/-! ### Numerals -/

namespace Numeral

open Double

/-- The double is the numeral rounded: a decimal correctly, with its sign also at zero, and what
has a name as its name says. -/
def RoundsTo : Numeral → Double → Prop
  | decimal negative r, d => d.negative = negative ∧ IsCorrectlyRounded (signed negative r.value) d
  | infinite negative, d => d.negative = negative ∧ d.magnitude = infinityMagnitude
  | notANumber negative, d => d.negative = negative ∧ d.isNaN = true

/-- **The double for which a numeral stands is the one to which it rounds.** -/
theorem roundsTo_double (x : Numeral) : x.RoundsTo x.double := by
  cases x with
  | decimal negative r => exact ⟨rfl, isCorrectlyRounded_ofDecimal r negative⟩
  | infinite negative => exact ⟨rfl, rfl⟩
  | notANumber negative =>
      have hlt : infinityMagnitude < infinityMagnitude + Nat.pow 2 51 := by decide
      exact ⟨rfl, decide_eq_true hlt⟩

/-- A numeral rounds to one double only, unless it names what is no number. -/
theorem RoundsTo.eq {x : Numeral} {a b : Double} (ha : x.RoundsTo a) (hb : x.RoundsTo b)
    (hnumber : a.isNaN = false) : a = b := by
  cases x with
  | decimal negative r => exact ha.2.eq hb.2 fun _ => ha.1.trans hb.1.symm
  | infinite negative =>
      exact eq_of_magnitude_eq (ha.1.trans hb.1.symm) (ha.2.trans hb.2.symm)
  | notANumber negative =>
      rw [ha.2] at hnumber
      cases hnumber

end Numeral
end LoxScan

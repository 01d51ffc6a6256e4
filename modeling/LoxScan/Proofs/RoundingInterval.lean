import LoxScan.Proofs.ExactValue

/-! # The interval of a double

The magnitudes cut the positive numbers into intervals: to each belong the numbers between the
midpoints to its two neighbours, and the midpoints themselves go to the even one (`InInterval`).
The intervals are in the order of the magnitudes, so a number lies in one only and larger numbers
lie in later ones (`InInterval.le_of_le`); no double is nearer to a number than the one in whose
interval it lies (`InInterval.abs_sub_le`).

As the spacing of doubles is the same up to the next power of two, the leading 53 bits of a number
find its interval (`inInterval_nearestUnbounded`).  This is the only place that looks at how
rounding is computed. -/

namespace LoxScan.Double

/-! ### The spacing of doubles -/

/-- The leading bits of a double and how far they are shifted give its magnitude, also where a
carry has made one bit more of them. -/
theorem units_shift {s k : Nat} (hk : k ≤ 2 ^ 53) (h : s = 0 ∨ 2 ^ 52 ≤ k) :
    units (s * 2 ^ 52 + k) = k * 2 ^ s := by
  rw [units_eq]
  by_cases hsmall : k < 2 ^ 52
  · obtain rfl : s = 0 := h.resolve_right (by omega)
    rw [if_pos (by omega), zero_mul, zero_add, pow_zero, mul_one]
  · rw [if_neg (by omega)]
    by_cases htop : k = 2 ^ 53
    · have hmod : (s * 2 ^ 52 + k) % 2 ^ 52 = 0 := by omega
      have hdiv : (s * 2 ^ 52 + k) / 2 ^ 52 - 1 = s + 1 := by omega
      rw [hmod, hdiv, htop, pow_succ]
      ring
    · have hmod : 2 ^ 52 + (s * 2 ^ 52 + k) % 2 ^ 52 = k := by omega
      have hdiv : (s * 2 ^ 52 + k) / 2 ^ 52 - 1 = s := by omega
      rw [hmod, hdiv]

/-- Every magnitude consists of leading bits and their shift. -/
theorem exists_shift (m : Nat) :
    ∃ s k, m = s * 2 ^ 52 + k ∧ k < 2 ^ 53 ∧ (s = 0 ∨ 2 ^ 52 ≤ k) := by
  refine ⟨m / 2 ^ 52 - 1, m - (m / 2 ^ 52 - 1) * 2 ^ 52, ?_, ?_, ?_⟩ <;> omega

/-- **The magnitudes are in the order of the values.** -/
theorem strictMono_units : StrictMono units := by
  apply strictMono_nat_of_lt_succ
  intro m
  obtain ⟨s, k, rfl, hk, h⟩ := exists_shift m
  have hnext : s = 0 ∨ 2 ^ 52 ≤ k + 1 := h.imp_right fun h => by omega
  rw [add_assoc, units_shift hk.le h, units_shift hk hnext]
  exact Nat.mul_lt_mul_of_pos_right (Nat.lt_succ_self k) (Nat.two_pow_pos s)

theorem units_lt {m n : Nat} (h : m < n) : (units m : ℚ) < units n :=
  Nat.cast_lt.mpr (strictMono_units h)

theorem units_le {m n : Nat} (h : m ≤ n) : (units m : ℚ) ≤ units n :=
  Nat.cast_le.mpr (strictMono_units.monotone h)

theorem strictMono_magnitudeValue : StrictMono magnitudeValue := by
  intro m n h
  rw [magnitudeValue_eq, magnitudeValue_eq]
  exact mul_lt_mul_of_pos_right (units_lt h) unit_pos

/-! ### The interval of a magnitude -/

/-- The number of units lies between the midpoints of the magnitude and its neighbours, and on
one of them only if the magnitude is even. -/
structure InInterval (x : ℚ) (m : Nat) : Prop where
  lower : 0 < m → units (m - 1) + units m ≤ 2 * x
  upper : 2 * x ≤ units m + units (m + 1)
  odd : m % 2 = 1 → units (m - 1) + units m < 2 * x ∧ 2 * x < units m + units (m + 1)

namespace InInterval

variable {x y : ℚ} {m n : Nat}

/-- **The intervals are in the order of the magnitudes.** -/
theorem le_of_le (hx : InInterval x m) (hy : InInterval y n) (h : x ≤ y) : m ≤ n := by
  by_contra hlt
  have hlower := hx.lower (by omega)
  have hupper := hy.upper
  by_cases hadjacent : m = n + 1
  · subst hadjacent
    rw [Nat.add_sub_cancel] at hlower
    -- Both numbers are on the midpoint, which belongs to the even magnitude only.
    by_cases hodd : n % 2 = 1
    · have hstrict := (hy.odd hodd).2
      linarith
    · have hstrict := (hx.odd (by omega)).1
      rw [Nat.add_sub_cancel] at hstrict
      linarith
  · have hfirst : (units n : ℚ) ≤ units (m - 1) := units_le (by omega)
    have hsecond : (units (n + 1) : ℚ) < units m := units_lt (by omega)
    linarith

theorem unique (hm : InInterval x m) (hn : InInterval x n) : m = n :=
  le_antisymm (hm.le_of_le hn le_rfl) (hn.le_of_le hm le_rfl)

/-- No magnitude is nearer than the one in whose interval a number lies, and if that is odd, then
none is as near. -/
theorem abs_sub_le (h : InInterval x m) (hne : n ≠ m) :
    |x - units m| ≤ |x - units n| ∧ (m % 2 = 1 → |x - units m| < |x - units n|) := by
  rcases Nat.lt_or_gt_of_ne hne with hlt | hgt
  · have hn : (units n : ℚ) ≤ units (m - 1) := units_le (by omega)
    have hm : (units (m - 1) : ℚ) < units m := units_lt (by omega)
    have hlower := h.lower (by omega)
    constructor
    · apply le_trans _ (le_abs_self (x - units n))
      exact abs_le.mpr ⟨by linarith, by linarith⟩
    · intro hodd
      have hstrict := (h.odd hodd).1
      apply lt_of_lt_of_le _ (le_abs_self (x - units n))
      exact abs_lt.mpr ⟨by linarith, by linarith⟩
  · have hn : (units (m + 1) : ℚ) ≤ units n := units_le (by omega)
    have hm : (units m : ℚ) < units (m + 1) := units_lt (by omega)
    have hupper := h.upper
    constructor
    · apply le_trans _ (neg_le_abs (x - units n))
      exact abs_le.mpr ⟨by linarith, by linarith⟩
    · intro hodd
      have hstrict := (h.odd hodd).2
      apply lt_of_lt_of_le _ (neg_le_abs (x - units n))
      exact abs_lt.mpr ⟨by linarith, by linarith⟩

/-- The value of a double lies in its own interval. -/
theorem of_units (m : Nat) : InInterval (units m) m where
  lower _ := by
    have hle : (units (m - 1) : ℚ) ≤ units m := units_le (by omega)
    linarith
  upper := by
    have hle : (units m : ℚ) ≤ units (m + 1) := units_le (by omega)
    linarith
  odd hodd := by
    have hbefore : (units (m - 1) : ℚ) < units m := units_lt (by omega)
    have hbehind : (units m : ℚ) < units (m + 1) := units_lt (by omega)
    exact ⟨by linarith, by linarith⟩

/-- Up to an even magnitude round the numbers up to the midpoint behind it. -/
theorem le_iff_of_even (h : InInterval x m) (hn : n % 2 = 0) :
    m ≤ n ↔ 2 * x ≤ units n + units (n + 1) := by
  constructor
  · intro hle
    have hfirst := units_le hle
    have hsecond : (units (m + 1) : ℚ) ≤ units (n + 1) := units_le (by omega)
    have hupper := h.upper
    linarith
  · intro hx
    by_contra hlt
    have hlower := h.lower (by omega)
    by_cases hadjacent : m = n + 1
    · subst hadjacent
      have hstrict := (h.odd (by omega)).1
      rw [Nat.add_sub_cancel] at hstrict
      linarith
    · have hfirst : (units n : ℚ) < units (m - 1) := units_lt (by omega)
      have hsecond : (units (n + 1) : ℚ) < units m := units_lt (by omega)
      linarith

/-- Behind an odd magnitude round the numbers from the midpoint behind it. -/
theorem lt_iff_of_odd (h : InInterval x m) (hn : n % 2 = 1) :
    n < m ↔ units n + units (n + 1) ≤ 2 * x := by
  constructor
  · intro hlt
    have hfirst : (units n : ℚ) ≤ units (m - 1) := units_le (by omega)
    have hsecond : (units (n + 1) : ℚ) ≤ units m := units_le (by omega)
    have hlower := h.lower (by omega)
    linarith
  · intro hx
    by_contra hle
    have hupper := h.upper
    by_cases hequal : m = n
    · subst hequal
      have hstrict := (h.odd hn).2
      linarith
    · have hfirst : (units m : ℚ) < units n := units_lt (by omega)
      have hsecond : (units (m + 1) : ℚ) < units (n + 1) := units_lt (by omega)
      linarith

end InInterval

/-! ### The leading bits find the interval -/

/-- Rounding to a natural number misses by half at most, and by half only to get an even one. -/
theorem roundHalfEven_bounds (num : Nat) {den : Nat} (hden : 0 < den) :
    2 * (roundHalfEven num den * den) ≤ 2 * num + den ∧
      2 * num ≤ 2 * (roundHalfEven num den * den) + den ∧
      (roundHalfEven num den % 2 = 1 →
        2 * (roundHalfEven num den * den) < 2 * num + den ∧
          2 * num < 2 * (roundHalfEven num den * den) + den) := by
  have hnum := Nat.div_add_mod num den
  have hlt := Nat.mod_lt num hden
  simp only [roundHalfEven]
  generalize num / den = quotient at hnum ⊢
  generalize num % den = remainder at hnum hlt ⊢
  rw [mul_comm] at hnum
  have hnext : (quotient + 1) * den = quotient * den + den := by ring
  split
  · omega
  · split
    · rw [hnext]
      omega
    · rcases Nat.mod_two_eq_zero_or_one quotient with heven | hodd
      · rw [heven, add_zero]
        omega
      · rw [hodd, hnext]
        omega

/-- The magnitude of the nearest double, were there no infinity. -/
def nearestUnbounded (num den : Nat) : Nat :=
  let shift := (num / den).log2 - 52
  shift * 2 ^ 52 + roundHalfEven num (den * 2 ^ shift)

theorem nearestMagnitude_eq (num den : Nat) :
    nearestMagnitude num den = min (nearestUnbounded num den) infinityMagnitude := rfl

/-- The shift leaves 53 leading bits, or fewer if nothing is shifted. -/
theorem shift_bounds {num den : Nat} (hden : 0 < den) {s : Nat}
    (hs : s = (num / den).log2 - 52) :
    num < 2 ^ 53 * (den * 2 ^ s) ∧ (s = 0 ∨ 2 ^ 52 * (den * 2 ^ s) ≤ num) := by
  have hlt : num / den < 2 ^ (53 + s) :=
    lt_of_lt_of_le Nat.lt_log2_self (Nat.pow_le_pow_right (by decide) (by omega))
  constructor
  · calc num < 2 ^ (53 + s) * den := (Nat.div_lt_iff_lt_mul hden).mp hlt
      _ = 2 ^ 53 * (den * 2 ^ s) := by ring
  · by_cases hzero : s = 0
    · exact .inl hzero
    · right
      have hne : num / den ≠ 0 := by
        intro h
        rw [h, Nat.log2_zero] at hs
        omega
      have hlog : (num / den).log2 = 52 + s := by omega
      have hle := Nat.log2_self_le hne
      rw [hlog] at hle
      calc 2 ^ 52 * (den * 2 ^ s) = 2 ^ (52 + s) * den := by ring
        _ ≤ num := (Nat.le_div_iff_mul_le hden).mp hle

/-- Twice a fraction compared with a sum. -/
theorem add_le_two_mul_div_iff {a b num den : Nat} (hden : 0 < den) :
    (a : ℚ) + b ≤ 2 * (num / den) ↔ (a + b) * den ≤ 2 * num := by
  rw [← mul_div_assoc, le_div_iff₀ (Nat.cast_pos.mpr hden)]
  norm_cast

theorem two_mul_div_le_add_iff {a b num den : Nat} (hden : 0 < den) :
    2 * ((num : ℚ) / den) ≤ a + b ↔ 2 * num ≤ (a + b) * den := by
  rw [← mul_div_assoc, div_le_iff₀ (Nat.cast_pos.mpr hden)]
  norm_cast

/-- The rounded leading bits are 53 at most, or a power of two after a carry, and 53 at least if
something is shifted. -/
theorem leadingBits_bounds {s k num spacing : Nat}
    (hlt : num < 2 ^ 53 * spacing) (hge : s = 0 ∨ 2 ^ 52 * spacing ≤ num)
    (hbelow : 2 * (k * spacing) ≤ 2 * num + spacing)
    (habove : 2 * num ≤ 2 * (k * spacing) + spacing) :
    k ≤ 2 ^ 53 ∧ (s = 0 ∨ 2 ^ 52 ≤ k) := by
  constructor
  · by_contra hlarge
    have hmul : (2 ^ 53 + 1) * spacing ≤ k * spacing := Nat.mul_le_mul_right _ (by omega)
    omega
  · refine hge.imp_right fun hge => ?_
    by_contra hsmall
    have hmul : (k + 1) * spacing ≤ 2 ^ 52 * spacing := Nat.mul_le_mul_right _ (by omega)
    rw [Nat.succ_mul] at hmul
    omega

section Midpoint

variable {s k num den : Nat}

theorem mul_two_pow_mul (k s den : Nat) : k * 2 ^ s * den = k * (den * 2 ^ s) := by ring

/-- The midpoint below is half a spacing away, or else the number is above it anyway: below a
power of two the doubles are closer to each other, and the number is not below it. -/
theorem midpoint_below (hden : 0 < den) (hk : k ≤ 2 ^ 53) (hshift : s = 0 ∨ 2 ^ 52 ≤ k)
    (hge : s = 0 ∨ 2 ^ 52 * (den * 2 ^ s) ≤ num) (hpos : 0 < s * 2 ^ 52 + k) :
    (units (s * 2 ^ 52 + k - 1) + units (s * 2 ^ 52 + k)) * den + den * 2 ^ s =
        2 * (k * (den * 2 ^ s)) ∨
      (units (s * 2 ^ 52 + k - 1) + units (s * 2 ^ 52 + k)) * den < 2 * num := by
  have hunits := units_shift hk hshift
  by_cases hinner : s = 0 ∨ 2 ^ 52 < k
  · left
    obtain ⟨j, rfl⟩ : ∃ j, k = j + 1 := ⟨k - 1, by omega⟩
    have hindex : s * 2 ^ 52 + (j + 1) - 1 = s * 2 ^ 52 + j := by omega
    have hbefore : units (s * 2 ^ 52 + j) = j * 2 ^ s := units_shift (by omega) (by omega)
    rw [hindex, hbefore, hunits]
    ring
  · right
    have hpower : k = 2 ^ 52 := by omega
    have hbefore : units (s * 2 ^ 52 + k - 1) < k * 2 ^ s := by
      rw [← hunits]
      exact strictMono_units (by omega)
    have hmul := Nat.mul_lt_mul_of_pos_right hbefore hden
    rw [mul_two_pow_mul] at hmul
    rw [hunits, Nat.add_mul, mul_two_pow_mul]
    rw [hpower] at hmul ⊢
    omega

/-- The midpoint above is half a spacing away, or else the number is below it anyway: a carry has
led to a power of two, which the number does not reach. -/
theorem midpoint_above (hden : 0 < den) (hk : k ≤ 2 ^ 53) (hshift : s = 0 ∨ 2 ^ 52 ≤ k)
    (hlt : num < 2 ^ 53 * (den * 2 ^ s)) :
    (units (s * 2 ^ 52 + k) + units (s * 2 ^ 52 + k + 1)) * den =
        2 * (k * (den * 2 ^ s)) + den * 2 ^ s ∨
      2 * num < (units (s * 2 ^ 52 + k) + units (s * 2 ^ 52 + k + 1)) * den := by
  have hunits := units_shift hk hshift
  by_cases hinner : k < 2 ^ 53
  · left
    have hbehind : units (s * 2 ^ 52 + (k + 1)) = (k + 1) * 2 ^ s :=
      units_shift hinner (by omega)
    rw [add_assoc, hbehind, hunits]
    ring
  · right
    have hcarry : k = 2 ^ 53 := by omega
    have hbehind : k * 2 ^ s < units (s * 2 ^ 52 + k + 1) := by
      rw [← hunits]
      exact strictMono_units (by omega)
    have hmul := Nat.mul_lt_mul_of_pos_right hbehind hden
    rw [mul_two_pow_mul] at hmul
    rw [hunits, Nat.add_mul, mul_two_pow_mul]
    rw [hcarry] at hmul ⊢
    omega

end Midpoint

/-- **The leading bits find the interval.** -/
theorem inInterval_nearestUnbounded {num den : Nat} (hden : 0 < den) :
    InInterval (num / den) (nearestUnbounded num den) := by
  obtain ⟨s, hs⟩ : ∃ s, s = (num / den).log2 - 52 := ⟨_, rfl⟩
  obtain ⟨hlt, hge⟩ := shift_bounds hden hs
  have hspacing : 0 < den * 2 ^ s := Nat.mul_pos hden (Nat.two_pow_pos s)
  obtain ⟨hbelow, habove, hodd⟩ := roundHalfEven_bounds num hspacing
  have hmagnitude : nearestUnbounded num den = s * 2 ^ 52 + roundHalfEven num (den * 2 ^ s) := by
    rw [hs]
    rfl
  rw [hmagnitude]
  -- What counts of the leading bits is how far they are from the number.
  generalize roundHalfEven num (den * 2 ^ s) = k at *
  obtain ⟨hk, hshift⟩ := leadingBits_bounds hlt hge hbelow habove
  have hlower := midpoint_below hden hk hshift hge
  have hupper := midpoint_above hden hk hshift hlt
  refine ⟨fun hpos => ?_, ?_, fun hparity => ⟨?_, ?_⟩⟩
  · apply (add_le_two_mul_div_iff hden).mpr
    rcases hlower hpos with heq | hstrict <;> omega
  · apply (two_mul_div_le_add_iff hden).mpr
    rcases hupper with heq | hstrict <;> omega
  · apply lt_of_not_ge
    rw [two_mul_div_le_add_iff hden]
    have hstrict := hodd (by omega)
    rcases hlower (by omega) with heq | hfar <;> omega
  · apply lt_of_not_ge
    rw [add_le_two_mul_div_iff hden]
    have hstrict := hodd (by omega)
    rcases hupper with heq | hfar <;> omega

end LoxScan.Double

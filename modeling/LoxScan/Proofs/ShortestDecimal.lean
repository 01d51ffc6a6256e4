import LoxScan.Proofs.CorrectRounding
import LoxScan.Proofs.SignificantDigits

/-! # The shortest decimal is the shortest

The decimal that is found for a finite double reads as that double (`readsAs_shortest`), and no
decimal with fewer significant digits does (`significantDigits_shortest_le`).

The decimals that read as a double are an interval (`readsAs_of_between`) that contains the value
of the double, so if there is a multiple of a power of ten among them, then a neighbour of the
value is one of them, and the search does not pass over that grid (`readsAs_onGrid`).  A decimal
that is found on a grid therefore is not on the next coarser one, and neither is any other that
reads as the double.  But a decimal with fewer digits either is on the coarser grid itself, or lies
below a power of ten that is, and that is not above the decimal that was found. -/

namespace LoxScan.Double

variable {m : Nat} {a b c d : Decimal}

/-! ### Decimals that read as one double -/

theorem readsAs_iff : readsAs m d = true ↔ nearestMagnitude d.numerator d.denominator = m :=
  beq_iff_eq

/-- **The decimals that read as one double form an interval.** -/
theorem readsAs_of_between (hab : a.value ≤ b.value) (hbc : b.value ≤ c.value)
    (ha : readsAs m a = true) (hc : readsAs m c = true) : readsAs m b = true := by
  rw [readsAs_iff] at ha hc ⊢
  have hlower := nearestMagnitude_le_of_value_le hab
  have hupper := nearestMagnitude_le_of_value_le hbc
  omega

theorem readsAs_of_value_eq (h : a.value = b.value) (ha : readsAs m a = true) :
    readsAs m b = true :=
  readsAs_of_between h.le h.ge ha ha

/-- Zero reads as zero only. -/
theorem eq_zero_of_readsAs (h : d.value = 0) (hd : readsAs m d = true) : m = 0 := by
  rw [← readsAs_iff.mp hd]
  apply nearestMagnitude_of_value_eq _ _ (Nat.zero_le _)
  rw [h, magnitudeValue_zero]

/-! ### Grids -/

/-- The step of the finest grid. -/
def finestStep : ℚ := 10 ^ (-1074 : ℤ)

theorem finestStep_pos : 0 < finestStep := zpow_pos (by norm_num) _

theorem value_onGrid (n place : Nat) :
    (⟨n, place - 1074⟩ : Decimal).value = (n * 10 ^ place : ℕ) * finestStep := by
  have hsplit : (place : ℤ) - 1074 = place + (-1074) := rfl
  rw [Decimal.value, hsplit, zpow_add₀ (by norm_num), zpow_natCast, Nat.cast_mul, Nat.cast_pow,
    Nat.cast_ofNat, mul_assoc]
  rfl

theorem value_onGrid_le {n k place : Nat} (h : n ≤ k) :
    (⟨n, place - 1074⟩ : Decimal).value ≤ (⟨k, place - 1074⟩ : Decimal).value := by
  rw [value_onGrid, value_onGrid]
  have hle : n * 10 ^ place ≤ k * 10 ^ place := Nat.mul_le_mul_right _ h
  exact mul_le_mul_of_nonneg_right (Nat.cast_le.mpr hle) finestStep_pos.le

/-- The value of a double is on the finest grid. -/
theorem magnitudeValue_eq_steps (m : Nat) : magnitudeValue m = steps m * finestStep := by
  have hpower : ∀ n : ℕ, (2 : ℚ) ^ (-n : ℤ) = 5 ^ n * 10 ^ (-n : ℤ) := by
    intro n
    rw [show (10 : ℚ) = 2 * 5 by norm_num, mul_zpow, zpow_neg 5, zpow_natCast, mul_left_comm,
      mul_inv_cancel₀ (by positivity), mul_one]
  have hunit : unit = 5 ^ 1074 * finestStep := hpower 1074
  rw [magnitudeValue_eq, hunit]
  simp only [steps, Nat.pow_eq, Nat.cast_mul, Nat.cast_pow, Nat.cast_ofNat]
  rw [mul_assoc]

theorem value_onFinestGrid (n : Nat) : (⟨n, -1074⟩ : Decimal).value = n * finestStep := rfl

theorem readsAs_exact (hm : m ≤ infinityMagnitude) : readsAs m ⟨steps m, -1074⟩ = true := by
  apply readsAs_iff.mpr
  apply nearestMagnitude_of_value_eq _ _ hm
  rw [value_onFinestGrid, magnitudeValue_eq_steps]

/-- What is found on a grid reads as the double and is next to its value. -/
theorem onGrid?_spec {place : Nat} (h : onGrid? m place = some d) :
    readsAs m d = true ∧ d.exponent = place - 1074 ∧
      d.coefficient ≤ steps m / 10 ^ place + 1 := by
  have hnext : steps m / 10 ^ place ≤ steps m / 10 ^ place + 1 := Nat.le_succ _
  unfold onGrid? at h
  rcases neighbour?_eq_some h with ⟨hreads, rfl⟩ | ⟨hreads, rfl⟩
  · exact ⟨hreads, rfl, hnext⟩
  · exact ⟨hreads, rfl, le_rfl⟩

/-- **No grid with a decimal that reads as the double is passed over**: the neighbour on its side
of the value reads as the double, too. -/
theorem readsAs_onGrid (hm : m ≤ infinityMagnitude) {place : Nat} (h : onGrid? m place = none)
    (n : Nat) : readsAs m ⟨n, place - 1074⟩ = false := by
  apply Bool.eq_false_iff.mpr
  intro hn
  have hpos : 0 < 10 ^ place := Nat.pow_pos (by decide)
  have hexact := readsAs_exact hm
  have hneighbour : readsAs m ⟨steps m / 10 ^ place, place - 1074⟩ = true ∨
      readsAs m ⟨steps m / 10 ^ place + 1, place - 1074⟩ = true := by
    by_cases hside : n ≤ steps m / 10 ^ place
    · left
      apply readsAs_of_between (value_onGrid_le hside) _ hn hexact
      have hle : steps m / 10 ^ place * 10 ^ place ≤ steps m := Nat.div_mul_le_self _ _
      rw [value_onGrid, value_onFinestGrid]
      exact mul_le_mul_of_nonneg_right (Nat.cast_le.mpr hle) finestStep_pos.le
    · right
      apply readsAs_of_between _ (value_onGrid_le (by omega)) hexact hn
      have hle : steps m ≤ (steps m / 10 ^ place + 1) * 10 ^ place :=
        ((Nat.div_lt_iff_lt_mul hpos).mp (Nat.lt_succ_self _)).le
      rw [value_onGrid, value_onFinestGrid]
      exact mul_le_mul_of_nonneg_right (Nat.cast_le.mpr hle) finestStep_pos.le
  unfold onGrid? at h
  obtain ⟨hbelow, habove⟩ := neighbour?_eq_none h
  rcases hneighbour with hreads | hreads
  · exact absurd (hreads.symm.trans hbelow) Bool.noConfusion
  · exact absurd (hreads.symm.trans habove) Bool.noConfusion

/-! ### The search -/

/-- The decimal reads as the double, is next to its value on the grid of multiples of
`10 ^ (place - 1074)`, and if the search began on a coarser grid, then it found nothing on the next
coarser one. -/
structure IsHit (m first place : Nat) (d : Decimal) : Prop where
  reads : readsAs m d = true
  exponent_eq : d.exponent = place - 1074
  coefficient_le : d.coefficient ≤ steps m / 10 ^ place + 1
  place_le : place ≤ first
  coarser : place < first → ∀ n, readsAs m ⟨n, (place + 1 : ℕ) - 1074⟩ = false

theorem exists_isHit_shortestFrom (hm : m ≤ infinityMagnitude) (first : Nat) :
    ∃ place, IsHit m first place (shortestFrom m first) := by
  induction first with
  | zero =>
      refine ⟨0, readsAs_exact hm, rfl, ?_, le_rfl, fun h => absurd h (Nat.lt_irrefl 0)⟩
      rw [pow_zero, Nat.div_one]
      exact Nat.le_succ _
  | succ first ih =>
      rw [shortestFrom]
      cases hgrid : onGrid? m (first + 1) with
      | some d =>
          obtain ⟨hreads, hexponent, hcoefficient⟩ := onGrid?_spec hgrid
          exact ⟨first + 1, hreads, hexponent, hcoefficient, le_rfl,
            fun h => absurd h (Nat.lt_irrefl _)⟩
      | none =>
          obtain ⟨place, hhit⟩ := ih
          refine ⟨place, hhit.reads, hhit.exponent_eq, hhit.coefficient_le,
            Nat.le_succ_of_le hhit.place_le, fun _ => ?_⟩
          by_cases hlast : place = first
          · rw [hlast]
            exact readsAs_onGrid hm hgrid
          · exact hhit.coarser (lt_of_le_of_ne hhit.place_le hlast)

/-- The first grid is wider than the value of the double. -/
theorem steps_lt_pow_firstPlace (m : Nat) : steps m < 10 ^ firstPlace m := by
  have hbits : steps m < 2 ^ ((steps m).log2 + 1) := Nat.lt_log2_self
  have hplace : 28 * ((steps m).log2 + 1) < 93 * firstPlace m := by
    unfold firstPlace
    omega
  generalize (steps m).log2 + 1 = bits at hbits hplace
  generalize firstPlace m = place at hplace ⊢
  apply lt_of_lt_of_le hbits
  apply le_of_lt
  apply lt_of_pow_lt_pow_left₀ 93 (Nat.zero_le _)
  calc (2 ^ bits) ^ 93 = (2 ^ 93) ^ bits := by rw [← pow_mul, ← pow_mul, mul_comm]
    _ ≤ (10 ^ 28) ^ bits := Nat.pow_le_pow_left (by norm_num) bits
    _ = 10 ^ (28 * bits) := by rw [← pow_mul]
    _ < 10 ^ (93 * place) := Nat.pow_lt_pow_right (by decide) hplace
    _ = (10 ^ place) ^ 93 := by rw [mul_comm, pow_mul]

theorem exists_isHit_shortest (hm : m ≤ infinityMagnitude) :
    ∃ place, IsHit m (firstPlace m) place (shortest m) :=
  exists_isHit_shortestFrom hm (firstPlace m)

/-! ### What is found is the shortest -/

/-- The decimal that is printed reads back. -/
theorem readsAs_shortest (hm : m ≤ infinityMagnitude) : readsAs m (shortest m) = true := by
  obtain ⟨place, hhit⟩ := exists_isHit_shortest hm
  exact hhit.reads

/-- If the decimal that was found has more than `n` digits, then the next coarser grid has a decimal
that reads as the double as soon as one with `n` digits does.  Either that one is on the coarser
grid, or the power of ten between it and the decimal that was found is. -/
theorem IsHit.exists_coarser {first place n a : Nat} {e : Int} (h : IsHit m first place d)
    (hn : 10 ^ n ≤ d.coefficient) (ha : a < 10 ^ n) (hpos : 0 < a)
    (hreads : readsAs m ⟨a, e⟩ = true) :
    ∃ k, readsAs m ⟨k, (place + 1 : ℕ) - 1074⟩ = true := by
  by_cases he : (place + 1 : ℕ) - 1074 ≤ e
  · obtain ⟨j, rfl⟩ := Int.le.dest he
    refine ⟨a * 10 ^ j, readsAs_of_value_eq ?_ hreads⟩
    rw [Decimal.value_mul_pow]
  · obtain ⟨k, rfl⟩ : ∃ k, n = k + 1 := by
      apply Nat.exists_eq_succ_of_ne_zero
      rintro rfl
      rw [pow_zero] at ha
      omega
    have hpower : (⟨10 ^ (k + 1), place - 1074⟩ : Decimal).value =
        (⟨10 ^ k, (place + 1 : ℕ) - 1074⟩ : Decimal).value := by
      have hexponent : (place - 1074 + (1 : ℕ) : ℤ) = (place + 1 : ℕ) - 1074 := by omega
      rw [pow_succ, ← pow_one 10, Decimal.value_mul_pow, pow_one, hexponent]
    have hbelow : (⟨a, e⟩ : Decimal).value ≤ (⟨10 ^ (k + 1), place - 1074⟩ : Decimal).value :=
      Decimal.value_le_value ha.le (by omega)
    have habove : (⟨10 ^ (k + 1), place - 1074⟩ : Decimal).value ≤ d.value :=
      Decimal.value_le_value hn h.exponent_eq.ge
    rw [hpower] at hbelow habove
    exact ⟨10 ^ k, readsAs_of_between hbelow habove hreads h.reads⟩

/-- **No decimal with fewer significant digits reads as the double.** -/
theorem significantDigits_shortest_le (hpos : 0 < m) (hm : m ≤ infinityMagnitude)
    (hreads : readsAs m d = true) :
    (shortest m).significantDigits ≤ d.significantDigits := by
  obtain ⟨place, hhit⟩ := exists_isHit_shortest hm
  obtain ⟨a, j, hcoefficient, hlt⟩ := d.exists_significand
  have hvalue : d.value = (⟨a, d.exponent + j⟩ : Decimal).value := by
    rw [← Decimal.value_mul_pow, ← hcoefficient]
  have ha : 0 < a := by
    by_contra hnone
    obtain rfl : a = 0 := by omega
    have hzero : d.value = 0 := by rw [hvalue, Decimal.value, Nat.cast_zero, zero_mul]
    have hm := eq_zero_of_readsAs hzero hreads
    omega
  by_contra hmore
  have hlarge : 10 ^ d.significantDigits ≤ (shortest m).coefficient := by
    by_contra hsmall
    refine hmore (Decimal.significantDigits_le_iff.mpr ⟨_, 0, ?_, Nat.lt_of_not_le hsmall⟩)
    rw [pow_zero, mul_one]
  have hinner : place < firstPlace m := by
    apply lt_of_le_of_ne hhit.place_le
    rintro rfl
    -- On the first grid the neighbours of the value are zero and one.
    have hone := hhit.coefficient_le
    rw [Nat.div_eq_of_lt (steps_lt_pow_firstPlace m)] at hone
    omega
  obtain ⟨k, hk⟩ := hhit.exists_coarser hlarge hlt ha (readsAs_of_value_eq hvalue hreads)
  exact absurd (hk.symm.trans (hhit.coarser hinner k)) Bool.noConfusion

end LoxScan.Double

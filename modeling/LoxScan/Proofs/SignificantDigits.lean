import LoxScan.Proofs.ExactValue

/-! # Significant digits

The digits of a decimal that count: not the zeros in front of the others, and not those behind.
A decimal has `n` of them at most if it is a number below `10 ^ n` moved by some places
(`significantDigits_le_iff`), so how many it has does not depend on how it is written. -/

namespace LoxScan

/-! ### Rows of digits -/

theorem ofDigitChars_replicate_zero (n init : Nat) :
    Nat.ofDigitChars 10 (List.replicate n '0') init = init * 10 ^ n := by
  have hzeros : Nat.ofDigitChars 10 (List.replicate n '0') 0 = 0 := by
    induction n with
    | zero => rfl
    | succ n ih =>
        rw [List.replicate_succ, Nat.ofDigitChars_cons]
        exact ih
  rw [Nat.ofDigitChars_eq_ofDigitChars_zero, hzeros, List.length_replicate, add_zero, mul_comm]

/-- Multiplying by a power of ten appends zeros. -/
theorem toDigits_mul_pow {a : Nat} (ha : 0 < a) (j : Nat) :
    Nat.toDigits 10 (a * 10 ^ j) = Nat.toDigits 10 a ++ List.replicate j '0' := by
  induction j with
  | zero => rw [pow_zero, mul_one, List.replicate_zero, List.append_nil]
  | succ j ih =>
      have hpos : 0 < a * 10 ^ j := Nat.mul_pos ha (Nat.pow_pos (by decide))
      have happend := Nat.toDigits_append_toDigits (b := 10) (d := 0) (by decide) hpos (by decide)
      have hnext : 10 * (a * 10 ^ j) + 0 = a * 10 ^ (j + 1) := by ring
      rw [← hnext, ← happend, ih, List.append_assoc, List.replicate_succ']
      rfl

theorem lt_pow_length_toDigits (n : Nat) : n < 10 ^ (Nat.toDigits 10 n).length :=
  (Nat.length_toDigits_le_iff (by decide) Nat.length_toDigits_pos).mp (le_refl _)

theorem pow_le_of_lt_length_toDigits {n k : Nat} (h : k < (Nat.toDigits 10 n).length)
    (hn : 0 < n) : 10 ^ k ≤ n := by
  by_contra hlt
  by_cases hk : k = 0
  · subst hk
    omega
  · have hlength := Nat.length_toDigits_le_iff (b := 10) (n := n) (by decide) (by omega : 0 < k)
    have hle := hlength.mpr (Nat.lt_of_not_le hlt)
    omega

namespace Decimal

/-- The number of digits without the zeros behind the others; there are none in front. -/
def significantDigits (d : Decimal) : Nat := (d.digits.reverse.dropWhile (· = '0')).length

/-- A number of few significant digits is a small number with zeros behind it. -/
theorem exists_significand (d : Decimal) :
    ∃ a j, d.coefficient = a * 10 ^ j ∧ a < 10 ^ d.significantDigits := by
  obtain ⟨zeros, kept, hreverse, hzeros, hkept⟩ :
      ∃ zeros kept, d.digits.reverse = zeros ++ kept ∧ (∀ c ∈ zeros, c = '0') ∧
        kept.length = d.significantDigits := by
    refine ⟨_, _, List.takeWhile_append_dropWhile.symm, ?_, rfl⟩
    intro c hc
    exact of_decide_eq_true (List.all_eq_true.mp List.all_takeWhile c hc)
  have hdigits : d.digits = kept.reverse ++ List.replicate zeros.length '0' := by
    have hrow : zeros.reverse = List.replicate zeros.length '0' :=
      List.eq_replicate_iff.mpr ⟨List.length_reverse, by simpa using hzeros⟩
    rw [← hrow, ← List.reverse_append, ← hreverse, List.reverse_reverse]
  have hcoefficient : d.coefficient =
      Nat.ofDigitChars 10 kept.reverse 0 * 10 ^ zeros.length := by
    rw [← ofDigitChars_replicate_zero, ← Nat.ofDigitChars_append, ← hdigits]
    exact Nat.ofDigitChars_ten_toDigits.symm
  refine ⟨_, _, hcoefficient, ?_⟩
  have hlt := lt_pow_length_toDigits d.coefficient
  have hlength : (Nat.toDigits 10 d.coefficient).length = d.significantDigits + zeros.length := by
    show d.digits.length = _
    rw [hdigits, List.length_append, List.length_reverse, List.length_replicate, hkept]
  rw [hlength, hcoefficient, pow_add] at hlt
  exact Nat.lt_of_mul_lt_mul_right hlt

/-- **How many digits are significant** depends on the size of the number without its zeros. -/
theorem significantDigits_le_iff {d : Decimal} {n : Nat} :
    d.significantDigits ≤ n ↔ ∃ a j, d.coefficient = a * 10 ^ j ∧ a < 10 ^ n := by
  constructor
  · intro h
    obtain ⟨a, j, hcoefficient, hlt⟩ := d.exists_significand
    exact ⟨a, j, hcoefficient, lt_of_lt_of_le hlt (Nat.pow_le_pow_right (by decide) h)⟩
  · rintro ⟨a, j, hcoefficient, hlt⟩
    rw [significantDigits, digits, hcoefficient]
    by_cases ha : a = 0
    · subst ha
      rw [zero_mul]
      exact Nat.zero_le n
    · have hpos : 0 < a := Nat.pos_of_ne_zero ha
      have hn : 0 < n := by
        by_contra hzero
        obtain rfl : n = 0 := by omega
        rw [pow_zero] at hlt
        omega
      rw [toDigits_mul_pow hpos, List.reverse_append, List.reverse_replicate,
        List.dropWhile_append_of_pos (by simp)]
      calc ((Nat.toDigits 10 a).reverse.dropWhile (· = '0')).length
          ≤ (Nat.toDigits 10 a).reverse.length := (List.dropWhile_sublist _).length_le
        _ = (Nat.toDigits 10 a).length := List.length_reverse
        _ ≤ n := (Nat.length_toDigits_le_iff (by decide) hn).mpr hlt

end Decimal
end LoxScan

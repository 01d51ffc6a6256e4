import LoxScan.Number.Numeral
import LoxScan.Proofs.Rule

/-! # Reading numerals

The shapes of numerals that are met: digits, or digits on both sides of a point, with a minus sign
or without, and with a power of ten or without.  The lexeme of every number token has one of these
shapes, and the written form of every finite double.

Digits and a point are told from everything else by their first character and by the mark that
does not occur in them (`IsMantissa`), so a mantissa is read in the same way whatever is in front
of it and behind it (`IsMantissa.ofText?_eq`, `IsMantissa.ofText?_exponent`). -/

namespace LoxScan.Numeral

open Rule Segment

variable {digits whole fraction mantissa : List Char} {c : Char} {d : Decimal}

/-- The text denotes the decimal, begins with a digit and has no power of ten. -/
structure IsMantissa (mantissa : List Char) (d : Decimal) : Prop where
  head : ∃ c cs, mantissa = c :: cs ∧ c.isDigit = true
  markFree : ∀ c ∈ mantissa, isExponentMark c = false
  mantissa?_eq : mantissa? mantissa = some d

theorem ne_of_isDigit (h : c.isDigit = true) (mark : Char) (hmark : mark.isDigit = false) :
    c ≠ mark := by
  rintro rfl
  exact absurd (h.symm.trans hmark) Bool.noConfusion

theorem isExponentMark_of_isDigit (h : c.isDigit = true) : isExponentMark c = false := by
  have hlower := ne_of_isDigit h 'e' rfl
  have hupper := ne_of_isDigit h 'E' rfl
  simp [isExponentMark, hlower, hupper]

theorem head_isDigit (h : IsDigits digits) : ∃ c cs, digits = c :: cs ∧ c.isDigit = true := by
  obtain ⟨c, cs, rfl⟩ := List.exists_cons_of_ne_nil h.1
  exact ⟨c, cs, rfl, h.2 c List.mem_cons_self⟩

/-- A row of digits is a whole number. -/
theorem isMantissa_digits (h : IsDigits digits) : IsMantissa digits (.ofDigits digits []) where
  head := head_isDigit h
  markFree c hc := isExponentMark_of_isDigit (h.2 c hc)
  mantissa?_eq := by
    have htake := takeWhile_run h.2 (beginsWithout_nil _)
    have hdrop := dropWhile_run h.2 (beginsWithout_nil _)
    rw [List.append_nil] at htake hdrop
    rw [mantissa?, htake, hdrop]
    exact if_pos h.1

/-- Digits behind a point are a fraction. -/
theorem isMantissa_point (hwhole : IsDigits whole) (hfraction : IsDigits fraction) :
    IsMantissa (whole ++ '.' :: fraction) (.ofDigits whole fraction) where
  head := by
    obtain ⟨c, cs, rfl, hc⟩ := head_isDigit hwhole
    exact ⟨c, cs ++ '.' :: fraction, rfl, hc⟩
  markFree c hc := by
    rcases List.mem_append.mp hc with hc | hc
    · exact isExponentMark_of_isDigit (hwhole.2 c hc)
    · rcases List.mem_cons.mp hc with rfl | hc
      · rfl
      · exact isExponentMark_of_isDigit (hfraction.2 c hc)
  mantissa?_eq := by
    have hpoint : BeginsWithout Char.isDigit ('.' :: fraction) := beginsWithout_cons_iff.mpr rfl
    rw [mantissa?, takeWhile_run hwhole.2 hpoint, dropWhile_run hwhole.2 hpoint]
    exact if_pos ⟨List.all_eq_true.mpr hfraction.2, .inl hwhole.1⟩

/-! ### Powers of ten -/

theorem isDigits_toDigits (n : Nat) : IsDigits (Nat.toDigits 10 n) :=
  ⟨Nat.toDigits_ne_nil, fun _ hc => Nat.isDigit_of_mem_toDigits (by decide) (by decide) hc⟩

/-- Digits have no sign in front. -/
theorem splitSign_of_isDigit (h : c.isDigit = true) (cs : List Char) :
    splitSign (c :: cs) = (false, c :: cs) := by
  have hminus := ne_of_isDigit h '-' rfl
  have hplus := ne_of_isDigit h '+' rfl
  unfold splitSign
  split
  · simp_all
  · simp_all
  · rfl

/-- An integer is read back from its digits and its sign. -/
theorem integer?_toString (e : Int) : integer? (toString e).toList = some e := by
  cases e with
  | ofNat n =>
      have hdigits := isDigits_toDigits n
      have htext : (toString (Int.ofNat n)).toList = Nat.toDigits 10 n := by
        rw [Int.toString_eq_repr, Int.repr, Nat.repr_eq_ofList_toDigits, String.toList_ofList]
      obtain ⟨c, cs, hcons, hc⟩ := head_isDigit hdigits
      have hsign : splitSign (Nat.toDigits 10 n) = (false, Nat.toDigits 10 n) := by
        rw [hcons]
        exact splitSign_of_isDigit hc cs
      rw [htext, integer?, hsign]
      simp [hdigits.1, List.all_eq_true.mpr hdigits.2]
  | negSucc n =>
      have hdigits := isDigits_toDigits (n + 1)
      have htext : (toString (Int.negSucc n)).toList = '-' :: Nat.toDigits 10 (n + 1) := by
        rw [Int.toString_eq_repr, Int.repr, Nat.repr_eq_ofList_toDigits]
        simp
      rw [htext, integer?, splitSign]
      simp [hdigits.1, List.all_eq_true.mpr hdigits.2, Int.negSucc_eq]

/-! ### Signs -/

theorem toLower_of_isDigit (h : c.isDigit = true) : c.toLower = c := by
  have hle : c.val ≤ '9'.val := by
    simp only [Char.isDigit, Bool.and_eq_true, decide_eq_true_eq] at h
    exact h.2
  have hcapital : ¬ (c.val ≥ 'A'.val ∧ c.val ≤ 'Z'.val) := by
    rintro ⟨hge, -⟩
    exact absurd (UInt32.le_trans hge hle) (by decide)
  exact dif_neg hcapital

/-- The sign in front of a number; there is none if the number is positive. -/
def sign (negative : Bool) : List Char := if negative then ['-'] else []

/-- What begins with a digit behind its sign is no name. -/
theorem ofText?_sign (negative : Bool) (h : c.isDigit = true) (cs : List Char) :
    ofText? (sign negative ++ c :: cs) = (unsigned? (c :: cs)).map (decimal negative) := by
  have hsplit : splitSign (sign negative ++ c :: cs) = (negative, c :: cs) := by
    cases negative
    · exact splitSign_of_isDigit h cs
    · rfl
  have hi := ne_of_isDigit h 'i' rfl
  have hn := ne_of_isDigit h 'n' rfl
  simp [ofText?, hsplit, toLower_of_isDigit h, hi, hn]

namespace IsMantissa

/-- **A mantissa is a numeral**, with a sign or without. -/
theorem ofText?_eq (h : IsMantissa mantissa d) (negative : Bool) :
    ofText? (sign negative ++ mantissa) = some (decimal negative d) := by
  have hinside : ∀ c ∈ mantissa, (!isExponentMark c) = true := by
    intro c hc
    rw [h.markFree c hc, Bool.not_false]
  have htake := takeWhile_run hinside (beginsWithout_nil _)
  have hdrop := dropWhile_run hinside (beginsWithout_nil _)
  rw [List.append_nil] at htake hdrop
  have hunsigned : unsigned? mantissa = some d := by
    rw [unsigned?, htake, hdrop]
    exact h.mantissa?_eq
  obtain ⟨c, cs, hcons, hc⟩ := h.head
  rw [hcons] at hunsigned ⊢
  rw [ofText?_sign negative hc, hunsigned, Option.map_some]

/-- **A power of ten moves the point of a mantissa.** -/
theorem ofText?_exponent (h : IsMantissa mantissa d) (negative : Bool) (e : Int) :
    ofText? (sign negative ++ (mantissa ++ 'e' :: (toString e).toList)) =
      some (decimal negative ⟨d.coefficient, d.exponent + e⟩) := by
  have hinside : ∀ c ∈ mantissa, (!isExponentMark c) = true := by
    intro c hc
    rw [h.markFree c hc, Bool.not_false]
  have hmark : BeginsWithout (!isExponentMark ·) ('e' :: (toString e).toList) :=
    beginsWithout_cons_iff.mpr rfl
  have hunsigned : unsigned? (mantissa ++ 'e' :: (toString e).toList) =
      some ⟨d.coefficient, d.exponent + e⟩ := by
    rw [unsigned?, takeWhile_run hinside hmark, dropWhile_run hinside hmark]
    simp only [h.mantissa?_eq, integer?_toString]
    rfl
  obtain ⟨c, cs, hcons, hc⟩ := h.head
  rw [hcons, List.cons_append] at hunsigned ⊢
  rw [ofText?_sign negative hc, hunsigned, Option.map_some]

end IsMantissa
end LoxScan.Numeral

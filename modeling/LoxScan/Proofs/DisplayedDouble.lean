import LoxScan.Proofs.ShortestDecimal
import LoxScan.Proofs.WrittenNumber

/-! # Displayed doubles read back

The text that is displayed for a double is a numeral that rounds to the double, bit for bit
(`exists_reads_display`).  So doubles with the same text are the same, and the numeral of a finite
double other than zero is the shortest that there is.

From `10 ^ (-4)` up to, but not including, `10 ^ 16` the text has a point between digits and
nothing else (`IsWrittenOut.exists_display_eq`).  Which form is chosen depends on the place of the
point in the shortest decimal; that it is the right one for the double itself holds because both
ends of the range are where a shortest decimal changes its form: the upper end is a double, and the
double next above the lower end has it as its shortest decimal. -/

namespace LoxScan.Double

open Rule

variable {n : Double}

/-! ### Reading back -/

/-- A decimal that reads as a magnitude stands for the double, whatever the sign. -/
theorem eq_ofDecimal_of_readsAs {r : Decimal} (h : readsAs n.magnitude r = true) :
    n = .ofDecimal n.negative r := by
  apply eq_of_magnitude_eq (negative_ofDecimal n.negative r).symm
  rw [magnitude_ofDecimal, readsAs_iff.mp h]

theorem roundsTo_of_readsAs {r : Decimal} (h : readsAs n.magnitude r = true) :
    (Numeral.decimal n.negative r).RoundsTo n := by
  have hrounds := Numeral.roundsTo_double (.decimal n.negative r)
  rwa [Numeral.double, ← eq_ofDecimal_of_readsAs h] at hrounds

theorem readsAs_of_roundsTo {negative : Bool} {r : Decimal}
    (h : (Numeral.decimal negative r).RoundsTo n) : readsAs n.magnitude r = true := by
  have hdouble := h.eq (Numeral.roundsTo_double _) h.2.isNaN_eq
  rw [hdouble]
  exact readsAs_iff.mpr rfl

/-- The numeral rounds to the double and to no other, and if the double is finite and not zero, then
no decimal with fewer significant digits rounds to it. -/
structure IsShortestNumeral (x : Numeral) (n : Double) : Prop where
  roundsTo_iff : ∀ m, x.RoundsTo m ↔ m = n
  shortest : n.isFinite = true → n.magnitude ≠ 0 →
    ∃ r, x = .decimal n.negative r ∧ ∀ negative d, (Numeral.decimal negative d).RoundsTo n →
      r.significantDigits ≤ d.significantDigits

theorem roundsTo_iff_of_roundsTo {x : Numeral} (hn : n.isNaN = false) (h : x.RoundsTo n)
    (m : Double) : x.RoundsTo m ↔ m = n := by
  constructor
  · intro hm
    exact (h.eq hm hn).symm
  · rintro rfl
    exact h

/-- **What is displayed reads back**, and is the shortest that does. -/
theorem exists_reads_display (hn : n.isNaN = false) :
    ∃ x, Numeral.ofText? n.display.toList = some x ∧ IsShortestNumeral x n := by
  have hdisplay : n.display.toList = Numeral.sign n.negative ++ writtenMagnitude n.magnitude := by
    rw [display, hn, if_neg Bool.false_ne_true, String.toList_ofList]
    rfl
  have hle : n.magnitude ≤ infinityMagnitude := isNaN_eq_false_iff.mp hn
  rw [hdisplay, writtenMagnitude]
  by_cases hzero : n.magnitude = 0
  · rw [if_pos hzero]
    refine ⟨_, (Numeral.isMantissa_point Decimal.isDigits_zero Decimal.isDigits_zero).ofText?_eq _,
      roundsTo_iff_of_roundsTo hn (roundsTo_of_readsAs ?_), fun _ h => absurd hzero h⟩
    rw [hzero]
    decide +kernel
  · rw [if_neg hzero]
    by_cases hinfinite : n.magnitude = infinityMagnitude
    · rw [if_pos hinfinite]
      refine ⟨.infinite n.negative, ?_, roundsTo_iff_of_roundsTo hn ⟨rfl, hinfinite⟩,
        fun h => ?_⟩
      · cases n.negative <;> decide
      · exact absurd hinfinite (Nat.ne_of_lt (isFinite_iff.mp h))
    · rw [if_neg hinfinite]
      obtain ⟨j, hread⟩ := (shortest n.magnitude).ofText?_written n.negative
      have hvalue := (shortest n.magnitude).value_withZeros j
      refine ⟨_, hread, roundsTo_iff_of_roundsTo hn (roundsTo_of_readsAs ?_),
        fun _ _ => ⟨_, rfl, fun negative d hd => ?_⟩⟩
      · exact readsAs_of_value_eq hvalue.symm (readsAs_shortest hle)
      · exact ((shortest n.magnitude).significantDigits_withZeros_le j).trans
          (significantDigits_shortest_le (Nat.pos_of_ne_zero hzero) hle (readsAs_of_roundsTo hd))

/-- **No two doubles are displayed alike**, unless they are no numbers. -/
theorem display_injective {a b : Double} (ha : a.isNaN = false) (hb : b.isNaN = false)
    (h : a.display = b.display) : a = b := by
  obtain ⟨x, hx, hxa⟩ := exists_reads_display ha
  obtain ⟨y, hy, hyb⟩ := exists_reads_display hb
  rw [h, hy] at hx
  cases hx
  exact (hyb.roundsTo_iff a).mp ((hxa.roundsTo_iff a).mpr rfl)

/-! ### Doubles that are written out -/

/-- The double is zero or from `10 ^ (-4)` up to `10 ^ 16`, and has no sign. -/
structure IsWrittenOut (n : Double) : Prop where
  negative_eq : n.negative = false
  finite : n.isFinite = true
  range : n.magnitude = 0 ∨ 1 / 10 ^ 4 ≤ n.value ∧ n.value < 10 ^ 16

theorem value_of_not_negative (h : n.negative = false) : n.value = magnitudeValue n.magnitude := by
  rw [value, h]
  rfl

/-- The double next above `10 ^ (-4)`. -/
def lowerEnd : Nat := nearestMagnitude (Decimal.mk 1 (-4)).numerator (Decimal.mk 1 (-4)).denominator

/-- The double `10 ^ 16`. -/
def upperEnd : Nat := nearestMagnitude (Decimal.mk 1 16).numerator (Decimal.mk 1 16).denominator

theorem lowerEnd_eq : lowerEnd = 0x3F1A36E2EB1C432D := by decide +kernel

theorem upperEnd_eq : upperEnd = 0x4341C37937E08000 := by decide +kernel

theorem shortest_lowerEnd : shortest lowerEnd = ⟨1, -4⟩ := by decide +kernel

theorem magnitudeValue_upperEnd : magnitudeValue upperEnd = 10 ^ 16 := by
  rw [upperEnd_eq]
  norm_num [magnitudeValue]

theorem magnitudeValue_before_lowerEnd : magnitudeValue (lowerEnd - 1) < 1 / 10 ^ 4 := by
  rw [lowerEnd_eq]
  norm_num [magnitudeValue]

variable {m : Nat}

/-- Below `10 ^ 16` the shortest decimal is below it, too, because this is a double. -/
theorem value_shortest_lt (hm : m ≤ infinityMagnitude) (h : magnitudeValue m < 10 ^ 16) :
    (shortest m).value < 10 ^ 16 := by
  by_contra hge
  have hend : (Decimal.mk 1 16).value = 10 ^ 16 := by norm_num [Decimal.value]
  have hle : (Decimal.mk 1 16).value ≤ (shortest m).value := by
    rw [hend]
    exact not_lt.mp hge
  have hmagnitude : upperEnd ≤ m := by
    rw [← readsAs_iff.mp (readsAs_shortest hm)]
    exact nearestMagnitude_le_of_value_le hle
  have hvalue := strictMono_magnitudeValue.monotone hmagnitude
  rw [magnitudeValue_upperEnd] at hvalue
  linarith

/-- From `10 ^ (-4)` on the shortest decimal is not below it: the first double there is displayed
as this number, and all others are larger. -/
theorem le_value_shortest (hm : m ≤ infinityMagnitude) (h : 1 / 10 ^ 4 ≤ magnitudeValue m) :
    1 / 10 ^ 4 ≤ (shortest m).value := by
  by_contra hlt
  have hend : (Decimal.mk 1 (-4)).value = 1 / 10 ^ 4 := by norm_num [Decimal.value]
  have hle : (shortest m).value ≤ (Decimal.mk 1 (-4)).value := by
    rw [hend]
    exact (not_le.mp hlt).le
  have hmagnitude : m ≤ lowerEnd := by
    rw [← readsAs_iff.mp (readsAs_shortest hm)]
    exact nearestMagnitude_le_of_value_le hle
  by_cases hfirst : m = lowerEnd
  · rw [hfirst, shortest_lowerEnd, hend] at hlt
    exact hlt le_rfl
  · have hbefore : m ≤ lowerEnd - 1 := by omega
    have hvalue := strictMono_magnitudeValue.monotone hbefore
    have hstrict := magnitudeValue_before_lowerEnd
    linarith

/-- **In the range, a point stands between digits**, and these digits read as the double. -/
theorem IsWrittenOut.exists_display_eq (h : n.IsWrittenOut) :
    ∃ whole fraction, n.display = String.ofList (whole ++ '.' :: fraction) ∧
      IsDigits whole ∧ IsDigits fraction ∧ n = .ofDecimal false (.ofDigits whole fraction) := by
  have hlt := isFinite_iff.mp h.finite
  have hnumber := isNaN_eq_false_iff.mpr hlt.le
  have hdisplay : n.display = String.ofList (writtenMagnitude n.magnitude) := by
    rw [display, hnumber, h.negative_eq, if_neg Bool.false_ne_true, if_neg Bool.false_ne_true,
      List.nil_append]
  have hreads : ∀ r : Decimal, readsAs n.magnitude r = true → n = .ofDecimal false r := by
    intro r hr
    rw [← h.negative_eq]
    exact eq_ofDecimal_of_readsAs hr
  rw [hdisplay, writtenMagnitude]
  by_cases hzero : n.magnitude = 0
  · rw [if_pos hzero]
    refine ⟨['0'], ['0'], rfl, Decimal.isDigits_zero, Decimal.isDigits_zero, hreads _ ?_⟩
    rw [hzero]
    decide +kernel
  · rw [if_neg hzero, if_neg (Nat.ne_of_lt hlt)]
    obtain ⟨hlower, hupper⟩ := h.range.resolve_left hzero
    rw [value_of_not_negative h.negative_eq] at hlower hupper
    have hpositional := (shortest n.magnitude).isPositional_of_value
      (le_value_shortest hlt.le hlower) (value_shortest_lt hlt.le hupper)
    obtain ⟨whole, fraction, htext, hwhole, hfraction, j, hvalue⟩ :=
      (shortest n.magnitude).exists_positional
    rw [Decimal.written, if_pos hpositional, htext]
    refine ⟨whole, fraction, rfl, hwhole, hfraction, hreads _ ?_⟩
    rw [hvalue]
    have hsame := (shortest n.magnitude).value_withZeros j
    exact readsAs_of_value_eq hsame.symm (readsAs_shortest hlt.le)

end LoxScan.Double

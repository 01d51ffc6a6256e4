/-! # Sets of characters given by ranges of code points

A property of characters that a standard defines by enumeration is kept here as an
ascending list of ranges.  A look-up reads the list from its small end and stops at
the first range that lies above the code point, so a small code point is decided after
a few comparisons.  For ascending lists stopping early loses nothing
(`covers_iff_exists_contains`). -/

namespace LoxScan

/-- The code points from `first` to `last`, both included. -/
structure CodeRange where
  first : Nat
  last : Nat

namespace CodeRange

/-- `n` lies between the two ends. -/
def Contains (r : CodeRange) (n : Nat) : Prop := r.first ≤ n ∧ n ≤ r.last

/-- Every range is non-empty and ends below the start of the next one. -/
def ascending : List CodeRange → Bool
  | [] => true
  | [r] => r.first ≤ r.last
  | r :: s :: rs => r.first ≤ r.last && r.last < s.first && ascending (s :: rs)

/-- Whether one of the ranges holds `n`; the list is taken to be ascending. -/
def covers : List CodeRange → Nat → Bool
  | [], _ => false
  | r :: rs, n => r.first ≤ n && (n ≤ r.last || covers rs n)

/-- Below the first range of an ascending list lies nothing that any range holds. -/
theorem first_le_of_contains {r : CodeRange} {rs : List CodeRange} {n : Nat}
    (h : ascending (r :: rs) = true) (hs : ∃ s ∈ r :: rs, s.Contains n) : r.first ≤ n := by
  induction rs generalizing r with
  | nil =>
      obtain ⟨s, hs, hn⟩ := hs
      rw [List.mem_singleton] at hs
      exact hs ▸ hn.1
  | cons t ts ih =>
      simp only [ascending, Bool.and_eq_true, decide_eq_true_eq] at h
      obtain ⟨s, hs, hn⟩ := hs
      rcases List.mem_cons.mp hs with rfl | hs
      · exact hn.1
      · have := ih h.2 ⟨s, hs, hn⟩
        omega

theorem ascending_tail {r : CodeRange} {rs : List CodeRange} (h : ascending (r :: rs) = true) :
    ascending rs = true := by
  cases rs with
  | nil => rfl
  | cons s ss =>
      simp only [ascending, Bool.and_eq_true] at h
      exact h.2

/-- **On an ascending list the look-up decides membership in one of the ranges.** -/
theorem covers_iff_exists_contains {rs : List CodeRange} (h : ascending rs = true) (n : Nat) :
    covers rs n = true ↔ ∃ r ∈ rs, r.Contains n := by
  induction rs with
  | nil => simp [covers]
  | cons r rs ih =>
      simp only [covers, Bool.and_eq_true, Bool.or_eq_true, decide_eq_true_eq,
        ih (ascending_tail h)]
      constructor
      · rintro ⟨h₁, h₂ | ⟨s, hs, hn⟩⟩
        · exact ⟨r, List.mem_cons_self, h₁, h₂⟩
        · exact ⟨s, List.mem_cons_of_mem _ hs, hn⟩
      · rintro ⟨s, hs, hn⟩
        refine ⟨first_le_of_contains h ⟨s, hs, hn⟩, ?_⟩
        rcases List.mem_cons.mp hs with rfl | hs
        · exact .inl hn.2
        · exact .inr ⟨s, hs, hn⟩

end CodeRange
end LoxScan

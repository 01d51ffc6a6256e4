import LoxScan.Proofs.Extent
import LoxScan.Proofs.Lookahead

/-! # Where a text is malformed

Three sorts of segments are malformed, and they are the only ones that yield errors.  So
whether scanning fails, and at which error, can be read off the row of segments: it gives
tokens exactly if no segment is malformed (`exists_tokensFrom_eq_ok_iff`), and otherwise its
error is that of the first malformed segment (`tokensFrom_eq_error_iff`).

An error of the two sorts that run to the end of the text is **unterminated**: the text ends
inside a string or a comment. -/

namespace LoxScan

/-- The text ends inside a string or a comment. -/
def ScanError.Unterminated (e : ScanError) : Prop :=
  e.cause = .unterminatedString ∨ e.cause = .unterminatedBlockComment

instance : DecidablePred ScanError.Unterminated :=
  fun e => inferInstanceAs (Decidable (e.cause = _ ∨ e.cause = _))

namespace Segment

/-- The segment is no part of a text without errors. -/
def isMalformed : Segment → Bool
  | unexpected _ | openString _ | openComment _ => true
  | _ => false

variable {s : Segment}

theorem isMalformed_iff (line : Nat) :
    s.isMalformed = true ↔ ∃ e, s.item? line = some (.error e) := by
  cases s <;> simp [isMalformed, item?]

theorem isOpen_iff (line : Nat) :
    s.isOpen = true ↔ ∃ e, s.item? line = some (.error e) ∧ e.Unterminated := by
  cases s <;> simp [isOpen, item?, ScanError.Unterminated]

theorem isOpen_of_isMalformed (h : s.isMalformed = false) : s.isOpen = false := by
  cases s with
  | openString body | openComment body => cases h
  | _ => rfl

end Segment

open Segment

variable {line : Nat} {ss before after : List Segment} {s : Segment} {e : ScanError}

/-! ### One segment -/

theorem tokensFrom_of_error (h : s.item? line = some (.error e)) :
    tokensFrom line (s :: ss) = .error e := by
  rw [tokensFrom, h]

/-- A segment that is not malformed adds a token or nothing, and what is found behind it
stays. -/
theorem tokensFrom_of_not_isMalformed (h : s.isMalformed = false) (line : Nat)
    (ss : List Segment) :
    ∃ f : List Token → List Token,
      tokensFrom line (s :: ss) = (tokensFrom (line + s.lineFeeds) ss).map f := by
  cases hitem : s.item? line with
  | none =>
      refine ⟨id, ?_⟩
      rw [tokensFrom, hitem]
      cases tokensFrom (line + s.lineFeeds) ss <;> rfl
  | some i =>
      cases i with
      | token t => exact ⟨(t :: ·), by rw [tokensFrom, hitem]⟩
      | error e =>
          have hmalformed := (isMalformed_iff line).mpr ⟨e, hitem⟩
          rw [h] at hmalformed
          cases hmalformed

/-! ### A row of segments -/

/-- The error of a segment is the result if nothing before it is malformed. -/
theorem tokensFrom_append_of_error (hbefore : ∀ t ∈ before, t.isMalformed = false)
    (h : s.item? (line + (before.flatMap text).count '\n') = some (.error e)) :
    tokensFrom line (before ++ s :: after) = .error e := by
  induction before generalizing line with
  | nil => exact tokensFrom_of_error h
  | cons t ts ih =>
      obtain ⟨f, hf⟩ := tokensFrom_of_not_isMalformed (hbefore t List.mem_cons_self) line
        (ts ++ s :: after)
      rw [count_flatMap_text_cons, ← Nat.add_assoc] at h
      rw [List.cons_append, hf, ih (fun u hu => hbefore u (List.mem_cons_of_mem _ hu)) h]
      rfl

/-- **Scanning fails with the error of the first malformed segment.** -/
theorem tokensFrom_eq_error_iff :
    tokensFrom line ss = .error e ↔
      ∃ before s after, ss = before ++ s :: after ∧ (∀ t ∈ before, t.isMalformed = false) ∧
        s.item? (line + (before.flatMap text).count '\n') = some (.error e) := by
  constructor
  · intro h
    induction ss generalizing line with
    | nil => cases h
    | cons s ss ih =>
        cases hs : s.isMalformed with
        | true =>
            obtain ⟨e', he'⟩ := (isMalformed_iff line).mp hs
            rw [tokensFrom_of_error he'] at h
            cases h
            exact ⟨[], s, ss, rfl, by simp, he'⟩
        | false =>
            obtain ⟨f, hf⟩ := tokensFrom_of_not_isMalformed hs line ss
            rw [hf] at h
            cases htail : tokensFrom (line + s.lineFeeds) ss with
            | ok ts =>
                rw [htail] at h
                cases h
            | error e' =>
                rw [htail] at h
                cases h
                obtain ⟨before, t, after, rfl, hbefore, ht⟩ := ih htail
                refine ⟨s :: before, t, after, rfl, ?_, ?_⟩
                · exact List.forall_mem_cons.mpr ⟨hs, hbefore⟩
                · rwa [count_flatMap_text_cons, ← Nat.add_assoc]
  · rintro ⟨before, s, after, rfl, hbefore, h⟩
    exact tokensFrom_append_of_error hbefore h

/-- **Scanning gives tokens exactly if no segment is malformed.** -/
theorem exists_tokensFrom_eq_ok_iff :
    (∃ ts, tokensFrom line ss = .ok ts) ↔ ∀ s ∈ ss, s.isMalformed = false := by
  induction ss generalizing line with
  | nil => simp [tokensFrom]
  | cons s ss ih =>
      rw [List.forall_mem_cons]
      cases hs : s.isMalformed with
      | true =>
          obtain ⟨e, he⟩ := (isMalformed_iff line).mp hs
          simp [tokensFrom_of_error he]
      | false =>
          obtain ⟨f, hf⟩ := tokensFrom_of_not_isMalformed hs line ss
          rw [hf, ← @ih (line + s.lineFeeds)]
          cases tokensFrom (line + s.lineFeeds) ss <;> simp [Except.map]

/-- An unterminated error comes from a segment that runs to the end of the text. -/
theorem exists_unterminated_mem_itemsFrom_iff (line : Nat) :
    (∃ e, .error e ∈ itemsFrom line ss ∧ e.Unterminated) ↔ ∃ s ∈ ss, s.isOpen = true := by
  induction ss generalizing line with
  | nil => simp [itemsFrom]
  | cons s ss ih =>
      simp only [itemsFrom, List.mem_append, Option.mem_toList, or_and_right, exists_or,
        List.mem_cons, exists_eq_left]
      exact or_congr (isOpen_iff line).symm (ih _)

end LoxScan

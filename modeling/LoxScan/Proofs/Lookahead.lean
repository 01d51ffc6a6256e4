import LoxScan.Segment.Tiling

/-! # What a segment sees of the text behind it

Whether a segment ends where it must depends on the text behind it.  It depends on little of
it: on the next character, and where a point follows digits, on the character behind the
point as well (`endsBefore_cons_iff`).  So the text behind a segment may be exchanged for
another one that begins in the same way, or with something that no segment goes on with.

`StopsLike rest rest'` says that an exchange is allowed: whatever ends before `rest` ends
before `rest'`.  It holds at the places that matter to a scanner: where a line feed is
written at the end of a text (`stopsLike_newline`), where a character other than a point
stays and the text behind it changes (`stopsLike_of_head`), and where a character gives way
to a space (`stopsLike_space`).

**A text that is changed only behind some of its segments begins with these segments
still**, and goes on with those of the new text (`segments_append`). -/

namespace LoxScan

open Text

/-- No spelling of an operator has more than two characters. -/
theorem Operator.length_spelling_le (o : Operator) : o.spelling.length ≤ 2 := by
  cases o <;> decide

/-- No operator is spelled with a blank. -/
theorem Operator.isBlank_of_mem_spelling {o : Operator} {c : Char} (h : c ∈ o.spelling) :
    isBlank c = false := by
  have hall : (o.spelling.all fun d => !isBlank d) = true := by
    cases o <;> decide
  simpa using List.all_eq_true.mp hall c h

namespace Segment

/-- A string or a comment that runs to the end of the text. -/
def isOpen : Segment → Bool
  | openString _ | openComment _ => true
  | _ => false

/-- The segment would not end before the character but take it in. -/
def GoesOn : Segment → Char → Prop
  | lineComment _, c => c ≠ '\n'
  | number _ _, c => c.isDigit = true
  | word _, c => isWordPart c = true
  | operator o, c =>
      (∃ p : Operator, p.spelling = o.spelling ++ [c]) ∨ (o = .slash ∧ (c = '/' ∨ c = '*'))
  | openString _, _ | openComment _, _ => True
  | _, _ => False

variable {s : Segment} {c : Char} {cs rest rest' : List Char}

/-! ### The characters that decide -/

theorem beginsWithout_nil (p : Char → Bool) : BeginsWithout p [] := by
  intro c h
  cases h

theorem beginsWithout_cons_iff {p : Char → Bool} : BeginsWithout p (c :: rest) ↔ p c = false := by
  constructor
  · intro h
    exact h c rfl
  · intro h d hd
    cases hd
    exact h

/-- At the end of the text every segment ends where it must. -/
theorem endsBefore_nil (s : Segment) : s.EndsBefore [] := by
  cases s with
  | lineComment body => exact beginsWithout_nil _
  | number whole fraction =>
      cases fraction with
      | nil => exact ⟨beginsWithout_nil _, fun c cs h => by cases h⟩
      | cons d ds => exact beginsWithout_nil _
  | word name => exact beginsWithout_nil _
  | operator o =>
      refine ⟨fun p hp => ?_, fun _ => beginsWithout_nil _⟩
      rw [List.append_nil] at hp
      exact hp.length_le
  | openString body => rfl
  | openComment body => rfl
  | _ => trivial

/-- A longer operator fits only if it is this one and the next character. -/
theorem not_exists_longer_iff {o : Operator} :
    (∀ p : Operator, p.spelling <+: o.spelling ++ c :: rest →
      p.spelling.length ≤ o.spelling.length) ↔
    ¬ ∃ p : Operator, p.spelling = o.spelling ++ [c] := by
  have hpos : 0 < o.spelling.length := List.length_pos_iff.mpr o.spelling_ne_nil
  constructor
  · rintro h ⟨p, hp⟩
    have hle := h p (by rw [hp]; exact ⟨rest, by simp⟩)
    rw [hp, List.length_append, List.length_singleton] at hle
    omega
  · intro h p hp
    refine Nat.le_of_not_lt fun hlt => h ⟨p, ?_⟩
    -- As no spelling has three characters, a longer one has exactly one character more.
    have htwo := p.length_spelling_le
    have hone : o.spelling ++ [c] <+: o.spelling ++ c :: rest := ⟨rest, by simp⟩
    have hlength : p.spelling.length = (o.spelling ++ [c]).length := by
      rw [List.length_append, List.length_singleton]
      omega
    exact (List.prefix_of_prefix_length_le hp hone (Nat.le_of_eq hlength)).eq_of_length hlength

/-- **A segment sees the next character, and behind a point that follows digits one more.** -/
theorem endsBefore_cons_iff :
    s.EndsBefore (c :: rest) ↔
      ¬ s.GoesOn c ∧
        ∀ whole, s = number whole [] → c = '.' → BeginsWithout Char.isDigit rest := by
  cases s with
  | lineComment body => simp [EndsBefore, GoesOn, beginsWithout_cons_iff]
  | number whole fraction =>
      cases fraction with
      | nil =>
          rw [EndsBefore, GoesOn, beginsWithout_cons_iff, Bool.not_eq_true]
          refine and_congr_right fun _ => ?_
          constructor
          · rintro h - - rfl d hd
            cases rest with
            | nil => cases hd
            | cons e es =>
                cases hd
                exact h d es rfl
          · rintro h d ds heq
            cases heq
            exact h whole rfl rfl d rfl
      | cons d ds => simp [EndsBefore, GoesOn, beginsWithout_cons_iff]
  | word name => simp [EndsBefore, GoesOn, beginsWithout_cons_iff]
  | operator o =>
      rw [EndsBefore, not_exists_longer_iff, GoesOn, beginsWithout_cons_iff]
      simp [not_or]
  | openString body => simp [EndsBefore, GoesOn]
  | openComment body => simp [EndsBefore, GoesOn]
  | _ => simp [EndsBefore, GoesOn]

/-- Only a line comment goes on with a blank, and not with a line feed. -/
theorem not_goesOn_of_isBlank (hopen : s.isOpen = false) (hc : isBlank c = true)
    (hline : c = '\n' ∨ ∀ body, s ≠ lineComment body) : ¬ s.GoesOn c := by
  intro h
  cases s with
  | lineComment body => exact hline.elim h fun hno => hno body rfl
  | number whole fraction =>
      have hpart := isWordPart_of_isDigit h
      rw [isWordPart_of_isBlank hc] at hpart
      cases hpart
  | word name =>
      rw [GoesOn, isWordPart_of_isBlank hc] at h
      cases h
  | operator o =>
      rcases h with ⟨p, hp⟩ | ⟨-, rfl | rfl⟩
      · have hmem : c ∈ p.spelling := by simp [hp]
        rw [Operator.isBlank_of_mem_spelling hmem] at hc
        cases hc
      · cases hc
      · cases hc
  | openString body | openComment body => cases hopen
  | _ => exact h

theorem ne_point_of_isBlank (hc : isBlank c = true) : c ≠ '.' := by
  rintro rfl
  cases hc

/-- A segment other than a line comment ends before every blank. -/
theorem endsBefore_of_isBlank (hopen : s.isOpen = false) (hc : isBlank c = true)
    (hline : c = '\n' ∨ ∀ body, s ≠ lineComment body) : s.EndsBefore (c :: rest) :=
  endsBefore_cons_iff.mpr ⟨not_goesOn_of_isBlank hopen hc hline,
    fun _ _ hpoint => absurd hpoint (ne_point_of_isBlank hc)⟩

/-! ### Exchanging the text behind a segment -/

/-- What ends before `rest` ends before `rest'`, unless it runs to the end of the text. -/
def StopsLike (rest rest' : List Char) : Prop :=
  ∀ s : Segment, s.isOpen = false → s.EndsBefore rest → s.EndsBefore rest'

theorem stopsLike_nil : StopsLike rest [] :=
  fun s _ _ => endsBefore_nil s

/-- A line feed stops everything. -/
theorem stopsLike_newline : StopsLike rest ('\n' :: rest') :=
  fun _ hopen _ => endsBefore_of_isBlank hopen rfl (.inl rfl)

/-- Behind a character that stays and is no point, nothing is seen. -/
theorem stopsLike_of_head (hc : c ≠ '.') : StopsLike (c :: rest) (c :: rest') := by
  intro s _ h
  exact endsBefore_cons_iff.mpr
    ⟨(endsBefore_cons_iff.mp h).1, fun _ _ hpoint => absurd hpoint hc⟩

/-- A space stops what any other character of the same line stops: a line comment, which a
space does not stop, is not stopped by the other character either. -/
theorem stopsLike_space (hc : c ≠ '\n') : StopsLike (c :: rest) (' ' :: rest') := by
  intro s hopen h
  refine endsBefore_of_isBlank hopen rfl (.inr ?_)
  -- A line comment would have taken `c` in, so it does not end before the first text.
  rintro body rfl
  exact (endsBefore_cons_iff.mp h).1 hc

/-- One more character in front of both texts: behind a point the first character counts, and
a number with digits behind its point tells whether that is a digit. -/
theorem StopsLike.cons (h : StopsLike rest rest') : StopsLike (c :: rest) (c :: rest') := by
  intro s _ hs
  obtain ⟨hno, hpoint⟩ := endsBefore_cons_iff.mp hs
  refine endsBefore_cons_iff.mpr ⟨hno, fun whole hwhole hc => ?_⟩
  exact h (number ['0'] ['0']) rfl (hpoint whole hwhole hc)

theorem StopsLike.append_left (h : StopsLike rest rest') (cs : List Char) :
    StopsLike (cs ++ rest) (cs ++ rest') := by
  induction cs with
  | nil => exact h
  | cons c cs ih => exact ih.cons

/-- Behind a text that is not empty a segment sees no more than one character, and that only
where the text is a point. -/
theorem stopsLike_append (hne : cs ≠ []) (hrest : BeginsWithout Char.isDigit rest) :
    StopsLike cs (cs ++ rest) := by
  induction cs with
  | nil => exact absurd rfl hne
  | cons c cs ih =>
      cases cs with
      | nil =>
          intro s _ h
          exact endsBefore_cons_iff.mpr ⟨(endsBefore_cons_iff.mp h).1, fun _ _ _ => hrest⟩
      | cons d ds => exact (ih (List.cons_ne_nil d ds)).cons

/-! ### Exchanging the text behind a row of segments -/

variable {before after after' : List Segment}

/-- Whatever has something behind it does not run to the end of the text. -/
theorem Tiling.isOpen_eq_false (h : Tiling (before ++ after)) (hafter : after ≠ []) :
    ∀ s ∈ before, s.isOpen = false := by
  induction before with
  | nil => simp
  | cons s ss ih =>
      rw [List.cons_append] at h
      obtain ⟨-, hs, htail⟩ := tiling_cons_iff.mp h
      intro t ht
      rcases List.mem_cons.mp ht with rfl | ht
      · -- The text behind it is not empty, as it holds the text of `after`.
        obtain ⟨u, us, rfl⟩ := List.exists_cons_of_ne_nil hafter
        have hu : u.text ≠ [] := (htail.wellFormed_of_mem (by simp)).text_ne_nil
        cases t with
        | openString body | openComment body =>
            have hnil : (ss ++ u :: us).flatMap text = [] := hs
            simp [hu] at hnil
        | _ => rfl
      · exact ih htail t ht

theorem Tiling.exchange (h : Tiling (before ++ after)) (hopen : ∀ s ∈ before, s.isOpen = false)
    (hafter : Tiling after') (hstops : StopsLike (after.flatMap text) (after'.flatMap text)) :
    Tiling (before ++ after') := by
  induction before with
  | nil => exact hafter
  | cons s ss ih =>
      rw [List.cons_append] at h ⊢
      obtain ⟨hs, hends, htail⟩ := tiling_cons_iff.mp h
      refine .cons hs ?_ (ih htail fun t ht => hopen t (List.mem_cons_of_mem _ ht))
      rw [List.flatMap_append] at hends ⊢
      exact hstops.append_left _ s (hopen s List.mem_cons_self) hends

/-- **A change behind some segments leaves them as they are**, and what follows them is cut
as if it stood alone. -/
theorem segments_append (h : segments cs = before ++ after)
    (hopen : ∀ s ∈ before, s.isOpen = false) (hstops : StopsLike (after.flatMap text) rest) :
    segments (before.flatMap text ++ rest) = before ++ segments rest := by
  refine segments_eq_iff.mpr ⟨?_, ?_⟩
  · refine Tiling.exchange (h ▸ tiling_segments cs) hopen (tiling_segments rest) ?_
    rwa [flatMap_text_segments]
  · rw [List.flatMap_append, flatMap_text_segments]

/-! ### Rewriting a row of segments -/

variable {f : Segment → List Segment} {ss : List Segment}

/-- If what stands in the place of each segment stops what the segment stops, then so do the
rewritten segments of a tiling. -/
theorem Tiling.stopsLike_flatMap
    (hstops : ∀ s, s.WellFormed → ∀ rest rest', StopsLike rest rest' →
      StopsLike (s.text ++ rest) ((f s).flatMap text ++ rest')) (h : Tiling ss) :
    StopsLike (ss.flatMap text) ((ss.flatMap f).flatMap text) := by
  induction h with
  | nil => exact stopsLike_nil
  | cons hs _ _ ih =>
      rw [List.flatMap_cons, List.flatMap_cons, List.flatMap_append]
      exact hstops _ hs _ _ ih

/-- An open segment is the last one. -/
theorem Tiling.eq_nil_of_isOpen {s : Segment} (h : Tiling (s :: ss)) (hopen : s.isOpen = true) :
    ss = [] := by
  cases ss with
  | nil => rfl
  | cons t ts =>
      have hclosed : ∀ u ∈ [s], u.isOpen = false :=
        Tiling.isOpen_eq_false (show Tiling ([s] ++ t :: ts) from h) (List.cons_ne_nil t ts)
      rw [hclosed s List.mem_cons_self] at hopen
      cases hopen

/-- **Segments that are rewritten one by one are a tiling again**, if what stands in the place of
each stops what the segment stops, and ends before whatever the segment ends before. -/
theorem Tiling.rewrite
    (hstops : ∀ s, s.WellFormed → ∀ rest rest', StopsLike rest rest' →
      StopsLike (s.text ++ rest) ((f s).flatMap text ++ rest'))
    (happend : ∀ s, s.WellFormed → ∀ rest, s.EndsBefore (rest.flatMap text) → Tiling rest →
      Tiling (f s ++ rest)) (h : Tiling ss) : Tiling (ss.flatMap f) := by
  induction h with
  | nil => exact .nil
  | @cons s ss hs hends hss ih =>
      refine happend s hs _ ?_ ih
      cases hopen : s.isOpen with
      | false => exact hss.stopsLike_flatMap hstops s hopen hends
      | true =>
          -- Nothing stands behind an open segment, in either text.
          rw [(Tiling.cons hs hends hss).eq_nil_of_isOpen hopen]
          exact endsBefore_nil s

end Segment
end LoxScan

/-! # Cutting a text into lines

Three ways of seeing lines meet in a scanner, and they differ at the edges.

* `lines` is what a reader sees: the text is cut at each line feed, one carriage return
  directly before a line feed belongs to the line end, and a final line feed opens no
  further line.  A carriage return that no line feed follows is ordinary text.
* `cutAfter` keeps everything: a piece ends right after each separator and nowhere else but
  at the end (`not_isSeparator_of_mem_dropLast`), so the pieces joined together are the text
  again (`flatten_cutAfter`).  This is how input is read line by line, from characters or
  from bytes, and an induction over a text can go piece by piece (`cutAfter_induction`).
* `trimLineEnd` takes a piece read that way down to the text that was typed: all carriage
  returns and line feeds at its end are dropped. -/

namespace LoxScan.Text

/-! ### Lines for the reader -/

/-- The lines of a text, without their line ends. -/
def lines : List Char → List (List Char)
  | [] => []
  | '\n' :: cs => [] :: lines cs
  | '\r' :: '\n' :: cs => [] :: lines cs
  | c :: cs =>
      match lines cs with
      | [] => [[c]]
      | l :: ls => (c :: l) :: ls

@[simp] theorem lines_nil : lines [] = [] := by rw [lines]

@[simp] theorem lines_newline (cs : List Char) : lines ('\n' :: cs) = [] :: lines cs := by
  rw [lines]

@[simp] theorem lines_return_newline (cs : List Char) :
    lines ('\r' :: '\n' :: cs) = [] :: lines cs := by rw [lines]

/-- A character that belongs to no line end extends the first line of what follows. -/
theorem lines_cons {c : Char} {cs : List Char} (hn : c ≠ '\n')
    (hr : c = '\r' → cs.head? ≠ some '\n') :
    lines (c :: cs) = (c :: (lines cs).headD []) :: (lines cs).tail := by
  rw [lines]
  · cases lines cs <;> rfl
  · exact hn
  · rintro cs' rfl rfl
    exact hr rfl rfl

/-- Any character but a line feed stays on the line that follows it.  Only a carriage return
may be missing from that line. -/
theorem exists_lines_cons {c : Char} (hn : c ≠ '\n') (cs : List Char) :
    ∃ l, lines (c :: cs) = l :: (lines cs).tail ∧ (∀ d ∈ (lines cs).headD [], d ∈ l) ∧
      (c ≠ '\r' → c ∈ l) := by
  by_cases hr : c = '\r' ∧ cs.head? = some '\n'
  · obtain ⟨rfl, hhead⟩ := hr
    obtain ⟨ds, rfl⟩ := List.head?_eq_some_iff.mp hhead
    exact ⟨[], by simp, by simp, fun hc => absurd rfl hc⟩
  · have hcons := lines_cons hn fun hc hhead => hr ⟨hc, hhead⟩
    exact ⟨_, hcons, fun d hd => List.mem_cons_of_mem c hd, fun _ => List.mem_cons_self⟩

theorem lines_ne_nil {cs : List Char} (h : cs ≠ []) : lines cs ≠ [] := by
  obtain ⟨c, cs, rfl⟩ := List.exists_cons_of_ne_nil h
  by_cases hn : c = '\n'
  · subst hn
    rw [lines_newline]
    exact List.cons_ne_nil _ _
  · obtain ⟨l, hl, -⟩ := exists_lines_cons hn cs
    rw [hl]
    exact List.cons_ne_nil _ _

/-- No line has a line feed in it. -/
theorem newline_not_mem_of_mem_lines {cs l : List Char} (h : l ∈ lines cs) : '\n' ∉ l := by
  fun_induction lines cs generalizing l with
  | case1 => cases h
  | case2 cs ih =>
      rcases List.mem_cons.mp h with rfl | h
      · exact List.not_mem_nil
      · exact ih h
  | case3 cs ih =>
      rcases List.mem_cons.mp h with rfl | h
      · exact List.not_mem_nil
      · exact ih h
  | case4 c cs hn hr hnil ih =>
      rw [List.mem_singleton.mp h, List.mem_singleton]
      exact fun heq => hn heq.symm
  | case5 c cs hn hr k ks hcons ih =>
      rcases List.mem_cons.mp h with rfl | h
      · rw [List.mem_cons, not_or]
        exact ⟨fun heq => hn heq.symm, ih (hcons ▸ List.mem_cons_self)⟩
      · exact ih (hcons ▸ List.mem_cons_of_mem k h)

/-- What stands on a line stands in the text. -/
theorem mem_of_mem_lines {cs l : List Char} {c : Char} (h : l ∈ lines cs) (hc : c ∈ l) :
    c ∈ cs := by
  fun_induction lines cs generalizing l with
  | case1 => cases h
  | case2 cs ih =>
      rcases List.mem_cons.mp h with rfl | h
      · cases hc
      · exact List.mem_cons_of_mem _ (ih h hc)
  | case3 cs ih =>
      rcases List.mem_cons.mp h with rfl | h
      · cases hc
      · exact List.mem_cons_of_mem _ (List.mem_cons_of_mem _ (ih h hc))
  | case4 d cs hn hr hnil ih =>
      rw [List.mem_singleton.mp h] at hc
      rw [List.mem_singleton.mp hc]
      exact List.mem_cons_self
  | case5 d cs hn hr k ks hcons ih =>
      rcases List.mem_cons.mp h with rfl | h
      · rcases List.mem_cons.mp hc with rfl | hc
        · exact List.mem_cons_self
        · exact List.mem_cons_of_mem _ (ih (hcons ▸ List.mem_cons_self) hc)
      · exact List.mem_cons_of_mem _ (ih (hcons ▸ List.mem_cons_of_mem k h) hc)

/-- **Each line feed ends a line**, and what stands behind the last one is a line if it is
not empty. -/
theorem length_lines (cs : List Char) :
    (lines cs).length =
      cs.count '\n' + if cs = [] ∨ cs.getLast? = some '\n' then 0 else 1 := by
  induction cs with
  | nil => rfl
  | cons c cs ih =>
      by_cases hn : c = '\n'
      · subst hn
        rw [lines_newline, List.length_cons, ih, List.count_cons_self]
        cases cs with
        | nil => rfl
        | cons d ds =>
            simp only [List.getLast?_cons_cons, reduceCtorEq, false_or]
            omega
      · obtain ⟨l, hl, -⟩ := exists_lines_cons hn cs
        rw [hl, List.length_cons, List.length_tail, List.count_cons_of_ne hn]
        cases cs with
        | nil => simp [hn]
        | cons d ds =>
            have hpos := List.length_pos_iff.mpr (lines_ne_nil (List.cons_ne_nil d ds))
            simp only [List.getLast?_cons_cons, reduceCtorEq, false_or] at ih ⊢
            omega

/-- **The line feeds before a character tell on which line it stands.** -/
theorem exists_mem_lines {c : Char} (hn : c ≠ '\n') (hr : c ≠ '\r') (before after : List Char) :
    ∃ l, (lines (before ++ c :: after))[before.count '\n']? = some l ∧ c ∈ l := by
  induction before with
  | nil =>
      obtain ⟨l, hl, -, hmem⟩ := exists_lines_cons hn after
      exact ⟨l, by rw [List.nil_append, hl]; rfl, hmem hr⟩
  | cons b before ih =>
      obtain ⟨l, hl, hmem⟩ := ih
      rw [List.cons_append]
      by_cases hb : b = '\n'
      · subst hb
        refine ⟨l, ?_, hmem⟩
        rwa [lines_newline, List.count_cons_self, List.getElem?_cons_succ]
      · obtain ⟨k, hk, hsub, -⟩ := exists_lines_cons hb (before ++ c :: after)
        rw [hk, List.count_cons_of_ne hb]
        cases hcount : before.count '\n' with
        | zero =>
            rw [hcount, ← List.head?_eq_getElem?] at hl
            refine ⟨k, rfl, hsub c ?_⟩
            rwa [List.headD_eq_head?_getD, hl]
        | succ n =>
            refine ⟨l, ?_, hmem⟩
            rw [List.getElem?_cons_succ, List.getElem?_tail, ← hcount]
            exact hl

/-! ### Pieces that keep their separators -/

variable {α : Type}

/-- The pieces of a text that each end right after a separator; the last one need not
have one. -/
def cutAfter (isSeparator : α → Bool) : List α → List (List α)
  | [] => []
  | a :: as =>
      if isSeparator a then [a] :: cutAfter isSeparator as
      else match cutAfter isSeparator as with
        | [] => [[a]]
        | p :: ps => (a :: p) :: ps

/-- A separator is the end of a piece. -/
theorem cutAfter_cons_separator {isSeparator : α → Bool} {a : α} (h : isSeparator a = true)
    (as : List α) : cutAfter isSeparator (a :: as) = [a] :: cutAfter isSeparator as := by
  rw [cutAfter, if_pos h]

/-- Anything else extends the first piece of what follows. -/
theorem cutAfter_cons {isSeparator : α → Bool} {a : α} (h : isSeparator a = false)
    (as : List α) :
    cutAfter isSeparator (a :: as) =
      (a :: (cutAfter isSeparator as).headD []) :: (cutAfter isSeparator as).tail := by
  rw [cutAfter, if_neg (by simp [h])]
  cases cutAfter isSeparator as <;> rfl

/-- Where no separator stands, nothing is cut. -/
theorem cutAfter_append {isSeparator : α → Bool} {as : List α} (hne : as ≠ [])
    (h : ∀ a ∈ as, isSeparator a = false) (bs : List α) :
    cutAfter isSeparator (as ++ bs) =
      (as ++ (cutAfter isSeparator bs).headD []) :: (cutAfter isSeparator bs).tail := by
  induction as with
  | nil => exact absurd rfl hne
  | cons a as ih =>
      obtain ⟨ha, has⟩ := List.forall_mem_cons.mp h
      rw [List.cons_append, cutAfter_cons ha]
      by_cases hnil : as = []
      · subst hnil
        rfl
      · rw [ih hnil has]
        rfl

/-- **Cutting loses nothing:** the pieces joined together are the text. -/
theorem flatten_cutAfter (isSeparator : α → Bool) (as : List α) :
    (cutAfter isSeparator as).flatten = as := by
  induction as with
  | nil => rfl
  | cons a as ih =>
      by_cases ha : isSeparator a = true
      · rw [cutAfter_cons_separator ha, List.flatten_cons, ih, List.singleton_append]
      · rw [Bool.not_eq_true] at ha
        rw [cutAfter_cons ha, List.flatten_cons, List.cons_append]
        cases hps : cutAfter isSeparator as with
        | nil =>
            rw [hps] at ih
            rw [← ih]
            rfl
        | cons p ps =>
            rw [hps, List.flatten_cons] at ih
            rw [List.headD_cons, List.tail_cons, ih]

/-- No piece is empty. -/
theorem ne_nil_of_mem_cutAfter {isSeparator : α → Bool} {as p : List α}
    (h : p ∈ cutAfter isSeparator as) : p ≠ [] := by
  induction as generalizing p with
  | nil => cases h
  | cons a as ih =>
      by_cases ha : isSeparator a = true
      · rw [cutAfter_cons_separator ha] at h
        rcases List.mem_cons.mp h with rfl | h
        · exact List.cons_ne_nil _ _
        · exact ih h
      · rw [Bool.not_eq_true] at ha
        rw [cutAfter_cons ha] at h
        rcases List.mem_cons.mp h with rfl | h
        · exact List.cons_ne_nil _ _
        · exact ih (List.mem_of_mem_tail h)

/-- **Every separator ends a piece:** none stands further in front. -/
theorem not_isSeparator_of_mem_dropLast {isSeparator : α → Bool} {as p : List α}
    (h : p ∈ cutAfter isSeparator as) : ∀ a ∈ p.dropLast, isSeparator a = false := by
  induction as generalizing p with
  | nil => cases h
  | cons a as ih =>
      by_cases ha : isSeparator a = true
      · rw [cutAfter_cons_separator ha] at h
        rcases List.mem_cons.mp h with rfl | h
        · intro b hb
          cases hb
        · exact ih h
      · rw [Bool.not_eq_true] at ha
        rw [cutAfter_cons ha] at h
        rcases List.mem_cons.mp h with rfl | h
        · -- The first piece is the first piece of what follows, if any, with `a` in front.
          cases hps : cutAfter isSeparator as with
          | nil =>
              intro b hb
              cases hb
          | cons q qs =>
              have hq : q ∈ cutAfter isSeparator as := hps ▸ List.mem_cons_self
              rw [List.headD_cons, List.dropLast_cons_of_ne_nil (ne_nil_of_mem_cutAfter hq)]
              exact List.forall_mem_cons.mpr ⟨ha, ih hq⟩
        · exact ih (List.mem_of_mem_tail h)

/-- Up to its first separator a text is one piece. -/
theorem cutAfter_append_separator {isSeparator : α → Bool} {as : List α} {a : α}
    (h : ∀ b ∈ as, isSeparator b = false) (ha : isSeparator a = true) (bs : List α) :
    cutAfter isSeparator (as ++ a :: bs) = (as ++ [a]) :: cutAfter isSeparator bs := by
  by_cases hne : as = []
  · subst hne
    exact cutAfter_cons_separator ha bs
  · rw [cutAfter_append hne h, cutAfter_cons_separator ha]
    rfl

/-- A text without separators is one piece, if it is not empty. -/
theorem cutAfter_of_no_separator {isSeparator : α → Bool} {as : List α} (hne : as ≠ [])
    (h : ∀ a ∈ as, isSeparator a = false) : cutAfter isSeparator as = [as] := by
  have hcut := cutAfter_append hne h []
  rw [List.append_nil] at hcut
  rw [hcut, cutAfter, List.headD_nil, List.append_nil, List.tail_nil]

/-- **Induction along the pieces of a text:** what holds of texts without separators, and goes
over from the text behind a separator to the text with one more piece in front, holds of all
texts. -/
@[elab_as_elim]
theorem cutAfter_induction (isSeparator : α → Bool) {motive : List α → Prop}
    (last : ∀ as, (∀ a ∈ as, isSeparator a = false) → motive as)
    (piece : ∀ as a bs, (∀ b ∈ as, isSeparator b = false) → isSeparator a = true →
      motive bs → motive (as ++ a :: bs)) (cs : List α) : motive cs := by
  -- The piece that is being read stands in front of the text that is left.
  suffices h : ∀ as, (∀ a ∈ as, isSeparator a = false) → motive (as ++ cs) from
    h [] fun _ ha => absurd ha List.not_mem_nil
  induction cs with
  | nil =>
      intro as has
      rw [List.append_nil]
      exact last as has
  | cons c cs ih =>
      intro as has
      by_cases hc : isSeparator c = true
      · exact piece as c cs has hc (ih [] fun _ ha => absurd ha List.not_mem_nil)
      · rw [List.append_cons]
        refine ih (as ++ [c]) fun a ha => ?_
        rcases List.mem_append.mp ha with ha | ha
        · exact has a ha
        · rw [List.mem_singleton.mp ha]
          exact Bool.eq_false_iff.mpr hc

/-! ### The text of a line that was read -/

/-- Without the carriage returns and line feeds at the end. -/
def trimLineEnd (cs : List Char) : List Char :=
  (cs.reverse.dropWhile fun c => c = '\n' || c = '\r').reverse

/-- A line feed at the end is dropped. -/
theorem trimLineEnd_append_newline (cs : List Char) :
    trimLineEnd (cs ++ ['\n']) = trimLineEnd cs := by
  rw [trimLineEnd, List.reverse_append]
  rfl

/-- **What remains of a line is told by its end:** only line feeds and carriage returns stand behind
it, and it ends with neither. -/
theorem eq_trimLineEnd_iff {cs ds : List Char} :
    ds = trimLineEnd cs ↔
      (∃ ends, cs = ds ++ ends ∧ ∀ c ∈ ends, c = '\n' ∨ c = '\r') ∧
        ∀ c, ds.getLast? = some c → c ≠ '\n' ∧ c ≠ '\r' := by
  constructor
  · rintro rfl
    have hcut :=
      List.takeWhile_append_dropWhile (p := fun c => c = '\n' || c = '\r') (l := cs.reverse)
    refine ⟨⟨(cs.reverse.takeWhile fun c => c = '\n' || c = '\r').reverse, ?_, ?_⟩, ?_⟩
    · rw [trimLineEnd, ← List.reverse_append, hcut, List.reverse_reverse]
    · intro c hc
      have hend := List.all_eq_true.mp List.all_takeWhile c (List.mem_reverse.mp hc)
      simpa using hend
    · intro c hc
      rw [trimLineEnd, List.getLast?_reverse] at hc
      have hstop := List.head?_dropWhile_not (fun c => c = '\n' || c = '\r') cs.reverse
      rw [hc] at hstop
      simpa using hstop
  · rintro ⟨⟨ends, rfl, hends⟩, hlast⟩
    rw [trimLineEnd, List.reverse_append, List.dropWhile_append_of_pos (by simpa using hends)]
    cases hds : ds.reverse with
    | nil => exact List.reverse_eq_nil_iff.mp hds
    | cons c cs =>
        have hc := hlast c (by rw [List.getLast?_eq_head?_reverse, hds]; rfl)
        rw [List.dropWhile_cons_of_neg (by simpa using hc), ← hds, List.reverse_reverse]

/-- Of a line nothing but carriage returns is dropped. -/
theorem exists_eq_trimLineEnd_append {cs : List Char} (h : '\n' ∉ cs) :
    ∃ returns, cs = trimLineEnd cs ++ returns ∧ ∀ c ∈ returns, c = '\r' := by
  obtain ⟨⟨ends, hcs, hends⟩, -⟩ := eq_trimLineEnd_iff.mp (rfl : trimLineEnd cs = _)
  refine ⟨ends, hcs, fun c hc => (hends c hc).resolve_left ?_⟩
  rintro rfl
  rw [hcs] at h
  exact h (List.mem_append_right _ hc)

/-- Of a text with at most a line feed at its end, no line feed is left. -/
theorem newline_not_mem_trimLineEnd {cs : List Char} (h : '\n' ∉ cs.dropLast) :
    '\n' ∉ trimLineEnd cs := by
  rcases List.eq_nil_or_concat cs with rfl | ⟨ds, c, rfl⟩
  · exact List.not_mem_nil
  · rw [List.concat_eq_append, List.dropLast_concat] at h
    rw [trimLineEnd, List.concat_eq_append, List.reverse_concat, List.mem_reverse]
    intro hmem
    by_cases hc : c = '\n' ∨ c = '\r'
    · rw [List.dropWhile_cons_of_pos (by simpa using hc)] at hmem
      exact h (List.mem_reverse.mp ((List.dropWhile_sublist _).subset hmem))
    · rw [List.dropWhile_cons_of_neg (by simpa using hc)] at hmem
      rcases List.mem_cons.mp hmem with rfl | hmem
      · exact hc (.inl rfl)
      · exact h (List.mem_reverse.mp hmem)

end LoxScan.Text

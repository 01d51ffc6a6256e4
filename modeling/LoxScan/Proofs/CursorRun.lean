import LoxScan.Proofs.CursorSegment
import LoxScan.Proofs.Numeral

/-! # Runs of the scanner

Between two segments the text that is left is a text of its own, so a run goes through the segments
of the text one by one (`Scanner.exists_yields_tokenizeFrom`,
`Scanner.exists_yields_tokenizeAllFrom`), by induction on the way that the text is cut.  Where a
segment begins, what is cut out is its own text, and then the value of `scanToken` is the item of
the segment (`Scanner.yields_scanToken_begun`).  So a run comes to an end, with what `scan` and
`items` say, and stays within the text (`scanner_stays_within_text`). -/

namespace LoxScan

open Text Segment

variable {source : Array Char} {c : Cursor} {ch : Char} {run rest cs : List Char} {s : Segment}

namespace Scanner

/-- What an item, or none, is as the value of `scanToken`. -/
def outcomeOfItem : Option Item → Except ScanError (Option Token)
  | none => .ok none
  | some (.token t) => .ok (some t)
  | some (.error e) => .error e

theorem numberToken_eq {whole fraction : List Char} (hs : (number whole fraction).WellFormed)
    (line : Nat) :
    outcomeOfItem ((number whole fraction).item? line) =
      .ok (some (numberToken (.ofList (number whole fraction).text) line)) := by
  have hvalue : Double.ofText? (.ofList (number whole fraction).text) =
      some (.ofDecimal false (.ofDigits whole fraction)) := by
    obtain ⟨hne, hwhole, hfraction⟩ := hs
    rw [Double.ofText?, String.toList_ofList, text]
    split
    · rename_i hnil
      subst hnil
      exact congrArg _ ((Numeral.isMantissa_digits ⟨hne, hwhole⟩).ofText?_eq false)
    · rename_i hcons
      exact congrArg _
        ((Numeral.isMantissa_point ⟨hne, hwhole⟩ ⟨hcons, hfraction⟩).ofText?_eq false)
  rw [numberToken, hvalue]
  rfl

/-- The texts that are cut out are those of the segment, so its item is found. -/
theorem outcome_eq_outcomeOfItem {value : List Char} (hs : s.WellFormed)
    (hvalue : ∀ body, s = string body → value = body) (line : Nat) :
    s.outcome s.text value line = outcomeOfItem (s.item? line) := by
  cases s with
  | string body =>
      rw [hvalue body rfl]
      rfl
  | number whole fraction => exact (numberToken_eq hs line).symm
  | _ => rfl

theorem toList_extract {i n : Nat} (h : source.toList.drop i = run ++ rest)
    (hn : n = i + run.length) : (source.extract i n).toList = run := by
  rw [Array.toList_extract, List.extract_eq_take_drop, h, hn, Nat.add_sub_cancel_left,
    List.take_left]

theorem lexemeAt_begun (h : c.StandsBefore source (s.text ++ rest)) :
    lexemeAt source (c.begun.past s.text) = s.text :=
  toList_extract h rfl

theorem valueAt_begun {body : List Char} (h : c.StandsBefore source ((string body).text ++ rest)) :
    valueAt source (c.begun.past (string body).text) = body := by
  have hbody : source.toList.drop (c.current + 1) = body ++ '"' :: rest := by
    rw [← List.drop_drop, h]
    simp [text]
  refine toList_extract hbody ?_
  simp only [Cursor.begun, Cursor.past, text, List.length_cons, List.length_append, List.length_nil]
  omega

theorem yields_beginSegment (hc : c.IsValid source.size) :
    Yields source beginSegment c () c.begun :=
  (yields_cursor source c).bind (yields_moveTo hc.begun (Nat.le_refl _))

/-- **Where a segment begins, its item is found**, and behind it the rest of the text is left. -/
theorem yields_scanToken_begun (h : c.StandsBefore source (ch :: cs)) (hc : c.IsValid source.size) :
    Yields source scanToken c.begun (outcomeOfItem ((Segment.next ch cs).1.item? c.line))
        (c.begun.past (Segment.next ch cs).1.text) ∧
      (c.begun.past (Segment.next ch cs).1.text).StandsBefore source (Segment.next ch cs).2 ∧
      (c.begun.past (Segment.next ch cs).1.text).IsValid source.size := by
  have hfirst : IsFirst (source.toList.drop c.current) (Segment.next ch cs).1
      (Segment.next ch cs).2 := h ▸ isFirst_next ch cs
  have hstands : c.StandsBefore source ((Segment.next ch cs).1.text ++ (Segment.next ch cs).2) :=
    hfirst.append.symm
  have hvalue (body : List Char) (hbody : (Segment.next ch cs).1 = string body) :
      valueAt source (c.begun.past (Segment.next ch cs).1.text) = body := by
    rw [hbody] at hstands ⊢
    exact valueAt_begun hstands
  have hsegment : YieldsSegment source c.begun (Segment.next ch cs).1 :=
    yieldsSegment hfirst hc.begun
  rw [YieldsSegment, lexemeAt_begun hstands,
    outcome_eq_outcomeOfItem hfirst.wellFormed hvalue] at hsegment
  have hbegun : c.begun.StandsBefore source (_ ++ _) := hstands
  exact ⟨hsegment, hbegun.past, hc.begun.past hbegun⟩

/-- **Going on to the end finds the items of the segments that are left.** -/
theorem exists_yields_tokenizeAllFrom {cs : List Char} (h : c.StandsBefore source cs)
    (hc : c.IsValid source.size) (found : List Item) :
    ∃ c', c'.IsValid source.size ∧
      Yields source (tokenizeAllFrom found) c (found ++ itemsFrom c.line (segments cs)) c' := by
  fun_induction segments cs generalizing c found with
  | case1 =>
      exact ⟨c, hc, yields_loop_stop ((yields_isAtEnd h).bind ((yields_cursor source c).bind
        (yields_pure source c _)))⟩
  | case2 ch cs first =>
      rename_i ih
      obtain ⟨hscan, hleft, hbehind⟩ := yields_scanToken_begun h hc
      obtain ⟨c', hc', hlater⟩ := ih hleft hbehind (found ++ (first.1.item? c.line).toList)
      rw [List.append_assoc] at hlater
      refine ⟨c', hc', yields_loop_next ((yields_isAtEnd h).bind
        ((yields_beginSegment hc).bind (hscan.bind ?_))) hlater⟩
      cases first.1.item? c.line with
      | none =>
          rw [Option.toList_none, List.append_nil]
          exact yields_pure source _ _
      | some item => cases item <;> exact yields_pure source _ _

theorem map_append_map_cons (found : List Token) (t : Token)
    (later : Except ScanError (List Token)) :
    (later.map (t :: ·)).map (found ++ ·) = later.map (found ++ [t] ++ ·) := by
  cases later with
  | error e => rfl
  | ok ts => exact congrArg Except.ok (List.append_cons found t ts)

/-- **Going on to the first error finds the tokens of the segments that are left**, or the
error. -/
theorem exists_yields_tokenizeFrom {cs : List Char} (h : c.StandsBefore source cs)
    (hc : c.IsValid source.size) (found : List Token) :
    ∃ c', c'.IsValid source.size ∧
      Yields source (tokenizeFrom found) c
        ((tokensFrom c.line (segments cs)).map (found ++ ·)) c' := by
  fun_induction segments cs generalizing c found with
  | case1 =>
      exact ⟨c, hc, yields_loop_stop ((yields_isAtEnd h).bind ((yields_cursor source c).bind
        (yields_pure source c _)))⟩
  | case2 ch cs first =>
      rename_i ih
      obtain ⟨hscan, hleft, hbehind⟩ := yields_scanToken_begun h hc
      unfold tokensFrom
      cases hitem : first.1.item? c.line with
      | none =>
          rw [hitem] at hscan
          obtain ⟨c', hc', hlater⟩ := ih hleft hbehind found
          exact ⟨c', hc', yields_loop_next ((yields_isAtEnd h).bind
            ((yields_beginSegment hc).bind (hscan.bind (yields_pure source _ _)))) hlater⟩
      | some item =>
          rw [hitem] at hscan
          cases item with
          | token t =>
              obtain ⟨c', hc', hlater⟩ := ih hleft hbehind (found ++ [t])
              rw [← map_append_map_cons] at hlater
              exact ⟨c', hc', yields_loop_next ((yields_isAtEnd h).bind
                ((yields_beginSegment hc).bind (hscan.bind (yields_pure source _ _)))) hlater⟩
          | error e =>
              exact ⟨_, hbehind, yields_loop_stop ((yields_isAtEnd h).bind
                ((yields_beginSegment hc).bind (hscan.bind (yields_pure source _ _))))⟩

end Scanner

/-- What is recorded is within the text, and no more tokens are asked for than it has
characters. -/
structure Progress.StaysWithin (size : Nat) (p : Progress) : Prop where
  inBounds : ∀ s ∈ p.steps, s.InBounds size
  countP_le : p.steps.countP Step.isScanToken ≤ size

namespace Scanner

/-- From the beginning of a text a scanner that is safe stays within the text. -/
theorem exists_runOn_eq {α : Type} {m : Scanner α} {source : String} {a : α} {c' : Cursor}
    (h : Yields source.toList.toArray m .initial a c')
    (hc' : c'.IsValid source.toList.toArray.size) :
    ∃ p, runOn m source = .some (a, p) ∧ p.StaysWithin source.toList.length := by
  obtain ⟨steps, hsafe, hrun⟩ := h
  refine ⟨_, hrun _, List.forall_mem_append.mpr ⟨?_, hsafe.inBounds⟩, ?_⟩
  · exact List.forall_mem_singleton.mpr (Cursor.isValid_initial _)
  · have hcount := hsafe.countP_le
    exact Nat.le_trans hcount hc'.current_le

/-- **Every call of `scanToken` in front of a character moves the cursor on.** -/
theorem exists_yields_scanToken (source : Array Char) (hc : c.IsValid source.size)
    (hlt : c.current < source.size) :
    ∃ found c', Yields source scanToken c found c' ∧ c.current < c'.current ∧
      c'.IsValid source.size := by
  have hne : source.toList.drop c.current ≠ [] := by
    rw [ne_eq, List.drop_eq_nil_iff, Array.length_toList]
    exact Nat.not_le.mpr hlt
  obtain ⟨ch, cs, hcs⟩ := List.exists_cons_of_ne_nil hne
  have hfirst : IsFirst (source.toList.drop c.current) (Segment.next ch cs).1
      (Segment.next ch cs).2 := hcs ▸ isFirst_next ch cs
  have hstands : c.StandsBefore source ((Segment.next ch cs).1.text ++ _) := hfirst.append.symm
  have hlength := List.length_pos_iff.mpr hfirst.wellFormed.text_ne_nil
  exact ⟨_, _, yieldsSegment hfirst hc, Nat.lt_add_of_pos_right hlength, hc.past hstands⟩

end Scanner

/-- **The scanner stays within the text and comes to an end.**  Both ways through a text end, with
the tokens and items that the text has.  On the way every place of the cursor is a valid one, every
character that is taken and every piece that is cut out is there, and a token is asked for at most
as often as the text has characters.  From every valid place in front of a character, reached or
not, a call of `scanToken` comes to an end as well, and whatever it gives, it has stayed within the
text and moved the cursor on. -/
theorem scanner_stays_within_text (source : String) :
    (∃ p, Scanner.runOn .tokenize source = .some (scan source, p) ∧
      p.StaysWithin source.toList.length) ∧
    (∃ p, Scanner.runOn .tokenizeAll source = .some (items source, p) ∧
      p.StaysWithin source.toList.length) ∧
    ∀ c : Cursor, c.IsValid source.toList.length → c.current < source.toList.length →
      ∃ found c' steps, Scanner.Records source.toList.toArray .scanToken c steps found c' ∧
        (∀ s ∈ steps, s.InBounds source.toList.length) ∧
        c.current < c'.current ∧ c'.IsValid source.toList.length := by
  have hinitial := Cursor.isValid_initial source.toList.toArray.size
  have hstands : Cursor.initial.StandsBefore source.toList.toArray source.toList := rfl
  refine ⟨?_, ?_, fun c hc hlt => ?_⟩
  · obtain ⟨c', hc', hrun⟩ := Scanner.exists_yields_tokenizeFrom hstands hinitial []
    have hmap (found : Except ScanError (List Token)) : found.map ([] ++ ·) = found := by
      cases found <;> rfl
    rw [hmap] at hrun
    exact Scanner.exists_runOn_eq hrun hc'
  · obtain ⟨c', hc', hrun⟩ := Scanner.exists_yields_tokenizeAllFrom hstands hinitial []
    exact Scanner.exists_runOn_eq hrun hc'
  · obtain ⟨found, c', ⟨steps, hsafe, hrun⟩, hmoved, hc'⟩ :=
      Scanner.exists_yields_scanToken source.toList.toArray hc hlt
    exact ⟨found, c', steps, hrun, hsafe.inBounds, hmoved, hc'⟩

/-- A lone quote behind a line feed, from the beginning and from a place between the two. -/
theorem scanner_stays_within_open_string :
    (∃ p, Scanner.runOn .tokenize "\n\"" = .some (scan "\n\"", p) ∧
      p.StaysWithin "\n\"".toList.length) ∧
    Cursor.IsValid 2 ⟨0, 1, 2⟩ ∧
    ∃ found c' steps, Scanner.Records "\n\"".toList.toArray .scanToken ⟨0, 1, 2⟩ steps found c' ∧
      (∀ s ∈ steps, s.InBounds 2) ∧ 1 < c'.current ∧ c'.IsValid 2 := by
  have hvalid : Cursor.IsValid 2 ⟨0, 1, 2⟩ := by constructor <;> decide
  exact ⟨(scanner_stays_within_text "\n\"").1, hvalid,
    (scanner_stays_within_text "\n\"").2.2 ⟨0, 1, 2⟩ hvalid (by decide)⟩

end LoxScan

import LoxScan.Cursor
import LoxScan.Segment.Grammar

/-! # What a scanner does on its way

A scanner **yields** a value on its way from one cursor to another if it comes to an end there,
and everything that it does on its way is safe (`Scanner.Yields`): the places are valid, what is
taken or cut out is in the text, and tokens are asked for no more often than characters are taken.
Scanners that yield something one after the other do so together (`Scanner.Yields.bind`), and
likewise the rounds of a loop (`Scanner.yields_loop_next`, `Scanner.yields_loop_stop`).

What comes next in the text is stated apart from the cursor (`Cursor.StandsBefore`), and where a
piece of it leads is plain (`Cursor.past`).  So a loop that takes a run of characters leaves the
cursor behind the run, by induction on the run (`Scanner.yields_whileDo`).  What carries the
induction is that the line is at most the number of characters read: behind the first character of
a segment that leaves room for one line feed, which may be counted before it is taken
(`Cursor.IsInside`). -/

namespace LoxScan

open Text

variable {source : Array Char} {c c' c'' : Cursor}

/-! ### Places of the cursor -/

namespace Cursor

/-- A place that a cursor may be at. -/
structure IsValid (size : Nat) (c : Cursor) : Prop where
  start_le : c.start ≤ c.current
  current_le : c.current ≤ size
  one_le_line : 1 ≤ c.line
  line_le : c.line ≤ 1 + c.current

/-- A place behind the first character of a segment, of which all line feeds have been counted
except perhaps the last one. -/
structure IsInside (size : Nat) (c : Cursor) : Prop where
  start_lt : c.start < c.current
  current_le : c.current ≤ size
  one_le_line : 1 ≤ c.line
  line_le : c.line ≤ c.current

theorem isValid_initial (size : Nat) : initial.IsValid size :=
  ⟨Nat.le_refl _, Nat.zero_le _, Nat.le_refl _, Nat.le_refl _⟩

theorem IsInside.isValid {size : Nat} (h : c.IsInside size) : c.IsValid size where
  start_le := Nat.le_of_lt h.start_lt
  current_le := h.current_le
  one_le_line := h.one_le_line
  line_le := Nat.le_trans h.line_le (Nat.le_add_left _ 1)

/-- The place behind the next character, which is not counted if it is a line feed. -/
def next (c : Cursor) : Cursor := ⟨c.start, c.current + 1, c.line⟩

/-- The place behind a piece of text. -/
def past (c : Cursor) (text : List Char) : Cursor :=
  ⟨c.start, c.current + text.length, c.line + text.count '\n'⟩

/-- The place where another segment begins. -/
def begun (c : Cursor) : Cursor := ⟨c.current, c.current, c.line⟩

/-- This is the text from the cursor on. -/
def StandsBefore (source : Array Char) (c : Cursor) (rest : List Char) : Prop :=
  source.toList.drop c.current = rest

variable {ch : Char} {text rest more : List Char}

theorem past_append (c : Cursor) (text more : List Char) :
    (c.past text).past more = c.past (text ++ more) := by
  simp [past, Nat.add_assoc]

theorem next_eq_past (h : ch ≠ '\n') : c.next = c.past [ch] := by
  simp [next, past, h]

theorem next_past (h : ch ≠ '\n') (c : Cursor) (text : List Char) :
    c.next.past text = c.past (ch :: text) := by
  rw [next_eq_past h, past_append]
  rfl

theorem next_next {mark : Char} (h : ch ≠ '\n') (h' : mark ≠ '\n') (c : Cursor) :
    c.next.next = c.past [ch, mark] := by
  rw [next_eq_past h', next_past h]

theorem StandsBefore.getElem? (h : c.StandsBefore source rest) (i : Nat) :
    source[c.current + i]? = rest[i]? := by
  rw [← h, List.getElem?_drop, Array.getElem?_toList]

theorem StandsBefore.size_le_iff (h : c.StandsBefore source rest) :
    source.size ≤ c.current ↔ rest = [] := by
  rw [← h, List.drop_eq_nil_iff, Array.length_toList]

theorem StandsBefore.lt_size (h : c.StandsBefore source (ch :: rest)) :
    c.current < source.size := by
  have hle := h.size_le_iff
  simp at hle
  exact hle

theorem StandsBefore.past (h : c.StandsBefore source (text ++ rest)) :
    (c.past text).StandsBefore source rest := by
  rw [StandsBefore] at h ⊢
  rw [Cursor.past, ← List.drop_drop, h, List.drop_left]

theorem StandsBefore.next (h : c.StandsBefore source (ch :: rest)) :
    c.next.StandsBefore source rest := by
  rw [StandsBefore] at h ⊢
  rw [Cursor.next, ← List.drop_drop, h]
  rfl

theorem StandsBefore.current_add_le (h : c.StandsBefore source (text ++ rest))
    (hc : c.current ≤ source.size) : c.current + text.length ≤ source.size := by
  have hlength := congrArg List.length h
  rw [List.length_drop, List.length_append, Array.length_toList] at hlength
  omega

theorem IsValid.begun {size : Nat} (h : c.IsValid size) : c.begun.IsValid size :=
  ⟨Nat.le_refl _, h.current_le, h.one_le_line, h.line_le⟩

theorem IsValid.next (h : c.IsValid source.size) (hlt : c.current < source.size) :
    c.next.IsInside source.size where
  start_lt := Nat.lt_succ_of_le h.start_le
  current_le := hlt
  one_le_line := h.one_le_line
  line_le := (Nat.add_comm 1 c.current).subst h.line_le

/-- A piece of text has at most as many line feeds as characters. -/
theorem IsValid.past (h : c.IsValid source.size) (hrest : c.StandsBefore source (text ++ rest)) :
    (c.past text).IsValid source.size where
  start_le := Nat.le_add_right_of_le h.start_le
  current_le := hrest.current_add_le h.current_le
  one_le_line := Nat.le_add_right_of_le h.one_le_line
  line_le := by
    have hcount := List.count_le_length (a := '\n') (l := text)
    have hline := h.line_le
    simp only [Cursor.past]
    omega

/-- A line feed may be counted before it is taken. -/
theorem IsInside.countLine {size : Nat} (h : c.IsInside size) :
    IsValid size ⟨c.start, c.current, c.line + 1⟩ where
  start_le := Nat.le_of_lt h.start_lt
  current_le := h.current_le
  one_le_line := Nat.le_add_left 1 _
  line_le := (Nat.add_comm c.current 1).subst (Nat.succ_le_succ h.line_le)

theorem IsInside.past (h : c.IsInside source.size) (hrest : c.StandsBefore source (text ++ rest)) :
    (c.past text).IsInside source.size where
  start_lt := Nat.lt_add_right _ h.start_lt
  current_le := hrest.current_add_le h.current_le
  one_le_line := Nat.le_add_right_of_le h.one_le_line
  line_le := Nat.add_le_add h.line_le List.count_le_length

end Cursor

/-! ### What is recorded -/

namespace Step

/-- The step is one that the text and the cursor allow. -/
def InBounds (size : Nat) : Step → Prop
  | moved c => c.IsValid size
  | scanToken c => c.IsValid size ∧ c.current < size
  | advance c => c.current < size
  | lexeme c => c.start < c.current ∧ c.current ≤ size
  | stringValue c => c.start + 1 ≤ c.current - 1 ∧ c.current - 1 ≤ size

def isScanToken : Step → Bool
  | scanToken _ => true
  | _ => false

end Step

/-- What may be recorded on the way from one cursor to another: nothing out of bounds, and no
more requests for a token than characters are taken. -/
structure IsSafe (size : Nat) (steps : List Step) (c c' : Cursor) : Prop where
  inBounds : ∀ s ∈ steps, s.InBounds size
  countP_le : steps.countP Step.isScanToken + c.current ≤ c'.current

theorem IsSafe.append {size : Nat} {steps steps' : List Step} (h : IsSafe size steps c c')
    (h' : IsSafe size steps' c' c'') : IsSafe size (steps ++ steps') c c'' where
  inBounds := List.forall_mem_append.mpr ⟨h.inBounds, h'.inBounds⟩
  countP_le := by
    have hcount := h.countP_le
    have hcount' := h'.countP_le
    rw [List.countP_append]
    omega

namespace Scanner

variable {α β : Type} {a : α} {b : β}

/-- From the first cursor the scanner goes to the second one and gives the value, and these are
the steps that it records. -/
def Records (source : Array Char) (m : Scanner α) (c : Cursor) (steps : List Step) (a : α)
    (c' : Cursor) : Prop :=
  ∀ before, m source ⟨c, before⟩ = .some (a, ⟨c', before ++ steps⟩)

/-- From the first cursor the scanner goes to the second one and gives the value, and all that it
does on its way is safe. -/
def Yields (source : Array Char) (m : Scanner α) (c : Cursor) (a : α) (c' : Cursor) : Prop :=
  ∃ steps, IsSafe source.size steps c c' ∧ Records source m c steps a c'

theorem Records.bind {m : Scanner α} {f : α → Scanner β} {steps steps' : List Step}
    (h : Records source m c steps a c') (h' : Records source (f a) c' steps' b c'') :
    Records source (m >>= f) c (steps ++ steps') b c'' := by
  intro before
  have hbind : (m >>= f) source ⟨c, before⟩ =
      (m source ⟨c, before⟩).bind fun r => f r.1 source r.2 := rfl
  rw [hbind, h, Part.bind_some, h', List.append_assoc]

theorem Yields.bind {m : Scanner α} {f : α → Scanner β} (h : Yields source m c a c')
    (h' : Yields source (f a) c' b c'') : Yields source (m >>= f) c b c'' := by
  obtain ⟨steps, hsafe, hm⟩ := h
  obtain ⟨steps', hsafe', hf⟩ := h'
  exact ⟨steps ++ steps', hsafe.append hsafe', hm.bind hf⟩

/-- What records nothing is safe. -/
theorem Records.yields {m : Scanner α} (h : Records source m c [] a c) : Yields source m c a c :=
  ⟨[], ⟨List.forall_mem_nil _, Nat.le_of_eq (Nat.zero_add _)⟩, h⟩

/-! ### Single actions -/

theorem records_of_eq {m : Scanner α} (h : ∀ p, p.cursor = c → m source p = .some (a, p)) :
    Records source m c [] a c := fun before => by
  rw [h _ rfl, List.append_nil]

theorem records_pure (source : Array Char) (c : Cursor) (a : α) :
    Records source (pure a) c [] a c :=
  records_of_eq fun _ _ => rfl

theorem records_cursor (source : Array Char) (c : Cursor) : Records source cursor c [] c c :=
  records_of_eq fun _ hp => by rw [cursor, hp]

theorem records_charAt {i : Nat} {ch : Char} (h : source[i]? = some ch) (c : Cursor) :
    Records source (charAt i) c [] ch c :=
  records_of_eq fun _ _ => by rw [charAt, h]

theorem records_record (source : Array Char) (c : Cursor) (s : Step) :
    Records source (record s) c [s] () c := fun _ => rfl

theorem records_moveTo (source : Array Char) (c c' : Cursor) :
    Records source (moveTo c') c [.moved c'] () c' := fun _ => rfl

theorem yields_pure (source : Array Char) (c : Cursor) (a : α) : Yields source (pure a) c a c :=
  (records_pure source c a).yields

theorem yields_read (source : Array Char) (c : Cursor) : Yields source read c source c :=
  (records_of_eq fun _ _ => rfl).yields

theorem yields_cursor (source : Array Char) (c : Cursor) : Yields source cursor c c c :=
  (records_cursor source c).yields

theorem yields_record {s : Step} (h : s.InBounds source.size) (hs : s.isScanToken = false) :
    Yields source (record s) c () c :=
  ⟨[s], ⟨List.forall_mem_singleton.mpr h, by simp [hs]⟩, records_record source c s⟩

theorem yields_moveTo (h : c'.IsValid source.size) (hle : c.current ≤ c'.current) :
    Yields source (moveTo c') c () c' :=
  ⟨[.moved c'], ⟨List.forall_mem_singleton.mpr h, by simpa [Step.isScanToken] using hle⟩,
    records_moveTo source c c'⟩

theorem yields_slice {first last : Nat} (h : first ≤ last) (h' : last ≤ source.size) :
    Yields source (slice first last) c (source.extract first last).toList c :=
  (records_of_eq fun _ _ => if_pos ⟨h, h'⟩).yields

variable {ch : Char} {text rest : List Char}

theorem yields_isAtEnd (h : c.StandsBefore source rest) :
    Yields source isAtEnd c rest.isEmpty c := by
  have hend : rest.isEmpty = decide (source.size ≤ c.current) := by
    simp only [h.size_le_iff]
    cases rest <;> simp
  rw [hend]
  exact (yields_read source c).bind ((yields_cursor source c).bind (yields_pure source c _))

theorem yields_peek (h : c.StandsBefore source rest) :
    Yields source peek c (rest[0]?.getD '\x00') c := by
  rw [← h.getElem? 0]
  exact (yields_read source c).bind ((yields_cursor source c).bind (yields_pure source c _))

theorem yields_peekNext (h : c.StandsBefore source rest) :
    Yields source peekNext c (rest[1]?.getD '\x00') c := by
  rw [← h.getElem? 1]
  exact (yields_read source c).bind ((yields_cursor source c).bind (yields_pure source c _))

theorem records_advance (h : c.StandsBefore source (ch :: rest)) :
    Records source advance c [.advance c, .moved c.next] ch c.next :=
  (records_cursor source c).bind ((records_record source c _).bind
    ((records_charAt (h.getElem? 0) c).bind ((records_moveTo source c c.next).bind
      (records_pure source c.next ch))))

theorem yields_advance (h : c.StandsBefore source (ch :: rest)) (hc : c.IsValid source.size) :
    Yields source advance c ch c.next := by
  refine ⟨_, ⟨?_, (Nat.zero_add c.current).symm ▸ Nat.le_succ c.current⟩, records_advance h⟩
  simp only [List.forall_mem_cons]
  exact ⟨h.lt_size, (hc.next h.lt_size).isValid, List.forall_mem_nil _⟩

theorem yields_matchChar_true (h : c.StandsBefore source (ch :: rest))
    (hc : c.IsValid source.size) : Yields source (matchChar ch) c true c.next := by
  refine (yields_isAtEnd h).bind ((yields_cursor source c).bind ?_)
  refine (records_charAt (h.getElem? 0) c).yields.bind ?_
  rw [if_neg (by simp)]
  exact (yields_moveTo (hc.next h.lt_size).isValid (Nat.le_succ _)).bind (yields_pure source _ true)

theorem yields_matchChar_false {expected : Char} (h : c.StandsBefore source rest)
    (hne : rest.head? ≠ some expected) : Yields source (matchChar expected) c false c := by
  refine (yields_isAtEnd h).bind ?_
  cases rest with
  | nil => exact yields_pure source c false
  | cons ch rest =>
      refine (yields_cursor source c).bind ((records_charAt (h.getElem? 0) c).yields.bind ?_)
      rw [if_pos (fun heq => hne (congrArg some heq))]
      exact yields_pure source c false

theorem yields_countLine (hc : c.IsInside source.size) :
    Yields source countLine c () ⟨c.start, c.current, c.line + 1⟩ :=
  (yields_cursor source c).bind (yields_moveTo hc.countLine (Nat.le_refl _))

theorem yields_skipChar (h : c.StandsBefore source (ch :: rest)) (hc : c.IsValid source.size) :
    Yields source skipChar c () c.next :=
  (yields_advance h hc).bind (yields_pure source _ ())

/-- A character that is no line feed needs no counting. -/
theorem yields_skipChar_of_ne (hne : ch ≠ '\n') (h : c.StandsBefore source (ch :: rest))
    (hc : c.IsInside source.size) : Yields source skipChar c () (c.past [ch]) := by
  rw [← Cursor.next_eq_past hne]
  exact yields_skipChar h hc.isValid

/-- Inside a segment any character may be taken, as long as line feeds are counted. -/
theorem yields_skipCharCountingLines (h : c.StandsBefore source (ch :: rest))
    (hc : c.IsInside source.size) : Yields source skipCharCountingLines c () (c.past [ch]) := by
  have hpeek : Yields source peek c ch c := yields_peek h
  refine hpeek.bind ?_
  by_cases hch : ch = '\n'
  · subst hch
    have hskip : Yields source skipChar ⟨c.start, c.current, c.line + 1⟩ () (c.past ['\n']) :=
      yields_skipChar h hc.countLine
    rw [if_pos rfl]
    exact (yields_countLine hc).bind hskip
  · rw [if_neg hch]
    exact yields_skipChar_of_ne hch h hc

/-! ### Loops -/

section Loops

variable {body : α → Scanner (β ⊕ α)}

theorem yields_loop_stop (h : Yields source (body a) c (.inl b) c') :
    Yields source (loop body a) c b c' := by
  obtain ⟨steps, hsafe, hbody⟩ := h
  refine ⟨steps, hsafe, fun before => Part.eq_some_iff.mpr (PFun.fix_stop ?_)⟩
  rw [hbody, Part.map_some]
  exact Part.mem_some _

theorem yields_loop_next {a' : α} (h : Yields source (body a) c (.inr a') c')
    (h' : Yields source (loop body a') c' b c'') : Yields source (loop body a) c b c'' := by
  obtain ⟨steps, hsafe, hbody⟩ := h
  obtain ⟨steps', hsafe', hloop⟩ := h'
  refine ⟨steps ++ steps', hsafe.append hsafe', fun before => ?_⟩
  have hnext := hloop (before ++ steps)
  rw [List.append_assoc] at hnext
  rw [← hnext]
  refine PFun.fix_fwd_eq ?_
  rw [hbody, Part.map_some]
  exact Part.mem_some _

variable {condition : Scanner Bool} {step : Scanner Unit} {p : Char → Bool} {run : List Char}

theorem any_head?_of_beginsWithout (h : Segment.BeginsWithout p rest) :
    rest.head?.any p = false := by
  cases rest with
  | nil => rfl
  | cons ch rest => exact h ch rfl

/-- **A loop takes a run of characters:** if one more character of the class is taken as long as
one comes next, then from inside a segment the longest run is taken. -/
theorem yields_whileDo
    (hcondition : ∀ {d : Cursor} {left}, d.StandsBefore source left →
      Yields source condition d (left.head?.any p) d)
    (hstep : ∀ {d : Cursor} {ch left}, p ch = true → d.StandsBefore source (ch :: left) →
      d.IsInside source.size → Yields source step d () (d.past [ch]))
    (h : c.StandsBefore source (run ++ rest)) (hc : c.IsInside source.size)
    (inside : ∀ ch ∈ run, p ch = true) (outside : Segment.BeginsWithout p rest) :
    Yields source (whileDo condition step) c () (c.past run) := by
  induction run generalizing c with
  | nil =>
      have hstop : Yields source condition c false c := by
        have hat := hcondition h
        rwa [List.nil_append, any_head?_of_beginsWithout outside] at hat
      exact yields_loop_stop (hstop.bind (yields_pure source c _))
  | cons ch run ih =>
      obtain ⟨hch, hrun⟩ := List.forall_mem_cons.mp inside
      have hgo : Yields source condition c true c := by
        have hat := hcondition h
        rwa [List.cons_append, List.head?_cons, Option.any_some, hch] at hat
      have hnext : (c.past [ch]).StandsBefore source (run ++ rest) := Cursor.StandsBefore.past h
      have hlater := ih hnext (hc.past h) hrun
      rw [Cursor.past_append] at hlater
      exact yields_loop_next (hgo.bind ((hstep hch h hc).bind (yields_pure source _ _))) hlater

end Loops

/-- A class without the character that stands for the end never goes on behind it. -/
theorem yields_peek_class {p : Char → Bool} (hp : p '\x00' = false)
    (h : c.StandsBefore source rest) :
    Yields source (do return p (← peek)) c (rest.head?.any p) c := by
  refine (yields_peek h).bind ?_
  cases rest with
  | nil =>
      rw [List.getElem?_nil, Option.getD_none, hp]
      exact yields_pure source c false
  | cons ch rest => exact yields_pure source c (p ch)

theorem yields_peek_class_and_not_isAtEnd (p : Char → Bool) (h : c.StandsBefore source rest) :
    Yields source (do return p (← peek) && !(← isAtEnd)) c (rest.head?.any p) c := by
  refine (yields_peek h).bind ((yields_isAtEnd h).bind ?_)
  cases rest with
  | nil =>
      rw [List.isEmpty_nil, Bool.not_true, Bool.and_false]
      exact yields_pure source c false
  | cons ch rest =>
      rw [List.isEmpty_cons, Bool.not_false, Bool.and_true]
      exact yields_pure source c (p ch)

variable {run : List Char}

theorem ne_newline_of_class {p : Char → Bool} (hp : p '\n' = false) (hch : p ch = true) :
    ch ≠ '\n' := by
  rintro rfl
  rw [hp] at hch
  cases hch

theorem yields_skipDigits (h : c.StandsBefore source (run ++ rest)) (hc : c.IsInside source.size)
    (inside : ∀ ch ∈ run, ch.isDigit = true) (outside : Segment.BeginsWithout Char.isDigit rest) :
    Yields source skipDigits c () (c.past run) :=
  yields_whileDo (yields_peek_class rfl)
    (fun hch => yields_skipChar_of_ne (ne_newline_of_class rfl hch)) h hc inside outside

theorem yields_skipWordParts (h : c.StandsBefore source (run ++ rest))
    (hc : c.IsInside source.size) (inside : ∀ ch ∈ run, isWordPart ch = true)
    (outside : Segment.BeginsWithout isWordPart rest) :
    Yields source skipWordParts c () (c.past run) := by
  have hend : isWordPart '\x00' = false := by decide +kernel
  have hnewline : isWordPart '\n' = false := isWordPart_of_isBlank rfl
  exact yields_whileDo (yields_peek_class hend)
    (fun hch => yields_skipChar_of_ne (ne_newline_of_class hnewline hch)) h hc inside outside

theorem yields_skipToLineEnd (h : c.StandsBefore source (run ++ rest))
    (hc : c.IsInside source.size) (inside : '\n' ∉ run)
    (outside : Segment.BeginsWithout (· ≠ '\n') rest) :
    Yields source skipToLineEnd c () (c.past run) :=
  yields_whileDo (yields_peek_class_and_not_isAtEnd fun ch => ch ≠ '\n')
    (fun hch => yields_skipChar_of_ne (of_decide_eq_true hch)) h hc
    (Segment.decide_ne_of_not_mem inside) outside

theorem yields_skipToQuote (h : c.StandsBefore source (run ++ rest))
    (hc : c.IsInside source.size) (inside : '"' ∉ run)
    (outside : Segment.BeginsWithout (· ≠ '"') rest) :
    Yields source skipToQuote c () (c.past run) :=
  yields_whileDo (yields_peek_class_and_not_isAtEnd fun ch => ch ≠ '"')
    (fun _ => yields_skipCharCountingLines) h hc (Segment.decide_ne_of_not_mem inside) outside

/-! ### Block comments -/

/-- Where the closing mark does not stand, a comment goes on for one more character. -/
theorem yields_skipBlockComment_cons {found : Except ScanError Unit}
    (h : c.StandsBefore source (ch :: rest)) (hc : c.IsInside source.size)
    (hno : ¬ (ch = '*' ∧ rest.head? = some '/'))
    (hlater : Yields source skipBlockComment (c.past [ch]) found c') :
    Yields source skipBlockComment c found c' := by
  have hpeek : Yields source peek c ch c := yields_peek h
  have hpeekNext : Yields source peekNext c (rest.head?.getD '\x00') c := by
    rw [List.head?_eq_getElem?]
    exact yields_peekNext h
  have hmark : ¬ (decide (ch = '*') && decide (rest.head?.getD '\x00' = '/')) = true := by
    rw [Bool.and_eq_true, decide_eq_true_eq, decide_eq_true_eq]
    rintro ⟨hstar, hslash⟩
    refine hno ⟨hstar, ?_⟩
    cases rest with
    | nil => cases hslash
    | cons d rest => exact congrArg some hslash
  refine yields_loop_next ((yields_isAtEnd h).bind (hpeek.bind (hpeekNext.bind ?_))) hlater
  rw [if_neg hmark]
  exact (yields_skipCharCountingLines h hc).bind (yields_pure source _ _)

/-- A comment without its closing mark goes on to the end. -/
theorem yields_skipBlockComment_open (h : c.StandsBefore source run) (hc : c.IsInside source.size)
    (hrun : ¬ Segment.commentEnd <:+: run) :
    Yields source skipBlockComment c (.error ⟨(c.past run).line, .unterminatedBlockComment⟩)
      (c.past run) := by
  induction run generalizing c with
  | nil =>
      exact yields_loop_stop ((yields_isAtEnd h).bind ((yields_cursor source c).bind
        (yields_pure source c _)))
  | cons ch run ih =>
      rw [Segment.commentEnd_infix_cons, not_or] at hrun
      have hnext : (c.past [ch]).StandsBefore source run := Cursor.StandsBefore.past h
      have hlater := ih hnext (hc.past h) hrun.2
      rw [Cursor.past_append] at hlater
      exact yields_skipBlockComment_cons h hc hrun.1 hlater

/-- A comment with its closing mark ends behind the mark. -/
theorem yields_skipBlockComment_closed
    (h : c.StandsBefore source (run ++ (Segment.commentEnd ++ rest))) (hc : c.IsInside source.size)
    (hrun : ¬ Segment.commentEnd <:+: run) :
    Yields source skipBlockComment c (.ok ()) (c.past (run ++ Segment.commentEnd)) := by
  induction run generalizing c with
  | nil =>
      have hnext : (c.past ['*']).StandsBefore source ('/' :: rest) := Cursor.StandsBefore.past h
      have hstar : Yields source skipChar c () (c.past ['*']) :=
        yields_skipChar_of_ne (by decide) h hc
      have hslash : Yields source skipChar (c.past ['*']) () (c.past Segment.commentEnd) := by
        have hskip := yields_skipChar_of_ne (by decide) hnext (hc.past h)
        rwa [Cursor.past_append] at hskip
      refine yields_loop_stop ((yields_isAtEnd h).bind ((yields_peek h).bind
        ((yields_peekNext h).bind ?_)))
      exact hstar.bind (hslash.bind (yields_pure source _ _))
  | cons ch run ih =>
      rw [Segment.commentEnd_infix_cons, not_or] at hrun
      have hnext : (c.past [ch]).StandsBefore source (run ++ (Segment.commentEnd ++ rest)) :=
        Cursor.StandsBefore.past h
      have hlater := ih hnext (hc.past h) hrun.2
      rw [Cursor.past_append] at hlater
      refine yields_skipBlockComment_cons h hc (fun hmark => hrun.1 ⟨hmark.1, ?_⟩) hlater
      cases run with
      | nil => cases hmark.2
      | cons d run => exact hmark.2

end Scanner
end LoxScan

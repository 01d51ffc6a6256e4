import LoxScan.Proofs.CursorStep
import LoxScan.Segment.Characters

/-! # A scanner at a segment

A call of `scanToken` takes the first character and goes on as that one demands, so each kind of
segment has a lemma of its own here, from the scanner that reads it to the value that it gives.
They come together in `Scanner.yieldsSegment`: in front of any segment, as the grammar has it, the
cursor comes to stand behind it, and the value follows from the segment and from what has been cut
out (`Segment.outcome`).

The start of the segment may lie anywhere before the cursor.  What is cut out depends on it, but
the way through the text does not. -/

namespace LoxScan

open Text Segment

variable {source : Array Char} {c c' c'' : Cursor} {ch : Char} {run rest : List Char}

namespace Scanner

/-! ### Segments -/

/-- The text that is cut out as the lexeme. -/
def lexemeAt (source : Array Char) (c : Cursor) : List Char :=
  (source.extract c.start c.current).toList

/-- The text that is cut out as the value of a string. -/
def valueAt (source : Array Char) (c : Cursor) : List Char :=
  (source.extract (c.start + 1) (c.current - 1)).toList

theorem yields_lexeme (hc : c.IsInside source.size) :
    Yields source lexeme c (lexemeAt source c) c := by
  have hstep : (Step.lexeme c).InBounds source.size := ⟨hc.start_lt, hc.current_le⟩
  refine (yields_cursor source c).bind ((yields_record hstep rfl).bind ?_)
  exact yields_slice (Nat.le_of_lt hc.start_lt) hc.current_le

theorem yields_operatorToken (hc : c.IsInside source.size) (o : Operator) :
    Yields source (operatorToken o) c
      (.ok (some ⟨.operator o, .ofList (lexemeAt source c), none, c.line⟩)) c :=
  (yields_lexeme hc).bind ((yields_cursor source c).bind (yields_pure source c _))

theorem yields_scanString_open (h : c.StandsBefore source run) (hc : c.IsInside source.size)
    (inside : '"' ∉ run) :
    Yields source scanString c (.error ⟨(c.past run).line, .unterminatedString⟩) (c.past run) := by
  have hrun : c.StandsBefore source (run ++ []) := by rwa [List.append_nil]
  have hskip := yields_skipToQuote hrun hc inside (by intro ch hch; cases hch)
  exact (yields_cursor source c).bind (hskip.bind ((yields_isAtEnd hrun.past).bind
    ((yields_cursor source _).bind (yields_pure source _ _))))

theorem yields_scanString_closed (h : c.StandsBefore source (run ++ '"' :: rest))
    (hc : c.IsInside source.size) (inside : '"' ∉ run) :
    Yields source scanString c
      (.ok ⟨.string, .ofList (lexemeAt source (c.past (run ++ ['"']))),
        some (.string (.ofList (valueAt source (c.past (run ++ ['"']))))), c.line⟩)
      (c.past (run ++ ['"'])) := by
  have houtside : BeginsWithout (· ≠ '"') ('"' :: rest) := by
    intro ch hch
    cases hch
    rfl
  have hskip := yields_skipToQuote h hc inside houtside
  have hquote : Yields source skipChar (c.past run) () (c.past (run ++ ['"'])) := by
    rw [← Cursor.past_append]
    exact yields_skipChar_of_ne (by decide) h.past (hc.past h)
  have hboth : c.StandsBefore source (run ++ ['"'] ++ rest) := by rwa [List.append_assoc]
  have hbehind := hc.past hboth
  -- The cursor is behind both quotes, so one may be left out at each end.
  have hstep : (Step.stringValue (c.past (run ++ ['"']))).InBounds source.size := by
    have hstart := hc.start_lt
    have hle := hbehind.current_le
    simp only [Step.InBounds, Cursor.past, List.length_append, List.length_singleton] at hle ⊢
    omega
  refine (yields_cursor source c).bind (hskip.bind ((yields_isAtEnd h.past).bind ?_))
  refine hquote.bind ((yields_cursor source _).bind ((yields_record hstep rfl).bind ?_))
  refine (yields_slice hstep.1 hstep.2).bind ((yields_lexeme hbehind).bind ?_)
  exact yields_pure source _ _

/-- Without a point and a digit behind it, no fraction is read. -/
theorem yields_skipFraction_none (h : c.StandsBefore source rest)
    (hno : ∀ d more, rest = '.' :: d :: more → d.isDigit = false) :
    Yields source skipFraction c () c := by
  have hmark :
      ¬ (decide (rest[0]?.getD '\x00' = '.') && (rest[1]?.getD '\x00').isDigit) = true := by
    rw [Bool.and_eq_true, decide_eq_true_eq]
    rintro ⟨hpoint, hdigit⟩
    match rest, hpoint, hdigit with
    | [], hpoint, _ => cases hpoint
    | [ch], _, hdigit => cases hdigit
    | ch :: d :: more, hpoint, hdigit =>
        obtain rfl : ch = '.' := hpoint
        have hd := hno d more rfl
        rw [show ('.' :: d :: more)[1]?.getD '\x00' = d from rfl, hd] at hdigit
        cases hdigit
  refine (yields_peek h).bind ((yields_peekNext h).bind ?_)
  rw [if_neg hmark]
  exact yields_pure source c ()

theorem yields_skipFraction (h : c.StandsBefore source ('.' :: run ++ rest))
    (hc : c.IsInside source.size) (hne : run ≠ []) (inside : ∀ ch ∈ run, ch.isDigit = true)
    (outside : BeginsWithout Char.isDigit rest) :
    Yields source skipFraction c () (c.past ('.' :: run)) := by
  obtain ⟨d, digits, rfl⟩ := List.exists_cons_of_ne_nil hne
  have hpoint : Yields source skipChar c () (c.past ['.']) :=
    yields_skipChar_of_ne (by decide) h hc
  have hfront : c.StandsBefore source (['.'] ++ (d :: digits ++ rest)) := h
  have hdigits := yields_skipDigits hfront.past (hc.past hfront) inside outside
  rw [Cursor.past_append] at hdigits
  have hpeek : Yields source peek c '.' c := yields_peek h
  have hpeekNext : Yields source peekNext c d c := yields_peekNext h
  refine hpeek.bind (hpeekNext.bind ?_)
  rw [inside d List.mem_cons_self]
  exact hpoint.bind hdigits

theorem yields_scanNumber (hwhole : Yields source skipDigits c () c')
    (hfraction : Yields source skipFraction c' () c'') (hc : c''.IsInside source.size) :
    Yields source scanNumber c (numberToken (.ofList (lexemeAt source c'')) c''.line) c'' :=
  hwhole.bind (hfraction.bind ((yields_lexeme hc).bind
    ((yields_cursor source c'').bind (yields_pure source c'' _))))

theorem yields_scanWord (h : c.StandsBefore source (run ++ rest)) (hc : c.IsInside source.size)
    (inside : ∀ ch ∈ run, isWordPart ch = true) (outside : BeginsWithout isWordPart rest) :
    Yields source scanWord c
      (wordToken (lexemeAt source (c.past run)) (c.past run).line) (c.past run) :=
  (yields_skipWordParts h hc inside outside).bind ((yields_lexeme (hc.past h)).bind
    ((yields_cursor source _).bind (yields_pure source _ _)))

/-- A character that begins no operator, blank or string is looked up in the classes. -/
theorem scanBehind_eq (hblank : isBlank ch = false) (hquote : ch ≠ '"')
    (hoperator : ∀ o : Operator, o.spelling ≠ [ch]) :
    scanBehind ch = (do
      if ch.isDigit then
        return .ok (some (← scanNumber))
      if isWordStart ch then
        return .ok (some (← scanWord))
      return .error ⟨(← cursor).line, .unexpectedCharacter ch⟩) := by
  have hsingles : ∀ o ∈ Operator.singles, o.spelling ≠ [ch] := fun o _ => hoperator o
  simp [Operator.singles, Operator.spelling] at hsingles
  unfold scanBehind
  split <;> simp_all [isBlank]

/-- A token is asked for, and the first character is taken. -/
theorem yields_scanToken_of {found : Except ScanError (Option Token)}
    (h : c.StandsBefore source (ch :: rest)) (hc : c.IsValid source.size)
    (hbehind : Yields source (scanBehind ch) c.next found c') :
    Yields source scanToken c found c' := by
  obtain ⟨steps, hsafe, hrun⟩ := hbehind
  have hfirst : IsSafe source.size [.scanToken c, .advance c, .moved c.next] c c.next := by
    refine ⟨?_, Nat.le_of_eq (Nat.add_comm 1 c.current)⟩
    simp only [List.forall_mem_cons]
    exact ⟨⟨hc, h.lt_size⟩, h.lt_size, (hc.next h.lt_size).isValid, List.forall_mem_nil _⟩
  exact ⟨_, hfirst.append hsafe, (records_cursor source c).bind
    ((records_record source c _).bind ((records_advance h).bind hrun))⟩

end Scanner

/-- What reading a segment leads to: the error, the token or nothing, where `text` and `value`
have been cut out. -/
def Segment.outcome (text value : List Char) (line : Nat) (s : Segment) :
    Except ScanError (Option Token) :=
  match s with
  | blank _ | lineComment _ | blockComment _ => .ok none
  | string _ => .ok (some ⟨.string, .ofList text, some (.string (.ofList value)), line⟩)
  | number _ _ => .ok (some (Scanner.numberToken (.ofList text) line))
  | word _ => .ok (some (wordToken text line))
  | operator o => .ok (some ⟨.operator o, .ofList text, none, line⟩)
  | unexpected c => .error ⟨line, .unexpectedCharacter c⟩
  | openString _ => .error ⟨line + s.lineFeeds, .unterminatedString⟩
  | openComment _ => .error ⟨line + s.lineFeeds, .unterminatedBlockComment⟩

namespace Scanner

variable {s : Segment}

/-- What a call of `scanToken` comes to at a segment. -/
def YieldsSegment (source : Array Char) (c : Cursor) (s : Segment) : Prop :=
  Yields source scanToken c
    (s.outcome (lexemeAt source (c.past s.text)) (valueAt source (c.past s.text)) c.line)
    (c.past s.text)

theorem past_line_of_isPlain (hplain : s.isPlain = true) (hs : s.WellFormed) :
    (c.past s.text).line = c.line := by
  rw [Cursor.past, List.count_eq_zero.mpr (newline_not_mem_text hplain hs)]
  rfl

theorem yieldsSegment_blank {b : Char} (h : c.StandsBefore source (b :: rest))
    (hc : c.IsValid source.size) (hb : isBlank b = true) : YieldsSegment source c (blank b) := by
  refine yields_scanToken_of h hc ?_
  have hinside := hc.next h.lt_size
  rcases isBlank_iff.mp hb with rfl | rfl | rfl | rfl
  · exact yields_pure source _ _
  · exact yields_pure source _ _
  · exact yields_pure source _ _
  · exact (yields_countLine hinside).bind (yields_pure source _ _)

/-- An operator is read if its token is found behind its first character, since it goes over no
line end. -/
theorem yieldsSegment_of_operatorToken {o : Operator}
    (h : c.StandsBefore source (o.spelling ++ rest)) (hc : c.IsValid source.size)
    (hspelling : o.spelling = ch :: run)
    (hbehind : Yields source (scanBehind ch) c.next
      (.ok (some ⟨.operator o, .ofList (lexemeAt source (c.past o.spelling)), none,
        (c.past o.spelling).line⟩)) (c.past o.spelling)) :
    YieldsSegment source c (operator o) := by
  have hfirst : c.StandsBefore source (ch :: (run ++ rest)) := by
    rwa [hspelling] at h
  have hyields := yields_scanToken_of hfirst hc hbehind
  have hline : (c.past o.spelling).line = c.line :=
    past_line_of_isPlain (s := operator o) rfl trivial
  rwa [hline] at hyields

/-- An operator that is read at its first character. -/
theorem yieldsSegment_single {o : Operator} (h : c.StandsBefore source (o.spelling ++ rest))
    (hc : c.IsValid source.size) (hspelling : o.spelling = [ch]) (hch : ch ≠ '\n')
    (hbehind : scanBehind ch = operatorToken o) : YieldsSegment source c (operator o) := by
  refine yieldsSegment_of_operatorToken h hc hspelling ?_
  rw [hspelling] at h
  rw [hspelling, ← Cursor.next_eq_past hch, hbehind]
  exact yields_operatorToken (hc.next h.lt_size) o

/-- The longer one of two operators that begin alike. -/
theorem yieldsSegment_longer {next : Char} {longer shorter : Operator}
    (h : c.StandsBefore source (longer.spelling ++ rest)) (hc : c.IsValid source.size)
    (hspelling : longer.spelling = [ch, next]) (hch : ch ≠ '\n') (hnext : next ≠ '\n')
    (hbehind : scanBehind ch = (do operatorToken (← either next longer shorter))) :
    YieldsSegment source c (operator longer) := by
  refine yieldsSegment_of_operatorToken h hc hspelling ?_
  rw [hspelling] at h
  have hinside := hc.next h.lt_size
  have hsecond : c.next.StandsBefore source (next :: rest) := h.next
  have heither : Yields source (either next longer shorter) c.next longer c.next.next :=
    (yields_matchChar_true hsecond hinside.isValid).bind (yields_pure source _ longer)
  rw [hspelling, ← Cursor.next_next hch hnext, hbehind]
  exact heither.bind (yields_operatorToken (hinside.isValid.next hsecond.lt_size) longer)

/-- The shorter one of two operators that begin alike. -/
theorem yieldsSegment_shorter {next : Char} (longer : Operator) {shorter : Operator}
    (h : c.StandsBefore source (shorter.spelling ++ rest)) (hc : c.IsValid source.size)
    (hspelling : shorter.spelling = [ch]) (hch : ch ≠ '\n')
    (hlonger : longer.spelling = [ch, next]) (hends : EndsBefore (operator shorter) rest)
    (hbehind : scanBehind ch = (do operatorToken (← either next longer shorter))) :
    YieldsSegment source c (operator shorter) := by
  refine yieldsSegment_of_operatorToken h hc hspelling ?_
  have hne : rest.head? ≠ some next := by
    intro hhead
    obtain ⟨more, rfl⟩ := List.head?_eq_some_iff.mp hhead
    have hle := hends.1 longer (by simp [hlonger, hspelling])
    simp [hlonger, hspelling] at hle
  rw [hspelling] at h
  have hinside := hc.next h.lt_size
  have heither : Yields source (either next longer shorter) c.next shorter c.next :=
    (yields_matchChar_false h.next hne).bind (yields_pure source _ shorter)
  rw [hspelling, ← Cursor.next_eq_past hch, hbehind]
  exact heither.bind (yields_operatorToken hinside shorter)

theorem ne_slash_and_ne_star (hends : EndsBefore (operator .slash) rest) :
    rest.head? ≠ some '/' ∧ rest.head? ≠ some '*' := by
  constructor <;> intro hhead <;> exact absurd (hends.2 rfl _ hhead) (by decide)

theorem yieldsSegment_slash (h : c.StandsBefore source ('/' :: rest)) (hc : c.IsValid source.size)
    (hends : EndsBefore (operator .slash) rest) : YieldsSegment source c (operator .slash) := by
  obtain ⟨hslash, hstar⟩ := ne_slash_and_ne_star hends
  refine yieldsSegment_of_operatorToken (o := .slash) h hc rfl ?_
  refine (yields_matchChar_false h.next hslash).bind ((yields_matchChar_false h.next hstar).bind ?_)
  exact yields_operatorToken (hc.next h.lt_size) .slash

/-- Behind the two characters that open a comment. -/
theorem yields_matchChar_opening {mark : Char} (h : c.StandsBefore source ('/' :: mark :: rest))
    (hc : c.IsValid source.size) (hmark : mark ≠ '\n') :
    Yields source (matchChar mark) c.next true (c.past ['/', mark]) ∧
      (c.past ['/', mark]).IsInside source.size ∧
      (c.past ['/', mark]).StandsBefore source rest := by
  have hinside := hc.next h.lt_size
  rw [← Cursor.next_next (by decide) hmark]
  exact ⟨yields_matchChar_true h.next hinside.isValid,
    hinside.isValid.next h.next.lt_size, h.next.next⟩

theorem yieldsSegment_lineComment (h : c.StandsBefore source ('/' :: '/' :: (run ++ rest)))
    (hc : c.IsValid source.size) (hrun : '\n' ∉ run)
    (hends : BeginsWithout (· ≠ '\n') rest) : YieldsSegment source c (lineComment run) := by
  obtain ⟨hmatch, hinside, hbody⟩ := yields_matchChar_opening h hc (by decide)
  have hskip := yields_skipToLineEnd hbody hinside hrun hends
  rw [Cursor.past_append] at hskip
  exact yields_scanToken_of h hc (hmatch.bind (hskip.bind (yields_pure source _ _)))

/-- Behind the opening mark of a comment, the way through the comment decides. -/
theorem yields_scanToken_of_skipBlockComment {found : Except ScanError Unit}
    (h : c.StandsBefore source ('/' :: '*' :: rest)) (hc : c.IsValid source.size)
    (hskip : (c.past ['/', '*']).IsInside source.size →
      (c.past ['/', '*']).StandsBefore source rest →
        Yields source skipBlockComment (c.past ['/', '*']) found c') :
    Yields source scanToken c (found.map fun _ => none) c' := by
  obtain ⟨hmatch, hinside, hbody⟩ := yields_matchChar_opening h hc (by decide)
  exact yields_scanToken_of h hc ((yields_matchChar_false h.next (by simp)).bind
    (hmatch.bind ((hskip hinside hbody).bind (yields_pure source _ _))))

theorem yieldsSegment_blockComment
    (h : c.StandsBefore source ('/' :: '*' :: (run ++ (commentEnd ++ rest))))
    (hc : c.IsValid source.size) (hrun : ¬ commentEnd <:+: run) :
    YieldsSegment source c (blockComment run) := by
  have hcomment := yields_scanToken_of_skipBlockComment h hc fun hinside hbody =>
    yields_skipBlockComment_closed hbody hinside hrun
  rwa [Cursor.past_append] at hcomment

theorem yieldsSegment_openComment (h : c.StandsBefore source ('/' :: '*' :: run))
    (hc : c.IsValid source.size) (hrun : ¬ commentEnd <:+: run) :
    YieldsSegment source c (openComment run) := by
  have hcomment := yields_scanToken_of_skipBlockComment h hc fun hinside hbody =>
    yields_skipBlockComment_open hbody hinside hrun
  rwa [Cursor.past_append] at hcomment

theorem yieldsSegment_operator {o : Operator} (h : c.StandsBefore source (o.spelling ++ rest))
    (hc : c.IsValid source.size) (hends : EndsBefore (operator o) rest) :
    YieldsSegment source c (operator o) := by
  cases o with
  | slash => exact yieldsSegment_slash h hc hends
  | bang => exact yieldsSegment_shorter .bangEqual h hc rfl (by decide) rfl hends rfl
  | equal => exact yieldsSegment_shorter .equalEqual h hc rfl (by decide) rfl hends rfl
  | greater =>
      exact yieldsSegment_shorter .greaterEqual h hc rfl (by decide) rfl hends rfl
  | less => exact yieldsSegment_shorter .lessEqual h hc rfl (by decide) rfl hends rfl
  | bangEqual => exact yieldsSegment_longer h hc rfl (by decide) (by decide) rfl
  | equalEqual => exact yieldsSegment_longer h hc rfl (by decide) (by decide) rfl
  | greaterEqual => exact yieldsSegment_longer h hc rfl (by decide) (by decide) rfl
  | lessEqual => exact yieldsSegment_longer h hc rfl (by decide) (by decide) rfl
  | _ => exact yieldsSegment_single h hc rfl (by decide) rfl

theorem yieldsSegment_string (h : c.StandsBefore source ('"' :: (run ++ '"' :: rest)))
    (hc : c.IsValid source.size) (hrun : '"' ∉ run) : YieldsSegment source c (string run) := by
  have hstring := yields_scanString_closed h.next (hc.next h.lt_size) hrun
  rw [Cursor.next_past (show '"' ≠ '\n' by decide)] at hstring
  exact yields_scanToken_of h hc (hstring.bind (yields_pure source _ _))

theorem yieldsSegment_openString (h : c.StandsBefore source ('"' :: run))
    (hc : c.IsValid source.size) (hrun : '"' ∉ run) : YieldsSegment source c (openString run) := by
  have hstring := yields_scanString_open h.next (hc.next h.lt_size) hrun
  rw [Cursor.next_past (show '"' ≠ '\n' by decide)] at hstring
  exact yields_scanToken_of h hc (hstring.bind (yields_pure source _ _))

/-- Digits and word starts begin no operator. -/
theorem spelling_ne_singleton (h : ch.isDigit = true ∨ isWordStart ch = true) (o : Operator) :
    o.spelling ≠ [ch] := by
  intro hspelling
  have hfirst : o.spelling ++ [] = [ch] := by rw [hspelling, List.append_nil]
  obtain ⟨-, -, hdigit, hword, -⟩ := operator_first hfirst
  rw [hdigit, hword] at h
  rcases h with h | h <;> cases h

theorem yieldsSegment_word (h : c.StandsBefore source (ch :: (run ++ rest)))
    (hc : c.IsValid source.size) (hch : isWordStart ch = true)
    (hrun : ∀ d ∈ run, isWordPart d = true) (hends : BeginsWithout isWordPart rest) :
    YieldsSegment source c (word (ch :: run)) := by
  have hpart := isWordPart_of_isWordStart hch
  have hblank := isBlank_of_isWordPart hpart
  have hne := ne_newline_of_class (isWordPart_of_isBlank rfl) hpart
  have hword := yields_scanWord h.next (hc.next h.lt_size) hrun hends
  have hline : (c.past (ch :: run)).line = c.line :=
    past_line_of_isPlain (s := word (ch :: run)) rfl ⟨ch, run, rfl, hch, hrun⟩
  rw [Cursor.next_past hne, hline] at hword
  refine yields_scanToken_of h hc ?_
  rw [scanBehind_eq hblank (ne_mark_of_isWordPart hpart).1 (spelling_ne_singleton (.inr hch)),
    isDigit_of_isWordStart hch, hch]
  exact hword.bind (yields_pure source _ _)

theorem yieldsSegment_unexpected (h : c.StandsBefore source (ch :: rest))
    (hc : c.IsValid source.size) (hch : (unexpected ch).WellFormed) :
    YieldsSegment source c (unexpected ch) := by
  obtain ⟨hblank, hquote, hdigit, hword, hoperator⟩ := hch
  have hne : ch ≠ '\n' := by
    rintro rfl
    cases hblank
  refine yields_scanToken_of h hc ?_
  rw [scanBehind_eq hblank hquote hoperator, hdigit, hword, text, ← Cursor.next_eq_past hne]
  exact (yields_cursor source _).bind (yields_pure source _ _)

/-- The digits of a number, of which the first one has been taken. -/
theorem yields_skipDigits_next (h : c.StandsBefore source (ch :: run ++ rest))
    (hc : c.IsValid source.size) (hdigits : ∀ d ∈ ch :: run, d.isDigit = true)
    (hends : BeginsWithout Char.isDigit rest) :
    Yields source skipDigits c.next () (c.past (ch :: run)) ∧
      (c.past (ch :: run)).IsInside source.size ∧
      (c.past (ch :: run)).StandsBefore source rest := by
  obtain ⟨hch, hrun⟩ := List.forall_mem_cons.mp hdigits
  have hfirst : c.StandsBefore source (ch :: (run ++ rest)) := h
  have hinside := hc.next hfirst.lt_size
  rw [← Cursor.next_past (ne_newline_of_class (p := Char.isDigit) rfl hch)]
  exact ⟨yields_skipDigits hfirst.next hinside hrun hends, hinside.past hfirst.next,
    hfirst.next.past⟩

/-- The two parts of a number make its token. -/
theorem yieldsSegment_of_scanNumber {whole fraction : List Char}
    (h : c.StandsBefore source (ch :: rest)) (hc : c.IsValid source.size)
    (hs : (number whole fraction).WellFormed) (hch : ch.isDigit = true)
    (hwhole : Yields source skipDigits c.next () c')
    (hfraction : Yields source skipFraction c' () (c.past (number whole fraction).text))
    (hinside : (c.past (number whole fraction).text).IsInside source.size) :
    YieldsSegment source c (number whole fraction) := by
  have hpart := isWordPart_of_isDigit hch
  have hnumber := yields_scanNumber hwhole hfraction hinside
  rw [past_line_of_isPlain (s := number whole fraction) rfl hs] at hnumber
  refine yields_scanToken_of h hc ?_
  rw [scanBehind_eq (isBlank_of_isWordPart hpart) (ne_mark_of_isWordPart hpart).1
    (spelling_ne_singleton (.inl hch)), hch]
  exact hnumber.bind (yields_pure source _ _)

theorem yieldsSegment_number {whole fraction : List Char}
    (h : c.StandsBefore source ((number whole fraction).text ++ rest)) (hc : c.IsValid source.size)
    (hs : (number whole fraction).WellFormed) (hends : EndsBefore (number whole fraction) rest) :
    YieldsSegment source c (number whole fraction) := by
  obtain ⟨d, ds, rfl⟩ := List.exists_cons_of_ne_nil hs.1
  have hd : d.isDigit = true := hs.2.1 d List.mem_cons_self
  cases fraction with
  | nil =>
      obtain ⟨hwhole, hinside, hbehind⟩ := yields_skipDigits_next h hc hs.2.1 hends.1
      exact yieldsSegment_of_scanNumber h hc hs hd hwhole
        (yields_skipFraction_none hbehind hends.2) hinside
  | cons e es =>
      have hpoint : BeginsWithout Char.isDigit ('.' :: (e :: es) ++ rest) := by
        intro ch hch
        cases hch
        rfl
      have htext : c.StandsBefore source (d :: ds ++ ('.' :: (e :: es) ++ rest)) := by
        rwa [← List.append_assoc]
      obtain ⟨hwhole, hinside, hbehind⟩ := yields_skipDigits_next htext hc hs.2.1 hpoint
      have hfraction := yields_skipFraction hbehind hinside (List.cons_ne_nil e es) hs.2.2 hends
      have hend := hinside.past hbehind
      rw [Cursor.past_append] at hfraction hend
      exact yieldsSegment_of_scanNumber htext hc hs hd hwhole hfraction hend

/-- **A call of `scanToken` reads the first segment of the text that is left**, whatever the
segment is, and leaves the cursor behind it. -/
theorem yieldsSegment (h : IsFirst (source.toList.drop c.current) s rest)
    (hc : c.IsValid source.size) : YieldsSegment source c s := by
  have hstands : c.StandsBefore source (s.text ++ rest) := h.append.symm
  have hs := h.wellFormed
  have hends := h.endsBefore
  cases s with
  | blank b => exact yieldsSegment_blank hstands hc hs
  | lineComment body => exact yieldsSegment_lineComment hstands hc hs hends
  | blockComment body =>
      have hbody : c.StandsBefore source ('/' :: '*' :: (body ++ (commentEnd ++ rest))) := by
        rw [← List.append_assoc]
        exact hstands
      exact yieldsSegment_blockComment hbody hc hs
  | string value =>
      have hvalue : c.StandsBefore source ('"' :: (value ++ '"' :: rest)) := by
        have happend : value ++ '"' :: rest = value ++ ['"'] ++ rest := by simp
        rw [happend]
        exact hstands
      exact yieldsSegment_string hvalue hc hs
  | number whole fraction => exact yieldsSegment_number hstands hc hs hends
  | word name =>
      obtain ⟨d, ds, rfl, hd, hds⟩ := hs
      exact yieldsSegment_word hstands hc hd hds hends
  | operator o => exact yieldsSegment_operator hstands hc hends
  | unexpected d => exact yieldsSegment_unexpected hstands hc hs
  | openString body =>
      obtain rfl : rest = [] := hends
      rw [List.append_nil] at hstands
      exact yieldsSegment_openString hstands hc hs
  | openComment body =>
      obtain rfl : rest = [] := hends
      rw [List.append_nil] at hstands
      exact yieldsSegment_openComment hstands hc hs

end Scanner
end LoxScan

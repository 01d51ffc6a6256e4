import LoxScan.Text.CharClass
import LoxScan.Token.Operator

/-! # Cutting a text into segments

A text of Lox is a row of segments: blanks, comments, lexemes, and the places where it is
malformed.  Each kind of segment has a reader that looks at the front of the remaining text
and either takes a segment off or leaves it to the next reader; a character that no reader
wants is a segment of its own.  Since every segment takes at least one character
(`length_rest_lt`), repeating this ends after at most as many steps as there are
characters, and since a reader only cuts (`takes_next`), the texts of the segments
joined together are the source (`flatMap_text_segments`). -/

namespace LoxScan

open Text

/-- A piece of source text, by what it is. -/
inductive Segment where
  | blank (c : Char)
  /-- Two slashes and the rest of the line, without the line feed. -/
  | lineComment (body : List Char)
  /-- The text between the opening and the first closing mark. -/
  | blockComment (body : List Char)
  /-- The text between two double quotes. -/
  | string (value : List Char)
  /-- The digits before the point and behind it; without a point the second part is empty. -/
  | number (whole fraction : List Char)
  /-- A name or a reserved word. -/
  | word (name : List Char)
  | operator (o : Operator)
  /-- A character that begins no lexeme. -/
  | unexpected (c : Char)
  /-- A string that runs to the end of the text. -/
  | openString (body : List Char)
  /-- A block comment that runs to the end of the text. -/
  | openComment (body : List Char)
  deriving DecidableEq, Repr

namespace Segment

/-- The characters of a segment as they stand in the source. -/
def text : Segment → List Char
  | blank c => [c]
  | lineComment body => '/' :: '/' :: body
  | blockComment body => '/' :: '*' :: (body ++ ['*', '/'])
  | string value => '"' :: (value ++ ['"'])
  | number whole fraction => if fraction = [] then whole else whole ++ '.' :: fraction
  | word name => name
  | operator o => o.spelling
  | unexpected c => [c]
  | openString body => '"' :: body
  | openComment body => '/' :: '*' :: body

/-! ### Readers -/

/-- The text before the first closing mark of a block comment, and the text behind it. -/
def cutAtCommentEnd? : List Char → Option (List Char × List Char)
  | [] => none
  | '*' :: '/' :: cs => some ([], cs)
  | c :: cs => (cutAtCommentEnd? cs).map fun (body, rest) => (c :: body, rest)

/-- A single blank. -/
def readBlank? : List Char → Option (Segment × List Char)
  | c :: cs => if isBlank c then some (blank c, cs) else none
  | [] => none

/-- A line comment goes on to the next line feed or the end of the text; a block comment to
the first closing mark, and to the end of the text if there is none. -/
def readComment? : List Char → Option (Segment × List Char)
  | '/' :: '/' :: cs => some (lineComment (cs.takeWhile (· ≠ '\n')), cs.dropWhile (· ≠ '\n'))
  | '/' :: '*' :: cs =>
      match cutAtCommentEnd? cs with
      | some (body, rest) => some (blockComment body, rest)
      | none => some (openComment cs, [])
  | _ => none

/-- A string goes on to the next double quote, across lines, and to the end of the text if
there is none.  Nothing in it is special. -/
def readString? : List Char → Option (Segment × List Char)
  | '"' :: cs =>
      match cs.dropWhile (· ≠ '"') with
      | _ :: rest => some (string (cs.takeWhile (· ≠ '"')), rest)
      | [] => some (openString cs, [])
  | _ => none

/-- Digits, and a point with more digits if at least one digit follows the point. -/
def readNumber? : List Char → Option (Segment × List Char)
  | c :: cs =>
      if c.isDigit then
        let whole := c :: cs.takeWhile Char.isDigit
        match cs.dropWhile Char.isDigit with
        | '.' :: d :: ds =>
            if d.isDigit then
              some (number whole (d :: ds.takeWhile Char.isDigit), ds.dropWhile Char.isDigit)
            else some (number whole [], '.' :: d :: ds)
        | rest => some (number whole [], rest)
      else none
  | [] => none

/-- A word start and all word parts that follow it. -/
def readWord? : List Char → Option (Segment × List Char)
  | c :: cs =>
      if isWordStart c then some (word (c :: cs.takeWhile isWordPart), cs.dropWhile isWordPart)
      else none
  | [] => none

/-- The longest operator that fits. -/
def readOperator? (cs : List Char) : Option (Segment × List Char) :=
  (Operator.longest? cs).map fun o => (operator o, cs.drop o.spelling.length)

/-- The first segment of a text that is not empty, and the text behind it. -/
def next (c : Char) (cs : List Char) : Segment × List Char :=
  (readBlank? (c :: cs) <|> readComment? (c :: cs) <|> readString? (c :: cs) <|>
    readNumber? (c :: cs) <|> readWord? (c :: cs) <|> readOperator? (c :: cs)).getD
    (unexpected c, cs)

/-! ### A reader only cuts -/

/-- The segment is a front part of the text that is not empty, and `rest` is what follows. -/
def Takes (cs : List Char) (s : Segment) (rest : List Char) : Prop :=
  s.text ≠ [] ∧ s.text ++ rest = cs

theorem append_of_cutAtCommentEnd? {cs body rest : List Char}
    (h : cutAtCommentEnd? cs = some (body, rest)) : body ++ '*' :: '/' :: rest = cs := by
  fun_induction cutAtCommentEnd? cs generalizing body with
  | case1 => cases h
  | case2 cs =>
      cases h
      rfl
  | case3 c cs _ ih =>
      obtain ⟨⟨b, r⟩, hb, heq⟩ := Option.map_eq_some_iff.mp h
      cases heq
      rw [List.cons_append, ih hb]

/-- Behind the longest front part with a property comes the end or a character without it. -/
theorem not_of_dropWhile_eq_cons {p : Char → Bool} {cs rest : List Char} {c : Char}
    (h : cs.dropWhile p = c :: rest) : p c = false := by
  have := List.head?_dropWhile_not p cs
  rwa [h] at this

variable {cs rest : List Char} {s : Segment}

theorem takes_of_readBlank? (h : readBlank? cs = some (s, rest)) : Takes cs s rest := by
  unfold readBlank? at h
  grind [Takes, text]

theorem takes_of_readComment? (h : readComment? cs = some (s, rest)) : Takes cs s rest := by
  unfold readComment? at h
  split at h
  · cases h
    simp [Takes, text, List.takeWhile_append_dropWhile]
  · split at h
    · rename_i hcut
      cases h
      simp [Takes, text, append_of_cutAtCommentEnd? hcut]
    · cases h
      simp [Takes, text]
  · cases h

theorem takes_of_readString? (h : readString? cs = some (s, rest)) : Takes cs s rest := by
  unfold readString? at h
  split at h
  · rename_i cs
    split at h
    · rename_i hd
      cases h
      have hq := not_of_dropWhile_eq_cons hd
      simp only [ne_eq, decide_not, Bool.not_eq_eq_eq_not, Bool.not_false, decide_eq_true_eq] at hq
      subst hq
      have hcs := List.takeWhile_append_dropWhile (p := (· ≠ '"')) (l := cs)
      rw [hd] at hcs
      simpa [Takes, text] using hcs
    · cases h
      simp [Takes, text]
  · cases h

theorem takes_of_readNumber? (h : readNumber? cs = some (s, rest)) : Takes cs s rest := by
  unfold readNumber? at h
  split at h
  · rename_i c cs
    split at h
    · have hcs := List.takeWhile_append_dropWhile (p := Char.isDigit) (l := cs)
      split at h
      · rename_i d ds hd
        rw [hd] at hcs
        split at h
        · cases h
          simp [Takes, text, List.takeWhile_append_dropWhile, hcs]
        · cases h
          simp [Takes, text, hcs]
      · cases h
        simp [Takes, text, hcs]
    · cases h
  · cases h

theorem takes_of_readWord? (h : readWord? cs = some (s, rest)) : Takes cs s rest := by
  unfold readWord? at h
  split at h
  · split at h
    · cases h
      simp [Takes, text, List.takeWhile_append_dropWhile]
    · cases h
  · cases h

theorem takes_of_readOperator? (h : readOperator? cs = some (s, rest)) : Takes cs s rest := by
  obtain ⟨o, ho, heq⟩ := Option.map_eq_some_iff.mp h
  cases heq
  obtain ⟨r, hr⟩ := Operator.spelling_prefix_of_longest? ho
  rw [← hr, List.drop_left]
  exact ⟨o.spelling_ne_nil, rfl⟩

/-- **The first segment is a front part of the text that is not empty.** -/
theorem takes_next (c : Char) (cs : List Char) : Takes (c :: cs) (next c cs).1 (next c cs).2 := by
  unfold next
  cases h : readBlank? (c :: cs) <|> readComment? (c :: cs) <|> readString? (c :: cs) <|>
    readNumber? (c :: cs) <|> readWord? (c :: cs) <|> readOperator? (c :: cs) with
  | none => exact ⟨List.cons_ne_nil _ _, rfl⟩
  | some found =>
      obtain ⟨s, rest⟩ := found
      simp only [Option.orElse_eq_orElse, Option.orElse_eq_or, Option.or_eq_some_iff] at h
      rcases h with h | ⟨-, h | ⟨-, h | ⟨-, h | ⟨-, h | ⟨-, h⟩⟩⟩⟩⟩
      · exact takes_of_readBlank? h
      · exact takes_of_readComment? h
      · exact takes_of_readString? h
      · exact takes_of_readNumber? h
      · exact takes_of_readWord? h
      · exact takes_of_readOperator? h

/-! ### The whole text -/

/-- Taking a segment off leaves a shorter text. -/
theorem length_rest_lt (c : Char) (cs : List Char) : (next c cs).2.length < (c :: cs).length := by
  obtain ⟨hne, happ⟩ := takes_next c cs
  rw [← happ, List.length_append]
  exact Nat.lt_add_of_pos_left (List.length_pos_iff.mpr hne)

/-- The segments of a text, in order. -/
def segments : List Char → List Segment
  | [] => []
  | c :: cs =>
      let first := next c cs
      first.1 :: segments first.2
termination_by cs => cs.length
decreasing_by exact length_rest_lt c cs

@[simp] theorem segments_nil : segments [] = [] := by
  rw [segments]

theorem segments_cons (c : Char) (cs : List Char) :
    segments (c :: cs) = (next c cs).1 :: segments (next c cs).2 := by
  rw [segments]

/-- **The segments tile the text:** their texts joined together are the text. -/
theorem flatMap_text_segments (cs : List Char) : (segments cs).flatMap text = cs := by
  fun_induction segments cs with
  | case1 => rfl
  | case2 c cs first ih =>
      rw [List.flatMap_cons, ih]
      exact (takes_next c cs).2

example : segments "a/**/1.5.".toList =
    [word ['a'], blockComment [], number ['1'] ['5'], operator .dot] := by decide +kernel

end Segment
end LoxScan

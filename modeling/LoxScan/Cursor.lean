import Mathlib.Data.PFun
import LoxScan.Number.Numeral
import LoxScan.Scan

/-! # Scanning with a cursor

`LoxScan.Scan` says what scanning comes to.  This module says how it goes about it, character by
character.  A cursor goes through the text and knows three numbers: where the segment being read
begins, which character comes next, and on which line it stands.  Characters behind the next two
are never looked at.

Most indices are not checked.  A scanner that asks for a character behind the text, or for a
piece whose ends are out of order, breaks off, and then it has no value.  Neither has one that goes
on for ever, as nothing but what is done in it ends a loop.  So to have a value is to stay within
the text and to come to an end.

A scanner also records what it does: each place that its cursor comes to, and each use of the
cursor that relies on its numbers.  Nothing depends on the record. -/

namespace LoxScan

open Text

/-- Where a scanner stands. -/
structure Cursor where
  /-- The index of the first character of the segment being read. -/
  start : Nat
  /-- The index of the character to be read next. -/
  current : Nat
  /-- The number of the line, counted from one. -/
  line : Nat
  deriving DecidableEq, Repr

/-- Where every scanner begins. -/
def Cursor.initial : Cursor := ⟨0, 0, 1⟩

/-- What a scanner records, each with its cursor. -/
inductive Step where
  /-- The cursor has come to this place. -/
  | moved (c : Cursor)
  /-- A token is asked for. -/
  | scanToken (c : Cursor)
  /-- The next character is taken. -/
  | advance (c : Cursor)
  /-- The text of the segment is cut out. -/
  | lexeme (c : Cursor)
  /-- The text between the quotes of a string is cut out. -/
  | stringValue (c : Cursor)
  deriving DecidableEq, Repr

/-- The cursor of a scanner and what the scanner has recorded. -/
structure Progress where
  cursor : Cursor
  steps : List Step
  deriving DecidableEq, Repr

/-- A program that reads a text with a cursor, and may have no value. -/
abbrev Scanner := ReaderT (Array Char) (StateT Progress Part)

namespace Scanner

/-! ### The cursor -/

def cursor : Scanner Cursor := fun _ p => .some (p.cursor, p)

def record (s : Step) : Scanner Unit := modify fun p => ⟨p.cursor, p.steps ++ [s]⟩

def moveTo (c : Cursor) : Scanner Unit := modify fun p => ⟨c, p.steps ++ [.moved c]⟩

/-- The character with this index, which must be in the text. -/
def charAt (i : Nat) : Scanner Char := fun source p =>
  match source[i]? with
  | some c => .some (c, p)
  | none => .none

/-- The text from one index up to another one, which must be in order and not behind the text. -/
def slice (first last : Nat) : Scanner (List Char) := fun source p =>
  if first ≤ last ∧ last ≤ source.size then .some ((source.extract first last).toList, p) else .none

def isAtEnd : Scanner Bool := do return (← read).size ≤ (← cursor).current

/-- The next character, or zero at the end. -/
def peek : Scanner Char := do return (← read)[(← cursor).current]?.getD '\x00'

/-- The character behind the next one, or zero where there is none. -/
def peekNext : Scanner Char := do return (← read)[(← cursor).current + 1]?.getD '\x00'

/-- Takes the next character, which must be there. -/
def advance : Scanner Char := do
  let c ← cursor
  record (.advance c)
  let found ← charAt c.current
  moveTo ⟨c.start, c.current + 1, c.line⟩
  return found

/-- Takes the next character if it is the expected one. -/
def matchChar (expected : Char) : Scanner Bool := do
  if ← isAtEnd then return false
  let c ← cursor
  if (← charAt c.current) ≠ expected then return false
  moveTo ⟨c.start, c.current + 1, c.line⟩
  return true

def countLine : Scanner Unit := do
  let c ← cursor
  moveTo ⟨c.start, c.current, c.line + 1⟩

/-- From here on another segment is read. -/
def beginSegment : Scanner Unit := do
  let c ← cursor
  moveTo ⟨c.current, c.current, c.line⟩

/-- The text of the segment so far. -/
def lexeme : Scanner (List Char) := do
  let c ← cursor
  record (.lexeme c)
  slice c.start c.current

/-! ### Loops -/

/-- Does the same again and again, from one value to the next, until there is a result. -/
def loop {α β : Type} (body : α → Scanner (β ⊕ α)) (a : α) : Scanner β := fun source p =>
  PFun.fix (fun (here : α × Progress) =>
    (body here.1 source here.2).map fun (found, p') => found.map (·, p') (·, p')) (a, p)

/-- Does the same again and again as long as the condition holds. -/
def whileDo (condition : Scanner Bool) (body : Scanner Unit) : Scanner Unit :=
  loop (fun _ => do
    if ← condition then
      body
      return .inr ()
    return .inl ()) ()

def skipChar : Scanner Unit := do
  let _ ← advance

/-- Takes a character inside a segment that may go over several lines. -/
def skipCharCountingLines : Scanner Unit := do
  if (← peek) = '\n' then
    countLine
    skipChar
  else skipChar

def skipDigits : Scanner Unit := whileDo (do return (← peek).isDigit) skipChar

def skipWordParts : Scanner Unit := whileDo (do return isWordPart (← peek)) skipChar

def skipToLineEnd : Scanner Unit :=
  whileDo (do return (← peek) ≠ '\n' && !(← isAtEnd)) skipChar

def skipToQuote : Scanner Unit :=
  whileDo (do return (← peek) ≠ '"' && !(← isAtEnd)) skipCharCountingLines

/-- Goes on behind the mark that closes a comment, of which the opening mark has been read. -/
def skipBlockComment : Scanner (Except ScanError Unit) :=
  loop (fun _ => do
    if ← isAtEnd then
      return .inl (.error ⟨(← cursor).line, .unterminatedBlockComment⟩)
    if (← peek) = '*' && (← peekNext) = '/' then
      skipChar
      skipChar
      return .inl (.ok ())
    skipCharCountingLines
    return .inr ()) ()

/-! ### Segments, of which the first character has been read -/

def scanString : Scanner (Except ScanError Token) := do
  let line := (← cursor).line
  skipToQuote
  if ← isAtEnd then
    return .error ⟨(← cursor).line, .unterminatedString⟩
  skipChar
  let c ← cursor
  record (.stringValue c)
  let value ← slice (c.start + 1) (c.current - 1)
  let text ← lexeme
  return .ok ⟨.string, String.ofList text, some (.string (String.ofList value)), line⟩

/-- The token of a number: a text that is no numeral has no number for its value. -/
def numberToken (text : String) (line : Nat) : Token :=
  ⟨.number, text,
    some (.number ((Double.ofText? text).getD (Numeral.notANumber false).double)), line⟩

def skipFraction : Scanner Unit := do
  if (← peek) = '.' && (← peekNext).isDigit then
    skipChar
    skipDigits

def scanNumber : Scanner Token := do
  skipDigits
  skipFraction
  let text ← lexeme
  return numberToken (String.ofList text) (← cursor).line

def scanWord : Scanner Token := do
  skipWordParts
  let text ← lexeme
  return Segment.wordToken text (← cursor).line

def operatorToken (o : Operator) : Scanner (Except ScanError (Option Token)) := do
  let text ← lexeme
  return .ok (some ⟨.operator o, String.ofList text, none, (← cursor).line⟩)

/-- One of two operators, of which the longer one ends with the given character. -/
def either (next : Char) (longer shorter : Operator) : Scanner Operator := do
  if ← matchChar next then return longer else return shorter

/-- A comment, or the operator that begins like one. -/
def scanSlash : Scanner (Except ScanError (Option Token)) := do
  if ← matchChar '/' then
    skipToLineEnd
    return .ok none
  if ← matchChar '*' then
    return (← skipBlockComment).map fun _ => none
  operatorToken .slash

/-- What the first character of a segment leads to. -/
def scanBehind (c : Char) : Scanner (Except ScanError (Option Token)) :=
  match c with
  | '(' => operatorToken .leftParen
  | ')' => operatorToken .rightParen
  | '\x7b' => operatorToken .leftBrace
  | '\x7d' => operatorToken .rightBrace
  | ',' => operatorToken .comma
  | '.' => operatorToken .dot
  | '-' => operatorToken .minus
  | '+' => operatorToken .plus
  | ';' => operatorToken .semicolon
  | '*' => operatorToken .star
  | '!' => do operatorToken (← either '=' .bangEqual .bang)
  | '=' => do operatorToken (← either '=' .equalEqual .equal)
  | '<' => do operatorToken (← either '=' .lessEqual .less)
  | '>' => do operatorToken (← either '=' .greaterEqual .greater)
  | '/' => scanSlash
  | ' ' | '\r' | '\t' => return .ok none
  | '\n' => do
      countLine
      return .ok none
  | '"' => return (← scanString).map some
  | c => do
      if c.isDigit then
        return .ok (some (← scanNumber))
      if isWordStart c then
        return .ok (some (← scanWord))
      return .error ⟨(← cursor).line, .unexpectedCharacter c⟩

/-- Reads one segment, which is a token, or nothing, or an error. -/
def scanToken : Scanner (Except ScanError (Option Token)) := do
  record (.scanToken (← cursor))
  scanBehind (← advance)

/-! ### Whole texts -/

/-- Goes on to the first error, with the tokens found before. -/
def tokenizeFrom : List Token → Scanner (Except ScanError (List Token)) :=
  loop fun found => do
    if ← isAtEnd then
      return .inl (.ok (found ++ [.eof (← cursor).line]))
    beginSegment
    match ← scanToken with
    | .ok (some t) => return .inr (found ++ [t])
    | .ok none => return .inr found
    | .error e => return .inl (.error e)

/-- Goes on to the end, with the items found before. -/
def tokenizeAllFrom : List Item → Scanner (List Item) :=
  loop fun found => do
    if ← isAtEnd then
      return .inl (found ++ [.token (.eof (← cursor).line)])
    beginSegment
    match ← scanToken with
    | .ok (some t) => return .inr (found ++ [.token t])
    | .ok none => return .inr found
    | .error e => return .inr (found ++ [.error e])

/-- The tokens of a text up to the first error. -/
def tokenize : Scanner (Except ScanError (List Token)) := tokenizeFrom []

/-- All tokens and errors of a text. -/
def tokenizeAll : Scanner (List Item) := tokenizeAllFrom []

/-- What a scanner makes of a text, and how it went about it. -/
def runOn {α : Type} (scanner : Scanner α) (source : String) : Part (α × Progress) :=
  scanner source.toList.toArray ⟨.initial, [.moved .initial]⟩

end Scanner
end LoxScan

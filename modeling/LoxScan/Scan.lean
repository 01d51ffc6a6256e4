import LoxScan.Segment
import LoxScan.Token
import LoxScan.ScanError

/-! # Scanning

Scanning turns the segments of a text into **items**: a token for each lexeme and an error
for each malformed place, both with their line; blanks and comments leave nothing behind.
There are three ways to ask for the result.

* `items` goes through the whole text and keeps tokens and errors together, in order.  The
  mark at the end of the text is always the last item.
* `scan` stops at the first error, and otherwise gives the tokens.
* `scanAll` gives all errors if there are any, and otherwise the tokens.

A token stands on the line of its first character.  So does a single unexpected character;
a string or comment that is not closed has taken the rest of the text with it, and its
error stands on the last line. -/

namespace LoxScan

/-- What scanning finds at one place of the text. -/
inductive Item where
  | token (t : Token)
  | error (e : ScanError)
  deriving DecidableEq

namespace Item

def token? : Item → Option Token
  | token t => some t
  | error _ => none

def error? : Item → Option ScanError
  | token _ => none
  | error e => some e

/-- The line of the token or of the error. -/
def line : Item → Nat
  | token t => t.line
  | error e => e.line

end Item

namespace Segment

/-- The number of line feeds in a segment. -/
def lineFeeds (s : Segment) : Nat := s.text.count '\n'

/-- The text of a segment as a string. -/
def lexeme (s : Segment) : String := String.ofList s.text

/-- The token of a word: a reserved word without a value, or a name. -/
def wordToken (name : List Char) (line : Nat) : Token :=
  let word := String.ofList name
  match Keyword.ofSpelling? word with
  | some k => ⟨.keyword k, word, none, line⟩
  | none => ⟨.identifier, word, some (.identifier word), line⟩

@[simp] theorem wordToken_lexeme (name : List Char) (line : Nat) :
    (wordToken name line).lexeme = String.ofList name := by
  simp only [wordToken]
  split <;> rfl

@[simp] theorem wordToken_line (name : List Char) (line : Nat) :
    (wordToken name line).line = line := by
  simp only [wordToken]
  split <;> rfl

/-- The kind of a word is a reserved word if it is spelled like one. -/
theorem wordToken_kind (name : List Char) (line : Nat) :
    (wordToken name line).kind =
      ((Keyword.ofSpelling? (String.ofList name)).map Kind.keyword).getD .identifier := by
  simp only [wordToken]
  split <;> rename_i h <;> simp [h]

/-- What a segment that begins on the given line contributes. -/
def item? (line : Nat) (s : Segment) : Option Item :=
  match s with
  | blank _ | lineComment _ | blockComment _ => none
  | string value => some (.token ⟨.string, s.lexeme, some (.string (String.ofList value)), line⟩)
  | number whole fraction =>
      let value := Double.ofDecimal false (Decimal.ofDigits whole fraction)
      some (.token ⟨.number, s.lexeme, some (.number value), line⟩)
  | word name => some (.token (wordToken name line))
  | operator o => some (.token ⟨.operator o, s.lexeme, none, line⟩)
  | unexpected c => some (.error ⟨line, .unexpectedCharacter c⟩)
  | openString _ => some (.error ⟨line + s.lineFeeds, .unterminatedString⟩)
  | openComment _ => some (.error ⟨line + s.lineFeeds, .unterminatedBlockComment⟩)

end Segment

/-- The items of segments of which the first begins on the given line. -/
def itemsFrom (line : Nat) : List Segment → List Item
  | [] => [.token (.eof line)]
  | s :: ss => (s.item? line).toList ++ itemsFrom (line + s.lineFeeds) ss

/-- The tokens of segments of which the first begins on the given line, up to the first
error. -/
def tokensFrom (line : Nat) : List Segment → Except ScanError (List Token)
  | [] => .ok [.eof line]
  | s :: ss =>
      match s.item? line with
      | none => tokensFrom (line + s.lineFeeds) ss
      | some (.error e) => .error e
      | some (.token t) => (tokensFrom (line + s.lineFeeds) ss).map (t :: ·)

/-- All tokens and errors of a text, in order. -/
def items (source : String) : List Item := itemsFrom 1 (Segment.segments source.toList)

/-- The tokens of a text, or its first error. -/
def scan (source : String) : Except ScanError (List Token) :=
  tokensFrom 1 (Segment.segments source.toList)

/-- The tokens of a text, or all its errors. -/
def scanAll (source : String) : Except (List ScanError) (List Token) :=
  let found := items source
  match found.filterMap Item.error? with
  | [] => .ok (found.filterMap Item.token?)
  | errors => .error errors

end LoxScan

import LoxScan.ScanError
import LoxScan.Styled
import LoxScan.Text.Lines

/-! # Diagnostics

A diagnostic tells the reader what is wrong and where: a header with the line and the
message, and under it, if the source is at hand, the line itself between its neighbours.
Each quoted line carries its number in a gutter.  All gutters of one diagnostic are as wide
as the number after the error's line, whether or not that line exists, so that they always
line up.

The line of an error may lie outside the source: behind a final line feed there is a last
line that has no text.  Then there is nothing to quote, and the header stands alone. -/

namespace LoxScan

/-- An error to be shown, with the source it was found in if that is to be quoted. -/
structure Diagnostic where
  error : ScanError
  source? : Option String

namespace Diagnostic

/-- The line with the given number, counted from one. -/
def lineAt? (lines : List (List Char)) (number : Nat) : Option (List Char) :=
  if number = 0 then none else lines[number - 1]?

/-- The line with the given number and its neighbours, each with its own number.  A number
beyond the lines quotes nothing, not even a neighbour. -/
def excerpt (lines : List (List Char)) (number : Nat) : List (Nat × List Char) :=
  if number = 0 ∨ lines.length < number then []
  else [number - 1, number, number + 1].filterMap fun n => (lineAt? lines n).map (n, ·)

/-- The line of an error is called out, its neighbours are kept quieter. -/
def gutterStyle (number quoted : Nat) : Style := if quoted = number then .boldBlue else .blue

/-- A number right-aligned in its gutter. -/
def gutter (number quoted : Nat) : Span :=
  let width := (Nat.toDigits 10 (number + 1)).length
  .styled (gutterStyle number quoted) ((Nat.toDigits 10 quoted).leftpad width ' ')

/-- A quoted line behind its gutter. -/
def quotation (number : Nat) (quoted : Nat × List Char) : Styled :=
  [.plain [' ', ' '], gutter number quoted.1, .plain [' ', '|', ' '], .plain (quoted.2 ++ ['\n'])]

/-- The line and the message of an error. -/
def header (e : ScanError) : Styled :=
  [.plain ("[line " ++ toString e.line ++ "] ").toList, .styled .boldRed "Error".toList,
   .plain (": " ++ e.message ++ "\n").toList]

/-- The whole diagnostic. -/
def styled (d : Diagnostic) : Styled :=
  let quoted := match d.source? with
    | some source => excerpt (Text.lines source.toList) d.error.line
    | none => []
  header d.error ++ quoted.flatMap (quotation d.error.line)

/-- The text of a diagnostic, with or without colours. -/
def render (coloured : Bool) (d : Diagnostic) : String := String.ofList (d.styled.render coloured)

example : excerpt [['a'], ['b']] 2 = [(1, ['a']), (2, ['b'])] := by decide
example : excerpt [['a'], ['b']] 3 = [] := by decide

end Diagnostic
end LoxScan

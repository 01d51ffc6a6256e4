import LoxScan.Number.Display

/-! # Literal values

The value that a token carries beside its text: the double a number denotes, the text
between the quotes of a string, or a name. -/

namespace LoxScan

/-- A decoded value. -/
inductive Literal where
  | number (value : Double)
  /-- The text between the quotes, as it stands in the source. -/
  | string (text : String)
  | identifier (name : String)
  deriving DecidableEq

namespace Literal

/-- How a literal is printed: a number by its shortest decimal, texts and names unchanged. -/
def display : Literal → String
  | number value => value.display
  | string text => text
  | identifier name => name

/-- Equality of values.  It is the equality of numbers where numbers are compared, so a
literal that is no number differs from itself. -/
def equals : Literal → Literal → Bool
  | number a, number b => a.equals b
  | string a, string b => a == b
  | identifier a, identifier b => a == b
  | _, _ => false

end Literal
end LoxScan

import LoxScan.Token.Kind
import LoxScan.Token.Literal

/-! # Tokens

A token is a piece of source text together with what it means: its kind, its exact text,
the value it denotes, and the line on which its first character stands. -/

namespace LoxScan

/-- A piece of source text and its meaning. -/
structure Token where
  kind : Kind
  /-- The source text of the token. -/
  lexeme : String
  /-- The value of a number, a string or a name. -/
  literal? : Option Literal
  /-- The line of the first character, counted from one. -/
  line : Nat
  deriving DecidableEq

namespace Token

/-- The mark at the end of the text. -/
def eof (line : Nat) : Token := ⟨.eof, "", none, line⟩

/-- How a token is printed: line, kind, text and value, the last one between parentheses
that stay empty if there is none. -/
def display (t : Token) : String :=
  "[" ++ toString t.line ++ "] " ++ t.kind.name ++ " '" ++ t.lexeme ++ "' (" ++
    (t.literal?.map Literal.display).getD "" ++ ")"

/-- Equality of tokens, with literals compared by value. -/
def equals (s t : Token) : Bool :=
  s.kind = t.kind && s.lexeme == t.lexeme && s.line = t.line &&
    match s.literal?, t.literal? with
    | none, none => true
    | some a, some b => a.equals b
    | _, _ => false

example : (eof 3).display = "[3] EOF '' ()" := by decide +kernel

end Token
end LoxScan

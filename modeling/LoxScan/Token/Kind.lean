import LoxScan.Token.Operator
import LoxScan.Token.Keyword

/-! # Kinds of tokens

A token is an operator, a reserved word, one of the three kinds that carry a value, or the
mark at the end of the text.  Each kind has one upper-case name, under which it is printed
and known to other tools. -/

namespace LoxScan

/-- What a token is. -/
inductive Kind where
  | operator (o : Operator)
  | keyword (k : Keyword)
  | identifier
  | string
  | number
  /-- The end of the text. -/
  | eof
  deriving DecidableEq, Repr

namespace Kind

/-- Whether the kind is a reserved word. -/
def isKeyword : Kind → Bool
  | keyword _ => true
  | _ => false

/-- The upper-case name of a kind. -/
def name : Kind → String
  | operator .leftParen => "LEFT_PAREN"
  | operator .rightParen => "RIGHT_PAREN"
  | operator .leftBrace => "LEFT_BRACE"
  | operator .rightBrace => "RIGHT_BRACE"
  | operator .comma => "COMMA"
  | operator .dot => "DOT"
  | operator .minus => "MINUS"
  | operator .plus => "PLUS"
  | operator .semicolon => "SEMICOLON"
  | operator .slash => "SLASH"
  | operator .star => "STAR"
  | operator .bang => "BANG"
  | operator .bangEqual => "BANG_EQUAL"
  | operator .equal => "EQUAL"
  | operator .equalEqual => "EQUAL_EQUAL"
  | operator .greater => "GREATER"
  | operator .greaterEqual => "GREATER_EQUAL"
  | operator .less => "LESS"
  | operator .lessEqual => "LESS_EQUAL"
  | keyword .and_ => "AND"
  | keyword .class_ => "CLASS"
  | keyword .else_ => "ELSE"
  | keyword .false_ => "FALSE"
  | keyword .fun_ => "FUN"
  | keyword .for_ => "FOR"
  | keyword .if_ => "IF"
  | keyword .nil_ => "NIL"
  | keyword .or_ => "OR"
  | keyword .print_ => "PRINT"
  | keyword .return_ => "RETURN"
  | keyword .super_ => "SUPER"
  | keyword .this_ => "THIS"
  | keyword .true_ => "TRUE"
  | keyword .var_ => "VAR"
  | keyword .while_ => "WHILE"
  | identifier => "IDENTIFIER"
  | string => "STRING"
  | number => "NUMBER"
  | eof => "EOF"

/-- All kinds. -/
def all : List Kind :=
  Operator.all.map operator ++ Keyword.all.map keyword ++ [identifier, string, number, eof]

/-- The kind with this name. -/
def ofName? (name : String) : Option Kind := all.find? fun k => k.name = name

theorem mem_all (k : Kind) : k ∈ all := by
  cases k with
  | operator o => simp [all, Operator.mem_all o]
  | keyword k => simp [all, Keyword.mem_all k]
  | _ => simp [all]

/-- Different kinds have different names. -/
theorem name_injective {k l : Kind} (h : k.name = l.name) : k = l := by
  have distinct : ∀ k ∈ all, ∀ l ∈ all, k.name = l.name → k = l := by decide +kernel
  exact distinct k (mem_all k) l (mem_all l) h

/-- The look-up finds a kind exactly by its name. -/
theorem ofName?_eq_some_iff {n : String} {k : Kind} : ofName? n = some k ↔ n = k.name := by
  unfold ofName?
  constructor
  · intro h
    have found := List.find?_some h
    exact (of_decide_eq_true found).symm
  · rintro rfl
    cases h : all.find? fun l => l.name = k.name with
    | none => simpa using List.find?_eq_none.mp h k (mem_all k)
    | some l =>
        have found := List.find?_some h
        rw [name_injective (of_decide_eq_true found)]

end Kind
end LoxScan

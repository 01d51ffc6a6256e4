/-! # Operators and punctuation

The nineteen fixed spellings of Lox that are no words.  Each is one or two characters
long, and every two-character spelling begins with a one-character one; reading therefore
takes the longest spelling that fits (`longest?`). -/

namespace LoxScan

/-- The operators and punctuation marks. -/
inductive Operator where
  | leftParen | rightParen | leftBrace | rightBrace
  | comma | dot | minus | plus | semicolon | slash | star
  | bang | bangEqual | equal | equalEqual
  | greater | greaterEqual | less | lessEqual
  deriving DecidableEq, Repr

namespace Operator

/-- The characters an operator is written with. -/
def spelling : Operator → List Char
  | leftParen => ['(']
  | rightParen => [')']
  | leftBrace => ['\x7b']
  | rightBrace => ['\x7d']
  | comma => [',']
  | dot => ['.']
  | minus => ['-']
  | plus => ['+']
  | semicolon => [';']
  | slash => ['/']
  | star => ['*']
  | bang => ['!']
  | bangEqual => ['!', '=']
  | equal => ['=']
  | equalEqual => ['=', '=']
  | greater => ['>']
  | greaterEqual => ['>', '=']
  | less => ['<']
  | lessEqual => ['<', '=']

/-- The operators of two characters. -/
def pairs : List Operator := [bangEqual, equalEqual, greaterEqual, lessEqual]

/-- The operators of one character. -/
def singles : List Operator :=
  [leftParen, rightParen, leftBrace, rightBrace, comma, dot, minus, plus, semicolon, slash, star,
   bang, equal, greater, less]

/-- All operators, the longer ones first. -/
def all : List Operator := pairs ++ singles

/-- The operator with the longest spelling that the text begins with. -/
def longest? (text : List Char) : Option Operator :=
  all.find? fun o => o.spelling.isPrefixOf text

theorem mem_all (o : Operator) : o ∈ all := by
  cases o <;> decide

/-- Different operators are spelled differently. -/
theorem spelling_injective {o p : Operator} (h : o.spelling = p.spelling) : o = p := by
  revert h
  cases o <;> cases p <;> decide

theorem spelling_ne_nil (o : Operator) : o.spelling ≠ [] := by
  cases o <;> decide

/-- The first character of every spelling is a spelling as well. -/
theorem exists_spelling_eq_take_one (o : Operator) :
    ∃ p ∈ all, p.spelling = o.spelling.take 1 := by
  cases o <;> decide

/-- The operator that is found does begin the text. -/
theorem spelling_prefix_of_longest? {text : List Char} {o : Operator}
    (h : longest? text = some o) : o.spelling <+: text := by
  unfold longest? at h
  have found := List.find?_some h
  exact List.isPrefixOf_iff_prefix.mp found

theorem length_spelling_of_mem_pairs {o : Operator} (h : o ∈ pairs) : o.spelling.length = 2 := by
  revert h
  cases o <;> decide

theorem length_spelling_of_mem_singles {o : Operator} (h : o ∈ singles) :
    o.spelling.length = 1 := by
  revert h
  cases o <;> decide

/-- **No operator that begins the text is longer than the one that is found.** -/
theorem length_spelling_le_of_longest? {text : List Char} {o p : Operator}
    (h : longest? text = some o) (hp : p.spelling <+: text) :
    p.spelling.length ≤ o.spelling.length := by
  have cover (q : Operator) : q ∈ pairs ∨ q ∈ singles := List.mem_append.mp (mem_all q)
  rw [longest?, all, List.find?_append] at h
  cases hpairs : pairs.find? fun q => q.spelling.isPrefixOf text with
  | some q =>
      rw [hpairs, Option.some_or, Option.some.injEq] at h
      subst h
      rw [length_spelling_of_mem_pairs (List.mem_of_find?_eq_some hpairs)]
      rcases cover p with hm | hm
      · exact Nat.le_of_eq (length_spelling_of_mem_pairs hm)
      · rw [length_spelling_of_mem_singles hm]
        decide
  | none =>
      rw [hpairs, Option.none_or] at h
      rw [length_spelling_of_mem_singles (List.mem_of_find?_eq_some h)]
      rcases cover p with hm | hm
      · exact absurd (List.isPrefixOf_iff_prefix.mpr hp) (List.find?_eq_none.mp hpairs p hm)
      · exact Nat.le_of_eq (length_spelling_of_mem_singles hm)

/-- Nothing is found only where no operator begins the text. -/
theorem longest?_eq_none_iff {text : List Char} :
    longest? text = none ↔ ∀ o : Operator, ¬ o.spelling <+: text := by
  simp only [longest?, List.find?_eq_none, List.isPrefixOf_iff_prefix]
  exact ⟨fun h o => h o (mem_all o), fun h o _ => h o⟩

end Operator
end LoxScan

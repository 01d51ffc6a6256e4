/-! # Reserved words

The sixteen words of Lox that are not free to be names.  A word is reserved only if it is
spelled exactly so: case counts, and a longer word that begins with a reserved one is an
ordinary name. -/

namespace LoxScan

/-- The reserved words, in alphabetical order of their first letters. -/
inductive Keyword where
  | and_ | class_ | else_ | false_ | fun_ | for_ | if_ | nil_
  | or_ | print_ | return_ | super_ | this_ | true_ | var_ | while_
  deriving DecidableEq, Repr

namespace Keyword

/-- How a reserved word is written. -/
def spelling : Keyword → String
  | and_ => "and"
  | class_ => "class"
  | else_ => "else"
  | false_ => "false"
  | fun_ => "fun"
  | for_ => "for"
  | if_ => "if"
  | nil_ => "nil"
  | or_ => "or"
  | print_ => "print"
  | return_ => "return"
  | super_ => "super"
  | this_ => "this"
  | true_ => "true"
  | var_ => "var"
  | while_ => "while"

/-- The table of reserved words. -/
def all : List Keyword :=
  [and_, class_, else_, false_, fun_, for_, if_, nil_,
   or_, print_, return_, super_, this_, true_, var_, while_]

/-- The reserved word with exactly this spelling. -/
def ofSpelling? (word : String) : Option Keyword := all.find? fun k => k.spelling = word

theorem mem_all (k : Keyword) : k ∈ all := by
  cases k <;> decide

/-- Different reserved words are spelled differently. -/
theorem spelling_injective {k l : Keyword} (h : k.spelling = l.spelling) : k = l := by
  revert h
  cases k <;> cases l <;> decide

/-- **The look-up finds a reserved word exactly by its spelling.** -/
theorem ofSpelling?_eq_some_iff {word : String} {k : Keyword} :
    ofSpelling? word = some k ↔ word = k.spelling := by
  unfold ofSpelling?
  constructor
  · intro h
    have found := List.find?_some h
    exact (of_decide_eq_true found).symm
  · rintro rfl
    cases h : all.find? fun l => l.spelling = k.spelling with
    | none => simpa using List.find?_eq_none.mp h k (mem_all k)
    | some l =>
        have found := List.find?_some h
        rw [spelling_injective (of_decide_eq_true found)]

end Keyword
end LoxScan

/-! # Style sequences in a text

A text for a terminal sets styles by escape sequences: an escape character, an opening bracket,
parameters, and the letter `m`.  Read as a terminal reads it, a text is a row of **marks**, each
a style sequence or a character (`marks`).  Only a whole sequence counts as one; an escape
character that begins none is a character like any other, and so are brackets, digits and the
letter `m` anywhere else.

The characters alone are the text without its style sequences (`withoutSequences`).  The
sequences alone say which styles are on (`stylesOn`): each turns something on, except that zero,
or no parameter at all, turns everything off. -/

namespace LoxScan.Text

/-- A piece of a text for a terminal. -/
inductive Mark where
  /-- A style sequence, by its parameters. -/
  | sequence (parameters : List Char)
  | character (c : Char)
  deriving DecidableEq, Repr

/-- What parameters are written with. -/
def isParameter (c : Char) : Bool := c.isDigit || c = ';'

/-- The parameters of the style sequence at the front of a text, and the text behind it. -/
def readSequence? : List Char → Option (List Char × List Char)
  | '\x1b' :: '[' :: cs =>
      match cs.dropWhile isParameter with
      | 'm' :: rest => some (cs.takeWhile isParameter, rest)
      | _ => none
  | _ => none

/-- The first mark of a text that is not empty, and the text behind it. -/
def firstMark (c : Char) (cs : List Char) : Mark × List Char :=
  match readSequence? (c :: cs) with
  | some (parameters, rest) => (.sequence parameters, rest)
  | none => (.character c, cs)

/-- Taking a mark off leaves a shorter text. -/
theorem length_firstMark_lt (c : Char) (cs : List Char) :
    (firstMark c cs).2.length < (c :: cs).length := by
  unfold firstMark readSequence?
  split
  · rename_i h
    split at h
    · rename_i cs heq
      obtain ⟨rfl, rfl⟩ := List.cons.inj heq
      split at h
      · rename_i hdrop
        cases h
        have hle := (List.dropWhile_suffix isParameter (l := cs)).length_le
        rw [hdrop] at hle
        simp only [List.length_cons] at hle ⊢
        omega
      · cases h
    · cases h
  · exact Nat.lt_succ_self _

/-- The marks of a text, in order. -/
def marks : List Char → List Mark
  | [] => []
  | c :: cs =>
      let first := firstMark c cs
      first.1 :: marks first.2
termination_by cs => cs.length
decreasing_by exact length_firstMark_lt c cs

namespace Mark

def character? : Mark → Option Char
  | sequence _ => none
  | character c => some c

/-- The styles that are on behind a mark, as the parameters that turned them on. -/
def applyTo (on : List (List Char)) : Mark → List (List Char)
  | sequence parameters => if parameters = [] ∨ parameters = ['0'] then [] else parameters :: on
  | character _ => on

end Mark

/-- The text without its style sequences. -/
def withoutSequences (cs : List Char) : List Char := (marks cs).filterMap Mark.character?

/-- The styles that are on behind marks. -/
def stylesOn (ms : List Mark) : List (List Char) := ms.foldl Mark.applyTo []

/-- Every style that is turned on is turned off before the line ends: at line feeds and at the
end of the text no style is on. -/
structure ClosesStyles (ms : List Mark) : Prop where
  line : ∀ before after, ms = before ++ .character '\n' :: after → stylesOn before = []
  finish : stylesOn ms = []

variable {cs rest parameters : List Char} {c : Char} {ms ns : List Mark}

/-! ### Reading marks -/

@[simp] theorem marks_nil : marks [] = [] := by rw [marks]

theorem marks_cons (c : Char) (cs : List Char) :
    marks (c :: cs) = (firstMark c cs).1 :: marks (firstMark c cs).2 := by
  rw [marks]

/-- What is no escape character stands for itself. -/
theorem firstMark_of_ne (h : c ≠ '\x1b') (cs : List Char) :
    firstMark c cs = (.character c, cs) := by
  have hnone : readSequence? (c :: cs) = none := by
    unfold readSequence?
    split
    · rename_i heq
      exact absurd (List.cons.inj heq).1 h
    · rfl
  rw [firstMark, hnone]

/-- A text without escape characters is its characters. -/
theorem marks_append_of_not_mem (h : '\x1b' ∉ cs) (rest : List Char) :
    marks (cs ++ rest) = cs.map .character ++ marks rest := by
  induction cs with
  | nil => rfl
  | cons c cs ih =>
      rw [List.mem_cons, not_or] at h
      rw [List.cons_append, marks_cons, firstMark_of_ne (Ne.symm h.1), ih h.2]
      rfl

/-- A style sequence is one mark. -/
theorem marks_sequence_append (h : ∀ c ∈ parameters, isParameter c = true) (rest : List Char) :
    marks ('\x1b' :: '[' :: (parameters ++ 'm' :: rest)) = .sequence parameters :: marks rest := by
  have hm : isParameter 'm' = false := rfl
  have hread : readSequence? ('\x1b' :: '[' :: (parameters ++ 'm' :: rest)) =
      some (parameters, rest) := by
    simp [readSequence?, List.dropWhile_append_of_pos h, List.takeWhile_append_of_pos h, hm]
  rw [marks_cons, firstMark, hread]

/-! ### Styles -/

theorem stylesOn_append (ms ns : List Mark) :
    stylesOn (ms ++ ns) = ns.foldl Mark.applyTo (stylesOn ms) := List.foldl_append

/-- Characters turn nothing on. -/
theorem stylesOn_map_character (cs : List Char) : stylesOn (cs.map .character) = [] := by
  induction cs with
  | nil => rfl
  | cons c cs ih => exact ih

theorem closesStyles_nil : ClosesStyles [] where
  line before after h := by
    cases (List.append_eq_nil_iff.mp h.symm).2
  finish := rfl

/-- **Texts that close their styles do so together,** since neither leaves a style on for the
other. -/
theorem ClosesStyles.append (hms : ClosesStyles ms) (hns : ClosesStyles ns) :
    ClosesStyles (ms ++ ns) where
  line before after h := by
    rcases List.append_eq_append_iff.mp h with ⟨as, rfl, has⟩ | ⟨bs, rfl, hbs⟩
    · rw [stylesOn_append, hms.finish]
      exact hns.line as after has
    · cases bs with
      | nil =>
          rw [List.append_nil] at hms
          exact hms.finish
      | cons b bs =>
          obtain ⟨rfl, -⟩ := List.cons.inj hbs
          exact hms.line before bs rfl
  finish := by
    rw [stylesOn_append, hms.finish]
    exact hns.finish

/-- Marks without line feeds need to close their styles only at the end. -/
theorem closesStyles_of_not_mem (h : .character '\n' ∉ ms) (hfinish : stylesOn ms = []) :
    ClosesStyles ms where
  line before after heq := by
    exact absurd (heq ▸ List.mem_append_right before List.mem_cons_self) h
  finish := hfinish

/-- Characters close their styles, as they have none. -/
theorem closesStyles_map_character (cs : List Char) : ClosesStyles (cs.map .character) where
  line before after h := by
    obtain ⟨as, bs, rfl, rfl, -⟩ := List.map_eq_append_iff.mp h
    exact stylesOn_map_character as
  finish := stylesOn_map_character cs

example : withoutSequences "[1m\x1b[1;31mm\x1b[\x1b[0m".toList = "[1mm\x1b[".toList := by
  decide +kernel

end LoxScan.Text

import LoxScan.Proofs.Extent
import LoxScan.Proofs.Rule

/-! # The longest match

Scanning looks one or two characters ahead and takes what it can get.  The grammar looks at
all front parts of the remaining text at once.  They agree (`scans_extents`): the
lexeme that is taken is the longest front part that any rule matches, and where no rule
matches anything, the text is malformed there.  A block comment that is opened and not
closed comes first; it is malformed although the slash alone would be an operator.

That nothing longer matches is shown without comparing rules.  A lexeme that does not end
where it must can be made longer within the grammar (`canGrow_of_not_endsBefore`); so what
has grown as far as it can ends where it must, and is then the first segment of the text,
which is unique. -/

namespace LoxScan

open Text Segment

/-- The text opens a block comment that is never closed. -/
def OpensComment (cs : List Char) : Prop :=
  ∃ body, cs = '/' :: '*' :: body ∧ ¬ commentEnd <:+: body

/-- The lexeme is the longest front part of the text that a rule matches, and `r` is the one
rule that matches it. -/
structure LongestMatch (r : Rule) (lexeme cs : List Char) : Prop where
  ne_nil : lexeme ≠ []
  isPrefix : lexeme <+: cs
  matches_lexeme : r.Matches lexeme
  only : ∀ r' : Rule, r'.Matches lexeme → r' = r
  longest : ∀ (r' : Rule) (lexeme' : List Char), lexeme' <+: cs → r'.Matches lexeme' →
    lexeme'.length ≤ lexeme.length

/-- No rule matches a front part of the text. -/
def NoMatch (cs : List Char) : Prop :=
  ∀ (r : Rule) (lexeme : List Char), lexeme <+: cs → ¬ r.Matches lexeme

/-- What the grammar makes of the front of a text: the part that is taken, and what is found
there.  The four cases exclude each other, in this order. -/
inductive Scans (cs : List Char) : List Char → Option Item → Prop
  | openComment {line : Nat} (opens : OpensComment cs) :
      Scans cs cs (some (.error ⟨line, .unterminatedBlockComment⟩))
  | longest {r : Rule} {lexeme : List Char} {found : Option Item} (closed : ¬ OpensComment cs)
      (longest : LongestMatch r lexeme cs) (treats : r.Treats lexeme found) :
      Scans cs lexeme found
  | openString {line : Nat} (closed : ¬ OpensComment cs) (noMatch : NoMatch cs)
      (quote : cs.head? = some '"') : Scans cs cs (some (.error ⟨line, .unterminatedString⟩))
  | unexpected {line : Nat} {c : Char} (closed : ¬ OpensComment cs) (noMatch : NoMatch cs)
      (first : cs.head? = some c) (noQuote : c ≠ '"') :
      Scans cs [c] (some (.error ⟨line, .unexpectedCharacter c⟩))

/-! ### What does not end where it must can be longer -/

theorem exists_cons_of_not_beginsWithout {p : Char → Bool} {rest : List Char}
    (h : ¬ BeginsWithout p rest) : ∃ c cs, rest = c :: cs ∧ p c = true := by
  cases rest with
  | nil => exact absurd (fun c hc => by cases hc) h
  | cons c cs =>
      refine ⟨c, cs, rfl, ?_⟩
      cases hc : p c with
      | true => rfl
      | false =>
          refine absurd (fun d hd => ?_) h
          rwa [← Option.some.inj hd]

/-- A run of a class goes on with one more character of the class. -/
theorem forall_mem_append_singleton {p : Char → Bool} {body : List Char} {c : Char}
    (hbody : ∀ d ∈ body, p d = true) (hc : p c = true) : ∀ d ∈ body ++ [c], p d = true := by
  intro d hd
  rcases List.mem_append.mp hd with hd | hd
  · exact hbody d hd
  · rwa [List.mem_singleton.mp hd]

/-- A rule matches a front part of the text of the segment and what follows it, and this part
is longer than the segment. -/
def CanGrow (s : Segment) (rest : List Char) : Prop :=
  ∃ t r, Rule.ofSegment? t = some r ∧ t.WellFormed ∧ t.text <+: s.text ++ rest ∧
    s.text.length < t.text.length

/-- A number that does not end where it must goes on with a digit, or with a point that has
one behind it. -/
theorem canGrow_number {whole fraction rest : List Char} (hs : WellFormed (number whole fraction))
    (he : ¬ EndsBefore (number whole fraction) rest) : CanGrow (number whole fraction) rest := by
  obtain ⟨hne, hwhole, hfraction⟩ := hs
  cases fraction with
  | nil =>
      by_cases hdigit : BeginsWithout Char.isDigit rest
      · obtain ⟨d, ds, rfl, hd⟩ : ∃ d ds, rest = '.' :: d :: ds ∧ d.isDigit = true := by
          refine Classical.byContradiction fun hno => he ⟨hdigit, fun d ds hrest => ?_⟩
          exact Bool.eq_false_iff.mpr fun hd => hno ⟨d, ds, hrest, hd⟩
        refine ⟨number whole [d], _, rfl, ⟨hne, hwhole, ?_⟩, ⟨ds, ?_⟩, ?_⟩
        · intro c hc
          rwa [List.mem_singleton.mp hc]
        · simp [text]
        · simp [text]
      · obtain ⟨d, ds, rfl, hd⟩ := exists_cons_of_not_beginsWithout hdigit
        refine ⟨number (whole ++ [d]) [], _, rfl, ⟨by simp, ?_, hfraction⟩, ⟨ds, ?_⟩, ?_⟩
        · exact forall_mem_append_singleton hwhole hd
        · simp [text]
        · simp [text]
  | cons e es =>
      obtain ⟨d, ds, rfl, hd⟩ := exists_cons_of_not_beginsWithout he
      refine ⟨number whole (e :: es ++ [d]), _, rfl, ⟨hne, hwhole, ?_⟩, ⟨ds, ?_⟩, ?_⟩
      · exact forall_mem_append_singleton hfraction hd
      · simp [text]
      · simp [text]

/-- A slash before a slash or a star is the beginning of a comment. -/
theorem canGrow_slash {c : Char} {cs : List Char} (hc : c = '/' ∨ c = '*') :
    OpensComment ('/' :: c :: cs) ∨ CanGrow (operator .slash) (c :: cs) := by
  rcases hc with rfl | rfl
  · exact .inr ⟨lineComment [], _, rfl, by simp [WellFormed], ⟨cs, rfl⟩, by decide⟩
  · cases hcut : cutAtCommentEnd? cs with
    | none => exact .inl ⟨cs, rfl, cutAtCommentEnd?_eq_none_iff.mp hcut⟩
    | some found =>
        obtain ⟨body, after⟩ := found
        have hbody : ¬ commentEnd <:+: body := not_infix_of_cutAtCommentEnd? hcut
        refine .inr ⟨blockComment body, _, rfl, hbody, ⟨after, ?_⟩, ?_⟩
        · simp [text, Operator.spelling, append_of_cutAtCommentEnd? hcut]
        · simp [text, Operator.spelling]

/-- An operator that does not end where it must is the beginning of a longer one or of a
comment. -/
theorem canGrow_operator {o : Operator} {rest : List Char} (he : ¬ EndsBefore (operator o) rest) :
    OpensComment (o.spelling ++ rest) ∨ CanGrow (operator o) rest := by
  by_cases hlonger : ∃ p : Operator, p.spelling <+: o.spelling ++ rest ∧
      o.spelling.length < p.spelling.length
  · obtain ⟨p, hp, hlt⟩ := hlonger
    exact .inr ⟨operator p, _, rfl, trivial, hp, hlt⟩
  · -- No operator is longer, so only the condition on slashes can fail.
    by_cases hslash : o = .slash ∧ ¬ BeginsWithout (fun c => c = '/' || c = '*') rest
    · obtain ⟨rfl, hbegin⟩ := hslash
      obtain ⟨c, cs, rfl, hc⟩ := exists_cons_of_not_beginsWithout hbegin
      exact canGrow_slash (by simpa using hc)
    · refine absurd ⟨fun p hp => ?_, fun ho => ?_⟩ he
      · exact Nat.le_of_not_lt fun hlt => hlonger ⟨p, hp, hlt⟩
      · exact Classical.byContradiction fun hbegin => hslash ⟨ho, hbegin⟩

/-- **A lexeme that does not end where it must can be made longer**, unless the text opens a
block comment without an end. -/
theorem canGrow_of_not_endsBefore {s : Segment} {rest : List Char} {r : Rule}
    (hr : Rule.ofSegment? s = some r) (hs : s.WellFormed) (he : ¬ s.EndsBefore rest) :
    OpensComment (s.text ++ rest) ∨ CanGrow s rest := by
  cases s with
  | blank _ | blockComment _ | string _ => exact absurd trivial he
  | unexpected _ | openString _ | openComment _ => cases hr
  | lineComment body =>
      obtain ⟨c, cs, rfl, hc⟩ := exists_cons_of_not_beginsWithout he
      refine .inr ⟨lineComment (body ++ [c]), _, rfl, ?_, ⟨cs, by simp [text]⟩, by simp [text]⟩
      intro hmem
      rcases List.mem_append.mp hmem with hmem | hmem
      · exact hs hmem
      · rw [← List.mem_singleton.mp hmem] at hc
        exact absurd hc (by decide)
  | word name =>
      obtain ⟨d, ds, rfl, hd⟩ := exists_cons_of_not_beginsWithout he
      obtain ⟨c, cs, rfl, hc, hcs⟩ := hs
      refine .inr ⟨word (c :: cs ++ [d]), _, rfl, ⟨c, cs ++ [d], rfl, hc, ?_⟩, ⟨ds, ?_⟩, ?_⟩
      · exact forall_mem_append_singleton hcs hd
      · simp [text]
      · simp [text]
  | number whole fraction => exact .inr (canGrow_number hs he)
  | operator o => exact canGrow_operator he

/-! ### The first segment is the longest match -/

/-- A text has one first segment. -/
theorem Segment.IsFirst.unique {cs rest rest' : List Char} {s t : Segment}
    (hs : IsFirst cs s rest) (ht : IsFirst cs t rest') : s = t ∧ rest = rest' := by
  have h := (segments_of_isFirst hs).symm.trans (segments_of_isFirst ht)
  obtain rfl : s = t := (List.cons.inj h).1
  exact ⟨rfl, List.append_cancel_left (hs.append.trans ht.append.symm)⟩

/-- **No rule matches more than the first segment**, and if any rule matches at all, the first
segment is not malformed.  The induction is on what a match leaves of the text: a match that
ends where it must is the first segment, and any other one can be made longer. -/
theorem Segment.IsFirst.longest {cs rest : List Char} {s : Segment} (h : IsFirst cs s rest)
    (hclosed : ¬ OpensComment cs) {t : Segment} {r : Rule} (hr : Rule.ofSegment? t = some r)
    (ht : t.WellFormed) (hpre : t.text <+: cs) :
    (Rule.ofSegment? s).isSome ∧ t.text.length ≤ s.text.length := by
  induction hn : cs.length - t.text.length using Nat.strongRecOn generalizing t r with
  | ind n ih =>
      obtain ⟨behind, rfl⟩ := hpre
      by_cases he : t.EndsBefore behind
      · obtain ⟨rfl, -⟩ := h.unique ⟨rfl, ht, he⟩
        exact ⟨by rw [hr]; rfl, Nat.le_refl _⟩
      · rcases canGrow_of_not_endsBefore hr ht he with hopen | ⟨u, r', hr', hu, hpre, hlt⟩
        · exact absurd hopen hclosed
        · have hle : u.text.length ≤ (t.text ++ behind).length := hpre.length_le
          obtain ⟨hsome, hlen⟩ := ih _ (by omega) hr' hu hpre rfl
          exact ⟨hsome, by omega⟩

/-- The first segment of a text and what it yields are what the grammar makes of the text. -/
theorem scans_of_isFirst {cs rest : List Char} {s : Segment} (h : IsFirst cs s rest) (line : Nat) :
    Scans cs s.text (s.item? line) := by
  by_cases hclosed : OpensComment cs
  · obtain ⟨body, rfl, hbody⟩ := hclosed
    have hopen : IsFirst ('/' :: '*' :: body) (.openComment body) [] :=
      ⟨List.append_nil _, hbody, rfl⟩
    obtain ⟨rfl, -⟩ := h.unique hopen
    exact .openComment ⟨body, rfl, hbody⟩
  cases hr : Rule.ofSegment? s with
  | some r =>
      have hmatches : r.Matches s.text := Rule.matches_text hr h.wellFormed
      refine .longest hclosed ⟨h.wellFormed.text_ne_nil, ⟨rest, h.append⟩, hmatches,
        fun r' hr' => Rule.eq_of_matches hr' hmatches, ?_⟩ (Rule.treats_text hr line)
      intro r' lexeme hpre hlexeme
      obtain ⟨t, ht, hwf, rfl⟩ := Rule.matches_iff.mp hlexeme
      exact (h.longest hclosed ht hwf hpre).2
  | none =>
      have noMatch : NoMatch cs := by
        intro r lexeme hpre hlexeme
        obtain ⟨t, ht, hwf, rfl⟩ := Rule.matches_iff.mp hlexeme
        have hsome := (h.longest hclosed ht hwf hpre).1
        rw [hr] at hsome
        cases hsome
      obtain ⟨happ, hs, he⟩ := h
      cases s with
      | unexpected c =>
          obtain rfl : c :: rest = cs := happ
          exact .unexpected hclosed noMatch rfl hs.2.1
      | openString body =>
          obtain rfl : rest = [] := he
          obtain rfl : '"' :: body = cs := (List.append_nil _).symm.trans happ
          exact .openString hclosed noMatch rfl
      | openComment body =>
          obtain rfl : rest = [] := he
          obtain rfl : '/' :: '*' :: body = cs := (List.append_nil _).symm.trans happ
          exact absurd ⟨body, rfl, hs⟩ hclosed
      | _ => cases hr

/-- **Scanning takes the longest match.**  Wherever it begins something in a text, it takes
the part of the remaining text that the grammar says, and finds there what the grammar
says. -/
theorem scans_extents (source : String) :
    IsLayout source (extents source) ∧
      ∀ e ∈ extents source,
        Scans (source.toList.drop e.start) (source.toList.extract e.start e.stop) e.item? := by
  refine ⟨isLayout_extents source, ?_⟩
  intro e he
  obtain ⟨s, hs, htext, hitem⟩ := exists_isFirst_of_mem_extents he
  rw [htext, hitem]
  exact scans_of_isFirst hs _

/-- Behind a name, a slash, a star and a slash are a comment without an end: the second
slash does not close what the first one opens. -/
theorem scans_slash_star_slash :
    (⟨1, 4, some (.error ⟨1, .unterminatedBlockComment⟩)⟩ : Extent) ∈ extents "a/*/" ∧
      Scans ['/', '*', '/'] ['/', '*', '/'] (some (.error ⟨1, .unterminatedBlockComment⟩)) := by
  have he : (⟨1, 4, some (.error ⟨1, .unterminatedBlockComment⟩)⟩ : Extent) ∈ extents "a/*/" := by
    decide +kernel
  exact ⟨he, (scans_extents "a/*/").2 _ he⟩

end LoxScan

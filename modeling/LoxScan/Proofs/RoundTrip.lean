import Mathlib.Control.Monad.Basic
import LoxScan.Proofs.WellFormedToken

/-! # Scanning undoes printing

Written one after the other with blanks between them, well-formed tokens are read back: same
kinds, same texts, same values (`scan_printed`).  The blanks are free, so long as no two tokens
touch.  They are what makes it true, as a name and a number next to each other are one name,
and two slashes a comment.

The proof goes through the printed text from its end.  A lexeme with a blank or nothing behind
it ends there, whatever its kind (`endsBefore_of_beginsBlank`); so it is the first segment of
the text, which yields its token (`ScansTo.lexeme_append`).  A blank yields nothing. -/

namespace LoxScan

open Text

/-- A row of spaces, tabs, carriage returns and line feeds. -/
def IsGap (gap : String) : Prop :=
  ∀ c ∈ gap.toList, c = ' ' ∨ c = '\t' ∨ c = '\r' ∨ c = '\n'

/-- The lexemes of the tokens, each with the gap behind it, and a gap in front. -/
def printed (lead : String) (ps : List (Token × String)) : String :=
  lead ++ String.join (ps.map fun p => p.1.lexeme ++ p.2)

/-- The text scans, from whatever line on, to tokens with the given contents and the mark at
the end. -/
def ScansTo (cs : List Char) (contents : List (Kind × String × Option Literal)) : Prop :=
  ∀ line, ∃ ts last, tokensFrom line (Segment.segments cs) = .ok (ts ++ [.eof last]) ∧
    ts.map Token.content = contents

variable {cs gap rest : List Char} {contents : List (Kind × String × Option Literal)}

/-! ### One step from the end of the text -/

/-- The text is empty or begins with a blank. -/
def BeginsBlank (rest : List Char) : Prop := ∀ c, rest.head? = some c → isBlank c = true

/-- A segment that yields a token ends before a blank and before the end of the text. -/
theorem endsBefore_of_beginsBlank {s : Segment} {line : Nat} {t : Token}
    (h : s.item? line = some (.token t)) (hrest : BeginsBlank rest) : s.EndsBefore rest := by
  cases rest with
  | nil => exact Segment.endsBefore_nil s
  | cons c cs =>
      refine Segment.endsBefore_of_isBlank ?_ (hrest c rfl) (.inr ?_)
      · cases s with
        | openString body | openComment body => cases h
        | _ => rfl
      · rintro body rfl
        cases h

theorem scansTo_nil : ScansTo [] [] := by
  intro line
  exact ⟨[], line, by rw [Segment.segments_nil]; rfl, rfl⟩

/-- Blanks in front of a text change nothing. -/
theorem ScansTo.gap_append (h : ScansTo cs contents) (hgap : ∀ c ∈ gap, isBlank c = true) :
    ScansTo (gap ++ cs) contents := by
  induction gap with
  | nil => exact h
  | cons c gap ih =>
      intro line
      have hfirst : Segment.IsFirst (c :: gap ++ cs) (.blank c) (gap ++ cs) :=
        ⟨rfl, hgap c List.mem_cons_self, trivial⟩
      rw [Segment.segments_of_isFirst hfirst]
      exact ih (fun d hd => hgap d (List.mem_cons_of_mem _ hd)) _

/-- **The lexeme of a well-formed token is read as that token** where a blank or the end of the
text follows it. -/
theorem ScansTo.lexeme_append (h : ScansTo cs contents) {t : Token} (ht : t.WellFormed)
    (hcs : BeginsBlank cs) : ScansTo (t.lexeme.toList ++ cs) (t.content :: contents) := by
  obtain ⟨s, hs, htext, hitem⟩ := ht.exists_segment
  intro line
  have hfirst : Segment.IsFirst (t.lexeme.toList ++ cs) s cs :=
    ⟨by rw [htext], hs, endsBefore_of_beginsBlank (hitem line) hcs⟩
  obtain ⟨ts, last, hts, rfl⟩ := h (line + s.lineFeeds)
  refine ⟨{ t with line := line } :: ts, last, ?_, rfl⟩
  rw [Segment.segments_of_isFirst hfirst, tokensFrom, hitem line]
  show (tokensFrom (line + s.lineFeeds) (Segment.segments cs)).map _ = _
  rw [hts]
  rfl

/-! ### The printed text -/

theorem isBlank_of_isGap {gap : String} (h : IsGap gap) : ∀ c ∈ gap.toList, isBlank c = true :=
  fun c hc => isBlank_iff.mpr (h c hc)

/-- A gap begins with a blank, or it is empty and what follows counts. -/
theorem beginsBlank_gap_append {gap : String} (h : IsGap gap)
    (hrest : gap = "" → BeginsBlank rest) : BeginsBlank (gap.toList ++ rest) := by
  intro c hc
  cases hgap : gap.toList with
  | nil =>
      rw [hgap] at hc
      exact hrest (String.toList_eq_nil_iff.mp hgap) c hc
  | cons d ds =>
      rw [hgap] at hc
      cases hc
      exact isBlank_of_isGap h c (by simp [hgap])

/-- **The tokens with the gaps behind them are read back.**  The induction is on the tokens; a
gap that no token follows may be empty. -/
theorem scansTo_flatMap {ps : List (Token × String)}
    (hps : ∀ p ∈ ps, p.1.WellFormed ∧ IsGap p.2) (hgaps : ∀ p ∈ ps.dropLast, p.2 ≠ "") :
    ScansTo (ps.flatMap fun p => p.1.lexeme.toList ++ p.2.toList)
      (ps.map fun p => p.1.content) := by
  induction ps with
  | nil => exact scansTo_nil
  | cons p ps ih =>
      obtain ⟨ht, hgap⟩ := hps p List.mem_cons_self
      have htail : ∀ q ∈ ps.dropLast, q.2 ≠ "" := by
        intro q hq
        have hne : ps ≠ [] := List.ne_nil_of_mem (List.dropLast_subset ps hq)
        refine hgaps q ?_
        rw [List.dropLast_cons_of_ne_nil hne]
        exact List.mem_cons_of_mem p hq
      have hrest := ih (fun q hq => hps q (List.mem_cons_of_mem _ hq)) htail
      rw [List.flatMap_cons, List.append_assoc]
      refine (hrest.gap_append (isBlank_of_isGap hgap)).lexeme_append ht
        (beginsBlank_gap_append hgap fun hempty => ?_)
      cases ps with
      | nil =>
          intro c hc
          cases hc
      | cons q qs => exact absurd hempty (hgaps p List.mem_cons_self)

theorem toList_printed (lead : String) (ps : List (Token × String)) :
    (printed lead ps).toList =
      lead.toList ++ ps.flatMap fun p => p.1.lexeme.toList ++ p.2.toList := by
  simp [printed, String.toList_join, List.flatMap_map]

/-- Printed tokens are read back. -/
theorem scansTo_printed {lead : String} {ps : List (Token × String)} (hlead : IsGap lead)
    (hps : ∀ p ∈ ps, p.1.WellFormed ∧ IsGap p.2) (hgaps : ∀ p ∈ ps.dropLast, p.2 ≠ "") :
    ScansTo (printed lead ps).toList (ps.map fun p => p.1.content) := by
  rw [toList_printed]
  exact (scansTo_flatMap hps hgaps).gap_append (isBlank_of_isGap hlead)

/-! ### Printing what was scanned -/

/-- With an empty text at their end, texts joined by a separator each have it behind them. -/
theorem intercalate_append_nil (sep : List Char) (ls : List (List Char)) :
    sep.intercalate (ls ++ [[]]) = ls.flatMap (· ++ sep) := by
  induction ls with
  | nil => rfl
  | cons l ls ih =>
      cases ls with
      | nil => simp
      | cons k ks => simpa using ih

/-- The lexemes of scanned tokens, joined by spaces, are the tokens printed with a space behind
each of them, as the mark at the end has an empty lexeme. -/
theorem toList_intercalate_lexeme (us : List Token) (last : Nat) :
    (" ".intercalate ((us ++ [Token.eof last]).map Token.lexeme)).toList =
      (printed "" (us.map fun u => (u, " "))).toList := by
  have hjoin := intercalate_append_nil [' '] (us.map fun u => u.lexeme.toList)
  rw [toList_printed, String.toList_intercalate]
  simpa [Token.eof, List.flatMap_map, Function.comp_def] using hjoin

/-- The lexemes of scanned tokens, joined by spaces, are read back. -/
theorem exists_scan_intercalate {source : String} {ts : List Token} (h : scan source = .ok ts) :
    ∃ us, scan (" ".intercalate (ts.map Token.lexeme)) = .ok us ∧
      us.map Token.content = ts.map Token.content := by
  obtain ⟨us, rfl, hus⟩ := exists_wellFormed_of_scan h
  have hspace : IsGap " " := by simp [IsGap]
  have hps : ∀ p ∈ us.map (fun u => (u, " ")), p.1.WellFormed ∧ IsGap p.2 :=
    List.forall_mem_map.mpr fun u hu => ⟨hus u hu, hspace⟩
  have hgaps : ∀ p ∈ (us.map fun u => (u, " ")).dropLast, p.2 ≠ "" := by
    intro p hp
    obtain ⟨u, -, rfl⟩ := List.mem_map.mp (List.dropLast_subset _ hp)
    exact (by decide : " " ≠ "")
  have hlead : IsGap "" := by simp [IsGap]
  obtain ⟨vs, last', hvs, hcontent⟩ := scansTo_printed hlead hps hgaps 1
  refine ⟨vs ++ [Token.eof last'], ?_, ?_⟩
  · rw [scan, toList_intercalate_lexeme, hvs]
  · rw [List.map_append, List.map_append, hcontent, List.map_map]
    rfl

/-- **Scanning undoes printing.**  Well-formed tokens, printed with gaps between them, scan to
tokens of the same kinds, texts and values, and the mark at the end.  So do the lexemes that a
scan has found, joined by single spaces. -/
theorem scan_printed :
    (∀ (lead : String) (ps : List (Token × String)), IsGap lead →
      (∀ p ∈ ps, p.1.WellFormed ∧ IsGap p.2) → (∀ p ∈ ps.dropLast, p.2 ≠ "") →
      ∃ ts last, scan (printed lead ps) = .ok (ts ++ [.eof last]) ∧
        ts.map Token.content = ps.map fun p => p.1.content) ∧
    ∀ (source : String) (ts : List Token), scan source = .ok ts →
      ∃ us, scan (" ".intercalate (ts.map Token.lexeme)) = .ok us ∧
        us.map Token.content = ts.map Token.content :=
  ⟨fun _ _ hlead hps hgaps => scansTo_printed hlead hps hgaps 1,
    fun _ _ => exists_scan_intercalate⟩

/-- Two slashes that do not touch are no comment, and a string that looks like the beginning of
one comes back as a string. -/
theorem scan_printed_slashes :
    (∃ ts last, scan (printed "\n" [(⟨.operator .slash, "/", none, 1⟩, "\t"),
        (⟨.operator .slash, "/", none, 1⟩, "")]) = .ok (ts ++ [.eof last]) ∧
      ts.map Token.content =
        [(.operator .slash, "/", none), (.operator .slash, "/", none)]) ∧
    ∃ us, scan (" ".intercalate ["\"/*\"", ".", "x", ""]) = .ok us ∧
      us.map Token.content = [(.string, "\"/*\"", some (.string "/*")),
        (.operator .dot, ".", none), (.identifier, "x", some (.identifier "x")),
        (.eof, "", none)] := by
  have hslash : Token.WellFormed ⟨.operator .slash, "/", none, 1⟩ := .operator .slash 1
  have hsource : scan "\"/*\".x" = .ok [⟨.string, "\"/*\"", some (.string "/*"), 1⟩,
      ⟨.operator .dot, ".", none, 1⟩, ⟨.identifier, "x", some (.identifier "x"), 1⟩, .eof 1] := by
    decide +kernel
  refine ⟨scan_printed.1 "\n" _ (by simp [IsGap]) ?_ (by simp), scan_printed.2 _ _ hsource⟩
  simp [IsGap, hslash]

end LoxScan

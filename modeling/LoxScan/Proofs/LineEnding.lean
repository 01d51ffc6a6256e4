import LoxScan.Proofs.Newline
import LoxScan.Proofs.Reporting
import LoxScan.Segment.Characters

/-! # Line feeds with carriage returns

A text may end its lines with a line feed or with a carriage return and a line feed.  This
module compares the two: `addReturns` writes a carriage return in front of every line feed,
and scanning finds the same as before, on the same lines (`items_addReturns`).  Only what a
string holds has changed, since a line end inside a string is part of it.

The carriage return goes to different places.  Behind a line comment it is taken in by the
comment, in a string or a block comment it stands in the middle, and anywhere else it is a
blank of its own.  `Segment.addReturns` says so for a row of segments, and as it makes a
tiling of a tiling (`Tiling.addReturns`), it gives the segments of the new text.

The reader of a diagnostic sees no difference either: a carriage return in front of a line
feed belongs to the line end, so a text without carriage returns keeps its lines. -/

namespace LoxScan

namespace Text

/-- The text with a carriage return in front of each line feed. -/
def addReturns : List Char → List Char
  | [] => []
  | c :: cs => if c = '\n' then '\r' :: '\n' :: addReturns cs else c :: addReturns cs

variable {c : Char} {cs : List Char}

@[simp] theorem addReturns_nil : addReturns [] = [] := rfl

@[simp] theorem addReturns_newline (cs : List Char) :
    addReturns ('\n' :: cs) = '\r' :: '\n' :: addReturns cs := rfl

@[simp] theorem addReturns_cons (h : c ≠ '\n') : addReturns (c :: cs) = c :: addReturns cs := by
  rw [addReturns, if_neg h]

theorem addReturns_append (as bs : List Char) :
    addReturns (as ++ bs) = addReturns as ++ addReturns bs := by
  induction as with
  | nil => rfl
  | cons c as ih =>
      by_cases hc : c = '\n'
      · subst hc
        simp [ih]
      · simp [hc, ih]

/-- A text without line feeds stays as it is. -/
theorem addReturns_of_not_mem (h : '\n' ∉ cs) : addReturns cs = cs := by
  induction cs with
  | nil => rfl
  | cons c cs ih =>
      rw [List.mem_cons, not_or] at h
      obtain ⟨hc, hcs⟩ := h
      rw [addReturns_cons (Ne.symm hc), ih hcs]

/-- No line feed comes or goes. -/
theorem count_addReturns (cs : List Char) : (addReturns cs).count '\n' = cs.count '\n' := by
  induction cs with
  | nil => rfl
  | cons c cs ih =>
      by_cases hc : c = '\n'
      · subst hc
        simp [ih]
      · simp [hc, ih]

/-- No other character than the carriage return comes in. -/
theorem mem_of_mem_addReturns (hc : c ≠ '\r') (h : c ∈ addReturns cs) : c ∈ cs := by
  induction cs with
  | nil => exact h
  | cons d cs ih =>
      by_cases hd : d = '\n'
      · subst hd
        rw [addReturns_newline, List.mem_cons, List.mem_cons] at h
        rcases h with h | h | h
        · exact absurd h hc
        · exact h ▸ List.mem_cons_self
        · exact List.mem_cons_of_mem _ (ih h)
      · rw [addReturns_cons hd, List.mem_cons] at h
        rcases h with rfl | h
        · exact List.mem_cons_self
        · exact List.mem_cons_of_mem _ (ih h)

/-- The new text begins as the old one, or with a carriage return. -/
theorem head?_addReturns (h : (addReturns cs).head? = some c) : c = '\r' ∨ cs.head? = some c := by
  cases cs with
  | nil => cases h
  | cons d cs =>
      by_cases hd : d = '\n'
      · subst hd
        exact .inl (Option.some.inj h).symm
      · rw [addReturns_cons hd] at h
        exact .inr h

/-- **A text without carriage returns keeps its lines.** -/
theorem lines_addReturns (h : '\r' ∉ cs) : lines (addReturns cs) = lines cs := by
  induction cs with
  | nil => rfl
  | cons c cs ih =>
      rw [List.mem_cons, not_or] at h
      obtain ⟨hc, hcs⟩ := h
      by_cases hn : c = '\n'
      · subst hn
        rw [addReturns_newline, lines_return_newline, lines_newline, ih hcs]
      · have hno : c = '\r' → ∀ ds : List Char, ds.head? ≠ some '\n' :=
          fun heq => absurd heq.symm hc
        rw [addReturns_cons hn, lines_cons hn fun heq => hno heq _,
          lines_cons hn fun heq => hno heq _, ih hcs]

end Text

/-- The text with a carriage return in front of each line feed. -/
def addReturns (source : String) : String := String.ofList (Text.addReturns source.toList)

/-- The text of a string with its line ends rewritten; numbers and names hold none. -/
def Literal.addReturns : Literal → Literal
  | string text => string (LoxScan.addReturns text)
  | number value => number value
  | identifier name => identifier name

/-- The token with its line ends rewritten, which only a string has. -/
def Token.addReturns (t : Token) : Token :=
  if t.kind = .string then
    { t with lexeme := LoxScan.addReturns t.lexeme, literal? := t.literal?.map Literal.addReturns }
  else t

/-- The item with the line ends in it rewritten; errors hold none. -/
def Item.addReturns : Item → Item
  | token t => token t.addReturns
  | error e => error e

namespace Segment

open Text

variable {s : Segment} {ss : List Segment} {cs rest : List Char}

/-- The segments of a segment with its line ends rewritten. -/
def addReturns : Segment → List Segment
  | blank c => if c = '\n' then [blank '\r', blank '\n'] else [blank c]
  | blockComment body => [blockComment (Text.addReturns body)]
  | string value => [string (Text.addReturns value)]
  | openString body => [openString (Text.addReturns body)]
  | openComment body => [openComment (Text.addReturns body)]
  | s => [s]

/-- The segments of a text with its line ends rewritten: a line comment takes in the carriage
return of the line feed that ends it. -/
def rowAddReturns : List Segment → List Segment
  | [] => []
  | lineComment body :: blank '\n' :: ss =>
      lineComment (body ++ ['\r']) :: blank '\n' :: rowAddReturns ss
  | s :: ss => s.addReturns ++ rowAddReturns ss

/-! ### One segment -/

theorem commentEnd_infix_addReturns {body : List Char} (h : ¬ commentEnd <:+: body) :
    ¬ commentEnd <:+: Text.addReturns body := by
  induction body with
  | nil => exact h
  | cons c body ih =>
      rw [commentEnd_infix_cons, not_or] at h
      by_cases hc : c = '\n'
      · -- Neither of the two new characters is one of the mark.
        subst hc
        rw [addReturns_newline, commentEnd_infix_cons, commentEnd_infix_cons]
        rintro (⟨hstar, -⟩ | ⟨hstar, -⟩ | hin)
        · cases hstar
        · cases hstar
        · exact ih h.2 hin
      · rw [addReturns_cons hc, commentEnd_infix_cons]
        rintro (⟨rfl, hslash⟩ | hin)
        · rcases head?_addReturns hslash with hreturn | hhead
          · cases hreturn
          · exact h.1 ⟨rfl, hhead⟩
        · exact ih h.2 hin

/-- The texts of the new segments, joined together, are the text with its line ends
rewritten. -/
theorem flatMap_text_addReturns (h : s.WellFormed) :
    s.addReturns.flatMap text = Text.addReturns s.text := by
  cases s with
  | blank c =>
      by_cases hc : c = '\n'
      · subst hc
        rfl
      · simp [addReturns, text, hc]
  | lineComment body =>
      have hbody : '\n' ∉ body := h
      have hline : '\n' ∉ (lineComment body).text := by simpa [text] using hbody
      rw [addReturns_of_not_mem hline]
      exact List.append_nil _
  | blockComment body => simp [addReturns, text, addReturns_append]
  | string value => simp [addReturns, text, addReturns_append]
  | number whole fraction =>
      rw [addReturns_of_not_mem (newline_not_mem_text rfl h)]
      exact List.append_nil _
  | word name =>
      rw [addReturns_of_not_mem (newline_not_mem_text rfl h)]
      exact List.append_nil _
  | operator o =>
      rw [addReturns_of_not_mem (newline_not_mem_text rfl h)]
      exact List.append_nil _
  | unexpected c =>
      have hc : c ≠ '\n' := by
        rintro rfl
        cases h.1
      simp [addReturns, text, hc]
  | openString body => simp [addReturns, text]
  | openComment body => simp [addReturns, text]

/-- A segment ends before the new text as it ended before the old one, unless it is a line
comment with a line feed behind it, which now takes in the carriage return. -/
theorem endsBefore_addReturns (h : s.EndsBefore rest)
    (hline : ∀ body, s = lineComment body → rest = []) : s.EndsBefore (Text.addReturns rest) := by
  cases rest with
  | nil => exact h
  | cons c rest =>
      have hno : ∀ body, s ≠ lineComment body :=
        fun body hbody => List.cons_ne_nil c rest (hline body hbody)
      obtain ⟨hgoes, hpoint⟩ := endsBefore_cons_iff.mp h
      by_cases hc : c = '\n'
      · subst hc
        -- What is open ends with the text, but here a line feed follows.
        have hopen : s.isOpen = false := by
          cases s with
          | openString body | openComment body => exact absurd trivial hgoes
          | _ => rfl
        exact endsBefore_of_isBlank hopen rfl (.inr hno)
      · rw [addReturns_cons hc]
        refine endsBefore_cons_iff.mpr ⟨hgoes, fun whole hwhole hp d hd => ?_⟩
        rcases head?_addReturns hd with rfl | hhead
        · rfl
        · exact hpoint whole hwhole hp d hhead

/-- The new segments stand before a tiling as the old one would. -/
theorem Tiling.addReturns_append (hs : s.WellFormed) (he : s.EndsBefore (ss.flatMap text))
    (hss : Tiling ss) : Tiling (s.addReturns ++ ss) := by
  have hquote {value : List Char} (hvalue : '"' ∉ value) : '"' ∉ Text.addReturns value :=
    fun hmem => hvalue (mem_of_mem_addReturns (by decide) hmem)
  cases s with
  | blank c =>
      by_cases hc : c = '\n'
      · subst hc
        exact .cons rfl trivial (.cons rfl trivial hss)
      · rw [addReturns, if_neg hc]
        exact .cons hs trivial hss
  | blockComment body => exact .cons (commentEnd_infix_addReturns hs) trivial hss
  | string value => exact .cons (hquote hs) trivial hss
  | openString body => exact .cons (hquote hs) he hss
  | openComment body => exact .cons (commentEnd_infix_addReturns hs) he hss
  | _ => exact .cons hs he hss

/-- What the new segments yield, with what is found behind them. -/
theorem itemsFrom_addReturns_append (line : Nat) (s : Segment) (ss : List Segment) :
    itemsFrom line (s.addReturns ++ ss) =
      (s.item? line).toList.map Item.addReturns ++ itemsFrom (line + s.lineFeeds) ss := by
  cases s with
  | blank c =>
      by_cases hc : c = '\n'
      · subst hc
        rfl
      · rw [addReturns, if_neg hc]
        rfl
  | string value =>
      simp [addReturns, item?, itemsFrom, lineFeeds, text, count_addReturns, Item.addReturns,
        Token.addReturns, Literal.addReturns, lexeme, LoxScan.addReturns, addReturns_append]
  | word name =>
      have hkind : (wordToken name line).kind ≠ .string := by
        rw [wordToken_kind]
        cases Keyword.ofSpelling? (String.ofList name) <;> exact Kind.noConfusion
      simp [addReturns, item?, itemsFrom, Item.addReturns, Token.addReturns, hkind]
  | blockComment body =>
      simp [addReturns, item?, itemsFrom, lineFeeds, text, count_addReturns]
  | openString body | openComment body =>
      simp [addReturns, item?, itemsFrom, lineFeeds, text, count_addReturns, Item.addReturns]
  | _ => rfl

/-! ### A row of segments -/

/-- Behind a line comment comes the end of the text or a line feed. -/
theorem Tiling.eq_nil_or_newline {body : List Char} (h : Tiling (lineComment body :: ss)) :
    ss = [] ∨ ∃ ts, ss = blank '\n' :: ts := by
  obtain ⟨-, hends, hss⟩ := tiling_cons_iff.mp h
  have hcut := hss.segments_flatMap_text
  cases htext : ss.flatMap text with
  | nil =>
      rw [htext, segments_nil] at hcut
      exact .inl hcut.symm
  | cons c cs =>
      rw [htext] at hends hcut
      obtain rfl : c = '\n' := by simpa using hends c rfl
      rw [segments_newline] at hcut
      exact .inr ⟨_, hcut.symm⟩

theorem Tiling.flatMap_text_rowAddReturns (h : Tiling ss) :
    (rowAddReturns ss).flatMap text = Text.addReturns (ss.flatMap text) := by
  fun_induction rowAddReturns ss with
  | case1 => rfl
  | case2 body ss ih =>
      obtain ⟨hbody, -, hrest⟩ := tiling_cons_iff.mp h
      have hss := (tiling_cons_iff.mp hrest).2.2
      have hline := addReturns_of_not_mem hbody
      simp [text, Text.addReturns_append, hline, ih hss]
  | case3 s ss _ ih =>
      obtain ⟨hs, -, hss⟩ := tiling_cons_iff.mp h
      rw [List.flatMap_append, List.flatMap_cons, Text.addReturns_append,
        flatMap_text_addReturns hs, ih hss]

/-- **The new segments are a tiling.** -/
theorem Tiling.rowAddReturns (h : Tiling ss) : Tiling (rowAddReturns ss) := by
  fun_induction Segment.rowAddReturns ss with
  | case1 => exact .nil
  | case2 body ss ih =>
      obtain ⟨hbody, -, hrest⟩ := tiling_cons_iff.mp h
      have hss := (tiling_cons_iff.mp hrest).2.2
      refine .cons ?_ (beginsWithout_cons_iff.mpr rfl) (.cons rfl trivial (ih hss))
      intro hmem
      rcases List.mem_append.mp hmem with hmem | hmem
      · exact hbody hmem
      · cases List.mem_singleton.mp hmem
  | case3 s ss hother ih =>
      obtain ⟨hs, hends, hss⟩ := tiling_cons_iff.mp h
      refine Tiling.addReturns_append hs ?_ (ih hss)
      rw [hss.flatMap_text_rowAddReturns]
      refine endsBefore_addReturns hends ?_
      rintro body rfl
      rcases h.eq_nil_or_newline with rfl | ⟨ts, rfl⟩
      · rfl
      · exact (hother body ts rfl rfl).elim

theorem itemsFrom_rowAddReturns (line : Nat) (ss : List Segment) :
    itemsFrom line (rowAddReturns ss) = (itemsFrom line ss).map Item.addReturns := by
  fun_induction rowAddReturns ss generalizing line with
  | case1 => rfl
  | case2 body ss ih => simp [itemsFrom, item?, lineFeeds, text, ih]
  | case3 s ss _ ih => rw [itemsFrom_addReturns_append, ih, itemsFrom, List.map_append]

/-- The segments of the new text. -/
theorem segments_addReturns (cs : List Char) :
    segments (Text.addReturns cs) = rowAddReturns (segments cs) := by
  have ht := tiling_segments cs
  refine segments_eq_iff.mpr ⟨ht.rowAddReturns, ?_⟩
  rw [ht.flatMap_text_rowAddReturns, flatMap_text_segments]

end Segment

/-! ### The whole text -/

theorem items_addReturns_eq_map (source : String) :
    items (addReturns source) = (items source).map Item.addReturns := by
  rw [items, addReturns, String.toList_ofList, Segment.segments_addReturns,
    Segment.itemsFrom_rowAddReturns, items]

/-- Errors are the same, with the same lines. -/
theorem reportedErrors_addReturns (allErrors : Bool) (source : String) :
    reportedErrors allErrors (addReturns source) = reportedErrors allErrors source := by
  have herror : ∀ i : Item, i.addReturns.error? = i.error? := by
    intro i
    cases i <;> rfl
  simp only [reportedErrors_eq, items_addReturns_eq_map, List.filterMap_map, Function.comp_def,
    herror]

/-- A diagnostic quotes the same lines. -/
theorem render_addReturns {source : String} (h : '\r' ∉ source.toList) (coloured : Bool)
    (e : ScanError) :
    Diagnostic.render coloured ⟨e, some (addReturns source)⟩ =
      Diagnostic.render coloured ⟨e, some source⟩ := by
  have hlines : Text.lines (addReturns source).toList = Text.lines source.toList := by
    rw [addReturns, String.toList_ofList, Text.lines_addReturns h]
  simp only [Diagnostic.render, Diagnostic.styled, hlines]

/-- **Line ends may be written either way.**  With a carriage return in front of each line feed,
scanning finds the same items on the same lines, and only the strings among them hold the
carriage returns.  If there were no carriage returns before, the diagnostics are the same
texts. -/
theorem line_ending_independence (source : String) :
    items (addReturns source) = (items source).map Item.addReturns ∧
      ('\r' ∉ source.toList → ∀ coloured,
        diagnostics true coloured (addReturns source) = diagnostics true coloured source) := by
  refine ⟨items_addReturns_eq_map source, fun h coloured => ?_⟩
  rw [diagnostics, diagnostics, reportedErrors_addReturns]
  exact List.map_congr_left fun e _ => render_addReturns h coloured e

/-- A string over two lines, and a comment that is not closed before the last line feed. -/
theorem line_ending_of_open_comment :
    '\r' ∉ "\"a\nb\"//\n@/*\n".toList ∧
      diagnostics true false (addReturns "\"a\nb\"//\n@/*\n") =
        diagnostics true false "\"a\nb\"//\n@/*\n" := by
  have h : '\r' ∉ "\"a\nb\"//\n@/*\n".toList := by decide
  exact ⟨h, (line_ending_independence _).2 h false⟩

end LoxScan

import LoxScan.Proofs.DiagnosticLayout
import LoxScan.Proofs.ExtraSwitch
import LoxScan.Proofs.Script
import LoxScan.Text.StyleSequence

/-! # Colours only decorate

A terminal reads a text as a row of marks, characters and style sequences.  A span that brings
no escape character of its own, and goes over no line end if it is styled, is **tame**
(`Span.IsTame`): then the only sequences in it are those that its style puts around it.  Without
its sequences such a span is its text, and its style is off again where it ends.  Both carry over
to whole texts of tame spans (`Styled.withoutSequences_render_true`,
`Styled.closesStyles_render`), whatever brackets, digits and letters stand in them, since only an
escape character can begin a sequence.

The spans of a diagnostic are tame if neither its error nor its source holds an escape character:
its styled parts are a word and numbers (`Diagnostic.isTame_styled`).  An error that is reported
has its character from the source, so for the diagnostics of a run the source alone has to be
looked at (`isTame_styledDiagnostics`). -/

namespace LoxScan

open Text

/-! ### Marks of styled texts -/

/-- The marks of a span that is shown in its style. -/
def Span.marks (s : Span) : List Mark :=
  match s.style? with
  | some style =>
      style.parameters.map .sequence ++ s.text.map .character ++ [.sequence ['0']]
  | none => s.text.map .character

theorem marks_escapeSequence_append {parameters : List Char}
    (h : ∀ c ∈ parameters, isParameter c = true) (rest : List Char) :
    marks (Style.escapeSequence parameters ++ rest) = .sequence parameters :: marks rest := by
  rw [← marks_sequence_append h rest, Style.escapeSequence]
  simp

theorem Style.isParameter_of_mem (style : Style) :
    ∀ parameters ∈ style.parameters, ∀ c ∈ parameters, isParameter c = true := by
  cases style <;> simp [Style.parameters] <;> decide

theorem marks_flatMap_escapeSequence_append {rows : List (List Char)}
    (h : ∀ row ∈ rows, ∀ c ∈ row, isParameter c = true) (rest : List Char) :
    marks (rows.flatMap Style.escapeSequence ++ rest) = rows.map .sequence ++ marks rest := by
  induction rows with
  | nil => rfl
  | cons row rows ih =>
      obtain ⟨hrow, hrows⟩ := List.forall_mem_cons.mp h
      rw [List.flatMap_cons, List.append_assoc, marks_escapeSequence_append hrow, ih hrows]
      rfl

/-- A span without escape characters of its own has the marks that its style gives it. -/
theorem Span.marks_render_append {s : Span} (h : '\x1b' ∉ s.text) (rest : List Char) :
    Text.marks (s.render true ++ rest) = s.marks ++ Text.marks rest := by
  obtain ⟨style?, text⟩ := s
  cases style? with
  | none => exact marks_append_of_not_mem h rest
  | some style =>
      have hreset : Text.marks (Style.escapeSequence ['0'] ++ rest) =
          .sequence ['0'] :: Text.marks rest :=
        marks_escapeSequence_append (List.forall_mem_singleton.mpr rfl) rest
      simp only [Span.render, Span.marks, if_true, Style.opening, Style.reset, List.append_assoc,
        marks_flatMap_escapeSequence_append style.isParameter_of_mem, marks_append_of_not_mem h,
        hreset, List.singleton_append]

/-- Without its sequences a span is its text. -/
theorem Span.filterMap_character?_marks (s : Span) :
    s.marks.filterMap Mark.character? = s.text := by
  have htext (cs : List Char) : (cs.map Mark.character).filterMap Mark.character? = cs := by
    rw [List.filterMap_map]
    exact List.filterMap_some
  have hsequences (rows : List (List Char)) :
      (rows.map Mark.sequence).filterMap Mark.character? = [] := by
    rw [List.filterMap_map]
    exact List.filterMap_none rows
  obtain ⟨style?, text⟩ := s
  cases style? with
  | none => exact htext text
  | some style =>
      rw [Span.marks, List.filterMap_append, List.filterMap_append, hsequences, htext]
      exact List.append_nil _

/-- A styled span without line feeds closes its style, and so does a plain one, with any text. -/
theorem Span.closesStyles_marks {s : Span} (h : s.style? ≠ none → '\n' ∉ s.text) :
    ClosesStyles s.marks := by
  obtain ⟨style?, text⟩ := s
  cases style? with
  | none => exact closesStyles_map_character text
  | some style =>
      have htext : '\n' ∉ text := h (by simp)
      refine closesStyles_of_not_mem (by simp [Span.marks, htext]) ?_
      rw [Span.marks, stylesOn_append]
      rfl

/-- A span that brings no escape character of its own, and goes over no line end if it is
styled. -/
structure Span.IsTame (s : Span) : Prop where
  escape_not_mem : '\x1b' ∉ s.text
  newline_not_mem : s.style? ≠ none → '\n' ∉ s.text

namespace Styled

variable {spans : Styled}

theorem marks_render (h : ∀ s ∈ spans, s.IsTame) :
    Text.marks (spans.render true) = spans.flatMap Span.marks := by
  induction spans with
  | nil => exact marks_nil
  | cons s spans ih =>
      obtain ⟨hs, hspans⟩ := List.forall_mem_cons.mp h
      rw [render_cons, Span.marks_render_append hs.escape_not_mem, ih hspans]
      rfl

/-- **Without its sequences a text with styles is the one without.** -/
theorem withoutSequences_render_true (h : ∀ s ∈ spans, s.IsTame) :
    withoutSequences (spans.render true) = spans.render false := by
  rw [withoutSequences, marks_render h, render_false, List.filterMap_flatMap,
    funext Span.filterMap_character?_marks]

/-- A text that is shown without styles has no sequences to lose. -/
theorem withoutSequences_render_false (h : ∀ s ∈ spans, s.IsTame) :
    withoutSequences (spans.render false) = spans.render false := by
  have hmem : '\x1b' ∉ spans.render false := by
    rw [render_false, List.mem_flatMap]
    rintro ⟨s, hs, hescape⟩
    exact (h s hs).escape_not_mem hescape
  have hmarks := marks_append_of_not_mem hmem []
  rw [List.append_nil, marks_nil, List.append_nil] at hmarks
  rw [withoutSequences, hmarks, List.filterMap_map]
  exact List.filterMap_some

/-- **No style goes over a line end.** -/
theorem closesStyles_render (h : ∀ s ∈ spans, s.IsTame) :
    ClosesStyles (Text.marks (spans.render true)) := by
  rw [marks_render h]
  induction spans with
  | nil => exact closesStyles_nil
  | cons s spans ih =>
      obtain ⟨hs, hspans⟩ := List.forall_mem_cons.mp h
      exact (Span.closesStyles_marks hs.newline_not_mem).append (ih hspans)

end Styled

/-! ### Diagnostics -/

namespace Diagnostic

theorem isTame_plain {cs : List Char} (h : '\x1b' ∉ cs) : (Span.plain cs).IsTame :=
  ⟨h, fun hstyle => absurd rfl hstyle⟩

/-- In the message of an error stand its character and words of the program. -/
theorem escape_not_mem_message {cause : ScanError.Cause}
    (h : cause ≠ .unexpectedCharacter '\x1b') : '\x1b' ∉ cause.message.toList := by
  cases cause with
  | unexpectedCharacter c =>
      have hc : '\x1b' ≠ c := by
        rintro rfl
        exact h rfl
      unfold ScanError.Cause.message
      simp [hc]
  | unterminatedString | unterminatedBlockComment => decide

theorem isTame_header {e : ScanError} (h : e.cause ≠ .unexpectedCharacter '\x1b') :
    ∀ s ∈ header e, s.IsTame := by
  have hline : '\x1b' ∉ Nat.toDigits 10 e.line := not_mem_toDigits rfl e.line
  have hmessage : '\x1b' ∉ e.message.toList := escape_not_mem_message h
  simp only [header, List.forall_mem_cons]
  refine ⟨isTame_plain ?_, ⟨by decide, fun _ => by decide⟩, isTame_plain ?_, by simp⟩
  · simp [Nat.toList_repr, hline]
  · simp [hmessage]

theorem isTame_quotation {quoted : Nat × List Char} (h : '\x1b' ∉ quoted.2) (number : Nat) :
    ∀ s ∈ quotation number quoted, s.IsTame := by
  have hgutter {c : Char} (hspace : c ≠ ' ') (hdigit : c.isDigit = false) :
      c ∉ (gutter number quoted.1).text := not_mem_inColumns hspace hdigit _ _
  simp only [quotation, List.forall_mem_cons]
  refine ⟨isTame_plain (by decide), ⟨?_, fun _ => ?_⟩, isTame_plain (by decide), isTame_plain ?_,
    by simp⟩
  · exact hgutter (by decide) rfl
  · exact hgutter (by decide) rfl
  · simp [h]

/-- Every line of the excerpt is one of the lines. -/
theorem mem_of_mem_excerpt {lines : List (List Char)} {number : Nat} {quoted : Nat × List Char}
    (h : quoted ∈ excerpt lines number) : quoted.2 ∈ lines := by
  unfold excerpt at h
  split at h
  · cases h
  · obtain ⟨n, -, hn⟩ := List.mem_filterMap.mp h
    obtain ⟨line, hline, rfl⟩ := Option.map_eq_some_iff.mp hn
    exact List.mem_of_getElem? (lineAt?_eq_some_iff.mp hline).2

/-- **A diagnostic brings no escape characters of its own** if neither its error nor its source
does. -/
theorem isTame_styled {d : Diagnostic} (hcause : d.error.cause ≠ .unexpectedCharacter '\x1b')
    (hsource : ∀ source, d.source? = some source → '\x1b' ∉ source.toList) :
    ∀ s ∈ d.styled, s.IsTame := by
  rw [styled, List.forall_mem_append]
  refine ⟨isTame_header hcause, fun s hs => ?_⟩
  obtain ⟨quoted, hquoted, hs⟩ := List.mem_flatMap.mp hs
  refine isTame_quotation (fun hmem => ?_) _ s hs
  cases h : d.source? with
  | none =>
      rw [h] at hquoted
      cases hquoted
  | some source =>
      rw [h] at hquoted
      exact hsource source h (mem_of_mem_lines (mem_of_mem_excerpt hquoted) hmem)

end Diagnostic

/-! ### All diagnostics of a run -/

variable {source : String} {settings : Settings}

/-- A character that is reported stands in the text. -/
theorem mem_of_unexpected {e : ScanError} {c : Char} (h : .error e ∈ items source)
    (hcause : e.cause = .unexpectedCharacter c) : c ∈ source.toList := by
  rcases exists_place_of_error h with ⟨before, d, after, hsource, rfl, -⟩ | ⟨hopen, -⟩
  · cases hcause
    exact hsource ▸ List.mem_append_right before List.mem_cons_self
  · rcases hopen with hopen | hopen <;> rw [hopen] at hcause <;> cases hcause

/-- The spans of all diagnostics for a text. -/
def styledDiagnostics (allErrors : Bool) (source : String) : Styled :=
  (reportedErrors allErrors source).flatMap fun e => Diagnostic.styled ⟨e, some source⟩

theorem toList_join_diagnostics (allErrors coloured : Bool) (source : String) :
    (String.join (diagnostics allErrors coloured source)).toList =
      (styledDiagnostics allErrors source).render coloured := by
  rw [diagnostics, styledDiagnostics]
  induction reportedErrors allErrors source with
  | nil => rfl
  | cons e errors ih =>
      rw [List.map_cons, String.join_cons, String.toList_append, ih, List.flatMap_cons,
        Styled.render_append, Diagnostic.render, String.toList_ofList]

/-- With a quiet log a run on a text shows its diagnostics. -/
theorem stderr_run_of_isQuiet {words : List String} {env : Environment} {path : String}
    {read : String → Except ReadError (List UInt8)}
    (hwords : Invocation.ofWords words env = .ok (.scan settings [path]))
    (hquiet : settings.threshold.isQuiet = true)
    (hread : (read path >>= ReadError.decode) = .ok source) (input : List UInt8) (time : String) :
    (run words env read input time).stderr =
      String.join (diagnostics settings.allErrors settings.colouredDiagnostics source) := by
  rw [run_eq_transcript hwords]
  exact stderr_ofScript_of_isQuiet hquiet hread path time

theorem isTame_styledDiagnostics (h : '\x1b' ∉ source.toList) (allErrors : Bool) :
    ∀ s ∈ styledDiagnostics allErrors source, s.IsTame := by
  intro s hs
  obtain ⟨e, he, hs⟩ := List.mem_flatMap.mp hs
  refine Diagnostic.isTame_styled (fun hcause => ?_) ?_ s hs
  · exact h (mem_of_unexpected (error_mem_items_of_mem_reportedErrors he) hcause)
  · rintro _ ⟨⟩
    exact h

/-- **Colours only decorate.**  Let neither an error nor the source it is shown with hold an
escape character.  Then the coloured diagnostic without its style sequences is the plain one, and
in it every style is off where a line ends.

So a run on a script without escape characters, with a quiet log and colours forced, writes the
diagnostics in colour, if nothing in its environment is against colours, and without the style
sequences what it writes is what the same run with the switch against colours writes, wherever
among the words this switch stands. -/
theorem styles_only_decorate :
    (∀ d : Diagnostic, d.error.cause ≠ .unexpectedCharacter '\x1b' →
      (∀ source, d.source? = some source → '\x1b' ∉ source.toList) →
        withoutSequences (d.render true).toList = (d.render false).toList ∧
        ClosesStyles (marks (d.render true).toList)) ∧
    ∀ {before after : List String} {env : Environment} {settings : Settings} {path : String}
      {read : String → Except ReadError (List UInt8)} {source : String},
      Invocation.ofWords (before ++ after) env = .ok (.scan settings [path]) →
      "--" ∉ before → .flag (.switch .noColor) ∉ Argument.ofWords (before ++ after) →
      env.value? "CLICOLOR_FORCE" = some "1" → settings.threshold.isQuiet = true →
      (read path >>= ReadError.decode) = .ok source → '\x1b' ∉ source.toList →
      ∀ (input : List UInt8) (time time' : String),
        (env.value? "LOX_NO_COLOR" ≠ some "true" →
          (run (before ++ after) env read input time).stderr =
            String.join (diagnostics settings.allErrors true source)) ∧
        withoutSequences (run (before ++ after) env read input time).stderr.toList =
          (run (before ++ "--no-color" :: after) env read input time').stderr.toList := by
  refine ⟨fun d hcause hsource => ?_, ?_⟩
  · have htame := Diagnostic.isTame_styled hcause hsource
    rw [Diagnostic.render, Diagnostic.render, String.toList_ofList, String.toList_ofList]
    exact ⟨Styled.withoutSequences_render_true htame, Styled.closesStyles_render htame⟩
  · intro before after env settings path read source hwords hdash hnew hforce hquiet hread hescape
      input time time'
    have htame := isTame_styledDiagnostics hescape settings.allErrors
    have hplain := Invocation.ofWords_insert_noColor hwords hdash hnew
    have hstderr := stderr_run_of_isQuiet hwords hquiet hread input time
    have hstderr' := stderr_run_of_isQuiet hplain hquiet hread input time'
    refine ⟨fun hset => ?_, ?_⟩
    · rw [hstderr, Invocation.colouredDiagnostics_eq hwords hnew hset, Settings.forcesColour,
        hforce]
      rfl
    · rw [hstderr, hstderr', toList_join_diagnostics, toList_join_diagnostics]
      cases settings.colouredDiagnostics with
      | true => exact Styled.withoutSequences_render_true htame
      | false => exact Styled.withoutSequences_render_false htame

/-- A diagnostic with a source, and a run with two of them, one on a line of brackets, digits and
the letter `m`. -/
theorem styles_decorate_three_diagnostics :
    withoutSequences (Diagnostic.render true ⟨⟨1, .unterminatedString⟩, some "\"[0m"⟩).toList =
        (Diagnostic.render false ⟨⟨1, .unterminatedString⟩, some "\"[0m"⟩).toList ∧
      withoutSequences (run (["--all-errors"] ++ ["s"])
          ⟨[("CLICOLOR_FORCE", "1"), ("RUST_LOG", "off")]⟩
          (fun _ => .ok [91, 51, 49, 109, 10, 64]) [] "1").stderr.toList =
        (run (["--all-errors"] ++ "--no-color" :: ["s"])
          ⟨[("CLICOLOR_FORCE", "1"), ("RUST_LOG", "off")]⟩
          (fun _ => .ok [91, 51, 49, 109, 10, 64]) [] "2").stderr.toList := by
  have hsource (source : String) (h : some "\"[0m" = some source) : '\x1b' ∉ source.toList := by
    cases h
    decide
  have hwords : Invocation.ofWords (["--all-errors"] ++ ["s"])
      ⟨[("CLICOLOR_FORCE", "1"), ("RUST_LOG", "off")]⟩ =
        .ok (.scan ⟨true, none, true, true⟩ ["s"]) := rfl
  have hread : ((fun _ => .ok [91, 51, 49, 109, 10, 64] : String → Except ReadError (List UInt8))
      "s" >>= ReadError.decode) = .ok "[31m\n@" := by decide +kernel
  exact ⟨(styles_only_decorate.1 ⟨⟨1, .unterminatedString⟩, some "\"[0m"⟩ nofun hsource).1,
    (styles_only_decorate.2 hwords (by decide) (by decide) rfl rfl hread (by decide) [] "1" "2").2⟩

end LoxScan

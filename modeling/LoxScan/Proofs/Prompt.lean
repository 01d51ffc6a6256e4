import LoxScan.Cli.Run
import LoxScan.Proofs.ByteLines
import LoxScan.Proofs.ItemLine
import LoxScan.Proofs.Reporting

/-! # Sessions at the prompt

A session answers its lines one after the other.  A malformed line gets diagnostics instead
of tokens and the next line is asked for all the same; only bytes that are no text end the
session.  So a caller sees the answers to all lines in front of the first one that is no
text, and then either the end of the input or the complaint about that line.

`SessionShows` says what the caller sees of a session by the lines that were read.  It is
carried over the lines from the last one to the first: `sessionShows_end` and
`sessionShows_unreadable` are the two ways in which a session ends, `SessionShows.cons` puts a
line in front, and `sessionShows_of_lines` is the whole session. -/

namespace LoxScan

/-- What was typed on a line: the line without its end. -/
def typed (line : String) : String := String.ofList (Text.trimLineEnd line.toList)

/-- The text is the line without its end: only line feeds and carriage returns stand behind it,
and it ends with neither. -/
structure IsTyped (line text : String) : Prop where
  exists_end : ∃ ends, line.toList = text.toList ++ ends ∧ ∀ c ∈ ends, c = '\n' ∨ c = '\r'
  ends_with_neither : ∀ c, text.toList.getLast? = some c → c ≠ '\n' ∧ c ≠ '\r'

/-- What is printed about a line: the sign that asks for it and the tokens on it. -/
def promptBlock (line : String) : String := "> " ++ printedTokens (typed line)

/-- What is shown about the errors on a line. -/
def lineDiagnostics (settings : Settings) (line : String) : String :=
  String.join (diagnostics settings.allErrors settings.colouredDiagnostics (typed line))

/-- The caller sees a session in which these lines were read.  The session ended with the code,
`last` is printed at its end, and `complaint` is written at its end. -/
structure SessionShows (settings : Settings) (read : List String) (code : Nat)
    (last complaint : String) (seen : Transcript) : Prop where
  code_eq : seen.code.toNat = code
  stdout_eq : seen.stdout = String.join (read.map promptBlock) ++ last
  isTyped : ∀ line ∈ read, IsTyped line (typed line)
  /-- Every line is the first line of its own text. -/
  line_eq_one : ∀ line ∈ read, ∀ tokens, scan (typed line) = .ok tokens → ∀ t ∈ tokens, t.line = 1
  stderr_eq : settings.threshold.isQuiet = true →
    seen.stderr = String.join (read.map (lineDiagnostics settings)) ++ complaint

variable {settings : Settings} {time : String}

/-! ### Readings of a list -/

section

variable {α β : Type} {f : α → Option β} {as : List α} {bs : List β}

theorem isSome_of_map_eq (h : as.map f = bs.map some) : ∀ a ∈ as, (f a).isSome := by
  intro a ha
  have hmem : f a ∈ bs.map some := h ▸ List.mem_map_of_mem ha
  obtain ⟨b, -, hb⟩ := List.mem_map.mp hmem
  rw [← hb]
  rfl

theorem exists_eq_none_of_map_eq {os : List (Option β)} (h : as.map f = bs.map some ++ none :: os) :
    ∃ a ∈ as, f a = none := by
  have hmem : none ∈ as.map f := by
    rw [h]
    exact List.mem_append_right _ List.mem_cons_self
  exact List.mem_map.mp hmem

end

/-! ### One line -/

/-- **What was typed is the line without its end**, and nothing else is. -/
theorem isTyped_iff {line text : String} : IsTyped line text ↔ text = typed line := by
  rw [← String.toList_inj, typed, String.toList_ofList, Text.eq_trimLineEnd_iff]
  exact ⟨fun h => ⟨h.exists_end, h.ends_with_neither⟩, fun h => ⟨h.1, h.2⟩⟩

/-- In a text without line feeds everything stands on line one. -/
theorem line_eq_one_of_scan {source : String} (h : '\n' ∉ source.toList) {tokens : List Token}
    (hscan : scan source = .ok tokens) {t : Token} (ht : t ∈ tokens) : t.line = 1 := by
  have hi : Item.token t ∈ items source := by
    rw [scan_eq_ok_iff.mp hscan]
    exact List.mem_map_of_mem ht
  obtain ⟨hlow, hhigh⟩ := line_bounds_of_mem_items hi
  rw [List.count_eq_zero.mpr h] at hhigh
  exact Nat.le_antisymm hhigh hlow

/-- No line feed was typed on a line of the input. -/
theorem newline_not_mem_typed {input bytes : List UInt8} {line : String}
    (hbytes : bytes ∈ Text.cutAfter (· == 10) input) (htext : Text.ofUtf8? bytes = some line) :
    '\n' ∉ (typed line).toList := by
  rw [typed, String.toList_ofList]
  exact Text.newline_not_mem_trimLineEnd (Text.newline_not_mem_dropLast_of_cutAfter hbytes htext)

/-- A line is answered with its tokens. -/
theorem printed_ofPromptLine (allErrors : Bool) (line : String) :
    (Outcome.ofPromptLine allErrors line).printed = printedTokens (typed line) :=
  printed_ofSource allErrors (typed line)

/-- That a line is rejected is only logged, so with a quiet log its diagnostics are all that
is shown about it. -/
theorem renderAll_ofPromptLine_of_isQuiet (h : settings.threshold.isQuiet = true) (line : String) :
    Notice.renderAll settings time (Outcome.ofPromptLine settings.allErrors line).notices =
      lineDiagnostics settings line := by
  have hrejection (failures : List Failure) :
      Notice.renderAll settings time (failures.map fun f => .event (.lineRejected f)) = "" := by
    have hevents := renderAll_events_of_isQuiet h time (failures.map .lineRejected)
    rwa [List.map_map] at hevents
  rw [Outcome.ofPromptLine, renderAll_append, hrejection, String.append_empty]
  exact renderAll_notices_of_isQuiet h time settings.allErrors (typed line)

/-! ### A session -/

/-- The answer to a line that is text is joined with the rest of the session. -/
theorem ofPromptLines_of_text (allErrors : Bool) {bytes : List UInt8} {line : String}
    (htext : Text.ofUtf8? bytes = some line) (later : List (List UInt8)) :
    Outcome.ofPromptLines allErrors (bytes :: later) =
      ⟨(Outcome.ofPromptLines allErrors later).code,
        "> " ++ (Outcome.ofPromptLine allErrors line).printed ++
          (Outcome.ofPromptLines allErrors later).printed,
        (Outcome.ofPromptLine allErrors line).notices ++
          (Outcome.ofPromptLines allErrors later).notices⟩ := by
  have hdecode : ReadError.decode bytes = .ok line := by rw [ReadError.decode, htext]
  rw [Outcome.ofPromptLines, hdecode]
  rfl

/-- At the end of the input the last sign gets a line feed. -/
theorem sessionShows_end : SessionShows settings [] 0 "> \n" ""
    ((Outcome.ofPromptLines settings.allErrors []).transcript settings time) where
  code_eq := rfl
  stdout_eq := rfl
  isTyped := fun _ h => absurd h List.not_mem_nil
  line_eq_one := fun _ h => absurd h List.not_mem_nil
  stderr_eq := fun _ => rfl

/-- A line that is no text ends the session, whatever comes behind it. -/
theorem sessionShows_unreadable {bytes : List UInt8} (h : Text.ofUtf8? bytes = none)
    (later : List (List UInt8)) :
    SessionShows settings [] 74 "> "
      "Error reading input: stream did not contain valid UTF-8\n"
      ((Outcome.ofPromptLines settings.allErrors (bytes :: later)).transcript settings time) := by
  have hdecode : ReadError.decode bytes = .error .notText := by rw [ReadError.decode, h]
  rw [Outcome.ofPromptLines, hdecode]
  exact {
    code_eq := rfl
    stdout_eq := rfl
    isTyped := fun _ h => absurd h List.not_mem_nil
    line_eq_one := fun _ h => absurd h List.not_mem_nil
    stderr_eq := fun _ => rfl }

/-- **A line that is text is answered and the session goes on**, whether the line is well
formed or not. -/
theorem SessionShows.cons {read : List String} {code : Nat} {last complaint : String}
    {bytes : List UInt8} {later : List (List UInt8)} {line : String}
    (htext : Text.ofUtf8? bytes = some line) (hline : '\n' ∉ (typed line).toList)
    (hlater : SessionShows settings read code last complaint
      ((Outcome.ofPromptLines settings.allErrors later).transcript settings time)) :
    SessionShows settings (line :: read) code last complaint
      ((Outcome.ofPromptLines settings.allErrors (bytes :: later)).transcript settings time) := by
  obtain ⟨hcode, hstdout, -, hone, hstderr⟩ := hlater
  rw [ofPromptLines_of_text settings.allErrors htext later]
  simp only [Outcome.code_transcript, Outcome.stdout_transcript, Outcome.stderr_transcript]
    at hcode hstdout hstderr
  refine ⟨hcode, ?_, fun _ _ => isTyped_iff.mpr rfl, ?_, ?_⟩
  · rw [Outcome.stdout_transcript, List.map_cons, String.join_cons, promptBlock]
    simp only [printed_ofPromptLine, hstdout, String.append_assoc]
  · intro l hl tokens hscan t ht
    rcases List.mem_cons.mp hl with rfl | hl
    · exact line_eq_one_of_scan hline hscan ht
    · exact hone l hl tokens hscan t ht
  · intro hquiet
    rw [Outcome.stderr_transcript, renderAll_append, renderAll_ofPromptLine_of_isQuiet hquiet,
      hstderr hquiet, List.map_cons, String.join_cons, String.append_assoc]

/-- **A session reads its lines up to the first one that is no text**, if there is one, and
otherwise all of them. -/
theorem sessionShows_of_lines {lines : List (List UInt8)}
    (h : ∀ bytes ∈ lines, ∀ line, Text.ofUtf8? bytes = some line → '\n' ∉ (typed line).toList) :
    (∃ read, lines.map Text.ofUtf8? = read.map some ∧
      SessionShows settings read 0 "> \n" ""
        ((Outcome.ofPromptLines settings.allErrors lines).transcript settings time)) ∨
    (∃ read later, lines.map Text.ofUtf8? = read.map some ++ none :: later ∧
      SessionShows settings read 74 "> "
        "Error reading input: stream did not contain valid UTF-8\n"
        ((Outcome.ofPromptLines settings.allErrors lines).transcript settings time)) := by
  -- From the last line to the first: a line that is no text makes the rest of no account, and
  -- any other is put in front of whatever the rest comes to.
  induction lines with
  | nil => exact .inl ⟨[], rfl, sessionShows_end⟩
  | cons bytes lines ih =>
      obtain ⟨hbytes, hlines⟩ := List.forall_mem_cons.mp h
      cases htext : Text.ofUtf8? bytes with
      | none =>
          refine .inr ⟨[], lines.map Text.ofUtf8?, ?_, sessionShows_unreadable htext lines⟩
          rw [List.map_cons, htext]
          rfl
      | some line =>
          have hline := hbytes line htext
          rcases ih hlines with ⟨read, hread, hshows⟩ | ⟨read, later, hread, hshows⟩
          · refine .inl ⟨line :: read, ?_, hshows.cons htext hline⟩
            rw [List.map_cons, htext, hread]
            rfl
          · refine .inr ⟨line :: read, later, ?_, hshows.cons htext hline⟩
            rw [List.map_cons, htext, hread]
            rfl

/-- **The prompt survives every error of scanning and stops at bytes that are no text.**  The
input is cut after each line feed.  All its lines are texts exactly if the whole input is
one, and then every line is answered and the run succeeds; otherwise the lines in front of
the first one that is no text are answered, and the run fails. -/
theorem prompt_session {words : List String} {env : Environment} {settings : Settings}
    (hwords : Invocation.ofWords words env = .ok (.scan settings []))
    (read : String → Except ReadError (List UInt8)) (input : List UInt8) (time : String) :
    ((∀ bytes ∈ Text.cutAfter (· == 10) input, (Text.ofUtf8? bytes).isSome) ↔
      (Text.ofUtf8? input).isSome) ∧
    ((Text.ofUtf8? input).isSome →
      ∃ lines, (Text.cutAfter (· == 10) input).map Text.ofUtf8? = lines.map some ∧
        SessionShows settings lines 0 "> \n" "" (run words env read input time)) ∧
    (Text.ofUtf8? input = none →
      ∃ lines later,
        (Text.cutAfter (· == 10) input).map Text.ofUtf8? = lines.map some ++ none :: later ∧
        SessionShows settings lines 74 "> "
          "Error reading input: stream did not contain valid UTF-8\n"
          (run words env read input time)) := by
  have hrun : run words env read input time =
      (Outcome.ofPromptLines settings.allErrors
        (Text.cutAfter (· == 10) input)).transcript settings time := by
    rw [run, hwords]
    rfl
  rw [hrun]
  have htexts : (Text.ofUtf8? input).isSome ↔
      ∀ bytes ∈ Text.cutAfter (· == 10) input, (Text.ofUtf8? bytes).isSome :=
    Text.isSome_ofUtf8?_iff_cutAfter
  have hlines : ∀ bytes ∈ Text.cutAfter (· == 10) input, ∀ line,
      Text.ofUtf8? bytes = some line → '\n' ∉ (typed line).toList :=
    fun bytes hbytes line htext => newline_not_mem_typed hbytes htext
  refine ⟨htexts.symm, ?_, ?_⟩
  · intro htext
    rcases sessionShows_of_lines hlines with h | ⟨lines, later, hread, -⟩
    · exact h
    · obtain ⟨bytes, hbytes, hno⟩ := exists_eq_none_of_map_eq hread
      have hyes := htexts.mp htext bytes hbytes
      rw [hno] at hyes
      cases hyes
  · intro hno
    rcases sessionShows_of_lines hlines with ⟨lines, hread, -⟩ | h
    · have hyes := htexts.mpr (isSome_of_map_eq hread)
      rw [hno] at hyes
      cases hyes
    · exact h

/-- A line that is well formed, one with an error, one that is no text, and one that is never
read. -/
theorem prompt_session_broken_off :
    Invocation.ofWords [] ⟨[]⟩ = .ok (.scan ⟨false, some .warn, true, false⟩ []) ∧
      Text.ofUtf8? [49, 10, 64, 13, 10, 255, 10, 50] = none ∧
      ∃ lines later,
        [some "1\n", some "@\r\n", none, some "2"] = lines.map some ++ none :: later ∧
        SessionShows ⟨false, some .warn, true, false⟩ lines 74 "> "
          "Error reading input: stream did not contain valid UTF-8\n"
          (run [] ⟨[]⟩ (fun _ => .error .notFound) [49, 10, 64, 13, 10, 255, 10, 50] "") := by
  have hwords : Invocation.ofWords [] ⟨[]⟩ = .ok (.scan ⟨false, some .warn, true, false⟩ []) := rfl
  have hno : Text.ofUtf8? [49, 10, 64, 13, 10, 255, 10, 50] = none := by decide +kernel
  obtain ⟨-, -, hsession⟩ :=
    prompt_session hwords (fun _ => .error .notFound) [49, 10, 64, 13, 10, 255, 10, 50] ""
  have hlines : (Text.cutAfter (· == 10) [49, 10, 64, 13, 10, 255, 10, 50]).map Text.ofUtf8? =
      [some "1\n", some "@\r\n", none, some "2"] := by decide +kernel
  rw [← hlines]
  exact ⟨hwords, hno, hsession hno⟩

end LoxScan

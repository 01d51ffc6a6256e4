import LoxScan.Proofs.Prompt
import LoxScan.Proofs.Script

/-! # Settings and results

The settings of a run say what is logged, what is coloured and how many errors are reported.
None of this touches the result: the exit code and what is printed follow from the scripts, the
files and the input alone (`settings_do_not_change_results`).

For logs and colours that is plain, as they only matter where notices are shown.  The number of
reported errors is another matter, as a run that reports all of them goes through the text in
another way.  But both ways find the same tokens, and errors in the same texts, so a script has
the same result either way (`result_ofScript`), and so has a session, line by line
(`result_ofPromptLines`). -/

namespace LoxScan

/-- The result of a run: what it comes to, without the notices. -/
def Outcome.result (o : Outcome) : ExitCode × String := (o.code, o.printed)

variable {settings : Settings} {source : String}

/-! ### Both ways through a text -/

/-- Errors are reported of a text or not, however many. -/
theorem isEmpty_reportedErrors_eq (a b : Bool) (source : String) :
    (reportedErrors a source).isEmpty = (reportedErrors b source).isEmpty := by
  cases hscan : scan source with
  | ok ts => rw [reportedErrors_of_scan_ok hscan, reportedErrors_of_scan_ok hscan]
  | error e =>
      obtain ⟨later, ha⟩ := exists_reportedErrors_eq_cons hscan a
      obtain ⟨later', hb⟩ := exists_reportedErrors_eq_cons hscan b
      rw [ha, hb]
      rfl

/-- The diagnostics of a run that reports one error come first in one that reports all. -/
theorem exists_join_diagnostics_eq_append (coloured : Bool) (source : String) :
    ∃ more, String.join (diagnostics true coloured source) =
      String.join (diagnostics false coloured source) ++ more := by
  obtain ⟨later, hlater⟩ := exists_reportedErrors_eq_append source
  refine ⟨String.join (later.map fun e => Diagnostic.render coloured ⟨e, some source⟩), ?_⟩
  rw [diagnostics, diagnostics, hlater, List.map_append, String.join_append]

/-! ### Results -/

/-- **A script has the same result**, whether one error is reported or all. -/
theorem result_ofScript (a b : Bool) (path : String) (found : Except ReadError (List UInt8)) :
    (Outcome.ofScript a path found).result = (Outcome.ofScript b path found).result := by
  cases hfound : found >>= ReadError.decode with
  | error e => rw [Outcome.ofScript_of_error a path hfound, Outcome.ofScript_of_error b path hfound]
  | ok source =>
      rw [Outcome.ofScript_of_ok a path hfound, Outcome.ofScript_of_ok b path hfound,
        isEmpty_reportedErrors_eq a b]
      rfl

/-- A line that is answered adds the same to the results of a session. -/
theorem result_ofPromptLines_cons {a b : Bool} {lines : List (List UInt8)}
    (h : (Outcome.ofPromptLines a lines).result = (Outcome.ofPromptLines b lines).result)
    (line : List UInt8) :
    (Outcome.ofPromptLines a (line :: lines)).result =
      (Outcome.ofPromptLines b (line :: lines)).result := by
  obtain ⟨hcode, hprinted⟩ := Prod.mk.inj h
  cases htext : Text.ofUtf8? line with
  | none =>
      have hdecode : ReadError.decode line = .error .notText := by rw [ReadError.decode, htext]
      rw [Outcome.ofPromptLines, Outcome.ofPromptLines, hdecode]
  | some text =>
      rw [ofPromptLines_of_text a htext, ofPromptLines_of_text b htext]
      simp only [Outcome.result, printed_ofPromptLine, hcode, hprinted]

/-- **A session has the same result**, whether one error on a line is reported or all. -/
theorem result_ofPromptLines (a b : Bool) (lines : List (List UInt8)) :
    (Outcome.ofPromptLines a lines).result = (Outcome.ofPromptLines b lines).result := by
  induction lines with
  | nil => rfl
  | cons line lines ih => exact result_ofPromptLines_cons ih line

theorem result_ofScripts (a b : Bool) (scripts : List String)
    (read : String → Except ReadError (List UInt8)) (input : List UInt8) :
    (Outcome.ofScripts a scripts read input).result =
      (Outcome.ofScripts b scripts read input).result := by
  match scripts with
  | [] => exact result_ofPromptLines a b _
  | [path] => exact result_ofScript a b path (read path)
  | _ :: _ :: _ => rfl

/-! ### What is shown about a script -/

/-- **With a quiet log a run that reports all errors goes on where one that reports one error
stops.** -/
theorem exists_stderr_ofScript_eq_append (hquiet : settings.threshold.isQuiet = true)
    (hall : settings.allErrors = false) (path : String)
    (found : Except ReadError (List UInt8)) (time time' : String) :
    ∃ more,
      ((Outcome.ofScript true path found).transcript { settings with allErrors := true }
        time').stderr =
      ((Outcome.ofScript false path found).transcript settings time).stderr ++ more := by
  cases hfound : found >>= ReadError.decode with
  | error e =>
      rw [Outcome.ofScript_of_error true path hfound, Outcome.ofScript_of_error false path hfound]
      refine ⟨"", ?_⟩
      rw [Outcome.stderr_transcript, Outcome.stderr_transcript, String.append_empty,
        renderAll_event_cons_of_isQuiet hquiet, renderAll_message]
      exact (renderAll_event_cons_of_isQuiet hquiet time' _ _).trans (renderAll_message _ _ _)
  | ok source =>
      have hquiet' : Threshold.isQuiet { settings with allErrors := true }.threshold = true :=
        hquiet
      have hone := stderr_ofScript_of_isQuiet hquiet hfound path time
      have hmany := stderr_ofScript_of_isQuiet hquiet' hfound path time'
      rw [hall] at hone
      rw [hone, hmany]
      exact exists_join_diagnostics_eq_append _ _

/-- **Settings do not change results.**  Two runs that are asked to scan the same scripts, with
the same files and the same input, have the same exit code and print the same, whatever the
switches and the environment say about logs, colours and the number of reported errors.  If they
differ only in that number, the log is quiet and there is one script, then what the run that
reports one error writes is the beginning of what the other one writes. -/
theorem settings_do_not_change_results {words words' : List String} {env env' : Environment}
    {settings settings' : Settings} {scripts : List String}
    (hwords : Invocation.ofWords words env = .ok (.scan settings scripts))
    (hwords' : Invocation.ofWords words' env' = .ok (.scan settings' scripts))
    (read : String → Except ReadError (List UInt8)) (input : List UInt8) (time time' : String) :
    (run words env read input time).code = (run words' env' read input time').code ∧
    (run words env read input time).stdout = (run words' env' read input time').stdout ∧
    (settings.allErrors = false → settings' = { settings with allErrors := true } →
      settings.threshold.isQuiet = true → ∀ path, scripts = [path] →
        ∃ more, (run words' env' read input time').stderr =
          (run words env read input time).stderr ++ more) := by
  obtain ⟨hcode, hprinted⟩ := Prod.mk.inj
    (result_ofScripts settings.allErrors settings'.allErrors scripts read input)
  rw [run_eq_transcript hwords, run_eq_transcript hwords']
  refine ⟨hcode, hprinted, ?_⟩
  rintro hall rfl hquiet path rfl
  rw [hall]
  exact exists_stderr_ofScript_eq_append hquiet hall path (read path) time time'

/-- A session with a line that is rejected, and a script with two errors, under settings that
differ. -/
theorem settings_do_not_change_two_runs :
    Invocation.ofWords [] ⟨[("LOX_VERBOSE", "true")]⟩ =
        .ok (.scan ⟨false, some .debug, true, false⟩ []) ∧
      Invocation.ofWords ["--no-color", "--all-errors"] ⟨[("RUST_LOG", "off")]⟩ =
        .ok (.scan ⟨true, none, false, false⟩ []) ∧
      (run [] ⟨[("LOX_VERBOSE", "true")]⟩ (fun _ => .error .notFound) [64, 35, 10, 49] "1").stdout =
        (run ["--no-color", "--all-errors"] ⟨[("RUST_LOG", "off")]⟩ (fun _ => .error .notFound)
          [64, 35, 10, 49] "2").stdout ∧
      Invocation.ofWords ["s"] ⟨[]⟩ = .ok (.scan ⟨false, some .warn, true, false⟩ ["s"]) ∧
      Invocation.ofWords ["--all-errors", "s"] ⟨[]⟩ =
        .ok (.scan ⟨true, some .warn, true, false⟩ ["s"]) ∧
      ∃ more, (run ["--all-errors", "s"] ⟨[]⟩ (fun _ => .ok [64, 35]) [] "").stderr =
        (run ["s"] ⟨[]⟩ (fun _ => .ok [64, 35]) [] "").stderr ++ more := by
  have hverbose : Invocation.ofWords [] ⟨[("LOX_VERBOSE", "true")]⟩ =
      .ok (.scan ⟨false, some .debug, true, false⟩ []) := rfl
  have hsilent : Invocation.ofWords ["--no-color", "--all-errors"] ⟨[("RUST_LOG", "off")]⟩ =
      .ok (.scan ⟨true, none, false, false⟩ []) := rfl
  have hone : Invocation.ofWords ["s"] ⟨[]⟩ =
      .ok (.scan ⟨false, some .warn, true, false⟩ ["s"]) := rfl
  have hall : Invocation.ofWords ["--all-errors", "s"] ⟨[]⟩ =
      .ok (.scan ⟨true, some .warn, true, false⟩ ["s"]) := rfl
  have hsession := settings_do_not_change_results hverbose hsilent (fun _ => .error .notFound)
    [64, 35, 10, 49] "1" "2"
  have hscript := settings_do_not_change_results hone hall (fun _ => .ok [64, 35]) [] "" ""
  exact ⟨hverbose, hsilent, hsession.2.1, hone, hall, hscript.2.2 rfl rfl rfl "s" rfl⟩

end LoxScan

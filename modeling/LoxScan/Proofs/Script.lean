import LoxScan.Cli.Directory
import LoxScan.Cli.Run
import LoxScan.Proofs.Reporting

/-! # Running a script

A run that names one script is all or nothing.  The script is a text, which is either
well formed, and then all its tokens are printed, or malformed, and then nothing is printed,
however many tokens stand before the first error; where there is no text, nothing is printed
either.  Which of the three it is shows in the exit code (`ScriptShows`).

What a path leads to is not known here: files are read by any function whatever.  Reading gives
a text (`HasText`) or it does not (`HasNoText`), and a text scans or does not.
`scriptShows_of_io`, `scriptShows_of_data` and `scriptShows_of_success` are the three cases.
Where files are those of a directory, a path leads to no text if it leads to nothing, to another
directory, or to bytes that are none (`Directory.hasNoText_read_iff`).  A run that names several
scripts reads none. -/

namespace LoxScan

/-- What is read at the path is this text. -/
def HasText (read : String → Except ReadError (List UInt8)) (path source : String) : Prop :=
  ∃ bytes, read path = .ok bytes ∧ Text.ofUtf8? bytes = some source

/-- No text is read at the path: it cannot be read, or its bytes are not well-formed UTF-8. -/
inductive HasNoText (read : String → Except ReadError (List UInt8)) (path : String) : Prop
  | unreadable {e : ReadError} (h : read path = .error e)
  | malformed {bytes : List UInt8} (h : read path = .ok bytes) (hbytes : Text.ofUtf8? bytes = none)

variable {read : String → Except ReadError (List UInt8)} {path source : String}

/-! ### Reading a text -/

theorem HasText.unique {other : String} (h : HasText read path source)
    (h' : HasText read path other) : source = other := by
  obtain ⟨bytes, hread, htext⟩ := h
  obtain ⟨bytes', hread', htext'⟩ := h'
  rw [hread] at hread'
  cases hread'
  rw [htext] at htext'
  exact Option.some.inj htext'

theorem HasText.not_hasNoText (h : HasText read path source) : ¬ HasNoText read path := by
  obtain ⟨bytes, hread, htext⟩ := h
  intro hno
  cases hno with
  | unreadable hno =>
      rw [hread] at hno
      cases hno
  | malformed hno hmalformed =>
      rw [hread] at hno
      cases hno
      rw [htext] at hmalformed
      cases hmalformed

theorem HasText.decode_eq (h : HasText read path source) :
    (read path >>= ReadError.decode) = .ok source := by
  obtain ⟨bytes, hread, htext⟩ := h
  rw [hread]
  show ReadError.decode bytes = _
  rw [ReadError.decode, htext]

theorem HasNoText.exists_decode_eq (h : HasNoText read path) :
    ∃ e, (read path >>= ReadError.decode) = .error e := by
  cases h with
  | @unreadable e h => exact ⟨e, by rw [h]; rfl⟩
  | @malformed bytes h hbytes =>
      refine ⟨.notText, ?_⟩
      rw [h]
      show ReadError.decode bytes = _
      rw [ReadError.decode, hbytes]

/-- At a path a text is read or none. -/
theorem exists_hasText_or_hasNoText (read : String → Except ReadError (List UInt8))
    (path : String) : (∃ source, HasText read path source) ∨ HasNoText read path := by
  cases h : read path with
  | error e => exact .inr (.unreadable h)
  | ok bytes =>
      cases htext : Text.ofUtf8? bytes with
      | none => exact .inr (.malformed h htext)
      | some source => exact .inl ⟨source, bytes, h, htext⟩

namespace Directory

variable (d : Directory) (here : List String)

theorem read_eq_ok_iff {bytes : List UInt8} :
    d.read here path = .ok bytes ↔ d.find here path = .ok (.file bytes) := by
  rw [read]
  split <;> rename_i hfind <;> simp [hfind]

theorem exists_read_eq_error_iff :
    (∃ e, d.read here path = .error e) ↔
      (∃ e, d.find here path = .error e) ∨ d.find here path = .ok .directory := by
  rw [read]
  split <;> rename_i hfind <;> simp [hfind]

/-- **In a directory the texts are the files whose bytes are one.** -/
theorem hasText_read_iff :
    HasText (d.read here) path source ↔
      ∃ bytes, d.find here path = .ok (.file bytes) ∧ Text.ofUtf8? bytes = some source := by
  simp only [HasText, read_eq_ok_iff]

/-- **In a directory there are three ways to have no text**: nothing is found, or a directory, or
a file whose bytes are no text. -/
theorem hasNoText_read_iff :
    HasNoText (d.read here) path ↔
      (∃ e, d.find here path = .error e) ∨ d.find here path = .ok .directory ∨
        ∃ bytes, d.find here path = .ok (.file bytes) ∧ Text.ofUtf8? bytes = none := by
  rw [← or_assoc, ← exists_read_eq_error_iff]
  constructor
  · rintro (h | ⟨h, hbytes⟩)
    · exact .inl ⟨_, h⟩
    · exact .inr ⟨_, (read_eq_ok_iff d here).mp h, hbytes⟩
  · rintro (⟨e, h⟩ | ⟨bytes, h, hbytes⟩)
    · exact .unreadable h
    · exact .malformed ((read_eq_ok_iff d here).mpr h) hbytes

end Directory

/-! ### The outcome of a script -/

namespace Outcome

variable {found : Except ReadError (List UInt8)}

/-- What is said about a script that cannot be read. -/
def unreadable (path : String) (e : ReadError) : String :=
  "Failed to read file '" ++ path ++ "': " ++ e.reason ++ "\n"

theorem unreadable_ne_empty (path : String) (e : ReadError) : unreadable path e ≠ "" := by
  intro h
  have hend : "\n" = "" := (String.append_eq_empty_iff.mp h).2
  exact absurd hend (by decide)

/-- Where there is no text, that is all there is to say. -/
theorem ofScript_of_error {e : ReadError} (allErrors : Bool) (path : String)
    (h : (found >>= ReadError.decode) = .error e) :
    ofScript allErrors path found =
      ⟨.io, "", [.event (.runningFile path), .message (unreadable path e)]⟩ := by
  rw [ofScript, h]
  rfl

/-- Where there is a text, the outcome is that of its report. -/
theorem ofScript_of_ok (allErrors : Bool) (path : String)
    (h : (found >>= ReadError.decode) = .ok source) :
    ofScript allErrors path found =
      ⟨if (reportedErrors allErrors source).isEmpty then .success else .data, printedTokens source,
        .event (.runningFile path) :: (Report.ofSource allErrors source).notices source⟩ := by
  rw [ofScript, h]
  simp only [exitCode_ofSource, printed_ofSource]

end Outcome

variable {settings : Settings}

/-- With a quiet log a run on a text shows its diagnostics. -/
theorem stderr_ofScript_of_isQuiet {found : Except ReadError (List UInt8)}
    (h : settings.threshold.isQuiet = true) (hfound : (found >>= ReadError.decode) = .ok source)
    (path time : String) :
    ((Outcome.ofScript settings.allErrors path found).transcript settings time).stderr =
      String.join (diagnostics settings.allErrors settings.colouredDiagnostics source) := by
  rw [Outcome.ofScript_of_ok settings.allErrors path hfound, Outcome.stderr_transcript,
    renderAll_event_cons_of_isQuiet h, renderAll_notices_of_isQuiet h]

/-- What the caller sees of a run on the script at a path: whether it was read and what came of
it shows in the exit code, and what is printed and written follows. -/
structure ScriptShows (settings : Settings) (read : String → Except ReadError (List UInt8))
    (path : String) (seen : Transcript) : Prop where
  code_io_iff : seen.code.toNat = 74 ↔ HasNoText read path
  code_data_iff : seen.code.toNat = 65 ↔
    ∃ source e, HasText read path source ∧ scan source = .error e
  code_otherwise : seen.code.toNat ≠ 74 → seen.code.toNat ≠ 65 → seen.code.toNat = 0
  stdout_of_success : seen.code.toNat = 0 → ∃ source tokens,
    HasText read path source ∧ scan source = .ok tokens ∧
      seen.stdout = String.join (tokens.map fun t => t.display ++ "\n")
  stdout_of_failure : seen.code.toNat ≠ 0 → seen.stdout = ""
  stderr_eq_empty_iff : settings.threshold.isQuiet = true →
    (seen.stderr = "" ↔ seen.code.toNat = 0)
  stderr_of_data : settings.threshold.isQuiet = true → seen.code.toNat = 65 → ∃ source,
    HasText read path source ∧ InSourceOrder source (reportedErrors settings.allErrors source) ∧
      seen.stderr = String.join (diagnostics settings.allErrors settings.colouredDiagnostics source)

/-! ### The three cases -/

section Cases

variable {seen : Transcript}

theorem scriptShows_of_io (h : HasNoText read path) (hcode : seen.code = .io)
    (hstdout : seen.stdout = "")
    (hstderr : settings.threshold.isQuiet = true → seen.stderr ≠ "") :
    ScriptShows settings read path seen := by
  have hcode : seen.code.toNat = 74 := by rw [hcode]; rfl
  exact {
    code_io_iff := iff_of_true hcode h
    code_data_iff := iff_of_false (by omega) fun ⟨_, _, htext, _⟩ => htext.not_hasNoText h
    code_otherwise := by omega
    stdout_of_success := by omega
    stdout_of_failure := fun _ => hstdout
    stderr_eq_empty_iff := fun hquiet => iff_of_false (hstderr hquiet) (by omega)
    stderr_of_data := by omega }

theorem scriptShows_of_data {e : ScanError} (h : HasText read path source)
    (hscan : scan source = .error e) (hcode : seen.code = .data) (hstdout : seen.stdout = "")
    (hstderr : settings.threshold.isQuiet = true → seen.stderr =
      String.join (diagnostics settings.allErrors settings.colouredDiagnostics source)) :
    ScriptShows settings read path seen := by
  have hcode : seen.code.toNat = 65 := by rw [hcode]; rfl
  exact {
    code_io_iff := iff_of_false (by omega) h.not_hasNoText
    code_data_iff := iff_of_true hcode ⟨source, e, h, hscan⟩
    code_otherwise := by omega
    stdout_of_success := by omega
    stdout_of_failure := fun _ => hstdout
    stderr_eq_empty_iff := fun hquiet => by
      rw [hstderr hquiet]
      exact iff_of_false (join_diagnostics_ne_empty hscan _ _) (by omega)
    stderr_of_data := fun hquiet _ =>
      ⟨source, h, reportedErrors_inSourceOrder _ _, hstderr hquiet⟩ }

theorem scriptShows_of_success {tokens : List Token} (h : HasText read path source)
    (hscan : scan source = .ok tokens) (hcode : seen.code = .success)
    (hstdout : seen.stdout = printedTokens source)
    (hstderr : settings.threshold.isQuiet = true → seen.stderr = "") :
    ScriptShows settings read path seen := by
  have hcode : seen.code.toNat = 0 := by rw [hcode]; rfl
  have hno : ∀ other e, HasText read path other → scan other ≠ .error e := by
    intro other e hother
    rw [← h.unique hother, hscan]
    intro heq
    cases heq
  exact {
    code_io_iff := iff_of_false (by omega) h.not_hasNoText
    code_data_iff := iff_of_false (by omega) fun ⟨other, e, hother, he⟩ => hno other e hother he
    code_otherwise := fun _ _ => hcode
    stdout_of_success := fun _ => ⟨source, tokens, h, hscan, by rw [hstdout, printedTokens, hscan]⟩
    stdout_of_failure := by omega
    stderr_eq_empty_iff := fun hquiet => iff_of_true (hstderr hquiet) hcode
    stderr_of_data := by omega }

end Cases

/-- **A run on a script shows in its exit code what came of it.** -/
theorem scriptShows_ofScript (settings : Settings)
    (read : String → Except ReadError (List UInt8)) (path time : String) :
    ScriptShows settings read path
      ((Outcome.ofScript settings.allErrors path (read path)).transcript settings time) := by
  rcases exists_hasText_or_hasNoText read path with ⟨source, h⟩ | h
  · have hfound := h.decode_eq
    have houtcome := Outcome.ofScript_of_ok settings.allErrors path hfound
    have hstderr := fun hquiet : settings.threshold.isQuiet = true =>
      stderr_ofScript_of_isQuiet hquiet hfound path time
    cases hscan : scan source with
    | error e =>
        obtain ⟨later, herrors⟩ := exists_reportedErrors_eq_cons hscan settings.allErrors
        refine scriptShows_of_data h hscan ?_ ?_ hstderr
        · rw [Outcome.code_transcript, houtcome, herrors]
          rfl
        · rw [Outcome.stdout_transcript, houtcome, printedTokens, hscan]
    | ok tokens =>
        have herrors := reportedErrors_of_scan_ok hscan settings.allErrors
        refine scriptShows_of_success h hscan ?_ ?_ fun hquiet => ?_
        · rw [Outcome.code_transcript, houtcome, herrors]
          rfl
        · rw [Outcome.stdout_transcript, houtcome]
        · rw [hstderr hquiet, diagnostics, herrors]
          rfl
  · obtain ⟨e, he⟩ := h.exists_decode_eq
    rw [Outcome.ofScript_of_error settings.allErrors path he]
    refine scriptShows_of_io h rfl rfl fun hquiet => ?_
    rw [Outcome.stderr_transcript, renderAll_event_cons_of_isQuiet hquiet, renderAll_message]
    exact Outcome.unreadable_ne_empty path e

/-- A run that names several scripts only says how it is used. -/
theorem run_of_many_scripts {words : List String} {env : Environment} {scripts : List String}
    (hwords : Invocation.ofWords words env = .ok (.scan settings scripts))
    (hmany : 2 ≤ scripts.length) (read : String → Except ReadError (List UInt8))
    (input : List UInt8) (time : String) :
    run words env read input time = ⟨.usage, "", "Usage: lox [script]\n"⟩ := by
  rw [run_eq_transcript hwords]
  match scripts, hmany with
  | _ :: _ :: _, _ =>
      rw [Outcome.ofScripts, Outcome.ofManyScripts, Outcome.transcript, renderAll_message]
      · exact fun h => by cases h
      · exact fun _ h => by cases h

/-- **Scripts are all or nothing**, whatever the files are.  A run that names several scripts reads
none of them and fails with code 64.  A run that names one fails with code 74 if no text is read at
its path and with code 65 if the text is malformed, and otherwise succeeds with code 0; then all
tokens are printed, and else nothing.  With a quiet log, nothing is written exactly where the run
succeeds, and for a malformed text its diagnostics are written. -/
theorem script_all_or_nothing {words : List String} {env : Environment} {settings : Settings}
    {scripts : List String} (hwords : Invocation.ofWords words env = .ok (.scan settings scripts))
    (read : String → Except ReadError (List UInt8)) (input : List UInt8) (time : String) :
    (2 ≤ scripts.length →
      (run words env read input time).code.toNat = 64 ∧
        (run words env read input time).stdout = "" ∧
        (run words env read input time).stderr ≠ "" ∧
        ∀ other : String → Except ReadError (List UInt8),
          run words env other input time = run words env read input time) ∧
    ∀ path, scripts = [path] → ScriptShows settings read path (run words env read input time) := by
  refine ⟨fun hmany => ?_, ?_⟩
  · have hrun (read) := run_of_many_scripts hwords hmany read input time
    rw [hrun]
    exact ⟨rfl, rfl, by simp, fun other => hrun other⟩
  · rintro path rfl
    rw [run_eq_transcript hwords]
    exact scriptShows_ofScript settings read path time

/-- A token and then an error in a script that is named from the root, and the same script named
twice. -/
theorem script_of_token_and_error :
    Invocation.ofWords ["/s"] ⟨[]⟩ = .ok (.scan ⟨false, some .warn, true, false⟩ ["/s"]) ∧
      Invocation.ofWords ["/s", "s"] ⟨[]⟩ =
        .ok (.scan ⟨false, some .warn, true, false⟩ ["/s", "s"]) ∧
      ScriptShows ⟨false, some .warn, true, false⟩
        (Directory.read ⟨[(["s"], .file [49, 10, 64])]⟩ ["d"]) "/s"
        (run ["/s"] ⟨[]⟩ (Directory.read ⟨[(["s"], .file [49, 10, 64])]⟩ ["d"]) [] "") ∧
      (run ["/s", "s"] ⟨[]⟩ (Directory.read ⟨[(["s"], .file [49, 10, 64])]⟩ ["d"]) [] "").code.toNat
        = 64 := by
  have hone : Invocation.ofWords ["/s"] ⟨[]⟩ =
      .ok (.scan ⟨false, some .warn, true, false⟩ ["/s"]) := rfl
  have htwo : Invocation.ofWords ["/s", "s"] ⟨[]⟩ =
      .ok (.scan ⟨false, some .warn, true, false⟩ ["/s", "s"]) := rfl
  exact ⟨hone, htwo, (script_all_or_nothing hone _ [] "").2 "/s" rfl,
    ((script_all_or_nothing htwo _ [] "").1 (Nat.le_refl 2)).1⟩

end LoxScan

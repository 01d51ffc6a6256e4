import LoxScan.Cli.System
import LoxScan.Proofs.Prompt

/-! # The program does what a run says

`run` has the files and the input from the beginning, and all that is written comes out at once.
The program reads and writes as it goes along.  Both come to the same: on a system whose files
and input are those of the run, the program ends, with the code of the run, and what it has
written by then is what the run says (`program_comes_to_run`).

A system that can be looked into keeps the lines that are left of its input, and what has been
written (`World`).  A session is carried over these lines: each answer takes one of them off, and
the session that is left is that of the other lines (`comesTo_askLine`). -/

namespace LoxScan

/-- What there is of a system outside of its files: the lines that are still to be read, and what
has been written. -/
structure World where
  lines : List (List UInt8)
  stdout : String
  stderr : String

/-- A system that can be looked into.  Its files do not change, and its time stands still. -/
def System.inWorld (read : String → Except ReadError (List UInt8)) (time : String) :
    System (StateM World) where
  readFile path := return read path
  readLine := modifyGet fun w => (w.lines.headD [], { w with lines := w.lines.tail })
  print text := modify fun w => { w with stdout := w.stdout ++ text }
  complain text := modify fun w => { w with stderr := w.stderr ++ text }
  time := return time

/-- Doing the same again and again, from a world on, comes to a value and leaves a world. -/
inductive ComesTo {α : Type} (act : StateM World (Option α)) : World → α → World → Prop
  | now {w w' : World} {a : α} (h : act.run w = (some a, w')) : ComesTo act w a w'
  | later {w w' last : World} {a : α} (h : act.run w = (none, w'))
      (hlater : ComesTo act w' a last) : ComesTo act w a last

/-- The program ends with a code and leaves a world: at its start, or with its session. -/
inductive System.EndsWith (system : System (StateM World)) (words : List String)
    (env : Environment) (w : World) (code : ExitCode) (last : World) : Prop
  | start (h : (system.start words env).run w = (.inl code, last))
  | session {settings : Settings} {w' : World}
      (h : (system.start words env).run w = (.inr settings, w'))
      (hsession : ComesTo (system.askLine settings) w' code last)

/-! ### Ends -/

theorem ComesTo.unique {α : Type} {act : StateM World (Option α)} {w last last' : World} {a a' : α}
    (h : ComesTo act w a last) (h' : ComesTo act w a' last') : a = a' ∧ last = last' := by
  induction h with
  | now h =>
      cases h' with
      | now h' =>
          rw [h] at h'
          cases h'
          exact ⟨rfl, rfl⟩
      | later h' _ =>
          rw [h] at h'
          cases h'
  | later h _ ih =>
      cases h' with
      | now h' =>
          rw [h] at h'
          cases h'
      | later h' hlater =>
          rw [h] at h'
          cases h'
          exact ih hlater

/-- The program ends in one way only. -/
theorem System.EndsWith.unique {system : System (StateM World)} {words : List String}
    {env : Environment} {w last last' : World} {code code' : ExitCode}
    (h : system.EndsWith words env w code last) (h' : system.EndsWith words env w code' last') :
    code = code' ∧ last = last' := by
  cases h with
  | start h =>
      cases h' with
      | start h' =>
          rw [h] at h'
          cases h'
          exact ⟨rfl, rfl⟩
      | session h' _ =>
          rw [h] at h'
          cases h'
  | session h hsession =>
      cases h' with
      | start h' =>
          rw [h] at h'
          cases h'
      | session h' hsession' =>
          rw [h] at h'
          cases h'
          exact hsession.unique hsession'

variable {read : String → Except ReadError (List UInt8)} {time : String} {settings : Settings}
  {bytes : List UInt8} {lines : List (List UInt8)} {stdout stderr : String}

namespace System

/-! ### A session -/

/-- The line that is asked for is the next one of the input. -/
theorem run_askLine :
    ((inWorld read time).askLine settings).run ⟨lines, stdout, stderr⟩ =
      ((inWorld read time).answer settings (lines.headD [])).run
        ⟨lines.tail, stdout ++ Outcome.promptSign, stderr⟩ := rfl

theorem run_answer_end :
    ((inWorld read time).answer settings []).run ⟨lines, stdout, stderr⟩ =
      (some .success, ⟨lines, stdout ++ "\n", stderr⟩) := rfl

theorem run_answer_unreadable {e : ReadError} (hne : bytes ≠ [])
    (hdecode : ReadError.decode bytes = .error e) :
    ((inWorld read time).answer settings bytes).run ⟨lines, stdout, stderr⟩ =
      (some (Outcome.ofUnreadableInput e).code,
        ⟨lines, stdout ++ (Outcome.ofUnreadableInput e).printed,
          stderr ++ Notice.renderAll settings time (Outcome.ofUnreadableInput e).notices⟩) := by
  rw [answer, if_neg (by simpa using hne), hdecode]
  rfl

theorem run_answer_text {line : String} (hne : bytes ≠ [])
    (hdecode : ReadError.decode bytes = .ok line) :
    ((inWorld read time).answer settings bytes).run ⟨lines, stdout, stderr⟩ =
      (none, ⟨lines, stdout ++ (Outcome.ofPromptLine settings.allErrors line).printed,
        stderr ++ Notice.renderAll settings time
          (Outcome.ofPromptLine settings.allErrors line).notices⟩) := by
  rw [answer, if_neg (by simpa using hne), hdecode]
  rfl

/-- **A session writes what the answers to its lines say**, and ends with their code. -/
theorem comesTo_askLine (hlines : ∀ line ∈ lines, line ≠ []) (stdout stderr : String) :
    ∃ later, ComesTo ((inWorld read time).askLine settings) ⟨lines, stdout, stderr⟩
      (Outcome.ofPromptLines settings.allErrors lines).code
      ⟨later, stdout ++ (Outcome.ofPromptLines settings.allErrors lines).printed,
        stderr ++ Notice.renderAll settings time
          (Outcome.ofPromptLines settings.allErrors lines).notices⟩ := by
  -- What has been written is left open, as the lines behind the first begin with its answer.
  induction lines generalizing stdout stderr with
  | nil =>
      refine ⟨[], .now ?_⟩
      rw [run_askLine, List.headD_nil, run_answer_end, String.append_assoc, Outcome.ofPromptLines,
        Notice.renderAll, List.map_nil, String.join_nil, String.append_empty]
      rfl
  | cons bytes lines ih =>
      obtain ⟨hne, hlines⟩ := List.forall_mem_cons.mp hlines
      rw [Outcome.ofPromptLines]
      cases hdecode : ReadError.decode bytes with
      | error e =>
          refine ⟨lines, .now ?_⟩
          rw [run_askLine, List.headD_cons, List.tail_cons, run_answer_unreadable hne hdecode,
            String.append_assoc]
      | ok line =>
          obtain ⟨later, hlater⟩ := ih hlines
            (stdout ++ Outcome.promptSign ++ (Outcome.ofPromptLine settings.allErrors line).printed)
            (stderr ++ Notice.renderAll settings time
              (Outcome.ofPromptLine settings.allErrors line).notices)
          refine ⟨later, .later (run_askLine.trans (run_answer_text hne hdecode)) ?_⟩
          simp only [renderAll_append]
          simpa only [List.tail_cons, String.append_assoc] using hlater

/-! ### The program -/

/-- Unless a session is to be held, the program writes what a run says at its start. -/
theorem run_start {words : List String} {env : Environment}
    (h : ∀ settings, Invocation.ofWords words env ≠ .ok (.scan settings [])) (input : List UInt8) :
    ((inWorld read time).start words env).run ⟨lines, stdout, stderr⟩ =
      (.inl (run words env read input time).code,
        ⟨lines, stdout ++ (run words env read input time).stdout,
          stderr ++ (run words env read input time).stderr⟩) := by
  rw [start, run]
  cases hwords : Invocation.ofWords words env with
  | error e =>
      rw [String.append_empty]
      rfl
  | ok invocation =>
      cases invocation with
      | help | version =>
          rw [String.append_empty]
          rfl
      | scan settings scripts =>
          cases scripts with
          | nil => exact absurd hwords (h settings)
          | cons path others =>
              cases others with
              | nil | cons => rfl

/-- On a system whose files and input are those of the run, the program ends as the run says. -/
theorem exists_endsWith (words : List String) (env : Environment)
    (read : String → Except ReadError (List UInt8)) (input : List UInt8) (time : String) :
    ∃ later, (inWorld read time).EndsWith words env ⟨Text.cutAfter (· == 10) input, "", ""⟩
      (run words env read input time).code
      ⟨later, (run words env read input time).stdout, (run words env read input time).stderr⟩ := by
  by_cases hsession : ∃ settings, Invocation.ofWords words env = .ok (.scan settings [])
  · -- A session takes over the world as it was at the start.
    obtain ⟨settings, hwords⟩ := hsession
    have hstart (w : World) : ((inWorld read time).start words env).run w = (.inr settings, w) := by
      rw [start, hwords]
      rfl
    have hlines : ∀ line ∈ Text.cutAfter (· == 10) input, line ≠ [] :=
      fun _ => Text.ne_nil_of_mem_cutAfter
    obtain ⟨later, hlater⟩ : ∃ later, ComesTo ((inWorld read time).askLine settings) _ _ _ :=
      comesTo_askLine hlines "" ""
    refine ⟨later, .session (hstart _) ?_⟩
    simp only [String.empty_append] at hlater
    rwa [run_eq_transcript hwords]
  · rw [not_exists] at hsession
    refine ⟨Text.cutAfter (· == 10) input, .start ?_⟩
    rw [run_start hsession input, String.empty_append, String.empty_append]

/-- **The program does what a run says.**  On a system whose files and input are those of the run,
it ends, with the code of the run, and what it has written by then to the output and to the error
stream is what the run says. -/
theorem program_comes_to_run (words : List String) (env : Environment)
    (read : String → Except ReadError (List UInt8)) (input : List UInt8) (time : String) :
    ∃ later, ∀ code last,
      (inWorld read time).EndsWith words env ⟨Text.cutAfter (· == 10) input, "", ""⟩ code last ↔
        code = (run words env read input time).code ∧
          last = ⟨later, (run words env read input time).stdout,
            (run words env read input time).stderr⟩ := by
  obtain ⟨later, hends⟩ := exists_endsWith words env read input time
  refine ⟨later, fun code last => ⟨fun h => h.unique hends, ?_⟩⟩
  rintro ⟨rfl, rfl⟩
  exact hends

end System
end LoxScan

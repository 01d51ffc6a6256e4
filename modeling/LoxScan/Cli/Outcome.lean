import LoxScan.Cli.ReadError
import LoxScan.Cli.Report
import LoxScan.ExitCode
import LoxScan.Text.Lines

/-! # Outcomes

What a run comes to, before anything is shown: the exit code, what is printed, and the
notices.  A run scans one script, or the lines typed at a prompt.

A script is a single text.  If it cannot be read or is malformed, nothing is printed.

At the prompt every line is a text of its own, so an error in one does not touch the next,
and all tokens stand on line one.  Each line is asked for with a sign; at the end of the
input the last sign gets a line feed.  Input that is not text ends the session at once. -/

namespace LoxScan

/-- What a run comes to. -/
structure Outcome where
  code : ExitCode
  printed : String
  notices : List Notice

namespace Outcome

/-- Scanning the script at a path, of which the bytes have been read if it has any. -/
def ofScript (allErrors : Bool) (path : String) (found : Except ReadError (List UInt8)) :
    Outcome :=
  let opening := Notice.event (.runningFile path)
  match found >>= ReadError.decode with
  | .error e =>
      let complaint := "Failed to read file '" ++ path ++ "': " ++ e.reason ++ "\n"
      ⟨(Failure.io e.reason).exitCode, "", [opening, .message complaint]⟩
  | .ok source =>
      let report := Report.ofSource allErrors source
      ⟨report.exitCode, report.printed, opening :: report.notices source⟩

/-- What is written before each line of input. -/
def promptSign : String := "> "

/-- A line that was read, without its line end, scanned as a text of its own. -/
def ofPromptLine (allErrors : Bool) (line : String) : Outcome :=
  let source := String.ofList (Text.trimLineEnd line.toList)
  let report := Report.ofSource allErrors source
  let rejection := report.failure?.toList.map fun f => Notice.event (.lineRejected f)
  ⟨.success, report.printed, report.notices source ++ rejection⟩

/-- The end of a session whose input is not text. -/
def ofUnreadableInput (e : ReadError) : Outcome :=
  ⟨(Failure.io e.reason).exitCode, "", [.message ("Error reading input: " ++ e.reason ++ "\n")]⟩

/-- A session at the prompt over the lines of its input. -/
def ofPromptLines (allErrors : Bool) : List (List UInt8) → Outcome
  | [] => ⟨.success, promptSign ++ "\n", []⟩
  | line :: lines =>
      match ReadError.decode line with
      | .error e =>
          let last := ofUnreadableInput e
          ⟨last.code, promptSign ++ last.printed, last.notices⟩
      | .ok text =>
          let answer := ofPromptLine allErrors text
          let later := ofPromptLines allErrors lines
          ⟨later.code, promptSign ++ answer.printed ++ later.printed,
            answer.notices ++ later.notices⟩

/-- A session at the prompt.  A line is what stands up to the next line feed. -/
def ofPrompt (allErrors : Bool) (input : List UInt8) : Outcome :=
  ofPromptLines allErrors (Text.cutAfter (· == 10) input)

/-- A run that was given more scripts than one. -/
def ofManyScripts : Outcome := ⟨.usage, "", [.message "Usage: lox [script]\n"]⟩

end Outcome
end LoxScan

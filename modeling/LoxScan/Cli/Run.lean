import LoxScan.Cli.Help
import LoxScan.Cli.Outcome

/-! # Running the program

From the command line, the environment, the files and the input to what the caller sees:
an exit code and two texts.  Help and version come before everything else, then mistakes in
the arguments, then mistakes in the environment; only after that is anything read. -/

namespace LoxScan

/-- What the program is asked to do, once everything on the command line and in the
environment has been understood. -/
inductive Invocation where
  | help
  | version
  | scan (settings : Settings) (scripts : List String)

namespace Invocation

/-- What the program is asked to do. -/
def ofWords (words : List String) (env : Environment) : Except ArgumentError Invocation := do
  match ← Request.ofWords words with
  | .help => return .help
  | .version => return .version
  | .scan options => return .scan (← Settings.ofSwitches options.switches env) options.scripts

end Invocation

namespace Outcome

/-- Scanning the scripts that were named, or the input if there is none. -/
def ofScripts (allErrors : Bool) (scripts : List String)
    (read : String → Except ReadError (List UInt8)) (input : List UInt8) : Outcome :=
  match scripts with
  | [] => ofPrompt allErrors input
  | [path] => ofScript allErrors path (read path)
  | _ => ofManyScripts

end Outcome

/-- What the caller of the program sees. -/
structure Transcript where
  code : ExitCode
  stdout : String
  stderr : String
  deriving DecidableEq

namespace ArgumentError

/-- What is wrong with the arguments or the environment, in words. -/
def message : ArgumentError → String
  | unknownFlag written => "error: unexpected argument '" ++ written ++ "'\n"
  | repeatedSwitch _ => "error: an option was given more than once\n"
  | emptyScript => "error: the name of a script is empty\n"
  | badVariable name value =>
      "error: " ++ name ++ " is '" ++ value ++ "', and must be 'true' or 'false'\n"

end ArgumentError

/-- A run of the program.  `read` gives the bytes of the file at a path, `input` is the whole
standard input, and `time` is written at the beginning of each log line. -/
def run (words : List String) (env : Environment) (read : String → Except ReadError (List UInt8))
    (input : List UInt8) (time : String) : Transcript :=
  match Invocation.ofWords words env with
  | .error e => ⟨.badArguments, "", e.message⟩
  | .ok .help => ⟨.success, Help.text env, ""⟩
  | .ok .version => ⟨.success, versionText, ""⟩
  | .ok (.scan settings scripts) =>
      let outcome := Outcome.ofScripts settings.allErrors scripts read input
      ⟨outcome.code, outcome.printed, Notice.renderAll settings time outcome.notices⟩

end LoxScan

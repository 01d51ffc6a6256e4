import LoxScan.Cli.System

/-! # The program `lox`

The thin layer between the program and the system: how a file and a line of input are read, and
how a text is written.  What is read and written, and when, is decided in `System`. -/

namespace LoxScan.Program

/-- The variables that the program looks at. -/
def variableNames : List String :=
  [Switch.verbose.variable, Switch.noColor.variable, Switch.allErrors.variable, "RUST_LOG",
   "NO_COLOR", "CLICOLOR_FORCE"]

def environment : IO Environment := do
  let values ← variableNames.mapM fun name => return (← IO.getEnv name).map (name, ·)
  return ⟨values.filterMap id⟩

/-- The number of a system error, which some calls report with a minus sign. -/
def systemCode (code : UInt32) : Nat := min code.toNat (0 - code).toNat

/-- A system error as an error of reading. -/
def readError : IO.Error → ReadError
  | .noFileOrDirectory _ _ _ => .notFound
  | .inappropriateType _ code _ => if systemCode code = 21 then .isDirectory else .notDirectory
  | .invalidArgument _ code details =>
      if systemCode code = 36 then .nameTooLong
      else .other (details.capitalize ++ " (os error " ++ toString (systemCode code) ++ ")")
  | .permissionDenied _ code details =>
      .other (details.capitalize ++ " (os error " ++ toString (systemCode code) ++ ")")
  | other => .other (toString other)

/-- The bytes of a file, or why they cannot be had. -/
def readFile (path : String) : IO (Except ReadError (List UInt8)) := do
  try
    let bytes ← IO.FS.readBinFile path
    return .ok bytes.toList
  catch e => return .error (readError e)

/-- The bytes up to the next line feed, which is one of them, or to the end of the input. -/
partial def readLine (input : IO.FS.Stream) (before : ByteArray) : IO ByteArray := do
  let byte ← input.read 1
  if byte.isEmpty then return before
  let line := before ++ byte
  if byte[0]? = some 10 then return line
  readLine input line

def write (output : IO.FS.Stream) (text : String) : IO Unit := do
  output.putStr text
  output.flush

/-- The system for a program that began at the given time; log lines begin with the time since
then. -/
def system (began : Nat) : System IO where
  readFile := readFile
  readLine := return (← readLine (← IO.getStdin) .empty).toList
  print text := do write (← IO.getStdout) text
  complain text := do write (← IO.getStderr) text
  time := return toString ((← IO.monoMsNow) - began) ++ "ms"

/-- Does the same again and again until there is a value. -/
partial def untilSome {α : Type} (act : IO (Option α)) : IO α := do
  match ← act with
  | some a => return a
  | none => untilSome act

end LoxScan.Program

open LoxScan in
/-- Runs the program with the given arguments. -/
def main (words : List String) : IO UInt32 := do
  let system := Program.system (← IO.monoMsNow)
  let code ← match ← system.start words (← Program.environment) with
    | .inl code => pure code
    | .inr settings => Program.untilSome (system.askLine settings)
  return code.toNat.toUInt32

import LoxScan.Cli.Run

/-! # The program on a system

`run` knows all files and the whole input beforehand.  A program asks for them when it needs
them, and shows what it has found before it asks again.  Here is that program, over any system
that can read and write: it starts by doing what the command line says (`System.start`), and if
that is a session at the prompt, it answers one line after the other until there is a code
(`System.answerLine`). -/

namespace LoxScan

/-- What the program needs of the system on which it runs. -/
structure System (m : Type → Type) where
  readFile : String → m (Except ReadError (List UInt8))
  /-- The input up to the next line feed, which is part of it; nothing at the end of the input. -/
  readLine : m (List UInt8)
  print : String → m Unit
  /-- Writes to the error stream. -/
  complain : String → m Unit
  /-- What is written at the beginning of each log line. -/
  time : m String

namespace System

variable {m : Type → Type} [Monad m] (system : System m)

/-- Shows what something has come to. -/
def present (settings : Settings) (o : Outcome) : m ExitCode := do
  system.print o.printed
  system.complain (Notice.renderAll settings (← system.time) o.notices)
  return o.code

/-- Answers a line of the input.  There is a code if the session is over. -/
def answer (settings : Settings) (line : List UInt8) : m (Option ExitCode) := do
  if line.isEmpty then
    system.print "\n"
    return some .success
  match ReadError.decode line with
  | .error e => return some (← system.present settings (Outcome.ofUnreadableInput e))
  | .ok text =>
      let _ ← system.present settings (Outcome.ofPromptLine settings.allErrors text)
      return none

/-- Asks for a line and answers it. -/
def askLine (settings : Settings) : m (Option ExitCode) := do
  system.print Outcome.promptSign
  system.answer settings (← system.readLine)

/-- Does what the command line and the environment say.  There is a code, unless a session is to
be held, with the settings that are left then. -/
def start (words : List String) (env : Environment) : m (ExitCode ⊕ Settings) := do
  match Invocation.ofWords words env with
  | .error e =>
      system.complain e.message
      return .inl .badArguments
  | .ok .help =>
      system.print (Help.text env)
      return .inl .success
  | .ok .version =>
      system.print versionText
      return .inl .success
  | .ok (.scan settings []) => return .inr settings
  | .ok (.scan settings [path]) =>
      let found ← system.readFile path
      return .inl (← system.present settings (Outcome.ofScript settings.allErrors path found))
  | .ok (.scan settings _) => return .inl (← system.present settings Outcome.ofManyScripts)

end System
end LoxScan

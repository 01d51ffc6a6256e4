import LoxScan.Failure
import LoxScan.Log.Level
import LoxScan.Token

/-! # Events of the log

What a run tells about its own progress.  An event has a level, a message and named values,
and becomes one line that begins with the time. -/

namespace LoxScan

/-- Something worth logging. -/
inductive Event where
  /-- A script is about to be read. -/
  | runningFile (path : String)
  /-- A token was found. -/
  | scannedToken (t : Token)
  /-- A scan that stops at errors came to the end of the text. -/
  | scanComplete (tokens lines : Nat)
  /-- A scan that goes on after errors met one. -/
  | recovering (e : ScanError)
  /-- A scan that goes on after errors came to the end of the text. -/
  | recoveringScanComplete (items errors lines : Nat)
  /-- A line typed at the prompt was malformed. -/
  | lineRejected (f : Failure)
  deriving DecidableEq

namespace Event

def level : Event → Level
  | runningFile _ => .info
  | scannedToken _ => .trace
  | scanComplete _ _ | recovering _ | recoveringScanComplete _ _ _ | lineRejected _ => .debug

def message : Event → String
  | runningFile _ => "running file"
  | scannedToken _ => "scanned token"
  | scanComplete _ _ | recoveringScanComplete _ _ _ => "scan complete"
  | recovering _ => "recovering from scan error"
  | lineRejected _ => "prompt line rejected"

/-- The named values of an event, in the order in which they are logged. -/
def values : Event → List (String × String)
  | runningFile path => [("path", path)]
  | scannedToken t => [("token", t.display)]
  | scanComplete tokens lines => [("tokens", toString tokens), ("lines", toString lines)]
  | recovering e => [("line", toString e.line), ("error", e.message)]
  | recoveringScanComplete items errors lines =>
      [("items", toString items), ("errors", toString errors), ("lines", toString lines)]
  | lineRejected f => [("error", f.message)]

/-- A named value behind a blank. -/
def styledValue (value : String × String) : Styled :=
  [.plain [' '], .styled .italic value.1.toList, .styled .dim ['='], .plain value.2.toList]

/-- The line of an event: time, level in five columns, message and values. -/
def styled (time : String) (e : Event) : Styled :=
  [.styled .dim time.toList, .plain [' '],
   .styled e.level.style (e.level.name.toList.leftpad 5 ' '),
   .plain (' ' :: e.message.toList)] ++
  e.values.flatMap styledValue ++ [.plain ['\n']]

/-- The text of an event, with or without colours. -/
def render (coloured : Bool) (time : String) (e : Event) : String :=
  String.ofList ((e.styled time).render coloured)

example : (runningFile "s").render false "now" = "now  INFO running file path=s\n" := by
  decide +kernel

end Event
end LoxScan

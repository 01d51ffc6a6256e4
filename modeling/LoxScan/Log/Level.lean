import LoxScan.Styled

/-! # Levels of the log

Every log event has a level, from the most talkative to the gravest.  A threshold lets a
level through together with all graver ones, or nothing at all. -/

namespace LoxScan

/-- How grave a log event is. -/
inductive Level where
  | trace | debug | info | warn | error
  deriving DecidableEq, Repr

namespace Level

/-- The position of a level, graver ones higher. -/
def gravity : Level → Nat
  | trace => 0
  | debug => 1
  | info => 2
  | warn => 3
  | error => 4

/-- The name of a level as it is logged. -/
def name : Level → String
  | trace => "TRACE"
  | debug => "DEBUG"
  | info => "INFO"
  | warn => "WARN"
  | error => "ERROR"

/-- The colour of a level. -/
def style : Level → Style
  | trace => .magenta
  | debug => .blue
  | info => .green
  | warn => .yellow
  | error => .red

end Level

/-- The least grave level that is logged; without one, nothing is. -/
abbrev Threshold := Option Level

namespace Threshold

/-- Whether events of a level are logged. -/
def admits (t : Threshold) (level : Level) : Bool :=
  match t with
  | some least => least.gravity ≤ level.gravity
  | none => false

/-- The threshold with the given name. -/
def ofName? : String → Option Threshold
  | "trace" => some (some .trace)
  | "debug" => some (some .debug)
  | "info" => some (some .info)
  | "warn" => some (some .warn)
  | "error" => some (some .error)
  | "off" => some none
  | _ => none

end Threshold
end LoxScan

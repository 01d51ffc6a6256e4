import LoxScan.Cli.Arguments
import LoxScan.Log.Level

/-! # Settings

What governs a run beside its input: whether all errors are reported, what is logged, and
what is coloured.  A switch on the command line turns its setting on.  Without the switch
an environment variable decides, and that must be exactly `true` or `false`.

Colour is decided twice.  Log lines are coloured unless colour is turned off.  Diagnostics
are coloured only if the environment forces it, since they go to no terminal. -/

namespace LoxScan

/-- The environment variables that are set, with their values. -/
structure Environment where
  bindings : List (String × String)

namespace Environment

/-- The value of a variable, if it is set. -/
def value? (e : Environment) (name : String) : Option String := e.bindings.lookup name

end Environment

/-- What governs a run beside its input. -/
structure Settings where
  allErrors : Bool
  threshold : Threshold
  colouredLog : Bool
  colouredDiagnostics : Bool
  deriving DecidableEq, Repr

/-- The environment variable that stands in for a switch. -/
def Switch.variable : Switch → String
  | verbose => "LOX_VERBOSE"
  | noColor => "LOX_NO_COLOR"
  | allErrors => "LOX_ALL_ERRORS"

namespace Settings

/-- Whether a switch is on: given on the command line, or else set in the environment. -/
def isOn (switches : List Switch) (env : Environment) (s : Switch) : Except ArgumentError Bool :=
  if s ∈ switches then .ok true
  else match env.value? s.variable with
    | none => .ok false
    | some "true" => .ok true
    | some "false" => .ok false
    | some other => .error (.badVariable s.variable other)

/-- The threshold of the log.  The one that the environment names wins; otherwise a verbose
run logs its progress, and any other run only what is wrong. -/
def logThreshold (env : Environment) (verbose : Bool) : Threshold :=
  ((env.value? "RUST_LOG").bind Threshold.ofName?).getD
    (if verbose then some .debug else some .warn)

/-- Whether the environment asks for colour even where there is no terminal. -/
def forcesColour (env : Environment) : Bool :=
  match env.value? "CLICOLOR_FORCE" with
  | some value => value != "0"
  | none => false

/-- The settings that switches and environment amount to. -/
def ofSwitches (switches : List Switch) (env : Environment) : Except ArgumentError Settings := do
  let verbose ← isOn switches env .verbose
  let noColor ← isOn switches env .noColor
  let allErrors ← isOn switches env .allErrors
  return {
    allErrors := allErrors
    threshold := logThreshold env verbose
    colouredLog := !noColor
    colouredDiagnostics := !noColor && forcesColour env }

end Settings
end LoxScan

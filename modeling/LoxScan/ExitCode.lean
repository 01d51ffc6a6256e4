/-! # Exit codes

How a run ended, as the number the system is told. -/

namespace LoxScan

/-- How a run ended. -/
inductive ExitCode where
  | success
  /-- The arguments or the environment could not be understood. -/
  | badArguments
  /-- More scripts were named than one run can take. -/
  | usage
  /-- The text is malformed. -/
  | data
  /-- Something could not be read. -/
  | io
  deriving DecidableEq, Repr

/-- The number of an exit code. -/
def ExitCode.toNat : ExitCode → Nat
  | success => 0
  | badArguments => 2
  | usage => 64
  | data => 65
  | io => 74

end LoxScan

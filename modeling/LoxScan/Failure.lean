import LoxScan.ExitCode
import LoxScan.ScanError

/-! # Failures

A run on one text fails for one of two reasons: the text is malformed, or it could not be
read.  The reason decides the exit code. -/

namespace LoxScan

/-- Why a run did not succeed. -/
inductive Failure where
  | scan (e : ScanError)
  /-- Reading failed; `reason` is what the system says. -/
  | io (reason : String)
  deriving DecidableEq, Repr

namespace Failure

/-- A failure in one line of words. -/
def message : Failure → String
  | scan e => "[line " ++ toString e.line ++ "] Error: " ++ e.message
  | io reason => "IO error: " ++ reason

/-- The exit code of a failure. -/
def exitCode : Failure → ExitCode
  | scan _ => .data
  | io _ => .io

end Failure
end LoxScan

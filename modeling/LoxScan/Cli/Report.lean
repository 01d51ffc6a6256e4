import LoxScan.Cli.Notice
import LoxScan.Scan

/-! # Reports on one text

The program scans one text at a time: the contents of a script, or a line typed at the
prompt.  The report on a text holds its tokens if the text is well formed, and otherwise no
token at all but the errors: the first one, or all of them.  It also holds what the scan
logs on its way, which comes before the diagnostics. -/

namespace LoxScan

/-- What scanning one text comes to. -/
structure Report where
  /-- The tokens to print; none if the text is malformed. -/
  tokens : List Token
  /-- The errors to show. -/
  errors : List ScanError
  /-- What the scan logged. -/
  events : List Event

namespace Report

/-- The line on which a text ends. -/
def lastLine (source : String) : Nat := 1 + source.toList.count '\n'

/-- The tokens before the first error. -/
def leadingTokens : List Item → List Token
  | .token t :: rest => t :: leadingTokens rest
  | _ => []

/-- What a scan that stops at the first error logs: the tokens before it, and if there is no
error, the end. -/
def stoppingEvents (source : String) : List Event :=
  match scan source with
  | .ok tokens =>
      tokens.dropLast.map .scannedToken ++ [.scanComplete tokens.length (lastLine source)]
  | .error _ => (leadingTokens (items source)).map .scannedToken

/-- What is logged about one item by a scan that goes on after errors. -/
def event : Item → Event
  | .token t => .scannedToken t
  | .error e => .recovering e

/-- What a scan that goes on after errors logs: each token and each error where it was
found, and the end. -/
def recoveringEvents (source : String) : List Event :=
  let found := items source
  found.dropLast.map event ++
    [.recoveringScanComplete found.length (found.filterMap Item.error?).length (lastLine source)]

/-- The report on a text. -/
def ofSource (allErrors : Bool) (source : String) : Report :=
  if allErrors then
    match scanAll source with
    | .ok tokens => ⟨tokens, [], recoveringEvents source⟩
    | .error errors => ⟨[], errors, recoveringEvents source⟩
  else
    match scan source with
    | .ok tokens => ⟨tokens, [], stoppingEvents source⟩
    | .error e => ⟨[], [e], stoppingEvents source⟩

/-- Why the scan failed, if it did: by its first error. -/
def failure? (r : Report) : Option Failure := r.errors.head?.map .scan

/-- The exit code of a run on the text. -/
def exitCode (r : Report) : ExitCode :=
  match r.failure? with
  | some f => f.exitCode
  | none => .success

/-- The tokens, one on each line. -/
def printed (r : Report) : String := String.join (r.tokens.map fun t => t.display ++ "\n")

/-- The events, and then a diagnostic for each error. -/
def notices (source : String) (r : Report) : List Notice :=
  r.events.map .event ++ r.errors.map fun e => .diagnostic ⟨e, some source⟩

end Report
end LoxScan

import LoxScan.Cli.Settings
import LoxScan.Diagnostic
import LoxScan.Log.Event

/-! # Notices

Everything a run writes to the error stream, in order: log events, diagnostics, and plain
messages.  Notices are kept as values until the end, so that what is said and how it is
shown stay apart: the settings decide which events appear and what is coloured, and nothing
else. -/

namespace LoxScan

/-- Something for the error stream. -/
inductive Notice where
  | event (e : Event)
  | diagnostic (d : Diagnostic)
  | message (text : String)

namespace Notice

/-- The text of a notice; events below the threshold have none. -/
def render (settings : Settings) (time : String) : Notice → String
  | event e =>
      if settings.threshold.admits e.level then e.render settings.colouredLog time else ""
  | diagnostic d => d.render settings.colouredDiagnostics
  | message text => text

/-- The text of notices, one after the other. -/
def renderAll (settings : Settings) (time : String) (notices : List Notice) : String :=
  String.join (notices.map (render settings time))

end Notice
end LoxScan

import AttributePins.Log
import AttributePins.Styled

/-! What a run writes, in order: log records, which a filter may hold back, and lines
on either stream. The help has colours of its own: what forces or forbids them is
not the same as for a report. -/
namespace AttributePins

inductive Output where
  | log (record : Log.Record)
  /-- A line of the report. -/
  | line (spans : List Span)
  /-- A line of the help. -/
  | help (spans : List Span)
  /-- A line about something that went wrong. -/
  | complaint (spans : List Span)
deriving DecidableEq, Repr

structure Colours where
  /-- Reports and what goes wrong. -/
  report : Bool := false
  help : Bool := false
deriving DecidableEq, Repr

namespace Output

def onStdout (colours : Colours) : Output → String
  | .line spans => renderSpans colours.report spans ++ "\n"
  | .help spans => renderSpans colours.help spans ++ "\n"
  | _ => ""

def onStderr (colours : Colours) (shows : Log.Record → Bool) : Output → String
  | .log record => if shows record then record.render else ""
  | .complaint spans => renderSpans colours.report spans ++ "\n"
  | _ => ""

def stdout (colours : Colours) (outputs : List Output) : String :=
  String.join (outputs.map (onStdout colours))

def stderr (colours : Colours) (shows : Log.Record → Bool) (outputs : List Output) : String :=
  String.join (outputs.map (onStderr colours shows))

end Output
end AttributePins

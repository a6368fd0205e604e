import AttributePins.Event
import AttributePins.Text.Quoted

/-! Log records. A record is one line: its level, its message, and the source it is
about if it comes from reading one. Control characters that could drive a terminal
are written as escapes. -/
namespace AttributePins

namespace Log

inductive Origin where
  | loading
  | project
  | discovery
  | reading
deriving DecidableEq, Repr

/-- The name that filters address an origin by. -/
def Origin.target : Origin → String
  | .loading => "annopin::core::loader"
  | .project => "annopin::core::context"
  | .discovery => "annopin::core::file_scanner"
  | .reading => "annopin::core::observer"

structure Record where
  level : Level
  origin : Origin
  message : String
  source : Option String := none
deriving DecidableEq, Repr

def Record.fieldNames (record : Record) : List String :=
  "message" :: record.source.elim [] fun _ => ["source"]

/-- The name of a level, set right in five columns. -/
def levelColumn : Level → String
  | .info => " INFO"
  | .warn => " WARN"

def messageChar (c : Char) : List Char :=
  match c with
  | '\x1b' => "\\x1b".toList
  | '\x07' => "\\x07".toList
  | '\x08' => "\\x08".toList
  | '\x0c' => "\\x0c".toList
  | '\x7f' => "\\x7f".toList
  | c => if 0x80 ≤ c.toNat ∧ c.toNat ≤ 0x9f then Text.codePointEscape c else [c]

def Record.render (record : Record) : String :=
  let message := String.ofList (record.message.toList.flatMap messageChar)
  let source := record.source.elim "" fun id => " source=" ++ Text.quoted id
  levelColumn record.level ++ " " ++ message ++ source ++ "\n"

def ofEvent (sourceId : String) (event : Event) : Record where
  level := event.level
  origin := .reading
  message := event.message
  source := some sourceId

end Log
end AttributePins

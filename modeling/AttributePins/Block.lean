import AttributePins.Declaration
import AttributePins.Event
import AttributePins.Text.Basic

/-! Reading the comment block of a source. A scan takes the lines in order and stops at
the first line of code. If that line declares a model, the attributes described before
it are the model's; otherwise there is nothing to declare. -/
namespace AttributePins

/-- The note that a comment line gives, if its second word has a type. -/
def note? (table : TypeTable) (sourceId : String) (number : Nat) (line : List Char) :
    Option Note := do
  let (name, token) ← Line.attributeTokens? line
  if table.contains token then
    some ⟨name, token, Location.wholeLine sourceId number line⟩
  else none

inductive ScanState where
  | reading
  /-- A line of code declared the model. -/
  | model (name : String)
  /-- A line of code declared no model, and what was read before it is dropped. -/
  | noModel
deriving DecidableEq, Repr

def ScanState.hasEnded : ScanState → Bool
  | .reading => false
  | _ => true

/-- The notes read so far, and whether there is more to read. -/
structure Scan where
  pending : List Note
  state : ScanState
deriving DecidableEq, Repr

namespace Scan

def start : Scan := ⟨[], .reading⟩

def step (table : TypeTable) (sourceId : String) (number : Nat) (line : List Char)
    (scan : Scan) : Scan × List Event :=
  let text := String.ofList line
  let processed := Event.lineProcessed number text
  match Line.classify line with
  | .skip reason => (scan, [processed, .lineSkipped number reason])
  | .comment =>
    match note? table sourceId number line with
    | some note =>
      ({ scan with pending := scan.pending ++ [note] },
        [processed, .attributeParsed number note.name note.token])
    | none => (scan, [processed, .unrecognizedType number text])
  | .code =>
    match Line.modelName? line with
    | some name => ({ scan with state := .model name }, [processed, .modelResolved number name])
    | none => ({ scan with state := .noModel }, [processed, .unresolvedModel number text])

/-- Read lines, the first of which has the given number, until the scan has ended. -/
def run (table : TypeTable) (sourceId : String) :
    Nat → List (List Char) → Scan → Scan × List Event
  | _, [], scan => (scan, [])
  | number, line :: rest, scan =>
    let (next, reported) := scan.step table sourceId number line
    if next.state.hasEnded then (next, reported)
    else
      let (last, later) := run table sourceId (number + 1) rest next
      (last, reported ++ later)

/-- What a scan declares. The types of the notes are looked up here. -/
def declaration? (table : TypeTable) (scan : Scan) : Option Declaration :=
  match scan.state with
  | .model name => some ⟨name, scan.pending.filterMap (Note.resolve? table)⟩
  | _ => none

end Scan

/-- What the block at the head of a text declares, and what reading it reports. -/
structure Block where
  declaration? : Option Declaration
  trace : List Event
deriving DecidableEq, Repr

/-- Read the block at the head of a text. The report is closed by the number of
attributes that are handed on. -/
def Block.ofText (table : TypeTable) (sourceId text : String) : Block :=
  let (scan, events) := Scan.start.run table sourceId 0 (Text.lines text.toList)
  let declared := scan.declaration? table
  { declaration? := declared
    trace := events ++ [.attributesEmitted (declared.elim 0 (·.attributes.length))] }

end AttributePins

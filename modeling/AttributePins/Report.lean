import AttributePins.CommandLine
import AttributePins.Config
import AttributePins.Index
import AttributePins.Output
import AttributePins.Text.Width

/-! Reports of what commands found. Failures to read files come first and on the
standard error; then the records of a scan, the pins of a lookup, or the file that
was made. The records of a scan can also be had as a document, for other programs to
read. -/
namespace AttributePins

inductive ExitStatus where
  | success
  /-- The command ran, and something could not be read or found. -/
  | failure
  /-- The command could not run. -/
  | error
deriving DecidableEq, Repr

def ExitStatus.code : ExitStatus → Nat
  | .success => 0
  | .failure => 1
  | .error => 2

inductive Findings where
  /-- The records of a scan, and how many files they come from. -/
  | records (format : OutputFormat) (records : List Declaration) (files : Nat)
  /-- The pins of a model, or those of one attribute. -/
  | pins (model : String) (column : Option String) (known : Bool) (pins : List Pin)
  /-- A settings file was made. -/
  | created
deriving DecidableEq, Repr

/-- Whether something was asked for and not found. -/
def Findings.missing : Findings → Bool
  | .pins _ column known found => !known || (column.isSome && found.isEmpty)
  | _ => false

structure Report where
  findings : Findings
  failures : List LoadFailure
deriving DecidableEq, Repr

def Location.toJson (location : Location) : Json.Value :=
  .object
    [("sourceId", .string location.sourceId), ("startLine", .number location.startLine),
     ("startCol", .number location.startCol), ("endLine", .number location.endLine),
     ("endCol", .number location.endCol)]

def Attribute.toJson (column : Attribute) : Json.Value :=
  .object
    [("name", .string column.name), ("semanticType", .string column.type.name),
     ("location", column.location.toJson)]

def Declaration.toJson (declaration : Declaration) : Json.Value :=
  .object
    [("entityName", .string declaration.model),
     ("attributes", .array (declaration.attributes.map Attribute.toJson))]

/-- The text of a document with all declarations. -/
def renderRecords (records : List Declaration) : String :=
  Json.render (.array (records.map Declaration.toJson))

namespace Report

def status (report : Report) : ExitStatus :=
  if report.failures.isEmpty && !report.findings.missing then .success else .failure

/-- A number of things, with the word for one of them or for many. -/
def counted (count : Nat) (one many : String) : String :=
  s!"{count} " ++ if count = 1 then one else many

/-- A text filled up with spaces to a number of columns. -/
def pad (text : String) (columns : Nat) : String :=
  text ++ String.ofList (List.replicate (columns - Text.width text) ' ')

def columnWidth (texts : List String) : Nat := (texts.map Text.width).foldl max 0

/-- A place as a report shows it, with lines counted from one. -/
def place (location : Location) : String := s!"{location.sourceId}:{location.startLine + 1}"

def successLine (message : String) : Output :=
  .line [Style.green.span "✓", " ", Style.green.span message]

def attributeLine (nameWidth typeWidth : Nat) (column : Attribute) : Output :=
  .line ["  ", pad column.name nameWidth, "  ",
    Style.cyan.span (pad column.type.name typeWidth), "  ",
    Style.dimmed.span (place column.location)]

def declarationLines (declaration : Declaration) : List Output :=
  let nameWidth := columnWidth (declaration.attributes.map (·.name))
  let typeWidth := columnWidth (declaration.attributes.map (·.type.name))
  .line [Style.bold.span declaration.model]
    :: declaration.attributes.map (attributeLine nameWidth typeWidth)

def scanSummary (records : List Declaration) (files : Nat) : String :=
  let fileCount := counted files "file" "files"
  if records.isEmpty then s!"Scanned {fileCount} - no annotated models found"
  else
    let attributes := records.foldr (fun record total => record.attributes.length + total) 0
    let attributeCount := counted attributes "attribute" "attributes"
    let modelCount := counted records.length "model" "models"
    s!"Indexed {attributeCount} on {modelCount} from {fileCount}"

def scanLines (format : OutputFormat) (records : List Declaration) (files : Nat) :
    List Output :=
  match format with
  | .text =>
    records.flatMap (fun record => declarationLines record ++ [.line []])
      ++ [successLine (scanSummary records files)]
  | .json => [.line [renderRecords records]]

def pinLines (pin : Pin) : List Output :=
  [.line [Style.bold.span pin.path, ": ", Style.cyan.span pin.returnType.name],
   .line ["  ", Style.dimmed.span pin.comments],
   .line ["  ", Style.blue.span "-->", " ", place pin.location]]

def errorLine (message : String) : Output :=
  .complaint [Style.alarm.span "error:", s!" {message}"]

def lookupLines (model : String) (column : Option String) (known : Bool) (pins : List Pin) :
    List Output :=
  if !known then [errorLine s!"no annotated model named `{model}`"]
  else
    match column, pins with
    | some name, [] => [errorLine s!"`{model}` has no annotated attribute `{name}`"]
    | none, [] => [.line [Style.bold.span model, " has no annotated attributes"]]
    | _, pins => pins.flatMap pinLines

/-- The lines about files that could not be read: one for each if details are wanted, or
their number. -/
def failureLines (verbose : Bool) (failures : List LoadFailure) : List Output :=
  let mark := Style.caution.span "warning:"
  if verbose then failures.map fun failure => .complaint [mark, s!" {failure.message}"]
  else if failures.isEmpty then []
  else
    [.complaint [mark, s!" {failures.length} file(s) could not be read (use ",
      Style.cyan.span "-v", " for details)"]]

def findingLines : Findings → List Output
  | .records format records files => scanLines format records files
  | .pins model column known pins => lookupLines model column known pins
  | .created => [successLine s!"Created {Config.fileName}"]

def lines (report : Report) (verbose : Bool) : List Output :=
  failureLines verbose report.failures ++ findingLines report.findings

end Report
end AttributePins

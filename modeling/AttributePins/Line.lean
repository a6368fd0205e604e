import AttributePins.Line.ClassHeader
import AttributePins.Line.Directive

/-! The kinds of source lines. Every line is noise that is skipped, a comment that
may describe an attribute, or code; the first line of code ends the comment
block above a model. The skip rules come first, for code lines too. -/
namespace AttributePins

inductive SkipReason where
  | blank
  | schemaHeader
  | bareMarker
  | directive
deriving DecidableEq, Repr

def SkipReason.text : SkipReason → String
  | .blank => "blank line"
  | .schemaHeader => "schema header"
  | .bareMarker => "bare comment marker"
  | .directive => "magic comment"

inductive LineKind where
  | skip (reason : SkipReason)
  | comment
  | code
deriving DecidableEq, Repr

namespace Line

open Text

def isBlankLine (line : List Char) : Bool := line.all isBlank

/-- Whether a line mentions a schema or a table, in this case and anywhere. -/
def isSchemaHeader (line : List Char) : Bool :=
  occursIn "Schema".toList line || occursIn "Table".toList line

/-- What follows the comment marker of a line, if the line is a comment. -/
def afterMarker? (line : List Char) : Option (List Char) :=
  match trimStart line with
  | '#' :: rest => some rest
  | _ => none

def isComment (line : List Char) : Bool := (afterMarker? line).isSome

def isBareMarker (line : List Char) : Bool :=
  match afterMarker? line with
  | some rest => isBlankLine rest
  | none => false

def isDirective (line : List Char) : Bool :=
  match afterMarker? line with
  | some rest => hasDirective '#' rest
  | none => false

def skipReason? (line : List Char) : Option SkipReason :=
  if isBlankLine line then some .blank
  else if isSchemaHeader line then some .schemaHeader
  else if isBareMarker line then some .bareMarker
  else if isDirective line then some .directive
  else none

def classify (line : List Char) : LineKind :=
  match skipReason? line with
  | some reason => .skip reason
  | none => if isComment line then .comment else .code

/-- A comment without its marker and the white space after it; any other line
is left as it is. -/
def stripMarker (line : List Char) : List Char :=
  match afterMarker? line with
  | some rest => trimStart rest
  | none => line

/-- The name and the type token of an attribute: the first two words of a line
without its marker. -/
def attributeTokens? (line : List Char) : Option (String × String) :=
  (firstTwoWords (stripMarker line)).map fun (name, token) =>
    (String.ofList name, String.ofList token)

/-- The model that a line declares. A leading comment marker is passed over. -/
def modelName? (line : List Char) : Option String :=
  (firstHeader? (stripMarker line)).map String.ofList

end Line
end AttributePins

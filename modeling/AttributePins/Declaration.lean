import AttributePins.Text.Bytes

/-! What a comment block declares: a model with typed attributes, each with the
place it was read from. Lines and columns count from zero, columns count
characters, and an end column is exclusive. -/
namespace AttributePins

/-- The types that annotated columns are indexed with. -/
inductive SemanticType where
  | decimal
  | int
  | date
  | dateTime
  | string
  | bool
deriving DecidableEq, Repr

namespace SemanticType

def name : SemanticType → String
  | .decimal => "Decimal"
  | .int => "Int"
  | .date => "Date"
  | .dateTime => "DateTime"
  | .string => "String"
  | .bool => "Bool"

def all : List SemanticType := [.decimal, .int, .date, .dateTime, .string, .bool]

def ofName? (text : String) : Option SemanticType := all.find? fun type => type.name = text

theorem ofName?_name (type : SemanticType) : ofName? type.name = some type := by
  cases type <;> decide

end SemanticType

/-- A table from the type tokens of comments to types. The first entry of a token
counts; a token without an entry has no type. -/
structure TypeTable where
  entries : List (String × SemanticType)
deriving DecidableEq, Repr

namespace TypeTable

/-- The column types that the schema annotator of Rails writes. -/
def rails : TypeTable where
  entries :=
    [("decimal", .decimal), ("integer", .int), ("date", .date), ("datetime", .dateTime),
     ("string", .string), ("boolean", .bool)]

def resolve? (table : TypeTable) (token : String) : Option SemanticType :=
  (table.entries.find? fun entry => entry.1 = token).map (·.2)

def contains (table : TypeTable) (token : String) : Bool := (table.resolve? token).isSome

def tokens (table : TypeTable) : List String := table.entries.map (·.1)

end TypeTable

structure Location where
  sourceId : String
  startLine : Nat
  startCol : Nat
  endLine : Nat
  endCol : Nat
deriving DecidableEq, Repr

namespace Location

def wholeLine (sourceId : String) (number : Nat) (line : List Char) : Location where
  sourceId := sourceId
  startLine := number
  startCol := 0
  endLine := number
  endCol := line.length

/-- The characters of a line that a location covers, if the line is long enough and
the columns are in order. The line is walked to the bytes of the two columns, and cut
there. -/
def slice? (location : Location) (line : List Char) : Option (List Char) := do
  let start ← (Text.columnBytes 0 line)[location.startCol]?
  let stop ← (Text.columnBytes 0 line)[location.endCol]?
  if start ≤ stop then Text.cutBytes? start stop line else none

end Location

structure Attribute where
  name : String
  type : SemanticType
  location : Location
deriving DecidableEq, Repr

/-- An attribute as a comment writes it, with its type still a token. -/
structure Note where
  name : String
  token : String
  location : Location
deriving DecidableEq, Repr

def Note.resolve? (table : TypeTable) (note : Note) : Option Attribute :=
  (table.resolve? note.token).map fun type => ⟨note.name, type, note.location⟩

/-- A model and its attributes, in the order of the comment block. -/
structure Declaration where
  model : String
  attributes : List Attribute
deriving DecidableEq, Repr

end AttributePins

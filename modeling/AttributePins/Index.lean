import AttributePins.Block
import AttributePins.Source

/-! The index: attribute pins by model. Models are kept in the order of their
names, and the pins of a model in the order they were registered, so a model
declared by several sources collects all their attributes. -/
namespace AttributePins

/-- What a pin is called on. Columns are read from records, never from the class. -/
inductive PinScope where
  | record
deriving DecidableEq, Repr

def PinScope.name : PinScope → String
  | .record => "instance"

structure Pin where
  name : String
  /-- The model that owns the attribute. -/
  model : String
  returnType : SemanticType
  location : Location
  scope : PinScope
  /-- Whether the pin reads an attribute, as every pin of an annotation does. -/
  isAttribute : Bool
deriving DecidableEq, Repr

namespace Pin

def ofAttribute (model : String) (column : Attribute) : Pin where
  name := column.name
  model := model
  returnType := column.type
  location := column.location
  scope := .record
  isAttribute := true

def toAttribute (pin : Pin) : Attribute := ⟨pin.name, pin.returnType, pin.location⟩

def comments (pin : Pin) : String := s!"@return [{pin.returnType.name}]"

/-- The full name of the attribute, as in `Account#balance`. -/
def path (pin : Pin) : String := s!"{pin.model}#{pin.name}"

end Pin

/-- Attribute pins by model name, in increasing order of the names. -/
structure Index where
  entries : List (String × List Pin)
deriving DecidableEq, Repr

namespace Index

def empty : Index := ⟨[]⟩

/-- Add pins to the entry of a model, which is made at its place if it is missing. -/
def addPins (model : String) (pins : List Pin) :
    List (String × List Pin) → List (String × List Pin)
  | [] => [(model, pins)]
  | (name, present) :: rest =>
    if model < name then (model, pins) :: (name, present) :: rest
    else if model = name then (name, present ++ pins) :: rest
    else (name, present) :: addPins model pins rest

def register (index : Index) (declaration : Declaration) : Index where
  entries := addPins declaration.model
    (declaration.attributes.map (Pin.ofAttribute declaration.model)) index.entries

def accept (index : Index) (declarations : List Declaration) : Index :=
  declarations.foldl register index

def modelNames (index : Index) : List String := index.entries.map (·.1)

def pins? (index : Index) (model : String) : Option (List Pin) :=
  (index.entries.find? fun entry => entry.1 = model).map (·.2)

def containsModel (index : Index) (model : String) : Bool := (index.pins? model).isSome

def attributesOf (index : Index) (model : String) : List Pin := (index.pins? model).getD []

def lookup? (index : Index) (model name : String) : Option Pin :=
  (index.attributesOf model).find? fun pin => pin.name = name

def modelCount (index : Index) : Nat := index.entries.length

def pinCount (index : Index) : Nat :=
  index.entries.foldr (fun entry total => entry.2.length + total) 0

def isEmpty (index : Index) : Bool := index.entries.isEmpty

/-- The contents of the index as one declaration for each model. -/
def records (index : Index) : List Declaration :=
  index.entries.map fun entry => ⟨entry.1, entry.2.map Pin.toAttribute⟩

end Index

/-- What declarations are handed to, those of one unit at a time. -/
class Sink (σ : Type u) where
  accept : σ → List Declaration → σ

/-- A list keeps what it is handed, in the order of arrival. -/
instance : Sink (List Declaration) where
  accept kept declarations := kept ++ declarations

instance : Sink Index where
  accept := Index.accept

structure Forwarding (σ : Type u) where
  sink : σ
  forwarded : Nat
deriving DecidableEq, Repr

def Forwarding.hand [Sink σ] (state : Forwarding σ) (declarations : List Declaration) :
    Forwarding σ where
  sink := Sink.accept state.sink declarations
  forwarded := state.forwarded + declarations.length

/-- What one unit declares, as it is handed to a sink: at most one model. -/
def SourceUnit.declarations (table : TypeTable) (unit : SourceUnit) : List Declaration :=
  (Block.ofText table unit.sourceId unit.text).declaration?.toList

/-- Read all units, and hand what they declare to a sink, unit by unit in the order given.
A unit that declares nothing is handed on as well, as an empty list. -/
def indexUnits [Sink σ] (table : TypeTable) (units : List SourceUnit) (sink : σ) :
    Forwarding σ :=
  (units.map (SourceUnit.declarations table)).foldl Forwarding.hand ⟨sink, 0⟩

def declarationsOf (table : TypeTable) (units : List SourceUnit) : List Declaration :=
  units.filterMap fun unit => (Block.ofText table unit.sourceId unit.text).declaration?

/-- What reading units reports, each event with the name of its unit. -/
def eventsOf (table : TypeTable) (units : List SourceUnit) : List (String × Event) :=
  units.flatMap fun unit =>
    (Block.ofText table unit.sourceId unit.text).trace.map fun event => (unit.sourceId, event)

end AttributePins

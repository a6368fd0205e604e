import AttributePins.Event

/-! Named texts to be indexed. Sources are handed on in the order of their names,
and sources of one name keep the order they were given in. -/
namespace AttributePins

/-- A text and the name it is reported under, usually a path. -/
structure SourceUnit where
  sourceId : String
  text : String
deriving DecidableEq, Repr

structure LoadFailure where
  sourceId : String
  message : String
deriving DecidableEq, Repr

structure Sources where
  units : List SourceUnit
  failures : List LoadFailure
deriving DecidableEq, Repr

/-- The units in the order of their names. The sort is stable. -/
def sortUnits (units : List SourceUnit) : List SourceUnit :=
  units.mergeSort fun a b => a.sourceId ≤ b.sourceId

/-- The failures in the order of their names. The sort is stable. -/
def sortFailures (failures : List LoadFailure) : List LoadFailure :=
  failures.mergeSort fun a b => a.sourceId ≤ b.sourceId

/-- Load units that are already in memory, such as unsaved buffers. -/
def Sources.ofUnits (units : List SourceUnit) : Sources := ⟨sortUnits units, []⟩

end AttributePins

import AttributePins.Line

/-! What reading a comment block reports, line by line. Events are data; their
wording is a view of them. -/
namespace AttributePins

inductive Level where
  | info
  | warn
deriving DecidableEq, Repr

inductive Event where
  /-- A line is about to be classified. -/
  | lineProcessed (line : Nat) (text : String)
  | lineSkipped (line : Nat) (reason : SkipReason)
  | attributeParsed (line : Nat) (name token : String)
  /-- A comment without two words, or whose second word is no known type. -/
  | unrecognizedType (line : Nat) (text : String)
  | modelResolved (line : Nat) (model : String)
  /-- The first line of code declares no model, so the block is dropped. -/
  | unresolvedModel (line : Nat) (text : String)
  /-- The end of the block, with the number of attributes handed on. -/
  | attributesEmitted (count : Nat)
deriving DecidableEq, Repr

namespace Event

/-- Only a block without a model is worth a warning. -/
def level : Event → Level
  | .unresolvedModel _ _ => .warn
  | _ => .info

def message : Event → String
  | .lineProcessed line text => s!"processing line {line}: {text}"
  | .lineSkipped line reason => s!"skipping line {line} ({reason.text})"
  | .attributeParsed line name token => s!"parsed name: {name} type: {token} (line {line})"
  | .unrecognizedType line _ => s!"could not find annotation in comment (line {line})"
  | .modelResolved line model => s!"found model {model} (line {line})"
  | .unresolvedModel line text => s!"unable to find model name in line {line}: {text}"
  | .attributesEmitted count => s!"adding {count} attributes as pins"

end Event
end AttributePins

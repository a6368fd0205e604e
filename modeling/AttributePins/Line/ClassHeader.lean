import AttributePins.Text.Basic

/-! Class headers of models: `class`, a capitalised name of at least two ASCII
characters, `<`, and one of the two base classes, with any white space between
them. The header may stand anywhere in a line; the leftmost one counts. -/
namespace AttributePins.Line

open Text

/-- Whether a character may follow the first one of a class name. -/
def isNameChar (c : Char) : Bool := c.isAlphanum || c = '_'

/-- The base classes that make a class a model. -/
def baseClasses : List String := ["ActiveRecord::Base", "ApplicationRecord"]

def startsBase (s : List Char) : Bool :=
  baseClasses.any fun base => (afterPrefix? base.toList s).isSome

def className? : List Char → Option (List Char × List Char)
  | c :: rest =>
    let tail := rest.takeWhile isNameChar
    if c.isUpper ∧ tail ≠ [] then some (c :: tail, rest.dropWhile isNameChar) else none
  | [] => none

def headerAt? (s : List Char) : Option (List Char) := do
  let s ← afterPrefix? "class".toList s
  let (name, s) ← className? (trimStart s)
  let s ← afterPrefix? ['<'] (trimStart s)
  if startsBase (trimStart s) then some name else none

/-- The model named by the leftmost class header of a text. -/
def firstHeader? : List Char → Option (List Char)
  | [] => none
  | c :: rest => (headerAt? (c :: rest)).or (firstHeader? rest)

end AttributePins.Line

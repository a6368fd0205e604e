import AttributePins.Text.Basic
import AttributePins.Text.Word

/-! Magic comments. A comment is one if, somewhere on the line of its marker, a
word starts that spells the string-literal directive or an encoding directive
followed by `:` or `=`. Letters are compared without regard to case. -/
namespace AttributePins.Line

open Text

/-- What follows one of the three separators between the words of a directive. -/
def afterJoint? : List Char → Option (List Char)
  | c :: rest => if c = '_' ∨ c = ' ' ∨ c = '-' then some rest else none
  | [] => none

/-- Whether a text starts with `frozen_string_literal`, with any separators. -/
def startsFrozen (s : List Char) : Bool :=
  (do
    let s ← afterFolded? "frozen".toList s
    let s ← afterJoint? s
    let s ← afterFolded? "string".toList s
    let s ← afterJoint? s
    afterFolded? "literal".toList s).isSome

/-- Whether a text starts with `coding`, white space, and `:` or `=`. -/
def startsCoding (s : List Char) : Bool :=
  match afterFolded? "coding".toList s with
  | none => false
  | some rest =>
    match trimStart rest with
    | c :: _ => c = ':' ∨ c = '='
    | [] => false

def startsEncoding (s : List Char) : Bool :=
  match afterFolded? "en".toList s with
  | none => false
  | some rest => startsCoding rest

def startsDirective (s : List Char) : Bool :=
  startsFrozen s || startsEncoding s || startsCoding s

/-- Whether a directive starts a word before the next newline, where `before` is
the character in front of the text. -/
def hasDirective (before : Char) : List Char → Bool
  | [] => false
  | c :: rest =>
    (!isWordChar before && startsDirective (c :: rest)) ||
      (c != '\n' && hasDirective c rest)

end AttributePins.Line

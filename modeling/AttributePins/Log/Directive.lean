import AttributePins.Log
import AttributePins.Log.Expression
import AttributePins.Text.Alphanumeric
import AttributePins.Text.Basic
import AttributePins.Text.Bytes

/-! The rules of a log filter as they are written: `target[span{field=value}]=level`,
where each part may be missing. A rule without a level lets everything through. Blanks
around a rule do not count for where its parts are divided, and yet places are
counted from the first of them; so a rule behind blanks has other parts than it seems
to have. -/
namespace AttributePins.Log

/-- How much a directive lets through. -/
inductive Threshold where
  | off
  | error
  | warn
  | info
  | debug
  | trace
deriving DecidableEq, Repr

namespace Threshold

def admits : Threshold → Level → Bool
  | .off, _ => false
  | .error, _ => false
  | .warn, level => level = .warn
  | _, _ => true

/-- The thresholds in increasing order. Their places are their numbers. -/
def all : List Threshold := [.off, .error, .warn, .info, .debug, .trace]

def name : Threshold → String
  | .off => "off"
  | .error => "error"
  | .warn => "warn"
  | .info => "info"
  | .debug => "debug"
  | .trace => "trace"

/-- A number in decimal digits, with a plus sign in front or without. -/
def number? (text : List Char) : Option Nat :=
  let digits := match text with
    | '+' :: rest => rest
    | digits => digits
  if digits.isEmpty || !digits.all Char.isDigit then none
  else some (digits.foldl (fun n c => 10 * n + (c.toNat - '0'.toNat)) 0)

/-- The threshold of a number, or of a name in any case. -/
def ofText? (text : List Char) : Option Threshold :=
  match (number? text).bind fun n => all[n]? with
  | some threshold => some threshold
  | none => all.find? fun threshold => threshold.name.toList = text.map Char.toLower

/-- The threshold behind an equals sign, which is the widest one if nothing is there. -/
def behindEquals? (text : List Char) : Option Threshold :=
  if text.isEmpty then some .trace else ofText? text

end Threshold

/-- A field that a directive asks for, by its name alone or with a value. -/
structure FieldMatch where
  name : String
  value : Option String := none
deriving DecidableEq, Repr

/-- Read a field. Its value ends at a second equals sign. -/
def FieldMatch.ofText? (text : List Char) : Option FieldMatch :=
  if text.isEmpty then none
  else
    match text.splitOn '=' with
    | name :: value :: _ =>
      if Expression.isNumber value || Expression.isWellFormed value then
        some ⟨String.ofList name, some (String.ofList value)⟩
      else none
    | _ => some ⟨String.ofList text, none⟩

structure Directive where
  /-- What the targets of records start with. -/
  target : Option (List Char) := none
  /-- The name of a span that records are in. -/
  span : Option (List Char) := none
  /-- A field that records have. -/
  field : Option FieldMatch := none
  threshold : Threshold := .trace
deriving DecidableEq, Repr

namespace Directive

/-- Whether a directive is about records by themselves. The others are about spans,
and no record is in one. -/
def isStatic (directive : Directive) : Bool :=
  directive.span.isNone && directive.field.all (·.value.isNone)

def appliesTo (directive : Directive) (record : Record) : Bool :=
  directive.isStatic &&
    directive.target.all (·.isPrefixOf record.origin.target.toList) &&
    directive.field.all (record.fieldNames.contains ·.name)

/-- How closely a directive addresses targets. -/
def reach (directive : Directive) : Nat := directive.target.elim 0 (·.length + 1)

def fieldName (directive : Directive) : String := directive.field.elim "" (·.name)

/-- Whether a directive goes before another one when both apply: a longer target comes
first, then a field, and of two fields the later name. -/
def isNarrower (directive other : Directive) : Bool :=
  if directive.reach = other.reach then other.fieldName < directive.fieldName
  else other.reach < directive.reach

/-- Read what follows a span, from a byte of the text on. -/
def withLevel? (text : List Char) (directive : Directive) (start : Nat) :
    List Char → Option Directive
  | [] => some directive
  | '=' :: _ => do
    let threshold ← Threshold.behindEquals? (← Text.fromByte? (start + 1) text)
    some { directive with threshold := threshold }
  | _ => none

def withField? (text : List Char) (directive : Directive) (start : Nat) (rest : List Char) :
    Option Directive := do
  let inner := rest.takeWhile (· ≠ '}')
  let stop := start + Text.byteLength inner
  match rest.drop inner.length with
  | '}' :: ']' :: rest =>
    let field ← FieldMatch.ofText? (← Text.cutBytes? start stop text)
    withLevel? text { directive with field := some field } (stop + 2) rest
  | _ => none

def withSpan? (text : List Char) (directive : Directive) (start : Nat) (rest : List Char) :
    Option Directive := do
  let inner := rest.takeWhile fun c => c ≠ ']' && c ≠ '{'
  let stop := start + Text.byteLength inner
  let name ← Text.cutBytes? start stop text
  match rest.drop inner.length with
  | ']' :: rest => withLevel? text { directive with span := some name } (stop + 1) rest
  | '{' :: rest =>
    withField? text { directive with span := if name.isEmpty then none else some name }
      (stop + 1) rest
  | _ => none

/-- Whether a character can start a target or a level. -/
def startsTarget (c : Char) : Bool :=
  c = '-' || c = ':' || c = '_' || Text.isAlphanumeric c

def withTarget? (text body : List Char) : Option Directive := do
  let inner := body.takeWhile fun c => c ≠ '=' && c ≠ '['
  let stop := Text.byteLength inner
  match body.drop inner.length with
  | [] =>
    match Threshold.ofText? text with
    | some threshold => some { threshold := threshold }
    | none => some { target := some text }
  | '[' :: rest =>
    withSpan? text { target := some (← Text.cutBytes? 0 stop text) } (stop + 1) rest
  | rest => withLevel? text { target := some (← Text.cutBytes? 0 stop text) } stop rest

def ofText? (text : List Char) : Option Directive :=
  match Text.trim text with
  | [] => none
  | '[' :: rest => withSpan? text {} 1 rest
  | first :: rest => if startsTarget first then withTarget? text (first :: rest) else none

end Directive
end AttributePins.Log

/-! Numbers where a document may not have one. The number is still read, and it must
be within the range of double-precision floats, before its type is found wrong.
The value is followed the way a reader of floats follows it: at most as many
digits as fit 64 bits are kept, the others only move the point. -/
namespace AttributePins.Json

inductive Fault where
  /-- The text ends too early. -/
  | truncated
  /-- The text is no JSON, or has a number out of range. -/
  | malformed
  /-- A value of the wrong type, or a known member for the second time. -/
  | mismatched
deriving DecidableEq, Repr

namespace Number

/-- The largest value of 64 bits. -/
def maxSignificand : Nat := 0xFFFFFFFFFFFFFFFF

/-- The largest exponent that is counted. -/
def maxExponent : Nat := 0x7FFFFFFF

/-- A natural number to the nearest one with 53 significant bits, ties to even. -/
def roundDouble (n : Nat) : Nat :=
  if n < Nat.pow 2 53 then n
  else
    let unit := Nat.pow 2 (n.log2 - 52)
    let quotient := n / unit
    let double := 2 * (n % unit)
    if double > unit ∨ (double = unit ∧ quotient % 2 = 1) then (quotient + 1) * unit
    else quotient * unit

/-- Whether `significand * 10 ^ exponent` is too large for a double. -/
def overflows (significand : Nat) (exponent : Int) : Bool :=
  if significand = 0 ∨ exponent < 0 then false
  else if exponent > 308 then true
  else
    roundDouble significand * roundDouble (Nat.pow 10 exponent.toNat)
      ≥ Nat.pow 2 1024 - Nat.pow 2 970

/-- The significand that digits add to, and how many digits it had no room for. -/
def addDigits : Nat → Nat → List Char → Nat × Nat
  | significand, dropped, [] => (significand, dropped)
  | significand, dropped, c :: rest =>
    let next := significand * 10 + (c.toNat - 48)
    if dropped = 0 ∧ next ≤ maxSignificand then addDigits next 0 rest
    else addDigits significand (dropped + 1) rest

/-- The value of a run of digits, or none beyond the largest exponent. -/
def exponentValue? : Nat → List Char → Option Nat
  | value, [] => some value
  | value, c :: rest =>
    let next := value * 10 + (c.toNat - 48)
    if next ≤ maxExponent then exponentValue? next rest else none

/-- The fault of a number once its value is known. -/
def valueFault (significand : Nat) (exponent : Int) : Fault :=
  if overflows significand exponent then .malformed else .mismatched

/-- The fault of a number from its exponent's sign on. -/
def exponentFault (significand : Nat) (exponent : Int) (s : List Char) : Fault :=
  let (positive, digits) :=
    match s with
    | '+' :: rest => (true, rest)
    | '-' :: rest => (false, rest)
    | rest => (true, rest)
  match digits with
  | [] => .truncated
  | c :: _ =>
    if c.isDigit then
      match exponentValue? 0 (digits.takeWhile Char.isDigit) with
      | some value =>
        valueFault significand (if positive then exponent + value else exponent - value)
      | none => if significand ≠ 0 ∧ positive then .malformed else .mismatched
    else .malformed

/-- The fault of a number from its exponent mark on, if it has one. -/
def scaleFault (significand : Nat) (exponent : Int) : List Char → Fault
  | 'e' :: rest => exponentFault significand exponent rest
  | 'E' :: rest => exponentFault significand exponent rest
  | _ => valueFault significand exponent

def fractionFault (significand dropped : Nat) : List Char → Fault
  | '.' :: rest =>
    let digits := rest.takeWhile Char.isDigit
    let after := rest.dropWhile Char.isDigit
    let (value, ignored) := addDigits significand 0 digits
    if digits.isEmpty then
      if after.isEmpty then .truncated else .malformed
    else scaleFault value (dropped - (digits.length - ignored : Nat) : Int) after
  | rest => scaleFault significand dropped rest

/-- The fault of a number, without its sign, where a value of another type is due. -/
def fault : List Char → Fault
  | [] => .truncated
  | '0' :: rest =>
    match rest with
    | c :: _ => if c.isDigit then .malformed else fractionFault 0 0 rest
    | [] => fractionFault 0 0 []
  | c :: rest =>
    if c.isDigit then
      let digits := c :: rest.takeWhile Char.isDigit
      let (value, dropped) := addDigits 0 0 digits
      fractionFault value dropped (rest.dropWhile Char.isDigit)
    else .malformed

end Number
end AttributePins.Json

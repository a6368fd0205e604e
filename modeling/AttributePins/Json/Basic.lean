/-! JSON documents as reports and settings are written: two spaces of indentation, a
line for each item and member, and brackets without a line break when empty. -/
namespace AttributePins.Json

inductive Value where
  | string (text : String)
  | number (n : Nat)
  | array (items : List Value)
  | object (members : List (String × Value))
deriving Repr

def hexDigit (n : Nat) : Char := if n < 10 then Char.ofNat (48 + n) else Char.ofNat (87 + n)

/-- A character within a string: quotes, backslashes and control characters are
escaped, all others stand for themselves. -/
def escapeChar (c : Char) : List Char :=
  match c with
  | '"' => ['\\', '"']
  | '\\' => ['\\', '\\']
  | '\n' => ['\\', 'n']
  | '\r' => ['\\', 'r']
  | '\t' => ['\\', 't']
  | '\x08' => ['\\', 'b']
  | '\x0c' => ['\\', 'f']
  | c =>
    if c.toNat < 32 then
      ['\\', 'u', '0', '0', hexDigit (c.toNat / 16), hexDigit (c.toNat % 16)]
    else [c]

def quote (text : String) : List Char := '"' :: (text.toList.flatMap escapeChar ++ ['"'])

/-- A line break followed by the indentation of a depth. -/
def newline (depth : Nat) : List Char := '\n' :: List.replicate (2 * depth) ' '

mutual

/-- A value as it stands at a depth. -/
def write (depth : Nat) : Value → List Char
  | .string text => quote text
  | .number n => (Nat.repr n).toList
  | .array [] => ['[', ']']
  | .array (first :: rest) =>
    '[' :: (newline (depth + 1) ++ write (depth + 1) first ++ writeItems (depth + 1) rest
      ++ newline depth ++ [']'])
  | .object [] => ['{', '}']
  | .object (first :: rest) =>
    '{' :: (newline (depth + 1) ++ writeMember (depth + 1) first
      ++ writeMembers (depth + 1) rest ++ newline depth ++ ['}'])

/-- The items of an array after the first. -/
def writeItems (depth : Nat) : List Value → List Char
  | [] => []
  | item :: rest => ',' :: (newline depth ++ write depth item ++ writeItems depth rest)

def writeMember (depth : Nat) : String × Value → List Char
  | (name, value) => quote name ++ [':', ' '] ++ write depth value

def writeMembers (depth : Nat) : List (String × Value) → List Char
  | [] => []
  | member :: rest => ',' :: (newline depth ++ writeMember depth member
      ++ writeMembers depth rest)

end

/-- The text of a document, without a final newline. -/
def render (value : Value) : String := String.ofList (write 0 value)

end AttributePins.Json

import AttributePins.Json.Number

/-! Reading JSON from the front of a text. Each reader gives what is left behind its
value. A value whose member is unknown is skipped to any depth: skipped numbers
have no range, and skipped strings may hold unpaired surrogates. -/
namespace AttributePins.Json

def isSpace (c : Char) : Bool := c = ' ' || c = '\n' || c = '\t' || c = '\r'

def skipSpace (s : List Char) : List Char := s.dropWhile isSpace

theorem length_skipSpace_le (s : List Char) : (skipSpace s).length ≤ s.length :=
  (List.dropWhile_suffix isSpace).length_le

theorem length_of_skipSpace {s rest : List Char} {c : Char} (h : skipSpace s = c :: rest) :
    rest.length < s.length := by
  have := length_skipSpace_le s
  rw [h, List.length_cons] at this
  omega

def hexValue? (c : Char) : Option Nat :=
  if c.isDigit then some (c.toNat - 48)
  else if 'a' ≤ c ∧ c ≤ 'f' then some (c.toNat - 87)
  else if 'A' ≤ c ∧ c ≤ 'F' then some (c.toNat - 55)
  else none

def hexQuad? (a b c d : Char) : Option Nat := do
  let a ← hexValue? a
  let b ← hexValue? b
  let c ← hexValue? c
  let d ← hexValue? d
  some (((a * 16 + b) * 16 + c) * 16 + d)

/-- The fault of a code point escape that lacks some of its four digits: the text has
ended only if fewer than four bytes are left. -/
def shortQuadFault (s : List Char) : Fault :=
  if s.foldr (fun c size => c.utf8Size + size) 0 < 4 then .truncated else .malformed

def simpleEscape? : Char → Option Char
  | '"' => some '"'
  | '\\' => some '\\'
  | '/' => some '/'
  | 'b' => some '\x08'
  | 'f' => some '\x0c'
  | 'n' => some '\n'
  | 'r' => some '\r'
  | 't' => some '\t'
  | _ => none

def isHighSurrogate (n : Nat) : Bool := 0xD800 ≤ n && n ≤ 0xDBFF

def isLowSurrogate (n : Nat) : Bool := 0xDC00 ≤ n && n ≤ 0xDFFF

def prepend (c : Char) (found : Except Fault (List Char × List Char)) :
    Except Fault (List Char × List Char) :=
  found.map fun (text, rest) => (c :: text, rest)

theorem eq_of_prepend {c : Char} {found : Except Fault (List Char × List Char)}
    {text rest : List Char} (read : prepend c found = .ok (text, rest)) :
    ∃ tail, found = .ok (tail, rest) ∧ text = c :: tail := by
  cases found with
  | error fault => simp [prepend, Except.map] at read
  | ok pair =>
    obtain ⟨tail, others⟩ := pair
    cases read
    exact ⟨tail, rfl, rfl⟩

/-- The characters of a string behind its opening quote, and what follows its
closing quote. -/
def readString : List Char → Except Fault (List Char × List Char)
  | [] => .error .truncated
  | '"' :: rest => .ok ([], rest)
  | '\\' :: 'u' :: a :: b :: c :: d :: rest =>
    match hexQuad? a b c d with
    | none => .error .malformed
    | some n =>
      if isLowSurrogate n then .error .malformed
      else if isHighSurrogate n then
        match rest with
        | '\\' :: 'u' :: e :: f :: g :: h :: rest =>
          match hexQuad? e f g h with
          | none => .error .malformed
          | some m =>
            if isLowSurrogate m then
              prepend (Char.ofNat ((n - 0xD800) * 0x400 + (m - 0xDC00) + 0x10000))
                (readString rest)
            else .error .malformed
        | '\\' :: 'u' :: short => .error (shortQuadFault short)
        | [] => .error .truncated
        | ['\\'] => .error .truncated
        | _ => .error .malformed
      else prepend (Char.ofNat n) (readString rest)
  | '\\' :: 'u' :: short => .error (shortQuadFault short)
  | ['\\'] => .error .truncated
  | '\\' :: c :: rest =>
    match simpleEscape? c with
    | some escaped => prepend escaped (readString rest)
    | none => .error .malformed
  | c :: rest => if c.toNat < 32 then .error .malformed else prepend c (readString rest)

theorem length_of_readString {s text rest : List Char} (h : readString s = .ok (text, rest)) :
    rest.length < s.length := by
  fun_induction readString s generalizing text <;>
    simp only [List.length_cons, List.length_nil] <;> grind [eq_of_prepend]

/-- What follows the closing quote of a string that is not looked at. -/
def skipString : List Char → Except Fault (List Char)
  | [] => .error .truncated
  | '"' :: rest => .ok rest
  | '\\' :: 'u' :: a :: b :: c :: d :: rest =>
    if (hexQuad? a b c d).isSome then skipString rest else .error .malformed
  | '\\' :: 'u' :: short => .error (shortQuadFault short)
  | ['\\'] => .error .truncated
  | '\\' :: c :: rest =>
    if (simpleEscape? c).isSome then skipString rest else .error .malformed
  | c :: rest => if c.toNat < 32 then .error .malformed else skipString rest

/-- What follows the remaining letters of `null`, `true` or `false`. -/
def afterLetters : List Char → List Char → Except Fault (List Char)
  | [], s => .ok s
  | _ :: _, [] => .error .truncated
  | p :: ps, c :: s => if p = c then afterLetters ps s else .error .malformed

def skipExponent (s : List Char) : Except Fault (List Char) :=
  let digits :=
    match s with
    | '+' :: rest => rest
    | '-' :: rest => rest
    | rest => rest
  match digits with
  | c :: rest => if c.isDigit then .ok (rest.dropWhile Char.isDigit) else .error .malformed
  | [] => .error .malformed

def skipScale : List Char → Except Fault (List Char)
  | 'e' :: rest => skipExponent rest
  | 'E' :: rest => skipExponent rest
  | rest => .ok rest

def skipFraction : List Char → Except Fault (List Char)
  | '.' :: c :: rest =>
    if c.isDigit then skipScale (rest.dropWhile Char.isDigit) else .error .malformed
  | ['.'] => .error .malformed
  | rest => skipScale rest

/-- What follows a number without its sign that is not looked at. -/
def skipNumber : List Char → Except Fault (List Char)
  | '0' :: rest =>
    match rest with
    | c :: _ => if c.isDigit then .error .malformed else skipFraction rest
    | [] => .ok []
  | c :: rest =>
    if c.isDigit then skipFraction (rest.dropWhile Char.isDigit) else .error .malformed
  | [] => .error .malformed

def skipScalar : List Char → Except Fault (List Char)
  | 'n' :: rest => afterLetters "ull".toList rest
  | 't' :: rest => afterLetters "rue".toList rest
  | 'f' :: rest => afterLetters "alse".toList rest
  | '"' :: rest => skipString rest
  | '-' :: rest => skipNumber rest
  | rest => skipNumber rest

/-- The fault of a text that starts with a value of the wrong type. -/
def wrongValue : List Char → Fault
  | [] => .truncated
  | 'n' :: rest => wrongScalar ((afterLetters "ull".toList rest).map fun _ => ())
  | 't' :: rest => wrongScalar ((afterLetters "rue".toList rest).map fun _ => ())
  | 'f' :: rest => wrongScalar ((afterLetters "alse".toList rest).map fun _ => ())
  | '"' :: rest => wrongScalar ((readString rest).map fun _ => ())
  | '-' :: rest => Number.fault rest
  | '[' :: _ => .mismatched
  | '{' :: _ => .mismatched
  | c :: rest => if c.isDigit then Number.fault (c :: rest) else .malformed
where
  /-- A scalar is read before its type is found wrong. -/
  wrongScalar : Except Fault Unit → Fault
    | .error fault => fault
    | .ok () => .mismatched

def afterColon (s : List Char) : Except Fault (List Char) :=
  match skipSpace s with
  | ':' :: rest => .ok rest
  | [] => .error .truncated
  | _ => .error .malformed

def skipName (s : List Char) : Except Fault (List Char) :=
  match skipSpace s with
  | '"' :: rest => (skipString rest).bind afterColon
  | [] => .error .truncated
  | _ => .error .malformed

end AttributePins.Json

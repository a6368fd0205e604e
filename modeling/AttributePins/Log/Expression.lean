import AttributePins.Text.Alphanumeric

/-! Values that a filter compares fields with. A value is a number or a regular
expression. Values hold no closing brace, so an opening brace outside a set of
characters counts nothing and is an error. -/
namespace AttributePins.Log.Expression

/-- What a backslash or a plain character stands for. -/
inductive Item where
  | literal (c : Char)
  /-- One of several characters. -/
  | several
  /-- An end of the text. -/
  | anchor
deriving DecidableEq, Repr

def digits : List Char := "0123456789abcdef".toList

/-- A character given by a fixed number of hexadecimal digits, and what follows it. -/
def byDigits? (count : Nat) (text : List Char) : Option (Item × List Char) :=
  let code := (text.take count).map Char.toLower
  let value := code.foldl (fun n c => 16 * n + digits.idxOf c) 0
  if code.length = count ∧ code.all digits.contains ∧ value.isValidChar then
    some (.literal (Char.ofNat value), text.drop count)
  else none

/-- What a letter with a backslash before it stands for as one character. -/
def controls : List (Char × Char) :=
  [('a', '\x07'), ('f', '\x0c'), ('n', '\n'), ('r', '\r'), ('t', '\t'), ('v', '\x0b')]

/-- Read what follows a backslash. Word boundaries are not taken. -/
def escape? : List Char → Option (Item × List Char)
  | [] => none
  | c :: rest =>
    if ['d', 'D', 's', 'S', 'w', 'W'].contains c then some (.several, rest)
    else if c = 'p' ∨ c = 'P' then
      match rest with
      | kind :: rest =>
        if ['c', 'l', 'm', 'n', 'p', 's', 'z'].contains kind.toLower then some (.several, rest)
        else none
      | [] => none
    else if c = 'x' then byDigits? 2 rest
    else if c = 'u' then byDigits? 4 rest
    else if c = 'U' then byDigits? 8 rest
    else if c = 'A' ∨ c = 'z' then some (.anchor, rest)
    else
      match controls.lookup c with
      | some control => some (.literal control, rest)
      | none =>
        if c.toNat < 0x80 ∧ !c.isAlphanum ∧ c ≠ '<' ∧ c ≠ '>' then some (.literal c, rest)
        else none

def member? : List Char → Option (Item × List Char)
  | [] => none
  | '\\' :: rest =>
    match escape? rest with
    | some (.anchor, _) => none
    | found => found
  | c :: rest => some (.literal c, rest)

def range? (text : List Char) : Option (List Char) :=
  match member? text with
  | none => none
  | some (first, rest) =>
    match rest with
    | '-' :: next :: more =>
      if next = ']' ∨ next = '-' then some rest
      else
        match first, member? (next :: more) with
        | .literal first, some (.literal last, rest) => if first ≤ last then some rest else none
        | _, _ => none
    | _ => some rest

/-- Read the beginning of a set: a mark that turns it round, hyphens, and a bracket if
it comes first. -/
def opening (text : List Char) : List Char :=
  let members := match text with
    | '^' :: rest => rest
    | text => text
  match members with
  | ']' :: rest => rest
  | members => members.dropWhile (· = '-')

/-- Read the rest of a set that stands in so many others. -/
def set? : Nat → Nat → List Char → Option (List Char)
  | 0, _, _ => none
  | fuel + 1, depth, text =>
    match text with
    | [] => none
    | '[' :: rest => set? fuel (depth + 1) (opening rest)
    | ']' :: rest => if depth = 0 then some rest else set? fuel (depth - 1) rest
    | '&' :: '&' :: rest => set? fuel depth rest
    | '-' :: '-' :: rest => set? fuel depth rest
    | '~' :: '~' :: rest => set? fuel depth rest
    | text => (range? text).bind (set? fuel depth)

def isGroupName : List Char → Bool
  | [] => false
  | c :: rest =>
    (c = '_' || (Text.isAlphanumeric c && !c.isDigit)) &&
      rest.all fun c => c = '_' || c = '.' || c = '[' || c = ']' || Text.isAlphanumeric c

def named? (text : List Char) : Option (List Char) :=
  match text.dropWhile (· ≠ '>') with
  | _ :: rest => if isGroupName (text.takeWhile (· ≠ '>')) then some rest else none
  | [] => none

/-- Whether a text switches options on, and behind a hyphen off. -/
def isOptions (text : List Char) : Bool :=
  text.all (['i', 'm', 's', 'U', 'u', 'R', 'x', '-'].contains ·) && text.Nodup &&
    text.getLast? ≠ some '-'

/-- Read what follows an opening parenthesis, and tell whether a group begins there. -/
def group? (text : List Char) : Option (Bool × List Char) :=
  match text with
  | '?' :: 'P' :: '<' :: rest => (named? rest).map (true, ·)
  | '?' :: '<' :: rest => (named? rest).map (true, ·)
  | '?' :: rest =>
    let options := rest.takeWhile fun c => c ≠ ':' && c ≠ ')'
    match isOptions options, rest.drop options.length with
    | true, ':' :: rest => some (true, rest)
    | true, ')' :: rest => if options.isEmpty then none else some (false, rest)
    | _, _ => none
  | text => some (true, text)

/-- Whether the rest of an expression is well formed, with so many groups open, behind
something that can be repeated or not. -/
def closes : Nat → Nat → Bool → List Char → Bool
  | 0, _, _, _ => false
  | fuel + 1, groups, repeatable, text =>
    match text with
    | [] => groups = 0
    | '(' :: rest =>
      match group? rest with
      | some (true, rest) => closes fuel (groups + 1) false rest
      | some (false, rest) => closes fuel groups false rest
      | none => false
    | ')' :: rest => 0 < groups && closes fuel (groups - 1) true rest
    | '|' :: rest => closes fuel groups false rest
    | '*' :: rest => repeatable && closes fuel groups true rest
    | '+' :: rest => repeatable && closes fuel groups true rest
    | '?' :: rest => repeatable && closes fuel groups true rest
    | '{' :: _ => false
    | '[' :: rest =>
      match set? rest.length 0 (opening rest) with
      | some rest => closes fuel groups true rest
      | none => false
    | '\\' :: rest =>
      match escape? rest with
      | some (_, rest) => closes fuel groups true rest
      | none => false
    | _ :: rest => closes fuel groups true rest

def isWellFormed (text : List Char) : Bool := closes (text.length + 1) 0 false text

def unsigned : List Char → List Char
  | '+' :: rest => rest
  | '-' :: rest => rest
  | text => text

/-- Whether a text is a number in decimal digits, with an exponent or without, or the
name of a value that is none. -/
def isNumber (text : List Char) : Bool :=
  let body := (unsigned text).map Char.toLower
  let whole := body.takeWhile Char.isDigit
  let rest := body.drop whole.length
  let places := match rest with
    | '.' :: rest => rest.takeWhile Char.isDigit
    | _ => []
  let exponent := match rest with
    | '.' :: rest => rest.drop places.length
    | rest => rest
  let ends := match exponent with
    | 'e' :: rest => unsigned rest ≠ [] && (unsigned rest).all Char.isDigit
    | rest => rest.isEmpty
  (whole ++ places ≠ [] && ends) ||
    ["inf", "infinity", "nan"].any fun name => name.toList = body

end AttributePins.Log.Expression

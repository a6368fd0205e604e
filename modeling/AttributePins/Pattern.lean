/-! Wildcard patterns over path texts. `?` stands for any character, `*` for any run
of characters, `[...]` and `[!...]` for a character of a class or outside it, and
`**`, which must fill a whole path component, for any number of components or for
all that is left.
There is no escape character: a class such as `[*]` writes a wildcard literally. -/
namespace AttributePins

inductive ClassItem where
  | single (c : Char)
  | range (first last : Char)
deriving DecidableEq, Repr

def ClassItem.has : ClassItem → Char → Bool
  | .single s, c => s = c
  | .range first last, c => first ≤ c && c ≤ last

/-- The parts of a class body. A dash between two characters makes a range. -/
def ClassItem.parse : List Char → List ClassItem
  | first :: '-' :: last :: rest => .range first last :: parse rest
  | c :: rest => .single c :: parse rest
  | [] => []

namespace Pattern

inductive Token where
  | char (c : Char)
  /-- `?` -/
  | anyChar
  /-- `*` -/
  | anyRun
  /-- `**` -/
  | anyDirectories
  /-- `[...]`, or `[!...]` if negated -/
  | oneOf (negated : Bool) (items : List ClassItem)
deriving DecidableEq, Repr

def Token.char? : Token → Option Char
  | .char c => some c
  | _ => none

inductive Flaw where
  | starRun
  | partialRecursion
  | openClass
deriving DecidableEq, Repr

/-- A flaw and the position, in characters, where it was noticed. -/
structure Error where
  position : Nat
  flaw : Flaw
deriving DecidableEq, Repr

def Flaw.message : Flaw → String
  | .starRun => "wildcards are either regular `*` or recursive `**`"
  | .partialRecursion => "recursive wildcards must form a single path component"
  | .openClass => "invalid range pattern"

def Error.message (e : Error) : String :=
  s!"Pattern syntax error near position {e.position}: {e.flaw.message}"

/-- The items of a class and what follows its closing bracket. The first character
belongs to the class even if it is a bracket. -/
def classBody? : List Char → Option (List ClassItem × List Char)
  | [] => none
  | c :: rest =>
    match rest.dropWhile (· ≠ ']') with
    | [] => none
    | _ :: after => some (ClassItem.parse (c :: rest.takeWhile (· ≠ ']')), after)

theorem length_dropWhile_le (p : Char → Bool) (s : List Char) :
    (s.dropWhile p).length ≤ s.length :=
  (List.dropWhile_suffix p).length_le

theorem length_of_classBody? {s rest : List Char} {items : List ClassItem}
    (h : classBody? s = some (items, rest)) : rest.length < s.length := by
  cases s with
  | nil => simp [classBody?] at h
  | cons c tail =>
    have le := length_dropWhile_le (· ≠ ']') tail
    simp only [classBody?] at h
    split at h
    · simp at h
    · rename_i after eq
      rw [eq] at le
      simp only [Option.some.injEq, Prod.mk.injEq] at h
      simp only [← h.2, List.length_cons] at le ⊢
      omega

def class? : List Char → Option (Token × List Char)
  | '!' :: rest => (classBody? rest).map fun (items, after) => (.oneOf true items, after)
  | rest => (classBody? rest).map fun (items, after) => (.oneOf false items, after)

theorem length_of_class? {s rest : List Char} {token : Token}
    (h : class? s = some (token, rest)) : rest.length < s.length := by
  unfold class? at h
  split at h
  · obtain ⟨⟨items, after⟩, found, same⟩ := Option.map_eq_some_iff.1 h
    simp only [Prod.mk.injEq] at same
    have := length_of_classBody? found
    simp only [← same.2, List.length_cons]
    omega
  · obtain ⟨⟨items, after⟩, found, same⟩ := Option.map_eq_some_iff.1 h
    simp only [Prod.mk.injEq] at same
    have := length_of_classBody? found
    simpa only [← same.2] using this

/-- Read the tokens of a pattern from a position on, where `before` is the
character in front of it. -/
def parseFrom (position : Nat) (before : Option Char) (s : List Char) :
    Except Error (List Token) :=
  match s with
  | [] => .ok []
  | '?' :: rest => (parseFrom (position + 1) (some '?') rest).map (.anyChar :: ·)
  | '*' :: '*' :: '*' :: _ => .error ⟨position + 2, .starRun⟩
  | '*' :: '*' :: rest =>
    if before = none ∨ before = some '/' then
      match rest with
      | [] => .ok [.anyDirectories]
      | '/' :: rest => (parseFrom (position + 3) (some '/') rest).map (.anyDirectories :: ·)
      | _ => .error ⟨position + 2, .partialRecursion⟩
    else .error ⟨position - 1, .partialRecursion⟩
  | '*' :: rest => (parseFrom (position + 1) (some '*') rest).map (.anyRun :: ·)
  | '[' :: rest =>
    match h : class? rest with
    | some (token, after) =>
      have := length_of_class? h
      (parseFrom (position + 1 + (rest.length - after.length)) (some ']') after).map (token :: ·)
    | none => .error ⟨position, .openClass⟩
  | c :: rest => (parseFrom (position + 1) (some c) rest).map (.char c :: ·)
termination_by s.length

/-- Whether each suffix of a text, the longest first, is matched as a whole. -/
def verdicts : List Token → List Char → List Bool
  | [], s => s.map (fun _ => false) ++ [true]
  | .anyRun :: rest, s => reachLater (verdicts rest s)
  | .anyDirectories :: rest, s => reachComponent s (verdicts rest s)
  | .char c :: rest, s => consume (· = c) s (verdicts rest s)
  | .anyChar :: rest, s => consume (fun _ => true) s (verdicts rest s)
  | .oneOf negated items :: rest, s =>
    consume (fun c => items.any (·.has c) != negated) s (verdicts rest s)
where
  /-- Some verdict from here on is true. -/
  reachLater : List Bool → List Bool
    | [] => []
    | v :: vs => (v || vs.any id) :: reachLater vs
  /-- The verdict here is true, or one directly after a later slash is, or the one at
  the end of the text. -/
  reachComponent : List Char → List Bool → List Bool
    | c :: s, v :: vs => (v || afterSlash (c :: s) vs) :: reachComponent s vs
    | _, vs => vs
  /-- Some verdict directly after a slash or at the end of the text is true. -/
  afterSlash : List Char → List Bool → Bool
    | c :: s, v :: vs => ((c = '/' || s.isEmpty) && v) || afterSlash s vs
    | _, _ => false
  /-- The first character is accepted and the verdict after it is true. -/
  consume (accepts : Char → Bool) : List Char → List Bool → List Bool
    | c :: s, _ :: v :: vs => (accepts c && v) :: consume accepts s (v :: vs)
    | _, _ => [false]

end Pattern

structure Pattern where
  tokens : List Pattern.Token
deriving DecidableEq, Repr

namespace Pattern

def parse (text : String) : Except Error Pattern :=
  (parseFrom 0 none text.toList).map (⟨·⟩)

/-- Whether a pattern matches a whole text. A slash is a character like any other. -/
def accepts (pattern : Pattern) (text : String) : Bool :=
  (verdicts pattern.tokens text.toList).headD false

/-- The text of a pattern without wildcards and classes. -/
def literal? (pattern : Pattern) : Option String :=
  (pattern.tokens.mapM Token.char?).map String.ofList

/-- Whether a pattern stands for any number of directories. -/
def isRecursive (pattern : Pattern) : Bool := pattern.tokens.contains .anyDirectories

def startsWithDot (pattern : Pattern) : Bool := pattern.tokens.head? = some (.char '.')

/-- Whether a text is taken as a pattern at all: only `*` and `?` make it one. -/
def isWild (text : String) : Bool := text.toList.any fun c => c = '*' || c = '?'

end Pattern
end AttributePins

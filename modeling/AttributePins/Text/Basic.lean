/-! Texts as lists of characters: character classes, white space and the words between it,
what stands at the start of a text, and its lines. -/
namespace AttributePins.Text

/-- Ranges of code points, both ends included. A table of them is listed in increasing order
with disjoint ranges, so a search may stop at the first range that starts beyond the
character. -/
abbrev Ranges := List (Nat × Nat)

def Ranges.covers : Ranges → Nat → Bool
  | [], _ => false
  | (first, last) :: rest, n =>
    if n < first then false else if n ≤ last then true else Ranges.covers rest n

def Ranges.has (table : Ranges) (c : Char) : Bool := table.covers c.toNat

/-- The ranges of the Unicode property White_Space, which is wider than ASCII blanks and leaves
out the zero-width characters and the information separators U+001C to U+001F. -/
def blankRanges : Ranges :=
  [(0x0009, 0x000D), (0x0020, 0x0020), (0x0085, 0x0085), (0x00A0, 0x00A0), (0x1680, 0x1680),
   (0x2000, 0x200A), (0x2028, 0x2029), (0x202F, 0x202F), (0x205F, 0x205F), (0x3000, 0x3000)]

def isBlank (c : Char) : Bool := blankRanges.has c

def trimStart (s : List Char) : List Char := s.dropWhile isBlank

def trim (s : List Char) : List Char :=
  (trimStart (trimStart s).reverse).reverse

def word (s : List Char) : List Char := s.takeWhile fun c => !isBlank c

def afterWord (s : List Char) : List Char := s.dropWhile fun c => !isBlank c

/-- The first two words of a text, if it has two. -/
def firstTwoWords (s : List Char) : Option (List Char × List Char) :=
  let start := trimStart s
  let next := trimStart (afterWord start)
  if start.isEmpty || next.isEmpty then none else some (word start, word next)

theorem word_append_afterWord (s : List Char) : word s ++ afterWord s = s :=
  List.takeWhile_append_dropWhile

/-- What follows `pattern` at the start of a text. -/
def afterPrefix? : List Char → List Char → Option (List Char)
  | [], s => some s
  | _ :: _, [] => none
  | p :: ps, c :: s => if p = c then afterPrefix? ps s else none

def occursIn (pattern : List Char) : List Char → Bool
  | [] => pattern.isEmpty
  | c :: rest => (afterPrefix? pattern (c :: rest)).isSome || occursIn pattern rest

theorem afterPrefix?_eq_some_iff {pattern s rest : List Char} :
    afterPrefix? pattern s = some rest ↔ s = pattern ++ rest := by
  induction pattern generalizing s with
  | nil => simp [afterPrefix?]
  | cons p ps ih =>
    cases s with
    | nil => simp [afterPrefix?]
    | cons c s =>
      by_cases h : p = c
      · subst h
        simp [afterPrefix?, ih]
      · simp [afterPrefix?, h, Ne.symm h]

/-- The ASCII letter that a character folds to, or the character itself. Besides the capitals,
the long s folds to `s` and the Kelvin sign to `k`; the dotted and dotless i of Turkish fold
to no ASCII letter. -/
def fold (c : Char) : Char :=
  if c = '\u017f' then 's' else if c = '\u212a' then 'k' else c.toLower

/-- What follows `pattern` at the start of a text, comparing folded characters.
The pattern is written in lower case. -/
def afterFolded? : List Char → List Char → Option (List Char)
  | [], s => some s
  | _ :: _, [] => none
  | p :: ps, c :: s => if fold c = p then afterFolded? ps s else none

/-- The lines of a text, without their terminators. A newline ends a line and takes one
carriage return directly before it along; what follows the last newline is a line only if it
is not empty, and keeps its carriage returns. -/
def lines : List Char → List (List Char)
  | [] => []
  | '\n' :: rest => [] :: lines rest
  | '\r' :: '\n' :: rest => [] :: lines rest
  | c :: rest =>
    match lines rest with
    | [] => [[c]]
    | line :: others => (c :: line) :: others

end AttributePins.Text

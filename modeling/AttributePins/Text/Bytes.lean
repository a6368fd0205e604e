/-! Places in a text that are counted in bytes. A place inside a character cannot be
cut at. -/
namespace AttributePins.Text

def byteLength : List Char → Nat
  | [] => 0
  | c :: rest => c.utf8Size + byteLength rest

/-- A text cut after a number of bytes. -/
def splitAtByte? : Nat → List Char → Option (List Char × List Char)
  | 0, text => some ([], text)
  | _ + 1, [] => none
  | n + 1, c :: rest =>
    if n + 1 < c.utf8Size then none
    else (splitAtByte? (n + 1 - c.utf8Size) rest).map fun (front, back) => (c :: front, back)

def fromByte? (start : Nat) (text : List Char) : Option (List Char) :=
  (splitAtByte? start text).map (·.2)

/-- The part of a text between two bytes. -/
def cutBytes? (start stop : Nat) (text : List Char) : Option (List Char) := do
  let (front, _) ← splitAtByte? (stop - start) (← fromByte? start text)
  some front

/-- The bytes of the columns of a text, counted from `start`: one in front of each
character, and one behind the last. -/
def columnBytes (start : Nat) : List Char → List Nat
  | [] => [start]
  | c :: rest => start :: columnBytes (start + c.utf8Size) rest

theorem splitAtByte?_byteLength (front back : List Char) :
    splitAtByte? (byteLength front) (front ++ back) = some (front, back) := by
  induction front with
  | nil => rw [byteLength, splitAtByte?, List.nil_append]
  | cons c rest ih =>
    have := c.utf8Size_pos
    obtain ⟨n, total⟩ : ∃ n, c.utf8Size + byteLength rest = n + 1 :=
      ⟨c.utf8Size + byteLength rest - 1, by omega⟩
    have left : n + 1 - c.utf8Size = byteLength rest := by omega
    simp only [byteLength, total, List.cons_append, splitAtByte?, left, ih]
    rw [if_neg (by omega)]
    rfl

end AttributePins.Text

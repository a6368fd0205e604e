import AttributePins.Json.Basic
import AttributePins.Json.Skip

/-! Reading whole documents, the inverse of writing them. The containers that are still open form
a stack with the parts that have been read, as they do where values are skipped: what is read is
also skipped, from the same place to the same place. Values that are never written, such as
`null` or a number with a fraction, are not read. -/
namespace AttributePins.Json

section Scalars

/-- Whether a number goes on with a fraction or an exponent. -/
def isScaled : List Char → Bool
  | '.' :: _ => true
  | 'e' :: _ => true
  | 'E' :: _ => true
  | _ => false

/-- Whether digits have a zero in front that adds nothing. -/
def isPadded : List Char → Bool
  | '0' :: _ :: _ => true
  | _ => false

def readNatural (s : List Char) : Except Fault (Nat × List Char) :=
  let digits := s.takeWhile Char.isDigit
  let rest := s.dropWhile Char.isDigit
  if digits.isEmpty || isPadded digits then .error .malformed
  else if isScaled rest then .error .mismatched
  else .ok (Nat.ofDigitChars 10 digits 0, rest)

/-- A value without parts in front of a text. -/
def readScalar : List Char → Except Fault (Value × List Char)
  | '"' :: rest => (readString rest).map fun (text, rest) => (.string (String.ofList text), rest)
  | c :: rest =>
    if c.isDigit then (readNatural (c :: rest)).map fun (n, rest) => (.number n, rest)
    else .error (wrongValue (c :: rest))
  | [] => .error .truncated

def readName (s : List Char) : Except Fault (String × List Char) :=
  match skipSpace s with
  | '"' :: rest =>
    (readString rest).bind fun (name, rest) =>
      (afterColon rest).map fun rest => (String.ofList name, rest)
  | [] => .error .truncated
  | _ => .error .malformed

variable {s rest text : List Char} {value : Value}

/-- A string is skipped less strictly than it is read: its surrogates may be unpaired. -/
theorem skipString_of_readString (read : readString s = .ok (text, rest)) :
    skipString s = .ok rest := by
  fun_induction readString s generalizing text <;>
    grind [skipString, eq_of_prepend]

theorem skipFraction_unscaled (ends : isScaled s = false) : skipFraction s = .ok s := by
  unfold skipFraction skipScale
  grind [isScaled]

/-- The digits in front of what is read, as the text has them. -/
theorem eq_of_readNatural {n : Nat} (read : readNatural s = .ok (n, rest)) :
    (s.takeWhile Char.isDigit ≠ [] ∧ isPadded (s.takeWhile Char.isDigit) = false) ∧
      isScaled rest = false ∧ rest = s.dropWhile Char.isDigit := by
  simp only [readNatural] at read
  grind

theorem skipNumber_of_readNatural {n : Nat} (read : readNatural s = .ok (n, rest)) :
    skipNumber s = .ok rest := by
  obtain ⟨⟨some, unpadded⟩, ends, after⟩ := eq_of_readNatural read
  cases s with
  | nil => cases some rfl
  | cons c s =>
    have digit : c.isDigit = true := by
      cases digit : c.isDigit with
      | true => rfl
      | false => exact absurd (List.takeWhile_cons_of_neg (by simp [digit])) some
    rw [List.takeWhile_cons_of_pos digit] at unpadded
    rw [List.dropWhile_cons_of_pos digit] at after
    rw [skipNumber.eq_def]
    split
    · rename_i same
      cases same
      cases s with
      | nil => rw [after]; rfl
      | cons d tail =>
        -- No digit follows a zero, so nothing has been dropped.
        have nothing : d.isDigit = false := by
          cases other : d.isDigit with
          | false => rfl
          | true =>
            rw [List.takeWhile_cons_of_pos other] at unpadded
            cases unpadded
        rw [List.dropWhile_cons_of_neg (by simp [nothing])] at after
        subst after
        simp only [nothing, Bool.false_eq_true, if_false, skipFraction_unscaled ends]
    · rename_i same
      cases same
      rw [if_pos digit, ← after, skipFraction_unscaled ends]
    · contradiction

theorem skipScalar_digit {c : Char} (digit : c.isDigit = true) :
    skipScalar (c :: s) = skipNumber (c :: s) := by
  rw [skipScalar.eq_def]
  split
  case h_6 => rfl
  all_goals
    rename_i same
    cases same
    exact absurd digit (by decide)

theorem skipScalar_of_readScalar (read : readScalar s = .ok (value, rest)) :
    skipScalar s = .ok rest := by
  rw [readScalar.eq_def] at read
  split at read
  · rename_i tail
    cases found : readString tail with
    | error fault => simp [found, Except.map] at read
    | ok pair =>
      simp only [found, Except.map] at read
      cases read
      exact skipString_of_readString found
  · rename_i c tail _
    split at read
    · rename_i digit
      cases found : readNatural (c :: tail) with
      | error fault => simp [found, Except.map] at read
      | ok pair =>
        simp only [found, Except.map] at read
        cases read
        rw [skipScalar_digit digit, skipNumber_of_readNatural found]
    · cases read
  · cases read

theorem skipName_of_readName {name : String} (read : readName s = .ok (name, rest)) :
    skipName s = .ok rest := by
  unfold readName at read
  split at read
  · rename_i tail starts
    cases found : readString tail with
    | error fault => simp [found, Except.bind] at read
    | ok pair =>
      simp only [found, Except.bind] at read
      cases colon : afterColon pair.2 with
      | error fault => simp [colon, Except.map] at read
      | ok after =>
        simp only [colon, Except.map] at read
        cases read
        simp only [skipName, starts, skipString_of_readString found, Except.bind, colon]
  · cases read
  · cases read

theorem length_of_readScalar (read : readScalar s = .ok (value, rest)) : rest.length < s.length :=
  length_of_skipScalar (skipScalar_of_readScalar read)

theorem length_of_readName {name : String} (read : readName s = .ok (name, rest)) :
    rest.length < s.length :=
  length_of_skipName (skipName_of_readName read)

end Scalars

/-- The parts of a container that is still open, the last in front. -/
inductive Open where
  | array (items : List Value)
  /-- The members, and the name of the next one. -/
  | object (members : List (String × Value)) (name : String)
deriving Repr

namespace Open

def frame : Open → Frame
  | .array _ => .array
  | .object _ _ => .object

def close (value : Value) : Open → Value
  | .array items => .array (items.reverse ++ [value])
  | .object members name => .object (members.reverse ++ [(name, value)])

end Open

mutual

/-- The outermost open container and what follows it, from in front of a value on. -/
def readValue (stack : List Open) (s : List Char) : Except Fault (Value × List Char) :=
  match h : skipSpace s with
  | [] => .error .truncated
  | '[' :: rest =>
    have := length_of_skipSpace h
    match k : skipSpace rest with
    | [] => .error .truncated
    | ']' :: rest =>
      have := length_of_skipSpace k
      readRest stack (.array []) rest
    | c :: more =>
      have := length_of_skipSpace k
      readValue (.array [] :: stack) (c :: more)
  | '{' :: rest =>
    have := length_of_skipSpace h
    match k : skipSpace rest with
    | [] => .error .truncated
    | '}' :: rest =>
      have := length_of_skipSpace k
      readRest stack (.object []) rest
    | c :: more =>
      have := length_of_skipSpace k
      match n : readName (c :: more) with
      | .error fault => .error fault
      | .ok (name, rest) =>
        have := length_of_readName n
        readValue (.object [] name :: stack) rest
  | c :: more =>
    have := length_of_skipSpace h
    match n : readScalar (c :: more) with
    | .error fault => .error fault
    | .ok (value, rest) =>
      have := length_of_readScalar n
      readRest stack value rest
termination_by s.length
decreasing_by all_goals grind

/-- The outermost open container and what follows it, from behind a value on. -/
def readRest (stack : List Open) (value : Value) (s : List Char) :
    Except Fault (Value × List Char) :=
  match stack with
  | [] => .ok (value, s)
  | part :: outer =>
    match h : skipSpace s with
    | [] => .error .truncated
    | c :: rest =>
      have := length_of_skipSpace h
      if c = part.frame.closer then readRest outer (part.close value) rest
      else if c = ',' then
        match part with
        | .array items => readValue (.array (value :: items) :: outer) rest
        | .object members last =>
          match n : readName rest with
          | .error fault => .error fault
          | .ok (name, rest) =>
            have := length_of_readName n
            readValue (.object ((last, value) :: members) name :: outer) rest
      else .error .malformed
termination_by s.length
decreasing_by all_goals grind

end

section Steps

variable {stack outer : List Open} {s rest more after : List Char} {c : Char} {value : Value}
  {name : String}

theorem readValue_emptyArray (starts : skipSpace s = '[' :: rest)
    (ends : skipSpace rest = ']' :: more) : readValue stack s = readRest stack (.array []) more := by
  rw [readValue]
  grind

theorem readValue_array (starts : skipSpace s = '[' :: rest) (next : skipSpace rest = c :: more)
    (item : c ≠ ']') : readValue stack s = readValue (.array [] :: stack) (c :: more) := by
  rw [readValue]
  grind

theorem readValue_emptyObject (starts : skipSpace s = '{' :: rest)
    (ends : skipSpace rest = '}' :: more) : readValue stack s = readRest stack (.object []) more := by
  rw [readValue]
  grind

theorem readValue_object (starts : skipSpace s = '{' :: rest) (next : skipSpace rest = c :: more)
    (member : c ≠ '}') (named : readName (c :: more) = .ok (name, after)) :
    readValue stack s = readValue (.object [] name :: stack) after := by
  rw [readValue]
  grind

theorem readValue_scalar (starts : skipSpace s = c :: more) (array : c ≠ '[') (object : c ≠ '{')
    (read : readScalar (c :: more) = .ok (value, rest)) :
    readValue stack s = readRest stack value rest := by
  rw [readValue]
  grind

theorem readRest_nil : readRest [] value s = .ok (value, s) := by
  rw [readRest]

theorem readRest_close {part : Open} (starts : skipSpace s = part.frame.closer :: rest) :
    readRest (part :: outer) value s = readRest outer (part.close value) rest := by
  rw [readRest]
  grind

theorem readRest_item {items : List Value} (starts : skipSpace s = ',' :: rest) :
    readRest (.array items :: outer) value s = readValue (.array (value :: items) :: outer) rest := by
  rw [readRest]
  grind [Open.frame, Frame.closer]

theorem readRest_member {members : List (String × Value)} {last : String}
    (starts : skipSpace s = ',' :: rest) (named : readName rest = .ok (name, more)) :
    readRest (.object members last :: outer) value s =
      readValue (.object ((last, value) :: members) name :: outer) more := by
  rw [readRest]
  grind [Open.frame, Frame.closer]

end Steps

section Skipped

variable {stack outer : List Frame} {s rest more after : List Char} {c : Char}

theorem skipValue_emptyArray (starts : skipSpace s = '[' :: rest)
    (ends : skipSpace rest = ']' :: more) : skipValue stack s = skipRest stack more := by
  rw [skipValue]
  grind

theorem skipValue_array (starts : skipSpace s = '[' :: rest) (next : skipSpace rest = c :: more)
    (item : c ≠ ']') : skipValue stack s = skipValue (.array :: stack) (c :: more) := by
  rw [skipValue]
  grind

theorem skipValue_emptyObject (starts : skipSpace s = '{' :: rest)
    (ends : skipSpace rest = '}' :: more) : skipValue stack s = skipRest stack more := by
  rw [skipValue]
  grind

theorem skipValue_object (starts : skipSpace s = '{' :: rest) (next : skipSpace rest = c :: more)
    (member : c ≠ '}') (named : skipName (c :: more) = .ok after) :
    skipValue stack s = skipValue (.object :: stack) after := by
  rw [skipValue]
  grind

theorem skipValue_scalar (starts : skipSpace s = c :: more) (array : c ≠ '[') (object : c ≠ '{')
    (skip : skipScalar (c :: more) = .ok rest) : skipValue stack s = skipRest stack rest := by
  rw [skipValue]
  grind

theorem skipRest_nil : skipRest [] s = .ok s := by
  rw [skipRest]

theorem skipRest_close {frame : Frame} (starts : skipSpace s = frame.closer :: rest) :
    skipRest (frame :: outer) s = skipRest outer rest := by
  rw [skipRest]
  grind

theorem skipRest_item (starts : skipSpace s = ',' :: rest) :
    skipRest (.array :: outer) s = skipValue (.array :: outer) rest := by
  rw [skipRest]
  grind [Frame.closer]

theorem skipRest_member (starts : skipSpace s = ',' :: rest) (named : skipName rest = .ok more) :
    skipRest (.object :: outer) s = skipValue (.object :: outer) more := by
  rw [skipRest]
  grind [Frame.closer]

/-- What is read is skipped, with the same containers open. The induction follows the reader. -/
theorem skip_of_read :
    (∀ stack s, ∀ {value rest}, readValue stack s = .ok (value, rest) →
      skipValue (stack.map Open.frame) s = .ok rest) ∧
    (∀ stack inner s, ∀ {value rest}, readRest stack inner s = .ok (value, rest) →
      skipRest (stack.map Open.frame) s = .ok rest) := by
  refine readValue.mutual_induct
    (fun stack s => ∀ {value rest}, readValue stack s = .ok (value, rest) →
      skipValue (stack.map Open.frame) s = .ok rest)
    (fun stack inner s => ∀ {value rest}, readRest stack inner s = .ok (value, rest) →
      skipRest (stack.map Open.frame) s = .ok rest)
    ?truncated ?truncatedArray ?emptyArray ?array ?truncatedObject ?emptyObject ?noName ?object
    ?noScalar ?scalar ?nil ?truncatedRest ?close ?item ?noNextName ?member ?noSeparator
  all_goals intros
  -- Where the reader finds a fault there is nothing to show.
  case truncated | truncatedArray | truncatedObject | noName | noScalar =>
    rename_i read
    rw [readValue] at read
    grind
  case truncatedRest | noNextName | noSeparator =>
    rename_i read
    rw [readRest] at read
    grind
  case emptyArray starts _ _ ends _ ih _ _ read =>
    rw [readValue_emptyArray starts ends] at read
    rw [skipValue_emptyArray starts ends, ih read]
  case array starts _ _ _ item next _ ih _ _ read =>
    rw [readValue_array starts next item] at read
    rw [skipValue_array starts next item]
    exact ih read
  case emptyObject starts _ _ ends _ ih _ _ read =>
    rw [readValue_emptyObject starts ends] at read
    rw [skipValue_emptyObject starts ends, ih read]
  case object starts _ _ _ member next _ _ _ named _ ih _ _ read =>
    rw [readValue_object starts next member named] at read
    rw [skipValue_object starts next member (skipName_of_readName named)]
    exact ih read
  case scalar array object starts _ _ _ scalar _ ih _ _ read =>
    rw [readValue_scalar starts array object scalar] at read
    rw [skipValue_scalar starts array object (skipScalar_of_readScalar scalar), ih read]
  case nil read =>
    rw [readRest_nil] at read
    cases read
    exact skipRest_nil
  case close starts _ ih _ _ read =>
    rw [readRest_close starts] at read
    rw [List.map_cons, skipRest_close starts, ih read]
  case item starts _ _ ih _ _ read =>
    rw [readRest_item starts] at read
    rw [List.map_cons, Open.frame, skipRest_item starts]
    exact ih read
  case member named _ starts _ _ ih _ _ read =>
    rw [readRest_member starts named] at read
    rw [List.map_cons, Open.frame, skipRest_member starts (skipName_of_readName named)]
    exact ih read

end Skipped

def read (text : String) : Except Fault Value := do
  let (value, rest) ← readValue [] text.toList
  if (skipSpace rest).isEmpty then .ok value else .error .malformed

/-- Whether a text is a document: one value, with nothing but white space around it. -/
def isDocument (text : String) : Bool :=
  match skipValue [] text.toList with
  | .ok rest => (skipSpace rest).isEmpty
  | .error _ => false

theorem isDocument_of_read {text : String} {value : Value} (found : read text = .ok value) :
    isDocument text = true := by
  unfold read at found
  cases first : readValue [] text.toList with
  | error fault => simp [first, bind, Except.bind] at found
  | ok pair =>
    obtain ⟨inner, rest⟩ := pair
    simp only [first, bind, Except.bind] at found
    have skipped : skipValue [] text.toList = .ok rest := skip_of_read.1 [] _ first
    split at found
    · rename_i ends
      rw [isDocument, skipped]
      exact ends
    · cases found

end AttributePins.Json

import AttributePins.Proofs.Json.Document
import AttributePins.Proofs.Json.Strings

/-! Documents that have been written are read back. In front of what follows a value the reader
gets to the same place with the value itself, so a document never stands for two values. -/
namespace AttributePins.Json

section Numbers

theorem isDigit_of_mem_digits {n : Nat} {c : Char} (member : c ∈ Nat.toDigits 10 n) :
    c.isDigit = true :=
  Nat.isDigit_of_mem_toDigits (by decide) (by decide) member

theorem toDigits_eq_cons (n : Nat) :
    ∃ c more, Nat.toDigits 10 n = c :: more ∧ c.isDigit = true := by
  cases same : Nat.toDigits 10 n with
  | nil => exact absurd same Nat.toDigits_ne_nil
  | cons c more => exact ⟨c, more, rfl, isDigit_of_mem_digits (same ▸ List.mem_cons_self)⟩

theorem head_toDigits_ne {n : Nat} (positive : 0 < n) : (Nat.toDigits 10 n).head? ≠ some '0' := by
  induction n using Nat.strongRecOn with
  | ind n ih =>
    by_cases small : n < 10
    · have digits : ∀ n < 10, 0 < n → (Nat.toDigits 10 n).head? ≠ some '0' := by decide
      exact digits n small positive
    · have front := ih (n / 10) (by omega) (by omega)
      rw [Nat.toDigits_of_base_le (by decide) (by omega), List.head?_append]
      cases first : (Nat.toDigits 10 (n / 10)).head? with
      | none => exact absurd (List.head?_eq_none_iff.mp first) Nat.toDigits_ne_nil
      | some c => rwa [first] at front

/-- Only zero itself is written with a zero in front. -/
theorem isPadded_toDigits (n : Nat) : isPadded (Nat.toDigits 10 n) = false := by
  cases n with
  | zero => decide
  | succ n =>
    have front := head_toDigits_ne n.succ_pos
    unfold isPadded
    split
    · rename_i same
      rw [same] at front
      exact absurd rfl front
    · rfl

/-- Whether a number in front of a text ends there. -/
def endsNumber (rest : List Char) : Bool :=
  (rest.takeWhile Char.isDigit).isEmpty && !isScaled rest

theorem readNatural_repr (n : Nat) {rest : List Char} (ends : endsNumber rest = true) :
    readNatural ((Nat.repr n).toList ++ rest) = .ok (n, rest) := by
  simp only [endsNumber, Bool.and_eq_true, List.isEmpty_iff, Bool.not_eq_true'] at ends
  obtain ⟨nothing, unscaled⟩ := ends
  have kept : rest.dropWhile Char.isDigit = rest := by
    have parts : rest.takeWhile Char.isDigit ++ rest.dropWhile Char.isDigit = rest :=
      List.takeWhile_append_dropWhile
    rwa [nothing, List.nil_append] at parts
  have digits : ∀ c ∈ Nat.toDigits 10 n, c.isDigit = true := fun _ => isDigit_of_mem_digits
  have some : (Nat.toDigits 10 n).isEmpty = false := by
    rw [List.isEmpty_eq_false_iff]
    exact Nat.toDigits_ne_nil
  simp only [readNatural, Nat.toList_repr, List.takeWhile_append_of_pos digits,
    List.dropWhile_append_of_pos digits, nothing, kept, List.append_nil, some,
    isPadded_toDigits, unscaled, Bool.or_self, Bool.false_eq_true, if_false,
    @Nat.ofDigitChars_toDigits 10 n (by decide) (by decide)]

end Numbers

section Values

theorem digit_ne {c d : Char} (digit : c.isDigit = true) (other : d.isDigit = false) : c ≠ d :=
  fun same => absurd (same ▸ digit) (by simp [other])

/-- What a value starts with. -/
theorem write_eq_cons (depth : Nat) (value : Value) :
    ∃ c more, write depth value = c :: more ∧ isSpace c = false ∧ c ≠ ']' ∧ c ≠ '}' := by
  cases value with
  | string text => exact ⟨_, _, by rw [write, quote], rfl, by decide, by decide⟩
  | number n =>
    obtain ⟨c, more, same, digit⟩ := toDigits_eq_cons n
    rw [write, Nat.toList_repr, same]
    refine ⟨c, more, rfl, ?_, digit_ne digit rfl, digit_ne digit rfl⟩
    simp only [isSpace, Bool.or_eq_false_iff, decide_eq_false_iff_not]
    exact ⟨⟨⟨digit_ne digit rfl, digit_ne digit rfl⟩, digit_ne digit rfl⟩, digit_ne digit rfl⟩
  | array items => cases items <;> exact ⟨_, _, by rw [write], rfl, by decide, by decide⟩
  | object members => cases members <;> exact ⟨_, _, by rw [write], rfl, by decide, by decide⟩

variable {s rest : List Char}

theorem skipSpace_write (depth : Nat) (value : Value) (rest : List Char) :
    skipSpace (write depth value ++ rest) = write depth value ++ rest := by
  obtain ⟨c, more, same, solid, -⟩ := write_eq_cons depth value
  rw [same, List.cons_append, skipSpace_solid solid]

theorem readScalar_quote (text : String) (rest : List Char) :
    readScalar (quote text ++ rest) = .ok (.string text, rest) := by
  simp only [quote_append, readScalar, readString_quoted, Except.map, String.ofList_toList]

theorem readScalar_digit {c : Char} (digit : c.isDigit = true) :
    readScalar (c :: s) = (readNatural (c :: s)).map fun (n, rest) => (.number n, rest) := by
  rw [readScalar.eq_def]
  split
  · rename_i same
    cases same
    exact absurd digit (by decide)
  · rename_i same
    cases same
    rw [if_pos digit]
  · contradiction

theorem readName_quote {name : String} {more : List Char}
    (starts : skipSpace s = quote name ++ ':' :: more) : readName s = .ok (name, more) := by
  rw [readName, starts, quote_append]
  simp only [readString_quoted, Except.bind, afterColon, skipSpace_solid (c := ':') rfl,
    Except.map, String.ofList_toList]

/-- A member is read as far as its value. -/
theorem readName_member {depth : Nat} {name : String} {value : Value}
    (starts : skipSpace s = writeMember depth (name, value) ++ rest) :
    readName s = .ok (name, ' ' :: (write depth value ++ rest)) :=
  readName_quote (starts.trans (writeMember_append depth name value rest))

theorem writeMember_eq_cons (depth : Nat) (member : String × Value) :
    ∃ more, writeMember depth member = '"' :: more := by
  rw [writeMember, quote]
  exact ⟨_, rfl⟩

theorem skipSpace_member (depth : Nat) (member : String × Value) (rest : List Char) :
    skipSpace (newline depth ++ (writeMember depth member ++ rest)) =
      writeMember depth member ++ rest := by
  rw [skipSpace_newline, writeMember_append, skipSpace_quote]

theorem endsNumber_items (depth outer : Nat) (items : List Value) (rest : List Char) :
    endsNumber (writeItems depth items ++ (newline outer ++ rest)) = true := by
  cases items <;> rw [writeItems] <;> rfl

theorem endsNumber_members (depth outer : Nat) (members : List (String × Value))
    (rest : List Char) :
    endsNumber (writeMembers depth members ++ (newline outer ++ rest)) = true := by
  cases members <;> rw [writeMembers] <;> rfl

mutual

/-- A value is read as it was written, in front of what cannot belong to a number. -/
theorem readValue_write (value : Value) {depth : Nat} {stack : List Open} {s rest : List Char}
    (starts : skipSpace s = write depth value ++ rest) (ends : endsNumber rest = true) :
    readValue stack s = readRest stack value rest := by
  match value with
  | .string text =>
    rw [write] at starts
    have read := readScalar_quote text rest
    rw [quote_append] at starts read
    exact readValue_scalar starts (by decide) (by decide) read
  | .number n =>
    obtain ⟨c, more, same, digit⟩ := toDigits_eq_cons n
    have read := readNatural_repr n ends
    rw [write] at starts
    rw [Nat.toList_repr, same, List.cons_append] at starts read
    refine readValue_scalar starts (digit_ne digit rfl) (digit_ne digit rfl) ?_
    rw [readScalar_digit digit, read]
    rfl
  | .array [] =>
    rw [write, List.cons_append] at starts
    exact readValue_emptyArray starts (skipSpace_solid rfl rest)
  | .array (first :: items) =>
    rw [write, List.cons_append, List.append_assoc, List.append_assoc, List.append_assoc,
      List.append_assoc, List.singleton_append] at starts
    obtain ⟨c, more, same, -, item, -⟩ := write_eq_cons (depth + 1) first
    have next := (skipSpace_newline (depth + 1) _).trans (skipSpace_write (depth + 1) first
      (writeItems (depth + 1) items ++ (newline depth ++ ']' :: rest)))
    rw [readValue_array starts (next.trans (by rw [same, List.cons_append])) item,
      ← List.cons_append, ← same,
      readValue_write first (skipSpace_write (depth + 1) first _) (endsNumber_items ..),
      readRest_items items [] first rest]
    rfl
  | .object [] =>
    rw [write, List.cons_append] at starts
    exact readValue_emptyObject starts (skipSpace_solid rfl rest)
  | .object ((name, first) :: members) =>
    rw [write, List.cons_append, List.append_assoc, List.append_assoc, List.append_assoc,
      List.append_assoc, List.singleton_append] at starts
    obtain ⟨more, same⟩ := writeMember_eq_cons (depth + 1) (name, first)
    have next := skipSpace_member (depth + 1) (name, first)
      (writeMembers (depth + 1) members ++ (newline depth ++ '}' :: rest))
    have named := readName_member (skipSpace_solid rfl (more ++ (writeMembers (depth + 1) members ++
      (newline depth ++ '}' :: rest))) |>.trans (by rw [same, List.cons_append]))
    rw [readValue_object starts (next.trans (by rw [same, List.cons_append])) (by decide) named,
      readValue_write first ((skipSpace_space rfl _).trans (skipSpace_write ..))
        (endsNumber_members ..),
      readRest_members members [] name first rest]
    rfl

/-- The items behind one that has been read, up to the bracket. -/
theorem readRest_items (items : List Value) {depth outer : Nat} {stack : List Open}
    (before : List Value) (value : Value) (rest : List Char) :
    readRest (.array before :: stack) value
        (writeItems depth items ++ (newline outer ++ ']' :: rest)) =
      readRest stack (.array (before.reverse ++ value :: items)) rest := by
  match items with
  | [] =>
    have closed : skipSpace (newline outer ++ ']' :: rest) =
        (Open.array before).frame.closer :: rest := skipSpace_newline_solid outer rfl rest
    rw [writeItems, List.nil_append, readRest_close closed]
    rfl
  | item :: items =>
    rw [writeItems, List.cons_append, List.append_assoc, List.append_assoc,
      readRest_item (skipSpace_solid rfl _),
      readValue_write item ((skipSpace_newline ..).trans (skipSpace_write ..)) (endsNumber_items ..),
      readRest_items items (value :: before) item rest]
    simp only [List.reverse_cons, List.append_assoc, List.singleton_append]

/-- The members behind one that has been read, up to the brace. -/
theorem readRest_members (members : List (String × Value)) {depth outer : Nat}
    {stack : List Open} (before : List (String × Value)) (last : String) (value : Value)
    (rest : List Char) :
    readRest (.object before last :: stack) value
        (writeMembers depth members ++ (newline outer ++ '}' :: rest)) =
      readRest stack (.object (before.reverse ++ (last, value) :: members)) rest := by
  match members with
  | [] =>
    have closed : skipSpace (newline outer ++ '}' :: rest) =
        (Open.object before last).frame.closer :: rest := skipSpace_newline_solid outer rfl rest
    rw [writeMembers, List.nil_append, readRest_close closed]
    rfl
  | (name, next) :: members =>
    have named := readName_member (skipSpace_member depth (name, next)
      (writeMembers depth members ++ (newline outer ++ '}' :: rest)))
    rw [writeMembers, List.cons_append, List.append_assoc, List.append_assoc,
      readRest_member (skipSpace_solid rfl _) named,
      readValue_write next ((skipSpace_space rfl _).trans (skipSpace_write ..))
        (endsNumber_members ..),
      readRest_members members ((last, value) :: before) name next rest]
    simp only [List.reverse_cons, List.append_assoc, List.singleton_append]

end

/-- Every document that is written is read back. -/
theorem read_render (value : Value) : read (render value) = .ok value := by
  have starts : skipSpace (write 0 value) = write 0 value ++ [] := by
    rw [List.append_nil, ← List.append_nil (write 0 value), skipSpace_write]
  simp only [read, render, String.toList_ofList, readValue_write value starts rfl, readRest_nil,
    bind, Except.bind]
  rfl

theorem isDocument_render (value : Value) : isDocument (render value) = true :=
  isDocument_of_read (read_render value)

end Values
end AttributePins.Json

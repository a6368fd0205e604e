import AttributePins.Json.Basic
import AttributePins.Json.Reader

/-! Strings in documents. What is written for a character is read as that character, whatever
follows, so a quoted text is read back whole. -/
namespace AttributePins.Json

theorem hexValue?_hexDigit : ∀ n < 16, hexValue? (hexDigit n) = some n := by decide

/-- The escape of a control character has its code point. -/
theorem hexQuad?_hexDigit {n : Nat} (small : n < 32) :
    hexQuad? '0' '0' (hexDigit (n / 16)) (hexDigit (n % 16)) = some n := by
  have zero : hexValue? '0' = some 0 := by decide
  have high := hexValue?_hexDigit (n / 16) (by omega)
  have low := hexValue?_hexDigit (n % 16) (by omega)
  simp only [hexQuad?, zero, high, low, bind, Option.bind]
  congr 1
  omega

theorem readString_plain {c : Char} (quote : c ≠ '"') (backslash : c ≠ '\\')
    (printable : ¬ c.toNat < 32) (rest : List Char) :
    readString (c :: rest) = prepend c (readString rest) := by
  simp [readString, backslash, printable]

theorem readString_escapeChar (c : Char) (rest : List Char) :
    readString (escapeChar c ++ rest) = prepend c (readString rest) := by
  unfold escapeChar
  split
  all_goals try rfl
  rename_i quote backslash _ _ _ _ _
  split
  · rename_i small
    simp only [List.cons_append, List.nil_append, readString, hexQuad?_hexDigit small]
    have low : isLowSurrogate c.toNat = false := by simp [isLowSurrogate]; omega
    have high : isHighSurrogate c.toNat = false := by simp [isHighSurrogate]; omega
    simp [low, high, Char.ofNat_toNat]
  · rename_i printable
    exact readString_plain quote backslash printable rest

theorem readString_quoted (text rest : List Char) :
    readString (text.flatMap escapeChar ++ '"' :: rest) = .ok (text, rest) := by
  induction text with
  | nil => rfl
  | cons c text ih =>
    rw [List.flatMap_cons, List.append_assoc, readString_escapeChar, ih]
    rfl

/-- The opening quote in front, as strings are written. -/
theorem quote_append (text : String) (rest : List Char) :
    quote text ++ rest = '"' :: (text.toList.flatMap escapeChar ++ '"' :: rest) := by
  rw [quote, List.cons_append, List.append_assoc, List.singleton_append]

/-- A member in front of a text, as objects have it. -/
theorem writeMember_append (depth : Nat) (name : String) (value : Value) (rest : List Char) :
    writeMember depth (name, value) ++ rest =
      quote name ++ ':' :: ' ' :: (write depth value ++ rest) := by
  rw [writeMember, List.append_assoc, List.append_assoc]
  rfl

section Space

theorem skipSpace_solid {c : Char} (solid : isSpace c = false) (rest : List Char) :
    skipSpace (c :: rest) = c :: rest := by
  rw [skipSpace, List.dropWhile_cons_of_neg (by simp [solid])]

theorem skipSpace_space {c : Char} (space : isSpace c = true) (rest : List Char) :
    skipSpace (c :: rest) = skipSpace rest := by
  rw [skipSpace, List.dropWhile_cons_of_pos space, skipSpace]

theorem skipSpace_newline (depth : Nat) (rest : List Char) :
    skipSpace (newline depth ++ rest) = skipSpace rest := by
  have spaces (n : Nat) : skipSpace (List.replicate n ' ' ++ rest) = skipSpace rest := by
    induction n with
    | zero => rfl
    | succ n ih =>
      rw [List.replicate_succ, List.cons_append, skipSpace_space rfl, ih]
  rw [newline, List.cons_append, skipSpace_space rfl, spaces]

/-- What closes a container on a line of its own. -/
theorem skipSpace_newline_solid (depth : Nat) {c : Char} (solid : isSpace c = false)
    (rest : List Char) : skipSpace (newline depth ++ c :: rest) = c :: rest := by
  rw [skipSpace_newline, skipSpace_solid solid]

theorem skipSpace_quote (text : String) (rest : List Char) :
    skipSpace (quote text ++ rest) = quote text ++ rest := by
  rw [quote_append, skipSpace_solid rfl]

end Space

end AttributePins.Json

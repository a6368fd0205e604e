import AttributePins.Proofs.Json.RoundTrip
import Mathlib.Data.List.TakeWhile

/-! The tokens of documents, and that they are skipped and read exactly: each is passed from in
front of it to behind it, and nothing else is. Strings that are skipped may hold unpaired
surrogates, and numbers may have any size; strings that are read are those that spell a text. -/
namespace AttributePins.Json

section Tokens

def IsSpace (s : List Char) : Prop := ∀ c ∈ s, isSpace c = true

variable {gap s rest raw text : List Char}

theorem isSpace_nil : IsSpace [] := fun _ member => absurd member List.not_mem_nil

theorem skipSpace_gap (space : IsSpace gap) (rest : List Char) :
    skipSpace (gap ++ rest) = skipSpace rest :=
  List.dropWhile_append_of_pos space

theorem skipSpace_to {c : Char} (space : IsSpace gap) (solid : isSpace c = false)
    (rest : List Char) : skipSpace (gap ++ c :: rest) = c :: rest := by
  rw [skipSpace_gap space, skipSpace_solid solid]

/-- A text is white space followed by what is left without it. -/
theorem exists_skipSpace (s : List Char) : ∃ gap, IsSpace gap ∧ s = gap ++ skipSpace s :=
  ⟨s.takeWhile isSpace, fun _ => List.mem_takeWhile_imp, List.takeWhile_append_dropWhile.symm⟩

theorem isEmpty_skipSpace_iff : (skipSpace s).isEmpty = true ↔ IsSpace s := by
  rw [List.isEmpty_iff, skipSpace, List.dropWhile_eq_nil_iff, IsSpace]

/-- The characters between the quotes of a string. -/
inductive StringText : List Char → Prop where
  | nil : StringText []
  | plain {c : Char} {s : List Char} (quote : c ≠ '"') (backslash : c ≠ '\\')
      (printable : ¬ c.toNat < 32) (more : StringText s) : StringText (c :: s)
  | escape {c : Char} {s : List Char} (known : (simpleEscape? c).isSome = true)
      (more : StringText s) : StringText ('\\' :: c :: s)
  | unit {a b c d : Char} {s : List Char} (hex : (hexQuad? a b c d).isSome = true)
      (more : StringText s) : StringText ('\\' :: 'u' :: a :: b :: c :: d :: s)

/-- The characters between the quotes of a string that stands for a text. -/
inductive Spells : List Char → List Char → Prop where
  | nil : Spells [] []
  | plain {c : Char} {s text : List Char} (quote : c ≠ '"') (backslash : c ≠ '\\')
      (printable : ¬ c.toNat < 32) (more : Spells s text) : Spells (c :: s) (c :: text)
  | escape {c plain : Char} {s text : List Char} (known : simpleEscape? c = some plain)
      (more : Spells s text) : Spells ('\\' :: c :: s) (plain :: text)
  | unit {a b c d : Char} {n : Nat} {s text : List Char} (hex : hexQuad? a b c d = some n)
      (low : isLowSurrogate n = false) (high : isHighSurrogate n = false) (more : Spells s text) :
      Spells ('\\' :: 'u' :: a :: b :: c :: d :: s) (Char.ofNat n :: text)
  | pair {a b c d e f g h : Char} {n m : Nat} {s text : List Char}
      (hex : hexQuad? a b c d = some n) (high : isHighSurrogate n = true)
      (hex' : hexQuad? e f g h = some m) (low : isLowSurrogate m = true) (more : Spells s text) :
      Spells ('\\' :: 'u' :: a :: b :: c :: d :: '\\' :: 'u' :: e :: f :: g :: h :: s)
        (Char.ofNat ((n - 0xD800) * 0x400 + (m - 0xDC00) + 0x10000) :: text)

/-- The last two ways in which a backslash is looked for leave none over. -/
theorem not_backslash {c : Char} (alone : c = '\\' → s = [] → False)
    (followed : ∀ d more, c = '\\' → s = d :: more → False) : c ≠ '\\' := by
  intro same
  cases s with
  | nil => exact alone same rfl
  | cons d more => exact followed d more same rfl

/-- No code unit is both halves of a pair. -/
theorem low_of_high {n : Nat} (high : isHighSurrogate n = true) : isLowSurrogate n = false := by
  simp only [isHighSurrogate, isLowSurrogate, Bool.and_eq_true, decide_eq_true_eq,
    Bool.and_eq_false_iff, decide_eq_false_iff_not] at high ⊢
  omega

theorem skipString_of_text (string : StringText raw) (rest : List Char) :
    skipString (raw ++ '"' :: rest) = .ok rest := by
  induction string with
  | nil => rfl
  | plain quote backslash printable _ ih => simp [skipString, backslash, printable, ih]
  | escape known _ ih =>
    obtain ⟨plain, known⟩ := Option.isSome_iff_exists.mp known
    unfold simpleEscape? at known
    split at known
    all_goals first | exact ih | contradiction
  | unit hex _ ih => simp [skipString, hex, ih]

theorem text_of_skipString (skipped : skipString s = .ok rest) :
    ∃ raw, StringText raw ∧ s = raw ++ '"' :: rest := by
  fun_induction skipString s with
  | case2 => exact ⟨[], .nil, by rw [Except.ok.inj skipped]; rfl⟩
  | case3 a b c d s hex ih =>
    obtain ⟨raw, string, rfl⟩ := ih skipped
    exact ⟨_, .unit hex string, rfl⟩
  | case7 c s _ _ known ih =>
    obtain ⟨raw, string, rfl⟩ := ih skipped
    exact ⟨_, .escape known string, rfl⟩
  | case10 c s quote _ _ alone followed printable ih =>
    obtain ⟨raw, string, rfl⟩ := ih skipped
    exact ⟨_, .plain quote (not_backslash alone followed) printable string, rfl⟩
  -- The other ways to go on end with a fault.
  | _ => contradiction

theorem readString_of_spells (spelled : Spells raw text) (rest : List Char) :
    readString (raw ++ '"' :: rest) = .ok (text, rest) := by
  induction spelled with
  | nil => rfl
  | plain quote backslash printable _ ih =>
    rw [List.cons_append, readString_plain quote backslash printable, ih]
    rfl
  | escape known _ ih =>
    unfold simpleEscape? at known
    split at known
    all_goals first | cases known; exact congrArg (prepend _) ih | contradiction
  | unit hex low high _ ih => simp [readString, hex, low, high, ih, prepend, Except.map]
  | pair hex high hex' low _ ih =>
    have notLow : isLowSurrogate _ = false := low_of_high high
    simp [readString, hex, notLow, high, hex', low, ih, prepend, Except.map]

theorem spells_of_readString (read : readString s = .ok (text, rest)) :
    ∃ raw, Spells raw text ∧ s = raw ++ '"' :: rest := by
  fun_induction readString s generalizing text with
  | case2 =>
    cases read
    exact ⟨[], .nil, rfl⟩
  | case6 a b c d n hex notLow high e f g h s m hex' low ih =>
    obtain ⟨text, found, rfl⟩ := eq_of_prepend read
    obtain ⟨raw, spelled, rfl⟩ := ih found
    exact ⟨_, .pair hex high hex' low spelled, rfl⟩
  | case12 a b c d s n hex low high ih =>
    obtain ⟨text, found, rfl⟩ := eq_of_prepend read
    obtain ⟨raw, spelled, rfl⟩ := ih found
    exact ⟨_, .unit hex (by simpa using low) (by simpa using high) spelled, rfl⟩
  | case15 c s _ _ plain known ih =>
    obtain ⟨text, found, rfl⟩ := eq_of_prepend read
    obtain ⟨raw, spelled, rfl⟩ := ih found
    exact ⟨_, .escape known spelled, rfl⟩
  | case18 c s quote _ _ alone followed printable ih =>
    obtain ⟨text, found, rfl⟩ := eq_of_prepend read
    obtain ⟨raw, spelled, rfl⟩ := ih found
    exact ⟨_, .plain quote (not_backslash alone followed) printable spelled, rfl⟩
  | _ => contradiction

/-- What spells a text is a string. -/
theorem Spells.stringText (spelled : Spells raw text) : StringText raw := by
  induction spelled with
  | nil => exact .nil
  | plain quote backslash printable _ ih => exact .plain quote backslash printable ih
  | escape known _ ih => exact .escape (Option.isSome_of_eq_some known) ih
  | unit hex _ _ _ ih => exact .unit (Option.isSome_of_eq_some hex) ih
  | pair hex _ hex' _ _ ih =>
    exact .unit (Option.isSome_of_eq_some hex) (.unit (Option.isSome_of_eq_some hex') ih)

/-- Whether a character stands for itself in a string. -/
def isBare (c : Char) : Bool := decide (c ≠ '"') && decide (c ≠ '\\') && !decide (c.toNat < 32)

/-- A text spells itself if nothing in it has to be escaped. -/
theorem spells_self (bare : text.all isBare = true) : Spells text text := by
  induction text with
  | nil => exact .nil
  | cons c text ih =>
    simp only [List.all_cons, isBare, Bool.and_eq_true, decide_eq_true_eq, Bool.not_eq_true',
      decide_eq_false_iff_not] at bare
    obtain ⟨⟨⟨quote, backslash⟩, printable⟩, others⟩ := bare
    exact .plain quote backslash printable (ih others)

end Tokens

section Numbers

variable {s rest digits integer fraction exponent sign : List Char}

def IsDigits (s : List Char) : Prop := s ≠ [] ∧ ∀ c ∈ s, c.isDigit = true

inductive IsFraction : List Char → Prop where
  | absent : IsFraction []
  | present {digits : List Char} (some : IsDigits digits) : IsFraction ('.' :: digits)

inductive IsExponent : List Char → Prop where
  | absent : IsExponent []
  | present {mark : Char} {sign digits : List Char} (marked : mark = 'e' ∨ mark = 'E')
      (signed : sign ∈ [[], ['+'], ['-']]) (some : IsDigits digits) :
      IsExponent (mark :: (sign ++ digits))

/-- A number, of any size. -/
inductive IsNumber : List Char → Prop where
  | number {sign integer fraction exponent : List Char} (signed : sign ∈ [[], ['-']])
      (some : IsDigits integer) (unpadded : isPadded integer = false)
      (decimals : IsFraction fraction) (scale : IsExponent exponent) :
      IsNumber (sign ++ (integer ++ (fraction ++ exponent)))

theorem IsDigits.exists_cons (some : IsDigits digits)
    (ends : rest.dropWhile Char.isDigit = rest) :
    ∃ c more, digits = c :: more ∧ c.isDigit = true ∧
      (more ++ rest).dropWhile Char.isDigit = rest := by
  cases digits with
  | nil => exact absurd rfl some.1
  | cons c more =>
    have all : ∀ d ∈ more, d.isDigit = true :=
      fun d member => some.2 d (List.mem_cons_of_mem c member)
    exact ⟨c, more, rfl, some.2 c List.mem_cons_self,
      by rw [List.dropWhile_append_of_pos all, ends]⟩

theorem exists_digits {c : Char} (digit : c.isDigit = true) (s : List Char) :
    IsDigits (c :: s.takeWhile Char.isDigit) ∧
      c :: s = c :: s.takeWhile Char.isDigit ++ s.dropWhile Char.isDigit := by
  refine ⟨⟨List.cons_ne_nil _ _, fun d member => ?_⟩, ?_⟩
  · obtain rfl | member := List.mem_cons.mp member
    · exact digit
    · exact List.mem_takeWhile_imp member
  · rw [List.cons_append, List.takeWhile_append_dropWhile]

theorem skipExponent_digit {c : Char} (digit : c.isDigit = true) (s : List Char) :
    skipExponent (c :: s) = .ok (s.dropWhile Char.isDigit) := by
  have plus : c ≠ '+' := digit_ne digit rfl
  have minus : c ≠ '-' := digit_ne digit rfl
  simp [skipExponent, plus, minus, digit]

theorem skipExponent_signed (signed : sign ∈ [[], ['+'], ['-']]) (some : IsDigits digits)
    (ends : rest.dropWhile Char.isDigit = rest) :
    skipExponent (sign ++ (digits ++ rest)) = .ok rest := by
  obtain ⟨c, more, rfl, digit, dropped⟩ := some.exists_cons ends
  simp only [List.mem_cons, List.not_mem_nil, or_false] at signed
  obtain rfl | rfl | rfl := signed
  · rw [List.nil_append, List.cons_append, skipExponent_digit digit, dropped]
  · simp [skipExponent, digit, dropped]
  · simp [skipExponent, digit, dropped]

theorem exists_of_skipExponent (skipped : skipExponent s = .ok rest) :
    ∃ sign digits, sign ∈ [[], ['+'], ['-']] ∧ IsDigits digits ∧ s = sign ++ (digits ++ rest) := by
  -- The sign is split off first; the digits behind it are the same in each case.
  obtain ⟨sign, tail, signed, rfl, front⟩ : ∃ sign tail, sign ∈ [[], ['+'], ['-']] ∧
      s = sign ++ tail ∧ ∃ c more, tail = c :: more ∧ c.isDigit = true ∧
        more.dropWhile Char.isDigit = rest := by
    unfold skipExponent at skipped
    dsimp only at skipped
    split at skipped
    · rename_i c more found
      split at skipped
      · rename_i digit
        cases skipped
        split at found
        · exact ⟨['+'], _, by simp, rfl, c, more, found, digit, rfl⟩
        · exact ⟨['-'], _, by simp, rfl, c, more, found, digit, rfl⟩
        · exact ⟨[], _, by simp, rfl, c, more, found, digit, rfl⟩
      · contradiction
    · contradiction
  obtain ⟨c, more, rfl, digit, rfl⟩ := front
  obtain ⟨some, parts⟩ := exists_digits digit more
  exact ⟨sign, _, signed, some, congrArg (sign ++ ·) parts⟩

/-- What cannot belong to a number leaves it as it is. -/
theorem endsNumber_iff : endsNumber rest = true ↔
    rest.dropWhile Char.isDigit = rest ∧ isScaled rest = false := by
  have parts : rest.takeWhile Char.isDigit ++ rest.dropWhile Char.isDigit = rest :=
    List.takeWhile_append_dropWhile
  have nothing : rest.takeWhile Char.isDigit = [] ↔ rest.dropWhile Char.isDigit = rest :=
    ⟨fun nothing => by rwa [nothing] at parts, fun kept => by
      rw [kept] at parts
      exact List.append_left_eq_self.mp parts⟩
  simp only [endsNumber, Bool.and_eq_true, List.isEmpty_iff, Bool.not_eq_true', nothing]

theorem skipScale_exponent (scale : IsExponent exponent) (ends : endsNumber rest = true) :
    skipScale (exponent ++ rest) = .ok rest := by
  obtain ⟨stays, unscaled⟩ := endsNumber_iff.mp ends
  cases scale with
  | absent =>
    unfold skipScale
    grind [isScaled]
  | present marked signed some =>
    rw [List.cons_append, List.append_assoc]
    obtain rfl | rfl := marked
    all_goals exact skipExponent_signed signed some stays

theorem exists_of_skipScale (skipped : skipScale s = .ok rest) :
    ∃ exponent, IsExponent exponent ∧ s = exponent ++ rest := by
  unfold skipScale at skipped
  split at skipped
  · obtain ⟨sign, digits, signed, some, rfl⟩ := exists_of_skipExponent skipped
    exact ⟨_, .present (.inl rfl) signed some, by simp⟩
  · obtain ⟨sign, digits, signed, some, rfl⟩ := exists_of_skipExponent skipped
    exact ⟨_, .present (.inr rfl) signed some, by simp⟩
  · cases skipped
    exact ⟨[], .absent, rfl⟩

/-- No digit follows the digits of a number in front of its exponent. -/
theorem dropWhile_exponent (scale : IsExponent exponent) (ends : endsNumber rest = true) :
    (exponent ++ rest).dropWhile Char.isDigit = exponent ++ rest := by
  cases scale with
  | absent => exact (endsNumber_iff.mp ends).1
  | present marked _ _ =>
    obtain rfl | rfl := marked
    all_goals exact List.dropWhile_cons_of_neg (by decide)

theorem dropWhile_fraction (decimals : IsFraction fraction) (scale : IsExponent exponent)
    (ends : endsNumber rest = true) :
    (fraction ++ (exponent ++ rest)).dropWhile Char.isDigit = fraction ++ (exponent ++ rest) := by
  cases decimals with
  | absent =>
    rw [List.nil_append]
    exact dropWhile_exponent scale ends
  | present _ => exact List.dropWhile_cons_of_neg (by decide)

theorem skipFraction_fraction (decimals : IsFraction fraction) (scale : IsExponent exponent)
    (ends : endsNumber rest = true) : skipFraction (fraction ++ (exponent ++ rest)) = .ok rest := by
  cases decimals with
  | absent =>
    cases scale with
    | absent => exact skipFraction_unscaled (endsNumber_iff.mp ends).2
    | present marked signed some =>
      have skipped := skipScale_exponent (.present marked signed some) ends
      obtain rfl | rfl := marked <;> exact skipped
  | present some =>
    obtain ⟨c, more, rfl, digit, dropped⟩ := some.exists_cons (dropWhile_exponent scale ends)
    simp only [List.cons_append, skipFraction, digit, if_true, dropped,
      skipScale_exponent scale ends]

theorem exists_of_skipFraction (skipped : skipFraction s = .ok rest) :
    ∃ fraction exponent, IsFraction fraction ∧ IsExponent exponent ∧
      s = fraction ++ (exponent ++ rest) := by
  unfold skipFraction at skipped
  split at skipped
  · rename_i c tail
    split at skipped
    · rename_i digit
      obtain ⟨exponent, scale, after⟩ := exists_of_skipScale skipped
      obtain ⟨some, parts⟩ := exists_digits digit tail
      exact ⟨_, exponent, .present some, scale, by rw [parts, after]; rfl⟩
    · contradiction
  · contradiction
  · obtain ⟨exponent, scale, rfl⟩ := exists_of_skipScale skipped
    exact ⟨[], exponent, .absent, scale, rfl⟩

theorem skipNumber_digits (some : IsDigits integer) (unpadded : isPadded integer = false)
    (stays : rest.dropWhile Char.isDigit = rest) :
    skipNumber (integer ++ rest) = skipFraction rest := by
  obtain ⟨c, more, rfl, digit, dropped⟩ := some.exists_cons stays
  by_cases zero : c = '0'
  · -- No digit follows a zero, neither of this number nor in the rest.
    subst zero
    obtain rfl : more = [] := by
      cases more with
      | nil => rfl
      | cons d more => cases unpadded
    cases rest with
    | nil => rfl
    | cons d tail =>
      have solid : d.isDigit = false := by
        cases other : d.isDigit with
        | false => rfl
        | true =>
          have shorter := (List.dropWhile_suffix Char.isDigit (l := tail)).length_le
          rw [List.dropWhile_cons_of_pos other] at stays
          rw [stays, List.length_cons] at shorter
          omega
      simp [skipNumber, solid]
  · rw [List.cons_append, skipNumber, if_pos digit, dropped]
    exact fun same => zero same

theorem exists_of_skipNumber (skipped : skipNumber s = .ok rest) :
    ∃ integer fraction exponent, (IsDigits integer ∧ isPadded integer = false) ∧
      IsFraction fraction ∧ IsExponent exponent ∧
        s = integer ++ (fraction ++ (exponent ++ rest)) := by
  have zero : IsDigits ['0'] := ⟨List.cons_ne_nil _ _, List.forall_mem_singleton.mpr rfl⟩
  unfold skipNumber at skipped
  split at skipped
  · split at skipped
    · split at skipped
      · contradiction
      · obtain ⟨fraction, exponent, decimals, scale, after⟩ := exists_of_skipFraction skipped
        exact ⟨['0'], fraction, exponent, ⟨zero, rfl⟩, decimals, scale,
          congrArg ('0' :: ·) after⟩
    · cases skipped
      exact ⟨['0'], [], [], ⟨zero, rfl⟩, .absent, .absent, rfl⟩
  · rename_i c tail nonzero
    split at skipped
    · rename_i digit
      obtain ⟨fraction, exponent, decimals, scale, after⟩ := exists_of_skipFraction skipped
      obtain ⟨some, parts⟩ := exists_digits digit tail
      refine ⟨_, fraction, exponent, ⟨some, ?_⟩, decimals, scale, after ▸ parts⟩
      unfold isPadded
      split
      · rename_i same
        exact absurd (List.cons.inj same).1 nonzero
      · rfl
    · contradiction
  · contradiction

/-- What a number starts with. -/
theorem IsNumber.exists_cons (number : IsNumber s) :
    ∃ c more, s = c :: more ∧ (c = '-' ∨ c.isDigit = true) := by
  obtain ⟨signed, some, -, -, -⟩ := number
  simp only [List.mem_cons, List.not_mem_nil, or_false] at signed
  obtain rfl | rfl := signed
  · rename_i integer _ _
    cases integer with
    | nil => exact absurd rfl some.1
    | cons c more => exact ⟨c, _, rfl, .inr (some.2 c List.mem_cons_self)⟩
  · exact ⟨'-', _, rfl, .inl rfl⟩

/-- What starts with something else than a digit and a sign is no number. -/
theorem not_isNumber_cons {c : Char} (digit : c.isDigit = false) (sign : c ≠ '-') :
    ¬IsNumber (c :: s) := by
  intro number
  obtain ⟨d, more, same, starts⟩ := number.exists_cons
  cases same
  obtain same | other := starts
  · exact sign same
  · rw [digit] at other
    contradiction

theorem skipScalar_number (number : IsNumber s) (ends : endsNumber rest = true) :
    skipScalar (s ++ rest) = .ok rest := by
  obtain @⟨sign, integer, fraction, exponent, signed, some, unpadded, decimals, scale⟩ := number
  have skipped : skipNumber (integer ++ (fraction ++ (exponent ++ rest))) = .ok rest := by
    rw [skipNumber_digits some unpadded (dropWhile_fraction decimals scale ends),
      skipFraction_fraction decimals scale ends]
  simp only [List.mem_cons, List.not_mem_nil, or_false] at signed
  simp only [List.append_assoc]
  obtain rfl | rfl := signed
  · rw [List.nil_append]
    cases integer with
    | nil => exact absurd rfl some.1
    | cons c more => exact (skipScalar_digit (some.2 c List.mem_cons_self)).trans skipped
  · exact skipped

end Numbers
section Scalars

variable {s rest letters value : List Char}

inductive IsScalar : List Char → Prop where
  | word {s : List Char} (known : s ∈ ["null", "true", "false"].map String.toList) : IsScalar s
  | string {raw : List Char} (text : StringText raw) : IsScalar ('"' :: (raw ++ ['"']))
  | number {s : List Char} (number : IsNumber s) : IsScalar s

theorem afterLetters_append (letters rest : List Char) :
    afterLetters letters (letters ++ rest) = .ok rest := by
  induction letters with
  | nil => rfl
  | cons c letters ih => simpa [afterLetters] using ih

theorem eq_of_afterLetters (found : afterLetters letters s = .ok rest) : s = letters ++ rest := by
  induction letters generalizing s with
  | nil => exact Except.ok.inj found
  | cons c letters ih =>
    cases s with
    | nil => contradiction
    | cons d s =>
      simp only [afterLetters] at found
      split at found
      · rename_i same
        rw [← same, ih found, List.cons_append]
      · contradiction

theorem skipScalar_scalar (scalar : IsScalar value)
    (ends : IsNumber value → endsNumber rest = true) : skipScalar (value ++ rest) = .ok rest := by
  cases scalar with
  | word known =>
    simp only [List.map_cons, List.map_nil, List.mem_cons, List.not_mem_nil, or_false] at known
    obtain rfl | rfl | rfl := known <;> exact afterLetters_append _ rest
  | string text =>
    rw [List.cons_append, List.append_assoc, List.singleton_append]
    exact skipString_of_text text rest
  | number number => exact skipScalar_number number (ends number)

theorem exists_of_skipScalar (skipped : skipScalar s = .ok rest) :
    ∃ value, IsScalar value ∧ s = value ++ rest := by
  have unsigned (sign : List Char) (signed : sign ∈ [[], ['-']]) {s : List Char}
      (skipped : skipNumber s = .ok rest) :
      ∃ value, IsScalar value ∧ sign ++ s = value ++ rest := by
    obtain ⟨integer, fraction, exponent, ⟨some, unpadded⟩, decimals, scale, rfl⟩ :=
      exists_of_skipNumber skipped
    exact ⟨_, .number ⟨signed, some, unpadded, decimals, scale⟩, by simp⟩
  unfold skipScalar at skipped
  split at skipped
  · exact ⟨_, .word (s := "null".toList) (by decide),
      congrArg ('n' :: ·) (eq_of_afterLetters skipped)⟩
  · exact ⟨_, .word (s := "true".toList) (by decide),
      congrArg ('t' :: ·) (eq_of_afterLetters skipped)⟩
  · exact ⟨_, .word (s := "false".toList) (by decide),
      congrArg ('f' :: ·) (eq_of_afterLetters skipped)⟩
  · obtain ⟨raw, text, rfl⟩ := text_of_skipString skipped
    exact ⟨_, .string text, by simp⟩
  · exact unsigned ['-'] (by simp) skipped
  · exact unsigned [] (by simp) skipped

def startsValue (c : Char) : Bool :=
  !isSpace c && decide (c ≠ ']') && decide (c ≠ '}')

theorem startsValue_digit {c : Char} (digit : c.isDigit = true) : startsValue c = true := by
  simp [startsValue, isSpace, digit_ne digit (d := ' ') rfl, digit_ne digit (d := '\n') rfl,
    digit_ne digit (d := '\t') rfl, digit_ne digit (d := '\r') rfl, digit_ne digit (d := ']') rfl,
    digit_ne digit (d := '}') rfl]

/-- What a scalar starts with. -/
theorem IsScalar.exists_cons (scalar : IsScalar value) :
    ∃ c more, value = c :: more ∧ startsValue c = true ∧ c ≠ '[' ∧ c ≠ '{' := by
  cases scalar with
  | word known =>
    simp only [List.map_cons, List.map_nil, List.mem_cons, List.not_mem_nil, or_false] at known
    obtain rfl | rfl | rfl := known
    all_goals exact ⟨_, _, rfl, by decide, by decide, by decide⟩
  | string => exact ⟨_, _, rfl, by decide, by decide, by decide⟩
  | number number =>
    obtain ⟨c, more, rfl, rfl | digit⟩ := number.exists_cons
    · exact ⟨_, _, rfl, by decide, by decide, by decide⟩
    · exact ⟨c, more, rfl, startsValue_digit digit, digit_ne digit rfl, digit_ne digit rfl⟩

end Scalars
end AttributePins.Json

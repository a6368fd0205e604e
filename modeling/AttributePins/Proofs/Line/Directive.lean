import AttributePins.Line
import AttributePins.Proofs.Text.Words
import Mathlib.Data.List.Forall2

/-! Magic comments as a grammar. A line is one exactly if its first character that is no white
space is the comment marker, and behind the marker, before the next newline, a directive stands
where a word can start. The letters of a directive are compared under simple case folding, which
takes one letter beyond ASCII to `s` and one to `k`. -/
namespace AttributePins.Line

open Text

section Letters

/-- The characters that simple case folding takes to a small ASCII letter. -/
def FoldsTo (letter c : Char) : Prop :=
  c = letter ∨ c = letter.toUpper ∨ (letter = 's' ∧ c = 'ſ') ∨ (letter = 'k' ∧ c = '\u212a')

/-- A text that spells a word, whatever the case of its letters. -/
def Spells (word : String) (s : List Char) : Prop := List.Forall₂ FoldsTo word.toList s

variable {letter c : Char}

theorem small_of_isLower (lower : letter.isLower = true) :
    letter.toNat < 128 ∧ letter.toUpper.toNat < 128 := by
  have small : letter.toNat < 128 := by
    have bound : letter.val ≤ 122 := of_decide_eq_true (Bool.and_eq_true_iff.mp lower).2
    exact Nat.lt_of_le_of_lt (UInt32.le_iff_toNat_le.mp bound) (by decide)
  have capital := of_ascii (p := fun c => c.toUpper.toNat < 128) (by decide +kernel) small
  exact ⟨small, of_decide_eq_true capital⟩

/-- A small letter is the lower case of itself and of its capital. -/
theorem toLower_eq_iff (lower : letter.isLower = true) :
    c.toLower = letter ↔ c = letter ∨ c = letter.toUpper := by
  constructor
  · rintro rfl
    by_cases ascii : c.toNat < 128
    · have checked := of_ascii (p := fun c => !c.toLower.isLower ||
        decide (c = c.toLower ∨ c = c.toLower.toUpper)) (by decide +kernel) ascii
      simpa only [lower, Bool.not_true, Bool.false_or, decide_eq_true_eq] using checked
    · refine .inl (Eq.symm (dif_neg fun upper => ascii ?_))
      exact Nat.lt_of_le_of_lt (UInt32.le_iff_toNat_le.mp upper.2) (by decide)
  · have checked := of_ascii (p := fun c => !c.isLower ||
      decide (c.toLower = c ∧ c.toUpper.toLower = c)) (by decide +kernel) (small_of_isLower lower).1
    simp only [lower, Bool.not_true, Bool.false_or, decide_eq_true_eq] at checked
    rintro (rfl | rfl)
    · exact checked.1
    · exact checked.2

theorem fold_eq_iff (lower : letter.isLower = true) : fold c = letter ↔ FoldsTo letter c := by
  obtain ⟨small, capital⟩ := small_of_isLower lower
  have beyond (sign : Char) (large : ¬ sign.toNat < 128) : sign ≠ letter ∧ sign ≠ letter.toUpper :=
    ⟨fun same => large (same ▸ small), fun same => large (same ▸ capital)⟩
  have long := beyond 'ſ' (by decide)
  have kelvin := beyond '\u212a' (by decide)
  unfold fold FoldsTo
  split
  · rename_i same
    subst same
    simp [long, eq_comm]
  split
  · rename_i same
    subst same
    simp [kelvin, eq_comm]
  · rename_i notLong notKelvin
    simp [toLower_eq_iff lower, notLong, notKelvin]

/-- The reader of a word without regard to case. -/
theorem afterFolded?_iff (word : String) (lower : word.toList.all Char.isLower = true)
    {s rest : List Char} :
    afterFolded? word.toList s = some rest ↔ ∃ front, s = front ++ rest ∧ Spells word front := by
  have spelled (front : List Char) : front.map fold = word.toList ↔ Spells word front := by
    rw [Spells]
    generalize word.toList = letters at lower
    induction letters generalizing front with
    | nil => simp [List.forall₂_nil_left_iff]
    | cons letter letters ih =>
      obtain ⟨first, others⟩ := Bool.and_eq_true_iff.mp lower
      cases front with
      | nil => exact iff_of_false (by simp) fun spelled => by cases spelled
      | cons c front =>
        rw [List.map_cons, List.cons.injEq, List.forall₂_cons, fold_eq_iff first, ih front others]
  rw [afterFolded?_eq_some_iff]
  simp only [spelled]

end Letters

section Directives

variable {s rest : List Char}

/-- What may stand between the words of a directive. -/
def IsJoint (c : Char) : Prop := c = '_' ∨ c = ' ' ∨ c = '-'

/-- A text that starts with the string-literal directive. -/
def FrozenDirective (s : List Char) : Prop :=
  ∃ frozen joint string joint' literal rest,
    s = frozen ++ joint :: (string ++ joint' :: (literal ++ rest)) ∧
    Spells "frozen" frozen ∧ IsJoint joint ∧ Spells "string" string ∧ IsJoint joint' ∧
    Spells "literal" literal

/-- A text that starts with an encoding directive, up to the mark behind its name. -/
def CodingDirective (s : List Char) : Prop :=
  ∃ before coding gap mark rest, s = before ++ (coding ++ (gap ++ mark :: rest)) ∧
    (before = [] ∨ Spells "en" before) ∧ Spells "coding" coding ∧
    (∀ c ∈ gap, isBlank c = true) ∧ (mark = ':' ∨ mark = '=')

theorem afterJoint?_iff :
    afterJoint? s = some rest ↔ ∃ joint, s = joint :: rest ∧ IsJoint joint := by
  cases s with
  | nil => simp [afterJoint?]
  | cons c s =>
    simp only [afterJoint?, Option.ite_none_right_eq_some, Option.some.injEq, List.cons.injEq]
    constructor
    · rintro ⟨joint, rfl⟩
      exact ⟨c, ⟨rfl, rfl⟩, joint⟩
    · rintro ⟨_, ⟨rfl, rfl⟩, joint⟩
      exact ⟨joint, rfl⟩

theorem startsFrozen_iff : startsFrozen s = true ↔ FrozenDirective s := by
  simp only [startsFrozen, Option.isSome_iff_exists, bind, Option.bind_eq_some_iff,
    afterFolded?_iff "frozen" (by decide),
    afterFolded?_iff "string" (by decide),
    afterFolded?_iff "literal" (by decide), afterJoint?_iff]
  constructor
  · rintro ⟨rest, _, ⟨frozen, rfl, first⟩, _, ⟨joint, rfl, known⟩, _, ⟨string, rfl, second⟩, _,
      ⟨joint', rfl, known'⟩, literal, rfl, third⟩
    exact ⟨frozen, joint, string, joint', literal, rest, rfl, first, known, second, known', third⟩
  · rintro ⟨frozen, joint, string, joint', literal, rest, rfl, first, known, second, known', third⟩
    exact ⟨rest, _, ⟨frozen, rfl, first⟩, _, ⟨joint, rfl, known⟩, _, ⟨string, rfl, second⟩, _,
      ⟨joint', rfl, known'⟩, literal, rfl, third⟩

/-- The mark behind the name of an encoding directive. -/
theorem startsCoding_iff : startsCoding s = true ↔ ∃ coding gap mark rest,
    s = coding ++ (gap ++ mark :: rest) ∧ Spells "coding" coding ∧
    (∀ c ∈ gap, isBlank c = true) ∧ (mark = ':' ∨ mark = '=') := by
  have reader {rest : List Char} : afterFolded? "coding".toList s = some rest ↔
      ∃ front, s = front ++ rest ∧ Spells "coding" front := afterFolded?_iff "coding" (by decide)
  rw [startsCoding]
  constructor
  · intro starts
    split at starts
    · contradiction
    · rename_i rest found
      obtain ⟨coding, rfl, spelled⟩ := reader.mp found
      split at starts
      · rename_i mark more trimmed
        obtain ⟨gap, blank, split⟩ := exists_trimStart rest
        rw [trimmed] at split
        exact ⟨coding, gap, mark, more, by rw [split], spelled, blank, of_decide_eq_true starts⟩
      · contradiction
  · rintro ⟨coding, gap, mark, more, rfl, spelled, blank, known⟩
    have solid : isBlank mark = false := by rcases known with rfl | rfl <;> rfl
    have trimmed : trimStart (gap ++ mark :: more) = mark :: more :=
      trimStart_run blank (by rintro _ ⟨rfl⟩; exact solid)
    rw [reader.mpr ⟨coding, rfl, spelled⟩]
    simp only [trimmed, known, decide_true]

theorem startsDirective_iff :
    startsDirective s = true ↔ FrozenDirective s ∨ CodingDirective s := by
  have encoding : startsEncoding s = true ↔
      ∃ before rest, s = before ++ rest ∧ Spells "en" before ∧ startsCoding rest = true := by
    have reader {rest : List Char} : afterFolded? "en".toList s = some rest ↔
        ∃ front, s = front ++ rest ∧ Spells "en" front := afterFolded?_iff "en" (by decide)
    rw [startsEncoding]
    cases found : afterFolded? "en".toList s with
    | none =>
      refine iff_of_false Bool.false_ne_true ?_
      rintro ⟨before, rest, same, spelled, -⟩
      rw [reader.mpr ⟨before, same, spelled⟩] at found
      contradiction
    | some rest =>
      constructor
      · intro starts
        obtain ⟨before, same, spelled⟩ := reader.mp found
        exact ⟨before, rest, same, spelled, starts⟩
      · rintro ⟨before, rest', same, spelled, starts⟩
        obtain rfl := Option.some.inj (found.symm.trans (reader.mpr ⟨before, same, spelled⟩))
        exact starts
  rw [startsDirective, Bool.or_eq_true, Bool.or_eq_true, startsFrozen_iff, or_assoc]
  refine or_congr_right ?_
  rw [encoding, startsCoding_iff]
  simp only [startsCoding_iff]
  constructor
  · rintro (⟨before, _, rfl, first, coding, gap, mark, rest, rfl, later⟩ |
      ⟨coding, gap, mark, rest, rfl, later⟩)
    · exact ⟨before, coding, gap, mark, rest, rfl, .inr first, later⟩
    · exact ⟨[], coding, gap, mark, rest, rfl, .inl rfl, later⟩
  · rintro ⟨before, coding, gap, mark, rest, rfl, rfl | first, later⟩
    · exact .inr ⟨coding, gap, mark, rest, rfl, later⟩
    · exact .inl ⟨before, _, rfl, first, coding, gap, mark, rest, rfl, later⟩

/-- The search goes on up to the next newline, with the last character passed in front. -/
theorem hasDirective_iff {before : Char} : hasDirective before s = true ↔
    ∃ between rest, s = between ++ rest ∧ '\n' ∉ between ∧
      isWordChar (between.getLastD before) = false ∧ startsDirective rest = true := by
  induction s generalizing before with
  | nil =>
    refine iff_of_false Bool.false_ne_true ?_
    rintro ⟨between, rest, same, -, -, starts⟩
    obtain ⟨-, rfl⟩ := List.append_eq_nil_iff.mp same.symm
    contradiction
  | cons c s ih =>
    rw [hasDirective, Bool.or_eq_true, Bool.and_eq_true, Bool.and_eq_true, ih, Bool.not_eq_true',
      bne_iff_ne]
    constructor
    · rintro (⟨boundary, starts⟩ | ⟨goesOn, between, rest, rfl, unbroken, boundary, starts⟩)
      · exact ⟨[], c :: s, rfl, List.not_mem_nil, boundary, starts⟩
      · refine ⟨c :: between, rest, rfl, ?_, ?_, starts⟩
        · exact List.not_mem_cons_of_ne_of_not_mem (Ne.symm goesOn) unbroken
        · rwa [List.getLastD_cons]
    · rintro ⟨between, rest, same, unbroken, boundary, starts⟩
      cases between with
      | nil =>
        obtain rfl : c :: s = rest := same
        exact .inl ⟨boundary, starts⟩
      | cons d between =>
        obtain ⟨rfl, rfl⟩ := List.cons.inj same
        have goesOn : '\n' ≠ c := List.ne_of_not_mem_cons unbroken
        rw [List.getLastD_cons] at boundary
        exact .inr ⟨goesOn.symm, between, rest, rfl, List.not_mem_of_not_mem_cons unbroken, boundary,
          starts⟩

end Directives

theorem afterMarker?_eq_some_iff {line rest : List Char} : afterMarker? line = some rest ↔
    ∃ margin, line = margin ++ '#' :: rest ∧ ∀ c ∈ margin, isBlank c = true := by
  rw [afterMarker?]
  constructor
  · intro found
    split at found
    · rename_i tail trimmed
      obtain rfl := Option.some.inj found
      obtain ⟨margin, blank, split⟩ := exists_trimStart line
      exact ⟨margin, trimmed ▸ split, blank⟩
    · contradiction
  · rintro ⟨margin, rfl, blank⟩
    have trimmed : trimStart (margin ++ '#' :: rest) = '#' :: rest :=
      trimStart_run blank (by rintro _ ⟨rfl⟩; rfl)
    simp only [trimmed]

/-- Which lines are magic comments. -/
theorem isDirective_iff (line : List Char) :
    isDirective line = true ↔ ∃ margin between rest, line = margin ++ '#' :: (between ++ rest) ∧
      (∀ c ∈ margin, isBlank c = true) ∧ '\n' ∉ between ∧
      isWordChar (between.getLastD '#') = false ∧ (FrozenDirective rest ∨ CodingDirective rest) := by
  have marked : isDirective line = true ↔
      ∃ rest, afterMarker? line = some rest ∧ hasDirective '#' rest = true := by
    rw [isDirective]
    cases afterMarker? line <;> simp
  rw [marked]
  simp only [afterMarker?_eq_some_iff, hasDirective_iff, startsDirective_iff]
  constructor
  · rintro ⟨_, ⟨margin, rfl, blank⟩, between, rest, rfl, found⟩
    exact ⟨margin, between, rest, rfl, blank, found⟩
  · rintro ⟨margin, between, rest, rfl, blank, found⟩
    exact ⟨_, ⟨margin, rfl, blank⟩, between, rest, rfl, found⟩

/-- A directive with capitals and a long s, behind a word that has to end before it. -/
example : isDirective "\t# x-FROZEN ſtring-Literal".toList = true ∧
    isDirective "# xfrozen_string_literal".toList = false := by decide +kernel

end AttributePins.Line

import AttributePins.Text.Basic
import Mathlib.Data.List.Infix
import Mathlib.Data.List.TakeWhile

/-! Lines, words and occurrences in texts that are put together from pieces. -/
namespace AttributePins.Text

/-- What holds of each of the first 128 characters holds of every ASCII character. -/
theorem of_ascii {p : Char → Bool}
    (all : ((List.range 128).all fun n => p (Char.ofNat n)) = true) {c : Char}
    (small : c.toNat < 128) : p c = true := by
  have checked := List.all_eq_true.mp all c.toNat (List.mem_range.mpr small)
  rwa [Char.ofNat_toNat] at checked

theorem isBlank_of_isUpper {c : Char} (upper : c.isUpper = true) : isBlank c = false := by
  have bound : 65 ≤ c.val ∧ c.val ≤ 90 := of_decide_eq_true upper
  have small : c.toNat < 128 :=
    Nat.lt_of_le_of_lt (UInt32.le_iff_toNat_le.mp bound.2) (by decide)
  have checked := of_ascii (p := fun c => !c.isUpper || !isBlank c) (by decide +kernel) small
  simpa [upper] using checked

theorem lines_append_newline {line : List Char} (unbroken : '\n' ∉ line)
    (uncarried : line.getLast? ≠ some '\r') (rest : List Char) :
    lines (line ++ '\n' :: rest) = line :: lines rest := by
  induction line with
  | nil => rfl
  | cons c tail ih =>
    have plain : c ≠ '\n' := fun same => unbroken (same ▸ List.mem_cons_self)
    have next : ∀ other, c = '\r' → tail ++ '\n' :: rest ≠ '\n' :: other := by
      rintro other rfl same
      cases tail with
      | nil => exact uncarried rfl
      | cons d _ =>
        obtain ⟨rfl, -⟩ := List.cons.inj same
        exact unbroken (List.mem_cons_of_mem _ List.mem_cons_self)
    have shorter : tail.getLast? ≠ some '\r' := by
      cases tail with
      | nil => simp
      | cons d others => rwa [List.getLast?_cons_cons] at uncarried
    rw [List.cons_append, lines, ih (fun member => unbroken (List.mem_cons_of_mem c member)) shorter]
    · exact plain
    · exact next

section Runs

variable {p : Char → Bool} {run rest : List Char}

/-- A run of characters that goes on as far as it can is the leading one. -/
theorem takeWhile_run (all : ∀ c ∈ run, p c = true)
    (stop : ∀ c, rest.head? = some c → p c = false) : (run ++ rest).takeWhile p = run := by
  rw [List.takeWhile_append_of_pos all]
  cases rest with
  | nil => exact List.append_nil run
  | cons c rest => rw [List.takeWhile_cons_of_neg (by simp [stop c rfl]), List.append_nil]

theorem dropWhile_run (all : ∀ c ∈ run, p c = true)
    (stop : ∀ c, rest.head? = some c → p c = false) : (run ++ rest).dropWhile p = rest := by
  rw [List.dropWhile_append_of_pos all]
  cases rest with
  | nil => rfl
  | cons c rest => rw [List.dropWhile_cons_of_neg (by simp [stop c rfl])]

end Runs

section Words

variable {front rest : List Char}

theorem trimStart_blanks (blanks : ∀ c ∈ front, isBlank c = true) :
    trimStart (front ++ rest) = trimStart rest :=
  List.dropWhile_append_of_pos blanks

/-- A text is white space followed by its trimmed form. -/
theorem exists_trimStart (s : List Char) :
    ∃ gap, (∀ c ∈ gap, isBlank c = true) ∧ s = gap ++ trimStart s :=
  ⟨s.takeWhile isBlank, fun _ => List.mem_takeWhile_imp, List.takeWhile_append_dropWhile.symm⟩

theorem trimStart_of_head (solid : ∀ c, rest.head? = some c → isBlank c = false) :
    trimStart rest = rest := by
  cases rest with
  | nil => rfl
  | cons c tail => rw [trimStart, List.dropWhile_cons_of_neg (by simp [solid c rfl])]

theorem trimStart_run (blanks : ∀ c ∈ front, isBlank c = true)
    (solid : ∀ c, rest.head? = some c → isBlank c = false) : trimStart (front ++ rest) = rest :=
  dropWhile_run blanks solid

theorem word_append (solid : ∀ c ∈ front, isBlank c = false)
    (stop : ∀ c, rest.head? = some c → isBlank c = true) : word (front ++ rest) = front :=
  takeWhile_run (by simpa using solid) (by simpa using stop)

theorem afterWord_append (solid : ∀ c ∈ front, isBlank c = false)
    (stop : ∀ c, rest.head? = some c → isBlank c = true) : afterWord (front ++ rest) = rest :=
  dropWhile_run (by simpa using solid) (by simpa using stop)

end Words

theorem occursIn_iff {pattern s : List Char} : occursIn pattern s = true ↔ pattern <:+: s := by
  induction s with
  | nil => simp [occursIn]
  | cons c rest ih =>
    have start : (afterPrefix? pattern (c :: rest)).isSome = true ↔ pattern <+: c :: rest := by
      simp only [Option.isSome_iff_exists, afterPrefix?_eq_some_iff]
      exact exists_congr fun _ => eq_comm
    rw [occursIn, Bool.or_eq_true, start, ih, List.infix_cons_iff]

theorem isSome_afterPrefix?_append_cons {pattern : List Char} {separator : Char}
    (without : separator ∉ pattern) (first second : List Char) :
    (afterPrefix? pattern (first ++ separator :: second)).isSome =
      (afterPrefix? pattern first).isSome := by
  induction pattern generalizing first with
  | nil => simp [afterPrefix?]
  | cons p ps ih =>
    obtain ⟨different, without⟩ := not_or.mp (mt List.mem_cons.mpr without)
    cases first with
    | nil => simp [afterPrefix?, Ne.symm different]
    | cons c tail =>
      by_cases same : p = c
      · simp only [List.cons_append, afterPrefix?, if_pos same, ih without]
      · simp only [List.cons_append, afterPrefix?, if_neg same]

/-- A pattern without the separator occurs on one side of it. -/
theorem occursIn_append_cons {pattern : List Char} {separator : Char}
    (without : separator ∉ pattern) (first second : List Char) :
    occursIn pattern (first ++ separator :: second) =
      (occursIn pattern first || occursIn pattern second) := by
  induction first with
  | nil =>
    have start := isSome_afterPrefix?_append_cons without [] second
    simp only [List.nil_append, occursIn] at start ⊢
    rw [start]
    cases pattern <;> rfl
  | cons c tail ih =>
    have start := isSome_afterPrefix?_append_cons without (c :: tail) second
    rw [List.cons_append] at start ⊢
    rw [occursIn, start, ih, occursIn, Bool.or_assoc]

theorem afterFolded?_eq_some_iff {pattern s rest : List Char} :
    afterFolded? pattern s = some rest ↔ ∃ front, s = front ++ rest ∧ front.map fold = pattern := by
  induction pattern generalizing s with
  | nil => simp [afterFolded?]
  | cons p ps ih =>
    cases s with
    | nil => simp [afterFolded?]
    | cons c s =>
      by_cases same : fold c = p
      · rw [afterFolded?, if_pos same, ih]
        constructor
        · rintro ⟨front, rfl, rfl⟩
          exact ⟨c :: front, rfl, by rw [List.map_cons, same]⟩
        · rintro ⟨front, split, folded⟩
          cases front with
          | nil => simp at folded
          | cons d front =>
            obtain ⟨rfl, rfl⟩ := List.cons.inj split
            exact ⟨front, rfl, (List.cons.inj folded).2⟩
      · rw [afterFolded?, if_neg same]
        constructor
        · simp
        · rintro ⟨front, split, folded⟩
          cases front with
          | nil => simp at folded
          | cons d front =>
            obtain ⟨rfl, rfl⟩ := List.cons.inj split
            exact absurd (List.cons.inj folded).1 same

end AttributePins.Text

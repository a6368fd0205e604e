import AttributePins.Proofs.Text.Words

/-! The words of a text. A word goes on as far as it can, so it makes no difference whether
white space and words are passed over in turn, or the text is split at every blank and the
void parts are left out; and the first two words stand in a text in one way only. -/
namespace AttributePins.Text

/-- The parts of a text between its blanks, without the void ones. -/
def words (s : List Char) : List (List Char) := (s.splitOnP isBlank).filter fun part => !part.isEmpty

structure IsWord (s : List Char) : Prop where
  filled : s ≠ []
  solid : ∀ c ∈ s, isBlank c = false

/-- A text whose first two words are given, with any white space in front of them and some
between them. -/
def Opens (s first second : List Char) : Prop :=
  ∃ front between rest, s = front ++ (first ++ (between ++ (second ++ rest))) ∧
    (∀ c ∈ front, isBlank c = true) ∧ IsWord first ∧
    between ≠ [] ∧ (∀ c ∈ between, isBlank c = true) ∧ IsWord second ∧
    (∀ c, rest.head? = some c → isBlank c = true)

theorem run_unique {p : Char → Bool} {run rest run' rest' : List Char}
    (same : run ++ rest = run' ++ rest')
    (all : ∀ c ∈ run, p c = true) (stop : ∀ c, rest.head? = some c → p c = false)
    (all' : ∀ c ∈ run', p c = true) (stop' : ∀ c, rest'.head? = some c → p c = false) :
    run = run' ∧ rest = rest' := by
  constructor
  · rw [← takeWhile_run all stop, same, takeWhile_run all' stop']
  · rw [← dropWhile_run all stop, same, dropWhile_run all' stop']

theorem head_trimStart {s : List Char} {c : Char} (head : (trimStart s).head? = some c) :
    isBlank c = false := by
  have solid := List.head?_dropWhile_not isBlank s
  rwa [← trimStart, head] at solid

theorem head_afterWord {s : List Char} {c : Char} (head : (afterWord s).head? = some c) :
    isBlank c = true := by
  have stop := List.head?_dropWhile_not (fun c => !isBlank c) s
  rw [← afterWord, head] at stop
  simpa using stop

theorem isWord_word {s : List Char} (filled : s ≠ [])
    (solid : ∀ c, s.head? = some c → isBlank c = false) : IsWord (word s) := by
  constructor
  · cases s with
    | nil => contradiction
    | cons c rest => simp [word, solid c rfl]
  · intro c member
    simpa using List.mem_takeWhile_imp member

theorem IsWord.head {first : List Char} (isWord : IsWord first) (rest : List Char) (c : Char)
    (head : (first ++ rest).head? = some c) : isBlank c = false := by
  obtain ⟨d, others, rfl⟩ := List.exists_cons_of_ne_nil isWord.filled
  obtain rfl := Option.some.inj head
  exact isWord.solid d List.mem_cons_self

section Splitting

variable {s first second : List Char}

/-- A blank parts the words in front of it from those behind it. -/
theorem words_append_cons {c : Char} (blank : isBlank c = true) (front rest : List Char) :
    words (front ++ c :: rest) = words front ++ words rest := by
  rw [words, List.splitOnP_append_cons front rest blank, List.filter_append, words, words]

theorem words_word (isWord : IsWord s) : words s = [s] := by
  rw [words, List.splitOnP_eq_singleton isWord.solid]
  simp [isWord.filled]

theorem words_trimStart (s : List Char) : words (trimStart s) = words s := by
  induction s with
  | nil => rfl
  | cons c rest ih =>
    by_cases blank : isBlank c = true
    · rw [trimStart, List.dropWhile_cons_of_pos blank, ← trimStart, ih]
      exact (words_append_cons blank [] rest).symm
    · rw [trimStart, List.dropWhile_cons_of_neg blank]

theorem words_append {rest : List Char} (isWord : IsWord first)
    (stop : ∀ c, rest.head? = some c → isBlank c = true) :
    words (first ++ rest) = first :: words rest := by
  cases rest with
  | nil =>
    rw [List.append_nil, words_word isWord]
    rfl
  | cons c rest =>
    have blank := stop c rfl
    rw [words_append_cons blank, words_word isWord, ← List.nil_append (c :: rest),
      words_append_cons blank]
    rfl

/-- A text that is not blank starts with a word, and goes on with the others. -/
theorem words_eq_cons (filled : trimStart s ≠ []) :
    words s = word (trimStart s) :: words (trimStart (afterWord (trimStart s))) := by
  have split := words_append (isWord_word filled fun _ => head_trimStart)
    fun _ => head_afterWord (s := trimStart s)
  rw [word_append_afterWord, words_trimStart] at split
  rw [split, words_trimStart]

theorem firstTwoWords_eq (s : List Char) :
    firstTwoWords s =
      if trimStart s = [] ∨ trimStart (afterWord (trimStart s)) = [] then none
      else some (word (trimStart s), word (trimStart (afterWord (trimStart s)))) := by
  simp only [firstTwoWords, Bool.or_eq_true, List.isEmpty_iff]

/-- The reader of two words fails exactly on a text that has fewer. -/
theorem firstTwoWords_eq_none_iff : firstTwoWords s = none ↔ (words s).length < 2 := by
  rw [firstTwoWords_eq]
  by_cases void : trimStart s = []
  · have none : words s = [] := by
      rw [← words_trimStart, void]
      rfl
    simp [void, none]
  · have split := words_eq_cons void
    by_cases void' : trimStart (afterWord (trimStart s)) = []
    · have one : words s = [word (trimStart s)] := by
        rw [split, void']
        rfl
      simp [void', one]
    · have split' := words_eq_cons void'
      rw [words_trimStart] at split
      simp [void, void', split, split']

theorem firstTwoWords_eq_some_iff : firstTwoWords s = some (first, second) ↔
    Opens s first second := by
  rw [firstTwoWords_eq]
  constructor
  · intro read
    obtain ⟨filled, found⟩ := Option.ite_none_left_eq_some.mp read
    obtain ⟨void, void'⟩ := not_or.mp filled
    obtain ⟨rfl, rfl⟩ := Prod.mk.inj (Option.some.inj found)
    obtain ⟨front, blank, split⟩ := exists_trimStart s
    obtain ⟨between, blank', split'⟩ := exists_trimStart (afterWord (trimStart s))
    have isWord := isWord_word void fun _ => head_trimStart
    have isWord' := isWord_word void' fun _ => head_trimStart
    refine ⟨front, between, afterWord (trimStart (afterWord (trimStart s))), ?_, blank, isWord, ?_,
      blank', isWord', fun _ => head_afterWord⟩
    · rw [word_append_afterWord, ← split', word_append_afterWord, ← split]
    · -- What follows the first word starts with a blank, and the second word with none.
      rintro rfl
      obtain ⟨c, rest, start⟩ := List.exists_cons_of_ne_nil void'
      have head : (trimStart (afterWord (trimStart s))).head? = some c := by rw [start]; rfl
      have solid := head_trimStart head
      rw [List.nil_append] at split'
      rw [← split'] at head
      exact Bool.false_ne_true (solid.symm.trans (head_afterWord head))
  · rintro ⟨front, between, rest, rfl, blank, isWord, apart, blank', isWord', stop⟩
    have start : trimStart (front ++ (first ++ (between ++ (second ++ rest)))) =
        first ++ (between ++ (second ++ rest)) :=
      trimStart_run blank (isWord.head _)
    have next : trimStart (between ++ (second ++ rest)) = second ++ rest :=
      trimStart_run blank' (isWord'.head _)
    have gap : ∀ c, (between ++ (second ++ rest)).head? = some c → isBlank c = true := by
      obtain ⟨d, others, rfl⟩ := List.exists_cons_of_ne_nil apart
      rintro _ ⟨rfl⟩
      exact blank' d List.mem_cons_self
    rw [start, afterWord_append isWord.solid gap, next, word_append isWord.solid gap,
      word_append isWord'.solid stop]
    exact if_neg (by simp [isWord.filled, isWord'.filled])

end Splitting

end AttributePins.Text

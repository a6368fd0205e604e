import AttributePins.Proofs.Line.Margins

/-! Class headers as a grammar. A line names a model exactly if a header stands somewhere behind
its comment marker. White space, names, the sign and the base classes start with characters of
different kinds, so a header reads in one way only from where it starts; and of several headers
the leftmost one counts, even if a keyword in front of it leads to none. -/
namespace AttributePins.Line

open Text

/-- A name that a model can have, all of it in ASCII: a capital, and at least one more character,
each of them a letter, a digit or an underscore. -/
def IsModelName (name : List Char) : Prop :=
  ∃ first rest, name = first :: rest ∧ ('A' ≤ first ∧ first ≤ 'Z') ∧ rest ≠ [] ∧
    ∀ c ∈ rest, ('A' ≤ c ∧ c ≤ 'Z') ∨ ('a' ≤ c ∧ c ≤ 'z') ∨ ('0' ≤ c ∧ c ≤ '9') ∨ c = '_'

/-- A text with the class header of a model behind its first characters. -/
def Declares (front name s : List Char) : Prop :=
  ∃ gap between beyond base rest,
    s = front ++ ("class".toList ++ (gap ++ (name ++ (between ++ '<' :: (beyond ++
      (base ++ rest)))))) ∧
    (∀ c ∈ gap, isBlank c = true) ∧ (∀ c ∈ between, isBlank c = true) ∧
    (∀ c ∈ beyond, isBlank c = true) ∧ IsModelName name ∧
    (base = "ActiveRecord::Base".toList ∨ base = "ApplicationRecord".toList)

section Names

variable {name s rest : List Char}

theorem isUpper_iff (c : Char) : c.isUpper = true ↔ 'A' ≤ c ∧ c ≤ 'Z' := decide_eq_true_iff

theorem isNameChar_iff (c : Char) : isNameChar c = true ↔
    ('A' ≤ c ∧ c ≤ 'Z') ∨ ('a' ≤ c ∧ c ≤ 'z') ∨ ('0' ≤ c ∧ c ≤ '9') ∨ c = '_' := by
  have lower : c.isLower = true ↔ 'a' ≤ c ∧ c ≤ 'z' :=
    Bool.and_eq_true_iff.trans (and_congr decide_eq_true_iff decide_eq_true_iff)
  have digit : c.isDigit = true ↔ '0' ≤ c ∧ c ≤ '9' :=
    Bool.and_eq_true_iff.trans (and_congr decide_eq_true_iff decide_eq_true_iff)
  have classes : isNameChar c = (((c.isUpper || c.isLower) || c.isDigit) || decide (c = '_')) := rfl
  rw [classes, Bool.or_eq_true, Bool.or_eq_true, Bool.or_eq_true, isUpper_iff, lower, digit,
    decide_eq_true_iff, or_assoc, or_assoc]

theorem isModelName_iff : IsModelName name ↔ ∃ first rest, name = first :: rest ∧
    first.isUpper = true ∧ rest ≠ [] ∧ ∀ c ∈ rest, isNameChar c = true := by
  simp only [IsModelName, isUpper_iff, isNameChar_iff]

/-- A class name is taken up to the first character that cannot be in one. -/
theorem className?_eq_some_iff : className? s = some (name, rest) ↔
    s = name ++ rest ∧ IsModelName name ∧ ∀ c, rest.head? = some c → isNameChar c = false := by
  rw [isModelName_iff]
  constructor
  · intro read
    cases s with
    | nil => contradiction
    | cons c s =>
      simp only [className?] at read
      split at read
      · rename_i proper
        obtain ⟨rfl, rfl⟩ := Prod.mk.inj (Option.some.inj read)
        refine ⟨?_, ⟨c, _, rfl, proper.1, proper.2, fun d => ?_⟩, fun d next => ?_⟩
        · rw [List.cons_append, List.takeWhile_append_dropWhile]
        · exact List.mem_takeWhile_imp
        · have stop := List.head?_dropWhile_not isNameChar s
          rw [next] at stop
          exact stop
      · contradiction
  · rintro ⟨rfl, ⟨first, more, rfl, upper, some, chars⟩, stop⟩
    simp only [List.cons_append, className?, takeWhile_run chars stop, dropWhile_run chars stop]
    exact if_pos ⟨upper, some⟩

end Names

section Headers

variable {front name other s tail : List Char}

theorem startsBase_iff : startsBase s = true ↔ ∃ base rest, s = base ++ rest ∧
    (base = "ActiveRecord::Base".toList ∨ base = "ApplicationRecord".toList) := by
  simp only [startsBase, baseClasses, List.any_cons, List.any_nil, Bool.or_false, Bool.or_eq_true,
    Option.isSome_iff_exists, afterPrefix?_eq_some_iff]
  constructor
  · rintro (⟨rest, rfl⟩ | ⟨rest, rfl⟩)
    · exact ⟨_, rest, rfl, .inl rfl⟩
    · exact ⟨_, rest, rfl, .inr rfl⟩
  · rintro ⟨base, rest, rfl, rfl | rfl⟩
    · exact .inl ⟨rest, rfl⟩
    · exact .inr ⟨rest, rfl⟩

/-- The reader of a header at the start of a text finds what the grammar has there. -/
theorem headerAt?_eq_some_iff : headerAt? s = some name ↔ Declares [] name s := by
  constructor
  · intro read
    simp only [headerAt?, bind, Option.bind_eq_some_iff] at read
    obtain ⟨behind, keyword, ⟨found, afterName⟩, named, afterSign, sign, based⟩ := read
    split at based
    · rename_i starts
      obtain rfl := Option.some.inj based
      obtain ⟨split, proper, -⟩ := className?_eq_some_iff.mp named
      obtain ⟨base, rest, tail, known⟩ := startsBase_iff.mp starts
      obtain ⟨gap, blank, first⟩ := exists_trimStart behind
      obtain ⟨between, blank', second⟩ := exists_trimStart afterName
      obtain ⟨beyond, blank'', third⟩ := exists_trimStart afterSign
      refine ⟨gap, between, beyond, base, rest, ?_, blank, blank', blank'', proper, known⟩
      have signed : trimStart afterName = '<' :: afterSign := afterPrefix?_eq_some_iff.mp sign
      rw [List.nil_append, ← tail, ← third, ← signed, ← second, ← split, ← first]
      exact afterPrefix?_eq_some_iff.mp keyword
    · contradiction
  · rintro ⟨gap, between, beyond, base, rest, rfl, blank, blank', blank'', proper, known⟩
    have atName (more : List Char) : trimStart (gap ++ (name ++ more)) = name ++ more := by
      obtain ⟨first, others, rfl, upper, -⟩ := isModelName_iff.mp proper
      refine trimStart_run blank ?_
      rintro _ ⟨rfl⟩
      exact isBlank_of_isUpper upper
    have atSign (more : List Char) : trimStart (between ++ '<' :: more) = '<' :: more :=
      trimStart_run blank' (by rintro _ ⟨rfl⟩; rfl)
    have atBase : trimStart (beyond ++ (base ++ rest)) = base ++ rest := by
      refine trimStart_run blank'' ?_
      rcases known with rfl | rfl <;> rintro _ ⟨rfl⟩ <;> rfl
    have named : className? (name ++ (between ++ '<' :: (beyond ++ (base ++ rest)))) =
        some (name, between ++ '<' :: (beyond ++ (base ++ rest))) := by
      refine className?_eq_some_iff.mpr ⟨rfl, proper, ?_⟩
      cases between with
      | nil => rintro _ ⟨rfl⟩; rfl
      | cons c others =>
        rintro _ ⟨rfl⟩
        exact isNameChar_of_isBlank (blank' c List.mem_cons_self)
    have keyword (more : List Char) :
        afterPrefix? "class".toList ("class".toList ++ more) = some more :=
      afterPrefix?_eq_some_iff.mpr rfl
    have sign (more : List Char) : afterPrefix? ['<'] ('<' :: more) = some more :=
      afterPrefix?_eq_some_iff.mpr rfl
    have based : startsBase (base ++ rest) = true := startsBase_iff.mpr ⟨base, rest, rfl, known⟩
    simp only [List.nil_append, headerAt?, bind, keyword, Option.bind_some, atName, named, atSign,
      sign, atBase, based, if_true]

/-- A header somewhere in a text is one at the start of what is left there. -/
theorem declares_iff :
    Declares front name s ↔ ∃ tail, s = front ++ tail ∧ headerAt? tail = some name := by
  simp only [headerAt?_eq_some_iff]
  constructor
  · rintro ⟨gap, between, beyond, base, rest, rfl, spelled⟩
    exact ⟨_, rfl, gap, between, beyond, base, rest, rfl, spelled⟩
  · rintro ⟨tail, rfl, gap, between, beyond, base, rest, rfl, spelled⟩
    exact ⟨gap, between, beyond, base, rest, rfl, spelled⟩

theorem Declares.unique (first : Declares front name s) (second : Declares front other s) :
    name = other := by
  obtain ⟨tail, rfl, read⟩ := declares_iff.mp first
  obtain ⟨tail', same, read'⟩ := declares_iff.mp second
  obtain rfl := List.append_cancel_left same
  exact Option.some.inj (read.symm.trans read')

theorem declares_cons {c : Char} :
    Declares front name (c :: s) ↔ (front = [] ∧ headerAt? (c :: s) = some name) ∨
      ∃ rest, front = c :: rest ∧ Declares rest name s := by
  simp only [declares_iff]
  cases front with
  | nil => simp
  | cons d front => simp [and_assoc, eq_comm]

/-- No header of a text starts further left than behind its first characters. -/
def Leftmost (front s : List Char) : Prop :=
  ∀ before name, Declares before name s → front.length ≤ before.length

theorem firstHeader?_eq_some_iff :
    firstHeader? s = some name ↔ ∃ front, Declares front name s ∧ Leftmost front s := by
  induction s with
  | nil =>
    rw [firstHeader?]
    refine iff_of_false (by simp) ?_
    rintro ⟨front, declared, -⟩
    obtain ⟨tail, same, read⟩ := declares_iff.mp declared
    obtain ⟨-, rfl⟩ := List.append_eq_nil_iff.mp same.symm
    contradiction
  | cons c s ih =>
    rw [firstHeader?]
    cases here : headerAt? (c :: s) with
    | some found =>
      have start : Declares [] found (c :: s) := declares_cons.mpr (.inl ⟨rfl, here⟩)
      rw [Option.some_or, Option.some.injEq]
      constructor
      · rintro rfl
        exact ⟨[], start, fun _ _ _ => Nat.zero_le _⟩
      · rintro ⟨front, declared, leftmost⟩
        obtain rfl := List.length_eq_zero_iff.mp (Nat.le_zero.mp (leftmost [] found start))
        exact start.unique declared
    | none =>
      -- Without a header at the start, all headers are those of the rest, one place further.
      have later (front name : List Char) : Declares front name (c :: s) ↔
          ∃ rest, front = c :: rest ∧ Declares rest name s := by simp [declares_cons, here]
      rw [Option.none_or, ih]
      constructor
      · rintro ⟨front, declared, leftmost⟩
        refine ⟨c :: front, (later _ _).mpr ⟨front, rfl, declared⟩, fun before name given => ?_⟩
        obtain ⟨rest, rfl, declared'⟩ := (later before name).mp given
        exact Nat.succ_le_succ (leftmost rest name declared')
      · rintro ⟨front, declared, leftmost⟩
        obtain ⟨rest, rfl, declared'⟩ := (later front name).mp declared
        refine ⟨rest, declared', fun before name given => ?_⟩
        exact Nat.le_of_succ_le_succ (leftmost (c :: before) name ((later _ _).mpr ⟨_, rfl, given⟩))

theorem firstHeader?_eq_none_iff :
    firstHeader? s = none ↔ ∀ front name, ¬ Declares front name s := by
  induction s with
  | nil =>
    refine iff_of_true rfl fun front name declared => ?_
    obtain ⟨tail, same, read⟩ := declares_iff.mp declared
    obtain ⟨-, rfl⟩ := List.append_eq_nil_iff.mp same.symm
    contradiction
  | cons c s ih =>
    rw [firstHeader?, Option.or_eq_none_iff, ih]
    simp only [declares_cons, not_or, not_and, not_exists]
    constructor
    · rintro ⟨here, later⟩ front name
      exact ⟨fun _ => by simp [here], fun rest _ => later rest name⟩
    · intro none
      refine ⟨Option.eq_none_iff_forall_not_mem.mpr fun name => (none [] name).1 rfl, ?_⟩
      exact fun rest name => (none (c :: rest) name).2 rest rfl

end Headers

/-- A line names the model of the leftmost class header behind its comment marker, whose name is
the only one to be read there, and none if there is no header. -/
theorem modelName?_leftmost (line : List Char) :
    let text := stripMarker line
    (∀ name, modelName? line = some name ↔
      ∃ front, Declares front name.toList text ∧ Leftmost front text) ∧
    (∀ front name other, Declares front name text ∧ Declares front other text → name = other) ∧
    (modelName? line = none ↔ ∀ front name, ¬ Declares front name text) := by
  intro text
  refine ⟨fun name => ?_, fun front name other both => both.1.unique both.2, ?_⟩
  · rw [← firstHeader?_eq_some_iff, modelName?, Option.map_eq_some_iff]
    constructor
    · rintro ⟨found, read, rfl⟩
      rwa [String.toList_ofList]
    · intro read
      exact ⟨name.toList, read, String.ofList_toList⟩
  · rw [← firstHeader?_eq_none_iff, modelName?, Option.map_eq_none_iff]

/-- A keyword that leads to no base class, and two headers of which the left one counts. -/
example : modelName? "# class Ab < X class Cd<ApplicationRecord; class Ef < ApplicationRecord".toList
    = some "Cd" := by decide +kernel

end AttributePins.Line

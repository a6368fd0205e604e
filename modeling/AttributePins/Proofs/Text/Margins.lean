import AttributePins.Proofs.Text.Words
import Mathlib.Data.List.TakeWhile

/-! White space at the ends of a text. A rule that sees neither a blank in front of a text
nor one behind it answers on a text as on its trim. Rules are mostly readers put one after
another, so what a blank behind does is said of readers first: it is left over at the end
of what they leave, and a rule on the rest never sees it. -/
namespace AttributePins.Text

def IgnoresBefore (rule : List Char → β) : Prop :=
  ∀ c s, isBlank c = true → rule (c :: s) = rule s

def IgnoresBehind (rule : List Char → β) : Prop :=
  ∀ s c, isBlank c = true → rule (s ++ [c]) = rule s

structure IgnoresMargins (rule : List Char → β) : Prop where
  before : IgnoresBefore rule
  behind : IgnoresBehind rule

/-- A reader whose rest ends in the blank that was put behind the text. -/
def LeavesBehind (read : List Char → Option (List Char)) : Prop :=
  ∀ s c, isBlank c = true → read (s ++ [c]) = (read s).map (· ++ [c])

theorem IgnoresBefore.trimStart {rule : List Char → β} (ignores : IgnoresBefore rule)
    (s : List Char) : rule (Text.trimStart s) = rule s := by
  induction s with
  | nil => rfl
  | cons c rest ih =>
    by_cases blank : isBlank c = true
    · rw [Text.trimStart, List.dropWhile_cons_of_pos blank, ignores c rest blank]
      exact ih
    · rw [Text.trimStart, List.dropWhile_cons_of_neg blank]

theorem IgnoresMargins.trim {rule : List Char → β} (ignores : IgnoresMargins rule)
    (s : List Char) : rule (Text.trim s) = rule s := by
  -- Seen from its end, a text has in front what it has behind.
  have backwards : IgnoresBefore fun s => rule s.reverse := by
    intro c s blank
    simpa only [List.reverse_cons] using ignores.behind s.reverse c blank
  calc rule (Text.trim s)
    _ = rule (Text.trimStart s).reverse.reverse := backwards.trimStart (Text.trimStart s).reverse
    _ = rule (Text.trimStart s) := by rw [List.reverse_reverse]
    _ = rule s := ignores.before.trimStart s

theorem IgnoresMargins.map {rule : List Char → β} (ignores : IgnoresMargins rule) (f : β → γ) :
    IgnoresMargins fun s => f (rule s) where
  before c s blank := congrArg f (ignores.before c s blank)
  behind s c blank := congrArg f (ignores.behind s c blank)

theorem trimStart_before {c : Char} (blank : isBlank c = true) (s : List Char) :
    trimStart (c :: s) = trimStart s :=
  List.dropWhile_cons_of_pos blank

theorem trimStart_behind {c : Char} (blank : isBlank c = true) (s : List Char) :
    trimStart (s ++ [c]) = if (trimStart s).isEmpty then [] else trimStart s ++ [c] := by
  rw [trimStart, trimStart, List.dropWhile_append, List.dropWhile_cons_of_pos blank,
    List.dropWhile_nil]

theorem IgnoresBehind.trimStart {rule : List Char → β} (ignores : IgnoresBehind rule) :
    IgnoresBehind fun s => rule (Text.trimStart s) := by
  intro s c blank
  simp only [trimStart_behind blank]
  split
  · rename_i none
    rw [List.isEmpty_iff.mp none]
  · exact ignores (Text.trimStart s) c blank

section Runs

variable {inRun : Char → Bool} {c : Char}

/-- A character behind a text that is not in the leading run does not lengthen the run. -/
theorem takeWhile_behind (stop : inRun c = false) (s : List Char) :
    (s ++ [c]).takeWhile inRun = s.takeWhile inRun := by
  induction s with
  | nil => simp [stop]
  | cons d rest ih => rw [List.cons_append, List.takeWhile_cons, List.takeWhile_cons, ih]

theorem dropWhile_behind (stop : inRun c = false) (s : List Char) :
    (s ++ [c]).dropWhile inRun = s.dropWhile inRun ++ [c] := by
  rw [List.dropWhile_append, List.dropWhile_cons_of_neg (by simp [stop])]
  split
  · rename_i none
    rw [List.isEmpty_iff.mp none, List.nil_append]
  · rfl

end Runs

theorem word_behind {c : Char} (blank : isBlank c = true) (s : List Char) :
    word (s ++ [c]) = word s :=
  takeWhile_behind (by simp [blank]) s

theorem afterWord_behind {c : Char} (blank : isBlank c = true) (s : List Char) :
    afterWord (s ++ [c]) = afterWord s ++ [c] :=
  dropWhile_behind (by simp [blank]) s

theorem isEmpty_trimStart (s : List Char) : (trimStart s).isEmpty = s.all isBlank := by
  rw [Bool.eq_iff_iff, List.isEmpty_iff, List.all_eq_true]
  exact List.dropWhile_eq_nil_iff

theorem ignoresMargins_all_isBlank : IgnoresMargins fun s => s.all isBlank where
  before c s blank := by simp [blank]
  behind s c blank := by simp [blank]

theorem ignoresMargins_firstTwoWords : IgnoresMargins firstTwoWords where
  before c s blank := by simp only [firstTwoWords, trimStart_before blank]
  behind := by
    have later : IgnoresBehind fun s => word (trimStart s) :=
      IgnoresBehind.trimStart fun s c blank => word_behind blank s
    intro s c blank
    simp only [firstTwoWords, isEmpty_trimStart]
    by_cases void : s.all isBlank = true
    · simp [void, blank]
    · have solid : trimStart (s ++ [c]) = trimStart s ++ [c] := by
        rw [trimStart_behind blank, isEmpty_trimStart, if_neg void]
      simp only [solid, afterWord_behind blank, word_behind blank, later _ _ blank,
        ignoresMargins_all_isBlank.behind _ _ blank]

def Solid (pattern : List Char) : Prop := pattern.all (fun c => !isBlank c) = true

instance (pattern : List Char) : Decidable (Solid pattern) :=
  inferInstanceAs (Decidable (_ = true))

theorem Solid.not_mem {pattern : List Char} (solid : Solid pattern) {c : Char}
    (blank : isBlank c = true) : c ∉ pattern := by
  intro member
  simpa [blank] using List.all_eq_true.mp solid c member

theorem Solid.tail {p : Char} {ps : List Char} (solid : Solid (p :: ps)) : Solid ps := by
  rw [Solid, List.all_cons, Bool.and_eq_true] at solid
  exact solid.2

theorem ignoresMargins_occursIn (pattern : List Char) (solid : Solid pattern)
    (filled : pattern ≠ []) : IgnoresMargins (occursIn pattern) := by
  have absent : occursIn pattern [] = false := by
    rw [occursIn, List.isEmpty_eq_false_iff]
    exact filled
  constructor
  · intro c s blank
    simpa only [List.nil_append, absent, Bool.false_or] using
      occursIn_append_cons (solid.not_mem blank) [] s
  · intro s c blank
    simpa only [absent, Bool.or_false] using occursIn_append_cons (solid.not_mem blank) s []

/-- White space has no case. -/
theorem fold_of_isBlank {c : Char} (blank : isBlank c = true) : fold c = c := by
  have small : ¬ (c.val ≥ 'A'.val ∧ c.val ≤ 'Z'.val) := by
    intro upper
    rw [isBlank_of_isUpper (decide_eq_true upper)] at blank
    contradiction
  unfold fold
  rw [if_neg, if_neg]
  · exact dif_neg small
  · rintro rfl
    contradiction
  · rintro rfl
    contradiction

namespace LeavesBehind

variable {read next : List Char → Option (List Char)}

theorem isSome (leaves : LeavesBehind read) : IgnoresBehind fun s => (read s).isSome := by
  intro s c blank
  simp only [leaves s c blank, Option.isSome_map]

theorem bind {rule : List Char → Option β} (leaves : LeavesBehind read)
    (ignores : IgnoresBehind rule) : IgnoresBehind fun s => (read s).bind rule := by
  intro s c blank
  simp only [leaves s c blank]
  cases read s with
  | none => rfl
  | some rest => exact ignores rest c blank

theorem andThen (leaves : LeavesBehind read) (later : LeavesBehind next) :
    LeavesBehind fun s => (read s).bind next := by
  intro s c blank
  simp only [leaves s c blank]
  cases read s with
  | none => rfl
  | some rest => exact later rest c blank

theorem trimStart (leaves : LeavesBehind read) (unread : read [] = none) :
    LeavesBehind fun s => read (Text.trimStart s) := by
  intro s c blank
  simp only [trimStart_behind blank]
  split
  · rename_i none
    rw [List.isEmpty_iff.mp none, unread]
    rfl
  · exact leaves (Text.trimStart s) c blank

theorem afterPrefix? (pattern : List Char) (solid : Solid pattern) :
    LeavesBehind (Text.afterPrefix? pattern) := by
  intro s c blank
  induction pattern generalizing s with
  | nil => rfl
  | cons p ps ih =>
    cases s with
    | nil =>
      have different : p ≠ c := fun same => solid.not_mem blank (same ▸ List.mem_cons_self)
      exact if_neg different
    | cons d rest =>
      rw [List.cons_append, Text.afterPrefix?, Text.afterPrefix?]
      split
      · exact ih solid.tail rest
      · rfl

theorem afterFolded? (pattern : List Char) (solid : Solid pattern) :
    LeavesBehind (Text.afterFolded? pattern) := by
  intro s c blank
  induction pattern generalizing s with
  | nil => rfl
  | cons p ps ih =>
    cases s with
    | nil =>
      have different : fold c ≠ p := by
        rw [fold_of_isBlank blank]
        exact fun same => solid.not_mem blank (same ▸ List.mem_cons_self)
      exact if_neg different
    | cons d rest =>
      rw [List.cons_append, Text.afterFolded?, Text.afterFolded?]
      split
      · exact ih solid.tail rest
      · rfl

end LeavesBehind
end AttributePins.Text

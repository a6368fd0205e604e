import AttributePins.Json.Reader

/-! Skipping whole values. The containers that are still open form a stack, so a value
may be nested to any depth; every step leaves less text than it found. -/
namespace AttributePins.Json

/-- A container that is still open. -/
inductive Frame where
  | array
  | object
deriving DecidableEq, Repr

def Frame.closer : Frame → Char
  | .array => ']'
  | .object => '}'

theorem length_of_skipString {s rest : List Char} (h : skipString s = .ok rest) :
    rest.length < s.length := by
  fun_induction skipString s <;> simp_all <;> grind

theorem length_of_afterLetters {letters s rest : List Char}
    (h : afterLetters letters s = .ok rest) : rest.length ≤ s.length := by
  fun_induction afterLetters letters s with
  | case1 => simp_all
  | case2 => simp_all
  | case3 _ _ _ ih =>
    have := ih h
    simp only [List.length_cons]
    omega
  | case4 => simp_all

theorem length_of_skipExponent {s rest : List Char} (h : skipExponent s = .ok rest) :
    rest.length ≤ s.length := by
  have le (t : List Char) := (List.dropWhile_suffix (l := t) Char.isDigit).length_le
  unfold skipExponent at h
  grind

theorem length_of_skipScale {s rest : List Char} (h : skipScale s = .ok rest) :
    rest.length ≤ s.length := by
  unfold skipScale at h
  split at h
  · have := length_of_skipExponent h; simp; omega
  · have := length_of_skipExponent h; simp; omega
  · grind

theorem length_of_skipFraction {s rest : List Char} (h : skipFraction s = .ok rest) :
    rest.length ≤ s.length := by
  have le (t : List Char) := (List.dropWhile_suffix (l := t) Char.isDigit).length_le
  unfold skipFraction at h
  split at h
  · split at h
    · have := length_of_skipScale h
      have := le (by assumption)
      grind
    · simp at h
  · simp at h
  · exact length_of_skipScale h

theorem length_of_skipNumber {s rest : List Char} (h : skipNumber s = .ok rest) :
    rest.length < s.length := by
  have le (t : List Char) := (List.dropWhile_suffix (l := t) Char.isDigit).length_le
  unfold skipNumber at h
  split at h
  · rename_i tail
    cases tail with
    | nil => grind
    | cons c more =>
      split at h
      · rename_i eq
        injection eq with head same
        subst head same
        split at h
        · simp at h
        · exact Nat.lt_of_le_of_lt (length_of_skipFraction h) (by simp)
      · grind
  · rename_i tail _
    split at h
    · have := length_of_skipFraction h
      have := le tail
      simp only [List.length_cons]
      omega
    · simp at h
  · simp at h

theorem length_of_skipScalar {s rest : List Char} (h : skipScalar s = .ok rest) :
    rest.length < s.length := by
  unfold skipScalar at h
  split at h
  · exact Nat.lt_succ_of_le (length_of_afterLetters h)
  · exact Nat.lt_succ_of_le (length_of_afterLetters h)
  · exact Nat.lt_succ_of_le (length_of_afterLetters h)
  · exact Nat.lt_succ_of_lt (length_of_skipString h)
  · exact Nat.lt_succ_of_lt (length_of_skipNumber h)
  · exact length_of_skipNumber h

theorem length_of_afterColon {s rest : List Char} (h : afterColon s = .ok rest) :
    rest.length < s.length := by
  unfold afterColon at h
  split at h
  · rename_i eq
    have := length_of_skipSpace eq
    grind
  · simp at h
  · simp at h

theorem length_of_skipName {s rest : List Char} (h : skipName s = .ok rest) :
    rest.length < s.length := by
  unfold skipName at h
  split at h
  · rename_i tail eq
    have := length_of_skipSpace eq
    cases found : skipString tail with
    | error fault => simp [found, Except.bind] at h
    | ok after =>
      have := length_of_skipString found
      have := length_of_afterColon (s := after) (by simpa [found, Except.bind] using h)
      omega
  · simp at h
  · simp at h

mutual

/-- What follows the outermost open container, from in front of a value on. -/
def skipValue (stack : List Frame) (s : List Char) : Except Fault (List Char) :=
  match h : skipSpace s with
  | [] => .error .truncated
  | '[' :: rest =>
    have := length_of_skipSpace h
    match k : skipSpace rest with
    | [] => .error .truncated
    | ']' :: rest =>
      have := length_of_skipSpace k
      skipRest stack rest
    | c :: more =>
      have := length_of_skipSpace k
      skipValue (.array :: stack) (c :: more)
  | '{' :: rest =>
    have := length_of_skipSpace h
    match k : skipSpace rest with
    | [] => .error .truncated
    | '}' :: rest =>
      have := length_of_skipSpace k
      skipRest stack rest
    | c :: more =>
      have := length_of_skipSpace k
      match n : skipName (c :: more) with
      | .error fault => .error fault
      | .ok rest =>
        have := length_of_skipName n
        skipValue (.object :: stack) rest
  | c :: more =>
    have := length_of_skipSpace h
    match n : skipScalar (c :: more) with
    | .error fault => .error fault
    | .ok rest =>
      have := length_of_skipScalar n
      skipRest stack rest
termination_by s.length
decreasing_by all_goals grind

/-- What follows the outermost open container, from behind a value on. -/
def skipRest (stack : List Frame) (s : List Char) : Except Fault (List Char) :=
  match stack with
  | [] => .ok s
  | frame :: outer =>
    match h : skipSpace s with
    | [] => .error .truncated
    | c :: rest =>
      have := length_of_skipSpace h
      if c = frame.closer then skipRest outer rest
      else if c = ',' then
        match frame with
        | .array => skipValue (.array :: outer) rest
        | .object =>
          match n : skipName rest with
          | .error fault => .error fault
          | .ok rest =>
            have := length_of_skipName n
            skipValue (.object :: outer) rest
      else .error .malformed
termination_by s.length
decreasing_by all_goals grind

end

theorem length_of_skip (n : Nat) :
    (∀ stack s rest, s.length ≤ n → skipValue stack s = .ok rest → rest.length ≤ s.length) ∧
    (∀ stack s rest, s.length ≤ n → skipRest stack s = .ok rest → rest.length ≤ s.length) := by
  induction n using Nat.strongRecOn with
  | ind n ih =>
    have value {stack : List Frame} {t rest : List Char} (small : t.length < n)
        (h : skipValue stack t = .ok rest) : rest.length ≤ t.length :=
      (ih t.length small).1 stack t rest (Nat.le_refl _) h
    have after {stack : List Frame} {t rest : List Char} (small : t.length < n)
        (h : skipRest stack t = .ok rest) : rest.length ≤ t.length :=
      (ih t.length small).2 stack t rest (Nat.le_refl _) h
    constructor
    · intro stack s rest bound h
      unfold skipValue at h
      split at h
      · simp at h
      · rename_i tail eq
        have := length_of_skipSpace eq
        split at h
        · simp at h
        · rename_i eq
          have := length_of_skipSpace eq
          have := after (by omega) h
          omega
        · rename_i eq
          have := length_of_skipSpace eq
          have := value (by grind) h
          grind
      · rename_i tail eq
        have := length_of_skipSpace eq
        split at h
        · simp at h
        · rename_i eq
          have := length_of_skipSpace eq
          have := after (by omega) h
          omega
        · rename_i eq
          have := length_of_skipSpace eq
          split at h
          · simp at h
          · rename_i name
            have := length_of_skipName name
            have := value (by grind) h
            grind
      · rename_i eq
        have := length_of_skipSpace eq
        split at h
        · simp at h
        · rename_i scalar
          have := length_of_skipScalar scalar
          have := after (by grind) h
          grind
    · intro stack s rest bound h
      unfold skipRest at h
      split at h
      · grind
      · split at h
        · simp at h
        · rename_i eq
          have := length_of_skipSpace eq
          split at h
          · have := after (by omega) h
            omega
          · split at h
            · split at h
              · have := value (by omega) h
                omega
              · split at h
                · simp at h
                · rename_i name
                  have := length_of_skipName name
                  have := value (by omega) h
                  omega
            · simp at h

theorem length_of_skipValue {stack : List Frame} {s rest : List Char}
    (h : skipValue stack s = .ok rest) : rest.length ≤ s.length :=
  (length_of_skip s.length).1 stack s rest (Nat.le_refl _) h

end AttributePins.Json

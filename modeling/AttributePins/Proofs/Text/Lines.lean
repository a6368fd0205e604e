import AttributePins.Text.Basic

/-! How the lines of a text change when more text follows it, and when its lines end
another way. Only the last line of a text is open: a newline behind it closes it, and may
take a carriage return along. -/
namespace AttributePins.Text

/-- A character in front of the first line. -/
def extendFirst (c : Char) : List (List Char) → List (List Char)
  | [] => [[c]]
  | line :: others => (c :: line) :: others

theorem lines_cons {c : Char} {rest : List Char} (plain : c ≠ '\n')
    (uncarried : ∀ other, c = '\r' → rest ≠ '\n' :: other) :
    lines (c :: rest) = extendFirst c (lines rest) := by
  rw [lines]
  · cases lines rest <;> rfl
  · exact plain
  · exact uncarried

/-- The lines of a text, and those of the text with a newline and more behind it. -/
inductive Continues : List (List Char) → List (List Char) → Prop where
  | last : Continues [line] (line :: more)
  /-- The last line was open, and its carriage return belongs to the newline now. -/
  | carried : Continues [line ++ ['\r']] (line :: more)
  | next : Continues before after → Continues (line :: before) (line :: after)

theorem Continues.extendFirst (continues : Continues before after) (c : Char) :
    Continues (Text.extendFirst c before) (Text.extendFirst c after) := by
  cases continues with
  | last => exact .last
  | carried => exact @Continues.carried (c :: _) _
  | next later => exact .next later

theorem lines_continues_char (c : Char) (rest : List Char) :
    Continues (lines [c]) (lines (c :: '\n' :: rest)) := by
  by_cases newline : c = '\n'
  · subst newline
    exact .last
  · have alone : lines [c] = [[c]] := lines_cons newline (by simp)
    rw [alone]
    by_cases carries : c = '\r'
    · subst carries
      exact @Continues.carried [] _
    · rw [lines_cons newline fun _ same => absurd same carries]
      exact .last

theorem lines_continues {text : List Char} (filled : text ≠ []) (rest : List Char) :
    Continues (lines text) (lines (text ++ '\n' :: rest)) := by
  induction text with
  | nil => contradiction
  | cons c tail ih =>
    cases tail with
    | nil => exact lines_continues_char c rest
    | cons d others =>
      have later := ih (List.cons_ne_nil d others)
      by_cases newline : c = '\n'
      · subst newline
        exact .next later
      · by_cases carries : c = '\r' ∧ d = '\n'
        · -- The pair ends a line as the newline alone does.
          obtain ⟨rfl, rfl⟩ := carries
          exact later
        · have opened (s : List Char) : lines (c :: d :: s) = extendFirst c (lines (d :: s)) := by
            apply lines_cons newline
            intro other same both
            exact carries ⟨same, (List.cons.inj both).1⟩
          rw [List.cons_append, List.cons_append, opened, opened]
          exact later.extendFirst c

/-- A text with a carriage return in front of every newline. -/
def carried (text : List Char) : List Char :=
  text.flatMap fun c => if c = '\n' then ['\r', '\n'] else [c]

theorem lines_carried {text : List Char} (uncarried : '\r' ∉ text) :
    lines (carried text) = lines text := by
  induction text with
  | nil => rfl
  | cons c rest ih =>
    obtain ⟨different, uncarried⟩ := not_or.mp (mt List.mem_cons.mpr uncarried)
    have same := ih uncarried
    by_cases newline : c = '\n'
    · subst newline
      rw [lines, ← same]
      rfl
    · have plain (s : List Char) : lines (c :: s) = extendFirst c (lines s) :=
        lines_cons newline fun _ carries => absurd carries.symm different
      have kept : carried (c :: rest) = c :: carried rest := by
        rw [carried, List.flatMap_cons, if_neg newline]
        rfl
      rw [kept, plain, plain, same]

end AttributePins.Text

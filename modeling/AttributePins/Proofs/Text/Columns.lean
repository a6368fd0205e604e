import AttributePins.Declaration
import AttributePins.Proofs.Text.ByteOrder

/-! Columns against bytes. A location counts characters, and a line is cut at bytes: each
column is walked to the byte that follows the characters in front of it, so it never falls
inside a character, and the bytes of two columns are in order exactly if the columns are.
What is cut out is then what the columns say, whatever the size of the characters. -/
namespace AttributePins

namespace Text

theorem byteLength_append (front back : List Char) :
    byteLength (front ++ back) = byteLength front + byteLength back := by
  induction front with
  | nil => rw [List.nil_append, byteLength, Nat.zero_add]
  | cons c rest ih => rw [List.cons_append, byteLength, byteLength, ih, Nat.add_assoc]

theorem byteLength_pos {s : List Char} (filled : s ≠ []) : 0 < byteLength s := by
  cases s with
  | nil => contradiction
  | cons c rest =>
    rw [byteLength]
    exact Nat.add_pos_left c.utf8Size_pos _

theorem byteLength_eq_utf8 (s : List Char) : byteLength s = (utf8 (String.ofList s)).length := by
  rw [utf8_eq, String.toList_ofList]
  induction s with
  | nil => rfl
  | cons c rest ih =>
    rw [byteLength, ih, List.flatMap_cons, List.length_append, String.length_utf8EncodeChar]

/-- A column is found exactly if the line reaches to it, behind the bytes of all characters
in front of it. -/
theorem columnBytes_getElem? (start : Nat) (s : List Char) (column : Nat) :
    (columnBytes start s)[column]? =
      if column ≤ s.length then some (start + byteLength (s.take column)) else none := by
  induction s generalizing start column with
  | nil =>
    cases column with
    | zero => rfl
    | succ column => rfl
  | cons c rest ih =>
    cases column with
    | zero => rfl
    | succ column =>
      simp only [columnBytes, List.getElem?_cons_succ, ih, List.length_cons, Nat.succ_le_succ_iff,
        List.take_succ_cons, byteLength, Nat.add_assoc]

/-- No character is without bytes. -/
theorem byteLength_take_lt {s : List Char} {first last : Nat} (before : first < last)
    (reached : last ≤ s.length) : byteLength (s.take first) < byteLength (s.take last) := by
  have filled : (s.drop first).take (last - first) ≠ [] := by
    apply List.ne_nil_of_length_pos
    rw [List.length_take, List.length_drop]
    omega
  obtain ⟨more, rfl⟩ := Nat.exists_eq_add_of_lt before
  rw [Nat.add_assoc, List.take_add, byteLength_append]
  rw [Nat.add_assoc, Nat.add_sub_cancel_left] at filled
  exact Nat.lt_add_of_pos_right (byteLength_pos filled)

theorem byteLength_take_le_iff {s : List Char} {first last : Nat} (first_reached : first ≤ s.length)
    (last_reached : last ≤ s.length) :
    byteLength (s.take first) ≤ byteLength (s.take last) ↔ first ≤ last := by
  constructor
  · intro ordered
    by_contra behind
    exact Nat.not_le_of_lt (byteLength_take_lt (Nat.lt_of_not_le behind) first_reached) ordered
  · intro ordered
    rcases Nat.lt_or_eq_of_le ordered with before | rfl
    · exact Nat.le_of_lt (byteLength_take_lt before last_reached)
    · exact Nat.le_refl _

/-- Cutting at the bytes in front of a part and behind it gives the part. -/
theorem cutBytes?_byteLength (front part rest : List Char) :
    cutBytes? (byteLength front) (byteLength (front ++ part)) (front ++ (part ++ rest)) =
      some part := by
  have length : byteLength (front ++ part) - byteLength front = byteLength part := by
    rw [byteLength_append, Nat.add_sub_cancel_left]
  simp only [cutBytes?, fromByte?, length, splitAtByte?_byteLength, Option.map_some, bind,
    Option.bind_some]

end Text

namespace Location

/-- A slice is the characters between its columns, if these are in order and on the line. -/
theorem slice?_eq (location : Location) (line : List Char) :
    location.slice? line =
      if location.startCol ≤ location.endCol ∧ location.endCol ≤ line.length then
        some ((line.take location.endCol).drop location.startCol)
      else none := by
  obtain ⟨_, _, start, _, stop⟩ := location
  have found {column : Nat} (reached : column ≤ line.length) :
      (Text.columnBytes 0 line)[column]? = some (Text.byteLength (line.take column)) := by
    rw [Text.columnBytes_getElem?, if_pos reached, Nat.zero_add]
  have missed {column : Nat} (beyond : ¬ column ≤ line.length) :
      (Text.columnBytes 0 line)[column]? = none := by
    rw [Text.columnBytes_getElem?, if_neg beyond]
  by_cases start_reached : start ≤ line.length
  · by_cases stop_reached : stop ≤ line.length
    · simp only [slice?, found start_reached, found stop_reached, bind, Option.bind_some,
        Text.byteLength_take_le_iff start_reached stop_reached, stop_reached, and_true]
      by_cases ordered : start ≤ stop
      · have front : (line.take stop).take start = line.take start := by
          rw [List.take_take, Nat.min_eq_left ordered]
        have cut := Text.cutBytes?_byteLength ((line.take stop).take start)
          ((line.take stop).drop start) (line.drop stop)
        rw [← List.append_assoc, List.take_append_drop, List.take_append_drop, front] at cut
        rw [if_pos ordered, if_pos ordered, cut]
      · rw [if_neg ordered, if_neg ordered]
    · simp only [slice?, found start_reached, missed stop_reached, bind, Option.bind_some,
        Option.bind_none, stop_reached, and_false, if_false]
  · have outside : ¬ (start ≤ stop ∧ stop ≤ line.length) := by
      rintro ⟨ordered, stop_reached⟩
      exact start_reached (Nat.le_trans ordered stop_reached)
    simp only [slice?, missed start_reached, bind, Option.bind_none, outside, if_false]

theorem slice?_eq_some_iff {location : Location} {line part : List Char} :
    location.slice? line = some part ↔
      location.startCol ≤ location.endCol ∧ location.endCol ≤ line.length ∧
        part = (line.take location.endCol).drop location.startCol := by
  rw [slice?_eq, Option.ite_none_right_eq_some, Option.some.injEq, and_assoc, eq_comm (a := part)]

theorem slice?_eq_none_iff {location : Location} {line : List Char} :
    location.slice? line = none ↔
      ¬ (location.startCol ≤ location.endCol ∧ location.endCol ≤ line.length) := by
  rw [slice?_eq, ite_eq_right_iff]
  exact forall_congr' fun _ => iff_of_false (Option.some_ne_none _) id

theorem slice?_wholeLine (sourceId : String) (number : Nat) (line : List Char) :
    (wholeLine sourceId number line).slice? line = some line := by
  apply slice?_eq_some_iff.mpr
  exact ⟨Nat.zero_le _, Nat.le_refl _, List.take_length.symm⟩

theorem slice?_wholeLine_eq_some_iff (sourceId : String) (number : Nat)
    {line other part : List Char} :
    (wholeLine sourceId number line).slice? other = some part ↔
      part <+: other ∧ part.length = line.length := by
  rw [slice?_eq_some_iff, wholeLine]
  constructor
  · rintro ⟨-, reached, rfl⟩
    exact ⟨List.take_prefix _ _, List.length_take_of_le reached⟩
  · rintro ⟨⟨rest, rfl⟩, same⟩
    rw [← same]
    exact ⟨Nat.zero_le _, by simp, List.take_left.symm⟩

/-- A location covers the characters from its first column up to its last one, and nothing if
the columns are out of order or one is not on the line: no cut fails between two columns,
since a column is always at a byte behind whole characters. So the location of a whole line
covers that line, and of another one as many characters. -/
theorem slice?_covers (location : Location) (line : List Char) :
    (∀ part, location.slice? line = some part ↔
      location.startCol ≤ location.endCol ∧ location.endCol ≤ line.length ∧
        part = (line.take location.endCol).drop location.startCol) ∧
    (location.slice? line = none ↔
      ¬ (location.startCol ≤ location.endCol ∧ location.endCol ≤ line.length)) ∧
    (∀ column byte, (Text.columnBytes 0 line)[column]? = some byte ↔
      column ≤ line.length ∧ byte = (Text.utf8 (String.ofList (line.take column))).length) ∧
    ∀ sourceId number,
      (wholeLine sourceId number line).slice? line = some line ∧
      (∀ other part, (wholeLine sourceId number line).slice? other = some part ↔
        part <+: other ∧ part.length = line.length) ∧
      ∀ other, (wholeLine sourceId number line).slice? other = none ↔
        other.length < line.length := by
  refine ⟨fun part => slice?_eq_some_iff, slice?_eq_none_iff, ?_, fun sourceId number => ?_⟩
  · intro column byte
    rw [Text.columnBytes_getElem?, Option.ite_none_right_eq_some, Option.some.injEq, Nat.zero_add,
      Text.byteLength_eq_utf8, eq_comm (a := byte)]
  · refine ⟨slice?_wholeLine sourceId number line, ?_, ?_⟩
    · intro other part
      exact slice?_wholeLine_eq_some_iff sourceId number
    · intro other
      rw [slice?_eq_none_iff, wholeLine]
      simp

/-- Columns around characters of three and two bytes, and a column behind the line. -/
example : slice? ⟨"a.rb", 0, 1, 0, 3⟩ "#\u3000é ".toList = some "\u3000é".toList ∧
    slice? ⟨"a.rb", 0, 1, 0, 5⟩ "#\u3000é ".toList = none := by decide +kernel

end Location

end AttributePins

import AttributePins.Text.Width
import Mathlib.Data.List.MinMax

/-! Widths of texts that are put together. A space ends every sequence: whatever follows it, it
takes one column and the character in front of it sees nothing of what follows. Some characters
take back columns of what follows them, but never more than it has, so no text has a width below
zero and the widths of parts with spaces between them can be added up. -/
namespace AttributePins.Text

theorem Ranges.exists_of_covers {table : Ranges} {n : Nat} (covered : table.covers n = true) :
    ∃ range ∈ table, range.1 ≤ n ∧ n ≤ range.2 := by
  induction table with
  | nil => contradiction
  | cons range rest ih =>
    obtain ⟨first, last⟩ := range
    rw [covers] at covered
    split_ifs at covered with before within
    · exact ⟨(first, last), List.mem_cons_self, Nat.le_of_not_lt before, within⟩
    · obtain ⟨range, member, bounds⟩ := ih covered
      exact ⟨range, List.mem_cons_of_mem _ member, bounds⟩

namespace Width

section Owed

/-- How many of the columns that follow may be taken back by the characters in front of them. -/
def Following.owed : Following → Int
  | .ligature .khmer _ => 1
  | .ligature .tifinaghPair _ => 1
  | .joinedIndicator => 1
  | .joinedOdd => 1
  | _ => 0

theorem Following.owed_nonneg (following : Following) : 0 ≤ following.owed := by
  unfold owed
  split <;> decide

theorem Following.owed_le_one (following : Following) : following.owed ≤ 1 := by
  unfold owed
  split <;> decide

theorem Following.owed_behindSelector (following : Following) :
    following.behindSelector.owed ≤ following.owed := by
  unfold behindSelector
  split
  · exact Int.le_refl _
  · exact following.owed_nonneg

theorem ownWidth_nonneg (c : Char) : 0 ≤ ownWidth c := by
  unfold ownWidth
  split_ifs <;> decide

theorem khmer_apart_from_zero : ∀ letters ∈ khmerRanges, ∀ marks ∈ zeroRanges,
    letters.2 < marks.1 ∨ marks.2 < letters.1 := by
  decide +kernel

/-- The letters in front of which a mark may take back a column have one. -/
theorem one_le_ownWidth_of_khmer {c : Char} (khmer : khmerRanges.has c = true) :
    1 ≤ ownWidth c := by
  obtain ⟨letters, letter, lower, upper⟩ := Ranges.exists_of_covers khmer
  unfold ownWidth
  split_ifs with sign wide mark
  · decide
  · decide
  · obtain ⟨marks, member, first, last⟩ := Ranges.exists_of_covers mark
    have apart := khmer_apart_from_zero letters letter marks member
    omega
  · decide

theorem owed_ite {condition : Prop} [Decidable condition] {columns : Int} {first second : Following}
    (yes : condition → first.owed ≤ columns) (no : second.owed ≤ columns) :
    (if condition then first else second).owed ≤ columns := by
  split
  · exact yes ‹_›
  · exact no

/-- A character has what it leaves for the one in front of it to take back. -/
theorem owed_ofChar (c : Char) : (Following.ofChar c).owed ≤ ownWidth c := by
  have free := ownWidth_nonneg c
  unfold Following.ofChar
  -- The conditions stay closed here: `split` would compare the tables with each other.
  repeat' refine owed_ite (fun _ => ?_) ?_
  all_goals first | exact free | exact one_le_ownWidth_of_khmer (by assumption)

variable {c : Char} {added : Int} {next : Following}

theorem owed_ligatureStep {letter : Ligature} {joined : Bool}
    (taken : ligatureStep? letter joined c = some (added, next)) :
    next.owed ≤ (Following.ligature letter joined).owed + added := by
  unfold ligatureStep? at taken
  split at taken
  all_goals
    repeat' split at taken
    all_goals cases taken
    all_goals exact Int.le_refl _

theorem owed_joinerStep (taken : joinerStep? c = some (added, next)) :
    next.owed ≤ Following.joiner.owed + added := by
  unfold joinerStep? at taken
  split_ifs at taken <;> cases taken <;> decide

theorem owed_tagStep {letters digits : Nat}
    (taken : tagStep? letters digits c = some (added, next)) :
    next.owed ≤ (Following.tagged letters digits).owed + added := by
  unfold tagStep? at taken
  split_ifs at taken <;> cases taken <;> exact Int.le_refl 0

theorem owed_kiratStep {following : Following}
    (taken : kiratStep? following c = some (added, next)) : next.owed ≤ following.owed + added := by
  unfold kiratStep? at taken
  split at taken <;> cases taken <;> decide

theorem owed_sequenceStep {following : Following}
    (taken : sequenceStep? following c = some (added, next)) :
    next.owed ≤ following.owed + added := by
  unfold sequenceStep? at taken
  split at taken
  · cases taken
    rw [Int.add_zero]
    exact following.owed_nonneg
  · cases following with
    | ligature letter joined =>
      dsimp only at taken
      split_ifs at taken
      · cases taken
        cases letter <;> cases joined <;> decide
      · cases taken
        rw [Int.add_zero]
      · exact owed_ligatureStep taken
    | joiner => exact owed_joinerStep taken
    | tagged letters digits => exact owed_tagStep taken
    | alef | skinTone | indicator | indicators | joinedIndicator | joinedEven | joinedOdd =>
      dsimp only at taken
      split_ifs at taken <;> cases taken <;> decide
    | plain | lineFeed | emoji | joinedKeycap | kiratE | kiratAi => exact owed_kiratStep taken

theorem owed_select (context : Context) (selector : Selector) :
    (context.select selector).following.owed ≤ context.following.owed := by
  unfold Context.select
  dsimp only
  split
  · exact Int.le_refl _
  · exact context.following.owed_behindSelector

theorem owed_unselectedStep (context : Context) (c : Char) :
    (unselectedStep context c).2.following.owed ≤
      context.following.owed + (unselectedStep context c).1 := by
  have known := context.following.owed_nonneg
  unfold unselectedStep
  dsimp only
  -- One case for each rule, in their order.
  split
  · split
    · exact Int.add_nonneg known (Int.le_refl 0)
    · exact (Following.owed_le_one _).trans (Int.le_add_of_nonneg_left known)
  split
  · exact (owed_select context .picture).trans (Int.add_zero _).ge
  split
  · exact (owed_select context .text).trans (Int.add_zero _).ge
  split
  · exact Int.add_nonneg known Int.one_nonneg
  split
  · exact context.following.owed_behindSelector.trans (Int.add_zero _).ge
  split
  · exact Int.add_nonneg known (by decide)
  split
  case h_1 taken => exact owed_sequenceStep taken
  case h_2 => exact (owed_ofChar c).trans (Int.le_add_of_nonneg_left known)

/-- With a character, what may be taken back grows by no more than the character adds. -/
theorem owed_step (context : Context) (c : Char) :
    (step context c).2.following.owed ≤ context.following.owed + (step context c).1 := by
  have known := context.following.owed_nonneg
  unfold step
  split
  · split
    · refine Int.add_nonneg known ?_
      split <;> decide
    · refine (owed_unselectedStep _ c).trans (Int.add_le_add_right ?_ _)
      exact context.following.owed_behindSelector
  · exact owed_unselectedStep context c

end Owed

theorem measure_cons (c : Char) (text : List Char) :
    measure (c :: text) =
      ((measure text).1 + (step (measure text).2 c).1, (step (measure text).2 c).2) := rfl

theorem owed_le_measure (text : List Char) :
    (measure text).2.following.owed ≤ (measure text).1 := by
  induction text with
  | nil => exact Int.le_refl 0
  | cons c text ih =>
    rw [measure_cons]
    exact (owed_step _ c).trans (Int.add_le_add_right ih _)

theorem measure_nonneg (text : List Char) : 0 ≤ (measure text).1 :=
  (Following.owed_nonneg _).trans (owed_le_measure text)

/-- A space takes its column and cuts off what follows. -/
theorem step_space (context : Context) : step context ' ' = (1, {}) := by
  unfold step
  split <;> rfl

theorem measure_append_space (front back : List Char) :
    measure (front ++ ' ' :: back) =
      ((measure front).1 + 1 + (measure back).1, (measure front).2) := by
  induction front with
  | nil =>
    rw [List.nil_append, measure_cons, step_space]
    exact Prod.ext (Int.add_comm _ _) rfl
  | cons c front ih =>
    rw [List.cons_append, measure_cons, ih, measure_cons]
    refine Prod.ext ?_ rfl
    dsimp only
    omega

end Width

/-- The width is all that is measured: nothing is cut off at zero. -/
theorem width_eq_measure (text : String) : (width text : Int) = (Width.measure text.toList).1 :=
  Int.toNat_of_nonneg (Width.measure_nonneg _)

/-- The sign between two Khmer letters puts one below the other. -/
example : width "\u1780\u17d2\u1780" = 1 := rfl

theorem width_append_space (front back : String) :
    width (front ++ " " ++ back) = width front + 1 + width back := by
  have whole := congrArg Prod.fst (Width.measure_append_space front.toList back.toList)
  have parted : (front ++ " " ++ back).toList = front.toList ++ ' ' :: back.toList := by simp
  rw [← parted, ← width_eq_measure, ← width_eq_measure, ← width_eq_measure] at whole
  exact Int.ofNat.inj whole

theorem width_append_gap (front back : String) :
    width (front ++ "  " ++ back) = width front + 2 + width back := by
  have parted : front ++ "  " ++ back = front ++ " " ++ "" ++ " " ++ back :=
    String.toList_injective (by simp)
  rw [parted, width_append_space, width_append_space]
  rfl

theorem width_append_spaces (text : String) (count : Nat) :
    width (text ++ String.ofList (List.replicate count ' ')) = width text + count := by
  induction count with
  | zero => simp
  | succ count ih =>
    have last : text ++ String.ofList (List.replicate (count + 1) ' ') =
        text ++ String.ofList (List.replicate count ' ') ++ " " ++ "" :=
      String.toList_injective (by simp [List.replicate_succ'])
    rw [last, width_append_space, ih]
    rfl

end AttributePins.Text

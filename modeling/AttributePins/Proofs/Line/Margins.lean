import AttributePins.Line
import AttributePins.Proofs.Text.Margins

/-! No rule for lines sees white space at the ends of a line. Indentation and trailing
blanks change neither the kind of a line nor what is read from it. -/
namespace AttributePins.Line

open Text

section Directives

/-- A joint may be a space, but a directive never ends in one. -/
theorem leavesBehind_afterJoint? {next : List Char → Option (List Char)}
    (later : LeavesBehind next) (unread : next [] = none) :
    LeavesBehind fun s => (afterJoint? s).bind next := by
  intro s c blank
  cases s with
  | nil =>
    have gone : (afterJoint? [c]).bind next = none := by
      rw [afterJoint?]
      split
      · exact unread
      · rfl
    exact gone
  | cons d rest =>
    simp only [List.cons_append, afterJoint?]
    split
    · exact later rest c blank
    · rfl

theorem ignoresBehind_startsFrozen : IgnoresBehind startsFrozen := by
  have literal := LeavesBehind.afterFolded? "literal".toList (by decide)
  have string := LeavesBehind.afterFolded? "string".toList (by decide)
  have frozen := LeavesBehind.afterFolded? "frozen".toList (by decide)
  have ending := string.andThen (leavesBehind_afterJoint? literal rfl)
  exact (frozen.andThen (leavesBehind_afterJoint? ending rfl)).isSome

theorem ignoresBehind_startsCoding : IgnoresBehind startsCoding := by
  intro s c blank
  unfold startsCoding
  rw [LeavesBehind.afterFolded? _ (by decide) s c blank]
  cases afterFolded? "coding".toList s with
  | none => rfl
  | some rest =>
    simp only [Option.map_some, trimStart_behind blank]
    cases trimStart rest <;> rfl

theorem ignoresBehind_startsEncoding : IgnoresBehind startsEncoding := by
  intro s c blank
  unfold startsEncoding
  rw [LeavesBehind.afterFolded? _ (by decide) s c blank]
  cases afterFolded? "en".toList s with
  | none => rfl
  | some rest => exact ignoresBehind_startsCoding rest c blank

theorem ignoresBehind_startsDirective : IgnoresBehind startsDirective := by
  intro s c blank
  simp only [startsDirective, ignoresBehind_startsFrozen s c blank,
    ignoresBehind_startsEncoding s c blank, ignoresBehind_startsCoding s c blank]

theorem ignoresBehind_hasDirective (before : Char) : IgnoresBehind (hasDirective before) := by
  intro s c blank
  induction s generalizing before with
  | nil =>
    have starts : startsDirective [c] = false := ignoresBehind_startsDirective [] c blank
    simp [hasDirective, starts]
  | cons d rest ih =>
    have starts := ignoresBehind_startsDirective (d :: rest) c blank
    rw [List.cons_append] at starts ⊢
    rw [hasDirective, hasDirective, starts, ih d]

end Directives

section Markers

theorem afterMarker?_eq (line : List Char) :
    afterMarker? line = afterPrefix? ['#'] (trimStart line) := by
  unfold afterMarker?
  split
  · rename_i rest marked
    rw [marked]
    rfl
  · rename_i unmarked
    cases start : trimStart line with
    | nil => rfl
    | cons c rest =>
      have different : '#' ≠ c := by
        rintro rfl
        exact unmarked rest start
      exact (if_neg different).symm

theorem afterMarker?_before {c : Char} (blank : isBlank c = true) (s : List Char) :
    afterMarker? (c :: s) = afterMarker? s := by
  rw [afterMarker?_eq, afterMarker?_eq, trimStart_before blank]

theorem leavesBehind_afterMarker? : LeavesBehind afterMarker? := by
  have read := (LeavesBehind.afterPrefix? ['#'] (by decide)).trimStart rfl
  intro s c blank
  simpa only [afterMarker?_eq] using read s c blank

theorem ignoresMargins_isComment : IgnoresMargins isComment where
  before c s blank := by rw [isComment, afterMarker?_before blank, ← isComment]
  behind := leavesBehind_afterMarker?.isSome

theorem ignoresMargins_any_afterMarker? {rule : List Char → Bool} (ignores : IgnoresBehind rule) :
    IgnoresMargins fun line => (afterMarker? line).any rule where
  before c s blank := by simp only [afterMarker?_before blank]
  behind s c blank := by
    simp only [leavesBehind_afterMarker? s c blank]
    cases afterMarker? s with
    | none => rfl
    | some rest => exact ignores rest c blank

theorem isBareMarker_eq (line : List Char) :
    isBareMarker line = (afterMarker? line).any isBlankLine := by
  unfold isBareMarker
  cases afterMarker? line <;> rfl

theorem isDirective_eq (line : List Char) :
    isDirective line = (afterMarker? line).any (hasDirective '#') := by
  unfold isDirective
  cases afterMarker? line <;> rfl

theorem ignoresMargins_stripMarker {rule : List Char → β} (ignores : IgnoresMargins rule) :
    IgnoresMargins fun line => rule (stripMarker line) where
  before c s blank := by
    simp only [stripMarker, afterMarker?_before blank]
    cases afterMarker? s with
    | none => exact ignores.before c s blank
    | some rest => rfl
  behind s c blank := by
    simp only [stripMarker, leavesBehind_afterMarker? s c blank]
    cases afterMarker? s with
    | none => exact ignores.behind s c blank
    | some rest => exact ignores.behind.trimStart rest c blank

end Markers

section Headers

theorem isNameChar_of_isBlank {c : Char} (blank : isBlank c = true) : isNameChar c = false := by
  apply Bool.eq_false_iff.mpr
  intro given
  have spelled : (((c.isUpper || c.isLower) || c.isDigit) || decide (c = '_')) = true := given
  have small : c.toNat < 128 := by
    simp only [Bool.or_eq_true, decide_eq_true_eq] at spelled
    rcases spelled with ((upper | lower) | digit) | rfl
    · have bound : 65 ≤ c.val ∧ c.val ≤ 90 := of_decide_eq_true upper
      exact Nat.lt_of_le_of_lt (UInt32.le_iff_toNat_le.mp bound.2) (by decide)
    · have bound : c.val ≤ 122 := of_decide_eq_true (Bool.and_eq_true_iff.mp lower).2
      exact Nat.lt_of_le_of_lt (UInt32.le_iff_toNat_le.mp bound) (by decide)
    · have bound : c.val ≤ 57 := of_decide_eq_true (Bool.and_eq_true_iff.mp digit).2
      exact Nat.lt_of_le_of_lt (UInt32.le_iff_toNat_le.mp bound) (by decide)
    · decide
  have checked := of_ascii (p := fun c => !isNameChar c || !isBlank c) (by decide +kernel) small
  simp [given, blank] at checked

theorem className?_behind {c : Char} (blank : isBlank c = true) (s : List Char) :
    className? (s ++ [c]) = (className? s).map fun read => (read.1, read.2 ++ [c]) := by
  have other := isNameChar_of_isBlank blank
  cases s with
  | nil => simp [className?]
  | cons d rest =>
    simp only [List.cons_append, className?, takeWhile_behind other, dropWhile_behind other]
    split <;> rfl

theorem ignoresBehind_startsBase : IgnoresBehind startsBase := by
  intro s c blank
  have active := (LeavesBehind.afterPrefix? "ActiveRecord::Base".toList (by decide)).isSome
  have application := (LeavesBehind.afterPrefix? "ApplicationRecord".toList (by decide)).isSome
  simp only [startsBase, baseClasses, List.any_cons, List.any_nil, active s c blank,
    application s c blank]

theorem ignoresBehind_headerAt? : IgnoresBehind headerAt? := by
  have base (name : List Char) : IgnoresBehind fun s =>
      if startsBase (trimStart s) then some name else none := by
    intro s c blank
    simp only [ignoresBehind_startsBase.trimStart s c blank]
  have sign (name : List Char) :=
    ((LeavesBehind.afterPrefix? ['<'] (by decide)).bind (base name)).trimStart
  have named : IgnoresBehind fun s => (className? s).bind fun read =>
      (afterPrefix? ['<'] (trimStart read.2)).bind fun s =>
        if startsBase (trimStart s) then some read.1 else none := by
    intro s c blank
    simp only [className?_behind blank]
    cases className? s with
    | none => rfl
    | some read => exact sign read.1 read.2 c blank
  exact (LeavesBehind.afterPrefix? "class".toList (by decide)).bind named.trimStart

theorem ignoresMargins_firstHeader? : IgnoresMargins firstHeader? where
  before c s blank := by
    have different : 'c' ≠ c := by
      rintro rfl
      contradiction
    have unstarted : headerAt? (c :: s) = none := by
      have keyword : afterPrefix? "class".toList (c :: s) = none := if_neg different
      simp only [headerAt?, keyword, bind, Option.bind_none]
    rw [firstHeader?, unstarted, Option.none_or]
  behind s c blank := by
    induction s with
    | nil =>
      have unstarted : headerAt? [c] = none := ignoresBehind_headerAt? [] c blank
      exact congrArg (Option.or · none) unstarted
    | cons d rest ih =>
      have header := ignoresBehind_headerAt? (d :: rest) c blank
      rw [List.cons_append] at header ⊢
      rw [firstHeader?, firstHeader?, header, ih]

end Headers

theorem ignoresMargins_isSchemaHeader : IgnoresMargins isSchemaHeader := by
  have schema := ignoresMargins_occursIn "Schema".toList (by decide) (by decide)
  have table := ignoresMargins_occursIn "Table".toList (by decide) (by decide)
  constructor
  · intro c s blank
    rw [isSchemaHeader, schema.before c s blank, table.before c s blank, ← isSchemaHeader]
  · intro s c blank
    rw [isSchemaHeader, schema.behind s c blank, table.behind s c blank, ← isSchemaHeader]

theorem ignoresMargins_isBareMarker : IgnoresMargins isBareMarker := by
  rw [funext isBareMarker_eq]
  exact ignoresMargins_any_afterMarker? ignoresMargins_all_isBlank.behind

theorem ignoresMargins_isDirective : IgnoresMargins isDirective := by
  rw [funext isDirective_eq]
  exact ignoresMargins_any_afterMarker? (ignoresBehind_hasDirective '#')

/-- The kind of a line follows from five rules. -/
theorem classify_congr {first second : List Char} (blank : isBlankLine first = isBlankLine second)
    (header : isSchemaHeader first = isSchemaHeader second)
    (bare : isBareMarker first = isBareMarker second)
    (directive : isDirective first = isDirective second)
    (comment : isComment first = isComment second) : classify first = classify second := by
  simp only [classify, skipReason?, blank, header, bare, directive, comment]

theorem ignoresMargins_classify : IgnoresMargins classify where
  before c s blank := classify_congr (ignoresMargins_all_isBlank.before c s blank)
    (ignoresMargins_isSchemaHeader.before c s blank) (ignoresMargins_isBareMarker.before c s blank)
    (ignoresMargins_isDirective.before c s blank) (ignoresMargins_isComment.before c s blank)
  behind s c blank := classify_congr (ignoresMargins_all_isBlank.behind s c blank)
    (ignoresMargins_isSchemaHeader.behind s c blank) (ignoresMargins_isBareMarker.behind s c blank)
    (ignoresMargins_isDirective.behind s c blank) (ignoresMargins_isComment.behind s c blank)

theorem ignoresMargins_attributeTokens? : IgnoresMargins attributeTokens? :=
  (ignoresMargins_stripMarker ignoresMargins_firstTwoWords).map (Option.map _)

theorem ignoresMargins_modelName? : IgnoresMargins modelName? :=
  (ignoresMargins_stripMarker ignoresMargins_firstHeader?).map (Option.map _)

/-- Two lines that differ in nothing a block is read from, but for their length. -/
structure Alike (first second : List Char) : Prop where
  kind : classify first = classify second
  tokens : attributeTokens? first = attributeTokens? second
  model : modelName? first = modelName? second

theorem alike_trim (line : List Char) : Alike (trim line) line where
  kind := ignoresMargins_classify.trim line
  tokens := ignoresMargins_attributeTokens?.trim line
  model := ignoresMargins_modelName?.trim line

theorem alike_behind (line : List Char) {c : Char} (blank : isBlank c = true) :
    Alike (line ++ [c]) line where
  kind := ignoresMargins_classify.behind line c blank
  tokens := ignoresMargins_attributeTokens?.behind line c blank
  model := ignoresMargins_modelName?.behind line c blank

end AttributePins.Line

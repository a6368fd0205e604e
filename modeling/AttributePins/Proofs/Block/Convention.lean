import AttributePins.Proofs.Block.Reading
import AttributePins.Proofs.Text.Words

/-! Blocks as the schema annotator writes them: one comment line for each column, then the
class header of the model. Such a block is read back exactly. No rule for lines that are
skipped fires on a column's line, whatever the column is called, and the header's line
names the model whatever follows. -/
namespace AttributePins

open Text

namespace Convention

def isColumnChar (c : Char) : Bool := c.isLower || c.isDigit || c = '_'

/-- A column: a name in lower case, at least one space, and a type that is known. The name
does not start like the magic comment that its line would be taken for. -/
structure Column where
  name : String
  gap : Nat
  token : String
  type : SemanticType
  named : ∃ first rest, name.toList = first :: rest ∧ (first.isLower = true ∨ first = '_') ∧
    ∀ c ∈ rest, isColumnChar c = true
  plain : ¬ "frozen_string_literal".toList <+: name.toList
  spaced : 0 < gap
  known : (token, type) ∈ TypeTable.rails.entries

/-- What stands behind the comment marker and a space. -/
def Column.content (column : Column) : List Char :=
  column.name.toList ++ (List.replicate column.gap ' ' ++ column.token.toList)

def Column.line (column : Column) : List Char := '#' :: ' ' :: column.content

/-- The header of a model's class. The name mentions neither a schema nor a table. -/
structure Header where
  model : String
  base : String
  named : ∃ first second rest, model.toList = first :: second :: rest ∧ first.isUpper = true ∧
    ∀ c ∈ second :: rest, Line.isNameChar c = true
  no_schema : ¬ "Schema".toList <:+: model.toList
  no_table : ¬ "Table".toList <:+: model.toList
  known : base = "ApplicationRecord" ∨ base = "ActiveRecord::Base"

def Header.line (header : Header) : List Char :=
  "class".toList ++ ' ' :: (header.model.toList ++ ' ' :: ("<".toList ++ ' ' :: header.base.toList))

/-- The text of a block, and whatever follows it. -/
def text (columns : List Column) (header : Header) (following : String) : String :=
  String.ofList ((columns.flatMap fun column => column.line ++ ['\n']) ++
    header.line ++ '\n' :: following.toList)

theorem toNat_lt_of_isColumnChar {c : Char} (given : isColumnChar c = true) : c.toNat < 128 := by
  simp only [isColumnChar, Bool.or_eq_true, decide_eq_true_eq] at given
  rcases given with (lower | digit) | rfl
  · have bound : c.val ≤ 122 := of_decide_eq_true (Bool.and_eq_true_iff.mp lower).2
    exact Nat.lt_of_le_of_lt (UInt32.le_iff_toNat_le.mp bound) (by decide)
  · have bound : c.val ≤ 57 := of_decide_eq_true (Bool.and_eq_true_iff.mp digit).2
    exact Nat.lt_of_le_of_lt (UInt32.le_iff_toNat_le.mp bound) (by decide)
  · decide

/-- The characters that matter to the rules for lines. -/
def marks : List Char := [' ', '\n', '\r', ':', '=', '-', 'S', 'T']

theorem isColumnChar_facts {c : Char} (given : isColumnChar c = true) :
    isBlank c = false ∧ isWordChar c = true ∧ fold c = c ∧ c ∉ marks := by
  have checked := of_ascii (p := fun c => !isColumnChar c ||
    (!isBlank c && isWordChar c && fold c == c && !marks.contains c)) (by decide +kernel)
    (toNat_lt_of_isColumnChar given)
  simpa [given, and_assoc] using checked

theorem token_chars : ∀ entry ∈ TypeTable.rails.entries, entry.1.toList ≠ [] ∧
    ∀ c ∈ entry.1.toList, isColumnChar c = true := by
  have checked : ∀ entry ∈ TypeTable.rails.entries, entry.1.toList ≠ [] ∧
      entry.1.toList.all isColumnChar = true := by decide
  simpa only [List.all_eq_true] using checked

namespace Column

variable (column : Column)

theorem name_chars : ∀ c ∈ column.name.toList, isColumnChar c = true := by
  obtain ⟨first, rest, spelled, start, others⟩ := column.named
  rw [spelled]
  intro c member
  rcases List.mem_cons.mp member with rfl | later
  · rcases start with lower | rfl
    · simp [isColumnChar, lower]
    · rfl
  · exact others c later

theorem name_ne_nil : column.name.toList ≠ [] := by
  obtain ⟨first, rest, spelled, -⟩ := column.named
  rw [spelled]
  exact List.cons_ne_nil first rest

theorem content_chars : ∀ c ∈ column.content, c = ' ' ∨ isColumnChar c = true := by
  intro c member
  simp only [content, List.mem_append, List.mem_replicate] at member
  rcases member with name | ⟨-, space⟩ | token
  · exact .inr (column.name_chars c name)
  · exact .inl space
  · exact .inr ((token_chars _ column.known).2 c token)

end Column

/-- No directive starts at a space. -/
theorem hasDirective_space (before : Char) (s : List Char) :
    Line.hasDirective before (' ' :: s) = Line.hasDirective ' ' s := by
  have none : Line.startsDirective (' ' :: s) = false := rfl
  rw [Line.hasDirective, none]
  simp

/-- Within a word no directive starts. -/
theorem hasDirective_within {before : Char} (inside : isWordChar before = true)
    {front s : List Char} (word : ∀ c ∈ front, isWordChar c = true)
    (later : ∀ c, isWordChar c = true → Line.hasDirective c s = false) :
    Line.hasDirective before (front ++ s) = false := by
  induction front generalizing before with
  | nil => exact later before inside
  | cons c rest ih =>
    rw [List.cons_append, Line.hasDirective, inside,
      ih (word c List.mem_cons_self) fun d member => word d (List.mem_cons_of_mem c member)]
    simp

theorem hasDirective_spaces {count : Nat} (some : 0 < count) (before : Char) {s : List Char}
    (later : Line.hasDirective ' ' s = false) :
    Line.hasDirective before (List.replicate count ' ' ++ s) = false := by
  induction count generalizing before with
  | zero => contradiction
  | succ count ih =>
    rw [List.replicate_succ, List.cons_append, hasDirective_space]
    cases count with
    | zero => exact later
    | succ count => exact ih (Nat.succ_pos count) ' '

theorem startsCoding_mark {s : List Char} (starts : Line.startsCoding s = true) :
    ':' ∈ s ∨ '=' ∈ s := by
  unfold Line.startsCoding at starts
  split at starts
  · contradiction
  · rename_i rest found
    obtain ⟨front, rfl, -⟩ := afterFolded?_eq_some_iff.mp found
    split at starts
    · rename_i c tail trimmed
      have suffix : c :: tail <:+ rest := trimmed ▸ List.dropWhile_suffix isBlank
      have member : c ∈ front ++ rest := List.mem_append_right front (suffix.mem List.mem_cons_self)
      rcases of_decide_eq_true starts with rfl | rfl
      · exact .inl member
      · exact .inr member
    · contradiction

theorem startsEncoding_mark {s : List Char} (starts : Line.startsEncoding s = true) :
    ':' ∈ s ∨ '=' ∈ s := by
  unfold Line.startsEncoding at starts
  split at starts
  · contradiction
  · rename_i rest found
    obtain ⟨front, rfl, -⟩ := afterFolded?_eq_some_iff.mp found
    exact (startsCoding_mark starts).imp (List.mem_append_right front) (List.mem_append_right front)

theorem afterFolded?_plain {pattern s rest : List Char} (plain : ∀ c ∈ s, fold c = c)
    (found : afterFolded? pattern s = some rest) : s = pattern ++ rest := by
  obtain ⟨front, rfl, folded⟩ := afterFolded?_eq_some_iff.mp found
  have same : front.map fold = front.map id :=
    List.map_congr_left fun c member => plain c (List.mem_append_left rest member)
  rw [← folded, same, List.map_id]

theorem afterJoint?_eq_some {s rest : List Char} (found : Line.afterJoint? s = some rest) :
    ∃ joint ∈ ['_', ' ', '-'], s = joint :: rest := by
  cases s with
  | nil => contradiction
  | cons c tail =>
    obtain ⟨joint, same⟩ := Option.ite_none_right_eq_some.mp found
    refine ⟨c, by simpa using joint, ?_⟩
    rw [Option.some.inj same]

def frozen (joint joint' : Char) : List Char :=
  "frozen".toList ++ joint :: ("string".toList ++ joint' :: "literal".toList)

theorem startsFrozen_spelled {s : List Char} (plain : ∀ c ∈ s, fold c = c)
    (starts : Line.startsFrozen s = true) :
    ∃ joint ∈ ['_', ' ', '-'], ∃ joint' ∈ ['_', ' ', '-'], frozen joint joint' <+: s := by
  unfold Line.startsFrozen at starts
  obtain ⟨rest, found⟩ := Option.isSome_iff_exists.mp starts
  simp only [bind, Option.bind_eq_some_iff] at found
  obtain ⟨s₁, first, s₂, second, s₃, third, s₄, fourth, fifth⟩ := found
  obtain rfl := afterFolded?_plain plain first
  obtain ⟨joint, known, rfl⟩ := afterJoint?_eq_some second
  obtain rfl := afterFolded?_plain (fun c member => plain c (by simp [member])) third
  obtain ⟨joint', known', rfl⟩ := afterJoint?_eq_some fourth
  obtain rfl := afterFolded?_plain (fun c member => plain c (by simp [member])) fifth
  have regroup (a b c : List Char) : (a ++ joint :: (b ++ joint' :: c)) ++ rest =
      a ++ joint :: (b ++ joint' :: (c ++ rest)) := by simp
  exact ⟨joint, known, joint', known', rest, regroup _ _ _⟩

theorem joints {joint : Char} (known : joint ∈ ['_', ' ', '-']) :
    joint = '_' ∨ joint = ' ' ∨ joint = '-' := by
  simpa using known

theorem frozen_from_space : ∀ joint ∈ ['_', ' ', '-'], ∀ joint' ∈ ['_', ' ', '-'],
    (frozen joint joint').dropWhile (· ≠ ' ') ∈
      [[], ' ' :: "literal".toList, ' ' :: ("string".toList ++ joint' :: "literal".toList)] := by
  intro joint known joint' known'
  rcases joints known with rfl | rfl | rfl <;> rcases joints known' with rfl | rfl | rfl <;> decide

/-- No type stands where the rest of the directive would have to. -/
theorem token_not_frozen : ∀ entry ∈ TypeTable.rails.entries, ∀ joint ∈ ['_', ' ', '-'],
    ¬ "literal".toList <+: entry.1.toList ∧
    ¬ "string".toList ++ joint :: "literal".toList <+: entry.1.toList := by
  intro entry member joint known
  revert entry
  rcases joints known with rfl | rfl | rfl <;> decide

theorem token_undirected : ∀ entry ∈ TypeTable.rails.entries,
    Line.hasDirective ' ' entry.1.toList = false := by decide +kernel

theorem prefix_of_spaces {count : Nat} {front tail token : List Char} (filled : front ≠ [])
    (solid : front.head? ≠ some ' ')
    (same : List.replicate count ' ' ++ token = front ++ tail) : front <+: token := by
  cases count with
  | zero => exact ⟨tail, same.symm⟩
  | succ count =>
    cases front with
    | nil => contradiction
    | cons c rest => exact absurd (congrArg some (List.cons.inj same).1.symm) solid

namespace Column

variable (column : Column)

theorem space_not_mem_name : ' ' ∉ column.name.toList := by
  intro member
  exact absurd (column.name_chars ' ' member) (by decide)

/-- A name is no directive, since it may hold no other joint than the one it must not have. -/
theorem frozen_not_prefix_name {joint joint' : Char} (known : joint ∈ ['_', ' ', '-'])
    (known' : joint' ∈ ['_', ' ', '-']) : ¬ frozen joint joint' <+: column.name.toList := by
  intro starts
  have underscore {c : Char} (joint : c ∈ ['_', ' ', '-']) (member : c ∈ column.name.toList) :
      c = '_' := by
    have given := column.name_chars c member
    simp only [List.mem_cons, List.not_mem_nil, or_false] at joint
    rcases joint with rfl | rfl | rfl
    · rfl
    · contradiction
    · contradiction
  have member : joint ∈ frozen joint joint' := List.mem_append_right _ List.mem_cons_self
  have member' : joint' ∈ frozen joint joint' :=
    List.mem_append_right _ (List.mem_cons_of_mem _ (List.mem_append_right _ List.mem_cons_self))
  obtain rfl := underscore known (starts.mem member)
  obtain rfl := underscore known' (starts.mem member')
  exact column.plain starts

theorem startsFrozen_eq_false : Line.startsFrozen column.content = false := by
  apply Bool.eq_false_iff.mpr
  intro starts
  have plain : ∀ c ∈ column.content, fold c = c := by
    intro c member
    rcases column.content_chars c member with rfl | given
    · rfl
    · exact (isColumnChar_facts given).2.2.1
  obtain ⟨joint, known, joint', known', tail, split⟩ := startsFrozen_spelled plain starts
  have whole := column.frozen_not_prefix_name known known'
  rcases List.append_eq_append_iff.mp split with ⟨rest, name, -⟩ | ⟨rest, spelled, after⟩
  · exact whole ⟨rest, name.symm⟩
  · obtain ⟨count, positive⟩ := Nat.exists_eq_add_one.mpr column.spaced
    rw [positive, List.replicate_succ] at after
    cases rest with
    | nil => exact whole ⟨[], by simpa using spelled⟩
    | cons c rest =>
      -- The name ends inside the directive, at a space, and the type goes on from there.
      obtain ⟨rfl, typed⟩ := List.cons.inj after
      have stop : (frozen joint joint').dropWhile (· ≠ ' ') = ' ' :: rest := by
        rw [spelled, List.dropWhile_append_of_pos]
        · simp
        · intro c member
          simp only [ne_eq, decide_not, Bool.not_eq_true', decide_eq_false_iff_not]
          rintro rfl
          exact column.space_not_mem_name member
      have remains := frozen_from_space joint known joint' known'
      obtain ⟨literal, string⟩ := token_not_frozen _ column.known joint' known'
      simp only [stop, List.mem_cons, List.not_mem_nil, or_false, reduceCtorEq, false_or,
        List.cons.injEq, true_and] at remains
      rcases remains with rfl | rfl
      · exact literal (prefix_of_spaces (by simp) (by simp) typed)
      · exact string (prefix_of_spaces (by simp) (by simp) typed)

theorem startsDirective_eq_false : Line.startsDirective column.content = false := by
  have unmarked : ¬ (':' ∈ column.content ∨ '=' ∈ column.content) := by
    rintro (member | member)
    · exact absurd (column.content_chars _ member) (by decide)
    · exact absurd (column.content_chars _ member) (by decide)
  rw [Line.startsDirective, column.startsFrozen_eq_false,
    Bool.eq_false_iff.mpr (mt startsEncoding_mark unmarked),
    Bool.eq_false_iff.mpr (mt startsCoding_mark unmarked)]
  rfl

theorem hasDirective_eq_false : Line.hasDirective '#' (' ' :: column.content) = false := by
  obtain ⟨first, rest, spelled, -⟩ := column.named
  have chars := column.name_chars
  have starts := column.startsDirective_eq_false
  have typed := token_undirected _ column.known
  rw [hasDirective_space]
  rw [content, spelled, List.cons_append] at starts ⊢
  rw [spelled] at chars
  have within : Line.hasDirective first
      (rest ++ (List.replicate column.gap ' ' ++ column.token.toList)) = false := by
    apply hasDirective_within (isColumnChar_facts (chars first List.mem_cons_self)).2.1
    · intro c member
      exact (isColumnChar_facts (chars c (List.mem_cons_of_mem first member))).2.1
    · intro c _
      exact hasDirective_spaces column.spaced c typed
  rw [Line.hasDirective, starts, within]
  simp

theorem not_mem_line {c : Char} (marker : c ≠ '#') (space : c ≠ ' ')
    (other : isColumnChar c = false) : c ∉ column.line := by
  intro member
  simp only [line, List.mem_cons, marker, space, false_or] at member
  rcases column.content_chars c member with rfl | given
  · contradiction
  · rw [other] at given
    contradiction

theorem head_solid : ∀ c, column.content.head? = some c → isBlank c = false := by
  obtain ⟨first, rest, spelled, -⟩ := column.named
  have given := column.name_chars first (by rw [spelled]; exact List.mem_cons_self)
  rw [content, spelled]
  rintro _ ⟨rfl⟩
  exact (isColumnChar_facts given).1

theorem classify_line : Line.classify column.line = .comment := by
  have blank : Line.isBlankLine column.line = false := rfl
  have header : Line.isSchemaHeader column.line = false := by
    have schema : ¬ "Schema".toList <:+: column.line := fun found =>
      column.not_mem_line (by decide) (by decide) (by decide) (found.mem (a := 'S') (by simp))
    have table : ¬ "Table".toList <:+: column.line := fun found =>
      column.not_mem_line (by decide) (by decide) (by decide) (found.mem (a := 'T') (by simp))
    rw [Line.isSchemaHeader, Bool.eq_false_iff.mpr (mt occursIn_iff.mp schema),
      Bool.eq_false_iff.mpr (mt occursIn_iff.mp table)]
    rfl
  have marked : Line.afterMarker? column.line = some (' ' :: column.content) := rfl
  have bare : Line.isBareMarker column.line = false := by
    obtain ⟨first, rest, spelled, -⟩ := column.named
    have solid := column.head_solid first (by rw [content, spelled]; rfl)
    simp only [Line.isBareMarker, marked, Line.isBlankLine, content, spelled, List.cons_append,
      List.all_cons, solid, Bool.false_and, Bool.and_false]
  have directive : Line.isDirective column.line = false := by
    simp only [Line.isDirective, marked, column.hasDirective_eq_false]
  simp only [Line.classify, Line.skipReason?, blank, header, bare, directive, Line.isComment, marked,
    Option.isSome_some, Bool.false_eq_true, if_false, if_true]

theorem attributeTokens?_line :
    Line.attributeTokens? column.line = some (column.name, column.token) := by
  obtain ⟨filled, chars⟩ := token_chars _ column.known
  have named : ∀ c ∈ column.name.toList, isBlank c = false := fun c member =>
    (isColumnChar_facts (column.name_chars c member)).1
  have typed : ∀ c ∈ column.token.toList, isBlank c = false := fun c member =>
    (isColumnChar_facts (chars c member)).1
  have gap : ∀ c ∈ List.replicate column.gap ' ', isBlank c = true := by
    intro c member
    rw [List.eq_of_mem_replicate member]
    rfl
  have stop : ∀ c, (List.replicate column.gap ' ' ++ column.token.toList).head? = some c →
      isBlank c = true := by
    obtain ⟨count, positive⟩ := Nat.exists_eq_add_one.mpr column.spaced
    rw [positive]
    rintro _ ⟨rfl⟩
    rfl
  have stripped : Line.stripMarker column.line = column.content := by
    have marked : Line.afterMarker? column.line = some ([' '] ++ column.content) := rfl
    rw [Line.stripMarker, marked]
    exact trimStart_run (List.forall_mem_singleton.mpr rfl) column.head_solid
  have start := trimStart_of_head column.head_solid
  have first : word column.content = column.name.toList := word_append named stop
  have next : trimStart (afterWord column.content) = column.token.toList := by
    rw [content, afterWord_append named stop, trimStart_blanks gap, trimStart_of_head]
    intro c found
    exact typed c (List.mem_of_mem_head? found)
  have second : word (column.token.toList ++ []) = column.token.toList :=
    word_append typed (by simp)
  rw [List.append_nil] at second
  have some : column.content ≠ [] := List.append_ne_nil_of_left_ne_nil column.name_ne_nil _
  rw [Line.attributeTokens?, stripped, firstTwoWords, start, next, first, second]
  simp [some, filled]

end Column

namespace Header

variable (header : Header)

theorem occursIn_pieces {pattern : List Char} (spaceless : ' ' ∉ pattern)
    (first second third fourth : List Char) :
    occursIn pattern (first ++ ' ' :: (second ++ ' ' :: (third ++ ' ' :: fourth))) =
      (occursIn pattern first ||
        (occursIn pattern second || (occursIn pattern third || occursIn pattern fourth))) := by
  rw [occursIn_append_cons spaceless, occursIn_append_cons spaceless,
    occursIn_append_cons spaceless]

/-- A word without spaces that is not in the name is nowhere in the line. -/
theorem occursIn_line {pattern : List Char} (spaceless : ' ' ∉ pattern)
    (absent : ¬ pattern <:+: header.model.toList)
    (others : ∀ piece ∈ ["class", "<", "ApplicationRecord", "ActiveRecord::Base"],
      occursIn pattern piece.toList = false) : occursIn pattern header.line = false := by
  have base : occursIn pattern header.base.toList = false := by
    rcases header.known with same | same <;> rw [same] <;> exact others _ (by simp)
  have name := Bool.eq_false_iff.mpr (mt occursIn_iff.mp absent)
  refine (occursIn_pieces spaceless _ _ _ _).trans ?_
  simp only [Bool.or_eq_false_iff]
  exact ⟨others "class" (by simp), name, others "<" (by simp), base⟩

theorem isSchemaHeader_line : Line.isSchemaHeader header.line = false := by
  rw [Line.isSchemaHeader, header.occursIn_line (by decide) header.no_schema (by decide),
    header.occursIn_line (by decide) header.no_table (by decide)]
  rfl

theorem line_starts : ∃ tail, header.line = 'c' :: tail := ⟨_, rfl⟩

theorem classify_line : Line.classify header.line = .code := by
  obtain ⟨tail, start⟩ := header.line_starts
  have blank : Line.isBlankLine header.line = false := by
    rw [start]
    rfl
  have unmarked : Line.afterMarker? header.line = none := by
    rw [start]
    rfl
  simp only [Line.classify, Line.skipReason?, blank, header.isSchemaHeader_line, Line.isBareMarker,
    Line.isDirective, Line.isComment, unmarked, Option.isSome_none, Bool.false_eq_true, if_false]

/-- The name of a class is read up to the space behind it. -/
theorem className?_model (rest : List Char) :
    Line.className? (trimStart (' ' :: (header.model.toList ++ ' ' :: rest))) =
      some (header.model.toList, ' ' :: rest) := by
  obtain ⟨first, second, others, spelled, upper, chars⟩ := header.named
  have solid : isBlank first = false := isBlank_of_isUpper upper
  have trimmed : trimStart ([' '] ++ (header.model.toList ++ ' ' :: rest)) =
      header.model.toList ++ ' ' :: rest := by
    refine trimStart_run (List.forall_mem_singleton.mpr rfl) ?_
    rw [spelled]
    rintro _ ⟨rfl⟩
    exact solid
  have stop : ∀ c, (' ' :: rest).head? = some c → Line.isNameChar c = false := by
    rintro _ ⟨rfl⟩
    rfl
  refine (congrArg Line.className? trimmed).trans ?_
  rw [spelled, List.cons_append, Line.className?, takeWhile_run chars stop, dropWhile_run chars stop]
  simp [upper]

theorem headerAt?_line : Line.headerAt? header.line = some header.model.toList := by
  have keyword : afterPrefix? "class".toList header.line = some _ :=
    afterPrefix?_eq_some_iff.mpr rfl
  have sign : afterPrefix? ['<'] (trimStart (' ' :: ("<".toList ++ ' ' :: header.base.toList))) =
      some _ := afterPrefix?_eq_some_iff.mpr rfl
  have base : Line.startsBase (trimStart (' ' :: header.base.toList)) = true := by
    rcases header.known with same | same <;> rw [same] <;> decide +kernel
  simp only [Line.headerAt?, bind, keyword, Option.bind_some, header.className?_model, sign, base,
    if_true]

theorem modelName?_line : Line.modelName? header.line = some header.model := by
  obtain ⟨tail, start⟩ := header.line_starts
  have found := header.headerAt?_line
  have unmarked : Line.stripMarker header.line = header.line := by
    rw [start]
    rfl
  rw [Line.modelName?, unmarked]
  rw [start] at found ⊢
  rw [Line.firstHeader?, found]
  simp

theorem model_chars : ∀ c ∈ header.model.toList, Line.isNameChar c = true := by
  obtain ⟨first, second, rest, spelled, upper, chars⟩ := header.named
  rw [spelled]
  intro c member
  rcases List.mem_cons.mp member with rfl | later
  · have alphanumeric : ((c.isUpper || c.isLower) || c.isDigit) = true := by rw [upper]; rfl
    exact Bool.or_eq_true_iff.mpr (.inl alphanumeric)
  · exact chars c later

/-- Nothing in a header breaks the line. -/
theorem not_mem_line {c : Char} (breaks : c ∈ ['\n', '\r']) : c ∉ header.line := by
  have either : c = '\n' ∨ c = '\r' := by simpa using breaks
  have model : c ∉ header.model.toList := by
    intro member
    have given := header.model_chars c member
    rcases either with rfl | rfl <;> contradiction
  obtain ⟨space, others⟩ : c ≠ ' ' ∧
      ∀ piece ∈ ["class", "<", "ApplicationRecord", "ActiveRecord::Base"], c ∉ piece.toList := by
    rcases either with rfl | rfl <;> decide
  have base : c ∉ header.base.toList := by
    rcases header.known with same | same <;> rw [same] <;> exact others _ (by simp)
  have spread (p q r s : List Char) : c ∈ p ++ ' ' :: (q ++ ' ' :: (r ++ ' ' :: s)) →
      c ∈ p ∨ c ∈ q ∨ c ∈ r ∨ c ∈ s := by simp [space]
  intro member
  rcases spread _ _ _ _ member with keyword | named | sign | last
  · exact others "class" (by simp) keyword
  · exact model named
  · exact others "<" (by simp) sign
  · exact base last

end Header

section Reading

variable (sourceId : String) (header : Header)

def Column.note (column : Column) (number : Nat) : Note :=
  ⟨column.name, column.token, ⟨sourceId, number, 0, number, column.line.length⟩⟩

def Column.attribute (column : Column) (number : Nat) : Attribute :=
  ⟨column.name, column.type, ⟨sourceId, number, 0, number, column.line.length⟩⟩

theorem resolve?_token (column : Column) :
    TypeTable.rails.resolve? column.token = some column.type := by
  have all : ∀ entry ∈ TypeTable.rails.entries,
      TypeTable.rails.resolve? entry.1 = some entry.2 := by decide
  exact all _ column.known

theorem lineNote?_column (column : Column) (number : Nat) :
    Block.lineNote? .rails sourceId number column.line = some (column.note sourceId number) := by
  have known : TypeTable.rails.contains column.token = true := by
    rw [TypeTable.contains, resolve?_token]
    rfl
  simp only [Block.lineNote?, column.classify_line, if_true, note?, column.attributeTokens?_line,
    bind, Option.bind_some, known]
  rfl

theorem run_columns (columns : List Column) (rest : List (List Char)) (number : Nat)
    (notes : List Note) :
    (Scan.run .rails sourceId number (columns.map Column.line ++ header.line :: rest)
      ⟨notes, .reading⟩).1 =
        ⟨notes ++ (columns.zipIdx number).map (fun (column, i) => column.note sourceId i),
          .model header.model⟩ := by
  induction columns generalizing number notes with
  | nil =>
    rw [List.map_nil, List.nil_append, Scan.run_cons_code header.classify_line, Block.codeState,
      header.modelName?_line, List.zipIdx_nil, List.map_nil, List.append_nil]
  | cons column others ih =>
    have other : Line.classify column.line ≠ .code := by
      rw [column.classify_line]
      decide
    rw [List.map_cons, List.cons_append, Scan.run_cons_other other, Prod.map_fst, id,
      lineNote?_column, ih, Option.toList_some, List.append_assoc, List.zipIdx_cons,
      List.map_cons, List.singleton_append]

theorem lines_text (columns : List Column) (following : String) :
    Text.lines (text columns header following).toList =
      columns.map Column.line ++ header.line :: Text.lines following.toList := by
  have uncarried {line : List Char} (absent : '\r' ∉ line) : line.getLast? ≠ some '\r' :=
    fun last => absent (List.mem_of_getLast? last)
  rw [text, String.toList_ofList]
  induction columns with
  | nil =>
    rw [List.flatMap_nil, List.nil_append]
    exact lines_append_newline (header.not_mem_line (by decide))
      (uncarried (header.not_mem_line (by decide))) _
  | cons column others ih =>
    have unbroken : '\n' ∉ column.line := column.not_mem_line (by decide) (by decide) (by decide)
    have carried : '\r' ∉ column.line := column.not_mem_line (by decide) (by decide) (by decide)
    simp only [List.flatMap_cons, List.append_assoc, List.cons_append, List.nil_append] at ih ⊢
    rw [lines_append_newline unbroken (uncarried carried), ih, List.map_cons,
      List.cons_append]

theorem note_resolve? (column : Column) (number : Nat) :
    (column.note sourceId number).resolve? .rails = some (column.attribute sourceId number) := by
  rw [Note.resolve?, Column.note, resolve?_token]
  rfl

/-- A block is read back as it was written: one declaration, of the model that the header
names, with one attribute for each column, in order and each on its own line. -/
theorem ofText_conventional (columns : List Column) (following : String) :
    (Block.ofText .rails sourceId (text columns header following)).declaration? =
      some ⟨header.model, columns.zipIdx.map fun (column, i) => column.attribute sourceId i⟩ := by
  have scanned := run_columns sourceId header columns (Text.lines following.toList) 0 []
  rw [← lines_text, ← Scan.start] at scanned
  simp only [Block.ofText, scanned, Scan.declaration?, List.nil_append, List.filterMap_map,
    Function.comp_def, note_resolve?, List.filterMap_eq_map']

end Reading

/-- Columns called like the beginnings of directives, and a model almost called a table. -/
theorem ofText_conventional_tabular :
    (Block.ofText .rails "tab.rb"
      "# encoding string\n# frozen  boolean\nclass Tabular < ActiveRecord::Base\nend\n").declaration? =
      some ⟨"Tabular", [⟨"encoding", .string, ⟨"tab.rb", 0, 0, 0, 17⟩⟩,
        ⟨"frozen", .bool, ⟨"tab.rb", 1, 0, 1, 17⟩⟩]⟩ := by
  let encoding : Column := ⟨"encoding", 1, "string", .string,
    ⟨'e', "ncoding".toList, by decide, by decide,
      List.all_eq_true.mp (by decide)⟩, by decide, by decide, by decide⟩
  let frozen : Column := ⟨"frozen", 2, "boolean", .bool,
    ⟨'f', "rozen".toList, by decide, by decide,
      List.all_eq_true.mp (by decide)⟩, by decide, by decide, by decide⟩
  let tabular : Header := ⟨"Tabular", "ActiveRecord::Base",
    ⟨'T', 'a', "bular".toList, by decide, by decide,
      List.all_eq_true.mp (by decide)⟩, by decide, by decide, .inr rfl⟩
  have read := ofText_conventional "tab.rb" tabular [encoding, frozen] "end\n"
  have written : text [encoding, frozen] tabular "end\n" =
      "# encoding string\n# frozen  boolean\nclass Tabular < ActiveRecord::Base\nend\n" := by
    decide +kernel
  rw [written] at read
  exact read.trans (by decide +kernel)

end Convention
end AttributePins

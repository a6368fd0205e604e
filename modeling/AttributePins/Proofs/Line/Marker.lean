import AttributePins.Proofs.Line.Directive
import AttributePins.Proofs.Line.Margins
import AttributePins.Proofs.Text.Splitting

/-! Comment markers as a grammar. A comment is white space, the marker, a gap of white space and
a body, and since the body starts with no white space a line has at most one such reading. The
rules for comments, for markers that stand alone and for the words behind a marker are written
apart, and all of them are about the parts of this one reading. -/
namespace AttributePins.Line

open Text

/-- A comment in its parts: the margin in front of its marker, the gap behind the marker, and
the body, which may be empty. -/
structure Marked (line margin gap body : List Char) : Prop where
  split : line = margin ++ '#' :: (gap ++ body)
  margin_blank : ∀ c ∈ margin, isBlank c = true
  gap_blank : ∀ c ∈ gap, isBlank c = true
  body_solid : ∀ c, body.head? = some c → isBlank c = false

section Parts

variable {line margin gap body : List Char}

theorem Marked.afterMarker? (marked : Marked line margin gap body) :
    afterMarker? line = some (gap ++ body) :=
  afterMarker?_eq_some_iff.mpr ⟨margin, marked.split, marked.margin_blank⟩

theorem Marked.unique {margin' gap' body' : List Char} (first : Marked line margin gap body)
    (second : Marked line margin' gap' body') : margin = margin' ∧ gap = gap' ∧ body = body' := by
  have stop (rest : List Char) : ∀ c, ('#' :: rest).head? = some c → isBlank c = false := by
    rintro _ ⟨rfl⟩
    rfl
  obtain ⟨margins, behind⟩ := run_unique (first.split.symm.trans second.split) first.margin_blank
    (stop _) second.margin_blank (stop _)
  obtain ⟨gaps, bodies⟩ := run_unique (List.cons.inj behind).2 first.gap_blank first.body_solid
    second.gap_blank second.body_solid
  exact ⟨margins, gaps, bodies⟩

theorem isComment_iff : isComment line = true ↔ ∃ margin gap body, Marked line margin gap body := by
  rw [isComment, Option.isSome_iff_exists]
  constructor
  · rintro ⟨rest, found⟩
    obtain ⟨margin, split, blank⟩ := afterMarker?_eq_some_iff.mp found
    obtain ⟨gap, blank', split'⟩ := exists_trimStart rest
    exact ⟨margin, gap, trimStart rest, split' ▸ split, blank, blank', fun _ => head_trimStart⟩
  · rintro ⟨margin, gap, body, marked⟩
    exact ⟨gap ++ body, marked.afterMarker?⟩

theorem Marked.stripMarker (marked : Marked line margin gap body) : stripMarker line = body := by
  rw [Line.stripMarker, marked.afterMarker?]
  exact trimStart_run marked.gap_blank marked.body_solid

theorem stripMarker_of_uncommented (uncommented : isComment line = false) :
    Line.stripMarker line = line := by
  rw [isComment, Option.isSome_eq_false_iff, Option.isNone_iff_eq_none] at uncommented
  rw [Line.stripMarker, uncommented]

/-- A marker stands alone if there is no body behind it. -/
theorem Marked.isBareMarker_iff (marked : Marked line margin gap body) :
    isBareMarker line = true ↔ body = [] := by
  rw [isBareMarker, marked.afterMarker?]
  simp only [isBlankLine, List.all_append, List.all_eq_true.mpr marked.gap_blank, Bool.true_and]
  cases body with
  | nil => simp
  | cons c rest => simp [marked.body_solid c rfl]

theorem isComment_of_isBareMarker (bare : isBareMarker line = true) : isComment line = true := by
  rw [isBareMarker_eq] at bare
  rw [isComment]
  cases found : AttributePins.Line.afterMarker? line with
  | none => simp [found] at bare
  | some rest => rfl

theorem isBareMarker_iff : isBareMarker line = true ↔ ∃ margin gap, Marked line margin gap [] := by
  constructor
  · intro bare
    obtain ⟨margin, gap, body, marked⟩ := isComment_iff.mp (isComment_of_isBareMarker bare)
    obtain rfl := marked.isBareMarker_iff.mp bare
    exact ⟨margin, gap, marked⟩
  · rintro ⟨margin, gap, marked⟩
    exact marked.isBareMarker_iff.mpr rfl

/-- The rule for markers that stand alone agrees with trimming. -/
theorem isBareMarker_iff_trim : isBareMarker line = true ↔ trim line = ['#'] := by
  constructor
  · intro bare
    obtain ⟨margin, gap, split, margin_blank, gap_blank, -⟩ := isBareMarker_iff.mp bare
    have reversed_blank : ∀ c ∈ gap.reverse, isBlank c = true := fun c member =>
      gap_blank c (List.mem_reverse.mp member)
    have front : trimStart line = '#' :: gap := by
      rw [split, List.append_nil]
      exact trimStart_run margin_blank (by rintro _ ⟨rfl⟩; rfl)
    rw [trim, front, List.reverse_cons, trimStart_blanks reversed_blank]
    rfl
  · intro trimmed
    rw [← ignoresMargins_isBareMarker.trim, trimmed]
    rfl

theorem attributeTokens?_eq_some_iff {name token : String} :
    attributeTokens? line = some (name, token) ↔
      Opens (Line.stripMarker line) name.toList token.toList := by
  rw [← firstTwoWords_eq_some_iff, attributeTokens?, Option.map_eq_some_iff]
  constructor
  · rintro ⟨⟨first, second⟩, read, same⟩
    obtain ⟨rfl, rfl⟩ := Prod.mk.inj same
    rwa [String.toList_ofList, String.toList_ofList]
  · intro read
    exact ⟨_, read, by simp only [String.ofList_toList]⟩

theorem attributeTokens?_eq_none_iff :
    attributeTokens? line = none ↔ (words (Line.stripMarker line)).length < 2 := by
  rw [← firstTwoWords_eq_none_iff, attributeTokens?, Option.map_eq_none_iff]

theorem skipReason?_of_isBareMarker (bare : isBareMarker line = true) :
    skipReason? line ≠ none := by
  unfold skipReason?
  rw [if_pos bare]
  split
  · exact Option.some_ne_none _
  · split <;> exact Option.some_ne_none _

theorem isComment_of_classify (kind : classify line = .comment) :
    isComment line = true ∧ isBareMarker line = false := by
  unfold classify at kind
  split at kind
  · contradiction
  · rename_i unskipped
    split at kind
    · rename_i comment
      refine ⟨comment, Bool.eq_false_iff.mpr fun bare => ?_⟩
      exact skipReason?_of_isBareMarker bare unskipped
    · contradiction

/-- A line that is read as a comment has a word behind its marker. -/
theorem words_ne_nil_of_classify (kind : classify line = .comment) :
    words (Line.stripMarker line) ≠ [] := by
  obtain ⟨comment, unbare⟩ := isComment_of_classify kind
  obtain ⟨margin, gap, body, marked⟩ := isComment_iff.mp comment
  have filled : body ≠ [] := fun void =>
    Bool.false_ne_true (unbare.symm.trans (marked.isBareMarker_iff.mpr void))
  have start : trimStart body = body := trimStart_of_head marked.body_solid
  rw [← start] at filled
  rw [marked.stripMarker, words_eq_cons filled]
  exact List.cons_ne_nil _ _

end Parts

/-- What the rules for comments say of one line, in the terms of one grammar. -/
structure CommentGrammar (line : List Char) : Prop where
  comment : isComment line = true ↔ ∃ margin gap body, Marked line margin gap body
  unique : ∀ margin gap body margin' gap' body', Marked line margin gap body →
    Marked line margin' gap' body' → margin = margin' ∧ gap = gap' ∧ body = body'
  stripped : ∀ margin gap body, Marked line margin gap body → stripMarker line = body
  unmarked : isComment line = false → stripMarker line = line
  bare : isBareMarker line = true ↔ ∃ margin gap, Marked line margin gap []
  bare_trim : isBareMarker line = true ↔ trim line = ['#']
  tokens : ∀ name token, attributeTokens? line = some (name, token) ↔
    Opens (stripMarker line) name.toList token.toList
  tokens_unique : ∀ name token name' token', Opens (stripMarker line) name token →
    Opens (stripMarker line) name' token' → name = name' ∧ token = token'
  /-- A comment that is not skipped has a word. -/
  filled : classify line = .comment → words (stripMarker line) ≠ []
  /-- Such a comment has no tokens exactly if it has only one word. -/
  lone : classify line = .comment →
    (attributeTokens? line = none ↔ (words (stripMarker line)).length = 1)

theorem commentGrammar (line : List Char) : CommentGrammar line where
  comment := isComment_iff
  unique _ _ _ _ _ _ first second := first.unique second
  stripped _ _ _ marked := marked.stripMarker
  unmarked := stripMarker_of_uncommented
  bare := isBareMarker_iff
  bare_trim := isBareMarker_iff_trim
  tokens _ _ := attributeTokens?_eq_some_iff
  tokens_unique name token name' token' first second := by
    have read := firstTwoWords_eq_some_iff.mpr first
    rw [firstTwoWords_eq_some_iff.mpr second] at read
    obtain ⟨names, tokens⟩ := Prod.mk.inj (Option.some.inj read)
    exact ⟨names.symm, tokens.symm⟩
  filled := words_ne_nil_of_classify
  lone kind := by
    have filled := List.length_pos_iff.mpr (words_ne_nil_of_classify kind)
    rw [attributeTokens?_eq_none_iff]
    omega

/-- White space beyond ASCII around a marker, and a marker that is the body of another. -/
example : attributeTokens? "\u3000#\u00a0id\u2003integer #".toList = some ("id", "integer") ∧
    stripMarker "## id".toList = "# id".toList := by decide +kernel

end AttributePins.Line

import AttributePins.Proofs.Block.Naming
import AttributePins.Proofs.Line.Marker

/-! Class headers behind a comment marker. The rule for model names passes over a leading marker,
but it is asked about lines of code only, and a marker keeps a line from being code. So a header
that is commented out names nothing, and the lines below it are read on. Taking its marker off
makes it the line that names the model. -/
namespace AttributePins.Block

section Lines

variable {line : List Char}

theorem classify_eq_comment (comment : Line.isComment line = true)
    (unskipped : Line.skipReason? line = none) : Line.classify line = .comment := by
  simp only [Line.classify, unskipped, comment, if_true]

theorem isSchemaHeader_of_suffix {rest : List Char} (suffix : rest <:+ line)
    (plain : Line.isSchemaHeader line = false) : Line.isSchemaHeader rest = false := by
  have missing {word : List Char} (none : Text.occursIn word line = false) : ¬ word <:+: rest :=
    fun inside => Bool.eq_false_iff.mp none (Text.occursIn_iff.mpr (inside.trans suffix.isInfix))
  obtain ⟨no_schema, no_table⟩ := Bool.or_eq_false_iff.mp plain
  exact isSchemaHeader_eq_false (missing no_schema) (missing no_table)

theorem isSchemaHeader_of_unskipped (unskipped : Line.skipReason? line = none) :
    Line.isSchemaHeader line = false := by
  rw [Line.skipReason?] at unskipped
  split at unskipped
  · contradiction
  · split at unskipped
    · contradiction
    · rename_i plain
      exact Bool.eq_false_iff.mpr plain

/-- What stands behind the marker of a comment is a line of code, unless it has a marker too. -/
theorem classify_stripMarker (comment : Line.isComment line = true)
    (unskipped : Line.skipReason? line = none)
    (uncommented : Line.isComment (Line.stripMarker line) = false) :
    Line.classify (Line.stripMarker line) = .code := by
  obtain ⟨margin, gap, body, marked⟩ := Line.isComment_iff.mp comment
  rw [marked.stripMarker] at uncommented ⊢
  have filled : Line.isBlankLine body = false := by
    have unbare := (Line.isComment_of_classify (classify_eq_comment comment unskipped)).2
    cases body with
    | nil => exact absurd (marked.isBareMarker_iff.mpr rfl) (Bool.eq_false_iff.mp unbare)
    | cons c rest => simp [Line.isBlankLine, marked.body_solid c rfl]
  have suffix : body <:+ line := by
    rw [marked.split]
    exact (List.suffix_append gap body).trans
      ((List.suffix_cons '#' _).trans (List.suffix_append margin _))
  rw [classify_of_body filled uncommented,
    isSchemaHeader_of_suffix suffix (isSchemaHeader_of_unskipped unskipped)]
  rfl

theorem modelName?_stripMarker (uncommented : Line.isComment (Line.stripMarker line) = false) :
    Line.modelName? (Line.stripMarker line) = Line.modelName? line := by
  rw [Line.modelName?, Line.stripMarker_of_uncommented uncommented, Line.modelName?]

end Lines

/-- The attributes of the lines in front of one. -/
def attributesAbove (table : TypeTable) (sourceId : String) (lines : List (List Char)) (n : Nat) :
    List Attribute :=
  (List.range n).filterMap fun i => lines[i]?.bind (lineAttribute? table sourceId i)

theorem declaration?_eq_attributesAbove (table : TypeTable) (sourceId text : String) :
    (ofText table sourceId text).declaration? =
      ((Text.lines text.toList)[codeStart (Text.lines text.toList)]?.bind Line.modelName?).map
        fun model => ⟨model, attributesAbove table sourceId (Text.lines text.toList)
          (codeStart (Text.lines text.toList))⟩ := by
  have declared := Scan.start_run_declaration? table sourceId (Text.lines text.toList)
  rwa [Scan.start_run_resolved] at declared

section Headers

variable {lines : List (List Char)} {n : Nat} {line : List Char}

theorem lt_codeStart (found : lines[n]? = some line) (kind : Line.classify line = .comment)
    (above : ∀ i < n, ∀ other, lines[i]? = some other → Line.classify other ≠ .code) :
    n < codeStart lines := by
  obtain ⟨bound, -⟩ := List.getElem?_eq_some_iff.mp found
  by_contra early
  have start : codeStart lines ≤ n := Nat.le_of_not_lt early
  obtain ⟨first, reached⟩ : ∃ first, lines[codeStart lines]? = some first :=
    ⟨_, List.getElem?_eq_getElem (Nat.lt_of_le_of_lt start bound)⟩
  have code := classify_codeStart reached
  rcases Nat.lt_or_eq_of_le start with before | same
  · exact above _ before first reached code
  · rw [same, found] at reached
    rw [← Option.some.inj reached, kind] at code
    cases code

theorem codeStart_set (found : lines[n]? = some line)
    (above : ∀ i < n, ∀ other, lines[i]? = some other → Line.classify other ≠ .code)
    {header : List Char} (code : Line.classify header = .code) :
    codeStart (lines.set n header) = n := by
  obtain ⟨bound, -⟩ := List.getElem?_eq_some_iff.mp found
  refine (List.findIdx_eq (by rwa [List.length_set])).mpr ⟨?_, fun i before => ?_⟩
  · rw [List.getElem_set_self, code]
    rfl
  · rw [List.getElem_set_ne before.ne', decide_eq_false_iff_not]
    exact above i before _ (List.getElem?_eq_getElem _)

theorem attributesAbove_set (table : TypeTable) (sourceId : String) (header : List Char) :
    attributesAbove table sourceId (lines.set n header) n =
      attributesAbove table sourceId lines n := by
  refine List.filterMap_congr fun i member => ?_
  rw [List.getElem?_set_ne (List.mem_range.mp member).ne']

theorem forall_lt_one {rule : List Char → Prop} (first : lines[0]? = some line) (holds : rule line) :
    ∀ i < 1, ∀ other, lines[i]? = some other → rule other := by
  intro i bound other found
  obtain rfl : i = 0 := by omega
  exact Option.some.inj (first.symm.trans found) ▸ holds

end Headers

/-- A class header that is commented out is passed over: what the text declares, if anything, is
named by the first line of code below it, and gets the attributes below it as well. With the marker
of the header taken off, the text declares the model of the header, with the attributes above it. -/
theorem declaration?_of_commented (table : TypeTable) (sourceId text : String) (n : Nat)
    (line : List Char) (model : String) (found : (Text.lines text.toList)[n]? = some line)
    (above : ∀ i < n, ∀ other, (Text.lines text.toList)[i]? = some other →
      Line.classify other ≠ .code)
    (comment : Line.isComment line = true) (unskipped : Line.skipReason? line = none)
    (named : Line.modelName? line = some model) :
    let lines := Text.lines text.toList
    let k := codeStart lines
    (n < k ∧ (ofText table sourceId text).declaration? =
      (lines[k]?.bind Line.modelName?).map fun other =>
        ⟨other, attributesAbove table sourceId lines k⟩) ∧
    ∀ bare : String, Text.lines bare.toList = lines.set n (Line.stripMarker line) →
      Line.isComment (Line.stripMarker line) = false →
      (ofText table sourceId bare).declaration? =
        some ⟨model, attributesAbove table sourceId lines n⟩ := by
  intro lines k
  have whole := declaration?_eq_attributesAbove table sourceId text
  refine ⟨⟨?_, whole⟩, fun bare changed uncommented => ?_⟩
  · exact lt_codeStart found (classify_eq_comment comment unskipped) above
  · have code := classify_stripMarker comment unskipped uncommented
    have start : codeStart (Text.lines bare.toList) = n := by
      rw [changed]
      exact codeStart_set found above code
    obtain ⟨bound, -⟩ := List.getElem?_eq_some_iff.mp found
    rw [declaration?_eq_attributesAbove, start, changed, attributesAbove_set,
      List.getElem?_set_self bound, Option.bind_some, modelName?_stripMarker uncommented, named,
      Option.map_some]

/-- A header that is commented out above another, and the same with its marker taken off. -/
theorem declaration?_of_commented_legacy :
    let text := "# id integer\n# class Legacy < ApplicationRecord\nclass Other < ApplicationRecord\n"
    let bare := "# id integer\nclass Legacy < ApplicationRecord\nclass Other < ApplicationRecord\n"
    let column : Attribute := ⟨"id", .int, ⟨"legacy.rb", 0, 0, 0, 12⟩⟩
    (ofText .rails "legacy.rb" text).declaration? = some ⟨"Other", [column]⟩ ∧
      (ofText .rails "legacy.rb" bare).declaration? = some ⟨"Legacy", [column]⟩ := by
  intro text bare column
  have first : (Text.lines text.toList)[0]? = some "# id integer".toList := by decide +kernel
  have above : ∀ i < 1, ∀ other, (Text.lines text.toList)[i]? = some other →
      Line.classify other ≠ .code := forall_lt_one first (by decide +kernel)
  obtain ⟨⟨-, passed⟩, uncovered⟩ := declaration?_of_commented .rails "legacy.rb" text 1
    "# class Legacy < ApplicationRecord".toList "Legacy" (by decide +kernel) above
    (by decide +kernel) (by decide +kernel) (by decide +kernel)
  exact ⟨passed.trans (by decide +kernel),
    (uncovered bare (by decide +kernel) (by decide +kernel)).trans (by decide +kernel)⟩

/-- A block that is commented out as a whole declares nothing, though its header names a model. -/
theorem commented_header_does_not_name_model :
    ¬ ∀ (sourceId text : String) (n : Nat) (line : List Char) (model : String),
      (Text.lines text.toList)[n]? = some line → Line.isComment line = true →
      Line.modelName? line = some model → Line.skipReason? line = none →
      (∀ i < n, ∀ other, (Text.lines text.toList)[i]? = some other →
        Line.skipReason? other ≠ none ∨
          Line.isComment other = true ∧ Line.modelName? other = none) →
      (ofText .rails sourceId text).declaration? =
        some ⟨model, attributesAbove .rails sourceId (Text.lines text.toList) n⟩ := by
  intro resolves
  have first : (Text.lines "# id integer\n# class Legacy < ApplicationRecord\n".toList)[0]? =
      some "# id integer".toList := by decide +kernel
  have declared := resolves "legacy.rb" "# id integer\n# class Legacy < ApplicationRecord\n" 1
    "# class Legacy < ApplicationRecord".toList "Legacy" (by decide +kernel) (by decide +kernel)
    (by decide +kernel) (by decide +kernel) (forall_lt_one first (.inr (by decide +kernel)))
  have nothing : (ofText .rails "legacy.rb"
      "# id integer\n# class Legacy < ApplicationRecord\n").declaration? = none := by
    decide +kernel
  rw [nothing] at declared
  cases declared

end AttributePins.Block

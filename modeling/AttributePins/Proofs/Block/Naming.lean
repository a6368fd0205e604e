import AttributePins.Proofs.Block.Reading
import AttributePins.Proofs.Text.Words

/-! Which line names the model of a block. It is the first one that is neither blank nor a
comment, unless that line mentions a schema or a table: the rule for headers of blocks is
tried on every line, and passes over a class whose own name holds one of the two words. -/
namespace AttributePins.Block

/-- The number of the first line that is neither blank nor a comment. -/
def bodyStart (lines : List (List Char)) : Nat :=
  lines.findIdx fun line => !Line.isBlankLine line && !Line.isComment line

section Lines

variable {line : List Char}

/-- Of the rules for lines to skip, only the one for headers can fire on such a line. -/
theorem classify_of_body (filled : Line.isBlankLine line = false)
    (uncommented : Line.isComment line = false) :
    Line.classify line =
      if Line.isSchemaHeader line then .skip .schemaHeader else .code := by
  have unmarked : Line.afterMarker? line = none := by simpa [Line.isComment] using uncommented
  have bare : Line.isBareMarker line = false := by rw [Line.isBareMarker, unmarked]
  have directive : Line.isDirective line = false := by rw [Line.isDirective, unmarked]
  simp only [Line.classify, Line.skipReason?, filled, bare, directive, uncommented]
  cases Line.isSchemaHeader line <;> rfl

theorem classify_ne_code_of_margin
    (margin : (!Line.isBlankLine line && !Line.isComment line) = false) :
    Line.classify line ≠ .code := by
  rw [Ne, classify_eq_code_iff]
  rintro ⟨unskipped, uncommented⟩
  have blank : Line.isBlankLine line = true := by simpa [uncommented] using margin
  simp [Line.skipReason?, blank] at unskipped

theorem isSchemaHeader_eq_false (no_schema : ¬ "Schema".toList <:+: line)
    (no_table : ¬ "Table".toList <:+: line) : Line.isSchemaHeader line = false := by
  rw [Line.isSchemaHeader, Bool.eq_false_iff.mpr (mt Text.occursIn_iff.mp no_schema),
    Bool.eq_false_iff.mpr (mt Text.occursIn_iff.mp no_table)]
  rfl

theorem codeStart_eq_bodyStart {lines : List (List Char)}
    (found : lines[bodyStart lines]? = some line) (plain : Line.isSchemaHeader line = false) :
    codeStart lines = bodyStart lines := by
  obtain ⟨bound, same⟩ := List.getElem?_eq_some_iff.mp found
  have body := List.findIdx_of_getElem?_eq_some found
  simp only [Bool.and_eq_true, Bool.not_eq_true'] at body
  apply (List.findIdx_eq bound).mpr
  constructor
  · rw [same, classify_of_body body.1 body.2, plain]
    rfl
  · intro i before
    have margin := List.not_of_lt_findIdx before
    simpa using classify_ne_code_of_margin (by simpa using margin)

end Lines

/-- The first line that is neither blank nor a comment names the model, and gets every
attribute above it, if it mentions neither a schema nor a table. -/
theorem declaration?_of_bodyStart (table : TypeTable) (sourceId text : String) (line : List Char)
    (model : String)
    (first : (Text.lines text.toList)[bodyStart (Text.lines text.toList)]? = some line)
    (no_schema : ¬ "Schema".toList <:+: line) (no_table : ¬ "Table".toList <:+: line)
    (named : Line.modelName? line = some model) :
    (ofText table sourceId text).declaration? = some ⟨model,
      (List.range (bodyStart (Text.lines text.toList))).filterMap fun i =>
        (Text.lines text.toList)[i]?.bind (lineAttribute? table sourceId i)⟩ := by
  have start := codeStart_eq_bodyStart first (isSchemaHeader_eq_false no_schema no_table)
  have declared := Scan.start_run_declaration? table sourceId (Text.lines text.toList)
  rw [Scan.start_run_resolved, start, first, Option.bind_some, named, Option.map_some] at declared
  exact declared

theorem declaration?_of_bodyStart_account :
    (ofText .rails "account.rb"
      "# Table name: accounts\n\n# id integer\n  class Account < ApplicationRecord\nend\n").declaration? =
      some ⟨"Account", [⟨"id", .int, ⟨"account.rb", 2, 0, 2, 12⟩⟩]⟩ := by
  have declared := declaration?_of_bodyStart .rails "account.rb"
    "# Table name: accounts\n\n# id integer\n  class Account < ApplicationRecord\nend\n"
    "  class Account < ApplicationRecord".toList "Account"
    (by decide +kernel) (by decide) (by decide) (by decide +kernel)
  exact declared.trans (by decide +kernel)

/-- A class that is called after a table does not get the attributes above it. Here they go
to the class inside. -/
theorem bodyStart_does_not_name_model :
    ¬ ∀ (sourceId text : String) (line : List Char) (model : String),
      (Text.lines text.toList)[bodyStart (Text.lines text.toList)]? = some line →
      Line.modelName? line = some model →
      ∃ attributes, (ofText .rails sourceId text).declaration? = some ⟨model, attributes⟩ := by
  intro always
  obtain ⟨attributes, declared⟩ := always "app/models/table_booking.rb"
    "# seats integer\nclass TableBooking < ApplicationRecord\n  class Guest < ApplicationRecord\n"
    "class TableBooking < ApplicationRecord".toList "TableBooking"
    (by decide +kernel) (by decide +kernel)
  have credited : (ofText .rails "app/models/table_booking.rb"
      "# seats integer\nclass TableBooking < ApplicationRecord\n  class Guest < ApplicationRecord\n"
        ).declaration? =
      some ⟨"Guest", [⟨"seats", .int, ⟨"app/models/table_booking.rb", 0, 0, 0, 15⟩⟩]⟩ := by
    decide +kernel
  rw [credited] at declared
  simp at declared

end AttributePins.Block

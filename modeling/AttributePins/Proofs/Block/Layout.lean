import AttributePins.Proofs.Block.Reading
import AttributePins.Proofs.Line.Margins
import AttributePins.Proofs.Text.Lines

/-! What the layout of a text does to what is read from it. Indentation and trailing blanks
move only the ends of locations, the way lines end moves nothing, and what follows the
first line of code is never looked at. -/
namespace AttributePins

/-- An attribute without the column its line ends in. -/
def Attribute.openEnded (column : Attribute) : Attribute :=
  { column with location := { column.location with endCol := 0 } }

def Declaration.openEnded (declared : Declaration) : Declaration :=
  { declared with attributes := declared.attributes.map Attribute.openEnded }

namespace Block

section Margins

variable (table : TypeTable) (sourceId : String)

theorem lineAttribute?_alike {first second : List Char} (alike : Line.Alike first second)
    (number : Nat) :
    (lineAttribute? table sourceId number first).map Attribute.openEnded =
      (lineAttribute? table sourceId number second).map Attribute.openEnded := by
  simp only [lineAttribute?, alike.kind, alike.tokens]
  split
  · cases Line.attributeTokens? second with
    | none => rfl
    | some words =>
      obtain ⟨name, token⟩ := words
      simp only [bind, Option.bind_some]
      cases table.resolve? token <;> rfl
  · rfl

theorem codeStart_trim (lines : List (List Char)) :
    codeStart (lines.map Text.trim) = codeStart lines := by
  simp only [codeStart, List.findIdx_map, Function.comp_def, (Line.alike_trim _).kind]

/-- Trimming all lines leaves the model and the attributes, on the same lines. -/
theorem start_run_trim (lines : List (List Char)) :
    ((Scan.start.run table sourceId 0 (lines.map Text.trim)).1.declaration? table).map
        Declaration.openEnded =
      ((Scan.start.run table sourceId 0 lines).1.declaration? table).map
        Declaration.openEnded := by
  have model (i : Nat) : (lines.map Text.trim)[i]?.bind Line.modelName? =
      lines[i]?.bind Line.modelName? := by
    rw [List.getElem?_map]
    cases lines[i]? with
    | none => rfl
    | some line => exact (Line.alike_trim line).model
  have column (i : Nat) :
      ((lines.map Text.trim)[i]?.bind (lineAttribute? table sourceId i)).map Attribute.openEnded =
        (lines[i]?.bind (lineAttribute? table sourceId i)).map Attribute.openEnded := by
    rw [List.getElem?_map]
    cases lines[i]? with
    | none => rfl
    | some line => exact lineAttribute?_alike table sourceId (Line.alike_trim line) i
  simp only [Scan.start_run_declaration?, Scan.start_run_resolved, codeStart_trim, model,
    Option.map_map, Function.comp_def, Declaration.openEnded, List.map_filterMap, column]

end Margins

end Block

namespace Scan

open Block

/-- A scan that ends within a text does not read on, and does not see whether the line it
ends at is closed. -/
theorem run_continues {before after : List (List Char)} (continues : Text.Continues before after)
    (coded : ∃ line ∈ before, Line.classify line = .code) (table : TypeTable) (sourceId : String)
    (number : Nat) (notes : List Note) :
    (run table sourceId number after ⟨notes, .reading⟩).1 =
      (run table sourceId number before ⟨notes, .reading⟩).1 := by
  induction continues generalizing number notes with
  | last =>
    obtain ⟨line, member, code⟩ := coded
    obtain rfl := List.mem_singleton.mp member
    rw [run_cons_code code, run_cons_code code]
  | @carried line more =>
    obtain ⟨ended, member, code⟩ := coded
    obtain rfl := List.mem_singleton.mp member
    have alike := Line.alike_behind line (c := '\r') rfl
    rw [run_cons_code code, run_cons_code (alike.kind ▸ code), codeState, codeState, alike.model]
  | @next before after line later ih =>
    by_cases code : Line.classify line = .code
    · rw [run_cons_code code, run_cons_code code]
    · have further : ∃ line ∈ before, Line.classify line = .code := by
        obtain ⟨other, member, found⟩ := coded
        rcases List.mem_cons.mp member with rfl | below
        · contradiction
        · exact ⟨other, below, found⟩
      rw [run_cons_other code, run_cons_other code, Prod.map_fst, Prod.map_fst, ih further]

end Scan

namespace Block

/-- Texts whose lines agree but for the white space at their ends declare the same, and
only the end columns may differ. The rules for single lines are why. -/
theorem declaration?_of_trim_eq (table : TypeTable) (sourceId : String) {first second : String}
    (same : (Text.lines first.toList).map Text.trim = (Text.lines second.toList).map Text.trim) :
    (ofText table sourceId first).declaration?.map Declaration.openEnded =
        (ofText table sourceId second).declaration?.map Declaration.openEnded ∧
      ∀ line, Line.Alike (Text.trim line) line := by
  have left := start_run_trim table sourceId (Text.lines first.toList)
  have right := start_run_trim table sourceId (Text.lines second.toList)
  rw [same] at left
  exact ⟨left.symm.trans right, Line.alike_trim⟩

theorem declaration?_of_trim_eq_indented :
    (Text.lines "\t# id  integer \n\u3000class Account < ApplicationRecord\r".toList).map Text.trim =
        (Text.lines "# id  integer\nclass Account < ApplicationRecord\n".toList).map Text.trim ∧
      (ofText .rails "account.rb"
          "\t# id  integer \n\u3000class Account < ApplicationRecord\r").declaration?.map
            Declaration.openEnded =
        some ⟨"Account", [⟨"id", .int, ⟨"account.rb", 0, 0, 0, 0⟩⟩]⟩ := by
  have same : (Text.lines "\t# id  integer \n\u3000class Account < ApplicationRecord\r".toList).map
      Text.trim =
        (Text.lines "# id  integer\nclass Account < ApplicationRecord\n".toList).map Text.trim := by
    decide +kernel
  have alike := (declaration?_of_trim_eq .rails "account.rb" same).1
  exact ⟨same, alike.trans (by decide +kernel)⟩

/-- Nothing that is put behind a text with a line of code changes what it declares, even
where the text's last line is that line and ends in a carriage return. -/
theorem declaration?_append_newline (table : TypeTable) (sourceId text following : String)
    (coded : ∃ line ∈ Text.lines text.toList, Line.classify line = .code) :
    (ofText table sourceId (text ++ "\n" ++ following)).declaration? =
      (ofText table sourceId text).declaration? := by
  have filled : text.toList ≠ [] := by
    intro empty
    rw [empty] at coded
    obtain ⟨line, member, -⟩ := coded
    exact List.not_mem_nil member
  have spelled : (text ++ "\n" ++ following).toList = text.toList ++ '\n' :: following.toList := by
    simp
  have continues := Text.lines_continues filled following.toList
  have scanned := Scan.run_continues continues coded table sourceId 0 []
  simp only [ofText, spelled, Scan.start, scanned]

theorem declaration?_append_newline_returned :
    (ofText .rails "account.rb" ("# id integer\nclass Account < ApplicationRecord\r" ++ "\n" ++
        "# name string\nclass Other < ApplicationRecord\n")).declaration? =
      some ⟨"Account", [⟨"id", .int, ⟨"account.rb", 0, 0, 0, 12⟩⟩]⟩ := by
  have coded : ∃ line ∈ Text.lines "# id integer\nclass Account < ApplicationRecord\r".toList,
      Line.classify line = .code :=
    ⟨"class Account < ApplicationRecord\r".toList, by decide +kernel, by decide +kernel⟩
  exact (declaration?_append_newline .rails "account.rb" _ _ coded).trans (by decide +kernel)

/-- A text whose lines end in pairs is read, and reported on, as with newlines alone. -/
theorem ofText_carried (table : TypeTable) (sourceId text : String)
    (uncarried : '\r' ∉ text.toList) :
    ofText table sourceId (String.ofList (Text.carried text.toList)) =
      ofText table sourceId text := by
  -- A text is read through its lines only.
  have same : Text.lines (String.ofList (Text.carried text.toList)).toList =
      Text.lines text.toList := by
    rw [String.toList_ofList]
    exact Text.lines_carried uncarried
  simp only [ofText, same]

theorem ofText_carried_blank :
    ofText .rails "account.rb" "# id integer\r\n\r\nclass Account < ApplicationRecord\r\nend" =
      ofText .rails "account.rb" "# id integer\n\nclass Account < ApplicationRecord\nend" := by
  have spelled : String.ofList
      (Text.carried "# id integer\n\nclass Account < ApplicationRecord\nend".toList) =
        "# id integer\r\n\r\nclass Account < ApplicationRecord\r\nend" := by
    decide +kernel
  have read := ofText_carried .rails "account.rb"
    "# id integer\n\nclass Account < ApplicationRecord\nend" (by decide +kernel)
  rwa [spelled] at read

end Block
end AttributePins

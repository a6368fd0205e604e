import AttributePins.Proofs.Text.Width
import AttributePins.Report
import Mathlib.Data.List.Forall2
import Mathlib.Order.Bounds.Basic

/-! The table of a declaration lines up. A column is as wide as the widest of its texts, so no text
is too wide for it, and the spaces behind a text add their number to its width whatever the text is.
Spaces also end every sequence of characters, so a cell has the same width within its row. -/
namespace AttributePins.Report

open Text (width_append_gap width_append_spaces)

/-- A cell of a column: the text whole, then only spaces, as wide as the column. -/
structure Cell (text : String) (columns : Nat) (cell : String) : Prop where
  whole : ∃ fill, cell = text ++ String.ofList (List.replicate fill ' ')
  width : Text.width cell = columns

theorem cell_pad {text : String} {columns : Nat} (fits : Text.width text ≤ columns) :
    Cell text columns (pad text columns) where
  whole := ⟨_, rfl⟩
  width := by rw [pad, width_append_spaces, Nat.add_sub_cancel' fits]

example : pad "名前" 6 = "名前  " := rfl

section ColumnWidth

variable {α : Type} (text : α → String) {items : List α}

theorem columnWidth_isGreatest (filled : items ≠ []) :
    IsGreatest {columns | ∃ item ∈ items, Text.width (text item) = columns}
      (columnWidth (items.map text)) := by
  have widest : ((items.map text).map Text.width).max? =
      some (columnWidth (items.map text)) := by
    cases items with
    | nil => contradiction
    | cons item items =>
      rw [columnWidth, List.map_cons, List.map_cons, List.max?_cons', List.foldl_cons,
        Nat.zero_max]
  obtain ⟨attained, bound⟩ := List.max?_eq_some_iff.mp widest
  simp only [List.map_map, List.mem_map, Function.comp_apply] at attained bound
  exact ⟨attained, fun columns member => bound columns member⟩

theorem width_le_columnWidth {item : α} (member : item ∈ items) :
    Text.width (text item) ≤ columnWidth (items.map text) :=
  (columnWidth_isGreatest text (List.ne_nil_of_mem member)).2 ⟨item, member, rfl⟩

end ColumnWidth

/-- The cells of an attribute's row. What stands behind the first of them starts at the same
column in all rows with these widths, and so does what stands behind both. -/
structure Row (nameWidth typeWidth : Nat) (column : Attribute) (nameCell typeCell : String) :
    Prop where
  name : Cell column.name nameWidth nameCell
  type : Cell column.type.name typeWidth typeCell
  typeStart : Text.width ("  " ++ nameCell ++ "  ") = nameWidth + 4
  placeStart : Text.width ("  " ++ nameCell ++ "  " ++ typeCell ++ "  ") = nameWidth + typeWidth + 6

theorem row_of_cells {nameWidth typeWidth : Nat} {column : Attribute} {nameCell typeCell : String}
    (name : Cell column.name nameWidth nameCell) (type : Cell column.type.name typeWidth typeCell) :
    Row nameWidth typeWidth column nameCell typeCell := by
  have void : Text.width "" = 0 := rfl
  have typeStart : Text.width ("" ++ "  " ++ nameCell ++ "  " ++ "") = nameWidth + 4 := by
    rw [width_append_gap, width_append_gap, name.width, void]
    omega
  have placeStart : Text.width ("" ++ "  " ++ nameCell ++ "  " ++ typeCell ++ "  " ++ "") =
      nameWidth + typeWidth + 6 := by
    rw [width_append_gap, width_append_gap, width_append_gap, name.width,
      type.width, void]
    omega
  rw [String.empty_append, String.append_empty] at typeStart placeStart
  exact { name, type, typeStart, placeStart }

/-- Lines that are a declaration's table: the model, then a row for each attribute, in order. The
columns are as wide as the widest name and the widest type. -/
structure Table (declaration : Declaration) (nameWidth typeWidth : Nat) (lines : List String) :
    Prop where
  rows : ∃ rows, lines = (declaration.model ++ "\n") :: rows ∧
    List.Forall₂ (fun column row => ∃ nameCell typeCell,
      row = "  " ++ nameCell ++ "  " ++ typeCell ++ "  " ++ place column.location ++ "\n" ∧
      Row nameWidth typeWidth column nameCell typeCell) declaration.attributes rows
  widestName : declaration.attributes ≠ [] →
    IsGreatest {columns | ∃ column ∈ declaration.attributes, Text.width column.name = columns}
      nameWidth
  widestType : declaration.attributes ≠ [] →
    IsGreatest {columns | ∃ column ∈ declaration.attributes, Text.width column.type.name = columns}
      typeWidth

theorem attributeLine_plain (nameWidth typeWidth : Nat) (column : Attribute) (help : Bool) :
    (attributeLine nameWidth typeWidth column).onStdout { report := false, help } =
      "  " ++ pad column.name nameWidth ++ "  " ++ pad column.type.name typeWidth ++ "  " ++
        place column.location ++ "\n" := by
  simp [attributeLine, Output.onStdout, renderSpans, Span.render, Style.span, String.append_assoc]

theorem declarationLines_plain (declaration : Declaration) (help : Bool) :
    (declarationLines declaration).map (Output.onStdout { report := false, help }) =
      (declaration.model ++ "\n") :: declaration.attributes.map fun column =>
        (attributeLine (columnWidth (declaration.attributes.map (·.name)))
          (columnWidth (declaration.attributes.map (·.type.name))) column).onStdout
            { report := false, help } := by
  simp [declarationLines, Output.onStdout, renderSpans, Span.render, Style.span]

/-- A declaration is reported as a table whose columns line up. -/
theorem declarationLines_aligned (declaration : Declaration) (help : Bool) :
    ∃ nameWidth typeWidth, Table declaration nameWidth typeWidth
      ((declarationLines declaration).map (Output.onStdout { report := false, help })) := by
  refine ⟨columnWidth (declaration.attributes.map (·.name)),
    columnWidth (declaration.attributes.map (·.type.name)),
    ⟨_, declarationLines_plain declaration help, ?rows⟩, columnWidth_isGreatest _,
    columnWidth_isGreatest _⟩
  case rows =>
    rw [List.forall₂_map_right_iff, List.forall₂_same]
    intro column member
    have name := cell_pad (width_le_columnWidth (·.name) member)
    have type := cell_pad (width_le_columnWidth (·.type.name) member)
    exact ⟨_, _, attributeLine_plain _ _ column help, row_of_cells name type⟩

end AttributePins.Report

import AttributePins.Proofs.Json.RoundTrip
import AttributePins.Report

/-! Records that have been reported are read back. A record is found in an object by the names of
its members, whatever their order, and each of its parts is a value of the right type. -/
namespace AttributePins

namespace Json.Value

/-- The value of a member, if there is an object with one of the name. -/
def member? (name : String) : Value → Option Value
  | .object members => members.lookup name
  | _ => none

def text? : Value → Option String
  | .string text => some text
  | _ => none

def natural? : Value → Option Nat
  | .number n => some n
  | _ => none

def items? : Value → Option (List Value)
  | .array items => some items
  | _ => none

end Json.Value

open Json (Value)

def Location.ofJson? (value : Value) : Option Location := do
  let sourceId ← (← value.member? "sourceId").text?
  let startLine ← (← value.member? "startLine").natural?
  let startCol ← (← value.member? "startCol").natural?
  let endLine ← (← value.member? "endLine").natural?
  let endCol ← (← value.member? "endCol").natural?
  some { sourceId, startLine, startCol, endLine, endCol }

def Attribute.ofJson? (value : Value) : Option Attribute := do
  let name ← (← value.member? "name").text?
  let type ← SemanticType.ofName? (← (← value.member? "semanticType").text?)
  let location ← Location.ofJson? (← value.member? "location")
  some { name, type, location }

def Declaration.ofJson? (value : Value) : Option Declaration := do
  let model ← (← value.member? "entityName").text?
  let attributes ← (← (← value.member? "attributes").items?).mapM Attribute.ofJson?
  some { model, attributes }

def readRecords? (document : String) : Option (List Declaration) := do
  let value ← (Json.read document).toOption
  (← value.items?).mapM Declaration.ofJson?

/-- Items that are found one by one are found together. -/
theorem mapM_map_of_back {α : Type} {toJson : α → Value} {ofJson? : Value → Option α}
    (back : ∀ item, ofJson? (toJson item) = some item) (items : List α) :
    (items.map toJson).mapM ofJson? = some items := by
  induction items with
  | nil => rfl
  | cons item items ih =>
    rw [List.map_cons, List.mapM_cons, back, ih]
    rfl

theorem Location.ofJson?_toJson (location : Location) :
    ofJson? location.toJson = some location := rfl

theorem Attribute.ofJson?_toJson (column : Attribute) : ofJson? column.toJson = some column := by
  change (SemanticType.ofName? column.type.name).bind
    (fun type => (Location.ofJson? column.location.toJson).bind fun location =>
      some { name := column.name, type, location }) = some column
  rw [SemanticType.ofName?_name, Location.ofJson?_toJson]
  rfl

theorem Declaration.ofJson?_toJson (declaration : Declaration) :
    ofJson? declaration.toJson = some declaration := by
  change ((declaration.attributes.map Attribute.toJson).mapM Attribute.ofJson?).bind
    (fun attributes => some { model := declaration.model, attributes }) = some declaration
  rw [mapM_map_of_back Attribute.ofJson?_toJson]
  rfl

theorem readRecords?_renderRecords (records : List Declaration) :
    readRecords? (renderRecords records) = some records := by
  simp only [readRecords?, renderRecords, Json.read_render, Except.toOption, Value.items?,
    Option.bind_eq_bind, Option.bind_some, mapM_map_of_back Declaration.ofJson?_toJson]

namespace Report

theorem stdout_json (colours : Colours) (records : List Declaration) (files : Nat) :
    Output.stdout colours (scanLines .json records files) = renderRecords records ++ "\n" := by
  simp [Output.stdout, scanLines, Output.onStdout, renderSpans, Span.render, String.join]

/-- A report of records loses nothing. It is one document and a line break, the document is read
back to the records, and reports with the same text have the same records. -/
theorem scanLines_readBack (colours : Colours) (records : List Declaration) (files : Nat) :
    (∃ document,
      Output.stdout colours (scanLines .json records files) = document ++ "\n" ∧
      Json.isDocument document = true ∧ readRecords? document = some records) ∧
    ∀ (others : List Declaration) (shades : Colours) (scanned : Nat),
      Output.stdout shades (scanLines .json others scanned) =
        Output.stdout colours (scanLines .json records files) ↔ others = records := by
  refine ⟨⟨renderRecords records, stdout_json colours records files, Json.isDocument_render _,
    readRecords?_renderRecords records⟩, fun others shades scanned => ?_⟩
  rw [stdout_json, stdout_json]
  constructor
  · intro same
    have documents : renderRecords others = renderRecords records := by
      simpa using same
    have read := readRecords?_renderRecords others
    rw [documents, readRecords?_renderRecords] at read
    exact (Option.some.inj read).symm
  · rintro rfl
    rfl

end Report
end AttributePins

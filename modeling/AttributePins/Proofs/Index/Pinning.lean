import AttributePins.Proofs.Index.Forwarding
import AttributePins.Proofs.Source.Order
import AttributePins.Proofs.Text.Columns

/-! From sources to pins. The pins of a model are the attribute lines of the sources that
resolve to the model, one for one, and they come in the order of the sources' names and
of the lines. No line is lost on the way, pinned twice or pinned on another model. -/
namespace AttributePins

/-- Line `number` of a unit gives an attribute to a model: reading the unit resolves to
the model, and the line is a comment before the first line of code whose second word has
a type. -/
structure AttributeLine (table : TypeTable) (model : String) (unit : SourceUnit)
    (number : Nat) : Prop where
  resolves : ∃ attributes,
    (Block.ofText table unit.sourceId unit.text).declaration? = some ⟨model, attributes⟩
  before : number < Block.codeStart unit.lines
  recognised : ∃ line name token, unit.lines[number]? = some line ∧
    Line.classify line = .comment ∧ Line.attributeTokens? line = some (name, token) ∧
    table.contains token = true

/-- A pin stands for line `number` of a unit: it covers the whole line, and its name and
type are what the line says. -/
structure StandsFor (table : TypeTable) (model : String) (unit : SourceUnit) (number : Nat)
    (pin : Pin) : Prop where
  owner : pin.model = model
  source : pin.location.sourceId = unit.sourceId
  startLine : pin.location.startLine = number
  endLine : pin.location.endLine = number
  startCol : pin.location.startCol = 0
  text : ∃ line token, unit.lines[number]? = some line ∧
    pin.location.slice? line = some line ∧
    Line.attributeTokens? line = some (pin.name, token) ∧
    table.resolve? token = some pin.returnType

/-- The order of places: by the bytes of the source's name, then by line. -/
def Location.Before (a b : Location) : Prop :=
  Text.ByteLt a.sourceId b.sourceId ∨ a.sourceId = b.sourceId ∧ a.startLine < b.startLine

/-- Pins correspond one to one to the attribute lines of units, in increasing order. -/
structure Pinned (table : TypeTable) (units : List SourceUnit) (model : String)
    (pins : List Pin) : Prop where
  each_pin : ∀ pin ∈ pins, ∃! site : SourceUnit × Nat, site.1 ∈ units ∧
    AttributeLine table model site.1 site.2 ∧ StandsFor table model site.1 site.2 pin
  each_line : ∀ unit ∈ units, ∀ number, AttributeLine table model unit number →
    ∃! pin, pin ∈ pins ∧ StandsFor table model unit number pin
  increasing : pins.Pairwise fun a b => a.location.Before b.location

def unitPins (table : TypeTable) (model : String) (unit : SourceUnit) : List Pin :=
  pinsOf model (Block.ofText table unit.sourceId unit.text).declaration?.toList

theorem pinsOf_declarationsOf (table : TypeTable) (model : String) (units : List SourceUnit) :
    pinsOf model (declarationsOf table units) = units.flatMap (unitPins table model) := by
  rw [declarationsOf_eq]
  induction units with
  | nil => rfl
  | cons unit rest ih =>
    rw [List.flatMap_cons, pinsOf_append, ih]
    rfl

/-- The pin that line `number` of a unit would have on a model. -/
def linePin? (table : TypeTable) (model : String) (unit : SourceUnit) (number : Nat) : Option Pin :=
  (unit.lines[number]?.bind (Block.lineAttribute? table unit.sourceId number)).map
    (Pin.ofAttribute model)

theorem linePin?_standsFor {table : TypeTable} {model : String} {unit : SourceUnit}
    {number : Nat} {pin : Pin} (given : linePin? table model unit number = some pin) :
    StandsFor table model unit number pin := by
  obtain ⟨column, read, rfl⟩ := Option.map_eq_some_iff.mp given
  obtain ⟨line, found, described⟩ := Option.bind_eq_some_iff.mp read
  obtain ⟨_, token, tokens, resolved, place⟩ := Block.lineAttribute?_eq_some_iff.mp described
  have covered := Location.slice?_wholeLine unit.sourceId number line
  rw [← place] at covered
  exact ⟨rfl, congrArg Location.sourceId place, congrArg Location.startLine place,
    congrArg Location.endLine place, congrArg Location.startCol place,
    line, token, found, covered, tokens, resolved⟩

theorem linePin?_isSome_iff {table : TypeTable} {model : String} {unit : SourceUnit}
    {number : Nat} : (∃ pin, linePin? table model unit number = some pin) ↔
      ∃ line name token, unit.lines[number]? = some line ∧ Line.classify line = .comment ∧
        Line.attributeTokens? line = some (name, token) ∧ table.contains token = true := by
  constructor
  · rintro ⟨pin, given⟩
    obtain ⟨column, read, rfl⟩ := Option.map_eq_some_iff.mp given
    obtain ⟨line, found, described⟩ := Option.bind_eq_some_iff.mp read
    obtain ⟨marked, token, tokens, resolved, _⟩ := Block.lineAttribute?_eq_some_iff.mp described
    exact ⟨line, column.name, token, found, marked, tokens, Option.isSome_of_eq_some resolved⟩
  · rintro ⟨line, name, token, found, marked, tokens, known⟩
    obtain ⟨type, resolved⟩ := Option.isSome_iff_exists.mp known
    have described : Block.lineAttribute? table unit.sourceId number line =
        some ⟨name, type, Location.wholeLine unit.sourceId number line⟩ :=
      Block.lineAttribute?_eq_some_iff.mpr ⟨marked, token, tokens, resolved, rfl⟩
    refine ⟨Pin.ofAttribute model ⟨name, type, Location.wholeLine unit.sourceId number line⟩, ?_⟩
    rw [linePin?, found, Option.bind_some, described, Option.map_some]

section Unit

variable {table : TypeTable} {model : String} {unit : SourceUnit}

theorem unitPins_of_resolves {attributes : List Attribute}
    (resolves : (Block.ofText table unit.sourceId unit.text).declaration? =
      some ⟨model, attributes⟩) :
    unitPins table model unit =
      (List.range (Block.codeStart unit.lines)).filterMap (linePin? table model unit) := by
  have read := Scan.start_run_declaration? table unit.sourceId unit.lines
  rw [Scan.start_run_resolved] at read
  obtain ⟨named, _, equal⟩ := Option.map_eq_some_iff.mp (read.symm.trans resolves)
  obtain ⟨-, rfl⟩ := Declaration.mk.inj equal
  rw [unitPins, resolves, Option.toList_some, pinsOf_singleton, if_pos rfl, List.map_filterMap]
  rfl

theorem mem_unitPins {pin : Pin} : pin ∈ unitPins table model unit ↔
    (∃ attributes, (Block.ofText table unit.sourceId unit.text).declaration? =
      some ⟨model, attributes⟩) ∧
    ∃ number < Block.codeStart unit.lines, linePin? table model unit number = some pin := by
  constructor
  · intro member
    cases declared : (Block.ofText table unit.sourceId unit.text).declaration? with
    | none => simp [unitPins, declared, pinsOf] at member
    | some declaration =>
      obtain ⟨name, attributes⟩ := declaration
      by_cases named : name = model
      · subst named
        rw [unitPins_of_resolves declared, List.mem_filterMap] at member
        obtain ⟨number, before, given⟩ := member
        exact ⟨⟨attributes, rfl⟩, number, List.mem_range.mp before, given⟩
      · simp [unitPins, declared, pinsOf_singleton, named] at member
  · rintro ⟨⟨attributes, declared⟩, number, before, given⟩
    rw [unitPins_of_resolves declared, List.mem_filterMap]
    exact ⟨number, List.mem_range.mpr before, given⟩

theorem attributeLine_iff {number : Nat} : AttributeLine table model unit number ↔
    ∃ pin ∈ unitPins table model unit, StandsFor table model unit number pin := by
  constructor
  · rintro ⟨resolves, before, recognised⟩
    obtain ⟨pin, given⟩ := linePin?_isSome_iff.mpr recognised
    exact ⟨pin, mem_unitPins.mpr ⟨resolves, number, before, given⟩, linePin?_standsFor given⟩
  · rintro ⟨pin, member, stands⟩
    obtain ⟨resolves, line, before, given⟩ := mem_unitPins.mp member
    have same : line = number := (linePin?_standsFor given).startLine.symm.trans stands.startLine
    subst same
    exact ⟨resolves, before, linePin?_isSome_iff.mp ⟨pin, given⟩⟩

theorem standsFor_of_mem {pin : Pin} (member : pin ∈ unitPins table model unit) :
    StandsFor table model unit pin.location.startLine pin := by
  obtain ⟨_, number, _, given⟩ := mem_unitPins.mp member
  have stands := linePin?_standsFor given
  rw [stands.startLine]
  exact stands

theorem unitPins_increasing :
    (unitPins table model unit).Pairwise fun a b =>
      a.location.startLine < b.location.startLine := by
  by_cases resolves : ∃ attributes,
      (Block.ofText table unit.sourceId unit.text).declaration? = some ⟨model, attributes⟩
  · obtain ⟨attributes, resolves⟩ := resolves
    rw [unitPins_of_resolves resolves]
    apply List.pairwise_filterMap.mpr
    apply List.pairwise_lt_range.imp
    intro i j before a first b second
    rw [(linePin?_standsFor first).startLine, (linePin?_standsFor second).startLine]
    exact before
  · have none : unitPins table model unit = [] := by
      apply List.eq_nil_iff_forall_not_mem.mpr
      intro pin member
      exact resolves (mem_unitPins.mp member).1
    rw [none]
    exact .nil

end Unit

theorem sortUnits_increasing {units : List SourceUnit}
    (distinct : (units.map (·.sourceId)).Nodup) :
    (sortUnits units).Pairwise fun a b => a.sourceId < b.sourceId := by
  have ordered := mergeSort_by_name_ordered SourceUnit.sourceId units
  have apart : (sortUnits units).Pairwise fun a b => a.sourceId ≠ b.sourceId :=
    List.pairwise_map.mp ((List.mergeSort_perm units _).map _ |>.nodup_iff.mpr distinct)
  exact (ordered.and apart).imp fun both => lt_of_le_of_ne both.1 both.2

theorem flatMap_unitPins_increasing (table : TypeTable) (model : String)
    {units : List SourceUnit} (ordered : units.Pairwise fun a b => a.sourceId < b.sourceId) :
    (units.flatMap (unitPins table model)).Pairwise fun a b =>
      a.location.Before b.location := by
  apply List.pairwise_flatMap.mpr
  constructor
  · intro unit _
    apply unitPins_increasing.imp_of_mem
    intro a b first second before
    right
    refine ⟨?_, before⟩
    rw [(standsFor_of_mem first).source, (standsFor_of_mem second).source]
  · apply ordered.imp
    intro u v before a first b second
    left
    rw [(standsFor_of_mem first).source, (standsFor_of_mem second).source]
    exact Text.byteLt_iff_lt.mpr before

theorem Location.Before.ne {a b : Location} (before : a.Before b) :
    (a.sourceId, a.startLine) ≠ (b.sourceId, b.startLine) := by
  intro same
  obtain ⟨source, line⟩ := Prod.mk.inj same
  rcases before with smaller | ⟨_, smaller⟩
  · rw [Text.byteLt_iff_lt, source] at smaller
    exact String.lt_irrefl _ smaller
  · omega

/-- Indexing sources of distinct names pins every attribute line once, on its own model. -/
theorem pinned_attributesOf (table : TypeTable) (units : List SourceUnit)
    (distinct : (units.map (·.sourceId)).Nodup) (model : String) :
    Pinned table units model
      ((indexUnits table (Sources.ofUnits units).units Index.empty).sink.attributesOf model) := by
  have holds := Index.holds_empty.indexUnits table (Sources.ofUnits units).units
  rw [holds.pins, List.nil_append, pinsOf_declarationsOf]
  have increasing := flatMap_unitPins_increasing table model (sortUnits_increasing distinct)
  have member {pin : Pin} : pin ∈ (sortUnits units).flatMap (unitPins table model) ↔
      ∃ unit ∈ units, pin ∈ unitPins table model unit := by
    simp only [List.mem_flatMap, sortUnits, List.mem_mergeSort]
  constructor
  case increasing => exact increasing
  case each_pin =>
    intro pin present
    obtain ⟨unit, known, given⟩ := member.mp present
    have stands := standsFor_of_mem given
    refine ⟨(unit, pin.location.startLine),
      ⟨known, attributeLine_iff.mpr ⟨pin, given, stands⟩, stands⟩, ?_⟩
    rintro ⟨other, number⟩ ⟨known', _, stands'⟩
    have same : other = unit := List.inj_on_of_nodup_map distinct known' known
      (stands'.source.symm.trans stands.source)
    rw [same, stands'.startLine]
  case each_line =>
    intro unit known number recognised
    obtain ⟨pin, given, stands⟩ := attributeLine_iff.mp recognised
    refine ⟨pin, ⟨member.mpr ⟨unit, known, given⟩, stands⟩, ?_⟩
    rintro other ⟨present, stands'⟩
    -- Both pins stand at one place, and along an increasing list no place comes twice.
    have places : (((sortUnits units).flatMap (unitPins table model)).map fun pin =>
        (pin.location.sourceId, pin.location.startLine)).Nodup :=
      List.pairwise_map.mpr (increasing.imp Location.Before.ne)
    apply List.inj_on_of_nodup_map places present (member.mpr ⟨unit, known, given⟩)
    rw [stands'.source, stands'.startLine, stands.source, stands.startLine]

/-- Two sources of one model, given out of order. -/
theorem pinned_of_two_sources :
    let a : SourceUnit := ⟨"a.rb", "#\n# id integer\nclass Account < ApplicationRecord\n"⟩
    let b : SourceUnit := ⟨"b.rb", "# name string\nclass Account < ApplicationRecord\n"⟩
    let indexed := indexUnits .rails (Sources.ofUnits [b, a]).units Index.empty
    ([b, a].map (·.sourceId)).Nodup ∧
    indexed.sink.attributesOf "Account" =
      [⟨"id", "Account", .int, ⟨"a.rb", 1, 0, 1, 12⟩, .record, true⟩,
       ⟨"name", "Account", .string, ⟨"b.rb", 0, 0, 0, 13⟩, .record, true⟩] ∧
    Pinned .rails [b, a] "Account" (indexed.sink.attributesOf "Account") := by
  intro a b indexed
  have distinct : ([b, a].map (·.sourceId)).Nodup := by decide
  have later : ¬ b.sourceId ≤ a.sourceId := by decide
  have order : (Sources.ofUnits [b, a]).units = [a, b] := by
    simp [Sources.ofUnits, sortUnits, List.mergeSort, later]
  refine ⟨distinct, ?_, pinned_attributesOf .rails [b, a] distinct "Account"⟩
  simp only [indexed, order]
  decide +kernel

end AttributePins

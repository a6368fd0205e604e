import AttributePins.Proofs.Block.Trace
import AttributePins.Proofs.Index.History

/-! Handing declarations on. A sink is only ever told what units declare, in the order of the
units, so it does not see in how many calls they are indexed; and a sink to which the
splitting of declarations does not matter is left as if it had been handed all of them at
once. What is handed on, what is warned of and what has no code account for every unit. -/
namespace AttributePins

/-- A sink to which it does not matter in how many parts declarations arrive. -/
class LawfulSink (σ : Type u) [Sink σ] : Prop where
  accept_nil : ∀ sink : σ, Sink.accept sink [] = sink
  accept_append : ∀ (sink : σ) (first second : List Declaration),
    Sink.accept sink (first ++ second) = Sink.accept (Sink.accept sink first) second

instance : LawfulSink (List Declaration) where
  accept_nil := List.append_nil
  accept_append kept first second := (List.append_assoc kept first second).symm

instance : LawfulSink Index where
  accept_nil _ := rfl
  accept_append _ _ _ := List.foldl_append

section Sinks

variable {σ : Type u} [Sink σ] (table : TypeTable)

theorem declarationsOf_eq (units : List SourceUnit) :
    declarationsOf table units = units.flatMap (SourceUnit.declarations table) :=
  List.filterMap_eq_flatMap_toList _ _

theorem Forwarding.foldl_hand (batches : List (List Declaration)) (state : Forwarding σ) :
    batches.foldl Forwarding.hand state =
      ⟨batches.foldl Sink.accept state.sink, state.forwarded + batches.flatten.length⟩ := by
  induction batches generalizing state with
  | nil => rfl
  | cons declarations rest ih =>
    rw [List.foldl_cons, ih, List.foldl_cons, List.flatten_cons, List.length_append, hand,
      Nat.add_assoc]

theorem indexUnits_eq (units : List SourceUnit) (sink : σ) :
    indexUnits table units sink =
      ⟨(units.map (SourceUnit.declarations table)).foldl Sink.accept sink,
        (declarationsOf table units).length⟩ := by
  rw [indexUnits, Forwarding.foldl_hand, Nat.zero_add, declarationsOf_eq, List.flatMap_def]

theorem indexUnits_append (first second : List SourceUnit) (sink : σ) :
    indexUnits table (first ++ second) sink =
      ⟨(indexUnits table second (indexUnits table first sink).sink).sink,
        (indexUnits table first sink).forwarded +
          (indexUnits table second (indexUnits table first sink).sink).forwarded⟩ := by
  simp only [indexUnits_eq, List.map_append, List.foldl_append, declarationsOf_eq,
    List.flatMap_append, List.length_append]

theorem Sink.foldl_accept [LawfulSink σ] (batches : List (List Declaration)) (sink : σ) :
    batches.foldl Sink.accept sink = Sink.accept sink batches.flatten := by
  induction batches generalizing sink with
  | nil => exact (LawfulSink.accept_nil sink).symm
  | cons declarations rest ih =>
    rw [List.foldl_cons, ih, List.flatten_cons, LawfulSink.accept_append]

/-- A lawful sink is left as if it were handed all declarations at once. -/
theorem indexUnits_sink [LawfulSink σ] (units : List SourceUnit) (sink : σ) :
    (indexUnits table units sink).sink = Sink.accept sink (declarationsOf table units) := by
  rw [indexUnits_eq, Sink.foldl_accept, declarationsOf_eq, List.flatMap_def]

end Sinks

theorem Index.Holds.indexUnits {index : Index} {history : List Declaration}
    (holds : index.Holds history) (table : TypeTable) (units : List SourceUnit) :
    (AttributePins.indexUnits table units index).sink.Holds
      (history ++ declarationsOf table units) := by
  rw [indexUnits_sink]
  exact holds.accept _

namespace SourceUnit

def lines (unit : SourceUnit) : List (List Char) := Text.lines unit.text.toList

def warnings (table : TypeTable) (unit : SourceUnit) : List Event :=
  (Block.ofText table unit.sourceId unit.text).trace.filter fun event => event.level = .warn

/-- Whether no line of a unit is code. -/
def uncoded (unit : SourceUnit) : Bool := unit.lines.all fun line => Line.classify line ≠ .code

end SourceUnit

/-- What one unit adds: a declaration, if its first line of code names a model; a warning, if
that line names none; nothing, if no line is code. -/
inductive Adds (lines : List (List Char)) : List Declaration → List Event → Prop where
  | declaration : lines[Block.codeStart lines]? = some line → Line.modelName? line = some model →
      Adds lines [⟨model, attributes⟩] []
  | warning : lines[Block.codeStart lines]? = some line → Line.modelName? line = none →
      Adds lines [] [.unresolvedModel (Block.codeStart lines) (String.ofList line)]
  | nothing : (∀ line ∈ lines, Line.classify line ≠ .code) → Adds lines [] []

namespace Block

variable {lines : List (List Char)}

theorem uncoded_of_codeStart (ended : lines[codeStart lines]? = none) :
    ∀ line ∈ lines, Line.classify line ≠ .code := by
  intro line member
  obtain ⟨i, bound, rfl⟩ := List.mem_iff_getElem.mp member
  have before : i < codeStart lines := Nat.lt_of_lt_of_le bound (List.getElem?_eq_none_iff.mp ended)
  exact classify_ne_code_of_lt before (List.getElem?_eq_getElem bound)

end Block

theorem adds_unit (table : TypeTable) (unit : SourceUnit) :
    Adds unit.lines (unit.declarations table) (unit.warnings table) := by
  have declared := Scan.start_run_declaration? table unit.sourceId unit.lines
  obtain ⟨front, split, quiet⟩ := Block.start_run_events table unit.sourceId unit.lines
  have warned : unit.warnings table =
      (Block.closing? table unit.lines).toList.filter fun event => event.level = .warn := by
    rw [SourceUnit.warnings, Block.ofText, ← SourceUnit.lines]
    simp only [split]
    exact Block.filter_warn_eq quiet _ _
  have handed : unit.declarations table =
    ((Scan.start.run table unit.sourceId 0 unit.lines).1.declaration? table).toList := rfl
  rw [handed, warned, declared, Block.closing?]
  cases last : unit.lines[Block.codeStart unit.lines]? with
  | none => exact .nothing (Block.uncoded_of_codeStart last)
  | some line =>
    rw [Option.map_some, Block.outcome_of_code table (Block.classify_codeStart last),
      Option.bind_some]
    cases named : Line.modelName? line with
    | some model => exact .declaration last named
    | none => exact .warning last named

theorem Adds.total {lines : List (List Char)} {declared : List Declaration} {warned : List Event}
    (adds : Adds lines declared warned) :
    declared.length + warned.length +
      (if lines.all fun line => Line.classify line ≠ .code then 1 else 0) = 1 := by
  have coded {line : List Char} (found : lines[Block.codeStart lines]? = some line) :
      (lines.all fun line => decide (Line.classify line ≠ .code)) = false := by
    apply List.all_eq_false.mpr
    exact ⟨line, List.mem_of_getElem? found, by simpa using Block.classify_codeStart found⟩
  cases adds with
  | declaration found _ | warning found _ =>
    rw [coded found]
    rfl
  | nothing none =>
    have all : (lines.all fun line => decide (Line.classify line ≠ .code)) = true :=
      List.all_eq_true.mpr fun line member => decide_eq_true (none line member)
    rw [all]
    rfl

/-- The warnings of units, one unit after the other. -/
theorem length_warnings (table : TypeTable) (units : List SourceUnit) :
    ((eventsOf table units).filter fun reported => reported.2.level = .warn).length =
      (units.flatMap (SourceUnit.warnings table)).length := by
  simp only [eventsOf, List.filter_flatMap, List.filter_map, List.length_flatMap, List.length_map]
  rfl

/-- Each unit counts once: for what it declares, for what it warns of, or for having no code. -/
theorem length_units (table : TypeTable) (units : List SourceUnit) :
    (units.flatMap (SourceUnit.declarations table)).length +
      (units.flatMap (SourceUnit.warnings table)).length +
      (units.filter SourceUnit.uncoded).length = units.length := by
  induction units with
  | nil => rfl
  | cons unit rest ih =>
    have one := (adds_unit table unit).total
    rw [← SourceUnit.uncoded] at one
    simp only [List.flatMap_cons, List.length_append, List.length_cons, List.filter_cons]
    split at one
    · rename_i uncoded
      rw [if_pos uncoded, List.length_cons]
      omega
    · rename_i coded
      rw [if_neg coded]
      omega

/-- Indexing is one walk over the units, wherever it is interrupted and whatever the sink. A
list is handed the declarations of all units in order, and an index that takes them from the
list ends as one that is handed them itself. Every unit adds one declaration or one warning
or has no code, so the three together count the units. -/
theorem indexUnits_homomorphism {σ : Type u} [Sink σ] (table : TypeTable) (sink : σ)
    (first second units : List SourceUnit) :
    ((indexUnits table (first ++ second) sink).sink =
        (indexUnits table second (indexUnits table first sink).sink).sink ∧
      (indexUnits table (first ++ second) sink).forwarded =
        (indexUnits table first sink).forwarded +
          (indexUnits table second (indexUnits table first sink).sink).forwarded) ∧
    (∀ kept : List Declaration, (indexUnits table units kept).sink =
      kept ++ units.flatMap (SourceUnit.declarations table)) ∧
    (∀ (index : Index) (kept : List Declaration),
      index.accept (indexUnits table units kept).sink =
        (indexUnits table units (index.accept kept)).sink) ∧
    (∀ unit : SourceUnit, Adds unit.lines (unit.declarations table) (unit.warnings table)) ∧
    (indexUnits table units sink).forwarded +
      ((eventsOf table units).filter fun reported => reported.2.level = .warn).length +
      (units.filter SourceUnit.uncoded).length = units.length := by
  refine ⟨?_, ?_, ?_, fun unit => adds_unit table unit, ?_⟩
  · rw [indexUnits_append]
    exact ⟨rfl, rfl⟩
  · intro kept
    rw [indexUnits_sink, declarationsOf_eq]
    rfl
  · intro index kept
    rw [indexUnits_sink, indexUnits_sink]
    exact LawfulSink.accept_append index kept _
  · rw [indexUnits_eq, length_warnings, declarationsOf_eq]
    exact length_units table units

end AttributePins

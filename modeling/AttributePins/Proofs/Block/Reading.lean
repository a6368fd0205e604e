import AttributePins.Block
import Mathlib.Data.List.Basic

/-! What reading a block gives, said without the scan over its lines. The first line of
code bounds what is read: the lines before it give the attributes, the line itself names
the model or fails to, and the lines after it are never looked at. -/
namespace AttributePins

namespace Block

/-- The number of the first line of code, or the number of all lines if none is code. -/
def codeStart (lines : List (List Char)) : Nat :=
  lines.findIdx fun line => Line.classify line = .code

/-- The note that a line leaves for the end of the scan. -/
def lineNote? (table : TypeTable) (sourceId : String) (number : Nat) (line : List Char) :
    Option Note :=
  if Line.classify line = .comment then note? table sourceId number line else none

/-- The attribute that a line gives: it is a comment, its first word is the name, and
its second word has a type. -/
def lineAttribute? (table : TypeTable) (sourceId : String) (number : Nat)
    (line : List Char) : Option Attribute :=
  if Line.classify line = .comment then do
    let (name, token) ← Line.attributeTokens? line
    let type ← table.resolve? token
    some ⟨name, type, Location.wholeLine sourceId number line⟩
  else none

/-- What is reported about a line once its kind is known. -/
def outcome (table : TypeTable) (number : Nat) (line : List Char) : Event :=
  match Line.skipReason? line, Line.isComment line with
  | some reason, _ => .lineSkipped number reason
  | none, true =>
    match Line.attributeTokens? line with
    | some (name, token) =>
      if table.contains token then .attributeParsed number name token
      else .unrecognizedType number (String.ofList line)
    | none => .unrecognizedType number (String.ofList line)
  | none, false =>
    match Line.modelName? line with
    | some model => .modelResolved number model
    | none => .unresolvedModel number (String.ofList line)

def lineEvents (table : TypeTable) (number : Nat) (line : List Char) : List Event :=
  [.lineProcessed number (String.ofList line), outcome table number line]

def codeState (line : List Char) : ScanState :=
  match Line.modelName? line with
  | some model => .model model
  | none => .noModel

section Lines

variable {table : TypeTable} {sourceId : String} {number : Nat} {line : List Char}

theorem classify_eq_code_iff :
    Line.classify line = .code ↔ Line.skipReason? line = none ∧ Line.isComment line = false := by
  cases reason : Line.skipReason? line <;> cases marked : Line.isComment line <;>
    simp [Line.classify, reason, marked]

theorem lineAttribute?_eq_some_iff {column : Attribute} :
    lineAttribute? table sourceId number line = some column ↔
      Line.classify line = .comment ∧ ∃ token,
        Line.attributeTokens? line = some (column.name, token) ∧
        table.resolve? token = some column.type ∧
        column.location = Location.wholeLine sourceId number line := by
  obtain ⟨name, type, location⟩ := column
  by_cases marked : Line.classify line = .comment
  · simp only [lineAttribute?, marked, if_true, true_and, bind, Option.bind_eq_some_iff]
    constructor
    · rintro ⟨⟨name', token⟩, tokens, type', resolved, equal⟩
      simp only [Option.some.injEq, Attribute.mk.injEq] at equal
      obtain ⟨rfl, rfl, rfl⟩ := equal
      exact ⟨token, tokens, resolved, rfl⟩
    · rintro ⟨token, tokens, resolved, rfl⟩
      exact ⟨(name, token), tokens, type, resolved, rfl⟩
  · simp [lineAttribute?, marked]

/-- Types are looked up twice, for a note to be left and for its attribute. The second
look-up never fails on what the first let through. -/
theorem lineNote?_bind_resolve? :
    (lineNote? table sourceId number line).bind (Note.resolve? table) =
      lineAttribute? table sourceId number line := by
  by_cases marked : Line.classify line = .comment
  · simp only [lineNote?, lineAttribute?, marked, if_true, note?]
    cases tokens : Line.attributeTokens? line with
    | none => rfl
    | some words =>
      obtain ⟨name, token⟩ := words
      cases found : table.resolve? token <;> simp [TypeTable.contains, Note.resolve?, found]
  · simp [lineNote?, lineAttribute?, marked]

theorem codeStart_cons_code (code : Line.classify line = .code) (rest : List (List Char)) :
    codeStart (line :: rest) = 0 := by
  simp only [codeStart, List.findIdx_cons, code, decide_true, cond_true]

theorem codeStart_cons_other (other : Line.classify line ≠ .code) (rest : List (List Char)) :
    codeStart (line :: rest) = codeStart rest + 1 := by
  simp only [codeStart, List.findIdx_cons, other, decide_false, cond_false]

theorem classify_ne_code_of_lt {lines : List (List Char)} {i : Nat}
    (before : i < codeStart lines) (found : lines[i]? = some line) :
    Line.classify line ≠ .code := by
  obtain ⟨bound, rfl⟩ := List.getElem?_eq_some_iff.mp found
  have other := List.not_of_lt_findIdx before
  simpa only [decide_eq_false_iff_not] using other

theorem classify_codeStart {lines : List (List Char)}
    (found : lines[codeStart lines]? = some line) : Line.classify line = .code := by
  have code := List.findIdx_of_getElem?_eq_some found
  simpa only [decide_eq_true_eq] using code

end Lines

end Block

namespace Scan

open Block

section Steps

variable {table : TypeTable} {sourceId : String} {line : List Char}

/-- At a line of code the scan ends, with the notes it has. -/
theorem step_code (code : Line.classify line = .code) (number : Nat) (scan : Scan) :
    scan.step table sourceId number line =
      ({ scan with state := codeState line }, lineEvents table number line) := by
  obtain ⟨unskipped, unmarked⟩ := classify_eq_code_iff.mp code
  simp only [step, code, lineEvents, outcome, unskipped, unmarked, codeState]
  cases Line.modelName? line <;> rfl

/-- At any other line the scan goes on, with at most one note more. -/
theorem step_other (other : Line.classify line ≠ .code) (number : Nat) (scan : Scan) :
    scan.step table sourceId number line =
      ({ scan with pending := scan.pending ++ (lineNote? table sourceId number line).toList },
        lineEvents table number line) := by
  cases reason : Line.skipReason? line with
  | some reason =>
    simp only [step, Line.classify, lineNote?, lineEvents, outcome, reason, reduceCtorEq,
      if_false, Option.toList_none, List.append_nil]
  | none =>
    cases marked : Line.isComment line with
    | false => exact absurd (classify_eq_code_iff.mpr ⟨reason, marked⟩) other
    | true =>
      simp only [step, Line.classify, lineNote?, lineEvents, outcome, reason, marked, if_true,
        note?]
      cases tokens : Line.attributeTokens? line with
      | none => simp
      | some words =>
        obtain ⟨name, token⟩ := words
        cases known : table.contains token <;> simp [known]

theorem run_cons_code (code : Line.classify line = .code) (number : Nat)
    (rest : List (List Char)) (scan : Scan) :
    scan.run table sourceId number (line :: rest) =
      ({ scan with state := codeState line }, lineEvents table number line) := by
  have ended : (codeState line).hasEnded = true := by
    unfold codeState
    cases Line.modelName? line <;> rfl
  simp only [run, step_code code, ended, if_true]

theorem run_cons_other (other : Line.classify line ≠ .code) (number : Nat)
    (rest : List (List Char)) (notes : List Note) :
    run table sourceId number (line :: rest) ⟨notes, .reading⟩ =
      (run table sourceId (number + 1) rest
        ⟨notes ++ (lineNote? table sourceId number line).toList, .reading⟩).map id
          (lineEvents table number line ++ ·) := by
  simp only [run, step_other other]
  rfl

end Steps

variable (table : TypeTable) (sourceId : String)

theorem run_pending (number : Nat) (lines : List (List Char)) (notes : List Note) :
    (run table sourceId number lines ⟨notes, .reading⟩).1.pending =
      notes ++ (List.range (codeStart lines)).filterMap fun i =>
        lines[i]?.bind (lineNote? table sourceId (number + i)) := by
  induction lines generalizing number notes with
  | nil => exact (List.append_nil notes).symm
  | cons line rest ih =>
    by_cases code : Line.classify line = .code
    · rw [run_cons_code code, codeStart_cons_code code, List.range_zero, List.filterMap_nil,
        List.append_nil]
    · rw [run_cons_other code, codeStart_cons_other code, Prod.map_fst, id, ih,
        List.range_succ_eq_map, List.append_assoc]
      -- Line `i` of the rest is line `i + 1` of the whole.
      have shift (i : Nat) : number + 1 + i = number + (i + 1) := by omega
      simp only [List.filterMap_cons, List.filterMap_map, Function.comp_def,
        List.getElem?_cons_zero, Option.bind_some, List.getElem?_cons_succ, Nat.add_zero,
        Nat.succ_eq_add_one, shift]
      cases lineNote? table sourceId number line <;> rfl

theorem run_state (number : Nat) (lines : List (List Char)) (notes : List Note) :
    (run table sourceId number lines ⟨notes, .reading⟩).1.state =
      lines[codeStart lines]?.elim .reading codeState := by
  induction lines generalizing number notes with
  | nil => rfl
  | cons line rest ih =>
    by_cases code : Line.classify line = .code
    · rw [run_cons_code code, codeStart_cons_code code]
      rfl
    · rw [run_cons_other code, codeStart_cons_other code, Prod.map_fst, id, ih,
        List.getElem?_cons_succ]

theorem run_events (number : Nat) (lines : List (List Char)) (notes : List Note) :
    (run table sourceId number lines ⟨notes, .reading⟩).2 =
      ((lines.take (codeStart lines + 1)).zipIdx number).flatMap fun (line, i) =>
        lineEvents table i line := by
  induction lines generalizing number notes with
  | nil => rfl
  | cons line rest ih =>
    by_cases code : Line.classify line = .code
    · rw [run_cons_code code, codeStart_cons_code code, List.take_succ_cons, List.take_zero,
        List.zipIdx_singleton, List.flatMap_singleton]
    · rw [run_cons_other code, codeStart_cons_other code, Prod.map_snd, ih, List.take_succ_cons,
        List.zipIdx_cons, List.flatMap_cons]

/-- The attributes of the notes that a whole scan leaves. -/
theorem start_run_resolved (lines : List (List Char)) :
    (start.run table sourceId 0 lines).1.pending.filterMap (Note.resolve? table) =
      (List.range (codeStart lines)).filterMap fun i =>
        lines[i]?.bind (lineAttribute? table sourceId i) := by
  rw [start, run_pending, List.nil_append, List.filterMap_filterMap]
  simp only [Nat.zero_add, Option.bind_assoc, lineNote?_bind_resolve?]

/-- The attributes that were read belong to the model that the first line of code names. -/
theorem start_run_declaration? (lines : List (List Char)) :
    (start.run table sourceId 0 lines).1.declaration? table =
      (lines[codeStart lines]?.bind Line.modelName?).map fun model =>
        ⟨model, (start.run table sourceId 0 lines).1.pending.filterMap (Note.resolve? table)⟩ := by
  have ending := run_state table sourceId 0 lines []
  rw [← start] at ending
  rw [declaration?, ending]
  cases lines[codeStart lines]? with
  | none => rfl
  | some line =>
    simp only [Option.elim_some, Option.bind_some, codeState]
    cases Line.modelName? line <;> rfl

end Scan

/-- Reading is a search for the first line of code. The search reads nothing behind that
line, and no line before it is dropped, read twice or moved. -/
theorem Block.declaration?_eq_of_codeStart (table : TypeTable) (sourceId text : String) :
    let lines := Text.lines text.toList
    let k := codeStart lines
    (ofText table sourceId text).declaration? =
      (lines[k]?.bind Line.modelName?).map fun model =>
        ⟨model, (List.range k).filterMap fun i =>
          lines[i]?.bind (lineAttribute? table sourceId i)⟩ := by
  intro lines k
  rw [← Scan.start_run_resolved]
  exact Scan.start_run_declaration? table sourceId lines

end AttributePins

import AttributePins.Proofs.Block.Reading

/-! The trace of one reading has a fixed grammar, two events for each line that is read
and one more at the end, and determines what is declared. Nothing is declared that the
trace does not show, so the diagnostics and the result cannot drift apart. -/
namespace AttributePins

namespace Event

/-- Whether an event reports the line that ended a block. -/
def closes : Event → Bool
  | .modelResolved _ _ | .unresolvedModel _ _ => true
  | _ => false

def emits : Event → Bool
  | .attributesEmitted _ => true
  | _ => false

/-- The name, the type and the line of an attribute that an event reports. -/
def parsed? (table : TypeTable) : Event → Option (String × Option SemanticType × Nat)
  | .attributeParsed line name token => some (name, table.resolve? token, line)
  | _ => none

end Event

/-- The part of an attribute that the trace shows. -/
def Attribute.shown (column : Attribute) : String × Option SemanticType × Nat :=
  (column.name, some column.type, column.location.startLine)

namespace Block

/-- A trace reports the lines of a text up to the first line of code, and says what was
declared. -/
structure Reports (table : TypeTable) (lines : List (List Char)) (declared : Option Declaration)
    (trace : List Event) (count : Nat) : Prop where
  /-- Each line that is read has two events, and the count of attributes comes last. -/
  grammar : trace = ((lines.take (codeStart lines + 1)).zipIdx.flatMap fun (line, i) =>
    [.lineProcessed i (String.ofList line), outcome table i line]) ++ [.attributesEmitted count]
  emitted_once : trace.filter Event.emits = [.attributesEmitted count]
  closes_last : ∀ event ∈ trace, event.closes = true →
    ∃ front, trace = front ++ [event, .attributesEmitted count] ∧
      ∀ other ∈ front, other.closes = false
  resolved : ∀ number model, .modelResolved number model ∈ trace →
    ∃ attributes, declared = some ⟨model, attributes⟩ ∧
      attributes.map Attribute.shown = trace.filterMap (Event.parsed? table) ∧
      count = (trace.filterMap (Event.parsed? table)).length
  unresolved : (∀ number model, .modelResolved number model ∉ trace) →
    declared = none ∧ count = 0
  warned : ∀ number text, .unresolvedModel number text ∈ trace →
    (trace.filter fun event => event.level = .warn).length = 1
  unwarned : (∀ number text, .unresolvedModel number text ∉ trace) →
    (trace.filter fun event => event.level = .warn).length = 0

section Outcome

variable (table : TypeTable) (sourceId : String) (number : Nat) (line : List Char)

/-- Only a line of code closes a block. -/
theorem outcome_closes :
    (outcome table number line).closes = decide (Line.classify line = .code) := by
  fun_cases outcome table number line <;> simp [classify_eq_code_iff, Event.closes, *]

theorem outcome_emits : (outcome table number line).emits = false := by
  fun_cases outcome table number line <;> rfl

/-- A line is reported as an attribute exactly if it gives one. -/
theorem outcome_parsed? :
    (outcome table number line).parsed? table =
      (lineAttribute? table sourceId number line).map Attribute.shown := by
  fun_cases outcome table number line with
  | case1 reason skipped => simp [lineAttribute?, Line.classify, skipped, Event.parsed?]
  | case2 unskipped marked name token tokens known =>
    obtain ⟨type, found⟩ := Option.isSome_iff_exists.mp known
    simp [lineAttribute?, Line.classify, unskipped, marked, tokens, found, Event.parsed?,
      Attribute.shown, Location.wholeLine]
  | case3 unskipped marked name token tokens unknown =>
    have missing : table.resolve? token = none := by
      simpa [TypeTable.contains] using unknown
    simp [lineAttribute?, Line.classify, unskipped, marked, tokens, missing, Event.parsed?]
  | case4 unskipped marked tokens =>
    simp [lineAttribute?, Line.classify, unskipped, marked, tokens, Event.parsed?]
  | case5 unskipped unmarked | case6 unskipped unmarked =>
    simp [lineAttribute?, Line.classify, unskipped, unmarked, Event.parsed?]

theorem lineEvents_parsed? :
    (lineEvents table number line).filterMap (Event.parsed? table) =
      (lineAttribute? table sourceId number line).toList.map Attribute.shown := by
  have processed : (Event.lineProcessed number (String.ofList line)).parsed? table = none := rfl
  have reported := outcome_parsed? table sourceId number line
  rw [lineEvents, List.filterMap_cons_none processed, List.filterMap_cons, reported]
  cases lineAttribute? table sourceId number line <;> rfl

end Outcome

variable (table : TypeTable) (sourceId : String)

/-- The attributes that a scan leaves are those that it reports, in the same order. -/
theorem run_parsed? (number : Nat) (lines : List (List Char)) (notes : List Note) :
    ((Scan.run table sourceId number lines ⟨notes, .reading⟩).1.pending.filterMap
        (Note.resolve? table)).map Attribute.shown =
      (notes.filterMap (Note.resolve? table)).map Attribute.shown ++
        (Scan.run table sourceId number lines ⟨notes, .reading⟩).2.filterMap
          (Event.parsed? table) := by
  induction lines generalizing number notes with
  | nil => exact (List.append_nil _).symm
  | cons line rest ih =>
    have reported := lineEvents_parsed? table sourceId number line
    by_cases code : Line.classify line = .code
    · rw [Scan.run_cons_code code, reported]
      simp [lineAttribute?, code]
    · have left : (lineNote? table sourceId number line).toList.filterMap (Note.resolve? table) =
          (lineAttribute? table sourceId number line).toList := by
        rw [← lineNote?_bind_resolve?, Option.toList_bind, List.filterMap_eq_flatMap_toList]
        rfl
      rw [Scan.run_cons_other code, Prod.map_fst, Prod.map_snd, id, ih, List.filterMap_append,
        List.filterMap_append, reported, left, List.map_append, List.append_assoc]

def frontEvents (table : TypeTable) (lines : List (List Char)) : List Event :=
  (lines.take (codeStart lines)).zipIdx.flatMap fun (line, i) => lineEvents table i line

theorem flatMap_lineEvents_eq (lines : List (List Char)) :
    ((lines.take (codeStart lines + 1)).zipIdx.flatMap fun (line, i) => lineEvents table i line) =
      frontEvents table lines ++
        lines[codeStart lines]?.elim [] (lineEvents table (codeStart lines)) := by
  have bound : codeStart lines ≤ lines.length := List.findIdx_le_length
  rw [List.take_add_one, List.zipIdx_append, List.flatMap_append, List.length_take,
    Nat.min_eq_left bound, Nat.zero_add, frontEvents]
  cases lines[codeStart lines]? with
  | none => rfl
  | some line => simp

theorem frontEvents_closes {table : TypeTable} {lines : List (List Char)} {event : Event}
    (member : event ∈ frontEvents table lines) : event.closes = false := by
  obtain ⟨⟨line, i⟩, read, reported⟩ := List.mem_flatMap.mp member
  have taken := List.mem_zipIdx_iff_getElem?.mp read
  obtain ⟨before, found⟩ := Option.ite_none_right_eq_some.mp (List.getElem?_take ▸ taken)
  have other := classify_ne_code_of_lt before found
  simp only [lineEvents, List.mem_cons, List.not_mem_nil, or_false] at reported
  rcases reported with rfl | rfl
  · rfl
  · rw [outcome_closes]
    exact decide_eq_false other

theorem lineEvents_emits {table : TypeTable} {number : Nat} {line : List Char} {event : Event}
    (member : event ∈ lineEvents table number line) : event.emits = false := by
  simp only [lineEvents, List.mem_cons, List.not_mem_nil, or_false] at member
  rcases member with rfl | rfl
  · rfl
  · exact outcome_emits table number line

/-- The outcome that closes a block is that of the first line of code. -/
def closing? (table : TypeTable) (lines : List (List Char)) : Option Event :=
  lines[codeStart lines]?.map (outcome table (codeStart lines))

theorem outcome_of_code {line : List Char} (code : Line.classify line = .code) (number : Nat) :
    outcome table number line =
      (Line.modelName? line).elim (.unresolvedModel number (String.ofList line))
        (.modelResolved number) := by
  obtain ⟨unskipped, unmarked⟩ := classify_eq_code_iff.mp code
  rw [outcome, unskipped, unmarked]
  cases Line.modelName? line <;> rfl

/-- The events of a scan are open ones, then the one that closes it, if there is one. -/
theorem start_run_events (lines : List (List Char)) :
    ∃ front, (Scan.start.run table sourceId 0 lines).2 = front ++ (closing? table lines).toList ∧
      ∀ event ∈ front, event.closes = false := by
  rw [closing?, Scan.start, Scan.run_events, flatMap_lineEvents_eq]
  cases lines[codeStart lines]? with
  | none => exact ⟨frontEvents table lines, rfl, fun event => frontEvents_closes⟩
  | some line =>
    refine ⟨frontEvents table lines ++ [.lineProcessed (codeStart lines) (String.ofList line)],
      ?_, ?_⟩
    · simp only [Option.elim_some, lineEvents, Option.map_some, Option.toList_some,
        List.append_assoc, List.singleton_append]
    · intro event member
      rcases List.mem_append.mp member with before | processed
      · exact frontEvents_closes before
      · obtain rfl := List.mem_singleton.mp processed
        rfl

/-- The outcome that closes a block, if one does, and what is declared then. -/
inductive Closed (attributes : List Attribute) : Option Event → Option Declaration → Prop where
  | noCode : Closed attributes none none
  | noModel : Closed attributes (some (.unresolvedModel number text)) none
  | model : Closed attributes (some (.modelResolved number model)) (some ⟨model, attributes⟩)

theorem start_run_closed (lines : List (List Char)) :
    ∃ front closing, (Scan.start.run table sourceId 0 lines).2 = front ++ closing.toList ∧
      (∀ event ∈ front, event.closes = false) ∧
      Closed ((Scan.start.run table sourceId 0 lines).1.pending.filterMap (Note.resolve? table))
        closing ((Scan.start.run table sourceId 0 lines).1.declaration? table) := by
  obtain ⟨front, split, quiet⟩ := start_run_events table sourceId lines
  refine ⟨front, closing? table lines, split, quiet, ?_⟩
  rw [Scan.start_run_declaration?, closing?]
  cases last : lines[codeStart lines]? with
  | none => exact .noCode
  | some line =>
    rw [Option.map_some, outcome_of_code table (classify_codeStart last), Option.bind_some]
    cases Line.modelName? line with
    | none => exact .noModel
    | some model => exact .model

/-- In a trace only the closing outcome closes the block. -/
theorem closing_eq_some {front : List Event} {closing : Option Event} {event : Event}
    (quiet : ∀ other ∈ front, other.closes = false)
    (member : event ∈ front ++ closing.toList ++ [.attributesEmitted count])
    (closes : event.closes = true) : closing = some event := by
  simp only [List.mem_append, Option.mem_toList, List.mem_singleton] at member
  rcases member with (before | last) | rfl
  · rw [quiet event before] at closes
    contradiction
  · exact last
  · contradiction

theorem filter_warn_eq {front : List Event} (quiet : ∀ other ∈ front, other.closes = false)
    (closing : Option Event) (count : Nat) :
    (front ++ closing.toList ++ [Event.attributesEmitted count]).filter
        (fun event => event.level = .warn) =
      closing.toList.filter fun event => event.level = .warn := by
  have silent : front.filter (fun event => event.level = .warn) = [] := by
    apply List.filter_eq_nil_iff.mpr
    intro event member
    have still := quiet event member
    cases event <;> simp_all [Event.closes, Event.level]
  rw [List.filter_append, List.filter_append, silent]
  simp [Event.level]

/-- The trace of a text reports every line that is read and all that is declared. -/
theorem reports_ofText (table : TypeTable) (sourceId text : String) :
    ∃ count, Reports table (Text.lines text.toList) (ofText table sourceId text).declaration?
      (ofText table sourceId text).trace count := by
  simp only [ofText]
  generalize Text.lines text.toList = lines
  have grammar := Scan.run_events table sourceId 0 lines []
  have parsed := run_parsed? table sourceId 0 lines []
  rw [← Scan.start, List.filterMap_nil, List.map_nil, List.nil_append] at parsed
  rw [← Scan.start] at grammar
  obtain ⟨front, closing, split, quiet, closed⟩ := start_run_closed table sourceId lines
  generalize (Scan.start.run table sourceId 0 lines).1.declaration? table = declared at *
  generalize ((Scan.start.run table sourceId 0 lines).1.pending.filterMap
    (Note.resolve? table)) = attributes at *
  generalize (Scan.start.run table sourceId 0 lines).2 = events at *
  refine ⟨declared.elim 0 (·.attributes.length), ?_⟩
  constructor
  case grammar =>
    rw [grammar]
    rfl
  case emitted_once =>
    have none_emits : events.filter Event.emits = [] := by
      apply List.filter_eq_nil_iff.mpr
      intro event member
      rw [grammar] at member
      obtain ⟨⟨line, i⟩, _, reported⟩ := List.mem_flatMap.mp member
      simp [lineEvents_emits reported]
    rw [List.filter_append, none_emits]
    rfl
  case closes_last =>
    intro event member closes
    rw [split] at member ⊢
    obtain rfl := closing_eq_some quiet member closes
    exact ⟨front, by simp, quiet⟩
  case resolved =>
    intro number model member
    rw [split] at member
    obtain rfl := closing_eq_some quiet member rfl
    cases closed
    have shown : (events ++ [Event.attributesEmitted attributes.length]).filterMap
        (Event.parsed? table) = attributes.map Attribute.shown := by
      rw [List.filterMap_append, ← parsed]
      exact List.append_nil _
    have length := congrArg List.length shown
    rw [List.length_map] at length
    exact ⟨attributes, rfl, shown.symm, length.symm⟩
  case unresolved =>
    intro absent
    cases closed with
    | noCode | noModel => exact ⟨rfl, rfl⟩
    | @model number model => exact absurd (by simp [split]) (absent number model)
  case warned =>
    intro number text member
    rw [split] at member ⊢
    obtain rfl := closing_eq_some quiet member rfl
    rw [filter_warn_eq quiet]
    rfl
  case unwarned =>
    intro absent
    rw [split, filter_warn_eq quiet]
    cases closed with
    | noCode | model => rfl
    | @noModel number text => exact absurd (by simp [split]) (absent number text)

end Block
end AttributePins

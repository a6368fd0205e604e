import AttributePins.Config.Reader
import AttributePins.Proofs.Json.RoundTrip

/-! Settings that have been written are read back. A written document has each member once, with
the value that the settings have for it; reading one member takes that value into the draft and
leaves the rest of the text, whatever the order of the members. -/
namespace AttributePins.Config

open Json

section Lists

variable {s rest more : List Char}

theorem nextItem?_close (first : Bool) (starts : skipSpace s = ']' :: rest) :
    nextItem? first s = .ok none := by
  simp only [nextItem?, starts]

theorem nextItem?_first {text : String} (starts : skipSpace s = quote text ++ rest) :
    nextItem? true s = .ok (some (quote text ++ rest)) := by
  rw [quote_append] at starts ⊢
  simp [nextItem?, starts]

theorem nextItem?_comma {text : String} (starts : skipSpace s = ',' :: more)
    (follows : skipSpace more = quote text ++ rest) :
    nextItem? false s = .ok (some (quote text ++ rest)) := by
  rw [quote_append] at follows ⊢
  simp [nextItem?, starts, follows]

theorem closeArray_close (starts : skipSpace s = ']' :: rest) : closeArray s = .ok rest := by
  simp only [closeArray, starts]

theorem readText_quote {text : String} (starts : skipSpace s = quote text ++ rest) :
    readText s = .ok (text, rest) := by
  rw [readText, starts, quote_append]
  simp only [readString_quoted, Except.map, String.ofList_toList]

theorem readTexts_of_none {first : Bool} (none : nextItem? first s = .ok none) :
    readTexts first s = (closeArray s).map fun rest => ([], rest) := by
  rw [readTexts]
  split
  all_goals grind

theorem readTexts_of_some {first : Bool} {item : List Char} {text : String}
    (next : nextItem? first s = .ok (some item)) (read : readText item = .ok (text, rest)) :
    readTexts first s = (readTexts false rest).map fun (texts, rest) => (text :: texts, rest) := by
  rw [readTexts]
  split
  all_goals grind

/-- The items behind the first, up to the bracket. -/
theorem readTexts_items (depth outer : Nat) (texts : List String) :
    readTexts false (writeItems depth (texts.map .string) ++ (newline outer ++ ']' :: rest)) =
      .ok (texts, rest) := by
  induction texts with
  | nil =>
    have closed := skipSpace_newline_solid outer (c := ']') rfl rest
    rw [List.map_nil, writeItems, List.nil_append, readTexts_of_none (nextItem?_close false closed),
      closeArray_close closed]
    rfl
  | cons text texts ih =>
    rw [List.map_cons, writeItems, write, List.cons_append, List.append_assoc, List.append_assoc]
    have next := nextItem?_comma (skipSpace_solid rfl _)
      ((skipSpace_newline depth _).trans (skipSpace_quote text (writeItems depth
        (texts.map .string) ++ (newline outer ++ ']' :: rest))))
    rw [readTexts_of_some next (readText_quote (skipSpace_quote text _)), ih]
    rfl

theorem readList_open (starts : skipSpace s = '[' :: rest) : readList s = readTexts true rest := by
  simp only [readList, starts]

/-- A list as it is written at any depth. -/
theorem readList_write (depth : Nat) (texts : List String)
    (starts : skipSpace s = write depth (.array (texts.map .string)) ++ rest) :
    readList s = .ok (texts, rest) := by
  cases texts with
  | nil =>
    rw [List.map_nil, write, List.cons_append, List.singleton_append] at starts
    have closed : skipSpace (']' :: rest) = ']' :: rest := skipSpace_solid rfl rest
    rw [readList_open starts, readTexts_of_none (nextItem?_close true closed),
      closeArray_close closed]
    rfl
  | cons text texts =>
    rw [List.map_cons, write, write, List.cons_append, List.append_assoc, List.append_assoc,
      List.append_assoc, List.append_assoc, List.singleton_append] at starts
    have next := nextItem?_first ((skipSpace_newline (depth + 1) _).trans (skipSpace_quote text
      (writeItems (depth + 1) (texts.map .string) ++ (newline depth ++ ']' :: rest))))
    rw [readList_open starts, readTexts_of_some next (readText_quote (skipSpace_quote text _)),
      readTexts_items]
    rfl

end Lists

section Members

def value (config : Config) : Field → Value
  | .ignores => .array (config.ignores.map .string)
  | .includes => .array (config.includes.map .string)
  | .sourceRoot => .string config.sourceRoot
  | .extensions => .array (config.extensions.map .string)

theorem toJson_eq (config : Config) :
    config.toJson = .object (Field.all.map fun field => (field.name, config.value field)) := rfl

section Starts

variable {s rest more : List Char}

theorem nextMember?_close (first : Bool) (starts : skipSpace s = '}' :: rest) :
    nextMember? first s = .ok none := by
  simp only [nextMember?, starts]

theorem nextMember?_first (starts : skipSpace s = '"' :: rest) :
    nextMember? true s = .ok (some rest) := by
  simp [nextMember?, starts]

theorem nextMember?_comma (starts : skipSpace s = ',' :: more)
    (follows : skipSpace more = '"' :: rest) : nextMember? false s = .ok (some rest) := by
  simp [nextMember?, starts, follows]

theorem closeObject_close (starts : skipSpace s = '}' :: rest) : closeObject s = .ok rest := by
  simp only [closeObject, starts]

end Starts

theorem Field.ofName?_name (field : Field) : ofName? field.name = some field := by
  cases field <;> decide

namespace Draft

/-- A draft that has taken a member from settings. -/
def take (config : Config) (draft : Draft) : Field → Draft
  | .ignores => { draft with ignores := some config.ignores }
  | .includes => { draft with includes := some config.includes }
  | .sourceRoot => { draft with sourceRoot := some config.sourceRoot }
  | .extensions => { draft with extensions := some config.extensions }

variable {config : Config} {draft : Draft} {field : Field} {s rest : List Char}

theorem has_take (other : Field) :
    (draft.take config field).has other = (decide (other = field) || draft.has other) := by
  cases field <;> cases other <;> rfl

theorem read_value (depth : Nat) (starts : skipSpace s = write depth (config.value field) ++ rest) :
    draft.read field s = .ok (draft.take config field, rest) := by
  cases field with
  | ignores => rw [Draft.read, readList_write depth config.ignores starts]; rfl
  | includes => rw [Draft.read, readList_write depth config.includes starts]; rfl
  | extensions => rw [Draft.read, readList_write depth config.extensions starts]; rfl
  | sourceRoot =>
    rw [value, write] at starts
    rw [Draft.read, readText_quote starts]
    rfl

/-- What stands behind the opening quote of a member. -/
def written (config : Config) (depth : Nat) (field : Field) (rest : List Char) : List Char :=
  field.name.toList.flatMap escapeChar ++
    '"' :: ':' :: ' ' :: (write depth (config.value field) ++ rest)

theorem skipSpace_written (config : Config) (depth : Nat) (field : Field) (rest : List Char) :
    skipSpace (newline depth ++ (writeMember depth (field.name, config.value field) ++ rest)) =
      '"' :: written config depth field rest := by
  rw [skipSpace_member, writeMember_append, quote_append, written]

/-- A member that is not in the draft yet is taken into it. -/
theorem readMember_written (depth : Nat) (fresh : draft.has field = false) :
    draft.readMember (written config depth field rest) = .ok (draft.take config field, rest) := by
  have colon : afterColon (':' :: ' ' :: (write depth (config.value field) ++ rest)) =
      .ok (' ' :: (write depth (config.value field) ++ rest)) := rfl
  have read : draft.read field (' ' :: (write depth (config.value field) ++ rest)) = _ :=
    read_value depth ((skipSpace_space rfl _).trans (skipSpace_write ..))
  simp only [readMember, written, readString_quoted, bind, Except.bind, String.ofList_toList,
    Field.ofName?_name, fresh, Bool.false_eq_true, if_false, colon, read]

theorem readMembers_of_none {first : Bool} (none : nextMember? first s = .ok none) :
    draft.readMembers first s = (closeObject s).map fun rest => (draft, rest) := by
  rw [readMembers]
  split
  all_goals grind

theorem readMembers_of_some {first : Bool} {member : List Char} {next : Draft}
    (some : nextMember? first s = .ok (some member))
    (read : draft.readMember member = .ok (next, rest)) :
    draft.readMembers first s = next.readMembers false rest := by
  rw [readMembers]
  split
  all_goals grind

/-- What is still to be read is fresh once a member in front of it has been taken. -/
theorem fresh_take {fields : List Field} (once : (field :: fields).Nodup)
    (fresh : ∀ other ∈ field :: fields, draft.has other = false) :
    ∀ other ∈ fields, (draft.take config field).has other = false := by
  intro other member
  have distinct : other ≠ field := fun same => (List.nodup_cons.mp once).1 (same ▸ member)
  rw [has_take, decide_eq_false distinct, Bool.false_or,
    fresh other (List.mem_cons_of_mem field member)]

/-- Members with their names and values, as an object has them. -/
def pairs (config : Config) (fields : List Field) : List (String × Value) :=
  fields.map fun field => (field.name, config.value field)

/-- The members behind the first, up to the brace: each is taken, as long as none of them has
been read and none is repeated. -/
theorem readMembers_rest (depth outer : Nat) {fields : List Field} (once : fields.Nodup)
    (fresh : ∀ field ∈ fields, draft.has field = false) :
    draft.readMembers false
        (writeMembers depth (pairs config fields) ++ (newline outer ++ '}' :: rest)) =
      .ok (fields.foldl (take config) draft, rest) := by
  induction fields generalizing draft with
  | nil =>
    have closed := skipSpace_newline_solid outer (c := '}') rfl rest
    rw [pairs, List.map_nil, writeMembers, List.nil_append,
      readMembers_of_none (nextMember?_close false closed), closeObject_close closed]
    rfl
  | cons field fields ih =>
    rw [pairs, List.map_cons, writeMembers, List.cons_append, List.append_assoc, List.append_assoc]
    rw [readMembers_of_some (nextMember?_comma (skipSpace_solid rfl _) (skipSpace_written ..))
      (readMember_written depth (fresh field List.mem_cons_self))]
    exact ih once.of_cons (fresh_take once fresh)

/-- All members, from behind the opening brace on. -/
theorem readMembers_all (config : Config) (rest : List Char) (depth outer : Nat)
    {fields : List Field} (once : (field :: fields).Nodup)
    (fresh : ∀ other ∈ field :: fields, draft.has other = false) :
    draft.readMembers true
        (newline depth ++ (writeMember depth (field.name, config.value field) ++
          (writeMembers depth (pairs config fields) ++ (newline outer ++ '}' :: rest)))) =
      .ok ((field :: fields).foldl (take config) draft, rest) := by
  rw [readMembers_of_some (nextMember?_first (skipSpace_written ..))
      (readMember_written depth (fresh field List.mem_cons_self)),
    readMembers_rest depth outer once.of_cons (fresh_take once fresh), List.foldl_cons]

end Draft

/-- Settings that were written, whatever their texts and however many, are read back. -/
theorem decode_render (config : Config) : decode config.render = .ok config := by
  have text : skipSpace config.render.toList = '{' :: (newline 1 ++
      (writeMember 1 (Field.ignores.name, config.value .ignores) ++ (writeMembers 1
        (Draft.pairs config [.includes, .sourceRoot, .extensions]) ++ (newline 0 ++ ['}'])))) := by
    rw [render, Json.render, String.toList_ofList, toJson_eq, Field.all, List.map_cons, write,
      skipSpace_solid rfl]
    simp only [List.append_assoc, Draft.pairs]
  have untouched : ∀ field ∈ Field.all, Draft.has {} field = false := by decide
  have read := Draft.readMembers_all config [] 1 0 (by decide) untouched
  simp only [decode, text, read, bind, Except.bind]
  rfl

end Members

end AttributePins.Config

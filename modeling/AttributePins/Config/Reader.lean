import AttributePins.Config
import AttributePins.Json.Skip

/-! Reading settings. A document is an object with any of the four members, where
members of other names are skipped, or an array of the members' values in order.
What is missing takes its default. The first fault in the order of the text counts;
a repeated member is one as soon as its name has been read. -/
namespace AttributePins.Config

open Json

/-- The members of a settings document. -/
inductive Field where
  | ignores
  | includes
  | sourceRoot
  | extensions
deriving DecidableEq, Repr

def Field.name : Field → String
  | .ignores => "ignores"
  | .includes => "includes"
  | .sourceRoot => "sourceRoot"
  | .extensions => "extensions"

/-- The members in the order of the array form. -/
def Field.all : List Field := [.ignores, .includes, .sourceRoot, .extensions]

def Field.ofName? (name : String) : Option Field := all.find? fun field => field.name = name

/-- The members that have been read. -/
structure Draft where
  ignores : Option (List String) := none
  includes : Option (List String) := none
  sourceRoot : Option String := none
  extensions : Option (List String) := none
deriving DecidableEq, Repr

def Draft.has (draft : Draft) : Field → Bool
  | .ignores => draft.ignores.isSome
  | .includes => draft.includes.isSome
  | .sourceRoot => draft.sourceRoot.isSome
  | .extensions => draft.extensions.isSome

/-- The settings of a draft, with defaults for what is missing. -/
def Draft.finish (draft : Draft) : Config where
  ignores := draft.ignores.getD Config.default.ignores
  includes := draft.includes.getD Config.default.includes
  sourceRoot := draft.sourceRoot.getD Config.default.sourceRoot
  extensions := draft.extensions.getD Config.default.extensions

def readText (s : List Char) : Except Fault (String × List Char) :=
  match skipSpace s with
  | '"' :: rest => (readString rest).map fun (text, rest) => (String.ofList text, rest)
  | other => .error (wrongValue other)

/-- Where the next item of an array starts: none at the closing bracket. -/
def nextItem? (first : Bool) (s : List Char) : Except Fault (Option (List Char)) :=
  match skipSpace s with
  | [] => .error .truncated
  | ']' :: _ => .ok none
  | c :: rest =>
    if first then .ok (some (c :: rest))
    else if c = ',' then
      match skipSpace rest with
      | [] => .error .truncated
      | ']' :: _ => .error .malformed
      | item => .ok (some item)
    else .error .malformed

/-- What follows the closing bracket of an array without further items. -/
def closeArray (s : List Char) : Except Fault (List Char) :=
  match skipSpace s with
  | [] => .error .truncated
  | ']' :: rest => .ok rest
  | _ => .error .malformed

theorem length_of_readText {s rest : List Char} {text : String}
    (h : readText s = .ok (text, rest)) : rest.length < s.length := by
  unfold readText at h
  split at h
  · rename_i tail eq
    have := length_of_skipSpace eq
    cases found : readString tail with
    | error fault => simp [found, Except.map] at h
    | ok pair =>
      have := length_of_readString found
      grind [Except.map]
  · simp at h

theorem length_of_nextItem? {first : Bool} {s item : List Char}
    (h : nextItem? first s = .ok (some item)) : item.length ≤ s.length := by
  unfold nextItem? at h
  split at h
  · simp at h
  · simp at h
  · rename_i c rest _ eq
    have := length_of_skipSpace eq
    have := length_skipSpace_le rest
    grind

def readTexts (first : Bool) (s : List Char) : Except Fault (List String × List Char) :=
  match h : nextItem? first s with
  | .error fault => .error fault
  | .ok none => (closeArray s).map fun rest => ([], rest)
  | .ok (some item) =>
    have := length_of_nextItem? h
    match k : readText item with
    | .error fault => .error fault
    | .ok (text, rest) =>
      have := length_of_readText k
      (readTexts false rest).map fun (texts, rest) => (text :: texts, rest)
termination_by s.length

def readList (s : List Char) : Except Fault (List String × List Char) :=
  match skipSpace s with
  | '[' :: rest => readTexts true rest
  | other => .error (wrongValue other)

def Draft.read (draft : Draft) (field : Field) (s : List Char) :
    Except Fault (Draft × List Char) :=
  match field with
  | .ignores => (readList s).map fun (v, rest) => ({ draft with ignores := some v }, rest)
  | .includes => (readList s).map fun (v, rest) => ({ draft with includes := some v }, rest)
  | .sourceRoot => (readText s).map fun (v, rest) => ({ draft with sourceRoot := some v }, rest)
  | .extensions => (readList s).map fun (v, rest) => ({ draft with extensions := some v }, rest)

/-- Read a member behind the opening quote of its name. -/
def Draft.readMember (draft : Draft) (s : List Char) : Except Fault (Draft × List Char) := do
  let (name, rest) ← readString s
  match Field.ofName? (String.ofList name) with
  | some field =>
    if draft.has field then .error .mismatched
    else
      let rest ← afterColon rest
      draft.read field rest
  | none =>
    let rest ← afterColon rest
    let rest ← skipValue [] rest
    .ok (draft, rest)

/-- Where the next member of an object starts, behind the quote of its name: none at
the closing brace. -/
def nextMember? (first : Bool) (s : List Char) : Except Fault (Option (List Char)) :=
  match skipSpace s with
  | [] => .error .truncated
  | '}' :: _ => .ok none
  | c :: rest =>
    if first then if c = '"' then .ok (some rest) else .error .malformed
    else if c = ',' then
      match skipSpace rest with
      | [] => .error .truncated
      | '"' :: rest => .ok (some rest)
      | _ => .error .malformed
    else .error .malformed

def closeObject (s : List Char) : Except Fault (List Char) :=
  match skipSpace s with
  | [] => .error .truncated
  | '}' :: rest => .ok rest
  | _ => .error .malformed

theorem length_of_nextMember? {first : Bool} {s rest : List Char}
    (h : nextMember? first s = .ok (some rest)) : rest.length < s.length := by
  unfold nextMember? at h
  split at h
  · simp at h
  · simp at h
  · rename_i c tail _ eq
    have := length_of_skipSpace eq
    split at h
    · grind
    · split at h
      · split at h
        · simp at h
        · rename_i eq
          have := length_of_skipSpace eq
          grind
        · simp at h
      · simp at h

theorem length_of_closeArray {s rest : List Char} (h : closeArray s = .ok rest) :
    rest.length ≤ s.length := by
  unfold closeArray at h
  split at h
  · simp at h
  · rename_i eq
    have := length_of_skipSpace eq
    grind
  · simp at h

theorem length_of_readTexts {first : Bool} {s rest : List Char} {texts : List String}
    (h : readTexts first s = .ok (texts, rest)) : rest.length ≤ s.length := by
  fun_induction readTexts first s generalizing texts with
  | case1 => simp at h
  | case2 first s next =>
    cases found : closeArray s with
    | error fault => simp [found, Except.map] at h
    | ok after =>
      have := length_of_closeArray found
      grind [Except.map]
  | case3 => simp at h
  | case4 first s item next shorter text after read this ih =>
    cases found : readTexts false after with
    | error fault => simp [found, Except.map] at h
    | ok pair =>
      have same : readTexts false after = .ok (pair.1, rest) := by grind [Except.map]
      have := ih same
      omega

theorem length_of_readList {s rest : List Char} {texts : List String}
    (h : readList s = .ok (texts, rest)) : rest.length ≤ s.length := by
  unfold readList at h
  split at h
  · rename_i eq
    have := length_of_skipSpace eq
    have := length_of_readTexts h
    omega
  · simp at h

theorem length_of_read {draft next : Draft} {field : Field} {s rest : List Char}
    (h : draft.read field s = .ok (next, rest)) : rest.length ≤ s.length := by
  have lists {f : List String → Draft}
      (h : (readList s).map (fun (v, rest) => (f v, rest)) = .ok (next, rest)) :
      rest.length ≤ s.length := by
    cases found : readList s with
    | error fault => simp [found, Except.map] at h
    | ok pair =>
      have := length_of_readList found
      grind [Except.map]
  cases field with
  | ignores => exact lists (f := fun v => { draft with ignores := some v }) h
  | includes => exact lists (f := fun v => { draft with includes := some v }) h
  | extensions => exact lists (f := fun v => { draft with extensions := some v }) h
  | sourceRoot =>
    cases found : readText s with
    | error fault => simp [Draft.read, found, Except.map] at h
    | ok pair =>
      have := length_of_readText found
      grind [Draft.read, Except.map]

theorem length_of_readMember {draft next : Draft} {s rest : List Char}
    (h : draft.readMember s = .ok (next, rest)) : rest.length ≤ s.length := by
  simp only [Draft.readMember, bind, Except.bind] at h
  split at h
  · simp at h
  · rename_i pair name
    have := length_of_readString name
    split at h
    · split at h
      · simp at h
      · split at h
        · simp at h
        · rename_i colon
          have := length_of_afterColon colon
          have := length_of_read h
          omega
    · split at h
      · simp at h
      · rename_i colon
        have := length_of_afterColon colon
        split at h
        · simp at h
        · rename_i skipped
          have := length_of_skipValue skipped
          grind

def Draft.readMembers (draft : Draft) (first : Bool) (s : List Char) :
    Except Fault (Draft × List Char) :=
  match h : nextMember? first s with
  | .error fault => .error fault
  | .ok none => (closeObject s).map fun rest => (draft, rest)
  | .ok (some member) =>
    have := length_of_nextMember? h
    match k : draft.readMember member with
    | .error fault => .error fault
    | .ok (draft, rest) =>
      have := length_of_readMember k
      draft.readMembers false rest
termination_by s.length

/-- Read the values of members, as far as an array has items. -/
def Draft.readValues (draft : Draft) (first : Bool) :
    List Field → List Char → Except Fault (Draft × List Char)
  | [], s => (closeArray s).map fun rest => (draft, rest)
  | field :: fields, s => do
    match ← nextItem? first s with
    | none => draft.readValues first fields s
    | some item =>
      let (draft, rest) ← draft.read field item
      draft.readValues false fields rest

def decode (text : String) : Except Fault Config := do
  let (draft, rest) ←
    match skipSpace text.toList with
    | '{' :: rest => Draft.readMembers {} true rest
    | '[' :: rest => Draft.readValues {} true Field.all rest
    | other => .error (wrongValue other)
  if (skipSpace rest).isEmpty then .ok draft.finish else .error .malformed

end AttributePins.Config

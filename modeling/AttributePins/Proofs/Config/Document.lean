import AttributePins.Proofs.Config.Members

/-! Settings documents as texts. What is read depends on the known members alone: each is taken
once, with the value that it spells, and what is missing has its default. The order of the members,
the members of other names, whatever they hold, and the white space between them make no
difference, and an array stands for the object that has its items as members. -/
namespace AttributePins.Config

open Json

section Texts

/-- White space as a part of a text. -/
abbrev Space := { s : List Char // IsSpace s }

/-- The label of a member, and the name that it spells. -/
inductive Names : List Char → String → Prop where
  | name {lead name gap : List Char} {key : String} (space : IsSpace lead)
      (spelled : Spells name key.toList) (behind : IsSpace gap) :
      Names (lead ++ '"' :: (name ++ '"' :: (gap ++ [':']))) key

structure Entry where
  part : Part
  key : String
  named : Names part.label key
  before : IsSpace part.before
  after : IsSpace part.after
  valid : IsValue part.value

structure Item where
  part : Part
  fits : part.Fits .array
  valid : IsValue part.value

/-- The white space of a text at whose top a container stands. -/
structure Layout where
  before : Space
  inside : Space
  after : Space

def Layout.text (layout : Layout) (frame : Frame) (parts : List Part) : String :=
  String.ofList (layout.before ++ (frame.opener :: (layout.inside ++
    ([','].intercalate (parts.map Part.text) ++ [frame.closer])) ++ layout.after))

structure ObjectText extends Layout where
  entries : List Entry

structure ArrayText extends Layout where
  items : List Item

def ObjectText.text (document : ObjectText) : String :=
  document.toLayout.text .object (document.entries.map Entry.part)

/-- A known member, with the text of its value. -/
def Entry.known? (entry : Entry) : Option (Field × List Char) :=
  (Field.ofName? entry.key).map fun field => (field, entry.part.value)

/-- The known members of an object in order, with the texts of their values. -/
def ObjectText.known (document : ObjectText) : List (Field × List Char) :=
  document.entries.filterMap Entry.known?

def ArrayText.text (list : ArrayText) : String :=
  list.toLayout.text .array (list.items.map Item.part)

def ArrayText.values (list : ArrayText) : List (List Char) :=
  list.items.map fun item => item.part.value

/-- A label in front of a text. -/
theorem Names.append {label : List Char} {key : String} (named : Names label key) :
    ∃ lead name gap, IsSpace lead ∧ Spells name key.toList ∧ IsSpace gap ∧
      ∀ rest, label ++ rest = lead ++ '"' :: (name ++ '"' :: (gap ++ ':' :: rest)) := by
  cases named with
  | name space spelled behind => exact ⟨_, _, _, space, spelled, behind, fun rest => by simp⟩

theorem Layout.toList_text (layout : Layout) (frame : Frame) (parts : List Part) :
    (layout.text frame parts).toList =
      layout.before ++
        frame.opener :: (layout.inside ++ following true frame parts layout.after) := by
  rw [Layout.text, String.toList_ofList, container_append]

def Layout.bare : Layout := ⟨⟨[], isSpace_nil⟩, ⟨[], isSpace_nil⟩, ⟨[], isSpace_nil⟩⟩

/-- A member without white space whose name is spelled as it is. -/
def Entry.bare (key : String) (bare : key.toList.all isBare = true) {value : List Char}
    (valid : IsValue value) : Entry where
  part := ⟨[] ++ '"' :: (key.toList ++ '"' :: ([] ++ [':'])), [], value, []⟩
  key := key
  named := .name isSpace_nil (spells_self bare) isSpace_nil
  before := isSpace_nil
  after := isSpace_nil
  valid := valid

def Item.bare {value : List Char} (valid : IsValue value) : Item :=
  ⟨⟨[], [], value, []⟩, ⟨.item, isSpace_nil, isSpace_nil⟩, valid⟩

end Texts

theorem ok_eq_iff {draft next : Draft} {rest rest' : List Char} :
    (Except.ok (draft, rest) : Except Fault (Draft × List Char)) = .ok (next, rest') ↔
      next = draft ∧ rest' = rest := by
  rw [Except.ok.injEq, Prod.mk.injEq, eq_comm, @eq_comm _ rest]

section Members

variable {draft next : Draft} {s rest rest' gap lead more member : List Char} {first : Bool}

/-- The next member starts behind a comma, if it is not the first, and behind white space. -/
theorem nextMember?_quote (first : Bool) (space : IsSpace gap) (led : IsSpace lead) :
    nextMember? first (gap ++ (comma first ++ (lead ++ '"' :: more))) = .ok (some more) := by
  have quote : skipSpace (lead ++ '"' :: more) = '"' :: more := skipSpace_to led rfl more
  cases first with
  | true => exact nextMember?_first (by rw [comma_append_first, skipSpace_gap space, quote])
  | false => exact nextMember?_comma (by rw [comma_append_next, skipSpace_to space rfl]) quote

theorem exists_of_nextMember?_none (none : nextMember? first s = .ok none) :
    ∃ gap rest, IsSpace gap ∧ s = gap ++ '}' :: rest := by
  obtain ⟨gap, space, same⟩ := exists_skipSpace s
  unfold nextMember? at none
  split at none
  · contradiction
  · rename_i rest closes
    exact ⟨gap, rest, space, by rw [same, closes]⟩
  · grind

theorem exists_of_nextMember?_some (some : nextMember? first s = .ok (some member)) :
    ∃ gap lead, IsSpace gap ∧ IsSpace lead ∧
      s = gap ++ (comma first ++ (lead ++ '"' :: member)) := by
  obtain ⟨gap, space, same⟩ := exists_skipSpace s
  unfold nextMember? at some
  split at some
  · contradiction
  · cases some
  · rename_i c tail _ starts
    rw [starts] at same
    split at some
    · rename_i first
      subst first
      split at some
      · rename_i quote
        cases some
        exact ⟨gap, [], space, isSpace_nil, quote ▸ same⟩
      · contradiction
    · rename_i next
      obtain rfl := Bool.eq_false_iff.mpr next
      obtain ⟨lead, led, after⟩ := exists_skipSpace tail
      split at some
      · rename_i comma
        subst comma
        split at some
        · contradiction
        · rename_i quote
          cases some
          exact ⟨gap, lead, space, led, by rw [comma_append_next, ← quote, ← after, same]⟩
        · contradiction
      · contradiction

theorem afterColon_gap (space : IsSpace gap) (rest : List Char) :
    afterColon (gap ++ ':' :: rest) = .ok rest := by
  simp only [afterColon, skipSpace_to space (c := ':') rfl]

theorem exists_of_afterColon (colon : afterColon s = .ok rest) :
    ∃ gap, IsSpace gap ∧ s = gap ++ ':' :: rest := by
  obtain ⟨gap, space, same⟩ := exists_skipSpace s
  unfold afterColon at colon
  split at colon
  · rename_i found
    cases colon
    exact ⟨gap, space, by rw [same, found]⟩
  · contradiction
  · contradiction

/-- A member is read from behind its first quote. A known one takes its value, if it has not been
read yet; the value of any other is skipped. -/
theorem readMember_iff {name value before : List Char} {key : String}
    (spelled : Spells name key.toList) (space : IsSpace gap) (blank : IsSpace before)
    (valid : IsValue value) (ends : endsNumber rest = true) :
    draft.readMember (name ++ '"' :: (gap ++ ':' :: (before ++ (value ++ rest)))) =
        .ok (next, rest') ↔
      draft.Takes ((Field.ofName? key).map fun field => (field, value)).toList next ∧
        rest' = rest := by
  simp only [Draft.readMember, readString_of_spells spelled, bind, Except.bind,
    String.ofList_toList, afterColon_gap space]
  cases Field.ofName? key with
  | none =>
    simp only [skips_of_isValue valid blank fun _ => ends, skipRest_nil, Option.map_none,
      Option.toList_none, Draft.Takes, ok_eq_iff]
  | some field =>
    simp only [Option.map_some, Option.toList_some, Draft.Takes]
    split
    · rename_i taken
      simp [taken]
    · rename_i fresh
      rw [Draft.read_iff valid blank ends]
      simp [fresh]

/-- Where a member follows, it is read and then the others. -/
theorem readMembers_iff_of_some (some : nextMember? first s = .ok (some member)) :
    draft.readMembers first s = .ok (next, rest) ↔
      ∃ mid after, draft.readMember member = .ok (mid, after) ∧
        mid.readMembers false after = .ok (next, rest) := by
  cases read : draft.readMember member with
  | ok pair =>
    rw [Draft.readMembers_of_some some read]
    grind
  | error fault =>
    rw [Draft.readMembers]
    split
    all_goals grind

/-- The members that are still to come are read up to the end of the object. -/
theorem readMembers_iff (entries : List Entry) (first : Bool) (space : IsSpace gap) :
    draft.readMembers first (gap ++ following first .object (entries.map Entry.part) rest) =
        .ok (next, rest') ↔
      draft.Takes (entries.filterMap Entry.known?) next ∧ rest' = rest := by
  induction entries generalizing draft first gap with
  | nil =>
    have closes : skipSpace (gap ++ following first .object [] rest) = '}' :: rest :=
      skipSpace_end first .object space rest
    rw [List.map_nil, Draft.readMembers_of_none (nextMember?_close first closes),
      closeObject_close closes]
    simp only [Except.map, ok_eq_iff, List.filterMap_nil, Draft.Takes]
  | cons entry entries ih =>
    have members : (entry :: entries).filterMap Entry.known? =
        entry.known?.toList ++ entries.filterMap Entry.known? := by
      cases known : entry.known? <;> simp [known]
    rw [members, Draft.takes_append]
    obtain ⟨part, key, named, blank, last, valid⟩ := entry
    obtain ⟨lead, name, behind, led, spelled, colon, label⟩ := named.append
    have ends := endsNumber_gap last (endsNumber_following .object (entries.map Entry.part) rest)
    rw [List.map_cons, following_cons, label,
      readMembers_iff_of_some (nextMember?_quote first space led)]
    simp only [readMember_iff spelled colon blank valid ends]
    constructor
    · rintro ⟨mid, _, ⟨takes, rfl⟩, others⟩
      obtain ⟨later, rfl⟩ := (ih false last).mp others
      exact ⟨⟨mid, takes, later⟩, rfl⟩
    · rintro ⟨⟨mid, takes, later⟩, rfl⟩
      exact ⟨mid, _, ⟨takes, rfl⟩, (ih false last).mpr ⟨later, rfl⟩⟩

theorem exists_of_readMember (read : draft.readMember s = .ok (next, rest)) :
    ∃ name, ∃ key : String, ∃ gap before value, Spells name key.toList ∧ IsSpace gap ∧
      IsSpace before ∧ IsValue value ∧
        s = name ++ '"' :: (gap ++ ':' :: (before ++ (value ++ rest))) := by
  simp only [Draft.readMember, bind, Except.bind] at read
  split at read
  · contradiction
  · rename_i pair named
    obtain ⟨key, tail⟩ := pair
    obtain ⟨name, spelled, rfl⟩ := spells_of_readString named
    obtain ⟨gap, before, value, space, blank, valid, after⟩ : ∃ gap before value, IsSpace gap ∧
        IsSpace before ∧ IsValue value ∧ tail = gap ++ ':' :: (before ++ (value ++ rest)) := by
      split at read
      · split at read
        · contradiction
        · split at read
          · contradiction
          · rename_i colon
            obtain ⟨gap, space, rfl⟩ := exists_of_afterColon colon
            obtain ⟨before, value, blank, valid, rfl⟩ := Draft.exists_of_read read
            exact ⟨gap, before, value, space, blank, valid, rfl⟩
      · split at read
        · contradiction
        · rename_i colon
          obtain ⟨gap, space, rfl⟩ := exists_of_afterColon colon
          split at read
          · contradiction
          · rename_i skipped
            cases read
            obtain ⟨before, value, blank, valid, rfl⟩ := exists_of_skipValue skipped
            exact ⟨gap, before, value, space, blank, valid, rfl⟩
    exact ⟨name, String.ofList key, gap, before, value, by simpa using spelled, space, blank, valid,
      by rw [after]⟩

/-- What has been read as members is an object's text. -/
theorem exists_of_readMembers (read : draft.readMembers first s = .ok (next, rest)) :
    ∃ gap, ∃ entries : List Entry, IsSpace gap ∧
      s = gap ++ following first .object (entries.map Entry.part) rest := by
  fun_induction Draft.readMembers draft first s with
  | case1 => contradiction
  | case2 draft first s none =>
    obtain ⟨gap, tail, space, rfl⟩ := exists_of_nextMember?_none none
    rw [closeObject_close (skipSpace_to space rfl tail)] at read
    cases read
    exact ⟨gap, [], space, by rw [List.map_nil, following_nil]; rfl⟩
  | case3 => contradiction
  | case4 draft first s member some _ mid after here _ ih =>
    obtain ⟨gap, lead, space, led, rfl⟩ := exists_of_nextMember?_some some
    obtain ⟨behind, entries, space', rfl⟩ := ih read
    obtain ⟨name, key, colon, before, value, spelled, blank, inner, valid, rfl⟩ :=
      exists_of_readMember here
    refine ⟨gap, ⟨⟨_, before, value, behind⟩, key, .name led spelled blank, inner, space', valid⟩ ::
      entries, space, ?_⟩
    rw [List.map_cons, following_cons]
    simp

end Members

section Items

variable {draft next : Draft} {s rest rest' gap : List Char}

theorem closeArray_value {c : Char} {more : List Char} (starts : skipSpace s = c :: more)
    (item : c ≠ ']') : closeArray s = .error .malformed := by
  simp [closeArray, starts, item]

/-- Where an item follows, it is read as the value of the next member, and then the others. -/
theorem readValues_iff_of_some {first : Bool} {field : Field} {fields : List Field}
    {item : List Char} (some : nextItem? first s = .ok (some item)) :
    draft.readValues first (field :: fields) s = .ok (next, rest) ↔
      ∃ mid after, draft.read field item = .ok (mid, after) ∧
        mid.readValues false fields after = .ok (next, rest) := by
  simp only [Draft.readValues, some, bind, Except.bind]
  cases draft.read field item with
  | ok pair => grind
  | error fault => simp

/-- What is still to come of an array that has items does not start with its end. -/
theorem exists_of_following (first : Bool) (space : IsSpace gap) (item : Item) (parts : List Part)
    (rest : List Char) :
    ∃ c more, skipSpace (gap ++ following first .array (item.part :: parts) rest) = c :: more ∧
      c ≠ ']' := by
  obtain ⟨c, more, same, starts⟩ := item.valid.exists_cons
  obtain ⟨solid, other, -⟩ := startsValue_iff.mp starts
  rw [following_cons, skipSpace_gap space]
  cases first with
  | false => exact ⟨',', _, rfl, by decide⟩
  | true =>
    rw [comma_append_first, item.fits.label.eq_nil, List.nil_append, same, List.cons_append,
      skipSpace_to item.fits.before solid]
    exact ⟨c, _, rfl, other⟩

/-- The items that are still to come are read as the values of members, as many as there are, up to
the end of the array. -/
theorem readValues_iff {fields : List Field} (once : fields.Nodup)
    (fresh : ∀ field ∈ fields, draft.has field = false) (items : List Item) (first : Bool)
    (space : IsSpace gap) :
    draft.readValues first fields (gap ++ following first .array (items.map Item.part) rest) =
        .ok (next, rest') ↔
      (items.length ≤ fields.length ∧
        draft.Takes (fields.zip (items.map fun item => item.part.value)) next) ∧ rest' = rest := by
  induction fields generalizing draft first items gap with
  | nil =>
    rw [Draft.readValues]
    cases items with
    | nil =>
      have closes : skipSpace (gap ++ following first .array [] rest) = ']' :: rest :=
        skipSpace_end first .array space rest
      rw [List.map_nil, List.map_nil, closeArray_close closes, List.zip_nil_left, Draft.Takes,
        List.length_nil]
      simp only [Except.map, ok_eq_iff, Nat.zero_le, true_and]
    | cons item items =>
      obtain ⟨c, more, starts, other⟩ := exists_of_following first space item
        (items.map Item.part) rest
      rw [List.map_cons, closeArray_value starts other]
      simp [Except.map]
  | cons field fields ih =>
    cases items with
    | nil =>
      have closes : skipSpace (gap ++ following first .array [] rest) = ']' :: rest :=
        skipSpace_end first .array space rest
      have others := ih once.of_cons (fun other member => fresh other (List.mem_cons_of_mem field
        member)) [] first space
      rw [List.map_nil] at others ⊢
      simp only [Draft.readValues, nextItem?_close first closes, bind, Except.bind, others]
      simp
    | cons item items =>
      obtain ⟨c, more, same, starts⟩ := item.valid.exists_cons
      have ends := item.fits.ends (items.map Item.part) rest
      have next := nextItem?_value first space item.fits.before starts (more ++
        (item.part.after ++ following false .array (items.map Item.part) rest))
      rw [← List.cons_append, ← same] at next
      have here {mid : Draft} {tail : List Char} :
          draft.read field (item.part.value ++
              (item.part.after ++ following false .array (items.map Item.part) rest)) =
                .ok (mid, tail) ↔
            (∃ config, Spelt config field item.part.value ∧ mid = draft.take config field) ∧
              tail = item.part.after ++ following false .array (items.map Item.part) rest := by
        rw [← Draft.read_iff item.valid isSpace_nil ends, List.nil_append]
      have untaken {config : Config} :
          ∀ other ∈ fields, (draft.take config field).has other = false :=
        Draft.fresh_take once fresh
      rw [List.map_cons, following_cons, item.fits.label.eq_nil, List.nil_append,
        readValues_iff_of_some next]
      simp only [here, List.map_cons, List.zip_cons_cons, List.length_cons, Draft.Takes,
        Nat.add_le_add_iff_right]
      constructor
      · rintro ⟨_, _, ⟨⟨config, spelt, rfl⟩, rfl⟩, read⟩
        obtain ⟨⟨few, takes⟩, rfl⟩ := (ih once.of_cons untaken items false item.fits.after).mp read
        exact ⟨⟨few, fresh field List.mem_cons_self, config, spelt, takes⟩, rfl⟩
      · rintro ⟨⟨few, -, config, spelt, takes⟩, rfl⟩
        exact ⟨_, _, ⟨⟨config, spelt, rfl⟩, rfl⟩,
          (ih once.of_cons untaken items false item.fits.after).mpr ⟨⟨few, takes⟩, rfl⟩⟩

end Items

section Decoding

variable {config : Config}

/-- What is left of a draft makes settings, if nothing but white space follows. -/
theorem finish_iff {reading : Except Fault (Draft × List Char)} {Taken : Draft → Prop}
    {after : Space} (reads : ∀ {next rest}, reading = .ok (next, rest) ↔
      Taken next ∧ rest = after) :
    (do
      let (draft, rest) ← reading
      if (skipSpace rest).isEmpty then .ok draft.finish else .error .malformed) =
        (Except.ok config : Except Fault Config) ↔
      ∃ next, Taken next ∧ next.finish = config := by
  have blank : (skipSpace after).isEmpty = true := isEmpty_skipSpace_iff.mpr after.2
  cases reading with
  | error fault =>
    have none (next : Draft) : ¬Taken next := fun taken => by cases reads.mpr ⟨taken, rfl⟩
    simp [none, bind, Except.bind]
  | ok pair =>
    obtain ⟨draft, rest⟩ := pair
    obtain ⟨taken, rfl⟩ := reads.mp rfl
    have only (next : Draft) : Taken next ↔ next = draft :=
      ⟨fun taken => by cases reads.mpr ⟨taken, rfl⟩; rfl, fun same => same ▸ taken⟩
    simp [only, blank, bind, Except.bind]

/-- An object is decoded exactly to the settings that hold of its known members. -/
theorem decode_object_iff (document : ObjectText) :
    decode document.text = .ok config ↔ Holds config document.known := by
  rw [← Draft.takes_iff_holds, decode, ObjectText.text, Layout.toList_text, Frame.opener,
    skipSpace_to document.before.2 rfl]
  exact finish_iff (readMembers_iff document.entries true document.inside.2)

/-- An array is decoded exactly to the settings that hold of its items, as the members in order. -/
theorem decode_array_iff (list : ArrayText) :
    decode list.text = .ok config ↔
      list.items.length ≤ Field.all.length ∧ Holds config (Field.all.zip list.values) := by
  have untouched : ∀ field ∈ Field.all, Draft.has {} field = false := by decide
  rw [← Draft.takes_iff_holds, ← exists_and_left, decode, ArrayText.text, Layout.toList_text,
    Frame.opener, skipSpace_to list.before.2 rfl]
  simp only [← and_assoc]
  exact finish_iff (readValues_iff (by decide) untouched list.items true list.inside.2)

/-- Every text that is decoded and starts with a brace is an object's. -/
theorem exists_of_decode {text : String} {rest : List Char}
    (starts : skipSpace text.toList = '{' :: rest) (decoded : decode text = .ok config) :
    ∃ document : ObjectText, document.text = text := by
  obtain ⟨before, space, same⟩ := exists_skipSpace text.toList
  simp only [decode, starts, bind, Except.bind] at decoded
  split at decoded
  · contradiction
  · rename_i pair read
    obtain ⟨draft, after⟩ := pair
    obtain ⟨inside, entries, blank, rfl⟩ := exists_of_readMembers read
    split at decoded
    · rename_i ends
      have behind : IsSpace after := isEmpty_skipSpace_iff.mp ends
      refine ⟨⟨⟨⟨before, space⟩, ⟨inside, blank⟩, ⟨after, behind⟩⟩, entries⟩, ?_⟩
      rw [← String.toList_inj, ObjectText.text, Layout.toList_text, same, starts]
      rfl
    · contradiction

/-- Objects with the same known members, in any order, are decoded to the same settings. -/
theorem decode_iff_of_known {document other : ObjectText}
    (perm : other.known.Perm document.known) :
    decode other.text = .ok config ↔ decode document.text = .ok config := by
  rw [decode_object_iff, decode_object_iff]
  exact ⟨fun holds => holds.perm perm, fun holds => holds.perm perm.symm⟩

/-- A member of another name is none of the known ones. -/
theorem ObjectText.known_insert {document other : ObjectText} {entry : Entry}
    {front back : List Entry} (without : document.entries = front ++ back)
    (inserted : other.entries = front ++ entry :: back)
    (unknown : Field.ofName? entry.key = none) : other.known = document.known := by
  have nothing : entry.known? = none := by rw [Entry.known?, unknown, Option.map_none]
  rw [ObjectText.known, inserted, ObjectText.known, without, List.filterMap_append,
    List.filterMap_append, List.filterMap_cons_none nothing]

/-- The settings that leave out one directory. -/
def ignoring : Config := { Config.default with ignores := ["a"] }

/-- Decoding depends on the known members alone. Every object that is decoded is a text of the
grammar. The settings stay the same in whatever order its members are put, and when a member of
another name is put in or taken out, whatever its value is and however often its name occurs. They
are the settings with what the known members spell, where none is given twice, and with the default
for what is absent. An array of the values of the first members, in their order, stands for the
object that has exactly these. -/
theorem decode_known_members :
    (∀ (text : String) (rest : List Char) (config : Config),
      skipSpace text.toList = '{' :: rest → decode text = .ok config →
        ∃ document : ObjectText, document.text = text) ∧
    (∀ (document other : ObjectText) (config : Config),
      other.entries.Perm document.entries →
        (decode other.text = .ok config ↔ decode document.text = .ok config)) ∧
    (∀ (document other : ObjectText) (entry : Entry) (front back : List Entry) (config : Config),
      document.entries = front ++ back → other.entries = front ++ entry :: back →
        Field.ofName? entry.key = none →
          (decode other.text = .ok config ↔ decode document.text = .ok config)) ∧
    (∀ (document : ObjectText) (config : Config),
      decode document.text = .ok config ↔ Holds config document.known) ∧
    (∀ (list : ArrayText) (document : ObjectText) (config : Config),
      list.items.length ≤ Field.all.length → document.known.Perm (Field.all.zip list.values) →
        (decode list.text = .ok config ↔ decode document.text = .ok config)) := by
  refine ⟨fun _ _ _ starts decoded => exists_of_decode starts decoded,
    fun document other config perm => ?reordered,
    fun document other entry front back config without inserted unknown => ?inserted,
    fun document config => decode_object_iff document,
    fun list document config few perm => ?array⟩
  case reordered => exact decode_iff_of_known (perm.filterMap Entry.known?)
  case inserted =>
    exact decode_iff_of_known (.of_eq (ObjectText.known_insert without inserted unknown))
  case array =>
    rw [decode_array_iff, decode_object_iff]
    exact ⟨fun holds => holds.2.perm perm.symm, fun holds => ⟨few, holds.perm perm⟩⟩

/-- An object that sets the ignores is a text of the grammar. A member of another name, which holds
an object within an array, may be put behind, and then in front; what the object lacks has its
default. The ignores alone in an array stand for the object. -/
theorem decode_known_members_nested :
    (∃ document : ObjectText, document.text = "\x7b\"ignores\":[\"a\"]\x7d") ∧
      decode "\x7b\"ignores\":[\"a\"],\"x\":[\x7b\x7d]\x7d" = .ok ignoring ∧
        decode "\x7b\"x\":[\x7b\x7d],\"ignores\":[\"a\"]\x7d" = .ok ignoring ∧
          ignoring.value .extensions = Config.default.value .extensions ∧
            decode "[[\"a\"]]" = .ok ignoring := by
  let ignores : Entry :=
    .bare "ignores" (by decide) (isValue_single (isValue_text ['a'] (by decide)))
  let other : Entry := .bare "x" (by decide) (isValue_single (isValue_empty .object))
  have decoded : decode "\x7b\"ignores\":[\"a\"]\x7d" = .ok ignoring := by decide +kernel
  have behind := (decode_known_members.2.2.1 ⟨.bare, [ignores]⟩ ⟨.bare, [ignores, other]⟩ other
    [ignores] [] _ rfl rfl (by decide)).mpr decoded
  refine ⟨decode_known_members.1 _ "\"ignores\":[\"a\"]\x7d".toList _ (by decide +kernel) decoded,
    behind,
    (decode_known_members.2.1 ⟨.bare, [ignores, other]⟩ ⟨.bare, [other, ignores]⟩ _
      (.swap ignores other [])).mpr behind,
    ((decode_known_members.2.2.2.1 ⟨.bare, [ignores]⟩ _).mp decoded).absent .extensions (by decide),
    (decode_known_members.2.2.2.2
      ⟨.bare, [.bare (isValue_single (isValue_text ['a'] (by decide)))]⟩ ⟨.bare, [ignores]⟩ _
      (by decide) (.of_eq rfl)).mpr decoded⟩

end Decoding
end AttributePins.Config

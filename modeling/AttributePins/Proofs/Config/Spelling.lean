import AttributePins.Proofs.Config.RoundTrip
import AttributePins.Proofs.Json.Grammar

/-! How the values of settings are spelled. A reader takes a value exactly where one of its
spellings stands, whatever white space is in front of it and whatever follows, and leaves what
follows. -/
namespace AttributePins.Config

open Json

variable {s rest rest' before gap lead v : List Char} {text : String} {texts : List String}

section Texts

inductive Quotes : List Char → String → Prop where
  | quoted {raw : List Char} {text : String} (spelled : Spells raw text.toList) :
      Quotes ('"' :: (raw ++ ['"'])) text

theorem Quotes.isValue (quotes : Quotes v text) : IsValue v := by
  cases quotes with
  | quoted spelled => exact .scalar (.string spelled.stringText)

theorem Quotes.not_isNumber (quotes : Quotes v text) : ¬IsNumber v := by
  cases quotes with
  | quoted => exact not_isNumber_cons rfl (by decide)

theorem readText_iff : readText s = .ok (text, rest) ↔
    ∃ before v, IsSpace before ∧ Quotes v text ∧ s = before ++ (v ++ rest) := by
  constructor
  · intro read
    obtain ⟨before, space, same⟩ := exists_skipSpace s
    unfold readText at read
    split at read
    · rename_i tail starts
      cases found : readString tail with
      | error fault => simp [found, Except.map] at read
      | ok pair =>
        simp only [found, Except.map] at read
        cases read
        obtain ⟨raw, spelled, rfl⟩ := spells_of_readString found
        refine ⟨before, _, space, .quoted (by simpa using spelled), ?_⟩
        rw [same, starts]
        simp
    · contradiction
  · rintro ⟨before, v, space, ⟨spelled⟩, rfl⟩
    simp only [readText, List.cons_append, List.append_assoc, List.nil_append,
      skipSpace_to space (c := '"') rfl, readString_of_spells spelled, Except.map,
      String.ofList_toList]

end Texts

section Lists

inductive Lists : List Char → List String → Prop where
  | array {inside : List Char} {items : List (Part × String)} (space : IsSpace inside)
      (fits : ∀ item ∈ items, item.1.Fits .array)
      (texts : ∀ item ∈ items, Quotes item.1.value item.2) :
      Lists (Frame.array.opener :: (inside ++ ([','].intercalate
        ((items.map Prod.fst).map Part.text) ++ [Frame.array.closer]))) (items.map Prod.snd)

theorem Lists.isValue (lists : Lists v texts) : IsValue v := by
  cases lists with
  | array space fits texts =>
    exact .container space (List.forall_mem_map.mpr fits)
      (List.forall_mem_map.mpr fun item member => (texts item member).isValue)

theorem Lists.not_isNumber (lists : Lists v texts) : ¬IsNumber v := by
  cases lists with
  | array => exact not_isNumber_cons rfl (by decide)

/-- The next item starts behind a comma, if it is not the first, and behind white space. -/
theorem nextItem?_value (first : Bool) (blank : IsSpace gap) (led : IsSpace lead) {c : Char}
    (starts : startsValue c = true) (rest : List Char) :
    nextItem? first (gap ++ (comma first ++ (lead ++ c :: rest))) = .ok (some (c :: rest)) := by
  obtain ⟨solid, item, -⟩ := startsValue_iff.mp starts
  have next : skipSpace (lead ++ c :: rest) = c :: rest := skipSpace_to led solid rest
  cases first with
  | true =>
    rw [comma_append_first]
    simp [nextItem?, skipSpace_gap blank, next]
  | false =>
    rw [comma_append_next]
    simp [nextItem?, skipSpace_to blank (c := ',') rfl, next, item]

theorem exists_of_nextItem?_none {first : Bool} (none : nextItem? first s = .ok none) :
    ∃ gap rest, IsSpace gap ∧ s = gap ++ ']' :: rest := by
  obtain ⟨gap, space, same⟩ := exists_skipSpace s
  unfold nextItem? at none
  split at none
  · contradiction
  · rename_i rest closes
    exact ⟨gap, rest, space, by rw [same, closes]⟩
  · grind

theorem exists_of_nextItem?_some {first : Bool} {item : List Char}
    (some : nextItem? first s = .ok (some item)) :
    ∃ gap lead, IsSpace gap ∧ IsSpace lead ∧ s = gap ++ (comma first ++ (lead ++ item)) := by
  obtain ⟨gap, space, same⟩ := exists_skipSpace s
  unfold nextItem? at some
  split at some
  · contradiction
  · cases some
  · rename_i c tail _ starts
    rw [starts] at same
    split at some
    · rename_i first
      subst first
      cases some
      exact ⟨gap, [], space, isSpace_nil, same⟩
    · rename_i next
      obtain rfl := Bool.eq_false_iff.mpr next
      obtain ⟨lead, led, after⟩ := exists_skipSpace tail
      split at some
      · rename_i comma
        subst comma
        split at some
        · contradiction
        · contradiction
        · cases some
          exact ⟨gap, lead, space, led, by rw [comma_append_next, ← after, same]⟩
      · contradiction

/-- The items of a list that are still to come are read up to the end of the list. -/
theorem readTexts_following {items : List (Part × String)}
    (fits : ∀ item ∈ items, item.1.Fits .array)
    (quoted : ∀ item ∈ items, Quotes item.1.value item.2)
    (first : Bool) (space : IsSpace gap) :
    readTexts first (gap ++ following first .array (items.map Prod.fst) rest) =
      .ok (items.map Prod.snd, rest) := by
  induction items generalizing first gap with
  | nil =>
    have closes : skipSpace (gap ++ following first .array [] rest) = ']' :: rest :=
      skipSpace_end first .array space rest
    rw [List.map_nil, readTexts_of_none (nextItem?_close first closes), closeArray_close closes]
    rfl
  | cons item items ih =>
    obtain ⟨fit, fitting⟩ := List.forall_mem_cons.mp fits
    obtain ⟨here, others⟩ := List.forall_mem_cons.mp quoted
    obtain ⟨part, text⟩ := item
    obtain ⟨label, before, value, after⟩ := part
    obtain ⟨labelled, blank, behind⟩ := fit
    obtain ⟨c, more, same, starts⟩ := here.isValue.exists_cons
    cases labelled
    have next := nextItem?_value first space blank starts (more ++ (after ++
      following false .array (items.map Prod.fst) rest))
    rw [← List.cons_append, ← same] at next
    have read := readText_iff.mpr ⟨[], value, isSpace_nil, here, List.nil_append (value ++ (after ++
      following false .array (items.map Prod.fst) rest))⟩
    rw [List.map_cons, following_cons, List.nil_append, readTexts_of_some next read,
      ih fitting others false behind]
    rfl

theorem exists_of_readTexts {first : Bool} (read : readTexts first s = .ok (texts, rest)) :
    ∃ gap, ∃ items : List (Part × String), IsSpace gap ∧
      (∀ item ∈ items, item.1.Fits .array ∧ Quotes item.1.value item.2) ∧
        texts = items.map Prod.snd ∧
          s = gap ++ following first .array (items.map Prod.fst) rest := by
  fun_induction readTexts first s generalizing texts with
  | case1 => contradiction
  | case2 first s next =>
    obtain ⟨gap, tail, space, rfl⟩ := exists_of_nextItem?_none next
    rw [closeArray_close (skipSpace_to space rfl tail)] at read
    cases read
    exact ⟨gap, [], space, fun _ member => absurd member List.not_mem_nil, rfl,
      by rw [List.map_nil, following_nil]; rfl⟩
  | case3 => contradiction
  | case4 first s item next _ text after here _ ih =>
    obtain ⟨gap, lead, space, led, rfl⟩ := exists_of_nextItem?_some next
    obtain ⟨before, v, blank, quotes, rfl⟩ := readText_iff.mp here
    cases found : readTexts false after with
    | error fault => simp [found, Except.map] at read
    | ok pair =>
      simp only [found, Except.map] at read
      cases read
      obtain ⟨behind, items, space', all, same, rfl⟩ := ih found
      have fit : Part.Fits .array ⟨[], lead ++ before, v, behind⟩ :=
        ⟨.item, List.forall_mem_append.mpr ⟨led, blank⟩, space'⟩
      refine ⟨gap, (⟨[], lead ++ before, v, behind⟩, text) :: items, space,
        List.forall_mem_cons.mpr ⟨⟨fit, quotes⟩, all⟩, congrArg (text :: ·) same, ?_⟩
      rw [List.map_cons, following_cons, List.nil_append, List.append_assoc]

theorem readList_iff : readList s = .ok (texts, rest) ↔
    ∃ before v, IsSpace before ∧ Lists v texts ∧ s = before ++ (v ++ rest) := by
  constructor
  · intro read
    obtain ⟨before, space, same⟩ := exists_skipSpace s
    unfold readList at read
    split at read
    · rename_i tail starts
      obtain ⟨inside, items, blank, all, rfl, parts⟩ := exists_of_readTexts read
      refine ⟨before, _, space, .array blank (fun item member => (all item member).1)
        (fun item member => (all item member).2), ?_⟩
      rw [same, starts, parts, container_append]
      rfl
    · contradiction
  · rintro ⟨before, v, space, ⟨blank, fits, quoted⟩, rfl⟩
    rw [container_append, Frame.opener, readList_open (skipSpace_to space rfl _),
      readTexts_following fits quoted true blank]

end Lists

section Values

/-- What takes exactly the spellings of something takes it from where a value stands exactly as that
value spells it: no other spelling starts there. -/
theorem read_value_iff {α : Type} {read : List Char → Except Fault (α × List Char)}
    {Spelling : List Char → α → Prop} {found : α}
    (reads : ∀ {s rest}, read s = .ok (found, rest) ↔
      ∃ before v, IsSpace before ∧ Spelling v found ∧ s = before ++ (v ++ rest))
    (values : ∀ {v}, Spelling v found → IsValue v ∧ ¬IsNumber v) (valid : IsValue v)
    (space : IsSpace before) (ends : endsNumber rest = true) :
    read (before ++ (v ++ rest)) = .ok (found, rest') ↔ Spelling v found ∧ rest' = rest := by
  rw [reads]
  constructor
  · rintro ⟨before', v', space', spelling, same⟩
    obtain ⟨valid', other⟩ := values spelling
    obtain ⟨rfl, rfl⟩ := valid.unique valid' space space' (fun _ => ends)
      (fun number => absurd number other) same
    exact ⟨spelling, rfl⟩
  · rintro ⟨spelling, rfl⟩
    exact ⟨before, v, space, spelling, rfl⟩

theorem readText_value (valid : IsValue v) (space : IsSpace before)
    (ends : endsNumber rest = true) :
    readText (before ++ (v ++ rest)) = .ok (text, rest') ↔ Quotes v text ∧ rest' = rest :=
  read_value_iff readText_iff (fun quotes => ⟨quotes.isValue, quotes.not_isNumber⟩) valid space ends

theorem readList_value (valid : IsValue v) (space : IsSpace before)
    (ends : endsNumber rest = true) :
    readList (before ++ (v ++ rest)) = .ok (texts, rest') ↔ Lists v texts ∧ rest' = rest :=
  read_value_iff readList_iff (fun lists => ⟨lists.isValue, lists.not_isNumber⟩) valid space ends

/-- Whether a value spells what settings have for a member. -/
def Spelt (config : Config) : Field → List Char → Prop
  | .ignores, v => Lists v config.ignores
  | .includes, v => Lists v config.includes
  | .sourceRoot, v => Quotes v config.sourceRoot
  | .extensions, v => Lists v config.extensions

/-- What a reader found goes into a draft. -/
theorem map_eq_ok {α : Type} {found : Except Fault (α × List Char)} {next : Draft}
    (update : α → Draft) :
    found.map (fun (value, rest) => (update value, rest)) = .ok (next, rest) ↔
      ∃ value, found = .ok (value, rest) ∧ next = update value := by
  cases found with
  | error fault => simp [Except.map]
  | ok pair =>
    simp only [Except.map, Except.ok.injEq, Prod.mk.injEq]
    grind

/-- Where a value stands, what is found goes into a draft as some settings have it. -/
theorem map_eq_ok_iff {α : Type} {found : Except Fault (α × List Char)} {Spelled : α → Prop}
    {next : Draft} (reads : ∀ {value rest'}, found = .ok (value, rest') ↔
      Spelled value ∧ rest' = rest)
    (update : α → Draft) (member : Config → α) (settings : α → Config)
    (has : ∀ value, member (settings value) = value) :
    found.map (fun (value, rest) => (update value, rest)) = .ok (next, rest') ↔
      (∃ config, Spelled (member config) ∧ next = update (member config)) ∧ rest' = rest := by
  rw [map_eq_ok update]
  constructor
  · rintro ⟨value, read, rfl⟩
    obtain ⟨spelled, rfl⟩ := reads.mp read
    exact ⟨⟨settings value, by rwa [has], by rw [has]⟩, rfl⟩
  · rintro ⟨⟨config, spelled, rfl⟩, rfl⟩
    exact ⟨member config, reads.mpr ⟨spelled, rfl⟩, rfl⟩

/-- A member's value is taken from where a value stands exactly as that value spells it. -/
theorem Draft.read_iff {draft next : Draft} {field : Field} (valid : IsValue v)
    (space : IsSpace before) (ends : endsNumber rest = true) :
    draft.read field (before ++ (v ++ rest)) = .ok (next, rest') ↔
      (∃ config, Spelt config field v ∧ next = draft.take config field) ∧ rest' = rest := by
  cases field with
  | ignores =>
    exact map_eq_ok_iff (readList_value valid space ends)
      (fun texts => { draft with ignores := some texts }) Config.ignores
      (fun texts => { Config.default with ignores := texts }) fun _ => rfl
  | includes =>
    exact map_eq_ok_iff (readList_value valid space ends)
      (fun texts => { draft with includes := some texts }) Config.includes
      (fun texts => { Config.default with includes := texts }) fun _ => rfl
  | sourceRoot =>
    exact map_eq_ok_iff (readText_value valid space ends)
      (fun text => { draft with sourceRoot := some text }) Config.sourceRoot
      (fun text => { Config.default with sourceRoot := text }) fun _ => rfl
  | extensions =>
    exact map_eq_ok_iff (readList_value valid space ends)
      (fun texts => { draft with extensions := some texts }) Config.extensions
      (fun texts => { Config.default with extensions := texts }) fun _ => rfl

/-- What is taken into a draft stands in the text as a value. -/
theorem Draft.exists_of_read {draft next : Draft} {field : Field}
    (read : draft.read field s = .ok (next, rest)) :
    ∃ before v, IsSpace before ∧ IsValue v ∧ s = before ++ (v ++ rest) := by
  have list {texts : List String} (found : readList s = .ok (texts, rest)) :
      ∃ before v, IsSpace before ∧ IsValue v ∧ s = before ++ (v ++ rest) := by
    obtain ⟨before, v, space, lists, same⟩ := readList_iff.mp found
    exact ⟨before, v, space, lists.isValue, same⟩
  cases field with
  | ignores =>
    obtain ⟨_, found, -⟩ := (map_eq_ok fun texts => { draft with ignores := some texts }).mp read
    exact list found
  | includes =>
    obtain ⟨_, found, -⟩ := (map_eq_ok fun texts => { draft with includes := some texts }).mp read
    exact list found
  | extensions =>
    obtain ⟨_, found, -⟩ := (map_eq_ok fun texts => { draft with extensions := some texts }).mp read
    exact list found
  | sourceRoot =>
    obtain ⟨_, found, -⟩ := (map_eq_ok fun text => { draft with sourceRoot := some text }).mp read
    obtain ⟨before, v, space, quotes, same⟩ := readText_iff.mp found
    exact ⟨before, v, space, quotes.isValue, same⟩

end Values
end AttributePins.Config

import AttributePins.Glob
import AttributePins.Proofs.FileSystem.Deletion
import AttributePins.Proofs.FileSystem.Names

/-! The directories that a pattern stands for do not depend on files. What is below a path that
is no directory is no directory either, so a step of the expansion that takes a file cannot end
at a directory, and deleting files keeps the directories of every expansion. -/
namespace AttributePins

namespace Pattern

/-- The text of a pattern without wildcards stays within one component. -/
def Inner (pattern : Pattern) : Prop := ∀ name, pattern.literal? = some name → '/' ∉ name.toList

theorem classBody?_suffix {s after : List Char} {items : List ClassItem}
    (found : classBody? s = some (items, after)) : after <:+ s := by
  cases s with
  | nil => contradiction
  | cons c rest =>
    rw [classBody?] at found
    split at found
    · contradiction
    · rename_i first more kept
      obtain ⟨-, rfl⟩ := Prod.mk.inj (Option.some.inj found)
      exact ((List.suffix_cons first more).trans (kept ▸ List.dropWhile_suffix _)).trans
        (List.suffix_cons c rest)

theorem class?_inner {s after : List Char} {token : Token}
    (found : class? s = some (token, after)) :
    token ≠ .char '/' ∧ after <:+ s := by
  unfold class? at found
  split at found
  · rename_i rest
    obtain ⟨⟨items, after⟩, body, same⟩ := Option.map_eq_some_iff.mp found
    cases same
    exact ⟨nofun, (classBody?_suffix body).trans (List.suffix_cons '!' rest)⟩
  · obtain ⟨⟨items, after⟩, body, same⟩ := Option.map_eq_some_iff.mp found
    cases same
    exact ⟨nofun, classBody?_suffix body⟩

theorem not_mem_of_map_cons {result : Except Error (List Token)} {first : Token}
    {tokens : List Token} (read : result.map (first :: ·) = .ok tokens) (other : first ≠ .char '/')
    (later : ∀ rest, result = .ok rest → .char '/' ∉ rest) : .char '/' ∉ tokens := by
  cases result with
  | error => contradiction
  | ok rest =>
    obtain rfl := Except.ok.inj read
    rw [List.mem_cons, not_or]
    exact ⟨other.symm, later rest rfl⟩

theorem parseFrom_inner {position : Nat} {before : Option Char} {s : List Char}
    {tokens : List Token} (read : parseFrom position before s = .ok tokens) (inner : '/' ∉ s) :
    .char '/' ∉ tokens := by
  fun_induction parseFrom position before s generalizing tokens with
  | case1 => simp [← Except.ok.inj read]
  | case2 position before rest ih =>
    exact not_mem_of_map_cons read nofun fun _ read => ih read (List.not_mem_of_not_mem_cons inner)
  | case3 | case6 | case7 | case10 => contradiction
  | case4 => simp [← Except.ok.inj read]
  | case5 => simp at inner
  | case8 position before rest _ _ ih =>
    exact not_mem_of_map_cons read nofun fun _ read => ih read (List.not_mem_of_not_mem_cons inner)
  | case9 position before rest token after found _ ih =>
    obtain ⟨other, suffix⟩ := class?_inner found
    refine not_mem_of_map_cons read other fun _ read => ih read ?_
    intro slash
    exact inner (List.mem_cons_of_mem '[' (suffix.subset slash))
  | case11 position before c rest _ _ _ _ _ ih =>
    obtain ⟨other, inner⟩ := not_or.mp (List.mem_cons.not.mp inner)
    refine not_mem_of_map_cons read ?_ fun _ read => ih read inner
    intro same
    exact other (Token.char.inj same).symm

theorem eq_map_char_of_mapM {tokens : List Token} {text : List Char}
    (literal : tokens.mapM Token.char? = some text) : tokens = text.map .char := by
  induction tokens generalizing text with
  | nil =>
    obtain rfl := Option.some.inj literal
    rfl
  | cons token rest ih =>
    rw [List.mapM_cons] at literal
    obtain ⟨c, first, later⟩ := Option.bind_eq_some_iff.mp literal
    obtain ⟨more, others, same⟩ := Option.bind_eq_some_iff.mp later
    obtain rfl := Option.some.inj same
    cases token with
    | char c' =>
      obtain rfl := Option.some.inj first
      rw [List.map_cons, ih others]
    | anyChar | anyRun | anyDirectories | oneOf => contradiction

theorem inner_of_parse {text : List Char} {pattern : Pattern} (inner : '/' ∉ text)
    (read : parse (String.ofList text) = .ok pattern) : pattern.Inner := by
  intro name literal slash
  rw [parse, String.toList_ofList] at read
  cases tokens : parseFrom 0 none text with
  | error => simp [tokens, Except.map] at read
  | ok found =>
    simp only [tokens, Except.map, Except.ok.injEq] at read
    subst read
    obtain ⟨characters, plain, rfl⟩ := Option.map_eq_some_iff.mp literal
    rw [String.toList_ofList] at slash
    refine parseFrom_inner tokens inner ?_
    have spelled : found = characters.map .char := eq_map_char_of_mapM plain
    exact spelled ▸ List.mem_map_of_mem slash

end Pattern

namespace Glob

theorem mem_of_mapM_eq_ok {α β ε : Type} {f : α → Except ε β} {items : List α} {results : List β}
    (all : items.mapM f = .ok results) {result : β} (member : result ∈ results) :
    ∃ item ∈ items, f item = .ok result := by
  induction items generalizing results with
  | nil =>
    obtain rfl := Except.ok.inj all
    contradiction
  | cons item rest ih =>
    rw [List.mapM_cons] at all
    cases first : f item with
    | error => simp [first, bind, Except.bind] at all
    | ok head =>
      cases others : rest.mapM f with
      | error => simp [first, others, bind, Except.bind] at all
      | ok tail =>
        simp only [first, others, bind, Except.bind, pure, Except.pure, Except.ok.injEq] at all
        subst all
        rcases List.mem_cons.mp member with rfl | later
        · exact ⟨item, List.mem_cons_self, first⟩
        · obtain ⟨other, known, same⟩ := ih others later
          exact ⟨other, List.mem_cons_of_mem item known, same⟩

theorem slash_not_mem_componentTexts {pattern part : List Char}
    (member : part ∈ componentTexts pattern) : '/' ∉ part := by
  have within (body : List Char) (member : part ∈
      if (body.splitOn '/').getLast? = some [] then (body.splitOn '/').dropLast
      else body.splitOn '/') : '/' ∉ part := by
    split at member
    · exact Path.slash_not_mem_part (List.mem_of_mem_dropLast member)
    · exact Path.slash_not_mem_part member
  exact within _ member

theorem components_inner {text : String} {parts : List Pattern}
    (read : components text = .ok parts) : ∀ part ∈ parts, part.Inner := by
  intro part member
  simp only [components, bind, Except.bind] at read
  split at read
  · contradiction
  split at read
  · contradiction
  rename_i patterns all
  obtain rfl := Except.ok.inj read
  split at member
  · obtain rfl := List.mem_singleton.mp member
    rintro name literal
    obtain rfl := Option.some.inj literal
    decide
  · obtain ⟨source, known, parsed⟩ := mem_of_mapM_eq_ok all member
    exact Pattern.inner_of_parse (slash_not_mem_componentTexts known) parsed

section Requests

variable {fs : FileSystem}

theorem exists_of_isOk {ε α : Type} {result : Except ε α} (ok : result.isOk = true) :
    ∃ value, result = .ok value := by
  cases result with
  | error => contradiction
  | ok value => exact ⟨value, rfl⟩

theorem takesLiteral_iff (plain : fs.Plain) (directory : Path) (name : String) :
    takesLiteral fs directory name = true ↔
      if name = "." ∨ name = ".." then fs.isDir directory = true
      else ∃ place, fs.leads? (child directory name) = some place := by
  rw [takesLiteral]
  split
  · rfl
  · constructor
    · intro either
      rcases Bool.or_eq_true _ _ ▸ either with ok | ok
      · obtain ⟨node, stated⟩ := exists_of_isOk ok
        obtain ⟨place, led, -⟩ := (plain.stat_iff _ node).mp stated
        exact ⟨place, led⟩
      · obtain ⟨node, stated⟩ := exists_of_isOk ok
        obtain ⟨place, led, -⟩ := (plain.linkStat_iff _ node).mp stated
        exact ⟨place, led⟩
    · rintro ⟨place, led⟩
      obtain ⟨node, found⟩ := FileSystem.get?_of_leads? led
      rw [(plain.stat_iff _ _).mpr ⟨place, led, found⟩]
      rfl

theorem mem_namesIn (plain : fs.Plain) (directory : Path) (name : String) :
    name ∈ namesIn fs directory ↔
      ∃ place, fs.leads? directory = some place ∧ fs.root.kindAt place = some .dir ∧
        (fs.root.kindAt (place ++ [name])).isSome = true := by
  have listed (entries : List (String × Node)) :
      fs.entries directory = .ok entries ↔ fs.stat directory = .ok (.dir entries) := by
    rw [FileSystem.entries]
    cases fs.stat directory with
    | error => simp [bind, Except.bind]
    | ok node => cases node <;> simp [bind, Except.bind]
  constructor
  · intro member
    rw [namesIn] at member
    split at member
    · rename_i entries found
      obtain ⟨place, led, found⟩ := (plain.stat_iff _ _).mp ((listed entries).mp found)
      obtain ⟨entry, known, rfl⟩ := List.mem_map.mp (List.mem_mergeSort.mp member)
      have below := (plain.tree.mem_entries_iff found).mpr known
      exact ⟨place, led, by rw [Node.kindAt, found]; rfl, by rw [Node.kindAt, below]; rfl⟩
    · contradiction
  · rintro ⟨place, led, kind, below⟩
    obtain ⟨entries, found⟩ := Node.kindAt_eq_dir kind
    rw [namesIn, (listed entries).mpr ((plain.stat_iff _ _).mpr ⟨place, led, found⟩)]
    obtain ⟨node, below⟩ := Node.get?_of_kindAt below
    have known := (plain.tree.mem_entries_iff found).mp below
    exact List.mem_mergeSort.mpr (List.mem_map.mpr ⟨_, known, rfl⟩)

theorem child_filled {name : String} (proper : Node.isName name = true) (directory : Path) :
    (child directory name).text ≠ "" := by
  obtain ⟨filled, -, -, inner⟩ := Node.isName_iff.mp proper
  rw [child]
  split
  · exact filled
  · exact Path.join_filled directory filled inner

theorem join_special_filled {component : Pattern} {name : String}
    (special : name ∈ specialNames component) (directory : Path) :
    (directory.join ⟨name⟩).text ≠ "" := by
  have dots : name = ".." ∨ name = "." := by
    rw [specialNames] at special
    split at special
    · simpa using List.mem_of_mem_filter special
    · contradiction
  rcases dots with rfl | rfl
  · exact Path.join_filled directory (by decide) (by decide)
  · exact Path.join_filled directory (by decide) (by decide)

theorem isHere_child {name : String} (proper : Node.isName name = true) (directory : Path) :
    (child directory name).isHere = false := by
  rw [child]
  split
  · have named := Path.fileName?_join ⟨""⟩ proper
    rw [Path.join_of_empty rfl] at named
    exact Path.isHere_of_fileName? named
  · exact Path.isHere_of_fileName? (Path.fileName?_join directory proper)

/-- A name in a directory leads to the place below the directory's. -/
theorem leads?_child (plain : fs.Plain) {directory : Path} (filled : directory.text ≠ "")
    {name : String} (proper : Node.isName name = true) {place target : List String}
    (led : fs.leads? directory = some place)
    (below : fs.leads? (child directory name) = some target) : target = place ++ [name] := by
  rw [child] at below
  split at below
  · rename_i here
    rw [FileSystem.leads?_isHere here led]
    exact FileSystem.leads?_name proper below
  · obtain ⟨-, -, -, inner⟩ := Node.isName_iff.mp proper
    obtain ⟨place', led', -, last⟩ := plain.leads?_join filled inner below
    obtain rfl := Option.some.inj (led.symm.trans led')
    exact FileSystem.follow_name proper last

end Requests

section Expansion

variable {fs : FileSystem} {directoriesOnly : Bool}

/-- The paths that a component with wildcards and those behind it lead to through one entry. -/
def expandEntry (fs : FileSystem) (directoriesOnly : Bool) (steps : Nat) (component : Pattern)
    (rest : List Pattern) (name : String) (entry : Path) : List Path :=
  if component.isRecursive then
    (match rest.dropWhile (·.isRecursive) with
      | [] => if fs.isDir entry then [entry] else []
      | next :: later =>
        if next.accepts name then expandFrom fs directoriesOnly steps later entry else []) ++
    if fs.isDir entry then
      expandFrom fs directoriesOnly steps (component :: rest.dropWhile (·.isRecursive)) entry
    else []
  else if component.accepts name then expandFrom fs directoriesOnly steps rest entry
  else []

theorem expandFrom_literal (steps : Nat) {component : Pattern} {name : String}
    (literal : component.literal? = some name) (rest : List Pattern) (path : Path) :
    expandFrom fs directoriesOnly (steps + 1) (component :: rest) path =
      if takesLiteral fs path name then
        expandFrom fs directoriesOnly steps rest (child path name)
      else [] := by
  rw [expandFrom, literal]

theorem expandFrom_wild (steps : Nat) {component : Pattern} (wild : component.literal? = none)
    (rest : List Pattern) (path : Path) :
    expandFrom fs directoriesOnly (steps + 1) (component :: rest) path =
      (if fs.isDir path then
        (specialNames component).flatMap fun name =>
          expandFrom fs directoriesOnly steps rest (path.join ⟨name⟩)
      else []) ++
      (namesIn fs path).flatMap fun name =>
        expandEntry fs directoriesOnly steps component rest name (child path name) := by
  rw [expandFrom, wild]
  rfl

/-- An expansion that starts at a path other than a directory ends at no directory. -/
theorem isDir_of_mem_expandFrom (plain : fs.Plain) {path : Path} (filled : path.text ≠ "")
    (elsewhere : path.isHere = false) {steps : Nat} {components : List Pattern}
    (inner : ∀ component ∈ components, component.Inner) {directory : Path}
    (member : directory ∈ expandFrom fs directoriesOnly steps components path)
    (found : fs.isDir directory = true) : fs.isDir path = true := by
  cases components with
  | nil =>
    rw [expandFrom] at member
    split at member
    · contradiction
    · exact List.mem_singleton.mp member ▸ found
  | cons component rest =>
    cases steps with
    | zero =>
      rw [expandFrom] at member
      contradiction
    | succ steps =>
      cases literal : component.literal? with
      | some name =>
        rw [expandFrom_literal steps literal] at member
        split at member
        · rename_i taken
          rw [takesLiteral_iff plain] at taken
          split at taken
          · exact taken
          · obtain ⟨place, led⟩ := taken
            rw [child, elsewhere] at led
            obtain ⟨above, led, kind, -⟩ := plain.leads?_join filled
              (inner component List.mem_cons_self name literal) led
            exact (plain.isDir_iff_leads? path).mpr ⟨above, led, kind⟩
        · contradiction
      | none =>
        rw [expandFrom_wild steps literal] at member
        rcases List.mem_append.mp member with special | entry
        · split at special
          · assumption
          · contradiction
        · obtain ⟨name, known, -⟩ := List.mem_flatMap.mp entry
          obtain ⟨place, led, kind, -⟩ := (mem_namesIn plain path name).mp known
          exact (plain.isDir_iff_leads? path).mpr ⟨place, led, kind⟩

theorem isDir_of_mem_expandEntry (plain : fs.Plain) {entry : Path} (filled : entry.text ≠ "")
    (elsewhere : entry.isHere = false) {steps : Nat} {component : Pattern} {rest : List Pattern}
    (inner : ∀ other ∈ component :: rest, other.Inner) {name : String} {directory : Path}
    (member : directory ∈ expandEntry fs directoriesOnly steps component rest name entry)
    (found : fs.isDir directory = true) : fs.isDir entry = true := by
  have later (components : List Pattern) (some : components.Sublist (component :: rest))
      (member : directory ∈ expandFrom fs directoriesOnly steps components entry) :
      fs.isDir entry = true :=
    isDir_of_mem_expandFrom plain filled elsewhere
      (fun other known => inner other (some.subset known)) member found
  rw [expandEntry] at member
  split at member
  · rcases List.mem_append.mp member with here | below
    · split at here
      · split at here
        · assumption
        · contradiction
      · rename_i next more others
        split at here
        · refine later more ?_ here
          have dropped : (next :: more).Sublist rest := others ▸ List.dropWhile_sublist _
          exact ((List.sublist_cons_self next more).trans dropped).cons component
        · contradiction
    · split at below
      · assumption
      · contradiction
  · split at member
    · exact later rest (List.sublist_cons_self component rest) member
    · contradiction

end Expansion

section Deletion

variable {gone : List String → Prop} {before after : FileSystem} {directoriesOnly : Bool}

theorem takesLiteral_filled (plain : before.Plain) {path : Path} {name : String}
    (inner : '/' ∉ name.toList) (taken : takesLiteral before path name = true) :
    (child path name).text ≠ "" := by
  rw [takesLiteral_iff plain] at taken
  split at taken
  · rename_i special
    have some : name ≠ "" := by
      rcases special with rfl | rfl <;> decide
    rw [child]
    split
    · exact some
    · exact Path.join_filled path some inner
  · obtain ⟨place, led⟩ := taken
    exact FileSystem.filled_of_leads? led

/-- An entry that is a directory is listed after the deletion if and only if it was before. -/
theorem mem_namesIn_iff (plain : before.Plain) (pruned : FileSystem.Pruned gone before after)
    {path : Path} (filled : path.text ≠ "") {name : String} (proper : Node.isName name = true)
    (directory : before.isDir (child path name) = true) :
    name ∈ namesIn before path ↔ name ∈ namesIn after path := by
  obtain ⟨target, below, kind⟩ := (plain.isDir_iff_leads? _).mp directory
  rw [mem_namesIn plain, mem_namesIn pruned.plain]
  constructor
  · rintro ⟨place, led, above, -⟩
    obtain rfl := leads?_child plain filled proper led below
    refine ⟨place, (pruned.leads?_iff path place).mpr ⟨led, pruned.not_gone above⟩,
      (pruned.kindAt_dir place).mpr above, ?_⟩
    rw [(pruned.kindAt_dir _).mpr kind]
    rfl
  · rintro ⟨place, led, above, -⟩
    obtain ⟨led, -⟩ := (pruned.leads?_iff path place).mp led
    obtain rfl := leads?_child plain filled proper led below
    refine ⟨place, led, (pruned.kindAt_dir place).mp above, ?_⟩
    rw [kind]
    rfl

theorem isName_of_mem_namesIn (plain : before.Plain) {path : Path} {name : String}
    (member : name ∈ namesIn before path) : Node.isName name = true := by
  obtain ⟨place, -, -, below⟩ := (mem_namesIn plain path name).mp member
  exact plain.tree.isName_of_mem below (List.mem_append_right place List.mem_cons_self)

/-- A literal component is taken after the deletion as before, unless it leads to a deleted
file. -/
theorem takesLiteral_or_gone (plain : before.Plain) (pruned : FileSystem.Pruned gone before after)
    (path : Path) (name : String) :
    takesLiteral after path name = takesLiteral before path name ∨
      takesLiteral after path name = false ∧
        ∃ place, before.leads? (child path name) = some place ∧ gone place := by
  by_cases special : name = "." ∨ name = ".."
  · left
    rw [takesLiteral, takesLiteral, if_pos special, if_pos special, pruned.isDir_eq plain]
  · have earlier := takesLiteral_iff plain path name
    have later := takesLiteral_iff pruned.plain path name
    simp only [if_neg special, pruned.leads?_iff] at earlier later
    by_cases lost : ∃ place, before.leads? (child path name) = some place ∧ gone place
    · right
      refine ⟨?_, lost⟩
      rw [Bool.eq_false_iff, ne_eq, later]
      grind
    · left
      rw [Bool.eq_iff_iff, earlier, later]
      grind

/-- No directory is found through a deleted file. -/
theorem not_mem_expandFrom_of_gone (plain : before.Plain)
    (pruned : FileSystem.Pruned gone before after) {path : Path} {place : List String}
    (led : before.leads? path = some place) (lost : gone place) {steps : Nat}
    {components : List Pattern} (inner : ∀ component ∈ components, component.Inner)
    {directory : Path} (found : before.isDir directory = true) :
    directory ∉ expandFrom before directoriesOnly steps components path := by
  intro member
  have elsewhere : path.isHere = false := by
    rw [Bool.eq_false_iff]
    intro here
    exact pruned.not_gone plain.working (FileSystem.leads?_isHere here led ▸ lost)
  obtain ⟨place', led', kind⟩ := (plain.isDir_iff_leads? path).mp (isDir_of_mem_expandFrom plain
    (FileSystem.filled_of_leads? led) elsewhere inner member found)
  obtain rfl := Option.some.inj (led.symm.trans led')
  exact pruned.not_gone kind lost

theorem mem_expandEntry_iff {steps : Nat} {directory entry : Path}
    (dirs : ∀ path, after.isDir path = before.isDir path)
    (later : ∀ components : List Pattern, (∀ other ∈ components, other.Inner) →
      (directory ∈ expandFrom before directoriesOnly steps components entry ↔
        directory ∈ expandFrom after directoriesOnly steps components entry))
    {component : Pattern} {rest : List Pattern} (inner : ∀ other ∈ component :: rest, other.Inner)
    (name : String) :
    directory ∈ expandEntry before directoriesOnly steps component rest name entry ↔
      directory ∈ expandEntry after directoriesOnly steps component rest name entry := by
  obtain ⟨first, innerRest⟩ := List.forall_mem_cons.mp inner
  have others : ∀ other ∈ rest.dropWhile (·.isRecursive), other.Inner := fun other member =>
    innerRest other ((List.dropWhile_sublist _).subset member)
  rw [expandEntry, expandEntry, dirs]
  split
  · rw [List.mem_append, List.mem_append]
    apply or_congr
    · split
      · rfl
      · rename_i next more known
        rw [known] at others
        split
        · exact later more (List.forall_mem_cons.mp others).2
        · rfl
    · split
      · exact later _ (List.forall_mem_cons.mpr ⟨first, others⟩)
      · rfl
  · split
    · exact later rest innerRest
    · rfl

/-- Deleting files keeps the directories of an expansion. -/
theorem mem_expandFrom_iff (plain : before.Plain) (pruned : FileSystem.Pruned gone before after)
    {directory : Path} (found : before.isDir directory = true) (steps : Nat)
    {components : List Pattern} (inner : ∀ component ∈ components, component.Inner)
    {path : Path} (filled : path.text ≠ "") :
    directory ∈ expandFrom before directoriesOnly steps components path ↔
      directory ∈ expandFrom after directoriesOnly steps components path := by
  have dirs := pruned.isDir_eq plain
  induction steps generalizing components path with
  | zero =>
    cases components with
    | nil => rw [expandFrom, expandFrom, dirs]
    | cons => rw [expandFrom, expandFrom]
  | succ steps ih =>
    cases components with
    | nil => rw [expandFrom, expandFrom, dirs]
    | cons component rest =>
      have innerRest : ∀ other ∈ rest, other.Inner := fun other member =>
        inner other (List.mem_cons_of_mem component member)
      cases literal : component.literal? with
      | some name =>
        have innerName := inner component List.mem_cons_self name literal
        rw [expandFrom_literal steps literal, expandFrom_literal steps literal]
        rcases takesLiteral_or_gone plain pruned path name with same | ⟨missing, place, led, lost⟩
        · rw [same]
          split
          · rename_i taken
            exact ih innerRest (takesLiteral_filled plain innerName taken)
          · rfl
        · -- Only the expansion before the deletion goes on, and through a file.
          rw [missing, if_neg Bool.false_ne_true]
          refine iff_of_false ?_ List.not_mem_nil
          split
          · exact not_mem_expandFrom_of_gone plain pruned led lost innerRest found
          · exact List.not_mem_nil
      | none =>
        rw [expandFrom_wild steps literal, expandFrom_wild steps literal, dirs, List.mem_append,
          List.mem_append]
        apply or_congr
        · split
          · simp only [List.mem_flatMap]
            exact exists_congr fun name => and_congr_right fun special =>
              ih innerRest (join_special_filled special path)
          · rfl
        · -- An entry that leads on to a directory is one itself, so it is listed both times.
          simp only [List.mem_flatMap]
          have same {name : String} (proper : Node.isName name = true) :=
            mem_expandEntry_iff dirs (fun _ inner => ih inner (child_filled proper path)) inner name
          constructor
          · rintro ⟨name, known, member⟩
            have proper := isName_of_mem_namesIn plain known
            have entry := isDir_of_mem_expandEntry plain (child_filled proper path)
              (isHere_child proper path) inner member found
            exact ⟨name, (mem_namesIn_iff plain pruned filled proper entry).mp known,
              (same proper).mp member⟩
          · rintro ⟨name, known, member⟩
            have proper := isName_of_mem_namesIn pruned.plain known
            have entry := isDir_of_mem_expandEntry pruned.plain (child_filled proper path)
              (isHere_child proper path) inner member ((dirs directory).trans found)
            rw [dirs] at entry
            exact ⟨name, (mem_namesIn_iff plain pruned filled proper entry).mpr known,
              (same proper).mpr member⟩

/-- Deleting files keeps the directories that a pattern stands for. -/
theorem expand_directories (plain : before.Plain) (pruned : FileSystem.Pruned gone before after)
    (text : String) :
    (∃ error, expand before text = .error error ∧ expand after text = .error error) ∨
      ∃ earlier later, expand before text = .ok earlier ∧ expand after text = .ok later ∧
        ∀ path, path ∈ earlier.filter before.isDir ↔ path ∈ later.filter after.isDir := by
  cases read : components text with
  | error error => exact .inl ⟨error, by simp [expand, read, bind, Except.bind],
      by simp [expand, read, bind, Except.bind]⟩
  | ok parts =>
    right
    simp only [expand, read, bind, Except.bind, Except.ok.injEq]
    refine ⟨_, _, rfl, rfl, fun path => ?_⟩
    rw [List.mem_filter, List.mem_filter, pruned.isDir_eq plain]
    refine and_congr_left fun found => ?_
    refine mem_expandFrom_iff plain pruned found _ (components_inner read) ?_
    split <;> decide

end Deletion

end Glob
end AttributePins

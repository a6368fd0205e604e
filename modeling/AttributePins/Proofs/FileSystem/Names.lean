import AttributePins.Proofs.FileSystem.Resolution

/-! The names in a path's text. Joining a name to a path adds it behind the names of the path,
both for the walk through a tree and for the components that extensions are read from; so the
two agree on the last name of a path that leads to a file. -/
namespace AttributePins

namespace Path

/-- The parts of a text between slashes. -/
theorem splitOn_slash (front : List Char) {last : List Char} (inner : '/' ∉ last) :
    (front ++ '/' :: last).splitOn '/' = front.splitOn '/' ++ [last] := by
  rw [List.splitOn_append_cons_self, List.splitOn_eq_singleton inner]

theorem slash_not_mem_part {text part : List Char} (member : part ∈ text.splitOn '/') :
    '/' ∉ part := by
  induction text generalizing part with
  | nil =>
    obtain rfl := List.mem_singleton.mp member
    exact List.not_mem_nil
  | cons c rest ih =>
    rw [List.splitOn_cons_eq_if_modifyHead] at member
    split at member
    · rcases List.mem_cons.mp member with rfl | later
      · exact List.not_mem_nil
      · exact ih later
    · rename_i other
      obtain ⟨first, others, parts⟩ := List.exists_cons_of_ne_nil (List.splitOn_ne_nil '/' rest)
      rw [parts] at ih
      rw [parts, List.modifyHead_cons] at member
      rcases List.mem_cons.mp member with rfl | later
      · rw [List.mem_cons, not_or]
        exact ⟨fun same => other (beq_iff_eq.mpr same.symm), ih List.mem_cons_self⟩
      · exact ih (List.mem_cons_of_mem first later)

theorem isAbsolute_of_inner {name : String} (inner : '/' ∉ name.toList) :
    (Path.mk name).isAbsolute = false := by
  apply decide_eq_false
  intro head
  exact inner (List.mem_of_mem_head? head)

/-- The text of a joined path, and how the text of the path itself goes with it. -/
theorem join_text {path : Path} (filled : path.text ≠ "") {name : String}
    (inner : '/' ∉ name.toList) :
    ∃ front, (path.join ⟨name⟩).text.toList = front ++ '/' :: name.toList ∧
      (front ≠ [] ∧ path.text.toList = front ∧ path.hasEndSlash = false ∨
        path.text.toList = front ++ '/' :: []) := by
  have relative := isAbsolute_of_inner inner
  have empty : path.text.isEmpty = false := by simpa using filled
  cases slash : path.hasEndSlash with
  | true =>
    have last : path.text.toList.getLast? = some '/' := of_decide_eq_true slash
    obtain ⟨front, split⟩ := List.getLast?_eq_some_iff.mp last
    refine ⟨front, ?_, .inr split⟩
    simp [join, relative, empty, slash, split]
  | false =>
    refine ⟨path.text.toList, ?_, .inl ⟨by simpa using filled, rfl, rfl⟩⟩
    simp [join, relative, empty, slash]

theorem join_of_empty {path : Path} (empty : path.text = "") (other : Path) :
    path.join other = other := by
  simp [join, empty]

theorem isAbsolute_join {path : Path} (filled : path.text ≠ "") {name : String}
    (inner : '/' ∉ name.toList) : (path.join ⟨name⟩).isAbsolute = path.isAbsolute := by
  obtain ⟨front, joined, ⟨some, same, -⟩ | same⟩ := join_text filled inner
  · rw [isAbsolute, isAbsolute, joined, same, List.head?_append_of_ne_nil _ some]
  · rw [isAbsolute, isAbsolute, joined, same]
    cases front <;> rfl

theorem join_filled (path : Path) {name : String} (some : name ≠ "") (inner : '/' ∉ name.toList) :
    (path.join ⟨name⟩).text ≠ "" := by
  by_cases filled : path.text = ""
  · rw [join_of_empty filled]
    exact some
  · obtain ⟨front, joined, -⟩ := join_text filled inner
    intro empty
    simp [empty] at joined

/-- What the components of a path start with. -/
def anchored (path : Path) : List Component :=
  match (splitAnchor path.text.toList).1 with
  | ['/'] => [.root]
  | ['.'] => [.here]
  | _ => []

/-- Behind the start there is a component for every part of the text that is none of the
void ones, the start of the text included. -/
theorem components_eq (path : Path) :
    path.components = path.anchored ++
      ((path.text.toList.splitOn '/').filter fun part => !isVoid part).map Component.ofPart := by
  have body : ((splitAnchor path.text.toList).2.splitOn '/').filter (fun part => !isVoid part) =
      (path.text.toList.splitOn '/').filter fun part => !isVoid part := by
    unfold splitAnchor
    split
    · rename_i rest text
      rw [text, List.splitOn_cons_eq_if_modifyHead]
      rfl
    · rename_i text
      rw [text]
      rfl
    · rename_i rest text
      have behind := List.splitOn_append_cons_self (a := '/') [] rest
      have whole := List.splitOn_append_cons_self (a := '/') ['.'] rest
      rw [List.nil_append] at behind
      rw [List.singleton_append] at whole
      rw [text, behind, whole]
      rfl
    · rfl
  rw [anchored, ← body]
  rfl

theorem isHere_parts {path : Path} (here : path.isHere = true) :
    path.isAbsolute = false ∧ ∀ part ∈ path.text.toList.splitOn '/', isVoid part = true := by
  have only : path.components = [.here] := of_decide_eq_true here
  rw [components_eq] at only
  have none : ((path.text.toList.splitOn '/').filter fun part => !isVoid part) = [] := by
    rw [anchored] at only
    split at only
    · cases only
    · simpa using only
    · obtain ⟨part, -, same⟩ := List.mem_map.mp (only ▸ List.mem_singleton_self Component.here)
      rw [Component.ofPart] at same
      split at same <;> contradiction
  constructor
  · apply decide_eq_false
    intro slash
    obtain ⟨rest, text⟩ := List.head?_eq_some_iff.mp slash
    rw [anchored, text] at only
    cases only
  · simpa using List.filter_eq_nil_iff.mp none

theorem fileName?_of_last {path : Path} (front : List (List Char)) {name : String}
    (parts : (path.text.toList.splitOn '/').filter (· ≠ []) = front ++ [name.toList])
    (notHere : name ≠ ".") (notUp : name ≠ "..") : path.fileName? = some name := by
  have solid : ((path.text.toList.splitOn '/').filter fun part => !isVoid part) =
      front.filter (· ≠ ['.']) ++ [name.toList] := by
    have here : name.toList ≠ ['.'] := fun same => notHere (String.toList_inj.mp same)
    calc ((path.text.toList.splitOn '/').filter fun part => !isVoid part)
        = ((path.text.toList.splitOn '/').filter (· ≠ [])).filter (· ≠ ['.']) := by
          rw [List.filter_filter]
          congr 1
          funext part
          simp [isVoid, Bool.and_comm]
      _ = front.filter (· ≠ ['.']) ++ [name.toList] := by
          rw [parts, List.filter_append]
          simp [here]
  have up : name.toList ≠ ['.', '.'] := fun same => notUp (String.toList_inj.mp same)
  rw [fileName?, components_eq, solid, List.map_append, ← List.append_assoc]
  simp [Component.ofPart, up]

theorem fileName?_join (path : Path) {name : String} (proper : Node.isName name = true) :
    (path.join ⟨name⟩).fileName? = some name := by
  obtain ⟨filled, notHere, notUp, inner⟩ := Node.isName_iff.mp proper
  have some : name.toList ≠ [] := by simpa using filled
  have last (front : List (List Char)) :
      (front ++ [name.toList]).filter (· ≠ []) = front.filter (· ≠ []) ++ [name.toList] := by
    rw [List.filter_append]
    simp [some]
  by_cases empty : path.text = ""
  · refine fileName?_of_last [] ?_ notHere notUp
    rw [join_of_empty empty, List.splitOn_eq_singleton inner]
    exact last []
  · obtain ⟨front, joined, -⟩ := join_text empty inner
    refine fileName?_of_last ((front.splitOn '/').filter (· ≠ [])) ?_ notHere notUp
    rw [joined, splitOn_slash front inner]
    exact last _

theorem isHere_of_fileName? {path : Path} {name : String} (named : path.fileName? = some name) :
    path.isHere = false := by
  apply decide_eq_false
  intro only
  simp [fileName?, only] at named

end Path

namespace FileSystem

/-- The names between the slashes of a text. -/
def solidNames (text : List Char) : List String :=
  ((text.splitOn '/').filter (· ≠ [])).map String.ofList

theorem namesOf_slash {path : Path} {front last : List Char}
    (split : path.text.toList = front ++ '/' :: last) (inner : '/' ∉ last) :
    namesOf path = solidNames front ++ [String.ofList last] := by
  have slash : path.hasEndSlash = decide (last = []) := by
    rw [Path.hasEndSlash, split]
    rcases List.eq_nil_or_concat last with rfl | ⟨before, final, rfl⟩
    · simp
    · rw [List.concat_eq_append] at *
      rw [← List.cons_append, ← List.append_assoc, List.getLast?_concat]
      have other : final ≠ '/' := by
        rintro rfl
        simp at inner
      simp [other]
  rw [namesOf, slash, split, Path.splitOn_slash front inner]
  by_cases empty : last = [] <;> simp [solidNames, empty]

theorem namesOf_solid {path : Path} (unslashed : path.hasEndSlash = false) :
    namesOf path = solidNames path.text.toList := by
  simp [namesOf, solidNames, unslashed]

section Following

variable {root : Node} {place target : List String}

/-- Names that lead on from a place lead through a directory. -/
theorem follow_append_iff (directory : root.kindAt place = some .dir) (front : List String)
    (name : String) (rest : List String) :
    follow root.kindAt place (front ++ name :: rest) = some target ↔
      ∃ between, follow root.kindAt place front = some between ∧
        root.kindAt between = some .dir ∧
        follow root.kindAt between (name :: rest) = some target := by
  induction front generalizing place with
  | nil => simp [follow, directory]
  | cons first others ih =>
    rw [List.cons_append, follow, follow.eq_def root.kindAt place (first :: others)]
    dsimp only
    split
    · exact ih directory
    split
    · exact ih (Node.kindAt_dropLast directory)
    split
    · simp
    split
    · rename_i below
      exact ih below
    · rename_i file
      by_cases final : others = [] <;> simp [final, file]
    · simp

/-- The last name on the way to a file is the file's own. -/
theorem follow_file {names : List String} {content : Option ByteArray}
    (directory : root.kindAt place = some .dir)
    (led : follow root.kindAt place names = some target)
    (file : root.kindAt target = some (.file content)) :
    ∃ front name above, names = front ++ [name] ∧ target = above ++ [name] ∧
      name ≠ "" ∧ name ≠ "." ∧ name ≠ ".." := by
  induction names generalizing place with
  | nil =>
    simp only [follow, directory, Option.isSome_some, if_true, Option.some.injEq] at led
    rw [← led, directory] at file
    cases file
  | cons first rest ih =>
    rw [follow] at led
    have later {next : List String} (directory : root.kindAt next = some .dir)
        (led : follow root.kindAt next rest = some target) :
        ∃ front name above, first :: rest = front ++ [name] ∧ target = above ++ [name] ∧
          name ≠ "" ∧ name ≠ "." ∧ name ≠ ".." := by
      obtain ⟨front, name, above, rfl, same, proper⟩ := ih directory led
      exact ⟨first :: front, name, above, rfl, same, proper⟩
    split at led
    · exact later directory led
    split at led
    · exact later (Node.kindAt_dropLast directory) led
    split at led
    · contradiction
    rename_i solid notUp _
    obtain ⟨filled, notHere⟩ := not_or.mp solid
    split at led
    · rename_i below
      exact later below led
    · split at led
      · rename_i final
        exact ⟨[], first, place, by rw [final]; rfl, (Option.some.inj led).symm, filled, notHere,
          notUp⟩
      · contradiction
    · contradiction

end Following

section Leading

variable {fs : FileSystem} {path : Path} {target : List String}

theorem checkText_eq_ok_iff (text : String) :
    checkText text = .ok () ↔
      '\x00' ∉ text.toList ∧ text ≠ "" ∧ text.utf8ByteSize ≤ maxPathBytes := by
  by_cases nul : '\x00' ∈ text.toList <;> by_cases empty : text = "" <;>
    by_cases long : text.utf8ByteSize > maxPathBytes <;> simp_all [checkText]

theorem leads?_eq_some_iff :
    fs.leads? path = some target ↔ checkText path.text = .ok () ∧
      follow fs.root.kindAt (fs.startOf path) (namesOf path) = some target := by
  rw [leads?]
  cases checkText path.text <;> simp

theorem filled_of_leads? (led : fs.leads? path = some target) : path.text ≠ "" :=
  ((checkText_eq_ok_iff _).mp (leads?_eq_some_iff.mp led).1).2.1

theorem checkText_of_join (filled : path.text ≠ "") {name : String} (inner : '/' ∉ name.toList)
    (accepted : checkText (path.join ⟨name⟩).text = .ok ()) : checkText path.text = .ok () := by
  have longer : ∃ more, (path.join ⟨name⟩).text = path.text ++ more := by
    have relative := Path.isAbsolute_of_inner inner
    have empty : path.text.isEmpty = false := by simpa using filled
    rw [Path.join, relative, empty]
    cases path.hasEndSlash with
    | true => exact ⟨name, rfl⟩
    | false => exact ⟨"/" ++ name, String.append_assoc⟩
  obtain ⟨more, joined⟩ := longer
  rw [checkText_eq_ok_iff, joined, String.utf8ByteSize_append, String.toList_append] at accepted
  obtain ⟨clean, -, short⟩ := accepted
  rw [checkText_eq_ok_iff]
  exact ⟨fun nul => clean (List.mem_append_left _ nul), filled, by omega⟩

/-- A path with a name behind it leads through the directory that the path leads to. -/
theorem Plain.leads?_join (plain : fs.Plain) (filled : path.text ≠ "") {name : String}
    (inner : '/' ∉ name.toList) (led : fs.leads? (path.join ⟨name⟩) = some target) :
    ∃ directory, fs.leads? path = some directory ∧ fs.root.kindAt directory = some .dir ∧
      follow fs.root.kindAt directory [name] = some target := by
  obtain ⟨accepted, led⟩ := leads?_eq_some_iff.mp led
  obtain ⟨front, joined, text⟩ := Path.join_text filled inner
  have start : fs.startOf (path.join ⟨name⟩) = fs.startOf path := by
    rw [startOf, startOf, Path.isAbsolute_join filled inner]
  rw [start, namesOf_slash joined inner, String.ofList_toList,
    follow_append_iff (plain.start_dir path)] at led
  obtain ⟨directory, through, kind, last⟩ := led
  refine ⟨directory, leads?_eq_some_iff.mpr ⟨checkText_of_join filled inner accepted, ?_⟩, kind,
    last⟩
  rcases text with ⟨-, same, unslashed⟩ | slashed
  · rw [namesOf_solid unslashed, same]
    exact through
  · rw [namesOf_slash slashed List.not_mem_nil, follow_append_iff (plain.start_dir path)]
    exact ⟨directory, through, kind, by simp [follow, kind]⟩

theorem follow_name {root : Node} {place : List String} {name : String}
    (proper : Node.isName name = true) (led : follow root.kindAt place [name] = some target) :
    target = place ++ [name] := by
  obtain ⟨filled, notHere, notUp, -⟩ := Node.isName_iff.mp proper
  simp only [follow, filled, notHere, notUp, or_self, if_false] at led
  grind

theorem namesOf_inner {name : String} (filled : name ≠ "") (inner : '/' ∉ name.toList) :
    namesOf ⟨name⟩ = [name] := by
  have unslashed : (Path.mk name).hasEndSlash = false := by
    apply decide_eq_false
    intro last
    exact inner (List.mem_of_getLast? last)
  rw [namesOf_solid unslashed, solidNames, List.splitOn_eq_singleton inner]
  simp [filled]

theorem leads?_name {name : String} (proper : Node.isName name = true)
    (led : fs.leads? ⟨name⟩ = some target) : target = fs.cwd ++ [name] := by
  obtain ⟨filled, -, -, inner⟩ := Node.isName_iff.mp proper
  obtain ⟨-, led⟩ := leads?_eq_some_iff.mp led
  rw [namesOf_inner filled inner, startOf, Path.isAbsolute_of_inner inner] at led
  exact follow_name proper led

theorem follow_void {kinds : List String → Option Kind} {place names : List String}
    (void : ∀ name ∈ names, name = "" ∨ name = ".") (led : follow kinds place names = some target) :
    target = place := by
  induction names with
  | nil =>
    rw [follow] at led
    grind
  | cons name rest ih =>
    rw [follow, if_pos (void name List.mem_cons_self)] at led
    exact ih (fun other member => void other (List.mem_cons_of_mem name member)) led

/-- A path of single dots leads nowhere but to the working directory. -/
theorem leads?_isHere (here : path.isHere = true) (led : fs.leads? path = some target) :
    target = fs.cwd := by
  obtain ⟨relative, void⟩ := Path.isHere_parts here
  obtain ⟨-, led⟩ := leads?_eq_some_iff.mp led
  rw [startOf, relative] at led
  refine follow_void ?_ led
  intro name member
  simp only [namesOf, List.map_append, List.mem_append, List.mem_map, List.mem_filter] at member
  rcases member with ⟨part, ⟨known, -⟩, rfl⟩ | ⟨part, known, rfl⟩
  · have either := void part known
    simp only [Path.isVoid, Bool.or_eq_true, decide_eq_true_eq] at either
    rcases either with rfl | rfl
    · exact .inl rfl
    · exact .inr rfl
  · split at known
    · obtain rfl := List.mem_singleton.mp known
      exact .inl rfl
    · contradiction

/-- The last name of a path that leads to a file is the file's. -/
theorem Plain.leads?_file (plain : fs.Plain) (led : fs.leads? path = some target)
    {content : Option ByteArray} (file : fs.root.kindAt target = some (.file content)) :
    ∃ above name, target = above ++ [name] ∧ path.fileName? = some name := by
  obtain ⟨-, led⟩ := leads?_eq_some_iff.mp led
  obtain ⟨front, name, above, names, same, filled, notHere, notUp⟩ :=
    follow_file (plain.start_dir path) led file
  refine ⟨above, name, same, ?_⟩
  cases slash : path.hasEndSlash with
  | true =>
    rw [namesOf, slash, if_pos rfl, List.map_append] at names
    exact absurd (List.append_inj_right' names rfl) (by simpa using filled.symm)
  | false =>
    rw [namesOf_solid slash, solidNames] at names
    have parts := congrArg (List.map String.toList) names
    rw [List.map_map, List.map_append] at parts
    refine Path.fileName?_of_last (front.map String.toList) ?_ notHere notUp
    simpa [Function.comp_def] using parts

end Leading

end FileSystem
end AttributePins

import AttributePins.Proofs.Path.Spelling

/-! Where a path leads that goes on from another: below the place of the other, by the names it
adds. The spelling of either path does not matter, only the trail does. -/
namespace AttributePins.FileSystem

/-- Void names do not turn a walk elsewhere. -/
theorem follow_solid {kinds : List String → Option Kind} {place names target : List String}
    (led : follow kinds place names = some target) :
    follow kinds place (names.filter fun name => name ≠ "" ∧ name ≠ ".") = some target := by
  fun_induction follow kinds place names with
  | case1 place present => simpa [follow, present] using led
  | case2 | case5 | case8 | case9 => contradiction
  | case3 place name rest void ih =>
    rw [List.filter_cons_of_neg (by simpa using fun filled => void.resolve_left filled)]
    exact ih led
  | case4 place rest _ ih =>
    rw [List.filter_cons_of_pos (by decide), follow, if_neg (by decide), if_pos rfl]
    exact ih led
  | case6 place name rest solid notUp short directory ih =>
    rw [List.filter_cons_of_pos (by simpa using solid), follow, if_neg solid, if_neg notUp,
      if_neg short, directory]
    exact ih led
  | case7 place name solid notUp short content file =>
    rw [List.filter_cons_of_pos (by simpa using solid), follow, if_neg solid, if_neg notUp,
      if_neg short, file]
    exact led

theorem filter_namesOf (path : Path) :
    ((namesOf path).filter fun name => name ≠ "" ∧ name ≠ ".") = path.trail := by
  have solid (part : List Char) :
      decide (String.ofList part ≠ "" ∧ String.ofList part ≠ ".") = !Path.isVoid part := by
    have here : String.ofList part = "." ↔ part = ['.'] := String.ofList_inj
    simp [Path.isVoid, here]
  have none : ((if path.hasEndSlash then [[]] else []).filter
      fun part => !Path.isVoid part) = [] := by
    cases path.hasEndSlash <;> rfl
  rw [namesOf, List.filter_map, Path.trail]
  simp only [Function.comp_def, solid]
  rw [List.filter_append, none, List.append_nil, List.filter_filter]
  congr 2
  funext part
  by_cases empty : part = [] <;> simp [empty, Path.isVoid]

theorem follow_names {root : Node} {place names target : List String}
    (proper : ∀ name ∈ names, Node.isName name = true)
    (led : follow root.kindAt place names = some target) : target = place ++ names := by
  induction names generalizing place with
  | nil =>
    rw [follow] at led
    grind
  | cons name rest ih =>
    obtain ⟨first, others⟩ := List.forall_mem_cons.mp proper
    obtain ⟨filled, notHere, notUp, -⟩ := Node.isName_iff.mp first
    rw [follow, if_neg (by simp [filled, notHere]), if_neg notUp] at led
    split at led
    · contradiction
    split at led
    · rw [ih others led, List.append_assoc, List.singleton_append]
    · split at led
      · rename_i final
        rw [final, Option.some.inj led]
      · contradiction
    · contradiction

variable {fs : FileSystem} {base path : Path} {names home place target : List String}

theorem follow_trail (led : fs.leads? path = some place) :
    follow fs.root.kindAt (fs.startOf path) path.trail = some place := by
  rw [← filter_namesOf]
  exact follow_solid (leads?_eq_some_iff.mp led).2

/-- A path that goes on from another leads below the end of the other's trail. -/
theorem Plain.follow_goesOn (plain : fs.Plain) (goes : Path.GoesOn base names path)
    (led : fs.leads? path = some place) :
    ∃ home, follow fs.root.kindAt (fs.startOf base) base.trail = some home ∧
      place = home ++ names := by
  have start : fs.startOf path = fs.startOf base := by rw [startOf, startOf, goes.start]
  have whole := follow_trail led
  rw [start, goes.trail] at whole
  cases names with
  | nil => exact ⟨place, by rwa [List.append_nil] at whole, (List.append_nil place).symm⟩
  | cons name rest =>
    obtain ⟨home, first, -, second⟩ :=
      (follow_append_iff (plain.start_dir base) base.trail name rest).mp whole
    exact ⟨home, first, follow_names goes.proper second⟩

theorem Plain.leads?_goesOn (plain : fs.Plain) (goes : Path.GoesOn base names path)
    (above : fs.leads? base = some home) (led : fs.leads? path = some place) :
    place = home ++ names := by
  obtain ⟨other, followed, same⟩ := plain.follow_goesOn goes led
  rw [follow_trail above] at followed
  rw [same, Option.some.inj followed]

theorem Plain.leads?_join_iff (plain : fs.Plain) (filled : path.text ≠ "") {name : String}
    (inner : '/' ∉ name.toList) :
    fs.leads? (path.join ⟨name⟩) = some place ↔ checkText (path.join ⟨name⟩).text = .ok () ∧
      ∃ directory, fs.leads? path = some directory ∧ fs.root.kindAt directory = some .dir ∧
        follow fs.root.kindAt directory [name] = some place := by
  constructor
  · intro led
    exact ⟨(leads?_eq_some_iff.mp led).1, plain.leads?_join filled inner led⟩
  · rintro ⟨accepted, directory, led, kind, last⟩
    obtain ⟨-, through⟩ := leads?_eq_some_iff.mp led
    obtain ⟨front, joined, text⟩ := Path.join_text filled inner
    have start : fs.startOf (path.join ⟨name⟩) = fs.startOf path := by
      rw [startOf, startOf, Path.isAbsolute_join filled inner]
    refine leads?_eq_some_iff.mpr ⟨accepted, ?_⟩
    rw [start, namesOf_slash joined inner, String.ofList_toList,
      follow_append_iff (plain.start_dir path)]
    refine ⟨directory, ?_, kind, last⟩
    rcases text with ⟨-, same, unslashed⟩ | slashed
    · rwa [namesOf_solid unslashed, same] at through
    · rw [namesOf_slash slashed List.not_mem_nil, follow_append_iff (plain.start_dir path)] at through
      obtain ⟨between, through, -, void⟩ := through
      rw [follow_void (by simp) void]
      exact through

/-- A directory, by the path to it and its place. -/
structure DirAt (fs : FileSystem) (path : Path) (place : List String) : Prop where
  led : fs.leads? path = some place
  kind : fs.root.kindAt place = some .dir

theorem Plain.isDir_iff_dirAt (plain : fs.Plain) (path : Path) :
    fs.isDir path = true ↔ ∃ place, fs.DirAt path place := by
  rw [plain.isDir_iff_leads?]
  exact exists_congr fun place => ⟨fun ⟨led, kind⟩ => ⟨led, kind⟩, fun ⟨led, kind⟩ => ⟨led, kind⟩⟩

theorem follow_of_solid {root : Node} {names : List String}
    (directory : root.kindAt place = some .dir)
    (led : follow root.kindAt place (names.filter fun name => name ≠ "" ∧ name ≠ ".") = some target)
    (kind : root.kindAt target = some .dir) : follow root.kindAt place names = some target := by
  induction names generalizing place with
  | nil => exact led
  | cons name rest ih =>
    by_cases void : name = "" ∨ name = "."
    · rw [List.filter_cons_of_neg (by simpa using fun filled => void.resolve_left filled)] at led
      rw [follow, if_pos void]
      exact ih directory led
    · rw [List.filter_cons_of_pos (by simpa using void), follow, if_neg void] at led
      rw [follow, if_neg void]
      split at led
      · rename_i up
        rw [if_pos up]
        exact ih (Node.kindAt_dropLast directory) led
      rename_i notUp
      rw [if_neg notUp]
      split at led
      · contradiction
      rename_i short
      rw [if_neg short]
      split at led
      · rename_i below
        exact ih below led
      · rename_i file
        split at led
        · rw [← Option.some.inj led, file] at kind
          cases kind
        · contradiction
      · contradiction

/-- Where the names of two paths agree, a directory that one leads to the other leads to. -/
theorem DirAt.goesOn (plain : fs.Plain) {base : Path} (dir : fs.DirAt base place)
    (goes : Path.GoesOn base [] path) (accepted : checkText path.text = .ok ()) :
    fs.DirAt path place := by
  refine ⟨leads?_eq_some_iff.mpr ⟨accepted, ?_⟩, dir.kind⟩
  refine follow_of_solid (plain.start_dir path) ?_ dir.kind
  have start : fs.startOf path = fs.startOf base := by rw [startOf, startOf, goes.start]
  rw [filter_namesOf, goes.trail, List.append_nil, start]
  exact follow_trail dir.led

/-- A path of single dots leads where `.` does, if it is not too long. -/
theorem DirAt.of_isHere (plain : fs.Plain) (dir : fs.DirAt ⟨"."⟩ place) (here : path.isHere = true)
    (short : path.text.utf8ByteSize ≤ maxPathBytes) : fs.DirAt path place := by
  have goes : Path.GoesOn ⟨"."⟩ [] path := by
    refine ⟨(Path.isHere_parts here).1, ?_, by simp⟩
    rw [((Path.isHere_iff path).mp here).2]
    rfl
  refine dir.goesOn plain goes ((checkText_eq_ok_iff _).mpr ⟨?_, ?_, short⟩)
  · intro nul
    exact (Path.eq_of_mem_isHere here nul).elim (by decide) (by decide)
  · intro empty
    have start := ((Path.isHere_iff path).mp here).1
    rw [Path.anchored, empty] at start
    cases start

theorem Plain.dirAt_here (plain : fs.Plain) : fs.DirAt ⟨"."⟩ fs.cwd := by
  refine ⟨leads?_eq_some_iff.mpr ⟨rfl, ?_⟩, plain.working⟩
  have names : namesOf ⟨"."⟩ = ["."] := namesOf_inner (by decide) (by decide)
  rw [names, startOf]
  simp [follow, plain.working, Path.isAbsolute]

theorem nul_not_mem_of_leads? (led : fs.leads? path = some target) : '\x00' ∉ path.text.toList :=
  ((checkText_eq_ok_iff _).mp (leads?_eq_some_iff.mp led).1).1

theorem leads?_inner {name : String} (filled : name ≠ "") (inner : '/' ∉ name.toList) :
    fs.leads? ⟨name⟩ = some target ↔
      checkText name = .ok () ∧ follow fs.root.kindAt fs.cwd [name] = some target := by
  rw [leads?_eq_some_iff, namesOf_inner filled inner, startOf, Path.isAbsolute_of_inner inner]
  rfl

end AttributePins.FileSystem

import AttributePins.Config
import AttributePins.Proofs.Discovery.Reach

/-! Patterns below a base, against the same patterns in the base. An expansion that starts at the
base and one that starts in it, after a change of the working directory, make the same hops. They
meet the same directories as long as no text gets too long to be a path, so both find the same
places. That needs a base without wildcards, since the base is read as part of the pattern, and
components that can be read one by one. -/
namespace AttributePins

namespace Glob

section Hops

variable {fs moved : FileSystem} {path twin last : Path} {place target : List String} {hop : Hop}

theorem Hop.land_filled (path : Path) (filled : hop.name ≠ "") (inner : '/' ∉ hop.name.toList) :
    (hop.land path).text ≠ "" := by
  rw [Hop.land_eq]
  exact Path.join_filled _ filled inner

theorem Hop.stem_land (path : Path) (filled : hop.name ≠ "") (inner : '/' ∉ hop.name.toList) :
    (hop.land path).stem = (hop.stand path).stem ++ hop.name ++ "/" := by
  rw [Hop.land_eq, Path.stem_join filled inner]

theorem Hop.land_text (path : Path) (inner : '/' ∉ hop.name.toList) :
    (hop.land path).text = (hop.stand path).stem ++ hop.name := by
  rw [Hop.land_eq, Path.join_eq_stem (Path.isAbsolute_of_inner inner)]

theorem Hop.stand_cases (hop : Hop) (path : Path) :
    (hop.stand path).stem = path.stem ∨ path.isHere = true ∧ (hop.stand path).stem = "" := by
  cases hop with
  | aside => exact .inl rfl
  | into =>
    rw [stand, settled]
    split
    · rename_i here
      exact .inr ⟨here, rfl⟩
    · exact .inl rfl

/-- Where a hop from a directory leads depends on the place of the directory only. -/
theorem leads?_land_iff (plain : fs.Plain) (here : fs.DirAt path place) (filled : hop.name ≠ "")
    (inner : '/' ∉ hop.name.toList) :
    fs.leads? (hop.land path) = some target ↔
      FileSystem.checkText (hop.land path).text = .ok () ∧
        FileSystem.follow fs.root.kindAt place [hop.name] = some target := by
  have nonempty := FileSystem.filled_of_leads? here.led
  have joined : fs.leads? (path.join ⟨hop.name⟩) = some target ↔
      FileSystem.checkText (path.join ⟨hop.name⟩).text = .ok () ∧
        FileSystem.follow fs.root.kindAt place [hop.name] = some target := by
    rw [plain.leads?_join_iff nonempty inner]
    refine and_congr_right fun _ => ?_
    simp [here.led, here.kind]
  cases hop with
  | aside name => exact joined
  | into name =>
    rw [Hop.land, child]
    split
    · rename_i dots
      obtain rfl := FileSystem.leads?_isHere dots here.led
      exact FileSystem.leads?_inner filled inner
    · exact joined

theorem Hop.nul_not_mem_land (inner : '/' ∉ hop.name.toList) (clean : '\x00' ∉ path.text.toList) :
    '\x00' ∉ (hop.land path).text.toList ↔ '\x00' ∉ hop.name.toList := by
  have front : '\x00' ∉ (hop.stand path).stem.toList := by
    rcases hop.stand_cases path with same | ⟨-, none⟩
    · rw [same]
      intro nul
      exact (path.mem_stem nul).elim (by decide) clean
    · rw [none]
      exact List.not_mem_nil
  rw [Hop.land_text path inner, String.toList_append, List.mem_append, not_or]
  exact and_iff_right front

end Hops

section Moving

variable {fs moved : FileSystem} {path twin last : Path} {place : List String} {hop : Hop}
  {component : Pattern} {rest left components : List Pattern} {steps : Nat}

theorem Move.name_filled (plain : fs.Plain) (move : Move fs component rest path hop left)
    (some : component.literal? ≠ some "") : hop.name ≠ "" := by
  rcases move.hop_cases with ⟨name, rfl, ⟨spelled, -⟩ | listed⟩ | ⟨name, stands, rfl⟩
  · rintro rfl
    exact some spelled
  · exact (Node.isName_iff.mp (isName_of_mem_namesIn plain listed)).1
  · rcases mem_specialNames stands with rfl | rfl <;> decide

/-- A move from a directory can be made from any path to the same place, if it lands there. -/
theorem Move.relocate (plain : fs.Plain) (plain' : moved.Plain) (same : moved.root = fs.root)
    (here : fs.DirAt path place) (there : moved.DirAt twin place)
    (landed : moved.isDir (hop.land twin) = true) (move : Move fs component rest path hop left) :
    Move moved component rest twin hop left := by
  have directory : moved.isDir twin = true := (plain'.isDir_iff_dirAt twin).mpr ⟨place, there⟩
  have lists {name : String} (listed : name ∈ namesIn fs path) : name ∈ namesIn moved twin := by
    obtain ⟨above, led, -, below⟩ := (mem_namesIn plain path name).mp listed
    obtain rfl := Option.some.inj (here.led.symm.trans led)
    exact (mem_namesIn plain' twin name).mpr ⟨place, there.led, there.kind, by rwa [same]⟩
  cases move with
  | literal spelled taken =>
    refine .literal spelled ((takesLiteral_iff plain' twin _).mpr ?_)
    split
    · exact directory
    · obtain ⟨target, landed⟩ := (plain'.isDir_iff_dirAt _).mp landed
      exact ⟨target, landed.led⟩
  | special wild _ stands => exact .special wild directory stands
  | entry wild single listed accepted => exact .entry wild single (lists listed) accepted
  | final wild recursive listed others => exact .final wild recursive (lists listed) others landed
  | next wild recursive listed others accepted =>
    exact .next wild recursive (lists listed) others accepted
  | deeper wild recursive listed => exact .deeper wild recursive (lists listed) landed

/-- Components that are read one by one and have a text. -/
structure Sound (components : List Pattern) : Prop where
  inner : ∀ component ∈ components, component.Inner
  filled : ∀ component ∈ components, component.literal? ≠ some ""

theorem sound_of_parsed {text : List Char} (solid : ∀ part ∈ componentTexts text, part ≠ [])
    (parsed : (componentTexts text).mapM (fun part => Pattern.parse (String.ofList part)) =
      .ok components) : Sound components := by
  refine ⟨inner_of_parsed parsed, forall_parsed ?_ parsed⟩
  intro part known component read
  exact Pattern.literal?_ne_empty (solid part known) read

theorem Move.sound (move : Move fs component rest path hop left)
    (sound : Sound (component :: rest)) : Sound left :=
  ⟨fun other member => sound.inner other (move.subset other member),
    fun other member => sound.filled other (move.subset other member)⟩

theorem Move.name (plain : fs.Plain) (move : Move fs component rest path hop left)
    (sound : Sound (component :: rest)) : hop.name ≠ "" ∧ '/' ∉ hop.name.toList :=
  ⟨move.name_filled plain (sound.filled component List.mem_cons_self),
    move.slash_not_mem plain (sound.inner component List.mem_cons_self)⟩

/-- A run between directories can be made from a path to the same place. A relation of the paths
on the two ways, kept by every move, says that the second way has directories as well. -/
theorem Run.relocate (plain : fs.Plain) (plain' : moved.Plain) (same : moved.root = fs.root)
    (Fits : List Pattern → Path → Path → Prop)
    (step : ∀ {component rest left path twin hop}, Move fs component rest path hop left →
      Sound (component :: rest) → Fits (component :: rest) path twin →
      Fits left (hop.land path) (hop.land twin))
    (fit : ∀ {steps left path twin}, Run fs steps left path last → Sound left →
      Fits left path twin → fs.isDir path = true ∧
        twin.text.utf8ByteSize ≤ FileSystem.maxPathBytes)
    (run : Run fs steps components path last) (sound : Sound components)
    (here : fs.DirAt path place) (there : moved.DirAt twin place) (fits : Fits components path twin) :
    ∃ found, Run moved steps components twin found ∧ ∃ target, fs.DirAt last target ∧
      moved.DirAt found target := by
  induction run generalizing twin place with
  | done steps path => exact ⟨twin, .done steps twin, place, here, there⟩
  | @step steps component rest left path last hop move run ih =>
    obtain ⟨some, slashless⟩ := move.name plain sound
    have next := step move sound fits
    obtain ⟨directory, short⟩ := fit run (move.sound sound) next
    obtain ⟨target, landed⟩ := (plain.isDir_iff_dirAt _).mp directory
    obtain ⟨-, followed⟩ := (leads?_land_iff plain here some slashless).mp landed.led
    have accepted : FileSystem.checkText (hop.land twin).text = .ok () := by
      have clean : '\x00' ∉ hop.name.toList :=
        (Hop.nul_not_mem_land slashless (FileSystem.nul_not_mem_of_leads? here.led)).mp
          (FileSystem.nul_not_mem_of_leads? landed.led)
      refine (FileSystem.checkText_eq_ok_iff _).mpr ⟨?_, Hop.land_filled twin some slashless, short⟩
      exact (Hop.nul_not_mem_land slashless (FileSystem.nul_not_mem_of_leads? there.led)).mpr clean
    have landed' : moved.DirAt (hop.land twin) target := by
      refine ⟨(leads?_land_iff plain' there some slashless).mpr ⟨accepted, ?_⟩, ?_⟩
      · rwa [same]
      · rw [same]
        exact landed.kind
    have again := move.relocate plain plain' same here there
      ((plain'.isDir_iff_dirAt _).mpr ⟨target, landed'⟩)
    obtain ⟨found, run', whole⟩ := ih fit (move.sound sound) landed landed' next
    exact ⟨found, .step again run', whole⟩

end Moving

section Sizes

variable {fs : FileSystem} {path twin last : Path} {hop : Hop} {component : Pattern}
  {rest left components : List Pattern} {steps : Nat}

theorem settled_of_isHere (here : path.isHere = true) : (settled path).stem = "" := by
  rw [settled, here]
  rfl

/-- A hop from `.` that stays there is by `.`; any other adds its name behind the stem. -/
theorem settled_land (filled : path.text ≠ "") (some : hop.name ≠ "")
    (inner : '/' ∉ hop.name.toList) :
    path.isHere = true ∧ (hop.land path).isHere = true ∧ hop.name = "." ∨
      (settled path).stem.utf8ByteSize + hop.name.utf8ByteSize + 1 ≤
        (settled (hop.land path)).stem.utf8ByteSize := by
  have relative := Path.isAbsolute_of_inner inner
  have size : ("/" : String).utf8ByteSize = 1 := rfl
  cases here : path.isHere with
  | false =>
    right
    have on := elsewhere_join relative filled here
    rw [← hop.land_elsewhere here] at on
    rw [settled_of_elsewhere here, settled_of_elsewhere on, Hop.land_elsewhere here,
      Path.stem_join some inner, String.utf8ByteSize_append, String.utf8ByteSize_append, size]
  | true =>
    cases on : (hop.land path).isHere with
    | true =>
      left
      have trail := ((Path.isHere_iff _).mp on).2
      rw [Hop.land_eq, Path.trail_join relative, Path.trail_of_inner inner] at trail
      obtain ⟨-, void⟩ := List.append_eq_nil_iff.mp trail
      split at void
      · rename_i dot
        exact ⟨rfl, rfl, dot.resolve_left some⟩
      · contradiction
    | false =>
      right
      rw [settled_of_isHere here, settled_of_elsewhere on, Hop.stem_land path some inner,
        String.utf8ByteSize_append, String.utf8ByteSize_append, size, String.utf8ByteSize_empty]
      omega

theorem Run.size_settled (plain : fs.Plain) (run : Run fs steps components path last)
    (sound : Sound components) (filled : path.text ≠ "") :
    (settled path).stem.utf8ByteSize ≤ last.text.utf8ByteSize + 1 := by
  have short (path : Path) : (settled path).stem.utf8ByteSize ≤ path.stem.utf8ByteSize := by
    rw [settled]
    split
    · exact Nat.zero_le _
    · exact le_rfl
  induction run with
  | done steps path => exact (short path).trans path.size_stem_le
  | @step steps component rest left path last hop move run ih =>
    obtain ⟨some, inner⟩ := move.name plain sound
    have later := ih (move.sound sound) (hop.land_filled path some inner)
    rcases settled_land filled some inner with ⟨here, -⟩ | grown
    · rw [settled_of_isHere here]
      exact Nat.zero_le _
    · omega

theorem Run.isDir_start (plain : fs.Plain) (run : Run fs steps components path last)
    (sound : Sound components) (filled : path.text ≠ "") (elsewhere : path.isHere = false)
    (directory : fs.isDir last = true) : fs.isDir path = true := by
  have member : last ∈ expandFrom fs true steps components path :=
    (mem_expandFrom_iff_run steps components path).mpr ⟨run, fun _ => directory⟩
  exact isDir_of_mem_expandFrom plain filled elsewhere sound.inner member directory

/-- A path elsewhere than `.`, whose stem is as long as the text of its twin. -/
structure Covers (path twin : Path) : Prop where
  filled : path.text ≠ ""
  elsewhere : path.isHere = false
  size : twin.text.utf8ByteSize ≤ path.stem.utf8ByteSize

theorem Covers.land (covers : Covers path twin) (some : hop.name ≠ "")
    (inner : '/' ∉ hop.name.toList) : Covers (hop.land path) (hop.land twin) := by
  have relative := Path.isAbsolute_of_inner inner
  rw [Hop.land_elsewhere covers.elsewhere]
  refine ⟨Path.join_filled _ some inner, elsewhere_join relative covers.filled covers.elsewhere, ?_⟩
  have size : ("/" : String).utf8ByteSize = 1 := rfl
  have stand : (hop.stand twin).stem.utf8ByteSize ≤ twin.stem.utf8ByteSize := by
    rcases hop.stand_cases twin with same | ⟨-, none⟩
    · rw [same]
    · rw [none]
      exact Nat.zero_le _
  have := twin.size_stem_le
  have := covers.size
  rw [Hop.land_text twin inner, Path.stem_join some inner, String.utf8ByteSize_append,
    String.utf8ByteSize_append, String.utf8ByteSize_append, size]
  omega

end Sizes

section Directions

variable {fs moved : FileSystem} {base path twin last : Path} {home : List String} {hop : Hop}
  {component : Pattern} {rest left components : List Pattern} {steps : Nat}

theorem Move.length_left (plain : fs.Plain) (move : Move fs component rest path hop left) :
    left.length ≤ rest.length + 1 ∧ (hop.name = "." → left = rest) := by
  have dropped : (rest.dropWhile (·.isRecursive)).length ≤ rest.length :=
    (List.dropWhile_sublist _).length_le
  have unlisted {name : String} (listed : name ∈ namesIn fs path) : name ≠ "." :=
    (Node.isName_iff.mp (isName_of_mem_namesIn plain listed)).2.1
  cases move with
  | literal | special | entry => exact ⟨Nat.le_succ _, fun _ => rfl⟩
  | final _ _ listed => exact ⟨Nat.zero_le _, fun dot => absurd dot (unlisted listed)⟩
  | next _ _ listed others =>
    rw [others, List.length_cons] at dropped
    exact ⟨by omega, fun dot => absurd dot (unlisted listed)⟩
  | deeper _ _ listed =>
    exact ⟨Nat.succ_le_succ dropped, fun dot => absurd dot (unlisted listed)⟩

theorem Covers.here (filled : base.text ≠ "") (elsewhere : base.isHere = false) :
    Covers base ⟨"."⟩ := by
  refine ⟨filled, elsewhere, ?_⟩
  have some : base.text.utf8ByteSize ≠ 0 := by simpa using filled
  have := base.size_text_le
  have size : (Path.mk ".").text.utf8ByteSize = 1 := rfl
  omega

/-- What a run finds from a base can be found from the working directory, if that is the base. -/
theorem Run.into_base (plain : fs.Plain) (plain' : moved.Plain) (same : moved.root = fs.root)
    (run : Run fs steps components base last) (sound : Sound components)
    (elsewhere : base.isHere = false) (above : fs.DirAt base home) (here : moved.DirAt ⟨"."⟩ home)
    (directory : fs.isDir last = true) (short : last.text.utf8ByteSize < FileSystem.maxPathBytes) :
    ∃ found, Run moved steps components ⟨"."⟩ found ∧ ∃ target, fs.DirAt last target ∧
      moved.DirAt found target := by
  have covers := Covers.here (FileSystem.filled_of_leads? above.led) elsewhere
  refine run.relocate plain plain' same (fun _ => Covers) ?_ ?_ sound above here covers
  · intro component rest left path twin hop move sound covers
    obtain ⟨some, inner⟩ := move.name plain sound
    exact covers.land some inner
  · intro steps left path twin run sound covers
    refine ⟨run.isDir_start plain sound covers.filled covers.elsewhere directory, ?_⟩
    have grown := run.size_settled plain sound covers.filled
    rw [settled_of_elsewhere covers.elsewhere] at grown
    have := covers.size
    omega

/-- A path and a twin below a base. The twin is longer by at most the limit, less what the
components that are left may add. -/
structure Bounded (limit : Nat) (left : List Pattern) (path twin : Path) : Prop where
  filled : path.text ≠ ""
  covers : Covers twin path
  size : twin.stem.utf8ByteSize + 2 * left.length ≤ limit + (settled path).stem.utf8ByteSize

/-- Only hops from `.` by `.` lengthen the twin alone, and each uses up a component. -/
theorem Bounded.land (plain : fs.Plain) (move : Move fs component rest path hop left)
    (sound : Sound (component :: rest)) {limit : Nat}
    (bounded : Bounded limit (component :: rest) path twin) :
    Bounded limit left (hop.land path) (hop.land twin) := by
  obtain ⟨filled, covers, size⟩ := bounded
  obtain ⟨some, inner⟩ := move.name plain sound
  refine ⟨hop.land_filled path some inner, covers.land some inner, ?_⟩
  obtain ⟨fewer, dotted⟩ := move.length_left plain
  have slash : ("/" : String).utf8ByteSize = 1 := rfl
  rw [List.length_cons] at size
  rw [Hop.land_elsewhere covers.elsewhere, Path.stem_join some inner, String.utf8ByteSize_append,
    String.utf8ByteSize_append, slash]
  rcases settled_land filled some inner with ⟨here, -, dot⟩ | grown
  · have one : hop.name.utf8ByteSize = 1 := by
      rw [dot]
      rfl
    rw [settled_of_isHere here, String.utf8ByteSize_empty] at size
    rw [dotted dot]
    omega
  · omega

/-- What a run finds from the working directory can be found from a base that is the working
directory, unless its path gets too long. -/
theorem Run.from_base (plain : fs.Plain) (plain' : moved.Plain) (same : moved.root = fs.root)
    (run : Run fs steps components ⟨"."⟩ last) (sound : Sound components)
    (elsewhere : base.isHere = false) (above : moved.DirAt base home) (here : fs.DirAt ⟨"."⟩ home)
    (directory : fs.isDir last = true)
    (short : base.stem.utf8ByteSize + 2 * components.length + last.text.utf8ByteSize + 1 ≤
      FileSystem.maxPathBytes) :
    ∃ found, Run moved steps components base found ∧ ∃ target, fs.DirAt last target ∧
      moved.DirAt found target := by
  have start : Bounded (base.stem.utf8ByteSize + 2 * components.length) components ⟨"."⟩ base :=
    ⟨by decide, .here (FileSystem.filled_of_leads? above.led) elsewhere, Nat.le_add_right _ _⟩
  refine run.relocate plain plain' same (Bounded _) ?_ ?_ sound here above start
  · intro component rest left path twin hop move sound bounded
    exact bounded.land plain move sound
  · rintro steps left path twin run sound ⟨filled, covers, size⟩
    have grown := run.size_settled plain sound filled
    have := twin.size_text_le
    have := covers.size
    refine ⟨?_, by omega⟩
    cases dots : path.isHere with
    | false => exact run.isDir_start plain sound filled dots directory
    | true =>
      rw [settled_of_isHere dots, String.utf8ByteSize_empty] at size
      have led := here.of_isHere plain dots (by omega)
      exact (plain.isDir_iff_dirAt path).mpr ⟨home, led⟩

end Directions

section Expansions

variable {fs : FileSystem} {base : Path} {text : String} {parts : List Pattern}

/-- A pattern below a directory without wildcards, against the runs of its own components. -/
theorem expand_join (plain : fs.Plain) (verbatim : Pattern.isVerbatim base.text = true)
    (relative : (Path.mk text).isAbsolute = false) (filled : text ≠ "") {pattern : Pattern}
    (read : Pattern.parse text = .ok pattern)
    (parsed : (componentTexts text.toList).mapM (fun part => Pattern.parse (String.ofList part)) =
      .ok parts) (solid : ∀ part ∈ componentTexts base.text.toList, part ≠ []) :
    ∃ paths, expand fs (base.join ⟨text⟩).text = .ok paths ∧
      (∀ path ∈ paths, Run fs (FileSystem.maxPathBytes + parts.length + 2) parts (reach base) path) ∧
      (fs.isDir (reach base) = true → ∀ path, fs.isDir path = true →
        Run fs (FileSystem.maxPathBytes + parts.length + 2) parts (reach base) path →
          path ∈ paths) := by
  have components := (components_join verbatim relative filled).mpr
    ⟨parse_join verbatim relative read, parts, parsed, rfl⟩
  have expanded : ∃ paths, expand fs (base.join ⟨text⟩).text = .ok paths := by
    rw [expand, components]
    exact ⟨_, rfl⟩
  obtain ⟨paths, expanded⟩ := expanded
  refine ⟨paths, expanded, ?_, ?_⟩
  · intro path member
    obtain ⟨own, parsed', run⟩ := run_of_mem_expand verbatim relative filled expanded member
    obtain rfl : parts = own := Except.ok.inj (parsed.symm.trans parsed')
    exact run
  · intro arrived path directory run
    have whole := run_descend (solid_inner solid) plain (rooted_startOf base) arrived run
    rw [← List.length_map Pattern.verbatim] at whole
    exact (mem_expand_join relative components expanded).mpr ⟨whole, fun _ => directory⟩

variable (solid : ∀ part ∈ componentTexts base.text.toList, part ≠ [])
include solid

/-- A base whose components lead to `.` is the working directory. -/
theorem reach_of_isHere (plain : fs.Plain) {home : List String} (dir : fs.DirAt base home)
    (here : (reach base).isHere = true) : reach base = ⟨"."⟩ ∧ home = fs.cwd := by
  have same := (rooted_reach solid).2 here
  refine ⟨same, ?_⟩
  have goes := reach_goesOn base
  rw [same] at goes
  have led := plain.leads?_goesOn goes dir.led plain.dirAt_here.led
  rwa [List.append_nil, eq_comm] at led

/-- A run from a base to a directory, made from the base as the working directory. -/
theorem Run.from_reach (plain : fs.Plain) {home : List String} (dir : fs.DirAt base home)
    (sound : Sound parts) {steps : Nat} {last : Path} (run : Run fs steps parts (reach base) last)
    (directory : fs.isDir last = true) (short : last.text.utf8ByteSize < FileSystem.maxPathBytes) :
    ∃ found, Run { fs with cwd := home } steps parts ⟨"."⟩ found ∧
      ∃ target, fs.DirAt last target ∧ FileSystem.DirAt { fs with cwd := home } found target := by
  have plain' : FileSystem.Plain { fs with cwd := home } := ⟨plain.tree, dir.kind⟩
  cases here : (reach base).isHere with
  | true =>
    obtain ⟨same, rfl⟩ := reach_of_isHere solid plain dir here
    obtain ⟨target, led⟩ := (plain.isDir_iff_dirAt last).mp directory
    exact ⟨last, same ▸ run, target, led, led⟩
  | false =>
    have filled := (rooted_reach solid).1
    obtain ⟨place, above⟩ := (plain.isDir_iff_dirAt _).mp
      (run.isDir_start plain sound filled here directory)
    have led := plain.leads?_goesOn (reach_goesOn base) dir.led above.led
    rw [List.append_nil] at led
    subst led
    exact run.into_base plain plain' rfl sound here above plain'.dirAt_here directory short

/-- A run in a base, made from outside. -/
theorem Run.to_reach (plain : fs.Plain) {home : List String} (dir : fs.DirAt base home)
    (sound : Sound parts) {steps : Nat} {last : Path}
    (run : Run { fs with cwd := home } steps parts ⟨"."⟩ last)
    (directory : FileSystem.isDir { fs with cwd := home } last = true)
    (short : base.text.utf8ByteSize + 2 * parts.length + last.text.utf8ByteSize + 2 ≤
      FileSystem.maxPathBytes) :
    fs.isDir (reach base) = true ∧ ∃ found, Run fs steps parts (reach base) found ∧
      ∃ target, FileSystem.DirAt { fs with cwd := home } last target ∧ fs.DirAt found target := by
  have plain' : FileSystem.Plain { fs with cwd := home } := ⟨plain.tree, dir.kind⟩
  have above := dirAt_reach solid plain dir (by omega)
  refine ⟨(plain.isDir_iff_dirAt _).mpr ⟨home, above⟩, ?_⟩
  cases here : (reach base).isHere with
  | true =>
    obtain ⟨same, rfl⟩ := reach_of_isHere solid plain dir here
    obtain ⟨target, led⟩ := (plain.isDir_iff_dirAt last).mp directory
    exact ⟨last, same.symm ▸ run, target, led, led⟩
  | false =>
    have size := size_reach solid (FileSystem.filled_of_leads? dir.led) here
    have := base.size_stem_le
    exact run.from_base plain' plain rfl sound here above plain'.dirAt_here directory (by omega)

end Expansions

end Glob

theorem FileSystem.Plain.changeDir_iff {fs moved : FileSystem} (plain : fs.Plain) (path : Path) :
    fs.changeDir path = .ok moved ↔
      ∃ place, fs.DirAt path place ∧ moved = { fs with cwd := place } := by
  have reads : Ending.followed ≠ .written := by decide
  constructor
  · intro entered
    rw [changeDir] at entered
    cases resolved : fs.resolve .followed path with
    | error => simp [resolved, bind, Except.bind] at entered
    | ok target =>
      cases target with
      | vacant => simp [resolved, bind, Except.bind] at entered
      | found place node =>
        obtain ⟨led, found⟩ := (plain.resolve_iff reads path place node).mp resolved
        cases node with
        | file | link => simp [resolved, bind, Except.bind] at entered
        | dir entries =>
          simp only [resolved, bind, Except.bind, Except.ok.injEq] at entered
          exact ⟨place, ⟨led, by rw [Node.kindAt, found]; rfl⟩, entered.symm⟩
  · rintro ⟨place, ⟨led, kind⟩, rfl⟩
    obtain ⟨entries, found⟩ := Node.kindAt_eq_dir kind
    have resolved := (plain.resolve_iff reads path place (.dir entries)).mpr ⟨led, found⟩
    rw [changeDir, resolved]
    rfl

theorem Config.parse_of_valid {config : Config} (valid : config.invalid? = none) {text : String}
    (member : text ∈ config.includes) (wild : Pattern.isWild text = true) :
    ∃ pattern, Pattern.parse text = .ok pattern := by
  simp only [invalid?, Option.or_eq_none_iff, List.findSome?_eq_none_iff] at valid
  have checked := valid.2.1 text member
  rw [if_pos wild, Option.map_eq_none_iff, patternError?] at checked
  cases read : Pattern.parse text with
  | ok pattern => exact ⟨pattern, rfl⟩
  | error => simp [read] at checked

namespace Discovery

/-- A pattern below a base finds what the same pattern finds in the base, if the base has no
wildcards, no component is empty, each can be read by itself, and no path is too long. -/
theorem base_taken_literally {fs moved : FileSystem} (plain : fs.Plain) {base : Path}
    (entered : fs.changeDir base = .ok moved) (verbatim : Pattern.isVerbatim base.text = true)
    {config : Config} (valid : config.invalid? = none) {text : String}
    (member : text ∈ config.includes) (wild : Pattern.isWild text = true)
    (relative : (Path.mk text).isAbsolute = false)
    (solid : ∀ part ∈ Glob.componentTexts (base.join ⟨text⟩).text.toList, part ≠ [])
    (readable : ∀ part ∈ Glob.componentTexts text.toList,
      (Pattern.parse (String.ofList part)).isOk = true) :
    ∃ roots paths, rootsOf fs base text = .ok roots ∧ Glob.expand moved text = .ok paths ∧
      (∀ root ∈ roots, root.text.utf8ByteSize < FileSystem.maxPathBytes →
        ∃ path ∈ paths, ∃ place, fs.DirAt root place ∧ moved.DirAt path place) ∧
      ∀ path ∈ paths, moved.isDir path = true →
        base.text.utf8ByteSize + 2 * (Glob.componentTexts text.toList).length +
            path.text.utf8ByteSize + 2 ≤ FileSystem.maxPathBytes →
          ∃ root ∈ roots, ∃ place, fs.DirAt root place ∧ moved.DirAt path place := by
  obtain ⟨home, dir, rfl⟩ := (plain.changeDir_iff base).mp entered
  obtain ⟨pattern, read⟩ := config.parse_of_valid valid member wild
  have filled : text ≠ "" := by
    rintro rfl
    exact absurd wild (by decide)
  obtain ⟨parts, parsed⟩ := Glob.exists_mapM_ok fun part known =>
    Glob.exists_of_isOk (readable part known)
  rw [Glob.componentTexts_join base relative] at solid
  obtain ⟨solidBase, solidText⟩ := List.forall_mem_append.mp solid
  have sound := Glob.sound_of_parsed solidText parsed
  have count : (Glob.componentTexts text.toList).length = parts.length :=
    (Glob.mapM_eq_ok_iff.mp parsed).length_eq
  have plain' : FileSystem.Plain { fs with cwd := home } := ⟨plain.tree, dir.kind⟩
  -- In the base, the pattern stands below the empty path.
  have verbatim' : Pattern.isVerbatim (Path.mk "").text = true := rfl
  obtain ⟨found, expanded, runs, reached⟩ :=
    Glob.expand_join plain verbatim relative filled read parsed solidBase
  obtain ⟨paths, expanded', runs', reached'⟩ :=
    Glob.expand_join plain' verbatim' relative filled read parsed (by decide)
  rw [Path.join_of_empty rfl] at expanded'
  have roots : rootsOf fs base text = .ok (found.filter fs.isDir) := by
    simp only [rootsOf, if_pos wild, expanded]
  refine ⟨found.filter fs.isDir, paths, roots, expanded', ?_, ?_⟩
  · intro root known short
    obtain ⟨known, directory⟩ := List.mem_filter.mp known
    obtain ⟨path, run, place, led, led'⟩ :=
      (runs root known).from_reach solidBase plain dir sound directory short
    have here : FileSystem.isDir { fs with cwd := home } path = true :=
      (plain'.isDir_iff_dirAt path).mpr ⟨place, led'⟩
    exact ⟨path, reached' ((plain'.isDir_iff_dirAt _).mpr ⟨_, plain'.dirAt_here⟩) path here run, place,
      led, led'⟩
  · intro path known directory short
    rw [count] at short
    obtain ⟨arrived, root, run, place, led', led⟩ :=
      (runs' path known).to_reach solidBase plain dir sound directory short
    have here : fs.isDir root = true := (plain.isDir_iff_dirAt root).mpr ⟨place, led⟩
    exact ⟨root, List.mem_filter.mpr ⟨reached arrived root here run, here⟩, place, led, led'⟩

/-- The base loses the `.` in front of it, and the pattern meets the same directory. -/
theorem base_taken_literally_dotted :
    let fs : FileSystem := ⟨.dir [("other", .dir [("models", .dir [])]),
      ("shop", .dir [("a", .dir [("lib", .dir []), ("models", .dir [])])])], []⟩
    let moved : FileSystem := { fs with cwd := ["shop"] }
    let config : Config := { Config.default with includes := ["*/models"] }
    fs.Plain ∧ fs.changeDir ⟨"./shop"⟩ = .ok moved ∧ config.invalid? = none ∧
      rootsOf fs ⟨"./shop"⟩ "*/models" = .ok [⟨"shop/a/models"⟩] ∧
      ∃ paths, Glob.expand moved "*/models" = .ok paths ∧
        ∃ path ∈ paths, ∃ place, fs.DirAt ⟨"shop/a/models"⟩ place ∧ moved.DirAt path place := by
  intro fs moved config
  have plain : fs.Plain := ⟨by decide +kernel, rfl⟩
  have entered : fs.changeDir ⟨"./shop"⟩ = .ok moved :=
    (plain.changeDir_iff _).mpr ⟨["shop"], ⟨by decide +kernel, rfl⟩, rfl⟩
  have valid : config.invalid? = none := by decide +kernel
  have found : rootsOf fs ⟨"./shop"⟩ "*/models" = .ok [⟨"shop/a/models"⟩] := by decide +kernel
  refine ⟨plain, entered, valid, found, ?_⟩
  obtain ⟨roots, paths, found', expanded, inside, -⟩ := base_taken_literally plain entered
    (by decide) valid List.mem_cons_self (by decide) (by decide) (by decide +kernel)
    (by decide +kernel)
  obtain rfl := Except.ok.inj (found.symm.trans found')
  exact ⟨paths, expanded, inside _ List.mem_cons_self (by decide)⟩

/-- A base with brackets does not stand for itself, but for a directory next to it. -/
theorem base_taken_as_pattern :
    ¬ ∀ (fs moved : FileSystem) (base : Path) (config : Config) (text : String), fs.Plain →
      fs.changeDir base = .ok moved → config.invalid? = none → text ∈ config.includes →
      Pattern.isWild text = true → (Path.mk text).isAbsolute = false →
      ∃ roots paths, rootsOf fs base text = .ok roots ∧ Glob.expand moved text = .ok paths ∧
        ∀ place, (∃ root ∈ roots, fs.DirAt root place) ↔ ∃ path ∈ paths, moved.DirAt path place := by
  intro literal
  let fs : FileSystem := ⟨.dir
    [("shop1", .dir [("models", .dir [("b.rb", .file (some .empty))])]),
     ("shop[1]", .dir [("models", .dir [("a.rb", .file (some .empty))])])], []⟩
  let moved : FileSystem := { fs with cwd := ["shop[1]"] }
  let config : Config := { Config.default with includes := ["*"] }
  have plain : fs.Plain := ⟨by decide +kernel, rfl⟩
  have entered : fs.changeDir ⟨"shop[1]"⟩ = .ok moved :=
    (plain.changeDir_iff _).mpr ⟨["shop[1]"], ⟨by decide +kernel, rfl⟩, rfl⟩
  obtain ⟨roots, paths, found, expanded, same⟩ := literal fs moved ⟨"shop[1]"⟩ config "*" plain
    entered (by decide +kernel) List.mem_cons_self (by decide) (by decide)
  have names : Glob.namesIn fs ⟨"."⟩ = ["shop1", "shop[1]"] :=
    List.mergeSort_of_pairwise (by decide)
  have parts : Glob.components "shop[1]/*" =
      .ok [⟨"shop".toList.map .char ++ [.oneOf false [.single '1']]⟩, ⟨[.anyRun]⟩] := by
    decide +kernel
  have matched : Glob.expand fs "shop[1]/*" = .ok [⟨"shop1/models"⟩] := by
    rw [Glob.expand, parts]
    change Except.ok (Glob.expandFrom fs false _ _ ⟨"."⟩) = _
    rw [Glob.expandFrom_wild _ rfl, names]
    decide +kernel
  have beside : rootsOf fs ⟨"shop[1]"⟩ "*" = .ok [⟨"shop1/models"⟩] := by
    have joined : ((⟨"shop[1]"⟩ : Path).join ⟨"*"⟩).text = "shop[1]/*" := by decide +kernel
    rw [rootsOf, if_pos (by decide), joined, matched]
    decide +kernel
  have models : Glob.expand moved "*" = .ok [⟨"models"⟩] := by decide +kernel
  obtain rfl := Except.ok.inj (beside.symm.trans found)
  obtain rfl := Except.ok.inj (models.symm.trans expanded)
  have inside : moved.DirAt ⟨"models"⟩ ["shop[1]", "models"] := ⟨by decide +kernel, rfl⟩
  obtain ⟨root, member, led, -⟩ := (same _).mpr ⟨_, List.mem_cons_self, inside⟩
  obtain rfl := List.mem_singleton.mp member
  exact absurd led (by decide +kernel)

end Discovery

end AttributePins

import AttributePins.Proofs.Discovery.Expansion
import AttributePins.Proofs.FileSystem.Descent

/-! An expansion as a run of moves. Each move uses up components of the pattern and hops to
another path: to a name below, or aside to `.` or `..`. The paths that a pattern stands for are
those at which a run ends, so what every move keeps, every such path has. -/
namespace AttributePins.Glob

/-- Where a move goes: to a name below the path, or by `.` or `..` behind it. -/
inductive Hop where
  | into (name : String)
  | aside (name : String)

def Hop.name : Hop → String
  | .into name | .aside name => name

def Hop.land : Hop → Path → Path
  | .into name, path => child path name
  | .aside name, path => path.join ⟨name⟩

/-- What one component does at a path: the hop, and the components that are left behind it. -/
inductive Move (fs : FileSystem) (component : Pattern) (rest : List Pattern) (path : Path) :
    Hop → List Pattern → Prop where
  | literal {name : String} (spelled : component.literal? = some name)
      (taken : takesLiteral fs path name = true) : Move fs component rest path (.into name) rest
  | special {name : String} (wild : component.literal? = none) (directory : fs.isDir path = true)
      (stands : name ∈ specialNames component) : Move fs component rest path (.aside name) rest
  | entry {name : String} (wild : component.literal? = none)
      (single : component.isRecursive = false) (listed : name ∈ namesIn fs path)
      (accepted : component.accepts name = true) : Move fs component rest path (.into name) rest
  | final {name : String} (wild : component.literal? = none)
      (recursive : component.isRecursive = true) (listed : name ∈ namesIn fs path)
      (others : rest.dropWhile (·.isRecursive) = [])
      (directory : fs.isDir (child path name) = true) : Move fs component rest path (.into name) []
  | next {name : String} {following : Pattern} {later : List Pattern}
      (wild : component.literal? = none) (recursive : component.isRecursive = true)
      (listed : name ∈ namesIn fs path)
      (others : rest.dropWhile (·.isRecursive) = following :: later)
      (accepted : following.accepts name = true) : Move fs component rest path (.into name) later
  | deeper {name : String} (wild : component.literal? = none)
      (recursive : component.isRecursive = true) (listed : name ∈ namesIn fs path)
      (directory : fs.isDir (child path name) = true) :
      Move fs component rest path (.into name) (component :: rest.dropWhile (·.isRecursive))

/-- A run of at most so many moves that uses up the components. -/
inductive Run (fs : FileSystem) : Nat → List Pattern → Path → Path → Prop where
  | done (steps : Nat) (path : Path) : Run fs steps [] path path
  | step {steps : Nat} {component : Pattern} {rest left : List Pattern} {path last : Path}
      {hop : Hop} (move : Move fs component rest path hop left)
      (run : Run fs steps left (hop.land path) last) :
      Run fs (steps + 1) (component :: rest) path last

theorem Move.listed {fs : FileSystem} {component : Pattern} {rest left : List Pattern}
    {path : Path} {name : String} (move : Move fs component rest path (.into name) left)
    (wild : component.literal? = none) : name ∈ namesIn fs path := by
  cases move with
  | literal spelled =>
    rw [wild] at spelled
    contradiction
  | entry _ _ listed | final _ _ listed | next _ _ listed | deeper _ _ listed => exact listed

section Membership

variable {fs : FileSystem} {directoriesOnly : Bool} {last : Path}

theorem expandFrom_nil_of_isDir (steps : Nat) {path : Path} (directory : fs.isDir path = true) :
    expandFrom fs directoriesOnly steps [] path = [path] := by
  rw [expandFrom, directory]
  simp

theorem mem_expandEntry {steps : Nat} {component : Pattern} {rest : List Pattern} {name : String}
    {path : Path} (wild : component.literal? = none) (listed : name ∈ namesIn fs path) :
    last ∈ expandEntry fs directoriesOnly steps component rest name (child path name) ↔
      ∃ left, Move fs component rest path (.into name) left ∧
        last ∈ expandFrom fs directoriesOnly steps left (child path name) := by
  rw [expandEntry]
  cases recursive : component.isRecursive with
  | false =>
    constructor
    · intro member
      split at member
      · contradiction
      split at member
      · rename_i accepted
        exact ⟨rest, .entry wild recursive listed accepted, member⟩
      · contradiction
    · rintro ⟨left, move, member⟩
      cases move with
      | entry _ _ _ accepted => simpa [accepted] using member
      | literal spelled =>
        rw [wild] at spelled
        contradiction
      | final _ always | next _ always | deeper _ always =>
        rw [recursive] at always
        contradiction
  | true =>
    rw [if_pos rfl, List.mem_append]
    constructor
    · rintro (here | below)
      · split at here
        · rename_i others
          split at here
          · rename_i directory
            refine ⟨[], .final wild recursive listed others directory, ?_⟩
            rwa [expandFrom_nil_of_isDir steps directory]
          · contradiction
        · rename_i following later others
          split at here
          · rename_i accepted
            exact ⟨later, .next wild recursive listed others accepted, here⟩
          · contradiction
      · split at below
        · rename_i directory
          exact ⟨_, .deeper wild recursive listed directory, below⟩
        · contradiction
    · rintro ⟨left, move, member⟩
      cases move with
      | literal spelled =>
        rw [wild] at spelled
        contradiction
      | entry _ single =>
        rw [recursive] at single
        contradiction
      | final _ _ _ others directory =>
        rw [expandFrom_nil_of_isDir steps directory] at member
        left
        rwa [others, if_pos directory]
      | next _ _ _ others accepted =>
        left
        rw [others]
        dsimp only
        rwa [if_pos accepted]
      | deeper _ _ _ directory =>
        right
        rwa [if_pos directory]

theorem mem_expandFrom_succ (steps : Nat) (component : Pattern) (rest : List Pattern)
    (path : Path) :
    last ∈ expandFrom fs directoriesOnly (steps + 1) (component :: rest) path ↔
      ∃ hop left, Move fs component rest path hop left ∧
        last ∈ expandFrom fs directoriesOnly steps left (hop.land path) := by
  cases literal : component.literal? with
  | some name =>
    rw [expandFrom_literal steps literal]
    constructor
    · intro member
      split at member
      · rename_i taken
        exact ⟨_, _, .literal literal taken, member⟩
      · contradiction
    · rintro ⟨hop, left, move, member⟩
      cases move with
      | literal spelled taken =>
        obtain rfl := Option.some.inj (literal.symm.trans spelled)
        rwa [if_pos taken]
      | special wild | entry wild | final wild | next wild | deeper wild =>
        rw [literal] at wild
        contradiction
  | none =>
    rw [expandFrom_wild steps literal, List.mem_append, List.mem_flatMap]
    constructor
    · rintro (special | ⟨name, listed, member⟩)
      · split at special
        · rename_i directory
          obtain ⟨name, stands, member⟩ := List.mem_flatMap.mp special
          exact ⟨_, _, .special literal directory stands, member⟩
        · contradiction
      · obtain ⟨left, move, member⟩ := (mem_expandEntry literal listed).mp member
        exact ⟨_, left, move, member⟩
    · rintro ⟨hop, left, move, member⟩
      cases hop with
      | into name =>
        have listed := move.listed literal
        exact .inr ⟨name, listed, (mem_expandEntry literal listed).mpr ⟨left, move, member⟩⟩
      | aside name =>
        cases move with
        | special _ directory stands =>
          left
          rw [if_pos directory]
          exact List.mem_flatMap.mpr ⟨name, stands, member⟩

/-- A pattern stands for the ends of the runs of its components. -/
theorem mem_expandFrom_iff_run (steps : Nat) (components : List Pattern) (path : Path) :
    last ∈ expandFrom fs directoriesOnly steps components path ↔
      Run fs steps components path last ∧ (directoriesOnly = true → fs.isDir last = true) := by
  have ended (steps : Nat) (path : Path) :
      last ∈ expandFrom fs directoriesOnly steps [] path ↔
        Run fs steps [] path last ∧ (directoriesOnly = true → fs.isDir last = true) := by
    rw [expandFrom]
    constructor
    · intro member
      split at member
      · contradiction
      · rename_i kept
        obtain rfl := List.mem_singleton.mp member
        refine ⟨.done steps last, ?_⟩
        intro only
        simpa [only] using kept
    · rintro ⟨run, directory⟩
      cases run with
      | done =>
        rw [if_neg (by simpa using directory)]
        exact List.mem_singleton_self last
  induction steps generalizing components path with
  | zero =>
    cases components with
    | nil => exact ended 0 path
    | cons component rest =>
      rw [expandFrom]
      refine iff_of_false List.not_mem_nil ?_
      rintro ⟨run, -⟩
      contradiction
  | succ steps ih =>
    cases components with
    | nil => exact ended (steps + 1) path
    | cons component rest =>
      simp only [mem_expandFrom_succ, ih]
      constructor
      · rintro ⟨hop, left, move, run, directory⟩
        exact ⟨.step move run, directory⟩
      · rintro ⟨run, directory⟩
        cases run with
        | step move run => exact ⟨_, _, move, run, directory⟩

end Membership

section Paths

/-- What names are joined to at a path: those in the directory `.` stand for themselves. -/
def settled (path : Path) : Path := if path.isHere then ⟨""⟩ else path

theorem child_eq_join (path : Path) (name : String) :
    child path name = (settled path).join ⟨name⟩ := by
  rw [child, settled]
  split
  · rw [Path.join_of_empty rfl]
  · rfl

theorem settled_of_elsewhere {path : Path} (elsewhere : path.isHere = false) :
    settled path = path := by
  rw [settled, elsewhere]
  rfl

def Hop.stand : Hop → Path → Path
  | .into _, path => settled path
  | .aside _, path => path

theorem Hop.land_eq (hop : Hop) (path : Path) :
    hop.land path = (hop.stand path).join ⟨hop.name⟩ := by
  cases hop with
  | into name => exact child_eq_join path name
  | aside => rfl

theorem Hop.land_elsewhere {path : Path} (elsewhere : path.isHere = false) (hop : Hop) :
    hop.land path = path.join ⟨hop.name⟩ := by
  cases hop with
  | into name => rw [land, child_eq_join, settled_of_elsewhere elsewhere, Hop.name]
  | aside => rfl

theorem settled_goesOn (path : Path) : Path.GoesOn path [] (settled path) := by
  rw [settled]
  split
  · rename_i here
    have none := ((Path.isHere_iff path).mp here).2
    refine ⟨?_, ?_, by simp⟩
    · rw [(Path.isHere_parts here).1]
      rfl
    · rw [none]
      rfl
  · exact .refl path

theorem child_goesOn {name : String} (inner : '/' ∉ name.toList) (notUp : name ≠ "..")
    (path : Path) : Path.GoesOn path (Path.mk name).trail (child path name) := by
  have forward : ".." ∉ (Path.mk name).trail := by
    rw [Path.trail_of_inner inner]
    split
    · exact List.not_mem_nil
    · simpa using notUp.symm
  have joined := Path.GoesOn.join (Path.isAbsolute_of_inner inner) forward (settled path)
  rw [← child_eq_join] at joined
  exact (settled_goesOn path).trans joined

/-- A path elsewhere than `.` keeps what it starts from, and stays elsewhere. -/
theorem elsewhere_join {path other : Path} (relative : other.isAbsolute = false)
    (filled : path.text ≠ "") (elsewhere : path.isHere = false) :
    (path.join other).isHere = false := by
  rw [Bool.eq_false_iff, ne_eq, Path.isHere_iff] at elsewhere ⊢
  rw [Path.anchored_join relative filled, Path.trail_join relative]
  rintro ⟨here, none⟩
  exact elsewhere ⟨here, (List.append_eq_nil_iff.mp none).1⟩

end Paths

section Components

/-- A component that stands for names only. -/
def Steady (component : Pattern) : Prop :=
  component.literal? ≠ some "" ∧ specialNames component = []

/-- A component that does not lead up. -/
def Straight (component : Pattern) : Prop := ".." ∉ specialNames component

instance : DecidablePred Steady := fun _ => inferInstanceAs (Decidable (_ ∧ _))

instance : DecidablePred Straight := fun _ => inferInstanceAs (Decidable (¬ _))

instance decidableForallOk {ε α : Type} (result : Except ε α) (p : α → Prop) [DecidablePred p] :
    Decidable (∀ value, result = .ok value → p value) :=
  match result with
  | .ok value => decidable_of_iff (p value) (by simp)
  | .error _ => isTrue nofun

theorem mem_specialNames_of_literal {component : Pattern} {name : String}
    (spelled : component.literal? = some name) (dots : name = "." ∨ name = "..") :
    name ∈ specialNames component := by
  obtain ⟨text, all, rfl⟩ := Option.map_eq_some_iff.mp spelled
  have tokens := Pattern.eq_map_char_of_mapM all
  obtain ⟨tokens'⟩ := component
  rcases dots with same | same
  · have text : text = ['.'] := String.ofList_inj.mp same
    subst text
    obtain rfl : tokens' = [.char '.'] := tokens
    decide
  · have text : text = ['.', '.'] := String.ofList_inj.mp same
    subst text
    obtain rfl : tokens' = [.char '.', .char '.'] := tokens
    decide

theorem Steady.isName {component : Pattern} (steady : Steady component) (inner : component.Inner)
    {name : String} (spelled : component.literal? = some name) : Node.isName name = true := by
  obtain ⟨filled, none⟩ := steady
  have plain (dots : name = "." ∨ name = "..") : False := by
    have stands := mem_specialNames_of_literal spelled dots
    rw [none] at stands
    exact List.not_mem_nil stands
  refine Node.isName_iff.mpr ⟨?_, fun here => plain (.inl here), fun up => plain (.inr up),
    inner name spelled⟩
  rintro rfl
  exact filled spelled

theorem mem_specialNames {component : Pattern} {name : String}
    (stands : name ∈ specialNames component) : name = ".." ∨ name = "." := by
  rw [specialNames] at stands
  split at stands
  · simpa using List.mem_of_mem_filter stands
  · contradiction

end Components

section Runs

variable {fs : FileSystem} {component : Pattern} {rest left : List Pattern} {path last : Path}
  {hop : Hop} {steps : Nat} {components : List Pattern}

theorem Move.subset (move : Move fs component rest path hop left) :
    ∀ other ∈ left, other ∈ component :: rest := by
  have dropped : (rest.dropWhile (·.isRecursive)).Sublist rest := List.dropWhile_sublist _
  intro other member
  cases move with
  | literal | special | entry => exact List.mem_cons_of_mem component member
  | final => contradiction
  | next _ _ _ others =>
    rw [others] at dropped
    exact List.mem_cons_of_mem component (dropped.subset (List.mem_cons_of_mem _ member))
  | deeper =>
    rcases List.mem_cons.mp member with rfl | member
    · exact List.mem_cons_self
    · exact List.mem_cons_of_mem component (dropped.subset member)

/-- What a move hops by: a component taken literally, a name in the directory, or one of the
special names. -/
theorem Move.hop_cases (move : Move fs component rest path hop left) :
    (∃ name, hop = .into name ∧ (component.literal? = some name ∧
        takesLiteral fs path name = true ∨ name ∈ namesIn fs path)) ∨
      ∃ name ∈ specialNames component, hop = .aside name := by
  cases move with
  | literal spelled taken => exact .inl ⟨_, rfl, .inl ⟨spelled, taken⟩⟩
  | special _ _ stands => exact .inr ⟨_, stands, rfl⟩
  | entry _ _ listed | final _ _ listed | next _ _ listed | deeper _ _ listed =>
    exact .inl ⟨_, rfl, .inr listed⟩

/-- A run of straight components goes on by names. -/
theorem Run.goesOn (plain : fs.Plain) (run : Run fs steps components path last)
    (straight : ∀ component ∈ components, Straight component)
    (inner : ∀ component ∈ components, component.Inner) :
    ∃ names, Path.GoesOn path names last := by
  induction run with
  | done steps path => exact ⟨[], .refl path⟩
  | @step steps component rest left path last hop move run ih =>
    have kept := move.subset
    obtain ⟨more, later⟩ := ih (fun other member => straight other (kept other member))
      (fun other member => inner other (kept other member))
    have forward := straight component List.mem_cons_self
    have first : ∃ names, Path.GoesOn path names (hop.land path) := by
      rcases move.hop_cases with ⟨name, rfl, ⟨spelled, -⟩ | listed⟩ | ⟨name, stands, rfl⟩
      · refine ⟨_, child_goesOn (inner component List.mem_cons_self name spelled) ?_ path⟩
        rintro rfl
        exact forward (mem_specialNames_of_literal spelled (.inr rfl))
      · obtain ⟨-, -, notUp, slashless⟩ := Node.isName_iff.mp (isName_of_mem_namesIn plain listed)
        exact ⟨_, child_goesOn slashless notUp path⟩
      · rcases mem_specialNames stands with rfl | rfl
        · exact absurd stands forward
        · exact ⟨_, Path.GoesOn.join rfl (by decide) path⟩
    obtain ⟨names, first⟩ := first
    exact ⟨names ++ more, first.trans later⟩

theorem Move.slash_not_mem (plain : fs.Plain) (move : Move fs component rest path hop left)
    (inner : component.Inner) : '/' ∉ hop.name.toList := by
  rcases move.hop_cases with ⟨name, rfl, ⟨spelled, -⟩ | listed⟩ | ⟨name, stands, rfl⟩
  · exact inner name spelled
  · exact (Node.isName_iff.mp (isName_of_mem_namesIn plain listed)).2.2.2
  · rw [Hop.name]
    rcases mem_specialNames stands with rfl | rfl <;> decide

/-- A run from a path elsewhere than `.` keeps what the path starts from. -/
theorem Run.anchored (plain : fs.Plain) (run : Run fs steps components path last)
    (inner : ∀ component ∈ components, component.Inner) (filled : path.text ≠ "")
    (elsewhere : path.isHere = false) : last.anchored = path.anchored := by
  induction run with
  | done => rfl
  | @step steps component rest left path last hop move run ih =>
    have slashless := move.slash_not_mem plain (inner component List.mem_cons_self)
    have relative := Path.isAbsolute_of_inner slashless
    rw [Hop.land_elsewhere elsewhere] at ih
    rw [ih (fun other member => inner other (move.subset other member))
      (Path.join_filled_left relative filled) (elsewhere_join relative filled elsewhere),
      Path.anchored_join relative filled]

theorem Move.steady (plain : fs.Plain) (move : Move fs component rest path hop left)
    (steady : Steady component) (inner : component.Inner) :
    ∃ name, Node.isName name = true ∧ hop = .into name := by
  rcases move.hop_cases with ⟨name, rfl, ⟨spelled, -⟩ | listed⟩ | ⟨name, stands, rfl⟩
  · exact ⟨name, steady.isName inner spelled, rfl⟩
  · exact ⟨name, isName_of_mem_namesIn plain listed, rfl⟩
  · rw [steady.2] at stands
    contradiction

theorem Run.spells_on (plain : fs.Plain) (run : Run fs steps components path last)
    (steady : ∀ component ∈ components, Steady component)
    (inner : ∀ component ∈ components, component.Inner) {front : String} {names : List String}
    (spelled : Path.Spells front names path) (elsewhere : path.isHere = false) :
    ∃ more, Path.Spells front (names ++ more) last := by
  induction run generalizing names with
  | done => exact ⟨[], by rwa [List.append_nil]⟩
  | @step steps component rest left path last hop move run ih =>
    obtain ⟨name, proper, rfl⟩ := move.steady plain (steady component List.mem_cons_self)
      (inner component List.mem_cons_self)
    have joined := spelled.join proper
    rw [← settled_of_elsewhere elsewhere, ← child_eq_join] at joined
    obtain ⟨more, whole⟩ := ih (fun other member => steady other (move.subset other member))
      (fun other member => inner other (move.subset other member)) joined (isHere_child proper path)
    exact ⟨name :: more, by rwa [List.append_cons]⟩

/-- A run of steady components spells its end by the names on the way. -/
theorem Run.spells (plain : fs.Plain) (run : Run fs steps components path last)
    (some : components ≠ []) (steady : ∀ component ∈ components, Steady component)
    (inner : ∀ component ∈ components, component.Inner) :
    ∃ names, Path.Spells (settled path).stem names last := by
  cases run with
  | done => contradiction
  | @step steps component rest left path last hop move run =>
    obtain ⟨name, proper, rfl⟩ := move.steady plain (steady component List.mem_cons_self)
      (inner component List.mem_cons_self)
    have first := Path.Spells.join_first proper (settled path)
    rw [← child_eq_join] at first
    obtain ⟨more, whole⟩ := run.spells_on plain
      (fun other member => steady other (move.subset other member))
      (fun other member => inner other (move.subset other member)) first (isHere_child proper path)
    exact ⟨name :: more, whole⟩

end Runs

end AttributePins.Glob

import AttributePins.FileSystem.Walk
import AttributePins.Proofs.FileSystem.Tree
import Mathlib.Data.List.Flatten
import Mathlib.Data.List.Perm.Basic

/-! Trees that differ only in the order in which their directories list what they hold, links
included. Every request is refused alike or answered alike on both, and a walk makes the same
visits in another order. -/
namespace AttributePins

/-- Requests that are refused for the same reason, or have related answers. -/
inductive Agree {α β ε : Type} (related : α → β → Prop) : Except ε α → Except ε β → Prop where
  | error (error : ε) : Agree related (.error error) (.error error)
  | ok {answer : α} {other : β} (same : related answer other) :
      Agree related (.ok answer) (.ok other)

namespace Agree

variable {α β γ δ ε : Type} {related : α → β → Prop} {further : γ → δ → Prop}
  {first : Except ε α} {second : Except ε β}

theorem outcome (agree : Agree related first second) :
    (∃ error, first = .error error ∧ second = .error error) ∨
      ∃ answer other, first = .ok answer ∧ second = .ok other ∧ related answer other := by
  cases agree with
  | error error => exact .inl ⟨error, rfl, rfl⟩
  | ok same => exact .inr ⟨_, _, rfl, rfl, same⟩

theorem isOk_eq (agree : Agree related first second) : first.isOk = second.isOk := by
  cases agree <;> rfl

theorem bind {f : α → Except ε γ} {g : β → Except ε δ} (agree : Agree related first second)
    (step : ∀ answer other, related answer other → Agree further (f answer) (g other)) :
    Agree further (first.bind f) (second.bind g) := by
  cases agree with
  | error error => exact .error error
  | ok same => exact step _ _ same

end Agree

namespace Node

/-- Trees that differ in the order of entries only. -/
inductive Rearranged : Node → Node → Prop where
  | file (content : Option ByteArray) : Rearranged (.file content) (.file content)
  | link (target : String) : Rearranged (.link target) (.link target)
  | dir {entries others : List (String × Node)} (distinct : (entries.map (·.1)).Nodup)
      (names : (entries.map (·.1)).Perm (others.map (·.1)))
      (below : ∀ name node other, (name, node) ∈ entries → (name, other) ∈ others →
        Rearranged node other) : Rearranged (.dir entries) (.dir others)

theorem lookup_eq_none_iff {entries : List (String × Node)} {name : String} :
    entries.lookup name = none ↔ name ∉ entries.map (·.1) := by
  rw [List.lookup_eq_none_iff, List.mem_map]
  grind

namespace Rearranged

variable {node other : Node}

/-- Directories that hold the same names have the same entries missing and related ones present. -/
theorem lookup {entries others : List (String × Node)}
    (names : (entries.map (·.1)).Perm (others.map (·.1)))
    (below : ∀ name node other, (name, node) ∈ entries → (name, other) ∈ others →
      Rearranged node other) (name : String) :
    entries.lookup name = none ∧ others.lookup name = none ∨
      ∃ node other, entries.lookup name = some node ∧ others.lookup name = some other ∧
        Rearranged node other := by
  cases found : entries.lookup name with
  | none =>
    have absent := lookup_eq_none_iff.mp found
    exact .inl ⟨rfl, lookup_eq_none_iff.mpr fun member => absent (names.mem_iff.mpr member)⟩
  | some node =>
    cases found' : others.lookup name with
    | none =>
      have absent := lookup_eq_none_iff.mp found'
      exact absurd (names.mem_iff.mp (List.mem_map_of_mem (mem_of_lookup found))) absent
    | some other =>
      exact .inr ⟨node, other, rfl, rfl, below name node other (mem_of_lookup found)
        (mem_of_lookup found')⟩

theorem get? (same : Rearranged node other) (place : List String) :
    node.get? place = none ∧ other.get? place = none ∨
      ∃ part part', node.get? place = some part ∧ other.get? place = some part' ∧
        Rearranged part part' := by
  induction place generalizing node other with
  | nil => exact .inr ⟨node, other, get?_nil node, get?_nil other, same⟩
  | cons name rest ih =>
    cases same with
    | file | link => exact .inl ⟨rfl, rfl⟩
    | dir distinct names below =>
      rw [Node.get?, Node.get?]
      rcases lookup names below name with ⟨first, second⟩ | ⟨child, child', first, second, same⟩
      · rw [first, second]
        exact .inl ⟨rfl, rfl⟩
      · rw [first, second]
        exact ih same

theorem isDir_eq (same : Rearranged node other) : node.isDir = other.isDir := by
  cases same <;> rfl

theorem isFile_eq (same : Rearranged node other) : node.isFile = other.isFile := by
  cases same <;> rfl

end Rearranged

section Walking

/-- What the entries of a directory add to a walk, by name. -/
def visitsAt (path : Path) (entries : List (String × Node)) (name : String) : List Visit :=
  ((entries.lookup name).map fun node => node.visits (path.join ⟨name⟩)).getD []

theorem visitsBelow_eq_flatMap (path : Path) (entries : List (String × Node)) :
    visitsBelow path entries = entries.flatMap fun entry => entry.2.visits (path.join ⟨entry.1⟩) := by
  induction entries with
  | nil => rfl
  | cons entry rest ih => rw [visitsBelow, ih, List.flatMap_cons]

theorem visitsBelow_eq_names (path : Path) {entries : List (String × Node)}
    (distinct : (entries.map (·.1)).Nodup) :
    visitsBelow path entries = (entries.map (·.1)).flatMap (visitsAt path entries) := by
  rw [visitsBelow_eq_flatMap, List.flatMap_map]
  refine List.flatMap_congr fun entry member => ?_
  rw [visitsAt, lookup_of_mem distinct member, Option.map_some, Option.getD_some]

/-- Whatever the order of the entries, a walk visits the same. -/
theorem Rearranged.visits_perm {node other : Node} (same : Rearranged node other) (path : Path) :
    (node.visits path).Perm (other.visits path) := by
  induction same generalizing path with
  | file | link => exact .refl _
  | @dir entries others distinct names below ih =>
    rw [visits, visits]
    refine .cons _ ?_
    split
    · exact .refl _
    · rw [visitsBelow_eq_names path distinct,
        visitsBelow_eq_names path (names.nodup_iff.mp distinct)]
      refine (names.flatMap_right _).trans (.flatMap_left _ fun name _ => ?_)
      rcases Rearranged.lookup names below name with
        ⟨first, second⟩ | ⟨child, child', first, second, -⟩
      · rw [visitsAt, visitsAt, first, second]
      · rw [visitsAt, visitsAt, first, second]
        exact ih name child child' (mem_of_lookup first) (mem_of_lookup second) _

end Walking

end Node

namespace FileSystem

inductive Target.Rearranged : Target → Target → Prop where
  | found (place : List String) {node other : Node} (same : node.Rearranged other) :
      Rearranged (.found place node) (.found place other)
  | vacant (directory : List String) (name : String) :
      Rearranged (.vacant directory name) (.vacant directory name)

inductive Progress.Rearranged : Progress → Progress → Prop where
  | arrived {target other : Target} (same : target.Rearranged other) :
      Rearranged (.arrived target) (.arrived other)
  | atLink (directory : List String) (link : String) (rest : List String) :
      Rearranged (.atLink directory link rest) (.atLink directory link rest)

section Resolution

variable {root other : Node} (same : root.Rearranged other) (ending : Ending)

include same

theorem walkNames_rearranged (place names : List String) :
    Agree Progress.Rearranged (walkNames root ending place names)
      (walkNames other ending place names) := by
  induction names generalizing place with
  | nil =>
    rw [walkNames, walkNames]
    rcases same.get? place with ⟨first, second⟩ | ⟨part, part', first, second, related⟩
    · rw [first, second]
      exact .error _
    · rw [first, second]
      exact .ok (.arrived (.found place related))
  | cons name rest ih =>
    rw [walkNames, walkNames]
    split
    · exact ih place
    split
    · exact ih place.dropLast
    split
    · exact .error _
    split
    · exact .error _
    rcases same.get? place with ⟨first, second⟩ | ⟨part, part', first, second, related⟩
    · rw [first, second]
      exact .error _
    rw [first, second]
    cases related with
    | file | link => exact .error _
    | dir distinct names below =>
      dsimp only
      rcases Node.Rearranged.lookup names below name with
        ⟨absent, absent'⟩ | ⟨child, child', present, present', related⟩
      · rw [absent, absent']
        dsimp only
        split
        · exact .ok (.arrived (.vacant place name))
        · exact .error _
      · rw [present, present']
        cases related with
        | file content =>
          dsimp only
          split
          · exact .ok (.arrived (.found _ (.file content)))
          · exact .error _
        | link target =>
          dsimp only
          split
          · exact .ok (.arrived (.found _ (.link target)))
          · exact .ok (.atLink place target rest)
        | dir => exact ih (place ++ [name])

theorem resolveFrom_rearranged (links : Nat) (place names : List String) :
    Agree Target.Rearranged (resolveFrom root ending links place names)
      (resolveFrom other ending links place names) := by
  induction links generalizing place names with
  | zero =>
    rw [resolveFrom, resolveFrom]
    rcases (walkNames_rearranged same ending place names).outcome with
      ⟨error, first, second⟩ | ⟨reached, reached', first, second, related⟩
    · rw [first, second]
      exact .error error
    · rw [first, second]
      cases related with
      | arrived related => exact .ok related
      | atLink => exact .error _
  | succ links ih =>
    rw [resolveFrom, resolveFrom]
    rcases (walkNames_rearranged same ending place names).outcome with
      ⟨error, first, second⟩ | ⟨reached, reached', first, second, related⟩
    · rw [first, second]
      exact .error error
    · rw [first, second]
      cases related with
      | arrived related => exact .ok related
      | atLink directory link rest => exact ih _ _

end Resolution

/-- File systems whose trees differ in the order of entries only. -/
structure Rearranged (fs other : FileSystem) : Prop where
  root : fs.root.Rearranged other.root
  cwd : fs.cwd = other.cwd

namespace Rearranged

variable {fs other : FileSystem} (same : fs.Rearranged other)

include same

theorem resolve (ending : Ending) (path : Path) :
    Agree Target.Rearranged (fs.resolve ending path) (other.resolve ending path) := by
  rw [FileSystem.resolve, FileSystem.resolve, same.cwd]
  cases checkText path.text with
  | error error => exact .error error
  | ok => exact resolveFrom_rearranged same.root ending _ _ _

theorem node (ending : Ending) (path : Path) :
    Agree Node.Rearranged ((fs.resolve ending path).bind Target.node)
      ((other.resolve ending path).bind Target.node) := by
  refine (same.resolve ending path).bind fun target target' related => ?_
  cases related with
  | found place related => exact .ok related
  | vacant => exact .error _

theorem stat (path : Path) : Agree Node.Rearranged (fs.stat path) (other.stat path) :=
  same.node .followed path

theorem linkStat (path : Path) : Agree Node.Rearranged (fs.linkStat path) (other.linkStat path) :=
  same.node .kept path

theorem exists?_eq (path : Path) : fs.exists? path = other.exists? path :=
  (same.stat path).isOk_eq

theorem isDir_eq (path : Path) : fs.isDir path = other.isDir path := by
  rw [isDir, isDir]
  rcases (same.stat path).outcome with ⟨error, first, second⟩ | ⟨node, node', first, second, related⟩
  · rw [first, second]
  · rw [first, second]
    exact related.isDir_eq

theorem isFile_eq (path : Path) : fs.isFile path = other.isFile path := by
  rw [isFile, isFile]
  rcases (same.stat path).outcome with ⟨error, first, second⟩ | ⟨node, node', first, second, related⟩
  · rw [first, second]
  · rw [first, second]
    exact related.isFile_eq

theorem walk_perm (path : Path) : (fs.walk path).Perm (other.walk path) := by
  rw [walk, walk]
  rcases (same.linkStat path).outcome with
    ⟨error, first, second⟩ | ⟨node, node', first, second, related⟩
  · rw [first, second]
  rw [first, second]
  cases related with
  | file content => exact (Node.Rearranged.file content).visits_perm path
  | dir distinct names below => exact (Node.Rearranged.dir distinct names below).visits_perm path
  | link =>
    rcases (same.stat path).outcome with
      ⟨error, first, second⟩ | ⟨target, target', first, second, related⟩
    · rw [first, second]
    · rw [first, second]
      exact related.visits_perm path

end Rearranged

end FileSystem
end AttributePins

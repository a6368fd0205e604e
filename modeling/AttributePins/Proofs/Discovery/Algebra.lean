import AttributePins.Proofs.Discovery.Selection
import AttributePins.Proofs.FileSystem.Rearrangement
import AttributePins.Proofs.Source.Order
import Mathlib.Data.Set.Basic

/-! A search as an operation on sets: it unites what its includes and its extensions find, and
meets what its ignores leave. So the order of its settings does not matter, nor how often one
stands there, nor the order in which directories list their entries. -/
namespace AttributePins

namespace Glob

variable {fs other : FileSystem}

theorem takesLiteral_rearranged (same : fs.Rearranged other) (directory : Path) (name : String) :
    takesLiteral fs directory name = takesLiteral other directory name := by
  rw [takesLiteral, takesLiteral, same.isDir_eq, (same.stat _).isOk_eq, (same.linkStat _).isOk_eq]

/-- The names of a directory are sorted, so they show nothing of its order. -/
theorem namesIn_rearranged (same : fs.Rearranged other) (directory : Path) :
    namesIn fs directory = namesIn other directory := by
  rw [namesIn, namesIn, FileSystem.entries, FileSystem.entries]
  rcases (same.stat directory).outcome with
    ⟨error, first, second⟩ | ⟨node, node', first, second, related⟩
  · rw [first, second]
  rw [first, second]
  cases related with
  | file | link => rfl
  | @dir entries others distinct names below =>
    have perm := (List.mergeSort_perm (entries.map (·.1)) (· ≤ ·)).trans
      (names.trans (List.mergeSort_perm (others.map (·.1)) (· ≤ ·)).symm)
    exact perm.eq_of_pairwise (fun _ _ _ _ le ge => String.le_antisymm le ge)
      (mergeSort_by_name_ordered id _) (mergeSort_by_name_ordered id _)

theorem expandFrom_rearranged (same : fs.Rearranged other) (directoriesOnly : Bool) (steps : Nat)
    (components : List Pattern) (path : Path) :
    expandFrom fs directoriesOnly steps components path =
      expandFrom other directoriesOnly steps components path := by
  induction steps generalizing components path with
  | zero => cases components <;> simp only [expandFrom, same.isDir_eq]
  | succ steps ih =>
    cases components with
    | nil => simp only [expandFrom, same.isDir_eq]
    | cons component rest =>
      cases literal : component.literal? with
      | some name =>
        simp only [expandFrom_literal steps literal, takesLiteral_rearranged same, ih]
      | none =>
        simp only [expandFrom_wild steps literal, expandEntry, namesIn_rearranged same,
          same.isDir_eq, ih]

theorem expand_rearranged (same : fs.Rearranged other) (text : String) :
    expand fs text = expand other text := by
  simp only [expand, expandFrom_rearranged same]

end Glob

namespace Discovery

variable {fs other : FileSystem} {base : Path} {includes ignores extensions : List String}

theorem mem_keptIgnores {ignore : Ignore} :
    ignore ∈ keptIgnores base ignores ↔ ∃ text ∈ ignores, Ignore.ofText base text = .ok ignore :=
  mem_outcomes_ok

theorem hasExtension_iff {path : Path} :
    hasExtension extensions path = true ↔ ∃ text ∈ extensions, path.extension? = some text := by
  rw [hasExtension]
  cases path.extension? <;> simp

/-- What a text among the ignores leaves of a search. -/
def Passes (base path : Path) (text : String) : Prop :=
  ∀ ignore, Ignore.ofText base text = .ok ignore → ignore.drops path = false

def listed (fs : FileSystem) (base : Path) (includes ignores extensions : List String) :
    Set String :=
  {name | name ∈ (search fs base includes ignores extensions).files}

/-- What is listed, setting by setting. -/
theorem mem_listed {name : String} :
    name ∈ listed fs base includes ignores extensions ↔
      (∀ text ∈ ignores, Passes base ⟨name⟩ text) ∧ fs.isFile ⟨name⟩ = true ∧
        (∃ text ∈ extensions, (Path.mk name).extension? = some text) ∧
        ∃ root ∈ roots fs base includes, .entry ⟨name⟩ ∈ fs.walk root := by
  have kept : (keptIgnores base ignores).any (·.drops ⟨name⟩) = false ↔
      ∀ text ∈ ignores, Passes base ⟨name⟩ text := by
    simp only [List.any_eq_false, mem_keptIgnores, Passes, Bool.not_eq_true]
    exact ⟨fun all text known ignore read => all ignore ⟨text, known, read⟩,
      fun all ignore ⟨text, known, read⟩ => all text known ignore read⟩
  refine mem_files.trans ?_
  rw [selects, Bool.and_eq_true, Bool.and_eq_true, Bool.not_eq_true', kept, hasExtension_iff,
    and_assoc, and_assoc]

theorem mem_roots_append {first second : List String} (some : first ≠ []) (others : second ≠ [])
    {root : Path} : root ∈ roots fs base (first ++ second) ↔
      root ∈ roots fs base first ∨ root ∈ roots fs base second := by
  simp only [mem_roots, List.append_eq_nil_iff, some, others, false_and, false_or,
    List.mem_append, or_and_right, exists_or]

theorem listed_includes_append {first second : List String} (some : first ≠ [])
    (others : second ≠ []) : listed fs base (first ++ second) ignores extensions =
      listed fs base first ignores extensions ∪ listed fs base second ignores extensions := by
  ext name
  simp only [Set.mem_union, mem_listed,
    mem_roots_append some others, or_and_right, exists_or, and_or_left]

theorem listed_ignores_append (first second : List String) :
    listed fs base includes (first ++ second) extensions =
      listed fs base includes first extensions ∩ listed fs base includes second extensions := by
  ext name
  simp only [Set.mem_inter_iff, mem_listed, List.forall_mem_append]
  tauto

theorem listed_extensions_append (first second : List String) :
    listed fs base includes ignores (first ++ second) =
      listed fs base includes ignores first ∪ listed fs base includes ignores second := by
  ext name
  simp only [Set.mem_union, mem_listed, List.mem_append,
    or_and_right, exists_or, and_or_left]

theorem listed_ignores_anti {more : List String} (within : ignores ⊆ more) :
    listed fs base includes more extensions ⊆ listed fs base includes ignores extensions := by
  intro name member
  simp only [mem_listed] at member ⊢
  exact ⟨fun text known => member.1 text (within known), member.2⟩

/-- The sorted list of files is determined by its set. -/
theorem files_eq_of_listed {base' : Path} {includes' ignores' extensions' : List String}
    (same : listed fs base includes ignores extensions =
      listed other base' includes' ignores' extensions') :
    (search fs base includes ignores extensions).files =
      (search other base' includes' ignores' extensions').files :=
  eq_of_increasing (sortedSet_increasing _) (sortedSet_increasing _) (Set.ext_iff.mp same)

theorem rootsOf_rearranged (same : fs.Rearranged other) (base : Path) (text : String) :
    rootsOf fs base text = rootsOf other base text := by
  have directories : fs.isDir = other.isDir := funext same.isDir_eq
  simp only [rootsOf, Glob.expand_rearranged same, same.exists?_eq, directories]

theorem files_rearranged (same : fs.Rearranged other) (base : Path)
    (includes ignores extensions : List String) :
    (search fs base includes ignores extensions).files =
      (search other base includes ignores extensions).files := by
  have rooted : roots fs base includes = roots other base includes := by
    rw [roots, roots, funext (rootsOf_rearranged same base)]
  refine files_eq_of_listed (Set.ext fun name => ?_)
  simp only [mem_listed, same.isFile_eq, rooted,
    (same.walk_perm _).mem_iff]

/-- Neither the order of the settings matters nor how often one of them stands there. -/
theorem files_of_same_settings {includes' ignores' extensions' : List String}
    (inc : ∀ text, text ∈ includes ↔ text ∈ includes')
    (ign : ∀ text, text ∈ ignores ↔ text ∈ ignores')
    (ext : ∀ text, text ∈ extensions ↔ text ∈ extensions') :
    (search fs base includes ignores extensions).files =
      (search fs base includes' ignores' extensions').files := by
  have none : includes = [] ↔ includes' = [] := by
    simp only [List.eq_nil_iff_forall_not_mem, inc]
  refine files_eq_of_listed (Set.ext fun name => ?_)
  simp only [mem_listed, mem_roots, inc, ign, ext, none]

/-- A search unites over its includes and its extensions and meets over its ignores, whatever the
order of its settings or of the entries in a directory. -/
theorem search_algebra (fs : FileSystem) (base : Path) :
    (∀ first second ignores extensions, first ≠ [] → second ≠ [] →
      listed fs base (first ++ second) ignores extensions =
        listed fs base first ignores extensions ∪ listed fs base second ignores extensions) ∧
    (∀ includes first second extensions,
      listed fs base includes (first ++ second) extensions =
        listed fs base includes first extensions ∩ listed fs base includes second extensions) ∧
    (∀ includes ignores first second,
      listed fs base includes ignores (first ++ second) =
        listed fs base includes ignores first ∪ listed fs base includes ignores second) ∧
    (∀ includes includes' ignores ignores' extensions extensions',
      (∀ text, text ∈ includes ↔ text ∈ includes') → (∀ text, text ∈ ignores ↔ text ∈ ignores') →
      (∀ text, text ∈ extensions ↔ text ∈ extensions') →
      (search fs base includes ignores extensions).files =
        (search fs base includes' ignores' extensions').files) ∧
    (∀ other, fs.Rearranged other → ∀ includes ignores extensions,
      (search fs base includes ignores extensions).files =
        (search other base includes ignores extensions).files) ∧
    ∀ includes ignores more extensions, ignores ⊆ more →
      listed fs base includes more extensions ⊆ listed fs base includes ignores extensions := by
  refine ⟨?_, ?_, ?_, ?_, ?_, ?_⟩
  · intro first second ignores extensions some others
    exact listed_includes_append some others
  · intro includes first second extensions
    exact listed_ignores_append first second
  · intro includes ignores first second
    exact listed_extensions_append first second
  · intro includes includes' ignores ignores' extensions extensions' inc ign ext
    exact files_of_same_settings inc ign ext
  · intro other same includes ignores extensions
    exact files_rearranged same base includes ignores extensions
  · intro includes ignores more extensions within
    exact listed_ignores_anti within

/-- Two trees with the entries of both of their levels in different orders. -/
theorem search_algebra_in_two_orders :
    let file : Node := .file (some .empty)
    let fs : FileSystem := ⟨.dir [("app", .dir [("a.rb", file), ("b.rb", file)]),
      ("lib", .dir [("c.rb", file)])], []⟩
    let other : FileSystem := ⟨.dir [("lib", .dir [("c.rb", file)]),
      ("app", .dir [("b.rb", file), ("a.rb", file)])], []⟩
    let files (fs : FileSystem) (includes ignores : List String) :=
      (search fs ⟨"."⟩ includes ignores ["rb"]).files
    let set (includes ignores : List String) := listed fs ⟨"."⟩ includes ignores ["rb"]
    files fs ["app", "lib"] [] = ["./app/a.rb", "./app/b.rb", "./lib/c.rb"] ∧
    (["app"] ≠ [] ∧ ["lib"] ≠ [] ∧ set (["app"] ++ ["lib"]) [] = set ["app"] [] ∪ set ["lib"] []) ∧
    ((∀ text, text ∈ ["app", "lib"] ↔ text ∈ ["lib", "app", "lib"]) ∧
      files fs ["app", "lib"] [] = files fs ["lib", "app", "lib"] []) ∧
    (fs.Rearranged other ∧ files fs ["app", "lib"] [] = files other ["app", "lib"] []) ∧
    ([] ⊆ ["app/a.rb"] ∧ set ["app"] ["app/a.rb"] ⊆ set ["app"] []) := by
  intro file fs other files set
  obtain ⟨unites, -, -, settings, entries, ignores⟩ := search_algebra fs ⟨"."⟩
  have leaf (name : String) : (Node.dir [(name, file)]).Rearranged (.dir [(name, file)]) := by
    refine .dir (by simp) (.refl _) fun _ node node' member member' => ?_
    obtain ⟨-, rfl⟩ := Prod.mk.inj (List.mem_singleton.mp member)
    obtain ⟨-, rfl⟩ := Prod.mk.inj (List.mem_singleton.mp member')
    exact .file _
  have swapped : (Node.dir [("a.rb", file), ("b.rb", file)]).Rearranged
      (.dir [("b.rb", file), ("a.rb", file)]) := by
    refine .dir (by decide) (by decide) fun _ node node' member member' => ?_
    obtain rfl : node = file := by grind
    obtain rfl : node' = file := by grind
    exact .file _
  have root : fs.root.Rearranged other.root := by
    refine .dir (by decide) (by decide) fun name node node' member member' => ?_
    rcases List.mem_pair.mp member with member | member <;>
      rcases List.mem_pair.mp member' with member' | member' <;>
      obtain ⟨rfl, rfl⟩ := Prod.mk.inj member <;> obtain ⟨same, rfl⟩ := Prod.mk.inj member'
    · exact absurd same (by decide)
    · exact swapped
    · exact leaf "c.rb"
    · exact absurd same (by decide)
  have texts (text : String) : text ∈ ["app", "lib"] ↔ text ∈ ["lib", "app", "lib"] := by
    simp only [List.mem_cons, List.not_mem_nil, or_false]
    tauto
  exact ⟨by decide +kernel, ⟨by simp, by simp, unites _ _ _ _ (by simp) (by simp)⟩,
    ⟨texts, settings _ _ _ _ _ _ texts (fun _ => .rfl) (fun _ => .rfl)⟩,
    ⟨⟨root, rfl⟩, entries other ⟨root, rfl⟩ _ _ _⟩,
    ⟨List.nil_subset _, ignores _ _ _ _ (List.nil_subset _)⟩⟩

end Discovery
end AttributePins

import AttributePins.Config.Search
import AttributePins.Proofs.Path.Ancestors

/-! Which directory decides a search for settings. Parents are taken off the text of the start one
by one, as often as it has components besides the root, so the search ends in any tree. The first
directory on the way that has settings or is the top of a repository decides, and the ones farther
up are never asked. -/
namespace AttributePins.Config

section Marks

variable (fs : FileSystem)

/-- Whether a search goes no farther than a directory. -/
def stopsAt (directory : Path) : Bool :=
  fs.exists? (fileIn directory) || fs.exists? (repositoryIn directory)

/-- The settings of the directory at which a search stops, if it has any. -/
theorem searchIn_eq_find? (directories : List Path) :
    searchIn fs directories = (directories.find? (stopsAt fs)).bind fun directory =>
      if fs.exists? (fileIn directory) then some (fileIn directory) else none := by
  induction directories with
  | nil => rfl
  | cons directory rest ih =>
    rw [searchIn]
    by_cases settings : fs.exists? (fileIn directory) = true
    · rw [List.find?_cons_of_pos (by simp [stopsAt, settings]), if_pos settings, Option.bind_some,
        if_pos settings]
    · by_cases top : fs.exists? (repositoryIn directory) = true
      · rw [List.find?_cons_of_pos (by simp [stopsAt, top]), if_neg settings, if_pos top,
          Option.bind_some, if_neg settings]
      · have onward : ¬ stopsAt fs directory = true := by simp [stopsAt, settings, top]
        rw [List.find?_cons_of_neg onward, if_neg settings, if_neg top, ih]

end Marks

/-- The directory of a chain that decides a search, and its distance from the start. -/
structure Decides (fs : FileSystem) (chain : Nat → Option Path) (distance : Nat)
    (directory : Path) : Prop where
  reached : chain distance = some directory
  marked : fs.exists? (fileIn directory) = true ∨ fs.exists? (repositoryIn directory) = true
  first : ∀ n < distance, ∀ nearer, chain n = some nearer →
    fs.exists? (fileIn nearer) = false ∧ fs.exists? (repositoryIn nearer) = false

variable {fs : FileSystem} {start directory file : Path}

theorem find?_ancestors_eq_some_iff : start.ancestors.find? (stopsAt fs) = some directory ↔
    ∃ n, Decides fs start.ancestor? n directory := by
  have marked (other : Path) : stopsAt fs other = true ↔
      fs.exists? (fileIn other) = true ∨ fs.exists? (repositoryIn other) = true := by
    rw [stopsAt, Bool.or_eq_true]
  rw [List.find?_eq_some_iff_getElem, marked]
  constructor
  · rintro ⟨stops, n, bound, reached, before⟩
    refine ⟨n, ?_, stops, fun m nearer other found => ?_⟩
    · rw [← Path.getElem?_ancestors, List.getElem?_eq_getElem bound, reached]
    · rw [← Path.getElem?_ancestors, List.getElem?_eq_getElem (nearer.trans bound)] at found
      obtain rfl := Option.some.inj found
      simpa [stopsAt] using before m nearer
  · rintro ⟨n, reached, stops, first⟩
    rw [← Path.getElem?_ancestors] at reached
    obtain ⟨bound, same⟩ := List.getElem?_eq_some_iff.mp reached
    refine ⟨stops, n, bound, same, fun m nearer => ?_⟩
    obtain ⟨unsettled, unmarked⟩ := first m nearer _
      ((Path.getElem?_ancestors start m).symm.trans (List.getElem?_eq_getElem (nearer.trans bound)))
    simp [stopsAt, unsettled, unmarked]

theorem find?_eq_some_iff : find? fs start = some file ↔ ∃ n directory,
    Decides fs start.ancestor? n directory ∧ fs.exists? (fileIn directory) = true ∧
      file = fileIn directory := by
  rw [find?, searchIn_eq_find?, Option.bind_eq_some_iff]
  simp only [find?_ancestors_eq_some_iff, Option.ite_none_right_eq_some, Option.some.injEq]
  constructor
  · rintro ⟨directory, ⟨n, decides⟩, settings, rfl⟩
    exact ⟨n, directory, decides, settings, rfl⟩
  · rintro ⟨n, directory, decides, settings, rfl⟩
    exact ⟨directory, ⟨n, decides⟩, settings, rfl⟩

/-- For every tree and every text as a start: the chain of parents ends after as many steps as the
text has components besides the root, each step takes the last component off, and the settings
found are those of the directory that decides. Where it has none, or no directory decides, nothing
is found; so no settings above the top of a repository are ever used. -/
theorem find?_decided (fs : FileSystem) (start : Path) :
    (∀ n, (start.ancestor? n).isSome = true ↔ n ≤ start.height) ∧
    (∀ n directory, start.ancestor? n = some directory →
      ∃ names, names.length = n ∧ start.components = directory.components ++ names) ∧
    (∀ file, find? fs start = some file ↔ ∃ n directory, Decides fs start.ancestor? n directory ∧
      fs.exists? (fileIn directory) = true ∧ file = fileIn directory) ∧
    (find? fs start = none ↔ ∀ n directory, Decides fs start.ancestor? n directory →
      fs.exists? (fileIn directory) = false) ∧
    ∀ n top file, start.ancestor? n = some top → fs.exists? (repositoryIn top) = true →
      find? fs start = some file →
      ∃ m ≤ n, ∃ directory, start.ancestor? m = some directory ∧ file = fileIn directory := by
  refine ⟨start.isSome_ancestor?_iff, fun n directory => Path.components_of_ancestor?,
    fun file => find?_eq_some_iff, ⟨?_, ?_⟩, ?_⟩
  · intro missed n directory decides
    refine Bool.eq_false_iff.mpr fun settings => ?_
    rw [find?_eq_some_iff.mpr ⟨n, directory, decides, settings, rfl⟩] at missed
    cases missed
  · intro bare
    refine Option.eq_none_iff_forall_ne_some.mpr fun file found => ?_
    obtain ⟨n, directory, decides, settings, -⟩ := find?_eq_some_iff.mp found
    rw [bare n directory decides] at settings
    cases settings
  · intro n top file reached marked found
    obtain ⟨m, directory, decides, -, rfl⟩ := find?_eq_some_iff.mp found
    refine ⟨m, ?_, directory, decides.reached, rfl⟩
    by_contra farther
    have unmarked := (decides.first n (Nat.lt_of_not_le farther) top reached).2
    rw [marked] at unmarked
    cases unmarked

/-- At the top of a repository its own settings count, and those above it do not. -/
theorem find?_decided_at_top :
    let file : Node := .file (some .empty)
    let fs : FileSystem := ⟨.dir [(".annopinrc.json", file), ("shop", .dir [(".annopinrc.json", file),
      (".git", .dir []), ("app", .dir [])])], []⟩
    let start : Path := ⟨"/shop/app/."⟩
    Decides fs start.ancestor? 1 ⟨"/shop"⟩ ∧ find? fs start = some ⟨"/shop/.annopinrc.json"⟩ ∧
      ∃ m ≤ 1, ∃ directory, start.ancestor? m = some directory ∧
        ⟨"/shop/.annopinrc.json"⟩ = fileIn directory := by
  intro file fs start
  have decides : Decides fs start.ancestor? 1 ⟨"/shop"⟩ := by
    refine ⟨by decide +kernel, .inl (by decide +kernel), fun n nearer directory found => ?_⟩
    obtain rfl : n = 0 := by omega
    obtain rfl : start = directory := Option.some.inj found
    exact ⟨by decide +kernel, by decide +kernel⟩
  obtain ⟨-, -, counts, -, below⟩ := find?_decided fs start
  have found := (counts ⟨"/shop/.annopinrc.json"⟩).mpr
    ⟨1, ⟨"/shop"⟩, decides, by decide +kernel, by decide⟩
  exact ⟨decides, found, below 1 ⟨"/shop"⟩ _ decides.reached (by decide +kernel) found⟩

end AttributePins.Config

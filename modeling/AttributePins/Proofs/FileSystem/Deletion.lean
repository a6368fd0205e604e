import AttributePins.Proofs.FileSystem.Resolution

/-! What deleting files changes. A path leads where it led before, unless that was to one of
the deleted files; directories stay, so no path leads anywhere new. -/
namespace AttributePins.FileSystem

/-- Delete what stands at each of some paths. A path where there is nothing any more, as
after a deletion by another path to the same file, is passed over. -/
def removeAll (fs : FileSystem) (paths : List Path) : FileSystem :=
  paths.foldl (fun fs path =>
    match fs.remove path with
    | .ok after => after
    | .error _ => fs) fs

/-- A file system without the files at some places of another. -/
structure Pruned (gone : List String → Prop) (before after : FileSystem) : Prop where
  plain : after.Plain
  cwd : after.cwd = before.cwd
  files : ∀ place, gone place → ∃ content, before.root.kindAt place = some (.file content)
  removed : ∀ place, gone place → after.root.kindAt place = none
  kept : ∀ place, ¬ gone place → after.root.kindAt place = before.root.kindAt place

namespace Pruned

variable {gone : List String → Prop} {before after : FileSystem}

theorem kindAt_dir (pruned : Pruned gone before after) (place : List String) :
    after.root.kindAt place = some .dir ↔ before.root.kindAt place = some .dir := by
  by_cases lost : gone place
  · obtain ⟨content, file⟩ := pruned.files place lost
    rw [pruned.removed place lost, file]
    simp
  · rw [pruned.kept place lost]

theorem not_gone (pruned : Pruned gone before after) {place : List String}
    (directory : before.root.kindAt place = some .dir) : ¬ gone place := by
  intro lost
  obtain ⟨content, file⟩ := pruned.files place lost
  rw [directory] at file
  cases file

/-- What is left was there before. -/
theorem isSome_kindAt (pruned : Pruned gone before after) {place : List String}
    (present : (after.root.kindAt place).isSome = true) :
    (before.root.kindAt place).isSome = true := by
  by_cases lost : gone place
  · rw [pruned.removed place lost] at present
    contradiction
  · rwa [pruned.kept place lost] at present

/-- Nothing is below a deleted file. -/
theorem not_gone_of_below (pruned : Pruned gone before after) {place names : List String}
    (present : (before.root.kindAt (place ++ names)).isSome = true)
    (stays : ¬ gone (place ++ names)) : ¬ gone place := by
  intro lost
  obtain ⟨content, file⟩ := pruned.files place lost
  cases names with
  | nil => exact stays (by rwa [List.append_nil])
  | cons name rest =>
    rw [Node.kindAt, Node.get?_append, Node.kindAt_eq_file file] at present
    contradiction

theorem follow_iff (pruned : Pruned gone before after) (place names target : List String) :
    follow after.root.kindAt place names = some target ↔
      follow before.root.kindAt place names = some target ∧ ¬ gone target := by
  induction names generalizing place with
  | nil =>
    rw [follow, follow]
    by_cases lost : gone place
    · have missing := pruned.removed place lost
      grind
    · have same := pruned.kept place lost
      grind
  | cons name rest ih =>
    rw [follow, follow]
    split
    · exact ih place
    split
    · exact ih place.dropLast
    split
    · simp
    by_cases lost : gone (place ++ [name])
    · obtain ⟨content, file⟩ := pruned.files _ lost
      rw [pruned.removed _ lost, file]
      grind
    · rw [pruned.kept _ lost]
      split
      · exact ih (place ++ [name])
      · grind
      · simp

theorem leads?_iff (pruned : Pruned gone before after) (path : Path) (target : List String) :
    after.leads? path = some target ↔ before.leads? path = some target ∧ ¬ gone target := by
  rw [leads?, leads?, startOf, startOf, pruned.cwd]
  cases checkText path.text with
  | error => simp
  | ok => exact pruned.follow_iff _ _ _

/-- A path shows what it showed before, unless that is gone. -/
theorem kindOf?_iff (pruned : Pruned gone before after) (path : Path) (kind : Kind) :
    after.kindOf? path = some kind ↔ before.kindOf? path = some kind ∧
      ∀ target, before.leads? path = some target → ¬ gone target := by
  simp only [kindOf?_eq_some_iff, pruned.leads?_iff]
  constructor
  · rintro ⟨target, ⟨led, present⟩, found⟩
    rw [pruned.kept target present] at found
    refine ⟨⟨target, led, found⟩, ?_⟩
    intro other led'
    exact Option.some.inj (led.symm.trans led') ▸ present
  · rintro ⟨⟨target, led, found⟩, present⟩
    refine ⟨target, ⟨led, present target led⟩, ?_⟩
    rw [pruned.kept target (present target led)]
    exact found

/-- Directories are never gone. -/
theorem kindOf?_dir (pruned : Pruned gone before after) (path : Path) :
    after.kindOf? path = some .dir ↔ before.kindOf? path = some .dir := by
  rw [pruned.kindOf?_iff]
  refine ⟨And.left, fun found => ⟨found, ?_⟩⟩
  obtain ⟨target, led, directory⟩ := kindOf?_eq_some_iff.mp found
  intro other led'
  obtain rfl := Option.some.inj (led.symm.trans led')
  exact pruned.not_gone directory

theorem isDir_eq (pruned : Pruned gone before after) (plain : before.Plain) (path : Path) :
    after.isDir path = before.isDir path := by
  rw [Bool.eq_iff_iff, pruned.plain.isDir_iff, plain.isDir_iff, pruned.kindOf?_dir]

theorem refl (plain : before.Plain) : Pruned (fun _ => False) before before :=
  ⟨plain, rfl, fun _ => False.elim, fun _ => False.elim, fun _ _ => rfl⟩

theorem trans {gone' : List String → Prop} {last : FileSystem} (first : Pruned gone before after)
    (second : Pruned gone' after last) :
    Pruned (fun place => gone place ∨ gone' place) before last := by
  refine ⟨second.plain, second.cwd.trans first.cwd, ?_, ?_, ?_⟩
  · rintro place (lost | lost)
    · exact first.files place lost
    · obtain ⟨content, file⟩ := second.files place lost
      by_cases before : gone place
      · exact first.files place before
      · exact ⟨content, first.kept place before ▸ file⟩
  · intro place lost
    by_cases later : gone' place
    · exact second.removed place later
    · rw [second.kept place later]
      exact first.removed place (lost.resolve_right later)
  · intro place present
    obtain ⟨early, late⟩ := not_or.mp present
    rw [second.kept place late, first.kept place early]

theorem congr {gone' : List String → Prop} (pruned : Pruned gone before after)
    (same : ∀ place, gone place ↔ gone' place) : Pruned gone' before after :=
  funext (fun place => propext (same place)) ▸ pruned

end Pruned

theorem Plain.remove_file {fs : FileSystem} (plain : fs.Plain) {path : Path}
    {target : List String} {content : Option ByteArray} (led : fs.leads? path = some target)
    (file : fs.root.kindAt target = some (.file content)) :
    ∃ after, fs.remove path = .ok after ∧ Pruned (· = target) fs after := by
  have found := (plain.resolve_iff (by decide : Ending.kept ≠ .written) path target _).mpr
    ⟨led, Node.kindAt_eq_file file⟩
  rcases List.eq_nil_or_concat target with rfl | ⟨directory, name, rfl⟩
  · rw [plain.root_dir] at file
    cases file
  · rw [List.concat_eq_append] at *
    have kinds := Node.kindAt_modify_remove file
    refine ⟨{ fs with root := fs.root.modify (Node.remove name) directory }, ?_, ?_⟩
    · simp [remove, found, bind, Except.bind]
    · refine ⟨⟨plain.tree.modify_remove name directory, ?_⟩, rfl, ?_, ?_, ?_⟩
      · rw [kinds, if_neg, plain.working]
        intro same
        rw [← same, plain.working] at file
        cases file
      · rintro place rfl
        exact ⟨content, file⟩
      · rintro place rfl
        exact (kinds _).trans (if_pos rfl)
      · intro place other
        exact (kinds place).trans (if_neg other)

theorem Plain.remove_nothing {fs : FileSystem} (plain : fs.Plain) {path : Path}
    (astray : fs.leads? path = none) : ∃ error, fs.remove path = .error error := by
  rw [remove]
  cases outcome : fs.resolve .kept path with
  | error error => exact ⟨error, rfl⟩
  | ok target =>
    cases target with
    | vacant directory name => exact ⟨.notFound, rfl⟩
    | found place node =>
      have led := ((plain.resolve_iff (by decide) path place node).mp outcome).1
      rw [astray] at led
      contradiction

/-- Deleting by paths that lead to files, if anywhere, deletes the files they lead to. -/
theorem Plain.removeAll_pruned {fs : FileSystem} (plain : fs.Plain) {paths : List Path}
    (files : ∀ path ∈ paths, ∀ kind, fs.kindOf? path = some kind →
      ∃ content, kind = .file content) :
    Pruned (fun place => ∃ path ∈ paths, fs.leads? path = some place) fs (fs.removeAll paths) := by
  induction paths generalizing fs with
  | nil =>
    apply (Pruned.refl plain).congr
    simp
  | cons path rest ih =>
    have others : ∀ other ∈ rest, ∀ kind, fs.kindOf? other = some kind →
        ∃ content, kind = .file content := fun other member =>
      files other (List.mem_cons_of_mem path member)
    cases led : fs.leads? path with
    | none =>
      obtain ⟨error, failed⟩ := plain.remove_nothing led
      have same : fs.removeAll (path :: rest) = fs.removeAll rest := by
        rw [removeAll, List.foldl_cons, failed]
        rfl
      rw [same]
      apply (ih plain others).congr
      intro place
      simp [led]
    | some target =>
      obtain ⟨kind, present⟩ := Option.isSome_iff_exists.mp (isSome_of_leads? led)
      obtain ⟨content, rfl⟩ := files path List.mem_cons_self kind
        (kindOf?_eq_some_iff.mpr ⟨target, led, present⟩)
      obtain ⟨after, removed, pruned⟩ := plain.remove_file led present
      have next : fs.removeAll (path :: rest) = after.removeAll rest := by
        rw [removeAll, List.foldl_cons, removed]
        rfl
      rw [next]
      have remaining := ih pruned.plain fun other member kind found =>
        others other member kind ((pruned.kindOf?_iff other kind).mp found).1
      apply (pruned.trans remaining).congr
      intro place
      simp only [pruned.leads?_iff, List.mem_cons, exists_eq_or_imp, led, Option.some.injEq]
      constructor
      · rintro (rfl | ⟨other, member, led', -⟩)
        · exact .inl rfl
        · exact .inr ⟨other, member, led'⟩
      · rintro (rfl | ⟨other, member, led'⟩)
        · exact .inl rfl
        · by_cases same : place = target
          · exact .inl same
          · exact .inr ⟨other, member, led', same⟩

end AttributePins.FileSystem

import AttributePins.Proofs.FileSystem.Deletion
import AttributePins.Proofs.FileSystem.Names

/-! What adding a file changes. Seen from the file system with the file, the one without it is
what deleting the file leaves, so what is known of deletions tells the two apart. -/
namespace AttributePins.FileSystem

variable {fs : FileSystem} {name : String}

/-- Writing a file of a new name into the working directory. -/
theorem Plain.writeFile_new (plain : fs.Plain) (proper : Node.isName name = true)
    (short : name.utf8ByteSize ≤ maxNameBytes) (accepted : checkText name = .ok ())
    (absent : fs.root.kindAt (fs.cwd ++ [name]) = none) (content : ByteArray) :
    fs.writeFile ⟨name⟩ content = .ok (fs.putAt fs.cwd name (.file (some content))) := by
  obtain ⟨filled, notHere, notUp, inner⟩ := Node.isName_iff.mp proper
  obtain ⟨entries, found⟩ := Node.kindAt_eq_dir plain.working
  have vacant : entries.lookup name = none := by
    rw [← Node.get?_snoc_of_dir found]
    exact Option.map_eq_none_iff.mp absent
  have resolved : fs.resolve .written ⟨name⟩ = .ok (.vacant fs.cwd name) := by
    have walked : walkNames fs.root .written fs.cwd [name] =
        .ok (.arrived (.vacant fs.cwd name)) := by
      simp [walkNames, filled, notHere, notUp, Nat.not_lt.mpr short, found, vacant]
    simp only [resolve, accepted, bind, Except.bind, namesOf_inner filled inner,
      Path.isAbsolute_of_inner inner, Bool.false_eq_true, if_false, resolveFrom, walked]
  rw [writeFile, resolved]
  rfl

/-- The file system with a new file, seen as one that the file can be deleted from. -/
theorem Plain.pruned_putAt (plain : fs.Plain) (proper : Node.isName name = true)
    (absent : fs.root.kindAt (fs.cwd ++ [name]) = none) (content : Option ByteArray) :
    (fs.putAt fs.cwd name (.file content)).Plain ∧
      Pruned (· = fs.cwd ++ [name]) (fs.putAt fs.cwd name (.file content)) fs := by
  have kinds (place : List String) :
      (fs.putAt fs.cwd name (.file content)).root.kindAt place =
        if place = fs.cwd ++ [name] then some (.file content) else fs.root.kindAt place :=
    Node.kindAt_modify_put plain.working absent place
  have elsewhere : fs.cwd ≠ fs.cwd ++ [name] := by
    intro same
    rw [← same, plain.working] at absent
    contradiction
  refine ⟨⟨plain.tree.modify_put proper absent, ?_⟩, plain, rfl, ?_, ?_, ?_⟩
  · exact (kinds fs.cwd).trans ((if_neg elsewhere).trans plain.working)
  · rintro place rfl
    exact ⟨content, (kinds _).trans (if_pos rfl)⟩
  · rintro place rfl
    exact absent
  · intro place other
    exact ((kinds place).trans (if_neg other)).symm

theorem Plain.stat_file (plain : fs.Plain) {path : Path} {content : Option ByteArray}
    (file : fs.kindOf? path = some (.file content)) : fs.stat path = .ok (.file content) := by
  obtain ⟨node, stated, same⟩ := (plain.kindOf?_iff path _).mp file
  cases node with
  | file other => rw [stated, Kind.file.inj same]
  | link | dir => contradiction

/-- A file that stays is read as before. -/
theorem Pruned.readText_eq {gone : List String → Prop} {before after : FileSystem}
    (pruned : Pruned gone before after) (plain : before.Plain) {path : Path}
    (file : after.isFile path = true) : after.readText path = before.readText path := by
  obtain ⟨content, found⟩ := (pruned.plain.isFile_iff path).mp file
  have found' := ((pruned.kindOf?_iff path _).mp found).1
  simp only [readText, pruned.plain.stat_file found, plain.stat_file found']

end AttributePins.FileSystem

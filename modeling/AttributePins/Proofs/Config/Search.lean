import AttributePins.Config.Search
import AttributePins.Proofs.FileSystem.Deletion
import AttributePins.Proofs.FileSystem.Names

/-! Settings after a deletion of files without texts. Settings that could be read have a text,
so they are still there; and as nothing that was missing appears, the search for them takes the
same way. -/
namespace AttributePins.FileSystem

/-- A deletion of files without texts, none of which marks the top of a repository. -/
structure Cleaned (gone : List String → Prop) (before after : FileSystem) : Prop
    extends Pruned gone before after where
  textless : ∀ place content, gone place → before.root.kindAt place = some (.file content) →
    content.bind String.fromUTF8? = none
  unmarked : ∀ above, ¬ gone (above ++ [".git"])

namespace Cleaned

variable {gone : List String → Prop} {before after : FileSystem}

/-- A file that has a text keeps it. -/
theorem readText_eq (cleaned : Cleaned gone before after) (plain : before.Plain) {path : Path}
    {text : String} (read : before.readText path = .ok text) : after.readText path = .ok text := by
  obtain ⟨content, file, decoded⟩ := (plain.readText_iff path text).mp read
  refine (cleaned.plain.readText_iff path text).mpr ⟨content, ?_, decoded⟩
  refine (cleaned.kindOf?_iff path _).mpr ⟨file, fun place led lost => ?_⟩
  rw [kindOf?, led, Option.bind_some] at file
  have none := cleaned.textless place (some content) lost file
  rw [Option.bind_some, decoded] at none
  cases none

theorem exists?_repository (cleaned : Cleaned gone before after) (plain : before.Plain)
    (directory : Path) :
    after.exists? (Config.repositoryIn directory) =
      before.exists? (Config.repositoryIn directory) := by
  rw [Bool.eq_iff_iff, cleaned.plain.exists?_iff, plain.exists?_iff]
  simp only [cleaned.kindOf?_iff]
  refine ⟨fun ⟨kind, found, _⟩ => ⟨kind, found⟩, fun ⟨kind, found⟩ => ⟨kind, found, ?_⟩⟩
  intro place led lost
  obtain ⟨content, file⟩ := cleaned.files place lost
  obtain ⟨above, name, rfl, named⟩ := plain.leads?_file led file
  have mark := Path.fileName?_join directory (by decide : Node.isName ".git" = true)
  obtain rfl := Option.some.inj (named.symm.trans mark)
  exact cleaned.unmarked above lost

/-- Settings that can be read are found as before. -/
theorem searchIn_eq (cleaned : Cleaned gone before after) (plain : before.Plain)
    {directories : List Path}
    (readable : ∀ file, Config.searchIn before directories = some file →
      ∃ text, before.readText file = .ok text) :
    Config.searchIn after directories = Config.searchIn before directories := by
  induction directories with
  | nil => rfl
  | cons directory rest ih =>
    rw [Config.searchIn] at readable
    rw [Config.searchIn, Config.searchIn, cleaned.exists?_repository plain]
    by_cases here : before.exists? (Config.fileIn directory) = true
    · obtain ⟨text, read⟩ := readable _ (if_pos here)
      obtain ⟨content, file, -⟩ := (cleaned.plain.readText_iff _ text).mp
        (cleaned.readText_eq plain read)
      rw [if_pos here, if_pos ((cleaned.plain.exists?_iff _).mpr ⟨_, file⟩)]
    · have missing : ¬ after.exists? (Config.fileIn directory) = true := by
        rw [cleaned.plain.exists?_iff]
        rintro ⟨kind, found⟩
        exact here ((plain.exists?_iff _).mpr ⟨kind, ((cleaned.kindOf?_iff _ kind).mp found).1⟩)
      rw [if_neg here] at readable
      rw [if_neg here, if_neg missing]
      split
      · rfl
      · rename_i unmarked
        rw [if_neg unmarked] at readable
        exact ih readable

theorem load_eq (cleaned : Cleaned gone before after) (plain : before.Plain) {start : Path}
    {loaded : Config.Loaded} (ok : Config.load before start = .ok loaded) :
    Config.load after start = .ok loaded := by
  have readable (file : Path) (found : Config.find? before start = some file) :
      ∃ text, before.readText file = .ok text := by
    rw [Config.load, found] at ok
    cases read : before.readText file with
    | ok text => exact ⟨text, rfl⟩
    | error error => simp [Config.readFile, read, Except.map] at ok
  have same : Config.find? after start = Config.find? before start :=
    cleaned.searchIn_eq plain readable
  rw [Config.load, same]
  rw [Config.load] at ok
  cases found : Config.find? before start with
  | none => rwa [found] at ok
  | some file =>
    obtain ⟨text, read⟩ := readable file found
    rw [found] at ok
    simp only [Config.readFile, read] at ok
    simp only [Config.readFile, cleaned.readText_eq plain read]
    exact ok

end Cleaned
end AttributePins.FileSystem

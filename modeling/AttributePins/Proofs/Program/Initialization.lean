import AttributePins.Proofs.Config.Ascent
import AttributePins.Proofs.FileSystem.Addition
import AttributePins.Proofs.Program.Isolation
import AttributePins.Proofs.Source.Loading

/-! Making a settings file. Settings that are there are left alone. Where there are none, the new
file holds the settings that applied before, and no search for models comes upon it, so whatever
is asked about the project in the working directory is answered as before. -/
namespace AttributePins

namespace Config

open FileSystem

variable {fs : FileSystem}

/-- From `.` the settings of the working directory are found, and no others. -/
theorem find?_here (plain : fs.Plain) :
    (Has fs.root fs.cwd fileName → ∃ file, find? fs ⟨"."⟩ = some file ∧
      fs.leads? file = some (fs.cwd ++ [fileName])) ∧
    (¬ Has fs.root fs.cwd fileName → find? fs ⟨"."⟩ = none) := by
  have stands := plain.dirAt_here.stands
  have trail : Path.trail ⟨"."⟩ = [] := by decide +kernel
  have forward : ".." ∉ Path.trail ⟨"."⟩ := trail ▸ List.not_mem_nil
  have fits : Fits ⟨"."⟩ := ⟨by decide, by decide⟩
  have chain : climb (fs.startOf ⟨"."⟩) (Path.trail ⟨"."⟩) = [fs.cwd] := by
    rw [trail, climb_nil]
    rfl
  obtain ⟨hit, miss⟩ := searchIn_ancestors plain stands fits forward
  rw [chain] at hit miss
  have nearest (directory : List String) : Nearest fs.root [fs.cwd] directory ↔
      directory = fs.cwd ∧ Has fs.root fs.cwd fileName := by
    simp [nearest_cons, not_nearest_nil]
  constructor
  · intro settings
    cases found : find? fs ⟨"."⟩ with
    | none => exact absurd ((nearest fs.cwd).mpr ⟨rfl, settings⟩) (miss found fs.cwd)
    | some file =>
      obtain ⟨directory, counts, led⟩ := hit file found
      obtain ⟨rfl, -⟩ := (nearest directory).mp counts
      exact ⟨file, rfl, led⟩
  · intro none
    cases found : find? fs ⟨"."⟩ with
    | none => rfl
    | some file =>
      obtain ⟨directory, counts, -⟩ := hit file found
      exact absurd ((nearest directory).mp counts).2 none

theorem exists?_settings (plain : fs.Plain) :
    fs.exists? ⟨fileName⟩ = true ↔ Has fs.root fs.cwd fileName := by
  have named : Node.isName fileName = true := by decide
  simp only [plain.exists?_iff, kindOf?_eq_some_iff,
    leads?_inner (by decide : fileName ≠ "") (by decide : '/' ∉ fileName.toList),
    follow_name_iff plain.tree named (by decide), Has, Option.isSome_iff_exists]
  have accepted : checkText fileName = .ok () := by decide
  grind

/-- The settings that are written are the ones that apply without a file. -/
theorem readFile_default (plain : fs.Plain) {file : Path}
    (led : fs.leads? file = some (fs.cwd ++ [fileName]))
    (written : fs.root.kindAt (fs.cwd ++ [fileName]) =
      some (.file (some Config.default.render.toUTF8))) :
    readFile fs file = .ok Config.default := by
  have text : fs.readText file = .ok Config.default.render :=
    (plain.readText_iff file _).mpr
      ⟨_, kindOf?_eq_some_iff.mpr ⟨_, led, written⟩, fromUTF8?_eq_some_iff.mpr rfl⟩
  have decoded : decode Config.default.render = .ok Config.default := by decide +kernel
  have valid : Config.default.invalid? = none := by decide +kernel
  simp only [readFile, text, decoded, valid]

end Config

namespace Project

open FileSystem

variable {before after : FileSystem}

/-- The settings file of the working directory, as a deleted one. -/
abbrev WithoutSettings (before after : FileSystem) : Prop :=
  Pruned (· = before.cwd ++ [Config.fileName]) before after

/-- A search that does not ask for the extension of the settings file does not see it. -/
theorem files_withoutSettings (plain : before.Plain) (pruned : WithoutSettings before after)
    (root : Path) {config : Config} (other : "json" ∉ config.extensions) :
    (discover after root config).files = (discover before root config).files := by
  refine eq_of_increasing (sortedSet_increasing _) (sortedSet_increasing _) fun name => ?_
  rw [discover, Discovery.mem_files_iff plain pruned, ← discover]
  refine and_iff_left_of_imp ?_
  rintro member _ led rfl
  have selected := (Discovery.mem_files.mp member).1
  simp only [Discovery.selects, Bool.and_eq_true] at selected
  obtain ⟨content, file⟩ := pruned.files _ rfl
  obtain ⟨above, last, same, named⟩ := plain.leads?_file led file
  obtain rfl : Config.fileName = last := List.singleton_inj.mp (List.append_inj_right' same rfl)
  have extension : (Path.mk name).extension? = some "json" := by
    rw [Path.extension?, named]
    decide
  have listed := selected.2
  simp only [Discovery.hasExtension, extension, List.contains_iff_mem] at listed
  exact other listed

/-- A project whose files all stay is indexed as before. -/
theorem indexed_eq {gone : List String → Prop} (plain : before.Plain)
    (pruned : Pruned gone before after) {project : Project}
    (files : ∀ name ∈ project.files, after.isFile ⟨name⟩ = true) :
    project.indexed after = project.indexed before := by
  have read (name : String) (member : name ∈ project.files) :
      Loading.readUnit after name = Loading.readUnit before name := by
    rw [Loading.readUnit, Loading.readUnit, pruned.readText_eq plain (files name member)]
  have units : Loading.unitsOf after project.files = Loading.unitsOf before project.files :=
    List.filterMap_congr fun name member => by rw [read name member]
  have failures : Loading.failuresOf after project.files =
      Loading.failuresOf before project.files :=
    List.filterMap_congr fun name member => by
      rw [Loading.failure?, Loading.failure?, read name member]
  simp only [indexed, Loading.ofFiles, units, failures]

/-- Without a settings file and with the default one the same project is loaded. -/
theorem load_withoutSettings (plain : before.Plain) (pruned : WithoutSettings before after)
    {common : CommonArguments} (here : common.sourceRoot = none)
    (settings : Config.load before ⟨"."⟩ = .ok ⟨Config.default, true⟩) :
    ∃ project notices notices', load before common = .ok (project, notices) ∧
      load after common = .ok (project, notices') ∧
      project.indexed after = project.indexed before := by
  have root : rootOf common = ⟨"."⟩ := by rw [rootOf, here]; rfl
  have nothing : ¬ Config.Has after.root after.cwd Config.fileName := by
    rw [Config.Has, pruned.cwd, pruned.removed _ rfl]
    simp
  have settings' : Config.load after ⟨"."⟩ = .ok ⟨Config.default, false⟩ := by
    rw [Config.load, (Config.find?_here pruned.plain).2 nothing]
  obtain ⟨notices, loaded⟩ := load_of_settings (root ▸ settings)
  obtain ⟨notices', loaded'⟩ := load_of_settings (root ▸ settings')
  rw [root] at loaded loaded'
  rw [files_withoutSettings plain pruned _ (by decide)] at loaded'
  exact ⟨_, notices, notices', loaded, loaded',
    indexed_eq plain pruned fun _ member => (selects_of_mem loaded' member).1⟩

end Project

/-- Whether a command asks about the project in the working directory. -/
def Command.AsksHere : Command → Prop
  | .scan _ common => common.sourceRoot = none
  | .lookup _ _ common => common.sourceRoot = none
  | .init => False

namespace Program

variable {fs before after : FileSystem}

/-- Two queries that load and index one project differ at most in what is logged. -/
theorem query_of_same {common : CommonArguments} {project : Project} {notices notices' : List Output}
    (loaded : Project.load before common = .ok (project, notices))
    (loaded' : Project.load after common = .ok (project, notices'))
    (same : project.indexed after = project.indexed before)
    (findings : Project.Indexed → Findings) :
    (∀ colours, Output.stdout colours (Run.allOutputs (query before common findings)) =
      Output.stdout colours (Run.allOutputs (query after common findings))) ∧
    Run.status (query before common findings) = Run.status (query after common findings) := by
  constructor
  · intro colours
    rw [query_allOutputs_stdout loaded, query_allOutputs_stdout loaded', same]
  · rw [query_of_load loaded, query_of_load loaded', same]
    rfl

/-- What is asked about the project here does not depend on a settings file with the defaults. -/
theorem run_withoutSettings (plain : before.Plain) (pruned : Project.WithoutSettings before after)
    (settings : Config.load before ⟨"."⟩ = .ok ⟨Config.default, true⟩) {command : Command}
    (asks : command.AsksHere) :
    (∀ colours, Output.stdout colours (Run.allOutputs (run before (some command))) =
      Output.stdout colours (Run.allOutputs (run after (some command)))) ∧
    Run.status (run before (some command)) = Run.status (run after (some command)) := by
  cases command with
  | scan format common =>
    obtain ⟨_, _, _, loaded, loaded', same⟩ :=
      Project.load_withoutSettings plain pruned asks settings
    exact query_of_same loaded loaded' same _
  | lookup model column common =>
    obtain ⟨_, _, _, loaded, loaded', same⟩ :=
      Project.load_withoutSettings plain pruned asks settings
    exact query_of_same loaded loaded' same _
  | init => exact asks.elim

theorem init_of_settings (plain : fs.Plain) (settings : Config.Has fs.root fs.cwd Config.fileName) :
    init fs = ⟨[], .error .settingsExist, fs⟩ := by
  rw [init]
  exact if_pos ((Config.exists?_settings plain).mpr settings)

theorem init_without_settings (plain : fs.Plain)
    (absent : fs.root.kindAt (fs.cwd ++ [Config.fileName]) = none) :
    init fs = finish [] false ⟨.created, []⟩ (fs.putAt fs.cwd Config.fileName
      (.file (some Config.default.render.toUTF8))) := by
  have missing : ¬ fs.exists? ⟨Config.fileName⟩ = true := by
    rw [Config.exists?_settings plain, Config.Has, absent]
    simp
  rw [init, if_neg missing, plain.writeFile_new (by decide) (by decide) (by decide) absent]

/-- In a tree without links, making a settings file fails and changes nothing if there is an entry
of its name. Otherwise it adds the file with the defaults and nothing else; a second attempt fails
and changes nothing; the settings loaded are the defaults, now from a file; and every command line
that asks about the project here writes the same to the standard output and ends the same. -/
theorem init_keeps_answers (fs : FileSystem) (plain : fs.Plain) :
    let place := fs.cwd ++ [Config.fileName]
    let made := (init fs).fileSystem
    ((fs.root.kindAt place).isSome = true → init fs = ⟨[], .error .settingsExist, fs⟩) ∧
    (fs.root.kindAt place = none →
      (init fs).result = .ok .success ∧ made.cwd = fs.cwd ∧
      (∀ other, made.root.kindAt other =
        if other = place then some (.file (some Config.default.render.toUTF8))
        else fs.root.kindAt other) ∧
      init made = ⟨[], .error .settingsExist, made⟩ ∧
      Config.load made ⟨"."⟩ = .ok ⟨Config.default, true⟩ ∧
      ∀ environment arguments command, CommandLine.parse arguments = .ok (some command) →
        command.AsksHere →
          (execute made environment arguments).stdout = (execute fs environment arguments).stdout ∧
          (execute made environment arguments).status = (execute fs environment arguments).status) := by
  intro place made
  refine ⟨init_of_settings plain, fun absent => ?_⟩
  have run := init_without_settings plain absent
  have same : made = fs.putAt fs.cwd Config.fileName
      (.file (some Config.default.render.toUTF8)) := congrArg Run.fileSystem run
  obtain ⟨plain', pruned⟩ := plain.pruned_putAt (by decide) absent
    (some Config.default.render.toUTF8)
  rw [← same] at plain' pruned
  have kinds : ∀ other, made.root.kindAt other =
      if other = place then some (.file (some Config.default.render.toUTF8))
      else fs.root.kindAt other := by
    rw [same]
    exact Node.kindAt_modify_put plain.working absent
  have cwd : made.cwd = fs.cwd := pruned.cwd.symm
  have written : made.root.kindAt (made.cwd ++ [Config.fileName]) =
      some (.file (some Config.default.render.toUTF8)) := by
    rw [cwd, kinds]
    exact if_pos rfl
  have settings : Config.Has made.root made.cwd Config.fileName := by
    rw [Config.Has, written]
    rfl
  obtain ⟨file, found, led⟩ := (Config.find?_here plain').1 settings
  have loaded : Config.load made ⟨"."⟩ = .ok ⟨Config.default, true⟩ := by
    rw [Config.load, found]
    dsimp only
    rw [Config.readFile_default plain' led written]
    rfl
  refine ⟨congrArg Run.result run, cwd, kinds, init_of_settings plain' settings, loaded, ?_⟩
  intro environment arguments command parsed asks
  have pruned' : Project.WithoutSettings made fs := by rwa [← cwd] at pruned
  obtain ⟨stdout, status⟩ := run_withoutSettings plain' pruned' loaded asks
  simp only [execute, parsed]
  exact ⟨stdout _, status⟩

/-- A project without settings, and a question about it before and after they are made. -/
theorem init_keeps_answers_on_account :
    let source := "# id integer\nclass Account < ApplicationRecord\n"
    let fs : FileSystem := ⟨.dir [("app", .dir [("models", .dir
      [("account.rb", .file (some source.toUTF8))])])], []⟩
    let arguments := ["lookup", "Account", "-v", "id"]
    let made := (init fs).fileSystem
    let ask (fs : FileSystem) := execute fs ⟨[], true⟩ arguments
    fs.Plain ∧ fs.root.kindAt [Config.fileName] = none ∧
    CommandLine.parse arguments = .ok (some (.lookup "Account" (some "id") ⟨none, true⟩)) ∧
    (init fs).result = .ok .success ∧ init made = ⟨[], .error .settingsExist, made⟩ ∧
    Config.load made ⟨"."⟩ = .ok ⟨Config.default, true⟩ ∧
    (ask made).stdout = (ask fs).stdout ∧ (ask made).status = (ask fs).status := by
  intro source fs arguments made ask
  have plain : fs.Plain := ⟨by decide +kernel, rfl⟩
  have parsed : CommandLine.parse arguments =
      .ok (some (.lookup "Account" (some "id") ⟨none, true⟩)) := by decide +kernel
  obtain ⟨created, -, -, again, loaded, answers⟩ := (init_keeps_answers fs plain).2 rfl
  exact ⟨plain, rfl, parsed, created, again, loaded, answers _ _ _ parsed rfl⟩

end Program
end AttributePins

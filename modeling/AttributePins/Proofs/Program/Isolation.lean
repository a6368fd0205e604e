import AttributePins.Proofs.Config.Search
import AttributePins.Proofs.Discovery.Uniqueness
import AttributePins.Proofs.Program.Streams
import AttributePins.Proofs.Text.ByteOrder

/-! A file that cannot be read keeps nothing else from being reported. A scan writes what it
would write had the files that cannot be read been deleted, names those files in order, and
fails if there are any. A file that is listed under two spellings is named twice, which cannot
happen if all includes are spelled from one path. The names of files are texts here, so what a
search lists is what it found: a name that had to be changed to be shown would lead nowhere. -/
namespace AttributePins

/-- Whether a node is a file without a text: reading it is not permitted, or its content is not
UTF-8. -/
def Node.unreadable : Node → Bool
  | .file content => (content.bind String.fromUTF8?).isNone
  | _ => false

namespace FileSystem

def unreadable (fs : FileSystem) (path : Path) : Bool :=
  match fs.stat path with
  | .ok node => node.unreadable
  | .error _ => false

section Texts

variable {fs : FileSystem} {path : Path}

theorem Plain.unreadable_iff (plain : fs.Plain) :
    fs.unreadable path = true ↔
      ∃ content, fs.kindOf? path = some (.file content) ∧ content.bind String.fromUTF8? = none := by
  simp only [plain.kindOf?_iff, unreadable]
  cases fs.stat path with
  | error => simp
  | ok node => cases node <;> simp [Node.unreadable, Node.kind]

theorem isOk_readText (file : fs.isFile path = true) :
    (∃ text, fs.readText path = .ok text) ↔ fs.unreadable path = false := by
  rw [isFile] at file
  rw [readText, unreadable]
  cases stated : fs.stat path with
  | error => simp [stated] at file
  | ok node =>
    cases node with
    | link | dir => simp [stated, Node.isFile] at file
    | file content =>
      cases content with
      | none => simp [Node.unreadable]
      | some content =>
        cases decoded : String.fromUTF8? content <;> simp [Node.unreadable, decoded]

end Texts

end FileSystem

namespace Loading

/-- Every file without a text is a failure, and no other file is. -/
theorem failuresOf_sourceIds {fs : FileSystem} {names : List String}
    (files : ∀ name ∈ names, fs.isFile ⟨name⟩ = true) :
    (failuresOf fs names).map (·.sourceId) = names.filter fun name => fs.unreadable ⟨name⟩ := by
  rw [failuresOf, List.map_filterMap, ← List.filterMap_eq_filter]
  refine List.filterMap_congr fun name member => ?_
  have read := FileSystem.isOk_readText (files name member)
  rw [failure?, readUnit]
  cases text : fs.readText ⟨name⟩ with
  | ok =>
    have readable := read.mp ⟨_, text⟩
    simp [readable, Option.guard]
  | error =>
    have unreadable : fs.unreadable ⟨name⟩ = true := by simpa [text] using read
    simp [unreadable, Option.guard]

theorem unitsOf_cleaned {gone : List String → Prop} {before after : FileSystem}
    (cleaned : FileSystem.Cleaned gone before after) (plain : before.Plain) {names : List String}
    (files : ∀ name ∈ names, before.isFile ⟨name⟩ = true) :
    unitsOf after (names.filter fun name => !before.unreadable ⟨name⟩) = unitsOf before names := by
  rw [unitsOf, unitsOf, List.filterMap_filter]
  refine List.filterMap_congr fun name member => ?_
  have read := FileSystem.isOk_readText (files name member)
  cases text : before.readText ⟨name⟩ with
  | ok content =>
    have readable := read.mp ⟨content, text⟩
    simp [readable, readUnit, text, cleaned.readText_eq plain text]
  | error =>
    have unreadable : before.unreadable ⟨name⟩ = true := by simpa [text] using read
    simp [unreadable, readUnit, text, Except.toOption]

end Loading

namespace Project

variable {fs : FileSystem} {common : CommonArguments} {project : Project} {notices : List Output}

theorem load_eq_ok (loaded : load fs common = .ok (project, notices)) :
    ∃ settings, Config.load fs (rootOf common) = .ok settings ∧
      project = ⟨settings.config, rootOf common,
        (discover fs (rootOf common) settings.config).files⟩ := by
  unfold load at loaded
  dsimp only at loaded
  split at loaded
  · contradiction
  · rename_i settings found
    exact ⟨settings, found, (Prod.mk.inj (Except.ok.inj loaded)).1.symm⟩

theorem load_of_settings {settings : Config.Loaded}
    (found : Config.load fs (rootOf common) = .ok settings) :
    ∃ notices, load fs common = .ok (⟨settings.config, rootOf common,
      (discover fs (rootOf common) settings.config).files⟩, notices) := by
  rw [load, found]
  exact ⟨_, rfl⟩

theorem files_increasing (loaded : load fs common = .ok (project, notices)) :
    project.files.Pairwise (· < ·) := by
  obtain ⟨settings, -, rfl⟩ := load_eq_ok loaded
  exact sortedSet_increasing _

theorem selects_of_mem (loaded : load fs common = .ok (project, notices)) {name : String}
    (member : name ∈ project.files) :
    fs.isFile ⟨name⟩ = true ∧ Discovery.hasExtension project.config.extensions ⟨name⟩ = true := by
  obtain ⟨settings, -, rfl⟩ := load_eq_ok loaded
  have selected := (Discovery.mem_files.mp member).1
  simp only [Discovery.selects, Bool.and_eq_true] at selected
  exact ⟨selected.1.2, selected.2⟩

def broken (fs : FileSystem) (project : Project) : List String :=
  project.files.filter fun name => fs.unreadable ⟨name⟩

/-- A file system without the files of a project that have no text. -/
def cleaned (fs : FileSystem) (project : Project) : FileSystem :=
  fs.removeAll ((project.broken fs).map Path.mk)

def spared (fs : FileSystem) (project : Project) : Project :=
  { project with files := project.files.filter fun name => !fs.unreadable ⟨name⟩ }

def lost (fs : FileSystem) (project : Project) (place : List String) : Prop :=
  ∃ name ∈ project.broken fs, fs.leads? ⟨name⟩ = some place

theorem kindAt_of_lost (plain : fs.Plain) {place : List String} (missing : project.lost fs place) :
    ∃ content, fs.root.kindAt place = some (.file content) ∧
      content.bind String.fromUTF8? = none := by
  obtain ⟨name, member, led⟩ := missing
  obtain ⟨content, file, textless⟩ := plain.unreadable_iff.mp (List.mem_filter.mp member).2
  rw [FileSystem.kindOf?, led, Option.bind_some] at file
  exact ⟨content, file, textless⟩

theorem pruned_cleaned (plain : fs.Plain) (project : Project) :
    FileSystem.Pruned (project.lost fs) fs (project.cleaned fs) := by
  have files : ∀ path ∈ (project.broken fs).map Path.mk, ∀ kind, fs.kindOf? path = some kind →
      ∃ content, kind = .file content := by
    intro path member kind found
    obtain ⟨name, known, rfl⟩ := List.mem_map.mp member
    obtain ⟨content, file, -⟩ := plain.unreadable_iff.mp (List.mem_filter.mp known).2
    exact ⟨content, Option.some.inj (found.symm.trans file)⟩
  apply (plain.removeAll_pruned files).congr
  intro place
  simp [lost]

theorem cleaned_spec (plain : fs.Plain) (loaded : load fs common = .ok (project, notices)) :
    FileSystem.Cleaned (project.lost fs) fs (project.cleaned fs) := by
  refine ⟨pruned_cleaned plain project, ?_, ?_⟩
  · intro place content missing file
    obtain ⟨content', file', textless⟩ := kindAt_of_lost plain missing
    obtain rfl := Kind.file.inj (Option.some.inj (file.symm.trans file'))
    exact textless
  · intro above missing
    obtain ⟨content, file, -⟩ := kindAt_of_lost plain missing
    obtain ⟨name, member, led⟩ := missing
    obtain ⟨-, selected⟩ := selects_of_mem loaded (List.mem_filter.mp member).1
    obtain ⟨above', last, same, named⟩ := plain.leads?_file led file
    -- A name that starts with its only dot has no extension to be selected by.
    obtain rfl : ".git" = last := List.singleton_inj.mp (List.append_inj_right' same rfl)
    have none : (Path.mk name).extension? = none := by
      rw [Path.extension?, named]
      decide
    simp [Discovery.hasExtension, none] at selected

theorem lost_iff (plain : fs.Plain) {name : String} (member : name ∈ project.files)
    {place : List String} (led : fs.leads? ⟨name⟩ = some place) :
    project.lost fs place ↔ fs.unreadable ⟨name⟩ = true := by
  constructor
  · intro missing
    obtain ⟨content, file, textless⟩ := kindAt_of_lost plain missing
    exact plain.unreadable_iff.mpr
      ⟨content, FileSystem.kindOf?_eq_some_iff.mpr ⟨place, led, file⟩, textless⟩
  · intro unreadable
    exact ⟨name, List.mem_filter.mpr ⟨member, unreadable⟩, led⟩

theorem load_cleaned (plain : fs.Plain) (loaded : load fs common = .ok (project, notices)) :
    ∃ notices, load (project.cleaned fs) common = .ok (project.spared fs, notices) := by
  have cleaned := cleaned_spec plain loaded
  obtain ⟨settings, found, same⟩ := load_eq_ok loaded
  obtain ⟨notices', again⟩ := load_of_settings (cleaned.load_eq plain found)
  have files : (discover (project.cleaned fs) (rootOf common) settings.config).files =
      (project.spared fs).files := by
    refine eq_of_increasing (sortedSet_increasing _) ((files_increasing loaded).filter _) ?_
    intro name
    have known : name ∈ (discover fs (rootOf common) settings.config).files ↔
        name ∈ project.files := by rw [same]
    rw [discover, Discovery.mem_files_iff plain cleaned.toPruned, ← discover, known, spared,
      List.mem_filter]
    refine and_congr_right fun member => ?_
    obtain ⟨content, file⟩ := (plain.isFile_iff _).mp (selects_of_mem loaded member).1
    obtain ⟨place, led, -⟩ := FileSystem.kindOf?_eq_some_iff.mp file
    simp [led, lost_iff plain member led]
  refine ⟨notices', ?_⟩
  rw [again, files, spared, same]

theorem indexed_cleaned (plain : fs.Plain) (loaded : load fs common = .ok (project, notices)) :
    ((project.spared fs).indexed (project.cleaned fs)).index = (project.indexed fs).index ∧
      ((project.spared fs).indexed (project.cleaned fs)).sources.units =
        (project.indexed fs).sources.units := by
  have units : Loading.unitsOf (project.cleaned fs) (project.spared fs).files =
      Loading.unitsOf fs project.files :=
    Loading.unitsOf_cleaned (cleaned_spec plain loaded) plain fun name member =>
      (selects_of_mem loaded member).1
  simp only [indexed, Loading.ofFiles, units, and_self]

theorem indexed_failures (loaded : load fs common = .ok (project, notices)) :
    (project.indexed fs).sources.failures.map (·.sourceId) = project.broken fs := by
  have sourceIds := Loading.failuresOf_sourceIds fun _ member => (selects_of_mem loaded member).1
  have ordered : ((Loading.failuresOf fs project.files).map (·.sourceId)).Pairwise (· < ·) := by
    rw [sourceIds]
    exact (files_increasing loaded).filter _
  have sorted : sortFailures (Loading.failuresOf fs project.files) =
      Loading.failuresOf fs project.files := by
    apply List.mergeSort_of_pairwise
    refine (List.pairwise_map.mp ordered).imp fun less => ?_
    exact decide_eq_true (le_of_lt less)
  rw [indexed, Loading.ofFiles]
  dsimp only
  rw [sorted, sourceIds]
  rfl

/-- If all includes are spelled from one path, no two names of files without a text lead to one
place. -/
theorem broken_places_distinct (plain : fs.Plain)
    (loaded : load fs common = .ok (project, notices)) {above : Path}
    (spelled : ∀ text ∈ project.config.includes,
      Discovery.IncludeFrom above (baseOf project.root project.config.sourceRoot) text) :
    ((project.broken fs).map fun name => fs.leads? ⟨name⟩).Nodup := by
  have distinct : (project.broken fs).Nodup := ((files_increasing loaded).imp ne_of_lt).filter _
  obtain ⟨settings, -, rfl⟩ := load_eq_ok loaded
  obtain ⟨above, common⟩ := Discovery.exists_spelledFrom plain spelled
  apply List.pairwise_map.mpr
  apply distinct.imp_of_mem
  intro first second member member' apart same
  exact apart (Discovery.eq_of_mem_files plain common (List.mem_filter.mp member).1
    (List.mem_filter.mp member').1 same)

end Project

namespace Program

/-- Wherever a project can be loaded from a tree without links, a scan writes the findings to the
standard output, and no others than with the files that have no text deleted. It reports these
files and no others, in the order of their names, and ends with a failure if there are any. It
names each file once if all includes are spelled from one path. -/
theorem scan_isolates_failures (fs : FileSystem) (plain : fs.Plain) (common : CommonArguments)
    {project : Project} {notices : List Output}
    (loaded : Project.load fs common = .ok (project, notices)) :
    let broken := project.files.filter fun name => fs.unreadable ⟨name⟩
    let cleaned := fs.removeAll (broken.map Path.mk)
    let found := project.indexed fs
    let failures := found.sources.failures
    FileSystem.Pruned (fun place => ∃ name ∈ broken, fs.leads? ⟨name⟩ = some place) fs cleaned ∧
    failures.map (·.sourceId) = broken ∧ broken.Pairwise Text.ByteLt ∧
    (∀ above, (∀ text ∈ project.config.includes, Discovery.IncludeFrom above
        (Project.baseOf project.root project.config.sourceRoot) text) →
      (broken.map fun name => fs.leads? ⟨name⟩).Nodup) ∧
    ∀ format,
      let scan := run fs (some (.scan format common))
      let rescan := run cleaned (some (.scan format common))
      scan = finish (notices ++ found.log.map .log) common.verbose
        ⟨scanFindings format found, failures⟩ fs ∧
      (∀ colours, Output.stdout colours (Run.allOutputs scan) = Output.stdout colours
        (Report.scanLines format found.index.records found.sources.units.length)) ∧
      (∀ colours, Output.stdout colours (Run.allOutputs scan) =
        Output.stdout colours (Run.allOutputs rescan)) ∧
      (Run.status scan).code = if broken = [] then 0 else 1 := by
  intro broken cleaned found failures
  have sourceIds : failures.map (·.sourceId) = broken := Project.indexed_failures loaded
  refine ⟨Project.pruned_cleaned plain project, sourceIds, ?_, ?_, ?_⟩
  · exact ((Project.files_increasing loaded).filter _).imp Text.byteLt_of_lt
  · intro above spelled
    exact Project.broken_places_distinct plain loaded spelled
  · intro format scan rescan
    obtain ⟨notices', again⟩ := Project.load_cleaned plain loaded
    obtain ⟨index, units⟩ := Project.indexed_cleaned plain loaded
    have first (colours : Colours) : Output.stdout colours (Run.allOutputs scan) = _ :=
      query_allOutputs_stdout loaded (scanFindings format) colours
    have second (colours : Colours) : Output.stdout colours (Run.allOutputs rescan) = _ :=
      query_allOutputs_stdout again (scanFindings format) colours
    refine ⟨query_of_load loaded _, first, ?_, ?_⟩
    · intro colours
      rw [first, second, scanFindings, scanFindings, index, units]
    · refine (query_status_code loaded (scanFindings format)).trans ?_
      have none : failures = [] ↔ broken = [] := by
        rw [← sourceIds, List.map_eq_nil_iff]
      simp only [scanFindings, Findings.missing, and_true]
      exact if_congr none rfl rfl

/-- A model between a file that is no text and one that may not be read. -/
theorem scan_isolates_failures_of_two :
    let source := "# id integer\nclass Account < ApplicationRecord\n"
    let fs : FileSystem := ⟨.dir [("app", .dir [("models", .dir
      [("a.rb", .file (some ⟨#[255, 254, 0, 1]⟩)), ("account.rb", .file (some source.toUTF8)),
       ("b.rb", .file none)])])], []⟩
    let common : CommonArguments := ⟨none, false⟩
    let project : Project := ⟨Config.default, ⟨"."⟩,
      ["./app/models/a.rb", "./app/models/account.rb", "./app/models/b.rb"]⟩
    let notices : List Output :=
      [.log (Project.info "No .annopinrc.json found, using default configuration")]
    let broken := ["./app/models/a.rb", "./app/models/b.rb"]
    let scan (fs : FileSystem) := run fs (some (.scan .text common))
    let written := "Account\n  id  Int  ./app/models/account.rb:1\n\n" ++
      "✓ Indexed 1 attribute on 1 model from 1 file\n"
    fs.Plain ∧ Project.load fs common = .ok (project, notices) ∧
    (project.indexed fs).sources.failures.map (·.sourceId) = broken ∧
    (broken.map fun name => fs.leads? ⟨name⟩).Nodup ∧
    (Run.status (scan fs)).code = 1 ∧
    Output.stdout ⟨false, false⟩ (Run.allOutputs (scan fs)) = written ∧
    Output.stdout ⟨false, false⟩ (Run.allOutputs (scan (fs.removeAll (broken.map Path.mk)))) =
      written := by
  intro source fs common project notices broken scan written
  have models : Node.Plain (.dir [("a.rb", .file (some ⟨#[255, 254, 0, 1]⟩)),
      ("account.rb", .file (some source.toUTF8)), ("b.rb", .file none)]) := by
    refine .dir (by simp) (by simp [Node.isName]) ?_
    simp only [List.forall_mem_cons]
    exact ⟨.file _, .file _, .file _, fun _ member => absurd member List.not_mem_nil⟩
  have plain : fs.Plain := by
    refine ⟨.dir (by simp) (by simp [Node.isName]) ?_, rfl⟩
    refine List.forall_mem_singleton.mpr (.dir (by simp) (by simp [Node.isName]) ?_)
    exact List.forall_mem_singleton.mpr models
  have loaded : Project.load fs common = .ok (project, notices) := by decide +kernel
  have unreadable : project.files.filter (fun name => fs.unreadable ⟨name⟩) = broken := by
    decide +kernel
  have spelled : ∀ text ∈ project.config.includes, Discovery.IncludeFrom ⟨"."⟩
      (Project.baseOf project.root project.config.sourceRoot) text := by
    intro text member
    obtain rfl := List.mem_singleton.mp member
    exact .inr ⟨["app", "models"], by decide +kernel, by simp, by decide⟩
  have lines : Output.stdout ⟨false, false⟩ (Report.scanLines .text
      (project.indexed fs).index.records (project.indexed fs).sources.units.length) = written := by
    decide +kernel
  obtain ⟨-, failures, -, places, runs⟩ := scan_isolates_failures fs plain common loaded
  obtain ⟨-, stdout, restdout, status⟩ := runs .text
  have distinct := places ⟨"."⟩ spelled
  rw [unreadable] at failures status distinct
  rw [unreadable] at restdout
  have shown := (stdout ⟨false, false⟩).trans lines
  exact ⟨plain, loaded, failures, distinct, status, shown, (restdout _).symm.trans shown⟩

/-- A file without a text that two includes list under two spellings is reported as two. -/
theorem unreadable_file_reported_twice :
    ¬ ∀ (fs : FileSystem) (common : CommonArguments) (project : Project) (notices : List Output),
      fs.Plain → Project.load fs common = .ok (project, notices) →
        ((project.indexed fs).sources.failures.map fun failure =>
          fs.leads? ⟨failure.sourceId⟩).Nodup := by
  intro distinct
  let settings := "\x7b\"includes\":[\"app/models\",\"app/*\"]\x7d"
  let fs : FileSystem := ⟨.dir [(".annopinrc.json", .file (some settings.toUTF8)),
    ("app", .dir [("models", .dir [("a.rb", .file (some ⟨#[255]⟩))])])], []⟩
  let project : Project := ⟨⟨[], ["app/models", "app/*"], "./", ["rb"]⟩, ⟨"."⟩,
    ["./app/models/a.rb", "app/models/a.rb"]⟩
  have plain : fs.Plain := ⟨by decide +kernel, rfl⟩
  have loaded : Project.load fs ⟨none, false⟩ = .ok (project, []) := by decide +kernel
  have broken : project.broken fs = ["./app/models/a.rb", "app/models/a.rb"] := by decide +kernel
  have once : (((project.indexed fs).sources.failures.map (·.sourceId)).map
      fun name => fs.leads? ⟨name⟩).Nodup := by
    rw [List.map_map]
    exact distinct fs ⟨none, false⟩ project [] plain loaded
  rw [Project.indexed_failures loaded, broken] at once
  have same : fs.leads? ⟨"./app/models/a.rb"⟩ = fs.leads? ⟨"app/models/a.rb"⟩ := by decide +kernel
  simp [same] at once

end Program
end AttributePins

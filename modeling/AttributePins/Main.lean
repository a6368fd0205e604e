import AttributePins.Program

/-! The command line program. It takes a picture of the directories that a command looks
at, runs the command on the picture, and writes what the run has written. -/
namespace AttributePins.Main

/-- The place of a path seen from a directory, as far as its text shows it. -/
def placeFrom (directory : List String) (path : Path) : List String :=
  (FileSystem.namesOf path).foldl
    (fun place name =>
      if name = "" ∨ name = "." then place
      else if name = ".." then place.dropLast
      else place ++ [name])
    (if path.isAbsolute then [] else directory)

def settingsPaths (common : CommonArguments) : List Path :=
  (Project.rootOf common).ancestors.flatMap fun directory =>
    [Config.fileIn directory, Config.repositoryIn directory]

def searchedPaths (root : Path) (config : Config) : List Path :=
  let base := Project.baseOf root config.sourceRoot
  base :: config.includes.map fun text => if Pattern.isWild text then base else base.join ⟨text⟩

/-- Whether a whole tree is needed, because its entries are not all named beforehand. -/
def needsTree (config : Config) : Bool :=
  config.includes.isEmpty || config.includes.any Pattern.isWild

structure Scope where
  /-- Whether directories are entered. -/
  entered : Bool
  /-- The extensions of the files whose content matters. -/
  extensions : List String

def Scope.takes (scope : Scope) (name : String) : Bool :=
  name = Config.fileName || Discovery.hasExtension scope.extensions ⟨name⟩

/-- An absolute place as an entry of its directory. -/
def entryAt (place : List String) : IO.FS.DirEntry :=
  ⟨"/" ++ "/".intercalate place.dropLast, place.getLast?.getD "."⟩

/-- What is at an entry under a name, with links to files replaced by the files. The
targets of links to directories are collected. A link that leads nowhere is left out. -/
partial def nodeAt (scope : Scope) (name : String) (entry : IO.FS.DirEntry) :
    StateT (List Path) IO (Option Node) := do
  let path := entry.path
  let .ok link ← path.symlinkMetadata.toBaseIO | return none
  let .ok target ← path.metadata.toBaseIO | return none
  match target.type with
  | .dir =>
    if link.type == .symlink then
      let place := (← IO.FS.realPath path).toString
      modify (⟨place⟩ :: ·)
      return some (.link place)
    if !scope.entered then return some (.dir [])
    let .ok children ← path.readDir.toBaseIO | return some (.dir [])
    let mut nodes := []
    for child in children do
      if let some node ← nodeAt scope child.fileName child then
        nodes := Node.insertEntry child.fileName node nodes
    return some (.dir nodes)
  | _ =>
    if !scope.takes name then return some (.file none)
    match ← (IO.FS.readBinFile path).toBaseIO with
    | .ok content => return some (.file (some content))
    | .error _ => return some (.file none)

/-- Add what is at some paths to a picture, and then what links there lead to. -/
partial def observe (scope : Scope) (seen : List (List String)) (fs : FileSystem) :
    List Path → IO FileSystem
  | [] => return fs
  | path :: rest => do
    let place := placeFrom fs.cwd path
    let .ok real ← (IO.FS.realPath (entryAt place).path).toBaseIO | observe scope seen fs rest
    if seen.any (·.isPrefixOf place) then observe scope seen fs rest
    else
      let name := place.getLast?.getD ""
      let (node, links) ← (nodeAt scope name (entryAt (placeFrom [] ⟨real.toString⟩))).run []
      let root := node.elim fs.root fun node => Node.graft node place fs.root
      let onward := links.filter fun link => !(placeFrom [] link).isPrefixOf place
      observe scope (place :: seen) { fs with root := root } (rest ++ onward)

/-- What a command can see. -/
def picture (command : Option Command) : IO FileSystem := do
  let cwd := placeFrom [] ⟨(← IO.currentDir).toString⟩
  let start : FileSystem := ⟨Node.graft (.dir []) cwd (.dir []), cwd⟩
  let project (common : CommonArguments) : IO FileSystem := do
    let root := Project.rootOf common
    let known ← observe ⟨false, []⟩ [] start (settingsPaths common)
    match Config.load known root with
    | .error _ => return known
    | .ok loaded =>
      let config := loaded.config
      let paths := searchedPaths root config
      observe ⟨true, config.extensions⟩ [] known
        (if needsTree config then paths else paths.drop 1)
  match command with
  | none => return start
  | some (.scan _ common) => project common
  | some (.lookup _ _ common) => project common
  | some .init => observe ⟨false, []⟩ [] start [⟨Config.fileName⟩]

/-- Write the settings file if a run has made one. -/
def store (before after : FileSystem) : IO Unit :=
  match before.readText ⟨Config.fileName⟩, after.readText ⟨Config.fileName⟩ with
  | .error _, .ok text => IO.FS.writeFile Config.fileName text
  | _, _ => return

def environment : IO Program.Environment := do
  let bindings ← Program.variableNames.filterMapM fun name => do
    return (← IO.getEnv name).map fun value => (name, value)
  return ⟨bindings, ← (← IO.getStdout).isTty⟩

end AttributePins.Main

open AttributePins in
def main (arguments : List String) : IO UInt32 := do
  let command := (CommandLine.parse arguments).toOption.join
  let before ← Main.picture command
  let done := Program.execute before (← Main.environment) arguments
  try
    Main.store before done.fileSystem
  catch error =>
    IO.eprintln s!"Error: {error}"
    return 2
  IO.eprint done.stderr
  IO.print done.stdout
  return done.status.code.toUInt32

import AttributePins.FileSystem.Error
import AttributePins.FileSystem.Node
import AttributePins.Path

/-! A file system: a tree and a working directory. Paths are resolved name by name.
A link on the way is replaced by its target, at most forty times; a link at the end
only where it is asked for. Requests answer with a value or a new file system, so
that runs can be compared. Making links and directories, removing and moving about are
not requests of the program; they are how the file systems come about that it runs on,
before it and between two runs. -/
namespace AttributePins

structure FileSystem where
  root : Node
  /-- The place of the working directory. -/
  cwd : List String

namespace FileSystem

def maxPathBytes : Nat := 4095

def maxNameBytes : Nat := 255

def maxLinks : Nat := 40

inductive Ending where
  /-- A link there is left as it is. -/
  | kept
  /-- A link there is followed. -/
  | followed
  /-- A link there is followed to a file to write, which no slash may follow. -/
  | written
deriving DecidableEq, Repr

inductive Target where
  | found (place : List String) (node : Node)
  /-- Only the last name is missing from its directory. -/
  | vacant (directory : List String) (name : String)

/-- How far names lead without following links. -/
inductive Progress where
  | arrived (target : Target)
  /-- A link in a directory, and the names behind it. -/
  | atLink (directory : List String) (link : String) (rest : List String)

/-- The names of a path to walk. A slash at the end asks for a directory, and is an
empty name. -/
def namesOf (path : Path) : List String :=
  let names := (path.text.toList.splitOn '/').filter (· ≠ [])
  let final := if path.hasEndSlash then [[]] else []
  (names ++ final).map String.ofList

/-- Walk names from a place up to a link that has to be followed. -/
def walkNames (root : Node) (ending : Ending) (place : List String) :
    List String → Except OsError Progress
  | [] =>
    match root.get? place with
    | some node => .ok (.arrived (.found place node))
    | none => .error .notFound
  | name :: rest =>
    if name = "" ∨ name = "." then walkNames root ending place rest
    else if name = ".." then walkNames root ending place.dropLast rest
    else if ending = .written ∧ rest = [""] then .error .isDirectory
    else if name.utf8ByteSize > maxNameBytes then .error .nameTooLong
    else
      match root.get? place with
      | none => .error .notFound
      | some (.dir entries) =>
        match entries.lookup name with
        | none => if rest.isEmpty then .ok (.arrived (.vacant place name)) else .error .notFound
        | some (.dir _) => walkNames root ending (place ++ [name]) rest
        | some (.file content) =>
          if rest.isEmpty then .ok (.arrived (.found (place ++ [name]) (.file content)))
          else .error .notDirectory
        | some (.link target) =>
          if rest.isEmpty ∧ ending = .kept then
            .ok (.arrived (.found (place ++ [name]) (.link target)))
          else .ok (.atLink place target rest)
      | some _ => .error .notDirectory

def resolveFrom (root : Node) (ending : Ending) :
    Nat → List String → List String → Except OsError Target
  | links, place, names =>
    match walkNames root ending place names with
    | .error error => .error error
    | .ok (.arrived target) => .ok target
    | .ok (.atLink directory link rest) =>
      match links with
      | 0 => .error .linkLoop
      | links + 1 =>
        resolveFrom root ending links
          (if (Path.mk link).isAbsolute then [] else directory) (namesOf ⟨link⟩ ++ rest)

/-- Refuse a text that no request takes for a path. -/
def checkText (text : String) : Except OsError Unit :=
  if text.toList.contains '\x00' then .error .nulInPath
  else if text.isEmpty then .error .notFound
  else if text.utf8ByteSize > maxPathBytes then .error .nameTooLong
  else .ok ()

def resolve (fs : FileSystem) (ending : Ending) (path : Path) : Except OsError Target := do
  checkText path.text
  resolveFrom fs.root ending maxLinks (if path.isAbsolute then [] else fs.cwd) (namesOf path)

def Target.node : Target → Except OsError Node
  | .found _ node => .ok node
  | .vacant _ _ => .error .notFound

/-- The node at a path, with links followed. -/
def stat (fs : FileSystem) (path : Path) : Except OsError Node := do
  (← fs.resolve .followed path).node

/-- The node at a path, which may be a link. -/
def linkStat (fs : FileSystem) (path : Path) : Except OsError Node := do
  (← fs.resolve .kept path).node

def exists? (fs : FileSystem) (path : Path) : Bool := (fs.stat path).isOk

def isDir (fs : FileSystem) (path : Path) : Bool :=
  match fs.stat path with
  | .ok node => node.isDir
  | .error _ => false

def isFile (fs : FileSystem) (path : Path) : Bool :=
  match fs.stat path with
  | .ok node => node.isFile
  | .error _ => false

def entries (fs : FileSystem) (path : Path) : Except OsError (List (String × Node)) := do
  match ← fs.stat path with
  | .dir entries => .ok entries
  | _ => .error .notDirectory

def readText (fs : FileSystem) (path : Path) : Except ReadError String :=
  match fs.stat path with
  | .error error => .error (.os error)
  | .ok (.file none) => .error (.os .notPermitted)
  | .ok (.file (some content)) =>
    match String.fromUTF8? content with
    | some text => .ok text
    | none => .error .notUtf8
  | .ok _ => .error (.os .isDirectory)

def putAt (fs : FileSystem) (directory : List String) (name : String) (node : Node) :
    FileSystem :=
  { fs with root := fs.root.modify (Node.put name node) directory }

/-- Write a file. A link at the path is written through. -/
def writeFile (fs : FileSystem) (path : Path) (content : ByteArray) :
    Except OsError FileSystem := do
  match ← fs.resolve .written path with
  | .vacant directory name => .ok (fs.putAt directory name (.file (some content)))
  | .found place (.file _) =>
    .ok { fs with root := fs.root.modify (fun _ => .file (some content)) place }
  | .found _ _ => .error .isDirectory

/-- Put a node at a path where there is nothing. Slashes at the end of the path are for
directories. -/
def create (fs : FileSystem) (path : Path) (node : Node) : Except OsError FileSystem := do
  checkText path.text
  match ← fs.resolve .kept path.withoutEndSlashes with
  | .vacant directory name =>
    if path.hasEndSlash && !node.isDir then .error .notFound
    else .ok (fs.putAt directory name node)
  | .found _ _ => .error .alreadyExists

/-- Make a symbolic link. Its target need not be there, but has to be a text that can
be a path. -/
def makeLink (fs : FileSystem) (path : Path) (target : String) : Except OsError FileSystem := do
  checkText target
  fs.create path (.link target)

/-- Make the directory at a path, unless there is one. -/
def makeDir (fs : FileSystem) (path : Path) : Except OsError FileSystem :=
  match fs.create path (.dir []) with
  | .error .alreadyExists => if fs.isDir path then .ok fs else .error .alreadyExists
  | outcome => outcome

/-- Make the first of a path and its ancestors, after those above it if they are
missing. -/
def makeMissing (fs : FileSystem) : List Path → Except OsError FileSystem
  | [] => .ok fs
  | path :: above =>
    if path.parent?.isNone then .ok fs
    else
      match fs.makeDir path with
      | .error .notFound => do (← makeMissing fs above).makeDir path
      | outcome => outcome

/-- Make the directory at a path and those above it, as far as they are missing. -/
def makeDirs (fs : FileSystem) (path : Path) : Except OsError FileSystem :=
  fs.makeMissing path.withoutEndSlashes.ancestors

def makeParents (fs : FileSystem) (path : Path) : Except OsError FileSystem :=
  match path.parent? with
  | some parent => fs.makeDirs parent
  | none => .ok fs

/-- Remove a file, a link, or a directory with all it holds. -/
def remove (fs : FileSystem) (path : Path) : Except OsError FileSystem := do
  match ← fs.resolve .kept path with
  | .vacant _ _ => .error .notFound
  | .found place _ =>
    match place.getLast? with
    | some name => .ok { fs with root := fs.root.modify (Node.remove name) place.dropLast }
    | none => .error .isDirectory

def changeDir (fs : FileSystem) (path : Path) : Except OsError FileSystem := do
  match ← fs.resolve .followed path with
  | .found place (.dir _) => .ok { fs with cwd := place }
  | .found _ _ => .error .notDirectory
  | .vacant _ _ => .error .notFound

end FileSystem
end AttributePins

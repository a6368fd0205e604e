import AttributePins.FileSystem.Walk
import AttributePins.Glob
import AttributePins.Log

/-! Which files a project has. Includes name the directories to walk, ignores leave
paths out, and extensions select files. A text with `*` or `?` is a pattern, any
other a path below the base directory. A file is found under the path that led to
it, so one file may be found under several paths; each path is listed once, in
order. A path is listed by its text, as it is: names are texts here, so none has to be
changed to be shown. -/
namespace AttributePins

/-- The texts of a list in increasing order, each once. -/
def sortedSet (texts : List String) : List String :=
  texts.foldr insert []
where
  insert (text : String) : List String → List String
    | [] => [text]
    | first :: rest =>
      if text < first then text :: first :: rest
      else if text = first then first :: rest
      else first :: insert text rest

structure Discovery where
  files : List String
  /-- The number of paths that could not be accessed. -/
  skipped : Nat
  log : List Log.Record
deriving DecidableEq, Repr

namespace Discovery

def warning (message : String) : Log.Record where
  level := .warn
  origin := .discovery
  message := message

inductive Ignore where
  /-- A path and everything below it. -/
  | below (path : Path)
  /-- The paths whose whole text a pattern matches. -/
  | matching (pattern : Pattern)
deriving DecidableEq, Repr

/-- What a text leaves out, unless it is a broken pattern. -/
def Ignore.ofText (base : Path) (text : String) : Except Log.Record Ignore :=
  if Pattern.isWild text then
    match Pattern.parse text with
    | .ok pattern => .ok (.matching pattern)
    | .error error => .error (warning s!"Invalid ignore pattern '{text}': {error.message}")
  else .ok (.below (base.join ⟨text⟩))

def Ignore.drops (ignore : Ignore) (path : Path) : Bool :=
  match ignore with
  | .below top => path.startsWith top
  | .matching pattern => pattern.accepts path.text

/-- The directories to walk for an include, or a warning. -/
def rootsOf (fs : FileSystem) (base : Path) (text : String) :
    Except Log.Record (List Path) :=
  let path := base.join ⟨text⟩
  if Pattern.isWild text then
    match Glob.expand fs path.text with
    | .ok paths => .ok (paths.filter fs.isDir)
    | .error error => .error (warning s!"Invalid glob pattern '{text}': {error.message}")
  else if fs.exists? path then .ok [path]
  else .error (warning s!"Include path does not exist: {path.text}")

def hasExtension (extensions : List String) (path : Path) : Bool :=
  match path.extension? with
  | some extension => extensions.contains extension
  | none => false

def selects (fs : FileSystem) (ignores : List Ignore) (extensions : List String)
    (path : Path) : Bool :=
  !(ignores.any (·.drops path)) && fs.isFile path && hasExtension extensions path

/-- The successes and the failures of a list, each in order. -/
def outcomes {α : Type} (results : List (Except Log.Record α)) : List α × List Log.Record :=
  (results.filterMap fun result => match result with | .ok a => some a | .error _ => none,
   results.filterMap fun result => match result with | .ok _ => none | .error r => some r)

/-- Search for the files of a project. Without includes the base itself is walked. -/
def search (fs : FileSystem) (base : Path) (includes ignores extensions : List String) :
    Discovery :=
  let (kept, ignoreLog) := outcomes (ignores.map (Ignore.ofText base))
  let (roots, includeLog) :=
    if includes.isEmpty then ([[base]], []) else outcomes (includes.map (rootsOf fs base))
  let visits := roots.flatten.flatMap fs.walk
  let failures := visits.filterMap fun visit =>
    match visit with
    | .failure path error => some (warning
        s!"Cannot access path: {Visit.failureMessage path error}")
    | .entry _ => none
  let found := visits.filterMap fun visit =>
    match visit with
    | .entry path => if selects fs kept extensions path then some path.text else none
    | .failure _ _ => none
  { files := sortedSet found
    skipped := failures.length
    log := ignoreLog ++ includeLog ++ failures }

end Discovery
end AttributePins

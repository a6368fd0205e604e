import AttributePins.FileSystem
import AttributePins.Pattern

/-! The paths that a pattern stands for in a file system. The pattern is taken
component by component. A component without wildcards is joined to the path so far
and has to exist; any other is held against the entries of a directory, in the
order of their names. `.` and `..` are no entries, but a component that starts with
a literal dot may match them. A recursive component enters directories to any
depth, through links as well, as long as their paths can be resolved. -/
namespace AttributePins.Glob

/-- The text of a pattern behind a leading slash, split into components. A slash at
the end adds none. -/
def componentTexts (pattern : List Char) : List (List Char) :=
  let body := match pattern with
    | '/' :: rest => rest
    | rest => rest
  let parts := body.splitOn '/'
  if parts.getLast? = some [] then parts.dropLast else parts

/-- The components of a pattern. The root alone has one, the empty one. -/
def components (text : String) : Except Pattern.Error (List Pattern) := do
  let _ ← Pattern.parse text
  let parts ← (componentTexts text.toList).mapM fun part => Pattern.parse (String.ofList part)
  .ok (if text = "/" then [⟨[]⟩] else parts)

/-- The path of a name in a directory. Names in the directory `.` stand for themselves. -/
def child (directory : Path) (name : String) : Path :=
  if directory.isHere then ⟨name⟩ else directory.join ⟨name⟩

def takesLiteral (fs : FileSystem) (directory : Path) (name : String) : Bool :=
  if name = "." ∨ name = ".." then fs.isDir directory
  else
    (fs.stat (child directory name)).isOk || (fs.linkStat (child directory name)).isOk

def specialNames (component : Pattern) : List String :=
  if component.startsWithDot then ["..", "."].filter component.accepts else []

def namesIn (fs : FileSystem) (directory : Path) : List String :=
  match fs.entries directory with
  | .ok entries => (entries.map (·.1)).mergeSort fun a b => a ≤ b
  | .error _ => []

/-- The paths that components lead to from a path. Every step takes a component or
lengthens the path, and a path has a greatest length, which bounds the steps. -/
def expandFrom (fs : FileSystem) (directoriesOnly : Bool) :
    Nat → List Pattern → Path → List Path
  | _, [], path => if directoriesOnly && !fs.isDir path then [] else [path]
  | 0, _ :: _, _ => []
  | steps + 1, component :: rest, path =>
    match component.literal? with
    | some name =>
      if takesLiteral fs path name then
        expandFrom fs directoriesOnly steps rest (child path name)
      else []
    | none =>
      (if fs.isDir path then
        (specialNames component).flatMap fun name =>
          expandFrom fs directoriesOnly steps rest (path.join ⟨name⟩)
      else []) ++
      (namesIn fs path).flatMap fun name =>
        let entry := child path name
        if component.isRecursive then
          let others := rest.dropWhile (·.isRecursive)
          let here :=
            match others with
            | [] => if fs.isDir entry then [entry] else []
            | next :: later =>
              if next.accepts name then expandFrom fs directoriesOnly steps later entry else []
          let below :=
            if fs.isDir entry then
              expandFrom fs directoriesOnly steps (component :: others) entry
            else []
          here ++ below
        else if component.accepts name then expandFrom fs directoriesOnly steps rest entry
        else []

/-- The paths that a pattern stands for. -/
def expand (fs : FileSystem) (text : String) : Except Pattern.Error (List Path) := do
  let parts ← components text
  let start : Path := if (Path.mk text).isAbsolute then ⟨"/"⟩ else ⟨"."⟩
  let directoriesOnly := text.toList.getLast? = some '/'
  .ok (expandFrom fs directoriesOnly (FileSystem.maxPathBytes + parts.length + 2) parts start)

end AttributePins.Glob

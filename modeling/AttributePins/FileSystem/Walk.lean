import AttributePins.FileSystem

/-! Walking a directory tree. The walk visits its root and everything below it, each
under the root's path with the names on the way joined to it. A link below the root
is visited and not entered; the root itself may be a link to a directory. A
directory whose path is too long is visited, and then cannot be listed. -/
namespace AttributePins

inductive Visit where
  | entry (path : Path)
  | failure (path : Path) (error : OsError)
deriving DecidableEq, Repr

def Visit.failureMessage (path : Path) (error : OsError) : String :=
  s!"IO error for operation on {path.text}: {error.message}"

mutual

def Node.visits (path : Path) : Node → List Visit
  | .dir entries =>
    .entry path ::
      if path.text.utf8ByteSize > FileSystem.maxPathBytes then [.failure path .nameTooLong]
      else Node.visitsBelow path entries
  | .file _ => [.entry path]
  | .link _ => [.entry path]

def Node.visitsBelow (path : Path) : List (String × Node) → List Visit
  | [] => []
  | (name, node) :: rest => node.visits (path.join ⟨name⟩) ++ Node.visitsBelow path rest

end

def FileSystem.walk (fs : FileSystem) (path : Path) : List Visit :=
  match fs.linkStat path with
  | .error error => [.failure path error]
  | .ok (.link _) =>
    match fs.stat path with
    | .error error => [.failure path error]
    | .ok node => node.visits path
  | .ok node => node.visits path

end AttributePins

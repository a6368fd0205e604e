import AttributePins.FileSystem
import AttributePins.Log
import AttributePins.Source

/-! Loading sources from files. A file that cannot be read is a failure of its own and
keeps no other file from being loaded. -/
namespace AttributePins

structure Loading where
  sources : Sources
  log : List Log.Record
deriving DecidableEq, Repr

namespace Loading

def readUnit (fs : FileSystem) (name : String) : Except LoadFailure SourceUnit :=
  match fs.readText ⟨name⟩ with
  | .ok text => .ok ⟨name, text⟩
  | .error error => .error ⟨name, s!"Failed to read file: {name}: {error.message}"⟩

def unitsOf (fs : FileSystem) (names : List String) : List SourceUnit :=
  names.filterMap fun name => (readUnit fs name).toOption

def failure? (fs : FileSystem) (name : String) : Option LoadFailure :=
  match readUnit fs name with
  | .ok _ => none
  | .error failure => some failure

def failuresOf (fs : FileSystem) (names : List String) : List LoadFailure :=
  names.filterMap (failure? fs)

def announcement (name : String) : Log.Record where
  level := .info
  origin := .loading
  message := s!"loading from {name}"

def warning (failure : LoadFailure) : Log.Record where
  level := .warn
  origin := .loading
  message := failure.message

/-- Load files. All files are read before failures are reported. -/
def ofFiles (fs : FileSystem) (names : List String) : Loading where
  sources := ⟨sortUnits (unitsOf fs names), sortFailures (failuresOf fs names)⟩
  log := names.map announcement ++ (failuresOf fs names).map warning

end Loading
end AttributePins

import AttributePins.Config.Reader
import AttributePins.FileSystem
import AttributePins.Text.Quoted

/-! Where the settings of a project come from. A settings file is searched for in a
directory and its ancestors, as far as the path's text shows them; the top of a
repository ends the search. Without a settings file the default applies. -/
namespace AttributePins.Config

def fileIn (directory : Path) : Path := directory.join ⟨fileName⟩

/-- What marks a directory as the top of a repository. -/
def repositoryIn (directory : Path) : Path := directory.join ⟨".git"⟩

/-- Search directories in turn. Settings count before the mark of a repository. -/
def searchIn (fs : FileSystem) : List Path → Option Path
  | [] => none
  | directory :: rest =>
    if fs.exists? (fileIn directory) then some (fileIn directory)
    else if fs.exists? (repositoryIn directory) then none
    else searchIn fs rest

/-- The settings file that applies to a directory. -/
def find? (fs : FileSystem) (start : Path) : Option Path := searchIn fs start.ancestors

inductive LoadError where
  | unreadable (error : ReadError)
  | unparsable (file : Path) (fault : Json.Fault)
  | invalid (reason : Invalid)
deriving DecidableEq, Repr

namespace LoadError

def headline : LoadError → String
  | .unreadable error => error.message
  | .unparsable file _ => s!"Failed to parse config file: {Text.quoted file.text}"
  | .invalid reason => reason.headline

/-- What is wrong, with the cause where it has a wording. -/
def message : LoadError → String
  | .invalid reason => reason.message
  | error => error.headline

end LoadError

/-- Settings, and whether they come from a file. -/
structure Loaded where
  config : Config
  fromFile : Bool
deriving DecidableEq, Repr

def readFile (fs : FileSystem) (file : Path) : Except LoadError Config :=
  match fs.readText file with
  | .error error => .error (.unreadable error)
  | .ok text =>
    match decode text with
    | .error fault => .error (.unparsable file fault)
    | .ok config =>
      match config.invalid? with
      | some reason => .error (.invalid reason)
      | none => .ok config

def load (fs : FileSystem) (start : Path) : Except LoadError Loaded :=
  match find? fs start with
  | none => .ok ⟨default, false⟩
  | some file => (readFile fs file).map fun config => ⟨config, true⟩

end AttributePins.Config

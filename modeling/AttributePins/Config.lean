import AttributePins.Json.Basic
import AttributePins.Pattern

/-! Settings of a project: which files are searched for models. The table of column
types is fixed and no setting. -/
namespace AttributePins

structure Config where
  /-- Paths and patterns that are left out. -/
  ignores : List String
  /-- Paths and patterns of the directories to search. -/
  includes : List String
  /-- The directory that the others are relative to. -/
  sourceRoot : String
  /-- File extensions, without the dot. -/
  extensions : List String
deriving DecidableEq, Repr

namespace Config

def fileName : String := ".annopinrc.json"

/-- The settings of a project without a settings file. -/
def default : Config where
  ignores := []
  includes := ["app/models"]
  sourceRoot := "./"
  extensions := ["rb"]

def toJson (config : Config) : Json.Value :=
  let list (items : List String) : Json.Value := .array (items.map .string)
  .object
    [("ignores", list config.ignores), ("includes", list config.includes),
     ("sourceRoot", .string config.sourceRoot), ("extensions", list config.extensions)]

def render (config : Config) : String := Json.render config.toJson

/-- Why settings that could be read cannot be used. -/
inductive Invalid where
  | ignores (pattern : String) (error : Pattern.Error)
  | includes (pattern : String) (error : Pattern.Error)
  | noExtensions
deriving DecidableEq, Repr

namespace Invalid

/-- What is wrong, without the cause. -/
def headline : Invalid → String
  | .ignores pattern _ => s!"Invalid glob pattern in 'ignores': \"{pattern}\""
  | .includes pattern _ => s!"Invalid glob pattern in 'includes': \"{pattern}\""
  | .noExtensions => "'extensions' must list at least one file extension"

/-- What is wrong, with the cause. -/
def message (invalid : Invalid) : String :=
  match invalid with
  | .ignores _ error => s!"{invalid.headline}: {error.message}"
  | .includes _ error => s!"{invalid.headline}: {error.message}"
  | .noExtensions => invalid.headline

end Invalid

def patternError? (text : String) : Option Pattern.Error :=
  match Pattern.parse text with
  | .ok _ => none
  | .error e => some e

/-- The first reason why settings cannot be used. Every ignore must be a pattern; an
include without wildcards is a plain path. -/
def invalid? (config : Config) : Option Invalid :=
  (config.ignores.findSome? fun text => (patternError? text).map (.ignores text)).or <|
  (config.includes.findSome? fun text =>
    if Pattern.isWild text then (patternError? text).map (.includes text) else none).or <|
  if config.extensions.isEmpty then some .noExtensions else none

end Config
end AttributePins

import AttributePins.CommandLine
import AttributePins.Config.Search
import AttributePins.Discovery
import AttributePins.Index
import AttributePins.Loading
import AttributePins.Output

/-! A project: its settings and its files, and the index of what the files declare. -/
namespace AttributePins

structure Project where
  config : Config
  /-- The directory that the settings are searched from. -/
  root : Path
  files : List String
deriving DecidableEq, Repr

namespace Project

def rootOf (common : CommonArguments) : Path := ⟨common.sourceRoot.getD "."⟩

/-- The directory that includes and ignores are relative to: the configured one, below
the root unless it is absolute. -/
def baseOf (root : Path) (sourceRoot : String) : Path :=
  let configured : Path := ⟨sourceRoot⟩
  if configured.isAbsolute then configured
  else if configured.components.all (· = .here) then root
  else root.join configured.withoutHere

def info (message : String) : Log.Record where
  level := .info
  origin := .project
  message := message

/-- What is reported about paths that could not be accessed. -/
def skippedNotice (verbose : Bool) (skipped : Nat) : List Output :=
  if skipped = 0 then []
  else
    let hint := if verbose then "" else " (use -v for details)"
    [.complaint [s!"Warning: {skipped} path(s) skipped due to access errors{hint}"]]

def settingsNotice (loaded : Config.Loaded) : List Output :=
  if loaded.fromFile then []
  else [.log (info s!"No {Config.fileName} found, using default configuration")]

def discover (fs : FileSystem) (root : Path) (config : Config) : Discovery :=
  Discovery.search fs (baseOf root config.sourceRoot) config.includes config.ignores
    config.extensions

def load (fs : FileSystem) (common : CommonArguments) :
    Except Config.LoadError (Project × List Output) :=
  let root := rootOf common
  match Config.load fs root with
  | .error error => .error error
  | .ok loaded =>
    let discovery := discover fs root loaded.config
    .ok (⟨loaded.config, root, discovery.files⟩,
      settingsNotice loaded ++ discovery.log.map .log
        ++ skippedNotice common.verbose discovery.skipped)

structure Indexed where
  index : Index
  sources : Sources
  log : List Log.Record
deriving DecidableEq, Repr

def indexed (fs : FileSystem) (project : Project) : Indexed :=
  let loading := Loading.ofFiles fs project.files
  let units := loading.sources.units
  let indexing := indexUnits .rails units Index.empty
  { index := indexing.sink
    sources := loading.sources
    log := loading.log
      ++ (eventsOf .rails units).map (fun (sourceId, event) => Log.ofEvent sourceId event)
      ++ [info (s!"indexed {indexing.forwarded} model declaration(s) "
            ++ s!"from {units.length} file(s)")] }

end Project
end AttributePins

import AttributePins.Log.Filter
import AttributePins.Project
import AttributePins.Report

/-! The program: what a command does with a file system, and what it writes. A run
leaves a file system behind; only `init` changes it. -/
namespace AttributePins

inductive Failure where
  | settings (error : Config.LoadError)
  /-- There already is a settings file. -/
  | settingsExist
  | notWritten (error : OsError)
deriving DecidableEq, Repr

namespace Failure

def headline : Failure → String
  | .settings error => error.headline
  | .settingsExist => s!"{Config.fileName} already exists"
  | .notWritten error => error.message

def message : Failure → String
  | .settings error => error.message
  | failure => failure.headline

end Failure

/-- What a run writes, how it ends, and the file system it leaves. -/
structure Run where
  outputs : List Output
  result : Except Failure ExitStatus
  fileSystem : FileSystem

namespace Program

def version : String := "annopin 0.1.0"

def helpOnCommand (name purpose : String) : List Span :=
  ["  ", Style.bold.span name, Report.pad "" (8 - Text.width name), purpose]

def helpOnOption (short long purpose : String) : List Span :=
  ["  ", Style.bold.span short, ", ", Style.bold.span long,
   Report.pad "" (11 - Text.width long), purpose]

def help : List (List Span) :=
  [["Turns ActiveRecord schema-annotation comments into typed attribute declarations " ++
     "for code-intelligence indexes"],
   [],
   [Style.heading.span "Usage:", " ", Style.bold.span "annopin", " [COMMAND]"],
   [],
   [Style.heading.span "Commands:"],
   helpOnCommand "scan" "Index schema annotations of every model and print them",
   helpOnCommand "lookup" "Show the indexed attributes of a model",
   helpOnCommand "init" "Initialize a new .annopinrc.json configuration file",
   helpOnCommand "help" "Print this message or the help of the given subcommand(s)",
   [],
   [Style.heading.span "Options:"],
   helpOnOption "-h" "--help" "Print help",
   helpOnOption "-V" "--version" "Print version"]

def helpLines : List Output := help.map Output.help

def finish (outputs : List Output) (verbose : Bool) (report : Report) (fs : FileSystem) :
    Run where
  outputs := outputs ++ report.lines verbose
  result := .ok report.status
  fileSystem := fs

/-- Index a project and report what is found in the index. -/
def query (fs : FileSystem) (common : CommonArguments)
    (findings : Project.Indexed → Findings) : Run :=
  match Project.load fs common with
  | .error error => ⟨[], .error (.settings error), fs⟩
  | .ok (project, outputs) =>
    let indexed := project.indexed fs
    finish (outputs ++ indexed.log.map .log) common.verbose
      ⟨findings indexed, indexed.sources.failures⟩ fs

def scanFindings (format : OutputFormat) (indexed : Project.Indexed) : Findings :=
  .records format indexed.index.records indexed.sources.units.length

/-- The pins of a model, or the pin of one attribute. -/
def lookupFindings (model : String) (column : Option String) (indexed : Project.Indexed) :
    Findings :=
  .pins model column (indexed.index.containsModel model) <|
    match column with
    | some name => (indexed.index.lookup? model name).toList
    | none => indexed.index.attributesOf model

def init (fs : FileSystem) : Run :=
  let file : Path := ⟨Config.fileName⟩
  if fs.exists? file then ⟨[], .error .settingsExist, fs⟩
  else
    match fs.writeFile file Config.default.render.toUTF8 with
    | .error error => ⟨[], .error (.notWritten error), fs⟩
    | .ok written => finish [] false ⟨.created, []⟩ written

/-- Run a command, or show the help if there is none. -/
def run (fs : FileSystem) : Option Command → Run
  | none => ⟨helpLines, .ok .success, fs⟩
  | some (.scan format common) => query fs common (scanFindings format)
  | some (.lookup model column common) => query fs common (lookupFindings model column)
  | some .init => init fs

structure Environment where
  /-- The variables that are set, with their values. -/
  bindings : List (String × String)
  /-- Whether the standard output is a terminal. -/
  terminal : Bool := false
deriving DecidableEq, Repr

def variableNames : List String := ["ANNOPIN_LOG", "CLICOLOR_FORCE", "NO_COLOR", "CLICOLOR"]

/-- Whether a variable is set to anything but `0`. -/
def Environment.enables (environment : Environment) (name : String) : Bool :=
  (environment.bindings.lookup name).any (· ≠ "0")

/-- Whether a variable is set to anything but an empty text. -/
def Environment.fills (environment : Environment) (name : String) : Bool :=
  (environment.bindings.lookup name).any (· ≠ "")

/-- Whether colour is for terminals, and the output goes to one. -/
def Environment.colourfulTerminal (environment : Environment) : Bool :=
  environment.terminal && (environment.bindings.lookup "CLICOLOR").all (· ≠ "0")

/-- Which outputs are coloured. In a report, forced colours win over forbidden ones; in
the help, forbidden ones win, and variables with empty values do not count. -/
def Environment.colours (environment : Environment) : Colours where
  report :=
    environment.enables "CLICOLOR_FORCE" ||
      ((environment.bindings.lookup "NO_COLOR").isNone && environment.colourfulTerminal)
  help :=
    !environment.fills "NO_COLOR" &&
      (environment.fills "CLICOLOR_FORCE" || environment.colourfulTerminal)

structure Execution where
  stdout : String
  stderr : String
  status : ExitStatus
  fileSystem : FileSystem

def failureLine (failure : Failure) : Output := .complaint [s!"Error: {failure.headline}"]

/-- The outputs of a run and of its failure. -/
def Run.allOutputs (run : Run) : List Output :=
  match run.result with
  | .ok _ => run.outputs
  | .error failure => run.outputs ++ [failureLine failure]

def Run.status (run : Run) : ExitStatus :=
  match run.result with
  | .ok status => status
  | .error _ => .error

def usageMessage : UsageError → String
  | .displayHelp => ""
  | .displayVersion => ""
  | .unknownArgument => "unexpected argument found"
  | .invalidSubcommand => "unrecognized subcommand"
  | .invalidValue => "invalid value for an argument"
  | .argumentConflict => "an argument cannot be used multiple times"
  | .missingArgument => "a required argument was not provided"
  | .tooManyValues => "unexpected value for an argument"

/-- What is shown instead of running a command. -/
def usageOutputs (error : UsageError) : List Output :=
  match error with
  | .displayHelp => helpLines
  | .displayVersion => [.line [version]]
  | error =>
    [Report.errorLine (usageMessage error), .complaint [],
     .complaint ["For more information, try '--help'."]]

def execute (fs : FileSystem) (environment : Environment) (arguments : List String) :
    Execution :=
  let colours := environment.colours
  match CommandLine.parse arguments with
  | .error error =>
    { stdout := Output.stdout colours (usageOutputs error)
      stderr := Output.stderr colours (fun _ => false) (usageOutputs error)
      status := if error.exitCode = 0 then .success else .error
      fileSystem := fs }
  | .ok command =>
    let run := run fs command
    let filter := Log.Filter.ofSetting (environment.bindings.lookup "ANNOPIN_LOG")
      (command.any Command.verbose)
    let outputs := Run.allOutputs run
    { stdout := Output.stdout colours outputs
      stderr := Output.stderr colours filter.shows outputs
      status := Run.status run
      fileSystem := run.fileSystem }

end Program
end AttributePins

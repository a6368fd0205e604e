/-! The command line. A request is no command, `init`, `scan` or `lookup`. An option
takes the next argument as its value unless that argument looks like a flag; the
value is examined when the next option or positional value arrives, or at the end.
Asking for help or the version takes effect at once, and an unknown argument is
reported before an unexamined value. -/
namespace AttributePins

inductive OutputFormat where
  | text
  | json
deriving DecidableEq, Repr

namespace OutputFormat

def name : OutputFormat → String
  | .text => "text"
  | .json => "json"

def ofName? (text : String) : Option OutputFormat :=
  [OutputFormat.text, OutputFormat.json].find? fun format => format.name = text

end OutputFormat

/-- Arguments that `scan` and `lookup` share. -/
structure CommonArguments where
  /-- The project's directory, where the settings file is searched from. -/
  sourceRoot : Option String
  verbose : Bool
deriving DecidableEq, Repr

inductive Command where
  | scan (format : OutputFormat) (common : CommonArguments)
  | lookup (model : String) (column : Option String) (common : CommonArguments)
  | init
deriving DecidableEq, Repr

def Command.verbose : Command → Bool
  | .scan _ common => common.verbose
  | .lookup _ _ common => common.verbose
  | .init => false

/-- Why a command line runs no command. -/
inductive UsageError where
  | displayHelp
  | displayVersion
  | unknownArgument
  | invalidSubcommand
  | invalidValue
  | argumentConflict
  | missingArgument
  | tooManyValues
deriving DecidableEq, Repr

/-- Asking for help or the version is no failure. -/
def UsageError.exitCode : UsageError → Nat
  | .displayHelp => 0
  | .displayVersion => 0
  | _ => 2

namespace CommandLine

inductive Subcommand where
  | scan
  | lookup
  | init
deriving DecidableEq, Repr

def Subcommand.ofName? : String → Option Subcommand
  | "scan" => some .scan
  | "lookup" => some .lookup
  | "init" => some .init
  | _ => none

/-- How many positional values a command takes. -/
def Subcommand.positionals : Subcommand → Nat
  | .lookup => 2
  | _ => 0

/-- Options that take a value. -/
inductive Setting where
  | format
  | sourceRoot
deriving DecidableEq, Repr

/-- What a flag can mean. -/
inductive Switch where
  | setting (setting : Setting)
  | verbose
  | help
deriving DecidableEq, Repr

def Subcommand.long? (command : Subcommand) (name : List Char) : Option Switch :=
  if name = "help".toList then some .help
  else if command = .init then none
  else if name = "verbose".toList then some .verbose
  else if name = "source-root".toList then some (.setting .sourceRoot)
  else if command = .scan ∧ name = "format".toList then some (.setting .format)
  else none

def Subcommand.short? (command : Subcommand) (c : Char) : Option Switch :=
  if c = 'h' then some .help
  else if c = 'v' ∧ command ≠ .init then some .verbose
  else none

/-- How an argument looks. -/
inductive Shape where
  /-- `--`, behind which all arguments are values. -/
  | separator
  /-- `--name` or `--name=value`. -/
  | long (name : List Char) (value : Option (List Char))
  /-- A dash and short flags. -/
  | short (flags : List Char)
  | value
deriving DecidableEq, Repr

/-- The name and the value of a long flag, split at the first equals sign. -/
def splitValue (s : List Char) : List Char × Option (List Char) :=
  match s.dropWhile (· ≠ '=') with
  | [] => (s, none)
  | _ :: value => (s.takeWhile (· ≠ '='), some value)

/-- How an argument looks. A single dash is a value. -/
def shape (argument : String) : Shape :=
  match argument.toList with
  | ['-', '-'] => .separator
  | '-' :: '-' :: rest => .long (splitValue rest).1 (splitValue rest).2
  | '-' :: c :: rest => .short (c :: rest)
  | _ => .value

/-- What has been read of a command's arguments. -/
structure Draft where
  format : Option OutputFormat := none
  sourceRoot : Option String := none
  verbose : Bool := false
  positionals : List String := []
  /-- An option whose value has not been examined, or has not been given yet. -/
  pending : Option (Setting × Option String) := none
deriving DecidableEq, Repr

namespace Draft

/-- Give an option its value. An option may be given once, and a directory may not be
empty. -/
def assign (draft : Draft) (setting : Setting) (value : String) : Except UsageError Draft :=
  match setting with
  | .format =>
    if draft.format.isSome then .error .argumentConflict
    else
      match OutputFormat.ofName? value with
      | some format => .ok { draft with format := some format }
      | none => .error .invalidValue
  | .sourceRoot =>
    if draft.sourceRoot.isSome then .error .argumentConflict
    else if value.isEmpty then .error .invalidValue
    else .ok { draft with sourceRoot := some value }

/-- Examine the option that is pending. -/
def settle (draft : Draft) : Except UsageError Draft :=
  match draft.pending with
  | none => .ok draft
  | some (_, none) => .error .invalidValue
  | some (setting, some value) => { draft with pending := none }.assign setting value

def flag (draft : Draft) (switch : Switch) : Except UsageError Draft := do
  let draft ← draft.settle
  match switch with
  | .help => .error .displayHelp
  | .verbose =>
    if draft.verbose then .error .argumentConflict else .ok { draft with verbose := true }
  | .setting setting => .ok { draft with pending := some (setting, none) }

def flagWith (draft : Draft) (switch : Switch) (value : String) : Except UsageError Draft :=
  match switch with
  | .setting setting => do (← draft.settle).assign setting value
  | _ => .error .tooManyValues

/-- Take a row of short flags. -/
def shorts (command : Subcommand) (draft : Draft) : List Char → Except UsageError Draft
  | [] => .ok draft
  | c :: rest =>
    match command.short? c with
    | none => .error .unknownArgument
    | some switch => do shorts command (← draft.flag switch) rest

/-- Take a positional value, if the command has room for one. -/
def positional (command : Subcommand) (draft : Draft) (value : String) :
    Except UsageError Draft :=
  if draft.positionals.length < command.positionals then do
    let draft ← draft.settle
    .ok { draft with positionals := draft.positionals ++ [value] }
  else .error .unknownArgument

/-- Take a value: it belongs to an option that waits for one, or is positional. -/
def value (command : Subcommand) (draft : Draft) (value : String) : Except UsageError Draft :=
  match draft.pending with
  | some (setting, none) => .ok { draft with pending := some (setting, some value) }
  | _ => draft.positional command value

/-- Take arguments behind the separator. -/
def readValues (command : Subcommand) (draft : Draft) : List String → Except UsageError Draft
  | [] => .ok draft
  | argument :: rest => do readValues command (← draft.positional command argument) rest

def read (command : Subcommand) (draft : Draft) : List String → Except UsageError Draft
  | [] => .ok draft
  | argument :: rest =>
    match shape argument with
    | .separator => readValues command draft rest
    | .long name attached =>
      match command.long? name with
      | none => .error .unknownArgument
      | some switch =>
        match attached with
        | some text => do read command (← draft.flagWith switch (String.ofList text)) rest
        | none => do read command (← draft.flag switch) rest
    | .short flags => do read command (← shorts command draft flags) rest
    | .value => do read command (← draft.value command argument) rest

def finish (command : Subcommand) (draft : Draft) : Except UsageError Command := do
  let draft ← draft.settle
  let common : CommonArguments := ⟨draft.sourceRoot, draft.verbose⟩
  match command, draft.positionals with
  | .init, _ => .ok .init
  | .scan, _ => .ok (.scan (draft.format.getD .text) common)
  | .lookup, [] => .error .missingArgument
  | .lookup, model :: rest => .ok (.lookup model rest.head? common)

end Draft

/-- Whether `help` can explain the names that follow it: at most one, of a command or
`help` itself. -/
def helpTopic (topics : List String) : UsageError :=
  match topics with
  | [] => .displayHelp
  | [topic] =>
    if (Subcommand.ofName? topic).isSome ∨ topic = "help" then .displayHelp
    else .invalidSubcommand
  | _ => .invalidSubcommand

/-- The first short flag in front of a command decides. -/
def leadingShort : List Char → UsageError
  | 'h' :: _ => .displayHelp
  | 'V' :: _ => .displayVersion
  | _ => .unknownArgument

/-- The long flags in front of a command are those for help and the version. -/
def leadingLong (name : List Char) (value : Option (List Char)) : UsageError :=
  if name = "help".toList then if value.isSome then .tooManyValues else .displayHelp
  else if name = "version".toList then if value.isSome then .tooManyValues else .displayVersion
  else .unknownArgument

/-- Behind a leading separator no command can follow. -/
def afterSeparator : List String → Except UsageError (Option Command)
  | [] => .ok none
  | argument :: _ =>
    if (Subcommand.ofName? argument).isSome ∨ argument = "help" then .error .unknownArgument
    else .error .invalidSubcommand

/-- Read a command line, without the name of the program. -/
def parse : List String → Except UsageError (Option Command)
  | [] => .ok none
  | argument :: rest =>
    match Subcommand.ofName? argument with
    | some command => do
      let draft ← Draft.read command {} rest
      (draft.finish command).map some
    | none =>
      if argument = "help" then .error (helpTopic rest)
      else
        match shape argument with
        | .separator => afterSeparator rest
        | .long name value => .error (leadingLong name value)
        | .short flags => .error (leadingShort flags)
        | .value => .error .invalidSubcommand

end CommandLine
end AttributePins

import AttributePins.CommandLine
import Mathlib.Data.List.Nodup
import Mathlib.Data.List.Perm.Basic

/-! Command lines that express a request. An option is written with its value behind it or attached
to it, and options may come in any order; behind the separator stand values that no rule for flags
looks at. Reading keeps one fact about the draft: once what is pending has been examined, it holds
the options that were written so far, and no other. -/
namespace AttributePins.CommandLine

inductive Written where
  | format (value : OutputFormat)
  | sourceRoot (directory : String)
  /-- The flag for more output, by its long or its short name. -/
  | verbose (long : Bool)
deriving DecidableEq, Repr

def Written.words : Written → List String
  | .format value => ["--format", value.name]
  | .sourceRoot directory => ["--source-root=" ++ directory]
  | .verbose long => [if long then "--verbose" else "-v"]

def Written.switch : Written → Switch
  | .format _ => .setting .format
  | .sourceRoot _ => .setting .sourceRoot
  | .verbose _ => .verbose

/-- The options of a request. A format need not be given. -/
def optionsOf (format : Option OutputFormat) (common : CommonArguments) (long : Bool) :
    List Written :=
  format.toList.map .format ++ common.sourceRoot.toList.map .sourceRoot ++
    if common.verbose then [.verbose long] else []

/-- The command lines that express a request. -/
inductive Expresses : Option Command → List String → Prop where
  | nothing : Expresses none []
  | init : Expresses (some .init) ["init"]
  | scan {common : CommonArguments} {written : List Written} (format : Option OutputFormat)
      (long : Bool) (order : written.Perm (optionsOf format common long)) :
      Expresses (some (.scan (format.getD .text) common)) ("scan" :: written.flatMap Written.words)
  | lookup {common : CommonArguments} {written : List Written} {model : String}
      {column : Option String} (long : Bool) (order : written.Perm (optionsOf none common long)) :
      Expresses (some (.lookup model column common))
        ("lookup" :: (written.flatMap Written.words ++ "--" :: model :: column.toList))

/-- A request that gives no empty directory. -/
def Filled : Option Command → Prop
  | some (.scan _ common) => common.sourceRoot ≠ some ""
  | some (.lookup _ _ common) => common.sourceRoot ≠ some ""
  | _ => True

theorem shape_sourceRoot (directory : String) : shape ("--source-root=" ++ directory) =
    .long "source-root".toList (some directory.toList) := by
  rw [shape, String.toList_append]
  rfl

theorem shape_name (format : OutputFormat) : shape format.name = .value := by
  cases format <;> decide

theorem ofName?_name (format : OutputFormat) : OutputFormat.ofName? format.name = some format := by
  cases format <;> decide

namespace Draft

section Settled

variable {draft settled : Draft} {command : Subcommand}

theorem assign_kept {setting : Setting} {value : String}
    (assigned : draft.assign setting value = .ok settled) :
    settled.positionals = draft.positionals ∧ settled.pending = draft.pending := by
  cases setting <;> simp only [assign] at assigned <;> grind

theorem settle_kept (settles : draft.settle = .ok settled) :
    settled.positionals = draft.positionals ∧ settled.pending = none := by
  rw [settle] at settles
  split at settles
  · rename_i none
    obtain rfl := Except.ok.inj settles
    exact ⟨rfl, none⟩
  · contradiction
  · exact assign_kept settles

theorem settle_of_pending (nothing : draft.pending = none) : draft.settle = .ok draft := by
  rw [settle, nothing]

theorem flag_of_settle (settles : draft.settle = .ok settled) (switch : Switch) :
    draft.flag switch =
      match switch with
      | .help => .error .displayHelp
      | .verbose =>
        if settled.verbose then .error .argumentConflict else .ok { settled with verbose := true }
      | .setting setting => .ok { settled with pending := some (setting, none) } := by
  rw [flag, settles]
  rfl

theorem positional_of_settle (settles : draft.settle = .ok settled)
    (room : settled.positionals.length < command.positionals) (value : String) :
    draft.positional command value =
      .ok { settled with positionals := settled.positionals ++ [value] } := by
  rw [positional, ← (settle_kept settles).1, if_pos room, settles]
  rfl

/-- Behind the separator a value is a value, whatever it looks like. -/
theorem readValues_of_settle (settles : draft.settle = .ok settled) {values : List String}
    (room : settled.positionals.length + values.length ≤ command.positionals) :
    ∃ last, draft.readValues command values = .ok last ∧
      last.settle = .ok { settled with positionals := settled.positionals ++ values } := by
  induction values generalizing draft settled with
  | nil =>
    rw [List.append_nil]
    exact ⟨draft, rfl, settles⟩
  | cons value rest ih =>
    rw [List.length_cons] at room
    have vacant : settled.positionals.length < command.positionals := by omega
    have taken := positional_of_settle settles vacant value
    have settled' : Draft.settle { settled with positionals := settled.positionals ++ [value] } =
        .ok { settled with positionals := settled.positionals ++ [value] } :=
      settle_of_pending (settle_kept settles).2
    have room' : (settled.positionals ++ [value]).length + rest.length ≤ command.positionals := by
      rw [List.length_append, List.length_singleton]
      omega
    obtain ⟨last, reads, ends⟩ := ih settled' room'
    refine ⟨last, ?_, ?_⟩
    · rw [readValues, taken]
      exact reads
    · rw [ends, List.append_assoc, List.singleton_append]

end Settled

def take (draft : Draft) : Written → Draft
  | .format value => { draft with format := some value }
  | .sourceRoot directory => { draft with sourceRoot := some directory }
  | .verbose _ => { draft with verbose := true }

/-- Whether an option can still be taken. -/
def Lacks (draft : Draft) : Written → Prop
  | .format _ => draft.format = none
  | .sourceRoot directory => draft.sourceRoot = none ∧ directory ≠ ""
  | .verbose _ => draft.verbose = false

def Has (command : Subcommand) : Written → Prop
  | .format _ => command = .scan
  | _ => command ≠ .init

section Options

variable {draft settled : Draft} {command : Subcommand}

theorem read_format (settles : draft.settle = .ok settled) (value : OutputFormat)
    (unset : settled.format = none) (rest : List String) :
    ∃ next, read .scan draft ("--format" :: value.name :: rest) = read .scan next rest ∧
      next.settle = .ok { settled with format := some value } := by
  -- The value is examined later, when the next argument arrives.
  refine ⟨{ settled with pending := some (.format, some value.name) }, ?_, ?_⟩
  · have long : shape "--format" = .long "format".toList none := by decide
    have meaning : Subcommand.scan.long? "format".toList = some (.setting .format) := by decide
    simp only [read, long, meaning, flag_of_settle settles, shape_name]
    rfl
  · have nothing := (settle_kept settles).2
    simp only [settle, assign, unset, ofName?_name, Option.isSome_none, Bool.false_eq_true,
      if_false, nothing]

theorem read_sourceRoot (settles : draft.settle = .ok settled) (configurable : command ≠ .init)
    (unset : settled.sourceRoot = none) {directory : String} (filled : directory ≠ "")
    (rest : List String) :
    read command draft (("--source-root=" ++ directory) :: rest) =
      read command { settled with sourceRoot := some directory } rest := by
  have meaning : command.long? "source-root".toList = some (.setting .sourceRoot) := by
    cases command with
    | init => contradiction
    | scan | lookup => decide
  have given : draft.flagWith (.setting .sourceRoot) directory =
      .ok { settled with sourceRoot := some directory } := by
    rw [flagWith, settles]
    simp [bind, Except.bind, assign, unset, filled]
  simp only [read, shape_sourceRoot, meaning, String.ofList_toList, given]
  rfl

theorem read_verbose (settles : draft.settle = .ok settled) (configurable : command ≠ .init)
    (unset : settled.verbose = false) (long : Bool) (rest : List String) :
    read command draft ((if long then "--verbose" else "-v") :: rest) =
      read command { settled with verbose := true } rest := by
  have given : draft.flag .verbose = .ok { settled with verbose := true } := by
    simp [flag_of_settle settles, unset]
  cases long with
  | true =>
    have meaning : command.long? "verbose".toList = some .verbose := by
      cases command with
      | init => contradiction
      | scan | lookup => decide
    have spelled : shape "--verbose" = .long "verbose".toList none := by decide
    simp only [if_true, read, spelled, meaning, given]
    rfl
  | false =>
    have meaning : command.short? 'v' = some .verbose := by
      cases command with
      | init => contradiction
      | scan | lookup => decide
    have spelled : shape "-v" = .short ['v'] := by decide
    simp only [Bool.false_eq_true, if_false, read, spelled, shorts, meaning, given]
    rfl

/-- The words of an option are read as a whole: with what was pending examined, the draft has the
option besides what it had. -/
theorem read_words (settles : draft.settle = .ok settled) {option : Written}
    (has : Has command option) (lacks : settled.Lacks option) (rest : List String) :
    ∃ next, read command draft (option.words ++ rest) = read command next rest ∧
      next.settle = .ok (settled.take option) := by
  cases option with
  | format value =>
    obtain rfl : command = .scan := has
    exact read_format settles value lacks rest
  | sourceRoot directory =>
    exact ⟨_, read_sourceRoot settles has lacks.1 lacks.2 rest,
      settle_of_pending (settle_kept settles).2⟩
  | verbose long =>
    exact ⟨_, read_verbose settles has lacks long rest, settle_of_pending (settle_kept settles).2⟩

theorem lacks_take {option other : Written} (lacks : settled.Lacks other)
    (different : option.switch ≠ other.switch) : (settled.take option).Lacks other := by
  cases option <;> cases other <;> simp_all [take, Lacks, Written.switch]

theorem take_comm {option other : Written} (different : option.switch ≠ other.switch)
    (draft : Draft) : (draft.take option).take other = (draft.take other).take option := by
  cases option <;> cases other <;> simp_all [take, Written.switch]

/-- Options of which none is given twice are read one after the other. -/
theorem read_options {written : List Written} (settles : draft.settle = .ok settled)
    (has : ∀ option ∈ written, Has command option)
    (lacks : ∀ option ∈ written, settled.Lacks option)
    (once : (written.map Written.switch).Nodup) (rest : List String) :
    ∃ next, read command draft (written.flatMap Written.words ++ rest) = read command next rest ∧
      next.settle = .ok (written.foldl take settled) := by
  induction written generalizing draft settled with
  | nil => exact ⟨draft, rfl, settles⟩
  | cons option others ih =>
    obtain ⟨apart, once⟩ := List.nodup_cons.mp once
    obtain ⟨hasOption, hasOthers⟩ := List.forall_mem_cons.mp has
    obtain ⟨lacksOption, lacksOthers⟩ := List.forall_mem_cons.mp lacks
    have lacking (other : Written) (member : other ∈ others) : (settled.take option).Lacks other :=
      lacks_take (lacksOthers other member) fun same =>
        apart (same ▸ List.mem_map_of_mem member)
    obtain ⟨between, first, taken⟩ := read_words settles hasOption lacksOption
      (others.flatMap Written.words ++ rest)
    obtain ⟨next, later, settled'⟩ := ih taken hasOthers lacking once
    refine ⟨next, ?_, settled'⟩
    rw [List.flatMap_cons, List.append_assoc, first, later]

/-- The order of the options does not matter. -/
theorem foldl_take_perm {written options : List Written} (order : written.Perm options)
    (once : (written.map Written.switch).Nodup) (draft : Draft) :
    written.foldl take draft = options.foldl take draft := by
  refine order.foldl_eq' (fun option member other member' draft => ?_) draft
  by_cases same : option.switch = other.switch
  · rw [List.inj_on_of_nodup_map once member member' same]
  · exact take_comm same draft

end Options

end Draft

section Requests

variable {command : Subcommand} {format : Option OutputFormat} {common : CommonArguments}
  {long : Bool} {written : List Written}

theorem switch_optionsOf_nodup (format : Option OutputFormat) (common : CommonArguments)
    (long : Bool) : ((optionsOf format common long).map Written.switch).Nodup := by
  obtain ⟨sourceRoot, verbose⟩ := common
  cases format <;> cases sourceRoot <;> cases verbose <;>
    simp [optionsOf, Written.switch]

theorem foldl_take_optionsOf (format : Option OutputFormat) (common : CommonArguments)
    (long : Bool) : (optionsOf format common long).foldl Draft.take {} =
      { format := format, sourceRoot := common.sourceRoot, verbose := common.verbose } := by
  obtain ⟨sourceRoot, verbose⟩ := common
  cases format <;> cases sourceRoot <;> cases verbose <;> rfl

theorem mem_optionsOf {option : Written} (member : option ∈ optionsOf format common long) :
    (∃ value, format = some value ∧ option = .format value) ∨
      (∃ directory, common.sourceRoot = some directory ∧ option = .sourceRoot directory) ∨
      option = .verbose long := by
  simp only [optionsOf, List.mem_append, List.mem_map, Option.mem_toList] at member
  rcases member with (⟨value, given, rfl⟩ | ⟨directory, given, rfl⟩) | verbose
  · exact .inl ⟨value, given, rfl⟩
  · exact .inr (.inl ⟨directory, given, rfl⟩)
  · split at verbose
    · exact .inr (.inr (List.mem_singleton.mp verbose))
    · contradiction

/-- The options of a request in any order, read from the start. -/
theorem read_request (order : written.Perm (optionsOf format common long))
    (filled : common.sourceRoot ≠ some "") (configurable : command ≠ .init)
    (formatted : format = none ∨ command = .scan) (rest : List String) :
    ∃ next, Draft.read command {} (written.flatMap Written.words ++ rest) =
        Draft.read command next rest ∧
      next.settle = .ok
        { format := format, sourceRoot := common.sourceRoot, verbose := common.verbose } := by
  have once : (written.map Written.switch).Nodup :=
    (order.map Written.switch).nodup_iff.mpr (switch_optionsOf_nodup format common long)
  have proper (option : Written) (member : option ∈ written) :
      Draft.Has command option ∧ Draft.Lacks {} option := by
    obtain ⟨value, given, rfl⟩ | ⟨directory, given, rfl⟩ | rfl :=
      mem_optionsOf (order.mem_iff.mp member)
    · exact ⟨formatted.resolve_left (by simp [given]), rfl⟩
    · exact ⟨configurable, rfl, fun empty => filled (by rw [given, empty])⟩
    · exact ⟨configurable, rfl⟩
  have start : ({} : Draft).settle = .ok {} := rfl
  obtain ⟨next, reads, settles⟩ := Draft.read_options start
    (fun option member => (proper option member).1) (fun option member => (proper option member).2)
    once rest
  rw [Draft.foldl_take_perm order once, foldl_take_optionsOf] at settles
  exact ⟨next, reads, settles⟩

theorem parse_of_read {name : String} {arguments : List String} {draft : Draft} {request : Command}
    (known : Subcommand.ofName? name = some command)
    (reads : Draft.read command {} arguments = .ok draft)
    (finishes : draft.finish command = .ok request) :
    parse (name :: arguments) = .ok (some request) := by
  simp only [parse, known, reads, bind, Except.bind, finishes]
  rfl

theorem parse_scan (order : written.Perm (optionsOf format common long))
    (filled : common.sourceRoot ≠ some "") :
    parse ("scan" :: written.flatMap Written.words) =
      .ok (some (.scan (format.getD .text) common)) := by
  have configurable : Subcommand.scan ≠ .init := by decide
  obtain ⟨next, reads, settles⟩ := read_request order filled configurable (.inr rfl) []
  rw [List.append_nil] at reads
  refine parse_of_read rfl reads ?_
  rw [Draft.finish, settles]
  rfl

theorem parse_lookup (order : written.Perm (optionsOf none common long))
    (filled : common.sourceRoot ≠ some "") (model : String) (column : Option String) :
    parse ("lookup" :: (written.flatMap Written.words ++ "--" :: model :: column.toList)) =
      .ok (some (.lookup model column common)) := by
  have configurable : Subcommand.lookup ≠ .init := by decide
  obtain ⟨next, reads, settles⟩ := read_request order filled configurable (.inl rfl)
    ("--" :: model :: column.toList)
  have room : 0 + (model :: column.toList).length ≤ Subcommand.lookup.positionals := by
    cases column <;> exact Nat.le_of_ble_eq_true rfl
  obtain ⟨last, values, ends⟩ := Draft.readValues_of_settle settles room
  have separator : shape "--" = .separator := by decide
  have reads' : Draft.read .lookup next ("--" :: model :: column.toList) = .ok last := by
    simp only [Draft.read, separator, values]
  refine parse_of_read rfl (reads.trans reads') ?_
  rw [Draft.finish, ends]
  cases column <;> rfl

end Requests

/-- There are command lines for every request that gives no empty directory, and each is read as
that request, in whatever order its options come and whatever its values look like. -/
theorem parse_of_expresses (request : Option Command) (filled : Filled request) :
    (∃ line, Expresses request line) ∧
      ∀ line, Expresses request line → parse line = .ok request := by
  constructor
  · match request with
    | none => exact ⟨_, .nothing⟩
    | some .init => exact ⟨_, .init⟩
    | some (.scan format common) => exact ⟨_, .scan (some format) true (.refl _)⟩
    | some (.lookup model column common) => exact ⟨_, .lookup true (.refl _)⟩
  · intro line expresses
    cases expresses with
    | nothing | init => rfl
    | scan format long order => exact parse_scan order filled
    | lookup long order => exact parse_lookup order filled _ _

/-- Values that look like the separator and a flag, a directory that looks like an option. -/
theorem parse_of_expresses_lookup :
    parse ["lookup", "-v", "--source-root=--format=json", "--", "--", "-v"] =
      .ok (some (.lookup "--" (some "-v") ⟨some "--format=json", true⟩)) := by
  have order : [Written.verbose false, .sourceRoot "--format=json"].Perm
      (optionsOf none ⟨some "--format=json", true⟩ false) := .swap _ _ []
  have filled : Filled (some (.lookup "--" (some "-v") ⟨some "--format=json", true⟩)) := by
    rw [Filled]
    decide
  exact (parse_of_expresses _ filled).2 _ (.lookup false order)

end AttributePins.CommandLine

import SupplyRisk.Command
import SupplyRisk.CommandLine.Scan

/-!
# The command line of the program

Some options stand in front of the command or behind it; where both are given, the one behind counts.  Every
command has options and operands of its own.
-/

namespace SupplyRisk.CommandLine

/-- The options that every command takes. -/
structure SharedOptions where
  config : Option FilePath := none
  data : Option FilePath := none
  verbosity : UInt8 := 0
  quiet : Bool := false
deriving DecidableEq

namespace SharedOptions

/-- The options behind the command, completed by those in front of it. -/
def orElse (behind front : SharedOptions) : SharedOptions where
  config := behind.config.or front.config
  data := behind.data.or front.data
  verbosity := if behind.verbosity = 0 then front.verbosity else behind.verbosity
  quiet := behind.quiet || front.quiet

end SharedOptions

/-- A whole command line. -/
structure Invocation where
  config : Option FilePath
  data : FilePath
  /-- How many times more messages were asked for. -/
  verbosity : UInt8
  /-- Whether progress is not shown. -/
  quiet : Bool
  command : Command
deriving DecidableEq

/-- The data file that is used when none is given. -/
def standardData : FilePath := ⟨"chainrisk-data.json"⟩

/-- The path of a file, which is not empty. -/
def ValueReader.path {σ : Type} (set : FilePath → σ → σ) : ValueReader σ :=
  ValueReader.choice (fun text => if text = "" then none else some ⟨text⟩) set

def helpOption {σ : Type} : OptionSpec σ := ⟨"help", some 'h', .ask .help⟩

def sharedOptions : List (OptionSpec SharedOptions) :=
  [⟨"config", none, .value (.path fun p o => { o with config := some p })⟩,
    ⟨"data", none, .value (.path fun p o => { o with data := some p })⟩,
    ⟨"verbose", some 'v', .count fun o =>
      { o with verbosity := if o.verbosity = 255 then 255 else o.verbosity + 1 }⟩,
    ⟨"quiet", some 'q', .flag fun o => { o with quiet := true }⟩]

/-! ## Commands -/

/-- What follows the name of a command. -/
abbrev Tail := List String → Except UsageError (SharedOptions × Command)

/-- Reads the shared options together with those of a command, and finishes the command. -/
def tail {σ : Type} (own : Grammar σ) (values : σ) (finish : σ → Except UsageError Command) : Tail :=
  fun args => do
    let grammar : Grammar (SharedOptions × σ) := {
      options := helpOption :: sharedOptions.map (·.lift fun f v => (f v.1, v.2))
        ++ own.options.map (·.lift fun f v => (v.1, f v.2))
      operands := own.operands.map fun slot =>
        ⟨slot.name, fun text => (slot.read text).map fun f v => (v.1, f v.2)⟩ }
    let (shared, own) ← grammar.read ({}, values) args
    return (shared, ← finish own)

/-- A value that has to be there. -/
def required {α : Type} (value : Option α) : Except UsageError α :=
  match value with
  | some a => .ok a
  | none => .error .missingArgument

def assessOptions : List (OptionSpec AssessRequest) :=
  [⟨"suppliers-only", none, .flag fun r =>
      { r with options := { r.options with suppliersOnly := true } }⟩,
    ⟨"parts-only", none, .flag fun r => { r with options := { r.options with partsOnly := true } }⟩,
    ⟨"generate-recommendations", none, .flag fun r =>
      { r with options := { r.options with generateRecommendations := true } }⟩,
    ⟨"dispatch-alerts", none, .flag fun r =>
      { r with options := { r.options with dispatchAlerts := true } }⟩,
    ⟨"jobs", some 'j', .value (.number fun n r => { r with jobs := some n })⟩,
    ⟨"no-parallel", none, .flag fun r => { r with noParallel := true }⟩,
    ⟨"timeout", none, .value (.number fun n r => { r with timeoutSeconds := some n })⟩,
    ⟨"format", some 'f', .value (.choice SummaryFormat.ofText? fun f r => { r with format := f })⟩]

/-- A run over suppliers only excludes one over parts only. -/
def assess : Tail :=
  tail { options := assessOptions } {} fun r =>
    if r.options.suppliersOnly && r.options.partsOnly then .error .conflict
    else .ok (.onData (.assess r))

def exportRecords : Tail :=
  tail
    { options :=
        [⟨"format", some 'f', .value (.choice ExportFormat.ofText? fun f v => (f, v.2))⟩,
          ⟨"output", some 'o', .value (.path fun p v => (v.1, some p))⟩] }
    (ExportFormat.table, (none : Option FilePath))
    fun v => .ok (.onData (.exportRecords v.1 v.2))

def importThresholds : Tail :=
  tail
    { options := [⟨"format", some 'f', .value (.choice ThresholdFormat.ofText? fun f v => (v.1, some f))⟩]
      operands := [⟨"path", .path fun p v => (some p, v.2)⟩] }
    ((none, none) : Option FilePath × Option ThresholdFormat)
    fun v => do return .onData (.importThresholds (← required v.1) v.2)

structure AlertsOptions where
  all : Bool := false
  resolve : Option AlertId := none
  resolver : Option String := none

/-- A resolver is only named for an alert to resolve. -/
def alerts : Tail :=
  tail
    { options :=
        [⟨"all", none, .flag fun (o : AlertsOptions) => { o with all := true }⟩,
          ⟨"resolve", none, .value (.number fun n o => { o with resolve := some ⟨n⟩ })⟩,
          ⟨"resolver", none, .value (.text fun name o => { o with resolver := some name })⟩] }
    {}
    fun o =>
      match o.resolve, o.resolver with
      | some alert, resolver => .ok (.onData (.alerts o.all (some ⟨alert, resolver⟩)))
      | none, none => .ok (.onData (.alerts o.all none))
      | none, some _ => .error .missingArgument

/-- A reviewer's note on a numbered record. -/
def review (command : UInt64 → String → DataCommand) : Tail :=
  tail
    { options := [⟨"notes", none, .value (.text fun notes v => (v.1, notes))⟩]
      operands := [⟨"id", .number fun n v => (some n, v.2)⟩] }
    ((none, "") : Option UInt64 × String)
    fun v => do return .onData (command (← required v.1) v.2)

def createConfig : Tail :=
  tail { options := [⟨"force", some 'f', .flag fun _ => true⟩] } false
    fun force => .ok (.createConfig force)

/-- The commands by name. -/
def commands : List (String × Tail) :=
  [("assess", assess), ("export", exportRecords), ("import", importThresholds), ("alerts", alerts),
    ("resolve-event", review fun id notes => .resolveEvent ⟨id⟩ notes),
    ("review-recommendation", review fun id notes => .reviewRecommendation ⟨id⟩ notes),
    ("init", createConfig)]

/-- The grammar in front of the command. -/
def front : Grammar SharedOptions where
  options := helpOption :: ⟨"version", some 'V', .ask .version⟩ :: sharedOptions
  commands := "help" :: commands.map (·.1)

/-- What asking for help on a command comes to. -/
def helpOn (names : List String) : UsageError :=
  match names with
  | [] => .help
  | [name] => if front.commands.contains name then .help else .unknownCommand
  | _ => .unknownCommand

/-- Reads what follows the name of a command. -/
def readCommand (name : String) : Tail :=
  match commands.lookup name with
  | some tail => tail
  | none => fun names => .error (helpOn names)

/-- Reads a command line; the options in `fallback` count where the command line gives none. -/
def readWith (fallback : SharedOptions) (args : List String) : Except UsageError Invocation := do
  match ← front.scan (front.start {}) args with
  | (s, []) =>
      let s ← s.settle
      .error (if s.given.isEmpty then .empty else .missingCommand)
  | (s, name :: args) =>
      let (behind, command) ← readCommand name args
      let options := (behind.orElse (← s.settle).values).orElse fallback
      return {
        config := options.config
        data := options.data.getD standardData
        verbosity := options.verbosity
        quiet := options.quiet
        command }

def read (args : List String) : Except UsageError Invocation := readWith {} args

/-! ## Messages -/

/-- How much the program logs. -/
inductive LogLevel where
  | warn
  | info
  | debug
  | trace
deriving DecidableEq

namespace LogLevel

def ofVerbosity (verbosity : UInt8) : LogLevel :=
  if verbosity = 0 then warn
  else if verbosity = 1 then info
  else if verbosity = 2 then debug
  else trace

def text : LogLevel → String
  | warn => "warn"
  | info => "info"
  | debug => "debug"
  | trace => "trace"

end LogLevel

end SupplyRisk.CommandLine

import SupplyRisk.Command.Change
import SupplyRisk.Config.Discovery
import SupplyRisk.Config.Template
import SupplyRisk.Store.Snapshot

/-!
# Running commands

A command on data loads the configuration and the data file, works on the store and, if it changes the store,
writes the data file anew: first beside it and then over it, so that the file is always whole.  A command that
gives up writes nothing to the data file.
-/

namespace SupplyRisk

/-- Where and when a command runs. -/
structure Surroundings where
  now : Instant
  /-- The directory from which the search for a configuration starts. -/
  directory : FilePath
  /-- The configuration file of the user. -/
  userConfig : Option FilePath

/-- Steps of a command that may give up. -/
abbrev Commanding (m : Type → Type) := ExceptT CommandError m

namespace Commanding

variable {m : Type → Type} {α : Type} [Monad m]

/-- A step whose faults give up the command. -/
def attempt {ε : Type} (wrap : ε → CommandError) (step : m (Except ε α)) : Commanding m α :=
  ExceptT.mk (do return (← step).mapError wrap)

/-- A result that is known without any step. -/
def ofExcept (result : Except CommandError α) : Commanding m α := ExceptT.mk (pure result)

variable [FileAccess m]

/-- The configuration in the given file or else the nearest usable one or else the standard one. -/
def loadConfig (around : Surroundings) (given : Option FilePath) : Commanding m Config :=
  match given with
  | some path => attempt (.loadingConfig path) (Config.load path)
  | none => do
      let found ← ExceptT.lift (Config.discover around.directory around.userConfig)
      return found.getD {}

/-- The store in the contents of a data file.  A file that cannot be opened is a failed listing; one that opens
but does not hold text is malformed. -/
def storeOf (path : FilePath) : Except FileFault String → Except RiskError Store
  | .ok text =>
      match Store.ofDataText? text with
      | some s => .ok s
      | none => .error (.exchange .json)
  | .error .isDirectory | .error .notText => .error (.exchange .json)
  | .error fault => .error (.enumerating ("data file " ++ path.text) (.exchange (.system fault.message)))

def loadData (path : FilePath) : Commanding m Store :=
  attempt (.loadingData path) (do return storeOf path (← FileAccess.read path))

/-- Writes the data file. -/
def saveData (path : FilePath) (s : Store) : Commanding m Unit := do
  let draft := path.withExtension "json.tmp"
  attempt (.savingData path) (FileAccess.write draft s.dataText)
  attempt (.savingData path) (FileAccess.rename draft path)

/-- Makes the directories of a path unless something is there. -/
def ensureDirectory (path : FilePath) : Commanding m Unit := do
  unless ← ExceptT.lift (FileAccess.exists path) do
    attempt .files (FileAccess.createDirectories path)

/-- Makes the directory that a path is in. -/
def ensureParent (path : FilePath) : Commanding m Unit :=
  match path.parent? with
  | none | some ⟨""⟩ => return ()
  | some parent => ensureDirectory parent

/-- The rows in the contents of a file of thresholds. -/
def rowsOf (format : ThresholdFormat) :
    Except FileFault String → Except ExchangeFault (List ThresholdRecord)
  | .ok text => ThresholdRecord.parse format text
  | .error .isDirectory | .error .notText => .error format.fault
  | .error fault => .error (.system fault.message)

def readThresholds (path : FilePath) (format : Option ThresholdFormat) :
    Commanding m (List ThresholdRecord) :=
  attempt (.readingThresholds path)
    (do return rowsOf (format.getD (.ofPath path)) (← FileAccess.read path))

/-! ## Commands -/

/-- Writes a configuration file with the defaults. -/
def createConfig (force : Bool) : Commanding m CommandReport := do
  let path := FilePath.join ⟨"."⟩ ⟨Config.fileName⟩
  if (← ExceptT.lift (FileAccess.exists path)) && !force then throw .configExists
  ensureParent path
  attempt .files (FileAccess.write path Config.template)
  return .createdConfig Config.fileName

/-- Shows the records or writes them to a file. -/
def deliver (format : ExportFormat) (output : Option FilePath) (records : List ExportRecord) :
    Commanding m CommandReport :=
  match output with
  | none => return .exported format records
  | some path => do
      ensureParent path
      attempt (.creating path) (FileAccess.write path (ExportRecord.render format records))
      return .exportedTo path

/-- Changes the store and saves it. -/
def change (around : Surroundings) (workforce : Workforce) (config : Config) (data : FilePath) (s : Store) (c : Change) :
    Commanding m CommandReport := do
  let (report, s) ← ofExcept (c.apply config around.now workforce s)
  saveData data s
  return report

/-- A command on loaded data. -/
def onData (around : Surroundings) (workforce : Workforce) (config : Config) (data : FilePath) (s : Store) :
    DataCommand → Commanding m CommandReport
  | .assess request => change around workforce config data s (.assess request)
  | .exportRecords format output => do
      let (records, _) ← ofExcept (s.play ExportRecord.collect)
      deliver format output records
  | .importThresholds path format => do
      let rows ← readThresholds path format
      change around workforce config data s (.importThresholds rows)
  | .alerts _ (some resolution) => change around workforce config data s (.resolveAlert resolution)
  | .alerts all none => do
      let (alerts, _) ← ofExcept (s.play (Script.ask .alerts))
      return .listed (alerts.filter (fun a => all || a.isOpen))
  | .resolveEvent id notes => change around workforce config data s (.resolveEvent id notes)
  | .reviewRecommendation id notes => change around workforce config data s (.reviewRecommendation id notes)

end Commanding

/-- Carries out a command with the given configuration file, if any, and data file. -/
def Command.run {m : Type → Type} [Monad m] [FileAccess m] (around : Surroundings)
    (config : Option FilePath) (data : FilePath) (workforce : Workforce := {}) : Command → Commanding m CommandReport
  | .createConfig force => Commanding.createConfig force
  | .onData command => do
      let config ← Commanding.loadConfig around config
      let s ← Commanding.loadData data
      Commanding.onData around workforce config data s command

end SupplyRisk

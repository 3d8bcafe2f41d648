import SupplyRisk.Engine.Run
import SupplyRisk.Exchange.Export
import SupplyRisk.Exchange.Threshold
import SupplyRisk.Files.Access

/-!
# Commands

What the program can be told to do, what it reports when it is done and why it gives up.  A report is text only
in the end; a command that gives up tells its causes, the outermost first.
-/

namespace SupplyRisk

/-- How the summary of a run is shown. -/
inductive SummaryFormat where
  | terminal
  | json
deriving DecidableEq

namespace SummaryFormat

def text : SummaryFormat → String
  | terminal => "terminal"
  | json => "json"

def ofText? : String → Option SummaryFormat
  | "terminal" => some terminal
  | "json" => some json
  | _ => none

end SummaryFormat

/-- A run that is asked for, with what it changes in the configuration. -/
structure AssessRequest where
  options : RunOptions := {}
  /-- The number of workers; zero leaves it to the configuration. -/
  jobs : Option UInt64 := none
  noParallel : Bool := false
  timeoutSeconds : Option UInt64 := none
  format : SummaryFormat := .terminal
deriving DecidableEq

/-- An alert to resolve, and who resolved it. -/
structure Resolution where
  alert : AlertId
  resolver : Option String
deriving DecidableEq

/-- A command on the data file. -/
inductive DataCommand where
  | assess (request : AssessRequest)
  | exportRecords (format : ExportFormat) (output : Option FilePath)
  | importThresholds (path : FilePath) (format : Option ThresholdFormat)
  /-- Resolves an alert, or else lists the open ones or all. -/
  | alerts (all : Bool) (resolution : Option Resolution)
  | resolveEvent (id : EventId) (notes : String)
  | reviewRecommendation (id : RecommendationId) (notes : String)
deriving DecidableEq

inductive Command where
  /-- Writes a new configuration file, over an old one only by force. -/
  | createConfig (force : Bool)
  | onData (command : DataCommand)
deriving DecidableEq

namespace AssessRequest

/-- The configuration of the run. -/
def configure (r : AssessRequest) (c : Config) : Config :=
  { c with
    parallel := {
      enabled := c.parallel.enabled && !r.noParallel
      maxConcurrency := (r.jobs.filter (0 < ·)).or c.parallel.maxConcurrency }
    run := { timeoutSeconds := r.timeoutSeconds.or c.run.timeoutSeconds } }

end AssessRequest

/-! ## Reports -/

inductive CommandReport where
  | assessed (summary : RunSummary) (format : SummaryFormat)
  | exported (format : ExportFormat) (records : List ExportRecord)
  | exportedTo (path : FilePath)
  | imported (rows : Nat) (report : ImportReport)
  | listed (alerts : List Alert)
  | resolvedAlert (alert : Alert)
  | resolvedEvent (event : RiskEvent)
  | reviewed (recommendation : Recommendation)
  | createdConfig (name : String)

namespace CommandReport

/-- A row that was not applied. -/
def rejectedLine (f : Failure) : String :=
  "  rejected " ++ f.entity.text ++ ": " ++ f.error ++ "\n"

/-- What a command prints. -/
def text : CommandReport → String
  | assessed summary .terminal => summary.text
  | assessed summary .json => (summary.toJson (some summary.elapsedMs)).pretty ++ "\n"
  | exported format records => ExportRecord.render format records
  | exportedTo _ => ""
  | imported rows report =>
      "Applied " ++ natString report.applied ++ " of " ++ natString rows ++ " threshold records\n"
        ++ String.join (report.failures.map rejectedLine)
  | listed [] => "No open alerts\n"
  | listed alerts => alertsTable alerts ++ "\n"
  | resolvedAlert a => "Resolved " ++ a.id.text ++ " for " ++ a.entity.text ++ "\n"
  | resolvedEvent e =>
      match e.resolutionDate with
      | some date => "Resolved " ++ e.id.text ++ " (" ++ e.title ++ ") on " ++ date.text ++ "\n"
      | none => ""
  | reviewed r =>
      "Reviewed " ++ r.id.text ++ ": " ++ r.suggestedSupplier.text ++ " as alternative for "
        ++ r.part.text ++ "\n"
  | createdConfig name => "Created " ++ name ++ " configuration file\n"

/-- The report of a command that took some time. -/
def timed (elapsedMs : Nat) : CommandReport → CommandReport
  | assessed summary format => assessed { summary with elapsedMs } format
  | other => other

end CommandReport

/-! ## Giving up -/

inductive CommandError where
  /-- There is a configuration file already. -/
  | configExists
  /-- A file or directory cannot be made. -/
  | files (fault : FileFault)
  | loadingConfig (path : FilePath) (cause : RiskError)
  | loadingData (path : FilePath) (cause : RiskError)
  | savingData (path : FilePath) (fault : FileFault)
  | creating (path : FilePath) (fault : FileFault)
  | readingThresholds (path : FilePath) (cause : ExchangeFault)
  | invalidConfig (cause : RiskError)
  | operation (cause : RiskError)
  /-- A value would leave its range. -/
  | calendar
deriving DecidableEq

namespace CommandError

def ofStop : Stop → CommandError
  | .failure e => .operation e
  | .calendar => .calendar

/-- What went wrong and its causes, the outermost first. -/
def causes : CommandError → List String
  | configExists => ["Configuration file already exists. Use --force to overwrite."]
  | files fault => [fault.message]
  | loadingConfig path cause => ["Failed to load config from " ++ path.text, cause.message]
  | loadingData path cause => ["Failed to load data file " ++ path.text, cause.message]
  | savingData path fault => ["Failed to write data file " ++ path.text, fault.message]
  | creating path fault => ["Failed to create " ++ path.text, fault.message]
  | readingThresholds path cause =>
      ["Failed to read threshold records from " ++ path.text, cause.message]
  | invalidConfig cause => ["Invalid configuration", cause.message]
  | operation cause => [cause.message]
  | calendar => ["Value out of range"]

end CommandError

end SupplyRisk

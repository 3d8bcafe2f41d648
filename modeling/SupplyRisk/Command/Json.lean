import SupplyRisk.CommandLine.Invocation

/-!
# Command lines in JSON

A command line as it was understood, for tools that want to know what a list of arguments means.
-/

namespace SupplyRisk

open CommandLine (Invocation)

def FilePath.toJson (p : FilePath) : Json := .string p.text

namespace DataCommand

/-- The name of a command and its options. -/
def parts : DataCommand → String × List (String × Json)
  | assess r =>
      ("assess", [("suppliers_only", .bool r.options.suppliersOnly),
        ("parts_only", .bool r.options.partsOnly),
        ("generate_recommendations", .bool r.options.generateRecommendations),
        ("dispatch_alerts", .bool r.options.dispatchAlerts), ("jobs", .ofOption idJson r.jobs),
        ("no_parallel", .bool r.noParallel),
        ("timeout_seconds", .ofOption idJson r.timeoutSeconds), ("format", .string r.format.text)])
  | exportRecords format output =>
      ("export", [("format", .string format.text), ("output", .ofOption FilePath.toJson output)])
  | importThresholds path format =>
      ("import", [("path", path.toJson), ("format", .ofOption (fun f => .string f.text) format)])
  | alerts all resolution =>
      ("alerts", [("all", .bool all),
        ("resolve", .ofOption (fun r : Resolution => idJson r.alert.value) resolution),
        ("resolver", .ofOption .string (resolution.bind (·.resolver)))])
  | resolveEvent id notes => ("resolve-event", [("id", idJson id.value), ("notes", .string notes)])
  | reviewRecommendation id notes =>
      ("review-recommendation", [("id", idJson id.value), ("notes", .string notes)])

end DataCommand

/-- The name of a command and its options. -/
def Command.parts : Command → String × List (String × Json)
  | createConfig force => ("init", [("force", .bool force)])
  | onData command => command.parts

def Command.toJson (c : Command) : Json := .object (("name", .string c.parts.1) :: c.parts.2)

def CommandLine.Invocation.toJson (i : Invocation) : Json :=
  .object [("config", .ofOption FilePath.toJson i.config), ("data", i.data.toJson),
    ("verbosity", .nat i.verbosity.toNat), ("quiet", .bool i.quiet), ("command", i.command.toJson)]

end SupplyRisk

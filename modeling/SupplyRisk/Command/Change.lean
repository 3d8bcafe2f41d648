import SupplyRisk.Command

/-!
# Changes of the store

Each command that changes the data is one operation on the loaded store.  It succeeds with a changed store and a
report, or fails, in which case nothing is to be saved.
-/

namespace SupplyRisk

/-- A change of the store, with everything that it needs. -/
inductive Change where
  | assess (request : AssessRequest)
  | importThresholds (rows : List ThresholdRecord)
  | resolveAlert (resolution : Resolution)
  | resolveEvent (id : EventId) (notes : String)
  | reviewRecommendation (id : RecommendationId) (notes : String)

/-- Plays a script against a store without faults. -/
def Store.play {α : Type} (s : Store) (script : Script α) : Except CommandError (α × Store) :=
  match script.run (.plain s) with
  | (.ok a, backend) => .ok (a, backend.store)
  | (.error cause, _) => .error (.ofStop cause)

/-- By whom the runs of commands are done, and the clock that they look at. -/
structure Workforce where
  clock : Clock := .still
  crew : Crew := .caller

namespace Change

/-- A run over a store; alerts go to a sink that accepts them all. -/
def runOver (e : Engine) (workforce : Workforce) (options : RunOptions) (s : Store) :
    Except CommandError (RunSummary × Store) :=
  match e.runTimed workforce.clock workforce.crew Sink.accepting options { backend := .plain s } with
  | .ok summary world => .ok (summary, world.backend.store)
  | .error cause _ => .error (.ofStop cause)

/-- An engine for a command. -/
def engine (c : Config) (now : Instant) : Except CommandError Engine :=
  (Engine.ofConfig c now).mapError .invalidConfig

/-- What a change reports and makes of a store. -/
def apply (c : Config) (now : Instant) (workforce : Workforce) :
    Change → Store → Except CommandError (CommandReport × Store)
  | assess request, s => do
      let (summary, s) ← runOver (← engine (request.configure c) now) workforce request.options s
      return (.assessed summary request.format, s)
  | importThresholds rows, s => do
      let (report, s) ← s.play (applyThresholds {} rows)
      return (.imported rows.length report, s)
  | resolveAlert resolution, s => do
      let (alert, s) ← s.play ((← engine c now).resolveAlert resolution.alert resolution.resolver)
      return (.resolvedAlert alert, s)
  | resolveEvent id notes, s => do
      let (event, s) ← s.play ((← engine c now).resolveEvent id notes)
      return (.resolvedEvent event, s)
  | reviewRecommendation id notes, s => do
      let (recommendation, s) ← s.play ((← engine c now).reviewRecommendation id notes)
      return (.reviewed recommendation, s)

end Change

end SupplyRisk

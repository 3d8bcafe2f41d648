import SupplyRisk.Engine.World

/-!
# Runs

A run assesses active suppliers, then parts, then looks for alternatives and sends alerts out, as far as its
options ask for.  An entity that fails is recorded and the run goes on; only a failed listing ends it.  The
targets of a pass are visited by the caller, one after the other, or by the threads of a pool, in turns (`Crew`).
The time of a run may be over before a visit, and in the middle of one before its work is repeated: a `Clock` says
what every look at it shows.  The `ChangeListener` reassesses changed entities.
-/

namespace SupplyRisk

structure RunOptions where
  suppliersOnly : Bool := false
  partsOnly : Bool := false
  generateRecommendations : Bool := false
  dispatchAlerts : Bool := false
deriving DecidableEq

/-- Options by name; those that are missing are off. -/
def RunOptions.read? (j : Json) : Option RunOptions := do
  let f ← Document.record? ["suppliers_only", "parts_only", "generate_recommendations",
    "dispatch_alerts"] j
  let flag := fun name => f.withDefault name Document.flag? false
  some {
    suppliersOnly := ← flag "suppliers_only"
    partsOnly := ← flag "parts_only"
    generateRecommendations := ← flag "generate_recommendations"
    dispatchAlerts := ← flag "dispatch_alerts" }

/-- One pass over the entities of a run. -/
inductive Pass where
  | suppliers
  | parts
  | recommendations
deriving DecidableEq

namespace Pass

def phase : Pass → Phase
  | suppliers => .supplierAssessment
  | parts => .partAssessment
  | recommendations => .recommendationGeneration

def operation : Pass → Operation
  | suppliers => .supplierAssessment
  | parts => .partAssessment
  | recommendations => .recommendation

end Pass

/-- The operation of assessing an entity. -/
def EntityRef.assessment : EntityRef → Operation
  | supplier _ => .supplierAssessment
  | part _ => .partAssessment

/-! ## Time -/

/-- The clock of the system, as a run sees it. -/
structure Clock where
  /-- Seconds that the clock has counted when the run starts. -/
  counted : Nat
  /-- Nanoseconds since the start of the run that a look shows: in which pass, at the target of which place, and at
  which look of the visit, before the work and then before each repetition. -/
  shown : Pass → Nat → Nat → Nat

/-- A clock that was set going a second before the run and stands still in it. -/
def Clock.still : Clock := ⟨1, fun _ _ _ => 0⟩

namespace RunConfig

/-- Whether the time of a run is over after so many nanoseconds. -/
def isOver (c : RunConfig) (elapsed : Nat) : Bool :=
  match c.timeoutSeconds with
  | none => false
  | some seconds => decide (seconds.toNat * 1000000000 ≤ elapsed)

/-- Whether the clock can count up to the end of the time. -/
def isReachable (c : RunConfig) (clock : Clock) : Bool :=
  c.timeoutSeconds.all fun seconds => clock.counted + seconds.toNat < Word.count64 / 2

end RunConfig

/-! ## Threads -/

/-- The turns of the threads of a pool at so many targets: which thread visits which of them, each of them once.  A turn
is a whole visit; the threads share the store and the counters. -/
structure Turns (count : Nat) where
  order : List (Nat × Fin count)
  each : (order.map Prod.snd).Perm (List.finRange count)

/-- Who visits the targets of a pass. -/
inductive Crew where
  /-- The thread that has called for the run, one target after the other. -/
  | caller
  /-- The threads of a pool, in turns. -/
  | pool (turns : (count : Nat) → Turns count)

/-- The threads of a pool are asked for or not. -/
def ParallelConfig.engage (c : ParallelConfig) (crew : Crew) : Crew := if c.enabled then crew else .caller

namespace Engine

variable (e : Engine)

/-! ## Visits -/

/-- What a pass does with one entity. -/
def work (pass : Pass) (entity : EntityRef) : Script Outcome :=
  match pass with
  | .recommendations => e.recommend entity
  | _ => e.reassess entity

/-- The work on one entity, repeated as far as the retry policy and the time allow. -/
def attempt (late : Nat → Bool) (pass : Pass) (entity : EntityRef) : Running (Except RiskError Outcome) := fun w =>
  match retryingUntil e.config.retry late (e.work pass entity).run 0 0 w.backend with
  | (.ok outcome, backend) => .ok (.ok outcome) { w with backend }
  | (.error (.failure error), backend) => .ok (.error error) { w with backend }
  | (.error cause, backend) => .error cause { w with backend }

/-- Visits one entity if there is time for it, and counts what came of it. -/
def visit (late : Nat → Bool) (pass : Pass) (tally : Tally) (entity : EntityRef) : Running Tally :=
  if late 0 then return tally.skip
  else
    Running.within (·.inPhase pass.phase) <| Running.within (·.onEntity entity) do
      let outcome ← e.attempt (fun repetition => late (repetition + 1)) pass entity
      Running.track Tracker.increment
      match outcome with
      | .ok outcome => return tally.record outcome
      | .error error => return tally.fail (.ofError entity pass.operation error)

/-! ## Passes -/

/-- Whether a look at the clock shows that the time of the run is over. -/
def late (clock : Clock) (pass : Pass) (place look : Nat) : Bool := e.config.run.isOver (clock.shown pass place look)

/-- One turn of a pool: a thread visits a target and keeps its context, and its tally is merged with the others. -/
def turn (clock : Clock) (pass : Pass) (targets : List EntityRef) (soFar : Tally × (Nat → Context))
    (t : Nat × Fin targets.length) : Running (Tally × (Nat → Context)) := do
  let (tally, context) ← Running.onThread (soFar.2 t.1) (e.visit (e.late clock pass t.2) pass {} (targets.get t.2))
  return (soFar.1.merge tally, fun thread => if thread = t.1 then context else soFar.2 thread)

/-- Visits the targets of a pass. -/
def runPass (clock : Clock) (crew : Crew) (pass : Pass) (targets : List EntityRef) : Running Tally := do
  Running.track (·.setProgress 0 (UInt64.ofNat targets.length))
  match e.config.parallel.engage crew with
  | .caller => targets.zipIdx.foldlM (fun tally (entity, place) => e.visit (e.late clock pass place) pass tally entity) {}
  | .pool turns => do
      -- The threads of a pool are new, so none has a context yet.
      let (tally, _) ← (turns targets.length).order.foldlM (e.turn clock pass targets) ({}, fun _ => {})
      return tally

/-- The entities of a pass. -/
def targets (pass : Pass) : Running (List EntityRef) :=
  Running.within (·.inPhase .enumeration) do
    match pass with
    | .suppliers =>
        let suppliers ← Running.enumerate "suppliers" .suppliers
        return (suppliers.filter (·.active)).map (fun s => .supplier s.id)
    | .parts =>
        let parts ← Running.enumerate "parts" .parts
        return parts.map (fun p => .part p.id)
    | .recommendations =>
        let records ← Running.enumerate "part risk records" .partRisks
        return (records.filter (·.isEligible)).map (·.entity)

/-- A pass with its targets, if it is asked for. -/
def passIf (clock : Clock) (crew : Crew) (wanted : Bool) (pass : Pass) (add : RunSummary → Tally → RunSummary)
    (summary : RunSummary) : Running RunSummary :=
  if wanted then do
    let targets ← targets pass
    return add summary (← e.runPass clock crew pass targets)
  else return summary

/-! ## Whole runs -/

/-- Offers the due alerts to the sink. -/
def dispatchDue (sink : Sink) : Running DispatchReport :=
  Running.within (·.inPhase .alertDispatch) do
    let alerts ← Running.enumerate "alerts" .alerts
    match dueNotifications? alerts e.now e.config.alerts.lookbackHours with
    | none => throw .calendar
    | some due =>
        let report := dispatch sink due
        modify (fun w => { w with received := w.received ++ report.accepted })
        return report

/-- The dispatch of a run, if it is asked for. -/
def dispatchIf (wanted : Bool) (sink : Sink) (summary : RunSummary) : Running RunSummary :=
  if wanted then do
    let report ← e.dispatchDue sink
    return { summary with
      alertsDispatched := report.sent
      errors := summary.errors ++ report.failed }
  else return summary

/-- A whole run by a crew that looks at the clock; the elapsed time is left at zero.  A time that the clock cannot
count up to is outside of the calendar. -/
def runTimed (clock : Clock) (crew : Crew) (sink : Sink) (options : RunOptions) : Running RunSummary :=
  if e.config.run.isReachable clock then do
    let summary ← e.passIf clock crew (!options.partsOnly) .suppliers .addSuppliers {}
    let summary ← e.passIf clock crew (!options.suppliersOnly) .parts .addParts summary
    let summary ← e.passIf clock crew options.generateRecommendations .recommendations .addRecommendations summary
    let summary ← e.dispatchIf options.dispatchAlerts sink summary
    return summary.sortErrors
  else throw .calendar

/-- A whole run by the caller alone, in no time. -/
def run (sink : Sink) (options : RunOptions) : Running RunSummary := e.runTimed .still .caller sink options

end Engine

/-! ## Changed entities -/

structure ListenerReport where
  reassessed : Nat := 0
  failures : List Failure := []
deriving DecidableEq

def ListenerReport.toJson (r : ListenerReport) : Json :=
  .object [("reassessed", .nat r.reassessed), ("failures", .ofList Failure.toJson r.failures)]

namespace ChangeListener

/-- Reassesses one changed entity, once. -/
def handle (e : Engine) (r : ListenerReport) (entity : EntityRef) : Running ListenerReport := fun w =>
  match (e.reassess entity).run w.backend with
  | (.ok _, backend) => .ok { r with reassessed := r.reassessed + 1 } { w with backend }
  | (.error (.failure error), backend) =>
      .ok { r with failures := r.failures ++ [.ofError entity entity.assessment error] }
        { w with backend }
  | (.error cause, backend) => .error cause { w with backend }

/-- Receives changes until all publishers are gone.  A channel tells what has been published from each look of the
listener to the next; when the first change is received, the others that are there are taken with it as one batch.  The
entities of a batch are reassessed suppliers first and each by number. -/
def serve (e : Engine) : (channel : List (List EntityRef)) → ListenerReport → Running ListenerReport
  | [], r => return r
  -- Nothing is there yet, so the listener waits.
  | [] :: channel, r => serve e channel r
  | (first :: others) :: channel, r => do
      let r ← (Roster.ofList (first :: others)).rows.foldlM (handle e) r
      serve e channel r

/-- A listener whose changes are all there before it looks, and whose publishers are gone then. -/
def run (e : Engine) (changes : List EntityRef) : Running ListenerReport := serve e [changes] {}

/-- What publishing a change fails with when nobody listens any more. -/
def gone (entity : EntityRef) : RiskError :=
  .dispatch ("reassessment listener for " ++ entity.text ++ " is gone")

end ChangeListener

end SupplyRisk

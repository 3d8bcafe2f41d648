import SupplyRisk.Exchange.Threshold
import SupplyRisk.Proofs.Engine.Tour
import SupplyRisk.Proofs.Engine.Visit
import SupplyRisk.Proofs.Pool

/-!
# Calls of the engine

Whatever an engine is asked for, it comes down to a script of store calls.  That is clear of single attempts and of
reviewers' actions; a run is one, too, since what it does next depends on answers of the store, on the clock and on the
turns of its threads alone (`Engine.run_plays`).  `EngineCall` lists all that an engine can be asked for, and
`EngineCall.script` has the scripts.  Any number of calls may be under way at the same time: their scripts make up an
`EngineCall.pool`, and calls that come one after the other are a case of that (`EngineCall.exists_schedule`).
-/

namespace SupplyRisk

/-! ## Scripts as steps -/

namespace Script

variable {α β : Type}

/-- Plays a script as a step on a store. -/
def onStore (x : Script α) : OnStore α := fun f =>
  match x.run f with
  | (.ok a, g) => .ok a g
  | (.error cause, g) => .error cause g

theorem onStore_bind (x : Script α) (g : α → Script β) :
    (x >>= g).onStore = x.onStore >>= fun a => (g a).onStore := by
  funext f
  rw [OnStore.bind_apply, onStore, onStore, run_bind]
  cases x.run f with
  | mk result f' => cases result <;> rfl

/-- Work repeated as far as a policy and the time allow it, as one script. -/
def repeated (p : RetryPolicy) (late : Nat → Bool) (x : Script α) (conflicts transients : Nat) : Script α :=
  x.recover fun e =>
    if h : p.allows e conflicts transients = true then
      if late (conflicts + transients) then fail .timeout
      else if e.isConflict then repeated p late x (conflicts + 1) transients
      else repeated p late x conflicts (transients + 1)
    else fail e
termination_by (p.maxRetries.toNat - conflicts) + (p.transientRetries.toNat - transients)
decreasing_by
  all_goals
    have := RetryPolicy.allows_budget h
    simp_all
    omega

theorem run_repeated (p : RetryPolicy) (late : Nat → Bool) (x : Script α) (conflicts transients : Nat)
    (f : FaultyStore) :
    (repeated p late x conflicts transients).run f = retryingUntil p late x.run conflicts transients f := by
  -- One case for each way on: out of time, a conflict, another failure, a failure that is not repeated, an end.
  induction conflicts, transients, f using retryingUntil.induct p late x.run with
  | case1 conflicts transients f e f' hrun hallows hlate =>
      rw [repeated, run_recover, hrun, retryingUntil_late hrun hallows hlate]
      simp only [dif_pos hallows, if_pos hlate]
      rfl
  | case2 conflicts transients f e f' hrun hallows hintime hconflict ih =>
      rw [repeated, run_recover, hrun, retryingUntil_again hrun hallows hintime, if_pos hconflict]
      simp only [dif_pos hallows, if_neg hintime, if_pos hconflict]
      exact ih
  | case3 conflicts transients f e f' hrun hallows hintime hconflict ih =>
      rw [repeated, run_recover, hrun, retryingUntil_again hrun hallows hintime, if_neg hconflict]
      simp only [dif_pos hallows, if_neg hintime, if_neg hconflict]
      exact ih
  | case4 conflicts transients f e f' hrun hallows =>
      rw [repeated, run_recover, hrun, retryingUntil_refused hrun hallows, hrun]
      simp only [dif_neg hallows]
      rfl
  | case5 conflicts transients f hdone =>
      rw [repeated, run_recover, retryingUntil_done hdone]
      split
      · rename_i e g hrun
        exact absurd hrun (hdone e g)
      · rfl

/-- What is made of its answer does not matter to the store. -/
theorem snd_run_map (k : α → β) (x : Script α) (f : FaultyStore) : ((k <$> x).run f).2 = (x.run f).2 := by
  rw [map_eq_pure_bind, run_bind]
  rcases x.run f with ⟨result, g⟩
  cases result <;> rfl

end Script

/-! ## Steps of a run -/

namespace Running

variable {α β : Type}

/-- Seen from its store the step plays a script. -/
def Plays (x : Running α) (script : Script α) : Prop := x.Does script.onStore

theorem plays_pure (a : α) : Plays (pure a) (pure a) := does_pure a

theorem plays_calendar : Plays (throw .calendar : Running α) (.stop .calendar) := fun _ => rfl

theorem plays_bind {x : Running α} {script : Script α} {g : α → Running β} {rest : α → Script β}
    (hx : Plays x script) (hg : ∀ a, Plays (g a) (rest a)) : Plays (x >>= g) (script >>= rest) := by
  unfold Plays
  rw [Script.onStore_bind]
  exact does_bind hx hg

theorem plays_within {x : Running α} {script : Script α} (change : Context → Context) (hx : Plays x script) :
    Plays (within change x) script := does_within change hx

theorem plays_onThread_bind {x : Running α} {script : Script α} {g : α × Context → Running β} {rest : α → Script β}
    (context : Context) (hx : Plays x script) (hg : ∀ a c, Plays (g (a, c)) (rest a)) :
    Plays (onThread context x >>= g) (script >>= rest) := by
  unfold Plays
  rw [Script.onStore_bind]
  exact does_onThread_bind context hx hg

/-- A change of the rest of the world goes before or behind a script unnoticed. -/
theorem plays_modify_bind (change : World → World) (hchange : ∀ w, (change w).backend = w.backend) {x : Running α}
    {script : Script α} (hx : Plays x script) : Plays (modify change >>= fun _ => x) script := by
  have hmodify : Plays (modify change) (pure () : Script Unit) := does_modify hchange
  exact plays_bind hmodify fun _ => hx

theorem plays_track_bind (change : Tracker → Tracker) {x : Running α} {script : Script α} (hx : Plays x script) :
    Plays (track change >>= fun _ => x) script :=
  plays_modify_bind (fun w => { w with tracker := change w.tracker }) (fun _ => rfl) hx

theorem plays_play (script : Script α) : Plays (play script) script := by
  intro w
  unfold ends play Script.onStore
  cases script.run w.backend with
  | mk result g => cases result <;> rfl

theorem plays_foldlM {g : β → α → Running β} {script : β → α → Script β} (hg : ∀ b a, Plays (g b a) (script b a))
    (as : List α) (b : β) : Plays (as.foldlM g b) (as.foldlM script b) := by
  induction as generalizing b with
  | nil => exact plays_pure b
  | cons a as ih =>
      rw [List.foldlM_cons, List.foldlM_cons]
      exact plays_bind (hg b a) ih

theorem storeAfter_of_plays {x : Running α} {script : Script α} (hx : Plays x script) (w : World) :
    x.storeAfter w = (script.run w.backend).2 := by
  have hends := hx w
  unfold ends Script.onStore at hends
  unfold storeAfter
  generalize script.run w.backend = ended at hends ⊢
  obtain ⟨result, g⟩ := ended
  cases hstep : x w <;> cases result <;> rw [hstep] at hends <;> cases hends <;> rfl

end Running

namespace Engine

variable (e : Engine)

/-- The work on one entity, repeated as far as the policy and the time allow; its failure is an answer. -/
def attemptScript (late : Nat → Bool) (pass : Pass) (entity : EntityRef) : Script (Except RiskError Outcome) :=
  ((e.work pass entity).repeated e.config.retry late 0 0 >>= fun outcome => return .ok outcome).recover
    fun error => return .error error

def visitScript (late : Nat → Bool) (pass : Pass) (tally : Tally) (entity : EntityRef) : Script Tally :=
  if late 0 then return tally.skip
  else do
    match ← e.attemptScript (fun repetition => late (repetition + 1)) pass entity with
    | .ok outcome => return tally.record outcome
    | .error error => return tally.fail (.ofError entity pass.operation error)

/-- The visits of a pass, each of them as a whole. -/
def tourScript (clock : Clock) (crew : Crew) (pass : Pass) (targets : List EntityRef) : Script Tally :=
  match e.config.parallel.engage crew with
  | .caller =>
      targets.zipIdx.foldlM (fun tally (entity, place) => e.visitScript (e.late clock pass place) pass tally entity) {}
  | .pool turns =>
      (turns targets.length).order.foldlM (fun soFar t => do
        let tally ← e.visitScript (e.late clock pass t.2) pass {} (targets.get t.2)
        return soFar.merge tally) {}

/-- The answer of a call that lists targets. -/
def listing (target : String) (c : StoreCall) : Script c.Answer :=
  (Script.ask c).recover fun error => Script.fail (.enumerating target error)

def targetsScript : Pass → Script (List EntityRef)
  | .suppliers => do
      let suppliers ← listing "suppliers" .suppliers
      return (suppliers.filter (·.active)).map fun s => .supplier s.id
  | .parts => do
      let parts ← listing "parts" .parts
      return parts.map fun p => .part p.id
  | .recommendations => do
      let records ← listing "part risk records" .partRisks
      return (records.filter (·.isEligible)).map (·.entity)

def passScript (clock : Clock) (crew : Crew) (wanted : Bool) (pass : Pass) (add : RunSummary → Tally → RunSummary)
    (summary : RunSummary) : Script RunSummary :=
  if wanted then do
    let targets ← targetsScript pass
    return add summary (← e.tourScript clock crew pass targets)
  else return summary

def reportScript (sink : Sink) : Script DispatchReport := do
  let alerts ← listing "alerts" .alerts
  match dueNotifications? alerts e.now e.config.alerts.lookbackHours with
  | none => .stop .calendar
  | some due => return dispatch sink due

def dispatchScript (wanted : Bool) (sink : Sink) (summary : RunSummary) : Script RunSummary :=
  if wanted then do
    let report ← e.reportScript sink
    return { summary with alertsDispatched := report.sent, errors := summary.errors ++ report.failed }
  else return summary

/-- A whole run, as one script of store calls. -/
def runScript (clock : Clock) (crew : Crew) (sink : Sink) (options : RunOptions) : Script RunSummary :=
  if e.config.run.isReachable clock then do
    let summary ← e.passScript clock crew (!options.partsOnly) .suppliers .addSuppliers {}
    let summary ← e.passScript clock crew (!options.suppliersOnly) .parts .addParts summary
    let summary ← e.passScript clock crew options.generateRecommendations .recommendations .addRecommendations summary
    let summary ← e.dispatchScript options.dispatchAlerts sink summary
    return summary.sortErrors
  else .stop .calendar

variable {e}

theorem attempt_plays (late : Nat → Bool) (pass : Pass) (entity : EntityRef) :
    (e.attempt late pass entity).Plays (e.attemptScript late pass entity) := by
  intro w
  simp only [Running.ends, attempt, Script.onStore, attemptScript, Script.run_recover, Script.run_bind,
    Script.run_repeated]
  generalize retryingUntil e.config.retry late (e.work pass entity).run 0 0 w.backend = ended
  obtain ⟨result, g⟩ := ended
  cases result with
  | ok outcome => rfl
  | error cause => cases cause <;> rfl

theorem visit_plays (late : Nat → Bool) (pass : Pass) (tally : Tally) (entity : EntityRef) :
    (e.visit late pass tally entity).Plays (e.visitScript late pass tally entity) := by
  unfold visit visitScript
  split
  · exact Running.plays_pure _
  · refine Running.plays_within _ (Running.plays_within _ ?_)
    refine Running.plays_bind (attempt_plays _ pass entity) fun result => ?_
    refine Running.plays_track_bind _ ?_
    cases result with
    | ok outcome => exact Running.plays_pure _
    | error error => exact Running.plays_pure _

/-- The contexts of the threads of a pool are of no concern to the store. -/
theorem turns_play {clock : Clock} {pass : Pass} {targets : List EntityRef} (turns : List (Nat × Fin targets.length))
    (soFar : Tally × (Nat → Context)) :
    (turns.foldlM (e.turn clock pass targets) soFar >>= fun ended => pure ended.1).Plays
      (turns.foldlM (fun soFar t => do
        let tally ← e.visitScript (e.late clock pass t.2) pass {} (targets.get t.2)
        return soFar.merge tally) soFar.1) := by
  induction turns generalizing soFar with
  | nil => exact Running.plays_pure soFar.1
  | cons t turns ih =>
      rw [List.foldlM_cons, List.foldlM_cons, bind_assoc, bind_assoc, turn, bind_assoc]
      refine Running.plays_onThread_bind _ (visit_plays _ pass {} _) fun tally context => ?_
      rw [pure_bind, pure_bind]
      exact ih (soFar.1.merge tally, _)

theorem runPass_plays (clock : Clock) (crew : Crew) (pass : Pass) (targets : List EntityRef) :
    (e.runPass clock crew pass targets).Plays (e.tourScript clock crew pass targets) := by
  unfold runPass tourScript
  refine Running.plays_track_bind _ ?_
  cases e.config.parallel.engage crew with
  | caller =>
      exact Running.plays_foldlM (fun tally (target : EntityRef × Nat) => visit_plays _ pass tally target.1) _ {}
  | pool turns => exact turns_play (turns targets.length).order ({}, fun _ => {})

theorem targets_plays (pass : Pass) : (targets pass).Plays (targetsScript pass) := by
  refine Running.plays_within _ ?_
  cases pass with
  | suppliers => exact Running.plays_bind (Running.plays_play _) fun _ => Running.plays_pure _
  | parts => exact Running.plays_bind (Running.plays_play _) fun _ => Running.plays_pure _
  | recommendations => exact Running.plays_bind (Running.plays_play _) fun _ => Running.plays_pure _

theorem passIf_plays (clock : Clock) (crew : Crew) (wanted : Bool) (pass : Pass)
    (add : RunSummary → Tally → RunSummary) (summary : RunSummary) :
    (e.passIf clock crew wanted pass add summary).Plays (e.passScript clock crew wanted pass add summary) := by
  cases wanted with
  | false => exact Running.plays_pure _
  | true =>
      refine Running.plays_bind (targets_plays pass) fun targets => ?_
      exact Running.plays_bind (runPass_plays clock crew pass targets) fun tally => Running.plays_pure _

theorem dispatchIf_plays (wanted : Bool) (sink : Sink) (summary : RunSummary) :
    (e.dispatchIf wanted sink summary).Plays (e.dispatchScript wanted sink summary) := by
  cases wanted with
  | false => exact Running.plays_pure _
  | true =>
      refine Running.plays_bind (Running.plays_within _ ?_) fun report => Running.plays_pure _
      refine Running.plays_bind (Running.plays_play _) fun alerts => ?_
      cases dueNotifications? alerts e.now e.config.alerts.lookbackHours with
      | none => exact Running.plays_calendar
      | some due =>
          exact Running.plays_modify_bind
            (fun w => { w with received := w.received ++ (dispatch sink due).accepted }) (fun _ => rfl)
            (Running.plays_pure _)

/-- A run plays its script. -/
theorem run_plays (clock : Clock) (crew : Crew) (sink : Sink) (options : RunOptions) :
    (e.runTimed clock crew sink options).Plays (e.runScript clock crew sink options) := by
  unfold runTimed runScript
  split
  · refine Running.plays_bind (passIf_plays clock crew _ _ _ _) fun summary => ?_
    refine Running.plays_bind (passIf_plays clock crew _ _ _ _) fun summary => ?_
    refine Running.plays_bind (passIf_plays clock crew _ _ _ _) fun summary => ?_
    exact Running.plays_bind (dispatchIf_plays _ sink summary) fun _ => Running.plays_pure _
  · exact Running.plays_calendar

end Engine

/-! ## Listeners -/

namespace ChangeListener

variable (e : Engine)

def handleScript (r : ListenerReport) (entity : EntityRef) : Script ListenerReport :=
  (e.reassess entity >>= fun _ => return { r with reassessed := r.reassessed + 1 }).recover fun error =>
    return { r with failures := r.failures ++ [.ofError entity entity.assessment error] }

/-- The reassessment of the batches of changes that a channel holds, as one script of store calls. -/
def serveScript : (channel : List (List EntityRef)) → ListenerReport → Script ListenerReport
  | [], r => return r
  | [] :: channel, r => serveScript channel r
  | (first :: others) :: channel, r => do
      let r ← (Roster.ofList (first :: others)).rows.foldlM (handleScript e) r
      serveScript channel r

variable {e}

theorem handle_plays (r : ListenerReport) (entity : EntityRef) :
    (handle e r entity).Plays (handleScript e r entity) := by
  intro w
  simp only [Running.ends, handle, Script.onStore, handleScript, Script.run_recover, Script.run_bind]
  generalize (e.reassess entity).run w.backend = ended
  obtain ⟨result, g⟩ := ended
  cases result with
  | ok outcome => rfl
  | error cause => cases cause <;> rfl

theorem serve_plays (channel : List (List EntityRef)) (r : ListenerReport) :
    (serve e channel r).Plays (serveScript e channel r) := by
  induction channel generalizing r with
  | nil => exact Running.plays_pure r
  | cons batch channel ih =>
      cases batch with
      | nil => exact ih r
      | cons first others => exact Running.plays_bind (Running.plays_foldlM handle_plays _ _) ih

end ChangeListener

/-! ## Calls -/

/-- What an engine can be asked for. -/
inductive EngineCall where
  | run (clock : Clock) (crew : Crew) (sink : Sink) (options : RunOptions)
  /-- One thread of a run comes to one of its targets.  A run whose threads get in each other's way call by call is made
  up of these. -/
  | visit (late : Nat → Bool) (pass : Pass) (entity : EntityRef)
  | reassess (entity : EntityRef)
  /-- The listener gets what a channel has for it. -/
  | listen (channel : List (List EntityRef))
  | resolveAlert (id : AlertId) (resolver : Option String)
  | reviewRecommendation (id : RecommendationId) (notes : String)
  | resolveEvent (id : EventId) (notes : String)
  | importThresholds (rows : List ThresholdRecord)

namespace EngineCall

/-- The store after a call, whether it succeeds or fails. -/
def after (e : Engine) (f : FaultyStore) : EngineCall → FaultyStore
  | run clock crew sink options => (e.runTimed clock crew sink options).storeAfter { backend := f }
  | visit late pass entity => (e.visit late pass {} entity).storeAfter { backend := f }
  | reassess entity => ((e.reassess entity).run f).2
  | listen channel => (ChangeListener.serve e channel {}).storeAfter { backend := f }
  | resolveAlert id resolver => ((e.resolveAlert id resolver).run f).2
  | reviewRecommendation id notes => ((e.reviewRecommendation id notes).run f).2
  | resolveEvent id notes => ((e.resolveEvent id notes).run f).2
  | importThresholds rows => ((applyThresholds {} rows).run f).2

/-- The store calls that a call comes down to. -/
def script (e : Engine) : EngineCall → Script Unit
  | run clock crew sink options => (fun _ => ()) <$> e.runScript clock crew sink options
  | visit late pass entity => (fun _ => ()) <$> e.visitScript late pass {} entity
  | reassess entity => (fun _ => ()) <$> e.reassess entity
  | listen channel => (fun _ => ()) <$> ChangeListener.serveScript e channel {}
  | resolveAlert id resolver => (fun _ => ()) <$> e.resolveAlert id resolver
  | reviewRecommendation id notes => (fun _ => ()) <$> e.reviewRecommendation id notes
  | resolveEvent id notes => (fun _ => ()) <$> e.resolveEvent id notes
  | importThresholds rows => (fun _ => ()) <$> applyThresholds {} rows

/-- The script of a call does what the call does. -/
theorem snd_run_script (e : Engine) (f : FaultyStore) (call : EngineCall) :
    ((call.script e).run f).2 = call.after e f := by
  cases call with
  | run clock crew sink options =>
      rw [script, Script.snd_run_map, after, Running.storeAfter_of_plays (Engine.run_plays clock crew sink options)]
  | visit late pass entity =>
      rw [script, Script.snd_run_map, after, Running.storeAfter_of_plays (Engine.visit_plays late pass {} entity)]
  | listen channel =>
      rw [script, Script.snd_run_map, after, Running.storeAfter_of_plays (ChangeListener.serve_plays channel {})]
  | _ => exact Script.snd_run_map _ _ f

/-- Calls that are under way at the same time, each with an engine of its own. -/
def pool (f : FaultyStore) (calls : List (Engine × EngineCall)) : ScriptPool :=
  ⟨f, calls.map fun call => call.2.script call.1⟩

end EngineCall

/-- The store after calls, one after the other, each with an engine of its own. -/
def FaultyStore.afterCalls (f : FaultyStore) (calls : List (Engine × EngineCall)) : FaultyStore :=
  calls.foldl (fun f call => call.2.after call.1 f) f

/-- Calls one after the other are calls at the same time that do not get in each other's way. -/
theorem EngineCall.exists_schedule (f : FaultyStore) (calls : List (Engine × EngineCall)) :
    ∃ schedule, ((pool f calls).run schedule).backend = f.afterCalls calls := by
  obtain ⟨schedule, hrun⟩ := ScriptPool.exists_schedule f [] (calls.map fun call => call.2.script call.1)
  refine ⟨schedule, hrun.trans ?_⟩
  rw [List.foldl_map]
  exact congrArg (fun after => calls.foldl after f) (funext fun g => funext fun call => call.2.snd_run_script call.1 g)

/-! ## The store calls of a call -/

/-- Calls that assess entities. -/
def EngineCall.assesses : EngineCall → Bool
  | run .. | visit .. | reassess _ | listen _ => true
  | _ => false

/-- The store calls that a call can make. -/
inductive EngineCall.Makes (e : Engine) : EngineCall → StoreCall → Prop
  | works {call : EngineCall} {c : StoreCall} {entity : EntityRef} (hassesses : call.assesses = true)
      (hworks : c.WorksOn entity) : Makes e call c
  | lists {call : EngineCall} {c : StoreCall} (hassesses : call.assesses = true) (hlists : Engine.Lists c) :
      Makes e call c
  | findAlert (id : AlertId) (resolver : Option String) : Makes e (.resolveAlert id resolver) (.alert id)
  | updateAlert (id : AlertId) (resolver : Option String) (a : Alert) :
      Makes e (.resolveAlert id resolver) (.updateAlert a)
  | findRecommendation (id : RecommendationId) (notes : String) :
      Makes e (.reviewRecommendation id notes) (.recommendation id)
  | updateRecommendation (id : RecommendationId) (notes : String) (r : Recommendation) :
      Makes e (.reviewRecommendation id notes) (.updateRecommendation r)
  | resolveEvent (id : EventId) (notes : String) : Makes e (.resolveEvent id notes) (.resolveEvent id notes e.today)
  | readThreshold (rows : List ThresholdRecord) (id : SupplierId) (threshold : UInt8) :
      Makes e (.importThresholds rows) (.supplierRisk id threshold)
  | saveThreshold (rows : List ThresholdRecord) (r : SupplierRisk) :
      Makes e (.importThresholds rows) (.saveSupplierRisk r)
  | setStockThreshold {rows : List ThresholdRecord} {row : ThresholdRecord} {id : PartId} (hrow : row ∈ rows)
      (hid : row.entity = .part id) (threshold : Option UInt32) :
      Makes e (.importThresholds rows) (.setPartStockThreshold id threshold)

section Only

variable {α β : Type} {ok : StoreCall → Prop}

theorem Script.only_map {x : Script α} (hx : x.Only ok) (k : α → β) : (k <$> x).Only ok := by
  rw [map_eq_pure_bind]
  exact only_bind hx fun _ => only_pure _

theorem Script.only_repeated {x : Script α} (hx : x.Only ok) (p : RetryPolicy) (late : Nat → Bool)
    (conflicts transients : Nat) : (repeated p late x conflicts transients).Only ok := by
  induction conflicts, transients using repeated.induct p with
  | case1 conflicts transients ihconflict ihtransient =>
      rw [repeated]
      refine only_recover hx fun e => ?_
      split
      · rename_i hallows
        split
        · exact only_fail _
        · split
          · rename_i hconflict
            exact ihconflict e hallows hconflict
          · rename_i hconflict
            exact ihtransient e hallows hconflict
      · exact only_fail e

theorem Script.only_foldlM {g : β → α → Script β} (hg : ∀ b a, (g b a).Only ok) (as : List α) (b : β) :
    (as.foldlM g b).Only ok := by
  induction as generalizing b with
  | nil => exact only_pure b
  | cons a as ih =>
      rw [List.foldlM_cons]
      exact only_bind (hg b a) ih

end Only

namespace Engine

variable {e : Engine} {ok : StoreCall → Prop}

theorem only_listing (target : String) {c : StoreCall} (hc : ok c) : (listing target c).Only ok :=
  Script.only_recover (Script.only_ask hc) fun _ => Script.only_fail _

variable (hworks : ∀ c entity, StoreCall.WorksOn entity c → ok c) (hlists : ∀ c, Lists c → ok c)
include hworks

theorem only_visitScript (late : Nat → Bool) (pass : Pass) (tally : Tally) (entity : EntityRef) :
    (e.visitScript late pass tally entity).Only ok := by
  unfold visitScript
  split
  · exact Script.only_pure _
  · have hwork : (e.work pass entity).Only ok := Script.only_mono (e.only_work pass entity) fun c => hworks c entity
    refine Script.only_bind (Script.only_recover ?_ fun _ => Script.only_pure _) fun result => ?_
    · exact Script.only_bind (Script.only_repeated hwork _ _ 0 0) fun _ => Script.only_pure _
    · cases result <;> exact Script.only_pure _

theorem only_tourScript (clock : Clock) (crew : Crew) (pass : Pass) (targets : List EntityRef) :
    (e.tourScript clock crew pass targets).Only ok := by
  unfold tourScript
  split
  · exact Script.only_foldlM (fun tally (target : EntityRef × Nat) => only_visitScript hworks _ pass tally target.1) _ _
  · refine Script.only_foldlM (fun tally t => ?_) _ _
    exact Script.only_bind (only_visitScript hworks _ pass {} _) fun _ => Script.only_pure _

include hlists

theorem only_passScript (clock : Clock) (crew : Crew) (wanted : Bool) (pass : Pass)
    (add : RunSummary → Tally → RunSummary) (summary : RunSummary) :
    (e.passScript clock crew wanted pass add summary).Only ok := by
  have htargets : (targetsScript pass).Only ok := by
    cases pass with
    | suppliers => exact Script.only_bind (only_listing _ (hlists _ (.inl rfl))) fun _ => Script.only_pure _
    | parts => exact Script.only_bind (only_listing _ (hlists _ (.inr (.inl rfl)))) fun _ => Script.only_pure _
    | recommendations =>
        exact Script.only_bind (only_listing _ (hlists _ (.inr (.inr (.inl rfl))))) fun _ => Script.only_pure _
  cases wanted with
  | false => exact Script.only_pure _
  | true =>
      refine Script.only_bind htargets fun targets => ?_
      exact Script.only_bind (only_tourScript hworks clock crew pass targets) fun _ => Script.only_pure _

/-- A run makes the calls of work on entities, and listings. -/
theorem only_runScript (clock : Clock) (crew : Crew) (sink : Sink) (options : RunOptions) :
    (e.runScript clock crew sink options).Only ok := by
  have hdispatch (wanted : Bool) (summary : RunSummary) : (e.dispatchScript wanted sink summary).Only ok := by
    cases wanted with
    | false => exact Script.only_pure _
    | true =>
        refine Script.only_bind (Script.only_bind (only_listing _ (hlists _ (.inr (.inr (.inr rfl))))) fun alerts => ?_)
          fun _ => Script.only_pure _
        split <;> trivial
  unfold runScript
  split
  · refine Script.only_bind (only_passScript hworks hlists clock crew _ _ _ _) fun summary => ?_
    refine Script.only_bind (only_passScript hworks hlists clock crew _ _ _ _) fun summary => ?_
    refine Script.only_bind (only_passScript hworks hlists clock crew _ _ _ _) fun summary => ?_
    exact Script.only_bind (hdispatch _ _) fun _ => Script.only_pure _
  · trivial

end Engine

namespace EngineCall

variable (e : Engine)

theorem only_row {rows : List ThresholdRecord} {row : ThresholdRecord} (hrow : row ∈ rows) :
    row.apply.Only (Makes e (.importThresholds rows)) := by
  unfold ThresholdRecord.apply
  split
  · split
    · exact Script.only_fail _
    · refine Script.only_bind (Script.only_bind (Script.only_ask (.readThreshold ..)) fun record => ?_) fun _ => trivial
      exact Script.only_bind (Script.only_ofExcept _) fun changed => Script.only_ask (.saveThreshold ..)
  · rename_i id hid
    split
    · exact Script.only_ask (.setStockThreshold hrow hid _)
    · exact Script.only_bind (Script.only_ofExcept _) fun threshold => Script.only_ask (.setStockThreshold hrow hid _)

theorem only_applyThresholds {all rows : List ThresholdRecord} (hrows : ∀ row ∈ rows, row ∈ all)
    (report : ImportReport) :
    (applyThresholds report rows).Only (Makes e (.importThresholds all)) := by
  induction rows generalizing report with
  | nil => exact Script.only_pure _
  | cons row rows ih =>
      have hfirst := Script.only_map (only_row e (hrows row (by simp))) (Except.ok : Unit → Except RiskError Unit)
      refine Script.only_bind (Script.only_recover hfirst fun _ => Script.only_pure _) fun result => ?_
      exact ih (fun r hr => hrows r (by simp [hr])) _

theorem only_serveScript (channel : List (List EntityRef)) (r : ListenerReport) {all : List (List EntityRef)} :
    (ChangeListener.serveScript e channel r).Only (Makes e (.listen all)) := by
  have hhandle (r : ListenerReport) (entity : EntityRef) :
      (ChangeListener.handleScript e r entity).Only (Makes e (.listen all)) := by
    have hwork : (e.reassess entity).Only (Makes e (.listen all)) :=
      Script.only_mono (e.only_reassess entity) fun c => .works rfl
    exact Script.only_recover (Script.only_bind hwork fun _ => Script.only_pure _) fun _ => Script.only_pure _
  induction channel generalizing r with
  | nil => exact Script.only_pure r
  | cons batch channel ih =>
      cases batch with
      | nil => exact ih r
      | cons first others => exact Script.only_bind (Script.only_foldlM hhandle _ _) ih

theorem only_resolveAlert (id : AlertId) (resolver : Option String) :
    (e.resolveAlert id resolver).Only (Makes e (.resolveAlert id resolver)) := by
  refine Script.only_bind (Script.only_ask (.findAlert id resolver)) fun alert => ?_
  split
  · exact Script.only_bind (Script.only_ask (.updateAlert ..)) fun _ => Script.only_pure _
  · exact Script.only_pure _

theorem only_reviewRecommendation (id : RecommendationId) (notes : String) :
    (e.reviewRecommendation id notes).Only (Makes e (.reviewRecommendation id notes)) :=
  Script.only_bind (Script.only_ask (.findRecommendation id notes)) fun _ =>
    Script.only_bind (Script.only_ask (.updateRecommendation ..)) fun _ => Script.only_pure _

/-- A call makes no other store calls. -/
theorem only_script (call : EngineCall) : (call.script e).Only (call.Makes e) := by
  cases call with
  | run clock crew sink options =>
      exact Script.only_map (Engine.only_runScript (fun c entity => .works rfl) (fun c => .lists rfl) _ _ _ _) _
  | visit late pass entity => exact Script.only_map (Engine.only_visitScript (fun c entity => .works rfl) _ _ _ _) _
  | reassess entity => exact Script.only_map (Script.only_mono (e.only_reassess entity) fun c => .works rfl) _
  | listen channel => exact Script.only_map (only_serveScript e channel {}) _
  | resolveAlert id resolver => exact Script.only_map (only_resolveAlert e id resolver) _
  | reviewRecommendation id notes => exact Script.only_map (only_reviewRecommendation e id notes) _
  | resolveEvent id notes => exact Script.only_map (Script.only_ask (.resolveEvent id notes)) _
  | importThresholds rows => exact Script.only_map (only_applyThresholds e (fun _ h => h) {}) _

end EngineCall

end SupplyRisk

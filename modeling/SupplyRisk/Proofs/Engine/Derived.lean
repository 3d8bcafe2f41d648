import SupplyRisk.Proofs.Engine.Calendar
import SupplyRisk.Proofs.Engine.Revision
import SupplyRisk.Proofs.Record.Derived

/-!
# Stored scores match what they are derived from

Every revision of a risk record leaves it with the score and the level that its other fields call for.  So they match
in a store while any calls are under way if they did before, whatever the clocks of the calls say
(`FaultyStore.derived_fields_match`).  The dates of a supplier change in assessments only, and in one way.
-/

namespace SupplyRisk

open Relation (ReflTransGen)

/-! ## Records -/

/-- The record has the score and the level that its other fields call for. -/
def RiskRecord.Derived (w : Weights) : RiskRecord → Prop
  | supplier r => r.Derived w
  | part r => r.Derived

theorem RiskRecord.derived_fresh (w : Weights) {threshold : UInt8} (hthreshold : threshold ≤ 100) (entity : EntityRef) :
    (fresh threshold entity).Derived w := by
  cases entity with
  | supplier id => exact SupplierRisk.derived_new id hthreshold
  | part id => exact PartRisk.derived_new id

namespace Engine

variable {e : Engine} {r r' : RiskRecord}

theorem Revises.derived (hrevises : e.Revises r r') (h : r.Derived e.weights) : r'.Derived e.weights := by
  cases hrevises with
  | saved r =>
      cases r with
      | supplier r => exact ⟨h.threshold_le, h.assessed⟩
      | part r => exact h
  | threshold hset => exact SupplierRisk.Derived.setAlertThreshold h hset
  | assessed hassesses =>
      cases hassesses with
      | supplier factors hassess => exact SupplierRisk.Derived.assess? h hassess
      | part r flags stockout => exact r.derived_assess flags stockout e.today

theorem derived_of_revisions (hrevisions : ReflTransGen e.Revises r r') (h : r.Derived e.weights) :
    r'.Derived e.weights := by
  induction hrevisions with
  | refl => exact h
  | tail _ hlast ih => exact hlast.derived ih

/-- Any number of revisions on one day keep the dates of a supplier, or they are those of one assessment. -/
theorem dates_of_revisions {r : SupplierRisk} (hrevisions : ReflTransGen e.Revises (.supplier r) r') :
    ∃ s, r' = .supplier s ∧
      (s.lastAssessment = r.lastAssessment ∧ s.nextAssessment = r.nextAssessment ∨
        AssessedOn e.today e.config.alerts.nextAssessmentIntervalDays r.nextAssessment s.lastAssessment
          s.nextAssessment) := by
  induction hrevisions with
  | refl => exact ⟨r, rfl, .inl ⟨rfl, rfl⟩⟩
  | tail _ hlast ih =>
      obtain ⟨s, rfl, hdates⟩ := ih
      cases hlast with
      | saved => exact ⟨_, rfl, hdates⟩
      | threshold hset =>
          obtain ⟨percentage, -, rfl⟩ := map_eq_ok_iff.1 hset
          exact ⟨_, rfl, hdates⟩
      | assessed hassesses =>
          cases hassesses with
          | supplier factors hassess =>
              have hlater := SupplierRisk.assessedOn_of_assess? hassess
              rcases hdates with ⟨-, hnext⟩ | hearlier
              · exact ⟨_, rfl, .inr (hnext ▸ hlater)⟩
              · exact ⟨_, rfl, .inr (hearlier.again hlater)⟩

end Engine

/-! ## Stores -/

namespace Store

/-- All risk records have the scores and the levels that their other fields call for. -/
structure Derived (w : Weights) (s : Store) : Prop where
  suppliers : ∀ r ∈ s.supplierRisks.rows, r.Derived w
  parts : ∀ r ∈ s.partRisks.rows, r.Derived

/-- The day on which a supplier was last assessed. -/
def lastAssessment (s : Store) (id : SupplierId) : Option Date :=
  (s.supplierRisks.find? id.value.toNat).bind (·.lastAssessment)

/-- The day for which the next assessment of a supplier is planned. -/
def nextAssessment (s : Store) (id : SupplierId) : Option Date :=
  (s.supplierRisks.find? id.value.toNat).bind (·.nextAssessment)

variable {e : Engine} {w : Weights} {s t : Store} {id : SupplierId} {r : SupplierRisk}

theorem derived_iff : s.Derived w ↔ ∀ z r, s.riskRecord? z = some r → r.Derived w := by
  constructor
  · intro h z r hr
    cases z with
    | supplier id =>
        obtain ⟨record, hfind, rfl⟩ := Option.map_eq_some_iff.1 hr
        exact h.suppliers record (Roster.find?_eq_some_iff.1 hfind).1
    | part id =>
        obtain ⟨record, hfind, rfl⟩ := Option.map_eq_some_iff.1 hr
        exact h.parts record (Roster.find?_eq_some_iff.1 hfind).1
  · intro h
    refine ⟨fun r hr => h (.supplier r.supplier) (.supplier r) ?_, fun r hr => h (.part r.part) (.part r) ?_⟩
    · exact Option.map_eq_some_iff.2 ⟨r, Roster.find?_eq_some_iff.2 ⟨hr, rfl⟩, rfl⟩
    · exact Option.map_eq_some_iff.2 ⟨r, Roster.find?_eq_some_iff.2 ⟨hr, rfl⟩, rfl⟩

/-- Scores and levels that match go on matching. -/
theorem Revised.derived (hrevised : Revised e s t) (h : s.Derived e.weights) : t.Derived e.weights := by
  refine derived_iff.2 fun z r hr => ?_
  cases hs : s.riskRecord? z with
  | none =>
      obtain ⟨threshold, hle, hrevisions⟩ := hrevised.new z r hs hr
      exact Engine.derived_of_revisions hrevisions (RiskRecord.derived_fresh e.weights hle z)
  | some stored =>
      obtain ⟨r', hr', hrevisions⟩ := hrevised.stored z stored hs
      cases hr.symm.trans hr'
      exact Engine.derived_of_revisions hrevisions (derived_iff.1 h z stored hs)

theorem dates_of_riskRecord? (hstored : s.riskRecord? (.supplier id) = some (.supplier r)) :
    s.lastAssessment id = r.lastAssessment ∧ s.nextAssessment id = r.nextAssessment := by
  obtain ⟨record, hfind, hrecord⟩ := Option.map_eq_some_iff.1 hstored
  cases hrecord
  rw [lastAssessment, nextAssessment, hfind]
  exact ⟨rfl, rfl⟩

theorem dates_of_absent (habsent : s.riskRecord? (.supplier id) = none) :
    s.lastAssessment id = none ∧ s.nextAssessment id = none := by
  rw [lastAssessment, nextAssessment, Option.map_eq_none_iff.1 habsent]
  exact ⟨rfl, rfl⟩

/-- A supplier keeps its dates, or has been assessed. -/
theorem Revised.dates (hrevised : Revised e s t) (id : SupplierId) :
    t.lastAssessment id = s.lastAssessment id ∧ t.nextAssessment id = s.nextAssessment id ∨
      AssessedOn e.today e.config.alerts.nextAssessmentIntervalDays (s.nextAssessment id) (t.lastAssessment id)
        (t.nextAssessment id) := by
  cases hs : s.riskRecord? (.supplier id) with
  | some stored =>
      obtain ⟨r, hfind, rfl⟩ := Option.map_eq_some_iff.1 hs
      obtain ⟨r', hr', hrevisions⟩ := hrevised.stored _ _ hs
      obtain ⟨revised, rfl, hdates⟩ := Engine.dates_of_revisions hrevisions
      obtain ⟨hlast, hnext⟩ := dates_of_riskRecord? hs
      obtain ⟨hlast', hnext'⟩ := dates_of_riskRecord? hr'
      rwa [hlast, hnext, hlast', hnext']
  | none =>
      obtain ⟨hlast, hnext⟩ := dates_of_absent hs
      cases ht : t.riskRecord? (.supplier id) with
      | none =>
          obtain ⟨hlast', hnext'⟩ := dates_of_absent ht
          exact .inl ⟨hlast'.trans hlast.symm, hnext'.trans hnext.symm⟩
      | some r' =>
          obtain ⟨threshold, -, hrevisions⟩ := hrevised.new _ r' hs ht
          obtain ⟨revised, rfl, hdates⟩ := Engine.dates_of_revisions hrevisions
          obtain ⟨hlast', hnext'⟩ := dates_of_riskRecord? ht
          rwa [hlast, hnext, hlast', hnext']

end Store

/-! ## The engine of a configuration -/

namespace Engine

/-- The engine with its clock at an instant. -/
def clockedAt (e : Engine) (now : Instant) : Engine := { e with now }

variable {e : Engine} {config : Config} {start : Instant}

theorem ofConfig_clockedAt (hvalid : ofConfig config start = .ok e) (now : Instant) :
    ofConfig config now = .ok (e.clockedAt now) := by
  obtain ⟨hcheck, weights, hweights, rfl⟩ := ofConfig_eq_ok_iff.1 hvalid
  exact ofConfig_eq_ok_iff.2 ⟨hcheck, weights, hweights, rfl⟩

theorem defaultAlertThreshold_le (hvalid : ofConfig config start = .ok e) :
    e.config.alerts.defaultAlertThreshold ≤ 100 := by
  obtain ⟨hcheck, weights, -, rfl⟩ := ofConfig_eq_ok_iff.1 hvalid
  show config.alerts.defaultAlertThreshold ≤ 100
  have hproblems : config.problems = [] := by
    unfold Config.check at hcheck
    split at hcheck
    · assumption
    · cases hcheck
  unfold Config.problems AlertConfig.problems percentageProblem at hproblems
  simp only [List.append_eq_nil_iff] at hproblems
  obtain ⟨⟨-, hthreshold, -⟩, -⟩ := hproblems
  split at hthreshold
  · cases hthreshold
  · rename_i hle
    exact UInt8.not_lt.1 hle

/-- A supplier that is assessed with success has the dates of this assessment. -/
theorem dates_of_reassess {f g : FaultyStore} {id : SupplierId} {o : Outcome}
    (hrun : (e.reassess (.supplier id)).run f = (.ok o, g)) :
    AssessedOn e.today e.config.alerts.nextAssessmentIntervalDays (f.store.nextAssessment id)
      (g.store.lastAssessment id) (g.store.nextAssessment id) := by
  obtain ⟨r, hassesses, hstored⟩ := assesses_of_reassess hrun
  have hplanned : ∃ r₀, e.recordFor f.store (.supplier id) = .supplier r₀ ∧
      r₀.nextAssessment = f.store.nextAssessment id := by
    cases hs : f.store.riskRecord? (.supplier id) with
    | some stored =>
        obtain ⟨r₀, hfind, rfl⟩ := Option.map_eq_some_iff.1 hs
        exact ⟨r₀, Store.riskOrFresh_of_stored hs, (Store.dates_of_riskRecord? hs).2.symm⟩
    | none =>
        refine ⟨.new id e.config.alerts.defaultAlertThreshold, ?_, (Store.dates_of_absent hs).2.symm⟩
        rw [recordFor, Store.riskOrFresh, hs]
        rfl
  obtain ⟨r₀, hread, hnext₀⟩ := hplanned
  rw [hread] at hassesses
  cases hassesses with
  | supplier factors hassess =>
      obtain ⟨hlast, hnext⟩ := Store.dates_of_riskRecord? hstored
      have hdates := SupplierRisk.assessedOn_of_assess? hassess
      rwa [hnext₀, ← hlast, ← hnext] at hdates

end Engine

/-! ## Any calls -/

namespace FaultyStore

/-- **Derived fields match their inputs.**  Let all risk records of a store have the scores and the levels that their
other fields call for, with the weights of an accepted configuration.  Then they do so at all times while any calls are
under way, each of them at an instant of its own and with any faults: runs, reassessments, imports of thresholds and
actions of reviewers, whether they succeed or not; and calls one after the other are a case of that.  A step of a call
leaves the dates of a supplier alone or assesses it on the day of the call, and so does a call by itself: then a next
assessment that is planned for this day or later is kept, and otherwise it is the interval later.  A reassessment that
succeeds does assess.

A clock that moves during a run needs no more: each attempt at an entity reads it once, as a reassessment does, and
suggestions do not depend on it. -/
theorem derived_fields_match {config : Config} {start : Instant} {e : Engine}
    (hvalid : Engine.ofConfig config start = .ok e) (f : FaultyStore) (h : f.store.Derived e.weights)
    (calls : List (Instant × EngineCall)) :
    let asked := calls.map fun c => (e.clockedAt c.1, c.2)
    (∀ schedule, ((EngineCall.pool f asked).run schedule).store.Derived e.weights) ∧
    (f.afterCalls asked).store.Derived e.weights ∧
    (∀ schedule place (id : SupplierId),
      let p := (EngineCall.pool f asked).run schedule
      let t := (p.step place).store
      t.lastAssessment id = p.store.lastAssessment id ∧ t.nextAssessment id = p.store.nextAssessment id ∨
        ∃ c, calls[place]? = some c ∧
          AssessedOn c.1.date config.alerts.nextAssessmentIntervalDays (p.store.nextAssessment id) (t.lastAssessment id)
            (t.nextAssessment id)) ∧
    (∀ (g : FaultyStore) (now : Instant) (call : EngineCall) (id : SupplierId),
      let t := (call.after (e.clockedAt now) g).store
      t.lastAssessment id = g.store.lastAssessment id ∧ t.nextAssessment id = g.store.nextAssessment id ∨
        AssessedOn now.date config.alerts.nextAssessmentIntervalDays (g.store.nextAssessment id) (t.lastAssessment id)
          (t.nextAssessment id)) ∧
    ∀ (g g' : FaultyStore) (now : Instant) (id : SupplierId) (o : Outcome),
      ((e.clockedAt now).reassess (.supplier id)).run g = (.ok o, g') →
        AssessedOn now.date config.alerts.nextAssessmentIntervalDays (g.store.nextAssessment id)
          (g'.store.lastAssessment id) (g'.store.nextAssessment id) := by
  intro asked
  have hthreshold (now : Instant) : (e.clockedAt now).config.alerts.defaultAlertThreshold ≤ 100 :=
    Engine.defaultAlertThreshold_le (Engine.ofConfig_clockedAt hvalid now)
  obtain ⟨-, weights, -, rfl⟩ := Engine.ofConfig_eq_ok_iff.1 hvalid
  have hplaced {place : Nat} {e' : Engine} (hplace : (asked.map Prod.fst)[place]? = some e') :
      ∃ c, calls[place]? = some c ∧ e' = Engine.clockedAt ⟨config, weights, start⟩ c.1 := by
    simpa [asked, eq_comm] using hplace
  have hpool : (EngineCall.pool f asked).Disciplined (.revising (asked.map Prod.fst)) := by
    refine EngineCall.disciplined_pool trivial fun place call hcall => ?_
    have hplace : (asked.map Prod.fst)[place]? = some call.1 := by simp [hcall]
    obtain ⟨c, -, hc⟩ := hplaced hplace
    exact Discipline.revising_suits hplace (hc ▸ hthreshold c.1)
  have hderived (schedule : List Nat) : ((EngineCall.pool f asked).run schedule).store.Derived weights := by
    -- The clock has no part in the weights, so each call can take over from the others.
    refine (hpool.run schedule).2.keeps (P := fun g => g.store.Derived weights) ?_ h
    rintro place g g' ⟨-, e', hplace, hrevised⟩ hg
    obtain ⟨c, -, rfl⟩ := hplaced hplace
    exact hrevised.derived hg
  refine ⟨hderived, ?_, fun schedule place id => ?_,
    fun g now call id => (call.revised_after (hthreshold now) g).dates id,
    fun g g' now id o hrun => Engine.dates_of_reassess hrun⟩
  · obtain ⟨schedule, hschedule⟩ := EngineCall.exists_schedule f asked
    exact hschedule ▸ hderived schedule
  · rcases ((hpool.run schedule).1.step place).2 with hsame | ⟨-, e', hplace, hrevised⟩
    · exact .inl (by rw [hsame]; exact ⟨rfl, rfl⟩)
    · obtain ⟨c, hc, rfl⟩ := hplaced hplace
      exact (hrevised.dates id).imp_right fun hassessed => ⟨c, hc, hassessed⟩

/-- The standard weights, as assessments use them. -/
def standardWeights : Weights := ({} : Weights).normalize

/-- The first supplier has not been assessed yet.  A second one has been, and is to be assessed again ninety days
later. -/
def assessedOnce : Store :=
  let factors : SupplierFactors := ⟨.neutral, .neutral, .neutral, .zero⟩
  let record : SupplierRisk :=
    { SupplierRisk.new ⟨2⟩ 40 with
      financial := factors.financial, delivery := factors.delivery, quality := factors.quality
      overall := standardWeights.overall factors, level := .ofOverall (standardWeights.overall factors)
      lastAssessment := some Store.sampleDay, nextAssessment := some ⟨19090, by decide, by decide⟩ }
  { Store.oneSource.addSupplier ⟨⟨2⟩, "S0002", "Borealis Works", true, none⟩ with
    supplierRisks := .ofList [.new ⟨1⟩ 40, record] }

/-- Parts are assessed in a run, and the first supplier gets another threshold, but not the one that is too high.  Then
the clock is put back before the second supplier is assessed again: the day that was planned for it stays. -/
theorem planned_day_stays_when_clock_is_put_back :
    let start := Instant.midnight Store.sampleDay
    let earlier := Instant.midnight ⟨18990, by decide, by decide⟩
    let e : Engine := ⟨{}, standardWeights, start⟩
    let calls : List (Instant × EngineCall) :=
      [(start, .run .still .caller .accepting { partsOnly := true }),
        (earlier, .importThresholds [⟨.supplier, 1, some 55⟩, ⟨.supplier, 1, some 101⟩])]
    let f := (plain assessedOnce).afterCalls (calls.map fun c => (e.clockedAt c.1, c.2))
    let g := (EngineCall.reassess (.supplier ⟨2⟩)).after (e.clockedAt earlier) f
    Engine.ofConfig {} start = .ok e ∧ assessedOnce.Derived e.weights ∧ f.store.Derived e.weights ∧
      f.store.supplierRisks.rows.map (fun r => (r.alertThreshold, r.version)) = [(55, 1), (40, 0)] ∧
      f.store.partRisks.rows.map (fun r => (r.combined, r.level)) = [(65, .high)] ∧
      (g.store.nextAssessment ⟨2⟩).map (·.number) = some 19090 := by
  intro start earlier e calls f g
  have hvalid : Engine.ofConfig {} start = .ok e := by
    refine Engine.ofConfig_eq_ok_iff.2 ⟨if_pos (by decide +kernel), standardWeights, ?_, rfl⟩
    have hproblem : ({} : Weights).normalize.problem? = none := by decide +kernel
    show ({} : Weights).forAssessment = _
    rw [Weights.forAssessment, hproblem]
    rfl
  have hderived : assessedOnce.Derived e.weights := by
    constructor
    · rintro r (_ | ⟨_, _ | ⟨_, ⟨⟩⟩⟩)
      · exact SupplierRisk.derived_new ⟨1⟩ (by decide)
      · refine ⟨by decide, fun last hlast => ⟨rfl, rfl, _, rfl, ?_⟩⟩
        cases hlast
        decide
    · rintro r ⟨⟩
  obtain ⟨-, hafter, -, hdates, -⟩ := derived_fields_match hvalid (plain assessedOnce) hderived calls
  have hplanned : f.store.nextAssessment ⟨2⟩ = some ⟨19090, by decide, by decide⟩ := by decide +kernel
  refine ⟨hvalid, hderived, hafter, by decide +kernel, by decide +kernel, ?_⟩
  rcases hdates f earlier (.reassess (.supplier ⟨2⟩)) ⟨2⟩ with ⟨-, hsame⟩ | hassessed
  · rw [show g.store.nextAssessment ⟨2⟩ = _ from hsame, hplanned]
    rfl
  · rw [hassessed.kept _ hplanned (by decide)]
    rfl

end FaultyStore

end SupplyRisk

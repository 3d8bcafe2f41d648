import SupplyRisk.Proofs.Engine.Calendar
import SupplyRisk.Proofs.Engine.Order
import SupplyRisk.Proofs.Store.LinkedOnce

/-!
# The listener and the runs

A listener takes changes as a set: whatever their order and however often they come, it reassesses each entity once,
suppliers before parts and by ascending number, and reports what these reassessments come to
(`listener_reassesses_each_once`).  A run does the same work on an entity, but repeats it as its retry policy allows.
The listener does not: it does what the path of a run does without retries (`listener_visits_without_retries`), and
so it reports failures to which the policy grants another attempt (`listener_reports_first_failure`).
-/

namespace SupplyRisk

namespace EntityRef

/-- Suppliers come before parts, and either by ascending number. -/
def Precedes : EntityRef → EntityRef → Prop
  | supplier id, supplier id' => id.value < id'.value
  | supplier _, part _ => True
  | part _, supplier _ => False
  | part id, part id' => id.value < id'.value

theorem precedes_of_rank_lt {z z' : EntityRef} (hlt : z.rank < z'.rank) : z.Precedes z' := by
  cases z with
  | supplier id =>
      cases z' with
      | supplier id' => exact UInt64.lt_iff_toNat_lt.2 hlt
      | part id' => trivial
  | part id =>
      cases z' with
      | supplier id' =>
          -- Numbers are words, so every part ranks behind all suppliers.
          have hlt : Word.count64 + id.value.toNat < id'.value.toNat := hlt
          have : id'.value.toNat < Word.count64 := id'.value.toNat_lt
          omega
      | part id' => exact UInt64.lt_iff_toNat_lt.2 (Nat.lt_of_add_lt_add_left hlt)

/-- The pass in which a run assesses an entity. -/
def pass : EntityRef → Pass
  | supplier _ => .suppliers
  | part _ => .parts

@[simp] theorem operation_pass (z : EntityRef) : z.pass.operation = z.assessment := by cases z <;> rfl

end EntityRef

/-! ## Reports -/

/-- The failure that a reassessment ended with. -/
def Visit.failure? (v : Visit) : Option Failure :=
  match v.result with
  | .ok _ => none
  | .error error => some (.ofError v.entity v.entity.assessment error)

namespace ListenerReport

/-- The report on reassessments: how many succeeded, and the failures of the others in their order. -/
def ofVisits (visits : List Visit) : ListenerReport where
  reassessed := (visits.filter (·.failure?.isNone)).length
  failures := visits.filterMap (·.failure?)

/-- The report on what was reassessed before and behind. -/
def append (r r' : ListenerReport) : ListenerReport := ⟨r.reassessed + r'.reassessed, r.failures ++ r'.failures⟩

/-- What a tally of assessments reports. -/
def ofTally (t : Tally) : ListenerReport := ⟨t.processed, t.failures⟩

theorem append_empty (r : ListenerReport) : r.append (.ofVisits []) = r := by
  simp [append, ofVisits]

theorem empty_append (r : ListenerReport) : append {} r = r := by
  simp [append]

theorem append_cons (r : ListenerReport) (v : Visit) (vs : List Visit) :
    r.append (.ofVisits (v :: vs)) = (r.append (.ofVisits [v])).append (.ofVisits vs) := by
  simp only [append, ofVisits, ← List.filter_append, ← List.length_append, Nat.add_assoc, List.append_assoc,
    ← List.filterMap_append, List.cons_append, List.nil_append]

theorem append_of_ok (r : ListenerReport) {v : Visit} {o : Outcome} (hresult : v.result = .ok o) :
    r.append (.ofVisits [v]) = { r with reassessed := r.reassessed + 1 } := by
  have hnone : v.failure? = none := by rw [Visit.failure?, hresult]
  simp [append, ofVisits, hnone]

theorem append_of_error (r : ListenerReport) {v : Visit} {error : RiskError} (hresult : v.result = .error error) :
    r.append (.ofVisits [v]) =
      { r with failures := r.failures ++ [.ofError v.entity v.entity.assessment error] } := by
  have hsome : v.failure? = some (.ofError v.entity v.entity.assessment error) := by rw [Visit.failure?, hresult]
  simp [append, ofVisits, hsome]

/-- A visit adds to a tally what it adds to the report. -/
theorem ofTally_merge (t : Tally) (v : Visit) :
    ofTally (t.merge (.ofVisit v.entity.pass v)) = (ofTally t).append (.ofVisits [v]) := by
  cases hresult : v.result with
  | ok o =>
      rw [Tally.merge_ofVisit_ok t hresult, append_of_ok _ hresult]
      rfl
  | error error =>
      rw [Tally.merge_ofVisit_error t hresult, append_of_error _ hresult, EntityRef.operation_pass]
      rfl

theorem foldl_append (r : ListenerReport) (visits : List Visit) :
    visits.foldl (fun r v => r.append (.ofVisits [v])) r = r.append (.ofVisits visits) := by
  induction visits generalizing r with
  | nil => exact r.append_empty.symm
  | cons v vs ih => rw [List.foldl_cons, ih, ← append_cons]

theorem ofTally_foldl (t : Tally) (visits : List Visit) :
    ofTally (visits.foldl (fun t v => t.merge (.ofVisit v.entity.pass v)) t) =
      (ofTally t).append (.ofVisits visits) := by
  induction visits generalizing t with
  | nil => exact (append_empty _).symm
  | cons v vs ih => rw [List.foldl_cons, ih, ofTally_merge, ← append_cons]

end ListenerReport

/-- Whether the policy grants another attempt to work whose first attempt ended so. -/
def RetryPolicy.grants {α : Type} (p : RetryPolicy) : Except Halt α → Bool
  | .error (.failure error) => p.allows error 0 0
  | _ => false

namespace Engine

variable (e : Engine)

/-- Reassesses an entity once; its failure is kept. -/
def reassessOn (z : EntityRef) : OnStore Visit := fun f => Visit.ofAttempt z ((e.reassess z).run f)

/-- Reassesses entities one after the other. -/
def reassessEach (entities : List EntityRef) : OnStore (List Visit) := entities.mapM e.reassessOn

/-- Visits entities one after the other as runs without a time limit do, each in the pass of its kind. -/
def visitEach (entities : List EntityRef) : Running ListenerReport := do
  let tally ← entities.foldlM (fun tally z => e.visit (fun _ => false) z.pass tally z) {}
  return .ofTally tally

/-- The engine with a policy that never repeats anything. -/
def withoutRetries : Engine := { e with config := { e.config with retry := .disabled } }

/-- Of the reassessments on the way none ends so that the policy grants another attempt. -/
def Unretried : List EntityRef → FaultyStore → Prop
  | [], _ => True
  | z :: rest, f =>
      e.config.retry.grants ((e.reassess z).run f).1 = false ∧ Unretried rest ((e.reassess z).run f).2

instance decidableUnretried : (entities : List EntityRef) → (f : FaultyStore) → Decidable (e.Unretried entities f)
  | [], _ => .isTrue trivial
  | z :: rest, f =>
      have := decidableUnretried rest ((e.reassess z).run f).2
      inferInstanceAs (Decidable (_ ∧ _))

end Engine

/-- What a step of a run comes to, if it is not stopped. -/
def Running.answer? {α : Type} (x : Running α) (w : World) : Option α :=
  match x w with
  | .ok a _ => some a
  | .error _ _ => none

/-! ## Steps that visit entities -/

/-- Steps that each add a visit visit all entities and add up the visits. -/
theorem Running.does_foldlM {σ : Type} {step : σ → EntityRef → Running σ} {go : EntityRef → OnStore Visit}
    {add : σ → Visit → σ} (hstep : ∀ r z, (step r z).Does (do return add r (← go z))) (entities : List EntityRef)
    (r : σ) : (entities.foldlM step r).Does (do return (← entities.mapM go).foldl add r) := by
  induction entities generalizing r with
  | nil => exact Running.does_pure r
  | cons z rest ih =>
      rw [List.foldlM_cons]
      intro w
      -- One step, and then the other entities from the store that it leaves.
      refine (Running.does_bind (hstep r z) ih w).trans ?_
      simp only [List.mapM_cons, OnStore.bind_apply, OnStore.pure_apply]
      cases go z w.backend with
      | error cause g => rfl
      | ok v g =>
          dsimp only
          cases rest.mapM go g <;> rfl

namespace ChangeListener

/-- The entities that are reassessed, batch by batch. -/
def order (channel : List (List EntityRef)) : List EntityRef := channel.flatMap fun batch => (Roster.ofList batch).rows

/-- However often the listener wakes up, it handles the entities of the batches one after the other. -/
theorem serve_eq (e : Engine) (channel : List (List EntityRef)) (r : ListenerReport) :
    serve e channel r = (order channel).foldlM (handle e) r := by
  induction channel generalizing r with
  | nil => rfl
  | cons batch channel ih =>
      rw [order, List.flatMap_cons, List.foldlM_append]
      cases batch with
      | nil => exact ih r
      | cons first others => exact congrArg _ (funext fun r => ih r)

/-- A queue that is closed before the listener looks is one batch. -/
theorem run_eq (e : Engine) (changes : List EntityRef) :
    run e changes = (Roster.ofList changes).rows.foldlM (handle e) {} := by
  rw [run, serve_eq, order, List.flatMap_singleton]

/-- The listener reassesses the changed entities one after the other. -/
theorem run_does (e : Engine) (changes : List EntityRef) :
    (run e changes).Does (do return .ofVisits (← e.reassessEach (Roster.ofList changes).rows)) := by
  have hhandle (r : ListenerReport) (z : EntityRef) :
      (handle e r z).Does (do return r.append (.ofVisits [← e.reassessOn z])) := by
    intro w
    rw [OnStore.bind_apply]
    simp only [Running.ends, handle, Engine.reassessOn]
    generalize (e.reassess z).run w.backend = ended
    obtain ⟨result, g⟩ := ended
    cases result with
    | ok outcome => exact congrArg (EStateM.Result.ok · g) (r.append_of_ok (v := ⟨z, .ok outcome⟩) rfl).symm
    | error cause =>
        cases cause with
        | failure error => exact congrArg (EStateM.Result.ok · g) (r.append_of_error (v := ⟨z, .error error⟩) rfl).symm
        | calendar => rfl
        | word => rfl
  have hfold := Running.does_foldlM hhandle (Roster.ofList changes).rows {}
  simp only [ListenerReport.foldl_append, ListenerReport.empty_append] at hfold
  rw [run_eq]
  exact hfold

end ChangeListener

namespace Engine

variable {e : Engine}

theorem visitEach_does (e : Engine) (entities : List EntityRef) :
    (e.visitEach entities).Does (do return .ofVisits (← entities.mapM (fun z => e.visitOn z.pass z))) := by
  have hvisit (t : Tally) (z : EntityRef) :
      (e.visit (fun _ => false) z.pass t z).Does (do
        let v ← e.visitOn z.pass z
        return t.merge (.ofVisit v.entity.pass v)) := by
    intro w
    have hcounts : (e.visit (fun _ => false) z.pass t z).Does (do return t.merge (← e.counted z.pass .endless z)) :=
      visit_does e z.pass (fun _ => by decide) t z
    refine (hcounts w).trans ?_
    simp only [counted, OnStore.bind_apply]
    cases hvisit : e.visitOn z.pass z w.backend with
    | error cause g => rfl
    | ok v g =>
        obtain rfl := entity_of_visitOn hvisit
        rfl
  intro w
  refine (Running.does_bind (Running.does_foldlM hvisit entities {}) (fun _ => Running.does_pure _) w).trans ?_
  simp only [OnStore.bind_apply, OnStore.pure_apply]
  cases entities.mapM (fun z => e.visitOn z.pass z) w.backend with
  | error cause g => rfl
  | ok visits g =>
      have hreport := ListenerReport.ofTally_foldl {} visits
      rw [show ListenerReport.ofTally {} = {} from rfl, ListenerReport.empty_append] at hreport
      exact congrArg (EStateM.Result.ok · g) hreport

theorem work_pass (e : Engine) (z : EntityRef) : e.work z.pass z = e.reassess z := by
  cases z <;> rfl

/-- A visit whose first attempt earns no other one is a single reassessment. -/
theorem visitOn_of_refused {z : EntityRef} {f : FaultyStore}
    (hrefused : e.config.retry.grants ((e.reassess z).run f).1 = false) :
    e.visitOn z.pass z f = e.reassessOn z f := by
  have hfirst (error : RiskError) (herror : ((e.reassess z).run f).1 = .error (.failure error)) :
      e.config.retry.allows error 0 0 = false := by
    rwa [herror] at hrefused
  rw [visitOn, work_pass, retrying, retryingUntil_once hfirst]
  rfl

/-- Without retries a visit is a single reassessment. -/
theorem visitOn_withoutRetries (e : Engine) (z : EntityRef) :
    e.withoutRetries.visitOn z.pass z = e.reassessOn z := by
  -- Only the visit around a reassessment looks at the retry policy.
  have hsame : e.withoutRetries.reassess z = e.reassess z := by cases z <;> rfl
  funext f
  rw [visitOn_of_refused, reassessOn, hsame]
  · rfl
  · unfold RetryPolicy.grants
    split <;> rfl

/-- Where there are no faults, nothing that fails is worth another attempt. -/
theorem unretried_plain (e : Engine) (entities : List EntityRef) (s : Store) : e.Unretried entities (.plain s) := by
  induction entities generalizing s with
  | nil => trivial
  | cons z rest ih =>
      constructor
      · unfold RetryPolicy.grants
        split
        · rename_i error hrun
          exact RetryPolicy.allows_of_final (e.work_final z.pass z s (e.work_pass z ▸ hrun)) 0 0
        · rfl
      · rw [Script.run_plain]
        exact ih _

theorem of_reassessOn {z : EntityRef} {f g : FaultyStore} {v : Visit} (hok : e.reassessOn z f = .ok v g) :
    v.entity = z ∧ g = ((e.reassess z).run f).2 := by
  unfold reassessOn Visit.ofAttempt at hok
  split at hok <;> cases hok <;> simp [*]

theorem mapM_visitOn_of_unretried {entities : List EntityRef} {f : FaultyStore} (hunretried : e.Unretried entities f) :
    entities.mapM (fun z => e.visitOn z.pass z) f = e.reassessEach entities f := by
  induction entities generalizing f with
  | nil => rfl
  | cons z rest ih =>
      obtain ⟨hrefused, hrest⟩ := hunretried
      unfold reassessEach at ih ⊢
      simp only [List.mapM_cons, OnStore.bind_apply, visitOn_of_refused hrefused]
      cases hvisit : e.reassessOn z f with
      | error cause g => rfl
      | ok v g =>
          dsimp only
          rw [(of_reassessOn hvisit).2, ih hrest]

theorem entities_of_reassessEach {entities : List EntityRef} {f g : FaultyStore} {visits : List Visit}
    (hok : e.reassessEach entities f = .ok visits g) : visits.map (·.entity) = entities := by
  induction entities generalizing f visits with
  | nil =>
      cases hok
      rfl
  | cons z rest ih =>
      simp only [reassessEach, List.mapM_cons, OnStore.bind_apply, OnStore.pure_apply] at hok
      split at hok
      · rename_i v h hvisit
        split at hok
        · rename_i vs g' hrest
          cases hok
          rw [List.map_cons, (of_reassessOn hvisit).1, ih hrest]
        · cases hok
      · cases hok

/-- In the calendar all reassessments are made, unless there is no number or version left. -/
theorem reassessEach_ends (hin : e.InCalendar) (entities : List EntityRef) (f : FaultyStore) :
    (∃ visits g, e.reassessEach entities f = .ok visits g) ∨ ∃ g, e.reassessEach entities f = .error .word g := by
  induction entities generalizing f with
  | nil => exact .inl ⟨[], f, rfl⟩
  | cons z rest ih =>
      have hdated := hin.completes.reassess z f
      unfold reassessEach at ih ⊢
      simp only [List.mapM_cons, OnStore.bind_apply, OnStore.pure_apply]
      have hvisit : (∃ v h, e.reassessOn z f = .ok v h) ∨ ∃ g, e.reassessOn z f = .error .word g := by
        unfold reassessOn
        generalize (e.reassess z).run f = ended at hdated ⊢
        obtain ⟨result, h⟩ := ended
        cases result with
        | ok outcome => exact .inl ⟨_, _, rfl⟩
        | error cause =>
            cases cause with
            | failure error => exact .inl ⟨_, _, rfl⟩
            | calendar => exact absurd rfl hdated
            | word => exact .inr ⟨_, rfl⟩
      rcases hvisit with ⟨v, h, hvisit⟩ | ⟨g, hvisit⟩
      · rcases ih h with ⟨vs, g, hrest⟩ | ⟨g, hrest⟩
        · exact .inl ⟨v :: vs, g, by simp only [hvisit, hrest]⟩
        · exact .inr ⟨g, by simp only [hvisit, hrest]⟩
      · exact .inr ⟨g, by simp only [hvisit]⟩

end Engine

/-! ## Sets of changes -/

theorem EntityRef.rank_injective : Function.Injective (Ranked.rank : EntityRef → Nat) :=
  fun _ _ => EntityRef.rank_inj.1

namespace Engine

/-- **A listener takes changes as a set.**  For any changes there is one order of the changed entities, suppliers before
parts and by ascending number, such that the listener does what reassessing them one after the other in this order
does: it leaves the same store, and reports how many reassessments succeeded and the failures of the others in this
order, each with the operation of its entity's kind.  Each entity is reassessed once; within the calendar nothing but
the end of numbers and versions keeps the listener from it.  Other changes of the same entities make no difference. -/
theorem listener_reassesses_each_once (e : Engine) (changes : List EntityRef) :
    ∃ order : List EntityRef,
      order.Pairwise EntityRef.Precedes ∧ order.Nodup ∧ (∀ z, z ∈ order ↔ z ∈ changes) ∧
      (∀ w, (ChangeListener.run e changes).ends w =
        match e.reassessEach order w.backend with
        | .ok visits g => .ok (.ofVisits visits) g
        | .error cause g => .error cause g) ∧
      (∀ f visits g, e.reassessEach order f = .ok visits g → visits.map (·.entity) = order) ∧
      (e.InCalendar → ∀ f,
        (∃ visits g, e.reassessEach order f = .ok visits g) ∨ ∃ g, e.reassessEach order f = .error .word g) ∧
      ∀ changes', (∀ z, z ∈ changes' ↔ z ∈ changes) → ChangeListener.run e changes' = ChangeListener.run e changes := by
  refine ⟨(Roster.ofList changes).rows, (Roster.ofList changes).ascending.imp EntityRef.precedes_of_rank_lt,
    (Roster.ofList changes).nodup, fun z => Roster.mem_ofList EntityRef.rank_injective, fun w => ?_,
    fun f visits g => entities_of_reassessEach, fun hin => reassessEach_ends hin _, fun changes' hsame => ?_⟩
  · rw [ChangeListener.run_does e changes w, OnStore.bind_apply]
    cases e.reassessEach (Roster.ofList changes).rows w.backend <;> rfl
  · have hset : Roster.ofList changes' = Roster.ofList changes :=
      Roster.ext_mem fun z => by
        rw [Roster.mem_ofList EntityRef.rank_injective, Roster.mem_ofList EntityRef.rank_injective, hsame]
    rw [ChangeListener.run_eq, ChangeListener.run_eq, hset]

/-- Two parts have changed, one of them twice, and a supplier that is unknown. -/
def fourChanges : List EntityRef := [.part ⟨11⟩, .supplier ⟨99⟩, .part ⟨10⟩, .part ⟨11⟩]

/-- Three entities are reassessed, of which one fails. -/
theorem repeated_changes_collapse :
    let e := standardOn Store.sampleDay
    let w : World := { backend := .plain twoParts }
    ChangeListener.run e fourChanges = ChangeListener.run e [.supplier ⟨99⟩, .part ⟨10⟩, .part ⟨11⟩] ∧
    (∃ report g, (ChangeListener.run e fourChanges).ends w = .ok report g) ∧
    (ChangeListener.run e fourChanges).answer? w =
      some ⟨2, [.ofError (.supplier ⟨99⟩) .supplierAssessment (.notFound (.supplier ⟨99⟩))]⟩ := by
  intro e w
  obtain ⟨order, -, -, -, hdoes, -, hends, hset⟩ := listener_reassesses_each_once e fourChanges
  have hanswer : (ChangeListener.run e fourChanges).answer? w =
      some ⟨2, [.ofError (.supplier ⟨99⟩) .supplierAssessment (.notFound (.supplier ⟨99⟩))]⟩ := by decide +kernel
  refine ⟨(hset _ fun z => ?_).symm, ?_, hanswer⟩
  · simp only [fourChanges, List.mem_cons, List.not_mem_nil, or_false]
    grind
  · rcases hends ⟨by decide, by decide, by decide, by decide⟩ w.backend with ⟨visits, g, hvisits⟩ | ⟨g, hword⟩
    · exact ⟨_, g, by rw [hdoes, hvisits]⟩
    · have hstopped : (ChangeListener.run e fourChanges).ends w = .error .word g := by rw [hdoes, hword]
      obtain ⟨v, hrun, -⟩ := Running.ends_eq_error_iff.1 hstopped
      rw [Running.answer?, hrun] at hanswer
      cases hanswer

/-- **The listener does not retry.**  It does what the path of a run does without retries, for any faults: it leaves the
same store and reports the same successes and failures.  It does what the path does under the policy of the engine as
long as no first attempt on the way fails with an error that the policy allows to be repeated; on a store without
faults, none does. -/
theorem listener_visits_without_retries (e : Engine) (changes : List EntityRef) :
    (∀ w, (ChangeListener.run e changes).ends w = (e.withoutRetries.visitEach (Roster.ofList changes).rows).ends w) ∧
    (∀ w, e.Unretried (Roster.ofList changes).rows w.backend →
      (ChangeListener.run e changes).ends w = (e.visitEach (Roster.ofList changes).rows).ends w) ∧
    ∀ s, e.Unretried (Roster.ofList changes).rows (.plain s) := by
  refine ⟨fun w => ?_, fun w hunretried => ?_, e.unretried_plain _⟩
  · rw [ChangeListener.run_does e changes w, visitEach_does _ _ w]
    simp only [visitOn_withoutRetries]
    rfl
  · rw [ChangeListener.run_does e changes w, visitEach_does e _ w, OnStore.bind_apply, OnStore.bind_apply,
      mapM_visitOn_of_unretried hunretried]

/-- A missing supplier is reported at once on both ways, since another attempt would not find it either. -/
theorem missing_supplier_is_reported_alike :
    let e := standardOn Store.sampleDay
    let w : World := { backend := Store.oneSource.without (.ofList [.supplier ⟨1⟩]) }
    (ChangeListener.run e [.part ⟨10⟩, .supplier ⟨1⟩]).ends w =
        (e.visitEach [.supplier ⟨1⟩, .part ⟨10⟩]).ends w ∧
      (ChangeListener.run e [.part ⟨10⟩, .supplier ⟨1⟩]).answer? w =
        some ⟨1, [.ofError (.supplier ⟨1⟩) .supplierAssessment (.notFound (.supplier ⟨1⟩))]⟩ := by
  intro e w
  have hunretried : e.Unretried (Roster.ofList [.part ⟨10⟩, .supplier ⟨1⟩]).rows w.backend := by decide +kernel
  exact ⟨(listener_visits_without_retries e [.part ⟨10⟩, .supplier ⟨1⟩]).2.1 w hunretried, by decide +kernel⟩

/-- The read of a history fails once.  The policy grants another attempt, with which the path of a run succeeds; the
listener reports the failure. -/
theorem listener_reports_first_failure :
    let e := standardOn Store.sampleDay
    let w : World := { backend := ⟨Store.oneSource, { transientOnce := .ofList [.part ⟨10⟩] }⟩ }
    let error := RiskError.transient "injected failure reading part#10"
    e.config.retry.allows error 0 0 = true ∧
    (ChangeListener.run e [.part ⟨10⟩]).answer? w = some ⟨0, [.ofError (.part ⟨10⟩) .partAssessment error]⟩ ∧
    (e.visitEach [.part ⟨10⟩]).answer? w = some ⟨1, []⟩ := by
  decide +kernel

end Engine

end SupplyRisk

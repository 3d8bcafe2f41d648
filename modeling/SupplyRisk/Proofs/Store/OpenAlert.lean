import SupplyRisk.Proofs.Store.Effect

/-!
# One open alert per entity

The store looks for *the first* open alert of an entity in two places: before it opens another one, and before
it writes an alert that is open.  As long as no entity has two open alerts, the first one is the only one
(`openAlert_eq_some_iff`), so the two look-ups suffice: every call keeps the invariant whatever its arguments
(`oneOpen_stable`), and a call is refused exactly when it would break it (`insertAlert_eq_error_iff`,
`updateAlert_eq_error_iff`).  Nothing is said here about who calls: an edited alert may change its entity and
be reopened at once.
-/

namespace SupplyRisk

theorem AlertId.toNat_inj {i j : AlertId} : i.value.toNat = j.value.toNat ↔ i = j := by
  constructor
  · intro h
    exact congrArg AlertId.mk (UInt64.toNat_inj.1 h)
  · rintro rfl
    rfl

namespace Store

/-- No entity has two open alerts. -/
def OneOpen (s : Store) : Prop :=
  ∀ a ∈ s.alerts.rows, ∀ b ∈ s.alerts.rows,
    a.isOpen = true → b.isOpen = true → a.entity = b.entity → a = b

instance (s : Store) : Decidable s.OneOpen :=
  inferInstanceAs (Decidable (∀ a ∈ s.alerts.rows, ∀ b ∈ s.alerts.rows,
    a.isOpen = true → b.isOpen = true → a.entity = b.entity → a = b))

def HasOpenAlert (s : Store) (entity : EntityRef) : Prop :=
  ∃ a ∈ s.alerts.rows, a.isOpen = true ∧ a.entity = entity

/-- The number of an alert is stored. -/
def KnowsAlert (s : Store) (id : AlertId) : Prop := ∃ a ∈ s.alerts.rows, a.id = id

/-- Every stored alert number leaves room for a greater one. -/
def AlertNumbersFit (s : Store) : Prop := ∀ a ∈ s.alerts.rows, a.id.value.toNat + 1 < Word.count64

instance (s : Store) : Decidable s.AlertNumbersFit :=
  inferInstanceAs (Decidable (∀ a ∈ s.alerts.rows, a.id.value.toNat + 1 < Word.count64))

variable {s : Store} {entity : EntityRef} {a b : Alert}

theorem contains_alert_iff {id : AlertId} :
    s.alerts.contains id.value.toNat = true ↔ s.KnowsAlert id := by
  rw [Roster.contains_iff]
  constructor
  · rintro ⟨a, hfind⟩
    obtain ⟨hmem, hrank⟩ := Roster.find?_eq_some_iff.1 hfind
    exact ⟨a, hmem, AlertId.toNat_inj.1 hrank⟩
  · rintro ⟨a, hmem, rfl⟩
    exact ⟨a, Roster.find?_eq_some_iff.2 ⟨hmem, rfl⟩⟩

/-- Writing an alert replaces the one of its number. -/
theorem mem_alerts_insert_iff {r : Roster Alert} :
    b ∈ (r.insert a).rows ↔ b = a ∨ b ∈ r.rows ∧ b.id ≠ a.id := by
  rw [Roster.mem_insert_iff]
  exact or_congr_right (and_congr_right fun _ => not_congr AlertId.toNat_inj)

/-- Numbers stay in use: an alert that is written over another one has its number. -/
theorem knowsAlert_insert {t : Store} {id : AlertId} (hknown : s.KnowsAlert id)
    (hafter : t.alerts = s.alerts.insert a) : t.KnowsAlert id := by
  obtain ⟨b, hmem, rfl⟩ := hknown
  by_cases hid : b.id = a.id
  · exact ⟨a, hafter ▸ mem_alerts_insert_iff.2 (.inl rfl), hid.symm⟩
  · exact ⟨b, hafter ▸ mem_alerts_insert_iff.2 (.inr ⟨hmem, hid⟩), rfl⟩

/-- If numbers stay in use and fit later on, they fit now. -/
theorem AlertNumbersFit.of_later {t : Store} (hfit : t.AlertNumbersFit)
    (hknown : ∀ id, s.KnowsAlert id → t.KnowsAlert id) : s.AlertNumbersFit := by
  intro a hmem
  obtain ⟨b, hb, hid⟩ := hknown a.id ⟨a, hmem, rfl⟩
  rw [← hid]
  exact hfit b hb

/-! ## The first open alert -/

theorem of_openAlert (hopen : s.openAlert entity = some a) :
    a ∈ s.alerts.rows ∧ a.isOpen = true ∧ a.entity = entity := by
  have hfound := List.find?_some hopen
  simp only [Bool.and_eq_true, decide_eq_true_eq] at hfound
  exact ⟨List.mem_of_find?_eq_some hopen, hfound.2, hfound.1⟩

theorem openAlert_eq_none_iff : s.openAlert entity = none ↔ ¬ s.HasOpenAlert entity := by
  simp only [openAlert, List.find?_eq_none, HasOpenAlert, Bool.and_eq_true, decide_eq_true_eq,
    not_exists, not_and]
  constructor
  · intro hnone a hmem hopen hentity
    exact hnone a hmem hentity hopen
  · intro hnone a hmem hentity hopen
    exact hnone a hmem hopen hentity

theorem hasOpenAlert_iff : s.HasOpenAlert entity ↔ ∃ a, s.openAlert entity = some a := by
  rw [← Option.isSome_iff_exists, ← Option.ne_none_iff_isSome, Ne, openAlert_eq_none_iff,
    Classical.not_not]

/-- With one open alert per entity, the first one found is the only one there is. -/
theorem openAlert_eq_some_iff (hone : s.OneOpen) :
    s.openAlert entity = some a ↔ a ∈ s.alerts.rows ∧ a.isOpen = true ∧ a.entity = entity := by
  constructor
  · exact of_openAlert
  · rintro ⟨hmem, hopen, hentity⟩
    -- The search finds some open alert of the entity; the invariant says that it is this one.
    obtain ⟨b, hb⟩ := hasOpenAlert_iff.1 ⟨a, hmem, hopen, hentity⟩
    obtain ⟨hbmem, hbopen, hbentity⟩ := of_openAlert hb
    rw [hb, hone b hbmem a hmem hbopen hopen (hbentity.trans hentity.symm)]

/-- With one open alert per entity, no rival means that the alert is resolved or no other alert of its
entity is open. -/
theorem openRival?_eq_none_iff (hone : s.OneOpen) :
    s.openRival? a = none ↔
      (a.isOpen = true →
        ∀ b ∈ s.alerts.rows, b.isOpen = true → b.entity = a.entity → b.id = a.id) := by
  unfold openRival?
  by_cases hopen : a.isOpen = true
  · simp only [hopen, if_true, forall_const, Option.filter_eq_none_iff]
    constructor
    · intro hnone b hmem hbopen hbentity
      have hfound : s.openAlert a.entity = some b :=
        (openAlert_eq_some_iff hone).2 ⟨hmem, hbopen, hbentity⟩
      simpa using hnone b hfound
    · intro hrival b hfound
      obtain ⟨hmem, hbopen, hbentity⟩ := of_openAlert hfound
      simpa using hrival b hmem hbopen hbentity
  · simp [hopen]

theorem of_openRival? (hrival : s.openRival? a = some b) :
    a.isOpen = true ∧ b ∈ s.alerts.rows ∧ b.isOpen = true ∧ b.entity = a.entity ∧ b.id ≠ a.id := by
  unfold openRival? at hrival
  split at hrival
  · rename_i hopen
    obtain ⟨hfound, hne⟩ := Option.filter_eq_some_iff.1 hrival
    obtain ⟨hmem, hbopen, hbentity⟩ := of_openAlert hfound
    exact ⟨hopen, hmem, hbopen, hbentity, by simpa using hne⟩
  · cases hrival

/-! ## What is refused -/

theorem insertAlert_eq_error_iff (hone : s.OneOpen) {draft : AlertDraft} {e : RiskError} :
    s.insertAlert draft = .error e ↔
      ∃ b ∈ s.alerts.rows, b.isOpen = true ∧ b.entity = draft.entity ∧
        e = alreadyOpen draft.entity b := by
  unfold insertAlert
  constructor
  · intro hrefused
    split at hrefused
    · rename_i b hfound
      obtain ⟨hmem, hopen, hentity⟩ := of_openAlert hfound
      cases hrefused
      exact ⟨b, hmem, hopen, hentity, rfl⟩
    · cases hrefused
  · rintro ⟨b, hmem, hopen, hentity, rfl⟩
    have hfound : s.openAlert draft.entity = some b :=
      (openAlert_eq_some_iff hone).2 ⟨hmem, hopen, hentity⟩
    rw [hfound]

theorem updateAlert_eq_error_iff (hone : s.OneOpen) {e : RiskError} :
    s.updateAlert a = .error e ↔
      ¬ s.KnowsAlert a.id ∧ e = .recordNotFound a.id.text ∨
      s.KnowsAlert a.id ∧ a.isOpen = true ∧
        ∃ b ∈ s.alerts.rows, b.isOpen = true ∧ b.entity = a.entity ∧ b.id ≠ a.id ∧
          e = alreadyOpen a.entity b := by
  unfold updateAlert
  by_cases hknown : s.KnowsAlert a.id
  · simp only [contains_alert_iff.2 hknown, if_true, hknown, not_true_eq_false, false_and, true_and,
      false_or]
    constructor
    · intro hrefused
      split at hrefused
      · rename_i b hrival
        obtain ⟨hopen, hmem, hbopen, hbentity, hne⟩ := of_openRival? hrival
        cases hrefused
        exact ⟨hopen, b, hmem, hbopen, hbentity, hne, rfl⟩
      · cases hrefused
    · rintro ⟨hopen, b, hmem, hbopen, hbentity, hne, rfl⟩
      have hfound : s.openAlert a.entity = some b :=
        (openAlert_eq_some_iff hone).2 ⟨hmem, hbopen, hbentity⟩
      have hrival : s.openRival? a = some b := by simp [openRival?, hopen, hfound, hne]
      rw [hrival]
  · have hcontains : ¬ s.alerts.contains a.id.value.toNat = true := mt contains_alert_iff.1 hknown
    simp only [hcontains, hknown, not_false_eq_true, true_and, false_and, or_false]
    simp [eq_comm]

/-! ## What is kept -/

/-- The invariant is about alerts only. -/
theorem OneOpen.congr (hone : s.OneOpen) {t : Store} (ht : t.alerts = s.alerts) : t.OneOpen := by
  unfold OneOpen at hone ⊢
  rwa [ht]

/-- Writing an alert that has no rival keeps the invariant. -/
theorem OneOpen.insert (hone : s.OneOpen) {t : Store} (ht : t.alerts = s.alerts.insert a)
    (hrival : a.isOpen = true →
      ∀ b ∈ s.alerts.rows, b.isOpen = true → b.entity = a.entity → b.id = a.id) : t.OneOpen := by
  intro x hx y hy hxopen hyopen hentity
  rw [ht, mem_alerts_insert_iff] at hx hy
  -- Of two open alerts of one entity, either both were there before or one is a rival of the new one.
  rcases hx with rfl | ⟨hx, hxid⟩
  · rcases hy with rfl | ⟨hy, hyid⟩
    · rfl
    · exact absurd (hrival hxopen y hy hyopen hentity.symm) hyid
  · rcases hy with rfl | ⟨hy, hyid⟩
    · exact absurd (hrival hyopen x hx hxopen hentity) hxid
    · exact hone x hx y hy hxopen hyopen hentity

/-- No call of the store breaks the invariant, whatever its arguments are. -/
theorem oneOpen_stable : Stable (fun _ => True) OneOpen where
  effect _ heffect hone := by
    cases heffect with
    | newAlert hnone =>
        apply hone.insert rfl
        intro _ b hmem hopen hentity
        exact absurd ⟨b, hmem, hopen, hentity⟩ (openAlert_eq_none_iff.1 hnone)
    | alert hknown hrival => exact hone.insert rfl ((openRival?_eq_none_iff hone).1 hrival)
    -- All other effects leave the alerts alone.
    | _ => exact hone
  bumpSupplier s id hone := by
    unfold bumpSupplierRisk
    split <;> exact hone
  bumpPart s id hone := by
    unfold bumpPartRisk
    split <;> exact hone

theorem insertAlert_eq_ok {s' : Store} {draft : AlertDraft}
    (hok : s.insertAlert draft = .ok (a, s')) :
    a = .ofDraft ⟨nextNumber s.alerts⟩ draft ∧ s'.alerts = s.alerts.insert a := by
  unfold insertAlert at hok
  split at hok
  · cases hok
  · cases hok
    exact ⟨rfl, rfl⟩

theorem updateAlert_eq_ok {s' : Store} {u : Unit} (hok : s.perform (.updateAlert a) = .ok (u, s')) :
    s'.alerts = s.alerts.insert a := by
  cases perform_effect hok with
  | nothing hreads => cases hreads
  | alert hknown hrival => rfl

/-- The alerts that a call can write. -/
theorem alerts_of_effect {s' : Store} {c : StoreCall} (heffect : s.Effect c s') :
    s'.alerts = s.alerts ∨
      (∃ draft, c = .insertAlert draft ∧
        s'.alerts = s.alerts.insert (.ofDraft ⟨nextNumber s.alerts⟩ draft)) ∨
      ∃ a, c = .updateAlert a ∧ s'.alerts = s.alerts.insert a := by
  cases heffect with
  | newAlert hnone => exact .inr (.inl ⟨_, rfl, rfl⟩)
  | alert hknown hrival => exact .inr (.inr ⟨_, rfl, rfl⟩)
  | _ => exact .inl rfl

/-! ## The invariant and the calls -/

/-- **One open alert per entity, whoever calls.**  Every call keeps the invariant.  Opening an alert is
refused exactly for an entity that has an open one; writing an alert exactly when its number is unknown, or
when it is open and another alert of its entity is open too.  A refused call leaves the store as it was, and
one that succeeds leaves all other alerts alone. -/
theorem one_open_alert_whoever_calls (s : Store) (hone : s.OneOpen) :
    (∀ c, (s.afterCall c).OneOpen) ∧
    (∀ draft e, s.answerTo (.insertAlert draft) = .error e ↔
      ∃ b ∈ s.alerts.rows, b.isOpen = true ∧ b.entity = draft.entity ∧
        e = alreadyOpen draft.entity b) ∧
    (∀ a e, s.answerTo (.updateAlert a) = .error e ↔
      ¬ s.KnowsAlert a.id ∧ e = .recordNotFound a.id.text ∨
      s.KnowsAlert a.id ∧ a.isOpen = true ∧
        ∃ b ∈ s.alerts.rows, b.isOpen = true ∧ b.entity = a.entity ∧ b.id ≠ a.id ∧
          e = alreadyOpen a.entity b) ∧
    (∀ c e, s.answerTo c = .error e → s.afterCall c = s) ∧
    (∀ draft a, s.AlertNumbersFit → s.answerTo (.insertAlert draft) = .ok a →
      a = .ofDraft a.id draft ∧ ¬ s.KnowsAlert a.id ∧
        ∀ b, b ∈ (s.afterCall (.insertAlert draft)).alerts.rows ↔ b = a ∨ b ∈ s.alerts.rows) ∧
    (∀ a, s.answerTo (.updateAlert a) = .ok () →
      ∀ b, b ∈ (s.afterCall (.updateAlert a)).alerts.rows ↔
        b = a ∨ b ∈ s.alerts.rows ∧ b.id ≠ a.id) ∧
    (∀ c, (∀ draft, c ≠ .insertAlert draft) → (∀ a, c ≠ .updateAlert a) →
      (s.afterCall c).alerts = s.alerts) := by
  refine ⟨fun c => ?_, fun draft e => ?_, fun a e => ?_, fun c e => afterCall_of_error,
    fun draft a hfit hok => ?_, fun a hok b => ?_, fun c hinsert hupdate => ?_⟩
  · exact FaultyStore.perform_stable oneOpen_stable trivial hone
  · rw [answerTo_eq_error_iff]
    exact insertAlert_eq_error_iff hone
  · rw [answerTo_eq_error_iff, ← updateAlert_eq_error_iff hone]
    exact map_eq_error_iff
  · have hperform : s.insertAlert draft = .ok (a, s.afterCall (.insertAlert draft)) :=
      answerTo_eq_ok_iff.1 hok
    obtain ⟨ha, hafter⟩ := insertAlert_eq_ok hperform
    -- A new number is greater than all that are taken.
    have hfresh : ¬ s.KnowsAlert a.id := by
      rintro ⟨b, hmem, hid⟩
      have hlt : b.id.value.toNat < (nextNumber s.alerts).toNat := lt_nextNumber hmem hfit
      rw [hid, ha] at hlt
      exact Nat.lt_irrefl _ hlt
    refine ⟨by rw [ha]; rfl, hfresh, fun b => ?_⟩
    rw [hafter, mem_alerts_insert_iff]
    have hother : b ∈ s.alerts.rows → b.id ≠ a.id := fun hmem hid => hfresh ⟨b, hmem, hid⟩
    exact or_congr_right ⟨And.left, fun hmem => ⟨hmem, hother hmem⟩⟩
  · have hperform : s.perform (.updateAlert a) = .ok ((), s.afterCall (.updateAlert a)) :=
      answerTo_eq_ok_iff.1 hok
    rw [updateAlert_eq_ok hperform, mem_alerts_insert_iff]
  · rcases afterCall_effect (s := s) c with hsame | heffect
    · rw [hsame]
    · rcases alerts_of_effect heffect with h | ⟨draft, hc, -⟩ | ⟨a, hc, -⟩
      · exact h
      · exact absurd hc (hinsert draft)
      · exact absurd hc (hupdate a)

def sampleDay : Date := ⟨19000, by decide, by decide⟩

def sampleDraft (supplier : SupplierId) : AlertDraft where
  entity := .supplier supplier
  level := .medium
  alertType := "manual"
  category := .quality
  message := ""
  openedAt := .midnight sampleDay
  eventPending := false

/-- An alert of the first supplier. -/
def sampleAlert (id : AlertId) (resolved : Bool) : Alert :=
  { Alert.ofDraft id (sampleDraft ⟨1⟩) with resolved }

/-- The first supplier has had two alerts, of which the first is resolved. -/
def twoAlerts : Store :=
  { empty with alerts := .ofList [sampleAlert ⟨1⟩ true, sampleAlert ⟨2⟩ false] }

/-- Reopening the resolved alert is refused, since the other one is open.  An alert of another supplier opens
beside both. -/
theorem reopening_is_refused :
    twoAlerts.OneOpen ∧ twoAlerts.AlertNumbersFit ∧
      twoAlerts.answerTo (.updateAlert (sampleAlert ⟨1⟩ false)) =
        .error (alreadyOpen (.supplier ⟨1⟩) (sampleAlert ⟨2⟩ false)) ∧
      ∀ b, b ∈ (twoAlerts.afterCall (.insertAlert (sampleDraft ⟨2⟩))).alerts.rows ↔
        b = .ofDraft ⟨3⟩ (sampleDraft ⟨2⟩) ∨ b ∈ twoAlerts.alerts.rows := by
  have hone : twoAlerts.OneOpen := by decide
  have hfit : twoAlerts.AlertNumbersFit := by decide
  obtain ⟨-, -, hupdate, -, hinsert, -⟩ := one_open_alert_whoever_calls twoAlerts hone
  refine ⟨hone, hfit, (hupdate _ _).2 (.inr ?_), ?_⟩
  · refine ⟨⟨sampleAlert ⟨1⟩ true, .head _, rfl⟩, rfl, sampleAlert ⟨2⟩ false, .tail _ (.head _),
      rfl, rfl, ?_, rfl⟩
    decide
  · exact (hinsert (sampleDraft ⟨2⟩) (.ofDraft ⟨3⟩ (sampleDraft ⟨2⟩)) hfit rfl).2.2

end Store

end SupplyRisk

import SupplyRisk.Proofs.Alert.Reconcile
import SupplyRisk.Proofs.Level
import SupplyRisk.Proofs.Store.RiskRecord

/-!
# Alerts that agree with risk records

A store is consistent when every open alert belongs to an entity whose stored record is at medium or above, and
shows at least that level.  The two sides are written by separate calls.  A record that is saved at another level
leaves the store inconsistent until the alert of its entity has been reconciled with that level
(`Consistent.settle`).  Other writes change no level (`sameLevels_stable`) or only the event of an alert
(`Agrees.recordEvent`).
-/

namespace SupplyRisk

namespace Store

structure Consistent (s : Store) : Prop where
  oneOpen : s.OneOpen
  covers : ∀ a ∈ s.alerts.rows, a.isOpen = true →
    ∃ r, s.riskRecord? a.entity = some r ∧ .medium ≤ r.level ∧ r.level ≤ a.level

variable {s t : Store} {r : RiskRecord}

@[simp] theorem alerts_putRisk (s : Store) (r : RiskRecord) : (s.putRisk r).alerts = s.alerts := by
  cases r <;> rfl

@[simp] theorem riskRecord?_putAlert (s : Store) (a : Alert) (entity : EntityRef) :
    (s.putAlert a).riskRecord? entity = s.riskRecord? entity := by
  cases entity <;> rfl

end Store

/-! ## Writes that change no level -/

/-- Calls that write neither an alert nor a record that exists already. -/
def StoreCall.quiet : StoreCall → Bool
  | .saveSupplierRisk _ | .savePartRisk _ => false
  | .insertAlert _ | .updateAlert _ => false
  | _ => true

theorem StoreCall.savedRisk?_of_quiet {c : StoreCall} (hquiet : c.quiet = true) :
    c.savedRisk? = none := by
  cases c <;> first | rfl | cases hquiet

namespace Store

variable {s t : Store} {r : RiskRecord}

/-- The second store has the alerts of the first one, and its risk records at the same levels. -/
structure SameLevels (s t : Store) : Prop where
  alerts : t.alerts = s.alerts
  levels : ∀ entity r, s.riskRecord? entity = some r →
    ∃ r', t.riskRecord? entity = some r' ∧ r'.level = r.level

theorem SameLevels.refl (s : Store) : s.SameLevels s := ⟨rfl, fun _ r hstored => ⟨r, hstored, rfl⟩⟩

theorem SameLevels.trans {u : Store} (hst : s.SameLevels t) (htu : t.SameLevels u) :
    s.SameLevels u := by
  refine ⟨htu.alerts.trans hst.alerts, fun entity r hstored => ?_⟩
  obtain ⟨r', hstored', hlevel⟩ := hst.levels entity r hstored
  obtain ⟨r'', hstored'', hlevel'⟩ := htu.levels entity r' hstored'
  exact ⟨r'', hstored'', hlevel'.trans hlevel⟩

/-- A record is put over one of the same level, or where there was none. -/
theorem sameLevels_putRisk
    (hsame : ∀ r', s.riskRecord? r.entity = some r' → r.level = r'.level) :
    s.SameLevels (s.putRisk r) := by
  refine ⟨alerts_putRisk s r, fun entity r' hstored => ?_⟩
  rw [riskRecord?_putRisk]
  by_cases hentity : r.entity = entity
  · subst hentity
    exact ⟨r, if_pos rfl, hsame r' hstored⟩
  · exact ⟨r', (if_neg hentity).trans hstored, rfl⟩

theorem sameLevels_bumpRisk (s : Store) (entity : EntityRef) : s.SameLevels (s.bumpRisk entity) := by
  cases hstored : s.riskRecord? entity with
  | none =>
      rw [bumpRisk_of_none hstored]
      exact .refl s
  | some r =>
      rw [bumpRisk_of_some hstored]
      refine sameLevels_putRisk fun r' hstored' => ?_
      rw [RiskRecord.entity_next, entity_of_riskRecord? hstored, hstored] at hstored'
      cases hstored'
      exact RiskRecord.level_next r

theorem sameLevels_of_quiet {c : StoreCall} (hquiet : c.quiet = true) (heffect : s.Effect c t) :
    s.SameLevels t := by
  have halerts : t.alerts = s.alerts := by
    rcases alerts_of_effect heffect with h | ⟨draft, rfl, -⟩ | ⟨a, rfl, -⟩
    · exact h
    · cases hquiet
    · cases hquiet
  rcases riskRecord?_of_effect heffect with hframe | ⟨threshold, entity, habsent, rfl⟩ | ⟨r, hr, -⟩
  · exact ⟨halerts, fun entity r hstored => ⟨r, (hframe entity).trans hstored, rfl⟩⟩
  · refine sameLevels_putRisk fun r' hstored => ?_
    rw [RiskRecord.entity_fresh, habsent] at hstored
    cases hstored
  · rw [StoreCall.savedRisk?_of_quiet hquiet] at hr
    cases hr

/-- Quiet calls and foreign saves keep all levels. -/
theorem sameLevels_stable (s : Store) : Stable (fun c => c.quiet = true) s.SameLevels where
  effect hquiet heffect hsame := hsame.trans (sameLevels_of_quiet hquiet heffect)
  bumpSupplier t id hsame := hsame.trans (sameLevels_bumpRisk t (.supplier id))
  bumpPart t id hsame := hsame.trans (sameLevels_bumpRisk t (.part id))

/-- Scripts of quiet calls keep all levels, however they end. -/
theorem sameLevels_of_quiet_script {α : Type} {x : Script α}
    (hx : x.Only (fun c => c.quiet = true)) (f : FaultyStore) :
    f.store.SameLevels (x.run f).2.store :=
  Script.run_stable (sameLevels_stable f.store) hx f (.refl f.store)

theorem Consistent.of_sameLevels (hcons : s.Consistent) (hsame : s.SameLevels t) :
    t.Consistent where
  oneOpen := hcons.oneOpen.congr hsame.alerts
  covers := by
    intro a hmem hopen
    rw [hsame.alerts] at hmem
    obtain ⟨r, hstored, hmedium, hle⟩ := hcons.covers a hmem hopen
    obtain ⟨r', hstored', hlevel⟩ := hsame.levels a.entity r hstored
    rw [← hlevel] at hmedium hle
    exact ⟨r', hstored', hmedium, hle⟩

theorem Consistent.quiet {α : Type} {x : Script α} {f : FaultyStore} (hcons : f.store.Consistent)
    (hx : x.Only (fun c => c.quiet = true)) : (x.run f).2.store.Consistent :=
  hcons.of_sameLevels (sameLevels_of_quiet_script hx f)

end Store

/-! ## Saves -/

/-- The record that an accepted save answers with. -/
def StoreCall.answeredRisk? : (c : StoreCall) → Except RiskError c.Answer → Option RiskRecord
  | .saveSupplierRisk _, .ok record => some (.supplier record)
  | .savePartRisk _, .ok record => some (.part record)
  | _, _ => none

theorem StoreCall.answeredRisk?_error (c : StoreCall) (e : RiskError) :
    c.answeredRisk? (.error e) = none := by
  cases c <;> rfl

namespace FaultyStore

variable {f : FaultyStore} {c : StoreCall} {r : RiskRecord}

/-- A call that is given up changes no level. -/
theorem sameLevels_giveUp (f : FaultyStore) (c : StoreCall) : f.store.SameLevels (f.giveUp c).store :=
  giveUp_stable (Store.sameLevels_stable f.store) c (.refl f.store)

theorem pass_save (hsave : c.savedRisk? = some r) (f : FaultyStore) :
    (∃ e, f.pass c = (.error e, f)) ∨
      ∃ answer, c.answeredRisk? (.ok answer) = some r.next ∧
        f.pass c = (.ok answer, { f with store := f.store.putRisk r.next }) := by
  unfold pass
  cases hperform : f.store.perform c with
  | error e => exact .inl ⟨e, rfl⟩
  | ok result =>
      obtain ⟨answer, t⟩ := result
      refine .inr ⟨answer, ?_⟩
      cases c with
      | saveSupplierRisk record =>
          cases hsave
          obtain ⟨-, -, rfl, rfl⟩ := Store.saveSupplierRisk_eq_ok_iff.1 hperform
          exact ⟨rfl, rfl⟩
      | savePartRisk record =>
          cases hsave
          obtain ⟨-, -, rfl, rfl⟩ := Store.savePartRisk_eq_ok_iff.1 hperform
          exact ⟨rfl, rfl⟩
      | _ => cases hsave

/-- A save is refused, or puts the next record; a foreign writer may have saved before. -/
theorem perform_save (hsave : c.savedRisk? = some r) (f : FaultyStore) :
    ∃ s, f.store.SameLevels s ∧
      ((∃ e, (f.perform c).1 = .error e ∧ (f.perform c).2.store = s) ∨
        ∃ answer, c.answeredRisk? (.ok answer) = some r.next ∧ (f.perform c).1 = .ok answer ∧
          (f.perform c).2.store = s.putRisk r.next) := by
  obtain ⟨g, hg, hsame⟩ : ∃ g, f.perform c = FaultyStore.pass g c ∧ f.store.SameLevels g.store := by
    cases c with
    | saveSupplierRisk record =>
        refine ⟨_, rfl, raceWriter_stable (fun s hsame => ?_) (.refl f.store)⟩
        exact hsame.trans (Store.sameLevels_bumpRisk s (.supplier record.supplier))
    | savePartRisk record =>
        refine ⟨_, rfl, raceWriter_stable (fun s hsame => ?_) (.refl f.store)⟩
        exact hsame.trans (Store.sameLevels_bumpRisk s (.part record.part))
    | _ => cases hsave
  refine ⟨g.store, hsame, ?_⟩
  rw [hg]
  rcases pass_save hsave g with ⟨e, hpass⟩ | ⟨answer, hanswer, hpass⟩
  · rw [hpass]
    exact .inl ⟨e, rfl, rfl⟩
  · rw [hpass]
    exact .inr ⟨answer, hanswer, rfl, rfl⟩

end FaultyStore

/-! ## Reconciling -/

/-- After reconciling, an open alert of the entity shows at least the level, which is medium or above, and there
is one if the level is medium or above.  Open alerts of other entities were there before. -/
theorem AlertContext.Reconciles.alerts {c : AlertContext} {now : Instant} {s t : Store}
    {alert : Option Alert} (hone : s.OneOpen) (hdoes : c.Reconciles now s alert t) :
    (∀ b ∈ t.alerts.rows, b.isOpen = true →
      b.entity = c.entity ∧ .medium ≤ c.level ∧ c.level ≤ b.level ∨
        b.entity ≠ c.entity ∧ b ∈ s.alerts.rows) ∧
    (.medium ≤ c.level → t.HasOpenAlert c.entity) ∧
    (∀ a, alert = some a → a ∈ t.alerts.rows) ∧
    ∀ entity, t.riskRecord? entity = s.riskRecord? entity := by
  -- What was open before and is not the alert of the entity belongs to another entity.
  have hother {a b : Alert} (hopen : s.openAlert c.entity = some a) (hmem : b ∈ s.alerts.rows)
      (hb : b.isOpen = true) (hne : b.id ≠ a.id) : b.entity ≠ c.entity := by
    intro hentity
    obtain ⟨ha, haopen, haentity⟩ := Store.of_openAlert hopen
    exact hne (congrArg Alert.id (hone b hmem a ha hb haopen (hentity.trans haentity.symm)))
  have hself (a : Alert) (x : Store) : a ∈ (x.putAlert a).alerts.rows :=
    mem_insertRow_self a x.alerts.rows
  cases hdoes with
  | idle hnone hlow =>
      refine ⟨fun b hmem hopen => ?_, fun hmedium => ?_, fun a ha => (nomatch ha), fun _ => rfl⟩
      · exact .inr ⟨fun h => Store.openAlert_eq_none_iff.1 hnone ⟨b, hmem, hopen, h⟩, hmem⟩
      · exact absurd hlow (Level.medium_le_iff.1 hmedium)
  | @opens a hnone hlevel ha =>
      refine ⟨fun b hmem hopen => ?_, fun _ => ?_, fun x hx => ?_,
        fun _ => Store.riskRecord?_putAlert ..⟩
      · rcases Store.mem_alerts_insert_iff.1 hmem with rfl | ⟨hmem, -⟩
        · rw [ha]
          exact .inl ⟨rfl, hlevel, Level.le_refl c.level⟩
        · exact .inr ⟨fun h => Store.openAlert_eq_none_iff.1 hnone ⟨b, hmem, hopen, h⟩, hmem⟩
      · refine ⟨a, hself a s, ?_, ?_⟩
        · rw [ha]
          rfl
        · rw [ha]
          rfl
      · cases hx
        exact hself a s
  | @resolves a hopen hlow =>
      refine ⟨fun b hmem hb => ?_, fun hmedium => ?_, fun x hx => ?_,
        fun _ => Store.riskRecord?_putAlert ..⟩
      · rcases Store.mem_alerts_insert_iff.1 hmem with rfl | ⟨hmem, hne⟩
        · cases hb
        · exact .inr ⟨hother hopen hmem hb hne, hmem⟩
      · exact absurd hlow (Level.medium_le_iff.1 hmedium)
      · cases hx
        exact hself _ s
  | @escalates a hopen hlt =>
      obtain ⟨-, haopen, haentity⟩ := Store.of_openAlert hopen
      refine ⟨fun b hmem hb => ?_, fun _ => ?_, fun x hx => ?_,
        fun _ => Store.riskRecord?_putAlert ..⟩
      · rcases Store.mem_alerts_insert_iff.1 hmem with rfl | ⟨hmem, hne⟩
        · exact .inl ⟨haentity, Level.medium_le_iff.2 (Level.ne_low_of_lt hlt), Level.le_refl c.level⟩
        · exact .inr ⟨hother hopen hmem hb hne, hmem⟩
      · exact ⟨c.escalated a c.level now, hself _ s, haopen, haentity⟩
      · cases hx
        exact hself _ s
  | @keeps a hopen hlow hle =>
      obtain ⟨hmem, haopen, haentity⟩ := Store.of_openAlert hopen
      refine ⟨fun b hb hbopen => ?_, fun _ => ⟨a, hmem, haopen, haentity⟩, fun x hx => ?_,
        fun _ => rfl⟩
      · by_cases hentity : b.entity = c.entity
        · have hsame : b = a := hone b hb a hmem hbopen haopen (hentity.trans haentity.symm)
          rw [hsame]
          exact .inl ⟨haentity, Level.medium_le_iff.2 hlow, Level.not_lt.1 hle⟩
        · exact .inr ⟨hentity, hb⟩
      · cases hx
        exact hmem

/-- The level of a record that was just saved is the one its alert is reconciled with, so both agree again. -/
theorem Store.Consistent.settle {s t : Store} {r : RiskRecord} {c : AlertContext} {now : Instant}
    {alert : Option Alert} (hcons : s.Consistent) (hentity : c.entity = r.entity)
    (hlevel : c.level = r.level) (hdoes : c.Reconciles now (s.putRisk r) alert t)
    (hone : t.OneOpen) :
    t.Consistent ∧ t.riskRecord? r.entity = some r ∧
      (t.HasOpenAlert r.entity ↔ .medium ≤ r.level) ∧ ∀ a, alert = some a → a ∈ t.alerts.rows := by
  have honePut : (s.putRisk r).OneOpen := hcons.oneOpen.congr (alerts_putRisk s r)
  obtain ⟨hopen, hhas, halert, hrisk⟩ := hdoes.alerts honePut
  rw [hentity, hlevel] at hopen hhas
  have hstored : t.riskRecord? r.entity = some r := by
    rw [hrisk, riskRecord?_putRisk, if_pos rfl]
  -- Only the alert of the saved entity is judged by the new record; all others keep theirs.
  refine ⟨⟨hone, fun a hmem ha => ?_⟩, hstored, ⟨?_, hhas⟩, halert⟩
  · rcases hopen a hmem ha with ⟨haentity, hmedium, hle⟩ | ⟨hne, hold⟩
    · rw [haentity]
      exact ⟨r, hstored, hmedium, hle⟩
    · rw [alerts_putRisk] at hold
      rw [hrisk, riskRecord?_putRisk, if_neg (fun h => hne h.symm)]
      exact hcons.covers a hold ha
  · rintro ⟨a, hmem, ha, haentity⟩
    rcases hopen a hmem ha with ⟨-, hmedium, -⟩ | ⟨hne, -⟩
    · exact hmedium
    · exact absurd haentity hne

/-- The record of an entity without an open alert may be at any level. -/
theorem Store.Consistent.putRisk {s : Store} {r : RiskRecord} (hcons : s.Consistent)
    (hnone : s.openAlert r.entity = none) : (s.putRisk r).Consistent where
  oneOpen := hcons.oneOpen.congr (alerts_putRisk s r)
  covers a hmem hopen := by
    rw [alerts_putRisk] at hmem
    have hne : r.entity ≠ a.entity := fun h => openAlert_eq_none_iff.1 hnone ⟨a, hmem, hopen, h.symm⟩
    rw [riskRecord?_putRisk, if_neg hne]
    exact hcons.covers a hmem hopen

/-! ## Events of alerts -/

/-- The same alert, but for its event. -/
structure Alert.Agrees (a b : Alert) : Prop where
  id : b.id = a.id
  isOpen : b.isOpen = a.isOpen
  entity : b.entity = a.entity
  level : b.level = a.level

namespace Store

variable {s t u : Store} {a : Alert}

/-- Two stores with the same risk records and, but for their events, the same alerts. -/
structure Agrees (s t : Store) : Prop where
  risks : ∀ entity, t.riskRecord? entity = s.riskRecord? entity
  forth : ∀ a ∈ s.alerts.rows, ∃ b ∈ t.alerts.rows, a.Agrees b
  back : ∀ b ∈ t.alerts.rows, ∃ a ∈ s.alerts.rows, a.Agrees b

theorem Agrees.refl (s : Store) : s.Agrees s :=
  ⟨fun _ => rfl, fun a hmem => ⟨a, hmem, rfl, rfl, rfl, rfl⟩,
    fun a hmem => ⟨a, hmem, rfl, rfl, rfl, rfl⟩⟩

/-- Settling the event of an alert keeps the rest of it. -/
theorem Agrees.recordEvent (hagrees : s.Agrees t) (hmem : a ∈ s.alerts.rows)
    (event : Option EventId) : s.Agrees (t.putAlert (a.recordEvent event)) where
  risks entity := (riskRecord?_putAlert t _ entity).trans (hagrees.risks entity)
  forth b hb := by
    obtain ⟨b', hb', hsame⟩ := hagrees.forth b hb
    by_cases hid : b'.id = a.id
    · have hba : b = a := Roster.eq_of_rank_eq hb hmem (AlertId.toNat_inj.2 (hsame.id.symm.trans hid))
      exact ⟨a.recordEvent event, mem_insertRow_self _ _, by rw [hba]; exact ⟨rfl, rfl, rfl, rfl⟩⟩
    · exact ⟨b', mem_alerts_insert_iff.2 (.inr ⟨hb', hid⟩), hsame⟩
  back b hb := by
    rcases mem_alerts_insert_iff.1 hb with rfl | ⟨hb, -⟩
    · exact ⟨a, hmem, rfl, rfl, rfl, rfl⟩
    · exact hagrees.back b hb

theorem Agrees.hasOpenAlert_iff (hagrees : s.Agrees t) (entity : EntityRef) :
    t.HasOpenAlert entity ↔ s.HasOpenAlert entity := by
  constructor
  · rintro ⟨b, hmem, hopen, hentity⟩
    obtain ⟨a, ha, hsame⟩ := hagrees.back b hmem
    exact ⟨a, ha, hsame.isOpen.symm.trans hopen, hsame.entity.symm.trans hentity⟩
  · rintro ⟨a, hmem, hopen, hentity⟩
    obtain ⟨b, hb, hsame⟩ := hagrees.forth a hmem
    exact ⟨b, hb, hsame.isOpen.trans hopen, hsame.entity.trans hentity⟩

theorem Consistent.of_agrees (hcons : s.Consistent) (hagrees : s.Agrees t) : t.Consistent where
  oneOpen x hx y hy hxopen hyopen hentity := by
    obtain ⟨a, ha, hax⟩ := hagrees.back x hx
    obtain ⟨b, hb, hby⟩ := hagrees.back y hy
    have hab : a = b := by
      refine hcons.oneOpen a ha b hb (hax.isOpen.symm.trans hxopen) (hby.isOpen.symm.trans hyopen) ?_
      rw [← hax.entity, ← hby.entity, hentity]
    subst hab
    exact Roster.eq_of_rank_eq hx hy (AlertId.toNat_inj.2 (hax.id.trans hby.id.symm))
  covers b hmem hopen := by
    obtain ⟨a, ha, hsame⟩ := hagrees.back b hmem
    obtain ⟨r, hstored, hmedium, hle⟩ := hcons.covers a ha (hsame.isOpen.symm.trans hopen)
    rw [hsame.entity, hsame.level]
    exact ⟨r, (hagrees.risks a.entity).trans hstored, hmedium, hle⟩

/-- Resolving an alert takes nothing from the other ones. -/
theorem Consistent.resolve {id : AlertId} {resolver : Option String} {now : Instant}
    (hcons : s.Consistent) (hdoes : Resolves id resolver now s t) : t.Consistent := by
  cases hdoes with
  | leaves hnone => exact hcons
  | @closes a hmem hid hopen =>
      refine ⟨hcons.oneOpen.insert rfl fun h => (nomatch h), fun b hb hbopen => ?_⟩
      rw [riskRecord?_putAlert]
      rcases mem_alerts_insert_iff.1 hb with rfl | ⟨hb, -⟩
      · cases hbopen
      · exact hcons.covers b hb hbopen

end Store

end SupplyRisk

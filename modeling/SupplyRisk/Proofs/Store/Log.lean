import SupplyRisk.Proofs.Store.Unversioned
import SupplyRisk.Proofs.Suggestion

/-!
# Alerts and the event log

Alerts and events are what an engine tells the world about risks.  Most calls leave both of them alone
(`sameLog_stable`).  A new event gets the next number, so it stands behind all others as long as numbers fit their
word (`rows_insert_of_next`), and numbers that are taken once stay taken (`Roster.Holds.insert`).
-/

namespace SupplyRisk

/-- The roster has a row for every rank of the other one. -/
def Roster.Holds {α : Type} [Ranked α] (r old : Roster α) : Prop :=
  ∀ a ∈ old.rows, ∃ b ∈ r.rows, Ranked.rank b = Ranked.rank a

namespace Roster.Holds

variable {α : Type} [Ranked α] {r old older : Roster α}

theorem refl (r : Roster α) : r.Holds r := fun a hmem => ⟨a, hmem, rfl⟩

theorem trans (hr : r.Holds old) (hold : old.Holds older) : r.Holds older := by
  intro a hmem
  obtain ⟨b, hb, hba⟩ := hold a hmem
  obtain ⟨c, hc, hcb⟩ := hr b hb
  exact ⟨c, hc, hcb.trans hba⟩

/-- Ranks stay in use. -/
theorem insert (hr : r.Holds old) (a : α) : (r.insert a).Holds old := by
  intro b hmem
  obtain ⟨c, hc, hcb⟩ := hr b hmem
  by_cases hrank : Ranked.rank c = Ranked.rank a
  · exact ⟨a, mem_insertRow_self a r.rows, hrank.symm.trans hcb⟩
  · exact ⟨c, mem_insert_iff.2 (.inr ⟨hc, hrank⟩), hcb⟩

/-- Room above the ranks of a roster is room above the ranks it had before. -/
theorem fit (hr : r.Holds old) {n : Nat} (hfit : ∀ a ∈ r.rows, Ranked.rank a + 1 < n) :
    ∀ a ∈ old.rows, Ranked.rank a + 1 < n := by
  intro a hmem
  obtain ⟨b, hb, hba⟩ := hr a hmem
  rw [← hba]
  exact hfit b hb

end Roster.Holds

/-- The entity is one of those that the event affects. -/
def EventDraft.Affects (d : EventDraft) : EntityRef → Prop
  | .supplier id => id ∈ d.affectedSuppliers.rows
  | .part id => id ∈ d.affectedParts.rows

/-- The entity is one of those that the event affects. -/
def RiskEvent.Affects (event : RiskEvent) : EntityRef → Prop
  | .supplier id => id ∈ event.affectedSuppliers.rows
  | .part id => id ∈ event.affectedParts.rows

theorem RiskEvent.affects_ofDraft {id : EventId} {d : EventDraft} {entity : EntityRef} :
    (RiskEvent.ofDraft id d).Affects entity ↔ d.Affects entity := by
  cases entity <;> exact Iff.rfl

/-- Calls that write neither an alert nor an event. -/
def StoreCall.leavesLog : StoreCall → Bool
  | .insertAlert _ | .updateAlert _ | .insertEvent _ | .resolveEvent _ _ _ => false
  | _ => true

theorem StoreCall.leavesLog_of_recommends {c : StoreCall} (hc : c.recommends = true) :
    c.leavesLog = true := by
  cases c <;> first | rfl | cases hc

namespace Store

variable {s t u : Store} {a : Alert} {entity : EntityRef}

/-- Every stored event number leaves room for a greater one. -/
def EventNumbersFit (s : Store) : Prop := ∀ event ∈ s.events.rows, event.id.value.toNat + 1 < Word.count64

instance (s : Store) : Decidable s.EventNumbersFit :=
  inferInstanceAs (Decidable (∀ event ∈ s.events.rows, event.id.value.toNat + 1 < Word.count64))

/-- The second store has the alerts and the events of the first one. -/
structure SameLog (s t : Store) : Prop where
  alerts : t.alerts = s.alerts
  events : t.events = s.events

namespace SameLog

theorem refl (s : Store) : s.SameLog s := ⟨rfl, rfl⟩

theorem trans (hst : s.SameLog t) (htu : t.SameLog u) : s.SameLog u :=
  ⟨htu.alerts.trans hst.alerts, htu.events.trans hst.events⟩

theorem openAlert (hsame : s.SameLog t) (entity : EntityRef) : t.openAlert entity = s.openAlert entity := by
  rw [Store.openAlert, hsame.alerts, Store.openAlert]

end SameLog

theorem sameLog_putRisk (s : Store) (r : RiskRecord) : s.SameLog (s.putRisk r) := by
  cases r <;> exact ⟨rfl, rfl⟩

theorem sameLog_bumpRisk (s : Store) (entity : EntityRef) : s.SameLog (s.bumpRisk entity) := by
  cases hstored : s.riskRecord? entity with
  | none =>
      rw [bumpRisk_of_none hstored]
      exact .refl s
  | some r =>
      rw [bumpRisk_of_some hstored]
      exact s.sameLog_putRisk r.next

/-- Calls about anything else leave alerts and events alone, and so do the saves of foreign writers. -/
theorem sameLog_stable (s : Store) : Stable (fun c => c.leavesLog = true) s.SameLog where
  effect hleaves heffect hsame := by
    cases heffect with
    | newAlert hnone => cases hleaves
    | alert hknown hrival => cases hleaves
    | newEvent draft => cases hleaves
    | event notes on hfind => cases hleaves
    | _ => exact ⟨hsame.alerts, hsame.events⟩
  bumpSupplier t id hsame := hsame.trans (t.sameLog_bumpRisk (.supplier id))
  bumpPart t id hsame := hsame.trans (t.sameLog_bumpRisk (.part id))

theorem sameLog_of_script {α : Type} {x : Script α} (hx : x.Only (fun c => c.leavesLog = true))
    (f : FaultyStore) : f.store.SameLog (x.run f).2.store :=
  Script.run_stable (sameLog_stable f.store) hx f (.refl f.store)

/-- A row with the next number stands behind all others. -/
theorem rows_insert_of_next {α : Type} [Ranked α] {r : Roster α} {a : α}
    (hnext : Ranked.rank a = (nextNumber r).toNat) (hfit : ∀ b ∈ r.rows, Ranked.rank b + 1 < Word.count64) :
    (r.insert a).rows = r.rows ++ [a] := by
  refine Roster.rows_insert_of_gt fun b hmem => ?_
  rw [hnext]
  exact lt_nextNumber hmem hfit

end Store

end SupplyRisk

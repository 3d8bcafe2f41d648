import SupplyRisk.Alert.Dispatch
import SupplyRisk.Proofs.Level
import SupplyRisk.Proofs.Outranking
import SupplyRisk.Proofs.Store.OpenAlert

/-!
# What is sent out

`mem_dueSince_iff` says which notifications are due, by the alerts alone, and `pairwise_dueSince` how they stand.
Alerts with different numbers are never on a par, so the order in which they are listed does not matter.  The sink may
be anything that has a state and answers: it goes through the due notifications one by one, is asked nothing else, and
its answers make the report (`run_dispatchTo`).
-/

namespace SupplyRisk

namespace Notification

variable {a b : Notification}

/-- More severe, or as severe and of an earlier alert. -/
def Before (a b : Notification) : Prop :=
  b.severity < a.severity ∨ a.severity = b.severity ∧ a.alert.value < b.alert.value

instance (a b : Notification) : Decidable (a.Before b) := inferInstanceAs (Decidable (_ ∨ _))

/-- Notifications are sorted by their severity, then by the alert. -/
theorem le_iff (a b : Notification) : le a b = true ↔
    b.severity.rank < a.severity.rank ∨
      a.severity.rank = b.severity.rank ∧ a.alert.value.toNat ≤ b.alert.value.toNat := by
  simp [le, UInt64.le_iff_toNat_le]

theorem before_iff_outranks : a.Before b ↔ Outranks (·.severity.rank) (·.alert.value.toNat) a b := by
  simp only [Before, Outranks, Level.lt_iff, Level.rank_inj, UInt64.lt_iff_toNat_lt]

end Notification

/-- The alert is open, and neither its escalation, if there was one, nor else its opening lies before the cutoff. -/
def Alert.DueSince (a : Alert) (cutoff : Instant) : Prop :=
  a.resolved = false ∧ cutoff.le (a.escalatedAt.getD a.openedAt) = true

instance (a : Alert) (cutoff : Instant) : Decidable (a.DueSince cutoff) := inferInstanceAs (Decidable (_ ∧ _))

section Due

variable {alerts alerts' : List Alert} {cutoff : Instant} {n : Notification}

/-- Due are the notifications of the due alerts, with what the alerts say. -/
theorem mem_dueSince_iff : n ∈ dueSince alerts cutoff ↔
    ∃ a ∈ alerts, a.DueSince cutoff ∧ n = ⟨a.id, a.entity, a.level, a.message, a.escalatedAt.getD a.openedAt⟩ := by
  unfold dueSince
  simp only [List.mem_mergeSort, List.mem_map, List.mem_filter, Bool.and_eq_true, Alert.isOpen, Bool.not_eq_true',
    Alert.lastActivity, Notification.ofAlert, and_assoc, Alert.DueSince]
  constructor
  · rintro ⟨a, hmem, hopen, hrecent, rfl⟩
    exact ⟨a, hmem, hopen, hrecent, rfl⟩
  · rintro ⟨a, hmem, hopen, hrecent, rfl⟩
    exact ⟨a, hmem, hopen, hrecent, rfl⟩

theorem nodup_dueSince (hdistinct : (alerts.map (·.id)).Nodup) : ((dueSince alerts cutoff).map (·.alert)).Nodup := by
  unfold dueSince
  dsimp only
  refine ((List.mergeSort_perm _ _).map Notification.alert).nodup_iff.2 ?_
  rw [List.map_map]
  exact hdistinct.sublist (List.filter_sublist.map _)

/-- The order is strict, since no two notifications are of one alert. -/
theorem pairwise_dueSince (hdistinct : (alerts.map (·.id)).Nodup) :
    (dueSince alerts cutoff).Pairwise Notification.Before := by
  have hnumbers : (((dueSince alerts cutoff).map (·.alert)).map (·.value.toNat)).Nodup :=
    (nodup_dueSince hdistinct).map fun i i' hsame => AlertId.toNat_inj.1 hsame
  rw [List.map_map] at hnumbers
  exact (pairwise_outranks Notification.le_iff hnumbers).imp Notification.before_iff_outranks.2

/-- The order in which alerts are listed does not matter. -/
theorem dueSince_perm (hdistinct : (alerts.map (·.id)).Nodup) (hperm : alerts'.Perm alerts) :
    dueSince alerts' cutoff = dueSince alerts cutoff := by
  have hdistinct' : (alerts'.map (·.id)).Nodup := (hperm.map (·.id)).nodup_iff.2 hdistinct
  refine eq_of_outranks ((pairwise_dueSince hdistinct).imp Notification.before_iff_outranks.1)
    ((pairwise_dueSince hdistinct').imp Notification.before_iff_outranks.1) fun n => ?_
  simp only [mem_dueSince_iff, hperm.mem_iff]

/-- Where no entity has two open alerts, no two notifications are of one entity. -/
theorem nodup_entities_dueSince {s : Store} (hone : s.OneOpen) (cutoff : Instant) :
    ((dueSince s.alerts.rows cutoff).map (·.entity)).Nodup := by
  have hnumbers : (s.alerts.rows.map (·.id)).Nodup :=
    List.pairwise_map.2 (s.alerts.ascending.imp fun {a b} hlt hsame => Nat.ne_of_lt hlt (AlertId.toNat_inj.2 hsame))
  have halerts : ((dueSince s.alerts.rows cutoff).map (·.alert)).Nodup := nodup_dueSince hnumbers
  refine List.Nodup.map_on (fun n hn n' hn' hentity => ?_) (halerts.of_map _)
  obtain ⟨a, ha, hdue, rfl⟩ := mem_dueSince_iff.1 hn
  obtain ⟨b, hb, hdue', rfl⟩ := mem_dueSince_iff.1 hn'
  obtain rfl := hone a ha b hb (by simp [Alert.isOpen, hdue.1]) (by simp [Alert.isOpen, hdue'.1]) hentity
  rfl

end Due

section Offers

variable {σ : Type} {notify : Notification → StateM σ (Option RiskError)} {sink : Sink} {offers : List Notification}

/-- The report on offers that have been answered in this way. -/
def DispatchReport.ofAnswers (offers : List Notification) (answers : List (Option RiskError)) : DispatchReport where
  accepted := ((offers.zip answers).filter (·.2.isNone)).map Prod.fst
  failed := (offers.zip answers).filterMap fun offer => offer.2.map (Failure.ofError offer.1.entity .alertDispatch)

theorem run_mapM_cons (n : Notification) (s : σ) :
    ((n :: offers).mapM notify).run s =
      (((notify n).run s).1 :: ((offers.mapM notify).run ((notify n).run s).2).1,
        ((offers.mapM notify).run ((notify n).run s).2).2) := by
  rw [List.mapM_cons]
  rfl

/-- What is added one after the other comes in one behind the other. -/
theorem run_foldlM_add (r : DispatchReport) (s : σ) :
    (offers.foldlM (fun report n => return report.add n (← notify n)) r : StateM σ DispatchReport).run s =
      (⟨r.accepted ++ (DispatchReport.ofAnswers offers ((offers.mapM notify).run s).1).accepted,
        r.failed ++ (DispatchReport.ofAnswers offers ((offers.mapM notify).run s).1).failed⟩,
        ((offers.mapM notify).run s).2) := by
  induction offers generalizing r s with
  | nil =>
      rw [List.foldlM_nil, List.mapM_nil]
      simp only [DispatchReport.ofAnswers, List.zip_nil_left, List.filter_nil, List.map_nil, List.filterMap_nil,
        List.append_nil]
      rfl
  | cons n rest ih =>
      have hfold : (List.foldlM (fun report n => return report.add n (← notify n)) r (n :: rest) :
          StateM σ DispatchReport).run s =
          (rest.foldlM (fun report n => return report.add n (← notify n)) (r.add n ((notify n).run s).1) :
            StateM σ DispatchReport).run ((notify n).run s).2 := by
        rw [List.foldlM_cons]
        rfl
      rw [hfold, ih, run_mapM_cons]
      cases ((notify n).run s).1 with
      | none => simp [DispatchReport.add, DispatchReport.ofAnswers]
      | some e => simp [DispatchReport.add, DispatchReport.ofAnswers]

/-- The sink is offered each notification once, in the order in which they stand, and nothing else is done to it. -/
theorem run_dispatchTo (notify : Notification → StateM σ (Option RiskError)) (offers : List Notification) (s : σ) :
    (dispatchTo notify offers).run s =
      (.ofAnswers offers ((offers.mapM notify).run s).1, ((offers.mapM notify).run s).2) := by
  rw [dispatchTo, run_foldlM_add]
  rfl

theorem length_answers (notify : Notification → StateM σ (Option RiskError)) (offers : List Notification) (s : σ) :
    ((offers.mapM notify).run s).1.length = offers.length := by
  induction offers generalizing s with
  | nil => rfl
  | cons n rest ih => rw [run_mapM_cons, List.length_cons, ih, List.length_cons]

theorem sent_ofAnswers {answers : List (Option RiskError)} (hlength : answers.length = offers.length) :
    (DispatchReport.ofAnswers offers answers).sent = answers.countP (·.isNone) := by
  have hanswers : (offers.zip answers).map Prod.snd = answers := List.map_snd_zip (by omega)
  rw [DispatchReport.sent, DispatchReport.ofAnswers, List.length_map, ← List.countP_eq_length_filter]
  conv => rhs; rw [← hanswers, List.countP_map]
  rfl

/-- No answer is left out. -/
theorem sent_add_failed {answers : List (Option RiskError)} (hlength : answers.length = offers.length) :
    (DispatchReport.ofAnswers offers answers).sent + (DispatchReport.ofAnswers offers answers).failed.length =
      offers.length := by
  have hpairs (pairs : List (Notification × Option RiskError)) :
      (pairs.filter (·.2.isNone)).length +
        (pairs.filterMap fun offer => offer.2.map (Failure.ofError offer.1.entity .alertDispatch)).length =
        pairs.length := by
    induction pairs with
    | nil => rfl
    | cons pair rest ih =>
        obtain ⟨n, answer⟩ := pair
        cases answer with
        | none =>
            simp at ih ⊢
            omega
        | some e =>
            simp at ih ⊢
            omega
  have hzip : (offers.zip answers).length = offers.length := by
    rw [List.length_zip]
    omega
  rw [DispatchReport.sent, DispatchReport.ofAnswers, List.length_map, hpairs, hzip]

/-- What fails has been offered. -/
theorem failed_sublist_offers (sink : Sink) (offers : List Notification) :
    ((dispatch sink offers).failed.map (·.entity)).Sublist (offers.map (·.entity)) := by
  have hpairs (pairs : List (Notification × Option RiskError)) :
      ((pairs.filterMap fun offer => offer.2.map (Failure.ofError offer.1.entity .alertDispatch)).map
        (·.entity)).Sublist (pairs.map fun offer => offer.1.entity) := by
    induction pairs with
    | nil => exact .slnil
    | cons pair rest ih =>
        obtain ⟨n, answer⟩ := pair
        cases answer with
        | none => exact ih.cons _
        | some e => exact ih.cons_cons _
  have hanswers := List.map_fst_zip (Nat.le_of_eq (length_answers sink.notify offers []).symm)
  have hall := hpairs (offers.zip ((offers.mapM sink.notify).run []).1)
  have hoffers := congrArg (List.map fun n : Notification => n.entity) hanswers
  rw [List.map_map] at hoffers
  rw [dispatch, run_dispatchTo, ← hoffers]
  exact hall

/-- A sink remembers what it has been offered. -/
theorem offered_of_mapM (sink : Sink) (offers offered : List Notification) :
    ((offers.mapM sink.notify).run offered).2 = offered ++ offers := by
  induction offers generalizing offered with
  | nil => exact (List.append_nil offered).symm
  | cons n rest ih =>
      have hanswer : (sink.notify n).run offered = (sink.refusal? offered n, offered ++ [n]) := rfl
      rw [run_mapM_cons, hanswer, ih, List.append_assoc, List.singleton_append]

end Offers

/-- **What is sent out.**  Let alerts have different numbers and let the cutoff, so many hours before now, be in the
calendar.  Then every open alert whose last activity is not before the cutoff has one notification, with its entity,
level, message and last activity, and no other alert has one.  The more severe come first, and among equals those of
earlier alerts, however the alerts are listed.  Whatever the sink is, with a state of any kind, dispatching asks it for
an answer to each of these notifications once and in this order, and does nothing else to it; accepted notifications are
counted as sent and refused ones reported as failed, in the same order.  A sink that remembers what it is offered ends
up with just these, and it can answer them by any pattern. -/
theorem alerts_sent_out {alerts : List Alert} (hdistinct : (alerts.map (·.id)).Nodup) {now cutoff : Instant}
    {lookbackHours : UInt32} (hcutoff : now.subHours? lookbackHours.toNat = some cutoff) :
    ∃ offers, dueNotifications? alerts now lookbackHours = some offers ∧
      (offers.map (·.alert)).Nodup ∧
      (∀ n, n ∈ offers ↔ ∃ a ∈ alerts, a.DueSince cutoff ∧
        n = ⟨a.id, a.entity, a.level, a.message, a.escalatedAt.getD a.openedAt⟩) ∧
      offers.Pairwise Notification.Before ∧
      (∀ alerts', alerts'.Perm alerts → dueNotifications? alerts' now lookbackHours = some offers) ∧
      (∀ (σ : Type) (notify : Notification → StateM σ (Option RiskError)) (s : σ),
        ∃ answers t report,
          (offers.mapM notify).run s = (answers, t) ∧ answers.length = offers.length ∧
          (dispatchTo notify offers).run s = (report, t) ∧
          report.accepted = ((offers.zip answers).filter (·.2.isNone)).map Prod.fst ∧
          report.sent = answers.countP (·.isNone) ∧
          report.failed = (offers.zip answers).filterMap (fun offer =>
            offer.2.map (Failure.ofError offer.1.entity .alertDispatch)) ∧
          report.sent + report.failed.length = offers.length) ∧
      (∀ sink : Sink, (dispatchTo sink.notify offers).run [] = (dispatch sink offers, offers)) ∧
      ∀ answers : Nat → Option RiskError, ∃ sink : Sink,
        ∀ i (hi : i < offers.length), sink.refusal? (offers.take i) (offers.get ⟨i, hi⟩) = answers i := by
  have hdue (alerts' : List Alert) :
      dueNotifications? alerts' now lookbackHours = some (dueSince alerts' cutoff) := by
    rw [dueNotifications?, hcutoff]
    rfl
  refine ⟨dueSince alerts cutoff, hdue alerts, nodup_dueSince hdistinct, fun n => mem_dueSince_iff,
    pairwise_dueSince hdistinct, ?_, ?_, ?_, ?_⟩
  · intro alerts' hperm
    rw [hdue, dueSince_perm hdistinct hperm]
  · intro σ notify s
    have hlength := length_answers notify (dueSince alerts cutoff) s
    exact ⟨_, _, _, rfl, hlength, run_dispatchTo notify _ s, rfl, sent_ofAnswers hlength, rfl, sent_add_failed hlength⟩
  · intro sink
    have hoffered := offered_of_mapM sink (dueSince alerts cutoff) []
    rw [List.nil_append] at hoffered
    rw [dispatch, run_dispatchTo, hoffered]
  · intro answers
    refine ⟨⟨fun offered _ => answers offered.length⟩, fun i hi => ?_⟩
    exact congrArg answers (List.length_take_of_le (Nat.le_of_lt hi))

/-- Midnight at the start of 10 June 2026. -/
def juneMidnight : Instant := .midnight ⟨20614, by decide, by decide⟩

/-- The instant so many hours before that midnight. -/
def beforeMidnight (hours : Nat) : Instant := (juneMidnight.subHours? hours).getD juneMidnight

/-- An alert of the part with the same number. -/
def partAlert (number : UInt64) (level : Level) (opened : Instant) : Alert :=
  .ofDraft ⟨number⟩ ⟨.part ⟨number⟩, level, "supply_chain_risk", .supply, "", opened, false⟩

/-- The first alert was opened exactly at the cutoff and the second before it, the third is resolved, and the fourth
has long been open but was escalated lately. -/
def juneAlerts : List Alert :=
  [partAlert 1 .medium (beforeMidnight 24), partAlert 2 .high (beforeMidnight 30),
    (partAlert 3 .high (beforeMidnight 1)).resolve juneMidnight none,
    (partAlert 4 .high (beforeMidnight 72)).escalate .critical "worse" (beforeMidnight 2)]

/-- A line that is busy at first: it counts the calls, and refuses the first one. -/
def busyLine (n : Notification) : StateM Nat (Option RiskError) := fun calls =>
  (if calls = 0 then some (.dispatch ("no line for " ++ n.alert.text)) else none, calls + 1)

/-- Of these alerts the fourth and the first are sent out, in this order.  The line is called twice; it refuses the
fourth, and the first is sent all the same. -/
theorem escalated_alert_goes_first :
    (juneAlerts.map (·.id)).Nodup ∧ juneMidnight.subHours? (24 : UInt32).toNat = some (beforeMidnight 24) ∧
      ∃ offers, dueNotifications? juneAlerts.reverse juneMidnight 24 = some offers ∧
        offers =
          [⟨⟨4⟩, .part ⟨4⟩, .critical, "worse", beforeMidnight 2⟩,
            ⟨⟨1⟩, .part ⟨1⟩, .medium, "", beforeMidnight 24⟩] ∧
        ∃ report, (dispatchTo busyLine offers).run 0 = (report, 2) ∧ report.sent = 1 ∧
          report.accepted = [⟨⟨1⟩, .part ⟨1⟩, .medium, "", beforeMidnight 24⟩] ∧
          report.failed =
            [⟨.part ⟨4⟩, .alertDispatch, "dispatch", "Notification dispatch failed: no line for alert#4"⟩] := by
  have hdistinct : (juneAlerts.map (·.id)).Nodup := by decide
  have hcutoff : juneMidnight.subHours? (24 : UInt32).toNat = some (beforeMidnight 24) := by decide
  obtain ⟨offers, -, -, hmem, hordered, hperm, hsinks, -⟩ := alerts_sent_out hdistinct hcutoff
  let sent : List Notification :=
    [⟨⟨4⟩, .part ⟨4⟩, .critical, "worse", beforeMidnight 2⟩, ⟨⟨1⟩, .part ⟨1⟩, .medium, "", beforeMidnight 24⟩]
  have hsame (n : Notification) : n ∈ offers ↔ n ∈ sent := by
    rw [hmem]
    constructor
    · rintro ⟨a, ha, hdue, rfl⟩
      revert a
      decide
    · intro hn
      revert n
      decide
  have hsentOrdered : sent.Pairwise Notification.Before := by decide
  have hoffers : offers = sent :=
    eq_of_outranks (hsentOrdered.imp Notification.before_iff_outranks.1)
      (hordered.imp Notification.before_iff_outranks.1) hsame
  refine ⟨hdistinct, hcutoff, offers, hperm _ (List.reverse_perm juneAlerts), hoffers, ?_⟩
  obtain ⟨answers, t, report, hanswers, -, hrun, haccepted, hsent, hfailed, -⟩ := hsinks Nat busyLine 0
  rw [hoffers] at hanswers haccepted hfailed
  have hcalls : (sent.mapM busyLine).run 0 = ([some (.dispatch "no line for alert#4"), none], 2) := by
    rw [run_mapM_cons, run_mapM_cons]
    rfl
  rw [hcalls] at hanswers
  cases hanswers
  refine ⟨report, hrun, ?_, ?_, ?_⟩
  · rw [hsent]
    rfl
  · rw [haccepted]
    rfl
  · rw [hfailed]
    decide

end SupplyRisk

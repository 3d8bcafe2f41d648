import SupplyRisk.Engine.Run
import SupplyRisk.Proofs.Alert.Owed
import SupplyRisk.Proofs.Engine.Drafts
import SupplyRisk.Proofs.Store.Numbered

/-!
# Writes

All that work on an entity does to a store comes down to three kinds of `Write`: a risk record over the one of its
entity, an alert with the event that it owed, and a suggestion.  What is new gets the next number; whether there is one
for all that is new in a list of writes is a matter of how many there are (`Store.RoomFor`).  A write that is about one
entity leaves alone what work on another one reads (`SameFor.write`).
-/

namespace SupplyRisk

/-- Comes in where there is something to come in. -/
def Roster.insert? {α : Type} [Ranked α] (r : Roster α) : Option α → Roster α
  | none => r
  | some a => r.insert a

namespace Roster

variable {α : Type} [Ranked α] {r : Roster α} {o p : Option α} {b : α}

theorem mem_insert?_iff :
    b ∈ (r.insert? o).rows ↔ o = some b ∨ b ∈ r.rows ∧ ∀ a, o = some a → Ranked.rank b ≠ Ranked.rank a := by
  cases o with
  | none => simp [insert?]
  | some a =>
      simp only [insert?, mem_insert_iff, Option.some.injEq]
      constructor
      · rintro (rfl | ⟨hmem, hne⟩)
        · exact .inl rfl
        · exact .inr ⟨hmem, fun c hc => hc ▸ hne⟩
      · rintro (rfl | ⟨hmem, hne⟩)
        · exact .inl rfl
        · exact .inr ⟨hmem, hne a rfl⟩

theorem insert?_comm (hrank : ∀ a b, o = some a → p = some b → Ranked.rank a ≠ Ranked.rank b) :
    (r.insert? o).insert? p = (r.insert? p).insert? o := by
  cases o with
  | none => rfl
  | some a =>
      cases p with
      | none => rfl
      | some b => exact insert_comm (hrank a b rfl rfl)

theorem holds_insert? (r : Roster α) (o : Option α) : (r.insert? o).Holds r := by
  cases o with
  | none => exact .refl r
  | some a => exact (Holds.refl r).insert a

/-- What comes in takes a number if it is new, and none if it goes over another row. -/
theorem hasRoom_insert? {isNew : Bool} {count : Nat}
    (hnew : isNew = true → ∃ a, o = some a ∧ Ranked.rank a = (Store.nextNumber r).toNat)
    (hold : isNew = false → ∀ a, o = some a → ∃ b ∈ r.rows, Ranked.rank b = Ranked.rank a) :
    r.HasRoom (count + if isNew then 1 else 0) ↔
      (isNew = true → Store.hasNext r = true) ∧ (r.insert? o).HasRoom count := by
  cases isNew with
  | true =>
      obtain ⟨a, rfl, hnext⟩ := hnew rfl
      exact (HasRoom.succ_iff hnext).trans (and_congr_left' ⟨fun h _ => h, fun h => h rfl⟩)
  | false =>
      rw [and_iff_right fun h => nomatch h]
      cases o with
      | none => exact Iff.rfl
      | some a => exact (HasRoom.insert_iff (hold rfl a rfl)).symm

end Roster

/-- The alert under a new number, if it is new. -/
def Alert.numbered (a : Alert) (isNew : Bool) (id : AlertId) : Alert := if isNew then { a with id } else a

/-- What work on an entity writes. -/
inductive Write where
  | risk (record : RiskRecord)
  /-- An alert over the one of its number, or a new alert; its event is logged along with it and recorded on it. -/
  | alert (isNew : Bool) (alert : Alert) (event : Option EventDraft)
  | suggestion (draft : RecommendationDraft)

/-- The numbers of the next alert, event and suggestion. -/
structure Numbers where
  alert : UInt64
  event : UInt64
  recommendation : UInt64

namespace Write

/-- The entity that a write is about. -/
def entity : Write → EntityRef
  | risk record => record.entity
  | alert _ a _ => a.entity
  | suggestion draft => .part draft.part

/-- Whether the write takes the next alert number. -/
def opens : Write → Bool
  | alert isNew _ _ => isNew
  | _ => false

/-- Whether the write takes the next event number. -/
def logs : Write → Bool
  | alert _ _ event => event.isSome
  | _ => false

/-- Whether the write takes the next number of suggestions. -/
def suggests : Write → Bool
  | suggestion _ => true
  | _ => false

def supplierRisk? : Write → Option SupplierRisk
  | risk (.supplier record) => some record
  | _ => none

def partRisk? : Write → Option PartRisk
  | risk (.part record) => some record
  | _ => none

def alertAt? (n : Numbers) : Write → Option Alert
  | alert isNew a event =>
      let a := a.numbered isNew ⟨n.alert⟩
      some (if event.isSome then a.recordEvent (some ⟨n.event⟩) else a)
  | _ => none

def eventAt? (n : Numbers) : Write → Option RiskEvent
  | alert _ _ event => event.map (.ofDraft ⟨n.event⟩)
  | _ => none

def recommendationAt? (n : Numbers) : Write → Option Recommendation
  | suggestion draft => some (.ofDraft ⟨n.recommendation⟩ draft)
  | _ => none

end Write

namespace Store

/-- The numbers that come next. -/
def next (s : Store) : Numbers := ⟨nextNumber s.alerts, nextNumber s.events, nextNumber s.recommendations⟩

/-- The store after a write, where what is new gets one of these numbers. -/
def writeAt (s : Store) (n : Numbers) (w : Write) : Store :=
  { s with
    supplierRisks := s.supplierRisks.insert? w.supplierRisk?
    partRisks := s.partRisks.insert? w.partRisk?
    alerts := s.alerts.insert? (w.alertAt? n)
    events := s.events.insert? (w.eventAt? n)
    recommendations := s.recommendations.insert? (w.recommendationAt? n) }

/-- The store after a write. -/
def write (s : Store) (w : Write) : Store := s.writeAt s.next w

/-- The store after writes, one after the other. -/
def writes (s : Store) (ws : List Write) : Store := ws.foldl write s

variable {s t u : Store} {w : Write} {z : EntityRef}

theorem write_risk (s : Store) (r : RiskRecord) : s.write (.risk r) = s.putRisk r := by cases r <;> rfl

theorem write_alert (s : Store) (isNew : Bool) (a : Alert) :
    s.write (.alert isNew a none) = s.putAlert (a.numbered isNew ⟨nextNumber s.alerts⟩) := rfl

theorem write_alert_logging (s : Store) (isNew : Bool) (a : Alert) (d : EventDraft) :
    s.write (.alert isNew a (some d)) = s.logFor d (a.numbered isNew ⟨nextNumber s.alerts⟩) := rfl

theorem writes_cons (s : Store) (w : Write) (ws : List Write) : s.writes (w :: ws) = (s.write w).writes ws := rfl

theorem writes_append (s : Store) (ws us : List Write) : s.writes (ws ++ us) = (s.writes ws).writes us :=
  List.foldl_append

theorem writes_suggestions (s : Store) (drafts : List RecommendationDraft) :
    s.writes (drafts.map .suggestion) = drafts.foldl suggest s := List.foldl_map

/-- All numbers stay in use. -/
structure Holds (t s : Store) : Prop where
  alerts : t.alerts.Holds s.alerts
  events : t.events.Holds s.events
  recommendations : t.recommendations.Holds s.recommendations

theorem Holds.refl (s : Store) : s.Holds s := ⟨.refl _, .refl _, .refl _⟩

theorem Holds.trans (hut : u.Holds t) (hts : t.Holds s) : u.Holds s :=
  ⟨hut.alerts.trans hts.alerts, hut.events.trans hts.events, hut.recommendations.trans hts.recommendations⟩

theorem holds_writeAt (s : Store) (n : Numbers) (w : Write) : (s.writeAt n w).Holds s :=
  ⟨s.alerts.holds_insert? _, s.events.holds_insert? _, s.recommendations.holds_insert? _⟩

theorem holds_writes (s : Store) (ws : List Write) : (s.writes ws).Holds s := by
  induction ws generalizing s with
  | nil => exact .refl s
  | cons w ws ih => exact (ih (s.write w)).trans (s.holds_writeAt s.next w)

/-- An alert that is not new is written over one of its entity that refers to the same event; a new one refers to
none. -/
def Knows (s : Store) : Write → Prop
  | .alert false a _ => ∃ b ∈ s.alerts.rows, b.id = a.id ∧ b.entity = a.entity ∧ b.event = a.event
  | .alert true a _ => a.event = none
  | _ => True

/-! ## Room -/

/-- There is a number for what is new in a write. -/
structure Affords (s : Store) (w : Write) : Prop where
  alerts : w.opens = true → s.AlertNumbersFit
  events : w.logs = true → s.EventNumbersFit
  recommendations : w.suggests = true → s.RecommendationNumbersFit

/-- There are numbers for all that is new in the writes. -/
structure RoomFor (s : Store) (ws : List Write) : Prop where
  alerts : s.alerts.HasRoom (ws.countP (·.opens))
  events : s.events.HasRoom (ws.countP (·.logs))
  recommendations : s.recommendations.HasRoom (ws.countP (·.suggests))

theorem roomFor_nil (s : Store) : s.RoomFor [] where
  alerts := .zero fun a _ => a.id.value.toNat_lt
  events := .zero fun event _ => event.id.value.toNat_lt
  recommendations := .zero fun r _ => r.id.value.toNat_lt

/-- In another order the writes need the same room. -/
theorem RoomFor.perm {ws us : List Write} (hroom : s.RoomFor ws) (hperm : ws.Perm us) : s.RoomFor us where
  alerts := hperm.countP_eq _ ▸ hroom.alerts
  events := hperm.countP_eq _ ▸ hroom.events
  recommendations := hperm.countP_eq _ ▸ hroom.recommendations

/-- There is room for writes if there is for the first one, and for the others then. -/
theorem roomFor_cons {ws : List Write} (hknows : s.Knows w) :
    s.RoomFor (w :: ws) ↔ s.Affords w ∧ (s.write w).RoomFor ws := by
  -- An old alert keeps its number, and other writes leave the alerts alone.
  have halerts : s.alerts.HasRoom ((w :: ws).countP (·.opens)) ↔
      (w.opens = true → s.AlertNumbersFit) ∧ (s.write w).alerts.HasRoom (ws.countP (·.opens)) := by
    rw [List.countP_cons]
    refine (Roster.hasRoom_insert? (o := w.alertAt? s.next) (fun hopens => ?_) fun hopens a ha => ?_).trans
      (and_congr_left' (forall_congr' fun _ => hasNext_iff))
    · cases w with
      | alert isNew a event =>
          cases hopens
          exact ⟨_, rfl, by cases event <;> rfl⟩
      | _ => cases hopens
    · cases w with
      | alert isNew b event =>
          cases hopens
          obtain ⟨c, hc, hid, -⟩ := hknows
          cases ha
          refine ⟨c, hc, AlertId.toNat_inj.2 (hid.trans ?_)⟩
          cases event <;> rfl
      | _ => cases ha
  -- The same for events and suggestions.
  have hevents : s.events.HasRoom ((w :: ws).countP (·.logs)) ↔
      (w.logs = true → s.EventNumbersFit) ∧ (s.write w).events.HasRoom (ws.countP (·.logs)) := by
    rw [List.countP_cons]
    refine (Roster.hasRoom_insert? (o := w.eventAt? s.next) (fun hlogs => ?_) fun hlogs event hevent => ?_).trans
      (and_congr_left' (forall_congr' fun _ => hasNext_iff))
    · cases w with
      | alert isNew a event =>
          obtain ⟨d, rfl⟩ := Option.isSome_iff_exists.1 hlogs
          exact ⟨_, rfl, rfl⟩
      | _ => cases hlogs
    · cases w with
      | alert isNew a d =>
          cases d with
          | none => cases hevent
          | some d => cases hlogs
      | _ => cases hevent
  have hrecommendations : s.recommendations.HasRoom ((w :: ws).countP (·.suggests)) ↔
      (w.suggests = true → s.RecommendationNumbersFit) ∧
        (s.write w).recommendations.HasRoom (ws.countP (·.suggests)) := by
    rw [List.countP_cons]
    refine (Roster.hasRoom_insert? (o := w.recommendationAt? s.next) (fun hsuggests => ?_)
      fun hsuggests r hr => ?_).trans (and_congr_left' (forall_congr' fun _ => hasNext_iff))
    · cases w <;> cases hsuggests
      exact ⟨_, rfl, rfl⟩
    · cases w with
      | suggestion d => cases hsuggests
      | _ => cases hr
  constructor
  · rintro ⟨ha, he, hr⟩
    exact ⟨⟨(halerts.1 ha).1, (hevents.1 he).1, (hrecommendations.1 hr).1⟩,
      ⟨(halerts.1 ha).2, (hevents.1 he).2, (hrecommendations.1 hr).2⟩⟩
  · rintro ⟨haffords, hrest⟩
    exact ⟨halerts.2 ⟨haffords.alerts, hrest.alerts⟩, hevents.2 ⟨haffords.events, hrest.events⟩,
      hrecommendations.2 ⟨haffords.recommendations, hrest.recommendations⟩⟩

theorem roomFor_risk {r : RiskRecord} {ws : List Write} : s.RoomFor (.risk r :: ws) ↔ (s.putRisk r).RoomFor ws := by
  rw [roomFor_cons (w := .risk r) trivial, write_risk]
  exact and_iff_right ⟨nofun, nofun, nofun⟩

theorem roomFor_singleton (hknows : s.Knows w) : s.RoomFor [w] ↔ s.Affords w :=
  (roomFor_cons hknows).trans (and_iff_left (s.write w).roomFor_nil)

theorem roomFor_suggestions {drafts : List RecommendationDraft} :
    s.RoomFor (drafts.map .suggestion) ↔ s.recommendations.HasRoom drafts.length := by
  have hcount (test : Write → Bool) {b : Bool} (htest : ∀ d, test (.suggestion d) = b) :
      (drafts.map Write.suggestion).countP test = if b then drafts.length else 0 := by
    rw [List.countP_map, show test ∘ Write.suggestion = fun _ => b from funext htest]
    cases b
    · exact congrFun List.countP_false drafts
    · exact congrFun List.countP_true drafts
  refine ⟨fun hroom => ?_, fun hroom => ⟨?_, ?_, ?_⟩⟩
  · have hrecommendations := hroom.recommendations
    rwa [hcount _ fun _ => rfl] at hrecommendations
  · rw [hcount _ fun _ => rfl]
    exact s.roomFor_nil.alerts
  · rw [hcount _ fun _ => rfl]
    exact s.roomFor_nil.events
  · rwa [hcount _ fun _ => rfl]

/-- What is afforded later was afforded before. -/
theorem Holds.affords (hholds : t.Holds s) (hroom : t.Affords w) : s.Affords w where
  alerts hopens := hholds.alerts.fit (hroom.alerts hopens)
  events hlogs := hholds.events.fit (hroom.events hlogs)
  recommendations hsuggests := hholds.recommendations.fit (hroom.recommendations hsuggests)

/-! ## What work on an entity reads -/

/-- The stores are the same for what a pass does with the entity. -/
structure SameFor (pass : Pass) (z : EntityRef) (s t : Store) : Prop where
  inventory : t.inventory = s.inventory
  risk : t.riskRecord? z = s.riskRecord? z
  alert : pass ≠ .recommendations → t.openAlert z = s.openAlert z
  suggestions : pass = .recommendations → ∀ id, z = .part id →
    t.recommendationsForPart id = s.recommendationsForPart id

variable {pass : Pass}

theorem SameFor.refl (pass : Pass) (z : EntityRef) (s : Store) : SameFor pass z s s :=
  ⟨rfl, rfl, fun _ => rfl, fun _ _ _ => rfl⟩

theorem SameFor.trans (hst : SameFor pass z s t) (htu : SameFor pass z t u) : SameFor pass z s u where
  inventory := htu.inventory.trans hst.inventory
  risk := htu.risk.trans hst.risk
  alert hpass := (htu.alert hpass).trans (hst.alert hpass)
  suggestions hpass id hid := (htu.suggestions hpass id hid).trans (hst.suggestions hpass id hid)

/-- The number of an alert that is written is not that of an alert of another entity. -/
theorem free_of_knows {isNew : Bool} {a : Alert} {event : Option EventDraft} (hknows : s.Knows (.alert isNew a event))
    (hfit : isNew = true → s.AlertNumbersFit) (hentity : a.entity ≠ z) :
    ∀ c ∈ s.alerts.rows, c.entity = z → c.id ≠ (a.numbered isNew ⟨s.next.alert⟩).id := by
  intro c hc hcz hid
  cases isNew with
  | true =>
      have hlt : c.id.value.toNat < (nextNumber s.alerts).toNat := lt_nextNumber hc (hfit rfl)
      rw [hid] at hlt
      exact Nat.lt_irrefl _ hlt
  | false =>
      obtain ⟨b, hb, hbid, hbentity, -⟩ := hknows
      have hsame : c = b := Roster.eq_of_rank_eq hc hb (AlertId.toNat_inj.2 (hid.trans hbid.symm))
      exact hentity (hbentity.symm.trans (hsame ▸ hcz))

/-- The alert of another entity does not take the place of those of this one. -/
theorem openAlert_putAlert_of_other {b : Alert} (hentity : b.entity ≠ z)
    (hfree : ∀ c ∈ s.alerts.rows, c.entity = z → c.id ≠ b.id) : (s.putAlert b).openAlert z = s.openAlert z := by
  have hmem {c : Alert} (hc : c.entity = z) : c ∈ (s.putAlert b).alerts.rows ↔ c ∈ s.alerts.rows := by
    refine mem_alerts_insert_iff.trans ⟨?_, fun hmem => .inr ⟨hmem, hfree c hmem hc⟩⟩
    rintro (rfl | ⟨hmem, -⟩)
    · exact absurd hc hentity
    · exact hmem
  refine Option.ext fun a => ?_
  rw [openAlert_eq_some_iff_least, openAlert_eq_some_iff_least]
  constructor
  · rintro ⟨⟨hin, hopen, ha⟩, hleast⟩
    exact ⟨⟨(hmem ha).1 hin, hopen, ha⟩, fun c hc hcopen hcz => hleast c ((hmem hcz).2 hc) hcopen hcz⟩
  · rintro ⟨⟨hin, hopen, ha⟩, hleast⟩
    exact ⟨⟨(hmem ha).2 hin, hopen, ha⟩, fun c hc hcopen hcz => hleast c ((hmem hcz).1 hc) hcopen hcz⟩

theorem SameFor.write (pass : Pass) (hknows : s.Knows w) (hroom : s.Affords w) (hother : w.entity ≠ z) :
    SameFor pass z s (s.write w) := by
  cases w with
  | risk r =>
      rw [write_risk]
      refine ⟨s.inventory_putRisk r, ?_, fun _ => ?_, fun _ => ?_⟩
      · rw [riskRecord?_putRisk, if_neg (show r.entity ≠ z from hother)]
      · rw [openAlert, alerts_putRisk, openAlert]
      · cases r <;> exact fun _ _ => rfl
  | alert isNew a event =>
      have hfree := free_of_knows hknows hroom.alerts hother
      refine ⟨rfl, ?_, fun _ => ?_, fun _ _ _ => rfl⟩
      · cases z <;> rfl
      · cases event with
        | none =>
            refine openAlert_putAlert_of_other (s := s) ?_ hfree
            cases isNew <;> exact hother
        | some d =>
            refine openAlert_putAlert_of_other (s := s) ?_ hfree
            cases isNew <;> exact hother
  | suggestion d =>
      refine ⟨rfl, ?_, fun _ => rfl, fun _ id hid => ?_⟩
      · cases z <;> rfl
      · have hrows := rows_insert_of_next (a := Recommendation.ofDraft ⟨nextNumber s.recommendations⟩ d) rfl
          (hroom.recommendations rfl)
        have hne : d.part ≠ id := fun h => hother (hid ▸ congrArg EntityRef.part h)
        have hnone : [Recommendation.ofDraft ⟨nextNumber s.recommendations⟩ d].filter (fun r => r.part = id) = [] :=
          List.filter_cons_of_neg (mt of_decide_eq_true hne)
        show List.filter _ (s.recommendations.insert (.ofDraft ⟨nextNumber s.recommendations⟩ d)).rows = _
        rw [hrows, List.filter_append, hnone, List.append_nil, recommendationsForPart]

end Store

/-! ## Writes of different rows -/

/-- The writes do not write the same risk record, nor alerts of the same entity. -/
def Write.Apart : Write → Write → Prop
  | risk r, risk r' => r.entity ≠ r'.entity
  | alert _ a _, alert _ a' _ => a.entity ≠ a'.entity
  | _, _ => True

theorem Write.Apart.symm {w w' : Write} (hapart : w.Apart w') : w'.Apart w := by
  cases w <;> cases w' <;> first | trivial | exact Ne.symm hapart

theorem Write.apart_of_entity {w w' : Write} (hentity : w.entity ≠ w'.entity) : w.Apart w' := by
  cases w <;> cases w' <;> trivial

namespace Store

variable {s : Store} {w w' : Write} {ws : List Write} {pass : Pass} {z : EntityRef}

/-- Writes of other rows leave the alert alone that a write goes over. -/
theorem Knows.write (hknows : s.Knows w) (hknows' : s.Knows w') (hapart : w.Apart w') (hroom : s.Affords w') :
    (s.write w').Knows w := by
  cases w with
  | risk r => trivial
  | suggestion d => trivial
  | alert isNew a event =>
      cases isNew with
      | true => exact hknows
      | false =>
          obtain ⟨b, hb, hid, hentity, hevent⟩ := hknows
          refine ⟨b, ?_, hid, hentity, hevent⟩
          cases w' with
          | risk r =>
              rw [write_risk, alerts_putRisk]
              exact hb
          | suggestion d => exact hb
          | alert isNew' a' event' =>
              have hfree := free_of_knows hknows' hroom.alerts (Ne.symm hapart) b hb hentity
              refine Roster.mem_insert?_iff.2 (.inr ⟨hb, fun c hc => ?_⟩)
              cases hc
              refine mt AlertId.toNat_inj.1 ?_
              cases event' <;> exact hfree

/-- Writes that are known before any of them are known when it is their turn. -/
theorem knows_write (hknows : ∀ w' ∈ w :: ws, s.Knows w') (hapart : (w :: ws).Pairwise Write.Apart)
    (hroom : s.Affords w) : ∀ w' ∈ ws, (s.write w).Knows w' := by
  intro w' hw'
  exact (hknows w' (by simp [hw'])).write (hknows w (by simp)) ((List.pairwise_cons.1 hapart).1 w' hw').symm hroom

/-- Work on an entity does not notice writes about others. -/
theorem SameFor.writes (pass : Pass) (hknows : ∀ w ∈ ws, s.Knows w) (hapart : ws.Pairwise Write.Apart)
    (hroom : s.RoomFor ws) (hother : ∀ w ∈ ws, w.entity ≠ z) : SameFor pass z s (s.writes ws) := by
  induction ws generalizing s with
  | nil => exact .refl pass z s
  | cons w ws ih =>
      obtain ⟨hfirst, hrest⟩ := (roomFor_cons (hknows w (by simp))).1 hroom
      refine (SameFor.write pass (hknows w (by simp)) hfirst (hother w (by simp))).trans ?_
      exact ih (knows_write hknows hapart hfirst) (List.pairwise_cons.1 hapart).2 hrest
        (fun w' hw' => hother w' (by simp [hw']))

/-- There is room for writes and for others behind them, if there is room for all of them. -/
theorem roomFor_append {us : List Write} (hknows : ∀ w ∈ ws, s.Knows w) (hapart : ws.Pairwise Write.Apart) :
    s.RoomFor (ws ++ us) ↔ s.RoomFor ws ∧ (s.writes ws).RoomFor us := by
  induction ws generalizing s with
  | nil => exact (and_iff_right s.roomFor_nil).symm
  | cons w ws ih =>
      rw [List.cons_append, roomFor_cons (hknows w (by simp)), roomFor_cons (hknows w (by simp)), and_assoc]
      exact and_congr_right fun hroom => ih (knows_write hknows hapart hroom) (List.pairwise_cons.1 hapart).2

end Store

end SupplyRisk

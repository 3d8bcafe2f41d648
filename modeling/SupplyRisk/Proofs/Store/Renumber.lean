import SupplyRisk.Proofs.Store.Relabel

/-!
# Other numbers

What is new gets the next number, so the order in which things come in shows in their numbers, and in nothing else.
`Store.renumber` gives the alerts, events and suggestions of a store other numbers.  Writes of different rows come to
the same in any order up to one renumbering that moves none but the numbers that they have assigned (`writes_perm`),
as long as no alert refers to an event that is not there yet.
-/

namespace SupplyRisk

/-- Other numbers for alerts, events and suggestions. -/
structure Renumbering where
  alert : Equiv.Perm UInt64
  event : Equiv.Perm UInt64
  recommendation : Equiv.Perm UInt64

def Alert.renumber (σ : Renumbering) (a : Alert) : Alert :=
  { a with id := ⟨σ.alert a.id.value⟩, event := a.event.map fun event => ⟨σ.event event.value⟩ }

def RiskEvent.renumber (σ : Renumbering) (event : RiskEvent) : RiskEvent :=
  { event with id := ⟨σ.event event.id.value⟩ }

def Recommendation.renumber (σ : Renumbering) (r : Recommendation) : Recommendation :=
  { r with id := ⟨σ.recommendation r.id.value⟩ }

/-- The store with other numbers; alerts refer to their events by the other numbers too. -/
def Store.renumber (σ : Renumbering) (s : Store) : Store :=
  { s with
    alerts := s.alerts.relabel (·.renumber σ)
    events := s.events.relabel (·.renumber σ)
    recommendations := s.recommendations.relabel (·.renumber σ) }

/-- An alert refers to the same event, if the number of that is not moved. -/
theorem Alert.event_renumber {σ : Renumbering} {a : Alert}
    (hfixed : ∀ event, a.event = some event → σ.event event.value = event.value) :
    (a.renumber σ).event = a.event := by
  unfold Alert.renumber
  cases hsome : a.event with
  | none => rfl
  | some event => exact congrArg some (congrArg EventId.mk (hfixed event hsome))

theorem toNat_perm_inj {π : Equiv.Perm UInt64} {m n : UInt64} : (π m).toNat = (π n).toNat ↔ m.toNat = n.toNat := by
  rw [UInt64.toNat_inj, UInt64.toNat_inj, π.apply_eq_iff_eq]

namespace Renumbering

variable {σ τ : Renumbering}

theorem faithful_alert (σ : Renumbering) : Roster.Faithful (Alert.renumber σ) := fun _ _ => toNat_perm_inj

theorem faithful_event (σ : Renumbering) : Roster.Faithful (RiskEvent.renumber σ) := fun _ _ => toNat_perm_inj

theorem faithful_recommendation (σ : Renumbering) : Roster.Faithful (Recommendation.renumber σ) :=
  fun _ _ => toNat_perm_inj

/-- The numbers that take the place of these ones. -/
def numbers (σ : Renumbering) (n : Numbers) : Numbers :=
  ⟨σ.alert n.alert, σ.event n.event, σ.recommendation n.recommendation⟩

/-- One renumbering after the other. -/
def andThen (σ τ : Renumbering) : Renumbering :=
  ⟨σ.alert.trans τ.alert, σ.event.trans τ.event, σ.recommendation.trans τ.recommendation⟩

/-- No number is moved but those that are newly assigned from the first store to the second one. -/
structure Within (σ : Renumbering) (s t : Store) : Prop where
  alert : Roster.MovesAssigned σ.alert s.alerts t.alerts
  event : Roster.MovesAssigned σ.event s.events t.events
  recommendation : Roster.MovesAssigned σ.recommendation s.recommendations t.recommendations

variable {s t u : Store}

theorem Within.mono (hwithin : σ.Within s t) (hholds : u.Holds t) : σ.Within s u :=
  ⟨hwithin.alert.mono hholds.alerts, hwithin.event.mono hholds.events,
    hwithin.recommendation.mono hholds.recommendations⟩

theorem Within.anti (hwithin : σ.Within s t) (hholds : s.Holds u) : σ.Within u t :=
  ⟨hwithin.alert.anti hholds.alerts, hwithin.event.anti hholds.events,
    hwithin.recommendation.anti hholds.recommendations⟩

theorem Within.andThen (hσ : σ.Within s t) (hτ : τ.Within s t) : (σ.andThen τ).Within s t :=
  ⟨hσ.alert.trans hτ.alert, hσ.event.trans hτ.event, hσ.recommendation.trans hτ.recommendation⟩

/-- What a write says about numbers is left alone. -/
def Fixes (σ : Renumbering) : Write → Prop
  | .alert isNew a _ =>
      (isNew = false → σ.alert a.id.value = a.id.value) ∧
        ∀ event, a.event = some event → σ.event event.value = event.value
  | _ => True

end Renumbering

namespace Store

variable {s t u : Store} {σ τ : Renumbering} {w : Write} {ws : List Write} {n m : Numbers}

theorem renumber_renumber (s : Store) (σ τ : Renumbering) : (s.renumber σ).renumber τ = s.renumber (σ.andThen τ) := by
  have halert (a : Alert) : (a.renumber σ).renumber τ = a.renumber (σ.andThen τ) := by
    unfold Alert.renumber
    cases a.event <;> rfl
  simp only [renumber, Roster.relabel_relabel σ.faithful_alert τ.faithful_alert,
    Roster.relabel_relabel σ.faithful_event τ.faithful_event,
    Roster.relabel_relabel σ.faithful_recommendation τ.faithful_recommendation, halert]
  rfl

theorem alertAt?_renumber (hfixes : σ.Fixes w) (n : Numbers) :
    (w.alertAt? n).map (Alert.renumber σ) = w.alertAt? (σ.numbers n) := by
  cases w with
  | risk r => rfl
  | suggestion d => rfl
  | alert isNew a event =>
      obtain ⟨hid, hevent⟩ := hfixes
      have hlink : a.event.map (fun event => (⟨σ.event event.value⟩ : EventId)) = a.event :=
        Alert.event_renumber hevent
      have hnumbered : (a.numbered isNew ⟨n.alert⟩).renumber σ = a.numbered isNew ⟨σ.alert n.alert⟩ := by
        cases isNew with
        | true => simp only [Alert.numbered, Alert.renumber, if_true, hlink]
        | false => simp only [Alert.numbered, Alert.renumber, Bool.false_eq_true, if_false, hlink, hid rfl]
      cases event with
      | none => exact congrArg some hnumbered
      | some d => exact congrArg (fun b : Alert => some (b.recordEvent (some ⟨σ.event n.event⟩))) hnumbered

/-- A write under other numbers. -/
theorem renumber_writeAt (s : Store) (n : Numbers) (hfixes : σ.Fixes w) :
    (s.writeAt n w).renumber σ = (s.renumber σ).writeAt (σ.numbers n) w := by
  have hevent : (w.eventAt? n).map (RiskEvent.renumber σ) = w.eventAt? (σ.numbers n) := by
    cases w with
    | alert isNew a event => cases event <;> rfl
    | _ => rfl
  have hrecommendation :
      (w.recommendationAt? n).map (Recommendation.renumber σ) = w.recommendationAt? (σ.numbers n) := by
    cases w <;> rfl
  simp only [renumber, writeAt, Roster.relabel_insert? σ.faithful_alert, Roster.relabel_insert? σ.faithful_event,
    Roster.relabel_insert? σ.faithful_recommendation, alertAt?_renumber hfixes, hevent, hrecommendation]

/-- No alert of the first store refers to an event whose number is newly assigned from it to the second one. -/
def LinksApart (s t : Store) : Prop :=
  ∀ a ∈ s.alerts.rows, ∀ event, a.event = some event → ¬ s.events.Assigned t.events event.value

/-- Where alerts refer to events that are there, none refers to a later one. -/
theorem linksApart_of_linked
    (hlinked : ∀ a ∈ s.alerts.rows, ∀ event, a.event = some event → s.events.Uses event.value) : s.LinksApart t :=
  fun a ha event hevent hassigned => hassigned.2 (hlinked a ha event hevent)

/-- Moving new numbers does nothing to the store before them. -/
theorem renumber_of_within (hwithin : σ.Within s t) (hlinks : s.LinksApart t) : s.renumber σ = s := by
  have halerts : s.alerts.relabel (Alert.renumber σ) = s.alerts := by
    refine Roster.relabel_of_fixed σ.faithful_alert fun a ha => ?_
    have hid : σ.alert a.id.value = a.id.value := hwithin.alert.fixes_used ⟨a, ha, rfl⟩
    have hlink : a.event.map (fun event => (⟨σ.event event.value⟩ : EventId)) = a.event :=
      Alert.event_renumber fun event hevent => hwithin.event.fixes (hlinks a ha event hevent)
    rw [Alert.renumber, hid, hlink]
  have hevents : s.events.relabel (RiskEvent.renumber σ) = s.events := by
    refine Roster.relabel_of_fixed σ.faithful_event fun event hmem => ?_
    have hid : σ.event event.id.value = event.id.value := hwithin.event.fixes_used ⟨event, hmem, rfl⟩
    rw [RiskEvent.renumber, hid]
  have hrecommendations : s.recommendations.relabel (Recommendation.renumber σ) = s.recommendations := by
    refine Roster.relabel_of_fixed σ.faithful_recommendation fun r hr => ?_
    have hid : σ.recommendation r.id.value = r.id.value := hwithin.recommendation.fixes_used ⟨r, hr, rfl⟩
    rw [Recommendation.renumber, hid]
  simp only [renumber, halerts, hevents, hrecommendations]

/-- A store with other numbers has the same ones in use. -/
theorem holds_renumber (hwithin : σ.Within s t) : (t.renumber σ).Holds t ∧ t.Holds (t.renumber σ) := by
  have halerts := Roster.holds_relabel (r := t.alerts) (f := Alert.renumber σ) σ.faithful_alert
    (fun a => rfl) (fun a => rfl) fun n hn => (hwithin.alert n hn).1
  have hevents := Roster.holds_relabel (r := t.events) (f := RiskEvent.renumber σ) σ.faithful_event
    (fun event => rfl) (fun event => rfl) fun n hn => (hwithin.event n hn).1
  have hrecommendations := Roster.holds_relabel (r := t.recommendations) (f := Recommendation.renumber σ)
    σ.faithful_recommendation (fun r => rfl) (fun r => rfl) fun n hn => (hwithin.recommendation n hn).1
  exact ⟨⟨halerts.1, hevents.1, hrecommendations.1⟩, ⟨halerts.2, hevents.2, hrecommendations.2⟩⟩

theorem next_congr (hst : s.Holds t) (hts : t.Holds s) : s.next = t.next := by
  rw [next, next, nextNumber_congr hst.alerts hts.alerts, nextNumber_congr hst.events hts.events,
    nextNumber_congr hst.recommendations hts.recommendations]

/-- Only the numbers that a write takes matter to it. -/
theorem writeAt_congr (s : Store) (halert : w.opens = true → n.alert = m.alert)
    (hevent : w.logs = true → n.event = m.event)
    (hrecommendation : w.suggests = true → n.recommendation = m.recommendation) : s.writeAt n w = s.writeAt m w := by
  cases w with
  | risk r => rfl
  | suggestion d => simp only [writeAt, Write.alertAt?, Write.eventAt?, Write.recommendationAt?, hrecommendation rfl]
  | alert isNew a event =>
      have hnumbered : a.numbered isNew ⟨n.alert⟩ = a.numbered isNew ⟨m.alert⟩ := by
        cases isNew with
        | true => rw [halert rfl]
        | false => rfl
      cases event with
      | none => simp only [writeAt, Write.alertAt?, Write.eventAt?, Write.recommendationAt?, hnumbered]; rfl
      | some d => simp only [writeAt, Write.alertAt?, Write.eventAt?, Write.recommendationAt?, hnumbered, hevent rfl]

/-- A write goes along with other numbers, as the ones that it takes are not in use before. -/
theorem renumber_write (hwithin : σ.Within s t) (hfixes : σ.Fixes w) (hroom : t.Affords w) :
    (t.write w).renumber σ = (t.renumber σ).write w := by
  obtain ⟨hsame, hsame'⟩ := holds_renumber hwithin
  rw [write, renumber_writeAt t t.next hfixes, write, next_congr hsame hsame']
  exact writeAt_congr _ (fun hopens => hwithin.alert.fixes_unused (not_uses_nextNumber (hroom.alerts hopens)))
    (fun hlogs => hwithin.event.fixes_unused (not_uses_nextNumber (hroom.events hlogs)))
    fun hsuggests => hwithin.recommendation.fixes_unused (not_uses_nextNumber (hroom.recommendations hsuggests))

/-- Later writes go along with other numbers. -/
theorem renumber_writes (hwithin : σ.Within s t) (hfixes : ∀ w ∈ ws, σ.Fixes w) (hknows : ∀ w ∈ ws, t.Knows w)
    (hapart : ws.Pairwise Write.Apart) (hroom : t.RoomFor ws) :
    (t.writes ws).renumber σ = (t.renumber σ).writes ws := by
  induction ws generalizing t with
  | nil => rfl
  | cons w ws ih =>
      obtain ⟨hfirst, hrest⟩ := (roomFor_cons (hknows w (by simp))).1 hroom
      rw [writes_cons, writes_cons, ← renumber_write hwithin (hfixes w (by simp)) hfirst]
      exact ih (hwithin.mono (t.holds_writeAt t.next w)) (fun w' hw' => hfixes w' (by simp [hw']))
        (knows_write hknows hapart hfirst) (List.pairwise_cons.1 hapart).2 hrest

/-! ## Numbers that are assigned -/

theorem LinksApart.anti (hlinks : s.LinksApart t) (hholds : t.Holds u) : s.LinksApart u :=
  fun a ha event hevent hassigned => hlinks a ha event hevent ⟨hholds.events.uses hassigned.1, hassigned.2⟩

/-- What is known leaves new numbers alone. -/
theorem fixes_of_knows (hwithin : σ.Within s t) (hlinks : s.LinksApart t) (hknows : s.Knows w) : σ.Fixes w := by
  cases w with
  | risk r => trivial
  | suggestion d => trivial
  | alert isNew a event =>
      cases isNew with
      | true =>
          refine ⟨fun h => absurd h.symm Bool.false_ne_true, fun event hevent => ?_⟩
          cases hevent.symm.trans hknows
      | false =>
          obtain ⟨b, hb, hid, -, hlink⟩ := hknows
          refine ⟨fun _ => ?_, fun event hevent => ?_⟩
          · exact hwithin.alert.fixes_used ⟨b, hb, AlertId.toNat_inj.2 hid⟩
          · exact hwithin.event.fixes (hlinks b hb event (hlink.trans hevent))

end Store

namespace Write

variable {w : Write} {n : Numbers}

theorem of_supplierRisk? {r : SupplierRisk} (hrisk : w.supplierRisk? = some r) : w = .risk (.supplier r) := by
  cases w with
  | risk record =>
      cases record <;> cases hrisk
      rfl
  | _ => cases hrisk

theorem of_partRisk? {r : PartRisk} (hrisk : w.partRisk? = some r) : w = .risk (.part r) := by
  cases w with
  | risk record =>
      cases record <;> cases hrisk
      rfl
  | _ => cases hrisk

theorem of_eventAt? {event : RiskEvent} (hevent : w.eventAt? n = some event) :
    w.logs = true ∧ event.id.value = n.event := by
  cases w with
  | alert isNew a d =>
      cases d <;> cases hevent
      exact ⟨rfl, rfl⟩
  | _ => cases hevent

theorem of_recommendationAt? {r : Recommendation} (hr : w.recommendationAt? n = some r) :
    w.suggests = true ∧ r.id.value = n.recommendation := by
  cases w <;> cases hr
  exact ⟨rfl, rfl⟩

end Write

/-- The next numbers after a write. -/
def Numbers.after (n : Numbers) (w : Write) : Numbers :=
  ⟨if w.opens then n.alert + 1 else n.alert, if w.logs then n.event + 1 else n.event,
    if w.suggests then n.recommendation + 1 else n.recommendation⟩

namespace Store

variable {s t u : Store} {σ τ : Renumbering} {w w' : Write} {ws ws' : List Write} {n m : Numbers}

/-- A number that is taken is in use then. -/
theorem uses_writeAt (s : Store) (n : Numbers) (w : Write) :
    (w.opens = true → (s.writeAt n w).alerts.Uses n.alert) ∧ (w.logs = true → (s.writeAt n w).events.Uses n.event) ∧
      (w.suggests = true → (s.writeAt n w).recommendations.Uses n.recommendation) := by
  cases w with
  | risk r => refine ⟨fun h => ?_, fun h => ?_, fun h => ?_⟩ <;> cases h
  | suggestion d =>
      refine ⟨fun h => ?_, fun h => ?_, fun _ => ⟨_, Roster.mem_insert?_iff.2 (.inl rfl), rfl⟩⟩ <;> cases h
  | alert isNew a event =>
      refine ⟨fun h => ?_, fun h => ?_, fun h => absurd h Bool.false_ne_true⟩
      · cases h
        refine ⟨_, Roster.mem_insert?_iff.2 (.inl rfl), ?_⟩
        cases event <;> rfl
      · cases event with
        | none => cases h
        | some d => exact ⟨_, Roster.mem_insert?_iff.2 (.inl rfl), rfl⟩

theorem next_write (hknows : s.Knows w) (hroom : s.Affords w) : (s.write w).next = s.next.after w := by
  cases w with
  | risk r => rfl
  | suggestion d =>
      have hnext := nextNumber_insert_of_next (a := Recommendation.ofDraft ⟨nextNumber s.recommendations⟩ d) rfl
        (hroom.recommendations rfl)
      exact congrArg (Numbers.mk _ _) hnext
  | alert isNew a event =>
      have halert :
          nextNumber (s.write (.alert isNew a event)).alerts = (s.next.after (.alert isNew a event)).alert := by
        show nextNumber (s.alerts.insert _) = _
        cases isNew with
        | true =>
            refine nextNumber_insert_of_next ?_ (hroom.alerts rfl)
            cases event <;> rfl
        | false =>
            obtain ⟨b, hb, hid, -⟩ := hknows
            refine nextNumber_insert_of_mem ⟨b, hb, ?_⟩
            rw [← AlertId.toNat_inj] at hid
            cases event <;> exact hid
      have hevent :
          nextNumber (s.write (.alert isNew a event)).events = (s.next.after (.alert isNew a event)).event := by
        cases event with
        | none => rfl
        | some d =>
            exact nextNumber_insert_of_next (a := RiskEvent.ofDraft ⟨nextNumber s.events⟩ d) rfl (hroom.events rfl)
      rw [next, halert, hevent]
      rfl

/-- Writes of different rows can come in any order. -/
theorem writeAt_comm (s : Store) (hapart : w.Apart w')
    (halerts : ∀ a b, w.alertAt? n = some a → w'.alertAt? m = some b → a.id ≠ b.id)
    (hevents : w.logs = true → w'.logs = true → n.event ≠ m.event)
    (hrecommendations : w.suggests = true → w'.suggests = true → n.recommendation ≠ m.recommendation) :
    (s.writeAt n w).writeAt m w' = (s.writeAt m w').writeAt n w := by
  have hsupplierRisks (a b) (ha : w.supplierRisk? = some a) (hb : w'.supplierRisk? = some b) :
      Ranked.rank a ≠ Ranked.rank b := by
    rw [Write.of_supplierRisk? ha, Write.of_supplierRisk? hb] at hapart
    exact fun hrank => hapart (congrArg EntityRef.supplier (congrArg SupplierId.mk (UInt64.toNat_inj.1 hrank)))
  have hpartRisks (a b) (ha : w.partRisk? = some a) (hb : w'.partRisk? = some b) :
      Ranked.rank a ≠ Ranked.rank b := by
    rw [Write.of_partRisk? ha, Write.of_partRisk? hb] at hapart
    exact fun hrank => hapart (congrArg EntityRef.part (congrArg PartId.mk (UInt64.toNat_inj.1 hrank)))
  have halerts (a b) (ha : w.alertAt? n = some a) (hb : w'.alertAt? m = some b) : Ranked.rank a ≠ Ranked.rank b :=
    mt AlertId.toNat_inj.1 (halerts a b ha hb)
  have hevents (a b) (ha : w.eventAt? n = some a) (hb : w'.eventAt? m = some b) : Ranked.rank a ≠ Ranked.rank b := by
    obtain ⟨hlogs, hid⟩ := Write.of_eventAt? ha
    obtain ⟨hlogs', hid'⟩ := Write.of_eventAt? hb
    exact fun hrank => hevents hlogs hlogs' (hid ▸ hid' ▸ UInt64.toNat_inj.1 hrank)
  have hrecommendations (a b) (ha : w.recommendationAt? n = some a) (hb : w'.recommendationAt? m = some b) :
      Ranked.rank a ≠ Ranked.rank b := by
    obtain ⟨hsuggests, hid⟩ := Write.of_recommendationAt? ha
    obtain ⟨hsuggests', hid'⟩ := Write.of_recommendationAt? hb
    exact fun hrank => hrecommendations hsuggests hsuggests' (hid ▸ hid' ▸ UInt64.toNat_inj.1 hrank)
  simp only [writeAt, Roster.insert?_comm hsupplierRisks, Roster.insert?_comm hpartRisks,
    Roster.insert?_comm halerts, Roster.insert?_comm hevents, Roster.insert?_comm hrecommendations]

/-! ## Writes in another order -/

/-- The alert that is written refers to the event that is logged with it, or to one that an alert referred to. -/
theorem LinksApart.write (hlinks : s.LinksApart t) (hknows : s.Knows w) : (s.write w).LinksApart t := by
  intro a ha event hevent hassigned
  have hnew : ¬ s.events.Uses event.value := mt (s.holds_writeAt s.next w).events.uses hassigned.2
  rcases Roster.mem_insert?_iff.1 ha with halert | ⟨ha, -⟩
  · cases w with
    | risk r => cases halert
    | suggestion d => cases halert
    | alert isNew b logged =>
        cases logged with
        | some d =>
            cases halert
            cases hevent
            exact hassigned.2 ((s.uses_writeAt s.next (.alert isNew b (some d))).2.1 rfl)
        | none =>
            cases halert
            cases isNew with
            | true => cases hevent.symm.trans hknows
            | false =>
                obtain ⟨c, hc, -, -, hlink⟩ := hknows
                exact hlinks c hc event (hlink.trans hevent) ⟨hassigned.1, hnew⟩
  · exact hlinks a ha event hevent ⟨hassigned.1, hnew⟩

/-- The second one of two writes can be made first, with the number that it gets as the second one. -/
theorem write_write (hapart : w.Apart w') (hknows : s.Knows w) (hknows' : s.Knows w') (hroom : s.Affords w)
    (hroom' : (s.write w).Affords w') :
    (s.write w).write w' = (s.writeAt (s.write w).next w').writeAt s.next w := by
  have huses := s.uses_writeAt s.next w
  refine s.writeAt_comm hapart (fun a b ha hb hid => ?_) (fun hlogs hlogs' hsame => ?_)
    (fun hsuggests hsuggests' hsame => ?_)
  · have hmem : a ∈ (s.write w).alerts.rows := Roster.mem_insert?_iff.2 (.inl ha)
    cases w with
    | alert isNew c event =>
        cases w' with
        | alert isNew' c' event' =>
            have hentity : a.entity = c.entity := by
              cases ha
              cases isNew <;> cases event <;> rfl
            have hknows := hknows'.write hknows hapart.symm hroom
            refine free_of_knows hknows hroom'.alerts (Ne.symm hapart) a hmem hentity (hid.trans ?_)
            cases hb
            cases event' <;> rfl
        | _ => cases hb
    | _ => cases ha
  · have hused : (s.write w).events.Uses s.next.event := huses.2.1 hlogs
    rw [hsame] at hused
    exact not_uses_nextNumber (hroom'.events hlogs') hused
  · have hused : (s.write w).recommendations.Uses s.next.recommendation := huses.2.2 hsuggests
    rw [hsame] at hused
    exact not_uses_nextNumber (hroom'.recommendations hsuggests') hused

/-- Two writes come to the same in the other order, but for the numbers that they have assigned. -/
theorem write_swap (hapart : w.Apart w') (hknows : s.Knows w) (hknows' : s.Knows w')
    (hlinks : s.LinksApart ((s.write w).write w')) (hroom : s.Affords w) (hroom' : (s.write w).Affords w') :
    ∃ σ : Renumbering, σ.Within s ((s.write w).write w') ∧
      (s.write w').write w = ((s.write w).write w').renumber σ := by
  have hnext : (s.write w).next = s.next.after w := next_write hknows hroom
  have hnext' : (s.write w').next = s.next.after w' := next_write hknows' ((s.holds_writeAt s.next w).affords hroom')
  have halert := congrArg Numbers.alert hnext
  have hevent := congrArg Numbers.event hnext
  have hrecommendation := congrArg Numbers.recommendation hnext
  let σ : Renumbering :=
    ⟨exchange w'.opens s.next.alert (s.write w).next.alert, exchange w'.logs s.next.event (s.write w).next.event,
      exchange w'.suggests s.next.recommendation (s.write w).next.recommendation⟩
  have hwithin : σ.Within s ((s.write w).write w') := by
    have huses := s.uses_writeAt s.next w
    have huses' := (s.write w).uses_writeAt (s.write w).next w'
    have hholds := s.holds_writeAt s.next w
    have hholds' := (s.write w).holds_writeAt (s.write w).next w'
    exact ⟨exchange_moves hholds.alerts hholds'.alerts hroom'.alerts halert huses.1 huses'.1,
      exchange_moves hholds.events hholds'.events hroom'.events hevent huses.2.1 huses'.2.1,
      exchange_moves hholds.recommendations hholds'.recommendations hroom'.recommendations hrecommendation
        huses.2.2 huses'.2.2⟩
  -- With the numbers exchanged, each of the two has the one that it gets in the other order.
  have hsecond (t : Store) : t.writeAt (σ.numbers s.next) w = t.writeAt (s.write w').next w :=
    t.writeAt_congr (exchange_fst halert (congrArg Numbers.alert hnext'))
      (exchange_fst hevent (congrArg Numbers.event hnext'))
      (exchange_fst hrecommendation (congrArg Numbers.recommendation hnext'))
  have hfirst' : s.writeAt (σ.numbers (s.write w).next) w' = s.write w' :=
    s.writeAt_congr exchange_snd exchange_snd exchange_snd
  refine ⟨σ, hwithin, Eq.symm ?_⟩
  calc ((s.write w).write w').renumber σ
      = ((s.writeAt (s.write w).next w').writeAt s.next w).renumber σ := by
        rw [write_write hapart hknows hknows' hroom hroom']
    _ = ((s.renumber σ).writeAt (σ.numbers (s.write w).next) w').writeAt (σ.numbers s.next) w := by
        rw [renumber_writeAt _ _ (fixes_of_knows hwithin hlinks hknows),
          renumber_writeAt _ _ (fixes_of_knows hwithin hlinks hknows')]
    _ = (s.write w').write w := by
        rw [renumber_of_within hwithin hlinks, hsecond, hfirst']
        rfl

/-- Writes of different rows come to the same in any order, but for the numbers that they have assigned. -/
theorem writes_perm (hperm : ws.Perm ws') (hapart : ws.Pairwise Write.Apart) (hknows : ∀ w ∈ ws, s.Knows w)
    (hlinks : s.LinksApart (s.writes ws)) (hroom : s.RoomFor ws) :
    ∃ σ : Renumbering, σ.Within s (s.writes ws) ∧ s.writes ws' = (s.writes ws).renumber σ := by
  induction hperm generalizing s with
  | nil =>
      let σ : Renumbering := ⟨Equiv.refl _, Equiv.refl _, Equiv.refl _⟩
      have hwithin : σ.Within s s := ⟨fun _ h => absurd rfl h, fun _ h => absurd rfl h, fun _ h => absurd rfl h⟩
      exact ⟨σ, hwithin, (renumber_of_within hwithin fun _ _ _ _ h => h.2 h.1).symm⟩
  | cons w hperm ih =>
      obtain ⟨hfirst, hrest⟩ := (roomFor_cons (hknows w (by simp))).1 hroom
      obtain ⟨σ, hwithin, heq⟩ := ih (List.pairwise_cons.1 hapart).2 (knows_write hknows hapart hfirst)
        (hlinks.write (hknows w (by simp))) hrest
      exact ⟨σ, hwithin.anti (s.holds_writeAt s.next w), heq⟩
  | swap w' w ws =>
      obtain ⟨happly, hapart'⟩ := List.pairwise_cons.1 hapart
      have hlater := ((s.write w).write w').holds_writes ws
      obtain ⟨hfirst, hroom⟩ := (roomFor_cons (hknows w (by simp))).1 hroom
      have hknows' := knows_write hknows hapart hfirst
      obtain ⟨hsecond, hrest⟩ := (roomFor_cons (hknows' w' (by simp))).1 hroom
      obtain ⟨σ, hwithin, heq⟩ := write_swap (happly w' (by simp)) (hknows w (by simp)) (hknows w' (by simp))
        (hlinks.anti hlater) hfirst hsecond
      have hfixes : ∀ v ∈ ws, σ.Fixes v := fun v hv =>
        fixes_of_knows hwithin (hlinks.anti hlater) (hknows v (by simp [hv]))
      refine ⟨σ, hwithin.mono hlater, ?_⟩
      exact (congrArg (·.writes ws) heq).trans (renumber_writes hwithin hfixes (knows_write hknows' hapart' hsecond)
        (List.pairwise_cons.1 hapart').2 hrest).symm
  | trans hfirst _ ihfirst ihsecond =>
      obtain ⟨σ, hwithin, heq⟩ := ihfirst hapart hknows hlinks hroom
      -- The numbers in use are the same in the order between.
      obtain ⟨hsame, hsame'⟩ := holds_renumber hwithin
      have hapart' := (hfirst.pairwise_iff Write.Apart.symm).1 hapart
      have hknows' : ∀ w ∈ _, s.Knows w := fun w hw => hknows w (hfirst.mem_iff.2 hw)
      obtain ⟨τ, hwithin', heq'⟩ := ihsecond hapart' hknows' (heq ▸ hlinks.anti hsame') (hroom.perm hfirst)
      rw [heq] at hwithin'
      refine ⟨σ.andThen τ, hwithin.andThen (hwithin'.mono hsame'), ?_⟩
      rw [heq', heq, renumber_renumber]

end Store

end SupplyRisk

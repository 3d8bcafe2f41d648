import SupplyRisk.Proofs.Roster
import SupplyRisk.Proofs.Script

/-!
# What a call can write

`Store.Effect` lists, call by call, everything that a successful call can make of a store; `perform_effect`
says that the list is complete.  A property that no effect of certain calls and no save of a foreign writer can
break is `Store.Stable`: it holds after every script of such calls, whatever the faults of the store and however
the script ends (`Script.run_stable`).
-/

namespace SupplyRisk

/-- Calls that can succeed without writing: listings, look-ups, and the reading of a risk record that
exists already. -/
def StoreCall.reads : StoreCall → Bool
  | .setPartStockThreshold _ _ | .saveSupplierRisk _ | .savePartRisk _ => false
  | .insertAlert _ | .updateAlert _ => false
  | .insertRecommendation _ | .updateRecommendation _ => false
  | .insertEvent _ | .resolveEvent _ _ _ => false
  | _ => true

/-- A call that succeeds on `s` leaves one of these stores. -/
inductive Store.Effect (s : Store) : StoreCall → Store → Prop
  | nothing {c : StoreCall} (hreads : c.reads = true) : Effect s c s
  | stockThreshold {id : PartId} {part : Part} (threshold : Option UInt32)
      (hfind : s.parts.find? id.value.toNat = some part) :
      Effect s (.setPartStockThreshold id threshold)
        (s.addPart { part with lowStockThreshold := threshold })
  | newSupplierRisk {id : SupplierId} (threshold : UInt8)
      (habsent : s.supplierRisks.find? id.value.toNat = none)
      (hknown : s.suppliers.contains id.value.toNat = true) :
      Effect s (.supplierRisk id threshold)
        { s with supplierRisks := s.supplierRisks.insert (.new id threshold) }
  | supplierRisk {record : SupplierRisk} (hcheck : record.check = .ok ())
      (hversion : ((s.supplierRisks.find? record.supplier.value.toNat).map (·.version)).getD 0 =
        record.version) :
      Effect s (.saveSupplierRisk record)
        { s with
          supplierRisks := s.supplierRisks.insert { record with version := record.version + 1 } }
  | newPartRisk {id : PartId} (habsent : s.partRisks.find? id.value.toNat = none)
      (hknown : s.parts.contains id.value.toNat = true) :
      Effect s (.partRisk id) { s with partRisks := s.partRisks.insert (.new id) }
  | partRisk {record : PartRisk} (hcheck : record.check = .ok ())
      (hversion : ((s.partRisks.find? record.part.value.toNat).map (·.version)).getD 0 =
        record.version) :
      Effect s (.savePartRisk record)
        { s with partRisks := s.partRisks.insert { record with version := record.version + 1 } }
  | newAlert {draft : AlertDraft} (hnone : s.openAlert draft.entity = none) :
      Effect s (.insertAlert draft)
        { s with alerts := s.alerts.insert (.ofDraft ⟨nextNumber s.alerts⟩ draft) }
  | alert {alert : Alert} (hknown : s.alerts.contains alert.id.value.toNat = true)
      (hrival : s.openRival? alert = none) :
      Effect s (.updateAlert alert) { s with alerts := s.alerts.insert alert }
  | newRecommendation {draft : RecommendationDraft} (hcheck : draft.check = .ok ())
      (hfresh : s.isSuggested draft.part draft.suggestedSupplier = false) :
      Effect s (.insertRecommendation draft)
        { s with recommendations :=
          s.recommendations.insert (.ofDraft ⟨nextNumber s.recommendations⟩ draft) }
  | recommendation {record : Recommendation}
      (hknown : s.recommendations.contains record.id.value.toNat = true) :
      Effect s (.updateRecommendation record)
        { s with recommendations := s.recommendations.insert record }
  | newEvent (draft : EventDraft) : Effect s (.insertEvent draft) (s.insertEvent draft).2
  | event {id : EventId} {event : RiskEvent} (notes : String) (on : Date)
      (hfind : s.events.find? id.value.toNat = some event) :
      Effect s (.resolveEvent id notes on)
        { s with events := s.events.insert (event.resolve notes on) }

/-- Work in two steps succeeds when both steps do. -/
theorem bind_eq_ok_iff {ε α β : Type} {x : Except ε α} {f : α → Except ε β} {b : β} :
    (x >>= f) = .ok b ↔ ∃ a, x = .ok a ∧ f a = .ok b := by
  cases x with
  | error e => simp [bind, Except.bind]
  | ok a => simp [bind, Except.bind]

theorem map_eq_error_iff {ε α β : Type} {x : Except ε α} {f : α → β} {e : ε} :
    x.map f = .error e ↔ x = .error e := by
  cases x with
  | error e' => simp [Except.map]
  | ok a => simp [Except.map]

theorem map_eq_ok_iff {ε α β : Type} {x : Except ε α} {f : α → β} {b : β} :
    x.map f = .ok b ↔ ∃ a, x = .ok a ∧ f a = b := by
  cases x with
  | error e => simp [Except.map]
  | ok a => simp [Except.map]

namespace Store

variable {s s' : Store}

theorem checkVersion_eq_ok_iff {entity : EntityRef} {expected : UInt64} {stored : Option UInt64}
    {u : Unit} : checkVersion entity expected stored = .ok u ↔ stored.getD 0 = expected := by
  by_cases hversion : stored.getD 0 = expected
  · simp [checkVersion, hversion]
  · simp [checkVersion, hversion]

/-- A supplier's record is saved when it passes its check at the stored version, and only then. -/
theorem saveSupplierRisk_eq_ok_iff {record saved : SupplierRisk} :
    s.saveSupplierRisk record = .ok (saved, s') ↔
      record.check = .ok () ∧
      ((s.supplierRisks.find? record.supplier.value.toNat).map (·.version)).getD 0 = record.version ∧
      saved = { record with version := record.version + 1 } ∧
      s' = { s with supplierRisks := s.supplierRisks.insert saved } := by
  simp only [saveSupplierRisk, bind_eq_ok_iff, checkVersion_eq_ok_iff, Except.ok.injEq,
    Prod.mk.injEq]
  constructor
  · rintro ⟨u, hcheck, -, hversion, rfl, rfl⟩
    exact ⟨hcheck, hversion, rfl, rfl⟩
  · rintro ⟨hcheck, hversion, rfl, rfl⟩
    exact ⟨(), hcheck, (), hversion, rfl, rfl⟩

/-- A part's record is saved when it passes its check at the stored version, and only then. -/
theorem savePartRisk_eq_ok_iff {record saved : PartRisk} :
    s.savePartRisk record = .ok (saved, s') ↔
      record.check = .ok () ∧
      ((s.partRisks.find? record.part.value.toNat).map (·.version)).getD 0 = record.version ∧
      saved = { record with version := record.version + 1 } ∧
      s' = { s with partRisks := s.partRisks.insert saved } := by
  simp only [savePartRisk, bind_eq_ok_iff, checkVersion_eq_ok_iff, Except.ok.injEq,
    Prod.mk.injEq]
  constructor
  · rintro ⟨u, hcheck, -, hversion, rfl, rfl⟩
    exact ⟨hcheck, hversion, rfl, rfl⟩
  · rintro ⟨hcheck, hversion, rfl, rfl⟩
    exact ⟨(), hcheck, (), hversion, rfl, rfl⟩

/-- The list of effects is complete. -/
theorem perform_effect {c : StoreCall} {answer : c.Answer}
    (hperform : s.perform c = .ok (answer, s')) : s.Effect c s' := by
  -- Listings and look-ups answer with the store they were given.
  have hread {α : Type} {x : Except RiskError α} {a : α}
      (h : x.map (·, s) = .ok (a, s')) : s' = s := by
    obtain ⟨b, -, hb⟩ := map_eq_ok_iff.1 h
    exact (Prod.mk.inj hb).2.symm
  have hwrite {x : Except RiskError Store} {u : Unit} (h : x.map ((), ·) = .ok (u, s')) :
      x = .ok s' := by
    obtain ⟨t, hx, ht⟩ := map_eq_ok_iff.1 h
    rw [hx, (Prod.mk.inj ht).2]
  cases c with
  | suppliers => cases hperform; exact .nothing rfl
  | parts => cases hperform; exact .nothing rfl
  | supplierHistory id => cases hread hperform; exact .nothing rfl
  | partHistory id => cases hread hperform; exact .nothing rfl
  | categoryOfferings category => cases hperform; exact .nothing rfl
  | setPartStockThreshold id threshold =>
      have hset : s.setPartStockThreshold id threshold = .ok s' := hwrite hperform
      unfold setPartStockThreshold at hset
      split at hset
      · cases hset
      · rename_i part hfind
        cases hset
        exact .stockThreshold threshold hfind
  | supplierRisk id threshold =>
      change s.supplierRisk id threshold = .ok (answer, s') at hperform
      unfold supplierRisk at hperform
      split at hperform
      · cases hperform
        exact .nothing rfl
      · rename_i habsent
        split at hperform
        · rename_i hknown
          cases hperform
          exact .newSupplierRisk threshold habsent hknown
        · cases hperform
  | saveSupplierRisk record =>
      obtain ⟨hcheck, hversion, rfl, rfl⟩ := saveSupplierRisk_eq_ok_iff.1 hperform
      exact .supplierRisk hcheck hversion
  | supplierRisks => cases hperform; exact .nothing rfl
  | partRisk id =>
      change s.partRisk id = .ok (answer, s') at hperform
      unfold partRisk at hperform
      split at hperform
      · cases hperform
        exact .nothing rfl
      · rename_i habsent
        split at hperform
        · rename_i hknown
          cases hperform
          exact .newPartRisk habsent hknown
        · cases hperform
  | savePartRisk record =>
      obtain ⟨hcheck, hversion, rfl, rfl⟩ := savePartRisk_eq_ok_iff.1 hperform
      exact .partRisk hcheck hversion
  | partRisks => cases hperform; exact .nothing rfl
  | openAlert entity => cases hperform; exact .nothing rfl
  | insertAlert draft =>
      change s.insertAlert draft = .ok (answer, s') at hperform
      unfold insertAlert at hperform
      split at hperform
      · cases hperform
      · rename_i hnone
        cases hperform
        exact .newAlert hnone
  | updateAlert alert =>
      have hupdate : s.updateAlert alert = .ok s' := hwrite hperform
      unfold updateAlert at hupdate
      split at hupdate
      · rename_i hknown
        split at hupdate
        · cases hupdate
        · rename_i hrival
          cases hupdate
          exact .alert hknown hrival
      · cases hupdate
  | alert id => cases hread hperform; exact .nothing rfl
  | alerts => cases hperform; exact .nothing rfl
  | recommendationsForPart part => cases hperform; exact .nothing rfl
  | insertRecommendation draft =>
      change s.insertRecommendation draft = .ok (answer, s') at hperform
      unfold insertRecommendation at hperform
      obtain ⟨u, hcheck, hinsert⟩ := bind_eq_ok_iff.1 hperform
      split at hinsert
      · cases hinsert
      · rename_i hfresh
        cases hinsert
        exact .newRecommendation hcheck (by simpa using hfresh)
  | updateRecommendation record =>
      have hupdate : s.updateRecommendation record = .ok s' := hwrite hperform
      unfold updateRecommendation at hupdate
      split at hupdate
      · rename_i hknown
        cases hupdate
        exact .recommendation hknown
      · cases hupdate
  | recommendation id => cases hread hperform; exact .nothing rfl
  | recommendations => cases hperform; exact .nothing rfl
  | insertEvent draft => cases hperform; exact .newEvent draft
  | resolveEvent id notes on =>
      change s.resolveEvent id notes on = .ok (answer, s') at hperform
      unfold resolveEvent at hperform
      split at hperform
      · rename_i event hfind
        cases hperform
        exact .event notes on hfind
      · cases hperform
  | events => cases hperform; exact .nothing rfl

/-- While numbers fit their word, the next one is greater than all that are taken. -/
theorem lt_nextNumber {α : Type} [Ranked α] {r : Roster α} {a : α} (hmem : a ∈ r.rows)
    (hfit : ∀ b ∈ r.rows, Ranked.rank b + 1 < Word.count64) :
    Ranked.rank a < (nextNumber r).toNat := by
  unfold nextNumber
  cases hlast : r.lastRank? with
  | none =>
      rw [Roster.rows_eq_nil_of_lastRank hlast] at hmem
      cases hmem
  | some m =>
      obtain ⟨z, hz, hrank⟩ := Roster.exists_mem_of_lastRank hlast
      have hle : Ranked.rank a ≤ m := Roster.rank_le_of_lastRank hlast hmem
      have hroom : m + 1 < 18446744073709551616 := hrank ▸ hfit z hz
      have hword : (UInt64.ofNat (m + 1)).toNat = m + 1 := by
        rw [UInt64.toNat_ofNat']
        exact Nat.mod_eq_of_lt hroom
      simp only [hword]
      omega

/-- There is a next number when all that are taken leave room for a greater one. -/
theorem hasNext_iff {α : Type} [Ranked α] {r : Roster α} :
    hasNext r = true ↔ ∀ a ∈ r.rows, Ranked.rank a + 1 < Word.count64 := by
  unfold hasNext
  cases hlast : r.lastRank? with
  | none => simp [Roster.rows_eq_nil_of_lastRank hlast]
  | some m =>
      obtain ⟨z, hz, hrank⟩ := Roster.exists_mem_of_lastRank hlast
      rw [Option.all_some, decide_eq_true_eq]
      constructor
      · intro hroom a hmem
        have := Roster.rank_le_of_lastRank hlast hmem
        omega
      · intro hfit
        exact hrank ▸ hfit z hz

/-- The next number is at most one more than the greatest. -/
theorem nextNumber_le {α : Type} [Ranked α] {r : Roster α} {n : Nat}
    (hle : ∀ a ∈ r.rows, Ranked.rank a ≤ n) : (nextNumber r).toNat ≤ n + 1 := by
  unfold nextNumber
  cases hlast : r.lastRank? with
  | none => exact Nat.le_add_left 1 n
  | some m =>
      obtain ⟨z, hz, hrank⟩ := Roster.exists_mem_of_lastRank hlast
      have hm : m ≤ n := hrank ▸ hle z hz
      have hword : (UInt64.ofNat (m + 1)).toNat ≤ m + 1 := by
        rw [UInt64.toNat_ofNat']
        exact Nat.mod_le _ _
      exact Nat.le_trans hword (Nat.succ_le_succ hm)

/-- A property of stores that none of these calls and no save of a foreign writer can break. -/
structure Stable (ok : StoreCall → Prop) (P : Store → Prop) : Prop where
  effect : ∀ {s s' : Store} {c : StoreCall}, ok c → s.Effect c s' → P s → P s'
  bumpSupplier : ∀ (s : Store) (id : SupplierId), P s → P (s.bumpSupplierRisk id)
  bumpPart : ∀ (s : Store) (id : PartId), P s → P (s.bumpPartRisk id)

end Store

namespace FaultyStore

variable {ok : StoreCall → Prop} {P : Store → Prop} {f : FaultyStore}

/-! ## Room for numbers and versions -/

/-- A call can be made if the number or version that it writes anew is there, and so is that of the other writer. -/
theorem hasRoom_of_hasNumberFor {c : StoreCall} (hrace : f.raceFits c = true)
    (hnumber : (f.raced c).store.hasNumberFor c = true) : f.hasRoom c = true := by
  rw [hasRoom, hrace, hnumber]
  rfl

/-- A call that is made finds the number or version that it needs, or is refused. -/
theorem hasRoom_cases {c : StoreCall} (hroom : f.hasRoom c = true) :
    f.raceFits c = true ∧ ((f.raced c).store.hasNumberFor c = true ∨ ∃ e, (f.perform c).1 = .error e) := by
  rw [hasRoom, Bool.and_eq_true, Bool.or_eq_true, Bool.not_eq_true'] at hroom
  refine ⟨hroom.1, hroom.2.imp_right fun hrefused => ?_⟩
  cases hanswer : (f.perform c).1 with
  | error e => exact ⟨e, rfl⟩
  | ok answer =>
      rw [hanswer] at hrefused
      cases hrefused

/-- A call that is not made would have been answered, if the other writer found its version. -/
theorem not_hasRoom_iff {c : StoreCall} :
    ¬ f.hasRoom c = true ↔ f.raceFits c = true →
      (f.raced c).store.hasNumberFor c = false ∧ ∃ answer, (f.perform c).1 = .ok answer := by
  rw [hasRoom, Bool.and_eq_true, not_and, Bool.or_eq_true, not_or, Bool.not_eq_true, Bool.not_eq_true,
    Bool.not_eq_false']
  refine imp_congr_right fun _ => and_congr_right fun _ => ?_
  cases (f.perform c).1 with
  | error e => simp [Except.isOk, Except.toBool]
  | ok answer => simp [Except.isOk, Except.toBool]

/-! ## Effects behind faults -/

/-- Without faults a call does what it does on the store inside. -/
theorem perform_plain (s : Store) (c : StoreCall) :
    (plain s).perform c =
      match s.perform c with
      | .ok (answer, s') => (.ok answer, plain s')
      | .error e => (.error e, plain s) := by
  cases c <;> rfl

theorem pass_effect (f : FaultyStore) (c : StoreCall) :
    (f.pass c).2.store = f.store ∨ f.store.Effect c (f.pass c).2.store := by
  unfold pass
  cases hperform : f.store.perform c with
  | error e => exact .inl rfl
  | ok result => exact .inr (Store.perform_effect hperform)

theorem pass_eq_ok {c : StoreCall} {f' : FaultyStore} {answer : c.Answer} (hpass : f.pass c = (.ok answer, f')) :
    f.store.perform c = .ok (answer, f'.store) := by
  unfold pass at hpass
  cases hperform : f.store.perform c with
  | error e =>
      rw [hperform] at hpass
      cases hpass
  | ok result =>
      rw [hperform] at hpass
      cases hpass
      rfl

theorem readRisk_eq_ok {c : StoreCall} {f' : FaultyStore} {entity : EntityRef} {answer : c.Answer}
    (hread : f.readRisk entity c = (.ok answer, f')) :
    f.store.perform c = .ok (answer, f'.store) := by
  unfold readRisk at hread
  split at hread
  · cases hread
  · exact pass_eq_ok hread

theorem pass_eq_error {c : StoreCall} {f' : FaultyStore} {e : RiskError} (hpass : f.pass c = (.error e, f')) :
    f' = f := by
  unfold pass at hpass
  cases hperform : f.store.perform c with
  | error e' =>
      rw [hperform] at hpass
      cases hpass
      rfl
  | ok result =>
      rw [hperform] at hpass
      cases hpass

/-- A fault makes a call fail before it is carried out; else it is carried out on the store behind the save of another
writer. -/
theorem perform_cases (f : FaultyStore) (c : StoreCall) :
    (∃ e faults, f.perform c = (.error e, { f.raced c with faults })) ∨ f.perform c = (f.raced c).pass c := by
  -- Listings, histories and records each have faults of their own.
  have hlist (target : String) (c : StoreCall) :
      (∃ e faults, f.list target c = (.error e, { f with faults })) ∨ f.list target c = f.pass c := by
    unfold list
    split
    · exact .inl ⟨_, f.faults, rfl⟩
    · exact .inr rfl
  have hhistory (entity : EntityRef) (c : StoreCall) :
      (∃ e faults, f.readHistory entity c = (.error e, { f with faults })) ∨ f.readHistory entity c = f.pass c := by
    unfold readHistory
    split
    · exact .inl ⟨_, f.faults, rfl⟩
    · split
      · exact .inl ⟨_, _, rfl⟩
      · exact .inr rfl
  have hrisk (entity : EntityRef) (c : StoreCall) :
      (∃ e faults, f.readRisk entity c = (.error e, { f with faults })) ∨ f.readRisk entity c = f.pass c := by
    unfold readRisk
    split
    · exact .inl ⟨_, f.faults, rfl⟩
    · exact .inr rfl
  cases c with
  | suppliers => exact hlist "suppliers" .suppliers
  | parts => exact hlist "parts" .parts
  | supplierHistory id => exact hhistory (.supplier id) (.supplierHistory id)
  | partHistory id => exact hhistory (.part id) (.partHistory id)
  | supplierRisk id threshold => exact hrisk (.supplier id) (.supplierRisk id threshold)
  | partRisk id => exact hrisk (.part id) (.partRisk id)
  | insertEvent draft =>
      simp only [perform]
      split
      · exact .inl ⟨_, _, rfl⟩
      · exact .inr rfl
  | _ => exact .inr rfl

/-- A call that is answered is carried out. -/
theorem perform_eq_ok {c : StoreCall} {f' : FaultyStore} {answer : c.Answer}
    (hperform : f.perform c = (.ok answer, f')) : (f.raced c).store.perform c = .ok (answer, f'.store) := by
  rcases f.perform_cases c with ⟨e, faults, hfault⟩ | hpass
  · rw [hfault] at hperform
    cases hperform
  · exact pass_eq_ok (hpass ▸ hperform)

/-- A call that is refused leaves the store to the other writer at most. -/
theorem store_of_perform_error {c : StoreCall} {f' : FaultyStore} {e : RiskError}
    (hperform : f.perform c = (.error e, f')) : f'.store = (f.raced c).store := by
  rcases f.perform_cases c with ⟨e, faults, hfault⟩ | hpass
  · rw [hfault] at hperform
    cases hperform
    rfl
  · exact congrArg store (pass_eq_error (hpass ▸ hperform))

theorem pass_stable (hP : Store.Stable ok P) {c : StoreCall} (hc : ok c) (h : P f.store) :
    P (f.pass c).2.store := by
  rcases f.pass_effect c with hsame | heffect
  · rwa [hsame]
  · exact hP.effect hc heffect h

theorem raceWriter_stable {entity : EntityRef} {bump : Store → Store}
    (hbump : ∀ s, P s → P (bump s)) (h : P f.store) : P (f.raceWriter entity bump).store := by
  unfold raceWriter
  split
  · exact hbump f.store h
  · exact h

theorem raced_stable (hP : Store.Stable ok P) (c : StoreCall) (h : P f.store) : P (f.raced c).store := by
  cases c with
  | saveSupplierRisk record => exact raceWriter_stable (fun s => hP.bumpSupplier s record.supplier) h
  | savePartRisk record => exact raceWriter_stable (fun s => hP.bumpPart s record.part) h
  | _ => exact h

theorem perform_stable (hP : Store.Stable ok P) {c : StoreCall} (hc : ok c) (h : P f.store) :
    P (f.perform c).2.store := by
  have hraced := raced_stable hP c h
  rcases f.perform_cases c with ⟨e, faults, hfault⟩ | hpass
  · rw [hfault]
    exact hraced
  · rw [hpass]
    exact pass_stable hP hc hraced

/-- A call that is given up leaves the store to the other writer at most. -/
theorem giveUp_stable (hP : Store.Stable ok P) (c : StoreCall) (h : P f.store) : P (f.giveUp c).store := by
  unfold giveUp
  split
  · exact raced_stable hP c h
  · exact h

end FaultyStore

/-- A stable property survives a script, however it ends. -/
theorem Script.run_stable {ok : StoreCall → Prop} {P : Store → Prop} (hP : Store.Stable ok P)
    {α : Type} {x : Script α} (hx : x.Only ok) (f : FaultyStore) (h : P f.store) :
    P (x.run f).2.store :=
  run_keeps (I := fun f => P f.store) hx (fun _ hc _ hf => FaultyStore.perform_stable hP hc hf)
    (fun c _ _ hf => FaultyStore.giveUp_stable hP c hf) f h

/-! ## Calls and their answers -/

namespace Store

/-- What a call on a store without faults answers. -/
def answerTo (s : Store) (c : StoreCall) : Except RiskError c.Answer :=
  ((FaultyStore.plain s).perform c).1

/-- What a call on a store without faults leaves behind. -/
def afterCall (s : Store) (c : StoreCall) : Store := ((FaultyStore.plain s).perform c).2.store

variable {s : Store}

theorem answerTo_eq_error_iff {c : StoreCall} {e : RiskError} :
    s.answerTo c = .error e ↔ s.perform c = .error e := by
  unfold answerTo
  rw [FaultyStore.perform_plain]
  cases s.perform c with
  | error e' => simp
  | ok result => simp

theorem answerTo_eq_ok_iff {c : StoreCall} {answer : c.Answer} :
    s.answerTo c = .ok answer ↔ s.perform c = .ok (answer, s.afterCall c) := by
  unfold answerTo afterCall
  rw [FaultyStore.perform_plain]
  cases s.perform c with
  | error e => simp
  | ok result =>
      obtain ⟨answer', s'⟩ := result
      simp [FaultyStore.plain]

theorem answerTo_of_perform {c : StoreCall} {answer : c.Answer} {s' : Store}
    (hperform : s.perform c = .ok (answer, s')) : s.answerTo c = .ok answer ∧ s.afterCall c = s' := by
  unfold answerTo afterCall
  rw [FaultyStore.perform_plain, hperform]
  exact ⟨rfl, rfl⟩

theorem afterCall_of_error {c : StoreCall} {e : RiskError} (hrefused : s.answerTo c = .error e) :
    s.afterCall c = s := by
  unfold afterCall
  rw [FaultyStore.perform_plain, answerTo_eq_error_iff.1 hrefused]
  rfl

theorem afterCall_effect (c : StoreCall) : s.afterCall c = s ∨ s.Effect c (s.afterCall c) := by
  cases hanswer : s.answerTo c with
  | error e => exact .inl (afterCall_of_error hanswer)
  | ok answer => exact .inr (perform_effect (answerTo_eq_ok_iff.1 hanswer))

end Store

end SupplyRisk

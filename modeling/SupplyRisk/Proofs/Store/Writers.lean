import SupplyRisk.Proofs.Store.RiskRecord

/-!
# Writers that share a store

Any number of writers read risk records, edit their copies and save them, each whenever it likes, while other
callers do what they like and foreign writers raise versions.  A `SharedStore` is the store with all copies
that were read so far; its moves are single calls, so every list of moves is an interleaving.

The stored version of an entity counts the saves and bumps that took effect on it (`run_risk`).  Hence a save
is accepted exactly when the edited copy passes its check and nothing took effect on its entity since the copy
was read: no update is lost (`no_lost_update`).
-/

namespace SupplyRisk

/-- What a writer does to its copy before it saves it: anything that keeps the entity and the version. -/
structure Edit where
  apply : RiskRecord → RiskRecord
  entity_apply : ∀ r, (apply r).entity = r.entity
  version_apply : ∀ r, (apply r).version = r.version

inductive Move where
  /-- A writer reads the record of an entity, which is created if there is none. -/
  | read (defaultThreshold : UInt8) (entity : EntityRef)
  /-- The writer who read a copy saves it after an edit. -/
  | save (copy : Nat) (edit : Edit)
  /-- A foreign writer raises a version. -/
  | bump (entity : EntityRef)
  /-- Any other call of the store. -/
  | call (c : StoreCall)

structure SharedStore where
  store : Store
  /-- What writers have read, in the order of their reads; a copy is known by its place. -/
  copies : List RiskRecord

namespace SharedStore

def step (x : SharedStore) : Move → SharedStore
  | .read threshold entity =>
      match x.store.readRisk threshold entity with
      | (.ok r, store) => ⟨store, x.copies ++ [r]⟩
      | (.error _, store) => { x with store }
  | .save copy edit =>
      match x.copies[copy]? with
      | some r => { x with store := (x.store.saveRisk (edit.apply r)).2 }
      | none => x
  | .bump entity => { x with store := x.store.bumpRisk entity }
  | .call c => { x with store := x.store.afterCall c }

def run (x : SharedStore) (moves : List Move) : SharedStore := moves.foldl step x

/-- The move saves or bumps the record of the entity with effect. -/
def Writes (x : SharedStore) (entity : EntityRef) : Move → Prop
  | .read _ _ => False
  | .save copy edit =>
      ∃ r saved, x.copies[copy]? = some r ∧ r.entity = entity ∧
        (x.store.saveRisk (edit.apply r)).1 = .ok saved
  | .bump bumped => bumped = entity ∧ ∃ r, x.store.riskRecord? entity = some r
  | .call c =>
      ∃ r saved, c.savedRisk? = some r ∧ r.entity = entity ∧ (x.store.saveRisk r).1 = .ok saved

/-- Some move of a run saves or bumps the record of the entity with effect. -/
def Touched (entity : EntityRef) : SharedStore → List Move → Prop
  | _, [] => False
  | x, m :: ms => x.Writes entity m ∨ Touched entity (x.step m) ms

/-- The stored version of the entity can still be raised. -/
def VersionFits (entity : EntityRef) (x : SharedStore) : Prop :=
  ∀ r, x.store.riskRecord? entity = some r → r.version.toNat + 1 < Word.count64

/-- The stored version of the entity can be raised throughout a run. -/
def VersionsFit (entity : EntityRef) : SharedStore → List Move → Prop
  | x, [] => VersionFits entity x
  | x, m :: ms => VersionFits entity x ∧ VersionsFit entity (x.step m) ms

variable {x : SharedStore} {entity : EntityRef} {r : RiskRecord}

@[simp] theorem run_nil (x : SharedStore) : x.run [] = x := rfl

@[simp] theorem run_cons (x : SharedStore) (m : Move) (ms : List Move) :
    x.run (m :: ms) = (x.step m).run ms := rfl

theorem VersionsFit.last {moves : List Move} (hfit : VersionsFit entity x moves) :
    VersionFits entity (x.run moves) := by
  induction moves generalizing x with
  | nil => exact hfit
  | cons m ms ih => exact ih hfit.2

/-- Copies stay where they are. -/
theorem getElem?_copies_run {copy : Nat} (hcopy : x.copies[copy]? = some r) (moves : List Move) :
    (x.run moves).copies[copy]? = some r := by
  induction moves generalizing x with
  | nil => exact hcopy
  | cons m ms ih =>
      apply ih
      cases m with
      | read threshold entity =>
          simp only [step]
          split
          · rwa [List.getElem?_append_left (List.getElem?_eq_some_iff.1 hcopy).1]
          · exact hcopy
      | save other edit =>
          simp only [step]
          split <;> exact hcopy
      | bump entity => exact hcopy
      | call c => exact hcopy

/-! ## One call -/

/-- A save either takes effect on the entity and raises its version by one, or leaves its record alone. -/
theorem saveRisk_risk {s : Store} (hstored : s.riskRecord? entity = some r)
    (hfit : r.version.toNat + 1 < Word.count64) (c : RiskRecord) :
    (c.entity = entity ∧ ∃ saved, (s.saveRisk c).1 = .ok saved ∧
      (s.saveRisk c).2.riskRecord? entity = some saved ∧
      saved.version.toNat = r.version.toNat + 1) ∨
    (¬ (c.entity = entity ∧ ∃ saved, (s.saveRisk c).1 = .ok saved) ∧
      (s.saveRisk c).2.riskRecord? entity = some r) := by
  cases hanswer : (s.saveRisk c).1 with
  | error e =>
      rw [Store.saveRisk_of_error hanswer]
      exact .inr ⟨fun ⟨_, saved, hsaved⟩ => (nomatch hsaved), hstored⟩
  | ok saved =>
      obtain ⟨-, hversion, rfl, hafter⟩ := Store.saveRisk_of_ok hanswer
      rw [hafter, Store.riskRecord?_putRisk, RiskRecord.entity_next]
      by_cases hentity : c.entity = entity
      · -- The save was accepted at the stored version, so that is the version it raises.
        have hsame : r.version = c.version := by
          rw [← hversion, hentity, Store.riskVersion, hstored]
          rfl
        refine .inl ⟨hentity, c.next, rfl, if_pos hentity, ?_⟩
        rw [RiskRecord.toNat_version_next (hsame ▸ hfit), hsame]
      · exact .inr ⟨fun h => hentity h.1, (if_neg hentity).trans hstored⟩

theorem readRisk_risk {s : Store} (hstored : s.riskRecord? entity = some r) (threshold : UInt8)
    (other : EntityRef) : (s.readRisk threshold other).2.riskRecord? entity = some r := by
  cases hanswer : (s.readRisk threshold other).1 with
  | error e => rw [Store.readRisk_of_error hanswer, hstored]
  | ok copy =>
      rcases Store.readRisk_of_ok hanswer with ⟨-, hafter⟩ | ⟨habsent, rfl, hafter⟩
      · rw [hafter, hstored]
      · rw [hafter]
        exact Store.riskRecord?_putRisk_fresh habsent hstored

/-- One move on a stored record: it either takes effect and raises the version by one, or leaves the
record alone. -/
theorem step_risk (hstored : x.store.riskRecord? entity = some r) (hfit : VersionFits entity x)
    (m : Move) :
    (x.Writes entity m ∧ ∃ r', (x.step m).store.riskRecord? entity = some r' ∧
      r'.version.toNat = r.version.toNat + 1) ∨
    (¬ x.Writes entity m ∧ (x.step m).store.riskRecord? entity = some r) := by
  have hroom : r.version.toNat + 1 < Word.count64 := hfit r hstored
  cases m with
  | read threshold other =>
      have hread := readRisk_risk hstored threshold other
      refine .inr ⟨not_false, ?_⟩
      simp only [step]
      split <;> simp_all
  | save copy edit =>
      cases hcopy : x.copies[copy]? with
      | none => exact .inr ⟨by simp [Writes, hcopy], by simp [step, hcopy, hstored]⟩
      | some c =>
          have hsave := saveRisk_risk hstored hroom (edit.apply c)
          rw [edit.entity_apply] at hsave
          simp only [step, hcopy, Writes]
          rcases hsave with ⟨hentity, saved, hok, hafter, hversion⟩ | ⟨hnot, hafter⟩
          · exact .inl ⟨⟨c, saved, rfl, hentity, hok⟩, saved, hafter, hversion⟩
          · refine .inr ⟨?_, hafter⟩
            rintro ⟨c', saved, hc, hentity, hok⟩
            cases hc
            exact hnot ⟨hentity, saved, hok⟩
  | bump bumped =>
      simp only [step, Writes]
      by_cases hentity : bumped = entity
      · subst hentity
        refine .inl ⟨⟨rfl, r, hstored⟩, r.next, ?_, RiskRecord.toNat_version_next hroom⟩
        rw [Store.bumpRisk_of_some hstored, Store.riskRecord?_putRisk, RiskRecord.entity_next,
          if_pos (Store.entity_of_riskRecord? hstored)]
      · -- The record of another entity is bumped, if there is one.
        refine .inr ⟨fun h => hentity h.1, ?_⟩
        cases hother : x.store.riskRecord? bumped with
        | none => rw [Store.bumpRisk_of_none hother, hstored]
        | some other =>
            rw [Store.bumpRisk_of_some hother, Store.riskRecord?_putRisk, RiskRecord.entity_next,
              Store.entity_of_riskRecord? hother, if_neg hentity, hstored]
  | call c =>
      simp only [step, Writes]
      cases hsaved : c.savedRisk? with
      | some c' =>
          rw [Store.afterCall_of_savedRisk hsaved]
          rcases saveRisk_risk hstored hroom c' with ⟨hentity, saved, hok, hafter, hversion⟩ |
            ⟨hnot, hafter⟩
          · exact .inl ⟨⟨c', saved, rfl, hentity, hok⟩, saved, hafter, hversion⟩
          · refine .inr ⟨?_, hafter⟩
            rintro ⟨r', saved, hr, hentity, hok⟩
            cases hr
            exact hnot ⟨hentity, saved, hok⟩
      | none =>
          -- A call that saves nothing can at most create a record that was missing.
          refine .inr ⟨fun ⟨r', saved, hr, _⟩ => (nomatch hr), ?_⟩
          rcases Store.afterCall_effect (s := x.store) c with hsame | heffect
          · rw [hsame, hstored]
          · rcases Store.riskRecord?_of_effect heffect with
              hframe | ⟨threshold, other, habsent, hafter⟩ | ⟨r', hr, -⟩
            · rw [hframe, hstored]
            · rw [hafter]
              exact Store.riskRecord?_putRisk_fresh habsent hstored
            · rw [hsaved] at hr
              cases hr

/-! ## Runs -/

/-- A run leaves the record of an entity alone, or touches it and raises its version. -/
theorem run_risk (hstored : x.store.riskRecord? entity = some r) (moves : List Move)
    (hfit : VersionsFit entity x moves) :
    ∃ r', (x.run moves).store.riskRecord? entity = some r' ∧
      (Touched entity x moves ∧ r.version.toNat < r'.version.toNat ∨
        ¬ Touched entity x moves ∧ r' = r) := by
  -- The version never falls, so a single touch is seen at the end of any run.
  induction moves generalizing x r with
  | nil => exact ⟨r, hstored, .inr ⟨not_false, rfl⟩⟩
  | cons m ms ih =>
      rcases step_risk hstored hfit.1 m with ⟨hwrites, r₁, hr₁, hversion⟩ | ⟨hnot, hr₁⟩
      · obtain ⟨r', hr', hrest⟩ := ih hr₁ hfit.2
        refine ⟨r', hr', .inl ⟨.inl hwrites, ?_⟩⟩
        rcases hrest with ⟨-, hlt⟩ | ⟨-, rfl⟩
        · omega
        · omega
      · obtain ⟨r', hr', hrest⟩ := ih hr₁ hfit.2
        refine ⟨r', hr', ?_⟩
        rcases hrest with ⟨htouched, hlt⟩ | ⟨huntouched, rfl⟩
        · exact .inl ⟨.inr htouched, hlt⟩
        · exact .inr ⟨fun h => h.elim hnot huntouched, rfl⟩

/-- A copy that was just read is the stored record, and the last of the copies. -/
theorem step_read {threshold : UInt8} (hread : (x.store.readRisk threshold entity).1 = .ok r) :
    (x.step (.read threshold entity)).store.riskRecord? entity = some r ∧
      (x.step (.read threshold entity)).copies[x.copies.length]? = some r := by
  have hstep : x.step (.read threshold entity) =
      ⟨(x.store.readRisk threshold entity).2, x.copies ++ [r]⟩ := by
    simp only [step]
    split <;> simp_all
  rw [hstep]
  exact ⟨Store.riskRecord?_readRisk hread, by simp⟩

/-- A save of an edited copy names the version that was read. -/
theorem accepts_edit_iff {s : Store} {stored : RiskRecord} (hr : r.entity = entity)
    (hstored : s.riskRecord? entity = some stored) (edit : Edit) :
    (∃ saved, (s.saveRisk (edit.apply r)).1 = .ok saved) ↔
      (edit.apply r).check = .ok () ∧ stored.version = r.version := by
  have hversion : s.riskVersion (edit.apply r).entity = stored.version := by
    rw [edit.entity_apply, hr, Store.riskVersion, hstored]
    rfl
  simp only [Store.saveRisk_eq_ok_iff, hversion, edit.version_apply]
  constructor
  · rintro ⟨saved, hcheck, hsame, -⟩
    exact ⟨hcheck, hsame⟩
  · rintro ⟨hcheck, hsame⟩
    exact ⟨_, hcheck, hsame, rfl⟩

/-- A save of an outdated copy is refused. -/
theorem refuses_outdated {s : Store} {stored : RiskRecord} (hr : r.entity = entity)
    (hstored : s.riskRecord? entity = some stored)
    (hlt : r.version.toNat < stored.version.toNat) (edit : Edit) :
    ∃ e, (s.saveRisk (edit.apply r)).1 = .error e := by
  cases hanswer : (s.saveRisk (edit.apply r)).1 with
  | error e => exact ⟨e, rfl⟩
  | ok saved =>
      have hsame := ((accepts_edit_iff hr hstored edit).1 ⟨saved, hanswer⟩).2
      rw [hsame] at hlt
      exact absurd hlt (Nat.lt_irrefl _)

/-- An accepted save of an edited copy puts the edited record, one version up, and nothing else. -/
theorem accepted_edit {s : Store} {saved : RiskRecord} (hr : r.entity = entity)
    (hfit : r.version.toNat + 1 < Word.count64) {edit : Edit}
    (hok : (s.saveRisk (edit.apply r)).1 = .ok saved) :
    saved = (edit.apply r).next ∧ saved.version.toNat = r.version.toNat + 1 ∧
      (s.saveRisk (edit.apply r)).2 = s.putRisk saved ∧
      (s.putRisk saved).riskRecord? entity = some saved ∧
      ∀ other, other ≠ entity → (s.putRisk saved).riskRecord? other = s.riskRecord? other := by
  obtain ⟨-, -, hsaved, hput⟩ := Store.saveRisk_of_ok hok
  have hentity : saved.entity = entity := by
    rw [hsaved, RiskRecord.entity_next, edit.entity_apply, hr]
  have hversion : saved.version.toNat = r.version.toNat + 1 := by
    rw [hsaved, RiskRecord.toNat_version_next (by rwa [edit.version_apply]), edit.version_apply]
  refine ⟨hsaved, hversion, hput, ?_, fun other hother => ?_⟩
  · rw [Store.riskRecord?_putRisk, if_pos hentity]
  · rw [Store.riskRecord?_putRisk, hentity, if_neg hother.symm]

/-- **No lost update.**  A writer reads the record `r` of an entity, all callers do what they like, and then
the writer saves its edited copy.  The save is accepted exactly when the copy passes its check and no save or
bump of the entity took effect in between.  An accepted save was computed from the record it replaces, raises
its version by one, returns what is stored and touches nothing else, and no later save of the same copy is
accepted any more.  A rejected save changes nothing. -/
theorem no_lost_update {threshold : UInt8}
    (hread : (x.store.readRisk threshold entity).1 = .ok r) (between : List Move) (edit : Edit)
    (hfit : VersionsFit entity (x.step (.read threshold entity)) between) :
    let start := x.step (.read threshold entity)
    let now := start.run between
    let answer := (now.store.saveRisk (edit.apply r)).1
    let after := now.step (.save x.copies.length edit)
    now.copies[x.copies.length]? = some r ∧
    ((∃ saved, answer = .ok saved) ↔
      (edit.apply r).check = .ok () ∧ ¬ Touched entity start between) ∧
    (∀ saved, answer = .ok saved →
      now.store.riskRecord? entity = some r ∧
      saved = (edit.apply r).next ∧
      saved.version.toNat = r.version.toNat + 1 ∧
      after.store.riskRecord? entity = some saved ∧
      after.store = now.store.putRisk saved ∧
      (∀ other, other ≠ entity →
        after.store.riskRecord? other = now.store.riskRecord? other) ∧
      ∀ (later : List Move) (edit' : Edit), VersionsFit entity after later →
        ∃ e, ((after.run later).store.saveRisk (edit'.apply r)).1 = .error e) ∧
    (∀ e, answer = .error e → after = now) := by
  intro start now answer after
  obtain ⟨hstart, hcopy⟩ := step_read hread
  have hr : r.entity = entity := Store.entity_of_riskRecord? hstart
  have hcopyNow : now.copies[x.copies.length]? = some r := getElem?_copies_run hcopy between
  have hafter : after = { now with store := (now.store.saveRisk (edit.apply r)).2 } := by
    simp only [after, step, hcopyNow]
  obtain ⟨stored, hstored, hrun⟩ := run_risk hstart between hfit
  -- The stored version tells whether the run touched the entity.
  have huntouched : stored.version = r.version ↔ ¬ Touched entity start between := by
    rcases hrun with ⟨htouched, hlt⟩ | ⟨huntouched, rfl⟩
    · refine ⟨fun hsame => ?_, fun h => absurd htouched h⟩
      rw [hsame] at hlt
      exact absurd hlt (Nat.lt_irrefl _)
    · exact ⟨fun _ => huntouched, fun _ => rfl⟩
  have haccepts : (∃ saved, answer = .ok saved) ↔
      (edit.apply r).check = .ok () ∧ ¬ Touched entity start between := by
    rw [← huntouched]
    exact accepts_edit_iff hr hstored edit
  refine ⟨hcopyNow, haccepts, fun saved hok => ?_, fun e hrefused => ?_⟩
  · -- An accepted save finds the record that was read, so it replaces what it was computed from.
    have hsame : stored = r := by
      rcases hrun with ⟨htouched, -⟩ | ⟨-, heq⟩
      · exact absurd htouched (haccepts.1 ⟨saved, hok⟩).2
      · exact heq
    subst hsame
    obtain ⟨hsaved, hversion, hput, hnew, hothers⟩ :=
      accepted_edit hr (hfit.last stored hstored) hok
    have hafterPut : after.store = now.store.putRisk saved := by rw [hafter, hput]
    have hafterStored : after.store.riskRecord? entity = some saved := by rw [hafterPut, hnew]
    refine ⟨hstored, hsaved, hversion, hafterStored, hafterPut, fun other hother => ?_,
      fun later edit' hlater => ?_⟩
    · rw [hafterPut, hothers other hother]
    · -- From now on the stored version is above that of the copy.
      obtain ⟨last, hlast, hrest⟩ := run_risk hafterStored later hlater
      have hle : saved.version.toNat ≤ last.version.toNat := by
        rcases hrest with ⟨-, hlt⟩ | ⟨-, rfl⟩
        · exact Nat.le_of_lt hlt
        · exact Nat.le_refl _
      exact refuses_outdated hr hlast (by omega) edit'
  · rw [hafter, Store.saveRisk_of_error hrefused]

/-- A writer that saves its copy as it was read. -/
def asRead : Edit := ⟨id, fun _ => rfl, fun _ => rfl⟩

/-- A store with one part, before anybody has read its record. -/
def onePart : SharedStore := ⟨Store.empty.addPart ⟨⟨1⟩, "P-1", "bolt", .none, .none⟩, []⟩

/-- Two writers read the same record.  The save of the second one takes effect, so that of the first one is
refused. -/
theorem save_after_second_writer_is_refused :
    let start := onePart.step (.read 0 (.part ⟨1⟩))
    let between : List Move := [.read 0 (.part ⟨1⟩), .save 1 asRead]
    Touched (.part ⟨1⟩) start between ∧
      ¬ ∃ saved, ((start.run between).store.saveRisk (.fresh 0 (.part ⟨1⟩))).1 = .ok saved := by
  intro start between
  have hfit : VersionsFit (.part ⟨1⟩) start between := by
    refine ⟨?_, ?_, ?_⟩ <;> (intro r hr; cases hr; decide)
  have htouched : Touched (.part ⟨1⟩) start between :=
    .inr (.inl ⟨.fresh 0 (.part ⟨1⟩), (RiskRecord.fresh 0 (.part ⟨1⟩)).next, rfl, rfl, rfl⟩)
  have hread : (onePart.store.readRisk 0 (.part ⟨1⟩)).1 = .ok (.fresh 0 (.part ⟨1⟩)) := rfl
  have hsave := (no_lost_update hread between asRead hfit).2.1
  exact ⟨htouched, fun haccepted => (hsave.1 haccepted).2 htouched⟩

end SharedStore

end SupplyRisk

import Mathlib.Logic.Relation
import SupplyRisk.Proofs.Pool
import SupplyRisk.Proofs.Store.Effect

/-!
# Scripts that can be relied on

Scripts that play on one store have to put up with each other: between two calls of one of them the others may have made
any calls of theirs.  A `Discipline` says what a call of each script may bring about, and so what the others can rely
on.  `Script.Assures` goes through a script call by call and lets the others act in between as the discipline allows;
what the script has read it may use as far as the others cannot change it.  Scripts that keep to the discipline one by
one keep to it together, whatever their schedule is (`ScriptPool.Disciplined.run`).
-/

namespace SupplyRisk

open Relation (ReflTransGen)

/-- What holds all the time while scripts play, and what the script of each place may bring about with one call. -/
structure Discipline where
  Holds : FaultyStore → Prop
  Step : Nat → FaultyStore → FaultyStore → Prop

namespace Discipline

/-- A call of some script has led from one store to the other. -/
def Moves (D : Discipline) (f g : FaultyStore) : Prop := D.Holds g ∧ ∃ place, D.Step place f g

/-- So have any number of calls of any scripts. -/
def Leads (D : Discipline) : FaultyStore → FaultyStore → Prop := ReflTransGen D.Moves

/-- The script of a place may make the call, and give it up where there is no number or version for it. -/
structure Allows (D : Discipline) (place : Nat) (c : StoreCall) (f : FaultyStore) : Prop where
  made : f.hasRoom c = true → D.Holds (f.perform c).2 ∧ D.Step place f (f.perform c).2
  givenUp : ¬ f.hasRoom c = true → D.Holds (f.giveUp c) ∧ D.Step place f (f.giveUp c)

variable {D : Discipline} {f g h : FaultyStore}

theorem Leads.refl (f : FaultyStore) : D.Leads f f := ReflTransGen.refl

theorem Leads.trans (hfg : D.Leads f g) (hgh : D.Leads g h) : D.Leads f h := ReflTransGen.trans hfg hgh

theorem Allows.leads {place : Nat} {c : StoreCall} (hallows : D.Allows place c f) (hroom : f.hasRoom c = true) :
    D.Leads f (f.perform c).2 :=
  .single ⟨(hallows.made hroom).1, place, (hallows.made hroom).2⟩

theorem Leads.holds (hleads : D.Leads f g) (hf : D.Holds f) : D.Holds g := by
  induction hleads with
  | refl => exact hf
  | tail _ hmoves _ => exact hmoves.1

/-- What every single call sees to, any number of calls see to. -/
theorem Leads.lift {R : FaultyStore → FaultyStore → Prop} (hrefl : R f f) (htrans : ∀ g h, R f g → R g h → R f h)
    (hstep : ∀ place g h, D.Step place g h → R g h) (hleads : D.Leads f g) : R f g := by
  induction hleads with
  | refl => exact hrefl
  | tail _ hmoves ih =>
      obtain ⟨-, place, hplace⟩ := hmoves
      exact htrans _ _ ih (hstep place _ _ hplace)

/-- What no single call can change stays as it is. -/
theorem Leads.keeps {P : FaultyStore → Prop} (hstep : ∀ place g h, D.Step place g h → P g → P h) (hleads : D.Leads f g)
    (hf : P f) : P g := by
  induction hleads with
  | refl => exact hf
  | tail _ hmoves ih =>
      obtain ⟨-, place, hplace⟩ := hmoves
      exact hstep place _ _ hplace ih

end Discipline

namespace Script

variable {α β : Type}

/-- Whatever the others do in between, the script makes only calls that it may make, and what it comes to is as `Q`
says, now and later. -/
def Assures (D : Discipline) (place : Nat) (Q : α → FaultyStore → Prop) : Script α → FaultyStore → Prop
  | done a, f => ∀ g, D.Leads f g → Q a g
  | stop _, _ => True
  | call c next, f => ∀ g, D.Leads f g → D.Allows place c g ∧
      (g.hasRoom c = true → (next (g.perform c).1).Assures D place Q (g.perform c).2)

/-- The script keeps to the discipline wherever it starts. -/
def Obeys (D : Discipline) (place : Nat) (x : Script α) : Prop :=
  ∀ f, D.Holds f → x.Assures D place (fun _ _ => True) f

variable {D : Discipline} {place : Nat} {Q R : α → FaultyStore → Prop} {x : Script α} {f g : FaultyStore}

/-- A script that has not begun may as well begin later. -/
theorem Assures.later (hx : x.Assures D place Q f) (hleads : D.Leads f g) : x.Assures D place Q g := by
  cases x with
  | done a => exact fun h hh => hx h (hleads.trans hh)
  | stop cause => trivial
  | call c next => exact fun h hh => hx h (hleads.trans hh)

theorem assures_pure {a : α} (hQ : ∀ g, D.Leads f g → Q a g) : (pure a : Script α).Assures D place Q f := hQ

theorem assures_stop (cause : Halt) : (stop cause : Script α).Assures D place Q f := trivial

theorem Assures.mono (hx : x.Assures D place Q f) (hQ : ∀ a g, D.Leads f g → Q a g → R a g) :
    x.Assures D place R f := by
  induction x generalizing f with
  | done a => exact fun g hg => hQ a g hg (hx g hg)
  | stop cause => trivial
  | call c next ih =>
      intro g hg
      obtain ⟨hallows, hrest⟩ := hx g hg
      refine ⟨hallows, fun hroom => ih _ (hrest hroom) fun a h hh => hQ a h ?_⟩
      exact (hg.trans (hallows.leads hroom)).trans hh

/-- The second part begins where the first one has come to its answer, or later. -/
theorem Assures.bind {k : α → Script β} {R : β → FaultyStore → Prop} (hx : x.Assures D place Q f)
    (hk : ∀ a g, D.Leads f g → Q a g → (k a).Assures D place R g) : (x >>= k).Assures D place R f := by
  induction x generalizing f with
  | done a => exact hk a f (.refl f) (hx f (.refl f))
  | stop cause => trivial
  | call c next ih =>
      intro g hg
      obtain ⟨hallows, hrest⟩ := hx g hg
      refine ⟨hallows, fun hroom => ih _ (hrest hroom) fun a h hh => hk a h ?_⟩
      exact (hg.trans (hallows.leads hroom)).trans hh

theorem Assures.recover {handle : RiskError → Script α} (hx : x.Assures D place Q f)
    (hhandle : ∀ e g, D.Leads f g → (handle e).Assures D place Q g) : (x.recover handle).Assures D place Q f := by
  induction x generalizing f with
  | done a => exact hx
  | stop cause =>
      cases cause with
      | failure e => exact hhandle e f (.refl f)
      | calendar => trivial
      | word => trivial
  | call c next ih =>
      intro g hg
      obtain ⟨hallows, hrest⟩ := hx g hg
      refine ⟨hallows, fun hroom => ih _ (hrest hroom) fun e h hh => hhandle e h ?_⟩
      exact (hg.trans (hallows.leads hroom)).trans hh

theorem assures_inCalendar {o : Option α} (hQ : ∀ a, o = some a → ∀ g, D.Leads f g → Q a g) :
    (inCalendar o).Assures D place Q f := by
  cases o with
  | some a => exact hQ a rfl
  | none => trivial

theorem assures_ofExcept {r : Except RiskError α} (hQ : ∀ a, r = .ok a → ∀ g, D.Leads f g → Q a g) :
    (ofExcept r).Assures D place Q f := by
  cases r with
  | ok a => exact hQ a rfl
  | error e => trivial

/-- One call: it is allowed whenever it is made, and what it is answered with stays true. -/
theorem assures_ask {c : StoreCall} {Q : c.Answer → FaultyStore → Prop}
    (hallows : ∀ g, D.Leads f g → D.Allows place c g)
    (hanswer : ∀ g answer h, D.Leads f g → (ask c).run g = (.ok answer, h) → Q answer h)
    (hstep : ∀ answer place g h, D.Step place g h → Q answer g → Q answer h) : (ask c).Assures D place Q f := by
  intro g hg
  refine ⟨hallows g hg, fun hroom => ?_⟩
  cases hperform : g.perform c with
  | mk result h =>
      refine assures_ofExcept fun answer hresult h' hh' => ?_
      cases hresult
      exact hh'.keeps (hstep answer) (hanswer g answer h hg (run_ask_eq_ok_iff.2 ⟨hroom, hperform⟩))

/-! ## Scripts that obey -/

theorem obeys_pure (a : α) : (pure a : Script α).Obeys D place := fun _ _ => assures_pure fun _ _ => trivial

theorem obeys_stop (cause : Halt) : (stop cause : Script α).Obeys D place := fun _ _ => trivial

theorem Obeys.bind {k : α → Script β} (hx : x.Obeys D place) (hk : ∀ a, (k a).Obeys D place) :
    (x >>= k).Obeys D place :=
  fun f hf => (hx f hf).bind fun a g hg _ => hk a g (hg.holds hf)

theorem Obeys.recover {handle : RiskError → Script α} (hx : x.Obeys D place)
    (hhandle : ∀ e, (handle e).Obeys D place) : (x.recover handle).Obeys D place :=
  fun f hf => (hx f hf).recover fun e g hg => hhandle e g (hg.holds hf)

theorem Obeys.map (hx : x.Obeys D place) (k : α → β) : (k <$> x).Obeys D place := by
  rw [map_eq_pure_bind]
  exact hx.bind fun a => obeys_pure (k a)

/-- A script all of whose calls are allowed at any time obeys. -/
theorem Only.obeys {ok : StoreCall → Prop} (hx : x.Only ok)
    (hallows : ∀ c, ok c → ∀ f, D.Holds f → D.Allows place c f) : x.Obeys D place := by
  intro f hf
  induction x generalizing f with
  | done a => exact fun g hg => trivial
  | stop cause => trivial
  | call c next ih =>
      intro g hg
      have hallowed := hallows c hx.1 g (hg.holds hf)
      exact ⟨hallowed, fun hroom => ih _ (hx.2 _) _ (hallowed.made hroom).1⟩

theorem obeys_foldlM {k : β → α → Script β} (hk : ∀ b a, (k b a).Obeys D place) (as : List α) (b : β) :
    (as.foldlM k b).Obeys D place := by
  induction as generalizing b with
  | nil => exact obeys_pure b
  | cons a as ih =>
      rw [List.foldlM_cons]
      exact (hk b a).bind ih

end Script

/-! ## Pools -/

namespace ScriptPool

variable {D : Discipline} {p : ScriptPool}

/-- Each script of the pool keeps to the discipline in its place. -/
structure Disciplined (D : Discipline) (p : ScriptPool) : Prop where
  holds : D.Holds p.backend
  scripts : ∀ place (x : Script Unit), p.scripts[place]? = some x → x.Assures D place (fun _ _ => True) p.backend

/-- The script of one place goes on; the others can rely on what it brings about. -/
theorem Disciplined.move (h : p.Disciplined D) {place : Nat} {x : Script Unit} {g : FaultyStore}
    (hg : D.Holds g ∧ D.Step place p.backend g) (hx : x.Assures D place (fun _ _ => True) g) :
    Disciplined D ⟨g, p.scripts.set place x⟩ where
  holds := hg.1
  scripts other y hy := by
    have hmoves : D.Moves p.backend g := ⟨hg.1, place, hg.2⟩
    rw [List.getElem?_set] at hy
    split at hy
    · rename_i hsame
      split at hy
      · cases hy
        exact hsame ▸ hx
      · cases hy
    · exact (h.scripts other y hy).later (.single hmoves)

/-- A step does nothing, or what its script may do. -/
theorem Disciplined.step (h : p.Disciplined D) (i : Nat) :
    (p.step i).Disciplined D ∧ (p.step i = p ∨ D.Step i p.backend (p.step i).backend) := by
  rcases p.step_cases i with ⟨hsame, -⟩ | ⟨c, next, hscript, hroom, -, hstep⟩ | ⟨c, next, hscript, hfull, -, hstep⟩
  · rw [hsame]
    exact ⟨h, .inl rfl⟩
  · obtain ⟨hallows, hrest⟩ := h.scripts i _ hscript p.backend (.refl _)
    rw [hstep]
    exact ⟨h.move (hallows.made hroom) (hrest hroom), .inr (hallows.made hroom).2⟩
  · obtain ⟨hallows, -⟩ := h.scripts i _ hscript p.backend (.refl _)
    rw [hstep]
    exact ⟨h.move (hallows.givenUp hfull) (Script.assures_stop _), .inr (hallows.givenUp hfull).2⟩

/-- Whatever the schedule is, the scripts go on keeping to the discipline. -/
theorem Disciplined.run (h : p.Disciplined D) (schedule : List Nat) :
    (p.run schedule).Disciplined D ∧ D.Leads p.backend (p.run schedule).backend := by
  induction schedule generalizing p with
  | nil => exact ⟨h, .refl _⟩
  | cons i schedule ih =>
      obtain ⟨hdisciplined, hmoved⟩ := h.step i
      obtain ⟨hlast, hleads⟩ := ih hdisciplined
      refine ⟨hlast, ?_⟩
      rcases hmoved with hsame | hmoved
      · rw [hsame] at hleads
        show D.Leads p.backend ((p.step i).run schedule).backend
        rwa [hsame]
      · exact .trans (.single ⟨hdisciplined.holds, i, hmoved⟩) hleads

/-- What the calls of no script can break holds on, whatever the schedule is. -/
theorem run_stable {ok : StoreCall → Prop} {P : Store → Prop} (hP : Store.Stable ok P)
    (honly : ∀ x ∈ p.scripts, x.Only ok) (h : P p.store) (schedule : List Nat) : P (p.run schedule).store := by
  let D : Discipline := ⟨fun f => P f.store, fun _ _ _ => True⟩
  have hallows (place : Nat) (c : StoreCall) (hc : ok c) (f : FaultyStore) (hf : D.Holds f) : D.Allows place c f :=
    ⟨fun _ => ⟨FaultyStore.perform_stable hP hc hf, trivial⟩, fun _ => ⟨FaultyStore.giveUp_stable hP c hf, trivial⟩⟩
  have hdisciplined : p.Disciplined D :=
    ⟨h, fun place x hx => (honly x (List.mem_of_getElem? hx)).obeys (hallows place) p.backend h⟩
  exact (hdisciplined.run schedule).1.holds

end ScriptPool

end SupplyRisk

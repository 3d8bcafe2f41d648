import SupplyRisk.Proofs.Engine.Frame

/-!
# Failing entities are isolated

A missing entity fails at its first read, so its visit changes nothing and no later visit notices it.  A run over a
store with missing entities therefore leaves what the same passes over the other entities leave, counts what they
count, and reports one failure more for each target that is missing (`missing_entities_are_isolated`).
-/

namespace SupplyRisk

/-- The store with entities that cannot be read. -/
def Store.without (s : Store) (missing : Roster EntityRef) : FaultyStore := ⟨s, { missing }⟩

/-- The failure of visiting a missing entity. -/
def Pass.notFound (pass : Pass) (entity : EntityRef) : Failure :=
  .ofError entity pass.operation (.notFound entity)

/-- The failures of the targets of a pass that are missing. -/
def Pass.missed (pass : Pass) (wanted : Bool) (missing : Roster EntityRef) (s : Store) : List Failure :=
  if wanted then ((pass.targets s).filter (fun z => missing.contains z.rank)).map pass.notFound else []

/-- The tally counts what the other one counts, and has the given failures besides. -/
structure Tally.Extends (t others : Tally) (missed : List Failure) : Prop where
  counts : { t with failures := [] } = { others with failures := [] }
  failures : t.failures.Perm (others.failures ++ missed)

/-- The summary counts what the other one counts, and has the given failures besides. -/
structure RunSummary.Extends (s others : RunSummary) (missed : List Failure) : Prop where
  counts : { s with errors := [] } = { others with errors := [] }
  errors : s.errors.Perm (others.errors ++ missed)

theorem Tally.Extends.refl (t : Tally) : t.Extends t [] := ⟨rfl, by rw [List.append_nil]⟩

theorem RunSummary.Extends.refl (s : RunSummary) : s.Extends s [] := ⟨rfl, by rw [List.append_nil]⟩

namespace Tally.Extends

variable {t others : Tally} {missed : List Failure}

theorem merge (a : Tally) (hextends : t.Extends others missed) : (a.merge t).Extends (a.merge others) missed where
  counts := by
    have hcounts := hextends.counts
    simp only [Tally.mk.injEq] at hcounts
    obtain ⟨h1, h2, h3, h4, h5, h6, -⟩ := hcounts
    simp only [Tally.merge, h1, h2, h3, h4, h5, h6]
  failures := by
    show (a.failures ++ t.failures).Perm (a.failures ++ others.failures ++ missed)
    rw [List.append_assoc]
    exact hextends.failures.append_left a.failures

/-- One more failure that the other tally does not have. -/
theorem fail (f : Failure) (hextends : t.Extends others missed) :
    ((({} : Tally).fail f).merge t).Extends others (f :: missed) where
  counts := by
    have hcounts := hextends.counts
    simp only [Tally.mk.injEq] at hcounts
    obtain ⟨h1, h2, h3, h4, h5, h6, -⟩ := hcounts
    simp only [Tally.merge, Tally.fail, Nat.zero_add, h1, h2, h3, h4, h5, h6]
  failures := by
    show (f :: t.failures).Perm (others.failures ++ f :: missed)
    exact (hextends.failures.cons f).trans List.perm_middle.symm

end Tally.Extends

namespace RunSummary.Extends

variable {s others : RunSummary} {missed : List Failure} {t t' : Tally} {more : List Failure}

/-- Adding a tally appends its failures, and counts without a look at failures. -/
theorem add {add : RunSummary → Tally → RunSummary}
    (hcounts : ∀ s t, { add s t with errors := [] } =
      { add { s with errors := [] } { t with failures := [] } with errors := [] })
    (herrors : ∀ s t, (add s t).errors = s.errors ++ t.failures)
    (hextends : s.Extends others missed) (htally : t.Extends t' more) :
    (add s t).Extends (add others t') (missed ++ more) where
  counts := by rw [hcounts s t, hcounts others t', hextends.counts, htally.counts]
  errors := by
    rw [herrors, herrors, List.append_assoc]
    refine (hextends.errors.append htally.failures).trans ?_
    rw [List.append_assoc]
    refine List.Perm.append_left others.errors ?_
    rw [← List.append_assoc, ← List.append_assoc]
    exact List.perm_append_comm.append_right more

theorem addSuppliers (hextends : s.Extends others missed) (htally : t.Extends t' more) :
    (s.addSuppliers t).Extends (others.addSuppliers t') (missed ++ more) :=
  add (fun _ _ => rfl) (fun _ _ => rfl) hextends htally

theorem addParts (hextends : s.Extends others missed) (htally : t.Extends t' more) :
    (s.addParts t).Extends (others.addParts t') (missed ++ more) :=
  add (fun _ _ => rfl) (fun _ _ => rfl) hextends htally

theorem addRecommendations (hextends : s.Extends others missed) (htally : t.Extends t' more) :
    (s.addRecommendations t).Extends (others.addRecommendations t') (missed ++ more) :=
  add (fun _ _ => rfl) (fun _ _ => rfl) hextends htally

end RunSummary.Extends

/-! ## Passes -/

namespace Engine

variable {e : Engine} {pass : Pass} {missing : Roster EntityRef}

theorem visitOn_without_missing (e : Engine) {z : EntityRef} (s : Store)
    (hmissing : missing.contains z.rank = true) (hpart : pass = .recommendations → ∃ id, z = .part id) :
    e.visitOn pass z (s.without missing) = .ok ⟨z, .error (.notFound z)⟩ (s.without missing) :=
  e.visitOn_missing hmissing hpart

theorem visitOn_without_kept (e : Engine) {z : EntityRef} (pass : Pass) (s : Store)
    (hkept : missing.contains z.rank = false) :
    e.visitOn pass z (s.without missing) =
      match e.visitOn pass z (.plain s) with
      | .ok v g => .ok v (g.store.without missing)
      | .error cause g => .error cause (g.store.without missing) :=
  e.visitOn_spared pass (f := s.without missing) ⟨hkept, rfl, fun _ => rfl, rfl⟩

/-- The entities that are not missing. -/
def kept (missing : Roster EntityRef) (z : EntityRef) : Bool := !missing.contains z.rank

/-- A tour comes to what the tour of the entities that are not missing comes to, and fails for the missing ones
besides. -/
theorem tour_without (e : Engine) (missing : Roster EntityRef) (pass : Pass) {targets : List EntityRef}
    (hparts : ∀ z ∈ targets, pass = .recommendations → ∃ id, z = .part id) (s : Store) :
    match e.tour pass (targets.filter (kept missing)) (.plain s) with
    | .error cause g => cause.Ends ∧ ∃ t, g = .plain t ∧
        e.tour pass targets (s.without missing) = .error cause (t.without missing)
    | .ok others g => ∃ t visits, g = .plain t ∧
        e.tour pass targets (s.without missing) = .ok visits (t.without missing) ∧
        (Tally.ofVisits pass visits).Extends (.ofVisits pass others)
          ((targets.filter (fun z => missing.contains z.rank)).map pass.notFound) := by
  induction targets generalizing s with
  | nil => exact ⟨s, [], rfl, rfl, .refl _⟩
  | cons z rest ih =>
      have hrest := ih fun z' hz' => hparts z' (by simp [hz'])
      cases hmissing : missing.contains z.rank with
      | true =>
          -- The visit fails and changes nothing, so the rest of the tour starts where the tour without it does.
          have hvisit := e.visitOn_without_missing s hmissing (hparts z (by simp))
          have hskip : (z :: rest).filter (kept missing) = rest.filter (kept missing) := by
            simp [kept, hmissing]
          have hmissed : (z :: rest).filter (fun z => missing.contains z.rank) =
              z :: rest.filter (fun z => missing.contains z.rank) := by
            simp [hmissing]
          have hcomes := hrest s
          rw [hskip, hmissed]
          simp only [tour, OnStore.bind_apply, OnStore.pure_apply, hvisit]
          cases hothers : e.tour pass (rest.filter (kept missing)) (.plain s) with
          | error cause g =>
              rw [hothers] at hcomes
              obtain ⟨hcause, t, hg, htour⟩ := hcomes
              exact ⟨hcause, t, hg, by rw [htour]⟩
          | ok others g =>
              rw [hothers] at hcomes
              obtain ⟨t, visits, hg, htour, hextends⟩ := hcomes
              exact ⟨t, ⟨z, .error (.notFound z)⟩ :: visits, hg, by rw [htour], hextends.fail _⟩
      | false =>
          have hvisit := e.visitOn_without_kept pass s hmissing
          have hkeep : (z :: rest).filter (kept missing) = z :: rest.filter (kept missing) := by
            simp [kept, hmissing]
          have hmissed : (z :: rest).filter (fun z => missing.contains z.rank) =
              rest.filter (fun z => missing.contains z.rank) := by
            simp [hmissing]
          rw [hkeep, hmissed]
          simp only [tour, OnStore.bind_apply, OnStore.pure_apply, hvisit]
          obtain ⟨u, ⟨v, hplain⟩ | ⟨cause, hends, hplain⟩⟩ := e.visitOn_plain_cases pass z s
          · have hcomes := hrest u
            simp only [hplain, FaultyStore.store_plain]
            cases hothers : e.tour pass (rest.filter (kept missing)) (.plain u) with
            | error cause g =>
                rw [hothers] at hcomes
                obtain ⟨hcause, t, hg, htour⟩ := hcomes
                exact ⟨hcause, t, hg, by rw [htour]⟩
            | ok others g =>
                rw [hothers] at hcomes
                obtain ⟨t, visits, hg, htour, hextends⟩ := hcomes
                exact ⟨t, v :: visits, hg, by rw [htour], hextends.merge _⟩
          · rw [hplain]
            exact ⟨hends, u, rfl, rfl⟩

/-- What is known of passes over the store with and without the missing entities: either calendar or numbers end for
both, or both go on over the same store, and the summary has the missed failures besides. -/
def SidesAlike (missing : Roster EntityRef) (P : Store → RunSummary → RunSummary → Prop)
    (others all : EStateM.Result Halt FaultyStore RunSummary) : Prop :=
  match others with
  | .error cause g => cause.Ends ∧ ∃ t, g = .plain t ∧ all = .error cause (t.without missing)
  | .ok summary' g => ∃ t summary, g = .plain t ∧ all = .ok summary (t.without missing) ∧ P t summary summary'

theorem SidesAlike.bind {P Q : Store → RunSummary → RunSummary → Prop} {x y : OnStore RunSummary}
    {g h : RunSummary → OnStore RunSummary} {f f' : FaultyStore} (hx : SidesAlike missing P (x f) (y f'))
    (hg : ∀ t summary others, P t summary others →
      SidesAlike missing Q (g others (.plain t)) (h summary (t.without missing))) :
    SidesAlike missing Q ((x >>= g) f) ((y >>= h) f') := by
  rw [OnStore.bind_apply, OnStore.bind_apply]
  cases hothers : x f with
  | error cause u =>
      rw [hothers] at hx
      obtain ⟨hends, t, rfl, hall⟩ := hx
      exact ⟨hends, t, rfl, by rw [hall]⟩
  | ok others u =>
      rw [hothers] at hx
      obtain ⟨t, summary, rfl, hall, hP⟩ := hx
      rw [hall]
      exact hg t summary others hP

theorem SidesAlike.imp {P Q : Store → RunSummary → RunSummary → Prop}
    {others all : EStateM.Result Halt FaultyStore RunSummary} (hsides : SidesAlike missing P others all)
    (himp : ∀ t summary others, P t summary others → Q t summary others) : SidesAlike missing Q others all := by
  cases others with
  | error cause g => exact hsides
  | ok others g =>
      obtain ⟨t, summary, hg, hall, hP⟩ := hsides
      exact ⟨t, summary, hg, hall, himp t summary others hP⟩

/-- A pass on both sides. -/
theorem round_without (e : Engine) (wanted : Bool) (pass : Pass) {add : RunSummary → Tally → RunSummary}
    (hadd : ∀ {s o m t t' more}, RunSummary.Extends s o m → Tally.Extends t t' more →
      (add s t).Extends (add o t') (m ++ more))
    (s : Store) {summary others : RunSummary} {missed : List Failure} (hextends : summary.Extends others missed) :
    SidesAlike missing
      (fun t summary others => summary.Extends others (missed ++ pass.missed wanted missing s) ∧
        t.inventory = s.inventory ∧ (pass = .recommendations → t.partRisks = s.partRisks))
      (e.round (List.filter (kept missing)) wanted pass .endless add others (.plain s))
      (e.round Crew.caller.route wanted pass .endless add summary (s.without missing)) := by
  cases wanted with
  | false => exact ⟨s, summary, rfl, rfl, by rw [Pass.missed, if_neg (by simp), List.append_nil]; exact hextends,
      rfl, fun _ => rfl⟩
  | true =>
      have hlist (f : FaultyStore) (hlists : f.faults.failingListings = false) :
          pass.list f = .ok (pass.targets f.store) f := by
        rw [Pass.list, hlists]
      have hmissed : pass.missed true missing s =
          ((pass.targets s).filter (fun z => missing.contains z.rank)).map pass.notFound := if_pos rfl
      have hframe := e.tour_frame pass ((pass.targets s).filter (kept missing)) (.plain s)
        fun z hz => (List.mem_filter.1 hz).1
      have hsides := e.tour_without missing pass
        (fun z (hz : z ∈ pass.targets s) hpass => (Pass.part_of_mem_targets hz hpass).imp fun id h => h.1) s
      have hall : Crew.caller.route (pass.targets (s.without missing).store) = pass.targets s := rfl
      simp only [round, if_true, OnStore.bind_apply, OnStore.pure_apply, hlist (.plain s) rfl,
        hlist (s.without missing) rfl, tallyOf, hall, FaultyStore.store_plain]
      cases hothers : e.tour pass ((pass.targets s).filter (kept missing)) (.plain s) with
      | error cause g =>
          rw [hothers] at hsides
          obtain ⟨hends, t, rfl, htour⟩ := hsides
          exact ⟨hends, t, rfl, by rw [htour]⟩
      | ok vs g =>
          rw [hothers] at hsides
          obtain ⟨t, visits, rfl, htour, hvisits⟩ := hsides
          rw [OnStore.after_of_ok hothers] at hframe
          refine ⟨t, _, rfl, by rw [htour], ?_, hframe.1, fun hpass => (hframe.2 hpass).2⟩
          rw [hmissed]
          exact hadd hextends hvisits

end Engine

/-- The failures of all targets of a run that are missing. -/
def RunOptions.missed (options : RunOptions) (missing : Roster EntityRef) (s : Store) : List Failure :=
  [Pass.suppliers, .parts, .recommendations].flatMap
    (fun pass => pass.missed (pass.wanted options) missing s)

namespace Engine

variable {e : Engine} {missing : Roster EntityRef}

theorem rounds_without (e : Engine) (options : RunOptions) (missing : Roster EntityRef) (s : Store) :
    SidesAlike missing (fun t summary others => summary.Extends others (options.missed missing t))
      (e.rounds (List.filter (kept missing)) options .endless (.plain s))
      (e.rounds Crew.caller.route options .endless (s.without missing)) := by
  -- Nothing on the way changes what the passes list.
  have hmissed {pass : Pass} {t u : Store} (htargets : pass.targets t = pass.targets u) :
      pass.missed (pass.wanted options) missing u = pass.missed (pass.wanted options) missing t := by
    rw [Pass.missed, Pass.missed, htargets]
  refine (e.round_without (Pass.suppliers.wanted options) .suppliers RunSummary.Extends.addSuppliers s
    (.refl {})).bind ?_
  rintro s₁ summary₁ others₁ ⟨hextends₁, hinventory₁, -⟩
  refine (e.round_without (Pass.parts.wanted options) .parts RunSummary.Extends.addParts s₁ hextends₁).bind ?_
  rintro s₂ summary₂ others₂ ⟨hextends₂, hinventory₂, -⟩
  refine (e.round_without (Pass.recommendations.wanted options) .recommendations
    RunSummary.Extends.addRecommendations s₂ hextends₂).imp ?_
  rintro t summary₃ others₃ ⟨hextends₃, hinventory₃, hrisks⟩
  have hsuppliers : Pass.suppliers.missed (Pass.suppliers.wanted options) missing s = _ :=
    hmissed (t := t) (Pass.targets_congr (hinventory₃.trans (hinventory₂.trans hinventory₁)) nofun)
  have hparts : Pass.parts.missed (Pass.parts.wanted options) missing s₁ = _ :=
    hmissed (t := t) (Pass.targets_congr (hinventory₃.trans hinventory₂) nofun)
  have hrecommendations : Pass.recommendations.missed (Pass.recommendations.wanted options) missing s₂ = _ :=
    hmissed (t := t) (Pass.targets_congr hinventory₃ hrisks)
  rw [hsuppliers, hparts, hrecommendations, List.nil_append, List.append_assoc] at hextends₃
  rw [RunOptions.missed, List.flatMap_cons, List.flatMap_cons, List.flatMap_cons, List.flatMap_nil, List.append_nil]
  exact hextends₃

end Engine

/-! ## Listings that fail -/

/-- Whether listings fail is never changed. -/
theorem FaultyStore.failingListings_perform (f : FaultyStore) (c : StoreCall) :
    (f.perform c).2.faults.failingListings = f.faults.failingListings := by
  have hpass (g : FaultyStore) (c : StoreCall) : (g.pass c).2.faults = g.faults := by
    unfold pass
    split <;> rfl
  have hrace (entity : EntityRef) (bump : Store → Store) :
      (f.raceWriter entity bump).faults.failingListings = f.faults.failingListings := by
    unfold raceWriter
    split <;> rfl
  have hhistory (entity : EntityRef) (c : StoreCall) :
      (f.readHistory entity c).2.faults.failingListings = f.faults.failingListings := by
    unfold readHistory
    split
    · rfl
    · split
      · rfl
      · rw [hpass]
  have hrisk (entity : EntityRef) (c : StoreCall) : (f.readRisk entity c).2.faults = f.faults := by
    unfold readRisk
    split
    · rfl
    · rw [hpass]
  have hlist (target : String) (c : StoreCall) : (f.list target c).2.faults = f.faults := by
    unfold list
    split
    · rfl
    · rw [hpass]
  cases c with
  | suppliers => exact congrArg _ (hlist _ _)
  | parts => exact congrArg _ (hlist _ _)
  | supplierHistory id => exact hhistory _ _
  | partHistory id => exact hhistory _ _
  | supplierRisk id threshold => exact congrArg _ (hrisk _ _)
  | partRisk id => exact congrArg _ (hrisk _ _)
  | saveSupplierRisk record => exact (congrArg _ (hpass _ _)).trans (hrace _ _)
  | savePartRisk record => exact (congrArg _ (hpass _ _)).trans (hrace _ _)
  | insertEvent draft =>
      unfold perform
      split
      · rfl
      · exact congrArg _ (hpass _ _)
  | _ => exact congrArg _ (hpass _ _)

theorem FaultyStore.failingListings_giveUp (f : FaultyStore) (c : StoreCall) :
    (f.giveUp c).faults.failingListings = f.faults.failingListings := by
  have hraced : (f.raced c).faults.failingListings = f.faults.failingListings := by
    unfold raced raceWriter
    split
    · split <;> rfl
    · split <;> rfl
    · rfl
  unfold giveUp
  split <;> exact hraced

namespace Engine

variable {e : Engine} {pass : Pass} {f g : FaultyStore}

/-- The failure of the first listing of a run. -/
def firstUnlisted? (options : RunOptions) : Option RiskError :=
  if Pass.suppliers.wanted options then Pass.suppliers.unlisted?
  else if Pass.parts.wanted options then Pass.parts.unlisted?
  else none

theorem ends_of_tour {targets : List EntityRef} {cause : Halt} (htour : e.tour pass targets f = .error cause g) :
    cause.Ends := by
  induction targets generalizing f with
  | nil => cases htour
  | cons z rest ih =>
      simp only [tour, OnStore.bind_apply, OnStore.pure_apply] at htour
      cases hvisit : e.visitOn pass z f with
      | error cause' g' =>
          rw [hvisit] at htour
          cases htour
          unfold visitOn Visit.ofAttempt at hvisit
          split at hvisit <;> cases hvisit
          · exact .calendar
          · exact .word
      | ok v g' =>
          rw [hvisit] at htour
          dsimp only at htour
          cases hrest : e.tour pass rest g' with
          | error cause' g'' =>
              rw [hrest] at htour
              cases htour
              exact ih hrest
          | ok vs g'' =>
              rw [hrest] at htour
              cases htour

theorem failingListings_tallyOf (e : Engine) (pass : Pass) (pace : Pace) (targets : List EntityRef) (f : FaultyStore) :
    ((e.tallyOf pass pace targets).after f).faults.failingListings = f.faults.failingListings := by
  cases pace with
  | timeless => rfl
  | endless =>
      have hkeeps := e.tour_keeps pass (I := fun g => g.faults.failingListings = f.faults.failingListings) (f := f)
        targets (fun z _ g hg => Script.run_keeps (Script.only_all (e.work pass z))
          (I := fun g => g.faults.failingListings = f.faults.failingListings)
          (fun c _ g hg => (g.failingListings_perform c).trans hg)
          (fun c _ g hg => (g.failingListings_giveUp c).trans hg) g hg) rfl
      unfold OnStore.after at hkeeps ⊢
      simp only [tallyOf, OnStore.bind_apply, OnStore.pure_apply]
      cases htour : e.tour pass targets f with
      | ok vs g =>
          rw [htour] at hkeeps
          exact hkeeps
      | error cause g =>
          rw [htour] at hkeeps
          exact hkeeps

section Rounds

variable {arrange : List EntityRef → List EntityRef} {wanted : Bool} {pace : Pace}
  {add : RunSummary → Tally → RunSummary} {summary : RunSummary} {error : RiskError}

/-- The tally of a pass can only stop at the end of the calendar or of the numbers. -/
theorem ends_of_tallyOf {targets : List EntityRef} {cause : Halt}
    (htally : e.tallyOf pass pace targets f = .error cause g) : cause.Ends := by
  cases pace with
  | timeless => cases htally
  | endless =>
      simp only [tallyOf, OnStore.bind_apply, OnStore.pure_apply] at htally
      cases htour : e.tour pass targets f with
      | ok vs g' =>
          rw [htour] at htally
          cases htally
      | error cause' g' =>
          rw [htour] at htally
          cases htally
          exact ends_of_tour htour

/-- A pass whose listing fails ends with the store as it was. -/
theorem round_of_unlisted (hfailing : f.faults.failingListings = true) (herror : pass.unlisted? = some error) :
    e.round arrange true pass pace add summary f = .error (.failure error) f := by
  simp only [round, if_true, OnStore.bind_apply, Pass.list, hfailing, herror]

/-- A pass fails for no other reason. -/
theorem unlisted_of_round (hround : e.round arrange wanted pass pace add summary f = .error (.failure error) g) :
    wanted = true ∧ f.faults.failingListings = true ∧ pass.unlisted? = some error ∧ g = f := by
  cases wanted with
  | false => cases hround
  | true =>
      simp only [round, if_true, OnStore.bind_apply, OnStore.pure_apply, Pass.list] at hround
      split at hround
      · rename_i hlist
        split at hlist
        · cases hlist
        · cases hlist
          split at hround
          · cases hround
          · rename_i htally
            cases hround
            have hends := ends_of_tallyOf htally
            cases hends
      · rename_i hlist
        split at hlist
        · rename_i hfailing hunlisted
          cases hlist
          cases hround
          exact ⟨rfl, hfailing, hunlisted, rfl⟩
        · cases hlist

/-- A pass that is done has not changed whether listings fail; and where they do, it was not asked for, unless its
listing cannot fail. -/
theorem listings_of_round {summary' : RunSummary}
    (hround : e.round arrange wanted pass pace add summary f = .ok summary' g) :
    g.faults.failingListings = f.faults.failingListings ∧
      (f.faults.failingListings = true → pass.unlisted?.isSome = true → wanted = false ∧ g = f) := by
  cases wanted with
  | false =>
      cases hround
      exact ⟨rfl, fun _ _ => ⟨rfl, rfl⟩⟩
  | true =>
      refine ⟨?_, fun hfailing hunlisted => ?_⟩
      · rcases round_eq_ok hround with ⟨hskipped, -⟩ | ⟨-, tally, htally, -⟩
        · cases hskipped
        · have hkeeps := e.failingListings_tallyOf pass pace (arrange (pass.targets f.store)) f
          rwa [OnStore.after_of_ok htally] at hkeeps
      · obtain ⟨error, herror⟩ := Option.isSome_iff_exists.1 hunlisted
        cases (round_of_unlisted hfailing herror).symm.trans hround

end Rounds

/-- The passes of a run fail if the first of their listings does, and for no other reason; the store is then as it
was. -/
theorem rounds_fail_iff {arrange : List EntityRef → List EntityRef} {options : RunOptions} {pace : Pace}
    {error : RiskError} :
    e.rounds arrange options pace f = .error (.failure error) g ↔
      f.faults.failingListings = true ∧ firstUnlisted? options = some error ∧ g = f := by
  constructor
  · intro hrounds
    simp only [rounds, OnStore.bind_apply] at hrounds
    cases hsuppliers : e.round arrange (Pass.suppliers.wanted options) .suppliers pace .addSuppliers {} f with
    | error cause f₁ =>
        rw [hsuppliers] at hrounds
        cases hrounds
        obtain ⟨hwanted, hfailing, herror, hg⟩ := unlisted_of_round hsuppliers
        exact ⟨hfailing, by rw [firstUnlisted?, if_pos hwanted, herror], hg⟩
    | ok summary₁ f₁ =>
    rw [hsuppliers] at hrounds
    dsimp only at hrounds
    obtain ⟨hsame, hnot⟩ := listings_of_round hsuppliers
    cases hparts : e.round arrange (Pass.parts.wanted options) .parts pace .addParts summary₁ f₁ with
    | error cause f₂ =>
        rw [hparts] at hrounds
        cases hrounds
        -- Listings fail, so the pass over suppliers was not asked for.
        obtain ⟨hwanted, hfailing, herror, rfl⟩ := unlisted_of_round hparts
        obtain ⟨hskipped, rfl⟩ := hnot (hsame ▸ hfailing) rfl
        exact ⟨hfailing, by rw [firstUnlisted?, if_neg (by simp [hskipped]), if_pos hwanted, herror], rfl⟩
    | ok summary₂ f₂ =>
        rw [hparts] at hrounds
        cases (unlisted_of_round hrounds).2.2.1
  · rintro ⟨hfailing, hfirst, rfl⟩
    simp only [rounds, OnStore.bind_apply]
    cases hsuppliers : Pass.suppliers.wanted options with
    | true =>
        rw [firstUnlisted?, if_pos hsuppliers] at hfirst
        rw [round_of_unlisted hfailing hfirst]
    | false =>
        rw [firstUnlisted?, if_neg (by simp [hsuppliers])] at hfirst
        cases hparts : Pass.parts.wanted options with
        | true =>
            rw [if_pos hparts] at hfirst
            rw [round_skipped, OnStore.pure_apply]
            dsimp only
            rw [round_of_unlisted hfailing hfirst]
        | false =>
            rw [if_neg (by simp [hparts])] at hfirst
            cases hfirst

theorem run_ends (e : Engine) (options : RunOptions) {clock : Clock} {pace : Pace} (hpaced : e.Paced clock pace)
    (hdispatch : options.dispatchAlerts = false) (sink : Sink) (w : World) :
    (e.runTimed clock .caller sink options).ends w =
      match e.rounds Crew.caller.route options pace w.backend with
      | .ok summary g => .ok summary.sortErrors g
      | .error cause g => .error cause g := by
  rw [run_does hpaced .caller sink options w, ParallelConfig.engage_caller]
  simp only [OnStore.bind_apply, OnStore.pure_apply, offer, hdispatch, Bool.false_eq_true, if_false]
  cases e.rounds Crew.caller.route options pace w.backend <;> rfl

/-- A run without dispatch fails exactly if the first listing of its targets does. -/
theorem run_fails_iff {options : RunOptions} {clock : Clock} {pace : Pace} (hpaced : e.Paced clock pace)
    (hdispatch : options.dispatchAlerts = false) {sink : Sink} {w : World} {error : RiskError} :
    (∃ w', e.runTimed clock .caller sink options w = .error (.failure error) w') ↔
      w.backend.faults.failingListings = true ∧ firstUnlisted? options = some error := by
  have hends := e.run_ends options hpaced hdispatch sink w
  constructor
  · rintro ⟨w', hrun⟩
    rw [Running.ends_eq_error_iff.2 ⟨w', hrun, rfl⟩] at hends
    cases hrounds : e.rounds Crew.caller.route options pace w.backend with
    | ok summary g =>
        rw [hrounds] at hends
        cases hends
    | error cause g =>
        rw [hrounds] at hends
        cases hends
        obtain ⟨hfailing, hfirst, -⟩ := rounds_fail_iff.1 hrounds
        exact ⟨hfailing, hfirst⟩
  · rintro ⟨hfailing, hfirst⟩
    rw [rounds_fail_iff.2 ⟨hfailing, hfirst, rfl⟩] at hends
    obtain ⟨w', hrun, -⟩ := Running.ends_eq_error_iff.1 hends
    exact ⟨w', hrun⟩

/-- The visit of a missing target is counted as failed, and leaves the store as it was. -/
theorem visit_without_missing {clock : Clock} (hpaced : e.Paced clock .endless) {s : Store} {pass : Pass}
    {z : EntityRef} (hz : z ∈ pass.targets s) (hmissing : missing.contains z.rank = true) (place : Nat) (tally : Tally) {w : World}
    (hw : w.backend = s.without missing) :
    ∃ w', e.visit (e.late clock pass place) pass tally z w = .ok (tally.fail (pass.notFound z)) w' ∧
      w'.backend = w.backend := by
  have hvisit := e.visitOn_without_missing s hmissing
    fun hpass => (Pass.part_of_mem_targets hz hpass).imp fun id h => h.1
  have hdoes := visit_does e pass (hpaced.shows pass place) tally z w
  simp only [OnStore.bind_apply, counted, hw, hvisit] at hdoes
  obtain ⟨w', hok, hw'⟩ := Running.ends_eq_ok_iff.1 hdoes
  refine ⟨w', ?_, hw'.trans hw.symm⟩
  rw [hok, Tally.merge_ofVisit_error tally rfl]
  rfl

/-- **Failing entities are isolated.**  Let the caller alone run without deadline and dispatch over a store in which some
entities are missing, and compare the run with the same passes over the entities that are not.

* If calendar or numbers end for those passes, they end for the run, with the same store left behind.  Otherwise the run
  succeeds and leaves the same store; all its counters are theirs, and its failures, which are sorted, are theirs
  and one more for each missing target of each pass, which says with the operation of the pass that the entity was
  not found.
* Visiting a missing target leaves the store as it was.
* Whatever the faults, a run fails exactly if the first listing of its targets does; and a pass that fails has left
  the store as it found it. -/
theorem missing_entities_are_isolated (e : Engine) (hnone : e.config.run.timeoutSeconds = none) (clock : Clock)
    (options : RunOptions) (hdispatch : options.dispatchAlerts = false) (sink : Sink) :
    (∀ (s : Store) (missing : Roster EntityRef) (w : World), w.backend = s.without missing →
      match e.rounds (List.filter (kept missing)) options .endless (.plain s) with
      | .error cause g => cause.Ends ∧
          ∃ w', e.runTimed clock .caller sink options w = .error cause w' ∧ w'.backend = g.store.without missing
      | .ok others g =>
          ∃ summary w', e.runTimed clock .caller sink options w = .ok summary w' ∧
            w'.backend = g.store.without missing ∧
            { summary with errors := [] } = { others with errors := [] } ∧
            summary.errors.Pairwise (fun a b => a.le b = true) ∧
            summary.errors.Perm (others.errors ++ options.missed missing g.store)) ∧
    (∀ (s : Store) (missing : Roster EntityRef) (pass : Pass) (place : Nat) (z : EntityRef), z ∈ pass.targets s →
      missing.contains z.rank = true → ∀ (tally : Tally) (w : World), w.backend = s.without missing →
        ∃ w', e.visit (e.late clock pass place) pass tally z w = .ok (tally.fail (pass.notFound z)) w' ∧
          w'.backend = w.backend) ∧
    (∀ (w : World) (error : RiskError),
      (∃ w', e.runTimed clock .caller sink options w = .error (.failure error) w') ↔
        w.backend.faults.failingListings = true ∧ firstUnlisted? options = some error) ∧
    (∀ (wanted : Bool) (pass : Pass) (add : RunSummary → Tally → RunSummary) (summary : RunSummary)
      (w w' : World) (error : RiskError),
      e.passIf clock .caller wanted pass add summary w = .error (.failure error) w' →
        w.backend.faults.failingListings = true ∧ pass.unlisted? = some error ∧ w'.backend = w.backend) := by
  have hpaced := Engine.paced_endless hnone clock
  refine ⟨fun s missing w hw => ?_, fun s missing pass place z hz hmissing tally w hw =>
    visit_without_missing hpaced hz hmissing place tally hw, fun w error => run_fails_iff hpaced hdispatch, ?_⟩
  · have hsides := e.rounds_without options missing s
    have hrun := e.run_ends options hpaced hdispatch sink w
    rw [hw] at hrun
    cases hothers : e.rounds (List.filter (kept missing)) options .endless (.plain s) with
    | error cause g =>
        rw [hothers] at hsides
        obtain ⟨hcause, t, rfl, hall⟩ := hsides
        rw [hall] at hrun
        exact ⟨hcause, Running.ends_eq_error_iff.1 hrun⟩
    | ok others g =>
        rw [hothers] at hsides
        obtain ⟨t, summary, rfl, hall, hextends⟩ := hsides
        rw [hall] at hrun
        obtain ⟨w', hrun', hw'⟩ := Running.ends_eq_ok_iff.1 hrun
        exact ⟨summary.sortErrors, w', hrun', hw', hextends.counts, summary.pairwise_sortErrors,
          (List.mergeSort_perm _ _).trans hextends.errors⟩
  · intro wanted pass add summary w w' error hpass
    have hround := passIf_does hpaced .caller wanted pass add summary w
    rw [Running.ends_eq_error_iff.2 ⟨w', hpass, rfl⟩] at hround
    obtain ⟨-, hfailing, hunlisted, hg⟩ := unlisted_of_round hround.symm
    exact ⟨hfailing, hunlisted, hg⟩

/-- A second part besides the one with a single source. -/
def twoParts : Store := Store.oneSource.addPart ⟨⟨11⟩, "P0011", "Drive shaft", none, none⟩

/-- Of two parts the second one is missing.  The first one is assessed, and logs its event. -/
theorem missing_part_is_isolated :
    let e := standardOn Store.sampleDay
    let options : RunOptions := { partsOnly := true, generateRecommendations := true }
    e.config.run.timeoutSeconds = none ∧ options.dispatchAlerts = false ∧
      ∃ summary w', e.run .accepting options { backend := twoParts.without (.ofList [.part ⟨11⟩]) } = .ok summary w' ∧
        summary.partsAssessed = 1 ∧ summary.riskEventsCreated = 1 ∧
        summary.errors = [Pass.parts.notFound (.part ⟨11⟩)] := by
  intro e options
  refine ⟨rfl, rfl, ?_⟩
  have hrun := (missing_entities_are_isolated e rfl .still options rfl .accepting).1 twoParts (.ofList [.part ⟨11⟩])
    { backend := twoParts.without (.ofList [.part ⟨11⟩]) } rfl
  have hothers : OnStore.answer? (do
      let others ← e.rounds (List.filter (kept (.ofList [.part ⟨11⟩]))) options .endless
      return (others, options.missed (.ofList [.part ⟨11⟩]) (← get).store)) (.plain twoParts) =
      some ({ partsAssessed := 1, partsHighRisk := 1, riskEventsCreated := 1 },
        [Pass.parts.notFound (.part ⟨11⟩)]) := by decide +kernel
  simp only [OnStore.answer?, OnStore.bind_apply] at hothers
  cases hrounds : e.rounds (List.filter (kept (.ofList [.part ⟨11⟩]))) options .endless (.plain twoParts) with
  | error cause g =>
      rw [hrounds] at hothers
      cases hothers
  | ok others g =>
      rw [hrounds] at hrun hothers
      obtain ⟨hsummary, hmissed⟩ := Prod.mk.inj (Option.some.inj hothers)
      obtain ⟨summary, w', hok, -, hcounts, -, herrors⟩ := hrun
      simp only [hsummary, RunSummary.mk.injEq] at hcounts
      rw [hsummary] at herrors
      exact ⟨summary, w', hok, hcounts.2.2.1, hcounts.2.2.2.2.2.2.2.1,
        List.perm_singleton.1 (hmissed ▸ herrors)⟩

/-- The standard settings, but for a history window of more days than there are in the calendar. -/
def longMemory : Engine :=
  ⟨{ scoring := { historyWindowDays := 4294967295 } }, {}, .midnight Store.sampleDay⟩

/-- A run over a store with a missing entity can fail to return, since the first visit leaves the calendar.  There is
no more to be said against its settings than against the standard ones. -/
theorem long_memory_leaves_calendar :
    longMemory.config.problems = ({} : Config).problems ∧ longMemory.config.run.timeoutSeconds = none ∧
      let options : RunOptions := {}
      options.dispatchAlerts = false ∧
        ¬ ∃ summary w', longMemory.runTimed .still .caller .accepting options
          { backend := Store.oneSource.without (.ofList [.part ⟨10⟩]) } = .ok summary w' := by
  refine ⟨rfl, rfl, rfl, ?_⟩
  rintro ⟨summary, w', hrun⟩
  have hends := longMemory.run_ends {} (paced_endless rfl .still) rfl .accepting
    { backend := Store.oneSource.without (.ofList [.part ⟨10⟩]) }
  rw [Running.ends_eq_ok_iff.2 ⟨w', hrun, rfl⟩] at hends
  have hstops : (longMemory.rounds Crew.caller.route {} .endless).answer?
      (Store.oneSource.without (.ofList [.part ⟨10⟩])) = none := by decide +kernel
  unfold OnStore.answer? at hstops
  split at hends
  · rename_i hrounds
    rw [hrounds] at hstops
    cases hstops
  · cases hends

end Engine

end SupplyRisk

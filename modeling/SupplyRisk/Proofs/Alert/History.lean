import Mathlib.Data.List.Forall2
import SupplyRisk.Alert.Lifecycle
import SupplyRisk.Proofs.Level

/-!
# Histories of alerts

What an entity's alerts should show, told by what was reported about the entity alone.  A history is cut into
segments: a report of low, or a reviewer, ends the running one, and the next report at medium or above starts
another.  `Segment.record` is the alert of a segment; `peakOf_spec` says what its level and its message are.
-/

namespace SupplyRisk

/-- What was said about an entity at one instant. -/
structure Report where
  context : AlertContext
  time : Instant

def Report.level (r : Report) : Level := r.context.level

/-- When a segment ended, and by whom if a reviewer ended it. -/
structure Ending where
  time : Instant
  resolver : Option String

/-- Reports between two resets, of which there is at least one. -/
structure Segment where
  first : Report
  later : List Report

/-- The reports that strictly raise the highest level so far, which is that of `top`. -/
def raises (top : Report) : List Report → List Report
  | [] => []
  | r :: rs => if top.level < r.level then r :: raises r rs else raises top rs

/-- The report that reached the highest level. -/
def peakOf (top : Report) (rs : List Report) : Report := (raises top rs).getLast?.getD top

section Peak

variable {top r : Report} {rs : List Report}

theorem raises_of_lt (hlt : top.level < r.level) : raises top (r :: rs) = r :: raises r rs :=
  if_pos hlt

theorem raises_of_not_lt (hle : ¬ top.level < r.level) : raises top (r :: rs) = raises top rs :=
  if_neg hle

theorem peakOf_of_lt (hlt : top.level < r.level) : peakOf top (r :: rs) = peakOf r rs := by
  rw [peakOf, raises_of_lt hlt, List.getLast?_cons]
  rfl

theorem peakOf_of_not_lt (hle : ¬ top.level < r.level) : peakOf top (r :: rs) = peakOf top rs := by
  rw [peakOf, raises_of_not_lt hle]
  rfl

theorem raises_append_singleton (top : Report) (rs : List Report) (r : Report) :
    raises top (rs ++ [r]) =
      if (peakOf top rs).level < r.level then raises top rs ++ [r] else raises top rs := by
  induction rs generalizing top with
  | nil => rfl
  | cons r' rs ih =>
      rw [List.cons_append]
      by_cases hlt : top.level < r'.level
      · rw [raises_of_lt hlt, raises_of_lt hlt, peakOf_of_lt hlt, ih]
        split
        · rfl
        · rfl
      · rw [raises_of_not_lt hlt, raises_of_not_lt hlt, peakOf_of_not_lt hlt, ih]

/-- The peak is the first report of the highest level: earlier ones are below it, later ones not above. -/
theorem peakOf_spec (top : Report) (rs : List Report) :
    ∃ before after, top :: rs = before ++ peakOf top rs :: after ∧
      (∀ r ∈ before, r.level < (peakOf top rs).level) ∧
      ∀ r ∈ after, r.level ≤ (peakOf top rs).level := by
  induction rs generalizing top with
  | nil => exact ⟨[], [], rfl, by simp, by simp⟩
  | cons r rs ih =>
      by_cases hlt : top.level < r.level
      · -- The first report is below the second one, which is not above the peak of the rest.
        rw [peakOf_of_lt hlt]
        obtain ⟨before, after, hsplit, hbefore, hafter⟩ := ih r
        have hr : r.level ≤ (peakOf r rs).level := by
          cases before with
          | nil =>
              rw [← (List.cons.inj hsplit).1]
              exact Level.le_refl r.level
          | cons b bs =>
              have hb : r = b := (List.cons.inj hsplit).1
              exact Level.le_of_lt (hbefore r (by simp [hb]))
        refine ⟨top :: before, after, congrArg (top :: ·) hsplit, fun x hx => ?_, hafter⟩
        rcases List.mem_cons.1 hx with rfl | hx
        · exact Level.lt_of_lt_of_le hlt hr
        · exact hbefore x hx
      · -- The second report changes nothing, so the peak stands where it stood without it.
        rw [peakOf_of_not_lt hlt]
        have hle : r.level ≤ top.level := Level.not_lt.1 hlt
        obtain ⟨before, after, hsplit, hbefore, hafter⟩ := ih top
        cases before with
        | nil =>
            obtain ⟨htop, rfl⟩ := List.cons.inj hsplit
            refine ⟨[], r :: rs, by rw [← htop]; rfl, by simp, fun x hx => ?_⟩
            rcases List.mem_cons.1 hx with rfl | hx
            · rwa [← htop]
            · exact hafter x hx
        | cons b bs =>
            obtain ⟨rfl, hrs⟩ := List.cons.inj hsplit
            have htop : top.level < (peakOf top rs).level := hbefore top (by simp)
            refine ⟨top :: r :: bs, after, congrArg (top :: r :: ·) hrs, fun x hx => ?_, hafter⟩
            rcases List.mem_cons.1 hx with rfl | hx
            · exact htop
            · rcases List.mem_cons.1 hx with rfl | hx
              · exact Level.lt_of_le_of_lt hle htop
              · exact hbefore x (by simp [hx])

end Peak

namespace Segment

def reports (g : Segment) : List Report := g.first :: g.later

/-- The segment after one more report. -/
def add (g : Segment) (r : Report) : Segment := { g with later := g.later ++ [r] }

/-- The reports above all earlier ones, the first one aside. -/
def raises (g : Segment) : List Report := SupplyRisk.raises g.first g.later

def peak (g : Segment) : Report := peakOf g.first g.later

/-- The alert of a segment: open, or resolved at its end. -/
def record (g : Segment) (ending : Option Ending) (id : AlertId) : Alert where
  id := id
  entity := g.first.context.entity
  level := g.peak.level
  alertType := g.first.context.alertType
  category := g.first.context.category
  message := g.peak.context.message
  resolved := ending.isSome
  openedAt := g.first.time
  escalatedAt := g.raises.getLast?.map (·.time)
  resolvedAt := ending.map (·.time)
  resolvedBy := ending.bind (·.resolver)
  eventPending := g.peak.level.isHigh
  event := none

theorem raises_add (g : Segment) (r : Report) :
    (g.add r).raises = if g.peak.level < r.level then g.raises ++ [r] else g.raises :=
  raises_append_singleton g.first g.later r

theorem peak_add (g : Segment) (r : Report) :
    (g.add r).peak = if g.peak.level < r.level then r else g.peak := by
  have hpeak : (g.add r).peak = (g.add r).raises.getLast?.getD g.first := rfl
  rw [hpeak, raises_add]
  split
  · rw [List.getLast?_append]
    rfl
  · rfl

/-! ## Alerts of segments -/

/-- A report above the peak escalates the alert. -/
theorem record_add_of_lt {g : Segment} {r : Report} (hlt : g.peak.level < r.level) (id : AlertId) :
    (g.add r).record none id = r.context.escalated (g.record none id) r.level r.time := by
  have hpeak : (g.add r).peak = r := by rw [peak_add, if_pos hlt]
  have hraises : (g.add r).raises = g.raises ++ [r] := by rw [raises_add, if_pos hlt]
  have hpending : (g.peak.level.isHigh || r.level.isHigh) = r.level.isHigh := by
    cases hhigh : g.peak.level.isHigh with
    | false => rfl
    | true =>
        have hle : Level.high ≤ r.level :=
          Level.le_of_lt (Level.lt_of_le_of_lt (of_decide_eq_true hhigh) hlt)
        exact (decide_eq_true hle).symm
  simp only [record, hpeak, hraises, List.getLast?_append, AlertContext.escalated, Alert.escalate,
    hpending]
  rfl

/-- A report that is not above the peak leaves the alert as it is. -/
theorem record_add_of_not_lt {g : Segment} {r : Report} (hle : ¬ g.peak.level < r.level)
    (id : AlertId) : (g.add r).record none id = g.record none id := by
  have hpeak : (g.add r).peak = g.peak := by rw [peak_add, if_neg hle]
  have hraises : (g.add r).raises = g.raises := by rw [raises_add, if_neg hle]
  simp only [record, hpeak, hraises]
  rfl

end Segment

/-! ## Histories -/

/-- What one step means for an entity. -/
inductive Mark where
  /-- It is reported at medium or above. -/
  | report (r : Report)
  /-- It is reported at low, or a reviewer resolves its open alert. -/
  | reset (ending : Ending)

/-- The history of an entity. -/
structure History where
  /-- The segments that were ended by a reset, with their ends. -/
  past : List (Segment × Ending)
  /-- The reports since the last reset. -/
  current : List Report

namespace History

def empty : History := ⟨[], []⟩

/-- A reset ends the running segment, if there is one. -/
def add (h : History) : Mark → History
  | .report r => { h with current := h.current ++ [r] }
  | .reset ending =>
      match h.current with
      | [] => h
      | first :: later => ⟨h.past ++ [(⟨first, later⟩, ending)], []⟩

/-- The number of segments, the running one included. -/
def segmentCount (h : History) : Nat :=
  match h.current with
  | [] => h.past.length
  | _ :: _ => h.past.length + 1

/-- An alert of a segment that ended. -/
def Settled (p : Segment × Ending) (a : Alert) : Prop := a = p.1.record (some p.2) a.id

/-- Alerts that a history calls for, in order: a resolved one for every segment that ended, and an open one
for the running segment if there is one. -/
inductive Tells (h : History) : List Alert → Prop
  | settled {old : List Alert}
      (hold : List.Forall₂ Settled h.past old)
      (hcurrent : h.current = []) : Tells h old
  | running {old : List Alert} {g : Segment} {a : Alert}
      (hold : List.Forall₂ Settled h.past old)
      (hcurrent : h.current = g.reports) (ha : a = g.record none a.id) : Tells h (old ++ [a])

variable {h : History} {rows old : List Alert} {a : Alert}

theorem isOpen_of_settled {past : List (Segment × Ending)} (hold : List.Forall₂ Settled past old)
    (hmem : a ∈ old) : a.isOpen = false := by
  induction hold with
  | nil => cases hmem
  | cons hsettled hrest ih =>
      rcases List.mem_cons.1 hmem with rfl | hmem
      · rw [hsettled]
        rfl
      · exact ih hmem

/-- Without an open alert no segment is running. -/
theorem Tells.of_none_open (htells : h.Tells rows) (hnone : ∀ a ∈ rows, a.isOpen = false) :
    h.current = [] ∧ List.Forall₂ Settled h.past rows := by
  cases htells with
  | settled hold hcurrent => exact ⟨hcurrent, hold⟩
  | running hold hcurrent ha =>
      have hclosed := hnone _ (List.mem_append_right _ List.mem_cons_self)
      rw [ha] at hclosed
      cases hclosed

/-- An open alert is the last one, and that of the running segment. -/
theorem Tells.of_open (htells : h.Tells rows) (hmem : a ∈ rows) (hopen : a.isOpen = true) :
    ∃ old, ∃ g : Segment, rows = old ++ [a] ∧ List.Forall₂ Settled h.past old ∧
      h.current = g.reports ∧ a = g.record none a.id := by
  cases htells with
  | settled hold hcurrent =>
      rw [isOpen_of_settled hold hmem] at hopen
      cases hopen
  | running hold hcurrent ha =>
      rcases List.mem_append.1 hmem with hmem | hmem
      · rw [isOpen_of_settled hold hmem] at hopen
        cases hopen
      · rw [List.mem_singleton.1 hmem]
        exact ⟨_, _, rfl, hold, hcurrent, ha⟩

/-- There is one alert for every segment. -/
theorem Tells.length_eq (htells : h.Tells rows) : rows.length = h.segmentCount := by
  cases htells with
  | settled hold hcurrent =>
      rw [segmentCount, hcurrent]
      exact hold.length_eq.symm
  | running hold hcurrent ha =>
      rw [segmentCount, hcurrent, List.length_append, ← hold.length_eq]
      rfl

/-! ## One step -/

/-- A report opens an alert when no segment is running. -/
theorem Tells.start (htells : h.Tells rows) (hnone : ∀ a ∈ rows, a.isOpen = false) (r : Report)
    (id : AlertId) : (h.add (.report r)).Tells (rows ++ [Segment.record ⟨r, []⟩ none id]) := by
  obtain ⟨hcurrent, hold⟩ := htells.of_none_open hnone
  refine .running hold (g := ⟨r, []⟩) ?_ rfl
  show h.current ++ [r] = [r]
  rw [hcurrent, List.nil_append]

/-- A report goes to the running segment. -/
theorem tells_report {g : Segment} (hold : List.Forall₂ Settled h.past old)
    (hcurrent : h.current = g.reports) (r : Report) (id : AlertId) :
    (h.add (.report r)).Tells (old ++ [(g.add r).record none id]) := by
  refine .running hold (g := g.add r) ?_ rfl
  show h.current ++ [r] = _
  rw [hcurrent]
  rfl

/-- A reset ends the running segment. -/
theorem tells_reset {g : Segment} (hold : List.Forall₂ Settled h.past old)
    (hcurrent : h.current = g.reports) (ending : Ending) (id : AlertId) :
    (h.add (.reset ending)).Tells (old ++ [g.record (some ending) id]) := by
  have hadd : h.add (.reset ending) = ⟨h.past ++ [(g, ending)], []⟩ := by
    simp only [add, hcurrent, Segment.reports]
  rw [hadd]
  exact .settled (List.rel_append hold (.cons rfl .nil)) rfl

/-- A reset means nothing when no segment is running. -/
theorem add_reset_of_nil (hcurrent : h.current = []) (ending : Ending) :
    h.add (.reset ending) = h := by
  simp only [add, hcurrent]

end History

end SupplyRisk

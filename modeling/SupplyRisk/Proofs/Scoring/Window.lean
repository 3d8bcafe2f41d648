import SupplyRisk.Scoring.Factors

/-!
# The trailing window

The delivery factor and the stockout score look at the date of an order line in one way only: they ask whether the line
is ordered on or after the first day of the window.  So lines from before the window do not matter
(`OrderLine.Edits.filter_eq`, `delivery_congr`, `stockout_congr`).  The window ought to end today, but nothing asks for
its last day: a line from after today counts as one of today (`delivery_notAfter`, `stockout_notAfter`), and it can
change a score (`later_order_raises_stockout`).
-/

namespace SupplyRisk

namespace OrderLine

/-- The second list comes from the first by adding, removing and altering lines of a kind. -/
inductive Edits (kind : OrderLine → Prop) : List OrderLine → List OrderLine → Prop
  | none : Edits kind [] []
  | keep {lines lines' : List OrderLine} (line : OrderLine) (hrest : Edits kind lines lines') :
      Edits kind (line :: lines) (line :: lines')
  | add {lines lines' : List OrderLine} {line : OrderLine} (hline : kind line) (hrest : Edits kind lines lines') :
      Edits kind lines (line :: lines')
  | remove {lines lines' : List OrderLine} {line : OrderLine} (hline : kind line) (hrest : Edits kind lines lines') :
      Edits kind (line :: lines) lines'
  | alter {lines lines' : List OrderLine} {line line' : OrderLine} (hline : kind line) (hline' : kind line')
      (hrest : Edits kind lines lines') : Edits kind (line :: lines) (line' :: lines')

/-- Edits of lines that a test refuses do not show in what it lets through. -/
theorem Edits.filter_eq {kind : OrderLine → Prop} {test : OrderLine → Bool}
    (hrefused : ∀ line, kind line → test line = false) {lines lines' : List OrderLine}
    (hedits : Edits kind lines lines') : lines'.filter test = lines.filter test := by
  induction hedits with
  | none => rfl
  | keep line hrest ih => simp only [List.filter_cons, ih]
  | add hline hrest ih => simp [hrefused _ hline, ih]
  | remove hline hrest ih => simp [hrefused _ hline, ih]
  | alter hline hline' hrest ih => simp [hrefused _ hline, hrefused _ hline', ih]

/-- The line, dated back to a day if it is ordered after it. -/
def notAfter (today : Date) (line : OrderLine) : OrderLine :=
  if line.orderDate ≤ today then line else { line with orderDate := today }

@[simp] theorem quantity_notAfter (today : Date) (line : OrderLine) :
    (line.notAfter today).quantity = line.quantity := by
  unfold notAfter
  split <;> rfl

@[simp] theorem isCompleted_notAfter (today : Date) (line : OrderLine) :
    (line.notAfter today).isCompleted = line.isCompleted := by
  unfold notAfter
  split <;> rfl

@[simp] theorem isLate_notAfter (today : Date) (line : OrderLine) :
    (line.notAfter today).isLate = line.isLate := by
  unfold notAfter
  split <;> rfl

/-- Dating a line back to today does not take it out of the window. -/
theorem orderedOnOrAfter_notAfter {start today : Date} (hstart : start.number ≤ today.number) (line : OrderLine) :
    (line.notAfter today).orderedOnOrAfter start = line.orderedOnOrAfter start := by
  unfold notAfter
  split
  · rfl
  · rename_i hlate
    have hlater : today.number < line.orderDate.number := Int.not_le.1 hlate
    simp only [orderedOnOrAfter, LE.le, decide_eq_decide]
    show start.number ≤ today.number ↔ start.number ≤ line.orderDate.number
    omega

end OrderLine

/-- A window starts today or earlier. -/
theorem windowStart?_le {today start : Date} {days : UInt32} (hstart : windowStart? today days = some start) :
    start.number ≤ today.number := by
  unfold windowStart? Date.subDays? Date.ofNumber? at hstart
  split at hstart
  · cases hstart
    show today.number - days.toNat ≤ today.number
    omega
  · cases hstart

namespace Factor

variable {start today : Date} {lines lines' : List OrderLine} {h : PartHistory}

theorem completedLines_eq (start : Date) (lines : List OrderLine) :
    completedLines start lines = (lines.filter (·.orderedOnOrAfter start)).filter (·.isCompleted) := by
  rw [List.filter_filter]
  exact List.filter_congr fun line _ => Bool.and_comm _ _

/-- The delivery factor depends on the lines from the start of the window on. -/
theorem delivery_congr
    (hlines : lines'.filter (·.orderedOnOrAfter start) = lines.filter (·.orderedOnOrAfter start)) :
    delivery start lines' = delivery start lines := by
  unfold delivery
  rw [completedLines_eq, completedLines_eq, hlines]

/-- Order lines enter the stockout score as the quantity that was ordered in the window. -/
theorem stockout_of_purchased (t : StockoutThresholds)
    (hpurchased : purchased start lines' = purchased start h.orderLines) :
    stockout t start { h with orderLines := lines' } = stockout t start h := by
  have hturnover : turnover start { h with orderLines := lines' } = turnover start h := by
    unfold turnover
    rw [hpurchased]
    rfl
  unfold stockout
  rw [hturnover]
  rfl

/-- The stockout score depends on the stock and on the lines from the start of the window on. -/
theorem stockout_congr (t : StockoutThresholds)
    (hlines : lines'.filter (·.orderedOnOrAfter start) = h.orderLines.filter (·.orderedOnOrAfter start)) :
    stockout t start { h with orderLines := lines' } = stockout t start h := by
  apply stockout_of_purchased
  unfold purchased
  rw [hlines]

theorem filter_map_notAfter (hstart : start.number ≤ today.number) (lines : List OrderLine) :
    (lines.map (·.notAfter today)).filter (·.orderedOnOrAfter start) =
      (lines.filter (·.orderedOnOrAfter start)).map (·.notAfter today) := by
  rw [List.filter_map]
  congr 1
  exact List.filter_congr fun line _ => OrderLine.orderedOnOrAfter_notAfter hstart line

/-- For the delivery factor, lines from after today count as lines of today. -/
theorem delivery_notAfter (hstart : start.number ≤ today.number) (lines : List OrderLine) :
    delivery start (lines.map (·.notAfter today)) = delivery start lines := by
  have hcompleted : completedLines start (lines.map (·.notAfter today)) =
      (completedLines start lines).map (·.notAfter today) := by
    rw [completedLines_eq, completedLines_eq, filter_map_notAfter hstart, List.filter_map]
    congr 1
    exact List.filter_congr fun line _ => OrderLine.isCompleted_notAfter today line
  have hlate : (completedLines start lines).countP (OrderLine.isLate ∘ (·.notAfter today)) =
      (completedLines start lines).countP OrderLine.isLate :=
    List.countP_congr fun line _ => by simp
  unfold delivery
  rw [hcompleted]
  simp only [List.countP_map, List.isEmpty_map, List.length_map, hlate]

/-- For the stockout score, lines from after today count as lines of today. -/
theorem stockout_notAfter (t : StockoutThresholds) (hstart : start.number ≤ today.number) (h : PartHistory) :
    stockout t start { h with orderLines := h.orderLines.map (·.notAfter today) } = stockout t start h := by
  apply stockout_of_purchased
  unfold purchased
  rw [filter_map_notAfter hstart, List.map_map]
  congr 1
  exact List.map_congr_left fun line _ => OrderLine.quantity_notAfter today line

end Factor

namespace ScoringConfig

variable (c : ScoringConfig) (today : Date)

/-- The delivery factor of a supplier on a day, unless the window starts before the calendar. -/
def deliveryOn? (h : SupplierHistory) : Option Score :=
  (windowStart? today c.historyWindowDays).map fun start => (SupplierFactors.ofHistory c start h).delivery

/-- The stockout score of a part on a day, unless the window starts before the calendar. -/
def stockoutOn? (h : PartHistory) : Option Score :=
  (windowStart? today c.historyWindowDays).map fun start => Factor.stockout c.stockout start h

/-- The line is ordered before the first day of the window. -/
def BeforeWindow (line : OrderLine) : Prop :=
  ∀ start, windowStart? today c.historyWindowDays = some start → line.orderDate < start

/-- **The trailing window.**  Whatever lines from before the window are added, removed or altered, the delivery factor
and the stockout score stay as they are, with or without lines from after today.  The latter count: in both scores
they count as if they were ordered today. -/
theorem scores_look_back_to_window_start :
    (∀ (h : SupplierHistory) (lines : List OrderLine), OrderLine.Edits (c.BeforeWindow today) h.orderLines lines →
      c.deliveryOn? today { h with orderLines := lines } = c.deliveryOn? today h) ∧
    (∀ (h : PartHistory) (lines : List OrderLine), OrderLine.Edits (c.BeforeWindow today) h.orderLines lines →
      c.stockoutOn? today { h with orderLines := lines } = c.stockoutOn? today h) ∧
    (∀ h : SupplierHistory, c.deliveryOn? today { h with orderLines := h.orderLines.map (·.notAfter today) } =
      c.deliveryOn? today h) ∧
    ∀ h : PartHistory, c.stockoutOn? today { h with orderLines := h.orderLines.map (·.notAfter today) } =
      c.stockoutOn? today h := by
  unfold deliveryOn? stockoutOn?
  cases hstart : windowStart? today c.historyWindowDays with
  | none => simp
  | some start =>
      have hrefused (line : OrderLine) (hline : c.BeforeWindow today line) : line.orderedOnOrAfter start = false :=
        decide_eq_false (Int.not_le.2 (hline start hstart))
      have hle : start.number ≤ today.number := windowStart?_le hstart
      refine ⟨fun h lines hedits => ?_, fun h lines hedits => ?_, fun h => ?_, fun h => ?_⟩
      · exact congrArg some (Factor.delivery_congr (hedits.filter_eq hrefused))
      · exact congrArg some (Factor.stockout_congr c.stockout (hedits.filter_eq hrefused))
      · exact congrArg some (Factor.delivery_notAfter hle h.orderLines)
      · exact congrArg some (Factor.stockout_notAfter c.stockout hle h)

end ScoringConfig

/-- The second of March 2026. -/
def marchDay : Date := ⟨20514, by decide, by decide⟩

/-- An order of a thousand pieces, so many days after that day or, with a negative number, before it. -/
def bulkOrder (days : Int) : OrderLine where
  supplier := ⟨1⟩
  part := ⟨10⟩
  orderDate := (marchDay.addDays? days).getD marchDay
  quantity := 1000
  received := 0
  unitPrice := 1
  targetDate := none
  receivedDate := none

/-- The history of a part with ten pieces in stock. -/
def stockedHistory (lines : List OrderLine) : PartHistory where
  part := ⟨⟨10⟩, "P0010", "Gearbox housing", none, none⟩
  stockItems := [⟨⟨10⟩, 10, true⟩]
  orderLines := lines
  suppliers := [⟨1⟩]
  linkedSuppliers := [⟨1⟩]

/-- An order from two years ago does not change the stockout score. -/
theorem old_order_does_not_count :
    OrderLine.Edits (ScoringConfig.BeforeWindow {} marchDay) [] [bulkOrder (-730)] ∧
      ScoringConfig.stockoutOn? {} marchDay (stockedHistory [bulkOrder (-730)]) =
        ScoringConfig.stockoutOn? {} marchDay (stockedHistory []) := by
  have hold : ScoringConfig.BeforeWindow {} marchDay (bulkOrder (-730)) := by
    intro start hstart
    have hday : windowStart? marchDay ({} : ScoringConfig).historyWindowDays = marchDay.addDays? (-365) := by decide
    rw [hday] at hstart
    cases hstart
    decide
  have hedits : OrderLine.Edits (ScoringConfig.BeforeWindow {} marchDay) [] [bulkOrder (-730)] := .add hold .none
  obtain ⟨-, hstockout, -, -⟩ := ScoringConfig.scores_look_back_to_window_start {} marchDay
  exact ⟨hedits, hstockout (stockedHistory []) _ hedits⟩

/-- An order that is dated two weeks after today raises the stockout score of today from 10 to 90. -/
theorem later_order_raises_stockout :
    marchDay < (bulkOrder 15).orderDate ∧
      OrderLine.Edits (fun line => marchDay < line.orderDate) [] [bulkOrder 15] ∧
      ScoringConfig.stockoutOn? {} marchDay (stockedHistory []) = some ⟨10, by decide⟩ ∧
      ScoringConfig.stockoutOn? {} marchDay (stockedHistory [bulkOrder 15]) = some ⟨90, by decide⟩ := by
  have hlater : marchDay < (bulkOrder 15).orderDate := by decide
  exact ⟨hlater, .add hlater .none, by decide +kernel, by decide +kernel⟩

end SupplyRisk

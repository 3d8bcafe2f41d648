import SupplyRisk.Proofs.Store.Effect
import SupplyRisk.Record.PartRisk

/-!
# Derived fields of risk records

An assessment derives score and level of a record from factors or flags, and writes down all of them together.
`SupplierRisk.Derived` and `PartRisk.Derived` say that a record that was assessed still has the score and the level
that its other fields call for.  A new record, a new threshold and a new assessment are all right; `AssessedOn` is what
an assessment does to the dates of a supplier.
-/

namespace SupplyRisk

/-! ## Days -/

namespace Date

variable {a b : Date}

theorem le_of_not_lt (h : ¬ a < b) : b ≤ a := Int.not_lt.1 h

theorem not_lt_of_le (h : a ≤ b) : ¬ b < a := Int.not_lt.2 h

theorem le_of_addDays? {days : Nat} (h : a.addDays? days = some b) : a ≤ b := by
  unfold addDays? ofNumber? at h
  split at h
  · cases h
    show a.number ≤ a.number + days
    omega
  · cases h

end Date

/-- The dates of a supplier that is assessed on a day, for which the next assessment was planned or not: a planned one is
kept if it is not before that day, and otherwise the next one is the interval later. -/
structure AssessedOn (today : Date) (intervalDays : UInt32) (planned last next : Option Date) : Prop where
  last_eq : last = some today
  kept : ∀ day, planned = some day → today ≤ day → next = some day
  moved : (∀ day, planned = some day → day < today) →
    ∃ day, today.addDays? intervalDays.toNat = some day ∧ next = some day

namespace AssessedOn

variable {today : Date} {intervalDays : UInt32} {planned last last' next next' : Option Date}

/-- The next assessment is not before the last one. -/
theorem exists_next (h : AssessedOn today intervalDays planned last next) : ∃ day, next = some day ∧ today ≤ day := by
  by_cases hplanned : ∃ day, planned = some day ∧ today ≤ day
  · obtain ⟨day, hday, hle⟩ := hplanned
    exact ⟨day, h.kept day hday hle, hle⟩
  · obtain ⟨day, hadd, hnext⟩ := h.moved fun day hday =>
      Decidable.byContradiction fun hlt => hplanned ⟨day, hday, Date.le_of_not_lt hlt⟩
    exact ⟨day, hnext, Date.le_of_addDays? hadd⟩

/-- To be assessed again on the same day moves nothing. -/
theorem again (h : AssessedOn today intervalDays planned last next)
    (h' : AssessedOn today intervalDays next last' next') : AssessedOn today intervalDays planned last' next' := by
  obtain ⟨day, hnext, hle⟩ := h.exists_next
  have hsame : next' = next := (h'.kept day hnext hle).trans hnext.symm
  exact ⟨h'.last_eq, hsame ▸ h.kept, hsame ▸ h.moved⟩

end AssessedOn

/-! ## Suppliers -/

theorem checkPercentage_le {field : String} {value : Int} {percentage : UInt8}
    (hcheck : checkPercentage field value = .ok percentage) : percentage ≤ 100 := by
  unfold checkPercentage at hcheck
  split at hcheck
  · cases hcheck
    rw [UInt8.le_iff_toNat_le, UInt8.toNat_ofNat']
    show value.toNat % 256 ≤ 100
    omega
  · cases hcheck

namespace SupplierRisk

/-- The threshold is a percentage, and once the supplier has been assessed, its score and its level are those of its
factors, and a next assessment is planned that is not before the last one. -/
structure Derived (w : Weights) (r : SupplierRisk) : Prop where
  threshold_le : r.alertThreshold ≤ 100
  assessed : ∀ last, r.lastAssessment = some last →
    r.overall = w.overall r.factors ∧ r.level = Level.ofOverall r.overall ∧
      ∃ next, r.nextAssessment = some next ∧ last ≤ next

variable {w : Weights} {r r' : SupplierRisk} {today : Date} {intervalDays : UInt32}

theorem derived_new (id : SupplierId) {threshold : UInt8} (hthreshold : threshold ≤ 100) :
    (new id threshold).Derived w :=
  ⟨hthreshold, fun _ hlast => nomatch hlast⟩

theorem Derived.setAlertThreshold {value : Int} (h : r.Derived w) (hset : r.setAlertThreshold value = .ok r') :
    r'.Derived w := by
  obtain ⟨percentage, hcheck, rfl⟩ := map_eq_ok_iff.1 hset
  exact ⟨checkPercentage_le hcheck, h.assessed⟩

theorem assessedOn_of_assess? {a : SupplierAssessment} (hassess : r.assess? a today intervalDays = some r') :
    AssessedOn today intervalDays r.nextAssessment r'.lastAssessment r'.nextAssessment := by
  obtain ⟨next, hnext, rfl⟩ := Option.map_eq_some_iff.1 hassess
  refine ⟨rfl, fun day hday hle => ?_, fun hpast => ⟨next, ?_, rfl⟩⟩
  · rw [hday, scheduled?, if_neg (Date.not_lt_of_le hle)] at hnext
    exact hnext.symm
  · unfold scheduled? at hnext
    split at hnext
    · rename_i day hday
      rwa [if_pos (hpast day hday)] at hnext
    · exact hnext

/-- An assessment derives all that it writes, whatever there was before. -/
theorem Derived.assess? {f : SupplierFactors} (h : r.Derived w)
    (hassess : r.assess? (.ofFactors w f) today intervalDays = some r') : r'.Derived w := by
  obtain ⟨next, hnext, hle⟩ := (assessedOn_of_assess? hassess).exists_next
  obtain ⟨day, -, rfl⟩ := Option.map_eq_some_iff.1 hassess
  refine ⟨h.threshold_le, fun last hlast => ⟨rfl, rfl, next, hnext, ?_⟩⟩
  cases hlast
  exact hle

end SupplierRisk

/-! ## Parts -/

theorem PartFlags.combined_le (f : PartFlags) (stockout : Score) : f.combined stockout ≤ 87 := by
  have hweight : f.weight ≤ 75 := by
    unfold weight
    split <;> split <;> split <;> decide
  have hstockout := stockout.value_le
  rw [UInt8.le_iff_toNat_le, combined, UInt8.toNat_ofNat']
  show min ((f.weight + stockout.value) / 2) 100 % 256 ≤ 87
  omega

namespace PartRisk

/-- Once the part has been assessed, its score and its level are those of its flags and its stockout score. -/
def Derived (r : PartRisk) : Prop :=
  ∀ last, r.lastAssessment = some last →
    r.combined = (r.flags r.singleSource).combined r.stockout ∧ r.combined ≤ 87 ∧ r.level = Level.ofCombined r.combined

theorem derived_new (id : PartId) : (new id).Derived := fun _ hlast => nomatch hlast

theorem derived_assess (r : PartRisk) (f : PartFlags) (stockout : Score) (today : Date) :
    (r.assess (.ofFlags f stockout) today).Derived :=
  fun _ _ => ⟨rfl, f.combined_le stockout, rfl⟩

end PartRisk

end SupplyRisk

import SupplyRisk.Proofs.Store.Effect

/-!
# One suggestion per part and supplier

The store refuses to add a suggestion whose part and supplier stand in another one.  So no call breaks the invariant
that no supplier is suggested twice for a part, with one exception: writing a suggestion that is stored already is
not checked (`suggested_once_but_for_edits`).  An edit keeps the invariant exactly when no other suggestion has the
part and the supplier that the edited one has now, and one that does not is accepted all the same
(`edited_suggestion_repeats_another`).
-/

namespace SupplyRisk

theorem RecommendationId.toNat_inj {i j : RecommendationId} : i.value.toNat = j.value.toNat ↔ i = j := by
  constructor
  · intro h
    exact congrArg RecommendationId.mk (UInt64.toNat_inj.1 h)
  · rintro rfl
    rfl

namespace Store

/-- No supplier is suggested twice for one part. -/
def SuggestedOnce (s : Store) : Prop :=
  ∀ r ∈ s.recommendations.rows, ∀ t ∈ s.recommendations.rows,
    r.part = t.part → r.suggestedSupplier = t.suggestedSupplier → r = t

instance (s : Store) : Decidable s.SuggestedOnce :=
  inferInstanceAs (Decidable (∀ r ∈ s.recommendations.rows, ∀ t ∈ s.recommendations.rows,
    r.part = t.part → r.suggestedSupplier = t.suggestedSupplier → r = t))

/-- The number of a suggestion is stored. -/
def KnowsRecommendation (s : Store) (id : RecommendationId) : Prop := ∃ r ∈ s.recommendations.rows, r.id = id

instance (s : Store) (id : RecommendationId) : Decidable (s.KnowsRecommendation id) :=
  inferInstanceAs (Decidable (∃ r ∈ s.recommendations.rows, r.id = id))

/-- The refusal of a second suggestion. -/
def alreadySuggested (draft : RecommendationDraft) : RiskError :=
  .uniqueViolation (draft.suggestedSupplier.text ++ " already suggested for " ++ draft.part.text)

variable {s : Store} {r t : Recommendation}

theorem contains_recommendation_iff {id : RecommendationId} :
    s.recommendations.contains id.value.toNat = true ↔ s.KnowsRecommendation id := by
  rw [Roster.contains_iff]
  constructor
  · rintro ⟨r, hfind⟩
    obtain ⟨hmem, hrank⟩ := Roster.find?_eq_some_iff.1 hfind
    exact ⟨r, hmem, RecommendationId.toNat_inj.1 hrank⟩
  · rintro ⟨r, hmem, rfl⟩
    exact ⟨r, Roster.find?_eq_some_iff.2 ⟨hmem, rfl⟩⟩

/-- Writing a suggestion replaces the one of its number. -/
theorem mem_recommendations_insert_iff {rows : Roster Recommendation} :
    t ∈ (rows.insert r).rows ↔ t = r ∨ t ∈ rows.rows ∧ t.id ≠ r.id := by
  rw [Roster.mem_insert_iff]
  exact or_congr_right (and_congr_right fun _ => not_congr RecommendationId.toNat_inj)

theorem isSuggested_eq_true_iff {part : PartId} {supplier : SupplierId} :
    s.isSuggested part supplier = true ↔
      ∃ r ∈ s.recommendations.rows, r.part = part ∧ r.suggestedSupplier = supplier := by
  simp only [isSuggested, List.any_eq_true, Bool.and_eq_true, decide_eq_true_eq]

/-- Writing a suggestion keeps the invariant exactly when no other one has its part and supplier. -/
theorem suggestedOnce_insert_iff (honce : s.SuggestedOnce) {u : Store}
    (hu : u.recommendations = s.recommendations.insert r) :
    u.SuggestedOnce ↔ ∀ t ∈ s.recommendations.rows,
      t.part = r.part → t.suggestedSupplier = r.suggestedSupplier → t.id = r.id := by
  unfold SuggestedOnce
  rw [hu]
  constructor
  · intro hafter t hmem hpart hsupplier
    by_cases hid : t.id = r.id
    · exact hid
    · have ht : t ∈ (s.recommendations.insert r).rows := mem_recommendations_insert_iff.2 (.inr ⟨hmem, hid⟩)
      have hr : r ∈ (s.recommendations.insert r).rows := mem_recommendations_insert_iff.2 (.inl rfl)
      rw [hafter t ht r hr hpart hsupplier]
  · intro hrival x hx y hy hpart hsupplier
    rw [mem_recommendations_insert_iff] at hx hy
    -- Of two suggestions of one part and supplier, either both were there before or one of them is the new one.
    rcases hx with rfl | ⟨hx, hxid⟩
    · rcases hy with rfl | ⟨hy, hyid⟩
      · rfl
      · exact absurd (hrival y hy hpart.symm hsupplier.symm) hyid
    · rcases hy with rfl | ⟨hy, hyid⟩
      · exact absurd (hrival x hx hpart hsupplier) hxid
      · exact honce x hx y hy hpart hsupplier

/-! ## Adding and editing -/

theorem insertRecommendation_eq_error_iff {draft : RecommendationDraft} {e : RiskError} :
    s.insertRecommendation draft = .error e ↔
      draft.check = .error e ∨
      draft.check = .ok () ∧ s.isSuggested draft.part draft.suggestedSupplier = true ∧
        e = alreadySuggested draft := by
  unfold insertRecommendation
  cases hcheck : draft.check with
  | error e' =>
      show Except.error e' = .error e ↔ _
      simp
  | ok u =>
      show (if _ then _ else _) = _ ↔ _
      split
      · rename_i hsuggested
        simp [hsuggested, alreadySuggested, eq_comm]
      · rename_i hfresh
        simp [hfresh]

theorem updateRecommendation_eq_error_iff {e : RiskError} :
    s.updateRecommendation r = .error e ↔ ¬ s.KnowsRecommendation r.id ∧ e = .recordNotFound r.id.text := by
  unfold updateRecommendation
  split
  · rename_i hknown
    simp [contains_recommendation_iff.1 hknown]
  · rename_i hunknown
    have hunknown : ¬ s.KnowsRecommendation r.id := mt contains_recommendation_iff.2 hunknown
    simp [hunknown, eq_comm]

theorem updateRecommendation_of_known (hknown : s.KnowsRecommendation r.id) :
    s.perform (.updateRecommendation r) =
      .ok ((), { s with recommendations := s.recommendations.insert r }) := by
  show (s.updateRecommendation r).map ((), ·) = _
  unfold updateRecommendation
  rw [if_pos (contains_recommendation_iff.2 hknown)]
  rfl

/-- Of all effects only that of an edit can break the invariant. -/
theorem SuggestedOnce.effect (honce : s.SuggestedOnce) {c : StoreCall} {s' : Store} (heffect : s.Effect c s')
    (hc : ∀ r, c ≠ .updateRecommendation r) : s'.SuggestedOnce := by
  cases heffect with
  | @newRecommendation draft hcheck hfresh =>
      refine (suggestedOnce_insert_iff honce rfl).2 fun t hmem hpart hsupplier => ?_
      have hsuggested : s.isSuggested draft.part draft.suggestedSupplier = true :=
        isSuggested_eq_true_iff.2 ⟨t, hmem, hpart, hsupplier⟩
      exact absurd hsuggested (Bool.eq_false_iff.1 hfresh)
  | @recommendation record hknown => exact absurd rfl (hc record)
  -- All other effects leave the suggestions alone.
  | _ => exact honce

/-- **One suggestion per part and supplier, but for edits.**  Every call but an edit keeps the invariant.  A
suggestion is refused exactly when its similarity is no percentage or its supplier is suggested for its part
already; a refused call leaves the store as it was.  An edit is accepted exactly when the number of the
suggestion is known, whatever it says otherwise, and then the invariant holds on exactly when no other suggestion
has its part and supplier. -/
theorem suggested_once_but_for_edits (s : Store) (honce : s.SuggestedOnce) :
    (∀ c, (∀ r, c ≠ .updateRecommendation r) → (s.afterCall c).SuggestedOnce) ∧
    (∀ draft e, s.answerTo (.insertRecommendation draft) = .error e ↔
      draft.check = .error e ∨
      draft.check = .ok () ∧ e = alreadySuggested draft ∧
        ∃ r ∈ s.recommendations.rows, r.part = draft.part ∧ r.suggestedSupplier = draft.suggestedSupplier) ∧
    (∀ r e, s.answerTo (.updateRecommendation r) = .error e ↔
      ¬ s.KnowsRecommendation r.id ∧ e = .recordNotFound r.id.text) ∧
    (∀ c e, s.answerTo c = .error e → s.afterCall c = s) ∧
    (∀ r, s.KnowsRecommendation r.id →
      s.answerTo (.updateRecommendation r) = .ok () ∧
      ((s.afterCall (.updateRecommendation r)).SuggestedOnce ↔
        ∀ t ∈ s.recommendations.rows,
          t.part = r.part → t.suggestedSupplier = r.suggestedSupplier → t.id = r.id)) := by
  refine ⟨fun c hc => ?_, fun draft e => ?_, fun r e => ?_, fun c e => afterCall_of_error, fun r hknown => ?_⟩
  · rcases afterCall_effect (s := s) c with hsame | heffect
    · rwa [hsame]
    · exact honce.effect heffect hc
  · rw [answerTo_eq_error_iff, ← isSuggested_eq_true_iff, and_comm (a := e = _)]
    exact insertRecommendation_eq_error_iff
  · rw [answerTo_eq_error_iff, ← updateRecommendation_eq_error_iff]
    exact map_eq_error_iff
  · obtain ⟨hanswer, hafter⟩ := answerTo_of_perform (updateRecommendation_of_known hknown)
    exact ⟨hanswer, suggestedOnce_insert_iff honce (by rw [hafter])⟩

/-- A suggestion for the first part. -/
def sampleSuggestion (supplier : SupplierId) : RecommendationDraft where
  part := ⟨1⟩
  primarySupplier := some ⟨1⟩
  suggestedSupplier := supplier
  similarity := 70
  reason := ""

/-- The second and the third supplier are suggested for the first part. -/
def twoSuggestions : Store :=
  { empty with recommendations := .ofList [.ofDraft ⟨1⟩ (sampleSuggestion ⟨2⟩), .ofDraft ⟨2⟩ (sampleSuggestion ⟨3⟩)] }

/-- The second supplier cannot be suggested once more, the fourth one can; and the review of a suggestion, which
changes neither its part nor its supplier, keeps the invariant. -/
theorem repeated_suggestion_is_refused :
    twoSuggestions.SuggestedOnce ∧
      twoSuggestions.answerTo (.insertRecommendation (sampleSuggestion ⟨2⟩)) =
        .error (alreadySuggested (sampleSuggestion ⟨2⟩)) ∧
      (twoSuggestions.afterCall (.insertRecommendation (sampleSuggestion ⟨4⟩))).SuggestedOnce ∧
      (twoSuggestions.afterCall (.updateRecommendation
        ((Recommendation.ofDraft ⟨2⟩ (sampleSuggestion ⟨3⟩)).review "call them"
          ⟨19000, by decide, by decide⟩))).SuggestedOnce := by
  have honce : twoSuggestions.SuggestedOnce := by decide
  obtain ⟨hothers, hinsert, -, -, hupdate⟩ := suggested_once_but_for_edits twoSuggestions honce
  refine ⟨honce, (hinsert _ _).2 (.inr ⟨rfl, rfl, ?_⟩), hothers _ (fun r h => by cases h), ?_⟩
  · exact ⟨.ofDraft ⟨1⟩ (sampleSuggestion ⟨2⟩), .head _, rfl, rfl⟩
  · exact (hupdate _ (by decide)).2.2 (by decide)

/-- The second suggestion is edited to name the supplier of the first one; the store takes it, and from then on
holds two suggestions of one supplier for one part. -/
theorem edited_suggestion_repeats_another :
    let edited : Recommendation := .ofDraft ⟨2⟩ (sampleSuggestion ⟨2⟩)
    twoSuggestions.SuggestedOnce ∧
      twoSuggestions.answerTo (.updateRecommendation edited) = .ok () ∧
      ¬ (twoSuggestions.afterCall (.updateRecommendation edited)).SuggestedOnce :=
  ⟨by decide, by decide, by decide⟩

end Store

end SupplyRisk

import Mathlib.Algebra.GroupWithZero.Nat
import Mathlib.Data.List.Induction
import Mathlib.Data.List.Sort
import SupplyRisk.Failure
import SupplyRisk.Proofs.Decimal.Digits

/-!
# Failures in groups

A failure is added to one group, which is put in its place if it is new.  So the groups of a list have ascending keys
(`ascending_groupsBy`), which are the keys that occur (`mem_keys_groupsBy`), each has the failures with its key in their
order (`group_eq_foldl`), and the groups together have them all (`sum_groupsBy`).  A failure summary groups its failures
in two ways, and its report goes through the groups of both (`failures_partitioned`).
-/

namespace SupplyRisk

namespace Operation

theorem rank_injective : Function.Injective rank := by
  intro a b hrank
  cases a <;> cases b <;> first | rfl | cases hrank

instance : Std.Irrefl (LT.lt : Operation → Operation → Prop) := ⟨fun a => Nat.lt_irrefl a.rank⟩

instance : Trans (LT.lt : Operation → Operation → Prop) (LT.lt : Operation → Operation → Prop)
    (LT.lt : Operation → Operation → Prop) := ⟨Nat.lt_trans⟩

instance : Std.Trichotomous (LT.lt : Operation → Operation → Prop) :=
  ⟨fun _ _ hlt hgt => rank_injective (Nat.le_antisymm (Nat.not_lt.1 hgt) (Nat.not_lt.1 hlt))⟩

end Operation

namespace FailureSummary

section Groups

variable {κ β : Type} [DecidableEq κ] [LT κ] [DecidableLT κ] {fresh : β} {add : β → β} {key k : κ}
  {groups : List (κ × β)}

/-- The keys of groups, in their order. -/
def keys (groups : List (κ × β)) : List κ := groups.map Prod.fst

theorem mem_keys_addToGroup : k ∈ keys (addToGroup fresh add key groups) ↔ k = key ∨ k ∈ keys groups := by
  induction groups with
  | nil => simp [addToGroup, keys]
  | cons g gs ih =>
      unfold addToGroup
      split
      · rename_i heq
        simp [keys, heq]
      · split
        · simp [keys]
        · simp only [keys, List.map_cons, List.mem_cons] at ih ⊢
          rw [ih]
          exact or_left_comm

/-- A group grows by one, and none is new that was not empty before. -/
theorem sum_addToGroup (size : β → Nat) (hfresh : size fresh = 0) (hadd : ∀ group, size (add group) = size group + 1) :
    ((addToGroup fresh add key groups).map fun g => size g.2).sum = (groups.map fun g => size g.2).sum + 1 := by
  induction groups with
  | nil => simp [addToGroup, hadd, hfresh]
  | cons g gs ih =>
      unfold addToGroup
      split
      · simp only [List.map_cons, List.sum_cons, hadd]
        omega
      · split
        · simp only [List.map_cons, List.sum_cons, hadd, hfresh]
          omega
        · simp only [List.map_cons, List.sum_cons, ih]
          omega

section Order

variable [Trans (LT.lt : κ → κ → Prop) (LT.lt : κ → κ → Prop) (LT.lt : κ → κ → Prop)]

omit [DecidableEq κ] [DecidableLT κ] in
/-- A key below the first one is below all of them. -/
theorem lt_of_mem_keys {g : κ × β} (hasc : (keys (g :: groups)).Pairwise (· < ·)) (hlt : key < g.1)
    (hk : k ∈ keys (g :: groups)) : key < k := by
  rcases List.mem_cons.1 hk with rfl | hk
  · exact hlt
  · exact Trans.trans hlt (List.rel_of_pairwise_cons hasc hk)

theorem ascending_addToGroup [Std.Trichotomous (LT.lt : κ → κ → Prop)] (hasc : (keys groups).Pairwise (· < ·)) :
    (keys (addToGroup fresh add key groups)).Pairwise (· < ·) := by
  induction groups with
  | nil => exact List.pairwise_singleton _ key
  | cons g gs ih =>
      unfold addToGroup
      split
      · exact hasc
      · rename_i hne
        split
        · rename_i hlt
          exact List.pairwise_cons.2 ⟨fun k hk => lt_of_mem_keys hasc hlt hk, hasc⟩
        · rename_i hge
          refine List.pairwise_cons.2 ⟨fun k hk => ?_, ih hasc.tail⟩
          rcases mem_keys_addToGroup.1 hk with rfl | hk
          · by_contra hle
            exact hne (Std.Trichotomous.trichotomous k g.1 hge hle)
          · exact List.rel_of_pairwise_cons hasc hk

/-- Let groups be what a value says of their keys, which says nothing of a key without group.  Then with one thing more
they are what the value says, with that thing more in its place. -/
theorem group_addToGroup [Std.Irrefl (LT.lt : κ → κ → Prop)] (value : κ → β) (hasc : (keys groups).Pairwise (· < ·))
    (hgroups : ∀ g ∈ groups, g.2 = value g.1) (hfresh : key ∉ keys groups → value key = fresh) :
    ∀ g ∈ addToGroup fresh add key groups, g.2 = if g.1 = key then add (value key) else value g.1 := by
  have hirrefl : ¬ key < key := Std.Irrefl.irrefl key
  induction groups with
  | nil =>
      intro g hg
      obtain rfl := List.mem_singleton.1 hg
      rw [if_pos rfl, hfresh List.not_mem_nil]
  | cons first rest ih =>
      have hfirst : first.2 = value first.1 := hgroups first List.mem_cons_self
      have hrest : ∀ g ∈ rest, g.2 = value g.1 := fun g hg => hgroups g (List.mem_cons_of_mem first hg)
      unfold addToGroup
      split
      · -- The first group grows, and no later one has its key.
        rename_i heq
        intro g hg
        rcases List.mem_cons.1 hg with rfl | hg
        · rw [if_pos heq.symm, hfirst, heq]
        · have hlt : first.1 < g.1 := List.rel_of_pairwise_cons hasc (List.mem_map_of_mem hg)
          have hother : g.1 ≠ key := fun hsame => hirrefl (by rwa [hsame, ← heq] at hlt)
          rw [if_neg hother, hrest g hg]
      · rename_i hne
        split
        · -- There is a new group in front, and none behind has its key.
          rename_i hlt
          have hnew : key ∉ keys (first :: rest) := fun hk => hirrefl (lt_of_mem_keys hasc hlt hk)
          intro g hg
          rcases List.mem_cons.1 hg with rfl | hg
          · rw [if_pos rfl, hfresh hnew]
          · have hother : g.1 ≠ key := fun hsame => hnew (hsame ▸ List.mem_map_of_mem hg)
            rw [if_neg hother, hgroups g hg]
        · -- The first group is not concerned.
          intro g hg
          rcases List.mem_cons.1 hg with rfl | hg
          · rw [if_neg (Ne.symm hne), hfirst]
          · refine ih hasc.tail hrest (fun hnew => hfresh fun hk => ?_) g hg
            rcases List.mem_cons.1 hk with heq | hk
            · exact hne heq
            · exact hnew hk

end Order

end Groups

section GroupsBy

variable {κ β : Type} [DecidableEq κ] [LT κ] [DecidableLT κ] {key : Failure → κ} {fresh : β}
  {add : β → Failure → β} {failures : List Failure}

theorem groupsBy_concat (f : Failure) :
    groupsBy key fresh add (failures ++ [f]) =
      addToGroup fresh (fun group => add group f) (key f) (groupsBy key fresh add failures) := by
  simp only [groupsBy, List.foldl_append, List.foldl_cons, List.foldl_nil]

theorem mem_keys_groupsBy {k : κ} : k ∈ keys (groupsBy key fresh add failures) ↔ ∃ f ∈ failures, key f = k := by
  induction failures using List.reverseRecOn with
  | nil => simp [groupsBy, keys]
  | append_singleton fs f ih =>
      rw [groupsBy_concat, mem_keys_addToGroup, ih]
      constructor
      · rintro (rfl | ⟨f', hf', hkey⟩)
        · exact ⟨f, List.mem_append_right fs (List.mem_singleton.2 rfl), rfl⟩
        · exact ⟨f', List.mem_append_left [f] hf', hkey⟩
      · rintro ⟨f', hf', hkey⟩
        rcases List.mem_append.1 hf' with hf' | hf'
        · exact .inr ⟨f', hf', hkey⟩
        · exact .inl (List.mem_singleton.1 hf' ▸ hkey.symm)

/-- Every failure is in one group. -/
theorem sum_groupsBy (size : β → Nat) (hfresh : size fresh = 0)
    (hadd : ∀ group f, size (add group f) = size group + 1) :
    ((groupsBy key fresh add failures).map fun g => size g.2).sum = failures.length := by
  induction failures using List.reverseRecOn with
  | nil => rfl
  | append_singleton fs f ih =>
      rw [groupsBy_concat, sum_addToGroup size hfresh fun group => hadd group f, ih, List.length_append,
        List.length_singleton]

variable [Std.Irrefl (LT.lt : κ → κ → Prop)] [Std.Trichotomous (LT.lt : κ → κ → Prop)]
  [Trans (LT.lt : κ → κ → Prop) (LT.lt : κ → κ → Prop) (LT.lt : κ → κ → Prop)]

omit [Std.Irrefl (LT.lt : κ → κ → Prop)] in
theorem ascending_groupsBy : (keys (groupsBy key fresh add failures)).Pairwise (· < ·) := by
  induction failures using List.reverseRecOn with
  | nil => exact List.Pairwise.nil
  | append_singleton fs f ih =>
      rw [groupsBy_concat]
      exact ascending_addToGroup ih

/-- A group is made up of the failures with its key, in their order. -/
theorem group_eq_foldl :
    ∀ g ∈ groupsBy key fresh add failures, g.2 = (failures.filter fun f => key f = g.1).foldl add fresh := by
  induction failures using List.reverseRecOn with
  | nil => exact fun g hg => nomatch hg
  | append_singleton fs f ih =>
      have hfresh (hnew : key f ∉ keys (groupsBy key fresh add fs)) :
          (fs.filter fun f' => key f' = key f).foldl add fresh = fresh := by
        have hnone : (fs.filter fun f' => key f' = key f) = [] :=
          List.filter_eq_nil_iff.2 fun f' hf' hsame =>
            hnew (mem_keys_groupsBy.2 ⟨f', hf', of_decide_eq_true hsame⟩)
        rw [hnone, List.foldl_nil]
      intro g hg
      rw [groupsBy_concat] at hg
      rw [group_addToGroup (fun k => (fs.filter fun f' => key f' = k).foldl add fresh) ascending_groupsBy ih hfresh g
        hg, List.filter_append, List.foldl_append]
      by_cases hsame : g.1 = key f
      · simp [hsame]
      · simp [hsame, Ne.symm hsame]

/-- The groups of failures, told by their keys. -/
theorem groupsBy_eq_map :
    groupsBy key fresh add failures = (keys (groupsBy key fresh add failures)).map fun k =>
      (k, (failures.filter fun f => key f = k).foldl add fresh) := by
  rw [keys, List.map_map]
  exact (List.map_id _).symm.trans (List.map_congr_left fun g hg => Prod.ext rfl (group_eq_foldl g hg))

end GroupsBy

/-! ## The summary -/

theorem foldl_count (failures : List Failure) (count : Nat) :
    failures.foldl (fun count _ => count + 1) count = count + failures.length := by
  induction failures generalizing count with
  | nil => rfl
  | cons f fs ih =>
      rw [List.foldl_cons, ih, List.length_cons]
      omega

theorem foldl_entities (failures : List Failure) (entities : List EntityRef) :
    failures.foldl (fun entities f => entities ++ [f.entity]) entities =
      entities ++ failures.map fun f => f.entity := by
  induction failures generalizing entities with
  | nil => exact (List.append_nil entities).symm
  | cons f fs ih => rw [List.foldl_cons, ih, List.map_cons, List.append_assoc, List.singleton_append]

theorem byOperation_eq_map (failures : List Failure) :
    (ofFailures failures).byOperation = (keys (ofFailures failures).byOperation).map fun operation =>
      (operation, failures.countP fun f => f.operation = operation) := by
  refine groupsBy_eq_map.trans (List.map_congr_left fun operation _ => ?_)
  rw [foldl_count, Nat.zero_add, List.countP_eq_length_filter]

theorem byKind_eq_map (failures : List Failure) :
    (ofFailures failures).byKind = (keys (ofFailures failures).byKind).map fun kind =>
      (kind, (failures.filter fun f => f.kind = kind).map fun f => f.entity) := by
  refine groupsBy_eq_map.trans (List.map_congr_left fun kind _ => ?_)
  rw [foldl_entities, List.nil_append]

theorem natString_eq_toString (n : Nat) : natString n = toString n :=
  congrArg String.ofList (Decimal.natText_eq_toDigits n)

/-- **Failures are partitioned.**  The summary of any failures counts them all.

* The operations that occur come in ascending order, each once, with the number of their failures.
* The kinds of error that occur come in ascending order, each once, with the entities of their failures in the order of
  the list, as often as they stand there.
* Both kinds of groups together have all failures, and the samples are the first ten.
* The report has a line for each of these groups in this order, with its name and number, then a line for each sample,
  and says how many more failures there are if and only if there are any. -/
theorem failures_partitioned (failures : List Failure) :
    let s := ofFailures failures
    let name : Operation → String := fun operation =>
      match operation with
      | .supplierAssessment => "Supplier assessment"
      | .partAssessment => "Part assessment"
      | .recommendation => "Recommendation"
      | .alertDispatch => "Alert dispatch"
      | .thresholdImport => "Import"
    let mention : EntityRef → String := fun entity =>
      match entity with
      | .supplier id => "supplier#" ++ toString id.value.toNat
      | .part id => "part#" ++ toString id.value.toNat
    ∃ (operations : List Operation) (kinds : List String),
      (operations.Pairwise (· < ·) ∧ ∀ operation, operation ∈ operations ↔ ∃ f ∈ failures, f.operation = operation) ∧
      (kinds.Pairwise (· < ·) ∧ ∀ kind, kind ∈ kinds ↔ ∃ f ∈ failures, f.kind = kind) ∧
      s.total = failures.length ∧
      (s.byOperation = operations.map (fun operation =>
          (operation, failures.countP fun f => f.operation = operation)) ∧
        (s.byOperation.map fun group => group.2).sum = s.total) ∧
      (s.byKind = kinds.map (fun kind => (kind, (failures.filter fun f => f.kind = kind).map fun f => f.entity)) ∧
        (s.byKind.map fun group => group.2.length).sum = s.total) ∧
      s.samples = failures.take 10 ∧
      s.report =
        "\nFailure breakdown:\n" ++
          String.join (operations.map fun operation =>
            "  " ++ name operation ++ ": " ++ toString (failures.countP fun f => f.operation = operation) ++
              " entity(ies)\n") ++
        "\nError categories:\n" ++
          String.join (kinds.map fun kind =>
            "  " ++ kind ++ ": " ++ toString (failures.countP fun f => f.kind = kind) ++ " entity(ies)\n") ++
        (if s.samples = [] then "" else
          "\nSample errors:\n" ++
            String.join (s.samples.map fun f => "  " ++ mention f.entity ++ ": " ++ f.error ++ "\n")) ++
        (if 0 < s.total - s.samples.length then
          "  ... and " ++ toString (s.total - s.samples.length) ++ " more\n" else "") := by
  intro s name mention
  have hoperations := byOperation_eq_map failures
  have hkinds := byKind_eq_map failures
  refine ⟨keys s.byOperation, keys s.byKind, ⟨ascending_groupsBy, fun operation => mem_keys_groupsBy⟩,
    ⟨ascending_groupsBy, fun kind => mem_keys_groupsBy⟩, rfl, ⟨hoperations, ?_⟩, ⟨hkinds, ?_⟩, rfl, ?_⟩
  · exact sum_groupsBy (fun count => count) rfl fun _ _ => rfl
  · exact sum_groupsBy List.length rfl fun entities f => List.length_append
  · have hname (operation : Operation) : operation.label = name operation := by cases operation <;> rfl
    have hmention (entity : EntityRef) : entity.text = mention entity := by
      cases entity with
      | supplier id => exact congrArg ("supplier#" ++ ·) (natString_eq_toString _)
      | part id => exact congrArg ("part#" ++ ·) (natString_eq_toString _)
    -- Line by line the report prints what is spelled out above.
    have hoperationLines : s.byOperation.map (fun group => groupLine group.1.label group.2) =
        (keys s.byOperation).map fun operation =>
          "  " ++ name operation ++ ": " ++ toString (failures.countP fun f => f.operation = operation) ++
            " entity(ies)\n" := by
      refine ((congrArg (List.map _) hoperations).trans List.map_map).trans (List.map_congr_left fun operation _ => ?_)
      simp only [Function.comp_apply, groupLine, hname, natString_eq_toString]
    have hkindLines : s.byKind.map (fun group => groupLine group.1 group.2.length) =
        (keys s.byKind).map fun kind =>
          "  " ++ kind ++ ": " ++ toString (failures.countP fun f => f.kind = kind) ++ " entity(ies)\n" := by
      refine ((congrArg (List.map _) hkinds).trans List.map_map).trans (List.map_congr_left fun kind _ => ?_)
      simp only [Function.comp_apply, groupLine, List.length_map, List.countP_eq_length_filter, natString_eq_toString]
    have hsampleLine : sampleLine = fun f => "  " ++ mention f.entity ++ ": " ++ f.error ++ "\n" :=
      funext fun f => by rw [sampleLine, hmention]
    have hsamples : samplesText s.samples = if s.samples = [] then "" else
        "\nSample errors:\n" ++
          String.join (s.samples.map fun f => "  " ++ mention f.entity ++ ": " ++ f.error ++ "\n") := by
      simp only [samplesText, hsampleLine, List.isEmpty_iff]
    have hmore : s.moreText = if 0 < s.total - s.samples.length then
        "  ... and " ++ toString (s.total - s.samples.length) ++ " more\n" else "" := by
      simp only [moreText, Nat.sub_pos_iff_lt, natString_eq_toString]
    unfold report
    rw [hoperationLines, hkindLines, hsamples, hmore]

/-- The sink has refused an alert, and ten parts were not found. -/
def elevenFailures : List Failure :=
  .ofError (.supplier ⟨3⟩) .alertDispatch (.dispatch "no line") ::
    (List.range 10).map fun n => .ofError (.part ⟨.ofNat n⟩) .partAssessment (.notFound (.part ⟨.ofNat n⟩))

/-- Both operations and both kinds of error have a line, and one failure has to go without. -/
theorem eleventh_failure_is_left_out :
    (ofFailures elevenFailures).report = String.join
      ["\nFailure breakdown:\n", "  Part assessment: 10 entity(ies)\n", "  Alert dispatch: 1 entity(ies)\n",
        "\nError categories:\n", "  dispatch: 1 entity(ies)\n", "  not_found: 10 entity(ies)\n",
        "\nSample errors:\n", "  supplier#3: Notification dispatch failed: no line\n", "  part#0: part#0 not found\n",
        "  part#1: part#1 not found\n", "  part#2: part#2 not found\n", "  part#3: part#3 not found\n",
        "  part#4: part#4 not found\n", "  part#5: part#5 not found\n", "  part#6: part#6 not found\n",
        "  part#7: part#7 not found\n", "  part#8: part#8 not found\n", "  ... and 1 more\n"] := by
  obtain ⟨operations, kinds, ⟨hoperations, hoccurs⟩, ⟨hkinds, hkindOccurs⟩, -, -, -, hsamples, hreport⟩ :=
    failures_partitioned elevenFailures
  obtain rfl : operations = [.partAssessment, .alertDispatch] := by
    refine hoperations.eq_of_mem_iff (by decide) fun operation => (hoccurs operation).trans ?_
    cases operation <;> decide
  have hall : elevenFailures.map (·.kind) = "dispatch" :: List.replicate 10 "not_found" := by decide
  obtain rfl : kinds = ["dispatch", "not_found"] := by
    refine hkinds.eq_of_mem_iff (by decide) fun kind => (hkindOccurs kind).trans ?_
    have hmem : (∃ f ∈ elevenFailures, f.kind = kind) ↔ kind ∈ elevenFailures.map (·.kind) := by
      rw [List.mem_map]
    rw [hmem, hall]
    simp
  rw [hreport, hsamples]
  decide +kernel

end FailureSummary

end SupplyRisk

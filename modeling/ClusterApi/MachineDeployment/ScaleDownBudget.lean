import ClusterApi.MachineDeployment.Availability

namespace ClusterApi.MachineDeployment

open Foundation List

/-!
# The budget of a rolling scale-down

`reconcileOldMachineSets` computes how many replicas of old MachineSets may go
and hands this number to the clean-up.  The scale-down that follows computes a
budget of its own, from available replicas.  Together they stay within the
first budget, and the clean-up does not ask for a scale-up, as long as no old
MachineSet reports more available replicas than it asks for.  While Machines
are being deleted one may.
-/

variable {patch : MachineSet → Int32 → Option String}
  {scaler : Scaler} {deployment : Deployment}
  {oldMSs : List MachineSet} {newMS : MachineSet}

/-! ## Sums of the counts -/

theorem Nonneg.cleanup {counts : List (Int × Int)} (nonneg : Nonneg counts) (budget : Int) :
    Nonneg (spend unhealthy lower budget counts) := by
  induction counts generalizing budget with
  | nil => exact nonneg
  | cons pair _ ih =>
    have head := nonneg.head
    have tail := ih nonneg.tail (budget - min (unhealthy pair) budget)
    intro later member
    rcases mem_cons.mp member with rfl | member
    · simp only [lower, unhealthy]
      omega
    · exact tail later member

theorem sum_rollDown {counts : List (Int × Int)} (nonneg : Nonneg counts) {cleanup scaleDown : Int}
    (cleanupNonneg : 0 ≤ cleanup) (scaleDownNonneg : 0 ≤ scaleDown) :
    ((rollDown cleanup scaleDown counts).map Prod.fst).sum =
      max ((counts.map Prod.fst).sum - min (counts.map unhealthy).sum cleanup - scaleDown) 0 := by
  have unhealthyNonneg : ∀ pair ∈ counts, 0 ≤ unhealthy pair := fun _ _ => le_max_right _ _
  have cleaned := @sum_spend _ unhealthy lower Prod.fst (fun _ _ => rfl) counts unhealthyNonneg cleanup cleanupNonneg
  have specNonneg : ∀ pair ∈ spend unhealthy lower cleanup counts, 0 ≤ pair.1 :=
    fun pair member => (nonneg.cleanup cleanup pair member).1
  have scaled := @sum_spend _ Prod.fst lower Prod.fst (fun _ _ => rfl) _ specNonneg scaleDown scaleDownNonneg
  rw [rollDown, scaled, cleaned]
  omega

/-! ## What the two steps take -/

theorem sum_spec_sorted (oldMSs : List MachineSet) :
    ((sortByCreationTimestamp oldMSs).map MachineSet.spec).sum = (oldMSs.map MachineSet.spec).sum :=
  ((perm_insertionSort createdBefore oldMSs).map _).sum_eq

theorem sum_fst_counts (machineSets : List MachineSet) :
    ((machineSets.map MachineSet.counts).map Prod.fst).sum = (machineSets.map MachineSet.spec).sum := by
  rw [map_map]
  rfl

theorem cleanupUnhealthyReplicas_taken {cleaned : List MachineSet} (counted : AllCounted oldMSs) {maximum final : Int32}
    (nonneg : 0 ≤ maximum.toInt) (succeeded : cleanupUnhealthyReplicas patch oldMSs maximum = (cleaned, .ok final)) :
    (cleaned.map MachineSet.spec).sum =
      (oldMSs.map MachineSet.spec).sum - min ((visited oldMSs).map unhealthy).sum maximum.toInt := by
  have counts := cleanupUnhealthyReplicas_counts counted nonneg succeeded
  have unhealthyNonneg : ∀ counts ∈ visited oldMSs, 0 ≤ unhealthy counts := fun _ _ => le_max_right _ _
  rw [← sum_fst_counts, counts, ← visited, sum_spend (fun _ _ => rfl) unhealthyNonneg nonneg,
    visited, sum_fst_counts, sum_spec_sorted]

theorem scaleDownOldMachineSets_taken_le {cleaned : List MachineSet} (counted : AllCounted oldMSs)
    (lowered : Forall₂ Lowered (sortByCreationTimestamp oldMSs) cleaned) :
    (cleaned.map MachineSet.spec).sum -
        ((scaleDownOldMachineSetsForRollingUpdate patch scaler deployment cleaned newMS).1.map
          MachineSet.spec).sum ≤
      effectiveBudget scaler deployment oldMSs newMS := by
  have cleanedCounted := counted_of_lowered lowered (counted_sorted counted)
  unfold scaleDownOldMachineSetsForRollingUpdate effectiveBudget
  rw [getAvailableReplicaCount_lowered newMS lowered, sortByCreationTimestamp_lowered lowered]
  dsimp only
  split_ifs
  · rw [sub_self]
  · have taken := (@scaleDownLoop_rounds patch (scaleDownBudget scaler deployment oldMSs newMS)).taken_le
      cleanedCounted Int32.toInt_zero.ge
    rw [Int32.toInt_zero, sub_zero] at taken
    exact taken

/-! ## The law -/

/-- What a reconcile of the old MachineSets should keep, whichever patches are accepted. -/
structure ScalesDownWithinBudget (scaler : Scaler)
    (deployment : Deployment) (oldMSs : List MachineSet) (newMS : MachineSet) : Prop where
  /-- No MachineSet is raised, none goes below zero. -/
  lowered : ∀ patch, OnlyLowered oldMSs (reconcileOldMachineSets patch scaler deployment oldMSs newMS).1
  /-- An error is a missing number of replicas or a refused patch, never an invalid request to scale down. -/
  valid : ∀ patch error, (reconcileOldMachineSets patch scaler deployment oldMSs newMS).2 = .error error →
    deployment.replicas = none ∨ newMS.replicas = none ∨ ∃ machineSet, PatchFails patch machineSet
  /-- No more replicas are taken than the budget allows. -/
  bounded : ∀ patch, (oldMSs.map MachineSet.spec).sum -
      ((reconcileOldMachineSets patch scaler deployment oldMSs newMS).1.map MachineSet.spec).sum ≤
    max (maxScaledDown scaler deployment oldMSs newMS).toInt 0

/-- When the law holds: nothing is done, or the clean-up reaches no
MachineSet with surplus available replicas, and the budget of the scale-down
is covered by what the clean-up leaves of the first one, unless that covers everything old. -/
def BudgetCondition (scaler : Scaler) (deployment : Deployment)
    (oldMSs : List MachineSet) (newMS : MachineSet) : Prop :=
  ReturnsEarly scaler deployment oldMSs newMS ∨
    overAvailable (maxScaledDown scaler deployment oldMSs newMS).toInt (visited oldMSs) = false ∧
    (effectiveBudget scaler deployment oldMSs newMS ≤
        max ((maxScaledDown scaler deployment oldMSs newMS).toInt - ((visited oldMSs).map unhealthy).sum) 0 ∨
      (oldMSs.map MachineSet.spec).sum ≤ (maxScaledDown scaler deployment oldMSs newMS).toInt)

/-- The condition in terms of the counts: no old MachineSet has surplus
available replicas, or the clean-up reaches none of those that have and the
new MachineSet carries the floor alone or too few replicas are available to scale down. -/
def CountsCondition (scaler : Scaler) (deployment : Deployment)
    (oldMSs : List MachineSet) (newMS : MachineSet) : Prop :=
  ReturnsEarly scaler deployment oldMSs newMS ∨
  (∀ machineSet ∈ oldMSs, machineSet.available ≤ machineSet.spec) ∨
  overAvailable (maxScaledDown scaler deployment oldMSs newMS).toInt (visited oldMSs) = false ∧
    (availabilityFloor scaler deployment ≤ newMS.available ∨
      ((oldMSs ++ [newMS]).map MachineSet.available).sum ≤ availabilityFloor scaler deployment)

section

variable (condition : BudgetCondition scaler deployment oldMSs newMS) (counted : AllCounted oldMSs)
include condition counted

theorem BudgetCondition.bounded (patch : MachineSet → Int32 → Option String) :
    (oldMSs.map MachineSet.spec).sum -
        ((reconcileOldMachineSets patch scaler deployment oldMSs newMS).1.map MachineSet.spec).sum ≤
      max (maxScaledDown scaler deployment oldMSs newMS).toInt 0 := by
  have reconciled := @reconcileOldMachineSets_oldReconciled patch scaler oldMSs deployment newMS
  generalize (reconcileOldMachineSets patch scaler deployment oldMSs newMS).1 = after at reconciled ⊢
  cases reconciled with
  | untouched =>
    rw [sub_self]
    exact le_max_right _ _
  | cleanupFailed =>
    have taken := (@cleanupLoop_rounds patch (maxScaledDown scaler deployment oldMSs newMS)).taken_le
      (counted_sorted counted) Int32.toInt_zero.ge
    rw [sum_spec_sorted, Int32.toInt_zero, sub_zero] at taken
    exact taken
  | scaledDown runs cleaned _ cleanedOk =>
    rcases condition with early | ⟨-, _⟩
    · exact absurd early runs
    have cleanedLowered := @cleanupUnhealthyReplicas_lowered patch oldMSs counted
      (maxScaledDown scaler deployment oldMSs newMS)
    rw [cleanedOk] at cleanedLowered
    have positive : 0 < (maxScaledDown scaler deployment oldMSs newMS).toInt := by
      simp only [ReturnsEarly, not_or, Int32.le_iff_toInt_le, Int32.toInt_zero] at runs
      omega
    have cleanedEq := cleanupUnhealthyReplicas_taken counted positive.le cleanedOk
    have lowered := @scaleDownOldMachineSets_lowered patch scaler oldMSs deployment newMS cleaned counted
      cleanedLowered
    have scaledCounted := counted_of_lowered lowered (counted_of_lowered cleanedLowered (counted_sorted counted))
    have scaledNonneg := sum_nonneg_of_counted scaledCounted fun _ isCounted => isCounted.spec_nonneg
    have scaledTaken := @scaleDownOldMachineSets_taken_le patch scaler deployment oldMSs newMS cleaned
      counted cleanedLowered
    omega

theorem BudgetCondition.scalesDownWithinBudget : ScalesDownWithinBudget scaler deployment oldMSs newMS where
  lowered := reconcileOldMachineSets_onlyLowered counted
  valid := by
    intro _ _ failed
    by_contra legitimate
    simp only [not_or, not_exists] at legitimate
    rcases legitimate with ⟨present, newPresent, works⟩
    have isPresent := Option.isSome_iff_ne_none.mpr present
    have newIsPresent := Option.isSome_iff_ne_none.mpr newPresent
    rcases condition with early | ⟨reachesNone, -⟩
    · rcases Option.isSome_iff_exists.mp isPresent with ⟨replicas, replicasEq⟩
      rcases Option.isSome_iff_exists.mp newIsPresent with ⟨newReplicas, newReplicasEq⟩
      rcases early with missing | missing | empty | blocked
      · exact present missing
      · exact newPresent missing
      · simp [reconcileOldMachineSets, replicasEq, newReplicasEq, empty] at failed
      · simp [reconcileOldMachineSets, replicasEq, newReplicasEq, blocked] at failed
    · rcases reconcileOldMachineSets_succeeds counted isPresent newIsPresent works reachesNone with ⟨_, succeeded⟩
      rw [succeeded] at failed
      cases failed
  bounded := condition.bounded counted

end

theorem ScalesDownWithinBudget.budgetCondition (law : ScalesDownWithinBudget scaler deployment oldMSs newMS)
    (counted : AllCounted oldMSs) : BudgetCondition scaler deployment oldMSs newMS := by
  by_cases early : ReturnsEarly scaler deployment oldMSs newMS
  · exact .inl early
  refine .inr ?_
  have works : ∀ machineSet, ¬ PatchFails (fun _ _ => none) machineSet := by simp [PatchFails]
  have valid := law.valid fun _ _ => none
  have bounded := law.bounded fun _ _ => none
  generalize result : reconcileOldMachineSets (fun _ _ => none) scaler deployment oldMSs newMS =
    reconciled at valid bounded
  rcases reconciled with ⟨after, error | _⟩
  · have present : ¬ deployment.replicas = none := fun missing => early (.inl missing)
    have newPresent : ¬ newMS.replicas = none := fun missing => early (.inr (.inl missing))
    rcases valid error rfl with missing | missing | ⟨machineSet, refused⟩
    · exact absurd missing present
    · exact absurd missing newPresent
    · exact absurd refused (works machineSet)
  · rcases reconcileOldMachineSets_counts counted result with ⟨-, empty | blocked⟩ | ⟨-, positive, notOver, counts⟩
    · exact absurd (.inr (.inr (.inl empty))) early
    · exact absurd (.inr (.inr (.inr blocked))) early
    · refine ⟨notOver, ?_⟩
      have visitedSum : ((visited oldMSs).map Prod.fst).sum = (oldMSs.map MachineSet.spec).sum := by
        rw [visited, sum_fst_counts, sum_spec_sorted]
      have visitedNonneg : Nonneg (visited oldMSs) := nonneg_counts (counted_sorted counted)
      have budgetNonneg := effectiveBudget_nonneg scaler deployment oldMSs newMS
      rw [← sum_fst_counts after, counts, sum_rollDown visitedNonneg positive.le budgetNonneg, visitedSum] at bounded
      omega

/-! ## The condition when nothing wraps around -/

theorem exists_surplus_of_overAvailable {counts : List (Int × Int)} {budget : Int}
    (exceeded : overAvailable budget counts = true) : ∃ pair ∈ counts, pair.1 < pair.2 := by
  induction counts generalizing budget with
  | nil => cases exceeded
  | cons pair _ ih =>
    simp only [overAvailable, Bool.and_eq_true, Bool.or_eq_true, decide_eq_true_eq] at exceeded
    rcases exceeded with ⟨-, ⟨-, surplus⟩ | later⟩
    · exact ⟨pair, mem_cons_self, surplus⟩
    · rcases ih later with ⟨found, member, surplus⟩
      exact ⟨found, mem_cons_of_mem _ member, surplus⟩

theorem overAvailable_of_noSurplus (noSurplus : ∀ machineSet ∈ oldMSs, machineSet.available ≤ machineSet.spec)
    (budget : Int) : overAvailable budget (visited oldMSs) = false := by
  apply Bool.eq_false_of_not_eq_true
  intro exceeded
  rcases exists_surplus_of_overAvailable exceeded with ⟨_, member, surplus⟩
  rcases mem_map.mp member with ⟨machineSet, inside, rfl⟩
  have le := noSurplus machineSet (mem_sortByCreationTimestamp.mp inside)
  simp only [MachineSet.counts] at surplus
  omega

section

variable (fits : Fits scaler deployment oldMSs newMS) (counted : AllCounted (oldMSs ++ [newMS]))
include fits counted

theorem Fits.effectiveBudget_exact :
    effectiveBudget scaler deployment oldMSs newMS =
      max (((oldMSs ++ [newMS]).map MachineSet.available).sum - availabilityFloor scaler deployment) 0 := by
  have available := (fits.counts_exact counted).2
  have budget := (fits.budgets_exact counted).2
  unfold effectiveBudget
  split_ifs with few
  · rw [Int32.le_iff_toInt_le, available, fits.minAvailable_eq] at few
    omega
  · rw [budget]

theorem Fits.budgetCondition_iff :
    BudgetCondition scaler deployment oldMSs newMS ↔
      CountsCondition scaler deployment oldMSs newMS := by
  have maxEq := (fits.budgets_exact counted).1
  have effective := fits.effectiveBudget_exact counted
  have total := sum_append_new MachineSet.available oldMSs newMS
  have unhealthySum := sum_unhealthy_visited oldMSs
  rw [← survivingReplicas] at unhealthySum
  constructor
  · rintro (early | ⟨notOver, _⟩)
    · exact .inl early
    · by_cases noSurplus : ∀ machineSet ∈ oldMSs, machineSet.available ≤ machineSet.spec
      · exact .inr (.inl noSurplus)
      · simp only [not_forall, not_le] at noSurplus
        rcases noSurplus with ⟨machineSet, member, surplus⟩
        have fewer := survivingReplicas_lt_of_surplus ⟨machineSet, member, surplus⟩
        exact .inr (.inr ⟨notOver, by omega⟩)
  · rintro (early | noSurplus | ⟨notOver, _⟩)
    · exact .inl early
    · have allSurvive := survivingReplicas_of_noSurplus noSurplus
      exact .inr ⟨overAvailable_of_noSurplus noSurplus _, .inl (by omega)⟩
    · exact .inr ⟨notOver, by omega⟩

end

/-- A reconcile of the old MachineSets scales down within its budget exactly
under `BudgetCondition`, and when nothing wraps around exactly under `CountsCondition`. -/
theorem reconcileOldMachineSets_scalesDownWithinBudget
    (scaler : Scaler) (deployment : Deployment)
    (oldMSs : List MachineSet) (newMS : MachineSet) (counted : ∀ machineSet ∈ oldMSs, Counted machineSet) :
    (ScalesDownWithinBudget scaler deployment oldMSs newMS ↔
        BudgetCondition scaler deployment oldMSs newMS) ∧
      (Fits scaler deployment oldMSs newMS → Counted newMS →
        (ScalesDownWithinBudget scaler deployment oldMSs newMS ↔
          CountsCondition scaler deployment oldMSs newMS)) := by
  have exactly : ScalesDownWithinBudget scaler deployment oldMSs newMS ↔
      BudgetCondition scaler deployment oldMSs newMS :=
    ⟨fun law => law.budgetCondition counted, fun condition => condition.scalesDownWithinBudget counted⟩
  refine ⟨exactly, fun fits newCounted => exactly.trans (fits.budgetCondition_iff ?_)⟩
  intro machineSet member
  rcases mem_append.mp member with old | new
  · exact counted machineSet old
  · rw [mem_singleton.mp new]
    exact newCounted

/-! ## Two scale-downs -/

def shrinkingMachineSet : MachineSet :=
  { name := "workers-a", creationTimestamp := 0, replicas := some 1, statusReplicas := 3, availableReplicas := 3 }

/-- The clean-up asks for a scale-up from one replica to three and fails; with
a MachineSet that is scaled to zero instead, three replicas go where one may. -/
theorem shrinking_invalidRequest : isRollingUpdate threeReplicas = true ∧
    (∀ machineSet ∈ [shrinkingMachineSet, servingMachineSet] ++ [surgeMachineSet], Counted machineSet) ∧
    (reconcileOldMachineSets (fun _ _ => none) getScaledValue threeReplicas
        [shrinkingMachineSet, servingMachineSet] surgeMachineSet).2 =
      .error ("when cleaning up unhealthy replicas, got invalid request to scale down default/workers-a: 1 -> 3") ∧
    ¬ ScalesDownWithinBudget getScaledValue threeReplicas [shrinkingMachineSet, servingMachineSet]
      surgeMachineSet ∧
    maxScaledDown getScaledValue threeReplicas [drainingMachineSet, servingMachineSet]
      surgeMachineSet = 1 ∧
    (reconcileOldMachineSets (fun _ _ => none) getScaledValue threeReplicas
        [drainingMachineSet, servingMachineSet] surgeMachineSet).1 =
      [drainingMachineSet, { servingMachineSet with replicas := some 0 }] := by
  have failed : (reconcileOldMachineSets (fun _ _ => none) getScaledValue threeReplicas
      [shrinkingMachineSet, servingMachineSet] surgeMachineSet).2 =
      .error ("when cleaning up unhealthy replicas, got invalid request to scale down default/workers-a: 1 -> 3") := by
    rfl
  refine ⟨rfl, by decide, failed, fun law => ?_, by decide +kernel, by rfl⟩
  rcases law.valid _ _ failed with missing | missing | ⟨_, refused⟩
  · cases missing
  · cases missing
  · simp [PatchFails] at refused

/-- With healthy counts both steps stay within the budget. -/
theorem serving_scalesDownWithinBudget :
    ScalesDownWithinBudget getScaledValue threeReplicas [servingMachineSet] surgeMachineSet := by
  have result := reconcileOldMachineSets_scalesDownWithinBudget getScaledValue threeReplicas
    [servingMachineSet] surgeMachineSet (by decide)
  have fits : Fits getScaledValue threeReplicas [servingMachineSet] surgeMachineSet := by
    refine ⟨rfl, ?_, ?_, ?_⟩
    all_goals decide +kernel
  exact (result.2 fits (by decide)).mpr (.inr (.inl (by decide)))

end ClusterApi.MachineDeployment

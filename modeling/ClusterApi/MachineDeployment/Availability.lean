import ClusterApi.MachineDeployment.Rolling

namespace ClusterApi.MachineDeployment

open Foundation

/-!
# The availability floor of a rolling update

A MachineSet with `s` replicas and `a` available ones keeps `min s a` available
Machines.  A rolling update should not take the sum of these below the number
of replicas minus `maxUnavailable`, unless it was below already.

The clean-up never does: it only takes replicas that are not available.  The
scale-down relies on the total of available replicas: the Machines that a
MachineSet reports beyond what it asks for, because they are being deleted, are
credited to the budget and paid for by the other MachineSets.
-/

/-! ## Counts along the list -/

/-- The available Machines that survive. -/
def survivors (counts : List (Int × Int)) : Int := (counts.map fun pair => min pair.1 pair.2).sum

@[simp]
theorem survivors_nil : survivors [] = 0 := rfl

theorem survivors_cons (pair : Int × Int) (rest : List (Int × Int)) :
    survivors (pair :: rest) = min pair.1 pair.2 + survivors rest := by
  simp [survivors]

def Nonneg (counts : List (Int × Int)) : Prop := ∀ pair ∈ counts, 0 ≤ pair.1 ∧ 0 ≤ pair.2

variable {pair : Int × Int} {rest counts : List (Int × Int)} {machineSets : List MachineSet}

theorem Nonneg.head (nonneg : Nonneg (pair :: rest)) : 0 ≤ pair.1 ∧ 0 ≤ pair.2 :=
  nonneg pair (by simp)

theorem Nonneg.tail (nonneg : Nonneg (pair :: rest)) : Nonneg rest :=
  fun later member => nonneg later (List.mem_cons_of_mem _ member)

theorem Nonneg.survivors_nonneg (nonneg : Nonneg counts) : 0 ≤ survivors counts := by
  induction counts with
  | nil => simp
  | cons _ _ ih =>
    have head := nonneg.head
    have tail := ih nonneg.tail
    rw [survivors_cons]
    omega

/-- Clean-up with one budget, scale-down with another. -/
def rollDown (cleanup scaleDown : Int) (counts : List (Int × Int)) : List (Int × Int) :=
  spend Prod.fst lower scaleDown (spend unhealthy lower cleanup counts)

/-- What the clean-up takes from a MachineSet. -/
def cleanupShare (cleanup : Int) (pair : Int × Int) : Int := min (unhealthy pair) cleanup

/-- What the scale-down then takes from it. -/
def scaleDownShare (cleanup scaleDown : Int) (pair : Int × Int) : Int :=
  min (pair.1 - cleanupShare cleanup pair) scaleDown

/-- The available Machines that it is left with. -/
def spared (cleanup scaleDown : Int) (pair : Int × Int) : Int :=
  min (pair.1 - cleanupShare cleanup pair - scaleDownShare cleanup scaleDown pair) pair.2

theorem survivors_rollDown_cons (cleanup scaleDown : Int) (pair : Int × Int)
    (rest : List (Int × Int)) : survivors (rollDown cleanup scaleDown (pair :: rest)) =
      spared cleanup scaleDown pair + survivors (rollDown (cleanup - cleanupShare cleanup pair)
        (scaleDown - scaleDownShare cleanup scaleDown pair) rest) :=
  survivors_cons _ _

section Round

variable {cleanup scaleDown : Int} {pair : Int × Int}

theorem cleanupShare_le : cleanupShare cleanup pair ≤ cleanup := min_le_right _ _

theorem scaleDownShare_le : scaleDownShare cleanup scaleDown pair ≤ scaleDown := min_le_right _ _

theorem spared_bounds (head : 0 ≤ pair.1 ∧ 0 ≤ pair.2) (scaleDownNonneg : 0 ≤ scaleDown) :
    0 ≤ spared cleanup scaleDown pair ∧
      min pair.1 pair.2 - scaleDownShare cleanup scaleDown pair ≤ spared cleanup scaleDown pair := by
  simp only [spared, scaleDownShare, cleanupShare, unhealthy]
  omega

theorem spared_le (head : 0 ≤ pair.1 ∧ 0 ≤ pair.2) (cleanupNonneg : 0 ≤ cleanup)
    (scaleDownNonneg : 0 ≤ scaleDown) : spared cleanup scaleDown pair ≤ min pair.1 pair.2 := by
  simp only [spared, scaleDownShare, cleanupShare, unhealthy]
  omega

theorem spared_of_covered (head : 0 ≤ pair.1 ∧ 0 ≤ pair.2) (scaleDownNonneg : 0 ≤ scaleDown)
    (covered : unhealthy pair ≤ cleanup) :
    scaleDownShare cleanup scaleDown pair = min (min pair.1 pair.2) scaleDown ∧
      spared cleanup scaleDown pair = min pair.1 pair.2 - scaleDownShare cleanup scaleDown pair := by
  have share : pair.1 - cleanupShare cleanup pair = min pair.1 pair.2 := by
    rw [cleanupShare, min_eq_left covered]
    simp only [unhealthy]
    omega
  rw [spared, scaleDownShare, share]
  omega

theorem shares_of_unavailable (none : min pair.1 pair.2 ≤ 0) (head : 0 ≤ pair.1 ∧ 0 ≤ pair.2)
    (unfinished : ¬ scaleDown ≤ pair.1 - cleanupShare cleanup pair) :
    scaleDown - scaleDownShare cleanup scaleDown pair + (cleanup - cleanupShare cleanup pair) =
      scaleDown + cleanup - unhealthy pair := by
  have share : scaleDownShare cleanup scaleDown pair = pair.1 - cleanupShare cleanup pair :=
    min_eq_left (not_le.mp unfinished).le
  have all : unhealthy pair = pair.1 := by
    simp only [unhealthy]
    omega
  omega

end Round

section

variable (nonneg : Nonneg counts) (cleanup scaleDown : Int)
include nonneg

theorem le_survivors_rollDown (scaleDownNonneg : 0 ≤ scaleDown) :
    max (survivors counts - scaleDown) 0 ≤ survivors (rollDown cleanup scaleDown counts) := by
  induction counts generalizing cleanup scaleDown with
  | nil =>
    simp only [rollDown, spend_nil, survivors_nil]
    omega
  | cons pair _ ih =>
    have share := @scaleDownShare_le cleanup scaleDown pair
    have round := @spared_bounds cleanup scaleDown pair nonneg.head scaleDownNonneg
    have tail := ih nonneg.tail (cleanup - cleanupShare cleanup pair)
      (scaleDown - scaleDownShare cleanup scaleDown pair) (by omega)
    rw [survivors_rollDown_cons, survivors_cons]
    omega

theorem survivors_rollDown_le (cleanupNonneg : 0 ≤ cleanup) (scaleDownNonneg : 0 ≤ scaleDown) :
    survivors (rollDown cleanup scaleDown counts) ≤ survivors counts := by
  induction counts generalizing cleanup scaleDown with
  | nil => exact le_refl _
  | cons _ _ ih =>
    apply add_le_add
    · exact spared_le nonneg.head cleanupNonneg scaleDownNonneg
    · apply ih nonneg.tail
      · exact Int.sub_nonneg_of_le cleanupShare_le
      · exact Int.sub_nonneg_of_le scaleDownShare_le

theorem survivors_rollDown_of_le (covers : (counts.map unhealthy).sum ≤ cleanup) (scaleDownNonneg : 0 ≤ scaleDown) :
    survivors (rollDown cleanup scaleDown counts) = max (survivors counts - scaleDown) 0 := by
  induction counts generalizing cleanup scaleDown with
  | nil =>
    simp only [rollDown, spend_nil, survivors_nil]
    omega
  | cons pair rest ih =>
    have head := nonneg.head
    have restNonneg := nonneg.tail.survivors_nonneg
    have restCovered : 0 ≤ (rest.map unhealthy).sum := List.sum_nonneg fun value member => by
      rcases List.mem_map.mp member with ⟨_, -, rfl⟩
      exact le_max_right _ _
    rw [List.map_cons, List.sum_cons] at covers
    have share : cleanupShare cleanup pair = unhealthy pair := min_eq_left (by omega)
    have round := @spared_of_covered cleanup scaleDown pair head scaleDownNonneg (by omega)
    rw [survivors_rollDown_cons, survivors_cons,
      ih nonneg.tail _ _ (by omega) (Int.sub_nonneg_of_le scaleDownShare_le), round.2, round.1]
    omega

end

/-- The first MachineSet that still has available replicas, together with
those before it, has at least `need` unavailable ones. -/
def absorbed (need : Int) : List (Int × Int) → Bool
  | [] => true
  | pair :: rest => if 0 < min pair.1 pair.2 then need ≤ unhealthy pair else absorbed (need - unhealthy pair) rest

theorem absorbed_of_nonpos {need : Int} (nonpos : need ≤ 0) : absorbed need counts = true := by
  induction counts generalizing need with
  | nil => rfl
  | cons pair _ ih =>
    have unhealthyNonneg : 0 ≤ unhealthy pair := le_max_right _ _
    unfold absorbed
    split_ifs
    · exact decide_eq_true (by omega)
    · exact ih (by omega)

section

variable (nonneg : Nonneg counts) (cleanup scaleDown : Int) (cleanupNonneg : 0 ≤ cleanup)
include nonneg cleanupNonneg

theorem survivors_rollDown_of_absorbed (scaleDownNonneg : 0 ≤ scaleDown)
    (isAbsorbed : absorbed (scaleDown + cleanup) counts = true) :
    survivors counts ≤ survivors (rollDown cleanup scaleDown counts) := by
  induction counts generalizing cleanup scaleDown with
  | nil => exact le_refl _
  | cons pair rest ih =>
    have round := @spared_bounds cleanup scaleDown pair nonneg.head scaleDownNonneg
    have shareLe := @scaleDownShare_le cleanup scaleDown pair
    have tail := le_survivors_rollDown nonneg.tail (cleanup - cleanupShare cleanup pair)
      (scaleDown - scaleDownShare cleanup scaleDown pair) (by omega)
    rw [survivors_rollDown_cons, survivors_cons]
    unfold absorbed at isAbsorbed
    split_ifs at isAbsorbed with hasAvailable
    · -- Everything is taken here, and nothing is left for the rest.
      have enough := of_decide_eq_true isAbsorbed
      have share : cleanupShare cleanup pair = cleanup := min_eq_right (by omega)
      have here : scaleDownShare cleanup scaleDown pair = scaleDown ∧
          min pair.1 pair.2 ≤ spared cleanup scaleDown pair := by
        simp only [unhealthy] at enough
        rw [spared, scaleDownShare, share]
        omega
      omega
    · have none := not_lt.mp hasAvailable
      by_cases finished : scaleDown ≤ pair.1 - cleanupShare cleanup pair
      · have share : scaleDownShare cleanup scaleDown pair = scaleDown := min_eq_right finished
        omega
      · rw [← shares_of_unavailable none nonneg.head finished] at isAbsorbed
        have kept := ih nonneg.tail _ _ (Int.sub_nonneg_of_le cleanupShare_le)
          (Int.sub_nonneg_of_le scaleDownShare_le) isAbsorbed
        omega

theorem survivors_rollDown_lt (scaleDownPos : 0 < scaleDown)
    (notAbsorbed : absorbed (scaleDown + cleanup) counts = false) :
    survivors (rollDown cleanup scaleDown counts) < survivors counts := by
  induction counts generalizing cleanup scaleDown with
  | nil => simp [absorbed] at notAbsorbed
  | cons pair _ ih =>
    rw [survivors_rollDown_cons, survivors_cons]
    unfold absorbed at notAbsorbed
    split_ifs at notAbsorbed with hasAvailable
    · apply add_lt_add_of_lt_of_le
      · -- Budgets that exceed the unavailable replicas take available ones, or are not spent.
        have notEnough := of_decide_eq_false notAbsorbed
        simp only [spared, scaleDownShare, cleanupShare, unhealthy] at notEnough ⊢
        omega
      · exact survivors_rollDown_le nonneg.tail _ _ (Int.sub_nonneg_of_le cleanupShare_le)
          (Int.sub_nonneg_of_le scaleDownShare_le)
    · have none := not_lt.mp hasAvailable
      by_cases finished : scaleDown ≤ pair.1 - cleanupShare cleanup pair
      · have nonpos : scaleDown + cleanup - unhealthy pair ≤ 0 := by
          simp only [cleanupShare, unhealthy] at finished ⊢
          omega
        rw [absorbed_of_nonpos nonpos] at notAbsorbed
        cases notAbsorbed
      · have left : 0 < scaleDown - scaleDownShare cleanup scaleDown pair := by
          rw [scaleDownShare, min_eq_left (not_le.mp finished).le]
          omega
        rw [← shares_of_unavailable none nonneg.head finished] at notAbsorbed
        apply add_lt_add_of_le_of_lt
        · exact spared_le nonneg.head cleanupNonneg scaleDownPos.le
        · exact ih nonneg.tail _ _ (Int.sub_nonneg_of_le cleanupShare_le) left notAbsorbed

end

/-- Some MachineSet that asks for fewer replicas than are available is reached by the clean-up. -/
def overAvailable (budget : Int) : List (Int × Int) → Bool
  | [] => false
  | pair :: rest =>
    0 < budget && (0 < pair.1 && pair.1 < pair.2 || overAvailable (budget - unhealthy pair) rest)

theorem overAvailable_of_nonpos {budget : Int} (nonpos : budget ≤ 0) : overAvailable budget counts = false := by
  cases counts with
  | nil => rfl
  | cons =>
    have spent : ¬ 0 < budget := not_lt.mpr nonpos
    simp [overAvailable, spent]

theorem overAvailable_cons {budget : Int} (positive : 0 < budget) (notOver : ¬ (0 < pair.1 ∧ pair.1 < pair.2)) :
    overAvailable budget (pair :: rest) = overAvailable (budget - unhealthy pair) rest := by
  have never : (decide (0 < pair.1) && decide (pair.1 < pair.2)) = false := by
    simpa using notOver
  simp [overAvailable, positive, never]

/-! ## What the code does -/

variable {patch : MachineSet → Int32 → Option String}
  {scaler : Scaler}

/-- With patches that succeed, the clean-up fails exactly on an over-available MachineSet it reaches. -/
def CleanupEnds (patch : MachineSet → Int32 → Option String) (maximum total : Int32)
    (machineSets : List MachineSet) (result : List MachineSet × Except String Int32) : Prop :=
  (overAvailable (maximum.toInt - total.toInt) (machineSets.map MachineSet.counts) = true →
    ∀ final, result.2 ≠ .ok final) ∧
  (overAvailable (maximum.toInt - total.toInt) (machineSets.map MachineSet.counts) = false →
    (∀ machineSet, ¬ PatchFails patch machineSet) → ∃ final, result.2 = .ok final)

theorem cleanupLoop_ends (counted : AllCounted machineSets) (maximum total : Int32) (totalNonneg : 0 ≤ total.toInt) :
    CleanupEnds patch maximum total machineSets (cleanupLoop patch maximum total machineSets) := by
  refine (cleanupLoop_rounds maximum).run (CleanupEnds patch maximum) ?_ ?_ counted totalNonneg
  · exact fun total => ⟨by simp [overAvailable], fun _ _ => ⟨total, rfl⟩⟩
  intro total targetMS rest _ targetCounted _ totalNonneg later round
  rw [CleanupEnds, List.map_cons]
  cases round with
  | failed _ because =>
    refine ⟨fun _ final => by simp, fun notOver works => ?_⟩
    rcases because with refused | ⟨left, positive, exceeded⟩
    · exact absurd refused (works targetMS)
    · simp [overAvailable, MachineSet.counts, positive, exceeded] at notOver
      omega
  | spent =>
    rw [overAvailable_of_nonpos (by omega)]
    exact ⟨by simp, fun _ _ => ⟨total, rfl⟩⟩
  | skipped =>
    have availableNonneg := targetCounted.available_nonneg
    have same : maximum.toInt - total.toInt - unhealthy targetMS.counts = maximum.toInt - total.toInt := by
      simp only [unhealthy, MachineSet.counts]
      omega
    rw [overAvailable_cons (by omega) (by simp only [MachineSet.counts]; omega), same]
    exact later total totalNonneg
  | scaled _ next =>
    rw [overAvailable_cons (by omega) (by simp only [MachineSet.counts]; omega)]
    have same : overAvailable (maximum.toInt - total.toInt - unhealthy targetMS.counts)
        (rest.map MachineSet.counts) =
        overAvailable (maximum.toInt - next.toInt) (rest.map MachineSet.counts) := by
      -- A budget that does not cover the MachineSet is spent on it.
      by_cases covered : targetMS.spec - targetMS.available ≤ maximum.toInt - total.toInt
      · congr 1
        simp only [unhealthy, MachineSet.counts]
        omega
      · have spent : maximum.toInt - next.toInt ≤ 0 := by omega
        rw [overAvailable_of_nonpos spent, overAvailable_of_nonpos]
        simp only [unhealthy, MachineSet.counts]
        omega
    rw [same]
    exact later next (by omega)

theorem map_availableReplicas_lowered (lowered : List.Forall₂ Lowered machineSets after) :
    after.map MachineSet.availableReplicas = machineSets.map MachineSet.availableReplicas := by
  induction lowered with
  | nil => rfl
  | cons head _ ih => rw [List.map_cons, List.map_cons, ih, head.same]

theorem getAvailableReplicaCount_lowered {oldMSs : List MachineSet} (newMS : MachineSet)
    (lowered : List.Forall₂ Lowered (sortByCreationTimestamp oldMSs) after) :
    getAvailableReplicaCountForMachineSets (after ++ [newMS]) =
      getAvailableReplicaCountForMachineSets (oldMSs ++ [newMS]) := by
  refine FixedWidth.wrappingSum_perm ?_
  rw [List.map_append, List.map_append, map_availableReplicas_lowered lowered]
  exact ((List.perm_insertionSort createdBefore oldMSs).map _).append_right _

/-- The budget of the scale-down, as the code computes it. -/
def scaleDownBudget (scaler : Scaler) (deployment : Deployment)
    (oldMSs : List MachineSet) (newMS : MachineSet) : Int32 :=
  getAvailableReplicaCountForMachineSets (oldMSs ++ [newMS]) - minAvailable scaler deployment

/-- The counts in the order in which the loops visit the old MachineSets. -/
def visited (oldMSs : List MachineSet) : List (Int × Int) :=
  (sortByCreationTimestamp oldMSs).map MachineSet.counts

/-- What the scale-down really spends: nothing when too little is available, or when the difference wraps around. -/
def effectiveBudget (scaler : Scaler) (deployment : Deployment)
    (oldMSs : List MachineSet) (newMS : MachineSet) : Int :=
  if getAvailableReplicaCountForMachineSets (oldMSs ++ [newMS]) ≤ minAvailable scaler deployment then 0
  else max (scaleDownBudget scaler deployment oldMSs newMS).toInt 0

variable {deployment : Deployment} {oldMSs after : List MachineSet} {newMS : MachineSet}

theorem scaleDownOldMachineSets_counts {cleaned : List MachineSet} (counted : AllCounted oldMSs)
    (lowered : List.Forall₂ Lowered (sortByCreationTimestamp oldMSs) cleaned) {final : Int32}
    (succeeded : scaleDownOldMachineSetsForRollingUpdate patch scaler deployment cleaned newMS =
      (after, .ok final)) :
    after.map MachineSet.counts =
      spend Prod.fst lower (effectiveBudget scaler deployment oldMSs newMS)
        (cleaned.map MachineSet.counts) := by
  have cleanedCounted := counted_of_lowered lowered (counted_sorted counted)
  have specNonneg : ∀ pair ∈ cleaned.map MachineSet.counts, 0 ≤ pair.1 := by
    intro _ member
    rcases List.mem_map.mp member with ⟨machineSet, inside, rfl⟩
    exact (cleanedCounted machineSet inside).spec_nonneg
  unfold scaleDownOldMachineSetsForRollingUpdate at succeeded
  rw [getAvailableReplicaCount_lowered newMS lowered, sortByCreationTimestamp_lowered lowered] at succeeded
  unfold effectiveBudget
  dsimp only at succeeded
  split_ifs at succeeded ⊢ with tooFew
  · cases succeeded
    rw [spend_zero lower_zero specNonneg]
  · by_cases positive : 0 ≤ (scaleDownBudget scaler deployment oldMSs newMS).toInt
    · rw [max_eq_left positive]
      have counts := (scaleDownLoop_rounds _).counts cleanedCounted Int32.toInt_zero.ge Prod.fst
        (fun machineSet isCounted => isCounted.spec_nonneg) (fun machineSet _ isIdle => isIdle)
        (fun machineSet left _ _ _ => rfl) (Int32.toInt_zero.le.trans positive) succeeded
      rwa [Int32.toInt_zero, sub_zero] at counts
    · rw [max_eq_right (by omega), spend_zero lower_zero specNonneg]
      rw [scaleDownLoop_of_nonpos cleanedCounted (by rw [← scaleDownBudget]; omega)] at succeeded
      cases succeeded
      rfl

theorem reconcileOldMachineSets_counts (counted : AllCounted oldMSs)
    (succeeded : reconcileOldMachineSets patch scaler deployment oldMSs newMS = (after, .ok ())) :
    after = oldMSs ∧ (getReplicaCountForMachineSets oldMSs = 0 ∨
        maxScaledDown scaler deployment oldMSs newMS ≤ 0) ∨
      getReplicaCountForMachineSets oldMSs ≠ 0 ∧
      0 < (maxScaledDown scaler deployment oldMSs newMS).toInt ∧
      overAvailable (maxScaledDown scaler deployment oldMSs newMS).toInt (visited oldMSs) = false ∧
      after.map MachineSet.counts = rollDown (maxScaledDown scaler deployment oldMSs newMS).toInt
        (effectiveBudget scaler deployment oldMSs newMS) (visited oldMSs) := by
  unfold reconcileOldMachineSets at succeeded
  split at succeeded
  · cases succeeded
  · cases succeeded
  · split_ifs at succeeded with empty blocked
    · cases succeeded
      exact .inl ⟨rfl, .inl empty⟩
    · cases succeeded
      exact .inl ⟨rfl, .inr blocked⟩
    · have positive : 0 < (maxScaledDown scaler deployment oldMSs newMS).toInt := by
        rw [Int32.le_iff_toInt_le, Int32.toInt_zero] at blocked
        omega
      split at succeeded
      · cases succeeded
      · rename_i cleanedCount cleanedOk
        split at succeeded
        · cases succeeded
        · rename_i scaledOk
          cases succeeded
          have lowered : List.Forall₂ Lowered (sortByCreationTimestamp oldMSs)
              (cleanupUnhealthyReplicas patch oldMSs (maxScaledDown scaler deployment oldMSs newMS)).1 :=
            cleanupUnhealthyReplicas_lowered counted _
          rw [cleanedOk] at lowered
          refine .inr ⟨empty, positive, ?_, ?_⟩
          · by_contra exceeded
            have outcome := (@cleanupLoop_ends _ patch (counted_sorted counted)
              (maxScaledDown scaler deployment oldMSs newMS) 0 Int32.toInt_zero.ge).1
            exact outcome (by simpa [visited] using exceeded) cleanedCount (congrArg Prod.snd cleanedOk)
          · rw [scaleDownOldMachineSets_counts counted lowered scaledOk,
              cleanupUnhealthyReplicas_counts counted positive.le cleanedOk]
            rfl

/-! ## The floor -/

/-- The replicas of the deployment minus `MaxUnavailable`. -/
def availabilityFloor (scaler : Scaler) (deployment : Deployment) : Int :=
  (deployment.replicas.getD 0).toInt - (maxUnavailable scaler deployment).toInt

/-- The sum of `min(spec.replicas, status.availableReplicas)`. -/
def survivingReplicas (machineSets : List MachineSet) : Int := survivors (machineSets.map MachineSet.counts)

/-- Whatever the patches do, a reconcile that succeeds does not take the
surviving replicas below the floor, nor below what they were if that was less. -/
def KeepsFloor (scaler : Scaler) (deployment : Deployment)
    (oldMSs : List MachineSet) (newMS : MachineSet) : Prop :=
  ∀ patch after, reconcileOldMachineSets patch scaler deployment oldMSs newMS = (after, .ok ()) →
    min (availabilityFloor scaler deployment) (survivingReplicas (oldMSs ++ [newMS])) ≤
      survivingReplicas (after ++ [newMS])

/-- When the floor is kept.  The first four cases are those in which the
scale-down does not run: there is nothing old, no Machine may go, too few are
available, or the clean-up fails on a MachineSet with more available than
desired replicas.  In the last three no MachineSet has surplus available replicas, the new
MachineSet carries the floor alone, or the budgets end in unavailable replicas. -/
def FloorCondition (scaler : Scaler) (deployment : Deployment)
    (oldMSs : List MachineSet) (newMS : MachineSet) : Prop :=
  getReplicaCountForMachineSets oldMSs = 0 ∨
  maxScaledDown scaler deployment oldMSs newMS ≤ 0 ∨
  getAvailableReplicaCountForMachineSets (oldMSs ++ [newMS]) ≤ minAvailable scaler deployment ∨
  overAvailable (maxScaledDown scaler deployment oldMSs newMS).toInt (visited oldMSs) = true ∨
  ((∀ machineSet ∈ oldMSs ++ [newMS], machineSet.available ≤ machineSet.spec) ∧
    (minAvailable scaler deployment).toInt = availabilityFloor scaler deployment) ∨
  min (availabilityFloor scaler deployment) (survivingReplicas (oldMSs ++ [newMS])) ≤
    min newMS.spec newMS.available ∨
  absorbed ((scaleDownBudget scaler deployment oldMSs newMS).toInt +
    (maxScaledDown scaler deployment oldMSs newMS).toInt) (visited oldMSs) = true

theorem survivingReplicas_append (machineSets : List MachineSet) (newMS : MachineSet) :
    survivingReplicas (machineSets ++ [newMS]) =
      survivors (machineSets.map MachineSet.counts) + min newMS.spec newMS.available := by
  simp [survivingReplicas, survivors, MachineSet.counts]

theorem nonneg_counts (counted : AllCounted machineSets) : Nonneg (machineSets.map MachineSet.counts) := by
  intro _ member
  rcases List.mem_map.mp member with ⟨machineSet, inside, rfl⟩
  exact ⟨(counted machineSet inside).spec_nonneg, (counted machineSet inside).available_nonneg⟩

theorem survivors_visited (oldMSs : List MachineSet) :
    survivors (visited oldMSs) = survivors (oldMSs.map MachineSet.counts) :=
  (((List.perm_insertionSort createdBefore oldMSs).map _).map _).sum_eq

theorem effectiveBudget_nonneg (scaler : Scaler) (deployment : Deployment) (oldMSs : List MachineSet) (newMS : MachineSet) :
    0 ≤ effectiveBudget scaler deployment oldMSs newMS := by
  unfold effectiveBudget
  split_ifs
  · exact le_refl _
  · exact le_max_right _ _

theorem sum_nonneg_of_counted {value : MachineSet → Int} (counted : AllCounted machineSets)
    (nonneg : ∀ machineSet, Counted machineSet → 0 ≤ value machineSet) : 0 ≤ (machineSets.map value).sum := by
  apply List.sum_nonneg
  intro _ member
  rcases List.mem_map.mp member with ⟨machineSet, inside, rfl⟩
  exact nonneg machineSet (counted machineSet inside)

theorem survivingReplicas_of_noSurplus
    (noSurplus : ∀ machineSet ∈ machineSets, machineSet.available ≤ machineSet.spec) :
    survivingReplicas machineSets = (machineSets.map MachineSet.available).sum := by
  rw [survivingReplicas, survivors, List.map_map]
  refine congrArg List.sum (List.map_congr_left fun machineSet member => ?_)
  exact min_eq_right (noSurplus machineSet member)

theorem effectiveBudget_le (nonneg : 0 ≤ ((oldMSs ++ [newMS]).map MachineSet.available).sum)
    (positive : 0 < effectiveBudget scaler deployment oldMSs newMS) :
    effectiveBudget scaler deployment oldMSs newMS ≤
      ((oldMSs ++ [newMS]).map MachineSet.available).sum - (minAvailable scaler deployment).toInt := by
  have counted : (getAvailableReplicaCountForMachineSets (oldMSs ++ [newMS])).toInt ≤
      ((oldMSs ++ [newMS]).map MachineSet.available).sum := by
    have le := @FixedWidth.toInt_wrappingSum_le ((oldMSs ++ [newMS]).map MachineSet.availableReplicas)
      (by rw [List.map_map]; exact nonneg)
    rwa [List.map_map] at le
  unfold effectiveBudget at positive ⊢
  split_ifs at positive ⊢ with tooFew
  · exact absurd positive (lt_irrefl 0)
  rw [Int32.le_iff_toInt_le] at tooFew
  unfold scaleDownBudget at positive ⊢
  rw [Int32.toInt_sub] at positive ⊢
  rw [Int.bmod_def] at positive ⊢
  split_ifs at positive ⊢ <;> omega

theorem FloorCondition.keepsFloor (counted : AllCounted (oldMSs ++ [newMS]))
    (condition : FloorCondition scaler deployment oldMSs newMS) :
    KeepsFloor scaler deployment oldMSs newMS := by
  intro _ after succeeded
  have oldCounted := (List.forall_mem_append.mp counted).1
  rcases reconcileOldMachineSets_counts oldCounted succeeded with ⟨rfl, -⟩ | ⟨some, positive, notOver, counts⟩
  · exact min_le_right _ _
  have visitedNonneg : Nonneg (visited oldMSs) := nonneg_counts (counted_sorted oldCounted)
  have budgetNonneg := effectiveBudget_nonneg scaler deployment oldMSs newMS
  have lossBounded := le_survivors_rollDown visitedNonneg
    (maxScaledDown scaler deployment oldMSs newMS).toInt _ budgetNonneg
  have availableNonneg := sum_nonneg_of_counted counted fun _ isCounted => isCounted.available_nonneg
  rw [survivingReplicas_append after, counts]
  have before := survivingReplicas_append oldMSs newMS
  rw [← survivors_visited] at before
  rcases condition with empty | blocked | tooFew | exceeded | ⟨noSurplus, exact⟩ | _ | isAbsorbed
  · exact absurd empty some
  · rw [Int32.le_iff_toInt_le, Int32.toInt_zero] at blocked
    omega
  · have none : effectiveBudget scaler deployment oldMSs newMS = 0 := if_pos tooFew
    omega
  · rw [notOver] at exceeded
    cases exceeded
  · by_cases spends : 0 < effectiveBudget scaler deployment oldMSs newMS
    · have le := effectiveBudget_le availableNonneg spends
      rw [← survivingReplicas_of_noSurplus noSurplus, exact] at le
      omega
    · omega
  · omega
  · by_cases spends : 0 < effectiveBudget scaler deployment oldMSs newMS
    · have spent : effectiveBudget scaler deployment oldMSs newMS =
          (scaleDownBudget scaler deployment oldMSs newMS).toInt := by
        unfold effectiveBudget at spends ⊢
        split_ifs at spends ⊢
        · exact absurd spends (lt_irrefl 0)
        · omega
      have kept := survivors_rollDown_of_absorbed visitedNonneg _ _ positive.le budgetNonneg
        (by rw [spent]; exact isAbsorbed)
      omega
    · omega

/-- The deployment has a number of replicas, and the counts fit into 32 bits. -/
structure Fits (scaler : Scaler) (deployment : Deployment)
    (oldMSs : List MachineSet) (newMS : MachineSet) : Prop where
  present : deployment.replicas.isSome = true
  replicasNonneg : 0 ≤ (deployment.replicas.getD 0).toInt
  floorFits : availabilityFloor scaler deployment < 2 ^ 31
  total : ((oldMSs ++ [newMS]).map fun machineSet => max machineSet.spec machineSet.available).sum < 2 ^ 31

theorem availabilityFloor_nonneg (nonneg : 0 ≤ (deployment.replicas.getD 0).toInt) :
    0 ≤ availabilityFloor scaler deployment := by
  have le : (maxUnavailable scaler deployment).toInt ≤ (deployment.replicas.getD 0).toInt := by
    unfold maxUnavailable
    dsimp only
    split_ifs with _ above
    · exact Int32.toInt_zero.le.trans nonneg
    · exact le_refl _
    · rw [gt_iff_lt, Int32.lt_iff_toInt_lt] at above
      omega
  rw [availabilityFloor]
  omega

/-- The subtraction that computes the floor does not wrap around. -/
theorem Fits.minAvailable_eq (fits : Fits scaler deployment oldMSs newMS) :
    (minAvailable scaler deployment).toInt = availabilityFloor scaler deployment := by
  have nonneg : 0 ≤ availabilityFloor scaler deployment := availabilityFloor_nonneg fits.replicasNonneg
  have floorFits := fits.floorFits
  rw [availabilityFloor] at nonneg floorFits ⊢
  exact FixedWidth.toInt_sub_of_range (by omega) (by omega)

theorem sum_append_new (value : MachineSet → Int) (oldMSs : List MachineSet) (newMS : MachineSet) :
    ((oldMSs ++ [newMS]).map value).sum = (oldMSs.map value).sum + value newMS := by
  simp

theorem sum_unhealthy_visited (oldMSs : List MachineSet) :
    ((visited oldMSs).map unhealthy).sum =
      (oldMSs.map MachineSet.spec).sum - survivors (oldMSs.map MachineSet.counts) := by
  have perm : ((visited oldMSs).map unhealthy).sum = ((oldMSs.map MachineSet.counts).map unhealthy).sum :=
    (((List.perm_insertionSort createdBefore oldMSs).map _).map _).sum_eq
  rw [perm]
  clear perm
  induction oldMSs with
  | nil => rfl
  | cons machineSet _ ih =>
    have split : unhealthy machineSet.counts = machineSet.spec - min machineSet.spec machineSet.available := by
      simp only [unhealthy, MachineSet.counts]
      omega
    simp only [survivors, List.map_cons, List.sum_cons, MachineSet.counts] at ih split ⊢
    omega

section

variable (fits : Fits scaler deployment oldMSs newMS) (counted : AllCounted (oldMSs ++ [newMS]))
include fits counted

theorem Fits.counts_exact :
    (getReplicaCountForMachineSets (oldMSs ++ [newMS])).toInt = ((oldMSs ++ [newMS]).map MachineSet.spec).sum ∧
      (getAvailableReplicaCountForMachineSets (oldMSs ++ [newMS])).toInt =
        ((oldMSs ++ [newMS]).map MachineSet.available).sum := by
  have specLe := List.sum_le_sum fun machineSet (_ : machineSet ∈ oldMSs ++ [newMS]) =>
    le_max_left machineSet.spec machineSet.available
  have availableLe := List.sum_le_sum fun machineSet (_ : machineSet ∈ oldMSs ++ [newMS]) =>
    le_max_right machineSet.spec machineSet.available
  have specExact := @FixedWidth.toInt_wrappingSum_of_fits
    ((oldMSs ++ [newMS]).map fun machineSet => machineSet.replicas.getD 0)
  have availableExact := @FixedWidth.toInt_wrappingSum_of_fits ((oldMSs ++ [newMS]).map MachineSet.availableReplicas)
  rw [List.map_map] at specExact availableExact
  exact ⟨specExact (sum_nonneg_of_counted counted fun _ isCounted => isCounted.spec_nonneg)
      (specLe.trans_lt fits.total),
    availableExact (sum_nonneg_of_counted counted fun _ isCounted => isCounted.available_nonneg)
      (availableLe.trans_lt fits.total)⟩

theorem Fits.budgets_exact :
    (maxScaledDown scaler deployment oldMSs newMS).toInt =
        (oldMSs.map MachineSet.spec).sum + newMS.available - availabilityFloor scaler deployment ∧
      (scaleDownBudget scaler deployment oldMSs newMS).toInt =
        ((oldMSs ++ [newMS]).map MachineSet.available).sum - availabilityFloor scaler deployment := by
  rcases fits.counts_exact counted with ⟨specs, availables⟩
  have floorNonneg : 0 ≤ availabilityFloor scaler deployment :=
    availabilityFloor_nonneg fits.replicasNonneg
  have floorLt := (minAvailable scaler deployment).toInt_lt
  have newCounted := counted newMS (List.mem_append_right _ (List.mem_singleton_self newMS))
  have oldCounted := (List.forall_mem_append.mp counted).1
  have specNonneg := sum_nonneg_of_counted oldCounted fun _ isCounted => isCounted.spec_nonneg
  have availableNonneg := sum_nonneg_of_counted counted fun _ isCounted => isCounted.available_nonneg
  have availableLt := (getAvailableReplicaCountForMachineSets (oldMSs ++ [newMS])).toInt_lt
  have newSpec := newCounted.spec_nonneg
  have newAvailable := newCounted.available_nonneg
  have floorFits := fits.minAvailable_eq
  have oldLe := List.sum_le_sum fun machineSet (_ : machineSet ∈ oldMSs) =>
    le_max_left machineSet.spec machineSet.available
  have total := fits.total
  rw [sum_append_new] at specs total
  constructor
  · have unavailable : ((newMS.replicas.getD 0) - newMS.availableReplicas).toInt = newMS.spec - newMS.available :=
      FixedWidth.toInt_sub_of_nonneg newSpec newAvailable
    have first := @FixedWidth.toInt_sub_of_range (getReplicaCountForMachineSets (oldMSs ++ [newMS]))
      (minAvailable scaler deployment) (by omega) (by omega)
    have second := @FixedWidth.toInt_sub_of_range
      (getReplicaCountForMachineSets (oldMSs ++ [newMS]) - minAvailable scaler deployment)
      (newMS.replicas.getD 0 - newMS.availableReplicas) (by omega) (by omega)
    rw [maxScaledDown, second]
    omega
  · rw [scaleDownBudget, FixedWidth.toInt_sub_of_range (by omega) (by omega), availables, floorFits]

end

theorem reconcileOldMachineSets_succeeds (counted : AllCounted oldMSs) (present : deployment.replicas.isSome = true)
    (newPresent : newMS.replicas.isSome = true) (works : ∀ machineSet, ¬ PatchFails patch machineSet)
    (notOver : overAvailable (maxScaledDown scaler deployment oldMSs newMS).toInt (visited oldMSs) = false) :
    ∃ after, reconcileOldMachineSets patch scaler deployment oldMSs newMS = (after, .ok ()) := by
  rcases Option.isSome_iff_exists.mp present with ⟨replicas, replicasEq⟩
  rcases Option.isSome_iff_exists.mp newPresent with ⟨newReplicas, newReplicasEq⟩
  have cleanedLowered := @cleanupUnhealthyReplicas_lowered patch oldMSs counted
    (maxScaledDown scaler deployment oldMSs newMS)
  have cleanedCounted := counted_of_lowered cleanedLowered (counted_sorted counted)
  obtain ⟨_, cleanedOk⟩ := (@cleanupLoop_ends _ patch (counted_sorted counted)
    (maxScaledDown scaler deployment oldMSs newMS) 0 Int32.toInt_zero.ge).2
      (by rw [Int32.toInt_zero, sub_zero]; exact notOver) works
  obtain ⟨scaledCount, scaledOk⟩ : ∃ count,
      (scaleDownOldMachineSetsForRollingUpdate patch scaler deployment (cleanupUnhealthyReplicas patch oldMSs
        (maxScaledDown scaler deployment oldMSs newMS)).1 newMS).2 = .ok count := by
    unfold scaleDownOldMachineSetsForRollingUpdate
    dsimp only
    split_ifs
    · exact ⟨0, rfl⟩
    · exact (scaleDownLoop_rounds _).succeeds (counted_sorted cleanedCounted) Int32.toInt_zero.ge fun _ => works
  unfold reconcileOldMachineSets
  rw [replicasEq, newReplicasEq]
  dsimp only
  split_ifs
  · exact ⟨_, rfl⟩
  · exact ⟨_, rfl⟩
  · rw [cleanupUnhealthyReplicas] at *
    split
    · rename_i failed
      rw [failed] at cleanedOk
      cases cleanedOk
    · rename_i cleanedEq
      rw [cleanedEq] at scaledOk
      split
      · rename_i failed
        rw [failed] at scaledOk
        cases scaledOk
      · exact ⟨_, rfl⟩

theorem survivingReplicas_lt_of_surplus (surplus : ∃ machineSet ∈ machineSets, machineSet.spec < machineSet.available) :
    survivingReplicas machineSets < (machineSets.map MachineSet.available).sum := by
  rcases surplus with ⟨machineSet, member, _⟩
  rw [survivingReplicas, survivors, List.map_map]
  exact List.sum_lt_sum _ _ (fun other _ => min_le_right _ _) ⟨machineSet, member, by
    simp only [Function.comp_apply, MachineSet.counts]
    omega⟩

/-- When nothing wraps around the condition is also needed: the run in which
every patch is accepted takes the survivors below the floor. -/
theorem Fits.floorCondition (fits : Fits scaler deployment oldMSs newMS)
    (counted : AllCounted (oldMSs ++ [newMS])) (keeps : KeepsFloor scaler deployment oldMSs newMS) :
    FloorCondition scaler deployment oldMSs newMS := by
  by_contra violated
  simp only [FloorCondition, not_or, not_and_or, not_forall, Bool.not_eq_true, not_le] at violated
  rcases violated with ⟨some, allowed, enough, notOver, surplus, notCarried, notAbsorbed⟩
  have oldCounted := (List.forall_mem_append.mp counted).1
  have works : ∀ machineSet, ¬ PatchFails (fun _ _ => none) machineSet := by simp [PatchFails]
  obtain ⟨after, succeeded⟩ := reconcileOldMachineSets_succeeds oldCounted fits.present
    (counted newMS (by simp)).present works notOver
  have kept := keeps _ after succeeded
  rcases reconcileOldMachineSets_counts oldCounted succeeded with ⟨-, empty | blocked⟩ | ⟨-, positive, -, counts⟩
  · exact some empty
  · exact allowed blocked
  have visitedNonneg : Nonneg (visited oldMSs) := nonneg_counts (counted_sorted oldCounted)
  rcases fits.budgets_exact counted with ⟨_, _⟩
  have budgetPos : 0 < (scaleDownBudget scaler deployment oldMSs newMS).toInt := by
    rw [Int32.le_iff_toInt_le, fits.minAvailable_eq, (fits.counts_exact counted).2] at enough
    omega
  have effective : effectiveBudget scaler deployment oldMSs newMS =
      (scaleDownBudget scaler deployment oldMSs newMS).toInt := by
    rw [effectiveBudget, if_neg enough, max_eq_left budgetPos.le]
  have strict := survivors_rollDown_lt visitedNonneg _ _ positive.le budgetPos notAbsorbed
  have few : survivingReplicas (oldMSs ++ [newMS]) < ((oldMSs ++ [newMS]).map MachineSet.available).sum :=
    survivingReplicas_lt_of_surplus (by
      rcases surplus with ⟨machineSet, member, more⟩ | wraps
      · exact ⟨machineSet, member, more⟩
      · exact absurd fits.minAvailable_eq wraps)
  have sumUnhealthy := sum_unhealthy_visited oldMSs
  rw [survivingReplicas_append after, counts, effective] at kept
  rw [survivingReplicas_append oldMSs, ← survivors_visited] at kept few notCarried
  rw [← survivors_visited] at sumUnhealthy
  -- What is left is above the floor, so the clean-up budget covers every unavailable replica.
  have survivorsEq := survivors_rollDown_of_le visitedNonneg
    (maxScaledDown scaler deployment oldMSs newMS).toInt
    (scaleDownBudget scaler deployment oldMSs newMS).toInt (by omega) budgetPos.le
  omega

/-- For MachineSets with non-negative counts, the reconcile keeps the surviving
replicas at the floor under `FloorCondition`, and only then when nothing wraps around. -/
theorem reconcileOldMachineSets_keepsFloor
    (scaler : Scaler) (deployment : Deployment)
    (oldMSs : List MachineSet) (newMS : MachineSet) (counted : ∀ machineSet ∈ oldMSs ++ [newMS], Counted machineSet) :
    (FloorCondition scaler deployment oldMSs newMS → KeepsFloor scaler deployment oldMSs newMS) ∧
      (Fits scaler deployment oldMSs newMS →
        (KeepsFloor scaler deployment oldMSs newMS ↔ FloorCondition scaler deployment oldMSs newMS)) :=
  ⟨fun condition => condition.keepsFloor counted,
    fun fits => ⟨fits.floorCondition counted, fun condition => condition.keepsFloor counted⟩⟩

/-! ## Two rollouts -/

def threeReplicas : Deployment :=
  { name := "workers", replicas := some 3, strategyType := .rollingUpdate, maxSurge := some (.int 1)
    maxUnavailable := some (.int 0) }

def drainingMachineSet : MachineSet :=
  { name := "workers-a", creationTimestamp := 0, replicas := some 0, statusReplicas := 2, availableReplicas := 2 }

def servingMachineSet : MachineSet :=
  { name := "workers-b", creationTimestamp := 1, replicas := some 3, statusReplicas := 3, availableReplicas := 3 }

def surgeMachineSet : MachineSet :=
  { name := "workers-c", creationTimestamp := 2, replicas := some 1, statusReplicas := 1, availableReplicas := 1 }

/-- The deleting Machines pay for the scale-down of those that serve: of four replicas one survives. -/
theorem draining_breaks_floor : isRollingUpdate threeReplicas = true ∧
    (∀ machineSet ∈ [drainingMachineSet, servingMachineSet] ++ [surgeMachineSet], Counted machineSet) ∧
    ¬ KeepsFloor getScaledValue threeReplicas [drainingMachineSet, servingMachineSet]
      surgeMachineSet := by
  refine ⟨rfl, by decide, fun keeps => ?_⟩
  have kept := keeps (fun _ _ => none) [drainingMachineSet, { servingMachineSet with replicas := some 0 }] rfl
  revert kept
  decide +kernel

/-- Without the draining MachineSet the floor is kept. -/
theorem serving_keeps_floor :
    KeepsFloor getScaledValue threeReplicas [servingMachineSet] surgeMachineSet ∧
      (KeepsFloor getScaledValue threeReplicas [servingMachineSet] surgeMachineSet ↔
        FloorCondition getScaledValue threeReplicas [servingMachineSet] surgeMachineSet) := by
  have result := reconcileOldMachineSets_keepsFloor getScaledValue threeReplicas [servingMachineSet]
    surgeMachineSet (by decide)
  refine ⟨result.1 (.inr (.inr (.inr (.inr (.inl ⟨by decide, by decide +kernel⟩))))), result.2 ⟨rfl, ?_, ?_, ?_⟩⟩
  all_goals decide +kernel

end ClusterApi.MachineDeployment

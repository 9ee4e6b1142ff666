import ClusterApi.Foundation.Runs
import ClusterApi.MachineDeployment.Rollout

namespace ClusterApi.MachineDeployment

open Foundation List Int32 FixedWidth

/-!
# The surge limit over runs

Rollouts of one MachineDeployment interleaved with MachineSet controllers
that move `status.replicas` towards `spec.replicas`.  What a MachineSet holds,
`max(spec.replicas, status.replicas)`, is given back only when both counts have
gone down.  The total never grows beyond `spec.replicas + MaxSurge` as long as
it can be counted in 32 bits.
-/

/-- The replicas a MachineSet has or is about to have. -/
def MachineSet.held (machineSet : MachineSet) : Int := max machineSet.spec machineSet.status

def heldReplicas (machineSets : List MachineSet) : Int := (machineSets.map MachineSet.held).sum

/-- A MachineSet with counts that make sense, the one its controller reports included. -/
structure Reported (machineSet : MachineSet) : Prop extends Counted machineSet where
  status_nonneg : 0 ≤ machineSet.status

variable {machineSet : MachineSet}

theorem Reported.held_nonneg (reported : Reported machineSet) : 0 ≤ machineSet.held :=
  reported.spec_nonneg.trans (le_max_left _ _)

theorem heldReplicas_nonneg {machineSets : List MachineSet}
    (reported : ∀ machineSet ∈ machineSets, Reported machineSet) : 0 ≤ heldReplicas machineSets :=
  sum_nonneg fun _ member => by
    rcases mem_map.mp member with ⟨machineSet, inside, rfl⟩
    exact (reported machineSet inside).held_nonneg

theorem heldReplicas_append (first second : List MachineSet) :
    heldReplicas (first ++ second) = heldReplicas first + heldReplicas second := by
  simp [heldReplicas]

/-- The limit `spec.replicas + MaxSurge`. -/
def surgeLimit (scaler : Scaler) (deployment : Deployment) : Int :=
  (deployment.replicas.getD 0).toInt + (maxSurge scaler deployment).toInt

variable {scaler : Scaler} {deployment : Deployment}
variable {calls : Calls} {inputs : Inputs} {machineSets oldMSs after : List MachineSet}
  {newMS : MachineSet} {roof bound : Int} {moved : String → Int32}

/-! ## One scale-up -/

theorem toInt_totalMachineSetsReplicaSum (reported : ∀ machineSet ∈ machineSets, Reported machineSet)
    (fits : heldReplicas machineSets < 2 ^ 31) :
    (totalMachineSetsReplicaSum machineSets).toInt = heldReplicas machineSets := by
  have heldEq : ((machineSets.map fun machineSet => max (machineSet.replicas.getD 0) machineSet.statusReplicas).map
      toInt).sum = heldReplicas machineSets := by
    rw [map_map]
    exact congrArg sum (map_congr_left fun machineSet _ => toInt_max _ _)
  rw [totalMachineSetsReplicaSum, toInt_wrappingSum_of_fits, heldEq]
  · exact heldEq ▸ heldReplicas_nonneg reported
  · exact heldEq ▸ fits

/-- What a deployment with the same replicas and surge may hold, as its controller computes it. -/
def Roof (scaler : Scaler) (deployment : Deployment) (roof : Int) : Prop :=
  ∀ surge, scaler deployment.maxSurge (deployment.replicas.getD 0).toInt true = .ok surge →
    (deployment.replicas.getD 0).toInt + (Int32.ofInt surge).toInt ≤ roof

/-- What the rollouts of a deployment rely on. -/
structure Limited (scaler : Scaler) (deployment : Deployment) (roof : Int) : Prop where
  rolling : deployment.strategyType = .rollingUpdate
  desiredNonneg : 0 ≤ (deployment.replicas.getD 0).toInt
  isRoof : Roof scaler deployment roof

section

variable (limited : Limited scaler deployment roof) (reported : ∀ machineSet ∈ machineSets, Reported machineSet)
  (fits : heldReplicas machineSets < 2 ^ 31)
include limited reported fits

theorem newMSNewReplicas_within {current replicas : Int32} (currentNonneg : 0 ≤ current.toInt)
    (currentLe : current.toInt ≤ (deployment.replicas.getD 0).toInt)
    (computed : newMSNewReplicas scaler deployment machineSets current = .ok replicas) :
    current.toInt ≤ replicas.toInt ∧ (replicas = current ∨
      heldReplicas machineSets + (replicas.toInt - current.toInt) ≤ min roof (2 ^ 31 - 1)) := by
  have totalEq := toInt_totalMachineSetsReplicaSum reported fits
  have totalNonneg := heldReplicas_nonneg reported
  unfold newMSNewReplicas at computed
  rw [limited.rolling] at computed
  dsimp only at computed
  split at computed
  · cases computed
  · rename_i surge resolved
    have roofLe := limited.isRoof surge resolved
    split_ifs at computed with full
    · cases computed
      exact ⟨le_refl _, .inl rfl⟩
    · cases computed
      generalize deployment.replicas.getD 0 = desired at *
      generalize ofInt surge = extra at *
      generalize totalMachineSetsReplicaSum machineSets = total at *
      rw [ge_iff_le, le_iff_toInt_le] at full
      have desiredLt := desired.toInt_lt
      have extraLt := extra.toInt_lt
      have extraGe := extra.le_toInt
      have limitLt := (desired + extra).toInt_lt
      -- A limit that wraps around is negative and leaves no room.
      have limitEq : (desired + extra).toInt = desired.toInt + extra.toInt := by
        rw [toInt_add, Int.bmod_def] at full ⊢
        split_ifs at full ⊢ <;> omega
      have roomEq : (desired + extra - total).toInt = desired.toInt + extra.toInt - total.toInt := by
        rw [toInt_sub_of_range (by omega) (by omega), limitEq]
      have missingEq : (desired - current).toInt = desired.toInt - current.toInt :=
        toInt_sub_of_nonneg (by omega) currentNonneg
      have takenEq := toInt_min (desired + extra - total) (desired - current)
      rw [toInt_add_of_range (by omega) (by omega), takenEq, roomEq, missingEq]
      constructor
      · omega
      · right
        omega

theorem reconcileNewMachineSet_within (newReported : Reported newMS)
    {patch : MachineSet → Int32 → Option String} {scaled : MachineSet}
    (succeeded : reconcileNewMachineSet patch scaler deployment machineSets newMS = .ok scaled) :
    scaled.name = newMS.name ∧ Counted scaled ∧ (scaled.spec ≤ newMS.spec ∨
      heldReplicas machineSets + (scaled.spec - newMS.spec) ≤ min roof (2 ^ 31 - 1)) := by
  unfold reconcileNewMachineSet at succeeded
  have desiredNonneg := limited.desiredNonneg
  have availableNonneg := newReported.available_nonneg
  have specNonneg := newReported.spec_nonneg
  split at succeeded
  · cases succeeded
  · cases succeeded
  · rename_i replicas desiredEq replicasEq
    rw [desiredEq, Option.getD_some] at desiredNonneg
    have specEq : newMS.spec = replicas.toInt := by rw [MachineSet.spec, replicasEq, Option.getD_some]
    split_ifs at succeeded with same above
    · cases succeeded
      exact ⟨rfl, newReported.toCounted, .inl (le_refl _)⟩
    · rw [gt_iff_lt, lt_iff_toInt_lt] at above
      rw [scaleMachineSet_ok succeeded]
      refine ⟨rfl, ⟨rfl, desiredNonneg, availableNonneg⟩, .inl ?_⟩
      rw [specEq]
      exact above.le
    · split at succeeded
      · cases succeeded
      · rename_i count computed
        rw [gt_iff_lt, lt_iff_toInt_lt] at above
        rw [scaleMachineSet_ok succeeded]
        obtain ⟨_, within⟩ := newMSNewReplicas_within limited reported fits (specEq ▸ specNonneg)
          (by rw [desiredEq, Option.getD_some]; omega) computed
        refine ⟨rfl, ⟨rfl, ?_, availableNonneg⟩, ?_⟩
        · change 0 ≤ count.toInt
          omega
        · rw [specEq]
          rcases within with unchanged | within
          · exact .inl (unchanged ▸ le_refl _)
          · exact .inr within

end

/-! ## One rollout -/

/-- What a MachineSet holds when its status has moved on during the rollout. -/
def load (moved : String → Int32) (machineSet : MachineSet) : Int :=
  max machineSet.spec (moved machineSet.name).toInt

/-- A MachineSet of the rollout's result, with the status it has by then. -/
structure Settled (moved : String → Int32) (machineSet : MachineSet) : Prop extends Counted machineSet where
  moved_nonneg : 0 ≤ (moved machineSet.name).toInt

/-- A status that moved since it was read: still a count, and nothing that was not held. -/
structure MovedFrom (moved : String → Int32) (machineSet : MachineSet) : Prop extends Reported machineSet where
  moved_nonneg : 0 ≤ (moved machineSet.name).toInt
  moved_le : (moved machineSet.name).toInt ≤ machineSet.held

/-- MachineSets that hold no more than a limit by then. -/
structure Below (moved : String → Int32) (limit : Int) (machineSets : List MachineSet) : Prop where
  settled : ∀ machineSet ∈ machineSets, Settled moved machineSet
  load_le : (machineSets.map (load moved)).sum ≤ limit

theorem Below.mono {limit larger : Int} (below : Below moved limit machineSets)
    (le : limit ≤ larger) : Below moved larger machineSets :=
  ⟨below.settled, below.load_le.trans le⟩

variable {before : List MachineSet}

theorem Shrinks.settled (shrinks : Shrinks before after) (movedFrom : ∀ machineSet ∈ before, MovedFrom moved machineSet) :
    ∀ machineSet ∈ after, Settled moved machineSet := by
  intro _ member
  rcases shrinks.exists_of_mem member with ⟨original, inside, follows⟩
  exact ⟨follows.counted, follows.name ▸ (movedFrom original inside).moved_nonneg⟩

theorem Shrinks.load_le (shrinks : Shrinks before after) (moved : String → Int32) :
    (after.map (load moved)).sum ≤ (before.map (load moved)).sum := by
  rcases shrinks with ⟨_, perm, follows⟩
  rw [← (perm.map (load moved)).sum_eq]
  clear perm
  induction follows with
  | nil => exact le_refl _
  | cons head _ ih =>
    have headLe := head.le
    have nameEq := head.name
    simp only [map_cons, sum_cons, load, nameEq] at ih ⊢
    omega

section

variable (movedFrom : ∀ machineSet ∈ machineSets, MovedFrom moved machineSet)
include movedFrom

theorem load_le_held : (machineSets.map (load moved)).sum ≤ heldReplicas machineSets :=
  sum_le_sum fun machineSet member => max_le (le_max_left _ _) (movedFrom machineSet member).moved_le

theorem below_of_moved {limit : Int} (le : heldReplicas machineSets ≤ limit) : Below moved limit machineSets where
  settled := fun machineSet member =>
    ⟨(movedFrom machineSet member).toCounted, (movedFrom machineSet member).moved_nonneg⟩
  load_le := (load_le_held movedFrom).trans le

end

theorem Shrinks.below {scaled : MachineSet} (shrinks : Shrinks oldMSs after)
    (limited : Limited scaler deployment roof) (fits : heldReplicas (oldMSs ++ [newMS]) < 2 ^ 31)
    (movedFrom : ∀ machineSet ∈ oldMSs ++ [newMS], MovedFrom moved machineSet)
    (succeeded : reconcileNewMachineSet calls.patch scaler deployment (oldMSs ++ [newMS]) newMS = .ok scaled) :
    Below moved (max (heldReplicas (oldMSs ++ [newMS])) (min roof (2 ^ 31 - 1))) (after ++ [scaled]) := by
  rcases forall_mem_append.mp movedFrom with ⟨oldMoved, newMoved⟩
  rw [forall_mem_singleton] at newMoved
  have oldLe := load_le_held oldMoved
  have newMovedLe := newMoved.moved_le
  have heldEq := heldReplicas_append oldMSs [newMS]
  have newHeld : heldReplicas [newMS] = newMS.held := by simp [heldReplicas]
  rcases reconcileNewMachineSet_within limited (fun machineSet member => (movedFrom machineSet member).toReported) fits
    newMoved.toReported succeeded with ⟨nameEq, scaledCounted, _⟩
  have afterLe := shrinks.load_le moved
  refine ⟨forall_mem_append.mpr ⟨shrinks.settled oldMoved, forall_mem_singleton.mpr ⟨scaledCounted, ?_⟩⟩, ?_⟩
  · rw [nameEq]
    exact newMoved.moved_nonneg
  · have sumEq : ((after ++ [scaled]).map (load moved)).sum =
        (after.map (load moved)).sum + max scaled.spec (moved newMS.name).toInt := by
      simp [load, nameEq]
    simp only [MachineSet.held] at newMovedLe newHeld
    omega

theorem rolloutNewMachineSet_below (limited : Limited scaler deployment roof)
    (fits : heldReplicas (oldMSs ++ [newMS]) < 2 ^ 31)
    (movedFrom : ∀ machineSet ∈ oldMSs ++ [newMS], MovedFrom moved machineSet) :
    Below moved (max (heldReplicas (oldMSs ++ [newMS])) (min roof (2 ^ 31 - 1)))
      (rolloutNewMachineSet calls scaler deployment oldMSs newMS).1 := by
  have oldCounted : AllCounted oldMSs :=
    fun machineSet member => (movedFrom machineSet (mem_append_left _ member)).toCounted
  unfold rolloutNewMachineSet
  split
  · exact below_of_moved movedFrom (le_max_left _ _)
  · rename_i scaled succeeded
    have shrinks : Shrinks oldMSs (reconcileOldMachineSets calls.patch scaler deployment oldMSs scaled).1 :=
      reconcileOldMachineSets_shrinks oldCounted
    split
    · rename_i afterEq
      rw [afterEq] at shrinks
      exact shrinks.below limited fits movedFrom succeeded
    · rename_i afterEq
      rw [afterEq] at shrinks
      split_ifs
      · exact (shrinks.trans (cleanupDeployment_shrinks shrinks.counted)).below limited fits movedFrom succeeded
      · exact shrinks.below limited fits movedFrom succeeded

/-! ## Finding the new MachineSet -/

theorem mem_sortByDecreasingReplicas : machineSet ∈ sortByDecreasingReplicas machineSets ↔ machineSet ∈ machineSets :=
  (perm_insertionSort _ machineSets).mem_iff

theorem findNewMachineSet_mem {templateUpToDate : MachineSet → Bool} {rolloutAfter : Option Int}
    {reconciliationTime : Int}
    (found : findNewMachineSet templateUpToDate rolloutAfter reconciliationTime machineSets = some newMS) :
    newMS ∈ machineSets := by
  have member : newMS ∈ (sortByDecreasingReplicas machineSets).filter templateUpToDate := by
    unfold findNewMachineSet at found
    split at found
    · exact mem_of_head? found
    · split_ifs at found
      · exact mem_of_head? found
      · exact mem_of_find?_eq_some found
  exact mem_sortByDecreasingReplicas.mp (mem_of_mem_filter member)

theorem heldReplicas_filter_add (keep : MachineSet → Bool) (machineSets : List MachineSet) :
    heldReplicas (machineSets.filter keep) + heldReplicas
      (machineSets.filter fun machineSet => !keep machineSet) = heldReplicas machineSets := by
  rw [← heldReplicas_append]
  exact ((filter_append_perm keep machineSets).map _).sum_eq

theorem heldReplicas_filter_add_le (reported : ∀ machineSet ∈ machineSets, Reported machineSet)
    {keep : MachineSet → Bool} (member : newMS ∈ machineSets) (dropped : keep newMS = false) :
    heldReplicas (machineSets.filter keep) + newMS.held ≤ heldReplicas machineSets := by
  have split := heldReplicas_filter_add keep machineSets
  have inside : newMS ∈ machineSets.filter fun machineSet => !keep machineSet :=
    mem_filter.mpr ⟨member, by rw [dropped]; rfl⟩
  have single : newMS.held ≤ heldReplicas (machineSets.filter fun machineSet => !keep machineSet) := by
    refine single_le_sum ?_ _ (mem_map_of_mem inside)
    intro _ heldMember
    rcases mem_map.mp heldMember with ⟨machineSet, filtered, rfl⟩
    exact (reported machineSet (mem_of_mem_filter filtered)).held_nonneg
  omega

theorem heldReplicas_findOldMachineSets_some
    (reported : ∀ machineSet ∈ machineSets, Reported machineSet) (member : newMS ∈ machineSets) :
    heldReplicas (findOldMachineSets (some newMS) machineSets ++ [newMS]) ≤ heldReplicas machineSets := by
  have le := @heldReplicas_filter_add_le (sortByDecreasingReplicas machineSets) newMS
    (fun machineSet inside => reported machineSet (mem_sortByDecreasingReplicas.mp inside))
    (fun machineSet => machineSet.name ≠ newMS.name) (mem_sortByDecreasingReplicas.mpr member) (by simp)
  have sorted : heldReplicas (sortByDecreasingReplicas machineSets) = heldReplicas machineSets :=
    ((perm_insertionSort _ machineSets).map _).sum_eq
  rw [heldReplicas_append, findOldMachineSets, ← sorted]
  simpa [heldReplicas] using le

theorem desiredMachineSet_within (limited : Limited scaler deployment roof)
    (reported : ∀ machineSet ∈ oldMSs, Reported machineSet) (fits : heldReplicas oldMSs < 2 ^ 31) {replicas : Int32}
    (computed : newMSNewReplicas scaler deployment oldMSs 0 = .ok replicas) :
    Reported (desiredMachineSet inputs replicas) ∧
      heldReplicas (oldMSs ++ [desiredMachineSet inputs replicas]) ≤
        max (heldReplicas oldMSs) (min roof (2 ^ 31 - 1)) := by
  have zero := toInt_zero
  obtain ⟨grown, within⟩ := newMSNewReplicas_within limited reported fits zero.ge
    (zero.le.trans limited.desiredNonneg) computed
  have single : heldReplicas [desiredMachineSet inputs replicas] = max replicas.toInt (toInt 0) := by
    simp [heldReplicas, MachineSet.held, MachineSet.spec, MachineSet.status, desiredMachineSet]
  refine ⟨⟨⟨rfl, grown, zero.ge⟩, zero.ge⟩, ?_⟩
  rw [heldReplicas_append, single]
  rcases within with none | within
  · rw [none]
    omega
  · omega

theorem rolloutRolling_below (limited : Limited scaler deployment roof)
    (fits : heldReplicas machineSets < 2 ^ 31) (movedFrom : ∀ machineSet ∈ machineSets, MovedFrom moved machineSet)
    (newUnmoved : moved inputs.newName = 0) :
    Below moved (max (heldReplicas machineSets) (min roof (2 ^ 31 - 1)))
      (rolloutRolling calls scaler inputs deployment machineSets).1 := by
  have oldMoved : ∀ matchingMS, ∀ machineSet ∈ findOldMachineSets matchingMS machineSets, MovedFrom moved machineSet := by
    intro _ machineSet listed
    apply movedFrom
    unfold findOldMachineSets at listed
    split at listed
    · exact mem_sortByDecreasingReplicas.mp listed
    · exact mem_sortByDecreasingReplicas.mp (mem_of_mem_filter listed)
  unfold rolloutRolling
  dsimp only
  split
  · rename_i newMS found
    have member := findNewMachineSet_mem found
    rw [found]
    have heldLe := heldReplicas_findOldMachineSets_some
      (fun machineSet listed => (movedFrom machineSet listed).toReported) member
    have listMoved := forall_mem_append.mpr ⟨oldMoved (some newMS),
      forall_mem_singleton.mpr (movedFrom newMS member)⟩
    split
    · exact below_of_moved listMoved (heldLe.trans (le_max_left _ _))
    · exact (rolloutNewMachineSet_below limited (heldLe.trans_lt fits) listMoved).mono (max_le_max_right _ heldLe)
  · rename_i found
    rw [found]
    have heldEq : heldReplicas (findOldMachineSets none machineSets) = heldReplicas machineSets :=
      ((perm_insertionSort _ machineSets).map _).sum_eq
    have oldResult := below_of_moved (oldMoved none) (heldEq.le.trans (le_max_left _ (min roof (2 ^ 31 - 1))))
    split_ifs
    · exact oldResult
    · split
      · exact oldResult
      · rename_i replicas computed
        obtain ⟨newReported, held⟩ := @desiredMachineSet_within _ deployment inputs _ roof limited
          (fun machineSet listed => (oldMoved none machineSet listed).toReported) (heldEq.trans_lt fits) _ computed
        rw [heldEq] at held
        have newMovedEq : (moved (desiredMachineSet inputs replicas).name).toInt = 0 := by
          rw [← toInt_zero, ← newUnmoved]
          rfl
        have newMoved : MovedFrom moved (desiredMachineSet inputs replicas) :=
          ⟨newReported, newMovedEq.ge, newMovedEq.trans_le newReported.held_nonneg⟩
        have listMoved := forall_mem_append.mpr ⟨oldMoved none, forall_mem_singleton.mpr newMoved⟩
        split
        · exact oldResult
        · exact below_of_moved listMoved held
        · exact (rolloutNewMachineSet_below limited (by omega) listMoved).mono (max_le held (le_max_right _ _))

/-! ## Runs -/

/-- A status that has moved towards `spec.replicas`, and not past it. -/
def movesToward (spec before after : Int) : Prop := min spec before ≤ after ∧ after ≤ max spec before

instance (spec before after : Int) : Decidable (movesToward spec before after) :=
  inferInstanceAs (Decidable (_ ∧ _))

inductive Action
  /-- A rollout of the deployment as it is now; `moved` are the statuses reached while it ran. -/
  | reconcile (current : Deployment) (inputs : Inputs) (calls : Calls) (moved : String → Int32)
  /-- A MachineSet controller reports its counts. -/
  | report (name : String) (statusReplicas availableReplicas : Int32)
  /-- A deleted MachineSet is gone. -/
  | remove (name : String)

/-- A deployment that differs at most in fields that may be edited during a run. -/
def SameScale (deployment current : Deployment) : Prop :=
  current.strategyType = deployment.strategyType ∧ current.replicas = deployment.replicas ∧
    current.maxSurge = deployment.maxSurge

instance (deployment current : Deployment) : Decidable (SameScale deployment current) :=
  inferInstanceAs (Decidable (_ ∧ _ ∧ _))

/-- One step of the system.  A rollout decides on the statuses it has read; a
MachineSet that it creates gets a name that is not in use. -/
def step (scaler : Scaler) (deployment : Deployment)
    (machineSets : List MachineSet) : Action → Option (List MachineSet)
  | .reconcile current inputs calls moved =>
    if SameScale deployment current ∧ moved inputs.newName = 0 ∧ ∀ machineSet ∈ machineSets,
        machineSet.name ≠ inputs.newName ∧
          movesToward machineSet.spec machineSet.status (moved machineSet.name).toInt then
      some ((rolloutRolling calls scaler inputs current machineSets).1.map
        fun machineSet => { machineSet with statusReplicas := moved machineSet.name })
    else none
  | .report name statusReplicas availableReplicas =>
    if 0 ≤ availableReplicas.toInt ∧ ∀ machineSet ∈ machineSets, machineSet.name = name →
        movesToward machineSet.spec machineSet.status statusReplicas.toInt then
      some (machineSets.map fun machineSet =>
        if machineSet.name = name then
          { machineSet with statusReplicas := statusReplicas, availableReplicas := availableReplicas }
        else machineSet)
    else none
  | .remove name => some (machineSets.filter fun machineSet => !(machineSet.name = name && machineSet.deleting))

/-- What every step keeps. -/
structure WithinSurge (bound : Int) (machineSets : List MachineSet) : Prop where
  reported : ∀ machineSet ∈ machineSets, Reported machineSet
  held_le : heldReplicas machineSets ≤ bound
  fits : heldReplicas machineSets < 2 ^ 31

section

variable (within : WithinSurge bound machineSets)
include within

theorem WithinSurge.map {change : MachineSet → MachineSet}
    (reported : ∀ machineSet ∈ machineSets, Reported (change machineSet))
    (le : ∀ machineSet ∈ machineSets, (change machineSet).held ≤ machineSet.held) :
    WithinSurge bound (machineSets.map change) := by
  have held : heldReplicas (machineSets.map change) ≤ heldReplicas machineSets := by
    rw [heldReplicas, map_map]
    exact sum_le_sum le
  exact ⟨forall_mem_map.mpr reported, held.trans within.held_le, held.trans_lt within.fits⟩

theorem WithinSurge.filter (keep : MachineSet → Bool) : WithinSurge bound (machineSets.filter keep) := by
  have split := heldReplicas_filter_add keep machineSets
  have restNonneg : 0 ≤ heldReplicas (machineSets.filter fun machineSet => !keep machineSet) :=
    heldReplicas_nonneg fun machineSet filtered => within.reported machineSet (mem_of_mem_filter filtered)
  have held := within.held_le
  have fits := within.fits
  exact ⟨fun machineSet filtered => within.reported machineSet (mem_of_mem_filter filtered), by omega, by omega⟩

theorem WithinSurge.report {name : String} {statusReplicas availableReplicas : Int32}
    (availableNonneg : 0 ≤ availableReplicas.toInt) (moves : ∀ machineSet ∈ machineSets, machineSet.name = name →
      movesToward machineSet.spec machineSet.status statusReplicas.toInt) :
    WithinSurge bound (machineSets.map fun machineSet =>
      if machineSet.name = name then
        { machineSet with statusReplicas := statusReplicas, availableReplicas := availableReplicas }
      else machineSet) := by
  refine within.map ?_ ?_ <;> intro machineSet member <;> have reported := within.reported machineSet member <;>
    split_ifs with named
  · rcases moves machineSet member named with ⟨above, below⟩
    have specNonneg := reported.spec_nonneg
    have statusNonneg := reported.status_nonneg
    refine ⟨⟨reported.present, specNonneg, availableNonneg⟩, ?_⟩
    change 0 ≤ statusReplicas.toInt
    omega
  · exact reported
  · rcases moves machineSet member named with ⟨_, below⟩
    exact max_le (le_max_left _ _) below
  · exact le_refl _

end

theorem WithinSurge.reconcile (limited : Limited scaler deployment roof) (roofLe : roof ≤ bound)
    (within : WithinSurge bound machineSets) (newUnmoved : moved inputs.newName = 0)
    (moves : ∀ machineSet ∈ machineSets, movesToward machineSet.spec machineSet.status (moved machineSet.name).toInt) :
    WithinSurge bound ((rolloutRolling calls scaler inputs deployment machineSets).1.map
      fun machineSet => { machineSet with statusReplicas := moved machineSet.name }) := by
  have movedFrom : ∀ machineSet ∈ machineSets, MovedFrom moved machineSet := by
    intro machineSet member
    have reported := within.reported machineSet member
    have specNonneg := reported.spec_nonneg
    have statusNonneg := reported.status_nonneg
    rcases moves machineSet member with ⟨_, below⟩
    exact ⟨reported, by omega, below⟩
  obtain ⟨settled, _⟩ := @rolloutRolling_below _ deployment calls inputs machineSets roof moved limited
    within.fits movedFrom newUnmoved
  have heldLe := within.held_le
  have fits := within.fits
  have heldEq : heldReplicas ((rolloutRolling calls scaler inputs deployment machineSets).1.map
      fun machineSet => { machineSet with statusReplicas := moved machineSet.name }) =
      ((rolloutRolling calls scaler inputs deployment machineSets).1.map (load moved)).sum := by
    rw [heldReplicas, map_map]
    rfl
  refine ⟨forall_mem_map.mpr fun machineSet member => ?_, by omega, by omega⟩
  rcases settled machineSet member with ⟨⟨present, specNonneg, availableNonneg⟩, movedNonneg⟩
  exact ⟨⟨present, specNonneg, availableNonneg⟩, movedNonneg⟩

theorem roof_surgeLimit (rolling : deployment.strategyType = .rollingUpdate)
    (resolves : ∃ unavailable, scaler deployment.maxUnavailable (deployment.replicas.getD 0).toInt false =
      .ok unavailable) : Roof scaler deployment (surgeLimit scaler deployment) := by
  intro surge resolved
  rcases resolves with ⟨unavailable, unavailableResolved⟩
  have surgeEq : maxSurge scaler deployment = ofInt surge := by
    unfold maxSurge resolveFenceposts
    rw [resolved, unavailableResolved]
    simp only [isRollingUpdate, rolling, decide_true, Bool.not_true, Bool.false_eq_true, if_false]
    split_ifs <;> rfl
  rw [surgeLimit, surgeEq]

theorem Limited.of_sameScale {current : Deployment} (same : SameScale deployment current)
    (limited : Limited scaler deployment roof) : Limited scaler current roof := by
  rcases same with ⟨strategyEq, replicasEq, surgeEq⟩
  refine ⟨strategyEq.trans limited.rolling, replicasEq ▸ limited.desiredNonneg, ?_⟩
  rw [Roof, replicasEq, surgeEq]
  exact limited.isRoof

theorem WithinSurge.step (limited : Limited scaler deployment roof) (roofLe : roof ≤ bound)
    (within : WithinSurge bound machineSets) {action : Action} {next : List MachineSet}
    (taken : MachineDeployment.step scaler deployment machineSets action = some next) :
    WithinSurge bound next := by
  cases action with
  | reconcile =>
    simp only [MachineDeployment.step, Option.ite_none_right_eq_some, Option.some.injEq] at taken
    rcases taken with ⟨⟨same, newUnmoved, moves⟩, rfl⟩
    exact within.reconcile (limited.of_sameScale same) roofLe newUnmoved
      fun machineSet member => (moves machineSet member).2
  | report =>
    simp only [MachineDeployment.step, Option.ite_none_right_eq_some, Option.some.injEq] at taken
    rcases taken with ⟨⟨availableNonneg, moves⟩, rfl⟩
    exact within.report availableNonneg moves
  | remove =>
    cases taken
    exact within.filter _

/-- In every run from MachineSets whose counts fit into 32 bits the replicas
held never exceed what they were, or the surge limit if that is more. -/
theorem run_withinSurge (scaler : Scaler) (deployment : Deployment)
    (rolling : deployment.strategyType = .rollingUpdate) (desiredNonneg : 0 ≤ (deployment.replicas.getD 0).toInt)
    (resolves : ∃ unavailable, scaler deployment.maxUnavailable (deployment.replicas.getD 0).toInt false =
      .ok unavailable)
    (start : List MachineSet) (reported : ∀ machineSet ∈ start, Reported machineSet)
    (fits : heldReplicas start < 2 ^ 31) (schedule : List Action) (final : List MachineSet)
    (executed : execute (step scaler deployment) start schedule = some final) :
    heldReplicas final ≤ max (heldReplicas start) (surgeLimit scaler deployment) := by
  have initially : WithinSurge (max (heldReplicas start) (surgeLimit scaler deployment)) start :=
    ⟨reported, le_max_left _ _, fits⟩
  have finally_ := execute_invariant_of_step (fun machineSets action next within taken =>
    within.step ⟨rolling, desiredNonneg, roof_surgeLimit rolling resolves⟩ (le_max_right _ _) taken) initially executed
  exact finally_.held_le

/-! ## Two runs -/

def acceptedCalls : Calls :=
  { patch := fun _ _ => none, update := fun _ => none, create := fun _ => .created, delete := fun _ => none
    generationObserved := fun _ => true }

def oneReplica : Deployment :=
  { name := "workers", replicas := some 1, strategyType := .rollingUpdate, maxSurge := some (.int 1)
    maxUnavailable := some (.int 0) }

def rolloutInputs (newName : String) : Inputs :=
  { templateUpToDate := fun machineSet => machineSet.name = "workers-new", templateExists := true
    reconciliationTime := 10, newName := newName, createdAt := 10 }

def largeMachineSet (name : String) (replicas : Int32) : MachineSet :=
  { name := name, creationTimestamp := 0, replicas := some replicas, statusReplicas := replicas }

def quietRollout (newName : String) (machineSets : List MachineSet) : Action :=
  .reconcile oneReplica (rolloutInputs newName) acceptedCalls fun name =>
    ((machineSets.find? fun machineSet => machineSet.name = name).map MachineSet.statusReplicas).getD 0

def createdMachineSet : MachineSet := desiredMachineSet (rolloutInputs "workers-new") 1

/-- Three MachineSets whose replicas add up to `2 ^ 32`: they are counted as none, and one more is created. -/
theorem overflow_breaks_surge :
    let start := [largeMachineSet "workers-a" 2147483647, largeMachineSet "workers-b" 2147483647,
      largeMachineSet "workers-c" 2]
    ¬ ∀ schedule final, execute (step getScaledValue oneReplica) start schedule = some final →
      heldReplicas final ≤ max (heldReplicas start) (surgeLimit getScaledValue oneReplica) := by
  intro start bounded
  have broken := bounded [quietRollout "workers-new" start] (start ++ [createdMachineSet]) (by decide +kernel)
  revert broken
  decide +kernel

/-- The rollout of a single replica surges to two and gives one back. -/
theorem singleReplica_withinSurge :
    let start := [{ largeMachineSet "workers-a" 1 with availableReplicas := 1 }]
    let created := { createdMachineSet with statusReplicas := 1, availableReplicas := 1 }
    let schedule := [quietRollout "workers-new" start, .report "workers-new" 1 1,
      quietRollout "workers-next" (start ++ [created])]
    ∃ final, execute (step getScaledValue oneReplica) start schedule = some final ∧
      heldReplicas final ≤ max (heldReplicas start) (surgeLimit getScaledValue oneReplica) := by
  intro start created schedule
  have executed : execute (step getScaledValue oneReplica) start schedule =
      some [{ largeMachineSet "workers-a" 0 with statusReplicas := 1, availableReplicas := 1 }, created] := by
    decide +kernel
  refine ⟨_, executed, run_withinSurge _ oneReplica rfl (by decide) ⟨0, rfl⟩ start ?_ (by decide) schedule _ executed⟩
  exact forall_mem_singleton.mpr ⟨by decide, by decide⟩

end ClusterApi.MachineDeployment

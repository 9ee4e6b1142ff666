import ClusterApi.Foundation.Greedy
import ClusterApi.Foundation.Paired
import ClusterApi.MachineDeployment.Util

namespace ClusterApi.MachineDeployment

open Foundation List Int32 FixedWidth

/-!
# Rolling update of the MachineSets

The two halves of a rolling reconcile: scaling the new MachineSet up, and
scaling the old ones down.  The second half first removes replicas that are
not available, within a budget computed from spec counts, and then scales down
further, within a budget computed from available counts.

A scale operation is a patch that may fail.  Every loop returns the MachineSets
as it leaves them together with its outcome.
-/

/-! ## The code -/

/-- Set `spec.replicas`; the patch may fail. -/
def scaleMachineSet (patch : MachineSet → Int32 → Option String) (machineSet : MachineSet)
    (newScale : Int32) : Except String MachineSet :=
  match machineSet.replicas with
  | none => .error ("spec.replicas for MachineSet " ++ machineSet.key ++ " is nil, this is unexpected")
  | some _ =>
    match patch machineSet newScale with
    | some error => .error error
    | none => .ok { machineSet with replicas := some newScale }

variable (patch : MachineSet → Int32 → Option String) (scaler : Scaler)

/-- The new MachineSet after `reconcileNewMachineSet`. -/
def reconcileNewMachineSet (deployment : Deployment) (machineSets : List MachineSet)
    (newMS : MachineSet) : Except String MachineSet :=
  match deployment.replicas, newMS.replicas with
  | none, _ => .error ("spec.replicas for MachineDeployment " ++ deployment.key ++ " is nil, this is unexpected")
  | some _, none => .error ("spec.replicas for MachineSet " ++ newMS.key ++ " is nil, this is unexpected")
  | some desired, some replicas =>
    if replicas = desired then .ok newMS
    else if replicas > desired then scaleMachineSet patch newMS desired
    else
      match newMSNewReplicas scaler deployment machineSets replicas with
      | .error error => .error error
      | .ok newReplicasCount => scaleMachineSet patch newMS newReplicasCount

/-- The loop of `cleanupUnhealthyReplicas`, from a MachineSet on. -/
def cleanupLoop (maxCleanupCount : Int32) : Int32 → List MachineSet → List MachineSet × Except String Int32
  | totalScaledDown, [] => ([], .ok totalScaledDown)
  | totalScaledDown, targetMS :: rest =>
    match targetMS.replicas with
    | none => (targetMS :: rest,
        .error ("spec.replicas for MachineSet " ++ targetMS.key ++ " is nil, this is unexpected"))
    | some replicas =>
      if totalScaledDown ≥ maxCleanupCount then (targetMS :: rest, .ok totalScaledDown)
      else if replicas = 0 ∨ replicas = targetMS.availableReplicas then
        let (rest, outcome) := cleanupLoop maxCleanupCount totalScaledDown rest
        (targetMS :: rest, outcome)
      else
        let scaledDownCount := min (maxCleanupCount - totalScaledDown) (replicas - targetMS.availableReplicas)
        let newReplicasCount := replicas - scaledDownCount
        if newReplicasCount > replicas then
          (targetMS :: rest, .error ("when cleaning up unhealthy replicas, got invalid request to scale down " ++
            targetMS.key ++ ": " ++ toString replicas ++ " -> " ++ toString newReplicasCount))
        else
          match scaleMachineSet patch targetMS newReplicasCount with
          | .error error => (targetMS :: rest, .error error)
          | .ok scaled =>
            let (rest, outcome) := cleanupLoop maxCleanupCount (totalScaledDown + scaledDownCount) rest
            (scaled :: rest, outcome)

def cleanupUnhealthyReplicas (oldMSs : List MachineSet) (maxCleanupCount : Int32) :
    List MachineSet × Except String Int32 :=
  cleanupLoop patch maxCleanupCount 0 (sortByCreationTimestamp oldMSs)

/-- The loop of `scaleDownOldMachineSetsForRollingUpdate`, from a MachineSet on. -/
def scaleDownLoop (totalScaleDownCount : Int32) : Int32 → List MachineSet → List MachineSet × Except String Int32
  | totalScaledDown, [] => ([], .ok totalScaledDown)
  | totalScaledDown, targetMS :: rest =>
    match targetMS.replicas with
    | none => (targetMS :: rest,
        .error ("spec.replicas for MachineSet " ++ targetMS.key ++ " is nil, this is unexpected"))
    | some replicas =>
      if totalScaledDown ≥ totalScaleDownCount then (targetMS :: rest, .ok totalScaledDown)
      else if replicas = 0 then
        let (rest, outcome) := scaleDownLoop totalScaleDownCount totalScaledDown rest
        (targetMS :: rest, outcome)
      else
        let scaleDownCount := min replicas (totalScaleDownCount - totalScaledDown)
        let newReplicasCount := replicas - scaleDownCount
        if newReplicasCount > replicas then
          (targetMS :: rest, .error ("when scaling down old MachineSet, got invalid request to scale down " ++
            targetMS.key ++ ": " ++ toString replicas ++ " -> " ++ toString newReplicasCount))
        else
          match scaleMachineSet patch targetMS newReplicasCount with
          | .error error => (targetMS :: rest, .error error)
          | .ok scaled =>
            let (rest, outcome) := scaleDownLoop totalScaleDownCount (totalScaledDown + scaleDownCount) rest
            (scaled :: rest, outcome)

/-- The replicas that have to stay available. -/
def minAvailable (deployment : Deployment) : Int32 :=
  deployment.replicas.getD 0 - maxUnavailable scaler deployment

def scaleDownOldMachineSetsForRollingUpdate (deployment : Deployment) (oldMSs : List MachineSet)
    (newMS : MachineSet) : List MachineSet × Except String Int32 :=
  let availableMachineCount := getAvailableReplicaCountForMachineSets (oldMSs ++ [newMS])
  if availableMachineCount ≤ minAvailable scaler deployment then (oldMSs, .ok 0)
  else scaleDownLoop patch (availableMachineCount - minAvailable scaler deployment) 0
    (sortByCreationTimestamp oldMSs)

/-- How many replicas of old MachineSets may go, judged by their number. -/
def maxScaledDown (deployment : Deployment) (oldMSs : List MachineSet) (newMS : MachineSet) : Int32 :=
  getReplicaCountForMachineSets (oldMSs ++ [newMS]) - minAvailable scaler deployment -
    (newMS.replicas.getD 0 - newMS.availableReplicas)

/-- The old MachineSets after `reconcileOldMachineSets`, and its outcome. -/
def reconcileOldMachineSets (deployment : Deployment) (oldMSs : List MachineSet)
    (newMS : MachineSet) : List MachineSet × Except String Unit :=
  match deployment.replicas, newMS.replicas with
  | none, _ => (oldMSs,
      .error ("spec.replicas for MachineDeployment " ++ deployment.key ++ " is nil, this is unexpected"))
  | some _, none => (oldMSs, .error ("spec.replicas for MachineSet " ++ newMS.key ++ " is nil, this is unexpected"))
  | some _, some _ =>
    if getReplicaCountForMachineSets oldMSs = 0 then (oldMSs, .ok ())
    else if maxScaledDown scaler deployment oldMSs newMS ≤ 0 then (oldMSs, .ok ())
    else
      match cleanupUnhealthyReplicas patch oldMSs (maxScaledDown scaler deployment oldMSs newMS) with
      | (cleaned, .error error) => (cleaned, .error error)
      | (cleaned, .ok _) =>
        match scaleDownOldMachineSetsForRollingUpdate patch scaler deployment cleaned newMS with
        | (scaled, .error error) => (scaled, .error error)
        | (scaled, .ok _) => (scaled, .ok ())

/-! ## What the loops do to the counts -/

/-- A MachineSet with counts that make sense. -/
structure Counted (machineSet : MachineSet) : Prop where
  present : machineSet.replicas.isSome = true
  spec_nonneg : 0 ≤ machineSet.spec
  available_nonneg : 0 ≤ machineSet.available

instance (machineSet : MachineSet) : Decidable (Counted machineSet) :=
  decidable_of_iff (machineSet.replicas.isSome = true ∧ 0 ≤ machineSet.spec ∧ 0 ≤ machineSet.available)
    ⟨fun ⟨present, spec, available⟩ => ⟨present, spec, available⟩,
      fun counted => ⟨counted.present, counted.spec_nonneg, counted.available_nonneg⟩⟩

abbrev AllCounted (machineSets : List MachineSet) : Prop := ∀ machineSet ∈ machineSets, Counted machineSet

/-- Only `spec.replicas` differs, and it is not greater. -/
structure Lowered (before after : MachineSet) : Prop where
  same : after = { before with replicas := after.replicas }
  present : after.replicas.isSome = true
  nonneg : 0 ≤ after.spec
  le : after.spec ≤ before.spec

theorem Counted.lowered_refl (counted : Counted machineSet) : Lowered machineSet machineSet :=
  ⟨rfl, counted.present, counted.spec_nonneg, le_refl _⟩

theorem Lowered.counted {before after : MachineSet} (lowered : Lowered before after)
    (counted : Counted before) : Counted after := by
  refine ⟨lowered.present, lowered.nonneg, ?_⟩
  rw [lowered.same]
  exact counted.available_nonneg

theorem Lowered.trans {first second third : MachineSet} (left : Lowered first second)
    (right : Lowered second third) : Lowered first third := by
  refine ⟨?_, right.present, right.nonneg, right.le.trans left.le⟩
  rw [right.same, left.same]

theorem forall₂_lowered_refl (counted : AllCounted machineSets) : Forall₂ Lowered machineSets machineSets :=
  forall₂_same.mpr fun machineSet member => (counted machineSet member).lowered_refl

theorem counted_of_lowered {after : List MachineSet} (lowered : Forall₂ Lowered machineSets after)
    (counted : AllCounted machineSets) : AllCounted after := by
  intro _ member
  rcases exists_of_mem_paired lowered member with ⟨before, inside, isLowered⟩
  exact isLowered.counted (counted before inside)

variable {patch scaler} {machineSet scaled : MachineSet} {machineSets : List MachineSet} {newScale : Int32}

section

variable (ok : scaleMachineSet patch machineSet newScale = .ok scaled)
include ok

theorem scaleMachineSet_ok : scaled = { machineSet with replicas := some newScale } := by
  unfold scaleMachineSet at ok
  split at ok
  · cases ok
  · split at ok
    · cases ok
    · cases ok
      rfl

theorem scaleMachineSet_lowered (nonneg : 0 ≤ newScale.toInt)
    (le : newScale.toInt ≤ machineSet.spec) : Lowered machineSet scaled := by
  rw [scaleMachineSet_ok ok]
  exact ⟨rfl, rfl, nonneg, le⟩

end

theorem Counted.replicas_eq (counted : Counted machineSet) :
    machineSet.replicas = some (machineSet.replicas.getD 0) := by
  rcases Option.isSome_iff_exists.mp counted.present with ⟨_, found⟩
  rw [found]
  rfl

/-- Everything one round of a scale-down loop can do: fail, stop, leave the
MachineSet alone, or take `taken` replicas from it and go on. -/
inductive Round (loop : Int32 → List MachineSet → List MachineSet × Except String Int32) (total maximum : Int32)
    (fails idle : MachineSet → Prop) (wanted : Int → MachineSet → Int) (targetMS : MachineSet)
    (rest : List MachineSet) : List MachineSet × Except String Int32 → Prop
  | failed (error : String) (because : fails targetMS) :
      Round loop total maximum fails idle wanted targetMS rest (targetMS :: rest, .error error)
  | spent (spent : maximum.toInt ≤ total.toInt) :
      Round loop total maximum fails idle wanted targetMS rest (targetMS :: rest, .ok total)
  | skipped (left : total.toInt < maximum.toInt) (isIdle : idle targetMS) :
      Round loop total maximum fails idle wanted targetMS rest
        (targetMS :: (loop total rest).1, (loop total rest).2)
  | scaled (left : total.toInt < maximum.toInt) (next : Int32) (lowered : MachineSet) (taken : Int)
      (takenEq : taken = wanted (maximum.toInt - total.toInt) targetMS) (nonneg : 0 ≤ taken)
      (nextEq : next.toInt = total.toInt + taken)
      (le : next.toInt ≤ maximum.toInt)
      (isLowered : Lowered targetMS lowered) (specEq : lowered.spec = targetMS.spec - taken) :
      Round loop total maximum fails idle wanted targetMS rest (lowered :: (loop next rest).1, (loop next rest).2)

/-- A loop over MachineSets that keeps to a budget. -/
structure Rounds (loop : Int32 → List MachineSet → List MachineSet × Except String Int32) (maximum : Int32)
    (fails : Int32 → MachineSet → Prop) (idle : MachineSet → Prop) (wanted : Int → MachineSet → Int) : Prop where
  nil : ∀ total, loop total [] = ([], .ok total)
  round : ∀ total targetMS rest, Counted targetMS → 0 ≤ total.toInt →
    Round loop total maximum (fails total) idle wanted targetMS rest (loop total (targetMS :: rest))

/-- Some patch of the MachineSet is refused. -/
def PatchFails (patch : MachineSet → Int32 → Option String) (machineSet : MachineSet) : Prop :=
  ∃ newScale error, patch machineSet newScale = some error

theorem patchFails_of_scaleMachineSet (counted : Counted machineSet) {error : String}
    (failed : scaleMachineSet patch machineSet newScale = .error error) : PatchFails patch machineSet := by
  unfold scaleMachineSet at failed
  rw [counted.replicas_eq] at failed
  dsimp only at failed
  split at failed
  · rename_i refused found
    exact ⟨newScale, refused, found⟩
  · cases failed

theorem cleanupLoop_rounds (maximum : Int32) :
    Rounds (cleanupLoop patch maximum) maximum
      (fun total machineSet => PatchFails patch machineSet ∨
        total.toInt < maximum.toInt ∧ 0 < machineSet.spec ∧ machineSet.spec < machineSet.available)
      (fun machineSet => machineSet.spec = 0 ∨ machineSet.spec = machineSet.available)
      (fun left machineSet => min left (machineSet.spec - machineSet.available)) := by
  refine ⟨fun _ => rfl, ?_⟩
  intro total targetMS _ counted totalNonneg
  have specNonneg := counted.spec_nonneg
  have availableNonneg := counted.available_nonneg
  unfold cleanupLoop
  rw [counted.replicas_eq]
  dsimp only
  rw [MachineSet.spec] at specNonneg
  rw [MachineSet.available] at availableNonneg
  have maximumLt := maximum.toInt_lt
  have replicasLt := (targetMS.replicas.getD 0).toInt_lt
  have availableLt := targetMS.availableReplicas.toInt_lt
  split_ifs with spent idle invalid
  · exact .spent (le_iff_toInt_le.mp spent)
  · refine .skipped (by simpa [le_iff_toInt_le] using spent) ?_
    rcases idle with zero | same
    · exact .inl (by rw [MachineSet.spec, zero]; rfl)
    · exact .inr (by rw [MachineSet.spec, same]; rfl)
  all_goals
    have left : total.toInt < maximum.toInt := by simpa [le_iff_toInt_le] using spent
    have takenEq : (min (maximum - total) (targetMS.replicas.getD 0 - targetMS.availableReplicas)).toInt =
        min (maximum.toInt - total.toInt)
          ((targetMS.replicas.getD 0).toInt - targetMS.availableReplicas.toInt) := by
      rw [toInt_min, toInt_sub_of_nonneg (by omega) totalNonneg,
        toInt_sub_of_nonneg specNonneg availableNonneg]
    generalize min (maximum - total) (targetMS.replicas.getD 0 - targetMS.availableReplicas) = taken at takenEq invalid
    have newEq : (targetMS.replicas.getD 0 - taken).toInt = (targetMS.replicas.getD 0).toInt - taken.toInt :=
      toInt_sub_of_range (by omega) (by omega)
    rw [gt_iff_lt, lt_iff_toInt_lt, newEq] at invalid
  · -- A clean-up that would scale up: more replicas are available than asked for.
    have positive : (targetMS.replicas.getD 0).toInt ≠ 0 := fun zero =>
      idle (.inl (toInt_inj.mp (zero.trans toInt_zero.symm)))
    exact .failed _ (.inr ⟨left, by rw [MachineSet.spec]; omega, by rw [MachineSet.spec, MachineSet.available]; omega⟩)
  · split
    · rename_i failed
      exact .failed _ (.inl (patchFails_of_scaleMachineSet counted failed))
    · rename_i scaled ok
      have nextEq : (total + taken).toInt = total.toInt + taken.toInt :=
        toInt_add_of_range (by omega) (by omega)
      refine .scaled left (total + taken) scaled taken.toInt takenEq (by omega) nextEq (by omega)
        (scaleMachineSet_lowered ok (by omega) (by rw [MachineSet.spec]; omega)) ?_
      rw [scaleMachineSet_ok ok]
      exact newEq

theorem scaleDownLoop_rounds (maximum : Int32) :
    Rounds (scaleDownLoop patch maximum) maximum (fun _ => PatchFails patch) (fun machineSet => machineSet.spec = 0)
      (fun left machineSet => min machineSet.spec left) := by
  refine ⟨fun _ => rfl, ?_⟩
  intro total targetMS _ counted totalNonneg
  have specNonneg := counted.spec_nonneg
  unfold scaleDownLoop
  rw [counted.replicas_eq]
  dsimp only
  rw [MachineSet.spec] at specNonneg
  have maximumLt := maximum.toInt_lt
  split_ifs with spent idle invalid
  · exact .spent (le_iff_toInt_le.mp spent)
  · exact .skipped (by simpa [le_iff_toInt_le] using spent) (by rw [MachineSet.spec, idle]; rfl)
  all_goals
    have left : total.toInt < maximum.toInt := by simpa [le_iff_toInt_le] using spent
    have takenEq : (min (targetMS.replicas.getD 0) (maximum - total)).toInt =
        min (targetMS.replicas.getD 0).toInt (maximum.toInt - total.toInt) := by
      rw [toInt_min, toInt_sub_of_nonneg (by omega) totalNonneg]
    generalize min (targetMS.replicas.getD 0) (maximum - total) = taken at takenEq invalid
    have newEq : (targetMS.replicas.getD 0 - taken).toInt = (targetMS.replicas.getD 0).toInt - taken.toInt :=
      toInt_sub_of_nonneg specNonneg (by omega)
  · rw [gt_iff_lt, lt_iff_toInt_lt, newEq] at invalid
    omega
  · split
    · rename_i failed
      exact .failed _ (patchFails_of_scaleMachineSet counted failed)
    · rename_i scaled ok
      have nextEq : (total + taken).toInt = total.toInt + taken.toInt :=
        toInt_add_of_range (by omega) (by omega)
      refine .scaled left (total + taken) scaled taken.toInt takenEq (by omega) nextEq (by omega)
        (scaleMachineSet_lowered ok (by omega) (by rw [MachineSet.spec]; omega)) ?_
      rw [scaleMachineSet_ok ok]
      exact newEq

/-- The pair of counts that decides what survives a scale-down. -/
def MachineSet.counts (machineSet : MachineSet) : Int × Int := (machineSet.spec, machineSet.available)

/-- Replicas beyond the available ones. -/
def unhealthy (counts : Int × Int) : Int := max (counts.1 - counts.2) 0

def lower (counts : Int × Int) (taken : Int) : Int × Int := (counts.1 - taken, counts.2)

theorem lower_zero (counts : Int × Int) : lower counts 0 = counts := by
  simp [lower]

section Loops

variable {loop : Int32 → List MachineSet → List MachineSet × Except String Int32} {maximum : Int32}
  {fails : Int32 → MachineSet → Prop} {idle : MachineSet → Prop} {wanted : Int → MachineSet → Int}
  {machineSets : List MachineSet} {total : Int32}

theorem Rounds.run (rounds : Rounds loop maximum fails idle wanted)
    (holds : Int32 → List MachineSet → List MachineSet × Except String Int32 → Prop)
    (nil : ∀ total, holds total [] ([], .ok total))
    (cons : ∀ total targetMS rest result, Counted targetMS → (AllCounted rest) →
      0 ≤ total.toInt → (∀ next : Int32, 0 ≤ next.toInt → holds next rest (loop next rest)) →
      Round loop total maximum (fails total) idle wanted targetMS rest result → holds total (targetMS :: rest) result)
    (counted : AllCounted machineSets) (totalNonneg : 0 ≤ total.toInt) :
    holds total machineSets (loop total machineSets) := by
  induction machineSets generalizing total with
  | nil =>
    rw [rounds.nil]
    exact nil total
  | cons targetMS rest ih =>
    rcases forall_mem_cons.mp counted with ⟨targetCounted, restCounted⟩
    exact cons total targetMS rest _ targetCounted restCounted totalNonneg (fun _ => ih restCounted)
      (rounds.round total targetMS rest targetCounted totalNonneg)

variable (rounds : Rounds loop maximum fails idle wanted) (counted : AllCounted machineSets)
  (totalNonneg : 0 ≤ total.toInt)

include rounds counted totalNonneg

theorem Rounds.lowered : Forall₂ Lowered machineSets (loop total machineSets).1 := by
  refine rounds.run (fun _ machineSets result => Forall₂ Lowered machineSets result.1)
    (fun _ => .nil) ?_ counted totalNonneg
  intro total _ _ _ targetCounted restCounted totalNonneg later round
  cases round with
  | failed | spent => exact .cons targetCounted.lowered_refl (forall₂_lowered_refl restCounted)
  | skipped => exact .cons targetCounted.lowered_refl (later total totalNonneg)
  | scaled _ next _ _ _ _ _ _ isLowered =>
    exact .cons isLowered (later next (by omega))

theorem Rounds.counts (capacity : Int × Int → Int)
    (nonneg : ∀ machineSet, Counted machineSet → 0 ≤ capacity machineSet.counts)
    (idleCapacity : ∀ machineSet, Counted machineSet → idle machineSet → capacity machineSet.counts = 0)
    (wantedCapacity : ∀ machineSet left, Counted machineSet → 0 < left → 0 ≤ wanted left machineSet →
      wanted left machineSet = min (capacity machineSet.counts) left)
    {final : Int32} (totalLe : total.toInt ≤ maximum.toInt) {after : List MachineSet}
    (succeeded : loop total machineSets = (after, .ok final)) :
    after.map MachineSet.counts =
      spend capacity lower (maximum.toInt - total.toInt) (machineSets.map MachineSet.counts) := by
  have counts := rounds.run (fun total machineSets result => total.toInt ≤ maximum.toInt → result.2 = .ok final →
    result.1.map MachineSet.counts =
      spend capacity lower (maximum.toInt - total.toInt) (machineSets.map MachineSet.counts)) (fun _ _ _ => rfl) ?_
    counted totalNonneg totalLe
  · rw [succeeded] at counts
    exact counts rfl
  intro total targetMS _ _ targetCounted restCounted totalNonneg later round totalLe isOk
  cases round with
  | failed => cases isOk
  | spent spent =>
    rw [le_antisymm totalLe spent, sub_self, spend_zero lower_zero]
    intro _ member
    rcases mem_map.mp member with ⟨machineSet, inside, rfl⟩
    exact nonneg machineSet (forall_mem_cons.mpr ⟨targetCounted, restCounted⟩ machineSet inside)
  | skipped _ isIdle =>
    have none : min (capacity targetMS.counts) (maximum.toInt - total.toInt) = 0 := by
      rw [idleCapacity targetMS targetCounted isIdle]
      omega
    rw [map_cons, map_cons, spend_cons, none, sub_zero, lower_zero, later total totalNonneg totalLe isOk]
  | scaled _ next lowered taken takenEq takenNonneg nextEq le isLowered specEq =>
    have wantedEq := wantedCapacity targetMS _ targetCounted (by omega) (takenEq ▸ takenNonneg)
    rw [← takenEq] at wantedEq
    have headEq : lowered.counts = lower targetMS.counts taken := by
      rw [MachineSet.counts, specEq, isLowered.same]
      rfl
    rw [map_cons, map_cons, spend_cons, ← wantedEq, headEq, later next (by omega) le isOk, nextEq, sub_sub]

theorem Rounds.succeeds (works : ∀ total machineSet, ¬ fails total machineSet) :
    ∃ final, (loop total machineSets).2 = .ok final := by
  refine rounds.run (fun _ _ result => ∃ final, result.2 = .ok final) (fun total => ⟨total, rfl⟩) ?_ counted totalNonneg
  intro total targetMS _ _ _ _ totalNonneg later round
  cases round with
  | failed _ because => exact absurd because (works total targetMS)
  | spent => exact ⟨total, rfl⟩
  | skipped => exact later total totalNonneg
  | scaled _ next => exact later next (by omega)

theorem Rounds.taken_le :
    (machineSets.map MachineSet.spec).sum - ((loop total machineSets).1.map MachineSet.spec).sum ≤
      max (maximum.toInt - total.toInt) 0 := by
  refine rounds.run (fun total machineSets result => (machineSets.map MachineSet.spec).sum -
    (result.1.map MachineSet.spec).sum ≤ max (maximum.toInt - total.toInt) 0) ?_ ?_ counted totalNonneg
  · exact fun _ => (sub_self _).le.trans (le_max_right _ _)
  intro total _ _ _ _ _ totalNonneg later round
  cases round with
  | failed | spent => exact (sub_self _).le.trans (le_max_right _ _)
  | skipped =>
    have restTaken := later total totalNonneg
    simp only [map_cons, sum_cons]
    omega
  | scaled _ next =>
    have restTaken := later next (by omega)
    simp only [map_cons, sum_cons]
    omega

end Loops

theorem mem_sortByCreationTimestamp {machineSets : List MachineSet} {machineSet : MachineSet} :
    machineSet ∈ sortByCreationTimestamp machineSets ↔ machineSet ∈ machineSets :=
  (perm_insertionSort createdBefore machineSets).mem_iff

variable {oldMSs machineSets after : List MachineSet} {maximum final : Int32}

theorem cleanupUnhealthyReplicas_counts (counted : AllCounted oldMSs) (nonneg : 0 ≤ maximum.toInt)
    (succeeded : cleanupUnhealthyReplicas patch oldMSs maximum = (after, .ok final)) :
    after.map MachineSet.counts =
      spend unhealthy lower maximum.toInt ((sortByCreationTimestamp oldMSs).map MachineSet.counts) := by
  have counts := (cleanupLoop_rounds maximum).counts
    (fun machineSet member => counted machineSet (mem_sortByCreationTimestamp.mp member)) toInt_zero.ge
    unhealthy (fun machineSet _ => le_max_right _ _) ?_ ?_ (toInt_zero.le.trans nonneg) succeeded
  · rwa [toInt_zero, sub_zero] at counts
  · intro machineSet isCounted _
    have availableNonneg := isCounted.available_nonneg
    simp only [unhealthy, MachineSet.counts]
    omega
  · simp only [unhealthy, MachineSet.counts]
    omega

theorem cleanupUnhealthyReplicas_lowered (counted : AllCounted oldMSs) (maximum : Int32) :
    Forall₂ Lowered (sortByCreationTimestamp oldMSs) (cleanupUnhealthyReplicas patch oldMSs maximum).1 :=
  (cleanupLoop_rounds maximum).lowered
    (fun machineSet member => counted machineSet (mem_sortByCreationTimestamp.mp member)) toInt_zero.ge

theorem scaleDownLoop_of_nonpos (counted : AllCounted machineSets) (spent : maximum.toInt ≤ 0) :
    scaleDownLoop patch maximum 0 machineSets = (machineSets, .ok 0) := by
  cases machineSets with
  | nil => rfl
  | cons targetMS =>
    unfold scaleDownLoop
    rw [(counted targetMS (by simp)).replicas_eq]
    have stop : (0 : Int32) ≥ maximum := le_iff_toInt_le.mpr (toInt_zero ▸ spent)
    simp [stop]

/-! ## Sorting once is enough -/

instance : Std.Total createdBefore where
  total first second := by
    unfold createdBefore
    rcases lt_trichotomy first.creationTimestamp second.creationTimestamp with before | same | behind
    · exact .inl (.inl before)
    · rcases le_total first.name second.name with le | le
      · exact .inl (.inr ⟨same, le⟩)
      · exact .inr (.inr ⟨same.symm, le⟩)
    · exact .inr (.inl behind)

instance : IsTrans MachineSet createdBefore where
  trans first second third left right := by
    unfold createdBefore at *
    rcases left with left | ⟨left, leftName⟩ <;> rcases right with right | ⟨right, rightName⟩
    · exact .inl (left.trans right)
    · exact .inl (right ▸ left)
    · exact .inl (left ▸ right)
    · exact .inr ⟨left.trans right, leftName.trans rightName⟩

theorem pairwise_createdBefore_lowered (lowered : Forall₂ Lowered machineSets after)
    (sorted : machineSets.Pairwise createdBefore) : after.Pairwise createdBefore := by
  induction lowered with
  | nil => exact .nil
  | cons head rest ih =>
    rw [pairwise_cons] at sorted
    refine .cons ?_ (ih sorted.2)
    intro _ member
    rcases exists_of_mem_paired rest member with ⟨original, inside, lowered⟩
    rw [head.same, lowered.same]
    exact sorted.1 original inside

theorem sortByCreationTimestamp_lowered (lowered : Forall₂ Lowered (sortByCreationTimestamp machineSets) after) :
    sortByCreationTimestamp after = after :=
  (pairwise_createdBefore_lowered lowered (pairwise_insertionSort createdBefore machineSets)).insertionSort_eq

/-! ## The two steps, whatever their outcome -/

/-- The cases in which `reconcileOldMachineSets` returns before its two steps. -/
def ReturnsEarly (scaler : Scaler) (deployment : Deployment)
    (oldMSs : List MachineSet) (newMS : MachineSet) : Prop :=
  deployment.replicas = none ∨ newMS.replicas = none ∨ getReplicaCountForMachineSets oldMSs = 0 ∨
    maxScaledDown scaler deployment oldMSs newMS ≤ 0

theorem counted_sorted (counted : AllCounted oldMSs) : AllCounted (sortByCreationTimestamp oldMSs) :=
  fun machineSet member => counted machineSet (mem_sortByCreationTimestamp.mp member)

variable {deployment : Deployment} {newMS : MachineSet}

theorem scaleDownOldMachineSets_lowered {cleaned : List MachineSet} (counted : AllCounted oldMSs)
    (lowered : Forall₂ Lowered (sortByCreationTimestamp oldMSs) cleaned) :
    Forall₂ Lowered cleaned
      (scaleDownOldMachineSetsForRollingUpdate patch scaler deployment cleaned newMS).1 := by
  have cleanedCounted := counted_of_lowered lowered (counted_sorted counted)
  unfold scaleDownOldMachineSetsForRollingUpdate
  dsimp only
  split_ifs
  · exact forall₂_lowered_refl cleanedCounted
  · rw [sortByCreationTimestamp_lowered lowered]
    exact (scaleDownLoop_rounds _).lowered cleanedCounted toInt_zero.ge

/-- Everything a reconcile of the old MachineSets can do to them. -/
inductive OldReconciled (patch : MachineSet → Int32 → Option String)
    (scaler : Scaler) (deployment : Deployment)
    (oldMSs : List MachineSet) (newMS : MachineSet) : List MachineSet → Prop
  | untouched (early : ReturnsEarly scaler deployment oldMSs newMS) :
      OldReconciled patch scaler deployment oldMSs newMS oldMSs
  | cleanupFailed (runs : ¬ ReturnsEarly scaler deployment oldMSs newMS) :
      OldReconciled patch scaler deployment oldMSs newMS
        (cleanupUnhealthyReplicas patch oldMSs (maxScaledDown scaler deployment oldMSs newMS)).1
  | scaledDown (runs : ¬ ReturnsEarly scaler deployment oldMSs newMS) (cleaned : List MachineSet) (count : Int32)
      (cleanedOk : cleanupUnhealthyReplicas patch oldMSs (maxScaledDown scaler deployment oldMSs newMS) =
        (cleaned, .ok count)) :
      OldReconciled patch scaler deployment oldMSs newMS
        (scaleDownOldMachineSetsForRollingUpdate patch scaler deployment cleaned newMS).1

theorem reconcileOldMachineSets_oldReconciled :
    OldReconciled patch scaler deployment oldMSs newMS
      (reconcileOldMachineSets patch scaler deployment oldMSs newMS).1 := by
  unfold reconcileOldMachineSets
  split
  case h_1 missing => exact .untouched (.inl missing)
  case h_2 missing => exact .untouched (.inr (.inl missing))
  case h_3 replicas newReplicas present newPresent =>
    split_ifs with empty blocked
    · exact .untouched (.inr (.inr (.inl empty)))
    · exact .untouched (.inr (.inr (.inr blocked)))
    · have runs : ¬ ReturnsEarly scaler deployment oldMSs newMS := by
        simp [ReturnsEarly, present, newPresent, empty, blocked]
      split
      case h_1 cleaned error failed =>
        have reconciled := @OldReconciled.cleanupFailed patch scaler deployment oldMSs newMS runs
        rw [failed] at reconciled
        exact reconciled
      case h_2 cleaned count cleanedOk =>
        have reconciled := @OldReconciled.scaledDown patch scaler deployment oldMSs newMS runs cleaned count
          cleanedOk
        split
        case h_1 failed =>
          rw [failed] at reconciled
          exact reconciled
        case h_2 scaledOk =>
          rw [scaledOk] at reconciled
          exact reconciled

/-- The MachineSets after a reconcile are the old ones, in some order and each
with at most as many replicas. -/
def OnlyLowered (oldMSs after : List MachineSet) : Prop :=
  ∃ order : List MachineSet, order.Perm oldMSs ∧ List.Forall₂ Lowered order after

theorem reconcileOldMachineSets_onlyLowered (counted : AllCounted oldMSs) (patch : MachineSet → Int32 → Option String) :
    OnlyLowered oldMSs (reconcileOldMachineSets patch scaler deployment oldMSs newMS).1 := by
  have sorted := perm_insertionSort createdBefore oldMSs
  have cleanedLowered := @cleanupUnhealthyReplicas_lowered patch oldMSs counted
    (maxScaledDown scaler deployment oldMSs newMS)
  have reconciled := @reconcileOldMachineSets_oldReconciled patch scaler oldMSs deployment newMS
  generalize (reconcileOldMachineSets patch scaler deployment oldMSs newMS).1 = after at reconciled ⊢
  cases reconciled with
  | untouched => exact ⟨oldMSs, .refl _, forall₂_lowered_refl counted⟩
  | cleanupFailed => exact ⟨_, sorted, cleanedLowered⟩
  | scaledDown _ _ _ cleanedOk =>
    rw [cleanedOk] at cleanedLowered
    refine ⟨_, sorted, paired_trans cleanedLowered ?_ fun _ _ _ => Lowered.trans⟩
    exact scaleDownOldMachineSets_lowered counted cleanedLowered

end ClusterApi.MachineDeployment

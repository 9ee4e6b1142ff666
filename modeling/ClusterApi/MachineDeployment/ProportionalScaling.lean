import ClusterApi.Foundation.Shares
import ClusterApi.Foundation.Sorting
import ClusterApi.MachineDeployment.RevisionHistory

namespace ClusterApi.MachineDeployment.ProportionalScaling

open Foundation List

/-!
# Proportional scaling

A MachineDeployment that is scaled in the middle of a rollout spreads the
replicas to add, or to remove, over its active MachineSets.  Each of them gets
a share in proportion to its size; what the rounding leaves goes to the largest
MachineSet.  The proportion is taken from an annotation that remembers the size
of the deployment at the last scaling.

The 32-bit counts are read as integers, and sums, products and quotients of
them are exact.
-/

structure AnnotatedMS extends MachineSet where
  annotations : Annotations

/-- A MachineDeployment with the replicas of its status. -/
structure ObservedMD extends Deployment where
  statusReplicas : Int32

/-- `strconv.ParseInt` for 32 bits. -/
def parseInt32 (text : String) : Option Int :=
  match integer? text.toList with
  | none => none
  | some value => if -2 ^ 31 ≤ value ∧ value < 2 ^ 31 then some value else none

/-- `integer.RoundToInt32`: halves are rounded away from zero. -/
def roundToInt (value : ℚ) : Int := if value < 0 then ⌈value - 1 / 2⌉ else ⌊value + 1 / 2⌋

/-! ## Active MachineSets -/

def isActive (machineSet : AnnotatedMS) : Bool :=
  match machineSet.replicas with
  | none => false
  | some replicas => 0 < replicas

def filterActiveMachineSets (machineSets : List AnnotatedMS) : List AnnotatedMS :=
  machineSets.filter isActive

/-- The reverse of the order of creation. -/
def newestFirst (machineSets : List AnnotatedMS) : List AnnotatedMS :=
  machineSets.insertionSort fun first second => createdBefore second.toMachineSet first.toMachineSet

/-- The only active MachineSet, or the newest one if none is active.  The old MachineSets are sorted, newest first. -/
def findOneActiveOrLatest (newMS : Option AnnotatedMS) (sortedOldMSs : List AnnotatedMS) :
    Option AnnotatedMS :=
  match filterActiveMachineSets (sortedOldMSs ++ newMS.toList) with
  | [] => newMS.or sortedOldMSs.head?
  | [machineSet] => some machineSet
  | _ => none

def isSaturated (deployment : ObservedMD) : Option AnnotatedMS → Bool
  | none => false
  | some machineSet =>
    match parseInt32 ((machineSet.annotations desiredReplicasKey).getD "") with
    | none => false
    | some desired =>
      let replicas := deployment.replicas.getD 0
      machineSet.spec = replicas.toInt ∧ desired = replicas.toInt ∧ machineSet.availableReplicas = replicas

/-- Larger MachineSets first, of two equally large ones the newer. -/
def sizeNewer (first second : AnnotatedMS) : Bool :=
  if first.spec = second.spec then second.creationTimestamp < first.creationTimestamp else second.spec < first.spec

/-- Larger MachineSets first, of two equally large ones the older. -/
def sizeOlder (first second : AnnotatedMS) : Bool :=
  if first.spec = second.spec then first.creationTimestamp < second.creationTimestamp else second.spec < first.spec

/-- The routines that sort MachineSets; those of one size and age may come in any order. -/
structure Sorting where
  bySizeNewer : SortRoutine AnnotatedMS sizeNewer
  bySizeOlder : SortRoutine AnnotatedMS sizeOlder

/-! ## Shares -/

section

variable (scaler : Scaler)

/-- The largest number of replicas during a rollout. -/
def deploymentReplicas (deployment : ObservedMD) : Int :=
  (deployment.replicas.getD 0).toInt + (maxSurge scaler deployment.toDeployment).toInt

/-- The size of the deployment that the MachineSet remembers, or else its current size. -/
def annotatedReplicas (deployment : ObservedMD) (machineSet : AnnotatedMS) : Int :=
  ((machineSet.annotations maxReplicasKey).bind parseInt32).getD deployment.statusReplicas.toInt

def getMachineSetFraction (deployment : ObservedMD) (machineSet : AnnotatedMS) : Int :=
  if deployment.replicas.getD 0 = 0 then -machineSet.spec
  else
    roundToInt ((machineSet.spec * deploymentReplicas scaler deployment : Int) /
      (annotatedReplicas deployment machineSet : ℚ)) - machineSet.spec

def getProportion (deployment : ObservedMD) (deploymentReplicasToAdd deploymentReplicasAdded : Int)
    (machineSet : AnnotatedMS) : Int :=
  if machineSet.spec = 0 ∨ deploymentReplicasToAdd = 0 ∨ deploymentReplicasToAdd = deploymentReplicasAdded then 0
  else
    let fraction := getMachineSetFraction scaler deployment machineSet
    let allowed := deploymentReplicasToAdd - deploymentReplicasAdded
    if 0 < deploymentReplicasToAdd then min fraction allowed else max fraction allowed

/-- The first loop of `scale`; every MachineSet is told how many replicas have been added before. -/
def proportions (deployment : ObservedMD) (deploymentReplicasToAdd : Int) :
    Int → List AnnotatedMS → List Int
  | _, [] => []
  | deploymentReplicasAdded, machineSet :: rest =>
    let proportion :=
      getProportion scaler deployment deploymentReplicasToAdd deploymentReplicasAdded machineSet
    proportion :: proportions deployment deploymentReplicasToAdd (deploymentReplicasAdded + proportion) rest

/-- The sizes after the first loop. -/
def nameToSize (machineSets : List AnnotatedMS) (shares : List Int) : List (AnnotatedMS × Int) :=
  machineSets.zipWith (fun machineSet proportion => (machineSet, machineSet.spec + proportion)) shares

/-- The second loop gives the leftovers to the first MachineSet. -/
def addLeftover (leftover : Int) : List (AnnotatedMS × Int) → List (AnnotatedMS × Int)
  | [] => []
  | (machineSet, size) :: rest => (machineSet, if size + leftover < 0 then 0 else size + leftover) :: rest

def allowedSize (deployment : ObservedMD) : Int :=
  if 0 < deployment.replicas.getD 0 then deploymentReplicas scaler deployment else 0

def replicasToAdd (deployment : ObservedMD) (machineSets : List AnnotatedMS) : Int :=
  allowedSize scaler deployment - (machineSets.map fun machineSet => machineSet.spec).sum

/-- The scaling direction decides about MachineSets of the same size. -/
def sortForScaling (sorting : Sorting) (deploymentReplicasToAdd : Int)
    (machineSets : List AnnotatedMS) : List AnnotatedMS :=
  if 0 < deploymentReplicasToAdd then sorting.bySizeNewer.run machineSets
  else if deploymentReplicasToAdd < 0 then sorting.bySizeOlder.run machineSets
  else machineSets

/-- The sizes for MachineSets that have been sorted. -/
def distribute (deployment : ObservedMD) (deploymentReplicasToAdd : Int)
    (machineSets : List AnnotatedMS) : List (AnnotatedMS × Int) :=
  if deploymentReplicasToAdd = 0 then machineSets.map fun machineSet => (machineSet, machineSet.spec)
  else
    let shares := proportions scaler deployment deploymentReplicasToAdd 0 machineSets
    addLeftover (deploymentReplicasToAdd - shares.sum) (nameToSize machineSets shares)

/-- The MachineSets in the order in which `scaleMachineSet` is called for them, with their new sizes. -/
def scale (sorting : Sorting) (deployment : ObservedMD) (newMS : Option AnnotatedMS)
    (oldMSs : List AnnotatedMS) : Except String (List (AnnotatedMS × Int)) :=
  match deployment.replicas with
  | none => .error ("spec replicas for deployment " ++ deployment.name ++ " is nil, this is unexpected")
  | some replicas =>
    let oldMSs := newestFirst oldMSs
    match findOneActiveOrLatest newMS oldMSs with
    | some activeOrLatest =>
      match activeOrLatest.replicas with
      | none => .error ("spec replicas for machine set " ++ activeOrLatest.name ++ " is nil, this is unexpected")
      | some current => if current = replicas then .ok [] else .ok [(activeOrLatest, replicas.toInt)]
    | none =>
      if isSaturated deployment newMS then .ok ((filterActiveMachineSets oldMSs).map fun old => (old, 0))
      else if isRollingUpdate deployment.toDeployment then
        let allMSs := filterActiveMachineSets (oldMSs ++ newMS.toList)
        let toAdd := replicasToAdd scaler deployment allMSs
        .ok (distribute scaler deployment toAdd (sortForScaling sorting toAdd allMSs))
      else .ok []

end

/-! ## Shares as grants -/

theorem spec_pos_of_active {machineSet : AnnotatedMS} (active : isActive machineSet = true) :
    0 < machineSet.spec := by
  unfold isActive at active
  unfold MachineSet.spec
  cases counted : machineSet.replicas with
  | none =>
    rw [counted] at active
    cases active
  | some =>
    rw [counted, decide_eq_true_eq] at active
    exact Int32.lt_iff_toInt_lt.mp active

theorem roundToInt_nonneg {value : ℚ} (nonneg : 0 ≤ value) : 0 ≤ roundToInt value := by
  rw [roundToInt, if_neg nonneg.not_gt]
  exact Int.floor_nonneg.mpr (by linarith)

theorem roundToInt_nonpos {value : ℚ} (nonpos : value ≤ 0) : roundToInt value ≤ 0 := by
  rcases nonpos.eq_or_lt with rfl | negative
  · decide +kernel
  · rw [roundToInt, if_pos negative]
    exact Int.ceil_nonpos.mpr (by linarith)

section

variable {scaler : Scaler} {deployment : ObservedMD}
  {machineSets : List AnnotatedMS} {machineSet : AnnotatedMS} {toAdd : Int}

section

variable (annotated : 0 < annotatedReplicas deployment machineSet) (positive : 0 < machineSet.spec)
include annotated positive

theorem neg_spec_le_fraction
    (allowed : deployment.replicas.getD 0 = 0 ∨ 0 ≤ deploymentReplicas scaler deployment) :
    -machineSet.spec ≤ getMachineSetFraction scaler deployment machineSet := by
  unfold getMachineSetFraction
  split_ifs with scaledToZero
  · exact le_rfl
  · have product : 0 ≤ machineSet.spec * deploymentReplicas scaler deployment :=
      mul_nonneg positive.le (allowed.resolve_left scaledToZero)
    have rounded := roundToInt_nonneg
      (div_nonneg (Int.cast_nonneg (R := ℚ) product) (Int.cast_nonneg annotated.le))
    omega

theorem fraction_neg
    (disallowed : ¬ (deployment.replicas.getD 0 = 0 ∨ 0 ≤ deploymentReplicas scaler deployment)) :
    getMachineSetFraction scaler deployment machineSet < 0 := by
  rw [not_or, not_le] at disallowed
  have product : machineSet.spec * deploymentReplicas scaler deployment ≤ 0 :=
    mul_nonpos_of_nonneg_of_nonpos positive.le disallowed.2.le
  have rounded := roundToInt_nonpos
    (div_nonpos_of_nonpos_of_nonneg (Int.cast_nonpos (R := ℚ).mpr product) (Int.cast_nonneg annotated.le))
  rw [getMachineSetFraction, if_neg disallowed.1]
  omega

end

theorem proportions_growing (growing : 0 < toAdd) (added : Int)
    (positive : ∀ machineSet ∈ machineSets, 0 < machineSet.spec) :
    proportions scaler deployment toAdd added machineSets =
      grants (toAdd - added) (machineSets.map (getMachineSetFraction scaler deployment)) := by
  induction machineSets generalizing added with
  | nil => rfl
  | cons machineSet _ ih =>
    rcases forall_mem_cons.mp positive with ⟨headPositive, restPositive⟩
    have proportion : getProportion scaler deployment toAdd added machineSet =
        if toAdd - added = 0 then 0
        else min (getMachineSetFraction scaler deployment machineSet) (toAdd - added) := by
      unfold getProportion
      simp only [headPositive.ne', growing.ne', false_or, if_pos growing, sub_eq_zero]
    rw [proportions, map_cons, grants, ih _ restPositive, proportion, sub_add_eq_sub_sub]

theorem proportions_shrinking (shrinking : toAdd < 0) (added : Int)
    (positive : ∀ machineSet ∈ machineSets, 0 < machineSet.spec) :
    proportions scaler deployment toAdd added machineSets =
      (grants (added - toAdd)
        (machineSets.map fun machineSet => -getMachineSetFraction scaler deployment machineSet)).map (-·) := by
  induction machineSets generalizing added with
  | nil => rfl
  | cons machineSet _ ih =>
    rcases forall_mem_cons.mp positive with ⟨headPositive, restPositive⟩
    have proportion : getProportion scaler deployment toAdd added machineSet =
        -(if added - toAdd = 0 then 0
          else min (-getMachineSetFraction scaler deployment machineSet) (added - toAdd)) := by
      unfold getProportion
      simp only [headPositive.ne', shrinking.ne, false_or, if_neg shrinking.not_gt]
      split_ifs <;> omega
    rw [proportions, map_cons, grants, map_cons, ih _ restPositive, proportion]
    congr 3
    omega

theorem length_proportions (toAdd added : Int) (machineSets : List AnnotatedMS) :
    (proportions scaler deployment toAdd added machineSets).length = machineSets.length := by
  induction machineSets generalizing added with
  | nil => rfl
  | cons _ _ ih =>
    rw [proportions, length_cons, length_cons, ih]

end

/-! ## The sizes -/

section

variable {machineSets : List AnnotatedMS} {shares : List Int}

theorem nameToSize_cons (machineSet : AnnotatedMS) (share : Int) :
    nameToSize (machineSet :: machineSets) (share :: shares) =
      (machineSet, machineSet.spec + share) :: nameToSize machineSets shares := rfl

variable (sameLength : shares.length = machineSets.length)
include sameLength

theorem forall_mem_nameToSize_iff {holds : AnnotatedMS × Int → Prop} :
    (∀ entry ∈ nameToSize machineSets shares, holds entry) ↔
      Forall₂ (fun machineSet share => holds (machineSet, machineSet.spec + share)) machineSets shares := by
  induction machineSets generalizing shares with
  | nil =>
    rw [length_eq_zero_iff.mp sameLength]
    exact iff_of_true (fun _ inside => nomatch inside) .nil
  | cons _ _ ih =>
    cases shares with
    | nil => cases sameLength
    | cons =>
      rw [nameToSize_cons, forall_mem_cons, forall₂_cons, ih (Nat.succ.inj sameLength)]

theorem forall₂_right_iff {holds : Int → Prop} :
    Forall₂ (fun _ share => holds share) machineSets shares ↔ ∀ share ∈ shares, holds share := by
  induction machineSets generalizing shares with
  | nil =>
    rw [length_eq_zero_iff.mp sameLength]
    exact iff_of_true .nil fun _ inside => nomatch inside
  | cons _ _ ih =>
    cases shares with
    | nil => cases sameLength
    | cons =>
      rw [forall₂_cons, forall_mem_cons, ih (Nat.succ.inj sameLength)]

theorem sum_nameToSize :
    ((nameToSize machineSets shares).map Prod.snd).sum =
      (machineSets.map fun machineSet => machineSet.spec).sum + shares.sum := by
  induction machineSets generalizing shares with
  | nil =>
    rw [length_eq_zero_iff.mp sameLength]
    rfl
  | cons _ _ ih =>
    cases shares with
    | nil => cases sameLength
    | cons =>
      rw [nameToSize_cons]
      simp only [map_cons, sum_cons, ih (Nat.succ.inj sameLength)]
      omega

theorem map_fst_nameToSize : (nameToSize machineSets shares).map Prod.fst = machineSets := by
  induction machineSets generalizing shares with
  | nil => rfl
  | cons _ _ ih =>
    cases shares with
    | nil => cases sameLength
    | cons =>
      rw [nameToSize_cons, map_cons, ih (Nat.succ.inj sameLength)]

end

theorem le_max_zero_iff {size change : Int} (positive : 0 < size) : size ≤ max 0 (size + change) ↔ 0 ≤ change := by
  omega

theorem max_zero_le_iff {size change : Int} (nonneg : 0 ≤ size) : max 0 (size + change) ≤ size ↔ change ≤ 0 := by
  omega

/-! ## What the sizes should be -/

/-- The sizes are a distribution of the allowed size in which no MachineSet goes against the direction of scaling. -/
structure Distributes (allowedSize : Int) (sizes : List (AnnotatedMS × Int)) : Prop where
  nonneg : ∀ entry ∈ sizes, 0 ≤ entry.2
  growing : (sizes.map fun entry => entry.1.spec).sum < allowedSize →
    (∀ entry ∈ sizes, entry.1.spec ≤ entry.2) ∧ (sizes.map Prod.snd).sum = allowedSize
  shrinking : allowedSize < (sizes.map fun entry => entry.1.spec).sum →
    (∀ entry ∈ sizes, entry.2 ≤ entry.1.spec) ∧
      ((sizes.map Prod.snd).sum = allowedSize ∨
        allowedSize < (sizes.map Prod.snd).sum ∧
          ∃ largest ∈ sizes, largest.2 = 0 ∧ ∀ entry ∈ sizes, entry.1.spec ≤ largest.1.spec)

section

variable (scaler : Scaler) (deployment : ObservedMD)

/-- The fractions of the MachineSets go in the direction of scaling as long as something is left to add or to
remove, or that of the first MachineSet alone does not and the others leave something for it.  When scaling down, a
MachineSet behind the first one is not asked for more than it has while that much is left to remove. -/
def KeepsDirection (toAdd : Int) : List AnnotatedMS → Prop
  | [] => True
  | first :: rest =>
    let fraction := getMachineSetFraction scaler deployment
    (0 < toAdd → Fair toAdd (fraction first) (rest.map fraction)) ∧
      (toAdd < 0 →
        Fair (-toAdd) (-fraction first) (rest.map fun machineSet => -fraction machineSet) ∧
          ∀ before machineSet after, rest = before ++ machineSet :: after →
            -fraction machineSet ≤ machineSet.spec ∨
              -toAdd - ((first :: before).map fun earlier => -fraction earlier).sum ≤ machineSet.spec)

variable {scaler deployment}

variable {toAdd : Int} {machineSets : List AnnotatedMS} {first : AnnotatedMS}

theorem keepsDirection_of_nonneg (growing : 0 < toAdd)
    (nonneg : ∀ machineSet ∈ machineSets, 0 ≤ getMachineSetFraction scaler deployment machineSet) :
    KeepsDirection scaler deployment toAdd machineSets := by
  cases machineSets with
  | nil => exact trivial
  | cons =>
    refine ⟨fun _ => .inl (Orderly.of_nonneg ?_), fun shrinking => absurd shrinking growing.not_gt⟩
    intro _ inside
    rw [← map_cons] at inside
    rcases mem_map.mp inside with ⟨machineSet, active, rfl⟩
    exact nonneg machineSet active

theorem distribute_cons (changing : toAdd ≠ 0) {rest : List AnnotatedMS} {later : List Int}
    (laterShares : proportions scaler deployment toAdd (getProportion scaler deployment toAdd 0 first) rest = later) :
    distribute scaler deployment toAdd (first :: rest) =
      (first, max 0 (first.spec + (toAdd - later.sum))) :: nameToSize rest later := by
  have size : ∀ value : Int, (if value < 0 then 0 else value) = max 0 value := by
    intro _
    split_ifs <;> omega
  rw [distribute, if_neg changing]
  dsimp only
  rw [proportions, zero_add, laterShares, nameToSize_cons, addLeftover, size, sum_cons]
  congr 3
  omega

section

variable (scaler : Scaler) (deployment : ObservedMD)
  (toAdd : Int) (machineSets : List AnnotatedMS)

theorem map_fst_distribute : (distribute scaler deployment toAdd machineSets).map Prod.fst = machineSets := by
  by_cases steady : toAdd = 0
  · rw [distribute, if_pos steady, map_map]
    exact map_id machineSets
  · cases machineSets with
    | nil => rw [distribute, if_neg steady]; rfl
    | cons =>
      rw [distribute_cons steady rfl, map_cons, map_fst_nameToSize (length_proportions _ _ _)]

theorem sum_spec_distribute :
    ((distribute scaler deployment toAdd machineSets).map fun entry => entry.1.spec).sum =
      (machineSets.map fun machineSet => machineSet.spec).sum := by
  have specs := congrArg (map fun machineSet : AnnotatedMS => machineSet.spec)
    (map_fst_distribute scaler deployment toAdd machineSets)
  rw [map_map] at specs
  exact congrArg sum specs

end

theorem mem_of_mem_distribute {entry : AnnotatedMS × Int}
    (inside : entry ∈ distribute scaler deployment toAdd machineSets) : entry.1 ∈ machineSets := by
  rw [← map_fst_distribute scaler deployment toAdd machineSets]
  exact mem_map_of_mem inside

section

variable {toAdd allowed : Int} {first : AnnotatedMS} {rest : List AnnotatedMS}

theorem distributes_growing_iff (growing : 0 < toAdd) (positive : ∀ machineSet ∈ first :: rest, 0 < machineSet.spec)
    (total : ((first :: rest).map fun machineSet => machineSet.spec).sum + toAdd = allowed) :
    Distributes allowed (distribute scaler deployment toAdd (first :: rest)) ↔
      Fair toAdd (getMachineSetFraction scaler deployment first)
        (rest.map (getMachineSetFraction scaler deployment)) := by
  rcases forall_mem_cons.mp positive with ⟨firstPositive, restPositive⟩
  have firstShare : getProportion scaler deployment toAdd 0 first =
      min (getMachineSetFraction scaler deployment first) toAdd := by
    unfold getProportion
    rw [if_neg (by omega), if_pos growing, sub_zero]
  generalize laterShares : grants (toAdd - min (getMachineSetFraction scaler deployment first) toAdd)
    (rest.map (getMachineSetFraction scaler deployment)) = later
  have sameLength : later.length = rest.length := by
    rw [← laterShares, length_grants, length_map]
  have sizes := distribute_cons growing.ne'
    ((proportions_growing growing _ restPositive).trans (by rw [firstShare, laterShares]) :
      proportions scaler deployment toAdd (getProportion scaler deployment toAdd 0 first) rest = later)
  have current := sum_spec_distribute scaler deployment toAdd (first :: rest)
  have keeps : (∀ entry ∈ distribute scaler deployment toAdd (first :: rest), entry.1.spec ≤ entry.2) ↔
      (∀ share ∈ later, 0 ≤ share) ∧ later.sum ≤ toAdd := by
    rw [sizes, forall_mem_cons, forall_mem_nameToSize_iff sameLength, and_comm]
    simp only [le_add_iff_nonneg_right]
    rw [forall₂_right_iff sameLength, le_max_zero_iff firstPositive, sub_nonneg]
  rw [← fair_iff growing, laterShares, ← keeps]
  constructor
  · intro distributes
    exact (distributes.growing (by omega)).1
  · intro grows
    refine ⟨?_, ?_, ?_⟩
    · intro entry inside
      exact (positive _ (mem_of_mem_distribute inside)).le.trans (grows entry inside)
    · intro _
      refine ⟨grows, ?_⟩
      have left := (keeps.mp grows).2
      rw [sizes, map_cons, sum_cons, sum_nameToSize sameLength]
      rw [map_cons, sum_cons] at total
      omega
    · omega

theorem shrinking_nonneg_iff (positive : ∀ machineSet ∈ first :: rest, 0 < machineSet.spec)
    (annotated : ∀ machineSet ∈ first :: rest, 0 < annotatedReplicas deployment machineSet) :
    Forall₂ (fun machineSet grant => grant ≤ machineSet.spec) rest
        (grants (-toAdd - min (-getMachineSetFraction scaler deployment first) (-toAdd))
          (rest.map fun machineSet => -getMachineSetFraction scaler deployment machineSet)) ↔
      ∀ before machineSet after, rest = before ++ machineSet :: after →
        -getMachineSetFraction scaler deployment machineSet ≤ machineSet.spec ∨
          -toAdd -
              ((first :: before).map fun earlier => -getMachineSetFraction scaler deployment earlier).sum ≤
            machineSet.spec := by
  rcases forall_mem_cons.mp positive with ⟨_, restPositive⟩
  rcases forall_mem_cons.mp annotated with ⟨_, restAnnotated⟩
  have sizeNonneg : ∀ machineSet ∈ rest, 0 ≤ machineSet.spec := fun machineSet inside =>
    (restPositive machineSet inside).le
  by_cases allowedNonneg : deployment.replicas.getD 0 = 0 ∨ 0 ≤ deploymentReplicas scaler deployment
  · have shareLe : ∀ machineSet ∈ rest,
        -getMachineSetFraction scaler deployment machineSet ≤ machineSet.spec := by
      intro machineSet inside
      exact neg_le.mp
        (neg_spec_le_fraction (restAnnotated machineSet inside) (restPositive machineSet inside) allowedNonneg)
    refine iff_of_true (grants_le_of_share_le sizeNonneg shareLe) ?_
    intro before machineSet _ split
    exact .inl (shareLe machineSet (split ▸ mem_append_right before mem_cons_self))
  · have sharePos : ∀ machineSet ∈ rest, 0 < -getMachineSetFraction scaler deployment machineSet := by
      intro machineSet inside
      exact neg_pos.mpr
        (fraction_neg (restAnnotated machineSet inside) (restPositive machineSet inside) allowedNonneg)
    have bearable := grants_tail_le_iff (-toAdd) first sharePos sizeNonneg
    exact bearable

theorem distributes_shrinking_iff (shrinking : toAdd < 0) (positive : ∀ machineSet ∈ first :: rest, 0 < machineSet.spec)
    (annotated : ∀ machineSet ∈ first :: rest, 0 < annotatedReplicas deployment machineSet)
    (largest : ∀ machineSet ∈ first :: rest, machineSet.spec ≤ first.spec)
    (total : ((first :: rest).map fun machineSet => machineSet.spec).sum + toAdd = allowed) :
    Distributes allowed (distribute scaler deployment toAdd (first :: rest)) ↔
      Fair (-toAdd) (-getMachineSetFraction scaler deployment first)
          (rest.map fun machineSet => -getMachineSetFraction scaler deployment machineSet) ∧
        ∀ before machineSet after, rest = before ++ machineSet :: after →
          -getMachineSetFraction scaler deployment machineSet ≤ machineSet.spec ∨
            -toAdd -
                ((first :: before).map fun earlier => -getMachineSetFraction scaler deployment earlier).sum ≤
              machineSet.spec := by
  rcases forall_mem_cons.mp positive with ⟨firstPositive, restPositive⟩
  rw [← fair_iff (neg_pos.mpr shrinking), ← shrinking_nonneg_iff positive annotated]
  have firstShare : getProportion scaler deployment toAdd 0 first =
      -min (-getMachineSetFraction scaler deployment first) (-toAdd) := by
    unfold getProportion
    rw [if_neg (by omega), if_neg shrinking.not_gt]
    omega
  generalize laterShares : grants (-toAdd - min (-getMachineSetFraction scaler deployment first) (-toAdd))
    (rest.map fun machineSet => -getMachineSetFraction scaler deployment machineSet) = later
  have sameLength : (later.map (-·)).length = rest.length := by
    rw [length_map, ← laterShares, length_grants, length_map]
  have shares :
      proportions scaler deployment toAdd (getProportion scaler deployment toAdd 0 first) rest =
        later.map (-·) := by
    rw [proportions_shrinking shrinking _ restPositive, firstShare, ← laterShares]
    congr 2
    omega
  have sizes := distribute_cons shrinking.ne shares
  have current := sum_spec_distribute scaler deployment toAdd (first :: rest)
  have laterSum : (later.map (-·)).sum = -later.sum := (sum_neg later).symm
  have keeps : (∀ entry ∈ distribute scaler deployment toAdd (first :: rest), entry.2 ≤ entry.1.spec) ↔
      (∀ share ∈ later, 0 ≤ share) ∧ later.sum ≤ -toAdd := by
    rw [sizes, forall_mem_cons, forall_mem_nameToSize_iff sameLength, and_comm]
    simp only [add_le_iff_nonpos_right]
    rw [forall₂_right_iff sameLength, forall_mem_map, laterSum, max_zero_le_iff firstPositive.le,
      sub_nonpos, le_neg]
    simp only [neg_nonpos]
  have nonneg : (∀ entry ∈ distribute scaler deployment toAdd (first :: rest), 0 ≤ entry.2) ↔
      Forall₂ (fun machineSet grant => grant ≤ machineSet.spec) rest later := by
    rw [sizes, forall_mem_cons, forall_mem_nameToSize_iff sameLength, forall₂_map_right_iff,
      and_iff_right (le_max_left 0 _)]
    simp only [← sub_eq_add_neg, sub_nonneg]
  have sum : ((distribute scaler deployment toAdd (first :: rest)).map Prod.snd).sum =
      max 0 (first.spec + (toAdd + later.sum)) + (allowed - (first.spec + (toAdd + later.sum))) := by
    rw [map_cons, sum_cons] at total
    rw [sizes, map_cons, sum_cons, sum_nameToSize sameLength, laterSum, sub_neg_eq_add]
    omega
  rw [← keeps, ← nonneg]
  constructor
  · intro distributes
    exact ⟨(distributes.shrinking (by omega)).1, distributes.nonneg⟩
  · rintro ⟨shrinks, nonneg⟩
    refine ⟨nonneg, ?_, ?_⟩
    · omega
    · intro _
      refine ⟨shrinks, ?_⟩
      rcases le_or_gt 0 (first.spec + (toAdd + later.sum)) with enough | clipped
      · exact .inl (by omega)
      · refine .inr ⟨by omega, (first, 0), ?_, rfl, ?_⟩
        · rw [sizes, laterSum, sub_neg_eq_add, max_eq_left clipped.le]
          exact mem_cons_self
        · intro _ inside
          exact largest _ (mem_of_mem_distribute inside)

end

/-! ## Scaling during a rollout -/

def activeMachineSets (newMS : Option AnnotatedMS) (oldMSs : List AnnotatedMS) :
    List AnnotatedMS :=
  filterActiveMachineSets (newestFirst oldMSs ++ newMS.toList)

/-- A rolling update with several active MachineSets, in which the new one is not complete. -/
structure InRollout (deployment : ObservedMD) (newMS : Option AnnotatedMS)
    (oldMSs : List AnnotatedMS) : Prop where
  rolling : deployment.strategyType = .rollingUpdate
  replicas : deployment.replicas.isSome
  active : 2 ≤ (activeMachineSets newMS oldMSs).length
  unsaturated : isSaturated deployment newMS = false
  annotated : ∀ machineSet ∈ activeMachineSets newMS oldMSs, 0 < annotatedReplicas deployment machineSet

theorem scale_eq_distribute (sorting : Sorting) {newMS : Option AnnotatedMS}
    {oldMSs : List AnnotatedMS} (inRollout : InRollout deployment newMS oldMSs) :
    scale scaler sorting deployment newMS oldMSs =
      .ok (distribute scaler deployment
        (replicasToAdd scaler deployment (activeMachineSets newMS oldMSs))
        (sortForScaling sorting (replicasToAdd scaler deployment (activeMachineSets newMS oldMSs))
          (activeMachineSets newMS oldMSs))) := by
  have several : findOneActiveOrLatest newMS (newestFirst oldMSs) = none := by
    have length := inRollout.active
    unfold activeMachineSets at length
    unfold findOneActiveOrLatest
    split
    case h_1 none => simp [none] at length
    case h_2 machineSet one => simp [one] at length
    case h_3 => rfl
  have rolling : isRollingUpdate deployment.toDeployment = true := decide_eq_true inRollout.rolling
  rcases Option.isSome_iff_exists.mp inRollout.replicas with ⟨_, counted⟩
  unfold scale
  rw [counted]
  dsimp only
  rw [several]
  rw [inRollout.unsaturated, if_neg Bool.false_ne_true, if_pos rolling]
  rfl

theorem perm_sortForScaling (sorting : Sorting) (toAdd : Int) (machineSets : List AnnotatedMS) :
    (sortForScaling sorting toAdd machineSets).Perm machineSets := by
  unfold sortForScaling
  split_ifs
  · exact sorting.bySizeNewer.perm machineSets
  · exact sorting.bySizeOlder.perm machineSets
  · exact Perm.refl machineSets

theorem largest_of_sortForScaling {sorting : Sorting} (shrinking : toAdd < 0)
    {rest : List AnnotatedMS} (sorted : sortForScaling sorting toAdd machineSets = first :: rest) :
    ∀ machineSet ∈ first :: rest, machineSet.spec ≤ first.spec := by
  have irreflexive : ∀ machineSet, sizeOlder machineSet machineSet = false := by
    intro machineSet
    rw [sizeOlder, if_pos rfl]
    exact decide_eq_false (lt_irrefl _)
  intro machineSet inside
  rw [← sorted, (perm_sortForScaling sorting toAdd machineSets).mem_iff] at inside
  rw [sortForScaling, if_neg shrinking.not_gt, if_pos shrinking] at sorted
  have later := sorting.bySizeOlder.head_least irreflexive sorted machineSet inside
  unfold sizeOlder at later
  split_ifs at later with same
  · exact same.le
  · exact not_lt.mp (decide_eq_false_iff_not.mp later)

/-- Scaling in the middle of a rollout distributes the allowed size, with no MachineSet going against the direction of
scaling, exactly if the fractions of the MachineSets keep that direction. -/
theorem scale_distributes_iff (sorting : Sorting) {newMS : Option AnnotatedMS}
    {oldMSs : List AnnotatedMS} (inRollout : InRollout deployment newMS oldMSs) :
    let allMSs := activeMachineSets newMS oldMSs
    let toAdd := replicasToAdd scaler deployment allMSs
    (∃ sizes, scale scaler sorting deployment newMS oldMSs = .ok sizes ∧
        (sizes.map Prod.fst).Perm allMSs ∧ Distributes (allowedSize scaler deployment) sizes) ↔
      KeepsDirection scaler deployment toAdd (sortForScaling sorting toAdd allMSs) := by
  intro allMSs toAdd
  have permuted := perm_sortForScaling sorting toAdd allMSs
  have total : ((sortForScaling sorting toAdd allMSs).map fun machineSet => machineSet.spec).sum + toAdd =
      allowedSize scaler deployment := by
    have difference : toAdd =
        allowedSize scaler deployment - (allMSs.map fun machineSet => machineSet.spec).sum := rfl
    rw [(permuted.map _).sum_eq, difference, add_sub_cancel]
  have positive : ∀ machineSet ∈ sortForScaling sorting toAdd allMSs, 0 < machineSet.spec := by
    intro machineSet inside
    exact spec_pos_of_active (mem_filter.mp (permuted.mem_iff.mp inside)).2
  have annotated : ∀ machineSet ∈ sortForScaling sorting toAdd allMSs,
      0 < annotatedReplicas deployment machineSet := by
    intro machineSet inside
    exact inRollout.annotated machineSet (permuted.mem_iff.mp inside)
  have assigned : (∃ sizes, scale scaler sorting deployment newMS oldMSs = .ok sizes ∧
        (sizes.map Prod.fst).Perm allMSs ∧ Distributes (allowedSize scaler deployment) sizes) ↔
      Distributes (allowedSize scaler deployment)
        (distribute scaler deployment toAdd (sortForScaling sorting toAdd allMSs)) := by
    rw [scale_eq_distribute sorting inRollout]
    constructor
    · rintro ⟨_, ⟨⟩, _, distributes⟩
      exact distributes
    · intro distributes
      refine ⟨_, rfl, ?_, distributes⟩
      rw [map_fst_distribute]
      exact permuted
  rw [assigned]
  cases sorted : sortForScaling sorting toAdd allMSs with
  | nil =>
    have length := permuted.length_eq
    rw [sorted] at length
    have active : 2 ≤ allMSs.length := inRollout.active
    rw [← length] at active
    cases active
  | cons first rest =>
    rw [sorted] at total positive annotated
    unfold KeepsDirection
    rcases lt_trichotomy toAdd 0 with shrinking | steady | growing
    · rw [distributes_shrinking_iff shrinking positive annotated (largest_of_sortForScaling shrinking sorted) total]
      simp only [shrinking, shrinking.not_gt, IsEmpty.forall_iff, true_and, forall_const]
    · rw [steady] at total ⊢
      have current := sum_spec_distribute scaler deployment 0 (first :: rest)
      refine iff_of_true ⟨?_, by omega, by omega⟩ (by simp)
      intro _ inside
      rcases mem_map.mp inside with ⟨machineSet, active, rfl⟩
      exact (positive machineSet active).le
    · rw [distributes_growing_iff growing positive total]
      simp only [growing, growing.not_gt, IsEmpty.forall_iff, and_true, forall_const]

end

/-! ## A set that shrinks while the deployment grows -/

def insertionSorting : Sorting where
  bySizeNewer := SortRoutine.insertion
    (by
      intro first second
      unfold sizeNewer
      grind)
    (by
      intro first second third
      unfold sizeNewer
      grind)
  bySizeOlder := SortRoutine.insertion
    (by
      intro first second
      unfold sizeOlder
      grind)
    (by
      intro first second third
      unfold sizeOlder
      grind)

namespace Example

def deployment : ObservedMD where
  name := "md"
  replicas := some 15
  strategyType := .rollingUpdate
  maxSurge := some (.int 0)
  maxUnavailable := some (.int 1)
  statusReplicas := 10

def machineSet (name : String) (creationTimestamp : Int) (maxReplicas : String) : AnnotatedMS where
  name := name
  creationTimestamp := creationTimestamp
  replicas := some 5
  statusReplicas := 5
  availableReplicas := 5
  annotations := Function.update (fun _ => none) maxReplicasKey (some maxReplicas)

end Example

open Example

/-- From the size remembered, ten replicas grow to fifteen. -/
theorem scale_distributes_ten :
    ∃ sizes, scale getScaledValue insertionSorting deployment (some (machineSet "new" 2 "10"))
        [machineSet "old" 1 "10"] = .ok sizes ∧
      (sizes.map Prod.fst).Perm (activeMachineSets (some (machineSet "new" 2 "10")) [machineSet "old" 1 "10"]) ∧
      Distributes 15 sizes := by
  have inRollout : InRollout deployment (some (machineSet "new" 2 "10")) [machineSet "old" 1 "10"] := by
    constructor <;> decide +kernel
  apply (@scale_distributes_iff getScaledValue deployment insertionSorting _ _ inRollout).mpr
  apply keepsDirection_of_nonneg
  · decide +kernel
  · decide +kernel

/-- Both MachineSets remember a hundred replicas.  To grow from ten to fifteen, the old one goes from five to one. -/
theorem scale_shrinks_growing :
    InRollout deployment (some (machineSet "new" 2 "100")) [machineSet "old" 1 "100"] ∧
      ∃ sizes, scale getScaledValue insertionSorting deployment (some (machineSet "new" 2 "100"))
          [machineSet "old" 1 "100"] = .ok sizes ∧
        sizes.map (fun entry => (entry.1.name, entry.1.spec, entry.2)) = [("new", 5, 14), ("old", 5, 1)] ∧
        allowedSize getScaledValue deployment = 15 ∧ ¬ Distributes 15 sizes := by
  have inRollout : InRollout deployment (some (machineSet "new" 2 "100")) [machineSet "old" 1 "100"] := by
    constructor <;> decide +kernel
  refine ⟨inRollout, _, scale_eq_distribute insertionSorting inRollout, by decide +kernel, by decide +kernel, ?_⟩
  intro distributes
  exact absurd (distributes.growing (by decide +kernel)).1 (by decide +kernel)

end ClusterApi.MachineDeployment.ProportionalScaling

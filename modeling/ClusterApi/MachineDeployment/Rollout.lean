import ClusterApi.MachineDeployment.Rolling

namespace ClusterApi.MachineDeployment

open Foundation

/-!
# A rolling rollout

`rolloutRolling` from the list of MachineSets it is given to the MachineSets
that exist when it returns.  Every call to the API server may fail; what was
written before a failing call stays.  The MachineSets are read once, at the
beginning, and all decisions are made on what was read.
-/

/-- A created MachineSet may exist although the controller gives up waiting for it. -/
inductive CreateOutcome
  | created
  | unseen (error : String)
  | failed (error : String)

/-- The answers of the API server during one reconcile. -/
structure Calls where
  /-- A patch of `spec.replicas`, with its error. -/
  patch : MachineSet → Int32 → Option String
  /-- The propagation of in-place mutable fields to the matching MachineSet. -/
  update : MachineSet → Option String
  create : MachineSet → CreateOutcome
  /-- A delete, with its error; "not found" is none. -/
  delete : MachineSet → Option String
  /-- The MachineSet controller has seen the latest generation. -/
  generationObserved : MachineSet → Bool

/-- What a reconcile reads besides the deployment and its MachineSets. -/
structure Inputs where
  templateUpToDate : MachineSet → Bool
  templateExists : Bool
  reconciliationTime : Int
  /-- The name and the creation time of a MachineSet that is created. -/
  newName : String
  createdAt : Int

variable (calls : Calls)

/-! ## Old MachineSets beyond the history limit -/

/-- The loop of `cleanupDeployment`, over the oldest MachineSets. -/
def cleanupDeploymentLoop : List MachineSet → List MachineSet × Except String Unit
  | [] => ([], .ok ())
  | machineSet :: rest =>
    match machineSet.replicas with
    | none => (machineSet :: rest,
        .error ("spec replicas for machine set " ++ machineSet.name ++ " is nil, this is unexpected"))
    | some replicas =>
      if machineSet.statusReplicas ≠ 0 || replicas ≠ 0 || !calls.generationObserved machineSet ||
          machineSet.deleting then
        let (rest, outcome) := cleanupDeploymentLoop rest
        (machineSet :: rest, outcome)
      else
        match calls.delete machineSet with
        | some error => (machineSet :: rest, .error error)
        | none =>
          let (rest, outcome) := cleanupDeploymentLoop rest
          ({ machineSet with deleting := true } :: rest, outcome)

/-- Retains all but the latest `revisionHistoryLimit` old MachineSets.  A
deleted MachineSet exists until its finalizers are gone. -/
def cleanupDeployment (deployment : Deployment) (oldMSs : List MachineSet) : List MachineSet × Except String Unit :=
  match deployment.revisionHistoryLimit with
  | none => (oldMSs, .ok ())
  | some limit =>
    let cleanableMSes := oldMSs.filter fun machineSet => !machineSet.deleting
    let diff := Int32.ofNat cleanableMSes.length - limit
    if diff ≤ 0 then (oldMSs, .ok ())
    else
      let sorted := sortByCreationTimestamp cleanableMSes
      let (cleaned, outcome) := cleanupDeploymentLoop calls (sorted.take diff.toInt.toNat)
      (oldMSs.filter (fun machineSet => machineSet.deleting) ++ cleaned ++ sorted.drop diff.toInt.toNat, outcome)

/-- All desired replicas are updated and available, and no old Machines are running. -/
def deploymentComplete (deployment : Deployment) (oldMSs : List MachineSet) (newMS : MachineSet) : Bool :=
  let replicas := deployment.replicas.getD 0
  getActualReplicaCountForMachineSets [newMS] = replicas &&
    getActualReplicaCountForMachineSets (oldMSs ++ [newMS]) = replicas &&
    getAvailableReplicaCountForMachineSets (oldMSs ++ [newMS]) = replicas

/-! ## The rollout -/

variable (scaler : Scaler)

/-- `rolloutRolling` once the new MachineSet is known: scale up, scale down, clean up. -/
def rolloutNewMachineSet (deployment : Deployment) (oldMSs : List MachineSet) (newMS : MachineSet) :
    List MachineSet × Except String Unit :=
  match reconcileNewMachineSet calls.patch scaler deployment (oldMSs ++ [newMS]) newMS with
  | .error error => (oldMSs ++ [newMS], .error error)
  | .ok scaled =>
    match reconcileOldMachineSets calls.patch scaler deployment oldMSs scaled with
    | (after, .error error) => (after ++ [scaled], .error error)
    | (after, .ok ()) =>
      if deploymentComplete deployment after scaled then
        let (cleaned, outcome) := cleanupDeployment calls deployment after
        (cleaned ++ [scaled], outcome)
      else (after ++ [scaled], .ok ())

/-- The MachineSet `computeDesiredMachineSet` asks for when none matches. -/
def desiredMachineSet (inputs : Inputs) (replicas : Int32) : MachineSet :=
  { name := inputs.newName, creationTimestamp := inputs.createdAt, replicas := some replicas }

def rolloutRolling (inputs : Inputs) (deployment : Deployment) (machineSets : List MachineSet) :
    List MachineSet × Except String Unit :=
  let matchingMS := findNewMachineSet inputs.templateUpToDate deployment.rolloutAfter inputs.reconciliationTime
    machineSets
  let oldMSs := findOldMachineSets matchingMS machineSets
  match matchingMS with
  | some newMS =>
    match calls.update newMS with
    | some error => (oldMSs ++ [newMS], .error error)
    | none => rolloutNewMachineSet calls scaler deployment oldMSs newMS
  | none =>
    if !inputs.templateExists then
      (oldMSs, .error "cannot create a new MachineSet when templates do not exist")
    else
      match newMSNewReplicas scaler deployment oldMSs 0 with
      | .error error => (oldMSs,
          .error ("failed to create new MachineSet: failed to compute desired MachineSet: " ++ error))
      | .ok replicas =>
        let newMS := desiredMachineSet inputs replicas
        match calls.create newMS with
        | .failed error => (oldMSs, .error error)
        | .unseen error => (oldMSs ++ [newMS], .error error)
        | .created => rolloutNewMachineSet calls scaler deployment oldMSs newMS

/-! ## What a rollout does to the MachineSets -/

/-- The same MachineSet with a `spec.replicas` that is not greater; it may have been deleted. -/
structure Follows (before after : MachineSet) : Prop where
  name : after.name = before.name
  status : after.statusReplicas = before.statusReplicas
  counted : Counted after
  le : after.spec ≤ before.spec

/-- The MachineSets in another order, none of them with more replicas. -/
def Shrinks (before after : List MachineSet) : Prop :=
  ∃ order : List MachineSet, order.Perm before ∧ List.Forall₂ Follows order after

theorem Follows.of_lowered {before after : MachineSet} (lowered : Lowered before after)
    (counted : Counted before) : Follows before after where
  name := by rw [lowered.same]
  status := by rw [lowered.same]
  counted := lowered.counted counted
  le := lowered.le

theorem Counted.follows_refl (counted : Counted machineSet) : Follows machineSet machineSet :=
  ⟨rfl, rfl, counted, le_refl _⟩

theorem forall₂_follows_refl (counted : AllCounted machineSets) : List.Forall₂ Follows machineSets machineSets :=
  List.forall₂_same.mpr fun machineSet member => (counted machineSet member).follows_refl

theorem Shrinks.refl (counted : AllCounted machineSets) : Shrinks machineSets machineSets :=
  ⟨machineSets, List.Perm.refl _, forall₂_follows_refl counted⟩

theorem forall₂_follows_of_lowered (lowered : List.Forall₂ Lowered machineSets after)
    (counted : AllCounted machineSets) : List.Forall₂ Follows machineSets after := by
  induction lowered with
  | nil => exact .nil
  | cons head _ ih =>
    exact .cons (.of_lowered head (counted _ (by simp)))
      (ih fun machineSet member => counted machineSet (List.mem_cons_of_mem _ member))

theorem Shrinks.exists_of_mem (shrinks : Shrinks before after) (member : machineSet ∈ after) :
    ∃ original ∈ before, Follows original machineSet := by
  rcases shrinks with ⟨_, perm, follows⟩
  rcases exists_of_mem_paired follows member with ⟨original, inside, related⟩
  exact ⟨original, perm.mem_iff.mp inside, related⟩

theorem Shrinks.counted (shrinks : Shrinks before after) : AllCounted after := by
  intro _ member
  rcases shrinks.exists_of_mem member with ⟨_, _, follows⟩
  exact follows.counted

theorem Follows.trans {first second third : MachineSet} (left : Follows first second)
    (right : Follows second third) : Follows first third :=
  ⟨right.name.trans left.name, right.status.trans left.status, right.counted, right.le.trans left.le⟩

theorem Shrinks.trans {first second third : List MachineSet} (left : Shrinks first second)
    (right : Shrinks second third) : Shrinks first third := by
  rcases left with ⟨order, orderPerm, leftFollows⟩
  rcases right with ⟨next, nextPerm, rightFollows⟩
  have swapped : Relation.Comp (List.Forall₂ Follows) List.Perm order next := ⟨second, leftFollows, nextPerm.symm⟩
  rw [List.forall₂_comp_perm_eq_perm_comp_forall₂] at swapped
  rcases swapped with ⟨middle, middlePerm, middleFollows⟩
  exact ⟨middle, middlePerm.symm.trans orderPerm, paired_trans middleFollows rightFollows fun _ _ _ => Follows.trans⟩

variable {calls : Calls} {patch : MachineSet → Int32 → Option String}
variable {scaler : Scaler}
variable {deployment : Deployment} {oldMSs machineSets after before : List MachineSet} {newMS machineSet : MachineSet}

theorem reconcileOldMachineSets_shrinks (counted : AllCounted oldMSs) :
    Shrinks oldMSs (reconcileOldMachineSets patch scaler deployment oldMSs newMS).1 := by
  rcases reconcileOldMachineSets_onlyLowered counted patch with ⟨order, perm, lowered⟩
  refine ⟨order, perm, forall₂_follows_of_lowered lowered ?_⟩
  exact fun machineSet inside => counted machineSet (perm.mem_iff.mp inside)

theorem cleanupDeploymentLoop_follows (counted : AllCounted machineSets) :
    List.Forall₂ Follows machineSets (cleanupDeploymentLoop calls machineSets).1 := by
  induction machineSets with
  | nil => exact .nil
  | cons machineSet _ ih =>
    have restFollows := ih fun other member => counted other (List.mem_cons_of_mem _ member)
    have headCounted := counted machineSet (by simp)
    unfold cleanupDeploymentLoop
    rw [headCounted.replicas_eq]
    dsimp only
    split_ifs
    · exact .cons headCounted.follows_refl restFollows
    · split
      · exact forall₂_follows_refl counted
      · exact .cons ⟨rfl, rfl, ⟨rfl, headCounted.spec_nonneg, headCounted.available_nonneg⟩, le_refl _⟩
          restFollows

theorem cleanupDeployment_shrinks (counted : AllCounted oldMSs) :
    Shrinks oldMSs (cleanupDeployment calls deployment oldMSs).1 := by
  unfold cleanupDeployment
  split
  · exact .refl counted
  · rename_i limit _
    dsimp only
    split_ifs
    · exact .refl counted
    · generalize sortedEq : sortByCreationTimestamp (oldMSs.filter fun machineSet => !machineSet.deleting) = sorted
      generalize (Int32.ofNat _ - limit).toInt.toNat = diff
      have sortedPerm : sorted.Perm (oldMSs.filter fun machineSet => !machineSet.deleting) :=
        sortedEq ▸ List.perm_insertionSort createdBefore _
      have perm : (oldMSs.filter (fun machineSet => machineSet.deleting) ++ (sorted.take diff ++ sorted.drop diff)).Perm
          oldMSs := by
        rw [List.take_append_drop]
        exact (sortedPerm.append_left _).trans (List.filter_append_perm _ _)
      refine ⟨_, perm, ?_⟩
      rw [List.append_assoc]
      have orderCounted : ∀ machineSet ∈ oldMSs.filter (fun machineSet => machineSet.deleting) ++
          (sorted.take diff ++ sorted.drop diff), Counted machineSet :=
        fun machineSet member => counted machineSet (perm.mem_iff.mp member)
      simp only [List.mem_append] at orderCounted
      refine List.rel_append (forall₂_follows_refl fun machineSet member => orderCounted machineSet (.inl member))
        (List.rel_append (cleanupDeploymentLoop_follows fun machineSet member =>
          orderCounted machineSet (.inr (.inl member)))
          (forall₂_follows_refl fun machineSet member => orderCounted machineSet (.inr (.inr member))))

end ClusterApi.MachineDeployment

import ClusterApi.ControlPlane.Machines

namespace ClusterApi.ControlPlane

open List

/-!
# Remediation of control plane Machines

`reconcileUnhealthyMachines` deletes at most one Machine, after a cascade of
checks that each explain a refusal in the conditions of the Machine.  The
last check projects the etcd cluster without the member on that Machine and
asks for a majority of members that are known to be healthy.
-/

structure RemediationStrategy where
  maxRetry : Option Int32 := none
  retryPeriod : Int := 0
  minHealthyPeriod : Option Int := none

structure KubeadmControlPlane where
  clusterName : String
  initialized : Bool
  /-- No external etcd is configured. -/
  isEtcdManaged : Bool
  remediationStrategy : Option RemediationStrategy := none
  remediationInProgress : Option RemediationRecord := none

/-- The answers of the API server and of the workload cluster. -/
structure Calls where
  patchMachine : String → Option String
  getWorkloadCluster : Option String
  etcdMembers : Except String (List String)
  forwardEtcdLeadership : KcpMachine → KcpMachine → Option String
  deleteMachine : String → Option String

structure Outcome where
  /-- The Machines for which a delete was issued. -/
  deleted : List String := []
  /-- The Machine that was selected, with the conditions that are patched to it. -/
  selected : Option KcpMachine := none
  /-- What the control plane records afterwards. -/
  remediationInProgress : Option RemediationRecord
  requeue : Bool := false
  errors : List String := []

/-! ## Conditions that explain a refusal -/

/-- Set the condition of the owner, and its counterpart of the later API version. -/
def markOwnerRemediated (machine : KcpMachine) (reason severity message : String)
    (v1beta2Reason v1beta2Message : String) : KcpMachine :=
  { machine with
    ownerRemediated := some { status := .isFalse, reason := reason, severity := severity, message := message }
    ownerRemediatedV1Beta2 := some { status := .isFalse, reason := v1beta2Reason, message := v1beta2Message } }

def waiting (machine : KcpMachine) (message v1beta2Reason v1beta2Message : String) : KcpMachine :=
  markOwnerRemediated machine "WaitingForRemediation" "Warning" message v1beta2Reason v1beta2Message

def failedWith (machine : KcpMachine) (error : String) : KcpMachine :=
  markOwnerRemediated machine "RemediationFailed" "Error" error "InternalError"
    "Please check controller logs for errors"

/-! ## Retry limits -/

/-- One hour, in nanoseconds. -/
def defaultMinHealthyPeriod : Int := 3600 * 10 ^ 9

/-- The data of the remediation that may start, whether it may, and the Machine with the reason if not. -/
structure RetryCheck where
  data : RemediationData
  canRemediate : Bool
  machine : KcpMachine

/-- How a duration is written belongs to the standard library; the model writes nanoseconds. -/
def durationText (duration : Int) : String := toString duration ++ "ns"

def checkRetryLimits (strategy : Option RemediationStrategy) (reconciliationTime : Int)
    (machine : KcpMachine) : Except String RetryCheck :=
  let first : RemediationData :=
    { machine := machine.name, timestamp := some reconciliationTime, retryCount := 0 }
  match machine.remediationFor with
  | none => .ok ⟨first, true, machine⟩
  | some recorded =>
    match remediationDataFromAnnotation recorded with
    | .error error => .error error
    | .ok lastRemediation =>
      let minHealthyPeriod := (strategy.bind RemediationStrategy.minHealthyPeriod).getD defaultMinHealthyPeriod
      let retryPeriod := (strategy.map RemediationStrategy.retryPeriod).getD 0
      let lastRemediationTime := lastRemediation.timestamp.getD
        (reconciliationTime - 2 * max minHealthyPeriod retryPeriod)
      if lastRemediationTime + minHealthyPeriod ≤ reconciliationTime then .ok ⟨first, true, machine⟩
      else
        let retry := { first with retryCount := lastRemediation.retryCount }
        if lastRemediationTime + retryPeriod > reconciliationTime then
          let message := "KCP can't remediate this machine because the operation already failed in the latest " ++
            durationText retryPeriod ++ " (RetryPeriod)"
          .ok ⟨retry, false, waiting machine message "RemediationDeferred" message⟩
        else
          match strategy.bind RemediationStrategy.maxRetry with
          | none => .ok ⟨{ retry with retryCount := retry.retryCount + 1 }, true, machine⟩
          | some maxRetry =>
            if retry.retryCount ≥ maxRetry.toInt then
              let message := "KCP can't remediate this machine because the operation already failed " ++
                toString maxRetry.toInt ++ " times (MaxRetry)"
              .ok ⟨retry, false, waiting machine message "CannotBeRemediated" message⟩
            else .ok ⟨{ retry with retryCount := retry.retryCount + 1 }, true, machine⟩

/-! ## The projected etcd cluster -/

/-- Whether a member of the projected etcd cluster is known to be healthy.  A
member without a Machine is assumed not to be. -/
def isHealthyMember (machines : List KcpMachine) (member : String) : Bool :=
  match machines.find? fun machine => machine.nodeRef = some member with
  | none => false
  | some machine => Conditions.isTrue machine.etcdMemberHealthy

/-- The loop of `canSafelyRemoveEtcdMember`: members of the target cluster, and the unhealthy ones among them. -/
def projectMembers (machines : List KcpMachine) (removed : KcpMachine) :
    List String → Nat × Nat → Nat × Nat
  | [], counts => counts
  | member :: rest, (total, unhealthy) =>
    if removed.nodeRef = some member then projectMembers machines removed rest (total, unhealthy)
    else if isHealthyMember machines member then projectMembers machines removed rest (total + 1, unhealthy)
    else projectMembers machines removed rest (total + 1, unhealthy + 1)

def canSafelyRemoveEtcdMember (calls : Calls) (clusterName : String) (machines : List KcpMachine)
    (removed : KcpMachine) : Except String Bool :=
  match calls.getWorkloadCluster with
  | some error => .error ("failed to get client for workload cluster " ++ clusterName ++ ": " ++ error)
  | none =>
    match calls.etcdMembers with
    | .error error => .error ("failed to get etcdStatus for workload cluster " ++ clusterName ++ ": " ++ error)
    | .ok etcdMembers =>
      let (targetTotalMembers, targetUnhealthyMembers) := projectMembers machines removed etcdMembers (0, 0)
      let targetQuorum := targetTotalMembers / 2 + 1
      .ok ((targetTotalMembers : Int) - targetUnhealthyMembers ≥ targetQuorum)

/-! ## The cascade of checks -/

/-- A refusal: the Machine with the reason, and errors. -/
abbrev Refusal := KcpMachine × List String

/-- Removing the Machine must not cost etcd its quorum. -/
def refusalByQuorum (calls : Calls) (kcp : KubeadmControlPlane) (machines : List KcpMachine)
    (machine : KcpMachine) : Option Refusal :=
  if kcp.isEtcdManaged then
    match canSafelyRemoveEtcdMember calls kcp.clusterName machines machine with
    | .error error => some (failedWith machine error, [error])
    | .ok false =>
      some (waiting machine "KCP can't remediate this machine because this could result in etcd loosing quorum"
        "CannotBeRemediated" "KCP can't remediate this Machine because this could result in etcd loosing quorum", [])
    | .ok true => none
  else none

/-- The etcd leader has to be moved off the Machine first. -/
def refusalByLeadership (calls : Calls) (kcp : KubeadmControlPlane) (machines : List KcpMachine)
    (machine : KcpMachine) : Option Refusal :=
  match calls.getWorkloadCluster with
  | some error => some (machine, ["failed to create client to workload cluster: " ++ error])
  | none =>
    if kcp.isEtcdManaged then
      match newest (healthyMachines machines) with
      | none =>
        some (markOwnerRemediated machine "RemediationFailed" "Warning"
          ("A control plane machine needs remediation, but there is no healthy machine to forward etcd " ++
            "leadership to. Skipping remediation") "CannotBeRemediated"
          "KCP can't remediate this Machine because there is no healthy Machine to forward etcd leadership to", [])
      | some candidate =>
        match calls.forwardEtcdLeadership machine candidate with
        | some error => some (failedWith machine error, [error])
        | none => none
    else none

/-- The checks of an initialized control plane, in their order. -/
def refusalWhenInitialized (calls : Calls) (kcp : KubeadmControlPlane) (machines : List KcpMachine)
    (machine : KcpMachine) : Option Refusal :=
  if machines.length ≤ 1 then
    some (waiting machine "KCP can't remediate if current replicas are less or equal to 1" "CannotBeRemediated"
      "KCP can't remediate if current replicas are less or equal to 1", [])
  else if hasHealthyMachineStillProvisioning machines then
    some (waiting machine
      "KCP waiting for control plane machine provisioning to complete before triggering remediation"
      "RemediationDeferred"
      "KCP waiting for control plane Machine provisioning to complete before triggering remediation", [])
  else if hasDeletingMachine machines then
    some (waiting machine "KCP waiting for control plane machine deletion to complete before triggering remediation"
      "RemediationDeferred"
      "KCP waiting for control plane Machine deletion to complete before triggering remediation", [])
  else
    match refusalByQuorum calls kcp machines machine with
    | some refusal => some refusal
    | none => refusalByLeadership calls kcp machines machine

/-- The oldest Machine to be remediated that is not yet provisioned, or else the oldest. -/
def getMachineToBeRemediated (machines : List KcpMachine) : Option KcpMachine :=
  (oldest (machines.filter fun machine => !machine.hasNode)).or (oldest machines)

/-- A Machine was created after the recorded remediation. -/
def isStale (machines : List KcpMachine) (data : RemediationData) : Bool :=
  machines.any fun machine =>
    match data.timestamp with
    | none => true
    | some timestamp => machine.creationTimestamp > timestamp

/-! ## The reconcile -/

/-- The conditions of the selected Machine are patched whatever happens. -/
def finish (calls : Calls) (recorded : Option RemediationRecord) (machine : KcpMachine)
    (errors : List String) : Outcome :=
  { selected := some machine, remediationInProgress := recorded
    errors :=
      match errors, calls.patchMachine machine.name with
      | [], some error => ["failed to patch control plane Machine " ++ machine.name ++ ": " ++ error]
      | _, _ => errors }

/-- The delete itself, with the bookkeeping that lets the replacement know what it replaces. -/
def deleteUnhealthyMachine (calls : Calls) (recorded : Option RemediationRecord) (check : RetryCheck) : Outcome :=
  let machine := check.machine
  match calls.deleteMachine machine.name with
  | some error =>
    { finish calls recorded (failedWith machine error)
        ["failed to delete unhealthy machine " ++ machine.name ++ ": " ++ error] with deleted := [machine.name] }
  | none =>
    let deleted := markOwnerRemediated machine "RemediationInProgress" "Warning" "" "MachineDeleted"
      "Machine deletionTimestamp set"
    { finish calls (some check.data.marshal) deleted [] with deleted := [machine.name], requeue := true }

/-- From the selected Machine on, once no other remediation is in progress. -/
def remediateMachine (calls : Calls) (kcp : KubeadmControlPlane) (reconciliationTime : Int)
    (recorded : Option RemediationRecord) (machines : List KcpMachine) (machine : KcpMachine) :
    Outcome :=
  match checkRetryLimits kcp.remediationStrategy reconciliationTime machine with
  | .error error => finish calls recorded machine [error]
  | .ok check =>
    if !check.canRemediate then finish calls recorded check.machine []
    else
      match if kcp.initialized then refusalWhenInitialized calls kcp machines check.machine else none with
      | some (refused, errors) => finish calls recorded refused errors
      | none => deleteUnhealthyMachine calls recorded check

/-- The Machine in memory after the clean-up. -/
def cleanedUpMachine (machine : KcpMachine) : KcpMachine :=
  { machine with toMachine := cleanedUp machine.toMachine }

def reconcileUnhealthyMachines (calls : Calls) (kcp : KubeadmControlPlane)
    (reconciliationTime : Int) (machines : List KcpMachine) : Outcome :=
  let cleanupErrors := (machines.filterMap fun machine => cleanupPatch machine.toMachine).filterMap
    fun patch => calls.patchMachine patch.name
  if !cleanupErrors.isEmpty then { remediationInProgress := kcp.remediationInProgress, errors := cleanupErrors }
  else
    let machines := machines.map cleanedUpMachine
    match getMachineToBeRemediated (machinesToBeRemediatedByKCP machines) with
    | none => { remediationInProgress := kcp.remediationInProgress }
    | some machine =>
      if machine.deleting then { remediationInProgress := kcp.remediationInProgress }
      else
        match kcp.remediationInProgress with
        | none => remediateMachine calls kcp reconciliationTime none machines machine
        | some recorded =>
          match remediationDataFromAnnotation recorded with
          | .error error => { remediationInProgress := some recorded, errors := [error] }
          | .ok data =>
            if isStale machines data then
              remediateMachine calls kcp reconciliationTime none machines machine
            else { remediationInProgress := some recorded }

/-! ## Quorum -/

/-- The etcd members that stay when a Machine is removed. -/
def remainingMembers (removed : KcpMachine) (members : List String) : List String :=
  members.filter fun member => removed.nodeRef ≠ some member

/-- A member on a Machine whose etcd member is reported healthy. -/
def HostedHealthy (machines : List KcpMachine) (member : String) : Prop :=
  ∃ machine ∈ machines, machine.nodeRef = some member ∧ Conditions.isTrue machine.etcdMemberHealthy = true

instance (machines : List KcpMachine) (member : String) : Decidable (HostedHealthy machines member) :=
  inferInstanceAs (Decidable (∃ machine ∈ machines, _))

/-- A strict majority of the members that stay is hosted on Machines that report them healthy. -/
def QuorumWithout (machines : List KcpMachine) (removed : KcpMachine) (members : List String) : Prop :=
  (remainingMembers removed members).length / 2 + 1 ≤
    (remainingMembers removed members).countP fun member => HostedHealthy machines member

variable {machines : List KcpMachine}

theorem hostedHealthy_of_isHealthyMember {member : String}
    (healthy : isHealthyMember machines member = true) : HostedHealthy machines member := by
  unfold isHealthyMember at healthy
  split at healthy
  · cases healthy
  · rename_i machine found
    have hosts : machine.nodeRef = some member := by simpa using find?_some found
    exact ⟨machine, mem_of_find?_eq_some found, hosts, healthy⟩

theorem projectMembers_eq (machines : List KcpMachine) (removed : KcpMachine)
    (members : List String) (total unhealthy : Nat) :
    projectMembers machines removed members (total, unhealthy) =
      (total + (remainingMembers removed members).length,
        unhealthy + (remainingMembers removed members).countP fun member => !isHealthyMember machines member) := by
  induction members generalizing total unhealthy with
  | nil => rfl
  | cons member rest ih =>
    unfold projectMembers
    by_cases same : removed.nodeRef = some member
    · have skipped : remainingMembers removed (member :: rest) = remainingMembers removed rest := by
        rw [remainingMembers, filter_cons_of_neg (by simp [same])]
        rfl
      rw [if_pos same, ih, skipped]
    · have kept : remainingMembers removed (member :: rest) = member :: remainingMembers removed rest := by
        rw [remainingMembers, filter_cons_of_pos (by simp [same])]
        rfl
      rw [if_neg same, kept, length_cons, countP_cons]
      cases isHealthyMember machines member with
      | true =>
        rw [if_pos rfl, ih]
        exact Prod.ext (by omega) (by simp)
      | false =>
        rw [if_neg (by decide), ih]
        exact Prod.ext (by omega) (by simp; omega)

theorem canSafelyRemoveEtcdMember_quorum {calls : Calls} {clusterName : String} {removed : KcpMachine}
    (safe : canSafelyRemoveEtcdMember calls clusterName machines removed = .ok true) :
    ∃ members, calls.etcdMembers = .ok members ∧ QuorumWithout machines removed members := by
  unfold canSafelyRemoveEtcdMember at safe
  split at safe
  · cases safe
  · split at safe
    · cases safe
    · rename_i members listed
      refine ⟨members, listed, ?_⟩
      rw [projectMembers_eq, Except.ok.injEq, decide_eq_true_eq] at safe
      have split := length_eq_countP_add_countP (fun member => !isHealthyMember machines member)
        (l := remainingMembers removed members)
      have healthy : ((remainingMembers removed members).countP
          fun member => decide ¬(!isHealthyMember machines member) = true) ≤
          (remainingMembers removed members).countP fun member => HostedHealthy machines member := by
        apply countP_mono_left
        intro _ _ known
        apply decide_eq_true
        apply hostedHealthy_of_isHealthyMember
        simpa using known
      unfold QuorumWithout
      omega

/-! ## What a delete implies -/

variable {machines : List KcpMachine} {machine : KcpMachine} {kcp : KubeadmControlPlane}
  {check : RetryCheck} {calls : Calls}

theorem checkRetryLimits_machine {strategy : Option RemediationStrategy} {reconciliationTime : Int}
    (checked : checkRetryLimits strategy reconciliationTime machine = .ok check) (can : check.canRemediate = true) :
    check.machine = machine := by
  unfold checkRetryLimits at checked
  dsimp only at checked
  split at checked
  · cases checked
    rfl
  · split at checked
    · cases checked
    · split_ifs at checked
      · cases checked
        rfl
      · cases checked
        cases can
      · split at checked
        · cases checked
          rfl
        · split_ifs at checked
          · cases checked
            cases can
          · cases checked
            rfl

theorem refusalWhenInitialized_eq_none (managed : kcp.isEtcdManaged = true)
    (passed : refusalWhenInitialized calls kcp machines machine = none) :
    2 ≤ machines.length ∧ (∀ other ∈ machines, other.deleting = false) ∧
      ∃ members, calls.etcdMembers = .ok members ∧ QuorumWithout machines machine members := by
  unfold refusalWhenInitialized at passed
  split_ifs at passed with single provisioning deleting
  split at passed
  · cases passed
  · rename_i quorum
    refine ⟨by omega, ?_, ?_⟩
    · apply hasDeletingMachine_eq_false
      exact Bool.not_eq_true _ ▸ deleting
    · rw [refusalByQuorum, if_pos managed] at quorum
      split at quorum
      · cases quorum
      · cases quorum
      · rename_i safe
        exact canSafelyRemoveEtcdMember_quorum safe

/-- A delete is issued for one Machine alone, the selected one; no check of an initialized control plane refused it. -/
structure Remediates (calls : Calls) (kcp : KubeadmControlPlane) (machines : List KcpMachine)
    (machine : KcpMachine) (outcome : Outcome) : Prop where
  deleted : outcome.deleted = [machine.name]
  selected : ∃ marked, outcome.selected = some marked ∧ marked.nodeRef = machine.nodeRef
  passed : kcp.initialized = true → refusalWhenInitialized calls kcp machines machine = none

theorem deleteUnhealthyMachine_remediates (calls : Calls) (recorded : Option RemediationRecord)
    (passed : kcp.initialized = true → refusalWhenInitialized calls kcp machines check.machine = none) :
    Remediates calls kcp machines check.machine (deleteUnhealthyMachine calls recorded check) := by
  unfold deleteUnhealthyMachine
  dsimp only
  split
  · exact ⟨rfl, ⟨_, rfl, rfl⟩, passed⟩
  · exact ⟨rfl, ⟨_, rfl, rfl⟩, passed⟩

theorem remediateMachine_remediates (calls : Calls) (kcp : KubeadmControlPlane) (reconciliationTime : Int)
    (recorded : Option RemediationRecord) (machines : List KcpMachine) (machine : KcpMachine) :
    (remediateMachine calls kcp reconciliationTime recorded machines machine).deleted = [] ∨
      Remediates calls kcp machines machine
        (remediateMachine calls kcp reconciliationTime recorded machines machine) := by
  unfold remediateMachine
  split
  · exact .inl rfl
  · rename_i checked
    split_ifs with cannot initialized
    · exact .inl rfl
    all_goals
      rw [Bool.not_eq_true, Bool.not_eq_false'] at cannot
      have same := checkRetryLimits_machine checked cannot
    · split
      · exact .inl rfl
      · rename_i passed
        rw [← same]
        exact .inr (deleteUnhealthyMachine_remediates calls recorded fun _ => passed)
    · rw [← same]
      exact .inr (deleteUnhealthyMachine_remediates calls recorded fun isInitialized =>
        absurd isInitialized initialized)

theorem reconcileUnhealthyMachines_remediates (calls : Calls) (kcp : KubeadmControlPlane)
    (reconciliationTime : Int) (machines : List KcpMachine) :
    (reconcileUnhealthyMachines calls kcp reconciliationTime machines).deleted = [] ∨
      ∃ machine ∈ machinesToBeRemediatedByKCP (machines.map cleanedUpMachine), machine.deleting =
        false ∧ Remediates calls kcp (machines.map cleanedUpMachine) machine
          (reconcileUnhealthyMachines calls kcp reconciliationTime machines) := by
  unfold reconcileUnhealthyMachines
  dsimp only
  split_ifs
  · exact .inl rfl
  · split
    · exact .inl rfl
    · rename_i machine found
      split_ifs with deleting
      · exact .inl rfl
      · have member : machine ∈ machinesToBeRemediatedByKCP (machines.map cleanedUpMachine) := by
          rw [getMachineToBeRemediated, Option.or_eq_some_iff] at found
          rcases found with unprovisioned | ⟨_, found⟩
          · exact mem_of_mem_filter (mem_of_oldest unprovisioned)
          · exact mem_of_oldest found
        have alive : machine.deleting = false := Bool.not_eq_true _ ▸ deleting
        have remediates := remediateMachine_remediates calls kcp reconciliationTime none
          (machines.map cleanedUpMachine) machine
        split
        · exact remediates.imp_right fun deletes => ⟨machine, member, alive, deletes⟩
        · split
          · exact .inl rfl
          · split_ifs
            · exact remediates.imp_right fun deletes => ⟨machine, member, alive, deletes⟩
            · exact .inl rfl

/-! ## The clean-up does not change what is checked -/

theorem cleanedUpMachine_deleting (machine : KcpMachine) :
    (cleanedUpMachine machine).deleting = machine.deleting := by
  change (cleanedUp machine.toMachine).deleting = machine.deleting
  unfold cleanedUp
  split_ifs <;> rfl

theorem isUnhealthyAndOwnerRemediated_of_cleanedUp {machine : Machine}
    (selected : (cleanedUp machine).isUnhealthyAndOwnerRemediated = true) :
    machine.isUnhealthyAndOwnerRemediated = true := by
  cases deleting : machine.deleting with
  | true =>
    rw [cleanedUp, if_pos deleting] at selected
    exact selected
  | false =>
    cases recovered : shouldCleanup machine with
    | true =>
      rw [cleanedUp_not_selected deleting recovered] at selected
      cases selected
    | false =>
      simpa only [cleanedUp, deleting, recovered, removeIf, Bool.false_eq_true, if_false, ConditionChange.apply,
        Machine.isUnhealthyAndOwnerRemediated] using selected

theorem quorumWithout_cleanedUp {machines : List KcpMachine} {machine : KcpMachine}
    {members : List String}
    (quorum : QuorumWithout (machines.map cleanedUpMachine) (cleanedUpMachine machine) members) :
    QuorumWithout machines machine members := by
  apply Nat.le_trans quorum
  apply countP_mono_left
  intro _ _ healthy
  rcases of_decide_eq_true healthy with ⟨_, inside, hosts, reported⟩
  rcases mem_map.mp inside with ⟨original, listed, rfl⟩
  exact decide_eq_true ⟨original, listed, hosts, reported⟩

/-- Remediation of an initialized control plane with managed etcd: a delete is
issued for exactly one Machine, which is unhealthy, waits for its owner and is
not being deleted; there is another Machine and none is being deleted; and the
etcd members that stay keep a majority of healthy members. -/
theorem reconcileUnhealthyMachines_keeps_quorum (calls : Calls) (kcp : KubeadmControlPlane)
    (initialized : kcp.initialized = true) (managed : kcp.isEtcdManaged = true) (reconciliationTime : Int)
    (machines : List KcpMachine)
    (deletes : (reconcileUnhealthyMachines calls kcp reconciliationTime machines).deleted ≠ []) :
    ∃ machine ∈ machines,
      (reconcileUnhealthyMachines calls kcp reconciliationTime machines).deleted = [machine.name] ∧
      machine.isUnhealthyAndOwnerRemediated = true ∧ machine.deleting = false ∧ 2 ≤ machines.length ∧
      (∀ other ∈ machines, other.deleting = false) ∧
      ∃ members, calls.etcdMembers = .ok members ∧ QuorumWithout machines machine members := by
  rcases reconcileUnhealthyMachines_remediates calls kcp reconciliationTime machines with
    none | ⟨selected, member, _, deleted, _, passed⟩
  · exact absurd none deletes
  rcases mem_filter.mp member with ⟨listed, unhealthy⟩
  rcases mem_map.mp listed with ⟨machine, inside, rfl⟩
  rcases refusalWhenInitialized_eq_none managed (passed initialized) with ⟨enough, noneDeleting, members, known, quorum⟩
  have alive : ∀ other ∈ machines, other.deleting = false := by
    intro _ otherInside
    rw [← cleanedUpMachine_deleting]
    exact noneDeleting _ (mem_map_of_mem otherInside)
  refine ⟨machine, inside, ?_, isUnhealthyAndOwnerRemediated_of_cleanedUp unhealthy, alive machine inside, ?_, alive,
    members, known, quorumWithout_cleanedUp quorum⟩
  · rw [deleted]
    exact congrArg (fun name => [name]) (cleanedUp_name machine.toMachine)
  · rwa [length_map] at enough

/-! ## Three Machines, one of them unhealthy -/

def hostedMachine (name node : String) : KcpMachine :=
  { name := name, creationTimestamp := 0, nodeRef := some node, etcdMemberHealthy := some { status := .isTrue } }

def failedMachine : KcpMachine :=
  { name := "machine-3", creationTimestamp := 0, nodeRef := some "node-3"
    healthCheckSucceeded := some { status := .isFalse, reason := "NodeNotFound" }
    ownerRemediated := some { status := .isFalse, reason := "WaitingForRemediation" } }

def threeMembers : Calls :=
  { patchMachine := fun _ => none, getWorkloadCluster := none, etcdMembers := .ok ["node-1", "node-2", "node-3"]
    forwardEtcdLeadership := fun _ _ => none, deleteMachine := fun _ => none }

/-- The failed Machine is deleted, and the two members that stay are both healthy. -/
theorem threeMembers_keeps_quorum :
    let machines := [hostedMachine "machine-1" "node-1", hostedMachine "machine-2" "node-2", failedMachine]
    let kcp : KubeadmControlPlane := { clusterName := "cluster", initialized := true, isEtcdManaged := true }
    ∃ machine ∈ machines, (reconcileUnhealthyMachines threeMembers kcp 0 machines).deleted = [machine.name] ∧
      ∃ members, threeMembers.etcdMembers = .ok members ∧ QuorumWithout machines machine members := by
  intro machines kcp
  have deleted : (reconcileUnhealthyMachines threeMembers kcp 0 machines).deleted = ["machine-3"] := by decide +kernel
  rcases reconcileUnhealthyMachines_keeps_quorum threeMembers kcp rfl rfl 0 machines (by rw [deleted]; decide) with
    ⟨machine, member, only, _, _, _, _, members, known, quorum⟩
  exact ⟨machine, member, only, members, known, quorum⟩

end ClusterApi.ControlPlane

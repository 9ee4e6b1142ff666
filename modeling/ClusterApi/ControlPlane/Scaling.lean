import ClusterApi.ControlPlane.Etcd
import ClusterApi.ControlPlane.MachineCreation
import ClusterApi.ControlPlane.Webhook

namespace ClusterApi.ControlPlane.Scaling

open Foundation Bootstrap List
open Webhook (RolloutStrategy rollingUpdateStrategyType)
open MachineDeployment (IntOrString)

/-!
# Scaling and rolling out a control plane

A reconcile of a KubeadmControlPlane creates at most one Machine or deletes at
most one.  Machines that are not up to date are replaced first: one is created
while there is room for the surge, and otherwise one is deleted.  But for the
very first Machine, nothing happens while a Machine is being deleted or another
one does not report its components as healthy.

A collection of Machines is a map keyed by name, listed in the order in which
it is visited, and so are the failure domains of a Cluster.
-/

structure ScalableMachine extends OwnedMachine where
  /-- The annotation that asks for this Machine to go first. -/
  deleteMachine : Bool := false
  apiServerPodHealthy : Option Condition := none
  controllerManagerPodHealthy : Option Condition := none
  schedulerPodHealthy : Option Condition := none
  etcdPodHealthy : Option Condition := none
  deriving DecidableEq

/-- The part of a KubeadmControlPlane that decides about the number of its Machines. -/
structure ScaledControlPlane where
  spec : KubeadmControlPlaneSpec
  replicas : Int32
  rolloutStrategy : Option RolloutStrategy := none

def ScaledControlPlane.isEtcdManaged (kcp : ScaledControlPlane) : Bool :=
  match kcp.spec.kubeadmConfigSpec.clusterConfiguration with
  | none => true
  | some clusterConfiguration => clusterConfiguration.etcd.external.isNone

structure FailureDomain where
  id : String
  /-- Suitable for control plane Machines. -/
  controlPlane : Bool

/-! ## Collections -/

def oldest (machines : List ScalableMachine) : Option ScalableMachine :=
  (machines.insertionSort fun first second =>
    createdBefore first.toKcpMachine second.toKcpMachine = true).head?

/-- All of them as Machines of a control plane. -/
def members (machines : List ScalableMachine) : List KcpMachine :=
  machines.map fun machine => machine.toKcpMachine

def inFailureDomains (failureDomains : List (Option String)) (machine : ScalableMachine) : Bool :=
  failureDomains.contains machine.failureDomain

/-- The conditions on the components of a Machine, by their types. -/
def healthConditions (isEtcdManaged : Bool) : List (String × (ScalableMachine → Option Condition)) :=
  [("APIServerPodHealthy", fun machine => machine.apiServerPodHealthy),
    ("ControllerManagerPodHealthy", fun machine => machine.controllerManagerPodHealthy),
    ("SchedulerPodHealthy", fun machine => machine.schedulerPodHealthy)] ++
  if isEtcdManaged then
    [("EtcdPodHealthy", fun machine => machine.etcdPodHealthy),
      ("EtcdMemberHealthy", fun machine => machine.etcdMemberHealthy)]
  else []

/-- A condition that is missing or unknown does not count as unhealthy. -/
def hasUnhealthyControlPlaneComponents (isEtcdManaged : Bool) (machine : ScalableMachine) : Bool :=
  (healthConditions isEtcdManaged).any fun condition => Conditions.isFalse (condition.2 machine)

/-! ## Preflight checks -/

structure PreflightCheckResults where
  hasDeletingMachine : Bool := false
  controlPlaneComponentsNotHealthy : Bool := false
  etcdClusterNotHealthy : Bool := false

/-- Why a condition of a Machine stands in the way. -/
def preflightCheckCondition (machine : ScalableMachine) (type : String) (condition : Option Condition) : Option String :=
  match condition with
  | none => some ("Machine " ++ machine.name ++ " does not have " ++ type ++ " condition")
  | some found =>
    match found.status with
    | .isFalse => some ("Machine " ++ machine.name ++ " reports " ++ type ++ " condition is false (" ++
        found.severity ++ ", " ++ found.message ++ ")")
    | .isUnknown => some ("Machine " ++ machine.name ++ " reports " ++ type ++ " condition is unknown (" ++
        found.message ++ ")")
    | .isTrue => none

/-- The conditions of a Machine that stand in the way, each with its type. -/
def failedConditions (isEtcdManaged : Bool) (machine : ScalableMachine) : List (String × String) :=
  (healthConditions isEtcdManaged).filterMap fun condition =>
    (preflightCheckCondition machine condition.1 (condition.2 machine)).map fun error => (condition.1, error)

/-- The errors of a Machine, and what they say about the control plane. -/
def checkMachine (isEtcdManaged : Bool) (machine : ScalableMachine) : List String × PreflightCheckResults :=
  match machine.nodeRef with
  | none =>
    (["Machine " ++ machine.name ++ " does not have a corresponding Node yet (Machine.status.nodeRef not set)"],
      { controlPlaneComponentsNotHealthy := true, etcdClusterNotHealthy := isEtcdManaged })
  | some _ =>
    let failed := failedConditions isEtcdManaged machine
    (failed.map Prod.snd,
      { controlPlaneComponentsNotHealthy := failed.any fun failure => failure.1 ≠ "EtcdMemberHealthy"
        etcdClusterNotHealthy := failed.any fun failure => failure.1 = "EtcdMemberHealthy" })

/-- The outcome of the checks: how long to wait in seconds, if at all, and why. -/
structure Preflight where
  wait : Option Nat := none
  results : PreflightCheckResults := {}
  failures : List String := []

def deleteRequeueAfter : Nat := 30

def preflightFailedRequeueAfter : Nat := 15

/-- Machines with an excluded name may be unhealthy, but they may not be deleting either. -/
def preflightChecks (isEtcdManaged : Bool) (machines : List ScalableMachine) (excludeFor : List String) : Preflight :=
  if machines = [] then {}
  else if hasDeletingMachine (members machines) then
    { wait := some deleteRequeueAfter, results := { hasDeletingMachine := true } }
  else
    let checks := (machines.filter fun machine => !excludeFor.contains machine.name).map (checkMachine isEtcdManaged)
    let failures := checks.flatMap Prod.fst
    { wait := if failures = [] then none else some preflightFailedRequeueAfter
      results :=
        { controlPlaneComponentsNotHealthy := checks.any fun check => check.2.controlPlaneComponentsNotHealthy
          etcdClusterNotHealthy := checks.any fun check => check.2.etcdClusterNotHealthy }
      failures }

/-! ## Failure domains -/

def controlPlaneIds (failureDomains : List FailureDomain) : List String :=
  (failureDomains.filter fun domain => domain.controlPlane).map FailureDomain.id

def countIn (machines : List ScalableMachine) (id : String) : Nat :=
  machines.countP fun machine => machine.failureDomain = some id

/-- The failure domain of one of `machines` that has most of `groupMachines`. -/
def pickMost (ids : List String) (groupMachines machines : List ScalableMachine) : Option String :=
  (ids.insertionSort fun first second => countIn groupMachines second ≤ countIn groupMachines first).find?
    fun id => machines.any fun machine => machine.failureDomain = some id

def pickFewest (ids : List String) (machines : List ScalableMachine) : Option String :=
  (ids.insertionSort fun first second => countIn machines first ≤ countIn machines second).head?

/-- A Machine outside the current failure domains goes before all others. -/
def failureDomainWithMostMachines (failureDomains : List FailureDomain)
    (allMachines machines : List ScalableMachine) : Option String :=
  let ids := controlPlaneIds failureDomains
  match oldest (machines.filter fun machine => !inFailureDomains (ids.map some) machine) with
  | some machine => machine.failureDomain
  | none => pickMost ids allMachines machines

def machineInFailureDomainWithMostMachines (failureDomains : List FailureDomain)
    (allMachines machines : List ScalableMachine) : Except String ScalableMachine :=
  let failureDomain := failureDomainWithMostMachines failureDomains allMachines machines
  match oldest (machines.filter (inFailureDomains [failureDomain])) with
  | none => .error "failed to pick control plane Machine to mark for deletion"
  | some machine => .ok machine

/-! ## The Machine to delete -/

def machineWithDeleteAnnotation (machines : List ScalableMachine) : List ScalableMachine :=
  machines.filter fun machine => machine.deleteMachine

def unhealthyMachinesWithUnhealthyControlPlaneComponents (isEtcdManaged : Bool)
    (machines : List ScalableMachine) : List ScalableMachine :=
  machines.filter (hasUnhealthyControlPlaneComponents isEtcdManaged)

/-- The Machines among which one is picked: annotated ones first, then outdated ones that are unhealthy. -/
def scaleDownCandidates (isEtcdManaged : Bool) (machines outdatedMachines : List ScalableMachine) :
    List ScalableMachine :=
  if machineWithDeleteAnnotation outdatedMachines ≠ [] then machineWithDeleteAnnotation outdatedMachines
  else if machineWithDeleteAnnotation machines ≠ [] then machineWithDeleteAnnotation machines
  else if unhealthyMachinesWithUnhealthyControlPlaneComponents isEtcdManaged outdatedMachines ≠ [] then
    unhealthyMachinesWithUnhealthyControlPlaneComponents isEtcdManaged outdatedMachines
  else if outdatedMachines ≠ [] then outdatedMachines
  else machines

def selectMachineForScaleDown (isEtcdManaged : Bool) (failureDomains : List FailureDomain)
    (machines outdatedMachines : List ScalableMachine) : Except String ScalableMachine :=
  machineInFailureDomainWithMostMachines failureDomains machines
    (scaleDownCandidates isEtcdManaged machines outdatedMachines)

/-! ## Operations -/

/-- What a reconcile reads besides the control plane and its Machines, and the answers to its calls. -/
structure Pass where
  /-- A step in front of the switch makes the reconcile return, with an error or without. -/
  earlier : Option (Option String) := none
  /-- The names of the Machines that are not up to date. -/
  notUpToDate : String → Bool := fun _ => false
  failureDomains : List FailureDomain := []
  /-- The error of preparing the workload cluster for a rollout. -/
  prepareRollout : Option String := none
  /-- The integer that a limit of the rollout strategy stands for. -/
  intValue : IntOrString → Int
  getWorkloadCluster : Option String := none
  access : EtcdAccess
  etcd : EtcdCluster
  creation : CreationAnswers
  /-- The error of the delete, unless the Machine was not found. -/
  deleteMachine : Option String := none

/-- A call that changes the number of Machines.  A delete is made with etcd in some state. -/
inductive Call
  | createMachine (machine : ScalableMachine)
  | deleteMachine (machine : ScalableMachine) (etcd : EtcdCluster)

structure Outcome where
  call : Option Call := none
  /-- The seconds after which the control plane is reconciled again. -/
  requeueAfter : Option Nat := none
  results : PreflightCheckResults := {}
  error : Option String := none

def Outcome.ofPreflight (preflight : Preflight) : Outcome :=
  { requeueAfter := preflight.wait, results := preflight.results }

section Operations

variable (kcp : ScaledControlPlane) (pass : Pass) (machines : List ScalableMachine)

def nextFailureDomainForScaleUp : Option String :=
  let ids := controlPlaneIds pass.failureDomains
  if ids = [] then none
  else pickFewest ids (machines.filter fun machine => !pass.notUpToDate machine.name && !machine.deleting)

/-- The call is made once everything in front of it has succeeded, whatever its own answer. -/
def creating (create : CreationAnswers → Except String ProvisionedMachine) : Outcome :=
  let answers :=
    { pass.creation with preflightChecks := .ok (), failureDomain := .ok (nextFailureDomainForScaleUp pass machines) }
  match create { answers with createMachine := .ok () } with
  | .error error => { error := some error }
  | .ok provisioned =>
    let call := Call.createMachine { toOwnedMachine := provisioned.machine }
    match create answers with
    | .error error => { call := some call, error := some error }
    | .ok _ => { call := some call, requeueAfter := some 0 }

def initializeControlPlane : Outcome := creating pass machines (ControlPlane.initializeControlPlane kcp.spec)

def scaleUpControlPlane : Outcome :=
  let preflight := preflightChecks kcp.isEtcdManaged machines []
  if preflight.wait ≠ none then .ofPreflight preflight
  else creating pass machines (ControlPlane.scaleUpControlPlane kcp.spec)

/-- The delete itself. -/
def deleting (machine : ScalableMachine) (etcd : EtcdCluster) : Outcome :=
  { call := some (.deleteMachine machine etcd)
    requeueAfter := if pass.deleteMachine = none then some 0 else none
    error := pass.deleteMachine }

def scaleDownControlPlane (outdatedMachines : List ScalableMachine) : Outcome :=
  match selectMachineForScaleDown kcp.isEtcdManaged pass.failureDomains machines outdatedMachines with
  | .error error => { error := some (wrap "failed to select machine for scale down" error) }
  | .ok machineToDelete =>
    let preflight := preflightChecks kcp.isEtcdManaged machines [machineToDelete.name]
    if preflight.wait ≠ none then .ofPreflight preflight
    else
      match pass.getWorkloadCluster with
      | some error => { error := some (wrap "failed to create client to workload cluster" error) }
      | none =>
        if kcp.isEtcdManaged then
          match forwardEtcdLeadership pass.access pass.etcd machineToDelete.toKcpMachine
              (newest (members machines)) with
          | .error error => { error := some error }
          | .ok etcd => deleting pass machineToDelete etcd
        else deleting pass machineToDelete pass.etcd

/-- The sum of replicas and surge, and the number of Machines, are taken as 32-bit integers. -/
def upgradeControlPlane (machinesRequireUpgrade : List ScalableMachine) : Outcome :=
  match kcp.rolloutStrategy with
  | none => { error := some "rolloutStrategy is not set" }
  | some strategy =>
    match strategy.rollingUpdate with
    | none => { error := some "rolloutStrategy is not set" }
    | some rollingUpdate =>
      match pass.prepareRollout with
      | some error => { error := some error }
      | none =>
        if strategy.type ≠ rollingUpdateStrategyType then {}
        else
          match rollingUpdate.maxSurge with
          | none => { error := some "invalid memory address or nil pointer dereference" }
          | some maxSurge =>
            let maxNodes := kcp.replicas + Int32.ofInt (pass.intValue maxSurge)
            if Int32.ofNat machines.length < maxNodes then scaleUpControlPlane kcp pass machines
            else scaleDownControlPlane kcp pass machines machinesRequireUpgrade

def machinesNeedingRollout : List ScalableMachine :=
  machines.filter fun machine => pass.notUpToDate machine.name && !machine.deleting

/-- A reconcile without remediation. -/
def reconcile : Outcome :=
  match pass.earlier with
  | some error => { error }
  | none =>
    if machinesNeedingRollout pass machines ≠ [] then
      upgradeControlPlane kcp pass machines (machinesNeedingRollout pass machines)
    else if machines.length < kcp.replicas.toInt ∧ machines.length = 0 then initializeControlPlane kcp pass machines
    else if machines.length < kcp.replicas.toInt ∧ machines.length > 0 then scaleUpControlPlane kcp pass machines
    else if machines.length > kcp.replicas.toInt then scaleDownControlPlane kcp pass machines []
    else {}

end Operations

/-! ## What the operations do -/

/-- The Machine has a Node and reports all of its components as healthy. -/
def PassesPreflight (isEtcdManaged : Bool) (machine : ScalableMachine) : Prop := (checkMachine isEtcdManaged machine).1 = []

theorem preflightChecks_wait {isEtcdManaged : Bool} {machines : List ScalableMachine} {excludeFor : List String}
    (proceeds : (preflightChecks isEtcdManaged machines excludeFor).wait = none) :
    machines = [] ∨ (∀ machine ∈ machines, machine.deleting = false) ∧
      ∀ machine ∈ machines, machine.name ∉ excludeFor → PassesPreflight isEtcdManaged machine := by
  simp only [preflightChecks] at proceeds
  split at proceeds
  case isTrue empty => exact .inl empty
  case isFalse =>
    split at proceeds
    case isTrue => cases proceeds
    case isFalse deleting =>
    rw [Bool.not_eq_true] at deleting
    refine .inr ⟨fun machine member => ?_, fun machine member included => ?_⟩
    · exact hasDeletingMachine_eq_false deleting _ (mem_map_of_mem member)
    simp only [ite_eq_left_iff, reduceCtorEq, imp_false, not_not, flatMap_eq_nil_iff] at proceeds
    apply proceeds _ (mem_map_of_mem (mem_filter.mpr ⟨member, ?_⟩))
    simpa using included

theorem mem_of_oldest {machines : List ScalableMachine} {machine : ScalableMachine}
    (found : oldest machines = some machine) : machine ∈ machines := by
  have sorted := mem_of_head? found
  rwa [mem_insertionSort] at sorted

section Inversion

variable {kcp : ScaledControlPlane} {pass : Pass} {machines outdated : List ScalableMachine}

theorem scaleDownCandidates_subset (inside : outdated ⊆ machines) :
    scaleDownCandidates isEtcdManaged machines outdated ⊆ machines := by
  have filtered : ∀ (keep : ScalableMachine → Bool) {all}, all ⊆ machines → all.filter keep ⊆ machines :=
    fun keep {all} allInside => List.Subset.trans (filter_sublist.subset) allInside
  unfold scaleDownCandidates
  split_ifs
  · exact filtered _ inside
  · exact filtered _ (List.Subset.refl _)
  · exact filtered _ inside
  · exact inside
  · exact List.Subset.refl _

theorem selectMachineForScaleDown_mem {failureDomains : List FailureDomain}
    {machine : ScalableMachine} (inside : outdated ⊆ machines)
    (selected : selectMachineForScaleDown isEtcdManaged failureDomains machines outdated = .ok machine) :
    machine ∈ machines := by
  simp only [selectMachineForScaleDown, machineInFailureDomainWithMostMachines] at selected
  split at selected
  · cases selected
  case h_2 found =>
    cases selected
    exact scaleDownCandidates_subset inside (mem_of_mem_filter (mem_of_oldest found))

variable {call : Call} {isEtcdManaged : Bool}

theorem creating_call {create : CreationAnswers → Except String ProvisionedMachine}
    (made : (creating pass machines create).call = some call) :
    ∃ answers provisioned, create answers = .ok provisioned ∧
      call = .createMachine { toOwnedMachine := provisioned.machine } := by
  simp only [creating] at made
  split at made
  · cases made
  case h_2 provisioned created =>
    refine ⟨_, provisioned, created, ?_⟩
    split at made
    · exact (Option.some.inj made).symm
    · exact (Option.some.inj made).symm

theorem initializeControlPlane_call (made : (initializeControlPlane kcp pass machines).call = some call) :
    ∃ new, call = .createMachine new ∧ new.deleting = false := by
  rcases creating_call made with ⟨_, _, created, rfl⟩
  exact ⟨_, rfl, createFromConfig_deleting created⟩

theorem scaleUpControlPlane_call (made : (scaleUpControlPlane kcp pass machines).call = some call) :
    (preflightChecks kcp.isEtcdManaged machines []).wait = none ∧
      ∃ new, call = .createMachine new ∧ new.deleting = false := by
  simp only [scaleUpControlPlane] at made
  split at made
  case isTrue => cases made
  case isFalse proceeds =>
    rcases creating_call made with ⟨_, _, created, rfl⟩
    exact ⟨not_not.mp proceeds, _, rfl, createFromConfig_deleting (scaleUpControlPlane_eq_ok created)⟩

/-- A Machine is deleted to scale down: it was selected, all others are fine, and etcd was looked after. -/
structure ScalesDown (kcp : ScaledControlPlane) (pass : Pass) (machines outdated : List ScalableMachine)
    (machine : ScalableMachine) (etcd : EtcdCluster) : Prop where
  selected : selectMachineForScaleDown kcp.isEtcdManaged pass.failureDomains machines outdated = .ok machine
  preflight : (preflightChecks kcp.isEtcdManaged machines [machine.name]).wait = none
  forwarded : kcp.isEtcdManaged = true →
    forwardEtcdLeadership pass.access pass.etcd machine.toKcpMachine (newest (members machines)) = .ok etcd

theorem scaleDownControlPlane_call (made : (scaleDownControlPlane kcp pass machines outdated).call = some call) :
    ∃ machine etcd, call = .deleteMachine machine etcd ∧ ScalesDown kcp pass machines outdated machine etcd := by
  simp only [scaleDownControlPlane] at made
  split at made
  · cases made
  case h_2 machine selected =>
    split at made
    case isTrue => cases made
    case isFalse proceeds =>
      split at made
      · cases made
      · split at made
        case isTrue managed =>
          split at made
          · cases made
          case h_2 etcd forwarded =>
            cases made
            exact ⟨machine, etcd, rfl, selected, not_not.mp proceeds, fun _ => forwarded⟩
        case isFalse notManaged =>
          cases made
          exact ⟨machine, pass.etcd, rfl, selected, not_not.mp proceeds, fun managed => absurd managed notManaged⟩

/-- The surge of the rollout strategy, if there is one. -/
def ScaledControlPlane.maxSurge (kcp : ScaledControlPlane) : Option IntOrString :=
  kcp.rolloutStrategy.bind fun strategy => strategy.rollingUpdate.bind Webhook.RollingUpdate.maxSurge

/-- A rollout may take one more Machine. -/
def RolloutHasRoom (kcp : ScaledControlPlane) (pass : Pass) (machines : List ScalableMachine)
    (maxSurge : IntOrString) : Prop :=
  Int32.ofNat machines.length < kcp.replicas + Int32.ofInt (pass.intValue maxSurge)

/-- When a reconcile creates a Machine. -/
structure Creates (kcp : ScaledControlPlane) (pass : Pass) (machines : List ScalableMachine)
    (new : ScalableMachine) : Prop where
  alive : new.deleting = false
  settled : ∀ machine ∈ machines, machine.deleting = false
  room : machines.length < kcp.replicas.toInt ∨
    ∃ maxSurge, kcp.maxSurge = some maxSurge ∧ RolloutHasRoom kcp pass machines maxSurge

/-- When a reconcile deletes a Machine. -/
structure Deletes (kcp : ScaledControlPlane) (pass : Pass) (machines : List ScalableMachine)
    (machine : ScalableMachine) (etcd : EtcdCluster) : Prop where
  scalesDown : ∃ outdated ⊆ machines, ScalesDown kcp pass machines outdated machine etcd
  excess : machines.length > kcp.replicas.toInt ∨
    ∃ maxSurge, kcp.maxSurge = some maxSurge ∧ ¬ RolloutHasRoom kcp pass machines maxSurge

theorem settled_of_preflight {excludeFor : List String}
    (proceeds : (preflightChecks isEtcdManaged machines excludeFor).wait = none) :
    ∀ machine ∈ machines, machine.deleting = false := by
  rcases preflightChecks_wait proceeds with rfl | ⟨settled, -⟩
  · simp
  · exact settled

theorem reconcile_call (made : (reconcile kcp pass machines).call = some call) :
    (∃ new, call = .createMachine new ∧ Creates kcp pass machines new) ∨
      ∃ machine etcd, call = .deleteMachine machine etcd ∧ Deletes kcp pass machines machine etcd := by
  simp only [reconcile] at made
  split at made
  · cases made
  · split_ifs at made with rollout first some many
    · simp only [upgradeControlPlane] at made
      split at made
      · cases made
      rename_i strategy isStrategy
      split at made
      · cases made
      rename_i rollingUpdate isRolling
      split at made
      · cases made
      split at made
      · cases made
      split at made
      · cases made
      rename_i maxSurge isMaxSurge
      have isSurge : kcp.maxSurge = some maxSurge := by
        rw [ScaledControlPlane.maxSurge, isStrategy, Option.bind_some, isRolling, Option.bind_some, isMaxSurge]
      split at made
      case isTrue room =>
        rcases scaleUpControlPlane_call made with ⟨proceeds, new, rfl, alive⟩
        exact .inl ⟨new, rfl, alive, settled_of_preflight proceeds, .inr ⟨maxSurge, isSurge, room⟩⟩
      case isFalse noRoom =>
        rcases scaleDownControlPlane_call made with ⟨machine, etcd, rfl, scalesDown⟩
        refine .inr ⟨machine, etcd, rfl, ⟨_, ?_, scalesDown⟩, .inr ⟨maxSurge, isSurge, noRoom⟩⟩
        exact filter_sublist.subset
    · rcases initializeControlPlane_call made with ⟨new, rfl, alive⟩
      refine .inl ⟨new, rfl, alive, ?_, .inl first.1⟩
      rw [length_eq_zero_iff.mp first.2]
      simp
    · rcases scaleUpControlPlane_call made with ⟨proceeds, new, rfl, alive⟩
      exact .inl ⟨new, rfl, alive, settled_of_preflight proceeds, .inl some.1⟩
    · rcases scaleDownControlPlane_call made with ⟨machine, etcd, rfl, scalesDown⟩
      exact .inr ⟨machine, etcd, rfl, ⟨[], nil_subset _, scalesDown⟩, .inl many⟩

end Inversion

/-! ## A control plane of healthy Machines -/

namespace Example

/-- A Machine in a failure domain, with a Node of the same name and all components healthy. -/
def healthy (name id : String) : ScalableMachine where
  name := name
  creationTimestamp := 0
  failureDomain := some id
  nodeRef := some name
  apiServerPodHealthy := some { status := .isTrue }
  controllerManagerPodHealthy := some { status := .isTrue }
  schedulerPodHealthy := some { status := .isTrue }
  etcdPodHealthy := some { status := .isTrue }
  etcdMemberHealthy := some { status := .isTrue }

def kcp (replicas : Int32) : ScaledControlPlane where
  spec := { version := "v1.31.0", kubeadmConfigSpec := {} }
  replicas := replicas

/-- The leader of etcd is on the Node "first", and a new Machine is called "new". -/
def pass : Pass where
  failureDomains := [⟨"a", true⟩, ⟨"b", true⟩]
  intValue := fun _ => 1
  access := { controlPlaneNodes := .ok ["first", "second", "third", "new"] }
  etcd := ⟨[⟨1, "first"⟩, ⟨2, "second"⟩, ⟨3, "third"⟩, ⟨4, "new"⟩], 1, by decide, by decide⟩
  creation :=
    { generateName := fun _ => .ok "new", creationTimestamp := 0
      createFromTemplate := fun name => .ok { reference := { kind := "DockerMachine", name } } }

end Example

end ClusterApi.ControlPlane.Scaling

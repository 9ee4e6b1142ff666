import ClusterApi.ControlPlane.Remediation
import ClusterApi.ControlPlane.Scaling

namespace ClusterApi.ControlPlane.Leadership

open Scaling (ScaledControlPlane ScalableMachine Pass)

/-!
# The etcd leader and the Machine that goes

Before the controller deletes a Machine it forwards the leadership of etcd, if
that Machine hosts the leader, to a candidate.  Remediation takes the newest
healthy Machine.  A scale down or a rollout takes the newest Machine of all,
and that may be the very Machine that is deleted: one that a user has annotated,
say, or the only one in its failure domain.
-/

/-- The calls of a remediation that forwards the leadership of this etcd. -/
def remediationCalls (calls : Calls) (access : EtcdAccess) (etcd : EtcdCluster) : Calls :=
  { calls with
    forwardEtcdLeadership := fun machine candidate =>
      match forwardEtcdLeadership access etcd machine (some candidate) with
      | .ok _ => none
      | .error error => some error }

/-- Etcd when remediation deletes a Machine.  Only an initialized control plane has its leadership forwarded. -/
def etcdWhenRemediating (access : EtcdAccess) (etcd : EtcdCluster) (kcp : KubeadmControlPlane)
    (machines : List KcpMachine) (machine : KcpMachine) : EtcdCluster :=
  if kcp.initialized && kcp.isEtcdManaged then
    match forwardEtcdLeadership access etcd machine (newest (healthyMachines machines)) with
    | .ok after => after
    | .error _ => etcd
  else etcd

/-- The ways in which the controller comes to delete a Machine. -/
inductive Reconcile
  /-- Scale down and rollout. -/
  | regular (kcp : ScaledControlPlane) (pass : Pass) (machines : List ScalableMachine)
  | remediation (kcp : KubeadmControlPlane) (calls : Calls) (access : EtcdAccess)
      (etcd : EtcdCluster) (reconciliationTime : Int) (machines : List KcpMachine)

namespace Reconcile

def isEtcdManaged : Reconcile → Bool
  | .regular kcp _ _ => kcp.isEtcdManaged
  | .remediation kcp _ _ _ _ _ => kcp.isEtcdManaged

/-- Etcd as the reconcile finds it. -/
def etcd : Reconcile → EtcdCluster
  | .regular _ pass _ => pass.etcd
  | .remediation _ _ _ etcd _ _ => etcd

/-- The Machine for which a delete is issued, and etcd at that moment. -/
def delete : Reconcile → Option (KcpMachine × EtcdCluster)
  | .regular kcp pass machines =>
    match (Scaling.reconcile kcp pass machines).call with
    | some (.deleteMachine machine etcd) => some (machine.toKcpMachine, etcd)
    | _ => none
  | .remediation kcp calls access etcd reconciliationTime machines =>
    let outcome := reconcileUnhealthyMachines (remediationCalls calls access etcd) kcp reconciliationTime machines
    match outcome.deleted, outcome.selected with
    | _ :: _, some machine => some (machine, etcdWhenRemediating access etcd kcp machines machine)
    | _, _ => none

/-- The leadership would be forwarded to where it is, or not at all. -/
def LeaderStays : Reconcile → Prop
  | .regular _ pass machines => ∃ candidate, newest (Scaling.members machines) = some candidate ∧
      HostsLeader pass.etcd candidate
  | .remediation kcp _ _ etcd _ machines => kcp.initialized = false ∨
      ∃ candidate, newest (healthyMachines machines) = some candidate ∧ HostsLeader etcd candidate

instance : (reconcile : Reconcile) → Decidable reconcile.LeaderStays
  | .regular _ pass machines =>
    inferInstanceAs (Decidable (∃ candidate ∈ newest (Scaling.members machines), HostsLeader pass.etcd candidate))
  | .remediation kcp _ _ etcd _ machines =>
    inferInstanceAs (Decidable (kcp.initialized = false ∨
      ∃ candidate ∈ newest (healthyMachines machines), HostsLeader etcd candidate))

end Reconcile

/-! ## The candidate -/

section Candidates

variable {access : EtcdAccess} {etcd after : EtcdCluster} {machine other : KcpMachine}
variable {candidate : Option KcpMachine}

theorem forwardEtcdLeadership_congr (same : machine.nodeRef = other.nodeRef) :
    forwardEtcdLeadership access etcd machine candidate = forwardEtcdLeadership access etcd other candidate := by
  simp only [forwardEtcdLeadership, same]

theorem hostsLeader_candidate (hosts : HostsLeader etcd machine) :
    candidate.bind KcpMachine.nodeRef = machine.nodeRef ↔
      ∃ found, candidate = some found ∧ HostsLeader etcd found := by
  rcases hosts with ⟨leader, inside, leads, onNode, started⟩
  cases candidate with
  | none => simp [onNode]
  | some found =>
    constructor
    · intro sameNode
      exact ⟨found, rfl, leader, inside, leads, sameNode.trans onNode, started⟩
    · rintro ⟨_, ⟨⟩, again, againInside, againLeads, againNode, -⟩
      rw [eq_of_id_eq againInside inside (againLeads.trans leads.symm)] at againNode
      exact againNode.trans onNode.symm

theorem forwardEtcdLeadership_stays (moved : forwardEtcdLeadership access etcd machine candidate = .ok after) :
    HostsLeader after machine ↔
      HostsLeader etcd machine ∧ ∃ found, candidate = some found ∧ HostsLeader etcd found := by
  rw [forwardEtcdLeadership_ok moved]
  exact and_congr_right hostsLeader_candidate

end Candidates

/-! ## The clean-up does not change the candidate of a remediation -/

theorem isUnhealthy_cleanedUp (machine : KcpMachine) :
    (cleanedUpMachine machine).isUnhealthy = machine.isUnhealthy := by
  unfold KcpMachine.isUnhealthy cleanedUpMachine cleanedUp
  split_ifs
  · rfl
  · rfl

theorem createdBefore_cleanedUp (first second : KcpMachine) :
    createdBefore (cleanedUpMachine first) (cleanedUpMachine second) = createdBefore first second := by
  have timestamp : ∀ machine, (cleanedUpMachine machine).creationTimestamp = machine.creationTimestamp := by
    intro machine
    unfold cleanedUpMachine cleanedUp
    split_ifs
    · rfl
    · rfl
  have name : ∀ machine, (cleanedUpMachine machine).name = machine.name := fun machine => cleanedUp_name _
  simp only [createdBefore, timestamp, name]

theorem healthyMachines_cleanedUp (machines : List KcpMachine) :
    healthyMachines (machines.map cleanedUpMachine) = (healthyMachines machines).map cleanedUpMachine := by
  simp only [healthyMachines, List.filter_map, Function.comp_def, isUnhealthy_cleanedUp]

theorem newest_cleanedUp (machines : List KcpMachine) :
    newest (machines.map cleanedUpMachine) = (newest machines).map cleanedUpMachine := by
  unfold newest sortedByCreationTimestamp
  rw [← List.map_insertionSort (r := fun first second => createdBefore first second = true), List.getLast?_map]
  intro _ _ _ _
  rw [createdBefore_cleanedUp]

variable {machine : KcpMachine} {access : EtcdAccess} {etcd : EtcdCluster}

theorem forwarded_of_passed {calls : Calls} {kcp : KubeadmControlPlane} {machines : List KcpMachine}
    (managed : kcp.isEtcdManaged = true)
    (passed : refusalWhenInitialized (remediationCalls calls access etcd) kcp machines machine = none) :
    ∃ after, forwardEtcdLeadership access etcd machine (newest (healthyMachines machines)) = .ok after := by
  unfold refusalWhenInitialized at passed
  split_ifs at passed
  split at passed
  · cases passed
  · unfold refusalByLeadership at passed
    split at passed
    · cases passed
    · rw [if_pos managed] at passed
      split at passed
      · cases passed
      case h_2 candidate isNewest =>
        simp only [remediationCalls] at passed
        rw [isNewest]
        cases moved : forwardEtcdLeadership access etcd machine (some candidate) with
        | ok after => exact ⟨after, rfl⟩
        | error => simp [moved] at passed

theorem forwardEtcdLeadership_cleanedUp (candidate : Option KcpMachine) :
    forwardEtcdLeadership access etcd machine (candidate.map cleanedUpMachine) =
      forwardEtcdLeadership access etcd machine candidate := by
  cases candidate with
  | none | some => rfl

/-! ## The leader at the moment of a delete -/

/-- When a delete is issued, the leader of etcd is not on the Machine that goes, unless it was there before and
its leadership was forwarded to where it is or not at all. -/
theorem delete_movesLeader (reconcile : Reconcile) (managed : reconcile.isEtcdManaged = true)
    {machine : KcpMachine} {etcd : EtcdCluster} (issued : reconcile.delete = some (machine, etcd)) :
    ¬ HostsLeader etcd machine ↔ ¬ (HostsLeader reconcile.etcd machine ∧ reconcile.LeaderStays) := by
  apply not_congr
  cases reconcile with
  | regular =>
    rw [Reconcile.delete] at issued
    split at issued
    case h_1 deleted found made =>
      cases issued
      rcases Scaling.reconcile_call made with ⟨_, impossible, -⟩ | ⟨_, _, same, deletes⟩
      · cases impossible
      · cases same
        rcases deletes.scalesDown with ⟨_, -, scalesDown⟩
        exact forwardEtcdLeadership_stays (scalesDown.forwarded managed)
    case h_2 => cases issued
  | remediation kcp calls access before reconciliationTime machines =>
    simp only [Reconcile.delete] at issued
    split at issued
    case h_2 => cases issued
    case h_1 name rest selected isDeleted isSelected =>
      cases issued
      rcases reconcileUnhealthyMachines_remediates (remediationCalls calls access before) kcp reconciliationTime machines
        with none | ⟨_, -, -, -, ⟨marked, isMarked, sameNode⟩, passed⟩
      · rw [none] at isDeleted
        cases isDeleted
      · have isSame : machine = marked := Option.some.inj (isSelected.symm.trans isMarked)
        subst isSame
        rw [Reconcile.isEtcdManaged] at managed
        rw [etcdWhenRemediating, managed, Bool.and_true, Reconcile.LeaderStays, Reconcile.etcd]
        cases initialized : kcp.initialized with
        | false => simp
        | true =>
          rcases forwarded_of_passed managed (passed initialized) with ⟨_, moved⟩
          rw [healthyMachines_cleanedUp, newest_cleanedUp, forwardEtcdLeadership_cleanedUp,
            ← forwardEtcdLeadership_congr sameNode] at moved
          rw [if_pos rfl, moved, forwardEtcdLeadership_stays moved]
          simp

/-! ## Three Machines, of which one is to stay -/

def healthyMachine (name node : String) (creationTimestamp : Int) (deleteMachine : Bool) : ScalableMachine :=
  let healthy : Option Condition := some { status := .isTrue }
  { name, creationTimestamp, nodeRef := some node, deleteMachine, apiServerPodHealthy := healthy
    controllerManagerPodHealthy := healthy, schedulerPodHealthy := healthy, etcdPodHealthy := healthy
    etcdMemberHealthy := healthy }

def threeNodes (leader : UInt64) : EtcdCluster where
  members := [⟨1, "node-1"⟩, ⟨2, "node-2"⟩, ⟨3, "node-3"⟩]
  leader := leader
  distinctIds := by decide
  distinctNames := by decide

def scalingDown (leader : UInt64) (annotated : Bool) : Reconcile :=
  .regular { spec := { version := "v1.30.0" }, replicas := 1 }
    { intValue := fun _ => 1, access := { controlPlaneNodes := .ok ["node-1", "node-2", "node-3"] }
      etcd := threeNodes leader
      creation := { generateName := .ok, creationTimestamp := 4, createFromTemplate := fun _ => .error "not found" } }
    [healthyMachine "machine-1" "node-1" 1 false, healthyMachine "machine-2" "node-2" 2 false,
      healthyMachine "machine-3" "node-3" 3 annotated]

/-- The oldest Machine is deleted, and the leader moves away from it. -/
theorem oldestMachine_losesLeader : ∃ machine etcd, (scalingDown 1 false).delete = some (machine, etcd) ∧
    HostsLeader (scalingDown 1 false).etcd machine ∧ ¬ HostsLeader etcd machine := by
  have deletes : ∃ deleted ∈ (scalingDown 1 false).delete, HostsLeader (scalingDown 1 false).etcd deleted.1 ∧
      ¬ (scalingDown 1 false).LeaderStays := by decide +kernel
  rcases deletes with ⟨⟨machine, etcd⟩, issued, hosted, moves⟩
  exact ⟨machine, etcd, issued, hosted, (delete_movesLeader _ rfl issued).mpr fun stays => moves stays.2⟩

/-- The newest Machine is annotated to be deleted and hosts the leader.  It is deleted with the leader on it. -/
theorem annotatedMachine_keepsLeader : ∃ deleted ∈ (scalingDown 3 true).delete,
    deleted.1.name = "machine-3" ∧ HostsLeader deleted.2 deleted.1 := by
  decide +kernel

end ClusterApi.ControlPlane.Leadership

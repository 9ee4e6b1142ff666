import Mathlib
import ClusterApi.Machine.Conditions

namespace ClusterApi.ControlPlane

/-!
# Control plane Machines

The Machines of a KubeadmControlPlane with what remediation reads of them, and
the collections in which the controller keeps them.  A collection is a map
keyed by name; the model lists it in any order.
-/

/-- What an annotation records about a remediation. -/
structure RemediationData where
  machine : String
  /-- Missing for the zero time. -/
  timestamp : Option Int
  retryCount : Int
  deriving DecidableEq

/-- The value of an annotation, by what it decodes to. -/
inductive RemediationRecord
  | data (data : RemediationData)
  | undecodable (error : String)
  deriving DecidableEq

/-- A time, in nanoseconds, as an annotation can record it: without the fraction of a second. -/
def stamp (time : Int) : Int := time / 10 ^ 9 * 10 ^ 9

def RemediationData.marshal (data : RemediationData) : RemediationRecord :=
  .data { data with timestamp := data.timestamp.map stamp }

def remediationDataFromAnnotation : RemediationRecord → Except String RemediationData
  | .data data => .ok data
  | .undecodable error => .error error

structure KcpMachine extends Machine where
  /-- The name of the Node, once there is one. -/
  nodeRef : Option String := none
  etcdMemberHealthy : Option Condition := none
  /-- The remediation that the Machine completes. -/
  remediationFor : Option RemediationRecord := none
  deriving DecidableEq

namespace KcpMachine

/-- Marked as unhealthy by a health check, no matter who remediates it. -/
def isUnhealthy (machine : KcpMachine) : Bool := Conditions.isFalse machine.healthCheckSucceeded

def hasNode (machine : KcpMachine) : Bool := machine.nodeRef.isSome

end KcpMachine

/-- By creation timestamp, with the name as a tie breaker. -/
def createdBefore (first second : KcpMachine) : Bool :=
  if first.creationTimestamp = second.creationTimestamp then first.name ≤ second.name
  else first.creationTimestamp < second.creationTimestamp

def sortedByCreationTimestamp (machines : List KcpMachine) : List KcpMachine :=
  machines.insertionSort fun first second => createdBefore first second = true

def oldest (machines : List KcpMachine) : Option KcpMachine :=
  (sortedByCreationTimestamp machines).head?

def newest (machines : List KcpMachine) : Option KcpMachine :=
  (sortedByCreationTimestamp machines).getLast?

theorem mem_of_oldest {machines : List KcpMachine} {machine : KcpMachine}
    (found : oldest machines = some machine) : machine ∈ machines := by
  have sorted : machine ∈ sortedByCreationTimestamp machines := List.mem_of_head? found
  unfold sortedByCreationTimestamp at sorted
  rwa [List.mem_insertionSort] at sorted

/-! ## The Machines of a control plane -/

def healthyMachines (machines : List KcpMachine) : List KcpMachine :=
  machines.filter fun machine => !machine.isUnhealthy

def machinesToBeRemediatedByKCP (machines : List KcpMachine) : List KcpMachine :=
  machines.filter fun machine => machine.isUnhealthyAndOwnerRemediated

def hasHealthyMachineStillProvisioning (machines : List KcpMachine) : Bool :=
  !((healthyMachines machines).filter fun machine => !machine.hasNode).isEmpty

def hasDeletingMachine (machines : List KcpMachine) : Bool :=
  !(machines.filter fun machine => machine.deleting).isEmpty

theorem hasDeletingMachine_eq_false {machines : List KcpMachine}
    (none : hasDeletingMachine machines = false) : ∀ machine ∈ machines, machine.deleting = false := by
  intro machine member
  rw [hasDeletingMachine, Bool.not_eq_false', List.isEmpty_iff, List.filter_eq_nil_iff] at none
  exact Bool.not_eq_true _ ▸ none machine member

end ClusterApi.ControlPlane

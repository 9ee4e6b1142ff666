import Mathlib.Data.String.Basic

namespace ClusterApi

/-!
# Machines and their conditions

The part of a Machine through which the health check and the owner of the
Machine talk to each other.  Both keep a second set of conditions for a later
API version; only the owner's clean-up reads it.
-/

inductive ConditionStatus
  | isTrue
  | isFalse
  | isUnknown
  deriving DecidableEq

structure Condition where
  status : ConditionStatus
  reason : String := ""
  severity : String := ""
  message : String := ""
  deriving DecidableEq

namespace Conditions

/-- A missing condition is neither true nor false. -/
def isTrue (condition : Option Condition) : Bool := condition.any fun found => found.status = .isTrue

def isFalse (condition : Option Condition) : Bool := condition.any fun found => found.status = .isFalse

end Conditions

structure Machine where
  name : String
  creationTimestamp : Int
  /-- The Machine has a deletion timestamp. -/
  deleting : Bool := false
  healthCheckSucceeded : Option Condition := none
  ownerRemediated : Option Condition := none
  healthCheckSucceededV1Beta2 : Option Condition := none
  ownerRemediatedV1Beta2 : Option Condition := none
  deriving DecidableEq

namespace Machine

/-- A problem was detected on the Machine, and its owner is responsible for remediation. -/
def isUnhealthyAndOwnerRemediated (machine : Machine) : Bool :=
  Conditions.isFalse machine.healthCheckSucceeded && Conditions.isFalse machine.ownerRemediated

end Machine

/-- What a patch does to one condition. -/
inductive ConditionChange
  | keep
  | remove
  | set (condition : Condition)
  deriving DecidableEq

def ConditionChange.apply : ConditionChange → Option Condition → Option Condition
  | .keep, current => current
  | .remove, _ => none
  | .set condition, _ => some condition

/-! ## Clean-up of Machines that recovered

The MachineSet and the control plane withdraw their remediation in the same way.
-/

/-- A patch of the two conditions the owner of a Machine controls. -/
structure Patch where
  name : String
  ownerRemediated : ConditionChange
  ownerRemediatedV1Beta2 : ConditionChange

def shouldCleanup (machine : Machine) : Bool :=
  Conditions.isTrue machine.healthCheckSucceeded && Conditions.isFalse machine.ownerRemediated

def shouldCleanupV1Beta2 (machine : Machine) : Bool :=
  Conditions.isTrue machine.healthCheckSucceededV1Beta2 && Conditions.isFalse machine.ownerRemediatedV1Beta2

def removeIf (condition : Bool) : ConditionChange := if condition then .remove else .keep

/-- The patch of a Machine that passes its health check while a remediation is requested. -/
def cleanupPatch (machine : Machine) : Option Patch :=
  if !machine.deleting && (shouldCleanup machine || shouldCleanupV1Beta2 machine) then
    some ⟨machine.name, removeIf (shouldCleanup machine), removeIf (shouldCleanupV1Beta2 machine)⟩
  else none

/-- The Machine in memory after the clean-up. -/
def cleanedUp (machine : Machine) : Machine :=
  if machine.deleting then machine
  else
    { machine with
      ownerRemediated := (removeIf (shouldCleanup machine)).apply machine.ownerRemediated
      ownerRemediatedV1Beta2 := (removeIf (shouldCleanupV1Beta2 machine)).apply machine.ownerRemediatedV1Beta2 }

theorem cleanedUp_name (machine : Machine) : (cleanedUp machine).name = machine.name := by
  unfold cleanedUp
  split_ifs <;> rfl

theorem cleanedUp_not_selected {machine : Machine} (alive : machine.deleting = false)
    (recovered : shouldCleanup machine = true) : (cleanedUp machine).isUnhealthyAndOwnerRemediated = false := by
  simp only [cleanedUp, alive, Bool.false_eq_true, if_false, recovered, removeIf, if_true, ConditionChange.apply,
    Machine.isUnhealthyAndOwnerRemediated, Conditions.isFalse, Option.any_none, Bool.and_false]

end ClusterApi

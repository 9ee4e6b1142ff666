import Mathlib.Data.List.Perm.Subperm
import ClusterApi.MachineHealthCheck.Targets

namespace ClusterApi.MachineHealthCheck

open List

/-!
# Which targets are healthy

The health check of a Machine, its Node and its Cluster at one moment.  Times
and durations are integers, in nanoseconds.  How a duration is printed belongs
to the standard library of the source and is a parameter.
-/

/-- A condition of which the health check also reads the last transition. -/
structure TimedCondition where
  status : ConditionStatus
  lastTransitionTime : Int
  deriving DecidableEq

namespace TimedCondition

def isTrue (condition : Option TimedCondition) : Bool := condition.any fun found => found.status = .isTrue

def getLastTransitionTime (condition : Option TimedCondition) : Option Int :=
  condition.map TimedCondition.lastTransitionTime

end TimedCondition

structure Cluster where
  paused : Bool := false
  controlPlaneInitialized : Option TimedCondition := none
  infrastructureReady : Option TimedCondition := none

/-- A Machine with what the health check reads besides the conditions it writes. -/
structure TargetMachine extends Machine where
  clusterName : String := ""
  /-- The annotation that pauses the Machine. -/
  hasPaused : Bool := false
  hasSkipRemediation : Bool := false
  hasRemediateMachine : Bool := false
  failureReason : Option String := none
  failureMessage : Option String := none
  /-- The name of the Node in `status.nodeRef`. -/
  nodeRef : Option String := none
  isControlPlaneMachine : Bool := false
  infrastructureReady : Option TimedCondition := none
  externallyRemediatedV1Beta2 : Option Condition := none
  deriving DecidableEq

structure NodeCondition where
  type : String
  status : String
  lastTransitionTime : Int
  deriving DecidableEq

structure Node where
  name : String
  conditions : List NodeCondition := []
  deriving DecidableEq

structure UnhealthyCondition where
  type : String
  status : String
  timeout : Int

/-- A Machine under check, with the Machine as the patch helper of the target remembers it. -/
structure HealthCheckTarget where
  original : TargetMachine
  machine : TargetMachine
  node : Option Node := none
  nodeMissing : Bool := false
  deriving DecidableEq

namespace HealthCheckTarget

def name (target : HealthCheckTarget) : String := target.machine.name

/-- Change the Machine in memory. -/
def mark (target : HealthCheckTarget) (change : Machine → Machine) : HealthCheckTarget :=
  { target with machine := { target.machine with toMachine := change target.machine.toMachine } }

end HealthCheckTarget

/-- What `needsRemediation` returns: the outcome it has written to the Machine, or when to look again. -/
inductive Assessment
  | remediate (reason message : String) (v1beta2Condition : Option Condition)
  | passed (nextCheck : Int)

def second : Int := 1000000000

def minDuration : List Int → Int
  | [] => 0
  | first :: rest => rest.foldl min first

def getNodeCondition (node : Node) (conditionType : String) : Option NodeCondition :=
  node.conditions.find? fun condition => condition.type = conditionType

section

variable (durationString : Int → String) (now : Int)

/-- The conditions of the Node that count as unhealthy, with the delays collected so far. -/
def checkConditions (node : Node) : List UnhealthyCondition → List Int → Assessment
  | [], nextCheckTimes => .passed (minDuration nextCheckTimes)
  | condition :: rest, nextCheckTimes =>
    match getNodeCondition node condition.type with
    | none => checkConditions node rest nextCheckTimes
    | some nodeCondition =>
      if nodeCondition.status ≠ condition.status then checkConditions node rest nextCheckTimes
      else if nodeCondition.lastTransitionTime + condition.timeout < now then
        .remediate "UnhealthyNode"
          ("Condition " ++ condition.type ++ " on node is reporting status " ++ condition.status ++
            " for more than " ++ durationString condition.timeout)
          (some
            { status := .isFalse, reason := "UnhealthyNode",
              message := "Condition " ++ condition.type ++ " on Node is reporting status " ++ condition.status ++
                " for more than " ++ durationString condition.timeout })
      else
        let nextCheck := condition.timeout - (now - nodeCondition.lastTransitionTime) + second
        checkConditions node rest (if 0 < nextCheck then nextCheckTimes ++ [nextCheck] else nextCheckTimes)

/-- A time stands in for an earlier one if its condition is true. -/
def laterIfTrue (condition : Option TimedCondition) (comparisonTime : Int) : Int :=
  match TimedCondition.isTrue condition, TimedCondition.getLastTransitionTime condition with
  | true, some time => if comparisonTime < time then time else comparisonTime
  | _, _ => comparisonTime

/-- The moment from which a Machine without a Node is given time to start. -/
def comparisonTime (cluster : Cluster) (machine : TargetMachine) : Int :=
  laterIfTrue machine.infrastructureReady
    (laterIfTrue cluster.infrastructureReady
      (laterIfTrue cluster.controlPlaneInitialized machine.creationTimestamp))

/-- A Machine whose Node has not been seen yet; a timeout of zero disables the check. -/
def checkStartup (cluster : Cluster) (machine : TargetMachine) (timeoutForMachineToHaveNode : Int) : Assessment :=
  if timeoutForMachineToHaveNode = 0 then .passed 0
  else
    let since := comparisonTime cluster machine
    if since + timeoutForMachineToHaveNode < now then
      .remediate "NodeStartupTimeout" ("Node failed to report startup in " ++ durationString timeoutForMachineToHaveNode)
        (some
          { status := .isFalse, reason := "NodeStartupTimeout",
            message := "Node failed to report startup in " ++ durationString timeoutForMachineToHaveNode })
    else .passed (timeoutForMachineToHaveNode - (now - since) + second)

/-- Whether a target needs remediation, and if not after which time to check it again. -/
def needsRemediation (cluster : Cluster) (unhealthyConditions : List UnhealthyCondition)
    (timeoutForMachineToHaveNode : Int) (target : HealthCheckTarget) : Assessment :=
  if target.machine.hasRemediateMachine then
    .remediate "HasRemediateMachineAnnotation" "Marked for remediation via remediate-machine annotation"
      (some
        { status := .isFalse, reason := "HasRemediateAnnotation",
          message := "Marked for remediation via cluster.x-k8s.io/remediate-machine annotation" })
  else
    match target.machine.failureReason, target.machine.failureMessage with
    | some failureReason, _ => .remediate "MachineHasFailure" ("FailureReason: " ++ failureReason) none
    | none, some failureMessage => .remediate "MachineHasFailure" ("FailureMessage: " ++ failureMessage) none
    | none, none =>
      if target.nodeMissing then
        .remediate "NodeNotFound" ""
          (some
            { status := .isFalse, reason := "NodeDeleted",
              message := "Node " ++ target.machine.nodeRef.getD "" ++ " has been deleted" })
      else if !TimedCondition.isTrue cluster.controlPlaneInitialized && !target.machine.isControlPlaneMachine then
        .passed 0
      else if !TimedCondition.isTrue cluster.infrastructureReady then .passed 0
      else
        match target.node with
        | none => checkStartup durationString now cluster target.machine timeoutForMachineToHaveNode
        | some node => checkConditions durationString now node unhealthyConditions []

/-! ## The targets by outcome -/

/-- What `healthCheckTargets` makes of one target. -/
inductive Checked
  | unhealthy (target : HealthCheckTarget)
  | checkedLater (nextCheck : Int)
  | healthy (target : HealthCheckTarget)
  | unreported

variable (cluster : Cluster) (unhealthyConditions : List UnhealthyCondition) (timeoutForMachineToHaveNode : Int)

/-- Machines that are being deleted, and Machines without a Node, are not reported healthy. -/
def checkHealth (target : HealthCheckTarget) : Checked :=
  match needsRemediation durationString now cluster unhealthyConditions timeoutForMachineToHaveNode target with
  | .remediate reason message v1beta2Condition =>
    .unhealthy (target.mark (markUnhealthy reason message v1beta2Condition))
  | .passed nextCheck =>
    if 0 < nextCheck then .checkedLater nextCheck
    else if !target.machine.deleting && target.node.isSome then .healthy (target.mark markHealthy)
    else .unreported

/-- The healthy and the unhealthy targets, and the delays after which others are to be checked again. -/
structure HealthCheck where
  healthy : List HealthCheckTarget
  unhealthy : List HealthCheckTarget
  nextCheckTimes : List Int

def healthCheckTargets : List HealthCheckTarget → HealthCheck
  | [] => ⟨[], [], []⟩
  | target :: rest =>
    let others := healthCheckTargets rest
    match checkHealth durationString now cluster unhealthyConditions timeoutForMachineToHaveNode target with
    | .unhealthy marked => { others with unhealthy := marked :: others.unhealthy }
    | .checkedLater nextCheck => { others with nextCheckTimes := nextCheck :: others.nextCheckTimes }
    | .healthy marked => { others with healthy := marked :: others.healthy }
    | .unreported => others

end

/-! ## What the classification keeps -/

section

variable {durationString : Int → String} {now : Int} {cluster : Cluster} {unhealthyConditions : List UnhealthyCondition}
  {timeoutForMachineToHaveNode : Int} {marked target : HealthCheckTarget}

/-- A marked target is a target with another outcome of its check. -/
def HealthCheckTarget.MarkOf (marked target : HealthCheckTarget) : Prop :=
  marked.name = target.name ∧ marked.original = target.original

theorem checkHealth_unhealthy
    (checked : checkHealth durationString now cluster unhealthyConditions timeoutForMachineToHaveNode target =
      .unhealthy marked) : marked.MarkOf target ∧ Conditions.isFalse marked.machine.healthCheckSucceeded = true := by
  unfold checkHealth at checked
  split at checked
  · cases checked
    exact ⟨⟨rfl, rfl⟩, rfl⟩
  · split_ifs at checked

theorem checkHealth_healthy
    (checked : checkHealth durationString now cluster unhealthyConditions timeoutForMachineToHaveNode target =
      .healthy marked) : marked.MarkOf target ∧ marked.machine.healthCheckSucceeded = some { status := .isTrue } := by
  unfold checkHealth at checked
  split at checked
  · cases checked
  · split_ifs at checked
    cases checked
    exact ⟨⟨rfl, rfl⟩, rfl⟩

theorem healthCheckTargets_subperm (targets : List HealthCheckTarget) :
    let check := healthCheckTargets durationString now cluster unhealthyConditions timeoutForMachineToHaveNode targets
    List.Subperm (check.healthy.map HealthCheckTarget.name ++ check.unhealthy.map HealthCheckTarget.name)
      (targets.map HealthCheckTarget.name) := by
  induction targets with
  | nil => exact List.Subperm.refl _
  | cons _ _ ih =>
    unfold healthCheckTargets
    dsimp only
    split
    case h_1 marked checked =>
      rw [map_cons, map_cons, (checkHealth_unhealthy checked).1.1]
      exact perm_middle.subperm_right.mpr ((subperm_cons _).mpr ih)
    case h_2 => exact ih.cons_right _
    case h_3 marked checked =>
      rw [map_cons, map_cons, (checkHealth_healthy checked).1.1]
      exact (subperm_cons _).mpr ih
    case h_4 => exact ih.cons_right _

theorem mem_healthCheckTargets_healthy {targets : List HealthCheckTarget}
    (inside : marked ∈
      (healthCheckTargets durationString now cluster unhealthyConditions timeoutForMachineToHaveNode targets).healthy) :
    ∃ target ∈ targets,
      checkHealth durationString now cluster unhealthyConditions timeoutForMachineToHaveNode target = .healthy marked := by
  induction targets with
  | nil => cases inside
  | cons target _ ih =>
    unfold healthCheckTargets at inside
    split at inside
    case h_3 first checked =>
      rcases mem_cons.mp inside with rfl | later
      · exact ⟨target, mem_cons_self, checked⟩
      · rcases ih later with ⟨found, member, result⟩
        exact ⟨found, mem_cons_of_mem _ member, result⟩
    all_goals
      rcases ih inside with ⟨found, member, result⟩
      exact ⟨found, mem_cons_of_mem _ member, result⟩

end

end ClusterApi.MachineHealthCheck

import ClusterApi.Foundation.FixedWidth

namespace ClusterApi.MachineDeployment

open Foundation

/-!
# MachineSets of a MachineDeployment

The counts of MachineSets and the limits of a rolling update, as the
MachineDeployment controller computes them.  All counts are 32-bit integers
and wrap around; `spec` and `available` read them as integers.

How a percentage is resolved belongs to the Kubernetes libraries and is a
parameter: a function from a value, the number of replicas it refers to and
the direction of rounding.
-/

inductive IntOrString
  | int (value : Int)
  | text (value : String)
  deriving DecidableEq

/-- `intstr.GetScaledValueFromIntOrPercent`: a number or a percentage, of a total, rounded up or down. -/
abbrev Scaler := Option IntOrString → Int → Bool → Except String Int

inductive StrategyType
  | rollingUpdate
  | onDelete
  | other (name : String)
  deriving DecidableEq

structure Deployment where
  name : String
  replicas : Option Int32
  strategyType : StrategyType
  maxSurge : Option IntOrString := none
  maxUnavailable : Option IntOrString := none
  rolloutAfter : Option Int := none
  revisionHistoryLimit : Option Int32 := none
  ns : String := "default"

/-- What `client.ObjectKeyFromObject` prints. -/
def Deployment.key (deployment : Deployment) : String := deployment.ns ++ "/" ++ deployment.name

structure MachineSet where
  name : String
  creationTimestamp : Int
  replicas : Option Int32
  statusReplicas : Int32 := 0
  availableReplicas : Int32 := 0
  deleting : Bool := false
  ns : String := "default"
  deriving DecidableEq

def MachineSet.key (machineSet : MachineSet) : String := machineSet.ns ++ "/" ++ machineSet.name

/-! ## Counts -/

/-- `*ms.Spec.Replicas` as an integer. -/
def MachineSet.spec (machineSet : MachineSet) : Int := (machineSet.replicas.getD 0).toInt

def MachineSet.status (machineSet : MachineSet) : Int := machineSet.statusReplicas.toInt

def MachineSet.available (machineSet : MachineSet) : Int := machineSet.availableReplicas.toInt

def getReplicaCountForMachineSets (machineSets : List MachineSet) : Int32 :=
  FixedWidth.wrappingSum (machineSets.map fun machineSet => machineSet.replicas.getD 0)

def getAvailableReplicaCountForMachineSets (machineSets : List MachineSet) : Int32 :=
  FixedWidth.wrappingSum (machineSets.map MachineSet.availableReplicas)

def getActualReplicaCountForMachineSets (machineSets : List MachineSet) : Int32 :=
  FixedWidth.wrappingSum (machineSets.map MachineSet.statusReplicas)

/-- The sum of `max(spec.replicas, status.replicas)`: neither a scale up nor a scale down in progress is forgotten. -/
def totalMachineSetsReplicaSum (machineSets : List MachineSet) : Int32 :=
  FixedWidth.wrappingSum (machineSets.map fun machineSet =>
    max (machineSet.replicas.getD 0) machineSet.statusReplicas)

/-! ## Orders -/

/-- By creation timestamp, with the name as a tie breaker. -/
def createdBefore (first second : MachineSet) : Prop :=
  first.creationTimestamp < second.creationTimestamp ∨
    first.creationTimestamp = second.creationTimestamp ∧ first.name ≤ second.name

instance : DecidableRel createdBefore := fun first second =>
  inferInstanceAs (Decidable (first.creationTimestamp < second.creationTimestamp ∨
    first.creationTimestamp = second.creationTimestamp ∧ first.name ≤ second.name))

def sortByCreationTimestamp (machineSets : List MachineSet) : List MachineSet :=
  machineSets.insertionSort createdBefore

/-- Most replicas first, then by creation; MachineSets without replicas come last. -/
def moreReplicas (first second : MachineSet) : Bool :=
  match first.replicas, second.replicas with
  | _, none => true
  | none, some _ => false
  | some firstReplicas, some secondReplicas =>
    if firstReplicas = secondReplicas then createdBefore first second else firstReplicas > secondReplicas

def sortByDecreasingReplicas (machineSets : List MachineSet) : List MachineSet :=
  machineSets.insertionSort fun first second => moreReplicas first second = true

/-! ## The limits of a rolling update -/

variable (scaler : Scaler)

/-- The rule of the Kubernetes libraries, with which the model can be run. -/
def getScaledValue (value : Option IntOrString) (total : Int) (roundUp : Bool) :
    Except String Int :=
  match value with
  | none => .error "nil value for IntOrString"
  | some (.int value) => .ok value
  | some (.text text) =>
    match text.toList.getLast?, (String.ofList text.toList.dropLast).toInt? with
    | some '%', some percentage =>
      .ok (if roundUp then -(-(percentage * total) / 100) else percentage * total / 100)
    | _, _ => .error "invalid value for IntOrString: invalid type: string is not a percentage"

def isRollingUpdate (deployment : Deployment) : Bool := deployment.strategyType = .rollingUpdate

/-- Both limits, with one Machine allowed to be unavailable if both resolve to zero. -/
def resolveFenceposts (maxSurge maxUnavailable : Option IntOrString) (desired : Int32) :
    Except String (Int32 × Int32) :=
  match scaler maxSurge desired.toInt true with
  | .error error => .error error
  | .ok surge =>
    match scaler maxUnavailable desired.toInt false with
    | .error error => .error error
    | .ok unavailable =>
      if surge = 0 ∧ unavailable = 0 then .ok (Int32.ofInt surge, Int32.ofInt 1)
      else .ok (Int32.ofInt surge, Int32.ofInt unavailable)

/-- Errors are left to validation and read as zero.  The result is at most the replicas, also if those are negative. -/
def maxUnavailable (deployment : Deployment) : Int32 :=
  let replicas := deployment.replicas.getD 0
  if !isRollingUpdate deployment || replicas = 0 then 0
  else
    let unavailable :=
      match resolveFenceposts scaler deployment.maxSurge deployment.maxUnavailable replicas with
      | .error _ => 0
      | .ok (_, unavailable) => unavailable
    if unavailable > replicas then replicas else unavailable

def maxSurge (deployment : Deployment) : Int32 :=
  if !isRollingUpdate deployment then 0
  else
    match resolveFenceposts scaler deployment.maxSurge deployment.maxUnavailable
        (deployment.replicas.getD 0) with
    | .error _ => 0
    | .ok (surge, _) => surge

/-- The number of replicas the new MachineSet should have. -/
def newMSNewReplicas (deployment : Deployment) (machineSets : List MachineSet)
    (newMSReplicas : Int32) : Except String Int32 :=
  let replicas := deployment.replicas.getD 0
  match deployment.strategyType with
  | .rollingUpdate =>
    match scaler deployment.maxSurge replicas.toInt true with
    | .error error => .error error
    | .ok surge =>
      let currentMachineCount := totalMachineSetsReplicaSum machineSets
      let maxTotalMachines := replicas + Int32.ofInt surge
      if currentMachineCount ≥ maxTotalMachines then .ok newMSReplicas
      else .ok (newMSReplicas + min (maxTotalMachines - currentMachineCount) (replicas - newMSReplicas))
  | .onDelete =>
    let currentMachineCount := totalMachineSetsReplicaSum machineSets
    if currentMachineCount ≥ replicas then .ok newMSReplicas
    else .ok (newMSReplicas + (replicas - currentMachineCount))
  | .other name => .error ("failed to compute replicas: deployment strategy " ++ name ++ " isn't supported")

/-! ## New and old MachineSets -/

/-- The MachineSet that fulfils the intent of the deployment.  Whether a
template matches is decided elsewhere; after `rolloutAfter` only MachineSets created later count. -/
def findNewMachineSet (templateUpToDate : MachineSet → Bool) (rolloutAfter : Option Int)
    (reconciliationTime : Int) (machineSets : List MachineSet) : Option MachineSet :=
  let matching := (sortByDecreasingReplicas machineSets).filter templateUpToDate
  match rolloutAfter with
  | none => matching.head?
  | some time =>
    if reconciliationTime < time then matching.head?
    else matching.find? fun machineSet => machineSet.creationTimestamp > time

/-- All MachineSets but the new one, in the order in which the search left them. -/
def findOldMachineSets (newMachineSet : Option MachineSet) (machineSets : List MachineSet) : List MachineSet :=
  match newMachineSet with
  | none => sortByDecreasingReplicas machineSets
  | some new => (sortByDecreasingReplicas machineSets).filter fun machineSet => machineSet.name ≠ new.name

end ClusterApi.MachineDeployment

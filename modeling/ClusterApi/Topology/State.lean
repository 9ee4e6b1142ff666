import ClusterApi.Util.Errors
import ClusterApi.Util.Version

namespace ClusterApi.Topology

open Foundation

/-!
# Objects of a managed topology

The part of a Cluster with a managed topology that decides about versions:
the topology itself, the control plane object seen through its contract, and
the MachineDeployments and MachinePools created from the topology.

The two kinds of workers are handled by the source in the same way and share
one type here.  The parser of the semver library is a parameter throughout.
-/

/-! ## The control plane contract -/

/-- The fields of a control plane object that the topology controller reads. -/
structure ControlPlane where
  version : String
  replicas : Option Int := none
  statusVersion : Option String := none
  statusReplicas : Option Int := none
  statusUpdatedReplicas : Option Int := none
  statusReadyReplicas : Option Int := none
  statusUnavailableReplicas : Option Int := none
  deriving DecidableEq

namespace ControlPlane

variable (parseTolerant : VersionReader)

/-- Without a version in status the first control plane Machine is still coming up. -/
def isProvisioning (controlPlane : ControlPlane) : Bool :=
  match controlPlane.statusVersion with
  | none => true
  | some statusVersion => statusVersion = ""

/-- The version in spec is greater than the one in status, or has different build metadata. -/
def isUpgrading (controlPlane : ControlPlane) : Except String Bool :=
  match parseTolerant controlPlane.version with
  | .error error => .error (wrap "failed to parse control plane spec version" error)
  | .ok specVersion =>
    match controlPlane.statusVersion with
    | none => .ok false
    | some statusText =>
      match parseTolerant statusText with
      | .error error => .error (wrap "failed to parse control plane status version" error)
      | .ok statusVersion => .ok (Util.compare specVersion statusVersion Util.withBuildTags ≥ 1)

/-- A missing count in status is read as a scale operation, except for the
unavailable replicas, which default to zero. -/
def isScaling (controlPlane : ControlPlane) : Except String Bool :=
  match controlPlane.replicas with
  | none => .error (wrap "failed to get control plane spec replicas" "path .spec.replicas: field not found")
  | some desiredReplicas =>
    match controlPlane.statusReplicas, controlPlane.statusUpdatedReplicas,
        controlPlane.statusReadyReplicas with
    | some statusReplicas, some updatedReplicas, some readyReplicas =>
      .ok (statusReplicas ≠ desiredReplicas || updatedReplicas ≠ desiredReplicas ||
        readyReplicas ≠ desiredReplicas || controlPlane.statusUnavailableReplicas.getD 0 > 0)
    | _, _, _ => .ok true

end ControlPlane

/-! ## Workers -/

/-- A Machine or a Node that belongs to a worker. -/
structure Instance where
  name : String
  version : Option String
  deriving DecidableEq

/-- A MachineDeployment or a MachinePool of the topology. -/
structure Worker where
  name : String
  topologyName : String
  version : String
  instances : List Instance := []
  deriving DecidableEq

/-- A worker is upgrading while one of its instances runs another version.  An
instance whose version cannot be read is an error. -/
def isWorkerUpgrading (missing : String → String → String) (worker : Worker) : List Instance → Except String Bool
  | [] => .ok false
  | candidate :: rest =>
    match candidate.version with
    | none => .error (missing worker.name candidate.name)
    | some version => if version ≠ worker.version then .ok true else isWorkerUpgrading missing worker rest

def isMachineDeploymentUpgrading (machineDeployment : Worker) : Except String Bool :=
  isWorkerUpgrading (fun worker machine => "failed to check if MachineDeployment " ++ worker ++
    " is upgrading: Machine " ++ machine ++ " has no version") machineDeployment machineDeployment.instances

def isMachinePoolUpgrading (machinePool : Worker) : Except String Bool :=
  isWorkerUpgrading (fun worker node => "failed to check if MachinePool " ++ worker ++
    " is upgrading: failed to get Node " ++ node) machinePool machinePool.instances

/-- The names of the workers that are upgrading. -/
def upgradingNames (isUpgrading : Worker → Except String Bool) (message : String) :
    List Worker → Except String (List String)
  | [] => .ok []
  | worker :: rest =>
    match isUpgrading worker with
    | .error error => .error (wrap message error)
    | .ok upgrading =>
      match upgradingNames isUpgrading message rest with
      | .error error => .error error
      | .ok names => .ok (if upgrading then worker.name :: names else names)

/-! ## The topology -/

/-- One entry of `workers.machineDeployments` or `workers.machinePools`.  Only
the presence of the two annotations matters, not their values. -/
structure WorkerTopology where
  name : String
  deferUpgrade : Bool := false
  holdUpgradeSequence : Bool := false
  deriving DecidableEq

/-- `cluster.spec.topology`, with the upgrade concurrency annotation of the Cluster. -/
structure ClusterTopology where
  version : String
  controlPlaneReplicas : Option Int := none
  machineDeployments : List WorkerTopology := []
  machinePools : List WorkerTopology := []
  upgradeConcurrency : Option Int := none
  deriving DecidableEq

/-- The lifecycle hooks of an upgrade. -/
inductive Hook
  | beforeClusterUpgrade
  | afterControlPlaneUpgrade
  | afterClusterUpgrade
  deriving DecidableEq

/-- What the API server holds for one Cluster. -/
structure ClusterState where
  topology : ClusterTopology
  pendingHooks : List Hook := []
  controlPlane : Option ControlPlane
  machineDeployments : List Worker := []
  machinePools : List Worker := []
  deriving DecidableEq

end ClusterApi.Topology

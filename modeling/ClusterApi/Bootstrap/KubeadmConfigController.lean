import ClusterApi.Bootstrap.KubeadmTypes
import ClusterApi.Foundation.Passes

namespace ClusterApi.Bootstrap

open Foundation Foundation.Pass

/-!
# The kubeadm bootstrap controller

A pass of the controller over one KubeadmConfig.  Its purpose is the Secret
with the bootstrap data, but on the way it completes the spec: what the user
left out is written into the KubeadmConfig, and a deferred patch stores that
even when the pass fails later on.

A call either fails with a text or succeeds, and the few values that come back
are given with it.
-/

/-! ## What a pass reads -/

structure Endpoint where
  host : String := ""
  port : Int := 0

def Endpoint.isValid (endpoint : Endpoint) : Bool := endpoint.host ≠ "" && endpoint.port ≠ 0

/-- `net.JoinHostPort`: a host with a colon stands in brackets. -/
def Endpoint.toText (endpoint : Endpoint) : String :=
  let host := if endpoint.host.toList.contains ':' then "[" ++ endpoint.host ++ "]" else endpoint.host
  host ++ ":" ++ toString endpoint.port

structure ClusterNetwork where
  serviceDomain : String := ""
  services : Option (List String) := none
  pods : Option (List String) := none

structure Cluster where
  name : String
  infrastructureReady : Bool := true
  /-- The condition `ControlPlaneInitialized` is true. -/
  controlPlaneInitialized : Bool := false
  controlPlaneEndpoint : Endpoint := {}
  clusterNetwork : Option ClusterNetwork := none

/-- The Machine or MachinePool that owns a KubeadmConfig. -/
structure ConfigOwner where
  kind : String := "Machine"
  /-- The label that marks the Machines of a control plane. -/
  controlPlaneLabel : Bool := false
  version : Option String := none
  dataSecretName : Option String := none
  hasNodeRefs : Bool := false

def ConfigOwner.isControlPlaneMachine (owner : ConfigOwner) : Bool :=
  owner.kind = "Machine" && owner.controlPlaneLabel

def ConfigOwner.isMachinePool (owner : ConfigOwner) : Bool := owner.kind = "MachinePool"

/-- The calls of a pass that can fail. -/
inductive Call
  | ensureBootstrapSecretOwnersRef
  | convertOwner
  | parseVersion
  | marshalClusterConfiguration
  | marshalInitConfiguration
  | marshalJoinConfiguration
  | lookupCertificates
  | ensureCertificatesExist
  | certificateHashes
  | getClient
  | createToken
  | refreshBootstrapToken
  | shouldRotate
  | resolveFiles
  | resolveUsers
  | resolveDiscoveryKubeConfig
  | generateData
  | createSecret

structure Answers where
  /-- The error of a call, if it fails. -/
  failure : Call → Option String := fun _ => none
  lockAcquired : Bool := true
  hashes : Slice String := none
  /-- The certificate of the cluster CA, if it was found. -/
  clusterCA : Option (List UInt8) := none
  token : String := ""
  shouldRotate : Bool := false

def Answers.succeeds (answers : Answers) (call : Call) : Bool := (answers.failure call).isNone

/-! ## What a pass works on -/

structure KubeadmConfigStatus where
  ready : Bool := false
  dataSecretName : Option String := none
  deriving DecidableEq

structure KubeadmConfig where
  name : String
  spec : KubeadmConfigSpec := {}
  status : KubeadmConfigStatus := {}
  deriving DecidableEq

/-- How a pass ends before its last statement. -/
inductive Stop
  | requeueAfter (seconds : Nat)
  | failed (text : String)

abbrev ConfigPass := Pass KubeadmConfig Stop PUnit

def Answers.ask (answers : Answers) (call : Call) : ConfigPass :=
  stopIf (fun _ => !answers.succeeds call) (.failed ((answers.failure call).getD ""))

def updateSpec (change : KubeadmConfigSpec → KubeadmConfigSpec) : ConfigPass :=
  update fun config => { config with spec := change config.spec }

def updateJoin (change : JoinConfiguration → JoinConfiguration) : ConfigPass :=
  updateSpec fun spec => { spec with joinConfiguration := spec.joinConfiguration.map change }

def updateDiscovery (change : Discovery → Discovery) : ConfigPass :=
  updateJoin fun join => { join with discovery := change join.discovery }

def KubeadmConfig.discovery (config : KubeadmConfig) : Discovery :=
  (config.spec.joinConfiguration.getD {}).discovery

/-! ## Discovery -/

/-- The token discovery, created where it is missing. -/
def updateBootstrapToken (change : BootstrapTokenDiscovery → BootstrapTokenDiscovery) : ConfigPass :=
  updateDiscovery fun discovery =>
    { discovery with bootstrapToken := some (change (discovery.bootstrapToken.getD {})) }

def KubeadmConfig.bootstrapToken (config : KubeadmConfig) : BootstrapTokenDiscovery :=
  config.discovery.bootstrapToken.getD {}

def KubeadmConfig.discoveryKubeConfig (config : KubeadmConfig) : Option FileDiscoveryKubeConfig :=
  config.discovery.file.bind FileDiscovery.kubeConfig

/-- The cluster of the discovery file, created where it is missing. -/
def updateKubeConfigCluster (change : KubeConfigCluster → KubeConfigCluster) : ConfigPass :=
  updateDiscovery fun discovery =>
    { discovery with
      file := discovery.file.map fun file => { file with
        kubeConfig := file.kubeConfig.map fun kubeConfig => { kubeConfig with
          cluster := some (change (kubeConfig.cluster.getD {})) } } }

def KubeadmConfig.kubeConfigCluster (config : KubeadmConfig) : KubeConfigCluster :=
  (config.discoveryKubeConfig.bind FileDiscoveryKubeConfig.cluster).getD {}

def Slice.isEmpty {α : Type} (slice : Slice α) : Bool := (slice.getD []).isEmpty

def reconcileDiscoveryFile (cluster : Cluster) (answers : Answers) : ConfigPass :=
  branch (fun config => config.discoveryKubeConfig.isNone) (pure ()) do
    updateKubeConfigCluster id
    branch (fun config => config.kubeConfigCluster.server = "")
      (do
        stopIf (fun _ => !cluster.controlPlaneEndpoint.isValid) (.requeueAfter 10)
        updateKubeConfigCluster fun found => { found with server := "https://" ++ cluster.controlPlaneEndpoint.toText })
      (pure ())
    branch (fun config => Slice.isEmpty config.kubeConfigCluster.certificateAuthorityData)
      (do
        stopIf (fun _ => answers.clusterCA.isNone) (.failed "failed to retrieve Cluster CA")
        updateKubeConfigCluster fun found => { found with certificateAuthorityData := answers.clusterCA })
      (pure ())

/-- Ensure that a node can discover the cluster it joins. -/
def reconcileDiscovery (cluster : Cluster) (answers : Answers) : ConfigPass :=
  branch (fun config => config.discovery.file.isSome) (reconcileDiscoveryFile cluster answers) do
    updateBootstrapToken id
    branch (fun config => Slice.isEmpty config.bootstrapToken.caCertHashes)
      (do
        answers.ask .certificateHashes
        updateBootstrapToken fun found => { found with caCertHashes := answers.hashes })
      (pure ())
    branch (fun config => config.bootstrapToken.apiServerEndpoint = "")
      (do
        stopIf (fun _ => !cluster.controlPlaneEndpoint.isValid) (.requeueAfter 10)
        updateBootstrapToken fun found => { found with apiServerEndpoint := cluster.controlPlaneEndpoint.toText })
      (pure ())
    branch (fun config => config.bootstrapToken.token = "")
      (do
        answers.ask .getClient
        answers.ask .createToken
        updateBootstrapToken fun found => { found with token := answers.token })
      (pure ())
    branch (fun config => Slice.isEmpty config.bootstrapToken.caCertHashes)
      (updateBootstrapToken fun found => { found with unsafeSkipCAVerification := true })
      (pure ())

/-! ## The first node of a control plane -/

/-- Values of the Cluster and the Machine for what a ClusterConfiguration leaves open. -/
def topLevelObjectSettings (cluster : Cluster) (owner : ConfigOwner)
    (found : ClusterConfiguration) : ClusterConfiguration :=
  let found := if found.controlPlaneEndpoint = "" && cluster.controlPlaneEndpoint.isValid then
    { found with controlPlaneEndpoint := cluster.controlPlaneEndpoint.toText } else found
  let found := if found.clusterName = "" then { found with clusterName := cluster.name } else found
  let found := match cluster.clusterNetwork with
    | none => found
    | some network =>
      let found := if found.networking.dnsDomain = "" && network.serviceDomain ≠ "" then
        { found with networking := { found.networking with dnsDomain := network.serviceDomain } } else found
      let found := if found.networking.serviceSubnet = "" && !Slice.isEmpty network.services then
        { found with networking := { found.networking with
          serviceSubnet := ",".intercalate (network.services.getD []) } } else found
      if found.networking.podSubnet = "" && !Slice.isEmpty network.pods then
        { found with networking := { found.networking with
          podSubnet := ",".intercalate (network.pods.getD []) } } else found
  match owner.version with
  | none => found
  | some version => if found.kubernetesVersion = "" then { found with kubernetesVersion := version } else found

def reconcileTopLevelObjectSettings (cluster : Cluster) (owner : ConfigOwner) : ConfigPass :=
  updateSpec fun spec =>
    { spec with clusterConfiguration := spec.clusterConfiguration.map (topLevelObjectSettings cluster owner) }

def emptyClusterConfiguration : ClusterConfiguration :=
  { typeMeta := { apiVersion := "kubeadm.k8s.io/v1beta4", kind := "ClusterConfiguration" } }

def emptyInitConfiguration : InitConfiguration :=
  { typeMeta := { apiVersion := "kubeadm.k8s.io/v1beta4", kind := "InitConfiguration" } }

def storeBootstrapData (answers : Answers) : ConfigPass := do
  answers.ask .createSecret
  update fun config => { config with status := { ready := true, dataSecretName := some config.name } }

/-- The end of an init: the data is put together and stored. -/
def generateInitData (answers : Answers) : ConfigPass := do
  answers.ask .marshalInitConfiguration
  answers.ask .lookupCertificates
  answers.ask .resolveFiles
  answers.ask .resolveUsers
  answers.ask .generateData
  storeBootstrapData answers

def handleClusterNotInitialized (cluster : Cluster) (owner : ConfigOwner) (answers : Answers) : ConfigPass := do
  stopIf (fun _ => !owner.isControlPlaneMachine) (.requeueAfter 30)
  stopIf (fun config => config.spec.initConfiguration.isNone && config.spec.clusterConfiguration.isNone)
    (.requeueAfter 30)
  answers.ask .convertOwner
  -- Only the first Machine that is configured as control plane gets the lock.
  stopIf (fun _ => !answers.lockAcquired) (.requeueAfter 30)
  answers.ask .parseVersion
  updateSpec fun spec =>
    { spec with clusterConfiguration := some (spec.clusterConfiguration.getD emptyClusterConfiguration) }
  reconcileTopLevelObjectSettings cluster owner
  answers.ask .marshalClusterConfiguration
  updateSpec fun spec => { spec with initConfiguration := some (spec.initConfiguration.getD emptyInitConfiguration) }
  generateInitData answers

/-! ## The nodes that join -/

/-- The end of every join: the data is put together and stored. -/
def generateJoinData (answers : Answers) : ConfigPass := do
  answers.ask .resolveFiles
  answers.ask .resolveUsers
  branch (fun config => config.discoveryKubeConfig.isSome) (answers.ask .resolveDiscoveryKubeConfig) (pure ())
  answers.ask .generateData
  storeBootstrapData answers

def joinWorker (cluster : Cluster) (answers : Answers) : ConfigPass := do
  answers.ask .lookupCertificates
  answers.ask .ensureCertificatesExist
  reconcileDiscovery cluster answers
  answers.ask .parseVersion
  answers.ask .marshalJoinConfiguration
  stopIf (fun config => (config.spec.joinConfiguration.getD {}).controlPlane.isSome)
    (.failed "Machine is a Worker, but JoinConfiguration.ControlPlane is set in the KubeadmConfig object")
  generateJoinData answers

def joinControlplane (cluster : Cluster) (owner : ConfigOwner) (answers : Answers) : ConfigPass := do
  stopIf (fun _ => !owner.isControlPlaneMachine)
    (.failed (owner.kind ++ " is not a valid control plane kind, only Machine is supported"))
  updateJoin fun join => { join with controlPlane := some (join.controlPlane.getD {}) }
  answers.ask .lookupCertificates
  answers.ask .ensureCertificatesExist
  reconcileDiscovery cluster answers
  answers.ask .parseVersion
  answers.ask .marshalJoinConfiguration
  generateJoinData answers

def rotateMachinePoolBootstrapToken (cluster : Cluster) (answers : Answers) : ConfigPass := do
  answers.ask .getClient
  answers.ask .shouldRotate
  branch (fun _ => answers.shouldRotate)
    (do
      answers.ask .createToken
      updateBootstrapToken fun found => { found with token := answers.token }
      joinWorker cluster answers)
    (pure ())

/-! ## A pass -/

/-- The data has been generated; what is left is the token of a node that has not joined yet. -/
def reconcileReady (cluster : Cluster) (owner : ConfigOwner) (answers : Answers) : ConfigPass :=
  branch (fun config => config.discovery.bootstrapToken.isSome)
    (branch (fun _ => !owner.hasNodeRefs) (answers.ask .refreshBootstrapToken)
      (branch (fun _ => owner.isMachinePool) (rotateMachinePoolBootstrapToken cluster answers) (pure ())))
    (pure ())

/-- The Machine has its data already, but the status does not say so. -/
def statusOutdated (owner : ConfigOwner) (config : KubeadmConfig) : Bool :=
  owner.dataSecretName.isSome && (!config.status.ready || config.status.dataSecretName.isNone)

/-- The join scenario; a missing JoinConfiguration is created first. -/
def join (cluster : Cluster) (owner : ConfigOwner) (answers : Answers) : ConfigPass := do
  updateSpec fun spec => { spec with joinConfiguration := some (spec.joinConfiguration.getD {}) }
  branch (fun _ => owner.isControlPlaneMachine) (joinControlplane cluster owner answers) (joinWorker cluster answers)

def reconcile (cluster : Cluster) (owner : ConfigOwner) (answers : Answers) : ConfigPass := do
  answers.ask .ensureBootstrapSecretOwnersRef
  branch (fun _ => !cluster.infrastructureReady) (pure ()) <|
    branch (statusOutdated owner)
      (update fun config => { config with status := { ready := true, dataSecretName := owner.dataSecretName } }) <|
    branch (fun config => config.status.ready) (reconcileReady cluster owner answers) <|
    branch (fun _ => !cluster.controlPlaneInitialized)
      (handleClusterNotInitialized cluster owner answers) (join cluster owner answers)

/-! ## What a pass writes

The comparison of a KubeadmConfig with the control plane that created it looks
neither at its ClusterConfiguration nor at the discovery of its
JoinConfiguration.  On the rest, the effect of a pass is computed exactly.
-/

def JoinConfiguration.withoutDiscovery (join : JoinConfiguration) : JoinConfiguration := { join with discovery := {} }

/-- The part of a spec that is compared. -/
def KubeadmConfigSpec.compared (spec : KubeadmConfigSpec) : KubeadmConfigSpec :=
  { spec with
    clusterConfiguration := none
    joinConfiguration := spec.joinConfiguration.map JoinConfiguration.withoutDiscovery }

/-- What `joinControlplane` makes of a JoinConfiguration, discovery aside. -/
def JoinConfiguration.completed (join : JoinConfiguration) : JoinConfiguration :=
  { join with discovery := {}, controlPlane := some (join.controlPlane.getD {}) }

abbrev comparedSpec (config : KubeadmConfig) : KubeadmConfigSpec := config.spec.compared

section Frames

variable {answers : Answers} {cluster : Cluster} {owner : ConfigOwner}

@[simp]
theorem final_ask_bind (call : Call) (rest : ConfigPass) (start : KubeadmConfig) :
    final (do answers.ask call; rest) start = if answers.succeeds call then final rest start else start := by
  rw [Answers.ask]
  cases answers.succeeds call with
  | false | true => rfl

theorem leaves_ask {call : Call} : Leaves comparedSpec (answers.ask call) := leaves_stopIf

theorem leaves_updateDiscovery {change : Discovery → Discovery} : Leaves comparedSpec (updateDiscovery change) := by
  apply leaves_update
  intro _
  simp only [KubeadmConfigSpec.compared, Option.map_map]
  rfl

theorem leaves_storeBootstrapData : Leaves comparedSpec (storeBootstrapData answers) :=
  leaves_ask.bind (leaves_update fun _ => rfl)

theorem leaves_generateInitData : Leaves comparedSpec (generateInitData answers) :=
  leaves_ask.bind <| leaves_ask.bind <| leaves_ask.bind <| leaves_ask.bind <| leaves_ask.bind
    leaves_storeBootstrapData

theorem leaves_generateJoinData : Leaves comparedSpec (generateJoinData answers) :=
  leaves_ask.bind <| leaves_ask.bind <| (leaves_ask.branch leaves_pure).bind <| leaves_ask.bind
    leaves_storeBootstrapData

theorem leaves_reconcileDiscoveryFile : Leaves comparedSpec (reconcileDiscoveryFile cluster answers) :=
  leaves_pure.branch <| leaves_updateDiscovery.bind <|
    ((leaves_stopIf.bind leaves_updateDiscovery).branch leaves_pure).bind <|
    (leaves_stopIf.bind leaves_updateDiscovery).branch leaves_pure

theorem leaves_reconcileDiscovery : Leaves comparedSpec (reconcileDiscovery cluster answers) :=
  leaves_reconcileDiscoveryFile.branch <| leaves_updateDiscovery.bind <|
    ((leaves_ask.bind leaves_updateDiscovery).branch leaves_pure).bind <|
    ((leaves_stopIf.bind leaves_updateDiscovery).branch leaves_pure).bind <|
    ((leaves_ask.bind <| leaves_ask.bind leaves_updateDiscovery).branch leaves_pure).bind <|
    leaves_updateDiscovery.branch leaves_pure

theorem leaves_joinWorker : Leaves comparedSpec (joinWorker cluster answers) :=
  leaves_ask.bind <| leaves_ask.bind <| leaves_reconcileDiscovery.bind <| leaves_ask.bind <| leaves_ask.bind <|
    leaves_stopIf.bind leaves_generateJoinData

theorem leaves_reconcileReady : Leaves comparedSpec (reconcileReady cluster owner answers) :=
  have rotated : Leaves comparedSpec (rotateMachinePoolBootstrapToken cluster answers) :=
    leaves_ask.bind <| leaves_ask.bind <|
      (leaves_ask.bind <| leaves_updateDiscovery.bind leaves_joinWorker).branch leaves_pure
  (leaves_ask.branch (rotated.branch leaves_pure)).branch leaves_pure

end Frames

section Effects

variable (cluster : Cluster) (owner : ConfigOwner) (answers : Answers) (config : KubeadmConfig)

/-- The pass goes on to generate bootstrap data. -/
def attempts : Bool :=
  answers.succeeds .ensureBootstrapSecretOwnersRef && cluster.infrastructureReady && !statusOutdated owner config &&
    !config.status.ready

/-- The pass gets as far as the InitConfiguration. -/
def initializes : Bool :=
  attempts cluster owner answers config && !cluster.controlPlaneInitialized &&
    (config.spec.initConfiguration.isSome || config.spec.clusterConfiguration.isSome) &&
    answers.succeeds .convertOwner && answers.lockAcquired && answers.succeeds .parseVersion &&
    answers.succeeds .marshalClusterConfiguration

/-- The pass lets the node join. -/
def joins : Bool := attempts cluster owner answers config && cluster.controlPlaneInitialized

variable {owner}

variable (controlPlane : owner.isControlPlaneMachine = true)
include controlPlane

theorem compared_join :
    comparedSpec (final (join cluster owner answers) config) =
      { comparedSpec config with
        joinConfiguration := some (config.spec.joinConfiguration.getD {}).completed } := by
  have rest : Leaves comparedSpec (do
      answers.ask .lookupCertificates
      answers.ask .ensureCertificatesExist
      reconcileDiscovery cluster answers
      answers.ask .parseVersion
      answers.ask .marshalJoinConfiguration
      generateJoinData answers) :=
    leaves_ask.bind <| leaves_ask.bind <| leaves_reconcileDiscovery.bind <| leaves_ask.bind <| leaves_ask.bind
      leaves_generateJoinData
  simp only [join, joinControlplane, controlPlane]
  exact rest _

theorem compared_handleClusterNotInitialized :
    comparedSpec (final (handleClusterNotInitialized cluster owner answers) config) =
      if (config.spec.initConfiguration.isSome || config.spec.clusterConfiguration.isSome) &&
          answers.succeeds .convertOwner && answers.lockAcquired && answers.succeeds .parseVersion &&
          answers.succeeds .marshalClusterConfiguration then
        { comparedSpec config with
          initConfiguration := some (config.spec.initConfiguration.getD emptyInitConfiguration) }
      else comparedSpec config := by
  simp only [handleClusterNotInitialized, reconcileTopLevelObjectSettings, updateSpec,
    final_update_bind, final_stopIf_bind, final_ask_bind,
    apply_ite comparedSpec, leaves_generateInitData _]
  have unconfigured : (config.spec.initConfiguration.isNone && config.spec.clusterConfiguration.isNone) =
      !(config.spec.initConfiguration.isSome || config.spec.clusterConfiguration.isSome) := by
    rw [Bool.not_or, Option.not_isSome, Option.not_isSome]
  -- Each guard either ends the pass with the spec as it was or lets it go on.
  split_ifs <;> simp_all [comparedSpec, KubeadmConfigSpec.compared]

theorem compared_reconcile :
    comparedSpec (final (reconcile cluster owner answers) config) =
      if initializes cluster owner answers config then
        { comparedSpec config with
          initConfiguration := some (config.spec.initConfiguration.getD emptyInitConfiguration) }
      else if joins cluster owner answers config then
        { comparedSpec config with
          joinConfiguration := some (config.spec.joinConfiguration.getD {}).completed }
      else comparedSpec config := by
  simp only [reconcile, final_ask_bind, final_branch, apply_ite comparedSpec,
    compared_handleClusterNotInitialized cluster answers config controlPlane,
    compared_join cluster answers config controlPlane, leaves_reconcileReady config, initializes, joins, attempts]
  split_ifs <;> simp_all

end Effects

end ClusterApi.Bootstrap

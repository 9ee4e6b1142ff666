import ClusterApi.Bootstrap.KubeadmValidation
import ClusterApi.Foundation.MergePatch
import ClusterApi.MachineDeployment.Util
import ClusterApi.Util.Version

namespace ClusterApi.ControlPlane.Webhook

open Foundation Bootstrap Util
open MachineDeployment (IntOrString)

/-!
# The webhook of the KubeadmControlPlane

Defaulting and validation of a KubeadmControlPlane.  The merge patch from the
old object to the new one may touch allowed paths only; and some pairs of
values are compared.

Objects are written to JSON field by field, as their tags ask for: a field
marked `omitempty` is left out when it is nil, empty or zero, while a struct is
never left out.  Sections of the spec in which every change is allowed or
forbidden as a whole are encoded by a parameter, and so is everything the
webhook calls in other libraries.
-/

/-! ## The object -/

structure Metadata where
  name : String
  namespaceName : String
  annotations : Dictionary String := none
  deriving DecidableEq

structure ObjectMeta where
  labels : Dictionary String := none
  annotations : Dictionary String := none
  deriving DecidableEq

structure ObjectReference where
  kind : String := ""
  namespaceName : String := ""
  name : String := ""
  uid : String := ""
  apiVersion : String := ""
  resourceVersion : String := ""
  fieldPath : String := ""
  deriving DecidableEq

structure MachineTemplate where
  objectMeta : ObjectMeta := {}
  infrastructureRef : ObjectReference := {}
  nodeDrainTimeout : Option Int := none
  nodeVolumeDetachTimeout : Option Int := none
  nodeDeletionTimeout : Option Int := none
  deriving DecidableEq

structure RolloutBefore where
  certificatesExpiryDays : Option Int32 := none
  deriving DecidableEq

structure RollingUpdate where
  maxSurge : Option IntOrString := none
  deriving DecidableEq

structure RolloutStrategy where
  type : String := ""
  rollingUpdate : Option RollingUpdate := none
  deriving DecidableEq

structure RemediationStrategy where
  maxRetry : Option Int32 := none
  retryPeriod : Int := 0
  minHealthyPeriod : Option Int := none
  deriving DecidableEq

structure MachineNamingStrategy where
  template : String := ""
  deriving DecidableEq

structure KubeadmControlPlaneSpec where
  replicas : Option Int32 := none
  version : String := ""
  machineTemplate : MachineTemplate := {}
  kubeadmConfigSpec : KubeadmConfigSpec := {}
  rolloutBefore : Option RolloutBefore := none
  rolloutAfter : Option Int := none
  rolloutStrategy : Option RolloutStrategy := none
  remediationStrategy : Option RemediationStrategy := none
  machineNamingStrategy : Option MachineNamingStrategy := none
  deriving DecidableEq

/-- A KubeadmControlPlane; the status is kept as it is written. -/
structure KubeadmControlPlane where
  metadata : Metadata
  spec : KubeadmControlPlaneSpec := {}
  status : Fields := .nil
  deriving DecidableEq

/-- `ControlPlane.IsEtcdManaged`. -/
def isEtcdManaged (kcp : KubeadmControlPlane) : Bool :=
  match kcp.spec.kubeadmConfigSpec.clusterConfiguration with
  | none => true
  | some clusterConfiguration => clusterConfiguration.etcd.external.isNone

/-! ## What the webhook takes from elsewhere -/

/-- How sections that are not looked into are written. -/
structure Encoders where
  time : Int → Json
  duration : Int → Json
  intOrString : IntOrString → Json
  extraVolumes : List HostPathMount → Json
  extraEnvs : List EnvVar → Json
  initConfiguration : InitConfiguration → Json
  joinConfiguration : JoinConfiguration → Json
  files : List File → Json
  diskSetup : DiskSetup → Json
  mounts : List (Slice String) → Json
  users : List User → Json
  ntp : NTP → Json
  ignition : Option ContainerLinuxConfig → Json

structure Library where
  encoders : Encoders
  validateLabels : Dictionary String → String → List ValidationError
  validateAnnotations : Dictionary String → String → List ValidationError
  /-- The name made from a template for the object `kubeadmcontrolplane` of the cluster `cluster`. -/
  generateName : String → Except String String
  isDNS1123Subdomain : String → List String
  intValue : IntOrString → Int
  /-- Why CoreDNS cannot be migrated from one version to another. -/
  validUpMigration : String → String → Option String
  ignitionEnabled : Bool

/-! ## Defaulting -/

def rollingUpdateStrategyType : String := "RollingUpdate"

def defaultRolloutStrategy (rolloutStrategy : Option RolloutStrategy) : RolloutStrategy :=
  let strategy := rolloutStrategy.getD {}
  let strategy := if strategy.type = "" then { strategy with type := rollingUpdateStrategyType } else strategy
  if strategy.type = rollingUpdateStrategyType then
    let rollingUpdate := strategy.rollingUpdate.getD {}
    { strategy with rollingUpdate := some { rollingUpdate with maxSurge := some (rollingUpdate.maxSurge.getD (.int 1)) } }
  else strategy

def defaultKubeadmControlPlaneSpec (spec : KubeadmControlPlaneSpec) (namespaceName : String) : KubeadmControlPlaneSpec :=
  let reference := spec.machineTemplate.infrastructureRef
  { spec with
    replicas := some (spec.replicas.getD 1)
    machineTemplate := { spec.machineTemplate with
      infrastructureRef :=
        if reference.namespaceName = "" then { reference with namespaceName } else reference }
    version := if spec.version.toList.head? = some 'v' then spec.version else "v" ++ spec.version
    kubeadmConfigSpec := spec.kubeadmConfigSpec.default
    rolloutStrategy := some (defaultRolloutStrategy spec.rolloutStrategy) }

def default (kcp : KubeadmControlPlane) : KubeadmControlPlane :=
  { kcp with spec := defaultKubeadmControlPlaneSpec kcp.spec kcp.metadata.namespaceName }

/-! ## JSON -/

def string (text : String) : Json := .scalar (quote text)

/-- A text with `omitempty`. -/
def string? (text : String) : Option Json := if text = "" then none else some (string text)

def strings (texts : List String) : Json := .scalar ("[" ++ ",".intercalate (texts.map quote) ++ "]")

/-- A slice with `omitempty`. -/
def slice? {α : Type} (encode : List α → Json) (slice : Slice α) : Option Json :=
  match slice with
  | none => none
  | some [] => none
  | some items => some (encode items)

def sortedKeys {α : Type} (map : Finmap fun _ : String => α) : List String := map.keys.sort (· ≤ ·)

/-- A map with `omitempty`, written with sorted keys. -/
def dictionary? {α : Type} (encode : α → Json) (dictionary : Dictionary α) : Option Json :=
  match dictionary with
  | none => none
  | some map =>
    match sortedKeys map with
    | [] => none
    | keys => some (.object (.ofList (keys.map fun key => (key, (map.lookup key).map encode))))

def bool (value : Bool) : Json := .scalar (toString value)

def integer (value : Int) : Json := .scalar (toString value)

section Encoding

variable (encoders : Encoders)

def imageMetaFields (image : ImageMeta) : List (String × Option Json) :=
  [("imageRepository", string? image.imageRepository), ("imageTag", string? image.imageTag)]

def componentFields (component : ControlPlaneComponent) : List (String × Option Json) :=
  [("extraArgs", dictionary? string component.extraArgs),
    ("extraVolumes", slice? encoders.extraVolumes component.extraVolumes),
    ("extraEnvs", slice? encoders.extraEnvs component.extraEnvs)]

def localEtcd (etcd : LocalEtcd) : Json :=
  .object (.ofList (imageMetaFields etcd.toImageMeta ++
    [("dataDir", string? etcd.dataDir), ("extraArgs", dictionary? string etcd.extraArgs),
      ("extraEnvs", slice? encoders.extraEnvs etcd.extraEnvs), ("serverCertSANs", slice? strings etcd.serverCertSANs),
      ("peerCertSANs", slice? strings etcd.peerCertSANs)]))

/-- No field of an external etcd may be left out. -/
def externalEtcd (etcd : ExternalEtcd) : Json :=
  .object (.ofList
    [("endpoints", some (match etcd.endpoints with | none => .scalar "null" | some endpoints => strings endpoints)),
      ("caFile", some (string etcd.caFile)), ("certFile", some (string etcd.certFile)),
      ("keyFile", some (string etcd.keyFile))])

def etcdFields (etcd : Etcd) : List (String × Option Json) :=
  [("local", etcd.localEtcd.map (localEtcd encoders)), ("external", etcd.external.map externalEtcd)]

def clusterConfigurationFields (configuration : ClusterConfiguration) : List (String × Option Json) :=
  [("kind", string? configuration.typeMeta.kind), ("apiVersion", string? configuration.typeMeta.apiVersion)] ++
  ("etcd", some (.object (.ofList (etcdFields encoders configuration.etcd)))) ::
  [("networking", some (.object (.ofList
      [("serviceSubnet", string? configuration.networking.serviceSubnet),
        ("podSubnet", string? configuration.networking.podSubnet),
        ("dnsDomain", string? configuration.networking.dnsDomain)]))),
    ("kubernetesVersion", string? configuration.kubernetesVersion),
    ("controlPlaneEndpoint", string? configuration.controlPlaneEndpoint),
    ("apiServer", some (.object (.ofList (componentFields encoders configuration.apiServer.toControlPlaneComponent ++
      [("certSANs", slice? strings configuration.apiServer.certSANs),
        ("timeoutForControlPlane", configuration.apiServer.timeoutForControlPlane.map encoders.duration)])))),
    ("controllerManager", some (.object (.ofList (componentFields encoders configuration.controllerManager)))),
    ("scheduler", some (.object (.ofList (componentFields encoders configuration.scheduler)))),
    ("dns", some (.object (.ofList (imageMetaFields configuration.dns)))),
    ("certificatesDir", string? configuration.certificatesDir),
    ("imageRepository", string? configuration.imageRepository),
    ("featureGates", dictionary? bool configuration.featureGates),
    ("clusterName", string? configuration.clusterName)]

def clusterConfiguration (configuration : ClusterConfiguration) : Json :=
  .object (.ofList (clusterConfigurationFields encoders configuration))

/-- The fields of a KubeadmConfigSpec behind the ClusterConfiguration. -/
def otherConfigFields (spec : KubeadmConfigSpec) : List (String × Option Json) :=
  [("initConfiguration", spec.initConfiguration.map encoders.initConfiguration),
    ("joinConfiguration", spec.joinConfiguration.map encoders.joinConfiguration),
    ("files", slice? encoders.files spec.files), ("diskSetup", spec.diskSetup.map encoders.diskSetup),
    ("mounts", slice? encoders.mounts spec.mounts),
    ("preKubeadmCommands", slice? strings spec.preKubeadmCommands),
    ("postKubeadmCommands", slice? strings spec.postKubeadmCommands), ("users", slice? encoders.users spec.users),
    ("ntp", spec.ntp.map encoders.ntp), ("format", string? spec.format), ("verbosity", spec.verbosity.map integer),
    ("useExperimentalRetryJoin", if spec.useExperimentalRetryJoin then some (bool true) else none),
    ("ignition", spec.ignition.map encoders.ignition)]

def kubeadmConfigSpecFields (spec : KubeadmConfigSpec) : List (String × Option Json) :=
  ("clusterConfiguration", spec.clusterConfiguration.map (clusterConfiguration encoders)) ::
    otherConfigFields encoders spec

def objectMetaFields (objectMeta : ObjectMeta) : List (String × Option Json) :=
  [("labels", dictionary? string objectMeta.labels), ("annotations", dictionary? string objectMeta.annotations)]

def objectReferenceFields (reference : ObjectReference) : List (String × Option Json) :=
  [("kind", string? reference.kind), ("namespace", string? reference.namespaceName), ("name", string? reference.name),
    ("uid", string? reference.uid), ("apiVersion", string? reference.apiVersion),
    ("resourceVersion", string? reference.resourceVersion), ("fieldPath", string? reference.fieldPath)]

def machineTemplateFields (template : MachineTemplate) : List (String × Option Json) :=
  [("metadata", some (.object (.ofList (objectMetaFields template.objectMeta)))),
    ("infrastructureRef", some (.object (.ofList (objectReferenceFields template.infrastructureRef)))),
    ("nodeDrainTimeout", template.nodeDrainTimeout.map encoders.duration),
    ("nodeVolumeDetachTimeout", template.nodeVolumeDetachTimeout.map encoders.duration),
    ("nodeDeletionTimeout", template.nodeDeletionTimeout.map encoders.duration)]

def rolloutStrategyFields (strategy : RolloutStrategy) : List (String × Option Json) :=
  [("type", string? strategy.type),
    ("rollingUpdate", strategy.rollingUpdate.map fun rollingUpdate =>
      .object (.ofList [("maxSurge", rollingUpdate.maxSurge.map encoders.intOrString)]))]

def remediationStrategyFields (strategy : RemediationStrategy) : List (String × Option Json) :=
  [("maxRetry", strategy.maxRetry.map fun maxRetry => integer maxRetry.toInt),
    ("retryPeriod", some (encoders.duration strategy.retryPeriod)),
    ("minHealthyPeriod", strategy.minHealthyPeriod.map encoders.duration)]

/-- The fields of a spec in front of and behind the KubeadmConfigSpec. -/
def specFieldsBefore (spec : KubeadmControlPlaneSpec) : List (String × Option Json) :=
  [("replicas", spec.replicas.map fun replicas => integer replicas.toInt), ("version", some (string spec.version)),
    ("machineTemplate", some (.object (.ofList (machineTemplateFields encoders spec.machineTemplate))))]

def specFieldsBehind (spec : KubeadmControlPlaneSpec) : List (String × Option Json) :=
  [("rolloutBefore", spec.rolloutBefore.map fun rolloutBefore =>
      .object (.ofList [("certificatesExpiryDays", rolloutBefore.certificatesExpiryDays.map fun days =>
        integer days.toInt)])),
    ("rolloutAfter", spec.rolloutAfter.map encoders.time),
    ("rolloutStrategy", spec.rolloutStrategy.map fun strategy =>
      .object (.ofList (rolloutStrategyFields encoders strategy))),
    ("remediationStrategy", spec.remediationStrategy.map fun strategy =>
      .object (.ofList (remediationStrategyFields encoders strategy))),
    ("machineNamingStrategy", spec.machineNamingStrategy.map fun strategy =>
      .object (.ofList [("template", string? strategy.template)]))]

def specFields (spec : KubeadmControlPlaneSpec) : List (String × Option Json) :=
  specFieldsBefore encoders spec ++
    ("kubeadmConfigSpec", some (.object (.ofList (kubeadmConfigSpecFields encoders spec.kubeadmConfigSpec)))) ::
    specFieldsBehind encoders spec

def metadataFields (metadata : Metadata) : List (String × Option Json) :=
  [("name", string? metadata.name), ("namespace", string? metadata.namespaceName),
    ("annotations", dictionary? string metadata.annotations)]

def kubeadmControlPlaneFields (kcp : KubeadmControlPlane) : List (String × Option Json) :=
  [("metadata", some (.object (.ofList (metadataFields kcp.metadata))))] ++
    ("spec", some (.object (.ofList (specFields encoders kcp.spec)))) ::
    [("status", some (.object kcp.status))]

def toJson (kcp : KubeadmControlPlane) : Fields := .ofList (kubeadmControlPlaneFields encoders kcp)

end Encoding

/-! ## Allowed changes -/

def allowedInClusterConfiguration : List (List String) :=
  [["etcd", "local", "imageRepository"], ["etcd", "local", "imageTag"], ["etcd", "local", "extraArgs"],
    ["etcd", "local", "extraArgs", "*"], ["etcd", "local", "dataDir"], ["etcd", "local", "peerCertSANs"],
    ["etcd", "local", "serverCertSANs"], ["etcd", "external", "endpoints"], ["etcd", "external", "caFile"],
    ["etcd", "external", "certFile"], ["etcd", "external", "keyFile"], ["dns", "imageRepository"],
    ["dns", "imageTag"], ["imageRepository"], ["featureGates"], ["featureGates", "*"], ["apiServer"],
    ["apiServer", "*"], ["controllerManager"], ["controllerManager", "*"], ["scheduler"], ["scheduler", "*"]].map
    (["spec", "kubeadmConfigSpec", "clusterConfiguration"] ++ ·)

def allowedInInitConfiguration : List (List String) :=
  [["nodeRegistration"], ["nodeRegistration", "*"], ["patches", "directory"], ["patches"], ["skipPhases"],
    ["bootstrapTokens"], ["localAPIEndpoint"], ["localAPIEndpoint", "*"]].map
    (["spec", "kubeadmConfigSpec", "initConfiguration"] ++ ·)

def allowedInJoinConfiguration : List (List String) :=
  [["nodeRegistration"], ["nodeRegistration", "*"], ["patches", "directory"], ["patches"], ["skipPhases"],
    ["caCertPath"], ["controlPlane"], ["controlPlane", "*"], ["discovery"], ["discovery", "*"]].map
    (["spec", "kubeadmConfigSpec", "joinConfiguration"] ++ ·)

def allowedInKubeadmConfigSpec : List (List String) :=
  [["preKubeadmCommands"], ["postKubeadmCommands"], ["files"], ["verbosity"], ["users"], ["ntp"], ["ntp", "*"],
    ["ignition"], ["ignition", "*"], ["diskSetup"], ["diskSetup", "*"], ["format"], ["mounts"],
    ["useExperimentalRetryJoin"]].map
    (["spec", "kubeadmConfigSpec"] ++ ·)

def allowedInMachineTemplate : List (List String) :=
  [["metadata"], ["metadata", "*"], ["infrastructureRef", "apiVersion"], ["infrastructureRef", "name"],
    ["infrastructureRef", "kind"], ["nodeDrainTimeout"], ["nodeVolumeDetachTimeout"], ["nodeDeletionTimeout"]].map
    (["spec", "machineTemplate"] ++ ·)

def allowedInSpec : List (List String) :=
  [["replicas"], ["version"], ["remediationStrategy"], ["remediationStrategy", "*"], ["machineNamingStrategy"],
    ["machineNamingStrategy", "*"], ["rolloutAfter"], ["rolloutBefore"], ["rolloutBefore", "*"], ["rolloutStrategy"],
    ["rolloutStrategy", "*"]].map
    (["spec"] ++ ·)

/-- The paths that may change.  A `*` allows everything beneath. -/
def allowedPaths : List (List String) :=
  [["metadata", "*"]] ++ allowedInClusterConfiguration ++ allowedInInitConfiguration ++ allowedInJoinConfiguration ++
    allowedInKubeadmConfigSpec ++ allowedInMachineTemplate ++ allowedInSpec

/-- The loop over a path: it has to end where the allowed path ends, unless a `*` comes first. -/
def pathsMatch : List String → List String → Bool
  | [], _ => false
  | _, [] => false
  | "*" :: _, _ :: _ => true
  | step :: behind, found :: rest =>
    if found ≠ step then false
    else
      match rest with
      | [] => behind.isEmpty
      | _ :: _ => pathsMatch behind rest

def allowed (path : List String) : Bool := allowedPaths.any fun candidate => pathsMatch candidate path

def forbiddenChanges (encoders : Encoders) (oldK newK : KubeadmControlPlane) : List ValidationError :=
  ((Fields.mergePatch (toJson encoders oldK) (toJson encoders newK)).paths []).filterMap fun path =>
    if path = [] ∨ allowed path then none else some ⟨.forbidden, ".".intercalate path, "cannot be modified"⟩

/-! ## Validation -/

def specPath : String := "spec"

def clusterConfigurationPath : String := "spec.kubeadmConfigSpec.clusterConfiguration"

def minimumCertificatesExpiryDays : Int := 7

def validateRolloutBefore (rolloutBefore : Option RolloutBefore) (path : String) : List ValidationError :=
  match rolloutBefore.bind RolloutBefore.certificatesExpiryDays with
  | none => []
  | some days =>
    if days.toInt < minimumCertificatesExpiryDays then
      [⟨.invalid, path ++ ".certificatesExpiryDays",
        "must be greater than or equal to " ++ toString minimumCertificatesExpiryDays⟩]
    else []

section Validation

variable (library : Library)

/-- A strategy without `maxSurge` is dereferenced all the same; the request then fails. -/
def validateRolloutStrategy (rolloutStrategy : Option RolloutStrategy) (replicas : Option Int32)
    (path : String) : List ValidationError :=
  match rolloutStrategy with
  | none => []
  | some strategy =>
    (if strategy.type ≠ rollingUpdateStrategyType then
      [⟨.required, path ++ ".type", "only RollingUpdateStrategyType is supported"⟩]
    else []) ++
    match strategy.rollingUpdate.bind RollingUpdate.maxSurge with
    | none => [⟨.internal, path ++ ".rollingUpdate", "invalid memory address or nil pointer dereference"⟩]
    | some maxSurge =>
      (if library.intValue maxSurge = 0 ∧ replicas.any fun count => count < 3 then
        [⟨.required, path ++ ".rollingUpdate",
          "when KubeadmControlPlane is configured to scale-in, replica count needs to be at least 3"⟩]
      else []) ++
      if library.intValue maxSurge ≠ 1 ∧ library.intValue maxSurge ≠ 0 then
        [⟨.required, path ++ ".rollingUpdate.maxSurge", "value must be 1 or 0"⟩]
      else []

def randomPlaceholder : String := "\x7b\x7b .random \x7d\x7d"

def containsText (text part : String) : Bool := text.toList.tails.any part.toList.isPrefixOf

def validateNamingStrategy (strategy : MachineNamingStrategy) (path : String) : List ValidationError :=
  if strategy.template = "" then []
  else if !containsText strategy.template randomPlaceholder then
    [⟨.invalid, path ++ ".template", "invalid template, " ++ randomPlaceholder ++ " is missing"⟩]
  else
    match library.generateName strategy.template with
    | .error error => [⟨.invalid, path ++ ".template", "invalid template: " ++ error⟩]
    | .ok name => (library.isDNS1123Subdomain name).map fun error =>
      ⟨.invalid, path ++ ".template",
        "invalid template, generated names would not be valid Kubernetes object names: " ++ error⟩

def externalEtcdConfigured (spec : KubeadmControlPlaneSpec) : Bool :=
  spec.kubeadmConfigSpec.clusterConfiguration.any fun configuration => configuration.etcd.external.isSome

def validateReplicas (spec : KubeadmControlPlaneSpec) : List ValidationError :=
  let path := specPath ++ ".replicas"
  (match spec.replicas with
    | none => [⟨.required, path, "is required"⟩]
    | some replicas => if replicas ≤ 0 then [⟨.forbidden, path, "cannot be less than or equal to 0"⟩] else []) ++
  if !externalEtcdConfigured spec ∧ spec.replicas.any fun replicas => replicas.toInt.tmod 2 = 0 then
    [⟨.forbidden, path, "cannot be an even number when etcd is stacked"⟩]
  else []

def validateInfrastructureRef (reference : ObjectReference) (namespaceName : String) : List ValidationError :=
  let path := specPath ++ ".machineTemplate.infrastructure"
  (if reference.apiVersion = "" then [⟨.invalid, path ++ ".apiVersion", "cannot be empty"⟩] else []) ++
  (if reference.kind = "" then [⟨.invalid, path ++ ".kind", "cannot be empty"⟩] else []) ++
  (if reference.name = "" then [⟨.invalid, path ++ ".name", "cannot be empty"⟩] else []) ++
  if reference.namespaceName ≠ namespaceName then
    [⟨.invalid, path ++ ".namespace", "must match metadata.namespace"⟩]
  else []

def validateObjectMeta (objectMeta : ObjectMeta) (path : String) : List ValidationError :=
  library.validateLabels objectMeta.labels (path ++ ".labels") ++
    library.validateAnnotations objectMeta.annotations (path ++ ".annotations")

def validateKubeadmControlPlaneSpec (spec : KubeadmControlPlaneSpec) (namespaceName : String) : List ValidationError :=
  validateReplicas spec ++ validateInfrastructureRef spec.machineTemplate.infrastructureRef namespaceName ++
  validateObjectMeta library spec.machineTemplate.objectMeta (specPath ++ ".machineTemplate.metadata") ++
  (if !kubeSemver spec.version then [⟨.invalid, specPath ++ ".version", "must be a valid semantic version"⟩] else []) ++
  validateRolloutBefore spec.rolloutBefore (specPath ++ ".rolloutBefore") ++
  validateRolloutStrategy library spec.rolloutStrategy spec.replicas (specPath ++ ".rolloutStrategy") ++
  match spec.machineNamingStrategy with
  | none => []
  | some strategy => validateNamingStrategy library strategy (specPath ++ ".machineNamingStrategy")

/-- `container.ImageTagIsValid`: only characters that a tag may have. -/
def imageTagIsValid (tag : String) : Bool :=
  tag.toList.all fun character => character.isAlphanum || "-_.".toList.contains character

/-- The sections are compared only where both objects have a ClusterConfiguration. -/
def validateClusterConfiguration (oldConfiguration newConfiguration : Option ClusterConfiguration) :
    List ValidationError :=
  match newConfiguration with
  | none => []
  | some new =>
    let path := clusterConfigurationPath
    (if !imageTagIsValid new.dns.imageTag then
      [⟨.forbidden, path ++ ".dns.imageTag", "tag " ++ new.dns.imageTag ++ " is invalid"⟩]
    else []) ++
    (if new.dns.imageTag = "" then []
    else
      match parseMajorMinorPatchTolerant new.dns.imageTag with
      | .error error => [⟨.invalid, "dns.imageTag", "failed to parse CoreDNS version: " ++ error⟩]
      | .ok _ => []) ++
    (match new.etcd.localEtcd with
      | none => []
      | some etcd =>
        if !imageTagIsValid etcd.imageTag then
          [⟨.forbidden, path ++ ".etcd.local.imageTag", "tag " ++ etcd.imageTag ++ " is invalid"⟩]
        else []) ++
    (if new.etcd.localEtcd.isSome ∧ new.etcd.external.isSome then
      [⟨.forbidden, path ++ ".etcd.local", "cannot have both external and local etcd"⟩]
    else []) ++
    match oldConfiguration with
    | none => []
    | some old =>
      (if new.etcd.external.isSome ∧ old.etcd.localEtcd.isSome then
        [⟨.forbidden, path ++ ".etcd.external", "cannot change between external and local etcd"⟩]
      else []) ++
      if new.etcd.localEtcd.isSome ∧ old.etcd.external.isSome then
        [⟨.forbidden, path ++ ".etcd.local", "cannot change between external and local etcd"⟩]
      else []

def skipCoreDNSAnnotation : String := "controlplane.cluster.x-k8s.io/skip-coredns"

def coreDNSPath : String := clusterConfigurationPath ++ ".dns.imageTag"

def validateCoreDNSVersion (oldK newK : KubeadmControlPlane) : List ValidationError :=
  match newK.spec.kubeadmConfigSpec.clusterConfiguration, oldK.spec.kubeadmConfigSpec.clusterConfiguration with
  | some new, some old =>
    if new.dns.imageTag = "" ∨ old.dns.imageTag = "" then []
    else
      match parseMajorMinorPatchTolerant old.dns.imageTag with
      | .error error => [⟨.invalid, coreDNSPath, "failed to parse current CoreDNS version: " ++ error⟩]
      | .ok fromVersion =>
        match parseMajorMinorPatchTolerant new.dns.imageTag with
        | .error error => [⟨.invalid, coreDNSPath, "failed to parse target CoreDNS version: " ++ error⟩]
        | .ok toVersion =>
          if toVersion.compare fromVersion = 0 then []
          else if newK.metadata.annotations.any fun annotations =>
              (annotations.lookup skipCoreDNSAnnotation).isSome then []
          else
            match library.validUpMigration fromVersion.toText toVersion.toText with
            | none => []
            | some error => [⟨.forbidden, coreDNSPath, "cannot migrate CoreDNS up to '" ++ toVersion.toText ++
                "' from '" ++ fromVersion.toText ++ "': " ++ error⟩]
  | _, _ => []

def oldDefaultImageRepository : String := "k8s.gcr.io"

def defaultImageRepository : String := "registry.k8s.io"

/-- The default registry of a version of kubeadm. -/
def getDefaultRegistry (version : Version) : String :=
  if version ≤ .release 1 22 16 then oldDefaultImageRepository
  else if .release 1 22 17 ≤ version ∧ version < .release 1 23 0 then defaultImageRepository
  else if .release 1 23 0 ≤ version ∧ version ≤ .release 1 23 14 then oldDefaultImageRepository
  else if .release 1 23 15 ≤ version ∧ version < .release 1 24 0 then defaultImageRepository
  else if .release 1 24 0 ≤ version ∧ version ≤ .release 1 24 8 then oldDefaultImageRepository
  else defaultImageRepository

/-- The expression of `ParseMajorMinorPatch` requires the `v`; its groups are those of the tolerant one. -/
def parseMajorMinorPatch (text : String) : Except String Version :=
  if kubeSemver text then parseMajorMinorPatchTolerant text
  else .error ("failed to parse major.minor.patch from " ++ quote text)

def versionPath : String := specPath ++ ".version"

def usesDefaultRegistry (kcp : KubeadmControlPlane) : Bool :=
  match kcp.spec.kubeadmConfigSpec.clusterConfiguration with
  | none => true
  | some configuration => configuration.imageRepository = ""

def validateVersion (oldK newK : KubeadmControlPlane) : List ValidationError :=
  match parseMajorMinorPatch oldK.spec.version with
  | .error error => [⟨.internal, versionPath,
      wrap ("failed to parse current kubeadmcontrolplane version: " ++ oldK.spec.version) error⟩]
  | .ok fromVersion =>
    match parseMajorMinorPatch newK.spec.version with
    | .error error => [⟨.internal, versionPath,
        wrap ("failed to parse updated kubeadmcontrolplane version: " ++ newK.spec.version) error⟩]
    | .ok toVersion =>
      if fromVersion.compare toVersion ≠ 0 ∧ toVersion.compare (.release 1 19 0) = 0 then
        [⟨.forbidden, versionPath, "cannot update Kubernetes version to v1.19.0, for more information see " ++
          "https://github.com/kubernetes-sigs/cluster-api/issues/3564"⟩]
      else
        (if .release fromVersion.major (fromVersion.minor + 2) 0 ≤ toVersion then
          [⟨.forbidden, versionPath, "cannot update Kubernetes version from " ++ oldK.spec.version ++ " to " ++
            newK.spec.version⟩]
        else []) ++
        if usesDefaultRegistry newK ∧ toVersion.compare fromVersion ≠ 0 ∧ .release 1 22 0 ≤ toVersion ∧
            toVersion < .release 1 26 0 ∧ getDefaultRegistry toVersion = oldDefaultImageRepository then
          [⟨.forbidden, versionPath, "cannot upgrade to a Kubernetes/kubeadm version which is using the old " ++
            "default registry. Please use a newer Kubernetes patch release which is using the new default " ++
            "registry (>= v1.22.17, >= v1.23.15, >= v1.24.9)"⟩]
        else []

def validateCreate (kcp : KubeadmControlPlane) : List ValidationError :=
  validateKubeadmControlPlaneSpec library kcp.spec kcp.metadata.namespaceName ++
    validateClusterConfiguration none kcp.spec.kubeadmConfigSpec.clusterConfiguration ++
    kcp.spec.kubeadmConfigSpec.validate library.ignitionEnabled (specPath ++ ".kubeadmConfigSpec")

def validateUpdate (oldK newK : KubeadmControlPlane) : List ValidationError :=
  validateKubeadmControlPlaneSpec library newK.spec newK.metadata.namespaceName ++
    forbiddenChanges library.encoders oldK newK ++ validateVersion oldK newK ++
    validateClusterConfiguration oldK.spec.kubeadmConfigSpec.clusterConfiguration
      newK.spec.kubeadmConfigSpec.clusterConfiguration ++
    validateCoreDNSVersion library oldK newK ++
    newK.spec.kubeadmConfigSpec.validate library.ignitionEnabled (specPath ++ ".kubeadmConfigSpec")

/-- The object that is stored by a create. -/
def create (kcp : KubeadmControlPlane) : Option KubeadmControlPlane :=
  if validateCreate library (default kcp) = [] then some (default kcp) else none

/-- The object that is stored by an update. -/
def update (stored requested : KubeadmControlPlane) : Option KubeadmControlPlane :=
  if validateUpdate library stored (default requested) = [] then some (default requested) else none

end Validation

end ClusterApi.ControlPlane.Webhook

import Mathlib.Data.Finmap
import Mathlib.Data.String.Basic

namespace ClusterApi.Bootstrap

/-!
# The types of the kubeadm bootstrap provider

A KubeadmConfigSpec with the three configurations of kubeadm in it.  Every
field has its zero value as default, so `{}` is the empty value of a type.
A slice or a map that is nil differs from an empty one, as it does where two
specs are compared; a time is an instant, a duration a number of nanoseconds.
-/

/-- A nil slice is `none`. -/
abbrev Slice (α : Type) := Option (List α)

/-- A nil map is `none`. -/
abbrev Dictionary (α : Type) := Option (Finmap fun _ : String => α)

structure TypeMeta where
  apiVersion : String := ""
  kind : String := ""
  deriving DecidableEq

structure Taint where
  key : String := ""
  value : String := ""
  effect : String := ""
  timeAdded : Option Int := none
  deriving DecidableEq

structure NodeRegistrationOptions where
  name : String := ""
  criSocket : String := ""
  taints : Slice Taint := none
  kubeletExtraArgs : Dictionary String := none
  ignorePreflightErrors : Slice String := none
  imagePullPolicy : String := ""
  imagePullSerial : Option Bool := none
  deriving DecidableEq

structure APIEndpoint where
  advertiseAddress : String := ""
  bindPort : Int := 0
  deriving DecidableEq

structure Patches where
  directory : String := ""
  deriving DecidableEq

/-! ## Init -/

structure BootstrapTokenString where
  id : String := ""
  secret : String := ""
  deriving DecidableEq

structure BootstrapToken where
  token : Option BootstrapTokenString := none
  description : String := ""
  ttl : Option Int := none
  expires : Option Int := none
  usages : Slice String := none
  groups : Slice String := none
  deriving DecidableEq

structure InitConfiguration where
  typeMeta : TypeMeta := {}
  bootstrapTokens : Slice BootstrapToken := none
  nodeRegistration : NodeRegistrationOptions := {}
  localAPIEndpoint : APIEndpoint := {}
  skipPhases : Slice String := none
  patches : Option Patches := none
  deriving DecidableEq

/-! ## The cluster -/

structure ImageMeta where
  imageRepository : String := ""
  imageTag : String := ""
  deriving DecidableEq

/-- The source of a value is kept by its text. -/
structure EnvVar where
  name : String := ""
  value : String := ""
  valueFrom : Option String := none
  deriving DecidableEq

structure HostPathMount where
  name : String := ""
  hostPath : String := ""
  mountPath : String := ""
  readOnly : Bool := false
  pathType : String := ""
  deriving DecidableEq

structure ControlPlaneComponent where
  extraArgs : Dictionary String := none
  extraVolumes : Slice HostPathMount := none
  extraEnvs : Slice EnvVar := none
  deriving DecidableEq

structure APIServer extends ControlPlaneComponent where
  certSANs : Slice String := none
  timeoutForControlPlane : Option Int := none
  deriving DecidableEq

structure LocalEtcd extends ImageMeta where
  dataDir : String := ""
  extraArgs : Dictionary String := none
  extraEnvs : Slice EnvVar := none
  serverCertSANs : Slice String := none
  peerCertSANs : Slice String := none
  deriving DecidableEq

structure ExternalEtcd where
  endpoints : Slice String := none
  caFile : String := ""
  certFile : String := ""
  keyFile : String := ""
  deriving DecidableEq

structure Etcd where
  localEtcd : Option LocalEtcd := none
  external : Option ExternalEtcd := none
  deriving DecidableEq

structure Networking where
  serviceSubnet : String := ""
  podSubnet : String := ""
  dnsDomain : String := ""
  deriving DecidableEq

structure ClusterConfiguration where
  typeMeta : TypeMeta := {}
  etcd : Etcd := {}
  networking : Networking := {}
  kubernetesVersion : String := ""
  controlPlaneEndpoint : String := ""
  apiServer : APIServer := {}
  controllerManager : ControlPlaneComponent := {}
  scheduler : ControlPlaneComponent := {}
  dns : ImageMeta := {}
  certificatesDir : String := ""
  imageRepository : String := ""
  featureGates : Dictionary Bool := none
  clusterName : String := ""
  deriving DecidableEq

/-! ## Join -/

structure BootstrapTokenDiscovery where
  token : String := ""
  apiServerEndpoint : String := ""
  caCertHashes : Slice String := none
  unsafeSkipCAVerification : Bool := false
  deriving DecidableEq

structure KubeConfigCluster where
  server : String := ""
  tlsServerName : String := ""
  insecureSkipTLSVerify : Bool := false
  certificateAuthorityData : Slice UInt8 := none
  proxyURL : String := ""
  deriving DecidableEq

structure KubeConfigAuthProvider where
  name : String := ""
  config : Dictionary String := none
  deriving DecidableEq

structure KubeConfigAuthExec where
  command : String := ""
  args : Slice String := none
  /-- Names with their values. -/
  env : Slice (String × String) := none
  apiVersion : String := ""
  provideClusterInfo : Bool := false
  deriving DecidableEq

structure KubeConfigUser where
  authProvider : Option KubeConfigAuthProvider := none
  exec : Option KubeConfigAuthExec := none
  deriving DecidableEq

structure FileDiscoveryKubeConfig where
  cluster : Option KubeConfigCluster := none
  user : KubeConfigUser := {}
  deriving DecidableEq

structure FileDiscovery where
  kubeConfigPath : String := ""
  kubeConfig : Option FileDiscoveryKubeConfig := none
  deriving DecidableEq

structure Discovery where
  bootstrapToken : Option BootstrapTokenDiscovery := none
  file : Option FileDiscovery := none
  tlsBootstrapToken : String := ""
  timeout : Option Int := none
  deriving DecidableEq

structure JoinControlPlane where
  localAPIEndpoint : APIEndpoint := {}
  deriving DecidableEq

structure JoinConfiguration where
  typeMeta : TypeMeta := {}
  nodeRegistration : NodeRegistrationOptions := {}
  caCertPath : String := ""
  discovery : Discovery := {}
  controlPlane : Option JoinControlPlane := none
  skipPhases : Slice String := none
  patches : Option Patches := none
  deriving DecidableEq

/-! ## Files, disks and users -/

/-- A key of a Secret. -/
structure SecretKey where
  name : String := ""
  key : String := ""
  deriving DecidableEq

structure File where
  path : String := ""
  owner : String := ""
  permissions : String := ""
  encoding : String := ""
  append : Bool := false
  content : String := ""
  contentFrom : Option SecretKey := none
  deriving DecidableEq

structure Partition where
  device : String := ""
  layout : Bool := false
  overwrite : Option Bool := none
  tableType : Option String := none
  deriving DecidableEq

structure Filesystem where
  device : String := ""
  filesystem : String := ""
  label : String := ""
  partition : Option String := none
  overwrite : Option Bool := none
  replaceFS : Option String := none
  extraOpts : Slice String := none
  deriving DecidableEq

structure DiskSetup where
  partitions : Slice Partition := none
  filesystems : Slice Filesystem := none
  deriving DecidableEq

structure User where
  name : String := ""
  gecos : Option String := none
  groups : Option String := none
  homeDir : Option String := none
  inactive : Option Bool := none
  shell : Option String := none
  passwd : Option String := none
  passwdFrom : Option SecretKey := none
  primaryGroup : Option String := none
  lockPassword : Option Bool := none
  sudoRule : Option String := none
  sshAuthorizedKeys : Slice String := none
  deriving DecidableEq

structure NTP where
  servers : Slice String := none
  enabled : Option Bool := none
  deriving DecidableEq

structure ContainerLinuxConfig where
  additionalConfig : String := ""
  strict : Bool := false
  deriving DecidableEq

/-! ## The spec -/

structure KubeadmConfigSpec where
  clusterConfiguration : Option ClusterConfiguration := none
  initConfiguration : Option InitConfiguration := none
  joinConfiguration : Option JoinConfiguration := none
  files : Slice File := none
  diskSetup : Option DiskSetup := none
  mounts : Slice (Slice String) := none
  preKubeadmCommands : Slice String := none
  postKubeadmCommands : Slice String := none
  users : Slice User := none
  ntp : Option NTP := none
  format : String := ""
  verbosity : Option Int := none
  useExperimentalRetryJoin : Bool := false
  /-- The only field of an IgnitionSpec. -/
  ignition : Option (Option ContainerLinuxConfig) := none
  deriving DecidableEq

def NodeRegistrationOptions.default (options : NodeRegistrationOptions) : NodeRegistrationOptions :=
  if options.imagePullPolicy = "" then { options with imagePullPolicy := "IfNotPresent" } else options

def KubeConfigAuthExec.default (exec : KubeConfigAuthExec) : KubeConfigAuthExec :=
  if exec.apiVersion = "" then { exec with apiVersion := "client.authentication.k8s.io/v1" } else exec

def Discovery.default (discovery : Discovery) : Discovery :=
  { discovery with
    file := discovery.file.map fun file => { file with
      kubeConfig := file.kubeConfig.map fun kubeConfig => { kubeConfig with
        user := { kubeConfig.user with exec := kubeConfig.user.exec.map KubeConfigAuthExec.default } } } }

def InitConfiguration.default (init : InitConfiguration) : InitConfiguration :=
  { init with nodeRegistration := init.nodeRegistration.default }

def JoinConfiguration.default (join : JoinConfiguration) : JoinConfiguration :=
  { join with nodeRegistration := join.nodeRegistration.default, discovery := join.discovery.default }

namespace KubeadmConfigSpec

/-- `KubeadmConfigSpec.Default`. -/
def default (spec : KubeadmConfigSpec) : KubeadmConfigSpec :=
  { spec with
    format := if spec.format = "" then "cloud-config" else spec.format
    initConfiguration := spec.initConfiguration.map InitConfiguration.default
    joinConfiguration := spec.joinConfiguration.map JoinConfiguration.default }

/-- What is left of a spec without the configurations of kubeadm. -/
def others (spec : KubeadmConfigSpec) : KubeadmConfigSpec :=
  { spec with clusterConfiguration := none, initConfiguration := none, joinConfiguration := none }

end KubeadmConfigSpec

/-! ## Defaulting a second time changes nothing -/

@[simp]
theorem NodeRegistrationOptions.default_default (options : NodeRegistrationOptions) :
    options.default.default = options.default := by
  by_cases unset : options.imagePullPolicy = ""
  · simp [default, unset]
  · simp [default, unset]

theorem NodeRegistrationOptions.default_ne_empty (options : NodeRegistrationOptions) : options.default ≠ {} := by
  intro empty
  have policy : options.default.imagePullPolicy = "" := by rw [empty]
  by_cases unset : options.imagePullPolicy = ""
  · simp [default, unset] at policy
  · simp [default, unset] at policy

@[simp]
theorem InitConfiguration.default_default (init : InitConfiguration) : init.default.default = init.default := by
  simp [default]

end ClusterApi.Bootstrap

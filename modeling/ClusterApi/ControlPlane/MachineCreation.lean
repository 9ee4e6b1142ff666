import ClusterApi.Bootstrap.KubeadmConfigController
import ClusterApi.ControlPlane.Machines
import ClusterApi.Util.Errors
import ClusterApi.Util.Version

namespace ClusterApi.ControlPlane

open Foundation Bootstrap

/-!
# Creation of control plane Machines

The KubeadmControlPlane creates the first Machine to initialize the cluster and
every further one to join it.  Both get a KubeadmConfig cut from the spec of
the control plane, a clone of the infrastructure template, and an annotation
with the ClusterConfiguration that was in force, modelled by what it decodes
to.
-/

/-- The value of the annotation with a ClusterConfiguration. -/
inductive ConfigurationRecord
  | encoded (configuration : Option ClusterConfiguration)
  | undecodable
  deriving DecidableEq

structure ObjectReference where
  apiVersion : String := ""
  kind : String := ""
  name : String := ""
  deriving DecidableEq

/-- `GroupVersionKind().GroupKind().String()`; a malformed version has no group. -/
def ObjectReference.groupKind (reference : ObjectReference) : String :=
  match reference.apiVersion.toList.splitOn '/' with
  | [group, _] => if group.isEmpty then reference.kind else reference.kind ++ "." ++ String.ofList group
  | _ => reference.kind

/-- Annotations that the controllers give a meaning to, as a user may put them on a template. -/
structure TemplateAnnotations where
  clusterConfiguration : Option ConfigurationRecord := none
  remediationFor : Option RemediationRecord := none

structure RolloutBefore where
  certificatesExpiryDays : Option Int := none

structure KubeadmControlPlaneSpec where
  version : String
  kubeadmConfigSpec : KubeadmConfigSpec := {}
  infrastructureRef : ObjectReference := {}
  templateAnnotations : TemplateAnnotations := {}
  /-- The template of `machineNamingStrategy`; empty if there is none. -/
  nameTemplate : String := ""
  rolloutBefore : Option RolloutBefore := none
  rolloutAfter : Option Int := none

structure OwnedMachine extends KcpMachine where
  version : Option String := none
  failureDomain : Option String := none
  /-- The label that marks the Machines of a control plane. -/
  controlPlaneLabel : Bool := false
  clusterConfiguration : Option ConfigurationRecord := none
  configRef : Option ObjectReference := none
  infrastructureRef : ObjectReference := {}
  certificatesExpiryDate : Option Int := none
  deriving DecidableEq

structure InfraMachine where
  reference : ObjectReference
  clonedFromName : Option String := none
  clonedFromGroupKind : Option String := none
  deriving DecidableEq

/-- A Machine with the objects that were created for it. -/
structure ProvisionedMachine where
  machine : OwnedMachine
  infraMachine : InfraMachine
  kubeadmConfig : KubeadmConfig
  deriving DecidableEq

/-! ## The bootstrap configuration -/

def controlPlaneKubeletLocalMode : String := "ControlPlaneKubeletLocalMode"

def minKubernetesVersionControlPlaneKubeletLocalMode : Version := Version.release 1 31 0

def enableKubeletLocalMode (configuration : ClusterConfiguration) : ClusterConfiguration :=
  let gates := configuration.featureGates.getD ∅
  { configuration with
    featureGates := some (if (gates.lookup controlPlaneKubeletLocalMode).isSome then gates
      else gates.insert controlPlaneKubeletLocalMode true) }

def defaultFeatureGates (spec : KubeadmConfigSpec) (version : Version) : KubeadmConfigSpec :=
  if version.compare minKubernetesVersionControlPlaneKubeletLocalMode = -1 then spec
  else { spec with clusterConfiguration := some (enableKubeletLocalMode (spec.clusterConfiguration.getD {})) }

def initialControlPlaneConfig (kcp : KubeadmControlPlaneSpec) : KubeadmConfigSpec :=
  { kcp.kubeadmConfigSpec with joinConfiguration := none }

/-- The ClusterConfiguration is kept: it tells the bootstrap provider whether etcd is external. -/
def joinControlPlaneConfig (kcp : KubeadmControlPlaneSpec) : KubeadmConfigSpec :=
  { kcp.kubeadmConfigSpec with initConfiguration := none }

/-! ## The Machine -/

/-- What a creation depends on besides the spec. -/
structure CreationAnswers where
  preflightChecks : Except String PUnit := .ok ()
  failureDomain : Except String (Option String) := .ok none
  generateName : String → Except String String
  creationTimestamp : Int
  remediationInProgress : Option RemediationRecord := none
  /-- The clone of the template before its annotations are set, once it is created. -/
  createFromTemplate : String → Except String InfraMachine
  createKubeadmConfig : Except String PUnit := .ok ()
  createMachine : Except String PUnit := .ok ()

def defaultNameTemplate : String := "\x7b\x7b .kubeadmControlPlane.name \x7d\x7d-\x7b\x7b .random \x7d\x7d"

def randomPlaceholder : String := "\x7b\x7b .random \x7d\x7d"

/-- The desired state of a new Machine, or of an existing one.  What the
controller does not apply to an existing Machine keeps its value. -/
def computeDesiredMachine (kcp : KubeadmControlPlaneSpec) (answers : CreationAnswers)
    (failureDomain : Option String) : Option OwnedMachine → Except String OwnedMachine
  | none =>
    if kcp.nameTemplate ≠ "" ∧ ¬ randomPlaceholder.toList <:+: kcp.nameTemplate.toList then
      .error ("cannot generate KCP machine name: " ++ randomPlaceholder ++
        " is missing in machineNamingStrategy.template")
    else
      match answers.generateName (if kcp.nameTemplate ≠ "" then kcp.nameTemplate else defaultNameTemplate) with
      | .error error => .error (wrap "failed to generate name for KCP Machine" error)
      | .ok name => .ok
          { name, creationTimestamp := answers.creationTimestamp, version := some kcp.version, failureDomain,
            controlPlaneLabel := true
            clusterConfiguration := some (.encoded kcp.kubeadmConfigSpec.clusterConfiguration)
            remediationFor := answers.remediationInProgress <|> kcp.templateAnnotations.remediationFor }
  | some existing => .ok
      { existing with
        failureDomain, controlPlaneLabel := true
        clusterConfiguration := existing.clusterConfiguration <|> kcp.templateAnnotations.clusterConfiguration
        remediationFor := existing.remediationFor <|> kcp.templateAnnotations.remediationFor }

/-- The clone remembers its template, whatever annotations came along. -/
def generateTemplate (templateRef : ObjectReference) (clone : InfraMachine) : InfraMachine :=
  { clone with clonedFromName := some templateRef.name, clonedFromGroupKind := some templateRef.groupKind }

def kubeadmConfigRef (name : String) : ObjectReference :=
  { apiVersion := "bootstrap.cluster.x-k8s.io/v1beta1", kind := "KubeadmConfig", name }

/-- What was created before a failing call is cleaned up again. -/
def cloneConfigsAndGenerateMachine (kcp : KubeadmControlPlaneSpec) (answers : CreationAnswers)
    (bootstrapSpec : KubeadmConfigSpec) (failureDomain : Option String) : Except String ProvisionedMachine :=
  match computeDesiredMachine kcp answers failureDomain none with
  | .error error => .error (wrap "failed to create Machine: failed to compute desired Machine" error)
  | .ok machine =>
    match answers.createFromTemplate machine.name with
    | .error error => .error (wrap "failed to clone infrastructure template" error)
    | .ok clone =>
      match answers.createKubeadmConfig with
      | .error error => .error (wrap "failed to generate bootstrap config" error)
      | .ok _ =>
        match answers.createMachine with
        | .error error => .error (wrap "failed to create Machine" error)
        | .ok _ => .ok
            { machine := { machine with
                infrastructureRef := clone.reference, configRef := some (kubeadmConfigRef machine.name) }
              infraMachine := generateTemplate kcp.infrastructureRef clone
              kubeadmConfig := { name := machine.name, spec := bootstrapSpec } }

/-- Both ways to create a Machine default the feature gates for the version of the control plane. -/
def createFromConfig (kcp : KubeadmControlPlaneSpec) (answers : CreationAnswers)
    (bootstrapSpec : KubeadmConfigSpec) : Except String ProvisionedMachine :=
  match Util.parseMajorMinorPatchTolerant kcp.version with
  | .error error => .error (wrap ("failed to parse kubernetes version " ++ quote kcp.version) error)
  | .ok version =>
    match answers.failureDomain with
    | .error error => .error error
    | .ok failureDomain =>
      cloneConfigsAndGenerateMachine kcp answers (defaultFeatureGates bootstrapSpec version) failureDomain

def initializeControlPlane (kcp : KubeadmControlPlaneSpec) (answers : CreationAnswers) :
    Except String ProvisionedMachine :=
  createFromConfig kcp answers (initialControlPlaneConfig kcp)

def scaleUpControlPlane (kcp : KubeadmControlPlaneSpec) (answers : CreationAnswers) :
    Except String ProvisionedMachine :=
  match answers.preflightChecks with
  | .error error => .error error
  | .ok _ => createFromConfig kcp answers (joinControlPlaneConfig kcp)

variable {kcp : KubeadmControlPlaneSpec} {answers : CreationAnswers}
  {bootstrapSpec : KubeadmConfigSpec} {provisioned : ProvisionedMachine}

theorem createFromConfig_eq_ok (created : createFromConfig kcp answers bootstrapSpec = .ok provisioned) :
    ∃ version failureDomain name clone, answers.failureDomain = .ok failureDomain ∧
      provisioned =
        { machine :=
            { name, creationTimestamp := answers.creationTimestamp, version := some kcp.version, failureDomain,
              controlPlaneLabel := true
              clusterConfiguration := some (.encoded kcp.kubeadmConfigSpec.clusterConfiguration)
              remediationFor := answers.remediationInProgress <|> kcp.templateAnnotations.remediationFor
              infrastructureRef := clone.reference, configRef := some (kubeadmConfigRef name) }
          infraMachine := generateTemplate kcp.infrastructureRef clone
          kubeadmConfig := { name, spec := defaultFeatureGates bootstrapSpec version } } := by
  unfold createFromConfig at created
  split at created
  · cases created
  · split at created
    · cases created
    case h_2 failureDomain placed =>
      unfold cloneConfigsAndGenerateMachine at created
      split at created
      · cases created
      case h_2 machine desired =>
        repeat' split at created
        all_goals cases created
        rw [computeDesiredMachine] at desired
        repeat' split at desired
        all_goals cases desired
        exact ⟨_, _, _, _, placed, rfl⟩

theorem scaleUpControlPlane_eq_ok (scaledUp : scaleUpControlPlane kcp answers = .ok provisioned) :
    createFromConfig kcp answers (joinControlPlaneConfig kcp) = .ok provisioned := by
  unfold scaleUpControlPlane at scaledUp
  split at scaledUp
  · cases scaledUp
  · exact scaledUp

section

variable (created : createFromConfig kcp answers bootstrapSpec = .ok provisioned)
include created

theorem createFromConfig_deleting : provisioned.machine.deleting = false := by
  rcases createFromConfig_eq_ok created with ⟨_, _, _, _, _, rfl⟩
  rfl

theorem createFromConfig_failureDomain : answers.failureDomain = .ok provisioned.machine.failureDomain := by
  rcases createFromConfig_eq_ok created with ⟨_, _, _, _, placed, rfl⟩
  exact placed

end

def updateMachine (kcp : KubeadmControlPlaneSpec) (answers : CreationAnswers)
    (machine : OwnedMachine) : Except String OwnedMachine :=
  match computeDesiredMachine kcp answers machine.failureDomain (some machine) with
  | .error error => .error (wrap "failed to update Machine: failed to compute desired Machine" error)
  | .ok updated => .ok updated

end ClusterApi.ControlPlane

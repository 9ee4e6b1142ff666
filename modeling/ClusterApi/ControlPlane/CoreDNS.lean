import ClusterApi.ControlPlane.Webhook
import ClusterApi.Foundation.Runs

namespace ClusterApi.ControlPlane.CoreDNS

open Foundation Bootstrap Util List Option
open Webhook (oldDefaultImageRepository defaultImageRepository getDefaultRegistry skipCoreDNSAnnotation)

/-!
# The upgrade of CoreDNS

An upgrade changes two objects of the workload cluster.  The ConfigMap gets a
backup of the Corefile, the Deployment mounts the backup, the Corefile is
migrated, and then the Deployment gets the new image and mounts the Corefile
again.  Each of these four calls may fail, and the next attempt takes for the
original what it then reads, which may have been migrated already.
-/

def corefileKey : String := "Corefile"

def corefileBackupKey : String := "Corefile-backup"

def coreDNSKey : String := "coredns"

def coreDNSVolumeKey : String := "config-volume"

def oldCoreDNSImageName : String := "coredns"

def coreDNSImageName : String := "coredns/coredns"

def oldControlPlaneTaint : String := "node-role.kubernetes.io/master"

def controlPlaneTaint : String := "node-role.kubernetes.io/control-plane"

/-! ## The Deployment -/

structure Container where
  name : String
  image : String

structure KeyToPath where
  key : String
  path : String

structure ConfigMapVolumeSource where
  name : String
  items : List KeyToPath

structure Volume where
  name : String
  configMap : Option ConfigMapVolumeSource

structure Toleration where
  key : String
  effect : String
  value : String := ""

/-- The Pod template of a Deployment. -/
structure Deployment where
  containers : List Container
  volumes : List Volume
  tolerations : List Toleration

/-- The container in which CoreDNS runs. -/
def Deployment.container? (deployment : Deployment) : Option Container :=
  deployment.containers.find? fun container => container.name = coreDNSKey

def patchItem (fromKey toKey : String) (item : KeyToPath) : KeyToPath :=
  if item.key = fromKey ∨ item.key = toKey then { item with key := toKey } else item

def patchVolume (fromKey toKey : String) (volume : Volume) : Volume :=
  if volume.name = coreDNSVolumeKey then
    match volume.configMap with
    | some source =>
      if source.name = coreDNSKey then
        { volume with configMap := some { source with items := source.items.map (patchItem fromKey toKey) } }
      else volume
    | none => volume
  else volume

def patchCoreDNSDeploymentVolume (deployment : Deployment) (fromKey toKey : String) : Deployment :=
  { deployment with volumes := deployment.volumes.map (patchVolume fromKey toKey) }

def patchCoreDNSDeploymentImage (deployment : Deployment) (image : String) : Deployment :=
  { deployment with
    containers := deployment.containers.map fun container =>
      if container.name = coreDNSKey then { container with image } else container }

/-- The tolerations that are added for a control plane taint whatever the Deployment has. -/
def isControlPlaneToleration (toleration : Toleration) : Bool :=
  (toleration.key = oldControlPlaneTaint || toleration.key = controlPlaneTaint) &&
    toleration.effect = "NoSchedule" && toleration.value = ""

def patchCoreDNSDeploymentTolerations (deployment : Deployment) (kubernetesVersion : Version) : Deployment :=
  { deployment with
    tolerations := [{ key := controlPlaneTaint, effect := "NoSchedule" }] ++
      (if kubernetesVersion < .release 1 26 0 then [{ key := oldControlPlaneTaint, effect := "NoSchedule" }] else []) ++
      deployment.tolerations.filter fun toleration => !isControlPlaneToleration toleration }

/-! ## The versions -/

structure Image where
  repository : String
  name : String
  tag : String

/-- What the upgrade calls in other libraries. -/
structure Library where
  imageFromString : String → Except String Image
  /-- From and to a version. -/
  migrate : String → String → String → Except String String
  /-- The versions that can be migrated from. -/
  versions : List String

/-- What an image is to be replaced by. -/
structure ImagePlan where
  fromImageTag : String
  toImageTag : String
  currentMajorMinorPatch : String
  targetMajorMinorPatch : String
  fromImage : String
  toImage : String

structure CoreDNSInfo extends ImagePlan where
  corefile : String
  deployment : Deployment

def trimSuffix (suffix text : String) : String :=
  if suffix.toList.isSuffixOf text.toList then String.ofList (text.toList.take (text.length - suffix.length)) else text

def trimPrefix (start text : String) : String :=
  if start.toList.isPrefixOf text.toList then String.ofList (text.toList.drop start.length) else text

def imageRepositoryFromClusterConfig (clusterConfig : ClusterConfiguration) (version : Version) : String :=
  if clusterConfig.imageRepository ≠ "" then clusterConfig.imageRepository
  else if .release 1 22 0 ≤ version ∧ version < .release 1 26 0 then getDefaultRegistry version
  else ""

def toImageRepository (clusterConfig : ClusterConfiguration) (version : Version) (image : Image) : String :=
  if clusterConfig.dns.imageRepository ≠ "" then trimSuffix "/" clusterConfig.dns.imageRepository
  else
    let registry := imageRepositoryFromClusterConfig clusterConfig version
    if registry = "" then image.repository
    else if registry = defaultImageRepository then
      if oldDefaultImageRepository.toList.isPrefixOf image.repository.toList then
        trimSuffix "/" (registry ++ trimPrefix oldDefaultImageRepository image.repository)
      else image.repository
    else trimSuffix "/" registry

def extractImageVersion (tag : String) : Except String Version :=
  match parseMajorMinorPatchTolerant tag with
  | .error error => .error (wrap ("error parsing semver from " ++ quote tag) error)
  | .ok version => .ok version

def coreDNSImage (repository name tag : String) : String := repository ++ "/" ++ name ++ ":" ++ tag

def imagePlan (library : Library) (clusterConfig : ClusterConfiguration) (version : Version)
    (fromImage : String) : Except String ImagePlan :=
  match library.imageFromString fromImage with
  | .error error => .error (wrap ("unable to parse " ++ quote fromImage ++ " deployment image") error)
  | .ok image =>
    if image.tag = "" then
      .error ("failed to update coredns deployment: does not have a valid image tag: " ++ quote fromImage)
    else
      let toImageTag := if clusterConfig.dns.imageTag ≠ "" then clusterConfig.dns.imageTag else image.tag
      match extractImageVersion image.tag with
      | .error error => .error error
      | .ok current =>
        match extractImageVersion toImageTag with
        | .error error => .error error
        | .ok target =>
          let repository := toImageRepository clusterConfig version image
          let name :=
            if (repository = oldDefaultImageRepository ∨ repository = defaultImageRepository) ∧
                image.name = oldCoreDNSImageName ∧ .release 1 8 0 ≤ target then coreDNSImageName
            else image.name
          .ok { fromImageTag := image.tag
                toImageTag
                currentMajorMinorPatch := current.toText
                targetMajorMinorPatch := target.toText
                fromImage
                toImage := coreDNSImage repository name toImageTag }

def validateCoreDNSImageTag (library : Library) (fromTag toTag : String) : Except String PUnit :=
  match parseMajorMinorPatchTolerant fromTag with
  | .error error => .error (wrap ("failed to parse CoreDNS current version " ++ quote fromTag) error)
  | .ok source =>
    match parseMajorMinorPatchTolerant toTag with
    | .error error => .error (wrap ("failed to parse CoreDNS target version " ++ quote toTag) error)
    | .ok target =>
      if target < source then
        .error ("toVersion " ++ quote toTag ++ " must be greater than or equal to fromVersion " ++ quote fromTag)
      else if source.toText ∉ library.versions then
        .error ("fromVersion " ++ quote source.toText ++ " is not a compatible coredns version")
      else .ok ()

/-! ## An attempt

Everything that happens before the first write only reads the two objects, so it is one step.
-/

/-- The errors of the calls before the first write. -/
structure EarlierCalls where
  getConfigMap : Option String := none
  getDeployment : Option String := none
  updateClusterRole : Option String := none
  updateClusterConfiguration : Option String := none

/-- What the KubeadmControlPlane asks for. -/
structure Settings where
  annotations : List String := []
  clusterConfiguration : Option ClusterConfiguration
  version : Version

/-- The data of a ConfigMap. -/
abbrev Data := List (String × String)

def getCoreDNSInfo (library : Library) (clusterConfig : ClusterConfiguration) (version : Version)
    (calls : EarlierCalls) (data : Data) (deployment : Deployment) : Except String CoreDNSInfo :=
  match calls.getConfigMap with
  | some error => .error (wrap "error getting kube-system/coredns config map from target cluster" error)
  | none =>
    match data.lookup corefileKey with
    | none => .error "unable to find the CoreDNS Corefile data"
    | some corefile =>
      match calls.getDeployment with
      | some error => .error (wrap "unable to get kube-system/coredns deployment from target cluster" error)
      | none =>
        match deployment.container? with
        | none => .error "failed to update coredns deployment: deployment spec has no \"coredns\" container"
        | some container =>
          match imagePlan library clusterConfig version container.image with
          | .error error => .error error
          | .ok plan => .ok { plan with corefile, deployment }

/-- How the part without writes ends. -/
inductive Prepared
  | finished (result : Except String PUnit)
  | migrates (info : CoreDNSInfo) (updatedCorefile : String)

/-- `UpdateCoreDNS` up to its first write. -/
def prepare (library : Library) (settings : Settings) (calls : EarlierCalls) (data : Data)
    (deployment : Deployment) : Prepared :=
  if skipCoreDNSAnnotation ∈ settings.annotations then .finished (.ok ())
  else
    match settings.clusterConfiguration with
    | none => .finished (.ok ())
    | some clusterConfig =>
      match getCoreDNSInfo library clusterConfig settings.version calls data deployment with
      | .error error => .finished (.error error)
      | .ok info =>
        match calls.updateClusterRole with
        | some error => .finished (.error error)
        | none =>
          if info.fromImage = info.toImage then .finished (.ok ())
          else
            match validateCoreDNSImageTag library info.fromImageTag info.toImageTag with
            | .error error => .finished (.error (wrap "failed to validate CoreDNS" error))
            | .ok _ =>
              match calls.updateClusterConfiguration with
              | some error => .finished (.error error)
              | none =>
                match library.migrate info.currentMajorMinorPatch info.targetMajorMinorPatch
                  info.corefile with
                | .error error => .finished (.error (wrap "unable to migrate CoreDNS corefile" error))
                | .ok updatedCorefile => .migrates info updatedCorefile

/-- The write that an attempt makes next. -/
inductive Phase
  | idle
  | succeeded
  | backingUp (info : CoreDNSInfo) (updatedCorefile : String)
  | mounting (info : CoreDNSInfo) (updatedCorefile : String)
  | rewriting (info : CoreDNSInfo) (updatedCorefile : String)
  | switching (info : CoreDNSInfo)

structure AddonState where
  data : Data
  deployment : Deployment
  phase : Phase

/-- The two keys that an attempt writes; all others are dropped. -/
def corefileData (corefile backup : String) : Data := [(corefileKey, corefile), (corefileBackupKey, backup)]

/-- `updateCoreDNSDeployment` before its patch. -/
def switchedDeployment (settings : Settings) (info : CoreDNSInfo) : Deployment :=
  patchCoreDNSDeploymentTolerations
    (patchCoreDNSDeploymentVolume (patchCoreDNSDeploymentImage info.deployment info.toImage)
      corefileBackupKey corefileKey)
    settings.version

/-- A write that takes effect or not, and is answered or not. -/
def write (reply : Reply) (state : AddonState) (data : Data) (deployment : Deployment) (next : Phase) : AddonState :=
  match reply with
  | .ok => { data, deployment, phase := next }
  | .failed => { state with phase := .idle }
  | .lost => { data, deployment, phase := .idle }

inductive Action
  | start (calls : EarlierCalls)
  | write (reply : Reply)
  /-- The controller is stopped in the middle of an attempt. -/
  | stop

def start (library : Library) (settings : Settings) (calls : EarlierCalls) (state : AddonState) : AddonState :=
  match prepare library settings calls state.data state.deployment with
  | .finished (.ok _) => { state with phase := .succeeded }
  | .finished (.error _) => { state with phase := .idle }
  | .migrates info updatedCorefile => { state with phase := .backingUp info updatedCorefile }

def step (library : Library) (settings : Settings) (state : AddonState) : Action → Option AddonState
  | .start calls =>
    match state.phase with
    | .idle => some (start library settings calls state)
    | .succeeded => some (start library settings calls state)
    | _ => none
  | .write reply =>
    match state.phase with
    | .backingUp info updatedCorefile =>
      some (write reply state (corefileData info.corefile info.corefile) state.deployment
        (.mounting info updatedCorefile))
    | .mounting info updatedCorefile =>
      let deployment := patchCoreDNSDeploymentVolume info.deployment corefileKey corefileBackupKey
      some (write reply state state.data deployment (.rewriting { info with deployment } updatedCorefile))
    | .rewriting info updatedCorefile =>
      some (write reply state (corefileData updatedCorefile info.corefile) state.deployment (.switching info))
    | .switching info => some (write reply state state.data (switchedDeployment settings info) .succeeded)
    | _ => none
  | .stop => some { state with phase := .idle }

/-! ## What the Deployment mounts -/

def isCorefileKey (key : String) : Bool := key = corefileKey || key = corefileBackupKey

/-- The keys of the Corefile and its backup that a volume mounts. -/
def Volume.corefileKeys (volume : Volume) : List String :=
  if volume.name = coreDNSVolumeKey then
    match volume.configMap with
    | some source => if source.name = coreDNSKey then (source.items.map KeyToPath.key).filter isCorefileKey else []
    | none => []
  else []

namespace Deployment

def mountedKeys (deployment : Deployment) : List String := deployment.volumes.flatMap Volume.corefileKeys

/-- The Corefile is mounted from this key, and from no other. -/
def Mounts (deployment : Deployment) (key : String) : Prop :=
  deployment.mountedKeys ≠ [] ∧ ∀ mounted ∈ deployment.mountedKeys, mounted = key

def image? (deployment : Deployment) : Option String := deployment.container?.map Container.image

end Deployment

section Patches

variable {deployment : Deployment} {fromKey toKey : String}

section

variable (exchanges : ∀ key, isCorefileKey key = true ↔ key = fromKey ∨ key = toKey)
include exchanges

theorem keys_patchItem (items : List KeyToPath) :
    ((items.map (patchItem fromKey toKey)).map KeyToPath.key).filter isCorefileKey =
      ((items.map KeyToPath.key).filter isCorefileKey).map fun _ => toKey := by
  have isKey : isCorefileKey toKey = true := (exchanges toKey).mpr (.inr rfl)
  induction items with
  | nil => rfl
  | cons item _ ih =>
    simp only [map_cons]
    by_cases isCorefile : isCorefileKey item.key = true
    · have patched : (patchItem fromKey toKey item).key = toKey := by
        rw [patchItem, if_pos ((exchanges item.key).mp isCorefile)]
      rw [filter_cons_of_pos isCorefile, patched, filter_cons_of_pos isKey, ih,
        map_cons]
    · have kept : (patchItem fromKey toKey item).key = item.key := by
        rw [patchItem, if_neg fun either => isCorefile ((exchanges item.key).mpr either)]
      rw [kept, filter_cons_of_neg isCorefile, filter_cons_of_neg isCorefile, ih]

theorem corefileKeys_patchVolume (volume : Volume) :
    (patchVolume fromKey toKey volume).corefileKeys = volume.corefileKeys.map fun _ => toKey := by
  unfold patchVolume
  split_ifs with named
  · split
    case h_1 source isSource =>
      split_ifs with isCoreDNS
      · simp only [Volume.corefileKeys, named, if_true, isSource, isCoreDNS]
        exact keys_patchItem exchanges source.items
      · simp [Volume.corefileKeys, isSource, isCoreDNS]
    case h_2 noSource => simp [Volume.corefileKeys, noSource]
  · simp [Volume.corefileKeys, named]

theorem mountedKeys_patchVolume :
    (patchCoreDNSDeploymentVolume deployment fromKey toKey).mountedKeys =
      deployment.mountedKeys.map fun _ => toKey := by
  unfold Deployment.mountedKeys patchCoreDNSDeploymentVolume
  rw [flatMap_map, map_flatMap]
  have same : (fun volume => (patchVolume fromKey toKey volume).corefileKeys) =
      fun volume => volume.corefileKeys.map fun _ => toKey := by
    funext volume
    exact corefileKeys_patchVolume exchanges volume
  rw [same]

end

theorem exchanges_toBackup (key : String) : isCorefileKey key = true ↔ key = corefileKey ∨ key = corefileBackupKey := by
  simp [isCorefileKey]

theorem mounts_patchVolume (exchanges : ∀ key, isCorefileKey key = true ↔ key = fromKey ∨ key = toKey)
    (mounted : deployment.mountedKeys ≠ []) : (patchCoreDNSDeploymentVolume deployment fromKey toKey).Mounts toKey := by
  rw [Deployment.Mounts, mountedKeys_patchVolume exchanges]
  constructor
  · simpa using mounted
  · intro _ inside
    rcases mem_map.mp inside with ⟨_, _, rfl⟩
    rfl

theorem image?_patchImage (image : String) :
    (patchCoreDNSDeploymentImage deployment image).image? = deployment.image?.map fun _ => image := by
  unfold Deployment.image? Deployment.container? patchCoreDNSDeploymentImage
  have same : ∀ containers : List Container,
      (containers.map fun container =>
        if container.name = coreDNSKey then { container with image } else container).find?
          (fun container => container.name = coreDNSKey) =
        (containers.find? fun container => container.name = coreDNSKey).map fun container => { container with image } := by
    intro containers
    induction containers with
    | nil => rfl
    | cons first _ ih =>
      by_cases named : first.name = coreDNSKey
      · simp [named]
      · simpa [named] using ih
  rw [same, Option.map_map, Option.map_map]
  rfl

theorem switchedDeployment_mounts (settings : Settings) (info : CoreDNSInfo)
    (mounted : info.deployment.mountedKeys ≠ []) : (switchedDeployment settings info).Mounts corefileKey :=
  @mounts_patchVolume (patchCoreDNSDeploymentImage info.deployment info.toImage) _ _
    (fun key => (exchanges_toBackup key).trans or_comm) mounted

end Patches

/-! ## The original Corefile -/

/-- An upgrade that takes place: the image changes, and the new image is kept once it is there. -/
structure Upgrade (library : Library) (settings : Settings) where
  clusterConfig : ClusterConfiguration
  asked : settings.clusterConfiguration = some clusterConfig
  notSkipped : skipCoreDNSAnnotation ∉ settings.annotations
  oldImage : String
  plan : ImagePlan
  planned : imagePlan library clusterConfig settings.version oldImage = .ok plan
  changes : oldImage ≠ plan.toImage
  settled : ∀ later, imagePlan library clusterConfig settings.version plan.toImage = .ok later →
    later.toImage = plan.toImage

namespace Upgrade

variable {library : Library} {settings : Settings}

/-- The migration of this upgrade. -/
def migrate (upgrade : Upgrade library settings) (corefile : String) : Except String String :=
  library.migrate upgrade.plan.currentMajorMinorPatch upgrade.plan.targetMajorMinorPatch corefile

/-- The old image runs on the original Corefile. -/
structure Before (upgrade : Upgrade library settings) (original : String) (data : Data)
    (deployment : Deployment) : Prop where
  image : deployment.image? = some upgrade.oldImage
  mounted : deployment.mountedKeys ≠ []
  holds : ∀ key ∈ deployment.mountedKeys, data.lookup key = some original

/-- The new image runs on the Corefile migrated once, and the original is kept. -/
structure After (upgrade : Upgrade library settings) (original : String) (data : Data)
    (deployment : Deployment) : Prop where
  image : deployment.image? = some upgrade.plan.toImage
  mounts : deployment.Mounts corefileKey
  migrated : ∃ migrated, upgrade.migrate original = .ok migrated ∧ data.lookup corefileKey = some migrated
  backup : data.lookup corefileBackupKey = some original

/-- What is asked for at every point in time. -/
structure CrashSafe (upgrade : Upgrade library settings) (original : String) (state : AddonState) : Prop where
  old : state.deployment.image? = some upgrade.oldImage →
    ∀ key ∈ state.deployment.mountedKeys, state.data.lookup key = some original
  succeeded : state.phase = .succeeded → upgrade.After original state.data state.deployment

structure Initial (upgrade : Upgrade library settings) (original : String) (state : AddonState) : Prop where
  idle : state.phase = .idle
  corefile : state.data.lookup corefileKey = some original
  image : state.deployment.image? = some upgrade.oldImage
  mounts : state.deployment.Mounts corefileKey

end Upgrade

/-- A Corefile that is backed up is the original one. -/
def BacksUpOriginal (original : String) (state : AddonState) (action : Action) : Prop :=
  match action, state.phase with
  | .write reply, .backingUp info _ => reply ≠ .failed → info.corefile = original
  | _, _ => True

instance (original : String) (state : AddonState) (action : Action) :
    Decidable (BacksUpOriginal original state action) := by
  unfold BacksUpOriginal
  split <;> infer_instance

section Preparation

variable {library : Library} {settings : Settings} {calls : EarlierCalls} {data : Data}
  {deployment : Deployment} {clusterConfig : ClusterConfiguration} {version : Version}

theorem imagePlan_fromImage {image : String} {plan : ImagePlan}
    (planned : imagePlan library clusterConfig version image = .ok plan) : plan.fromImage = image := by
  unfold imagePlan at planned
  split at planned
  · cases planned
  · split at planned
    · cases planned
    · dsimp only at planned
      split at planned
      · cases planned
      · split at planned
        · cases planned
        · cases planned
          rfl

theorem getCoreDNSInfo_eq_ok {info : CoreDNSInfo}
    (got : getCoreDNSInfo library clusterConfig version calls data deployment = .ok info) :
    ∃ image, deployment.image? = some image ∧
      imagePlan library clusterConfig version image = .ok info.toImagePlan ∧ info.deployment = deployment ∧
      data.lookup corefileKey = some info.corefile := by
  unfold getCoreDNSInfo at got
  split at got
  · cases got
  · split at got
    · cases got
    case h_2 corefile isCorefile =>
      split at got
      · cases got
      · split at got
        · cases got
        case h_2 container found =>
          split at got
          · cases got
          case h_2 plan planned =>
            cases got
            refine ⟨container.image, ?_, planned, rfl, isCorefile⟩
            rw [Deployment.image?, found, map_some]

theorem prepare_cases (upgrade : Upgrade library settings) :
    (∃ error, prepare library settings calls data deployment = .finished (.error error)) ∨
    ∃ image plan, deployment.image? = some image ∧
      imagePlan library upgrade.clusterConfig settings.version image = .ok plan ∧
      (plan.fromImage = plan.toImage ∧ prepare library settings calls data deployment = .finished (.ok ()) ∨
        plan.fromImage ≠ plan.toImage ∧ ∃ info updatedCorefile,
          prepare library settings calls data deployment = .migrates info updatedCorefile ∧
          info.toImagePlan = plan ∧ info.deployment = deployment ∧ data.lookup corefileKey = some info.corefile ∧
          library.migrate plan.currentMajorMinorPatch plan.targetMajorMinorPatch info.corefile = .ok updatedCorefile) := by
  unfold prepare
  rw [if_neg upgrade.notSkipped, upgrade.asked]
  dsimp only
  split
  case h_1 error _ => exact .inl ⟨error, rfl⟩
  case h_2 info got =>
    rcases getCoreDNSInfo_eq_ok got with ⟨image, isImage, planned, isDeployment, isCorefile⟩
    split
    case h_1 error _ => exact .inl ⟨error, rfl⟩
    case h_2 =>
      by_cases same : info.fromImage = info.toImage
      · rw [if_pos same]
        exact .inr ⟨image, info.toImagePlan, isImage, planned, .inl ⟨same, rfl⟩⟩
      · rw [if_neg same]
        split
        · exact .inl ⟨_, rfl⟩
        · split
          case h_1 error _ => exact .inl ⟨error, rfl⟩
          case h_2 =>
            split
            · exact .inl ⟨_, rfl⟩
            case h_2 updatedCorefile migrated =>
              refine .inr ⟨image, info.toImagePlan, isImage, planned, .inr ⟨same, info, updatedCorefile, rfl, rfl, ?_⟩⟩
              exact ⟨isDeployment, isCorefile, migrated⟩

end Preparation

/-! ## Every point in time -/

namespace Upgrade

variable {library : Library} {settings : Settings} {upgrade : Upgrade library settings} {original : String}
variable {state : AddonState} {deployment : Deployment} {key : String} {action : Action} {data : Data}

/-- An attempt works on the Deployment as it is, by the plan for the old image. -/
structure Attempt (upgrade : Upgrade library settings) (state : AddonState) (info : CoreDNSInfo) : Prop where
  plan : info.toImagePlan = upgrade.plan
  deployment : info.deployment = state.deployment

/-- How far the two objects are in each phase. -/
def Progress (upgrade : Upgrade library settings) (original : String) (state : AddonState) : Prop :=
  match state.phase with
  | .idle => upgrade.Before original state.data state.deployment ∨ upgrade.After original state.data state.deployment
  | .succeeded => upgrade.After original state.data state.deployment
  | .backingUp info updatedCorefile =>
    upgrade.Attempt state info ∧ upgrade.Before original state.data state.deployment ∧
      upgrade.migrate info.corefile = .ok updatedCorefile
  | .mounting info updatedCorefile =>
    upgrade.Attempt state info ∧ upgrade.Before original state.data state.deployment ∧
      upgrade.migrate info.corefile = .ok updatedCorefile ∧ info.corefile = original ∧
      state.data = corefileData original original
  | .rewriting info updatedCorefile =>
    upgrade.Attempt state info ∧ upgrade.Before original state.data state.deployment ∧
      upgrade.migrate info.corefile = .ok updatedCorefile ∧ info.corefile = original ∧
      state.deployment.Mounts corefileBackupKey
  | .switching info =>
    upgrade.Attempt state info ∧ upgrade.Before original state.data state.deployment ∧
      ∃ migrated, upgrade.migrate original = .ok migrated ∧ state.data = corefileData migrated original

theorem Before.mounts_lookup (image : deployment.image? = some upgrade.oldImage) (mounts : deployment.Mounts key)
    (holds : data.lookup key = some original) : upgrade.Before original data deployment := by
  refine ⟨image, mounts.1, fun mounted inside => ?_⟩
  rw [mounts.2 mounted inside]
  exact holds

theorem Initial.progress (initial : upgrade.Initial original state) : upgrade.Progress original state := by
  rw [Progress, initial.idle]
  exact .inl (.mounts_lookup initial.image initial.mounts initial.corefile)

section

variable (progress : upgrade.Progress original state)
include progress

theorem Progress.either :
    upgrade.Before original state.data state.deployment ∨ upgrade.After original state.data state.deployment := by
  rw [Progress] at progress
  split at progress
  · exact progress
  · exact .inr progress
  · exact .inl progress.2.1
  · exact .inl progress.2.1
  · exact .inl progress.2.1
  · exact .inl progress.2.1

theorem Progress.crashSafe : upgrade.CrashSafe original state := by
  constructor
  · intro isOld
    rcases progress.either with before | after
    · exact before.holds
    · exact absurd (some.inj (isOld.symm.trans after.image)) upgrade.changes
  · intro succeeded
    rwa [Progress, succeeded] at progress

theorem Progress.stop : upgrade.Progress original { state with phase := .idle } :=
  progress.either

theorem Progress.start {calls : EarlierCalls} : upgrade.Progress original (start library settings calls state) := by
  unfold CoreDNS.start
  rcases prepare_cases upgrade with ⟨_, ended⟩ | ⟨image, plan, isImage, planned, same | migrates⟩
  · rw [ended]
    exact progress.stop
  · rw [same.2]
    rcases progress.either with before | after
    · -- the old image is never the one that is asked for
      rw [before.image, some.injEq] at isImage
      rw [← isImage, upgrade.planned, Except.ok.injEq] at planned
      rw [← planned, imagePlan_fromImage upgrade.planned] at same
      exact absurd same.1 upgrade.changes
    · exact after
  · rcases migrates with ⟨differs, _, _, ended, isPlan, isDeployment, -, migrated⟩
    rw [ended]
    rcases progress.either with before | after
    · rw [before.image, some.injEq] at isImage
      rw [← isImage, upgrade.planned, Except.ok.injEq] at planned
      rw [← planned] at isPlan migrated
      exact ⟨⟨isPlan, isDeployment⟩, before, migrated⟩
    · rw [after.image, some.injEq] at isImage
      rw [← isImage] at planned
      rw [imagePlan_fromImage planned, upgrade.settled plan planned] at differs
      exact absurd rfl differs

/-- A write leaves the phase before it, the phase after it, or the objects of the phase after it. -/
theorem Progress.write {next : Phase} {reply : Reply}
    (written : reply ≠ .failed → upgrade.Progress original { data, deployment, phase := next }) :
    upgrade.Progress original (write reply state data deployment next) := by
  cases reply with
  | ok => exact written (by decide)
  | failed => exact progress.stop
  | lost => exact (written (by decide)).either

end

theorem lookup_corefileData {corefile : String} (isKey : isCorefileKey key = true) :
    (corefileData corefile corefile).lookup key = some corefile := by
  rcases (exchanges_toBackup key).mp isKey with rfl | rfl
  · rfl
  · rfl

theorem isCorefileKey_of_mounted (mounted : key ∈ deployment.mountedKeys) : isCorefileKey key = true := by
  rcases mem_flatMap.mp mounted with ⟨_, _, inside⟩
  unfold Volume.corefileKeys at inside
  split at inside
  · split at inside
    · split at inside
      · exact (mem_filter.mp inside).2
      · cases inside
    · cases inside
  · cases inside

theorem Before.backedUp (image : deployment.image? = some upgrade.oldImage) (mounted : deployment.mountedKeys ≠ []) :
    upgrade.Before original (corefileData original original) deployment :=
  ⟨image, mounted, fun _ inside => lookup_corefileData (isCorefileKey_of_mounted inside)⟩

theorem Progress.step {next : AddonState} (progress : upgrade.Progress original state)
    (backsUp : BacksUpOriginal original state action) (taken : step library settings state action = some next) :
    upgrade.Progress original next := by
  cases action with
  | start =>
    simp only [CoreDNS.step] at taken
    split at taken
    · cases taken
      exact progress.start
    · cases taken
      exact progress.start
    · cases taken
  | stop =>
    cases taken
    exact progress.stop
  | write =>
    simp only [CoreDNS.step] at taken
    have current := progress
    unfold Progress at current
    split at taken
    case h_1 info updatedCorefile phase =>
      rw [phase] at current
      rcases current with ⟨attempt, before, migrated⟩
      cases taken
      apply progress.write
      intro effective
      simp only [BacksUpOriginal, phase] at backsUp
      have isOriginal := backsUp effective
      refine ⟨⟨attempt.plan, attempt.deployment⟩, ?_, migrated, isOriginal, ?_⟩
      · rw [isOriginal]
        exact .backedUp before.image before.mounted
      · rw [isOriginal]
    case h_2 info updatedCorefile phase =>
      rw [phase] at current
      rcases current with ⟨attempt, before, migrated, isOriginal, isData⟩
      cases taken
      apply progress.write
      intro _
      have image : (patchCoreDNSDeploymentVolume info.deployment corefileKey corefileBackupKey).image? =
          some upgrade.oldImage := (congrArg Deployment.image? attempt.deployment).trans before.image
      have mounts : (patchCoreDNSDeploymentVolume info.deployment corefileKey corefileBackupKey).Mounts
          corefileBackupKey := mounts_patchVolume exchanges_toBackup (attempt.deployment ▸ before.mounted)
      refine ⟨⟨attempt.plan, rfl⟩, ?_, migrated, isOriginal, mounts⟩
      rw [isData]
      exact .backedUp image mounts.1
    case h_3 info updatedCorefile phase =>
      rw [phase] at current
      rcases current with ⟨attempt, before, migrated, isOriginal, mounts⟩
      rw [isOriginal] at migrated
      cases taken
      apply progress.write
      intro _
      refine ⟨⟨attempt.plan, attempt.deployment⟩, ?_, updatedCorefile, migrated, ?_⟩
      · rw [isOriginal]
        exact .mounts_lookup before.image mounts rfl
      · rw [isOriginal]
    case h_4 info phase =>
      rw [phase] at current
      rcases current with ⟨attempt, before, migrated, isMigrated, isData⟩
      cases taken
      apply progress.write
      intro _
      constructor
      case image =>
        change (patchCoreDNSDeploymentImage info.deployment info.toImage).image? = _
        rw [image?_patchImage, attempt.deployment, before.image, map_some, attempt.plan]
      case mounts => exact switchedDeployment_mounts settings info (attempt.deployment ▸ before.mounted)
      case migrated => exact ⟨migrated, isMigrated, by rw [isData]; rfl⟩
      case backup =>
        rw [isData]
        rfl
    case h_5 => cases taken

theorem Progress.backsUp_of_crashSafe (progress : upgrade.Progress original state)
    (safe : ∀ next, CoreDNS.step library settings state action = some next → upgrade.CrashSafe original next) :
    BacksUpOriginal original state action := by
  cases action with
  | start | stop => trivial
  | write reply =>
    cases phase : state.phase with
    | backingUp info =>
      rw [Progress, phase] at progress
      rcases progress with ⟨-, before, -⟩
      simp only [CoreDNS.step, phase, some.injEq, forall_eq'] at safe
      simp only [BacksUpOriginal, phase]
      intro effective
      have safeData : ∀ key ∈ state.deployment.mountedKeys,
          (corefileData info.corefile info.corefile).lookup key = some original := by
        cases reply with
        | ok | lost => exact safe.old before.image
        | failed => exact absurd rfl effective
      rcases exists_mem_of_ne_nil _ before.mounted with ⟨key, inside⟩
      have holds := safeData key inside
      rw [lookup_corefileData (isCorefileKey_of_mounted inside)] at holds
      exact some.inj holds
    | _ => simp only [BacksUpOriginal, phase]

/-- Every state of a run is safe exactly if every attempt that gets to its backup has read the original Corefile. -/
theorem updateCoreDNS_crashSafe (initial : upgrade.Initial original state)
    (schedule : List Action) : Meets (CoreDNS.step library settings)
        (fun before action =>
          ∀ next, CoreDNS.step library settings before action = some next → upgrade.CrashSafe original next)
        state schedule ↔
      Meets (CoreDNS.step library settings) (BacksUpOriginal original) state schedule := by
  apply meets_congr (upgrade.Progress original)
  · exact fun _ _ _ progress backsUp taken => progress.step backsUp taken
  · intro _ _ progress
    constructor
    · exact progress.backsUp_of_crashSafe
    · exact fun backsUp next taken => (progress.step backsUp taken).crashSafe
  · exact initial.progress

end Upgrade

/-! ## From one version to the next -/

namespace Example

def oldImage : String := "registry.k8s.io/coredns/coredns:v1.9.3"

def newImage : String := "registry.k8s.io/coredns/coredns:v1.11.1"

def library : Library where
  imageFromString image :=
    if image = oldImage then .ok { repository := "registry.k8s.io/coredns", name := "coredns", tag := "v1.9.3" }
    else if image = newImage then
      .ok { repository := "registry.k8s.io/coredns", name := "coredns", tag := "v1.11.1" }
    else .error "invalid reference format"
  migrate _ _ corefile := .ok (corefile ++ "#")
  versions := ["1.9.3", "1.11.1"]

def clusterConfig : ClusterConfiguration := { dns := { imageTag := "v1.11.1" } }

def settings : Settings := { clusterConfiguration := some clusterConfig, version := .release 1 30 0 }

def plan : ImagePlan where
  fromImageTag := "v1.9.3"
  toImageTag := "v1.11.1"
  currentMajorMinorPatch := "1.9.3"
  targetMajorMinorPatch := "1.11.1"
  fromImage := oldImage
  toImage := newImage

def upgrade : Upgrade library settings where
  clusterConfig := clusterConfig
  asked := rfl
  notSkipped := by decide
  oldImage := oldImage
  plan := plan
  planned := by rfl
  changes := by decide
  settled := by
    intro later planned
    have known : imagePlan library clusterConfig settings.version newImage = .ok _ := rfl
    cases known.symm.trans planned
    rfl

def deployed : AddonState where
  data := [(corefileKey, ".:53")]
  deployment :=
    { containers := [{ name := "coredns", image := oldImage }]
      volumes :=
        [{ name := "config-volume"
           configMap := some { name := "coredns", items := [{ key := corefileKey, path := "Corefile" }] } }]
      tolerations := [] }
  phase := .idle

theorem deployed_initial : upgrade.Initial ".:53" deployed := ⟨rfl, rfl, rfl, by decide, by decide⟩

/-- The first attempt ends when the Deployment has been patched but the answer is lost; the second one succeeds. -/
def lostAnswer : List Action :=
  [.start {}, .write .ok, .write .lost, .start {}, .write .ok, .write .ok, .write .ok, .write .ok]

theorem updateCoreDNS_crashSafe_lostAnswer :
    upgrade.Initial ".:53" deployed ∧
      Meets (step library settings)
        (fun before action => ∀ next, step library settings before action = some next → upgrade.CrashSafe ".:53" next)
        deployed lostAnswer :=
  ⟨deployed_initial, (Upgrade.updateCoreDNS_crashSafe deployed_initial lostAnswer).mpr (by decide +kernel)⟩

/-- The first attempt ends between the new Corefile and the new image; the second one meets no error. -/
def stoppedBeforeSwitch : List Action :=
  [.start {}, .write .ok, .write .ok, .write .ok, .stop, .start {}, .write .ok, .write .ok, .write .ok, .write .ok]

/-- The Corefile has been migrated twice, and its original is lost. -/
theorem updateCoreDNS_migratesTwice :
    upgrade.Initial ".:53" deployed ∧ ∃ final, execute (step library settings) deployed stoppedBeforeSwitch = some final ∧
      final.phase = .succeeded ∧ final.data = corefileData ".:53##" ".:53#" ∧ ¬ upgrade.CrashSafe ".:53" final := by
  refine ⟨deployed_initial, _, rfl, rfl, rfl, fun safe => ?_⟩
  have backup := (safe.succeeded rfl).backup
  exact absurd backup (by decide)

end Example

end ClusterApi.ControlPlane.CoreDNS

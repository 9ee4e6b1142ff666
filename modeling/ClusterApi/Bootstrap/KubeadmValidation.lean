import ClusterApi.Bootstrap.KubeadmTypes
import ClusterApi.Util.Errors

namespace ClusterApi.Bootstrap

/-!
# Validation of a KubeadmConfigSpec

`KubeadmConfigSpec.Validate`, which the webhooks of all objects with such a
spec call.  It looks at files, users, the ignition format and the file
discovery of a join, and never at the ClusterConfiguration.
-/

def ignitionFormat : String := "ignition"

def cannotUseWithIgnition : String := "not supported when spec.format is set to: " ++ quote ignitionFormat
def conflictingFileSourceMsg : String := "only one of content or contentFrom may be specified for a single file"
def conflictingUserSourceMsg : String := "only one of passwd or passwdFrom may be specified for a single user"
def kubeadmBootstrapFormatIgnitionFeatureDisabledMsg : String :=
  "can be set only if the KubeadmBootstrapFormatIgnition feature gate is enabled"
def missingSecretNameMsg : String := "secret file source must specify non-empty secret name"
def missingSecretKeyMsg : String := "secret file source must specify non-empty secret key"
def pathConflictMsg : String := "path property must be unique among all files"

/-- The checks of a secret that a file or a password is read from. -/
def validateSecret (path : String) : Option SecretKey → List ValidationError
  | none => []
  | some secret =>
    (if secret.name = "" then [⟨.required, path ++ ".secret.name", missingSecretNameMsg⟩] else []) ++
      if secret.key = "" then [⟨.required, path ++ ".secret.key", missingSecretKeyMsg⟩] else []

namespace KubeadmConfigSpec

def fileList (spec : KubeadmConfigSpec) : List File := spec.files.getD []

def userList (spec : KubeadmConfigSpec) : List User := spec.users.getD []

def validateFiles (spec : KubeadmConfigSpec) (pathPrefix : String) : List ValidationError :=
  spec.fileList.zipIdx.flatMap fun (file, i) =>
    let path := indexed (pathPrefix ++ ".files") i
    (if file.content ≠ "" ∧ file.contentFrom.isSome then [⟨.invalid, path, conflictingFileSourceMsg⟩] else []) ++
      validateSecret (path ++ ".contentFrom") file.contentFrom ++
      if (spec.fileList.take i).any fun earlier => earlier.path = file.path then
        [⟨.invalid, path ++ ".path", pathConflictMsg⟩]
      else []

def validateUsers (spec : KubeadmConfigSpec) (pathPrefix : String) : List ValidationError :=
  spec.userList.zipIdx.flatMap fun (user, i) =>
    let path := indexed (pathPrefix ++ ".users") i
    (if user.passwd.isSome ∧ user.passwdFrom.isSome then [⟨.invalid, path, conflictingUserSourceMsg⟩] else []) ++
      validateSecret (path ++ ".passwdFrom") user.passwdFrom

def validateIgnitionDisks (pathPrefix : String) (diskSetup : DiskSetup) : List ValidationError :=
  ((diskSetup.partitions.getD []).zipIdx.flatMap fun (partition, i) =>
    match partition.tableType with
    | none => []
    | some tableType =>
      if tableType ≠ "gpt" then
        [⟨.invalid, indexed (pathPrefix ++ ".diskSetup.partitions") i ++ ".tableType",
          "only partition type " ++ quote "gpt" ++ " is supported when spec.format is set to " ++ quote ignitionFormat⟩]
      else []) ++
    (diskSetup.filesystems.getD []).zipIdx.flatMap fun (filesystem, i) =>
      let path := indexed (pathPrefix ++ ".diskSetup.filesystems") i
      (if filesystem.replaceFS.isSome then [⟨.forbidden, path ++ ".replaceFS", cannotUseWithIgnition⟩] else []) ++
        if filesystem.partition.isSome then [⟨.forbidden, path ++ ".partition", cannotUseWithIgnition⟩] else []

def validateIgnition (featureEnabled : Bool) (spec : KubeadmConfigSpec) (pathPrefix : String) : List ValidationError :=
  if !featureEnabled then
    (if spec.format = ignitionFormat then
        [⟨.forbidden, pathPrefix ++ ".format", kubeadmBootstrapFormatIgnitionFeatureDisabledMsg⟩]
      else []) ++
      if spec.ignition.isSome then
        [⟨.forbidden, pathPrefix ++ ".ignition", kubeadmBootstrapFormatIgnitionFeatureDisabledMsg⟩]
      else []
  else if spec.format ≠ ignitionFormat then
    if spec.ignition.isSome then
      [⟨.invalid, pathPrefix ++ ".format", "must be set to " ++ quote ignitionFormat ++ " if spec.ignition is set"⟩]
    else []
  else
    (spec.userList.zipIdx.flatMap fun (user, i) =>
      if user.inactive = some true then
        [⟨.forbidden, indexed (pathPrefix ++ ".users") i ++ ".inactive", cannotUseWithIgnition⟩]
      else []) ++
      (if spec.useExperimentalRetryJoin then
        [⟨.forbidden, pathPrefix ++ ".useExperimentalRetryJoin", cannotUseWithIgnition⟩]
      else []) ++
      (spec.fileList.zipIdx.flatMap fun (file, i) =>
        if file.encoding = "gzip" ∨ file.encoding = "gzip+base64" then
          [⟨.forbidden, indexed (pathPrefix ++ ".files") i ++ ".encoding", cannotUseWithIgnition⟩]
        else []) ++
      match spec.diskSetup with
      | none => []
      | some diskSetup => validateIgnitionDisks pathPrefix diskSetup

/-- A kubeconfig for discovery has exactly one way to authenticate. -/
def validateDiscovery (pathPrefix : String) (join : JoinConfiguration) : List ValidationError :=
  match join.discovery.file.bind FileDiscovery.kubeConfig with
  | none => []
  | some kubeConfig =>
    let path := pathPrefix ++ ".joinConfiguration.discovery.file.kubeconfig.user"
    match kubeConfig.user.authProvider, kubeConfig.user.exec with
    | none, none => [⟨.invalid, path, "at least one of authProvider or exec must be defined"⟩]
    | some _, some _ => [⟨.invalid, path, "either authProvider or exec must be defined"⟩]
    | _, _ => []

def validate (featureEnabled : Bool) (spec : KubeadmConfigSpec) (pathPrefix : String) : List ValidationError :=
  spec.validateFiles pathPrefix ++ spec.validateUsers pathPrefix ++ spec.validateIgnition featureEnabled pathPrefix ++
    match spec.joinConfiguration with
    | none => []
    | some join => validateDiscovery pathPrefix join

end KubeadmConfigSpec

end ClusterApi.Bootstrap

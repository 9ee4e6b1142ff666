import ClusterApi.Foundation.Semver
import ClusterApi.Foundation.Texts
import ClusterApi.Util.Errors

namespace ClusterApi.MachineSet.Preflight

open Foundation

/-!
# The preflight checks of a MachineSet

Before Machines are created, the version of the MachineSet is compared with
that of the control plane.  The lowest minor that is allowed is a difference of
64-bit numbers, which wraps around for small minors.  The majors are not
compared.
-/

inductive PreflightCheck
  | all
  | controlPlaneIsStable
  | kubernetesVersionSkew
  | kubeadmVersionSkew
  deriving DecidableEq

structure ConfigRef where
  apiVersion : String
  kind : String

/-- What the contract reads from a control plane; a version that is not found is `none`. -/
structure ControlPlane where
  kind : String
  ref : String
  version : Except String (Option String)
  isProvisioning : Except String Bool
  isUpgrading : Except String Bool

structure Inputs where
  enabled : Bool := true
  action : String
  skipped : List PreflightCheck := []
  controlPlaneRef : Option String
  controlPlane : Except String ControlPlane
  machineSet : String
  version : Option String
  configRef : Option ConfigRef

def controlPlaneStablePreflightCheck (controlPlane : ControlPlane) : Except String (Option String) := do
  let failed := "failed to perform " ++ quote "ControlPlaneIsStable" ++ " preflight check: failed to check if "
  let unstable (state : String) := some (controlPlane.kind ++ " " ++ controlPlane.ref ++ " is " ++ state ++ " (" ++
    quote "ControlPlaneIsStable" ++ " preflight check failed)")
  if ← controlPlane.isProvisioning.mapError
    (wrap (failed ++ controlPlane.kind ++ " " ++ controlPlane.ref ++ " is provisioning")) then
    return unstable "provisioning"
  if ← controlPlane.isUpgrading.mapError
    (wrap (failed ++ "the " ++ controlPlane.kind ++ " " ++ controlPlane.ref ++ " is upgrading")) then
    return unstable "upgrading"
  return none

def minorSkew (cpSemver : Version) : UInt64 := if cpSemver.compare (.release 1 28 0) = -1 then 2 else 3

def notConforming (cpSemver msSemver : Version) (why check : String) : String :=
  "MachineSet version (" ++ msSemver.toText ++ ") and ControlPlane version (" ++ cpSemver.toText ++
    ") do not conform to " ++ why ++ " (" ++ quote check ++ " preflight check failed)"

def kubernetesVersionPreflightCheck (cpSemver msSemver : Version) : Option String :=
  let failed why := some (notConforming cpSemver msSemver
    ("the kubernetes version skew policy as MachineSet version is " ++ why) "KubernetesVersionSkew")
  if msSemver.minor > cpSemver.minor then failed "higher than ControlPlane version"
  else if msSemver.minor < cpSemver.minor - minorSkew cpSemver then
    failed ("more than " ++ toString (minorSkew cpSemver) ++ " minor versions older than the ControlPlane version")
  else none

variable (parseTolerant : VersionReader) (parseGroup : String → Except String String)

def kubeadmVersionPreflightCheck (cpSemver msSemver : Version) : Option ConfigRef → Except String (Option String)
  | none => .ok none
  | some ref =>
    match parseGroup ref.apiVersion with
    | .error error => .error (wrap ("failed to perform " ++ quote "KubeadmVersionSkew" ++
        " preflight check: failed to parse bootstrap configRef APIVersion " ++ ref.apiVersion) error)
    | .ok group =>
      if ref.kind = "KubeadmConfigTemplate" ∧ group = "bootstrap.cluster.x-k8s.io" ∧
          cpSemver.minor ≠ msSemver.minor then
        .ok (some (notConforming cpSemver msSemver ("kubeadm version skew policy as kubeadm only supports joining " ++
          "with the same major+minor version as the control plane") "KubeadmVersionSkew"))
      else .ok none

/-- The message that holds the MachineSet back; the empty one does not. -/
def runPreflightChecks (inputs : Inputs) : Except String String := do
  let failed := wrap ("failed to perform " ++ quote inputs.action ++ ": failed to perform preflight checks")
  if !inputs.enabled || inputs.skipped.contains .all then return ""
  let some controlPlaneRef := inputs.controlPlaneRef | return ""
  let controlPlane ← inputs.controlPlane.mapError (failed ∘ wrap ("failed to get ControlPlane " ++ controlPlaneRef))
  let some cpVersion ← controlPlane.version.mapError
    (failed ∘ wrap ("failed to get the version of ControlPlane " ++ controlPlane.ref)) | return ""
  let cpSemver ← (parseTolerant cpVersion).mapError
    (failed ∘ wrap ("failed to parse version " ++ quote cpVersion ++ " of ControlPlane " ++ controlPlane.ref))
  let run (check : PreflightCheck) (outcome : Except String (Option String)) :=
    if inputs.skipped.contains check then [] else [outcome]
  let versionOutcomes ← match inputs.version with
    | none => pure []
    | some msVersion => do
      let msSemver ← (parseTolerant msVersion).mapError
        (failed ∘ wrap ("failed to parse version " ++ quote msVersion ++ " of MachineSet " ++ inputs.machineSet))
      pure (run .kubernetesVersionSkew (.ok (kubernetesVersionPreflightCheck cpSemver msSemver)) ++
        run .kubeadmVersionSkew (kubeadmVersionPreflightCheck parseGroup cpSemver msSemver inputs.configRef))
  let outcomes := run .controlPlaneIsStable (controlPlaneStablePreflightCheck controlPlane) ++ versionOutcomes
  let errList := outcomes.filterMap fun
    | .error error => some error
    | .ok _ => none
  if errList ≠ [] then .error (failed (aggregate errList))
  else return joinTexts "; " (outcomes.filterMap fun
    | .error _ => none
    | .ok message => message)

/-! ## The skew policy -/

def versionProblems (cpSemver msSemver : Version) (configRef : Option ConfigRef) : List String :=
  (kubernetesVersionPreflightCheck cpSemver msSemver).toList ++
    ((kubeadmVersionPreflightCheck parseGroup cpSemver msSemver configRef).toOption.getD none).toList

def UsesKubeadm (configRef : Option ConfigRef) : Prop :=
  ∃ ref ∈ configRef, ref.kind = "KubeadmConfigTemplate" ∧
    parseGroup ref.apiVersion = .ok "bootstrap.cluster.x-k8s.io"

/-- What the policy asks of the minors. -/
structure MinorsConform (cpSemver msSemver : Version) (configRef : Option ConfigRef) : Prop where
  notAbove : msSemver.minor.toNat ≤ cpSemver.minor.toNat
  supported : cpSemver.minor.toNat ≤ msSemver.minor.toNat + (minorSkew cpSemver).toNat
  kubeadm : UsesKubeadm parseGroup configRef → cpSemver.minor = msSemver.minor

variable {parseTolerant parseGroup} {cpSemver msSemver : Version} {configRef : Option ConfigRef}

theorem kubernetesVersionPreflightCheck_eq_none : kubernetesVersionPreflightCheck cpSemver msSemver = none ↔
    msSemver.minor.toNat ≤ cpSemver.minor.toNat ∧
      cpSemver.minor.toNat ≤ msSemver.minor.toNat + (minorSkew cpSemver).toNat ∧
        minorSkew cpSemver ≤ cpSemver.minor := by
  have small : (minorSkew cpSemver).toNat ≤ 3 := by
    unfold minorSkew
    split_ifs <;> simp
  have below := cpSemver.minor.toNat_lt
  have lowest := UInt64.toNat_sub cpSemver.minor (minorSkew cpSemver)
  unfold kubernetesVersionPreflightCheck
  simp only [gt_iff_lt, UInt64.lt_iff_toNat_lt, UInt64.le_iff_toNat_le]
  split_ifs
  all_goals simp only [false_iff, true_iff]
  all_goals omega

theorem kubeadmVersionPreflightCheck_eq_none :
    (kubeadmVersionPreflightCheck parseGroup cpSemver msSemver configRef).toOption.getD none =
      none ↔ (UsesKubeadm parseGroup configRef → cpSemver.minor = msSemver.minor) := by
  cases configRef with
  | none => simp [kubeadmVersionPreflightCheck, UsesKubeadm, Except.toOption]
  | some ref =>
    cases isGroup : parseGroup ref.apiVersion with
    | error => simp [kubeadmVersionPreflightCheck, UsesKubeadm, isGroup, Except.toOption]
    | ok =>
      simp only [kubeadmVersionPreflightCheck, isGroup]
      split_ifs with differs
      · simp [UsesKubeadm, differs, isGroup, Except.toOption]
      · simpa [UsesKubeadm, isGroup, Except.toOption] using differs

theorem versionProblems_eq_nil : versionProblems parseGroup cpSemver msSemver configRef = [] ↔
    MinorsConform parseGroup cpSemver msSemver configRef ∧ minorSkew cpSemver ≤ cpSemver.minor := by
  rw [versionProblems, List.append_eq_nil_iff, Option.toList_eq_nil_iff, Option.toList_eq_nil_iff,
    kubernetesVersionPreflightCheck_eq_none, kubeadmVersionPreflightCheck_eq_none]
  constructor
  · rintro ⟨⟨notAbove, supported, large⟩, kubeadm⟩
    exact ⟨⟨notAbove, supported, kubeadm⟩, large⟩
  · rintro ⟨⟨notAbove, supported, kubeadm⟩, large⟩
    exact ⟨⟨notAbove, supported, large⟩, kubeadm⟩

/-- A run without skipped checks reports what is unstable and the problems of the versions, unless a check fails.  The
problems are those of the policy exactly if, for minors that conform, the majors are equal just when the minor of the
control plane is not below the supported skew. -/
theorem runPreflightChecks_policy_iff {inputs : Inputs} {controlPlane : ControlPlane} {cpVersion msVersion : String}
    (checks : inputs.enabled = true ∧ inputs.skipped = []) (hasRef : inputs.controlPlaneRef.isSome)
    (fetched : inputs.controlPlane = .ok controlPlane) (hasVersion : controlPlane.version = .ok (some cpVersion))
    (setVersion : inputs.version = some msVersion) (isCp : parseTolerant cpVersion = .ok cpSemver)
    (isMs : parseTolerant msVersion = .ok msSemver) :
    (∀ message, runPreflightChecks parseTolerant parseGroup inputs = .ok message ↔
      ∃ unstable, controlPlaneStablePreflightCheck controlPlane = .ok unstable ∧
        (kubeadmVersionPreflightCheck parseGroup cpSemver msSemver inputs.configRef).isOk ∧ message =
          joinTexts "; " (unstable.toList ++ versionProblems parseGroup cpSemver msSemver inputs.configRef)) ∧
      ((versionProblems parseGroup cpSemver msSemver inputs.configRef = [] ↔
          cpSemver.major = msSemver.major ∧ MinorsConform parseGroup cpSemver msSemver inputs.configRef) ↔
        (MinorsConform parseGroup cpSemver msSemver inputs.configRef →
          (cpSemver.major = msSemver.major ↔ minorSkew cpSemver ≤ cpSemver.minor))) := by
  rcases Option.isSome_iff_exists.mp hasRef with ⟨ref, isRef⟩
  constructor
  · intro message
    simp only [runPreflightChecks, versionProblems, Except.mapError, checks.1, checks.2, isRef,
      fetched, hasVersion, setVersion, isCp, isMs, bind, Except.bind, pure, Except.pure]
    cases controlPlaneStablePreflightCheck controlPlane with
    | error => simp
    | ok unstable =>
      cases kubeadmVersionPreflightCheck parseGroup cpSemver msSemver inputs.configRef with
      | error => simp [Except.isOk, Except.toBool]
      | ok kubeadm =>
        cases unstable <;> cases kubernetesVersionPreflightCheck cpSemver msSemver <;> cases kubeadm <;>
          simp [Except.isOk, Except.toBool, Except.toOption, eq_comm]
  · rw [versionProblems_eq_nil]
    tauto

namespace Example

def inputs (cpVersion msVersion : String) : Inputs :=
  ⟨true, "", [], some "", .ok ⟨"", "", .ok (some cpVersion), .ok false, .ok false⟩, "", some msVersion, none⟩

/-- The group of an API version; there is no configRef here. -/
def noGroup (_ : String) : Except String String := .ok ""

end Example

theorem runPreflightChecks_policy_release :
    runPreflightChecks Version.readTolerant Example.noGroup (Example.inputs "v1.30.0" "v1.28.3") = .ok "" :=
  ((@runPreflightChecks_policy_iff Version.readTolerant Example.noGroup (.release 1 30 0) (.release 1 28 3)
    (Example.inputs "v1.30.0" "v1.28.3") _ "v1.30.0" "v1.28.3" ⟨rfl, rfl⟩ rfl rfl rfl rfl (by decide)
    (by decide)).1 "").mpr ⟨none, rfl, rfl, by decide⟩

/-- A MachineSet of the version of the control plane is held back as too old, and one of another major is not held
back. -/
theorem runPreflightChecks_wraps :
    Version.readTolerant "v1.1.0" = .ok (.release 1 1 0) ∧
      MinorsConform Example.noGroup (.release 1 1 0) (.release 1 1 0) none ∧
      runPreflightChecks Version.readTolerant Example.noGroup (Example.inputs "v1.1.0" "v1.1.0") ≠ .ok "" ∧
      runPreflightChecks Version.readTolerant Example.noGroup (Example.inputs "v2.30.0" "v1.30.0") = .ok "" :=
  ⟨by decide, ⟨by decide, by decide, fun _ => rfl⟩, by decide +kernel, by decide +kernel⟩

end ClusterApi.MachineSet.Preflight

import ClusterApi.Topology.State

namespace ClusterApi.Topology

open Foundation

/-!
# Admission of topology version updates

The Cluster webhook decides whether `spec.topology.version` may change.  It
refuses decreases, refuses jumps over a minor version, and admits the next
minor version only while the control plane and all workers are at the current
version.

Both ceilings are releases of patch zero, so a pre-release of such a version
stays below them, and neither side of the decrease rule may have the precedence
of `0.0.0`.
-/

/-- An `Invalid` error of a field. -/
structure FieldError where
  field : String
  badValue : String
  detail : String

variable (parseTolerant : VersionReader)

/-- The control plane is at the current version and neither provisioning nor upgrading. -/
def validateTopologyControlPlaneVersion (state : ClusterState) (oldVersion : Version) : Except String Unit :=
  match state.controlPlane with
  | none => .error (wrap "failed to get ControlPlane object" "cannot get object - object reference not set")
  | some controlPlane =>
    match parseTolerant controlPlane.version with
    | .error _ => .error "failed to parse version of ControlPlane"
    | .ok version =>
      if version.compare oldVersion ≠ 0 then
        .error ("ControlPlane version " ++ quote version.toText ++ " does not match the current version " ++
          quote oldVersion.toText)
      else if controlPlane.isProvisioning then .error "ControlPlane is currently provisioning"
      else
        match controlPlane.isUpgrading parseTolerant with
        | .error error => .error (wrap "failed to check if ControlPlane is upgrading" error)
        | .ok true => .error "ControlPlane is still completing a previous upgrade"
        | .ok false => .ok ()

/-- The workers that are not at the current version, or still upgrading to it. -/
def workersNotAt (kind : String) (isUpgrading : Worker → Except String Bool)
    (oldVersion : Version) : List Worker → Except String (List String)
  | [] => .ok []
  | worker :: rest =>
    match parseTolerant worker.version with
    | .error error => .error (wrap ("failed to parse " ++ kind ++ "'s " ++ quote worker.name ++ " version " ++
        quote worker.version) error)
    | .ok version =>
      if version.compare oldVersion ≠ 0 then
        (workersNotAt kind isUpgrading oldVersion rest).map fun names => worker.name :: names
      else
        match isUpgrading worker with
        | .error error => .error (wrap ("failed to check if " ++ kind ++ " is upgrading") error)
        | .ok upgrading =>
          (workersNotAt kind isUpgrading oldVersion rest).map fun names =>
            if upgrading then worker.name :: names else names

def validateTopologyWorkerVersions (kind : String) (isUpgrading : Worker → Except String Bool)
    (workers : List Worker) (oldVersion : Version) : Except String Unit :=
  match workersNotAt parseTolerant kind isUpgrading oldVersion workers with
  | .error error => .error error
  | .ok [] => .ok ()
  | .ok names => .error ("there are " ++ kind ++ "s still completing a previous upgrade: [" ++
      ", ".intercalate names ++ "]")

def validateTopologyMachineDeploymentVersions (state : ClusterState) (oldVersion : Version) : Except String Unit :=
  validateTopologyWorkerVersions parseTolerant "MachineDeployment" isMachineDeploymentUpgrading
    state.machineDeployments oldVersion

def validateTopologyMachinePoolVersions (state : ClusterState) (oldVersion : Version) : Except String Unit :=
  validateTopologyWorkerVersions parseTolerant "MachinePool" isMachinePoolUpgrading state.machinePools oldVersion

/-- The message of a failed check, if it failed. -/
def blocked (subject : String) : Except String Unit → List String
  | .ok () => []
  | .error error => ["blocking version update due to " ++ subject ++ " version check: " ++ error]

def validateTopologyVersion (path value : String) (inVersion oldVersion : Version)
    (state : ClusterState) : Option FieldError :=
  let zero := Version.release 0 0 0
  if inVersion.compare zero ≠ 0 ∧ oldVersion.compare zero ≠ 0 ∧
      Util.compare inVersion oldVersion Util.withBuildTags = -1 then
    some ⟨path, value, "version cannot be decreased from " ++ quote oldVersion.toText ++ " to " ++
      quote inVersion.toText⟩
  else if Version.release oldVersion.major (oldVersion.minor + 2) 0 ≤ inVersion then
    some ⟨path, value, "version cannot be increased from " ++ quote oldVersion.toText ++ " to " ++
      quote inVersion.toText⟩
  else if ¬ Version.release oldVersion.major (oldVersion.minor + 1) 0 ≤ inVersion then none
  else
    match blocked "ControlPlane" (validateTopologyControlPlaneVersion parseTolerant state oldVersion) ++
        blocked "MachineDeployment" (validateTopologyMachineDeploymentVersions parseTolerant state oldVersion) ++
        blocked "MachinePool" (validateTopologyMachinePoolVersions parseTolerant state oldVersion) with
    | [] => none
    | errors => some ⟨path, value, "minor version update cannot happen at this time: " ++ aggregate errors⟩

/-- The part of `validateTopology` that looks at the version, on update and
without the annotation that skips it.  A version that does not parse is
compared as `0.0.0`. -/
def validateTopology (state : ClusterState) (newVersion : String) : List FieldError :=
  let path := "spec.topology.version"
  let oldVersion := state.topology.version
  (if Util.kubeSemver newVersion then [] else [⟨path, newVersion, "version must be a valid semantic version"⟩]) ++
    (match parseTolerant newVersion with
      | .error _ => [⟨path, newVersion, "version must be a valid semantic version"⟩]
      | .ok _ => []) ++
    (match parseTolerant oldVersion with
      | .error _ => [⟨path, oldVersion, "old version must be a valid semantic version"⟩]
      | .ok _ => []) ++
    (validateTopologyVersion parseTolerant path newVersion
      ((parseTolerant newVersion).toOption.getD (Version.release 0 0 0))
      ((parseTolerant oldVersion).toOption.getD (Version.release 0 0 0)) state).toList

/-! ## What admission guarantees -/

variable {parseTolerant} {isUpgrading : Worker → Except String Bool} {oldVersion : Version}
  {workers : List Worker} {state : ClusterState} {kind : String}

theorem workersNotAt_eq_nil (none : workersNotAt parseTolerant kind isUpgrading oldVersion workers = .ok []) :
    ∀ worker ∈ workers, ∃ version, parseTolerant worker.version = .ok version ∧ version.key = oldVersion.key := by
  induction workers with
  | nil => simp
  | cons _ rest ih =>
    unfold workersNotAt at none
    split at none
    · cases none
    rename_i version parsed
    have behind : workersNotAt parseTolerant kind isUpgrading oldVersion rest = .ok [] ∧
        version.compare oldVersion = 0 := by
      split_ifs at none with different
      · cases later : workersNotAt parseTolerant kind isUpgrading oldVersion rest <;>
          simp [later, Except.map] at none
      · split at none
        · cases none
        · cases later : workersNotAt parseTolerant kind isUpgrading oldVersion rest with
          | error => simp [later, Except.map] at none
          | ok =>
            simp only [later, Except.map, Except.ok.injEq] at none
            split_ifs at none
            exact ⟨by rw [none], by simpa using different⟩
    intro candidate member
    rcases List.mem_cons.mp member with rfl | member
    · exact ⟨version, parsed, Version.compare_eq_zero.mp behind.2⟩
    · exact ih behind.1 candidate member

theorem blocked_eq_nil {subject : String} {outcome : Except String Unit} :
    blocked subject outcome = [] ↔ outcome = .ok () := by
  cases outcome <;> simp [blocked]

/-- The conditions under which a version update is admitted. -/
structure Admitted (parseTolerant : VersionReader) (state : ClusterState)
    (oldVersion newVersion : Version) : Prop where
  notDecreased : newVersion.compare (Version.release 0 0 0) ≠ 0 → oldVersion.compare
    (Version.release 0 0 0) ≠ 0 → oldVersion ≤ newVersion
  belowCeiling : ¬ Version.release oldVersion.major (oldVersion.minor + 2) 0 ≤ newVersion
  minorUpgrade : Version.release oldVersion.major (oldVersion.minor + 1) 0 ≤ newVersion →
    ∀ worker ∈ state.machineDeployments,
      ∃ version, parseTolerant worker.version = .ok version ∧ version.key = oldVersion.key

theorem validateTopologyVersion_eq_none {path value : String} {inVersion : Version}
    (admitted : validateTopologyVersion parseTolerant path value inVersion oldVersion state = none) :
    Admitted parseTolerant state oldVersion inVersion := by
  unfold validateTopologyVersion at admitted
  dsimp only at admitted
  split_ifs at admitted with decreased ceiling minorUpgrade
  all_goals
    refine ⟨?_, ceiling, ?_⟩
    · intro inNonzero oldNonzero
      exact Util.le_of_compare_withBuildTags fun below => decreased ⟨inNonzero, oldNonzero, below⟩
  · intro _
    split at admitted
    · rename_i noErrors
      rw [List.append_eq_nil_iff, List.append_eq_nil_iff, blocked_eq_nil, blocked_eq_nil] at noErrors
      have valid := noErrors.1.2
      unfold validateTopologyMachineDeploymentVersions validateTopologyWorkerVersions at valid
      split at valid
      · cases valid
      · rename_i none
        exact workersNotAt_eq_nil none
      · cases valid
    · cases admitted
  · exact fun atLeast => absurd atLeast minorUpgrade

theorem validateTopology_eq_nil {newVersion : String} (valid : validateTopology parseTolerant state newVersion = []) :
    ∃ old new, parseTolerant state.topology.version = .ok old ∧ parseTolerant newVersion = .ok new ∧
      Admitted parseTolerant state old new := by
  simp only [validateTopology, List.append_eq_nil_iff, Option.toList_eq_nil_iff] at valid
  rcases valid with ⟨⟨⟨-, parsedNew⟩, parsedOld⟩, admitted⟩
  cases new : parseTolerant newVersion with
  | error => simp [new] at parsedNew
  | ok newParsed =>
    cases old : parseTolerant state.topology.version with
    | error => simp [old] at parsedOld
    | ok oldParsed =>
      rw [new, old] at admitted
      exact ⟨oldParsed, newParsed, rfl, rfl, validateTopologyVersion_eq_none admitted⟩

end ClusterApi.Topology

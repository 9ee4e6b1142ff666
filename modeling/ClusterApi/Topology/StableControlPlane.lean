import ClusterApi.Topology.DesiredState

namespace ClusterApi.Topology

open Foundation

/-!
# Workers behind a stable control plane

A MachineDeployment takes a new version only if the tracker calls the control
plane stable.  The tracker is filled by `computeControlPlaneVersion`, which
returns early in two cases without recording what it did not look at: a control
plane that is provisioning is not asked whether it is upgrading or scaling, and
one that is at the version of the topology is not asked whether it is scaling.
-/

variable {parseTolerant : VersionReader} {calls : Calls} {version : String} {scope after : Scope}

theorem pickUpControlPlaneVersion_workers {currentVersion : String}
    (pickedUp : pickUpControlPlaneVersion calls scope currentVersion = .ok (version, after)) :
    after.upgradeTracker.machineDeployments = scope.upgradeTracker.machineDeployments ∧
      after.upgradeTracker.machinePools = scope.upgradeTracker.machinePools := by
  unfold pickUpControlPlaneVersion at pickedUp
  split at pickedUp
  · cases pickedUp
    exact ⟨rfl, rfl⟩
  · split at pickedUp
    case h_1 error failed => cases pickedUp
    case h_2 blocked asked =>
      cases pickedUp
      rw [(callBeforeClusterUpgrade_spec asked).2]
      exact ⟨rfl, rfl⟩
    case h_3 ready asked =>
      cases pickedUp
      have same := (callBeforeClusterUpgrade_spec asked).2
      have sameDeployments := congrArg UpgradeTracker.machineDeployments same
      have samePools := congrArg UpgradeTracker.machinePools same
      exact ⟨sameDeployments, samePools⟩

theorem ControlPlaneOutcome.workers (outcome : ControlPlaneOutcome parseTolerant calls scope version after) :
    after.upgradeTracker.machineDeployments = scope.upgradeTracker.machineDeployments ∧
      after.upgradeTracker.machinePools = scope.upgradeTracker.machinePools := by
  cases outcome with
  | absent | provisioning | upgrading | scaling => exact ⟨rfl, rfl⟩
  | reached _ _ _ _ called =>
    rw [(callAfterControlPlaneUpgrade_spec called).2]
    exact ⟨rfl, rfl⟩
  | picked _ _ _ _ _ pickedUp =>
    have workers := pickUpControlPlaneVersion_workers pickedUp
    exact workers

/-! ## The parts of a reconcile -/

/-- The MachineDeployments are decided behind the control plane, the MachinePools behind both. -/
structure GeneratedFrom (parseTolerant : VersionReader) (calls : Calls) (state : ClusterState)
    (desired : DesiredVersions) (scope : Scope) (deployments pools : List String) (middle : Scope) : Prop where
  upgradingDeployments : upgradingMachineDeployments state = .ok deployments
  upgradingPools : upgradingMachinePools state = .ok pools
  outcome : ControlPlaneOutcome parseTolerant calls (initialScope state deployments pools) desired.controlPlane middle
  machineDeployments : desired.machineDeployments =
    (computeWorkers computeMachineDeploymentVersion state.machineDeployments
      state.topology.machineDeployments middle).1
  final : scope = (computeWorkers computeMachinePoolVersion state.machinePools state.topology.machinePools
    (computeWorkers computeMachineDeploymentVersion state.machineDeployments
      state.topology.machineDeployments middle).2).2

theorem generate_from {state : ClusterState} {desired : DesiredVersions} {scope : Scope}
    (generated : generate parseTolerant calls state = .ok (desired, scope)) :
    ∃ deployments pools middle, GeneratedFrom parseTolerant calls state desired scope deployments pools middle := by
  rcases generate_eq_ok generated with
    ⟨deployments, pools, middle, upgradingDeployments, upgradingPools, computed, machineDeployments, final⟩
  exact ⟨deployments, pools, middle, upgradingDeployments, upgradingPools,
    computeControlPlaneVersion_outcome computed, machineDeployments, final⟩

/-! ## The decision about one worker -/

theorem length_markUpgrading_le (tracker : WorkerUpgradeTracker) (names : List String) :
    (tracker.markUpgrading names).upgradingNames.length ≤ tracker.upgradingNames.length + names.length := by
  unfold WorkerUpgradeTracker.markUpgrading
  induction names generalizing tracker with
  | nil => simp
  | cons name _ ih =>
    have later := ih { tracker with upgradingNames := tracker.upgradingNames.insert name }
    have inserted : (tracker.upgradingNames.insert name).length ≤ tracker.upgradingNames.length + 1 := by
      by_cases member : name ∈ tracker.upgradingNames
      · simp [member]
      · simp [member]
    simp only [List.foldl_cons, List.length_cons] at later ⊢
    omega

/-- The workers marked as upgrading stay within any bound that holds for the concurrency. -/
def WithinConcurrency (bound : Int) (tracker : WorkerUpgradeTracker) : Prop :=
  tracker.maxUpgradeConcurrency ≤ bound ∧ (tracker.upgradingNames.length : Int) ≤ bound

theorem computeWorkerVersion_withinConcurrency {bound : Int} {tracker : WorkerUpgradeTracker}
    (within : WithinConcurrency bound tracker) (stable blocking : Bool) (desiredVersion : String) (deferred : Bool)
    (topologyName : String) (current : Option Worker) :
    WithinConcurrency bound
      (computeWorkerVersion stable blocking desiredVersion deferred topologyName current tracker).2 := by
  unfold computeWorkerVersion
  cases current with
  | none =>
    dsimp only
    split_ifs
    · exact within
    · exact within
  | some worker =>
    dsimp only
    split_ifs with same isDeferred isBlocking reached unstable
    · exact within
    · exact within
    · exact within
    · exact within
    · exact within
    · have room : (tracker.upgradingNames.length : Int) < tracker.maxUpgradeConcurrency := by
        simpa [WorkerUpgradeTracker.upgradeConcurrencyReached] using reached
      have marked := length_markUpgrading_le tracker [worker.name]
      simp only [List.length_singleton] at marked
      refine ⟨within.1, ?_⟩
      have concurrency := within.1
      change ((tracker.markUpgrading [worker.name]).upgradingNames.length : Int) ≤ bound
      omega

/-! ## The decisions of a reconcile -/

section Decisions

variable {state : ClusterState} {desired : DesiredVersions} {scope middle : Scope} {deployments pools : List String}

/-- What the decisions about workers leave alone. -/
def SameDecision (middle later : Scope) : Prop :=
  later.hookResponses = middle.hookResponses ∧ later.current = middle.current ∧
    later.upgradeTracker.controlPlane = middle.upgradeTracker.controlPlane

theorem SameDecision.isBlocking {middle later : Scope} (same : SameDecision middle later)
    (hook : Hook) : later.isBlocking hook = middle.isBlocking hook := by
  rw [Scope.isBlocking, Scope.isBlocking, same.1]

variable (parts : GeneratedFrom parseTolerant calls state desired scope deployments pools middle)
include parts

theorem GeneratedFrom.same : SameDecision middle scope := by
  rw [parts.final]
  refine computeWorkers_keeps (SameDecision middle) (fun _ _ _ kept => kept) state.topology.machinePools ?_
  exact computeWorkers_keeps (SameDecision middle)
    (fun _ _ _ kept => kept) state.topology.machineDeployments ⟨rfl, rfl, rfl⟩

theorem GeneratedFrom.taken {name : String} {worker : Worker}
    (member : (name, state.topology.version) ∈ desired.machineDeployments)
    (found : findWorker state.machineDeployments name = some worker) (other : worker.version ≠ state.topology.version) :
    middle.upgradeTracker.controlPlane.isControlPlaneStable = true ∧
      middle.isBlocking .afterControlPlaneUpgrade = false := by
  have topology : middle.current.topology = state.topology := by rw [parts.outcome.reads]; rfl
  rw [parts.machineDeployments] at member
  refine computeWorkers_decided (SameDecision middle)
    (fun _ name version => ∀ worker, findWorker state.machineDeployments name = some worker →
      worker.version ≠ state.topology.version → version = state.topology.version →
        middle.upgradeTracker.controlPlane.isControlPlaneStable = true ∧
          middle.isBlocking .afterControlPlaneUpgrade = false)
    (fun _ _ _ kept => kept) ?_ (fun _ _ _ _ _ decided => decided) _ ⟨rfl, rfl, rfl⟩ member worker found other rfl
  intro _ _ same _ found other taken
  simp only [computeMachineDeploymentVersion, found, same.2.1, topology, same.2.2, same.isBlocking,
    computeWorkerVersion, other, if_false] at taken
  split_ifs at taken with isDeferred isBlocking reached unstable
  · exact absurd taken other
  · exact absurd taken other
  · exact absurd taken other
  · exact absurd taken other
  · exact ⟨by simpa using unstable, by simpa using isBlocking⟩

theorem GeneratedFrom.withinConcurrency :
    WithinConcurrency (max (max (state.topology.upgradeConcurrency.getD 1) 1) deployments.length)
      scope.upgradeTracker.machineDeployments := by
  have initially := length_markUpgrading_le
    (newUpgradeTracker state.topology.upgradeConcurrency).machineDeployments deployments
  have before : WithinConcurrency (max (max (state.topology.upgradeConcurrency.getD 1) 1) deployments.length)
      middle.upgradeTracker.machineDeployments := by
    rw [parts.outcome.workers.1]
    refine ⟨le_max_left _ _, ?_⟩
    have fresh : (newUpgradeTracker state.topology.upgradeConcurrency).machineDeployments.upgradingNames.length = 0 :=
      rfl
    rw [fresh, Nat.zero_add] at initially
    exact le_trans (Int.ofNat_le.mpr initially) (le_max_right _ _)
  rw [parts.final]
  refine computeWorkers_keeps (fun later => WithinConcurrency _ later.upgradeTracker.machineDeployments)
    (fun _ _ _ kept => kept) state.topology.machinePools ?_
  exact computeWorkers_keeps (fun later => WithinConcurrency _ later.upgradeTracker.machineDeployments)
    (fun _ _ _ kept => computeWorkerVersion_withinConcurrency kept _ _ _ _ _ _) state.topology.machineDeployments before

end Decisions

/-- What a MachineDeployment that takes a new version can rely on. -/
structure BehindStableControlPlane (parseTolerant : VersionReader) (state : ClusterState)
    (desired : DesiredVersions) (scope : Scope) : Prop where
  desiredVersion : desired.controlPlane = state.topology.version
  notBlocking : scope.isBlocking .afterControlPlaneUpgrade = false
  current : ∃ controlPlane, state.controlPlane = some controlPlane ∧
    controlPlane.version = state.topology.version ∧ controlPlane.isProvisioning = false ∧
    controlPlane.isUpgrading parseTolerant = .ok false ∧
    (state.topology.controlPlaneReplicas.isSome = true → controlPlane.isScaling = .ok false)

/-- What the tracker does not record of a control plane that is at the version of the topology. -/
def ProvisionedAndScaled (state : ClusterState) : Prop :=
  ∃ controlPlane, state.controlPlane = some controlPlane ∧ controlPlane.isProvisioning = false ∧
    (state.topology.controlPlaneReplicas.isSome = true → controlPlane.isScaling = .ok false)

/-- A MachineDeployment takes a new version behind a control plane that is at
that version and does not upgrade, unless the control plane is missing or still
provisioning; nothing keeps it back while the control plane is scaling.  The
number of MachineDeployments that upgrade at a time is always bounded. -/
theorem generate_behindStableControlPlane (parseTolerant : VersionReader) (calls : Calls)
    {state : ClusterState} {desired : DesiredVersions} {scope : Scope}
    (generated : generate parseTolerant calls state = .ok (desired, scope)) :
    (∀ deployments, upgradingMachineDeployments state = .ok deployments →
      (scope.upgradeTracker.machineDeployments.upgradingNames.length : Int) ≤
        max (max (state.topology.upgradeConcurrency.getD 1) 1) deployments.length) ∧
    ∀ name worker, (name, state.topology.version) ∈ desired.machineDeployments →
      findWorker state.machineDeployments name = some worker → worker.version ≠ state.topology.version →
      (BehindStableControlPlane parseTolerant state desired scope ↔ ProvisionedAndScaled state) := by
  rcases generate_from generated with ⟨_, _, _, parts⟩
  constructor
  · intro _ upgrading
    cases parts.upgradingDeployments.symm.trans upgrading
    exact parts.withinConcurrency.2
  · intro _ _ member found other
    rcases parts.taken member found other with ⟨stable, notBlocking⟩
    rcases parts.outcome.of_stable stable with ⟨desiredVersion, current⟩
    constructor
    · rintro ⟨-, -, controlPlane, present, -, provisioned, -, scaled⟩
      exact ⟨controlPlane, present, provisioned, scaled⟩
    · rintro ⟨controlPlane, present, provisioned, scaled⟩
      rcases current controlPlane present with ⟨atVersion, isProvisioning | ⟨-, upgraded, -⟩⟩
      · simp [provisioned] at isProvisioning
      · exact ⟨desiredVersion, (parts.same.isBlocking _).trans notBlocking,
          controlPlane, present, atVersion, provisioned, upgraded, scaled⟩

def scalingUp (readyReplicas : Int) : ClusterState :=
  { topology := { version := "v1.31.0", controlPlaneReplicas := some 3, machineDeployments := [{ name := "md-0" }] }
    controlPlane := some
      { version := "v1.31.0", replicas := some 3, statusVersion := some "v1.31.0", statusReplicas := some readyReplicas
        statusUpdatedReplicas := some readyReplicas, statusReadyReplicas := some readyReplicas }
    machineDeployments := [{ name := "cluster-md-0-x8xk4", topologyName := "md-0", version := "v1.30.2" }] }

def decidedVersions : DesiredVersions :=
  { controlPlane := "v1.31.0", machineDeployments := [("md-0", "v1.31.0")], machinePools := [] }

def decidedScope (state : ClusterState) : Scope :=
  let tracker := newUpgradeTracker none
  { current := state
    upgradeTracker := { tracker with
      machineDeployments := tracker.machineDeployments.markUpgrading ["cluster-md-0-x8xk4"] } }

theorem scaledUp_behindStableControlPlane :
    generate Version.readTolerant {} (scalingUp 3) = .ok (decidedVersions, decidedScope (scalingUp 3)) ∧
      BehindStableControlPlane Version.readTolerant (scalingUp 3) decidedVersions (decidedScope (scalingUp 3)) := by
  have generated : generate Version.readTolerant {} (scalingUp 3) = .ok (decidedVersions, decidedScope (scalingUp 3)) := by
    decide +kernel
  refine ⟨generated, ?_⟩
  exact ((generate_behindStableControlPlane Version.readTolerant {} generated).2 "md-0"
    { name := "cluster-md-0-x8xk4", topologyName := "md-0", version := "v1.30.2" } (by decide) (by decide)
    (by decide)).mpr ⟨_, rfl, by decide, fun _ => by decide⟩

/-- The MachineDeployment takes the new version while the control plane is scaling from one to three. -/
theorem scalingUp_takesVersion :
    generate Version.readTolerant {} (scalingUp 1) = .ok (decidedVersions, decidedScope (scalingUp 1)) ∧
      ("md-0", "v1.31.0") ∈ decidedVersions.machineDeployments ∧
      ¬ BehindStableControlPlane Version.readTolerant (scalingUp 1) decidedVersions (decidedScope (scalingUp 1)) := by
  refine ⟨by decide +kernel, by decide, ?_⟩
  rintro ⟨-, -, _, present, -, -, -, scaled⟩
  cases present
  exact absurd (scaled rfl) (by decide)

end ClusterApi.Topology

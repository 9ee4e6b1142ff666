import ClusterApi.Topology.State

namespace ClusterApi.Topology

open Foundation List

/-!
# Desired versions of a managed topology

One reconcile of the topology controller computes the version of the control
plane first and the versions of the workers afterwards, in the order of the
topology.  The upgrade tracker carries what the earlier decisions mean for the
later ones: which workers are upgrading, whether the control plane is stable,
which workers must not be created or touched in this reconcile.

The tracker's sets of names are lists without repetitions.  Hook calls and the
two patches of the pending-hooks annotation may fail; their answers are
supplied by `Calls`.
-/

/-! ## Trackers -/

structure ControlPlaneUpgradeTracker where
  isPendingUpgrade : Bool := false
  isProvisioning : Bool := false
  isUpgrading : Bool := false
  isStartingUpgrade : Bool := false
  isScaling : Bool := false
  deriving DecidableEq

/-- Provisioning is not looked at here: a control plane that comes up at the
topology version counts as stable. -/
def ControlPlaneUpgradeTracker.isControlPlaneStable (tracker : ControlPlaneUpgradeTracker) : Bool :=
  !tracker.isUpgrading && !tracker.isScaling && !tracker.isStartingUpgrade && !tracker.isPendingUpgrade

structure WorkerUpgradeTracker where
  pendingCreateTopologyNames : List String := []
  pendingUpgradeNames : List String := []
  deferredNames : List String := []
  upgradingNames : List String := []
  maxUpgradeConcurrency : Int
  deriving DecidableEq

namespace WorkerUpgradeTracker

def markUpgrading (tracker : WorkerUpgradeTracker) (names : List String) : WorkerUpgradeTracker :=
  { tracker with upgradingNames := names.foldl (fun marked name => marked.insert name) tracker.upgradingNames }

def upgradeConcurrencyReached (tracker : WorkerUpgradeTracker) : Bool :=
  (tracker.upgradingNames.length : Int) ≥ tracker.maxUpgradeConcurrency

def markPendingCreate (tracker : WorkerUpgradeTracker) (topologyName : String) : WorkerUpgradeTracker :=
  { tracker with pendingCreateTopologyNames := tracker.pendingCreateTopologyNames.insert topologyName }

def isPendingCreate (tracker : WorkerUpgradeTracker) (topologyName : String) : Bool :=
  tracker.pendingCreateTopologyNames.contains topologyName

def markPendingUpgrade (tracker : WorkerUpgradeTracker) (name : String) : WorkerUpgradeTracker :=
  { tracker with pendingUpgradeNames := tracker.pendingUpgradeNames.insert name }

def isPendingUpgrade (tracker : WorkerUpgradeTracker) (name : String) : Bool :=
  tracker.pendingUpgradeNames.contains name

def markDeferredUpgrade (tracker : WorkerUpgradeTracker) (name : String) : WorkerUpgradeTracker :=
  { tracker with deferredNames := tracker.deferredNames.insert name }

/-- Nothing is upgrading, waiting to be created, waiting to be upgraded or deferred. -/
def isSettled (tracker : WorkerUpgradeTracker) : Bool :=
  tracker.upgradingNames.isEmpty && tracker.pendingCreateTopologyNames.isEmpty &&
    tracker.pendingUpgradeNames.isEmpty && tracker.deferredNames.isEmpty

end WorkerUpgradeTracker

structure UpgradeTracker where
  controlPlane : ControlPlaneUpgradeTracker := {}
  machineDeployments : WorkerUpgradeTracker
  machinePools : WorkerUpgradeTracker
  deriving DecidableEq

/-- The concurrency is at least one, whatever the annotation says. -/
def newUpgradeTracker (upgradeConcurrency : Option Int) : UpgradeTracker :=
  let concurrency := max (upgradeConcurrency.getD 1) 1
  { machineDeployments := { maxUpgradeConcurrency := concurrency }
    machinePools := { maxUpgradeConcurrency := concurrency } }

/-- The request scope: what was read, and what the decisions so far amount to. -/
structure Scope where
  current : ClusterState
  upgradeTracker : UpgradeTracker
  hookResponses : List (Hook × Int) := []
  deriving DecidableEq

/-- A tracked response with a non-zero `retryAfterSeconds` blocks. -/
def Scope.isBlocking (scope : Scope) (hook : Hook) : Bool :=
  match scope.hookResponses.lookup hook with
  | none => false
  | some retryAfterSeconds => retryAfterSeconds ≠ 0

/-- The answers to the calls of one reconcile. -/
structure Calls where
  runtimeSDK : Bool := false
  retryAfterSeconds : Hook → Except String Int := fun _ => .ok 0
  markAsPending : Except String Unit := .ok ()
  markAsDone : Hook → Except String Unit := fun _ => .ok ()

/-! ## The control plane version -/

variable (parseTolerant : VersionReader) (calls : Calls)

/-- Call the AfterControlPlaneUpgrade hook if it is pending, and take it off
the annotation unless it asks to be called again. -/
def callAfterControlPlaneUpgrade (scope : Scope) : Except String Scope :=
  if calls.runtimeSDK && scope.current.pendingHooks.contains .afterControlPlaneUpgrade then
    match calls.retryAfterSeconds .afterControlPlaneUpgrade with
    | .error error => .error error
    | .ok retryAfterSeconds =>
      let answered := { scope with
        hookResponses := (.afterControlPlaneUpgrade, retryAfterSeconds) :: scope.hookResponses }
      if retryAfterSeconds ≠ 0 then .ok answered
      else
        match calls.markAsDone .afterControlPlaneUpgrade with
        | .error error => .error error
        | .ok () => .ok { answered with current := { answered.current with
            pendingHooks := answered.current.pendingHooks.filter (· ≠ .afterControlPlaneUpgrade) } }
  else .ok scope

/-- Call the BeforeClusterUpgrade hook.  The flag tells whether the upgrade may
start; the intent to call the two hooks afterwards is recorded if it may. -/
def callBeforeClusterUpgrade (scope : Scope) : Except String (Bool × Scope) :=
  if calls.runtimeSDK then
    match calls.retryAfterSeconds .beforeClusterUpgrade with
    | .error error => .error error
    | .ok retryAfterSeconds =>
      let answered := { scope with
        hookResponses := (.beforeClusterUpgrade, retryAfterSeconds) :: scope.hookResponses }
      if retryAfterSeconds ≠ 0 then .ok (false, answered)
      else
        match calls.markAsPending with
        | .error error => .error error
        | .ok () => .ok (true, { answered with current := { answered.current with
            pendingHooks := (answered.current.pendingHooks.insert .afterControlPlaneUpgrade).insert
              .afterClusterUpgrade } })
  else .ok (true, scope)

def Scope.trackControlPlane (scope : Scope)
    (change : ControlPlaneUpgradeTracker → ControlPlaneUpgradeTracker) : Scope :=
  { scope with upgradeTracker := { scope.upgradeTracker with
      controlPlane := change scope.upgradeTracker.controlPlane } }

/-- The last part of `computeControlPlaneVersion`, for a control plane that is
stable and not yet at the desired version. -/
def pickUpControlPlaneVersion (scope : Scope) (currentVersion : String) : Except String (String × Scope) :=
  if !scope.upgradeTracker.machineDeployments.upgradingNames.isEmpty ||
      !scope.upgradeTracker.machinePools.upgradingNames.isEmpty then
    .ok (currentVersion, scope)
  else
    match callBeforeClusterUpgrade calls scope with
    | .error error => .error error
    | .ok (false, blocked) => .ok (currentVersion, blocked)
    | .ok (true, ready) => .ok (ready.current.topology.version, ready.trackControlPlane fun tracker =>
      { tracker with isPendingUpgrade := false, isStartingUpgrade := true })

def computeControlPlaneVersion (scope : Scope) : Except String (String × Scope) :=
  let desiredVersion := scope.current.topology.version
  match scope.current.controlPlane with
  | none => .ok (desiredVersion, scope)
  | some controlPlane =>
    let pending : Bool := controlPlane.version ≠ desiredVersion
    let scope := scope.trackControlPlane fun tracker => { tracker with isPendingUpgrade := pending }
    if controlPlane.isProvisioning then
      .ok (controlPlane.version, scope.trackControlPlane fun tracker => { tracker with isProvisioning := true })
    else
      match controlPlane.isUpgrading parseTolerant with
      | .error error => .error (wrap "failed to check if control plane is upgrading" error)
      | .ok true =>
        .ok (controlPlane.version, scope.trackControlPlane fun tracker => { tracker with isUpgrading := true })
      | .ok false =>
        if !pending then
          (callAfterControlPlaneUpgrade calls scope).map fun answered => (controlPlane.version, answered)
        else if scope.current.topology.controlPlaneReplicas.isSome then
          match controlPlane.isScaling with
          | .error error => .error (wrap "failed to check if the control plane is scaling" error)
          | .ok true =>
            .ok (controlPlane.version,
              scope.trackControlPlane fun tracker => { tracker with isScaling := true })
          | .ok false => pickUpControlPlaneVersion calls scope controlPlane.version
        else pickUpControlPlaneVersion calls scope controlPlane.version

/-! ## The worker versions -/

/-- A worker topology is deferred by either annotation on itself, or by the
hold annotation on an entry before it. -/
def isWorkerDeferred (workerTopology : WorkerTopology) (workers : List WorkerTopology) : Bool :=
  workerTopology.deferUpgrade || workerTopology.holdUpgradeSequence || go workers
where
  go : List WorkerTopology → Bool
    | [] => false
    | candidate :: rest =>
      if candidate.holdUpgradeSequence then true
      else if candidate.name = workerTopology.name then false
      else go rest

/-- The version of one worker, and the tracker after the decision. -/
def computeWorkerVersion (stable blocking : Bool) (desiredVersion : String) (deferred : Bool)
    (topologyName : String) (current : Option Worker) (tracker : WorkerUpgradeTracker) :
    String × WorkerUpgradeTracker :=
  match current with
  | none => (desiredVersion, if !stable || blocking then tracker.markPendingCreate topologyName else tracker)
  | some worker =>
    if worker.version = desiredVersion then (worker.version, tracker)
    else if deferred then
      (worker.version, (tracker.markDeferredUpgrade worker.name).markPendingUpgrade worker.name)
    else if blocking then (worker.version, tracker.markPendingUpgrade worker.name)
    else if tracker.upgradeConcurrencyReached then (worker.version, tracker.markPendingUpgrade worker.name)
    else if !stable then (worker.version, tracker.markPendingUpgrade worker.name)
    else (desiredVersion, tracker.markUpgrading [worker.name])

def findWorker (workers : List Worker) (topologyName : String) : Option Worker :=
  workers.find? fun worker => worker.topologyName = topologyName

def computeMachineDeploymentVersion (scope : Scope) (machineDeploymentTopology : WorkerTopology)
    (current : Option Worker) : String × Scope :=
  let (version, tracker) := computeWorkerVersion scope.upgradeTracker.controlPlane.isControlPlaneStable
    (scope.isBlocking .afterControlPlaneUpgrade) scope.current.topology.version
    (isWorkerDeferred machineDeploymentTopology scope.current.topology.machineDeployments)
    machineDeploymentTopology.name current scope.upgradeTracker.machineDeployments
  (version, { scope with upgradeTracker := { scope.upgradeTracker with machineDeployments := tracker } })

def computeMachinePoolVersion (scope : Scope) (machinePoolTopology : WorkerTopology)
    (current : Option Worker) : String × Scope :=
  let (version, tracker) := computeWorkerVersion scope.upgradeTracker.controlPlane.isControlPlaneStable
    (scope.isBlocking .afterControlPlaneUpgrade) scope.current.topology.version
    (isWorkerDeferred machinePoolTopology scope.current.topology.machinePools)
    machinePoolTopology.name current scope.upgradeTracker.machinePools
  (version, { scope with upgradeTracker := { scope.upgradeTracker with machinePools := tracker } })

/-- The desired workers, keyed by their name in the topology. -/
def computeWorkers (computeVersion : Scope → WorkerTopology → Option Worker → String × Scope)
    (workers : List Worker) : List WorkerTopology → Scope → List (String × String) × Scope
  | [], scope => ([], scope)
  | workerTopology :: rest, scope =>
    let (version, scope) := computeVersion scope workerTopology (findWorker workers workerTopology.name)
    let (desired, scope) := computeWorkers computeVersion workers rest scope
    ((workerTopology.name, version) :: desired, scope)

/-! ## One reconcile -/

/-- The versions a reconcile aims at. -/
structure DesiredVersions where
  controlPlane : String
  machineDeployments : List (String × String)
  machinePools : List (String × String)
  deriving DecidableEq

/-- Two workers with one topology name are an error of `getCurrentState`. -/
def checkDuplicates (kind label : String) : List Worker → Except String Unit
  | [] => .ok ()
  | worker :: rest =>
    if rest.any fun other => other.topologyName = worker.topologyName then
      .error ("duplicate " ++ kind ++ " " ++ worker.name ++ " found for label " ++ label ++ ": " ++
        worker.topologyName)
    else checkDuplicates kind label rest

/-- Read the current state, mark the workers that are upgrading, and compute all versions. -/
def generate (state : ClusterState) : Except String (DesiredVersions × Scope) := do
  checkDuplicates "MachineDeployment" "topology.cluster.x-k8s.io/deployment-name" state.machineDeployments
  checkDuplicates "MachinePool" "topology.cluster.x-k8s.io/pool-name" state.machinePools
  let upgradingMachineDeployments ← upgradingNames isMachineDeploymentUpgrading
    "failed to list upgrading MachineDeployments" state.machineDeployments
  let upgradingMachinePools ← upgradingNames isMachinePoolUpgrading
    "failed to list upgrading MachinePools" state.machinePools
  let tracker := newUpgradeTracker state.topology.upgradeConcurrency
  let scope : Scope := { current := state, upgradeTracker := { tracker with
    machineDeployments := tracker.machineDeployments.markUpgrading upgradingMachineDeployments
    machinePools := tracker.machinePools.markUpgrading upgradingMachinePools } }
  let (controlPlaneVersion, scope) ← computeControlPlaneVersion parseTolerant calls scope
  let (machineDeployments, scope) := computeWorkers computeMachineDeploymentVersion
    state.machineDeployments state.topology.machineDeployments scope
  let (machinePools, scope) := computeWorkers computeMachinePoolVersion
    state.machinePools state.topology.machinePools scope
  return ({ controlPlane := controlPlaneVersion, machineDeployments, machinePools }, scope)

/-- Call the AfterClusterUpgrade hook once nothing of the upgrade is left. -/
def callAfterClusterUpgrade (scope : Scope) : Except String Scope :=
  if calls.runtimeSDK && scope.current.pendingHooks.contains .afterClusterUpgrade &&
      scope.upgradeTracker.controlPlane.isControlPlaneStable &&
      scope.upgradeTracker.machineDeployments.isSettled && scope.upgradeTracker.machinePools.isSettled then
    match calls.retryAfterSeconds .afterClusterUpgrade with
    | .error error => .error error
    | .ok retryAfterSeconds =>
      match calls.markAsDone .afterClusterUpgrade with
      | .error error => .error error
      | .ok () => .ok { scope with
          hookResponses := (.afterClusterUpgrade, retryAfterSeconds) :: scope.hookResponses
          current := { scope.current with
            pendingHooks := scope.current.pendingHooks.filter (· ≠ .afterClusterUpgrade) } }
  else .ok scope

/-! ## What the decisions can do -/

/-- The scope holds the objects of the state: only the pending hooks may differ. -/
def Scope.Reads (scope : Scope) (state : ClusterState) : Prop :=
  scope.current = { state with pendingHooks := scope.current.pendingHooks }

variable {scope after : Scope} {state : ClusterState} {version : String}
  {tracker : WorkerUpgradeTracker} {workers : List Worker}

theorem Scope.Reads.trans {middle : Scope} (later : scope.Reads middle.current)
    (earlier : middle.Reads state) : scope.Reads state := by
  rw [Reads, later, earlier]

/-- The ways in which `computeControlPlaneVersion` succeeds. -/
inductive ControlPlaneOutcome (scope : Scope) : String → Scope → Prop
  | absent (missing : scope.current.controlPlane = none) :
      ControlPlaneOutcome scope scope.current.topology.version scope
  | provisioning {controlPlane : ControlPlane} (present : scope.current.controlPlane = some controlPlane)
      (isProvisioning : controlPlane.isProvisioning = true) :
      ControlPlaneOutcome scope controlPlane.version (scope.trackControlPlane fun tracker =>
        { tracker with
          isPendingUpgrade := controlPlane.version ≠ scope.current.topology.version, isProvisioning := true })
  | upgrading {controlPlane : ControlPlane} (present : scope.current.controlPlane = some controlPlane)
      (provisioned : controlPlane.isProvisioning = false) (isUpgrading : controlPlane.isUpgrading parseTolerant = .ok true) :
      ControlPlaneOutcome scope controlPlane.version (scope.trackControlPlane fun tracker =>
        { tracker with
          isPendingUpgrade := controlPlane.version ≠ scope.current.topology.version, isUpgrading := true })
  | reached {controlPlane : ControlPlane} {after : Scope} (present : scope.current.controlPlane = some controlPlane)
      (provisioned : controlPlane.isProvisioning = false) (upgraded : controlPlane.isUpgrading parseTolerant = .ok false)
      (atVersion : controlPlane.version = scope.current.topology.version)
      (called : callAfterControlPlaneUpgrade calls
        (scope.trackControlPlane fun tracker => { tracker with isPendingUpgrade := false }) = .ok after) :
      ControlPlaneOutcome scope controlPlane.version after
  | scaling {controlPlane : ControlPlane} (present : scope.current.controlPlane = some controlPlane)
      (provisioned : controlPlane.isProvisioning = false) (upgraded : controlPlane.isUpgrading parseTolerant = .ok false)
      (behind : controlPlane.version ≠ scope.current.topology.version)
      (isScaling : controlPlane.isScaling = .ok true) :
      ControlPlaneOutcome scope controlPlane.version (scope.trackControlPlane fun tracker =>
        { tracker with isPendingUpgrade := true, isScaling := true })
  | picked {controlPlane : ControlPlane} {version : String} {after : Scope}
      (present : scope.current.controlPlane = some controlPlane)
      (provisioned : controlPlane.isProvisioning = false) (upgraded : controlPlane.isUpgrading parseTolerant = .ok false)
      (behind : controlPlane.version ≠ scope.current.topology.version)
      (scaled : scope.current.topology.controlPlaneReplicas.isSome = true → controlPlane.isScaling = .ok false)
      (pickedUp : pickUpControlPlaneVersion calls
        (scope.trackControlPlane fun tracker => { tracker with isPendingUpgrade := true }) controlPlane.version =
          .ok (version, after)) :
      ControlPlaneOutcome scope version after

variable {parseTolerant calls}

/-- The version of a control plane that exists is its own or that of the
topology, and a stable control plane is already at the version of the topology. -/
structure ControlPlaneDecision (state : ClusterState) (version : String) (after : Scope) : Prop where
  reads : after.Reads state
  created : state.controlPlane = none → version = state.topology.version
  kept : ∀ controlPlane, state.controlPlane = some controlPlane →
    version = controlPlane.version ∨ version = state.topology.version
  stable : after.upgradeTracker.controlPlane.isControlPlaneStable = true →
    ∀ controlPlane, state.controlPlane = some controlPlane →
      controlPlane.version = state.topology.version

theorem callAfterControlPlaneUpgrade_spec (called : callAfterControlPlaneUpgrade calls scope = .ok after) :
    after.Reads scope.current ∧ after.upgradeTracker = scope.upgradeTracker := by
  unfold callAfterControlPlaneUpgrade at called
  split at called
  · split at called
    · cases called
    · split at called
      · cases called
        exact ⟨rfl, rfl⟩
      · split at called
        · cases called
        · cases called
          exact ⟨rfl, rfl⟩
  · cases called
    exact ⟨rfl, rfl⟩

theorem callBeforeClusterUpgrade_spec {ready : Bool}
    (called : callBeforeClusterUpgrade calls scope = .ok (ready, after)) :
    after.Reads scope.current ∧ after.upgradeTracker = scope.upgradeTracker := by
  unfold callBeforeClusterUpgrade at called
  split at called
  · split at called
    · cases called
    · split at called
      · cases called
        exact ⟨rfl, rfl⟩
      · split at called
        · cases called
        · cases called
          exact ⟨rfl, rfl⟩
  · cases called
    exact ⟨rfl, rfl⟩

/-- Picking up a version either keeps the tracker and the current version, or
takes the version of the topology and is no longer stable. -/
theorem pickUpControlPlaneVersion_spec {currentVersion : String}
    (picked : pickUpControlPlaneVersion calls scope currentVersion = .ok (version, after)) :
    after.Reads scope.current ∧
      (version = currentVersion ∧ after.upgradeTracker = scope.upgradeTracker ∨
        version = scope.current.topology.version ∧
          after.upgradeTracker.controlPlane.isControlPlaneStable = false) := by
  unfold pickUpControlPlaneVersion at picked
  split at picked
  · cases picked
    exact ⟨rfl, .inl ⟨rfl, rfl⟩⟩
  · split at picked
    · cases picked
    · rename_i asked
      cases picked
      rcases callBeforeClusterUpgrade_spec asked with ⟨same, tracker⟩
      exact ⟨same, .inl ⟨rfl, tracker⟩⟩
    · rename_i asked
      cases picked
      rcases callBeforeClusterUpgrade_spec asked with ⟨same, -⟩
      refine ⟨same, .inr ⟨?_, ?_⟩⟩
      · rw [same]
      · simp [Scope.trackControlPlane, ControlPlaneUpgradeTracker.isControlPlaneStable]

theorem not_stable_of_pending {tracker : ControlPlaneUpgradeTracker}
    (pending : tracker.isPendingUpgrade = true) : tracker.isControlPlaneStable = false := by
  simp [ControlPlaneUpgradeTracker.isControlPlaneStable, pending]

theorem not_stable_of_pickUp {currentVersion : String}
    (picked : pickUpControlPlaneVersion calls
      (scope.trackControlPlane fun tracker => { tracker with isPendingUpgrade := true }) currentVersion =
        .ok (version, after)) : after.upgradeTracker.controlPlane.isControlPlaneStable = false := by
  rcases (pickUpControlPlaneVersion_spec picked).2 with ⟨-, tracker⟩ | ⟨-, unstable⟩
  · exact not_stable_of_pending (by rw [tracker]; rfl)
  · exact unstable

theorem computeControlPlaneVersion_outcome
    (computed : computeControlPlaneVersion parseTolerant calls scope = .ok (version, after)) :
    ControlPlaneOutcome parseTolerant calls scope version after := by
  unfold computeControlPlaneVersion at computed
  cases present : scope.current.controlPlane with
  | none =>
    rw [present] at computed
    cases computed
    exact .absent present
  | some controlPlane =>
    rw [present] at computed
    dsimp only at computed
    split at computed
    case isTrue isProvisioning =>
      cases computed
      exact .provisioning present isProvisioning
    case isFalse provisioned =>
      rw [Bool.not_eq_true] at provisioned
      split at computed
      case h_1 error failed => cases computed
      case h_2 isUpgrading =>
        cases computed
        exact .upgrading present provisioned isUpgrading
      case h_3 upgraded =>
        split at computed
        case isTrue notPending =>
          have atVersion : controlPlane.version = scope.current.topology.version := by simpa using notPending
          cases called : callAfterControlPlaneUpgrade calls _ with
          | error =>
            rw [called] at computed
            cases computed
          | ok =>
            rw [called] at computed
            cases computed
            simp only [atVersion, ne_eq, not_true_eq_false, decide_false] at called
            exact .reached present provisioned upgraded atVersion called
        case isFalse pending =>
          have behind : controlPlane.version ≠ scope.current.topology.version := by simpa using pending
          simp only [behind, ne_eq, not_false_eq_true, decide_true] at computed
          split at computed
          case isTrue supported =>
            split at computed
            case h_1 error failed => cases computed
            case h_2 isScaling =>
              cases computed
              exact .scaling present provisioned upgraded behind isScaling
            case h_3 scaled => exact .picked present provisioned upgraded behind (fun _ => scaled) computed
          case isFalse unsupported =>
            exact .picked present provisioned upgraded behind (fun supported => absurd supported unsupported) computed

section

variable (outcome : ControlPlaneOutcome parseTolerant calls scope version after)
include outcome

theorem ControlPlaneOutcome.reads : after.Reads scope.current := by
  cases outcome with
  | absent | provisioning | upgrading | scaling => rfl
  | reached _ _ _ _ called => exact (callAfterControlPlaneUpgrade_spec called).1
  | picked _ _ _ _ _ pickedUp => exact (pickUpControlPlaneVersion_spec pickedUp).1

/-- Behind a control plane that the tracker calls stable: there is none yet, or
it is at the version of the topology and either provisioning or not upgrading. -/
theorem ControlPlaneOutcome.of_stable (stable : after.upgradeTracker.controlPlane.isControlPlaneStable = true) :
    version = scope.current.topology.version ∧
      ∀ controlPlane, scope.current.controlPlane = some controlPlane →
        controlPlane.version = scope.current.topology.version ∧
          (controlPlane.isProvisioning = true ∨ controlPlane.isProvisioning = false ∧
            controlPlane.isUpgrading parseTolerant = .ok false ∧
            callAfterControlPlaneUpgrade calls
              (scope.trackControlPlane fun tracker => { tracker with isPendingUpgrade := false }) = .ok after) := by
  cases outcome with
  | absent missing => exact ⟨rfl, by simp [missing]⟩
  | @provisioning controlPlane present isProvisioning =>
    have atVersion : controlPlane.version = scope.current.topology.version := by
      by_contra behind
      rw [not_stable_of_pending (by simp [Scope.trackControlPlane, behind])] at stable
      cases stable
    refine ⟨atVersion, fun other found => ?_⟩
    cases present.symm.trans found
    exact ⟨atVersion, .inl isProvisioning⟩
  | upgrading =>
    simp [Scope.trackControlPlane, ControlPlaneUpgradeTracker.isControlPlaneStable] at stable
  | reached present provisioned upgraded atVersion called =>
    refine ⟨atVersion, fun other found => ?_⟩
    cases present.symm.trans found
    exact ⟨atVersion, .inr ⟨provisioned, upgraded, called⟩⟩
  | scaling =>
    rw [not_stable_of_pending rfl] at stable
    cases stable
  | picked _ _ _ _ _ pickedUp =>
    rw [not_stable_of_pickUp pickedUp] at stable
    cases stable

theorem ControlPlaneOutcome.version_eq :
    version = scope.current.topology.version ∨
      ∃ controlPlane, scope.current.controlPlane = some controlPlane ∧ version = controlPlane.version := by
  cases outcome with
  | absent => exact .inl rfl
  | provisioning present => exact .inr ⟨_, present, rfl⟩
  | upgrading present => exact .inr ⟨_, present, rfl⟩
  | reached present => exact .inr ⟨_, present, rfl⟩
  | scaling present => exact .inr ⟨_, present, rfl⟩
  | picked present _ _ _ _ pickedUp =>
    rcases (pickUpControlPlaneVersion_spec pickedUp).2 with ⟨kept, -⟩ | ⟨taken, -⟩
    · exact .inr ⟨_, present, kept⟩
    · exact .inl taken

end

theorem computeControlPlaneVersion_spec
    (computed : computeControlPlaneVersion parseTolerant calls scope = .ok (version, after)) :
    ControlPlaneDecision scope.current version after := by
  have outcome := computeControlPlaneVersion_outcome computed
  constructor
  case reads => exact outcome.reads
  case created =>
    intro missing
    rcases outcome.version_eq with taken | ⟨controlPlane, present, -⟩
    · exact taken
    · cases missing.symm.trans present
  case kept =>
    intro controlPlane found
    rcases outcome.version_eq with taken | ⟨_, present, kept⟩
    · exact .inr taken
    · cases present.symm.trans found
      exact .inl kept
  case stable =>
    intro stable controlPlane found
    exact ((outcome.of_stable stable).2 controlPlane found).1

/-- A worker that exists keeps its version or, behind a stable control plane,
takes that of the topology; a worker that does not exist is created behind a
stable control plane or marked as pending. -/
def WorkerDecision (workers : List Worker) (desiredVersion : String) (stable : Bool)
    (tracker : WorkerUpgradeTracker) (topologyName version : String) : Prop :=
  match findWorker workers topologyName with
  | some worker => version = worker.version ∨ version = desiredVersion ∧ stable = true
  | none => version = desiredVersion ∧ (stable = true ∨ tracker.isPendingCreate topologyName = true)

theorem computeWorkerVersion_decision (workers : List Worker) (stable blocking : Bool) (desiredVersion : String)
    (deferred : Bool) (topologyName : String) (tracker : WorkerUpgradeTracker) :
    WorkerDecision workers desiredVersion stable
      (computeWorkerVersion stable blocking desiredVersion deferred topologyName
        (findWorker workers topologyName) tracker).2 topologyName
      (computeWorkerVersion stable blocking desiredVersion deferred topologyName
        (findWorker workers topologyName) tracker).1 := by
  unfold WorkerDecision computeWorkerVersion
  cases findWorker workers topologyName with
  | none =>
    refine ⟨rfl, ?_⟩
    cases stable
    · exact .inr (by simp [WorkerUpgradeTracker.markPendingCreate, WorkerUpgradeTracker.isPendingCreate])
    · exact .inl rfl
  | some =>
    dsimp only
    split_ifs with same isDeferred isBlocking reached unstable
    · exact .inl rfl
    · exact .inl rfl
    · exact .inl rfl
    · exact .inl rfl
    · exact .inl rfl
    · exact .inr ⟨rfl, by simpa using unstable⟩

section Workers

variable {computeVersion : Scope → WorkerTopology → Option Worker → String × Scope} {workers : List Worker}

theorem computeWorkers_keeps (Kept : Scope → Prop)
    (step : ∀ scope workerTopology current, Kept scope → Kept (computeVersion scope workerTopology current).2)
    (topologies : List WorkerTopology) {scope : Scope} (initially : Kept scope) :
    Kept (computeWorkers computeVersion workers topologies scope).2 := by
  induction topologies generalizing scope with
  | nil => exact initially
  | cons _ _ ih =>
    exact ih (step _ _ _ initially)

/-- What is established for a worker when it is decided, and kept by later
decisions, holds for all desired workers at the end. -/
theorem computeWorkers_decided (Kept : Scope → Prop) (Decided : Scope → String → String → Prop)
    (step : ∀ scope workerTopology current, Kept scope → Kept (computeVersion scope workerTopology current).2)
    (decided : ∀ scope workerTopology, Kept scope →
      Decided (computeVersion scope workerTopology (findWorker workers workerTopology.name)).2 workerTopology.name
        (computeVersion scope workerTopology (findWorker workers workerTopology.name)).1)
    (stays : ∀ scope workerTopology current name version, Decided scope name version →
      Decided (computeVersion scope workerTopology current).2 name version)
    (topologies : List WorkerTopology) {scope : Scope} (initially : Kept scope) {name version : String}
    (member : (name, version) ∈ (computeWorkers computeVersion workers topologies scope).1) :
    Decided (computeWorkers computeVersion workers topologies scope).2 name version := by
  induction topologies generalizing scope with
  | nil => simp [computeWorkers] at member
  | cons workerTopology rest ih =>
    simp only [computeWorkers, mem_cons, Prod.mk.injEq] at member
    rcases member with ⟨rfl, rfl⟩ | later
    · exact computeWorkers_keeps (fun later => Decided later _ _)
        (fun scope _ _ holds => stays scope _ _ _ _ holds) rest (decided scope workerTopology initially)
    · exact ih (step _ _ _ initially) later

end Workers

/-- Everything a successful `generate` guarantees about the versions. -/
structure Generated (state : ClusterState) (desired : DesiredVersions) (scope : Scope) : Prop where
  controlPlane : ControlPlaneDecision state desired.controlPlane scope
  machineDeployments : ∀ name version, (name, version) ∈ desired.machineDeployments →
    WorkerDecision state.machineDeployments state.topology.version
      scope.upgradeTracker.controlPlane.isControlPlaneStable scope.upgradeTracker.machineDeployments name version

section

variable (workers : List Worker) (topologies : List WorkerTopology) (scope : Scope)

theorem computeMachineDeployments_frame :
    let after := (computeWorkers computeMachineDeploymentVersion workers topologies scope).2
    after.current = scope.current ∧ after.upgradeTracker.controlPlane = scope.upgradeTracker.controlPlane :=
  computeWorkers_keeps
    (fun later => later.current = scope.current ∧
      later.upgradeTracker.controlPlane = scope.upgradeTracker.controlPlane)
    (fun _ _ _ kept => kept) topologies ⟨rfl, rfl⟩

theorem computeMachinePools_frame :
    let after := (computeWorkers computeMachinePoolVersion workers topologies scope).2
    after.current = scope.current ∧ after.upgradeTracker.controlPlane = scope.upgradeTracker.controlPlane ∧
      after.upgradeTracker.machineDeployments = scope.upgradeTracker.machineDeployments :=
  computeWorkers_keeps
    (fun later => later.current = scope.current ∧
      later.upgradeTracker.controlPlane = scope.upgradeTracker.controlPlane ∧
      later.upgradeTracker.machineDeployments = scope.upgradeTracker.machineDeployments)
    (fun _ _ _ kept => kept) topologies ⟨rfl, rfl, rfl⟩

end

/-- The scope before the version of the control plane is computed. -/
def initialScope (state : ClusterState) (upgradingMachineDeployments upgradingMachinePools : List String) : Scope :=
  let tracker := newUpgradeTracker state.topology.upgradeConcurrency
  { current := state
    upgradeTracker := { tracker with
      machineDeployments := tracker.machineDeployments.markUpgrading upgradingMachineDeployments
      machinePools := tracker.machinePools.markUpgrading upgradingMachinePools } }

def upgradingMachineDeployments (state : ClusterState) : Except String (List String) :=
  upgradingNames isMachineDeploymentUpgrading "failed to list upgrading MachineDeployments" state.machineDeployments

def upgradingMachinePools (state : ClusterState) : Except String (List String) :=
  upgradingNames isMachinePoolUpgrading "failed to list upgrading MachinePools" state.machinePools

section

variable {desired : DesiredVersions} (generated : generate parseTolerant calls state = .ok (desired, scope))
include generated

theorem generate_eq_ok :
    ∃ deployments pools middle,
      upgradingMachineDeployments state = .ok deployments ∧ upgradingMachinePools state = .ok pools ∧
      computeControlPlaneVersion parseTolerant calls (initialScope state deployments pools) =
        .ok (desired.controlPlane, middle) ∧
      desired.machineDeployments = (computeWorkers computeMachineDeploymentVersion state.machineDeployments
        state.topology.machineDeployments middle).1 ∧
      scope = (computeWorkers computeMachinePoolVersion state.machinePools state.topology.machinePools
        (computeWorkers computeMachineDeploymentVersion state.machineDeployments
          state.topology.machineDeployments middle).2).2 := by
  simp only [generate, bind, Except.bind, pure, Except.pure] at generated
  split at generated
  · cases generated
  split at generated
  · cases generated
  split at generated
  · cases generated
  case h_2 deployments upgradingDeployments =>
    split at generated
    · cases generated
    case h_2 pools upgradingPools =>
      split at generated
      · cases generated
      case h_2 result computed =>
        cases generated
        exact ⟨deployments, pools, result.2, upgradingDeployments, upgradingPools, computed, rfl, rfl⟩

theorem generate_spec : Generated state desired scope := by
  rcases generate_eq_ok generated with ⟨_, _, middle, -, -, computed, machineDeployments, rfl⟩
  have decision := computeControlPlaneVersion_spec computed
  rcases computeMachineDeployments_frame state.machineDeployments state.topology.machineDeployments middle with
    ⟨deploymentsCurrent, deploymentsStable⟩
  rcases computeMachinePools_frame state.machinePools state.topology.machinePools
      (computeWorkers computeMachineDeploymentVersion state.machineDeployments
        state.topology.machineDeployments middle).2 with ⟨poolsCurrent, poolsStable, poolsTracker⟩
  have sameTracker := poolsStable.trans deploymentsStable
  refine ⟨⟨?_, decision.created, decision.kept, ?_⟩, ?_⟩
  · rw [Scope.Reads, poolsCurrent, deploymentsCurrent]
    exact decision.reads
  · rw [sameTracker]
    exact decision.stable
  · intro _ _ member
    rw [machineDeployments] at member
    rw [sameTracker, poolsTracker]
    refine computeWorkers_decided
      (fun later => later.Reads state ∧ later.upgradeTracker.controlPlane = middle.upgradeTracker.controlPlane)
      (fun later => WorkerDecision state.machineDeployments state.topology.version
        middle.upgradeTracker.controlPlane.isControlPlaneStable later.upgradeTracker.machineDeployments)
      ?_ ?_ ?_ _ ⟨decision.reads, rfl⟩ member
    · intro later workerTopology current kept
      exact kept
    · intro later workerTopology ⟨readsLater, sameControlPlane⟩
      have topology : later.current.topology = state.topology := by rw [readsLater]
      simp only [computeMachineDeploymentVersion, sameControlPlane, topology]
      exact computeWorkerVersion_decision _ _ _ _ _ _ _
    · intro _ _ current _ _ decided
      unfold WorkerDecision at decided ⊢
      split at decided
      · exact decided
      refine ⟨decided.1, decided.2.imp_right fun pending => ?_⟩
      simp only [computeMachineDeploymentVersion, computeWorkerVersion]
      cases current with
      | none =>
        dsimp only
        split_ifs
        · simp_all [WorkerUpgradeTracker.markPendingCreate, WorkerUpgradeTracker.isPendingCreate]
        · exact pending
      | some =>
        dsimp only
        split_ifs <;> exact pending

end

/-- How far the writes of a reconcile get before an API call fails.  The
workers are visited in the order of a map, which is arbitrary. -/
structure Applied where
  controlPlane : Bool
  machineDeployments : List String
  machinePools : List String
  generatedName : String → String

/-- A control plane that is pending an upgrade is left alone. -/
def reconcileControlPlane (scope : Scope) (version : String) : Option ControlPlane :=
  if scope.upgradeTracker.controlPlane.isPendingUpgrade then scope.current.controlPlane
  else
    match scope.current.controlPlane with
    | none => some { version, replicas := scope.current.topology.controlPlaneReplicas }
    | some controlPlane => some { controlPlane with
        version, replicas := scope.current.topology.controlPlaneReplicas <|> controlPlane.replicas }

/-- Create or update the worker of one topology name, unless the tracker holds it back.  Whether to
create or to update follows from the workers read at the start; before a creation the live list is
asked again.  Of two desired entries with one name the later one wins. -/
def reconcileWorker (current : List Worker) (tracker : WorkerUpgradeTracker) (generatedName : String → String)
    (desired : List (String × String)) (workers : List Worker) (topologyName : String) : List Worker :=
  match desired.reverse.lookup topologyName with
  | none => workers
  | some version =>
    match findWorker current topologyName with
    | none =>
      if (findWorker workers topologyName).isSome || tracker.isPendingCreate topologyName then workers
      else { name := generatedName topologyName, topologyName, version } :: workers
    | some worker =>
      if tracker.isPendingUpgrade worker.name then workers
      else workers.map fun candidate => if candidate.topologyName = topologyName then { candidate with version }
        else candidate

/-- One reconcile, stopped by a failing API call at an arbitrary point.  The
objects of removed topologies are deleted elsewhere, whenever their finalizers allow it. -/
def reconcile (parseTolerant : VersionReader) (calls : Calls) (applied : Applied)
    (state : ClusterState) : ClusterState :=
  match generate parseTolerant calls state with
  | .error _ => state
  | .ok (desired, scope) =>
    match callAfterClusterUpgrade calls scope with
    | .error _ => { state with pendingHooks := scope.current.pendingHooks }
    | .ok scope =>
      let state := { state with pendingHooks := scope.current.pendingHooks }
      if !applied.controlPlane then state
      else { state with
        controlPlane := reconcileControlPlane scope desired.controlPlane
        machineDeployments := applied.machineDeployments.foldl
          (reconcileWorker state.machineDeployments scope.upgradeTracker.machineDeployments
            applied.generatedName desired.machineDeployments) state.machineDeployments
        machinePools := applied.machinePools.foldl
          (reconcileWorker state.machinePools scope.upgradeTracker.machinePools
            applied.generatedName desired.machinePools) state.machinePools }

/-! ## What a reconcile can do -/

variable {desired : List (String × String)} {generatedName : String → String}
  {desiredVersion : String} {current : List Worker} {stable : Bool}

section

variable (Allowed : String → Prop)
  (decided : ∀ name version, (name, version) ∈ desired →
      WorkerDecision current desiredVersion stable tracker name version)
  (present : ∀ worker ∈ current, Allowed worker.version) (taken : stable = true → Allowed desiredVersion)
include decided present taken

theorem reconcileWorker_versions (topologyName : String) (initially : ∀ worker ∈ workers, Allowed worker.version) :
    ∀ worker ∈ reconcileWorker current tracker generatedName desired workers topologyName,
      Allowed worker.version := by
  unfold reconcileWorker
  split
  · exact initially
  · rename_i version chosen
    have member : (topologyName, version) ∈ desired := by
      rcases lookup_eq_some_iff.mp chosen with ⟨_, _, split, -⟩
      exact mem_reverse.mp (split ▸ by simp)
    have decision := decided topologyName version member
    unfold WorkerDecision at decision
    split
    · rename_i absent
      rw [absent] at decision
      split_ifs with held
      · exact initially
      · have isStable : stable = true := by
          rcases decision.2 with isStable | pending
          · exact isStable
          · simp [pending] at held
        intro worker inside
        rcases mem_cons.mp inside with rfl | inside
        · exact decision.1 ▸ taken isStable
        · exact initially worker inside
    · rename_i worker found
      rw [found] at decision
      have allowed : Allowed version := by
        rcases decision with kept | ⟨isDesired, isStable⟩
        · exact kept ▸ present worker (mem_of_find?_eq_some found)
        · exact isDesired ▸ taken isStable
      split_ifs with held
      · exact initially
      · intro _ inside
        rcases mem_map.mp inside with ⟨original, member, rfl⟩
        split_ifs
        · exact allowed
        · exact initially original member

theorem foldl_reconcileWorker_versions (topologyNames : List String)
    (initially : ∀ worker ∈ workers, Allowed worker.version) :
    ∀ worker ∈ topologyNames.foldl (reconcileWorker current tracker generatedName desired) workers,
      Allowed worker.version := by
  induction topologyNames generalizing workers with
  | nil => exact initially
  | cons topologyName _ ih =>
    exact ih
      (reconcileWorker_versions Allowed decided present taken topologyName initially)

end

theorem callAfterClusterUpgrade_spec (called : callAfterClusterUpgrade calls scope = .ok after) :
    after.Reads scope.current ∧ after.upgradeTracker = scope.upgradeTracker := by
  unfold callAfterClusterUpgrade at called
  split at called
  · split at called
    · cases called
    · split at called
      · cases called
      · cases called
        exact ⟨rfl, rfl⟩
  · cases called
    exact ⟨rfl, rfl⟩

/-- What the versions after a reconcile can be.  The flag tells whether the
workers were allowed to take the version of the topology: then the control
plane was at that version already. -/
structure Reconciled (state next : ClusterState) (stable : Bool) : Prop where
  topology : next.topology = state.topology
  atVersion : stable = true → ∀ controlPlane, state.controlPlane = some controlPlane →
    controlPlane.version = state.topology.version
  controlPlane : ∀ controlPlane, next.controlPlane = some controlPlane →
    controlPlane.version = state.topology.version ∨
      ∃ before, state.controlPlane = some before ∧ controlPlane.version = before.version
  machineDeployments : ∀ worker ∈ next.machineDeployments,
    (∃ before ∈ state.machineDeployments, worker.version = before.version) ∨
      stable = true ∧ worker.version = state.topology.version

theorem Reconciled.of_unchanged {next : ClusterState} (topology : next.topology = state.topology)
    (controlPlane : next.controlPlane = state.controlPlane)
    (machineDeployments : next.machineDeployments = state.machineDeployments) : Reconciled state next false where
  topology := topology
  atVersion := by simp
  controlPlane := fun present found => .inr ⟨present, controlPlane ▸ found, rfl⟩
  machineDeployments := fun worker member => .inl ⟨worker, machineDeployments ▸ member, rfl⟩

theorem reconcileControlPlane_version (decision : ControlPlaneDecision state version scope)
    {controlPlane : ControlPlane} (written : reconcileControlPlane scope version = some controlPlane) :
    controlPlane.version = state.topology.version ∨
      ∃ before, state.controlPlane = some before ∧ controlPlane.version = before.version := by
  have read : scope.current.controlPlane = state.controlPlane := by rw [decision.reads]
  unfold reconcileControlPlane at written
  split at written
  · exact .inr ⟨controlPlane, read ▸ written, rfl⟩
  · split at written
    · rename_i absent
      cases written
      exact .inl (decision.created (read ▸ absent))
    · rename_i before found
      cases written
      have found : state.controlPlane = some before := read ▸ found
      rcases decision.kept before found with kept | taken
      · exact .inr ⟨before, found, kept⟩
      · exact .inl taken

theorem reconcile_spec (parseTolerant : VersionReader) (calls : Calls) (applied : Applied)
    (state : ClusterState) : ∃ stable, Reconciled state (reconcile parseTolerant calls applied state) stable := by
  unfold reconcile
  split
  · exact ⟨false, .of_unchanged rfl rfl rfl⟩
  · rename_i desired _ generated
    have spec := generate_spec generated
    split
    · exact ⟨false, .of_unchanged rfl rfl rfl⟩
    · rename_i after called
      rcases callAfterClusterUpgrade_spec called with ⟨reads, tracker⟩
      have decision : ControlPlaneDecision state desired.controlPlane after :=
        ⟨reads.trans spec.controlPlane.reads, spec.controlPlane.created, spec.controlPlane.kept,
          tracker ▸ spec.controlPlane.stable⟩
      split_ifs with failed
      · exact ⟨false, .of_unchanged rfl rfl rfl⟩
      · refine ⟨after.upgradeTracker.controlPlane.isControlPlaneStable, rfl, decision.stable,
          fun controlPlane written => reconcileControlPlane_version decision written, ?_⟩
        have decided := spec.machineDeployments
        rw [← tracker] at decided
        exact foldl_reconcileWorker_versions
          (fun version => (∃ before ∈ state.machineDeployments, version = before.version) ∨
            after.upgradeTracker.controlPlane.isControlPlaneStable = true ∧ version = state.topology.version)
          decided (fun worker member => .inl ⟨worker, member, rfl⟩) (fun stable => .inr ⟨stable, rfl⟩)
          applied.machineDeployments fun worker member => .inl ⟨worker, member, rfl⟩

end ClusterApi.Topology

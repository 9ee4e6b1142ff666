import ClusterApi.Foundation.Runs
import ClusterApi.Topology.StableControlPlane

namespace ClusterApi.Topology

open Foundation List

/-!
# The order of the upgrade hooks

An upgrade is announced by BeforeClusterUpgrade and followed by
AfterControlPlaneUpgrade and AfterClusterUpgrade.  The intent to call the last
two is kept in an annotation of the Cluster and nowhere else.

An observer follows the calls of a whole run and knows what the extensions
know: whether each of the two hooks has been answered without blocking.  The
annotation agrees with the observer in every state, so that neither hook is
called again once it is done.

AfterClusterUpgrade waits for the workers, and the workers wait for
AfterControlPlaneUpgrade.  Without a worker that is left to be upgraded or
created nothing waits for the first hook, nor does anything while the control
plane is missing or provisioning.
-/

variable (parseTolerant : VersionReader) (calls : Calls)

/-! ## The calls of a reconcile -/

/-- A call that reached the extensions, its answer, and whether the annotation was patched after it. -/
structure HookCall where
  hook : Hook
  answer : Except String Int
  patched : Bool
  deriving DecidableEq

/-- The call of a hook.  A blocking answer is not followed by a patch; the
answer to AfterClusterUpgrade cannot block. -/
def Calls.to (hook : Hook) : HookCall where
  hook := hook
  answer := calls.retryAfterSeconds hook
  patched :=
    match calls.retryAfterSeconds hook, hook with
    | .error _, _ => false
    | .ok retryAfterSeconds, .beforeClusterUpgrade => retryAfterSeconds = 0 && calls.markAsPending.isOk
    | .ok retryAfterSeconds, .afterControlPlaneUpgrade =>
      retryAfterSeconds = 0 && (calls.markAsDone .afterControlPlaneUpgrade).isOk
    | .ok _, .afterClusterUpgrade => (calls.markAsDone .afterClusterUpgrade).isOk

def afterControlPlaneUpgradeCalls (scope : Scope) : List HookCall :=
  if calls.runtimeSDK && scope.current.pendingHooks.contains .afterControlPlaneUpgrade then
    [calls.to .afterControlPlaneUpgrade]
  else []

def beforeClusterUpgradeCalls (scope : Scope) : List HookCall :=
  if !scope.upgradeTracker.machineDeployments.upgradingNames.isEmpty ||
      !scope.upgradeTracker.machinePools.upgradingNames.isEmpty then []
  else if calls.runtimeSDK then [calls.to .beforeClusterUpgrade]
  else []

/-- The calls made by `computeControlPlaneVersion`. -/
def controlPlaneVersionCalls (scope : Scope) : List HookCall :=
  match scope.current.controlPlane with
  | none => []
  | some controlPlane =>
    if controlPlane.isProvisioning then []
    else
      match controlPlane.isUpgrading parseTolerant with
      | .error _ => []
      | .ok true => []
      | .ok false =>
        if controlPlane.version = scope.current.topology.version then afterControlPlaneUpgradeCalls calls scope
        else if scope.current.topology.controlPlaneReplicas.isSome then
          match controlPlane.isScaling with
          | .error _ => []
          | .ok true => []
          | .ok false => beforeClusterUpgradeCalls calls scope
        else beforeClusterUpgradeCalls calls scope

/-- The part of `generate` before the control plane. -/
def readScope (state : ClusterState) : Except String Scope := do
  checkDuplicates "MachineDeployment" "topology.cluster.x-k8s.io/deployment-name" state.machineDeployments
  checkDuplicates "MachinePool" "topology.cluster.x-k8s.io/pool-name" state.machinePools
  return initialScope state (← upgradingMachineDeployments state) (← upgradingMachinePools state)

/-- The calls made by `generate`. -/
def generateCalls (state : ClusterState) : List HookCall :=
  match readScope state with
  | .error _ => []
  | .ok scope => controlPlaneVersionCalls parseTolerant calls scope

/-- The call made by `callAfterClusterUpgrade`. -/
def afterClusterUpgradeCalls (scope : Scope) : List HookCall :=
  if calls.runtimeSDK && scope.current.pendingHooks.contains .afterClusterUpgrade &&
      scope.upgradeTracker.controlPlane.isControlPlaneStable &&
      scope.upgradeTracker.machineDeployments.isSettled && scope.upgradeTracker.machinePools.isSettled then
    [calls.to .afterClusterUpgrade]
  else []

/-! ## Calls and the annotation -/

/-- The hooks that are pending after a call. -/
def HookCall.pending (pendingHooks : List Hook) (call : HookCall) : List Hook :=
  if !call.patched then pendingHooks
  else
    match call.hook with
    | .beforeClusterUpgrade => (pendingHooks.insert .afterControlPlaneUpgrade).insert .afterClusterUpgrade
    | .afterControlPlaneUpgrade => pendingHooks.filter (· ≠ .afterControlPlaneUpgrade)
    | .afterClusterUpgrade => pendingHooks.filter (· ≠ .afterClusterUpgrade)

/-- The hooks that are pending after a function of the reconcile, which may have failed. -/
def pendingAfter {α : Type} (pendingHooks : List Hook) (current : α → ClusterState) : Except String α → List Hook
  | .error _ => pendingHooks
  | .ok result => (current result).pendingHooks

theorem callAfterControlPlaneUpgrade_pending (scope : Scope) :
    pendingAfter scope.current.pendingHooks (fun after : Scope => after.current)
        (callAfterControlPlaneUpgrade calls scope) =
      (afterControlPlaneUpgradeCalls calls scope).foldl HookCall.pending scope.current.pendingHooks := by
  unfold callAfterControlPlaneUpgrade afterControlPlaneUpgradeCalls
  split
  case isTrue isPending =>
    cases answered : calls.retryAfterSeconds .afterControlPlaneUpgrade with
    | error => simp [pendingAfter, HookCall.pending, Calls.to, answered]
    | ok retryAfterSeconds =>
      by_cases blocking : retryAfterSeconds = 0
      · cases marked : calls.markAsDone .afterControlPlaneUpgrade with
        | error | ok =>
          simp [pendingAfter, HookCall.pending, Calls.to, answered, blocking, marked, Except.isOk, Except.toBool]
      · simp [pendingAfter, HookCall.pending, Calls.to, answered, blocking]
  case isFalse notPending => rfl

theorem pickUpControlPlaneVersion_pending (scope : Scope) (currentVersion : String) :
    pendingAfter scope.current.pendingHooks (fun result : String × Scope => result.2.current)
        (pickUpControlPlaneVersion calls scope currentVersion) =
      (beforeClusterUpgradeCalls calls scope).foldl HookCall.pending scope.current.pendingHooks := by
  unfold pickUpControlPlaneVersion beforeClusterUpgradeCalls callBeforeClusterUpgrade
  split
  case isTrue upgrading => rfl
  case isFalse settled =>
    cases enabled : calls.runtimeSDK with
    | true =>
      cases answered : calls.retryAfterSeconds .beforeClusterUpgrade with
      | error => simp [pendingAfter, HookCall.pending, Calls.to, answered]
      | ok retryAfterSeconds =>
        by_cases blocking : retryAfterSeconds = 0
        · cases marked : calls.markAsPending with
          | error | ok =>
            simp [pendingAfter, HookCall.pending, Calls.to, answered, blocking, marked, Except.isOk,
              Except.toBool, Scope.trackControlPlane]
        · simp [pendingAfter, HookCall.pending, Calls.to, answered, blocking]
    | false => rfl

@[simp]
theorem computeControlPlaneVersion_pending (scope : Scope) :
    pendingAfter scope.current.pendingHooks (fun result : String × Scope => result.2.current)
        (computeControlPlaneVersion parseTolerant calls scope) =
      (controlPlaneVersionCalls parseTolerant calls scope).foldl HookCall.pending scope.current.pendingHooks := by
  unfold computeControlPlaneVersion controlPlaneVersionCalls
  cases scope.current.controlPlane with
  | none => rfl
  | some controlPlane =>
    dsimp only
    split
    case isTrue provisioning => rfl
    case isFalse provisioned =>
      cases controlPlane.isUpgrading parseTolerant with
      | error => rfl
      | ok upgrading =>
        cases upgrading with
        | true => rfl
        | false =>
          by_cases atVersion : controlPlane.version = scope.current.topology.version
          · have asked := callAfterControlPlaneUpgrade_pending calls
              (scope.trackControlPlane fun tracker => { tracker with isPendingUpgrade := false })
            simp only [atVersion, ne_eq, not_true_eq_false, decide_false, Bool.not_false, if_true]
            cases called : callAfterControlPlaneUpgrade calls
                (scope.trackControlPlane fun tracker => { tracker with isPendingUpgrade := false }) with
            | error =>
              rw [called] at asked
              exact asked
            | ok =>
              rw [called] at asked
              exact asked
          · have picked := pickUpControlPlaneVersion_pending calls
              (scope.trackControlPlane fun tracker => { tracker with isPendingUpgrade := true })
              controlPlane.version
            simp only [atVersion, ne_eq, not_false_eq_true, decide_true, Bool.not_true,
              Bool.false_eq_true, if_false, Scope.trackControlPlane]
            split
            case isTrue supported =>
              cases controlPlane.isScaling with
              | error => rfl
              | ok scaling =>
                cases scaling with
                | true => rfl
                | false => exact picked
            case isFalse unsupported => exact picked

theorem computeWorkers_current {computeVersion : Scope → WorkerTopology → Option Worker → String × Scope}
    (same : ∀ scope workerTopology current, (computeVersion scope workerTopology current).2.current = scope.current)
    (workers : List Worker) (topologies : List WorkerTopology) (scope : Scope) :
    (computeWorkers computeVersion workers topologies scope).2.current = scope.current :=
  computeWorkers_keeps (fun later => later.current = scope.current)
    (fun later workerTopology current kept => (same later workerTopology current).trans kept) topologies rfl

theorem generate_pending (state : ClusterState) :
    pendingAfter state.pendingHooks (fun result : DesiredVersions × Scope => result.2.current)
        (generate parseTolerant calls state) =
      (generateCalls parseTolerant calls state).foldl HookCall.pending state.pendingHooks := by
  unfold generate generateCalls readScope
  cases checkDuplicates "MachineDeployment" "topology.cluster.x-k8s.io/deployment-name" state.machineDeployments with
  | error => rfl
  | ok unique =>
  cases checkDuplicates "MachinePool" "topology.cluster.x-k8s.io/pool-name" state.machinePools with
  | error => rfl
  | ok unique =>
  change pendingAfter _ _ (upgradingMachineDeployments state >>= _) = _
  cases upgradingMachineDeployments state with
  | error => rfl
  | ok deployments =>
  change pendingAfter _ _ (upgradingMachinePools state >>= _) = _
  cases upgradingMachinePools state with
  | error => rfl
  | ok pools =>
  have computed := computeControlPlaneVersion_pending parseTolerant calls (initialScope state deployments pools)
  change pendingAfter _ _ (computeControlPlaneVersion parseTolerant calls (initialScope state deployments pools) >>= _) =
    (controlPlaneVersionCalls parseTolerant calls (initialScope state deployments pools)).foldl HookCall.pending _
  cases result : computeControlPlaneVersion parseTolerant calls (initialScope state deployments pools) with
  | error =>
    rw [result] at computed
    exact computed
  | ok result =>
    rw [result] at computed
    refine Eq.trans (congrArg ClusterState.pendingHooks ?_) computed
    exact (computeWorkers_current (fun _ _ _ => rfl) _ _ _).trans (computeWorkers_current (fun _ _ _ => rfl) _ _ _)

theorem callAfterClusterUpgrade_pending (scope : Scope) :
    pendingAfter scope.current.pendingHooks (fun after : Scope => after.current) (callAfterClusterUpgrade calls scope) =
      (afterClusterUpgradeCalls calls scope).foldl HookCall.pending scope.current.pendingHooks := by
  unfold callAfterClusterUpgrade afterClusterUpgradeCalls
  split
  case isTrue finished =>
    cases answered : calls.retryAfterSeconds .afterClusterUpgrade with
    | error => simp [pendingAfter, HookCall.pending, Calls.to, answered]
    | ok =>
      cases marked : calls.markAsDone .afterClusterUpgrade with
      | error | ok => simp [pendingAfter, HookCall.pending, Calls.to, answered, marked, Except.isOk, Except.toBool]
  case isFalse unfinished => rfl

/-! ## Settled workers -/

theorem insert_isEmpty (names : List String) (name : String) : (names.insert name).isEmpty = false := by
  rw [isEmpty_eq_false_iff]
  exact ne_nil_of_mem mem_insert_self

theorem computeWorkers_settled {computeVersion : Scope → WorkerTopology → Option Worker → String × Scope}
    {workers : List Worker} (Kept Settled : Scope → Prop) (Done : Option Worker → Prop)
    (step : ∀ scope workerTopology current, Kept scope → Kept (computeVersion scope workerTopology current).2)
    (settles : ∀ scope workerTopology current, Kept scope →
      Settled (computeVersion scope workerTopology current).2 → Settled scope ∧ Done current)
    (topologies : List WorkerTopology) {scope : Scope} (initially : Kept scope)
    (settled : Settled (computeWorkers computeVersion workers topologies scope).2) :
    Settled scope ∧ ∀ workerTopology ∈ topologies, Done (findWorker workers workerTopology.name) := by
  induction topologies generalizing scope with
  | nil => exact ⟨settled, by simp⟩
  | cons _ _ ih =>
    rcases ih (step _ _ _ initially) settled with ⟨next, later⟩
    rcases settles _ _ _ initially next with ⟨before, done⟩
    refine ⟨before, ?_⟩
    simp only [mem_cons, forall_eq_or_imp]
    exact ⟨done, later⟩

/-- Every worker of the topology that exists is at its version. -/
def AllUpgraded (state : ClusterState) : Prop :=
  (∀ workerTopology ∈ state.topology.machineDeployments, ∀ worker,
    findWorker state.machineDeployments workerTopology.name = some worker →
      worker.version = state.topology.version) ∧
  ∀ workerTopology ∈ state.topology.machinePools, ∀ worker,
    findWorker state.machinePools workerTopology.name = some worker → worker.version = state.topology.version

/-- Every worker of the topology exists. -/
def AllCreated (state : ClusterState) : Prop :=
  (∀ workerTopology ∈ state.topology.machineDeployments,
    findWorker state.machineDeployments workerTopology.name ≠ none) ∧
  ∀ workerTopology ∈ state.topology.machinePools, findWorker state.machinePools workerTopology.name ≠ none

section Settled

variable {parseTolerant calls}
variable {state : ClusterState} {desired : DesiredVersions} {scope middle : Scope} {deployments pools : List String}

/-- The worker is at the version of the topology; one that is missing is not held back by the hook. -/
def WorkerDone (state : ClusterState) (middle : Scope) (current : Option Worker) : Prop :=
  (∀ worker, current = some worker → worker.version = state.topology.version) ∧
    (current = none → middle.isBlocking .afterControlPlaneUpgrade = false)

theorem SameDecision.workerDone {later : Scope} (same : SameDecision middle later)
    (topology : middle.current.topology = state.topology) {stable deferred : Bool} {topologyName : String}
    {current : Option Worker} {tracker : WorkerUpgradeTracker}
    (settled : (computeWorkerVersion stable (later.isBlocking .afterControlPlaneUpgrade)
      later.current.topology.version deferred topologyName current tracker).2.isSettled = true) :
    tracker.isSettled = true ∧ WorkerDone state middle current := by
  rw [same.isBlocking, same.2.1, topology] at settled
  cases current with
  | none =>
    simp only [computeWorkerVersion] at settled
    split_ifs at settled with held
    · simp [WorkerUpgradeTracker.isSettled, WorkerUpgradeTracker.markPendingCreate, insert_isEmpty] at settled
    · refine ⟨settled, by simp, fun _ => ?_⟩
      rw [Bool.or_eq_true, not_or, Bool.not_eq_true] at held
      exact Bool.not_eq_true _ ▸ held.2
  | some =>
    simp only [computeWorkerVersion] at settled
    split_ifs at settled with atVersion isDeferred isBlocking reached unstable
    · refine ⟨settled, fun found same => ?_, by simp⟩
      cases same
      exact atVersion
    all_goals
      simp [WorkerUpgradeTracker.isSettled, WorkerUpgradeTracker.markPendingUpgrade,
        WorkerUpgradeTracker.markDeferredUpgrade, WorkerUpgradeTracker.markUpgrading, insert_isEmpty] at settled

/-- Nothing is left to do for settled workers; if AfterControlPlaneUpgrade blocks, not even a creation. -/
theorem GeneratedFrom.settled (parts : GeneratedFrom parseTolerant calls state desired scope deployments pools middle)
    (settledDeployments : scope.upgradeTracker.machineDeployments.isSettled = true)
    (settledPools : scope.upgradeTracker.machinePools.isSettled = true) :
    AllUpgraded state ∧ (middle.isBlocking .afterControlPlaneUpgrade = true → AllCreated state) := by
  have topology : middle.current.topology = state.topology := by rw [parts.outcome.reads]; rfl
  rw [parts.final] at settledDeployments settledPools
  rw [(computeMachinePools_frame _ _ _).2.2] at settledDeployments
  have doneDeployments := (computeWorkers_settled (SameDecision middle)
    (fun later => later.upgradeTracker.machineDeployments.isSettled = true) (WorkerDone state middle)
    (fun _ _ _ kept => kept) (fun _ _ _ same => same.workerDone topology) _ ⟨rfl, rfl, rfl⟩ settledDeployments).2
  have donePools := (computeWorkers_settled (SameDecision middle)
    (fun later => later.upgradeTracker.machinePools.isSettled = true) (WorkerDone state middle)
    (fun _ _ _ kept => kept) (fun _ _ _ same => same.workerDone topology) _
    (computeWorkers_keeps (SameDecision middle) (fun _ _ _ kept => kept) _ ⟨rfl, rfl, rfl⟩) settledPools).2
  refine ⟨⟨fun each member => (doneDeployments each member).1, fun each member => (donePools each member).1⟩, ?_⟩
  intro blocking
  constructor
  · intro each member missing
    rw [(doneDeployments each member).2 missing] at blocking
    cases blocking
  · intro each member missing
    rw [(donePools each member).2 missing] at blocking
    cases blocking

end Settled

/-! ## The observer -/

/-- How far an upgrade has come, as far as the extensions can tell. -/
structure Upgrade where
  controlPlaneDone : Bool := false
  clusterDone : Bool := false
  deriving DecidableEq

/-- The call was answered without blocking and the annotation tells so. -/
def HookCall.isDone (call : HookCall) : Bool :=
  call.patched && (call.answer = .ok 0 || call.hook = .afterClusterUpgrade)

/-- An upgrade begins with the call of BeforeClusterUpgrade that lets the control plane pick up a version. -/
def observe (upgrade : Option Upgrade) (call : HookCall) : Option Upgrade :=
  if !call.isDone then upgrade
  else
    match call.hook with
    | .beforeClusterUpgrade => some {}
    | .afterControlPlaneUpgrade => upgrade.map fun begun => { begun with controlPlaneDone := true }
    | .afterClusterUpgrade => upgrade.map fun begun => { begun with clusterDone := true }

/-- A call with what the observer knew before it, and what the reconcile knew
when it called AfterClusterUpgrade. -/
inductive Observation
  | versionCall (upgrade : Option Upgrade) (call : HookCall)
  | afterClusterUpgrade (scope : Scope) (upgrade : Option Upgrade) (call : HookCall)

/-- A Cluster under observation. -/
structure Watched where
  cluster : ClusterState
  upgrade : Option Upgrade := none
  history : List Observation := []

def Watched.record (observation : Option Upgrade → HookCall → Observation) (watched : Watched)
    (call : HookCall) : Watched :=
  { watched with
    upgrade := observe watched.upgrade call
    history := observation watched.upgrade call :: watched.history }

inductive HookAction
  /-- Anything but the annotation: the topology is edited, the control plane and the workers make progress. -/
  | change (cluster : ClusterState)
  /-- A reconcile with the runtime hooks enabled.  It may stop between
  `generate` and the call of AfterClusterUpgrade, or at any later write. -/
  | reconcile (calls : Calls) (applied : Option Applied)

def hookStep (watched : Watched) : HookAction → Option Watched
  | .change cluster => some { watched with cluster := { cluster with pendingHooks := watched.cluster.pendingHooks } }
  | .reconcile calls applied =>
    let calls := { calls with runtimeSDK := true }
    let asked := (generateCalls parseTolerant calls watched.cluster).foldl (Watched.record .versionCall) watched
    match generate parseTolerant calls watched.cluster, applied with
    | .error _, _ => some asked
    | .ok (_, scope), none =>
      some { asked with cluster := { watched.cluster with pendingHooks := scope.current.pendingHooks } }
    | .ok (_, scope), some applied =>
      let finished := (afterClusterUpgradeCalls calls scope).foldl (Watched.record (.afterClusterUpgrade scope)) asked
      some { finished with cluster := reconcile parseTolerant calls applied watched.cluster }

/-! ## The annotation follows the observer -/

/-- Exactly the hooks that are not done are pending. -/
def Tracks (upgrade : Option Upgrade) (pendingHooks : List Hook) : Prop :=
  ∀ begun, upgrade = some begun →
    (.afterControlPlaneUpgrade ∈ pendingHooks ↔ begun.controlPlaneDone = false) ∧
      (.afterClusterUpgrade ∈ pendingHooks ↔ begun.clusterDone = false)

theorem Calls.to_isDone (hook : Hook) : (calls.to hook).isDone = (calls.to hook).patched := by
  cases answered : calls.retryAfterSeconds hook with
  | error => simp [HookCall.isDone, Calls.to, answered]
  | ok retryAfterSeconds =>
    cases hook with
    | beforeClusterUpgrade | afterControlPlaneUpgrade =>
      by_cases blocking : retryAfterSeconds = 0
      · simp [HookCall.isDone, Calls.to, answered, blocking]
      · simp [HookCall.isDone, Calls.to, answered, blocking]
    | afterClusterUpgrade => simp [HookCall.isDone, Calls.to, answered]

theorem Tracks.observe {upgrade : Option Upgrade} {pendingHooks : List Hook} (tracks : Tracks upgrade pendingHooks)
    (hook : Hook) : Tracks (observe upgrade (calls.to hook)) (HookCall.pending pendingHooks (calls.to hook)) := by
  unfold Topology.observe HookCall.pending
  rw [Calls.to_isDone]
  split
  case isTrue unpatched => exact tracks
  case isFalse patched =>
    cases hook with
    | beforeClusterUpgrade =>
      rintro begun ⟨⟩
      simp [Calls.to]
    | afterControlPlaneUpgrade =>
      intro begun found
      rcases Option.map_eq_some_iff.mp found with ⟨before, same, rfl⟩
      simp [Calls.to, (tracks before same).2]
    | afterClusterUpgrade =>
      intro _ found
      rcases Option.map_eq_some_iff.mp found with ⟨before, same, rfl⟩
      simp [Calls.to, (tracks before same).1]

theorem readScope_current (read : readScope state = .ok scope) : scope.current = state := by
  simp only [readScope, bind, Except.bind, pure, Except.pure] at read
  split at read
  · cases read
  split at read
  · cases read
  split at read
  · cases read
  split at read
  · cases read
  cases read
  rfl

theorem generateCalls_cases (state : ClusterState) :
    generateCalls parseTolerant calls state = [] ∨
      generateCalls parseTolerant calls state = [calls.to .beforeClusterUpgrade] ∨
      generateCalls parseTolerant calls state = [calls.to .afterControlPlaneUpgrade] ∧
        .afterControlPlaneUpgrade ∈ state.pendingHooks := by
  unfold generateCalls
  split
  case h_1 error failed => exact .inl rfl
  case h_2 scope read =>
    rw [← readScope_current read]
    have before : beforeClusterUpgradeCalls calls scope = [] ∨
        beforeClusterUpgradeCalls calls scope = [calls.to .beforeClusterUpgrade] := by
      unfold beforeClusterUpgradeCalls
      split_ifs
      · exact .inl rfl
      · exact .inr rfl
      · exact .inl rfl
    unfold controlPlaneVersionCalls
    split
    · exact .inl rfl
    split
    · exact .inl rfl
    split
    · exact .inl rfl
    · exact .inl rfl
    split
    · unfold afterControlPlaneUpgradeCalls
      split
      case isTrue isPending =>
        refine .inr (.inr ⟨rfl, ?_⟩)
        simpa using (Bool.and_eq_true_iff.mp isPending).2
      case isFalse notPending => exact .inl rfl
    split
    · split
      · exact .inl rfl
      · exact .inl rfl
      · exact before.imp_right .inl
    · exact before.imp_right .inl

theorem afterClusterUpgradeCalls_cases (scope : Scope) :
    afterClusterUpgradeCalls calls scope = [] ∨
      afterClusterUpgradeCalls calls scope = [calls.to .afterClusterUpgrade] ∧
        .afterClusterUpgrade ∈ scope.current.pendingHooks ∧
        scope.upgradeTracker.controlPlane.isControlPlaneStable = true ∧
        scope.upgradeTracker.machineDeployments.isSettled = true ∧
        scope.upgradeTracker.machinePools.isSettled = true := by
  unfold afterClusterUpgradeCalls
  split
  case isTrue finished =>
    simp only [Bool.and_eq_true, contains_iff_mem] at finished
    exact .inr ⟨rfl, finished.1.1.1.2, finished.1.1.2, finished.1.2, finished.2⟩
  case isFalse unfinished => exact .inl rfl

theorem reconcile_pending {parseTolerant : VersionReader} {calls : Calls} {desired : DesiredVersions}
    (generated : generate parseTolerant calls state = .ok (desired, scope)) (applied : Applied) :
    (reconcile parseTolerant calls applied state).pendingHooks =
      (afterClusterUpgradeCalls calls scope).foldl HookCall.pending scope.current.pendingHooks := by
  rw [← callAfterClusterUpgrade_pending]
  unfold reconcile
  rw [generated]
  dsimp only
  cases callAfterClusterUpgrade calls scope with
  | error => rfl
  | ok =>
    split_ifs
    · rfl
    · rfl

variable {parseTolerant calls} {Expected : Observation → Prop} {state : ClusterState}
  {watched : Watched} {scope : Scope}

/-- The annotation follows the observer, and all that was observed was expected. -/
structure Watched.Consistent (Expected : Observation → Prop) (watched : Watched) : Prop where
  tracks : Tracks watched.upgrade watched.cluster.pendingHooks
  expected : ∀ observation ∈ watched.history, Expected observation

theorem generateCalls_recorded {calls : Calls} (tracks : Tracks watched.upgrade watched.cluster.pendingHooks)
    (earlier : ∀ observation ∈ watched.history, Expected observation)
    (version : ∀ call ∈ generateCalls parseTolerant calls watched.cluster,
      Expected (.versionCall watched.upgrade call)) :
    let asked := (generateCalls parseTolerant calls watched.cluster).foldl (Watched.record .versionCall) watched
    asked.cluster = watched.cluster ∧
      Tracks asked.upgrade
        ((generateCalls parseTolerant calls watched.cluster).foldl HookCall.pending watched.cluster.pendingHooks) ∧
      ∀ observation ∈ asked.history, Expected observation := by
  rcases generateCalls_cases parseTolerant calls watched.cluster with none | before | ⟨afterwards, -⟩
  · rw [none]
    exact ⟨rfl, tracks, earlier⟩
  · rw [before] at version ⊢
    refine ⟨rfl, tracks.observe calls _, ?_⟩
    exact forall_mem_cons.mpr ⟨version _ (by simp), earlier⟩
  · rw [afterwards] at version ⊢
    refine ⟨rfl, tracks.observe calls _, ?_⟩
    exact forall_mem_cons.mpr ⟨version _ (by simp), earlier⟩

/-- What a reconcile adds to the history is known call by call. -/
theorem hookStep_reconcile {next : Watched} {applied : Option Applied}
    (taken : hookStep parseTolerant watched (.reconcile calls applied) = some next)
    (consistent : watched.Consistent Expected)
    (version : ∀ call ∈ generateCalls parseTolerant { calls with runtimeSDK := true } watched.cluster,
      Expected (.versionCall watched.upgrade call))
    (after : ∀ desired scope upgrade,
      generate parseTolerant { calls with runtimeSDK := true } watched.cluster = .ok (desired, scope) →
      Tracks upgrade scope.current.pendingHooks →
      ∀ call ∈ afterClusterUpgradeCalls { calls with runtimeSDK := true } scope,
        Expected (.afterClusterUpgrade scope upgrade call)) : next.Consistent Expected := by
  rcases consistent with ⟨tracks, earlier⟩
  unfold hookStep at taken
  dsimp only at taken
  generalize { calls with runtimeSDK := true } = calls at taken version after
  have pending := generate_pending parseTolerant calls watched.cluster
  generalize asking : (generateCalls parseTolerant calls watched.cluster).foldl
    (Watched.record .versionCall) watched = asked at taken
  have recorded := generateCalls_recorded tracks earlier version
  rw [asking] at recorded
  rcases recorded with ⟨sameCluster, askedTracks, askedHistory⟩
  rw [← pending] at askedTracks
  split at taken
  case h_1 error _ generated =>
    cases taken
    rw [generated] at askedTracks
    refine ⟨?_, askedHistory⟩
    rw [sameCluster]
    exact askedTracks
  case h_2 desired scope generated =>
    cases taken
    rw [generated] at askedTracks
    exact ⟨askedTracks, askedHistory⟩
  case h_3 desired scope applied generated =>
    cases taken
    rw [generated] at askedTracks
    have written := reconcile_pending generated applied
    rcases afterClusterUpgradeCalls_cases calls scope with none | ⟨called, -⟩
    · rw [none] at written ⊢
      refine ⟨?_, askedHistory⟩
      rw [written]
      exact askedTracks
    · have expected := after desired scope asked.upgrade generated askedTracks
      rw [called] at expected written ⊢
      refine ⟨?_, forall_mem_cons.mpr ⟨expected _ (by simp), askedHistory⟩⟩
      rw [written]
      exact askedTracks.observe calls _

/-! ## Each hook is called until it is done -/

/-- A hook that is done is not called again during the same upgrade. -/
def Observation.NotRepeated : Observation → Prop
  | .versionCall upgrade call =>
    call.hook = .afterControlPlaneUpgrade → ∀ begun, upgrade = some begun → begun.controlPlaneDone = false
  | .afterClusterUpgrade _ upgrade _ => ∀ begun, upgrade = some begun → begun.clusterDone = false

theorem generateCalls_notRepeated {upgrade : Option Upgrade} {state : ClusterState}
    (tracks : Tracks upgrade state.pendingHooks) :
    ∀ call ∈ generateCalls parseTolerant calls state, (Observation.versionCall upgrade call).NotRepeated := by
  intro _ member
  rcases generateCalls_cases parseTolerant calls state with none | before | ⟨_, isPending⟩
  · rw [none] at member
    cases member
  · rw [before, mem_singleton] at member
    subst member
    intro other
    cases other
  · intro _ begun found
    exact (tracks begun found).1.mp isPending

/-! ## AfterClusterUpgrade comes last -/

/-- What a call of AfterClusterUpgrade should be able to rely on. -/
structure UpgradeFinished (parseTolerant : VersionReader) (scope : Scope) (begun : Upgrade) :
    Prop where
  controlPlaneDone : begun.controlPlaneDone = true
  notPending : .afterControlPlaneUpgrade ∉ scope.current.pendingHooks
  controlPlane : ∃ controlPlane, scope.current.controlPlane = some controlPlane ∧
    controlPlane.version = scope.current.topology.version ∧ controlPlane.isUpgrading parseTolerant = .ok false ∧
    (scope.current.topology.controlPlaneReplicas.isSome = true → controlPlane.isScaling = .ok false)
  machineDeployments : scope.upgradeTracker.machineDeployments.isSettled = true
  machinePools : scope.upgradeTracker.machinePools.isSettled = true

def Observation.InOrder (parseTolerant : VersionReader) : Observation → Prop
  | .versionCall _ _ => True
  | .afterClusterUpgrade scope upgrade _ => ∀ begun, upgrade = some begun → UpgradeFinished parseTolerant scope begun

/-- What nothing enforces while AfterClusterUpgrade is pending and no worker is
behind: the control plane is provisioned and not scaling, and if no worker is
left to be created either, a pending AfterControlPlaneUpgrade does not block. -/
def Orderly (state : ClusterState) (calls : Calls) : Prop :=
  .afterClusterUpgrade ∈ state.pendingHooks → AllUpgraded state → ProvisionedAndScaled state ∧
    (AllCreated state → .afterControlPlaneUpgrade ∈ state.pendingHooks →
      ∀ retryAfterSeconds, calls.retryAfterSeconds .afterControlPlaneUpgrade =
        .ok retryAfterSeconds → retryAfterSeconds = 0)

def HookAction.Orderly (watched : Watched) : HookAction → Prop
  | .change _ => True
  | .reconcile calls _ => Topology.Orderly watched.cluster calls

theorem callAfterControlPlaneUpgrade_blocks {scope after : Scope} (enabled : calls.runtimeSDK = true)
    (called : callAfterControlPlaneUpgrade calls scope = .ok after) :
    (∀ hook ∈ after.current.pendingHooks, hook ∈ scope.current.pendingHooks) ∧
      (.afterControlPlaneUpgrade ∈ after.current.pendingHooks →
        after.isBlocking .afterControlPlaneUpgrade = true ∧
          ∃ retryAfterSeconds, calls.retryAfterSeconds .afterControlPlaneUpgrade =
            .ok retryAfterSeconds ∧ retryAfterSeconds ≠ 0) := by
  unfold callAfterControlPlaneUpgrade at called
  split at called
  case isFalse notPending =>
    cases called
    refine ⟨fun hook member => member, fun member => ?_⟩
    simp [enabled, member] at notPending
  case isTrue isPending =>
    split at called
    case h_1 error failed => cases called
    case h_2 retryAfterSeconds answered =>
      split at called
      case isTrue blocking =>
        cases called
        refine ⟨fun hook member => member, fun _ => ⟨?_, retryAfterSeconds, answered, blocking⟩⟩
        simp [Scope.isBlocking, blocking]
      case isFalse answeredZero =>
        split at called
        case h_1 error failed => cases called
        case h_2 done =>
          cases called
          refine ⟨fun hook member => (mem_filter.mp member).1, fun member => ?_⟩
          simp at member

theorem ControlPlaneOutcome.pending_of_stable {scope after : Scope} {version : String}
    (outcome : ControlPlaneOutcome parseTolerant calls scope version after) (enabled : calls.runtimeSDK = true)
    (stable : after.upgradeTracker.controlPlane.isControlPlaneStable = true) :
    ∀ hook ∈ after.current.pendingHooks, hook ∈ scope.current.pendingHooks := by
  cases outcome with
  | absent | provisioning | upgrading | scaling => exact fun hook member => member
  | reached _ _ _ _ called =>
    exact (callAfterControlPlaneUpgrade_blocks enabled called).1
  | picked _ _ _ _ _ pickedUp =>
    rw [not_stable_of_pickUp pickedUp] at stable
    cases stable

theorem afterClusterUpgradeCalls_inOrder {state : ClusterState} {desired : DesiredVersions} {scope : Scope}
    {upgrade : Option Upgrade} (generated : generate parseTolerant calls state = .ok (desired, scope))
    (enabled : calls.runtimeSDK = true) (orderly : Orderly state calls)
    (tracks : Tracks upgrade scope.current.pendingHooks) :
    ∀ call ∈ afterClusterUpgradeCalls calls scope,
      (Observation.afterClusterUpgrade scope upgrade call).InOrder parseTolerant := by
  intro _ member begun found
  rcases afterClusterUpgradeCalls_cases calls scope with none | ⟨-, isPending, stable, deployments, pools⟩
  · rw [none] at member
    cases member
  rcases generate_from generated with ⟨_, _, middle, parts⟩
  rcases parts.same with ⟨-, sameCurrent, sameTracker⟩
  rw [sameTracker] at stable
  rcases parts.settled deployments pools with ⟨upgraded, created⟩
  rw [sameCurrent] at isPending
  rcases orderly (parts.outcome.pending_of_stable enabled stable _ isPending) upgraded with
    ⟨⟨controlPlane, present, provisioned, scaled⟩, answered⟩
  rcases (parts.outcome.of_stable stable).2 controlPlane present with
    ⟨atVersion, isProvisioning | ⟨-, notUpgrading, called⟩⟩
  · rw [provisioned] at isProvisioning
    cases isProvisioning
  have reads : scope.current = { state with pendingHooks := middle.current.pendingHooks } :=
    sameCurrent.trans parts.outcome.reads
  rcases callAfterControlPlaneUpgrade_blocks enabled called with ⟨pendingBefore, blocks⟩
  have notPending : .afterControlPlaneUpgrade ∉ middle.current.pendingHooks := by
    intro stillPending
    rcases blocks stillPending with ⟨blocking, retryAfterSeconds, answer, nonzero⟩
    exact nonzero (answered (created blocking) (pendingBefore _ stillPending) retryAfterSeconds answer)
  have notPendingAfter : .afterControlPlaneUpgrade ∉ scope.current.pendingHooks := by rwa [sameCurrent]
  refine ⟨?_, notPendingAfter, ⟨controlPlane, ?_, ?_, notUpgrading, ?_⟩, deployments, pools⟩
  · cases done : begun.controlPlaneDone with
    | true => rfl
    | false => exact absurd ((tracks begun found).1.mpr done) notPendingAfter
  · rw [reads]
    exact present
  · rw [reads]
    exact atVersion
  · rw [reads]
    exact scaled

/-- In every run, a hook that is done is not called again until the next
upgrade; and in every run whose reconciles are orderly, AfterClusterUpgrade is
only called for an upgrade that is finished. -/
theorem run_hooksInOrder (parseTolerant : VersionReader) (cluster : ClusterState)
    {schedule : List HookAction} {final : Watched}
    (executed : execute (hookStep parseTolerant) { cluster } schedule = some final) :
    (∀ observation ∈ final.history, observation.NotRepeated) ∧
      (Meets (hookStep parseTolerant) HookAction.Orderly { cluster } schedule →
        ∀ observation ∈ final.history, observation.InOrder parseTolerant) := by
  have initially (Expected : Observation → Prop) : ({ cluster } : Watched).Consistent Expected := by
    refine ⟨?_, by simp⟩
    intro _ found
    cases found
  constructor
  · have consistent : final.Consistent Observation.NotRepeated := by
      refine execute_invariant_of_step ?_ (initially _) executed
      intro watched action next consistent taken
      cases action with
      | change =>
        cases taken
        exact ⟨consistent.tracks, consistent.expected⟩
      | reconcile =>
        refine hookStep_reconcile taken consistent (generateCalls_notRepeated consistent.tracks) ?_
        intro desired scope upgrade _ tracks _ member begun found
        rcases afterClusterUpgradeCalls_cases _ scope with none | ⟨-, isPending, -⟩
        · rw [none] at member
          cases member
        · exact (tracks begun found).2.mp isPending
    exact consistent.expected
  · intro meets
    have consistent : final.Consistent (Observation.InOrder parseTolerant) := by
      refine execute_invariant ?_ (initially _) meets executed
      intro _ action _ consistent orderly taken
      cases action with
      | change =>
        cases taken
        exact ⟨consistent.tracks, consistent.expected⟩
      | reconcile =>
        refine hookStep_reconcile taken consistent (fun _ _ => trivial) ?_
        intro _ _ _ generated tracks
        exact afterClusterUpgradeCalls_inOrder generated rfl orderly tracks
    exact consistent.expected

def workerless (version statusVersion : String) : ClusterState where
  topology := { version := "v1.31.0" }
  controlPlane := some { version, statusVersion := some statusVersion }

def workerlessUpgrade (retryAfterSeconds : Int) : List HookAction :=
  [.reconcile {} (some ⟨true, [], [], id⟩),
    .change (workerless "v1.31.0" "v1.31.0"),
    .reconcile { retryAfterSeconds := fun _ => .ok retryAfterSeconds } (some ⟨true, [], [], id⟩)]

/-- While AfterControlPlaneUpgrade asks to be called again, AfterClusterUpgrade is called already. -/
theorem blockingHook_overtaken :
    ∃ final, execute (hookStep Version.readTolerant) { cluster := workerless "v1.30.0" "v1.30.0" } (workerlessUpgrade 30) =
        some final ∧ ∃ observation ∈ final.history, ¬ observation.InOrder Version.readTolerant := by
  refine ⟨_, rfl, _, mem_cons_self, ?_⟩
  intro inOrder
  exact absurd (inOrder {} rfl).controlPlaneDone (by decide)

theorem answeredHook_inOrder :
    ∃ final, execute (hookStep Version.readTolerant) { cluster := workerless "v1.30.0" "v1.30.0" } (workerlessUpgrade 0) =
        some final ∧ final.history.length = 3 ∧
      ∀ observation ∈ final.history, observation.NotRepeated ∧ observation.InOrder Version.readTolerant := by
  refine ⟨_, rfl, rfl, ?_⟩
  have result := @run_hooksInOrder Version.readTolerant (workerless "v1.30.0" "v1.30.0") (workerlessUpgrade 0) _ rfl
  have meets : Meets (hookStep Version.readTolerant) HookAction.Orderly { cluster := workerless "v1.30.0" "v1.30.0" }
      (workerlessUpgrade 0) := by
    refine ⟨fun isPending => absurd isPending (by decide), trivial, fun _ _ => ⟨?_, ?_⟩, trivial⟩
    · exact ⟨_, rfl, by decide, fun supported => absurd supported (by decide)⟩
    · intro _ _ _ answered
      cases answered
      rfl
  intro observation member
  exact ⟨result.1 observation member, result.2 meets observation member⟩

end ClusterApi.Topology

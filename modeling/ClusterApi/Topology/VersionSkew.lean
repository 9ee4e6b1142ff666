import ClusterApi.Foundation.Runs
import ClusterApi.Topology.DesiredState
import ClusterApi.Topology.Webhook

namespace ClusterApi.Topology

open Foundation

/-!
# Version skew between the control plane and the MachineDeployments

The bound on the skew is checked nowhere.  It follows from three decisions: the
webhook lets the topology version move by at most one minor version at a time,
the control plane takes the topology version, and a MachineDeployment takes it
only from a control plane that is already there.  What the control plane and
the workers report in the meantime is arbitrary.

Two gaps of the webhook break the bound.  A pre-release of a release with
patch zero stays below the ceilings, so it is admitted two minors ahead, or one
minor ahead without looking at the workers; and a version with the precedence
of `0.0.0` switches the decrease rule off.  No update that meets `SafeUpdate`
passes through one of them.
-/

/-! ## The system -/

inductive Action
  /-- A Cluster update with a new topology, without the unsafe-update annotation. -/
  | updateTopology (topology : ClusterTopology)
  | reconcile (calls : Calls) (applied : Applied)
  /-- The control plane reports a status; its spec is not touched. -/
  | controlPlaneStatus (status : ControlPlane)
  /-- Machines of a MachineDeployment come, go or change. -/
  | machineDeploymentInstances (topologyName : String) (instances : List Instance)
  | machinePoolInstances (topologyName : String) (instances : List Instance)
  /-- A MachineDeployment is gone after its deletion. -/
  | machineDeploymentGone (topologyName : String)

def setInstances (topologyName : String) (instances : List Instance) (workers : List Worker) : List Worker :=
  workers.map fun worker => if worker.topologyName = topologyName then { worker with instances } else worker

def step (parseTolerant : VersionReader) (state : ClusterState) : Action → Option ClusterState
  | .updateTopology topology =>
    if validateTopology parseTolerant state topology.version = [] then some { state with topology } else none
  | .reconcile calls applied => some (Topology.reconcile parseTolerant calls applied state)
  | .controlPlaneStatus status => some { state with
      controlPlane := state.controlPlane.map fun controlPlane =>
        { status with version := controlPlane.version, replicas := controlPlane.replicas } }
  | .machineDeploymentInstances topologyName instances => some { state with
      machineDeployments := setInstances topologyName instances state.machineDeployments }
  | .machinePoolInstances topologyName instances => some { state with
      machinePools := setInstances topologyName instances state.machinePools }
  | .machineDeploymentGone topologyName => some { state with
      machineDeployments := state.machineDeployments.filter fun worker => worker.topologyName ≠ topologyName }

/-- The control plane and all MachineDeployments are at the topology version. -/
structure AtTopologyVersion (parseTolerant : VersionReader) (state : ClusterState) : Prop where
  parsed : ∃ version, parseTolerant state.topology.version = .ok version
  controlPlane : ∀ controlPlane, state.controlPlane = some controlPlane →
    controlPlane.version = state.topology.version
  machineDeployments : ∀ worker ∈ state.machineDeployments, worker.version = state.topology.version

/-- Every MachineDeployment is not newer than the control plane and at most one minor behind it. -/
def WithinSkew (parseTolerant : VersionReader) (state : ClusterState) : Prop :=
  ∀ worker ∈ state.machineDeployments, ∀ controlPlane, state.controlPlane = some controlPlane →
    ∃ workerVersion version, parseTolerant worker.version = .ok workerVersion ∧
      parseTolerant controlPlane.version = .ok version ∧ workerVersion ≤ version ∧
      workerVersion.major = version.major ∧ version.minor.toNat ≤ workerVersion.minor.toNat + 1

/-! ## The two gaps of the webhook -/

def settledCluster : ClusterState where
  topology := { version := "v1.27.0", machineDeployments := [{ name := "md" }] }
  controlPlane := some { version := "v1.27.0", statusVersion := some "v1.27.0" }
  machineDeployments := [{ name := "md-1", topologyName := "md", version := "v1.27.0" }]

def fullyApplied : Applied where
  controlPlane := true
  machineDeployments := ["md"]
  machinePools := []
  generatedName := fun topologyName => topologyName ++ "-1"

theorem settledCluster_atTopologyVersion : AtTopologyVersion Version.readTolerant settledCluster :=
  ⟨⟨_, rfl⟩, by rintro _ ⟨⟩; rfl, by simp [settledCluster]⟩

/-- A pre-release two minors ahead is admitted, and the next reconcile starts the control plane upgrade. -/
theorem prerelease_breaks_skew :
    ¬ ∀ (start final : ClusterState) (schedule : List Action), AtTopologyVersion Version.readTolerant start →
      execute (step Version.readTolerant) start schedule = some final → WithinSkew Version.readTolerant final := by
  intro always
  have executed : execute (step Version.readTolerant) settledCluster
      [.updateTopology { version := "v1.29.0-alpha.1", machineDeployments := [{ name := "md" }] },
        .reconcile {} fullyApplied] =
      some { settledCluster with
        topology := { version := "v1.29.0-alpha.1", machineDeployments := [{ name := "md" }] }
        controlPlane := some { version := "v1.29.0-alpha.1", statusVersion := some "v1.27.0" } } := by
    decide +kernel
  obtain ⟨workerVersion, version, parsedWorker, parsed, -, -, behind⟩ :=
    always _ _ _ settledCluster_atTopologyVersion executed _ (List.mem_singleton.mpr rfl) _ rfl
  have worker : workerVersion = Version.release 1 27 0 := Except.ok.inj (parsedWorker.symm.trans rfl)
  have controlPlane : version = { Version.release 1 29 0 with pre := [.alphanumeric "alpha", .numeric 1] } :=
    Except.ok.inj (parsed.symm.trans rfl)
  subst worker controlPlane
  revert behind
  decide

/-- Updates that do not decrease the version around `0.0.0`. -/
def NoDecrease (parseTolerant : VersionReader) (state : ClusterState) : Action → Prop
  | .updateTopology topology => ∀ old new, parseTolerant state.topology.version = .ok old →
      parseTolerant topology.version = .ok new →
      (new.compare (Version.release 0 0 0) = 0 ∨ old.compare (Version.release 0 0 0) = 0) → old ≤ new
  | _ => True

/-- Updates that avoid the two gaps: no decrease around `0.0.0`, and a new
minor entered through a pre-release of its first release is the next one, with
all MachineDeployments at the current minor. -/
def SafeUpdate (parseTolerant : VersionReader) (state : ClusterState) : Action → Prop
  | .updateTopology topology => ∀ old new, parseTolerant state.topology.version = .ok old →
      parseTolerant topology.version = .ok new →
      ((new.compare (Version.release 0 0 0) = 0 ∨ old.compare (Version.release 0 0 0) = 0) → old ≤ new) ∧
      (old.minor < new.minor → new.patch = 0 → new.pre ≠ [] →
        new.minor.toNat = old.minor.toNat + 1 ∧
          ∀ worker ∈ state.machineDeployments, ∀ version, parseTolerant worker.version =
            .ok version → version.minor = old.minor)
  | _ => True

/-! ## The invariant -/

variable {parseTolerant : VersionReader} {state next : ClusterState} {topology : ClusterTopology}
  {target : Version} {action : Action}

/-- The topology version bounds everything from above, and no MachineDeployment
is more than one minor behind it.  The control plane may lag further
while there are no MachineDeployments. -/
structure SkewInvariant (parseTolerant : VersionReader) (state : ClusterState)
    (target : Version) : Prop where
  parsed : parseTolerant state.topology.version = .ok target
  controlPlane : ∀ controlPlane, state.controlPlane = some controlPlane →
    ∃ version, parseTolerant controlPlane.version = .ok version ∧ version.major = target.major ∧ version ≤ target
  machineDeployments : ∀ worker ∈ state.machineDeployments,
    ∃ version, parseTolerant worker.version = .ok version ∧ version.major = target.major ∧ version ≤
      target ∧ target.minor.toNat ≤ version.minor.toNat + 1
  ordered : ∀ worker ∈ state.machineDeployments, ∀ controlPlane, state.controlPlane =
    some controlPlane → ∀ workerVersion version, parseTolerant worker.version = .ok workerVersion →
      parseTolerant controlPlane.version = .ok version → workerVersion ≤ version

theorem AtTopologyVersion.invariant (settled : AtTopologyVersion parseTolerant state) :
    ∃ target, SkewInvariant parseTolerant state target := by
  rcases settled.parsed with ⟨target, parsed⟩
  refine ⟨target, parsed, ?_, ?_, ?_⟩
  · intro controlPlane present
    rw [settled.controlPlane controlPlane present]
    exact ⟨target, parsed, rfl, le_refl target⟩
  · intro worker member
    rw [settled.machineDeployments worker member]
    exact ⟨target, parsed, rfl, le_refl target, Nat.le_succ _⟩
  · intro worker member controlPlane present _ _ parsedWorker parsedControlPlane
    rw [settled.machineDeployments worker member] at parsedWorker
    rw [settled.controlPlane controlPlane present, parsedWorker] at parsedControlPlane
    cases parsedControlPlane
    exact le_refl _

theorem SkewInvariant.withinSkew (invariant : SkewInvariant parseTolerant state target) :
    WithinSkew parseTolerant state := by
  intro worker member controlPlane present
  rcases invariant.machineDeployments worker member with ⟨workerVersion, parsedWorker, workerMajor, -, _⟩
  rcases invariant.controlPlane controlPlane present with ⟨version, parsed, major, le⟩
  have ordered := invariant.ordered worker member controlPlane present workerVersion version parsedWorker parsed
  have minor : version.minor.toNat ≤ target.minor.toNat :=
    UInt64.le_iff_toNat_le.mp (Version.minor_le_of_le le major)
  exact ⟨workerVersion, version, parsedWorker, parsed, ordered, workerMajor.trans major.symm, by omega⟩

theorem Admitted.le {old new : Version} (admitted : Admitted parseTolerant state old new)
    (zeroSafe : (new.compare (Version.release 0 0 0) = 0 ∨ old.compare (Version.release 0 0 0) = 0) → old ≤ new) :
    old ≤ new := by
  by_cases newZero : new.compare (Version.release 0 0 0) = 0
  · exact zeroSafe (.inl newZero)
  by_cases oldZero : old.compare (Version.release 0 0 0) = 0
  · exact zeroSafe (.inr oldZero)
  exact admitted.notDecreased newZero oldZero

/-- An admitted and safe update raises the topology version, by at most one
minor, and by one only if all MachineDeployments are at the current minor. -/
theorem Admitted.advances {old new : Version} (admitted : Admitted parseTolerant state old new)
    (parsedOld : parseTolerant state.topology.version = .ok old) (parsedNew : parseTolerant topology.version = .ok new)
    (safe : SafeUpdate parseTolerant state (.updateTopology topology)) :
    old ≤ new ∧ new.major = old.major ∧
      (new.minor = old.minor ∨ new.minor.toNat = old.minor.toNat + 1 ∧
        ∀ worker ∈ state.machineDeployments, ∀ version, parseTolerant worker.version = .ok version →
          version.minor = old.minor) := by
  rcases safe old new parsedOld parsedNew with ⟨zeroSafe, prereleaseSafe⟩
  have le := admitted.le zeroSafe
  obtain ⟨major, ceiling⟩ : new.major = old.major ∧ (new.minor < old.minor + 2 ∨
      new.minor = old.minor + 2 ∧ new.patch = 0 ∧ new.pre ≠ []) := by
    rcases Version.not_release_le.mp admitted.belowCeiling with below | found
    · exact absurd (Version.major_le_of_le le) (UInt64.not_le.mpr below)
    · exact found
  refine ⟨le, major, ?_⟩
  by_cases same : new.minor = old.minor
  · exact .inl same
  have above : old.minor < new.minor :=
    UInt64.lt_of_le_of_ne (Version.minor_le_of_le le major.symm) (Ne.symm same)
  refine .inr ?_
  by_cases minorUpgrade : Version.release old.major (old.minor + 1) 0 ≤ new
  · rcases ceiling with below | ⟨-, patch, pre⟩
    · refine ⟨?_, ?_⟩
      · -- The sum may wrap around, but then the ceiling is below the old minor.
        rw [UInt64.lt_iff_toNat_lt] at above below
        rw [UInt64.toNat_add] at below
        have two : (2 : UInt64).toNat = 2 := rfl
        omega
      · intro worker member _ parsed
        rcases admitted.minorUpgrade minorUpgrade worker member with ⟨_, parsedFound, sameKey⟩
        cases parsed.symm.trans parsedFound
        simp only [Version.key, EmbeddingLike.apply_eq_iff_eq, Prod.mk.injEq, UInt64.toNat_inj] at sameKey
        exact sameKey.2.1
    · exact prereleaseSafe above patch pre
  · rcases Version.not_release_le.mp minorUpgrade with below | ⟨-, below | ⟨-, patch, pre⟩⟩
    · exact absurd (Version.major_le_of_le le) (UInt64.not_le.mpr below)
    · rw [UInt64.lt_iff_toNat_lt] at above below
      rw [UInt64.toNat_add] at below
      have one : (1 : UInt64).toNat = 1 := rfl
      omega
    · exact prereleaseSafe above patch pre

theorem SkewInvariant.update (invariant : SkewInvariant parseTolerant state target)
    (valid : validateTopology parseTolerant state topology.version = [])
    (safe : SafeUpdate parseTolerant state (.updateTopology topology)) :
    ∃ next, SkewInvariant parseTolerant { state with topology } next := by
  rcases validateTopology_eq_nil valid with ⟨_, new, parsedOld, parsedNew, admitted⟩
  cases invariant.parsed.symm.trans parsedOld
  rcases admitted.advances parsedOld parsedNew safe with ⟨le, major, minor⟩
  refine ⟨new, parsedNew, ?_, ?_, invariant.ordered⟩
  · intro controlPlane present
    rcases invariant.controlPlane controlPlane present with ⟨version, parsed, sameMajor, below⟩
    exact ⟨version, parsed, sameMajor.trans major.symm, below.trans le⟩
  · intro worker member
    rcases invariant.machineDeployments worker member with ⟨version, parsed, sameMajor, below, behind⟩
    refine ⟨version, parsed, sameMajor.trans major.symm, below.trans le, ?_⟩
    rcases minor with same | ⟨next, atMinor⟩
    · rw [same]
      exact behind
    · rw [next, atMinor worker member version parsed]

theorem SkewInvariant.of_reconciled {stable : Bool} (invariant : SkewInvariant parseTolerant state target)
    (reconciled : Reconciled state next stable) : SkewInvariant parseTolerant next target := by
  have parsed : parseTolerant next.topology.version = .ok target := by
    rw [reconciled.topology]
    exact invariant.parsed
  refine ⟨parsed, ?_, ?_, ?_⟩
  · intro controlPlane present
    rcases reconciled.controlPlane controlPlane present with taken | ⟨before, found, kept⟩
    · rw [taken]
      exact ⟨target, invariant.parsed, rfl, le_refl target⟩
    · rw [kept]
      exact invariant.controlPlane before found
  · intro worker member
    rcases reconciled.machineDeployments worker member with ⟨before, found, kept⟩ | ⟨-, taken⟩
    · rw [kept]
      exact invariant.machineDeployments before found
    · rw [taken]
      exact ⟨target, invariant.parsed, rfl, le_refl target, Nat.le_succ _⟩
  · intro worker member controlPlane present _ version parsedWorker parsedControlPlane
    -- Either side may have moved to the topology version, but the worker only behind the control plane.
    have atTarget : controlPlane.version = state.topology.version → version = target := by
      intro taken
      rw [taken, invariant.parsed] at parsedControlPlane
      exact (Except.ok.inj parsedControlPlane).symm
    rcases reconciled.machineDeployments worker member with ⟨before, found, kept⟩ | ⟨isStable, taken⟩
    · rw [kept] at parsedWorker
      rcases reconciled.controlPlane controlPlane present with moved | ⟨beforeControlPlane, foundControlPlane, same⟩
      · rcases invariant.machineDeployments before found with ⟨_, parsedKnown, -, below, -⟩
        cases parsedWorker.symm.trans parsedKnown
        rw [atTarget moved]
        exact below
      · rw [same] at parsedControlPlane
        exact invariant.ordered before found beforeControlPlane foundControlPlane _ _ parsedWorker parsedControlPlane
    · have moved : controlPlane.version = state.topology.version := by
        rcases reconciled.controlPlane controlPlane present with moved | ⟨beforeControlPlane, foundControlPlane, same⟩
        · exact moved
        · exact same.trans (reconciled.atVersion isStable beforeControlPlane foundControlPlane)
      rw [taken, invariant.parsed] at parsedWorker
      cases parsedWorker
      rw [atTarget moved]

theorem step_reconciled (notUpdate : ∀ topology, action ≠ .updateTopology topology)
    (taken : step parseTolerant state action = some next) : ∃ stable, Reconciled state next stable := by
  cases action with
  | updateTopology topology => exact absurd rfl (notUpdate topology)
  | reconcile calls applied =>
    cases taken
    exact reconcile_spec parseTolerant calls applied state
  | controlPlaneStatus =>
    cases taken
    refine ⟨false, rfl, by simp, ?_, fun worker member => .inl ⟨worker, member, rfl⟩⟩
    intro controlPlane present
    rcases Option.map_eq_some_iff.mp present with ⟨before, found, rfl⟩
    exact .inr ⟨before, found, rfl⟩
  | machineDeploymentInstances =>
    cases taken
    refine ⟨false, rfl, by simp, fun controlPlane present => .inr ⟨controlPlane, present, rfl⟩, ?_⟩
    intro worker member
    rcases List.mem_map.mp member with ⟨before, found, rfl⟩
    refine .inl ⟨before, found, ?_⟩
    split_ifs <;> rfl
  | machinePoolInstances =>
    cases taken
    exact ⟨false, .of_unchanged rfl rfl rfl⟩
  | machineDeploymentGone =>
    cases taken
    refine ⟨false, rfl, by simp, fun controlPlane present => .inr ⟨controlPlane, present, rfl⟩, ?_⟩
    intro worker member
    exact .inl ⟨worker, (List.mem_filter.mp member).1, rfl⟩

theorem step_invariant (invariant : ∃ target, SkewInvariant parseTolerant state target)
    (safe : SafeUpdate parseTolerant state action) (taken : step parseTolerant state action = some next) :
    ∃ target, SkewInvariant parseTolerant next target := by
  rcases invariant with ⟨target, invariant⟩
  by_cases update : ∃ topology, action = .updateTopology topology
  · rcases update with ⟨_, rfl⟩
    simp only [step] at taken
    split_ifs at taken with valid
    cases taken
    exact invariant.update valid safe
  · rcases step_reconciled (not_exists.mp update) taken with ⟨_, reconciled⟩
    exact ⟨target, invariant.of_reconciled reconciled⟩

/-- In every run whose updates are safe, the skew stays within one minor and no
MachineDeployment overtakes the control plane. -/
theorem safe_run_withinSkew {start final : ClusterState} {schedule : List Action}
    (settled : AtTopologyVersion parseTolerant start)
    (safe : Meets (step parseTolerant) (SafeUpdate parseTolerant) start schedule)
    (executed : execute (step parseTolerant) start schedule = some final) : WithinSkew parseTolerant final := by
  obtain ⟨_, invariant⟩ := execute_invariant
    (fun _ _ _ holds safeUpdate taken => step_invariant holds safeUpdate taken) settled.invariant safe executed
  exact invariant.withinSkew

/-! ## Nothing is downgraded -/

/-- The version can be read and is not below the floor. -/
def AtLeast (parseTolerant : VersionReader) (floor : Version) (text : String) : Prop :=
  ∃ version, parseTolerant text = .ok version ∧ floor ≤ version

structure NotBelow (parseTolerant : VersionReader) (floor : Version) (state : ClusterState) :
    Prop where
  topology : AtLeast parseTolerant floor state.topology.version
  controlPlane : ∀ controlPlane, state.controlPlane = some controlPlane →
    AtLeast parseTolerant floor controlPlane.version
  machineDeployments : ∀ worker ∈ state.machineDeployments, AtLeast parseTolerant floor worker.version

theorem NotBelow.step {floor : Version} (notBelow : NotBelow parseTolerant floor state)
    (noDecrease : NoDecrease parseTolerant state action) (taken : step parseTolerant state action = some next) :
    NotBelow parseTolerant floor next := by
  by_cases update : ∃ topology, action = .updateTopology topology
  · rcases update with ⟨_, rfl⟩
    simp only [Topology.step] at taken
    split_ifs at taken with valid
    cases taken
    refine ⟨?_, notBelow.controlPlane, notBelow.machineDeployments⟩
    rcases validateTopology_eq_nil valid with ⟨old, new, parsedOld, parsedNew, admitted⟩
    rcases notBelow.topology with ⟨_, parsed, le⟩
    cases parsed.symm.trans parsedOld
    exact ⟨new, parsedNew, le.trans (admitted.le (noDecrease old new parsedOld parsedNew))⟩
  · rcases step_reconciled (not_exists.mp update) taken with ⟨_, reconciled⟩
    refine ⟨?_, ?_, ?_⟩
    · rw [reconciled.topology]
      exact notBelow.topology
    · intro controlPlane present
      rcases reconciled.controlPlane controlPlane present with moved | ⟨before, found, same⟩
      · rw [moved]
        exact notBelow.topology
      · rw [same]
        exact notBelow.controlPlane before found
    · intro worker member
      rcases reconciled.machineDeployments worker member with ⟨before, found, same⟩ | ⟨_, moved⟩
      · rw [same]
        exact notBelow.machineDeployments before found
      · rw [moved]
        exact notBelow.topology

/-- In every run without a decrease around `0.0.0`, neither the topology nor the control plane nor a MachineDeployment
gets below a version at which the Cluster once was as a whole, and all their versions can be read. -/
theorem run_notBelow {start final : ClusterState} {floor : Version} {schedule : List Action}
    (settled : AtTopologyVersion parseTolerant start) (parsed : parseTolerant start.topology.version = .ok floor)
    (noDecrease : Meets (step parseTolerant) (NoDecrease parseTolerant) start schedule)
    (executed : execute (step parseTolerant) start schedule = some final) : NotBelow parseTolerant floor final := by
  have atFloor : AtLeast parseTolerant floor start.topology.version := ⟨floor, parsed, le_refl floor⟩
  have initially : NotBelow parseTolerant floor start := by
    refine ⟨atFloor, ?_, ?_⟩
    · intro controlPlane present
      rw [settled.controlPlane controlPlane present]
      exact atFloor
    · intro worker member
      rw [settled.machineDeployments worker member]
      exact atFloor
  exact execute_invariant (fun _ _ _ notBelow noDecrease taken => notBelow.step noDecrease taken) initially noDecrease
    executed

def minorUpgrade : List Action :=
  [.updateTopology { version := "v1.28.0", machineDeployments := [{ name := "md" }] },
    .reconcile {} fullyApplied,
    .controlPlaneStatus { version := "", statusVersion := some "v1.28.0" },
    .reconcile {} fullyApplied]

def upgradedCluster : ClusterState where
  topology := { version := "v1.28.0", machineDeployments := [{ name := "md" }] }
  controlPlane := some { version := "v1.28.0", statusVersion := some "v1.28.0" }
  machineDeployments := [{ name := "md-1", topologyName := "md", version := "v1.28.0" }]

theorem minorUpgrade_executed :
    execute (step Version.readTolerant) settledCluster minorUpgrade = some upgradedCluster := by
  decide +kernel

theorem minorUpgrade_meets {condition : ClusterState → Action → Prop}
    (first : condition settledCluster
      (.updateTopology { version := "v1.28.0", machineDeployments := [{ name := "md" }] }))
    (others : ∀ state action, (∀ topology, action ≠ .updateTopology topology) → condition state action) :
    Meets (step Version.readTolerant) condition settledCluster minorUpgrade := by
  refine .cons first fun next _ => meets_of_forall (fun state action member => others state action ?_) next
  simp only [List.mem_cons, List.not_mem_nil, or_false] at member
  rcases member with rfl | rfl | rfl <;> simp

theorem minorUpgrade_withinSkew :
    execute (step Version.readTolerant) settledCluster minorUpgrade = some upgradedCluster ∧
      WithinSkew Version.readTolerant upgradedCluster := by
  refine ⟨minorUpgrade_executed, ?_⟩
  refine safe_run_withinSkew settledCluster_atTopologyVersion (minorUpgrade_meets ?_ ?_) minorUpgrade_executed
  · intro old new parsedOld parsedNew
    have oldVersion : old = Version.release 1 27 0 := Except.ok.inj (parsedOld.symm.trans rfl)
    have newVersion : new = Version.release 1 28 0 := Except.ok.inj (parsedNew.symm.trans rfl)
    subst oldVersion newVersion
    exact ⟨by decide, fun _ _ release => absurd rfl release⟩
  · intro state action notUpdate
    cases action
    case updateTopology topology => exact absurd rfl (notUpdate topology)
    all_goals trivial

theorem minorUpgrade_notBelow :
    execute (step Version.readTolerant) settledCluster minorUpgrade = some upgradedCluster ∧
      NotBelow Version.readTolerant (Version.release 1 27 0) upgradedCluster := by
  refine ⟨minorUpgrade_executed, ?_⟩
  refine run_notBelow settledCluster_atTopologyVersion rfl (minorUpgrade_meets ?_ ?_) minorUpgrade_executed
  · intro old new parsedOld parsedNew
    cases parsedOld.symm.trans rfl
    cases parsedNew.symm.trans rfl
    decide
  · intro state action notUpdate
    cases action
    case updateTopology topology => exact absurd rfl (notUpdate topology)
    all_goals trivial

end ClusterApi.Topology

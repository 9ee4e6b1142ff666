import ClusterApi.ControlPlane.MachineCreation
import ClusterApi.Foundation.Runs

namespace ClusterApi.ControlPlane

open Foundation Bootstrap

/-!
# Is a Machine up to date?

A control plane Machine is rolled out when it does not match the
KubeadmControlPlane any more.  Its KubeadmConfig was cut from the spec of the
control plane, then defaulted, then completed by the bootstrap controller; the
comparison tries to undo these changes.  It succeeds in all but two cases.  A
JoinConfiguration that the bootstrap controller created is ignored if the
control plane has none, but an InitConfiguration is not; and a configuration
created beside one that the control plane does have is compared with it.

Two values that are equal have no diff.  The text of a diff is a parameter.
-/

/-- The texts of `cmp.Diff`. -/
structure Reports where
  clusterConfiguration : ClusterConfiguration → ClusterConfiguration → String
  kubeadmConfigSpec : KubeadmConfigSpec → KubeadmConfigSpec → String

/-- `compare.Diff`: whether the values are equal, and otherwise their difference. -/
def diff {α : Type} [DecidableEq α] (report : α → α → String) (first second : α) : Bool × String :=
  if first = second then (true, "") else (false, report first second)

/-! ## Matching the configuration of kubeadm -/

/-- Without the annotation there is not enough information to decide. -/
def matchClusterConfiguration (reports : Reports) (kcp : KubeadmControlPlaneSpec)
    (machine : OwnedMachine) : Bool × String :=
  match machine.clusterConfiguration with
  | none => (true, "")
  | some .undecodable => (false, "")
  | some (.encoded configuration) =>
    let kcpConfiguration := kcp.kubeadmConfigSpec.clusterConfiguration.getD {}
    -- The DNS of a running cluster is updated in place.
    diff reports.clusterConfiguration { configuration.getD {} with dns := kcpConfiguration.dns } kcpConfiguration

def getAdjustedKcpConfig (kcp : KubeadmControlPlaneSpec) (machineSpec : KubeadmConfigSpec) : KubeadmConfigSpec :=
  let kcpConfig := kcp.kubeadmConfigSpec
  let kcpConfig := if machineSpec.joinConfiguration.isNone then { kcpConfig with joinConfiguration := none }
    else kcpConfig
  if machineSpec.initConfiguration.isNone then { kcpConfig with initConfiguration := none } else kcpConfig

/-- Drop from both specs what is not relevant; the result is the spec of the
control plane and that of the Machine. -/
def cleanupConfigFields (kcpConfig machineSpec : KubeadmConfigSpec) : KubeadmConfigSpec × KubeadmConfigSpec :=
  let kcpConfig := { kcpConfig with clusterConfiguration := none }
  let machineSpec := { machineSpec with clusterConfiguration := none }
  let machineSpec := if kcpConfig.joinConfiguration.isNone then { machineSpec with joinConfiguration := none }
    else machineSpec
  let kcpConfig := { kcpConfig with
    joinConfiguration := kcpConfig.joinConfiguration.map JoinConfiguration.withoutDiscovery }
  let machineSpec := { machineSpec with
    joinConfiguration := machineSpec.joinConfiguration.map JoinConfiguration.withoutDiscovery }
  let machineSpec := match kcpConfig.joinConfiguration with
    | none => machineSpec
    | some join =>
      let machineSpec := if join.controlPlane.isNone then
        { machineSpec with
          joinConfiguration := machineSpec.joinConfiguration.map fun found => { found with controlPlane := none } }
        else machineSpec
      if join.nodeRegistration = {} then
        { machineSpec with
          joinConfiguration := machineSpec.joinConfiguration.map fun found => { found with nodeRegistration := {} } }
      else machineSpec
  let machineSpec := match kcpConfig.initConfiguration with
    | none => machineSpec
    | some init =>
      { machineSpec with
        initConfiguration := machineSpec.initConfiguration.map fun found =>
          { found with typeMeta := init.typeMeta } }
  let machineSpec := match kcpConfig.joinConfiguration with
    | none => machineSpec
    | some join =>
      { machineSpec with
        joinConfiguration := machineSpec.joinConfiguration.map fun found =>
          { found with typeMeta := join.typeMeta } }
  (kcpConfig, machineSpec)

def matchInitOrJoinConfiguration (reports : Reports) (kcp : KubeadmControlPlaneSpec)
    (machineSpec : KubeadmConfigSpec) : Bool × String :=
  let (kcpConfig, machineSpec) :=
    cleanupConfigFields (getAdjustedKcpConfig kcp machineSpec).default machineSpec.default
  diff reports.kubeadmConfigSpec machineSpec kcpConfig

/-- The reason why the KubeadmConfig does not match, if it does not.  A config
that cannot be found counts as a match. -/
def matchesKubeadmBootstrapConfig (reports : Reports) (machineConfigs : String → Option KubeadmConfig)
    (kcp : KubeadmControlPlaneSpec) (machine : OwnedMachine) : Option String :=
  match matchClusterConfiguration reports kcp machine with
  | (false, text) => some ("Machine KubeadmConfig ClusterConfiguration is outdated: diff: " ++ text)
  | (true, _) =>
    match machine.configRef, machineConfigs machine.name with
    | some _, some machineConfig =>
      match matchInitOrJoinConfiguration reports kcp machineConfig.spec with
      | (false, text) =>
        some ("Machine KubeadmConfig InitConfiguration or JoinConfiguration are outdated: diff: " ++ text)
      | (true, _) => none
    | _, _ => none

/-! ## Matching the Machine -/

def matchesTemplateClonedFrom (infraConfigs : String → Option InfraMachine)
    (kcp : KubeadmControlPlaneSpec) (machine : OwnedMachine) : Option String :=
  match infraConfigs machine.name with
  | none => none
  | some infra =>
    match infra.clonedFromName, infra.clonedFromGroupKind with
    | some name, some groupKind =>
      if name ≠ kcp.infrastructureRef.name ∨ groupKind ≠ kcp.infrastructureRef.groupKind then
        some ("Infrastructure template on KCP rotated from " ++ groupKind ++ " " ++ name ++ " to " ++
          kcp.infrastructureRef.groupKind ++ " " ++ kcp.infrastructureRef.name)
      else none
    | _, _ => none

/-- Messages for the log and for the conditions of the Machine. -/
structure Messages where
  logMessages : List String := []
  conditionMessages : List String := []
  deriving DecidableEq

namespace Messages

def append (first second : Messages) : Messages :=
  ⟨first.logMessages ++ second.logMessages, first.conditionMessages ++ second.conditionMessages⟩

/-- One message of each kind if there is something to tell. -/
def ofOption (reason : Option String) (condition : String) : Messages :=
  match reason with
  | none => {}
  | some text => ⟨[text], [condition]⟩

end Messages

def matchesMachineSpec (reports : Reports) (infraConfigs : String → Option InfraMachine)
    (machineConfigs : String → Option KubeadmConfig) (kcp : KubeadmControlPlaneSpec) (machine : OwnedMachine) :
    Messages :=
  let machineVersion := machine.version.getD ""
  let outdated := if machine.version = some kcp.version then none
    else some ("Machine version " ++ quote machineVersion ++ " is not equal to KCP version " ++ quote kcp.version)
  (Messages.ofOption outdated ("Version " ++ machineVersion ++ ", " ++ kcp.version ++ " required")).append
    ((Messages.ofOption (matchesKubeadmBootstrapConfig reports machineConfigs kcp machine)
        "KubeadmConfig is not up-to-date").append
      (Messages.ofOption (matchesTemplateClonedFrom infraConfigs kcp machine)
        (machine.infrastructureRef.kind ++ " is not up-to-date")))

/-- A day in nanoseconds. -/
def day : Int := 24 * 60 * 60 * 1000000000

def shouldRolloutBefore (reconciliationTime : Int) (rolloutBefore : Option RolloutBefore)
    (machine : OwnedMachine) : Bool :=
  match rolloutBefore.bind RolloutBefore.certificatesExpiryDays, machine.certificatesExpiryDate with
  | some days, some expiry => reconciliationTime + days * day > expiry
  | _, _ => false

def shouldRolloutAfter (reconciliationTime : Int) (rolloutAfter : Option Int) (machine : OwnedMachine) : Bool :=
  rolloutAfter.any fun deadline => machine.creationTimestamp < deadline && deadline < reconciliationTime

/-- Why the Machine is not up to date; it is up to date if there is no message. -/
def upToDateMessages (reports : Reports) (machine : OwnedMachine) (kcp : KubeadmControlPlaneSpec)
    (reconciliationTime : Int) (infraConfigs : String → Option InfraMachine)
    (machineConfigs : String → Option KubeadmConfig) : Messages :=
  let expiring := if shouldRolloutBefore reconciliationTime kcp.rolloutBefore machine then
    some "certificates will expire soon, rolloutBefore expired" else none
  let scheduled := if shouldRolloutAfter reconciliationTime kcp.rolloutAfter machine then
    some "rolloutAfter expired" else none
  (Messages.ofOption expiring "Certificates will expire soon").append
    ((Messages.ofOption scheduled "KubeadmControlPlane spec.rolloutAfter expired").append
      (matchesMachineSpec reports infraConfigs machineConfigs kcp machine))

def upToDate (reports : Reports) (machine : OwnedMachine) (kcp : KubeadmControlPlaneSpec) (reconciliationTime : Int)
    (infraConfigs : String → Option InfraMachine) (machineConfigs : String → Option KubeadmConfig) : Bool :=
  upToDateMessages reports machine kcp reconciliationTime infraConfigs machineConfigs = {}

/-! ## What the comparison establishes -/

/-- The configurations of a control plane and a Machine have no relevant difference. -/
def SameInit (kcp machine : InitConfiguration) : Prop :=
  { machine.default with typeMeta := kcp.typeMeta } = kcp.default

def SameJoin (kcp machine : JoinConfiguration) : Prop :=
  { machine.default with
    typeMeta := kcp.typeMeta, discovery := {}
    controlPlane := if kcp.controlPlane.isNone then none else machine.controlPlane } =
    kcp.default.withoutDiscovery

/-- The spec of a Machine matches that of the control plane.  A missing
configuration of the Machine matches any, a missing JoinConfiguration of the
control plane too, but a missing InitConfiguration only a missing one. -/
structure Agrees (kcp machine : KubeadmConfigSpec) : Prop where
  others : machine.default.others = kcp.default.others
  init : ∀ found, machine.initConfiguration = some found →
    ∃ init, kcp.initConfiguration = some init ∧ SameInit init found
  join : ∀ found join, machine.joinConfiguration = some found → kcp.joinConfiguration = some join →
    SameJoin join found

theorem spec_eq_iff {first second : KubeadmConfigSpec} :
    first = second ↔ first.others = second.others ∧
      first.clusterConfiguration = second.clusterConfiguration ∧
      first.initConfiguration = second.initConfiguration ∧ first.joinConfiguration = second.joinConfiguration := by
  constructor
  · rintro rfl
    exact ⟨rfl, rfl, rfl, rfl⟩
  · rintro ⟨_, _, _, _⟩
    cases first
    cases second
    simp_all [KubeadmConfigSpec.others]

theorem diff_eq_true {α : Type} [DecidableEq α] {report : α → α → String} {first second : α} :
    (diff report first second).1 = true ↔ first = second := by
  unfold diff
  split
  · simpa
  · simpa

/-- The InitConfiguration of the Machine as it is compared with the given one. -/
def alignInit (kcp machine : Option InitConfiguration) : Option InitConfiguration :=
  match kcp with
  | none => machine
  | some init => machine.map fun found => { found with typeMeta := init.typeMeta }

def alignJoin (kcp machine : Option JoinConfiguration) : Option JoinConfiguration :=
  match kcp with
  | none => none
  | some join => machine.map fun found =>
    { found with
      typeMeta := join.typeMeta, discovery := {}
      controlPlane := if join.controlPlane.isNone then none else found.controlPlane
      nodeRegistration := if join.nodeRegistration = {} then {} else found.nodeRegistration }

theorem cleanupConfigFields_eq (kcpConfig machineSpec : KubeadmConfigSpec) :
    cleanupConfigFields kcpConfig machineSpec = (kcpConfig.compared,
      { machineSpec with
        clusterConfiguration := none
        initConfiguration := alignInit kcpConfig.initConfiguration machineSpec.initConfiguration
        joinConfiguration := alignJoin kcpConfig.joinConfiguration machineSpec.joinConfiguration }) := by
  refine Prod.ext rfl ?_
  unfold cleanupConfigFields alignInit alignJoin
  cases kcpConfig.joinConfiguration with
  | none => cases kcpConfig.initConfiguration <;> rfl
  | some =>
    simp only [JoinConfiguration.withoutDiscovery, Option.map_some, Option.isNone_some, Bool.false_eq_true, if_false]
    cases kcpConfig.initConfiguration <;> cases machineSpec.joinConfiguration <;> split_ifs <;> rfl

theorem alignInit_eq_iff (kcp machine : Option InitConfiguration) :
    alignInit ((if machine.isNone then none else kcp).map InitConfiguration.default)
        (machine.map InitConfiguration.default) =
      (if machine.isNone then none else kcp).map InitConfiguration.default ↔
    ∀ found, machine = some found → ∃ init, kcp = some init ∧ SameInit init found := by
  cases machine with
  | none => simp [alignInit]
  | some =>
    cases kcp with
    | none => simp [alignInit]
    | some => simp [alignInit, SameInit, InitConfiguration.default]

theorem alignJoin_eq_iff (kcp machine : Option JoinConfiguration) :
    alignJoin ((if machine.isNone then none else kcp).map JoinConfiguration.default)
        (machine.map JoinConfiguration.default) =
      ((if machine.isNone then none else kcp).map JoinConfiguration.default).map
        JoinConfiguration.withoutDiscovery ↔
    ∀ found join, machine = some found → kcp = some join → SameJoin join found := by
  cases machine with
  | none => simp [alignJoin]
  | some found =>
    cases kcp with
    | none => simp [alignJoin]
    | some join =>
      have registered : join.default.nodeRegistration ≠ {} := join.nodeRegistration.default_ne_empty
      simp only [alignJoin, Option.isNone_some, Bool.false_eq_true, if_false, Option.map_some,
        Option.some.injEq, registered]
      constructor
      · rintro same _ _ rfl rfl
        exact same
      · intro same
        exact same found join rfl rfl

theorem matchInitOrJoinConfiguration_iff (reports : Reports) (kcp : KubeadmControlPlaneSpec)
    (machineSpec : KubeadmConfigSpec) :
    (matchInitOrJoinConfiguration reports kcp machineSpec).1 = true ↔
      Agrees kcp.kubeadmConfigSpec machineSpec := by
  have adjusted : getAdjustedKcpConfig kcp machineSpec =
      { kcp.kubeadmConfigSpec with
        initConfiguration := if machineSpec.initConfiguration.isNone then none
          else kcp.kubeadmConfigSpec.initConfiguration
        joinConfiguration := if machineSpec.joinConfiguration.isNone then none
          else kcp.kubeadmConfigSpec.joinConfiguration } := by
    unfold getAdjustedKcpConfig
    split_ifs <;> rfl
  rw [matchInitOrJoinConfiguration, diff_eq_true, cleanupConfigFields_eq, spec_eq_iff, adjusted]
  constructor
  · rintro ⟨others, -, init, join⟩
    exact ⟨others, (alignInit_eq_iff _ _).mp init, (alignJoin_eq_iff _ _).mp join⟩
  · rintro ⟨others, init, join⟩
    exact ⟨others, rfl, (alignInit_eq_iff _ _).mpr init, (alignJoin_eq_iff _ _).mpr join⟩

/-! ## The life of a KubeadmConfig -/

/-- One pass of the bootstrap controller over the KubeadmConfig of a Machine,
with what it reads of the Machine and which of its patches reach the API server. -/
structure BootstrapPass where
  cluster : Cluster
  dataSecretName : Option String := none
  hasNodeRefs : Bool := false
  answers : Answers := {}
  specPatched : Bool := true
  statusPatched : Bool := true

namespace BootstrapPass

def owner (pass : BootstrapPass) (machine : OwnedMachine) : ConfigOwner :=
  { controlPlaneLabel := machine.controlPlaneLabel, version := machine.version
    dataSecretName := pass.dataSecretName, hasNodeRefs := pass.hasNodeRefs }

/-- The KubeadmConfig as it is stored after the pass. -/
def apply (pass : BootstrapPass) (machine : OwnedMachine) (config : KubeadmConfig) : KubeadmConfig :=
  let result := Pass.final (reconcile pass.cluster (pass.owner machine) pass.answers) config
  { config with
    spec := if pass.specPatched then result.spec else config.spec
    status := if pass.statusPatched then result.status else config.status }

/-- The pass creates and stores an InitConfiguration. -/
def createsInit (pass : BootstrapPass) (state : ProvisionedMachine) : Bool :=
  pass.specPatched && initializes pass.cluster (pass.owner state.machine) pass.answers state.kubeadmConfig &&
    state.kubeadmConfig.spec.initConfiguration.isNone

/-- The pass creates and stores a JoinConfiguration. -/
def createsJoin (pass : BootstrapPass) (state : ProvisionedMachine) : Bool :=
  pass.specPatched && joins pass.cluster (pass.owner state.machine) pass.answers state.kubeadmConfig &&
    state.kubeadmConfig.spec.joinConfiguration.isNone

end BootstrapPass

namespace UpToDate

/-- What happens to a Machine while its control plane does not change. -/
inductive Action
  | default
  | reconcile (pass : BootstrapPass)
  | updateMachine (answers : CreationAnswers)

def step (kcp : KubeadmControlPlaneSpec) (state : ProvisionedMachine) : Action → Option ProvisionedMachine
  | .default => some { state with
      kubeadmConfig := { state.kubeadmConfig with spec := state.kubeadmConfig.spec.default } }
  | .reconcile pass => some { state with kubeadmConfig := pass.apply state.machine state.kubeadmConfig }
  | .updateMachine answers => (updateMachine kcp answers state.machine).toOption.map fun machine =>
    { state with machine }

/-- The configuration sets nothing: it defaults to the same as an empty one. -/
def EmptyInit (init : InitConfiguration) : Prop :=
  init.default = { ({} : InitConfiguration).default with typeMeta := init.typeMeta }

def EmptyJoin (join : JoinConfiguration) : Prop :=
  join.default.withoutDiscovery =
      { ({} : JoinConfiguration).default with typeMeta := join.typeMeta, controlPlane := join.controlPlane } ∧
    ∀ controlPlane, join.controlPlane = some controlPlane → controlPlane = {}

/-- The comparison can undo what the action does: an InitConfiguration is only
created for a control plane that has an empty one, and a JoinConfiguration for
one that has none or an empty one. -/
def Undone (kcp : KubeadmControlPlaneSpec) (state : ProvisionedMachine) : Action → Prop
  | .reconcile pass =>
    (pass.createsInit state = true →
      ∃ init, kcp.kubeadmConfigSpec.initConfiguration = some init ∧ EmptyInit init) ∧
    (pass.createsJoin state = true →
      ∀ join, kcp.kubeadmConfigSpec.joinConfiguration = some join → EmptyJoin join)
  | _ => True

/-! ## What the steps keep -/

/-- What a Machine has from its creation on. -/
structure Owned (kcp : KubeadmControlPlaneSpec) (state : ProvisionedMachine) : Prop where
  controlPlane : state.machine.controlPlaneLabel = true
  version : state.machine.version = some kcp.version
  clusterConfiguration :
    state.machine.clusterConfiguration = some (.encoded kcp.kubeadmConfigSpec.clusterConfiguration)
  configRef : state.machine.configRef.isSome = true
  clonedFromName : state.infraMachine.clonedFromName = some kcp.infrastructureRef.name
  clonedFromGroupKind : state.infraMachine.clonedFromGroupKind = some kcp.infrastructureRef.groupKind
  /-- A JoinConfiguration without a control plane section is the one of the control plane. -/
  joinControlPlane : ∀ found, state.kubeadmConfig.spec.joinConfiguration = some found → found.controlPlane = none →
    ∃ join, kcp.kubeadmConfigSpec.joinConfiguration = some join ∧ join.controlPlane = none

section Steps

variable {kcp : KubeadmControlPlaneSpec} {spec machineSpec : KubeadmConfigSpec}
  {join found : JoinConfiguration} {init : InitConfiguration}

theorem sameInit_default {found : InitConfiguration} : SameInit init found.default ↔ SameInit init found := by
  rw [SameInit, SameInit, InitConfiguration.default_default]

theorem sameJoin_default : SameJoin join found.default ↔ SameJoin join found := by
  simp only [SameJoin, JoinConfiguration.default, NodeRegistrationOptions.default_default]

theorem agrees_compared {spec machineSpec : KubeadmConfigSpec} :
    Agrees spec machineSpec.compared ↔ Agrees spec machineSpec := by
  constructor
  · intro agrees
    refine ⟨agrees.others, agrees.init, fun found join present other => ?_⟩
    exact agrees.join found.withoutDiscovery join (by simp [KubeadmConfigSpec.compared, present]) other
  · intro agrees
    refine ⟨agrees.others, agrees.init, fun found join present other => ?_⟩
    rcases Option.map_eq_some_iff.mp present with ⟨original, originalPresent, rfl⟩
    exact agrees.join original join originalPresent other

theorem agrees_default : Agrees spec machineSpec.default ↔ Agrees spec machineSpec := by
  have others : machineSpec.default.default.others = machineSpec.default.others := by
    by_cases unset : machineSpec.format = ""
    · simp [KubeadmConfigSpec.default, KubeadmConfigSpec.others, unset]
    · simp [KubeadmConfigSpec.default, KubeadmConfigSpec.others, unset]
  constructor
  · intro agrees
    refine ⟨others.symm.trans agrees.others, fun found present => ?_, fun found join present other => ?_⟩
    · rcases agrees.init found.default (by simp [KubeadmConfigSpec.default, present]) with ⟨init, other, same⟩
      exact ⟨init, other, sameInit_default.mp same⟩
    · exact sameJoin_default.mp (agrees.join found.default join (by simp [KubeadmConfigSpec.default, present]) other)
  · intro agrees
    refine ⟨others.trans agrees.others, fun found present => ?_, fun found join present other => ?_⟩
    · rcases Option.map_eq_some_iff.mp present with ⟨original, originalPresent, rfl⟩
      rcases agrees.init original originalPresent with ⟨init, other, same⟩
      exact ⟨init, other, sameInit_default.mpr same⟩
    · rcases Option.map_eq_some_iff.mp present with ⟨original, originalPresent, rfl⟩
      exact sameJoin_default.mpr (agrees.join original join originalPresent other)

theorem sameInit_empty : SameInit init emptyInitConfiguration ↔ EmptyInit init :=
  eq_comm

theorem sameJoin_completed (shape : found.controlPlane = none → join.controlPlane = none) :
    SameJoin join found.completed ↔ SameJoin join found := by
  cases joinControlPlane : join.controlPlane with
  | none => simp only [SameJoin, joinControlPlane]; rfl
  | some =>
    cases foundControlPlane : found.controlPlane with
    | none => simp [shape foundControlPlane] at joinControlPlane
    | some =>
      simp only [SameJoin, joinControlPlane, JoinConfiguration.completed, foundControlPlane]
      rfl

theorem sameJoin_empty : SameJoin join (JoinConfiguration.completed {}) ↔ EmptyJoin join := by
  cases joinSection : join.controlPlane with
  | none =>
    simp only [SameJoin, EmptyJoin, joinSection, Option.isNone_none, if_true]
    exact ⟨fun same => ⟨same.symm, nofun⟩, fun empty => empty.1.symm⟩
  | some controlPlane =>
    simp only [SameJoin, EmptyJoin, joinSection, Option.isNone_some, Bool.false_eq_true, if_false,
      Option.some.injEq, forall_eq']
    constructor
    · intro same
      have cleared : controlPlane = {} := by
        have parts := congrArg JoinConfiguration.controlPlane same
        simpa [JoinConfiguration.completed, JoinConfiguration.default, JoinConfiguration.withoutDiscovery,
          joinSection, eq_comm] using parts
      exact ⟨by rw [cleared]; exact same.symm, cleared⟩
    · rintro ⟨same, rfl⟩
      exact same.symm

theorem compared_apply (pass : BootstrapPass) {machine : OwnedMachine} (config : KubeadmConfig)
    (controlPlane : machine.controlPlaneLabel = true) :
    (pass.apply machine config).spec.compared =
      if pass.specPatched && initializes pass.cluster (pass.owner machine) pass.answers config then
        { config.spec.compared with
          initConfiguration := some (config.spec.initConfiguration.getD emptyInitConfiguration) }
      else if pass.specPatched && joins pass.cluster (pass.owner machine) pass.answers config then
        { config.spec.compared with
          joinConfiguration := some (config.spec.joinConfiguration.getD {}).completed }
      else config.spec.compared := by
  have marked : (pass.owner machine).isControlPlaneMachine = true := by
    simp [BootstrapPass.owner, ConfigOwner.isControlPlaneMachine, controlPlane]
  have effect := compared_reconcile pass.cluster pass.answers config marked
  cases patched : pass.specPatched with
  | false => simp [BootstrapPass.apply, patched]
  | true => simpa [BootstrapPass.apply, patched] using effect

theorem agrees_init :
    Agrees spec { machineSpec.compared with
        initConfiguration := some (machineSpec.initConfiguration.getD emptyInitConfiguration) } ↔
      Agrees spec machineSpec ∧ (machineSpec.initConfiguration = none →
        ∃ init, spec.initConfiguration = some init ∧ EmptyInit init) := by
  rw [← @agrees_compared spec machineSpec]
  constructor
  · intro agrees
    refine ⟨⟨agrees.others, fun found present => ?_, agrees.join⟩, fun missing => ?_⟩
    · exact agrees.init found (congrArg (fun init => some (Option.getD init emptyInitConfiguration)) present)
    · rcases agrees.init emptyInitConfiguration (by simp [missing]) with ⟨init, other, same⟩
      exact ⟨init, other, sameInit_empty.mp same⟩
  · rintro ⟨agrees, created⟩
    refine ⟨agrees.others, fun found present => ?_, agrees.join⟩
    cases original : machineSpec.initConfiguration with
    | none =>
      rcases created original with ⟨init, other, empty⟩
      rw [original] at present
      cases present
      exact ⟨init, other, sameInit_empty.mpr empty⟩
    | some init =>
      rw [original] at present
      cases present
      exact agrees.init init original

theorem agrees_join
    (shape : ∀ found join, machineSpec.joinConfiguration = some found → spec.joinConfiguration = some join →
      found.controlPlane = none → join.controlPlane = none) :
    Agrees spec { machineSpec.compared with
        joinConfiguration := some (machineSpec.joinConfiguration.getD {}).completed } ↔
      Agrees spec machineSpec ∧ (machineSpec.joinConfiguration = none →
        ∀ join, spec.joinConfiguration = some join → EmptyJoin join) := by
  constructor
  · intro agrees
    refine ⟨⟨agrees.others, agrees.init, fun found join present other => ?_⟩, fun missing join other => ?_⟩
    · have same := agrees.join found.completed join (by simp [present]) other
      exact (sameJoin_completed (shape found join present other)).mp same
    · exact sameJoin_empty.mp (agrees.join (JoinConfiguration.completed {}) join (by simp [missing]) other)
  · rintro ⟨agrees, created⟩
    refine ⟨agrees.others, agrees.init, fun found join present other => ?_⟩
    cases present
    cases original : machineSpec.joinConfiguration with
    | none => exact sameJoin_empty.mpr (created original join other)
    | some found =>
      exact (sameJoin_completed (shape found join original other)).mpr (agrees.join found join original other)

variable {state next : ProvisionedMachine} {action : Action}

variable (owned : Owned kcp state)
include owned

theorem Owned.shape : ∀ found join,
    state.kubeadmConfig.spec.joinConfiguration = some found → kcp.kubeadmConfigSpec.joinConfiguration = some join →
      found.controlPlane = none → join.controlPlane = none := by
  intro found _ present other missing
  rcases owned.joinControlPlane found present missing with ⟨original, originalPresent, without⟩
  cases other.symm.trans originalPresent
  exact without

/-- A step changes the Machine at most in the domain and the remediation it
records, and the infrastructure not at all. -/
theorem owned_step (taken : step kcp state action = some next) : Owned kcp next := by
  cases action with
  | default =>
    cases taken
    refine { owned with joinControlPlane := fun found present missing => ?_ }
    rcases Option.map_eq_some_iff.mp present with ⟨original, originalPresent, rfl⟩
    exact owned.joinControlPlane original originalPresent missing
  | reconcile pass =>
    cases taken
    refine { owned with joinControlPlane := fun found present missing => ?_ }
    have stored : (pass.apply state.machine state.kubeadmConfig).spec.compared.joinConfiguration =
        some found.withoutDiscovery := by
      rw [KubeadmConfigSpec.compared, present, Option.map_some]
    have untouched : state.kubeadmConfig.spec.compared.joinConfiguration = some found.withoutDiscovery →
        ∃ join, kcp.kubeadmConfigSpec.joinConfiguration = some join ∧ join.controlPlane = none := by
      intro before
      rcases Option.map_eq_some_iff.mp before with ⟨original, originalPresent, same⟩
      have without : original.controlPlane = none := (congrArg JoinConfiguration.controlPlane same).trans missing
      exact owned.joinControlPlane original originalPresent without
    rw [compared_apply pass state.kubeadmConfig owned.controlPlane] at stored
    split at stored
    · exact untouched stored
    · split at stored
      · have completed := congrArg JoinConfiguration.controlPlane (Option.some.inj stored)
        exact absurd (completed.trans missing) (Option.some_ne_none _)
      · exact untouched stored
  | updateMachine =>
    cases taken
    refine { owned with controlPlane := rfl, clusterConfiguration := ?_ }
    rw [owned.clusterConfiguration]
    rfl

theorem agrees_step (taken : step kcp state action = some next) :
    Agrees kcp.kubeadmConfigSpec next.kubeadmConfig.spec ↔
      Agrees kcp.kubeadmConfigSpec state.kubeadmConfig.spec ∧ Undone kcp state action := by
  cases action with
  | default =>
    cases taken
    exact agrees_default.trans (and_iff_left trivial).symm
  | updateMachine =>
    cases taken
    exact (and_iff_left trivial).symm
  | reconcile pass =>
    cases taken
    rw [← agrees_compared, compared_apply pass state.kubeadmConfig owned.controlPlane]
    simp only [Undone, BootstrapPass.createsInit, BootstrapPass.createsJoin]
    split
    case isTrue initializing =>
      have notJoining : joins pass.cluster (pass.owner state.machine) pass.answers state.kubeadmConfig = false := by
        have parts := (Bool.and_eq_true_iff.mp initializing).2
        simp only [initializes, Bool.and_eq_true, Bool.not_eq_true'] at parts
        simp [joins, parts]
      rw [agrees_init]
      simp [initializing, notJoining]
    case isFalse notInitializing =>
      split
      case isTrue joining =>
        rw [agrees_join owned.shape]
        simp [notInitializing, joining]
      case isFalse notJoining =>
        rw [agrees_compared]
        simp [notInitializing, notJoining]

end Steps

/-! ## A new Machine -/

section Created

variable {kcp : KubeadmControlPlaneSpec} {answers : CreationAnswers} {bootstrapSpec : KubeadmConfigSpec}
variable {start : ProvisionedMachine}

theorem sameInit_self (init : InitConfiguration) : SameInit init init := rfl

theorem sameJoin_self (join : JoinConfiguration) : SameJoin join join := by
  unfold SameJoin
  cases other : join.controlPlane with
  | none | some => simp [JoinConfiguration.default, JoinConfiguration.withoutDiscovery, other]

variable (created : createFromConfig kcp answers bootstrapSpec = .ok start)
include created

theorem createFromConfig_spec (join : bootstrapSpec.joinConfiguration = none ∨
      bootstrapSpec.joinConfiguration = kcp.kubeadmConfigSpec.joinConfiguration) :
    Owned kcp start ∧ start.kubeadmConfig.spec.others = bootstrapSpec.others ∧
      start.kubeadmConfig.spec.initConfiguration = bootstrapSpec.initConfiguration ∧
      start.kubeadmConfig.spec.joinConfiguration = bootstrapSpec.joinConfiguration := by
  rcases createFromConfig_eq_ok created with ⟨version, _, _, _, _, rfl⟩
  have same : (defaultFeatureGates bootstrapSpec version).others = bootstrapSpec.others ∧
      (defaultFeatureGates bootstrapSpec version).initConfiguration = bootstrapSpec.initConfiguration ∧
      (defaultFeatureGates bootstrapSpec version).joinConfiguration = bootstrapSpec.joinConfiguration := by
    unfold defaultFeatureGates
    split
    · exact ⟨rfl, rfl, rfl⟩
    · exact ⟨rfl, rfl, rfl⟩
  refine ⟨⟨rfl, rfl, rfl, rfl, rfl, rfl, fun found present missing => ?_⟩, same⟩
  have present : bootstrapSpec.joinConfiguration = some found := same.2.2.symm.trans present
  rcases join with none | sameJoin
  · cases none.symm.trans present
  · exact ⟨found, sameJoin.symm.trans present, missing⟩

theorem createFromConfig_agrees (others : bootstrapSpec.others = kcp.kubeadmConfigSpec.others)
    (init : bootstrapSpec.initConfiguration = none ∨
      bootstrapSpec.initConfiguration = kcp.kubeadmConfigSpec.initConfiguration)
    (join : bootstrapSpec.joinConfiguration = none ∨
      bootstrapSpec.joinConfiguration = kcp.kubeadmConfigSpec.joinConfiguration) :
    Owned kcp start ∧ Agrees kcp.kubeadmConfigSpec start.kubeadmConfig.spec := by
  rcases createFromConfig_spec created join with ⟨owned, sameOthers, sameInit, sameJoin⟩
  rw [← sameInit] at init
  rw [← sameJoin] at join
  refine ⟨owned, congrArg (fun spec => spec.default.others) (sameOthers.trans others), ?_, ?_⟩
  · intro found present
    rcases init with missing | same
    · cases missing.symm.trans present
    · exact ⟨found, same.symm.trans present, sameInit_self found⟩
  · intro found _ present otherPresent
    rcases join with missing | same
    · cases missing.symm.trans present
    · cases (same.symm.trans present).symm.trans otherPresent
      exact sameJoin_self found

end Created

/-! ## The verdict -/

section Verdict

variable {kcp : KubeadmControlPlaneSpec} {state : ProvisionedMachine} {reports : Reports}
variable {infraConfigs : String → Option InfraMachine} {machineConfigs : String → Option KubeadmConfig}

theorem messages_append_eq_empty {first second : Messages} : first.append second = {} ↔ first = {} ∧ second = {} := by
  cases first
  cases second
  simp only [Messages.append, Messages.mk.injEq, List.append_eq_nil_iff]
  tauto

theorem messages_ofOption_eq_empty {reason : Option String} {condition : String} :
    Messages.ofOption reason condition = {} ↔ reason = none := by
  cases reason with
  | none | some => simp [Messages.ofOption]

theorem matchClusterConfiguration_owned (owned : Owned kcp state) :
    matchClusterConfiguration reports kcp state.machine = (true, "") := by
  rw [matchClusterConfiguration, owned.clusterConfiguration]
  exact if_pos rfl

theorem matchesTemplateClonedFrom_owned (owned : Owned kcp state)
    (fetched : ∀ infra, infraConfigs state.machine.name = some infra → infra = state.infraMachine) :
    matchesTemplateClonedFrom infraConfigs kcp state.machine = none := by
  unfold matchesTemplateClonedFrom
  cases found : infraConfigs state.machine.name with
  | none => rfl
  | some infra =>
    simp [fetched infra found, owned.clonedFromName, owned.clonedFromGroupKind]

theorem matchesKubeadmBootstrapConfig_owned (owned : Owned kcp state)
    (fetched : machineConfigs state.machine.name = some state.kubeadmConfig) :
    matchesKubeadmBootstrapConfig reports machineConfigs kcp state.machine = none ↔
      Agrees kcp.kubeadmConfigSpec state.kubeadmConfig.spec := by
  rcases Option.isSome_iff_exists.mp owned.configRef with ⟨_, configRef⟩
  rw [← matchInitOrJoinConfiguration_iff reports, matchesKubeadmBootstrapConfig,
    matchClusterConfiguration_owned owned, configRef, fetched]
  dsimp only
  split
  case h_1 text outcome => simp [outcome]
  case h_2 text outcome => simp [outcome]

theorem upToDate_owned (owned : Owned kcp state) (unscheduled : kcp.rolloutBefore = none ∧ kcp.rolloutAfter = none)
    (time : Int) (fetchedInfra : ∀ infra, infraConfigs state.machine.name = some infra → infra = state.infraMachine)
    (fetchedConfig : machineConfigs state.machine.name = some state.kubeadmConfig) :
    upToDate reports state.machine kcp time infraConfigs machineConfigs = true ↔
      Agrees kcp.kubeadmConfigSpec state.kubeadmConfig.spec := by
  have bootstrap := @matchesKubeadmBootstrapConfig_owned kcp state reports machineConfigs owned fetchedConfig
  rw [← bootstrap]
  simp only [upToDate, upToDateMessages, matchesMachineSpec, decide_eq_true_eq, messages_append_eq_empty,
    messages_ofOption_eq_empty, matchesTemplateClonedFrom_owned owned fetchedInfra, owned.version, unscheduled]
  simp [shouldRolloutBefore, shouldRolloutAfter]

end Verdict

/-- A Machine stays up to date exactly as long as the bootstrap controller
only writes what the comparison can undo.  The Machine may have been created
in either way, the infrastructure may or may not be found, and the bootstrap
controller may fail at any of its calls. -/
theorem run_upToDate_iff (reports : Reports) (kcp : KubeadmControlPlaneSpec)
    (unscheduled : kcp.rolloutBefore = none ∧ kcp.rolloutAfter = none) {answers : CreationAnswers}
    {start final : ProvisionedMachine}
    (created : initializeControlPlane kcp answers = .ok start ∨ scaleUpControlPlane kcp answers = .ok start)
    {schedule : List Action} (executed : execute (step kcp) start schedule = some final) (time : Int)
    (infraConfigs : String → Option InfraMachine) (machineConfigs : String → Option KubeadmConfig)
    (fetchedInfra : ∀ infra, infraConfigs final.machine.name = some infra → infra = final.infraMachine)
    (fetchedConfig : machineConfigs final.machine.name = some final.kubeadmConfig) :
    upToDate reports final.machine kcp time infraConfigs machineConfigs = true ↔
      Meets (step kcp) (Undone kcp) start schedule := by
  have ⟨owned, agrees⟩ : Owned kcp start ∧ Agrees kcp.kubeadmConfigSpec start.kubeadmConfig.spec := by
    rcases created with initialized | scaledUp
    · exact createFromConfig_agrees initialized rfl (.inr rfl) (.inl rfl)
    · exact createFromConfig_agrees (scaleUpControlPlane_eq_ok scaledUp) rfl (.inl rfl) (.inr rfl)
  have ownedFinal : Owned kcp final :=
    execute_invariant_of_step (fun _ _ _ kept taken => owned_step kept taken) owned executed
  rw [upToDate_owned ownedFinal unscheduled time fetchedInfra fetchedConfig,
    execute_exact (fun _ _ _ kept taken => owned_step kept taken)
      (fun _ _ _ kept taken => agrees_step kept taken) owned executed]
  exact and_iff_right agrees

/-! ## The first Machine of a control plane -/

def sampleControlPlane (init : Option InitConfiguration) : KubeadmControlPlaneSpec :=
  { version := "v1.31.0"
    kubeadmConfigSpec :=
      { initConfiguration := init, joinConfiguration := some { nodeRegistration := { name := "node" } } }
    infrastructureRef :=
      { apiVersion := "infrastructure.cluster.x-k8s.io/v1beta1", kind := "DockerMachineTemplate", name := "template" } }

def sampleAnswers : CreationAnswers :=
  { generateName := fun _ => .ok "control-plane-x7k2p", creationTimestamp := 0
    createFromTemplate := fun name => .ok { reference := { kind := "DockerMachine", name } } }

def sampleReports : Reports := ⟨fun _ _ => "clusterConfiguration", fun _ _ => "spec"⟩

def bootstrapFirst : BootstrapPass := { cluster := { name := "cluster" } }

def firstMachine (init : Option InitConfiguration) : ProvisionedMachine :=
  { machine :=
      { name := "control-plane-x7k2p", creationTimestamp := 0, version := some "v1.31.0", controlPlaneLabel := true
        clusterConfiguration := some (.encoded none), configRef := some (kubeadmConfigRef "control-plane-x7k2p")
        infrastructureRef := { kind := "DockerMachine", name := "control-plane-x7k2p" } }
    infraMachine :=
      { reference := { kind := "DockerMachine", name := "control-plane-x7k2p" }, clonedFromName := some "template"
        clonedFromGroupKind := some "DockerMachineTemplate.infrastructure.cluster.x-k8s.io" }
    kubeadmConfig :=
      { name := "control-plane-x7k2p"
        spec := defaultFeatureGates (initialControlPlaneConfig (sampleControlPlane init)) (Version.release 1 31 0) } }

def bootstrapped (init : Option InitConfiguration) : ProvisionedMachine :=
  let machine := (firstMachine init).machine
  let config := (firstMachine init).kubeadmConfig
  { firstMachine init with kubeadmConfig := bootstrapFirst.apply machine { config with spec := config.spec.default } }

/-- With an InitConfiguration the first Machine is up to date after its bootstrap. -/
theorem presentInit_upToDate :
    upToDate sampleReports (bootstrapped (some {})).machine (sampleControlPlane (some {})) 0
      (fun _ => some (bootstrapped (some {})).infraMachine)
        (fun _ => some (bootstrapped (some {})).kubeadmConfig) = true := by
  have created : initializeControlPlane (sampleControlPlane (some {})) sampleAnswers = .ok (firstMachine (some {})) := by
    decide +kernel
  have executed : execute (step (sampleControlPlane (some {}))) (firstMachine (some {}))
      [.default, .reconcile bootstrapFirst] = some (bootstrapped (some {})) := rfl
  have nothingCreated : Undone (sampleControlPlane (some {}))
      { firstMachine (some {}) with
        kubeadmConfig := { (firstMachine (some {})).kubeadmConfig with
          spec := (firstMachine (some {})).kubeadmConfig.spec.default } } (.reconcile bootstrapFirst) :=
    ⟨fun creates => absurd creates (by decide +kernel), fun creates => absurd creates (by decide +kernel)⟩
  exact (run_upToDate_iff sampleReports _ ⟨rfl, rfl⟩ (.inl created) executed 0 _ _
    (fun infra found => (Option.some.inj found).symm) rfl).mpr ⟨trivial, nothingCreated, trivial⟩

/-- Without one, its bootstrap makes it outdated although nothing changed. -/
theorem missingInit_rolledOut :
    initializeControlPlane (sampleControlPlane none) sampleAnswers = .ok (firstMachine none) ∧
      execute (step (sampleControlPlane none)) (firstMachine none)
        [.default, .reconcile bootstrapFirst] = some (bootstrapped none) ∧
      upToDate sampleReports (bootstrapped none).machine (sampleControlPlane none) 0
        (fun _ => some (bootstrapped none).infraMachine) (fun _ => some (bootstrapped none).kubeadmConfig) = false :=
  ⟨by decide +kernel, rfl, by decide +kernel⟩

end UpToDate

end ClusterApi.ControlPlane

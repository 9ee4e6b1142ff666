import ClusterApi.Foundation.Upsert
import ClusterApi.MachineSet.Scaling

namespace ClusterApi.MachineSet.Scaling

open Foundation List Nat

/-!
# The external objects of a scale up

For every Machine that `syncReplicas` creates, it first clones a bootstrap
configuration and an infrastructure machine, and names the Machine's references
after them.  If the Machine cannot be created, the two clones are deleted.  If
the infrastructure machine cannot be cloned, the call returns and leaves the
bootstrap configuration behind, with no Machine to refer to it.
-/

/-- A Machine with the names of its external objects. -/
structure CreatedMachine where
  name : String
  bootstrapConfig : Option String
  infrastructureMachine : String

/-- The objects that a call has created and not deleted again. -/
structure Objects where
  bootstrapConfigs : List String := []
  infrastructureMachines : List String := []
  machines : List CreatedMachine := []

/-- The names given to infrastructure machines: that of the Machine, or one generated for them. -/
inductive InfraMachineNaming
  | machine
  | deprecated (generated : Nat → String)

def InfraMachineNaming.name (naming : InfraMachineNaming) (attempts : Nat → Attempt) (index : Nat) : String :=
  match naming with
  | .machine => (attempts index).name
  | .deprecated generated => generated index

namespace Objects

def cloneBootstrap (objects : Objects) (bootstrapRef : Option String) : Objects :=
  { objects with bootstrapConfigs := objects.bootstrapConfigs ++ bootstrapRef.toList }

def cloneInfrastructure (objects : Objects) (infraRef : String) : Objects :=
  { objects with infrastructureMachines := objects.infrastructureMachines ++ [infraRef] }

/-- Both clones for a Machine. -/
def clone (objects : Objects) (machine : CreatedMachine) : Objects :=
  (objects.cloneBootstrap machine.bootstrapConfig).cloneInfrastructure machine.infrastructureMachine

/-- A Machine is applied: one of the same name would be changed. -/
def patchMachine (objects : Objects) (machine : CreatedMachine) : Objects :=
  { objects with
    machines := upsert (fun existing => existing.name = machine.name) (fun _ => machine) objects.machines }

/-- The clones for a Machine that could not be created are deleted. -/
def cleanUp (objects : Objects) (machine : CreatedMachine) : Objects :=
  { objects with
    bootstrapConfigs := objects.bootstrapConfigs.filter fun name => some name ≠ machine.bootstrapConfig
    infrastructureMachines := objects.infrastructureMachines.filter fun name => name ≠ machine.infrastructureMachine }

/-- Every external object is referenced by a Machine. -/
structure NoOrphans (objects : Objects) : Prop where
  bootstrap : ∀ name ∈ objects.bootstrapConfigs, ∃ machine ∈ objects.machines, machine.bootstrapConfig = some name
  infrastructure : ∀ name ∈ objects.infrastructureMachines,
    ∃ machine ∈ objects.machines, machine.infrastructureMachine = name

end Objects

section

variable (machineSet : MachineSetSpec) (naming : InfraMachineNaming) (attempts : Nat → Attempt)

/-- The Machine of an attempt.  Its bootstrap configuration, if the template has one, is named after it. -/
def attemptedMachine (index : Nat) : CreatedMachine where
  name := (attempts index).name
  bootstrapConfig := machineSet.bootstrapConfigRef.map fun _ => (attempts index).name
  infrastructureMachine := naming.name attempts index

/-- The objects of the creation loop. -/
def createObjects : Nat → Nat → Objects → Objects
  | _, 0, objects => objects
  | index, remaining + 1, objects =>
    let attempt := attempts index
    let machine := attemptedMachine machineSet naming attempts index
    match machineSet.bootstrapConfigRef, attempt.cloneBootstrap with
    | some _, .error _ => objects
    | _, _ =>
      let objects := objects.cloneBootstrap machine.bootstrapConfig
      match attempt.cloneInfrastructure with
      | .error _ => objects
      | .ok () =>
        let objects := objects.cloneInfrastructure machine.infrastructureMachine
        match attempt.createMachine with
        | .error _ => createObjects (index + 1) remaining (objects.cleanUp machine)
        | .ok () => createObjects (index + 1) remaining (objects.patchMachine machine)

/-- How many Machines the creation loop is run for. -/
def machinesToCreate (preflightChecks : Except String (Option String))
    (machines : Option (List SelectedMachine)) : Nat :=
  match machines, machineSet.replicas with
  | some machines, some replicas =>
    if machineSet.disableMachineCreate then 0
    else
      match preflightChecks with
      | .ok none => (replicas.toInt - machines.length).toNat
      | _ => 0
  | _, _ => 0

/-- The objects of a call of `syncReplicas`. -/
def syncReplicasObjects (preflightChecks : Except String (Option String))
    (machines : Option (List SelectedMachine)) : Objects :=
  createObjects machineSet naming attempts 0 (machinesToCreate machineSet preflightChecks machines) {}

/-- After a bootstrap configuration has been cloned, its infrastructure machine is cloned too. -/
def InfrastructureFollows (index : Nat) : Prop :=
  machineSet.bootstrapConfigRef ≠ none → (attempts index).cloneBootstrap = .ok () →
    (attempts index).cloneInfrastructure = .ok ()

/-- In every turn that is reached, the infrastructure machine is cloned if the bootstrap configuration is. -/
def ClonesInPairs (index remaining : Nat) : Prop :=
  ∀ offset < remaining, (∀ earlier < offset, (attempts (index + earlier)).clones machineSet) →
    InfrastructureFollows machineSet attempts (index + offset)

/-- The objects at the end of a turn in which both clones succeed. -/
def afterClones (index : Nat) (objects : Objects) : Objects :=
  let machine := attemptedMachine machineSet naming attempts index
  match (attempts index).createMachine with
  | .error _ => (objects.clone machine).cleanUp machine
  | .ok () => (objects.clone machine).patchMachine machine

end

section

variable {machineSet : MachineSetSpec} {naming : InfraMachineNaming} {attempts : Nat → Attempt}

variable {index remaining : Nat} {objects : Objects}

theorem clonesInPairs_succ :
    ClonesInPairs machineSet attempts index (remaining + 1) ↔
      InfrastructureFollows machineSet attempts index ∧
        ((attempts index).clones machineSet → ClonesInPairs machineSet attempts (index + 1) remaining) := by
  have shift : ∀ offset, index + 1 + offset = index + (offset + 1) := by
    omega
  constructor
  · intro pairs
    constructor
    · exact pairs 0 (succ_pos _) fun earlier below => absurd below (not_lt_zero _)
    · intro cloned offset below before
      rw [shift]
      apply pairs (offset + 1) (succ_lt_succ below)
      intro earlier reached
      cases earlier with
      | zero => exact cloned
      | succ earlier =>
        rw [← shift]
        exact before earlier (lt_of_succ_lt_succ reached)
  · rintro ⟨first, later⟩ offset below before
    cases offset with
    | zero => exact first
    | succ offset =>
      rw [← shift]
      apply later (before 0 (succ_pos _)) offset (lt_of_succ_lt_succ below)
      intro earlier reached
      rw [shift]
      exact before (earlier + 1) (succ_lt_succ reached)

theorem createObjects_succ (index remaining : Nat) (objects : Objects) :
    (attempts index).clones machineSet ∧
        createObjects machineSet naming attempts index (remaining + 1) objects =
          createObjects machineSet naming attempts (index + 1) remaining
            (afterClones machineSet naming attempts index objects) ∨
      machineSet.bootstrapConfigRef ≠ none ∧ (attempts index).cloneBootstrap ≠ .ok () ∧
        createObjects machineSet naming attempts index (remaining + 1) objects = objects ∨
      (machineSet.bootstrapConfigRef ≠ none → (attempts index).cloneBootstrap = .ok ()) ∧
        (attempts index).cloneInfrastructure ≠ .ok () ∧
        createObjects machineSet naming attempts index (remaining + 1) objects =
          objects.cloneBootstrap (attemptedMachine machineSet naming attempts index).bootstrapConfig := by
  rw [createObjects]
  split
  case h_1 configRef error present failed =>
    refine .inr (.inl ⟨?_, ?_, rfl⟩)
    · rw [present]
      exact Option.some_ne_none configRef
    · rw [failed]
      exact nofun
  case h_2 succeeds =>
    have cloned : machineSet.bootstrapConfigRef ≠ none → (attempts index).cloneBootstrap = .ok () := by
      intro present
      rcases Option.ne_none_iff_exists'.mp present with ⟨configRef, isSome⟩
      cases answer : (attempts index).cloneBootstrap with
      | ok => rfl
      | error error => exact absurd answer (succeeds configRef error isSome)
    split
    case h_1 error failed =>
      refine .inr (.inr ⟨cloned, ?_, rfl⟩)
      rw [failed]
      exact nofun
    case h_2 infrastructure =>
      refine .inl ⟨⟨cloned, infrastructure⟩, ?_⟩
      unfold afterClones
      cases (attempts index).createMachine with
      | error | ok => rfl

/-- Between two turns nothing is orphaned, and the Machines created so far do not have the names of the next ones. -/
structure BetweenTurns (attempts : Nat → Attempt) (index remaining : Nat) (objects : Objects) : Prop where
  noOrphans : objects.NoOrphans
  named : ∀ machine ∈ objects.machines, ∀ name, machine.bootstrapConfig = some name → name = machine.name
  fresh : ∀ machine ∈ objects.machines, ∀ offset < remaining, machine.name ≠ (attempts (index + offset)).name

theorem upsert_of_fresh {machines : List CreatedMachine} {new : CreatedMachine}
    (fresh : ∀ machine ∈ machines, machine.name ≠ new.name) :
    upsert (fun existing => existing.name = new.name) (fun _ => new) machines = machines ++ [new] := by
  induction machines with
  | nil => rfl
  | cons _ _ ih =>
    rcases forall_mem_cons.mp fresh with ⟨different, restFresh⟩
    rw [upsert, if_neg (by simpa using different), ih restFresh, cons_append]

theorem Objects.NoOrphans.cleanUp (noOrphans : objects.NoOrphans) (machine : CreatedMachine) :
    ((objects.clone machine).cleanUp machine).NoOrphans := by
  constructor
  · intro name inside
    rcases mem_filter.mp inside with ⟨cloned, kept⟩
    rcases mem_append.mp cloned with earlier | new
    · exact noOrphans.bootstrap name earlier
    · exact absurd (Option.mem_toList.mp new).symm (of_decide_eq_true kept)
  · intro name inside
    rcases mem_filter.mp inside with ⟨cloned, kept⟩
    rcases mem_append.mp cloned with earlier | new
    · exact noOrphans.infrastructure name earlier
    · exact absurd (mem_singleton.mp new) (of_decide_eq_true kept)

theorem Objects.machines_patchMachine {machine : CreatedMachine}
    (fresh : ∀ existing ∈ objects.machines, existing.name ≠ machine.name) :
    ((objects.clone machine).patchMachine machine).machines = objects.machines ++ [machine] := upsert_of_fresh fresh

theorem Objects.NoOrphans.patchMachine (noOrphans : objects.NoOrphans) (machine : CreatedMachine)
    (fresh : ∀ existing ∈ objects.machines, existing.name ≠ machine.name) :
    ((objects.clone machine).patchMachine machine).NoOrphans := by
  constructor
  · intro name inside
    rw [Objects.machines_patchMachine fresh]
    rcases mem_append.mp inside with earlier | new
    · rcases noOrphans.bootstrap name earlier with ⟨existing, created, refers⟩
      exact ⟨existing, mem_append_left _ created, refers⟩
    · exact ⟨machine, mem_append_right _ mem_cons_self, Option.mem_toList.mp new⟩
  · intro name inside
    rw [Objects.machines_patchMachine fresh]
    rcases mem_append.mp inside with earlier | new
    · rcases noOrphans.infrastructure name earlier with ⟨existing, created, refers⟩
      exact ⟨existing, mem_append_left _ created, refers⟩
    · exact ⟨machine, mem_append_right _ mem_cons_self, (mem_singleton.mp new).symm⟩

theorem afterClones_betweenTurns
    (distinct : ∀ offset < remaining, (attempts index).name ≠ (attempts (index + 1 + offset)).name)
    (between : BetweenTurns attempts index (remaining + 1) objects) :
    BetweenTurns attempts (index + 1) remaining (afterClones machineSet naming attempts index objects) := by
  have freshLater : ∀ machine ∈ objects.machines, ∀ offset < remaining,
      machine.name ≠ (attempts (index + 1 + offset)).name := by
    intro machine created offset below
    rw [add_assoc, add_comm 1]
    exact between.fresh machine created (offset + 1) (succ_lt_succ below)
  unfold afterClones
  cases (attempts index).createMachine with
  | error => exact ⟨between.noOrphans.cleanUp _, between.named, freshLater⟩
  | ok =>
    have fresh : ∀ machine ∈ objects.machines,
        machine.name ≠ (attemptedMachine machineSet naming attempts index).name := by
      intro machine created
      exact between.fresh machine created 0 (succ_pos _)
    refine ⟨between.noOrphans.patchMachine _ fresh, ?_, ?_⟩
    all_goals dsimp only
    · rw [Objects.machines_patchMachine fresh, forall_mem_append, forall_mem_singleton]
      refine ⟨between.named, ?_⟩
      intro _ refers
      rcases Option.map_eq_some_iff.mp refers with ⟨_, _, rfl⟩
      rfl
    · rw [Objects.machines_patchMachine fresh, forall_mem_append, forall_mem_singleton]
      exact ⟨freshLater, distinct⟩

/-- The names of the attempts of a loop are distinct. -/
def DistinctNames (attempts : Nat → Attempt) (index remaining : Nat) : Prop :=
  ∀ first < remaining, ∀ second < remaining,
    (attempts (index + first)).name = (attempts (index + second)).name → first = second

theorem DistinctNames.tail (distinct : DistinctNames attempts index (remaining + 1)) :
    DistinctNames attempts (index + 1) remaining := by
  intro _ firstBelow _ secondBelow same
  rw [add_assoc, add_comm 1, add_assoc, add_comm 1] at same
  exact succ.inj (distinct _ (succ_lt_succ firstBelow) _ (succ_lt_succ secondBelow) same)

theorem DistinctNames.head (distinct : DistinctNames attempts index (remaining + 1)) :
    ∀ offset < remaining, (attempts index).name ≠ (attempts (index + 1 + offset)).name := by
  intro offset below same
  rw [add_assoc, add_comm 1] at same
  exact succ_ne_zero offset (distinct 0 (succ_pos _) (offset + 1) (succ_lt_succ below) same).symm

section

variable (distinct : DistinctNames attempts index remaining) (between : BetweenTurns attempts index remaining objects)
include distinct between

theorem createObjects_noOrphans_iff :
    (createObjects machineSet naming attempts index remaining objects).NoOrphans ↔
      ClonesInPairs machineSet attempts index remaining := by
  induction remaining generalizing index objects with
  | zero => exact iff_of_true between.noOrphans fun offset below => absurd below (not_lt_zero _)
  | succ remaining ih =>
    rw [clonesInPairs_succ]
    rcases createObjects_succ index remaining objects with
      ⟨cloned, turn⟩ | ⟨present, notCloned, turn⟩ | ⟨cloned, notCloned, turn⟩
    · have follows : InfrastructureFollows machineSet attempts index := fun _ _ => cloned.2
      rw [turn, and_iff_right follows, forall_prop_of_true cloned]
      apply ih
      · exact distinct.tail
      · exact afterClones_betweenTurns distinct.head between
    · rw [turn]
      refine iff_of_true between.noOrphans ⟨?_, ?_⟩
      · intro _ answer
        exact absurd answer notCloned
      · intro clones
        exact absurd (clones.1 present) notCloned
    · have notClones : ¬ (attempts index).clones machineSet := fun clones => notCloned clones.2
      rw [turn, forall_prop_of_false notClones, and_true]
      cases configRef : machineSet.bootstrapConfigRef with
      | none =>
        refine iff_of_true ?_ fun present => absurd configRef present
        rw [attemptedMachine, configRef, Option.map_none, Objects.cloneBootstrap,
          Option.toList_none, append_nil]
        exact between.noOrphans
      | some reference =>
        have present : machineSet.bootstrapConfigRef ≠ none := by
          rw [configRef]
          exact Option.some_ne_none reference
        refine iff_of_false ?_ fun follows => notCloned (follows present (cloned present))
        -- No Machine created so far can have the configuration of this turn.
        intro noOrphans
        have left : (attempts index).name ∈
            (objects.cloneBootstrap
              (attemptedMachine machineSet naming attempts index).bootstrapConfig).bootstrapConfigs := by
          rw [attemptedMachine, configRef]
          exact mem_append_right _ mem_cons_self
        rcases noOrphans.bootstrap _ left with ⟨machine, created, refers⟩
        exact between.fresh machine created 0 (succ_pos _) (between.named machine created _ refers).symm

end

theorem betweenTurns_start (remaining : Nat) : BetweenTurns attempts 0 remaining {} :=
  ⟨⟨nofun, nofun⟩, nofun, nofun⟩

/-- A scale up leaves no orphan exactly if no infrastructure machine fails to be cloned after its bootstrap
configuration has been. -/
theorem syncReplicasObjects_noOrphans_iff (machineSet : MachineSetSpec) (naming : InfraMachineNaming)
    (attempts : Nat → Attempt) (preflightChecks : Except String (Option String))
    (machines : Option (List SelectedMachine))
    (distinct : DistinctNames attempts 0 (machinesToCreate machineSet preflightChecks machines)) :
    (syncReplicasObjects machineSet naming attempts preflightChecks machines).NoOrphans ↔
      ClonesInPairs machineSet attempts 0 (machinesToCreate machineSet preflightChecks machines) :=
  createObjects_noOrphans_iff distinct (betweenTurns_start _)

end

/-! ## An orphan -/

namespace OrphanExample

def machineSet : MachineSetSpec where
  name := "ms"
  replicas := some 1
  bootstrapConfigRef := some ⟨"KubeadmConfigTemplate", "ns", "config"⟩
  infrastructureRef := ⟨"DockerMachineTemplate", "ns", "infra"⟩

def attempts (cloneInfrastructure : Except String Unit) : Nat → Attempt :=
  fun _ => { name := "ms-1", cloneInfrastructure }

def secondFails (index : Nat) : Attempt :=
  if index = 0 then { name := "ms-1" } else { name := "ms-2", createMachine := .error "timeout" }

end OrphanExample

open OrphanExample

/-- Of two Machines one cannot be created, and its objects are removed again. -/
theorem syncReplicasObjects_noOrphans_one :
    let objects := syncReplicasObjects { machineSet with replicas := some 2 } .machine secondFails (.ok none) (some [])
    objects.machines.map CreatedMachine.name = ["ms-1"] ∧ objects.NoOrphans := by
  refine ⟨by decide, (syncReplicasObjects_noOrphans_iff _ .machine secondFails (.ok none) (some []) ?_).mpr ?_⟩
  · unfold DistinctNames
    decide
  · intro index _ _ _ _
    unfold secondFails
    split_ifs <;> rfl

/-- The call fails with a bootstrap configuration that no Machine refers to. -/
theorem syncReplicasObjects_orphan :
    (syncReplicas machineSet (.ok none) (attempts (.error "quota exceeded")) (some [])).created = [] ∧
      (syncReplicasObjects machineSet .machine (attempts (.error "quota exceeded")) (.ok none)
        (some [])).bootstrapConfigs = ["ms-1"] ∧
      ¬ (syncReplicasObjects machineSet .machine (attempts (.error "quota exceeded")) (.ok none)
        (some [])).NoOrphans := by
  refine ⟨by decide, by decide, ?_⟩
  intro noOrphans
  rcases noOrphans.bootstrap "ms-1" (by decide) with ⟨_, created, _⟩
  cases created

end ClusterApi.MachineSet.Scaling

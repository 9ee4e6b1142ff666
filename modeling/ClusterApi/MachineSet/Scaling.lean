import Mathlib.Data.List.Count
import ClusterApi.Foundation.Runs
import ClusterApi.Machine.Conditions

namespace ClusterApi.MachineSet.Scaling

open Foundation List Nat

/-!
# Scaling up a MachineSet

`syncReplicas` compares the number of Machines in the cache with the number of
replicas and creates what is missing.  The cache may lag behind the writes of
the controller itself, so a reconcile waits at its end until the Machines it
has created can be read.

A failed clone returns at once, and so does a reconcile in which the creation
of some Machine has failed, although other Machines may have been created in
both.  The next reconcile can then miss them and create their replacements.
-/

/-! ## The Machines of a MachineSet -/

/-- The controller reference of a Machine, as the MachineSet reads it. -/
inductive Controller
  | missing
  | machineSet
  | other
  deriving DecidableEq

/-- A Machine that matches the selector of the MachineSet. -/
structure SelectedMachine where
  name : String
  controller : Controller
  deriving DecidableEq

def shouldExcludeMachine (machine : SelectedMachine) : Bool := machine.controller = .other

def adoptOrphan (machine : SelectedMachine) : SelectedMachine :=
  if machine.controller = .missing then { machine with controller := .machineSet } else machine

/-- Machines of other controllers are left out, and orphans are adopted. -/
def getAndAdoptMachinesForMachineSet (listed : List SelectedMachine) : List SelectedMachine :=
  (listed.filter fun machine => !shouldExcludeMachine machine).map adoptOrphan

/-- The Machines that belong to the MachineSet, or will with its next reconcile. -/
def machineCount (machines : List SelectedMachine) : Nat := machines.countP fun machine => !shouldExcludeMachine machine

/-! ## The creation of Machines -/

structure TemplateReference where
  kind : String
  namespaceName : String
  name : String

/-- The text of a reference in a message. -/
def TemplateReference.text (reference : TemplateReference) : String :=
  reference.kind ++ " " ++
    if reference.namespaceName = "" then reference.name else reference.namespaceName ++ "/" ++ reference.name

/-- The fields of a MachineSet that are read to scale it up. -/
structure MachineSetSpec where
  name : String
  replicas : Option Int32
  disableMachineCreate : Bool := false
  bootstrapConfigRef : Option TemplateReference
  infrastructureRef : TemplateReference

/-- The name generated for a Machine, and the answers to the calls made to create it. -/
structure Attempt where
  name : String
  cloneBootstrap : Except String Unit := .ok ()
  cloneInfrastructure : Except String Unit := .ok ()
  createMachine : Except String Unit := .ok ()

/-- What the creation loop has done: the Machines it created, the errors it
collected, the error that ended it, and the condition it set last. -/
structure Creation where
  created : List String := []
  errors : List String := []
  stopped : Option String := none
  machinesCreated : Option Condition := none

def machinesNotCreated (reason message : String) : Condition :=
  { status := .isFalse, reason, severity := "Error", message }

/-- The loop over the missing Machines.  A failed clone ends it; a Machine that
could not be created is passed over, and its external objects are deleted. -/
def createMachines (machineSet : MachineSetSpec) (attempts : Nat → Attempt) : Nat → Nat → Creation
  | _, 0 => {}
  | index, remaining + 1 =>
    let attempt := attempts index
    match machineSet.bootstrapConfigRef, attempt.cloneBootstrap with
    | some configRef, .error error =>
      { stopped := some ("failed to clone bootstrap configuration from " ++ configRef.text ++
          " while creating a machine: " ++ error)
        machinesCreated := some (machinesNotCreated "BootstrapTemplateCloningFailed" error) }
    | _, _ =>
      match attempt.cloneInfrastructure with
      | .error error =>
        { stopped := some ("failed to clone infrastructure machine from " ++ machineSet.infrastructureRef.text ++
            " while creating a machine: " ++ error)
          machinesCreated := some (machinesNotCreated "InfrastructureTemplateCloningFailed" error) }
      | .ok () =>
        let rest := createMachines machineSet attempts (index + 1) remaining
        match attempt.createMachine with
        | .error error => { rest with
            errors := error :: rest.errors
            machinesCreated := rest.machinesCreated <|> some (machinesNotCreated "MachineCreationFailed" error) }
        | .ok () => { rest with created := attempt.name :: rest.created }

/-- What a call of `syncReplicas` has written and returned. -/
structure SyncResult where
  created : List String := []
  /-- The Machines that `waitForMachineCreation` has seen in the cache. -/
  waitedFor : List String := []
  /-- How many Machines are chosen for deletion. -/
  toDelete : Nat := 0
  machinesCreated : Option Condition := none
  requeueAfterSeconds : Nat := 0
  errors : List String := []

/-- Scale the MachineSet.  The preflight checks fail with an error, or with a
message and a later retry.  Without a list of Machines there is nothing to do. -/
def syncReplicas (machineSet : MachineSetSpec) (preflightChecks : Except String (Option String))
    (attempts : Nat → Attempt) (machines : Option (List SelectedMachine)) : SyncResult :=
  match machines, machineSet.replicas with
  | none, _ => {}
  | some _, none =>
    { errors := ["the Replicas field in Spec for MachineSet " ++ machineSet.name ++
        " is nil, this should not be allowed"] }
  | some machines, some replicas =>
    let diff : Int := machines.length - replicas.toInt
    if diff < 0 then
      if machineSet.disableMachineCreate then {}
      else
        match preflightChecks with
        | .error error =>
          { machinesCreated := some (machinesNotCreated "PreflightCheckFailed" error), errors := [error] }
        | .ok (some message) =>
          { machinesCreated := some (machinesNotCreated "PreflightCheckFailed" message)
            requeueAfterSeconds := 15 }
        | .ok none =>
          let creation := createMachines machineSet attempts 0 (-diff).toNat
          match creation.stopped, creation.errors with
          | some error, _ =>
            { created := creation.created, machinesCreated := creation.machinesCreated, errors := [error] }
          | none, error :: more =>
            { created := creation.created, machinesCreated := creation.machinesCreated, errors := error :: more }
          | none, [] =>
            { created := creation.created, waitedFor := creation.created
              machinesCreated := creation.machinesCreated }
    else { toDelete := diff.toNat }

/-! ## Runs of reconciles -/

/-- The Machines at the API server, and the names that are known to have reached the cache. -/
structure State where
  machines : List SelectedMachine
  cached : List String
  deriving DecidableEq

/-- The inputs of one reconcile.  The cache has the Machines that were waited
for and those it is told to have seen; listing them may fail. -/
structure Reconcile where
  listed : Option (String → Bool)
  preflightChecks : Except String (Option String) := .ok none
  attempts : Nat → Attempt

/-- The cached list of Machines. -/
def Reconcile.list (reconcile : Reconcile) (state : State) : Option (List SelectedMachine) :=
  reconcile.listed.map fun seen => state.machines.filter fun machine =>
    seen machine.name || state.cached.contains machine.name

/-- The API server has one Machine of a name. -/
def createMachine (machines : List SelectedMachine) (name : String) : List SelectedMachine :=
  if machines.any fun machine => machine.name = name then machines else machines ++ [⟨name, .machineSet⟩]

/-- A reconcile that deletes no Machine. -/
def step (machineSet : MachineSetSpec) (state : State) (reconcile : Reconcile) : Option State :=
  let listed := reconcile.list state
  let result := syncReplicas machineSet reconcile.preflightChecks reconcile.attempts
    (listed.map getAndAdoptMachinesForMachineSet)
  if result.toDelete ≠ 0 then none
  else
    let adopted := state.machines.map fun machine => if machine ∈ listed.getD [] then adoptOrphan machine else machine
    some { machines := result.created.foldl createMachine adopted, cached := state.cached ++ result.waitedFor }

/-! ## Complete reconciles -/

/-- The bootstrap configuration, if there is one, and the infrastructure machine are cloned. -/
def Attempt.clones (machineSet : MachineSetSpec) (attempt : Attempt) : Prop :=
  (machineSet.bootstrapConfigRef ≠ none → attempt.cloneBootstrap = .ok ()) ∧ attempt.cloneInfrastructure = .ok ()

/-- Either all calls for the wanted Machines succeed, or no Machine is created
before the first clone that fails. -/
def AllOrNothing (machineSet : MachineSetSpec) (attempts : Nat → Attempt) (wanted : Nat) : Prop :=
  (∀ index < wanted, (attempts index).clones machineSet ∧ (attempts index).createMachine = .ok ()) ∨
    ∀ index < wanted, (∀ earlier ≤ index, (attempts earlier).clones machineSet) →
      (attempts index).createMachine ≠ .ok ()

/-- The Machines that are missing in the cached list. -/
def wanted (machineSet : MachineSetSpec) (state : State) (reconcile : Reconcile) : Nat :=
  match reconcile.list state, machineSet.replicas with
  | some listed, some replicas => (replicas.toInt - machineCount listed).toNat
  | _, _ => 0

def Complete (machineSet : MachineSetSpec) (state : State) (reconcile : Reconcile) : Prop :=
  AllOrNothing machineSet reconcile.attempts (wanted machineSet state reconcile)

theorem createMachines_succ (machineSet : MachineSetSpec) (attempts : Nat → Attempt)
    (index remaining : Nat) : ((attempts index).clones machineSet ∧
      createMachines machineSet attempts index (remaining + 1) =
        let rest := createMachines machineSet attempts (index + 1) remaining
        match (attempts index).createMachine with
        | .error error => { rest with
            errors := error :: rest.errors
            machinesCreated := rest.machinesCreated <|> some (machinesNotCreated "MachineCreationFailed" error) }
        | .ok () => { rest with created := (attempts index).name :: rest.created }) ∨
    ¬ (attempts index).clones machineSet ∧ (createMachines machineSet attempts index (remaining + 1)).created = [] := by
  rw [createMachines]
  split
  case h_1 configRef error present failed =>
    refine .inr ⟨fun clones => ?_, rfl⟩
    rw [clones.1 (by simp [present])] at failed
    cases failed
  case h_2 succeeds =>
    split
    case h_1 error failed =>
      refine .inr ⟨fun clones => ?_, rfl⟩
      rw [clones.2] at failed
      cases failed
    case h_2 cloned =>
      refine .inl ⟨⟨fun present => ?_, cloned⟩, rfl⟩
      cases configRef : machineSet.bootstrapConfigRef with
      | none => exact absurd configRef present
      | some reference =>
        cases bootstrap : (attempts index).cloneBootstrap with
        | ok => rfl
        | error error => exact absurd bootstrap (succeeds reference error configRef)

section Loop

variable {machineSet : MachineSetSpec} {attempts : Nat → Attempt} {remaining index : Nat}

theorem length_created_le (index remaining : Nat) :
    (createMachines machineSet attempts index remaining).created.length ≤ remaining := by
  induction remaining generalizing index with
  | zero => simp [createMachines]
  | succ remaining ih =>
    have later := ih (index + 1)
    rcases createMachines_succ machineSet attempts index remaining with ⟨-, turn⟩ | ⟨-, none⟩
    · rw [turn]
      cases (attempts index).createMachine with
      | error => exact le_succ_of_le later
      | ok => exact succ_le_succ later
    · rw [none]
      exact zero_le _

theorem completed_of_all
    (all : ∀ offset < remaining, (attempts (index + offset)).clones machineSet ∧
      (attempts (index + offset)).createMachine = .ok ()) :
    (createMachines machineSet attempts index remaining).stopped = none ∧
      (createMachines machineSet attempts index remaining).errors = [] := by
  induction remaining generalizing index with
  | zero => exact ⟨rfl, rfl⟩
  | succ remaining ih =>
    have first := all 0 (succ_pos _)
    have later : ∀ offset < remaining, (attempts (index + 1 + offset)).clones machineSet ∧
        (attempts (index + 1 + offset)).createMachine = .ok () := by
      intro offset bound
      rw [add_assoc, add_comm 1]
      exact all (offset + 1) (succ_lt_succ bound)
    rcases createMachines_succ machineSet attempts index remaining with ⟨-, turn⟩ | ⟨failed, -⟩
    · rw [turn, show (attempts index).createMachine = .ok () from first.2]
      exact ih later
    · exact absurd first.1 failed

theorem created_of_nothing
    (nothing : ∀ offset < remaining, (∀ earlier ≤ offset, (attempts (index + earlier)).clones machineSet) →
      (attempts (index + offset)).createMachine ≠ .ok ()) :
    (createMachines machineSet attempts index remaining).created = [] := by
  induction remaining generalizing index with
  | zero => rfl
  | succ remaining ih =>
    rcases createMachines_succ machineSet attempts index remaining with ⟨clones, turn⟩ | ⟨-, none⟩
    · have first := nothing 0 (succ_pos _)
      have later : ∀ offset < remaining,
          (∀ earlier ≤ offset, (attempts (index + 1 + earlier)).clones machineSet) →
            (attempts (index + 1 + offset)).createMachine ≠ .ok () := by
        intro offset bound before
        rw [add_assoc, add_comm 1]
        refine nothing (offset + 1) (succ_lt_succ bound) fun earlier atMost => ?_
        cases earlier with
        | zero => exact clones
        | succ earlier =>
          have cloned := before earlier (le_of_succ_le_succ atMost)
          rwa [add_assoc, add_comm 1] at cloned
      rw [turn]
      cases created : (attempts index).createMachine with
      | error => exact ih later
      | ok =>
        refine absurd created (first fun earlier atMost => ?_)
        cases le_zero.mp atMost
        exact clones
    · exact none

theorem syncReplicas_waitsFor {preflightChecks : Except String (Option String)} {machines : List SelectedMachine}
    {replicas : Int32} (fixed : machineSet.replicas = some replicas) :
    let result := syncReplicas machineSet preflightChecks attempts (some machines)
    result.created.length ≤ (replicas.toInt - machines.length).toNat ∧
      (AllOrNothing machineSet attempts (replicas.toInt - machines.length).toNat → result.waitedFor = result.created) := by
  have turned : (-((machines.length : Int) - replicas.toInt)).toNat = (replicas.toInt - machines.length).toNat := by
    rw [Int.neg_sub]
  unfold syncReplicas
  rw [fixed]
  dsimp only
  rw [turned]
  split
  case isFalse enough => exact ⟨zero_le _, fun _ => rfl⟩
  split
  case isTrue disabled => exact ⟨zero_le _, fun _ => rfl⟩
  split
  case h_1 error failed => exact ⟨zero_le _, fun _ => rfl⟩
  case h_2 message held => exact ⟨zero_le _, fun _ => rfl⟩
  case h_3 passed =>
    have bound := @length_created_le machineSet attempts 0 (replicas.toInt - machines.length).toNat
    -- The two ways out that do not wait are those of an incomplete loop, or of one without a new Machine.
    have complete : AllOrNothing machineSet attempts (replicas.toInt - machines.length).toNat →
        (createMachines machineSet attempts 0 (replicas.toInt - machines.length).toNat).created = [] ∨
          (createMachines machineSet attempts 0 (replicas.toInt - machines.length).toNat).stopped = none ∧
            (createMachines machineSet attempts 0 (replicas.toInt - machines.length).toNat).errors = [] := by
      rintro (all | nothing)
      · refine .inr (completed_of_all fun offset below => ?_)
        rw [zero_add]
        exact all offset below
      · refine .inl (created_of_nothing fun offset below => ?_)
        simp only [zero_add]
        exact nothing offset below
    split
    case h_1 error stopped =>
      refine ⟨bound, fun allOrNothing => ?_⟩
      rcases complete allOrNothing with none | ⟨notStopped, -⟩
      · exact none.symm
      · rw [stopped] at notStopped
        cases notStopped
    case h_2 error more stopped failed =>
      refine ⟨bound, fun allOrNothing => ?_⟩
      rcases complete allOrNothing with none | ⟨-, noErrors⟩
      · exact none.symm
      · rw [failed] at noErrors
        cases noErrors
    case h_3 stopped failed => exact ⟨bound, fun _ => rfl⟩

end Loop

/-! ## The invariant -/

theorem shouldExcludeMachine_adoptOrphan (machine : SelectedMachine) :
    shouldExcludeMachine (adoptOrphan machine) = shouldExcludeMachine machine := by
  unfold adoptOrphan
  split
  case isTrue orphan => simp [shouldExcludeMachine, orphan]
  case isFalse owned => rfl

theorem adoptOrphan_name (machine : SelectedMachine) : (adoptOrphan machine).name = machine.name := by
  unfold adoptOrphan
  split
  · rfl
  · rfl

theorem length_getAndAdopt (listed : List SelectedMachine) :
    (getAndAdoptMachinesForMachineSet listed).length = machineCount listed := by
  rw [getAndAdoptMachinesForMachineSet, length_map, machineCount, countP_eq_length_filter]

theorem machineCount_createMachine_le (machines : List SelectedMachine) (name : String) :
    machineCount (createMachine machines name) ≤ machineCount machines + 1 := by
  unfold createMachine
  split
  · exact le_succ _
  · rw [machineCount, countP_append]
    exact Nat.add_le_add_left (countP_le_length) _

theorem machineCount_foldl_le (created : List String) (machines : List SelectedMachine) :
    machineCount (created.foldl createMachine machines) ≤ machineCount machines + created.length := by
  induction created generalizing machines with
  | nil => exact le_refl _
  | cons name _ ih =>
    have one := machineCount_createMachine_le machines name
    have more := ih (createMachine machines name)
    rw [foldl_cons, length_cons]
    omega

theorem name_mem_foldl {created : List String} {machines : List SelectedMachine}
    {machine : SelectedMachine} (member : machine ∈ created.foldl createMachine machines) :
    machine.name ∈ machines.map SelectedMachine.name ∨ machine.name ∈ created := by
  induction created generalizing machines with
  | nil => exact .inl (mem_map_of_mem member)
  | cons _ _ ih =>
    rcases ih member with earlier | later
    · unfold createMachine at earlier
      split at earlier
      case isTrue exists_ => exact .inl earlier
      case isFalse new =>
        rw [map_append, mem_append, map_singleton, mem_singleton] at earlier
        rcases earlier with before | same
        · exact .inl before
        · rw [same]
          exact .inr mem_cons_self
    · exact .inr (mem_cons_of_mem _ later)

/-- The bound, and what makes the next reconcile keep it: the cache has every Machine. -/
structure Invariant (replicas : Int32) (state : State) : Prop where
  withinReplicas : (machineCount state.machines : Int) ≤ replicas.toInt
  allCached : ∀ machine ∈ state.machines, machine.name ∈ state.cached

theorem machineCount_adopted (listed machines : List SelectedMachine) :
    machineCount (machines.map fun machine => if machine ∈ listed then adoptOrphan machine else machine) =
      machineCount machines := by
  rw [machineCount, countP_map]
  apply countP_congr
  intro _ _
  rw [Function.comp_apply]
  split_ifs
  · rw [shouldExcludeMachine_adoptOrphan]
  · rfl

section Step

variable {machineSet : MachineSetSpec} {replicas : Int32} {state next : State} {reconcile : Reconcile}

theorem Invariant.list (invariant : Invariant replicas state) (reconcile : Reconcile) :
    reconcile.list state = none ∨ reconcile.list state = some state.machines := by
  unfold Reconcile.list
  cases reconcile.listed with
  | none => exact .inl rfl
  | some =>
    refine .inr (congrArg some (filter_eq_self.mpr fun machine member => ?_))
    simp [invariant.allCached machine member]

theorem Invariant.step (invariant : Invariant replicas state) (fixed : machineSet.replicas = some replicas)
    (complete : Complete machineSet state reconcile) (taken : step machineSet state reconcile = some next) :
    Invariant replicas next := by
  unfold Scaling.step at taken
  dsimp only at taken
  split at taken
  · cases taken
  rcases invariant.list reconcile with failed | all
  · rw [failed] at taken
    simp only [Option.map_none, syncReplicas, Option.getD_none, not_mem_nil, if_false, map_id_fun',
      id_eq, foldl_nil, append_nil] at taken
    cases taken
    exact invariant
  · rw [all] at taken
    have sync := @syncReplicas_waitsFor machineSet reconcile.attempts reconcile.preflightChecks
      (getAndAdoptMachinesForMachineSet state.machines) replicas fixed
    rw [Complete, wanted, all, fixed] at complete
    dsimp only at complete sync
    rw [length_getAndAdopt] at sync
    have waited := sync.2 complete
    simp only [Option.map_some] at taken
    generalize syncReplicas machineSet reconcile.preflightChecks reconcile.attempts
      (some (getAndAdoptMachinesForMachineSet state.machines)) = result at taken sync waited
    cases taken
    constructor
    · have count := machineCount_foldl_le result.created
        (state.machines.map fun machine => if machine ∈ (some state.machines).getD [] then adoptOrphan machine else machine)
      have bound := invariant.withinReplicas
      have created := sync.1
      rw [machineCount_adopted] at count
      dsimp only
      omega
    · intro _ member
      rw [mem_append]
      rcases name_mem_foldl member with earlier | later
      · rw [map_map, mem_map] at earlier
        rcases earlier with ⟨before, member, same⟩
        refine .inl ?_
        rw [← same, Function.comp_apply, apply_ite SelectedMachine.name, adoptOrphan_name, ite_self]
        exact invariant.allCached before member
      · rw [waited]
        exact .inr later

end Step

/-- Starting within its replicas and with all Machines in the cache, a
MachineSet never has more Machines than replicas, in any run of reconciles none
of which creates a Machine and fails. -/
theorem run_withinReplicas {machineSet : MachineSetSpec} {replicas : Int32}
    (fixed : machineSet.replicas = some replicas) {start final : State} {schedule : List Reconcile}
    (withinReplicas : (machineCount start.machines : Int) ≤ replicas.toInt)
    (allCached : ∀ machine ∈ start.machines, machine.name ∈ start.cached)
    (complete : Meets (step machineSet) (Complete machineSet) start schedule)
    (executed : execute (step machineSet) start schedule = some final) :
    (machineCount final.machines : Int) ≤ replicas.toInt := by
  have invariant : Invariant replicas final := by
    refine execute_invariant ?_ ⟨withinReplicas, allCached⟩ complete executed
    intro _ _ _ invariant complete taken
    exact invariant.step fixed complete taken
  exact invariant.withinReplicas

def threeReplicas : MachineSetSpec where
  name := "md-0-x7k2p"
  replicas := some 3
  bootstrapConfigRef := some ⟨"KubeadmConfigTemplate", "default", "md-0"⟩
  infrastructureRef := ⟨"DockerMachineTemplate", "default", "md-0"⟩

def staleReconcile (names : List String) (failedClone : Option Nat) : Reconcile where
  listed := some fun _ => false
  attempts := fun index =>
    { name := names.getD index ""
      cloneInfrastructure := if failedClone = some index then .error "request timed out" else .ok () }

theorem completeReconcile_withinReplicas :
    execute (step threeReplicas) ⟨[], []⟩ [staleReconcile ["a", "b", "c"] none] =
        some ⟨[⟨"a", .machineSet⟩, ⟨"b", .machineSet⟩, ⟨"c", .machineSet⟩], ["a", "b", "c"]⟩ ∧
      (machineCount [⟨"a", .machineSet⟩, ⟨"b", .machineSet⟩, ⟨"c", .machineSet⟩] : Int) ≤ (3 : Int32).toInt := by
  have executed : execute (step threeReplicas) ⟨[], []⟩ [staleReconcile ["a", "b", "c"] none] =
      some ⟨[⟨"a", .machineSet⟩, ⟨"b", .machineSet⟩, ⟨"c", .machineSet⟩], ["a", "b", "c"]⟩ := by decide +kernel
  have complete : Meets (step threeReplicas) (Complete threeReplicas) ⟨[], []⟩ [staleReconcile ["a", "b", "c"] none] := by
    refine .cons ?_ fun _ _ => trivial
    exact .inl fun index _ => ⟨⟨fun _ => rfl, rfl⟩, rfl⟩
  exact ⟨executed, run_withinReplicas rfl (by decide) (by simp) complete executed⟩

/-- The first reconcile creates one Machine and stops at a failed clone.  The
second one does not see that Machine, and creates three more. -/
theorem failedClone_exceedsReplicas :
    ∃ final, execute (step threeReplicas) ⟨[], []⟩
        [staleReconcile ["a"] (some 1), staleReconcile ["b", "c", "d"] none] = some final ∧
      ¬ (machineCount final.machines : Int) ≤ (3 : Int32).toInt := by
  refine ⟨⟨[⟨"a", .machineSet⟩, ⟨"b", .machineSet⟩, ⟨"c", .machineSet⟩, ⟨"d", .machineSet⟩], ["b", "c", "d"]⟩, ?_, ?_⟩
  · decide +kernel
  · decide

end ClusterApi.MachineSet.Scaling

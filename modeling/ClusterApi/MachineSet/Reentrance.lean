import ClusterApi.Foundation.Loops
import ClusterApi.MachineSet.InFlight

namespace ClusterApi.MachineSet

open Foundation List
open MachineDeployment (Scaler getScaledValue)

/-!
# Remediations that fail half-way

Before `reconcileUnhealthyMachines` deletes the Machines it has selected, it
marks them as remediated.  A call that fails after it has marked a Machine, but
before it has deleted it, leaves the Machine with the mark; and the mark takes
it off the list of Machines that wait for remediation, so that no later call
deletes it.
-/

/-! ## A call and its effects -/

/-- The calls that fail: patches, by phase and by Machine, and deletes. -/
structure Failures where
  patch : Nat → String → Bool := fun _ _ => false
  delete : String → Bool := fun _ => false

/-- A patch that fails has no effect. -/
def patchMachine (fails : String → Bool) (patch : Patch) (machine : Machine) : Machine :=
  if machine.name = patch.name ∧ fails patch.name = false then applyPatch patch machine else machine

/-- All patches of a phase are tried. -/
def patchPhase (fails : String → Bool) (phase : List Patch) (machines : List Machine) : List Machine :=
  phase.foldl (fun machines patch => machines.map (patchMachine fails patch)) machines

def phaseFails (fails : String → Bool) (phase : List Patch) : Bool := phase.any fun patch => fails patch.name

/-- The Machines after a call, and whether it returns an error. -/
structure Outcome where
  machines : List Machine
  failed : Bool
  deriving DecidableEq

/-- The phases of patches, up to the first one that fails. -/
def patchPhases (failures : Failures) : Nat → List (List Patch) → List Machine → Outcome
  | _, [], machines => ⟨machines, false⟩
  | index, phase :: rest, machines =>
    let patched := patchPhase (failures.patch index) phase machines
    if phaseFails (failures.patch index) phase then ⟨patched, true⟩
    else patchPhases failures (index + 1) rest patched

def deleteMachine (fails : String → Bool) (name : String) (machine : Machine) : Machine :=
  if machine.name = name ∧ fails name = false then markDeleting machine else machine

/-- All deletes are tried. -/
def deleteMachines (fails : String → Bool) (names : List String) (machines : List Machine) : List Machine :=
  names.foldl (fun machines name => machines.map (deleteMachine fails name)) machines

/-- The writes of a call, in their order. -/
def perform (failures : Failures) (plan : Plan) (machines : List Machine) : Outcome :=
  let patched := patchPhases failures 0 plan.patches machines
  if patched.failed then patched
  else
    { machines := deleteMachines failures.delete plan.deletes patched.machines
      failed := plan.deletes.any failures.delete || plan.outcome.toOption.isNone }

/-! ## The effects on one Machine -/

/-- What a phase does to one Machine. -/
def patchedBy (fails : String → Bool) (phase : List Patch) (machine : Machine) : Machine :=
  phase.foldl (fun machine patch => patchMachine fails patch machine) machine

/-- What the deletes do to one Machine. -/
def deletedBy (fails : String → Bool) (names : List String) (machine : Machine) : Machine :=
  names.foldl (fun machine name => deleteMachine fails name machine) machine

section

variable {fails : String → Bool} {phase : List Patch} {machine : Machine}

theorem patchMachine_frame (patch : Patch) :
    (patchMachine fails patch machine).name = machine.name ∧
      (patchMachine fails patch machine).deleting = machine.deleting ∧
      (patchMachine fails patch machine).healthCheckSucceeded = machine.healthCheckSucceeded := by
  unfold patchMachine
  split_ifs
  · exact ⟨rfl, rfl, rfl⟩
  · exact ⟨rfl, rfl, rfl⟩

theorem patchedBy_frame :
    (patchedBy fails phase machine).name = machine.name ∧
      (patchedBy fails phase machine).deleting = machine.deleting ∧
      (patchedBy fails phase machine).healthCheckSucceeded = machine.healthCheckSucceeded := by
  induction phase generalizing machine with
  | nil => exact ⟨rfl, rfl, rfl⟩
  | cons patch _ ih =>
    rcases @patchMachine_frame fails machine patch with ⟨name, deleting, health⟩
    rcases @ih (patchMachine fails patch machine) with ⟨laterName, laterDeleting, laterHealth⟩
    exact ⟨laterName.trans name, laterDeleting.trans deleting, laterHealth.trans health⟩

theorem apply_apply (change : ConditionChange) (condition : Option Condition) :
    change.apply (change.apply condition) = change.apply condition := by
  cases change with
  | keep | remove | set => rfl

theorem ownerRemediated_patchedBy {change : ConditionChange}
    (same : ∀ patch ∈ phase, patch.name = machine.name → patch.ownerRemediated = change) :
    (patchedBy fails phase machine).ownerRemediated =
      if (∃ patch ∈ phase, patch.name = machine.name) ∧ fails machine.name = false then
        change.apply machine.ownerRemediated
      else machine.ownerRemediated := by
  induction phase generalizing machine with
  | nil =>
    rw [if_neg]
    · rfl
    · rintro ⟨⟨patch, inside, _⟩, _⟩
      cases inside
  | cons patch _ ih =>
    rcases forall_mem_cons.mp same with ⟨first, later⟩
    have name := (@patchMachine_frame fails machine patch).1
    have step := @ih (patchMachine fails patch machine) (by rw [name]; exact later)
    refine Eq.trans step ?_
    simp only [exists_mem_cons_iff]
    by_cases named : patch.name = machine.name
    · cases failed : fails machine.name with
      | true => simp [patchMachine, named, failed]
      | false =>
        have patched : (patchMachine fails patch machine).ownerRemediated =
            change.apply machine.ownerRemediated := by
          rw [patchMachine, if_pos ⟨named.symm, named ▸ failed⟩, ← first named]
          rfl
        rw [patched, apply_apply, ite_self, if_pos ⟨.inl named, rfl⟩]
    · have unpatched : patchMachine fails patch machine = machine := by
        rw [patchMachine, if_neg]
        rintro ⟨sameName, _⟩
        exact named sameName.symm
      simp only [unpatched, named, false_or]

theorem deletedBy_eq {names : List String} :
    deletedBy fails names machine =
      if machine.name ∈ names ∧ fails machine.name = false then markDeleting machine else machine := by
  induction names generalizing machine with
  | nil => rw [if_neg fun inside => not_mem_nil inside.1]; rfl
  | cons name rest ih =>
    refine Eq.trans (@ih (deleteMachine fails name machine)) ?_
    by_cases deleted : machine.name = name ∧ fails name = false
    · have first : deleteMachine fails name machine = markDeleting machine := if_pos deleted
      rcases deleted with ⟨named, succeeds⟩
      rw [first, if_pos (⟨mem_cons.mpr (.inl named), named ▸ succeeds⟩ :
        machine.name ∈ name :: rest ∧ fails machine.name = false)]
      split_ifs
      · rfl
      · rfl
    · have first : deleteMachine fails name machine = machine := if_neg deleted
      have other : machine.name ∈ rest ∧ fails machine.name = false ↔
          machine.name ∈ name :: rest ∧ fails machine.name = false := by
        grind
      rw [first, if_congr other rfl rfl]

end

/-! ## The selection -/

/-- The Machines that wait for remediation, in the order in which the budget is spent on them. -/
def waiting (machines : List Machine) : List Machine := sortNewestFirst (machinesToRemediate machines)

section

variable (scaler : Scaler) (inputs : Inputs)

/-- What the remediations in flight leave of the budget. -/
def budget (machines : List Machine) : Nat :=
  match resolveMaxInFlight scaler inputs.owner with
  | .error _ => 0
  | .ok maxInFlight => (tokens maxInFlight machines).toNat

/-- The MachineSet is of the desired revision and has passed the preflight checks. -/
def mayRemediate : Bool :=
  !(inputs.owner.any fun owner => owner.revision ≠ inputs.revision) && inputs.preflightChecks = .passed

/-- The Machines that a call selects for deletion. -/
def selectedForDeletion (machines : List Machine) : List Machine :=
  if mayRemediate inputs then (waiting machines).take (budget scaler inputs machines) else []

/-- The Machines for which nothing is left of the budget. -/
def deferred (machines : List Machine) : List Machine := (waiting machines).drop (budget scaler inputs machines)

variable {scaler inputs} {machines : List Machine}

theorem plan_of_selected (selects : selectedForDeletion scaler inputs machines ≠ []) :
    reconcileUnhealthyMachines scaler inputs machines =
      { patches := [machines.filterMap cleanupPatch,
          patchMachineConditions (deferred scaler inputs machines) (tooManyInProgress inputs.owner) .keep,
          patchMachineConditions (selectedForDeletion scaler inputs machines) machineDeleted
            (.set { status := .isTrue })]
        deletes := (selectedForDeletion scaler inputs machines).map Machine.name } := by
  have may : mayRemediate inputs = true := by
    by_contra cannot
    exact selects (if_neg cannot)
  have selected : selectedForDeletion scaler inputs machines =
      (waiting machines).take (budget scaler inputs machines) := if_pos may
  rw [selected] at selects ⊢
  simp only [mayRemediate, Bool.and_eq_true, Bool.not_eq_true', decide_eq_true_eq] at may
  have someWaiting : waiting machines ≠ [] := fun none => selects (by rw [none, take_nil])
  have someUnhealthy : (machinesToRemediate machines).isEmpty = false := by
    rw [Bool.eq_false_iff]
    intro none
    rw [waiting, isEmpty_iff.mp none] at someWaiting
    exact someWaiting rfl
  have some : budget scaler inputs machines ≠ 0 := fun none => selects (by rw [none, take_zero])
  unfold reconcileUnhealthyMachines deferred
  unfold budget at some ⊢
  cases resolved : resolveMaxInFlight scaler inputs.owner with
  | error =>
    rw [resolved] at some
    exact absurd rfl some
  | ok =>
    rw [resolved] at some
    dsimp only at some ⊢
    rw [someUnhealthy, may.1, may.2, if_neg Bool.false_ne_true, if_neg Bool.false_ne_true, if_neg (by omega)]
    rfl

theorem plan_deletes :
    (reconcileUnhealthyMachines scaler inputs machines).deletes =
      (selectedForDeletion scaler inputs machines).map Machine.name := by
  by_cases selects : selectedForDeletion scaler inputs machines = []
  · rw [selects, map_nil]
    unfold reconcileUnhealthyMachines
    dsimp only
    split_ifs with nothing outdated
    · rfl
    · rfl
    · cases resolved : resolveMaxInFlight scaler inputs.owner with
      | error => rfl
      | ok =>
        dsimp only
        split_ifs with exhausted
        · rfl
        · cases checks : inputs.preflightChecks with
          | failed => rfl
          | passed =>
            have may : mayRemediate inputs = true := by
              rw [mayRemediate, Bool.eq_false_iff.mpr outdated, checks]
              rfl
            rw [selectedForDeletion, if_pos may, budget, resolved] at selects
            dsimp only [remediationDeletes]
            rw [← waiting, selects, map_nil]
  · rw [plan_of_selected selects]

end

/-! ## The Machines after a call -/

/-- Whether one of the phases fails. -/
def phasesFail (failures : Failures) : Nat → List (List Patch) → Bool
  | _, [] => false
  | index, phase :: rest => phaseFails (failures.patch index) phase || phasesFail failures (index + 1) rest

/-- What the phases, up to the first one that fails, do to one Machine. -/
def patchedByPhases (failures : Failures) : Nat → List (List Patch) → Machine → Machine
  | _, [], machine => machine
  | index, phase :: rest, machine =>
    let patched := patchedBy (failures.patch index) phase machine
    if phaseFails (failures.patch index) phase then patched else patchedByPhases failures (index + 1) rest patched

/-- What a call does to one Machine. -/
def performed (failures : Failures) (plan : Plan) (machine : Machine) : Machine :=
  let patched := patchedByPhases failures 0 plan.patches machine
  if phasesFail failures 0 plan.patches then patched else deletedBy failures.delete plan.deletes patched

theorem patchPhases_eq (failures : Failures) (index : Nat) (phases : List (List Patch))
    (machines : List Machine) : patchPhases failures index phases machines =
      ⟨machines.map (patchedByPhases failures index phases), phasesFail failures index phases⟩ := by
  induction phases generalizing index machines with
  | nil =>
    rw [patchPhases, phasesFail]
    congr 1
    exact (map_id machines).symm
  | cons phase rest ih =>
    have patched : patchPhase (failures.patch index) phase machines =
        machines.map (patchedBy (failures.patch index) phase) := foldl_map_eq_map_foldl _ _ _
    have effect : patchedByPhases failures index (phase :: rest) = fun machine =>
        if phaseFails (failures.patch index) phase then patchedBy (failures.patch index) phase machine
        else patchedByPhases failures (index + 1) rest (patchedBy (failures.patch index) phase machine) := by
      rfl
    rw [patchPhases, phasesFail, patched, effect]
    cases phaseFails (failures.patch index) phase with
    | true => rfl
    | false =>
      rw [if_neg Bool.false_ne_true, ih, map_map]
      rfl

theorem perform_eq (failures : Failures) (plan : Plan) (machines : List Machine) :
    perform failures plan machines =
      ⟨machines.map (performed failures plan),
        phasesFail failures 0 plan.patches || (plan.deletes.any failures.delete || plan.outcome.toOption.isNone)⟩ := by
  unfold perform performed
  rw [patchPhases_eq]
  cases phasesFail failures 0 plan.patches with
  | true => rfl
  | false =>
    rw [if_neg Bool.false_ne_true, deleteMachines, foldl_map_eq_map_foldl, map_map]
    rfl

section

variable {failures : Failures} {plan : Plan} {machine : Machine}

theorem patchedByPhases_frame {index : Nat} {phases : List (List Patch)} :
    (patchedByPhases failures index phases machine).name = machine.name ∧
      (patchedByPhases failures index phases machine).deleting = machine.deleting ∧
      (patchedByPhases failures index phases machine).healthCheckSucceeded = machine.healthCheckSucceeded := by
  induction phases generalizing index machine with
  | nil => exact ⟨rfl, rfl, rfl⟩
  | cons phase _ ih =>
    rcases @patchedBy_frame (failures.patch index) phase machine with ⟨name, deleting, health⟩
    unfold patchedByPhases
    split_ifs
    · exact ⟨name, deleting, health⟩
    · rcases @ih (patchedBy (failures.patch index) phase machine) (index + 1) with
        ⟨laterName, laterDeleting, laterHealth⟩
      exact ⟨laterName.trans name, laterDeleting.trans deleting, laterHealth.trans health⟩

theorem performed_eq :
    performed failures plan machine =
      if phasesFail failures 0 plan.patches = false ∧ machine.name ∈ plan.deletes ∧
          failures.delete machine.name = false then
        markDeleting (patchedByPhases failures 0 plan.patches machine)
      else patchedByPhases failures 0 plan.patches machine := by
  unfold performed
  dsimp only
  rw [deletedBy_eq, patchedByPhases_frame.1]
  cases phasesFail failures 0 plan.patches with
  | true => rfl
  | false => simp only [Bool.false_eq_true, if_false, true_and]

theorem performed_name : (performed failures plan machine).name = machine.name := by
  rw [performed_eq]
  split_ifs
  · exact patchedByPhases_frame.1
  · exact patchedByPhases_frame.1

theorem performed_healthCheckSucceeded :
    (performed failures plan machine).healthCheckSucceeded = machine.healthCheckSucceeded := by
  rw [performed_eq]
  split_ifs
  · exact patchedByPhases_frame.2.2
  · exact patchedByPhases_frame.2.2

theorem performed_ownerRemediated :
    (performed failures plan machine).ownerRemediated =
      (patchedByPhases failures 0 plan.patches machine).ownerRemediated := by
  rw [performed_eq]
  split_ifs
  · rfl
  · rfl

theorem performed_deleting_iff (alive : machine.deleting = false) :
    (performed failures plan machine).deleting = true ↔
      phasesFail failures 0 plan.patches = false ∧ machine.name ∈ plan.deletes ∧
        failures.delete machine.name = false := by
  rw [performed_eq]
  split_ifs with deleted
  · exact iff_of_true rfl deleted
  · rw [patchedByPhases_frame.2.1, alive]
    exact iff_of_false Bool.false_ne_true deleted

end

/-! ## The next call -/

section

variable {scaler : Scaler} {machines : List Machine}
  {machine : Machine} {inputs : Inputs}

/-- A call that may remediate, with a budget for all Machines that wait for it. -/
structure Ready (scaler : Scaler) (inputs : Inputs) (machines : List Machine) : Prop where
  may : mayRemediate inputs = true
  enough : (machinesToRemediate machines).length ≤ budget scaler inputs machines

theorem mem_waiting : machine ∈ waiting machines ↔ machine ∈ machinesToRemediate machines := by
  rw [waiting, sortNewestFirst, mem_insertionSort]

theorem selectedForDeletion_of_ready (ready : Ready scaler inputs machines) :
    selectedForDeletion scaler inputs machines = waiting machines := by
  rw [selectedForDeletion, if_pos ready.may]
  apply take_of_length_le
  rw [waiting, sortNewestFirst, length_insertionSort]
  exact ready.enough

theorem phasesFail_none (index : Nat) (phases : List (List Patch)) : phasesFail {} index phases = false := by
  induction phases generalizing index with
  | nil => rfl
  | cons _ _ ih =>
    rw [phasesFail, ih, Bool.or_false, phaseFails, any_eq_false]
    intro _ _
    exact Bool.false_ne_true

theorem isTrue_eq_false_of_isFalse {condition : Option Condition}
    (isFalse : Conditions.isFalse condition = true) : Conditions.isTrue condition = false := by
  cases condition with
  | none => rfl
  | some =>
    rw [Conditions.isFalse, Option.any_some, decide_eq_true_eq] at isFalse
    rw [Conditions.isTrue, Option.any_some, isFalse]
    rfl

theorem cleanedUp_deleting (machine : Machine) : (cleanedUp machine).deleting = machine.deleting := by
  unfold cleanedUp
  split_ifs
  · rfl
  · rfl

theorem waits_iff (unhealthy : Conditions.isFalse machine.healthCheckSucceeded = true) :
    (cleanedUp machine).isUnhealthyAndOwnerRemediated = Conditions.isFalse machine.ownerRemediated := by
  have notRecovered : shouldCleanup machine = false := by
    rw [shouldCleanup, isTrue_eq_false_of_isFalse unhealthy, Bool.false_and]
  unfold cleanedUp
  split_ifs
  · rw [Machine.isUnhealthyAndOwnerRemediated, unhealthy, Bool.true_and]
  · rw [notRecovered, Machine.isUnhealthyAndOwnerRemediated]
    rw [unhealthy, Bool.true_and]
    rfl

theorem deleted_iff (names : (machines.map Machine.name).Nodup) (ready : Ready scaler inputs machines)
    (inside : machine ∈ machines) (alive : machine.deleting = false)
    (unhealthy : Conditions.isFalse machine.healthCheckSucceeded = true) :
    (∃ deleted ∈ (perform {} (reconcileUnhealthyMachines scaler inputs machines) machines).machines,
        deleted.name = machine.name ∧ deleted.deleting = true) ↔
      Conditions.isFalse machine.ownerRemediated = true := by
  have unique : ∀ other ∈ machines, other.name = machine.name → other = machine := fun other listed same =>
    inj_on_of_nodup_map names listed inside same
  have chosen : machine.name ∈ (reconcileUnhealthyMachines scaler inputs machines).deletes ↔
      Conditions.isFalse machine.ownerRemediated = true := by
    rw [plan_deletes, selectedForDeletion_of_ready ready, ← waits_iff unhealthy]
    constructor
    · intro deleted
      rcases mem_map.mp deleted with ⟨_, waits, same⟩
      rcases mem_machinesToRemediate (mem_waiting.mp waits) with ⟨other, listed, rfl, _, waiting⟩
      rw [cleanedUp_name] at same
      rwa [unique other listed same] at waiting
    · intro waits
      rw [← cleanedUp_name]
      apply mem_map_of_mem
      rw [mem_waiting, machinesToRemediate, mem_filter, cleanedUp_deleting, alive, waits]
      exact ⟨mem_map_of_mem inside, rfl⟩
  rw [perform_eq, ← chosen]
  constructor
  · rintro ⟨deleted, listed, same, isDeleting⟩
    rcases mem_map.mp listed with ⟨other, otherListed, rfl⟩
    rw [performed_name] at same
    rw [unique other otherListed same] at isDeleting
    exact ((performed_deleting_iff alive).mp isDeleting).2.1
  · intro deleted
    exact ⟨_, mem_map_of_mem inside, performed_name,
      (performed_deleting_iff alive).mpr ⟨phasesFail_none _ _, deleted, rfl⟩⟩

end

/-! ## The call that fails -/

section

variable (scaler : Scaler) (inputs : Inputs)
  (machines : List Machine)

/-- A patch of the clean-up or of a deferral fails. -/
def FailsEarly (failures : Failures) : Prop :=
  (∃ machine ∈ machines, (cleanupPatch machine).isSome = true ∧ failures.patch 0 machine.name = true) ∨
    ∃ machine ∈ deferred scaler inputs machines, failures.patch 1 machine.name = true

/-- A patch fails before the Machines are marked, or all patches that mark them fail, or neither such a patch nor a
delete fails.  The patches come in three phases: the clean-up, the deferrals, and the marks. -/
def KeepsRequests (failures : Failures) : Prop :=
  FailsEarly scaler inputs machines failures ∨
    (∀ machine ∈ selectedForDeletion scaler inputs machines, failures.patch 2 machine.name = true) ∨
    ∀ machine ∈ selectedForDeletion scaler inputs machines,
      failures.patch 2 machine.name = false ∧ failures.delete machine.name = false

variable {scaler inputs machines} {machine : Machine} {fails : String → Bool}

theorem mem_selectedForDeletion {selected : Machine}
    (chosen : selected ∈ selectedForDeletion scaler inputs machines) :
    ∃ machine ∈ machines, selected = cleanedUp machine ∧ machine.deleting = false ∧
      Conditions.isFalse machine.healthCheckSucceeded = true ∧ Conditions.isFalse machine.ownerRemediated = true := by
  have waits : selected ∈ waiting machines := by
    unfold selectedForDeletion at chosen
    split_ifs at chosen
    · exact mem_of_mem_take chosen
    · cases chosen
  rcases mem_machinesToRemediate (mem_waiting.mp waits) with ⟨machine, inside, rfl, alive, waiting⟩
  have unhealthy : Conditions.isFalse machine.healthCheckSucceeded = true := by
    have health : (cleanedUp machine).healthCheckSucceeded = machine.healthCheckSucceeded := by
      unfold cleanedUp
      split_ifs
      · rfl
      · rfl
    rw [← health]
    exact (Bool.and_eq_true _ _ ▸ waiting).1
  rw [waits_iff unhealthy] at waiting
  exact ⟨machine, inside, rfl, alive, unhealthy, waiting⟩

theorem ownerRemediated_patchedBy_keep {phase : List Patch}
    (keeps : ∀ patch ∈ phase, patch.name = machine.name → patch.ownerRemediated = .keep) :
    (patchedBy fails phase machine).ownerRemediated = machine.ownerRemediated := by
  rw [ownerRemediated_patchedBy keeps]
  exact ite_self _

theorem cleanup_keeps (names : (machines.map Machine.name).Nodup) (inside : machine ∈ machines)
    (unhealthy : Conditions.isFalse machine.healthCheckSucceeded = true) :
    ∀ patch ∈ machines.filterMap cleanupPatch, patch.name = machine.name → patch.ownerRemediated = .keep := by
  intro patch listed same
  by_contra changes
  have withdraws : keepsTrue patch.ownerRemediated = false := by
    rcases mem_filterMap.mp listed with ⟨other, _, isPatch⟩
    unfold cleanupPatch at isPatch
    split_ifs at isPatch
    cases isPatch
    dsimp only [removeIf] at changes ⊢
    split_ifs at changes ⊢
    · rfl
    · exact absurd rfl changes
  rcases mem_cleanup listed withdraws with ⟨other, otherInside, named, _, recovered⟩
  rw [inj_on_of_nodup_map names otherInside inside (named.trans same), shouldCleanup,
    isTrue_eq_false_of_isFalse unhealthy] at recovered
  cases recovered

theorem ownerRemediated_selected {failures : Failures} {cleanup deferral : List Patch} {selected : List Machine}
    (cleanupKeeps : ∀ patch ∈ cleanup, patch.name = machine.name → patch.ownerRemediated = .keep)
    (deferralKeeps : ∀ patch ∈ deferral, patch.name = machine.name → patch.ownerRemediated = .keep)
    (chosen : machine.name ∈ selected.map Machine.name) :
    (patchedByPhases failures 0
        [cleanup, deferral, patchMachineConditions selected machineDeleted (.set { status := .isTrue })]
        machine).ownerRemediated =
      if phaseFails (failures.patch 0) cleanup || phaseFails (failures.patch 1) deferral ||
          failures.patch 2 machine.name then
        machine.ownerRemediated
      else some { status := .isTrue } := by
  generalize afterCleanup : patchedBy (failures.patch 0) cleanup machine = cleaned
  generalize afterDeferral : patchedBy (failures.patch 1) deferral cleaned = postponed
  have cleanedName : cleaned.name = machine.name := by rw [← afterCleanup, patchedBy_frame.1]
  have postponedName : postponed.name = machine.name := by rw [← afterDeferral, patchedBy_frame.1, cleanedName]
  have cleanedCondition : cleaned.ownerRemediated = machine.ownerRemediated := by
    rw [← afterCleanup]
    exact ownerRemediated_patchedBy_keep cleanupKeeps
  have postponedCondition : postponed.ownerRemediated = machine.ownerRemediated := by
    rw [← afterDeferral, ← cleanedCondition]
    exact ownerRemediated_patchedBy_keep (by rw [cleanedName]; exact deferralKeeps)
  have marked : (patchedBy (failures.patch 2)
      (patchMachineConditions selected machineDeleted (.set { status := .isTrue })) postponed).ownerRemediated =
      if failures.patch 2 machine.name then machine.ownerRemediated else some { status := .isTrue } := by
    have hasPatch : ∃ patch ∈ patchMachineConditions selected machineDeleted
        (.set { status := .isTrue }), patch.name = postponed.name := by
      rcases mem_map.mp chosen with ⟨_, inside, same⟩
      exact ⟨_, mem_map_of_mem inside, same.trans postponedName.symm⟩
    rw [ownerRemediated_patchedBy fun patch inside _ => (mem_patchMachineConditions inside).1,
      postponedCondition, postponedName]
    rw [postponedName] at hasPatch
    simp only [hasPatch, true_and]
    cases failures.patch 2 machine.name with
    | true | false => rfl
  simp only [patchedByPhases, afterCleanup, afterDeferral, ite_self]
  cases phaseFails (failures.patch 0) cleanup with
  | true => exact cleanedCondition
  | false =>
    cases phaseFails (failures.patch 1) deferral with
    | true => exact postponedCondition
    | false => exact marked

theorem phaseFails_cleanup (fails : String → Bool) :
    phaseFails fails (machines.filterMap cleanupPatch) = true ↔
      ∃ machine ∈ machines, (cleanupPatch machine).isSome = true ∧ fails machine.name = true := by
  rw [phaseFails, any_eq_true]
  constructor
  · rintro ⟨patch, listed, failed⟩
    rcases mem_filterMap.mp listed with ⟨machine, inside, isPatch⟩
    refine ⟨machine, inside, by rw [isPatch]; rfl, ?_⟩
    unfold cleanupPatch at isPatch
    split_ifs at isPatch
    cases isPatch
    exact failed
  · rintro ⟨machine, inside, cleans, failed⟩
    rcases Option.isSome_iff_exists.mp cleans with ⟨patch, isPatch⟩
    refine ⟨patch, mem_filterMap.mpr ⟨machine, inside, isPatch⟩, ?_⟩
    unfold cleanupPatch at isPatch
    split_ifs at isPatch
    cases isPatch
    exact failed

theorem phaseFails_patchMachineConditions {patched : List Machine} {condition : Condition} {change : ConditionChange} :
    phaseFails fails (patchMachineConditions patched condition change) = true ↔
      ∃ machine ∈ patched, fails machine.name = true := by
  rw [phaseFails, patchMachineConditions, any_map, any_eq_true]
  rfl

/-- If something fails, every item is left alone or gone completely, exactly if all of them are left alone, or none. -/
theorem allOrNone_iff {Item : Type*} {items : List Item} {earlier : Prop} {markFails deleteFails : Item → Prop} :
    ((earlier ∨ (∃ item ∈ items, markFails item) ∨ ∃ item ∈ items, deleteFails item) →
        ∀ item ∈ items, earlier ∨ markFails item ∨ (¬ ∃ other ∈ items, markFails other) ∧ ¬ deleteFails item) ↔
      earlier ∨ (∀ item ∈ items, markFails item) ∨ ∀ item ∈ items, ¬ markFails item ∧ ¬ deleteFails item := by
  by_cases before : earlier
  · exact iff_of_true (fun _ _ _ => .inl before) (.inl before)
  · simp only [before, false_or]
    by_cases marking : ∃ item ∈ items, markFails item
    · simp only [marking, true_or, not_true, false_and, or_false, true_imp_iff]
      refine ⟨.inl, ?_⟩
      rintro (all | none)
      · exact all
      · rcases marking with ⟨item, inside, fails⟩
        exact absurd fails (none item inside).1
    · have succeeds : ∀ item ∈ items, ¬ markFails item := fun item inside fails => marking ⟨item, inside, fails⟩
      simp only [marking, false_or, not_false_iff, true_and]
      constructor
      · intro deletes
        refine .inr fun item inside => ⟨succeeds item inside, fun fails => ?_⟩
        rcases deletes ⟨item, inside, fails⟩ item inside with markFails | succeeded
        · exact succeeds item inside markFails
        · exact succeeded fails
      · rintro (all | none) ⟨item, inside, fails⟩
        · exact absurd (all item inside) (succeeds item inside)
        · exact absurd fails (none item inside).2

section

variable {failures : Failures}

theorem failsEarly_iff :
    (phaseFails (failures.patch 0) (machines.filterMap cleanupPatch) ||
        phaseFails (failures.patch 1) (patchMachineConditions (deferred scaler inputs machines)
          (tooManyInProgress inputs.owner) .keep)) = true ↔
      FailsEarly scaler inputs machines failures := by
  rw [Bool.or_eq_true, phaseFails_cleanup, phaseFails_patchMachineConditions, FailsEarly]

section

variable (selects : selectedForDeletion scaler inputs machines ≠ [])
include selects

theorem phasesFail_plan :
    phasesFail failures 0 (reconcileUnhealthyMachines scaler inputs machines).patches = true ↔
      FailsEarly scaler inputs machines failures ∨
        ∃ machine ∈ selectedForDeletion scaler inputs machines, failures.patch 2 machine.name = true := by
  rw [plan_of_selected selects]
  simp only [phasesFail, Bool.or_false]
  rw [← Bool.or_assoc, Bool.or_eq_true, failsEarly_iff, phaseFails_patchMachineConditions]

theorem failed_iff :
    (perform failures (reconcileUnhealthyMachines scaler inputs machines) machines).failed = true ↔
      FailsEarly scaler inputs machines failures ∨
        (∃ machine ∈ selectedForDeletion scaler inputs machines, failures.patch 2 machine.name = true) ∨
        ∃ machine ∈ selectedForDeletion scaler inputs machines, failures.delete machine.name = true := by
  have deletes : (reconcileUnhealthyMachines scaler inputs machines).deletes.any failures.delete = true ↔
      ∃ machine ∈ selectedForDeletion scaler inputs machines, failures.delete machine.name = true := by
    rw [plan_deletes, any_map, any_eq_true]
    rfl
  have outcome : (reconcileUnhealthyMachines scaler inputs machines).outcome.toOption.isNone = false := by
    rw [plan_of_selected selects]
    rfl
  rw [perform_eq]
  rw [outcome, Bool.or_false, Bool.or_eq_true, phasesFail_plan selects, or_assoc, deletes]

end

theorem performed_selected (names : (machines.map Machine.name).Nodup) {machine : Machine} (inside : machine ∈ machines)
    (alive : machine.deleting = false) (unhealthy : Conditions.isFalse machine.healthCheckSucceeded = true)
    (waits : Conditions.isFalse machine.ownerRemediated = true)
    (chosen : machine.name ∈ (selectedForDeletion scaler inputs machines).map Machine.name) :
    let after := performed failures (reconcileUnhealthyMachines scaler inputs machines) machine
    (after.deleting = true ↔
        ¬ (FailsEarly scaler inputs machines failures ∨
          ∃ other ∈ selectedForDeletion scaler inputs machines, failures.patch 2 other.name = true) ∧
          failures.delete machine.name = false) ∧
      (Conditions.isFalse after.ownerRemediated = true ↔
        FailsEarly scaler inputs machines failures ∨ failures.patch 2 machine.name = true) := by
  have selects : selectedForDeletion scaler inputs machines ≠ [] := by
    intro none
    rw [none] at chosen
    cases chosen
  constructor
  · rw [performed_deleting_iff alive, ← phasesFail_plan selects, plan_deletes, and_iff_right chosen,
      Bool.not_eq_true]
  · rw [performed_ownerRemediated, plan_of_selected selects,
      ownerRemediated_selected (cleanup_keeps names inside unhealthy)
        (fun patch listed _ => (mem_patchMachineConditions listed).1) chosen,
      ← failsEarly_iff, ← Bool.or_eq_true]
    split_ifs with left
    · exact iff_of_true waits left
    · exact iff_of_false Bool.false_ne_true left

theorem deletedNext_iff (names : (machines.map Machine.name).Nodup) {next : Inputs}
    {listed : List Machine} (unchanged : listed.Perm
      (perform failures (reconcileUnhealthyMachines scaler inputs machines) machines).machines)
    (ready : Ready scaler next listed) {selected : Machine}
    (chosen : selected ∈ selectedForDeletion scaler inputs machines) :
    (∀ machine ∈ listed, machine.name = selected.name → machine.deleting = false →
        ∃ deleted ∈ (perform {} (reconcileUnhealthyMachines scaler next listed) listed).machines,
          deleted.name = machine.name ∧ deleted.deleting = true) ↔
      FailsEarly scaler inputs machines failures ∨ failures.patch 2 selected.name = true ∨
        (¬ ∃ other ∈ selectedForDeletion scaler inputs machines, failures.patch 2 other.name = true) ∧
          ¬ failures.delete selected.name = true := by
  rcases mem_selectedForDeletion chosen with ⟨machine, inside, rfl, alive, unhealthy, waits⟩
  have chosenName : machine.name ∈ (selectedForDeletion scaler inputs machines).map Machine.name := by
    rw [← cleanedUp_name]
    exact mem_map_of_mem chosen
  have effects := @performed_selected scaler inputs machines failures names machine inside alive unhealthy waits
    chosenName
  rw [perform_eq] at unchanged
  generalize afterCall : performed failures
    (reconcileUnhealthyMachines scaler inputs machines) machine = after at effects
  have afterName : after.name = machine.name := by rw [← afterCall, performed_name]
  have afterListed : after ∈ listed := by
    rw [unchanged.mem_iff, ← afterCall]
    exact mem_map_of_mem inside
  have afterUnhealthy : Conditions.isFalse after.healthCheckSucceeded = true := by
    rw [← afterCall, performed_healthCheckSucceeded]
    exact unhealthy
  have listedNames : (listed.map Machine.name).Nodup := by
    rw [(unchanged.map _).nodup_iff, map_map]
    have sameNames : Machine.name ∘ performed failures
        (reconcileUnhealthyMachines scaler inputs machines) = Machine.name := by
      funext other
      exact performed_name
    rw [sameNames]
    exact names
  have single : (∀ other ∈ listed, other.name = (cleanedUp machine).name → other.deleting = false →
        ∃ deleted ∈ (perform {} (reconcileUnhealthyMachines scaler next listed) listed).machines,
          deleted.name = other.name ∧ deleted.deleting = true) ↔
      (after.deleting = false → Conditions.isFalse after.ownerRemediated = true) := by
    constructor
    · intro all afterAlive
      rw [← deleted_iff listedNames ready afterListed afterAlive afterUnhealthy]
      exact all after afterListed (by rw [afterName, cleanedUp_name]) afterAlive
    · intro afterWaits other otherListed sameName otherAlive
      rw [cleanedUp_name, ← afterName] at sameName
      rw [inj_on_of_nodup_map listedNames otherListed afterListed sameName] at otherAlive ⊢
      exact (deleted_iff listedNames ready afterListed otherAlive afterUnhealthy).mpr (afterWaits otherAlive)
  rw [single, effects.2, ← Bool.not_eq_true, effects.1, cleanedUp_name, Bool.not_eq_true]
  grind

/-- A failed call leaves all Machines that it had selected, and not deleted, to the next call, exactly if no request
is lost half-way. -/
theorem reconcileUnhealthyMachines_reentrant_iff (names : (machines.map Machine.name).Nodup)
    (failures : Failures) {next : Inputs} {listed : List Machine}
    (unchanged : listed.Perm
      (perform failures (reconcileUnhealthyMachines scaler inputs machines) machines).machines)
    (ready : Ready scaler next listed) :
    ((perform failures (reconcileUnhealthyMachines scaler inputs machines) machines).failed = true →
        ∀ selected ∈ selectedForDeletion scaler inputs machines,
          ∀ machine ∈ listed, machine.name = selected.name → machine.deleting = false →
            ∃ deleted ∈ (perform {} (reconcileUnhealthyMachines scaler next listed) listed).machines,
              deleted.name = machine.name ∧ deleted.deleting = true) ↔
      KeepsRequests scaler inputs machines failures := by
  by_cases selects : selectedForDeletion scaler inputs machines = []
  · rw [KeepsRequests, selects]
    refine iff_of_true ?_ (.inr (.inl ?_))
    · intro _ selected chosen
      cases chosen
    · intro selected chosen
      cases chosen
  · have keeps : KeepsRequests scaler inputs machines failures ↔
        FailsEarly scaler inputs machines failures ∨
          (∀ machine ∈ selectedForDeletion scaler inputs machines, failures.patch 2 machine.name = true) ∨
          ∀ machine ∈ selectedForDeletion scaler inputs machines,
            ¬ failures.patch 2 machine.name = true ∧ ¬ failures.delete machine.name = true := by
      unfold KeepsRequests
      simp only [Bool.not_eq_true]
    rw [failed_iff selects, keeps, ← allOrNone_iff]
    apply imp_congr_right
    intro _
    apply forall₂_congr
    intro _ chosen
    exact deletedNext_iff names unchanged ready chosen

end

end

/-! ## Two unhealthy Machines of a MachineSet without owner -/

def standalone : Inputs := { owner := none, revision := "", preflightChecks := .passed }

def deleteOfBFails : Failures := { delete := fun name => name = "b" }

/-- What the failed call leaves behind: both Machines are marked, and only one of them is deleted. -/
def deletedHalfWay : List Machine :=
  [markDeleting (applyPatch ⟨"a", .set { status := .isTrue }, .set machineDeleted⟩ (waitingMachine "a" 2)),
    applyPatch ⟨"b", .set { status := .isTrue }, .set machineDeleted⟩ (waitingMachine "b" 1)]

/-- The Machine whose delete has failed is no longer waiting for remediation, and the next call deletes nothing. -/
theorem reconcileUnhealthyMachines_loses_request :
    perform deleteOfBFails (reconcileUnhealthyMachines getScaledValue standalone
        twoWaiting) twoWaiting = ⟨deletedHalfWay, true⟩ ∧
      (selectedForDeletion getScaledValue standalone twoWaiting).map Machine.name =
        ["a", "b"] ∧
      Ready getScaledValue standalone deletedHalfWay ∧
      (perform {} (reconcileUnhealthyMachines getScaledValue standalone
          deletedHalfWay) deletedHalfWay).machines.map (fun machine => (machine.name, machine.deleting)) =
        [("a", true), ("b", false)] := by
  refine ⟨by decide +kernel, by decide +kernel, ⟨by decide +kernel, by decide +kernel⟩, by decide +kernel⟩

def marksFail : Failures := { patch := fun phase _ => phase = 2 }

/-- As long as no Machine is marked, the next call starts over. -/
theorem reconcileUnhealthyMachines_reentrant_marksFail :
    (perform marksFail (reconcileUnhealthyMachines getScaledValue standalone
        twoWaiting) twoWaiting).failed = true ∧
      ∀ selected ∈ selectedForDeletion getScaledValue standalone twoWaiting,
        ∀ machine ∈ twoWaiting, machine.name = selected.name → machine.deleting = false →
          ∃ deleted ∈ (perform {} (reconcileUnhealthyMachines getScaledValue
              standalone twoWaiting) twoWaiting).machines,
            deleted.name = machine.name ∧ deleted.deleting = true := by
  have unchanged : (perform marksFail (reconcileUnhealthyMachines getScaledValue
      standalone twoWaiting) twoWaiting) = ⟨twoWaiting, true⟩ := by decide +kernel
  have failed := congrArg Outcome.failed unchanged
  refine ⟨failed, ?_⟩
  apply (reconcileUnhealthyMachines_reentrant_iff (by decide +kernel) marksFail (by rw [unchanged])
    ⟨by decide +kernel, by decide +kernel⟩).mpr _ failed
  exact .inr (.inl fun _ _ => rfl)

end ClusterApi.MachineSet

import ClusterApi.Foundation.Runs
import ClusterApi.MachineHealthCheck.Targets
import ClusterApi.MachineSet.Remediation

namespace ClusterApi.MachineSet

open Foundation List
open MachineDeployment (Scaler getScaledValue)
open MachineHealthCheck (Check checkTarget reopensRemediation)

/-!
# Remediations in flight

The MachineSet controller, the health check and the deletion of Machines,
interleaved write by write.  The controller counts a remediation as in flight
while the deleted Machine reports it as completed.  The health check reopens
completed remediations, also of Machines that are still being deleted, and then
the count misses them.
-/

structure State where
  machines : List Machine
  /-- What is left of the running reconcile: phases of patches, then deletes. -/
  patches : List (List Patch) := []
  deletes : List String := []
  /-- A patch of the current phase has failed. -/
  failed : Bool := false
  /-- The Machines that the controller has deleted for remediation so far. -/
  remediated : List String := []

inductive Action
  /-- A reconcile begins: it lists the Machines in some order and plans its writes. -/
  | begin (inputs : Inputs) (listed : List Machine)
  /-- The next patch of the reconcile, or the end of a phase. -/
  | patch (succeeds : Bool)
  /-- The next delete of the reconcile. -/
  | delete (succeeds : Bool)
  /-- A health check handles one of its targets. -/
  | check (name : String) (check : Check)
  /-- The deletion of a Machine completes. -/
  | removed (name : String)
  | created (machine : Machine)
  /-- Somebody else deletes a Machine. -/
  | deletedByOthers (name : String)

/-- Change the Machine of a name. -/
def updateMachine (name : String) (change : Machine → Machine) (machines : List Machine) : List Machine :=
  machines.map fun machine => if machine.name = name then change machine else machine

def applyPatch (patch : Patch) (machine : Machine) : Machine :=
  { machine with
    ownerRemediated := patch.ownerRemediated.apply machine.ownerRemediated
    ownerRemediatedV1Beta2 := patch.ownerRemediatedV1Beta2.apply machine.ownerRemediatedV1Beta2 }

def markDeleting (machine : Machine) : Machine := { machine with deleting := true }

def State.knows (state : State) (name : String) : Bool :=
  name ∈ state.machines.map Machine.name || name ∈ state.remediated || name ∈ state.deletes ||
    name ∈ state.patches.flatten.map Patch.name

variable (scaler : Scaler) (maxInFlight : Int)

/-- One step.  Reconciles of one MachineSet do not overlap, and a created Machine gets a name of its own. -/
def step (state : State) : Action → Option State
  | .begin inputs listed =>
    if state.patches = [] ∧ state.deletes = [] ∧ listed.Perm state.machines ∧
        (match resolveMaxInFlight scaler inputs.owner with
          | .error _ => false
          | .ok value => decide (value = maxInFlight)) = true then
      let plan := reconcileUnhealthyMachines scaler inputs listed
      some { state with patches := plan.patches, deletes := plan.deletes }
    else none
  | .patch succeeds =>
    match state.patches with
    | [] => none
    | [] :: rest =>
      if state.failed then some { state with patches := [], deletes := [], failed := false }
      else some { state with patches := rest }
    | (patch :: phase) :: rest =>
      if succeeds && decide (patch.name ∈ state.machines.map Machine.name) then
        some { state with
          patches := phase :: rest, machines := updateMachine patch.name (applyPatch patch) state.machines }
      else some { state with patches := phase :: rest, failed := true }
  | .delete succeeds =>
    match state.patches, state.deletes with
    | [], name :: rest =>
      if succeeds then
        some { state with
          deletes := rest, machines := updateMachine name markDeleting state.machines
          remediated := name :: state.remediated }
      else some { state with deletes := rest }
    | _, _ => none
  | .check name check => some { state with machines := updateMachine name (checkTarget check) state.machines }
  | .removed name =>
    some { state with machines := state.machines.filter fun machine => !(machine.name = name && machine.deleting) }
  | .created machine =>
    if state.knows machine.name then none else some { state with machines := machine :: state.machines }
  | .deletedByOthers name => some { state with machines := updateMachine name markDeleting state.machines }

/-- Machines that were deleted for remediation and still exist. -/
def remediating (state : State) : Nat := state.machines.countP fun machine => machine.name ∈ state.remediated

/-- The health check does not reopen the remediation of a Machine that the
controller has deleted, or is about to delete. -/
def LeavesInFlight (state : State) : Action → Prop
  | .check name check => ∀ machine ∈ state.machines, machine.name = name →
      reopensRemediation check machine = true → name ∉ state.remediated ∧ name ∉ state.deletes
  | _ => True

instance (state : State) : (action : Action) → Decidable (LeavesInFlight state action)
  | .check name check => inferInstanceAs (Decidable (∀ machine ∈ state.machines, machine.name = name →
      reopensRemediation check machine = true → name ∉ state.remediated ∧ name ∉ state.deletes))
  | .begin _ _ => isTrue trivial
  | .patch _ => isTrue trivial
  | .delete _ => isTrue trivial
  | .removed _ => isTrue trivial
  | .created _ => isTrue trivial
  | .deletedByOthers _ => isTrue trivial

/-! ## Changing one Machine -/

variable {name : String} {change : Machine → Machine} {machines : List Machine}

theorem updateMachine_names (kept : ∀ machine, (change machine).name = machine.name) :
    (updateMachine name change machines).map Machine.name = machines.map Machine.name := by
  rw [updateMachine, map_map]
  apply map_congr_left
  intro machine _
  simp only [Function.comp_apply]
  split_ifs
  · exact kept machine
  · rfl

theorem mem_updateMachine {machine : Machine} (member : machine ∈ updateMachine name change machines) :
    ∃ original ∈ machines, machine = change original ∧ original.name = name ∨
      machine = original ∧ original.name ≠ name := by
  rcases mem_map.mp member with ⟨original, inside, rfl⟩
  refine ⟨original, inside, ?_⟩
  split_ifs with named
  · exact .inl ⟨rfl, named⟩
  · exact .inr ⟨rfl, named⟩

/-! ## The invariant -/

/-- The patch reports the remediation as completed. -/
def marks (patch : Patch) : Prop := patch.ownerRemediated = .set { status := .isTrue }

structure Invariant (maxInFlight : Int) (state : State) : Prop where
  names : (state.machines.map Machine.name).Nodup
  /-- The controller counts every Machine it has deleted. -/
  counted : ∀ machine ∈ state.machines, machine.name ∈ state.remediated → isInFlight machine = true
  budget : (remediating state : Int) + state.deletes.length ≤ maxInFlight
  /-- A Machine is marked by the time it is deleted, unless the reconcile stops before. -/
  ready : ∀ name ∈ state.deletes, state.failed = true ∨
    (∃ patch ∈ state.patches.flatten, patch.name = name ∧ marks patch) ∨
    ∀ machine ∈ state.machines, machine.name = name → Conditions.isTrue machine.ownerRemediated = true
  unfailed : state.patches = [] → state.failed = false
  withdrawn : ∀ patch ∈ state.patches.flatten, keepsTrue patch.ownerRemediated = false →
    patch.name ∉ state.deletes ∧ patch.name ∉ state.remediated

theorem remediating_eq (state : State) :
    remediating state = (state.machines.map Machine.name).countP fun name => name ∈ state.remediated := by
  rw [countP_map]
  rfl

variable {maxInFlight : Int} {state : State}

theorem Invariant.update (invariant : Invariant maxInFlight state)
    (nameKept : ∀ machine, (change machine).name = machine.name)
    (countedKept : ∀ machine ∈ state.machines, machine.name = name → name ∈ state.remediated →
      isInFlight machine = true → isInFlight (change machine) = true)
    (markKept : ∀ machine ∈ state.machines, machine.name = name → name ∈ state.deletes →
      Conditions.isTrue machine.ownerRemediated = true →
      Conditions.isTrue (change machine).ownerRemediated = true) :
    Invariant maxInFlight { state with machines := updateMachine name change state.machines } where
  names := by
    rw [updateMachine_names nameKept]
    exact invariant.names
  counted := by
    intro machine member deleted
    rcases mem_updateMachine member with ⟨original, inside, ⟨rfl, named⟩ | ⟨rfl, _⟩⟩
    · rw [nameKept] at deleted
      exact countedKept original inside named (named ▸ deleted) (invariant.counted original inside deleted)
    · exact invariant.counted machine inside deleted
  budget := by
    have budget := invariant.budget
    rw [remediating_eq] at budget ⊢
    rwa [updateMachine_names nameKept]
  ready := by
    intro deleted member
    rcases invariant.ready deleted member with failed | pending | marked
    · exact .inl failed
    · exact .inr (.inl pending)
    · refine .inr (.inr fun machine changed named => ?_)
      rcases mem_updateMachine changed with ⟨original, inside, ⟨rfl, isName⟩ | ⟨rfl, _⟩⟩
      · rw [nameKept] at named
        exact markKept original inside isName (isName ▸ named ▸ member) (marked original inside named)
      · exact marked machine inside named
  unfailed := invariant.unfailed
  withdrawn := invariant.withdrawn

theorem Invariant.dropPatch (invariant : Invariant maxInFlight state) {patch : Patch} {phase : List Patch}
    {rest : List (List Patch)} (pending : state.patches = (patch :: phase) :: rest) {failed : Bool}
    (done : failed = true ∨ failed = state.failed ∧ (marks patch → ∀ machine ∈ state.machines,
      machine.name = patch.name → Conditions.isTrue machine.ownerRemediated = true)) :
    Invariant maxInFlight { state with patches := phase :: rest, failed := failed } where
  names := invariant.names
  counted := invariant.counted
  budget := invariant.budget
  ready := by
    intro deleted member
    rcases done with failed | ⟨same, marked⟩
    · exact .inl failed
    rcases invariant.ready deleted member with failed | ⟨other, inside, named, marks⟩ | marked
    · exact .inl (same.trans failed)
    · rw [pending, flatten_cons, cons_append, mem_cons] at inside
      rcases inside with rfl | inside
      · exact .inr (.inr fun machine listed sameName => marked marks machine listed (sameName.trans named.symm))
      · exact .inr (.inl ⟨other, inside, named, marks⟩)
    · exact .inr (.inr marked)
  unfailed := by
    intro impossible
    cases impossible
  withdrawn := by
    intro other inside
    apply invariant.withdrawn other
    rw [pending, flatten_cons, cons_append]
    exact mem_cons_of_mem _ inside

/-! ## What each step keeps -/

section

variable (invariant : Invariant maxInFlight state) {rest : List (List Patch)}
include invariant

theorem Invariant.begin (idle : state.patches = [] ∧ state.deletes = []) {listed : List Machine}
    (order : listed.Perm state.machines) {plan : Plan} (planned : Planned maxInFlight listed plan) :
    Invariant maxInFlight { state with patches := plan.patches, deletes := plan.deletes } where
  names := invariant.names
  counted := invariant.counted
  budget := by
    have budget := invariant.budget
    rw [idle.2] at budget
    rcases planned.budget with none | within
    · rw [none]
      exact budget
    · -- The controller's own count is at least the number of Machines it has deleted.
      have le : remediating state ≤ listed.countP isInFlight := by
        rw [order.countP_eq]
        apply countP_mono_left
        intro machine member deleted
        exact invariant.counted machine member (of_decide_eq_true deleted)
      change (remediating state : Int) + plan.deletes.length ≤ _
      omega
  ready := by
    intro name member
    exact .inr (.inl (planned.marked name member))
  unfailed := by
    intro _
    exact invariant.unfailed idle.1
  withdrawn := by
    intro patch member withdraws
    rcases planned.withdrawn patch member withdraws with ⟨kept, machine, inside, named, alive⟩
    refine ⟨kept, fun deleted => ?_⟩
    have inFlight := invariant.counted machine (order.mem_iff.mp inside) (named ▸ deleted)
    rw [isInFlight, alive] at inFlight
    cases inFlight

theorem Invariant.patch {patch : Patch} {phase : List Patch}
    (pending : state.patches = (patch :: phase) :: rest) : Invariant maxInFlight
      { state with patches := phase :: rest, machines := updateMachine patch.name (applyPatch patch) state.machines } := by
  have keeps : patch.name ∈ state.deletes ∨ patch.name ∈ state.remediated → keepsTrue patch.ownerRemediated = true := by
    intro involved
    by_contra withdraws
    rw [Bool.not_eq_true] at withdraws
    have excluded := invariant.withdrawn patch (by rw [pending]; simp) withdraws
    rcases involved with deleted | deleted
    · exact excluded.1 deleted
    · exact excluded.2 deleted
  have updated : Invariant maxInFlight
      { state with machines := updateMachine patch.name (applyPatch patch) state.machines } := by
    refine invariant.update (fun _ => rfl) ?_ ?_
    · intro machine _ _ deleted inFlight
      rw [isInFlight, Bool.and_eq_true] at inFlight ⊢
      exact ⟨inFlight.1, isTrue_apply_of_keepsTrue (keeps (.inr deleted)) inFlight.2⟩
    · intro machine _ _ deleted marked
      exact isTrue_apply_of_keepsTrue (keeps (.inl deleted)) marked
  apply updated.dropPatch pending
  refine .inr ⟨rfl, fun isMark machine member named => ?_⟩
  rcases mem_updateMachine member with ⟨original, _, ⟨rfl, _⟩ | ⟨rfl, different⟩⟩
  · change Conditions.isTrue (patch.ownerRemediated.apply original.ownerRemediated) = true
    rw [isMark]
    rfl
  · exact absurd named different

theorem Invariant.endPhase (pending : state.patches = [] :: rest)
    (unfailed : state.failed = false) : Invariant maxInFlight { state with patches := rest } where
  names := invariant.names
  counted := invariant.counted
  budget := invariant.budget
  ready := by
    intro name member
    have ready := invariant.ready name member
    rwa [pending] at ready
  unfailed := fun _ => unfailed
  withdrawn := by
    intro patch _
    apply invariant.withdrawn patch
    rwa [pending]

theorem Invariant.abort : Invariant maxInFlight { state with patches := [], deletes := [], failed := false } where
  names := invariant.names
  counted := invariant.counted
  budget := by
    have budget := invariant.budget
    change (remediating state : Int) + (0 : Nat) ≤ _
    omega
  ready := by
    intro _ member
    cases member
  unfailed := fun _ => rfl
  withdrawn := by
    intro _ member
    cases member

end

theorem countP_cons_le {names deleted : List String} (nodup : names.Nodup) (name : String) :
    (names.countP fun other => other ∈ name :: deleted) ≤ (names.countP fun other => other ∈ deleted) + 1 := by
  have once := nodup_iff_count_le_one.mp nodup name
  have split := countP_eq_countP_filter_add names (fun other => other ∈ name :: deleted) (· == name)
  have own : ((names.filter (· == name)).countP fun other => other ∈ name :: deleted) ≤ names.count name :=
    countP_le_length.trans_eq countP_eq_length_filter.symm
  have others : ((names.filter fun other => !(other == name)).countP fun other => other ∈ name :: deleted) ≤
      names.countP fun other => other ∈ deleted := by
    rw [countP_filter]
    apply countP_mono_left
    intro other _ both
    simp only [mem_cons, Bool.and_eq_true, decide_eq_true_eq, Bool.not_eq_true', beq_eq_false_iff_ne] at both ⊢
    exact both.1.resolve_left both.2
  omega

section

variable (invariant : Invariant maxInFlight state) {rest : List String}
include invariant

theorem Invariant.delete (noPatches : state.patches = []) (pending : state.deletes = name :: rest) :
    Invariant maxInFlight
      { state with
        deletes := rest, machines := updateMachine name markDeleting state.machines
        remediated := name :: state.remediated } := by
  have unfailed := invariant.unfailed noPatches
  have marked : ∀ deleted ∈ state.deletes, ∀ machine ∈ state.machines, machine.name = deleted →
      Conditions.isTrue machine.ownerRemediated = true := by
    intro deleted member
    rcases invariant.ready deleted member with failed | ⟨patch, inside, _⟩ | marked
    · rw [unfailed] at failed
      cases failed
    · rw [noPatches] at inside
      cases inside
    · exact marked
  have namesEq : (updateMachine name markDeleting state.machines).map Machine.name = state.machines.map Machine.name :=
    updateMachine_names fun _ => rfl
  refine ⟨namesEq ▸ invariant.names, ?_, ?_, ?_, fun _ => unfailed, ?_⟩
  · intro machine member deleted
    rcases mem_updateMachine member with ⟨original, inside, ⟨rfl, named⟩ | ⟨rfl, different⟩⟩
    · have isMarked := marked name (pending ▸ mem_cons_self) original inside named
      exact isMarked
    · rcases mem_cons.mp deleted with same | deleted
      · exact absurd same different
      · exact invariant.counted machine inside deleted
  · have budget := invariant.budget
    have oneMore := @countP_cons_le _ state.remediated invariant.names name
    rw [remediating_eq, pending, length_cons] at budget
    rw [remediating_eq, namesEq]
    push_cast at budget ⊢
    omega
  · intro other member
    refine .inr (.inr fun machine changed named => ?_)
    have pendingOther := pending ▸ mem_cons_of_mem name member
    rcases mem_updateMachine changed with ⟨original, inside, ⟨rfl, _⟩ | ⟨rfl, _⟩⟩
    · exact marked other pendingOther original inside named
    · exact marked other pendingOther machine inside named
  · intro _ member
    rw [noPatches] at member
    cases member

theorem Invariant.skipDelete (pending : state.deletes = name :: rest) :
    Invariant maxInFlight { state with deletes := rest } where
  names := invariant.names
  counted := invariant.counted
  budget := by
    have budget := invariant.budget
    rw [pending, length_cons] at budget
    change (remediating state : Int) + rest.length ≤ _
    omega
  ready := by
    intro other member
    exact invariant.ready other (pending ▸ mem_cons_of_mem name member)
  unfailed := invariant.unfailed
  withdrawn := by
    intro patch member withdraws
    rcases invariant.withdrawn patch member withdraws with ⟨unplanned, undeleted⟩
    exact ⟨fun inside => unplanned (pending ▸ mem_cons_of_mem name inside), undeleted⟩

theorem Invariant.check {check : Check} (leaves : LeavesInFlight state (.check name check)) :
    Invariant maxInFlight { state with machines := updateMachine name (checkTarget check) state.machines } := by
  have kept : ∀ machine ∈ state.machines, machine.name = name → name ∈ state.remediated ∨ name ∈
      state.deletes → Conditions.isTrue machine.ownerRemediated = true →
      Conditions.isTrue (checkTarget check machine).ownerRemediated = true := by
    intro machine member named involved completed
    have keeps : reopensRemediation check machine = false := by
      by_contra reopens
      rw [Bool.not_eq_false] at reopens
      have excluded := leaves machine member named reopens
      rcases involved with deleted | deleted
      · exact excluded.1 deleted
      · exact excluded.2 deleted
    rw [MachineHealthCheck.checkTarget_ownerRemediated completed keeps]
    exact completed
  refine invariant.update (MachineHealthCheck.checkTarget_name check) ?_ ?_
  · intro machine member named deleted inFlight
    rw [isInFlight, Bool.and_eq_true] at inFlight ⊢
    rw [MachineHealthCheck.checkTarget_deleting]
    exact ⟨inFlight.1, kept machine member named (.inl deleted) inFlight.2⟩
  · intro machine member named deleted marked
    exact kept machine member named (.inr deleted) marked

theorem Invariant.deletedByOthers (name : String) :
    Invariant maxInFlight { state with machines := updateMachine name markDeleting state.machines } := by
  refine invariant.update (fun _ => rfl) ?_ fun _ _ _ _ marked => marked
  intro _ _ _ _ inFlight
  rw [isInFlight, Bool.and_eq_true] at inFlight
  exact inFlight.2

theorem Invariant.removed (keep : Machine → Bool) :
    Invariant maxInFlight { state with machines := state.machines.filter keep } where
  names := invariant.names.sublist (List.filter_sublist.map _)
  counted := by
    intro machine member
    exact invariant.counted machine (mem_of_mem_filter member)
  budget := by
    have fewer : ((state.machines.filter keep).countP fun machine => machine.name ∈ state.remediated) ≤
        remediating state := Sublist.countP_le filter_sublist
    have budget := invariant.budget
    change (((state.machines.filter keep).countP fun machine => machine.name ∈ state.remediated : Nat) : Int) +
      state.deletes.length ≤ _
    omega
  ready := by
    intro name member
    rcases invariant.ready name member with failed | pending | marked
    · exact .inl failed
    · exact .inr (.inl pending)
    · exact .inr (.inr fun machine inside => marked machine (mem_of_mem_filter inside))
  unfailed := invariant.unfailed
  withdrawn := invariant.withdrawn

theorem Invariant.created {machine : Machine} (fresh : state.knows machine.name = false) :
    Invariant maxInFlight { state with machines := machine :: state.machines } := by
  simp only [State.knows, Bool.or_eq_false_iff, decide_eq_false_iff_not] at fresh
  rcases fresh with ⟨⟨⟨unlisted, undeleted⟩, unplanned⟩, _⟩
  refine ⟨nodup_cons.mpr ⟨unlisted, invariant.names⟩, ?_, ?_, ?_, invariant.unfailed, invariant.withdrawn⟩
  · intro other member deleted
    rcases mem_cons.mp member with rfl | member
    · exact absurd deleted undeleted
    · exact invariant.counted other member deleted
  · have budget := invariant.budget
    rw [remediating, countP_cons_of_neg (by simpa using undeleted)]
    exact budget
  · intro name member
    rcases invariant.ready name member with failed | pending | marked
    · exact .inl failed
    · exact .inr (.inl pending)
    · refine .inr (.inr fun other inside named => ?_)
      rcases mem_cons.mp inside with rfl | inside
      · exact absurd (named ▸ member) unplanned
      · exact marked other inside named

theorem Invariant.step {scaler : Scaler} {action : Action}
    {next : State} (leaves : LeavesInFlight state action)
    (taken : MachineSet.step scaler maxInFlight state action = some next) : Invariant maxInFlight next := by
  cases action with
  | begin inputs =>
    simp only [MachineSet.step, Option.ite_none_right_eq_some, Option.some.injEq] at taken
    rcases taken with ⟨⟨noPatches, noDeletes, order, resolves⟩, rfl⟩
    have resolved : resolveMaxInFlight scaler inputs.owner = .ok maxInFlight := by
      split at resolves
      · cases resolves
      · rename_i found
        rw [found, of_decide_eq_true resolves]
    apply invariant.begin ⟨noPatches, noDeletes⟩ order
    exact reconcileUnhealthyMachines_planned ((order.map _).nodup_iff.mpr invariant.names) resolved
  | patch =>
    simp only [MachineSet.step] at taken
    split at taken
    · cases taken
    · rename_i rest pending
      split_ifs at taken with failed
      · cases taken
        exact invariant.abort
      · cases taken
        exact invariant.endPhase pending (Bool.not_eq_true _ ▸ failed)
    · rename_i rest pending
      split_ifs at taken with done
      · cases taken
        exact invariant.patch pending
      · cases taken
        exact invariant.dropPatch pending (.inl rfl)
  | delete =>
    simp only [MachineSet.step] at taken
    split at taken
    · rename_i name _ noPatches pending
      split_ifs at taken with done
      · cases taken
        exact invariant.delete noPatches pending
      · cases taken
        exact invariant.skipDelete pending
    · cases taken
  | check =>
    cases taken
    exact invariant.check leaves
  | removed =>
    cases taken
    exact invariant.removed _
  | created =>
    simp only [MachineSet.step, Option.ite_none_left_eq_some, Option.some.injEq] at taken
    rcases taken with ⟨fresh, rfl⟩
    exact invariant.created (Bool.not_eq_true _ ▸ fresh)
  | deletedByOthers name =>
    cases taken
    exact invariant.deletedByOthers name

end

/-- As long as the health check leaves remediations in flight alone, at most
`maxInFlight` of the Machines deleted for remediation exist at any time. -/
theorem run_remediating_le (scaler : Scaler) (maxInFlight : Int)
    (positive : 1 ≤ maxInFlight) (machines : List Machine) (names : (machines.map Machine.name).Nodup)
    (schedule : List Action) (final : State)
    (leaves : Meets (step scaler maxInFlight) LeavesInFlight { machines := machines } schedule)
    (executed : execute (step scaler maxInFlight) { machines := machines } schedule = some final) :
    (remediating final : Int) ≤ maxInFlight := by
  have initially : Invariant maxInFlight { machines := machines } := by
    have none : remediating { machines := machines } = 0 := by
      apply countP_eq_zero.mpr
      simp
    refine ⟨names, ?_, ?_, ?_, fun _ => rfl, ?_⟩
    · intro _ _ deleted
      cases deleted
    · simp only [length_nil]
      omega
    · intro _ member
      cases member
    · intro _ member
      cases member
  have invariant : Invariant maxInFlight final :=
    execute_invariant (fun _ _ _ holds leaves taken => holds.step leaves taken) initially leaves executed
  have budget := invariant.budget
  omega

/-! ## Two unhealthy Machines, one at a time -/

def waitingMachine (name : String) (creationTimestamp : Int) : Machine :=
  { name := name, creationTimestamp := creationTimestamp
    healthCheckSucceeded := some { status := .isFalse, reason := "NodeNotFound" }
    ownerRemediated := some (waitingForRemediation "") }

def oneAtATime : Inputs :=
  { owner := some { revision := "1", replicas := some 2, maxInFlight := some (.int 1) }, revision := "1"
    preflightChecks := .passed }

def nodeGone : Check :=
  { verdict := .needsRemediation "NodeNotFound" "" none, remediationAllowed := true, paused := false, request := .unused }

def twoWaiting : List Machine := [waitingMachine "a" 2, waitingMachine "b" 1]

def firstRemediation : List Action :=
  .begin oneAtATime twoWaiting :: List.replicate 5 (.patch true) ++ [.delete true]

def reopened : List Machine :=
  [checkTarget nodeGone (markDeleting (applyPatch ⟨"a", .set { status := .isTrue }, .set machineDeleted⟩
      (waitingMachine "a" 2))),
    applyPatch ⟨"b", .keep, .set (tooManyInProgress oneAtATime.owner)⟩ (waitingMachine "b" 1)]

def secondRemediation : List Action :=
  .begin oneAtATime reopened :: List.replicate 4 (.patch true) ++ [.delete true]

/-- The health check reopens the remediation of a Machine that is still being
deleted; the controller no longer counts it and deletes the other Machine as well. -/
theorem reopening_exceeds_maxInFlight :
    ¬ ∀ schedule final, execute (step getScaledValue 1) { machines := twoWaiting }
      schedule = some final → (remediating final : Int) ≤ 1 := by
  intro bounded
  have twoInFlight : ((execute (step getScaledValue 1) { machines := twoWaiting }
      (firstRemediation ++ .check "a" nodeGone :: secondRemediation)).map remediating) = some 2 := by
    decide +kernel
  rcases Option.map_eq_some_iff.mp twoInFlight with ⟨final, executed, _⟩
  have le := bounded _ final executed
  omega

/-- Without the health check in between, one remediation waits for the other. -/
theorem firstRemediation_le : ∃ final,
    execute (step getScaledValue 1) { machines := twoWaiting }
      (firstRemediation ++ [.check "b" nodeGone]) = some final ∧ remediating final = 1 ∧ (remediating final : Int) ≤ 1 := by
  have oneInFlight : ((execute (step getScaledValue 1) { machines := twoWaiting }
      (firstRemediation ++ [.check "b" nodeGone])).map remediating) = some 1 := by
    decide +kernel
  rcases Option.map_eq_some_iff.mp oneInFlight with ⟨final, executed, count⟩
  refine ⟨final, executed, count, ?_⟩
  exact run_remediating_le getScaledValue 1 (by decide) twoWaiting (by decide)
    (firstRemediation ++ [.check "b" nodeGone]) final (by decide +kernel) executed

end ClusterApi.MachineSet

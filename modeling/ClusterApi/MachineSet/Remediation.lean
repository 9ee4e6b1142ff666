import ClusterApi.Machine.Conditions
import ClusterApi.MachineDeployment.Util

namespace ClusterApi.MachineSet

open List

open MachineDeployment (IntOrString Scaler)

/-!
# Remediation of unhealthy Machines by their MachineSet

`reconcileUnhealthyMachines` reads the Machines once and then writes: phases
of patches, and at last the deletes.  Each phase tries all of its writes, and
a phase in which a patch fails is the last one.  The model computes the writes
from what was read, so that they can be interleaved with those of other
controllers.
-/

/-- The writes of a reconcile, and the error it returns if all of them succeed. -/
structure Plan where
  patches : List (List Patch)
  deletes : List String := []
  outcome : Except String Unit := .ok ()

/-- The MachineDeployment that owns the MachineSet. -/
structure Owner where
  revision : String
  replicas : Option Int32
  /-- `spec.strategy.remediation.maxInFlight` -/
  maxInFlight : Option IntOrString

inductive PreflightChecks
  | passed
  | failed (message : String)
  deriving DecidableEq

structure Inputs where
  /-- The owner, for a MachineSet that is part of a MachineDeployment. -/
  owner : Option Owner
  revision : String
  preflightChecks : PreflightChecks

/-! ## The budget -/

/-- Unhealthy Machines that wait for remediation and are not being deleted. -/
def machinesToRemediate (machines : List Machine) : List Machine :=
  (machines.map cleanedUp).filter fun machine => machine.isUnhealthyAndOwnerRemediated && !machine.deleting

/-- Remediation was triggered, and the Machine still goes through its deletion. -/
def isInFlight (machine : Machine) : Bool := machine.deleting && Conditions.isTrue machine.ownerRemediated

def maxInt : Int := 2 ^ 63 - 1

/-- By default all Machines may be remediated at the same time. -/
def resolveMaxInFlight (scaler : Scaler) (owner : Option Owner) :
    Except String Int :=
  match owner with
  | none => .ok maxInt
  | some owner =>
    match owner.maxInFlight with
    | none => .ok maxInt
    | some maxInFlight =>
      match scaler (some maxInFlight) (owner.replicas.getD 1).toInt true with
      | .error error => .error ("failed to calculate maxInFlight to remediate machines: " ++ error)
      | .ok value => .ok value

/-- What is left of the budget. -/
def tokens (maxInFlight : Int) (machines : List Machine) : Int := maxInFlight - machines.countP isInFlight

/-- From newest to oldest, keeping the order of Machines of the same age. -/
def sortNewestFirst (machines : List Machine) : List Machine :=
  machines.insertionSort fun first second => second.creationTimestamp ≤ first.creationTimestamp

/-! ## The reconcile -/

def patchMachineConditions (machines : List Machine) (v1beta2Condition : Condition)
    (condition : ConditionChange) : List Patch :=
  machines.map fun machine => ⟨machine.name, condition, .set v1beta2Condition⟩

def maxInFlightText (owner : Option Owner) : String :=
  match owner.bind Owner.maxInFlight with
  | none => ""
  | some (.int value) => toString value
  | some (.text text) => text

def cannotBeRemediated : Condition :=
  { status := .isFalse, reason := "CannotBeRemediated"
    message := "Machine won't be remediated because it is pending removal due to rollout" }

def remediationDeferred (message : String) : Condition :=
  { status := .isFalse, reason := "RemediationDeferred", message := message }

def tooManyInProgress (owner : Option Owner) : Condition :=
  remediationDeferred ("Waiting because there are already too many remediations in progress " ++
    "(spec.strategy.remediation.maxInFlight is " ++ maxInFlightText owner ++ ")")

def machineDeleted : Condition :=
  { status := .isFalse, reason := "MachineDeleted", message := "Machine deletionTimestamp set" }

def waitingForRemediation (message : String) : Condition :=
  { status := .isFalse, reason := "WaitingForRemediation", severity := "Warning", message := message }

/-- The patches before the Machines within the budget are deleted, or instead of it. -/
def remediationPatches (preflightChecks : PreflightChecks) (selected : List Machine) : List Patch :=
  match preflightChecks with
  | .failed message =>
    patchMachineConditions selected (remediationDeferred message) (.set (waitingForRemediation message))
  | .passed => patchMachineConditions selected machineDeleted (.set { status := .isTrue })

/-- Only Machines that passed the preflight checks are deleted. -/
def remediationDeletes (preflightChecks : PreflightChecks) (selected : List Machine) : List String :=
  match preflightChecks with
  | .failed _ => []
  | .passed => selected.map Machine.name

def reconcileUnhealthyMachines (scaler : Scaler)
    (inputs : Inputs) (machines : List Machine) : Plan :=
  let cleanup := machines.filterMap cleanupPatch
  let unhealthy := machinesToRemediate machines
  if unhealthy.isEmpty then { patches := [cleanup] }
  else if inputs.owner.any fun owner => owner.revision ≠ inputs.revision then
    { patches := [cleanup, patchMachineConditions unhealthy cannotBeRemediated .keep] }
  else
    match resolveMaxInFlight scaler inputs.owner with
    | .error error => { patches := [cleanup], outcome := .error error }
    | .ok maxInFlight =>
      let available := tokens maxInFlight machines
      if available ≤ 0 then
        { patches := [cleanup, patchMachineConditions unhealthy (tooManyInProgress inputs.owner) .keep] }
      else
        let sorted := sortNewestFirst unhealthy
        let selected := sorted.take available.toNat
        { patches := [cleanup,
            patchMachineConditions (sorted.drop available.toNat) (tooManyInProgress inputs.owner) .keep,
            remediationPatches inputs.preflightChecks selected]
          deletes := remediationDeletes inputs.preflightChecks selected }

/-! ## What a reconcile plans -/

/-- A change after which a completed remediation is still reported. -/
def keepsTrue : ConditionChange → Bool
  | .keep => true
  | .remove => false
  | .set condition => condition.status = .isTrue

theorem isTrue_apply_of_keepsTrue {change : ConditionChange} (keeps : keepsTrue change = true)
    {condition : Option Condition} (completed : Conditions.isTrue condition = true) :
    Conditions.isTrue (change.apply condition) = true := by
  cases change with
  | keep => exact completed
  | remove => cases keeps
  | set => exact keeps

variable {machines : List Machine} {maxInFlight : Int} {v1beta2Condition : Condition}
  {selected : Machine} {patch : Patch}

theorem mem_machinesToRemediate (member : selected ∈ machinesToRemediate machines) :
    ∃ machine ∈ machines, selected = cleanedUp machine ∧ machine.deleting = false ∧
      (cleanedUp machine).isUnhealthyAndOwnerRemediated = true := by
  rcases mem_filter.mp member with ⟨mapped, chosen⟩
  rcases mem_map.mp mapped with ⟨machine, inside, rfl⟩
  rw [Bool.and_eq_true, Bool.not_eq_true'] at chosen
  refine ⟨machine, inside, rfl, ?_, chosen.1⟩
  have alive := chosen.2
  unfold cleanedUp at alive
  split_ifs at alive with deleting
  · exact absurd (deleting.symm.trans alive) (by decide)
  · exact alive

/-- Everything the in-flight count relies on in a reconcile's writes. -/
structure Planned (maxInFlight : Int) (machines : List Machine) (plan : Plan) : Prop where
  /-- Deletes stay within what the count of Machines in flight leaves. -/
  budget : plan.deletes = [] ∨ (plan.deletes.length : Int) + machines.countP isInFlight ≤ maxInFlight
  /-- A Machine is marked before it is deleted. -/
  marked : ∀ name ∈ plan.deletes, ∃ patch ∈ plan.patches.flatten, patch.name = name ∧
    patch.ownerRemediated = .set { status := .isTrue }
  /-- Nothing is withdrawn from Machines that are being deleted, or are about to be. -/
  withdrawn : ∀ patch ∈ plan.patches.flatten, keepsTrue patch.ownerRemediated = false →
    patch.name ∉ plan.deletes ∧ ∃ machine ∈ machines, machine.name = patch.name ∧ machine.deleting = false

theorem mem_cleanup (member : patch ∈ machines.filterMap cleanupPatch)
    (withdraws : keepsTrue patch.ownerRemediated = false) :
    ∃ machine ∈ machines, machine.name = patch.name ∧ machine.deleting = false ∧ shouldCleanup machine = true := by
  rcases mem_filterMap.mp member with ⟨machine, inside, isPatch⟩
  unfold cleanupPatch at isPatch
  split_ifs at isPatch with cleans
  cases isPatch
  rw [Bool.and_eq_true, Bool.not_eq_true'] at cleans
  refine ⟨machine, inside, rfl, cleans.1, ?_⟩
  by_contra recovered
  simp only [removeIf, recovered, if_false, keepsTrue] at withdraws
  cases withdraws

theorem Planned.of_no_deletes {further : List (List Patch)} {outcome : Except String Unit}
    (keeps : ∀ patch ∈ further.flatten, keepsTrue patch.ownerRemediated = false → ∃ machine ∈ machines,
      machine.name = patch.name ∧ machine.deleting = false) :
    Planned maxInFlight machines { patches := machines.filterMap cleanupPatch :: further, outcome := outcome } where
  budget := .inl rfl
  marked := by
    intro _ member
    cases member
  withdrawn := by
    intro patch member withdraws
    refine ⟨not_mem_nil, ?_⟩
    rw [flatten_cons, mem_append] at member
    rcases member with cleanup | member
    · rcases mem_cleanup cleanup withdraws with ⟨machine, inside, named, alive, _⟩
      exact ⟨machine, inside, named, alive⟩
    · exact keeps patch member withdraws

theorem mem_patchMachineConditions {condition : ConditionChange}
    (member : patch ∈ patchMachineConditions machines v1beta2Condition condition) :
    patch.ownerRemediated = condition ∧ ∃ machine ∈ machines, machine.name = patch.name := by
  rcases mem_map.mp member with ⟨machine, inside, rfl⟩
  exact ⟨rfl, machine, inside, rfl⟩

theorem Planned.of_deferral {unhealthy : List Machine} :
    Planned maxInFlight machines
      { patches := [machines.filterMap cleanupPatch, patchMachineConditions unhealthy v1beta2Condition .keep] } := by
  apply Planned.of_no_deletes
  intro _ member withdraws
  rw [flatten_singleton] at member
  rw [(mem_patchMachineConditions member).1] at withdraws
  cases withdraws

theorem mem_selected {count : Nat} (member : selected ∈ (sortNewestFirst (machinesToRemediate machines)).take count) :
    ∃ machine ∈ machines, selected = cleanedUp machine ∧ machine.deleting = false ∧
      (cleanedUp machine).isUnhealthyAndOwnerRemediated = true := by
  have sorted : selected ∈ sortNewestFirst (machinesToRemediate machines) := mem_of_mem_take member
  unfold sortNewestFirst at sorted
  apply mem_machinesToRemediate
  rwa [mem_insertionSort] at sorted

theorem planned_of_tokens (names : (machines.map Machine.name).Nodup) (inputs : Inputs)
    (available : 0 < tokens maxInFlight machines) :
    Planned maxInFlight machines
      { patches := [machines.filterMap cleanupPatch,
          patchMachineConditions ((sortNewestFirst (machinesToRemediate machines)).drop
            (tokens maxInFlight machines).toNat) (tooManyInProgress inputs.owner) .keep,
          remediationPatches inputs.preflightChecks ((sortNewestFirst (machinesToRemediate machines)).take
            (tokens maxInFlight machines).toNat)]
        deletes := remediationDeletes inputs.preflightChecks ((sortNewestFirst (machinesToRemediate machines)).take
          (tokens maxInFlight machines).toNat) } := by
  generalize selectedEq : (sortNewestFirst (machinesToRemediate machines)).take
    (tokens maxInFlight machines).toNat = selected
  have fromMachines : ∀ machine ∈ selected, ∃ original ∈ machines, machine = cleanedUp original ∧
      original.deleting = false ∧ (cleanedUp original).isUnhealthyAndOwnerRemediated = true :=
    fun machine member => mem_selected (selectedEq ▸ member)
  cases inputs.preflightChecks with
  | failed =>
    apply Planned.of_no_deletes
    intro patch member withdraws
    simp only [flatten_cons, flatten_nil, append_nil, mem_append] at member
    rcases member with deferred | marked
    · rw [(mem_patchMachineConditions deferred).1] at withdraws
      cases withdraws
    · rcases (mem_patchMachineConditions marked).2 with ⟨machine, inside, named⟩
      rcases fromMachines machine inside with ⟨original, listed, rfl, alive, _⟩
      exact ⟨original, listed, (cleanedUp_name original).symm.trans named, alive⟩
  | passed =>
    refine ⟨.inr ?_, ?_, ?_⟩
    · have short : selected.length ≤ (tokens maxInFlight machines).toNat := selectedEq ▸ length_take_le _ _
      simp only [remediationDeletes, length_map]
      unfold tokens at available short
      omega
    · intro _ member
      rcases mem_map.mp member with ⟨machine, inside, rfl⟩
      refine ⟨⟨machine.name, .set { status := .isTrue }, .set machineDeleted⟩, ?_, rfl, rfl⟩
      simp only [flatten_cons, flatten_nil, append_nil, mem_append]
      exact .inr (.inr (mem_map.mpr ⟨machine, inside, rfl⟩))
    · intro _ member withdraws
      simp only [flatten_cons, flatten_nil, append_nil, mem_append] at member
      rcases member with cleanup | deferred | marked
      · rcases mem_cleanup cleanup withdraws with ⟨machine, inside, named, alive, recovered⟩
        refine ⟨fun deleted => ?_, machine, inside, named, alive⟩
        rcases mem_map.mp deleted with ⟨chosen, chosenInside, chosenNamed⟩
        rcases fromMachines chosen chosenInside with ⟨original, listed, rfl, _, unhealthy⟩
        -- Names are unique, so the Machine would be selected although its request was withdrawn.
        have same : original = machine := by
          apply inj_on_of_nodup_map names listed inside
          rw [named, ← chosenNamed, cleanedUp_name]
        rw [same, cleanedUp_not_selected alive recovered] at unhealthy
        cases unhealthy
      · rw [(mem_patchMachineConditions deferred).1] at withdraws
        cases withdraws
      · rw [(mem_patchMachineConditions marked).1] at withdraws
        cases withdraws

theorem reconcileUnhealthyMachines_planned {scaler : Scaler}
    {inputs : Inputs} (names : (machines.map Machine.name).Nodup)
    (resolves : resolveMaxInFlight scaler inputs.owner = .ok maxInFlight) :
    Planned maxInFlight machines (reconcileUnhealthyMachines scaler inputs machines) := by
  unfold reconcileUnhealthyMachines
  rw [resolves]
  dsimp only
  split_ifs with nothing outdated exhausted
  · apply Planned.of_no_deletes
    intro _ member
    cases member
  · exact .of_deferral
  · exact .of_deferral
  · exact planned_of_tokens names inputs (not_le.mp exhausted)

end ClusterApi.MachineSet

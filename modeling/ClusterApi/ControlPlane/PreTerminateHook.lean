import ClusterApi.ControlPlane.Etcd
import ClusterApi.Foundation.Keyed
import ClusterApi.Util.Version

namespace ClusterApi.ControlPlane.PreTerminateHook

open Foundation List

/-!
# The pre-terminate hook of control plane Machines

The controller puts an annotation on its Machines that keeps the
infrastructure of a deleted Machine alive.  It takes the annotation away from
one deleting Machine at a time, after it has removed the etcd member of that
Machine, and waits until the Machine is gone before it turns to the next one.

A reconcile reads the Machines once and works on what it read.  In the runs
below everything else goes on meanwhile.
-/

/-! ## The hook -/

def preTerminateDeleteHookAnnotationPrefix : String := "pre-terminate.delete.hook.machine.cluster.x-k8s.io"

def preTerminateHookCleanup : String := preTerminateDeleteHookAnnotationPrefix ++ "/kcp-cleanup"

/-- A control plane Machine with what the hook reads of it. -/
structure HookedMachine extends KcpMachine where
  namespaceName : String := "default"
  /-- The deletion timestamp of a Machine that is being deleted. -/
  deletedAt : Int := 0
  /-- The keys of the annotations. -/
  annotations : List String := []
  preTerminateDeleteHookSucceeded : Option Condition := none
  deriving DecidableEq

namespace HookedMachine

def key (machine : HookedMachine) : String := machine.namespaceName ++ "/" ++ machine.name

def hasHook (machine : HookedMachine) : Bool := machine.annotations.contains preTerminateHookCleanup

def machineHasOtherPreTerminateHooks (machine : HookedMachine) : Bool :=
  machine.annotations.any fun key =>
    preTerminateDeleteHookAnnotationPrefix.toList.isPrefixOf key.toList && key ≠ preTerminateHookCleanup

/-- The Machine controller is waiting for the hook. -/
def isWaiting (machine : HookedMachine) : Bool :=
  machine.preTerminateDeleteHookSucceeded.any fun condition =>
    condition.status = .isFalse && condition.reason = "WaitingExternalHook"

/-- The annotation of `computeDesiredMachine`. -/
def withHook (machine : HookedMachine) : HookedMachine :=
  if machine.hasHook then machine
  else { machine with annotations := preTerminateHookCleanup :: machine.annotations }

def withoutHook (machine : HookedMachine) : HookedMachine :=
  { machine with annotations := machine.annotations.filter fun key => key ≠ preTerminateHookCleanup }

end HookedMachine

/-- By deletion timestamp, with the name as a tie breaker. -/
def deletedBefore (first second : HookedMachine) : Bool :=
  if first.deletedAt = second.deletedAt then first.name ≤ second.name else first.deletedAt < second.deletedAt

def oldestDeletionTimestamp (machines : List HookedMachine) : Option HookedMachine :=
  (machines.insertionSort fun first second => deletedBefore first second = true).head?

/-- What a reconcile is told by the calls it makes. -/
structure HookCalls where
  version : String
  /-- What the version of the control plane is parsed to. -/
  parsedVersion : Except String Version
  /-- The error of `GetWorkloadCluster`. -/
  workloadCluster : Option String := none
  removal : MemberRemoval
  /-- The answer to the patch of the Machine; its error has this text. -/
  patch : Reply := .ok
  patchError : String := ""

/-- A reconcile ends without anything to do, by a requeue or by an error. -/
structure HookOutcome where
  result : Except String Bool
  etcd : EtcdCluster
  /-- The Machine whose hook is gone. -/
  released : Option HookedMachine := none

/-- Forward the leadership to the newest Machine that is not being deleted, if there is one. -/
def moveLeadership (calls : HookCalls) (etcd : EtcdCluster) (machines : List HookedMachine)
    (deletingMachine : HookedMachine) : Except String EtcdCluster :=
  match newest ((machines.filter fun machine => !machine.deleting).map HookedMachine.toKcpMachine) with
  | none => .ok etcd
  | some candidate =>
    match forwardEtcdLeadership calls.removal.toEtcdAccess etcd deletingMachine.toKcpMachine
      (some candidate) with
    | .error error => .error (wrap ("failed to move leadership to candidate Machine " ++ candidate.name) error)
    | .ok moved => .ok moved

/-- What happens in etcd before a Machine of several is let go. -/
def detachEtcdMember (calls : HookCalls) (isEtcdManaged : Bool) (etcd : EtcdCluster) (machines : List HookedMachine)
    (deletingMachine : HookedMachine) : Except String PUnit × EtcdCluster :=
  if 1 < machines.length && isEtcdManaged then
    match calls.workloadCluster with
    | some error => (.error (wrap ("failed to remove etcd member for deleting Machine " ++ deletingMachine.key ++
        ": failed to create client to workload cluster") error), etcd)
    | none =>
      match moveLeadership calls etcd machines deletingMachine with
      | .error error => (.error error, etcd)
      | .ok moved =>
        match removeEtcdMemberForMachine calls.removal moved deletingMachine.toKcpMachine with
        | (.error error, left) =>
          (.error (wrap ("failed to remove etcd member for deleting Machine " ++ deletingMachine.key) error), left)
        | (.ok _, left) => (.ok (), left)
  else (.ok (), etcd)

def reconcilePreTerminateHook (calls : HookCalls) (isEtcdManaged : Bool) (etcd : EtcdCluster)
    (machines : List HookedMachine) : HookOutcome :=
  let deletingMachines := machines.filter fun machine => machine.deleting
  match oldestDeletionTimestamp deletingMachines with
  | none => { result := .ok false, etcd }
  | some deletingMachine =>
    -- one Machine without the hook is on its way already
    if deletingMachines.any fun machine => !machine.hasHook then { result := .ok true, etcd }
    else
      match calls.parsedVersion with
      | .error error =>
        { result := .error (wrap ("failed to parse Kubernetes version " ++ quote calls.version) error), etcd }
      | .ok parsedVersion =>
        if 0 ≤ Util.compare parsedVersion (Version.release 1 31 0) { withoutPreReleases := true } &&
            deletingMachine.machineHasOtherPreTerminateHooks then { result := .ok true, etcd }
        else if !deletingMachine.isWaiting then { result := .ok true, etcd }
        else
          match detachEtcdMember calls isEtcdManaged etcd machines deletingMachine with
          | (.error error, left) => { result := .error error, etcd := left }
          | (.ok _, left) =>
            let error := wrap ("failed to remove pre-terminate hook from control plane Machine " ++
              deletingMachine.key) calls.patchError
            match calls.patch with
            | .ok => { result := .ok true, etcd := left, released := some deletingMachine }
            | .failed => { result := .error error, etcd := left }
            | .lost => { result := .error error, etcd := left, released := some deletingMachine }

section Outcome

variable {calls : HookCalls} {isEtcdManaged : Bool} {etcd left : EtcdCluster} {machines : List HookedMachine}
variable {machine : HookedMachine}

theorem detachEtcdMember_ok (several : 1 < machines.length)
    (detached : detachEtcdMember calls true etcd machines machine = (.ok (), left)) :
    ∀ member ∈ left.members, ¬ Hosts machine.toKcpMachine member := by
  simp only [detachEtcdMember, several, decide_true, Bool.and_self, if_true] at detached
  split at detached
  · cases detached
  · split at detached
    · cases detached
    · split at detached
      · cases detached
      case h_2 moved _ _ _ removed =>
        cases detached
        exact removeEtcdMemberForMachine_ok removed

theorem reconcilePreTerminateHook_released {outcome : HookOutcome}
    (ran : reconcilePreTerminateHook calls isEtcdManaged etcd machines = outcome)
    (released : outcome.released = some machine) :
    machine ∈ machines ∧ machine.deleting = true ∧
      (∀ other ∈ machines, other.deleting = true → other.hasHook = true) ∧
      detachEtcdMember calls isEtcdManaged etcd machines machine = (.ok (), outcome.etcd) := by
  unfold reconcilePreTerminateHook at ran
  dsimp only at ran
  split at ran
  case h_1 => rw [← ran] at released; cases released
  case h_2 deletingMachine found =>
    have member := mem_of_head? found
    rw [mem_insertionSort, mem_filter] at member
    split at ran
    case isTrue => rw [← ran] at released; cases released
    case isFalse noneLeft =>
      have hooked : ∀ other ∈ machines, other.deleting = true → other.hasHook = true := by
        intro other inside deleting
        by_contra lacking
        refine noneLeft (any_eq_true.mpr ⟨other, mem_filter.mpr ⟨inside, deleting⟩, ?_⟩)
        simpa using lacking
      split at ran
      case h_1 => rw [← ran] at released; cases released
      case h_2 =>
        split at ran
        case isTrue => rw [← ran] at released; cases released
        case isFalse =>
          split at ran
          case isTrue => rw [← ran] at released; cases released
          case isFalse =>
            split at ran
            case h_1 => rw [← ran] at released; cases released
            case h_2 left detached =>
              split at ran
              case h_2 => rw [← ran] at released; cases released
              all_goals
                rw [← ran] at released ⊢
                cases released
                exact ⟨member.1, member.2, hooked, detached⟩

end Outcome

/-! ## Runs -/

/-- A Machine on the API server, with what only an observer of the run knows. -/
structure TrackedMachine extends HookedMachine where
  /-- The Node that the host of the Machine has registered, whether or not the Machine refers to it. -/
  host : Option String := none
  /-- The controller has removed the hook. -/
  hookRemoved : Bool := false

def TrackedMachine.key (machine : TrackedMachine) : String := machine.name

/-- The Machines of a control plane on the API server. -/
abbrev Machines := Keyed TrackedMachine TrackedMachine.key

/-- The deletion timestamp is set once. -/
def markDeleting (timestamp : Int) (machine : TrackedMachine) : TrackedMachine :=
  if machine.deleting then machine else { machine with deleting := true, deletedAt := timestamp }

/-- Others change everything but the name, the deletion timestamp and the hook. -/
def observe (seen : TrackedMachine) (machine : TrackedMachine) : TrackedMachine :=
  { seen with
    name := machine.name
    deleting := machine.deleting
    deletedAt := machine.deletedAt
    annotations := (if machine.hasHook then [preTerminateHookCleanup] else []) ++
      seen.annotations.filter fun key => key ≠ preTerminateHookCleanup
    hookRemoved := machine.hookRemoved }

/-- The server applies the annotation. -/
def applyHook (machine : TrackedMachine) : TrackedMachine :=
  { machine with toHookedMachine := machine.toHookedMachine.withHook }

def releaseHook (machine : TrackedMachine) : TrackedMachine :=
  { machine with toHookedMachine := machine.toHookedMachine.withoutHook, hookRemoved := true }

/-- A Machine goes away once it is being deleted and its hook is gone. -/
def isLeaving (name : String) (machine : TrackedMachine) : Bool :=
  machine.name = name && machine.deleting && !machine.hasHook

/-- The removal of a hook: what was read of the Machine, the Machines there were, and etcd at that moment. -/
structure Removal where
  machine : HookedMachine
  host : Option String
  count : Nat
  etcd : EtcdCluster

/-- How far a reconcile has come.  It syncs one Machine after the other. -/
inductive Phase
  | idle
  | syncing (done rest : List HookedMachine)

structure ControlPlaneState where
  machines : Machines
  etcd : EtcdCluster
  phase : Phase
  removals : List Removal

inductive Action
  /-- A reconcile reads the Machines, in any order. -/
  | start (read : List HookedMachine)
  /-- One Machine of `syncMachines`. -/
  | sync (reply : Reply)
  | runHook (calls : HookCalls)
  /-- A reconcile ends, at an error of another call or after other work. -/
  | stop
  | delete (name : String) (timestamp : Int)
  /-- The controller creates or adopts a Machine. -/
  | join (new : TrackedMachine)
  | leave (name : String)
  | observe (name : String) (seen : TrackedMachine)
  | etcd (etcd : EtcdCluster)

theorem markDeleting_key (timestamp : Int) (machine : TrackedMachine) :
    (markDeleting timestamp machine).key = machine.key := by
  unfold markDeleting
  split_ifs
  · rfl
  · rfl

theorem observe_key (seen machine : TrackedMachine) : (observe seen machine).key = machine.key := rfl

theorem applyHook_key (machine : TrackedMachine) : (applyHook machine).key = machine.key := by
  unfold applyHook HookedMachine.withHook
  split_ifs
  · rfl
  · rfl

theorem releaseHook_key (machine : TrackedMachine) : (releaseHook machine).key = machine.key := rfl

/-- `syncMachines` for one Machine.  On a deleting Machine it patches only what the tear down needs. -/
def syncMachine (state : ControlPlaneState) (done : List HookedMachine) (machine : HookedMachine)
    (rest : List HookedMachine) (reply : Reply) : ControlPlaneState :=
  if machine.deleting then
    match reply with
    | .ok => { state with phase := .syncing (done ++ [machine]) rest }
    | _ => { state with phase := .idle }
  else
    match state.machines.find? machine.name with
    | none => { state with phase := .idle }
    | some current =>
      let machines := state.machines.update machine.name applyHook applyHook_key
      match reply with
      | .ok => { state with machines, phase := .syncing (done ++ [(applyHook current).toHookedMachine]) rest }
      | .failed => { state with phase := .idle }
      | .lost => { state with machines, phase := .idle }

/-- The patch of a reconcile that ran the hook reaches the server. -/
def finishHook (state : ControlPlaneState) (outcome : HookOutcome) : ControlPlaneState :=
  let ended := { state with etcd := outcome.etcd, phase := .idle }
  match outcome.released with
  | none => ended
  | some machine =>
    match state.machines.find? machine.name with
    | none => ended
    | some current =>
      { ended with
        machines := state.machines.update machine.name releaseHook releaseHook_key
        removals :=
          { machine
            host := current.host
            count := state.machines.list.length
            etcd := outcome.etcd } :: state.removals }

/-- The control plane manages its etcd and is not being deleted. -/
def step (state : ControlPlaneState) : Action → Option ControlPlaneState
  | .start read =>
    match state.phase with
    | .idle =>
      if read.Perm (state.machines.list.map TrackedMachine.toHookedMachine) then
        some { state with phase := .syncing [] read }
      else none
    | .syncing _ _ => none
  | .sync reply =>
    match state.phase with
    | .syncing done (machine :: rest) => some (syncMachine state done machine rest reply)
    | _ => none
  | .runHook calls =>
    match state.phase with
    | .syncing done [] => some (finishHook state (reconcilePreTerminateHook calls true state.etcd done))
    | _ => none
  | .stop => some { state with phase := .idle }
  | .delete name timestamp =>
    some { state with machines := state.machines.update name (markDeleting timestamp) (markDeleting_key timestamp) }
  | .join new =>
    match state.phase with
    | .idle =>
      if new.hookRemoved then none
      else (state.machines.insert new).map fun machines => { state with machines }
    | .syncing _ _ => none
  | .leave name => some { state with machines := state.machines.keep fun machine => !isLeaving name machine }
  | .observe name seen =>
    some { state with machines := state.machines.update name (observe seen) (observe_key seen) }
  | .etcd etcd => some { state with etcd }

/-! ## What every run keeps -/

/-- A Machine that changes in a way that leaves a removed hook removed. -/
structure Evolves (old new : TrackedMachine) : Prop where
  name : new.name = old.name
  deleting : old.deleting = true → new.deleting = true
  hookRemoved : new.hookRemoved = old.hookRemoved
  hook : old.hookRemoved = true → new.hasHook = old.hasHook

theorem Evolves.refl (machine : TrackedMachine) : Evolves machine machine := ⟨rfl, id, rfl, fun _ => rfl⟩

/-- What a reconcile has read of a Machine, and what has become of the Machine since. -/
structure Seen (read : HookedMachine) (machine : TrackedMachine) : Prop where
  deleting : read.deleting = true → machine.deleting = true
  removed : machine.hookRemoved = true → read.deleting = true ∧ read.hasHook = false

/-- A reconcile has read every Machine that is there. -/
structure Covers (read : List HookedMachine) (machines : Machines) : Prop where
  known : ∀ machine ∈ machines, machine.name ∈ read.map fun found => found.name
  seen : ∀ found ∈ read, ∀ machine ∈ machines, found.name = machine.name → Seen found machine

def Phase.Covers : Phase → Machines → Prop
  | .idle, _ => True
  | .syncing done rest, machines => PreTerminateHook.Covers (done ++ rest) machines

structure Serialised (state : ControlPlaneState) : Prop where
  released : ∀ machine ∈ state.machines, machine.hookRemoved = true →
    machine.deleting = true ∧ machine.hasHook = false
  unique : ∀ first ∈ state.machines, ∀ second ∈ state.machines,
    first.hookRemoved = true → second.hookRemoved = true → first = second
  covered : state.phase.Covers state.machines
  detached : ∀ removal ∈ state.removals, 1 < removal.count →
    ∀ member ∈ removal.etcd.members, ¬ Hosts removal.machine.toKcpMachine member

theorem evolves_applyHook {machine : TrackedMachine} (kept : machine.hookRemoved = false) :
    Evolves machine (applyHook machine) := by
  refine ⟨applyHook_key machine, ?_, rfl, fun removed => ?_⟩
  · intro deleting
    unfold applyHook HookedMachine.withHook
    split_ifs
    · exact deleting
    · exact deleting
  · rw [kept] at removed
    cases removed

theorem evolves_update {machines : Machines} {name : String} {change : TrackedMachine → TrackedMachine}
    {keepsKey : ∀ machine, (change machine).key = machine.key}
    (evolves : ∀ machine ∈ machines, machine.name = name → Evolves machine (change machine)) :
    ∀ new ∈ machines.update name change keepsKey, ∃ old ∈ machines, Evolves old new := by
  intro new inside
  rcases Keyed.mem_update.mp inside with ⟨same, -⟩ | ⟨old, oldInside, isNamed, rfl⟩
  · exact ⟨new, same, .refl new⟩
  · exact ⟨old, oldInside, evolves old oldInside isNamed⟩

theorem Covers.evolve {read : List HookedMachine} {machines after : Machines} (covers : Covers read machines)
    (evolved : ∀ new ∈ after, ∃ old ∈ machines, Evolves old new) : Covers read after := by
  constructor
  case known =>
    intro new inside
    rcases evolved new inside with ⟨old, oldInside, evolves⟩
    rw [evolves.name]
    exact covers.known old oldInside
  case seen =>
    intro found foundInside new inside same
    rcases evolved new inside with ⟨old, oldInside, evolves⟩
    have seen := covers.seen found foundInside old oldInside (same.trans evolves.name)
    constructor
    · intro deleting
      exact evolves.deleting (seen.deleting deleting)
    · intro removed
      exact seen.removed (evolves.hookRemoved ▸ removed)

section Steps

variable {state : ControlPlaneState} {done : List HookedMachine} {machines : Machines}

/-- Whatever happens to the Machines apart from the hook. -/
theorem Serialised.evolve (serialised : Serialised state)
    (evolved : ∀ new ∈ machines, ∃ old ∈ state.machines, Evolves old new) : Serialised { state with machines } := by
  constructor
  case released =>
    intro new inside removed
    rcases evolved new inside with ⟨old, oldInside, evolves⟩
    have oldRemoved : old.hookRemoved = true := evolves.hookRemoved ▸ removed
    rcases serialised.released old oldInside oldRemoved with ⟨deleting, lacking⟩
    exact ⟨evolves.deleting deleting, (evolves.hook oldRemoved).trans lacking⟩
  case unique =>
    intro first firstInside second secondInside firstRemoved secondRemoved
    rcases evolved first firstInside with ⟨oldFirst, oldFirstInside, firstEvolves⟩
    rcases evolved second secondInside with ⟨oldSecond, oldSecondInside, secondEvolves⟩
    have same : oldFirst = oldSecond := by
      apply serialised.unique oldFirst oldFirstInside oldSecond oldSecondInside
      · exact firstEvolves.hookRemoved ▸ firstRemoved
      · exact secondEvolves.hookRemoved ▸ secondRemoved
    apply Keyed.eq_of_key_eq firstInside secondInside
    exact firstEvolves.name.trans ((congrArg TrackedMachine.key same).trans secondEvolves.name.symm)
  case covered =>
    have covered := serialised.covered
    change state.phase.Covers machines
    cases phase : state.phase with
    | idle => trivial
    | syncing =>
      rw [phase] at covered
      exact Covers.evolve covered evolved
  case detached => exact serialised.detached

theorem Serialised.toIdle (serialised : Serialised state) : Serialised { state with phase := .idle } :=
  ⟨serialised.released, serialised.unique, trivial, serialised.detached⟩

variable (serialised : Serialised state)
include serialised

theorem Serialised.syncMachine {rest : List HookedMachine} {machine : HookedMachine}
    (phase : state.phase = .syncing done (machine :: rest)) (reply : Reply) :
    Serialised (syncMachine state done machine rest reply) := by
  have covers : Covers (done ++ machine :: rest) state.machines := by
    have covered := serialised.covered
    rwa [phase] at covered
  unfold PreTerminateHook.syncMachine
  split_ifs with deleting
  · split
    · refine ⟨serialised.released, serialised.unique, ?_, serialised.detached⟩
      change Covers (done ++ [machine] ++ rest) state.machines
      rwa [append_assoc, singleton_append]
    · exact serialised.toIdle
  · split
    case h_1 => exact serialised.toIdle
    case h_2 current found =>
      have isCurrent := Keyed.find?_eq_some.mp found
      -- the hook of a Machine that was read before its deletion has not been removed
      have kept : current.hookRemoved = false := by
        apply Bool.eq_false_iff.mpr
        intro removed
        have seen := covers.seen machine (by simp) current isCurrent.1 isCurrent.2.symm
        exact deleting (seen.removed removed).1
      have evolved := @evolves_update state.machines machine.name applyHook applyHook_key fun other inside isNamed => by
        cases Keyed.eq_of_key_eq inside isCurrent.1 (isNamed.trans isCurrent.2.symm)
        exact evolves_applyHook kept
      have applied := serialised.evolve evolved
      dsimp only
      split
      · refine ⟨applied.released, applied.unique, ?_, applied.detached⟩
        change Covers (done ++ [(applyHook current).toHookedMachine] ++ rest) _
        have before := covers.evolve evolved
        rw [append_assoc, singleton_append]
        constructor
        case known =>
          intro new inside
          have known := before.known new inside
          have same : (applyHook current).name = machine.name := (applyHook_key current).trans isCurrent.2
          simpa only [map_append, map_cons, same] using known
        case seen =>
          intro found foundInside new inside same
          rcases mem_append.mp foundInside with early | late
          · exact before.seen found (mem_append_left _ early) new inside same
          · rcases mem_cons.mp late with rfl | later
            · have applied : applyHook current ∈ state.machines.update machine.name applyHook applyHook_key :=
                Keyed.mem_update.mpr (.inr ⟨current, isCurrent.1, isCurrent.2, rfl⟩)
              cases Keyed.eq_of_key_eq applied inside same
              refine ⟨id, fun removed => ?_⟩
              rw [show (applyHook current).hookRemoved = current.hookRemoved from rfl, kept] at removed
              cases removed
            · exact before.seen found (mem_append_right _ (mem_cons_of_mem _ later)) new inside same
      · exact serialised.toIdle
      · exact applied.toIdle

theorem Serialised.finishHook {calls : HookCalls} (phase : state.phase = .syncing done []) :
    Serialised (finishHook state (reconcilePreTerminateHook calls true state.etcd done)) := by
  have covers : Covers done state.machines := by
    have covered := serialised.covered
    rw [phase] at covered
    simpa only [Phase.Covers, append_nil] using covered
  have ended : ∀ etcd, Serialised { state with etcd, phase := .idle } := fun etcd =>
    ⟨serialised.released, serialised.unique, trivial, serialised.detached⟩
  cases ran : reconcilePreTerminateHook calls true state.etcd done with
  | mk _ left released =>
    unfold PreTerminateHook.finishHook
    dsimp only
    cases released with
    | none => exact ended left
    | some machine =>
      rcases reconcilePreTerminateHook_released ran rfl with ⟨read, deleting, hooked, detached⟩
      dsimp only
      cases found : state.machines.find? machine.name with
      | none => exact ended left
      | some current =>
        have isCurrent := Keyed.find?_eq_some.mp found
        have noneRemoved : ∀ other ∈ state.machines, other.hookRemoved = false := by
          intro other inside
          apply Bool.eq_false_iff.mpr
          intro removed
          rcases mem_map.mp (covers.known other inside) with ⟨seen, seenRead, same⟩
          rcases (covers.seen seen seenRead other inside same).removed removed with ⟨isDeleting, lacking⟩
          rw [hooked seen seenRead isDeleting] at lacking
          cases lacking
        have onlyCurrent : ∀ new ∈ state.machines.update machine.name releaseHook releaseHook_key,
            new.hookRemoved = true → new = releaseHook current := by
          intro new inside removed
          rcases Keyed.mem_update.mp inside with ⟨same, -⟩ | ⟨old, oldInside, isNamed, rfl⟩
          · rw [noneRemoved new same] at removed
            cases removed
          · rw [Keyed.eq_of_key_eq oldInside isCurrent.1 (isNamed.trans isCurrent.2.symm)]
        constructor
        case released =>
          intro new inside removed
          rw [onlyCurrent new inside removed]
          refine ⟨?_, by simp [releaseHook, HookedMachine.withoutHook, HookedMachine.hasHook]⟩
          exact (covers.seen machine read current isCurrent.1 isCurrent.2.symm).deleting deleting
        case unique =>
          intro first firstInside second secondInside firstRemoved secondRemoved
          rw [onlyCurrent first firstInside firstRemoved, onlyCurrent second secondInside secondRemoved]
        case covered => trivial
        case detached =>
          intro removal inside several
          rcases mem_cons.mp inside with rfl | earlier
          · have atLeast : state.machines.list.length ≤ (done.map fun seen => seen.name).length :=
              Keyed.length_le covers.known
            rw [length_map] at atLeast
            exact detachEtcdMember_ok (several.trans_le atLeast) detached
          · exact serialised.detached removal earlier several

theorem Serialised.step {action : Action} {next : ControlPlaneState}
    (taken : step state action = some next) : Serialised next := by
  cases action with
  | start =>
    simp only [PreTerminateHook.step] at taken
    split at taken
    · rw [Option.ite_none_right_eq_some, Option.some_inj] at taken
      rcases taken with ⟨fresh, rfl⟩
      refine ⟨serialised.released, serialised.unique, ⟨?_, ?_⟩, serialised.detached⟩
      · intro machine inside
        apply mem_map.mpr
        exact ⟨machine.toHookedMachine, fresh.mem_iff.mpr (mem_map_of_mem inside), rfl⟩
      · intro _ foundInside machine inside same
        rcases mem_map.mp (fresh.mem_iff.mp foundInside) with ⟨other, otherInside, rfl⟩
        cases Keyed.eq_of_key_eq otherInside inside same
        exact ⟨id, serialised.released machine inside⟩
    · cases taken
  | sync reply =>
    simp only [PreTerminateHook.step] at taken
    split at taken
    case h_1 done machine rest phase =>
      cases taken
      exact serialised.syncMachine phase reply
    case h_2 => cases taken
  | runHook =>
    simp only [PreTerminateHook.step] at taken
    split at taken
    case h_1 done phase =>
      cases taken
      exact serialised.finishHook phase
    case h_2 => cases taken
  | stop =>
    cases taken
    exact serialised.toIdle
  | delete _ timestamp =>
    cases taken
    apply serialised.evolve
    refine evolves_update fun machine _ _ => ?_
    unfold markDeleting
    split_ifs
    · exact .refl machine
    · exact ⟨rfl, fun _ => rfl, rfl, fun _ => rfl⟩
  | join =>
    simp only [PreTerminateHook.step] at taken
    split at taken
    case h_1 phase =>
      rw [Option.ite_none_left_eq_some, Option.map_eq_some_iff] at taken
      rcases taken with ⟨kept, machines, inserted, rfl⟩
      have members := Keyed.insert_eq_some inserted
      have old : ∀ machine ∈ machines, machine.hookRemoved = true → machine ∈ state.machines := by
        intro machine inside removed
        rcases (members machine).mp inside with rfl | before
        · exact absurd removed kept
        · exact before
      refine ⟨?_, ?_, ?_, serialised.detached⟩
      · intro machine inside removed
        exact serialised.released machine (old machine inside removed) removed
      · intro first firstInside second secondInside firstRemoved secondRemoved
        exact serialised.unique first (old first firstInside firstRemoved) second
          (old second secondInside secondRemoved) firstRemoved secondRemoved
      · rw [phase]
        trivial
    case h_2 => cases taken
  | leave =>
    cases taken
    apply serialised.evolve
    intro machine inside
    exact ⟨machine, (Keyed.mem_keep.mp inside).1, .refl machine⟩
  | observe _ seen =>
    cases taken
    apply serialised.evolve
    refine evolves_update fun machine _ _ => ⟨rfl, id, rfl, fun _ => ?_⟩
    rw [observe, HookedMachine.hasHook]
    cases machine.hasHook with
    | true | false => simp
  | etcd =>
    cases taken
    exact ⟨serialised.released, serialised.unique, serialised.covered, serialised.detached⟩

end Steps

/-! ## The order of deletions -/

/-- No hook has been removed yet, and no reconcile is under way. -/
structure Initial (state : ControlPlaneState) : Prop where
  idle : state.phase = .idle
  removals : state.removals = []
  hooks : ∀ machine ∈ state.machines, machine.hookRemoved = false

theorem Initial.serialised {state : ControlPlaneState} (initial : Initial state) : Serialised state := by
  have never : ∀ machine ∈ state.machines, machine.hookRemoved ≠ true := fun machine inside =>
    Bool.eq_false_iff.mp (initial.hooks machine inside)
  constructor
  case released => exact fun machine inside removed => absurd removed (never machine inside)
  case unique => exact fun first inside _ _ removed => absurd removed (never first inside)
  case covered =>
    rw [initial.idle]
    trivial
  case detached =>
    rw [initial.removals]
    exact fun removal inside => absurd inside not_mem_nil

/-- At any time at most one deleting Machine is without its hook, and with several Machines no etcd member was left
on the Node that this Machine referred to. -/
theorem preTerminateHook_serialises {start final : ControlPlaneState} {schedule : List Action}
    (initial : Initial start) (executed : execute step start schedule = some final) :
    (∀ first ∈ final.machines, ∀ second ∈ final.machines,
      first.deleting = true → second.deleting = true → first.hookRemoved = true →
        second.hookRemoved = true → first = second) ∧
      ∀ removal ∈ final.removals, 1 < removal.count →
        ∀ member ∈ removal.etcd.members, ¬ Hosts removal.machine.toKcpMachine member := by
  have serialised : Serialised final :=
    execute_invariant_of_step (fun _ _ _ holds taken => holds.step taken) initial.serialised executed
  constructor
  · intro first firstInside second secondInside _ _
    exact serialised.unique first firstInside second secondInside
  · exact serialised.detached

/-! ## Two Machines, one of which has just joined -/

def justJoined : ControlPlaneState where
  machines :=
    { list :=
        [{ name := "cp-a", creationTimestamp := 1, nodeRef := some "node-a", host := some "node-a"
           annotations := [preTerminateHookCleanup] },
         { name := "cp-b", creationTimestamp := 2, host := some "node-b"
           annotations := [preTerminateHookCleanup] }]
      distinct := by decide }
  etcd :=
    { members := [{ id := 1, name := "node-a" }, { id := 2, name := "node-b" }]
      leader := 1
      distinctIds := by decide
      distinctNames := by decide }
  phase := .idle
  removals := []

theorem justJoined_initial : Initial justJoined := ⟨rfl, rfl, by decide⟩

def waiting (nodeRef : Option String) : TrackedMachine :=
  { name := "cp-b", creationTimestamp := 2, nodeRef, host := some "node-b"
    preTerminateDeleteHookSucceeded := some { status := .isFalse, reason := "WaitingExternalHook" } }

def userDeletes (nodeRef : Option String) : List Action :=
  let first : HookedMachine :=
    { name := "cp-a", creationTimestamp := 1, nodeRef := some "node-a"
      annotations := [preTerminateHookCleanup] }
  let second : HookedMachine :=
    { (waiting nodeRef).toHookedMachine with
      deleting := true, deletedAt := 5, annotations := [preTerminateHookCleanup] }
  [.delete "cp-b" 5, .observe "cp-b" (waiting nodeRef), .start [first, second], .sync .ok, .sync .ok,
   .runHook { version := "v1.31.0", parsedVersion := .ok (Version.release 1 31 0)
              removal := { controlPlaneNodes := .ok ["node-a", "node-b"] } }]

theorem preTerminateHook_serialises_userDeletes :
    ∃ final, execute step justJoined (userDeletes (some "node-b")) = some final ∧ final.removals.length = 1 ∧
      (∀ first ∈ final.machines, ∀ second ∈ final.machines,
        first.deleting = true → second.deleting = true → first.hookRemoved = true →
          second.hookRemoved = true → first = second) ∧
        ∀ removal ∈ final.removals, 1 < removal.count →
          ∀ member ∈ removal.etcd.members, ¬ Hosts removal.machine.toKcpMachine member :=
  ⟨_, rfl, rfl, @preTerminateHook_serialises _ _ (userDeletes (some "node-b")) justJoined_initial rfl⟩

/-- A Machine that does not refer to its Node is let go while its etcd member is still there. -/
theorem preTerminateHook_leaves_member :
    Initial justJoined ∧ ∃ final, execute step justJoined (userDeletes none) = some final ∧
      ∃ removal ∈ final.removals, 1 < removal.count ∧
        ∃ member ∈ removal.etcd.members, removal.host = some member.name ∧ member.name ≠ "" :=
  ⟨justJoined_initial, _, rfl, _, mem_cons_self, by decide, ⟨2, "node-b"⟩, by decide, rfl, by decide⟩

end ClusterApi.ControlPlane.PreTerminateHook

import Mathlib.Data.String.Basic
import ClusterApi.Foundation.Runs

namespace ClusterApi.Bootstrap

open Foundation List Option

/-!
# The control plane init lock

A ConfigMap that records the Machine allowed to run `kubeadm init`.  `Lock`
and `Unlock` are sequences of separate calls to the API server, made by the
bootstrap reconciles of the control plane Machines of one cluster and
interleaved in any way.  The delete of `Unlock` names the ConfigMap only by
its name: it removes whatever is there, also a lock that was taken after
`Unlock` looked.
-/

/-- Why a reconcile calls `Unlock`. -/
inductive Purpose
  /-- Inside `Lock`, since the recorded holder is gone. -/
  | takeover
  /-- After an error, by the Machine that holds the lock. -/
  | release
  /-- Before a Machine joins an initialized cluster. -/
  | join
  deriving DecidableEq

/-- The call that the reconcile of a Machine makes next. -/
inductive ProgramCounter
  | idle
  | lockGetConfigMap
  | lockGetMachine (holder : String)
  | lockCreateConfigMap
  /-- `Lock` has returned true, and the init configuration is being generated. -/
  | locked
  | unlockGetConfigMap (purpose : Purpose)
  | unlockDeleteConfigMap (purpose : Purpose)
  deriving DecidableEq

structure State where
  /-- The holder that the ConfigMap records, if there is a ConfigMap. -/
  configMap : Option String := none
  machines : List String
  /-- The Machines that `Lock` has told that they hold the lock, and that have not released it themselves. -/
  told : List String := []
  /-- The condition of the Cluster that its control plane is initialized. -/
  initialized : Bool := false
  counter : String → ProgramCounter := fun _ => .idle

namespace State

def goTo (state : State) (machine : String) (next : ProgramCounter) : State :=
  { state with counter := Function.update state.counter machine next }

/-- `Lock` returns true. -/
def acquire (state : State) (machine : String) : State :=
  { state.goTo machine .locked with told := machine :: state.told }

/-- `Unlock` returns true.  Inside `Lock` it does not give up a lock of the caller. -/
def released (state : State) (machine : String) (purpose : Purpose) : State :=
  match purpose with
  | .takeover => state.goTo machine .idle
  | .release => { state.goTo machine .idle with told := state.told.filter fun other => other ≠ machine }
  | .join => { state.goTo machine .idle with told := state.told.filter fun other => other ≠ machine }

end State

/-! ## The calls -/

/-- The next call of `Lock`.  An error other than NotFound makes `Lock` return false. -/
def lockCall (state : State) (machine : String) (reply : Reply) : ProgramCounter → Option State
  | .lockGetConfigMap =>
    if reply ≠ .ok then some (state.goTo machine .idle)
    else
      match state.configMap with
      | none => some (state.goTo machine .lockCreateConfigMap)
      | some holder =>
        if holder = machine then some (state.acquire machine)
        else some (state.goTo machine (.lockGetMachine holder))
  | .lockGetMachine holder =>
    if reply ≠ .ok then some (state.goTo machine .idle)
    else if holder ∈ state.machines then some (state.goTo machine .idle)
    else some (state.goTo machine (.unlockGetConfigMap .takeover))
  | .lockCreateConfigMap =>
    match state.configMap, reply with
    | some _, _ => some (state.goTo machine .idle)
    | none, .failed => some (state.goTo machine .idle)
    | none, .lost => some { state.goTo machine .idle with configMap := some machine }
    | none, .ok => some { state.acquire machine with configMap := some machine }
  | _ => none

/-- The next call of `Unlock`. -/
def unlockCall (state : State) (machine : String) (reply : Reply) : ProgramCounter → Option State
  | .unlockGetConfigMap purpose =>
    if reply ≠ .ok then some (state.goTo machine .idle)
    else
      match state.configMap with
      | none => some (state.released machine purpose)
      | some _ => some (state.goTo machine (.unlockDeleteConfigMap purpose))
  | .unlockDeleteConfigMap purpose =>
    if reply = .failed then some (state.goTo machine .idle)
    else some { state.released machine purpose with configMap := none }
  | _ => none

inductive Action
  /-- `handleClusterNotInitialized` calls `Lock`. -/
  | startLock (machine : String)
  /-- A reconcile of an initialized cluster calls `Unlock`. -/
  | startJoin (machine : String)
  | call (machine : String) (reply : Reply)
  /-- The init configuration is generated, or an error makes the reconcile release the lock. -/
  | generate (machine : String) (succeeds : Bool)
  | vanish (machine : String)
  | controlPlaneInitialized

def step (state : State) : Action → Option State
  | .startLock machine =>
    if state.counter machine = .idle ∧ state.initialized = false then
      some (state.goTo machine .lockGetConfigMap)
    else none
  | .startJoin machine =>
    if state.counter machine = .idle ∧ state.initialized = true then
      some (state.goTo machine (.unlockGetConfigMap .join))
    else none
  | .call machine reply =>
    (lockCall state machine reply (state.counter machine)).or
      (unlockCall state machine reply (state.counter machine))
  | .generate machine succeeds =>
    if state.counter machine = .locked then
      some (state.goTo machine (if succeeds then .idle else .unlockGetConfigMap .release))
    else none
  | .vanish machine => some { state with machines := state.machines.filter fun other => other ≠ machine }
  | .controlPlaneInitialized => some { state with initialized := true }

/-! ## What has to hold -/

/-- At most one existing Machine believes that it holds the lock. -/
def MutualExclusion (state : State) : Prop :=
  ∀ first ∈ state.told, ∀ second ∈ state.told, first ∈ state.machines → second ∈ state.machines → first = second

instance (state : State) : Decidable (MutualExclusion state) :=
  inferInstanceAs (Decidable (∀ first ∈ state.told, ∀ second ∈ state.told,
    first ∈ state.machines → second ∈ state.machines → first = second))

/-- `Lock` may still return true. -/
def acquiring : ProgramCounter → Bool
  | .lockGetConfigMap => true
  | .lockCreateConfigMap => true
  | _ => false

/-- Nobody can take the lock any more. -/
def Settled (state : State) : Prop := state.initialized = true ∧ ∀ machine, acquiring (state.counter machine) = false

/-- A delete finds nothing, or the caller's own lock, or the lock of a Machine that is gone. -/
def HarmlessDelete (state : State) : Action → Prop
  | .call machine reply =>
    match state.counter machine with
    | .unlockDeleteConfigMap purpose => reply = .failed ∨
        ∀ holder ∈ state.configMap, (holder = machine ∧ purpose ≠ .takeover) ∨ holder ∉ state.machines
    | _ => True
  | _ => True

/-- A delete is harmless, or nobody can take the lock any more. -/
def SafeDelete (state : State) (action : Action) : Prop := HarmlessDelete state action ∨ Settled state

instance (state : State) (action : Action) : Decidable (HarmlessDelete state action) :=
  match action with
  | .call machine reply =>
    match counted : state.counter machine with
    | .unlockDeleteConfigMap purpose =>
      decidable_of_iff (reply = .failed ∨ ∀ holder ∈ state.configMap,
        (holder = machine ∧ purpose ≠ .takeover) ∨ holder ∉ state.machines) (by simp [HarmlessDelete, counted])
    | .idle => isTrue (by simp [HarmlessDelete, counted])
    | .lockGetConfigMap => isTrue (by simp [HarmlessDelete, counted])
    | .lockGetMachine _ => isTrue (by simp [HarmlessDelete, counted])
    | .lockCreateConfigMap => isTrue (by simp [HarmlessDelete, counted])
    | .locked => isTrue (by simp [HarmlessDelete, counted])
    | .unlockGetConfigMap _ => isTrue (by simp [HarmlessDelete, counted])
  | .startLock _ => isTrue trivial
  | .startJoin _ => isTrue trivial
  | .generate _ _ => isTrue trivial
  | .vanish _ => isTrue trivial
  | .controlPlaneInitialized => isTrue trivial

/-! ## What one step does -/

/-- The four ways in which a step changes the lock and who believes to hold it. -/
inductive Effect (state : State) (action : Action) (next : State) : Prop
  /-- The ConfigMap stays, and nobody is told that it holds the lock. -/
  | keeps (configMap : next.configMap = state.configMap) (told : next.told ⊆ state.told)
  /-- `Lock` finds the caller recorded as the holder. -/
  | confirms (machine : String) (acquires : acquiring (state.counter machine) = true)
      (recorded : state.configMap = some machine) (configMap : next.configMap = some machine)
      (told : next.told = machine :: state.told)
  /-- The create of `Lock` takes effect. -/
  | creates (machine : String) (acquires : acquiring (state.counter machine) = true)
      (absent : state.configMap = none) (configMap : next.configMap = some machine)
      (told : next.told ⊆ machine :: state.told)
  /-- The delete of `Unlock` takes effect. -/
  | deletes (machine : String) (reply : Reply) (purpose : Purpose) (taken : action = .call machine reply)
      (answered : reply ≠ .failed) (deleting : state.counter machine = .unlockDeleteConfigMap purpose)
      (configMap : next.configMap = none) (told : next.told ⊆ state.told)
      (released : purpose ≠ .takeover → machine ∉ next.told)

theorem released_told_subset (state : State) (machine : String) (purpose : Purpose) :
    (state.released machine purpose).told ⊆ state.told := by
  cases purpose with
  | takeover => exact List.Subset.refl _
  | release | join => exact filter_subset_self _

variable {machine : String} {state : State}

theorem Effect.ofGoTo {action : Action} {counter : ProgramCounter} : Effect state action (state.goTo machine counter) :=
  .keeps rfl (List.Subset.refl _)

/-- A call moves one program counter, and `Lock` becomes able to return true only when it is called. -/
structure Moves (state : State) (machine : String) (next : State) : Prop where
  machines : next.machines = state.machines
  initialized : next.initialized = state.initialized
  counter : ∃ target, next.counter = Function.update state.counter machine target ∧
    (acquiring target = true → acquiring (state.counter machine) = true)

theorem Moves.ofGoTo {target : ProgramCounter}
    (acquires : acquiring target = true → acquiring (state.counter machine) = true) :
    Moves state machine (state.goTo machine target) :=
  ⟨rfl, rfl, target, rfl, acquires⟩

theorem released_moves (state : State) (machine : String) (purpose : Purpose) :
    Moves state machine (state.released machine purpose) := by
  cases purpose <;> exact ⟨rfl, rfl, .idle, rfl, Bool.noConfusion⟩

section Calls

variable {state next : State} {machine : String} {reply : Reply}

theorem lockCall_cases (taken : lockCall state machine reply (state.counter machine) = some next) :
    (∃ target, next = state.goTo machine target ∧
      (acquiring target = true → acquiring (state.counter machine) = true)) ∨
    acquiring (state.counter machine) = true ∧
      (state.configMap = some machine ∧ next = state.acquire machine ∨
        state.configMap = none ∧
          (next = { state.goTo machine .idle with configMap := some machine } ∨
            next = { state.acquire machine with configMap := some machine })) := by
  cases counted : state.counter machine with
  | lockGetConfigMap =>
    rw [counted, lockCall] at taken
    split at taken
    · cases taken
      exact .inl ⟨_, rfl, fun _ => rfl⟩
    · split at taken
      · cases taken
        exact .inl ⟨_, rfl, fun _ => rfl⟩
      · next holder recorded =>
        split at taken
        · next own =>
          cases taken
          exact .inr ⟨rfl, .inl ⟨own ▸ recorded, rfl⟩⟩
        · cases taken
          exact .inl ⟨_, rfl, fun _ => rfl⟩
  | lockGetMachine =>
    rw [counted, lockCall] at taken
    split at taken
    · cases taken
      exact .inl ⟨_, rfl, Bool.noConfusion⟩
    · split at taken <;> cases taken <;> exact .inl ⟨_, rfl, Bool.noConfusion⟩
  | lockCreateConfigMap =>
    rw [counted] at taken
    simp only [lockCall] at taken
    split at taken
    · cases taken
      exact .inl ⟨_, rfl, fun _ => rfl⟩
    · cases taken
      exact .inl ⟨_, rfl, fun _ => rfl⟩
    · next absent =>
      cases taken
      exact .inr ⟨rfl, .inr ⟨absent, .inl rfl⟩⟩
    · next absent =>
      cases taken
      exact .inr ⟨rfl, .inr ⟨absent, .inr rfl⟩⟩
  | idle | locked | unlockGetConfigMap | unlockDeleteConfigMap => rw [counted] at taken; cases taken

theorem unlockCall_cases (taken : unlockCall state machine reply (state.counter machine) = some next) :
    (∃ target, next = state.goTo machine target ∧ acquiring target = false) ∨
    (∃ purpose, next = state.released machine purpose) ∨
    ∃ purpose, reply ≠ .failed ∧ state.counter machine = .unlockDeleteConfigMap purpose ∧
      next = { state.released machine purpose with configMap := none } := by
  cases counted : state.counter machine with
  | unlockGetConfigMap =>
    rw [counted, unlockCall] at taken
    split at taken
    · cases taken
      exact .inl ⟨_, rfl, rfl⟩
    · split at taken
      · cases taken
        exact .inr (.inl ⟨_, rfl⟩)
      · cases taken
        exact .inl ⟨_, rfl, rfl⟩
  | unlockDeleteConfigMap purpose =>
    rw [counted, unlockCall] at taken
    split at taken
    · cases taken
      exact .inl ⟨_, rfl, rfl⟩
    · next answered =>
      cases taken
      exact .inr (.inr ⟨purpose, answered, rfl, rfl⟩)
  | idle | lockGetConfigMap | lockGetMachine | lockCreateConfigMap | locked => rw [counted] at taken; cases taken

theorem lockCall_effect (taken : lockCall state machine reply (state.counter machine) = some next) :
    Effect state (.call machine reply) next := by
  rcases lockCall_cases taken with ⟨_, rfl, -⟩ | ⟨acquires, ⟨recorded, rfl⟩ | ⟨absent, rfl | rfl⟩⟩
  · exact .ofGoTo
  · exact .confirms machine acquires recorded recorded rfl
  · exact .creates machine acquires absent rfl (subset_cons_self _ _)
  · exact .creates machine acquires absent rfl (List.Subset.refl _)

theorem unlockCall_effect (taken : unlockCall state machine reply (state.counter machine) = some next) :
    Effect state (.call machine reply) next := by
  rcases unlockCall_cases taken with ⟨_, rfl, -⟩ | ⟨purpose, rfl⟩ | ⟨purpose, answered, deleting, rfl⟩
  · exact .ofGoTo
  · exact .keeps (by cases purpose <;> rfl) (released_told_subset ..)
  · refine .deletes machine reply purpose rfl answered deleting rfl (released_told_subset ..) fun own => ?_
    cases purpose with
    | takeover => exact absurd rfl own
    | release | join => simp [State.released]

end Calls

section Steps

variable {state next : State} {action : Action} {machine : String}

theorem step_startLock (taken : step state (.startLock machine) = some next) :
    state.initialized = false ∧ next = state.goTo machine .lockGetConfigMap := by
  rw [step, ite_none_right_eq_some, some_inj] at taken
  rcases taken with ⟨⟨-, uninitialized⟩, rfl⟩
  exact ⟨uninitialized, rfl⟩

theorem step_startJoin (taken : step state (.startJoin machine) = some next) :
    next = state.goTo machine (.unlockGetConfigMap .join) := by
  rw [step, ite_none_right_eq_some, some_inj] at taken
  rcases taken with ⟨-, rfl⟩
  rfl

theorem step_generate {succeeds : Bool} (taken : step state (.generate machine succeeds) = some next) :
    ∃ target, next = state.goTo machine target ∧ acquiring target = false := by
  rw [step, ite_none_right_eq_some, some_inj] at taken
  rcases taken with ⟨-, rfl⟩
  exact ⟨_, rfl, by cases succeeds <;> rfl⟩

theorem step_effect (taken : step state action = some next) : Effect state action next := by
  cases action with
  | startLock =>
    rcases step_startLock taken with ⟨-, rfl⟩
    exact .ofGoTo
  | startJoin =>
    rw [step_startJoin taken]
    exact .ofGoTo
  | call =>
    rcases or_eq_some_iff.mp taken with locking | ⟨_, unlocking⟩
    · exact lockCall_effect locking
    · exact unlockCall_effect unlocking
  | generate =>
    rcases step_generate taken with ⟨_, rfl, -⟩
    exact .ofGoTo
  | vanish | controlPlaneInitialized =>
    cases taken
    exact .keeps rfl (List.Subset.refl _)

theorem step_call_moves {reply : Reply} (taken : step state (.call machine reply) = some next) :
    Moves state machine next := by
  rcases or_eq_some_iff.mp taken with locking | ⟨_, unlocking⟩
  · rcases lockCall_cases locking with ⟨_, rfl, acquires⟩ | ⟨acquires, ⟨-, rfl⟩ | ⟨-, rfl | rfl⟩⟩
    · exact .ofGoTo acquires
    all_goals exact ⟨rfl, rfl, _, rfl, fun _ => acquires⟩
  · rcases unlockCall_cases unlocking with ⟨_, rfl, quiet⟩ | ⟨purpose, rfl⟩ | ⟨purpose, -, -, rfl⟩
    · exact .ofGoTo fun acquires => absurd acquires (by simp [quiet])
    · exact released_moves state machine purpose
    · rcases released_moves state machine purpose with ⟨machines, initialized, counter⟩
      exact ⟨machines, initialized, counter⟩

theorem step_machines_subset (taken : step state action = some next) : next.machines ⊆ state.machines := by
  cases action with
  | startLock =>
    rcases step_startLock taken with ⟨-, rfl⟩
    exact List.Subset.refl _
  | startJoin =>
    rw [step_startJoin taken]
    exact List.Subset.refl _
  | call => exact fun _ member => (step_call_moves taken).machines ▸ member
  | generate =>
    rcases step_generate taken with ⟨_, rfl, -⟩
    exact List.Subset.refl _
  | vanish =>
    cases taken
    exact filter_subset_self _
  | controlPlaneInitialized =>
    cases taken
    exact List.Subset.refl _

end Steps

/-! ## Once nobody can take the lock -/

variable {state next : State} {action : Action}

theorem Settled.update {machine : String} {target : ProgramCounter} (settled : Settled state)
    (initialized : next.initialized = state.initialized)
    (counter : next.counter = Function.update state.counter machine target) (quiet : acquiring target = false) :
    Settled next := by
  refine ⟨initialized.trans settled.1, fun other => ?_⟩
  rw [counter]
  by_cases same : other = machine
  · rw [same, Function.update_self, quiet]
  · rw [Function.update_of_ne same, settled.2 other]

theorem Settled.step (settled : Settled state) (taken : step state action = some next) : Settled next := by
  cases action with
  | startLock =>
    rcases step_startLock taken with ⟨uninitialized, -⟩
    exact absurd settled.1 (by simp [uninitialized])
  | startJoin =>
    rw [step_startJoin taken]
    exact settled.update rfl rfl rfl
  | call machine =>
    rcases step_call_moves taken with ⟨_, initialized, target, counter, acquires⟩
    refine settled.update initialized counter ?_
    simpa [settled.2 machine] using acquires
  | generate =>
    rcases step_generate taken with ⟨_, rfl, quiet⟩
    exact settled.update rfl rfl quiet
  | vanish =>
    cases taken
    exact settled
  | controlPlaneInitialized =>
    cases taken
    exact ⟨rfl, settled.2⟩

theorem Settled.told_subset (settled : Settled state)
    (taken : Bootstrap.step state action = some next) : next.told ⊆ state.told := by
  cases step_effect taken with
  | keeps _ told => exact told
  | confirms machine acquires => exact absurd acquires (by simp [settled.2 machine])
  | creates machine acquires => exact absurd acquires (by simp [settled.2 machine])
  | deletes _ _ _ _ _ _ _ told => exact told

theorem MutualExclusion.mono (exclusive : MutualExclusion state) (told : next.told ⊆ state.told)
    (machines : next.machines ⊆ state.machines) : MutualExclusion next :=
  fun _ firstTold _ secondTold firstExists secondExists =>
    exclusive _ (told firstTold) _ (told secondTold) (machines firstExists) (machines secondExists)

/-! ## The invariant -/

/-- Whoever exists and believes to hold the lock is the recorded holder. -/
def Recorded (state : State) : Prop :=
  ∀ machine ∈ state.told, machine ∈ state.machines → state.configMap = some machine

variable {state next : State} {action : Action}

theorem Recorded.mutualExclusion (recorded : Recorded state) : MutualExclusion state := by
  intro first firstTold second secondTold firstExists secondExists
  have same := (recorded first firstTold firstExists).symm.trans (recorded second secondTold secondExists)
  exact some.inj same

/-- The ConfigMap protects the lock, or the lock is not needed any more. -/
def Protected (state : State) : Prop := Recorded state ∨ Settled state ∧ MutualExclusion state

theorem Protected.mutualExclusion (holds : Protected state) : MutualExclusion state :=
  holds.elim Recorded.mutualExclusion And.right

theorem Recorded.step (recorded : Recorded state) (harmless : HarmlessDelete state action)
    (taken : step state action = some next) : Recorded next := by
  have machines := step_machines_subset taken
  intro other otherTold otherExists
  cases step_effect taken with
  | keeps configMap told => exact configMap.trans (recorded other (told otherTold) (machines otherExists))
  | confirms _ _ holds configMap told =>
    rw [told] at otherTold
    rcases mem_cons.mp otherTold with same | before
    · rw [configMap, same]
    · rw [configMap, ← holds, recorded other before (machines otherExists)]
  | creates _ _ absent configMap told =>
    rcases mem_cons.mp (told otherTold) with same | before
    · rw [configMap, same]
    · exact absurd (recorded other before (machines otherExists)) (by simp [absent])
  | deletes _ _ _ call answered deleting _ told released =>
    have holds := recorded other (told otherTold) (machines otherExists)
    rw [call, HarmlessDelete, deleting] at harmless
    rcases (harmless.resolve_left answered) other holds with ⟨same, own⟩ | gone
    · exact absurd (same ▸ otherTold) (released own)
    · exact absurd (machines otherExists) gone

theorem Protected.step (holds : Protected state) (safe : SafeDelete state action)
    (taken : step state action = some next) : Protected next := by
  have fromSettled : Settled state → Protected next := fun settled =>
    .inr ⟨settled.step taken,
      holds.mutualExclusion.mono (settled.told_subset taken) (step_machines_subset taken)⟩
  rcases holds with recorded | ⟨settled, _⟩
  · rcases safe with harmless | settled
    · exact .inl (recorded.step harmless taken)
    · exact fromSettled settled
  · exact fromSettled settled

/-- No Machine has been told anything, and no reconcile is at work. -/
def initial (machines : List String) : State := { machines := machines }

/-- However the calls of the reconciles are interleaved, whichever of them
fail and whichever Machines disappear: as long as every delete of the
ConfigMap is safe, at most one existing Machine believes that it holds the lock. -/
theorem run_mutualExclusion (machines : List String) {schedule : List Action} {final : State}
    (safe : Meets step SafeDelete (initial machines) schedule)
    (executed : execute step (initial machines) schedule = some final) : MutualExclusion final :=
  Protected.mutualExclusion <|
    execute_invariant (fun _ _ _ holds safe taken => Protected.step holds safe taken)
      (.inl fun _ told => absurd told not_mem_nil) safe executed

def locks (machine : String) : List Action := [.startLock machine, .call machine .ok, .call machine .ok]

def findsHolderGone (machine : String) : List Action :=
  [.startLock machine, .call machine .ok, .call machine .ok, .call machine .ok]

theorem execute_locks {machine : String} (idle : state.counter machine = .idle)
    (uninitialized : state.initialized = false) (absent : state.configMap = none) :
    ∃ final, execute step state (locks machine) = some final ∧ machine ∈ final.told ∧ final.configMap = some machine := by
  simp [locks, execute, step, lockCall, idle, uninitialized, absent, State.goTo, State.acquire]

theorem execute_takeover {machine holder : String} (idle : state.counter machine = .idle)
    (uninitialized : state.initialized = false) (held : state.configMap = some holder) (other : holder ≠ machine)
    (gone : holder ∉ state.machines) :
    ∃ free, execute step state (findsHolderGone machine ++ [.call machine .ok]) = some free ∧
      free.counter machine = .idle ∧ free.initialized = false ∧ free.configMap = none := by
  simp [findsHolderGone, execute, step, lockCall, unlockCall, idle, uninitialized, held, other,
    gone, State.goTo, State.released]

/-- The lock is never stuck: a Machine can take it by its own calls unless it is
recorded for another Machine that exists. -/
theorem lock_obtainable {machine : String} (idle : state.counter machine = .idle)
    (uninitialized : state.initialized = false)
    (free : ∀ holder ∈ state.configMap, holder = machine ∨ holder ∉ state.machines) :
    ∃ schedule final, (∀ action ∈ schedule, action = .startLock machine ∨ action = .call machine .ok) ∧
      execute step state schedule = some final ∧ machine ∈ final.told ∧ final.configMap = some machine := by
  cases held : state.configMap with
  | none =>
    rcases execute_locks idle uninitialized held with ⟨final, executed, result⟩
    exact ⟨locks machine, final, by simp [locks], executed, result⟩
  | some holder =>
    by_cases own : holder = machine
    · refine ⟨[.startLock machine, .call machine .ok], ?_⟩
      simp [execute, step, lockCall, idle, uninitialized, held, own, State.goTo, State.acquire]
    · have gone := (free holder held).resolve_left own
      rcases execute_takeover idle uninitialized held own gone with ⟨between, unlocked, idle, uninitialized, absent⟩
      rcases execute_locks idle uninitialized absent with ⟨final, executed, result⟩
      refine ⟨findsHolderGone machine ++ [.call machine .ok] ++ locks machine, final, ?_, ?_, result⟩
      · simp [findsHolderGone, locks]
      · rw [execute_append, unlocked]
        exact executed

theorem lock_obtainable_gone :
    ∃ schedule final, execute step { machines := ["second"], configMap := some "first" } schedule = some final ∧
      "second" ∈ final.told := by
  rcases @lock_obtainable { machines := ["second"], configMap := some "first" } "second" rfl rfl (by simp) with
    ⟨schedule, final, -, executed, told, -⟩
  exact ⟨schedule, final, executed, told⟩

def threeMachines : State := initial ["first", "second", "third"]

/-- The first Machine is told, fails and releases; the second is told and
disappears; the third takes over and initializes the cluster. -/
def handover : List Action :=
  locks "first" ++ [.generate "first" false, .call "first" .ok, .call "first" .ok] ++ locks "second" ++
    [.vanish "second"] ++ findsHolderGone "third" ++ [.call "third" .ok] ++ locks "third" ++
    [.generate "third" true, .controlPlaneInitialized]

theorem handover_mutualExclusion : ∃ final, execute step threeMachines handover = some final ∧
    final.told = ["third", "second"] ∧ MutualExclusion final := by
  have reached : (execute step threeMachines handover).map State.told = some ["third", "second"] := by decide +kernel
  rcases map_eq_some_iff.mp reached with ⟨final, executed, told⟩
  have harmless : Meets step HarmlessDelete threeMachines handover := by decide +kernel
  exact ⟨final, executed, told, run_mutualExclusion _ (harmless.mono fun _ _ => .inl) executed⟩

/-- Two Machines find that the holder is gone.  The delete of the third
Machine removes the lock that the second has taken meanwhile. -/
def doubleTakeover : List Action :=
  locks "first" ++ [.vanish "first"] ++ findsHolderGone "second" ++ findsHolderGone "third" ++
    [.call "second" .ok] ++ locks "second" ++ [.call "third" .ok] ++ locks "third"

theorem doubleTakeover_breaks_mutualExclusion :
    ¬ ∀ machines schedule final, execute step (initial machines) schedule = some final → MutualExclusion final := by
  intro exclusive
  have broken : (execute step threeMachines doubleTakeover).map
      (fun final => decide (MutualExclusion final)) = some false := by
    decide +kernel
  rcases map_eq_some_iff.mp broken with ⟨final, executed, notExclusive⟩
  exact of_decide_eq_false notExclusive (exclusive _ _ final executed)

end ClusterApi.Bootstrap

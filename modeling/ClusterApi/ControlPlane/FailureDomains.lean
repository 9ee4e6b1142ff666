import ClusterApi.ControlPlane.Scaling
import ClusterApi.Foundation.Balance
import ClusterApi.Foundation.Keyed

namespace ClusterApi.ControlPlane.Scaling

open Foundation List

/-!
# Failure domains

A scale down picks a Machine in the failure domain that has most of them, and a
scale up places a Machine in the failure domain that has fewest.  Only failure
domains that are suitable for control plane Machines take part: a Machine in
any other one, or in none, is the first to go.
-/

/-! ## What is picked -/

section

variable {ids : List String} {machines group : List ScalableMachine} {id : String}

theorem pickFewest_isSome (nonempty : ids ≠ []) : (pickFewest ids machines).isSome = true := by
  rw [pickFewest, isSome_head?]
  intro sorted
  have sameLength := length_insertionSort (fun first second => countIn machines first ≤ countIn machines second) ids
  rw [sorted] at sameLength
  exact nonempty (length_eq_zero_iff.mp sameLength.symm)

theorem pickMost_eq_some (picked : pickMost ids group machines = some id) :
    id ∈ ids ∧ (∃ machine ∈ machines, machine.failureDomain = some id) ∧
      ∀ machine ∈ machines, ∀ other ∈ ids, machine.failureDomain = some other →
        countIn group other ≤ countIn group id := by
  refine ⟨?_, ?_, ?_⟩
  · have sorted := mem_of_find?_eq_some picked
    rwa [mem_insertionSort] at sorted
  · simpa using find?_some picked
  · intro machine inside other otherInside placed
    apply rel_of_find?_insertionSort picked other otherInside
    rw [any_eq_true]
    exact ⟨machine, inside, decide_eq_true placed⟩

theorem pickMost_isSome {machine : ScalableMachine} (inside : machine ∈ machines) (placed : machine.failureDomain = some id)
    (isId : id ∈ ids) : (pickMost ids group machines).isSome = true := by
  rw [pickMost, find?_isSome]
  refine ⟨id, ?_, ?_⟩
  · rwa [mem_insertionSort]
  · rw [any_eq_true]
    exact ⟨machine, inside, decide_eq_true placed⟩

theorem exists_oldest (nonempty : machines ≠ []) : ∃ machine ∈ machines, oldest machines = some machine := by
  cases found : oldest machines with
  | none =>
    rw [oldest, head?_eq_none_iff, ← length_eq_zero_iff, length_insertionSort,
      length_eq_zero_iff] at found
    exact absurd found nonempty
  | some machine => exact ⟨machine, mem_of_oldest found, rfl⟩

end

/-! ## The target of a scale down -/

/-- A Machine in a failure domain that has most of the group among those of the candidates. -/
def MostCrowded (group candidates : List ScalableMachine) (machine : ScalableMachine) : Prop :=
  ∃ id, machine.failureDomain = some id ∧
    ∀ candidate ∈ candidates, ∀ other, candidate.failureDomain = some other → countIn group other ≤ countIn group id

/-- What is asked of the Machine that a scale down selects. -/
structure Target (known : List String) (machines outdated candidates : List ScalableMachine)
    (machine : ScalableMachine) : Prop where
  existing : machine ∈ machines
  annotatedFirst : machineWithDeleteAnnotation machines ≠ [] → machine.deleteMachine = true
  outdatedNext : machineWithDeleteAnnotation machines = [] → outdated ≠ [] → machine ∈ outdated
  placed : MostCrowded machines candidates machine ∨ ∀ id ∈ known, machine.failureDomain ≠ some id

section

variable {isEtcdManaged : Bool} {failureDomains : List FailureDomain}
  {machines outdated : List ScalableMachine} {machine : ScalableMachine}

theorem scaleDownCandidates_ne_nil (nonempty : machines ≠ []) : scaleDownCandidates isEtcdManaged machines outdated ≠ [] := by
  unfold scaleDownCandidates
  split_ifs with annotatedOutdated annotated unhealthy isOutdated
  · exact annotatedOutdated
  · exact annotated
  · exact unhealthy
  · exact isOutdated
  · exact nonempty

theorem mem_outdated_of_candidate (inside : outdated ⊆ machines)
    (notAnnotated : machineWithDeleteAnnotation machines = []) (nonempty : outdated ≠ [])
    (candidate : machine ∈ scaleDownCandidates isEtcdManaged machines outdated) : machine ∈ outdated := by
  have noOutdatedAnnotated : machineWithDeleteAnnotation outdated = [] := by
    unfold machineWithDeleteAnnotation at notAnnotated ⊢
    rw [filter_eq_nil_iff] at notAnnotated ⊢
    exact fun other member => notAnnotated other (inside member)
  rw [scaleDownCandidates, if_neg (not_not_intro noOutdatedAnnotated), if_neg (not_not_intro notAnnotated)] at candidate
  split_ifs at candidate
  · exact (mem_filter.mp candidate).1
  · exact candidate

theorem inFailureDomains_ids {ids : List String} :
    inFailureDomains (ids.map some) machine = true ↔ ∃ id ∈ ids, machine.failureDomain = some id := by
  rw [inFailureDomains, contains_iff_mem, mem_map]
  constructor
  · rintro ⟨id, isId, same⟩
    exact ⟨id, isId, same.symm⟩
  · rintro ⟨id, isId, same⟩
    exact ⟨id, isId, same.symm⟩

theorem exists_machineInFailureDomain {candidates : List ScalableMachine}
    (nonempty : candidates ≠ []) : ∃ machine ∈ candidates,
      machineInFailureDomainWithMostMachines failureDomains machines candidates = .ok machine ∧
        (MostCrowded machines candidates machine ∨
          ∀ id ∈ controlPlaneIds failureDomains, machine.failureDomain ≠ some id) := by
  let outside := candidates.filter fun machine => !inFailureDomains ((controlPlaneIds failureDomains).map some) machine
  -- The failure domain that is picked hosts a candidate.
  have picks : ∀ failureDomain : Option String,
      failureDomainWithMostMachines failureDomains machines candidates = failureDomain →
      (∃ candidate ∈ candidates, candidate.failureDomain = failureDomain) →
      ∃ machine ∈ candidates, machine.failureDomain = failureDomain ∧
        machineInFailureDomainWithMostMachines failureDomains machines candidates = .ok machine := by
    rintro failureDomain picked ⟨candidate, inside, hosted⟩
    have found : candidates.filter (inFailureDomains [failureDomain]) ≠ [] := by
      refine @List.ne_nil_of_mem _ candidate _ ?_
      rw [mem_filter, inFailureDomains, contains_iff_mem, hosted]
      exact ⟨inside, mem_singleton_self _⟩
    rcases exists_oldest found with ⟨machine, member, isOldest⟩
    rw [mem_filter, inFailureDomains, contains_iff_mem, mem_singleton] at member
    refine ⟨machine, member.1, member.2, ?_⟩
    simp only [machineInFailureDomainWithMostMachines, picked, isOldest]
  by_cases allInside : outside = []
  · have noneOldest : oldest outside = none := by
      rw [allInside]
      rfl
    have hosts : ∀ candidate ∈ candidates, ∃ id ∈ controlPlaneIds failureDomains, candidate.failureDomain = some id := by
      intro candidate inside
      have kept := filter_eq_nil_iff.mp allInside candidate inside
      rw [Bool.not_eq_true, Bool.not_eq_false'] at kept
      exact inFailureDomains_ids.mp kept
    have picked : failureDomainWithMostMachines failureDomains machines candidates =
        pickMost (controlPlaneIds failureDomains) machines candidates := by
      simp only [failureDomainWithMostMachines]
      rw [noneOldest]
    rcases exists_mem_of_ne_nil candidates nonempty with ⟨candidate, inside⟩
    rcases hosts candidate inside with ⟨_, isHosting, placed⟩
    rcases Option.isSome_iff_exists.mp (pickMost_isSome inside placed isHosting) with ⟨id, most⟩
    rcases pickMost_eq_some most with ⟨-, hosted, largest⟩
    rcases picks id (picked.trans most) hosted with ⟨machine, member, inDomain, selected⟩
    refine ⟨machine, member, selected, .inl ⟨id, inDomain, ?_⟩⟩
    intro other otherInside domain otherPlaced
    rcases hosts other otherInside with ⟨known, isKnown, same⟩
    rw [otherPlaced, Option.some.injEq] at same
    exact largest other otherInside domain (same ▸ isKnown) otherPlaced
  · rcases exists_oldest allInside with ⟨stray, isOutside, isOldest⟩
    rw [mem_filter, Bool.not_eq_true'] at isOutside
    have picked : failureDomainWithMostMachines failureDomains machines candidates = stray.failureDomain := by
      simp only [failureDomainWithMostMachines]
      rw [isOldest]
    rcases picks stray.failureDomain picked ⟨stray, isOutside.1, rfl⟩ with ⟨machine, member, inDomain, selected⟩
    refine ⟨machine, member, selected, .inr ?_⟩
    intro id isId same
    have known := inFailureDomains_ids.mpr ⟨id, isId, inDomain.symm.trans same⟩
    rw [isOutside.2] at known
    cases known

/-- A scale down always has a target, in the most crowded failure domain of a candidate or outside the failure domains
that are suitable for control plane Machines. -/
theorem selectMachineForScaleDown_target (isEtcdManaged : Bool) (failureDomains : List FailureDomain)
    (nonempty : machines ≠ []) (inside : outdated ⊆ machines) :
    ∃ machine, selectMachineForScaleDown isEtcdManaged failureDomains machines outdated = .ok machine ∧
      Target (controlPlaneIds failureDomains) machines outdated
        (scaleDownCandidates isEtcdManaged machines outdated) machine := by
  rcases @exists_machineInFailureDomain failureDomains machines _ (scaleDownCandidates_ne_nil nonempty) with
    ⟨machine, candidate, selected, placed⟩
  refine ⟨machine, selected, ?_, ?_, ?_, placed⟩
  · exact scaleDownCandidates_subset inside candidate
  · intro _
    unfold scaleDownCandidates at candidate
    split_ifs at candidate with annotatedOutdated
    · exact (mem_filter.mp candidate).2
    · exact (mem_filter.mp candidate).2
  · exact fun notAnnotated isOutdated => mem_outdated_of_candidate inside notAnnotated isOutdated candidate

end

namespace Example

def machineIn (name id : String) : ScalableMachine where
  name := name
  creationTimestamp := 0
  failureDomain := some id

def crowded : List ScalableMachine := [machineIn "first" "a", machineIn "second" "a", machineIn "third" "workers"]

def domains : List FailureDomain := [⟨"a", true⟩, ⟨"workers", false⟩]

end Example

theorem selectMachineForScaleDown_target_crowded :
    Example.crowded ≠ [] ∧ ∃ machine,
      selectMachineForScaleDown true Example.domains Example.crowded [] = .ok machine ∧
        Target (controlPlaneIds Example.domains) Example.crowded []
          (scaleDownCandidates true Example.crowded []) machine :=
  ⟨cons_ne_nil _ _,
    selectMachineForScaleDown_target true Example.domains (cons_ne_nil _ _) (nil_subset _)⟩

/-- A Machine in a failure domain of the Cluster that is not suitable for control plane Machines is selected although
another failure domain has more of them. -/
theorem selectMachineForScaleDown_notMostCrowded :
    ¬ ∃ machine, selectMachineForScaleDown true Example.domains Example.crowded [] = .ok machine ∧
      Target (Example.domains.map FailureDomain.id) Example.crowded []
        (scaleDownCandidates true Example.crowded []) machine := by
  rintro ⟨_, selected, target⟩
  cases selected
  rcases target.placed with ⟨_, inDomain, most⟩ | unknown
  · cases inDomain
    have fewer := most (Example.machineIn "first" "a") (by decide) "a" rfl
    exact absurd fewer (by decide)
  · exact unknown "workers" (by decide) rfl

/-! ## Scaling one step at a time -/

section

variable {kcp : ScaledControlPlane} {pass : Pass} {machines : List ScalableMachine} {new : ScalableMachine}

theorem creating_placed {create : CreationAnswers → Except String ProvisionedMachine}
    (places : ∀ answers provisioned, create answers = .ok provisioned →
      answers.failureDomain = .ok provisioned.machine.failureDomain)
    (made : (creating pass machines create).call = some (.createMachine new)) :
    new.failureDomain = nextFailureDomainForScaleUp pass machines := by
  simp only [creating] at made
  split at made
  · cases made
  case h_2 provisioned created =>
    have placed := Except.ok.inj (places _ _ created)
    have isNew : Call.createMachine { toOwnedMachine := provisioned.machine } = Call.createMachine new := by
      split at made
      · exact Option.some.inj made
      · exact Option.some.inj made
    cases isNew
    exact placed.symm

theorem reconcile_call_of_upToDate {call : Call} (upToDate : ∀ machine ∈ machines, pass.notUpToDate machine.name = false)
    (made : (reconcile kcp pass machines).call = some call) :
    (∀ machine ∈ machines, machine.deleting = false) ∧
      ((∃ new, call = .createMachine new ∧ new.deleting = false ∧
          new.failureDomain = nextFailureDomainForScaleUp pass machines) ∨
        ∃ machine etcd, call = .deleteMachine machine etcd ∧ ScalesDown kcp pass machines [] machine etcd) := by
  have noRollout : machinesNeedingRollout pass machines = [] := by
    rw [machinesNeedingRollout, filter_eq_nil_iff]
    intro machine inside
    rw [upToDate machine inside, Bool.false_and]
    exact Bool.false_ne_true
  simp only [reconcile, noRollout, ne_eq, not_true_eq_false, if_false] at made
  split at made
  · cases made
  · split_ifs at made with first few many
    · rcases initializeControlPlane_call made with ⟨new, rfl, alive⟩
      refine ⟨?_, .inl ⟨new, rfl, alive, creating_placed (fun _ _ => createFromConfig_failureDomain) made⟩⟩
      rw [length_eq_zero_iff.mp first.2]
      exact fun _ inside => absurd inside not_mem_nil
    · rcases scaleUpControlPlane_call made with ⟨proceeds, new, rfl, alive⟩
      refine ⟨settled_of_preflight proceeds, .inl ⟨new, rfl, alive, ?_⟩⟩
      unfold scaleUpControlPlane at made
      dsimp only at made
      split_ifs at made
      · cases made
      · refine creating_placed ?_ made
        exact fun _ _ created => createFromConfig_failureDomain (scaleUpControlPlane_eq_ok created)
    · rcases scaleDownControlPlane_call made with ⟨machine, etcd, rfl, scalesDown⟩
      exact ⟨settled_of_preflight scalesDown.preflight, .inr ⟨machine, etcd, rfl, scalesDown⟩⟩

end

/-! ## Runs

Reconciles of a control plane, with any desired replicas, are interleaved with
changes of its Machines that keep their failure domains, and with deletions
that complete.
-/

namespace Balancing

abbrev Machines := Keyed ScalableMachine fun machine => machine.name

inductive Action
  | reconcile (kcp : ScaledControlPlane) (pass : Pass) (reply : Reply)
  | observe (seen : ScalableMachine)
  | deleted (name : String)

/-- New contents of a Machine, but for its name, its deletion timestamp and its failure domain. -/
def observed (seen machine : ScalableMachine) : ScalableMachine :=
  { seen with name := machine.name, deleting := machine.deleting, failureDomain := machine.failureDomain }

def leaving (machine : ScalableMachine) : ScalableMachine := { machine with deleting := true }

theorem observed_name (seen machine : ScalableMachine) : (observed seen machine).name = machine.name := rfl

theorem leaving_name (machine : ScalableMachine) : (leaving machine).name = machine.name := rfl

def observe (machines : Machines) (seen : ScalableMachine) : Machines :=
  machines.update seen.name (observed seen) (observed_name seen)

def askToLeave (machines : Machines) (machine : ScalableMachine) : Machines :=
  machines.update machine.name leaving leaving_name

def applyCall (machines : Machines) : Call → Option Machines
  | .createMachine new => machines.insert new
  | .deleteMachine machine _ => some (askToLeave machines machine)

def step (machines : Machines) : Action → Option Machines
  | .reconcile kcp pass reply =>
    match (reconcile kcp pass machines.list).call with
    | none => some machines
    | some call => if reply = .failed then some machines else applyCall machines call
  | .observe seen => some (observe machines seen)
  | .deleted name => some (machines.keep fun machine => !(machine.name = name && machine.deleting))

/-- The failure domains that are suitable for control plane Machines stay the same, no Machine is outdated, and where
one is deleted none has the delete annotation. -/
def Plain (ids : List String) (machines : Machines) : Action → Prop
  | .reconcile kcp pass _ =>
    (∀ id, id ∈ controlPlaneIds pass.failureDomains ↔ id ∈ ids) ∧
      (∀ machine ∈ machines, pass.notUpToDate machine.name = false) ∧
      ∀ machine etcd, (reconcile kcp pass machines.list).call = some (.deleteMachine machine etcd) →
        ∀ other ∈ machines, other.deleteMachine = false
  | .observe _ => True
  | .deleted _ => True

/-- The Machines that are not being deleted. -/
def staying (machines : List ScalableMachine) : List ScalableMachine := machines.filter fun machine => !machine.deleting

def spread (machines : Machines) : Spread String where
  counted := countIn machines.list
  staying := countIn (staying machines.list)

section

variable {ids : List String} {machines next : Machines} {machine new : ScalableMachine} {pass : Pass}

theorem countIn_staying (list : List ScalableMachine) (id : String) :
    countIn (staying list) id = list.countP fun machine => machine.failureDomain = some id && !machine.deleting :=
  countP_filter

theorem countIn_cons {id : String} (placed : new.failureDomain = some id) (list : List ScalableMachine) :
    countIn (new :: list) = Function.update (countIn list) id (countIn list id + 1) := by
  funext other
  rw [countIn, countP_cons, placed]
  by_cases same : other = id
  · subst same
    simp [countIn]
  · have different : id ≠ other := fun equal => same equal.symm
    simp [same, different, countIn]

theorem countIn_update {name : String} {change : ScalableMachine → ScalableMachine}
    (keepsName : ∀ machine, (change machine).name = machine.name)
    (keepsDomain : ∀ machine, (change machine).failureDomain = machine.failureDomain) :
    countIn (machines.update name change keepsName).list = countIn machines.list := by
  funext id
  change (machines.list.map _).countP _ = _
  rw [countP_map, countIn]
  apply countP_congr
  intro _ _
  rw [Function.comp_apply]
  split_ifs
  · rw [keepsDomain]
  · rfl

theorem countIn_staying_askToLeave (inside : machine ∈ machines) (present : machine.deleting = false) (id : String) :
    countIn (staying (askToLeave machines machine).list) id +
        (if machine.failureDomain = some id then 1 else 0) =
      countIn (staying machines.list) id := by
  have counts := Keyed.countP_update inside leaving leaving_name
    fun machine => machine.failureDomain = some id && !machine.deleting
  rw [countIn_staying, countIn_staying, askToLeave]
  simpa [leaving, present] using counts

theorem staying_of_settled (settled : ∀ machine ∈ machines, machine.deleting = false) :
    staying machines.list = machines.list := by
  rw [staying, filter_eq_self]
  intro machine inside
  rw [settled machine inside]
  rfl

theorem spread_of_settled (settled : ∀ machine ∈ machines, machine.deleting = false) :
    spread machines = ⟨countIn machines.list, countIn machines.list⟩ := by
  rw [spread, staying_of_settled settled]

theorem spread_insert (nonempty : ids ≠ []) (sameIds : ∀ id, id ∈ controlPlaneIds pass.failureDomains ↔ id ∈ ids)
    (upToDate : ∀ machine ∈ machines, pass.notUpToDate machine.name = false)
    (settled : ∀ machine ∈ machines, machine.deleting = false) (alive : new.deleting = false)
    (placed : new.failureDomain = nextFailureDomainForScaleUp pass machines.list)
    (inserted : machines.insert new = some next) : Spread.Step ids (spread machines) (spread next) := by
  have known : controlPlaneIds pass.failureDomains ≠ [] := by
    rcases exists_mem_of_ne_nil ids nonempty with ⟨id, isId⟩
    exact ne_nil_of_mem ((sameIds id).mpr isId)
  have counted : (machines.list.filter fun machine => !pass.notUpToDate machine.name && !machine.deleting) =
      machines.list := by
    rw [filter_eq_self]
    intro machine inside
    rw [upToDate machine inside, settled machine inside]
    rfl
  rw [nextFailureDomainForScaleUp, if_neg known, counted] at placed
  rcases Option.isSome_iff_exists.mp (@pickFewest_isSome _ machines.list known) with ⟨_, picked⟩
  rw [picked] at placed
  have settledNext : ∀ machine ∈ next, machine.deleting = false := by
    intro machine inside
    rcases (Keyed.insert_eq_some inserted machine).mp inside with rfl | old
    · exact alive
    · exact settled machine old
  rw [spread_of_settled settled, spread_of_settled settledNext, Keyed.list_insert inserted, countIn_cons placed]
  apply Spread.Step.join
  intro other isOther
  exact rel_of_head?_insertionSort picked other ((sameIds other).mpr isOther)

theorem spread_askToLeave {kcp : ScaledControlPlane} {etcd : EtcdCluster}
    (sameIds : ∀ id, id ∈ controlPlaneIds pass.failureDomains ↔ id ∈ ids)
    (settled : ∀ machine ∈ machines, machine.deleting = false)
    (notAnnotated : ∀ machine ∈ machines, machine.deleteMachine = false)
    (scalesDown : ScalesDown kcp pass machines.list [] machine etcd) :
    Spread.Step ids (spread machines) (spread (askToLeave machines machine)) := by
  have inside : machine ∈ machines := selectMachineForScaleDown_mem (nil_subset _) scalesDown.selected
  have candidates : scaleDownCandidates kcp.isEtcdManaged machines.list [] = machines.list := by
    have noAnnotation : machineWithDeleteAnnotation machines.list = [] := by
      unfold machineWithDeleteAnnotation
      rw [filter_eq_nil_iff]
      intro other otherInside
      rw [notAnnotated other otherInside]
      exact Bool.false_ne_true
    have noneOutdated : machineWithDeleteAnnotation [] = [] := rfl
    have noneUnhealthy : unhealthyMachinesWithUnhealthyControlPlaneComponents kcp.isEtcdManaged [] = [] := rfl
    rw [scaleDownCandidates, noneOutdated, noAnnotation, noneUnhealthy]
    rfl
  have counts := fun id => countIn_staying_askToLeave inside (settled machine inside) id
  rw [staying_of_settled settled] at counts
  have target : MostCrowded machines.list machines.list machine ∨
      ∀ id ∈ controlPlaneIds pass.failureDomains, machine.failureDomain ≠ some id := by
    rcases selectMachineForScaleDown_target kcp.isEtcdManaged pass.failureDomains
      (ne_nil_of_mem inside) (nil_subset _) with ⟨other, selected, target⟩
    rw [scalesDown.selected, Except.ok.injEq] at selected
    subst selected
    rw [candidates] at target
    exact target.placed
  rcases target with ⟨id, placed, most⟩ | outside
  · have left : countIn (staying (askToLeave machines machine).list) =
        Function.update (countIn machines.list) id (countIn machines.list id - 1) := by
      funext other
      have count := counts other
      rw [placed] at count
      by_cases same : other = id
      · rw [same] at count ⊢
        rw [if_pos rfl] at count
        rw [Function.update_self]
        omega
      · rw [if_neg fun equal => same (Option.some.inj equal).symm] at count
        rw [Function.update_of_ne same]
        exact count
    rw [spread_of_settled settled, spread, left, askToLeave, countIn_update leaving_name fun _ => rfl]
    apply Spread.Step.askToLeave
    intro other _
    rcases Nat.eq_zero_or_pos (countIn machines.list other) with none | some
    · rw [none]
      exact Nat.zero_le _
    · rcases countP_pos_iff.mp some with ⟨hosted, hostedInside, inDomain⟩
      exact most hosted hostedInside other (of_decide_eq_true inDomain)
  · rw [spread_of_settled settled]
    apply Spread.Step.idle
    · intro id _
      exact (congrFun (countIn_update leaving_name fun _ => rfl) id).le
    · intro id isId
      have count := counts id
      rwa [if_neg (outside id ((sameIds id).mpr isId))] at count

/-- Every step is one of the spread over the failure domains. -/
theorem step_spread (nonempty : ids ≠ []) {action : Action} (plain : Plain ids machines action)
    (taken : step machines action = some next) : Spread.Step ids (spread machines) (spread next) := by
  have unchanged : Spread.Step ids (spread machines) (spread machines) :=
    .idle (fun _ _ => Nat.le_refl _) fun _ _ => rfl
  cases action with
  | reconcile kcp pass =>
    rcases plain with ⟨sameIds, upToDate, notAnnotated⟩
    rw [step] at taken
    cases made : (reconcile kcp pass machines.list).call with
    | none =>
      rw [made] at taken
      cases taken
      exact unchanged
    | some =>
      rw [made] at taken
      split_ifs at taken with failed
      · cases taken
        exact unchanged
      · rcases reconcile_call_of_upToDate upToDate made with
          ⟨settled, ⟨new, rfl, alive, placed⟩ | ⟨machine, etcd, rfl, scalesDown⟩⟩
        · exact spread_insert nonempty sameIds upToDate settled alive placed taken
        · cases taken
          exact spread_askToLeave sameIds settled (notAnnotated machine etcd made) scalesDown
  | observe seen =>
    cases taken
    apply Spread.Step.idle
    · intro id _
      exact (congrFun (countIn_update (observed_name seen) fun _ => rfl) id).le
    · intro id _
      change countIn (staying (observe machines seen).list) id = countIn (staying machines.list) id
      rw [countIn_staying, countIn_staying]
      change (machines.list.map _).countP _ = _
      rw [countP_map]
      apply countP_congr
      intro machine _
      rw [Function.comp_apply]
      split_ifs
      · rfl
      · rfl
  | deleted =>
    cases taken
    apply Spread.Step.idle
    · intro id _
      exact filter_sublist.countP_le
    · intro id _
      change countIn (staying (machines.list.filter _)) id = countIn (staying machines.list) id
      rw [countIn_staying, countIn_staying, countP_filter]
      apply countP_congr
      intro machine _
      cases machine.deleting <;> simp

end

/-- The Machines stay balanced over the failure domains.  The deletion of a Machine may be under way: it then does not
matter whether the Machine still counts. -/
theorem run_keepsBalance {ids : List String} (nonempty : ids ≠ []) {start final : Machines} {schedule : List Action}
    (balanced : Balanced ids (countIn (staying start.list))) (plain : Meets step (Plain ids) start schedule)
    (executed : execute step start schedule = some final) :
    Balanced ids (countIn (staying final.list)) ∧
      ((∀ machine ∈ start, machine.deleting = false) → Balanced ids (countIn final.list)) := by
  constructor
  · have preserved : ∀ machines action next, Balanced ids (spread machines).staying → Plain ids machines action →
        step machines action = some next → Balanced ids (spread next).staying := by
      intro machines action next holds met taken
      exact (step_spread nonempty met taken).balanced holds
    have kept := execute_invariant preserved balanced plain executed
    exact kept
  · intro settled
    rw [staying_of_settled settled] at balanced
    have initially : Within ids (spread start).counted (spread start).staying := by
      rw [spread_of_settled settled]
      exact balanced
    have preserved : ∀ machines action next, Within ids (spread machines).counted
        (spread machines).staying → Plain ids machines action → step machines action = some next →
          Within ids (spread next).counted (spread next).staying := by
      intro _ _ _ holds met taken
      exact (step_spread nonempty met taken).within holds
    apply (execute_invariant preserved initially plain executed).mono fun _ _ => Nat.le_refl _
    intro _ _
    exact filter_sublist.countP_le

namespace Example

def start : Machines := ⟨[Scaling.Example.healthy "first" "a", Scaling.Example.healthy "second" "b"], by decide⟩

/-- A Machine is added and becomes healthy, and then two are too many. -/
def schedule : List Action :=
  [.reconcile (Scaling.Example.kcp 3) Scaling.Example.pass .ok, .observe (Scaling.Example.healthy "new" ""),
    .reconcile (Scaling.Example.kcp 1) Scaling.Example.pass .ok]

/-- `Plain`, without a look at what the reconcile does. -/
def plain (machines : Machines) : Action → Bool
  | .reconcile _ pass _ => controlPlaneIds pass.failureDomains = ["a", "b"] ∧
      ∀ machine ∈ machines.list, pass.notUpToDate machine.name = false ∧ machine.deleteMachine = false
  | .observe _ => true
  | .deleted _ => true

end Example

/-- One scale up and one scale down of a control plane with two failure domains. -/
theorem run_keepsBalance_upAndDown :
    ∃ final, execute step Example.start Example.schedule = some final ∧
      final.list.map (fun machine => (machine.name, machine.failureDomain, machine.deleting)) =
        [("new", some "a", false), ("first", some "a", true), ("second", some "b", false)] ∧
      Balanced ["a", "b"] (countIn (staying final.list)) ∧ Balanced ["a", "b"] (countIn final.list) := by
  have outcome : (execute step Example.start Example.schedule).map (fun final =>
      final.list.map fun machine => (machine.name, machine.failureDomain, machine.deleting)) =
        some [("new", some "a", false), ("first", some "a", true), ("second", some "b", false)] := by
    decide +kernel
  have meets : Meets step (fun machines action => Example.plain machines action = true) Example.start
      Example.schedule := by
    decide +kernel
  have plain : Meets step (Plain ["a", "b"]) Example.start Example.schedule := by
    refine Meets.mono (fun machines action isPlain => ?_) meets
    cases action with
    | reconcile kcp pass reply =>
      rcases of_decide_eq_true isPlain with ⟨ids, all⟩
      exact ⟨fun id => by rw [ids], fun machine inside => (all machine inside).1,
        fun _ _ _ other inside => (all other inside).2⟩
    | observe | deleted => trivial
  rcases Option.map_eq_some_iff.mp outcome with ⟨final, executed, list⟩
  have balanced : Balanced ["a", "b"] (countIn (staying Example.start.list)) := by
    unfold Foundation.Balanced Within
    decide
  have result := run_keepsBalance (cons_ne_nil _ _) balanced plain executed
  exact ⟨final, executed, list, result.1, result.2 (by decide)⟩

end Balancing

end ClusterApi.ControlPlane.Scaling

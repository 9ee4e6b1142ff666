import ClusterApi.ControlPlane.Scaling
import ClusterApi.Foundation.Population

namespace ClusterApi.ControlPlane.Scaling

open Foundation List

/-!
# The size of a control plane

A run interleaves reconciles of a control plane whose replicas and surge do not
change with everything else that happens to its Machines: they become healthy
or unhealthy, and deletions complete.  Which Machines are not up to date, the
failure domains, etcd and the answers to all calls may differ from one
reconcile to the next.

Seen from outside, the Machines are a population that changes by one member at
a time, and only while no member is on its way out.
-/

/-- The storage of an API server is limited: it cannot hold as many Machines as a 32-bit integer can count. -/
structure ApiServer where
  capacity : Nat
  limited : capacity + 1 < 2 ^ 31

/-- The Machines of a control plane, as an API server holds them. -/
structure Machines (server : ApiServer) where
  list : List ScalableMachine
  distinct : (list.map fun machine => machine.name).Nodup
  fits : list.length ≤ server.capacity

namespace Machines

variable {server : ApiServer}

/-- A name that is taken is refused, and so is everything once the storage is full. -/
def insert (machines : Machines server) (new : ScalableMachine) : Option (Machines server) :=
  if accepted : new.name ∉ machines.list.map (fun machine => machine.name) ∧ machines.list.length < server.capacity then
    some { list := new :: machines.list
           distinct := List.nodup_cons.mpr ⟨accepted.1, machines.distinct⟩
           fits := accepted.2 }
  else none

/-- Change every Machine in a way that keeps its name. -/
def modify (machines : Machines server) (change : ScalableMachine → ScalableMachine)
    (keepsName : ∀ machine, (change machine).name = machine.name) : Machines server where
  list := machines.list.map change
  distinct := by
    rw [List.map_map]
    have same : (fun machine : ScalableMachine => machine.name) ∘ change = fun machine => machine.name := by
      funext machine
      exact keepsName machine
    rw [same]
    exact machines.distinct
  fits := by
    rw [List.length_map]
    exact machines.fits

/-- The Machine of a name, if it is being deleted. -/
def isLeaving (name : String) (machine : ScalableMachine) : Bool := machine.name = name && machine.deleting

/-- The deletion of a Machine completes. -/
def remove (machines : Machines server) (name : String) : Machines server where
  list := machines.list.eraseP (isLeaving name)
  distinct := machines.distinct.sublist (List.eraseP_sublist.map _)
  fits := List.eraseP_sublist.length_le.trans machines.fits

end Machines

/-- The deletion timestamp is set. -/
def markDeleting (name : String) (machine : ScalableMachine) : ScalableMachine :=
  if machine.name = name then { machine with deleting := true } else machine

/-- A Machine has new contents, but for its name and its deletion timestamp. -/
def observe (seen machine : ScalableMachine) : ScalableMachine :=
  if machine.name = seen.name then { seen with name := machine.name, deleting := machine.deleting } else machine

theorem markDeleting_name (name : String) (machine : ScalableMachine) :
    (markDeleting name machine).name = machine.name := by
  unfold markDeleting
  split_ifs
  · rfl
  · rfl

theorem observe_name (seen machine : ScalableMachine) : (observe seen machine).name = machine.name := by
  unfold observe
  split_ifs
  · rfl
  · rfl

theorem observe_deleting (seen machine : ScalableMachine) : (observe seen machine).deleting = machine.deleting := by
  unfold observe
  split_ifs
  · rfl
  · rfl

/-! ## Runs -/

/-- The replicas and the surge that a control plane keeps. -/
structure Sizing where
  replicas : Int32
  surge : Int32
  positive : 1 ≤ replicas.toInt
  zeroOrOne : surge = 0 ∨ surge = 1

/-- A reconcile of a control plane with these settings and a managed etcd. -/
structure Reading (sizing : Sizing) where
  kcp : ScaledControlPlane
  pass : Pass
  /-- What becomes of the call that changes the number of Machines. -/
  reply : Reply
  managed : kcp.isEtcdManaged = true
  sameReplicas : kcp.replicas = sizing.replicas
  sameSurge : ∀ maxSurge, kcp.maxSurge = some maxSurge → Int32.ofInt (pass.intValue maxSurge) = sizing.surge

inductive Action (sizing : Sizing)
  | reconcile (reading : Reading sizing)
  | observe (seen : ScalableMachine)
  | deleted (name : String)

/-- The effect of a call on the Machines. -/
def applyCall {server : ApiServer} (machines : Machines server) : Call → Option (Machines server)
  | .createMachine new => machines.insert new
  | .deleteMachine machine _ => some (machines.modify (markDeleting machine.name) (markDeleting_name machine.name))

/-- Every reconcile reads the Machines as they are. -/
def step {server : ApiServer} {sizing : Sizing} (machines : Machines server) : Action sizing → Option (Machines server)
  | .reconcile reading =>
    match (reconcile reading.kcp reading.pass machines.list).call with
    | none => some machines
    | some call => if reading.reply = .failed then some machines else applyCall machines call
  | .observe seen => some (machines.modify (observe seen) (observe_name seen))
  | .deleted name => some (machines.remove name)

/-! ## The Machines as a population -/

section Simulation

variable {server : ApiServer} {sizing : Sizing}

def Machines.population (machines : Machines server) : Population where
  present := machines.list.countP fun machine => !machine.deleting
  leaving := machines.list.countP fun machine => machine.deleting

theorem population_total (machines : Machines server) : machines.population.total = machines.list.length := by
  rw [length_eq_countP_add_countP fun machine : ScalableMachine => !machine.deleting]
  simp [Population.total, Machines.population]

/-- The largest number of Machines that the settings ask for. -/
def Sizing.ceiling (sizing : Sizing) : Nat := (sizing.replicas.toInt + sizing.surge.toInt).toNat

/-- The sum of replicas and surge is a 32-bit integer. -/
def Sizing.Exact (sizing : Sizing) : Prop := sizing.replicas.toInt + sizing.surge.toInt < 2 ^ 31

instance (sizing : Sizing) : Decidable sizing.Exact := inferInstanceAs (Decidable (_ < _))

/-- The number of Machines below which no reconcile takes the control plane. -/
def Sizing.floor (sizing : Sizing) : Nat := if sizing.Exact then (sizing.replicas.toInt - 1).toNat else 0

theorem Sizing.surge_toInt (sizing : Sizing) : sizing.surge.toInt = 0 ∨ sizing.surge.toInt = 1 := by
  rcases sizing.zeroOrOne with isZero | isOne
  · rw [isZero]
    exact .inl rfl
  · rw [isOne]
    exact .inr rfl

theorem toInt_length (machines : Machines server) : (Int32.ofNat machines.list.length).toInt = machines.list.length := by
  have fits := machines.fits
  have limited := server.limited
  have size : Int32.size = 2 ^ 32 := rfl
  rw [Int32.toInt_ofNat', size, Int.bmod_eq_of_le] <;> omega

theorem toInt_add_surge (exact : sizing.Exact) :
    (sizing.replicas + sizing.surge).toInt = sizing.replicas.toInt + sizing.surge.toInt := by
  have positive := sizing.positive
  have surge := sizing.surge_toInt
  rw [Sizing.Exact] at exact
  apply FixedWidth.toInt_add_of_range <;> omega

variable {machines next : Machines server} (reading : Reading sizing)

theorem rolloutHasRoom_iff {maxSurge : MachineDeployment.IntOrString} (isSurge : reading.kcp.maxSurge = some maxSurge) :
    RolloutHasRoom reading.kcp reading.pass machines.list maxSurge ↔
      (machines.list.length : Int) < (sizing.replicas + sizing.surge).toInt := by
  rw [RolloutHasRoom, reading.sameReplicas, reading.sameSurge maxSurge isSurge, Int32.lt_iff_toInt_lt, toInt_length]

theorem length_lt_ceiling {new : ScalableMachine} (creates : Creates reading.kcp reading.pass machines.list new) :
    machines.list.length < sizing.ceiling := by
  have surge := sizing.surge_toInt
  rw [Sizing.ceiling]
  rcases creates.room with below | ⟨_, isSurge, room⟩
  · rw [reading.sameReplicas] at below
    omega
  · rw [rolloutHasRoom_iff reading isSurge] at room
    by_cases exact : sizing.Exact
    · rw [toInt_add_surge exact] at room
      omega
    · -- A sum that wraps around leaves no room at all.
      rw [Sizing.Exact] at exact
      rw [Int32.toInt_add, Int.bmod_def] at room
      split_ifs at room <;> omega

theorem floor_lt_length {machine : ScalableMachine} {etcd : EtcdCluster}
    (deletes : Deletes reading.kcp reading.pass machines.list machine etcd) (nonempty : 0 < machines.list.length) :
    sizing.floor < machines.list.length := by
  have surge := sizing.surge_toInt
  rw [Sizing.floor]
  split_ifs with exact
  · rcases deletes.excess with above | ⟨_, isSurge, noRoom⟩
    · rw [reading.sameReplicas] at above
      omega
    · rw [rolloutHasRoom_iff reading isSurge, toInt_add_surge exact] at noRoom
      omega
  · exact nonempty

/-! ### Effects on the population -/

variable {list : List ScalableMachine} {machine : ScalableMachine}

theorem countP_settled (settled : ∀ machine ∈ list, machine.deleting = false) :
    list.countP (fun machine => machine.deleting) = 0 ∧
      list.countP (fun machine => !machine.deleting) = list.length := by
  constructor
  · rw [countP_eq_zero]
    intro machine member
    rw [settled machine member]
    exact Bool.false_ne_true
  · rw [countP_eq_length]
    intro machine member
    rw [settled machine member]
    rfl

theorem population_settled (settled : ∀ machine ∈ machines.list, machine.deleting = false) :
    machines.population = ⟨machines.list.length, 0⟩ := by
  rcases countP_settled settled with ⟨none, all⟩
  rw [Machines.population, none, all]

theorem exists_split (member : machine ∈ machines.list) :
    ∃ before behind, machines.list = before ++ machine :: behind ∧
      (∀ other ∈ before, other.name ≠ machine.name) ∧ ∀ other ∈ behind, other.name ≠ machine.name := by
  rcases append_of_mem member with ⟨before, behind, isSplit⟩
  have distinct := machines.distinct
  rw [isSplit, map_append, map_cons, nodup_middle, nodup_cons, ← map_append] at distinct
  refine ⟨before, behind, isSplit, ?_, ?_⟩
  · intro other otherMember same
    apply distinct.1
    rw [← same]
    exact mem_map_of_mem (mem_append_left _ otherMember)
  · intro _ otherMember same
    apply distinct.1
    rw [← same]
    exact mem_map_of_mem (mem_append_right _ otherMember)

theorem map_markDeleting_of_ne {name : String} (others : ∀ other ∈ list, other.name ≠ name) :
    list.map (markDeleting name) = list := by
  have same : ∀ other ∈ list, markDeleting name other = id other := by
    intro other member
    rw [markDeleting, if_neg (others other member)]
    rfl
  rw [map_congr_left same, map_id]

theorem population_markDeleting (member : machine ∈ machines.list)
    (settled : ∀ other ∈ machines.list, other.deleting = false) :
    (machines.modify (markDeleting machine.name) (markDeleting_name machine.name)).population =
      ⟨machines.list.length - 1, 1⟩ := by
  rcases exists_split member with ⟨before, _, isSplit, notBefore, notBehind⟩
  have marked : (markDeleting machine.name machine).deleting = true := by rw [markDeleting, if_pos rfl]
  rw [isSplit] at settled
  have beforeCount := countP_settled fun other inside => settled other (mem_append_left _ inside)
  have behindCount := countP_settled fun other inside =>
    settled other (mem_append_right before (mem_cons_of_mem machine inside))
  simp only [Machines.population, Machines.modify]
  rw [isSplit, map_append, map_cons, map_markDeleting_of_ne notBefore, map_markDeleting_of_ne notBehind]
  simp only [countP_append, countP_cons, marked, beforeCount, behindCount, length_append,
    length_cons]
  simp

theorem population_remove (machines : Machines server) (name : String) :
    (machines.remove name).population = machines.population ∨
      ∃ present leaving, machines.population = ⟨present, leaving + 1⟩ ∧
        (machines.remove name).population = ⟨present, leaving⟩ := by
  simp only [Machines.population, Machines.remove]
  by_cases found : ∃ machine ∈ machines.list, Machines.isLeaving name machine = true
  · rcases found with ⟨machine, member, isIt⟩
    rcases exists_of_eraseP member isIt with ⟨gone, _, _, -, isGone, isSplit, isRest⟩
    have leaves : gone.deleting = true := (Bool.and_eq_true_iff.mp isGone).2
    rw [isRest, isSplit]
    refine .inr ⟨_, _, ?_, rfl⟩
    simp only [countP_append, countP_cons, leaves]
    simp [Nat.add_assoc]
  · rw [eraseP_of_forall_not]
    · exact .inl rfl
    · intro machine member isIt
      exact found ⟨machine, member, isIt⟩

theorem step_simulates {action : Action sizing} (taken : step machines action = some next) :
    Population.Step sizing.floor sizing.ceiling machines.population next.population := by
  cases action with
  | observe =>
    cases taken
    simp only [Machines.population, Machines.modify, countP_map, Function.comp_def, observe_deleting]
    exact .idle _
  | deleted name =>
    cases taken
    rcases population_remove machines name with same | ⟨present, leaving, isBefore, isAfter⟩
    · rw [same]
      exact .idle _
    · rw [isBefore, isAfter]
      exact .left present leaving
  | reconcile reading =>
    rw [step] at taken
    split at taken
    case h_1 =>
      cases taken
      exact .idle _
    case h_2 call made =>
      split_ifs at taken with failed
      · cases taken
        exact .idle _
      · rcases reconcile_call made with ⟨_, rfl, creates⟩ | ⟨_, _, rfl, deletes⟩
        · have below := length_lt_ceiling reading creates
          have joined : next.population = ⟨machines.population.present + 1, machines.population.leaving⟩ := by
            simp only [applyCall, Machines.insert] at taken
            split at taken
            · cases taken
              simp [Machines.population, creates.alive]
            · cases taken
          rw [joined, population_settled creates.settled]
          exact .join below
        · rcases deletes.scalesDown with ⟨_, inside, scalesDown⟩
          have member := selectMachineForScaleDown_mem inside scalesDown.selected
          have settled := settled_of_preflight scalesDown.preflight
          have nonempty : 0 < machines.list.length := length_pos_of_mem member
          have above := floor_lt_length reading deletes nonempty
          cases taken
          rw [population_markDeleting member settled, population_settled settled]
          rcases Nat.exists_eq_succ_of_ne_zero nonempty.ne' with ⟨_, isLength⟩
          rw [isLength] at above ⊢
          exact .askToLeave (Nat.lt_succ_iff.mp above)

end Simulation

/-! ## Bounds -/

/-- Some run leads from one state to the other. -/
def Reaches {server : ApiServer} (sizing : Sizing) (start final : Machines server) : Prop :=
  ∃ schedule : List (Action sizing), execute step start schedule = some final

/-- What the runs from a state keep. -/
structure KeepsSize {server : ApiServer} (sizing : Sizing) (start : Machines server) : Prop where
  /-- There are never more Machines than at the start or than replicas and surge add up to. -/
  ceiling : ∀ final, Reaches sizing start final →
    (final.list.length : Int) ≤ max (start.list.length : Int) (sizing.replicas.toInt + sizing.surge.toInt)
  /-- A delete is issued only while nothing else is being deleted and all other Machines are healthy. -/
  deletes : ∀ reached, Reaches sizing start reached → ∀ (reading : Reading sizing) machine etcd,
    (reconcile reading.kcp reading.pass reached.list).call = some (.deleteMachine machine etcd) →
      (∀ other ∈ reached.list, other.deleting = false) ∧
        ∀ other ∈ reached.list, other.name ≠ machine.name → PassesPreflight true other
  /-- Once there are as many Machines as replicas, the number of those that are not being deleted does not fall
  below one less.  Only a run that starts with several Machines being deleted may begin below. -/
  floor : ∀ reached final, Reaches sizing start reached → Reaches sizing reached final →
    sizing.replicas.toInt ≤ reached.list.length →
    start.population.leaving ≤ 1 ∨ sizing.replicas.toInt - 1 ≤ reached.population.present →
      sizing.replicas.toInt - 1 ≤ final.population.present

section Bounds

variable {server : ApiServer} {sizing : Sizing} {start final : Machines server}

theorem Reaches.simulates (reaches : Reaches sizing start final) :
    Relation.ReflTransGen (Population.Step sizing.floor sizing.ceiling) start.population final.population := by
  rcases reaches with ⟨_, executed⟩
  exact execute_simulates Machines.population (fun _ _ _ taken => step_simulates taken) executed

/-- Every run of a control plane keeps its size between the two bounds. -/
theorem run_keepsSize (sizing : Sizing) (start : Machines server) : KeepsSize sizing start where
  ceiling := by
    intro final reaches
    have bound := Population.total_le reaches.simulates
    rw [population_total, population_total, Sizing.ceiling] at bound
    omega
  deletes := by
    intro reached _ reading _ _ made
    rcases reconcile_call made with ⟨_, impossible, -⟩ | ⟨_, _, same, deletes⟩
    · cases impossible
    · cases same
      rcases deletes.scalesDown with ⟨_, -, scalesDown⟩
      have preflight := scalesDown.preflight
      rw [reading.managed] at preflight
      rcases preflightChecks_wait preflight with empty | ⟨settled, healthy⟩
      · rw [empty]
        simp
      · refine ⟨settled, fun other member different => healthy other member ?_⟩
        simpa using different
  floor := by
    intro reached _ toReached toFinal _ notBelow
    have atReached : sizing.replicas.toInt - 1 ≤ reached.population.present := by
      rcases notBelow with fewAtStart | atReached
      · have fewLeaving := Population.leaving_le toReached.simulates
        have total := population_total reached
        rw [Population.total] at total
        omega
      · exact atReached
    have isFloor : sizing.floor = (sizing.replicas.toInt - 1).toNat := by
      -- The sum with the surge does not wrap around, as no more replicas than Machines are wanted.
      have fits := reached.fits
      have limited := server.limited
      have surge := sizing.surge_toInt
      rw [Sizing.floor, if_pos]
      rw [Sizing.Exact]
      omega
    have kept := Population.floor_le toFinal.simulates (by omega)
    omega

end Bounds

/-! ## A start with several Machines being deleted -/

namespace Example

def server : ApiServer := ⟨10, by decide⟩

def sizing : Sizing := ⟨3, 1, by decide, .inr rfl⟩

def reading : Reading sizing := ⟨kcp 3, pass, .ok, rfl, rfl, fun _ impossible => by cases impossible⟩

/-- One Machine more than wanted. -/
def four : Machines server where
  list := [healthy "first" "a", healthy "second" "b", healthy "third" "a", healthy "new" "b"]
  distinct := by decide
  fits := by decide

/-- Somebody else has deleted two of three Machines. -/
def twoLeaving : Machines server where
  list := [healthy "first" "a", { healthy "second" "b" with deleting := true }, { healthy "third" "a" with deleting := true }]
  distinct := by decide
  fits := by decide

end Example

/-- One of four Machines is deleted, and no second one while it is on its way out. -/
theorem run_keepsSize_scaleDown :
    ∃ final, execute step Example.four [.reconcile Example.reading, .reconcile Example.reading] = some final ∧
      final.population = ⟨3, 1⟩ ∧ Example.sizing.replicas.toInt - 1 ≤ final.population.present := by
  have outcome : (execute step Example.four [.reconcile Example.reading, .reconcile Example.reading]).map
      (fun final => final.population) = some ⟨3, 1⟩ := by
    decide +kernel
  rcases Option.map_eq_some_iff.mp outcome with ⟨final, executed, population⟩
  refine ⟨final, executed, population, ?_⟩
  exact (run_keepsSize Example.sizing Example.four).floor Example.four final ⟨[], rfl⟩ ⟨_, executed⟩ (by decide)
    (.inl (by decide))

/-- Three Machines have existed, and the number of those that are not being deleted is below two. -/
theorem twoLeaving_belowFloor :
    ¬ ∀ reached final : Machines Example.server, Reaches Example.sizing Example.twoLeaving reached →
      Reaches Example.sizing reached final → Example.sizing.replicas.toInt ≤ reached.list.length →
        Example.sizing.replicas.toInt - 1 ≤ final.population.present := by
  intro floor
  exact absurd (floor Example.twoLeaving Example.twoLeaving ⟨[], rfl⟩ ⟨[], rfl⟩ (by decide)) (by decide)

end ClusterApi.ControlPlane.Scaling

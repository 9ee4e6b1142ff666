import ClusterApi.Machine.DrainFilters

namespace ClusterApi.Drain

open List

/-!
# Eviction in drain order

`EvictPods` evicts only Pods of the smallest drain order among all Pods to be
drained, those that are already terminating included.  A drain calls it again
and again, and in between, and also in the middle of a call, Pods terminate.

A call is run together with what happens to the Node meanwhile, and records
every eviction request with the Pods that existed at that moment.
-/

/-! ## The result of a call -/

structure EvictionResult where
  podsDeletionTimestampSet : List Pod := []
  /-- The Pods whose eviction failed, by message. -/
  podsFailedEviction : List (String × List Pod) := []
  podsToTriggerEvictionLater : List Pod := []
  podsNotFound : List Pod := []
  podsIgnored : List Pod := []

def EvictionResult.drainCompleted (result : EvictionResult) : Bool :=
  result.podsDeletionTimestampSet.isEmpty && result.podsFailedEviction.isEmpty &&
    result.podsToTriggerEvictionLater.isEmpty

/-- Append to the entry of a message. -/
def addFailed (message : String) (pod : Pod) : List (String × List Pod) → List (String × List Pod)
  | [] => [(message, [pod])]
  | (found, failed) :: rest =>
    if found = message then (found, failed ++ [pod]) :: rest else (found, failed) :: addFailed message pod rest

/-- How the API server answers a request to evict a Pod. -/
inductive EvictionAnswer
  /-- The Pod is being deleted from now on. -/
  | evicted (deletionTimestamp : Int)
  | notFound
  /-- A status error carries its message and, if it has details, their causes. -/
  | tooManyRequests (error : String) (status : Option (String × Option (List String)))
  /-- Forbidden, because the namespace is being terminated. -/
  | namespaceTerminating
  | failed (error : String)

def tooManyRequestsMessage (error : String) : Option (String × Option (List String)) → String
  | none => error
  | some (message, none) => message
  | some (message, some causes) => message ++ " " ++ ",".intercalate causes

def namespaceTerminatingMessage : String :=
  "Cannot evict pod from terminating namespace: unable to create eviction (kube-controller-manager should set deletionTimestamp)"

def evictionTimeoutMessage : String := "eviction timeout of 10s reached, eviction will be retried"

def EvictionResult.addFailure (result : EvictionResult) (message : String) (pod : Pod) : EvictionResult :=
  { result with podsFailedEviction := addFailed message pod result.podsFailedEviction }

/-- Enter the answer for a Pod into the result. -/
def EvictionResult.record (result : EvictionResult) (pod : Pod) : EvictionAnswer → EvictionResult
  | .evicted _ => { result with podsDeletionTimestampSet := result.podsDeletionTimestampSet ++ [pod] }
  | .notFound => { result with podsNotFound := result.podsNotFound ++ [pod] }
  | .tooManyRequests error status => result.addFailure (tooManyRequestsMessage error status) pod
  | .namespaceTerminating => result.addFailure namespaceTerminatingMessage pod
  | .failed error => result.addFailure error pod

/-! ## Pods of a Node -/

/-- Pods with different keys. -/
structure PodSet where
  pods : List Pod
  distinct : (pods.map Pod.key).Nodup

/-- What happens to the Pods of the Node besides the drain. -/
inductive Disturbance
  | terminated (key : String)
  | deleted (key : String) (deletionTimestamp : Int)

def Pod.markDeleted (key : String) (deletionTimestamp : Int) (pod : Pod) : Pod :=
  if pod.key = key then { pod with deletionTimestamp := pod.deletionTimestamp.or (some deletionTimestamp) } else pod

@[simp]
theorem Pod.key_markDeleted (key : String) (deletionTimestamp : Int) (pod : Pod) :
    (pod.markDeleted key deletionTimestamp).key = pod.key := by
  unfold Pod.markDeleted
  split_ifs
  · rfl
  · rfl

def PodSet.disturb (node : PodSet) : Disturbance → PodSet
  | .terminated key =>
    { pods := node.pods.filter fun pod => pod.key ≠ key
      distinct := node.distinct.sublist (List.filter_sublist.map Pod.key) }
  | .deleted key deletionTimestamp =>
    { pods := node.pods.map (Pod.markDeleted key deletionTimestamp)
      distinct := by
        rw [List.map_map]
        have same : Pod.key ∘ Pod.markDeleted key deletionTimestamp = Pod.key := by
          funext pod
          exact Pod.key_markDeleted key deletionTimestamp pod
        rw [same]
        exact node.distinct }

/-! ## The call -/

def PodDelete.order (item : PodDelete) : Int32 := item.status.drainOrder.getD 0

def lowerToOrder (minOrder : Int32) (item : PodDelete) : Int32 :=
  if item.status.drainBehavior = .drain ∧ item.order < minOrder then item.order else minOrder

def minDrainOrderOfPodsToDrain (items : List PodDelete) : Int32 := items.foldl lowerToOrder Int32.maxValue

/-- The switch over the listed Pods. -/
inductive Turn
  | evictNow
  | evictLater
  | terminating
  | ignore
  deriving DecidableEq

def PodDelete.turn (minDrainOrder : Int32) (item : PodDelete) : Turn :=
  if item.status.drainBehavior = .drain ∧ item.pod.deletionTimestamp = none then
    if item.order = minDrainOrder then .evictNow else .evictLater
  else if item.status.drainBehavior = .drain then .terminating
  else .ignore

/-- The body of an eviction request. -/
structure EvictionRequest where
  namespaceName : String
  name : String
  gracePeriodSeconds : Option Int

def evictPod (helper : Helper) (pod : Pod) : EvictionRequest :=
  { namespaceName := pod.namespaceName
    name := pod.name
    gracePeriodSeconds := if 0 ≤ helper.gracePeriodSeconds then some helper.gracePeriodSeconds else none }

/-- A request, the drain order it was made for, the list of the call, and the Pods that existed. -/
structure Request where
  eviction : EvictionRequest
  order : Int32
  listed : List PodDelete
  onNode : List Pod

structure Report where
  listed : List PodDelete
  result : EvictionResult

structure State where
  node : PodSet
  requests : List Request := []
  reports : List Report := []

/-- The turn of a Pod: what happens before, and whether the request is made before the timeout. -/
structure Moment where
  before : List Disturbance := []
  answer : Option EvictionAnswer

/-- The Node after an answer. -/
def PodSet.answered (node : PodSet) (pod : Pod) : EvictionAnswer → PodSet
  | .evicted deletionTimestamp => node.disturb (.deleted pod.key deletionTimestamp)
  | _ => node

section Call

variable (helper : Helper) (moments : Pod → Moment) (listed : List PodDelete)

/-- The loop over the Pods to be evicted now. -/
def evictionLoop : State → EvictionResult → List PodDelete → State × EvictionResult
  | state, result, [] => (state, result)
  | state, result, item :: rest =>
    let node := (moments item.pod).before.foldl PodSet.disturb state.node
    match (moments item.pod).answer with
    | none => evictionLoop { state with node } (result.addFailure evictionTimeoutMessage item.pod) rest
    | some answer =>
      let request : Request :=
        { eviction := evictPod helper item.pod, order := item.order, listed, onNode := node.pods }
      evictionLoop { state with node := node.answered item.pod answer, requests := state.requests ++ [request] }
        (result.record item.pod answer) rest

def podsOf (turn : Turn) : List PodDelete :=
  listed.filter fun item => item.turn (minDrainOrderOfPodsToDrain listed) = turn

/-- A call with a sorted list. -/
def evictSorted (state : State) : State × EvictionResult :=
  let started : EvictionResult :=
    { podsIgnored := (podsOf listed .ignore).map PodDelete.pod
      podsDeletionTimestampSet := (podsOf listed .terminating).map PodDelete.pod }
  let (state, result) := evictionLoop helper moments listed state started (podsOf listed .evictNow)
  (state, { result with podsToTriggerEvictionLater := (podsOf listed .evictLater).map PodDelete.pod })

end Call

def sortPodDeletes (items : List PodDelete) : List PodDelete :=
  items.insertionSort fun first second => first.pod.key ≤ second.pod.key

def evictPods (helper : Helper) (moments : Pod → Moment) (items : List PodDelete) (state : State) :
    State × EvictionResult :=
  evictSorted helper moments (sortPodDeletes items) state

/-! ## Runs -/

/-- Something happens to a Pod, or the drain calls `EvictPods` with the Pods it
finds on the Node, each with some status. -/
inductive Event
  | disturbed (disturbance : Disturbance)
  | evictPods (helper : Helper) (status : Pod → PodDeleteStatus) (moments : Pod → Moment)

def step (state : State) : Event → State
  | .disturbed disturbance => { state with node := state.node.disturb disturbance }
  | .evictPods helper status moments =>
    let items := state.node.pods.map fun pod => ⟨pod, status pod⟩
    let (next, result) := evictPods helper moments items state
    { next with reports := next.reports ++ [⟨sortPodDeletes items, result⟩] }

/-- A run from a Node on which no drain has started. -/
def run (node : PodSet) (events : List Event) : State := events.foldl step { node }

/-! ## The law -/

inductive ResultClass
  | deletionTimestampSet
  | failedEviction
  | evictionLater
  | notFound
  | ignored
  deriving DecidableEq

def ResultClass.all : List ResultClass := [.deletionTimestampSet, .failedEviction, .evictionLater, .notFound, .ignored]

theorem ResultClass.mem_all (resultClass : ResultClass) : resultClass ∈ ResultClass.all := by
  cases resultClass <;> decide

def EvictionResult.podsIn (result : EvictionResult) : ResultClass → List Pod
  | .deletionTimestampSet => result.podsDeletionTimestampSet
  | .failedEviction => result.podsFailedEviction.flatMap Prod.snd
  | .evictionLater => result.podsToTriggerEvictionLater
  | .notFound => result.podsNotFound
  | .ignored => result.podsIgnored

/-- No Pod to be drained of a smaller order existed when the request was made. -/
def Request.InOrder (request : Request) : Prop :=
  ∀ pod ∈ request.onNode, ∃ item ∈ request.listed, item.pod.key = pod.key ∧
    (item.status.drainBehavior = .drain → request.order ≤ item.order)

structure Report.Sound (report : Report) : Prop where
  /-- Every Pod to be drained is in one class. -/
  classified : ∀ item ∈ report.listed, item.status.drainBehavior = .drain →
    ∃! resultClass, item.pod ∈ report.result.podsIn resultClass
  /-- The drain is completed when every Pod to be drained was not found. -/
  completed : report.result.drainCompleted = true ↔
    ∀ item ∈ report.listed, item.status.drainBehavior = .drain → item.pod ∈ report.result.podsNotFound

structure State.Sound (state : State) : Prop where
  inOrder : ∀ request ∈ state.requests, request.InOrder
  reported : ∀ report ∈ state.reports, report.Sound

/-! ## Order of the requests -/

theorem lowerToOrder_le (minOrder : Int32) (item : PodDelete) :
    lowerToOrder minOrder item ≤ minOrder ∧
      (item.status.drainBehavior = .drain → lowerToOrder minOrder item ≤ item.order) := by
  unfold lowerToOrder
  split_ifs with smaller
  · exact ⟨Int32.le_of_lt smaller.2, fun _ => Int32.le_refl _⟩
  · refine ⟨Int32.le_refl _, fun drains => ?_⟩
    exact Int32.not_lt.mp fun less => smaller ⟨drains, less⟩

theorem foldl_lowerToOrder_le (items : List PodDelete) (start : Int32) :
    items.foldl lowerToOrder start ≤ start ∧
      ∀ item ∈ items, item.status.drainBehavior = .drain → items.foldl lowerToOrder start ≤ item.order := by
  induction items generalizing start with
  | nil => exact ⟨Int32.le_refl start, by simp⟩
  | cons item _ ih =>
    rcases ih (lowerToOrder start item) with ⟨leNext, leRest⟩
    rcases lowerToOrder_le start item with ⟨leStart, leItem⟩
    refine ⟨Int32.le_trans leNext leStart, fun other member drains => ?_⟩
    rcases mem_cons.mp member with rfl | later
    · exact Int32.le_trans leNext (leItem drains)
    · exact leRest other later drains

def PodSet.keys (node : PodSet) : List String := node.pods.map Pod.key

theorem PodSet.keys_disturb_subset (node : PodSet) (disturbance : Disturbance) :
    (node.disturb disturbance).keys ⊆ node.keys := by
  cases disturbance with
  | terminated =>
    apply map_subset
    exact filter_subset_self _
  | deleted =>
    simp only [PodSet.disturb, PodSet.keys, map_map]
    intro _ member
    rcases mem_map.mp member with ⟨_, inside, rfl⟩
    rw [Function.comp_apply, Pod.key_markDeleted]
    exact mem_map_of_mem inside

theorem PodSet.keys_foldl_disturb_subset (node : PodSet) (disturbances : List Disturbance) :
    (disturbances.foldl PodSet.disturb node).keys ⊆ node.keys := by
  induction disturbances generalizing node with
  | nil => exact List.Subset.refl _
  | cons disturbance _ ih =>
    exact List.Subset.trans (ih (node.disturb disturbance)) (node.keys_disturb_subset disturbance)

theorem PodSet.keys_answered_subset (node : PodSet) (pod : Pod) (answer : EvictionAnswer) :
    (node.answered pod answer).keys ⊆ node.keys := by
  cases answer with
  | evicted => exact node.keys_disturb_subset _
  | notFound | tooManyRequests | namespaceTerminating | failed => exact List.Subset.refl _

section Requests

variable {helper : Helper} {moments : Pod → Moment} {listed items : List PodDelete}
  {result : EvictionResult} {state : State}

theorem evictionLoop_inOrder
    (smallest : ∀ item ∈ items, ∀ other ∈ listed, other.status.drainBehavior = .drain → item.order ≤ other.order)
    (known : state.node.keys ⊆ listed.map fun item => item.pod.key)
    (inOrder : ∀ request ∈ state.requests, request.InOrder) :
    ∀ request ∈ (evictionLoop helper moments listed state result items).1.requests, request.InOrder := by
  induction items generalizing state result with
  | nil => exact inOrder
  | cons item rest ih =>
    have restSmallest : ∀ later ∈ rest, ∀ other ∈ listed, other.status.drainBehavior = .drain →
        later.order ≤ other.order := fun later member => smallest later (mem_cons_of_mem _ member)
    have stillKnown := List.Subset.trans (state.node.keys_foldl_disturb_subset (moments item.pod).before) known
    unfold evictionLoop
    split
    case h_1 timeout => exact ih restSmallest stillKnown inOrder
    case h_2 answer answered =>
      apply ih restSmallest
      · exact List.Subset.trans (PodSet.keys_answered_subset _ item.pod answer) stillKnown
      · intro request member
        rcases mem_append.mp member with earlier | new
        · exact inOrder request earlier
        · rw [mem_singleton.mp new]
          -- The request is for a Pod of the smallest order, and the Node has listed Pods only.
          intro _ onNode
          rcases mem_map.mp (stillKnown (mem_map_of_mem onNode)) with ⟨other, inside, same⟩
          exact ⟨other, inside, same, smallest item mem_cons_self other inside⟩

theorem evictionLoop_reports : (evictionLoop helper moments listed state result items).1.reports = state.reports := by
  induction items generalizing state result with
  | nil => rfl
  | cons _ _ ih =>
    unfold evictionLoop
    split
    · exact ih
    · exact ih

end Requests

/-! ## Classes of the result -/

def EvictionResult.classified (result : EvictionResult) : List Pod := ResultClass.all.flatMap result.podsIn

theorem EvictionResult.count_classified (result : EvictionResult) (pod : Pod) :
    result.classified.count pod =
      result.podsDeletionTimestampSet.count pod + (result.podsFailedEviction.flatMap Prod.snd).count pod +
        result.podsToTriggerEvictionLater.count pod + result.podsNotFound.count pod + result.podsIgnored.count pod := by
  simp only [EvictionResult.classified, ResultClass.all, EvictionResult.podsIn, flatMap_cons,
    flatMap_nil, append_nil, count_append]
  omega

theorem count_flatMap_addFailed (message : String) (pod other : Pod) (failed : List (String × List Pod)) :
    ((addFailed message pod failed).flatMap Prod.snd).count other =
      (failed.flatMap Prod.snd).count other + [pod].count other := by
  induction failed with
  | nil => simp [addFailed]
  | cons _ _ ih =>
    unfold addFailed
    split_ifs
    · simp only [flatMap_cons, count_append]
      omega
    · simp only [flatMap_cons, count_append, ih]
      omega

theorem addFailed_nonempty {message : String} {pod : Pod} {failed : List (String × List Pod)}
    (nonempty : ∀ entry ∈ failed, entry.2 ≠ []) : ∀ entry ∈ addFailed message pod failed, entry.2 ≠ [] := by
  induction failed with
  | nil => simp [addFailed]
  | cons entry _ ih =>
    have restNonempty := ih fun later member => nonempty later (mem_cons_of_mem _ member)
    intro found member
    unfold addFailed at member
    split_ifs at member
    · rcases mem_cons.mp member with rfl | later
      · simp
      · exact nonempty found (mem_cons_of_mem _ later)
    · rcases mem_cons.mp member with rfl | later
      · exact nonempty entry mem_cons_self
      · exact restNonempty found later

/-- What entering Pods into the result does to it. -/
structure Entered (entered : List Pod) (before after : EvictionResult) : Prop where
  added : ∀ pod, after.classified.count pod = before.classified.count pod + entered.count pod
  ignored : after.podsIgnored = before.podsIgnored
  later : after.podsToTriggerEvictionLater = before.podsToTriggerEvictionLater
  nonempty : (∀ entry ∈ before.podsFailedEviction, entry.2 ≠ []) → ∀ entry ∈ after.podsFailedEviction, entry.2 ≠ []

theorem EvictionResult.entered_addFailure (result : EvictionResult) (message : String) (pod : Pod) :
    Entered [pod] result (result.addFailure message pod) where
  added := by
    simp only [EvictionResult.count_classified, EvictionResult.addFailure, count_flatMap_addFailed]
    omega
  ignored := rfl
  later := rfl
  nonempty := addFailed_nonempty

theorem EvictionResult.entered_record (result : EvictionResult) (pod : Pod)
    (answer : EvictionAnswer) : Entered [pod] result (result.record pod answer) := by
  cases answer with
  | evicted | notFound =>
    refine ⟨fun other => ?_, rfl, rfl, id⟩
    simp only [EvictionResult.count_classified, EvictionResult.record, count_append]
    omega
  | tooManyRequests | namespaceTerminating | failed => exact result.entered_addFailure _ pod

theorem Entered.append {first second : List Pod} {before between after : EvictionResult}
    (left : Entered first before between) (right : Entered second between after) :
    Entered (first ++ second) before after where
  added := by
    intro _
    rw [right.added, left.added, count_append]
    omega
  ignored := right.ignored.trans left.ignored
  later := right.later.trans left.later
  nonempty := fun nonempty => right.nonempty (left.nonempty nonempty)

theorem evictionLoop_entered (helper : Helper) (moments : Pod → Moment)
    (listed items : List PodDelete) (state : State) (result : EvictionResult) :
    Entered (items.map PodDelete.pod) result (evictionLoop helper moments listed state result items).2 := by
  induction items generalizing state result with
  | nil => exact ⟨fun _ => rfl, rfl, rfl, id⟩
  | cons item _ ih =>
    unfold evictionLoop
    split
    · exact (result.entered_addFailure _ item.pod).append (ih _ _)
    · exact (result.entered_record item.pod _).append (ih _ _)

theorem count_podsOf (listed : List PodDelete) (pod : Pod) :
    (listed.map PodDelete.pod).count pod =
      ((podsOf listed .ignore).map PodDelete.pod).count pod +
        ((podsOf listed .terminating).map PodDelete.pod).count pod +
        ((podsOf listed .evictNow).map PodDelete.pod).count pod +
        ((podsOf listed .evictLater).map PodDelete.pod).count pod := by
  unfold podsOf
  generalize minDrainOrderOfPodsToDrain listed = minDrainOrder
  induction listed with
  | nil => rfl
  | cons item _ ih =>
    cases turn : item.turn minDrainOrder
    all_goals
      simp only [map_cons, filter_cons, turn, count_cons, ih, decide_true, decide_false,
        reduceCtorEq, if_true, if_false, Bool.false_eq_true]
      omega

section Result

variable (helper : Helper) (moments : Pod → Moment) (listed : List PodDelete) (state : State)

theorem evictSorted_classified :
    (evictSorted helper moments listed state).2.classified.Perm (listed.map PodDelete.pod) := by
  apply perm_iff_count.mpr
  intro pod
  have entered := evictionLoop_entered helper moments listed (podsOf listed .evictNow) state
    { podsIgnored := (podsOf listed .ignore).map PodDelete.pod
      podsDeletionTimestampSet := (podsOf listed .terminating).map PodDelete.pod }
  have added := entered.added pod
  have noneLater := entered.later
  have turns := count_podsOf listed pod
  simp only [EvictionResult.count_classified] at added
  rw [noneLater] at added
  simp only [flatMap_nil, count_nil] at added
  simp only [evictSorted, EvictionResult.count_classified]
  omega

end Result

theorem PodDelete.turn_eq_ignore_iff {minDrainOrder : Int32} {item : PodDelete} :
    item.turn minDrainOrder = .ignore ↔ item.status.drainBehavior ≠ .drain := by
  unfold PodDelete.turn
  split_ifs with waiting smallest drains
  · simp [waiting.1]
  · simp [waiting.1]
  · simp [drains]
  · simp [drains]

/-! ## Exactly one class -/

theorem drainCompleted_iff_empty {result : EvictionResult}
    (failedNonempty : ∀ entry ∈ result.podsFailedEviction, entry.2 ≠ []) :
    result.drainCompleted = true ↔
      ∀ resultClass, resultClass = .notFound ∨ resultClass = .ignored ∨ result.podsIn resultClass = [] := by
  have failedEmpty : result.podsIn .failedEviction = [] ↔ result.podsFailedEviction = [] := by
    constructor
    · intro none
      apply eq_nil_iff_forall_not_mem.mpr
      intro entry member
      exact failedNonempty entry member (flatMap_eq_nil_iff.mp none entry member)
    · intro none
      rw [EvictionResult.podsIn, none, flatMap_nil]
  simp only [EvictionResult.drainCompleted, Bool.and_eq_true, List.isEmpty_iff]
  constructor
  · rintro ⟨⟨noneDeleted, noneFailed⟩, noneLater⟩ resultClass
    cases resultClass with
    | deletionTimestampSet => exact .inr (.inr noneDeleted)
    | failedEviction => exact .inr (.inr (failedEmpty.mpr noneFailed))
    | evictionLater => exact .inr (.inr noneLater)
    | notFound => exact .inl rfl
    | ignored => exact .inr (.inl rfl)
  · intro none
    have noneDeleted := none .deletionTimestampSet
    have noneFailed := none .failedEviction
    have noneLater := none .evictionLater
    simp only [reduceCtorEq, false_or] at noneDeleted noneFailed noneLater
    exact ⟨⟨noneDeleted, failedEmpty.mp noneFailed⟩, noneLater⟩

section Classes

variable {result : EvictionResult} {listed : List PodDelete} (distinct : (listed.map PodDelete.pod).Nodup)
  (classified : result.classified.Perm (listed.map PodDelete.pod))

include distinct classified

theorem podsIn_unique {pod : Pod} {first second : ResultClass} (inFirst : pod ∈ result.podsIn first)
    (inSecond : pod ∈ result.podsIn second) : first = second := by
  by_contra different
  have nodup : result.classified.Nodup := classified.nodup_iff.mpr distinct
  have disjoint := (nodup_flatMap.mp nodup).2
  have symmetric : Std.Symm (Function.onFun List.Disjoint result.podsIn) := ⟨fun _ _ apart => apart.symm⟩
  exact disjoint.forall first.mem_all second.mem_all different inFirst inSecond

theorem existsUnique_podsIn {item : PodDelete} (member : item ∈ listed) :
    ∃! resultClass, item.pod ∈ result.podsIn resultClass := by
  have found : item.pod ∈ result.classified := classified.mem_iff.mpr (mem_map_of_mem member)
  rcases mem_flatMap.mp found with ⟨resultClass, -, inClass⟩
  exact ⟨resultClass, inClass, fun other inOther => podsIn_unique distinct classified inOther inClass⟩

theorem drainCompleted_iff (failedNonempty : ∀ entry ∈ result.podsFailedEviction, entry.2 ≠ [])
    (ignored : ∀ item ∈ listed, item.pod ∈ result.podsIgnored ↔ item.status.drainBehavior ≠ .drain) :
    result.drainCompleted = true ↔
      ∀ item ∈ listed, item.status.drainBehavior = .drain → item.pod ∈ result.podsNotFound := by
  rw [drainCompleted_iff_empty failedNonempty]
  constructor
  · intro none item member drains
    rcases existsUnique_podsIn distinct classified member with ⟨resultClass, inClass, -⟩
    rcases none resultClass with rfl | rfl | nothing
    · exact inClass
    · exact absurd drains ((ignored item member).mp inClass)
    · rw [nothing] at inClass
      cases inClass
  · intro found resultClass
    by_contra some
    simp only [not_or] at some
    rcases some with ⟨notNotFound, notIgnored, nonempty⟩
    rcases exists_mem_of_ne_nil _ nonempty with ⟨pod, inClass⟩
    have member : pod ∈ result.classified := mem_flatMap.mpr ⟨resultClass, resultClass.mem_all, inClass⟩
    rcases mem_map.mp (classified.mem_iff.mp member) with ⟨item, inside, rfl⟩
    -- The Pod is in a second class, whether it is to be drained or not.
    by_cases drains : item.status.drainBehavior = .drain
    · exact notNotFound (podsIn_unique distinct classified inClass (found item inside drains))
    · exact notIgnored (podsIn_unique distinct classified inClass ((ignored item inside).mpr drains))

end Classes

/-! ## Every run -/

section Runs

variable {helper : Helper} {moments : Pod → Moment} {status : Pod → PodDeleteStatus} {state : State}

theorem sortPodDeletes_perm (items : List PodDelete) : (sortPodDeletes items).Perm items :=
  perm_insertionSort _ items

theorem PodSet.distinct_listed (node : PodSet) (status : Pod → PodDeleteStatus) :
    ((sortPodDeletes (node.pods.map fun pod => ⟨pod, status pod⟩)).map PodDelete.pod).Nodup := by
  have perm := (sortPodDeletes_perm (node.pods.map fun pod => ⟨pod, status pod⟩)).map PodDelete.pod
  rw [perm.nodup_iff, map_map]
  have same : PodDelete.pod ∘ (fun pod => ⟨pod, status pod⟩) = id := rfl
  rw [same, map_id]
  exact Nodup.of_map _ node.distinct

theorem evictSorted_report (helper : Helper) (moments : Pod → Moment) {listed : List PodDelete}
    (distinct : (listed.map PodDelete.pod).Nodup) (state : State) :
    Report.Sound ⟨listed, (evictSorted helper moments listed state).2⟩ := by
  have classified := evictSorted_classified helper moments listed state
  have entered := evictionLoop_entered helper moments listed (podsOf listed .evictNow) state
    { podsDeletionTimestampSet := (podsOf listed .terminating).map PodDelete.pod
      podsIgnored := (podsOf listed .ignore).map PodDelete.pod }
  have ignored : ∀ item ∈ listed, item.pod ∈ (evictSorted helper moments listed state).2.podsIgnored ↔
      item.status.drainBehavior ≠ .drain := by
    intro item member
    rw [show (evictSorted _ _ _ _).2.podsIgnored = _ from entered.ignored]
    constructor
    · intro isIgnored
      rcases mem_map.mp isIgnored with ⟨_, inside, same⟩
      rcases mem_filter.mp inside with ⟨otherMember, turn⟩
      rw [← inj_on_of_nodup_map distinct otherMember member same]
      exact PodDelete.turn_eq_ignore_iff.mp (of_decide_eq_true turn)
    · intro notDrained
      apply mem_map_of_mem
      exact mem_filter.mpr ⟨member, decide_eq_true (PodDelete.turn_eq_ignore_iff.mpr notDrained)⟩
  exact ⟨fun item member _ => existsUnique_podsIn distinct classified member,
    drainCompleted_iff distinct classified (entered.nonempty (by simp)) ignored⟩

theorem State.Sound.step (sound : state.Sound) (event : Event) : (Drain.step state event).Sound := by
  cases event with
  | disturbed => exact ⟨sound.inOrder, sound.reported⟩
  | evictPods helper status moments =>
    have perm := sortPodDeletes_perm (state.node.pods.map fun pod => ⟨pod, status pod⟩)
    have known : state.node.keys ⊆
        (sortPodDeletes (state.node.pods.map fun pod => ⟨pod, status pod⟩)).map fun item => item.pod.key := by
      intro _ member
      rcases mem_map.mp member with ⟨pod, inside, rfl⟩
      exact mem_map.mpr ⟨⟨pod, status pod⟩, perm.mem_iff.mpr (mem_map_of_mem inside), rfl⟩
    constructor
    · apply evictionLoop_inOrder _ known sound.inOrder
      intro _ now other member drains
      have evictNow := of_decide_eq_true (mem_filter.mp now).2
      unfold PodDelete.turn at evictNow
      split_ifs at evictNow with waiting smallest
      rw [smallest]
      exact (foldl_lowerToOrder_le _ Int32.maxValue).2 other member drains
    intro report member
    rcases mem_append.mp member with earlier | new
    · rw [evictionLoop_reports] at earlier
      exact sound.reported report earlier
    · rw [mem_singleton.mp new]
      exact evictSorted_report helper moments (state.node.distinct_listed status) state

end Runs

/-- Over every drain, however Pods terminate meanwhile and whatever the API
server answers, requests are made in drain order, every Pod to be drained is in
one class of each result, and a drain is completed when no such Pod is left but
those reported as not found. -/
theorem run_drainsInOrder (node : PodSet) (events : List Event) : (run node events).Sound := by
  have start : State.Sound { node } := ⟨by simp, by simp⟩
  unfold run
  generalize ({ node } : State) = state at start
  induction events generalizing state with
  | nil => exact start
  | cons event _ ih => exact ih _ (start.step event)

end ClusterApi.Drain

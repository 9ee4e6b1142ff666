import ClusterApi.Machine.DrainFilters

namespace ClusterApi.Drain

open List

/-!
# Errors of the drain filters

The status of a Pod is that of the last filter, unless one asked to skip it.
An error of an earlier filter is overwritten and does not stop the drain: a Pod
whose DaemonSet could not be read is evicted like any other.  Errors about a
Pod fail the call exactly if every DaemonSet that is asked for can be read, or
if the last filter, the one for the drain rules, rejects some Pod anyway.
-/

/-! ## The status that stands -/

variable {pod : Pod} {init : List PodFilter} {last : PodFilter}

theorem filterLoop_of_noneSkips (noneSkips : ∀ filter ∈ init, (filter pod).drainBehavior ≠ .skip)
    (status : PodDeleteStatus) (deleteWarnings : List String) :
    (filterLoop pod status deleteWarnings (init ++ [last])).1 = last pod := by
  induction init generalizing status deleteWarnings with
  | nil =>
    simp only [nil_append, filterLoop]
    split
    · rfl
    · rfl
  | cons filter _ ih =>
    have headKeeps := noneSkips filter mem_cons_self
    simp only [cons_append, filterLoop, if_neg headKeeps]
    apply ih
    intro later member
    exact noneSkips later (mem_cons_of_mem _ member)

theorem filterLoop_of_skips (skips : ∃ filter ∈ init, (filter pod).drainBehavior = .skip)
    (status : PodDeleteStatus) (deleteWarnings : List String) :
    ∃ filter ∈ init, (filter pod).drainBehavior = .skip ∧
      (filterLoop pod status deleteWarnings (init ++ [last])).1 = filter pod := by
  induction init generalizing status deleteWarnings with
  | nil => simp at skips
  | cons filter rest ih =>
    by_cases headSkips : (filter pod).drainBehavior = .skip
    · refine ⟨filter, mem_cons_self, headSkips, ?_⟩
      simp only [cons_append, filterLoop, if_pos headSkips]
    · have restSkips : ∃ later ∈ rest, (later pod).drainBehavior = .skip := by
        rcases skips with ⟨later, member, laterSkips⟩
        rcases mem_cons.mp member with rfl | member
        · exact absurd laterSkips headSkips
        · exact ⟨later, member, laterSkips⟩
      rcases ih restSkips (filter pod)
        (if (filter pod).reason = .warning then deleteWarnings ++ [(filter pod).message] else deleteWarnings)
        with ⟨later, member, laterSkips, stands⟩
      refine ⟨later, mem_cons_of_mem _ member, laterSkips, ?_⟩
      simp only [cons_append, filterLoop, if_neg headSkips]
      exact stands

theorem filterPod_status (filters : List PodFilter) (pod : Pod) :
    (filterPod filters pod).status.drainBehavior = (filterLoop pod {} [] filters).1.drainBehavior ∧
      ((filterPod filters pod).status.reason = .error ↔ (filterLoop pod {} [] filters).1.reason = .error) := by
  unfold filterPod
  split
  case h_1 status deleteWarnings found =>
    rw [found]
    split_ifs with warns
    · refine ⟨rfl, ?_⟩
      rcases warns with ⟨-, okay | warning, -⟩
      · simp [okay]
      · simp [warning]
    · exact ⟨rfl, .rfl⟩

theorem filterPod_pod (filters : List PodFilter) (pod : Pod) : (filterPod filters pod).pod = pod := by
  unfold filterPod
  split
  split_ifs
  · rfl
  · rfl

theorem errors_eq_nil_iff {items : List PodDelete} :
    errors items = [] ↔ ∀ item ∈ items, item.status.reason ≠ .error := by
  simp [errors, dedup_eq_nil, filter_eq_nil_iff]

/-! ## What the filters report -/

/-- The DaemonSet of the Pod is asked for and cannot be read. -/
def LookupFails (calls : Calls) (pod : Pod) : Prop :=
  ∃ controllerRef error, getControllerOf pod = some controllerRef ∧ controllerRef.kind = "DaemonSet" ∧
    pod.finished = false ∧ calls.getDaemonSet pod controllerRef = .failed error

section Filters

variable {selectors : Selectors} {helper : Helper} {calls : Calls} {rules : List MachineDrainRule}
  {namespaces : List Namespace}

theorem daemonSetFilter_error_iff : (daemonSetFilter calls pod).reason = .error ↔ LookupFails calls pod := by
  unfold daemonSetFilter LookupFails
  split
  case h_1 noController => simp [noController, makePodDeleteStatusOkay, makePodDeleteStatusOkayWithOrder]
  case h_2 controllerRef isController =>
    split_ifs with otherKind finished
    · simp [isController, otherKind, makePodDeleteStatusOkay, makePodDeleteStatusOkayWithOrder]
    · simp [isController, finished, makePodDeleteStatusOkay, makePodDeleteStatusOkayWithOrder]
    · have isDaemonSet : controllerRef.kind = "DaemonSet" := not_not.mp otherKind
      have unfinished : pod.finished = false := Bool.eq_false_of_not_eq_true finished
      split
      case h_1 orphaned => simp [isController, orphaned, makePodDeleteStatusWithWarning]
      case h_2 error failed => simp [isController, isDaemonSet, unfinished, failed, makePodDeleteStatusWithError]
      case h_3 owned => simp [isController, owned, makePodDeleteStatusWithWarning]

theorem okay_noError : makePodDeleteStatusOkay.reason ≠ .error := by decide

theorem skip_noError : makePodDeleteStatusSkip.reason ≠ .error := by decide

theorem warning_noError (behavior : DrainBehavior) (message : String) :
    (makePodDeleteStatusWithWarning behavior message).reason ≠ .error := by
  simp [makePodDeleteStatusWithWarning]

theorem lookupFails_of_error {filter : PodFilter} (member : filter ∈ filtersBeforeRules helper calls)
    (error : (filter pod).reason = .error) : filter = daemonSetFilter calls ∧ LookupFails calls pod := by
  simp only [filtersBeforeRules, mem_cons, not_mem_nil, or_false] at member
  rcases member with rfl | rfl | rfl | rfl | rfl | rfl
  · unfold skipDeletedFilter at error
    split_ifs at error
    · exact absurd error skip_noError
    · exact absurd error okay_noError
  · exact ⟨rfl, daemonSetFilter_error_iff.mp error⟩
  · unfold mirrorPodFilter at error
    split_ifs at error
    · exact absurd error skip_noError
    · exact absurd error okay_noError
  · unfold localStorageFilter at error
    split_ifs at error
    · exact absurd error okay_noError
    · exact absurd error okay_noError
    · exact absurd error (warning_noError _ _)
  · unfold unreplicatedFilter at error
    split_ifs at error
    · exact absurd error okay_noError
    · exact absurd error okay_noError
    · exact absurd error (warning_noError _ _)
  · unfold drainLabelFilter at error
    split at error
    · exact absurd error okay_noError
    · split_ifs at error
      · exact absurd error skip_noError
      · exact absurd error okay_noError

theorem LookupFails.notSkipped (fails : LookupFails calls pod) : (daemonSetFilter calls pod).drainBehavior ≠ .skip := by
  rcases fails with ⟨_, _, isController, isDaemonSet, unfinished, failed⟩
  simp [daemonSetFilter, isController, isDaemonSet, unfinished, failed, makePodDeleteStatusWithError]

/-- The drain rules report an error about a Pod that no filter before them asks to skip. -/
def Rejected (selectors : Selectors) (helper : Helper) (calls : Calls)
    (rules : List MachineDrainRule) (namespaces : List Namespace) (pod : Pod) : Prop :=
  (∀ filter ∈ filtersBeforeRules helper calls, (filter pod).drainBehavior ≠ .skip) ∧
    (machineDrainRulesFilter selectors rules namespaces pod).reason = .error

theorem filterPod_error_iff :
    (filterPod (podFilters selectors helper calls rules namespaces) pod).status.reason = .error ↔
      Rejected selectors helper calls rules namespaces pod := by
  rw [(filterPod_status _ _).2, podFilters, Rejected]
  by_cases noneSkips : ∀ filter ∈ filtersBeforeRules helper calls, (filter pod).drainBehavior ≠ .skip
  · rw [filterLoop_of_noneSkips noneSkips]
    exact ⟨fun error => ⟨noneSkips, error⟩, fun rejected => rejected.2⟩
  · have skips : ∃ filter ∈ filtersBeforeRules helper calls, (filter pod).drainBehavior = .skip := by
      simpa using noneSkips
    rcases filterLoop_of_skips skips {} [] with ⟨_, member, isSkip, stands⟩
    rw [stands]
    constructor
    · intro error
      rcases lookupFails_of_error member error with ⟨rfl, fails⟩
      exact absurd isSkip fails.notSkipped
    · intro rejected
      exact absurd rejected.1 noneSkips

theorem filterPod_drain_notSkipped
    (drains : (filterPod (podFilters selectors helper calls rules namespaces) pod).status.drainBehavior = .drain) :
    ∀ filter ∈ filtersBeforeRules helper calls, (filter pod).drainBehavior ≠ .skip := by
  rw [(filterPod_status _ _).1, podFilters] at drains
  by_contra skipped
  have skips : ∃ filter ∈ filtersBeforeRules helper calls, (filter pod).drainBehavior = .skip := by
    simpa using skipped
  rcases filterLoop_of_skips skips {} [] with ⟨_, _, isSkip, stands⟩
  rw [stands, isSkip] at drains
  cases drains

/-! ## The list handed out -/

section Listed

variable {machineLabels clusterLabels : List (String × String)} {allPods : List Pod}
  (podsListed : calls.listPods.all = .ok allPods)
  (rulesFound : getMatchingMachineDrainRules selectors calls machineLabels clusterLabels = .ok rules)
  (namespacesListed : calls.listNamespaces = .ok namespaces)

include podsListed rulesFound namespacesListed

theorem getPodsForEviction_of_listed :
    (∃ error, getPodsForEviction selectors helper calls machineLabels clusterLabels = .error error) ∧
        (∃ pod ∈ allPods, Rejected selectors helper calls rules namespaces pod) ∨
      getPodsForEviction selectors helper calls machineLabels clusterLabels =
          .ok (filterPods allPods (podFilters selectors helper calls rules namespaces)) ∧
        ∀ pod ∈ allPods, ¬ Rejected selectors helper calls rules namespaces pod := by
  unfold getPodsForEviction
  rw [podsListed, rulesFound, namespacesListed]
  cases allPods with
  | nil => exact .inr ⟨rfl, by simp⟩
  | cons =>
    dsimp only
    split
    case h_1 noErrors =>
      refine .inr ⟨rfl, fun pod member rejected => ?_⟩
      rw [errors_eq_nil_iff] at noErrors
      exact noErrors _ (mem_map_of_mem member) (filterPod_error_iff.mpr rejected)
    case h_2 found =>
      refine .inl ⟨⟨_, rfl⟩, ?_⟩
      by_contra noneRejected
      simp only [not_exists, not_and] at noneRejected
      apply found
      rw [errors_eq_nil_iff]
      intro _ member error
      rcases mem_map.mp member with ⟨pod, inside, rfl⟩
      exact noneRejected pod inside (filterPod_error_iff.mp error)

end Listed

end Filters

/-! ## No Pod that could not be classified -/

/-- Some filter reports an error about the Pod and none before it asks to skip the Pod. -/
def ReportsError : List PodFilter → Pod → Prop
  | [], _ => False
  | filter :: rest, pod => (filter pod).reason = .error ∨ (filter pod).drainBehavior ≠ .skip ∧ ReportsError rest pod

/-- A list of Pods is handed out only if every Pod on it could be classified. -/
structure HandsOutClassified (selectors : Selectors) (helper : Helper) (calls : Calls)
    (machineLabels clusterLabels : List (String × String)) : Prop where
  /-- An error about a Pod fails the call. -/
  reported : ∀ allPods rules namespaces, calls.listPods.all = .ok allPods →
    getMatchingMachineDrainRules selectors calls machineLabels clusterLabels = .ok rules →
    calls.listNamespaces = .ok namespaces →
    (∃ pod ∈ allPods, ReportsError (podFilters selectors helper calls rules namespaces) pod) →
    ∃ error, getPodsForEviction selectors helper calls machineLabels clusterLabels = .error error
  /-- No Pod to be drained has a DaemonSet that could not be read. -/
  read : ∀ list, getPodsForEviction selectors helper calls machineLabels clusterLabels = .ok list →
    ∀ pod ∈ pods list, ¬ LookupFails calls pod

/-- No DaemonSet of a Pod that is looked at fails to be read, or the drain rules reject some Pod. -/
def LookupsSucceed (selectors : Selectors) (helper : Helper) (calls : Calls)
    (machineLabels clusterLabels : List (String × String)) : Prop :=
  ∀ allPods rules namespaces, calls.listPods.all = .ok allPods →
    getMatchingMachineDrainRules selectors calls machineLabels clusterLabels = .ok rules →
    calls.listNamespaces = .ok namespaces →
    (∀ pod ∈ allPods, shouldSkipPod (calls.now pod) pod helper.skipWaitForDeleteTimeoutSeconds = false →
      ¬ LookupFails calls pod) ∨
    ∃ pod ∈ allPods, Rejected selectors helper calls rules namespaces pod

section Classified

variable {selectors : Selectors} {helper : Helper} {calls : Calls} {rules : List MachineDrainRule}
  {namespaces : List Namespace} {machineLabels clusterLabels : List (String × String)} {list : List PodDelete}

theorem skipDeletedFilter_skips_iff :
    (skipDeletedFilter helper calls pod).drainBehavior = .skip ↔
      shouldSkipPod (calls.now pod) pod helper.skipWaitForDeleteTimeoutSeconds = true := by
  unfold skipDeletedFilter
  split_ifs with skips
  · simp [makePodDeleteStatusSkip, skips]
  · simp [makePodDeleteStatusOkay, makePodDeleteStatusOkayWithOrder, skips]

theorem reportsError_append :
    ReportsError (init ++ [last]) pod ↔
      ReportsError init pod ∨
        (∀ filter ∈ init, (filter pod).drainBehavior ≠ .skip) ∧ (last pod).reason = .error := by
  induction init with
  | nil => simp [ReportsError]
  | cons _ _ ih =>
    rw [cons_append, ReportsError, ih, ReportsError, forall_mem_cons]
    tauto

theorem exists_error_of_reportsError {filters : List PodFilter}
    (reports : ReportsError filters pod) : ∃ filter ∈ filters, (filter pod).reason = .error := by
  induction filters with
  | nil => cases reports
  | cons filter _ ih =>
    rcases reports with error | ⟨-, later⟩
    · exact ⟨filter, mem_cons_self, error⟩
    · rcases ih later with ⟨found, member, error⟩
      exact ⟨found, mem_cons_of_mem _ member, error⟩

theorem reportsError_iff :
    ReportsError (podFilters selectors helper calls rules namespaces) pod ↔
      shouldSkipPod (calls.now pod) pod helper.skipWaitForDeleteTimeoutSeconds = false ∧
        LookupFails calls pod ∨ Rejected selectors helper calls rules namespaces pod := by
  rw [podFilters, reportsError_append, ← Rejected]
  apply or_congr_left
  constructor
  · intro reports
    rcases exists_error_of_reportsError reports with ⟨_, member, error⟩
    rcases lookupFails_of_error member error with ⟨-, fails⟩
    refine ⟨?_, fails⟩
    rcases reports with headError | ⟨looked, -⟩
    · unfold skipDeletedFilter at headError
      split_ifs at headError
      · exact absurd headError skip_noError
      · exact absurd headError okay_noError
    · exact Bool.eq_false_of_not_eq_true fun skips => looked (skipDeletedFilter_skips_iff.mpr skips)
  · rintro ⟨looked, fails⟩
    refine .inr ⟨?_, .inl (daemonSetFilter_error_iff.mpr fails)⟩
    rw [ne_eq, skipDeletedFilter_skips_iff, looked]
    decide

variable (succeed : LookupsSucceed selectors helper calls machineLabels clusterLabels)
include succeed

theorem LookupsSucceed.reported {allPods : List Pod} (podsListed : calls.listPods.all = .ok allPods)
    (rulesFound : getMatchingMachineDrainRules selectors calls machineLabels clusterLabels = .ok rules)
    (namespacesListed : calls.listNamespaces = .ok namespaces)
    (reports : ∃ pod ∈ allPods, ReportsError (podFilters selectors helper calls rules namespaces) pod) :
    ∃ error, getPodsForEviction selectors helper calls machineLabels clusterLabels = .error error := by
  have rejected : ∃ pod ∈ allPods, Rejected selectors helper calls rules namespaces pod := by
    rcases succeed allPods rules namespaces podsListed rulesFound namespacesListed with allRead | rejected
    · rcases reports with ⟨pod, member, report⟩
      rcases reportsError_iff.mp report with ⟨looked, fails⟩ | rejected
      · exact absurd fails (allRead pod member looked)
      · exact ⟨pod, member, rejected⟩
    · exact rejected
  rcases getPodsForEviction_of_listed podsListed rulesFound namespacesListed with ⟨failed, -⟩ | ⟨-, noneRejected⟩
  · exact failed
  · rcases rejected with ⟨pod, member, isRejected⟩
    exact absurd isRejected (noneRejected pod member)

theorem LookupsSucceed.read
    (handedOut : getPodsForEviction selectors helper calls machineLabels clusterLabels = .ok list) :
    ∀ pod ∈ pods list, ¬ LookupFails calls pod := by
  intro _ member fails
  have listed := handedOut
  unfold getPodsForEviction at listed
  split at listed
  case h_1 => cases listed
  case h_2 =>
    cases listed
    simp [pods] at member
  case h_3 allPods _ podsListed =>
    split at listed
    case h_1 => cases listed
    case h_2 rules rulesFound =>
      split at listed
      case h_1 => cases listed
      case h_2 namespaces namespacesListed =>
        dsimp only at listed
        split at listed
        case h_2 => cases listed
        case h_1 =>
          cases listed
          simp only [pods, mem_map, mem_filter, decide_eq_true_eq, filterPods] at member
          rcases member with ⟨_, ⟨⟨inner, inside, rfl⟩, drains⟩, same⟩
          rw [filterPod_pod] at same
          subst same
          have looked := filterPod_drain_notSkipped drains _ mem_cons_self
          rw [ne_eq, skipDeletedFilter_skips_iff, Bool.not_eq_true] at looked
          rcases succeed.reported podsListed rulesFound namespacesListed
            ⟨inner, inside, reportsError_iff.mpr (.inl ⟨looked, fails⟩)⟩ with ⟨_, failed⟩
          rw [failed] at handedOut
          cases handedOut

end Classified

/-- The drain hands out classified Pods only, exactly when every DaemonSet it
asks for can be read or the call fails for another Pod. -/
theorem getPodsForEviction_handsOutClassified (selectors : Selectors) (helper : Helper)
    (calls : Calls) (machineLabels clusterLabels : List (String × String)) :
    HandsOutClassified selectors helper calls machineLabels clusterLabels ↔
      LookupsSucceed selectors helper calls machineLabels clusterLabels := by
  constructor
  · intro classified allPods rules namespaces podsListed rulesFound namespacesListed
    rcases @getPodsForEviction_of_listed selectors helper calls rules namespaces machineLabels clusterLabels allPods
      podsListed rulesFound namespacesListed with ⟨-, rejected⟩ | ⟨handedOut, -⟩
    · exact .inr rejected
    · refine .inl fun pod member looked fails => ?_
      rcases classified.reported allPods rules namespaces podsListed rulesFound namespacesListed
        ⟨pod, member, reportsError_iff.mpr (.inl ⟨looked, fails⟩)⟩ with ⟨_, failed⟩
      rw [failed] at handedOut
      cases handedOut
  · intro succeed
    exact ⟨fun _ _ _ podsListed rulesFound namespacesListed => succeed.reported podsListed rulesFound namespacesListed,
      fun _ handedOut => succeed.read handedOut⟩

def agentPod : Pod :=
  { namespaceName := "kube-system", name := "log-agent-x7k2p"
    ownerReferences := [{ kind := "DaemonSet", name := "log-agent", controller := true }] }

def timedOutCalls : Calls where
  listPods := .last [agentPod]
  listMachineDrainRules := .ok []
  listNamespaces := .ok [{ name := "kube-system" }]
  getDaemonSet := fun _ _ => .failed "etcdserver: request timed out"
  now := fun _ => 0

def reachableHelper : Helper := { gracePeriodSeconds := -1, skipWaitForDeleteTimeoutSeconds := 0 }

def matchLabelsSelectors : Selectors where
  asSelector := fun labelSelector => .ok
    { empty := labelSelector.matchLabels.isEmpty
      selects := fun labels => labelSelector.matchLabels.all fun (key, value) => labels.lookup key = some value }
  print := fun labelSelector => ",".intercalate (labelSelector.matchLabels.map fun (key, value) => key ++ "=" ++ value)

/-- The Pod whose DaemonSet could not be read is handed out to be drained. -/
theorem unreadDaemonSet_drained :
    getPodsForEviction matchLabelsSelectors reachableHelper timedOutCalls [] [] =
        .ok [⟨agentPod, makePodDeleteStatusOkay⟩] ∧
      LookupFails timedOutCalls agentPod ∧
      ¬ HandsOutClassified matchLabelsSelectors reachableHelper timedOutCalls [] [] := by
  have handedOut : getPodsForEviction matchLabelsSelectors reachableHelper timedOutCalls [] [] =
      .ok [⟨agentPod, makePodDeleteStatusOkay⟩] := rfl
  have fails : LookupFails timedOutCalls agentPod :=
    ⟨{ kind := "DaemonSet", name := "log-agent", controller := true }, "etcdserver: request timed out", rfl, rfl, rfl, rfl⟩
  refine ⟨handedOut, fails, fun classified => ?_⟩
  exact classified.read _ handedOut agentPod (by decide) fails

end ClusterApi.Drain

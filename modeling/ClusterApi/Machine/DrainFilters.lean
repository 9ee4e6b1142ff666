import Mathlib
import ClusterApi.Util.Errors

namespace ClusterApi.Drain

/-!
# Which Pods a drain evicts

Before a Node is drained its Pods are listed and every one of them runs through
a fixed list of filters.  A filter answers with a status: drain the Pod, skip
it, or an error.  The first filter that asks to skip a Pod decides; otherwise
the status of the last filter stands, and what earlier filters answered is lost
but for their warnings.  The list of Pods is handed out unless some status is
an error.
-/

/-! ## Pods and drain rules -/

structure OwnerReference where
  kind : String
  name : String
  controller : Bool := false
  deriving DecidableEq

inductive PodPhase
  | pending
  | running
  | succeeded
  | failed
  | unknown
  deriving DecidableEq

structure Volume where
  name : String
  emptyDir : Bool := false
  deriving DecidableEq

/-- A Pod.  Timestamps are in seconds. -/
structure Pod where
  namespaceName : String
  name : String
  labels : List (String × String) := []
  annotations : List (String × String) := []
  ownerReferences : List OwnerReference := []
  deletionTimestamp : Option Int := none
  volumes : List Volume := []
  phase : PodPhase := .running
  deriving DecidableEq

/-- The text `namespace/name`. -/
def Pod.key (pod : Pod) : String := pod.namespaceName ++ "/" ++ pod.name

/-- The first owner reference that is marked as the controller. -/
def getControllerOf (pod : Pod) : Option OwnerReference := pod.ownerReferences.find? OwnerReference.controller

def Pod.finished (pod : Pod) : Bool := pod.phase = .succeeded || pod.phase = .failed

structure Namespace where
  name : String
  labels : List (String × String) := []

structure LabelSelectorRequirement where
  key : String
  operator : String
  values : List String := []
  deriving DecidableEq

structure LabelSelector where
  matchLabels : List (String × String) := []
  matchExpressions : List LabelSelectorRequirement := []
  deriving DecidableEq

/-- A drain behaviour is a text; the API knows two values. -/
inductive DrainBehavior
  | drain
  | skip
  | other (text : String)
  deriving DecidableEq

def DrainBehavior.text : DrainBehavior → String
  | .drain => "Drain"
  | .skip => "Skip"
  | .other text => text

structure MachineDrainRuleMachineSelector where
  selector : Option LabelSelector := none
  clusterSelector : Option LabelSelector := none
  deriving DecidableEq

structure MachineDrainRulePodSelector where
  selector : Option LabelSelector := none
  namespaceSelector : Option LabelSelector := none
  deriving DecidableEq

structure MachineDrainRule where
  name : String
  behavior : DrainBehavior
  order : Option Int32 := none
  machines : List MachineDrainRuleMachineSelector := []
  pods : List MachineDrainRulePodSelector := []

/-! ## Statuses -/

/-- The reason of a status; a status nobody set has none. -/
inductive Reason
  | unset
  | okay
  | skip
  | warning
  | error
  deriving DecidableEq

structure PodDeleteStatus where
  drainBehavior : DrainBehavior := .other ""
  drainOrder : Option Int32 := none
  reason : Reason := .unset
  message : String := ""

def makePodDeleteStatusOkayWithOrder (order : Option Int32) : PodDeleteStatus :=
  { drainBehavior := .drain, drainOrder := order, reason := .okay }

def makePodDeleteStatusOkay : PodDeleteStatus := makePodDeleteStatusOkayWithOrder (some 0)

def makePodDeleteStatusSkip : PodDeleteStatus := { drainBehavior := .skip, reason := .skip }

def makePodDeleteStatusWithWarning (behavior : DrainBehavior) (message : String) : PodDeleteStatus :=
  { drainBehavior := behavior, drainOrder := if behavior = .drain then some 0 else none, reason := .warning, message }

def makePodDeleteStatusWithError (message : String) : PodDeleteStatus := { reason := .error, message }

structure PodDelete where
  pod : Pod
  status : PodDeleteStatus

/-- The Pods that have to go away before the Node is drained. -/
def pods (items : List PodDelete) : List Pod :=
  (items.filter fun item => item.status.drainBehavior = .drain).map PodDelete.pod

/-- The message of an error status; an empty one gets a text. -/
def PodDeleteStatus.errorMessage (status : PodDeleteStatus) : String :=
  if status.message = "" then "unexpected error" else status.message

/-- One error for each message, with the Pods it is about.  The source ranges
over a map, so the order of the errors is not determined. -/
def errors (items : List PodDelete) : List String :=
  let failedPods := items.filter fun item => item.status.reason = .error
  (failedPods.map fun item => item.status.errorMessage).dedup.map fun message =>
    "Pods with error " ++ quote message ++ ": " ++
      ", ".intercalate ((failedPods.filter fun item => item.status.errorMessage = message).map fun item => item.pod.key)

/-! ## The filters -/

abbrev PodFilter := Pod → PodDeleteStatus

/-- The answer to a read of an object. -/
inductive Lookup
  | found
  | notFound
  | failed (error : String)

/-- The Pods of a Node, listed page by page. -/
inductive PodPages
  | failed (error : String)
  | last (items : List Pod)
  | more (items : List Pod) (next : PodPages)

/-- What the API servers and the clock answer during one call. -/
structure Calls where
  listPods : PodPages
  listMachineDrainRules : Except String (List MachineDrainRule)
  listNamespaces : Except String (List Namespace)
  getDaemonSet : Pod → OwnerReference → Lookup
  /-- The time at which the Pod is looked at, in nanoseconds. -/
  now : Pod → Int

structure Helper where
  gracePeriodSeconds : Int
  skipWaitForDeleteTimeoutSeconds : Int

def daemonSetOrphanedWarning : String := "evicting orphaned DaemonSet-managed Pod"
def daemonSetWarning : String := "ignoring DaemonSet-managed Pod"
def localStorageWarning : String := "evicting Pod with local storage"
def unmanagedWarning : String := "evicting Pod that has no controller"

def podDrainLabel : String := "cluster.x-k8s.io/drain"
def mirrorPodAnnotationKey : String := "kubernetes.io/config.mirror"

/-- The seconds since the deletion are cut off towards zero. -/
def shouldSkipPod (now : Int) (pod : Pod) (skipDeletedTimeoutSeconds : Int) : Bool :=
  match pod.deletionTimestamp with
  | none => false
  | some deletedAt =>
    0 < skipDeletedTimeoutSeconds && skipDeletedTimeoutSeconds < (now - deletedAt * 10 ^ 9).tdiv (10 ^ 9)

def skipDeletedFilter (helper : Helper) (calls : Calls) : PodFilter := fun pod =>
  if shouldSkipPod (calls.now pod) pod helper.skipWaitForDeleteTimeoutSeconds then makePodDeleteStatusSkip
  else makePodDeleteStatusOkay

def daemonSetFilter (calls : Calls) : PodFilter := fun pod =>
  match getControllerOf pod with
  | none => makePodDeleteStatusOkay
  | some controllerRef =>
    if controllerRef.kind ≠ "DaemonSet" then makePodDeleteStatusOkay
    else if pod.finished then makePodDeleteStatusOkay
    else
      match calls.getDaemonSet pod controllerRef with
      | .notFound => makePodDeleteStatusWithWarning .drain daemonSetOrphanedWarning
      | .failed error => makePodDeleteStatusWithError error
      | .found => makePodDeleteStatusWithWarning .skip daemonSetWarning

def mirrorPodFilter : PodFilter := fun pod =>
  if (pod.annotations.lookup mirrorPodAnnotationKey).isSome then makePodDeleteStatusSkip else makePodDeleteStatusOkay

def hasLocalStorage (pod : Pod) : Bool := pod.volumes.any Volume.emptyDir

def localStorageFilter : PodFilter := fun pod =>
  if !hasLocalStorage pod then makePodDeleteStatusOkay
  else if pod.finished then makePodDeleteStatusOkay
  else makePodDeleteStatusWithWarning .drain localStorageWarning

def unreplicatedFilter : PodFilter := fun pod =>
  if pod.finished then makePodDeleteStatusOkay
  else if (getControllerOf pod).isSome then makePodDeleteStatusOkay
  else makePodDeleteStatusWithWarning .drain unmanagedWarning

/-- Letters that Unicode folds to the letters of a text in ASCII: besides the
capitals the long s and the Kelvin sign. -/
def foldRune (rune : Char) : Char :=
  if rune = 'ſ' then 's' else if rune = 'K' then 'k' else rune.toLower

/-- Equality under case folding with a text in ASCII. -/
def equalFold (value ascii : String) : Bool := value.toList.map foldRune = ascii.toList.map foldRune

def drainLabelFilter : PodFilter := fun pod =>
  match pod.labels.lookup podDrainLabel with
  | none => makePodDeleteStatusOkay
  | some labelValue =>
    if equalFold labelValue DrainBehavior.skip.text then makePodDeleteStatusSkip else makePodDeleteStatusOkay

/-! ## Drain rules -/

/-- What `metav1.LabelSelectorAsSelector` makes of a label selector. -/
structure Selector where
  empty : Bool
  selects : List (String × String) → Bool

/-- The library of label selectors. -/
structure Selectors where
  asSelector : LabelSelector → Except String Selector
  /-- How a label selector is printed in an error. -/
  print : LabelSelector → String

inductive FieldError
  | invalid (field : String) (badValue : LabelSelector) (detail : String)
  | forbidden (field : String) (detail : String)

section Rules

variable (selectors : Selectors)

def FieldError.text : FieldError → String
  | .invalid field badValue detail => field ++ ": Invalid value: " ++ selectors.print badValue ++ ": " ++ detail
  | .forbidden field detail => field ++ ": Forbidden: " ++ detail

def invalidSelector (field : String) : Option LabelSelector → List FieldError
  | none => []
  | some labelSelector =>
    match selectors.asSelector labelSelector with
    | .error error => [.invalid field labelSelector error]
    | .ok _ => []

/-- The checks of one list of selectors: both selectors of each entry, then that no entry occurs twice. -/
def invalidSelectors {Entry : Type} [DecidableEq Entry] (field second repeated : String)
    (first outer : Entry → Option LabelSelector) (entries : List Entry) : List FieldError :=
  (entries.zipIdx.flatMap fun (entry, i) =>
    let path := field ++ "[" ++ toString i ++ "]"
    invalidSelector selectors (path ++ ".selector") (first entry) ++
      invalidSelector selectors (path ++ "." ++ second) (outer entry)) ++
    if entries.Nodup then [] else [.forbidden field repeated]

def validateMachineDrainRulesSelectors (rule : MachineDrainRule) : List FieldError :=
  invalidSelectors selectors "spec.machines" "clusterSelector" "Entries in machines must be unique"
      MachineDrainRuleMachineSelector.selector MachineDrainRuleMachineSelector.clusterSelector rule.machines ++
    invalidSelectors selectors "spec.pods" "namespaceSelector" "Entries in pods must be unique"
      MachineDrainRulePodSelector.selector MachineDrainRulePodSelector.namespaceSelector rule.pods

/-- A selector matches if it is nil, empty, or selects the labels.  The error
is ignored by the source, all selectors have been validated before. -/
def matchesSelector (labelSelector : Option LabelSelector) (labels : List (String × String)) : Bool :=
  match labelSelector with
  | none => true
  | some labelSelector =>
    match selectors.asSelector labelSelector with
    | .error _ => false
    | .ok selector => selector.empty || selector.selects labels

def machineDrainRuleAppliesToMachine (rule : MachineDrainRule)
    (machineLabels clusterLabels : List (String × String)) : Bool :=
  rule.machines.isEmpty || rule.machines.any fun entry =>
    matchesSelector selectors entry.selector machineLabels && matchesSelector selectors entry.clusterSelector clusterLabels

def machineDrainRuleAppliesToPod (rule : MachineDrainRule) (pod : Pod) (podNamespace : Namespace) : Bool :=
  rule.pods.isEmpty || rule.pods.any fun entry =>
    matchesSelector selectors entry.selector pod.labels &&
      matchesSelector selectors entry.namespaceSelector podNamespace.labels

/-- The rules for the Machine, sorted by name. -/
def getMatchingMachineDrainRules (calls : Calls) (machineLabels clusterLabels : List (String × String)) :
    Except String (List MachineDrainRule) :=
  match calls.listMachineDrainRules with
  | .error error => .error (wrap "failed to list MachineDrainRules" error)
  | .ok rules =>
    let invalid := rules.filterMap fun rule =>
      match validateMachineDrainRulesSelectors selectors rule with
      | [] => none
      | found => some (wrap ("invalid selectors in MachineDrainRule " ++ rule.name)
          (aggregate (found.map (FieldError.text selectors))))
    if invalid ≠ [] then .error (wrap "failed to get matching MachineDrainRules" (aggregate invalid))
    else .ok ((rules.filter fun rule =>
      machineDrainRuleAppliesToMachine selectors rule machineLabels clusterLabels).insertionSort
        fun first second => first.name ≤ second.name)

/-- The status from the first rule that applies to the Pod. -/
def statusOfRules (pod : Pod) (podNamespace : Namespace) : List MachineDrainRule → PodDeleteStatus
  | [] => makePodDeleteStatusOkay
  | rule :: rest =>
    if machineDrainRuleAppliesToPod selectors rule pod podNamespace then
      match rule.behavior with
      | .drain => makePodDeleteStatusOkayWithOrder rule.order
      | .skip => makePodDeleteStatusSkip
      | .other text => makePodDeleteStatusWithError
          ("MachineDrainRule " ++ quote rule.name ++ " has unknown spec.drain.behavior: " ++ quote text)
    else statusOfRules pod podNamespace rest

def machineDrainRulesFilter (rules : List MachineDrainRule) (namespaces : List Namespace) : PodFilter := fun pod =>
  match namespaces.find? fun candidate => candidate.name = pod.namespaceName with
  | none => makePodDeleteStatusWithError "Pod Namespace does not exist"
  | some podNamespace => statusOfRules selectors pod podNamespace rules

/-! ## Filtering -/

/-- The loop over the filters, with the status and the warnings so far. -/
def filterLoop (pod : Pod) : PodDeleteStatus → List String → List PodFilter → PodDeleteStatus × List String
  | status, deleteWarnings, [] => (status, deleteWarnings)
  | _, deleteWarnings, filter :: rest =>
    let status := filter pod
    -- A Pod that is filtered out does not run through the other filters.
    if status.drainBehavior = .skip then (status, deleteWarnings)
    else filterLoop pod status
      (if status.reason = .warning then deleteWarnings ++ [status.message] else deleteWarnings) rest

def filterPod (filters : List PodFilter) (pod : Pod) : PodDelete :=
  let (status, deleteWarnings) := filterLoop pod {} [] filters
  if status.drainBehavior = .drain ∧ (status.reason = .okay ∨ status.reason = .warning) ∧ deleteWarnings ≠ [] then
    ⟨pod, { status with reason := .warning, message := ", ".intercalate deleteWarnings }⟩
  else ⟨pod, status⟩

def filterPods (allPods : List Pod) (filters : List PodFilter) : List PodDelete := allPods.map (filterPod filters)

/-- All Pods of the pages, unless a page cannot be read. -/
def PodPages.all : PodPages → Except String (List Pod)
  | .failed error => .error error
  | .last items => .ok items
  | .more items next => next.all.map (items ++ ·)

/-- The filters that do not look at drain rules. -/
def filtersBeforeRules (helper : Helper) (calls : Calls) : List PodFilter :=
  [skipDeletedFilter helper calls, daemonSetFilter calls, mirrorPodFilter, localStorageFilter, unreplicatedFilter,
    drainLabelFilter]

def podFilters (helper : Helper) (calls : Calls) (rules : List MachineDrainRule)
    (namespaces : List Namespace) : List PodFilter :=
  filtersBeforeRules helper calls ++ [machineDrainRulesFilter selectors rules namespaces]

def getPodsForEviction (helper : Helper) (calls : Calls)
    (machineLabels clusterLabels : List (String × String)) : Except String (List PodDelete) :=
  match calls.listPods.all with
  | .error error => .error (wrap "failed to get Pods for eviction" error)
  | .ok [] => .ok []
  | .ok allPods =>
    match getMatchingMachineDrainRules selectors calls machineLabels clusterLabels with
    | .error error => .error (wrap "failed to get Pods for eviction" error)
    | .ok rules =>
      match calls.listNamespaces with
      | .error error => .error (wrap "failed to get Pods for eviction: failed to list Namespaces" error)
      | .ok namespaces =>
        let list := filterPods allPods (podFilters selectors helper calls rules namespaces)
        match errors list with
        | [] => .ok list
        | found => .error (wrap "failed to get Pods for eviction" (aggregate found))

end Rules

end ClusterApi.Drain

import Mathlib.Data.List.ReduceOption
import Mathlib.Data.Prod.Lex
import Mathlib.Data.String.Basic
import ClusterApi.Foundation.Sorting

namespace ClusterApi.Conditions.Merge

open Foundation List

/-!
# Merging conditions into one

A summary merges the conditions of one object, an aggregate merges the Ready
conditions of many.  Both group the conditions by status and severity, after a
negative polarity has been turned around, and report what the group of the
highest priority says.

Status and severity are texts in the API.  The types below therefore have
values besides those that the API names.
-/

inductive Status
  | isTrue
  | isFalse
  | isUnknown
  | other (text : String)
  deriving DecidableEq

inductive Severity
  | none
  | error
  | warning
  | info
  | other (text : String)
  deriving DecidableEq

structure Condition where
  type : String
  status : Status
  severity : Severity := .none
  reason : String := ""
  message : String := ""

def readyCondition : String := "Ready"

/-- An object that has conditions. -/
structure Getter where
  kind : String
  name : String
  conditions : List Condition

def get (source : Getter) (type : String) : Option Condition :=
  source.conditions.find? fun condition => condition.type = type

inductive Polarity
  | positive
  | negative

/-- A condition with the object it comes from. -/
structure LocalizedCondition extends Condition where
  polarity : Polarity
  getter : Getter

/-- Groups always have a positive polarity. -/
def groupStatus : Polarity → Status → Status
  | .negative, .isFalse => .isTrue
  | .negative, .isTrue => .isFalse
  | _, status => status

namespace LocalizedCondition

def groupStatus (condition : LocalizedCondition) : Status := Merge.groupStatus condition.polarity condition.status

/-- False with a positive polarity, or True with a negative one. -/
def Failing (condition : LocalizedCondition) : Prop :=
  match condition.polarity with
  | .positive => condition.status = .isFalse
  | .negative => condition.status = .isTrue

def Passing (condition : LocalizedCondition) : Prop :=
  match condition.polarity with
  | .positive => condition.status = .isTrue
  | .negative => condition.status = .isFalse

variable {condition : LocalizedCondition}

theorem failing_iff : condition.Failing ↔ condition.groupStatus = .isFalse := by
  unfold Failing groupStatus
  cases condition.polarity with
  | positive => rfl
  | negative => cases condition.status <;> simp [Merge.groupStatus]

theorem passing_iff : condition.Passing ↔ condition.groupStatus = .isTrue := by
  unfold Passing groupStatus
  cases condition.polarity with
  | positive => rfl
  | negative => cases condition.status <;> simp [Merge.groupStatus]

end LocalizedCondition

/-! ## Groups -/

structure ConditionGroup where
  status : Status
  severity : Severity
  conditions : List LocalizedCondition

/-- A severity that the priorities know. -/
def Severity.Graded : Severity → Prop
  | .error => True
  | .warning => True
  | .info => True
  | _ => False

def priority : Status → Severity → Nat
  | .isFalse, .error => 0
  | .isFalse, .warning => 1
  | .isFalse, .info => 2
  | .isTrue, _ => 3
  | .isUnknown, _ => 4
  | _, _ => 99

def ConditionGroup.mergePriority (group : ConditionGroup) : Nat := priority group.status group.severity

def ConditionGroup.less (first second : ConditionGroup) : Bool := first.mergePriority < second.mergePriority

/-- The order of conditions that `Set` uses: Ready goes first. -/
def lexicographicLess (first second : Condition) : Bool :=
  (first.type = readyCondition || first.type < second.type) && second.type ≠ readyCondition

def LocalizedCondition.less (first second : LocalizedCondition) : Bool :=
  if first.type ≠ second.type then lexicographicLess first.toCondition second.toCondition
  else first.getter.name < second.getter.name

/-- The routines of the library that sort groups and conditions. -/
structure Sorts where
  groups : SortRoutine ConditionGroup ConditionGroup.less
  conditions : SortRoutine LocalizedCondition LocalizedCondition.less

/-- Add a condition to the group of its status and severity. -/
def addCondition : List ConditionGroup → LocalizedCondition → List ConditionGroup
  | [], condition => [⟨condition.groupStatus, condition.severity, [condition]⟩]
  | group :: rest, condition =>
    if group.status = condition.groupStatus ∧ group.severity = condition.severity then
      { group with conditions := group.conditions ++ [condition] } :: rest
    else group :: addCondition rest condition

/-- A condition that is missing on its object is none. -/
def getConditionGroups (sorts : Sorts) (conditions : List (Option LocalizedCondition)) : List ConditionGroup :=
  match sorts.groups.run (conditions.reduceOption.foldl addCondition []) with
  | [] => []
  | top :: rest => { top with conditions := sorts.conditions.run top.conditions } :: rest

/-! ## Options -/

structure MergeOptions where
  conditionTypes : Option (List String) := none
  negativeConditionTypes : List String := []
  addSourceRef : Bool := false
  addStepCounter : Bool := false
  addStepCounterIfOnlyConditionTypes : Option (List String) := none
  stepCounter : Nat := 0

/-- A list of types is nil in a call without any. -/
inductive MergeOption
  | withConditions (types : Option (List String))
  | withNegativePolarityConditions (types : List String)
  | withStepCounter
  | withStepCounterIf (value : Bool)
  | withStepCounterIfOnly (types : Option (List String))
  | addSourceRef

def MergeOption.apply (options : MergeOptions) : MergeOption → MergeOptions
  | .withConditions types => { options with conditionTypes := types }
  | .withNegativePolarityConditions types => { options with negativeConditionTypes := types }
  | .withStepCounter => { options with addStepCounter := true }
  | .withStepCounterIf value => { options with addStepCounter := value }
  | .withStepCounterIfOnly types => { options with addStepCounterIfOnlyConditionTypes := types }
  | .addSourceRef => { options with addSourceRef := true }

/-! ## The merged condition -/

/-- The first condition of the top group, by the types that take precedence. -/
def getFirstCondition (groups : List ConditionGroup) (types : List String) : Option LocalizedCondition :=
  match groups with
  | [] => none
  | top :: _ =>
    match top.conditions with
    | [] => none
    | [condition] => some condition
    | first :: rest =>
      (types.findSome? fun type => (first :: rest).find? fun condition => condition.type = type).or (some first)

def localizeReason (reason : String) (source : Getter) : String :=
  if reason.toList.contains '@' then reason else reason ++ " @ " ++ source.kind ++ "/" ++ source.name

def getReason (groups : List ConditionGroup) (options : MergeOptions) : String :=
  match getFirstCondition groups (options.conditionTypes.getD []) with
  | none => ""
  | some condition =>
    if options.addSourceRef then localizeReason condition.reason condition.getter else condition.reason

def getStepCounterMessage (groups : List ConditionGroup) (total : Nat) : String :=
  let completed :=
    match groups.find? fun group => group.status = .isTrue && group.severity = .none with
    | none => 0
    | some group => group.conditions.length
  toString completed ++ " of " ++ toString total ++ " completed"

def getMessage (groups : List ConditionGroup) (options : MergeOptions) : String :=
  if options.addStepCounter then getStepCounterMessage groups options.stepCounter
  else
    match getFirstCondition groups (options.conditionTypes.getD []) with
    | none => ""
    | some condition => condition.message

/-- The message is a format without arguments to the constructors of a condition. -/
def merge (sorts : Sorts) (sprintf : String → String) (conditions : List (Option LocalizedCondition))
    (targetCondition : String) (options : MergeOptions) : Option Condition :=
  let groups := getConditionGroups sorts conditions
  match groups with
  | [] => none
  | top :: _ =>
    if top.status = .isTrue then some { type := targetCondition, status := .isTrue }
    else
      let reason := getReason groups options
      let message := sprintf (getMessage groups options)
      if top.status = .isFalse then
        some { type := targetCondition, status := .isFalse, severity := top.severity, reason, message }
      else some { type := targetCondition, status := .isUnknown, reason, message }

/-! ## Summaries and aggregates -/

/-- All conditions but Ready, or those of the given types, with their polarity. -/
def conditionsInScope (source : Getter) (options : MergeOptions) : List LocalizedCondition :=
  (source.conditions.filter fun condition =>
    condition.type ≠ readyCondition && options.conditionTypes.all fun types => types.contains condition.type).map
      fun condition =>
        { condition with
          polarity := if options.negativeConditionTypes.contains condition.type then .negative else .positive
          getter := source }

/-- The step counter is left out when a condition in scope does not belong to the given ones. -/
def withStepCounter (options : MergeOptions) (inScope : List LocalizedCondition) : MergeOptions :=
  let addStepCounter := options.addStepCounter && options.addStepCounterIfOnlyConditionTypes.all fun types =>
    inScope.all fun condition => types.contains condition.type
  { options with
    addStepCounter
    stepCounter :=
      if addStepCounter then
        match options.addStepCounterIfOnlyConditionTypes, options.conditionTypes with
        | some types, _ => types.length
        | none, some types => types.length
        | none, none => inScope.length
      else options.stepCounter }

def summary (sorts : Sorts) (sprintf : String → String) (source : Getter)
    (options : List MergeOption) : Option Condition :=
  let options := options.foldl MergeOption.apply {}
  let inScope := conditionsInScope source options
  merge sorts sprintf (inScope.map some) readyCondition (withStepCounter options inScope)

/-- The Ready condition of an object, if it has one. -/
def localizedReady (source : Getter) : Option LocalizedCondition :=
  (get source readyCondition).map fun condition => { condition with polarity := .positive, getter := source }

def aggregate (sorts : Sorts) (sprintf : String → String) (sources : List Getter)
    (targetCondition : String) (options : List MergeOption) : Option Condition :=
  merge sorts sprintf (sources.map localizedReady) targetCondition
    (options.foldl MergeOption.apply { addStepCounter := true, stepCounter := sources.length })

/-! ## What the top group stands for -/

def LocalizedCondition.key (condition : LocalizedCondition) : Status × Severity :=
  (condition.groupStatus, condition.severity)

def ConditionGroup.key (group : ConditionGroup) : Status × Severity := (group.status, group.severity)

section TopGroup

variable {sorts : Sorts} {conditions : List (Option LocalizedCondition)}

theorem mem_keys_addCondition {groups : List ConditionGroup} {condition : LocalizedCondition}
    {key : Status × Severity} :
    key ∈ (addCondition groups condition).map ConditionGroup.key ↔
      key = condition.key ∨ key ∈ groups.map ConditionGroup.key := by
  induction groups with
  | nil => simp [addCondition, ConditionGroup.key, LocalizedCondition.key]
  | cons group _ ih =>
    rw [addCondition]
    split_ifs with same
    · have sameKey : group.key = condition.key := Prod.ext same.1 same.2
      rw [map_cons, map_cons, mem_cons, mem_cons, sameKey]
      change key = group.key ∨ _ ↔ _
      rw [sameKey]
      tauto
    · rw [map_cons, map_cons, mem_cons, mem_cons, ih]
      tauto

theorem mem_keys_foldl {list : List LocalizedCondition} {groups : List ConditionGroup}
    {key : Status × Severity} : key ∈ (list.foldl addCondition groups).map ConditionGroup.key ↔
      key ∈ list.map LocalizedCondition.key ∨ key ∈ groups.map ConditionGroup.key := by
  induction list generalizing groups with
  | nil => simp
  | cons _ _ ih =>
    rw [foldl_cons, ih, mem_keys_addCondition, map_cons, mem_cons]
    tauto

theorem mem_keys {key : Status × Severity} :
    (∃ group ∈ sorts.groups.run (conditions.reduceOption.foldl addCondition []), group.key = key) ↔
      ∃ condition, some condition ∈ conditions ∧ condition.key = key := by
  have keys := @mem_keys_foldl conditions.reduceOption [] key
  simp only [mem_map, not_mem_nil, false_and, exists_false, or_false, reduceOption_mem_iff] at keys
  simpa only [sorts.groups.mem_run] using keys

theorem getConditionGroups_top {top : ConditionGroup} {rest : List ConditionGroup}
    (grouped : getConditionGroups sorts conditions = top :: rest) :
    (∃ condition, some condition ∈ conditions ∧ condition.groupStatus = top.status ∧
      condition.severity = top.severity) ∧
      ∀ condition, some condition ∈ conditions →
        top.mergePriority ≤ priority condition.groupStatus condition.severity := by
  unfold getConditionGroups at grouped
  split at grouped
  · cases grouped
  case h_2 first later ran =>
    cases grouped
    constructor
    · have isGroup : first ∈ sorts.groups.run (conditions.reduceOption.foldl addCondition []) := by
        rw [ran]
        exact mem_cons_self
      rcases mem_keys.mp ⟨first, isGroup, rfl⟩ with ⟨condition, inside, same⟩
      exact ⟨condition, inside, congrArg Prod.fst same, congrArg Prod.snd same⟩
    · intro condition inside
      rcases mem_keys.mpr ⟨condition, inside, rfl⟩ with ⟨group, member, same⟩
      have least := sorts.groups.head_least (by simp [ConditionGroup.less]) ran group (sorts.groups.mem_run.mp member)
      rw [ConditionGroup.less, decide_eq_false_iff_not, not_lt] at least
      have samePriority : group.mergePriority = priority condition.groupStatus condition.severity :=
        congrArg (fun key : Status × Severity => priority key.1 key.2) same
      exact least.trans samePriority.le

end TopGroup

variable {severity : Severity} {status : Status}

theorem priority_lt_three : priority status severity < 3 ↔ status = .isFalse ∧ severity.Graded := by
  cases status <;> cases severity <;> simp [priority, Severity.Graded]

theorem priority_eq_three : priority status severity = 3 ↔ status = .isTrue := by
  cases status <;> cases severity <;> simp [priority]

section Hiding

variable {sorts : Sorts} {sprintf : String → String} {conditions : List (Option LocalizedCondition)}
variable {targetCondition : String} {options : MergeOptions}

theorem merge_isTrue_iff :
    (∃ merged, merge sorts sprintf conditions targetCondition options = some merged ∧ merged.status = .isTrue) ↔
      (∃ condition, some condition ∈ conditions ∧ condition.Passing) ∧
        ∀ condition, some condition ∈ conditions → condition.Failing → ¬ condition.severity.Graded := by
  cases grouped : getConditionGroups sorts conditions with
  | nil =>
    have noCondition : ∀ condition, some condition ∉ conditions := by
      intro condition inside
      rcases (@mem_keys sorts _ _).mpr ⟨condition, inside, rfl⟩ with ⟨_, member, -⟩
      unfold getConditionGroups at grouped
      split at grouped
      case h_1 ran =>
        rw [ran] at member
        cases member
      case h_2 => cases grouped
    simp [merge, grouped, noCondition]
  | cons top =>
    rcases getConditionGroups_top grouped with ⟨⟨source, sourceInside, sameStatus, sameSeverity⟩, least⟩
    have isTop : (∃ merged, merge sorts sprintf conditions targetCondition options = some merged ∧
        merged.status = .isTrue) ↔ top.status = .isTrue := by
      simp only [merge, grouped]
      split_ifs with isTrue isFalse
      · simp [isTrue]
      · simp [isFalse]
      · simp [isTrue]
    rw [isTop]
    constructor
    · intro isTrue
      have priority : top.mergePriority = 3 := priority_eq_three.mpr isTrue
      refine ⟨⟨source, sourceInside, LocalizedCondition.passing_iff.mpr (sameStatus.trans isTrue)⟩, ?_⟩
      intro condition inside failing graded
      have lower := priority_lt_three.mpr ⟨LocalizedCondition.failing_iff.mp failing, graded⟩
      have bound := least condition inside
      omega
    · rintro ⟨⟨condition, inside, passing⟩, noneGraded⟩
      have bound := least condition inside
      rw [priority_eq_three.mpr (LocalizedCondition.passing_iff.mp passing)] at bound
      have notLower : ¬ top.mergePriority < 3 := by
        intro lower
        rcases priority_lt_three.mp lower with ⟨isFalse, _⟩
        apply noneGraded source sourceInside
        · exact LocalizedCondition.failing_iff.mpr (sameStatus.trans isFalse)
        · rwa [sameSeverity]
      exact priority_eq_three.mp (le_antisymm bound (not_lt.mp notLower))

end Hiding

/-! ## What a merge hides -/

/-- The two ways in which conditions are merged. -/
inductive Operation
  | setSummary (source : Getter) (options : List MergeOption)
  | setAggregate (sources : List Getter) (targetCondition : String) (options : List MergeOption)

namespace Operation

/-- The conditions in scope. -/
def inScope : Operation → List (Option LocalizedCondition)
  | .setSummary source options => (conditionsInScope source (options.foldl MergeOption.apply {})).map some
  | .setAggregate sources _ _ => sources.map localizedReady

def merged (sorts : Sorts) (sprintf : String → String) : Operation → Option Condition
  | .setSummary source options => summary sorts sprintf source options
  | .setAggregate sources targetCondition options => aggregate sorts sprintf sources targetCondition options

/-- A failing condition in scope keeps the merged one from being True. -/
def ShowsFailures (sorts : Sorts) (sprintf : String → String) (operation : Operation) : Prop :=
  (∃ condition, some condition ∈ operation.inScope ∧ condition.Failing) →
    ∀ merged, operation.merged sorts sprintf = some merged → merged.status ≠ .isTrue

theorem merged_isTrue_iff (sorts : Sorts) (sprintf : String → String) (operation : Operation) :
    (∃ merged, operation.merged sorts sprintf = some merged ∧ merged.status = .isTrue) ↔
      (∃ condition, some condition ∈ operation.inScope ∧ condition.Passing) ∧
        ∀ condition, some condition ∈ operation.inScope → condition.Failing → ¬ condition.severity.Graded := by
  cases operation with
  | setSummary | setAggregate => exact merge_isTrue_iff

/-- Failures are shown exactly if one of them has a known severity, or if nothing passes. -/
theorem showsFailures_iff (sorts : Sorts) (sprintf : String → String) (operation : Operation) :
    operation.ShowsFailures sorts sprintf ↔
      ((∃ condition, some condition ∈ operation.inScope ∧ condition.Failing) →
        (∃ condition, some condition ∈ operation.inScope ∧ condition.Failing ∧ condition.severity.Graded) ∨
          ∀ condition, some condition ∈ operation.inScope → ¬ condition.Passing) := by
  apply forall_congr'
  intro _
  have isTrue := operation.merged_isTrue_iff sorts sprintf
  constructor
  · intro shows
    by_contra neither
    rw [not_or] at neither
    rcases neither with ⟨noneGraded, somePasses⟩
    push Not at noneGraded somePasses
    rcases isTrue.mpr ⟨somePasses, noneGraded⟩ with ⟨merged, isMerged, status⟩
    exact shows merged isMerged status
  · intro condition merged isMerged status
    rcases isTrue.mp ⟨merged, isMerged, status⟩ with ⟨⟨passing, inside, passes⟩, noneGraded⟩
    rcases condition with ⟨failing, failingInside, fails, graded⟩ | nonePasses
    · exact noneGraded failing failingInside fails graded
    · exact nonePasses passing inside passes

end Operation

/-! ## A severity that is not set -/

/-- The order of conditions as a lexicographic one. -/
def LocalizedCondition.sortKey (condition : LocalizedCondition) : Bool ×ₗ String ×ₗ String :=
  toLex (decide (condition.type ≠ readyCondition), toLex (condition.type, condition.getter.name))

theorem LocalizedCondition.less_iff {first second : LocalizedCondition} :
    first.less second = true ↔ first.sortKey < second.sortKey := by
  unfold less lexicographicLess sortKey
  simp only [Prod.Lex.toLex_lt_toLex]
  by_cases sameType : first.type = second.type
  · simp [sameType]
  · by_cases firstReady : first.type = readyCondition
    · have secondOther : second.type ≠ readyCondition := fun ready => sameType (firstReady.trans ready.symm)
      simp [firstReady, secondOther, secondOther.symm]
    · by_cases secondReady : second.type = readyCondition
      · simp [firstReady, secondReady]
      · simp [sameType, firstReady, secondReady]

/-- Both lists sorted by insertion. -/
def Sorts.insertion : Sorts where
  groups := .insertion (by simp [ConditionGroup.less]; omega) (by simp [ConditionGroup.less]; omega)
  conditions := by
    refine .insertion ?_ ?_
    · intro first second less
      rw [LocalizedCondition.less_iff] at less
      rw [Bool.eq_false_iff, ne_eq, LocalizedCondition.less_iff]
      exact less.asymm
    · intro first second third notLess notLessAfter
      rw [Bool.eq_false_iff, ne_eq, LocalizedCondition.less_iff, not_lt] at *
      exact notLess.trans notLessAfter

def unhealthyMachine : Getter where
  kind := "Machine"
  name := "machine-1"
  conditions :=
    [{ type := "HealthCheckSucceeded", status := .isFalse, reason := "NodeNotFound" },
     { type := "InfrastructureReady", status := .isTrue }]

/-- Its summary is True. -/
theorem unhealthyMachine_hidden : ¬ (Operation.setSummary unhealthyMachine []).ShowsFailures .insertion id := by
  intro shows
  refine shows ⟨_, mem_cons_self, ?_⟩ _ rfl rfl
  rfl

end ClusterApi.Conditions.Merge

import ClusterApi.Conditions.Merge
import ClusterApi.Foundation.Keyed
import ClusterApi.Foundation.Texts
import ClusterApi.Util.Errors

namespace ClusterApi.Conditions.Aggregate

open Foundation
open Merge (Status)

/-!
# Aggregating a condition of many objects

The conditions of the later API version have no severity.  An aggregate merges
one condition of many objects: conditions are split into issues, unknowns and
infos, and the message shows up to three of the messages that they report, with
the objects that report them.

Iterating over a map visits the keys in an arbitrary order.  The plural of a
kind is a parameter.
-/

/-- The name of an object, which has neither commas nor colons. -/
@[ext]
structure ObjectName where
  text : String
  plain : ',' ∉ text.toList ∧ ':' ∉ text.toList
  deriving DecidableEq

structure Condition where
  type : String
  status : Status
  reason : String := ""
  message : String := ""
  /-- The time since the zero time. -/
  lastTransitionTime : Nat := 0
  deriving DecidableEq

@[ext]
structure ConditionOwnerInfo where
  kind : String
  name : ObjectName
  deriving DecidableEq

structure ConditionWithOwnerInfo extends Condition where
  ownerResource : ConditionOwnerInfo
  deriving DecidableEq

/-! ## Strategies -/

inductive MergePriority
  | issue
  | unknown
  | info
  deriving DecidableEq

/-- The default strategy with its options. -/
structure MergeStrategy where
  getPriorityFunc : Option (Condition → MergePriority)
  issueReason : String := "IssuesReported"
  unknownReason : String := "UnknownReported"
  infoReason : String := "InfoReported"
  targetConditionHasPositivePolarity : Bool := true

def getDefaultMergePriorityFunc (negativePolarityConditionTypes : List String)
    (condition : Condition) : MergePriority :=
  match condition.status with
  | .isTrue => if condition.type ∈ negativePolarityConditionTypes then .issue else .info
  | .isFalse => if condition.type ∈ negativePolarityConditionTypes then .info else .issue
  | .isUnknown | .other _ => .unknown

def MergeStrategy.computeReason (strategy : MergeStrategy)
    (issueConditions unknownConditions : List ConditionWithOwnerInfo) : String :=
  if issueConditions ≠ [] then strategy.issueReason
  else if unknownConditions ≠ [] then strategy.unknownReason
  else strategy.infoReason

/-! ## Sorting and splitting the conditions -/

/-- The index of the last occurrence of a type, zero for other types. -/
def conditionOrder (orderedConditionTypes : List String) (type : String) : Nat :=
  orderedConditionTypes.zipIdx.foldl (fun found entry => if entry.1 = type then entry.2 else found) 0

def conditionLess (orderedConditionTypes : List String) (first second : ConditionWithOwnerInfo) : Bool :=
  conditionOrder orderedConditionTypes first.type < conditionOrder orderedConditionTypes second.type ||
    conditionOrder orderedConditionTypes first.type = conditionOrder orderedConditionTypes second.type &&
      first.lastTransitionTime < second.lastTransitionTime

def sortConditions (conditions : List ConditionWithOwnerInfo)
    (orderedConditionTypes : List String) : List ConditionWithOwnerInfo :=
  stableSort (conditionLess orderedConditionTypes) conditions

/-- The conditions of one priority, in their order. -/
def ofPriority (getPriority : Condition → MergePriority) (priority : MergePriority)
    (conditions : List ConditionWithOwnerInfo) : List ConditionWithOwnerInfo :=
  conditions.filter fun condition => getPriority condition.toCondition = priority

/-! ## Messages -/

def indentIfMultiline (message : String) : String :=
  if message.toList.contains '\n' || "* ".toList.isPrefixOf message.toList then
    "\n" ++ joinTexts "\n" ((message.toList.splitOn '\n').map fun line => "  " ++ String.ofList line)
  else " " ++ message

def sortStrings (texts : List String) : List String := stableSort (fun first second => first < second) texts

/-- The order in which the keys of a map are visited. -/
structure MapOrder where
  keys : List String → List String
  perm : ∀ list, (keys list).Perm list

/-- The names of the objects that report a message. -/
def objectNames (ofKind : List ConditionWithOwnerInfo) (message : String) : List String :=
  (ofKind.filter fun condition => condition.message = message).map fun condition => condition.ownerResource.name.text

/-- More objects come first, then the smaller list of names, in the order of the list. -/
def messageLess (ofKind : List ConditionWithOwnerInfo) (first second : String) : Bool :=
  (objectNames ofKind second).length < (objectNames ofKind first).length ||
    (objectNames ofKind first).length = (objectNames ofKind second).length &&
      joinTexts "," (objectNames ofKind first) < joinTexts "," (objectNames ofKind second)

def messageIndex (visited : MapOrder) (ofKind : List ConditionWithOwnerInfo) : List String :=
  stableSort (messageLess ofKind) (visited.keys (ofKind.map fun condition => condition.message).dedup)

section

variable (pluralize : String → String)

/-- The objects that report a message, up to three of them by name. -/
def objectsText (kind : String) (allObjects : List String) : String :=
  if allObjects.length = 0 then ""
  else if allObjects.length = 1 then "* " ++ kind ++ " " ++ joinTexts ", " allObjects ++ ":"
  else if allObjects.length ≤ 3 then "* " ++ pluralize kind ++ " " ++ joinTexts ", " allObjects ++ ":"
  else
    "* " ++ pluralize kind ++ " " ++ joinTexts ", " (allObjects.take 3) ++ ", ... (" ++ toString (allObjects.length - 3) ++
      " more):"

def messageText (kind : String) (ofKind : List ConditionWithOwnerInfo) (message : String) : String :=
  objectsText pluralize kind (sortStrings (objectNames ofKind message)) ++ indentIfMultiline message

/-- The loop over the messages of a kind; `n` is how many may still be shown. -/
structure Picking where
  messages : List String := []
  n : Nat
  other : Nat := 0

def pick (kind : String) (ofKind : List ConditionWithOwnerInfo) (picking : Picking) (message : String) : Picking :=
  if picking.n = 0 then { picking with other := picking.other + (objectNames ofKind message).length }
  else
    { picking with
      messages := picking.messages ++ [messageText pluralize kind ofKind message]
      n := picking.n - 1 }

def otherText (kind : String) (other : Nat) (otherMessage : String) : List String :=
  if other = 1 then ["And " ++ toString other ++ " " ++ kind ++ " " ++ otherMessage]
  else if 1 < other then ["And " ++ toString other ++ " " ++ pluralize kind ++ " " ++ otherMessage]
  else []

def aggregateKind (visited : MapOrder) (reported : List ConditionWithOwnerInfo)
    (otherMessage : String) (aggregated : List String × Nat) (kind : String) : List String × Nat :=
  let ofKind := reported.filter fun condition => condition.ownerResource.kind = kind
  let picking := (messageIndex visited ofKind).foldl (pick pluralize kind ofKind) { n := aggregated.2 }
  (aggregated.1 ++ picking.messages ++ otherText pluralize kind picking.other otherMessage, picking.n)

/-- The conditions whose message is reported. -/
def reporting (dropEmpty : Bool) (conditions : List ConditionWithOwnerInfo) : List ConditionWithOwnerInfo :=
  conditions.filter fun condition => !(dropEmpty && condition.message = "")

/-- The messages, and how many may still be shown. -/
def aggregateMessages (visited : MapOrder) (conditions : List ConditionWithOwnerInfo) (n : Nat)
    (dropEmpty : Bool) (otherMessage : String) : List String × Nat :=
  let reported := reporting dropEmpty conditions
  let kinds := sortStrings (visited.keys (reported.map fun condition => condition.ownerResource.kind).dedup)
  kinds.foldl (aggregateKind pluralize visited reported otherMessage) ([], n)

/-! ## Merging -/

/-- The message of a summary, which merges different conditions of one object. -/
def summaryMessage (getPriority : Condition → MergePriority) (status : Status)
    (conditions : List ConditionWithOwnerInfo) : String :=
  joinTexts "\n" (conditions.filterMap fun condition =>
    if getPriority condition.toCondition = .info ∧ (status ≠ .isTrue ∨ condition.message = "") then none
    else
      some ("* " ++ condition.type ++ ":" ++
        if condition.message ≠ "" then indentIfMultiline condition.message else " No additional info provided"))

/-- The message of an aggregate, which merges one condition of many objects. -/
def aggregateMessage (visited : MapOrder)
    (issueConditions unknownConditions infoConditions : List ConditionWithOwnerInfo) : String :=
  let issues :=
    if issueConditions ≠ [] then aggregateMessages pluralize visited issueConditions 3 false "with other issues"
    else ([], 3)
  let unknowns :=
    if unknownConditions ≠ [] then
      aggregateMessages pluralize visited unknownConditions issues.2 false "with status unknown"
    else ([], issues.2)
  let infos :=
    if issueConditions = [] ∧ unknownConditions = [] ∧ infoConditions ≠ [] then
      aggregateMessages pluralize visited infoConditions unknowns.2 true "with additional info"
    else ([], unknowns.2)
  joinTexts "\n" (issues.1 ++ unknowns.1 ++ infos.1)

structure Merged where
  status : Status
  reason : String
  message : String

def mergedStatus (strategy : MergeStrategy)
    (issueConditions unknownConditions infoConditions : List ConditionWithOwnerInfo) : Option Status :=
  if issueConditions ≠ [] then some (if strategy.targetConditionHasPositivePolarity then .isFalse else .isTrue)
  else if unknownConditions ≠ [] then some .isUnknown
  else if infoConditions ≠ [] then some (if strategy.targetConditionHasPositivePolarity then .isTrue else .isFalse)
  else none

def merge (visited : MapOrder) (strategy : MergeStrategy) (conditions : List ConditionWithOwnerInfo)
    (conditionTypes : List String) : Except String Merged :=
  if conditions = [] then .error "can't merge an empty list of conditions"
  else
    match strategy.getPriorityFunc with
    | none => .error "can't merge without a getPriority func"
    | some getPriority =>
      let sorted := sortConditions conditions conditionTypes
      let issueConditions := ofPriority getPriority .issue sorted
      let unknownConditions := ofPriority getPriority .unknown sorted
      let infoConditions := ofPriority getPriority .info sorted
      match mergedStatus strategy issueConditions unknownConditions infoConditions with
      | none => .error "can't merge an empty list of conditions"
      | some status =>
        .ok
          { status := status
            reason := strategy.computeReason issueConditions unknownConditions
            message :=
              if conditionTypes.length = 1 then
                aggregateMessage pluralize visited issueConditions unknownConditions infoConditions
              else summaryMessage getPriority status (issueConditions ++ (unknownConditions ++ infoConditions)) }

end

/-! ## The aggregate condition -/

structure SourceObject where
  /-- The kind of the type meta, which is often missing. -/
  objectKind : String := ""
  typeName : String
  name : ObjectName
  conditions : List Condition
  deriving DecidableEq

def getConditionOwnerInfo (object : SourceObject) : ConditionOwnerInfo where
  kind := if object.objectKind = "" then object.typeName else object.objectKind
  name := object.name

def getConditionsWithOwnerInfo (object : SourceObject) : List ConditionWithOwnerInfo :=
  object.conditions.map fun condition => { toCondition := condition, ownerResource := getConditionOwnerInfo object }

/-- The condition of an object; a missing one is unknown. -/
def conditionInScope (sourceConditionType : String) (object : SourceObject) : ConditionWithOwnerInfo :=
  match (getConditionsWithOwnerInfo object).find? fun condition => condition.type = sourceConditionType with
  | some condition => condition
  | none =>
    { type := sourceConditionType
      status := .isUnknown
      reason := "NotYetReported"
      message := "Condition " ++ sourceConditionType ++ " not yet reported"
      ownerResource := getConditionOwnerInfo object }

structure AggregateOptions where
  mergeStrategy : Option MergeStrategy := none
  targetConditionType : Option String := none
  negativePolarityConditionTypes : List String := []

namespace AggregateOptions

variable (options : AggregateOptions) (sourceConditionType : String)

/-- Only the type of the source condition can have negative polarity. -/
def polarityIsInvalid : Bool :=
  options.negativePolarityConditionTypes ≠ [] && options.negativePolarityConditionTypes ≠ [sourceConditionType]

/-- By default the target has the polarity of the source. -/
def strategy : MergeStrategy :=
  options.mergeStrategy.getD
    { getPriorityFunc := some (getDefaultMergePriorityFunc options.negativePolarityConditionTypes)
      targetConditionHasPositivePolarity := sourceConditionType ∉ options.negativePolarityConditionTypes }

end AggregateOptions

def newAggregateCondition (pluralize : String → String) (visited : MapOrder) (options : AggregateOptions)
    (sourceObjs : List SourceObject) (sourceConditionType : String) : Except String Condition :=
  if sourceObjs = [] then .error "sourceObjs can't be empty"
  else if options.polarityIsInvalid sourceConditionType then
    .error ("negativePolarityConditionTypes can only be set to [" ++ quote sourceConditionType ++ "]")
  else
    match
      merge pluralize visited (options.strategy sourceConditionType)
        (sourceObjs.map (conditionInScope sourceConditionType)) [sourceConditionType]
    with
    | .error error => .error error
    | .ok merged =>
      .ok
        { type := options.targetConditionType.getD sourceConditionType
          status := merged.status
          reason := merged.reason
          message := merged.message }

end ClusterApi.Conditions.Aggregate

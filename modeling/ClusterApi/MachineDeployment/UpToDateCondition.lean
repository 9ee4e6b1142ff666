import ClusterApi.Conditions.Aggregate
import ClusterApi.ControlPlane.Webhook

namespace ClusterApi.MachineDeployment

open Foundation
open ControlPlane.Webhook (ObjectReference)

/-!
# When Machines are up to date

The MachineDeployment controller decides which MachineSets can be the new one,
and the MachineSet controller reports on every Machine whether it is up to
date.  Both compare the templates of the MachineSet and of the deployment, and
both look at `rolloutAfter`.
-/

structure Bootstrap where
  configRef : Option ObjectReference := none
  dataSecretName : Option String := none
  deriving DecidableEq

/-- The fields of a template that matter for a rollout. -/
structure MachineTemplateSpec where
  version : Option String := none
  bootstrap : Bootstrap := {}
  infrastructureRef : ObjectReference := {}
  failureDomain : Option String := none

/-- The reference without the version of its API, by which it is not told apart. -/
def withoutVersion (reference : ObjectReference) : ObjectReference :=
  { reference with
    apiVersion :=
      match splitText '/' reference.apiVersion with
      | [group, _] => group
      | _ => "" }

def machineTemplateDeepCopyRolloutFields (template : MachineTemplateSpec) : MachineTemplateSpec :=
  { template with
    infrastructureRef := withoutVersion template.infrastructureRef
    bootstrap := { template.bootstrap with configRef := template.bootstrap.configRef.map withoutVersion } }

def required (what current desired : String) : String := what ++ " " ++ current ++ ", " ++ desired ++ " required"

def referred (reference : ObjectReference) : String := reference.kind ++ " " ++ reference.name

/-- Conditions surface on Machines, so the kind of a template loses its suffix. -/
def notUpToDate (kind : String) : String :=
  let suffix := "Template".toList
  (if suffix.isSuffixOf kind.toList then String.ofList (kind.toList.take (kind.length - suffix.length)) else kind) ++
    " is not up-to-date"

/-- The differences, each as it is logged and as it is reported. -/
def templateDifferences (current desired : MachineTemplateSpec) : List (String × String) :=
  let versions := (current.version.getD "nil", desired.version.getD "nil")
  let domains := (current.failureDomain.getD "nil", desired.failureDomain.getD "nil")
  (if current.version ≠ desired.version then
    [(required "spec.version" versions.1 versions.2, required "Version" versions.1 versions.2)]
  else []) ++
  (if current.bootstrap ≠ desired.bootstrap then
    match current.bootstrap.configRef with
    | some configRef =>
      [(required "spec.bootstrap.configRef" (referred configRef) (referred (desired.bootstrap.configRef.getD {})),
        notUpToDate configRef.kind)]
    | none =>
      let message := required "spec.bootstrap.dataSecretName" (current.bootstrap.dataSecretName.getD "nil")
        (desired.bootstrap.dataSecretName.getD "nil")
      [(message, message)]
  else []) ++
  (if current.infrastructureRef ≠ desired.infrastructureRef then
    [(required "spec.infrastructureRef" (referred current.infrastructureRef) (referred desired.infrastructureRef),
      notUpToDate current.infrastructureRef.kind)]
  else []) ++
  if current.failureDomain ≠ desired.failureDomain then
    [(required "spec.failureDomain" domains.1 domains.2, required "Failure domain" domains.1 domains.2)]
  else []

/-- Whether a template is up to date, with the messages for logs and for conditions. -/
def machineTemplateUpToDate (current desired : MachineTemplateSpec) : Bool × List String × List String :=
  let differences := templateDifferences (machineTemplateDeepCopyRolloutFields current)
    (machineTemplateDeepCopyRolloutFields desired)
  (differences.isEmpty, differences.map Prod.fst, differences.map Prod.snd)

/-- The MachineSets of one deployment, with their templates. -/
structure Templates where
  desired : MachineTemplateSpec
  current : MachineSet → MachineTemplateSpec

def Templates.upToDate (templates : Templates) (machineSet : MachineSet) : Bool :=
  (machineTemplateUpToDate (templates.current machineSet) templates.desired).1

/-- `rolloutAfter` has passed since the MachineSet was created. -/
def rolloutExpired (deployment : Deployment) (machineSet : MachineSet) (reconciliationTime : Int) : Bool :=
  deployment.rolloutAfter.any fun rolloutAfter =>
    rolloutAfter < reconciliationTime && !(machineSet.creationTimestamp > rolloutAfter)

/-- A stand-alone MachineSet gets no condition. -/
def newMachineUpToDateCondition (owningMachineDeployment : Option Deployment) (templates : Templates)
    (machineSet : MachineSet) (reconciliationTime : Int) : Option Conditions.Aggregate.Condition :=
  match owningMachineDeployment with
  | none => none
  | some deployment =>
    let (upToDate, _, messages) := machineTemplateUpToDate (templates.current machineSet) templates.desired
    let expired := rolloutExpired deployment machineSet reconciliationTime
    let messages := if expired then messages ++ ["MachineDeployment spec.rolloutAfter expired"] else messages
    if !upToDate || expired then
      some { type := "UpToDate", status := .isFalse, reason := "NotUpToDate", message := joinTexts "; " messages }
    else some { type := "UpToDate", status := .isTrue, reason := "UpToDate" }

/-- The MachineSets among which the search for the new one takes the first. -/
def candidates (upToDate : MachineSet → Bool) (rolloutAfter : Option Int) (reconciliationTime : Int)
    (machineSets : List MachineSet) : List MachineSet :=
  (sortByDecreasingReplicas machineSets).filter fun machineSet =>
    upToDate machineSet && rolloutAfter.all fun time =>
      reconciliationTime < time || machineSet.creationTimestamp > time

theorem reported_upToDate_iff {deployment : Deployment} {templates : Templates} {machineSet : MachineSet} {time : Int} :
    (newMachineUpToDateCondition (some deployment) templates machineSet time).map (·.status) = some .isTrue ↔
      templates.upToDate machineSet = true ∧ rolloutExpired deployment machineSet time = false := by
  unfold newMachineUpToDateCondition Templates.upToDate
  cases upToDate : (machineTemplateUpToDate (templates.current machineSet) templates.desired).1 <;>
    cases expired : rolloutExpired deployment machineSet time <;> simp [upToDate, expired]

/-- The report agrees with the search, except on a MachineSet that is outdated from the time of the
reconciliation on. -/
theorem reported_iff_candidate (deployment : Deployment) (templates : Templates)
    (machineSets : List MachineSet) (reconciliationTime : Int) :
    let found := candidates templates.upToDate deployment.rolloutAfter reconciliationTime machineSets
    findNewMachineSet templates.upToDate deployment.rolloutAfter reconciliationTime machineSets =
      found.head? ∧ ∀ machineSet ∈ machineSets,
        (((newMachineUpToDateCondition (some deployment) templates machineSet reconciliationTime).map (·.status) =
            some .isTrue ↔ machineSet ∈ found) ↔
          ¬ (deployment.rolloutAfter = some reconciliationTime ∧ templates.upToDate machineSet = true ∧
            machineSet.creationTimestamp ≤ reconciliationTime)) := by
  constructor
  · unfold findNewMachineSet candidates
    cases deployment.rolloutAfter with
    | none => simp
    | some =>
      dsimp only
      split_ifs with early
      · simp [early]
      · simp [early]
  intro machineSet inside
  have listed : machineSet ∈ sortByDecreasingReplicas machineSets := (List.mem_insertionSort _).mpr inside
  rw [reported_upToDate_iff, candidates, List.mem_filter, and_iff_right listed, Bool.and_eq_true, rolloutExpired]
  cases templates.upToDate machineSet with
  | false => simp
  | true =>
    cases deployment.rolloutAfter with
    | none => simp
    | some =>
      simp
      omega

def oldMachineSet : MachineSet := { name := "old", creationTimestamp := 1, replicas := some 1 }

def rolloutAtFive : Deployment :=
  { name := "md", replicas := some 1, strategyType := .rollingUpdate, rolloutAfter := some 5 }

def equalTemplates : Templates := { desired := {}, current := fun _ => {} }

/-- At the very time of `rolloutAfter` an old MachineSet is up to date for one controller only. -/
theorem reported_at_rolloutAfter :
    (newMachineUpToDateCondition (some rolloutAtFive) equalTemplates oldMachineSet 5).map (·.status) = some .isTrue ∧
      candidates equalTemplates.upToDate rolloutAtFive.rolloutAfter 5 [oldMachineSet] = [] := by
  decide +kernel

theorem reported_after_rolloutAfter :
    (newMachineUpToDateCondition (some rolloutAtFive) equalTemplates oldMachineSet 6).map (·.status) = some .isTrue ↔
      oldMachineSet ∈ candidates equalTemplates.upToDate rolloutAtFive.rolloutAfter 6 [oldMachineSet] :=
  ((reported_iff_candidate rolloutAtFive equalTemplates [oldMachineSet] 6).2 oldMachineSet
    (List.mem_singleton_self oldMachineSet)).mpr (by decide +kernel)

end ClusterApi.MachineDeployment

import ClusterApi.Foundation.Keyed
import ClusterApi.Foundation.Loops
import ClusterApi.MachineDeployment.Util
import ClusterApi.MachineHealthCheck.NeedsRemediation
import ClusterApi.Util.Errors

namespace ClusterApi.MachineHealthCheck

open Foundation
open MachineDeployment (IntOrString Scaler)

/-!
# One reconcile of a MachineHealthCheck

The targets are read from the server and checked.  If remediation is allowed,
one loop marks the unhealthy targets and requests their remediation, and a
second one marks the healthy targets and withdraws the requests; otherwise the
outcomes are written and nothing else happens.

Requests for an external remediation are objects of a kind that the
remediation template determines, named after the Machine.
-/

/-! ## The server -/

structure RequestKey where
  apiVersion : String
  kind : String
  name : String
  deriving DecidableEq

structure ExternalRequest where
  hasFinalizers : Bool := false
  hasDeletionTimestamp : Bool := false

/-- The Machines, and the requests in the namespace of the MachineHealthCheck. -/
structure Server where
  machines : Keyed TargetMachine fun machine => machine.name
  requests : RequestKey → Option ExternalRequest

/-- What `spec.template` of a remediation template says about its kind; a template may have none. -/
structure TemplateBody where
  apiVersion : String := ""
  kind : String := ""

structure RemediationTemplate where
  body : Option TemplateBody

structure TemplateRef where
  apiVersion : String
  kind : String
  name : String

inductive Call
  | getClient
  | watchClusterNodes
  | listMachines
  | getRequest
  | getTemplate
  | createRequest
  | deleteRequest
  | patchMachine

inductive NodeReply
  | found (node : Node)
  | notFound
  | failed (error : String)

/-- How the API calls end: which ones fail, by the name of the Machine they are made for, and what the others read. -/
structure Api where
  fails : Call → String → Option String
  template : TemplateRef → Option RemediationTemplate
  node : String → NodeReply

def Api.NoCallFails (api : Api) : Prop :=
  (∀ call name, api.fails call name = none) ∧ ∀ name error, api.node name ≠ .failed error

/-- The MachineHealthCheck.  The lower and the upper bound of an unhealthy range are numbers, by a
pattern of the field. -/
structure Spec where
  «namespace» : String
  clusterName : String
  selector : TargetMachine → Bool
  unhealthyConditions : List UnhealthyCondition := []
  maxUnhealthy : Option IntOrString := none
  unhealthyRange : Option (Nat × Nat) := none
  nodeStartupTimeout : Option Int := none
  remediationTemplate : Option TemplateRef := none

/-! ## External requests -/

/-- `strings.TrimSuffix`. -/
def trimSuffix (text suffix : String) : String :=
  if suffix.toList.isSuffixOf text.toList then String.ofList (text.toList.take (text.length - suffix.length)) else text

/-- The group, version and kind as they are printed. -/
def groupVersionKind (ref : TemplateRef) : String :=
  match ref.apiVersion.toList.splitOn '/' with
  | [version] => "/" ++ String.ofList version ++ ", Kind=" ++ ref.kind
  | [group, version] => String.ofList group ++ "/" ++ String.ofList version ++ ", Kind=" ++ ref.kind
  | _ => "/, Kind=" ++ ref.kind

def requestKey (ref : TemplateRef) (machineName : String) : RequestKey :=
  ⟨ref.apiVersion, trimSuffix ref.kind "Template", machineName⟩

/-- The request a template is cloned to.  A template may say another kind than its own name suggests. -/
def generateTemplate (ref : TemplateRef) (template : RemediationTemplate) (machineName : String) :
    Except String RequestKey :=
  match template.body with
  | none => .error ("missing Spec.Template on " ++ groupVersionKind ref ++ " " ++ quote ref.name)
  | some body =>
    .ok
      ⟨if body.apiVersion = "" then ref.apiVersion else body.apiVersion,
        if body.kind = "" then trimSuffix ref.kind "Template" else body.kind, machineName⟩

inductive Fetched (Object : Type)
  | found (object : Object)
  | notFound (error : String)
  | failed (error : String)

def externalGet {Object : Type} (failure : Option String) (kind «namespace» name : String)
    (stored : Option Object) : Fetched Object :=
  let context := "failed to retrieve " ++ kind ++ " external object " ++ quote «namespace» ++ "/" ++ quote name
  match failure, stored with
  | some error, _ => .failed (wrap context error)
  | none, none => .notFound (wrap context "not found")
  | none, some object => .found object

section

variable (api : Api) (mhc : Spec)

def getExternalRemediationRequest (ref : TemplateRef) (requests : RequestKey → Option ExternalRequest)
    (machineName : String) : Fetched ExternalRequest :=
  match externalGet (api.fails .getRequest machineName) (trimSuffix ref.kind "Template") mhc.namespace machineName
      (requests (requestKey ref machineName)) with
  | .found request => .found request
  | .notFound error => .notFound (wrap "failed to retrieve external remediation request object" error)
  | .failed error => .failed (wrap "failed to retrieve external remediation request object" error)

/-- A request that cannot be read counts as missing. -/
def externalRemediationRequestExists (ref : TemplateRef)
    (requests : RequestKey → Option ExternalRequest) (machineName : String) : Bool :=
  match getExternalRemediationRequest api mhc ref requests machineName with
  | .found _ => true
  | .notFound _ => false
  | .failed _ => false

def createRequest (requests : RequestKey → Option ExternalRequest) (key : RequestKey) : Except String Unit :=
  match api.fails .createRequest key.name, requests key with
  | some error, _ => .error error
  | none, some _ => .error "already exists"
  | none, none => .ok ()

/-! ## Patches of Machines -/

/-- What a patch of the difference between two values makes of the stored one. -/
def patched {Value : Type} [DecidableEq Value] (original new stored : Value) : Value :=
  if new = original then stored else new

/-- Another writer changed a condition that the patch does not own. -/
def conflicts {Value : Type} [DecidableEq Value] (original new stored : Value) : Bool :=
  new ≠ original && stored ≠ original && stored ≠ new

def patchConditions (target : HealthCheckTarget) (stored : TargetMachine) : TargetMachine :=
  { stored with
    healthCheckSucceeded :=
      patched target.original.healthCheckSucceeded target.machine.healthCheckSucceeded stored.healthCheckSucceeded
    ownerRemediated := patched target.original.ownerRemediated target.machine.ownerRemediated stored.ownerRemediated
    healthCheckSucceededV1Beta2 :=
      patched target.original.healthCheckSucceededV1Beta2 target.machine.healthCheckSucceededV1Beta2
        stored.healthCheckSucceededV1Beta2
    ownerRemediatedV1Beta2 :=
      patched target.original.ownerRemediatedV1Beta2 target.machine.ownerRemediatedV1Beta2 stored.ownerRemediatedV1Beta2
    externallyRemediatedV1Beta2 :=
      patched target.original.externallyRemediatedV1Beta2 target.machine.externallyRemediatedV1Beta2
        stored.externallyRemediatedV1Beta2 }

/-- The error of the patch of a target, given what the server holds.  Without a difference no call is made. -/
def patchError (target : HealthCheckTarget) (stored : Option TargetMachine) : Option String :=
  if target.machine = target.original then none
  else
    match api.fails .patchMachine target.name, stored with
    | some error, _ => some error
    | none, none => some "not found"
    | none, some stored =>
      if conflicts target.original.ownerRemediated target.machine.ownerRemediated stored.ownerRemediated ||
          conflicts target.original.ownerRemediatedV1Beta2 target.machine.ownerRemediatedV1Beta2
            stored.ownerRemediatedV1Beta2 ||
          conflicts target.original.externallyRemediatedV1Beta2 target.machine.externallyRemediatedV1Beta2
            stored.externallyRemediatedV1Beta2 then
        some "conflict"
      else none

def Server.patch (server : Server) (target : HealthCheckTarget) : Server :=
  { server with machines := server.machines.update target.name (patchConditions target) fun _ => rfl }

def patchTarget (server : Server) (target : HealthCheckTarget) : Server × Option String :=
  match patchError api target (server.machines.find? target.name) with
  | some error => (server, some error)
  | none => (server.patch target, none)

def Server.setRequest (server : Server) (key : RequestKey) (request : Option ExternalRequest) : Server :=
  { server with requests := Function.update server.requests key request }

/-! ## The loop over the unhealthy targets -/

/-- The state of a loop: the server, the errors, and the marks on the MachineHealthCheck. -/
structure Progress where
  server : Server
  errors : List String := []
  templateAvailable : ConditionChange := .keep
  requestAvailable : ConditionChange := .keep

/-- What is done about a target before its Machine is patched. -/
inductive Decision
  | returns (errors : List String) (templateAvailable requestAvailable : ConditionChange)
  | patches (creates : Option RequestKey) (target : HealthCheckTarget)

/-- The Machine waits for an external remediation. -/
def waitForRemediation (target : HealthCheckTarget) : HealthCheckTarget :=
  { target with
    machine :=
      { target.machine with
        externallyRemediatedV1Beta2 := some { status := .isFalse, reason := "WaitingForRemediation" } } }

def isPaused (cluster : Cluster) (target : HealthCheckTarget) : Bool := cluster.paused || target.machine.hasPaused

/-- The Machine of a target as the errors of the loop name it. -/
def machineContext (mhc : Spec) (clusterName : String) (target : HealthCheckTarget) : String :=
  " for machine " ++ quote target.name ++ " in namespace " ++ quote mhc.namespace ++ " within cluster " ++
    quote clusterName

def requestExternally (ref : TemplateRef) (requests : RequestKey → Option ExternalRequest)
    (target : HealthCheckTarget) : Decision :=
  -- A request that exists ends the loop, and with it the treatment of all later targets.
  if externalRemediationRequestExists api mhc ref requests target.name then .returns [] .keep .keep
  else
    match externalGet (api.fails .getTemplate target.name) ref.kind mhc.namespace ref.name (api.template ref) with
    | .notFound error | .failed error =>
      .returns
        [wrap ("error retrieving remediation template " ++ groupVersionKind ref ++ " " ++ quote ref.name ++
          machineContext mhc mhc.clusterName target) error]
        (.set
          { status := .isFalse, reason := "ExternalRemediationTemplateNotFound", severity := "Error",
            message := error })
        .keep
    | .found template =>
      match generateTemplate ref template target.name with
      | .error error =>
        .returns
          [wrap ("failed to create template for remediation request " ++ groupVersionKind ref ++ " " ++
            quote ref.name ++ machineContext mhc mhc.clusterName target) error]
          .keep .keep
      | .ok key =>
        match createRequest api requests key with
        | .error error =>
          .returns
            [wrap ("error creating remediation request" ++ machineContext mhc target.machine.clusterName target)
              error]
            .keep
            (.set
              { status := .isFalse, reason := "ExternalRemediationRequestCreationFailed", severity := "Error",
                message := error })
        | .ok () => .patches (some key) (waitForRemediation target)

def remediate (cluster : Cluster) (requests : RequestKey → Option ExternalRequest)
    (target : HealthCheckTarget) : Decision :=
  if isPaused cluster target then .patches none target
  else
    match mhc.remediationTemplate with
    | some ref => requestExternally api mhc ref requests target
    | none => .patches none (target.mark requestRemediation)

def Server.create (server : Server) (creates : Option RequestKey) : Server :=
  match creates with
  | some key => server.setRequest key (some {})
  | none => server

def patchUnhealthyPass (cluster : Cluster) (progress : Progress) (target : HealthCheckTarget) : ForInStep Progress :=
  match remediate api mhc cluster progress.server.requests target with
  | .returns errors templateAvailable requestAvailable =>
    .done
      { server := progress.server, errors := progress.errors ++ errors,
        templateAvailable := templateAvailable, requestAvailable := requestAvailable }
  | .patches creates marked =>
    let (server, error) := patchTarget api (progress.server.create creates) marked
    .yield
      { progress with
        server := server
        errors := progress.errors ++ (error.map (wrap
          ("failed to patch unhealthy machine status for machine: " ++ mhc.namespace ++ "/" ++ marked.name))).toList }

def patchUnhealthyTargets (cluster : Cluster) (progress : Progress) (unhealthy : List HealthCheckTarget) : Progress :=
  (loop (patchUnhealthyPass api mhc cluster) progress unhealthy).run

/-! ## The loop over the healthy targets -/

/-- What is done about a request, and whether the Machine is patched. -/
inductive Withdrawal
  | skips (errors : List String)
  | patches (deletes : Option RequestKey)

def withdrawRequest (requests : RequestKey → Option ExternalRequest) (target : HealthCheckTarget) : Withdrawal :=
  match mhc.remediationTemplate with
  | none => .patches none
  | some ref =>
    match getExternalRemediationRequest api mhc ref requests target.name with
    -- A Machine without a request is skipped, also if its condition has changed.
    | .notFound _ => .skips []
    | .failed error =>
      .skips
        [wrap ("failed to fetch remediation request" ++ machineContext mhc target.machine.clusterName target) error]
    | .found request =>
      if request.hasDeletionTimestamp then .patches none
      else
        match api.fails .deleteRequest target.name with
        | some error =>
          .skips
            [wrap ("failed to delete " ++ groupVersionKind { ref with kind := trimSuffix ref.kind "Template" } ++
              " " ++ quote target.name ++ " for Machine " ++ quote target.name) error]
        | none => .patches (some (requestKey ref target.name))

/-- Finalizers keep a deleted request until they are removed. -/
def ExternalRequest.delete (request : ExternalRequest) : Option ExternalRequest :=
  if request.hasFinalizers then some { request with hasDeletionTimestamp := true } else none

def Server.delete (server : Server) (deletes : Option RequestKey) : Server :=
  match deletes with
  | some key => server.setRequest key ((server.requests key).bind ExternalRequest.delete)
  | none => server

def patchHealthyPass (progress : Progress) (target : HealthCheckTarget) : ForInStep Progress :=
  match withdrawRequest api mhc progress.server.requests target with
  | .skips errors => .yield { progress with errors := progress.errors ++ errors }
  | .patches deletes =>
    let (server, error) := patchTarget api (progress.server.delete deletes) target
    .yield
      { progress with
        server := server
        errors := progress.errors ++ (error.map (wrap
          ("failed to patch healthy machine status for machine: " ++ mhc.namespace ++ "/" ++ target.name))).toList }

def patchHealthyTargets (progress : Progress) (healthy : List HealthCheckTarget) : Progress :=
  (loop (patchHealthyPass api mhc) progress healthy).run

/-! ## The reconcile -/

def maxUint32 : Nat := 2 ^ 32 - 1

def getUnhealthyRange (range : Nat × Nat) : Except String (Nat × Nat) :=
  if maxUint32 < range.1 then .error ("strconv.ParseUint: parsing " ++ quote (toString range.1) ++ ": value out of range")
  else if maxUint32 < range.2 then
    .error ("strconv.ParseUint: parsing " ++ quote (toString range.2) ++ ": value out of range")
  else if range.2 < range.1 then
    .error ("max value " ++ toString range.2 ++ " cannot be less than min value " ++ toString range.1 ++
      " for unhealthyRange")
  else .ok range

variable (scaler : Scaler)

def getMaxUnhealthy (expectedMachines : Int) : Except String Int :=
  match mhc.maxUnhealthy with
  | none => .error "spec.maxUnhealthy must be set"
  | some maxUnhealthy => scaler (some maxUnhealthy) expectedMachines false

/-- Whether remediation is allowed, and for how many Machines more. -/
def isAllowedRemediation (expectedMachines currentHealthy : Int) : Except String (Bool × Int) :=
  let unhealthyMachineCount := expectedMachines - currentHealthy
  match mhc.unhealthyRange with
  | some range =>
    match getUnhealthyRange range with
    | .error error => .error error
    | .ok (minimum, maximum) =>
      .ok (minimum ≤ unhealthyMachineCount && unhealthyMachineCount ≤ maximum, maximum - unhealthyMachineCount)
  | none =>
    match getMaxUnhealthy mhc scaler expectedMachines with
    | .error error => .error error
    | .ok maxUnhealthy => .ok (unhealthyMachineCount ≤ maxUnhealthy, maxUnhealthy - unhealthyMachineCount)

/-- A Machine whose Node was seen and is gone misses its Node; nothing is known while the cluster is not initialized. -/
def readTarget (cluster : Cluster) (machine : TargetMachine) : Except String HealthCheckTarget :=
  match TimedCondition.isTrue cluster.controlPlaneInitialized, machine.nodeRef with
  | true, some nodeName =>
    match api.node nodeName with
    | .found node => .ok { original := machine, machine := machine, node := some node }
    | .notFound => .ok { original := machine, machine := machine, nodeMissing := true }
    | .failed error => .error (wrap "error getting node" error)
  | _, _ => .ok { original := machine, machine := machine }

def shouldSkipRemediation (machine : TargetMachine) : Bool := machine.hasPaused || machine.hasSkipRemediation

def readTargets (cluster : Cluster) : List TargetMachine → Except String (List HealthCheckTarget)
  | [] => .ok []
  | machine :: rest =>
    if shouldSkipRemediation machine then readTargets cluster rest
    else
      match readTarget api cluster machine with
      | .error error => .error error
      | .ok target =>
        match readTargets cluster rest with
        | .error error => .error error
        | .ok targets => .ok (target :: targets)

def getTargetsFromMHC (cluster : Cluster) (server : Server) : Except String (List HealthCheckTarget) :=
  match api.fails .listMachines "" with
  | some error => .error (wrap "error getting machines from MachineHealthCheck" (wrap "failed to list machines" error))
  | none => readTargets api cluster (server.machines.list.filter mhc.selector)

/-- The client of the workload cluster is needed once its control plane is initialized. -/
def connect (cluster : Cluster) : Option String :=
  if TimedCondition.isTrue cluster.controlPlaneInitialized then
    (api.fails .getClient "").or (api.fails .watchClusterNodes "")
  else none

/-- When the MachineHealthCheck is reconciled again. -/
structure Result where
  requeue : Bool := false
  requeueAfter : Int := 0

structure Outcome where
  server : Server
  result : Except String Result

/-- The targets keep the outcome of their check when remediation is not allowed. -/
def patchRestrictedPass (progress : Progress) (target : HealthCheckTarget) : ForInStep Progress :=
  let (server, error) := patchTarget api progress.server target
  .yield
    { progress with
      server := server
      errors := progress.errors ++ (error.map (wrap
        ("failed to patch machine status for machine: " ++ mhc.namespace ++ "/" ++ target.name))).toList }

def patchRestrictedTargets (progress : Progress) (targets : List HealthCheckTarget) : Progress :=
  (loop (patchRestrictedPass api mhc) progress targets).run

def outcome (progress : Progress) (result : Result) : Outcome :=
  ⟨progress.server, if progress.errors = [] then .ok result else .error (aggregate progress.errors)⟩

variable (durationString : Int → String) (now : Int)

/-- Ten minutes, unless the MachineHealthCheck says otherwise. -/
def nodeStartupTimeout : Int := mhc.nodeStartupTimeout.getD (600 * second)

def check (cluster : Cluster) (targets : List HealthCheckTarget) : HealthCheck :=
  healthCheckTargets durationString now cluster mhc.unhealthyConditions (nodeStartupTimeout mhc) targets

/-- The loops of a reconcile in which remediation is allowed. -/
def remediateTargets (cluster : Cluster) (server : Server) (check : HealthCheck) : Progress :=
  patchHealthyTargets api mhc (patchUnhealthyTargets api mhc cluster { server := server } check.unhealthy) check.healthy

def reconcile (cluster : Cluster) (server : Server) : Outcome :=
  match connect api cluster with
  | some error => ⟨server, .error error⟩
  | none =>
    match getTargetsFromMHC api mhc cluster server with
    | .error error => ⟨server, .error error⟩
    | .ok targets =>
      let checked := check mhc durationString now cluster targets
      match isAllowedRemediation mhc scaler targets.length checked.healthy.length with
      | .error error => ⟨server, .error (wrap "error checking if remediation is allowed" error)⟩
      | .ok (false, _) =>
        outcome (patchRestrictedTargets api mhc { server := server } (checked.healthy ++ checked.unhealthy))
          { requeue := true }
      | .ok (true, _) =>
        outcome (remediateTargets api mhc cluster server checked)
          { requeueAfter :=
              if 0 < minDuration checked.nextCheckTimes then minDuration checked.nextCheckTimes else 0 }

end

end ClusterApi.MachineHealthCheck

import ClusterApi.MachineHealthCheck.Reconcile

namespace ClusterApi.MachineHealthCheck

open Foundation List

/-!
# Requests for unhealthy Machines

The loop over the unhealthy targets is local: a pass reads and writes the
Machine of its target and the requests named after it.  So an unhealthy target
is either served as if it were the only one, or not at all because a target
before it ended the loop.
-/

/-- The Machine of a name and the requests named after it. -/
def Server.view (server : Server) (name : String) :
    Option TargetMachine × (String → String → Option ExternalRequest) :=
  (server.machines.find? name, fun apiVersion kind => server.requests ⟨apiVersion, kind, name⟩)

def Progress.view (progress : Progress) (name : String) :
    Option TargetMachine × (String → String → Option ExternalRequest) :=
  progress.server.view name

section

variable {server other : Server} {name : String} {request : Option ExternalRequest} {key : RequestKey}

theorem Server.machine_eq_of_view (same : server.view name = other.view name) :
    server.machines.find? name = other.machines.find? name :=
  congrArg Prod.fst same

theorem Server.request_eq_of_view (same : server.view name = other.view name)
    (named : key.name = name) : server.requests key = other.requests key := by
  subst named
  exact congrFun (congrFun (congrArg Prod.snd same) key.apiVersion) key.kind

theorem Server.view_ext (sameMachine : server.machines.find? name = other.machines.find? name)
    (sameRequests : ∀ key : RequestKey, key.name = name → server.requests key = other.requests key) :
    server.view name = other.view name := by
  apply Prod.ext
  · exact sameMachine
  · funext apiVersion kind
    exact sameRequests ⟨apiVersion, kind, name⟩ rfl

theorem Server.setRequest_self : (server.setRequest key request).requests key = request :=
  Function.update_self ..

theorem Server.setRequest_of_ne {wanted : RequestKey} (apart : wanted ≠ key) :
    (server.setRequest key request).requests wanted = server.requests wanted :=
  Function.update_of_ne apart ..

theorem Server.view_setRequest_of_ne (apart : name ≠ key.name) :
    (server.setRequest key request).view name = server.view name := by
  apply Server.view_ext
  · rfl
  · intro _ named
    apply Server.setRequest_of_ne
    rintro rfl
    exact apart named.symm

theorem Server.view_setRequest_congr (same : server.view name = other.view name) :
    (server.setRequest key request).view name = (other.setRequest key request).view name := by
  apply Server.view_ext
  · exact congrArg Prod.fst same
  · intro wanted named
    have sameRequest := Server.request_eq_of_view same named
    change Function.update server.requests key request wanted = Function.update other.requests key request wanted
    rw [Function.update_apply, Function.update_apply, sameRequest]

end

/-! ## One patch -/

section

variable {api : Api} {server other : Server} {target : HealthCheckTarget} {name : String}

theorem patchTarget_requests : (patchTarget api server target).1.requests = server.requests := by
  unfold patchTarget
  split <;> rfl

theorem patchTarget_find? : (patchTarget api server target).1.machines.find? name =
    if name = target.name ∧ patchError api target (server.machines.find? target.name) = none then
      (server.machines.find? target.name).map (patchConditions target)
    else server.machines.find? name := by
  unfold patchTarget
  cases failed : patchError api target (server.machines.find? target.name) with
  | some => rw [if_neg (by simp)]
  | none =>
    have updated := @Keyed.find?_update _ _ _ server.machines target.name _ (patchConditions target) (fun _ => rfl) name
    rw [show (server.patch target).machines.find? name = _ from updated]
    simp only [and_true]

theorem view_patchTarget_of_ne (apart : name ≠ target.name) :
    (patchTarget api server target).1.view name = server.view name := by
  apply Server.view_ext
  · rw [patchTarget_find?, if_neg (fun both => apart both.1)]
  · intro _ _
    rw [patchTarget_requests]

theorem view_patchTarget_congr (same : server.view target.name = other.view target.name) :
    (patchTarget api server target).1.view target.name = (patchTarget api other target).1.view target.name := by
  apply Server.view_ext
  · rw [patchTarget_find?, patchTarget_find?, Server.machine_eq_of_view same]
  · intro _ named
    rw [patchTarget_requests, patchTarget_requests, Server.request_eq_of_view same named]

theorem patchTarget_healthCheckSucceeded (noCallFails : api.NoCallFails)
    (read : server.machines.find? target.name = some target.original) :
    ∃ stored, (patchTarget api server target).1.machines.find? target.name = some stored ∧
      stored.healthCheckSucceeded = target.machine.healthCheckSucceeded := by
  have succeeds : patchError api target (some target.original) = none := by
    unfold patchError
    split_ifs
    · rfl
    · rw [noCallFails.1]
      simp [conflicts]
  rw [patchTarget_find?, read, if_pos ⟨rfl, succeeds⟩]
  refine ⟨_, rfl, ?_⟩
  change patched _ _ _ = _
  unfold patched
  split_ifs with same
  · exact same.symm
  · rfl

end

/-! ## The loop over the unhealthy targets is local -/

section

variable {api : Api} {mhc : Spec} {cluster : Cluster} {creates : Option RequestKey}
  {requests : RequestKey → Option ExternalRequest} {name : String} {target marked : HealthCheckTarget}
  {ref : TemplateRef} {server : Server}

theorem externalGet_found {Object : Type} {kind «namespace» : String} {object : Object} :
    externalGet none kind «namespace» name (some object) = .found object :=
  rfl

theorem externalRemediationRequestExists_iff (noCallFails : api.NoCallFails) :
    externalRemediationRequestExists api mhc ref requests name = true ↔ (requests (requestKey ref name)).isSome = true := by
  unfold externalRemediationRequestExists getExternalRemediationRequest externalGet
  rw [noCallFails.1]
  cases requests (requestKey ref name) <;> simp

theorem generateTemplate_name {template : RemediationTemplate} {key : RequestKey}
    (generated : generateTemplate ref template name = .ok key) : key.name = name := by
  unfold generateTemplate at generated
  split at generated
  · cases generated
  · cases generated
    rfl

theorem remediate_congr {first second : RequestKey → Option ExternalRequest} {target : HealthCheckTarget}
    (same : ∀ key : RequestKey, key.name = target.name → first key = second key) :
    remediate api mhc cluster first target = remediate api mhc cluster second target := by
  have sameExists : ∀ ref, externalRemediationRequestExists api mhc ref first target.name =
      externalRemediationRequestExists api mhc ref second target.name := by
    intro ref
    unfold externalRemediationRequestExists getExternalRemediationRequest
    rw [same (requestKey ref target.name) rfl]
  unfold remediate
  cases mhc.remediationTemplate with
  | none => rfl
  | some ref =>
    dsimp only
    unfold requestExternally
    rw [sameExists]
    cases externalGet (api.fails .getTemplate target.name) ref.kind mhc.namespace ref.name (api.template ref) with
    | notFound | failed => rfl
    | found template =>
      dsimp only
      cases generated : generateTemplate ref template target.name with
      | error => rfl
      | ok key =>
        dsimp only
        rw [createRequest, createRequest, same key (generateTemplate_name generated)]

theorem remediate_patches (decided : remediate api mhc cluster requests target = .patches creates marked) :
    marked.name = target.name ∧ marked.original = target.original ∧
      marked.machine.healthCheckSucceeded = target.machine.healthCheckSucceeded ∧
      ∀ key ∈ creates, key.name = target.name := by
  unfold remediate at decided
  split_ifs at decided
  · cases decided
    exact ⟨rfl, rfl, rfl, nofun⟩
  · split at decided
    case h_1 ref _ =>
      unfold requestExternally at decided
      split_ifs at decided
      split at decided
      case h_3 template _ =>
        split at decided
        case h_2 key generated =>
          split at decided
          case h_2 =>
            cases decided
            refine ⟨rfl, rfl, rfl, ?_⟩
            rintro _ ⟨⟩
            exact generateTemplate_name generated
          all_goals cases decided
        all_goals cases decided
      all_goals cases decided
    case h_2 =>
      cases decided
      exact ⟨rfl, rfl, rfl, nofun⟩

theorem patchUnhealthyPass_of_returns {progress : Progress} {target : HealthCheckTarget}
    {errors : List String} {templateAvailable requestAvailable : ConditionChange}
    (decided : remediate api mhc cluster progress.server.requests target =
      .returns errors templateAvailable requestAvailable) :
    leaves (patchUnhealthyPass api mhc cluster) progress target = true ∧
      (patchUnhealthyPass api mhc cluster progress target).run.server = progress.server := by
  unfold leaves patchUnhealthyPass
  rw [decided]
  exact ⟨rfl, rfl⟩

theorem patchUnhealthyPass_of_patches {progress : Progress}
    (decided : remediate api mhc cluster progress.server.requests target = .patches creates marked) :
    leaves (patchUnhealthyPass api mhc cluster) progress target = false ∧
      (patchUnhealthyPass api mhc cluster progress target).run.server =
        (patchTarget api (progress.server.create creates) marked).1 := by
  unfold leaves patchUnhealthyPass
  rw [decided]
  exact ⟨rfl, rfl⟩

theorem Server.view_create_of_ne (apart : ∀ key ∈ creates, name ≠ key.name) :
    (server.create creates).view name = server.view name := by
  cases creates with
  | none => rfl
  | some key => exact Server.view_setRequest_of_ne (apart key rfl)

theorem patchUnhealthyPass_local :
    Local (patchUnhealthyPass api mhc cluster) HealthCheckTarget.name Progress.view where
  frame := by
    intro progress target _ apart
    cases decided : remediate api mhc cluster progress.server.requests target with
    | returns =>
      rw [Progress.view, (patchUnhealthyPass_of_returns decided).2, Progress.view]
    | patches =>
      rcases remediate_patches decided with ⟨sameName, -, -, named⟩
      rw [Progress.view, (patchUnhealthyPass_of_patches decided).2, view_patchTarget_of_ne (sameName ▸ apart),
        Server.view_create_of_ne (fun key created => named key created ▸ apart), Progress.view]
  leaves_congr := by
    intro first second target same
    unfold leaves patchUnhealthyPass
    rw [@remediate_congr api mhc cluster first.server.requests second.server.requests target
      (fun key named => Server.request_eq_of_view same named)]
    cases remediate api mhc cluster second.server.requests target <;> rfl
  view_congr := by
    intro first second target same
    have sameDecision := @remediate_congr api mhc cluster first.server.requests second.server.requests target
      (fun key named => Server.request_eq_of_view same named)
    cases decided : remediate api mhc cluster first.server.requests target with
    | returns =>
      rw [Progress.view, Progress.view, (patchUnhealthyPass_of_returns decided).2,
        (patchUnhealthyPass_of_returns (sameDecision.symm.trans decided)).2]
      exact same
    | patches creates =>
      rw [Progress.view, Progress.view, (patchUnhealthyPass_of_patches decided).2,
        (patchUnhealthyPass_of_patches (sameDecision.symm.trans decided)).2, ← (remediate_patches decided).1]
      apply view_patchTarget_congr
      rw [(remediate_patches decided).1]
      cases creates with
      | none => exact same
      | some => exact Server.view_setRequest_congr same

end

/-! ## Which unhealthy targets are served -/

/-- Targets as they are read from a server, no Machine twice. -/
structure Targets (server : Server) extends Keyed HealthCheckTarget HealthCheckTarget.name where
  read : ∀ target ∈ list, server.machines.find? target.name = some target.original

/-- Targets whose Machines have failed their health check. -/
structure UnhealthyTargets (server : Server) extends Targets server where
  failed : ∀ target ∈ list, Conditions.isFalse target.machine.healthCheckSucceeded = true

/-- The Machine of an unhealthy target shows the failed check, and its remediation is requested unless it is paused. -/
def Served (cluster : Cluster) (ref : TemplateRef) (server : Server) (target : HealthCheckTarget) : Prop :=
  (isPaused cluster target = false → (server.requests (requestKey ref target.name)).isSome = true) ∧
    ∃ stored, server.machines.find? target.name = some stored ∧
      stored.healthCheckSucceeded = target.machine.healthCheckSucceeded

/-- The template is found, and its clone is a request of the kind that is looked for. -/
def Usable (api : Api) (ref : TemplateRef) (machineName : String) : Prop :=
  ∃ template, api.template ref = some template ∧ generateTemplate ref template machineName = .ok (requestKey ref machineName)

/-- No request is made for a target that is not paused: there is one, or the template does not yield one. -/
def NotRequested (api : Api) (cluster : Cluster) (ref : TemplateRef) (server : Server)
    (target : HealthCheckTarget) : Prop :=
  isPaused cluster target = false ∧
    ((server.requests (requestKey ref target.name)).isSome = true ∨ ¬ Usable api ref target.name)

section

variable {api : Api} {mhc : Spec} {cluster : Cluster} {ref : TemplateRef} {server : Server}
  {target : HealthCheckTarget}

theorem Served.congr {other : Server} (same : server.view target.name = other.view target.name)
    (served : Served cluster ref server target) : Served cluster ref other target := by
  rcases served with ⟨requested, stored, found, marked⟩
  constructor
  · intro active
    rw [← Server.request_eq_of_view same rfl]
    exact requested active
  · exact ⟨stored, (Server.machine_eq_of_view same).symm.trans found, marked⟩

section

variable (noCallFails : api.NoCallFails) (template : mhc.remediationTemplate = some ref)
  (active : isPaused cluster target = false)
include noCallFails template active

theorem remediate_of_exists (requested : (server.requests (requestKey ref target.name)).isSome = true) :
    remediate api mhc cluster server.requests target = .returns [] .keep .keep := by
  rw [remediate, active, template]
  dsimp only
  rw [requestExternally, if_neg Bool.false_ne_true,
    if_pos ((externalRemediationRequestExists_iff noCallFails).mpr requested)]

theorem remediate_of_usable (missing : server.requests (requestKey ref target.name) = none)
    (usable : Usable api ref target.name) :
    remediate api mhc cluster server.requests target =
      .patches (some (requestKey ref target.name)) (waitForRemediation target) := by
  rcases usable with ⟨_, isTemplate, generated⟩
  have notExists : ¬ externalRemediationRequestExists api mhc ref server.requests target.name = true := by
    rw [externalRemediationRequestExists_iff noCallFails, missing]
    exact Bool.false_ne_true
  rw [remediate, active, template]
  dsimp only
  rw [requestExternally, if_neg Bool.false_ne_true, if_neg notExists, noCallFails.1, isTemplate, externalGet_found]
  dsimp only
  rw [generated]
  dsimp only
  rw [createRequest, noCallFails.1, missing]

theorem remediate_of_unusable (unusable : ¬ Usable api ref target.name)
    {creates : Option RequestKey} {marked : HealthCheckTarget}
    (decided : remediate api mhc cluster server.requests target = .patches creates marked) :
    requestKey ref target.name ∉ creates := by
  rw [remediate, active, template] at decided
  dsimp only at decided
  rw [requestExternally, if_neg Bool.false_ne_true] at decided
  split_ifs at decided
  rw [noCallFails.1] at decided
  cases isTemplate : api.template ref with
  | none =>
    rw [isTemplate] at decided
    cases decided
  | some found =>
    rw [isTemplate, externalGet_found] at decided
    dsimp only at decided
    cases generated : generateTemplate ref found target.name with
    | error =>
      rw [generated] at decided
      cases decided
    | ok =>
      rw [generated] at decided
      dsimp only at decided
      split at decided
      · cases decided
      · cases decided
        rintro ⟨⟩
        exact unusable ⟨found, isTemplate, generated⟩

end

theorem patchUnhealthyPass_serves (noCallFails : api.NoCallFails) (template : mhc.remediationTemplate = some ref)
    {progress : Progress} (read : progress.server.machines.find? target.name = some target.original)
    (requested : ¬ NotRequested api cluster ref progress.server target) :
    leaves (patchUnhealthyPass api mhc cluster) progress target = false ∧
      Served cluster ref (patchUnhealthyPass api mhc cluster progress target).run.server target := by
  have marks : ∀ creates marked, remediate api mhc cluster progress.server.requests target = .patches creates marked →
      ∃ stored, (patchUnhealthyPass api mhc cluster progress target).run.server.machines.find? target.name = some stored ∧
        stored.healthCheckSucceeded = target.machine.healthCheckSucceeded := by
    intro creates marked decided
    rcases remediate_patches decided with ⟨sameName, sameOriginal, sameOutcome, -⟩
    have readMarked : (progress.server.create creates).machines.find? marked.name = some marked.original := by
      rw [sameName, sameOriginal, ← read]
      cases creates <;> rfl
    rcases patchTarget_healthCheckSucceeded noCallFails readMarked with ⟨stored, found, outcome⟩
    rw [sameName] at found
    exact ⟨stored, by rw [(patchUnhealthyPass_of_patches decided).2, found], outcome.trans sameOutcome⟩
  by_cases active : isPaused cluster target = false
  · rw [NotRequested, not_and, not_or, not_not, Bool.not_eq_true, Option.isSome_eq_false_iff,
      Option.isNone_iff_eq_none] at requested
    rcases requested active with ⟨missing, usable⟩
    have decided := remediate_of_usable noCallFails template active missing usable
    refine ⟨(patchUnhealthyPass_of_patches decided).1, ?_, marks _ _ decided⟩
    intro _
    rw [(patchUnhealthyPass_of_patches decided).2, patchTarget_requests, Server.create, Server.setRequest_self]
    rfl
  · have decided : remediate api mhc cluster progress.server.requests target = .patches none target := by
      rw [remediate, if_pos (Bool.not_eq_false _ ▸ active)]
    exact ⟨(patchUnhealthyPass_of_patches decided).1, fun isActive => absurd isActive active, marks _ _ decided⟩

end

section

variable {api : Api} {mhc : Spec} {cluster : Cluster} {ref : TemplateRef} {server : Server}
  {before after : List HealthCheckTarget} {target : HealthCheckTarget}

theorem patchUnhealthyTargets_view (targets : Targets server) {before after : List HealthCheckTarget}
    {target : HealthCheckTarget} (split : targets.list = before ++ target :: after) :
    (patchUnhealthyTargets api mhc cluster { server := server } targets.list).server.view target.name =
      if before.any (leaves (patchUnhealthyPass api mhc cluster) { server := server }) then server.view target.name
      else (patchUnhealthyPass api mhc cluster { server := server } target).run.server.view target.name := by
  have distinct := targets.distinct
  rw [split] at distinct ⊢
  exact patchUnhealthyPass_local.view_loop before distinct { server := server }

section

variable (noCallFails : api.NoCallFails) (template : mhc.remediationTemplate = some ref) (targets : Targets server)
  (split : targets.list = before ++ target :: after) (active : isPaused cluster target = false)
include noCallFails template targets split active

/-- If a request is there already the target is left alone, and so are all targets after it. -/
theorem patchUnhealthyTargets_view_of_exists (requested : (server.requests (requestKey ref target.name)).isSome = true)
    {later : HealthCheckTarget} (inside : later ∈ target :: after) :
    (patchUnhealthyTargets api mhc cluster { server := server } targets.list).server.view later.name =
      server.view later.name := by
  -- A target that finds a request is left as it is, and ends the loop.
  have ends := @patchUnhealthyPass_of_returns api mhc cluster { server := server } target _ _ _
    (remediate_of_exists noCallFails template active requested)
  rcases mem_cons.mp inside with rfl | behind
  · rw [patchUnhealthyTargets_view targets split, ends.2, ite_self]
  · rcases append_of_mem behind with ⟨between, rest, splitAfter⟩
    have splitLater : targets.list = (before ++ target :: between) ++ later :: rest := by
      rw [split, splitAfter, append_assoc, cons_append]
    have ended : (before ++ target :: between).any
        (leaves (patchUnhealthyPass api mhc cluster) { server := server }) = true :=
      any_eq_true.mpr ⟨target, by simp, ends.1⟩
    rw [patchUnhealthyTargets_view targets splitLater, if_pos ended]

theorem patchUnhealthyTargets_of_unusable (unusable : ¬ Usable api ref target.name)
    (missing : server.requests (requestKey ref target.name) = none) :
    (patchUnhealthyTargets api mhc cluster { server := server } targets.list).server.requests
      (requestKey ref target.name) = none := by
  have ownView := @patchUnhealthyTargets_view api mhc cluster server targets before after target split
  split_ifs at ownView
  · rw [Server.request_eq_of_view ownView rfl, missing]
  · rw [Server.request_eq_of_view ownView rfl]
    cases decided : remediate api mhc cluster server.requests target with
    | returns =>
      rw [(patchUnhealthyPass_of_returns decided).2, missing]
    | patches creates =>
      have notCreated := remediate_of_unusable noCallFails template active unusable decided
      rw [(patchUnhealthyPass_of_patches decided).2, patchTarget_requests]
      cases creates with
      | none => exact missing
      | some key =>
        have apart : requestKey ref target.name ≠ key := fun same => notCreated (congrArg some same).symm
        rw [Server.create, Server.setRequest_of_ne apart, missing]

end

/-- After one call in which no API call fails every unhealthy target is served if and only if, from the
first target on that is not paused and for which no request is made, all targets were served before. -/
theorem patchUnhealthyTargets_serves_iff (noCallFails : api.NoCallFails)
    (template : mhc.remediationTemplate = some ref) (targets : UnhealthyTargets server) :
    (∀ target ∈ targets.list, Served cluster ref
        (patchUnhealthyTargets api mhc cluster { server := server } targets.list).server target) ↔
      ∀ before target after, targets.list = before ++ target :: after → NotRequested api cluster ref server target →
        ∀ later ∈ target :: after, Served cluster ref server later := by
  constructor
  · rintro serves before target after split ⟨active, unserved⟩ later inside
    have requested : (server.requests (requestKey ref target.name)).isSome = true := by
      rcases unserved with requested | unusable
      · exact requested
      · by_contra missing
        rw [Bool.not_eq_true, Option.isSome_eq_false_iff, Option.isNone_iff_eq_none] at missing
        have still := patchUnhealthyTargets_of_unusable noCallFails template targets.toTargets split active unusable
          missing
        have isRequested := (serves target (by simp [split])).1 active
        rw [still] at isRequested
        exact Bool.false_ne_true isRequested
    have member : later ∈ targets.list := split ▸ mem_append_right before inside
    exact (serves later member).congr
      (patchUnhealthyTargets_view_of_exists noCallFails template targets.toTargets split active requested inside)
  · intro condition target member
    rcases append_of_mem member with ⟨before, after, split⟩
    have ownView := @patchUnhealthyTargets_view api mhc cluster server targets.toTargets before after target split
    split_ifs at ownView with ended
    · -- An earlier target ended the loop, which only targets without a new request do.
      rcases any_eq_true.mp ended with ⟨earlier, inBefore, endsHere⟩
      have earlierMember : earlier ∈ targets.list := split ▸ mem_append_left _ inBefore
      have notRequested : NotRequested api cluster ref server earlier := by
        by_contra requested
        have goesOn := @patchUnhealthyPass_serves api mhc cluster ref earlier noCallFails template
          { server := server } (targets.read earlier earlierMember) requested
        rw [goesOn.1] at endsHere
        exact Bool.false_ne_true endsHere
      rcases append_of_mem inBefore with ⟨first, between, splitBefore⟩
      have splitEarlier : targets.list = first ++ earlier :: (between ++ target :: after) := by
        rw [split, splitBefore, append_assoc, cons_append]
      exact (condition first earlier _ splitEarlier notRequested target (by simp)).congr ownView.symm
    · by_cases notRequested : NotRequested api cluster ref server target
      · have served := condition before target after split notRequested target mem_cons_self
        have same := patchUnhealthyTargets_view_of_exists noCallFails template targets.toTargets split notRequested.1
          (served.1 notRequested.1) mem_cons_self
        exact served.congr same.symm
      · have served := @patchUnhealthyPass_serves api mhc cluster ref target noCallFails template
          { server := server } (targets.read target member) notRequested
        exact served.2.congr ownView.symm

end

/-! ## Two unhealthy Machines -/

namespace Example

def template : TemplateRef :=
  ⟨"remediation.external.io/v1beta1", "GenericExternalRemediationTemplate", "remediation-template-name"⟩

def mhc : Spec where
  «namespace» := "default"
  clusterName := "test-cluster"
  selector := fun _ => true
  maxUnhealthy := some (.int 0)
  remediationTemplate := some template

def api (conditions : List NodeCondition) : Api where
  fails := fun _ _ => none
  template := fun _ => some ⟨some {}⟩
  node := fun name => .found { name := name, conditions := conditions }

theorem api_noCallFails (conditions : List NodeCondition) : (api conditions).NoCallFails :=
  ⟨fun _ _ => rfl, fun _ _ => nofun⟩

def machine (name : String) : TargetMachine := { name := name, creationTimestamp := 0 }

def machines : Keyed TargetMachine fun machine => machine.name :=
  ⟨[machine "machine-1", machine "machine-2"], by decide⟩

def twoMachines (requested : List String) : Server where
  machines := machines
  requests := fun key =>
    if key.name ∈ requested ∧ key = requestKey template key.name then some {} else none

def failedTarget (name : String) : HealthCheckTarget where
  original := machine name
  machine := { machine name with toMachine := markUnhealthy "UnhealthyNode" "" none (machine name).toMachine }

theorem failedTarget_read : ∀ target ∈ [failedTarget "machine-1", failedTarget "machine-2"],
    machines.find? target.name = some target.original := by
  decide

def twoTargets (requested : List String) : UnhealthyTargets (twoMachines requested) where
  list := [failedTarget "machine-1", failedTarget "machine-2"]
  distinct := by decide
  read := failedTarget_read
  failed := by decide

end Example

/-- The second Machine gets no request because the first one has one already. -/
theorem patchUnhealthyTargets_skips_machine :
    (Example.api []).NoCallFails ∧
      ¬ ∀ target ∈ (Example.twoTargets ["machine-1"]).list, Served {} Example.template
        (patchUnhealthyTargets (Example.api []) Example.mhc {} { server := Example.twoMachines ["machine-1"] }
          (Example.twoTargets ["machine-1"]).list).server target := by
  refine ⟨Example.api_noCallFails [], ?_⟩
  intro serves
  have requested := (serves (Example.failedTarget "machine-2") (by decide)).1 rfl
  have missing : ((patchUnhealthyTargets (Example.api []) Example.mhc {}
      { server := Example.twoMachines ["machine-1"] } (Example.twoTargets ["machine-1"]).list).server.requests
      (requestKey Example.template "machine-2")).isSome = false := by
    decide +kernel
  exact Bool.false_ne_true (missing.symm.trans requested)

/-- Both Machines are served if neither has a request. -/
theorem patchUnhealthyTargets_serves_both :
    (Example.twoTargets []).list.length = 2 ∧ ∀ target ∈ (Example.twoTargets []).list, Served {} Example.template
      (patchUnhealthyTargets (Example.api []) Example.mhc {} { server := Example.twoMachines [] }
        (Example.twoTargets []).list).server target := by
  refine ⟨rfl, ?_⟩
  apply (patchUnhealthyTargets_serves_iff (Example.api_noCallFails []) rfl (Example.twoTargets [])).mpr
  rintro _ _ _ - ⟨-, requested | unusable⟩
  · simp [Example.twoMachines] at requested
  · exact absurd ⟨⟨some {}⟩, rfl, rfl⟩ unusable

end ClusterApi.MachineHealthCheck

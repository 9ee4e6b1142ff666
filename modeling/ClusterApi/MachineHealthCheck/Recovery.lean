import ClusterApi.MachineHealthCheck.Remediation

namespace ClusterApi.MachineHealthCheck

open Foundation List
open MachineDeployment (Scaler getScaledValue)

/-!
# Machines that recovered

The loop over the healthy targets is local as well, and it is never left.
After a reconcile the Machine of a healthy target shows the outcome of its
check, unless the pass skips it: a Machine without a request is not patched if
a remediation template is set.
-/

/-! ## The loop over the healthy targets -/

section

variable {api : Api} {mhc : Spec} {deletes : Option RequestKey} {server : Server} {name : String}

theorem withdrawRequest_congr {first second : RequestKey → Option ExternalRequest} {target : HealthCheckTarget}
    (same : ∀ key : RequestKey, key.name = target.name → first key = second key) :
    withdrawRequest api mhc first target = withdrawRequest api mhc second target := by
  unfold withdrawRequest
  cases mhc.remediationTemplate with
  | none => rfl
  | some ref =>
    dsimp only
    unfold getExternalRemediationRequest
    rw [same (requestKey ref target.name) rfl]

theorem withdrawRequest_patches {requests : RequestKey → Option ExternalRequest} {target : HealthCheckTarget}
    (decided : withdrawRequest api mhc requests target = .patches deletes) :
    ∀ key ∈ deletes, key.name = target.name := by
  unfold withdrawRequest at decided
  split at decided
  · cases decided
    exact nofun
  · split at decided
    case h_3 =>
      split_ifs at decided
      · cases decided
        exact nofun
      · split at decided
        · cases decided
        · cases decided
          rintro _ ⟨⟩
          rfl
    all_goals cases decided

theorem patchHealthyPass_of_skips {progress : Progress} {target : HealthCheckTarget} {errors : List String}
    (decided : withdrawRequest api mhc progress.server.requests target = .skips errors) :
    leaves (patchHealthyPass api mhc) progress target = false ∧
      (patchHealthyPass api mhc progress target).run.server = progress.server := by
  unfold leaves patchHealthyPass
  rw [decided]
  exact ⟨rfl, rfl⟩

theorem patchHealthyPass_of_patches {progress : Progress} {target : HealthCheckTarget} {deletes : Option RequestKey}
    (decided : withdrawRequest api mhc progress.server.requests target = .patches deletes) :
    leaves (patchHealthyPass api mhc) progress target = false ∧
      (patchHealthyPass api mhc progress target).run.server =
        (patchTarget api (progress.server.delete deletes) target).1 := by
  unfold leaves patchHealthyPass
  rw [decided]
  exact ⟨rfl, rfl⟩

theorem patchHealthyPass_goesOn (progress : Progress) (target : HealthCheckTarget) :
    leaves (patchHealthyPass api mhc) progress target = false := by
  cases decided : withdrawRequest api mhc progress.server.requests target with
  | skips => exact (patchHealthyPass_of_skips decided).1
  | patches => exact (patchHealthyPass_of_patches decided).1

theorem Server.view_delete_of_ne (apart : ∀ key ∈ deletes, name ≠ key.name) :
    (server.delete deletes).view name = server.view name := by
  cases deletes with
  | none => rfl
  | some key => exact Server.view_setRequest_of_ne (apart key rfl)

theorem patchHealthyPass_local : Local (patchHealthyPass api mhc) HealthCheckTarget.name Progress.view where
  frame := by
    intro progress target _ apart
    cases decided : withdrawRequest api mhc progress.server.requests target with
    | skips => rw [Progress.view, (patchHealthyPass_of_skips decided).2, Progress.view]
    | patches =>
      have named := withdrawRequest_patches decided
      rw [Progress.view, (patchHealthyPass_of_patches decided).2, view_patchTarget_of_ne apart,
        Server.view_delete_of_ne (fun key deleted => named key deleted ▸ apart), Progress.view]
  leaves_congr := by
    intro first second target _
    rw [patchHealthyPass_goesOn, patchHealthyPass_goesOn]
  view_congr := by
    intro first second target same
    have sameDecision := @withdrawRequest_congr api mhc first.server.requests second.server.requests target
      (fun key named => Server.request_eq_of_view same named)
    cases decided : withdrawRequest api mhc first.server.requests target with
    | skips =>
      rw [Progress.view, Progress.view, (patchHealthyPass_of_skips decided).2,
        (patchHealthyPass_of_skips (sameDecision.symm.trans decided)).2]
      exact same
    | patches deletes =>
      rw [Progress.view, Progress.view, (patchHealthyPass_of_patches decided).2,
        (patchHealthyPass_of_patches (sameDecision.symm.trans decided)).2]
      apply view_patchTarget_congr
      cases deletes with
      | none => exact same
      | some key =>
        rw [Server.delete, Server.request_eq_of_view same (withdrawRequest_patches decided key rfl)]
        exact Server.view_setRequest_congr same

end

/-! ## Which healthy targets are recorded -/

/-- The Machine shows that it passed the check. -/
def ShowsHealthy (server : Server) (target : HealthCheckTarget) : Prop :=
  ∃ stored, server.machines.find? target.name = some stored ∧ Conditions.isTrue stored.healthCheckSucceeded = true

/-- The Machine shows that it passed the check, and no request for its remediation stays open. -/
def Recorded (mhc : Spec) (server : Server) (target : HealthCheckTarget) : Prop :=
  ShowsHealthy server target ∧
    ∀ ref ∈ mhc.remediationTemplate, ∀ request ∈ server.requests (requestKey ref target.name),
      request.hasDeletionTimestamp = true

/-- The Machine is patched, or shows the outcome already: no template is set, or there is a request to withdraw. -/
def Recordable (mhc : Spec) (server : Server) (target : HealthCheckTarget) : Prop :=
  (∀ ref ∈ mhc.remediationTemplate, (server.requests (requestKey ref target.name)).isSome = true) ∨
    ShowsHealthy server target

section

variable {api : Api} {mhc : Spec} {server other : Server} {target : HealthCheckTarget}

theorem ShowsHealthy.congr (same : server.view target.name = other.view target.name)
    (shows : ShowsHealthy server target) : ShowsHealthy other target := by
  rcases shows with ⟨stored, found, isTrue⟩
  exact ⟨stored, (Server.machine_eq_of_view same).symm.trans found, isTrue⟩

theorem Recorded.congr (same : server.view target.name = other.view target.name)
    (recorded : Recorded mhc server target) : Recorded mhc other target := by
  refine ⟨recorded.1.congr same, ?_⟩
  intro ref isTemplate request found
  rw [← Server.request_eq_of_view same rfl] at found
  exact recorded.2 ref isTemplate request found

theorem patchHealthyPass_shows (noCallFails : api.NoCallFails)
    (read : server.machines.find? target.name = some target.original)
    (healthy : target.machine.healthCheckSucceeded = some { status := .isTrue }) {deletes : Option RequestKey}
    (decided : withdrawRequest api mhc server.requests target = .patches deletes) :
    ShowsHealthy (patchHealthyPass api mhc { server := server } target).run.server target := by
  have readAfter : (server.delete deletes).machines.find? target.name = some target.original := by
    rw [← read]
    cases deletes <;> rfl
  rcases patchTarget_healthCheckSucceeded noCallFails readAfter with ⟨stored, found, outcome⟩
  refine ⟨stored, ?_, ?_⟩
  · rw [(patchHealthyPass_of_patches decided).2, found]
  · rw [outcome, healthy]
    rfl

theorem patchHealthyPass_records_iff (noCallFails : api.NoCallFails)
    (read : server.machines.find? target.name = some target.original)
    (healthy : target.machine.healthCheckSucceeded = some { status := .isTrue }) :
    Recorded mhc (patchHealthyPass api mhc { server := server } target).run.server target ↔
      Recordable mhc server target := by
  cases template : mhc.remediationTemplate with
  | none =>
    have decided : withdrawRequest api mhc server.requests target = .patches none := by
      rw [withdrawRequest, template]
    have recordable : Recordable mhc server target := .inl (by simp [template])
    refine iff_of_true ⟨patchHealthyPass_shows noCallFails read healthy decided, ?_⟩ recordable
    rw [template]
    exact nofun
  | some ref =>
    cases found : server.requests (requestKey ref target.name) with
    | none =>
      -- Nothing is written, so the Machine shows what it showed before.
      have decided : withdrawRequest api mhc server.requests target = .skips [] := by
        rw [withdrawRequest, template]
        dsimp only
        rw [getExternalRemediationRequest, noCallFails.1, found]
        rfl
      rw [(@patchHealthyPass_of_skips api mhc { server := server } target [] decided).2]
      simp [Recorded, Recordable, template, found]
    | some request =>
      have decided : withdrawRequest api mhc server.requests target =
          .patches (if request.hasDeletionTimestamp then none else some (requestKey ref target.name)) := by
        rw [withdrawRequest, template]
        dsimp only
        rw [getExternalRemediationRequest, noCallFails.1, found, externalGet_found]
        dsimp only
        rw [noCallFails.1]
        split_ifs <;> rfl
      have recordable : Recordable mhc server target := .inl (by simp [template, found])
      refine iff_of_true ⟨patchHealthyPass_shows noCallFails read healthy decided, ?_⟩ recordable
      intro _ isTemplate _ remains
      cases template.symm.trans isTemplate
      rw [(@patchHealthyPass_of_patches api mhc { server := server } target _ decided).2,
        patchTarget_requests] at remains
      split_ifs at remains with deleting
      · rw [Server.delete, found] at remains
        cases remains
        exact deleting
      · rw [Server.delete, Server.setRequest_self, found, Option.bind_some] at remains
        unfold ExternalRequest.delete at remains
        split_ifs at remains
        · cases remains
          rfl
        · cases remains

/-! ## The reconcile -/

theorem readTarget_ok {machine : TargetMachine} (ran : readTarget api cluster machine = .ok target) :
    target.original = machine ∧ target.machine = machine := by
  unfold readTarget at ran
  split at ran
  · split at ran
    all_goals cases ran
    all_goals exact ⟨rfl, rfl⟩
  · cases ran
    exact ⟨rfl, rfl⟩

theorem readTargets_ok {machines : List TargetMachine} :
    ∀ {targets : List HealthCheckTarget}, readTargets api cluster machines = .ok targets →
      (targets.map HealthCheckTarget.original).Sublist machines ∧
        ∀ target ∈ targets, target.machine = target.original := by
  induction machines with
  | nil =>
    intro targets ran
    cases ran
    exact ⟨nil_sublist _, fun _ inside => absurd inside not_mem_nil⟩
  | cons _ _ ih =>
    intro _ ran
    unfold readTargets at ran
    split_ifs at ran
    · rcases ih ran with ⟨sublist, unmarked⟩
      exact ⟨sublist.cons _, unmarked⟩
    · split at ran
      · cases ran
      case h_2 first readFirst =>
        split at ran
        · cases ran
        case h_2 others readOthers =>
          cases ran
          rcases ih readOthers with ⟨sublist, unmarked⟩
          rcases readTarget_ok readFirst with ⟨original, marked⟩
          constructor
          · rw [map_cons, original]
            exact sublist.cons_cons _
          · intro target inside
            rcases mem_cons.mp inside with rfl | later
            · rw [marked, original]
            · exact unmarked target later

theorem getTargetsFromMHC_ok {targets : List HealthCheckTarget}
    (listed : getTargetsFromMHC api mhc cluster server = .ok targets) :
    (targets.map HealthCheckTarget.name).Nodup ∧
      ∀ target ∈ targets, server.machines.find? target.name = some target.original := by
  unfold getTargetsFromMHC at listed
  split at listed
  · cases listed
  · rcases readTargets_ok listed with ⟨sublist, unmarked⟩
    have inServer := sublist.trans filter_sublist
    have names : targets.map HealthCheckTarget.name =
        (targets.map HealthCheckTarget.original).map fun machine => machine.name := by
      rw [map_map]
      apply map_congr_left
      intro target inside
      rw [HealthCheckTarget.name, unmarked target inside]
      rfl
    constructor
    · rw [names]
      exact server.machines.distinct.sublist (inServer.map _)
    · intro target inside
      rw [Keyed.find?_eq_some]
      refine ⟨inServer.subset (mem_map_of_mem inside), ?_⟩
      rw [HealthCheckTarget.name, unmarked target inside]

variable {scaler : Scaler}
  {durationString : Int → String} {now : Int} {cluster : Cluster} {targets : List HealthCheckTarget}

theorem remediateTargets_view (listed : getTargetsFromMHC api mhc cluster server = .ok targets)
    (inside : target ∈ (check mhc durationString now cluster targets).healthy) :
    (remediateTargets api mhc cluster server (check mhc durationString now cluster targets)).server.view target.name =
      (patchHealthyPass api mhc { server := server } target).run.server.view target.name := by
  have subperm := @healthCheckTargets_subperm durationString now cluster mhc.unhealthyConditions
    (nodeStartupTimeout mhc) targets
  have distinct : ((check mhc durationString now cluster targets).healthy.map HealthCheckTarget.name ++
      (check mhc durationString now cluster targets).unhealthy.map HealthCheckTarget.name).Nodup := by
    rcases subperm with ⟨_, perm, sublist⟩
    exact perm.nodup_iff.mp ((getTargetsFromMHC_ok listed).1.sublist sublist)
  rw [nodup_append] at distinct
  have notUnhealthy : target.name ∉
      (check mhc durationString now cluster targets).unhealthy.map HealthCheckTarget.name := by
    intro alsoUnhealthy
    exact distinct.2.2 _ (mem_map_of_mem inside) _ alsoUnhealthy rfl
  let progress := patchUnhealthyTargets api mhc cluster { server := server }
    (check mhc durationString now cluster targets).unhealthy
  have startView : progress.view target.name = server.view target.name :=
    patchUnhealthyPass_local.view_loop_of_notMem notUnhealthy { server := server }
  calc
    _ = Progress.view (patchHealthyPass api mhc progress target).run target.name :=
      patchHealthyPass_local.view_loop_of_goesOn patchHealthyPass_goesOn distinct.1 inside progress
    _ = Progress.view (patchHealthyPass api mhc { server := server } target).run target.name :=
      patchHealthyPass_local.view_congr progress { server := server } target startView

/-- After a reconcile in which remediation is allowed and no API call fails, every healthy target is recorded
if and only if every healthy target without a request showed the outcome before, or no template is set. -/
theorem reconcile_records_iff (noCallFails : api.NoCallFails)
    (listed : getTargetsFromMHC api mhc cluster server = .ok targets) {remediationCount : Int}
    (allowed : isAllowedRemediation mhc scaler targets.length
      (check mhc durationString now cluster targets).healthy.length = .ok (true, remediationCount)) :
    (∀ target ∈ (check mhc durationString now cluster targets).healthy,
        Recorded mhc (reconcile api mhc scaler durationString now cluster server).server target) ↔
      ∀ target ∈ (check mhc durationString now cluster targets).healthy, Recordable mhc server target := by
  have connected : connect api cluster = none := by
    rw [connect, noCallFails.1, noCallFails.1, Option.none_or, ite_self]
  have reconciled : (reconcile api mhc scaler durationString now cluster server).server =
      (remediateTargets api mhc cluster server (check mhc durationString now cluster targets)).server := by
    rw [reconcile, connected]
    rw [listed]
    dsimp only
    rw [allowed]
    rfl
  rw [reconciled]
  apply forall_congr'
  intro marked
  apply imp_congr_right
  intro inside
  have sameView := @remediateTargets_view api mhc server marked durationString now cluster targets listed inside
  rcases mem_healthCheckTargets_healthy inside with ⟨target, member, checked⟩
  rcases checkHealth_healthy checked with ⟨⟨sameName, sameOriginal⟩, healthy⟩
  have read : server.machines.find? marked.name = some marked.original := by
    rw [sameName, sameOriginal]
    exact (getTargetsFromMHC_ok listed).2 target member
  rw [← patchHealthyPass_records_iff noCallFails read healthy]
  exact ⟨fun recorded => recorded.congr sameView, fun recorded => recorded.congr sameView.symm⟩

end

namespace Example

def spec (template : Option TemplateRef) : Spec :=
  { mhc with unhealthyConditions := [⟨"Ready", "False", 10⟩], remediationTemplate := template }

def cluster : Cluster where
  controlPlaneInitialized := some ⟨.isTrue, 0⟩
  infrastructureReady := some ⟨.isTrue, 0⟩

def oneMachine : Server where
  machines := ⟨[{ machine "machine-1" with nodeRef := some "node-1" }], by decide⟩
  requests := fun _ => none

def restricted (template : Option TemplateRef) : Server :=
  (reconcile (api [⟨"Ready", "False", 0⟩]) (spec template) getScaledValue toString 20
    cluster oneMachine).server

def ready : Api := api [⟨"Ready", "True", 40⟩]

def recovered (template : Option TemplateRef) : List HealthCheckTarget :=
  (restricted template).machines.list.map fun machine =>
    { original := machine, machine := machine, node := some { name := "node-1", conditions := [⟨"Ready", "True", 40⟩] } }

def reconciled (template : Option TemplateRef) : Server :=
  (reconcile ready (spec template) getScaledValue toString 50 cluster
    (restricted template)).server

end Example

/-- The Machine recovers, remediation is allowed again, and the Machine still shows that it failed. -/
theorem reconcile_forgets_recovery :
    Example.ready.NoCallFails ∧
      getTargetsFromMHC Example.ready (Example.spec Example.template) Example.cluster
        (Example.restricted Example.template) = .ok (Example.recovered Example.template) ∧
      isAllowedRemediation (Example.spec Example.template) getScaledValue 1
        (check (Example.spec Example.template) toString 50 Example.cluster
          (Example.recovered Example.template)).healthy.length = .ok (true, 0) ∧
      ¬ ∀ target ∈ (check (Example.spec Example.template) toString 50 Example.cluster
          (Example.recovered Example.template)).healthy,
        Recorded (Example.spec Example.template) (Example.reconciled Example.template) target := by
  refine ⟨Example.api_noCallFails _, by rfl, by rfl, ?_⟩
  intro recorded
  rcases (recorded _ (mem_singleton.mpr rfl)).1 with ⟨stored, found, isTrue⟩
  have shown : ((Example.reconciled Example.template).machines.find? "machine-1").map
      (fun machine => Conditions.isTrue machine.healthCheckSucceeded) = some false := by
    rfl
  rw [show (Example.reconciled Example.template).machines.find? "machine-1" = some stored from found, Option.map_some,
    isTrue] at shown
  cases shown

/-- Without a template the recovery is recorded. -/
theorem reconcile_records_recovery :
    (check (Example.spec none) toString 50 Example.cluster (Example.recovered none)).healthy.length = 1 ∧
    ∀ target ∈ (check (Example.spec none) toString 50 Example.cluster (Example.recovered none)).healthy,
      Recorded (Example.spec none) (Example.reconciled none) target := by
  refine ⟨by decide, ?_⟩
  apply (@reconcile_records_iff Example.ready (Example.spec none) (Example.restricted none)
    getScaledValue toString 50 Example.cluster (Example.recovered none)
    (Example.api_noCallFails _) rfl 0 rfl).mpr
  intro _ _
  exact .inl nofun

end ClusterApi.MachineHealthCheck

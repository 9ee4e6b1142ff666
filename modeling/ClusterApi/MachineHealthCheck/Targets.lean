import ClusterApi.Machine.Conditions

namespace ClusterApi.MachineHealthCheck

/-!
# The health check of one target

What a MachineHealthCheck writes to a Machine it targets: the outcome of the
check, and the request to the owner of the Machine to remediate it.
-/

/-- The outcome of `needsRemediation`, and of `healthCheckTargets` for a target that does not need it. -/
inductive Verdict
  | needsRemediation (reason message : String) (v1beta2Condition : Option Condition)
  | checkLater
  | healthy (hasNode : Bool)

/-- The external remediation request of a target; `unused` without a remediation template. -/
inductive RemediationRequest
  | unused
  | exists
  | created
  | failed
  deriving DecidableEq

structure Check where
  verdict : Verdict
  /-- The number of unhealthy targets does not restrict remediation. -/
  remediationAllowed : Bool
  /-- The Cluster or the Machine is paused. -/
  paused : Bool
  request : RemediationRequest

def markUnhealthy (reason message : String) (v1beta2Condition : Option Condition) (machine : Machine) : Machine :=
  { machine with
    healthCheckSucceeded :=
      some { status := .isFalse, reason := reason, severity := "Warning", message := message }
    healthCheckSucceededV1Beta2 := v1beta2Condition.or machine.healthCheckSucceededV1Beta2 }

/-- Deleting Machines, and Machines without a Node, are not reported healthy. -/
def markHealthy (machine : Machine) : Machine :=
  { machine with
    healthCheckSucceeded := some { status := .isTrue }
    healthCheckSucceededV1Beta2 := some { status := .isTrue, reason := "HealthCheckSucceeded" } }

/-- The health check creates the condition if it is missing, or triggers another
remediation if the previous one is completed. -/
def requestRemediation (machine : Machine) : Machine :=
  { machine with
    ownerRemediated :=
      if machine.ownerRemediated.isNone || Conditions.isTrue machine.ownerRemediated then
        some { status := .isFalse, reason := "WaitingForRemediation", severity := "Warning" }
      else machine.ownerRemediated
    ownerRemediatedV1Beta2 :=
      if machine.ownerRemediatedV1Beta2.isNone || Conditions.isTrue machine.ownerRemediatedV1Beta2 then
        some { status := .isFalse, reason := "WaitingForRemediation", message := "Waiting for remediation" }
      else machine.ownerRemediatedV1Beta2 }

/-- A target of `patchUnhealthyTargets`.  When an external request exists or cannot
be made the loop returns before it patches the Machine. -/
def patchUnhealthyTarget (check : Check) (original marked : Machine) : Machine :=
  if check.paused then marked
  else
    match check.request with
    | .unused => requestRemediation marked
    | .created => marked
    | .exists => original
    | .failed => original

/-- A target of `patchHealthyTargets`, which skips Machines without an external request. -/
def patchHealthyTarget (check : Check) (original marked : Machine) : Machine :=
  match check.request with
  | .unused => marked
  | .exists => marked
  | .created => original
  | .failed => original

/-- The Machine as the health check leaves it.  When remediation is restricted only the outcome is written. -/
def checkTarget (check : Check) (machine : Machine) : Machine :=
  match check.verdict with
  | .needsRemediation reason message v1beta2Condition =>
    let marked := markUnhealthy reason message v1beta2Condition machine
    if check.remediationAllowed then patchUnhealthyTarget check machine marked else marked
  | .checkLater => machine
  | .healthy hasNode =>
    if !machine.deleting && hasNode then
      if check.remediationAllowed then patchHealthyTarget check machine (markHealthy machine)
      else markHealthy machine
    else machine

/-- The check takes a completed remediation for the request of another one. -/
def reopensRemediation (check : Check) (machine : Machine) : Bool :=
  (match check.verdict with
    | .needsRemediation _ _ _ => true
    | _ => false) &&
    check.remediationAllowed && !check.paused && check.request = .unused && Conditions.isTrue machine.ownerRemediated

/-! ## What a check leaves alone -/

section

variable {check : Check} {original marked machine : Machine}

theorem patchHealthyTarget_cases :
    patchHealthyTarget check original marked = original ∨ patchHealthyTarget check original marked = marked := by
  rw [patchHealthyTarget]
  cases check.request with
  | unused => exact .inr rfl
  | «exists» => exact .inr rfl
  | created | failed => exact .inl rfl

theorem patchUnhealthyTarget_cases :
    patchUnhealthyTarget check original marked = original ∨ patchUnhealthyTarget check original marked = marked ∨
      check.paused = false ∧ check.request = .unused ∧
        patchUnhealthyTarget check original marked = requestRemediation marked := by
  rw [patchUnhealthyTarget]
  split_ifs with paused
  · exact .inr (.inl rfl)
  · cases check.request with
    | unused => exact .inr (.inr ⟨Bool.eq_false_iff.mpr paused, rfl, rfl⟩)
    | «exists» => exact .inl rfl
    | created => exact .inr (.inl rfl)
    | failed => exact .inl rfl

theorem checkTarget_cases :
    checkTarget check machine = machine ∨ checkTarget check machine = markHealthy machine ∨
      ∃ reason message v1beta2Condition, check.verdict = .needsRemediation reason message v1beta2Condition ∧
        (checkTarget check machine = markUnhealthy reason message v1beta2Condition machine ∨
          check.remediationAllowed = true ∧ check.paused = false ∧ check.request = .unused ∧
            checkTarget check machine =
              requestRemediation (markUnhealthy reason message v1beta2Condition machine)) := by
  rw [checkTarget]
  cases check.verdict with
  | needsRemediation reason message v1beta2Condition =>
    split_ifs with allowed
    · rcases patchUnhealthyTarget_cases with same | same | ⟨notPaused, unused, same⟩
      · exact .inl same
      · exact .inr (.inr ⟨reason, message, v1beta2Condition, rfl, .inl same⟩)
      · exact .inr (.inr ⟨reason, message, v1beta2Condition, rfl, .inr ⟨allowed, notPaused, unused, same⟩⟩)
    · exact .inr (.inr ⟨reason, message, v1beta2Condition, rfl, .inl rfl⟩)
  | checkLater => exact .inl rfl
  | healthy =>
    dsimp only
    split_ifs
    · rcases patchHealthyTarget_cases with same | same
      · exact .inl same
      · exact .inr (.inl same)
    · exact .inr (.inl rfl)
    · exact .inl rfl

end

theorem checkTarget_name (check : Check) (machine : Machine) : (checkTarget check machine).name = machine.name := by
  rcases checkTarget_cases with same | same | ⟨_, _, _, -, same | ⟨-, -, -, same⟩⟩ <;> rw [same] <;> rfl

theorem checkTarget_deleting (check : Check) (machine : Machine) :
    (checkTarget check machine).deleting = machine.deleting := by
  rcases checkTarget_cases with same | same | ⟨_, _, _, -, same | ⟨-, -, -, same⟩⟩ <;> rw [same] <;> rfl

theorem checkTarget_ownerRemediated {check : Check} {machine : Machine}
    (completed : Conditions.isTrue machine.ownerRemediated = true) (keeps : reopensRemediation check machine = false) :
    (checkTarget check machine).ownerRemediated = machine.ownerRemediated := by
  rcases checkTarget_cases with same | same | ⟨_, _, _, verdict, same | ⟨allowed, notPaused, unused, -⟩⟩
  · rw [same]
  · rw [same]
    rfl
  · rw [same]
    rfl
  · simp [reopensRemediation, verdict, allowed, notPaused, unused, completed] at keeps

end ClusterApi.MachineHealthCheck

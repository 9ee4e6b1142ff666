import ClusterApi.MachineHealthCheck.Recovery

namespace ClusterApi.MachineHealthCheck

open List
open MachineDeployment (Scaler getScaledValue)

/-!
# When a target is checked again

A target that does not need remediation waits for deadlines: for its Node to
start, or for the unhealthy conditions of its Node to time out.  The delay of
the next check ends one second after the first of them.
-/

def Assessment.remediates : Assessment → Bool
  | .remediate .. => true
  | .passed _ => false

def assess (mhc : Spec) (durationString : Int → String) (cluster : Cluster) (now : Int)
    (target : HealthCheckTarget) : Assessment :=
  needsRemediation durationString now cluster mhc.unhealthyConditions (nodeStartupTimeout mhc) target

/-- The assessment of a target that waits for deadlines, with the delays found before. -/
structure WaitsFor (deadlines delays : List Int) (now : Int) (assessment : Assessment) : Prop where
  expired : (∃ deadline ∈ deadlines, deadline < now) → assessment.remediates
  ahead : (∀ deadline ∈ deadlines, now ≤ deadline) →
    assessment = .passed (minDuration (delays ++ deadlines.map fun deadline => deadline - now + second))

theorem minDuration_least {delays : List Int} (nonempty : delays ≠ []) :
    minDuration delays ∈ delays ∧ ∀ delay ∈ delays, minDuration delays ≤ delay := by
  cases delays with
  | nil => exact absurd rfl nonempty
  | cons => exact min?_eq_some_iff.mp min?_cons'

section

variable {mhc : Spec} {durationString : Int → String} {cluster : Cluster} {now nextCheck : Int}
  {target : HealthCheckTarget}

theorem checkConditions_waits (node : Node) (unhealthyConditions : List UnhealthyCondition) :
    ∃ deadlines, ∀ delays now,
      WaitsFor deadlines delays now (checkConditions durationString now node unhealthyConditions delays) := by
  induction unhealthyConditions with
  | nil => exact ⟨[], fun _ _ => ⟨by simp, by simp [checkConditions]⟩⟩
  | cons condition rest ih =>
    rcases ih with ⟨deadlines, waits⟩
    cases found : getNodeCondition node condition.type with
    | none =>
      simp only [checkConditions, found]
      exact ⟨deadlines, waits⟩
    | some nodeCondition =>
      by_cases reported : nodeCondition.status = condition.status
      · refine ⟨(nodeCondition.lastTransitionTime + condition.timeout) :: deadlines, ?_⟩
        intro delays now
        simp only [checkConditions, found, reported, ne_eq, not_true_eq_false, if_false]
        split_ifs with timedOut positive
        · exact ⟨fun _ => rfl, fun ahead => absurd (ahead _ mem_cons_self) (not_le.mpr timedOut)⟩
        · have rest := waits (delays ++ [condition.timeout - (now - nodeCondition.lastTransitionTime) + second]) now
          refine ⟨fun expired => rest.expired ?_, fun ahead => ?_⟩
          · simpa [timedOut] using expired
          · rw [rest.ahead (forall_mem_cons.mp ahead).2, append_assoc, map_cons, singleton_append]
            congr 4
            omega
        · unfold second at positive
          omega
      · simp only [checkConditions, found, ne_eq, reported, not_false_eq_true, if_true]
        exact ⟨deadlines, waits⟩

theorem assess_waits :
    (∀ now, (assess mhc durationString cluster now target).remediates) ∨
      ∃ deadlines, ∀ now, WaitsFor deadlines [] now (assess mhc durationString cluster now target) := by
  have never : ∀ now, WaitsFor [] [] now (.passed 0) := fun _ => ⟨by simp, fun _ => rfl⟩
  unfold assess needsRemediation
  split
  · exact .inl fun _ => rfl
  split
  · exact .inl fun _ => rfl
  · exact .inl fun _ => rfl
  split
  · exact .inl fun _ => rfl
  split
  · exact .inr ⟨[], never⟩
  split
  · exact .inr ⟨[], never⟩
  split
  · by_cases disabled : nodeStartupTimeout mhc = 0
    · simp only [checkStartup, disabled, if_true]
      exact .inr ⟨[], never⟩
    · refine .inr ⟨[comparisonTime cluster target.machine + nodeStartupTimeout mhc], fun now => ?_⟩
      simp only [checkStartup, disabled, if_false]
      split_ifs with timedOut
      · exact ⟨fun _ => rfl, fun ahead => absurd (ahead _ mem_cons_self) (not_le.mpr timedOut)⟩
      · refine ⟨by simp [timedOut], fun _ => ?_⟩
        simp only [nil_append, map_cons, map_nil, minDuration, foldl_nil]
        congr 1
        omega
  · rcases checkConditions_waits _ _ with ⟨deadlines, waits⟩
    exact .inr ⟨deadlines, waits []⟩

theorem assess_nextCheck (passed : assess mhc durationString cluster now target = .passed nextCheck) :
    (0 < nextCheck → ∀ later, now + nextCheck ≤ later →
        (assess mhc durationString cluster later target).remediates = true) ∧
      (nextCheck = 0 → ∀ later, (assess mhc durationString cluster later target).remediates = false) := by
  rcases @assess_waits mhc durationString cluster target with always | ⟨deadlines, waits⟩
  · have remediates := always now
    rw [passed] at remediates
    cases remediates
  have ahead : ∀ deadline ∈ deadlines, now ≤ deadline := by
    intro deadline member
    by_contra expired
    have remediates := (waits now).expired ⟨deadline, member, not_le.mp expired⟩
    rw [passed] at remediates
    cases remediates
  have delay := Assessment.passed.inj (passed.symm.trans ((waits now).ahead ahead))
  rw [nil_append] at delay
  cases deadlines with
  | nil =>
    refine ⟨fun positive => absurd delay positive.ne', fun _ later => ?_⟩
    rw [(waits later).ahead (by simp)]
    rfl
  | cons first rest =>
    have least : nextCheck ∈ (first :: rest).map fun deadline => deadline - now + second :=
      delay ▸ (minDuration_least (by simp)).1
    rcases mem_map.mp least with ⟨deadline, member, isDelay⟩
    have future := ahead deadline member
    unfold second at isDelay
    refine ⟨fun _ later after => (waits later).expired ⟨deadline, member, by omega⟩, by omega⟩

theorem mem_nextCheckTimes {targets : List HealthCheckTarget} :
    nextCheck ∈ (check mhc durationString now cluster targets).nextCheckTimes ↔
      0 < nextCheck ∧ ∃ target ∈ targets, assess mhc durationString cluster now target = .passed nextCheck := by
  unfold check
  induction targets with
  | nil => simp [healthCheckTargets]
  | cons target rest ih =>
    rw [healthCheckTargets, checkHealth, ← assess, exists_mem_cons_iff]
    cases assess mhc durationString cluster now target with
    | remediate => simp [ih]
    | passed delay =>
      by_cases positive : 0 < delay
      · simp only [positive, if_true, mem_cons, ih, Assessment.passed.injEq]
        grind
      · simp only [positive, if_false, Assessment.passed.injEq]
        split_ifs <;> grind

end

/-- A MachineHealthCheck does not sleep past a timeout. -/
theorem reconcile_nextCheck (api : Api) (mhc : Spec) (scaler : Scaler)
    (durationString : Int → String) (now : Int) (cluster : Cluster) (server : Server) :
    (∀ target nextCheck, assess mhc durationString cluster now target = .passed nextCheck →
      (0 < nextCheck → ∀ later, now + nextCheck ≤ later →
        (assess mhc durationString cluster later target).remediates = true) ∧
      (nextCheck = 0 → ∀ later, (assess mhc durationString cluster later target).remediates = false)) ∧
    ∀ targets count result, getTargetsFromMHC api mhc cluster server = .ok targets →
      isAllowedRemediation mhc scaler targets.length
        (check mhc durationString now cluster targets).healthy.length = .ok (true, count) →
      (reconcile api mhc scaler durationString now cluster server).result = .ok result →
      ∀ target ∈ targets, ∀ nextCheck, assess mhc durationString cluster now target = .passed nextCheck →
        0 < nextCheck → 0 < result.requeueAfter ∧ result.requeueAfter ≤ nextCheck := by
  refine ⟨fun _ _ => assess_nextCheck, ?_⟩
  intro targets count result listed allowed returned target member nextCheck passed positive
  have delayed : nextCheck ∈ (check mhc durationString now cluster targets).nextCheckTimes :=
    mem_nextCheckTimes.mpr ⟨positive, target, member, passed⟩
  rcases minDuration_least (ne_nil_of_mem delayed) with ⟨isDelay, isLeast⟩
  have leastPositive := (mem_nextCheckTimes.mp isDelay).1
  unfold reconcile at returned
  split at returned
  · cases returned
  · simp only [listed, allowed, outcome, leastPositive, if_true] at returned
    split_ifs at returned
    cases returned
    exact ⟨leastPositive, isLeast nextCheck delayed⟩

def Example.tolerant : Spec := { Example.spec none with maxUnhealthy := some (.int 1) }

/-- A Node that has not been Ready for half of the timeout is looked at again when the timeout is over. -/
theorem reconcile_nextCheck_notReady :
    ∃ result, (reconcile (Example.api [⟨"Ready", "False", 0⟩]) Example.tolerant getScaledValue toString 5
        Example.cluster Example.oneMachine).result = .ok result ∧
      0 < result.requeueAfter ∧ result.requeueAfter ≤ 5 + second := by
  refine ⟨_, rfl, ?_⟩
  exact (reconcile_nextCheck (Example.api [⟨"Ready", "False", 0⟩]) Example.tolerant getScaledValue toString 5
    Example.cluster Example.oneMachine).2 _ _ _ rfl rfl rfl _ mem_cons_self _ rfl (by decide)

end ClusterApi.MachineHealthCheck

import ClusterApi.ControlPlane.MachineCreation
import ClusterApi.ControlPlane.Remediation
import ClusterApi.Foundation.Runs

namespace ClusterApi.ControlPlane.RetryLimits

open Foundation List

/-!
# Retries of a remediation

The Machine that replaces an unhealthy one may be unhealthy as well.  How often
this has happened is written to an annotation of the control plane when a
Machine is deleted, and copied from there to the Machine that replaces it.

A remediation counts as a retry only as long as the minimal healthy period
since the one before has not expired.  The limits are limits on retries: the
first remediation is never refused, not even by a negative `maxRetry`.
-/

def minHealthyPeriod (strategy : Option RemediationStrategy) : Int :=
  (strategy.bind RemediationStrategy.minHealthyPeriod).getD defaultMinHealthyPeriod

def retryPeriod (strategy : Option RemediationStrategy) : Int := (strategy.map RemediationStrategy.retryPeriod).getD 0

def maxRetry (strategy : Option RemediationStrategy) : Option Int :=
  (strategy.bind RemediationStrategy.maxRetry).map Int32.toInt

/-- A remediation: when it happened, and as which retry. -/
structure Remediation where
  time : Int
  retryCount : Int
  deriving DecidableEq

/-- The minimal healthy period since the timestamp of the previous remediation has not expired. -/
def IsRetry (strategy : Option RemediationStrategy) (previous next : Remediation) : Prop :=
  next.time < stamp previous.time + minHealthyPeriod strategy

/-- A retry increments the count, waits for the retry period and respects the limit; any other remediation starts a
new sequence. -/
structure Follows (strategy : Option RemediationStrategy) (previous next : Remediation) : Prop where
  counts : IsRetry strategy previous next → next.retryCount = previous.retryCount + 1
  waits : IsRetry strategy previous next → stamp previous.time + retryPeriod strategy ≤ next.time
  limited : IsRetry strategy previous next → ∀ limit ∈ maxRetry strategy, next.retryCount ≤ limit
  restarts : ¬ IsRetry strategy previous next → next.retryCount = 0

/-- The limit on the retry count of any remediation, the first one included. -/
def WithinLimit (strategy : Option RemediationStrategy) (remediation : Remediation) : Prop :=
  ∀ limit ∈ maxRetry strategy, remediation.retryCount ≤ max limit 0

/-! ## One check -/

/-- The annotation that a remediation leaves behind. -/
def Records (record : Option RemediationRecord) (remediation : Remediation) : Prop :=
  ∃ name, record = some (.data ⟨name, some (stamp remediation.time), remediation.retryCount⟩)

section

variable {strategy : Option RemediationStrategy} {time : Int} {machine : KcpMachine} {check : RetryCheck}

theorem checkRetryLimits_timestamp (checked : checkRetryLimits strategy time machine = .ok check) :
    check.data.timestamp = some time := by
  unfold checkRetryLimits at checked
  dsimp only at checked
  repeat' split at checked
  all_goals cases checked
  all_goals rfl

theorem checkRetryLimits_of_recorded {last : RemediationData} (recorded : machine.remediationFor = some (.data last))
    (checked : checkRetryLimits strategy time machine = .ok check) (can : check.canRemediate = true) :
    let lastTime := last.timestamp.getD (time - 2 * max (minHealthyPeriod strategy) (retryPeriod strategy))
    (lastTime + minHealthyPeriod strategy ≤ time ∧ check.data.retryCount = 0) ∨
      (time < lastTime + minHealthyPeriod strategy ∧ lastTime + retryPeriod strategy ≤ time ∧
        check.data.retryCount = last.retryCount + 1 ∧ ∀ limit ∈ maxRetry strategy, last.retryCount < limit) := by
  unfold checkRetryLimits at checked
  simp only [recorded, remediationDataFromAnnotation] at checked
  split_ifs at checked with expired early
  · cases checked
    exact .inl ⟨expired, rfl⟩
  · cases checked
    cases can
  · refine .inr ⟨not_le.mp expired, not_lt.mp early, ?_⟩
    cases limited : strategy.bind RemediationStrategy.maxRetry with
    | none =>
      rw [limited] at checked
      cases checked
      refine ⟨rfl, ?_⟩
      intro _ isLimit
      rw [maxRetry, limited] at isLimit
      cases isLimit
    | some =>
      simp only [limited] at checked
      split_ifs at checked with exhausted
      · cases checked
        cases can
      · cases checked
        refine ⟨rfl, ?_⟩
        intro _ isLimit
        rw [maxRetry, limited] at isLimit
        cases isLimit
        exact not_le.mp exhausted

theorem checkRetryLimits_follows {previous : Remediation} (recorded : Records machine.remediationFor previous)
    (checked : checkRetryLimits strategy time machine = .ok check) (can : check.canRemediate = true) :
    Follows strategy previous ⟨time, check.data.retryCount⟩ := by
  rcases recorded with ⟨_, recorded⟩
  rcases checkRetryLimits_of_recorded recorded checked can with ⟨expired, count⟩ | ⟨retry, waited, count, limited⟩
  · constructor
    · intro retry
      exact absurd expired (not_le.mpr retry)
    · intro retry
      exact absurd expired (not_le.mpr retry)
    · intro retry
      exact absurd expired (not_le.mpr retry)
    · intro _
      exact count
  · constructor
    · intro _
      exact count
    · intro _
      exact waited
    · intro _ limit isLimit
      exact count.trans_le (Int.add_one_le_of_lt (limited limit isLimit))
    · intro notRetry
      exact absurd retry notRetry

theorem checkRetryLimits_withinLimit (checked : checkRetryLimits strategy time machine = .ok check)
    (can : check.canRemediate = true) : WithinLimit strategy ⟨time, check.data.retryCount⟩ := by
  intro limit isLimit
  have nonneg : 0 ≤ max limit 0 := le_max_right limit 0
  cases recorded : machine.remediationFor with
  | none =>
    rw [checkRetryLimits, recorded] at checked
    cases checked
    exact nonneg
  | some record =>
    cases record with
    | undecodable =>
      rw [checkRetryLimits, recorded] at checked
      cases checked
    | data =>
      rcases checkRetryLimits_of_recorded recorded checked can with ⟨_, count⟩ | ⟨_, _, count, limited⟩
      · rw [count]
        exact nonneg
      · have below := limited limit isLimit
        dsimp only
        omega

end

/-! ## Chains of replacements -/

/-- The place in the control plane that the Machines of a chain take one after the other. -/
inductive Place
  | occupied (machine : OwnedMachine)
  /-- The Machine is deleted; the control plane carries the record for its replacement. -/
  | vacant (record : RemediationRecord)

structure State where
  place : Place
  /-- The remediations so far, the latest one first. -/
  remediations : List Remediation := []

inductive Action
  /-- The Machine is selected for remediation at some time, among Machines that have other places. -/
  | remediate (calls : Calls) (kcp : KubeadmControlPlane) (time : Int) (machines : List KcpMachine)
  /-- The control plane creates a Machine. -/
  | create (initialized : Bool) (kcp : KubeadmControlPlaneSpec) (answers : CreationAnswers)
  /-- The control plane applies the desired state of the Machine. -/
  | update (kcp : KubeadmControlPlaneSpec) (answers : CreationAnswers) (failureDomain : Option String)
  /-- Others change the Machine, but not the annotation. -/
  | others (machine : OwnedMachine)

/-- The conditions of the selected Machine are patched, if the patch succeeds. -/
def patchConditions (calls : Calls) (selected : Option KcpMachine) (machine : OwnedMachine) : OwnedMachine :=
  match selected, calls.patchMachine machine.name with
  | some marked, none =>
    { machine with
      ownerRemediated := marked.ownerRemediated, ownerRemediatedV1Beta2 := marked.ownerRemediatedV1Beta2 }
  | _, _ => machine

/-- One step of the controller, or of the others, under a fixed strategy. -/
def step (strategy : Option RemediationStrategy) (state : State) : Action → Option State
  | .remediate calls kcp time machines =>
    match state.place with
    | .vacant _ => none
    | .occupied machine =>
      let outcome := remediateMachine calls
        { kcp with remediationStrategy := strategy } time none machines machine.toKcpMachine
      match outcome.remediationInProgress with
      | none => some { state with place := .occupied (patchConditions calls outcome.selected machine) }
      | some record =>
        match remediationDataFromAnnotation record with
        | .error _ => none
        | .ok data =>
          some { place := .vacant record, remediations := ⟨time, data.retryCount⟩ :: state.remediations }
  | .create initialized kcp answers =>
    match state.place with
    | .occupied _ => none
    | .vacant record =>
      let answers := { answers with remediationInProgress := some record }
      match if initialized then scaleUpControlPlane kcp answers else initializeControlPlane kcp answers with
      | .error _ => some state
      | .ok provisioned => some { state with place := .occupied provisioned.machine }
  | .update kcp answers failureDomain =>
    match state.place with
    | .vacant _ => none
    | .occupied machine =>
      match computeDesiredMachine kcp answers failureDomain (some machine) with
      | .error _ => some state
      | .ok updated => some { state with place := .occupied updated }
  | .others changed =>
    match state.place with
    | .vacant _ => none
    | .occupied machine =>
      if changed.remediationFor = machine.remediationFor then some { state with place := .occupied changed }
      else none

/-- What is recorded at a place. -/
def Place.record : Place → Option RemediationRecord
  | .occupied machine => machine.remediationFor
  | .vacant record => some record

/-! ## The annotation on its way -/

theorem remediateMachine_recorded {calls : Calls} {kcp : KubeadmControlPlane} {time : Int}
    {machines : List KcpMachine} {machine : KcpMachine} {record : RemediationRecord}
    (recorded : (remediateMachine calls kcp time none machines machine).remediationInProgress = some record) :
    ∃ check, checkRetryLimits kcp.remediationStrategy time machine = .ok check ∧
      check.canRemediate = true ∧ record = check.data.marshal := by
  unfold remediateMachine at recorded
  split at recorded
  · cases recorded
  · rename_i check checked
    cases can : check.canRemediate with
    | false =>
      rw [can, Bool.not_false, if_pos rfl] at recorded
      cases recorded
    | true =>
      rw [can, if_neg (by decide)] at recorded
      refine ⟨check, checked, can, ?_⟩
      split at recorded
      · cases recorded
      · unfold deleteUnhealthyMachine at recorded
        dsimp only at recorded
        split at recorded
        · cases recorded
        · cases recorded
          rfl

/-! ## Whole chains -/

/-- The remediations follow each other, and the place records the latest one. -/
structure Invariant (strategy : Option RemediationStrategy) (state : State) : Prop where
  follow : state.remediations.IsChain fun next previous => Follows strategy previous next
  limited : ∀ remediation ∈ state.remediations, WithinLimit strategy remediation
  recorded : ∀ latest ∈ state.remediations.head?, Records state.place.record latest

section

variable {strategy : Option RemediationStrategy} {state : State}

variable (invariant : Invariant strategy state)
include invariant

theorem Invariant.move {place : Place}
    (kept : ∀ record, state.place.record = some record → place.record = some record) :
    Invariant strategy { state with place } where
  follow := invariant.follow
  limited := invariant.limited
  recorded := by
    intro latest isLatest
    rcases invariant.recorded latest isLatest with ⟨name, recorded⟩
    exact ⟨name, kept _ recorded⟩

theorem Invariant.remediated {machine : OwnedMachine} (occupied : state.place = .occupied machine) {time : Int}
    {check : RetryCheck} (checked : checkRetryLimits strategy time machine.toKcpMachine = .ok check)
    (can : check.canRemediate = true) :
    Invariant strategy
      { place := .vacant check.data.marshal, remediations := ⟨time, check.data.retryCount⟩ :: state.remediations } where
  follow := by
    rw [isChain_cons]
    refine ⟨?_, invariant.follow⟩
    intro previous isPrevious
    have recorded := invariant.recorded previous isPrevious
    rw [occupied] at recorded
    exact checkRetryLimits_follows recorded checked can
  limited := by
    rw [forall_mem_cons]
    exact ⟨checkRetryLimits_withinLimit checked can, invariant.limited⟩
  recorded := by
    intro _ isLatest
    cases isLatest
    refine ⟨check.data.machine, ?_⟩
    dsimp only [Place.record, RemediationData.marshal]
    rw [checkRetryLimits_timestamp checked]
    rfl

theorem Invariant.step {action : Action} {next : State}
    (taken : step strategy state action = some next) : Invariant strategy next := by
  cases action with
  | remediate calls =>
    unfold RetryLimits.step at taken
    dsimp only at taken
    split at taken
    · cases taken
    · rename_i machine occupied
      split at taken
      · cases taken
        apply invariant.move
        intro record recorded
        rw [occupied] at recorded
        unfold patchConditions
        split
        · exact recorded
        · exact recorded
      · rename_i record recorded
        rcases remediateMachine_recorded recorded with ⟨_, checked, can, rfl⟩
        cases taken
        exact invariant.remediated occupied checked can
  | create initialized kcp answers =>
    unfold RetryLimits.step at taken
    dsimp only at taken
    split at taken
    · cases taken
    · rename_i record vacant
      split at taken
      · cases taken
        exact invariant
      · rename_i provisioned created
        cases taken
        apply invariant.move
        intro _ recorded
        rw [vacant] at recorded
        cases recorded
        have fromConfig : ∃ bootstrapSpec, createFromConfig kcp { answers with remediationInProgress := some record }
            bootstrapSpec = .ok provisioned := by
          cases initialized with
          | false => exact ⟨_, created⟩
          | true => exact ⟨_, scaleUpControlPlane_eq_ok created⟩
        rcases fromConfig with ⟨_, isCreated⟩
        rcases createFromConfig_eq_ok isCreated with ⟨_, _, _, _, _, rfl⟩
        rfl
  | update =>
    unfold RetryLimits.step at taken
    dsimp only at taken
    split at taken
    · cases taken
    · rename_i machine occupied
      cases taken
      apply invariant.move
      intro record recorded
      rw [occupied] at recorded
      have kept : machine.remediationFor = some record := recorded
      dsimp only [Place.record]
      rw [kept]
      rfl
  | others =>
    unfold RetryLimits.step at taken
    dsimp only at taken
    split at taken
    · cases taken
    · rename_i occupied
      split_ifs at taken with same
      cases taken
      apply invariant.move
      intro _ recorded
      rw [occupied] at recorded
      exact same.trans recorded

end

theorem retryCount_add_length {strategy : Option RemediationStrategy} {latest oldest : Remediation}
    {rest : List Remediation} (follow : (latest :: rest).IsChain fun next previous => Follows strategy previous next)
    (retries : (latest :: rest).IsChain fun next previous => IsRetry strategy previous next)
    (isOldest : oldest ∈ (latest :: rest).getLast?) : latest.retryCount = oldest.retryCount + rest.length := by
  induction rest generalizing latest with
  | nil =>
    cases isOldest
    simp
  | cons _ _ ih =>
    rw [isChain_cons_cons] at follow retries
    have count := follow.1.counts retries.1
    have earlier := ih follow.2 retries.2 (by simpa using isOldest)
    rw [count, earlier, length_cons]
    omega

/-- Along every chain of replacements, each remediation follows the one before and respects the limit; a chain of
retries is therefore bounded. -/
theorem remediations_bounded (strategy : Option RemediationStrategy) (first : OwnedMachine) (schedule : List Action)
    (final : State) (executed : execute (step strategy) { place := .occupied first } schedule = some final) :
    (final.remediations.IsChain fun next previous => Follows strategy previous next) ∧
      (∀ remediation ∈ final.remediations, WithinLimit strategy remediation) ∧
      (∀ machine time check, final.place = .occupied machine →
        checkRetryLimits strategy time machine.toKcpMachine = .ok check → check.canRemediate =
          true → WithinLimit strategy ⟨time, check.data.retryCount⟩ ∧
            ∀ latest ∈ final.remediations.head?, Follows strategy latest ⟨time, check.data.retryCount⟩) ∧
      ((final.remediations.IsChain fun next previous => IsRetry strategy previous next) →
        ∀ oldest ∈ final.remediations.getLast?, ∀ limit ∈ maxRetry strategy,
          oldest.retryCount + final.remediations.length ≤ max limit 0 + 1) := by
  have invariant : Invariant strategy final := by
    apply execute_invariant_of_step _ _ executed
    · intro _ _ _ invariant taken
      exact invariant.step taken
    · constructor
      · exact isChain_nil
      · intro _ inside
        cases inside
      · intro latest isLatest
        cases isLatest
  refine ⟨invariant.follow, invariant.limited, ?_, ?_⟩
  · intro _ _ _ occupied checked can
    refine ⟨checkRetryLimits_withinLimit checked can, ?_⟩
    intro latest isLatest
    have recorded := invariant.recorded latest isLatest
    rw [occupied] at recorded
    exact checkRetryLimits_follows recorded checked can
  · intro retries _ isOldest limit isLimit
    have follow := invariant.follow
    have limited := invariant.limited
    cases remediations : final.remediations with
    | nil =>
      rw [remediations] at isOldest
      cases isOldest
    | cons latest =>
      rw [remediations] at follow limited retries isOldest
      have count := retryCount_add_length follow retries isOldest
      have le := limited latest mem_cons_self limit isLimit
      rw [length_cons]
      omega

def oneRetry : RemediationStrategy := { maxRetry := some 1, retryPeriod := 10 * 10 ^ 9 }

def succeedingCalls : Calls :=
  { patchMachine := fun _ => none, getWorkloadCluster := none, etcdMembers := .ok []
    forwardEtcdLeadership := fun _ _ => none, deleteMachine := fun _ => none }

def remediateAt (time : Int) : Action :=
  .remediate succeedingCalls { clusterName := "cluster", initialized := false, isEtcdManaged := true } time []

def createNamed (name : String) : Action :=
  .create false { version := "v1.31.0" }
    { generateName := fun _ => .ok name, creationTimestamp := 0
      createFromTemplate := fun _ => .ok { reference := {} } }

/-- The first replacement is remediated in turn, once the retry period has passed; its own replacement is not. -/
theorem remediations_bounded_oneRetry : ∃ final,
    execute (step (some oneRetry)) { place := .occupied { name := "kcp-0", creationTimestamp := 0 } }
        [remediateAt 0, createNamed "kcp-1", remediateAt (9 * 10 ^ 9), remediateAt (15 * 10 ^ 9), createNamed "kcp-2",
          remediateAt (60 * 10 ^ 9)] = some final ∧
      final.remediations = [⟨15 * 10 ^ 9, 1⟩, ⟨0, 0⟩] ∧
      ∀ remediation ∈ final.remediations, WithinLimit (some oneRetry) remediation := by
  have counted : (execute (step (some oneRetry)) { place := .occupied { name := "kcp-0", creationTimestamp := 0 } }
      [remediateAt 0, createNamed "kcp-1", remediateAt (9 * 10 ^ 9), remediateAt (15 * 10 ^ 9), createNamed "kcp-2",
        remediateAt (60 * 10 ^ 9)]).map State.remediations = some [⟨15 * 10 ^ 9, 1⟩, ⟨0, 0⟩] := by
    decide +kernel
  rcases Option.map_eq_some_iff.mp counted with ⟨final, executed, count⟩
  exact ⟨final, executed, count, (remediations_bounded (some oneRetry) _ _ final executed).2.1⟩

/-- A negative limit does not keep a Machine from being remediated for the first time. -/
theorem first_remediation_exceeds_maxRetry :
    ∃ check,
      checkRetryLimits (some { maxRetry := some (-1) }) 0 { name := "kcp-0", creationTimestamp := 0 } = .ok check ∧
      check.canRemediate = true ∧ maxRetry (some { maxRetry := some (-1) }) = some (-1) ∧
      ¬ check.data.retryCount ≤ -1 := by
  refine ⟨_, rfl, rfl, by decide, by decide⟩

end ClusterApi.ControlPlane.RetryLimits

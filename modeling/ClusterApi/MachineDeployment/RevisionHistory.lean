import ClusterApi.Foundation.Slices
import ClusterApi.Foundation.Texts
import ClusterApi.MachineDeployment.Util
import ClusterApi.Util.Errors

namespace ClusterApi.MachineDeployment

open Foundation List Function

/-!
# The revisions of a MachineDeployment

Every MachineSet of a MachineDeployment carries its revision in an annotation.
The new MachineSet gets a revision above all others, and remembers the one it
had.  Revisions are 64-bit integers, written as texts.
-/

abbrev Annotations := String → Option String

def revisionKey : String := "machinedeployment.clusters.x-k8s.io/revision"

def revisionHistoryKey : String := "machinedeployment.clusters.x-k8s.io/revision-history"

def desiredReplicasKey : String := "machinedeployment.clusters.x-k8s.io/desired-replicas"

def maxReplicasKey : String := "machinedeployment.clusters.x-k8s.io/max-replicas"

def annotationsToSkip : List String :=
  ["kubectl.kubernetes.io/last-applied-configuration", revisionKey, revisionHistoryKey, desiredReplicasKey,
    maxReplicasKey, "cluster.x-k8s.io/conversion-data"]

/-- The error of `strconv.ParseInt`. -/
def parseIntError (text : String) : NumError → String
  | .invalidSyntax => "strconv.ParseInt: parsing " ++ quote text ++ ": invalid syntax"
  | .outOfRange => "strconv.ParseInt: parsing " ++ quote text ++ ": value out of range"

/-- A missing revision is zero. -/
def revision (annotations : Annotations) : Except NumError Int :=
  match annotations revisionKey with
  | none => .ok 0
  | some text => atoi text.toList

/-- MachineSets whose revision cannot be parsed are skipped. -/
def maxRevision (machineSets : List Annotations) : Int :=
  machineSets.foldl
    (fun maxVal annotations =>
      match revision annotations with
      | .error _ => maxVal
      | .ok value => if value > maxVal then value else maxVal)
    0

/-- The sum wraps around. -/
def nextRevision (oldMSs : List Annotations) : Int := (maxRevision oldMSs + 1).bmod (2 ^ 64)

/-- A MachineSet that exists in the API server. -/
structure ExistingMS where
  /-- The namespace and the name, as they are logged. -/
  reference : String
  annotations : Annotations

/-- The revision never decreases. -/
def revisionOf (oldMSs : List Annotations) (newMS : ExistingMS) : Except String String :=
  match newMS.annotations revisionKey with
  | none => .ok (toString (nextRevision oldMSs))
  | some currentRevision =>
    match atoi currentRevision.toList with
    | .error error =>
      .error (wrap ("failed to parse current revision on MachineSet " ++ newMS.reference)
        (parseIntError currentRevision error))
    | .ok currentRevisionInt =>
      .ok (if nextRevision oldMSs < currentRevisionInt then currentRevision else toString (nextRevision oldMSs))

/-- A history without a first entry is taken for an empty one. -/
def appendRevision (revisionHistory currentRevision : String) : String :=
  let oldRevisions := splitText ',' revisionHistory
  if oldRevisions.head? = some "" then currentRevision else joinTexts "," (oldRevisions ++ [currentRevision])

def copyAnnotations (annotations : Annotations) : Annotations :=
  fun key => if annotationsToSkip.contains key then none else annotations key

/-- The history is preserved, and extended if the revision changes. -/
def recordHistory (newMS : ExistingMS) (newRevision : String) (annotations : Annotations) : Annotations :=
  let preserved :=
    match newMS.annotations revisionHistoryKey with
    | none => annotations
    | some revisionHistory => Function.update annotations revisionHistoryKey (some revisionHistory)
  match newMS.annotations revisionKey with
  | none => preserved
  | some currentRevision =>
    if currentRevision ≠ newRevision then
      Function.update preserved revisionHistoryKey
        (some (appendRevision ((newMS.annotations revisionHistoryKey).getD "") currentRevision))
    else preserved

section

variable (scaler : Scaler)

/-- Without replicas, which are defaulted, there is a nil pointer. -/
def setRevision (deployment : Deployment) (newRevision : String) (annotations : Annotations) :
    Outcome String Annotations :=
  match deployment.replicas with
  | none => .panic
  | some replicas =>
    let revised := Function.update annotations revisionKey (some newRevision)
    let desired := Function.update revised desiredReplicasKey (some (toString replicas.toInt))
    .ok (Function.update desired maxReplicasKey
      (some (toString (replicas + maxSurge scaler deployment).toInt)))

def computeMachineSetAnnotations (deployment : Deployment) (deploymentAnnotations : Annotations)
    (oldMSs : List Annotations) (newMS : Option ExistingMS) : Outcome String Annotations :=
  let annotations := copyAnnotations deploymentAnnotations
  match newMS with
  | none => setRevision scaler deployment (toString (nextRevision oldMSs)) annotations
  | some newMS =>
    match revisionOf oldMSs newMS with
    | .error error => .error error
    | .ok newRevision => setRevision scaler deployment newRevision (recordHistory newMS newRevision annotations)

end

/-! ## The largest revision -/

theorem maxRevision_spec (machineSets : List Annotations) :
    0 ≤ maxRevision machineSets ∧
      (∀ annotations ∈ machineSets, ∀ value, revision annotations = .ok value → value ≤ maxRevision machineSets) ∧
      (maxRevision machineSets = 0 ∨ ∃ annotations ∈ machineSets, revision annotations = .ok (maxRevision machineSets)) := by
  unfold maxRevision
  generalize (0 : Int) = start
  induction machineSets generalizing start with
  | nil =>
    refine ⟨Int.le_refl _, ?_, .inl rfl⟩
    exact fun _ inside => absurd inside not_mem_nil
  | cons annotations _ ih =>
    rw [foldl_cons]
    cases parsed : revision annotations with
    | error =>
      rcases ih start with ⟨above, bound, attained⟩
      refine ⟨above, ?_, ?_⟩
      · intro other inside value isValue
        rcases mem_cons.mp inside with rfl | later
        · rw [parsed] at isValue
          cases isValue
        · exact bound other later value isValue
      · rcases attained with isStart | ⟨other, later, isMax⟩
        · exact .inl isStart
        · exact .inr ⟨other, mem_cons_of_mem _ later, isMax⟩
    | ok value =>
      rcases ih (if value > start then value else start) with ⟨above, bound, attained⟩
      dsimp only
      refine ⟨?_, ?_, ?_⟩
      · refine Int.le_trans ?_ above
        split_ifs with greater
        · exact greater.le
        · exact Int.le_refl _
      · intro other inside found isFound
        rcases mem_cons.mp inside with rfl | later
        · rw [parsed] at isFound
          cases isFound
          refine Int.le_trans ?_ above
          split_ifs with greater
          · exact Int.le_refl _
          · exact not_lt.mp greater
        · exact bound other later found isFound
      · rcases attained with isStart | ⟨other, later, isMax⟩
        · split_ifs at isStart ⊢ with greater
          · exact .inr ⟨annotations, mem_cons_self, parsed.trans (congrArg Except.ok isStart.symm)⟩
          · exact .inl isStart
        · exact .inr ⟨other, mem_cons_of_mem _ later, isMax⟩

/-! ## The condition on the old revisions -/

def largestRevision : Int := 2 ^ 63 - 1

theorem le_largestRevision {annotations : Annotations} {value : Int}
    (parsed : revision annotations = .ok value) : value ≤ largestRevision := by
  unfold revision at parsed
  split at parsed
  · cases parsed
    decide
  · have range := (atoi_eq_ok.mp parsed).2.2
    unfold largestRevision
    omega

section

variable {oldMSs : List Annotations} (bounded : ∀ old ∈ oldMSs, revision old ≠ .ok largestRevision)
include bounded

theorem nextRevision_eq : nextRevision oldMSs = maxRevision oldMSs + 1 ∧ maxRevision oldMSs < largestRevision := by
  rcases maxRevision_spec oldMSs with ⟨_, -, attained⟩
  have below : maxRevision oldMSs < largestRevision := by
    rcases attained with isZero | ⟨old, inside, isMax⟩
    · rw [isZero]
      decide
    · apply lt_of_le_of_ne (le_largestRevision isMax)
      intro same
      exact bounded old inside (same ▸ isMax)
  refine ⟨?_, below⟩
  unfold largestRevision at below
  apply Int.bmod_eq_of_le <;> omega

theorem atoi_nextRevision : atoi (toString (nextRevision oldMSs)).toList = .ok (nextRevision oldMSs) := by
  rcases nextRevision_eq bounded with ⟨_, below⟩
  have nonneg := (maxRevision_spec oldMSs).1
  unfold largestRevision at below
  rw [atoi_eq_ok]
  refine ⟨?_, by omega, by omega⟩
  have cast : nextRevision oldMSs = ((nextRevision oldMSs).toNat : Int) := by omega
  rw [cast]
  exact integer?_repr _

end

/-! ## The history -/

/-- A history with one more entry. -/
def extended (revisionHistory previous : String) : String :=
  if revisionHistory = "" then previous else revisionHistory ++ "," ++ previous

variable {revisionHistory previous : String}

theorem appendRevision_eq_extended (first : revisionHistory.toList.head? ≠ some ',') :
    appendRevision revisionHistory previous = extended revisionHistory previous := by
  unfold appendRevision extended
  by_cases empty : revisionHistory = ""
  · subst empty
    rfl
  · rw [if_neg empty, if_neg]
    · have parts : splitText ',' revisionHistory ≠ [] := map_eq_nil_iff.not.mpr (splitOn_ne_nil ',' _)
      rw [joinTexts_append_singleton "," previous parts]
      exact congrArg (fun joined => joined ++ "," ++ previous) (joinTexts_splitText ',' revisionHistory)
    · intro noFirst
      have separated := head?_splitText_eq_empty.mp noFirst
      cases characters : revisionHistory.toList with
      | nil => exact empty (String.toList_eq_nil_iff.mp characters)
      | cons character =>
        rw [characters] at first separated
        exact first (congrArg some (separated character rfl))

theorem appendRevision_ne_extended (first : revisionHistory.toList.head? = some ',') :
    appendRevision revisionHistory previous ≠ extended revisionHistory previous := by
  have nonempty : revisionHistory ≠ "" := by
    rintro rfl
    cases first
  unfold appendRevision extended
  rw [if_neg nonempty, if_pos]
  · intro same
    have lengths := congrArg String.length same
    rw [String.length_append, String.length_append] at lengths
    have separator : ",".length = 1 := rfl
    omega
  · rw [head?_splitText_eq_empty, first]
    rintro _ ⟨⟩
    rfl

/-- The history that the new MachineSet should have: the previous revision is added if the revision changes. -/
def expectedHistory (newMS : Option ExistingMS) (newRevision : Option String) : Option String :=
  match newMS with
  | none => none
  | some newMS =>
    match newMS.annotations revisionKey with
    | none => newMS.annotations revisionHistoryKey
    | some previous =>
      if newRevision = some previous then newMS.annotations revisionHistoryKey
      else some (extended ((newMS.annotations revisionHistoryKey).getD "") previous)

/-- The revisions of a MachineDeployment form a growing history. -/
structure GrowsHistory (compute : Option ExistingMS → Outcome String Annotations)
    (oldMSs : List Annotations) (newMS : Option ExistingMS) (annotations : Annotations) : Prop where
  above : ∃ value, revision annotations = .ok value ∧
    (∀ old ∈ oldMSs, ∀ other, revision old = .ok other → other < value) ∧
    ∀ machineSet ∈ newMS, ∀ previous, revision machineSet.annotations = .ok previous → previous ≤ value
  history : annotations revisionHistoryKey = expectedHistory newMS (annotations revisionKey)
  again : ∀ reference, compute (some ⟨reference, annotations⟩) = .ok annotations

/-- The revision of the new MachineSet is not the next one, nor beyond it. -/
def RevisionChanges (oldMSs : List Annotations) (newMS : ExistingMS) : Prop :=
  ∃ currentRevision value, newMS.annotations revisionKey = some currentRevision ∧
    atoi currentRevision.toList = .ok value ∧ value ≤ nextRevision oldMSs ∧
      currentRevision ≠ toString (nextRevision oldMSs)

/-- No old revision is the largest one, and a history that is extended does not begin with a separator. -/
structure Extensible (oldMSs : List Annotations) (newMS : Option ExistingMS) : Prop where
  bounded : ∀ old ∈ oldMSs, revision old ≠ .ok largestRevision
  wellFormed : ∀ machineSet ∈ newMS, RevisionChanges oldMSs machineSet →
    ∀ revisionHistory, machineSet.annotations revisionHistoryKey = some revisionHistory →
      revisionHistory.toList.head? ≠ some ','

section

variable {scaler : Scaler} {deployment : Deployment}
variable {deploymentAnnotations annotations : Annotations} {oldMSs : List Annotations}

theorem update_copyAnnotations_none (annotations : Annotations) :
    Function.update (copyAnnotations annotations) revisionHistoryKey none = copyAnnotations annotations := by
  refine update_eq_iff.mpr ⟨?_, fun _ _ => rfl⟩
  rw [copyAnnotations, if_pos]
  decide

variable {newRevision : String} {machineSet : ExistingMS}

theorem setRevision_eq_ok {recorded : Annotations}
    (computed : setRevision scaler deployment newRevision recorded = .ok annotations) :
    annotations revisionKey = some newRevision ∧ annotations revisionHistoryKey = recorded revisionHistoryKey := by
  unfold setRevision at computed
  split at computed
  · cases computed
  · cases computed
    have historyApart : revisionHistoryKey ≠ maxReplicasKey ∧
        revisionHistoryKey ≠ desiredReplicasKey ∧ revisionHistoryKey ≠ revisionKey := by
      decide
    have revisionApart : revisionKey ≠ maxReplicasKey ∧ revisionKey ≠ desiredReplicasKey := by
      decide
    constructor
    · rw [update_of_ne revisionApart.1, update_of_ne revisionApart.2, update_self]
    · rw [update_of_ne historyApart.1, update_of_ne historyApart.2.1,
        update_of_ne historyApart.2.2]

/-- The history after the previous revision was recorded, whatever the annotations were copied from. -/
def recordedHistory (newMS : ExistingMS) (newRevision : String) : Option String :=
  match newMS.annotations revisionKey with
  | none => newMS.annotations revisionHistoryKey
  | some currentRevision =>
    if currentRevision ≠ newRevision then
      some (appendRevision ((newMS.annotations revisionHistoryKey).getD "") currentRevision)
    else newMS.annotations revisionHistoryKey

theorem recordHistory_eq (newMS : ExistingMS) (newRevision : String) :
    recordHistory newMS newRevision (copyAnnotations deploymentAnnotations) =
      Function.update (copyAnnotations deploymentAnnotations) revisionHistoryKey (recordedHistory newMS newRevision) := by
  have preserved :
      (match newMS.annotations revisionHistoryKey with
        | none => copyAnnotations deploymentAnnotations
        | some revisionHistory =>
          update (copyAnnotations deploymentAnnotations) revisionHistoryKey (some revisionHistory)) =
      update (copyAnnotations deploymentAnnotations) revisionHistoryKey
        (newMS.annotations revisionHistoryKey) := by
    cases newMS.annotations revisionHistoryKey with
    | none =>
      exact (update_copyAnnotations_none deploymentAnnotations).symm
    | some => rfl
  unfold recordHistory recordedHistory
  rw [preserved]
  cases newMS.annotations revisionKey with
  | none => rfl
  | some =>
    dsimp only
    split_ifs
    · rw [update_idem]
    · rfl

theorem computeMachineSetAnnotations_eq_ok {newMS : Option ExistingMS}
    (computed : computeMachineSetAnnotations scaler deployment deploymentAnnotations oldMSs newMS =
      .ok annotations) :
    ∃ newRevision history,
      setRevision scaler deployment newRevision
          (Function.update (copyAnnotations deploymentAnnotations) revisionHistoryKey history) = .ok annotations ∧
        (newMS = none ∧ newRevision = toString (nextRevision oldMSs) ∧ history = none ∨
          ∃ machineSet, newMS = some machineSet ∧ revisionOf oldMSs machineSet = .ok newRevision ∧
            history = recordedHistory machineSet newRevision) := by
  unfold computeMachineSetAnnotations at computed
  cases newMS with
  | none =>
    refine ⟨_, none, ?_, .inl ⟨rfl, rfl, rfl⟩⟩
    rw [update_copyAnnotations_none]
    exact computed
  | some machineSet =>
    dsimp only at computed
    split at computed
    · cases computed
    case h_2 newRevision isRevision =>
      rw [recordHistory_eq] at computed
      exact ⟨newRevision, _, computed, .inr ⟨machineSet, rfl, isRevision, rfl⟩⟩

theorem revisionOf_cases (isRevision : revisionOf oldMSs machineSet = .ok newRevision) :
    newRevision = toString (nextRevision oldMSs) ∧
        (∀ text, machineSet.annotations revisionKey = some text →
          ∃ value, atoi text.toList = .ok value ∧ value ≤ nextRevision oldMSs) ∨
      machineSet.annotations revisionKey = some newRevision ∧
        ∃ value, atoi newRevision.toList = .ok value ∧ nextRevision oldMSs < value := by
  unfold revisionOf at isRevision
  split at isRevision
  case h_1 missing =>
    cases isRevision
    refine .inl ⟨rfl, ?_⟩
    intro text isText
    rw [missing] at isText
    cases isText
  case h_2 currentRevision isCurrent =>
    split at isRevision
    · cases isRevision
    case h_2 value parsed =>
      cases isRevision
      by_cases beyond : nextRevision oldMSs < value
      · rw [if_pos beyond]
        exact .inr ⟨isCurrent, value, parsed, beyond⟩
      · rw [if_neg beyond]
        refine .inl ⟨rfl, ?_⟩
        intro _ isText
        rw [isCurrent, Option.some.injEq] at isText
        subst isText
        exact ⟨value, parsed, not_lt.mp beyond⟩

variable {newMS : Option ExistingMS}

theorem exists_revision (bounded : ∀ old ∈ oldMSs, revision old ≠ .ok largestRevision) {history : Option String}
    (source : newMS = none ∧ newRevision = toString (nextRevision oldMSs) ∧ history = none ∨ ∃ machineSet, newMS =
      some machineSet ∧ revisionOf oldMSs machineSet = .ok newRevision ∧ history =
      recordedHistory machineSet newRevision) :
    ∃ value, atoi newRevision.toList = .ok value ∧ nextRevision oldMSs ≤ value ∧
      (newRevision = toString (nextRevision oldMSs) ∨ nextRevision oldMSs < value) ∧
      ∀ machineSet ∈ newMS, ∀ previous, revision machineSet.annotations = .ok previous → previous ≤ value := by
  have positive : 0 ≤ nextRevision oldMSs := by
    have nonneg := (maxRevision_spec oldMSs).1
    have isNext := (nextRevision_eq bounded).1
    omega
  rcases source with ⟨rfl, rfl, -⟩ | ⟨_, rfl, isRevision, -⟩
  · refine ⟨_, atoi_nextRevision bounded, le_rfl, .inl rfl, ?_⟩
    exact fun _ impossible => absurd impossible (Option.not_mem_none _)
  · rcases revisionOf_cases isRevision with ⟨rfl, current⟩ | ⟨isCurrent, value, parsed, beyond⟩
    · refine ⟨_, atoi_nextRevision bounded, le_rfl, .inl rfl, ?_⟩
      rintro _ ⟨⟩ previous isPrevious
      unfold revision at isPrevious
      split at isPrevious
      · cases isPrevious
        exact positive
      case h_2 text isText =>
        rcases current text isText with ⟨value, parsed, below⟩
        rw [parsed] at isPrevious
        cases isPrevious
        exact below
    · refine ⟨value, parsed, beyond.le, .inr beyond, ?_⟩
      rintro _ ⟨⟩ _ isPrevious
      rw [revision, isCurrent] at isPrevious
      dsimp only at isPrevious
      rw [parsed] at isPrevious
      cases isPrevious
      exact le_rfl

end

/-- The annotations of the new MachineSet continue a growing history exactly if its history can be extended and the
revisions have not come to an end. -/
theorem computeMachineSetAnnotations_growsHistory_iff
    {scaler : Scaler} {deployment : Deployment}
    {deploymentAnnotations annotations : Annotations} {oldMSs : List Annotations} {newMS : Option ExistingMS}
    (computed : computeMachineSetAnnotations scaler deployment deploymentAnnotations oldMSs newMS =
      .ok annotations) :
    GrowsHistory (computeMachineSetAnnotations scaler deployment deploymentAnnotations oldMSs) oldMSs newMS
        annotations ↔
      Extensible oldMSs newMS := by
  rcases computeMachineSetAnnotations_eq_ok computed with ⟨newRevision, history, set, source⟩
  rcases setRevision_eq_ok set with ⟨isRevision, isHistory⟩
  rw [update_self] at isHistory
  constructor
  · intro grows
    constructor
    · intro old inside isLargest
      rcases grows.above with ⟨value, isValue, above, -⟩
      have bound := le_largestRevision isValue
      have less := above old inside largestRevision isLargest
      omega
    · rintro machineSet isNew ⟨_, value, isCurrent, parsed, notBeyond, different⟩ _ recorded first
      rcases source with ⟨none, -⟩ | ⟨_, some, revised, rfl⟩
      · rw [none] at isNew
        cases isNew
      · rw [some] at isNew
        cases isNew
        have isNext : newRevision = toString (nextRevision oldMSs) := by
          simp only [revisionOf, isCurrent, parsed, if_neg (not_lt.mpr notBeyond), Except.ok.injEq] at revised
          exact revised.symm
        have expected := grows.history
        rw [isHistory, isRevision, some, recordedHistory, expectedHistory, isCurrent, recorded] at expected
        dsimp only at expected
        rw [isNext, if_pos different, if_neg fun same => different (Option.some.inj same).symm, Option.some.injEq] at expected
        exact appendRevision_ne_extended first expected
  · rintro ⟨bounded, wellFormed⟩
    rcases exists_revision bounded source with ⟨value, parsed, _, isNext, notSmaller⟩
    constructor
    · refine ⟨value, ?_, ?_, notSmaller⟩
      · rw [revision, isRevision]
        exact parsed
      · intro old inside other isOther
        have bound := (maxRevision_spec oldMSs).2.1 old inside other isOther
        have next := (nextRevision_eq bounded).1
        omega
    · rw [isHistory, isRevision]
      rcases source with ⟨rfl, -, rfl⟩ | ⟨machineSet, rfl, revised, rfl⟩
      · rfl
      unfold recordedHistory expectedHistory
      dsimp only
      cases current : machineSet.annotations revisionKey with
      | none => rfl
      | some currentRevision =>
        dsimp only
        by_cases same : currentRevision = newRevision
        · rw [if_neg (not_not_intro same), if_pos (congrArg some same.symm)]
        · rw [if_pos same, if_neg fun equal => same (Option.some.inj equal).symm, appendRevision_eq_extended]
          rcases revisionOf_cases revised with ⟨rfl, below⟩ | ⟨isCurrent, -⟩
          · rcases below currentRevision current with ⟨value, parsed, notBeyond⟩
            have notSeparated := wellFormed machineSet rfl ⟨currentRevision, value, current, parsed, notBeyond, same⟩
            cases isHistory : machineSet.annotations revisionHistoryKey with
            | none => exact nofun
            | some revisionHistory => exact notSeparated revisionHistory isHistory
          · rw [current, Option.some.injEq] at isCurrent
            exact absurd isCurrent same
    · intro reference
      -- A MachineSet that has the new revision keeps it, and its history.
      have revised : revisionOf oldMSs ⟨reference, annotations⟩ = .ok newRevision := by
        simp only [revisionOf, isRevision, parsed]
        split_ifs with beyond
        · rfl
        · rw [isNext.resolve_right beyond]
      have kept : recordedHistory ⟨reference, annotations⟩ newRevision = history := by
        simp only [recordedHistory, isRevision, ne_eq, not_true_eq_false, if_false, isHistory]
      simp only [computeMachineSetAnnotations, revised]
      rw [recordHistory_eq, kept]
      exact set

namespace RevisionExample

def deployment : Deployment where
  name := "workers"
  replicas := some 3
  strategyType := .rollingUpdate
  maxSurge := some (.int 1)
  maxUnavailable := some (.int 0)

def noAnnotations : Annotations := fun _ => none

def withRevision (text : String) : Annotations := Function.update noAnnotations revisionKey (some text)

def compute : List Annotations → Option ExistingMS → Outcome String Annotations :=
  computeMachineSetAnnotations getScaledValue deployment noAnnotations

end RevisionExample

open RevisionExample

/-- A new MachineSet falls behind an old one of revision 4, and gets revision 5. -/
theorem computeMachineSetAnnotations_growsHistory_five :
    ∃ annotations,
      compute [withRevision "4", withRevision "unknown"] (some ⟨"default/new", withRevision "2"⟩) = .ok annotations ∧
        annotations revisionKey = some "5" ∧ annotations revisionHistoryKey = some "2" ∧
        GrowsHistory (compute [withRevision "4", withRevision "unknown"]) [withRevision "4", withRevision "unknown"]
          (some ⟨"default/new", withRevision "2"⟩) annotations := by
  refine ⟨_, rfl, by decide +kernel, by decide +kernel, ?_⟩
  refine (computeMachineSetAnnotations_growsHistory_iff rfl).mpr ⟨?_, ?_⟩
  · intro _ inside
    simp only [mem_cons, not_mem_nil, or_false] at inside
    rcases inside with rfl | rfl
    · decide +kernel
    · decide +kernel
  · rintro _ ⟨⟩ - revisionHistory isHistory
    have noHistory : withRevision "2" revisionHistoryKey = none := rfl
    exact absurd (noHistory.symm.trans isHistory) (Option.some_ne_none revisionHistory).symm

/-- After the largest revision the next one is the smallest. -/
theorem computeMachineSetAnnotations_wraps :
    ∃ annotations, compute [withRevision "9223372036854775807"] none = .ok annotations ∧
      annotations revisionKey = some "-9223372036854775808" ∧
      ¬ GrowsHistory (compute [withRevision "9223372036854775807"]) [withRevision "9223372036854775807"] none
          annotations := by
  refine ⟨_, rfl, by decide +kernel, ?_⟩
  intro grows
  rcases grows.above with ⟨_, isValue, above, -⟩
  have less := above _ mem_cons_self largestRevision (by decide +kernel)
  have bound := le_largestRevision isValue
  omega

end ClusterApi.MachineDeployment

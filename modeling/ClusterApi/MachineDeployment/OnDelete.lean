import ClusterApi.Machine.Conditions
import ClusterApi.MachineDeployment.Rolling
import ClusterApi.Util.Errors

namespace ClusterApi.MachineDeployment

open Foundation List Int32 FixedWidth

/-!
# Scaling down with the OnDelete strategy

With this strategy Machines are replaced when somebody deletes them.  The old
MachineSets follow: each one is first scaled to the number of Machines that are
left, and what is still missing to the desired number of replicas is then taken
from them one after the other.

A MachineSet that has more Machines than replicas, because its last scale-down
has not been carried out yet, is scaled up again by the first loop, and only
the second loop can take that back.
-/

/-! ## The code -/

/-- An old MachineSet with its Machines, and whether its selector can be converted to a map. -/
structure OldMachineSet extends MachineSet where
  disableMachineCreate : Bool := false
  selectorAsMap : Bool := true
  machines : List Machine := []
  deriving DecidableEq

/-- The errors of the calls made for an old MachineSet: the patch of its
annotation, the list of its Machines, and the patch of its replicas. -/
structure OnDeleteCalls where
  annotate : OldMachineSet → Option String := fun _ => none
  list : OldMachineSet → Option String := fun _ => none
  patch : MachineSet → Int32 → Option String := fun _ _ => none

def getDeletingMachineCount (machines : List Machine) : Int32 := Int32.ofNat (machines.countP Machine.deleting)

/-- The Machines that are not being deleted, as a 32-bit number. -/
def updatedReplicaCount (oldMS : OldMachineSet) : Int32 :=
  Int32.ofNat oldMS.machines.length - getDeletingMachineCount oldMS.machines

variable (calls : OnDeleteCalls)

def disableMachineCreation (oldMS : OldMachineSet) : Except String OldMachineSet :=
  if oldMS.disableMachineCreate then .ok oldMS
  else
    match calls.annotate oldMS with
    | some error => .error error
    | none => .ok { oldMS with disableMachineCreate := true }

def scaleOldMachineSet (oldMS : OldMachineSet) (newScale : Int32) : Except String OldMachineSet :=
  (scaleMachineSet calls.patch oldMS.toMachineSet newScale).map fun scaled => { oldMS with toMachineSet := scaled }

/-- The first loop of `reconcileOldMachineSetsOnDelete`, from a MachineSet on. -/
def deletedMachinesLoop : Int32 → List OldMachineSet → List OldMachineSet × Except String Int32
  | scaleDownAmount, [] => ([], .ok scaleDownAmount)
  | scaleDownAmount, oldMS :: rest =>
    let replicas := oldMS.replicas.getD 0
    if replicas ≤ 0 then
      let (rest, outcome) := deletedMachinesLoop scaleDownAmount rest
      (oldMS :: rest, outcome)
    else
      match disableMachineCreation calls oldMS with
      | .error error => (oldMS :: rest, .error error)
      | .ok disabled =>
        if !oldMS.selectorAsMap then
          let (rest, outcome) := deletedMachinesLoop scaleDownAmount rest
          (disabled :: rest, outcome)
        else
          match calls.list oldMS with
          | some error => (disabled :: rest, .error ("failed to list machines: " ++ error))
          | none =>
            if updatedReplicaCount oldMS < 0 then
              (disabled :: rest, .error ("negative updated replica count " ++
                toString (updatedReplicaCount oldMS) ++ " for MachineSet " ++ oldMS.name ++
                ", this is unexpected"))
            else
              match scaleOldMachineSet calls disabled (updatedReplicaCount oldMS) with
              | .error error => (disabled :: rest, .error error)
              | .ok scaled =>
                let (rest, outcome) := deletedMachinesLoop
                  (scaleDownAmount - (replicas - updatedReplicaCount oldMS)) rest
                (scaled :: rest, outcome)

/-- The second loop of `reconcileOldMachineSetsOnDelete`, from a MachineSet on. -/
def furtherScaleDownLoop : Int32 → List OldMachineSet → List OldMachineSet × Except String Unit
  | _, [] => ([], .ok ())
  | scaleDownAmount, oldMS :: rest =>
    let replicas := oldMS.replicas.getD 0
    if scaleDownAmount ≤ 0 then (oldMS :: rest, .ok ())
    else if replicas ≤ 0 then
      let (rest, outcome) := furtherScaleDownLoop scaleDownAmount rest
      (oldMS :: rest, outcome)
    else
      let (newReplicas, left) :=
        if replicas ≥ scaleDownAmount then (replicas - scaleDownAmount, 0) else (0, scaleDownAmount - replicas)
      match scaleOldMachineSet calls oldMS newReplicas with
      | .error error => (oldMS :: rest, .error error)
      | .ok scaled =>
        let (rest, outcome) := furtherScaleDownLoop left rest
        (scaled :: rest, outcome)

def reconcileOldMachineSetsOnDelete (deployment : Deployment) (oldMSs : List OldMachineSet)
    (newMS : MachineSet) : List OldMachineSet × Except String Unit :=
  match deployment.replicas with
  | none => (oldMSs,
      .error ("spec replicas for MachineDeployment " ++ quote deployment.ns ++ "/" ++ quote deployment.name ++
        " is nil, this is unexpected"))
  | some desired =>
    let totalReplicas := getReplicaCountForMachineSets (oldMSs.map OldMachineSet.toMachineSet ++ [newMS])
    match deletedMachinesLoop calls (totalReplicas - desired) oldMSs with
    | (adjusted, .error error) => (adjusted, .error error)
    | (adjusted, .ok scaleDownAmount) => furtherScaleDownLoop calls scaleDownAmount adjusted

/-! ## What the loops do to the counts -/

/-- The Machines that are not being deleted. -/
def OldMachineSet.remaining (oldMS : OldMachineSet) : Nat := oldMS.machines.countP fun machine => !machine.deleting

/-- The replicas after the first loop. -/
def OldMachineSet.adjusted (oldMS : OldMachineSet) : Int32 :=
  if oldMS.replicas.getD 0 ≤ 0 ∨ oldMS.selectorAsMap = false then oldMS.replicas.getD 0 else updatedReplicaCount oldMS

variable {calls}

variable {oldMS scaled : OldMachineSet} {amount final : Int32} {after oldMSs rest : List OldMachineSet}

theorem scaleOldMachineSet_ok {newScale : Int32}
    (ok : scaleOldMachineSet calls oldMS newScale = .ok scaled) : scaled.spec = newScale.toInt := by
  unfold scaleOldMachineSet at ok
  cases result : scaleMachineSet calls.patch oldMS.toMachineSet newScale with
  | error =>
    rw [result] at ok
    cases ok
  | ok =>
    rw [result] at ok
    cases ok
    rw [scaleMachineSet_ok result]
    rfl

/-- Every MachineSet is adjusted, and the budget by what that changes. -/
structure Adjusted (amount : Int32) (oldMSs after : List OldMachineSet) (final : Int32) : Prop where
  specs : (after.map fun oldMS => oldMS.spec) = oldMSs.map fun oldMS => oldMS.adjusted.toInt
  nonneg : ∀ oldMS ∈ oldMSs, 0 ≤ oldMS.adjusted.toInt
  budget : final.toInt =
    (amount.toInt - (oldMSs.map fun oldMS => oldMS.spec - oldMS.adjusted.toInt).sum).bmod (2 ^ 32)

theorem Adjusted.nil (amount : Int32) : Adjusted amount [] [] amount := by
  have same := toInt_foldl_add [] amount
  rw [foldl_nil, map_nil, sum_nil, add_zero] at same
  have none : (([] : List OldMachineSet).map fun oldMS => oldMS.spec - oldMS.adjusted.toInt).sum = 0 := sum_nil
  constructor
  · exact map_nil
  · intro _ member
    cases member
  · rw [none, sub_zero]
    exact same

theorem Adjusted.skip {skipped : OldMachineSet} (later : Adjusted amount rest after final) (nonneg : 0 ≤ oldMS.spec)
    (same : skipped.spec = oldMS.spec) (kept : oldMS.adjusted = oldMS.replicas.getD 0) :
    Adjusted amount (oldMS :: rest) (skipped :: after) final := by
  have adjustedEq : oldMS.adjusted.toInt = oldMS.spec := by rw [kept, MachineSet.spec]
  refine ⟨?_, forall_mem_cons.mpr ⟨adjustedEq ▸ nonneg, later.nonneg⟩, ?_⟩
  · rw [map_cons, map_cons, later.specs, same, adjustedEq]
  · rw [later.budget, map_cons, sum_cons, adjustedEq, sub_self, zero_add]

theorem Adjusted.scale (later : Adjusted (amount - (oldMS.replicas.getD 0 - oldMS.adjusted)) rest after final)
    (nonneg : 0 ≤ oldMS.spec) (adjustedNonneg : 0 ≤ oldMS.adjusted.toInt)
    (specEq : scaled.spec = oldMS.adjusted.toInt) : Adjusted amount (oldMS :: rest) (scaled :: after) final := by
  refine ⟨?_, forall_mem_cons.mpr ⟨adjustedNonneg, later.nonneg⟩, ?_⟩
  · rw [map_cons, map_cons, later.specs, specEq]
  · have changed : (oldMS.replicas.getD 0 - oldMS.adjusted).toInt = oldMS.spec - oldMS.adjusted.toInt :=
      toInt_sub_of_nonneg nonneg adjustedNonneg
    rw [later.budget, map_cons, sum_cons, toInt_sub, changed, sub_eq_add_neg, Int.bmod_add_bmod,
      ← sub_eq_add_neg, sub_sub]

theorem deletedMachinesLoop_adjusted (nonneg : ∀ oldMS ∈ oldMSs, 0 ≤ oldMS.spec)
    (succeeded : deletedMachinesLoop calls amount oldMSs = (after, .ok final)) :
    Adjusted amount oldMSs after final := by
  induction oldMSs generalizing amount after with
  | nil =>
    cases succeeded
    exact .nil _
  | cons oldMS _ ih =>
    rcases forall_mem_cons.mp nonneg with ⟨headNonneg, restNonneg⟩
    unfold deletedMachinesLoop at succeeded
    dsimp only at succeeded
    split at succeeded
    case isTrue scaledDown =>
      rcases Prod.mk.inj succeeded with ⟨rfl, outcome⟩
      exact .skip (ih restNonneg (Prod.ext rfl outcome)) headNonneg rfl (if_pos (.inl scaledDown))
    case isFalse positive =>
      split at succeeded
      case h_1 error failed => cases succeeded
      case h_2 disabled annotated =>
        split at succeeded
        case isTrue unconvertible =>
          rcases Prod.mk.inj succeeded with ⟨rfl, outcome⟩
          refine .skip (ih restNonneg (Prod.ext rfl outcome)) headNonneg ?_ (if_pos (.inr ?_))
          · unfold disableMachineCreation at annotated
            split at annotated
            · cases annotated
              rfl
            · split at annotated
              · cases annotated
              · cases annotated
                rfl
          · simpa using unconvertible
        case isFalse convertible =>
          split at succeeded
          case h_1 error failed => cases succeeded
          case h_2 listed =>
            split at succeeded
            case isTrue negative => cases succeeded
            case isFalse counted =>
              split at succeeded
              case h_1 error failed => cases succeeded
              case h_2 scaled ok =>
                have adjusted : oldMS.adjusted = updatedReplicaCount oldMS := by
                  rw [OldMachineSet.adjusted, if_neg]
                  rintro (down | unconvertible)
                  · exact positive down
                  · exact convertible (by simp [unconvertible])
                rw [← adjusted] at succeeded ok counted
                rcases Prod.mk.inj succeeded with ⟨rfl, outcome⟩
                refine .scale (ih restNonneg (Prod.ext rfl outcome)) headNonneg ?_
                  (scaleOldMachineSet_ok ok)
                rw [lt_iff_toInt_lt, toInt_zero] at counted
                exact Int.not_lt.mp counted

theorem furtherScaleDownLoop_draw (nonneg : ∀ oldMS ∈ oldMSs, 0 ≤ oldMS.spec)
    (succeeded : furtherScaleDownLoop calls amount oldMSs = (after, .ok ())) :
    (after.map fun oldMS => oldMS.spec) = draw amount.toInt (oldMSs.map fun oldMS => oldMS.spec) := by
  induction oldMSs generalizing amount after with
  | nil =>
    cases succeeded
    rfl
  | cons oldMS _ ih =>
    rcases forall_mem_cons.mp nonneg with ⟨headNonneg, restNonneg⟩
    unfold furtherScaleDownLoop at succeeded
    dsimp only at succeeded
    split at succeeded
    case isTrue spent =>
      cases succeeded
      rw [le_iff_toInt_le, toInt_zero] at spent
      refine (draw_of_nonpos ?_ spent).symm
      simpa using nonneg
    case isFalse left =>
      rw [le_iff_toInt_le, toInt_zero] at left
      rw [map_cons, draw_cons headNonneg]
      split at succeeded
      case isTrue scaledDown =>
        rcases Prod.mk.inj succeeded with ⟨rfl, outcome⟩
        have none : oldMS.spec = 0 := by
          rw [le_iff_toInt_le, toInt_zero] at scaledDown
          exact le_antisymm scaledDown headNonneg
        rw [map_cons, ih restNonneg (Prod.ext rfl outcome), none, sub_zero]
        congr 1
        omega
      case isFalse positive =>
        split at succeeded
        case h_1 error failed => cases succeeded
        case h_2 scaled ok =>
          rcases Prod.mk.inj succeeded with ⟨rfl, outcome⟩
          have spec := scaleOldMachineSet_ok ok
          rw [map_cons, ih restNonneg (Prod.ext rfl outcome), spec]
          have newEq : ((oldMS.replicas.getD 0) - amount).toInt = oldMS.spec - amount.toInt :=
            toInt_sub_of_nonneg headNonneg (by omega)
          have leftEq : (amount - (oldMS.replicas.getD 0)).toInt = amount.toInt - oldMS.spec :=
            toInt_sub_of_nonneg (by omega) headNonneg
          split
          case isTrue enough =>
            rw [ge_iff_le, le_iff_toInt_le, ← MachineSet.spec] at enough
            rw [newEq, toInt_zero, draw_of_nonpos (by simpa using restNonneg) le_rfl,
              draw_of_nonpos (by simpa using restNonneg) (by omega)]
            congr 1
            omega
          case isFalse short =>
            rw [ge_iff_le, le_iff_toInt_le, ← MachineSet.spec] at short
            rw [leftEq, toInt_zero]
            congr 1
            omega

/-! ## The sum law -/

/-- The replicas an old MachineSet may keep: what it had, and not more than it has Machines. -/
def OldMachineSet.ceiling (oldMS : OldMachineSet) : Int := min oldMS.spec oldMS.remaining

/-- What the scale-down should amount to. -/
structure ScaledDown (desired : Int32) (newMS : MachineSet) (oldMSs after : List OldMachineSet) : Prop where
  each : List.Forall₂ (fun before scaled => 0 ≤ scaled.spec ∧ scaled.spec ≤ before.spec ∧
    scaled.spec ≤ before.remaining) oldMSs after
  total : newMS.spec + (after.map fun oldMS => oldMS.spec).sum =
    let target := newMS.spec + (oldMSs.map fun oldMS => min oldMS.spec oldMS.remaining).sum
    if target ≤ desired.toInt then target else max desired.toInt newMS.spec

/-- The surplus over the desired replicas once the old MachineSets are adjusted. -/
def surplus (desired : Int32) (newMS : MachineSet) (oldMSs : List OldMachineSet) : Int :=
  newMS.spec + (oldMSs.map fun oldMS => oldMS.adjusted.toInt).sum - desired.toInt

/-- The surplus is a 32-bit number that, taken from the MachineSets in their
order, lowers each of them as far as it has to be lowered; and if there is
none, no count of Machines has wrapped around. -/
structure SurplusReaches (desired : Int32) (newMS : MachineSet) (oldMSs : List OldMachineSet) : Prop where
  fits : surplus desired newMS oldMSs < 2 ^ 31
  reaches : Reaches (surplus desired newMS oldMSs) (oldMSs.map fun oldMS => (oldMS.adjusted.toInt, oldMS.ceiling))
  counted : 0 ≤ surplus desired newMS oldMSs ∨ ∀ oldMS ∈ oldMSs, oldMS.ceiling ≤ oldMS.adjusted.toInt

variable {pairs : List (Int × Int)} {newMS : MachineSet} {desired : Int32}

theorem ceilings_le_of_sum_le (below : Forall₂ (· ≤ ·) (pairs.map Prod.fst) (pairs.map Prod.snd))
    (sum : (pairs.map Prod.snd).sum ≤ (pairs.map Prod.fst).sum) : ∀ pair ∈ pairs, pair.2 ≤ pair.1 := by
  induction pairs with
  | nil => simp
  | cons _ _ ih =>
    rw [map_cons, map_cons, forall₂_cons] at below
    rw [map_cons, map_cons, sum_cons, sum_cons] at sum
    have restSum := below.2.sum_le_sum
    refine forall_mem_cons.mpr ⟨by omega, ih below.2 ?_⟩
    omega

/-- Drawing a surplus that may have wrapped around: the result is within the
ceilings and has the right sum exactly if nothing wrapped around and the
surplus reaches what has to be lowered. -/
theorem draw_law_iff (nonneg : ∀ pair ∈ pairs, 0 ≤ pair.1 ∧ 0 ≤ pair.2) {new desired : Int} (newNonneg : 0 ≤ new)
    (newLt : new < 2 ^ 31) (desiredNonneg : 0 ≤ desired) (desiredLt : desired < 2 ^ 31) {budget : Int}
    (budgetEq : budget = new + (pairs.map Prod.fst).sum - desired) :
    (Forall₂ (· ≤ ·) (draw (budget.bmod (2 ^ 32)) (pairs.map Prod.fst)) (pairs.map Prod.snd) ∧
      new + (draw (budget.bmod (2 ^ 32)) (pairs.map Prod.fst)).sum =
        let target := new + (pairs.map Prod.snd).sum
        if target ≤ desired then target else max desired new) ↔
    budget < 2 ^ 31 ∧ Reaches budget pairs ∧ (0 ≤ budget ∨ ∀ pair ∈ pairs, pair.2 ≤ pair.1) := by
  have amounts : ∀ amount ∈ pairs.map Prod.fst, 0 ≤ amount := by
    intro _ member
    rcases mem_map.mp member with ⟨pair, inside, rfl⟩
    exact (nonneg pair inside).1
  have sumNonneg := sum_nonneg amounts
  have drawn := sum_draw amounts (budget.bmod (2 ^ 32))
  by_cases fits : budget < 2 ^ 31
  · have same : budget.bmod (2 ^ 32) = budget := by
      rw [Int.bmod_eq_of_le] <;> omega
    rw [same] at drawn ⊢
    rw [draw_le_iff nonneg]
    constructor
    · rintro ⟨reaches, law⟩
      refine ⟨fits, reaches, ?_⟩
      by_cases positive : 0 ≤ budget
      · exact .inl positive
      refine .inr fun pair member => ?_
      by_contra above
      have below := (draw_le_iff nonneg budget).mpr reaches
      rw [draw_of_nonpos amounts (by omega)] at below law
      have larger : ¬ (pairs.map Prod.snd).sum ≤ (pairs.map Prod.fst).sum := fun sum =>
        absurd (ceilings_le_of_sum_le below sum pair member) (by omega)
      dsimp only at law
      split_ifs at law <;> omega
    · rintro ⟨-, reaches, counted⟩
      refine ⟨reaches, ?_⟩
      have below := ((draw_le_iff nonneg budget).mpr reaches).sum_le_sum
      dsimp only
      rcases counted with positive | counted
      · split_ifs <;> omega
      · have sum : (pairs.map Prod.snd).sum ≤ (pairs.map Prod.fst).sum :=
          sum_le_sum fun pair member => counted pair member
        split_ifs <;> omega
  · have wrapped : budget.bmod (2 ^ 32) ≤ budget - 2 ^ 32 := by
      rw [Int.bmod_def]
      split_ifs <;> omega
    constructor
    · rintro ⟨-, law⟩
      dsimp only at law
      split_ifs at law <;> omega
    · rintro ⟨fits', -⟩
      exact absurd fits' fits

theorem toInt_totalReplicas (oldMSs : List OldMachineSet) (newMS : MachineSet) :
    (getReplicaCountForMachineSets (oldMSs.map OldMachineSet.toMachineSet ++ [newMS])).toInt =
      (newMS.spec + (oldMSs.map fun oldMS => oldMS.spec).sum).bmod (2 ^ 32) := by
  rw [getReplicaCountForMachineSets, toInt_wrappingSum, map_append, map_append, sum_append,
    map_map, map_map]
  congr 1
  rw [add_comm]
  congr 1
  exact add_zero _

theorem sum_map_sub (first second : OldMachineSet → Int) (oldMSs : List OldMachineSet) :
    (oldMSs.map fun oldMS => first oldMS - second oldMS).sum = (oldMSs.map first).sum - (oldMSs.map second).sum := by
  induction oldMSs with
  | nil => rfl
  | cons _ _ ih =>
    rw [map_cons, map_cons, map_cons, sum_cons, sum_cons, sum_cons, ih]
    omega

theorem Adjusted.toInt_final
    (adjusted : Adjusted
      (getReplicaCountForMachineSets (oldMSs.map OldMachineSet.toMachineSet ++ [newMS]) - desired)
      oldMSs after final) :
    final.toInt = (surplus desired newMS oldMSs).bmod (2 ^ 32) := by
  have sum : (oldMSs.map fun oldMS => oldMS.spec - oldMS.adjusted.toInt).sum =
      (oldMSs.map fun oldMS => oldMS.spec).sum - (oldMSs.map fun oldMS => oldMS.adjusted.toInt).sum :=
    sum_map_sub _ _ _
  rw [adjusted.budget, toInt_sub, toInt_totalReplicas, sum, surplus, sub_eq_add_neg,
    Int.bmod_add_bmod, sub_eq_add_neg (Int.bmod _ _), add_assoc, Int.bmod_add_bmod]
  congr 1
  omega

theorem forall₂_bounds_iff (nonneg : ∀ scaled ∈ after, 0 ≤ scaled.spec) :
    Forall₂ (fun before scaled : OldMachineSet => 0 ≤ scaled.spec ∧ scaled.spec ≤ before.spec ∧
        scaled.spec ≤ before.remaining) oldMSs after ↔
      Forall₂ (· ≤ ·) (after.map fun oldMS => oldMS.spec) (oldMSs.map OldMachineSet.ceiling) := by
  rw [forall₂_map_left_iff, forall₂_map_right_iff]
  constructor
  · intro bounds
    refine bounds.flip.imp fun scaled before bound => ?_
    exact le_min bound.2.1 bound.2.2
  · intro below
    induction below with
    | nil => exact .nil
    | cons head _ ih =>
      refine .cons ⟨nonneg _ (by simp), le_trans head (min_le_left _ _), le_trans head (min_le_right _ _)⟩ ?_
      exact ih fun scaled member => nonneg scaled (mem_cons_of_mem _ member)

/-- A successful reconcile scales down as it should exactly if the surplus
reaches every MachineSet that has to be lowered. -/
theorem reconcileOldMachineSetsOnDelete_scaledDown {deployment : Deployment} {desired : Int32}
    (replicas : deployment.replicas = some desired) (desiredNonneg : 0 ≤ desired.toInt) {newMS : MachineSet}
    (newNonneg : 0 ≤ newMS.spec) {oldMSs after : List OldMachineSet} (nonneg : ∀ oldMS ∈ oldMSs, 0 ≤ oldMS.spec)
    (succeeded : reconcileOldMachineSetsOnDelete calls deployment oldMSs newMS = (after, .ok ())) :
    ScaledDown desired newMS oldMSs after ↔ SurplusReaches desired newMS oldMSs := by
  unfold reconcileOldMachineSetsOnDelete at succeeded
  rw [replicas] at succeeded
  dsimp only at succeeded
  split at succeeded
  case h_1 middle error looped => cases succeeded
  case h_2 middle amount looped =>
    have adjusted := deletedMachinesLoop_adjusted nonneg looped
    have middleNonneg : ∀ oldMS ∈ middle, 0 ≤ oldMS.spec := by
      intro oldMS member
      have mapped : oldMS.spec ∈ middle.map fun oldMS => oldMS.spec := mem_map_of_mem member
      rw [adjusted.specs] at mapped
      rcases mem_map.mp mapped with ⟨before, inside, same⟩
      exact same ▸ adjusted.nonneg before inside
    have drawn := furtherScaleDownLoop_draw middleNonneg succeeded
    rw [adjusted.specs, adjusted.toInt_final] at drawn
    have amountsNonneg : ∀ amount ∈ oldMSs.map fun oldMS => oldMS.adjusted.toInt, 0 ≤ amount := by
      simpa using adjusted.nonneg
    have afterNonneg : ∀ scaled ∈ after, 0 ≤ scaled.spec := by
      intro scaled member
      have mapped : scaled.spec ∈ after.map fun oldMS => oldMS.spec := mem_map_of_mem member
      rw [drawn] at mapped
      exact draw_nonneg amountsNonneg _ _ mapped
    have pairsNonneg : ∀ pair ∈ oldMSs.map fun oldMS => (oldMS.adjusted.toInt, oldMS.ceiling), 0 ≤ pair.1 ∧ 0 ≤ pair.2 := by
      intro pair member
      rcases mem_map.mp member with ⟨oldMS, inside, rfl⟩
      exact ⟨adjusted.nonneg oldMS inside, le_min (nonneg oldMS inside) (Int.natCast_nonneg _)⟩
    have law := draw_law_iff pairsNonneg newNonneg (newMS.replicas.getD 0).toInt_lt desiredNonneg desired.toInt_lt
      (show surplus desired newMS oldMSs = _ by rw [map_map]; rfl)
    rw [map_map, map_map] at law
    constructor
    · intro scaledDown
      have bounds := (forall₂_bounds_iff afterNonneg).mp scaledDown.each
      have total := scaledDown.total
      rw [drawn] at bounds total
      rcases law.mp ⟨bounds, total⟩ with ⟨fits, reaches, counted⟩
      refine ⟨fits, reaches, counted.imp_right fun all oldMS member => ?_⟩
      exact all (oldMS.adjusted.toInt, oldMS.ceiling) (mem_map_of_mem member)
    · intro reaches
      have all : 0 ≤ surplus desired newMS oldMSs ∨
          ∀ pair ∈ oldMSs.map fun oldMS => (oldMS.adjusted.toInt, oldMS.ceiling), pair.2 ≤ pair.1 := by
        refine reaches.counted.imp_right fun counted pair member => ?_
        rcases mem_map.mp member with ⟨oldMS, inside, rfl⟩
        exact counted oldMS inside
      rcases law.mpr ⟨reaches.fits, reaches.reaches, all⟩ with ⟨bounds, total⟩
      refine ⟨(forall₂_bounds_iff afterNonneg).mpr ?_, ?_⟩
      · rw [drawn]
        exact bounds
      · rw [drawn]
        exact total

theorem toInt_updatedReplicaCount (fits : oldMS.remaining < 2 ^ 31) :
    (updatedReplicaCount oldMS).toInt = oldMS.remaining := by
  have split : oldMS.machines.length = oldMS.machines.countP Machine.deleting + oldMS.remaining := by
    have counted := oldMS.machines.length_eq_countP_add_countP Machine.deleting
    simpa [OldMachineSet.remaining] using counted
  have size : size = 2 ^ 32 := rfl
  rw [updatedReplicaCount, getDeletingMachineCount, split, toInt_sub, toInt_ofNat', toInt_ofNat',
    Int.bmod_sub_bmod, Int.sub_bmod_bmod]
  push_cast
  rw [add_sub_cancel_left, Int.bmod_eq_of_le] <;> omega

theorem SurplusReaches.of_remaining_le (convertible : ∀ oldMS ∈ oldMSs, oldMS.selectorAsMap = true)
    (remaining : ∀ oldMS ∈ oldMSs, 0 < oldMS.spec → oldMS.remaining ≤ oldMS.spec)
    (fits : surplus desired newMS oldMSs < 2 ^ 31) : SurplusReaches desired newMS oldMSs := by
  have same : ∀ oldMS ∈ oldMSs, oldMS.adjusted.toInt = oldMS.ceiling := by
    intro oldMS member
    have specLt := (oldMS.replicas.getD 0).toInt_lt
    rw [← MachineSet.spec] at specLt
    rw [OldMachineSet.adjusted, OldMachineSet.ceiling]
    split
    case isTrue kept =>
      rcases kept with down | unconvertible
      · rw [le_iff_toInt_le, toInt_zero] at down
        rw [← MachineSet.spec] at down ⊢
        omega
      · rw [convertible oldMS member] at unconvertible
        cases unconvertible
    case isFalse updated =>
      rw [not_or, le_iff_toInt_le, toInt_zero, ← MachineSet.spec] at updated
      have le := remaining oldMS member (by omega)
      rw [toInt_updatedReplicaCount (by omega)]
      omega
  refine ⟨fits, ?_, .inr fun oldMS member => (same oldMS member).ge⟩
  generalize surplus desired newMS oldMSs = budget
  clear fits convertible remaining
  induction oldMSs generalizing budget with
  | nil => trivial
  | cons oldMS _ ih =>
    refine ⟨.inl (same oldMS (by simp)).le, ?_⟩
    exact ih (fun later member => same later (mem_cons_of_mem _ member)) _

def undeletedMachineSet : OldMachineSet where
  name := "md-old"
  creationTimestamp := 0
  replicas := some 1
  machines := [{ name := "a", creationTimestamp := 0 }, { name := "b", creationTimestamp := 0 },
    { name := "c", creationTimestamp := 0 }]

def threeOnDelete : Deployment where
  name := "md"
  replicas := some 3
  strategyType := .onDelete

def emptyMachineSet : MachineSet where
  name := "md-new"
  creationTimestamp := 1
  replicas := some 0

/-- The MachineSet is scaled up to three replicas again. -/
theorem undeletedMachines_scaledUp :
    ∃ after, reconcileOldMachineSetsOnDelete {} threeOnDelete [undeletedMachineSet] emptyMachineSet = (after, .ok ()) ∧
      (after.map fun oldMS => oldMS.spec) = [3] ∧ ¬ ScaledDown 3 emptyMachineSet [undeletedMachineSet] after := by
  refine ⟨[{ undeletedMachineSet with disableMachineCreate := true, replicas := some 3 }], by decide +kernel,
    by decide, ?_⟩
  rintro ⟨each, -⟩
  cases each with
  | cons head => exact absurd head.2.1 (by decide)

def deletedMachineSet : OldMachineSet where
  name := "md-old"
  creationTimestamp := 0
  replicas := some 3
  machines := [{ name := "a", creationTimestamp := 0, deleting := true }, { name := "b", creationTimestamp := 0 },
    { name := "c", creationTimestamp := 0 }]

theorem deletedMachines_scaledDown :
    reconcileOldMachineSetsOnDelete {} { threeOnDelete with replicas := some 1 } [deletedMachineSet] emptyMachineSet =
        ([{ deletedMachineSet with disableMachineCreate := true, replicas := some 1 }], .ok ()) ∧
      ScaledDown 1 emptyMachineSet [deletedMachineSet]
        [{ deletedMachineSet with disableMachineCreate := true, replicas := some 1 }] := by
  have succeeded : reconcileOldMachineSetsOnDelete {} { threeOnDelete with replicas := some 1 } [deletedMachineSet]
      emptyMachineSet = ([{ deletedMachineSet with disableMachineCreate := true, replicas := some 1 }], .ok ()) := by
    decide +kernel
  refine ⟨succeeded, (reconcileOldMachineSetsOnDelete_scaledDown rfl (by decide) (by decide) (by decide) succeeded).mpr ?_⟩
  exact .of_remaining_le (by decide) (by decide) (by decide +kernel)

end ClusterApi.MachineDeployment

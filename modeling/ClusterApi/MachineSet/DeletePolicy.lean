import Mathlib.Algebra.Order.Field.Basic
import Mathlib.Data.Prod.Lex
import Mathlib.Tactic.Linarith
import ClusterApi.Foundation.Keyed
import ClusterApi.Foundation.Sorting
import ClusterApi.Machine.Conditions

namespace ClusterApi.MachineSet.DeletePolicy

open Foundation List

/-!
# Which Machines are deleted on scale down

A delete policy maps a Machine to a number, and the Machines with the highest
numbers are deleted, by name where numbers are equal.  Machines that are being
deleted, Machines with the annotation for deletion and unhealthy Machines have
numbers of their own, and the age of a healthy Machine lies below them.

The priority of an age is a parameter, for which the source takes a multiple of
`1 - exp (-age)`.
-/

structure Machine where
  name : String
  /-- Missing for the zero time. -/
  creationTimestamp : Option Int
  deleting : Bool := false
  /-- The Machine has the annotation `cluster.x-k8s.io/delete-machine`. -/
  deleteAnnotation : Bool := false
  hasNodeRef : Bool := true
  failureReason : Option String := none
  failureMessage : Option String := none
  nodeHealthy : Option Condition := none
  healthCheckSucceeded : Option Condition := none
  deriving DecidableEq

/-- An unknown condition is not held against the Machine. -/
def isMachineHealthy (machine : Machine) : Bool :=
  if !machine.hasNodeRef then false
  else if machine.failureReason.isSome || machine.failureMessage.isSome then false
  else if Conditions.isFalse machine.nodeHealthy then false
  else if Conditions.isFalse machine.healthCheckSucceeded then false
  else true

/-! ## Priorities -/

section

variable (Priority : Type) [Field Priority] [LinearOrder Priority]

/-- The priority of an age is below that of an unhealthy Machine, and grows with the age. -/
structure AgePriority where
  value : Nat → Priority
  strictMono : StrictMono value
  nonneg : ∀ age, 0 ≤ value age
  below : ∀ age, value age < 50

end

inductive Policy
  | random
  | newest
  | oldest
  /-- The policy is not set. -/
  | unset

section

variable {Priority : Type} [Field Priority] [LinearOrder Priority] (ages : AgePriority Priority) (now : Int)

def mustDelete : Priority := 100

def shouldDelete : Priority := 75

def betterDelete : Priority := 50

def couldDelete : Priority := 20

def mustNotDelete : Priority := 0

def oldestDeletePriority (machine : Machine) : Priority :=
  if machine.deleting then mustDelete
  else if machine.deleteAnnotation then shouldDelete
  else if !isMachineHealthy machine then betterDelete
  else
    match machine.creationTimestamp with
    | none => mustNotDelete
    | some created => if now - created < 0 then mustNotDelete else ages.value (now - created).toNat

def newestDeletePriority (machine : Machine) : Priority :=
  if machine.deleting then mustDelete
  else if machine.deleteAnnotation then shouldDelete
  else if !isMachineHealthy machine then betterDelete
  else betterDelete - oldestDeletePriority ages now machine

/-- The annotation counts as much as a problem of the Machine. -/
def randomDeletePolicy (machine : Machine) : Priority :=
  if machine.deleting then mustDelete
  else if machine.deleteAnnotation then betterDelete
  else if !isMachineHealthy machine then betterDelete
  else couldDelete

def Policy.priority : Policy → Machine → Priority
  | .random => randomDeletePolicy
  | .newest => newestDeletePriority ages now
  | .oldest => oldestDeletePriority ages now
  | .unset => randomDeletePolicy

/-! ## The selection -/

def less (priority : Machine → Priority) (first second : Machine) : Bool :=
  if priority first = priority second then first.name < second.name else priority second < priority first

def getMachinesToDeletePrioritized {priority : Machine → Priority} (sort : SortRoutine Machine (less priority))
    (filteredMachines : List Machine) (diff : Int) : List Machine :=
  if (filteredMachines.length : Int) ≤ diff then filteredMachines
  else if diff ≤ 0 then []
  else (sort.run filteredMachines).take diff.toNat

end

/-! ## What a selection should respect -/

/-- The classes, from the last to be deleted to the first. -/
inductive Class
  | healthy
  | unhealthy
  | annotated
  | deleting

def Class.rank : Class → Nat
  | .healthy => 0
  | .unhealthy => 1
  | .annotated => 2
  | .deleting => 3

def classOf (machine : Machine) : Class :=
  if machine.deleting then .deleting
  else if machine.deleteAnnotation then .annotated
  else if !isMachineHealthy machine then .unhealthy
  else .healthy

/-- A Machine without a creation time, or created in the future, has no age yet. -/
def age (now : Int) (machine : Machine) : Nat :=
  match machine.creationTimestamp with
  | none => 0
  | some created => (now - created).toNat

section

variable {Priority : Type} [Field Priority] [LinearOrder Priority] (ages : AgePriority Priority) (now : Int)

/-- The result of a scale down, for the Machines in some order. -/
structure RespectsPriorities (policy : Policy) (sort : SortRoutine Machine (less (policy.priority ages now)))
    (machines : Keyed Machine Machine.name) (diff : Int) : Prop where
  count : (getMachinesToDeletePrioritized sort machines.list diff).length = min (max diff 0).toNat machines.list.length
  distinct : (getMachinesToDeletePrioritized sort machines.list diff).Nodup
  fromList : ∀ machine ∈ getMachinesToDeletePrioritized sort machines.list diff, machine ∈ machines
  classes : ∀ selected ∈ getMachinesToDeletePrioritized sort machines.list diff, ∀ left ∈ machines,
    left ∉ getMachinesToDeletePrioritized sort machines.list diff → ¬ (classOf selected).rank < (classOf left).rank
  healthyByAge : ∀ selected ∈ getMachinesToDeletePrioritized sort machines.list diff, ∀ left ∈ machines,
    left ∉ getMachinesToDeletePrioritized sort machines.list diff →
      classOf selected = .healthy → classOf left = .healthy →
        (policy = .oldest → ¬ age now selected < age now left) ∧ (policy = .newest → ¬ age now left < age now selected)
  orderIndependent : ∀ (other : SortRoutine Machine (less (policy.priority ages now)))
    (permuted : List Machine), permuted.Perm machines.list →
      ∀ machine, machine ∈ getMachinesToDeletePrioritized other permuted diff ↔
        machine ∈ getMachinesToDeletePrioritized sort machines.list diff

/-- The priority of the age, which is zero for a Machine without one. -/
def agePriority (machine : Machine) : Priority :=
  match machine.creationTimestamp with
  | none => 0
  | some created => if now - created < 0 then 0 else ages.value (now - created).toNat

/-- Two classes that the policy does not tell apart, for a priority of the age in the lower one. -/
def Confuses (policy : Policy) (high low : Class) (ofAge : Priority) : Prop :=
  match high, low with
  | .annotated, .unhealthy => policy = .random ∨ policy = .unset
  | .unhealthy, .healthy => policy = .newest ∧ ofAge = 0
  | _, _ => False

omit [LinearOrder Priority] in
theorem Confuses.class_lt {policy : Policy} {high low : Class} {ofAge : Priority}
    (confused : Confuses policy high low ofAge) : low.rank < high.rank := by
  cases high <;> cases low <;> first | exact absurd confused id | decide

/-- The number of Machines that come before a Machine. -/
def position (policy : Policy) (machines : List Machine) (machine : Machine) : Nat :=
  machines.countP fun other => less (policy.priority ages now) other machine

end

/-! ## The order of the Machines -/

section

variable {Priority : Type} [LinearOrder Priority] {priority : Machine → Priority} {machine second first : Machine}

/-- The Machines are sorted by descending priority, then by name. -/
def sortKey (priority : Machine → Priority) (machine : Machine) : Priorityᵒᵈ ×ₗ String :=
  toLex (OrderDual.toDual (priority machine), machine.name)

theorem less_iff : less priority first second = true ↔ sortKey priority first < sortKey priority second := by
  rw [less, sortKey, sortKey, Prod.Lex.toLex_lt_toLex, OrderDual.toDual_lt_toDual]
  split_ifs with same
  · simp [same]
  · simp [same]

theorem less_eq_false_iff : less priority first second = false ↔ sortKey priority second ≤ sortKey priority first := by
  rw [← Bool.not_eq_true, less_iff, not_lt]

theorem less_irreflexive (machine : Machine) : less priority machine machine = false :=
  less_eq_false_iff.mpr le_rfl

theorem less_apart (machines : Keyed Machine Machine.name) :
    ∀ left ∈ machines.list, ∀ right ∈ machines.list, less priority left right = false →
      less priority right left = false → left = right := by
  intro _ leftInside _ rightInside notLess notGreater
  have same := le_antisymm (less_eq_false_iff.mp notGreater) (less_eq_false_iff.mp notLess)
  exact Keyed.eq_of_key_eq leftInside rightInside (congrArg (fun key => (ofLex key).2) same)

theorem countP_less_lt_length (priority : Machine → Priority) {machines : List Machine} (inside : machine ∈ machines) :
    machines.countP (less priority · machine) < machines.length := by
  apply lt_of_le_of_ne countP_le_length
  intro all
  have itself := countP_eq_length.mp all machine inside
  rw [less_irreflexive] at itself
  cases itself

/-- A Machine is selected if and only if few enough Machines come before it. -/
theorem mem_getMachinesToDeletePrioritized (sort : SortRoutine Machine (less priority))
    (machines : Keyed Machine Machine.name) (diff : Int) (inside : machine ∈ machines) :
    machine ∈ getMachinesToDeletePrioritized sort machines.list diff ↔
      (machines.list.countP (less priority · machine) : Int) < diff := by
  have bound := countP_less_lt_length priority (show machine ∈ machines.list from inside)
  unfold getMachinesToDeletePrioritized
  split_ifs with all nothing
  · exact iff_of_true inside (by omega)
  · exact iff_of_false not_mem_nil (by omega)
  · have distinct : machines.list.Nodup := Nodup.of_map _ machines.distinct
    rw [sort.mem_take_run less_irreflexive distinct (less_apart machines) inside]
    omega

section

variable (sort : SortRoutine Machine (less priority))

theorem subset_getMachinesToDeletePrioritized {machines : List Machine} {machine : Machine}
    (selected : machine ∈ getMachinesToDeletePrioritized sort machines diff) : machine ∈ machines := by
  unfold getMachinesToDeletePrioritized at selected
  split_ifs at selected
  · exact selected
  · cases selected
  · exact sort.mem_run.mp (mem_of_mem_take selected)

theorem nodup_getMachinesToDeletePrioritized (machines : Keyed Machine Machine.name) (diff : Int) :
    (getMachinesToDeletePrioritized sort machines.list diff).Nodup := by
  have distinct : machines.list.Nodup := Nodup.of_map _ machines.distinct
  unfold getMachinesToDeletePrioritized
  split_ifs
  · exact distinct
  · exact nodup_nil
  · exact ((sort.perm machines.list).nodup_iff.mpr distinct).sublist (take_sublist _ _)

theorem getMachinesToDeletePrioritized_perm (machines : Keyed Machine Machine.name) (diff : Int)
    (other : SortRoutine Machine (less priority)) (permuted : List Machine) (same : permuted.Perm machines.list)
    (machine : Machine) :
    machine ∈ getMachinesToDeletePrioritized other permuted diff ↔
      machine ∈ getMachinesToDeletePrioritized sort machines.list diff := by
  let reordered : Keyed Machine Machine.name := ⟨permuted, (same.map _).nodup_iff.mpr machines.distinct⟩
  by_cases inside : machine ∈ machines
  · rw [mem_getMachinesToDeletePrioritized sort machines diff inside, ← same.countP_eq]
    exact mem_getMachinesToDeletePrioritized other reordered diff (same.mem_iff.mpr inside)
  · apply iff_of_false
    · intro selected
      exact inside (same.mem_iff.mp (subset_getMachinesToDeletePrioritized other selected))
    · intro selected
      exact inside (subset_getMachinesToDeletePrioritized sort selected)

variable {sort} {diff : Int}

theorem priority_le_of_selected {machines : Keyed Machine Machine.name} {selected left : Machine}
    (isSelected : selected ∈ getMachinesToDeletePrioritized sort machines.list diff)
    (selectedInside : selected ∈ machines) (leftInside : left ∈ machines)
    (isLeft : left ∉ getMachinesToDeletePrioritized sort machines.list diff) : priority left ≤ priority selected := by
  by_contra above
  rw [mem_getMachinesToDeletePrioritized sort machines diff selectedInside] at isSelected
  rw [mem_getMachinesToDeletePrioritized sort machines diff leftInside] at isLeft
  have earlier : machines.list.countP (less priority · left) ≤ machines.list.countP (less priority · selected) := by
    apply countP_mono_left
    intro _ _ otherBefore
    exact less_iff.mpr ((less_iff.mp otherBefore).trans (Prod.Lex.left _ _ (not_le.mp above)))
  omega

end

end

/-! ## Classes and priorities -/

section

variable {Priority : Type} [Field Priority] [LinearOrder Priority] {ages : AgePriority Priority} {now : Int}

/-- The priority of a class, with the priority of the age for healthy Machines. -/
def classPriority (policy : Policy) (ofAge : Priority) : Class → Priority
  | .deleting => 100
  | .annotated =>
    match policy with
    | .oldest | .newest => 75
    | .random | .unset => 50
  | .unhealthy => 50
  | .healthy =>
    match policy with
    | .oldest => ofAge
    | .newest => 50 - ofAge
    | .random | .unset => 20

theorem priority_eq_classPriority (policy : Policy) (machine : Machine) :
    policy.priority ages now machine = classPriority policy (agePriority ages now machine) (classOf machine) := by
  have random : (randomDeletePolicy machine : Priority) = classPriority .random 0 (classOf machine) := by
    unfold randomDeletePolicy classOf
    split_ifs <;> rfl
  have oldest : oldestDeletePriority ages now machine =
      classPriority .oldest (agePriority ages now machine) (classOf machine) := by
    unfold oldestDeletePriority classOf
    split_ifs <;> rfl
  cases policy with
  | random | unset =>
    rw [Policy.priority, random]
    cases classOf machine <;> rfl
  | oldest => exact oldest
  | newest =>
    rw [Policy.priority, newestDeletePriority, oldest]
    unfold classOf
    split_ifs <;> rfl

theorem agePriority_lt_of_age_lt {first second : Machine} (younger : age now first < age now second) :
    agePriority ages now first < agePriority ages now second := by
  have atMost : agePriority ages now first ≤ ages.value (age now first) := by
    unfold agePriority age
    cases first.creationTimestamp with
    | none => exact ages.nonneg _
    | some =>
      dsimp only
      split_ifs
      · exact ages.nonneg _
      · exact le_rfl
  have exactly : agePriority ages now second = ages.value (age now second) := by
    unfold age at younger
    unfold agePriority age
    cases created : second.creationTimestamp with
    | none =>
      rw [created] at younger
      exact absurd younger (Nat.not_lt_zero _)
    | some =>
      rw [created] at younger
      dsimp only at younger ⊢
      rw [if_neg (by omega)]
  calc
    agePriority ages now first ≤ ages.value (age now first) := atMost
    _ < ages.value (age now second) := ages.strictMono younger
    _ = agePriority ages now second := exactly.symm

variable [IsStrictOrderedRing Priority] {policy : Policy}

theorem agePriority_range (ages : AgePriority Priority) (now : Int) (machine : Machine) :
    0 ≤ agePriority ages now machine ∧ agePriority ages now machine < 50 := by
  unfold agePriority
  cases machine.creationTimestamp with
  | none => norm_num
  | some =>
    dsimp only
    split_ifs
    · norm_num
    · exact ⟨ages.nonneg _, ages.below _⟩

theorem classPriority_lt {lowAge highAge : Priority} (nonneg : 0 ≤ lowAge) (below : lowAge < 50)
    {low high : Class} (above : low.rank < high.rank) (clear : ¬ Confuses policy high low lowAge) :
    classPriority policy lowAge low < classPriority policy highAge high := by
  cases high with
  | healthy => exact absurd above (Nat.not_lt_zero _)
  | unhealthy =>
    cases low with
    | healthy =>
      cases policy with
      | oldest => exact below
      | newest =>
        have positive : 0 < lowAge := lt_of_le_of_ne nonneg fun zero => clear ⟨rfl, zero.symm⟩
        exact sub_lt_self 50 positive
      | random | unset =>
        simp only [classPriority]
        norm_num
    | unhealthy | annotated | deleting => exact absurd above (by decide)
  | annotated =>
    cases low with
    | healthy => cases policy <;> simp only [classPriority] <;> linarith
    | unhealthy =>
      cases policy with
      | random => exact absurd (.inl rfl) clear
      | unset => exact absurd (.inr rfl) clear
      | oldest | newest =>
        simp only [classPriority]
        norm_num
    | annotated | deleting => exact absurd above (by decide)
  | deleting =>
    cases low with
    | deleting => exact absurd above (by decide)
    | healthy | unhealthy | annotated => cases policy <;> simp only [classPriority] <;> linarith

/-! ## The selection respects the priorities -/

variable {machines : Keyed Machine Machine.name} {selected left : Machine} {policy : Policy}
  {diff : Int} {sort : SortRoutine Machine (less (policy.priority ages now))}

/-- A scale down respects the priorities if and only if its limit does not fall between two Machines of different
classes that the policy does not tell apart. -/
theorem getMachinesToDeletePrioritized_respects_iff (policy : Policy)
    (sort : SortRoutine Machine (less (policy.priority ages now))) (machines : Keyed Machine Machine.name) (diff : Int) :
    RespectsPriorities ages now policy sort machines diff ↔
      ∀ high ∈ machines, ∀ low ∈ machines,
        Confuses policy (classOf high) (classOf low) (agePriority ages now low) →
          ¬ ((position ages now policy machines.list low : Int) < diff ∧
            diff ≤ position ages now policy machines.list high) := by
  constructor
  · rintro respects high highInside low lowInside confused ⟨lowBefore, highAfter⟩
    have lowSelected := (mem_getMachinesToDeletePrioritized sort machines diff lowInside).mpr lowBefore
    have highLeft := (mem_getMachinesToDeletePrioritized sort machines diff highInside).not.mpr (not_lt.mpr highAfter)
    exact respects.classes low lowSelected high highInside highLeft confused.class_lt
  · intro clear
    refine ⟨?_, nodup_getMachinesToDeletePrioritized sort machines diff,
      fun machine selected => subset_getMachinesToDeletePrioritized sort selected, ?_, ?_,
      getMachinesToDeletePrioritized_perm sort machines diff⟩
    · unfold getMachinesToDeletePrioritized
      split_ifs with all nothing
      · omega
      · rw [length_nil]
        omega
      · rw [length_take, (sort.perm _).length_eq]
        omega
    · intro selected isSelected left leftInside isLeft above
      have selectedInside := subset_getMachinesToDeletePrioritized sort isSelected
      by_cases confused : Confuses policy (classOf left) (classOf selected) (agePriority ages now selected)
      · apply clear left leftInside selected selectedInside confused
        rw [mem_getMachinesToDeletePrioritized sort machines diff selectedInside] at isSelected
        rw [mem_getMachinesToDeletePrioritized sort machines diff leftInside] at isLeft
        exact ⟨isSelected, not_lt.mp isLeft⟩
      · refine absurd (priority_le_of_selected isSelected selectedInside leftInside isLeft) (not_le.mpr ?_)
        have range := agePriority_range ages now selected
        rw [priority_eq_classPriority, priority_eq_classPriority]
        exact classPriority_lt range.1 range.2 above confused
    · intro selected isSelected left leftInside isLeft selectedHealthy leftHealthy
      have selectedInside := subset_getMachinesToDeletePrioritized sort isSelected
      have lower := priority_le_of_selected isSelected selectedInside leftInside isLeft
      rw [priority_eq_classPriority, priority_eq_classPriority, selectedHealthy, leftHealthy] at lower
      constructor
      · rintro rfl older
        have grows : agePriority ages now selected < agePriority ages now left := agePriority_lt_of_age_lt older
        exact absurd lower (not_le.mpr grows)
      · rintro rfl newer
        have grows : agePriority ages now left < agePriority ages now selected := agePriority_lt_of_age_lt newer
        exact absurd lower (not_le.mpr (sub_lt_sub_left grows 50))

end

/-! ## Two selections -/

section

variable {Priority : Type} [LinearOrder Priority]

def insertionSort (priority : Machine → Priority) : SortRoutine Machine (less priority) :=
  SortRoutine.insertion
    (by
      intro first second before
      exact less_eq_false_iff.mpr (less_iff.mp before).le)
    (by
      intro first second third notBefore notBefore'
      exact less_eq_false_iff.mpr ((less_eq_false_iff.mp notBefore).trans (less_eq_false_iff.mp notBefore')))

end

namespace Example

def ages : AgePriority ℚ where
  value age := 50 - 50 / (age + 1)
  strictMono := by
    intro first second younger
    have cast : (first : ℚ) < second := by exact_mod_cast younger
    have positive : (0 : ℚ) < first + 1 := by positivity
    apply sub_lt_sub_left
    apply div_lt_div_of_pos_left <;> linarith
  nonneg age := by
    have bound : (50 : ℚ) / (age + 1) ≤ 50 := div_le_self (by norm_num) (by linarith [Nat.cast_nonneg (α := ℚ) age])
    linarith
  below age := by
    have positive : (0 : ℚ) < 50 / (age + 1) := by positivity
    linarith

def healthy (name : String) (created : Option Int) : Machine := { name := name, creationTimestamp := created }

def unhealthy (name : String) : Machine := { name := name, creationTimestamp := some 0, hasNodeRef := false }

def annotated (name : String) : Machine := { name := name, creationTimestamp := some 0, deleteAnnotation := true }

def machines (first second : Machine) (different : first.name ≠ second.name) : Keyed Machine Machine.name :=
  ⟨[first, second], by simpa using different⟩

end Example

/-- An unhealthy Machine is selected before one with the annotation, and a Machine without an age before an unhealthy
one. -/
theorem getMachinesToDeletePrioritized_disrespects :
    ¬ RespectsPriorities Example.ages 10 .random (insertionSort _)
        (Example.machines (Example.annotated "b") (Example.unhealthy "a") (by decide)) 1 ∧
      ¬ RespectsPriorities Example.ages 10 .newest (insertionSort _)
        (Example.machines (Example.unhealthy "b") (Example.healthy "a" (some 20)) (by decide)) 1 := by
  constructor
  · intro respects
    exact respects.classes (Example.unhealthy "a") (by decide) (Example.annotated "b") (by exact mem_cons_self)
      (by decide) (by decide)
  · intro respects
    exact respects.classes (Example.healthy "a" (some 20)) (by decide +kernel) (Example.unhealthy "b")
      (by exact mem_cons_self) (by decide +kernel) (by decide)

/-- With the names the other way round the annotation comes first. -/
theorem getMachinesToDeletePrioritized_respects_annotation :
    RespectsPriorities Example.ages 10 .random (insertionSort _)
      (Example.machines (Example.annotated "a") (Example.unhealthy "b") (by decide)) 1 := by
  apply (getMachinesToDeletePrioritized_respects_iff ..).mpr
  have first : position Example.ages 10 .random [Example.annotated "a", Example.unhealthy "b"]
      (Example.annotated "a") = 0 := by
    decide
  rintro high highInside low lowInside confused ⟨-, highAfter⟩
  have isAnnotated : high = Example.annotated "a" := by
    rcases mem_pair.mp highInside with rfl | rfl
    · rfl
    · rcases mem_pair.mp lowInside with rfl | rfl <;> exact False.elim confused
  subst isAnnotated
  exact absurd (highAfter.trans_eq (congrArg Nat.cast first)) (by decide)

end ClusterApi.MachineSet.DeletePolicy

import Mathlib.Data.List.Sort

namespace ClusterApi.Foundation

open List Function

/-!
# Balanced places

Members are spread over places, as evenly as possible: the numbers of members
differ by at most one.  A member that joins where there are fewest keeps the
balance, and so does a member that leaves where there are most.

A member that was asked to leave may still count.  There are then two counts,
and the balance is between the members that may still be there and those that
are bound to stay.
-/

universe u

variable {Place : Type u}

/-- No place has more than one member more than the others, counting those that may be there against those that stay. -/
def Within (places : List Place) (upper lower : Place → Nat) : Prop :=
  ∀ first ∈ places, ∀ second ∈ places, upper first ≤ lower second + 1

def Balanced (places : List Place) (count : Place → Nat) : Prop := Within places count count

section

variable {places : List Place} {upper lower count : Place → Nat}

theorem Within.mono {fewer more : Place → Nat} (within : Within places upper lower)
    (below : ∀ place ∈ places, fewer place ≤ upper place) (above : ∀ place ∈ places, lower place ≤ more place) :
    Within places fewer more := by
  intro first firstInside second secondInside
  calc
    fewer first ≤ upper first := below first firstInside
    _ ≤ lower second + 1 := within first firstInside second secondInside
    _ ≤ more second + 1 := Nat.succ_le_succ (above second secondInside)

variable [DecidableEq Place] {place : Place}

theorem Balanced.join (balanced : Balanced places count) (fewest : ∀ other ∈ places, count place ≤ count other) :
    Balanced places (Function.update count place (count place + 1)) := by
  intro first firstInside second secondInside
  have apart := balanced first firstInside second secondInside
  by_cases atFirst : first = place
  · subst atFirst
    rw [update_self]
    by_cases atSecond : second = first
    · rw [atSecond, update_self]
      exact Nat.le_succ _
    · rw [update_of_ne atSecond]
      exact Nat.succ_le_succ (fewest second secondInside)
  · rw [update_of_ne atFirst]
    by_cases atSecond : second = place
    · rw [atSecond, update_self, ← atSecond]
      exact Nat.le_succ_of_le apart
    · rw [update_of_ne atSecond]
      exact apart

theorem Balanced.askToLeave (balanced : Balanced places count) (most : ∀ other ∈ places, count other ≤ count place) :
    Within places count (Function.update count place (count place - 1)) := by
  intro first firstInside second secondInside
  by_cases atSecond : second = place
  · rw [atSecond, update_self]
    have bound := most first firstInside
    omega
  · rw [update_of_ne atSecond]
    exact balanced first firstInside second secondInside

end

/-! ## Members that come and go -/

/-- How many members may be at a place, and how many of them stay. -/
structure Spread (Place : Type u) where
  counted : Place → Nat
  staying : Place → Nat

namespace Spread

variable [DecidableEq Place]

/-- A member joins, or is asked to leave, only while nobody is on the way out. -/
inductive Step (places : List Place) : Spread Place → Spread Place → Prop
  | idle {before after : Spread Place} (fewer : ∀ place ∈ places, after.counted place ≤ before.counted place)
      (same : ∀ place ∈ places, after.staying place = before.staying place) : Step places before after
  | join {count : Place → Nat} {place : Place}
      (fewest : ∀ other ∈ places, count place ≤ count other) : Step places ⟨count, count⟩
        ⟨Function.update count place (count place + 1), Function.update count place (count place + 1)⟩
  | askToLeave {count : Place → Nat} {place : Place} (most : ∀ other ∈ places, count other ≤ count place) :
      Step places ⟨count, count⟩ ⟨count, Function.update count place (count place - 1)⟩

variable {places : List Place} {before after : Spread Place}

theorem Step.within (step : Step places before after) (within : Within places before.counted before.staying) :
    Within places after.counted after.staying := by
  cases step with
  | idle fewer same => exact within.mono fewer fun place inside => (same place inside).ge
  | join fewest => exact Balanced.join within fewest
  | askToLeave most => exact Balanced.askToLeave within most

theorem Step.balanced (step : Step places before after)
    (balanced : Balanced places before.staying) : Balanced places after.staying := by
  cases step with
  | idle _ same =>
    exact Within.mono balanced (fun place inside => (same place inside).le) fun place inside => (same place inside).ge
  | join fewest => exact balanced.join fewest
  | @askToLeave count place most =>
    apply Within.mono (balanced.askToLeave most) _ fun _ _ => Nat.le_refl _
    intro other _
    dsimp only
    by_cases same : other = place
    · rw [same, update_self]
      exact Nat.sub_le _ _
    · rw [update_of_ne same]

end Spread

/-! ## The place that is picked -/

section

variable {relation : Place → Place → Prop}

theorem rel_of_find?_eq_some (reflexive : ∀ place, relation place place) {list : List Place}
    (sorted : list.Pairwise relation) {keep : Place → Bool} {place : Place} (found : list.find? keep = some place) :
    ∀ other ∈ list, keep other = true → relation place other := by
  intro other inside kept
  rcases find?_eq_some_iff_append.mp found with ⟨-, _, _, rfl, noneBefore⟩
  rw [pairwise_append, pairwise_cons] at sorted
  rw [mem_append, mem_cons] at inside
  rcases inside with early | rfl | late
  · have notKept := noneBefore other early
    rw [kept] at notKept
    cases notKept
  · exact reflexive other
  · exact sorted.2.1.1 other late

variable [DecidableRel relation] [IsTrans Place relation] [Std.Total relation] {places : List Place}

theorem rel_of_find?_insertionSort {keep : Place → Bool} {place : Place}
    (found : (places.insertionSort relation).find? keep = some place) :
    ∀ other ∈ places, keep other = true → relation place other := by
  intro other _ kept
  have reflexive : ∀ place, relation place place := fun place => (Std.Total.total place place).elim id id
  apply rel_of_find?_eq_some reflexive (pairwise_insertionSort relation places) found other _ kept
  rwa [mem_insertionSort]

theorem rel_of_head?_insertionSort {place : Place} (first : (places.insertionSort relation).head? = some place) :
    ∀ other ∈ places, relation place other := by
  intro other inside
  have found : (places.insertionSort relation).find? (fun _ => true) = some place := by
    rcases head?_eq_some_iff.mp first with ⟨_, split⟩
    rw [split, find?_cons_of_pos rfl]
  exact rel_of_find?_insertionSort found other inside rfl

end

end ClusterApi.Foundation

import Mathlib.Order.Lattice

namespace ClusterApi.Foundation

/-!
# Populations that change one member at a time

The size of a population is kept between a floor and a ceiling by a controller
that lets one member join or asks one member to leave, and does neither while a
member is on its way out.  A member that was asked to leave still counts until
it has left.
-/

structure Population where
  /-- The members that were not asked to leave. -/
  present : Nat
  leaving : Nat
  deriving DecidableEq

namespace Population

def total (population : Population) : Nat := population.present + population.leaving

/-- What may happen next. -/
inductive Step (floor ceiling : Nat) : Population → Population → Prop
  | idle (population : Population) : Step floor ceiling population population
  | join {present : Nat} (room : present < ceiling) : Step floor ceiling ⟨present, 0⟩ ⟨present + 1, 0⟩
  | askToLeave {present : Nat} (enough : floor ≤ present) : Step floor ceiling ⟨present + 1, 0⟩ ⟨present, 1⟩
  | left (present leaving : Nat) : Step floor ceiling ⟨present, leaving + 1⟩ ⟨present, leaving⟩

variable {floor ceiling : Nat} {start final : Population}

section

variable (step : Step floor ceiling start final)
include step

theorem Step.total_le : final.total ≤ max start.total ceiling := by
  cases step with
  | idle => exact le_max_left _ _
  | join | askToLeave | left =>
    simp only [total]
    omega

theorem Step.floor_le (enough : floor ≤ start.present) : floor ≤ final.present := by
  cases step with
  | idle | left => exact enough
  | join => exact Nat.le_succ_of_le enough
  | askToLeave kept => exact kept

theorem Step.leaving_le : final.leaving ≤ max start.leaving 1 := by
  cases step with
  | idle => exact le_max_left _ _
  | join => exact Nat.zero_le _
  | askToLeave => exact le_max_right _ _
  | left => exact (Nat.le_succ _).trans (le_max_left _ _)

end

/-! ## Runs -/

variable (run : Relation.ReflTransGen (Step floor ceiling) start final)
include run

theorem total_le : final.total ≤ max start.total ceiling := by
  induction run with
  | refl => exact le_max_left _ _
  | tail _ step ih => exact step.total_le.trans (max_le ih (le_max_right _ _))

theorem floor_le (enough : floor ≤ start.present) : floor ≤ final.present := by
  induction run with
  | refl => exact enough
  | tail _ step ih => exact step.floor_le ih

theorem leaving_le : final.leaving ≤ max start.leaving 1 := by
  induction run with
  | refl => exact le_max_left _ _
  | tail _ step ih => exact step.leaving_le.trans (max_le ih (le_max_right _ _))

end Population

end ClusterApi.Foundation

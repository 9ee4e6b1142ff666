import Mathlib.Data.List.Forall2
import ClusterApi.Util.Version

namespace ClusterApi.Util

open Foundation

/-!
# The order of versions with build tags

`Compare` with build tags is an order with four answers.  It orders numbers
as their parser reads them, so two numbers that do not fit into a `uint64`
are equal.
-/

/-- Numbers are equal by value, whatever their length, and other identifiers as texts. -/
def Agree (first second : String) : Prop :=
  if containsOnlyNumbers first && containsOnlyNumbers second then decimal first.toList = decimal second.toList
  else first = second

/-- Two numbers that are both parsed to the largest `uint64`. -/
def Saturated (first second : String) : Prop :=
  (containsOnlyNumbers first ∧ 2 ^ 64 - 1 ≤ decimal first.toList) ∧
    containsOnlyNumbers second ∧ 2 ^ 64 - 1 ≤ decimal second.toList

/-- What a comparison answers for the versions in the other order. -/
def swapped (result : Int) : Int := if result = -1 then 1 else if result = 1 then -1 else result

def NotAbove (result : Int) : Prop := result = -1 ∨ result = 0

section Identifiers

variable {first second third : BuildIdentifier}

theorem BuildIdentifier.compare_swap : second.compare first = swapped (first.compare second) := by
  grind [BuildIdentifier.compare, swapped]

theorem BuildIdentifier.compare_congr_left (same : first.compare second = 0) :
    first.compare third = second.compare third := by
  grind [BuildIdentifier.compare]

theorem BuildIdentifier.compare_congr_right (same : second.compare third = 0) :
    first.compare second = first.compare third := by
  grind [BuildIdentifier.compare]

theorem BuildIdentifier.compare_trans (below : first.compare second = -1)
    (below' : second.compare third = -1) : first.compare third = -1 := by
  grind [BuildIdentifier.compare]

theorem compare_newBuildIdentifier (first second : String) :
    (newBuildIdentifier first).compare (newBuildIdentifier second) = 0 ↔
      Agree first second ∨ Saturated first second := by
  have parsed : ∀ text, parseUint text = min (decimal text.toList) (2 ^ 64 - 1) := fun _ => rfl
  grind [BuildIdentifier.compare, newBuildIdentifier, Agree, Saturated]

end Identifiers

section Lists

variable {first second third : List BuildIdentifier}

theorem compareBuilds_swap :
    compareBuilds second first = swapped (compareBuilds first second) := by
  induction first generalizing second with
  | nil => cases second <;> rfl
  | cons left first ih =>
    cases second with
    | nil => rfl
    | cons right second =>
      rw [compareBuilds, compareBuilds, ih, @BuildIdentifier.compare_swap left right]
      grind [swapped]

theorem compareBuilds_eq_zero :
    compareBuilds first second = 0 ↔
      List.Forall₂ (fun left right => left.compare right = 0) first second := by
  induction first generalizing second with
  | nil => cases second <;> simp [compareBuilds]
  | cons left first ih =>
    cases second with
    | nil => simp [compareBuilds]
    | cons right second =>
      rw [compareBuilds, List.forall₂_cons, ← ih]
      split_ifs <;> simp_all

theorem compareBuilds_trans (below : NotAbove (compareBuilds first second))
    (below' : NotAbove (compareBuilds second third)) : NotAbove (compareBuilds first third) := by
  induction first generalizing second third with
  | nil => cases third <;> simp [compareBuilds, NotAbove]
  | cons left first ih =>
    cases second with
    | nil => simp [compareBuilds, NotAbove] at below
    | cons middle second =>
      cases third with
      | nil => simp [compareBuilds, NotAbove] at below'
      | cons right third =>
        -- The first pair that differs decides, on either side.
        have fromLeft := @BuildIdentifier.compare_congr_left left middle right
        have fromRight := @BuildIdentifier.compare_congr_right left middle right
        have both := @BuildIdentifier.compare_trans left middle right
        have rest := @ih second third
        grind [compareBuilds, NotAbove]

end Lists

variable {first second third : Version}

/-- What `Compare` with build tags should be. -/
structure Lawful (first second third : Version) : Prop where
  antisymmetric : compare first second withBuildTags = -1 ↔ compare second first withBuildTags = 1
  incomparable : compare first second withBuildTags = 2 ↔ compare second first withBuildTags = 2
  transitive : NotAbove (compare first second withBuildTags) → NotAbove
    (compare second third withBuildTags) → NotAbove (compare first third withBuildTags)
  equal : compare first second withBuildTags = 0 ↔
    first.compare second = 0 ∧ List.Forall₂ Agree first.build second.build

theorem compare_swap : compare second first withBuildTags = swapped (compare first second withBuildTags) := by
  have precedence : second.compare first = swapped (first.compare second) := by grind [Version.compare, swapped]
  have builds := @compareBuilds_swap (newBuildIdentifiers first.build) (newBuildIdentifiers second.build)
  grind [compare, withBuildTags, swapped]

theorem notAbove_compare :
    NotAbove (compare first second withBuildTags) ↔ first.key < second.key ∨ first.key = second.key ∧
      NotAbove (compareBuilds (newBuildIdentifiers first.build) (newBuildIdentifiers second.build)) := by
  grind [compare, withBuildTags, NotAbove, Version.compare]

theorem compare_trans (below : NotAbove (compare first second withBuildTags))
    (below' : NotAbove (compare second third withBuildTags)) : NotAbove (compare first third withBuildTags) := by
  rw [notAbove_compare] at below below' ⊢
  rcases below with below | ⟨same, builds⟩
  · rcases below' with below' | ⟨same, _⟩
    · exact .inl (below.trans below')
    · exact .inl (same ▸ below)
  · rcases below' with below' | ⟨same', builds'⟩
    · exact .inl (same ▸ below')
    · exact .inr ⟨same.trans same', compareBuilds_trans builds builds'⟩

theorem compare_eq_zero : compare first second withBuildTags = 0 ↔ first.compare second = 0 ∧
    List.Forall₂ (fun left right => Agree left right ∨ Saturated left right) first.build second.build := by
  have builds := @compareBuilds_eq_zero (newBuildIdentifiers first.build) (newBuildIdentifiers second.build)
  rw [newBuildIdentifiers, newBuildIdentifiers, List.forall₂_map_left_iff, List.forall₂_map_right_iff] at builds
  simp only [compare_newBuildIdentifier] at builds
  grind [compare, withBuildTags, newBuildIdentifiers]

/-- The laws hold exactly if no two versions of the same precedence differ only in numbers from `2 ^ 64 - 1` on. -/
theorem compare_lawful_iff (first second third : Version) :
    Lawful first second third ↔ (first.compare second = 0 →
      List.Forall₂ (fun left right => Agree left right ∨ Saturated left right) first.build second.build →
        List.Forall₂ Agree first.build second.build) := by
  constructor
  · intro lawful same agree
    exact (lawful.equal.mp (compare_eq_zero.mpr ⟨same, agree⟩)).2
  · intro separates
    refine ⟨?_, ?_, compare_trans, ?_⟩
    · rw [@compare_swap first second]
      grind [swapped]
    · rw [@compare_swap first second]
      grind [swapped]
    · rw [compare_eq_zero]
      constructor
      · rintro ⟨same, agree⟩
        exact ⟨same, separates same agree⟩
      · rintro ⟨same, agree⟩
        exact ⟨same, agree.imp fun _ _ => .inl⟩

/-- Two different numbers of twenty digits compare as equal. -/
theorem hugeBuilds_equal :
    let first := { Version.release 1 31 0 with build := ["18446744073709551616"] }
    let second := { Version.release 1 31 0 with build := ["18446744073709551617"] }
    compare first second withBuildTags = 0 ∧ ∀ third, ¬ Lawful first second third := by
  intro first second
  have same : compare first second withBuildTags = 0 := by decide +kernel
  refine ⟨same, fun _ lawful => ?_⟩
  have agree := List.forall₂_cons.mp (lawful.equal.mp same).2
  have differ : ¬ Agree "18446744073709551616" "18446744073709551617" := by
    unfold Agree
    decide +kernel
  exact differ agree.1

end ClusterApi.Util

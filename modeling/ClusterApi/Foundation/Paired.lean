import Mathlib.Data.List.Forall2

namespace ClusterApi.Foundation

/-!
# Lists paired item by item

A loop that treats the items of a list one by one leaves a list whose items
are related to the original ones.
-/

universe u v

variable {First : Type u} {Second : Type v} {firsts : List First}

theorem exists_of_mem_paired {relation : First → Second → Prop} {seconds : List Second}
    (paired : List.Forall₂ relation firsts seconds) {second : Second} (inside : second ∈ seconds) :
    ∃ first ∈ firsts, relation first second := by
  induction paired with
  | nil => cases inside
  | cons head _ ih =>
    rcases List.mem_cons.mp inside with rfl | inside
    · exact ⟨_, List.mem_cons_self, head⟩
    · rcases ih inside with ⟨first, isFirst, related⟩
      exact ⟨first, List.mem_cons_of_mem _ isFirst, related⟩

theorem paired_trans {relation : First → First → Prop} {seconds thirds : List First}
    (left : List.Forall₂ relation firsts seconds) (right : List.Forall₂ relation seconds thirds)
    (transitive : ∀ first second third, relation first second → relation second third → relation first third) :
    List.Forall₂ relation firsts thirds := by
  induction left generalizing thirds with
  | nil => exact right
  | cons head _ ih =>
    cases right with
    | cons next rest => exact .cons (transitive _ _ _ head next) (ih rest)

end ClusterApi.Foundation

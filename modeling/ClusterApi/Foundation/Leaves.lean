import ClusterApi.Foundation.MergePatch

namespace ClusterApi.Foundation

open List

/-!
# Leaves of documents

A document is told, up to the order of its fields, by its leaves: the values
that are no object and the objects without fields, each with its path.
-/

/-- A part of the path, behind the one in front, meets the condition. -/
def hits (condition : List String → Bool) (front : List String) : List String → Bool
  | [] => false
  | key :: rest => condition (front ++ [key]) || hits condition (front ++ [key]) rest

theorem hits_iff {condition : List String → Bool} {front path : List String} :
    hits condition front path = true ↔ ∃ part, part ≠ [] ∧ part <+: path ∧ condition (front ++ part) = true := by
  induction path generalizing front with
  | nil => simp [hits]
  | cons key _ ih =>
    rw [hits, Bool.or_eq_true, ih]
    constructor
    · rintro (hit | ⟨part, _, isPart, hit⟩)
      · exact ⟨[key], cons_ne_nil _ _, cons_prefix_cons.mpr ⟨rfl, nil_prefix⟩, hit⟩
      · refine ⟨key :: part, cons_ne_nil _ _, cons_prefix_cons.mpr ⟨rfl, isPart⟩, ?_⟩
        rwa [append_assoc, singleton_append] at hit
    · rintro ⟨part, nonempty, isPart, hit⟩
      rcases part with _ | ⟨_, part⟩
      · exact absurd rfl nonempty
      · rcases cons_prefix_cons.mp isPart with ⟨rfl, isRest⟩
        rcases part with _ | ⟨next, part⟩
        · exact .inl hit
        · refine .inr ⟨next :: part, cons_ne_nil _ _, isRest, ?_⟩
          rwa [append_assoc, singleton_append]

mutual

def Json.leaves : Json → List (List String × Json)
  | .scalar text => [([], .scalar text)]
  | .object fields => if fields = .nil then [([], .object .nil)] else fields.leaves

def Fields.leaves : Fields → List (List String × Json)
  | .nil => []
  | .cons key value rest => (value.leaves.map fun leaf => (key :: leaf.1, leaf.2)) ++ rest.leaves

end

theorem Fields.leaves_eq_nil : ∀ {fields : Fields}, fields.leaves = [] → fields = .nil
  | .nil, _ => rfl
  | .cons _ (.scalar _) _, empty => by simp [leaves, Json.leaves] at empty
  | .cons _ (.object nested) _, empty => by
      simp only [leaves, Json.leaves, List.append_eq_nil_iff, List.map_eq_nil_iff] at empty
      split_ifs at empty with isNil
      · cases empty.1
      · exact absurd (leaves_eq_nil empty.1) isNil

theorem Fields.path_ne_nil {leaf : List String × Json} : ∀ {fields : Fields}, leaf ∈ fields.leaves → leaf.1 ≠ []
  | .cons _ _ _, inside => by
      rcases List.mem_append.mp inside with here | behind
      · rcases List.mem_map.mp here with ⟨_, _, rfl⟩
        exact List.cons_ne_nil _ _
      · exact path_ne_nil behind

theorem Json.leaves_ne_nil : ∀ value : Json, value.leaves ≠ []
  | .scalar text => List.cons_ne_nil _ _
  | .object fields => by
      rw [leaves]
      split_ifs with isNil
      · exact List.cons_ne_nil _ _
      · exact fun empty => isNil (Fields.leaves_eq_nil empty)

end ClusterApi.Foundation

import Mathlib.Data.Set.Finite.List
import Mathlib.Data.Fintype.Order

namespace ClusterApi.Foundation.Layering

open List

/-!
# Layering items by their prerequisites

Items are named by keys and need other keys.  A layering grows by whole
layers: the next layer has exactly the items that are not placed yet and
whose needs are all placed.  The order inside a layer is left open.

Nothing is assumed about the needs: they may name no item at all, or be
circular.  Such items are never placed, and nothing else is left out.
-/

universe u v

variable {α : Type u} {κ : Type v} (key : α → κ) (needs : α → List κ)

/-- The keys of the layers, in their order. -/
def placed (layers : List (List α)) : List κ := layers.flatten.map key

/-- The item is not placed, and all its needs are. -/
def Ready (layers : List (List α)) (item : α) : Prop :=
  key item ∉ placed key layers ∧ ∀ need ∈ needs item, need ∈ placed key layers

/-- The layers have been taken one after the other, each as a whole. -/
inductive Grown (items : List α) : List (List α) → Prop
  | nil : Grown items []
  | snoc {layers : List (List α)} {layer : List α} (grown : Grown items layers)
      (distinct : (layer.map key).Nodup)
      (exact : ∀ item, item ∈ layer ↔ item ∈ items ∧ Ready key needs layers item)
      (nonempty : layer ≠ []) : Grown items (layers ++ [layer])

/-- No further layer can be taken. -/
def Stuck (items : List α) (layers : List (List α)) : Prop :=
  ∀ item ∈ items, ¬ Ready key needs layers item

/-- One item is needed by the other. -/
def Before (items : List α) (first second : α) : Prop :=
  first ∈ items ∧ second ∈ items ∧ key first ∈ needs second

/-- All needs are items, and no item needs itself, directly or indirectly. -/
structure Grounded (items : List α) : Prop where
  known : ∀ item ∈ items, ∀ need ∈ needs item, need ∈ items.map key
  acyclic : ∀ item, ¬ Relation.TransGen (Before key needs items) item item

variable {key needs} {items : List α} {layers : List (List α)}

@[simp]
theorem placed_nil : placed key ([] : List (List α)) = [] := rfl

@[simp]
theorem placed_snoc (layers : List (List α)) (layer : List α) :
    placed key (layers ++ [layer]) = placed key layers ++ layer.map key := by
  simp [placed]

namespace Grown

variable (grown : Grown key needs items layers) {item : α}
include grown

theorem mem_items (member : item ∈ layers.flatten) : item ∈ items := by
  induction grown with
  | nil => exact absurd member not_mem_nil
  | snoc _ _ exact _ ih =>
    rw [flatten_concat, mem_append] at member
    rcases member with earlier | last
    · exact ih earlier
    · exact ((exact item).mp last).1

theorem nodup_placed : (placed key layers).Nodup := by
  induction grown with
  | nil => exact nodup_nil
  | snoc _ distinct exact _ ih =>
    rw [placed_snoc]
    refine ih.append distinct fun name earlier last => ?_
    rcases mem_map.mp last with ⟨item, member, rfl⟩
    exact ((exact item).mp member).2.1 earlier

theorem countP_eq_one [DecidableEq α] (member : item ∈ layers.flatten) :
    layers.countP (fun layer => item ∈ layer) = 1 := by
  have nodup := Nodup.of_map key grown.nodup_placed
  clear grown
  induction layers with
  | nil => exact absurd member not_mem_nil
  | cons layer rest ih =>
    rw [flatten_cons, nodup_append'] at nodup
    rw [flatten_cons, mem_append] at member
    rcases member with first | later
    · have none : rest.countP (fun layer => item ∈ layer) = 0 := by
        rw [countP_eq_zero]
        intro other otherMember inOther
        exact nodup.2.2 first (mem_flatten.mpr ⟨other, otherMember, by simpa using inOther⟩)
      simp [first, none]
    · have absent : item ∉ layer := fun first => nodup.2.2 first later
      simp [absent, ih later nodup.2.1]

theorem needs_earlier {earlier later : List (List α)} {layer : List α} (split : layers = earlier ++ layer :: later)
    (member : item ∈ layer) : ∀ need ∈ needs item, need ∈ placed key earlier := by
  induction grown generalizing later with
  | nil => exact absurd split (by simp)
  | snoc _ _ exact _ ih =>
    rcases eq_nil_or_concat later with last | ⟨_, _, more⟩
    · subst last
      rcases append_inj' split rfl with ⟨same, layerSame⟩
      rw [← same]
      rw [← singleton_inj.mp layerSame] at member
      exact ((exact item).mp member).2.2
    · rw [more, concat_eq_append, ← cons_append, ← append_assoc] at split
      exact ih (append_inj' split rfl).1

theorem length_le_placed : layers.length ≤ (placed key layers).length := by
  induction grown with
  | nil => exact Nat.le_refl _
  | snoc _ _ _ nonempty =>
    have positive := length_pos_iff.mpr nonempty
    simp only [length_append, length_singleton, placed_snoc, length_map]
    omega

theorem placed_subset : placed key layers ⊆ items.map key :=
  map_subset key fun _ member => grown.mem_items member

theorem length_le : layers.length ≤ items.length := by
  have fewer := (grown.nodup_placed.subperm grown.placed_subset).length_le
  rw [length_map] at fewer
  exact grown.length_le_placed.trans fewer

theorem mem_flatten_of_placed (distinct : (items.map key).Nodup) (member : item ∈ items)
    (isPlaced : key item ∈ placed key layers) : item ∈ layers.flatten := by
  rcases mem_map.mp isPlaced with ⟨other, otherPlaced, same⟩
  rwa [← inj_on_of_nodup_map distinct (grown.mem_items otherPlaced) member same]

theorem acc_of_mem (distinct : (items.map key).Nodup) : ∀ item ∈ layers.flatten, Acc (Before key needs items) item := by
  induction grown with
  | nil => exact fun item member => absurd member not_mem_nil
  | snoc grown _ exact _ ih =>
    intro item member
    rw [flatten_concat, mem_append] at member
    rcases member with earlier | last
    · exact ih item earlier
    · constructor
      rintro first ⟨firstItem, _, needed⟩
      have isPlaced := ((exact item).mp last).2.2 _ needed
      exact ih first (grown.mem_flatten_of_placed distinct firstItem isPlaced)

end Grown

theorem not_rel_self_of_acc {relation : α → α → Prop} {item : α} (accessible : Acc relation item) :
    ¬ relation item item := by
  induction accessible with
  | intro item _ ih => exact fun self => ih item self self

theorem Grounded.wellFounded (grounded : Grounded key needs items) :
    WellFounded fun first second : {item // item ∈ items} =>
      Relation.TransGen (Before key needs items) first.1 second.1 := by
  have : Finite {item // item ∈ items} := items.finite_toSet
  have : Std.Irrefl fun first second : {item // item ∈ items} =>
      Relation.TransGen (Before key needs items) first.1 second.1 := ⟨fun item => grounded.acyclic item.1⟩
  exact Finite.wellFounded_of_trans_of_irrefl _

theorem placed_of_grounded (grounded : Grounded key needs items) (stuck : Stuck key needs items layers) :
    ∀ item : {item // item ∈ items}, key item.1 ∈ placed key layers := by
  intro item
  induction item using grounded.wellFounded.induction with
  | _ item ih =>
    by_contra unplaced
    refine stuck item.1 item.2 ⟨unplaced, fun need needed => ?_⟩
    rcases mem_map.mp (grounded.known item.1 item.2 need needed) with ⟨first, firstItem, rfl⟩
    exact ih ⟨first, firstItem⟩ (.single ⟨firstItem, item.2, needed⟩)

theorem complete_iff_grounded (grown : Grown key needs items layers) (stuck : Stuck key needs items layers)
    (distinct : (items.map key).Nodup) : (∀ item ∈ items, item ∈ layers.flatten) ↔ Grounded key needs items := by
  constructor
  · intro complete
    refine ⟨fun item member need needed => ?_, fun item cycle => ?_⟩
    · rcases mem_flatten.mp (complete item member) with ⟨layer, layerMember, inLayer⟩
      rcases append_of_mem layerMember with ⟨_, _, split⟩
      have isPlaced := grown.needs_earlier split inLayer need needed
      apply grown.placed_subset
      rw [split]
      simp only [placed, flatten_append, map_append, mem_append]
      exact .inl isPlaced
    · have inItems : item ∈ items := by
        rcases Relation.TransGen.tail'_iff.mp cycle with ⟨_, _, last⟩
        exact last.2.1
      have accessible := grown.acc_of_mem distinct item (complete item inItems)
      exact not_rel_self_of_acc accessible.transGen cycle
  · intro grounded item member
    exact grown.mem_flatten_of_placed distinct member (placed_of_grounded grounded stuck ⟨item, member⟩)

end ClusterApi.Foundation.Layering

import Mathlib

namespace ClusterApi.Foundation

open List

/-!
# Spending a budget along a list

Items are visited in order, and from each one as much is taken as it has and
the budget still allows.  Loops that scale a sequence of objects down until an
allowance is used up all have this shape; they differ in what an item has to
give and in what taking from it means.
-/

variable {Item : Type*}

/-- Take from every item what it has, until the budget is spent. -/
def spend (capacity : Item → Int) (take : Item → Int → Item) : Int → List Item → List Item
  | _, [] => []
  | budget, item :: rest =>
    take item (min (capacity item) budget) ::
      spend capacity take (budget - min (capacity item) budget) rest

variable {capacity : Item → Int} {take : Item → Int → Item} {items : List Item}

@[simp]
theorem spend_nil (budget : Int) : spend capacity take budget [] = [] := rfl

theorem spend_cons (budget : Int) (item : Item) (rest : List Item) :
    spend capacity take budget (item :: rest) =
      take item (min (capacity item) budget) ::
        spend capacity take (budget - min (capacity item) budget) rest := rfl

theorem spend_zero (unchanged : ∀ item, take item 0 = item)
    (nonneg : ∀ item ∈ items, 0 ≤ capacity item) : spend capacity take 0 items = items := by
  induction items with
  | nil => rfl
  | cons _ _ ih =>
    rcases forall_mem_cons.mp nonneg with ⟨headNonneg, restNonneg⟩
    rw [spend_cons, min_eq_right headNonneg, sub_zero, unchanged, ih restNonneg]

theorem sum_capacity_nonneg (nonneg : ∀ item ∈ items, 0 ≤ capacity item) : 0 ≤ (items.map capacity).sum := by
  apply sum_nonneg
  intro _ member
  rcases mem_map.mp member with ⟨item, inside, rfl⟩
  exact nonneg item inside

theorem sum_spend {value : Item → Int} (taken : ∀ item amount, value (take item amount) = value item - amount)
    {items : List Item} (nonneg : ∀ item ∈ items, 0 ≤ capacity item) {budget : Int} (budgetNonneg : 0 ≤ budget) :
    ((spend capacity take budget items).map value).sum =
      (items.map value).sum - min (items.map capacity).sum budget := by
  induction items generalizing budget with
  | nil =>
    rw [spend_nil, map_nil, map_nil, sum_nil]
    omega
  | cons _ _ ih =>
    rcases forall_mem_cons.mp nonneg with ⟨_, restNonneg⟩
    have sumNonneg := sum_capacity_nonneg restNonneg
    simp only [spend_cons, map_cons, sum_cons, taken]
    rw [ih restNonneg (by omega)]
    omega

/-! ## Drawing on numbers -/

/-- Draw on numbers until the budget is spent.  A negative budget draws nothing. -/
def draw (budget : Int) (amounts : List Int) : List Int := spend id (fun amount taken => amount - taken) (max budget 0) amounts

@[simp]
theorem draw_nil (budget : Int) : draw budget [] = [] := rfl

theorem draw_cons {amount : Int} (nonneg : 0 ≤ amount) (budget : Int) (rest : List Int) :
    draw budget (amount :: rest) = (amount - min amount (max budget 0)) :: draw (budget - amount) rest := by
  have left : max budget 0 - min amount (max budget 0) = max (budget - amount) 0 := by omega
  rw [draw, spend_cons, id_eq, left]
  rfl

section

variable {amounts : List Int} (nonneg : ∀ amount ∈ amounts, 0 ≤ amount)
include nonneg

theorem draw_of_nonpos {budget : Int} (spent : budget ≤ 0) : draw budget amounts = amounts := by
  rw [draw, max_eq_right spent]
  exact spend_zero (fun amount => sub_zero amount) nonneg

theorem sum_draw (budget : Int) : (draw budget amounts).sum = amounts.sum - min amounts.sum (max budget 0) := by
  have drawn := @sum_spend Int id (fun amount taken => amount - taken) id
    (fun _ _ => rfl) amounts nonneg (max budget 0) (le_max_right budget 0)
  rw [map_id, map_id] at drawn
  exact drawn

theorem draw_nonneg (budget : Int) : ∀ amount ∈ draw budget amounts, 0 ≤ amount := by
  induction amounts generalizing budget with
  | nil => simp
  | cons _ _ ih =>
    rcases forall_mem_cons.mp nonneg with ⟨headNonneg, restNonneg⟩
    rw [draw_cons headNonneg]
    refine forall_mem_cons.mpr ⟨?_, ih restNonneg _⟩
    omega

end

/-- The budget, spent along the list, lowers every amount to its ceiling. -/
def Reaches : Int → List (Int × Int) → Prop
  | _, [] => True
  | budget, (amount, ceiling) :: rest => (amount ≤ ceiling ∨ amount - ceiling ≤ budget) ∧ Reaches (budget - amount) rest

theorem draw_le_iff {pairs : List (Int × Int)} (nonneg : ∀ pair ∈ pairs, 0 ≤ pair.1 ∧ 0 ≤ pair.2) (budget : Int) :
    Forall₂ (· ≤ ·) (draw budget (pairs.map Prod.fst)) (pairs.map Prod.snd) ↔ Reaches budget pairs := by
  induction pairs generalizing budget with
  | nil => exact ⟨fun _ => trivial, fun _ => .nil⟩
  | cons pair _ ih =>
    rcases forall_mem_cons.mp nonneg with ⟨⟨amountNonneg, _⟩, restNonneg⟩
    rw [map_cons, map_cons, draw_cons amountNonneg, forall₂_cons, ih restNonneg, Reaches]
    have head : pair.1 - min pair.1 (max budget 0) ≤ pair.2 ↔ pair.1 ≤ pair.2 ∨ pair.1 - pair.2 ≤ budget := by omega
    rw [head]

end ClusterApi.Foundation

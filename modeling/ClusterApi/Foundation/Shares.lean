import ClusterApi.Foundation.Greedy
import ClusterApi.Foundation.Loops

namespace ClusterApi.Foundation

open List

/-!
# Shares of a budget

The entries of a list ask for a share of a budget, and a share may be negative.
They are served in order: each gets its share, or what the budget still has,
and nothing once the budget is used up.  What is left in the end goes to the
first entry, on top of its share.
-/

/-- What each entry gets. -/
def grants : Int → List Int → List Int
  | _, [] => []
  | budget, share :: rest =>
    let grant := if budget = 0 then 0 else min share budget
    grant :: grants (budget - grant) rest

@[simp]
theorem grants_nil (budget : Int) : grants budget [] = [] := rfl

variable {budget : Int} {shares : List Int}

theorem grants_cons_of_pos (positive : 0 < budget) (share : Int) (rest : List Int) :
    grants budget (share :: rest) = min share budget :: grants (budget - min share budget) rest := by
  rw [grants, if_neg positive.ne']

theorem grants_zero (shares : List Int) : grants 0 shares = List.replicate shares.length 0 := by
  induction shares with
  | nil => rfl
  | cons _ _ ih =>
    rw [grants, if_pos rfl, sub_zero, ih, length_cons, replicate_succ]

theorem eq_zero_of_mem_grants_zero {grant : Int} (inside : grant ∈ grants 0 shares) : grant = 0 := by
  rw [grants_zero] at inside
  exact (mem_replicate.mp inside).2

theorem sum_grants_zero (shares : List Int) : (grants 0 shares).sum = 0 := by
  rw [grants_zero]
  exact sum_eq_zero fun grant inside => (mem_replicate.mp inside).2

@[simp]
theorem length_grants (budget : Int) (shares : List Int) : (grants budget shares).length = shares.length := by
  induction shares generalizing budget with
  | nil => rfl
  | cons _ _ ih => rw [grants, length_cons, length_cons, ih]

theorem sum_grants_le (nonneg : 0 ≤ budget) (shares : List Int) : (grants budget shares).sum ≤ budget := by
  induction shares generalizing budget with
  | nil => exact nonneg
  | cons share _ ih =>
    rcases nonneg.eq_or_lt with rfl | positive
    · exact (sum_grants_zero _).le
    · have left : 0 ≤ budget - min share budget := by omega
      have later := ih left
      rw [grants_cons_of_pos positive, sum_cons]
      omega

theorem grants_eq_of_sum_lt (nonneg : 0 ≤ budget) (left : (grants budget shares).sum < budget) :
    grants budget shares = shares := by
  induction shares generalizing budget with
  | nil => rfl
  | cons share rest ih =>
    rcases nonneg.eq_or_lt with rfl | positive
    · rw [sum_grants_zero] at left
      omega
    · rw [grants_cons_of_pos positive, sum_cons] at left
      have laterLeft : (grants (budget - min share budget) rest).sum < budget - min share budget := by omega
      have nonempty : budget - min share budget ≠ 0 := by
        intro usedUp
        rw [usedUp, sum_grants_zero] at laterLeft
        omega
      have full : min share budget = share := by omega
      rw [grants_cons_of_pos positive, ih (by omega) laterLeft, full]

theorem grants_eq_of_sum_le (nonneg : ∀ share ∈ shares, 0 ≤ share) (fits : shares.sum ≤ budget) :
    grants budget shares = shares := by
  induction shares generalizing budget with
  | nil => rfl
  | cons share rest ih =>
    rcases forall_mem_cons.mp nonneg with ⟨_, restNonneg⟩
    rw [sum_cons] at fits
    have restSum : 0 ≤ rest.sum := sum_nonneg restNonneg
    have full : (if budget = 0 then 0 else min share budget) = share := by
      split_ifs <;> omega
    rw [grants, full, ih restNonneg (by omega)]

/-! ## Who loses -/

/-- No share is negative unless the shares before it have used up the budget. -/
def Orderly (budget : Int) (shares : List Int) : Prop :=
  ∀ before share after, shares = before ++ share :: after →
    share < 0 → ∃ part, part <+: before ∧ budget ≤ part.sum

theorem Orderly.of_nonpos (usedUp : budget ≤ 0) (shares : List Int) : Orderly budget shares := by
  intro _ _ _ _ _
  exact ⟨[], nil_prefix, by simpa using usedUp⟩

theorem Orderly.of_nonneg (nonneg : ∀ share ∈ shares, 0 ≤ share) : Orderly budget shares := by
  intro before share _ split negative
  have inside : share ∈ shares := split ▸ mem_append_right before mem_cons_self
  exact absurd (nonneg share inside) negative.not_ge

theorem orderly_cons {share : Int} {rest : List Int} (positive : 0 < budget) :
    Orderly budget (share :: rest) ↔ 0 ≤ share ∧ Orderly (budget - share) rest := by
  have atFront : (share < 0 → ∃ part : List Int, part <+: [] ∧ budget ≤ part.sum) ↔ 0 ≤ share := by
    simp only [prefix_nil, exists_eq_left, sum_nil]
    omega
  have later : ∀ before : List Int,
      (∃ part, part <+: share :: before ∧ budget ≤ part.sum) ↔
        ∃ part, part <+: before ∧ budget - share ≤ part.sum := by
    intro _
    simp only [prefix_cons_iff, or_and_right, exists_or, exists_eq_left, sum_nil]
    rw [or_iff_right (by omega)]
    constructor
    · rintro ⟨_, ⟨part, rfl, inFront⟩, reached⟩
      rw [sum_cons] at reached
      exact ⟨part, inFront, by omega⟩
    · rintro ⟨part, inFront, _⟩
      refine ⟨share :: part, ⟨part, rfl, inFront⟩, ?_⟩
      rw [sum_cons]
      omega
  unfold Orderly
  rw [forall_split_cons, atFront]
  simp only [later]

theorem grants_nonneg_iff (nonneg : 0 ≤ budget) (shares : List Int) :
    (∀ grant ∈ grants budget shares, 0 ≤ grant) ↔ Orderly budget shares := by
  induction shares generalizing budget with
  | nil => exact iff_of_true (fun _ inside => nomatch inside) (Orderly.of_nonneg fun _ inside => nomatch inside)
  | cons share rest ih =>
    rcases nonneg.eq_or_lt with rfl | positive
    · exact iff_of_true (fun grant inside => (eq_zero_of_mem_grants_zero inside).ge) (Orderly.of_nonpos le_rfl _)
    · rw [grants_cons_of_pos positive, forall_mem_cons, orderly_cons positive]
      rcases le_or_gt share budget with fits | exceeds
      · rw [min_eq_left fits, ih (by omega)]
      · have usedUp : Orderly (budget - share) rest := Orderly.of_nonpos (by omega) rest
        rw [min_eq_right exceeds.le, sub_self]
        refine iff_of_true ⟨nonneg, ?_⟩ ⟨by omega, usedUp⟩
        intro _ inside
        exact (eq_zero_of_mem_grants_zero inside).ge

/-- The shares are orderly, or the first one alone is negative and the others fit into the budget. -/
def Fair (budget : Int) (first : Int) (rest : List Int) : Prop :=
  Orderly budget (first :: rest) ∨ first < 0 ∧ (∀ share ∈ rest, 0 ≤ share) ∧ rest.sum ≤ budget

/-- What the later entries get is nowhere negative, and leaves something of the budget for the first one,
exactly if the shares are fair. -/
theorem fair_iff (positive : 0 < budget) (first : Int) (rest : List Int) :
    (∀ grant ∈ grants (budget - min first budget) rest, 0 ≤ grant) ∧
        (grants (budget - min first budget) rest).sum ≤ budget ↔
      Fair budget first rest := by
  have left : 0 ≤ budget - min first budget := by omega
  have bound := sum_grants_le left rest
  rcases lt_or_ge first 0 with negative | nonneg
  · have notOrderly : ¬ Orderly budget (first :: rest) := by
      rw [orderly_cons positive]
      omega
    have share : min first budget = first := by omega
    constructor
    · rintro ⟨grantsNonneg, fits⟩
      rw [grants_eq_of_sum_lt left (by omega)] at grantsNonneg fits
      exact .inr ⟨negative, grantsNonneg, fits⟩
    · rintro (orderly | ⟨_, sharesNonneg, fits⟩)
      · exact absurd orderly notOrderly
      · rw [grants_eq_of_sum_le sharesNonneg (by omega)]
        exact ⟨sharesNonneg, fits⟩
  · have grantsNonneg := grants_nonneg_iff positive.le (first :: rest)
    rw [grants_cons_of_pos positive, forall_mem_cons] at grantsNonneg
    constructor
    · rintro ⟨restNonneg, _⟩
      exact .inl (grantsNonneg.mp ⟨by omega, restNonneg⟩)
    · rintro (orderly | ⟨_, _⟩)
      · exact ⟨(grantsNonneg.mpr orderly).2, by omega⟩
      · omega

/-! ## Who gives more than there is -/

variable {Item : Type*} {share size : Item → Int} {items : List Item}

theorem grants_le_of_share_le (sizeNonneg : ∀ item ∈ items, 0 ≤ size item)
    (shareLe : ∀ item ∈ items, share item ≤ size item) :
    Forall₂ (fun item grant => grant ≤ size item) items (grants budget (items.map share)) := by
  induction items generalizing budget with
  | nil => exact .nil
  | cons _ _ ih =>
    rcases forall_mem_cons.mp sizeNonneg with ⟨_, restSize⟩
    rcases forall_mem_cons.mp shareLe with ⟨_, restShare⟩
    apply Forall₂.cons
    · split_ifs <;> omega
    · exact ih restSize restShare

theorem bearable_of_nonpos {left : Int} (usedUp : left ≤ 0)
    (sharePos : ∀ item ∈ items, 0 < share item) (sizeNonneg : ∀ item ∈ items, 0 ≤ size item) :
    ∀ before item after, items = before ++ item :: after →
      share item ≤ size item ∨ left - (before.map share).sum ≤ size item := by
  intro _ item _ split
  rw [split, forall_mem_append] at sharePos sizeNonneg
  have spent := sum_capacity_nonneg fun earlier inside => (sharePos.1 earlier inside).le
  have bearable := sizeNonneg.2 item mem_cons_self
  exact .inr (by omega)

theorem grants_le_iff (nonneg : 0 ≤ budget) (sharePos : ∀ item ∈ items, 0 < share item)
    (sizeNonneg : ∀ item ∈ items, 0 ≤ size item) :
    Forall₂ (fun item grant => grant ≤ size item) items (grants budget (items.map share)) ↔
      ∀ before item after, items = before ++ item :: after →
        share item ≤ size item ∨ budget - (before.map share).sum ≤ size item := by
  induction items generalizing budget with
  | nil => exact iff_of_true .nil (fun before _ _ split => by cases before <;> cases split)
  | cons item rest ih =>
    rcases forall_mem_cons.mp sharePos with ⟨_, restShare⟩
    rcases forall_mem_cons.mp sizeNonneg with ⟨_, restSize⟩
    rw [map_cons, forall_split_cons]
    simp only [map_nil, sum_nil, sub_zero, map_cons, sum_cons, ← sub_sub]
    rcases le_or_gt (share item) budget with fits | exceeds
    · rw [grants_cons_of_pos (by omega), min_eq_left fits, forall₂_cons,
        ih (by omega) restShare restSize]
      exact and_congr_left fun _ => by omega
    · have usedUp : grants budget (share item :: rest.map share) = budget :: grants 0 (rest.map share) := by
        rcases nonneg.eq_or_lt with rfl | positive
        · rw [grants, if_pos rfl, sub_zero]
        · rw [grants_cons_of_pos positive, min_eq_right exceeds.le, sub_self]
      have restServed := (ih le_rfl restShare restSize).mpr
        (bearable_of_nonpos le_rfl restShare restSize)
      have restLeft := bearable_of_nonpos (Int.sub_nonpos_of_le exceeds.le) restShare restSize
      rw [usedUp, forall₂_cons, and_iff_left restServed, and_iff_left restLeft]
      omega

theorem grants_tail_le_iff (budget : Int) (first : Item) {rest : List Item}
    (sharePos : ∀ item ∈ rest, 0 < share item) (sizeNonneg : ∀ item ∈ rest, 0 ≤ size item) :
    Forall₂ (fun item grant => grant ≤ size item) rest
        (grants (budget - min (share first) budget) (rest.map share)) ↔
      ∀ before item after, rest = before ++ item :: after →
        share item ≤ size item ∨ budget - ((first :: before).map share).sum ≤ size item := by
  rw [grants_le_iff (by omega) sharePos sizeNonneg]
  simp only [map_cons, sum_cons, ← sub_sub]
  rcases le_or_gt (share first) budget with fits | exceeds
  · rw [min_eq_left fits]
  · rw [min_eq_right exceeds.le, sub_self]
    exact iff_of_true (bearable_of_nonpos le_rfl sharePos sizeNonneg)
      (bearable_of_nonpos (Int.sub_nonpos_of_le exceeds.le) sharePos sizeNonneg)

end ClusterApi.Foundation

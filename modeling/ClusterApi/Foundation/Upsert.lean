import Mathlib.Data.List.Basic

namespace ClusterApi.Foundation

open List

/-!
# The first match of a list

A list that stands for a table is read by its first match, and written by
changing the first match in place, or at the end if there is none.
-/

universe u

variable {Row : Type u}

/-- Change the first match; without a match a new row is added. -/
def upsert (isMatch : Row → Bool) (change : Option Row → Row) : List Row → List Row
  | [] => [change none]
  | row :: rest => if isMatch row then change (some row) :: rest else row :: upsert isMatch change rest

variable {isMatch : Row → Bool} {change : Option Row → Row}

theorem find?_upsert (keepsMatch : ∀ old, isMatch (change old) = true) (rows : List Row) :
    (upsert isMatch change rows).find? isMatch = some (change (rows.find? isMatch)) := by
  induction rows with
  | nil => rw [upsert, find?_cons_of_pos (keepsMatch none), find?_nil]
  | cons _ _ ih =>
    rw [upsert]
    split_ifs with here
    · rw [find?_cons_of_pos (keepsMatch _), find?_cons_of_pos here]
    · rw [find?_cons_of_neg here, find?_cons_of_neg here, ih]

theorem find?_upsert_of_disjoint {other : Row → Bool} (disjoint : ∀ row, isMatch row = true → other row = false)
    (unmatched : ∀ old, other (change old) = false) (rows : List Row) :
    (upsert isMatch change rows).find? other = rows.find? other := by
  have skipped : ∀ old rest, find? other (change old :: rest) = find? other rest := by
    intro old rest
    exact find?_cons_of_neg (Bool.eq_false_iff.mp (unmatched old))
  induction rows with
  | nil => rw [upsert, skipped]
  | cons row _ ih =>
    rw [upsert]
    split_ifs with here
    · rw [skipped, find?_cons_of_neg (Bool.eq_false_iff.mp (disjoint row here))]
    · by_cases found : other row = true
      · rw [find?_cons_of_pos found, find?_cons_of_pos found]
      · rw [find?_cons_of_neg found, find?_cons_of_neg found, ih]

/-! ## Taking the first match out -/

theorem filter_eraseP {kept : Row → Bool} (disjoint : ∀ row, isMatch row = true → kept row = false)
    (rows : List Row) : (rows.eraseP isMatch).filter kept = rows.filter kept := by
  induction rows with
  | nil => rfl
  | cons row _ ih =>
    by_cases here : isMatch row = true
    · rw [eraseP_cons_of_pos here, filter_cons_of_neg (Bool.eq_false_iff.mp (disjoint row here))]
    · rw [eraseP_cons_of_neg here, filter_cons, filter_cons, ih]

theorem any_eraseP_eq_false_iff (rows : List Row) :
    (rows.eraseP isMatch).any isMatch = false ↔ rows.countP isMatch ≤ 1 := by
  induction rows with
  | nil => simp
  | cons row _ ih =>
    by_cases here : isMatch row = true
    · rw [eraseP_cons_of_pos here, countP_cons_of_pos here, any_eq_false, ← countP_eq_zero]
      omega
    · rw [eraseP_cons_of_neg here, countP_cons_of_neg here, any_cons, Bool.eq_false_iff.mpr here,
        Bool.false_or, ih]

end ClusterApi.Foundation

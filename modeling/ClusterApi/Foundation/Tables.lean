import ClusterApi.Foundation.Keyed
import ClusterApi.Foundation.Upsert

namespace ClusterApi.Foundation

open List

/-!
# Tables with a key

A list of rows with different keys is a table from keys to rows, whatever its
order.  Writing a row and deleting one change the entry of their key only.
-/

universe u v

variable {Row : Type u} {Key : Type v} [DecidableEq Key] {key : Row → Key} {rows : List Row} {wanted : Key}

/-- The row of a key. -/
def entry (key : Row → Key) (rows : List Row) (wanted : Key) : Option Row := rows.find? fun row => key row = wanted

theorem entry_eq_some (distinct : (rows.map key).Nodup) {row : Row} :
    entry key rows wanted = some row ↔ row ∈ rows ∧ key row = wanted :=
  (Keyed.find?_eq_some : (⟨rows, distinct⟩ : Keyed Row key).find? wanted = some row ↔ _)

theorem entry_eq_none : entry key rows wanted = none ↔ ∀ row ∈ rows, key row ≠ wanted := by
  simp [entry, find?_eq_none]

theorem entry_eq_of_perm {others : List Row} (distinct : (rows.map key).Nodup)
    (perm : others.Perm rows) (wanted : Key) : entry key others wanted = entry key rows wanted := by
  have othersDistinct := (perm.map key).nodup_iff.mpr distinct
  apply Option.ext
  intro row
  rw [entry_eq_some distinct, entry_eq_some othersDistinct, perm.mem_iff]

section Write

variable {change : Option Row → Row} {written : Key} (keepsKey : ∀ old, key (change old) = written)

include keepsKey

theorem entry_upsert (wanted : Key) :
    entry key (upsert (fun row => key row = written) change rows) wanted =
      if wanted = written then some (change (entry key rows written)) else entry key rows wanted := by
  split_ifs with same
  · subst same
    exact find?_upsert (fun old => by simp [keepsKey]) rows
  · apply find?_upsert_of_disjoint
    · intro row isWritten
      simp [of_decide_eq_true isWritten, Ne.symm same]
    · simp [keepsKey, Ne.symm same]

theorem nodup_upsert (distinct : (rows.map key).Nodup) :
    ((upsert (fun row => key row = written) change rows).map key).Nodup := by
  induction rows with
  | nil => exact nodup_singleton _
  | cons row rest ih =>
    rw [map_cons, nodup_cons] at distinct
    by_cases same : key row = written
    · rw [upsert, if_pos (by simpa using same), map_cons, keepsKey, ← same]
      exact nodup_cons.mpr distinct
    · rw [upsert, if_neg (by simpa using same), map_cons]
      refine nodup_cons.mpr ⟨?_, ih distinct.2⟩
      have unchanged : entry key (upsert _ change rest) (key row) = _ := entry_upsert keepsKey (key row)
      rw [if_neg same] at unchanged
      simp only [mem_map, not_exists, not_and] at distinct ⊢
      exact entry_eq_none.mp (unchanged.trans (entry_eq_none.mpr distinct.1))

end Write

theorem entry_filter (deleted wanted : Key) :
    entry key (rows.filter fun row => key row ≠ deleted) wanted =
      if wanted = deleted then none else entry key rows wanted := by
  rw [entry, find?_filter]
  split_ifs with same
  · simp [same]
  · congr
    funext row
    by_cases isWanted : key row = wanted <;> simp [isWanted, same]

end ClusterApi.Foundation

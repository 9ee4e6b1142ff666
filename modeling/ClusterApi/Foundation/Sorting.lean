import Mathlib.Data.List.Perm.Basic
import Mathlib.Data.List.Sort

namespace ClusterApi.Foundation

open List

/-!
# Sorting routines

A library sorts a list by a comparison and promises no more than that: of two
elements that the comparison does not tell apart, either may come first.  What
follows for the first element, for the elements in front, and for comparisons
that tell all elements apart, holds of every routine.
-/

universe u v

theorem mem_take_iff_countP_lt {Element : Type u} {less : Element → Element → Bool}
    (irreflexive : ∀ element, less element element = false) {list : List Element}
    (ordered : list.Pairwise fun first second => less first second = true ∧ less second first = false)
    {element : Element} (inside : element ∈ list) (count : Nat) :
    element ∈ list.take count ↔ list.countP (less · element) < count := by
  induction list generalizing count with
  | nil => cases inside
  | cons first rest ih =>
    rw [pairwise_cons] at ordered
    cases count with
    | zero => simp
    | succ count =>
      rw [take_succ_cons, mem_cons]
      by_cases same : element = first
      · have noneLess : rest.countP (less · element) = 0 := by
          rw [countP_eq_zero]
          intro other later
          rw [same, (ordered.1 other later).2]
          exact Bool.false_ne_true
        rw [countP_cons_of_neg (by rw [← same, irreflexive]; exact Bool.false_ne_true), noneLess]
        exact iff_of_true (.inl same) (Nat.succ_pos count)
      · have later := (mem_cons.mp inside).resolve_left same
        have counted : (first :: rest).countP (less · element) = rest.countP (less · element) + 1 :=
          countP_cons_of_pos (ordered.1 element later).1
        rw [counted, Nat.add_lt_add_iff_right, ← ih ordered.2 later]
        exact or_iff_right same

/-- A routine that sorts by `less`; it need not be stable. -/
structure SortRoutine (Element : Type u) (less : Element → Element → Bool) where
  run : List Element → List Element
  perm : ∀ list, (run list).Perm list
  sorted : ∀ list, (run list).Pairwise fun first second => less second first = false

namespace SortRoutine

variable {Element : Type u} {less : Element → Element → Bool}

/-- Insertion sort is such a routine, for every comparison by which elements can be put in order. -/
def insertion (asymmetric : ∀ first second, less first second = true → less second first = false)
    (transitive : ∀ first second third,
      less second first = false → less third second = false → less third first = false) :
    SortRoutine Element less where
  run list := list.insertionSort fun first second => less second first = false
  perm list := List.perm_insertionSort _ list
  sorted list := by
    have total : Std.Total fun first second => less second first = false := by
      constructor
      intro first second
      cases compared : less second first with
      | false => exact .inl rfl
      | true => exact .inr (asymmetric second first compared)
    have trans : IsTrans Element fun first second => less second first = false := ⟨transitive⟩
    exact List.pairwise_insertionSort _ list

variable (routine : SortRoutine Element less) {list : List Element} {element : Element}

theorem mem_run : element ∈ routine.run list ↔ element ∈ list :=
  (routine.perm list).mem_iff

variable (irreflexive : ∀ element, less element element = false)
include irreflexive

theorem head_least {rest : List Element} {first : Element}
    (ran : routine.run list = first :: rest) : ∀ element ∈ list, less element first = false := by
  intro element inside
  have sorted := routine.sorted list
  rw [ran, pairwise_cons] at sorted
  rw [← routine.mem_run, ran] at inside
  rcases mem_cons.mp inside with rfl | later
  · exact irreflexive element
  · exact sorted.1 element later

theorem mem_take_run (distinct : list.Nodup)
    (apart : ∀ left ∈ list, ∀ right ∈ list, less left right = false → less right left = false → left = right)
    (inside : element ∈ list) (count : Nat) :
    element ∈ (routine.run list).take count ↔ list.countP (less · element) < count := by
  have distinctRun : (routine.run list).Nodup := (routine.perm list).nodup_iff.mpr distinct
  have ordered : (routine.run list).Pairwise fun first second => less first second = true ∧ less second first = false := by
    refine (distinctRun.and (routine.sorted list)).imp_of_mem ?_
    rintro first second firstInside secondInside ⟨different, sorted⟩
    refine ⟨?_, sorted⟩
    cases compared : less first second with
    | true => rfl
    | false =>
      exact absurd (apart first (routine.mem_run.mp firstInside) second (routine.mem_run.mp secondInside) compared sorted)
        different
  rw [mem_take_iff_countP_lt irreflexive ordered (routine.mem_run.mpr inside), (routine.perm list).countP_eq]

end SortRoutine

/-! ## Stable sorting -/

/-- Elements that the comparison does not tell apart keep their order. -/
def stableSort {Element : Type u} (less : Element → Element → Bool) (list : List Element) : List Element :=
  list.insertionSort fun first second => less second first = false

section

variable {Element : Type u} {Key : Type v} [LinearOrder Key] {less : Element → Element → Bool} {key : Element → Key}

theorem stableSort_perm (less : Element → Element → Bool) (list : List Element) : (stableSort less list).Perm list :=
  perm_insertionSort _ list

/-- The comparison is one of keys. -/
def ComparesBy (less : Element → Element → Bool) (key : Element → Key) : Prop :=
  ∀ first second, less first second = true ↔ key first < key second

theorem ComparesBy.eq_false_iff (compares : ComparesBy less key) {first second : Element} :
    less second first = false ↔ key first ≤ key second := by
  rw [← Bool.not_eq_true, compares, not_lt]

variable (compares : ComparesBy less key) {list : List Element}

include compares

theorem stableSort_eq_insertionSort (list : List Element) :
    stableSort less list = list.insertionSort fun first second => key first ≤ key second := by
  unfold stableSort
  congr
  funext first second
  exact propext compares.eq_false_iff

theorem stableSort_sorted (list : List Element) :
    (stableSort less list).Pairwise fun first second => key first ≤ key second := by
  rw [stableSort_eq_insertionSort compares]
  exact pairwise_insertionSort _ list

theorem stableSort_eq_self (sorted : list.Pairwise fun first second => key first ≤ key second) :
    stableSort less list = list := by
  rw [stableSort_eq_insertionSort compares]
  exact sorted.insertionSort_eq

theorem stableSort_eq_of_perm {first second : List Element} (same : first.Perm second)
    (apart : ∀ left ∈ first, ∀ right ∈ first, key left = key right → left = right) :
    stableSort less first = stableSort less second := by
  have perm : (stableSort less first).Perm (stableSort less second) :=
    ((stableSort_perm less first).trans same).trans (stableSort_perm less second).symm
  refine Perm.eq_of_pairwise ?_ (stableSort_sorted compares first) (stableSort_sorted compares second) perm
  intro left right leftInside rightInside below above
  apply apart left ((stableSort_perm less first).mem_iff.mp leftInside) right _ (le_antisymm below above)
  exact same.mem_iff.mpr ((stableSort_perm less second).mem_iff.mp rightInside)

theorem stableSort_eq_of_ordered {arranged : List Element} (perm : list.Perm arranged)
    (ordered : arranged.Pairwise fun first second => key first < key second) : stableSort less list = arranged := by
  have distinct : (arranged.map key).Nodup := by
    rw [Nodup, pairwise_map]
    exact ordered.imp fun less => less.ne
  calc
    stableSort less list = stableSort less arranged := by
        apply stableSort_eq_of_perm compares perm
        intro _ leftInside _ rightInside same
        exact inj_on_of_nodup_map distinct (perm.mem_iff.mp leftInside) (perm.mem_iff.mp rightInside) same
    _ = arranged := stableSort_eq_self compares (ordered.imp fun less => less.le)

end

section

variable {Element : Type u} {Key : Type v} [LinearOrder Key] {key : Element → Key}

theorem filter_orderedInsert (keep : Element → Bool) (element : Element) {list : List Element}
    (sorted : list.Pairwise fun first second => key first ≤ key second) :
    (list.orderedInsert (fun first second => key first ≤ key second) element).filter keep =
      if keep element then (list.filter keep).orderedInsert (fun first second => key first ≤ key second) element
      else list.filter keep := by
  induction list with
  | nil => cases kept : keep element <;> simp [kept]
  | cons first rest ih =>
    rw [pairwise_cons] at sorted
    by_cases below : key element ≤ key first
    · rw [orderedInsert_cons, if_pos below]
      cases kept : keep element with
      | false => rw [filter_cons_of_neg (by simp [kept]), if_neg Bool.false_ne_true]
      | true =>
        rw [filter_cons_of_pos kept, if_pos rfl]
        cases filtered : (first :: rest).filter keep with
        | nil => rfl
        | cons next =>
          have inside : next ∈ first :: rest :=
            mem_of_mem_filter (by rw [filtered]; exact mem_cons_self)
          have aboveFirst : key first ≤ key next := by
            rcases mem_cons.mp inside with rfl | later
            · exact le_rfl
            · exact sorted.1 next later
          rw [orderedInsert_cons, if_pos (below.trans aboveFirst)]
    · rw [orderedInsert_cons, if_neg below]
      cases keptFirst : keep first with
      | false =>
        rw [filter_cons_of_neg (by simp [keptFirst]), filter_cons_of_neg (by simp [keptFirst])]
        exact ih sorted.2
      | true =>
        rw [filter_cons_of_pos keptFirst, filter_cons_of_pos keptFirst, ih sorted.2]
        split_ifs
        · rw [orderedInsert_cons, if_neg below]
        · rfl

/-- It is the same to filter before or after a stable sort. -/
theorem filter_stableSort {less : Element → Element → Bool} (compares : ComparesBy less key) (keep : Element → Bool)
    (list : List Element) : (stableSort less list).filter keep = stableSort less (list.filter keep) := by
  induction list with
  | nil => rfl
  | cons first rest ih =>
    have sorted := stableSort_sorted compares rest
    rw [stableSort_eq_insertionSort compares] at sorted ih ⊢
    rw [stableSort_eq_insertionSort compares] at ih ⊢
    rw [insertionSort_cons, filter_orderedInsert keep first sorted, ih]
    split_ifs with kept
    · rw [filter_cons_of_pos kept, insertionSort_cons]
    · rw [filter_cons_of_neg kept]

end

theorem pairwise_idxOf_lt {Element : Type u} [DecidableEq Element] {list : List Element} (distinct : list.Nodup) :
    list.Pairwise fun first second => list.idxOf first < list.idxOf second := by
  rw [pairwise_iff_getElem]
  intro _ _ _ _ _
  rwa [distinct.idxOf_getElem, distinct.idxOf_getElem]

theorem exists_perm_map {Element : Type u} {Image : Type v} {image : Element → Image}
    {list : List Element} {images : List Image} (perm : (list.map image).Perm images) :
    ∃ permuted : List Element, permuted.Perm list ∧ permuted.map image = images := by
  rcases (congrFun₂ (eq_map_comp_perm image) images list).mpr perm.symm with ⟨permuted, mapped, same⟩
  exact ⟨permuted, same, mapped.symm⟩

end ClusterApi.Foundation

import ClusterApi.Foundation.Paired

namespace ClusterApi.Foundation.Fallible

open List

/-!
# Computations that may fail

A computation returns a value or stops at its first error.  The lemmas take a
computation that has returned apart: what each of its steps has returned, what
it has checked on the way, and what a loop has returned for each item.
-/

universe u v w

variable {Failure : Type u} {α β : Type v} {first : Except Failure α}

/-- Stop unless the condition holds. -/
def demand (condition : Bool) (failure : Failure) : Except Failure PUnit :=
  if condition then .ok ⟨⟩ else .error failure

theorem bind_eq_ok {next : α → Except Failure β} {result : β} :
    (first >>= next) = .ok result ↔ ∃ value, first = .ok value ∧ next value = .ok result := by
  cases first with
  | error =>
    constructor
    · intro isOk
      cases isOk
    · rintro ⟨value, isOk, _⟩
      cases isOk
  | ok value =>
    constructor
    · intro isOk
      exact ⟨value, rfl, isOk⟩
    · rintro ⟨_, isValue, isOk⟩
      cases isValue
      exact isOk

theorem demand_eq_ok {condition : Bool} {failure : Failure} {result : PUnit} :
    demand condition failure = .ok result ↔ condition = true := by
  cases condition with
  | true => exact ⟨fun _ => rfl, fun _ => rfl⟩
  | false =>
    constructor
    · intro isOk
      cases isOk
    · intro isTrue
      cases isTrue

theorem mapError_eq_ok {Other : Type w} {change : Failure → Other} {result : α} :
    first.mapError change = .ok result ↔ first = .ok result := by
  cases first with
  | error => simp only [Except.mapError, reduceCtorEq]
  | ok => simp only [Except.mapError, Except.ok.injEq]

variable {body : α → Except Failure β} {items : List α} {results : List β} (isOk : items.mapM body = .ok results)
include isOk

theorem paired_of_mapM : Forall₂ (fun item result => body item = .ok result) items results := by
  induction items generalizing results with
  | nil =>
    cases isOk
    exact .nil
  | cons _ _ ih =>
    rw [mapM_cons, bind_eq_ok] at isOk
    rcases isOk with ⟨_, isFirst, isOk⟩
    rcases bind_eq_ok.mp isOk with ⟨_, isRemaining, isOk⟩
    cases isOk
    exact .cons isFirst (ih isRemaining)

theorem mem_of_mapM :
    (∀ item ∈ items, ∃ result ∈ results, body item = .ok result) ∧
      ∀ result ∈ results, ∃ item ∈ items, body item = .ok result := by
  have paired := paired_of_mapM isOk
  exact ⟨fun _ => exists_of_mem_paired paired.flip, fun _ => exists_of_mem_paired paired⟩

end ClusterApi.Foundation.Fallible

import Mathlib.Data.List.Basic
import Mathlib.Logic.Relation

namespace ClusterApi.Foundation

/-!
# Runs of a partial step function

A concurrent system is described here by one partial function: an action is
either enabled in a state, and then has exactly one successor, or it is not.
Nondeterminism is carried by the action, never by the step, so that a run is
determined by its schedule and can be evaluated.

`Meets` attaches a condition to the actions of a schedule, read in the state in
which the action is taken.  The invariant rule asks for preservation only under
that condition, which is what a safety result with an exact side condition
needs.
-/

universe u v

variable {State : Type u} {Action : Type v}

/-- The answer to a call that writes: it may fail, or take effect although its answer is lost. -/
inductive Reply
  | ok
  | failed
  | lost
  deriving DecidableEq

/-- Run a schedule.  The result is `none` as soon as an action is not enabled. -/
def execute (step : State → Action → Option State) : State → List Action → Option State
  | state, [] => some state
  | state, action :: rest => (step state action).bind fun next => execute step next rest

/-- Every action of the schedule is taken in a state in which it meets the condition. -/
def Meets (step : State → Action → Option State) (condition : State → Action → Prop) :
    State → List Action → Prop
  | _, [] => True
  | state, action :: rest =>
    condition state action ∧
      match step state action with
      | none => True
      | some next => Meets step condition next rest

instance meetsDecidable (step : State → Action → Option State)
    (condition : State → Action → Prop) [∀ state action, Decidable (condition state action)] :
    (state : State) → (schedule : List Action) → Decidable (Meets step condition state schedule)
  | _, [] => isTrue trivial
  | state, action :: rest =>
    haveI : Decidable (match step state action with
        | none => True
        | some next => Meets step condition next rest) :=
      match step state action with
      | none => isTrue trivial
      | some next => meetsDecidable step condition next rest
    inferInstanceAs (Decidable (_ ∧ _))

variable {step : State → Action → Option State} {condition weaker : State → Action → Prop} {schedule rest : List Action}
  {start final state : State} {Invariant : State → Prop} {action : Action}

@[simp]
theorem execute_nil (state : State) : execute step state [] = some state := rfl

theorem execute_cons_eq_some :
    execute step state (action :: rest) = some final ↔
      ∃ next, step state action = some next ∧ execute step next rest = some final := by
  simp only [execute, Option.bind_eq_some_iff]

theorem execute_append (schedule later : List Action) (state : State) :
    execute step state (schedule ++ later) = (execute step state schedule).bind fun next => execute step next later := by
  induction schedule generalizing state with
  | nil => rfl
  | cons action schedule ih =>
    rw [List.cons_append, execute, execute, Option.bind_assoc]
    congr
    funext next
    exact ih next

theorem Meets.cons (met : condition state action)
    (remaining : ∀ next, step state action = some next → Meets step condition next rest) :
    Meets step condition state (action :: rest) := by
  refine ⟨met, ?_⟩
  cases taken : step state action with
  | none => trivial
  | some next => exact remaining next taken

theorem meets_of_forall (met : ∀ state, ∀ action ∈ schedule, condition state action)
    (start : State) : Meets step condition start schedule := by
  induction schedule generalizing start with
  | nil => trivial
  | cons action _ ih =>
    refine .cons (met start action (by simp)) fun next _ => ih ?_ next
    exact fun state later member => met state later (List.mem_cons_of_mem _ member)

theorem Meets.mono (implies : ∀ state action, condition state action → weaker state action)
    (meets : Meets step condition start schedule) : Meets step weaker start schedule := by
  induction schedule generalizing start with
  | nil => trivial
  | cons action _ ih =>
    refine .cons (implies start action meets.1) fun next taken => ih ?_
    simpa only [taken] using meets.2

section

variable (Invariant : State → Prop)
  (preserved : ∀ state action next, Invariant state → condition state action →
      step state action = some next → Invariant next)
include preserved

/-- A run meets every condition that follows under an invariant of the run. -/
theorem Meets.mono_of_invariant
    (implies : ∀ state action, Invariant state → condition state action → weaker state action)
    (initially : Invariant start) (meets : Meets step condition start schedule) : Meets step weaker start schedule := by
  induction schedule generalizing start with
  | nil => trivial
  | cons action _ ih =>
    refine .cons (implies start action initially meets.1) fun next taken => ?_
    have remaining := meets.2
    rw [taken] at remaining
    exact ih (preserved start action next initially meets.1 taken) remaining

theorem meets_congr {other : State → Action → Prop}
    (agree : ∀ state action, Invariant state → (other state action ↔ condition state action))
    (initially : Invariant start) : Meets step other start schedule ↔ Meets step condition start schedule := by
  constructor
  · apply Meets.mono_of_invariant Invariant
    · exact fun state action next holds met => preserved state action next holds ((agree state action holds).mp met)
    · exact fun state action holds => (agree state action holds).mp
    · exact initially
  · apply Meets.mono_of_invariant Invariant preserved
    · exact fun state action holds => (agree state action holds).mpr
    · exact initially

end

/-- A property kept by every enabled action that meets the condition holds at
the end of every schedule all of whose actions meet it. -/
theorem execute_invariant
    (preserved : ∀ state action next, Invariant state → condition state action →
      step state action = some next → Invariant next)
    (initially : Invariant start) (meets : Meets step condition start schedule)
    (executed : execute step start schedule = some final) : Invariant final := by
  induction schedule generalizing start with
  | nil =>
    cases executed
    exact initially
  | cons action _ ih =>
    rcases execute_cons_eq_some.mp executed with ⟨next, taken, remaining⟩
    rw [Meets, taken] at meets
    exact ih (preserved start action next initially meets.1 taken) meets.2 remaining

/-- The unconditional rule: what every enabled action keeps, every run keeps. -/
theorem execute_invariant_of_step {Invariant : State → Prop}
    (preserved : ∀ state action next, Invariant state →
      step state action = some next → Invariant next)
    {schedule : List Action} {start final : State} (initially : Invariant start)
    (executed : execute step start schedule = some final) : Invariant final :=
  execute_invariant (fun state action next holds _ => preserved state action next holds)
    initially (meets_of_forall (fun _ _ _ => trivial) start) executed

/-- If every action keeps a property exactly when it meets the condition, then
a run ends with the property exactly when it begins with it and all of its
actions meet the condition. -/
theorem execute_exact {Good : State → Prop}
    (preserved : ∀ state action next, Invariant state → step state action = some next → Invariant next)
    (exactly : ∀ state action next, Invariant state → step state action = some next →
      (Good next ↔ Good state ∧ condition state action))
    (initially : Invariant start) (executed : execute step start schedule = some final) :
    Good final ↔ Good start ∧ Meets step condition start schedule := by
  induction schedule generalizing start with
  | nil =>
    cases executed
    exact ⟨fun good => ⟨good, trivial⟩, And.left⟩
  | cons action _ ih =>
    rcases execute_cons_eq_some.mp executed with ⟨next, taken, remaining⟩
    rw [ih (preserved start action next initially taken) remaining,
      exactly start action next initially taken, Meets, taken, and_assoc]

/-- If every action is a step of a relation between abstract states, then a run is a sequence of such steps. -/
theorem execute_simulates {Abstract : Type*} {relation : Abstract → Abstract → Prop} (abstraction : State → Abstract)
    (simulates : ∀ state action next, step state action = some next → relation (abstraction state) (abstraction next))
    (executed : execute step start schedule = some final) :
    Relation.ReflTransGen relation (abstraction start) (abstraction final) := by
  induction schedule generalizing start with
  | nil =>
    cases executed
    exact .refl
  | cons action _ ih =>
    rcases execute_cons_eq_some.mp executed with ⟨next, taken, remaining⟩
    exact .head (simulates start action next taken) (ih remaining)

end ClusterApi.Foundation

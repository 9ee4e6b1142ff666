import Mathlib.Logic.Basic

namespace ClusterApi.Foundation

/-!
# Passes that keep what they wrote

A pass works on one object in memory and may stop at any of its calls.  The
object is stored afterwards in either case, so an error does not undo the
changes made before it: the exception transformer over the state monad.

The `final` equations compute the object at the end of a pass, one statement at
a time.  `Leaves` is the frame rule: what a pass says nothing about is the same
at its end, wherever it stopped.
-/

universe u

variable {State Stop : Type u} {γ : Type*}

/-- A program over one object that can stop early. -/
abbrev Pass (State Stop α : Type u) := ExceptT Stop (StateM State) α

namespace Pass

/-- The object at the end of the pass, also when it stopped early. -/
def final (pass : Pass State Stop PUnit) (start : State) : State := (pass.run.run start).2

/-- Stop if the condition holds of the object. -/
def stopIf (condition : State → Bool) (stop : Stop) : Pass State Stop PUnit := fun state =>
  if condition state then (.error stop, state) else (.ok ⟨⟩, state)

def update (change : State → State) : Pass State Stop PUnit := fun state => (.ok ⟨⟩, change state)

/-- Continue with the first pass if the condition holds of the object. -/
def branch (condition : State → Bool) (holds fails : Pass State Stop PUnit) : Pass State Stop PUnit := fun state =>
  if condition state then holds state else fails state

variable (condition : State → Bool) (stop : Stop) (change : State → State)
variable {pass rest : Pass State Stop PUnit} {start : State}

theorem bind_apply {α β : Type u} (pass : Pass State Stop α) (next : α → Pass State Stop β)
    (start : State) : (pass >>= next) start =
      match pass start with
      | (.ok value, state) => next value state
      | (.error stop, state) => (.error stop, state) := by
  simp only [bind, ExceptT.bind, ExceptT.mk, StateT.bind]
  cases pass start with
  | mk answer =>
    cases answer with
    | ok | error => rfl

theorem final_bind (pass : Pass State Stop PUnit) {next : PUnit → Pass State Stop PUnit} :
    final (pass >>= next) start =
      match pass start with
      | (.ok _, state) => final (next ⟨⟩) state
      | (.error _, state) => state := by
  unfold final ExceptT.run StateT.run
  rw [bind_apply]
  cases pass start with
  | mk answer =>
    cases answer with
    | ok | error => rfl

@[simp]
theorem final_pure : final (pure ⟨⟩ : Pass State Stop PUnit) start = start := rfl

@[simp]
theorem final_update : final (update change : Pass State Stop PUnit) start = change start := rfl

@[simp]
theorem final_update_bind : (final (do update change; rest) start) = final rest (change start) := rfl

@[simp]
theorem final_stopIf_bind :
    final (do stopIf condition stop; rest) start = if condition start then start else final rest start := by
  rw [final_bind, stopIf]
  cases condition start with
  | false | true => rfl

@[simp]
theorem final_branch (holds fails : Pass State Stop PUnit) :
    final (branch condition holds fails) start =
      if condition start then final holds start else final fails start := by
  exact apply_ite Prod.snd _ _ _

/-! ## The frame rule -/

/-- The pass does not change this part of the object. -/
def Leaves (project : State → γ) (pass : Pass State Stop PUnit) : Prop :=
  ∀ start, project (final pass start) = project start

variable {condition stop change} {project : State → γ}

theorem leaves_pure : Leaves project (pure ⟨⟩ : Pass State Stop PUnit) := fun _ => rfl

theorem leaves_stopIf : Leaves project (stopIf condition stop) := by
  intro _
  exact congrArg project ((apply_ite Prod.snd _ _ _).trans (ite_self _))

theorem leaves_update (kept : ∀ state, project (change state) = project state) :
    Leaves project (update change : Pass State Stop PUnit) := kept

theorem Leaves.bind (first : Leaves project pass) (second : Leaves project rest) : Leaves project (do pass; rest) := by
  intro start
  have kept : project (pass start).2 = project start := first start
  rw [final_bind]
  cases ran : pass start with
  | mk answer state =>
    rw [ran] at kept
    cases answer with
    | ok => exact (second state).trans kept
    | error => exact kept

theorem Leaves.branch {holds fails : Pass State Stop PUnit} (first : Leaves project holds)
    (second : Leaves project fails) : Leaves project (Pass.branch condition holds fails) := by
  intro start
  rw [final_branch]
  split
  · exact first start
  · exact second start

end Pass

end ClusterApi.Foundation

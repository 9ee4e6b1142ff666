import ClusterApi.Foundation.Passes

namespace ClusterApi.Foundation.Pass

/-!
# Contracts of passes

A contract says what holds of the object after a pass that starts from an
object with some property, apart for a pass that returns a value and for one
that stops: what an error path must leave behind is weaker than what a pass
achieves when it returns.

There is one rule for each way to build a pass.  `withCleanup` undoes work
after an error and passes the error on, `attempt` hands the error to the rest
of the pass as a value, and `forEach` repeats a pass for the items of a list.
-/

universe u v

variable {State Stop α β : Type u} {Item : Type v}

def stop (reason : Stop) : Pass State Stop α := fun start => (.error reason, start)

/-- Look at the object. -/
def look (read : State → α) : Pass State Stop α := fun start => (.ok (read start), start)

/-- Undo work if the pass stops. -/
def withCleanup (cleanup : State → State) (pass : Pass State Stop α) : Pass State Stop α := fun start =>
  match pass start with
  | (.ok value, state) => (.ok value, state)
  | (.error stop, state) => (.error stop, cleanup state)

/-- Say more about why the pass stops. -/
def explain (change : Stop → Stop) (pass : Pass State Stop α) : Pass State Stop α := fun start =>
  match pass start with
  | (.ok value, state) => (.ok value, state)
  | (.error stop, state) => (.error (change stop), state)

/-- Continue with the result of a pass, whether it stopped or not. -/
def attempt (pass : Pass State Stop α) : Pass State Stop (Except Stop α) := fun start =>
  match pass start with
  | (result, state) => (.ok result, state)

def forEach (body : Item → Pass State Stop PUnit) : List Item → Pass State Stop PUnit
  | [] => pure ⟨⟩
  | item :: rest => do
    body item
    forEach body rest

/-- What holds at the end of a pass, when it returns and when it stops. -/
def Ensures (before : State → Prop) (pass : Pass State Stop α) (after : α → State → Prop)
    (stopped : State → Prop) : Prop :=
  ∀ start, before start →
    match pass start with
    | (.ok value, state) => after value state
    | (.error _, state) => stopped state

section

variable {before : State → Prop} {pass : Pass State Stop α} {after : α → State → Prop} {stopped : State → Prop}

theorem Ensures.pure {value : α} (holds : ∀ state, before state → after value state) :
    Ensures before (Pure.pure value : Pass State Stop α) after stopped := holds

theorem Ensures.update {change : State → State} {after : PUnit → State → Prop}
    (holds : ∀ state, before state → after ⟨⟩ (change state)) :
    Ensures before (Pass.update change : Pass State Stop PUnit) after stopped := holds

theorem Ensures.stop {reason : Stop} (holds : ∀ state, before state → stopped state) :
    Ensures before (Pass.stop reason : Pass State Stop α) after stopped := holds

theorem Ensures.look {read : State → α} :
    Ensures before (Pass.look read : Pass State Stop α)
      (fun value state => before state ∧ value = read state) stopped :=
  fun _ holds => ⟨holds, rfl⟩

theorem Ensures.stopIf {condition : State → Bool} {stop : Stop} (stops : ∀ state, before state → stopped state) :
    Ensures before (Pass.stopIf condition stop) (fun _ => before) stopped := by
  intro start holds
  unfold Pass.stopIf
  cases condition start with
  | true => exact stops start holds
  | false => exact holds

theorem Ensures.bind {middle : α → State → Prop} {next : α → Pass State Stop β} {final : β → State → Prop}
    (first : Ensures before pass middle stopped) (second : ∀ value, Ensures (middle value) (next value) final stopped) :
    Ensures before (pass >>= next) final stopped := by
  intro start holds
  have ran := first start holds
  rw [bind_apply]
  cases result : pass start with
  | mk answer state =>
    rw [result] at ran
    cases answer with
    | ok value => exact second value state ran
    | error => exact ran

theorem Ensures.mono {stronger : State → Prop} {weaker : α → State → Prop} {weakerStopped : State → Prop}
    (contract : Ensures before pass after stopped) (asks : ∀ state, stronger state → before state)
    (promises : ∀ value state, after value state → weaker value state)
    (promisesStopped : ∀ state, stopped state → weakerStopped state) : Ensures stronger pass weaker weakerStopped := by
  intro start holds
  have ran := contract start (asks start holds)
  cases result : pass start with
  | mk answer state =>
    rw [result] at ran
    cases answer with
    | ok value => exact promises value state ran
    | error => exact promisesStopped state ran

theorem Ensures.monoStopped {weaker : State → Prop} (contract : Ensures before pass after stopped)
    (promises : ∀ state, stopped state → weaker state) : Ensures before pass after weaker :=
  contract.mono (fun _ holds => holds) (fun _ _ holds => holds) promises

theorem Ensures.withCleanup {cleanup : State → State} {dirty : State → Prop}
    (contract : Ensures before pass after dirty) (cleans : ∀ state, dirty state → stopped (cleanup state)) :
    Ensures before (Pass.withCleanup cleanup pass) after stopped := by
  intro start holds
  have ran := contract start holds
  unfold Pass.withCleanup
  cases result : pass start with
  | mk answer state =>
    rw [result] at ran
    cases answer with
    | ok => exact ran
    | error => exact cleans state ran

theorem Ensures.explain {change : Stop → Stop} (contract : Ensures before pass after stopped) :
    Ensures before (Pass.explain change pass) after stopped := by
  intro start holds
  have ran := contract start holds
  unfold Pass.explain
  cases result : pass start with
  | mk answer =>
    rw [result] at ran
    cases answer with
    | ok | error => exact ran

theorem Ensures.attempt (contract : Ensures before pass after stopped) {never : State → Prop} :
    Ensures before (Pass.attempt pass) (fun result state =>
      match result with
      | .ok value => after value state
      | .error _ => stopped state) never := by
  intro start holds
  have ran := contract start holds
  unfold Pass.attempt
  cases result : pass start with
  | mk answer =>
    rw [result] at ran
    cases answer with
    | ok | error => exact ran

theorem Ensures.final {pass : Pass State Stop PUnit} {start : State}
    (contract : Ensures before pass (fun _ => stopped) stopped) (holds : before start) :
    stopped (pass.final start) := by
  have ran := contract start holds
  unfold Pass.final ExceptT.run StateT.run
  cases result : pass start with
  | mk answer =>
    rw [result] at ran
    cases answer with
    | ok | error => exact ran

end

theorem Ensures.forEach {body : Item → Pass State Stop PUnit} (invariant : List Item → State → Prop)
    {stopped : State → Prop}
    (turn : ∀ item rest, Ensures (invariant (item :: rest)) (body item) (fun _ => invariant rest) stopped)
    (items : List Item) : Ensures (invariant items) (Pass.forEach body items) (fun _ => invariant []) stopped := by
  induction items with
  | nil => exact .pure fun _ holds => holds
  | cons item rest ih => exact (turn item rest).bind fun _ => ih

end ClusterApi.Foundation.Pass

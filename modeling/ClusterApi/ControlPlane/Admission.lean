import ClusterApi.ControlPlane.EtcdMode
import ClusterApi.Foundation.Documents

namespace ClusterApi.ControlPlane.Webhook

open Foundation

/-!
# What the webhook decides

An update that passes changes nothing outside the allowed paths.  And every
request is decided, with one exception: validation follows two pointers of a
rollout strategy without a check, to its `rollingUpdate` and on to the
`maxSurge`, and defaulting sets both for some types of a strategy only.  All
other optional sections are compared with nil before they are read.

A panic is `none` here.
-/

/-! ## Changes -/

/-- Both documents are written from the same type, so a value that is no object has not become one.  Then they
agree, but for objects without fields, on everything that is not below an allowed path. -/
theorem erase_allowed_eq (encoders : Encoders) (oldK newK : KubeadmControlPlane)
    (keeps : Fields.KeepsScalars (toJson encoders oldK) (toJson encoders newK))
    (unforbidden : forbiddenChanges encoders oldK newK = []) :
    (toJson encoders oldK).erase allowed = (toJson encoders newK).erase allowed :=
  Fields.erase_eq keeps (forbiddenChanges_eq_nil.mp unforbidden)

theorem erase_allowed_scaled :
    (toJson plainLibrary.encoders (threeReplicas none)).erase allowed =
      (toJson plainLibrary.encoders { threeReplicas none with
        spec := { (threeReplicas none).spec with replicas := some 5 } }).erase allowed :=
  erase_allowed_eq _ _ _ (Fields.keepsScalars_of_paths (by decide +kernel)) (by decide +kernel)

/-! ## Decisions -/

section Decisions

variable (library : Library)

/-- The errors of a strategy, once both pointers have been followed. -/
def rolloutStrategyErrors (rolloutStrategy : Option RolloutStrategy) (replicas : Option Int32) :
    Option (List ValidationError) :=
  match rolloutStrategy with
  | none => some []
  | some strategy =>
    (strategy.rollingUpdate.bind RollingUpdate.maxSurge).map fun _ =>
      validateRolloutStrategy library rolloutStrategy replicas (specPath ++ ".rolloutStrategy")

/-- The errors of `ValidateCreate`; the strategy is looked at on the way. -/
def decideCreate (kcp : KubeadmControlPlane) : Option (List ValidationError) :=
  (rolloutStrategyErrors library kcp.spec.rolloutStrategy kcp.spec.replicas).map fun _ => validateCreate library kcp

/-- The errors of `ValidateUpdate`.  Of the old object no strategy is looked at. -/
def decideUpdate (oldK newK : KubeadmControlPlane) : Option (List ValidationError) :=
  (rolloutStrategyErrors library newK.spec.rolloutStrategy newK.spec.replicas).map fun _ =>
    validateUpdate library oldK newK

end Decisions

/-- A strategy that defaulting completes, or that is complete by itself. -/
def StrategyComplete (strategy : RolloutStrategy) : Prop :=
  strategy.type = "" ∨ strategy.type = rollingUpdateStrategyType ∨
    (strategy.rollingUpdate.bind RollingUpdate.maxSurge).isSome

theorem maxSurge_defaultRolloutStrategy (rolloutStrategy : Option RolloutStrategy) :
    ((defaultRolloutStrategy rolloutStrategy).rollingUpdate.bind RollingUpdate.maxSurge).isSome ↔
      ∀ strategy ∈ rolloutStrategy, StrategyComplete strategy := by
  cases rolloutStrategy with
  | none => simp [defaultRolloutStrategy]
  | some strategy =>
    simp only [defaultRolloutStrategy, StrategyComplete, Option.getD_some, Option.mem_some_iff, forall_eq']
    by_cases unset : strategy.type = ""
    · simp [unset]
    · rw [if_neg unset]
      by_cases rolling : strategy.type = rollingUpdateStrategyType <;> simp [unset, rolling]

/-- Every request is decided whose strategy, if it has one, is complete or can be completed. -/
theorem default_decides_iff (library : Library) (kcp : KubeadmControlPlane) :
    ((decideCreate library (default kcp)).isSome ∧ ∀ oldK, (decideUpdate library oldK (default kcp)).isSome) ↔
      ∀ strategy ∈ kcp.spec.rolloutStrategy, StrategyComplete strategy := by
  have defaulted :
      (rolloutStrategyErrors library (default kcp).spec.rolloutStrategy (default kcp).spec.replicas).isSome ↔
      ∀ strategy ∈ kcp.spec.rolloutStrategy, StrategyComplete strategy := by
    rw [← maxSurge_defaultRolloutStrategy]
    exact Bool.eq_iff_iff.mp Option.isSome_map
  rw [decideCreate, Option.isSome_map, defaulted]
  constructor
  · exact And.left
  · intro complete
    refine ⟨complete, fun oldK => ?_⟩
    rw [decideUpdate, Option.isSome_map, defaulted]
    exact complete

/-- A strategy of another type, without a section for rolling updates, is not rejected but ends in a panic. -/
theorem otherStrategy_panics :
    decideCreate plainLibrary (default { threeReplicas none with
      spec := { (threeReplicas none).spec with rolloutStrategy := some { type := "OnDelete" } } }) = none :=
  rfl

end ClusterApi.ControlPlane.Webhook

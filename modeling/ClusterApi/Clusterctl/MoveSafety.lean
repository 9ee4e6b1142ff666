import ClusterApi.Clusterctl.Mover

namespace ClusterApi.Clusterctl

open Foundation List Function
open Foundation.Batches

/-!
# Moving loses nothing and activates nothing twice

A move may stop after any call and be run again with a newly discovered
graph, any number of times.  What one job can do to the two clusters is said
once, in `Effect`; the invariants of all runs follow from it and from the
order of the script: Clusters are paused before anything is created, and
everything is created before anything is deleted.
-/

/-- The object is a Cluster that is not paused. -/
def Object.active (obj : Object) : Bool :=
  match obj.body with
  | .cluster false _ => true
  | _ => false

theorem active_setPaused_true (obj : Object) : (obj.setPaused true).active = false := by
  unfold Object.setPaused Object.active
  cases obj.body <;> rfl

/-- The object of the key has been written to the target. -/
def Copied (world : World) (key : Key) : Prop :=
  ∃ place node, world.origin place = some node ∧ node.key = key ∧ (world.target.entries place).isSome

/-! ## Runs of moves -/

structure MoveState where
  graph : ObjectGraph
  order : IterationOrder
  progress : Progress Job World

namespace MoveState

abbrev world (state : MoveState) : World := state.progress.data

def groups (state : MoveState) : List (List Node) := (getMoveSequence state.order state.graph).groups

end MoveState

inductive MoveAction
  /-- Run the move, with the graph that discovery finds. -/
  | start (graph : ObjectGraph) (order : IterationOrder)
  | event (event : Event Calls)

/-- The state in which a move begins. -/
def startMove (graph : ObjectGraph) (order : IterationOrder) (world : World) : MoveState where
  graph := graph
  order := order
  progress := Batches.start (move order graph) { world with newUID := fun _ => "" }

def moveStep (mutators : List (Option Mutator)) (state : MoveState) : MoveAction → Option MoveState
  | .start graph order => some (startMove graph order state.world)
  | .event event =>
    (Batches.step (perform mutators state.graph) backoffSteps state.progress event).map fun progress =>
      { state with progress }

/-! ## What the mutators promise -/

/-- The mutators give no two objects of the source one key. -/
def KeepsApart (mutators : List (Option Mutator)) (source : Store) : Prop :=
  ∀ first second firstMutated secondMutated, (source.entries first.key).isSome → (source.entries second.key).isSome →
    applyMutators mutators first = some firstMutated → applyMutators mutators second = some secondMutated →
    firstMutated.key = secondMutated.key → first.key = second.key

/-- The target has no object where an object of the source would go. -/
def NoCopies (mutators : List (Option Mutator)) (source target : Store) : Prop :=
  ∀ obj mutated, (source.entries obj.key).isSome → applyMutators mutators obj = some mutated →
    target.entries mutated.key = none

/-! ## What has to hold -/

/-- Every object that the source had is in the source or has been written to the target. -/
def NothingLost (source : Store) (world : World) : Prop :=
  ∀ key, (source.entries key).isSome → (world.source.entries key).isSome ∨ Copied world key

/-- A step deletes from the source only when all objects of the move sequence are in the target. -/
def DeletesLast (mutators : List (Option Mutator)) (state : MoveState) : Prop :=
  ∀ action next, moveStep mutators state action = some next →
    (∃ key, (state.world.source.entries key).isSome ∧ next.world.source.entries key = none) →
    ∀ group ∈ state.groups, ∀ node ∈ group, Copied state.world node.key

/-- No Cluster is active in the source and in the target. -/
def NeverActiveTwice (world : World) : Prop :=
  ∀ place node, world.origin place = some node → node.key.groupKind = clusterGroupKind →
    ¬ ((world.source.entries node.key).any Object.active = true ∧ (world.target.entries place).any Object.active = true)

/-! ## What one job does -/

/-- Objects of the source may become paused, but nothing is added, removed or activated. -/
structure Calmer (before after : Store) : Prop where
  same : ∀ key, (after.entries key).isSome = (before.entries key).isSome
  calmer : ∀ key, (after.entries key).any Object.active = true → (before.entries key).any Object.active = true

theorem Calmer.refl (store : Store) : Calmer store store := ⟨fun _ => rfl, fun _ => id⟩

theorem Calmer.put {store : Store} {key : Key} (found : store.entries key = some obj) (same : changed.key = key)
    (calmer : changed.active = true → obj.active = true) : Calmer store (store.put changed) := by
  subst same
  constructor
  · intro other
    by_cases here : other = changed.key
    · rw [here, Store.put_self, found, Option.isSome_some, Option.isSome_some]
    · rw [Store.put_of_ne store here]
  · intro other
    by_cases here : other = changed.key
    · rw [here, Store.put_self, found]
      exact calmer
    · rw [Store.put_of_ne store here]
      exact id

/-- The three ways in which a job of a move changes the two clusters. -/
inductive Effect (mutators : List (Option Mutator)) (job : Job) (world after : World) : Prop
  | quiet (source : Calmer world.source after.source)
      (target : ∀ place, (after.target.entries place).isSome = (world.target.entries place).isSome)
      (origin : after.origin = world.origin)
  | creates (node : Node) (obj mutated : Object) (isCreate : job = .create node) (copies : obj.key = node.key)
      (present : (world.source.entries node.key).isSome) (mutates : applyMutators mutators obj = some mutated)
      (source : after.source = world.source)
      (target : (after.target.entries mutated.key).isSome) (origin : after.origin mutated.key = some node)
      (elsewhere : ∀ place, place ≠ mutated.key →
        after.target.entries place = world.target.entries place ∧ after.origin place = world.origin place)
  | deletes (node : Node) (isDelete : job = .delete node)
      (elsewhere : ∀ key, key ≠ node.key → after.source.entries key = world.source.entries key)
      (gone : after.source.entries node.key = none)
      (target : after.target = world.target) (origin : after.origin = world.origin)

variable {mutators : List (Option Mutator)} {job : Job} {world after : World} {node : Node}
  {sourceObj mutated skeleton changed obj : Object} {change : Object → Object} {calls : Calls}

theorem Effect.of_unchanged (source : after.source = world.source) (target : after.target = world.target)
    (origin : after.origin = world.origin) : Effect mutators job world after :=
  .quiet (source ▸ Calmer.refl _) (fun _ => by rw [target]) origin

theorem Effect.of_namespaces {namespaces : List String}
    (effect : Effect mutators job { world with targetNamespaces := namespaces } after) :
    Effect mutators job world after := by
  cases effect with
  | quiet source target origin => exact .quiet source target origin
  | creates node obj mutated isCreate copies present mutates source target origin elsewhere =>
    exact .creates node obj mutated isCreate copies present mutates source target origin elsewhere
  | deletes node isDelete elsewhere gone target origin => exact .deletes node isDelete elsewhere gone target origin

theorem Effect.refl : Effect mutators job world world := .of_unchanged rfl rfl rfl

theorem patchSource_effect (keeps : ∀ obj, (change obj).key = obj.key)
    (calms : ∀ obj, (change obj).active = true → obj.active = true) (calls : Calls) :
    Effect mutators job world (patchSource skeleton change calls world).1 := by
  unfold patchSource
  split
  · next obj _ found =>
    have key := (keeps obj).trans (world.source.keyed _ obj found)
    exact write_rule _ _ .refl (.quiet (Calmer.put found key (calms obj)) (fun _ => rfl) rfl)
  · exact .refl

theorem patchTarget_effect (keeps : ∀ obj, (change obj).key = obj.key) (calls : Calls) :
    Effect mutators job world (patchTarget mutators skeleton change calls world).1 := by
  unfold patchTarget
  split
  · exact .refl
  · split
    · next mutated _ obj _ found =>
      have key := (keeps obj).trans (world.target.keyed _ obj found)
      refine write_rule _ _ .refl (.quiet (Calmer.refl _) (fun place => ?_) rfl)
      by_cases here : place = (change obj).key
      · rw [here, Store.put_self, key, found, Option.isSome_some, Option.isSome_some]
      · rw [Store.put_of_ne _ here]
    · exact .refl

theorem waitReadyForMove_unchanged (node : Node) (calls : Calls) (world : World) :
    (waitReadyForMove node calls world).1 = world := by
  unfold waitReadyForMove
  split
  · split <;> rfl
  · rfl

/-- The create call was made for this object of the node. -/
structure Creates (mutators : List (Option Mutator)) (world : World) (node : Node) (mutated : Object) : Prop where
  present : (world.source.entries node.key).isSome
  mutates : ∃ obj, obj.key = node.key ∧ applyMutators mutators obj = some mutated

theorem Creates.of_mutates {ownerReferences : List OwnerReference}
    (found : world.source.entries node.key = some sourceObj)
    (mutates : applyMutators mutators { sourceObj with ownerReferences } = some mutated) :
    Creates mutators world node mutated := by
  have copies : { sourceObj with ownerReferences }.key = node.key := world.source.keyed _ sourceObj found
  exact ⟨Option.isSome_of_eq_some found, _, copies, mutates⟩

section

variable (creates : Creates mutators world node mutated)
include creates

theorem Creates.putTarget {placed : Object} (same : placed.key = mutated.key)
    (source : after.source = world.source) (target : after.target = world.target.put placed)
    (origin : after.origin = Function.update world.origin placed.key (some node)) :
    Effect mutators (.create node) world after := by
  rcases creates.mutates with ⟨obj, copies, mutates⟩
  refine .creates node obj mutated rfl copies creates.present mutates source ?_ ?_ fun place differs => ⟨?_, ?_⟩
  · rw [target, ← same, Store.put_self, Option.isSome_some]
  · rw [origin, same, update_self]
  · rw [target, Store.put_of_ne _ (same ▸ differs)]
  · rw [origin, same, update_of_ne differs]

theorem Creates.writeTarget (reply : Reply) (uid : String) (calls : Calls) :
    Effect mutators (.create node) world (writeTarget reply node mutated uid calls world).1 := by
  have same : { mutated with uid := uid }.key = mutated.key := rfl
  rcases writeTarget_cases reply node mutated uid calls world with nothing | written | ⟨_, recorded⟩
  · rw [nothing]
    exact .refl
  · rw [written]
    exact creates.putTarget same rfl rfl rfl
  · rw [recorded]
    exact creates.putTarget same rfl rfl rfl

theorem createOrUpdate_effect (calls : Calls) :
    Effect mutators (.create node) world (createOrUpdate node mutated calls world).1 := by
  rcases createOrUpdate_cases node mutated calls world with failed | ⟨_, _, _, _, written⟩ | ⟨_, _, _, _, skipped⟩
  · rw [failed]
    exact .refl
  · rw [written]
    exact creates.writeTarget ..
  · rw [skipped]
    exact .of_unchanged rfl rfl rfl

end

theorem createTargetObject_effect (graph : ObjectGraph) (node : Node) (calls : Calls) :
    Effect mutators (.create node) world (createTargetObject mutators graph node calls world).1 := by
  rcases createTargetObject_cases mutators graph node calls world with
    ⟨_, failed⟩ | ⟨sourceObj, obj, namespaces, found, mutates, called⟩
  · rw [failed]
    exact .of_unchanged rfl rfl rfl
  · rw [called]
    apply Effect.of_namespaces
    apply createOrUpdate_effect
    rcases Creates.of_mutates found mutates with ⟨present, mutated⟩
    exact ⟨present, mutated⟩

/-- Of the source object of a node, only metadata has been changed. -/
structure Edited (node : Node) (sourceObj : Object) (world after : World) : Prop where
  target : after.target = world.target
  origin : after.origin = world.origin
  elsewhere : ∀ key, key ≠ node.key → after.source.entries key = world.source.entries key
  here : ∃ edited, after.source.entries node.key = some edited ∧ edited.active = sourceObj.active

theorem Edited.put (edited : Edited node sourceObj world after) (key : changed.key = node.key)
    (active : changed.active = sourceObj.active) :
    Edited node sourceObj world { after with source := after.source.put changed } where
  target := edited.target
  origin := edited.origin
  elsewhere other differs := (Store.put_of_ne _ (key ▸ differs)).trans (edited.elsewhere other differs)
  here := ⟨changed, key ▸ Store.put_self .., active⟩

theorem Edited.quiet (found : world.source.entries node.key = some sourceObj)
    (edited : Edited node sourceObj world after) : Effect mutators job world after := by
  rcases edited.here with ⟨_, here, active⟩
  refine .quiet ⟨fun key => ?_, fun key => ?_⟩ (fun _ => by rw [edited.target]) edited.origin
  · by_cases same : key = node.key
    · rw [same, here, found, Option.isSome_some, Option.isSome_some]
    · rw [edited.elsewhere key same]
  · by_cases same : key = node.key
    · rw [same, here, found, Option.any_some, Option.any_some, active]
      exact id
    · rw [edited.elsewhere key same]
      exact id

theorem Edited.delete (edited : Edited node sourceObj world after) :
    Effect mutators (.delete node) world { after with source := after.source.remove node.key } :=
  .deletes node rfl (fun key differs => (update_of_ne differs ..).trans (edited.elsewhere key differs))
    (Store.remove_self ..) edited.target edited.origin

theorem deleteSourceObject_effect (node : Node) (calls : Calls) :
    Effect mutators (.delete node) world (deleteSourceObject node calls world).1 := by
  unfold deleteSourceObject
  split
  · exact .refl
  · split
    · split
      · exact .refl
      · next sourceObj found =>
        have key : sourceObj.key = node.key := world.source.keyed _ _ found
        have edited : Edited node sourceObj world world := ⟨rfl, rfl, fun _ _ => rfl, sourceObj, found, rfl⟩
        have quiet : ∀ after, Edited node sourceObj world after → Effect mutators (.delete node) world after :=
          fun _ => Edited.quiet found
        refine andThen_rule (write_rule _ _ edited (edited.put key rfl)) quiet fun marked markedEdited => ?_
        refine andThen_rule (P := Edited node sourceObj world) ?_ quiet fun stripped strippedEdited => ?_
        · split
          · exact markedEdited
          · exact write_rule _ _ markedEdited (markedEdited.put key rfl)
        · exact write_rule _ _ (quiet _ strippedEdited) strippedEdited.delete
    · exact .refl

theorem perform_effect (graph : ObjectGraph) (notRestore : ∀ node, job ≠ .restore node)
    (calls : Calls) : Effect mutators job world (perform mutators graph job calls world).1 := by
  cases job with
  | pauseCluster =>
    refine patchSource_effect (key_setPaused true) (fun obj => ?_) calls
    rw [active_setPaused_true]
    exact fun impossible => absurd impossible Bool.false_ne_true
  | pauseClusterClass => exact patchSource_effect (key_markPaused true) (fun _ => id) calls
  | waitReady =>
    rw [perform, waitReadyForMove_unchanged]
    exact .refl
  | create node => exact createTargetObject_effect graph node calls
  | delete node => exact deleteSourceObject_effect node calls
  | resumeClusterClass => exact patchTarget_effect (key_markPaused false) calls
  | resumeCluster => exact patchTarget_effect (key_setPaused false) calls
  | ensureNamespace namespaceName =>
    rcases ensureNamespace_cases namespaceName calls world with ⟨_, _, ensured⟩
    rw [perform, ensured]
    exact .of_unchanged rfl rfl rfl
  | restore node => exact absurd rfl (notRestore node)

theorem pauseSourceCluster_success {cluster : Node} (succeeds : (pauseSourceCluster cluster calls world).2 = true) :
    ((pauseSourceCluster cluster calls world).1.source.entries (clusterSkeleton cluster).key).any Object.active = false := by
  unfold pauseSourceCluster patchSource at succeeds ⊢
  cases answered : calls.getSource with
  | false => simp [answered] at succeeds
  | true =>
    cases found : world.source.entries (clusterSkeleton cluster).key with
    | none => simp [answered, found] at succeeds
    | some obj =>
      have key : (obj.setPaused true).key = (clusterSkeleton cluster).key := world.source.keyed _ obj found
      simp only [answered, found] at succeeds ⊢
      cases patched : calls.patch with
      | ok => rw [write, ← key, Store.put_self, Option.any_some, active_setPaused_true]
      | failed | lost => simp [patched, write] at succeeds

theorem createOrUpdate_success (succeeds : (createOrUpdate node obj calls world).2 = true) :
    ((createOrUpdate node obj calls world).1.target.entries obj.key).isSome := by
  rcases createOrUpdate_cases node obj calls world with failed | ⟨reply, uid, _, _, written⟩ | ⟨_, _, found, _, skipped⟩
  · rw [failed] at succeeds
    cases succeeds
  · rw [written] at succeeds ⊢
    have here : (world.target.put { obj with uid := uid }).entries obj.key = some { obj with uid := uid } :=
      Store.put_self ..
    rcases writeTarget_cases reply node obj uid calls world with nothing | lost | ⟨_, recorded⟩
    · rw [nothing] at succeeds
      cases succeeds
    · rw [lost] at succeeds
      cases succeeds
    · rw [recorded]
      exact Option.isSome_of_eq_some here
  · rw [skipped]
    exact Option.isSome_of_eq_some found

theorem createTargetObject_success {graph : ObjectGraph}
    (succeeds : (createTargetObject mutators graph node calls world).2 = true) :
    ∃ mutated, Creates mutators world node mutated ∧
      ((createTargetObject mutators graph node calls world).1.target.entries mutated.key).isSome := by
  rcases createTargetObject_cases mutators graph node calls world with
    ⟨_, failed⟩ | ⟨sourceObj, obj, namespaces, found, mutates, called⟩
  · rw [failed] at succeeds
    cases succeeds
  · rw [called] at succeeds ⊢
    exact ⟨obj, .of_mutates found mutates, createOrUpdate_success succeeds⟩

/-! ## The invariant of the two clusters -/

/-- What holds of the two clusters at any time, with respect to the source before the first move. -/
structure Kept (mutators : List (Option Mutator)) (original : Store) (world : World) : Prop where
  sourced : ∀ key, (world.source.entries key).isSome → (original.entries key).isSome
  /-- What has been written for a node is at a key that the mutators give to its object. -/
  written : ∀ place node, world.origin place = some node → (original.entries node.key).isSome ∧
    (world.target.entries place).isSome ∧
    ∃ obj mutated, obj.key = node.key ∧ applyMutators mutators obj = some mutated ∧ mutated.key = place
  /-- What is at a key that the mutators give to an object has been written for it. -/
  ours : ∀ obj mutated, (original.entries obj.key).isSome → applyMutators mutators obj = some mutated →
    (world.target.entries mutated.key).isSome → ∃ node, world.origin mutated.key = some node ∧ node.key = obj.key
  nothingLost : NothingLost original world
  calm : ∀ place node, world.origin place = some node → node.key.groupKind = clusterGroupKind →
    (world.source.entries node.key).any Object.active = false

variable {original : Store} {key : Key}

theorem Kept.initial {target : Store} (noCopies : NoCopies mutators original target) {namespaces : List String} :
    Kept mutators original { source := original, target := target, targetNamespaces := namespaces } where
  sourced _ := id
  written _ _ absent := nomatch absent
  ours obj mutated present mutates found := by
    rw [noCopies obj mutated present mutates] at found
    cases found
  nothingLost _ := .inl
  calm _ _ absent := nomatch absent

section

variable (effect : Effect mutators job world after)
include effect

theorem Effect.place_cases (place : Key) :
    (after.target.entries place).isSome = (world.target.entries place).isSome ∧ after.origin place = world.origin place ∨
      ∃ node mutated, job = .create node ∧ Creates mutators world node mutated ∧ mutated.key =
        place ∧ (after.target.entries place).isSome ∧ after.origin place = some node := by
  cases effect with
  | quiet _ target origin => exact .inl ⟨target place, congrFun origin place⟩
  | creates node obj mutated isCreate copies present mutates _ target origin elsewhere =>
    by_cases here : place = mutated.key
    · subst here
      exact .inr ⟨node, mutated, isCreate, ⟨present, obj, copies, mutates⟩, rfl, target, origin⟩
    · rcases elsewhere place here with ⟨targetSame, originSame⟩
      exact .inl ⟨congrArg Option.isSome targetSame, originSame⟩
  | deletes _ _ _ _ target origin => exact .inl ⟨by rw [target], congrFun origin place⟩

theorem Effect.source_isSome (found : (after.source.entries key).isSome) : (world.source.entries key).isSome := by
  cases effect with
  | quiet source => exact source.same key ▸ found
  | creates _ _ _ _ _ _ _ source => exact source ▸ found
  | deletes node _ elsewhere gone =>
    by_cases here : key = node.key
    · rw [here, gone] at found
      cases found
    · exact elsewhere key here ▸ found

theorem Effect.source_stays (found : (world.source.entries key).isSome) :
    (after.source.entries key).isSome ∨ ∃ node, job = .delete node ∧ node.key = key := by
  cases effect with
  | quiet source => exact .inl ((source.same key).trans found)
  | creates _ _ _ _ _ _ _ source => exact .inl (source ▸ found)
  | deletes node isDelete elsewhere =>
    by_cases here : key = node.key
    · exact .inr ⟨node, isDelete, here.symm⟩
    · exact .inl ((congrArg Option.isSome (elsewhere key here)).trans found)

theorem Effect.calmer (calm : (world.source.entries key).any Object.active = false) :
    (after.source.entries key).any Object.active = false := by
  cases effect with
  | quiet source =>
    by_contra active
    have wasActive := source.calmer key (by simpa using active)
    rw [calm] at wasActive
    cases wasActive
  | creates _ _ _ _ _ _ _ source => rw [source, calm]
  | deletes node _ elsewhere gone =>
    by_cases here : key = node.key
    · rw [here, gone, Option.any_none]
    · rw [elsewhere key here, calm]

end

theorem Kept.copied_of_effect (kept : Kept mutators original world) (apart : KeepsApart mutators original)
    (effect : Effect mutators job world after) (copied : Copied world key) : Copied after key := by
  rcases copied with ⟨place, node, origin, same, found⟩
  rcases effect.place_cases place with ⟨sameTarget, sameOrigin⟩ | ⟨writer, mutated, -, creates, here, written, newOrigin⟩
  · exact ⟨place, node, sameOrigin.trans origin, same, sameTarget.trans found⟩
  · -- Two objects of the source at one key of the target are the same object.
    rcases kept.written place node origin with ⟨sourced, _, other, otherMutated, otherCopies, otherMutates, otherKey⟩
    rcases creates.mutates with ⟨obj, copies, mutates⟩
    have sameKey := apart other obj otherMutated mutated (otherCopies ▸ sourced)
      (copies ▸ kept.sourced _ creates.present) otherMutates mutates (otherKey.trans here.symm)
    exact ⟨place, writer, newOrigin, by rw [← same, ← otherCopies, sameKey, copies], written⟩

/-- A job keeps the invariant if Clusters are created after they are paused,
and objects are deleted after they are copied. -/
theorem Kept.effect (kept : Kept mutators original world) (apart : KeepsApart mutators original)
    (effect : Effect mutators job world after)
    (pausedFirst : ∀ node, job = .create node → node.key.groupKind = clusterGroupKind →
      (world.source.entries node.key).any Object.active = false)
    (copiedFirst : ∀ node, job = .delete node → Copied world node.key) : Kept mutators original after := by
  constructor
  case sourced => exact fun key found => kept.sourced key (effect.source_isSome found)
  case written =>
    intro place node origin
    rcases effect.place_cases place with
      ⟨sameTarget, sameOrigin⟩ | ⟨writer, mutated, -, creates, here, written, newOrigin⟩
    · rcases kept.written place node (sameOrigin ▸ origin) with ⟨sourced, found, mutates⟩
      exact ⟨sourced, sameTarget.trans found, mutates⟩
    · cases newOrigin.symm.trans origin
      rcases creates.mutates with ⟨obj, copies, mutates⟩
      exact ⟨kept.sourced _ creates.present, written, obj, mutated, copies, mutates, here⟩
  case ours =>
    intro other otherMutated otherPresent otherMutates found
    rcases effect.place_cases otherMutated.key with
      ⟨sameTarget, sameOrigin⟩ | ⟨writer, mutated, -, creates, here, -, newOrigin⟩
    · rw [sameOrigin]
      exact kept.ours other otherMutated otherPresent otherMutates (sameTarget.symm.trans found)
    · rcases creates.mutates with ⟨obj, copies, mutates⟩
      have same := apart other obj otherMutated mutated otherPresent
        (copies ▸ kept.sourced _ creates.present) otherMutates mutates here.symm
      exact ⟨writer, newOrigin, copies.symm.trans same.symm⟩
  case nothingLost =>
    intro key present
    rcases kept.nothingLost key present with found | copied
    · rcases effect.source_stays found with stays | ⟨node, isDelete, rfl⟩
      · exact .inl stays
      · exact .inr (kept.copied_of_effect apart effect (copiedFirst node isDelete))
    · exact .inr (kept.copied_of_effect apart effect copied)
  case calm =>
    intro place node origin isCluster
    apply effect.calmer
    rcases effect.place_cases place with ⟨-, sameOrigin⟩ | ⟨_, _, isCreate, -, -, -, newOrigin⟩
    · exact kept.calm place node (sameOrigin ▸ origin) isCluster
    · cases newOrigin.symm.trans origin
      exact pausedFirst node isCreate isCluster

/-! ## The invariant of the runs -/

/-- Objects are created and deleted for nodes of the sequence, and none is restored. -/
def InSequence (groups : List (List Node)) : Job → Prop
  | .create node => ∃ group ∈ groups, node ∈ group
  | .delete node => ∃ group ∈ groups, node ∈ group
  | .restore _ => False
  | _ => True

theorem inSequence_of_mem_move {order : IterationOrder} {graph : ObjectGraph} {batch : Batch Job}
    (inScript : batch ∈ move order graph) {job : Job} (member : job ∈ batch.jobs) :
    InSequence (getMoveSequence order graph).groups job := by
  simp only [move, pauseAndWait, createGroups, deleteGroups, resume, mem_append, mem_cons, mem_map,
    mem_reverse, not_mem_nil, or_false] at inScript
  rcases inScript with (((rfl | rfl | rfl) | ⟨group, inGroups, rfl⟩) | ⟨group, inGroups, rfl⟩) | rfl | rfl
  all_goals rcases mem_map.mp member with ⟨_, inGroup, rfl⟩
  all_goals first | trivial | exact ⟨group, inGroups, inGroup⟩

/-- The invariant of the clusters, with what the script has achieved so far. -/
structure SafeMove (mutators : List (Option Mutator)) (original : Store) (state : MoveState) : Prop where
  kept : Kept mutators original state.world
  follows : Follows (move state.order state.graph) state.progress
  paused : ∀ cluster, Job.pauseCluster cluster ∈ state.progress.finished →
    (state.world.source.entries (clusterSkeleton cluster).key).any Object.active = false
  created : ∀ node, Job.create node ∈ state.progress.finished → Copied state.world node.key

namespace SafeMove

variable {state next : MoveState} {node : Node}

theorem start (graph : ObjectGraph) (order : IterationOrder) (kept : Kept mutators original world) :
    SafeMove mutators original (startMove graph order world) where
  kept := ⟨kept.sourced, kept.written, kept.ours, kept.nothingLost, kept.calm⟩
  follows := follows_start ..
  paused _ impossible := absurd impossible List.not_mem_nil
  created _ impossible := absurd impossible not_mem_nil

variable (safe : SafeMove mutators original state)
include safe

theorem copied_of_delete (current : Current state.progress (.delete node)) :
    ∀ group ∈ state.groups, ∀ other ∈ group, Copied state.world other.key := by
  intro group groupMember _ member
  have script := safe.follows
  rw [move, append_assoc] at script
  have earlier := script.finished_before current (by
    simp [pauseAndWait, createGroups, oneByOne, collecting])
  apply safe.created
  refine earlier (collecting (group.map .create)) ?_ _ (mem_map_of_mem member)
  exact mem_append_right _ (mem_map_of_mem groupMember)

theorem inSequence {job : Job} (current : Current state.progress job) : InSequence state.groups job := by
  rcases safe.follows.current_mem current with ⟨batch, batchMember, member⟩
  exact inSequence_of_mem_move batchMember member

theorem paused_of_create (current : Current state.progress (.create node))
    (isCluster : node.key.groupKind = clusterGroupKind) :
    (state.world.source.entries node.key).any Object.active = false := by
  have script := safe.follows
  rw [move, append_assoc, append_assoc] at script
  have earlier := script.finished_before current (by simp [pauseAndWait, oneByOne])
  have inGraph : node ∈ state.graph.getClusters := by
    rcases safe.inSequence current with ⟨group, groupMember, member⟩
    have moves := (getMoveSequence_returns state.order state.graph).2.1.only group groupMember node member
    exact mem_filter.mpr ⟨(mem_filter.mp moves).1, decide_eq_true isCluster⟩
  have key : (clusterSkeleton node).key = node.key := by
    rcases Prod.mk.inj isCluster with ⟨group, kind⟩
    exact Key.ext group.symm kind.symm rfl rfl
  rw [← key]
  apply safe.paused
  exact earlier (oneByOne (state.graph.getClusters.map .pauseCluster)) mem_cons_self _ (mem_map_of_mem inGraph)

theorem not_restore {job : Job} (current : Current state.progress job) : ∀ node, job ≠ .restore node := by
  rintro node rfl
  exact safe.inSequence current

theorem tried (apart : KeepsApart mutators original) {job : Job} {calls : Calls} (current : Current state.progress job)
    {progress : Progress Job World} (follows : Follows (move state.order state.graph) progress)
    (data : progress.data = (perform mutators state.graph job calls state.world).1)
    (finished : progress.finished = state.progress.finished ∨ progress.finished = job :: state.progress.finished ∧
      (perform mutators state.graph job calls state.world).2 = true) :
    SafeMove mutators original { state with progress } := by
  have effect : Effect mutators job state.world progress.data :=
    data ▸ perform_effect _ (safe.not_restore current) calls
  have kept : Kept mutators original progress.data := by
    refine safe.kept.effect apart effect ?_ ?_
    · rintro node rfl isCluster
      exact safe.paused_of_create current isCluster
    · rintro node rfl
      rcases safe.inSequence current with ⟨group, groupMember, member⟩
      exact safe.copied_of_delete current group groupMember node member
  have paused : ∀ cluster, Job.pauseCluster cluster ∈ state.progress.finished →
      (progress.data.source.entries (clusterSkeleton cluster).key).any Object.active = false :=
    fun cluster member => effect.calmer (safe.paused cluster member)
  have created : ∀ node, Job.create node ∈ state.progress.finished → Copied progress.data node.key :=
    fun node member => safe.kept.copied_of_effect apart effect (safe.created node member)
  rcases finished with same | ⟨more, succeeds⟩
  · exact ⟨kept, follows, fun cluster member => paused cluster (same ▸ member),
      fun node member => created node (same ▸ member)⟩
  · refine ⟨kept, follows, fun cluster member => ?_, fun node member => ?_⟩
    · rcases mem_cons.mp (more ▸ member) with rfl | before
      · have calm : (progress.data.source.entries (clusterSkeleton cluster).key).any Object.active = false := by
          rw [data]
          exact pauseSourceCluster_success succeeds
        exact calm
      · exact paused cluster before
    · rcases mem_cons.mp (more ▸ member) with rfl | before
      · rcases createTargetObject_success succeeds with ⟨mutated, creates, found⟩
        rcases creates.mutates with ⟨obj, copies, mutates⟩
        have sourced := safe.kept.sourced _ creates.present
        have found : (progress.data.target.entries mutated.key).isSome := data ▸ found
        rcases kept.ours obj mutated (copies ▸ sourced) mutates found with ⟨writer, origin, key⟩
        exact ⟨mutated.key, writer, origin, key.trans copies, found⟩
      · exact created node before

theorem step (apart : KeepsApart mutators original) {action : MoveAction}
    (taken : moveStep mutators state action = some next) : SafeMove mutators original next := by
  cases action with
  | start graph order =>
    cases taken
    exact start graph order safe.kept
  | event =>
    rcases Option.map_eq_some_iff.mp taken with ⟨progress, stepped, rfl⟩
    have follows := safe.follows.step stepped
    cases stepped_of_step stepped with
    | tried _ _ _ current data finished => exact safe.tried apart current follows data finished
    | idle data finished =>
      have unchanged : ({ state with progress } : MoveState).world = state.world := data
      refine ⟨?_, follows, fun cluster member => ?_, fun node member => ?_⟩
      · rw [unchanged]
        exact safe.kept
      · rw [unchanged]
        exact safe.paused cluster (finished ▸ member)
      · rw [unchanged]
        exact safe.created node (finished ▸ member)

theorem deletesLast : DeletesLast mutators state := by
  rintro action next taken ⟨key, present, gone⟩
  have notSame : next.world.source.entries key ≠ state.world.source.entries key := by
    intro same
    rw [← same, gone] at present
    cases present
  cases action with
  | start =>
    cases taken
    exact absurd rfl notSame
  | event =>
    rcases Option.map_eq_some_iff.mp taken with ⟨progress, stepped, rfl⟩
    cases stepped_of_step stepped with
    | idle data _ => exact absurd (congrArg (fun world => world.source.entries key) data) notSame
    | tried job calls _ current data _ =>
      have effect : Effect mutators job state.world progress.data :=
        data ▸ perform_effect _ (safe.not_restore current) calls
      rcases effect.source_stays present with stays | ⟨_, isDelete, -⟩
      · rw [show progress.data.source.entries key = none from gone] at stays
        cases stays
      · exact safe.copied_of_delete (isDelete ▸ current)

end SafeMove

/-- Through any number of moves, each stopped anywhere: no object is lost,
objects are deleted only after everything is created, and no Cluster is
active in both management clusters. -/
theorem run_moveSafe (mutators : List (Option Mutator)) (source target : Store) (namespaces : List String)
    (apart : KeepsApart mutators source) (noCopies : NoCopies mutators source target) (graph : ObjectGraph)
    (order : IterationOrder) {schedule : List MoveAction} {final : MoveState}
    (executed : execute (moveStep mutators)
      (startMove graph order { source, target, targetNamespaces := namespaces }) schedule = some final) :
    NothingLost source final.world ∧ DeletesLast mutators final ∧ NeverActiveTwice final.world := by
  have safe : SafeMove mutators source final :=
    execute_invariant_of_step (fun _ _ _ safe taken => SafeMove.step safe apart taken)
      (SafeMove.start graph order (Kept.initial noCopies)) executed
  refine ⟨safe.kept.nothingLost, safe.deletesLast, fun place node origin isCluster both => ?_⟩
  rw [safe.kept.calm place node origin isCluster] at both
  exact absurd both.1 Bool.false_ne_true

/-! ## A move that is interrupted, and a move that loses a Cluster -/

def workload (namespaceName : String) : Object where
  typeMeta := { group := "cluster.x-k8s.io", version := "v1beta1", kind := "Cluster" }
  namespaceName := namespaceName
  name := "workload"
  uid := namespaceName
  body := .cluster false none

def workloadNode (namespaceName : String) : Node :=
  { ObjectGraph.newNode (workload namespaceName) with
    forceMove := true
    forceMoveHierarchy := true
    tenant := [namespaceName] }

def intoShared : Mutator := fun obj => some { obj with namespaceName := "shared" }

def batchOf (jobs : Nat) : List MoveAction := List.replicate jobs (.event (.attempt {})) ++ [.event .endBatch]

def moveOf (clusters : Nat) : List MoveAction :=
  batchOf clusters ++ batchOf 0 ++ batchOf clusters ++ batchOf clusters ++ batchOf clusters

def oneCluster : Store := Store.empty.put (workload "a")

def oneClusterGraph : ObjectGraph := { nodes := [workloadNode "a"], distinct := by decide }

theorem key_of_oneCluster {key : Key} (found : (oneCluster.entries key).isSome) : key = (workload "a").key := by
  by_contra differs
  rw [oneCluster, Store.put_of_ne _ differs] at found
  cases found

/-- The move stops after the Cluster has been created, and is run again. -/
theorem interruptedMove_safe : ∃ final,
    execute (moveStep [some intoShared]) (startMove oneClusterGraph asStored { source := oneCluster, target := .empty })
      (batchOf 1 ++ batchOf 0 ++ batchOf 1 ++ .event (.attempt {}) :: .start oneClusterGraph asStored :: moveOf 1) =
        some final ∧
      final.world.source.entries (workload "a").key = none ∧ NothingLost oneCluster final.world ∧
      DeletesLast [some intoShared] final ∧ NeverActiveTwice final.world := by
  have deleted : (execute (moveStep [some intoShared])
      (startMove oneClusterGraph asStored { source := oneCluster, target := .empty })
      (batchOf 1 ++ batchOf 0 ++ batchOf 1 ++ .event (.attempt {}) :: .start oneClusterGraph asStored :: moveOf 1)).map
        (fun final => final.world.source.entries (workload "a").key) = some none := by
    decide +kernel
  rcases Option.map_eq_some_iff.mp deleted with ⟨final, executed, gone⟩
  refine ⟨final, executed, gone, run_moveSafe _ _ _ _ ?_ ?_ oneClusterGraph asStored executed⟩
  · intro _ _ _ _ firstFound secondFound _ _ _
    rw [key_of_oneCluster firstFound, key_of_oneCluster secondFound]
  · exact fun _ _ _ _ => rfl

/-- The mutators change metadata only. -/
def MetadataOnly (mutators : List (Option Mutator)) : Prop :=
  ∀ obj mutated, applyMutators mutators obj = some mutated → mutated.typeMeta = obj.typeMeta ∧ mutated.body = obj.body

def twoClusters : Store := oneCluster.put (workload "b")

def twoClusterGraph : ObjectGraph := { nodes := [workloadNode "a", workloadNode "b"], distinct := by decide }

/-- Two Clusters of one name are moved to one namespace: the second overwrites the first. -/
theorem intoShared_loses_cluster :
    ¬ ∀ mutators source target namespaces graph order schedule final, MetadataOnly mutators →
      NoCopies mutators source target →
      execute (moveStep mutators) (startMove graph order { source, target, targetNamespaces := namespaces }) schedule =
        some final →
      NothingLost source final.world ∧ DeletesLast mutators final ∧ NeverActiveTwice final.world := by
  intro holds
  let place : Key := ⟨"cluster.x-k8s.io", "Cluster", "shared", "workload"⟩
  have outcome : (execute (moveStep [some intoShared])
      (startMove twoClusterGraph asStored { source := twoClusters, target := .empty }) (moveOf 2)).map
        (fun final => (final.world.source.entries (workload "a").key, final.world.origin)) =
      some (none, update (update (fun _ => none) place (some (workloadNode "a"))) place
        (some (workloadNode "b"))) := by
    rfl
  rcases Option.map_eq_some_iff.mp outcome with ⟨final, executed, reached⟩
  rcases Prod.mk.inj reached with ⟨gone, origins⟩
  have metadataOnly : MetadataOnly [some intoShared] := by
    rintro _ _ ⟨⟩
    exact ⟨rfl, rfl⟩
  have safe := holds _ _ _ _ _ _ _ final metadataOnly (fun _ _ _ _ => rfl) executed
  rcases safe.1 (workload "a").key rfl with inSource | ⟨other, _, origin, key, _⟩
  · rw [gone] at inSource
    cases inSource
  · rw [origins, update_idem] at origin
    by_cases here : other = place
    · rw [here, update_self] at origin
      rw [← Option.some.inj origin] at key
      exact absurd key (by decide)
    · rw [update_of_ne here] at origin
      cases origin

end ClusterApi.Clusterctl

import ClusterApi.Clusterctl.MoveSafety

namespace ClusterApi.Clusterctl

open Foundation List
open Foundation.Batches

/-!
# Owner references in the target

An object is written with owner references that carry the `newUID` of its
owners, which have been moved or restored before it.  The references are
right exactly if every `newUID` that is recorded for an owner of a written
object is the UID of the owner in the target.  This fails when a global object
that exists already is left alone, and when an object of a backup is found to
exist only by the create call: then the UID of the source, or of the backup, is
recorded.
-/

/-- The mutators change the key of an object, in a way that depends on the key
only, and leave its UID and its owner references alone. -/
def RenamesOnly (mutators : List (Option Mutator)) (rename : Key → Key) : Prop :=
  ∀ obj mutated, applyMutators mutators obj = some mutated →
    mutated.key = rename obj.key ∧ mutated.uid = obj.uid ∧ mutated.ownerReferences = obj.ownerReferences

/-- The nodes of a backup name their objects. -/
def NamesObjects (graph : ObjectGraph) : Prop :=
  ∀ node ∈ graph.nodes, ∀ obj, node.restoreObject = some obj → obj.key = node.key

/-- The reference is for this owner of the graph, under the UID that it has in the target. -/
def RefersTo (graph : ObjectGraph) (rename : Key → Key) (target : Store)
    (owner : Sigma fun _ : String => OwnerReferenceAttributes) (reference : OwnerReference) : Prop :=
  ∃ ownerNode stored, graph.find owner.1 = some ownerNode ∧ target.entries (rename ownerNode.key) = some stored ∧
    reference = ⟨ownerNode.identity.typeMeta, ownerNode.identity.name, stored.uid, owner.2⟩

/-- Every object written to the target has one reference for each owner of its node, and no other. -/
def ReferencesPlaced (graph : ObjectGraph) (rename : Key → Key) (world : World) : Prop :=
  ∀ place node, world.origin place = some node → ∃ obj, world.target.entries place = some obj ∧
    List.Forall₂ (RefersTo graph rename world.target) node.owners.entries obj.ownerReferences

/-- The UID that would be recorded without looking at the target is the right one. -/
def sameUID (existing known : Option Object) : Bool :=
  match existing, known with
  | some existing, some known => existing.uid = known.uid
  | _, _ => true

/-- A global object is not in the target yet, and an object that is there is found by
the get of the restore; otherwise the UIDs agree. -/
def keepsUID (rename : Key → Key) (calls : Calls) (world : World) : Job → Bool
  | .create node => !(node.isGlobal || node.isGlobalHierarchy) ||
      sameUID (world.target.entries (rename node.key)) (world.source.entries node.key)
  | .restore node => calls.getTarget || sameUID (world.target.entries (rename node.key)) node.restoreObject
  | _ => true

/-- The job writes the object of this node. -/
def Writes (node : Node) (job : Job) : Prop := job = .create node ∨ job = .restore node

/-- Some node that is written is owned by this one. -/
def Owns (written : Node → Prop) (node : Node) : Prop := ∃ child, written child ∧ child.isOwnedBy node.uid = true

/-- The condition on a step: a try that succeeds for an owner of a node that is written records the right UID. -/
def RecordsUID (mutators : List (Option Mutator)) (graph : ObjectGraph) (rename : Key → Key)
    (written : Node → Prop) (progress : Progress Job World) : Event Calls → Prop
  | .attempt calls => ∀ job ∈ progress.current, (perform mutators graph job calls progress.data).2 = true →
      ∀ node, Writes node job → Owns written node → keepsUID rename calls progress.data job = true
  | .endBatch => True

/-! ## What one job does to the target -/

/-- The `newUID` of the node is the UID of its object in the target. -/
def Placed (rename : Key → Key) (world : World) (node : Node) : Prop :=
  ∃ stored, world.target.entries (rename node.key) = some stored ∧ world.newUID node.uid = stored.uid

/-- What a job does to the objects of the target and to the recorded UIDs. -/
structure TargetEffect (graph : ObjectGraph) (job : Job) (world after : World) : Prop where
  /-- Objects keep their UIDs. -/
  uidKept : ∀ place stored, world.target.entries place = some stored →
    ∃ kept, after.target.entries place = some kept ∧ kept.uid = stored.uid
  /-- A UID is recorded only for the node whose object the job writes. -/
  recorded : ∀ uid, after.newUID uid = world.newUID uid ∨ ∃ node, Writes node job ∧ node.uid = uid
  /-- References are kept, or built from the recorded UIDs. -/
  written : ∀ place node, after.origin place = some node →
    (world.origin place = some node ∧ ∀ obj, world.target.entries place = some obj →
      ∃ kept, after.target.entries place = some kept ∧ kept.ownerReferences = obj.ownerReferences) ∨
    (Writes node job ∧ ∃ obj, after.target.entries place = some obj ∧
      obj.ownerReferences = buildOwnerChain graph world.newUID node)

variable {graph : ObjectGraph} {rename : Key → Key} {job : Job} {world after : World} {mutators : List (Option Mutator)}
  {node : Node} {calls : Calls} {restoreObject obj : Object} {uid : String}

theorem TargetEffect.of_kept (kept : ∀ place stored, world.target.entries place = some stored →
      ∃ other, after.target.entries place = some other ∧ other.uid = stored.uid ∧
        other.ownerReferences = stored.ownerReferences)
    (newUID : after.newUID = world.newUID) (origin : after.origin = world.origin) :
    TargetEffect graph job world after where
  uidKept place stored found := by
    rcases kept place stored found with ⟨other, otherFound, uid, _⟩
    exact ⟨other, otherFound, uid⟩
  recorded _ := .inl (by rw [newUID])
  written place node here := by
    refine .inl ⟨origin ▸ here, fun obj found => ?_⟩
    rcases kept place obj found with ⟨other, otherFound, _, references⟩
    exact ⟨other, otherFound, references⟩

theorem TargetEffect.of_same (target : after.target = world.target) (newUID : after.newUID = world.newUID)
    (origin : after.origin = world.origin) : TargetEffect graph job world after :=
  .of_kept (fun _ stored found => ⟨stored, target ▸ found, rfl, rfl⟩) newUID origin

theorem TargetEffect.refl : TargetEffect graph job world world := .of_same rfl rfl rfl

theorem placed_of_written (key : obj.key = rename node.key) :
    Placed rename ((world.putTarget node obj).setNewUID node obj.uid) node := by
  refine ⟨obj, ?_, Function.update_self ..⟩
  rw [← key]
  exact Store.put_self ..

theorem TargetEffect.of_written (obj : Object) (writes : Writes node job)
    (uid : ∀ existing, world.target.entries obj.key = some existing → obj.uid = existing.uid)
    (references : obj.ownerReferences = buildOwnerChain graph world.newUID node)
    (result : after = world.putTarget node obj ∨ after = (world.putTarget node obj).setNewUID node obj.uid) :
    TargetEffect graph job world after := by
  have target : after.target = world.target.put obj := by rcases result with rfl | rfl <;> rfl
  have origin : after.origin = Function.update world.origin obj.key (some node) := by
    rcases result with rfl | rfl <;> rfl
  refine ⟨fun place stored found => ?_, fun other => ?_, fun place writer here => ?_⟩
  · rw [target]
    by_cases same : place = obj.key
    · rw [same] at found ⊢
      exact ⟨obj, Store.put_self .., uid stored found⟩
    · exact ⟨stored, (Store.put_of_ne _ same).trans found, rfl⟩
  · rcases result with rfl | rfl
    · exact .inl rfl
    · by_cases same : other = node.uid
      · exact .inr ⟨node, writes, same.symm⟩
      · exact .inl (Function.update_of_ne same ..)
  · rw [origin] at here
    rw [target]
    by_cases same : place = obj.key
    · rw [same, Function.update_self] at here
      rw [same, ← Option.some.inj here]
      exact .inr ⟨writes, obj, Store.put_self .., references⟩
    · rw [Function.update_of_ne same] at here
      exact .inl ⟨here, fun stored found => ⟨stored, (Store.put_of_ne _ same).trans found, rfl⟩⟩

/-- What holds after a try of a job that writes the object of a node. -/
structure WriteEffect (graph : ObjectGraph) (rename : Key → Key) (calls : Calls) (job : Job)
    (node : Node) (world : World) (result : World × Bool) : Prop where
  effect : TargetEffect graph job world result.1
  stored : result.2 = true → (result.1.target.entries (rename node.key)).isSome
  placed : result.2 = true → (Placed rename result.1 node ↔ keepsUID rename calls world job = true)

theorem WriteEffect.failed (effect : TargetEffect graph job world after) :
    WriteEffect graph rename calls job node world (after, false) := ⟨effect, nofun, nofun⟩

theorem WriteEffect.written {succeeds : Bool} (obj : Object) (writes : Writes node job) (key : obj.key = rename node.key)
    (uid : ∀ existing, world.target.entries obj.key = some existing → obj.uid = existing.uid)
    (references : obj.ownerReferences = buildOwnerChain graph world.newUID node)
    (keeps : keepsUID rename calls world job = true) :
    WriteEffect graph rename calls job node world ((world.putTarget node obj).setNewUID node obj.uid, succeeds) where
  effect := .of_written obj writes uid references (.inr rfl)
  stored _ := key ▸ Option.isSome_of_eq_some (Store.put_self world.target obj)
  placed _ := iff_of_true (placed_of_written key) keeps

theorem WriteEffect.recorded {succeeds : Bool} {existing : Object} (writes : Writes node job)
    (found : world.target.entries (rename node.key) = some existing)
    (keeps : keepsUID rename calls world job = true ↔ existing.uid = uid) :
    WriteEffect graph rename calls job node world (world.setNewUID node uid, succeeds) where
  effect := by
    refine ⟨fun _ stored found => ⟨stored, found, rfl⟩, fun other => ?_,
      fun _ _ here => .inl ⟨here, fun obj found => ⟨obj, found, rfl⟩⟩⟩
    by_cases same : other = node.uid
    · exact .inr ⟨node, writes, same.symm⟩
    · exact .inl (Function.update_of_ne same ..)
  stored _ := Option.isSome_of_eq_some found
  placed _ := by
    have newUID : (world.setNewUID node uid).newUID node.uid = uid := Function.update_self ..
    rw [keeps, Placed, newUID, show (world.setNewUID node uid).target.entries (rename node.key) = _ from found]
    simp [eq_comm]

theorem WriteEffect.of_namespaces {result : World × Bool} {namespaces : List String}
    (effect : WriteEffect graph rename calls job node { world with targetNamespaces := namespaces } result)
    (same : keepsUID rename calls { world with targetNamespaces := namespaces } job = keepsUID rename calls world job) :
    WriteEffect graph rename calls job node world result :=
  ⟨⟨effect.effect.uidKept, effect.effect.recorded, effect.effect.written⟩, effect.stored, same ▸ effect.placed⟩

theorem createTargetObject_writeEffect (renames : RenamesOnly mutators rename) :
    WriteEffect graph rename calls (.create node) node world (createTargetObject mutators graph node calls world) := by
  have writes : Writes node (.create node) := .inl rfl
  rcases createTargetObject_cases mutators graph node calls world with
    ⟨_, failed⟩ | ⟨sourceObj, obj, namespaces, sourceFound, mutates, called⟩
  · rw [failed]
    exact .failed (.of_same rfl rfl rfl)
  · rw [called]
    rcases renames _ obj mutates with ⟨renamed, uid, references⟩
    have key : obj.key = rename node.key := by
      rw [renamed, ← world.source.keyed _ sourceObj sourceFound]
      rfl
    have sameKeeps : keepsUID rename calls { world with targetNamespaces := namespaces }
        (.create node) = keepsUID rename calls world (.create node) := rfl
    refine .of_namespaces ?_ sameKeeps
    rcases createOrUpdate_cases node obj calls { world with targetNamespaces := namespaces } with
      failed | ⟨reply, newUID, agrees, right, written⟩ | ⟨existing, succeeds, found, isGlobal, skipped⟩
    · rw [failed]
      exact .failed .refl
    · rw [written]
      rcases writeTarget_cases reply node obj newUID calls { world with targetNamespaces := namespaces } with
        nothing | targetWritten | ⟨_, recorded⟩
      · rw [nothing]
        exact .failed .refl
      · rw [targetWritten]
        exact .failed (.of_written { obj with uid := newUID } writes agrees references (.inl rfl))
      · rw [recorded]
        refine .written { obj with uid := newUID } writes key agrees references ?_
        rcases right with absent | notGlobal
        · simp [keepsUID, sameUID, ← key, show world.target.entries obj.key = none from absent]
        · simp [keepsUID, notGlobal]
    · rw [skipped, uid]
      rw [key] at found
      refine .recorded writes found ?_
      simp [keepsUID, sameUID, isGlobal, sourceFound, show world.target.entries (rename node.key) = _ from found]

theorem key_restoredObject (graph : ObjectGraph) (names : restoreObject.key = node.key) (newUID : String → String) :
    (restoredObject graph newUID node restoreObject).key = node.key := by
  rcases Key.mk.inj names with ⟨_, _, namespaceName, name⟩
  exact Key.ext rfl rfl namespaceName name

theorem restoreKey_eq (names : restoreObject.key = node.key) : restoreKey node restoreObject = node.key := by
  rcases Key.mk.inj names with ⟨group, kind, _, _⟩
  exact Key.ext group kind rfl rfl

theorem restoreTargetObject_writeEffect (names : ∀ obj, node.restoreObject = some obj → obj.key = node.key) :
    WriteEffect graph id calls (.restore node) node world (restoreTargetObject graph node calls world) := by
  have writes : Writes node (.restore node) := .inr rfl
  unfold restoreTargetObject
  split
  · exact .failed .refl
  next restoreObject restorable =>
  have placed := restoreKey_eq (names _ restorable)
  have key := key_restoredObject graph (names _ restorable) world.newUID
  split
  · next existing answered found =>
    rw [placed] at found
    exact .recorded writes found (iff_of_true (by simp [keepsUID, answered]) rfl)
  · next notFound =>
    dsimp only
    split
    · next absent =>
      have agrees : ∀ existing, world.target.entries (restoredObject graph world.newUID node restoreObject).key =
          some existing → calls.uid = existing.uid := by
        intro existing found
        rw [absent] at found
        cases found
      have keeps : keepsUID id calls world (.restore node) = true := by
        rw [key] at absent
        simp [keepsUID, sameUID, absent]
      cases calls.create with
      | failed => exact .failed .refl
      | lost =>
        exact .failed (.of_written { restoredObject graph world.newUID node restoreObject with uid := calls.uid } writes
          agrees rfl (.inl rfl))
      | ok =>
        exact .written { restoredObject graph world.newUID node restoreObject with uid := calls.uid } writes key agrees
          rfl keeps
    · next existing found =>
      split
      · exact .failed .refl
      rw [key] at found
      have unanswered : calls.getTarget = false := by
        by_contra answered
        exact notFound existing (Bool.not_eq_false _ ▸ answered) (placed ▸ found)
      refine .recorded writes found ?_
      simp [keepsUID, sameUID, unanswered, restorable, found, restoredObject]

/-- Nothing of the target has changed, and no UID has been recorded. -/
structure TargetSame (world after : World) : Prop where
  target : after.target = world.target
  newUID : after.newUID = world.newUID
  origin : after.origin = world.origin

theorem TargetSame.refl : TargetSame world world := ⟨rfl, rfl, rfl⟩

theorem TargetSame.effect (same : TargetSame world after) : TargetEffect graph job world after :=
  .of_same same.target same.newUID same.origin

theorem TargetSame.source (same : TargetSame world after) (source : Store) :
    TargetSame world { after with source } := ⟨same.target, same.newUID, same.origin⟩

theorem patchSource_targetSame (skeleton : Object) (change : Object → Object) (calls : Calls) :
    TargetSame world (patchSource skeleton change calls world).1 := by
  unfold patchSource
  split
  · exact write_rule _ _ .refl (TargetSame.refl.source _)
  · exact .refl

theorem deleteSourceObject_targetSame (node : Node) (calls : Calls) :
    TargetSame world (deleteSourceObject node calls world).1 := by
  unfold deleteSourceObject
  split
  · exact .refl
  · split
    · split
      · exact .refl
      · have ends : ∀ after, TargetSame world after → TargetSame world after := fun _ => id
        refine andThen_rule (write_rule _ _ .refl (TargetSame.refl.source _)) ends fun marked markedSame => ?_
        refine andThen_rule (P := TargetSame world) ?_ ends fun stripped strippedSame => ?_
        · split
          · exact markedSame
          · exact write_rule _ _ markedSame (markedSame.source _)
        · exact write_rule _ _ strippedSame (strippedSame.source _)
    · exact .refl

theorem patchTarget_targetEffect {skeleton : Object} {change : Object → Object}
    (key : ∀ obj, (change obj).key = obj.key) (uid : ∀ obj, (change obj).uid = obj.uid)
    (references : ∀ obj, (change obj).ownerReferences = obj.ownerReferences) (calls : Calls) :
    TargetEffect graph job world (patchTarget mutators skeleton change calls world).1 := by
  unfold patchTarget
  split
  · exact .refl
  · split
    · next obj _ found =>
      refine write_rule _ _ .refl (.of_kept (fun place stored storedFound => ?_) rfl rfl)
      by_cases here : place = (change obj).key
      · rw [here, key, world.target.keyed _ obj found, found] at storedFound
        rw [here, ← Option.some.inj storedFound]
        exact ⟨change obj, Store.put_self .., uid obj, references obj⟩
      · exact ⟨stored, (Store.put_of_ne _ here).trans storedFound, rfl, rfl⟩
    · exact .refl

section

variable (renames : RenamesOnly mutators rename)
  (restores : ∀ node, job = .restore node → rename = id ∧ ∀ obj, node.restoreObject = some obj → obj.key = node.key)
include renames restores

theorem perform_writeEffect (writes : Writes node job) :
    WriteEffect graph rename calls job node world (perform mutators graph job calls world) := by
  rcases writes with rfl | rfl
  · exact createTargetObject_writeEffect renames
  · rcases restores node rfl with ⟨rfl, names⟩
    exact restoreTargetObject_writeEffect names

theorem perform_targetEffect : TargetEffect graph job world (perform mutators graph job calls world).1 := by
  cases job with
  | pauseCluster | pauseClusterClass => exact (patchSource_targetSame ..).effect
  | waitReady =>
    rw [perform, waitReadyForMove_unchanged]
    exact .refl
  | create => exact (perform_writeEffect renames restores (.inl rfl)).effect
  | delete node => exact (deleteSourceObject_targetSame node calls).effect
  | resumeClusterClass =>
    exact patchTarget_targetEffect (key_markPaused false) (fun _ => rfl) (fun _ => rfl) calls
  | resumeCluster => exact patchTarget_targetEffect (key_setPaused false) (fun _ => rfl) (fun _ => rfl) calls
  | ensureNamespace namespaceName =>
    rcases ensureNamespace_cases namespaceName calls world with ⟨_, _, ensured⟩
    rw [perform, ensured]
    exact .of_same rfl rfl rfl
  | restore node => exact (perform_writeEffect renames restores (.inr rfl)).effect

end

/-! ## Owners come first -/

inductive Operation
  | move
  | fromDirectory

namespace Operation

/-- The batches before the objects are written. -/
def lead (operation : Operation) (graph : ObjectGraph) : List (Batch Job) :=
  match operation with
  | .move => pauseAndWait graph
  | .fromDirectory => ensureNamespaces graph

/-- The job that writes the object of a node. -/
def writeJob (operation : Operation) : Node → Job :=
  match operation with
  | .move => .create
  | .fromDirectory => .restore

/-- The batches after the objects are written. -/
def trail (operation : Operation) (order : IterationOrder) (graph : ObjectGraph) : List (Batch Job) :=
  match operation with
  | .move => deleteGroups (getMoveSequence order graph).groups ++ resume graph
  | .fromDirectory => resume graph

def writeGroups (operation : Operation) (groups : List (List Node)) : List (Batch Job) :=
  groups.map fun group => collecting (group.map operation.writeJob)

def script (operation : Operation) (order : IterationOrder) (graph : ObjectGraph) : List (Batch Job) :=
  match operation with
  | .move => Clusterctl.move order graph
  | .fromDirectory => Clusterctl.fromDirectory order graph

variable (operation : Operation) {order : IterationOrder}

theorem script_eq (order : IterationOrder) (graph : ObjectGraph) :
    operation.script order graph = operation.lead graph ++
      (operation.writeGroups (getMoveSequence order graph).groups ++ operation.trail order graph) := by
  cases operation with
  | move =>
    rw [script, Clusterctl.move, append_assoc, append_assoc]
    rfl
  | fromDirectory =>
    rfl

theorem writeJob_injective : Function.Injective operation.writeJob := by
  intro _ _ same
  cases operation with
  | move => exact Job.create.inj same
  | fromDirectory => exact Job.restore.inj same

theorem writes_writeJob (node : Node) : Writes node (operation.writeJob node) := by
  cases operation with
  | move => exact .inl rfl
  | fromDirectory => exact .inr rfl

theorem not_mem_lead (graph : ObjectGraph) (node : Node) :
    ∀ batch ∈ operation.lead graph, operation.writeJob node ∉ batch.jobs := by
  cases operation with
  | move => simp [lead, writeJob, pauseAndWait, oneByOne]
  | fromDirectory => simp [lead, writeJob, ensureNamespaces, oneByOne]

theorem writes_of_mem {graph : ObjectGraph} {batch : Batch Job} (inScript : batch ∈ operation.script order graph)
    {job : Job} (member : job ∈ batch.jobs) {node : Node} (writes : Writes node job) :
    job = operation.writeJob node ∧ ∃ group ∈ (getMoveSequence order graph).groups, node ∈ group := by
  cases operation with
  | move =>
    have inSequence := inSequence_of_mem_move inScript member
    rcases writes with rfl | rfl
    · exact ⟨rfl, inSequence⟩
    · exact absurd inSequence not_false
  | fromDirectory =>
    simp only [script, Clusterctl.fromDirectory, ensureNamespaces, restoreGroups, resume,
      mem_append, mem_cons, mem_map, not_mem_nil, or_false] at inScript
    rcases inScript with (rfl | ⟨group, inGroups, rfl⟩) | rfl | rfl
    all_goals rcases mem_map.mp member with ⟨_, inGroup, rfl⟩
    all_goals simp only [Writes, reduceCtorEq, Job.restore.injEq, or_false, false_or] at writes
    subst writes
    exact ⟨rfl, group, inGroups, inGroup⟩

theorem not_mem_trail (order : IterationOrder) (graph : ObjectGraph) (node : Node) :
    ∀ batch ∈ operation.trail order graph, operation.writeJob node ∉ batch.jobs := by
  cases operation with
  | move =>
    intro batch member
    simp only [trail, deleteGroups, resume, mem_append, mem_map, mem_cons, not_mem_nil, or_false] at member
    rcases member with ⟨_, _, rfl⟩ | rfl | rfl <;> simp [writeJob, oneByOne, collecting]
  | fromDirectory => simp [trail, writeJob, resume, oneByOne]

/-- The object of a node is written by one job of the script. -/
theorem script_once (order : IterationOrder) (graph : ObjectGraph) (node : Node) :
    ((operation.script order graph).flatMap Batch.jobs).Pairwise fun earlier later =>
      earlier = operation.writeJob node → later ≠ operation.writeJob node := by
  have absent : ∀ {batches : List (Batch Job)}, (∀ batch ∈ batches, operation.writeJob node ∉ batch.jobs) →
      ∀ job ∈ batches.flatMap Batch.jobs, job ≠ operation.writeJob node := by
    rintro batches outside job member rfl
    rcases mem_flatMap.mp member with ⟨batch, batchMember, jobMember⟩
    exact outside batch batchMember jobMember
  have lead := absent (operation.not_mem_lead graph node)
  have trail := absent (operation.not_mem_trail order graph node)
  have groups : (operation.writeGroups (getMoveSequence order graph).groups).flatMap Batch.jobs =
      (getMoveSequence order graph).groups.flatten.map operation.writeJob := by
    rw [writeGroups, flatMap_map, map_flatten, flatMap_def]
    rfl
  have distinct := (getMoveSequence_returns order graph).2.1.grown.nodup_placed.of_map
  rw [script_eq, flatMap_append, flatMap_append, groups]
  refine pairwise_append.mpr ⟨?_, pairwise_append.mpr ⟨?_, ?_, ?_⟩, ?_⟩
  · exact pairwise_of_forall_mem_list fun job member _ _ isJob => absurd isJob (lead job member)
  · exact (distinct.map operation.writeJob_injective).imp fun different isJob other => different (isJob.trans other.symm)
  · exact pairwise_of_forall_mem_list fun job member _ _ isJob => absurd isJob (trail job member)
  · exact fun _ _ job member _ => trail job member
  · exact fun job member _ _ isJob => absurd isJob (lead job member)

theorem owners_finished {graph : ObjectGraph} {progress : Progress Job World}
    (follows : Follows (operation.script order graph) progress) {node : Node}
    (current : Current progress (operation.writeJob node)) :
    ∀ owner ∈ node.owners.keys, ∃ ownerNode ∈ graph.nodes,
      ownerNode.uid = owner ∧ operation.writeJob ownerNode ∈ progress.finished := by
  intro owner owns
  have built := (getMoveSequence_returns order graph).2.1
  rcases follows.current_mem current with ⟨batch, inScript, member⟩
  rcases (operation.writes_of_mem inScript member (operation.writes_writeJob node)).2 with ⟨_, inGroups, inGroup⟩
  rcases append_of_mem inGroups with ⟨earlier, _, split⟩
  rcases mem_map.mp (built.grown.needs_earlier split inGroup owner (mem_append_left _ owns)) with
    ⟨ownerNode, ownerPlaced, same⟩
  rcases mem_flatten.mp ownerPlaced with ⟨ownerGroup, ownerInGroups, ownerInGroup⟩
  have ownerMoves : ownerNode ∈ graph.getMoveNodes :=
    built.only ownerGroup (split ▸ mem_append_left _ ownerInGroups) ownerNode ownerInGroup
  refine ⟨ownerNode, (mem_filter.mp ownerMoves).1, same, ?_⟩
  -- The node itself is in none of the earlier groups.
  have notEarlier : node ∉ earlier.flatten := by
    have distinct := Nodup.of_map Node.uid built.grown.nodup_placed
    rw [split, flatten_append, nodup_append', flatten_cons] at distinct
    exact fun before => distinct.2.2 before (mem_append_left _ inGroup)
  rw [script_eq, split, writeGroups, map_append, append_assoc, ← append_assoc] at follows
  refine follows.finished_before current (fun batch batchMember jobMember => ?_)
    (collecting (ownerGroup.map operation.writeJob)) ?_ _ (mem_map_of_mem ownerInGroup)
  · rcases mem_append.mp batchMember with inLead | inEarlier
    · exact operation.not_mem_lead graph node batch inLead jobMember
    · rcases mem_map.mp inEarlier with ⟨other, otherMember, rfl⟩
      rcases mem_map.mp jobMember with ⟨_, inOther, sameJob⟩
      rw [operation.writeJob_injective sameJob] at inOther
      exact notEarlier (mem_flatten.mpr ⟨other, otherMember, inOther⟩)
  · exact mem_append_right _ (mem_map_of_mem ownerInGroups)

end Operation

/-! ## The invariant -/

/-- The references of what has been written are built from the UIDs that are recorded now. -/
structure Linked (operation : Operation) (order : IterationOrder) (graph : ObjectGraph)
    (rename : Key → Key) (progress : Progress Job World) : Prop where
  follows : Follows (operation.script order graph) progress
  inGraph : ∀ node, operation.writeJob node ∈ progress.finished → node ∈ graph.nodes
  stored : ∀ node, operation.writeJob node ∈ progress.finished →
    (progress.data.target.entries (rename node.key)).isSome
  ownersFinished : ∀ place node, progress.data.origin place = some node → ∀ owner ∈ node.owners.keys,
    ∃ ownerNode ∈ graph.nodes, ownerNode.uid = owner ∧ operation.writeJob ownerNode ∈ progress.finished
  chained : ∀ place node, progress.data.origin place = some node →
    ∃ obj, progress.data.target.entries place = some obj ∧
      obj.ownerReferences = buildOwnerChain graph progress.data.newUID node

/-- The UIDs that are recorded for owners of what is written are those of the target. -/
def OwnersPlaced (operation : Operation) (rename : Key → Key) (written : Node → Prop)
    (progress : Progress Job World) : Prop :=
  ∀ node, operation.writeJob node ∈ progress.finished → Owns written node → Placed rename progress.data node

theorem buildOwnerChain_congr {first second : String → String}
    (same : ∀ owner ∈ node.owners.keys, first owner = second owner) :
    buildOwnerChain graph first node = buildOwnerChain graph second node := by
  unfold buildOwnerChain
  refine flatMap_congr fun owner member => ?_
  rw [same owner.1 (mem_map_of_mem member)]

theorem buildOwnerChain_refersTo_iff
    (owners : ∀ owner ∈ node.owners.keys, ∃ ownerNode ∈ graph.nodes, ownerNode.uid = owner) :
    Forall₂ (RefersTo graph rename world.target) node.owners.entries (buildOwnerChain graph world.newUID node) ↔
      ∀ owner ∈ graph.nodes, node.isOwnedBy owner.uid = true → Placed rename world owner := by
  have known : ∀ entry ∈ node.owners.entries, ∃ ownerNode ∈ graph.nodes, ownerNode.uid = entry.1 :=
    fun entry member => owners entry.1 (mem_map_of_mem member)
  have owned : ∀ owner : Node, node.isOwnedBy owner.uid = true ↔ ∃ entry ∈ node.owners.entries, entry.1 = owner.uid := by
    intro owner
    rw [Node.isOwnedBy, contains_iff_mem]
    exact mem_map
  simp only [owned]
  unfold buildOwnerChain
  clear owners owned
  generalize node.owners.entries = list at known ⊢
  induction list with
  | nil => simp
  | cons entry rest ih =>
    rcases known entry mem_cons_self with ⟨ownerNode, member, same⟩
    have found : graph.find entry.1 = some ownerNode := same ▸ ObjectGraph.find_uid member
    have refers : RefersTo graph rename world.target entry
        ⟨ownerNode.identity.typeMeta, ownerNode.identity.name, world.newUID entry.1, entry.2⟩ ↔
          Placed rename world ownerNode := by
      rw [RefersTo, found, Placed, same]
      simp
    rw [flatMap_cons, found, singleton_append, forall₂_cons]
    refine (and_congr refers (ih fun other later => known other (mem_cons_of_mem _ later))).trans ?_
    constructor
    · rintro ⟨placed, others⟩ owner ownerMember ⟨other, otherMember, isOwner⟩
      rcases mem_cons.mp otherMember with rfl | later
      · exact inj_on_of_nodup_map graph.distinct member ownerMember (same.trans isOwner) ▸ placed
      · exact others owner ownerMember ⟨other, later, isOwner⟩
    · intro all
      exact ⟨all ownerNode member ⟨entry, mem_cons_self, same.symm⟩, fun owner ownerMember ⟨other, later, isOwner⟩ =>
        all owner ownerMember ⟨other, mem_cons_of_mem _ later, isOwner⟩⟩

namespace Linked

variable {operation : Operation} {order : IterationOrder} {progress next : Progress Job World}

variable (linked : Linked operation order graph rename progress)
include linked

theorem current_inGraph (current : Current progress job) : ∀ node, Writes node job → node ∈ graph.nodes := by
  intro node writes
  rcases linked.follows.current_mem current with ⟨_, inScript, member⟩
  rcases (operation.writes_of_mem inScript member writes).2 with ⟨group, inGroups, inGroup⟩
  exact (mem_filter.mp ((getMoveSequence_returns order graph).2.1.only group inGroups node inGroup)).1

theorem current_writeJob (current : Current progress job) (writes : Writes node job) : job = operation.writeJob node := by
  rcases linked.follows.current_mem current with ⟨_, inScript, member⟩
  exact (operation.writes_of_mem inScript member writes).1

/-- The UID of a finished node is not recorded again. -/
theorem newUID_finished (current : Current progress job) (effect : TargetEffect graph job progress.data after)
    (finished : operation.writeJob node ∈ progress.finished) : after.newUID node.uid = progress.data.newUID node.uid := by
  refine (effect.recorded node.uid).resolve_right ?_
  rintro ⟨other, writes, uid⟩
  have same := inj_on_of_nodup_map graph.distinct (linked.current_inGraph current other writes)
    (linked.inGraph node finished) uid
  subst same
  cases linked.current_writeJob current writes
  exact linked.follows.current_not_finished current (operation.script_once order graph other) finished

theorem placed_iff (current : Current progress job) (effect : TargetEffect graph job progress.data after)
    (finished : operation.writeJob node ∈ progress.finished) :
    Placed rename after node ↔ Placed rename progress.data node := by
  rcases Option.isSome_iff_exists.mp (linked.stored node finished) with ⟨stored, found⟩
  rcases effect.uidKept _ stored found with ⟨kept, keptFound, uid⟩
  rw [Placed, Placed, linked.newUID_finished current effect finished, found, keptFound]
  simp [uid]

/-- References are right exactly if the UIDs of the owners are. -/
theorem referencesPlaced_iff :
    ReferencesPlaced graph rename progress.data ↔
      OwnersPlaced operation rename (fun child => ∃ place, progress.data.origin place = some child) progress := by
  have refer : ∀ place child, progress.data.origin place = some child →
      ((∃ obj, progress.data.target.entries place = some obj ∧
        Forall₂ (RefersTo graph rename progress.data.target) child.owners.entries obj.ownerReferences) ↔
        ∀ owner ∈ graph.nodes, child.isOwnedBy owner.uid = true → Placed rename progress.data owner) := by
    intro place child origin
    rcases linked.chained place child origin with ⟨obj, found, references⟩
    rw [← buildOwnerChain_refersTo_iff fun owner owns => ?_, found, ← references]
    · simp
    · rcases linked.ownersFinished place child origin owner owns with ⟨ownerNode, member, same, _⟩
      exact ⟨ownerNode, member, same⟩
  constructor
  · rintro placed node finished ⟨child, ⟨place, origin⟩, owns⟩
    exact (refer place child origin).mp (placed place child origin) node (linked.inGraph node finished) owns
  · intro placed place child origin
    refine (refer place child origin).mpr fun owner member owns => ?_
    have isKey : owner.uid ∈ child.owners.keys := by simpa [Node.isOwnedBy] using owns
    rcases linked.ownersFinished place child origin _ isKey with ⟨ownerNode, ownerMember, same, finished⟩
    cases inj_on_of_nodup_map graph.distinct ownerMember member same
    exact placed _ finished ⟨child, ⟨place, origin⟩, owns⟩

/-- What a try keeps, whether it succeeds or not. -/
theorem tried (current : Current progress job) (follows : Follows (operation.script order graph) next)
    (effect : TargetEffect graph job progress.data next.data)
    (finished : next.finished = progress.finished ∨ next.finished = job :: progress.finished ∧
      ∀ node, Writes node job → (next.data.target.entries (rename node.key)).isSome) :
    Linked operation order graph rename next := by
  have written := linked.current_inGraph current
  have more : ∀ {other}, other ∈ progress.finished → other ∈ next.finished := by
    intro other member
    rcases finished with same | ⟨more, _⟩
    · exact same ▸ member
    · exact more ▸ mem_cons_of_mem _ member
  have owners : ∀ place node, next.data.origin place = some node → ∀ owner ∈ node.owners.keys,
      ∃ ownerNode ∈ graph.nodes, ownerNode.uid = owner ∧ operation.writeJob ownerNode ∈ progress.finished := by
    intro place node origin owner owns
    rcases effect.written place node origin with ⟨before, _⟩ | ⟨writes, _⟩
    · exact linked.ownersFinished place node before owner owns
    · cases linked.current_writeJob current writes
      exact operation.owners_finished linked.follows current owner owns
  refine ⟨follows, fun node member => ?_, fun node member => ?_, fun place node origin owner owns => ?_,
    fun place node origin => ?_⟩
  · rcases finished with same | ⟨isNext, _⟩
    · exact linked.inGraph node (same ▸ member)
    · rcases mem_cons.mp (isNext ▸ member) with rfl | before
      · exact written node (operation.writes_writeJob node)
      · exact linked.inGraph node before
  · have kept : operation.writeJob node ∈ progress.finished → (next.data.target.entries (rename node.key)).isSome := by
      intro before
      rcases Option.isSome_iff_exists.mp (linked.stored node before) with ⟨stored, found⟩
      rcases effect.uidKept _ stored found with ⟨_, keptFound, _⟩
      exact Option.isSome_of_eq_some keptFound
    rcases finished with same | ⟨isNext, stored⟩
    · exact kept (same ▸ member)
    · rcases mem_cons.mp (isNext ▸ member) with rfl | before
      · exact stored node (operation.writes_writeJob node)
      · exact kept before
  · rcases owners place node origin owner owns with ⟨ownerNode, member, same, before⟩
    exact ⟨ownerNode, member, same, more before⟩
  · -- The owners are finished, so that their UIDs are the same before and after.
    have same : buildOwnerChain graph next.data.newUID node = buildOwnerChain graph progress.data.newUID node := by
      refine buildOwnerChain_congr fun owner owns => ?_
      rcases owners place node origin owner owns with ⟨ownerNode, _, rfl, before⟩
      exact linked.newUID_finished current effect before
    rcases effect.written place node origin with ⟨before, kept⟩ | ⟨_, obj, found, references⟩
    · rcases linked.chained place node before with ⟨obj, found, references⟩
      rcases kept obj found with ⟨other, otherFound, sameReferences⟩
      exact ⟨other, otherFound, by rw [sameReferences, references, same]⟩
    · exact ⟨obj, found, references.trans same.symm⟩

variable (restores : operation = .fromDirectory → rename = id ∧ NamesObjects graph)
include restores

theorem restoring (current : Current progress job) :
    ∀ node, job = .restore node → rename = id ∧ ∀ obj, node.restoreObject = some obj → obj.key = node.key := by
  rintro node rfl
  have restoreJob := linked.current_writeJob current (.inr rfl : Writes node _)
  cases operation with
  | move => cases restoreJob
  | fromDirectory =>
    exact ⟨(restores rfl).1, (restores rfl).2 node (linked.current_inGraph current node (.inr rfl))⟩

variable (renames : RenamesOnly mutators rename)
include renames

theorem step {event : Event Calls}
    (taken : Batches.step (perform mutators graph) backoffSteps progress event = some next) :
    Linked operation order graph rename next := by
  have follows := linked.follows.step taken
  cases stepped_of_step taken with
  | tried job _ isAttempt current data finished =>
    have restoring := linked.restoring restores current
    refine linked.tried current follows (data ▸ perform_targetEffect renames restoring) (finished.imp_right ?_)
    rintro ⟨more, succeeds⟩
    exact ⟨more, fun node writes => data ▸ (perform_writeEffect renames restoring writes).stored succeeds⟩
  | idle data finished =>
    rcases linked with ⟨-, inGraph, stored, ownersFinished, chained⟩
    rw [← finished] at inGraph stored ownersFinished
    rw [← data] at stored ownersFinished chained
    exact ⟨follows, inGraph, stored, ownersFinished, chained⟩

/-- A step keeps the UIDs of the owners right exactly if it records the right one. -/
theorem ownersPlaced_step_iff {written : Node → Prop} {event : Event Calls}
    (taken : Batches.step (perform mutators graph) backoffSteps progress event = some next) :
    OwnersPlaced operation rename written next ↔
      OwnersPlaced operation rename written progress ∧ RecordsUID mutators graph rename written progress event := by
  cases event with
  | endBatch =>
    rcases step_endBatch taken with ⟨_, _, _, ⟨_, rfl⟩ | ⟨_, rfl⟩⟩
    all_goals exact (and_iff_left trivial).symm
  | attempt calls =>
    rcases step_attempt taken with ⟨job, jobs, failFast, rest, running, remaining, rfl⟩
    have current : Current progress job := ⟨running, jobs, failFast, rest, remaining⟩
    have restoring := linked.restoring restores current
    have effect : TargetEffect graph job progress.data (perform mutators graph job calls progress.data).1 :=
      perform_targetEffect renames restoring
    have before : (∀ node, operation.writeJob node ∈ progress.finished → Owns written node →
        Placed rename (perform mutators graph job calls progress.data).1 node) ↔
          OwnersPlaced operation rename written progress :=
      forall₃_congr fun node finished _ => linked.placed_iff current effect finished
    have condition : RecordsUID mutators graph rename written progress (.attempt calls) ↔
        ((perform mutators graph job calls progress.data).2 = true → ∀ node, Writes node job → Owns written node →
          keepsUID rename calls progress.data job = true) := by
      rw [RecordsUID, current.current_eq]
      simp
    rw [condition, ← before, OwnersPlaced]
    have placed := fun node (writes : Writes node job) =>
      (@perform_writeEffect graph rename job progress.data mutators node calls renames restoring writes).placed
    generalize perform mutators graph job calls progress.data = result at placed ⊢
    rcases result with ⟨after, succeeds⟩
    cases succeeds with
    | false =>
      rw [and_iff_left (fun impossible => by cases impossible), (afterTry_effect job jobs failFast rest (after, false)).1]
      rcases (afterTry_effect job jobs failFast rest (after, false)).2 with same | ⟨_, impossible⟩
      · rw [same]
      · cases impossible
    | true =>
      simp only [afterTry, mem_cons]
      constructor
      · intro all
        refine ⟨fun node finished => all node (.inr finished), fun _ node writes owns => ?_⟩
        exact (placed node writes rfl).mp (all node (.inl (linked.current_writeJob current writes).symm) owns)
      · rintro ⟨others, keeps⟩ node (rfl | finished) owns
        · have writes := operation.writes_writeJob node
          exact (placed node writes rfl).mpr (keeps trivial node writes owns)
        · exact others node finished owns

end Linked

/-- While a move or a restore runs, and when it returns, every object written to
the target has exactly one owner reference for each of its owners, with the
UID of the owner in the target, if and only if every try that succeeded for an
owner of a written object has recorded the right UID. -/
theorem run_referencesPlaced_iff (operation : Operation) (mutators : List (Option Mutator)) (rename : Key → Key)
    (renames : RenamesOnly mutators rename) (order : IterationOrder) (graph : ObjectGraph)
    (restores : operation = .fromDirectory → rename = id ∧ NamesObjects graph) (source target : Store)
    (namespaces : List String) {schedule : List (Event Calls)} {final : Progress Job World}
    (executed : execute (Batches.step (perform mutators graph) backoffSteps)
      (Batches.start (operation.script order graph) { source, target, targetNamespaces := namespaces }) schedule =
        some final) :
    ReferencesPlaced graph rename final.data ↔
      Meets (Batches.step (perform mutators graph) backoffSteps)
        (RecordsUID mutators graph rename fun child => ∃ place, final.data.origin place = some child)
        (Batches.start (operation.script order graph) { source, target, targetNamespaces := namespaces })
        schedule := by
  have initially : Linked operation order graph rename
      (Batches.start (operation.script order graph) { source, target, targetNamespaces := namespaces }) :=
    ⟨follows_start .., fun _ impossible => absurd impossible not_mem_nil,
      fun _ impossible => absurd impossible not_mem_nil, fun _ _ absent => (nomatch absent),
      fun _ _ absent => (nomatch absent)⟩
  have linked := execute_invariant_of_step
    (fun _ _ _ linked taken => Linked.step linked restores renames taken) initially executed
  have exactly := @execute_exact _ _ _ _ _ _ _ _
    (OwnersPlaced operation rename fun child => ∃ place, final.data.origin place = some child)
    (fun _ _ _ linked taken => Linked.step linked restores renames taken)
    (fun _ _ _ linked taken => linked.ownersPlaced_step_iff restores renames taken) initially executed
  rw [linked.referencesPlaced_iff, exactly]
  exact and_iff_right fun _ impossible => absurd impossible not_mem_nil

/-! ## A global object that the target has already -/

def identityType : TypeMeta := { group := "infrastructure.cluster.x-k8s.io", version := "v1beta1", kind := "ClusterIdentity" }

def clusterIdentity (uid : String) : Object :=
  { typeMeta := identityType, namespaceName := "", name := "default", uid := uid }

def credentials : Object where
  typeMeta := { version := "v1", kind := "Secret" }
  namespaceName := "capi-system"
  name := "credentials"
  uid := "secret"
  ownerReferences := [{ typeMeta := identityType, name := "default", uid := "identity" }]

def identityNode : Node :=
  { ObjectGraph.newNode (clusterIdentity "identity") with
    forceMove := true
    forceMoveHierarchy := true
    isGlobal := true
    isGlobalHierarchy := true
    tenant := ["identity"] }

def credentialsNode : Node :=
  { (ObjectGraph.newNode credentials).addOwner "identity" {} with
    isGlobalHierarchy := true
    tenant := ["identity"] }

def identityGraph : ObjectGraph := { nodes := [identityNode, credentialsNode], distinct := by decide }

def withIdentity : Store := (Store.empty.put (clusterIdentity "identity")).put credentials

def tries (uids : List String) : List (Event Calls) := uids.map (fun uid => .attempt { uid := uid }) ++ [.endBatch]

def moveOfTwo : List (Event Calls) :=
  tries [] ++ tries [] ++ tries ["", ""] ++ tries ["new-identity"] ++ tries ["new-secret"] ++
    tries [""] ++ tries [""] ++ tries [] ++ tries []

def identityMove (target : Store) : Option (Progress Job World) :=
  execute (Batches.step (perform [] identityGraph) backoffSteps)
    (Batches.start (move asStored identityGraph) { source := withIdentity, target := target }) moveOfTwo

/-- Every try records the right UID. -/
def KeepsUIDs (progress : Progress Job World) : Event Calls → Prop
  | .attempt calls => ∀ job ∈ progress.current, keepsUID id calls progress.data job = true
  | .endBatch => True

instance (progress : Progress Job World) (event : Event Calls) : Decidable (KeepsUIDs progress event) :=
  match event with
  | .attempt calls => inferInstanceAs (Decidable (∀ job ∈ progress.current, keepsUID id calls progress.data job = true))
  | .endBatch => isTrue trivial

theorem identityMove_keepsUID :
    Meets (Batches.step (perform [] identityGraph) backoffSteps) KeepsUIDs
      (Batches.start (move asStored identityGraph) { source := withIdentity, target := .empty }) moveOfTwo := by
  decide +kernel

/-- The target has none of the objects: the reference gets the new UID of the owner. -/
theorem newIdentity_referencesPlaced : ∃ final, identityMove .empty = some final ∧ final.succeeded = true ∧
    (final.data.target.entries credentials.key).map (fun obj => obj.ownerReferences.map OwnerReference.uid) =
      some ["new-identity"] ∧ ReferencesPlaced identityGraph id final.data := by
  have outcome : (identityMove .empty).map (fun final => (final.succeeded,
      (final.data.target.entries credentials.key).map fun obj => obj.ownerReferences.map OwnerReference.uid)) =
      some (true, some ["new-identity"]) := by
    decide +kernel
  rcases Option.map_eq_some_iff.mp outcome with ⟨final, executed, reached⟩
  rcases Prod.mk.inj reached with ⟨succeeded, references⟩
  have renames : RenamesOnly [] id := by
    rintro _ _ ⟨⟩
    exact ⟨rfl, rfl, rfl⟩
  refine ⟨final, executed, succeeded, references, ?_⟩
  refine (run_referencesPlaced_iff .move [] id renames asStored identityGraph nofun withIdentity .empty []
    executed).mpr (Meets.mono ?_ identityMove_keepsUID)
  rintro progress (calls | _) keeps
  · exact fun job isJob _ _ _ _ => keeps job isJob
  · trivial

/-- The target has the global owner already: the reference keeps the UID that the owner has in the source. -/
theorem existingIdentity_breaks_reference :
    ¬ ∀ order graph source target namespaces schedule final,
      execute (Batches.step (perform [] graph) backoffSteps)
        (Batches.start (move order graph) { source, target, targetNamespaces := namespaces }) schedule = some final →
      final.succeeded = true → ReferencesPlaced graph id final.data := by
  intro holds
  have outcome : (identityMove (Store.empty.put (clusterIdentity "existing"))).map (fun final => (final.succeeded,
      final.data.origin credentials.key,
      (final.data.target.entries credentials.key).map fun obj => obj.ownerReferences.map OwnerReference.uid,
      (final.data.target.entries (clusterIdentity "").key).map Object.uid)) =
      some (true, some credentialsNode, some ["identity"], some "existing") := by
    rfl
  rcases Option.map_eq_some_iff.mp outcome with ⟨final, executed, reached⟩
  simp only [Prod.mk.injEq] at reached
  rcases reached with ⟨succeeded, origin, references, existing⟩
  rcases holds _ _ _ _ _ _ final executed succeeded _ _ origin with ⟨_, found, refer⟩
  rw [found, Option.map_some, Option.some_inj] at references
  rcases map_eq_singleton_iff.mp references with ⟨_, list, uid⟩
  rw [list, show credentialsNode.owners.entries = [⟨"identity", {}⟩] from rfl] at refer
  rcases (forall₂_cons.mp refer).1 with ⟨ownerNode, stored, known, storedFound, rfl⟩
  have owner : identityNode = ownerNode := Option.some.inj known
  subst owner
  rw [show (clusterIdentity "").key = id identityNode.key from rfl, storedFound, Option.map_some, Option.some_inj]
    at existing
  exact absurd (existing.symm.trans uid) (by decide)

end ClusterApi.Clusterctl

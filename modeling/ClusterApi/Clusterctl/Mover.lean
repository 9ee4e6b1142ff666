import ClusterApi.Clusterctl.MoveSequence
import ClusterApi.Foundation.Batches
import ClusterApi.Foundation.Runs

namespace ClusterApi.Clusterctl

open Foundation
open Foundation.Batches

/-!
# Moving and restoring objects

`move` and `fromDirectory` as scripts of retried jobs over the two management
clusters.  Each job is one function of the source that is wrapped in
`retryWithExponentialBackoff`; the answers of the API server to its calls are
an input, so that a job may fail after any of them.

The setting is a move that is not a dry run, and in which nobody else writes.
-/

/-- What the API server knows an object by. -/
@[ext]
structure Key where
  group : String
  kind : String
  namespaceName : String
  name : String
  deriving DecidableEq

def Object.key (obj : Object) : Key := ⟨obj.typeMeta.group, obj.typeMeta.kind, obj.namespaceName, obj.name⟩

def Node.key (node : Node) : Key :=
  ⟨node.identity.typeMeta.group, node.identity.typeMeta.kind, node.identity.namespaceName, node.identity.name⟩

def Key.groupKind (key : Key) : String × String := (key.group, key.kind)

/-- The objects of a management cluster, each under its key. -/
structure Store where
  entries : Key → Option Object
  keyed : ∀ key obj, entries key = some obj → obj.key = key

namespace Store

def empty : Store := ⟨fun _ => none, fun _ _ absent => nomatch absent⟩

def put (store : Store) (obj : Object) : Store where
  entries := Function.update store.entries obj.key (some obj)
  keyed := by
    intro key stored found
    by_cases same : key = obj.key
    · subst same
      rw [Function.update_self] at found
      rw [← Option.some.inj found]
    · rw [Function.update_of_ne same] at found
      exact store.keyed key stored found

def remove (store : Store) (key : Key) : Store where
  entries := Function.update store.entries key none
  keyed := by
    intro other stored found
    by_cases same : other = key
    · subst same
      rw [Function.update_self] at found
      cases found
    · rw [Function.update_of_ne same] at found
      exact store.keyed other stored found

@[simp]
theorem put_self (store : Store) (obj : Object) : (store.put obj).entries obj.key = some obj :=
  Function.update_self ..

theorem put_of_ne (store : Store) {obj : Object} {key : Key} (differs : key ≠ obj.key) :
    (store.put obj).entries key = store.entries key :=
  Function.update_of_ne differs ..

@[simp]
theorem remove_self (store : Store) (key : Key) : (store.remove key).entries key = none :=
  Function.update_self ..

end Store

structure World where
  source : Store
  target : Store
  targetNamespaces : List String := []
  /-- The `newUID` of the nodes of the graph. -/
  newUID : String → String := fun _ => ""
  /-- For an object that has been written to the target, the node it was written for. -/
  origin : Key → Option Node := fun _ => none

/-- The answer to the get of a namespace. -/
inductive NamespaceReply
  | ok
  | forbidden
  | failed

/-- The answers of the API servers to the calls of one job. -/
structure Calls where
  getSource : Bool := true
  getNamespace : NamespaceReply := .ok
  listNamespaces : Bool := true
  createNamespace : Reply := .ok
  create : Reply := .ok
  /-- The UID that the target gives to a created object. -/
  uid : String := ""
  getTarget : Bool := true
  update : Reply := .ok
  patch : Reply := .ok
  removeFinalizers : Reply := .ok
  delete : Reply := .ok

/-- A write that may fail, or take effect although its answer is lost. -/
def write (reply : Reply) (effect : World → World) (world : World) : World × Bool :=
  match reply with
  | .ok => (effect world, true)
  | .failed => (world, false)
  | .lost => (effect world, false)

/-- Go on after a job has succeeded so far. -/
def andThen (result : World × Bool) (continuation : World → World × Bool) : World × Bool :=
  if result.2 then continuation result.1 else result

theorem write_cases (reply : Reply) (effect : World → World) (world : World) :
    write reply effect world = (world, false) ∨ ∃ succeeds, write reply effect world = (effect world, succeeds) := by
  cases reply with
  | ok => exact .inr ⟨true, rfl⟩
  | failed => exact .inl rfl
  | lost => exact .inr ⟨false, rfl⟩

theorem write_rule {P : World → Prop} {world : World} (reply : Reply) (effect : World → World)
    (unchanged : P world) (changed : P (effect world)) : P (write reply effect world).1 := by
  rcases write_cases reply effect world with same | ⟨_, written⟩
  · rw [same]
    exact unchanged
  · rw [written]
    exact changed

theorem andThen_rule {P Q : World → Prop} {result : World × Bool} {continuation : World → World × Bool}
    (first : P result.1) (ends : ∀ world, P world → Q world) (second : ∀ world, P world → Q (continuation world).1) :
    Q (andThen result continuation).1 := by
  unfold andThen
  split
  · exact second result.1 first
  · exact ends result.1 first

/-! ## Mutators -/

abbrev Mutator := Object → Option Object

/-- A missing mutator is an error. -/
def applyMutators (mutators : List (Option Mutator)) (obj : Object) : Option Object :=
  mutators.foldlM (fun obj mutator => mutator.bind fun mutate => mutate obj) obj

/-! ## Pausing -/

def Object.setPaused (paused : Bool) (obj : Object) : Object :=
  { obj with body := match obj.body with
      | .cluster _ topologyClass => .cluster paused topologyClass
      | body => body }

/-- A Cluster without its content, as the mutators see it when only its key is needed. -/
def clusterSkeleton (node : Node) : Object where
  typeMeta := { group := "cluster.x-k8s.io", version := "v1beta1", kind := "Cluster" }
  namespaceName := node.identity.namespaceName
  name := node.identity.name
  uid := ""
  body := .cluster false none

def clusterClassSkeleton (node : Node) : Object where
  typeMeta := { group := "cluster.x-k8s.io", version := "v1beta1", kind := "ClusterClass" }
  namespaceName := node.identity.namespaceName
  name := node.identity.name
  uid := ""

def pausedKey : String := "cluster.x-k8s.io/paused"

def Object.markPaused (pause : Bool) (obj : Object) : Object :=
  { obj with annotations :=
      if pause then obj.annotations.insert pausedKey else obj.annotations.filter fun entry => entry ≠ pausedKey }

theorem key_setPaused (paused : Bool) (obj : Object) : (obj.setPaused paused).key = obj.key := rfl

theorem key_markPaused (pause : Bool) (obj : Object) : (obj.markPaused pause).key = obj.key := rfl

/-- Read and change an object of the source. -/
def patchSource (skeleton : Object) (change : Object → Object) (calls : Calls) (world : World) : World × Bool :=
  match calls.getSource, world.source.entries skeleton.key with
  | true, some obj => write calls.patch (fun world => { world with source := world.source.put (change obj) }) world
  | _, _ => (world, false)

/-- Read and change an object of the target, whose key the mutators determine. -/
def patchTarget (mutators : List (Option Mutator)) (skeleton : Object) (change : Object → Object)
    (calls : Calls) (world : World) : World × Bool :=
  match applyMutators mutators skeleton with
  | none => (world, false)
  | some mutated =>
    match calls.getTarget, world.target.entries mutated.key with
    | true, some obj => write calls.patch (fun world => { world with target := world.target.put (change obj) }) world
    | _, _ => (world, false)

def pauseSourceCluster (cluster : Node) : Calls → World → World × Bool :=
  patchSource (clusterSkeleton cluster) (Object.setPaused true)

def pauseSourceClusterClass (clusterClass : Node) : Calls → World → World × Bool :=
  patchSource (clusterClassSkeleton clusterClass) (Object.markPaused true)

def resumeTargetCluster (mutators : List (Option Mutator)) (cluster : Node) : Calls → World → World × Bool :=
  patchTarget mutators (clusterSkeleton cluster) (Object.setPaused false)

def resumeTargetClusterClass (mutators : List (Option Mutator)) (clusterClass : Node) : Calls → World → World × Bool :=
  patchTarget mutators (clusterClassSkeleton clusterClass) (Object.markPaused false)

/-- A node that blocks the move is read again, until it does not block it any more. -/
def waitReadyForMove (node : Node) (calls : Calls) (world : World) : World × Bool :=
  if node.blockingMove then
    match calls.getSource, world.source.entries node.key with
    | true, some obj => (world, !obj.annotations.contains blockMoveKey)
    | _, _ => (world, false)
  else (world, true)

/-! ## Creating objects in the target -/

/-- A namespace that may not be read is looked for in the list of all namespaces,
and is never created. -/
def ensureNamespace (namespaceName : String) (calls : Calls) (world : World) : World × Bool :=
  match calls.getNamespace with
  | .failed => (world, false)
  | .forbidden => (world, calls.listNamespaces && world.targetNamespaces.contains namespaceName)
  | .ok =>
    if world.targetNamespaces.contains namespaceName then (world, true)
    else write calls.createNamespace
      (fun world => { world with targetNamespaces := namespaceName :: world.targetNamespaces }) world

theorem ensureNamespace_cases (namespaceName : String) (calls : Calls) (world : World) :
    ∃ namespaces succeeds,
      ensureNamespace namespaceName calls world = ({ world with targetNamespaces := namespaces }, succeeds) := by
  unfold ensureNamespace
  split
  · exact ⟨_, _, rfl⟩
  · exact ⟨_, _, rfl⟩
  · split
    · exact ⟨_, _, rfl⟩
    · rcases write_cases calls.createNamespace
        (fun world => { world with targetNamespaces := namespaceName :: world.targetNamespaces }) world with
        same | ⟨succeeds, created⟩
      · exact ⟨_, _, same⟩
      · exact ⟨_, succeeds, created⟩

/-- The owner references of a node, with the UIDs that the owners have got in the target. -/
def buildOwnerChain (graph : ObjectGraph) (newUID : String → String) (node : Node) : List OwnerReference :=
  node.owners.entries.flatMap fun owner =>
    match graph.find owner.1 with
    | none => []
    | some ownerNode =>
      [{ typeMeta := ownerNode.identity.typeMeta
         name := ownerNode.identity.name
         uid := newUID owner.1
         attributes := owner.2 }]

/-- An object of the node is written to the target. -/
def World.putTarget (world : World) (node : Node) (obj : Object) : World :=
  { world with
    target := world.target.put obj
    origin := Function.update world.origin obj.key (some node) }

def World.setNewUID (world : World) (node : Node) (uid : String) : World :=
  { world with newUID := Function.update world.newUID node.uid uid }

/-- The patch of the managed fields, which changes nothing else. -/
def patchTopologyManagedFields (calls : Calls) (world : World) : World × Bool := write calls.patch id world

/-- Write an object under the UID that it has in the target, and record the UID. -/
def writeTarget (reply : Reply) (node : Node) (obj : Object) (uid : String) (calls : Calls)
    (world : World) : World × Bool :=
  andThen (write reply (fun world => world.putTarget node { obj with uid := uid }) world) fun world =>
    patchTopologyManagedFields calls (world.setNewUID node uid)

/-- The create call and what follows it.  An object that exists already is updated,
unless it is global or belongs to a global object; then `obj` still has the UID of the source. -/
def createOrUpdate (node : Node) (obj : Object) (calls : Calls) (world : World) : World × Bool :=
  match world.target.entries obj.key with
  | none => writeTarget calls.create node obj calls.uid calls world
  | some existing =>
    if calls.create ≠ .ok then (world, false)
    else if node.isGlobal || node.isGlobalHierarchy then
      patchTopologyManagedFields calls (world.setNewUID node obj.uid)
    else if calls.getTarget then writeTarget calls.update node obj existing.uid calls world
    else (world, false)

theorem patchTopologyManagedFields_cases (calls : Calls) (world : World) :
    ∃ succeeds, patchTopologyManagedFields calls world = (world, succeeds) := by
  rcases write_cases calls.patch id world with same | ⟨succeeds, patched⟩
  · exact ⟨false, same⟩
  · exact ⟨succeeds, patched⟩

theorem writeTarget_cases (reply : Reply) (node : Node) (obj : Object) (uid : String)
    (calls : Calls) (world : World) : writeTarget reply node obj uid calls world = (world, false) ∨
      writeTarget reply node obj uid calls world = (world.putTarget node { obj with uid := uid }, false) ∨
      ∃ succeeds, writeTarget reply node obj uid calls world =
        ((world.putTarget node { obj with uid := uid }).setNewUID node uid, succeeds) := by
  cases reply with
  | failed => exact .inl rfl
  | lost => exact .inr (.inl rfl)
  | ok => exact .inr (.inr (patchTopologyManagedFields_cases calls _))

/-- The call fails, or writes the object under the UID that it has in the target,
or leaves a global object alone and records the UID of the source. -/
theorem createOrUpdate_cases (node : Node) (obj : Object) (calls : Calls) (world : World) :
    createOrUpdate node obj calls world = (world, false) ∨
      (∃ reply uid, (∀ existing, world.target.entries obj.key = some existing → uid = existing.uid) ∧
        (world.target.entries obj.key = none ∨ (node.isGlobal || node.isGlobalHierarchy) = false) ∧
        createOrUpdate node obj calls world = writeTarget reply node obj uid calls world) ∨
      ∃ existing succeeds, world.target.entries obj.key = some existing ∧
        (node.isGlobal || node.isGlobalHierarchy) = true ∧
        createOrUpdate node obj calls world = (world.setNewUID node obj.uid, succeeds) := by
  unfold createOrUpdate
  split
  · next absent =>
    refine .inr (.inl ⟨calls.create, calls.uid, fun existing found => ?_, .inl absent, rfl⟩)
    rw [absent] at found
    cases found
  · next existing found =>
    split
    · exact .inl rfl
    · split
      · next isGlobal =>
        rcases patchTopologyManagedFields_cases calls (world.setNewUID node obj.uid) with ⟨succeeds, patched⟩
        exact .inr (.inr ⟨existing, succeeds, found, isGlobal, patched⟩)
      · next notGlobal =>
        split
        · refine .inr (.inl ⟨calls.update, existing.uid, fun other otherFound => ?_,
            .inr (Bool.eq_false_iff.mpr notGlobal), rfl⟩)
          rw [found] at otherFound
          rw [Option.some.inj otherFound]
        · exact .inl rfl

def createTargetObject (mutators : List (Option Mutator)) (graph : ObjectGraph) (node : Node)
    (calls : Calls) (world : World) : World × Bool :=
  match calls.getSource, world.source.entries node.key with
  | true, some sourceObj =>
    match applyMutators mutators { sourceObj with ownerReferences := buildOwnerChain graph world.newUID node } with
    | none => (world, false)
    | some obj =>
      andThen (if node.isGlobal then (world, true) else ensureNamespace obj.namespaceName calls world)
        (createOrUpdate node obj calls)
  | _, _ => (world, false)

theorem createTargetObject_cases (mutators : List (Option Mutator)) (graph : ObjectGraph)
    (node : Node) (calls : Calls) (world : World) :
    (∃ namespaces, createTargetObject mutators graph node calls world =
        ({ world with targetNamespaces := namespaces }, false)) ∨
      ∃ sourceObj obj namespaces, world.source.entries node.key = some sourceObj ∧
        applyMutators mutators { sourceObj with ownerReferences := buildOwnerChain graph world.newUID node } = some obj ∧
        createTargetObject mutators graph node calls world =
          createOrUpdate node obj calls { world with targetNamespaces := namespaces } := by
  unfold createTargetObject
  split
  · next sourceObj _ found =>
    split
    · exact .inl ⟨_, rfl⟩
    · next obj mutates =>
      have ensured : ∃ namespaces succeeds,
          (if node.isGlobal then (world, true) else ensureNamespace obj.namespaceName calls world) =
            ({ world with targetNamespaces := namespaces }, succeeds) := by
        split
        · exact ⟨_, _, rfl⟩
        · exact ensureNamespace_cases ..
      rcases ensured with ⟨namespaces, succeeds, ensured⟩
      rw [ensured]
      cases succeeds with
      | false => exact .inl ⟨namespaces, rfl⟩
      | true => exact .inr ⟨sourceObj, obj, namespaces, found, mutates, rfl⟩
  · exact .inl ⟨_, rfl⟩

/-- The object of a backup as it is created. -/
def restoredObject (graph : ObjectGraph) (newUID : String → String) (node : Node) (restoreObject : Object) : Object :=
  { restoreObject with
    typeMeta := node.identity.typeMeta
    ownerReferences := buildOwnerChain graph newUID node }

/-- The key under which an existing object is looked for. -/
def restoreKey (node : Node) (restoreObject : Object) : Key :=
  { node.key with group := restoreObject.typeMeta.group, kind := restoreObject.typeMeta.kind }

/-- An existing object is left as it is.  After any error of the get, not only when
nothing is found, the object is created, and that it exists already is then no error. -/
def restoreTargetObject (graph : ObjectGraph) (node : Node) (calls : Calls) (world : World) : World × Bool :=
  match node.restoreObject with
  | none => (world, false)
  | some restoreObject =>
    match calls.getTarget, world.target.entries (restoreKey node restoreObject) with
    | true, some existing => (world.setNewUID node existing.uid, true)
    | _, _ =>
      let obj := restoredObject graph world.newUID node restoreObject
      match world.target.entries obj.key with
      | none =>
        andThen (write calls.create (fun world => world.putTarget node { obj with uid := calls.uid }) world)
          fun world => (world.setNewUID node calls.uid, true)
      | some _ => if calls.create ≠ .ok then (world, false) else (world.setNewUID node obj.uid, true)

/-! ## Deleting objects from the source -/

def deleteForMoveKey : String := "clusterctl.cluster.x-k8s.io/delete-for-move"

/-- The annotation that marks the deletion replaces all annotations of the object. -/
def deleteSourceObject (node : Node) (calls : Calls) (world : World) : World × Bool :=
  if node.isGlobal || node.isGlobalHierarchy then (world, true)
  else if calls.getSource then
    match world.source.entries node.key with
    | none => (world, true)
    | some sourceObj =>
      let marked := { sourceObj with annotations := [deleteForMoveKey] }
      andThen (write calls.patch (fun world => { world with source := world.source.put marked }) world) fun world =>
        andThen (if marked.finalizers.isEmpty then (world, true)
            else write calls.removeFinalizers
              (fun world => { world with source := world.source.put { marked with finalizers := [] } }) world)
          (write calls.delete fun world => { world with source := world.source.remove node.key })
  else (world, false)

/-! ## The scripts -/

inductive Job
  | pauseCluster (cluster : Node)
  | pauseClusterClass (clusterClass : Node)
  | waitReady (node : Node)
  | create (node : Node)
  | delete (node : Node)
  | resumeClusterClass (clusterClass : Node)
  | resumeCluster (cluster : Node)
  | ensureNamespace (namespaceName : String)
  | restore (node : Node)

def perform (mutators : List (Option Mutator)) (graph : ObjectGraph) : Job → Calls → World → World × Bool
  | .pauseCluster cluster => pauseSourceCluster cluster
  | .pauseClusterClass clusterClass => pauseSourceClusterClass clusterClass
  | .waitReady node => waitReadyForMove node
  | .create node => createTargetObject mutators graph node
  | .delete node => deleteSourceObject node
  | .resumeClusterClass clusterClass => resumeTargetClusterClass mutators clusterClass
  | .resumeCluster cluster => resumeTargetCluster mutators cluster
  | .ensureNamespace namespaceName => ensureNamespace namespaceName
  | .restore node => restoreTargetObject graph node

/-- Stop at the first error. -/
def oneByOne (jobs : List Job) : Batch Job := ⟨jobs, true⟩

/-- Collect the errors of a group. -/
def collecting (jobs : List Job) : Batch Job := ⟨jobs, false⟩

def pauseAndWait (graph : ObjectGraph) : List (Batch Job) :=
  [oneByOne (graph.getClusters.map .pauseCluster), oneByOne (graph.getClusterClasses.map .pauseClusterClass),
    oneByOne (graph.getMoveNodes.map .waitReady)]

def createGroups (groups : List (List Node)) : List (Batch Job) :=
  groups.map fun group => collecting (group.map .create)

/-- The groups are deleted in reverse order. -/
def deleteGroups (groups : List (List Node)) : List (Batch Job) :=
  groups.reverse.map fun group => collecting (group.map .delete)

def resume (graph : ObjectGraph) : List (Batch Job) :=
  [oneByOne (graph.getClusterClasses.map .resumeClusterClass), oneByOne (graph.getClusters.map .resumeCluster)]

def move (order : IterationOrder) (graph : ObjectGraph) : List (Batch Job) :=
  let groups := (getMoveSequence order graph).groups
  pauseAndWait graph ++ createGroups groups ++ deleteGroups groups ++ resume graph

/-- The namespaces of the nodes to be moved, each once. -/
def expectedNamespaces (graph : ObjectGraph) : List String :=
  ((graph.getMoveNodes.filter fun node => !node.isGlobal).map fun node => node.identity.namespaceName).dedup

def ensureNamespaces (graph : ObjectGraph) : List (Batch Job) :=
  [oneByOne ((expectedNamespaces graph).map .ensureNamespace)]

def restoreGroups (groups : List (List Node)) : List (Batch Job) :=
  groups.map fun group => collecting (group.map .restore)

def fromDirectory (order : IterationOrder) (graph : ObjectGraph) : List (Batch Job) :=
  ensureNamespaces graph ++ restoreGroups (getMoveSequence order graph).groups ++ resume graph

/-- The steps of the backoff, the same for all jobs. -/
def backoffSteps : Nat := 10

end ClusterApi.Clusterctl

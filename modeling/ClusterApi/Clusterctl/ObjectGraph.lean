import Mathlib.Data.List.AList

namespace ClusterApi.Clusterctl

open List

/-!
# The object graph of clusterctl move

The graph that discovery builds from the objects of a management cluster.  Two
nodes are never stored under one UID, so a UID is used here wherever the source
has a pointer to a node.

An owner reference to an object that has not been seen gives a virtual node,
which stays virtual if its object is never added.
-/

/-- A group, a version and a kind.  The group of the core types is empty. -/
structure TypeMeta where
  group : String := ""
  version : String
  kind : String
  deriving DecidableEq

def TypeMeta.groupKind (typeMeta : TypeMeta) : String × String := (typeMeta.group, typeMeta.kind)

structure OwnerReferenceAttributes where
  controller : Option Bool := none
  blockOwnerDeletion : Option Bool := none
  deriving DecidableEq

structure OwnerReference where
  typeMeta : TypeMeta
  name : String
  uid : String
  attributes : OwnerReferenceAttributes := {}
  deriving DecidableEq

/-- What clusterctl reads of an object besides its metadata. -/
inductive Body
  | cluster (paused : Bool) (topologyClass : Option String)
  | clusterResourceSetBinding (clusterName : String)
  | other
  deriving DecidableEq

/-- An object of the API server.  Objects without a namespace have the empty one. -/
structure Object where
  typeMeta : TypeMeta
  namespaceName : String
  name : String
  uid : String
  labels : List String := []
  annotations : List String := []
  finalizers : List String := []
  ownerReferences : List OwnerReference := []
  body : Body := .other
  deriving DecidableEq

structure ObjectReference where
  typeMeta : TypeMeta
  namespaceName : String := ""
  name : String
  uid : String
  deriving DecidableEq

structure Node where
  identity : ObjectReference
  owners : AList fun _ : String => OwnerReferenceAttributes := ∅
  softOwners : List String := []
  forceMove : Bool := false
  forceMoveHierarchy : Bool := false
  isGlobal : Bool := false
  isGlobalHierarchy : Bool := false
  virtual : Bool
  tenant : List String := []
  restoreObject : Option Object := none
  clusterTopologyName : Option String := none
  bindingClusterName : Option String := none
  blockingMove : Bool := false
  deriving DecidableEq

structure DiscoveryTypeInfo where
  forceMove : Bool := false
  forceMoveHierarchy : Bool := false
  clusterScoped : Bool := false

/-- An error with its text, or a call on a missing node. -/
inductive Failure
  | error (message : String)
  | nilPointer

def clusterGroupKind : String × String := ("cluster.x-k8s.io", "Cluster")

def clusterClassGroupKind : String × String := ("cluster.x-k8s.io", "ClusterClass")

def clusterResourceSetBindingGroupKind : String × String := ("addons.cluster.x-k8s.io", "ClusterResourceSetBinding")

def clusterctlMoveLabel : String := "clusterctl.cluster.x-k8s.io/move"

def clusterctlMoveHierarchyLabel : String := "clusterctl.cluster.x-k8s.io/move-hierarchy"

def blockMoveKey : String := "clusterctl.cluster.x-k8s.io/block-move"

/-- The type as the table of discovery types has it, for example `machines.cluster.x-k8s.io`. -/
def getKindAPIString (typeMeta : TypeMeta) : String :=
  typeMeta.kind.toLower ++ "s." ++ if typeMeta.group = "" then typeMeta.version else typeMeta.group

/-! ## Nodes -/

namespace Node

abbrev uid (node : Node) : String := node.identity.uid

def groupKind (node : Node) : String × String := node.identity.typeMeta.groupKind

def identityStr (node : Node) : String :=
  "Kind=" ++ node.identity.typeMeta.kind ++ ", Name=" ++ node.identity.name ++
    ", Namespace=" ++ node.identity.namespaceName

def markObserved (node : Node) : Node := { node with virtual := false }

def addOwner (node : Node) (owner : String) (attributes : OwnerReferenceAttributes) : Node :=
  { node with owners := node.owners.insert owner attributes }

def addSoftOwner (node : Node) (owner : String) : Node := { node with softOwners := node.softOwners.insert owner }

def isOwnedBy (node : Node) (other : String) : Bool := node.owners.keys.contains other

def isSoftOwnedBy (node : Node) (other : String) : Bool := node.softOwners.contains other

def captureAdditionalInformation (node : Node) (obj : Object) : Except Failure Node :=
  if node.groupKind = clusterGroupKind then
    match obj.body with
    | .cluster _ topologyClass =>
      .ok (match topologyClass with
        | some name => { node with clusterTopologyName := some name }
        | none => node)
    | _ => .error (.error ("failed to convert object " ++ node.identityStr ++ " to Cluster"))
  else if node.groupKind = clusterResourceSetBindingGroupKind then
    match obj.body with
    | .clusterResourceSetBinding clusterName => .ok { node with bindingClusterName := some clusterName }
    | _ => .error (.error ("failed to convert object " ++ node.identityStr ++ " to ClusterResourceSetBinding"))
  else .ok node

/-- Of the identity only the namespace is taken from the object: a node that was
virtual keeps the version by which its owner reference named it. -/
def objMetaToNode (types : List (String × DiscoveryTypeInfo)) (obj : Object) (node : Node) : Node :=
  let discoveryType := (types.lookup (getKindAPIString obj.typeMeta)).getD {}
  { node with
    identity := { node.identity with namespaceName := obj.namespaceName }
    forceMove := node.forceMove || obj.labels.contains clusterctlMoveLabel || discoveryType.forceMove
    forceMoveHierarchy := node.forceMoveHierarchy || obj.labels.contains clusterctlMoveHierarchyLabel ||
      discoveryType.forceMoveHierarchy
    isGlobal := node.isGlobal || discoveryType.clusterScoped
    blockingMove := obj.annotations.contains blockMoveKey }

def objInfoToNode (types : List (String × DiscoveryTypeInfo)) (obj : Object) (node : Node) : Except Failure Node :=
  let described := node.objMetaToNode types obj
  match described.captureAdditionalInformation obj with
  | .ok informed => .ok informed
  | .error (.error cause) =>
    .error (.error ("failed to capture additional information of object " ++ described.identityStr ++ ": " ++ cause))
  | .error .nilPointer => .error .nilPointer

end Node

/-! ## Graphs -/

/-- The nodes of the graph, each with a UID of its own. -/
structure ObjectGraph where
  types : List (String × DiscoveryTypeInfo) := []
  nodes : List Node
  distinct : (nodes.map Node.uid).Nodup

namespace ObjectGraph

def empty (types : List (String × DiscoveryTypeInfo)) : ObjectGraph := ⟨types, [], List.nodup_nil⟩

def find (graph : ObjectGraph) (uid : String) : Option Node := graph.nodes.find? fun node => node.uid = uid

theorem find_uid {graph : ObjectGraph} {node : Node} (member : node ∈ graph.nodes) :
    graph.find node.uid = some node := by
  rw [find, find?_eq_some_iff_append]
  rcases append_of_mem member with ⟨before, after, split⟩
  refine ⟨by simp, before, after, split, fun other otherMember => ?_⟩
  have distinct := graph.distinct
  rw [split, map_append, map_cons, nodup_append'] at distinct
  have differs : other.uid ≠ node.uid := fun same =>
    distinct.2.2 (mem_map_of_mem otherMember) (same ▸ mem_cons_self)
  simpa using differs

/-- Assign a node to its UID. -/
def store (graph : ObjectGraph) (node : Node) : ObjectGraph where
  types := graph.types
  nodes :=
    if node.uid ∈ graph.nodes.map Node.uid then graph.nodes.map fun old => if old.uid = node.uid then node else old
    else node :: graph.nodes
  distinct := by
    split
    · have uids : Node.uid ∘ (fun old => if old.uid = node.uid then node else old) = Node.uid := by
        funext old
        by_cases same : old.uid = node.uid <;> simp [same]
      rw [List.map_map, uids]
      exact graph.distinct
    · next fresh => exact List.nodup_cons.mpr ⟨fresh, graph.distinct⟩

/-- Change the node of a UID in place. -/
def modify (graph : ObjectGraph) (uid : String) (change : Node → Node) : ObjectGraph :=
  match graph.find uid with
  | none => graph
  | some node => graph.store (change node)

def virtualNode (owner : OwnerReference) : Node :=
  { identity := { typeMeta := owner.typeMeta, name := owner.name, uid := owner.uid }, virtual := true }

def ownerToVirtualNode (graph : ObjectGraph) (owner : OwnerReference) : ObjectGraph :=
  graph.store (virtualNode owner)

def newNode (obj : Object) : Node :=
  { identity := { typeMeta := obj.typeMeta, namespaceName := obj.namespaceName, name := obj.name, uid := obj.uid }
    virtual := false }

/-- A node of a known UID is marked as observed.  When the information of a new
object cannot be read, the message asks a node that does not exist for its identity. -/
def objToNode (graph : ObjectGraph) (obj : Object) : Except Failure ObjectGraph :=
  match graph.find obj.uid with
  | some existingNode =>
    match existingNode.markObserved.objInfoToNode graph.types obj with
    | .ok node => .ok (graph.store node)
    | .error (.error cause) =>
      .error (.error ("failed to add object info to node for object " ++ existingNode.identityStr ++ ": " ++ cause))
    | .error .nilPointer => .error .nilPointer
  | none =>
    match (newNode obj).objInfoToNode graph.types obj with
    | .ok node => .ok (graph.store node)
    | .error _ => .error .nilPointer

def processOwnerReferences (graph : ObjectGraph) (obj : Object) : ObjectGraph :=
  obj.ownerReferences.foldl (fun graph ownerReference =>
      let graph := if (graph.find ownerReference.uid).isSome then graph else graph.ownerToVirtualNode ownerReference
      graph.modify obj.uid fun node => node.addOwner ownerReference.uid ownerReference.attributes)
    graph

def failedToCreateNode (obj : Object) (cause : String) : Failure :=
  .error ("failed to create node for object (Kind=" ++ obj.typeMeta.kind ++ ", Name=" ++ obj.name ++ "): " ++ cause)

def addObj (graph : ObjectGraph) (obj : Object) : Except Failure ObjectGraph :=
  match graph.objToNode obj with
  | .ok graph => .ok (graph.processOwnerReferences obj)
  | .error (.error cause) => .error (failedToCreateNode obj cause)
  | .error .nilPointer => .error .nilPointer

/-! ## Soft owners and tenants -/

def ofGroupKind (graph : ObjectGraph) (groupKind : String × String) : List Node :=
  graph.nodes.filter fun node => node.groupKind = groupKind

def getClusters (graph : ObjectGraph) : List Node := graph.ofGroupKind clusterGroupKind

def getClusterClasses (graph : ObjectGraph) : List Node := graph.ofGroupKind clusterClassGroupKind

def getClusterResourceSetBinding (graph : ObjectGraph) : List Node :=
  graph.ofGroupKind clusterResourceSetBindingGroupKind

def getSecrets (graph : ObjectGraph) : List Node :=
  graph.nodes.filter fun node => node.identity.typeMeta = { version := "v1", kind := "Secret" }

/-- Give every listed node the soft owners that are chosen for it. -/
def addSoftOwners (graph : ObjectGraph) (nodes : List Node) (chosen : Node → List Node) : ObjectGraph :=
  nodes.foldl (fun graph node =>
      graph.modify node.uid fun current => (chosen node).foldl (fun current owner => current.addSoftOwner owner.uid) current)
    graph

def sameNamespace (node other : Node) : Bool := node.identity.namespaceName = other.identity.namespaceName

end ObjectGraph

def allSecretPurposes : List String := ["kubeconfig", "ca", "etcd", "sa", "proxy", "apiserver-etcd-client"]

/-- The cluster name and the purpose of a cluster secret: what stands before
and after the last dash, if the purpose is a known one. -/
def parseSecretName (name : String) : Option (String × String) :=
  let reversed := name.toList.reverse
  if '-' ∈ reversed then
    let purpose := String.ofList (reversed.takeWhile (· ≠ '-')).reverse
    let clusterName := String.ofList ((reversed.dropWhile (· ≠ '-')).drop 1).reverse
    if purpose ∈ allSecretPurposes then some (clusterName, purpose) else none
  else none

namespace ObjectGraph

def setSoftOwnership (graph : ObjectGraph) : ObjectGraph :=
  let clusters := graph.getClusters
  -- Secrets without an owner belong to the cluster of their name.
  let graph := graph.addSoftOwners (graph.getSecrets.filter fun secret => secret.owners.entries.isEmpty) fun secret =>
    match parseSecretName secret.identity.name with
    | none => []
    | some (secretClusterName, _) =>
      clusters.filter fun cluster => secretClusterName = cluster.identity.name ∧ sameNamespace secret cluster
  -- A Cluster with a managed topology belongs to its ClusterClass.
  let graph := graph.addSoftOwners graph.getClusters fun cluster =>
    graph.getClusterClasses.filter fun clusterClass =>
      cluster.clusterTopologyName = some clusterClass.identity.name ∧ sameNamespace clusterClass cluster
  graph.addSoftOwners graph.getClusterResourceSetBinding fun binding =>
    clusters.filter fun cluster =>
      binding.bindingClusterName = some cluster.identity.name ∧ sameNamespace binding cluster

/-- The recursion has no mark for visited nodes.  The depth bounds it; beyond
the depth the result is `none`. -/
def setTenant : Nat → ObjectGraph → String → String → Bool → Option ObjectGraph
  | 0, _, _, _, _ => none
  | depth + 1, graph, uid, tenant, isGlobalHierarchy =>
    let graph := graph.modify uid fun node =>
      { node with
        tenant := node.tenant.insert tenant
        isGlobalHierarchy := node.isGlobalHierarchy || isGlobalHierarchy }
    (graph.nodes.filter fun other => other.isOwnedBy uid || other.isSoftOwnedBy uid).foldlM
      (fun graph other => setTenant depth graph other.uid tenant isGlobalHierarchy) graph

def setTenants (depth : Nat) (graph : ObjectGraph) : Option ObjectGraph :=
  (graph.nodes.filter Node.forceMoveHierarchy).foldlM
    (fun graph node => setTenant depth graph node.uid node.uid node.isGlobal) graph

/-- The graph of a list of objects, as discovery completes it. -/
def discovery (depth : Nat) (types : List (String × DiscoveryTypeInfo)) (objects : List Object) : Option ObjectGraph :=
  match objects.foldlM addObj (empty types) with
  | .ok graph => setTenants depth graph.setSoftOwnership
  | .error _ => none

def getMoveNodes (graph : ObjectGraph) : List Node :=
  graph.nodes.filter fun node => !node.tenant.isEmpty || node.forceMove

end ObjectGraph

end ClusterApi.Clusterctl

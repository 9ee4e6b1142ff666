import ClusterApi.ClusterResourceSet.Delete
import ClusterApi.Machine.Conditions

namespace ClusterApi.ClusterResourceSet

open Foundation

/-!
# Reconciling a ClusterResourceSet

For every matching cluster the resources of a ClusterResourceSet are read,
applied to the cluster and recorded in its binding.  The condition
`ResourcesApplied` of the ClusterResourceSet is one for all clusters: each
write replaces the one before.

The content of a ConfigMap or Secret is abstract.  How it is parsed to objects
and hashed is a parameter, and so is `fmt.Sprintf` for a format without
arguments.
-/

inductive Strategy
  | applyOnce
  | reconcile
  deriving DecidableEq

structure Crs where
  name : String
  «namespace» : String := "default"
  uid : String := ""
  strategy : Strategy := .applyOnce
  resources : List ResourceRef
  deleting : Bool := false
  hasFinalizer : Bool := true
  hasOtherFinalizers : Bool := false
  hasPaused : Bool := false
  /-- The condition `Paused` says what the annotation says. -/
  pausedUpToDate : Bool := true
  resourcesApplied : Option Condition := none
  deriving DecidableEq

/-- An object of a resource, as errors name it. -/
structure Object where
  groupVersionKind : String
  key : String

/-- The parsed content of a resource. -/
structure Scope where
  hash : String
  objects : List Object

structure Library (Content : Type) where
  reconcileScope : Content → Except String Scope
  sprintf : String → String

/-! ## Answers of the servers -/

inductive ResourceReply (Content : Type)
  | found (content : Content)
  | notFound (error : String)
  | wrongSecretType
  | failed (error : String)

/-- The content that was read, if any. -/
def ResourceReply.content? {Content : Type} : ResourceReply Content → Option Content
  | .found content => some content
  | .notFound _ => none
  | .wrongSecretType => none
  | .failed _ => none

inductive CreateBindingReply
  | created
  /-- Another writer created the binding, which is read again. -/
  | alreadyExists (binding : Binding) (get : Option String)
  | failed (error : String)
  | lost (error : String)

inductive ClientReply
  | ok
  | notConnected (error : String)
  | failed (error : String)
  deriving DecidableEq

inductive GetObjectReply
  | found
  | notFound
  | failed (error : String)

inductive CreateObjectReply
  | ok
  | alreadyExists (error : String)
  | failed (error : String)

structure ObjectReplies where
  get : GetObjectReply := .notFound
  create : CreateObjectReply := .ok
  patch : Option String := none

/-- How the calls for one cluster end; resources and their objects are counted from zero. -/
structure ApplyReplies (Content : Type) where
  getResource : Nat → ResourceReply Content
  ensureResourceOwnerRef : Nat → Option String := fun _ => none
  getBinding : Option String := none
  createBinding : CreateBindingReply := .created
  getClient : ClientReply := .ok
  getService : Option String := none
  object : Nat → Nat → ObjectReplies := fun _ _ => {}
  patchBinding : WriteReply := .ok
  patchConflict : Bool := false

/-! ## Applying one resource -/

/-- An error of `createUnstructured`, and whether the object exists already. -/
def createUnstructured (reply : CreateObjectReply) (object : Object) : Option (String × Bool) :=
  let context := "creating object " ++ object.groupVersionKind ++ " " ++ object.key
  match reply with
  | .ok => none
  | .alreadyExists error => some (wrap context error, true)
  | .failed error => some (wrap context error, false)

def applyObj (strategy : Strategy) (replies : ObjectReplies) (object : Object) : Option String :=
  match strategy with
  | .applyOnce =>
    match createUnstructured replies.create object with
    | some (error, false) => some error
    | _ => none
  | .reconcile =>
    match replies.get with
    | .notFound => (createUnstructured replies.create object).map Prod.fst
    | .failed error => some (wrap ("reading object " ++ object.groupVersionKind ++ " " ++ object.key) error)
    | .found => replies.patch.map (wrap ("patching object " ++ object.groupVersionKind ++ " " ++ object.key))

/-- The errors of all objects of a resource. -/
def applyObjects (strategy : Strategy) (replies : Nat → ObjectReplies) (objects : List Object) : List String :=
  objects.zipIdx.filterMap fun object => applyObj strategy (replies object.2) object.1

/-- Whether a resource with a record is applied. -/
def needsApply (strategy : Strategy) (record : Option ResourceBinding) (hash : String) : Bool :=
  match strategy with
  | .applyOnce => !record.any ResourceBinding.applied
  | .reconcile => !record.any fun record => record.applied && record.hash = hash

section

variable {Content : Type} (library : Library Content) (crs : Crs) (replies : ApplyReplies Content)

def markFalse (reason severity message : String) : Condition :=
  { status := .isFalse, reason := reason, severity := severity, message := library.sprintf message }

/-- The loop over the resources: the entry in memory, the errors and the last write to the condition. -/
structure Applying where
  entry : ResourceSetBinding
  errors : List String := []
  mark : Option Condition := none

/-- A resource that was not found has no content and is skipped. -/
def applyResource (applying : Applying) (ref : ResourceRef) (index : Nat) : Applying :=
  match (replies.getResource index).content? with
  | none => applying
  | some content =>
    match library.reconcileScope content with
    | .error error =>
      { applying with
        entry := applying.entry.setBinding { ref := ref, applied := false }
        errors := applying.errors ++ [error] }
    | .ok scope =>
      if needsApply crs.strategy (applying.entry.getResource ref) scope.hash then
        let started := applying.entry.setBinding { ref := ref, applied := false }
        match applyObjects crs.strategy (replies.object index) scope.objects with
        | [] => { applying with entry := started.setBinding { ref := ref, hash := scope.hash, applied := true } }
        | errors =>
          { entry := started.setBinding { ref := ref, hash := scope.hash, applied := false }
            errors := applying.errors ++ [aggregate errors]
            mark := some (markFalse library "ApplyFailed" "Warning" (aggregate errors)) }
      else applying

def applyResources (entry : ResourceSetBinding) : Applying :=
  crs.resources.zipIdx.foldl
    (fun applying resource => applyResource library crs replies applying resource.1 resource.2) { entry := entry }

/-! ## Reading the resources -/

structure Fetching where
  errors : List String := []
  mark : Option Condition := none

/-- What the read of one resource adds; a resource that is not found is no error. -/
def fetchResource (fetching : Fetching) (index : Nat) : Fetching :=
  match replies.getResource index with
  | .wrongSecretType =>
    { errors := fetching.errors ++ ["unsupported secret type"]
      mark := some (markFalse library "WrongSecretType" "Warning" "unsupported secret type") }
  | .notFound error => { fetching with mark := some (markFalse library "RetrievingResourceFailed" "Warning" error) }
  | .failed error =>
    { errors := fetching.errors ++ [error]
      mark := some (markFalse library "RetrievingResourceFailed" "Warning" error) }
  | .found _ => { fetching with errors := fetching.errors ++ (replies.ensureResourceOwnerRef index).toList }

def fetchResources : Fetching :=
  crs.resources.zipIdx.foldl (fun fetching resource => fetchResource library replies fetching resource.2) {}

/-! ## One cluster

Errors name a cluster and its binding by their namespace and name.
-/

def freshBinding : Binding := { ownerReferences := [resourceSetReference crs.name crs.uid] }

/-- The binding to work on, and what the server holds afterwards. -/
def getOrCreateClusterResourceSetBinding (clusterKey : String) (stored : Option Binding) :
    Option Binding × Except String Binding :=
  match replies.getBinding, stored with
  | some error, _ => (stored, .error error)
  | none, some binding => (stored, .ok binding)
  | none, none =>
    let context := "failed to create clusterResourceSetBinding for cluster: " ++ clusterKey
    match replies.createBinding with
    | .created => (some (freshBinding crs), .ok (freshBinding crs))
    | .alreadyExists binding none => (some binding, .ok binding)
    | .alreadyExists binding (some error) => (some binding, .error error)
    | .failed error => (none, .error (wrap context error))
    | .lost error => (some (freshBinding crs), .error (wrap context error))

/-- The error of a cluster; two of them are treated differently at the end. -/
structure ApplyError where
  text : String
  notConnected : Bool := false
  /-- The only error is a conflict with another writer of the binding. -/
  conflict : Bool := false

structure Applied where
  stored : Option Binding
  mark : Option Condition
  error : Option ApplyError

/-- The patch of the binding at the end of the call, whatever came before. -/
def patchBinding (clusterKey : String) (stored : Option Binding) (binding : Binding)
    (mark : Option Condition) (error : Option ApplyError) : Applied where
  stored := if replies.patchBinding.takesEffect then some binding else stored
  mark := mark
  error :=
    match replies.patchBinding with
    | .ok => error
    | .failed patchError | .lost patchError =>
      let text := wrap ("failed to patch ClusterResourceSetBinding " ++ clusterKey) patchError
      match error with
      | none => some { text := text, conflict := replies.patchConflict }
      | some error => some { text := aggregate [error.text, text], notConnected := error.notConnected }

/-- Make the ClusterResourceSet an owner of the binding. -/
def own (binding : Binding) : Binding :=
  { binding with ownerReferences := ensureOwnerRef binding.ownerReferences (resourceSetReference crs.name crs.uid) }

/-- The entry to work on, which is empty at first. -/
def getOrCreateBinding (binding : Binding) : ResourceSetBinding :=
  (binding.entry crs.name).getD { clusterResourceSetName := crs.name }

def applyClusterResourceSet (clusterKey : String) (stored : Option Binding) : Applied :=
  let fetching := fetchResources library crs replies
  if fetching.errors ≠ [] then
    { stored := stored, mark := fetching.mark, error := some { text := aggregate fetching.errors } }
  else
    match getOrCreateClusterResourceSetBinding crs replies clusterKey stored with
    | (after, .error error) => { stored := after, mark := fetching.mark, error := some { text := error } }
    | (after, .ok binding) =>
      let owned := own crs binding
      let entry := getOrCreateBinding crs owned
      let unchanged := owned.updateEntry crs.name fun _ => entry
      let clientFailed (error : String) :=
        some (markFalse library "RemoteClusterClientFailed" "Error" error)
      match replies.getClient with
      | .notConnected error =>
        patchBinding replies clusterKey after unchanged (clientFailed error)
          (some { text := error, notConnected := true })
      | .failed error =>
        patchBinding replies clusterKey after unchanged (clientFailed error) (some { text := error })
      | .ok =>
        match replies.getService with
        | some error =>
          patchBinding replies clusterKey after unchanged fetching.mark
            (some { text := wrap ("failed to retrieve the Service for Kubernetes API Server of the cluster " ++
              clusterKey) error })
        | none =>
          let applying := applyResources library crs replies entry
          let changed := owned.updateEntry crs.name fun _ => applying.entry
          if applying.errors = [] then
            patchBinding replies clusterKey after changed (some { status := .isTrue }) none
          else
            patchBinding replies clusterKey after changed (applying.mark.or fetching.mark)
              (some { text := aggregate applying.errors })

end

/-! ## The reconcile -/

/-- The ClusterResourceSet, the clusters its selector matches and the bindings by the name of their cluster. -/
structure Server where
  resourceSet : Option Crs
  clusters : Keyed Cluster Cluster.name
  bindings : String → Option Binding

structure Replies (Content : Type) where
  getResourceSet : Option String := none
  ensureFinalizer : WriteReply := .ok
  ensurePaused : WriteReply := .ok
  listClusters : Option String := none
  delete : String → DeleteReplies := fun _ => {}
  apply : String → ApplyReplies Content
  patchResourceSet : WriteReply := .ok

/-- The loop over the clusters. -/
structure Reconciling where
  bindings : String → Option Binding
  resourcesApplied : Option Condition
  errors : List ApplyError := []

section

variable {Content : Type} (library : Library Content) (replies : Replies Content)

def clusterKey (crs : Crs) (cluster : Cluster) : String := crs.namespace ++ "/" ++ cluster.name

def applyPass (crs : Crs) (reconciling : Reconciling) (cluster : Cluster) : ForInStep Reconciling :=
  let applied :=
    applyClusterResourceSet library crs (replies.apply cluster.name) (clusterKey crs cluster)
      (reconciling.bindings cluster.name)
  .yield
    { bindings := Function.update reconciling.bindings cluster.name applied.stored
      resourcesApplied := applied.mark.or reconciling.resourcesApplied
      errors := reconciling.errors ++ applied.error.toList }

/-- Clusters that are being deleted are left out. -/
def activeClusters (server : Server) : Keyed Cluster Cluster.name := server.clusters.keep fun cluster => !cluster.deleting

inductive Result
  | done
  | requeueAfter (milliseconds : Nat)
  | error (text : String)

def reconcileResult (errors : List ApplyError) : Result :=
  match errors.filter fun error => !error.notConnected with
  | [] => if errors.any ApplyError.notConnected then .requeueAfter 60000 else .done
  | others =>
    if others.any ApplyError.conflict then .requeueAfter 100 else .error (aggregate (others.map ApplyError.text))

/-- The patch of the ClusterResourceSet at the end of every reconcile. -/
def patchResourceSet (server : Server) (crs : Crs) (bindings : String → Option Binding)
    (result : Result) : Server × Result :=
  ( { server with
      resourceSet :=
        if replies.patchResourceSet.takesEffect then
          if crs.deleting && !crs.hasFinalizer && !crs.hasOtherFinalizers then none else some crs
        else server.resourceSet
      bindings := bindings },
    match replies.patchResourceSet, result with
    | .ok, result => result
    | .failed patchError, .error text | .lost patchError, .error text => .error (aggregate [text, patchError])
    | .failed patchError, _ | .lost patchError, _ => .error patchError)

def Reconcile (server : Server) : Server × Result :=
  match replies.getResourceSet, server.resourceSet with
  | some error, _ => (server, .error error)
  | none, none => (server, .done)
  | none, some crs =>
    if !crs.deleting && !crs.hasFinalizer then
      let added := if replies.ensureFinalizer.takesEffect then { crs with hasFinalizer := true } else crs
      ({ server with resourceSet := some added },
        match replies.ensureFinalizer with
        | .ok => .done
        | .failed error | .lost error => .error error)
    else if crs.hasPaused && crs.pausedUpToDate then (server, .done)
    else if !crs.pausedUpToDate then
      let marked := if replies.ensurePaused.takesEffect then { crs with pausedUpToDate := true } else crs
      ({ server with resourceSet := some marked },
        match replies.ensurePaused with
        | .ok => .done
        | .failed error | .lost error => .error error)
    else
      match replies.listClusters with
      | some error =>
        patchResourceSet replies server
          { crs with resourcesApplied := some (markFalse library "ClusterMatchFailed" "Warning" error) }
          server.bindings (.error error)
      | none =>
        if crs.deleting then
          let deletion := reconcileDelete replies.delete crs.name server.bindings (activeClusters server).list
          patchResourceSet replies server { crs with hasFinalizer := crs.hasFinalizer && !deletion.finalizerRemoved }
            deletion.bindings
            (match deletion.error with
              | some error => .error error
              | none => .done)
        else
          let reconciling :=
            (loop (applyPass library replies crs)
              { bindings := server.bindings, resourcesApplied := crs.resourcesApplied }
              (activeClusters server).list).run
          patchResourceSet replies server { crs with resourcesApplied := reconciling.resourcesApplied }
            reconciling.bindings (reconcileResult reconciling.errors)

end

end ClusterApi.ClusterResourceSet

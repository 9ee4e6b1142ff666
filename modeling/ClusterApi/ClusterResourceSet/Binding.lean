import ClusterApi.Foundation.Upsert

namespace ClusterApi.ClusterResourceSet

open Foundation

/-!
# The binding of a cluster

For every cluster a ClusterResourceSetBinding records which resources of which
ClusterResourceSets have been applied.  Its owners are the ClusterResourceSets
with an entry.
-/

structure ResourceRef where
  name : String
  kind : String
  deriving DecidableEq

/-- What is recorded about a resource, without the time of the record. -/
structure ResourceBinding where
  ref : ResourceRef
  hash : String := ""
  applied : Bool
  deriving DecidableEq

structure ResourceSetBinding where
  clusterResourceSetName : String
  resources : List ResourceBinding := []
  deriving DecidableEq

structure OwnerReference where
  apiVersion : String
  kind : String
  name : String
  uid : String := ""
  deriving DecidableEq

structure Binding where
  ownerReferences : List OwnerReference := []
  bindings : List ResourceSetBinding := []
  deriving DecidableEq

/-! ## The resources of an entry -/

namespace ResourceSetBinding

def getResource (entry : ResourceSetBinding) (ref : ResourceRef) : Option ResourceBinding :=
  entry.resources.find? fun resource => resource.ref = ref

/-- Update the record of a resource, or add one. -/
def setBinding (entry : ResourceSetBinding) (record : ResourceBinding) : ResourceSetBinding :=
  { entry with resources := upsert (fun resource => resource.ref = record.ref) (fun _ => record) entry.resources }

theorem getResource_setBinding (entry : ResourceSetBinding) (record : ResourceBinding) :
    (entry.setBinding record).getResource = Function.update entry.getResource record.ref (some record) := by
  funext ref
  rw [Function.update_apply]
  split_ifs with same
  · subst same
    apply find?_upsert
    intro _
    exact decide_eq_true rfl
  · apply find?_upsert_of_disjoint
    · intro _ isMatch
      rw [of_decide_eq_true isMatch]
      exact decide_eq_false (Ne.symm same)
    · intro _
      exact decide_eq_false (Ne.symm same)

end ResourceSetBinding

/-! ## Owner references -/

/-- The group of an API version; a text with several slashes has none. -/
def parseGroup (apiVersion : String) : Option String :=
  match apiVersion.toList.splitOn '/' with
  | [_] => some ""
  | [group, _] => some (String.ofList group)
  | _ => none

/-- Owners are compared by group, kind and name. -/
def referSameObject (first second : OwnerReference) : Bool :=
  match parseGroup first.apiVersion, parseGroup second.apiVersion with
  | some firstGroup, some secondGroup =>
    firstGroup = secondGroup && first.kind = second.kind && first.name = second.name
  | _, _ => false

def ensureOwnerRef (ownerReferences : List OwnerReference) (ref : OwnerReference) : List OwnerReference :=
  upsert (referSameObject · ref) (fun _ => ref) ownerReferences

def removeOwnerRef (ownerReferences : List OwnerReference) (ref : OwnerReference) : List OwnerReference :=
  ownerReferences.eraseP (referSameObject · ref)

def resourceSetReference (name uid : String) : OwnerReference :=
  ⟨"addons.cluster.x-k8s.io/v1beta1", "ClusterResourceSet", name, uid⟩

/-! ## The entries of a binding -/

namespace Binding

/-- The entry of a ClusterResourceSet is the first one with its name. -/
def entry (binding : Binding) (name : String) : Option ResourceSetBinding :=
  binding.bindings.find? fun entry => entry.clusterResourceSetName = name

/-- Change the entry of a ClusterResourceSet, which is created if there is none. -/
def updateEntry (binding : Binding) (name : String) (change : ResourceSetBinding → ResourceSetBinding) : Binding :=
  { binding with
    bindings :=
      upsert (fun entry => entry.clusterResourceSetName = name)
        (fun old => change (old.getD { clusterResourceSetName := name })) binding.bindings }

def removeBinding (binding : Binding) (name : String) : Binding :=
  { binding with bindings := binding.bindings.eraseP fun entry => entry.clusterResourceSetName = name }

end Binding

end ClusterApi.ClusterResourceSet

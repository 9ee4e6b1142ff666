import ClusterApi.ClusterResourceSet.Binding
import ClusterApi.Foundation.Keyed
import ClusterApi.Foundation.Loops
import ClusterApi.Util.Errors

namespace ClusterApi.ClusterResourceSet

open Foundation List

/-!
# Deletion of a ClusterResourceSet

Before the finalizer of a ClusterResourceSet is removed its entry and its owner
reference are to be taken out of the binding of every matching cluster.  A
binding without entries is deleted.
-/

structure Cluster where
  name : String
  deleting : Bool := false
  deriving DecidableEq

/-- The answer to a call that writes: it may fail, or take effect although it reports an error. -/
inductive WriteReply
  | ok
  | failed (error : String)
  | lost (error : String)

def WriteReply.takesEffect : WriteReply → Bool
  | .ok => true
  | .failed _ => false
  | .lost _ => true

/-- How the calls for the binding of a cluster end.  A read that succeeds answers what the server holds. -/
structure DeleteReplies where
  get : Option String := none
  newHelper : Option String := none
  delete : WriteReply := .ok
  patch : WriteReply := .ok

/-- Take a ClusterResourceSet out of a binding. -/
def Binding.release (binding : Binding) (crsName : String) : Binding :=
  { binding.removeBinding crsName with
    ownerReferences := removeOwnerRef binding.ownerReferences (resourceSetReference crsName "") }

/-- How the visit of a cluster ends, with the binding it leaves. -/
inductive Visit
  | missing
  | fails (binding : Option Binding) (error : String)
  | goesOn (binding : Option Binding)

/-- One cluster.  The error of the deletion of a binding is only logged. -/
def visit (replies : DeleteReplies) (crsName : String) (stored : Option Binding) : Visit :=
  match replies.get, stored with
  | some error, _ =>
    .fails stored (wrap "failed to get ClusterResourceSetBinding during ClusterResourceSet deletion" error)
  | none, none => .missing
  | none, some binding =>
    match replies.newHelper with
    | some error => .fails stored error
    | none =>
      let released := binding.release crsName
      if released.bindings = [] then .goesOn (if replies.delete.takesEffect then none else some binding)
      else if released = binding then .goesOn (some binding)
      else
        match replies.patch with
        | .ok => .goesOn (some released)
        | .failed error => .fails (some binding) error
        | .lost error => .fails (some released) error

/-- The bindings by the name of their cluster, and how the deletion ends. -/
structure Deletion where
  bindings : String → Option Binding
  finalizerRemoved : Bool := false
  error : Option String := none

def Deletion.set (deletion : Deletion) (name : String) (binding : Option Binding) : Deletion :=
  { deletion with bindings := Function.update deletion.bindings name binding }

section

variable (replies : String → DeleteReplies) (crsName : String)

/-- A cluster without a binding ends the loop, and the finalizer is removed. -/
def deletePass (deletion : Deletion) (cluster : Cluster) : ForInStep Deletion :=
  match visit (replies cluster.name) crsName (deletion.bindings cluster.name) with
  | .missing => .done { deletion with finalizerRemoved := true }
  | .fails binding error => .done { deletion.set cluster.name binding with error := some error }
  | .goesOn binding => .yield (deletion.set cluster.name binding)

/-- The finalizer is also removed after the last cluster. -/
def finish : ForInStep Deletion → Deletion
  | .done deletion => deletion
  | .yield deletion => { deletion with finalizerRemoved := true }

def reconcileDelete (bindings : String → Option Binding) (clusters : List Cluster) : Deletion :=
  finish (loop (deletePass replies crsName) { bindings := bindings } clusters)

end

/-! ## What is left in a binding -/

def isEntryOf (crsName : String) (entry : ResourceSetBinding) : Bool := entry.clusterResourceSetName = crsName

def isOwner (crsName : String) (owner : OwnerReference) : Bool := referSameObject owner (resourceSetReference crsName "")

/-- An owner reference to a ClusterResourceSet of another name. -/
def isOtherOwner (crsName : String) (owner : OwnerReference) : Bool :=
  isOwner owner.name owner && owner.name ≠ crsName

def entries (binding : Option Binding) : List ResourceSetBinding := (binding.map Binding.bindings).getD []

def owners (binding : Option Binding) : List OwnerReference := (binding.map Binding.ownerReferences).getD []

/-- Neither an entry for the ClusterResourceSet nor an owner reference to it. -/
def Clean (crsName : String) (binding : Option Binding) : Prop :=
  (entries binding).any (isEntryOf crsName) = false ∧ (owners binding).any (isOwner crsName) = false

/-- The entries of other ClusterResourceSets and the owner references to them are the same. -/
def OthersUnchanged (crsName : String) (before after : Option Binding) : Prop :=
  (entries after).filter (fun entry => !isEntryOf crsName entry) =
      (entries before).filter (fun entry => !isEntryOf crsName entry) ∧
    (owners after).filter (isOtherOwner crsName) = (owners before).filter (isOtherOwner crsName)

/-- The visit of a cluster takes the ClusterResourceSet out of its binding and nothing else: a binding that is
deleted has no owner among the other ClusterResourceSets, and is clean already if the deletion fails; a binding
that is patched names the ClusterResourceSet once at most. -/
def Releasable (replies : DeleteReplies) (crsName : String) (binding : Binding) : Prop :=
  if (binding.release crsName).bindings = [] then
    if replies.delete.takesEffect then binding.ownerReferences.any (isOtherOwner crsName) = false
    else Clean crsName (some binding)
  else
    binding.bindings.countP (isEntryOf crsName) ≤ 1 ∧ binding.ownerReferences.countP (isOwner crsName) ≤ 1

/-! ## One visit -/

def Visit.ends : Visit → Bool
  | .missing => true
  | .fails _ _ => true
  | .goesOn _ => false

def Visit.binding : Visit → Option Binding
  | .missing => none
  | .fails binding _ => binding
  | .goesOn binding => binding

section

variable {replies : DeleteReplies} {crsName : String} {stored after : Option Binding} {binding : Binding}

theorem visit_missing (ended : visit replies crsName stored = .missing) : stored = none := by
  unfold visit at ended
  split at ended
  · cases ended
  · rfl
  · split at ended
    · cases ended
    · dsimp only at ended
      split_ifs at ended
      split at ended <;> cases ended

theorem visit_none_ends : (visit replies crsName none).ends = true := by
  unfold visit
  cases replies.get <;> rfl

theorem visit_goesOn (wentOn : visit replies crsName (some binding) = .goesOn after) :
    after =
      if (binding.release crsName).bindings = [] then if replies.delete.takesEffect then none else some binding
      else some (binding.release crsName) := by
  unfold visit at wentOn
  split at wentOn
  · cases wentOn
  · contradiction
  case h_3 stored same =>
    cases same
    split at wentOn
    · cases wentOn
    · dsimp only at wentOn
      split_ifs at wentOn ⊢ with empty effect unchanged
      · cases wentOn
        rfl
      · cases wentOn
        rfl
      · cases wentOn
        rw [unchanged]
      · split at wentOn <;> cases wentOn
        rfl

theorem release_othersUnchanged : OthersUnchanged crsName (some binding) (some (binding.release crsName)) := by
  constructor
  · apply filter_eraseP
    intro _ isOurs
    exact congrArg not isOurs
  · apply filter_eraseP
    intro owner isOurs
    unfold isOwner referSameObject at isOurs
    split at isOurs
    · have sameName : owner.name = crsName := of_decide_eq_true (Bool.and_eq_true_iff.mp isOurs).2
      simp [isOtherOwner, sameName]
    · cases isOurs

theorem othersUnchanged_deleted_iff (empty : (binding.release crsName).bindings = []) :
    OthersUnchanged crsName (some binding) none ↔ binding.ownerReferences.any (isOtherOwner crsName) = false := by
  have noOthers : binding.bindings.filter (fun entry => !isEntryOf crsName entry) = [] := by
    have kept := (@release_othersUnchanged crsName binding).1
    change (binding.release crsName).bindings.filter _ = _ at kept
    rw [empty] at kept
    exact kept.symm
  change [] = binding.bindings.filter _ ∧ [] = binding.ownerReferences.filter _ ↔ _
  rw [noOthers, @eq_comm _ [] (binding.ownerReferences.filter _), filter_eq_nil_iff, any_eq_false]
  exact and_iff_right rfl

theorem visit_releases_iff (wentOn : visit replies crsName (some binding) = .goesOn after) :
    Clean crsName after ∧ OthersUnchanged crsName (some binding) after ↔ Releasable replies crsName binding := by
  rw [visit_goesOn wentOn, Releasable]
  split_ifs with empty effect
  · rw [othersUnchanged_deleted_iff empty]
    exact and_iff_right ⟨rfl, rfl⟩
  · exact and_iff_left ⟨rfl, rfl⟩
  · rw [and_iff_left release_othersUnchanged]
    exact and_congr (any_eraseP_eq_false_iff _) (any_eraseP_eq_false_iff _)

end

/-! ## The whole loop -/

section

variable {replies : String → DeleteReplies} {crsName : String}

theorem deletePass_leaves (deletion : Deletion) (cluster : Cluster) :
    leaves (deletePass replies crsName) deletion cluster =
      (visit (replies cluster.name) crsName (deletion.bindings cluster.name)).ends := by
  unfold leaves deletePass
  cases visit (replies cluster.name) crsName (deletion.bindings cluster.name) <;> rfl

theorem deletePass_bindings (deletion : Deletion) (cluster : Cluster) :
    (deletePass replies crsName deletion cluster).run.bindings =
      Function.update deletion.bindings cluster.name
        (visit (replies cluster.name) crsName (deletion.bindings cluster.name)).binding := by
  unfold deletePass
  cases ended : visit (replies cluster.name) crsName (deletion.bindings cluster.name) with
  | missing =>
    rw [Visit.binding, ← visit_missing ended, Function.update_eq_self]
    rfl
  | fails | goesOn => rfl

theorem deletePass_local : Local (deletePass replies crsName) Cluster.name Deletion.bindings := by
  apply Local.of_result (fun cluster stored => (visit (replies cluster.name) crsName stored).ends)
    (fun cluster stored => (visit (replies cluster.name) crsName stored).binding) deletePass_leaves
  · intro deletion cluster
    rw [deletePass_bindings, Function.update_self]
  · intro _ _ _ apart
    rw [deletePass_bindings, Function.update_of_ne apart]

theorem removed_iff_not_fails {clusters : List Cluster} (distinct : (clusters.map Cluster.name).Nodup)
    {deletion : Deletion} (kept : deletion.finalizerRemoved = false) :
    (finish (loop (deletePass replies crsName) deletion clusters)).finalizerRemoved = true ↔
      ∀ before cluster after, clusters = before ++ cluster :: after →
        (∀ earlier ∈ before, deletion.bindings earlier.name ≠ none) → ∀ binding error,
        visit (replies cluster.name) crsName (deletion.bindings cluster.name) ≠ .fails binding error := by
  induction clusters generalizing deletion with
  | nil => exact iff_of_true rfl (by simp)
  | cons head rest ih =>
    rw [map_cons, nodup_cons, mem_map] at distinct
    rw [forall_split_cons]
    simp only [forall_mem_cons]
    cases ended : visit (replies head.name) crsName (deletion.bindings head.name) with
    | missing =>
      have ran : deletePass replies crsName deletion head = .done { deletion with finalizerRemoved := true } := by
        rw [deletePass, ended]
      rw [loop_cons_of_done ran]
      exact iff_of_true rfl ⟨nofun, fun _ _ _ _ bound => absurd (visit_missing ended) bound.1⟩
    | fails left error =>
      have ran : deletePass replies crsName deletion head =
          .done { deletion.set head.name left with error := some error } := by
        rw [deletePass, ended]
      rw [loop_cons_of_done ran]
      exact iff_of_false (ne_true_of_eq_false kept) fun succeeds => succeeds.1 nofun left error rfl
    | goesOn left =>
      have ran : deletePass replies crsName deletion head = .yield (deletion.set head.name left) := by
        rw [deletePass, ended]
      have bound : deletion.bindings head.name ≠ none := by
        intro missing
        have ends := @visit_none_ends (replies head.name) crsName
        rw [← missing, ended] at ends
        cases ends
      have unchanged : ∀ other ∈ rest,
          (deletion.set head.name left).bindings other.name = deletion.bindings other.name := by
        intro other inside
        exact Function.update_of_ne (fun same => distinct.1 ⟨other, inside, same⟩) ..
      rw [loop_cons_of_yield ran, @ih distinct.2 (deletion.set head.name left) kept, and_iff_right nofun]
      simp only [bound, ne_eq, not_false_eq_true, true_and]
      refine forall₄_congr fun before cluster after split => ?_
      rw [unchanged cluster (by simp [split])]
      refine imp_congr_left (forall₂_congr fun earlier inside => ?_)
      rw [unchanged earlier (by simp [split, inside])]

theorem finish_bindings (ended : ForInStep Deletion) : (finish ended).bindings = ended.run.bindings := by
  cases ended <;> rfl

section

variable {bindings : String → Option Binding} {clusters : Keyed Cluster Cluster.name}
  (removed : (reconcileDelete replies crsName bindings clusters.list).finalizerRemoved = true)
  {before after : List Cluster} {cluster : Cluster} (split : clusters.list = before ++ cluster :: after)

include removed split

theorem any_leaves_iff_of_removed :
    before.any (leaves (deletePass replies crsName) { bindings := bindings }) = true ↔
      ∃ earlier ∈ before, bindings earlier.name = none := by
  rw [any_eq_true]
  constructor
  · rintro ⟨left, inside, leaves⟩
    by_contra allBound
    push Not at allBound
    rcases append_of_mem inside with ⟨first, between, splitBefore⟩
    have splitLeft : clusters.list = first ++ left :: (between ++ cluster :: after) := by
      rw [split, splitBefore, append_assoc, cons_append]
    have notFails := (removed_iff_not_fails clusters.distinct rfl).mp removed _ left _ splitLeft
      (fun earlier member => allBound earlier (splitBefore ▸ mem_append_left _ member))
    rw [deletePass_leaves] at leaves
    cases ended : visit (replies left.name) crsName (bindings left.name) with
    | missing => exact allBound left inside (visit_missing ended)
    | fails binding error => exact notFails binding error ended
    | goesOn =>
      rw [ended] at leaves
      cases leaves
  · rintro ⟨unbound, inside, missing⟩
    refine ⟨unbound, inside, ?_⟩
    rw [deletePass_leaves]
    change (visit (replies unbound.name) crsName (bindings unbound.name)).ends = true
    rw [missing]
    exact visit_none_ends

theorem reconcileDelete_cleans_cluster_iff :
    Clean crsName ((reconcileDelete replies crsName bindings clusters.list).bindings cluster.name) ∧
        OthersUnchanged crsName (bindings cluster.name)
          ((reconcileDelete replies crsName bindings clusters.list).bindings cluster.name) ↔
      ∀ binding ∈ bindings cluster.name,
        if ∃ earlier ∈ before, bindings earlier.name = none then Clean crsName (some binding)
        else Releasable (replies cluster.name) crsName binding := by
  have distinct := clusters.distinct
  rw [split] at distinct
  have own : (reconcileDelete replies crsName bindings clusters.list).bindings cluster.name =
      if before.any (leaves (deletePass replies crsName) { bindings := bindings }) then bindings cluster.name
      else (deletePass replies crsName { bindings := bindings } cluster).run.bindings cluster.name := by
    rw [reconcileDelete, finish_bindings, split]
    exact deletePass_local.view_loop before distinct { bindings := bindings }
  rw [own]
  simp only [any_leaves_iff_of_removed removed split]
  split_ifs with unbound
  · cases bindings cluster.name with
    | none => simp [Clean, OthersUnchanged, entries, owners]
    | some => simp [OthersUnchanged]
  · have notFails := (removed_iff_not_fails clusters.distinct rfl).mp removed _ cluster _ split
      (fun earlier member missing => unbound ⟨earlier, member, missing⟩)
    rw [deletePass_bindings, Function.update_self]
    dsimp only at notFails ⊢
    cases stored : bindings cluster.name with
    | none =>
      rw [stored] at notFails
      cases ended : visit (replies cluster.name) crsName none with
      | missing => simp [Clean, OthersUnchanged, entries, owners, Visit.binding]
      | fails binding error => exact absurd ended (notFails binding error)
      | goesOn =>
        have ends := @visit_none_ends (replies cluster.name) crsName
        rw [ended] at ends
        cases ends
    | some binding =>
      rw [stored] at notFails
      cases ended : visit (replies cluster.name) crsName (some binding) with
      | missing => cases visit_missing ended
      | fails left error => exact absurd ended (notFails left error)
      | goesOn =>
        rw [Visit.binding, visit_releases_iff ended]
        simp

end

/-- When the finalizer is removed, the bindings of all clusters are cleaned up and keep what belongs to others if
and only if every binding after a cluster without a binding was clean before, and every other binding can be
released. -/
theorem reconcileDelete_cleans_iff {bindings : String → Option Binding} (clusters : Keyed Cluster Cluster.name)
    (removed : (reconcileDelete replies crsName bindings clusters.list).finalizerRemoved = true) :
    (∀ cluster ∈ clusters.list,
        Clean crsName ((reconcileDelete replies crsName bindings clusters.list).bindings cluster.name) ∧
          OthersUnchanged crsName (bindings cluster.name)
            ((reconcileDelete replies crsName bindings clusters.list).bindings cluster.name)) ↔
      ∀ before cluster after, clusters.list = before ++ cluster :: after → ∀ binding ∈ bindings cluster.name,
        if ∃ earlier ∈ before, bindings earlier.name = none then Clean crsName (some binding)
        else Releasable (replies cluster.name) crsName binding := by
  constructor
  · intro cleaned before cluster after split
    exact (reconcileDelete_cleans_cluster_iff removed split).mp (cleaned cluster (by simp [split]))
  · intro condition cluster inside
    rcases append_of_mem inside with ⟨before, after, split⟩
    exact (reconcileDelete_cleans_cluster_iff removed split).mpr (condition before cluster after split)

end

/-! ## Clusters with and without a binding -/

namespace Example

def oneCluster : Keyed Cluster Cluster.name := ⟨[⟨"cluster-1", false⟩], by decide⟩

def twoClusters : Keyed Cluster Cluster.name := ⟨[⟨"cluster-1", false⟩, ⟨"cluster-2", false⟩], by decide⟩

def bindingOf (crsNames : List String) : Binding where
  ownerReferences := crsNames.map fun name => resourceSetReference name "uid"
  bindings := crsNames.map fun name => { clusterResourceSetName := name }

def bindings (first second : Option Binding) : String → Option Binding
  | "cluster-1" => first
  | "cluster-2" => second
  | _ => none

end Example

/-- The binding of the second cluster is not cleaned up because the first cluster has none. -/
theorem reconcileDelete_leaves_entry :
    (reconcileDelete (fun _ => {}) "crs" (Example.bindings none (some (Example.bindingOf ["crs"])))
        Example.twoClusters.list).finalizerRemoved = true ∧
      ¬ ∀ cluster ∈ Example.twoClusters.list,
        Clean "crs" ((reconcileDelete (fun _ => {}) "crs" (Example.bindings none (some (Example.bindingOf ["crs"])))
          Example.twoClusters.list).bindings cluster.name) := by
  refine ⟨by rfl, ?_⟩
  intro clean
  have entry := (clean ⟨"cluster-2", false⟩ (by decide)).1
  exact absurd entry (by decide)

/-- A binding with an entry of another ClusterResourceSet is patched, and keeps it. -/
theorem reconcileDelete_cleans_binding :
    (reconcileDelete (fun _ => {}) "crs" (Example.bindings (some (Example.bindingOf ["other", "crs"])) none)
        Example.oneCluster.list).finalizerRemoved = true ∧
      ∀ cluster ∈ Example.oneCluster.list,
        Clean "crs" ((reconcileDelete (fun _ => {}) "crs"
            (Example.bindings (some (Example.bindingOf ["other", "crs"])) none)
            Example.oneCluster.list).bindings cluster.name) ∧
          OthersUnchanged "crs" (Example.bindings (some (Example.bindingOf ["other", "crs"])) none cluster.name)
            ((reconcileDelete (fun _ => {}) "crs" (Example.bindings (some (Example.bindingOf ["other", "crs"])) none)
              Example.oneCluster.list).bindings cluster.name) := by
  refine ⟨by rfl, (reconcileDelete_cleans_iff Example.oneCluster (by rfl)).mpr ?_⟩
  intro before _ _ split _ stored
  cases before with
  | nil =>
    cases split
    cases stored
    rw [if_neg (by simp), Releasable, if_neg (by decide)]
    decide
  | cons => simp [Example.oneCluster] at split

end ClusterApi.ClusterResourceSet

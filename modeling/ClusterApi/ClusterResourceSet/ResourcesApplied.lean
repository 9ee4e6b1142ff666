import ClusterApi.ClusterResourceSet.Apply

namespace ClusterApi.ClusterResourceSet

open Foundation List Option Function

/-!
# What the condition of a ClusterResourceSet says

A binding is a ledger: it has at most one record for a resource.  One call for
a cluster makes one attempt for every resource of the ClusterResourceSet, and
each attempt settles the record of its resource.  From the ledger and the
answers of the servers follows what the cluster reports in the condition of the
ClusterResourceSet, and what it records.
-/

/-! ## Ledgers -/

abbrev Ledger := ResourceRef → Option ResourceBinding

/-- The resource is recorded as applied. -/
def Ledger.records (ledger : Ledger) (ref : ResourceRef) : Bool := (ledger ref).any ResourceBinding.applied

/-- A resource may be missing, its content unreadable, or it can be applied with or without success. -/
inductive Attempt
  | missing
  | unreadable
  | readable (hash : String) (succeeds : Bool)

namespace Attempt

def settle (strategy : Strategy) (ref : ResourceRef) (record : Option ResourceBinding) :
    Attempt → Option ResourceBinding
  | .missing => record
  | .unreadable => some { ref := ref, applied := false }
  | .readable hash succeeds =>
    if needsApply strategy record hash then some { ref := ref, hash := hash, applied := succeeds } else record

/-- The resource is applied without success. -/
def applyFails (strategy : Strategy) (record : Option ResourceBinding) : Attempt → Bool
  | .missing => false
  | .unreadable => false
  | .readable hash succeeds => needsApply strategy record hash && !succeeds

/-- The attempt is an error. -/
def isError (strategy : Strategy) (record : Option ResourceBinding) : Attempt → Bool
  | .missing => false
  | .unreadable => true
  | .readable hash succeeds => needsApply strategy record hash && !succeeds

end Attempt

def Ledger.settle (strategy : Strategy) (ledger : Ledger) (attempt : ResourceRef × Attempt) : Ledger :=
  Function.update ledger attempt.1 (attempt.2.settle strategy attempt.1 (ledger attempt.1))

def Ledger.settleAll (strategy : Strategy) (ledger : Ledger) (attempts : List (ResourceRef × Attempt)) : Ledger :=
  attempts.foldl (Ledger.settle strategy) ledger

/-- One of the attempts has a property, in view of the record that the attempts before it leave. -/
def SomeAttempt (strategy : Strategy) (property : Option ResourceBinding → Attempt → Bool)
    (ledger : Ledger) (attempts : List (ResourceRef × Attempt)) : Prop :=
  ∃ before attempt after, attempts = before ++ attempt :: after ∧
    property (ledger.settleAll strategy before attempt.1) attempt.2 = true

section

variable {strategy : Strategy} {property : Option ResourceBinding → Attempt → Bool} {ledger : Ledger}

theorem not_someAttempt_nil : ¬ SomeAttempt strategy property ledger [] := by
  rintro ⟨_, _, _, split, -⟩
  simp at split

theorem someAttempt_cons {first : ResourceRef × Attempt} {rest : List (ResourceRef × Attempt)} :
    SomeAttempt strategy property ledger (first :: rest) ↔
      property (ledger first.1) first.2 = true ∨ SomeAttempt strategy property (ledger.settle strategy first) rest := by
  constructor
  · rintro ⟨before, attempt, after, split, holds⟩
    cases before with
    | nil =>
      cases split
      exact .inl holds
    | cons _ front =>
      cases split
      exact .inr ⟨front, attempt, after, rfl, holds⟩
  · rintro (holds | ⟨before, attempt, after, rfl, holds⟩)
    · exact ⟨[], first, rest, rfl, holds⟩
    · exact ⟨first :: before, attempt, after, rfl, holds⟩

end

/-- The ledger of a ClusterResourceSet in a binding. -/
def ledgerOf (crsName : String) (binding : Option Binding) : Ledger :=
  fun ref => (binding.bind fun found => found.entry crsName).bind fun entry => entry.getResource ref

/-! ## The loop over the resources -/

section

variable {Content : Type} (library : Library Content) (crs : Crs) (replies : ApplyReplies Content)

def attempt (index : Nat) : Attempt :=
  match (replies.getResource index).content? with
  | none => .missing
  | some content =>
    match library.reconcileScope content with
    | .error _ => .unreadable
    | .ok scope =>
      .readable scope.hash (applyObjects crs.strategy (replies.object index) scope.objects).isEmpty

/-- The attempts for the resources of a ClusterResourceSet, in their order. -/
def attempts : List (ResourceRef × Attempt) :=
  crs.resources.zipIdx.map fun resource => (resource.1, attempt library crs replies resource.2)

end

section

variable {Content : Type} {library : Library Content} {crs : Crs} {replies : ApplyReplies Content}

/-- What one pass of the loop does to the ledger, the errors and the condition. -/
structure Settles (strategy : Strategy) (record : Option ResourceBinding) (tried : Attempt)
    (ref : ResourceRef) (applying applied : Applying) : Prop where
  ledger : applied.entry.getResource = Ledger.settle strategy applying.entry.getResource (ref, tried)
  name : applied.entry.clusterResourceSetName = applying.entry.clusterResourceSetName
  errors : applied.errors = [] ↔ applying.errors = [] ∧ tried.isError strategy record = false
  mark : applied.mark = none ↔ applying.mark = none ∧ tried.applyFails strategy record = false
  isFalse : (∀ mark ∈ applying.mark, mark.status = .isFalse) → ∀ mark ∈ applied.mark, mark.status = .isFalse

theorem applyResource_settles (applying : Applying) (ref : ResourceRef) (index : Nat) :
    Settles crs.strategy (applying.entry.getResource ref) (attempt library crs replies index) ref applying
      (applyResource library crs replies applying ref index) := by
  unfold applyResource attempt
  cases (replies.getResource index).content? with
  | none => exact ⟨(update_eq_self ..).symm, rfl, by simp [Attempt.isError], by simp [Attempt.applyFails], id⟩
  | some content =>
    dsimp only
    cases library.reconcileScope content with
    | error =>
      refine ⟨?_, rfl, by simp [Attempt.isError], by simp [Attempt.applyFails], id⟩
      rw [ResourceSetBinding.getResource_setBinding]
      rfl
    | ok scope =>
      dsimp only
      by_cases needed : needsApply crs.strategy (applying.entry.getResource ref) scope.hash = true
      · rw [if_pos needed]
        cases applyObjects crs.strategy (replies.object index) scope.objects with
        | nil =>
          refine ⟨?_, rfl, by simp [Attempt.isError], by simp [Attempt.applyFails], id⟩
          simp [ResourceSetBinding.getResource_setBinding, Ledger.settle, Attempt.settle, needed]
        | cons =>
          refine ⟨?_, rfl, by simp [Attempt.isError, needed], by simp [Attempt.applyFails, needed], ?_⟩
          · simp [ResourceSetBinding.getResource_setBinding, Ledger.settle, Attempt.settle, needed]
          · rintro - _ ⟨⟩
            rfl
      · rw [if_neg needed]
        refine ⟨?_, rfl, by simp [Attempt.isError, needed], by simp [Attempt.applyFails, needed], id⟩
        simp [Ledger.settle, Attempt.settle, needed]

/-- What the whole loop does. -/
structure SettlesAll (strategy : Strategy) (tried : List (ResourceRef × Attempt))
    (applying applied : Applying) : Prop where
  ledger : applied.entry.getResource = Ledger.settleAll strategy applying.entry.getResource tried
  name : applied.entry.clusterResourceSetName = applying.entry.clusterResourceSetName
  errors : applied.errors = [] ↔
    applying.errors = [] ∧ ¬ SomeAttempt strategy (Attempt.isError strategy) applying.entry.getResource tried
  mark : applied.mark = none ↔
    applying.mark = none ∧ ¬ SomeAttempt strategy (Attempt.applyFails strategy) applying.entry.getResource tried
  isFalse : (∀ mark ∈ applying.mark, mark.status = .isFalse) → ∀ mark ∈ applied.mark, mark.status = .isFalse

theorem foldl_applyResource_settlesAll (resources : List (ResourceRef × Nat)) (applying : Applying) :
    SettlesAll crs.strategy (resources.map fun resource => (resource.1, attempt library crs replies resource.2)) applying
      (resources.foldl (fun current resource => applyResource library crs replies current resource.1 resource.2)
        applying) := by
  induction resources generalizing applying with
  | nil => exact ⟨rfl, rfl, by simp [not_someAttempt_nil], by simp [not_someAttempt_nil], id⟩
  | cons resource _ ih =>
    have first := @applyResource_settles _ library crs replies applying resource.1 resource.2
    have others := ih (applyResource library crs replies applying resource.1 resource.2)
    rw [foldl_cons, map_cons]
    constructor
    · rw [others.ledger, first.ledger]
      rfl
    · rw [others.name, first.name]
    · rw [others.errors, first.errors, someAttempt_cons, first.ledger, not_or, and_assoc, Bool.not_eq_true]
    · rw [others.mark, first.mark, someAttempt_cons, first.ledger, not_or, and_assoc, Bool.not_eq_true]
    · intro allFalse
      exact others.isFalse (first.isFalse allFalse)

theorem applyResources_settlesAll (entry : ResourceSetBinding) :
    SettlesAll crs.strategy (attempts library crs replies) { entry := entry }
      (applyResources library crs replies entry) :=
  foldl_applyResource_settlesAll _ _

end

/-! ## What one cluster reports and records -/

section

variable {Content : Type} (library : Library Content) (crs : Crs) (replies : ApplyReplies Content)

/-- The read of a resource stops the call: a wrong type, an error, or an owner reference that cannot be set. -/
def obstructs (index : Nat) : Bool :=
  match replies.getResource index with
  | .found _ => (replies.ensureResourceOwnerRef index).isSome
  | .notFound _ => false
  | .wrongSecretType => true
  | .failed _ => true

def obstructed : Bool := crs.resources.zipIdx.any fun resource => obstructs replies resource.2

/-- Some resource is not read, whether the call is stopped or not. -/
def incomplete : Bool := crs.resources.zipIdx.any fun resource => (replies.getResource resource.2).content?.isNone

/-- The call gets as far as the client for the cluster, and has a binding to work on. -/
def Binds (clusterKey : String) (stored : Option Binding) (binding : Binding) : Prop :=
  obstructed crs replies = false ∧
    (getOrCreateClusterResourceSetBinding crs replies clusterKey stored).2 = .ok binding

/-- The resources are tried. -/
def Tries (clusterKey : String) (stored : Option Binding) (binding : Binding) : Prop :=
  Binds crs replies clusterKey stored binding ∧ replies.getClient = .ok ∧ replies.getService = none

def Succeeds (clusterKey : String) (stored : Option Binding) : Prop :=
  ∃ binding, Tries crs replies clusterKey stored binding ∧
    ¬ SomeAttempt crs.strategy (Attempt.isError crs.strategy) (ledgerOf crs.name (some binding))
      (attempts library crs replies)

/-- The cluster writes nothing to the condition: it does not succeed, but all resources are read, and neither the
client nor the application of a resource fails. -/
def Silent (clusterKey : String) (stored : Option Binding) : Prop :=
  ¬ Succeeds library crs replies clusterKey stored ∧ incomplete crs replies = false ∧
    (∀ binding, Binds crs replies clusterKey stored binding → replies.getClient = .ok) ∧
    ∀ binding, Tries crs replies clusterKey stored binding →
      ¬ SomeAttempt crs.strategy (Attempt.applyFails crs.strategy)
        (ledgerOf crs.name (some binding)) (attempts library crs replies)

/-- The ledger of the cluster after the call. -/
def settledLedger (clusterKey : String) (stored : Option Binding) : Ledger :=
  if obstructed crs replies then ledgerOf crs.name stored
  else
    match getOrCreateClusterResourceSetBinding crs replies clusterKey stored with
    | (after, .error _) => ledgerOf crs.name after
    | (after, .ok binding) =>
      if replies.getClient = .ok ∧ replies.getService = none ∧ replies.patchBinding.takesEffect = true then
        (ledgerOf crs.name (some binding)).settleAll crs.strategy (attempts library crs replies)
      else ledgerOf crs.name after

end

section

variable {Content : Type} {library : Library Content} {crs : Crs} {replies : ApplyReplies Content}
  {entry : ResourceSetBinding} {mark : Option Condition} {after : Option Binding} {clusterKey : String}
  {binding : Binding}

theorem foldl_fetchResource_spec (resources : List (ResourceRef × Nat)) (fetching : Fetching) :
    let fetched := resources.foldl (fun current resource => fetchResource library replies current resource.2) fetching
    (fetched.errors = [] ↔ fetching.errors = [] ∧ resources.any (fun resource => obstructs replies resource.2) = false) ∧
      (fetched.mark = none ↔ fetching.mark = none ∧
        resources.any (fun resource => (replies.getResource resource.2).content?.isNone) = false) ∧
      ((∀ mark ∈ fetching.mark, mark.status = .isFalse) → ∀ mark ∈ fetched.mark, mark.status = .isFalse) := by
  induction resources generalizing fetching with
  | nil => simp
  | cons resource _ ih =>
    have others := ih (fetchResource library replies fetching resource.2)
    dsimp only at others ⊢
    rw [foldl_cons, others.1, others.2.1, any_cons, any_cons]
    refine ⟨?_, ?_, fun allFalse => others.2.2 ?_⟩
    · unfold fetchResource obstructs
      cases replies.getResource resource.2 <;> simp [and_assoc]
    · unfold fetchResource ResourceReply.content?
      cases replies.getResource resource.2 <;> simp
    · unfold fetchResource
      cases replies.getResource resource.2 with
      | found => exact allFalse
      | _ =>
        rintro _ ⟨⟩
        rfl

theorem fetchResources_errors : (fetchResources library crs replies).errors = [] ↔ obstructed crs replies = false := by
  rw [fetchResources, (foldl_fetchResource_spec _ _).1]
  exact and_iff_right rfl

theorem fetchResources_mark : (fetchResources library crs replies).mark = none ↔ incomplete crs replies = false := by
  rw [fetchResources, (foldl_fetchResource_spec _ _).2.1]
  exact and_iff_right rfl

theorem fetchResources_isFalse : ∀ mark ∈ (fetchResources library crs replies).mark, mark.status = .isFalse :=
  (foldl_fetchResource_spec _ _).2.2 nofun

theorem getOrCreateBinding_own (binding : Binding) :
    (getOrCreateBinding crs (own crs binding)).clusterResourceSetName = crs.name ∧
      (getOrCreateBinding crs (own crs binding)).getResource = ledgerOf crs.name (some binding) := by
  rw [getOrCreateBinding, show (own crs binding).entry crs.name = binding.entry crs.name from rfl]
  unfold ledgerOf
  rw [bind_some]
  cases found : binding.entry crs.name with
  | none => exact ⟨rfl, rfl⟩
  | some entry =>
    have named := find?_some (show binding.bindings.find? _ = some entry from found)
    exact ⟨of_decide_eq_true named, rfl⟩

theorem ledgerOf_patchBinding {error : Option ApplyError}
    (named : entry.clusterResourceSetName = crs.name) : ledgerOf crs.name
        (patchBinding replies clusterKey after (binding.updateEntry crs.name fun _ => entry) mark error).stored =
      if replies.patchBinding.takesEffect then entry.getResource else ledgerOf crs.name after := by
  rw [patchBinding]
  split_ifs
  · have found : (binding.updateEntry crs.name fun _ => entry).entry crs.name = some entry := by
      apply find?_upsert
      intro _
      exact decide_eq_true named
    funext ref
    rw [ledgerOf, bind_some, found, bind_some]
  · rfl

theorem applyClusterResourceSet_cases (clusterKey : String) (stored : Option Binding) :
    let applied := applyClusterResourceSet library crs replies clusterKey stored
    let fetched := (fetchResources library crs replies).mark
    (obstructed crs replies = true ∧ applied.mark = fetched ∧ applied.stored = stored) ∨
      obstructed crs replies = false ∧
        ((∃ after error, getOrCreateClusterResourceSetBinding crs replies clusterKey stored = (after, .error error) ∧
            applied.mark = fetched ∧ applied.stored = after) ∨
          ∃ binding, getOrCreateClusterResourceSetBinding crs replies clusterKey stored = (some binding, .ok binding) ∧
            ((replies.getClient ≠ .ok ∧ (∃ mark, mark.status = .isFalse ∧ applied.mark = some mark) ∧
                ledgerOf crs.name applied.stored = ledgerOf crs.name (some binding)) ∨
              (replies.getClient = .ok ∧ replies.getService ≠ none ∧ applied.mark = fetched ∧
                ledgerOf crs.name applied.stored = ledgerOf crs.name (some binding)) ∨
              replies.getClient = .ok ∧ replies.getService = none ∧
                ∃ entry, entry.getResource = ledgerOf crs.name (some binding) ∧
                  applied.mark =
                    (if (applyResources library crs replies entry).errors = [] then some { status := .isTrue }
                    else (applyResources library crs replies entry).mark.or fetched) ∧
                  ledgerOf crs.name applied.stored =
                    if replies.patchBinding.takesEffect then (applyResources library crs replies entry).entry.getResource
                    else ledgerOf crs.name (some binding))) := by
  unfold applyClusterResourceSet
  by_cases stopped : obstructed crs replies = true
  · left
    have failed : (fetchResources library crs replies).errors ≠ [] := by
      rw [ne_eq, fetchResources_errors, stopped]
      exact Bool.noConfusion
    rw [if_pos failed]
    exact ⟨stopped, rfl, rfl⟩
  · right
    rw [Bool.not_eq_true] at stopped
    have fetched := (@fetchResources_errors _ library crs replies).mpr stopped
    refine ⟨stopped, ?_⟩
    rw [if_neg (not_not.mpr fetched)]
    cases got : getOrCreateClusterResourceSetBinding crs replies clusterKey stored with
    | mk after result =>
      cases result with
      | error error => exact .inl ⟨after, error, rfl, rfl, rfl⟩
      | ok binding =>
        have isBinding : after = some binding := by
          unfold getOrCreateClusterResourceSetBinding at got
          split at got
          · cases got
          · cases got
            rfl
          · split at got <;> cases got <;> rfl
        cases isBinding
        have entrySpec := @getOrCreateBinding_own crs binding
        refine .inr ⟨binding, rfl, ?_⟩
        cases replies.getClient with
        | notConnected | failed =>
          refine .inl ⟨nofun, ⟨_, rfl, rfl⟩, ?_⟩
          rw [ledgerOf_patchBinding entrySpec.1, entrySpec.2, ite_self]
        | ok =>
          cases replies.getService with
          | some =>
            refine .inr (.inl ⟨rfl, nofun, rfl, ?_⟩)
            rw [ledgerOf_patchBinding entrySpec.1, entrySpec.2, ite_self]
          | none =>
            refine .inr (.inr ⟨rfl, rfl, _, entrySpec.2, ?_, ?_⟩)
            · dsimp only
              split_ifs <;> rfl
            · have named := (@applyResources_settlesAll _ library crs replies
                (getOrCreateBinding crs (own crs binding))).name.trans entrySpec.1
              dsimp only
              split <;> exact ledgerOf_patchBinding named

theorem applyClusterResourceSet_ledger (clusterKey : String) (stored : Option Binding) :
    ledgerOf crs.name (applyClusterResourceSet library crs replies clusterKey stored).stored =
      settledLedger library crs replies clusterKey stored := by
  unfold settledLedger
  rcases @applyClusterResourceSet_cases _ library crs replies clusterKey stored with
    ⟨stopped, -, same⟩ | ⟨goesOn, ⟨after, error, got, -, same⟩ | ⟨binding, got, noClient | noService | tried⟩⟩
  · rw [if_pos stopped, same]
  · rw [if_neg (Bool.eq_false_iff.mp goesOn), got, same]
  · rcases noClient with ⟨noClient, -, same⟩
    rw [if_neg (Bool.eq_false_iff.mp goesOn), got, same]
    exact (if_neg (fun reached => noClient reached.1)).symm
  · rcases noService with ⟨-, noService, -, same⟩
    rw [if_neg (Bool.eq_false_iff.mp goesOn), got, same]
    exact (if_neg (fun reached => noService reached.2.1)).symm
  · rcases tried with ⟨client, service, entry, ledger, -, same⟩
    rw [if_neg (Bool.eq_false_iff.mp goesOn), got, same, (applyResources_settlesAll entry).ledger, ledger]
    simp only [client, service, true_and]

theorem not_isTrue_of_isFalse (allFalse : ∀ found ∈ mark, found.status = .isFalse) :
    Conditions.isTrue mark = false := by
  cases mark with
  | none => rfl
  | some found => simp [Conditions.isTrue, allFalse found rfl]

theorem applyClusterResourceSet_mark (clusterKey : String) (stored : Option Binding) :
    (Conditions.isTrue (applyClusterResourceSet library crs replies clusterKey stored).mark = true ↔
        Succeeds library crs replies clusterKey stored) ∧
      ((applyClusterResourceSet library crs replies clusterKey stored).mark = none ↔
        Silent library crs replies clusterKey stored) := by
  have fetchedFalse := not_isTrue_of_isFalse (@fetchResources_isFalse _ library crs replies)
  unfold Silent Succeeds Tries Binds
  rcases @applyClusterResourceSet_cases _ library crs replies clusterKey stored with
    ⟨stopped, mark, -⟩ | ⟨goesOn, ⟨after, error, got, mark, -⟩ | ⟨binding, got, noClient | noService | tried⟩⟩
  · rw [mark, fetchedFalse, fetchResources_mark]
    simp [stopped]
  · rw [mark, fetchedFalse, fetchResources_mark]
    simp [got]
  · rcases noClient with ⟨noClient, ⟨written, isFalse, mark⟩, -⟩
    rw [mark]
    simp [got, goesOn, noClient, Conditions.isTrue, isFalse]
  · rcases noService with ⟨client, noService, mark, -⟩
    rw [mark, fetchedFalse, fetchResources_mark]
    simp [noService, client]
  · rcases tried with ⟨client, service, entry, ledger, mark, -⟩
    have settles := @applyResources_settlesAll _ library crs replies entry
    have noErrors := settles.errors
    have noMark := settles.mark
    rw [ledger] at noErrors noMark
    rw [mark]
    split_ifs with errorFree
    · have succeeds := (noErrors.mp errorFree).2
      simp [got, goesOn, client, service, succeeds, Conditions.isTrue]
    · have fails : SomeAttempt crs.strategy (Attempt.isError crs.strategy)
          (ledgerOf crs.name (some binding)) (attempts library crs replies) := by
        by_contra none
        exact errorFree (noErrors.mpr ⟨rfl, none⟩)
      have isFalse : Conditions.isTrue
          ((applyResources library crs replies entry).mark.or (fetchResources library crs replies).mark) = false := by
        apply not_isTrue_of_isFalse
        intro found written
        rcases or_eq_some_iff.mp written with applied | ⟨-, fetched⟩
        · exact settles.isFalse nofun found applied
        · exact fetchResources_isFalse found fetched
      rw [isFalse, or_eq_none_iff, noMark, fetchResources_mark]
      simp [got, goesOn, client, service, fails, and_comm]

end

/-! ## The loop over the clusters -/

section

variable {Content : Type} (library : Library Content) (replies : Replies Content) (crs : Crs)
  (bindings : String → Option Binding)

/-- The call for a cluster, on the binding it had before the reconcile. -/
def clusterApplied (cluster : Cluster) : Applied :=
  applyClusterResourceSet library crs (replies.apply cluster.name) (clusterKey crs cluster) (bindings cluster.name)

def ClusterSucceeds (cluster : Cluster) : Prop :=
  Succeeds library crs (replies.apply cluster.name) (clusterKey crs cluster) (bindings cluster.name)

def ClusterSilent (cluster : Cluster) : Prop :=
  Silent library crs (replies.apply cluster.name) (clusterKey crs cluster) (bindings cluster.name)

def clusterLedger (cluster : Cluster) : Ledger :=
  settledLedger library crs (replies.apply cluster.name) (clusterKey crs cluster) (bindings cluster.name)

/-- The last cluster that writes to the condition succeeds, or none writes and the condition was true before. -/
def EndsTrue (clusters : List Cluster) : Prop :=
  (∃ before cluster after, clusters = before ++ cluster :: after ∧
      ClusterSucceeds library replies crs bindings cluster ∧
      ∀ later ∈ after, ClusterSilent library replies crs bindings later) ∨
    (∀ cluster ∈ clusters, ClusterSilent library replies crs bindings cluster) ∧
      Conditions.isTrue crs.resourcesApplied = true

end

section

variable {Content : Type} {library : Library Content} {replies : Replies Content} {crs : Crs}
  {bindings : String → Option Binding} {clusters : List Cluster}

theorem applyPass_goesOn (reconciling : Reconciling) (cluster : Cluster) :
    leaves (applyPass library replies crs) reconciling cluster = false :=
  rfl

theorem applyPass_local : Local (applyPass library replies crs) Cluster.name Reconciling.bindings := by
  apply Local.of_result (fun _ _ => false) (fun cluster stored =>
    (applyClusterResourceSet library crs (replies.apply cluster.name) (clusterKey crs cluster) stored).stored)
    applyPass_goesOn
  · intro reconciling cluster
    exact update_self ..
  · intro _ _ _ apart
    exact update_of_ne apart ..

/-- The state after the loop over the clusters. -/
def reconciled (library : Library Content) (replies : Replies Content) (crs : Crs)
    (bindings : String → Option Binding) (clusters : List Cluster) : Reconciling :=
  (loop (applyPass library replies crs) { bindings := bindings, resourcesApplied := crs.resourcesApplied } clusters).run

variable (distinct : (clusters.map Cluster.name).Nodup)
include distinct

theorem reconciled_ledger {cluster : Cluster} (inside : cluster ∈ clusters) :
    ledgerOf crs.name ((reconciled library replies crs bindings clusters).bindings cluster.name) =
      clusterLedger library replies crs bindings cluster := by
  have stored : (reconciled library replies crs bindings clusters).bindings cluster.name =
      (applyPass library replies crs { bindings := bindings, resourcesApplied := crs.resourcesApplied }
        cluster).run.bindings cluster.name :=
    applyPass_local.view_loop_of_goesOn applyPass_goesOn distinct inside _
  rw [stored]
  change ledgerOf crs.name (update bindings cluster.name _ cluster.name) = _
  rw [update_self]
  exact applyClusterResourceSet_ledger ..

theorem reconciled_resourcesApplied :
    (reconciled library replies crs bindings clusters).resourcesApplied =
      (clusters.reverse.findSome? fun cluster => (clusterApplied library replies crs bindings cluster).mark).or
        crs.resourcesApplied := by
  rw [← foldl_or_eq_findSome?]
  exact applyPass_local.fold_loop applyPass_goesOn Reconciling.resourcesApplied
    (fun current cluster stored =>
      (applyClusterResourceSet library crs (replies.apply cluster.name) (clusterKey crs cluster) stored).mark.or current)
    (fun _ _ => rfl) distinct { bindings := bindings, resourcesApplied := crs.resourcesApplied }

theorem reconciled_isTrue_iff :
    Conditions.isTrue (reconciled library replies crs bindings clusters).resourcesApplied = true ↔
      EndsTrue library replies crs bindings clusters := by
  have succeeds : ∀ cluster, Conditions.isTrue (clusterApplied library replies crs bindings cluster).mark = true ↔
      ClusterSucceeds library replies crs bindings cluster := by
    intro cluster
    exact (applyClusterResourceSet_mark ..).1
  have silent : ∀ cluster, (clusterApplied library replies crs bindings cluster).mark = none ↔
      ClusterSilent library replies crs bindings cluster := by
    intro cluster
    exact (applyClusterResourceSet_mark ..).2
  rw [reconciled_resourcesApplied distinct]
  constructor
  · intro isTrue
    cases found : clusters.reverse.findSome? fun cluster => (clusterApplied library replies crs bindings cluster).mark with
    | none =>
      rw [found, none_or] at isTrue
      refine .inr ⟨?_, isTrue⟩
      intro cluster inside
      exact (silent cluster).mp (findSome?_eq_none_iff.mp found cluster (mem_reverse.mpr inside))
    | some =>
      rw [found, some_or] at isTrue
      rcases findSome?_eq_some_iff.mp found with ⟨later, cluster, earlier, split, mark, nothingLater⟩
      refine .inl ⟨earlier.reverse, cluster, later.reverse, ?_, ?_, ?_⟩
      · rw [← reverse_reverse clusters, split, reverse_append, reverse_cons, append_assoc,
          singleton_append]
      · rw [← succeeds, mark]
        exact isTrue
      · intro other inside
        exact (silent other).mp (nothingLater other (mem_reverse.mp inside))
  · rintro (⟨before, cluster, after, split, succeeded, silentAfter⟩ | ⟨allSilent, wasTrue⟩)
    · have isTrue := (succeeds cluster).mpr succeeded
      cases mark : (clusterApplied library replies crs bindings cluster).mark with
      | none =>
        rw [mark] at isTrue
        cases isTrue
      | some =>
        have found := findSome?_eq_some_iff.mpr ⟨after.reverse, cluster, before.reverse,
          show clusters.reverse = _ by simp [split], mark,
          fun other inside => (silent other).mpr (silentAfter other (mem_reverse.mp inside))⟩
        rw [found, some_or]
        rwa [mark] at isTrue
    · have found := findSome?_eq_none_iff.mpr (fun cluster inside =>
        (silent cluster).mpr (allSilent cluster (mem_reverse.mp inside)))
      rw [found, none_or]
      exact wasTrue

end

/-! ## The condition after a reconcile -/

def RecordsAll (crs : Crs) (ledger : Ledger) : Prop := ∀ ref ∈ crs.resources, ledger.records ref = true

/-- If the condition is true, every active cluster records all resources as applied. -/
def Truthful (server : Server) : Prop :=
  ∀ crs ∈ server.resourceSet, Conditions.isTrue crs.resourcesApplied = true →
    ∀ cluster ∈ activeClusters server, RecordsAll crs (ledgerOf crs.name (server.bindings cluster.name))

section

variable {Content : Type} (library : Library Content) (replies : Replies Content) (server : Server) (crs : Crs)

/-- The reconcile returns before it looks at the clusters. -/
def returnsEarly : Bool :=
  replies.getResourceSet.isSome || !crs.deleting && !crs.hasFinalizer || crs.hasPaused || !crs.pausedUpToDate

/-- The binding a deletion leaves to a cluster. -/
def deletedBinding (before : List Cluster) (cluster : Cluster) : Option Binding :=
  if before.any fun earlier =>
      (visit (replies.delete earlier.name) crs.name (server.bindings earlier.name)).ends then
    server.bindings cluster.name
  else (visit (replies.delete cluster.name) crs.name (server.bindings cluster.name)).binding

/-- The deletion takes the finalizer away: no visit fails before the first cluster without a binding. -/
def Finishes : Prop :=
  ∀ before cluster after, (activeClusters server).list = before ++ cluster :: after →
    (∀ earlier ∈ before, server.bindings earlier.name ≠ none) → ∀ binding error,
      visit (replies.delete cluster.name) crs.name (server.bindings cluster.name) ≠ .fails binding error

/-- The object is gone after its deletion. -/
def Gone : Prop :=
  replies.patchResourceSet.takesEffect = true ∧ crs.hasOtherFinalizers = false ∧
    (crs.hasFinalizer = true → Finishes replies server crs)

/-- What the clusters record, if a true condition remains after the reconcile. -/
def TruthCondition : Prop :=
  if returnsEarly replies crs = true ∨ replies.listClusters.isSome = true then
    returnsEarly replies crs = true ∨ replies.patchResourceSet.takesEffect = false →
      Conditions.isTrue crs.resourcesApplied = true →
        ∀ cluster ∈ activeClusters server, RecordsAll crs (ledgerOf crs.name (server.bindings cluster.name))
  else if crs.deleting = true then
    ¬ Gone replies server crs → Conditions.isTrue crs.resourcesApplied = true →
      ∀ before cluster after, (activeClusters server).list = before ++ cluster :: after →
        RecordsAll crs (ledgerOf crs.name (deletedBinding replies server crs before cluster))
  else
    (if replies.patchResourceSet.takesEffect = true then
        EndsTrue library replies crs server.bindings (activeClusters server).list
      else Conditions.isTrue crs.resourcesApplied = true) →
      ∀ cluster ∈ activeClusters server, RecordsAll crs (clusterLedger library replies crs server.bindings cluster)

end

section

variable {Content : Type} {library : Library Content} {replies : Replies Content} {server after : Server} {crs : Crs}

theorem truthful_of_some (same : after.clusters = server.clusters) (stored : after.resourceSet = some crs) :
    Truthful after ↔ (Conditions.isTrue crs.resourcesApplied = true →
      ∀ cluster ∈ activeClusters server, RecordsAll crs (ledgerOf crs.name (after.bindings cluster.name))) := by
  unfold Truthful activeClusters
  rw [stored, same]
  simp

theorem truthful_of_none (gone : after.resourceSet = none) : Truthful after := by
  unfold Truthful
  rw [gone]
  intro crs inside
  exact absurd inside (not_mem_none crs)

theorem reconcile_early (stored : server.resourceSet = some crs) (early : returnsEarly replies crs = true) :
    Truthful (Reconcile library replies server).1 ↔ TruthCondition library replies server crs := by
  have unchanged : ∃ after, (Reconcile library replies server).1.clusters = server.clusters ∧
      (Reconcile library replies server).1.bindings = server.bindings ∧
      (Reconcile library replies server).1.resourceSet = some after ∧
      after.name = crs.name ∧ after.resources = crs.resources ∧ after.resourcesApplied = crs.resourcesApplied := by
    unfold Reconcile
    rw [stored]
    cases read : replies.getResourceSet with
    | some => exact ⟨crs, rfl, rfl, stored, rfl, rfl, rfl⟩
    | none =>
      dsimp only
      split_ifs with noFinalizer added paused outdated marked
      · exact ⟨_, rfl, rfl, rfl, rfl, rfl, rfl⟩
      · exact ⟨_, rfl, rfl, rfl, rfl, rfl, rfl⟩
      · exact ⟨crs, rfl, rfl, stored, rfl, rfl, rfl⟩
      · exact ⟨_, rfl, rfl, rfl, rfl, rfl, rfl⟩
      · exact ⟨_, rfl, rfl, rfl, rfl, rfl, rfl⟩
      · simp_all [returnsEarly]
      · simp_all [returnsEarly]
  rcases unchanged with ⟨_, sameClusters, sameBindings, isStored, sameName, sameResources, sameCondition⟩
  rw [truthful_of_some sameClusters isStored, sameBindings, sameName, sameCondition]
  unfold RecordsAll
  rw [sameResources, TruthCondition, if_pos (.inl early)]
  exact ⟨fun truthful _ => truthful, fun condition => condition (.inl early)⟩

theorem activeClusters_distinct : ((activeClusters server).list.map Cluster.name).Nodup := (activeClusters server).distinct

theorem finalizerRemoved_iff :
    (reconcileDelete replies.delete crs.name server.bindings (activeClusters server).list).finalizerRemoved = true ↔
      Finishes replies server crs :=
  removed_iff_not_fails activeClusters_distinct rfl

theorem reconcileDelete_bindings {before after : List Cluster} {cluster : Cluster}
    (split : (activeClusters server).list = before ++ cluster :: after) :
    (reconcileDelete replies.delete crs.name server.bindings (activeClusters server).list).bindings cluster.name =
      deletedBinding replies server crs before cluster := by
  have distinct := @activeClusters_distinct server
  rw [split] at distinct
  have own := @Local.view_loop _ _ _ _ _ _ _ (@deletePass_local replies.delete crs.name) cluster after before distinct
    { bindings := server.bindings }
  rw [funext (deletePass_leaves _), deletePass_bindings, update_self] at own
  rw [reconcileDelete, finish_bindings, split]
  exact own

section

variable (stored : server.resourceSet = some crs) (goesOn : returnsEarly replies crs = false)
include stored goesOn

theorem truthful_of_unlisted {error : String} (listed : replies.listClusters = some error) :
    Truthful (patchResourceSet replies server
        { crs with resourcesApplied := some (markFalse library "ClusterMatchFailed" "Warning" error) }
        server.bindings .done).1 ↔ TruthCondition library replies server crs := by
  unfold TruthCondition
  rw [if_pos (.inr (by rw [listed]; rfl)), goesOn]
  by_cases effect : replies.patchResourceSet.takesEffect = true
  · refine iff_of_true ?_ (by simp [effect])
    intro _ isStored isTrue
    simp only [patchResourceSet, if_pos effect] at isStored
    split_ifs at isStored
    · cases isStored
    · cases isStored
      cases isTrue
  · have isStored : (patchResourceSet replies server
        { crs with resourcesApplied := some (markFalse library "ClusterMatchFailed" "Warning" error) }
        server.bindings .done).1.resourceSet = some crs := by
      simp only [patchResourceSet, if_neg effect, stored]
    rw [truthful_of_some rfl isStored]
    simp [effect, patchResourceSet]

theorem truthful_of_deleting (listed : replies.listClusters = none) (deleting : crs.deleting = true) :
    let deletion := reconcileDelete replies.delete crs.name server.bindings (activeClusters server).list
    Truthful (patchResourceSet replies server
        { crs with hasFinalizer := crs.hasFinalizer && !deletion.finalizerRemoved } deletion.bindings .done).1 ↔
      TruthCondition library replies server crs := by
  dsimp only
  have remaining : ∀ after, after.name = crs.name → after.resources = crs.resources →
      after.resourcesApplied = crs.resourcesApplied →
      ((Conditions.isTrue after.resourcesApplied = true → ∀ cluster ∈ activeClusters server,
          RecordsAll after (ledgerOf after.name
            ((reconcileDelete replies.delete crs.name server.bindings (activeClusters server).list).bindings
              cluster.name))) ↔
        (Conditions.isTrue crs.resourcesApplied = true →
          ∀ before cluster after, (activeClusters server).list = before ++ cluster :: after →
            RecordsAll crs (ledgerOf crs.name (deletedBinding replies server crs before cluster)))) := by
    intro after sameName sameResources sameCondition
    unfold RecordsAll
    rw [sameName, sameResources, sameCondition]
    apply imp_congr_right
    intro _
    constructor
    · intro records before cluster after split
      rw [← reconcileDelete_bindings split]
      exact records cluster (show cluster ∈ (activeClusters server).list by simp [split])
    · intro records cluster inside
      rcases append_of_mem (show cluster ∈ (activeClusters server).list from inside) with ⟨before, after, split⟩
      rw [reconcileDelete_bindings split]
      exact records before cluster after split
  unfold TruthCondition
  rw [if_neg (by simp [goesOn, listed]), if_pos deleting]
  by_cases gone : Gone replies server crs
  · refine iff_of_true (truthful_of_none ?_) (fun notGone => absurd gone notGone)
    rcases gone with ⟨effect, noOthers, finishes⟩
    rw [← finalizerRemoved_iff] at finishes
    simp only [patchResourceSet, if_pos effect, deleting, noOthers]
    cases finalizer : crs.hasFinalizer with
    | false => simp
    | true => simp [finishes finalizer]
  · rw [forall_prop_of_true gone]
    by_cases effect : replies.patchResourceSet.takesEffect = true
    · rw [truthful_of_some rfl (by
        simp only [patchResourceSet, if_pos effect, deleting, Bool.true_and]
        rw [if_neg]
        intro released
        apply gone
        simp only [Bool.and_eq_true, Bool.not_eq_true', Bool.and_eq_false_iff, Bool.not_eq_false'] at released
        refine ⟨effect, released.2, fun finalizer => finalizerRemoved_iff.mp ?_⟩
        rcases released.1 with noFinalizer | removed
        · exact absurd finalizer (Bool.eq_false_iff.mp noFinalizer)
        · exact removed)]
      exact remaining _ rfl rfl rfl
    · rw [truthful_of_some rfl (show _ = some crs by simp only [patchResourceSet, if_neg effect, stored])]
      exact remaining crs rfl rfl rfl

theorem truthful_of_applying (listed : replies.listClusters = none) (active : crs.deleting = false) :
    let reconciling := reconciled library replies crs server.bindings (activeClusters server).list
    Truthful (patchResourceSet replies server { crs with resourcesApplied := reconciling.resourcesApplied }
        reconciling.bindings .done).1 ↔
      TruthCondition library replies server crs := by
  dsimp only
  have ledgers : ∀ cluster ∈ activeClusters server,
      ledgerOf crs.name ((reconciled library replies crs server.bindings (activeClusters server).list).bindings
        cluster.name) = clusterLedger library replies crs server.bindings cluster := by
    intro cluster inside
    exact reconciled_ledger activeClusters_distinct inside
  have records : (∀ cluster ∈ activeClusters server, RecordsAll crs (ledgerOf crs.name
        ((reconciled library replies crs server.bindings (activeClusters server).list).bindings cluster.name))) ↔
      ∀ cluster ∈ activeClusters server, RecordsAll crs (clusterLedger library replies crs server.bindings cluster) := by
    apply forall_congr'
    intro cluster
    apply imp_congr_right
    intro inside
    rw [ledgers cluster inside]
  unfold TruthCondition
  rw [if_neg (by simp [goesOn, listed]), if_neg (Bool.eq_false_iff.mp active), ← records]
  split_ifs with effect
  · rw [truthful_of_some rfl (by simp only [patchResourceSet, if_pos effect, active, Bool.false_and]; rfl),
      ← reconciled_isTrue_iff activeClusters_distinct]
    rfl
  · rw [truthful_of_some rfl (show _ = some crs by simp only [patchResourceSet, if_neg effect, stored])]
    rfl

end

/-- After a reconcile the condition is truthful if and only if the clusters record what a true condition says. -/
theorem reconcile_truthful_iff (server : Server) :
    Truthful (Reconcile library replies server).1 ↔
      ∀ crs ∈ server.resourceSet, TruthCondition library replies server crs := by
  cases stored : server.resourceSet with
  | none =>
    refine iff_of_true (truthful_of_none ?_) (fun _ inside => absurd inside (not_mem_none _))
    unfold Reconcile
    rw [stored]
    cases replies.getResourceSet <;> exact stored
  | some crs =>
    have same : (∀ found ∈ some crs, TruthCondition library replies server found) ↔
        TruthCondition library replies server crs := by
      simp
    rw [same]
    by_cases early : returnsEarly replies crs = true
    · exact reconcile_early stored early
    · rw [Bool.not_eq_true] at early
      have goesOn := early
      simp only [returnsEarly, Bool.or_eq_false_iff, isSome_eq_false_iff, isNone_iff_eq_none] at goesOn
      rcases goesOn with ⟨⟨⟨read, finalizer⟩, notPaused⟩, upToDate⟩
      unfold Reconcile
      rw [stored, read]
      dsimp only
      rw [if_neg (Bool.eq_false_iff.mp finalizer), if_neg (show ¬ (crs.hasPaused && _) = true by simp [notPaused]),
        if_neg (Bool.eq_false_iff.mp upToDate)]
      cases listed : replies.listClusters with
      | some => exact truthful_of_unlisted stored early listed
      | none =>
        by_cases deleting : crs.deleting = true
        · rw [if_pos deleting]
          exact truthful_of_deleting stored early listed deleting
        · rw [if_neg deleting]
          exact truthful_of_applying stored early listed (Bool.eq_false_iff.mpr deleting)

end

namespace Example

def cni : ResourceRef := ⟨"cni", "ConfigMap"⟩

def library : Library Unit where
  reconcileScope _ := .ok { hash := "hash", objects := [] }
  sprintf format := format

def server : Server where
  resourceSet := some { name := "crs", resources := [cni] }
  clusters := oneCluster
  bindings _ := none

def missing : Replies Unit where
  apply _ := { getResource := fun _ => .notFound "not found" }

end Example

/-- The condition is true for a resource that does not exist and that no binding records. -/
theorem reconcile_true_for_missing_resource :
    ((Reconcile Example.library Example.missing Example.server).1.resourceSet.map Crs.resourcesApplied =
        some (some { status := .isTrue })) ∧
      ¬ Truthful (Reconcile Example.library Example.missing Example.server).1 := by
  refine ⟨by decide, ?_⟩
  intro truthful
  have recorded := truthful { name := "crs", resources := [Example.cni], resourcesApplied := some { status := .isTrue } }
    (by decide) (by decide) ⟨"cluster-1", false⟩ (by exact mem_singleton_self _) Example.cni (by decide)
  exact absurd recorded (by decide)

end ClusterApi.ClusterResourceSet

import ClusterApi.ClusterResourceSet.Binding
import ClusterApi.Foundation.Runs
import ClusterApi.Foundation.Versions
import ClusterApi.Util.Errors

namespace ClusterApi.Topology.TemplatesInUse

open Foundation List Option
open ClusterResourceSet (OwnerReference parseGroup)

/-!
# Garbage collection of templates

When a MachineDeployment of a topology or one of its MachineSets is deleted,
the controllers delete the templates that it references, unless one of the
others still uses them.  They first list the MachineSets, from the API server,
then read the MachineDeployment, from a cache, and then delete what neither of
the two uses.  Between any two of these steps templates are rotated and
MachineSets come and go.
-/

/-! ## References to templates -/

structure TemplateReference where
  apiVersion : String
  kind : String
  name : String
  deriving DecidableEq

/-- The templates of a MachineDeployment or a MachineSet.  Bootstrap templates are optional. -/
structure References where
  bootstrap : Option TemplateReference := none
  infrastructure : TemplateReference
  deriving DecidableEq

def References.all (references : References) : List TemplateReference :=
  references.bootstrap.toList ++ [references.infrastructure]

structure MachineDeployment where
  name : String
  references : References
  deleting : Bool := false
  deriving DecidableEq

structure MachineSet where
  name : String
  references : References
  deleting : Bool := false
  ownerReferences : List OwnerReference
  /-- The version of the MachineDeployment that it was created from. -/
  createdFrom : Nat
  deriving DecidableEq

/-- A template is identified without the version of its API. -/
def templateRefID (ref : TemplateReference) : Except String String :=
  match parseGroup ref.apiVersion with
  | none =>
    .error (wrap ("failed to parse apiVersion " ++ quote ref.apiVersion)
      ("unexpected GroupVersion string: " ++ ref.apiVersion))
  | some group => .ok (group ++ "/" ++ ref.kind ++ "/" ++ ref.name)

def addTemplateRef : List String → List TemplateReference → Except String (List String)
  | templatesInUse, [] => .ok templatesInUse
  | templatesInUse, ref :: rest =>
    match templateRefID ref with
    | .error error => .error (wrap "failed to calculate templateRefID" error)
    | .ok refID => addTemplateRef (refID :: templatesInUse) rest

/-- The templates of the MachineSets that are not being deleted. -/
def addMachineSets : List String → List MachineSet → Except String (List String)
  | templatesInUse, [] => .ok templatesInUse
  | templatesInUse, machineSet :: rest =>
    if machineSet.deleting then addMachineSets templatesInUse rest
    else
      match addTemplateRef templatesInUse machineSet.references.all with
      | .error error =>
        .error (wrap ("failed to add templates of MachineSet " ++ machineSet.name ++ " to templatesInUse") error)
      | .ok added => addMachineSets added rest

def calculateTemplatesInUse (machineDeployment : Option MachineDeployment)
    (machineSets : List MachineSet) : Except String (List String) :=
  match addMachineSets [] machineSets with
  | .error error => .error error
  | .ok templatesInUse =>
    match machineDeployment with
    | none => .ok templatesInUse
    | some machineDeployment =>
      if machineDeployment.deleting then .ok templatesInUse
      else
        match addTemplateRef templatesInUse machineDeployment.references.all with
        | .error error =>
          .error (wrap ("failed to add templates of MachineDeployment " ++ machineDeployment.name ++
            " to templatesInUse") error)
        | .ok added => .ok added

/-- Whether the template is deleted. -/
def deleteTemplateIfUnused (templatesInUse : List String) (ref : TemplateReference) : Except String Bool :=
  match templateRefID ref with
  | .error error => .error (wrap "failed to calculate templateRefID" error)
  | .ok refID => .ok (decide (refID ∉ templatesInUse))

/-- The first owner that is a MachineDeployment. -/
def machineDeploymentOwner (machineSetName : String) : List OwnerReference → Except String String
  | [] => .error ("could not calculate MachineDeployment name for MachineSet " ++ machineSetName)
  | ref :: rest =>
    if ref.kind ≠ "MachineDeployment" then machineDeploymentOwner machineSetName rest
    else
      match parseGroup ref.apiVersion with
      | none =>
        .error (wrap ("could not calculate MachineDeployment name for MachineSet " ++ machineSetName ++
          ": invalid apiVersion " ++ quote ref.apiVersion) ("unexpected GroupVersion string: " ++ ref.apiVersion))
      | some group =>
        if group = "cluster.x-k8s.io" then .ok ref.name else machineDeploymentOwner machineSetName rest

def getMachineDeploymentName (machineSet : MachineSet) : Except String String :=
  machineDeploymentOwner machineSet.name machineSet.ownerReferences

/-! ## The reconciles of deleted objects -/

/-- The object that is being deleted, as the reconcile has read it. -/
inductive Owner
  | machineSet (machineSet : MachineSet)
  | machineDeployment (machineDeployment : MachineDeployment)

def Owner.references : Owner → References
  | .machineSet object => object.references
  | .machineDeployment object => object.references

inductive Stage
  | begun
  /-- The MachineSets are listed. -/
  | listed (machineSets : List MachineSet)
  /-- It is known what is in use, and some templates are still to be looked at. -/
  | collecting (templatesInUse : List String) (remaining : List TemplateReference)

structure Reconcile where
  owner : Owner
  stage : Stage := .begun

namespace Reconcile

/-- What is in use is known, or the reconcile fails. -/
def collect (reconcile : Reconcile) (templatesInUse : Except String (List String)) : Except String Reconcile :=
  templatesInUse.map fun templatesInUse =>
    { reconcile with stage := .collecting templatesInUse reconcile.owner.references.all }

/-- The MachineSets are listed.  The deletion of a MachineDeployment needs to read nothing else. -/
def list (machineSets : List MachineSet) (reconcile : Reconcile) : Option (Except String Reconcile) :=
  match reconcile.stage, reconcile.owner with
  | .begun, .machineSet machineSet => some
      ((getMachineDeploymentName machineSet).map fun _ => { reconcile with stage := .listed machineSets })
  | .begun, .machineDeployment machineDeployment =>
    some (reconcile.collect (calculateTemplatesInUse (some machineDeployment) machineSets))
  | _, _ => none

/-- The deletion of a MachineSet reads the MachineDeployment, if that still exists. -/
def read (machineDeployment : Option MachineDeployment) (reconcile : Reconcile) : Option (Except String Reconcile) :=
  match reconcile.stage with
  | .listed machineSets => some (reconcile.collect (calculateTemplatesInUse machineDeployment machineSets))
  | _ => none

/-- The next template is deleted, or kept because it is in use. -/
def next (reconcile : Reconcile) : Option (Except String Reconcile) :=
  match reconcile.stage with
  | .collecting templatesInUse (ref :: rest) => some
      ((deleteTemplateIfUnused templatesInUse ref).map fun _ =>
        { reconcile with stage := .collecting templatesInUse rest })
  | _ => none

end Reconcile

structure State where
  /-- All versions of the MachineDeployment, in their order; the last one is stored. -/
  versions : List (Option MachineDeployment)
  machineSets : List MachineSet := []
  reconciles : List Reconcile := []

inductive Action
  | rotate (references : References)
  | deleteMachineDeployment
  | removeMachineDeployment
  /-- A MachineSet is created from some version of the MachineDeployment. -/
  | createMachineSet (name : String) (ownerReferences : List OwnerReference) (version : Nat)
  | deleteMachineSet (name : String)
  | removeMachineSet (name : String)
  | reconcileMachineSet (machineSet : MachineSet)
  /-- The MachineDeployment is read from a cache. -/
  | reconcileMachineDeployment (version : Nat)
  | list (index : Nat)
  /-- The MachineDeployment is read from a cache. -/
  | read (index : Nat) (version : Nat)
  | collect (index : Nat)
  /-- A reconcile ends, because it is done or because a call has failed. -/
  | abort (index : Nat)

/-- A template, without the version of its API: group, kind and name. -/
abbrev TemplateKey := String × String × String

def TemplateReference.key (ref : TemplateReference) : Option TemplateKey :=
  (parseGroup ref.apiVersion).map fun group => (group, ref.kind, ref.name)

def References.keys (references : References) : List TemplateKey := references.all.filterMap TemplateReference.key

/-- The stored MachineDeployment, if there is one. -/
def storedVersion (versions : List (Option MachineDeployment)) : Option MachineDeployment := versions.getLast?.join

namespace State

def stored (state : State) : Option MachineDeployment := storedVersion state.versions

/-- No version of the MachineDeployment has referenced the template. -/
def isFresh (state : State) (key : TemplateKey) : Bool :=
  state.versions.all fun version => version.all fun machineDeployment => key ∉ machineDeployment.references.keys

/-- A step of one reconcile. -/
def advance (state : State) (index : Nat) (next : Reconcile → Option (Except String Reconcile)) : Option State :=
  state.reconciles[index]?.bind fun reconcile => (next reconcile).map fun
    | .error _ => { state with reconciles := state.reconciles.eraseIdx index }
    | .ok later => { state with reconciles := state.reconciles.set index later }

end State

def step (state : State) : Action → Option State
  | .rotate references =>
    state.stored.bind fun machineDeployment =>
      -- A template is kept, or replaced by one with a new name.
      if references.keys.all fun key => key ∈ machineDeployment.references.keys || state.isFresh key then
        some { state with versions := state.versions ++ [some { machineDeployment with references := references }] }
      else none
  | .deleteMachineDeployment =>
    state.stored.map fun machineDeployment =>
      { state with versions := state.versions ++ [some { machineDeployment with deleting := true }] }
  | .removeMachineDeployment =>
    state.stored.bind fun machineDeployment =>
      if machineDeployment.deleting then some { state with versions := state.versions ++ [none] } else none
  | .createMachineSet name ownerReferences version =>
    state.versions[version]?.join.bind fun machineDeployment =>
      let machineSet : MachineSet :=
        { name, references := machineDeployment.references, ownerReferences, createdFrom := version }
      if !machineDeployment.deleting ∧ getMachineDeploymentName machineSet = .ok machineDeployment.name then
        some { state with machineSets := machineSet :: state.machineSets }
      else none
  | .deleteMachineSet name => some
      { state with machineSets := state.machineSets.map fun machineSet =>
          if machineSet.name = name then { machineSet with deleting := true } else machineSet }
  | .removeMachineSet name => some
      { state with machineSets := state.machineSets.filter fun machineSet =>
          !(machineSet.name = name && machineSet.deleting) }
  | .reconcileMachineSet machineSet =>
    if machineSet ∈ state.machineSets ∧ machineSet.deleting then
      some { state with reconciles := { owner := .machineSet machineSet } :: state.reconciles }
    else none
  | .reconcileMachineDeployment version =>
    state.versions[version]?.join.bind fun machineDeployment =>
      if machineDeployment.deleting then
        some { state with reconciles := { owner := .machineDeployment machineDeployment } :: state.reconciles }
      else none
  | .list index => state.advance index (Reconcile.list state.machineSets)
  | .read index version =>
    state.versions[version]?.bind fun machineDeployment => state.advance index (Reconcile.read machineDeployment)
  | .collect index => state.advance index Reconcile.next
  | .abort index => some { state with reconciles := state.reconciles.eraseIdx index }

/-- The templates that are deleted when an action is taken. -/
def deletes (state : State) : Action → List TemplateReference
  | .collect index =>
    match state.reconciles[index]?.map Reconcile.stage with
    | some (.collecting templatesInUse (ref :: _)) =>
      match deleteTemplateIfUnused templatesInUse ref with
      | .ok true => [ref]
      | _ => []
    | _ => []
  | _ => []

/-! ## Templates in use -/

/-- The stored MachineDeployment references the template and is not being deleted. -/
def InUseByMachineDeployment (versions : List (Option MachineDeployment)) (key : TemplateKey) : Prop :=
  ∃ machineDeployment ∈ storedVersion versions,
    machineDeployment.deleting = false ∧ key ∈ machineDeployment.references.keys

/-- A stored MachineSet references the template and is not being deleted. -/
def InUseByMachineSet (machineSets : List MachineSet) (key : TemplateKey) : Prop :=
  ∃ machineSet ∈ machineSets, machineSet.deleting = false ∧ key ∈ machineSet.references.keys

instance (machineSets : List MachineSet) (key : TemplateKey) : Decidable (InUseByMachineSet machineSets key) :=
  inferInstanceAs (Decidable (∃ machineSet ∈ machineSets, _))

def InUse (state : State) (key : TemplateKey) : Prop :=
  InUseByMachineDeployment state.versions key ∨ InUseByMachineSet state.machineSets key

/-- The identifier of a template. -/
def refID (key : TemplateKey) : String := key.1 ++ "/" ++ key.2.1 ++ "/" ++ key.2.2

/-- The templates that a reconcile may still delete, as far as it knows. -/
def Reconcile.pending (reconcile : Reconcile) : List TemplateKey :=
  match reconcile.stage with
  | .begun => []
  | .listed machineSets => reconcile.owner.references.keys.filter fun key => ¬ InUseByMachineSet machineSets key
  | .collecting templatesInUse remaining =>
    (remaining.filterMap TemplateReference.key).filter fun key => refID key ∉ templatesInUse

/-- A version of the MachineDeployment is at least as recent as the MachineSet that is being deleted. -/
def Owner.isCoveredBy (version : Nat) : Owner → Bool
  | .machineSet object => object.createdFrom ≤ version
  | .machineDeployment _ => true

/-- The MachineDeployment that a reconcile reads is not older than the MachineSet that is being deleted.  A MachineSet
is not created with a template that a reconcile, which has already listed the MachineSets, may still delete. -/
def KeepsUp (state : State) : Action → Prop
  | .read index version => ∀ reconcile ∈ state.reconciles[index]?, reconcile.owner.isCoveredBy version = true
  | .createMachineSet _ _ version =>
    ∀ machineDeployment ∈ state.versions[version]?.join,
      ∀ reconcile ∈ state.reconciles, ∀ key ∈ machineDeployment.references.keys, key ∉ reconcile.pending
  | _ => True

instance (state : State) : (action : Action) → Decidable (KeepsUp state action)
  | .read index version =>
    inferInstanceAs (Decidable (∀ reconcile ∈ state.reconciles[index]?, reconcile.owner.isCoveredBy version = true))
  | .createMachineSet _ _ version =>
    inferInstanceAs (Decidable (∀ machineDeployment ∈ state.versions[version]?.join,
      ∀ reconcile ∈ state.reconciles, ∀ key ∈ machineDeployment.references.keys, key ∉ reconcile.pending))
  | .rotate _ | .deleteMachineDeployment | .removeMachineDeployment | .deleteMachineSet _ | .removeMachineSet _
  | .reconcileMachineSet _ | .reconcileMachineDeployment _ | .list _ | .collect _ | .abort _ => isTrue trivial

/-! ## What the code takes to be in use -/

variable {ref : TemplateReference} {templatesInUse added : List String} {machineSets : List MachineSet}

theorem key_of_templateRefID {id : String} (calculated : templateRefID ref = .ok id) :
    ∃ key, ref.key = some key ∧ id = refID key := by
  unfold templateRefID at calculated
  split at calculated
  · cases calculated
  · rename_i group parsed
    cases calculated
    refine ⟨(group, ref.kind, ref.name), ?_, rfl⟩
    rw [TemplateReference.key, parsed]
    rfl

theorem addTemplateRef_spec {refs : List TemplateReference} (isAdded : addTemplateRef templatesInUse refs = .ok added) :
    templatesInUse ⊆ added ∧ ∀ key ∈ refs.filterMap TemplateReference.key, refID key ∈ added := by
  induction refs generalizing templatesInUse with
  | nil =>
    cases isAdded
    refine ⟨List.Subset.refl _, ?_⟩
    intro key inside
    cases inside
  | cons _ _ ih =>
    unfold addTemplateRef at isAdded
    split at isAdded
    · cases isAdded
    · rename_i calculated
      rcases ih isAdded with ⟨kept, later⟩
      rw [cons_subset] at kept
      refine ⟨kept.2, ?_⟩
      rcases key_of_templateRefID calculated with ⟨_, isKey, rfl⟩
      rw [filterMap_cons_some isKey, forall_mem_cons]
      exact ⟨kept.1, later⟩

theorem addMachineSets_spec (isAdded : addMachineSets templatesInUse machineSets = .ok added) :
    templatesInUse ⊆ added ∧ ∀ key, InUseByMachineSet machineSets key → refID key ∈ added := by
  induction machineSets generalizing templatesInUse with
  | nil =>
    cases isAdded
    refine ⟨List.Subset.refl _, ?_⟩
    rintro key ⟨machineSet, inside, _⟩
    cases inside
  | cons _ _ ih =>
    unfold addMachineSets at isAdded
    split at isAdded
    · rename_i deleting
      rcases ih isAdded with ⟨kept, later⟩
      refine ⟨kept, ?_⟩
      rintro key ⟨user, inside, alive, uses⟩
      rcases mem_cons.mp inside with rfl | inside
      · rw [deleting] at alive
        cases alive
      · exact later key ⟨user, inside, alive, uses⟩
    · split at isAdded
      · cases isAdded
      · rename_i first
        rcases addTemplateRef_spec first with ⟨kept, own⟩
        rcases ih isAdded with ⟨keptLater, later⟩
        refine ⟨List.Subset.trans kept keptLater, ?_⟩
        rintro key ⟨user, inside, alive, uses⟩
        rcases mem_cons.mp inside with rfl | inside
        · exact keptLater (own key uses)
        · exact later key ⟨user, inside, alive, uses⟩

theorem calculateTemplatesInUse_spec {machineDeployment : Option MachineDeployment}
    (calculated : calculateTemplatesInUse machineDeployment machineSets = .ok templatesInUse) :
    (∀ key, InUseByMachineSet machineSets key → refID key ∈ templatesInUse) ∧
      ∀ user ∈ machineDeployment, user.deleting = false → ∀ key ∈ user.references.keys, refID key ∈ templatesInUse := by
  unfold calculateTemplatesInUse at calculated
  split at calculated
  · cases calculated
  · rename_i added
    have sets := (addMachineSets_spec added).2
    cases machineDeployment with
    | none =>
      cases calculated
      refine ⟨sets, ?_⟩
      intro _ isUser
      cases isUser
    | some =>
      dsimp only at calculated
      split at calculated
      · rename_i deleting
        cases calculated
        refine ⟨sets, ?_⟩
        intro other isUser alive
        cases isUser
        rw [deleting] at alive
        cases alive
      · split at calculated
        · cases calculated
        · rename_i isAdded
          cases calculated
          rcases addTemplateRef_spec isAdded with ⟨kept, own⟩
          refine ⟨fun key inUse => kept (sets key inUse), ?_⟩
          intro _ isUser _
          cases isUser
          exact own

/-! ## Versions of the MachineDeployment -/

/-- A version of the MachineDeployment references the template, whether it is being deleted or not. -/
def uses (version : Option MachineDeployment) (key : TemplateKey) : Prop :=
  ∃ machineDeployment ∈ version, key ∈ machineDeployment.references.keys

/-- The MachineDeployment is being deleted, or is gone. -/
def Ending (version : Option MachineDeployment) : Prop :=
  ∀ machineDeployment ∈ version, machineDeployment.deleting = true

/-- The MachineSet has the templates of the version it was created from. -/
def CreatedFrom (versions : List (Option MachineDeployment)) (machineSet : MachineSet) : Prop :=
  ∃ machineDeployment, versions[machineSet.createdFrom]? = some (some machineDeployment) ∧
    machineSet.references = machineDeployment.references

/-- The object that is being deleted is one of the objects of the model. -/
def Known (versions : List (Option MachineDeployment)) : Owner → Prop
  | .machineSet machineSet => CreatedFrom versions machineSet
  | .machineDeployment machineDeployment =>
    machineDeployment.deleting = true ∧ ∃ version : Nat, versions[version]? = some (some machineDeployment)

/-- What a reconcile may still delete is not in use, as far as it has looked. -/
structure Sound (versions : List (Option MachineDeployment)) (machineSets : List MachineSet)
    (reconcile : Reconcile) : Prop where
  known : Known versions reconcile.owner
  owned : ∀ key ∈ reconcile.pending, key ∈ reconcile.owner.references.keys
  bySets : ∀ key ∈ reconcile.pending, ¬ InUseByMachineSet machineSets key
  byDeployment : ∀ templatesInUse remaining, reconcile.stage = .collecting templatesInUse remaining →
    ∀ key ∈ reconcile.pending, ¬ InUseByMachineDeployment versions key

structure Invariant (state : State) : Prop where
  grows : GrowsFreshly uses state.versions
  ending : Lasting Ending state.versions
  created : ∀ machineSet ∈ state.machineSets, CreatedFrom state.versions machineSet
  reconciles : ∀ reconcile ∈ state.reconciles, Sound state.versions state.machineSets reconcile

section

variable {versions : List (Option MachineDeployment)} {key : TemplateKey}

variable {machineDeployment : MachineDeployment}

theorem getLast_of_mem_storedVersion (stored : machineDeployment ∈ storedVersion versions) :
    versions.getLast? = some (some machineDeployment) := by
  exact join_eq_some_iff.mp stored

theorem getElem_of_mem_storedVersion (stored : machineDeployment ∈ storedVersion versions) :
    versions[versions.length - 1]? = some (some machineDeployment) := by
  rw [← getLast?_eq_getElem?]
  exact getLast_of_mem_storedVersion stored

theorem InUseByMachineDeployment.usedAt (inUse : InUseByMachineDeployment versions key) :
    UsedAt uses versions (versions.length - 1) key := by
  rcases inUse with ⟨machineDeployment, stored, _, isUsed⟩
  exact ⟨_, getElem_of_mem_storedVersion stored, machineDeployment, rfl, isUsed⟩

theorem InUseByMachineDeployment.alive (inUse : InUseByMachineDeployment versions key)
    (ending : Lasting Ending versions) {position : Nat} (found : versions[position]? = some (some machineDeployment)) :
    machineDeployment.deleting = false := by
  rcases inUse with ⟨last, stored, alive, _⟩
  by_contra deleting
  have inside := (List.getElem?_eq_some_iff.mp found).1
  have ends : Ending (some last) := by
    apply ending.le found _ (by omega) (getElem_of_mem_storedVersion stored)
    intro _ isOther
    cases isOther
    exact Bool.not_eq_false _ ▸ deleting
  rw [ends last rfl] at alive
  cases alive

theorem CreatedFrom.usedAt {machineSet : MachineSet} (created : CreatedFrom versions machineSet)
    (isUsed : key ∈ machineSet.references.keys) : UsedAt uses versions machineSet.createdFrom key := by
  rcases created with ⟨machineDeployment, found, same⟩
  rw [same] at isUsed
  exact ⟨_, found, machineDeployment, rfl, isUsed⟩

theorem Known.usedAt {owner : Owner} (known : Known versions owner)
    (isUsed : key ∈ owner.references.keys) : ∃ position, UsedAt uses versions position key := by
  cases owner with
  | machineSet machineSet =>
    have created : CreatedFrom versions machineSet := known
    exact ⟨_, created.usedAt isUsed⟩
  | machineDeployment machineDeployment =>
    rcases known with ⟨_, version, found⟩
    exact ⟨version, _, found, machineDeployment, rfl, isUsed⟩

end

/-! ## Steps of a reconcile -/

section

variable {versions : List (Option MachineDeployment)} {machineSets : List MachineSet} {reconcile later : Reconcile}

variable {key : TemplateKey} {machineDeployment : Option MachineDeployment} {version : Nat}

theorem Known.not_inUse {machineDeployment : MachineDeployment}
    (known : Known versions (.machineDeployment machineDeployment)) (ending : Lasting Ending versions) :
    ¬ InUseByMachineDeployment versions key := by
  rcases known with ⟨deleting, _, found⟩
  intro inUse
  rw [inUse.alive ending found] at deleting
  cases deleting

theorem mem_pending_collecting {templatesInUse : List String} {remaining : List TemplateReference} :
    key ∈ (⟨reconcile.owner, .collecting templatesInUse remaining⟩ : Reconcile).pending ↔
      key ∈ remaining.filterMap TemplateReference.key ∧ refID key ∉ templatesInUse := by
  rw [Reconcile.pending, mem_filter, decide_eq_true_eq]

theorem collect_eq_ok {templatesInUse : Except String (List String)}
    (collected : reconcile.collect templatesInUse = .ok later) :
    ∃ calculated, templatesInUse = .ok calculated ∧
      later = ⟨reconcile.owner, .collecting calculated reconcile.owner.references.all⟩ := by
  cases templatesInUse with
  | error => cases collected
  | ok calculated =>
    cases collected
    exact ⟨calculated, rfl, rfl⟩

theorem Sound.list (sound : Sound versions machineSets reconcile) (ending : Lasting Ending versions)
    (isListed : reconcile.list machineSets = some (.ok later)) : Sound versions machineSets later := by
  rcases reconcile with ⟨owner, stage⟩
  have known := sound.known
  cases stage with
  | listed | collecting => cases isListed
  | begun =>
    cases owner with
    | machineSet machineSet =>
      dsimp only [Reconcile.list] at isListed
      cases found : getMachineDeploymentName machineSet with
      | error =>
        rw [found] at isListed
        cases isListed
      | ok =>
        rw [found] at isListed
        cases isListed
        refine ⟨known, ?_, ?_, ?_⟩
        · intro key isPending
          exact (mem_filter.mp isPending).1
        · intro key isPending
          exact of_decide_eq_true (mem_filter.mp isPending).2
        · intro templatesInUse _ collecting
          cases collecting
    | machineDeployment =>
      rcases collect_eq_ok (some.inj isListed) with ⟨_, calculated, rfl⟩
      refine ⟨known, ?_, ?_, ?_⟩
      · intro key isPending
        exact (mem_pending_collecting.mp isPending).1
      · intro key isPending inUse
        exact (mem_pending_collecting.mp isPending).2 ((calculateTemplatesInUse_spec calculated).1 key inUse)
      · intro _ _ _ _ _
        exact known.not_inUse ending

theorem Sound.read (sound : Sound versions machineSets reconcile) (grows : GrowsFreshly uses versions)
    (ending : Lasting Ending versions) (found : versions[version]? = some machineDeployment)
    (recent : reconcile.owner.isCoveredBy version = true)
    (isRead : reconcile.read machineDeployment = some (.ok later)) : Sound versions machineSets later := by
  rcases reconcile with ⟨owner, stage⟩
  have known := sound.known
  cases stage with
  | begun | collecting => cases isRead
  | listed =>
    rcases collect_eq_ok (some.inj isRead) with ⟨_, calculated, rfl⟩
    rcases calculateTemplatesInUse_spec calculated with ⟨bySets, byDeployment⟩
    refine ⟨known, ?_, ?_, ?_⟩
    · intro key isPending
      exact (mem_pending_collecting.mp isPending).1
    · intro key isPending
      rcases mem_pending_collecting.mp isPending with ⟨isOwned, unused⟩
      apply sound.bySets key
      refine mem_filter.mpr ⟨isOwned, decide_eq_true ?_⟩
      intro listedUse
      exact unused (bySets key listedUse)
    · intro _ _ _ key isPending inUse
      rcases mem_pending_collecting.mp isPending with ⟨isOwned, unused⟩
      cases owner with
      | machineDeployment => exact known.not_inUse ending inUse
      | machineSet =>
        have inside := (List.getElem?_eq_some_iff.mp found).1
        rcases grows.between (CreatedFrom.usedAt known isOwned) inUse.usedAt (of_decide_eq_true recent) (by omega) with
          ⟨other, otherFound, user, isUser, stillUsed⟩
        rw [mem_def, found, some.injEq] at otherFound
        subst otherFound isUser
        exact unused (byDeployment user rfl (inUse.alive ending found) key stillUsed)

theorem Sound.next (sound : Sound versions machineSets reconcile)
    (isNext : reconcile.next = some (.ok later)) : Sound versions machineSets later := by
  rcases reconcile with ⟨owner, stage⟩
  cases stage with
  | begun | listed => cases isNext
  | collecting templatesInUse remaining =>
    cases remaining with
    | nil => cases isNext
    | cons ref rest =>
      dsimp only [Reconcile.next] at isNext
      cases result : deleteTemplateIfUnused templatesInUse ref with
      | error =>
        rw [result] at isNext
        cases isNext
      | ok =>
        rw [result] at isNext
        cases isNext
        have fewer : ∀ key ∈ (⟨owner, .collecting templatesInUse rest⟩ : Reconcile).pending,
            key ∈ (⟨owner, .collecting templatesInUse (ref :: rest)⟩ : Reconcile).pending := by
          intro key isPending
          rcases mem_filter.mp isPending with ⟨inside, unused⟩
          refine mem_filter.mpr ⟨?_, unused⟩
          rcases mem_filterMap.mp inside with ⟨other, listed, isKey⟩
          exact mem_filterMap.mpr ⟨other, mem_cons_of_mem _ listed, isKey⟩
        refine ⟨sound.known, ?_, ?_, ?_⟩
        · intro key isPending
          exact sound.owned key (fewer key isPending)
        · intro key isPending
          exact sound.bySets key (fewer key isPending)
        · intro _ _ _ key isPending
          exact sound.byDeployment templatesInUse (ref :: rest) rfl key (fewer key isPending)

end

/-! ## Steps of the system -/

section

variable {state : State} {versions : List (Option MachineDeployment)} {owner : Owner}

theorem CreatedFrom.concat {machineSet : MachineSet} (created : CreatedFrom versions machineSet)
    (last : Option MachineDeployment) : CreatedFrom (versions ++ [last]) machineSet := by
  rcases created with ⟨machineDeployment, found, same⟩
  refine ⟨machineDeployment, ?_, same⟩
  rw [List.getElem?_append_left (List.getElem?_eq_some_iff.mp found).1]
  exact found

theorem Known.concat (known : Known versions owner) (last : Option MachineDeployment) :
    Known (versions ++ [last]) owner := by
  cases owner with
  | machineSet machineSet =>
    have created : CreatedFrom versions machineSet := known
    exact created.concat last
  | machineDeployment =>
    rcases known with ⟨deleting, version, found⟩
    refine ⟨deleting, version, ?_⟩
    rw [List.getElem?_append_left (List.getElem?_eq_some_iff.mp found).1]
    exact found

variable (invariant : Invariant state)
include invariant

theorem Invariant.change {last : Option MachineDeployment}
    (fresh : ∀ key, uses last key → UsedAt uses state.versions (state.versions.length - 1) key ∨
      ∀ position, ¬ UsedAt uses state.versions position key)
    (ends : ∀ previous ∈ state.versions.getLast?, Ending previous → Ending last) :
    Invariant { state with versions := state.versions ++ [last] } where
  grows := invariant.grows.concat fresh
  ending := invariant.ending.concat ends
  created := fun machineSet inside => (invariant.created machineSet inside).concat last
  reconciles := by
    intro reconcile inside
    have sound := invariant.reconciles reconcile inside
    refine ⟨sound.known.concat last, sound.owned, sound.bySets, ?_⟩
    rintro templatesInUse remaining collecting key isPending ⟨machineDeployment, stored, alive, isUsed⟩
    -- The template was referenced before, so that the new version has it from the one before.
    rw [storedVersion, getLast?_concat, join_some, mem_def] at stored
    rcases fresh key ⟨machineDeployment, stored, isUsed⟩ with ⟨_, found, user, isUser, wasUsed⟩ | never
    · rw [mem_def, ← getLast?_eq_getElem?] at found
      rw [isUser] at found
      apply sound.byDeployment templatesInUse remaining collecting key isPending
      refine ⟨user, by rw [storedVersion, found]; rfl, ?_, wasUsed⟩
      by_contra deleting
      have ended := ends _ found (by
        intro _ isOther
        cases isOther
        exact Bool.not_eq_false _ ▸ deleting)
      rw [ended machineDeployment stored] at alive
      cases alive
    · rcases sound.known.usedAt (sound.owned key isPending) with ⟨position, before⟩
      exact never position before

theorem Invariant.replaceSets {machineSets : List MachineSet}
    (created : ∀ machineSet ∈ machineSets, CreatedFrom state.versions machineSet)
    (fewer : ∀ reconcile ∈ state.reconciles, ∀ key ∈ reconcile.pending, InUseByMachineSet machineSets key →
      InUseByMachineSet state.machineSets key) : Invariant { state with machineSets := machineSets } where
  grows := invariant.grows
  ending := invariant.ending
  created := created
  reconciles := by
    intro reconcile inside
    have sound := invariant.reconciles reconcile inside
    refine ⟨sound.known, sound.owned, ?_, sound.byDeployment⟩
    intro key isPending inUse
    exact sound.bySets key isPending (fewer reconcile inside key isPending inUse)

theorem Invariant.begin (known : Known state.versions owner) :
    Invariant { state with reconciles := { owner := owner } :: state.reconciles } where
  grows := invariant.grows
  ending := invariant.ending
  created := invariant.created
  reconciles := by
    rw [forall_mem_cons]
    refine ⟨⟨known, ?_, ?_, ?_⟩, invariant.reconciles⟩
    · intro key isPending
      cases isPending
    · intro _ isPending
      cases isPending
    · intro _ _ collecting
      cases collecting

theorem Invariant.abort (index : Nat) : Invariant { state with reconciles := state.reconciles.eraseIdx index } where
  grows := invariant.grows
  ending := invariant.ending
  created := invariant.created
  reconciles := fun reconcile inside => invariant.reconciles reconcile (mem_of_mem_eraseIdx inside)

theorem Invariant.advance {index : Nat} {next : Reconcile → Option (Except String Reconcile)}
    (sound : ∀ reconcile later, state.reconciles[index]? = some reconcile →
      Sound state.versions state.machineSets reconcile → next reconcile = some (.ok later) →
        Sound state.versions state.machineSets later) {final : State} (taken : state.advance index next = some final) :
    Invariant final := by
  rcases bind_eq_some_iff.mp taken with ⟨reconcile, found, stepped⟩
  rcases map_eq_some_iff.mp stepped with ⟨result, isNext, rfl⟩
  cases result with
  | error => exact invariant.abort index
  | ok =>
    refine ⟨invariant.grows, invariant.ending, invariant.created, ?_⟩
    intro other inside
    rcases mem_or_eq_of_mem_set inside with before | rfl
    · exact invariant.reconciles other before
    · exact sound reconcile other found (invariant.reconciles reconcile (mem_of_getElem? found)) isNext

theorem Invariant.rotate {machineDeployment : MachineDeployment}
    (stored : state.stored = some machineDeployment) {references : References}
    (rotates : (references.keys.all fun key => key ∈ machineDeployment.references.keys || state.isFresh key) = true) :
    Invariant { state with
      versions := state.versions ++ [some { machineDeployment with references := references }] } := by
  apply invariant.change
  · rintro key ⟨rotated, isRotated, isUsed⟩
    cases isRotated
    have allowed := all_eq_true.mp rotates key isUsed
    rw [Bool.or_eq_true, decide_eq_true_eq] at allowed
    rcases allowed with kept | fresh
    · exact .inl ⟨_, getElem_of_mem_storedVersion stored, machineDeployment, rfl, kept⟩
    · right
      rintro _ ⟨version, found, _, isUser, wasUsed⟩
      have unused := all_eq_true.mp fresh version (mem_of_getElem? found)
      subst isUser
      exact of_decide_eq_true unused wasUsed
  · intro _ isLast ended
    rw [mem_def, getLast_of_mem_storedVersion stored, some.injEq] at isLast
    subst isLast
    intro _ isRotated
    cases isRotated
    exact ended machineDeployment rfl

theorem Invariant.step {action : Action} {next : State} (keepsUp : KeepsUp state action)
    (taken : step state action = some next) : Invariant next := by
  cases action with
  | rotate =>
    rcases bind_eq_some_iff.mp taken with ⟨machineDeployment, stored, rotated⟩
    split_ifs at rotated with rotates
    cases rotated
    exact invariant.rotate stored rotates
  | deleteMachineDeployment =>
    rcases map_eq_some_iff.mp taken with ⟨machineDeployment, stored, rfl⟩
    apply invariant.change
    · rintro key ⟨deleted, isDeleted, isUsed⟩
      cases isDeleted
      exact .inl ⟨_, getElem_of_mem_storedVersion stored, machineDeployment, rfl, isUsed⟩
    · intro _ _ _ deleted isDeleted
      cases isDeleted
      rfl
  | removeMachineDeployment =>
    rcases bind_eq_some_iff.mp taken with ⟨machineDeployment, _, removed⟩
    split_ifs at removed
    cases removed
    apply invariant.change
    · rintro key ⟨removed, isRemoved, _⟩
      cases isRemoved
    · intro _ _ _ _ isRemoved
      cases isRemoved
  | createMachineSet =>
    rcases bind_eq_some_iff.mp taken with ⟨machineDeployment, found, created⟩
    dsimp only at created
    split_ifs at created
    cases created
    have isVersion := join_eq_some_iff.mp found
    apply invariant.replaceSets
    · rw [forall_mem_cons]
      exact ⟨⟨machineDeployment, isVersion, rfl⟩, invariant.created⟩
    · rintro reconcile inside key isPending ⟨user, isUser, alive, isUsed⟩
      rcases mem_cons.mp isUser with rfl | isUser
      · exact absurd isPending (keepsUp machineDeployment found reconcile inside key isUsed)
      · exact ⟨user, isUser, alive, isUsed⟩
  | deleteMachineSet =>
    cases taken
    apply invariant.replaceSets
    · intro machineSet inside
      rcases mem_map.mp inside with ⟨before, wasInside, rfl⟩
      have created := invariant.created before wasInside
      split_ifs
      · exact created
      · exact created
    · rintro _ _ key _ ⟨user, isUser, alive, isUsed⟩
      rcases mem_map.mp isUser with ⟨before, wasInside, rfl⟩
      split_ifs at alive isUsed
      exact ⟨before, wasInside, alive, isUsed⟩
  | removeMachineSet =>
    cases taken
    apply invariant.replaceSets
    · intro machineSet inside
      exact invariant.created machineSet (mem_of_mem_filter inside)
    · rintro _ _ _ _ ⟨user, isUser, alive, isUsed⟩
      exact ⟨user, mem_of_mem_filter isUser, alive, isUsed⟩
  | reconcileMachineSet machineSet =>
    unfold TemplatesInUse.step at taken
    dsimp only at taken
    split_ifs at taken with deleted
    cases taken
    exact invariant.begin (invariant.created machineSet deleted.1)
  | reconcileMachineDeployment version =>
    rcases bind_eq_some_iff.mp taken with ⟨machineDeployment, found, begun⟩
    split_ifs at begun with deleting
    cases begun
    exact invariant.begin ⟨deleting, version, join_eq_some_iff.mp found⟩
  | list =>
    apply invariant.advance _ taken
    intro reconcile later _ sound isListed
    exact sound.list invariant.ending isListed
  | read =>
    rcases bind_eq_some_iff.mp taken with ⟨_, found, advanced⟩
    apply invariant.advance _ advanced
    intro reconcile later isReconcile sound isRead
    exact sound.read invariant.grows invariant.ending found (keepsUp reconcile isReconcile) isRead
  | collect =>
    apply invariant.advance _ taken
    intro _ _ _ sound isNext
    exact sound.next isNext
  | abort index =>
    cases taken
    exact invariant.abort index

end

/-! ## Whole runs -/

theorem deletes_pending {state : State} {action : Action} (deleted : ref ∈ deletes state action) :
    ∃ key, ref.key = some key ∧ ∃ reconcile ∈ state.reconciles, ∃ templatesInUse remaining,
      reconcile.stage = .collecting templatesInUse remaining ∧ key ∈ reconcile.pending := by
  cases action with
  | collect =>
    unfold deletes at deleted
    dsimp only at deleted
    split at deleted
    · rename_i templatesInUse _ rest isStage
      rcases map_eq_some_iff.mp isStage with ⟨reconcile, found, collecting⟩
      split at deleted
      · rename_i unused
        rcases mem_singleton.mp deleted with rfl
        unfold deleteTemplateIfUnused at unused
        split at unused
        · cases unused
        · rename_i calculated
          rcases key_of_templateRefID calculated with ⟨key, isKey, rfl⟩
          refine ⟨key, isKey, reconcile, mem_of_getElem? found, templatesInUse, ref :: rest, collecting, ?_⟩
          rw [Reconcile.pending, collecting]
          refine mem_filter.mpr ⟨mem_filterMap.mpr ⟨ref, mem_cons_self, isKey⟩, ?_⟩
          exact Except.ok.inj unused
      · cases deleted
    · cases deleted
  | _ => cases deleted

/-- In a run that keeps up, a template is deleted only while nobody uses it. -/
theorem deletes_not_inUse (first : MachineDeployment) (schedule : List Action) (final : State)
    (keepsUp : Meets step KeepsUp { versions := [some first] } schedule)
    (executed : execute step { versions := [some first] } schedule = some final) (action : Action) :
    ∀ ref ∈ deletes final action, ∃ key, ref.key = some key ∧ ¬ InUse final key := by
  have invariant : Invariant final := by
    apply execute_invariant _ _ keepsUp executed
    · intro _ _ next invariant allowed taken
      exact invariant.step allowed taken
    · constructor
      · rintro position key ⟨version, found, _⟩
        cases found
      · intro _ _ _ _ _ found
        cases found
      · intro _ inside
        cases inside
      · intro reconcile inside
        cases inside
  intro _ deleted
  rcases deletes_pending deleted with ⟨key, isKey, reconcile, inside, templatesInUse, remaining, collecting, isPending⟩
  have sound := invariant.reconciles reconcile inside
  refine ⟨key, isKey, ?_⟩
  rintro (byDeployment | bySets)
  · exact sound.byDeployment templatesInUse remaining collecting key isPending byDeployment
  · exact sound.bySets key isPending bySets

/-! ## A rotation -/

def template (name : String) : References :=
  { infrastructure := ⟨"infrastructure.cluster.x-k8s.io/v1beta1", "DockerMachineTemplate", name⟩ }

def ownerOfSets : List OwnerReference := [⟨"cluster.x-k8s.io/v1beta1", "MachineDeployment", "md", ""⟩]

def deletedSet (name templateName : String) (createdFrom : Nat) : MachineSet :=
  { name, references := template templateName, deleting := true, ownerReferences := ownerOfSets, createdFrom }

def beforeRotation : MachineDeployment := { name := "md", references := template "old" }

def replaced : List Action :=
  [.createMachineSet "ms-0" ownerOfSets 0, .rotate (template "new"), .createMachineSet "ms-1" ownerOfSets 1,
    .deleteMachineSet "ms-0",
    .reconcileMachineSet (deletedSet "ms-0" "old" 0), .list 0, .read 0 1]

/-- The old template is deleted, and nobody uses it. -/
theorem deletes_replaced : ∃ final,
    execute step { versions := [some beforeRotation] } replaced = some final ∧
      deletes final (.collect 0) = [(template "old").infrastructure] ∧
      ∀ ref ∈ deletes final (.collect 0), ∃ key, ref.key = some key ∧ ¬ InUse final key := by
  have deleted : (execute step { versions := [some beforeRotation] } replaced).map (deletes · (.collect 0)) =
      some [(template "old").infrastructure] := by decide +kernel
  rcases map_eq_some_iff.mp deleted with ⟨final, executed, isDeleted⟩
  refine ⟨final, executed, isDeleted, ?_⟩
  exact deletes_not_inUse beforeRotation replaced final (by decide +kernel) executed (.collect 0)

/-- The MachineSet of the new template is deleted, and the MachineDeployment is read as it was before the rotation. -/
def readTooEarly : List Action :=
  [.rotate (template "new"), .createMachineSet "ms-1" ownerOfSets 1, .deleteMachineSet "ms-1",
    .reconcileMachineSet (deletedSet "ms-1" "new" 1), .list 0, .read 0 0]

/-- The new template is deleted, although the stored MachineDeployment uses it. -/
theorem deletes_inUse : ∃ final,
    execute step { versions := [some beforeRotation] } readTooEarly = some final ∧
      deletes final (.collect 0) = [(template "new").infrastructure] ∧
      (template "new").infrastructure.key = some ("infrastructure.cluster.x-k8s.io", "DockerMachineTemplate", "new") ∧
      InUse final ("infrastructure.cluster.x-k8s.io", "DockerMachineTemplate", "new") := by
  have deleted : (execute step { versions := [some beforeRotation] } readTooEarly).map
      (fun final => (deletes final (.collect 0), final.stored)) =
      some ([(template "new").infrastructure], some { beforeRotation with references := template "new" }) := by
    decide +kernel
  rcases map_eq_some_iff.mp deleted with ⟨final, executed, isDeleted⟩
  rcases Prod.mk.inj isDeleted with ⟨isDeleted, stored⟩
  refine ⟨final, executed, isDeleted, by decide +kernel, .inl ⟨_, stored, rfl, by decide +kernel⟩⟩

end ClusterApi.Topology.TemplatesInUse

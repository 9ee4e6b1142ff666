import ClusterApi.Foundation.Contracts
import ClusterApi.Foundation.Keyed
import ClusterApi.Foundation.Paired
import ClusterApi.Foundation.Runs
import ClusterApi.Util.Errors

namespace ClusterApi.Topology.TemplateRotation

open Foundation Pass List

/-!
# Rotation of templates

A template is never changed in its spec.  The topology controller creates a
new one, points the ControlPlane or the MachineDeployment to it, and removes
the new template again if that fails.

Objects are written by server side apply, which creates an object or changes
the one that has its name.  Templates get generated names, each handed out
once.  The name of a MachineDeployment follows the naming strategy of its
class, which need not tell the MachineDeployments of a topology apart.

The answers of the calls are read off a list; a call whose answer the list does
not hold succeeds.  MachinePools have no templates and are left out.
-/

/-! ## The stored objects -/

inductive Kind
  | controlPlane
  | machineDeployment
  deriving DecidableEq

/-- A ControlPlane or a MachineDeployment. -/
structure Object where
  kind : Kind
  name : String
  /-- The label with the name in the topology. -/
  topologyName : String := ""
  /-- The template of the infrastructure machines, and for a MachineDeployment that of the bootstrap configurations. -/
  references : List Nat := []
  deleting : Bool := false

def Object.key (object : Object) : Kind × String := (object.kind, object.name)

def Object.infrastructureRef (object : Object) : Option Nat := object.references[0]?

def Object.bootstrapRef (object : Object) : Option Nat := object.references[1]?

structure World where
  templates : List Nat := []
  /-- The next name of the generator. -/
  next : Nat := 0
  /-- The Cluster references its infrastructure cluster. -/
  infrastructureRef : Bool := false
  controlPlaneRef : Option String := none
  objects : Keyed Object Object.key := ⟨[], List.nodup_nil⟩
  /-- The templates that the current reconcile has created. -/
  created : List Nat := []
  /-- The answers to the calls that are still to be made: an error, or none. -/
  answers : List (Option String) := []

/-- The templates that a stored object references. -/
def World.references (world : World) : List Nat := world.objects.list.flatMap Object.references

def World.machineDeployments (world : World) : List Object :=
  world.objects.list.filter fun object => object.kind = .machineDeployment

/-- Server side apply keeps the deletion timestamp of an object that it changes. -/
def applyObject (object : Object) (world : World) : World :=
  { world with
    objects := world.objects.put
      { object with deleting := (world.objects.find? object.key).any Object.deleting } }

/-! ## The desired state -/

/-- What a dry run finds out about a template. -/
inductive TemplateChange
  | unchanged
  | metadata
  | spec

structure DesiredMD where
  topologyName : String
  /-- The generated name, used if there is no MachineDeployment yet. -/
  name : String
  infrastructureChange : TemplateChange := .unchanged
  bootstrapChange : TemplateChange := .unchanged
  /-- Something else than a reference has changed. -/
  hasChanges : Bool := false
  isPendingCreate : Bool := false
  isPendingUpgrade : Bool := false

structure DesiredState where
  /-- The generated name, used if there is no ControlPlane yet. -/
  controlPlaneName : String
  hasControlPlaneInfrastructureMachine : Bool := true
  isPendingUpgrade : Bool := false
  infrastructureChange : TemplateChange := .unchanged
  controlPlaneHasChanges : Bool := false
  clusterHasChanges : Bool := false
  machineDeployments : Keyed DesiredMD DesiredMD.topologyName

/-! ## Calls and templates -/

/-- A call to the server. -/
def call : Pass World String PUnit := fun world =>
  match world.answers with
  | [] => (.ok ⟨⟩, world)
  | none :: rest => (.ok ⟨⟩, { world with answers := rest })
  | some error :: rest => (.error error, { world with answers := rest })

def createTemplate : Pass World String Nat := fun world =>
  (.ok world.next,
    { world with
      templates := world.next :: world.templates, created := world.next :: world.created, next := world.next + 1 })

def deleteTemplate (template : Nat) (world : World) : World :=
  { world with templates := world.templates.filter (· ≠ template) }

/-- A place for a template: the current one, if there is one, and what is to change about it. -/
structure Slot where
  current : Option Nat
  change : TemplateChange

/-- Whether a template was created, and the template that is to be referenced. -/
structure Rotation where
  created : Bool
  template : Nat

def reconcileReferencedTemplate (slot : Slot) : Pass World String Rotation :=
  match slot.current with
  | none => do
    -- The patch helper, and the patch that creates the template.
    call
    call
    let template ← createTemplate
    pure ⟨true, template⟩
  | some template => do
    -- The compatibility check, and the dry run.
    call
    call
    match slot.change with
    | .unchanged => pure ⟨false, template⟩
    | .metadata => do
      call
      pure ⟨false, template⟩
    | .spec => do
      call
      call
      let replacement ← createTemplate
      pure ⟨true, replacement⟩

/-- The best effort clean-up of a template that was created. -/
def Rotation.cleanup (rotation : Rotation) (world : World) : World :=
  if rotation.created then deleteTemplate rotation.template world else world

/-- Reconcile the templates of an object one after the other and go on with the object.  Whatever fails, the templates
that were created are cleaned up. -/
def withTemplates {α : Type} (explanation : String → String) :
    List Slot → (List Rotation → Pass World String α) → Pass World String α
  | [], body => body []
  | slot :: rest, body => do
    let rotation ← explain explanation (reconcileReferencedTemplate slot)
    withCleanup rotation.cleanup (withTemplates explanation rest fun rotations => body (rotation :: rotations))

/-! ## The current state -/

structure CurrentState where
  infrastructureRef : Bool
  controlPlaneRef : Option String
  controlPlane : Option Object := none
  infrastructureMachineTemplate : Option Nat := none
  machineDeployments : List Object := []

/-- The ControlPlane that the Cluster references, and its template. -/
def getCurrentControlPlaneState (desired : DesiredState) (world : World) :
    Except String (Option Object × Option Nat) :=
  match world.controlPlaneRef with
  | none => .ok (none, none)
  | some name =>
    match world.objects.find? (.controlPlane, name) with
    | none => .error ("failed to read ControlPlane " ++ name)
    | some controlPlane =>
      if !desired.hasControlPlaneInfrastructureMachine then .ok (some controlPlane, none)
      else
        match controlPlane.infrastructureRef with
        | none => .error ("failed to get InfrastructureMachineTemplate reference for ControlPlane " ++ name)
        | some template =>
          if template ∈ world.templates then .ok (some controlPlane, some template)
          else .error ("failed to get InfrastructureMachineTemplate for ControlPlane " ++ name)

/-- The loop over the MachineDeployments; `seen` are the names in the topology so far. -/
def getCurrentMachineDeploymentState (templates : List Nat) (seen : List String) : List Object → Except String PUnit
  | [] => .ok ⟨⟩
  | machineDeployment :: rest =>
    if machineDeployment.topologyName = "" then
      .error ("failed to find label topology.cluster.x-k8s.io/deployment-name in MachineDeployment " ++
        machineDeployment.name)
    else if machineDeployment.topologyName ∈ seen then
      .error ("duplicate MachineDeployment " ++ machineDeployment.name ++
        " found for label topology.cluster.x-k8s.io/deployment-name: " ++ machineDeployment.topologyName)
    else if !machineDeployment.bootstrapRef.any (· ∈ templates) then
      .error ("MachineDeployment " ++ machineDeployment.name ++ " Bootstrap reference could not be retrieved")
    else if !machineDeployment.infrastructureRef.any (· ∈ templates) then
      .error ("MachineDeployment " ++ machineDeployment.name ++ " Infrastructure reference could not be retrieved")
    else getCurrentMachineDeploymentState templates (machineDeployment.topologyName :: seen) rest

def getCurrentState (desired : DesiredState) (world : World) : Except String CurrentState := do
  let (controlPlane, infrastructureMachineTemplate) ← getCurrentControlPlaneState desired world
  getCurrentMachineDeploymentState world.templates [] world.machineDeployments
  return {
    infrastructureRef := world.infrastructureRef, controlPlaneRef := world.controlPlaneRef, controlPlane
    infrastructureMachineTemplate, machineDeployments := world.machineDeployments }

/-! ## The ControlPlane and the Cluster -/

/-- The name of the ControlPlane never changes. -/
def desiredControlPlaneName (desired : DesiredState) (current : CurrentState) : String :=
  (current.controlPlane.map Object.name).getD desired.controlPlaneName

def desiredControlPlane (desired : DesiredState) (current : CurrentState) (references : List Nat) : Object :=
  { kind := .controlPlane, name := desiredControlPlaneName desired current, references }

def reconcileReferencedObject (desired : DesiredState) (current : CurrentState)
    (references : List Nat) : Pass World String PUnit := do
  -- The compatibility check, and the patch helper.
  call
  call
  match current.controlPlane with
  | none => update (applyObject (desiredControlPlane desired current references))
  | some controlPlane =>
    if references = controlPlane.references ∧ !desired.controlPlaneHasChanges then pure ⟨⟩
    else do
      call
      update (applyObject (desiredControlPlane desired current references))

/-- The old template of the control plane is deleted after a rotation. -/
def deleteOldTemplate (old : Option Nat) (references : List Nat) (world : World) : World :=
  match old with
  | none => world
  | some template => if template ∈ references then world else deleteTemplate template world

/-- The template of the control plane, if it has one, together with the ControlPlane that references it. -/
def reconcileControlPlane (desired : DesiredState) (current : CurrentState) : Pass World String PUnit := do
  -- The MachineHealthCheck.
  call
  if desired.isPendingUpgrade then pure ⟨⟩
  else if desired.hasControlPlaneInfrastructureMachine then do
    call
    withTemplates id [⟨current.infrastructureMachineTemplate, desired.infrastructureChange⟩] fun rotations => do
      call
      reconcileReferencedObject desired current (rotations.map Rotation.template)
      update (deleteOldTemplate current.infrastructureMachineTemplate (rotations.map Rotation.template))
  else reconcileReferencedObject desired current []

def reconcileCluster (desired : DesiredState) (current : CurrentState)
    (controlPlaneRef : Option String) : Pass World String PUnit := do
  call
  if current.infrastructureRef ∧ controlPlaneRef = current.controlPlaneRef ∧ !desired.clusterHasChanges then pure ⟨⟩
  else do
    call
    update fun world => { world with infrastructureRef := true, controlPlaneRef }
    call

/-! ## The MachineDeployments -/

def createMachineDeployment (desired : DesiredMD) : Pass World String PUnit := do
  stopIf (fun _ => desired.topologyName = "")
    "new MachineDeployment is missing the \"topology.cluster.x-k8s.io/deployment-name\" label"
  if desired.isPendingCreate then pure ⟨⟩
  else do
    withTemplates (wrap "failed to create MachineDeployment") [⟨none, .spec⟩, ⟨none, .spec⟩] fun rotations => do
      call
      call
      update (applyObject
        { kind := .machineDeployment, name := desired.name, topologyName := desired.topologyName
          references := rotations.map Rotation.template })
    explain (wrap "failed waiting for MachineDeployment MachineDeployment to be visible in the cache after create") call
    -- The MachineHealthCheck.
    call

/-- The current templates of a MachineDeployment, and what is to change about them. -/
def slots (current : Object) (desired : DesiredMD) : List Slot :=
  [⟨current.infrastructureRef, desired.infrastructureChange⟩, ⟨current.bootstrapRef, desired.bootstrapChange⟩]

def updateMachineDeployment (current : Object) (desired : DesiredMD) : Pass World String PUnit := do
  -- The MachineHealthCheck.
  call
  if desired.isPendingUpgrade then pure ⟨⟩
  else do
    let patched ← withTemplates (wrap ("failed to reconcile MachineDeployment " ++ current.name))
      (slots current desired) fun rotations => do
        explain (wrap ("failed to create patch helper for MachineDeployment " ++ current.name)) call
        if rotations.map Rotation.template = current.references ∧ !desired.hasChanges then pure false
        else do
          explain (wrap ("failed to patch MachineDeployment " ++ current.name)) call
          update (applyObject { current with references := rotations.map Rotation.template })
          pure true
    if patched then
      explain (wrap ("failed waiting for MachineDeployment " ++ current.name ++
        " to be updated in the cache after patch")) call
    else pure ⟨⟩

/-- The MachineDeployment stays until its finalizers are removed. -/
def deleteMachineDeployment (current : Object) : Pass World String PUnit := do
  -- The MachineHealthCheck.
  call
  update fun world =>
    match world.objects.find? current.key with
    | none => world
    | some object => { world with objects := world.objects.put { object with deleting := true } }

def toCreate (desired : DesiredState) (current : List Object) : List DesiredMD :=
  desired.machineDeployments.list.filter fun wanted => wanted.topologyName ∉ current.map Object.topologyName

def toUpdate (desired : DesiredState) (current : List Object) : List (Object × DesiredMD) :=
  desired.machineDeployments.list.filterMap fun wanted =>
    (current.find? fun object => object.topologyName = wanted.topologyName).map (·, wanted)

def toDelete (desired : DesiredState) (current : List Object) : List Object :=
  current.filter fun object =>
    object.topologyName ∉ desired.machineDeployments.list.map DesiredMD.topologyName

def reconcileMachineDeployments (desired : DesiredState) (current : CurrentState) : Pass World String PUnit := do
  -- The live list, which is only asked for if something is to be created.
  call
  let currentTopologyNames ← look fun world => world.machineDeployments.map Object.topologyName
  forEach (fun wanted => if wanted.topologyName ∈ currentTopologyNames then pure ⟨⟩ else createMachineDeployment wanted)
    (toCreate desired current.machineDeployments)
  forEach (fun pair => updateMachineDeployment pair.1 pair.2) (toUpdate desired current.machineDeployments)
  forEach deleteMachineDeployment (toDelete desired current.machineDeployments)

/-! ## A reconcile -/

def reconcileState (desired : DesiredState) (current : CurrentState) : Pass World String PUnit := do
  -- The cluster shim, the hooks, and the infrastructure cluster.
  call
  call
  call
  let createdInfraCluster := !current.infrastructureRef
  match ← attempt (reconcileControlPlane desired current) with
  | .error errControlPlane =>
    if !createdInfraCluster then stop errControlPlane
    else do
      -- If the ControlPlane was to be created and was not, the Cluster must not reference it.
      let controlPlaneRef := current.controlPlaneRef.map fun _ => desiredControlPlaneName desired current
      match ← attempt (reconcileCluster desired current controlPlaneRef) with
      | .error errCluster => stop (aggregate [errControlPlane, errCluster])
      | .ok _ => stop errControlPlane
  | .ok _ => do
    reconcileCluster desired current (some (desiredControlPlaneName desired current))
    reconcileMachineDeployments desired current

/-- A reconcile on a fresh read of the stored objects. -/
def reconcile (desired : DesiredState) (answers : List (Option String)) (world : World) : World :=
  let world := { world with created := [], answers }
  match getCurrentState desired world with
  | .error _ => world
  | .ok current => (reconcileState desired current).final world

inductive Action
  | reconcile (desired : DesiredState) (answers : List (Option String))
  /-- Others remove a ControlPlane or a MachineDeployment, and leave the templates alone. -/
  | remove (key : Kind × String)

def step (world : World) : Action → Option World
  | .reconcile desired answers => some (reconcile desired answers world)
  | .remove key => some { world with created := [], objects := world.objects.keep fun object => object.key ≠ key }

/-- The MachineDeployments that a reconcile may create. -/
def newMachineDeployments (desired : DesiredState) (current : List Object) : List DesiredMD :=
  (toCreate desired current).filter fun wanted => !wanted.isPendingCreate

/-- The current MachineDeployments that may be changed. -/
def changed (pairs : List (Object × DesiredMD)) : List Object :=
  (pairs.filter fun pair => !pair.2.isPendingUpgrade).map Prod.fst

/-- The names under which a reconcile may write a MachineDeployment. -/
def writtenNames (desired : DesiredState) (current : List Object) : List String :=
  (newMachineDeployments desired current).map DesiredMD.name ++
    (changed (toUpdate desired current)).map Object.name

/-- A reconcile writes no two MachineDeployments under one name. -/
def NamesDiffer (world : World) : Action → Prop
  | .reconcile desired _ => (writtenNames desired world.machineDeployments).Nodup
  | .remove _ => True

instance (world : World) : (action : Action) → Decidable (NamesDiffer world action)
  | .reconcile _ _ => inferInstanceAs (Decidable (List.Nodup _))
  | .remove _ => isTrue trivial

/-! ## The invariant of a reconcile -/

/-- A condition on the stored objects. -/
abbrev Frame := Keyed Object Object.key → Prop

/-- Nothing is known about the stored objects. -/
def anyFrame : Frame := fun _ => True

/-- No template is referenced by two objects. -/
def Exclusive (objects : Keyed Object Object.key) : Prop :=
  ∀ first ∈ objects, ∀ second ∈ objects, ∀ template ∈ first.references, template ∈
    second.references → first.key = second.key

/-- What holds while a reconcile is on its way.  The templates from `base` on are new, and those that are `pending`
wait for being referenced. -/
structure Invariant (base : Nat) (pending : List Nat) (frame : Frame) (world : World) : Prop where
  exist : ∀ template ∈ world.references, template ∈ world.templates
  pendingExist : ∀ template ∈ pending, template ∈ world.templates
  unreferenced : ∀ template ∈ pending, template ∉ world.references
  distinct : pending.Nodup
  exclusive : Exclusive world.objects
  numbered : ∀ template ∈ world.templates, template < world.next
  base_le : base ≤ world.next
  fresh : ∀ template ∈ world.created, base ≤ template
  accounted : ∀ template ∈ world.created, template ∈ world.templates → template ∈ world.references ∨ template ∈ pending
  framed : frame world.objects

section

variable {base template : Nat} {pending : List Nat} {frame after : Frame} {world : World}

theorem mem_references :
    template ∈ world.references ↔ ∃ object ∈ world.objects, template ∈ object.references := mem_flatMap

section

variable (invariant : Invariant base pending frame world)
include invariant

theorem Invariant.weaken (implied : frame world.objects → after world.objects) : Invariant base pending after world :=
  { invariant with framed := implied invariant.framed }

theorem Invariant.anyFrame :
    Invariant base pending anyFrame world := invariant.weaken fun _ => trivial

theorem Invariant.answers (answers : List (Option String)) :
    Invariant base pending frame { world with answers } := { invariant with }

theorem Invariant.createTemplate :
    Invariant base (world.next :: pending) frame
      { world with
        templates := world.next :: world.templates, created := world.next :: world.created
        next := world.next + 1 } where
  exist := fun template referenced => List.mem_cons_of_mem _ (invariant.exist template referenced)
  pendingExist := by
    rw [forall_mem_cons]
    exact ⟨mem_cons_self, fun template inside => mem_cons_of_mem _ (invariant.pendingExist template inside)⟩
  unreferenced := by
    rw [forall_mem_cons]
    refine ⟨fun referenced => ?_, invariant.unreferenced⟩
    exact Nat.lt_irrefl _ (invariant.numbered _ (invariant.exist _ referenced))
  distinct := by
    refine nodup_cons.mpr ⟨fun inside => ?_, invariant.distinct⟩
    exact Nat.lt_irrefl _ (invariant.numbered _ (invariant.pendingExist _ inside))
  exclusive := invariant.exclusive
  numbered := by
    rw [forall_mem_cons]
    exact ⟨Nat.lt_succ_self _, fun template inside => Nat.lt_succ_of_lt (invariant.numbered template inside)⟩
  base_le := Nat.le_succ_of_le invariant.base_le
  fresh := by
    rw [forall_mem_cons]
    exact ⟨invariant.base_le, invariant.fresh⟩
  accounted := by
    rw [forall_mem_cons]
    refine ⟨fun _ => .inr mem_cons_self, ?_⟩
    intro template isCreated exists_
    rcases mem_cons.mp exists_ with rfl | exists_
    · exact .inr mem_cons_self
    · exact (invariant.accounted template isCreated exists_).imp id (mem_cons_of_mem _)
  framed := invariant.framed

end

theorem mem_deleteTemplate {deleted : Nat} :
    template ∈ (deleteTemplate deleted world).templates ↔ template ∈ world.templates ∧ template ≠ deleted := by
  rw [deleteTemplate, mem_filter, decide_eq_true_eq]

theorem Invariant.deleteTemplate {rest : List Nat} (invariant : Invariant base pending frame world)
    (unreferenced : template ∉ world.references) (others : ∀ other, other ∈ rest ↔ other ∈ pending ∧ other ≠ template)
    (distinct : rest.Nodup) : Invariant base rest frame (deleteTemplate template world) where
  exist := by
    intro other referenced
    refine mem_deleteTemplate.mpr ⟨invariant.exist other referenced, ?_⟩
    rintro rfl
    exact unreferenced referenced
  pendingExist := by
    intro other inside
    rcases (others other).mp inside with ⟨inside, different⟩
    exact mem_deleteTemplate.mpr ⟨invariant.pendingExist other inside, different⟩
  unreferenced := fun other inside => invariant.unreferenced other ((others other).mp inside).1
  distinct := distinct
  exclusive := invariant.exclusive
  numbered := fun other inside => invariant.numbered other (mem_deleteTemplate.mp inside).1
  base_le := invariant.base_le
  fresh := invariant.fresh
  accounted := by
    intro other isCreated left
    rcases mem_deleteTemplate.mp left with ⟨inside, different⟩
    rcases invariant.accounted other isCreated inside with referenced | isPending
    · exact .inl referenced
    · exact .inr ((others other).mpr ⟨isPending, different⟩)
  framed := invariant.framed

/-- An object is stored.  It references what is pending and what the object of its key referenced, and lets go of old
templates only. -/
theorem Invariant.put (invariant : Invariant base pending frame world) {object : Object}
    (source : ∀ template ∈ object.references, template ∈ pending ∨
      ∃ stored ∈ world.objects, stored.key = object.key ∧ template ∈ stored.references)
    (kept : ∀ stored ∈ world.objects, stored.key = object.key → ∀ template ∈ stored.references, base ≤ template →
      template ∈ object.references)
    (referenced : ∀ template ∈ pending, template ∈ object.references) (framed : after (world.objects.put object)) :
    Invariant base [] after { world with objects := world.objects.put object } where
  exist := by
    intro template isReferenced
    rcases mem_references.mp isReferenced with ⟨user, isUser, uses⟩
    rcases Keyed.mem_put.mp isUser with rfl | ⟨isStored, _⟩
    · rcases source template uses with isPending | ⟨stored, isStored, _, usedBefore⟩
      · exact invariant.pendingExist template isPending
      · exact invariant.exist template (mem_references.mpr ⟨stored, isStored, usedBefore⟩)
    · exact invariant.exist template (mem_references.mpr ⟨user, isStored, uses⟩)
  pendingExist := forall_mem_nil _
  unreferenced := forall_mem_nil _
  distinct := nodup_nil
  exclusive := by
    -- What the new object references was pending, or referenced by the object of its key.
    have alone : ∀ template ∈ object.references, ∀ other ∈ world.objects, template ∈
        other.references → other.key = object.key := by
      intro template uses other isStored otherUses
      rcases source template uses with isPending | ⟨stored, wasStored, sameKey, usedBefore⟩
      · exact absurd (mem_references.mpr ⟨other, isStored, otherUses⟩) (invariant.unreferenced template isPending)
      · exact (invariant.exclusive other isStored stored wasStored template otherUses usedBefore).trans sameKey
    intro first isFirst second isSecond template firstUses secondUses
    rcases Keyed.mem_put.mp isFirst with rfl | ⟨firstStored, _⟩
    · rcases Keyed.mem_put.mp isSecond with rfl | ⟨secondStored, _⟩
      · rfl
      · exact (alone template firstUses second secondStored secondUses).symm
    · rcases Keyed.mem_put.mp isSecond with rfl | ⟨secondStored, _⟩
      · exact alone template secondUses first firstStored firstUses
      · exact invariant.exclusive first firstStored second secondStored template firstUses secondUses
  numbered := invariant.numbered
  base_le := invariant.base_le
  fresh := invariant.fresh
  accounted := by
    intro template isCreated exists_
    refine .inl (mem_references.mpr ?_)
    rcases invariant.accounted template isCreated exists_ with isReferenced | isPending
    · rcases mem_references.mp isReferenced with ⟨stored, isStored, uses⟩
      by_cases sameKey : stored.key = object.key
      · have usesStill := kept stored isStored sameKey template uses (invariant.fresh template isCreated)
        exact ⟨object, Keyed.mem_put.mpr (.inl rfl), usesStill⟩
      · exact ⟨stored, Keyed.mem_put.mpr (.inr ⟨isStored, sameKey⟩), uses⟩
    · exact ⟨object, Keyed.mem_put.mpr (.inl rfl), referenced template isPending⟩
  framed := framed

end

/-! ## Contracts of calls and templates -/

/-- The templates that a rotation has added. -/
def Rotation.added (rotation : Rotation) : List Nat := if rotation.created then [rotation.template] else []

/-- The pending templates after some rotations. -/
def addedOnto (pending : List Nat) : List Rotation → List Nat
  | [] => pending
  | rotation :: rest => addedOnto (rotation.added ++ pending) rest

/-- A rotation adds a template or keeps the current one. -/
def Keeps (slot : Slot) (rotation : Rotation) : Prop :=
  rotation.created = false → slot.current = some rotation.template

section

variable {base template : Nat} {pending : List Nat} {frame after : Frame} {world : World}
  {rotations : List Rotation} {slots : List Slot} {rotation : Rotation} {object : Object}

theorem Rotation.mem_added : template ∈ rotation.added ↔ rotation.created = true ∧ template = rotation.template := by
  unfold Rotation.added
  cases rotation.created with
  | true | false => simp

theorem mem_addedOnto :
    template ∈ addedOnto pending rotations ↔
      template ∈ pending ∨ ∃ rotation ∈ rotations, template ∈ rotation.added := by
  induction rotations generalizing pending with
  | nil => simp [addedOnto]
  | cons _ _ ih =>
    simp only [addedOnto, ih, mem_append, mem_cons, exists_eq_or_imp]
    tauto

theorem source_of_keeps (keeps : Forall₂ Keeps slots rotations)
    (uses : template ∈ rotations.map Rotation.template) :
    template ∈ addedOnto pending rotations ∨ ∃ slot ∈ slots, slot.current = some template := by
  rw [mem_addedOnto]
  rcases mem_map.mp uses with ⟨rotation, isRotation, rfl⟩
  rcases exists_of_mem_paired keeps isRotation with ⟨slot, isSlot, slotKeeps⟩
  cases created : rotation.created with
  | true => exact .inl (.inr ⟨rotation, isRotation, Rotation.mem_added.mpr ⟨created, rfl⟩⟩)
  | false => exact .inr ⟨slot, isSlot, slotKeeps created⟩

theorem Invariant.cleanup (invariant : Invariant base (rotation.added ++ pending) frame world) :
    Invariant base pending frame (rotation.cleanup world) := by
  unfold Rotation.cleanup
  unfold Rotation.added at invariant
  split_ifs at invariant ⊢
  · rcases nodup_cons.mp invariant.distinct with ⟨isOther, distinct⟩
    apply invariant.deleteTemplate (invariant.unreferenced _ mem_cons_self) _ distinct
    intro _
    rw [singleton_append, mem_cons]
    constructor
    · intro inside
      refine ⟨.inr inside, ?_⟩
      rintro rfl
      exact isOther inside
    · rintro ⟨rfl | inside, different⟩
      · exact absurd rfl different
      · exact inside
  · exact invariant

theorem call_ensures : Ensures (Invariant base pending frame) call
    (fun _ => Invariant base pending frame) (Invariant base pending frame) := by
  intro _ invariant
  unfold call
  split
  · rename_i after isEnd
    split at isEnd
    · cases isEnd
      exact invariant
    · cases isEnd
      exact invariant.answers _
    · cases isEnd
  · rename_i isEnd
    split at isEnd
    · cases isEnd
    · cases isEnd
    · cases isEnd
      exact invariant.answers _

theorem reconcileReferencedTemplate_ensures (slot : Slot) :
    Ensures (Invariant base pending frame) (reconcileReferencedTemplate slot)
      (fun rotation world => Invariant base (rotation.added ++ pending) frame world ∧ Keeps slot rotation)
      (Invariant base pending frame) := by
  have creates : Ensures (Invariant base pending frame)
      (createTemplate >>= fun template => (pure ⟨true, template⟩ : Pass World String Rotation))
      (fun rotation world => Invariant base (rotation.added ++ pending) frame world ∧ Keeps slot rotation)
      (Invariant base pending frame) := by
    intro world invariant
    refine ⟨invariant.createTemplate, ?_⟩
    intro notCreated
    cases notCreated
  unfold reconcileReferencedTemplate
  cases isCurrent : slot.current with
  | none => exact call_ensures.bind fun _ => call_ensures.bind fun _ => creates
  | some template =>
    have keeps : Ensures (Invariant base pending frame) (pure ⟨false, template⟩ : Pass World String Rotation)
        (fun rotation world => Invariant base (rotation.added ++ pending) frame world ∧ Keeps slot rotation)
        (Invariant base pending frame) := by
      apply Ensures.pure
      intro _ invariant
      exact ⟨invariant, fun _ => isCurrent⟩
    apply call_ensures.bind
    intro _
    apply call_ensures.bind
    intro _
    cases slot.change with
    | unchanged => exact keeps
    | metadata => exact call_ensures.bind fun _ => keeps
    | spec => exact call_ensures.bind fun _ => call_ensures.bind fun _ => creates

theorem withTemplates_ensures {α : Type} {explanation : String → String}
    {body : List Rotation → Pass World String α} {after : α → World → Prop}
    (ensures : ∀ rotations, Forall₂ Keeps slots rotations →
      Ensures (Invariant base (addedOnto pending rotations) frame) (body rotations) after
        (Invariant base (addedOnto pending rotations) frame)) :
    Ensures (Invariant base pending frame) (withTemplates explanation slots body) after
      (Invariant base pending frame) := by
  induction slots generalizing pending body with
  | nil => exact ensures [] .nil
  | cons slot _ ih =>
    apply (reconcileReferencedTemplate_ensures slot).explain.bind
    rintro rotation world ⟨invariant, keeps⟩
    have continues := ih fun rotations restKeep => ensures (rotation :: rotations) (.cons keeps restKeep)
    exact (continues.withCleanup fun _ => Invariant.cleanup) world invariant

variable (invariant : Invariant base (addedOnto [] rotations) frame world)
include invariant

theorem Invariant.applyObject (keeps : Forall₂ Keeps slots rotations)
    (references : object.references = rotations.map Rotation.template)
    (current : ∀ slot ∈ slots, ∀ template ∈ slot.current,
      ∃ stored ∈ world.objects, stored.key = object.key ∧ template ∈ stored.references)
    (old : ∀ stored ∈ world.objects, stored.key = object.key → ∀ template ∈ stored.references, template < base)
    (framed : ∀ deleting, after (world.objects.put { object with deleting })) :
    Invariant base [] after (applyObject object world) := by
  apply invariant.put
  · intro template uses
    rw [references] at uses
    refine (source_of_keeps keeps uses).imp id ?_
    rintro ⟨slot, isSlot, isCurrent⟩
    exact current slot isSlot template isCurrent
  · intro stored isStored sameKey template uses isNew
    exact absurd (old stored isStored sameKey template uses) (Nat.not_lt.mpr isNew)
  · intro _ isPending
    rcases mem_addedOnto.mp isPending with isBefore | ⟨_, isRotation, isAdded⟩
    · cases isBefore
    · rw [references, (Rotation.mem_added.mp isAdded).2]
      exact mem_map_of_mem isRotation
  · exact framed _

theorem Invariant.unrotated (isStored : object ∈ world.objects)
    (references : rotations.map Rotation.template = object.references) : Invariant base [] frame world := by
  have nonePending : addedOnto [] rotations = [] := by
    rw [eq_nil_iff_forall_not_mem]
    intro template isPending
    apply invariant.unreferenced template isPending
    rcases mem_addedOnto.mp isPending with isBefore | ⟨_, isRotation, isAdded⟩
    · cases isBefore
    · refine mem_references.mpr ⟨object, isStored, ?_⟩
      rw [← references, (Rotation.mem_added.mp isAdded).2]
      exact mem_map_of_mem isRotation
  rw [nonePending] at invariant
  exact invariant

end

/-! ## The contract of the ControlPlane -/

/-- The objects are those of the start, except for the ControlPlane that was to be written. -/
structure PlaneWritten (start : World) (written : Object) (objects : Keyed Object Object.key) : Prop where
  references : ∀ stored ∈ objects, stored.key = written.key → stored.references = written.references
  others : ∀ stored, stored.key ≠ written.key → (stored ∈ objects ↔ stored ∈ start.objects)

/-- The MachineDeployments are those of the start. -/
def deploymentsFrame (start : World) : Frame := fun objects =>
  ∀ object, object.kind = .machineDeployment → (object ∈ objects ↔ object ∈ start.objects)

/-- What a fresh read of the ControlPlane knows. -/
structure ReadsPlane (current : CurrentState) (start : World) : Prop where
  stored : ∀ controlPlane ∈ current.controlPlane, controlPlane ∈ start.objects ∧ controlPlane.kind = .controlPlane
  template : ∀ template ∈ current.infrastructureMachineTemplate,
    ∃ controlPlane ∈ current.controlPlane, template ∈ controlPlane.references

/-- All templates that are referenced at the start are old. -/
def OldReferences (base : Nat) (start : World) : Prop :=
  ∀ object ∈ start.objects, ∀ template ∈ object.references, template < base

section

variable {base : Nat} {pending : List Nat} {start world : World} {desired : DesiredState} {current : CurrentState}
  {controlPlane : Object} {rotations : List Rotation} {references : List Nat}

theorem desiredControlPlane_key (reads : ReadsPlane current start)
    (isCurrent : current.controlPlane = some controlPlane) :
    (desiredControlPlane desired current references).key = controlPlane.key := by
  rw [desiredControlPlane, desiredControlPlaneName, isCurrent]
  exact Prod.ext (reads.stored controlPlane isCurrent).2.symm rfl

theorem PlaneWritten.deploymentsFrame {objects : Keyed Object Object.key}
    (written : PlaneWritten start (desiredControlPlane desired current references) objects) :
    deploymentsFrame start objects := by
  intro object isDeployment
  apply written.others
  intro sameKey
  have sameKind : object.kind = .controlPlane := congrArg Prod.fst sameKey
  rw [isDeployment] at sameKind
  cases sameKind

theorem reconcileReferencedObject_ensures (reads : ReadsPlane current start)
    (old : OldReferences base start) {slots : List Slot} (keeps : Forall₂ Keeps slots rotations)
    (currents : ∀ slot ∈ slots, slot.current = current.infrastructureMachineTemplate) :
    Ensures (Invariant base (addedOnto [] rotations) (· = start.objects))
      (reconcileReferencedObject desired current (rotations.map Rotation.template))
      (fun _ => Invariant base []
        (PlaneWritten start (desiredControlPlane desired current (rotations.map Rotation.template))))
      (Invariant base (addedOnto [] rotations) (· = start.objects)) := by
  have applies : Ensures (Invariant base (addedOnto [] rotations) (· = start.objects))
      (update (applyObject (desiredControlPlane desired current (rotations.map Rotation.template))) :
        Pass World String PUnit)
      (fun _ => Invariant base []
        (PlaneWritten start (desiredControlPlane desired current (rotations.map Rotation.template))))
      (Invariant base (addedOnto [] rotations) (· = start.objects)) := by
    apply Ensures.update
    intro world invariant
    have same : world.objects = start.objects := invariant.framed
    apply invariant.applyObject keeps rfl
    · intro slot isSlot template isTemplate
      rw [currents slot isSlot] at isTemplate
      rcases reads.template template isTemplate with ⟨controlPlane, isCurrent, uses⟩
      refine ⟨controlPlane, ?_, (desiredControlPlane_key reads isCurrent).symm, uses⟩
      rw [same]
      exact (reads.stored controlPlane isCurrent).1
    · rw [same]
      exact fun stored isStored _ => old stored isStored
    · intro _
      rw [same]
      constructor
      · intro stored isStored sameKey
        rcases Keyed.mem_put.mp isStored with rfl | ⟨_, different⟩
        · rfl
        · exact absurd sameKey different
      · intro stored different
        rw [Keyed.mem_put]
        constructor
        · rintro (rfl | ⟨isStored, _⟩)
          · exact absurd rfl different
          · exact isStored
        · exact fun isStored => .inr ⟨isStored, different⟩
  apply call_ensures.bind
  intro _
  apply call_ensures.bind
  intro _
  cases isCurrent : current.controlPlane with
  | none => exact applies
  | some controlPlane =>
    dsimp only
    split_ifs with unchanged
    · apply Ensures.pure
      intro world invariant
      have same : world.objects = start.objects := invariant.framed
      have isStored : controlPlane ∈ world.objects := by
        rw [same]
        exact (reads.stored controlPlane isCurrent).1
      apply (invariant.unrotated isStored unchanged.1).weaken
      intro _
      constructor
      · intro stored inside sameKey
        rw [desiredControlPlane_key reads isCurrent] at sameKey
        rw [Keyed.eq_of_key_eq inside isStored sameKey]
        exact unchanged.1.symm
      · intro _ _
        rw [same]
    · exact call_ensures.bind fun _ => applies

theorem Invariant.deleteOldTemplate (invariant : Invariant base []
      (PlaneWritten start (desiredControlPlane desired current references)) world)
    (reads : ReadsPlane current start) (exclusive : Exclusive start.objects) :
    Invariant base [] (deploymentsFrame start)
      (deleteOldTemplate current.infrastructureMachineTemplate references world) := by
  unfold TemplateRotation.deleteOldTemplate
  cases isOld : current.infrastructureMachineTemplate with
  | none => exact invariant.weaken PlaneWritten.deploymentsFrame
  | some template =>
    dsimp only
    split_ifs with isReferenced
    · exact invariant.weaken PlaneWritten.deploymentsFrame
    · rcases reads.template template isOld with ⟨controlPlane, isCurrent, usedBefore⟩
      apply (invariant.deleteTemplate _ _ nodup_nil).weaken
      · exact PlaneWritten.deploymentsFrame
      · intro stillReferenced
        rcases mem_references.mp stillReferenced with ⟨user, isUser, uses⟩
        by_cases sameKey : user.key = (desiredControlPlane desired current references).key
        · rw [invariant.framed.references user isUser sameKey] at uses
          exact isReferenced uses
        · have wasStored := (invariant.framed.others user sameKey).mp isUser
          apply sameKey
          rw [desiredControlPlane_key reads isCurrent]
          exact exclusive user wasStored controlPlane (reads.stored controlPlane isCurrent).1 template uses usedBefore
      · intro _
        simp only [not_mem_nil, false_and]

theorem reconcileControlPlane_ensures (reads : ReadsPlane current start)
    (old : OldReferences base start) (exclusive : Exclusive start.objects) :
    Ensures (Invariant base [] (· = start.objects)) (reconcileControlPlane desired current)
      (fun _ => Invariant base [] (deploymentsFrame start)) (Invariant base [] (deploymentsFrame start)) := by
  have unchanged : ∀ world, Invariant base [] (· = start.objects) world →
      Invariant base [] (deploymentsFrame start) world := by
    intro _ invariant
    apply invariant.weaken
    intro same _ _
    rw [same]
  apply Ensures.monoStopped _ unchanged
  apply call_ensures.bind
  intro _
  split_ifs with isPendingUpgrade hasInfrastructureMachine
  · exact Ensures.pure unchanged
  · apply call_ensures.bind
    intro _
    apply withTemplates_ensures
    intro _ keeps
    apply call_ensures.bind
    intro _
    apply (reconcileReferencedObject_ensures reads old keeps _).bind
    · intro _
      exact Ensures.update fun _ invariant => invariant.deleteOldTemplate reads exclusive
    · intro _ isSlot
      rw [mem_singleton.mp isSlot]
  · apply (reconcileReferencedObject_ensures reads old .nil (forall_mem_nil _)).mono (fun _ holds => holds) _
      fun _ holds => holds
    exact fun _ _ invariant => invariant.weaken PlaneWritten.deploymentsFrame

theorem reconcileCluster_ensures {frame : Frame} {controlPlaneRef : Option String} :
    Ensures (Invariant base pending frame) (reconcileCluster desired current controlPlaneRef)
      (fun _ => Invariant base pending frame) (Invariant base pending frame) := by
  apply call_ensures.bind
  intro _
  split_ifs
  · exact Ensures.pure fun _ holds => holds
  · apply call_ensures.bind
    intro _
    refine Ensures.bind (Ensures.update ?_) fun _ => call_ensures
    intro _ invariant
    exact { invariant with }

end

/-! ## The contract of a MachineDeployment -/

/-- These MachineDeployments are stored and reference old templates. -/
structure Untouched (base : Nat) (later : List Object) (objects : Keyed Object Object.key) : Prop where
  stored : ∀ object ∈ later, object ∈ objects
  old : ∀ object ∈ later, ∀ template ∈ object.references, template < base
  distinct : later.Pairwise fun first second => first.name ≠ second.name

/-- These MachineDeployments can be created: they take no name of one that is untouched, and they take one of another
only as long as it references old templates. -/
structure Creatable (base : Nat) (later : List Object) (wanted : List DesiredMD)
    (objects : Keyed Object Object.key) : Prop where
  distinct : (wanted.map DesiredMD.name).Nodup
  free : ∀ desired ∈ wanted, ∀ object ∈ later, object.name ≠ desired.name
  old : ∀ desired ∈ wanted, ∀ object ∈ objects, object.key = (.machineDeployment, desired.name) →
    ∀ template ∈ object.references, template < base

/-- What the loop that creates MachineDeployments keeps. -/
def createFrame (base : Nat) (later : List Object) (remaining : List DesiredMD) : Frame := fun objects =>
  Untouched base later objects ∧
    Creatable base later (remaining.filter fun desired => !desired.isPendingCreate) objects

section

variable {base : Nat} {later : List Object} {objects : Keyed Object Object.key}
  {current written : Object} {wanted : DesiredMD} {rest : List DesiredMD}

theorem Untouched.put (untouched : Untouched base later objects)
    (different : ∀ object ∈ later, object.name ≠ written.name) : Untouched base later (objects.put written) where
  stored := by
    intro object inside
    refine Keyed.mem_put.mpr (.inr ⟨untouched.stored object inside, ?_⟩)
    exact fun sameKey => different object inside (congrArg Prod.snd sameKey)
  old := untouched.old
  distinct := untouched.distinct

theorem Untouched.tail (untouched : Untouched base (current :: later) objects) : Untouched base later objects where
  stored := fun object inside => untouched.stored object (List.mem_cons_of_mem _ inside)
  old := fun object inside => untouched.old object (List.mem_cons_of_mem _ inside)
  distinct := (pairwise_cons.mp untouched.distinct).2

theorem Creatable.tail (creatable : Creatable base later (wanted :: rest) objects) :
    Creatable base later rest objects where
  distinct := (List.nodup_cons.mp creatable.distinct).2
  free := fun desired inside => creatable.free desired (List.mem_cons_of_mem _ inside)
  old := fun desired inside => creatable.old desired (mem_cons_of_mem _ inside)

theorem Creatable.put (creatable : Creatable base later (wanted :: rest) objects)
    (named : written.name = wanted.name) : Creatable base later rest (objects.put written) where
  distinct := creatable.tail.distinct
  free := creatable.tail.free
  old := by
    intro desired inside object isStored sameKey
    rcases Keyed.mem_put.mp isStored with rfl | ⟨stored, _⟩
    · have taken : wanted.name ∈ rest.map DesiredMD.name := by
        rw [← named, show object.name = desired.name from congrArg Prod.snd sameKey]
        exact mem_map_of_mem inside
      exact absurd taken (nodup_cons.mp creatable.distinct).1
    · exact creatable.tail.old desired inside object stored sameKey

theorem Invariant.skipCreate {pending : List Nat} {world : World}
    (invariant : Invariant base pending (createFrame base later (wanted :: rest)) world) :
    Invariant base pending (createFrame base later rest) world := by
  apply invariant.weaken
  rintro ⟨untouched, creatable⟩
  refine ⟨untouched, ?_⟩
  rw [filter_cons] at creatable
  split_ifs at creatable
  · exact creatable.tail
  · exact creatable

theorem createMachineDeployment_ensures :
    Ensures (Invariant base [] (createFrame base later (wanted :: rest))) (createMachineDeployment wanted)
      (fun _ => Invariant base [] (createFrame base later rest)) (Invariant base [] anyFrame) := by
  have calls : Ensures (Invariant base [] (createFrame base later rest)) call
      (fun _ => Invariant base [] (createFrame base later rest)) (Invariant base [] anyFrame) :=
    call_ensures.monoStopped fun _ => Invariant.anyFrame
  apply (Ensures.stopIf fun _ => Invariant.anyFrame).bind
  intro _
  split_ifs with isPendingCreate
  · exact Ensures.pure fun _ => Invariant.skipCreate
  · refine Ensures.bind (Ensures.monoStopped (withTemplates_ensures ?_) fun _ => Invariant.anyFrame)
      fun _ => calls.explain.bind fun _ => calls
    intro _ keeps
    refine call_ensures.bind fun _ => call_ensures.bind fun _ => Ensures.update ?_
    intro _ invariant
    rcases invariant.framed with ⟨untouched, creatable⟩
    rw [filter_cons, Bool.eq_false_iff.mpr isPendingCreate, Bool.not_false, if_pos rfl] at creatable
    apply invariant.applyObject keeps rfl
    · intro _ isSlot _ isCurrent
      rcases mem_pair.mp isSlot with rfl | rfl
      · cases isCurrent
      · cases isCurrent
    · exact creatable.old wanted mem_cons_self
    · intro _
      exact ⟨untouched.put (creatable.free wanted mem_cons_self), creatable.put rfl⟩

theorem changed_cons (current : Object) (desired : DesiredMD)
    (rest : List (Object × DesiredMD)) :
    changed ((current, desired) :: rest) =
      if desired.isPendingUpgrade then changed rest else current :: changed rest := by
  unfold changed
  rw [filter_cons]
  cases desired.isPendingUpgrade with
  | true | false => rfl

theorem updateMachineDeployment_ensures {desired : DesiredMD}
    {rest : List (Object × DesiredMD)} :
    Ensures (Invariant base [] (Untouched base (changed ((current, desired) :: rest))))
      (updateMachineDeployment current desired)
      (fun _ => Invariant base [] (Untouched base (changed rest))) (Invariant base [] anyFrame) := by
  rw [changed_cons]
  generalize changed rest = later
  apply (call_ensures.monoStopped fun _ => Invariant.anyFrame).bind
  intro _
  cases desired.isPendingUpgrade with
  | true => exact Ensures.pure fun _ invariant => invariant
  | false =>
    rw [if_neg Bool.false_ne_true, if_neg Bool.false_ne_true]
    refine Ensures.bind (?_ : Ensures _ _ (fun _ => Invariant base [] (Untouched base later)) _) fun patched => ?_
    · apply Ensures.monoStopped (withTemplates_ensures _) fun _ => Invariant.anyFrame
      intro _ keeps
      apply call_ensures.explain.bind
      intro _
      split_ifs with unchanged
      · apply Ensures.pure
        intro world invariant
        have isStored := invariant.framed.stored current mem_cons_self
        exact (invariant.unrotated isStored unchanged.1).weaken Untouched.tail
      · refine call_ensures.explain.bind fun _ => Ensures.bind (Ensures.update ?_) fun _ =>
          Ensures.pure fun _ holds => holds
        intro world invariant
        have untouched : Untouched base (current :: later) world.objects := invariant.framed
        have isStored := untouched.stored current mem_cons_self
        apply invariant.applyObject keeps rfl
        · intro _ isSlot _ isCurrent
          refine ⟨current, isStored, rfl, ?_⟩
          rcases mem_pair.mp isSlot with rfl | rfl
          · exact mem_of_getElem? isCurrent
          · exact mem_of_getElem? isCurrent
        · intro _ inside sameKey
          rw [Keyed.eq_of_key_eq inside isStored sameKey]
          exact untouched.old current mem_cons_self
        · intro _
          apply untouched.tail.put
          intro object inside
          exact ((pairwise_cons.mp untouched.distinct).1 object inside).symm
    · split_ifs
      · exact (call_ensures.monoStopped fun _ => Invariant.anyFrame).explain
      · exact Ensures.pure fun _ invariant => invariant

theorem deleteMachineDeployment_ensures :
    Ensures (Invariant base [] anyFrame) (deleteMachineDeployment current)
      (fun _ => Invariant base [] anyFrame) (Invariant base [] anyFrame) := by
  apply call_ensures.bind
  intro _
  apply Ensures.update
  intro world invariant
  cases found : world.objects.find? current.key with
  | none => exact invariant
  | some object =>
    -- An object that is being deleted keeps its references.
    have isStored := (Keyed.find?_eq_some.mp found).1
    apply invariant.put
    · exact fun template uses => .inr ⟨object, isStored, rfl, uses⟩
    · intro _ inside sameKey _ uses _
      rw [Keyed.eq_of_key_eq inside isStored sameKey] at uses
      exact uses
    · exact forall_mem_nil _
    · trivial

end

/-! ## The contract of a reconcile -/

section

variable {base : Nat} {start : World} {desired : DesiredState} {current : CurrentState} {object : Object}

theorem mem_machineDeployments :
    object ∈ start.machineDeployments ↔ object ∈ start.objects ∧ object.kind = .machineDeployment := by
  rw [World.machineDeployments, mem_filter, decide_eq_true_eq]
  rfl

theorem mem_changed {machineDeployments : List Object}
    (inside : object ∈ changed (toUpdate desired machineDeployments)) : object ∈ machineDeployments := by
  rcases mem_map.mp inside with ⟨_, isPair, rfl⟩
  rcases mem_filterMap.mp (mem_filter.mp isPair).1 with ⟨_, _, isMapped⟩
  rcases Option.map_eq_some_iff.mp isMapped with ⟨_, isFound, rfl⟩
  exact mem_of_find?_eq_some isFound

theorem createFrame_of_deploymentsFrame (old : OldReferences base start)
    (differ : (writtenNames desired start.machineDeployments).Nodup) {objects : Keyed Object Object.key}
    (same : deploymentsFrame start objects) :
    createFrame base (changed (toUpdate desired start.machineDeployments))
      (toCreate desired start.machineDeployments) objects := by
  rcases nodup_append.mp differ with ⟨newDiffer, changedDiffer, apart⟩
  constructor
  · constructor
    · intro object inside
      rcases mem_machineDeployments.mp (mem_changed inside) with ⟨isStored, isDeployment⟩
      exact (same object isDeployment).mpr isStored
    · exact fun object inside => old object (mem_machineDeployments.mp (mem_changed inside)).1
    · exact pairwise_map.mp changedDiffer
  · constructor
    · exact newDiffer
    · intro wanted isNew object inside sameName
      exact apart wanted.name (mem_map_of_mem isNew) object.name (mem_map_of_mem inside) sameName.symm
    · intro _ _ object inside sameKey
      exact old object ((same object (congrArg Prod.fst sameKey)).mp inside)

theorem reconcileMachineDeployments_ensures (old : OldReferences base start)
    (reads : current.machineDeployments = start.machineDeployments)
    (differ : (writtenNames desired start.machineDeployments).Nodup) :
    Ensures (Invariant base [] (deploymentsFrame start)) (reconcileMachineDeployments desired current)
      (fun _ => Invariant base [] anyFrame) (Invariant base [] anyFrame) := by
  unfold reconcileMachineDeployments
  rw [reads]
  have started : ∀ world, Invariant base [] (deploymentsFrame start) world → Invariant base []
      (createFrame base (changed (toUpdate desired start.machineDeployments))
        (toCreate desired start.machineDeployments)) world :=
    fun world invariant => invariant.weaken (createFrame_of_deploymentsFrame old differ)
  generalize toUpdate desired start.machineDeployments = updates at started ⊢
  generalize toCreate desired start.machineDeployments = creations at started ⊢
  apply (call_ensures.monoStopped fun _ => Invariant.anyFrame).bind
  intro _
  apply Ensures.look.bind
  intro _
  apply ((Ensures.forEach (fun remaining => Invariant base [] (createFrame base (changed updates) remaining)) _
    creations).mono _ (fun _ _ holds => holds) (fun _ holds => holds)).bind
  · intro _
    apply ((Ensures.forEach (fun remaining => Invariant base [] (Untouched base (changed remaining))) _
      updates).mono _ (fun _ _ holds => holds) (fun _ holds => holds)).bind
    · intro _
      apply (Ensures.forEach (fun _ => Invariant base [] anyFrame) _ _).mono
        (fun _ => Invariant.anyFrame) (fun _ _ holds => holds) (fun _ holds => holds)
      exact fun _ _ => deleteMachineDeployment_ensures
    · exact fun _ _ => updateMachineDeployment_ensures
    · exact fun _ invariant => invariant.weaken And.left
  · intro _ _
    split_ifs
    · exact Ensures.pure fun _ => Invariant.skipCreate
    · exact createMachineDeployment_ensures
  · exact fun world found => started world found.1

theorem reconcileState_ensures (readsPlane : ReadsPlane current start)
    (reads : current.machineDeployments = start.machineDeployments) (old : OldReferences base start)
    (exclusive : Exclusive start.objects) (differ : (writtenNames desired start.machineDeployments).Nodup) :
    Ensures (Invariant base [] (· = start.objects)) (reconcileState desired current)
      (fun _ => Invariant base [] anyFrame) (Invariant base [] anyFrame) := by
  have calls : Ensures (Invariant base [] (· = start.objects)) call
      (fun _ => Invariant base [] (· = start.objects)) (Invariant base [] anyFrame) :=
    call_ensures.monoStopped fun _ => Invariant.anyFrame
  apply calls.bind
  intro _
  apply calls.bind
  intro _
  apply calls.bind
  intro _
  apply (reconcileControlPlane_ensures readsPlane old exclusive).attempt.bind
  rintro (errControlPlane | _)
  · split_ifs
    · exact Ensures.stop fun _ => Invariant.anyFrame
    · apply reconcileCluster_ensures.attempt.bind
      rintro (errCluster | _)
      · exact Ensures.stop fun _ => Invariant.anyFrame
      · exact Ensures.stop fun _ => Invariant.anyFrame
  · apply (reconcileCluster_ensures.monoStopped fun _ => Invariant.anyFrame).bind
    intro _
    exact reconcileMachineDeployments_ensures old reads differ

end

/-! ## Runs -/

/-- References exist, what the last reconcile has created and not removed is referenced, and the next reconcile can
rely on both. -/
def Sound (world : World) : Prop := ∃ base, Invariant base [] anyFrame world

section

variable {world : World} {desired : DesiredState} {current : CurrentState}

theorem getCurrentControlPlaneState_reads {plane : Option Object × Option Nat}
    (isPlane : getCurrentControlPlaneState desired world = .ok plane) {infrastructureRef : Bool}
    {controlPlaneRef : Option String} {machineDeployments : List Object} :
    ReadsPlane ⟨infrastructureRef, controlPlaneRef, plane.1, plane.2, machineDeployments⟩ world := by
  unfold getCurrentControlPlaneState at isPlane
  split at isPlane
  · cases isPlane
    constructor
    · intro controlPlane isCurrent
      cases isCurrent
    · intro template isCurrent
      cases isCurrent
  · split at isPlane
    · cases isPlane
    · rename_i controlPlane isFound
      rcases Keyed.find?_eq_some.mp isFound with ⟨isStored, isKey⟩
      have stored : controlPlane ∈ world.objects ∧ controlPlane.kind = .controlPlane :=
        ⟨isStored, congrArg Prod.fst isKey⟩
      split_ifs at isPlane
      · cases isPlane
        constructor
        · intro other isCurrent
          cases isCurrent
          exact stored
        · intro template isCurrent
          cases isCurrent
      · split at isPlane
        · cases isPlane
        · rename_i uses
          split_ifs at isPlane
          cases isPlane
          constructor
          · intro other isCurrent
            cases isCurrent
            exact stored
          · intro _ isCurrent
            cases isCurrent
            exact ⟨controlPlane, rfl, mem_of_getElem? uses⟩

theorem getCurrentState_reads (isCurrent : getCurrentState desired world = .ok current) :
    ReadsPlane current world ∧ current.machineDeployments = world.machineDeployments := by
  unfold getCurrentState at isCurrent
  cases isPlane : getCurrentControlPlaneState desired world with
  | error =>
    rw [isPlane] at isCurrent
    cases isCurrent
  | ok =>
    cases isDeployments : getCurrentMachineDeploymentState world.templates [] world.machineDeployments with
    | error =>
      rw [isPlane, isDeployments] at isCurrent
      cases isCurrent
    | ok =>
      rw [isPlane, isDeployments] at isCurrent
      cases isCurrent
      exact ⟨getCurrentControlPlaneState_reads isPlane, rfl⟩

theorem Sound.start (sound : Sound world) (answers : List (Option String)) :
    Invariant world.next [] (· = world.objects) { world with created := [], answers } := by
  rcases sound with ⟨_, invariant⟩
  exact
    { invariant with
      base_le := Nat.le_refl _
      fresh := forall_mem_nil _
      accounted := forall_mem_nil _
      framed := rfl }

theorem Sound.reconcile (sound : Sound world) {answers : List (Option String)}
    (differ : NamesDiffer world (.reconcile desired answers)) : Sound (reconcile desired answers world) := by
  have started := sound.start answers
  rcases sound with ⟨_, invariant⟩
  refine ⟨world.next, ?_⟩
  unfold TemplateRotation.reconcile
  dsimp only
  split
  · exact started.anyFrame
  · rename_i isCurrent
    rcases getCurrentState_reads isCurrent with ⟨readsPlane, reads⟩
    apply (reconcileState_ensures readsPlane reads _ _ _).final started
    · intro object isStored template uses
      exact invariant.numbered template (invariant.exist template (mem_references.mpr ⟨object, isStored, uses⟩))
    · exact invariant.exclusive
    · exact differ

theorem Sound.remove (sound : Sound world) (condition : Object → Bool) :
    Sound { world with created := [], objects := world.objects.keep condition } := by
  rcases sound with ⟨base, invariant⟩
  refine ⟨base, { invariant with exist := ?_, unreferenced := ?_, exclusive := ?_, fresh := ?_, accounted := ?_ }⟩
  · intro template referenced
    rcases mem_references.mp referenced with ⟨object, inside, uses⟩
    exact invariant.exist template (mem_references.mpr ⟨object, (Keyed.mem_keep.mp inside).1, uses⟩)
  · exact forall_mem_nil _
  · intro first isFirst second isSecond
    exact invariant.exclusive first (Keyed.mem_keep.mp isFirst).1 second (Keyed.mem_keep.mp isSecond).1
  · exact forall_mem_nil _
  · exact forall_mem_nil _

theorem Sound.initial : Sound {} := by
  refine ⟨0, ?_⟩
  constructor
  case distinct => exact nodup_nil
  case base_le => exact Nat.le_refl _
  case framed => trivial
  all_goals exact forall_mem_nil _

theorem Sound.step (sound : Sound world) {action : Action} {next : World}
    (differ : NamesDiffer world action) (taken : step world action = some next) : Sound next := by
  cases action with
  | reconcile =>
    cases taken
    exact sound.reconcile differ
  | remove =>
    cases taken
    exact sound.remove _

end

/-- Along every run in which new MachineDeployments get names of their own, every referenced template exists, and
every template that the last reconcile has created and not removed again is referenced. -/
theorem references_intact (schedule : List Action) (final : World) (differ : Meets step NamesDiffer {} schedule)
    (executed : execute step {} schedule = some final) :
    (∀ template ∈ final.references, template ∈ final.templates) ∧
      ∀ template ∈ final.created, template ∈ final.templates → template ∈ final.references := by
  have sound : Sound final := by
    apply execute_invariant _ _ differ executed
    · intro _ _ _ sound met taken
      exact sound.step met taken
    · exact Sound.initial
  rcases sound with ⟨_, invariant⟩
  refine ⟨invariant.exist, ?_⟩
  intro template isCreated exists_
  rcases invariant.accounted template isCreated exists_ with referenced | isPending
  · exact referenced
  · cases isPending

def workers (change : TemplateChange) : DesiredState :=
  { controlPlaneName := "cluster", infrastructureChange := change
    machineDeployments := ⟨
      [{ topologyName := "a", name := "workers", infrastructureChange := change, bootstrapChange := change }],
      List.nodup_singleton _⟩ }

/-- The topology is created and its templates are rotated; at the patch of the MachineDeployment the server fails. -/
def failedRotation : List Action :=
  [.reconcile (workers .unchanged) [], .reconcile (workers .spec) (List.replicate 25 none ++ [some "conflict"])]

theorem references_intact_failedRotation :
    Meets step NamesDiffer {} failedRotation ∧
      ∃ final, execute step {} failedRotation = some final ∧
        (final.created, final.templates, final.references) = ([5, 4, 3], [3, 2, 1], [3, 1, 2]) ∧
          ∀ template ∈ final.created, template ∈ final.templates → template ∈ final.references := by
  have differ : Meets step NamesDiffer {} failedRotation := by decide +kernel
  have outcome : (execute step {} failedRotation).map
      (fun final => (final.created, final.templates, final.references)) =
        some ([5, 4, 3], [3, 2, 1], [3, 1, 2]) := by decide +kernel
  rcases Option.map_eq_some_iff.mp outcome with ⟨final, executed, isOutcome⟩
  exact ⟨differ, final, executed, isOutcome, (references_intact failedRotation final differ executed).2⟩

def sameName : DesiredState :=
  { controlPlaneName := "cluster"
    machineDeployments := ⟨[{ topologyName := "a", name := "cluster-workers" },
      { topologyName := "b", name := "cluster-workers" }], by decide⟩ }

/-- The second MachineDeployment takes the place of the first, whose templates are left behind. -/
theorem createMachineDeployment_leaks :
    ∃ final, execute step {} [.reconcile sameName []] = some final ∧
      ∃ template ∈ final.created, template ∈ final.templates ∧ template ∉ final.references := by
  have outcome : (execute step {} [.reconcile sameName []]).map
      (fun final => (final.created, final.templates, final.references)) =
        some ([4, 3, 2, 1, 0], [4, 3, 2, 1, 0], [3, 4, 0]) := by decide +kernel
  rcases Option.map_eq_some_iff.mp outcome with ⟨final, executed, isOutcome⟩
  injection isOutcome with created rest
  injection rest with templates references
  refine ⟨final, executed, 1, ?_⟩
  rw [created, templates, references]
  decide

end ClusterApi.Topology.TemplateRotation

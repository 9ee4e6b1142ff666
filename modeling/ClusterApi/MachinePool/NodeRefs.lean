import Mathlib
import ClusterApi.Foundation.Keyed
import ClusterApi.Foundation.Runs

namespace ClusterApi.NodeRefs

open Foundation List

/-!
# The Nodes of a MachinePool

A MachinePool knows its Nodes by the list of provider IDs its infrastructure
reports.  The references of the Nodes are kept in the status.  They are the only
record of Nodes that have left the list, and they are computed only if the
counts of the status do not agree.
-/

structure Node where
  name : String
  uid : String
  providerID : String
  ready : Bool
  /-- What `IsNodeAvailable` says at the time of the call. -/
  available : Bool
  deriving DecidableEq

structure ObjectReference where
  name : String
  uid : String

structure Status where
  replicas : Int32
  readyReplicas : Int32
  availableReplicas : Int32
  unavailableReplicas : Int32
  nodeRefs : List ObjectReference
  infrastructureReady : Bool
  /-- Whether the condition ReplicasReady is True. -/
  replicasReady : Bool

structure MachinePool where
  deleting : Bool
  replicas : Option Int32
  providerIDList : List String
  status : Status

/-- The Nodes of the workload cluster and the answers of the API servers during a call. -/
structure Call where
  nodes : Keyed Node Node.name
  watchClusterNodes : Option String
  getClient : Option String
  /-- Whether the read at a place of the references fails. -/
  failsRead : Nat → Bool
  failsDelete : Node → Option String
  patchNodes : Option String
  /-- The order in which a map is visited. -/
  visited : List Node → List Node
  perm : ∀ nodes, (visited nodes).Perm nodes

/-! ## References -/

abbrev NodeRefMap := Keyed Node Node.providerID

/-- The map from provider IDs to Nodes; the last Node of a provider ID is kept. -/
def byProviderID (nodes : List Node) : NodeRefMap :=
  nodes.foldl (fun nodeRefMap node => if node.providerID = "" then nodeRefMap else nodeRefMap.put node)
    ⟨[], nodup_nil⟩

def readNodes (call : Call) (nodeRefs : List ObjectReference) : List Node :=
  nodeRefs.zipIdx.filterMap fun nodeRef =>
    if call.failsRead nodeRef.2 then none else call.nodes.find? nodeRef.1.name

/-- The Nodes that are deleted, and the error that ends the loop. -/
def deleteRetiredNodes (call : Call) (nodeRefs : List ObjectReference)
    (providerIDList : List String) : List Node × Option String :=
  let nodeRefsMap := (byProviderID (readNodes call nodeRefs)).keep fun node => node.providerID ∉ providerIDList
  let nodes := call.visited nodeRefsMap.list
  (nodes.takeWhile fun node => (call.failsDelete node).isNone, nodes.findSome? call.failsDelete)

def nodesOf (nodeRefsMap : NodeRefMap) (providerIDList : List String) : List Node :=
  providerIDList.filterMap fun providerID => if providerID = "" then none else nodeRefsMap.find? providerID

def reference (node : Node) : ObjectReference := ⟨node.name, node.uid⟩

structure Result where
  machinePool : MachinePool
  deleted : List Node
  error : Option String

def agree (status : Status) : Bool :=
  status.replicas = status.readyReplicas ∧ (status.nodeRefs.length : Int) = status.readyReplicas.toInt

def reconcileNodeRefs (call : Call) (nodeRefMap : Option NodeRefMap) (mp : MachinePool) : Result :=
  if call.watchClusterNodes.isSome then ⟨mp, [], call.watchClusterNodes⟩
  else if mp.deleting then ⟨mp, [], none⟩
  else if agree mp.status then ⟨{ mp with status := { mp.status with replicasReady := true } }, [], none⟩
  else if mp.providerIDList = [] ∧ mp.replicas ≠ some 0 then ⟨mp, [], none⟩
  else if call.getClient.isSome then ⟨mp, [], call.getClient⟩
  else
    match deleteRetiredNodes call mp.status.nodeRefs mp.providerIDList, nodeRefMap with
    | (deleted, some error), _ => ⟨mp, deleted, some ("failed to delete Node: " ++ error)⟩
    | (deleted, none), none => ⟨mp, deleted, some "failed to get Node references"⟩
    | (deleted, none), some nodeRefMap =>
      let nodes := nodesOf nodeRefMap mp.providerIDList
      if nodes = [] ∧ mp.providerIDList ≠ [] then ⟨mp, deleted, none⟩
      else
        let available := Int32.ofNat (nodes.countP fun node => node.ready && node.available)
        let status := { mp.status with
          readyReplicas := Int32.ofNat (nodes.countP Node.ready)
          availableReplicas := available
          unavailableReplicas := mp.status.replicas - available
          nodeRefs := nodes.map reference }
        if call.patchNodes.isSome then ⟨{ mp with status }, deleted, call.patchNodes⟩
        else ⟨{ mp with status := { status with replicasReady := agree status } }, deleted, none⟩

/-! ## Retired Nodes -/

def Listed (mp : MachinePool) (node : Node) : Prop := ∃ nodeRef ∈ mp.status.nodeRefs, nodeRef.name = node.name

/-- The Node has left the list. -/
structure Retired (mp : MachinePool) (node : Node) : Prop where
  listed : Listed mp node
  hasID : node.providerID ≠ ""
  outside : node.providerID ∉ mp.providerIDList

/-- No other Node of the provider ID comes later. -/
def LastOf (nodes : List Node) (node : Node) : Prop :=
  nodes.reverse.find? (fun other => other.providerID = node.providerID) = some node

theorem mem_byProviderID {nodes : List Node} {node : Node} :
    node ∈ byProviderID nodes ↔ node.providerID ≠ "" ∧ LastOf nodes node := by
  induction nodes using List.reverseRecOn with
  | nil => exact iff_of_false not_mem_nil nofun
  | append_singleton nodes last ih =>
    have added : byProviderID (nodes ++ [last]) =
        if last.providerID = "" then byProviderID nodes else (byProviderID nodes).put last := by
      rw [byProviderID, foldl_append]
      rfl
    rw [added, LastOf, reverse_append, reverse_singleton, singleton_append, find?_cons]
    split_ifs with noID
    · rw [ih, LastOf]
      grind
    · rw [Keyed.mem_put, ih, LastOf]
      grind

variable {call : Call} {nodeRefMap : Option NodeRefMap} {mp : MachinePool} {node : Node}

theorem mem_readNodes {nodeRefs : List ObjectReference} (read : node ∈ readNodes call nodeRefs) :
    node ∈ call.nodes ∧ ∃ nodeRef ∈ nodeRefs, nodeRef.name = node.name := by
  rcases mem_filterMap.mp read with ⟨⟨nodeRef, _⟩, inside, found⟩
  rw [Option.ite_none_left_eq_some, Keyed.find?_eq_some] at found
  exact ⟨found.2.1, nodeRef, fst_mem_of_mem_zipIdx inside, found.2.2.symm⟩

theorem mem_retired :
    node ∈ ((byProviderID (readNodes call mp.status.nodeRefs)).keep fun node =>
      node.providerID ∉ mp.providerIDList) ↔ Retired mp node ∧ LastOf (readNodes call mp.status.nodeRefs) node := by
  rw [Keyed.mem_keep, mem_byProviderID, decide_eq_true_eq]
  constructor
  · rintro ⟨⟨hasID, last⟩, outside⟩
    exact ⟨⟨(mem_readNodes (mem_reverse.mp (mem_of_find?_eq_some last))).2, hasID, outside⟩, last⟩
  · rintro ⟨retired, last⟩
    exact ⟨⟨retired.hasID, last⟩, retired.outside⟩

theorem deleteRetiredNodes_spec :
    let outcome := deleteRetiredNodes call mp.status.nodeRefs mp.providerIDList
    (∀ node ∈ outcome.1, Retired mp node ∧ LastOf (readNodes call mp.status.nodeRefs) node) ∧
      (outcome.2 = none → ∀ node, Retired mp node → LastOf (readNodes call mp.status.nodeRefs) node →
        node ∈ outcome.1) := by
  constructor
  · intro node deleted
    exact mem_retired.mp ((call.perm _).mem_iff.mp ((takeWhile_sublist _).mem deleted))
  · intro succeeds node retired last
    have visited := (call.perm _).mem_iff.mpr (mem_retired.mpr ⟨retired, last⟩)
    rw [deleteRetiredNodes, takeWhile_eq_self_iff.mpr]
    · exact visited
    · exact fun node inside => Option.isNone_iff_eq_none.mpr (findSome?_eq_none_iff.mp succeeds node inside)

/-- The call gets as far as to compute the references and the counts. -/
@[mk_iff]
structure Computes (call : Call) (nodeRefMap : Option NodeRefMap) (mp : MachinePool) : Prop where
  watched : call.watchClusterNodes = none
  alive : mp.deleting = false
  disagree : agree mp.status = false
  hasIDs : mp.providerIDList = [] → mp.replicas = some 0
  connected : call.getClient = none
  deletes : ∀ node, Retired mp node → LastOf (readNodes call mp.status.nodeRefs) node →
    call.failsDelete node = none
  found : ∃ map, nodeRefMap = some map ∧ (nodesOf map mp.providerIDList = [] → mp.providerIDList = [])

/-- The call returns early because the counts agree. -/
@[mk_iff]
structure Trusts (call : Call) (mp : MachinePool) : Prop where
  watched : call.watchClusterNodes = none
  alive : mp.deleting = false
  agrees : agree mp.status = true

theorem deleteRetiredNodes_succeeds_iff :
    (deleteRetiredNodes call mp.status.nodeRefs mp.providerIDList).2 = none ↔
      ∀ node, Retired mp node → LastOf (readNodes call mp.status.nodeRefs) node →
        call.failsDelete node = none := by
  rw [deleteRetiredNodes, findSome?_eq_none_iff]
  refine forall_congr' fun node => ?_
  rw [(call.perm _).mem_iff, ← and_imp, ← mem_retired]
  rfl

/-- A call that does not compute the references keeps them and the count. -/
theorem reconcileNodeRefs_spec (call : Call) (nodeRefMap : Option NodeRefMap) (mp : MachinePool) :
    let result := reconcileNodeRefs call nodeRefMap mp
    let outcome := deleteRetiredNodes call mp.status.nodeRefs mp.providerIDList
    let after := result.machinePool.status
    (result.deleted = [] ∨ result.deleted = outcome.1) ∧
      result.machinePool.providerIDList = mp.providerIDList ∧
      (¬ Computes call nodeRefMap mp ∧ after.nodeRefs = mp.status.nodeRefs ∧
          after.readyReplicas = mp.status.readyReplicas ∧
          (after.replicasReady = true ↔ Trusts call mp ∨ mp.status.replicasReady = true) ∨
        Computes call nodeRefMap mp ∧ result.deleted = outcome.1 ∧ ∃ map, nodeRefMap = some map ∧
          after.nodeRefs = (nodesOf map mp.providerIDList).map reference ∧
          after.readyReplicas = Int32.ofNat ((nodesOf map mp.providerIDList).countP Node.ready) ∧
          (call.patchNodes = none → after.replicasReady = true → agree after = true)) := by
  intro result outcome after
  have succeeds := @deleteRetiredNodes_succeeds_iff call mp
  unfold after result reconcileNodeRefs
  rw [computes_iff, trusts_iff, ← succeeds]
  -- The cases are the ways in which the call ends: each refutes one condition of `Computes`, but for the last two.
  cases isOutcome : deleteRetiredNodes call mp.status.nodeRefs mp.providerIDList with
  | mk deleted error =>
    cases nodeRefMap <;> cases error <;> dsimp only <;> split_ifs <;> simp_all [outcome]
    all_goals grind [agree]

/-- A call of `reconcileNodeRefs` in a run, and what happens to the MachinePool before it. -/
structure Turn where
  call : Call
  nodeRefMap : Option NodeRefMap
  meantime : MachinePool → MachinePool

namespace Turn

def result (turn : Turn) (mp : MachinePool) : Result :=
  reconcileNodeRefs turn.call turn.nodeRefMap (turn.meantime mp)

def step (mp : MachinePool) (turn : Turn) : Option MachinePool := some (turn.result mp).machinePool

/-- Every retired Node that exists is deleted, or remains in the references. -/
def Remembers (mp : MachinePool) (turn : Turn) : Prop :=
  ∀ node ∈ turn.call.nodes, Retired (turn.meantime mp) node →
    node ∈ (turn.result mp).deleted ∨ Listed (turn.result mp).machinePool node

/-- If the references are computed, each retired Node is the last of its provider ID that is read, or a Node
of the list has its name. -/
def ReadsRetired (mp : MachinePool) (turn : Turn) : Prop :=
  ∀ map, turn.nodeRefMap = some map → Computes turn.call (some map) (turn.meantime mp) →
    ∀ node ∈ turn.call.nodes, Retired (turn.meantime mp) node →
      LastOf (readNodes turn.call (turn.meantime mp).status.nodeRefs) node ∨
        ∃ other ∈ nodesOf map (turn.meantime mp).providerIDList, other.name = node.name

theorem deleted_retired (turn : Turn) (mp : MachinePool) :
    ∀ node ∈ (turn.result mp).deleted, Retired (turn.meantime mp) node := by
  intro node inside
  rcases (reconcileNodeRefs_spec turn.call turn.nodeRefMap (turn.meantime mp)).1 with none | isDeleted
  · rw [result, none] at inside
    cases inside
  · rw [result, isDeleted] at inside
    exact (deleteRetiredNodes_spec.1 node inside).1

theorem remembers_iff (turn : Turn) (mp : MachinePool) : turn.Remembers mp ↔ turn.ReadsRetired mp := by
  rcases (reconcileNodeRefs_spec turn.call turn.nodeRefMap (turn.meantime mp)).2.2 with
    ⟨notComputes, kept, -⟩ | ⟨computes, all, map, isMap, nodeRefs, -⟩
  · refine iff_of_true (fun node _ retired => .inr ?_) fun map isMap computes => ?_
    · rw [Listed, result, kept]
      exact retired.listed
    · exact absurd (isMap ▸ computes) notComputes
  · have listed : ∀ node, Listed (turn.result mp).machinePool node ↔
        ∃ other ∈ nodesOf map (turn.meantime mp).providerIDList, other.name = node.name := by
      intro node
      rw [Listed, result, nodeRefs]
      simp only [mem_map, exists_exists_and_eq_and, reference]
    have deleted : ∀ node, Retired (turn.meantime mp) node →
        (node ∈ (turn.result mp).deleted ↔
          LastOf (readNodes turn.call (turn.meantime mp).status.nodeRefs) node) := by
      intro node retired
      rw [result, all]
      exact ⟨fun inside => (deleteRetiredNodes_spec.1 node inside).2,
        deleteRetiredNodes_spec.2 (deleteRetiredNodes_succeeds_iff.mpr computes.deletes) node retired⟩
    constructor
    · intro remembers _ isOther _ node inside retired
      cases isMap.symm.trans isOther
      rw [← deleted node retired, ← listed]
      exact remembers node inside retired
    · intro reads node inside retired
      rw [deleted node retired, listed]
      exact reads map isMap (isMap ▸ computes) node inside retired

end Turn

/-- In a run only retired Nodes are deleted.  They are not forgotten exactly if every call that computes the
references reads each of them after all others of its provider ID. -/
theorem run_retired_iff (mp : MachinePool) (turns : List Turn) :
    Meets Turn.step (fun mp turn => ∀ node ∈ (turn.result mp).deleted, Retired (turn.meantime mp) node)
        mp turns ∧
      (Meets Turn.step (fun mp turn => turn.Remembers mp) mp turns ↔
        Meets Turn.step (fun mp turn => turn.ReadsRetired mp) mp turns) := by
  refine ⟨meets_of_forall (fun mp turn _ => turn.deleted_retired mp) mp, ?_⟩
  exact meets_congr (fun _ => True) (fun _ _ _ _ _ _ => trivial)
    (fun mp turn _ => turn.remembers_iff mp) trivial

/-! ## Readiness -/

structure Infrastructure where
  deleting : Bool
  ready : Bool
  providerIDList : List String
  replicas : Option Int32

/-- The MachinePool with what the infrastructure reports, and the Nodes that are read if it exists. -/
def reconcileInfrastructure (call : Call) (infraConfig : Infrastructure) (mp : MachinePool) :
    MachinePool × Option NodeRefMap :=
  if infraConfig.deleting then (mp, none)
  else
    let nodeRefMap := some (byProviderID call.nodes.list)
    let status : Status := { mp.status with infrastructureReady := infraConfig.ready }
    if !infraConfig.ready then ({ mp with status }, nodeRefMap)
    else
      let status : Status := { status with replicas := infraConfig.replicas.getD mp.status.replicas }
      if infraConfig.providerIDList = [] ∧ status.replicas ≠ 0 then ({ mp with status }, nodeRefMap)
      else if mp.providerIDList = infraConfig.providerIDList then ({ mp with status }, nodeRefMap)
      else
        ({ mp with
          providerIDList := infraConfig.providerIDList
          status := { status with
            readyReplicas := 0, availableReplicas := 0, unavailableReplicas := status.replicas } }, nodeRefMap)

def reconcile (call : Call) (infraConfig : Infrastructure) (mp : MachinePool) : MachinePool :=
  (reconcileNodeRefs call (reconcileInfrastructure call infraConfig mp).2
    (reconcileInfrastructure call infraConfig mp).1).machinePool

/-- The references and the count are those of the Nodes of the list. -/
def Truthful (call : Call) (mp : MachinePool) : Prop :=
  mp.status.readyReplicas.toInt = (nodesOf (byProviderID call.nodes.list) mp.providerIDList).countP Node.ready ∧
    mp.status.nodeRefs = (nodesOf (byProviderID call.nodes.list) mp.providerIDList).map reference

/-- A reconcile in which no call to the API server fails. -/
structure Reconcile where
  call : Call
  infraConfig : Infrastructure
  watched : call.watchClusterNodes = none
  connected : call.getClient = none
  reads : ∀ place, call.failsRead place = false
  deletes : ∀ node, call.failsDelete node = none
  patched : call.patchNodes = none

namespace Reconcile

def step (mp : MachinePool) (turn : Reconcile) : Option MachinePool :=
  some (reconcile turn.call turn.infraConfig mp)

/-- The MachinePool as `reconcileNodeRefs` finds it. -/
def found (turn : Reconcile) (mp : MachinePool) : MachinePool :=
  (reconcileInfrastructure turn.call turn.infraConfig mp).1

end Reconcile

namespace Example

def failing (ready : Bool) : Node := ⟨"a", "", "1", ready, ready⟩

def answers (ready failsRead : Bool) : Call :=
  ⟨⟨[failing ready, ⟨"b", "", "2", true, true⟩], by simp [failing]⟩, none, none, fun _ => failsRead, fun _ => none, none,
    id, fun _ => .refl _⟩

def infraConfig (providerID : String) : Infrastructure := ⟨false, true, [providerID], some 1⟩

def created : MachinePool := ⟨false, some 1, [], ⟨0, 0, 0, 0, [], false, false⟩⟩

/-- The one Node of the list is Ready, or not. -/
def observed (ready : Bool) : Reconcile := ⟨answers ready false, infraConfig "1", rfl, rfl, fun _ => rfl, fun _ => rfl, rfl⟩

def machinePool : MachinePool := reconcile (answers true false) (infraConfig "1") created

/-- The provider ID of the Node is replaced in the list, and its read may fail. -/
def replaced (failsRead : Bool) : Turn :=
  ⟨answers true failsRead, some (byProviderID (answers true failsRead).nodes.list), fun mp =>
    (reconcileInfrastructure (answers true failsRead) (infraConfig "2") mp).1⟩

end Example

/-- The Node is replaced, read and deleted. -/
theorem run_retired_read :
    Example.failing true ∈ ((Example.replaced false).result Example.machinePool).deleted ∧
      Meets Turn.step (fun mp turn => turn.Remembers mp) Example.machinePool [Example.replaced false] := by
  refine ⟨by decide, (run_retired_iff _ _).2.mpr ⟨fun map _ _ node inside retired => ?_, trivial⟩⟩
  rcases mem_cons.mp inside with rfl | other
  · exact .inl rfl
  · cases mem_singleton.mp other
    exact absurd mem_cons_self retired.outside

/-- The Node is replaced, cannot be read, and is forgotten. -/
theorem run_forgets :
    ¬ Meets Turn.step (fun mp turn => turn.Remembers mp) Example.machinePool [Example.replaced true] := by
  intro meets
  have retired : Retired ((Example.replaced true).meantime Example.machinePool) (Example.failing true) :=
    ⟨⟨_, mem_cons_self, rfl⟩, by decide, by decide⟩
  rcases meets.1 _ mem_cons_self retired with deleted | ⟨_, inside, named⟩
  · exact absurd deleted (by decide)
  · cases mem_singleton.mp inside
    exact absurd named (by decide)

end ClusterApi.NodeRefs

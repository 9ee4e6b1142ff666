import ClusterApi.Clusterctl.ObjectGraph
import ClusterApi.Foundation.Layering

namespace ClusterApi.Clusterctl

open Foundation List

/-!
# The move sequence

`getMoveSequence` takes the nodes to be moved in groups, each node after its
owners.  The loop ends when a group is empty.  Its comment reads this as
"all the nodes are already in the sequence"; but a group is also empty when
the remaining nodes wait for an owner that is not to be moved, or for each
other.  Those nodes are left out without an error.
-/

structure MoveSequence where
  groups : List (List Node) := []
  nodesMap : List String := []

namespace MoveSequence

def addGroup (sequence : MoveSequence) (group : List Node) : MoveSequence where
  groups := sequence.groups ++ [group]
  nodesMap := sequence.nodesMap ++ group.map Node.uid

def hasNode (sequence : MoveSequence) (uid : String) : Bool := sequence.nodesMap.contains uid

end MoveSequence

/-- The order in which a map is visited, which differs from one round to the next. -/
structure IterationOrder where
  visit : Nat → List Node → List Node
  perm : ∀ round nodes, (visit round nodes).Perm nodes

/-- The nodes that have to be in the sequence before this one. -/
def Node.prerequisites (node : Node) : List String := node.owners.keys ++ node.softOwners

def nextMoveGroup (moveNodes : List Node) (sequence : MoveSequence) : List Node :=
  moveNodes.filter fun node => !sequence.hasNode node.uid && node.owners.keys.all sequence.hasNode &&
    node.softOwners.all sequence.hasNode

/-- The rounds of the loop.  The result is `none` while the loop is still running. -/
def getMoveSequenceLoop (order : IterationOrder) (graph : ObjectGraph) : Nat → Nat → MoveSequence → Option MoveSequence
  | 0, _, _ => none
  | fuel + 1, round, sequence =>
    let moveGroup := nextMoveGroup (order.visit round graph.getMoveNodes) sequence
    if moveGroup.isEmpty then some sequence
    else getMoveSequenceLoop order graph fuel (round + 1) (sequence.addGroup moveGroup)

def getMoveSequence (order : IterationOrder) (graph : ObjectGraph) : MoveSequence :=
  (getMoveSequenceLoop order graph (graph.getMoveNodes.length + 1) 0 {}).getD {}

/-! ## What the sequence should be -/

/-- Every node to be moved is in exactly one group, after its owners, and no other node is in a group. -/
structure CompleteAndOrdered (graph : ObjectGraph) (groups : List (List Node)) : Prop where
  once : ∀ node ∈ graph.getMoveNodes, groups.countP (fun group => node ∈ group) = 1
  only : ∀ group ∈ groups, ∀ node ∈ group, node ∈ graph.getMoveNodes
  ordered : ∀ earlier group later, groups = earlier ++ group :: later → ∀ node ∈ group,
    ∀ owner ∈ graph.getMoveNodes, owner.uid ∈ node.prerequisites → owner ∈ earlier.flatten

/-- Every owner and soft owner of a node to be moved is to be moved as well,
and no node to be moved is an owner of itself, directly or indirectly. -/
def OwnersMove (graph : ObjectGraph) : Prop := Layering.Grounded Node.uid Node.prerequisites graph.getMoveNodes

/-! ## The loop takes whole layers -/

/-- The sequence is a layering of the nodes to be moved, and its map has the nodes of its groups. -/
structure Built (graph : ObjectGraph) (sequence : MoveSequence) : Prop where
  grown : Layering.Grown Node.uid Node.prerequisites graph.getMoveNodes sequence.groups
  nodesMap : sequence.nodesMap = Layering.placed Node.uid sequence.groups

theorem ObjectGraph.nodup_getMoveNodes (graph : ObjectGraph) : (graph.getMoveNodes.map Node.uid).Nodup :=
  graph.distinct.sublist (filter_sublist.map _)

theorem Built.empty (graph : ObjectGraph) : Built graph {} := ⟨.nil, rfl⟩

variable {sequence : MoveSequence} {graph : ObjectGraph} {moveNodes : List Node}

section

variable (built : Built graph sequence) (perm : moveNodes.Perm graph.getMoveNodes)
include built perm

theorem mem_nextMoveGroup (node : Node) :
    node ∈ nextMoveGroup moveNodes sequence ↔
      node ∈ graph.getMoveNodes ∧ Layering.Ready Node.uid Node.prerequisites sequence.groups node := by
  simp only [nextMoveGroup, MoveSequence.hasNode, built.nodesMap, Layering.Ready, Node.prerequisites, mem_filter,
    perm.mem_iff, Bool.and_eq_true, Bool.not_eq_true', contains_eq_mem, decide_eq_false_iff_not, all_eq_true,
    decide_eq_true_eq, mem_append, and_assoc]
  constructor
  · rintro ⟨member, unplaced, owners, softOwners⟩
    exact ⟨member, unplaced, fun need needed => needed.elim (owners need) (softOwners need)⟩
  · rintro ⟨member, unplaced, needs⟩
    exact ⟨member, unplaced, fun need needed => needs need (.inl needed), fun need needed => needs need (.inr needed)⟩

theorem Built.addGroup (nonempty : nextMoveGroup moveNodes sequence ≠ []) :
    Built graph (sequence.addGroup (nextMoveGroup moveNodes sequence)) where
  grown := by
    refine .snoc built.grown ?_ (mem_nextMoveGroup built perm) nonempty
    have distinct := (perm.map Node.uid).nodup_iff.mpr graph.nodup_getMoveNodes
    exact distinct.sublist (filter_sublist.map _)
  nodesMap := by
    rw [MoveSequence.addGroup, Layering.placed_snoc, built.nodesMap]

end

theorem getMoveSequenceLoop_returns (order : IterationOrder) (fuel round : Nat) (built : Built graph sequence)
    (enough : graph.getMoveNodes.length < fuel + sequence.groups.length) :
    ∃ final, (∀ more, getMoveSequenceLoop order graph (fuel + more) round sequence = some final) ∧
      Built graph final ∧ Layering.Stuck Node.uid Node.prerequisites graph.getMoveNodes final.groups := by
  induction fuel generalizing round sequence with
  | zero =>
    have bound := built.grown.length_le
    omega
  | succ _ ih =>
    have perm := order.perm round graph.getMoveNodes
    by_cases stops : nextMoveGroup (order.visit round graph.getMoveNodes) sequence = []
    · refine ⟨sequence, fun more => ?_, built, fun node member ready => ?_⟩
      · rw [Nat.add_right_comm, getMoveSequenceLoop]
        simp [stops]
      · have next := (mem_nextMoveGroup built perm node).mpr ⟨member, ready⟩
        rw [stops] at next
        exact absurd next not_mem_nil
    · have grows := built.addGroup perm stops
      rcases ih (round + 1) grows (by simp [MoveSequence.addGroup]; omega) with
        ⟨final, returns, finalBuilt, stuck⟩
      refine ⟨final, fun more => ?_, finalBuilt, stuck⟩
      rw [Nat.add_right_comm, getMoveSequenceLoop]
      simpa [stops] using returns more

/-- The loop ends by its own test, and what it returns is a layering to which no node can be added. -/
theorem getMoveSequence_returns (order : IterationOrder) (graph : ObjectGraph) :
    (∀ fuel, graph.getMoveNodes.length < fuel →
        getMoveSequenceLoop order graph fuel 0 {} = some (getMoveSequence order graph)) ∧
      Built graph (getMoveSequence order graph) ∧
      Layering.Stuck Node.uid Node.prerequisites graph.getMoveNodes (getMoveSequence order graph).groups := by
  rcases getMoveSequenceLoop_returns order (graph.getMoveNodes.length + 1) 0 (Built.empty graph) (by simp) with
    ⟨final, returns, built, stuck⟩
  have same : getMoveSequence order graph = final := by
    have atEnd := returns 0
    rw [getMoveSequence, atEnd, Option.getD_some]
  rw [same]
  refine ⟨fun fuel enough => ?_, built, stuck⟩
  have more := returns (fuel - (graph.getMoveNodes.length + 1))
  rwa [Nat.add_sub_cancel' enough] at more

/-! ## When the sequence is complete -/

section

variable {graph : ObjectGraph} {sequence : MoveSequence} (built : Built graph sequence)
include built

theorem Built.only : ∀ group ∈ sequence.groups, ∀ node ∈ group, node ∈ graph.getMoveNodes :=
  fun group groupMember _ member => built.grown.mem_items (mem_flatten.mpr ⟨group, groupMember, member⟩)

theorem Built.ordered (earlier : List (List Node)) (group : List Node) (later : List (List Node))
    (split : sequence.groups = earlier ++ group :: later) (node : Node) (member : node ∈ group) (owner : Node)
    (ownerMoves : owner ∈ graph.getMoveNodes) (owns : owner.uid ∈ node.prerequisites) : owner ∈ earlier.flatten := by
  rcases mem_map.mp (built.grown.needs_earlier split member owner.uid owns) with ⟨other, otherPlaced, same⟩
  have otherMoves : other ∈ graph.getMoveNodes := by
    apply built.grown.mem_items
    rw [split, flatten_append]
    exact mem_append_left _ otherPlaced
  rwa [← inj_on_of_nodup_map graph.nodup_getMoveNodes otherMoves ownerMoves same]

end

/-- `getMoveSequence` always returns.  Its sequence has every node to be
moved exactly once, and nothing else, each after its owners, exactly when all
the owners are to be moved themselves and ownership is not circular. -/
theorem getMoveSequence_completeAndOrdered_iff (order : IterationOrder) (graph : ObjectGraph) :
    (∀ fuel, graph.getMoveNodes.length < fuel →
        getMoveSequenceLoop order graph fuel 0 {} = some (getMoveSequence order graph)) ∧
      (CompleteAndOrdered graph (getMoveSequence order graph).groups ↔ OwnersMove graph) := by
  rcases getMoveSequence_returns order graph with ⟨returns, built, stuck⟩
  refine ⟨returns, ?_⟩
  have complete := Layering.complete_iff_grounded built.grown stuck graph.nodup_getMoveNodes
  constructor
  · intro holds
    apply complete.mp
    intro node member
    have inOne : 0 < (getMoveSequence order graph).groups.countP fun group => node ∈ group := by
      rw [holds.once node member]
      exact Nat.one_pos
    rcases countP_pos_iff.mp inOne with ⟨group, groupMember, inGroup⟩
    exact mem_flatten.mpr ⟨group, groupMember, of_decide_eq_true inGroup⟩
  · intro moves
    exact {
      once := fun node member => built.grown.countP_eq_one (complete.mpr moves node member)
      only := built.only
      ordered := built.ordered }

def asStored : IterationOrder := ⟨fun _ nodes => nodes, fun _ _ => .refl _⟩

def ownedCluster : Object where
  typeMeta := { group := "cluster.x-k8s.io", version := "v1beta1", kind := "Cluster" }
  namespaceName := "default"
  name := "workload"
  uid := "cluster-uid"
  ownerReferences :=
    [{ typeMeta := { group := "platform.example", version := "v1", kind := "Tenant" }, name := "team", uid := "team-uid" }]
  body := .cluster false none

def clusterType : String × DiscoveryTypeInfo :=
  ("clusters.cluster.x-k8s.io", { forceMove := true, forceMoveHierarchy := true })

/-- The Cluster is to be moved, but no group has it. -/
theorem ownedCluster_leftOut :
    ¬ ∀ depth types objects graph order, ObjectGraph.discovery depth types objects = some graph →
      CompleteAndOrdered graph (getMoveSequence order graph).groups := by
  intro holds
  have leftOut : (ObjectGraph.discovery 2 [clusterType] [ownedCluster]).map (fun graph =>
      (graph.getMoveNodes.map Node.uid, (getMoveSequence asStored graph).groups.length)) =
        some (["cluster-uid"], 0) := by
    decide +kernel
  rcases Option.map_eq_some_iff.mp leftOut with ⟨graph, discovered, outcome⟩
  have complete := holds 2 [clusterType] [ownedCluster] graph asStored discovered
  have noGroups := length_eq_zero_iff.mp (congrArg Prod.snd outcome)
  rcases map_eq_cons_iff.mp (congrArg Prod.fst outcome) with ⟨cluster, _, moveNodes, _⟩
  have once := complete.once cluster (by rw [moveNodes]; exact mem_cons_self)
  rw [noGroups] at once
  exact absurd once (by simp)

end ClusterApi.Clusterctl

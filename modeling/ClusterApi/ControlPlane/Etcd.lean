import ClusterApi.ControlPlane.Machines
import ClusterApi.Foundation.Runs
import ClusterApi.Util.Errors

namespace ClusterApi.ControlPlane

open List

/-!
# The etcd cluster of a control plane

A stacked etcd has one member on the Node of every control plane Machine, named
after the Node.  Before a Machine goes away, the leadership of etcd is moved to
a member on another Machine.

Every call may fail.  A member that answers knows the leader and the members,
and a successful `MoveLeader` makes its argument the leader.
-/

structure EtcdMember where
  id : UInt64
  /-- Empty until the member is started. -/
  name : String
  deriving DecidableEq

/-- The members of an etcd cluster and the identifier of its leader. -/
structure EtcdCluster where
  members : List EtcdMember
  leader : UInt64
  distinctIds : (members.map EtcdMember.id).Nodup
  distinctNames : ((members.map EtcdMember.name).filter fun name => name ≠ "").Nodup

/-- What may go wrong on the way to etcd, by the text of the error. -/
structure EtcdAccess where
  controlPlaneNodes : Except String (List String)
  /-- The error of connecting to the member on a Node. -/
  connect : String → Option String := fun _ => none
  /-- The error of asking the member on a Node for the members. -/
  listMembers : String → Option String := fun _ => none
  /-- The same two calls once the leader is known. -/
  connectLeader : Option String := none
  listLeaderMembers : Option String := none
  moveLeader : UInt64 → Option String := fun _ => none

def memberForName (members : List EtcdMember) (name : String) : Option EtcdMember :=
  members.find? fun member => member.name = name

/-! ## The client of the leader -/

def hexadecimal (id : UInt64) : String := String.ofList (Nat.toDigits 16 id.toNat)

def errEtcdNodeConnection : String := "failed to connect to etcd node"

/-- The error of `forFirstAvailableNode` for a single Node. -/
def noConnection (error : String) : String := wrap "could not establish a connection to any etcd node" error

/-- How the search for the leader ends at one Node.  A Node that cannot be reached is passed over. -/
inductive LeaderClient
  | client
  | unreachable (errors : List String)
  | failed (error : String)

def getLeaderClient (access : EtcdAccess) (etcd : EtcdCluster) (nodeName : String)
    (allNodes : List String) : LeaderClient :=
  match access.connect nodeName with
  | some error => .unreachable [noConnection error, errEtcdNodeConnection]
  | none =>
    match access.listMembers nodeName with
    | some error => .unreachable [error, errEtcdNodeConnection]
    | none =>
      match etcd.members.find? fun member => member.id = etcd.leader with
      | none => .failed ("etcd leader is reported as " ++ hexadecimal etcd.leader ++
          ", but we couldn't find any matching member")
      | some leader =>
        if !allNodes.contains leader.name then
          .failed ("etcd leader is reported as " ++ hexadecimal leader.id ++ " with name " ++ quote leader.name ++
            ", but we couldn't find a corresponding Node in the cluster")
        else
          match access.connectLeader with
          | some error => .failed (noConnection error)
          | none => .client

/-- The loop of `forLeader`, with the errors so far.  The client it finds answers with what is known to all. -/
def forLeaderLoop (access : EtcdAccess) (etcd : EtcdCluster) (allNodes : List String) :
    List String → List String → Except String PUnit
  | [], errors => .error (wrap "could not establish a connection to the etcd leader" (aggregate errors))
  | nodeName :: rest, errors =>
    match getLeaderClient access etcd nodeName allNodes with
    | .client => .ok ()
    | .unreachable found => forLeaderLoop access etcd allNodes rest (errors ++ found)
    | .failed error => .error error

def forLeader (access : EtcdAccess) (etcd : EtcdCluster) (nodeNames : List String) : Except String PUnit :=
  if nodeNames = [] then .error "invalid argument: forLeader can't be called with an empty list of nodes"
  else forLeaderLoop access etcd nodeNames nodeNames []

/-! ## Moving the leadership -/

/-- Move the leader if it is on the given Machine; the result is etcd afterwards. -/
def forwardEtcdLeadership (access : EtcdAccess) (etcd : EtcdCluster) (machine : KcpMachine)
    (leaderCandidate : Option KcpMachine) : Except String EtcdCluster :=
  match machine.nodeRef with
  | none => .ok etcd
  | some node =>
    match leaderCandidate with
    | none => .error "leader candidate cannot be nil"
    | some candidate =>
      match candidate.nodeRef with
      | none => .error "leader has no node reference"
      | some candidateNode =>
        match access.controlPlaneNodes with
        | .error error => .error (wrap "failed to list control plane nodes" error)
        | .ok nodeNames =>
          match forLeader access etcd nodeNames with
          | .error error => .error (wrap "failed to create etcd client" error)
          | .ok _ =>
            match access.listLeaderMembers with
            | some error => .error (wrap "failed to list etcd members using etcd client" error)
            | none =>
              if (memberForName etcd.members node).all fun member => member.id ≠ etcd.leader then .ok etcd
              else
                match memberForName etcd.members candidateNode with
                | none => .error ("failed to get etcd member from node " ++ quote candidateNode)
                | some nextLeader =>
                  match access.moveLeader nextLeader.id with
                  | some error => .error (wrap "failed to move leader"
                      (wrap ("failed to move etcd leader: " ++ toString nextLeader.id) error))
                  | none => .ok { etcd with leader := nextLeader.id }

/-! ## Removing a member -/

/-- What may go wrong when a member is removed, besides what may go wrong on the way to etcd. -/
structure MemberRemoval extends EtcdAccess where
  /-- The error of asking the first member that answers for the members. -/
  listFirstMembers : Option String := none
  /-- The answer to the removal; its error has this text. -/
  removeMember : Foundation.Reply := .ok
  removeError : String := ""

namespace EtcdCluster

def remove (etcd : EtcdCluster) (id : UInt64) : EtcdCluster where
  members := etcd.members.filter fun member => member.id ≠ id
  leader := etcd.leader
  distinctIds := etcd.distinctIds.sublist (List.filter_sublist.map _)
  distinctNames := etcd.distinctNames.sublist ((List.filter_sublist.map _).filter _)

end EtcdCluster

/-- The loop of `forFirstAvailableNode`, with the errors so far. -/
def forFirstAvailableNodeLoop (access : EtcdAccess) : List String → List String → Except String PUnit
  | [], errors => .error (wrap "could not establish a connection to any etcd node" (aggregate errors))
  | name :: rest, errors =>
    match access.connect name with
    | some error => forFirstAvailableNodeLoop access rest (errors ++ [error])
    | none => .ok ()

def forFirstAvailableNode (access : EtcdAccess) (nodeNames : List String) : Except String PUnit :=
  if nodeNames = [] then .error "invalid argument: forLeader can't be called with an empty list of nodes"
  else forFirstAvailableNodeLoop access nodeNames []

def errControlPlaneMinNodes : String :=
  "cluster has fewer than 2 control plane nodes; removing an etcd member is not supported"

/-- The result of the call, and etcd afterwards. -/
def removeMemberForNode (removal : MemberRemoval) (etcd : EtcdCluster) (name : String) :
    Except String PUnit × EtcdCluster :=
  match removal.controlPlaneNodes with
  | .error error => (.error error, etcd)
  | .ok controlPlaneNodes =>
    if controlPlaneNodes.length < 2 then (.error errControlPlaneMinNodes, etcd)
    else
      let remainingNodes := controlPlaneNodes.filter fun node => node ≠ name
      match forFirstAvailableNode removal.toEtcdAccess remainingNodes with
      | .error error => (.error (wrap "failed to create etcd client" error), etcd)
      | .ok _ =>
        match removal.listFirstMembers with
        | some error => (.error (wrap "failed to list etcd members using etcd client" error), etcd)
        | none =>
          match memberForName etcd.members name with
          | none => (.ok (), etcd)
          | some member =>
            let error := wrap "failed to remove member from etcd" removal.removeError
            match removal.removeMember with
            | .ok => (.ok (), etcd.remove member.id)
            | .failed => (.error error, etcd)
            | .lost => (.error error, etcd.remove member.id)

/-- A Machine without a Node has nothing to remove. -/
def removeEtcdMemberForMachine (removal : MemberRemoval) (etcd : EtcdCluster)
    (machine : KcpMachine) : Except String PUnit × EtcdCluster :=
  match machine.nodeRef with
  | none => (.ok (), etcd)
  | some node => removeMemberForNode removal etcd node

/-! ## Where the leader is -/

/-- The member runs on the Node of the Machine.  A member that is not started runs nowhere. -/
def Hosts (machine : KcpMachine) (member : EtcdMember) : Prop :=
  machine.nodeRef = some member.name ∧ member.name ≠ ""

def HostsLeader (etcd : EtcdCluster) (machine : KcpMachine) : Prop :=
  ∃ member ∈ etcd.members, member.id = etcd.leader ∧ Hosts machine member

instance (etcd : EtcdCluster) (machine : KcpMachine) : Decidable (HostsLeader etcd machine) :=
  inferInstanceAs (Decidable (∃ member ∈ etcd.members, member.id = etcd.leader ∧ _ ∧ _))

section Leadership

variable {access : EtcdAccess} {etcd after : EtcdCluster} {machine : KcpMachine}
variable {candidate : Option KcpMachine}

theorem memberForName_eq_some {members : List EtcdMember} {member : EtcdMember}
    (distinct : ((members.map EtcdMember.name).filter fun name => name ≠ "").Nodup) (inside : member ∈ members)
    (started : member.name ≠ "") : memberForName members member.name = some member := by
  induction members with
  | nil => cases inside
  | cons first rest ih =>
    rw [memberForName, find?_cons]
    by_cases same : first.name = member.name
    · -- no later member has a name that is taken
      rw [map_cons, filter_cons_of_pos (by simpa [same] using started)] at distinct
      rcases mem_cons.mp inside with rfl | later
      · simp
      · have again : first.name ∈ (rest.map EtcdMember.name).filter fun name => name ≠ "" := by
          rw [same, mem_filter]
          exact ⟨mem_map_of_mem later, by simpa using started⟩
        exact absurd again (nodup_cons.mp distinct).1
    · have later : member ∈ rest := by
        rcases mem_cons.mp inside with rfl | later
        · exact absurd rfl same
        · exact later
      have restDistinct : ((rest.map EtcdMember.name).filter fun name => name ≠ "").Nodup := by
        rw [map_cons, filter_cons] at distinct
        split at distinct
        · exact (nodup_cons.mp distinct).2
        · exact distinct
      simp only [same, decide_false]
      exact ih restDistinct later

theorem eq_of_id_eq {first second : EtcdMember} (firstInside : first ∈ etcd.members)
    (secondInside : second ∈ etcd.members) (same : first.id = second.id) : first = second :=
  inj_on_of_nodup_map etcd.distinctIds firstInside secondInside same

variable (moved : forwardEtcdLeadership access etcd machine candidate = .ok after)
include moved

theorem forwardEtcdLeadership_cases :
    (after = etcd ∧ ∀ node, machine.nodeRef = some node →
      (memberForName etcd.members node).all fun member => member.id ≠ etcd.leader) ∨
    ∃ node candidateNode nextLeader, machine.nodeRef = some node ∧
      candidate.bind KcpMachine.nodeRef = some candidateNode ∧
      (∃ member, memberForName etcd.members node = some member ∧ member.id = etcd.leader) ∧
      memberForName etcd.members candidateNode = some nextLeader ∧ after = { etcd with leader := nextLeader.id } := by
  unfold forwardEtcdLeadership at moved
  split at moved
  case h_1 noNode =>
    cases moved
    refine .inl ⟨rfl, fun node isNode => ?_⟩
    rw [noNode] at isNode
    cases isNode
  case h_2 node isNode =>
    split at moved
    · cases moved
    · split at moved
      · cases moved
      · rename_i candidateNode isCandidateNode
        split at moved
        · cases moved
        · split at moved
          · cases moved
          · split at moved
            · cases moved
            · split_ifs at moved with elsewhere
              · cases moved
                refine .inl ⟨rfl, fun other isOther => ?_⟩
                rw [isNode] at isOther
                cases isOther
                exact elsewhere
              · split at moved
                · cases moved
                · rename_i nextLeader isNext
                  split at moved
                  · cases moved
                  · cases moved
                    refine .inr ⟨node, candidateNode, nextLeader, isNode, isCandidateNode, ?_, isNext, rfl⟩
                    cases found : memberForName etcd.members node with
                    | none => simp [found] at elsewhere
                    | some member => exact ⟨member, rfl, by simpa [found] using elsewhere⟩

theorem forwardEtcdLeadership_ok :
    HostsLeader after machine ↔
      HostsLeader etcd machine ∧ candidate.bind KcpMachine.nodeRef = machine.nodeRef := by
  rcases forwardEtcdLeadership_cases moved with
    ⟨rfl, elsewhere⟩ | ⟨node, candidateNode, nextLeader, isNode, isCandidate, ⟨member, found, leads⟩, isNext, rfl⟩
  · have notHosted : ¬ HostsLeader after machine := by
      rintro ⟨member, inside, leads, onNode, started⟩
      have all := elsewhere member.name onNode
      rw [memberForName_eq_some after.distinctNames inside started] at all
      simp [leads] at all
    simp only [notHosted, false_and]
  · have nextInside : nextLeader ∈ etcd.members := mem_of_find?_eq_some isNext
    have nextName : nextLeader.name = candidateNode := by simpa using find?_some isNext
    have memberName : member.name = node := by simpa using find?_some found
    rw [isCandidate, isNode, Option.some.injEq]
    constructor
    · rintro ⟨leader, inside, isLeader, onNode, started⟩
      have same : leader = nextLeader := eq_of_id_eq inside nextInside isLeader
      rw [isNode, Option.some.injEq] at onNode
      refine ⟨⟨member, mem_of_find?_eq_some found, leads, ?_, ?_⟩, ?_⟩
      · rw [isNode, memberName]
      · rwa [memberName, onNode]
      · rw [← nextName, ← same, onNode]
    · rintro ⟨⟨_, _, _, onNode, _⟩, sameNode⟩
      rw [isNode, Option.some.injEq] at onNode
      refine ⟨nextLeader, nextInside, rfl, ?_, ?_⟩
      · rw [isNode, nextName, sameNode]
      · rwa [nextName, sameNode, onNode]

end Leadership

/-! ## Where a removed member was -/

section Removal

variable {removal : MemberRemoval} {etcd after : EtcdCluster} {machine : KcpMachine}

theorem removeMemberForNode_cases {name : String} (removed : removeMemberForNode removal etcd name = (.ok (), after)) :
    memberForName etcd.members name = none ∧ after = etcd ∨
      ∃ member, memberForName etcd.members name = some member ∧ after = etcd.remove member.id := by
  unfold removeMemberForNode at removed
  split at removed
  · cases removed
  · split at removed
    · cases removed
    · dsimp only at removed
      split at removed
      · cases removed
      · split at removed
        · cases removed
        · split at removed
          case h_1 missing =>
            cases removed
            exact .inl ⟨missing, rfl⟩
          case h_2 member found =>
            split at removed
            · cases removed
              exact .inr ⟨member, found, rfl⟩
            · cases removed
            · cases removed

theorem removeEtcdMemberForMachine_ok (removed : removeEtcdMemberForMachine removal etcd machine = (.ok (), after)) :
    ∀ member ∈ after.members, ¬ Hosts machine member := by
  rintro member inside ⟨onNode, started⟩
  rw [removeEtcdMemberForMachine, onNode] at removed
  rcases removeMemberForNode_cases removed with ⟨missing, rfl⟩ | ⟨_, found, rfl⟩
  · rw [memberForName_eq_some after.distinctNames inside started] at missing
    cases missing
  · have before : member ∈ etcd.members := mem_of_mem_filter inside
    rw [memberForName_eq_some etcd.distinctNames before started] at found
    cases found
    have differs := (mem_filter.mp inside).2
    simp at differs

end Removal

end ClusterApi.ControlPlane

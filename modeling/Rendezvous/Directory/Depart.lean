import Rendezvous.Membership.Ops

/-!
# Departure

A node leaves the directory in two ways. Deregistration is asked for by
the node or an admin; it takes the node out of its networks and clears its
invites, and records a delta. Reaping takes out nodes that have not been
seen for a while; it leaves every membership but the backbone's. Both keep
the node's entries in the key and owner indices, so that it can come back
under its id.
-/

namespace Rendezvous.Directory

open Base Registry Authz Rendezvous.Membership

/-- `RemoveFromNetworks`. -/
def removeFromNetworks (s : Server) (nodeID : NodeId) (nets : List NetId) : Server :=
  let leave (m : GoMap NetId NetworkInfo) (netID : NetId) :=
    m.modify netID fun net => dropMember net nodeID
  { s with networks := nets.foldl leave s.networks }

/-- `ClearInviteInbox`: the node's own inbox, and the invites it sent. -/
def clearInviteInbox (s : Server) (nodeID : NodeId) : Server :=
  let others := s.inviteInbox.del nodeID
  { s with
    inviteInbox := pruneInbox (fun inv => inv.inviterID ≠ nodeID) others }

/-- A hostname leaves the index, unless it is empty. -/
def dropHostname (s : Server) (hostname : String) : Server :=
  if hostname = "" then s
  else { s with hostnameIdx := s.hostnameIdx.del hostname }

/-- The record leaves the directory. -/
def dropNode (s : Server) (nodeID : NodeId) : Server :=
  { s with nodes := s.nodes.del nodeID }

/-- What deregistering a registered node does. -/
def departNode (s : Server) (nodeID : NodeId) (n : NodeInfo) : Server :=
  dropNode (dropHostname
    (clearInviteInbox (removeFromNetworks s nodeID n.networks) nodeID)
    n.hostname) nodeID

/-- `HandleDeregister`. A node that is not there is answered as if it had
just left. -/
def handleDeregister (E : Env) (s : Server) (msg : Msg) : Except String Outcome :=
  let nodeID := msg.jsonUint32 "node_id"
  let resp : Resp := [("type", .str "deregister_ok")]
  match s.nodes.get nodeID with
  | none => .ok { server := s, resp := resp }
  | some n => do
    signedOrAdmin E n msg s!"deregister:{nodeID}"
    return {
      server := departNode s nodeID n
      resp := resp
      wal := [.deregister nodeID] }

/-- A deregistration answers that nothing was there, or takes the record out
and records the id. -/
theorem deregister_cases {E : Env} {s : Server} {msg : Msg} {o : Outcome}
    (h : handleDeregister E s msg = .ok o) :
    (o.server = s ∧ o.wal = []) ∨ ∃ n, s.nodes.get (msg.jsonUint32 "node_id") = some n ∧
        o.server = departNode s (msg.jsonUint32 "node_id") n ∧
        o.wal = [.deregister (msg.jsonUint32 "node_id")] := by
  unfold handleDeregister at h
  cases hnode : s.nodes.get (msg.jsonUint32 "node_id") with
  | none =>
    simp only [hnode, Except.ok.injEq] at h
    subst h
    exact Or.inl ⟨rfl, rfl⟩
  | some n =>
    simp only [hnode, bind_eq_ok, pure_eq_ok] at h
    obtain ⟨_, _, rfl⟩ := h
    exact Or.inr ⟨n, rfl, rfl, rfl⟩

/-- One candidate of `reapStaleNodes`: a node not seen since `threshold`
leaves the backbone, the hostname index and the directory. -/
def reapNode (threshold : Time) (s : Server) (nodeID : NodeId) : Server :=
  match s.nodes.get nodeID with
  | none => s
  | some n =>
    if n.getLastSeen < threshold then
      let s := { s with networks := s.networks.modify 0 fun net =>
        { net with members := net.members.erase nodeID } }
      dropNode (dropHostname s n.hostname) nodeID
    else s

/-- `reapStaleNodes`, over the ids of the chunk the cursor points at. -/
def reapStaleNodes (threshold : Time) (chunk : List NodeId) (s : Server) : Server :=
  chunk.foldl (reapNode threshold) s

end Rendezvous.Directory

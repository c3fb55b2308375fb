import Rendezvous.Persist.Snapshot

/-!
# Replication to a standby

The primary pushes its state as a snapshot (`snapshotJSON`), and a standby
replaces its own state by it (`applySnapshot`). The pushed snapshot is not
the file: it has no key index, no rules or expression policy, and no
client version. The standby rebuilds all three indices from the node
records alone; of two records with one hostname the first one it meets
keeps it.

Terms are left out: the snapshot is one the standby accepts.
-/

namespace Rendezvous.Persist

open Base Registry Directory Wal

/-- `snapshotJSON`. -/
def snapshotJSON (s : Server) : Snapshot where
  nextNode := s.nextNode
  nextNet := s.nextNet
  nodes := s.nodes.mapVals fun _ n =>
    { saveNode n with lastSeen := rfc3339 n.lastSeen, version := "" }
  networks := s.networks.mapVals fun _ net =>
    { saveNet net with rules := none, exprPolicy := none }
  trustPairs := s.trust.pairs
  pubKeyIdx := ∅
  handshakeInbox := s.trust.inbox
  handshakeResponses := s.trust.responses
  inviteInbox := s.inviteInbox
  rbacPreAssign := s.rbacPreAssign

/-- The record a standby keeps of a pushed node. The atomic last-seen value
and the version stay unset. -/
def replicaNode (sn : SnapshotNode) (key : Bytes) : NodeInfo :=
  { loadedNode sn key with version := "", lastSeenNano := 0 }

/-- The record enters, and so does its hostname unless another record has
it. -/
def fileReplica (s : Server) (id : NodeId) (n : NodeInfo) : Server :=
  if n.hostname ≠ "" && (s.hostnameIdx.get n.hostname).any fun other =>
      other ≠ id then
    { s with nodes := s.nodes.set id { n with hostname := "" } }
  else indexHostname { s with nodes := s.nodes.set id n } n.hostname id

/-- One pass of the standby's loop over the pushed nodes. -/
def replicateNode (snap : Snapshot) (s : Server) (id : NodeId) : Server :=
  match snap.nodes.get id with
  | none => s
  | some sn =>
    match Base64.decode sn.publicKey with
    | none => s
    | some key =>
      let s := { s with pubKeyIdx := s.pubKeyIdx.set sn.publicKey id }
      fileReplica (indexOwner s sn.owner id) id (replicaNode sn key)

/-- `applySnapshot`: the order in which it meets the nodes, the standby's
state, and the pushed snapshot. Trust pairs and handshake queues the
standby has are kept; so are its role pre-assignments when none are
pushed. -/
def applySnapshot (order : List NodeId) (s : Server) (snap : Snapshot) : Server :=
  let built := order.foldl (replicateNode snap)
    { nextNode := snap.nextNode, nextNet := snap.nextNet }
  let pending := pendingOf (withoutZero snap.handshakeInbox)
  { built with
    networks := snap.networks.mapVals fun id sn =>
      { loadedNet id sn with rules := none, exprPolicy := none }
    inviteInbox := withoutZero snap.inviteInbox
    rbacPreAssign := if snap.rbacPreAssign = ∅ then s.rbacPreAssign
      else snap.rbacPreAssign
    trust := {
      pairs := s.trust.pairs ∪ snap.trustPairs
      inbox := (withoutZero snap.handshakeInbox).union s.trust.inbox
      responses := (withoutZero snap.handshakeResponses).union s.trust.responses
      pending := (pending.mapVals fun id froms =>
        froms ∪ (s.trust.pending.get id).getD ∅).union s.trust.pending }
    consumedNonces := s.consumedNonces }

end Rendezvous.Persist

import Rendezvous.Wal.Apply

/-!
# The snapshot file

`save` is the state copy and encoding of `flushSave`; `load` is what
`load` makes of the file. A time is written to the second, and the zero
time is left out. The file has the whole key index but no owner or
hostname index, no nonce ledger and no signature latch: `load` rebuilds
the first two from the node records.

The loader ranges over the node records in an order the language does not
fix, and of two records with one key, owner or hostname the later one
keeps the index entry; `order` is the order it met them in.

Statistics, history and audit records are not part of the state.
-/

namespace Rendezvous.Persist

open Base Registry Directory Wal

/-! ## The file's records -/

/-- One node in the file. A time is absent when it is zero. -/
structure SnapshotNode where
  owner : String
  publicKey : String
  realAddr : String
  networks : List NetId
  isPublic : Bool
  lastSeen : Time
  hostname : String
  tags : List String
  taskExec : Bool
  lanAddrs : List String
  keyCreated : Option Time
  keyRotated : Option Time
  keyRotCount : Nat
  keyExpires : Option Time
  externalID : String
  version : String
  relayOnly : Bool
  badge : String
  badgeSig : String
  verificationProvider : String
  verifiedAt : Option Time
  recoveryCommitment : String
  recoveryProvider : String
  recoveryConsumedNonce : String
  recoveryConsumedExp : Option Time
  deriving DecidableEq

/-- One network in the file. The policy is absent when it says nothing. -/
structure SnapshotNet where
  name : String
  joinRule : String
  token : String
  members : List NodeId
  memberRoles : GoMap NodeId Role
  memberTags : GoMap NodeId (List String)
  adminToken : String
  policy : Option NetworkPolicy
  rules : Option NetworkRules
  exprPolicy : Option String
  enterprise : Bool
  created : Time
  deriving DecidableEq

/-- The file. -/
structure Snapshot where
  nextNode : NodeId
  nextNet : NetId
  nodes : GoMap NodeId SnapshotNode
  networks : GoMap NetId SnapshotNet
  trustPairs : Finset (NodeId × NodeId)
  pubKeyIdx : GoMap String NodeId
  handshakeInbox : GoMap NodeId (List HandshakeRelayMsg)
  handshakeResponses : GoMap NodeId (List HandshakeResponseMsg)
  inviteInbox : GoMap NodeId (List NetworkInvite)
  rbacPreAssign : GoMap NetId (List BlueprintRole)
  deriving DecidableEq

/-! ## Raw JSON -/

/-- The double quote. -/
def quoteChar : Char := Char.ofNat 34

/-- The backslash. -/
def escapeChar : Char := Char.ofNat 92

/-- Whitespace between JSON tokens. -/
def isJsonSpace (c : Char) : Bool :=
  c.toNat = 32 || c.toNat = 9 || c.toNat = 10 || c.toNat = 13

/-- The characters without the whitespace outside strings. The flags say
whether the scanner is in a string, and right after a backslash there. -/
def compactChars (inString escaped : Bool) : List Char → List Char
  | [] => []
  | c :: cs =>
    if inString then
      c :: compactChars (escaped || c ≠ quoteChar) (!escaped && c = escapeChar) cs
    else if isJsonSpace c then compactChars false false cs
    else c :: compactChars (c = quoteChar) false cs

/-- What the encoder makes of a raw JSON text. -/
def compactJSON (doc : String) : String :=
  String.ofList (compactChars false false doc.toList)

/-! ## Saving -/

/-- A time in the file, absent when it is the zero time. -/
def savedTime (t : Time) : Option Time :=
  if t = zeroTime then none else some (rfc3339 t)

def saveNode (n : NodeInfo) : SnapshotNode where
  owner := n.owner
  publicKey := Base64.encode n.publicKey
  realAddr := n.realAddr
  networks := n.networks
  isPublic := n.isPublic
  lastSeen := rfc3339 n.getLastSeen
  hostname := n.hostname
  tags := n.tags
  taskExec := n.taskExec
  lanAddrs := n.lanAddrs
  keyCreated := savedTime n.keyMeta.createdAt
  keyRotated := savedTime n.keyMeta.rotatedAt
  keyRotCount := n.keyMeta.rotateCount
  keyExpires := savedTime n.keyMeta.expiresAt
  externalID := n.externalID
  version := n.version
  relayOnly := n.relayOnly
  badge := n.badge
  badgeSig := n.badgeSig
  verificationProvider := n.verificationProvider
  verifiedAt := savedTime n.verifiedAt
  recoveryCommitment := n.recoveryCommitment
  recoveryProvider := n.recoveryProvider
  recoveryConsumedNonce := n.recoveryConsumedNonce
  recoveryConsumedExp := savedTime n.recoveryConsumedExp

/-- The policy is written when one of its fields is set. -/
def savedPolicy (p : NetworkPolicy) : Option NetworkPolicy :=
  if p.maxMembers ≠ 0 ∨ p.allowedPorts ≠ [] ∨ p.description ≠ "" then some p
  else none

/-- A raw document is written compacted; an empty one is left out. -/
def savedDocument (doc : Option String) : Option String :=
  (doc.filter fun text => text ≠ "").map compactJSON

def saveNet (net : NetworkInfo) : SnapshotNet where
  name := net.name
  joinRule := net.joinRule
  token := net.token
  members := net.members
  memberRoles := net.memberRoles.getD ∅
  memberTags := net.memberTags
  adminToken := net.adminToken
  policy := savedPolicy net.policy
  rules := net.rules
  exprPolicy := savedDocument net.exprPolicy
  enterprise := net.enterprise
  created := rfc3339 net.created

/-- The file `flushSave` writes. -/
def save (s : Server) : Snapshot where
  nextNode := s.nextNode
  nextNet := s.nextNet
  nodes := s.nodes.mapVals fun _ n => saveNode n
  networks := s.networks.mapVals fun _ net => saveNet net
  trustPairs := s.trust.pairs
  pubKeyIdx := s.pubKeyIdx
  handshakeInbox := s.trust.inbox
  handshakeResponses := s.trust.responses
  inviteInbox := s.inviteInbox
  rbacPreAssign := s.rbacPreAssign

/-! ## Loading -/

/-- The record a file entry describes. -/
def loadedNode (sn : SnapshotNode) (key : Bytes) : NodeInfo where
  owner := sn.owner
  publicKey := key
  realAddr := sn.realAddr
  networks := sn.networks
  lastSeen := sn.lastSeen
  isPublic := sn.isPublic
  hostname := sn.hostname
  tags := sn.tags
  taskExec := sn.taskExec
  lanAddrs := sn.lanAddrs
  keyMeta := {
    createdAt := sn.keyCreated.getD zeroTime
    rotatedAt := sn.keyRotated.getD zeroTime
    rotateCount := sn.keyRotCount
    expiresAt := sn.keyExpires.getD zeroTime }
  externalID := sn.externalID
  version := sn.version
  relayOnly := sn.relayOnly
  badge := sn.badge
  badgeSig := sn.badgeSig
  verificationProvider := sn.verificationProvider
  verifiedAt := sn.verifiedAt.getD zeroTime
  recoveryCommitment := sn.recoveryCommitment
  recoveryProvider := sn.recoveryProvider
  recoveryConsumedNonce := sn.recoveryConsumedNonce
  recoveryConsumedExp := sn.recoveryConsumedExp.getD zeroTime
  lastSeenNano := sn.lastSeen

/-- One pass of the loader's loop over the nodes. A record whose key is not
base64 is skipped. -/
def loadNode (snap : Snapshot) (s : Server) (id : NodeId) : Server :=
  match snap.nodes.get id with
  | none => s
  | some sn =>
    match Base64.decode sn.publicKey with
    | none => s
    | some key =>
      let s := { s with
        nodes := s.nodes.set id (loadedNode sn key)
        pubKeyIdx := s.pubKeyIdx.set sn.publicKey id }
      indexHostname (indexOwner s sn.owner id) sn.hostname id

/-- The roles of a network from a file without roles: the first member
becomes the owner, the others plain members. -/
def backfilledRoles : List NodeId → GoMap NodeId Role
  | [] => ∅
  | m :: ms => ms.foldl (fun roles x => roles.set x .member)
      ((∅ : GoMap NodeId Role).set m .owner)

/-- The roles the loader gives a network: those in the file, or the
backfill when there are none and the network is not the backbone. -/
def loadedRoles (netID : NetId) (sn : SnapshotNet) : GoMap NodeId Role :=
  if sn.memberRoles = ∅ ∧ netID ≠ 0 then backfilledRoles sn.members
  else sn.memberRoles

def loadedNet (netID : NetId) (sn : SnapshotNet) : NetworkInfo where
  name := sn.name
  joinRule := sn.joinRule
  token := sn.token
  members := sn.members
  memberRoles := some (loadedRoles netID sn)
  memberTags := sn.memberTags
  adminToken := sn.adminToken
  policy := sn.policy.getD {}
  rules := sn.rules
  exprPolicy := sn.exprPolicy
  enterprise := sn.enterprise
  created := sn.created

/-- The pending requests of an inbox: who asked. -/
def pendingOf (inbox : GoMap NodeId (List HandshakeRelayMsg)) : GoMap NodeId (Finset NodeId) :=
  inbox.filterMap fun _ msgs =>
    if msgs = [] then none
    else some (msgs.map HandshakeRelayMsg.fromNodeID).toFinset

/-- An inbox without the queue of the reserved id zero. -/
def withoutZero {V : Type} (inbox : GoMap NodeId V) : GoMap NodeId V :=
  inbox.filter fun id _ => id ≠ 0

/-- `load`, on a file that was read: the order in which it meets the
nodes, and the file. -/
def load (order : List NodeId) (snap : Snapshot) : Server :=
  let s := order.foldl (loadNode snap)
    { nextNode := snap.nextNode, nextNet := snap.nextNet }
  { s with
    networks := snap.networks.mapVals loadedNet
    pubKeyIdx := s.pubKeyIdx.union snap.pubKeyIdx
    trust := {
      pairs := snap.trustPairs
      inbox := withoutZero snap.handshakeInbox
      responses := withoutZero snap.handshakeResponses
      pending := pendingOf (withoutZero snap.handshakeInbox) }
    inviteInbox := withoutZero snap.inviteInbox
    rbacPreAssign := snap.rbacPreAssign }

/-- The orders in which a loop can meet the entries of a map. -/
def IsOrder {V : Type} (order : List NodeId) (m : GoMap NodeId V) : Prop :=
  order.Nodup ∧ ∀ id, id ∈ order ↔ m.get id ≠ none

end Rendezvous.Persist

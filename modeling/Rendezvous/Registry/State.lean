import Rendezvous.Base.GoMap
import Rendezvous.Registry.Message

/-!
# The registry's state

The records the registry keeps in memory, with the words of the source.
A node or network record is held under its own id, so the `ID` field of
the source's records is the key of the map here. A time is a number of
nanoseconds since 1970; the zero time of the source is `zeroTime`.
-/

namespace Rendezvous.Registry

open Base

/-- A byte string. -/
abbrev Bytes := List UInt8

/-- A moment, in nanoseconds since 1970. -/
abbrev Time := Int

/-- `time.Time{}`: the first instant of year one. -/
def zeroTime : Time := -62135596800000000000

/-- Nanoseconds in a second. -/
def second : Int := 1000000000

/-- `t.Unix()`, as a JSON number. -/
def unixSeconds (t : Time) : Json := .num ((t / second : Int) : Rat)

/-- A member's permission level within a network. -/
inductive Role where
  | owner
  | admin
  | member
  deriving DecidableEq

/-- The string constant of a role. -/
def Role.text : Role → String
  | .owner => "owner"
  | .admin => "admin"
  | .member => "member"

/-- Key lifecycle metadata of a node. `rotateCount` counts without a bound;
the `int` of the source is `generation`. -/
structure KeyInfo where
  createdAt : Time := zeroTime
  rotatedAt : Time := zeroTime
  rotateCount : Nat := 0
  expiresAt : Time := zeroTime
  deriving DecidableEq

/-- A count in an `int`, which wraps at `2 ^ 63`. -/
def goInt (n : Nat) : Int := (n : Int).bmod (2 ^ 64)

/-- `RotateCount`, as it is read. -/
def KeyInfo.generation (k : KeyInfo) : Int := goInt k.rotateCount

/-- One registered node. -/
structure NodeInfo where
  owner : String := ""
  publicKey : Bytes
  realAddr : String := ""
  networks : List NetId
  lastSeen : Time := zeroTime
  isPublic : Bool := false
  hostname : String := ""
  tags : List String := []
  taskExec : Bool := false
  lanAddrs : List String := []
  keyMeta : KeyInfo := {}
  externalID : String := ""
  version : String := ""
  relayOnly : Bool := false
  sigVerified : Bool := false
  badge : String := ""
  badgeSig : String := ""
  verificationProvider : String := ""
  verifiedAt : Time := zeroTime
  recoveryCommitment : String := ""
  recoveryProvider : String := ""
  recoveryConsumedNonce : String := ""
  recoveryConsumedExp : Time := zeroTime
  lastSeenNano : Int := 0
  deriving DecidableEq

/-- `GetLastSeen`: the atomic value when it is set, the field otherwise. -/
def NodeInfo.getLastSeen (n : NodeInfo) : Time :=
  if n.lastSeenNano > 0 then n.lastSeenNano else n.lastSeen

/-- `SetLastSeen`. -/
def NodeInfo.setLastSeen (n : NodeInfo) (t : Time) : NodeInfo :=
  { n with lastSeen := t, lastSeenNano := t }

/-- Constraints and metadata of a network. -/
structure NetworkPolicy where
  maxMembers : Int := 0
  allowedPorts : List UInt16 := []
  description : String := ""
  deriving DecidableEq

/-- A managed network's rules document, as the wire library parsed it. -/
structure NetworkRules where
  document : String
  deriving DecidableEq

/-- One network. `memberRoles` is `none` where the source's map is nil. -/
structure NetworkInfo where
  name : String
  joinRule : String
  token : String := ""
  members : List NodeId
  memberRoles : Option (GoMap NodeId Role) := some ∅
  memberTags : GoMap NodeId (List String) := ∅
  adminToken : String := ""
  policy : NetworkPolicy := {}
  rules : Option NetworkRules := none
  exprPolicy : Option String := none
  enterprise : Bool := false
  created : Time := zeroTime
  deriving DecidableEq

/-- `network.MemberRoles[id]`: reading a nil map finds nothing. -/
def NetworkInfo.role (net : NetworkInfo) (id : NodeId) : Option Role :=
  (net.memberRoles.getD ∅).get id

/-- The backbone network, as a registry started without a snapshot creates
it. -/
def backbone (now : Time) : NetworkInfo where
  name := "backbone"
  joinRule := "open"
  members := []
  memberRoles := none
  created := now

/-- A pending invitation in a node's inbox. -/
structure NetworkInvite where
  networkID : NetId
  inviterID : NodeId
  timestamp : Time
  deriving DecidableEq

/-- A role kept for an external identity until its node joins. -/
structure BlueprintRole where
  externalID : String
  role : String
  deriving DecidableEq

/-- A handshake request waiting in the relay inbox. -/
structure HandshakeRelayMsg where
  fromNodeID : NodeId
  justification : String
  timestamp : Time
  deriving DecidableEq

/-- An answer to a handshake, waiting for the node that asked. -/
structure HandshakeResponseMsg where
  fromNodeID : NodeId
  accept : Bool
  timestamp : Time
  deriving DecidableEq

/-- The trust store: the pairs, each with its smaller id first, and the
handshake relay. -/
structure TrustStore where
  pairs : Finset (NodeId × NodeId) := ∅
  inbox : GoMap NodeId (List HandshakeRelayMsg) := ∅
  responses : GoMap NodeId (List HandshakeResponseMsg) := ∅
  pending : GoMap NodeId (Finset NodeId) := ∅
  deriving DecidableEq

/-- The registry in memory. -/
structure Server where
  nodes : GoMap NodeId NodeInfo := ∅
  pubKeyIdx : GoMap String NodeId := ∅
  ownerIdx : GoMap String NodeId := ∅
  hostnameIdx : GoMap String NodeId := ∅
  nextNode : NodeId := 1
  networks : GoMap NetId NetworkInfo := ∅
  nextNet : NetId := 1
  inviteInbox : GoMap NodeId (List NetworkInvite) := ∅
  rbacPreAssign : GoMap NetId (List BlueprintRole) := ∅
  trust : TrustStore := {}
  consumedNonces : GoMap String Time := ∅
  deriving DecidableEq

end Rendezvous.Registry

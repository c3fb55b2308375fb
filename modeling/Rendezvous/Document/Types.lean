import Rendezvous.Base.Json.Reflect

/-!
# The snapshot as a Go value

The records of a snapshot with the tags they are declared with: names,
order of the fields, `omitempty`. Go strings are byte strings, and a slice,
map or pointer may be nil. What other modules declare (the rules of a
managed network, the blueprint types) is any value.
-/

namespace Rendezvous.Document

open Base Base.Json

/-- A slice, nil or not. -/
abbrev Slice (α : Type) := Option (List α)

/-- A map with string keys, nil or not. -/
abbrev Table (α : Type) := Option (GoMap Text α)

/-- A pointer, nil or not. -/
abbrev Ptr (α : Type) := Option α

/-- `len` of a slice. -/
def Slice.len {α : Type} (s : Slice α) : Nat := (s.getD []).length

/-- `len` of a map. -/
def Table.len {α : Type} (m : Table α) : Nat := (m.getD ∅).size

section reflection

variable {α : Type} (f : α → Value)

def Slice.reflect : Slice α → Value
  | none => .null
  | some items => .slice (items.map f)

def Table.reflect : Table α → Value
  | none => .null
  | some m => .map (m.sorted.map fun e => (e.1, f e.2))

def Ptr.reflect : Ptr α → Value
  | none => .null
  | some a => .ptr (f a)

end reflection

/-- A time, by what its `MarshalJSON` returns: the literal of an RFC 3339
text, or an error where the format does not apply (a year of more than four
digits, an offset of a day or more). -/
structure Time where
  rfc3339 : Option StrLit

def Time.reflect (t : Time) : Value :=
  .marshaler (t.rfc3339.map fun lit => print (.str lit))

def reflectUint16 (n : UInt16) : Value := .int n.toNat
def reflectUint32 (n : UInt32) : Value := .int n.toNat

/-! ## Networks -/

structure NetworkPolicy where
  maxMembers : Int
  allowedPorts : Slice UInt16
  description : Text

def NetworkPolicy.reflect (p : NetworkPolicy) : Value :=
  .struct
    [(bytes "max_members", false, .int p.maxMembers),
     (bytes "allowed_ports", false, p.allowedPorts.reflect reflectUint16),
     (bytes "description", false, .string p.description)]

structure SnapshotNet where
  id : UInt16
  name : Text
  joinRule : Text
  token : Text
  members : Slice UInt32
  memberRoles : Table Text
  memberTags : Table (Slice Text)
  adminToken : Text
  policy : Ptr NetworkPolicy
  rules : Ptr Value
  exprPolicy : Option Text
  enterprise : Bool
  requestCount : Int
  created : Text

def SnapshotNet.reflect (n : SnapshotNet) : Value :=
  .struct
    [(bytes "id", false, reflectUint16 n.id), (bytes "name", false, .string n.name),
     (bytes "join_rule", false, .string n.joinRule),
     (bytes "token", true, .string n.token),
     (bytes "members", false, n.members.reflect reflectUint32),
     (bytes "member_roles", true, n.memberRoles.reflect .string),
     (bytes "member_tags", true, n.memberTags.reflect (Slice.reflect .string)),
     (bytes "admin_token", true, .string n.adminToken),
     (bytes "policy", true, n.policy.reflect NetworkPolicy.reflect),
     (bytes "rules", true, n.rules.reflect fun v => v),
     (bytes "expr_policy", true, .raw n.exprPolicy),
     (bytes "enterprise", true, .bool n.enterprise),
     (bytes "request_count", true, .int n.requestCount),
     (bytes "created", false, .string n.created)]

/-! ## Inboxes -/

structure HandshakeRelayMsg where
  fromNodeID : UInt32
  justification : Text
  timestamp : Time

def HandshakeRelayMsg.reflect (m : HandshakeRelayMsg) : Value :=
  .struct
    [(bytes "from_node_id", false, reflectUint32 m.fromNodeID),
     (bytes "justification", false, .string m.justification),
     (bytes "timestamp", false, m.timestamp.reflect)]

structure HandshakeResponseMsg where
  fromNodeID : UInt32
  accept : Bool
  timestamp : Time

def HandshakeResponseMsg.reflect (m : HandshakeResponseMsg) : Value :=
  .struct
    [(bytes "from_node_id", false, reflectUint32 m.fromNodeID),
     (bytes "accept", false, .bool m.accept),
     (bytes "timestamp", false, m.timestamp.reflect)]

structure NetworkInvite where
  networkID : UInt16
  inviterID : UInt32
  timestamp : Time

def NetworkInvite.reflect (i : NetworkInvite) : Value :=
  .struct
    [(bytes "network_id", false, reflectUint16 i.networkID),
     (bytes "inviter_id", false, reflectUint32 i.inviterID),
     (bytes "timestamp", false, i.timestamp.reflect)]

/-! ## Statistics and audit log -/

structure ProbeState where
  lastSuccess : Int
  downtimeIntervals : Slice (Int × Int)
  currentDownStart : Int

/-- A `[2]int64`. -/
def reflectInterval (i : Int × Int) : Value := .array [.int i.1, .int i.2]

def ProbeState.reflect (p : ProbeState) : Value :=
  .struct
    [(bytes "last_success", true, .int p.lastSuccess),
     (bytes "downtime_intervals", true, p.downtimeIntervals.reflect reflectInterval),
     (bytes "current_down_start", true, .int p.currentDownStart)]

structure StatsSample where
  timestamp : Int
  totalNodes : Int
  onlineNodes : Int
  trustLinks : Int
  totalRequests : Int

def StatsSample.reflect (s : StatsSample) : Value :=
  .struct
    [(bytes "ts", false, .int s.timestamp), (bytes "total_nodes", false, .int s.totalNodes),
     (bytes "online_nodes", false, .int s.onlineNodes),
     (bytes "trust_links", true, .int s.trustLinks),
     (bytes "total_requests", false, .int s.totalRequests)]

structure NetworkSampleEntry where
  timestamp : Int
  id : UInt16
  name : Text
  members : Int
  online : Int
  requests : Int

def NetworkSampleEntry.reflect (e : NetworkSampleEntry) : Value :=
  .struct
    [(bytes "ts", false, .int e.timestamp), (bytes "id", false, reflectUint16 e.id),
     (bytes "name", false, .string e.name),
     (bytes "members", false, .int e.members),
     (bytes "online", false, .int e.online),
     (bytes "requests", false, .int e.requests)]

structure AuditEntry where
  timestamp : Text
  action : Text
  networkID : UInt16
  nodeID : UInt32
  details : Text
  prevHash : Text
  hash : Text

def AuditEntry.reflect (e : AuditEntry) : Value :=
  .struct
    [(bytes "timestamp", false, .string e.timestamp), (bytes "action", false, .string e.action),
     (bytes "network_id", true, reflectUint16 e.networkID),
     (bytes "node_id", true, reflectUint32 e.nodeID),
     (bytes "details", true, .string e.details),
     (bytes "prev_hash", true, .string e.prevHash),
     (bytes "hash", true, .string e.hash)]

/-! ## Nodes -/

structure SnapshotNode where
  id : UInt32
  owner : Text
  publicKey : Text
  realAddr : Text
  networks : Slice UInt16
  isPublic : Bool
  lastSeen : Text
  hostname : Text
  tags : Slice Text
  taskExec : Bool
  lanAddrs : Slice Text
  keyCreated : Text
  keyRotated : Text
  keyRotCount : Int
  keyExpires : Text
  externalID : Text
  version : Text
  relayOnly : Bool
  badge : Text
  badgeSig : Text
  verificationProvider : Text
  verifiedAt : Text
  recoveryCommitment : Text
  recoveryProvider : Text
  recoveryConsumedNonce : Text
  recoveryConsumedExp : Text

def SnapshotNode.reflect (n : SnapshotNode) : Value :=
  .struct
    [(bytes "id", false, reflectUint32 n.id), (bytes "owner", true, .string n.owner),
     (bytes "public_key", false, .string n.publicKey),
     (bytes "real_addr", true, .string n.realAddr),
     (bytes "networks", false, n.networks.reflect reflectUint16),
     (bytes "public", true, .bool n.isPublic),
     (bytes "last_seen", true, .string n.lastSeen),
     (bytes "hostname", true, .string n.hostname),
     (bytes "tags", true, n.tags.reflect .string),
     (bytes "task_exec", true, .bool n.taskExec),
     (bytes "lan_addrs", true, n.lanAddrs.reflect .string),
     (bytes "key_created", true, .string n.keyCreated),
     (bytes "key_rotated", true, .string n.keyRotated),
     (bytes "key_rot_count", true, .int n.keyRotCount),
     (bytes "key_expires", true, .string n.keyExpires),
     (bytes "external_id", true, .string n.externalID),
     (bytes "version", true, .string n.version),
     (bytes "relay_only", true, .bool n.relayOnly),
     (bytes "badge", true, .string n.badge),
     (bytes "badge_sig", true, .string n.badgeSig),
     (bytes "verification_provider", true, .string n.verificationProvider),
     (bytes "verified_at", true, .string n.verifiedAt),
     (bytes "recovery_commitment", true, .string n.recoveryCommitment),
     (bytes "recovery_provider", true, .string n.recoveryProvider),
     (bytes "recovery_consumed_nonce", true, .string n.recoveryConsumedNonce),
     (bytes "recovery_consumed_exp", true, .string n.recoveryConsumedExp)]

/-- `SnapshotNodes`. -/
abbrev SnapshotNodes := Table (Ptr SnapshotNode)

/-! ## The snapshot -/

structure Snapshot where
  version : Int
  nextNode : UInt32
  nextNet : UInt16
  nodes : SnapshotNodes
  networks : Table (Ptr SnapshotNet)
  trustPairs : Option Text
  pubKeyIdx : Table UInt32
  handshakeInbox : Table (Slice (Ptr HandshakeRelayMsg))
  handshakeResponses : Table (Slice (Ptr HandshakeResponseMsg))
  inviteInbox : Table (Slice (Ptr NetworkInvite))
  totalRequests : Int
  totalNodes : Int
  onlineNodes : Int
  trustLinks : Int
  uniqueTags : Int
  taskExecutors : Int
  startTime : Text
  restartEvents : Slice Int
  downtimeIntervals : Slice (Int × Int)
  lastHeartbeat : Int
  probeStates : Table (Ptr ProbeState)
  hourlyHistory : Slice StatsSample
  dailyHistory : Slice StatsSample
  netHourlyHistory : Table (Slice NetworkSampleEntry)
  netDailyHistory : Table (Slice NetworkSampleEntry)
  auditLog : Slice AuditEntry
  idpConfig : Ptr Value
  auditExportCfg : Ptr Value
  rbacPreAssign : Table (Slice Value)
  term : UInt64
  checksum : Text

end Rendezvous.Document

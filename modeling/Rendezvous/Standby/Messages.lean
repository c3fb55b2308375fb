import Rendezvous.Lifecycle.World
import Rendezvous.Standby.Reads

/-!
# A registry in standby mode

A standby follows the registry whose snapshots it is sent. Of the messages
it gets itself it lets a list of commands through, which are to be reads,
and refuses the others. The binary messages are not behind this gate, except
for the JSON messages sent in frames.
-/

namespace Rendezvous.Standby

open Base Registry Authz Trust Rendezvous.Membership Lifecycle Disclosure

/-! ## The state -/

/-- The position of a breaker. -/
inductive BreakerState where
  | closed
  | halfOpen
  | opened
  deriving DecidableEq

/-- A breaker, and the reason the operator gave. -/
structure Breaker where
  state : BreakerState
  reason : String := ""
  deriving DecidableEq

/-- A registry in standby mode, with what the process keeps beside it.
`verified` is `LastVerifiedNano` of the records. -/
structure Station where
  server : Server
  verified : GoMap NodeId Time := ∅
  listings : Listings := {}
  beacons : GoMap NodeId Beacon := ∅
  auditLog : List AuditEntry := []
  webhook : Option Webhook := none
  auditExport : Option AuditExport := none
  idp : Option IdentityProvider := none
  breakers : GoMap String Breaker := ∅
  replicationToken : String := ""

/-- The orders in which maps are gone through. -/
structure Orders where
  nodes : List NodeId := []
  networks : List NetId := []
  beacons : List NodeId := []

/-- `maxAuditEntries`. -/
def maxAuditEntries : Nat := 1000

/-- `appendAudit`: the oldest entry makes room. -/
def Station.audit (st : Station) (e : AuditEntry) : Station :=
  { st with auditLog :=
    (if st.auditLog.length ≥ maxAuditEntries then st.auditLog.tail else st.auditLog) ++ [e] }

/-- What the binary messages of a standby are given besides. -/
structure StationEnv extends ReadEnv where
  /-- `wire.DecodeHeartbeatReq`. -/
  decodeHeartbeatReq : Bytes → Except String (NodeId × Bytes)
  /-- `wire.EncodeHeartbeatResp`: the time, and whether the key expires
  soon. -/
  encodeHeartbeatResp : Int → Bool → Bytes
  /-- `json.Unmarshal` of a message. -/
  unmarshal : Bytes → Except String Msg

/-! ## Heartbeats -/

/-- The key of a record expires within a day. -/
def expiresSoon (expiresAt now : Time) : Bool :=
  expiresAt ≠ zeroTime && expiresAt < now + day

/-- A heartbeat of a node that is there. It stores when the signature was
checked, and when the node was seen; the answer tells whether its key
expires soon. -/
def Station.beat (E : StationEnv) (now : Time) (st : Station) (b : Beat) (nodeID : NodeId)
    (n : NodeInfo) (audited : Bool) : Station × Except String Bool :=
  let skip := skipVerify E.toNodeEnv st.verified now nodeID
  match (if skip then .ok () else verifyBeat E.toNodeEnv now nodeID n.publicKey b) with
  | .error e => (st, .error e)
  | .ok _ =>
    let st := { st with
      verified := if skip then st.verified else st.verified.set nodeID now }
    let expiresAt := n.keyMeta.expiresAt
    if keyExpired expiresAt now then
      let expiry := E.formatTime expiresAt
      (if audited then st.audit {
          timestamp := E.formatTime now, action := "key.expired_heartbeat_blocked"
          nodeID := nodeID }
        else st, .error s!"node {nodeID}: key expired at {expiry}")
    else
      ({ st with server := { st.server with
        nodes := st.server.nodes.modify nodeID fun n => { n with lastSeenNano := now } } },
        .ok (expiresSoon expiresAt now))

/-- `buildHeartbeatOk`. -/
def heartbeatResp (now : Time) (warning : Bool) : Resp :=
  fieldsIf warning [("key_expiry_warning", .bool true)] ++
    [("time", unixSeconds now), ("type", .str "heartbeat_ok")]

/-- `HandleHeartbeat`. -/
def Station.handleHeartbeat (E : StationEnv) (now : Time) (st : Station) (msg : Msg) :
    Station × Except String Resp :=
  let nodeID := msg.jsonUint32 "node_id"
  match st.server.nodes.get nodeID with
  | none => (st, .error (nodeNotFound nodeID))
  | some n =>
    let (st, r) := st.beat E now (.json msg) nodeID n true
    (st, r.map (heartbeatResp now))

/-! ## The commands a standby lets through -/

/-- The commands, in the order the gate has them in. -/
inductive Command where
  | lookup | resolve | listNetworks | listNodes | heartbeat | pollHandshakes | pollInvites
  | resolveHostname | beaconList | getKeyInfo | getNetworkPolicy | getAuditLog
  | getMemberRole | checkTrust | getWebhook | getAuditExport | getWebhookDLQ | getIdentity
  | getIDPConfig | getProvisionStatus | getExprPolicy | getMemberTags | directoryStatus
  deriving DecidableEq

/-- The type of the command's messages. -/
def Command.text : Command → String
  | lookup => "lookup"
  | resolve => "resolve"
  | listNetworks => "list_networks"
  | listNodes => "list_nodes"
  | heartbeat => "heartbeat"
  | pollHandshakes => "poll_handshakes"
  | pollInvites => "poll_invites"
  | resolveHostname => "resolve_hostname"
  | beaconList => "beacon_list"
  | getKeyInfo => "get_key_info"
  | getNetworkPolicy => "get_network_policy"
  | getAuditLog => "get_audit_log"
  | getMemberRole => "get_member_role"
  | checkTrust => "check_trust"
  | getWebhook => "get_webhook"
  | getAuditExport => "get_audit_export"
  | getWebhookDLQ => "get_webhook_dlq"
  | getIdentity => "get_identity"
  | getIDPConfig => "get_idp_config"
  | getProvisionStatus => "get_provision_status"
  | getExprPolicy => "get_expr_policy"
  | getMemberTags => "get_member_tags"
  | directoryStatus => "directory_status"

/-- The commands. -/
def Command.all : List Command :=
  [lookup, resolve, listNetworks, listNodes, heartbeat, pollHandshakes, pollInvites,
    resolveHostname, beaconList, getKeyInfo, getNetworkPolicy, getAuditLog, getMemberRole,
    checkTrust, getWebhook, getAuditExport, getWebhookDLQ, getIdentity, getIDPConfig,
    getProvisionStatus, getExprPolicy, getMemberTags, directoryStatus]

/-- The command of a message type. -/
def Command.ofText (text : String) : Option Command :=
  Command.all.find? fun c => c.text = text

/-- `breakerForType`. -/
def Command.breaker : Command → Option String
  | heartbeat => some "registry.heartbeat"
  | lookup | resolve | resolveHostname | listNetworks | listNodes => some "registry.resolve"
  | checkTrust => some "registry.trust"
  | pollHandshakes => some "registry.handshake"
  | pollInvites => some "registry.invite"
  | beaconList => some "registry.beacon_register"
  | _ => none

/-- The breaker is open: its reason. -/
def Station.tripped (st : Station) (name : String) : Option String :=
  (st.breakers.get name).bind fun b => if b.state = .opened then some b.reason else none

/-- The refusal of a command whose breaker is open. -/
def Station.refusal (st : Station) (c : Command) : Option String := do
  let name ← c.breaker
  let reason ← st.tripped name
  let quoted := name.quote
  return if reason ≠ "" then s!"service unavailable: breaker {quoted} is open ({reason})"
    else s!"service unavailable: breaker {quoted} is open"

/-- A command that only answers. -/
def Station.answer (st : Station) (r : Except String Resp) : Station × Except String Resp :=
  (st, r)

/-- A handler that changes the registry. -/
def Station.commit (st : Station) : Except String Outcome → Station × Except String Resp
  | .ok o => ({ st with server := o.server }, .ok o.resp)
  | .error e => (st, .error e)

/-- `HandlePollInvites`, with the entry it leaves in the audit log. -/
def Station.pollInvites (E : StationEnv) (now : Time) (st : Station) (msg : Msg) :
    Station × Except String Resp :=
  let nodeID := msg.jsonUint32 "node_id"
  let count := ((st.server.inviteInbox.get nodeID).getD []).countP (expired now)
  match handlePollInvites E.toEnv now st.server msg with
  | .ok o =>
    let st := { st with server := o.server }
    (if count > 0 then st.audit {
        timestamp := E.formatTime now, action := "invite.expired_cleanup"
        nodeID := nodeID, details := s!"expired_count={count}" }
      else st, .ok o.resp)
  | .error e => (st, .error e)

/-- The handler of a command. -/
def Station.run (E : StationEnv) (now : Time) (order : Orders) (st : Station) (msg : Msg) :
    Command → Station × Except String Resp
  | .lookup => st.answer (handleLookup E.toQueryEnv st.server msg)
  | .resolve => st.answer (handleResolve E.toDirectoryEnv now st.server msg)
  | .listNetworks =>
    st.answer (handleListNetworks E.toReadEnv order.networks st.server msg)
  | .listNodes =>
    let (r, listings) := handleListNodes E.toDirectoryEnv now order.nodes st.listings
      st.server msg
    ({ st with listings := listings }, r)
  | .heartbeat => st.handleHeartbeat E now msg
  | .pollHandshakes => st.commit (handlePollHandshakes E.toEnv st.server msg)
  | .pollInvites => st.pollInvites E now msg
  | .resolveHostname => st.answer (handleResolveHostname E.toDirectoryEnv st.server msg)
  | .beaconList => st.answer (handleBeaconList now order.beacons st.beacons)
  | .getKeyInfo => st.answer (handleGetKeyInfo E.toReadEnv now st.server msg)
  | .getNetworkPolicy => st.answer (handleGetNetworkPolicy st.server msg)
  | .getAuditLog => st.answer (handleGetAuditLog E.toReadEnv st.auditLog msg)
  | .getMemberRole => st.answer (handleGetMemberRole st.server msg)
  | .checkTrust => st.answer (handleCheckTrust E.toReadEnv st.server msg)
  | .getWebhook => st.answer (handleGetWebhook E.toReadEnv st.webhook msg)
  | .getAuditExport => st.answer (handleGetAuditExport E.toReadEnv st.auditExport msg)
  | .getWebhookDLQ => st.answer (handleGetWebhookDLQ E.toReadEnv st.webhook msg)
  | .getIdentity => st.answer (handleGetIdentity E.toReadEnv st.server msg)
  | .getIDPConfig => st.answer (handleGetIDPConfig E.toReadEnv st.idp msg)
  | .getProvisionStatus => st.answer (handleGetProvisionStatus E.toReadEnv order.networks
      st.server st.idp st.auditExport st.webhook msg)
  | .getExprPolicy => st.answer (handleGetExprPolicy E.toReadEnv st.server msg)
  | .getMemberTags => st.answer (handleGetMemberTags st.server msg)
  | .directoryStatus =>
    st.answer (handleGetDirectoryStatus E.toReadEnv st.server st.auditLog msg)

/-- An answer has a type: the one it sets, or that of the request. -/
def withType (type : String) (resp : Resp) : Resp :=
  if resp.isEmpty || (Msg.field resp "type").isSome then resp
  else resp ++ [("type", .str type)]

/-- `handleMessage`, in standby mode. -/
def Station.handleMessage (E : StationEnv) (now : Time) (order : Orders) (st : Station)
    (msg : Msg) : Station × Except String Resp :=
  match Command.ofText (msg.str "type") with
  | none => (st, .error "standby mode: write operations not accepted (use primary)")
  | some c =>
    match st.refusal c with
    | some e => (st, .error e)
    | none =>
      let (st, r) := st.run E now order msg c
      (st, r.map (withType (msg.str "type")))

/-! ## Messages -/

/-- The types of binary messages. -/
inductive FrameType where
  | heartbeat
  | lookup
  | resolve
  | json
  | other (code : UInt8)
  deriving DecidableEq

/-- A message on a connection of either kind. -/
inductive Inbound where
  | text (msg : Msg)
  | frame (type : FrameType) (payload : Bytes)

/-- What is sent back. A subscriber is sent a snapshot, and then those that
follow. -/
inductive Reply where
  | json (r : Except String Resp)
  | jsonFrame (r : Except String Resp)
  | frame (f : Frame)
  | heartbeatOK (payload : Bytes)
  | snapshots

/-- `subscribe_replication`. -/
def Station.subscribe (st : Station) (msg : Msg) : Reply :=
  if st.replicationToken = "" then .json (.error "replication not configured")
  else if msg.str "token" ≠ st.replicationToken then
    .json (.error "invalid replication token")
  else .snapshots

/-- An error frame. -/
def errorFrame (E : StationEnv) (e : String) : Reply := .frame ⟨.error, E.encodeError e⟩

/-- `HandleBinaryHeartbeat`. -/
def Station.handleBinaryHeartbeat (E : StationEnv) (now : Time) (st : Station)
    (payload : Bytes) : Station × Reply :=
  match E.decodeHeartbeatReq payload with
  | .error e => (st, errorFrame E e)
  | .ok (nodeID, sig) =>
    if E.strictHeartbeatFreshness then
      (st, errorFrame E ("binary heartbeat encoding carries no timestamp; " ++
        "use the JSON heartbeat while freshness is enforced"))
    else
      match st.server.nodes.get nodeID with
      | none => (st, errorFrame E (notFoundText nodeID))
      | some n =>
        match st.beat E now (.binary sig) nodeID n false with
        | (st, .error e) => (st, errorFrame E e)
        | (st, .ok warning) =>
          (st, .heartbeatOK (E.encodeHeartbeatResp (now / second) warning))

/-- `%02x`. -/
def hexByte (code : UInt8) : String :=
  String.ofList [Nat.digitChar (code.toNat / 16), Nat.digitChar (code.toNat % 16)]

/-- `handleBinaryJSONFallback`: a JSON message in a frame. -/
def Station.handleFrameJSON (E : StationEnv) (now : Time) (order : Orders) (st : Station)
    (payload : Bytes) : Station × Reply :=
  match E.unmarshal payload with
  | .error e => (st, errorFrame E s!"json decode: {e}")
  | .ok msg =>
    if msg.str "type" = "subscribe_replication" then
      (st, errorFrame E "replication not supported over binary protocol")
    else
      let (st, r) := st.handleMessage E now order msg
      (st, .jsonFrame r)

/-- The standby handles a message. -/
def Station.receive (E : StationEnv) (now : Time) (order : Orders) (st : Station) :
    Inbound → Station × Reply
  | .text msg =>
    if msg.str "type" = "subscribe_replication" then (st, st.subscribe msg)
    else
      let (st, r) := st.handleMessage E now order msg
      (st, .json r)
  | .frame .heartbeat payload => st.handleBinaryHeartbeat E now payload
  | .frame .lookup payload =>
    (st, .frame (handleBinaryLookup E.toDirectoryEnv st.server payload))
  | .frame .resolve payload =>
    (st, .frame (handleBinaryResolve E.toDirectoryEnv now st.server payload))
  | .frame .json payload => st.handleFrameJSON E now order payload
  | .frame (.other code) _ =>
    let hex := hexByte code
    (st, errorFrame E s!"unknown message type 0x{hex}")

end Rendezvous.Standby

import Rendezvous.Disclosure.Handlers

/-!
# The reads

The commands that answer from the registry and from what a process keeps
beside it: the beacons, the audit log, the configuration of the webhook, of
the exporter and of the identity provider. A standby serves them.

Where the source goes through a map, `order` is the order it meets the
entries in.
-/

namespace Rendezvous.Standby

open Base Registry Authz Trust Rendezvous.Membership Lifecycle Disclosure

/-! ## What a process keeps beside the registry -/

/-- `BeaconEntry`. -/
structure Beacon where
  addr : String
  lastSeen : Time
  deriving DecidableEq

/-- `AuditEntry`. -/
structure AuditEntry where
  timestamp : String
  action : String
  networkID : NetId := 0
  nodeID : NodeId := 0
  details : String := ""
  deriving DecidableEq

/-- An event the webhook could not deliver. -/
structure WebhookEvent where
  eventID : Nat
  action : String
  timestamp : Time
  details : List (String × Json) := []

/-- The dispatcher of the webhook. -/
structure Webhook where
  url : String
  delivered : Nat := 0
  failed : Nat := 0
  dropped : Nat := 0
  dlqDropped : Nat := 0
  dlq : List WebhookEvent := []

/-- The configuration of the audit exporter, and its counters once it
runs. -/
structure AuditExport where
  format : String
  endpoint : String
  stats : Option (Nat × Nat) := none
  deriving DecidableEq

/-- `BlueprintIdentityProvider`. -/
structure IdentityProvider where
  type : String
  url : String
  issuer : String := ""
  clientID : String := ""
  tenantID : String := ""
  domain : String := ""
  deriving DecidableEq

/-- What the reads are given besides. -/
structure ReadEnv extends DirectoryEnv where
  /-- The rules of a network, in an answer. -/
  rulesJson : NetworkRules → Json
  /-- A raw document, in an answer. -/
  rawJson : String → Json
  /-- The time of a webhook event. -/
  formatEvent : Time → String

/-- A count, in an answer. -/
def Json.count (n : Nat) : Json := .num (n : Rat)

/-! ## Networks -/

/-- The caller of `list_networks` is a node that signs. -/
def listsAsNode (E : ReadEnv) (s : Server) (msg : Msg) : Bool :=
  let requesterID := msg.jsonUint32 "requester_id"
  requesterID ≠ 0 && (s.nodes.get requesterID).any fun n =>
    (verifyNodeSignature E.toEnv (some n.publicKey) E.adminToken msg
      s!"list_networks:{requesterID}").isOk

/-- An entry of `list_networks`. -/
def networkEntry (E : ReadEnv) (includeMembers : Bool) (netID : NetId) (net : NetworkInfo) : Resp :=
  List.flatten [[("id", .net netID), ("name", .str net.name), ("join_rule", .str net.joinRule),
      ("enterprise", .bool net.enterprise), ("created", unixSeconds net.created)],
    fieldsIf includeMembers [("members", Json.count net.members.length)],
    fieldsIf (net.enterprise && decide (net.policy.maxMembers > 0))
      [("max_members", .num net.policy.maxMembers)],
    fieldsIf (net.enterprise && net.policy.description ≠ "")
      [("description", .str net.policy.description)],
    (net.rules.map fun rules =>
      [("managed", .bool true), ("rules", E.rulesJson rules)]).getD [],
    fieldsIf (net.exprPolicy.any (· ≠ "")) [("has_expr_policy", .bool true)]]

/-- `HandleListNetworks`. In strict mode a caller without the admin token is
shown the open networks and its own. -/
def handleListNetworks (E : ReadEnv) (order : List NetId) (s : Server) (msg : Msg) :
    Except String Resp :=
  let includeMembers := (requireAdminToken E.toEnv msg).isOk
  let strict := E.strictDirectoryAuth && !includeMembers
  let shown (net : NetworkInfo) : Bool := !strict || net.joinRule = "open" ||
    (listsAsNode E s msg && net.members.contains (msg.jsonUint32 "requester_id"))
  .ok [("type", .str "list_networks_ok"), ("networks", .arr (order.filterMap fun netID => do
      let net ← s.networks.get netID
      if shown net then some (.obj (networkEntry E includeMembers netID net)) else none))]

/-- `HandleGetMemberRole`. -/
def handleGetMemberRole (s : Server) (msg : Msg) : Except String Resp := do
  let netID := msg.jsonUint16 "network_id"
  let target := msg.jsonUint32 "target_node_id"
  let net ← getNetwork s netID
  let role ← orFail (net.role target) s!"node {target} is not a member of network {netID}"
  return [("type", .str "get_member_role_ok"), ("network_id", .net netID),
    ("target_node_id", .node target), ("role", .str role.text)]

/-- `HandleGetMemberTags`: of one member, or of all. -/
def handleGetMemberTags (s : Server) (msg : Msg) : Except String Resp := do
  let netID := msg.jsonUint16 "network_id"
  let target := msg.jsonUint32 "target_node_id"
  let net ← getNetwork s netID
  let tagsOf (id : NodeId) : Json := .arr (((net.memberTags.get id).getD []).map .str)
  return [("type", .str "get_member_tags_ok"), ("network_id", .net netID)] ++
    (if target ≠ 0 then [("target_node_id", .node target), ("tags", tagsOf target)]
    else [("members", .obj (net.members.map fun id => (toString id, tagsOf id)))])

/-- `HandleGetNetworkPolicy`. -/
def handleGetNetworkPolicy (s : Server) (msg : Msg) : Except String Resp := do
  let netID := msg.jsonUint16 "network_id"
  let net ← getNetwork s netID
  return [("type", .str "get_network_policy_ok"), ("network_id", .net netID),
    ("max_members", .num net.policy.maxMembers),
    ("allowed_ports", .arr (net.policy.allowedPorts.map fun p => Json.count p.toNat)),
    ("description", .str net.policy.description)]

/-- `HandleGetExprPolicy`. -/
def handleGetExprPolicy (E : ReadEnv) (s : Server) (msg : Msg) : Except String Resp := do
  let netID := msg.jsonUint16 "network_id"
  let net ← getNetwork s netID
  return [("type", .str "get_expr_policy_ok"), ("network_id", .net netID)] ++
    (net.exprPolicy.map fun doc => fieldsIf (doc ≠ "") [("expr_policy", E.rawJson doc)]).getD []

/-! ## Nodes -/

/-- `HandleGetKeyInfo`. -/
def handleGetKeyInfo (E : ReadEnv) (now : Time) (s : Server) (msg : Msg) : Except String Resp := do
  let nodeID := Identity.jsonUint32 msg "node_id"
  let n ← orFail (s.nodes.get nodeID) (nodeNotFound nodeID)
  return List.flatten [[("type", .str "get_key_info_ok"), ("node_id", .node nodeID),
      ("created_at", .str (E.formatTime n.keyMeta.createdAt)),
      ("rotate_count", .num n.keyMeta.generation)],
    fieldsIf (n.keyMeta.rotatedAt ≠ zeroTime)
      [("rotated_at", .str (E.formatTime n.keyMeta.rotatedAt))],
    fieldsIf (n.keyMeta.expiresAt ≠ zeroTime)
      [("expires_at", .str (E.formatTime n.keyMeta.expiresAt))],
    ((keyAgeDays now n).map fun age => ("key_age_days", .num (age : Rat))).toList]

/-- `HandleGetIdentity`. -/
def handleGetIdentity (E : ReadEnv) (s : Server) (msg : Msg) : Except String Resp := do
  requireAdminToken E.toEnv msg
  let nodeID := Identity.jsonUint32 msg "node_id"
  let n ← orFail (s.nodes.get nodeID) "node not found"
  return [("type", .str "get_identity_ok"), ("node_id", .node nodeID),
    ("external_id", .str n.externalID), ("owner", .str n.owner)]

/-- Who may ask for the trust of two nodes: anyone, and in strict mode one of
the two. -/
def admitCheckTrust (E : ReadEnv) (s : Server) (msg : Msg) : Except String Unit :=
  let nodeA := msg.jsonUint32 "node_id"
  let nodeB := msg.jsonUint32 "peer_id"
  let requesterID := msg.jsonUint32 "requester_id"
  if E.strictDirectoryAuth then do
    require (requesterID = nodeA || requesterID = nodeB)
      "check_trust denied: requester must be participant"
    let n ← orFail (s.nodes.get requesterID) (nodeNotFound requesterID)
    checkSignature E.toEnv n.publicKey msg "signature required for authenticated node"
      "signature verification failed" s!"check_trust:{nodeA}:{nodeB}"
  else .ok ()

/-- `HandleCheckTrust`: a trust pair, or members of one network. -/
def handleCheckTrust (E : ReadEnv) (s : Server) (msg : Msg) : Except String Resp := do
  let nodeA := msg.jsonUint32 "node_id"
  let nodeB := msg.jsonUint32 "peer_id"
  admitCheckTrust E s msg
  let trusted := isTrusted s.trust nodeA nodeB ||
    (s.nodes.get nodeA).any fun a => (s.nodes.get nodeB).any fun b => sharesNetwork a b
  return [("type", .str "check_trust_ok"), ("trusted", .bool trusted)]

/-! ## The operator's reads -/

/-- `BeaconTTL`. -/
def beaconTTL : Int := 60 * second

/-- `HandleBeaconList`: the beacons that were seen lately. -/
def handleBeaconList (now : Time) (order : List NodeId) (beacons : GoMap NodeId Beacon) :
    Except String Resp :=
  .ok [("type", .str "beacon_list_ok"), ("beacons", .arr (order.filterMap fun id => do
      let b ← beacons.get id
      if now - b.lastSeen > beaconTTL then none
      else some (.obj [("id", .node id), ("addr", .str b.addr)])))]

/-- An entry of `get_audit_log`. -/
def auditEntryJson (e : AuditEntry) : Json :=
  .obj (List.flatten [[("timestamp", .str e.timestamp), ("action", .str e.action)],
    fieldsIf (e.networkID ≠ 0) [("network_id", .net e.networkID)],
    fieldsIf (e.nodeID ≠ 0) [("node_id", .node e.nodeID)],
    fieldsIf (e.details ≠ "") [("details", .str e.details)]])

/-- `handleGetAuditLog`: the newest entries first, of one network or of
all. -/
def handleGetAuditLog (E : ReadEnv) (log : List AuditEntry) (msg : Msg) : Except String Resp := do
  requireAdminToken E.toEnv msg
  let netID := msg.jsonUint16 "network_id"
  let limit := match msg.num? "limit" with
    | some l => if 0 < l ∧ l ≤ 100 then l.floor.toNat else 100
    | none => 100
  let offset := match msg.num? "offset" with
    | some o => if 0 ≤ o then o.floor.toNat else 0
    | none => 0
  let entries := log.reverse.filter fun e => netID = 0 || e.networkID = netID
  return [("type", .str "get_audit_log_ok"),
    ("entries", .arr (((entries.drop offset).take limit).map auditEntryJson))]

/-- `HandleGetWebhook`. -/
def webhookResp (webhook : Option Webhook) : Resp :=
  let d := webhook.getD { url := "" }
  [("type", .str "get_webhook_ok"), ("enabled", .bool webhook.isSome), ("url", .str d.url),
    ("delivered", Json.count d.delivered), ("failed", Json.count d.failed),
    ("dropped", Json.count d.dropped), ("dlq_size", Json.count d.dlq.length),
    ("dlq_dropped", Json.count d.dlqDropped)]

/-- `handleGetWebhook`. -/
def handleGetWebhook (E : ReadEnv) (webhook : Option Webhook) (msg : Msg) : Except String Resp := do
  requireAdminToken E.toEnv msg
  return webhookResp webhook

/-- `redactKey`: the name of a field tells that it holds a secret. -/
def redactKey (E : ReadEnv) (key : String) : Bool :=
  let low := E.toLower key
  ["token", "admin_token", "password", "passwd", "secret", "api_key", "apikey",
    "private_key", "signature", "challenge", "auth", "authorization", "bearer",
    "credential", "credentials"].contains low ||
    ["_token", "_secret", "_password", "_key"].any fun suffix => low.endsWith suffix

/-- `RedactMap`. -/
def redactMap (E : ReadEnv) (fields : List (String × Json)) : List (String × Json) :=
  fields.map fun (key, v) => (key, if redactKey E key then .str "<redacted>" else v)

/-- `handleGetWebhookDLQ`. -/
def handleGetWebhookDLQ (E : ReadEnv) (webhook : Option Webhook) (msg : Msg) :
    Except String Resp := do
  requireAdminToken E.toEnv msg
  let dlq := (webhook.map Webhook.dlq).getD []
  return [("type", .str "get_webhook_dlq_ok"), ("events", .arr (dlq.map fun ev => .obj (
      [("event_id", Json.count ev.eventID), ("action", .str ev.action),
        ("timestamp", .str (E.formatEvent ev.timestamp))] ++
      fieldsIf (!ev.details.isEmpty) [("details", .obj (redactMap E ev.details))]))),
    ("count", Json.count dlq.length)]

/-- `handleGetAuditExport`. -/
def handleGetAuditExport (E : ReadEnv) (cfg : Option AuditExport) (msg : Msg) :
    Except String Resp := do
  requireAdminToken E.toEnv msg
  return [("type", .str "get_audit_export_ok"), ("enabled", .bool cfg.isSome)] ++
    (cfg.map fun c => [("format", .str c.format), ("endpoint", .str c.endpoint)] ++
      (c.stats.map fun (exported, dropped) => [("exported", Json.count exported),
        ("dropped", Json.count dropped)]).getD []).getD []

/-- `handleGetIDPConfig`. -/
def handleGetIDPConfig (E : ReadEnv) (idp : Option IdentityProvider) (msg : Msg) :
    Except String Resp := do
  requireAdminToken E.toEnv msg
  return [("type", .str "get_idp_config_ok"), ("configured", .bool idp.isSome)] ++
    (idp.map fun c => List.flatten [[("idp_type", .str c.type), ("url", .str c.url)],
      fieldsIf (c.issuer ≠ "") [("issuer", .str c.issuer)],
      fieldsIf (c.clientID ≠ "") [("client_id", .str c.clientID)],
      fieldsIf (c.tenantID ≠ "") [("tenant_id", .str c.tenantID)],
      fieldsIf (c.domain ≠ "") [("domain", .str c.domain)]]).getD []

/-- An entry of `get_provision_status`. -/
def provisionEntry (s : Server) (netID : NetId) (net : NetworkInfo) : Json :=
  .obj (List.flatten [
    [("network_id", .net netID), ("name", .str net.name), ("enterprise", .bool net.enterprise),
      ("members", Json.count net.members.length), ("join_rule", .str net.joinRule)],
    fieldsIf (net.policy.maxMembers > 0) [("max_members", .num net.policy.maxMembers)],
    fieldsIf (net.policy.allowedPorts ≠ []) [("allowed_ports",
      .arr (net.policy.allowedPorts.map fun p => Json.count p.toNat))],
    ((s.rbacPreAssign.get netID).map fun roles =>
      ("rbac_pre_assignments", Json.count roles.length)).toList])

/-- `HandleGetProvisionStatus`. The backbone is left out. -/
def handleGetProvisionStatus (E : ReadEnv) (order : List NetId) (s : Server)
    (idp : Option IdentityProvider) (cfg : Option AuditExport) (webhook : Option Webhook)
    (msg : Msg) : Except String Resp := do
  requireAdminToken E.toEnv msg
  return List.flatten [[("type", .str "get_provision_status_ok"),
      ("networks", .arr ((order.filter (· ≠ 0)).filterMap fun netID =>
        (s.networks.get netID).map (provisionEntry s netID)))],
    (idp.map fun c => ("idp_type", .str c.type)).toList,
    (cfg.map fun c => fieldsIf (c.format ≠ "") [("audit_export", .str c.format)]).getD [],
    fieldsIf webhook.isSome [("webhook_enabled", .bool true)]]

/-- `handleGetDirectoryStatus`. -/
def handleGetDirectoryStatus (E : ReadEnv) (s : Server) (log : List AuditEntry) (msg : Msg) :
    Except String Resp := do
  requireAdminToken E.toEnv msg
  let netID := msg.jsonUint16 "network_id"
  require (netID ≠ 0) "network_id is required"
  let net ← orFail (s.networks.get netID) s!"network {netID} not found"
  let members := net.members.filterMap s.nodes.get
  return List.flatten [[("type", .str "directory_status_ok"), ("network_id", .net netID),
      ("total", Json.count net.members.length),
      ("mapped", Json.count (members.countP (·.externalID ≠ ""))),
      ("unmapped", Json.count (members.countP (·.externalID = ""))),
      ("enterprise", .bool net.enterprise)],
    ((s.rbacPreAssign.get netID).map fun roles =>
      ("pre_assignments", Json.count roles.length)).toList,
    ((log.reverse.find? fun e => e.action = "directory.synced" && e.networkID = netID).map
      fun e => ("last_sync", .str e.timestamp)).toList]

end Rendezvous.Standby

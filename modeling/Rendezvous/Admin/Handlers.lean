import Rendezvous.Identity.Handlers
import Rendezvous.Membership.Handlers

/-!
# The operator's commands

The commands an operator changes memberships with: the dashboard's kick
and role endpoints, the external identity of a node, the directory
synchronisation, and the provisioning of a network from a blueprint. They
pass no role gate. Audit records, webhooks, the identity provider and the
audit exporter are not part of the state.
-/

namespace Rendezvous.Admin

open Base Registry Authz Rendezvous.Membership

/-! ## What the commands are given -/

/-- The structural policy of a blueprint. -/
structure BlueprintPolicy where
  maxMembers : Int := 0
  allowedPorts : List UInt16 := []
  description : String := ""
  deriving DecidableEq

/-- A network blueprint. Of the provider, the webhooks and the exporter it
keeps what the answer names. -/
structure NetworkBlueprint where
  name : String
  enterprise : Bool := false
  joinRule : String := ""
  joinToken : String := ""
  networkAdminToken : String := ""
  policy : Option BlueprintPolicy := none
  /-- The raw policy document, empty when absent. -/
  exprPolicy : String := ""
  /-- The type of the identity provider. -/
  identityProvider : Option String := none
  /-- The audit and identity webhook addresses. -/
  webhooks : Option (String × String) := none
  /-- The format and endpoint of the audit exporter. -/
  auditExport : Option (String × String) := none
  roles : List BlueprintRole := []
  deriving DecidableEq

/-- What the operator's commands call besides: two functions of package
`strings`, and the blueprint parser of the wire library. -/
structure AdminEnv extends Env where
  /-- `strings.ToLower`. -/
  toLower : String → String
  /-- `strings.TrimSpace`. -/
  trimSpace : String → String
  /-- `json.Unmarshal` of a blueprint object. -/
  parseBlueprint : List (String × Json) → Except String NetworkBlueprint
  /-- `wire.ValidateBlueprint`. -/
  validateBlueprint : NetworkBlueprint → Except String Unit

/-! ## The membership endpoints of the dashboard -/

/-- `AdminKickMember`. All mentions of the network leave the node's list.
The backbone is a network like any other here. -/
def adminKickMember (s : Server) (netID : NetId) (nodeID : NodeId) : Except String Server := do
  let net ← getNetwork s netID
  require (net.role nodeID ≠ some .owner)
    s!"cannot kick the network owner (node {nodeID}); transfer ownership first"
  require (net.members.contains nodeID)
    s!"node {nodeID} is not a member of network {netID}"
  let s := putNetwork s netID (dropMember net nodeID)
  return { s with nodes := s.nodes.modify nodeID fun n =>
    { n with networks := n.networks.filter fun nid => nid ≠ netID } }

/-- The roles the endpoint accepts. -/
def assignableRole (normalized : String) : Option Role :=
  if normalized = "admin" then some .admin
  else if normalized = "member" then some .member
  else none

/-- `AdminSetMemberRole`. -/
def adminSetMemberRole (E : AdminEnv) (s : Server) (netID : NetId)
    (nodeID : NodeId) (role : String) : Except String Server := do
  let quoted := role.quote
  let newRole ← orFail (assignableRole (E.toLower (E.trimSpace role)))
    s!"invalid role {quoted}: must be \"admin\" or \"member\""
  let net ← getNetwork s netID
  require (net.role nodeID ≠ some .owner)
    s!"cannot change role of the network owner (node {nodeID}); transfer ownership first"
  require (net.members.contains nodeID)
    s!"node {nodeID} is not a member of network {netID}"
  return putNetwork s netID (setRole net nodeID newRole)

/-! ## set_external_id -/

/-- `HandleSetExternalID`. -/
def handleSetExternalID (E : AdminEnv) (s : Server) (msg : Msg) : Except String Outcome := do
  requireAdminToken E.toEnv msg
  let nodeID := Identity.jsonUint32 msg "node_id"
  let externalID := msg.str "external_id"
  require (s.nodes.has nodeID) "node not found"
  return {
    server := { s with nodes := s.nodes.modify nodeID fun n =>
      { n with externalID := externalID } }
    resp := [("type", .str "set_external_id_ok"), ("node_id", .node nodeID),
      ("external_id", .str externalID)] }

/-! ## directory_sync -/

/-- A user of the directory. The mail address and the groups are read and
not used. -/
structure DirectoryEntry where
  externalID : String
  displayName : String := ""
  role : String := ""
  disabled : Bool := false
  deriving DecidableEq

/-- `ParseDirectoryEntries`: what is not an object, or has no external
identity, is dropped. -/
def parseDirectoryEntries (raw : List Json) : List DirectoryEntry :=
  raw.filterMap fun
    | .obj fields =>
      if Msg.str fields "external_id" = "" then none
      else some {
        externalID := Msg.str fields "external_id"
        displayName := Msg.str fields "display_name"
        role := Msg.str fields "role"
        disabled := Msg.bool fields "disabled" }
    | _ => none

/-- What a synchronisation did. -/
structure DirectorySyncResult where
  updated : Nat := 0
  disabled : Nat := 0
  mapped : Nat := 0
  unmapped : Nat := 0
  actions : List String := []
  deriving DecidableEq

/-- `extToNode`: the registered members by normalized external identity.
It is built once, before the first entry. -/
def membersByExternalID (E : AdminEnv) (s : Server) (net : NetworkInfo) : GoMap String NodeId :=
  net.members.foldl (fun idx id =>
    match s.nodes.get id with
    | none => idx
    | some n => if n.externalID = "" then idx
        else idx.set (E.toLower n.externalID) id) ∅

/-- `removeMemberLocked`. -/
def removeMember (s : Server) (netID : NetId) (nodeID : NodeId) : Server :=
  let dropped := s.networks.modify netID fun net => dropMember net nodeID
  removeNodeNetwork { s with networks := dropped } nodeID netID

/-- `storeRBACPreAssignmentLocked`. -/
def storeRBACPreAssignment (E : AdminEnv) (s : Server) (netID : NetId)
    (externalID role : String) : Server :=
  let kept := (s.rbacPreAssign.get netID).getD []
  if kept.any fun r => E.toLower r.externalID = E.toLower externalID then s
  else { s with rbacPreAssign :=
    s.rbacPreAssign.set netID (kept ++ [⟨externalID, role⟩]) }

/-- A display name becomes the hostname of a node that has none, if it is
free. -/
def takeDisplayName (s : Server) (nodeID : NodeId) (name : String) : Server :=
  let unnamed := (s.nodes.get nodeID).any fun n => n.hostname = ""
  if name ≠ "" ∧ unnamed ∧ (s.hostnameIdx.get name).all fun id => id = nodeID then
    { s with
      nodes := s.nodes.modify nodeID fun n => { n with hostname := name }
      hostnameIdx := s.hostnameIdx.set name nodeID }
  else s

/-- The role part of an entry: the state, and what it did. `none` is a
write to a nil map, which panics. -/
def syncRole (s : Server) (netID : NetId) (nodeID : NodeId)
    (entry : DirectoryEntry) (result : DirectorySyncResult) :
    Option (Server × DirectorySyncResult) :=
  match s.networks.get netID with
  | none => some (s, result)
  | some net =>
    let target := blueprintRole entry.role
    if entry.role = "" ∨ net.role nodeID = some target then some (s, result)
    else if net.memberRoles.isNone then none
    else
      let current := ((net.role nodeID).map Role.text).getD ""
      let externalID := entry.externalID
      let text := target.text
      some (putNetwork s netID (setRole net nodeID target), { result with
        updated := result.updated + 1
        actions := result.actions ++ [s!"role {externalID}: {current} → {text} (node {nodeID})"] })

/-- One entry. -/
def syncEntry (E : AdminEnv) (netID : NetId) (byID : GoMap String NodeId)
    (s : Server) (result : DirectorySyncResult) (entry : DirectoryEntry) :
    Option (Server × DirectorySyncResult) :=
  match byID.get (E.toLower entry.externalID) with
  | none =>
    let result := { result with unmapped := result.unmapped + 1 }
    -- Kept for the node's join.
    if entry.role = "" then some (s, result)
    else some (storeRBACPreAssignment E s netID entry.externalID entry.role, result)
  | some nodeID =>
    let result := { result with mapped := result.mapped + 1 }
    if entry.disabled then
      let externalID := entry.externalID
      some (removeMember s netID nodeID, { result with
        disabled := result.disabled + 1
        actions := result.actions ++ [s!"disabled {externalID} (node {nodeID})"] })
    else
      (syncRole s netID nodeID entry result).map fun (s, result) =>
        (takeDisplayName s nodeID entry.displayName, result)

/-- The entries in order. A panic leaves the state as it was before the
entry. -/
def syncEntries (E : AdminEnv) (netID : NetId) (byID : GoMap String NodeId) :
    List DirectoryEntry → Server → DirectorySyncResult → Server × Option DirectorySyncResult
  | [], s, result => (s, some result)
  | entry :: rest, s, result =>
    match syncEntry E netID byID s result entry with
    | none => (s, none)
    | some (s, result) => syncEntries E netID byID rest s result

/-- The members the directory does not list, among those with a record
and an external identity. -/
def unlistedMembers (E : AdminEnv) (s : Server) (net : NetworkInfo)
    (entries : List DirectoryEntry) : List NodeId :=
  let listed := entries.map fun e => E.toLower e.externalID
  net.members.filter fun id => (s.nodes.get id).any fun n =>
    n.externalID ≠ "" && !listed.contains (E.toLower n.externalID)

/-- The members are removed one after the other. -/
def removeUnlisted (netID : NetId) (ids : List NodeId) (s : Server)
    (result : DirectorySyncResult) : Server × DirectorySyncResult :=
  ids.foldl (fun (s, result) id =>
    let externalID := ((s.nodes.get id).map NodeInfo.externalID).getD ""
    (removeMember s netID id, { result with
      disabled := result.disabled + 1
      actions := result.actions ++ [s!"removed unlisted {externalID} (node {id})"] })) (s, result)

/-- `applyDirectorySync`. A panic is recovered by the dispatcher, so what
the entries before it did stays. -/
def applyDirectorySync (E : AdminEnv) (s : Server) (netID : NetId)
    (entries : List DirectoryEntry) (unlisted : Bool) :
    Server × Except String DirectorySyncResult :=
  match s.networks.get netID with
  | none => (s, .error s!"network {netID} not found")
  | some net =>
    if !net.enterprise then
      (s, .error "directory sync requires enterprise network")
    else
      match syncEntries E netID (membersByExternalID E s net) entries s {} with
      | (s, none) => (s, .error "assignment to entry in nil map")
      | (s, some result) =>
        let left := ((s.networks.get netID).map fun net =>
          unlistedMembers E s net entries).getD []
        let (s, result) := removeUnlisted netID
          (if unlisted then left else []) s result
        (s, .ok result)

/-- `handleDirectorySync`, with the state it leaves. -/
def handleDirectorySync (E : AdminEnv) (s : Server) (msg : Msg) : Server × Except String Resp :=
  let netID := msg.jsonUint16 "network_id"
  let entries := (msg.arr? "entries").getD []
  let checks : Except String Unit := do
    requireAdminToken E.toEnv msg
    require (netID ≠ 0) "network_id is required"
    require (!entries.isEmpty) "entries array is required"
  match checks with
  | .error e => (s, .error e)
  | .ok _ =>
    let (s, answer) := applyDirectorySync E s netID
      (parseDirectoryEntries entries) (msg.bool "remove_unlisted")
    (s, answer.map fun result =>
      [("type", .str "directory_sync_ok"), ("updated", .num result.updated),
        ("disabled", .num result.disabled), ("mapped", .num result.mapped),
        ("unmapped", .num result.unmapped),
        ("actions", .arr (result.actions.map .str))])

/-! ## provision_network -/

/-- The record of a network made from a blueprint. It has no member. -/
def blueprintNetwork (bp : NetworkBlueprint) (now : Time) : NetworkInfo where
  name := bp.name
  joinRule := joinRuleOrOpen bp.joinRule
  token := bp.joinToken
  members := []
  adminToken := bp.networkAdminToken
  enterprise := bp.enterprise
  created := now

/-- `findOrCreateNetwork`: the state, the network's id, and whether it is
new. The source takes the first network of that name it meets; `order` is
the order it met them in. -/
def findOrCreateNetwork (E : AdminEnv) (now : Time) (order : List NetId)
    (s : Server) (bp : NetworkBlueprint) :
    Except String (Server × NetId × Bool) :=
  match order.find? fun id => (s.networks.get id).any fun net =>
      net.name = bp.name with
  | some netID => .ok (s, netID, false)
  | none => do
    require (E.adminToken ≠ "") "network creation disabled (no admin token)"
    validateNetworkName bp.name
    let netID := s.nextNet
    let s := putNetwork s netID (blueprintNetwork bp now)
    return ({ s with nextNet := s.nextNet + 1 }, netID, true)

/-- What a blueprint sets in the record of its network. -/
def applyToNetwork (bp : NetworkBlueprint) (net : NetworkInfo) : NetworkInfo :=
  let policy := match bp.policy with
    | none => net.policy
    | some p => {
        maxMembers := if p.maxMembers > 0 then p.maxMembers
          else net.policy.maxMembers
        allowedPorts := if p.allowedPorts.isEmpty then net.policy.allowedPorts
          else p.allowedPorts
        description := if p.description = "" then net.policy.description
          else p.description }
  { net with
    enterprise := net.enterprise || bp.enterprise
    policy := policy
    exprPolicy := if bp.exprPolicy = "" then net.exprPolicy
      else some bp.exprPolicy }

/-- The actions an answer reports, after the first. -/
def blueprintActions (bp : NetworkBlueprint) : List String :=
  let count := bp.roles.length
  (if bp.enterprise then ["enabled enterprise features"] else []) ++
  (if bp.policy.isSome then ["applied network policy"] else []) ++
  (if bp.exprPolicy = "" then [] else ["applied expr policy"]) ++
  (bp.identityProvider.map fun kind =>
    s!"configured {kind} identity provider").toList ++
  (match bp.webhooks with
    | none => []
    | some (auditURL, identityURL) =>
      (if auditURL = "" then [] else ["configured audit webhook"]) ++
      (if identityURL = "" then [] else ["configured identity webhook"])) ++
  (bp.auditExport.map fun (format, endpoint) =>
    s!"configured {format} audit export to {endpoint}").toList ++
  (if bp.roles.isEmpty then [] else [s!"stored {count} RBAC pre-assignments"])

/-- `ApplyBlueprint`: the state, the network's id, whether it is new, and
the actions. -/
def applyBlueprint (E : AdminEnv) (now : Time) (order : List NetId)
    (s : Server) (bp : NetworkBlueprint) :
    Except String (Server × NetId × Bool × List String) := do
  (match E.validateBlueprint bp with
    | .ok _ => .ok ()
    | .error e => .error s!"invalid blueprint: {e}")
  let (s, netID, created) ← (findOrCreateNetwork E now order s bp).mapError
    fun e => s!"provision network: {e}"
  let name := bp.name
  let first := if created then s!"created network {netID} ({name})"
    else s!"found existing network {netID} ({name})"
  return ({ s with
      networks := s.networks.modify netID (applyToNetwork bp)
      rbacPreAssign := if bp.roles.isEmpty then s.rbacPreAssign
        else s.rbacPreAssign.set netID bp.roles },
    netID, created, first :: blueprintActions bp)

/-- `HandleProvisionNetwork`. It records no delta. -/
def handleProvisionNetwork (E : AdminEnv) (now : Time) (order : List NetId)
    (s : Server) (msg : Msg) : Except String Outcome := do
  requireAdminToken E.toEnv msg
  let fields ← orFail (msg.obj? "blueprint") "blueprint is required"
  let bp ← (E.parseBlueprint fields).mapError fun e => s!"parse blueprint: {e}"
  let (s, netID, created, actions) ← applyBlueprint E now order s bp
  return {
    server := s
    resp := [("type", .str "provision_network_ok"), ("network_id", .net netID),
      ("name", .str bp.name), ("created", .bool created),
      ("actions", .arr (actions.map .str))] }

/-! ## An environment to run the commands in -/

/-- The plain environment, with text functions that change nothing and a
parser that reads the name, the enterprise flag and the join rule. -/
def AdminEnv.plain : AdminEnv where
  toEnv := .plain
  toLower := id
  trimSpace := id
  parseBlueprint := fun fields => .ok {
    name := Msg.str fields "name"
    enterprise := Msg.bool fields "enterprise"
    joinRule := Msg.str fields "join_rule" }
  validateBlueprint := fun _ => .ok ()

/-- A request of the operator. -/
def operatorMsg (fields : List (String × Json)) : Msg :=
  ("admin_token", .str "secret") :: fields

end Rendezvous.Admin

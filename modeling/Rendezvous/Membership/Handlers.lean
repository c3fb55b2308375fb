import Rendezvous.Membership.Ops

/-!
# Membership handlers

The commands of package `membership` that change the state. Each is a
sequence of checks followed by one change of the state; a failed check
answers its error and changes nothing. `now` is the clock reading of the
handler. Cache invalidation, audit records and counters are not part of
the state.
-/

namespace Rendezvous.Membership

open Base Registry Authz

/-! ## create_network -/

/-- The `rules` field: a document as text or as an object, or neither. -/
def parseRulesField (E : Env) (msg : Msg) : Except String (Option NetworkRules) :=
  match msg.field "rules" with
  | some (.str raw) =>
    if raw = "" then .ok none else (E.parseRules raw).map some
  | some (.obj fields) => (E.parseRules (E.marshal fields)).map some
  | _ => .ok none

/-- A policy document must parse and be of version one. -/
def checkExprVersion (E : Env) (doc : String) : Except String ExprHeader :=
  match E.exprHeader doc with
  | .error e => .error s!"expr_policy: invalid JSON: {e}"
  | .ok h =>
    let v := h.version
    if h.version = 1 then .ok h
    else .error s!"expr_policy: unsupported version {v} (want 1)"

/-- The `expr_policy` field of a new network. -/
def parseExprField (E : Env) (msg : Msg) : Except String (Option String) :=
  match msg.field "expr_policy" with
  | some (.str doc) =>
    if doc = "" then .ok none
    else (checkExprVersion E doc).map fun _ => some doc
  | some (.obj fields) =>
    (checkExprVersion E (E.marshal fields)).map fun _ =>
      some (E.marshal fields)
  | _ => .ok none

/-- An absent join rule is `open`. -/
def joinRuleOrOpen (rule : String) : String := if rule = "" then "open" else rule

/-- The record of a new network. -/
def newNetwork (msg : Msg) (nodeID : NodeId) (rules : Option NetworkRules)
    (exprPolicy : Option String) (now : Time) : NetworkInfo where
  name := msg.str "name"
  joinRule := joinRuleOrOpen (msg.str "join_rule")
  token := msg.str "token"
  members := [nodeID]
  memberRoles := some ((∅ : GoMap NodeId Role).set nodeID .owner)
  adminToken := msg.str "network_admin_token"
  rules := rules
  exprPolicy := exprPolicy
  enterprise := msg.bool "enterprise"
  created := now

/-- The delta of a new network. It has no room for rules or a policy. -/
def createDelta (netID : NetId) (nodeID : NodeId) (net : NetworkInfo) : Delta :=
  .networkCreate {
    networkID := netID
    name := net.name
    joinRule := net.joinRule
    token := net.token
    adminToken := net.adminToken
    enterprise := net.enterprise
    creatorNodeID := nodeID
    createdAt := some (rfc3339 net.created) }

/-- `HandleCreateNetwork`. -/
def handleCreateNetwork (E : Env) (now : Time) (s : Server) (msg : Msg) :
    Except String Outcome := do
  requireAdminToken E msg
  let nodeID := msg.jsonUint32 "node_id"
  let name := msg.str "name"
  let rules ← parseRulesField E msg
  let exprPolicy ← parseExprField E msg
  validateNetworkName name
  require (!(joinRuleOrOpen (msg.str "join_rule") = "invite" && !msg.bool "enterprise"))
    "enterprise feature: invite-only networks require the enterprise flag"
  require (s.nodes.has nodeID) s!"node {nodeID} not registered"
  require (s.nextNet ≠ 0) "network ID space exhausted (max 65535 networks)"
  let quoted := name.quote
  require (!nameTaken s none name) s!"network {quoted} already exists"
  let netID := s.nextNet
  let net := newNetwork msg nodeID rules exprPolicy now
  let s := { s with nextNet := s.nextNet + 1 }
  return {
    server := appendNodeNetwork (putNetwork s netID net) nodeID netID
    wal := [createDelta netID nodeID net]
    resp := [("type", .str "create_network_ok"), ("network_id", .net netID),
      ("name", .str name), ("enterprise", .bool net.enterprise)] ++
      if rules.isSome then [("managed", .bool true)] else [] }

/-! ## join_network and leave_network -/

/-- The join rule of the network admits the request. -/
def checkJoinRule (token : String) (netID : NetId) (net : NetworkInfo) : Except String Unit :=
  if net.joinRule = "open" then .ok ()
  else if net.joinRule = "token" then
    require (token = net.token) s!"invalid token for network {netID}"
  else if net.joinRule = "invite" then
    .error "invite-only networks require invite_to_network + respond_invite flow"
  else
    let rule := net.joinRule
    .error s!"unknown join rule: {rule}"

/-- The second section of `HandleJoinNetwork`. -/
def commitJoin (E : Env) (s : Server) (nodeID : NodeId) (netID : NetId)
    (token : String) : Except String Outcome := do
  let node ← orFail (s.nodes.get nodeID) s!"node {nodeID} not registered"
  let net ← getNetwork s netID
  checkJoinRule token netID net
  require (belowLimit net) "network membership limit reached"
  require (!node.networks.contains netID)
    s!"node {nodeID} already in network {netID}"
  let joined := appendNodeNetwork (putNetwork s netID (addMember net nodeID))
    nodeID netID
  return {
    server := applyRBACPreAssignment E joined netID nodeID
    wal := [.networkJoin nodeID netID]
    resp := [("type", .str "join_network_ok"), ("network_id", .net netID),
      ("address", .str (E.addrString netID nodeID))] ++
      (net.rules.map fun r => ("rules", Json.str r.document)).toList ++
      (net.exprPolicy.map fun p => ("expr_policy", Json.str p)).toList }

/-- `HandleJoinNetwork`. -/
def handleJoinNetwork (E : Env) (s : Server) (msg : Msg) : Except String Outcome := do
  let nodeID := msg.jsonUint32 "node_id"
  let netID := msg.jsonUint16 "network_id"
  require (netID ≠ 0) "cannot join the backbone network"
  let node ← orFail (s.nodes.get nodeID) s!"node {nodeID} not registered"
  signedOrAdmin E node msg s!"join_network:{nodeID}:{netID}"
  commitJoin E s nodeID netID (msg.str "token")

/-- The second section of `HandleLeaveNetwork`. -/
def commitLeave (s : Server) (nodeID : NodeId) (netID : NetId) : Except String Outcome := do
  let node ← orFail (s.nodes.get nodeID) s!"node {nodeID} not registered"
  let net ← getNetwork s netID
  require (!(net.enterprise && net.role nodeID = some .owner))
    "cannot leave network: owner must transfer ownership first"
  require (node.networks.contains netID)
    s!"node {nodeID} is not a member of network {netID}"
  let left := putNetwork (removeNodeNetwork s nodeID netID) netID
    (dropMember net nodeID)
  return {
    server := dropMemberInvites left nodeID netID
    wal := [.networkLeave nodeID netID]
    resp := [("type", .str "leave_network_ok"), ("network_id", .net netID)] }

/-- `HandleLeaveNetwork`. -/
def handleLeaveNetwork (E : Env) (s : Server) (msg : Msg) : Except String Outcome := do
  let nodeID := msg.jsonUint32 "node_id"
  let netID := msg.jsonUint16 "network_id"
  require (netID ≠ 0) "cannot leave the backbone network"
  let node ← orFail (s.nodes.get nodeID) s!"node {nodeID} not registered"
  signedOrAdmin E node msg s!"leave_network:{nodeID}:{netID}"
  commitLeave s nodeID netID

/-! ## Role-gated commands -/

/-- Every member's record forgets the network. -/
def forgetNetwork (s : Server) (members : List NodeId) (netID : NetId) : Server :=
  members.foldl (fun s m => removeNodeNetwork s m netID) s

/-- The last section of `HandleDeleteNetwork`. -/
def commitDelete (s : Server) (msg : Msg) : Except String Outcome := do
  let netID := msg.jsonUint16 "network_id"
  let net ← getNetwork s netID
  let s := forgetNetwork s net.members netID
  return {
    server := { s with
      inviteInbox := pruneInbox (fun inv => inv.networkID ≠ netID) s.inviteInbox
      networks := s.networks.del netID }
    wal := [.networkDelete netID]
    resp := [("type", .str "delete_network_ok"), ("network_id", .net netID)] }

/-- `HandleDeleteNetwork`. -/
def handleDeleteNetwork (E : Env) (s : Server) (msg : Msg) : Except String Outcome := do
  let netID := msg.jsonUint16 "network_id"
  require (netID ≠ 0) "cannot delete the backbone network"
  requireNetworkRole E s msg netID [.owner]
  commitDelete s msg

/-- The last section of `HandleRenameNetwork`. -/
def commitRename (s : Server) (msg : Msg) : Except String Outcome := do
  let netID := msg.jsonUint16 "network_id"
  let name := msg.str "name"
  let net ← getNetwork s netID
  let quoted := name.quote
  require (!nameTaken s (some netID) name) s!"network {quoted} already exists"
  return {
    server := putNetwork s netID { net with name := name }
    resp := [("type", .str "rename_network_ok"), ("network_id", .net netID), ("name", .str name)] }

/-- `HandleRenameNetwork`. -/
def handleRenameNetwork (E : Env) (s : Server) (msg : Msg) : Except String Outcome := do
  let netID := msg.jsonUint16 "network_id"
  require (netID ≠ 0) "cannot rename the backbone network"
  requireNetworkRole E s msg netID [.owner, .admin]
  validateNetworkName (msg.str "name")
  commitRename s msg

/-- The last section of `HandleKickMember`. -/
def commitKick (s : Server) (msg : Msg) : Except String Outcome := do
  let netID := msg.jsonUint16 "network_id"
  let target := msg.jsonUint32 "target_node_id"
  let net ← getNetwork s netID
  require (net.role target ≠ some .owner) "cannot kick the network owner"
  require (!(net.role (msg.jsonUint32 "node_id") = some .admin && net.role target = some .admin))
    "admins cannot kick other admins"
  require (net.members.contains target)
    s!"node {target} is not a member of network {netID}"
  let kicked := removeNodeNetwork (putNetwork s netID (dropMember net target))
    target netID
  return {
    server := dropMemberInvites kicked target netID
    resp := [("type", .str "kick_member_ok"), ("network_id", .net netID),
      ("target_node_id", .node target)] }

/-- `HandleKickMember`. It records no delta. -/
def handleKickMember (E : Env) (s : Server) (msg : Msg) : Except String Outcome := do
  let netID := msg.jsonUint16 "network_id"
  require (netID ≠ 0) "cannot kick from the backbone network"
  requireNetworkRole E s msg netID [.owner, .admin]
  requireEnterprise s netID
  commitKick s msg

/-- The last section of `HandlePromoteMember` and `HandleDemoteMember`. -/
def commitRole (s : Server) (msg : Msg) (verb : String) (newRole : Role)
    (already : String) : Except String Outcome := do
  let netID := msg.jsonUint16 "network_id"
  let target := msg.jsonUint32 "target_node_id"
  let net ← getNetwork s netID
  let current ← orFail (net.role target)
    s!"node {target} is not a member of network {netID}"
  require (current ≠ .owner) s!"cannot {verb} the owner"
  require (current ≠ newRole) s!"node {target} is already {already}"
  return {
    server := putNetwork s netID (setRole net target newRole)
    resp := [("type", .str s!"{verb}_member_ok"), ("network_id", .net netID),
      ("target_node_id", .node target), ("role", .str newRole.text)] }

/-- What `promote_member` and `demote_member` share: the owner moves a
member that is neither owner nor already of role `newRole` to that role. -/
def changeRole (E : Env) (s : Server) (msg : Msg) (verb : String)
    (newRole : Role) (already : String) : Except String Outcome := do
  let netID := msg.jsonUint16 "network_id"
  requireNetworkRole E s msg netID [.owner]
  requireEnterprise s netID
  commitRole s msg verb newRole already

/-- `HandlePromoteMember`. -/
def handlePromoteMember (E : Env) (s : Server) (msg : Msg) : Except String Outcome :=
  changeRole E s msg "promote" .admin "an admin"

/-- `HandleDemoteMember`. -/
def handleDemoteMember (E : Env) (s : Server) (msg : Msg) : Except String Outcome :=
  changeRole E s msg "demote" .member "a member"

/-- The last section of `HandleTransferOwnership`. The source takes the first
owner it meets while ranging over the role map; `order` is the order it met
the keys in. -/
def commitTransfer (order : List NodeId) (s : Server) (msg : Msg) : Except String Outcome := do
  let netID := msg.jsonUint16 "network_id"
  let newOwner := msg.jsonUint32 "new_owner_id"
  let net ← getNetwork s netID
  let currentOwner :=
    (order.find? fun id => net.role id = some .owner).getD 0
  require (currentOwner ≠ 0) s!"network {netID} has no owner"
  require (newOwner ≠ currentOwner) s!"node {newOwner} is already the owner"
  require (net.role newOwner).isSome
    s!"node {newOwner} is not a member of network {netID}"
  return {
    server := putNetwork s netID
      (setRole (setRole net currentOwner .admin) newOwner .owner)
    resp := [("type", .str "transfer_ownership_ok"), ("network_id", .net netID),
      ("old_owner", .node currentOwner), ("new_owner", .node newOwner)] }

/-- `HandleTransferOwnership`. -/
def handleTransferOwnership (E : Env) (order : List NodeId) (s : Server)
    (msg : Msg) : Except String Outcome := do
  let netID := msg.jsonUint16 "network_id"
  require (msg.jsonUint32 "new_owner_id" ≠ 0) "new_owner_id is required"
  requireNetworkRole E s msg netID [.owner]
  requireEnterprise s netID
  commitTransfer order s msg

/-- The last section of `HandleSetMemberTags`. -/
def commitTags (s : Server) (msg : Msg) : Except String Outcome := do
  let netID := msg.jsonUint16 "network_id"
  let target := msg.jsonUint32 "target_node_id"
  let tags := msg.strings "tags"
  let net ← getNetwork s netID
  require (net.members.contains target)
    s!"node {target} is not a member of network {netID}"
  let memberTags :=
    if tags.isEmpty then net.memberTags.del target
    else net.memberTags.set target tags
  return {
    server := putNetwork s netID { net with memberTags := memberTags }
    resp := [("type", .str "set_member_tags_ok"), ("network_id", .net netID),
      ("target_node_id", .node target), ("tags", .arr (tags.map .str))] }

/-- `HandleSetMemberTags`. -/
def handleSetMemberTags (E : Env) (s : Server) (msg : Msg) : Except String Outcome := do
  let netID := msg.jsonUint16 "network_id"
  requireNetworkRole E s msg netID [.owner, .admin]
  let tags := msg.strings "tags"
  require (tags.length ≤ 10) "too many member tags (max 10)"
  requireAll validateTag tags
  commitTags s msg

/-! ## Enterprise flag and invites -/

/-- One step of the role backfill: a member without a role becomes the
owner if there is none yet, and a plain member otherwise. -/
def backfillRole (st : GoMap NodeId Role × Bool) (m : NodeId) : GoMap NodeId Role × Bool :=
  if st.1.has m then st
  else if st.2 then (st.1.set m .member, true)
  else (st.1.set m .owner, true)

/-- The roles after the enterprise flag was set to `enterprise`. -/
def rolesForEnterprise (enterprise : Bool) (net : NetworkInfo) : Option (GoMap NodeId Role) :=
  if enterprise then
    if net.members.isEmpty then net.memberRoles
    else
      let roles := net.memberRoles.getD ∅
      some (net.members.foldl backfillRole
        (roles, roles.any fun _ r => decide (r = .owner))).1
  else none

/-- `HandleSetNetworkEnterprise`. -/
def handleSetNetworkEnterprise (E : Env) (s : Server) (msg : Msg) : Except String Outcome := do
  let netID := msg.jsonUint16 "network_id"
  let enterprise := msg.bool "enterprise"
  require (netID ≠ 0) "cannot set enterprise on the backbone network"
  require (requireAdminToken E msg).isOk
    "set_network_enterprise requires admin token"
  let net ← getNetwork s netID
  return {
    server := putNetwork s netID { net with
      enterprise := enterprise
      memberRoles := rolesForEnterprise enterprise net }
    resp := [("type", .str "set_network_enterprise_ok"),
      ("network_id", .net netID), ("enterprise", .bool enterprise)] }

/-- Whether the inviter acts with an admin token, global or the network's. -/
def invitesAsAdmin (E : Env) (s : Server) (msg : Msg) (netID : NetId) : Bool :=
  (requireAdminToken E msg).isOk ||
    (s.networks.get netID).any fun net => decide (net.adminToken ≠ "" ∧
      msg.str "admin_token" ≠ "" ∧ msg.str "admin_token" = net.adminToken)

/-- The inviter must be a member with a managing role. -/
def checkInviter (inviter : NodeId) (netID : NetId) (net : NetworkInfo) : Except String Unit := do
  require (net.members.contains inviter)
    s!"inviter {inviter} is not a member of network {netID}"
  let quoted := (((net.role inviter).map Role.text).getD "").quote
  require (net.role inviter = some .owner || net.role inviter = some .admin)
    s!"rbac: inviter {inviter} has role {quoted}, requires owner or admin"

/-- `HandleInviteToNetwork`. -/
def handleInviteToNetwork (E : Env) (now : Time) (s : Server) (msg : Msg) :
    Except String Outcome := do
  let netID := msg.jsonUint16 "network_id"
  let inviter := msg.jsonUint32 "inviter_id"
  let target := msg.jsonUint32 "target_node_id"
  require (inviter ≠ target) "cannot invite yourself"
  let inviterNode ← orFail (s.nodes.get inviter)
    s!"inviter node {inviter}: node not found"
  signedOrAdmin E inviterNode msg s!"invite:{inviter}:{netID}:{target}"
  requireEnterprise s netID
  let net ← getNetwork s netID
  let rule := net.joinRule
  require (net.joinRule = "invite")
    s!"network {netID} is not invite-only (rule: {rule})"
  (if invitesAsAdmin E s msg netID then .ok ()
    else checkInviter inviter netID net)
  let targetNode ← orFail (s.nodes.get target)
    s!"target node {target}: node not found"
  require (!targetNode.networks.contains netID)
    s!"node {target} is already a member of network {netID}"
  let inbox := (s.inviteInbox.get target).getD []
  let resp : Resp := [("type", .str "invite_to_network_ok"),
    ("network_id", .net netID), ("target_node_id", .node target)]
  if inbox.any fun inv => inv.networkID = netID then
    return { server := s, resp := resp ++ [("status", .str "already_invited")] }
  else
    require (inbox.length < maxInviteInbox) s!"invite inbox full for node {target}"
    let invite : NetworkInvite := ⟨netID, inviter, now⟩
    return {
      server := { s with
        inviteInbox := s.inviteInbox.set target (inbox ++ [invite]) }
      resp := resp }

/-- `HandlePollInvites`. Expired invites are dropped; an inbox that loses
all of them stays as an empty list. -/
def handlePollInvites (E : Env) (now : Time) (s : Server) (msg : Msg) : Except String Outcome := do
  let nodeID := msg.jsonUint32 "node_id"
  let node ← orFail (s.nodes.get nodeID) (nodeNotFound nodeID)
  verifyNodeSignature E (some node.publicKey) E.adminToken msg
    s!"poll_invites:{nodeID}"
  let inbox := (s.inviteInbox.get nodeID).getD []
  let active := inbox.filter fun inv => !expired now inv
  let server :=
    if active.length < inbox.length then
      { s with inviteInbox := s.inviteInbox.set nodeID active }
    else s
  return {
    server := server
    resp := [("type", .str "poll_invites_ok"), ("invites", .arr (active.map
      fun inv => .obj [("network_id", .net inv.networkID), ("inviter_id", .node inv.inviterID),
        ("timestamp", unixSeconds inv.timestamp)]))] }

/-- The first invite to the network in the inbox must be there and fresh. -/
def checkInvite (now : Time) (inbox : List NetworkInvite) (nodeID : NodeId)
    (netID : NetId) : Except String Unit := do
  let inv ← orFail (inbox.find? fun inv => inv.networkID = netID)
    s!"no pending invite for node {nodeID} to network {netID}"
  require (!expired now inv)
    s!"invite for node {nodeID} to network {netID} has expired"

/-- What accepting an invite does. It records no delta. -/
def acceptInvite (s : Server) (node : NodeInfo) (nodeID : NodeId)
    (netID : NetId) : Except String Server := do
  let net ← getNetwork s netID
  require net.enterprise "enterprise feature: requires enterprise network"
  require (belowLimit net) "network membership limit reached"
  require (!node.networks.contains netID)
    s!"node {nodeID} is already a member of network {netID}"
  return appendNodeNetwork (putNetwork s netID (addMember net nodeID))
    nodeID netID

/-- `HandleRespondInvite`. -/
def handleRespondInvite (E : Env) (now : Time) (s : Server) (msg : Msg) :
    Except String Outcome := do
  let nodeID := msg.jsonUint32 "node_id"
  let netID := msg.jsonUint16 "network_id"
  let accept := msg.bool "accept"
  requireEnterprise s netID
  let node ← orFail (s.nodes.get nodeID) (nodeNotFound nodeID)
  verifyNodeSignature E (some node.publicKey) E.adminToken msg
    s!"respond_invite:{nodeID}:{netID}"
  checkInvite now ((s.inviteInbox.get nodeID).getD []) nodeID netID
  let s ← (if accept then acceptInvite s node nodeID netID else .ok s)
  return {
    server := { s with
      inviteInbox := pruneOwnInbox nodeID (fun inv => inv.networkID ≠ netID)
        s.inviteInbox }
    resp := [("type", .str "respond_invite_ok"), ("accepted", .bool accept),
      ("network_id", .net netID)] }

end Rendezvous.Membership

import Rendezvous.Registry.Env

/-!
# Authorization gates

The checks of package `authz` that the handlers run before they touch the
state: the global admin token, the role gate of a network, the enterprise
gate, and the signature of a node.

`requireNetworkRole` is the gate of every command that changes a network's
settings or its members. `RoleGrant` says what it accepts, and
`requireNetworkRole_ok` that it accepts nothing else. The gate reads the
role of the node the message *names*; it does not look at a signature.
-/

namespace Rendezvous.Authz

open Base Registry

/-- `checkAdminToken`. -/
def checkAdminToken (msg : Msg) (adminToken : String) : Except String Unit := do
  require (adminToken ≠ "") "network creation is disabled"
  require (msg.str "admin_token" = adminToken) "invalid admin token"

/-- `RequireAdminToken`. -/
def requireAdminToken (E : Env) (msg : Msg) : Except String Unit :=
  checkAdminToken msg E.adminToken

/-- The message carries the global admin token, and there is one. -/
def HasAdminToken (E : Env) (msg : Msg) : Prop :=
  E.adminToken ≠ "" ∧ msg.str "admin_token" = E.adminToken

/-- The message carries the network's own admin token, and there is one. -/
def HasNetworkToken (net : NetworkInfo) (msg : Msg) : Prop :=
  net.adminToken ≠ "" ∧ msg.str "admin_token" = net.adminToken

instance (E : Env) (msg : Msg) : Decidable (HasAdminToken E msg) :=
  inferInstanceAs (Decidable (_ ∧ _))

instance (net : NetworkInfo) (msg : Msg) : Decidable (HasNetworkToken net msg) :=
  inferInstanceAs (Decidable (_ ∧ _))

/-- The roles as Go prints them, `[owner admin]`. -/
def rolesText (roles : List Role) : String :=
  "[" ++ " ".intercalate (roles.map Role.text) ++ "]"

/-- The error for a network that is not there. -/
def networkNotFound (netID : NetId) : String :=
  s!"network {netID}: network not found"

/-- The error for a node that is not there. -/
def nodeNotFound (nodeID : NodeId) : String :=
  s!"node {nodeID}: node not found"

/-- The third branch of `RequireNetworkRole`: the role of the node that the
`node_id` field names. -/
def requireNamedRole (msg : Msg) (netID : NetId) (net : NetworkInfo)
    (allowed : List Role) : Except String Unit := do
  let nodeID := msg.jsonUint32 "node_id"
  require (nodeID ≠ 0) "rbac: node_id required for role-based authorization"
  let role ← orFail (net.role nodeID)
    s!"rbac: node {nodeID} has no role in network {netID}"
  let quoted := role.text.quote
  let wanted := rolesText allowed
  require (allowed.contains role)
    s!"rbac: node {nodeID} has role {quoted}, requires one of {wanted}"

/-- `RequireNetworkRole`. -/
def requireNetworkRole (E : Env) (s : Server) (msg : Msg) (netID : NetId)
    (allowed : List Role) : Except String Unit :=
  if (requireAdminToken E msg).isOk then .ok ()
  else do
    let net ← orFail (s.networks.get netID) (networkNotFound netID)
    if net.adminToken ≠ "" ∧ msg.str "admin_token" ≠ "" ∧
        msg.str "admin_token" = net.adminToken then .ok ()
    else requireNamedRole msg netID net allowed

/-- `RequireEnterprise`. -/
def requireEnterprise (s : Server) (netID : NetId) : Except String Unit := do
  let net ← orFail (s.networks.get netID) (networkNotFound netID)
  require net.enterprise "enterprise feature: requires enterprise network"

/-- `VerifyNodeSignature`. The key is `none` where the source's is nil. -/
def verifyNodeSignature (E : Env) (pubKey : Option Bytes) (adminToken : String)
    (msg : Msg) (challenge : String) : Except String Unit :=
  match pubKey with
  | none => require (checkAdminToken msg adminToken).isOk
      "node has no public key: signature or admin token required"
  | some key => do
    require (msg.str "signature" ≠ "")
      "signature required for authenticated node"
    let sig ← orFail (Base64.decode (msg.str "signature"))
      "invalid signature encoding"
    require (E.verifyCached key (utf8 challenge) sig)
      "signature verification failed"

/-- The message carries a signature over `challenge` that the cached check
accepts under `key`. -/
def SignedBy (E : Env) (key : Bytes) (msg : Msg) (challenge : String) : Prop :=
  ∃ sig, Base64.decode (msg.str "signature") = some sig ∧
    E.verifyCached key (utf8 challenge) sig = true

/-! ## What the gates accept -/

@[simp] theorem isOk_iff (x : Except String Unit) : x.isOk = true ↔ x = .ok () := by
  cases x <;> simp [Except.isOk, Except.toBool]

theorem checkAdminToken_ok (msg : Msg) (tok : String) : checkAdminToken msg tok = .ok () ↔
      tok ≠ "" ∧ msg.str "admin_token" = tok := by
  simp [checkAdminToken, bind_eq_ok]

theorem requireAdminToken_ok (E : Env) (msg : Msg) :
    requireAdminToken E msg = .ok () ↔ HasAdminToken E msg :=
  checkAdminToken_ok msg E.adminToken

/-- The node that `node_id` names holds one of the allowed roles. -/
def NamesRole (net : NetworkInfo) (msg : Msg) (allowed : List Role) : Prop :=
  msg.jsonUint32 "node_id" ≠ 0 ∧ ∃ role ∈ allowed, net.role (msg.jsonUint32 "node_id") = some role

/-- What the role gate of a network accepts. -/
def RoleGrant (E : Env) (s : Server) (msg : Msg) (netID : NetId)
    (allowed : List Role) : Prop :=
  HasAdminToken E msg ∨ ∃ net, s.networks.get netID = some net ∧
      (HasNetworkToken net msg ∨ NamesRole net msg allowed)

theorem requireNamedRole_ok (msg : Msg) (netID : NetId) (net : NetworkInfo)
    (allowed : List Role) :
    requireNamedRole msg netID net allowed = .ok () ↔ NamesRole net msg allowed := by
  simp only [requireNamedRole, bind_eq_ok, require_eq_ok, orFail_eq_ok,
    decide_eq_true_eq, NamesRole, List.contains_iff_mem, exists_const]
  constructor
  · rintro ⟨hid, role, hrole, hmem⟩
    exact ⟨hid, role, hmem, hrole⟩
  · rintro ⟨hid, role, hmem, hrole⟩
    exact ⟨hid, role, hrole, hmem⟩

theorem requireNetworkRole_ok (E : Env) (s : Server) (msg : Msg)
    (netID : NetId) (allowed : List Role) :
    requireNetworkRole E s msg netID allowed = .ok () ↔ RoleGrant E s msg netID allowed := by
  unfold requireNetworkRole RoleGrant
  simp only [isOk_iff, requireAdminToken_ok]
  by_cases hadm : HasAdminToken E msg
  · simp [hadm]
  · simp only [hadm, if_false, false_or, bind_eq_ok, orFail_eq_ok]
    refine exists_congr fun net => and_congr_right fun _ => ?_
    by_cases htok : HasNetworkToken net msg
    · simp [htok, htok.1, htok.2]
    · have hno : ¬(net.adminToken ≠ "" ∧ msg.str "admin_token" ≠ "" ∧
          msg.str "admin_token" = net.adminToken) :=
        fun h => htok ⟨h.1, h.2.2⟩
      simp only [hno, if_false, htok, false_or]
      exact requireNamedRole_ok msg netID net allowed

theorem verifyNodeSignature_ok (E : Env) (key : Bytes) (adminToken : String)
    (msg : Msg) (challenge : String) :
    verifyNodeSignature E (some key) adminToken msg challenge = .ok () ↔
      msg.str "signature" ≠ "" ∧ SignedBy E key msg challenge := by
  simp [verifyNodeSignature, bind_eq_ok, SignedBy]

end Rendezvous.Authz

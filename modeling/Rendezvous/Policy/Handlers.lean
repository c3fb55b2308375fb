import Rendezvous.Membership.Handlers

/-!
# Policy handlers

The two commands of package `policy` that change a network: the policy
constraints and the expression-policy document. Both pass the role gate
for owners and admins; only the first one passes the enterprise gate.
-/

namespace Rendezvous.Policy

open Base Registry Authz Rendezvous.Membership

/-- `v == float64(int(v))`. -/
def isInteger (v : Rat) : Bool := v.den = 1

/-- The `max_members` field: an integer in range that the network's present
members fit. Without the field the old limit stays. -/
def parseMaxMembers (msg : Msg) (net : NetworkInfo) : Except String Int :=
  match msg.num? "max_members" with
  | none => .ok net.policy.maxMembers
  | some v => do
    require (0 ≤ v && v ≤ 10000 && isInteger v)
      "invalid max_members (must be integer 0-10000)"
    let newMax := v.floor
    let count := net.members.length
    require (!(newMax > 0 && (count : Int) > newMax))
      s!"cannot set max_members to {newMax}: network already has {count} members"
    return newMax

/-- The port list: integers in range, each kept once, in order. -/
def parsePorts (acc : List UInt16) : List Json → Except String (List UInt16)
  | [] => .ok acc
  | .num v :: rest =>
    if 1 ≤ v ∧ v ≤ 65535 ∧ isInteger v then
      let p := UInt16.ofNat v.floor.toNat
      parsePorts (if acc.contains p then acc else acc ++ [p]) rest
    else
      .error "invalid port number in allowed_ports (must be integer 1-65535)"
  | _ :: _ =>
    .error "invalid port number in allowed_ports (must be integer 1-65535)"

/-- The `allowed_ports` field. Without it the old list stays. -/
def parseAllowedPorts (msg : Msg) (net : NetworkInfo) : Except String (List UInt16) :=
  match msg.arr? "allowed_ports" with
  | none => .ok net.policy.allowedPorts
  | some ports => do
    require (ports.length ≤ 100) "too many allowed_ports (max 100)"
    parsePorts [] ports

/-- The `description` field. Without it the old text stays. -/
def parseDescription (msg : Msg) (net : NetworkInfo) : Except String String :=
  match msg.str? "description" with
  | none => .ok net.policy.description
  | some text => do
    require (text.utf8ByteSize ≤ 256)
      "policy description too long (max 256 chars)"
    return text

/-- What a policy command will write, and its answer. -/
structure PolicyWrite where
  policy : NetworkPolicy
  expr : Option String
  resp : Resp

/-- `HandleSetNetworkPolicy` from the read to the write. -/
def readNetworkPolicy (s : Server) (msg : Msg) : Except String PolicyWrite := do
  let netID := msg.jsonUint16 "network_id"
  let net ← getNetwork s netID
  let maxMembers ← parseMaxMembers msg net
  let allowedPorts ← parseAllowedPorts msg net
  let description ← parseDescription msg net
  return {
    policy := { maxMembers, allowedPorts, description }
    expr := net.exprPolicy
    resp := [("type", .str "set_network_policy_ok"), ("network_id", .net netID),
      ("max_members", .num maxMembers),
      ("allowed_ports", .arr (allowedPorts.map fun p => .num p.toNat)),
      ("description", .str description)] }

/-- The write of a policy command. It stores the policy and the document,
of which it read one before. -/
def writePolicy (s : Server) (msg : Msg) (p : PolicyWrite) : Except String Outcome := do
  let netID := msg.jsonUint16 "network_id"
  let net ← getNetwork s netID
  return {
    server := putNetwork s netID { net with policy := p.policy, exprPolicy := p.expr }
    resp := p.resp }

/-- `HandleSetNetworkPolicy`. -/
def handleSetNetworkPolicy (E : Env) (s : Server) (msg : Msg) : Except String Outcome := do
  let netID := msg.jsonUint16 "network_id"
  requireNetworkRole E s msg netID [.owner, .admin]
  requireEnterprise s netID
  readNetworkPolicy s msg >>= writePolicy s msg

/-- What `set_expr_policy` is asked to store: `none` clears the policy. -/
def exprPolicyField (E : Env) (msg : Msg) : Except String (Option String) :=
  match msg.field "expr_policy" with
  | some (.str doc) =>
    if doc = "" ∨ doc = "null" then .ok none else .ok (some doc)
  | some (.obj fields) => .ok (some (E.marshal fields))
  | _ => .error "expr_policy field is required"

/-- A new policy document must be of version one and have rules. -/
def checkExprPolicy (E : Env) (doc : String) : Except String Unit := do
  let header ← checkExprVersion E doc
  require (!(header.rules = "" || header.rules = "null"))
    "expr_policy: at least one rule is required"

/-- `HandleSetExprPolicy` from the read to the write. -/
def readExprPolicy (E : Env) (s : Server) (msg : Msg) : Except String PolicyWrite := do
  let netID := msg.jsonUint16 "network_id"
  let net ← getNetwork s netID
  let doc ← exprPolicyField E msg
  (match doc with
    | none => .ok ()
    | some text => checkExprPolicy E text)
  return {
    policy := net.policy
    expr := doc
    resp := [("type", .str "set_expr_policy_ok"), ("network_id", .net netID)] ++
      if doc.isNone then [("cleared", .bool true)] else [] }

/-- `HandleSetExprPolicy`. -/
def handleSetExprPolicy (E : Env) (s : Server) (msg : Msg) : Except String Outcome := do
  requireNetworkRole E s msg (msg.jsonUint16 "network_id") [.owner, .admin]
  readExprPolicy E s msg >>= writePolicy s msg

end Rendezvous.Policy

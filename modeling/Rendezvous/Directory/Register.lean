import Rendezvous.Membership.Ops

/-!
# Registration

`HandleRegister` reads and checks a register message, and
`HandleReRegister` decides which node id it is about: a known key keeps
its id, a known key whose node is gone reclaims it, an owner whose node is
gone reclaims its id with the new key, and every other key gets the next
free id. Only the last case records a delta.

The key index is looked up by the key's *text*, as it came in the message.
-/

namespace Rendezvous.Directory

open Base Registry Authz Rendezvous.Membership

/-- The arguments of `HandleReRegister`. -/
structure RegisterReq where
  publicKey : String
  listenAddr : String := ""
  owner : String := ""
  hostname : String := ""
  lanAddrs : List String := []
  version : String := ""
  relayOnly : Bool := false
  sigVerified : Bool := false
  deriving DecidableEq

/-! ## Pieces of the handler -/

/-- `setNodeHostname`: the state and the fields it adds to the response. A
hostname in use by another node is reported and not set. -/
def setNodeHostname (s : Server) (nodeID : NodeId) (hostname : String) : Server × Resp :=
  if hostname = "" then (s, [])
  else if (s.hostnameIdx.get hostname).any fun id => id ≠ nodeID then
    let quoted := hostname.quote
    (s, [("hostname_error", .str s!"hostname {quoted} already in use")])
  else
    let old := ((s.nodes.get nodeID).map NodeInfo.hostname).getD ""
    let idx := if old ≠ "" then s.hostnameIdx.del old else s.hostnameIdx
    ({ s with
        nodes := s.nodes.modify nodeID fun n => { n with hostname := hostname }
        hostnameIdx := idx.set hostname nodeID },
      [("hostname", .str hostname)])

/-- `AddNodeToBackbone`. The backbone is created at start and never
deleted. -/
def addNodeToBackbone (s : Server) (nodeID : NodeId) : Server :=
  { s with networks := s.networks.modify 0 fun net =>
      if net.members.contains nodeID then net
      else { net with members := net.members ++ [nodeID] } }

/-- `ScanNetworkMemberships`: the networks other than the backbone that
still list the node, in the order the source meets them. -/
def scanNetworkMemberships (order : List NetId) (s : Server) (nodeID : NodeId) : List NetId :=
  order.filter fun netID => netID ≠ 0 &&
    (s.networks.get netID).any fun net => net.members.contains nodeID

/-- An owner enters the owner index, unless it is empty. -/
def indexOwner (s : Server) (owner : String) (nodeID : NodeId) : Server :=
  if owner = "" then s
  else { s with ownerIdx := s.ownerIdx.set owner nodeID }

/-- The response to a registration, without the hostname fields. -/
def registerResp (E : Env) (nodeID : NodeId) (publicKey : String) : Resp :=
  [("type", .str "register_ok"), ("node_id", .node nodeID),
    ("network_id", .num 0), ("address", .str (E.addrString 0 nodeID)),
    ("public_key", .str publicKey)]

/-- What a known node's record takes from a registration. -/
def refresh (req : RegisterReq) (n : NodeInfo) : NodeInfo :=
  { n with
    realAddr := req.listenAddr
    lanAddrs := req.lanAddrs
    version := if req.version = "" then n.version else req.version
    relayOnly := req.relayOnly
    sigVerified := n.sigVerified || req.sigVerified }

/-- The record of a node that registers under a fresh or reclaimed id. -/
def freshNode (req : RegisterReq) (key : Bytes) (networks : List NetId)
    (now : Time) : NodeInfo where
  owner := req.owner
  publicKey := key
  realAddr := req.listenAddr
  networks := networks
  lastSeen := now
  lanAddrs := req.lanAddrs
  keyMeta := { createdAt := now }
  version := req.version
  relayOnly := req.relayOnly
  sigVerified := req.sigVerified
  lastSeenNano := now

/-- A fresh record is filed, put on the backbone, and given its hostname. -/
def fileNode (s : Server) (nodeID : NodeId) (n : NodeInfo) (hostname : String) : Server × Resp :=
  setNodeHostname
    (addNodeToBackbone { s with nodes := s.nodes.set nodeID n } nodeID)
    nodeID hostname

/-! ## The branches -/

/-- The fast path: nothing the indices depend on changes. -/
def needsNoIndex (req : RegisterReq) (n : NodeInfo) : Bool :=
  !(req.owner ≠ "" && n.owner = "") && !(req.hostname ≠ "" && req.hostname ≠ n.hostname)

/-- The key's node is registered. -/
def refreshKnown (E : Env) (now : Time) (s : Server) (req : RegisterReq)
    (nodeID : NodeId) (n : NodeInfo) : Outcome :=
  if needsNoIndex req n then
    let node := { refresh req n with lastSeenNano := now }
    { server := { s with nodes := s.nodes.set nodeID node }
      resp := registerResp E nodeID req.publicKey ++
        if n.hostname = "" then [] else [("hostname", .str n.hostname)] }
  else
    let takesOwner := req.owner ≠ "" ∧ n.owner = ""
    let refreshed := (refresh req n).setLastSeen now
    let node := if takesOwner then { refreshed with owner := req.owner }
      else refreshed
    let s := { s with nodes := s.nodes.set nodeID node }
    let s := if takesOwner then indexOwner s req.owner nodeID else s
    let (s, extra) := setNodeHostname s nodeID req.hostname
    { server := s, resp := registerResp E nodeID req.publicKey ++ extra }

/-- The key is known but its node is gone: the id comes back with it. -/
def reclaimByKey (E : Env) (now : Time) (order : List NetId) (s : Server)
    (req : RegisterReq) (nodeID : NodeId) (key : Bytes) : Outcome :=
  let networks := 0 :: scanNetworkMemberships order s nodeID
  let (s, extra) := fileNode (indexOwner s req.owner nodeID) nodeID
    (freshNode req key networks now) req.hostname
  { server := s, resp := registerResp E nodeID req.publicKey ++ extra }

/-- The key is unknown, the owner's node is gone: its id gets the new key. -/
def reclaimByOwner (E : Env) (now : Time) (s : Server) (req : RegisterReq)
    (nodeID : NodeId) (key : Bytes) : Outcome :=
  let s := { s with pubKeyIdx := s.pubKeyIdx.set req.publicKey nodeID }
  let (s, extra) := fileNode s nodeID (freshNode req key [0] now) req.hostname
  { server := s, resp := registerResp E nodeID req.publicKey ++ extra }

/-- A key and an owner the registry does not know. -/
def registerNew (E : Env) (now : Time) (s : Server) (req : RegisterReq)
    (key : Bytes) : Except String Outcome := do
  require (!(E.maxNodes > 0 && (s.nodes.size : Int) ≥ E.maxNodes))
    "registry full"
  require (s.nextNode ≠ 0) "node ID space exhausted"
  let nodeID := s.nextNode
  let s := { s with
    nextNode := s.nextNode + 1
    pubKeyIdx := s.pubKeyIdx.set req.publicKey nodeID }
  let (s, extra) := fileNode (indexOwner s req.owner nodeID) nodeID
    (freshNode req key [0] now) req.hostname
  let hostname := ((s.nodes.get nodeID).map NodeInfo.hostname).getD ""
  return {
    server := s
    resp := registerResp E nodeID req.publicKey ++ extra
    wal := [.register {
      nodeID := nodeID
      owner := req.owner
      publicKey := req.publicKey
      realAddr := req.listenAddr
      hostname := hostname
      lanAddrs := req.lanAddrs
      version := req.version
      createdAt := some (rfc3339 now) }] }

/-- A key the index does not know: the owner's id if its node is gone, a
refusal if it is not, and a new id without an owner entry. -/
def registerUnknown (E : Env) (now : Time) (s : Server) (req : RegisterReq)
    (key : Bytes) : Except String Outcome :=
  match (if req.owner = "" then none else s.ownerIdx.get req.owner) with
  | none => registerNew E now s req key
  | some nodeID =>
    if s.nodes.has nodeID then
      let quoted := req.owner.quote
      .error (s!"owner {quoted} is already bound to node {nodeID} with a different key; " ++
        "use recover_identity to rotate the key")
    else .ok (reclaimByOwner E now s req nodeID key)

/-- The ratchet: a key that once registered with a signature takes no
unsigned registration while its node is there. -/
def ratchetRejects (s : Server) (req : RegisterReq) : Option NodeId := do
  let nodeID ← s.pubKeyIdx.get req.publicKey
  let n ← s.nodes.get nodeID
  if n.sigVerified && !req.sigVerified then some nodeID else none

/-- `HandleReRegister`. -/
def handleReRegister (E : Env) (now : Time) (order : List NetId) (s : Server)
    (req : RegisterReq) : Except String Outcome := do
  let key ← orFail (E.decodePublicKey req.publicKey) "invalid public key"
  (match ratchetRejects s req with
    | some nodeID => .error
        s!"node {nodeID}: unsigned registration cannot modify a signature-verified key"
    | none => .ok ())
  match s.pubKeyIdx.get req.publicKey with
  | some nodeID =>
    match s.nodes.get nodeID with
    | some n => return refreshKnown E now s req nodeID n
    | none => return reclaimByKey E now order s req nodeID key
  | none => registerUnknown E now s req key

/-! ## The register command -/

/-- The signature of a register message, when there is one: it must verify
under the very key it registers. -/
def checkRegisterSig (E : Env) (msg : Msg) (publicKey : String) : Except String Bool :=
  let clientAddr := msg.str "listen_addr"
  if msg.str "signature" ≠ "" then do
    let key ← orFail (E.decodePublicKey publicKey)
      "registration: invalid public_key"
    let sig ← orFail (Base64.decode (msg.str "signature"))
      "registration: invalid signature encoding"
    require (E.verify key (utf8 s!"register:{clientAddr}:{publicKey}") sig)
      "registration: signature verification failed"
    return true
  else if E.strictRegistrationAuth then
    .error "registration: signature required"
  else .ok false

/-- The external identity a register message proves, or the empty one. -/
def checkIdentityToken (E : Env) (msg : Msg) : Except String String :=
  match E.verifyToken with
  | some verifyToken =>
    if msg.str "identity_token" = "" then .ok ""
    else verifyToken (msg.str "identity_token")
  | none => .ok ""

/-- `setExternalID`, on the id the response carries. -/
def setExternalID (s : Server) (nodeID : NodeId) (externalID : String) : Server :=
  { s with nodes := s.nodes.modify nodeID fun n =>
      { n with externalID := externalID } }

/-- The id a register response carries. -/
def respNode (resp : Resp) : NodeId := Msg.jsonUint32 resp "node_id"

/-- The fields every successful register response gets at the end. -/
def observedFields (E : Env) (listenAddr : String) : Resp :=
  [("observed_addr", .str listenAddr), ("protocol_version", .num E.protocolVersion)]

/-- The arguments for `HandleReRegister` that a register message gives. -/
def registerReq (E : Env) (remoteAddr : String) (msg : Msg) (publicKey : String)
    (sigVerified : Bool) : RegisterReq where
  publicKey := publicKey
  listenAddr := E.sanitizeListenAddr remoteAddr (msg.str "listen_addr")
  owner := msg.str "owner"
  hostname := msg.str "hostname"
  lanAddrs := (msg.strings "lan_addrs").filter fun a => a ≠ ""
  version := msg.str "version"
  relayOnly := msg.bool "relay_only"
  sigVerified := sigVerified

/-- `HandleRegister`. A hostname that is not valid is reported, and the
registration goes on without it. -/
def handleRegister (E : Env) (now : Time) (order : List NetId)
    (remoteAddr : String) (s : Server) (msg : Msg) : Except String Outcome := do
  let externalID ← checkIdentityToken E msg
  let publicKey ← orFail (msg.str? "public_key") "registration requires public_key"
  require (publicKey ≠ "") "registration requires public_key"
  let sigVerified ← checkRegisterSig E msg publicKey
  let req := registerReq E remoteAddr msg publicKey sigVerified
  match validateHostname req.hostname with
  | .error e =>
    let o ← handleReRegister E now order s { req with hostname := "" }
    return { o with
      resp := o.resp ++ [("hostname_error", .str e)] ++ observedFields E req.listenAddr }
  | .ok _ =>
    let o ← handleReRegister E now order s req
    let resp := o.resp ++ observedFields E req.listenAddr
    if externalID = "" ∨ respNode o.resp = 0 then
      return { o with resp := resp }
    else
      return { o with
        server := setExternalID o.server (respNode o.resp) externalID
        resp := resp ++ [("external_id", .str externalID)] }

end Rendezvous.Directory

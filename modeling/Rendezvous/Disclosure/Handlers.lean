import Rendezvous.Base.TwoRuns
import Rendezvous.Lifecycle.Queries

/-!
# The queries that disclose a node

What a caller can learn about another node: `lookup` and `resolve`, each in
two encodings, `resolve_hostname`, `list_nodes` and `punch`. The JSON lookup
is `handleLookup`; the others are here.

Every one of them decides for itself whether the caller may reach a private
node, and puts in an address of its own where a node is only reached through
the relay. The listing of a network is kept for a second: `Listings` holds
the bodies built last.

A node record always has a key, so the branches for a node without one are
left out, and so are the request counters. The encodings of the binary
messages belong to the common library, and are given.
-/

namespace Rendezvous.Disclosure

open Base Registry Authz Trust Lifecycle

/-! ## Binary messages -/

/-- The fields of a binary lookup response. -/
structure LookupReply where
  nodeID : NodeId
  isPublic : Bool
  taskExec : Bool
  networks : List NetId
  publicKey : Bytes
  hostname : String
  tags : List String
  realAddr : String
  externalID : String
  deriving DecidableEq

/-- The fields of a binary resolve response. -/
structure ResolveReply where
  nodeID : NodeId
  realAddr : String
  lanAddrs : List String
  keyAgeDays : Int
  deriving DecidableEq

/-- The message types the two handlers answer with. -/
inductive MsgType where
  | error
  | lookupOK
  | resolveOK
  deriving DecidableEq

/-- `WriteFrame`: a message type and its payload. -/
structure Frame where
  type : MsgType
  payload : Bytes
  deriving DecidableEq

/-- What the disclosing queries are given besides. -/
structure DirectoryEnv extends QueryEnv where
  /-- `wire.DecodeLookupReq`. -/
  decodeLookupReq : Bytes → Except String NodeId
  /-- `wire.DecodeResolveReq`: the node, the requester, the signature. -/
  decodeResolveReq : Bytes → Except String (NodeId × NodeId × Bytes)
  /-- `wire.EncodeError`. -/
  encodeError : String → Bytes
  /-- `wire.EncodeLookupResp`. -/
  encodeLookupResp : LookupReply → Bytes
  /-- `wire.EncodeResolveResp`. -/
  encodeResolveResp : ResolveReply → Bytes

/-- The plain environment of the disclosing queries, with the relay at
`relay:1`. A lookup names its node in one byte; a resolve names the node and
the requester, and the rest is the signature. The fields of an answer that
are read in the examples are sent one after the other. -/
def DirectoryEnv.plain (strict : Bool) : DirectoryEnv where
  toQueryEnv := { QueryEnv.plain with strictDirectoryAuth := strict, beaconAddr := "relay:1" }
  decodeLookupReq := fun
    | [id] => .ok id.toUInt32
    | _ => .error "bad lookup"
  decodeResolveReq := fun
    | id :: requester :: sig => .ok (id.toUInt32, requester.toUInt32, sig)
    | _ => .error "bad resolve"
  encodeError := utf8
  encodeLookupResp := fun r => r.nodeID.toUInt8 :: utf8 r.realAddr
  encodeResolveResp := fun r => r.nodeID.toUInt8 :: utf8 r.realAddr

/-- The frame that answers a binary request: an error frame, or the one made
of what was found. -/
def frameOf {α : Type} (E : DirectoryEnv) (x : Except String α) (reply : α → Frame) : Frame :=
  match x with
  | .error text => ⟨.error, E.encodeError text⟩
  | .ok a => reply a

/-! ## What is read of a record -/

/-- The requester and the node are both in a network other than the
backbone. -/
def sharesNetwork (requester n : NodeInfo) : Bool :=
  requester.networks.any fun rNet => rNet ≠ 0 && n.networks.contains rNet

/-- The endpoint of a node: the relay's, where it is only reached through
the relay. -/
def endpoint (E : DirectoryEnv) (n : NodeInfo) : String :=
  if n.relayOnly then E.beaconAddr else n.realAddr

/-- The LAN addresses that are given out. -/
def lanAddrsOf (n : NodeInfo) : List String := if n.relayOnly then [] else n.lanAddrs

/-- `time.Since`, which stays within what a duration can hold. -/
def since (now t : Time) : Int := max (-9223372036854775808) (min 9223372036854775807 (now - t))

/-- Nanoseconds in a day. -/
def day : Int := 24 * 3600 * second

/-- The whole days the key has been in use. The source divides in floating
point; this is the division without its rounding. -/
def keyAgeDays (now : Time) (n : NodeInfo) : Option Int :=
  let keyStart := if n.keyMeta.rotatedAt ≠ zeroTime then n.keyMeta.rotatedAt
    else n.keyMeta.createdAt
  if keyStart ≠ zeroTime then some ((since now keyStart).tdiv day) else none

/-! ## `lookup`, in binary -/

/-- The error text of the binary handlers for a node that is not there. -/
def notFoundText (nodeID : NodeId) : String := s!"node {nodeID}: not found"

/-- The fields of a record that a binary lookup answers with. -/
def lookupReply (E : DirectoryEnv) (nodeID : NodeId) (n : NodeInfo) : LookupReply where
  nodeID := nodeID
  isPublic := n.isPublic
  taskExec := n.taskExec
  networks := n.networks
  publicKey := n.publicKey
  hostname := n.hostname
  tags := n.tags
  realAddr := if n.isPublic then endpoint E n else ""
  externalID := ""

/-- The record a binary lookup answers from. The request has no signature:
a private node is not found in strict mode. -/
def binaryLookupRecord (E : DirectoryEnv) (s : Server) (payload : Bytes) :
    Except String (NodeId × NodeInfo) := do
  let nodeID ← E.decodeLookupReq payload
  let n ← orFail (s.nodes.get nodeID) (notFoundText nodeID)
  require (!(E.strictDirectoryAuth && !n.isPublic)) (notFoundText nodeID)
  return (nodeID, n)

/-- `HandleBinaryLookup`. -/
def handleBinaryLookup (E : DirectoryEnv) (s : Server) (payload : Bytes) : Frame :=
  frameOf E (binaryLookupRecord E s payload) fun (nodeID, n) =>
    ⟨.lookupOK, E.encodeLookupResp (lookupReply E nodeID n)⟩

/-! ## `resolve` -/

/-- The error for a requester that is not there. -/
def notRegistered (requesterID : NodeId) : String :=
  s!"resolve denied: requester node {requesterID} is not registered"

/-- The error for a private node out of strict mode. -/
def isPrivate (nodeID : NodeId) : String :=
  s!"resolve denied: node {nodeID} is private (establish mutual trust first)"

/-- The challenge a resolve signs, in both encodings. -/
def resolveChallenge (requesterID nodeID : NodeId) : String :=
  s!"resolve:{requesterID}:{nodeID}"

/-- The record a resolve answers from. -/
def resolveRecord (E : DirectoryEnv) (s : Server) (msg : Msg) : Except String NodeInfo := do
  let nodeID := msg.jsonUint32 "node_id"
  let requesterID := msg.jsonUint32 "requester_id"
  let requester ← orFail (s.nodes.get requesterID) (notRegistered requesterID)
  verifyNodeSignature E.toEnv (some requester.publicKey) E.adminToken msg
    (resolveChallenge requesterID nodeID)
  let n ← orFail (s.nodes.get nodeID) (nodeNotFound nodeID)
  require (n.isPublic || isTrusted s.trust requesterID nodeID || sharesNetwork requester n)
    (if E.strictDirectoryAuth then nodeNotFound nodeID else isPrivate nodeID)
  return n

/-- The answer to a resolve. -/
def resolveResp (E : DirectoryEnv) (now : Time) (nodeID : NodeId) (n : NodeInfo) : Resp :=
  List.flatten [[("type", .str "resolve_ok"), ("node_id", .node nodeID),
      ("real_addr", .str (endpoint E n))],
    fieldsIf (lanAddrsOf n ≠ []) [("lan_addrs", .arr ((lanAddrsOf n).map .str))],
    fieldsIf n.relayOnly [("relay_only", .bool true)],
    ((keyAgeDays now n).map fun age => ("key_age_days", .num (age : Rat))).toList]

/-- `HandleResolve`. -/
def handleResolve (E : DirectoryEnv) (now : Time) (s : Server) (msg : Msg) :
    Except String Resp := do
  let n ← resolveRecord E s msg
  return resolveResp E now (msg.jsonUint32 "node_id") n

/-- The record a binary resolve answers from. -/
def binaryResolveRecord (E : DirectoryEnv) (s : Server) (payload : Bytes) :
    Except String (NodeId × NodeInfo) := do
  let (nodeID, requesterID, sig) ← E.decodeResolveReq payload
  let requester ← orFail (s.nodes.get requesterID) (notRegistered requesterID)
  require (E.verifyCached requester.publicKey (utf8 (resolveChallenge requesterID nodeID)) sig)
    "signature verification failed"
  let n ← orFail (s.nodes.get nodeID) (notFoundText nodeID)
  require (n.isPublic || isTrusted s.trust requesterID nodeID || sharesNetwork requester n)
    (if E.strictDirectoryAuth then notFoundText nodeID else isPrivate nodeID)
  return (nodeID, n)

/-- The fields of a binary resolve response; a key age of `-1` is none. -/
def resolveReply (E : DirectoryEnv) (now : Time) (nodeID : NodeId) (n : NodeInfo) :
    ResolveReply where
  nodeID := nodeID
  realAddr := endpoint E n
  lanAddrs := lanAddrsOf n
  keyAgeDays := (keyAgeDays now n).getD (-1)

/-- `HandleBinaryResolve`. -/
def handleBinaryResolve (E : DirectoryEnv) (now : Time) (s : Server) (payload : Bytes) : Frame :=
  frameOf E (binaryResolveRecord E s payload) fun (nodeID, n) =>
    ⟨.resolveOK, E.encodeResolveResp (resolveReply E now nodeID n)⟩

/-! ## `resolve_hostname` -/

/-- The error for a hostname that is not there. -/
def hostnameNotFound (hostname : String) : String :=
  let quoted := hostname.quote
  s!"hostname {quoted} not found"

/-- Whether the caller may resolve the hostname of a private node. In strict
mode it must be registered and sign. -/
def authorizeHostname (E : DirectoryEnv) (s : Server) (msg : Msg) (hostname : String)
    (nodeID : NodeId) (n : NodeInfo) : Except String Unit := do
  let requesterID := msg.jsonUint32 "requester_id"
  let notFound := hostnameNotFound hostname
  (if E.strictDirectoryAuth then do
      let requester ← orFail (s.nodes.get requesterID) notFound
      (verifyNodeSignature E.toEnv (some requester.publicKey) E.adminToken msg
        s!"resolve_hostname:{requesterID}").mapError fun _ => notFound
    else .ok ())
  require (requesterID = nodeID || isTrusted s.trust requesterID nodeID ||
    (s.nodes.get requesterID).any fun requester => sharesNetwork requester n) notFound

/-- The record a hostname resolves to. -/
def resolveHostnameRecord (E : DirectoryEnv) (s : Server) (msg : Msg) :
    Except String (NodeId × NodeInfo) := do
  let hostname := msg.str "hostname"
  require (hostname ≠ "") "hostname required"
  let nodeID ← orFail (s.hostnameIdx.get hostname) (hostnameNotFound hostname)
  let quoted := hostname.quote
  let n ← orFail (s.nodes.get nodeID) s!"hostname {quoted} maps to missing node {nodeID}"
  (if n.isPublic then .ok () else authorizeHostname E s msg hostname nodeID n)
  return (nodeID, n)

/-- `HandleResolveHostname`. -/
def handleResolveHostname (E : DirectoryEnv) (s : Server) (msg : Msg) : Except String Resp := do
  let (nodeID, n) ← resolveHostnameRecord E s msg
  let lastSeen := n.getLastSeen
  return [("type", .str "resolve_hostname_ok"), ("node_id", .node nodeID),
    ("address", .str (E.addrString 0 nodeID)), ("public", .bool n.isPublic),
    ("hostname", .str n.hostname),
    ("last_seen_unix", .num (if lastSeen = zeroTime then 0 else lastSeen / second : Int))]

/-! ## `list_nodes` -/

/-- A listing, with the time it was built. -/
structure Listing where
  body : Resp
  builtAt : Time

/-- The listings built last: of the networks, and of the backbone. -/
structure Listings where
  perNet : GoMap NetId Listing := ∅
  backbone : Option Listing := none

/-- `AdminListNodesTTL`. -/
def adminListNodesTTL : Int := second

/-- A listing that is still given out. -/
def Listing.fresh (now : Time) (l : Listing) : Bool := since now l.builtAt < adminListNodesTTL

/-- The body of a listing. -/
def wrapListNodesBody (nodes : List Json) : Resp :=
  [("type", .str "list_nodes_ok"), ("nodes", .arr nodes)]

/-- The role and the tags of a member. -/
def memberFields (net : NetworkInfo) (nid : NodeId) : Resp :=
  ((net.role nid).map fun role => ("role", .str role.text)).toList ++
    fieldsIf ((net.memberTags.get nid).getD [] ≠ [])
      [("member_tags", .arr (((net.memberTags.get nid).getD []).map .str))]

/-- A member in the listing of its network. -/
def memberEntry (E : DirectoryEnv) (netID : NetId) (net : NetworkInfo) (nid : NodeId)
    (n : NodeInfo) : Json :=
  .obj (List.flatten [[("node_id", .node nid), ("address", .str (E.addrString netID nid)),
      ("public", .bool n.isPublic)],
    memberFields net nid,
    fieldsIf (n.hostname ≠ "") [("hostname", .str n.hostname)],
    fieldsIf n.taskExec [("task_exec", .bool true)],
    fieldsIf n.isPublic [("real_addr", .str n.realAddr)],
    fieldsIf (n.tags ≠ []) [("tags", .arr (n.tags.map .str))],
    fieldsIf (n.badge ≠ "") (badgeFields E.toQueryEnv n),
    fieldsIf (n.version ≠ "") [("version", .str n.version)],
    [("last_seen", .str (E.formatTime n.getLastSeen))]])

/-- A member that is not registered. -/
def offlineEntry (E : DirectoryEnv) (netID : NetId) (net : NetworkInfo) (nid : NodeId) : Json :=
  .obj ([("node_id", .node nid), ("address", .str (E.addrString netID nid)),
    ("offline", .bool true)] ++ memberFields net nid)

/-- The entries of a network's listing. -/
def memberEntries (E : DirectoryEnv) (s : Server) (netID : NetId) (net : NetworkInfo) : List Json :=
  net.members.map fun nid =>
    match s.nodes.get nid with
    | some n => memberEntry E netID net nid n
    | none => offlineEntry E netID net nid

/-- `PerNetworkListNodesCached`, for one caller at a time. -/
def perNetworkListNodesCached (E : DirectoryEnv) (now : Time) (l : Listings) (s : Server)
    (netID : NetId) : Except String Resp × Listings :=
  match (l.perNet.get netID).filter (Listing.fresh now) with
  | some listing => (.ok listing.body, l)
  | none =>
    match s.networks.get netID with
    | none => (.error (networkNotFound netID), l)
    | some net =>
      let body := wrapListNodesBody (memberEntries E s netID net)
      (.ok body, { l with perNet := l.perNet.set netID ⟨body, now⟩ })

/-- A node in the listing of the backbone. -/
def backboneEntry (E : DirectoryEnv) (nid : NodeId) (n : NodeInfo) : Json :=
  .obj (List.flatten [[("node_id", .node nid), ("address", .str (E.addrString 0 nid)),
      ("public", .bool n.isPublic)],
    fieldsIf (n.hostname ≠ "") [("hostname", .str n.hostname)],
    fieldsIf n.taskExec [("task_exec", .bool true)],
    fieldsIf n.isPublic [("real_addr", .str n.realAddr)],
    fieldsIf (n.tags ≠ []) [("tags", .arr (n.tags.map .str))],
    fieldsIf (n.externalID ≠ "") [("external_id", .str n.externalID)],
    fieldsIf (n.version ≠ "") [("version", .str n.version)],
    [("last_seen", .str (E.formatTime n.getLastSeen))]])

/-- `AdminListNodesCached`, for one caller at a time. `order` is the order
the source meets the records in. -/
def adminListNodesCached (E : DirectoryEnv) (now : Time) (order : List NodeId)
    (l : Listings) (s : Server) : Except String Resp × Listings :=
  match l.backbone.filter (Listing.fresh now) with
  | some listing => (.ok listing.body, l)
  | none =>
    let body := wrapListNodesBody
      (order.filterMap fun nid => (s.nodes.get nid).map (backboneEntry E nid))
    (.ok body, { l with backbone := some ⟨body, now⟩ })

/-- `requireNetworkMembership`. -/
def requireNetworkMembership (E : DirectoryEnv) (s : Server) (msg : Msg) (netID : NetId) :
    Except String Unit := do
  let requesterID := msg.jsonUint32 "requester_id"
  let requester ← orFail (s.nodes.get requesterID)
    s!"list_nodes denied: requester node {requesterID} is not registered"
  verifyNodeSignature E.toEnv (some requester.publicKey) E.adminToken msg
    s!"list_nodes:{requesterID}:{netID}"
  let net ← orFail (s.networks.get netID) (networkNotFound netID)
  require (net.members.contains requesterID)
    s!"list_nodes denied: node {requesterID} is not a member of network {netID}"

/-- `HandleListNodes`. The backbone is listed for the admin token, a network
for anyone, and in strict mode for its members. -/
def handleListNodes (E : DirectoryEnv) (now : Time) (order : List NodeId) (l : Listings)
    (s : Server) (msg : Msg) : Except String Resp × Listings :=
  let netID := msg.jsonUint16 "network_id"
  if netID = 0 then
    match requireAdminToken E.toEnv msg with
    | .error _ => (.error
        "listing backbone nodes is not permitted (use lookup with a specific node_id)", l)
    | .ok _ => adminListNodesCached E now order l s
  else
    match (if E.strictDirectoryAuth then requireNetworkMembership E s msg netID
      else .ok ()) with
    | .error e => (.error e, l)
    | .ok _ => perNetworkListNodesCached E now l s netID

/-! ## `punch` -/

/-- `NodeAddrs`, for one of the two nodes. The relay's address is only put
in in strict mode. -/
def nodeAddr (E : DirectoryEnv) (s : Server) (nodeID : NodeId) : Option String :=
  (s.nodes.get nodeID).map fun n =>
    if E.strictDirectoryAuth && n.relayOnly then E.beaconAddr else n.realAddr

/-- The error of a punch for a node that is not there. -/
def punchNotFound (nodeID : NodeId) : String := s!"node {nodeID} not found"

/-- What `HandlePunch` checks before it looks the addresses up: one of the
two nodes asks and signs, and in strict mode the two trust each other. -/
def admitPunch (E : DirectoryEnv) (s : Server) (msg : Msg) : Except String Unit := do
  let requesterID := msg.jsonUint32 "requester_id"
  let nodeA := msg.jsonUint32 "node_a"
  let nodeB := msg.jsonUint32 "node_b"
  require (requesterID = nodeA || requesterID = nodeB)
    "punch denied: requester must be participant"
  let requester ← orFail (s.nodes.get requesterID) (punchNotFound requesterID)
  verifyNodeSignature E.toEnv (some requester.publicKey) E.adminToken msg
    s!"punch:{nodeA}:{nodeB}"
  require (!E.strictDirectoryAuth || isTrusted s.trust nodeA nodeB)
    s!"punch denied: node {nodeA} and node {nodeB} have not established trust"

/-- The answer to a punch. -/
def punchResp (nodeA nodeB : NodeId) (addrA addrB : String) : Resp :=
  [("type", .str "punch_ok"), ("node_a", .node nodeA), ("node_a_addr", .str addrA),
    ("node_b", .node nodeB), ("node_b_addr", .str addrB)]

/-- `HandlePunch`. -/
def handlePunch (E : DirectoryEnv) (s : Server) (msg : Msg) : Except String Resp := do
  admitPunch E s msg
  let nodeA := msg.jsonUint32 "node_a"
  let nodeB := msg.jsonUint32 "node_b"
  let addrA ← orFail (nodeAddr E s nodeA) (punchNotFound nodeA)
  let addrB ← orFail (nodeAddr E s nodeB) (punchNotFound nodeB)
  return punchResp nodeA nodeB addrA addrB

/-- Requests that go the same way, to records that look the same, are
answered with the same frame. -/
theorem frameOf_eq {α : Type} {E : DirectoryEnv} {R : α → α → Prop} {x y : Except String α}
    (h : Paired (· = ·) R x y) {reply : α → Frame}
    (hreply : ∀ a b, R a b → reply a = reply b) : frameOf E x reply = frameOf E y reply := by
  cases h with
  | failed he => rw [he]
  | returned ha => exact hreply _ _ ha

end Rendezvous.Disclosure

import Rendezvous.Authz.Gate
import Rendezvous.Registry.Delta

/-!
# The handshake relay

A node that wants to be trusted by another leaves a request in the other's
inbox; the other collects its inbox and answers. Three messages:
`request_handshake`, `poll_handshakes` and `respond_handshake`. A request
is also noted as *pending*, apart from the inbox: collecting the inbox
leaves it pending, and only an answer that accepts takes it.

Every handler looks its nodes up, checks the signature, looks the nodes up
again where it will write, and then works on the store. The parts before
the store are functions of the directory (`admit…`, `bothThere`), so that
they can be run on different states.

A node record always has a key, so the branches for a node without one
are left out. The directory answers with its records.
-/

namespace Rendezvous.Trust

open Base Registry Authz

/-! ## The store -/

/-- `maxHandshakeInbox`. -/
def maxHandshakeInbox : Nat := 100

/-- `maxJustificationSize`, in bytes. -/
def maxJustificationSize : Nat := 1024

/-- `pairKey`: the smaller id first. -/
def pairKey (a b : NodeId) : NodeId × NodeId := if a > b then (b, a) else (a, b)

/-- `IsTrusted`. -/
def isTrusted (t : TrustStore) (a b : NodeId) : Bool := pairKey a b ∈ t.pairs

/-- The requests waiting in a node's inbox. -/
def inboxOf (t : TrustStore) (nodeID : NodeId) : List HandshakeRelayMsg :=
  (t.inbox.get nodeID).getD []

/-- The nodes whose request to a node is pending. -/
def pendingOn (t : TrustStore) (nodeID : NodeId) : Finset NodeId :=
  (t.pending.get nodeID).getD ∅

/-- `relay`: the request enters the inbox and is pending. -/
def relay (now : Time) (t : TrustStore) (toNodeID fromNodeID : NodeId)
    (justification : String) : Except String TrustStore := do
  require ((inboxOf t toNodeID).length < maxHandshakeInbox)
    s!"handshake inbox full for node {toNodeID}"
  require (!(inboxOf t toNodeID).any fun m => m.fromNodeID = fromNodeID)
    s!"handshake request already pending from node {fromNodeID}"
  return { t with
    inbox := t.inbox.set toNodeID (inboxOf t toNodeID ++ [⟨fromNodeID, justification, now⟩])
    pending := t.pending.set toNodeID (insert fromNodeID (pendingOn t toNodeID)) }

/-- `pop`: both inboxes of the node are cleared. -/
def pop (t : TrustStore) (nodeID : NodeId) : TrustStore :=
  { t with
    inbox := t.inbox.del nodeID
    responses := t.responses.del nodeID }

/-- `takePending`: `none` when no request is pending. -/
def takePending (t : TrustStore) (nodeID peerID : NodeId) : Option TrustStore :=
  let rest := (pendingOn t nodeID).erase peerID
  if peerID ∈ pendingOn t nodeID then
    some { t with pending :=
      if rest = ∅ then t.pending.del nodeID else t.pending.set nodeID rest }
  else none

/-- `trustPairs.add`. -/
def addPair (t : TrustStore) (a b : NodeId) : TrustStore :=
  { t with pairs := insert (pairKey a b) t.pairs }

/-- `appendResponse`. -/
def appendResponse (t : TrustStore) (peerID : NodeId)
    (answer : HandshakeResponseMsg) : TrustStore :=
  { t with
    responses := t.responses.set peerID
      ((t.responses.get peerID).getD [] ++ [answer]) }

/-! ## Before the store -/

/-- The node directory, as `LookupNode` reads it. -/
abbrev Directory := GoMap NodeId NodeInfo

/-- The signature of a message, which must verify under `key`. -/
def checkSignature (E : Env) (key : Bytes) (msg : Msg)
    (missing failed challenge : String) : Except String Unit := do
  require (msg.str "signature" ≠ "") missing
  let sig ← orFail (Base64.decode (msg.str "signature"))
    "invalid signature encoding"
  require (E.verify key (utf8 challenge) sig) failed

/-- The lookup of the node that signs and of its peer, and the signature. -/
def admitPair (E : Env) (nodes : Directory) (msg : Msg) (signer peer : NodeId)
    (what challenge : String) : Except String Unit := do
  let n ← orFail (nodes.get signer) (nodeNotFound signer)
  let _ ← orFail (nodes.get peer) (nodeNotFound peer)
  checkSignature E n.publicKey msg s!"{what} requires signature"
    s!"{what} signature verification failed" challenge

/-- The second lookup of both nodes. -/
def bothThere (nodes : Directory) (a b : NodeId) : Except String Unit := do
  let _ ← orFail (nodes.get a) (nodeNotFound a)
  let _ ← orFail (nodes.get b) (nodeNotFound b)

/-- The two nodes of a request: who asks, and who is asked. -/
def asker (msg : Msg) : NodeId := msg.jsonUint32 "from_node_id"

@[inherit_doc asker]
def asked (msg : Msg) : NodeId := msg.jsonUint32 "to_node_id"

/-- `HandleRequestHandshake` up to the signature. -/
def admitRequest (E : Env) (nodes : Directory) (msg : Msg) : Except String Unit := do
  let size := (msg.str "justification").utf8ByteSize
  require (size ≤ maxJustificationSize)
    s!"justification too large: {size} bytes (max {maxJustificationSize})"
  admitPair E nodes msg (asker msg) (asked msg) "handshake request"
    s!"handshake:{asker msg}:{asked msg}"

/-- `HandlePollHandshakes` up to the signature. -/
def admitPoll (E : Env) (nodes : Directory) (msg : Msg) : Except String Unit := do
  let nodeID := msg.jsonUint32 "node_id"
  let n ← orFail (nodes.get nodeID) (nodeNotFound nodeID)
  checkSignature E n.publicKey msg "signature required for authenticated node"
    "signature verification failed" s!"poll_handshakes:{nodeID}"

/-- The node that answers, and the one whose request it answers. -/
def responder (msg : Msg) : NodeId := msg.jsonUint32 "node_id"

@[inherit_doc responder]
def requester (msg : Msg) : NodeId := msg.jsonUint32 "peer_id"

/-- `HandleRespondHandshake` up to the signature. The challenge does not
say whether the answer accepts. -/
def admitRespond (E : Env) (nodes : Directory) (msg : Msg) : Except String Unit :=
  admitPair E nodes msg (responder msg) (requester msg) "handshake response"
    s!"respond:{responder msg}:{requester msg}"

/-! ## The handlers -/

/-- The answer an answered node collects. -/
def answerOf (now : Time) (msg : Msg) : HandshakeResponseMsg where
  fromNodeID := responder msg
  accept := msg.bool "accept"
  timestamp := now

/-- The response to a poll. -/
def pollResp (t : TrustStore) (nodeID : NodeId) : Resp :=
  [("type", .str "poll_handshakes_ok"), ("requests", .arr ((inboxOf t nodeID).map fun m => .obj
      [("from_node_id", .node m.fromNodeID), ("justification", .str m.justification),
        ("timestamp", unixSeconds m.timestamp)])),
    ("responses", .arr (((t.responses.get nodeID).getD []).map fun m => .obj
      [("from_node_id", .node m.fromNodeID), ("accept", .bool m.accept),
        ("timestamp", unixSeconds m.timestamp)]))]

/-- `HandlePollHandshakes`. -/
def handlePollHandshakes (E : Env) (s : Server) (msg : Msg) : Except String Outcome := do
  let nodeID := msg.jsonUint32 "node_id"
  admitPoll E s.nodes msg
  return {
    server := { s with trust := pop s.trust nodeID }
    resp := pollResp s.trust nodeID }

end Rendezvous.Trust

import Rendezvous.Authz.Gate
import Rendezvous.Registry.Delta

/-!
# Key rotation and recovery

`rotate_key` is signed under the key it replaces. `recover_identity` needs
no key of the node: a recovery statement stands in for it, whose
commitment must be the one the node enrolled. Both move the node's entry
in the key index to the new key, under the text the request gave for it.
-/

namespace Rendezvous.Identity

open Base Registry Authz

/-- `jsonUint32` of this package: the number is converted whatever its range,
so that an id comes under many numbers. -/
def jsonUint32 (msg : Msg) (key : String) : NodeId :=
  match msg.num? key with
  | some v => .ofInt (toInt64 v)
  | none => 0

/-- `base64Decode`: a text that is no standard base64 may be URL-safe. -/
def base64Decode (s : String) : Option Bytes := (Base64.decode s).or (Base64.decodeUrl s)

/-- `OnKeyRotated`: the index forgets the old key's text and learns the new
one's. -/
def onKeyRotated (s : Server) (nodeID : NodeId) (oldKey newKey : String) : Server :=
  { s with pubKeyIdx := (s.pubKeyIdx.del oldKey).set newKey nodeID }

/-- What a rotation does to the record. -/
def rotated (n : NodeInfo) (key : Bytes) (now : Time) : NodeInfo :=
  { n.setLastSeen now with
    publicKey := key
    keyMeta := { n.keyMeta with
      rotatedAt := now
      rotateCount := n.keyMeta.rotateCount + 1 } }

/-- The badge goes. -/
def clearBadge (n : NodeInfo) : NodeInfo :=
  { n with
    badge := ""
    badgeSig := ""
    verificationProvider := ""
    verifiedAt := zeroTime }

/-- The record and the index after a rotation. -/
def commitKey (s : Server) (nodeID : NodeId) (n n' : NodeInfo)
    (newKey : String) : Server :=
  onKeyRotated { s with nodes := s.nodes.set nodeID n' } nodeID
    (Base64.encode n.publicKey) newKey

/-- `HandleRotateKey`, up to the signature: the record it found, and the new
key. -/
def checkRotation (E : Env) (s : Server) (msg : Msg) : Except String (NodeInfo × Bytes) := do
  let nodeID := jsonUint32 msg "node_id"
  let newKey := msg.str "new_public_key"
  require (msg.str "signature" ≠ "") "rotate_key requires a valid signature"
  require (newKey ≠ "") "rotate_key requires new_public_key"
  let key ← orFail (E.decodePublicKey newKey) "invalid new_public_key"
  let n ← orFail (s.nodes.get nodeID) (nodeNotFound nodeID)
  let sig ← orFail (base64Decode (msg.str "signature")) "invalid signature encoding"
  require (E.verify n.publicKey (utf8 s!"rotate:{nodeID}:{newKey}") sig)
    "signature verification failed"
  return (n, key)

/-- `HandleRotateKey`. -/
def handleRotateKey (E : Env) (now : Time) (s : Server) (msg : Msg) : Except String Outcome := do
  let nodeID := jsonUint32 msg "node_id"
  let newKey := msg.str "new_public_key"
  let (n, key) ← checkRotation E s msg
  return {
    server := commitKey s nodeID n (rotated n key now) newKey
    resp := [("type", .str "rotate_key_ok"), ("node_id", .node nodeID),
      ("address", .str (E.addrString 0 nodeID)), ("public_key", .str newKey)]
    wal := [.keyRotation {
      nodeID := nodeID
      newPublicKey := newKey
      rotatedAt := some (rfc3339 now) }] }

/-- `verifyNodeSig`: a signature under the node's current key. -/
def verifyNodeSig (E : Env) (s : Server) (nodeID : NodeId) (challenge : String)
    (sigB64 : String) : Except String Unit := do
  require (sigB64 ≠ "") "missing signature"
  let n ← orFail (s.nodes.get nodeID) (nodeNotFound nodeID)
  let sig ← orFail (base64Decode sigB64) "invalid signature encoding"
  require (E.verify n.publicKey (utf8 challenge) sig)
    "signature verification failed"

/-- `HandleEnrollRecovery`, up to the signature: the statement. -/
def checkEnrollment (E : Env) (s : Server) (msg : Msg) : Except String Enrollment := do
  let nodeID := jsonUint32 msg "node_id"
  require (msg.str "enrollment" ≠ "" && msg.str "enrollment_sig" ≠ "")
    "enroll_recovery requires enrollment and enrollment_sig"
  let e ← (E.verifyEnrollment (msg.str "enrollment")
    (msg.str "enrollment_sig")).mapError fun e =>
      s!"enrollment verification failed: {e}"
  let stated := e.nodeID
  let commitment := e.commitment
  require (e.nodeID = nodeID)
    s!"enrollment node_id mismatch: statement={stated} request={nodeID}"
  verifyNodeSig E s nodeID s!"enroll_recovery:{nodeID}:{commitment}"
    (msg.str "signature")
  return e

/-- `HandleEnrollRecovery`. -/
def handleEnrollRecovery (E : Env) (s : Server) (msg : Msg) : Except String Outcome := do
  let nodeID := jsonUint32 msg "node_id"
  let e ← checkEnrollment E s msg
  return {
    server := { s with nodes := s.nodes.modify nodeID fun n =>
      { n with
        recoveryCommitment := e.commitment
        recoveryProvider := e.provider } }
    resp := [("type", .str "enroll_recovery_ok"), ("node_id", .node nodeID)] }

/-- `maxRecoveryWindow`: thirty minutes. -/
def maxRecoveryWindow : Int := 30 * 60 * second

/-- The checks of `HandleRecoverIdentity` before it uses up the nonce: the
statement, the node and its record, and the new key. -/
def checkRecovery (E : Env) (now : Time) (s : Server) (msg : Msg) :
    Except String (Recovery × NodeInfo × Bytes) := do
  let nodeID := jsonUint32 msg "node_id"
  let newKey := msg.str "new_public_key"
  require (msg.str "recovery" ≠ "" && msg.str "recovery_sig" ≠ "" && newKey ≠ "")
    "recover_identity requires recovery, recovery_sig, new_public_key"
  let key ← orFail (E.decodePublicKey newKey) "invalid new_public_key"
  let r ← (E.verifyRecovery (msg.str "recovery")
    (msg.str "recovery_sig")).mapError fun e => s!"recovery verification failed: {e}"
  require (r.nodeID = nodeID) "recovery node_id mismatch"
  require (r.newPubKey = newKey) "recovery is not bound to this new key"
  require (r.exp * second ≤ now + maxRecoveryWindow)
    "recovery authorization expiry too far in the future (max 30m0s)"
  let n ← orFail ((s.nodes.get nodeID).filter fun n => n.recoveryCommitment ≠ "")
    s!"node {nodeID} is not enrolled for recovery"
  require (r.commitment = n.recoveryCommitment)
    "recovery identity does not match the enrolled identity"
  return (r, n, key)

/-- `consumeNonce`: expired entries go, and the nonce comes in unless it is
there, which is the answer `false`. -/
def consumeNonce (now : Time) (used : GoMap String Time) (r : Recovery) :
    GoMap String Time × Bool :=
  let live := used.filter fun _ exp => !(now > exp)
  if live.has r.nonce then (live, false)
  else (live.set r.nonce (r.exp * second), true)

/-- The record after a recovery: the nonce is noted, the key is replaced,
the badge goes. -/
def recovered (n : NodeInfo) (r : Recovery) (key : Bytes) (now : Time) : NodeInfo :=
  clearBadge (rotated { n with
    recoveryConsumedNonce := r.nonce
    recoveryConsumedExp := r.exp * second } key now)

/-- `HandleRecoverIdentity`: the state it leaves, and its answer. A request
refused because its nonce was used may still change the nonce ledger. -/
def handleRecoverIdentity (E : Env) (now : Time) (s : Server) (msg : Msg) :
    Server × Except String (Resp × List Delta) :=
  match checkRecovery E now s msg with
  | .error e => (s, .error e)
  | .ok (r, n, key) =>
    let nodeID := jsonUint32 msg "node_id"
    let newKey := msg.str "new_public_key"
    let (ledger, fresh) := consumeNonce now s.consumedNonces r
    let s := { s with consumedNonces := ledger }
    if !fresh || (r.nonce ≠ "" && n.recoveryConsumedNonce = r.nonce) then
      (s, .error "recovery authorization already used")
    else
      (commitKey s nodeID n (recovered n r key now) newKey,
        .ok ([("type", .str "recover_identity_ok"), ("node_id", .node nodeID),
          ("address", .str (E.addrString 0 nodeID)),
          ("public_key", .str newKey)],
        [.keyRotation {
          nodeID := nodeID
          newPublicKey := newKey
          rotatedAt := some (rfc3339 now)
          clearBadge := true }]))

end Rendezvous.Identity

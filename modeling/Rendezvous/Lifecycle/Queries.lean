import Rendezvous.Directory.RegisterSpec
import Rendezvous.Lifecycle.Settings
import Rendezvous.Trust.Handlers

/-!
# What the registry publishes of a key

`lookup` and the verification endpoint read a node's record and answer with
its key's generation: the number of rotations the record has seen. A lookup
gives the key with it. A verdict says that a signature verified under the
key, and is signed by the registry, so that verdicts of different times can
be compared.
-/

namespace Rendezvous.Lifecycle

open Base Registry Authz Trust

/-- `reqsig.Envelope`: the part of it that is read. -/
structure Envelope where
  network : NetId
  node : NodeId
  nonce : String
  deriving DecidableEq

/-- `reqsig.Verdict`. -/
structure Verdict where
  envHash : String
  network : NetId
  node : NodeId
  valid : Bool := false
  online : Bool := false
  networkMember : Bool := false
  lastSeenUnix : Int := 0
  keyGeneration : Int := 0
  verifiedAt : Int
  deriving DecidableEq

/-- What the queries are given besides. -/
structure QueryEnv extends NodeEnv where
  /-- `StrictDirectoryAuth`. -/
  strictDirectoryAuth : Bool
  /-- `BeaconAddr`. -/
  beaconAddr : String
  /-- `StaleNodeThreshold`. -/
  staleNodeThreshold : Int
  /-- `reqsig.Parse`. -/
  parseEnvelope : String → Option Envelope
  /-- `reqsig.CheckFresh`. -/
  checkFresh : Envelope → Time → Bool
  /-- `reqsig.Verify`: key, envelope, signature. -/
  verifyEnvelope : Bytes → String → String → Bool
  /-- `reqsig.HashEnvelope`. -/
  hashEnvelope : String → String
  /-- `reqsig.SignVerdict` with the verdict key, and the key's id. -/
  signVerdict : Verdict → Option (String × String × String)

/-- The plain environment of queries: an envelope is node 1's, and its
signature is the text of its key. -/
def QueryEnv.plain : QueryEnv where
  toNodeEnv := .plain
  strictDirectoryAuth := false
  beaconAddr := ""
  staleNodeThreshold := 0
  parseEnvelope := fun _ => some ⟨0, 1, ""⟩
  checkFresh := fun _ _ => true
  verifyEnvelope := fun key _ sig => Base64.encode key = sig
  hashEnvelope := fun _ => ""
  signVerdict := fun _ => none

/-! ## `lookup` -/

/-- `authorizeLookup`: the requester signs, and trusts the node or shares a
network with it. -/
def authorizeLookup (E : QueryEnv) (s : Server) (msg : Msg) (nodeID : NodeId)
    (n : NodeInfo) : Except String Unit := do
  let requesterID := msg.jsonUint32 "requester_id"
  let requester ← orFail (s.nodes.get requesterID) (nodeNotFound nodeID)
  (match verifyNodeSignature E.toEnv (some requester.publicKey) E.adminToken msg
      s!"lookup:{requesterID}:{nodeID}" with
    | .error _ => .error (nodeNotFound nodeID)
    | .ok _ => .ok ())
  require (isTrusted s.trust requesterID nodeID ||
    requester.networks.any fun netID => netID ≠ 0 && n.networks.contains netID)
    (nodeNotFound nodeID)

/-- The record a lookup answers from. -/
def lookupRecord (E : QueryEnv) (s : Server) (msg : Msg) : Except String NodeInfo := do
  let nodeID := msg.jsonUint32 "node_id"
  let n ← orFail (s.nodes.get nodeID) (nodeNotFound nodeID)
  (if E.strictDirectoryAuth && !n.isPublic then authorizeLookup E s msg nodeID n
    else .ok ())
  return n

/-- Fields of an answer that are there under a condition. -/
def fieldsIf (present : Bool) (fields : Resp) : Resp := if present then fields else []

/-- The badge fields of a lookup's answer. -/
def badgeFields (E : QueryEnv) (n : NodeInfo) : Resp :=
  List.flatten [[("verified", .bool true), ("badge", .str n.badge), ("badge_sig", .str n.badgeSig)],
    fieldsIf (n.verificationProvider ≠ "")
      [("verification_provider", .str n.verificationProvider)],
    fieldsIf (n.verifiedAt ≠ zeroTime) [("verified_at", .str (E.formatTime n.verifiedAt))]]

/-- The answer to a lookup. -/
def lookupResp (E : QueryEnv) (nodeID : NodeId) (n : NodeInfo) : Resp :=
  let lastSeen := n.getLastSeen
  let endpoint := if n.relayOnly then E.beaconAddr else n.realAddr
  List.flatten [[("type", .str "lookup_ok"), ("node_id", .node nodeID),
      ("address", .str (E.addrString 0 nodeID)),
      ("networks", .arr (n.networks.map .net)),
      ("public_key", .str (Base64.encode n.publicKey)), ("public", .bool n.isPublic),
      ("last_seen_unix", .num (if lastSeen = zeroTime then 0 else lastSeen / second : Int)),
      ("key_generation", .num n.keyMeta.generation)],
    fieldsIf (n.hostname ≠ "") [("hostname", .str n.hostname)],
    fieldsIf (n.tags ≠ []) [("tags", .arr (n.tags.map .str))],
    fieldsIf n.taskExec [("task_exec", .bool true)],
    fieldsIf n.isPublic [("real_addr", .str endpoint), ("endpoint", .str endpoint)],
    fieldsIf (n.isPublic && n.relayOnly) [("relay_only", .bool true)],
    fieldsIf (n.badge ≠ "") (badgeFields E n),
    fieldsIf (n.version ≠ "") [("version", .str n.version)]]

/-- `HandleLookup`. -/
def handleLookup (E : QueryEnv) (s : Server) (msg : Msg) : Except String Resp := do
  let n ← lookupRecord E s msg
  return lookupResp E (msg.jsonUint32 "node_id") n

/-! ## The verification endpoint -/

/-- `verifyOnlineWindow`. -/
def verifyOnlineWindow : Int := 180 * second

/-- `ed25519.PublicKeySize`. -/
def publicKeySize : Nat := 32

/-- `VerifyResponse`. -/
structure VerifyResponse where
  valid : Bool := false
  online : Bool := false
  networkMember : Bool := false
  address : String := ""
  lastSeen : String := ""
  nonce : String := ""
  lastSeenUnix : Int := 0
  keyGeneration : Int := 0
  staleThresholdSecs : Int := 0
  verdict : String := ""
  verdictSig : String := ""
  verdictKid : String := ""
  deriving DecidableEq

/-- `signVerdict`. -/
def VerifyResponse.sign (E : QueryEnv) (resp : VerifyResponse) (v : Verdict) : VerifyResponse :=
  match E.signVerdict v with
  | some (verdict, sig, kid) =>
    { resp with verdict := verdict, verdictSig := sig, verdictKid := kid }
  | none => resp

theorem VerifyResponse.sign_valid (E : QueryEnv) (resp : VerifyResponse) (v : Verdict) :
    (resp.sign E v).valid = resp.valid := by
  unfold VerifyResponse.sign
  split <;> rfl

theorem VerifyResponse.sign_keyGeneration (E : QueryEnv) (resp : VerifyResponse) (v : Verdict) :
    (resp.sign E v).keyGeneration = resp.keyGeneration := by
  unfold VerifyResponse.sign
  split <;> rfl

/-- The record a verdict is about, when the signature is valid. A failure
has the network and the node of the envelope, if there was one. -/
def verifyRecord (E : QueryEnv) (now : Time) (s : Server) (canonical sig : String) :
    Except (NetId × NodeId) (Envelope × NodeInfo) :=
  match E.parseEnvelope canonical with
  | none => .error (0, 0)
  | some env =>
    match s.nodes.get env.node with
    | none => .error (env.network, env.node)
    | some n =>
      if E.checkFresh env now && !(n.keyMeta.expiresAt ≠ zeroTime && n.keyMeta.expiresAt < now) &&
          n.publicKey.length = publicKeySize &&
          E.verifyEnvelope n.publicKey canonical sig then .ok (env, n)
      else .error (env.network, env.node)

/-- `VerifyRequest`. A failure zeroes every field but the verdict's. -/
def verifyRequest (E : QueryEnv) (now : Time) (s : Server) (canonical sig : String) :
    VerifyResponse :=
  let hash := E.hashEnvelope canonical
  match verifyRecord E now s canonical sig with
  | .error (network, node) => VerifyResponse.sign E {}
      { envHash := hash, network := network, node := node, verifiedAt := now / second }
  | .ok (env, n) =>
    let lastSeen := n.getLastSeen
    let online := lastSeen ≠ zeroTime && now - lastSeen ≤ verifyOnlineWindow
    let member := n.networks.contains env.network
    let lastSeenUnix := if lastSeen ≠ zeroTime ∧ lastSeen / second > 0
      then lastSeen / second else 0
    VerifyResponse.sign E {
      valid := true
      online := online
      networkMember := member
      address := E.addrString env.network env.node
      lastSeen := if lastSeenUnix > 0 then E.formatTime lastSeen else ""
      nonce := env.nonce
      lastSeenUnix := lastSeenUnix
      keyGeneration := n.keyMeta.generation
      staleThresholdSecs := E.staleNodeThreshold / second } {
      envHash := hash
      network := env.network
      node := env.node
      valid := true
      online := online
      networkMember := member
      lastSeenUnix := lastSeenUnix
      keyGeneration := n.keyMeta.generation
      verifiedAt := now / second }

/-! ## The published generation -/

/-- A key of a node, with the generation it was published with. -/
structure Published where
  nodeID : NodeId
  key : String
  generation : Int
  deriving DecidableEq

/-- What the answer to a lookup publishes. -/
def lookupPublishes (resp : Resp) : Published where
  nodeID := Msg.jsonUint32 resp "node_id"
  key := Msg.str resp "public_key"
  generation := ((Msg.num? resp "key_generation").getD 0).floor

/-- What the answer to a verification publishes, if the signature is valid:
the generation, for the node of the envelope and the key that its signature
verified under. -/
def verdictPublishes (E : QueryEnv) (s : Server) (canonical : String) (resp : VerifyResponse) :
    Option Published :=
  if resp.valid then do
    let env ← E.parseEnvelope canonical
    let n ← s.nodes.get env.node
    return ⟨env.node, Base64.encode n.publicKey, resp.keyGeneration⟩
  else none

/-- A lookup, or a request to verify a signature. -/
inductive Query where
  | lookup (msg : Msg)
  | verify (canonical sig : String)

/-- What the answer to a query publishes. -/
def Query.publishes (E : QueryEnv) (now : Time) (s : Server) : Query → Option Published
  | .lookup msg => (handleLookup E s msg).toOption.map lookupPublishes
  | .verify canonical sig => verdictPublishes E s canonical (verifyRequest E now s canonical sig)

/-- What an answer from this record publishes. -/
def published (nodeID : NodeId) (n : NodeInfo) : Published :=
  ⟨nodeID, Base64.encode n.publicKey, n.keyMeta.generation⟩

section

variable {E : QueryEnv} {now : Time} {s : Server} {canonical sig : String} {n : NodeInfo}

theorem lookupPublishes_resp (E : QueryEnv) (nodeID : NodeId) (n : NodeInfo) :
    lookupPublishes (lookupResp E nodeID n) = published nodeID n := by
  have hid : Msg.jsonUint32 (lookupResp E nodeID n) "node_id" = nodeID :=
    Directory.jsonUint32_node rfl
  have hgeneration : ((Msg.num? (lookupResp E nodeID n) "key_generation").getD 0).floor =
      n.keyMeta.generation := Rat.floor_intCast _
  unfold lookupPublishes
  rw [hid, hgeneration]
  rfl

theorem verifyRecord_ok {env : Envelope} (h : verifyRecord E now s canonical sig = .ok (env, n)) :
    E.parseEnvelope canonical = some env ∧ s.nodes.get env.node = some n := by
  unfold verifyRecord at h
  split at h
  · cases h
  · next env' hparse =>
    split at h
    · cases h
    · next m hm =>
      split at h
      · obtain ⟨rfl, rfl⟩ := Prod.mk.inj (Except.ok.inj h)
        exact ⟨hparse, hm⟩
      · cases h

/-- What is published is what the directory has. -/
theorem Query.publishes_record {q : Query} {p : Published} (h : q.publishes E now s = some p) :
    ∃ n, s.nodes.get p.nodeID = some n ∧ p = published p.nodeID n := by
  cases q with
  | lookup msg =>
    obtain ⟨resp, hresp, rfl⟩ := Option.map_eq_some_iff.mp h
    have hok : handleLookup E s msg = .ok resp := by
      cases hlookup : handleLookup E s msg with
      | error e => simp [hlookup, Except.toOption] at hresp
      | ok resp' => simpa [hlookup, Except.toOption] using hresp
    simp only [handleLookup, lookupRecord, bind_eq_ok, orFail_eq_ok, pure_eq_ok] at hok
    obtain ⟨_, ⟨m, hm, _, -, rfl⟩, rfl⟩ := hok
    rw [lookupPublishes_resp]
    exact ⟨m, hm, rfl⟩
  | verify canonical sig =>
    simp only [Query.publishes, verdictPublishes, verifyRequest] at h
    cases hrecord : verifyRecord E now s canonical sig with
    | error at_ => simp [hrecord, VerifyResponse.sign_valid] at h
    | ok found =>
      obtain ⟨env, n⟩ := found
      obtain ⟨hparse, hn⟩ := verifyRecord_ok hrecord
      simp only [hrecord, VerifyResponse.sign_valid, VerifyResponse.sign_keyGeneration, hparse,
        if_true] at h
      simp only [Option.bind_eq_bind, Option.bind_some, hn, Option.pure_def] at h
      obtain rfl := Option.some.inj h
      exact ⟨n, hn, rfl⟩

end

end Rendezvous.Lifecycle

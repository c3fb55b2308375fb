import Rendezvous.Admin.Handlers

/-!
# Requests signed with a node's key

The requests by which a node changes its own record or its memberships:
`set_visibility`, `set_hostname`, `set_tags`, `set_key_expiry`,
`submit_badge`, `enroll_recovery`, `join_network` and `leave_network`.

Each handler works in two locked sections. In the first it looks up the
node's key; the signature is checked against that key with no lock held.
The second section changes the state, and does not look at the key again.
So each is given here as a check, on the state the first section sees, and
a commit, on the state the second one finds.
-/

namespace Rendezvous.Lifecycle

open Base Registry Authz Rendezvous.Membership Identity Admin

/-- What these handlers and the heartbeats are given besides. -/
structure NodeEnv extends AdminEnv where
  /-- `StrictHeartbeatFreshness`. -/
  strictHeartbeatFreshness : Bool
  /-- `StrictExpiryBinding`. -/
  strictExpiryBinding : Bool
  /-- `time.Parse(time.RFC3339, …)`. -/
  parseTime : String → Except String Time
  /-- `Format(time.RFC3339)`. -/
  formatTime : Time → String
  /-- `verifyBadge`: badge, signature, node. It answers the provider. -/
  verifyBadge : String → String → NodeId → Except String String

/-- The plain environment, with signatures that are the key's own bytes. An
enrollment of node 1 is its commitment. A recovery of node 1 is its nonce,
the key it is for is its signature, and it lasts to second 1000. -/
def NodeEnv.plain : NodeEnv where
  toAdminEnv := { AdminEnv.plain with
    verify := fun key _ sig => key = sig
    verifyCached := fun key _ sig => key = sig
    verifyEnrollment := fun text _ => .ok ⟨1, text, "provider"⟩
    verifyRecovery := fun text sig => .ok ⟨1, sig, "c", text, 1000⟩ }
  strictHeartbeatFreshness := false
  strictExpiryBinding := false
  parseTime := fun text => .ok (text.length * second)
  formatTime := fun _ => ""
  verifyBadge := fun _ _ _ => .ok "provider"

/-! ## What a request changes -/

/-- The change a checked request will make to its node. -/
inductive Setting where
  | visibility (isPublic : Bool)
  | hostname (name : String)
  | tags (tags : List String)
  | keyExpiry (expiresAt : Option Time)
  | badge (badge badgeSig provider : String)
  | enrollment (commitment provider : String)
  | join (netID : NetId) (token : String)
  | leave (netID : NetId)
  deriving DecidableEq

/-- A request that passed its checks: the node, the key its signature was
checked under, the challenge that was signed, and what it will do. -/
structure Checked where
  nodeID : NodeId
  key : Bytes
  challenge : String
  setting : Setting
  deriving DecidableEq

/-- The node's key and the signature over `challenge`, or the admin token. -/
def checkSigned (E : NodeEnv) (s : Server) (msg : Msg) (nodeID : NodeId)
    (absent challenge : String) (setting : Setting) : Except String Checked := do
  let n ← orFail (s.nodes.get nodeID) absent
  signedOrAdmin E.toEnv n msg challenge
  return ⟨nodeID, n.publicKey, challenge, setting⟩

/-- The node's key and the signature over `challenge`; no token helps. -/
def checkKeyHeld (E : NodeEnv) (s : Server) (msg : Msg) (challenge : String) :
    Except String Bytes := do
  let nodeID := jsonUint32 msg "node_id"
  verifyNodeSig E.toEnv s nodeID challenge (msg.str "signature")
  let n ← orFail (s.nodes.get nodeID) (nodeNotFound nodeID)
  return n.publicKey

/-! ## The checks -/

/-- `HandleSetVisibility`, up to the signature. -/
def checkSetVisibility (E : NodeEnv) (s : Server) (msg : Msg) : Except String Checked :=
  let nodeID := msg.jsonUint32 "node_id"
  checkSigned E s msg nodeID (nodeNotFound nodeID) s!"set_visibility:{nodeID}"
    (.visibility (msg.bool "public"))

/-- `HandleSetHostname`, up to the signature. -/
def checkSetHostname (E : NodeEnv) (s : Server) (msg : Msg) : Except String Checked := do
  let nodeID := msg.jsonUint32 "node_id"
  (validateHostname (msg.str "hostname")).mapError fun e => s!"invalid hostname: {e}"
  checkSigned E s msg nodeID (nodeNotFound nodeID) s!"set_hostname:{nodeID}"
    (.hostname (msg.str "hostname"))

/-- The tags of a request: a leading `#` is dropped, and of equal tags the
first one stays. -/
def readTags (msg : Msg) : List String :=
  ((msg.strings "tags").map fun t =>
    if t.toList.head? = some '#' then String.ofList t.toList.tail else t).eraseDups

/-- The check of one node tag. -/
def validateNodeTag (t : String) : Except String Unit := do
  let quoted := t.quote
  require (t ≠ "") "empty tag not allowed"
  require (t.utf8ByteSize ≤ 32) s!"tag {quoted} too long (max 32 chars)"
  require (labelRegex 30 t)
    s!"tag {quoted} must be lowercase alphanumeric with hyphens"

/-- `HandleSetTags`, up to the signature. -/
def checkSetTags (E : NodeEnv) (s : Server) (msg : Msg) : Except String Checked := do
  let nodeID := msg.jsonUint32 "node_id"
  require ((readTags msg).length ≤ 10) "too many tags (max 10)"
  requireAll validateNodeTag (readTags msg)
  checkSigned E s msg nodeID (nodeNotFound nodeID) s!"set_tags:{nodeID}"
    (.tags (readTags msg))

/-- Ten years. -/
def maxKeyLifetime : Int := 10 * 365 * 24 * 3600 * second

/-- The expiry a request asks for, or none. -/
def readExpiry (E : NodeEnv) (now : Time) (msg : Msg) : Except String (Option Time) :=
  let text := msg.str "expires_at"
  if text = "" ∨ text = "never" then .ok none
  else do
    let expiresAt ← (E.parseTime text).mapError fun e => s!"invalid expires_at: {e}"
    require (now ≤ expiresAt) "expires_at must be in the future"
    require (expiresAt ≤ now + maxKeyLifetime)
      "invalid expires_at: cannot exceed 10 years"
    return some expiresAt

/-- `setKeyExpiryChallenge`. -/
def setKeyExpiryChallenge (E : NodeEnv) (nodeID : NodeId) (text : String) : String :=
  if E.strictExpiryBinding then s!"set_key_expiry:{nodeID}:{text}"
  else s!"set_key_expiry:{nodeID}"

/-- `HandleSetKeyExpiry`, up to the signature. -/
def checkSetKeyExpiry (E : NodeEnv) (now : Time) (s : Server) (msg : Msg) :
    Except String Checked := do
  let nodeID := jsonUint32 msg "node_id"
  let expiresAt ← readExpiry E now msg
  checkSigned E s msg nodeID (nodeNotFound nodeID)
    (setKeyExpiryChallenge E nodeID (msg.str "expires_at")) (.keyExpiry expiresAt)

/-- `HandleSubmitBadge`, up to the badge's own check. -/
def checkSubmitBadge (E : NodeEnv) (s : Server) (msg : Msg) : Except String Checked := do
  let nodeID := jsonUint32 msg "node_id"
  let badge := msg.str "badge"
  let badgeSig := msg.str "badge_sig"
  let challenge := s!"submit_badge:{nodeID}:{badge}"
  require (badge ≠ "" && badgeSig ≠ "") "submit_badge requires badge and badge_sig"
  let key ← checkKeyHeld E s msg challenge
  let provider ← (E.verifyBadge badge badgeSig nodeID).mapError fun e =>
    s!"badge verification failed: {e}"
  return ⟨nodeID, key, challenge, .badge badge badgeSig provider⟩

/-- `HandleEnrollRecovery`, up to the signature. -/
def checkEnrollRecovery (E : NodeEnv) (s : Server) (msg : Msg) : Except String Checked := do
  let nodeID := jsonUint32 msg "node_id"
  let e ← checkEnrollment E.toEnv s msg
  let commitment := e.commitment
  let n ← orFail (s.nodes.get nodeID) (nodeNotFound nodeID)
  return ⟨nodeID, n.publicKey, s!"enroll_recovery:{nodeID}:{commitment}",
    .enrollment e.commitment e.provider⟩

/-- `HandleJoinNetwork`, up to the signature. -/
def checkJoinNetwork (E : NodeEnv) (s : Server) (msg : Msg) : Except String Checked := do
  let nodeID := msg.jsonUint32 "node_id"
  let netID := msg.jsonUint16 "network_id"
  require (netID ≠ 0) "cannot join the backbone network"
  checkSigned E s msg nodeID s!"node {nodeID} not registered"
    s!"join_network:{nodeID}:{netID}" (.join netID (msg.str "token"))

/-- `HandleLeaveNetwork`, up to the signature. -/
def checkLeaveNetwork (E : NodeEnv) (s : Server) (msg : Msg) : Except String Checked := do
  let nodeID := msg.jsonUint32 "node_id"
  let netID := msg.jsonUint16 "network_id"
  require (netID ≠ 0) "cannot leave the backbone network"
  checkSigned E s msg nodeID s!"node {nodeID} not registered"
    s!"leave_network:{nodeID}:{netID}" (.leave netID)

/-- The commands. -/
inductive Command where
  | setVisibility
  | setHostname
  | setTags
  | setKeyExpiry
  | submitBadge
  | enrollRecovery
  | joinNetwork
  | leaveNetwork
  deriving DecidableEq

/-- The check of a command's handler. -/
def Command.check (E : NodeEnv) (now : Time) (s : Server) (msg : Msg) :
    Command → Except String Checked
  | .setVisibility => checkSetVisibility E s msg
  | .setHostname => checkSetHostname E s msg
  | .setTags => checkSetTags E s msg
  | .setKeyExpiry => checkSetKeyExpiry E now s msg
  | .submitBadge => checkSubmitBadge E s msg
  | .enrollRecovery => checkEnrollRecovery E s msg
  | .joinNetwork => checkJoinNetwork E s msg
  | .leaveNetwork => checkLeaveNetwork E s msg

/-- The commands that no token authorises. -/
def Setting.keyOnly : Setting → Bool
  | .badge .. | .enrollment .. => true
  | _ => false

section

variable (E : NodeEnv) (now : Time) (s : Server) (msg : Msg)

/-- The statement of an enrollment is signed with the node's key. -/
theorem checkEnrollment_ok {E : Env} {s : Server} {msg : Msg} {e : Enrollment}
    (h : checkEnrollment E s msg = .ok e) : ∃ n, s.nodes.get (jsonUint32 msg "node_id") = some n ∧
      let nodeID := jsonUint32 msg "node_id"
      let commitment := e.commitment
      verifyNodeSig E s nodeID s!"enroll_recovery:{nodeID}:{commitment}" (msg.str "signature") =
        .ok () := by
  simp only [checkEnrollment, bind_eq_ok, pure_eq_ok] at h
  obtain ⟨_, -, _, -, _, -, _, hsig, rfl⟩ := h
  have hverify := hsig
  simp only [verifyNodeSig, bind_eq_ok, orFail_eq_ok] at hverify
  obtain ⟨_, -, n, hn, -⟩ := hverify
  exact ⟨n, hn, hsig⟩

/-- A check ends with the signature over a challenge. What the request will
do is settled by then, and the hostname it sets is a valid one. -/
theorem Command.check_ok (command : Command) {E : NodeEnv} {now : Time} {s : Server} {msg : Msg}
    {c : Checked} (h : command.check E now s msg = .ok c) :
    (∃ id absent challenge setting, checkSigned E s msg id absent challenge setting = .ok c ∧
      setting.keyOnly = false ∧
      ∀ name, setting = .hostname name → validateHostname name = .ok ()) ∨
    ∃ key challenge setting, setting.keyOnly = true ∧
      checkKeyHeld E s msg challenge = .ok key ∧
      c = ⟨jsonUint32 msg "node_id", key, challenge, setting⟩ := by
  cases command with
  | setVisibility => exact Or.inl ⟨_, _, _, _, h, rfl, nofun⟩
  | setHostname =>
    simp only [Command.check, checkSetHostname, bind_eq_ok, mapError_eq_ok] at h
    obtain ⟨_, hvalid, h⟩ := h
    exact Or.inl ⟨_, _, _, _, h, rfl, fun name heq => Setting.hostname.inj heq ▸ hvalid⟩
  | setTags =>
    simp only [Command.check, checkSetTags, bind_eq_ok] at h
    obtain ⟨_, -, _, -, h⟩ := h
    exact Or.inl ⟨_, _, _, _, h, rfl, nofun⟩
  | setKeyExpiry | joinNetwork | leaveNetwork =>
    simp only [Command.check, checkSetKeyExpiry, checkJoinNetwork, checkLeaveNetwork,
      bind_eq_ok] at h
    obtain ⟨_, -, h⟩ := h
    exact Or.inl ⟨_, _, _, _, h, rfl, nofun⟩
  | submitBadge =>
    simp only [Command.check, checkSubmitBadge, bind_eq_ok, pure_eq_ok] at h
    obtain ⟨_, -, key, hkey, _, -, rfl⟩ := h
    exact Or.inr ⟨key, _, _, rfl, hkey, rfl⟩
  | enrollRecovery =>
    simp only [Command.check, checkEnrollRecovery, bind_eq_ok, orFail_eq_ok, pure_eq_ok] at h
    obtain ⟨e, he, n, hn, rfl⟩ := h
    obtain ⟨_, -, hsig⟩ := checkEnrollment_ok he
    refine Or.inr ⟨n.publicKey, _, _, rfl, ?_, rfl⟩
    simp only [checkKeyHeld, bind_eq_ok, orFail_eq_ok, pure_eq_ok]
    exact ⟨(), hsig, n, hn, rfl⟩

/-! ## The commits -/

/-- A field of the node's record is replaced. -/
def editNode (s : Server) (nodeID : NodeId) (edit : NodeInfo → NodeInfo)
    (resp : Resp) : Except String Outcome := do
  let n ← orFail (s.nodes.get nodeID) (nodeNotFound nodeID)
  return { server := { s with nodes := s.nodes.set nodeID (edit n) }, resp := resp }

/-- The second section of `HandleSetHostname`. -/
def commitHostname (s : Server) (nodeID : NodeId) (name : String) : Except String Outcome := do
  let n ← orFail (s.nodes.get nodeID) (nodeNotFound nodeID)
  let quoted := name.quote
  let holder := (s.hostnameIdx.get name).getD nodeID
  require (name = "" || holder = nodeID)
    s!"hostname {quoted} already in use by node {holder}"
  let idx := if n.hostname ≠ "" then s.hostnameIdx.del n.hostname else s.hostnameIdx
  return {
    server := { s with
      nodes := s.nodes.set nodeID { n with hostname := name }
      hostnameIdx := if name ≠ "" then idx.set name nodeID else idx }
    resp := [("type", .str "set_hostname_ok"), ("node_id", .node nodeID), ("hostname", .str name)] }

/-- The second section of a handler, on the state it finds. -/
def Checked.commit (E : NodeEnv) (now : Time) (s : Server) (c : Checked) : Except String Outcome :=
  let node := ("node_id", Json.node c.nodeID)
  match c.setting with
  | .visibility isPublic => editNode s c.nodeID (fun n => { n with isPublic := isPublic })
      [("type", .str "set_visibility_ok"), node,
        ("visibility", .str (if isPublic then "public" else "private"))]
  | .hostname name => commitHostname s c.nodeID name
  | .tags tags => editNode s c.nodeID (fun n => { n with tags := tags })
      [("type", .str "set_tags_ok"), node, ("tags", .arr (tags.map .str))]
  | .keyExpiry expiresAt => editNode s c.nodeID
      (fun n => { n with
        keyMeta := { n.keyMeta with expiresAt := expiresAt.getD zeroTime } })
      ([("type", .str "set_key_expiry_ok"), node] ++
        (expiresAt.map fun t => ("expires_at", Json.str (E.formatTime t))).toList)
  | .badge badge badgeSig provider => editNode s c.nodeID
      (fun n => { n with
        badge := badge
        badgeSig := badgeSig
        verificationProvider := provider
        verifiedAt := now })
      [("type", .str "submit_badge_ok"), node, ("provider", .str provider)]
  | .enrollment commitment provider => editNode s c.nodeID
      (fun n => { n with
        recoveryCommitment := commitment
        recoveryProvider := provider })
      [("type", .str "enroll_recovery_ok"), node]
  | .join netID token => commitJoin E.toEnv s c.nodeID netID token
  | .leave netID => commitLeave s c.nodeID netID

/-- Checked and committed on one state, a request does what its handler does. -/
theorem join_at_once :
    (checkJoinNetwork E s msg >>= Checked.commit E now s) = handleJoinNetwork E.toEnv s msg := by
  unfold checkJoinNetwork checkSigned handleJoinNetwork
  simp only [bind_assoc, pure_bind, Checked.commit]

@[inherit_doc join_at_once]
theorem leave_at_once :
    (checkLeaveNetwork E s msg >>= Checked.commit E now s) = handleLeaveNetwork E.toEnv s msg := by
  unfold checkLeaveNetwork checkSigned handleLeaveNetwork
  simp only [bind_assoc, pure_bind, Checked.commit]

@[inherit_doc join_at_once]
theorem enroll_at_once :
    (checkEnrollRecovery E s msg >>= Checked.commit E now s) =
      handleEnrollRecovery E.toEnv s msg := by
  unfold checkEnrollRecovery handleEnrollRecovery
  simp only [bind_assoc, pure_bind, Checked.commit, editNode]
  cases he : checkEnrollment E.toEnv s msg with
  | error e => rfl
  | ok e =>
    obtain ⟨n, hn, -⟩ := checkEnrollment_ok he
    simp only [hn, orFail, GoMap.modify]
    rfl

end

/-- `NodeIsEnterprise`, the gate of `set_key_expiry` between its two
sections. -/
def nodeIsEnterprise (s : Server) (nodeID : NodeId) : Bool :=
  (s.nodes.get nodeID).any fun n => n.networks.any fun netID =>
    (s.networks.get netID).any NetworkInfo.enterprise

end Rendezvous.Lifecycle

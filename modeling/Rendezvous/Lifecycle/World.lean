import Rendezvous.Lifecycle.Settings
import Rendezvous.Recovery.Rotations
import Rendezvous.Recovery.System
import Rendezvous.Roster.Op

/-!
# The life of node records

The registry as everything that happens to a node's record: the handlers
of the directory and identity packages with the locked sections they are
made of, the phases of the reaper, the commands of the other packages, the
phases of a flush, the start of a process from the file and the log, the
push of the state to a standby and the failover to it. A request between
two of its sections is in flight, and the next section of any request in
flight may run at any time.

A handler that keeps a pointer to a record writes through it even when the
record has left the directory. `Ref` tells the two cases apart.

The clock never goes back. What a section reads from it is its reading
when the section runs.
-/

namespace Rendezvous.Lifecycle

open Base Registry Authz Rendezvous.Membership Directory Identity Admin Wal Persist Recovery Roster

/-! ## Registration in sections -/

/-- `HandleRegister` and `HandleReRegister` up to the ratchet: the
arguments, the key they decode to, and the external identity to be set at
the end. A hostname that is not valid is left out, and then no external
identity is set. -/
def admitRegister (E : Env) (remoteAddr : String) (s : Server) (msg : Msg) :
    Except String (RegisterReq × Bytes × String) := do
  let externalID ← checkIdentityToken E msg
  let publicKey ← orFail (msg.str? "public_key") "registration requires public_key"
  require (publicKey ≠ "") "registration requires public_key"
  let sigVerified ← checkRegisterSig E msg publicKey
  let req := registerReq E remoteAddr msg publicKey sigVerified
  let (req, externalID) := match validateHostname req.hostname with
    | .error _ => ({ req with hostname := "" }, "")
    | .ok _ => (req, externalID)
  let key ← orFail (E.decodePublicKey req.publicKey) "invalid public key"
  (match ratchetRejects s req with
    | some nodeID => .error
        s!"node {nodeID}: unsigned registration cannot modify a signature-verified key"
    | none => .ok ())
  return (req, key, externalID)

/-- What the fast path writes, through the pointer it has. -/
def fastRefresh (now : Time) (req : RegisterReq) (n : NodeInfo) : NodeInfo :=
  { refresh req n with lastSeenNano := now }

/-- The slow path for a registered node. -/
def slowRefresh (E : Env) (now : Time) (s : Server) (req : RegisterReq)
    (nodeID : NodeId) (n : NodeInfo) : Outcome :=
  let takesOwner := req.owner ≠ "" ∧ n.owner = ""
  let refreshed := (refresh req n).setLastSeen now
  let node := if takesOwner then { refreshed with owner := req.owner } else refreshed
  let s := { s with nodes := s.nodes.set nodeID node }
  let s := if takesOwner then indexOwner s req.owner nodeID else s
  let (s, extra) := setNodeHostname s nodeID req.hostname
  { server := s, resp := registerResp E nodeID req.publicKey ++ extra }

/-- The slow path. -/
def slowPath (E : Env) (now : Time) (order : List NetId) (s : Server)
    (req : RegisterReq) (key : Bytes) : Except String Outcome :=
  match s.pubKeyIdx.get req.publicKey with
  | some nodeID =>
    match s.nodes.get nodeID with
    | some n => .ok (slowRefresh E now s req nodeID n)
    | none => .ok (reclaimByKey E now order s req nodeID key)
  | none => registerUnknown E now s req key

/-- The registered node the key's text leads to. -/
def knownId (s : Server) (req : RegisterReq) : Option NodeId :=
  (s.pubKeyIdx.get req.publicKey).filter s.nodes.has

/-- The id the slow path files a fresh record under. -/
def filedId (s : Server) (req : RegisterReq) : Option NodeId :=
  match s.pubKeyIdx.get req.publicKey with
  | some id => if s.nodes.has id then none else some id
  | none =>
    match (if req.owner = "" then none else s.ownerIdx.get req.owner) with
    | some id => if s.nodes.has id then none else some id
    | none => some s.nextNode

/-! ## Requests in flight -/

/-- A pointer to a record: to the one in the directory under an id, or to
one that left it, as it was then. -/
inductive Ref where
  | held (id : NodeId)
  | gone (n : NodeInfo)

/-- The record a pointer leads to. -/
def Ref.read (s : Server) : Ref → Option NodeInfo
  | .held id => s.nodes.get id
  | .gone n => some n

/-- The record under `id` leaves the directory. -/
def Ref.leave (id : NodeId) (n : NodeInfo) : Ref → Ref
  | .held j => if j = id then .gone n else .held j
  | .gone m => .gone m

/-- What a registration does next: look its key up, read the record, write
it, take the slow path, or set the external identity. -/
inductive Stage where
  | look
  | read (id : NodeId) (ref : Ref)
  | fast (id : NodeId) (ref : Ref)
  | slow
  | external (id : NodeId)

/-- A heartbeat, in either encoding. -/
inductive Beat where
  | json (msg : Msg)
  | binary (sig : Bytes)

/-- What a heartbeat does next: read the clock, load the time of the last
check and check its own signature if that is due, store that it was checked,
or store that its node was seen. None of it is under a lock. -/
inductive Pulse where
  | due
  | timed (now : Time)
  | signed (now : Time)
  | alive (now : Time)

/-- A request between two of its sections. -/
inductive Flight where
  /-- A registration that passed the ratchet. -/
  | register (req : RegisterReq) (key : Bytes) (externalID : String) (stage : Stage)
  /-- A signed request; `gated` when the enterprise gate was passed. -/
  | request (msg : Msg) (c : Checked) (gated : Bool)
  /-- A heartbeat that looked its node up. -/
  | beat (b : Beat) (ref : Ref) (key : Bytes) (expiresAt : Time) (pulse : Pulse)
  /-- A rotation, checked under the key `expected`. -/
  | rotate (id : NodeId) (text : String) (key expected : Bytes)
  /-- A recovery before its nonce was looked up in the ledger. -/
  | ledger (id : NodeId) (text : String) (key : Bytes) (r : Recovery)
  /-- A recovery before its nonce was noted in the record. -/
  | note (id : NodeId) (text : String) (key : Bytes) (r : Recovery)
  /-- A recovery about to replace the key. -/
  | force (id : NodeId) (text : String) (key : Bytes) (r : Recovery)
  /-- A committed key, before the key index is updated. -/
  | index (id : NodeId) (old text : String) (rotatedAt : Option Time)
  /-- A committed key, before its delta is recorded. -/
  | record (id : NodeId) (text : String) (rotatedAt : Option Time)
  /-- A sweep of the reaper, with the candidates it has still to delete and
  the hostnames they had. -/
  | sweep (threshold : Time) (cands : List (NodeId × String))

/-- A request with other pointers. -/
def Flight.mapRef (g : Ref → Ref) : Flight → Flight
  | .register req key ext (.read id ref) => .register req key ext (.read id (g ref))
  | .register req key ext (.fast id ref) => .register req key ext (.fast id (g ref))
  | .beat b ref key expiresAt pulse => .beat b (g ref) key expiresAt pulse
  | f => f

/-- A request after the record under `id` left. -/
def Flight.leave (id : NodeId) (n : NodeInfo) : Flight → Flight :=
  Flight.mapRef (Ref.leave id n)

/-! ## The state -/

/-- Memory with the requests in flight, the disk, and the standby's copy.
`verified` is `LastVerifiedNano` of the records in the directory. -/
structure World where
  clock : Time
  live : Server
  verified : GoMap NodeId Time := ∅
  flights : List Flight := []
  copies : List Server := []
  file : Option Snapshot := none
  log : List Delta := []
  standby : Option Server := none

/-- A registry started for the first time. -/
def World.fresh (now : Time) : World := { clock := now, live := freshServer now }

/-- A new request is in flight. -/
def World.launch (w : World) (f : Flight) : World :=
  { w with flights := w.flights ++ [f] }

/-- A request in flight goes on. -/
def World.put (w : World) (i : Nat) (f : Flight) : World :=
  { w with flights := w.flights.set i f }

/-- A request in flight has returned. -/
def World.done (w : World) (i : Nat) : World :=
  { w with flights := w.flights.eraseIdx i }

/-- Deltas go to the log, unless it refuses them. -/
def World.append (w : World) (logged : Bool) (ds : List Delta) : World :=
  { w with log := if logged then w.log ++ ds else w.log }

/-- Memory changes. -/
def World.become (w : World) (s : Server) : World := { w with live := s }

/-- The record a pointer leads to is written, if it is in the directory. -/
def World.write (w : World) (ref : Ref) (edit : NodeInfo → NodeInfo) : World :=
  match ref with
  | .held id => w.become { w.live with nodes := w.live.nodes.modify id edit }
  | .gone _ => w

/-- The record `n` under `id` leaves the directory, and memory becomes
`s`. -/
def World.leave (w : World) (id : NodeId) (n : NodeInfo) (s : Server) : World :=
  { w with
    live := s
    verified := w.verified.del id
    flights := w.flights.map (Flight.leave id n) }

/-- Another record takes the place of the one under `id`, if there is one. -/
def World.displace (w : World) (id : Option NodeId) : World :=
  match id.bind fun id => (w.live.nodes.get id).map fun n => (id, n) with
  | some (id, n) => w.leave id n w.live
  | none => w

/-! ## The sections -/

/-- `heartbeatVerifyCacheTTL`. -/
def heartbeatVerifyCacheTTL : Int := 120 * second

/-- `heartbeatMaxSkew`, in seconds. -/
def heartbeatMaxSkew : Int := 60

/-- `jsonInt64`. -/
def jsonInt64 (msg : Msg) (key : String) : Option Int := (msg.num? key).map toInt64

/-- The result of `int64` arithmetic, which wraps. -/
def int64 (n : Int) : Int := n.bmod (2 ^ 64)

/-- The distance of two times, as `heartbeatChallenge` computes it. -/
def skewOf (now ts : Int) : Int :=
  if int64 (now - ts) < 0 then int64 (-int64 (now - ts)) else int64 (now - ts)

/-- `heartbeatChallenge`. -/
def heartbeatChallenge (E : NodeEnv) (now : Time) (nodeID : NodeId) (msg : Msg) :
    Except String String :=
  if !E.strictHeartbeatFreshness then .ok s!"heartbeat:{nodeID}"
  else do
    let ts ← orFail (jsonInt64 msg "ts") "heartbeat requires a ts field"
    let skew := skewOf (now / second) ts
    require (skew ≤ heartbeatMaxSkew)
      s!"heartbeat ts is {skew}s from registry time (max {heartbeatMaxSkew}s)"
    return s!"heartbeat:{nodeID}:{ts}"

/-- The signature of a heartbeat. -/
def verifyBeat (E : NodeEnv) (now : Time) (nodeID : NodeId) (key : Bytes) :
    Beat → Except String Unit
  | .json msg => do
    let challenge ← heartbeatChallenge E now nodeID msg
    verifyNodeSignature E.toEnv (some key) E.adminToken msg challenge
  | .binary sig => require (E.verifyCached key (utf8 s!"heartbeat:{nodeID}") sig)
      "signature verification failed"

/-- A heartbeat's signature was checked lately. -/
def skipVerify (E : NodeEnv) (verified : GoMap NodeId Time) (now : Time) (nodeID : NodeId) :
    Bool :=
  !E.strictHeartbeatFreshness && (verified.get nodeID).any fun last =>
    decide (last > 0 ∧ now - last < heartbeatVerifyCacheTTL)

/-- A key expiry that is set and has passed. -/
def keyExpired (expiresAt now : Time) : Bool := expiresAt ≠ zeroTime && expiresAt < now

/-- A heartbeat past its signature: it goes on unless the key has expired. -/
def World.passBeat (w : World) (i : Nat) (b : Beat) (ref : Ref) (key : Bytes)
    (expiresAt now : Time) : World :=
  if keyExpired expiresAt now then w.done i
  else w.put i (.beat b ref key expiresAt (.alive now))

/-- The next step of a heartbeat. -/
def World.goBeat (E : NodeEnv) (w : World) (i : Nat) (b : Beat) (key : Bytes)
    (expiresAt : Time) : Ref → Pulse → World
  | ref, .due => w.put i (.beat b ref key expiresAt (.timed w.clock))
  | .held id, .timed now =>
    if skipVerify E w.verified now id then w.passBeat i b (.held id) key expiresAt now
    else match verifyBeat E now id key b with
      | .ok _ => w.put i (.beat b (.held id) key expiresAt (.signed now))
      | .error _ => w.done i
  | .held id, .signed now =>
    { w with verified := w.verified.set id now }.passBeat i b (.held id) key expiresAt now
  | .held id, .alive now => (w.write (.held id) fun n => { n with lastSeenNano := now }).done i
  -- what a heartbeat writes to a record that left is not seen again
  | .gone _, _ => w.done i

/-- `UpdateNodeKey` and `ForceRotateKey`: the key of the record is replaced
unless the node is gone, or has another key than the one expected. -/
def World.commitKey (w : World) (i : Nat) (id : NodeId) (text : String)
    (expected : Option Bytes) (record : NodeInfo → NodeInfo)
    (rotatedAt : Option Time) : World :=
  match w.live.nodes.get id with
  | none => w.done i
  | some n =>
    if expected.all fun key => n.publicKey = key then
      (w.become { w.live with nodes := w.live.nodes.set id (record n) }).put i
        (.index id (Base64.encode n.publicKey) text rotatedAt)
    else w.done i

/-- `ConsumeRecoveryNonce`: the nonce is noted in the record, unless it is
the one noted there. -/
def World.noteNonce (w : World) (i : Nat) (id : NodeId) (text : String) (key : Bytes)
    (r : Recovery) : World :=
  match w.live.nodes.get id with
  | none => w.done i
  | some n =>
    if r.nonce ≠ "" && n.recoveryConsumedNonce = r.nonce then w.done i
    else (w.become { w.live with nodes := w.live.nodes.set id { n with
      recoveryConsumedNonce := r.nonce
      recoveryConsumedExp := r.exp * second } }).put i (.force id text key r)

/-- A candidate of a sweep leaves the backbone and the directory, and the
hostname it had when it was scanned leaves the index. -/
def dropCandidate (s : Server) (cand : NodeId × String) : Server :=
  let s := { s with networks := s.networks.modify 0 fun net =>
    { net with members := net.members.erase cand.1 } }
  dropNode (dropHostname s cand.2) cand.1

/-- One candidate of a sweep: it leaves if it is there and still stale. The
check and the deletion are one step: a heartbeat that stores its time between
them writes to a record that leaves. -/
def World.reap (threshold : Time) (w : World) (cand : NodeId × String) : World :=
  match w.live.nodes.get cand.1 with
  | none => w
  | some n =>
    if n.getLastSeen < threshold then w.leave cand.1 n (dropCandidate w.live cand)
    else w

/-- `reapDeleteBatch`. -/
def reapDeleteBatch : Nat := 128

/-- The delta of a committed key. -/
def rotationDelta (id : NodeId) (text : String) (rotatedAt : Option Time)
    (now : Time) : Delta :=
  .keyRotation {
    nodeID := id
    newPublicKey := text
    rotatedAt := some (rfc3339 (rotatedAt.getD now))
    clearBadge := rotatedAt.isNone }

/-- After a registration's commit: the external identity, if there is one. -/
def World.afterRegister (w : World) (i : Nat) (req : RegisterReq) (key : Bytes)
    (externalID : String) (id : NodeId) : World :=
  if externalID = "" ∨ id = 0 then w.done i
  else w.put i (.register req key externalID (.external id))

/-- The next section of a registration. -/
def World.goRegister (E : NodeEnv) (w : World) (i : Nat) (order : List NetId)
    (logged : Bool) (req : RegisterReq) (key : Bytes) (externalID : String) :
    Stage → World
  | .look =>
    match knownId w.live req with
    | some id => w.put i (.register req key externalID (.read id (.held id)))
    | none => w.put i (.register req key externalID .slow)
  | .read id ref =>
    if (ref.read w.live).any (needsNoIndex req) then
      w.put i (.register req key externalID (.fast id ref))
    else w.put i (.register req key externalID .slow)
  | .fast id ref =>
    (w.write ref (fastRefresh w.clock req)).afterRegister i req key externalID id
  | .slow =>
    if w.live.networks.Enumerates order then
      match slowPath E.toEnv w.clock order w.live req key with
      | .ok o => (((w.displace (filedId w.live req)).become o.server).append logged
          o.wal).afterRegister i req key externalID (respNode o.resp)
      | .error _ => w.done i
    else w
  | .external id => (w.become (setExternalID w.live id externalID)).done i

/-- The next section of a signed request. -/
def World.goRequest (E : NodeEnv) (w : World) (i : Nat) (logged : Bool) (msg : Msg)
    (c : Checked) (gated : Bool) : World :=
  match c.setting, gated with
  | .keyExpiry _, false =>
    if nodeIsEnterprise w.live c.nodeID then w.put i (.request msg c true)
    else w.done i
  | _, _ =>
    match c.commit E w.clock w.live with
    | .ok o => ((w.become o.server).append logged o.wal).done i
    | .error _ => w.done i

/-- The next section of a request in flight. -/
def World.go (E : NodeEnv) (w : World) (i : Nat) (order : List NetId)
    (logged : Bool) : Flight → World
  | .register req key externalID stage =>
    w.goRegister E i order logged req key externalID stage
  | .request msg c gated => w.goRequest E i logged msg c gated
  | .beat b ref key expiresAt pulse => w.goBeat E i b key expiresAt ref pulse
  | .rotate id text key expected => w.commitKey i id text (some expected)
      (fun n => rotated n key w.clock) (some w.clock)
  | .ledger id text key r =>
    let (used, unused) := consumeNonce w.clock w.live.consumedNonces r
    let w := w.become { w.live with consumedNonces := used }
    if unused then w.put i (.note id text key r) else w.done i
  | .note id text key r => w.noteNonce i id text key r
  | .force id text key _ => w.commitKey i id text none
      (fun n => clearBadge (rotated n key w.clock)) none
  | .index id old text rotatedAt =>
    (w.become (onKeyRotated w.live id old text)).put i (.record id text rotatedAt)
  | .record id text rotatedAt =>
    (w.append logged [rotationDelta id text rotatedAt w.clock]).done i
  | .sweep threshold cands =>
    let w := (cands.take reapDeleteBatch).foldl (World.reap threshold) w
    if (cands.drop reapDeleteBatch).isEmpty then w.done i
    else w.put i (.sweep threshold (cands.drop reapDeleteBatch))

/-! ## Events -/

/-- Commands that have no sections of their own here: those of the other
packages, and of the operator. -/
def elsewhere : Roster.Op → Bool
  | .register .. | .reap .. | .deregister _ | .joinNetwork _ | .leaveNetwork _ => false
  | _ => true

/-- What may happen next. `go i` runs the next section of the request at
place `i`, with the order it meets the networks in. Deltas are `logged`
unless the log refuses them. -/
inductive World.Event where
  | tick (d : Nat)
  | register (remoteAddr : String) (msg : Msg)
  | request (command : Command) (msg : Msg)
  | heartbeat (msg : Msg)
  | binaryHeartbeat (nodeID : NodeId) (sig : Bytes)
  | rotateKey (msg : Msg)
  | recoverIdentity (msg : Msg)
  | deregister (msg : Msg) (logged : Bool)
  | scan (threshold : Time) (chunk : List NodeId)
  | go (i : Nat) (order : List NetId) (logged : Bool)
  | command (op : Roster.Op) (logged : Bool)
  | copy
  | replace (i : Nat)
  | truncate
  | lose
  | start (order : List NodeId)
  | push (order : List NodeId)
  | failover

/-- A heartbeat looks its node up. -/
def World.lookBeat (w : World) (b : Beat) (id : NodeId) : World :=
  match w.live.nodes.get id with
  | some n => w.launch (.beat b (.held id) n.publicKey n.keyMeta.expiresAt .due)
  | none => w

/-- The candidates of a sweep: the stale nodes of the chunk, with their
hostnames. -/
def candidates (threshold : Time) (s : Server) (chunk : List NodeId) : List (NodeId × String) :=
  chunk.filterMap fun id => (s.nodes.get id).bind fun n =>
    if n.getLastSeen < threshold then some (id, n.hostname) else none

/-- One event. A request that is refused, a copy that is not there and an
order that is not one of the records' make no event. -/
def World.step (E : NodeEnv) (w : World) : World.Event → World
  | .tick d => { w with clock := w.clock + d }
  | .register remoteAddr msg =>
    match admitRegister E.toEnv remoteAddr w.live msg with
    | .ok (req, key, externalID) => w.launch (.register req key externalID .look)
    | .error _ => w
  | .request command msg =>
    match command.check E w.clock w.live msg with
    | .ok c => w.launch (.request msg c false)
    | .error _ => w
  | .heartbeat msg => w.lookBeat (.json msg) (msg.jsonUint32 "node_id")
  | .binaryHeartbeat nodeID sig =>
    if E.strictHeartbeatFreshness then w else w.lookBeat (.binary sig) nodeID
  | .rotateKey msg =>
    match checkRotation E.toEnv w.live msg with
    | .ok (n, key) => w.launch (.rotate (jsonUint32 msg "node_id")
        (msg.str "new_public_key") key n.publicKey)
    | .error _ => w
  | .recoverIdentity msg =>
    match checkRecovery E.toEnv w.clock w.live msg with
    | .ok (r, _, key) => w.launch (.ledger (jsonUint32 msg "node_id")
        (msg.str "new_public_key") key r)
    | .error _ => w
  | .deregister msg logged =>
    match w.live.nodes.get (msg.jsonUint32 "node_id"), handleDeregister E.toEnv w.live msg with
    | some n, .ok o =>
      (w.leave (msg.jsonUint32 "node_id") n o.server).append logged o.wal
    | _, _ => w
  | .scan threshold chunk =>
    w.launch (.sweep threshold (candidates threshold w.live chunk))
  | .go i order logged =>
    match w.flights[i]? with
    | some f => w.go E i order logged f
    | none => w
  | .command op logged =>
    if elsewhere op then
      let (server, deltas) := Roster.handle E.toAdminEnv w.live op
      (w.become server).append logged deltas
    else w
  | .copy => { w with copies := w.copies ++ [w.live] }
  | .replace i =>
    match w.copies[i]? with
    | some s => { w with file := some (save s) }
    | none => w
  | .truncate => { w with log := [] }
  | .lose => { w with file := none }
  | .start order =>
    if IsOrder order (diskNodes w.file) then
      { w with
        live := boot w.clock order w.file w.log
        verified := ∅
        flights := []
        copies := [] }
    else w
  | .push order =>
    if IsOrder order w.live.nodes then
      { w with standby := some (applySnapshot order
          (w.standby.getD (freshServer 0)) (snapshotJSON w.live)) }
    else w
  | .failover =>
    match w.standby with
    | some s => { clock := w.clock, live := s, file := some (save s) }
    | none => w

/-! ## Short runs -/

/-- Node 1 registers with the key `AAAA`. -/
def registers : List World.Event :=
  [.register "host" [("public_key", .str "AAAA"), ("listen_addr", .str "host:1")],
    .go 0 [0] true, .go 0 [0] true]

/-- Node 1 enrolls for recovery. -/
def enrolls : List World.Event :=
  [.request .enrollRecovery [("node_id", .num 1), ("enrollment", .str "c"),
      ("enrollment_sig", .str "s"), ("signature", .str "AAAA")],
    .go 0 [0] true]

/-- A recovery of node 1 from its check to its return; its place among the
requests in flight is `i`. -/
def recovers (i : Nat) (nonce key : String) : List World.Event :=
  [.recoverIdentity [("node_id", .num 1), ("recovery", .str nonce),
      ("recovery_sig", .str key), ("new_public_key", .str key)]] ++
    List.replicate 5 (.go i [0] true)

/-- The state is saved, and a new process starts from the file. -/
def savedAndRestarted : List World.Event :=
  [.copy, .replace 0, .truncate, .start [1]]

end Rendezvous.Lifecycle

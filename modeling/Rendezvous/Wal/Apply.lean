import Mathlib.Data.List.TakeWhile
import Rendezvous.Base.Run
import Rendezvous.Directory.Depart
import Rendezvous.Directory.Register
import Rendezvous.Identity.Handlers
import Rendezvous.Membership.Handlers

/-!
# Applying recorded deltas

The appliers that rebuild the state from the write-ahead log. They are a
second implementation of the operations the handlers perform: a
deregistration applied from the log also takes the node's key and owner
out of the indices, no applier touches an invite, and a network comes back
without rules or expression policy. What is already there, or no longer
there, is skipped without an error; a payload without an id or a key is an
error, and replay stops at it.

`now` is the clock reading of the applier, used where the payload has no
time.
-/

namespace Rendezvous.Wal

open Base Registry Rendezvous.Membership Directory Identity

variable {now : Time} {s : Server} {d : Delta} {ds : List Delta}

/-- A hostname enters the index, unless it is empty. -/
def indexHostname (s : Server) (hostname : String) (nodeID : NodeId) : Server :=
  if hostname = "" then s
  else { s with hostnameIdx := s.hostnameIdx.set hostname nodeID }

/-- An owner leaves the index, unless it is empty. -/
def dropOwner (s : Server) (owner : String) : Server :=
  if owner = "" then s
  else { s with ownerIdx := s.ownerIdx.del owner }

/-- The node counter moves past an id. -/
def passNode (s : Server) (nodeID : NodeId) : Server :=
  if s.nextNode ≤ nodeID then { s with nextNode := nodeID + 1 } else s

/-- The network counter moves past an id. -/
def passNet (s : Server) (netID : NetId) : Server :=
  if s.nextNet ≤ netID then { s with nextNet := netID + 1 } else s

/-- The record a register delta describes. -/
def deltaNode (now : Time) (d : RegisterDelta) (key : Bytes) : NodeInfo :=
  let createdAt := d.createdAt.getD now
  let node : NodeInfo := {
    owner := d.owner
    publicKey := key
    realAddr := d.realAddr
    networks := [0]
    hostname := d.hostname
    lanAddrs := d.lanAddrs
    version := d.version
    keyMeta := { createdAt := createdAt } }
  node.setLastSeen createdAt

/-- A node that was not there is filed under the delta's id. -/
def restoreNode (s : Server) (d : RegisterDelta) (node : NodeInfo) : Server :=
  let s := { s with
    nodes := s.nodes.set d.nodeID node
    pubKeyIdx := s.pubKeyIdx.set d.publicKey d.nodeID }
  let s := indexHostname (indexOwner s d.owner d.nodeID) d.hostname d.nodeID
  passNode (addNodeToBackbone s d.nodeID) d.nodeID

/-- `applyRegisterDelta`. -/
def applyRegisterDelta (now : Time) (s : Server) (d : RegisterDelta) : Except String Server := do
  require (d.nodeID ≠ 0 && d.publicKey ≠ "")
    "register delta: missing node_id or public_key"
  let key ← orFail (Base64.decode d.publicKey) "register delta: bad public_key"
  return (if s.nodes.has d.nodeID then s
    else restoreNode s d (deltaNode now d key))

/-- `applyDeregisterDelta`. -/
def applyDeregisterDelta (s : Server) (nodeID : NodeId) : Server :=
  match s.nodes.get nodeID with
  | none => s
  | some n =>
    let s := { s with
      pubKeyIdx := s.pubKeyIdx.del (Base64.encode n.publicKey) }
    let s := dropHostname (dropOwner s n.owner) n.hostname
    removeFromNetworks (dropNode s nodeID) nodeID n.networks

/-- The creator's record learns of the network, if it does not know it. -/
def listNetwork (s : Server) (nodeID : NodeId) (netID : NetId) : Server :=
  { s with nodes := s.nodes.modify nodeID fun n =>
      if n.networks.contains netID then n
      else { n with networks := n.networks ++ [netID] } }

/-- The network a create delta describes. -/
def deltaNetwork (now : Time) (d : NetworkCreateDelta) : NetworkInfo where
  name := d.name
  joinRule := d.joinRule
  token := d.token
  adminToken := d.adminToken
  enterprise := d.enterprise
  members := if d.creatorNodeID = 0 then [] else [d.creatorNodeID]
  memberRoles := some (if d.creatorNodeID = 0 then ∅
    else (∅ : GoMap NodeId Role).set d.creatorNodeID .owner)
  created := d.createdAt.getD now

/-- `applyNetworkCreateDelta`. -/
def applyNetworkCreateDelta (now : Time) (s : Server) (d : NetworkCreateDelta) : Server :=
  if s.networks.has d.networkID then s
  else
    let s := if d.creatorNodeID = 0 then s
      else listNetwork s d.creatorNodeID d.networkID
    passNet (putNetwork s d.networkID (deltaNetwork now d)) d.networkID

/-- `applyNetworkDeleteDelta`. -/
def applyNetworkDeleteDelta (s : Server) (netID : NetId) : Server :=
  match s.networks.get netID with
  | none => s
  | some net =>
    let s := forgetNetwork s net.members netID
    { s with networks := s.networks.del netID }

/-- The joining half of `applyNetworkMembershipDelta`. -/
def applyNetworkJoinDelta (s : Server) (nodeID : NodeId) (netID : NetId) : Server :=
  match s.networks.get netID, s.nodes.get nodeID with
  | some net, some _ =>
    let s := if net.members.contains nodeID then s
      else putNetwork s netID (addMember net nodeID)
    listNetwork s nodeID netID
  | _, _ => s

/-- The leaving half of `applyNetworkMembershipDelta`. -/
def applyNetworkLeaveDelta (s : Server) (nodeID : NodeId) (netID : NetId) : Server :=
  match s.networks.get netID, s.nodes.get nodeID with
  | some net, some _ =>
    removeNodeNetwork (putNetwork s netID (dropMember net nodeID)) nodeID netID
  | _, _ => s

/-- What a key rotation delta does to the record. -/
def replayRotation (d : KeyRotationDelta) (key : Bytes) (n : NodeInfo) : NodeInfo :=
  let n := { n with
    publicKey := key
    keyMeta := { n.keyMeta with
      rotatedAt := d.rotatedAt.getD n.keyMeta.rotatedAt
      rotateCount := n.keyMeta.rotateCount + 1 } }
  if d.clearBadge then clearBadge n else n

/-- `applyKeyRotationDelta`. -/
def applyKeyRotationDelta (s : Server) (d : KeyRotationDelta) : Except String Server := do
  require (d.nodeID ≠ 0 && d.newPublicKey ≠ "") "key rotation delta: missing fields"
  let key ← orFail (Base64.decode d.newPublicKey)
    "key rotation delta: bad new_public_key"
  return (match s.nodes.get d.nodeID with
    | none => s
    | some n => commitKey s d.nodeID n (replayRotation d key n) d.newPublicKey)

/-- `applyDelta`, on a payload that was read. -/
def applyDelta (now : Time) (s : Server) : Delta → Except String Server
  | .register d => applyRegisterDelta now s d
  | .deregister nodeID => .ok (applyDeregisterDelta s nodeID)
  | .networkCreate d => .ok (applyNetworkCreateDelta now s d)
  | .networkDelete netID => .ok (applyNetworkDeleteDelta s netID)
  | .networkJoin nodeID netID => .ok (applyNetworkJoinDelta s nodeID netID)
  | .networkLeave nodeID netID => .ok (applyNetworkLeaveDelta s nodeID netID)
  | .keyRotation d => applyKeyRotationDelta s d

/-- The deltas applied in order, up to the first one that is refused. -/
def replay (now : Time) (s : Server) : List Delta → Server
  | [] => s
  | d :: ds =>
    match applyDelta now s d with
    | .ok s' => replay now s' ds
    | .error _ => s

/-! ## Replay of deltas that are not refused -/

/-- The payload has what its applier insists on. -/
def WellFormed : Delta → Prop
  | .register d => d.nodeID ≠ 0 ∧ d.publicKey ≠ "" ∧ (Base64.decode d.publicKey).isSome
  | .keyRotation d => d.nodeID ≠ 0 ∧ d.newPublicKey ≠ "" ∧ (Base64.decode d.newPublicKey).isSome
  | _ => True

instance (d : Delta) : Decidable (WellFormed d) := by
  cases d <;> unfold WellFormed <;> infer_instance

/-- The state after one delta; a refused one changes nothing. -/
def applyOr (now : Time) (s : Server) (d : Delta) : Server :=
  match applyDelta now s d with
  | .ok s' => s'
  | .error _ => s

theorem applyRegisterDelta_eq_ok (now : Time) (s s' : Server)
    (d : RegisterDelta) :
    applyRegisterDelta now s d = .ok s' ↔ (d.nodeID ≠ 0 ∧ d.publicKey ≠ "") ∧
        ∃ key, Base64.decode d.publicKey = some key ∧ (if s.nodes.has d.nodeID then s
            else restoreNode s d (deltaNode now d key)) = s' := by
  simp only [applyRegisterDelta, bind_eq_ok, require_eq_ok, orFail_eq_ok,
    pure_eq_ok, Bool.and_eq_true, decide_eq_true_eq, exists_const]

theorem applyKeyRotationDelta_eq_ok (s s' : Server) (d : KeyRotationDelta) :
    applyKeyRotationDelta s d = .ok s' ↔ (d.nodeID ≠ 0 ∧ d.newPublicKey ≠ "") ∧
        ∃ key, Base64.decode d.newPublicKey = some key ∧ (match s.nodes.get d.nodeID with
            | none => s
            | some n => commitKey s d.nodeID n (replayRotation d key n)
                d.newPublicKey) = s' := by
  simp only [applyKeyRotationDelta, bind_eq_ok, require_eq_ok, orFail_eq_ok,
    pure_eq_ok, Bool.and_eq_true, decide_eq_true_eq, exists_const]

theorem applyOr_of_ok {s' : Server} (h : applyDelta now s d = .ok s') : applyOr now s d = s' := by
  unfold applyOr
  rw [h]

theorem applyDelta_wellFormed (now : Time) (s : Server) (h : WellFormed d) :
    applyDelta now s d = .ok (applyOr now s d) := by
  suffices hok : ∃ s', applyDelta now s d = .ok s' by
    obtain ⟨s', hok⟩ := hok
    rw [applyOr_of_ok hok]
    exact hok
  cases d with
  | register d =>
    obtain ⟨hid, hkey, hdec⟩ := h
    obtain ⟨key, hdec⟩ := Option.isSome_iff_exists.mp hdec
    exact ⟨_, (applyRegisterDelta_eq_ok now s _ d).mpr
      ⟨⟨hid, hkey⟩, key, hdec, rfl⟩⟩
  | keyRotation d =>
    obtain ⟨hid, hkey, hdec⟩ := h
    obtain ⟨key, hdec⟩ := Option.isSome_iff_exists.mp hdec
    exact ⟨_, (applyKeyRotationDelta_eq_ok s _ d).mpr
      ⟨⟨hid, hkey⟩, key, hdec, rfl⟩⟩
  | _ => exact ⟨_, rfl⟩

theorem applyDelta_refused (now : Time) (s : Server) (h : ¬ WellFormed d) :
    ∃ e, applyDelta now s d = .error e := by
  cases hd : applyDelta now s d with
  | error e => exact ⟨e, rfl⟩
  | ok s' =>
    refine absurd ?_ h
    cases d with
    | register d =>
      obtain ⟨⟨hid, hne⟩, key, hdec, -⟩ :=
        (applyRegisterDelta_eq_ok now s s' d).mp hd
      exact ⟨hid, hne, by simp [hdec]⟩
    | keyRotation d =>
      obtain ⟨⟨hid, hne⟩, key, hdec, -⟩ :=
        (applyKeyRotationDelta_eq_ok s s' d).mp hd
      exact ⟨hid, hne, by simp [hdec]⟩
    | _ => trivial

theorem applyOr_register {d : RegisterDelta} {key : Bytes} (hid : d.nodeID ≠ 0)
    (hne : d.publicKey ≠ "") (hdec : Base64.decode d.publicKey = some key) :
    applyOr now s (.register d) =
      if s.nodes.has d.nodeID then s
      else restoreNode s d (deltaNode now d key) := by
  apply applyOr_of_ok
  exact (applyRegisterDelta_eq_ok now s _ d).mpr ⟨⟨hid, hne⟩, key, hdec, rfl⟩

theorem applyOr_keyRotation {d : KeyRotationDelta} {key : Bytes} (hid : d.nodeID ≠ 0)
    (hne : d.newPublicKey ≠ "") (hdec : Base64.decode d.newPublicKey = some key) :
    applyOr now s (.keyRotation d) =
      match s.nodes.get d.nodeID with
      | none => s
      | some n => commitKey s d.nodeID n (replayRotation d key n)
          d.newPublicKey := by
  apply applyOr_of_ok
  exact (applyKeyRotationDelta_eq_ok s _ d).mpr ⟨⟨hid, hne⟩, key, hdec, rfl⟩

/-- A log of well-formed deltas is replayed to its end. -/
theorem replay_wellFormed (h : ∀ d ∈ ds, WellFormed d) :
    replay now s ds = ds.foldl (applyOr now) s := by
  induction ds generalizing s with
  | nil => rfl
  | cons d ds ih =>
    have hd := applyDelta_wellFormed now s (h d (by simp))
    simp only [replay, hd, List.foldl_cons]
    exact ih fun x hx => h x (by simp [hx])

/-- Appending to a well-formed log appends to its replay. -/
theorem replay_append (h : ∀ d ∈ ds, WellFormed d) (es : List Delta) :
    replay now s (ds ++ es) = replay now (replay now s ds) es := by
  induction ds generalizing s with
  | nil => rfl
  | cons d ds ih =>
    have hd := applyDelta_wellFormed now s (h d (by simp))
    simp only [List.cons_append, replay, hd]
    exact ih fun x hx => h x (by simp [hx])

/-- The deltas a replay gets to: those before the first one that is
refused. -/
def replayed (ds : List Delta) : List Delta :=
  ds.takeWhile fun d => decide (WellFormed d)

theorem wellFormed_of_replayed (h : d ∈ replayed ds) : WellFormed d := by
  simpa using List.mem_takeWhile_imp h

theorem replayed_take (ds : List Delta) (k : Nat) : replayed (ds.take k) = (replayed ds).take k :=
  List.take_takeWhile.symm

theorem replay_eq_foldl (now : Time) (s : Server) (ds : List Delta) :
    replay now s ds = (replayed ds).foldl (applyOr now) s := by
  unfold replayed
  induction ds generalizing s with
  | nil => rfl
  | cons d ds ih =>
    by_cases hd : WellFormed d
    · have hok := applyDelta_wellFormed now s hd
      rw [List.takeWhile_cons_of_pos (by simp [hd]), List.foldl_cons]
      simp only [replay, hok]
      exact ih (applyOr now s d)
    · obtain ⟨e, he⟩ := applyDelta_refused now s hd
      rw [List.takeWhile_cons_of_neg (by simp [hd]), List.foldl_nil]
      simp only [replay, he]

/-- What every delta of a log keeps under its condition, the replay keeps. -/
theorem replay_keeps {P : Server → Prop} {C : Server → Delta → Prop}
    (hstep : ∀ s, ∀ d ∈ ds, WellFormed d → C s d → P s → P (applyOr now s d))
    (hlog : Meets (applyOr now) C s (replayed ds)) (h : P s) : P (replay now s ds) := by
  rw [replay_eq_foldl]
  have hsteps : Meets (applyOr now) (fun s d => d ∈ replayed ds ∧ C s d) s (replayed ds) := by
    rw [meets_iff] at hlog ⊢
    intro xs d ys hsplit
    exact ⟨by rw [hsplit]; simp, hlog xs d ys hsplit⟩
  exact hsteps.invariant _ (fun s d hd hs => hstep s d ((List.takeWhile_prefix _).subset hd.1)
    (wellFormed_of_replayed hd.1) hd.2 hs) h

end Rendezvous.Wal

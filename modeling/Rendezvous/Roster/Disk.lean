import Rendezvous.Recovery.System
import Rendezvous.Roster.Op

/-!
# Commands, the disk and restarts

The registry under the commands of the roll, with its file and its log. A
flush copies memory, puts the copy in the file's place and truncates the
log, and commands run between these phases. A process ends at any point,
and the next one starts from the file and the log there are.

The second half says what the recorded deltas do to the roll.
-/

namespace Rendezvous.Roster

open Base Registry Rendezvous.Membership Directory Identity Admin Wal Persist Recovery

/-! ## The machine -/

/-- Memory, the copies flushes have made of it, the file and the log. -/
structure Disk where
  live : Server
  copies : List Server := []
  file : Option Snapshot := none
  log : List Delta := []

/-- What may happen next. The deltas of a command are `logged` unless the
log refuses them. A file that is lost, or that `load` will refuse, is as
good as none. -/
inductive Disk.Event where
  | command (op : Op) (logged : Bool)
  | copy
  | replace (i : Nat)
  | truncate
  | lose
  | start (now : Time) (order : List NodeId)

/-- One event. A copy that is not there and an order that is not one of the
records' make no event. -/
def Disk.step (E : AdminEnv) (d : Disk) : Disk.Event → Disk
  | .command op logged =>
    let (server, deltas) := handle E d.live op
    { d with
      live := server
      log := if logged then d.log ++ deltas else d.log }
  | .copy => { d with copies := d.copies ++ [d.live] }
  | .replace i =>
    match d.copies[i]? with
    | some s => { d with file := some (save s) }
    | none => d
  | .truncate => { d with log := [] }
  | .lose => { d with file := none }
  | .start now order =>
    if IsOrder order (diskNodes d.file) then
      { d with live := boot now order d.file d.log, copies := [] }
    else d

/-- A registry started for the first time. -/
def Disk.fresh (now : Time) : Disk := { live := freshServer now }

/-- Whatever holds of memory and survives a copy of it to the file and back
holds of every file: the file is the save of a state that was live. -/
structure Disk.Holds (P : Server → Prop) (Q : Delta → Prop) (d : Disk) : Prop where
  live : P d.live
  copies : ∀ s ∈ d.copies, P s
  file : ∀ snap, d.file = some snap → ∃ s, P s ∧ snap = save s
  log : ∀ e ∈ d.log, Q e

variable {Q : Delta → Prop} {o : Outcome}

/-- The rule for such properties: a command keeps them and records no
other deltas, and so does a start. -/
theorem Disk.Holds.step {P : Server → Prop} {E : AdminEnv} {d : Disk} (h : d.Holds P Q)
    {e : Disk.Event} (hcommand : ∀ op logged, e = .command op logged → P (Roster.step E d.live op))
    (hlog : ∀ op logged, e = .command op logged → ∀ x ∈ (handle E d.live op).2, Q x)
    (hstart : ∀ now order, e = .start now order →
      IsOrder order (diskNodes d.file) → P (boot now order d.file d.log)) :
    (d.step E e).Holds P Q := by
  cases e with
  | command op logged =>
    refine ⟨hcommand op logged rfl, h.copies, h.file, fun x hx => ?_⟩
    simp only [Disk.step] at hx
    split at hx
    · rcases List.mem_append.mp hx with hold | hnew
      · exact h.log x hold
      · exact hlog op logged rfl x hnew
    · exact h.log x hx
  | copy =>
    refine ⟨h.live, fun s hs => ?_, h.file, h.log⟩
    rcases List.mem_append.mp hs with hold | hnew
    · exact h.copies s hold
    · rw [List.mem_singleton.mp hnew]
      exact h.live
  | replace i =>
    simp only [Disk.step]
    split
    · next s hget =>
      refine ⟨h.live, h.copies, fun snap hsnap => ?_, h.log⟩
      exact ⟨s, h.copies s (List.mem_of_getElem? hget), (Option.some.inj hsnap).symm⟩
    · exact h
  | truncate => exact ⟨h.live, h.copies, h.file, fun x hx => by cases hx⟩
  | lose => exact ⟨h.live, h.copies, (fun snap hsnap => by cases hsnap), h.log⟩
  | start now order =>
    simp only [Disk.step]
    split
    · next hord =>
      exact ⟨hstart now order rfl hord, (fun s hs => by cases hs), h.file, h.log⟩
    · exact h

theorem Disk.Holds.fresh {P : Server → Prop} {now : Time} (h : P (freshServer now)) :
    (Disk.fresh now).Holds P Q where
  live := h
  copies := fun s hs => by cases hs
  file := fun snap hsnap => by cases hsnap
  log := fun x hx => by cases hx

/-- The order of the file's records is one of the records it was saved
from. -/
theorem isOrder_save {order : List NodeId} {s : Server}
    (h : IsOrder order (diskNodes (some (save s)))) : IsOrder order s.nodes := by
  refine ⟨h.1, fun id => ?_⟩
  have hid := h.2 id
  change id ∈ order ↔ (s.nodes.mapVals fun _ n => saveNode n).get id ≠ none at hid
  rw [hid, GoMap.get_mapVals, Ne, Option.map_eq_none_iff]

/-! ## What commands record -/

/-- The deltas a command may record. The backbone is not created, deleted or
left. -/
inductive Records : Op → Delta → Prop where
  | register (now : Time) (order : List NetId) (remoteAddr : String) (msg : Msg)
      (d : RegisterDelta) : Records (.register now order remoteAddr msg) (.register d)
  | deregister (msg : Msg) (id : NodeId) : Records (.deregister msg) (.deregister id)
  | create (now : Time) (msg : Msg) (d : NetworkCreateDelta) (h : d.networkID ≠ 0) :
      Records (.createNetwork now msg) (.networkCreate d)
  | delete (msg : Msg) (netID : NetId) (h : netID ≠ 0) :
      Records (.deleteNetwork msg) (.networkDelete netID)
  | join (msg : Msg) (id : NodeId) (netID : NetId) :
      Records (.joinNetwork msg) (.networkJoin id netID)
  | leave (msg : Msg) (id : NodeId) (netID : NetId) (h : netID ≠ 0) :
      Records (.leaveNetwork msg) (.networkLeave id netID)

section

variable {s : Server} {P : Delta → Prop}

theorem answered_records {r : Except String Outcome}
    (h : ∀ o, r = .ok o → ∀ x ∈ o.wal, P x) : ∀ x ∈ (answered s r).2, P x := by
  cases r with
  | error e => exact fun x hx => by cases hx
  | ok o => exact h o rfl

theorem changed_records (s : Server) (r : Except String Server) : ∀ x ∈ (changed s r).2, P x := by
  cases r <;> exact fun x hx => by cases hx

theorem wal_nil (h : o.wal = []) : ∀ x ∈ o.wal, P x := by
  intro x hx
  rw [h] at hx
  cases hx

theorem wal_one {d : Delta} (h : o.wal = [d]) (hd : P d) : ∀ x ∈ o.wal, P x := by
  intro x hx
  rw [h, List.mem_singleton] at hx
  rw [hx]
  exact hd

end

theorem registerNew_wal {E : Env} {now : Time} {s : Server} {req : RegisterReq} {key : Bytes}
    (h : registerNew E now s req key = .ok o) :
    ∃ d : RegisterDelta, o.wal = [.register d] ∧
      d.hostname = ((o.server.nodes.get d.nodeID).map NodeInfo.hostname).getD "" := by
  simp only [registerNew, bind_eq_ok, pure_eq_ok] at h
  obtain ⟨_, -, _, -, rfl⟩ := h
  exact ⟨_, rfl, rfl⟩

theorem handleRegister_records {E : Env} {now : Time} {order : List NetId} {remoteAddr : String}
    {s : Server} {msg : Msg} (h : handleRegister E now order remoteAddr s msg = .ok o) :
    ∀ x ∈ o.wal, Records (.register now order remoteAddr msg) x := by
  obtain ⟨req, key, o', -, -, -, -, hbranch, hwal, -⟩ := handleRegister_branch h
  generalize respNode o.resp = id at hbranch
  cases hbranch with
  | known _ n hidx hnode =>
    have hnil : (refreshKnown E now s req id n).wal = [] := by
      unfold refreshKnown
      split <;> rfl
    exact wal_nil (hwal.trans hnil)
  | new _ hidx hown hfree hnew =>
    obtain ⟨d, hd, -⟩ := registerNew_wal hnew
    exact wal_one (hwal.trans hd) (.register now order remoteAddr msg d)
  | _ => exact wal_nil hwal

theorem handle_records (E : AdminEnv) (s : Server) (op : Op) :
    ∀ x ∈ (handle E s op).2, Records op x := by
  cases op with
  | register now order remoteAddr msg =>
    simp only [handle]
    split
    · exact answered_records fun o ho => handleRegister_records ho
    · exact fun x hx => by cases hx
  | reap | directorySync => exact fun x hx => by cases hx
  | deregister msg =>
    refine answered_records fun o ho => ?_
    rcases deregister_cases ho with ⟨-, hwal⟩ | ⟨n, -, -, hwal⟩
    · exact wal_nil hwal
    · exact wal_one hwal (.deregister msg _)
  | createNetwork now msg =>
    refine answered_records fun o ho => ?_
    obtain ⟨rules, expr, n, -, hfree, -, hwal⟩ := handleCreateNetwork_ok ho
    exact wal_one hwal (.create now msg _ hfree)
  | deleteNetwork msg =>
    refine answered_records fun o ho => ?_
    obtain ⟨net, hzero, -, -, hwal⟩ := handleDeleteNetwork_ok ho
    exact wal_one hwal (.delete msg _ hzero)
  | joinNetwork msg =>
    refine answered_records fun o ho => ?_
    obtain ⟨node, net, -, -, -, -, -, hwal⟩ := handleJoinNetwork_ok ho
    exact wal_one hwal (.join msg _ _)
  | leaveNetwork msg =>
    refine answered_records fun o ho => ?_
    obtain ⟨node, net, hzero, -, -, -, -, -, hwal⟩ := handleLeaveNetwork_ok ho
    exact wal_one hwal (.leave msg _ _ hzero)
  | kickMember msg =>
    refine answered_records fun o ho => ?_
    obtain ⟨net, -, -, -, -, -, hwal⟩ := handleKickMember_ok ho
    exact wal_nil hwal
  | adminKick | adminSetRole => exact changed_records s _
  | inviteToNetwork now msg =>
    exact answered_records fun o ho => wal_nil (handleInviteToNetwork_ok ho).2
  | respondInvite now msg =>
    exact answered_records fun o ho => wal_nil (handleRespondInvite_ok ho).1
  | setMemberTags msg =>
    refine answered_records fun o ho => ?_
    obtain ⟨net, -, -, -, hwal⟩ := handleSetMemberTags_ok ho
    exact wal_nil hwal
  | transferOwnership order msg =>
    refine answered_records fun o ho => ?_
    obtain ⟨net, currentOwner, role, -, -, -, -, -, hwal⟩ :=
      handleTransferOwnership_ok ho
    exact wal_nil hwal
  | setEnterprise msg =>
    refine answered_records fun o ho => ?_
    obtain ⟨net, -, -, -, hwal⟩ := handleSetNetworkEnterprise_ok ho
    exact wal_nil hwal
  | setExternalID msg =>
    refine answered_records fun o ho => ?_
    simp only [handleSetExternalID, bind_eq_ok, pure_eq_ok] at ho
    obtain ⟨_, -, _, -, rfl⟩ := ho
    exact wal_nil rfl
  | provision now order msg =>
    simp only [handle]
    split
    · refine answered_records fun o ho => ?_
      simp only [handleProvisionNetwork, bind_eq_ok, pure_eq_ok] at ho
      obtain ⟨_, -, _, -, _, -, _, -, rfl⟩ := ho
      exact wal_nil rfl
    · exact fun x hx => by cases hx
  | _ =>
    refine answered_records fun o ho => ?_
    obtain ⟨net, current, -, -, -, -, hwal⟩ := changeRole_ok ho
    exact wal_nil hwal

/-- The delta creates or deletes another network than the backbone, and
takes no node off the backbone. -/
def OffBackbone : Delta → Prop
  | .networkCreate d => d.networkID ≠ 0
  | .networkDelete netID => netID ≠ 0
  | .networkLeave _ netID => netID ≠ 0
  | _ => True

theorem handle_offBackbone (E : AdminEnv) (s : Server) (op : Op) :
    ∀ x ∈ (handle E s op).2, OffBackbone x := by
  intro x hx
  cases handle_records E s op x hx with
  | create now msg d h => exact h
  | delete msg netID h => exact h
  | leave msg id netID h => exact h
  | _ => trivial

/-! ## What recorded deltas do to the roll -/

variable {now : Time} {s : Server}

theorem roll_indexHostname (s : Server) (hostname : String) (id : NodeId) :
    roll (indexHostname s hostname id) = roll s := by
  unfold indexHostname
  split <;> rfl

theorem roll_dropOwner (s : Server) (owner : String) : roll (dropOwner s owner) = roll s := by
  unfold dropOwner
  split <;> rfl

theorem roll_passNode (s : Server) (id : NodeId) : roll (passNode s id) = roll s := by
  unfold passNode
  split <;> rfl

theorem roll_passNet (s : Server) (netID : NetId) : roll (passNet s netID) = roll s := by
  unfold passNet
  split <;> rfl

/-- A register delta applies to a node that is not there. -/
theorem roll_registerDelta {d : RegisterDelta} (hd : WellFormed (.register d)) :
    roll (applyOr now s (.register d)) =
      if s.nodes.has d.nodeID then roll s
      else (Move.arrive d.nodeID [0]).apply (roll s) := by
  obtain ⟨hid, hne, hdec⟩ := hd
  obtain ⟨key, hkey⟩ := Option.isSome_iff_exists.mp hdec
  rw [applyOr_register hid hne hkey]
  split
  · rfl
  · let filed := indexHostname (indexOwner { s with
      nodes := s.nodes.set d.nodeID (deltaNode now d key)
      pubKeyIdx := s.pubKeyIdx.set d.publicKey d.nodeID } d.owner d.nodeID)
      d.hostname d.nodeID
    have hfiled : roll filed = { roll s with
        lists := (roll s).lists.set d.nodeID [0] } := by
      rw [roll_indexHostname, roll_indexOwner]
      unfold roll
      rw [GoMap.mapVals_set]
      rfl
    show roll (passNode (addNodeToBackbone filed d.nodeID) d.nodeID) = _
    rw [roll_passNode]
    show { roll filed with
      networks := (roll filed).networks.modify 0 (attend d.nodeID) } = _
    rw [hfiled]
    rfl

theorem roll_deregisterDelta (id : NodeId) : roll (applyOr now s (.deregister id)) =
      if s.nodes.has id then (Move.depart id).apply (roll s) else roll s := by
  have happly : applyOr now s (.deregister id) = applyDeregisterDelta s id := rfl
  rw [happly]
  unfold applyDeregisterDelta GoMap.has
  cases hnode : s.nodes.get id with
  | none => rfl
  | some n =>
    have hlist : (roll s).lists.get id = some n.networks := by
      rw [roll_lists_get, hnode]
      rfl
    let gone := dropNode (dropHostname (dropOwner { s with
      pubKeyIdx := s.pubKeyIdx.del (Base64.encode n.publicKey) } n.owner)
      n.hostname) id
    have hgone : roll gone = { roll s with lists := (roll s).lists.del id } := by
      rw [roll_dropNode, roll_dropHostname, roll_dropOwner]
      rfl
    have hremoved : roll (removeFromNetworks gone id n.networks) = { roll gone with
        networks := n.networks.foldl (fun m netID => m.modify netID fun net =>
          dropMember net id) (roll gone).networks } := rfl
    show roll (removeFromNetworks gone id n.networks) = (Move.depart id).apply (roll s)
    rw [hremoved, hgone]
    simp only [Move.apply, hlist, Option.getD_some]

theorem roll_deleteDelta (netID : NetId) : roll (applyOr now s (.networkDelete netID)) =
      if s.networks.has netID then (Move.remove netID).apply (roll s) else roll s := by
  have happly : applyOr now s (.networkDelete netID) = applyNetworkDeleteDelta s netID := rfl
  rw [happly]
  unfold applyNetworkDeleteDelta GoMap.has
  cases hnet : s.networks.get netID with
  | none => rfl
  | some net =>
    have hnet' : (roll s).networks.get netID = some net := hnet
    show { roll (forgetNetwork s net.members netID) with
      networks := (roll (forgetNetwork s net.members netID)).networks.del netID } = _
    rw [roll_forgetNetwork]
    simp only [Move.apply, hnet', Option.map_some, Option.getD_some, Option.isSome_some, if_true]

theorem roll_leaveDelta (id : NodeId) (netID : NetId) :
    roll (applyOr now s (.networkLeave id netID)) =
      if s.networks.has netID && s.nodes.has id then (Move.drop id netID).apply (roll s)
      else roll s := by
  have happly : applyOr now s (.networkLeave id netID) = applyNetworkLeaveDelta s id netID := rfl
  rw [happly]
  unfold applyNetworkLeaveDelta GoMap.has
  cases hnet : s.networks.get netID with
  | none => rfl
  | some net =>
    cases hnode : s.nodes.get id with
    | none => rfl
    | some n => exact roll_drop hnet

theorem roll_rotationDelta (d : KeyRotationDelta) :
    roll (applyOr now s (.keyRotation d)) = roll s := by
  by_cases hd : WellFormed (.keyRotation d)
  · obtain ⟨hid, hne, hdec⟩ := hd
    obtain ⟨key, hkey⟩ := Option.isSome_iff_exists.mp hdec
    rw [applyOr_keyRotation hid hne hkey]
    split
    · rfl
    · next n hnode =>
      have hsame : (roll s).lists.set d.nodeID n.networks = (roll s).lists :=
        GoMap.set_get_self _ (by rw [roll_lists_get, hnode]; rfl)
      have hnets : (replayRotation d key n).networks = n.networks := by
        unfold replayRotation
        simp only
        split <;> rfl
      show Roll.mk ((s.nodes.set d.nodeID (replayRotation d key n)).mapVals
        fun _ n => n.networks) s.networks = roll s
      rw [GoMap.mapVals_set, hnets]
      exact congrArg (fun lists => Roll.mk lists s.networks) hsame
  · obtain ⟨e, he⟩ := applyDelta_refused now s hd
    unfold applyOr
    rw [he]

/-- The network enters the list, if it is not there. -/
def enlist (netID : NetId) (nets : List NetId) : List NetId :=
  if nets.contains netID then nets else nets ++ [netID]

/-- The node becomes a plain member, if it is none. -/
def enroll (id : NodeId) (net : NetworkInfo) : NetworkInfo :=
  if net.members.contains id then net else addMember net id

theorem roll_listNetwork (s : Server) (id : NodeId) (netID : NetId) :
    roll (listNetwork s id netID) =
      { roll s with lists := (roll s).lists.modify id (enlist netID) } := by
  have hlists := GoMap.mapVals_modify NodeInfo.networks
    (fun n => if n.networks.contains netID then n
      else { n with networks := n.networks ++ [netID] }) (enlist netID)
    (fun n => by unfold enlist; split <;> rfl) s.nodes id
  unfold roll listNetwork
  rw [hlists]

theorem roll_createDelta (d : NetworkCreateDelta) : roll (applyOr now s (.networkCreate d)) =
      if s.networks.has d.networkID then roll s
      else {
        lists := if d.creatorNodeID = 0 then (roll s).lists
          else (roll s).lists.modify d.creatorNodeID (enlist d.networkID)
        networks := (roll s).networks.set d.networkID (deltaNetwork now d) } := by
  have happly : applyOr now s (.networkCreate d) = applyNetworkCreateDelta now s d := rfl
  rw [happly]
  unfold applyNetworkCreateDelta
  split
  · rfl
  · rw [roll_passNet, roll_putNetwork]
    split
    · rfl
    · rw [roll_listNetwork]

theorem roll_joinDelta (id : NodeId) (netID : NetId) :
    roll (applyOr now s (.networkJoin id netID)) =
      if s.networks.has netID && s.nodes.has id then {
        lists := (roll s).lists.modify id (enlist netID)
        networks := (roll s).networks.modify netID (enroll id) }
      else roll s := by
  have happly : applyOr now s (.networkJoin id netID) = applyNetworkJoinDelta s id netID := rfl
  rw [happly]
  unfold applyNetworkJoinDelta GoMap.has
  cases hnet : s.networks.get netID with
  | none => rfl
  | some net =>
    cases hnode : s.nodes.get id with
    | none => rfl
    | some n =>
      show roll (listNetwork _ id netID) = _
      rw [roll_listNetwork]
      have hroll : roll (if net.members.contains id then s
          else putNetwork s netID (addMember net id)) =
          { roll s with networks := (roll s).networks.modify netID (enroll id) } := by
        rw [← roll_update hnet (enroll id)]
        unfold enroll
        split
        · rw [roll_putNetwork, GoMap.set_get_self (roll s).networks hnet]
        · rfl
      rw [hroll]
      rfl

end Rendezvous.Roster

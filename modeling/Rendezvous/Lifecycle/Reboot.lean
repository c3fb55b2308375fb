import Rendezvous.Lifecycle.Changes
import Rendezvous.Persist.Replica

/-!
# What the disk and the standby have of one record

A start reads the file and applies the log to it. For a single record, but
for its list of networks, this is a fold over the log of what each delta
does to the record: `boot_record`. A record of the file is one of memory, as
the file keeps it (`fileRecord_save`), and so is a record of the standby
(`replica_record`, `step_standby_record`).
-/

namespace Rendezvous.Lifecycle

open Base Registry Rendezvous.Membership Directory Identity Wal Persist Recovery

section

variable (snap : Snapshot) (now : Time) (s : Server) (nodeID : NodeId) (netID : NetId)
  (id j : NodeId)

/-- A record without its list of networks. -/
def core (n : NodeInfo) : NodeInfo := { n with networks := [] }

/-- The record of an id in the file. -/
def fileRecord (file : Option Snapshot) (id : NodeId) : Option NodeInfo :=
  ((diskNodes file).get id).bind fun sn =>
    (Base64.decode sn.publicKey).map fun key => core (loadedNode sn key)

/-- What a delta does to the record of an id. -/
def replayRecord (now : Time) (id : NodeId) (x : Option NodeInfo) : Delta → Option NodeInfo
  | .register d =>
    if d.nodeID = id then
      x.or ((Base64.decode d.publicKey).map fun key => core (deltaNode now d key))
    else x
  | .deregister nodeID => if nodeID = id then none else x
  | .keyRotation d =>
    if d.nodeID = id then
      x.bind fun n => (Base64.decode d.newPublicKey).map fun key =>
        replayRotation d key n
    else x
  | _ => x

/-- What the disk has of the record of an id: the file's, with the log
applied to it. -/
def diskRecord (now : Time) (file : Option Snapshot) (log : List Delta) (id : NodeId) :
    Option NodeInfo :=
  (replayed log).foldl (replayRecord now id) (fileRecord file id)

/-! ## The file -/

private theorem loadNode_nodes :
    (loadNode snap s id).nodes.get j =
      if j = id then (((snap.nodes.get id).bind fun sn =>
        (Base64.decode sn.publicKey).map fun key => loadedNode sn key).or (s.nodes.get j))
      else s.nodes.get j := by
  unfold loadNode
  split
  · next h => simp [h]
  · next sn h =>
    split
    · next hdec => simp [h, hdec]
    · next key hdec =>
      have hnodes : ∀ (t : Server) (hostname : String),
          (indexHostname t hostname id).nodes = t.nodes := by
        intro t hostname
        unfold indexHostname
        split <;> rfl
      rw [hnodes, indexOwner_nodes, GoMap.get_set]
      simp [h, hdec]

private theorem foldl_loadNode_nodes (order : List NodeId) (s : Server) (j : NodeId) :
    (order.foldl (loadNode snap) s).nodes.get j =
      if j ∈ order then (((snap.nodes.get j).bind fun sn =>
        (Base64.decode sn.publicKey).map fun key => loadedNode sn key).or (s.nodes.get j))
      else s.nodes.get j := by
  induction order generalizing s with
  | nil => simp
  | cons id order ih =>
    rw [List.foldl_cons, ih, loadNode_nodes]
    by_cases hj : j = id
    · subst hj
      by_cases hmem : j ∈ order <;> simp [hmem, ← Option.or_assoc]
    · simp [hj]

private theorem baseState_record {order : List NodeId} {file : Option Snapshot}
    (horder : IsOrder order (diskNodes file)) (id : NodeId) :
    ((baseState order file).nodes.get id).map core = fileRecord file id := by
  cases file with
  | none => rfl
  | some snap =>
    show ((order.foldl (loadNode snap) _).nodes.get id).map core = _
    rw [foldl_loadNode_nodes]
    by_cases hmem : id ∈ order
    · simp [hmem, fileRecord, diskNodes, Option.map_bind, Function.comp_def]
    · have hnone : snap.nodes.get id = none :=
        Classical.not_not.mp (mt (horder.2 id).mpr hmem)
      simp [hmem, fileRecord, diskNodes, hnone]

/-- The file of a state has its records. -/
theorem fileRecord_save (s : Server) (id : NodeId) :
    fileRecord (some (save s)) id = (s.nodes.get id).map fun n => core (restored n) := by
  have hget : (diskNodes (some (save s))).get id = (s.nodes.get id).map saveNode :=
    GoMap.get_mapVals ..
  unfold fileRecord
  rw [hget]
  cases s.nodes.get id with
  | none => rfl
  | some n =>
    show (Base64.decode (Base64.encode n.publicKey)).map _ = _
    rw [Base64.decode_encode]
    rfl

/-! ## The log -/

private theorem map_core_modify {f : NodeInfo → NodeInfo} (hf : ∀ n, core (f n) = core n)
    (m : GoMap NodeId NodeInfo) (k id : NodeId) :
    ((m.modify k f).get id).map core = (m.get id).map core := by
  rw [GoMap.get_modify]
  split
  · next heq =>
    subst heq
    simp [Function.comp_def, hf]
  · rfl

theorem removeNodeNetwork_core : ((removeNodeNetwork s nodeID netID).nodes.get id).map core =
      (s.nodes.get id).map core :=
  map_core_modify (f := fun n => { n with networks := n.networks.erase netID })
    (fun _ => rfl) s.nodes nodeID id

private theorem map_core_forgetNetwork (members : List NodeId) (netID : NetId) (id : NodeId) :
    ((forgetNetwork s members netID).nodes.get id).map core =
      (s.nodes.get id).map core := by
  unfold forgetNetwork
  induction members generalizing s with
  | nil => rfl
  | cons m members ih =>
    rw [List.foldl_cons, ih]
    exact removeNodeNetwork_core s m netID id

private theorem restoreNode_nodes (d : RegisterDelta) (n : NodeInfo) :
    (restoreNode s d n).nodes = s.nodes.set d.nodeID n := by
  simp only [restoreNode, passNode, indexHostname, indexOwner]
  split <;> split <;> split <;> rfl

private theorem applyDeregisterDelta_get :
    (applyDeregisterDelta s nodeID).nodes.get id =
      if id = nodeID then none else s.nodes.get id := by
  unfold applyDeregisterDelta
  split
  · next h =>
    split
    · next hid => rw [hid, h]
    · rfl
  · next n h =>
    show (GoMap.del _ nodeID).get id = _
    rw [GoMap.get_del, dropHostname_nodes]
    split
    · rfl
    · unfold dropOwner
      split <;> rfl

private theorem listNetwork_core :
    ((listNetwork s nodeID netID).nodes.get id).map core = (s.nodes.get id).map core := by
  refine map_core_modify (fun n => ?_) s.nodes nodeID id
  split <;> rfl

private theorem core_replayRotation (d : KeyRotationDelta) (key : Bytes) (n : NodeInfo) :
    core (replayRotation d key n) = replayRotation d key (core n) := by
  unfold replayRotation
  simp only
  split <;> rfl

/-- One delta, for one record. -/
theorem applyOr_record {d : Delta} (hd : WellFormed d) (id : NodeId) :
    ((applyOr now s d).nodes.get id).map core =
      replayRecord now id ((s.nodes.get id).map core) d := by
  cases d with
  | register d =>
    obtain ⟨hid, hne, hdec⟩ := hd
    obtain ⟨key, hdec⟩ := Option.isSome_iff_exists.mp hdec
    rw [applyOr_register hid hne hdec]
    simp only [replayRecord, hdec, Option.map_some]
    split
    · next hhas =>
      obtain ⟨n, hn⟩ := (GoMap.has_eq_true _ _).mp hhas
      split
      · next heq => simp [← heq, hn]
      · rfl
    · next hhas =>
      have hnone : s.nodes.get d.nodeID = none := by simpa [GoMap.has] using hhas
      rw [restoreNode_nodes, GoMap.get_set]
      split
      · next heq => simp [heq, hnone]
      · next hne => simp [Ne.symm hne]
  | deregister nodeID =>
    show ((applyDeregisterDelta s nodeID).nodes.get id).map core = _
    rw [applyDeregisterDelta_get]
    simp only [replayRecord]
    split
    · next heq => simp [heq]
    · next hne => simp [Ne.symm hne]
  | networkCreate d =>
    show ((applyNetworkCreateDelta now s d).nodes.get id).map core = _
    simp only [applyNetworkCreateDelta, passNet, putNetwork, replayRecord]
    split
    · rfl
    · split <;> split <;> first | rfl | exact listNetwork_core s _ _ id
  | networkDelete netID =>
    show ((applyNetworkDeleteDelta s netID).nodes.get id).map core = _
    simp only [applyNetworkDeleteDelta, replayRecord]
    split
    · rfl
    · exact map_core_forgetNetwork s _ netID id
  | networkJoin nodeID netID =>
    show ((applyNetworkJoinDelta s nodeID netID).nodes.get id).map core = _
    simp only [applyNetworkJoinDelta, replayRecord]
    split
    · rw [listNetwork_core]
      split <;> rfl
    · rfl
  | networkLeave nodeID netID =>
    show ((applyNetworkLeaveDelta s nodeID netID).nodes.get id).map core = _
    simp only [applyNetworkLeaveDelta, replayRecord]
    split
    · exact removeNodeNetwork_core _ nodeID netID id
    · rfl
  | keyRotation d =>
    obtain ⟨hid, hne, hdec⟩ := hd
    obtain ⟨key, hdec⟩ := Option.isSome_iff_exists.mp hdec
    rw [applyOr_keyRotation hid hne hdec]
    simp only [replayRecord, hdec, Option.map_some]
    split
    · next hnone =>
      split
      · next heq => simp [← heq, hnone]
      · rfl
    · next n hn =>
      show ((s.nodes.set d.nodeID _).get id).map core = _
      rw [GoMap.get_set]
      split
      · next heq =>
        subst heq
        simp [hn, core_replayRotation]
      · next hne => simp [Ne.symm hne]

theorem foldl_applyOr_record {ds : List Delta} (hds : ∀ d ∈ ds, WellFormed d) (id : NodeId) :
    ((ds.foldl (applyOr now) s).nodes.get id).map core =
      ds.foldl (replayRecord now id) ((s.nodes.get id).map core) := by
  induction ds generalizing s with
  | nil => rfl
  | cons d ds ih =>
    rw [List.foldl_cons, List.foldl_cons, ih _ fun x hx => hds x (by simp [hx]),
      applyOr_record now s (hds d (by simp))]

/-- What a start makes of one record, but for its networks. -/
theorem boot_record {order : List NodeId} {file : Option Snapshot}
    (horder : IsOrder order (diskNodes file)) (log : List Delta) (id : NodeId) :
    ((boot now order file log).nodes.get id).map core = diskRecord now file log id := by
  have hnodes : (boot now order file log).nodes = (restore now order file log).nodes := by
    cases file <;> rfl
  rw [hnodes, restore, replay_eq_foldl,
    foldl_applyOr_record now _ fun d => wellFormed_of_replayed, baseState_record horder]
  rfl

/-! ## The standby -/

/-- A record of the standby after a push is one of memory, perhaps without
its hostname. -/
theorem replica_record {order : List NodeId} {n' : NodeInfo} (horder : IsOrder order s.nodes)
    (standby : Server)
    (h : (applySnapshot order standby (snapshotJSON s)).nodes.get id = some n') :
    ∃ n, s.nodes.get id = some n ∧ ∃ hostname, n' = { replicated n with hostname := hostname } := by
  have hosted := hosted_foldl s order
  change (order.foldl (replicateNode (snapshotJSON s)) (emptyReplica s)).nodes.get id = _ at h
  cases hn : s.nodes.get id with
  | none =>
    rw [hosted.others id (Or.inr hn)] at h
    cases h
  | some n =>
    refine ⟨n, rfl, ?_⟩
    rcases hosted.nodes id ((horder.2 id).mpr (by simp [hn])) n hn with
      hget | ⟨-, -, -, -, -, -, hget⟩
    · exact ⟨_, Option.some.inj (h.symm.trans hget)⟩
    · exact ⟨_, Option.some.inj (h.symm.trans hget)⟩

end

/-- A record of the standby was there before, or an event has pushed it. -/
theorem step_standby_record {E : NodeEnv} {w : World} {e : World.Event} {s : Server} {id : NodeId}
    {n' : NodeInfo} (hs : s ∈ (w.step E e).standby) (h : s.nodes.get id = some n') :
    ¬ w.pushes e ∧ s ∈ w.standby ∨ w.pushes e ∧ ∃ n, w.live.nodes.get id = some n ∧
      ∃ hostname, n' = { replicated n with hostname := hostname } := by
  rcases step_standby E w e with ⟨hsame, hnot⟩ | hgone | ⟨hpush, order, horder, htaken⟩
  · exact Or.inl ⟨hnot, hsame ▸ hs⟩
  · rw [hgone] at hs
    cases hs
  · rw [htaken] at hs
    obtain rfl := Option.some.inj hs
    exact Or.inr ⟨hpush, replica_record w.live id horder _ h⟩

end Rendezvous.Lifecycle

import Rendezvous.Directory.Depart
import Rendezvous.Directory.Register

/-!
# What registration and departure do

One description for each piece of the register handler, so that later
proofs do not unfold it. `handleReRegister_cases` says what a successful
registration found and which branch it took; `handleRegister_cases` says
what the message added around it. The frame lemmas say which parts of the
state a piece leaves alone.
-/

namespace Rendezvous.Directory

open Base Registry Authz Rendezvous.Membership

variable {s : Server} {nodeID : NodeId} {E : Env} {now : Time} {req : RegisterReq} {key : Bytes}
  {o : Outcome} {order : List NetId}

/-- The public key bound to a node id, while a node is registered there. -/
def keyOf (s : Server) (nodeID : NodeId) : Option Bytes :=
  (s.nodes.get nodeID).map NodeInfo.publicKey

/-! ## Hostnames -/

/-- The hostname is set: it is not empty and not in use by another node. -/
def TakesHostname (s : Server) (nodeID : NodeId) (hostname : String) : Prop :=
  hostname ≠ "" ∧ ∀ id, s.hostnameIdx.get hostname = some id → id = nodeID

/-- The index without the node's old hostname. -/
def withoutOldHostname (s : Server) (nodeID : NodeId) : GoMap String NodeId :=
  let old := ((s.nodes.get nodeID).map NodeInfo.hostname).getD ""
  if old ≠ "" then s.hostnameIdx.del old else s.hostnameIdx

private theorem any_ne_eq_false (x : Option NodeId) (nodeID : NodeId) :
    (x.any fun id => id ≠ nodeID) = false ↔ ∀ id, x = some id → id = nodeID := by
  cases x with
  | none => simp
  | some j => simp

theorem setNodeHostname_takes {hostname : String} (h : TakesHostname s nodeID hostname) :
    (setNodeHostname s nodeID hostname).1 = { s with
        nodes := s.nodes.modify nodeID fun n => { n with hostname := hostname }
        hostnameIdx := (withoutOldHostname s nodeID).set hostname nodeID } := by
  have hfree := (any_ne_eq_false (s.hostnameIdx.get hostname) nodeID).mpr h.2
  unfold setNodeHostname
  rw [if_neg h.1, hfree]
  rfl

theorem setNodeHostname_skips {hostname : String} (h : ¬ TakesHostname s nodeID hostname) :
    (setNodeHostname s nodeID hostname).1 = s := by
  unfold setNodeHostname
  by_cases hempty : hostname = ""
  · rw [if_pos hempty]
  · rw [if_neg hempty]
    cases hany : (s.hostnameIdx.get hostname).any fun id => id ≠ nodeID with
    | true => rfl
    | false =>
      have hfree := (any_ne_eq_false _ nodeID).mp hany
      exact absurd ⟨hempty, hfree⟩ h

section

variable (s : Server) (owner : String) (nodeID : NodeId) (hostname : String) (j : NodeId)

/-- Setting a hostname changes the node's own record and the hostname
index, and nothing else. -/
theorem setNodeHostname_frame :
    (setNodeHostname s nodeID hostname).1 = { s with
        nodes := (setNodeHostname s nodeID hostname).1.nodes
        hostnameIdx := (setNodeHostname s nodeID hostname).1.hostnameIdx } := by
  by_cases h : TakesHostname s nodeID hostname
  · rw [setNodeHostname_takes h]
  · rw [setNodeHostname_skips h]

@[simp] theorem setNodeHostname_pubKeyIdx :
    (setNodeHostname s nodeID hostname).1.pubKeyIdx = s.pubKeyIdx := by
  rw [setNodeHostname_frame]

@[simp] theorem setNodeHostname_ownerIdx :
    (setNodeHostname s nodeID hostname).1.ownerIdx = s.ownerIdx := by
  rw [setNodeHostname_frame]

@[simp] theorem setNodeHostname_nextNode :
    (setNodeHostname s nodeID hostname).1.nextNode = s.nextNode := by
  rw [setNodeHostname_frame]

@[simp] theorem setNodeHostname_networks :
    (setNodeHostname s nodeID hostname).1.networks = s.networks := by
  rw [setNodeHostname_frame]

/-- Of the records only the node's own changes, and of it the hostname. -/
theorem setNodeHostname_nodes :
    ∃ name : String → String, (setNodeHostname s nodeID hostname).1.nodes =
        s.nodes.modify nodeID fun n => { n with hostname := name n.hostname } := by
  by_cases h : TakesHostname s nodeID hostname
  · exact ⟨fun _ => hostname, by rw [setNodeHostname_takes h]⟩
  · refine ⟨id, ?_⟩
    rw [setNodeHostname_skips h]
    exact (GoMap.modify_eq_self _ fun _ _ => rfl).symm

/-- No record gains or loses a key, an owner or a network by it. -/
theorem setNodeHostname_get :
    ∃ name : String → String, (setNodeHostname s nodeID hostname).1.nodes.get j =
        (s.nodes.get j).map fun n => { n with hostname := name n.hostname } := by
  obtain ⟨name, hnodes⟩ := setNodeHostname_nodes s nodeID hostname
  by_cases hj : j = nodeID
  · subst hj
    exact ⟨name, by rw [hnodes, GoMap.get_modify_self]⟩
  · refine ⟨id, ?_⟩
    rw [hnodes, GoMap.get_modify_ne _ _ hj]
    cases s.nodes.get j <;> rfl

@[simp] theorem keyOf_setNodeHostname :
    keyOf (setNodeHostname s nodeID hostname).1 j = keyOf s j := by
  obtain ⟨name, hget⟩ := setNodeHostname_get s nodeID hostname j
  unfold keyOf
  rw [hget, Option.map_map]
  rfl

/-! ## Filing a record -/

@[simp] theorem addNodeToBackbone_nodes : (addNodeToBackbone s nodeID).nodes = s.nodes := rfl

@[simp] theorem addNodeToBackbone_pubKeyIdx :
    (addNodeToBackbone s nodeID).pubKeyIdx = s.pubKeyIdx := rfl

@[simp] theorem addNodeToBackbone_ownerIdx :
    (addNodeToBackbone s nodeID).ownerIdx = s.ownerIdx := rfl

@[simp] theorem addNodeToBackbone_hostnameIdx :
    (addNodeToBackbone s nodeID).hostnameIdx = s.hostnameIdx := rfl

@[simp] theorem addNodeToBackbone_nextNode :
    (addNodeToBackbone s nodeID).nextNode = s.nextNode := rfl

theorem indexOwner_frame :
    indexOwner s owner nodeID = { s with ownerIdx := (indexOwner s owner nodeID).ownerIdx } := by
  unfold indexOwner
  split <;> rfl

@[simp] theorem indexOwner_nodes : (indexOwner s owner nodeID).nodes = s.nodes := by
  rw [indexOwner_frame]

@[simp] theorem indexOwner_pubKeyIdx : (indexOwner s owner nodeID).pubKeyIdx = s.pubKeyIdx := by
  rw [indexOwner_frame]

@[simp] theorem indexOwner_nextNode : (indexOwner s owner nodeID).nextNode = s.nextNode := by
  rw [indexOwner_frame]

end

variable {msg : Msg} {id : NodeId} {s' : Server} {remoteAddr : String}

theorem keyOf_congr (h : s.nodes = s'.nodes) (j : NodeId) : keyOf s j = keyOf s' j := by
  unfold keyOf
  rw [h]

section

variable (s : Server) (nodeID j : NodeId) (n : NodeInfo) (hostname : String)

@[simp] theorem keyOf_indexOwner (owner : String) (nodeID j : NodeId) :
    keyOf (indexOwner s owner nodeID) j = keyOf s j :=
  keyOf_congr (indexOwner_nodes s owner nodeID) j

@[simp] theorem keyOf_set_nodes : keyOf { s with nodes := s.nodes.set nodeID n } j =
      if j = nodeID then some n.publicKey else keyOf s j := by
  unfold keyOf
  rw [GoMap.get_set]
  split <;> rfl

theorem keyOf_fileNode (j : NodeId) :
    keyOf (fileNode s nodeID n hostname).1 j =
      if j = nodeID then some n.publicKey else keyOf s j := by
  unfold fileNode
  rw [keyOf_setNodeHostname]
  exact keyOf_set_nodes s nodeID j n

@[simp] theorem fileNode_pubKeyIdx : (fileNode s nodeID n hostname).1.pubKeyIdx = s.pubKeyIdx := by
  simp [fileNode]

@[simp] theorem fileNode_ownerIdx : (fileNode s nodeID n hostname).1.ownerIdx = s.ownerIdx := by
  simp [fileNode]

@[simp] theorem fileNode_nextNode : (fileNode s nodeID n hostname).1.nextNode = s.nextNode := by
  simp [fileNode]

end

/-! ## Which branch a registration takes -/

/-- What a successful `HandleReRegister` found, and the outcome of the
branch it took. -/
inductive ReRegistered (E : Env) (now : Time) (order : List NetId) (s : Server)
    (req : RegisterReq) (key : Bytes) : NodeId → Outcome → Prop where
  | known (nodeID : NodeId) (n : NodeInfo)
      (hidx : s.pubKeyIdx.get req.publicKey = some nodeID)
      (hnode : s.nodes.get nodeID = some n) :
      ReRegistered E now order s req key nodeID
        (refreshKnown E now s req nodeID n)
  | byKey (nodeID : NodeId)
      (hidx : s.pubKeyIdx.get req.publicKey = some nodeID)
      (hgone : s.nodes.get nodeID = none) :
      ReRegistered E now order s req key nodeID
        (reclaimByKey E now order s req nodeID key)
  | byOwner (nodeID : NodeId)
      (hidx : s.pubKeyIdx.get req.publicKey = none)
      (howner : req.owner ≠ "")
      (hown : s.ownerIdx.get req.owner = some nodeID)
      (hgone : s.nodes.get nodeID = none) :
      ReRegistered E now order s req key nodeID
        (reclaimByOwner E now s req nodeID key)
  | new (o : Outcome)
      (hidx : s.pubKeyIdx.get req.publicKey = none)
      (hown : req.owner ≠ "" → s.ownerIdx.get req.owner = none)
      (hfree : s.nextNode ≠ 0)
      (hnew : registerNew E now s req key = .ok o) :
      ReRegistered E now order s req key s.nextNode o

theorem registerNew_free (h : registerNew E now s req key = .ok o) : s.nextNode ≠ 0 := by
  simp only [registerNew, bind_eq_ok, require_eq_ok] at h
  obtain ⟨_, _, _, hfree, _⟩ := h
  simpa using hfree

theorem handleReRegister_cases (h : handleReRegister E now order s req = .ok o) :
    ∃ key nodeID, E.decodePublicKey req.publicKey = some key ∧ ratchetRejects s req = none ∧
      ReRegistered E now order s req key nodeID o := by
  simp only [handleReRegister, bind_eq_ok, orFail_eq_ok] at h
  obtain ⟨key, hkey, _, hratchet, hbranch⟩ := h
  have hnone : ratchetRejects s req = none := by
    cases hr : ratchetRejects s req with
    | none => rfl
    | some id => rw [hr] at hratchet; cases hratchet
  refine ⟨key, ?_⟩
  cases hidx : s.pubKeyIdx.get req.publicKey with
  | some nodeID =>
    rw [hidx] at hbranch
    cases hnode : s.nodes.get nodeID with
    | some n =>
      simp only [hnode, pure_eq_ok] at hbranch
      subst hbranch
      exact ⟨nodeID, hkey, hnone, .known nodeID n hidx hnode⟩
    | none =>
      simp only [hnode, pure_eq_ok] at hbranch
      subst hbranch
      exact ⟨nodeID, hkey, hnone, .byKey nodeID hidx hnode⟩
  | none =>
    simp only [hidx, registerUnknown] at hbranch
    by_cases howner : req.owner = ""
    · rw [if_pos howner] at hbranch
      exact ⟨s.nextNode, hkey, hnone, .new o hidx
        (fun hne => absurd howner hne) (registerNew_free hbranch) hbranch⟩
    · rw [if_neg howner] at hbranch
      cases hown : s.ownerIdx.get req.owner with
      | none =>
        rw [hown] at hbranch
        exact ⟨s.nextNode, hkey, hnone, .new o hidx (fun _ => hown)
          (registerNew_free hbranch) hbranch⟩
      | some nodeID =>
        simp only [hown] at hbranch
        cases hnode : s.nodes.get nodeID with
        | some n => simp [GoMap.has, hnode] at hbranch
        | none =>
          simp only [GoMap.has, hnode, Option.isSome_none,
            Bool.false_eq_true, if_false, Except.ok.injEq] at hbranch
          subst hbranch
          exact ⟨nodeID, hkey, hnone, .byOwner nodeID hidx howner hown hnode⟩

/-- What a successful register message came down to: a re-registration of
its key for its owner, and perhaps an external identity on top. -/
theorem handleRegister_cases (h : handleRegister E now order remoteAddr s msg = .ok o) :
    ∃ req o', msg.str? "public_key" = some req.publicKey ∧
      req.publicKey ≠ "" ∧ req.owner = msg.str "owner" ∧
      handleReRegister E now order s req = .ok o' ∧ o.wal = o'.wal ∧
      (∃ extra, o.resp = o'.resp ++ extra) ∧
      (o.server = o'.server ∨ ∃ ext, o.server =
        setExternalID o'.server (respNode o'.resp) ext) := by
  simp only [handleRegister, bind_eq_ok, orFail_eq_ok, require_eq_ok, decide_eq_true_eq] at h
  obtain ⟨ext, _, pk, hpk, _, hne, sv, _, hrest⟩ := h
  cases hhost : validateHostname (registerReq E remoteAddr msg pk sv).hostname with
  | error e =>
    simp only [hhost, bind_eq_ok, pure_eq_ok, List.append_assoc] at hrest
    obtain ⟨o', ho', rfl⟩ := hrest
    exact ⟨_, o', hpk, hne, rfl, ho', rfl, ⟨_, rfl⟩, Or.inl rfl⟩
  | ok u =>
    simp only [hhost, bind_eq_ok, List.append_assoc] at hrest
    obtain ⟨o', ho', hfin⟩ := hrest
    refine ⟨_, o', hpk, hne, rfl, ho', ?_⟩
    split at hfin
    · rw [pure_eq_ok] at hfin
      subst hfin
      exact ⟨rfl, ⟨_, rfl⟩, Or.inl rfl⟩
    · rw [pure_eq_ok] at hfin
      subst hfin
      exact ⟨rfl, ⟨_, rfl⟩, Or.inr ⟨ext, rfl⟩⟩

/-! ## The id in the answer -/

theorem jsonUint32_node {key : String} (h : msg.field key = some (.node id)) :
    msg.jsonUint32 key = id := by
  have hnum : msg.num? key = some (id.toNat : Rat) := by
    unfold Msg.num?
    rw [h]
    rfl
  have hlt := id.toNat_lt
  have hle : ¬ ((id.toNat : Rat) < 0 ∨ ((4294967295 : Nat) : Rat) < id.toNat) := by
    rintro (hneg | hbig)
    · exact absurd hneg (by simp)
    · have hnat : 4294967295 < id.toNat := by exact_mod_cast hbig
      omega
  have hfloor : (id.toNat : Rat).floor = (id.toNat : Int) := rfl
  unfold Msg.jsonUint32
  rw [hnum]
  simp only [Msg.clampNat, if_neg hle, hfloor, Int.toNat_natCast]
  exact UInt32.ofNat_toNat

/-- Whatever fields follow, a register response answers the id it was made
for. -/
theorem respNode_registerResp (E : Env) (id : NodeId) (publicKey : String)
    (extra : Resp) : respNode (registerResp E id publicKey ++ extra) = id :=
  jsonUint32_node rfl

theorem ReRegistered.resp (h : ReRegistered E now order s req key id o) :
    ∃ extra, o.resp = registerResp E id req.publicKey ++ extra := by
  cases h with
  | known _ n _ _ =>
    unfold refreshKnown
    split <;> exact ⟨_, rfl⟩
  | new _ _ _ _ hnew =>
    simp only [registerNew, bind_eq_ok, pure_eq_ok] at hnew
    obtain ⟨_, _, _, _, rfl⟩ := hnew
    exact ⟨_, rfl⟩
  | _ => exact ⟨_, rfl⟩

/-- A server, perhaps with an external identity on top. -/
def Topped (s s' : Server) : Prop := s' = s ∨ ∃ id ext, s' = setExternalID s id ext

/-- What no external identity changes. -/
theorem Topped.same {α : Type} {s : Server} (h : Topped s s') (g : Server → α)
    (hg : ∀ s id ext, g (setExternalID s id ext) = g s) : g s' = g s := by
  rcases h with rfl | ⟨id, ext, rfl⟩
  · rfl
  · exact hg s id ext

/-- The request and the key a successful register message was about, and the
branch it took to the id it is answered with. -/
theorem handleRegister_branch (h : handleRegister E now order remoteAddr s msg = .ok o) :
    ∃ req key o', msg.str "public_key" = req.publicKey ∧ req.publicKey ≠ "" ∧
      msg.str "owner" = req.owner ∧ E.decodePublicKey req.publicKey = some key ∧
      ReRegistered E now order s req key (respNode o.resp) o' ∧ o.wal = o'.wal ∧
      Topped o'.server o.server := by
  obtain ⟨req, o', hpk, hne, howner, ho', hwal, ⟨extra, hresp⟩, hserver⟩ :=
    handleRegister_cases h
  obtain ⟨key, id, hkey, -, hbranch⟩ := handleReRegister_cases ho'
  have hid : respNode o.resp = id := by
    obtain ⟨extra', hresp'⟩ := hbranch.resp
    rw [hresp, hresp', List.append_assoc]
    exact respNode_registerResp E id req.publicKey _
  rw [hid]
  refine ⟨req, key, o', by simp [Msg.str, hpk], hne, howner.symm, hkey, hbranch, hwal, ?_⟩
  exact hserver.imp_right fun ⟨ext, heq⟩ => ⟨_, ext, heq⟩

section

variable (E : Env) (now : Time) (s : Server) (req : RegisterReq)

@[simp] theorem keyOf_setExternalID (nodeID : NodeId) (ext : String) (j : NodeId) :
    keyOf (setExternalID s nodeID ext) j = keyOf s j := by
  unfold keyOf setExternalID
  rw [GoMap.get_modify]
  split
  · next hj =>
    subst hj
    rw [Option.map_map]
    rfl
  · rfl

/-! ## What each branch does to keys -/

/-- What a known node's registration leaves: its record with the key and the
networks it had, perhaps an entry for its owner, and perhaps a hostname. -/
theorem refreshKnown_form (nodeID : NodeId) (n : NodeInfo) :
    ∃ (hostname : String) (node : NodeInfo) (t : Server),
      (refreshKnown E now s req nodeID n).server = (setNodeHostname t nodeID hostname).1 ∧
      t = { s with nodes := s.nodes.set nodeID node, ownerIdx := t.ownerIdx } ∧
      node.publicKey = n.publicKey ∧ node.networks = n.networks ∧
      (t.ownerIdx = s.ownerIdx ∨ t.ownerIdx = s.ownerIdx.set req.owner nodeID) := by
  unfold refreshKnown
  split
  · exact ⟨"", _, _, (setNodeHostname_skips fun h => h.1 rfl).symm, rfl, rfl, rfl, Or.inl rfl⟩
  · by_cases htakes : req.owner ≠ "" ∧ n.owner = ""
    · simp only [if_pos htakes, indexOwner, if_neg htakes.1]
      exact ⟨req.hostname, _, _, rfl, rfl, rfl, rfl, Or.inr rfl⟩
    · simp only [if_neg htakes]
      exact ⟨req.hostname, _, _, rfl, rfl, rfl, rfl, Or.inl rfl⟩

theorem keyOf_refreshKnown {n : NodeInfo} (hnode : s.nodes.get nodeID = some n) (j : NodeId) :
    keyOf (refreshKnown E now s req nodeID n).server j = keyOf s j := by
  obtain ⟨hostname, node, t, hs, ht, hkey, -, -⟩ := refreshKnown_form E now s req nodeID n
  rw [hs, keyOf_setNodeHostname, ht]
  refine (keyOf_set_nodes s nodeID j node).trans ?_
  split
  · next hj => rw [hj, hkey, keyOf, hnode]; rfl
  · rfl

theorem keyOf_reclaimByKey (order : List NetId) (s : Server) (req : RegisterReq) (nodeID : NodeId)
    (key : Bytes) (j : NodeId) :
    keyOf (reclaimByKey E now order s req nodeID key).server j =
      if j = nodeID then some key else keyOf s j := by
  simp only [reclaimByKey, keyOf_fileNode, keyOf_indexOwner]
  rfl

theorem keyOf_reclaimByOwner (nodeID : NodeId) (key : Bytes) (j : NodeId) :
    keyOf (reclaimByOwner E now s req nodeID key).server j =
      if j = nodeID then some key else keyOf s j := by
  simp only [reclaimByOwner, keyOf_fileNode]
  rfl

end

/-- The state of a new registration, before its hostname. -/
theorem registerNew_server (h : registerNew E now s req key = .ok o) :
    o.server = (fileNode (indexOwner { s with
        nextNode := s.nextNode + 1
        pubKeyIdx := s.pubKeyIdx.set req.publicKey s.nextNode }
        req.owner s.nextNode) s.nextNode (freshNode req key [0] now)
        req.hostname).1 := by
  simp only [registerNew, bind_eq_ok, pure_eq_ok] at h
  obtain ⟨_, _, _, _, rfl⟩ := h
  rfl

theorem keyOf_registerNew (h : registerNew E now s req key = .ok o) (j : NodeId) :
    keyOf o.server j = if j = s.nextNode then some key else keyOf s j := by
  rw [registerNew_server h, keyOf_fileNode, keyOf_indexOwner]
  rfl

/-! ## What each branch does to the indices and the counter -/

section

variable (E : Env) (now : Time) (s : Server) (req : RegisterReq) (nodeID : NodeId) (n : NodeInfo)

theorem refreshKnown_pubKeyIdx :
    (refreshKnown E now s req nodeID n).server.pubKeyIdx = s.pubKeyIdx := by
  obtain ⟨hostname, node, t, hs, ht, -⟩ := refreshKnown_form E now s req nodeID n
  rw [hs, setNodeHostname_pubKeyIdx, ht]

theorem refreshKnown_nextNode :
    (refreshKnown E now s req nodeID n).server.nextNode = s.nextNode := by
  obtain ⟨hostname, node, t, hs, ht, -⟩ := refreshKnown_form E now s req nodeID n
  rw [hs, setNodeHostname_nextNode, ht]

/-- A known node may take the owner it did not have. -/
theorem refreshKnown_ownerIdx :
    (refreshKnown E now s req nodeID n).server.ownerIdx = s.ownerIdx ∨
      (refreshKnown E now s req nodeID n).server.ownerIdx = s.ownerIdx.set req.owner nodeID := by
  obtain ⟨hostname, node, t, hs, -, -, -, howner⟩ := refreshKnown_form E now s req nodeID n
  rwa [hs, setNodeHostname_ownerIdx]

end

theorem indexOwner_ownerIdx_congr (h : s.ownerIdx = s'.ownerIdx) (owner : String)
    (nodeID : NodeId) :
    (indexOwner s owner nodeID).ownerIdx = (indexOwner s' owner nodeID).ownerIdx := by
  unfold indexOwner
  split
  · exact h
  · simp only [h]

theorem reclaimByKey_indices (E : Env) (now : Time) (order : List NetId)
    (s : Server) (req : RegisterReq) (nodeID : NodeId) (key : Bytes) :
    let s' := (reclaimByKey E now order s req nodeID key).server
    s'.pubKeyIdx = s.pubKeyIdx ∧ s'.ownerIdx = (indexOwner s req.owner nodeID).ownerIdx ∧
      s'.nextNode = s.nextNode := by
  simp [reclaimByKey]

theorem reclaimByOwner_indices (E : Env) (now : Time) (s : Server)
    (req : RegisterReq) (nodeID : NodeId) (key : Bytes) :
    let s' := (reclaimByOwner E now s req nodeID key).server
    s'.pubKeyIdx = s.pubKeyIdx.set req.publicKey nodeID ∧
      s'.ownerIdx = s.ownerIdx ∧ s'.nextNode = s.nextNode := by
  simp [reclaimByOwner]

theorem registerNew_indices (h : registerNew E now s req key = .ok o) :
    o.server.pubKeyIdx = s.pubKeyIdx.set req.publicKey s.nextNode ∧
      o.server.ownerIdx = (indexOwner s req.owner s.nextNode).ownerIdx ∧
      o.server.nextNode = s.nextNode + 1 := by
  rw [registerNew_server h]
  refine ⟨by simp, ?_, by simp⟩
  rw [fileNode_ownerIdx]
  apply indexOwner_ownerIdx_congr
  rfl

/-- The hostname comes last, and before it a registration has changed the
records, the networks, two indices and the counter only. -/
theorem ReRegistered.frame (h : ReRegistered E now order s req key id o) :
    ∃ (hostname : String) (t : Server), o.server = (setNodeHostname t id hostname).1 ∧
      t = { s with
        nodes := t.nodes
        networks := t.networks
        pubKeyIdx := t.pubKeyIdx
        ownerIdx := t.ownerIdx
        nextNode := t.nextNode } := by
  cases h with
  | known _ n hidx hnode =>
    obtain ⟨hostname, node, t, hs, ht, -⟩ := refreshKnown_form E now s req id n
    exact ⟨hostname, t, hs, by rw [ht]⟩
  | byKey _ hidx hgone =>
    refine ⟨req.hostname, _, rfl, ?_⟩
    rw [indexOwner_frame]
    rfl
  | byOwner _ hidx hne hown hgone => exact ⟨req.hostname, _, rfl, rfl⟩
  | new _ hidx hown hfree hnew =>
    refine ⟨req.hostname, _, registerNew_server hnew, ?_⟩
    rw [indexOwner_frame]
    rfl

/-- An entry of the owner index after `indexOwner` was there before, or is
the new one. -/
theorem indexOwner_entry {owner : String} {name : String} {j : NodeId}
    (h : (indexOwner s owner nodeID).ownerIdx.get name = some j) :
    s.ownerIdx.get name = some j ∨ j = nodeID := by
  unfold indexOwner at h
  split at h
  · exact Or.inl h
  · rcases GoMap.of_get_set h with ⟨-, rfl⟩ | hold
    · exact Or.inr rfl
    · exact Or.inl hold

/-! ## Departure -/

section

variable (threshold : Time) (chunk : List NodeId) (s : Server) (hostname : String) (nodeID : NodeId)
  (n : NodeInfo) (j : NodeId)

theorem dropHostname_frame :
    dropHostname s hostname =
      { s with hostnameIdx := (dropHostname s hostname).hostnameIdx } := by
  unfold dropHostname
  split <;> rfl

@[simp] theorem dropHostname_nodes : (dropHostname s hostname).nodes = s.nodes := by
  rw [dropHostname_frame]

theorem keyOf_dropNode : keyOf (dropNode s nodeID) j = if j = nodeID then none else keyOf s j := by
  unfold keyOf dropNode
  rw [GoMap.get_del]
  split <;> rfl

theorem keyOf_removeFromNetworks (nets : List NetId) (j : NodeId) :
    keyOf (removeFromNetworks s nodeID nets) j = keyOf s j := rfl

@[simp] theorem departNode_nodes : (departNode s nodeID n).nodes = s.nodes.del nodeID := by
  simp only [departNode, dropNode, dropHostname_nodes]
  rfl

theorem keyOf_departNode :
    keyOf (departNode s nodeID n) j =
      if j = nodeID then none else keyOf s j := by
  unfold departNode
  rw [keyOf_dropNode]
  split
  · rfl
  · exact keyOf_congr (by simp [clearInviteInbox, removeFromNetworks]) j

/-- Reaping one candidate removes its record or changes nothing. -/
theorem keyOf_reapNode :
    keyOf (reapNode threshold s nodeID) j = keyOf s j ∨
      keyOf (reapNode threshold s nodeID) j = none := by
  unfold reapNode
  split
  · exact Or.inl rfl
  · split
    · rw [keyOf_dropNode]
      split
      · exact Or.inr rfl
      · exact Or.inl (keyOf_congr (by simp) j)
    · exact Or.inl rfl

theorem keyOf_reapStaleNodes :
    keyOf (reapStaleNodes threshold chunk s) j = keyOf s j ∨
      keyOf (reapStaleNodes threshold chunk s) j = none := by
  induction chunk generalizing s with
  | nil => exact Or.inl rfl
  | cons id chunk ih =>
    have hcons : reapStaleNodes threshold (id :: chunk) s =
        reapStaleNodes threshold chunk (reapNode threshold s id) := rfl
    rw [hcons]
    rcases ih (reapNode threshold s id) with h | h
    · rw [h]
      exact keyOf_reapNode threshold s id j
    · exact Or.inr h

/-- Two states with the same key index, owner index and node counter. -/
structure SameBindings (s s' : Server) : Prop where
  pubKeyIdx : s'.pubKeyIdx = s.pubKeyIdx
  ownerIdx : s'.ownerIdx = s.ownerIdx
  nextNode : s'.nextNode = s.nextNode

theorem SameBindings.trans {s₁ s₂ s₃ : Server} (h : SameBindings s₁ s₂)
    (h' : SameBindings s₂ s₃) : SameBindings s₁ s₃ where
  pubKeyIdx := h'.pubKeyIdx.trans h.pubKeyIdx
  ownerIdx := h'.ownerIdx.trans h.ownerIdx
  nextNode := h'.nextNode.trans h.nextNode

theorem sameBindings_dropHostname : SameBindings s (dropHostname s hostname) := by
  unfold dropHostname
  split <;> exact ⟨rfl, rfl, rfl⟩

theorem sameBindings_departNode : SameBindings s (departNode s nodeID n) := by
  unfold departNode
  have h₁ : SameBindings s
      (clearInviteInbox (removeFromNetworks s nodeID n.networks) nodeID) :=
    ⟨rfl, rfl, rfl⟩
  have h₂ := h₁.trans (sameBindings_dropHostname _ n.hostname)
  exact h₂.trans ⟨rfl, rfl, rfl⟩

theorem sameBindings_reapNode : SameBindings s (reapNode threshold s nodeID) := by
  unfold reapNode
  split
  · exact ⟨rfl, rfl, rfl⟩
  · split
    · next n _ _ =>
      let s' := { s with networks := s.networks.modify 0 fun net =>
        { net with members := net.members.erase nodeID } }
      have h₁ : SameBindings s s' := ⟨rfl, rfl, rfl⟩
      have h₂ := h₁.trans (sameBindings_dropHostname s' n.hostname)
      exact h₂.trans ⟨rfl, rfl, rfl⟩
    · exact ⟨rfl, rfl, rfl⟩

theorem sameBindings_reapStaleNodes : SameBindings s (reapStaleNodes threshold chunk s) := by
  induction chunk generalizing s with
  | nil => exact ⟨rfl, rfl, rfl⟩
  | cons id chunk ih =>
    have h₁ := sameBindings_reapNode threshold s id
    exact h₁.trans (ih (reapNode threshold s id))

end

end Rendezvous.Directory

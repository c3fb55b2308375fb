import Rendezvous.Recovery.System

/-!
# What a state says about one key

Fix the text `k` of a public key. A state *mentions* an id for it when its
key index maps `k` to the id, or when the node registered there holds the
key `k` spells. Every handler, every applier, the loader and the standby
either leave what is said about `k` alone (`Silent`), or bind `k` to one
id (`Binds`).
-/

namespace Rendezvous.Recovery

open Base Registry Directory Identity Wal Persist

variable {k : String} {s s' r standby : Server} {id m : NodeId} {n : NodeInfo} {key : Bytes}
  {E : Env} {now : Time} {order : List NodeId} {req : RegisterReq} {o : Outcome}

/-- The state says something about `k` and `id`. -/
def Mentions (k : String) (s : Server) (id : NodeId) : Prop :=
  s.pubKeyIdx.get k = some id ∨ ∃ key, keyOf s id = some key ∧ Base64.decode k = some key

/-- What is said about `k` does not grow, and the index keeps its answer. -/
structure Silent (k : String) (s s' : Server) : Prop where
  index : s'.pubKeyIdx.get k = s.pubKeyIdx.get k
  mentions : ∀ id, Mentions k s' id → Mentions k s id

/-- `k` is bound to `id`, which no other binding stood against, and
nothing else is said about `k` that was not said before. -/
structure Binds (k : String) (s s' : Server) (id : NodeId) : Prop where
  index : s'.pubKeyIdx.get k = some id
  before : s.pubKeyIdx.get k = none ∨ s.pubKeyIdx.get k = some id
  mentions : ∀ j, Mentions k s' j → Mentions k s j ∨ j = id

theorem mentions_of_encode (hnode : s.nodes.get id = some n) (hk : Base64.encode n.publicKey = k) :
    Mentions k s id := by
  right
  refine ⟨n.publicKey, by simp [keyOf, hnode], ?_⟩
  rw [← hk]
  exact Base64.decode_encode n.publicKey

theorem Silent.refl (k : String) (s : Server) : Silent k s s :=
  ⟨rfl, fun _ h => h⟩

theorem Silent.of_quiet (hidx : s'.pubKeyIdx.get k = s.pubKeyIdx.get k)
    (hnodes : ∀ j, keyOf s' j = keyOf s j ∨ keyOf s' j = none) :
    Silent k s s' where
  index := hidx
  mentions := by
    rintro id (h | ⟨key, hkey, hdec⟩)
    · exact Or.inl (hidx ▸ h)
    · rcases hnodes id with heq | hnone
      · exact Or.inr ⟨key, heq ▸ hkey, hdec⟩
      · rw [hnone] at hkey
        cases hkey

/-- A step that gives one id a key other than the one `k` spells. -/
theorem Silent.of_foreign (hidx : s'.pubKeyIdx.get k = s.pubKeyIdx.get k)
    (hkeys : ∀ j, keyOf s' j = if j = m then some key else keyOf s j)
    (hforeign : Base64.decode k ≠ some key) : Silent k s s' where
  index := hidx
  mentions := by
    rintro id (h | ⟨key', hkey', hdec⟩)
    · exact Or.inl (hidx ▸ h)
    · rw [hkeys] at hkey'
      split at hkey'
      · rw [Option.some.injEq] at hkey'
        subst hkey'
        exact absurd hdec hforeign
      · exact Or.inr ⟨key', hkey', hdec⟩

/-- A step that gives the id it binds `k` to some key. -/
theorem Binds.of_keys (hidx : s'.pubKeyIdx.get k = some id)
    (hbefore : s.pubKeyIdx.get k = none ∨ s.pubKeyIdx.get k = some id)
    (hkeys : ∀ j, keyOf s' j = if j = id then some key else keyOf s j) :
    Binds k s s' id where
  index := hidx
  before := hbefore
  mentions := by
    intro j hj
    by_cases h : j = id
    · exact Or.inr h
    · left
      rcases hj with hj | ⟨key', hkey', hdec⟩
      · rw [hidx, Option.some.injEq] at hj
        exact absurd hj.symm h
      · rw [hkeys, if_neg h] at hkey'
        exact Or.inr ⟨key', hkey', hdec⟩

/-! ## Registration -/

/-- A registration of another key says nothing about `k`. -/
theorem ReRegistered.silent {order : List NetId} (h : ReRegistered E now order s req key id o)
    (hkey : E.decodePublicKey req.publicKey = some key)
    (hforeign : Base64.decode req.publicKey ≠ Base64.decode k) :
    Silent k s o.server := by
  have hdec : Base64.decode k ≠ some key := by
    rw [← E.decodePublicKey_decode hkey]
    exact hforeign.symm
  have hne : k ≠ req.publicKey := by
    rintro rfl
    exact hforeign rfl
  cases h with
  | known _ n hidx hnode =>
    exact .of_quiet (by rw [refreshKnown_pubKeyIdx])
      fun j => Or.inl (keyOf_refreshKnown E now s req hnode j)
  | byKey _ hidx hgone =>
    refine .of_foreign ?_ (keyOf_reclaimByKey E now order s req id key) hdec
    rw [(reclaimByKey_indices E now order s req id key).1]
  | byOwner _ hidx howner hown hgone =>
    refine .of_foreign ?_ (keyOf_reclaimByOwner E now s req id key) hdec
    rw [(reclaimByOwner_indices E now s req id key).1, GoMap.get_set_ne _ _ hne]
  | new _ hidx hown hfree hnew =>
    refine .of_foreign ?_ (keyOf_registerNew hnew) hdec
    rw [(registerNew_indices hnew).1, GoMap.get_set_ne _ _ hne]

/-- A registration of `k` binds it to the id it is answered with. -/
theorem ReRegistered.binds {order : List NetId} (h : ReRegistered E now order s req key id o) :
    Binds req.publicKey s o.server id := by
  cases h with
  | known _ n hidx hnode =>
    have hsilent : Silent req.publicKey s (refreshKnown E now s req id n).server :=
      .of_quiet (by rw [refreshKnown_pubKeyIdx])
        fun j => Or.inl (keyOf_refreshKnown E now s req hnode j)
    exact ⟨hsilent.index.trans hidx, Or.inr hidx, fun j hj => Or.inl (hsilent.mentions j hj)⟩
  | byKey _ hidx hgone =>
    refine .of_keys ?_ (Or.inr hidx) (keyOf_reclaimByKey E now order s req id key)
    rw [(reclaimByKey_indices E now order s req id key).1, hidx]
  | byOwner _ hidx howner hown hgone =>
    refine .of_keys ?_ (Or.inl hidx) (keyOf_reclaimByOwner E now s req id key)
    rw [(reclaimByOwner_indices E now s req id key).1, GoMap.get_set_self]
  | new _ hidx hown hfree hnew =>
    refine .of_keys ?_ (Or.inl hidx) (keyOf_registerNew hnew)
    rw [(registerNew_indices hnew).1, GoMap.get_set_self]

/-- A registration records nothing and leaves the counter, or it records
the id the counter gave. -/
theorem ReRegistered.wal {order : List NetId} (h : ReRegistered E now order s req key id o) :
    (o.wal = [] ∧ o.server.nextNode = s.nextNode) ∨ ∃ d, o.wal = [.register d] ∧ d.nodeID = id ∧
        d.publicKey = req.publicKey ∧ id = s.nextNode ∧ s.nextNode ≠ 0 ∧
        o.server.nextNode = s.nextNode + 1 := by
  cases h with
  | known _ n hidx hnode =>
    refine Or.inl ⟨?_, refreshKnown_nextNode E now s req id n⟩
    unfold refreshKnown
    split <;> rfl
  | byKey _ hidx hgone =>
    exact Or.inl ⟨rfl, (reclaimByKey_indices E now order s req id key).2.2⟩
  | byOwner _ hidx howner hown hgone =>
    exact Or.inl ⟨rfl, (reclaimByOwner_indices E now s req id key).2.2⟩
  | new _ hidx hown hfree hnew =>
    have hnext := (registerNew_indices hnew).2.2
    simp only [registerNew, bind_eq_ok, pure_eq_ok] at hnew
    obtain ⟨_, _, _, _, rfl⟩ := hnew
    exact Or.inr ⟨_, rfl, rfl, rfl, rfl, hfree, hnext⟩

/-- What a successful register message with key text `t`, answered `id`,
did. -/
structure Registered (s : Server) (t : String) (id : NodeId) (o : Outcome) : Prop where
  decodes : (Base64.decode t).isSome
  nonempty : t ≠ ""
  silent : ∀ k, Base64.decode t ≠ Base64.decode k → Silent k s o.server
  binds : Binds t s o.server id
  wal : (o.wal = [] ∧ o.server.nextNode = s.nextNode) ∨
    ∃ d, o.wal = [.register d] ∧ d.nodeID = id ∧ d.publicKey = t ∧
      id = s.nextNode ∧ s.nextNode ≠ 0 ∧ o.server.nextNode = s.nextNode + 1

theorem mentions_setExternalID (k : String) (s : Server) (m : NodeId)
    (ext : String) (id : NodeId) :
    Mentions k (setExternalID s m ext) id ↔ Mentions k s id := by
  unfold Mentions
  rw [keyOf_setExternalID]
  rfl

theorem registered_of_ok {order : List NetId} {remoteAddr : String} {msg : Msg}
    (h : handleRegister E now order remoteAddr s msg = .ok o) :
    Registered s (msg.str "public_key") (respNode o.resp) o := by
  obtain ⟨req, key, o', htext, hne, -, hkey, hbranch, hwal, htop⟩ := handleRegister_branch h
  rw [htext]
  have hdec : (Base64.decode req.publicKey).isSome := by
    rw [E.decodePublicKey_decode hkey]
    rfl
  -- The external identity on top changes no key, index or counter.
  have hindex := htop.same Server.pubKeyIdx fun _ _ _ => rfl
  have hmentions : ∀ k j, Mentions k o.server j = Mentions k o'.server j := fun k j =>
    htop.same (Mentions k · j) fun s m ext => propext (mentions_setExternalID k s m ext j)
  have hwal' := ReRegistered.wal hbranch
  rw [← hwal, ← htop.same Server.nextNode fun _ _ _ => rfl] at hwal'
  refine ⟨hdec, hne, fun k hk => ?_, ?_, hwal'⟩
  · have hsilent := ReRegistered.silent hbranch hkey hk
    exact ⟨hindex ▸ hsilent.index, fun j hj => hsilent.mentions j (hmentions k j ▸ hj)⟩
  · have hbinds := ReRegistered.binds hbranch
    exact ⟨hindex ▸ hbinds.index, hbinds.before, fun j hj =>
      hbinds.mentions j (hmentions _ j ▸ hj)⟩

/-! ## Rotation and departure -/

/-- A rotation of a node `k` is not about, to a key `k` does not spell. -/
theorem silent_commitKey {newKey : String} (n' : NodeInfo) (ledger : GoMap String Time)
    (hnode : s.nodes.get m = some n) (hm : ¬ Mentions k s m)
    (hnew : Base64.decode newKey = some n'.publicKey)
    (hforeign : Base64.decode newKey ≠ Base64.decode k) :
    Silent k s (commitKey { s with consumedNonces := ledger } m n n' newKey) := by
  have hold : k ≠ Base64.encode n.publicKey := by
    intro hk
    exact hm (mentions_of_encode hnode hk.symm)
  have hne : k ≠ newKey := by
    rintro rfl
    exact hforeign rfl
  refine .of_foreign ?_ (keyOf_commitKey { s with consumedNonces := ledger }
    m n n' newKey) ?_
  · have hidx : (commitKey { s with consumedNonces := ledger } m n n' newKey).pubKeyIdx =
        (s.pubKeyIdx.del (Base64.encode n.publicKey)).set newKey m := rfl
    rw [hidx, GoMap.get_set_ne _ _ hne, GoMap.get_del_ne _ hold]
  · rw [← hnew]
    exact hforeign.symm

section

variable (k : String) (r s : Server) (id : NodeId) (d : RegisterDelta) (n : NodeInfo)

theorem silent_reap (threshold : Time) (chunk : List NodeId) (s : Server) :
    Silent k s (reapStaleNodes threshold chunk s) :=
  .of_quiet (by rw [(sameBindings_reapStaleNodes threshold chunk s).pubKeyIdx])
    (keyOf_reapStaleNodes threshold chunk s)

theorem silent_departNode (m : NodeId) (n : NodeInfo) : Silent k s (departNode s m n) := by
  refine .of_quiet (by rw [(sameBindings_departNode s m n).pubKeyIdx])
    fun j => ?_
  rw [keyOf_departNode]
  split
  · exact Or.inr rfl
  · exact Or.inl rfl

/-! ## Replay -/

@[simp] theorem passNode_nodes : (passNode s id).nodes = s.nodes := by
  unfold passNode; split <;> rfl

@[simp] theorem passNode_pubKeyIdx : (passNode s id).pubKeyIdx = s.pubKeyIdx := by
  unfold passNode; split <;> rfl

@[simp] theorem passNode_ownerIdx : (passNode s id).ownerIdx = s.ownerIdx := by
  unfold passNode; split <;> rfl

theorem keyOf_restoreNode (j : NodeId) :
    keyOf (restoreNode r d n) j =
      if j = d.nodeID then some n.publicKey else keyOf r j := by
  have hnodes : (restoreNode r d n).nodes = r.nodes.set d.nodeID n := by
    simp [restoreNode]
  unfold keyOf
  rw [hnodes, GoMap.get_set]
  split <;> rfl

theorem restoreNode_pubKeyIdx :
    (restoreNode r d n).pubKeyIdx = r.pubKeyIdx.set d.publicKey d.nodeID := by
  simp [restoreNode]

theorem restoreNode_ownerIdx :
    (restoreNode r d n).ownerIdx = (indexOwner r d.owner d.nodeID).ownerIdx := by
  simp only [restoreNode, passNode_ownerIdx, addNodeToBackbone_ownerIdx, indexHostname_ownerIdx]
  apply indexOwner_ownerIdx_congr
  rfl

end

/-- Restoring the id the counter is at moves the counter past it. -/
theorem restoreNode_nextNode {d : RegisterDelta} (n : NodeInfo) (h : r.nextNode = d.nodeID) :
    (restoreNode r d n).nextNode = d.nodeID + 1 := by
  have hle : ∀ s : Server, s.nextNode = d.nodeID →
      (passNode s d.nodeID).nextNode = d.nodeID + 1 := by
    intro s hs
    unfold passNode
    rw [if_pos (by rw [hs]; exact UInt32.le_refl _)]
  apply hle
  simp [h]

/-- Replaying the registration of the id the counter is at hands it out. -/
theorem idEffect_restoreNode {d : RegisterDelta} (n : NodeInfo) (hnext : r.nextNode = d.nodeID)
    (hid : d.nodeID ≠ 0) :
    IdEffect r (restoreNode r d n) := by
  refine .new ⟨?_, ?_, ?_⟩ (by rw [hnext]; exact hid)
    (by rw [restoreNode_nextNode n hnext, hnext])
  · rw [hnext]
    exact keyOf_touched (keyOf_restoreNode r d n)
  · rw [hnext]
    exact owners_of_set (Or.inr (restoreNode_pubKeyIdx r d n))
  · rw [hnext]
    intro owner j hj
    rw [restoreNode_ownerIdx] at hj
    exact indexOwner_entry hj

/-- What replaying a deregistration does to keys, indices and counter. -/
theorem applyDeregisterDelta_present (hnode : r.nodes.get m = some n) :
    let r' := applyDeregisterDelta r m
    r'.pubKeyIdx = r.pubKeyIdx.del (Base64.encode n.publicKey) ∧
      r'.ownerIdx = (dropOwner r n.owner).ownerIdx ∧
      r'.nextNode = r.nextNode ∧
      ∀ j, keyOf r' j = if j = m then none else keyOf r j := by
  have hdrop : ∀ s owner hostname, (dropHostname (dropOwner s owner) hostname).nodes = s.nodes ∧
        (dropHostname (dropOwner s owner) hostname).pubKeyIdx = s.pubKeyIdx ∧
        (dropHostname (dropOwner s owner) hostname).ownerIdx = (dropOwner s owner).ownerIdx ∧
        (dropHostname (dropOwner s owner) hostname).nextNode = s.nextNode := by
    intro s owner hostname
    have hhost := sameBindings_dropHostname (dropOwner s owner) hostname
    rw [hhost.pubKeyIdx, hhost.ownerIdx, hhost.nextNode, dropHostname_nodes]
    unfold dropOwner
    split <;> simp
  obtain ⟨hn, hp, ho, hx⟩ := hdrop
    { r with pubKeyIdx := r.pubKeyIdx.del (Base64.encode n.publicKey) }
    n.owner n.hostname
  simp only [applyDeregisterDelta, hnode]
  refine ⟨hp, ho.trans ?_, hx, fun j => ?_⟩
  · unfold dropOwner
    split <;> rfl
  · rw [keyOf_removeFromNetworks, keyOf_dropNode]
    split
    · rfl
    · exact keyOf_congr hn j

theorem quiet_applyDeregisterDelta (r : Server) (m : NodeId) :
    Quiet r (applyDeregisterDelta r m) := by
  cases hnode : r.nodes.get m with
  | none =>
    have heq : applyDeregisterDelta r m = r := by simp [applyDeregisterDelta, hnode]
    rw [heq]
    exact Quiet.refl r
  | some n =>
    obtain ⟨hp, ho, hx, hk⟩ := applyDeregisterDelta_present hnode
    refine ⟨fun j => ?_, fun text j hj => ?_, fun owner j hj => ?_, hx⟩
    · rw [hk]
      split
      · exact Or.inr rfl
      · exact Or.inl rfl
    · rw [hp, GoMap.get_del] at hj
      split at hj
      · cases hj
      · exact hj
    · rw [ho] at hj
      unfold dropOwner at hj
      split at hj
      · exact hj
      · exact GoMap.of_get_del hj

/-- Replaying the deregistration of a node `k` is not about. -/
theorem silent_applyDeregisterDelta (hm : ¬ Mentions k r m) :
    Silent k r (applyDeregisterDelta r m) := by
  cases hnode : r.nodes.get m with
  | none =>
    have heq : applyDeregisterDelta r m = r := by simp [applyDeregisterDelta, hnode]
    rw [heq]
    exact Silent.refl k r
  | some n =>
    obtain ⟨hp, -, -, -⟩ := applyDeregisterDelta_present hnode
    refine .of_quiet ?_ (quiet_applyDeregisterDelta r m).nodes
    have hne : k ≠ Base64.encode n.publicKey := by
      intro hk
      exact hm (mentions_of_encode hnode hk.symm)
    rw [hp, GoMap.get_del_ne _ hne]

/-- A quiet step adds nothing to what is said about any key. -/
theorem mentions_of_quiet (h : Quiet s s') (hid : Mentions k s' id) : Mentions k s id := by
  rcases hid with hid | ⟨key, hkey, hdec⟩
  · exact Or.inl (h.keys k id hid)
  · rcases h.nodes id with heq | hnone
    · exact Or.inr ⟨key, heq ▸ hkey, hdec⟩
    · rw [hnone] at hkey
      cases hkey

@[simp] theorem replayRotation_publicKey (d : KeyRotationDelta) (key : Bytes)
    (n : NodeInfo) : (replayRotation d key n).publicKey = key := by
  unfold replayRotation
  split <;> rfl

/-! ## Restart and failover -/

/-- What an index built from the records says is said by the records. -/
theorem mentions_of_indexBy (h : (GoMap.indexBy keyText order s.nodes).get k = some id) :
    Mentions k s id := by
  obtain ⟨-, n, hnode, htext⟩ := GoMap.of_get_indexBy keyText order s.nodes h
  exact mentions_of_encode hnode (Option.some.inj htext)

theorem mentions_load_save (hord : IsOrder order s.nodes)
    (h : Mentions k (load order (save s)) id) :
    Mentions k s id := by
  rcases h with h | ⟨key, hkey, hdec⟩
  · rw [load_save_pubKeyIdx, GoMap.get_union, Option.or_eq_some_iff] at h
    rcases h with h | ⟨-, h⟩
    · exact mentions_of_indexBy h
    · exact Or.inl h
  · rw [keyOf_load_save hord] at hkey
    exact Or.inr ⟨key, hkey, hdec⟩

/-- A binding that nothing contradicts survives a restart. -/
theorem load_save_index (order : List NodeId) (hidx : s.pubKeyIdx.get k = some id)
    (honly : ∀ j, Mentions k s j → j = id) :
    (load order (save s)).pubKeyIdx.get k = some id := by
  rw [load_save_pubKeyIdx, GoMap.get_union]
  cases hbuilt : (GoMap.indexBy keyText order s.nodes).get k with
  | none => exact hidx
  | some j =>
    have hj := honly j (mentions_of_indexBy hbuilt)
    rw [hj]
    rfl

section

variable (hord : IsOrder order s.nodes)
include hord

theorem idsAllocated_load_save (h : IdsAllocated s) : IdsAllocated (load order (save s)) := by
  have halloc : ∀ id, Allocated s id → Allocated (load order (save s)) id := by
    intro id hid
    unfold Allocated
    rw [load_save_nextNode]
    exact hid
  have hnode : ∀ id n, s.nodes.get id = some n → Allocated (load order (save s)) id := by
    intro id n hn
    exact halloc id (h.nodes id (by simp [keyOf, hn]))
  refine ⟨fun id hid => ?_, fun text id hid => ?_, fun owner id hid => ?_⟩
  · rw [keyOf_load_save hord] at hid
    exact halloc id (h.nodes id hid)
  · rw [load_save_pubKeyIdx, GoMap.get_union, Option.or_eq_some_iff] at hid
    rcases hid with hid | ⟨-, hid⟩
    · obtain ⟨-, n, hn, -⟩ := GoMap.of_get_indexBy keyText order s.nodes hid
      exact hnode id n hn
    · exact halloc id (h.keys text id hid)
  · rw [load_save_ownerIdx] at hid
    obtain ⟨-, n, hn, -⟩ := GoMap.of_get_indexBy _ order s.nodes hid
    exact hnode id n hn

theorem mentions_replica (h : Mentions k (applySnapshot order standby (snapshotJSON s)) id) :
    Mentions k s id := by
  rcases h with h | ⟨key, hkey, hdec⟩
  · rw [replica_pubKeyIdx] at h
    exact mentions_of_indexBy h
  · rw [keyOf_replica order standby s hord] at hkey
    exact Or.inr ⟨key, hkey, hdec⟩

theorem idsAllocated_replica (h : IdsAllocated s) :
    IdsAllocated (applySnapshot order standby (snapshotJSON s)) := by
  have halloc : ∀ id, Allocated s id →
      Allocated (applySnapshot order standby (snapshotJSON s)) id := by
    intro id hid
    unfold Allocated
    rw [replica_nextNode]
    exact hid
  have hnode : ∀ id n, s.nodes.get id = some n →
      Allocated (applySnapshot order standby (snapshotJSON s)) id := by
    intro id n hn
    exact halloc id (h.nodes id (by simp [keyOf, hn]))
  refine ⟨fun id hid => ?_, fun text id hid => ?_, fun owner id hid => ?_⟩
  · rw [keyOf_replica order standby s hord] at hid
    exact halloc id (h.nodes id hid)
  · rw [replica_pubKeyIdx] at hid
    obtain ⟨-, n, hn, -⟩ := GoMap.of_get_indexBy keyText order s.nodes hid
    exact hnode id n hn
  · rw [replica_ownerIdx] at hid
    obtain ⟨-, n, hn, -⟩ := GoMap.of_get_indexBy _ order s.nodes hid
    exact hnode id n hn

/-- On a standby a key is found exactly when a record spells it: then it is
bound to that record, if no other record spells it. -/
theorem replica_index (hnode : s.nodes.get id = some n) (hk : Base64.encode n.publicKey = k)
    (honly : ∀ j, Mentions k s j → j = id) :
    (applySnapshot order standby (snapshotJSON s)).pubKeyIdx.get k = some id := by
  rw [replica_pubKeyIdx]
  have hmem : id ∈ order := (hord.2 id).mpr (by simp [hnode])
  obtain ⟨j, hj⟩ := GoMap.exists_get_indexBy keyText order s.nodes hmem hnode
    (congrArg some hk)
  rw [hj, honly j (mentions_of_indexBy hj)]

end

end Rendezvous.Recovery

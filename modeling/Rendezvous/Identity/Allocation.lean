import Rendezvous.Directory.RegisterSpec
import Rendezvous.Identity.Handlers

/-!
# Node ids are handed out once

What the handlers of the directory and identity packages do to node ids.
Each of them is quiet, or is about one id the registry knows, or hands out
the next id of the counter (`IdEffect`); the counter only moves forward and
stops when it wraps to zero. So every id a node, a key or an owner points
at has been handed out before (`IdsAllocated`), and no id is handed out
twice.
-/

namespace Rendezvous.Identity

open Base Registry Authz Rendezvous.Membership Directory

variable {E : Env} {now : Time} {s s' : Server} {msg : Msg} {o : Outcome} {key : Bytes}
  {id : NodeId} {order : List NetId}

/-! ## Rotation and recovery -/

/-- A rotation request that is signed under `key`. -/
def SignedRotation (E : Env) (msg : Msg) (key : Bytes) : Prop :=
  let nodeID := jsonUint32 msg "node_id"
  let newKey := msg.str "new_public_key"
  ∃ sig, base64Decode (msg.str "signature") = some sig ∧
    E.verify key (utf8 s!"rotate:{nodeID}:{newKey}") sig = true

/-- A recovery request whose statement verified, is about the node and the
new key of the request, and carries the commitment `n` enrolled. -/
def MatchingRecovery (E : Env) (msg : Msg) (n : NodeInfo) : Prop :=
  ∃ r, E.verifyRecovery (msg.str "recovery") (msg.str "recovery_sig") = .ok r ∧
    r.nodeID = jsonUint32 msg "node_id" ∧
    r.newPubKey = msg.str "new_public_key" ∧
    n.recoveryCommitment ≠ "" ∧ r.commitment = n.recoveryCommitment

theorem checkRotation_ok {n : NodeInfo} (h : checkRotation E s msg = .ok (n, key)) :
    s.nodes.get (jsonUint32 msg "node_id") = some n ∧ msg.str "new_public_key" ≠ "" ∧
      E.decodePublicKey (msg.str "new_public_key") = some key ∧
      SignedRotation E msg n.publicKey := by
  simp only [checkRotation, bind_eq_ok, orFail_eq_ok, require_eq_ok,
    decide_eq_true_eq, pure_eq_ok, Prod.mk.injEq] at h
  obtain ⟨_, _, _, hne, key', hkey, n', hn, sig, hsig, _, hver, rfl, rfl⟩ := h
  exact ⟨hn, hne, hkey, sig, hsig, hver⟩

theorem handleRotateKey_cases (h : handleRotateKey E now s msg = .ok o) :
    ∃ key n, msg.str "new_public_key" ≠ "" ∧
      E.decodePublicKey (msg.str "new_public_key") = some key ∧
      s.nodes.get (jsonUint32 msg "node_id") = some n ∧
      SignedRotation E msg n.publicKey ∧
      o.server = commitKey s (jsonUint32 msg "node_id") n (rotated n key now)
        (msg.str "new_public_key") ∧
      o.wal = [.keyRotation {
        nodeID := jsonUint32 msg "node_id"
        newPublicKey := msg.str "new_public_key"
        rotatedAt := some (rfc3339 now) }] := by
  simp only [handleRotateKey, bind_eq_ok, pure_eq_ok] at h
  obtain ⟨⟨n, key⟩, hcheck, rfl⟩ := h
  obtain ⟨hn, hne, hkey, hsigned⟩ := checkRotation_ok hcheck
  exact ⟨key, n, hne, hkey, hn, hsigned, rfl, rfl⟩

theorem checkRecovery_ok {r : Recovery} {n : NodeInfo}
    (h : checkRecovery E now s msg = .ok (r, n, key)) :
    s.nodes.get (jsonUint32 msg "node_id") = some n ∧ msg.str "new_public_key" ≠ "" ∧
      E.decodePublicKey (msg.str "new_public_key") = some key ∧
      MatchingRecovery E msg n := by
  simp only [checkRecovery, bind_eq_ok, orFail_eq_ok, require_eq_ok,
    Bool.and_eq_true, decide_eq_true_eq, pure_eq_ok, Option.filter_eq_some_iff,
    mapError_eq_ok, Prod.mk.injEq] at h
  obtain ⟨_, ⟨_, hne⟩, key', hkey, r', hr, _, hid, _, hnew, _, _, n', ⟨hn, hcomm⟩, _,
    hmatch, rfl, rfl, rfl⟩ := h
  exact ⟨hn, hne, hkey, r', hr, hid, hnew, by simpa using hcomm, hmatch⟩

/-- A recovery request either is refused and leaves every record and index
alone, or commits the new key after all its checks. -/
theorem handleRecoverIdentity_cases (E : Env) (now : Time) (s : Server)
    (msg : Msg) :
    (∃ ledger e, handleRecoverIdentity E now s msg =
        ({ s with consumedNonces := ledger }, .error e)) ∨
      ∃ r n key ledger resp, checkRecovery E now s msg = .ok (r, n, key) ∧
        handleRecoverIdentity E now s msg = (commitKey { s with consumedNonces := ledger }
            (jsonUint32 msg "node_id") n (recovered n r key now)
            (msg.str "new_public_key"),
          .ok (resp, [.keyRotation {
            nodeID := jsonUint32 msg "node_id"
            newPublicKey := msg.str "new_public_key"
            rotatedAt := some (rfc3339 now)
            clearBadge := true }])) := by
  unfold handleRecoverIdentity
  cases hcheck : checkRecovery E now s msg with
  | error e => exact Or.inl ⟨s.consumedNonces, e, rfl⟩
  | ok p =>
    obtain ⟨r, n, key⟩ := p
    simp only
    split
    · exact Or.inl ⟨_, _, rfl⟩
    · exact Or.inr ⟨r, n, key, _, _, rfl, rfl⟩

theorem keyOf_commitKey (s : Server) (nodeID : NodeId) (n n' : NodeInfo)
    (newKey : String) (j : NodeId) :
    keyOf (commitKey s nodeID n n' newKey) j =
      if j = nodeID then some n'.publicKey else keyOf s j := by
  have hnodes : (commitKey s nodeID n n' newKey).nodes = s.nodes.set nodeID n' := rfl
  unfold keyOf
  rw [hnodes, GoMap.get_set]
  split <;> rfl

/-! ## The invariant -/

/-- A registry just started without a snapshot: no nodes, and the backbone
as its only network. -/
def freshServer (now : Time) : Server where
  networks := GoMap.set ∅ 0 (backbone now)

/-- The id is not the reserved one, and the counter has passed it, or has
wrapped round and hands out no more. -/
def Allocated (s : Server) (id : NodeId) : Prop :=
  id ≠ 0 ∧ (s.nextNode = 0 ∨ id < s.nextNode)

/-- Every id the registry knows has been handed out. -/
structure IdsAllocated (s : Server) : Prop where
  nodes : ∀ id, keyOf s id ≠ none → Allocated s id
  keys : ∀ text id, s.pubKeyIdx.get text = some id → Allocated s id
  owners : ∀ owner id, s.ownerIdx.get owner = some id → Allocated s id

theorem idsAllocated_freshServer (now : Time) : IdsAllocated (freshServer now) where
  nodes := fun id h => absurd (by simp [keyOf, freshServer]) h
  keys := fun text id h => by simp [freshServer] at h
  owners := fun owner id h => by simp [freshServer] at h

/-- A step that is about one id: it alone may get a new key, and new index
entries point at it. -/
structure Touches (s s' : Server) (id : NodeId) : Prop where
  nodes : ∀ j, keyOf s' j = keyOf s j ∨ keyOf s' j = none ∨ j = id
  keys : ∀ text j, s'.pubKeyIdx.get text = some j → s.pubKeyIdx.get text = some j ∨ j = id
  owners : ∀ owner j, s'.ownerIdx.get owner = some j → s.ownerIdx.get owner = some j ∨ j = id

/-- A step that gives no id a new key and no index a new entry. -/
structure Quiet (s s' : Server) : Prop where
  nodes : ∀ j, keyOf s' j = keyOf s j ∨ keyOf s' j = none
  keys : ∀ text j, s'.pubKeyIdx.get text = some j → s.pubKeyIdx.get text = some j
  owners : ∀ owner j, s'.ownerIdx.get owner = some j → s.ownerIdx.get owner = some j
  nextNode : s'.nextNode = s.nextNode

/-- The registry knows the id: a node, a key or an owner points at it. -/
def Knows (s : Server) (id : NodeId) : Prop :=
  keyOf s id ≠ none ∨ (∃ text, s.pubKeyIdx.get text = some id) ∨
    ∃ owner, s.ownerIdx.get owner = some id

/-- What any step may do to node ids: nothing new, something about an id
it knows, or the next id handed out. -/
inductive IdEffect (s s' : Server) : Prop where
  | quiet (h : Quiet s s')
  | known (id : NodeId) (hknows : Knows s id) (h : Touches s s' id)
      (hnext : s'.nextNode = s.nextNode)
  | new (h : Touches s s' s.nextNode) (hfree : s.nextNode ≠ 0)
      (hnext : s'.nextNode = s.nextNode + 1)

theorem Quiet.of_sameBindings (h : SameBindings s s')
    (hnodes : ∀ j, keyOf s' j = keyOf s j ∨ keyOf s' j = none) : Quiet s s' where
  nodes := hnodes
  keys := fun _ _ hj => h.pubKeyIdx ▸ hj
  owners := fun _ _ hj => h.ownerIdx ▸ hj
  nextNode := h.nextNode

theorem Quiet.refl (s : Server) : Quiet s s :=
  .of_sameBindings ⟨rfl, rfl, rfl⟩ fun _ => Or.inl rfl

theorem IdsAllocated.of_knows (h : IdsAllocated s) (hknows : Knows s id) : Allocated s id := by
  rcases hknows with hnode | ⟨text, htext⟩ | ⟨owner, howner⟩
  · exact h.nodes id hnode
  · exact h.keys text id htext
  · exact h.owners owner id howner

/-- The counter only moves forward, and stops at the wrap. -/
theorem allocated_next (hfree : s.nextNode ≠ 0) (hnext : s'.nextNode = s.nextNode + 1)
    (h : Allocated s id ∨ id = s.nextNode) : Allocated s' id := by
  have hne : s.nextNode.toNat ≠ 0 := fun h0 => hfree (UInt32.toNat_inj.mp h0)
  refine ⟨?_, ?_⟩
  · rcases h with h | rfl
    · exact h.1
    · exact hfree
  have hle : id.toNat ≤ s.nextNode.toNat := by
    rcases h with ⟨-, hzero | hlt⟩ | rfl
    · exact absurd hzero hfree
    · exact Nat.le_of_lt (UInt32.lt_iff_toNat_lt.mp hlt)
    · exact Nat.le_refl _
  have hsucc : s'.nextNode.toNat = (s.nextNode.toNat + 1) % 2 ^ 32 := by
    rw [hnext, UInt32.toNat_add]
    rfl
  have hbound := s.nextNode.toNat_lt
  -- Either the successor fits, or it wraps to the value that stops it.
  by_cases hwrap : s.nextNode.toNat + 1 = 2 ^ 32
  · left
    apply UInt32.toNat_inj.mp
    rw [hsucc, hwrap]
    rfl
  · right
    rw [UInt32.lt_iff_toNat_lt, hsucc]
    omega

theorem IdEffect.allocated (h : IdEffect s s') (halloc : Allocated s id) : Allocated s' id := by
  cases h with
  | quiet h =>
    unfold Allocated
    rw [h.nextNode]
    exact halloc
  | known j hknows h hnext =>
    unfold Allocated
    rw [hnext]
    exact halloc
  | new h hfree hnext => exact allocated_next hfree hnext (Or.inl halloc)

theorem Touches.idsAllocated (h : Touches s s' id) (hs : IdsAllocated s)
    (hmono : ∀ j, Allocated s j → Allocated s' j) (hid : Allocated s' id) :
    IdsAllocated s' where
  nodes := by
    intro j hj
    rcases h.nodes j with heq | hnone | rfl
    · exact hmono j (hs.nodes j (heq ▸ hj))
    · exact absurd hnone hj
    · exact hid
  keys := by
    intro text j hj
    rcases h.keys text j hj with hold | rfl
    · exact hmono j (hs.keys text j hold)
    · exact hid
  owners := by
    intro owner j hj
    rcases h.owners owner j hj with hold | rfl
    · exact hmono j (hs.owners owner j hold)
    · exact hid

theorem IdEffect.idsAllocated (h : IdEffect s s') (hs : IdsAllocated s) : IdsAllocated s' := by
  have hmono : ∀ j, Allocated s j → Allocated s' j := fun _ hj => h.allocated hj
  cases h with
  | quiet h =>
    refine ⟨fun j hj => ?_, fun text j hj => ?_, fun owner j hj => ?_⟩
    · rcases h.nodes j with heq | hnone
      · exact hmono j (hs.nodes j (heq ▸ hj))
      · exact absurd hnone hj
    · exact hmono j (hs.keys text j (h.keys text j hj))
    · exact hmono j (hs.owners owner j (h.owners owner j hj))
  | known j hknows h hnext =>
    exact h.idsAllocated hs hmono (hmono j (hs.of_knows hknows))
  | new h hfree hnext =>
    exact h.idsAllocated hs hmono (allocated_next hfree hnext (Or.inr rfl))

/-! ## What each step does to node ids -/

theorem owners_of_set {m m' : GoMap String NodeId} {owner : String}
    (h : m' = m ∨ m' = m.set owner id) (name : String) (j : NodeId) (hj : m'.get name = some j) :
    m.get name = some j ∨ j = id := by
  rcases h with rfl | rfl
  · exact Or.inl hj
  · rcases GoMap.of_get_set hj with ⟨-, rfl⟩ | hold
    · exact Or.inr rfl
    · exact Or.inl hold

theorem keyOf_touched {k : Bytes} (h : ∀ j, keyOf s' j = if j = id then some k else keyOf s j)
    (j : NodeId) :
    keyOf s' j = keyOf s j ∨ keyOf s' j = none ∨ j = id := by
  by_cases hj : j = id
  · exact Or.inr (Or.inr hj)
  · left
    rw [h, if_neg hj]

theorem ReRegistered.touches {req : RegisterReq} (h : ReRegistered E now order s req key id o) :
    Touches s o.server id := by
  cases h with
  | known _ n hidx hnode =>
    refine ⟨fun j => ?_, ?_, ?_⟩
    · exact Or.inl (keyOf_refreshKnown E now s req hnode j)
    · intro text j hj
      rw [refreshKnown_pubKeyIdx] at hj
      exact Or.inl hj
    · exact owners_of_set (refreshKnown_ownerIdx E now s req id n)
  | byKey _ hidx hgone =>
    obtain ⟨hkeys, howners, -⟩ := reclaimByKey_indices E now order s req id key
    refine ⟨?_, ?_, ?_⟩
    · exact keyOf_touched (keyOf_reclaimByKey E now order s req id key)
    · intro text j hj
      rw [hkeys] at hj
      exact Or.inl hj
    · intro owner j hj
      rw [howners] at hj
      exact indexOwner_entry hj
  | byOwner _ hidx howner hown hgone =>
    obtain ⟨hkeys, howners, -⟩ := reclaimByOwner_indices E now s req id key
    refine ⟨?_, ?_, ?_⟩
    · exact keyOf_touched (keyOf_reclaimByOwner E now s req id key)
    · exact owners_of_set (Or.inr hkeys)
    · intro owner j hj
      rw [howners] at hj
      exact Or.inl hj
  | new _ hidx hown hfree hnew =>
    obtain ⟨hkeys, howners, -⟩ := registerNew_indices hnew
    refine ⟨?_, ?_, ?_⟩
    · exact keyOf_touched (keyOf_registerNew hnew)
    · exact owners_of_set (Or.inr hkeys)
    · intro owner j hj
      rw [howners] at hj
      exact indexOwner_entry hj

theorem ReRegistered.idEffect {req : RegisterReq} (h : ReRegistered E now order s req key id o) :
    IdEffect s o.server := by
  have htouches := ReRegistered.touches h
  cases h with
  | known _ n hidx hnode =>
    exact .known id (Or.inr (Or.inl ⟨_, hidx⟩)) htouches
      (refreshKnown_nextNode E now s req id n)
  | byKey _ hidx hgone =>
    exact .known id (Or.inr (Or.inl ⟨_, hidx⟩)) htouches
      (reclaimByKey_indices E now order s req id key).2.2
  | byOwner _ hidx howner hown hgone =>
    exact .known id (Or.inr (Or.inr ⟨_, hown⟩)) htouches
      (reclaimByOwner_indices E now s req id key).2.2
  | new _ hidx hown hfree hnew =>
    exact .new htouches hfree (registerNew_indices hnew).2.2

/-- The external identity a registration adds changes no key or index. -/
theorem IdEffect.setExternalID (h : IdEffect s s') (id : NodeId) (ext : String) :
    IdEffect s (setExternalID s' id ext) := by
  cases h with
  | quiet h =>
    refine .quiet ⟨fun j => ?_, h.keys, h.owners, h.nextNode⟩
    rw [keyOf_setExternalID]
    exact h.nodes j
  | known j hknows h hnext =>
    refine .known j hknows ⟨fun i => ?_, h.keys, h.owners⟩ hnext
    rw [keyOf_setExternalID]
    exact h.nodes i
  | new h hfree hnext =>
    refine .new ⟨fun i => ?_, h.keys, h.owners⟩ hfree hnext
    rw [keyOf_setExternalID]
    exact h.nodes i

theorem idEffect_register {remoteAddr : String}
    (h : handleRegister E now order remoteAddr s msg = .ok o) :
    IdEffect s o.server := by
  obtain ⟨req, key, o', -, -, -, -, hbranch, -, hserver⟩ := handleRegister_branch h
  have heffect := ReRegistered.idEffect hbranch
  rcases hserver with heq | ⟨_, ext, heq⟩
  · rw [heq]
    exact heffect
  · rw [heq]
    exact heffect.setExternalID _ ext

theorem quiet_reap (threshold : Time) (chunk : List NodeId) (s : Server) :
    Quiet s (reapStaleNodes threshold chunk s) :=
  .of_sameBindings (sameBindings_reapStaleNodes threshold chunk s)
    (keyOf_reapStaleNodes threshold chunk s)

theorem quiet_deregister (h : handleDeregister E s msg = .ok o) : Quiet s o.server := by
  rcases deregister_cases h with ⟨hserver, -⟩ | ⟨n, -, hserver, -⟩
  · rw [hserver]
    exact Quiet.refl s
  · rw [hserver]
    refine .of_sameBindings (sameBindings_departNode s _ n) fun j => ?_
    simp only [keyOf_departNode]
    split
    · exact Or.inr rfl
    · exact Or.inl rfl

theorem quiet_enrollRecovery (h : handleEnrollRecovery E s msg = .ok o) : Quiet s o.server := by
  simp only [handleEnrollRecovery, bind_eq_ok, pure_eq_ok] at h
  obtain ⟨_, _, e, _, _, _, _, _, rfl⟩ := h
  refine .of_sameBindings ⟨rfl, rfl, rfl⟩ fun j => Or.inl ?_
  unfold keyOf
  simp only [GoMap.get_modify]
  split
  · next hj =>
    subst hj
    rw [Option.map_map]
    rfl
  · rfl

/-- A commit is about the registered node it names, whatever happened to
the nonce ledger before it. -/
theorem idEffect_commitKey (s : Server) {n : NodeInfo} (hnode : s.nodes.get id = some n)
    (n' : NodeInfo) (newKey : String) (ledger : GoMap String Time) :
    IdEffect s (commitKey { s with consumedNonces := ledger } id n n' newKey) := by
  have hknows : keyOf s id ≠ none := by simp [keyOf, hnode]
  refine .known id (Or.inl hknows) ⟨?_, ?_, fun _ _ hj => Or.inl hj⟩ rfl
  · exact keyOf_touched
      (keyOf_commitKey { s with consumedNonces := ledger } id n n' newKey)
  · intro text j hj
    rcases GoMap.of_get_set hj with ⟨-, rfl⟩ | hold
    · exact Or.inr rfl
    · exact Or.inl (GoMap.of_get_del hold)

end Rendezvous.Identity

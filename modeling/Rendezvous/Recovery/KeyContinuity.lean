import Rendezvous.Recovery.KeyFacts

/-!
# A key keeps its node id

Whether a key that registered once is answered with the same id ever
after, across reaping, deregistration, restarts, crashes and failovers.
It is not: a deregistration replayed from the log takes the key out of the
index, which the live deregistration leaves in (`key_moves_after_crash`),
and a standby knows only the keys of registered nodes.

`key_keeps_id` gives the steps under which it is. The invariant compares
three states with what the live index says about the key: the live state,
the state the disk restores, and the standby's copy. None of them says
anything else, and the disk still has the binding unless the node's
deregistration is in the log.
-/

namespace Rendezvous.Recovery

open Base Registry Directory Identity Wal Persist

variable {k : String} {s s' : Server} {id : NodeId} {sys : System} {o : Outcome} {E : Env}
  {now : Time} {msg : Msg} {order : List NodeId}

/-! ## The condition on each step -/

/-- The binding of `k` to `id` has reached the snapshot file or the log. -/
def Recorded (k : String) (sys : System) (id : NodeId) : Prop :=
  (∃ snap, sys.disk = some snap ∧ snap.pubKeyIdx.get k = some id) ∨
    ∃ d, Delta.register d ∈ sys.wal ∧ d.publicKey = k ∧ d.nodeID = id

/-- A rotation or recovery that neither moves the node `k` is bound to nor
gives another node the key `k` spells. -/
def Elsewhere (k : String) (s : Server) (msg : Msg) : Prop :=
  s.pubKeyIdx.get k ≠ some (jsonUint32 msg "node_id") ∧
    Base64.decode (msg.str "new_public_key") ≠ Base64.decode k

/-- The steps that keep the binding of `k`.

* The key `k` spells is registered under no other text.
* A rotation or recovery that succeeds happens elsewhere.
* A crash finds the binding on disk, and no deregistration of its node in
  the log.
* A failover finds the node registered on the standby, under the key whose
  text is `k`. -/
def KeepsKey (E : Env) (k : String) (sys : System) : Event → Prop
  | .register _ _ _ msg =>
    Base64.decode (msg.str "public_key") = Base64.decode k → msg.str "public_key" = k
  | .rotateKey now msg =>
    (∃ o, handleRotateKey E now sys.live msg = .ok o) → Elsewhere k sys.live msg
  | .recoverIdentity now msg =>
    (∃ a, (handleRecoverIdentity E now sys.live msg).2 = .ok a) → Elsewhere k sys.live msg
  | .crash _ _ => ∀ id, sys.live.pubKeyIdx.get k = some id →
      Recorded k sys id ∧ Delta.deregister id ∉ sys.wal
  | .failover => ∀ s id, sys.standby = some s → sys.live.pubKeyIdx.get k = some id →
        ∃ n, s.nodes.get id = some n ∧ Base64.encode n.publicKey = k
  | _ => True

/-! ## The invariant -/

/-- A state restored from the disk, against the live one. -/
structure Durable (k : String) (sys : System) (r : Server) : Prop where
  ids : IdsAllocated r
  nextNode : r.nextNode = sys.live.nextNode
  agree : ∀ id, Mentions k r id → sys.live.pubKeyIdx.get k = some id
  kept : ∀ id, Recorded k sys id → Delta.deregister id ∉ sys.wal → r.pubKeyIdx.get k = some id

/-- A standby's copy, against the live state. -/
structure Follows (k : String) (live s : Server) : Prop where
  ids : IdsAllocated s
  agree : ∀ id, Mentions k s id → live.pubKeyIdx.get k = some id
  found : ∀ id n, s.nodes.get id = some n → Base64.encode n.publicKey = k →
    s.pubKeyIdx.get k = some id

structure KeyInv (k : String) (sys : System) : Prop where
  ids : IdsAllocated sys.live
  agree : ∀ id, Mentions k sys.live id → sys.live.pubKeyIdx.get k = some id
  wellFormed : ∀ d ∈ sys.wal, WellFormed d
  recorded : ∀ id, Recorded k sys id → sys.live.pubKeyIdx.get k = some id
  durable : ∀ now order, IsOrder order (diskNodes sys.disk) →
    Durable k sys (restore now order sys.disk sys.wal)
  follows : ∀ s, sys.standby = some s → Follows k sys.live s

/-- A step keeps the invariant and the binding of `k`. -/
structure KeyStep (k : String) (sys sys' : System) : Prop where
  inv : KeyInv k sys'
  keep : ∀ id, sys.live.pubKeyIdx.get k = some id → sys'.live.pubKeyIdx.get k = some id

theorem KeyStep.refl (h : KeyInv k sys) : KeyStep k sys sys := ⟨h, fun _ hid => hid⟩

private theorem idsAllocated_empty : IdsAllocated {} where
  nodes := fun id h => absurd (by simp [keyOf]) h
  keys := fun text id h => by simp at h
  owners := fun owner id h => by simp at h

private theorem not_mentions_empty (k : String) (id : NodeId) : ¬ Mentions k {} id := by
  rintro (h | ⟨key, h, -⟩)
  · simp at h
  · simp [keyOf] at h

private theorem keyInv_freshSystem (k : String) (now : Time) : KeyInv k (freshSystem now) where
  ids := idsAllocated_freshServer now
  agree := fun id h => absurd h (not_mentions_empty k id)
  wellFormed := by simp [freshSystem]
  recorded := by
    rintro id (⟨snap, h, -⟩ | ⟨d, h, -⟩)
    · cases h
    · cases h
  durable := fun _ _ _ =>
    { ids := idsAllocated_empty
      nextNode := rfl
      agree := fun id h => absurd h (not_mentions_empty k id)
      kept := by
        rintro id (⟨snap, h, -⟩ | ⟨d, h, -⟩)
        · cases h
        · cases h }
  follows := fun s h => by cases h

/-! ## Changes of memory -/

/-- A change of the live state that keeps the binding of `k`. -/
structure KeepsBinding (k : String) (s s' : Server) : Prop where
  keep : ∀ id, s.pubKeyIdx.get k = some id → s'.pubKeyIdx.get k = some id
  agree : ∀ id, Mentions k s' id → s'.pubKeyIdx.get k = some id

private theorem Silent.keepsBinding (h : Silent k s s')
    (hs : ∀ id, Mentions k s id → s.pubKeyIdx.get k = some id) :
    KeepsBinding k s s' where
  keep := fun _ hid => h.index.trans hid
  agree := fun id hid => h.index.trans (hs id (h.mentions id hid))

theorem Binds.keep (h : Binds k s s' id) {j : NodeId} (hj : s.pubKeyIdx.get k = some j) :
    s'.pubKeyIdx.get k = some j := by
  rcases h.before with hnone | hsome
  · rw [hnone] at hj
    cases hj
  · rw [h.index, ← hsome, hj]

private theorem Binds.keepsBinding (h : Binds k s s' id)
    (hs : ∀ id, Mentions k s id → s.pubKeyIdx.get k = some id) :
    KeepsBinding k s s' where
  keep := fun _ hj => h.keep hj
  agree := by
    intro j hj
    rcases h.mentions j hj with hold | rfl
    · exact h.keep (hs j hold)
    · exact h.index

section

variable (hkeep : ∀ id, sys.live.pubKeyIdx.get k = some id → s'.pubKeyIdx.get k = some id)
include hkeep

theorem Follows.mono (h : Follows k sys.live s) : Follows k s' s :=
  { h with agree := fun id hid => hkeep id (h.agree id hid) }

theorem Durable.mono {r : Server} (h : Durable k sys r) (hnext : s'.nextNode = sys.live.nextNode) :
    Durable k { sys with live := s' } r where
  ids := h.ids
  nextNode := h.nextNode.trans hnext.symm
  agree := fun id hid => hkeep id (h.agree id hid)
  kept := h.kept

end

/-- A change of memory that is not recorded. -/
theorem KeyInv.unrecorded (h : KeyInv k sys) (hids : IdsAllocated s')
    (hnext : s'.nextNode = sys.live.nextNode) (hkeeps : KeepsBinding k sys.live s') :
    KeyInv k { sys with live := s' } where
  ids := hids
  agree := hkeeps.agree
  wellFormed := h.wellFormed
  recorded := fun id hid => hkeeps.keep id (h.recorded id hid)
  durable := fun now order hord => (h.durable now order hord).mono hkeeps.keep hnext
  follows := fun s hs => (h.follows s hs).mono hkeeps.keep

/-- A change of memory recorded as `d`: it is enough to follow `d` on any
restored state. -/
theorem KeyInv.appended (h : KeyInv k sys) {d : Delta} (hids : IdsAllocated s')
    (hkeeps : KeepsBinding k sys.live s') (hwf : WellFormed d)
    (hrec : ∀ id, Recorded k { sys with live := s', wal := sys.wal ++ [d] } id →
      s'.pubKeyIdx.get k = some id) (hreplay : ∀ now r, Durable k sys r →
      Durable k { sys with live := s', wal := sys.wal ++ [d] }
        (applyOr now r d)) :
    KeyInv k { sys with live := s', wal := sys.wal ++ [d] } where
  ids := hids
  agree := hkeeps.agree
  wellFormed := by
    intro d' hd'
    rcases List.mem_append.mp hd' with hd' | hd'
    · exact h.wellFormed d' hd'
    · rw [List.mem_singleton.mp hd']
      exact hwf
  recorded := hrec
  durable := fun now order hord => by
    have heq : restore now order sys.disk (sys.wal ++ [d]) =
        applyOr now (restore now order sys.disk sys.wal) d := by
      unfold restore
      rw [replay_append h.wellFormed]
      exact replay_wellFormed (by simpa using hwf)
    rw [heq]
    exact hreplay now _ (h.durable now order hord)
  follows := fun s hs => (h.follows s hs).mono hkeeps.keep

/-! ## Registration -/

private theorem recorded_append {d : Delta}
    (h : Recorded k { sys with live := s', wal := sys.wal ++ [d] } id) :
    Recorded k sys id ∨ ∃ r, d = .register r ∧ r.publicKey = k ∧ r.nodeID = id := by
  rcases h with hdisk | ⟨r, hr, hk, hid⟩
  · exact Or.inl (Or.inl hdisk)
  · rcases List.mem_append.mp hr with hr | hr
    · exact Or.inl (Or.inr ⟨r, hr, hk, hid⟩)
    · exact Or.inr ⟨r, (List.mem_singleton.mp hr).symm, hk, hid⟩

/-- No other delta records a key. -/
theorem recorded_of_append {d : Delta}
    (h : Recorded k { sys with live := s', wal := sys.wal ++ [d] } id)
    (hd : ∀ r, d ≠ .register r) : Recorded k sys id := by
  rcases recorded_append h with hold | ⟨r, hr, -⟩
  · exact hold
  · exact absurd hr (hd r)

/-- A registration is silent about `k` or binds it, when `k`'s key comes
under no other text. -/
theorem registered_keepsBinding {t : String} (h : Registered s t id o)
    (hs : ∀ id, Mentions k s id → s.pubKeyIdx.get k = some id)
    (hspell : Base64.decode t = Base64.decode k → t = k) :
    KeepsBinding k s o.server := by
  by_cases hsame : Base64.decode t = Base64.decode k
  · have hk := hspell hsame
    subst hk
    exact h.binds.keepsBinding hs
  · exact (h.silent k hsame).keepsBinding hs

/-- Replaying the registration of the id the counter was at. -/
theorem durable_register {d : RegisterDelta} {key : Bytes} (hid : d.nodeID = sys.live.nextNode)
    (hfree : sys.live.nextNode ≠ 0) (hne : d.publicKey ≠ "")
    (hdec : Base64.decode d.publicKey = some key)
    (hspell : Base64.decode d.publicKey = Base64.decode k → d.publicKey = k)
    (hnext : s'.nextNode = sys.live.nextNode + 1) (hkeeps : KeepsBinding k sys.live s')
    (hbound : d.publicKey = k → s'.pubKeyIdx.get k = some d.nodeID) (now : Time) {r : Server}
    (hr : Durable k sys r)
    (hrec : ∀ id, Recorded k { sys with live := s', wal := sys.wal ++ [.register d] } id →
      s'.pubKeyIdx.get k = some id) :
    Durable k { sys with live := s', wal := sys.wal ++ [.register d] }
      (applyOr now r (.register d)) := by
  have hnonzero : d.nodeID ≠ 0 := by rw [hid]; exact hfree
  have hcounter : r.nextNode = d.nodeID := hr.nextNode.trans hid.symm
  -- The id has not been handed out on the restored state either.
  have hgone : r.nodes.get d.nodeID = none := by
    by_contra hsome
    have halloc := hr.ids.nodes d.nodeID (by simpa [keyOf] using hsome)
    rcases halloc.2 with hzero | hlt
    · exact hnonzero (hcounter.symm.trans hzero)
    · rw [hcounter] at hlt
      exact UInt32.lt_irrefl _ hlt
  rw [applyOr_register hnonzero hne hdec, if_neg (by simp [hgone])]
  have hkeys := keyOf_restoreNode r d (deltaNode now d key)
  have hidx := restoreNode_pubKeyIdx r d (deltaNode now d key)
  refine ⟨?_, ?_, ?_, ?_⟩
  · exact (idEffect_restoreNode _ hcounter hnonzero).idsAllocated hr.ids
  · rw [restoreNode_nextNode _ hcounter, hid]
    exact hnext.symm
  · intro id hm
    by_cases hk : d.publicKey = k
    · have hbefore : r.pubKeyIdx.get k = none ∨ r.pubKeyIdx.get k = some d.nodeID := by
        cases hget : r.pubKeyIdx.get k with
        | none => exact Or.inl rfl
        | some j =>
          -- What the disk says is what the live index says.
          have hj := hkeeps.keep j (hr.agree j (Or.inl hget))
          rw [hbound hk, Option.some.injEq] at hj
          rw [hj]
          exact Or.inr rfl
      have hbinds : Binds k r (restoreNode r d (deltaNode now d key)) d.nodeID :=
        .of_keys (by rw [hidx, ← hk, GoMap.get_set_self]) hbefore hkeys
      rcases hbinds.mentions id hm with hold | rfl
      · exact hkeeps.keep id (hr.agree id hold)
      · exact hbound hk
    · have hforeign : Base64.decode d.publicKey ≠ Base64.decode k :=
        fun h => hk (hspell h)
      have hsilent : Silent k r (restoreNode r d (deltaNode now d key)) :=
        .of_foreign (by rw [hidx, GoMap.get_set_ne _ _ (Ne.symm hk)]) hkeys (by
          show Base64.decode k ≠ some key
          rw [← hdec]
          exact hforeign.symm)
      exact hkeeps.keep id (hr.agree id (hsilent.mentions id hm))
  · intro id hid' hnot
    by_cases hk : d.publicKey = k
    · have hbind := hrec id hid'
      rw [hbound hk, Option.some.injEq] at hbind
      rw [hidx, ← hk, GoMap.get_set_self, hbind]
    · rcases recorded_append hid' with hold | ⟨r', hr', hk', -⟩
      · rw [hidx, GoMap.get_set_ne _ _ (Ne.symm hk)]
        exact hr.kept id hold fun hmem => hnot (List.mem_append_left _ hmem)
      · cases hr'
        exact absurd hk' hk

theorem KeyInv.register (h : KeyInv k sys) {order : List NetId} {remoteAddr : String}
    (ho : handleRegister E now order remoteAddr sys.live msg = .ok o)
    (hspell : Base64.decode (msg.str "public_key") = Base64.decode k → msg.str "public_key" = k) :
    KeyInv k { sys with live := o.server, wal := sys.wal ++ o.wal } := by
  have hreg := registered_of_ok ho
  have hids := (idEffect_register ho).idsAllocated h.ids
  have hkeeps := registered_keepsBinding hreg h.agree hspell
  rcases hreg.wal with ⟨hwal, hnext⟩ | ⟨d, hwal, hid, hpk, hcounter, hfree, hnext⟩
  · rw [hwal, List.append_nil]
    exact h.unrecorded hids hnext hkeeps
  · rw [hwal]
    have hbound : d.publicKey = k → o.server.pubKeyIdx.get k = some d.nodeID := by
      intro hk
      rw [← hk, hpk, hid]
      exact hreg.binds.index
    have hrec : ∀ id, Recorded k
        { sys with live := o.server, wal := sys.wal ++ [.register d] } id →
        o.server.pubKeyIdx.get k = some id := by
      intro id hid'
      rcases recorded_append hid' with hold | ⟨r, hr, hk, hrid⟩
      · exact hkeeps.keep id (h.recorded id hold)
      · cases hr
        rw [← hrid]
        exact hbound hk
    obtain ⟨key, hdec⟩ := Option.isSome_iff_exists.mp hreg.decodes
    rw [← hpk] at hdec hspell
    have hnonzero : d.nodeID ≠ 0 := by rw [hid, hcounter]; exact hfree
    have hnonempty : d.publicKey ≠ "" := by rw [hpk]; exact hreg.nonempty
    refine h.appended hids hkeeps ⟨hnonzero, hnonempty, by simp [hdec]⟩ hrec ?_
    intro now' r hr
    exact durable_register (hid.trans hcounter) hfree hnonempty hdec hspell hnext
      hkeeps hbound now' hr hrec

/-! ## Deregistration and rotation -/

theorem KeyInv.deregister (h : KeyInv k sys) (ho : handleDeregister E sys.live msg = .ok o) :
    KeyInv k { sys with live := o.server, wal := sys.wal ++ o.wal } := by
  rcases deregister_cases ho with ⟨hs, hwal⟩ | ⟨n, hnode, hs, hwal⟩
  · rw [hs, hwal, List.append_nil]
    exact h
  · generalize msg.jsonUint32 "node_id" = m at hnode hs hwal
    have hquiet := quiet_deregister ho
    have hsilent := silent_departNode k sys.live m n
    rw [← hs] at hsilent
    rw [hwal]
    refine h.appended ((IdEffect.quiet hquiet).idsAllocated h.ids)
      (hsilent.keepsBinding h.agree) trivial ?_ ?_
    · intro id hid
      exact hsilent.index.trans (h.recorded id (recorded_of_append hid (by simp)))
    · intro now r hr
      have hq := quiet_applyDeregisterDelta r m
      refine ⟨(IdEffect.quiet hq).idsAllocated hr.ids, ?_, ?_, ?_⟩
      · exact (hq.nextNode.trans hr.nextNode).trans hquiet.nextNode.symm
      · intro id hid
        exact hsilent.index.trans (hr.agree id (mentions_of_quiet hq hid))
      · intro id hid hnot
        have hne : id ≠ m := by
          rintro rfl
          exact hnot (by simp)
        have hold := recorded_of_append hid (by simp)
        have hkept := hr.kept id hold fun hmem => hnot (List.mem_append_left _ hmem)
        -- The log removes the key of `m` only, and `k` is bound to `id`.
        have hm : ¬ Mentions k r m := by
          intro hment
          have hbound := hr.agree m hment
          rw [h.recorded id hold, Option.some.injEq] at hbound
          exact hne hbound
        exact (silent_applyDeregisterDelta hm).index.trans hkept

/-- A rotation or recovery that commits a key elsewhere. -/
theorem KeyInv.committed (h : KeyInv k sys) {m : NodeId} {n : NodeInfo} {key : Bytes}
    (d : KeyRotationDelta) (n' : NodeInfo) (ledger : GoMap String Time)
    (hnode : sys.live.nodes.get m = some n) (hne : d.newPublicKey ≠ "")
    (hdec : Base64.decode d.newPublicKey = some key) (hkey : n'.publicKey = key)
    (hid : d.nodeID = m) (hnot : sys.live.pubKeyIdx.get k ≠ some m)
    (hforeign : Base64.decode d.newPublicKey ≠ Base64.decode k) :
    KeyStep k sys { sys with
      live := commitKey { sys.live with consumedNonces := ledger } m n n'
        d.newPublicKey
      wal := sys.wal ++ [.keyRotation d] } := by
  have hm : ¬ Mentions k sys.live m := fun hment => hnot (h.agree m hment)
  have hnonzero : d.nodeID ≠ 0 := by
    rw [hid]
    exact (h.ids.nodes m (by simp [keyOf, hnode])).1
  have hsilent : Silent k sys.live
      (commitKey { sys.live with consumedNonces := ledger } m n n' d.newPublicKey) :=
    silent_commitKey n' ledger hnode hm (hkey ▸ hdec) hforeign
  have heffect := idEffect_commitKey sys.live hnode n' d.newPublicKey ledger
  refine ⟨h.appended (heffect.idsAllocated h.ids) (hsilent.keepsBinding h.agree)
    ⟨hnonzero, hne, by simp [hdec]⟩ ?_ ?_, fun id hid => hsilent.index.trans hid⟩
  · intro id hid
    exact hsilent.index.trans (h.recorded id (recorded_of_append hid (by simp)))
  · intro now r hr
    -- The restored node, if it is there, is not the one `k` is bound to.
    obtain ⟨r', hr', hs, he, hx⟩ : ∃ r', applyOr now r (.keyRotation d) = r' ∧
        Silent k r r' ∧ IdEffect r r' ∧ r'.nextNode = r.nextNode := by
      rw [applyOr_keyRotation hnonzero hne hdec]
      cases hget : r.nodes.get d.nodeID with
      | none => exact ⟨r, rfl, Silent.refl k r, .quiet (Quiet.refl r), rfl⟩
      | some nr =>
        have hmr : ¬ Mentions k r d.nodeID := by
          intro hment
          rw [hid] at hment
          exact hnot (hr.agree m hment)
        exact ⟨_, rfl, silent_commitKey _ r.consumedNonces hget hmr
            (by rw [replayRotation_publicKey]; exact hdec) hforeign,
          idEffect_commitKey r hget _ _ r.consumedNonces, rfl⟩
    rw [hr']
    refine ⟨he.idsAllocated hr.ids, hx.trans hr.nextNode, ?_, ?_⟩
    · intro id hment
      exact hsilent.index.trans (hr.agree id (hs.mentions id hment))
    · intro id hid' hnotin
      exact hs.index.trans (hr.kept id (recorded_of_append hid' (by simp)) fun hmem =>
        hnotin (List.mem_append_left _ hmem))

/-! ## Saving, starting, failing over -/

/-- A state that agrees with itself about `k`, just saved. -/
theorem keyInv_saved {standby : Option Server} (hids : IdsAllocated s)
    (hagree : ∀ id, Mentions k s id → s.pubKeyIdx.get k = some id)
    (hfollows : ∀ s', standby = some s' → Follows k s s') :
    KeyInv k { live := s, disk := some (save s), standby := standby } where
  ids := hids
  agree := hagree
  wellFormed := by simp
  recorded := by
    rintro id (⟨snap, hsnap, hk⟩ | ⟨d, hd, -⟩)
    · cases hsnap
      exact hk
    · cases hd
  durable := by
    intro now order hord
    have hord' : IsOrder order s.nodes := by
      refine ⟨hord.1, fun id => (hord.2 id).trans ?_⟩
      simp [diskNodes, save]
    show Durable k _ (load order (save s))
    refine ⟨idsAllocated_load_save hord' hids, load_save_nextNode order s,
      fun id hid => hagree id (mentions_load_save hord' hid), ?_⟩
    rintro id (⟨snap, hsnap, hk⟩ | ⟨d, hd, -⟩) -
    · cases hsnap
      have hk' : s.pubKeyIdx.get k = some id := hk
      refine load_save_index order hk' fun j hj => ?_
      have hbound := hagree j hj
      rw [hk', Option.some.injEq] at hbound
      exact hbound.symm
    · cases hd
  follows := hfollows

theorem KeyInv.flush (h : KeyInv k sys) : KeyInv k sys.flush :=
  keyInv_saved h.ids h.agree h.follows

/-- Creating the backbone changes no record, index or node counter. -/
theorem boot_restore (now : Time) (order : List NodeId) (disk : Option Snapshot)
    (wal : List Delta) :
    SameBindings (restore now order disk wal) (boot now order disk wal) ∧
      (boot now order disk wal).nodes = (restore now order disk wal).nodes := by
  unfold boot
  cases disk <;> exact ⟨⟨rfl, rfl, rfl⟩, rfl⟩

section

variable (h : KeyInv k sys)
include h

/-- The process starts from its disk, which still has the binding. -/
theorem KeyInv.boot_keeps (now : Time) (hord : IsOrder order (diskNodes sys.disk))
    (hdisk : ∀ id, sys.live.pubKeyIdx.get k = some id →
      Recorded k sys id ∧ Delta.deregister id ∉ sys.wal)
    (hid : sys.live.pubKeyIdx.get k = some id) :
    (boot now order sys.disk sys.wal).pubKeyIdx.get k = some id := by
  obtain ⟨hrec, hnot⟩ := hdisk id hid
  rw [(boot_restore now order sys.disk sys.wal).1.pubKeyIdx]
  exact (h.durable now order hord).kept id hrec hnot

theorem KeyInv.boot (now : Time) (hord : IsOrder order (diskNodes sys.disk))
    (hdisk : ∀ id, sys.live.pubKeyIdx.get k = some id →
      Recorded k sys id ∧ Delta.deregister id ∉ sys.wal) :
    KeyInv k { sys with live := boot now order sys.disk sys.wal } := by
  have hr := h.durable now order hord
  obtain ⟨hsame, hnodes⟩ := boot_restore now order sys.disk sys.wal
  have hquiet : Quiet (restore now order sys.disk sys.wal)
      (Recovery.boot now order sys.disk sys.wal) :=
    .of_sameBindings hsame fun j => Or.inl (keyOf_congr hnodes j)
  have hkeep : ∀ id, sys.live.pubKeyIdx.get k = some id →
      (Recovery.boot now order sys.disk sys.wal).pubKeyIdx.get k = some id :=
    fun id hid => h.boot_keeps now hord hdisk hid
  exact h.unrecorded ((IdEffect.quiet hquiet).idsAllocated hr.ids)
    (hsame.nextNode.trans hr.nextNode)
    ⟨hkeep, fun id hid => hkeep id (hr.agree id (mentions_of_quiet hquiet hid))⟩

theorem KeyInv.push (hord : IsOrder order sys.live.nodes) (old : Server) :
    KeyInv k { sys with
      standby := some (applySnapshot order old (snapshotJSON sys.live)) } where
  ids := h.ids
  agree := h.agree
  wellFormed := h.wellFormed
  recorded := h.recorded
  durable := fun now order' hord' => { h.durable now order' hord' with }
  follows := by
    intro s hs
    rw [Option.some.injEq] at hs
    subst hs
    refine ⟨idsAllocated_replica hord h.ids,
      fun id hid => h.agree id (mentions_replica hord hid), ?_⟩
    intro id n hnode hk
    have hkey := keyOf_replica order old sys.live hord id
    -- A record that spells `k` on the standby spells it on the primary.
    obtain ⟨n', hn', hpk⟩ : ∃ n', sys.live.nodes.get id = some n' ∧ n'.publicKey = n.publicKey := by
      unfold keyOf at hkey
      rw [hnode, Option.map_some, eq_comm, Option.map_eq_some_iff] at hkey
      exact hkey
    rw [← hpk] at hk
    refine replica_index hord hn' hk fun j hj => ?_
    have hj' := h.agree j hj
    rw [h.agree id (mentions_of_encode hn' hk), Option.some.injEq] at hj'
    exact hj'.symm

private theorem KeyInv.failover_keeps (hs : sys.standby = some s)
    (hfound : ∀ id, sys.live.pubKeyIdx.get k = some id →
      ∃ n, s.nodes.get id = some n ∧ Base64.encode n.publicKey = k)
    (hid : sys.live.pubKeyIdx.get k = some id) : s.pubKeyIdx.get k = some id := by
  obtain ⟨n, hnode, hk⟩ := hfound id hid
  exact (h.follows s hs).found id n hnode hk

theorem KeyInv.failover (hs : sys.standby = some s)
    (hfound : ∀ id, sys.live.pubKeyIdx.get k = some id →
      ∃ n, s.nodes.get id = some n ∧ Base64.encode n.publicKey = k) :
    KeyInv k { live := s, disk := some (save s) } := by
  have hf := h.follows s hs
  refine keyInv_saved hf.ids (fun id hid => ?_) fun _ hcontra => by cases hcontra
  exact h.failover_keeps hs hfound (hf.agree id hid)

/-! ## Steps and runs -/

private theorem keyStep_recover (hc : KeepsKey E k sys (.recoverIdentity now msg)) :
    KeyStep k sys (step E sys (.recoverIdentity now msg)) := by
  rcases handleRecoverIdentity_cases E now sys.live msg with
    ⟨ledger, e, heq⟩ | ⟨r, n, key, ledger, resp, hcheck, heq⟩
  · have hstep : step E sys (.recoverIdentity now msg) =
        { sys with live := { sys.live with consumedNonces := ledger } } := by
      simp only [step, heq]
    rw [hstep]
    have hsilent : Silent k sys.live { sys.live with consumedNonces := ledger } :=
      .of_quiet rfl fun _ => Or.inl rfl
    exact ⟨h.unrecorded ⟨h.ids.nodes, h.ids.keys, h.ids.owners⟩ rfl
      (hsilent.keepsBinding h.agree), fun _ hid => hid⟩
  · obtain ⟨hnode, hne, hkey, -⟩ := checkRecovery_ok hcheck
    obtain ⟨hnot, hforeign⟩ := hc ⟨_, congrArg Prod.snd heq⟩
    let d : KeyRotationDelta := {
      nodeID := jsonUint32 msg "node_id"
      newPublicKey := msg.str "new_public_key"
      rotatedAt := some (rfc3339 now)
      clearBadge := true }
    simp only [step, heq]
    exact h.committed d (recovered n r key now) ledger hnode hne
      (E.decodePublicKey_decode hkey) rfl rfl hnot hforeign

private theorem keyStep_rotate (hc : KeepsKey E k sys (.rotateKey now msg)) :
    KeyStep k sys (step E sys (.rotateKey now msg)) := by
  simp only [step]
  cases ho : handleRotateKey E now sys.live msg with
  | error e => exact KeyStep.refl h
  | ok o =>
    obtain ⟨key, n, hne, hkey, hnode, -, hserver, hwal⟩ := handleRotateKey_cases ho
    obtain ⟨hnot, hforeign⟩ := hc ⟨o, ho⟩
    let d : KeyRotationDelta := {
      nodeID := jsonUint32 msg "node_id"
      newPublicKey := msg.str "new_public_key"
      rotatedAt := some (rfc3339 now) }
    simp only [System.commit, hserver, hwal]
    exact h.committed d (rotated n key now) sys.live.consumedNonces hnode hne
      (E.decodePublicKey_decode hkey) rfl rfl hnot hforeign

end

/-- After a save the disk has every binding, so a clean restart keeps it. -/
theorem keyStep_restart (now : Time) (order : List NodeId) (h : KeyInv k sys) :
    KeyStep k sys (step E sys (.restart now order)) := by
  simp only [step]
  split
  · next hord =>
    have hdisk : ∀ id, sys.flush.live.pubKeyIdx.get k = some id →
        Recorded k sys.flush id ∧ Delta.deregister id ∉ sys.flush.wal := by
      intro id hid
      exact ⟨Or.inl ⟨_, rfl, hid⟩, by simp [System.flush]⟩
    exact ⟨h.flush.boot now hord hdisk, fun id hid => h.flush.boot_keeps now hord hdisk hid⟩
  · exact KeyStep.refl h

private theorem keyStep_step {e : Event} (h : KeyInv k sys) (hc : KeepsKey E k sys e) :
    KeyStep k sys (step E sys e) := by
  cases e with
  | register now order remoteAddr msg =>
    simp only [step]
    cases ho : handleRegister E now order remoteAddr sys.live msg with
    | error e => exact KeyStep.refl h
    | ok o =>
      have hkeeps := registered_keepsBinding (registered_of_ok ho) h.agree hc
      exact ⟨h.register ho hc, hkeeps.keep⟩
  | reap threshold chunk =>
    have hsilent := silent_reap k threshold chunk sys.live
    have hquiet := quiet_reap threshold chunk sys.live
    exact ⟨h.unrecorded ((IdEffect.quiet hquiet).idsAllocated h.ids)
      hquiet.nextNode (hsilent.keepsBinding h.agree),
      fun id hid => hsilent.index.trans hid⟩
  | deregister msg =>
    simp only [step]
    cases ho : handleDeregister E sys.live msg with
    | error e => exact KeyStep.refl h
    | ok o =>
      refine ⟨h.deregister ho, fun id hid => ?_⟩
      rcases deregister_cases ho with ⟨hs, -⟩ | ⟨n, -, hs, -⟩
      · simpa only [System.commit, hs] using hid
      · simp only [System.commit, hs]
        exact (silent_departNode k sys.live _ n).index.trans hid
  | rotateKey now msg => exact keyStep_rotate h hc
  | recoverIdentity now msg => exact keyStep_recover h hc
  | save => exact ⟨h.flush, fun _ hid => hid⟩
  | push order =>
    simp only [step]
    split
    · next hord => exact ⟨h.push hord _, fun _ hid => hid⟩
    · exact KeyStep.refl h
  | crash now order =>
    simp only [step]
    split
    · next hord =>
      exact ⟨h.boot now hord hc, fun id hid => h.boot_keeps now hord hc hid⟩
    · exact KeyStep.refl h
  | restart now order => exact keyStep_restart now order h
  | failover =>
    simp only [step]
    cases hs : sys.standby with
    | none => exact KeyStep.refl h
    | some s =>
      have hfound := fun id hid => hc s id hs hid
      exact ⟨h.failover hs hfound, fun id hid => h.failover_keeps hs hfound hid⟩

private theorem registered_of_answered {e : Event} (h : Answered E sys k id e) :
    ∃ o, Registered sys.live k id o ∧ (step E sys e).live = o.server := by
  cases e with
  | register now order remoteAddr msg =>
    obtain ⟨hk, hanswer⟩ := h
    cases ho : handleRegister E now order remoteAddr sys.live msg with
    | error e =>
      rw [ho] at hanswer
      cases hanswer
    | ok o =>
      rw [ho] at hanswer
      have hid : respNode o.resp = id := Option.some.inj hanswer
      rw [← hk, ← hid]
      refine ⟨o, registered_of_ok ho, ?_⟩
      simp only [step, ho, System.commit]
  | _ => exact h.elim

/-- In every run whose steps keep the binding of `k`: a key that was
answered with an id is answered with it ever after. -/
theorem key_keeps_id (E : Env) (now : Time) (k : String) (as bs : List Event)
    (a b : Event) (n n' : NodeId)
    (hmeets : Meets (step E) (KeepsKey E k) (freshSystem now) (as ++ a :: bs))
    (hfirst : Answered E (run (step E) (freshSystem now) as) k n a)
    (hlater : Answered E (run (step E) (freshSystem now) (as ++ a :: bs)) k n' b) :
    n' = n := by
  rw [meets_append] at hmeets
  obtain ⟨hbefore, ha, hafter⟩ := hmeets
  have hinv : KeyInv k (run (step E) (freshSystem now) as) :=
    hbefore.invariant (step E) (P := KeyInv k)
      (fun _ _ hc h => (keyStep_step h hc).inv) (keyInv_freshSystem k now)
  obtain ⟨o, hreg, hlive⟩ := registered_of_answered hfirst
  have hbound : (step E (run (step E) (freshSystem now) as) a).live.pubKeyIdx.get k = some n := by
    rw [hlive]
    exact hreg.binds.index
  -- The binding made by the first registration stands until the second.
  have hend : KeyInv k (run (step E) (freshSystem now) (as ++ a :: bs)) ∧
      (run (step E) (freshSystem now) (as ++ a :: bs)).live.pubKeyIdx.get k = some n := by
    rw [run_append, run_cons]
    refine hafter.invariant (step E)
      (P := fun sys => KeyInv k sys ∧ sys.live.pubKeyIdx.get k = some n) ?_
      ⟨(keyStep_step hinv ha).inv, hbound⟩
    intro sys e hc ⟨h, hn⟩
    have hstep := keyStep_step h hc
    exact ⟨hstep.inv, hstep.keep n hn⟩
  obtain ⟨o', hreg', -⟩ := registered_of_answered hlater
  rcases hreg'.binds.before with hnone | hsome
  · rw [hend.2] at hnone
    cases hnone
  · rw [hend.2, Option.some.injEq] at hsome
    exact hsome.symm

/-! ## Runs -/

/-- A registration of a key, at time one. -/
def registerEvent (publicKey : String) : Event :=
  .register 1 [] "" [("public_key", .str publicKey)]

/-- The admin deregisters node one. -/
def deregisterEvent : Event :=
  .deregister [("node_id", .num 1), ("admin_token", .str "secret")]

/-- A recorded key moves to another id without any rotation or recovery: its
node deregisters, and the process crashes before the next save. -/
theorem key_moves_after_crash :
    ¬ ∀ (E : Env) (now : Time) (k : String) (as bs : List Event) (a b : Event)
      (n n' : NodeId),
      (∀ e ∈ as ++ a :: bs, ∀ now msg, e ≠ .rotateKey now msg ∧ e ≠ .recoverIdentity now msg) →
      Answered E (run (step E) (freshSystem now) as) k n a →
      Recorded k (step E (run (step E) (freshSystem now) as) a) n →
      Answered E (run (step E) (freshSystem now) (as ++ a :: bs)) k n' b →
      n' = n := by
  intro h
  have hmoved := h .plain 0 "AAAA" [] [deregisterEvent, .crash 5 []]
    (registerEvent "AAAA") (registerEvent "AAAA") 1 2 (by
      simp [registerEvent, deregisterEvent]) (by decide)
    (Or.inr ⟨_, List.mem_singleton.mpr rfl, by decide, by decide⟩) (by decide)
  exact absurd hmoved (by decide)

theorem key_keeps_id_reaped_restarted : ∃ n', Answered .plain (run (step .plain) (freshSystem 0)
        ([] ++ registerEvent "AAAA" :: [.reap 2 [1], .restart 5 []])) "AAAA" n'
          (registerEvent "AAAA") ∧ n' = 1 :=
  ⟨1, by decide, key_keeps_id .plain 0 "AAAA" [] [.reap 2 [1], .restart 5 []]
    (registerEvent "AAAA") (registerEvent "AAAA") 1 1
    ⟨fun _ => rfl, trivial, trivial, trivial⟩ (by decide) (by decide)⟩

-- A standby does not know the key of a reaped node.
example : Answered .plain (run (step .plain) (freshSystem 0)
    [registerEvent "AAAA", .reap 2 [1], .push [], .failover]) "AAAA" 2
      (registerEvent "AAAA") := by decide

end Rendezvous.Recovery

import Rendezvous.Base.KeyTable
import Rendezvous.Identity.KeyBinding

/-!
# The key index and the stored keys

The registry stores a node's key in its record, and leads from the text of
a key to a node in its key index. The two agree as long as nothing that
gives a node a key leaves a text of another key behind, or takes the text
that led to another node (`KeysFit`). They are a `KeyTable` in which a
reclaim is a `bind` and a rotation a `rebind`.

Three things break the agreement: an owner who reclaims an id with a new
key, since the old key's text still leads to it; a rotation of a key filed
under another text than the canonical one; and a rotation to, or from, a
key another node has too.
-/

namespace Rendezvous.Identity

open Base Registry Directory

variable {msg : Msg} {o : Outcome}

/-- The keys of the registered nodes, and the key index. -/
def keyTable (s : Server) : KeyTable NodeId String Bytes where
  keys := s.nodes.mapVals fun _ => NodeInfo.publicKey
  index := s.pubKeyIdx

@[simp] theorem keyTable_keys_get (s : Server) (id : NodeId) :
    (keyTable s).keys.get id = keyOf s id := by
  simp [keyTable, keyOf]

theorem keyTable_eq {s : Server} {t : KeyTable NodeId String Bytes}
    (hkeys : ∀ id, keyOf s id = t.keys.get id) (hindex : s.pubKeyIdx = t.index) :
    keyTable s = t := by
  apply KeyTable.ext
  · ext1 id
    rw [keyTable_keys_get, hkeys]
  · exact hindex

/-! ## Agreement -/

/-- Every text that leads to a registered node is one of the node's key,
every registered node is led to by a text of its key, and a registration
answered with the id of a registered node has that node's key. -/
structure KeysAgree (E : Env) (s : Server) : Prop where
  decodes : ∀ text id n, s.pubKeyIdx.get text = some id →
    s.nodes.get id = some n → E.decodePublicKey text = some n.publicKey
  filed : ∀ id n, s.nodes.get id = some n → ∃ text, E.decodePublicKey text = some n.publicKey ∧
      s.pubKeyIdx.get text = some id
  authentic : ∀ now order remoteAddr msg o n, handleRegister E now order remoteAddr s msg = .ok o →
    s.nodes.get (respNode o.resp) = some n →
    E.decodePublicKey (msg.str "public_key") = some n.publicKey

theorem keysAgree_iff {E : Env} {s : Server} (hids : IdsAllocated s) :
    KeysAgree E s ↔ (keyTable s).Sound E.decodePublicKey := by
  have hkeys : ∀ id key, keyOf s id = some key ↔
      ∃ n, s.nodes.get id = some n ∧ n.publicKey = key := by
    intro id key
    exact Option.map_eq_some_iff
  constructor
  · intro h
    constructor
    · intro text id key htext hkey
      rw [keyTable_keys_get, hkeys] at hkey
      obtain ⟨n, hn, rfl⟩ := hkey
      exact h.decodes text id n htext hn
    · intro id key hkey
      rw [keyTable_keys_get, hkeys] at hkey
      obtain ⟨n, hn, rfl⟩ := hkey
      obtain ⟨text, -, htext⟩ := h.filed id n hn
      exact ⟨text, htext⟩
  · intro h
    have hdecodes : ∀ text id n, s.pubKeyIdx.get text = some id →
        s.nodes.get id = some n → E.decodePublicKey text = some n.publicKey := by
      intro text id n htext hn
      apply h.decodes text id n.publicKey htext
      rw [keyTable_keys_get, hkeys]
      exact ⟨n, hn, rfl⟩
    refine ⟨hdecodes, fun id n hn => ?_, ?_⟩
    · have hkey : (keyTable s).keys.get id = some n.publicKey := by
        rw [keyTable_keys_get, hkeys]
        exact ⟨n, hn, rfl⟩
      obtain ⟨text, htext⟩ := h.filed id n.publicKey hkey
      exact ⟨text, hdecodes text id n htext hn, htext⟩
    · intro now order remoteAddr msg o n ho hn
      obtain ⟨req, key, o', htext, -, -, -, hbranch, -⟩ := handleRegister_branch ho
      rw [htext]
      -- Only a known key is answered with the id of a registered node.
      generalize respNode o.resp = id at hbranch hn
      cases hbranch with
      | known _ m hidx hnode => exact hdecodes _ _ n hidx hn
      | byKey _ hidx hgone | byOwner _ hidx hne hown hgone =>
        rw [hgone] at hn
        cases hn
      | new _ hidx hown hfree hnew =>
        have halloc := hids.nodes s.nextNode (by simp [keyOf, hn])
        rcases halloc.2 with hzero | hlt
        · exact absurd hzero hfree
        · exact absurd hlt (UInt32.lt_irrefl _)

/-! ## What each step does to the table -/

theorem deregister_pubKeyIdx {E : Env} {s : Server} (h : handleDeregister E s msg = .ok o) :
    o.server.pubKeyIdx = s.pubKeyIdx := by
  rcases deregister_cases h with ⟨hserver, -⟩ | ⟨n, -, hserver, -⟩
  · rw [hserver]
  · rw [hserver]
    exact (sameBindings_departNode s _ n).pubKeyIdx

theorem enrollRecovery_pubKeyIdx {E : Env} {s : Server} (h : handleEnrollRecovery E s msg = .ok o) :
    o.server.pubKeyIdx = s.pubKeyIdx := by
  simp only [handleEnrollRecovery, bind_eq_ok, pure_eq_ok] at h
  obtain ⟨_, _, e, _, _, _, _, _, rfl⟩ := h
  rfl

/-- The node may take the key of `text`: every text that leads to it, but the
canonical one of its old key, is one of the new key; and every other
registered node is led to by a text that is neither of the two. -/
def MayMove (E : Env) (s : Server) (id : NodeId) (text : String) : Prop :=
  ∀ n key, s.nodes.get id = some n → E.decodePublicKey text = some key →
    (∀ text', s.pubKeyIdx.get text' = some id →
      text' ≠ Base64.encode n.publicKey → E.decodePublicKey text' = some key) ∧
    ∀ j m, s.nodes.get j = some m → j ≠ id → ∃ text', s.pubKeyIdx.get text' = some j ∧
        text' ≠ Base64.encode n.publicKey ∧ text' ≠ text

/-- An accepted registration that reclaims an id finds only texts of its own
key leading there; an accepted rotation or recovery may move the key. -/
def KeysFit (E : Env) (s : Server) : Op → Prop
  | .register now order remoteAddr msg =>
    ∀ o id key, handleRegister E now order remoteAddr s msg = .ok o →
      Reclaims s id msg → E.decodePublicKey (msg.str "public_key") = some key →
      ∀ text, s.pubKeyIdx.get text = some id → E.decodePublicKey text = some key
  | .rotateKey now msg =>
    ∀ o, handleRotateKey E now s msg = .ok o →
      MayMove E s (jsonUint32 msg "node_id") (msg.str "new_public_key")
  | .recoverIdentity now msg =>
    ∀ answer, (handleRecoverIdentity E now s msg).2 = .ok answer →
      MayMove E s (jsonUint32 msg "node_id") (msg.str "new_public_key")
  | _ => True

section steps

variable {E : Env} {s : Server} (h : (keyTable s).Sound E.decodePublicKey)
include h

theorem sound_quiet {s' : Server} (hquiet : Quiet s s')
    (hindex : s'.pubKeyIdx = s.pubKeyIdx) :
    (keyTable s').Sound E.decodePublicKey := by
  refine h.fewer (fun id key hkey => ?_) hindex
  rw [keyTable_keys_get] at hkey ⊢
  rcases hquiet.nodes id with heq | hnone
  · rw [← heq, hkey]
  · rw [hnone] at hkey
    cases hkey

/-- A node that comes back under a text of the index, or under one that is
not there. -/
theorem sound_bound_iff {s' : Server} {id : NodeId} {text : String} {key : Bytes}
    (hdecode : E.decodePublicKey text = some key)
    (hfree : s.pubKeyIdx.get text = none ∨ s.pubKeyIdx.get text = some id)
    (hkeys : ∀ j, keyOf s' j = if j = id then some key else keyOf s j)
    (hindex : s'.pubKeyIdx = s.pubKeyIdx.set text id) :
    (keyTable s').Sound E.decodePublicKey ↔ ∀ text', s.pubKeyIdx.get text' = some id →
        E.decodePublicKey text' = some key := by
  have htable : keyTable s' = (keyTable s).bind id text key := by
    apply keyTable_eq
    · intro j
      rw [hkeys]
      show _ = ((keyTable s).keys.set id key).get j
      rw [GoMap.get_set, keyTable_keys_get]
    · exact hindex
  rw [htable]
  exact h.bind_iff hdecode hfree

theorem sound_commitKey_iff {id : NodeId} {n n' : NodeInfo} {text : String}
    (ledger : GoMap String Time) (hn : s.nodes.get id = some n)
    (hdecode : E.decodePublicKey text = some n'.publicKey) :
    (keyTable (commitKey { s with consumedNonces := ledger } id n n' text)).Sound
        E.decodePublicKey ↔ MayMove E s id text := by
  have htable : keyTable (commitKey { s with consumedNonces := ledger } id n n' text) =
      (keyTable s).rebind id (Base64.encode n.publicKey) text n'.publicKey := by
    apply keyTable_eq
    · intro j
      rw [keyOf_commitKey]
      show _ = ((keyTable s).keys.set id n'.publicKey).get j
      rw [GoMap.get_set, keyTable_keys_get]
      rfl
    · rfl
  rw [htable, h.rebind_iff hdecode]
  have hothers : (∀ j key', (keyTable s).keys.get j = some key' → j ≠ id →
      ∃ text', (keyTable s).index.get text' = some j ∧
        text' ≠ Base64.encode n.publicKey ∧ text' ≠ text) ↔
      ∀ j m, s.nodes.get j = some m → j ≠ id → ∃ text', s.pubKeyIdx.get text' = some j ∧
          text' ≠ Base64.encode n.publicKey ∧ text' ≠ text := by
    constructor
    · intro hall j m hm hj
      exact hall j m.publicKey (by simp [keyOf, hm]) hj
    · intro hall j key' hkey' hj
      rw [keyTable_keys_get] at hkey'
      obtain ⟨m, hm, -⟩ := Option.map_eq_some_iff.mp hkey'
      exact hall j m hm hj
  rw [hothers]
  constructor
  · rintro hboth n₁ key₁ hn₁ hkey₁
    rw [hn, Option.some.injEq] at hn₁
    rw [hdecode, Option.some.injEq] at hkey₁
    subst hn₁
    subst hkey₁
    exact hboth
  · intro hmove
    exact hmove n n'.publicKey hn hdecode

theorem sound_serverAfter {x : Except String Outcome}
    (hok : ∀ o, x = .ok o → Quiet s o.server ∧ o.server.pubKeyIdx = s.pubKeyIdx) :
    (keyTable (serverAfter s x)).Sound E.decodePublicKey := by
  cases x with
  | error e => exact h
  | ok o => exact sound_quiet h (hok o rfl).1 (hok o rfl).2

theorem sound_register_iff (hids : IdsAllocated s) {now : Time} {order : List NetId}
    {remoteAddr : String} (ho : handleRegister E now order remoteAddr s msg = .ok o) :
    (keyTable o.server).Sound E.decodePublicKey ↔
      KeysFit E s (.register now order remoteAddr msg) := by
  obtain ⟨req, key, o', htext, -, howner, hkey, hbranch, -, htop⟩ := handleRegister_branch ho
  have htable : keyTable o.server = keyTable o'.server := by
    refine htop.same keyTable fun s id ext => keyTable_eq (fun j => ?_) rfl
    rw [keyOf_setExternalID, keyTable_keys_get]
  have hfit : KeysFit E s (.register now order remoteAddr msg) ↔
      ∀ id, Reclaims s id msg → ∀ text, s.pubKeyIdx.get text = some id →
        E.decodePublicKey text = some key := by
    constructor
    · intro hfit id hreclaims
      exact hfit o id key ho hreclaims (by rw [htext, hkey])
    · intro hfit o₁ id key₁ _ hreclaims hkey₁
      rw [htext, hkey, Option.some.injEq] at hkey₁
      subst hkey₁
      exact hfit id hreclaims
  rw [htable, hfit]
  unfold Reclaims
  rw [htext, howner]
  generalize respNode o.resp = id at hbranch
  cases hbranch with
  | known _ n hidx hnode =>
    have hsame : (keyTable (refreshKnown E now s req id n).server).Sound
        E.decodePublicKey := by
      refine h.fewer (fun j k hk => ?_) (refreshKnown_pubKeyIdx E now s req id n)
      rwa [keyTable_keys_get, keyOf_refreshKnown E now s req hnode, ← keyTable_keys_get] at hk
    refine iff_of_true hsame fun id' hreclaims => ?_
    rcases hreclaims with ⟨hgone, hidx' | ⟨hidx', -⟩⟩
    · rw [hidx, Option.some.injEq] at hidx'
      rw [← hidx', hnode] at hgone
      cases hgone
    · rw [hidx] at hidx'
      cases hidx'
  | byKey _ hidx hgone =>
    obtain ⟨hpk, -, -⟩ := reclaimByKey_indices E now order s req id key
    have hset : s.pubKeyIdx.set req.publicKey id = s.pubKeyIdx :=
      GoMap.set_get_self _ hidx
    rw [sound_bound_iff h hkey (Or.inr hidx)
      (keyOf_reclaimByKey E now order s req id key) (by rw [hset]; exact hpk)]
    constructor
    · rintro hall id' ⟨-, hidx' | ⟨hidx', -⟩⟩
      · rw [hidx, Option.some.injEq] at hidx'
        rw [← hidx']
        exact hall
      · rw [hidx] at hidx'
        cases hidx'
    · intro hall
      exact hall id ⟨hgone, Or.inl hidx⟩
  | byOwner _ hidx hne hown hgone =>
    obtain ⟨hpk, -, -⟩ := reclaimByOwner_indices E now s req id key
    rw [sound_bound_iff h hkey (Or.inl hidx)
      (keyOf_reclaimByOwner E now s req id key) hpk]
    constructor
    · rintro hall id' ⟨-, hidx' | ⟨-, -, hown'⟩⟩
      · rw [hidx] at hidx'
        cases hidx'
      · rw [hown, Option.some.injEq] at hown'
        rw [← hown']
        exact hall
    · intro hall
      exact hall id ⟨hgone, Or.inr ⟨hidx, hne, hown⟩⟩
  | new _ hidx hown hfree hnew =>
    obtain ⟨hpk, -, -⟩ := registerNew_indices hnew
    rw [sound_bound_iff h hkey (Or.inl hidx) (keyOf_registerNew hnew) hpk]
    refine iff_of_true (fun text htext' => ?_) fun id' hreclaims => ?_
    · -- No text leads to an id that has not been handed out.
      rcases (hids.keys text _ htext').2 with hzero | hlt
      · exact absurd hzero hfree
      · exact absurd hlt (UInt32.lt_irrefl _)
    · rcases hreclaims with ⟨-, hidx' | ⟨-, hne, hown'⟩⟩
      · rw [hidx] at hidx'
        cases hidx'
      · rw [hown hne] at hown'
        cases hown'

/-- A step keeps the table sound exactly when it fits. -/
theorem sound_step_iff (hids : IdsAllocated s) (op : Op) :
    (keyTable (step E s op)).Sound E.decodePublicKey ↔ KeysFit E s op := by
  cases op with
  | register now order remoteAddr msg =>
    cases ho : handleRegister E now order remoteAddr s msg with
    | error e =>
      simp only [step, ho, serverAfter]
      refine iff_of_true h fun o id key ho' => ?_
      rw [ho] at ho'
      cases ho'
    | ok o =>
      simp only [step, ho, serverAfter]
      exact sound_register_iff h hids ho
  | reap threshold chunk =>
    exact iff_of_true (sound_quiet h (quiet_reap threshold chunk s)
      (sameBindings_reapStaleNodes threshold chunk s).pubKeyIdx) trivial
  | deregister msg =>
    refine iff_of_true (sound_serverAfter h fun o ho => ?_) trivial
    exact ⟨quiet_deregister ho, deregister_pubKeyIdx ho⟩
  | enrollRecovery msg =>
    refine iff_of_true (sound_serverAfter h fun o ho => ?_) trivial
    exact ⟨quiet_enrollRecovery ho, enrollRecovery_pubKeyIdx ho⟩
  | rotateKey now msg =>
    cases ho : handleRotateKey E now s msg with
    | error e =>
      simp only [step, ho, serverAfter]
      refine iff_of_true h fun o ho' => ?_
      rw [ho] at ho'
      cases ho'
    | ok o =>
      obtain ⟨key, n, -, hkey, hn, -, hserver, -⟩ := handleRotateKey_cases ho
      simp only [step, ho, serverAfter, hserver]
      refine (sound_commitKey_iff h s.consumedNonces hn ?_).trans ?_
      · exact hkey
      · exact ⟨fun hmove _ _ => hmove, fun hfit => hfit o ho⟩
  | recoverIdentity now msg =>
    rcases handleRecoverIdentity_cases E now s msg with
      ⟨ledger, e, heq⟩ | ⟨r, n, key, ledger, resp, hcheck, heq⟩
    · simp only [step, heq]
      refine iff_of_true h fun answer hanswer => ?_
      rw [heq] at hanswer
      cases hanswer
    · obtain ⟨hn, -, hkey, -⟩ := checkRecovery_ok hcheck
      simp only [step, heq]
      refine (sound_commitKey_iff h ledger hn ?_).trans ?_
      · exact hkey
      · exact ⟨fun hmove _ _ => hmove, fun hfit => hfit _ (by rw [heq])⟩

end steps

/-- In every run from a fresh registry: the key index and the stored keys
agree in every state reached exactly when every step fits. -/
theorem keysAgree_run_iff (E : Env) (now : Time) (ops : List Op) :
    (∀ xs, xs <+: ops → KeysAgree E (run (step E) (freshServer now) xs)) ↔
      Meets (step E) (KeysFit E) (freshServer now) ops := by
  have hids := fun xs => idsAllocated_run E now xs
  constructor
  · intro h
    rw [meets_iff]
    rintro xs op ys rfl
    have hbefore := (keysAgree_iff (hids xs)).mp (h xs (List.prefix_append _ _))
    have hafter := h (xs ++ [op]) ⟨ys, by simp⟩
    rw [keysAgree_iff (hids _), run_append] at hafter
    exact (sound_step_iff hbefore (hids xs) op).mp hafter
  · intro h xs hxs
    rw [keysAgree_iff (hids xs)]
    have hinv := (h.initial (step E) hxs).invariant (step E)
      (P := fun s => IdsAllocated s ∧ (keyTable s).Sound E.decodePublicKey)
    refine (hinv (fun s op hfit hs => ?_) ⟨idsAllocated_freshServer now, ?_⟩).2
    · exact ⟨(idEffect_step E s op).idsAllocated hs.1, (sound_step_iff hs.2 hs.1 op).mpr hfit⟩
    · constructor
      · intro text id key htext
        cases htext
      · intro id key hkey
        cases hkey

/-- After an owner reclaimed the id of its reaped node with a new key, the
old key's text still leads there, and a registration with the old key is
accepted for the node that has the new one. -/
theorem old_key_registers :
    let s := run (step .plain) (freshServer 0) (firstRegistration ++ reapedThenReclaimed)
    s.pubKeyIdx.get "AAAA" = some 1 ∧ keyOf s 1 = some [4, 16, 65] ∧
      Env.plain.decodePublicKey "AAAA" = some [0, 0, 0] ∧
      (∃ o, handleRegister .plain 4 [] "" s (registerMsg "AAAA" "alice") = .ok o ∧
        respNode o.resp = 1) ∧
      ¬ KeysAgree .plain s := by
  intro s
  have hidx : s.pubKeyIdx.get "AAAA" = some 1 := by decide
  have hkey : keyOf s 1 = some [4, 16, 65] := by decide
  have hdecode : Env.plain.decodePublicKey "AAAA" = some [0, 0, 0] := by decide
  refine ⟨hidx, hkey, hdecode, ?_, fun hagree => ?_⟩
  · refine ⟨_, rfl, ?_⟩
    decide
  · obtain ⟨n, hn, hpk⟩ := Option.map_eq_some_iff.mp hkey
    have hsame := hagree.decodes "AAAA" 1 n hidx hn
    rw [hdecode, hpk] at hsame
    exact absurd hsame (by decide)

end Rendezvous.Identity

import Rendezvous.Identity.Allocation
import Rendezvous.Wal.Apply

/-!
# Key changes of one node at once

`rotate_key` and `recover_identity` change a node's key in steps, each under
a lock of its own: the request is checked, the key is committed to the
record, the key index is updated, and the delta is appended to the log.
Requests on the same node may take these steps in any order between them.

The commits are put in an order by tickets. The index ends up right when it
is updated in that order, and the log when nothing is appended after the
delta of the newest commit.
-/

namespace Rendezvous.Recovery

open Base Registry Authz Directory Identity Wal

variable {msg : Msg} {n : NodeInfo} {now : Time}

/-! ## Checked requests -/

/-- A request that passed its checks: the new key and its text, the time,
and the key a rotation was checked under. A recovery has none. -/
structure KeyChange (E : Env) where
  text : String
  key : Bytes
  now : Time
  expected : Option Bytes
  nonempty : text ≠ ""
  decodes : E.decodePublicKey text = some key

variable {E : Env}

/-- The record after the commit: `UpdateNodeKey` or `ForceRotateKey`. -/
def KeyChange.record (c : KeyChange E) (n : NodeInfo) : NodeInfo :=
  match c.expected with
  | some _ => rotated n c.key c.now
  | none => clearBadge (rotated n c.key c.now)

/-- The delta the request records. A recovery takes the time again. -/
def KeyChange.delta (c : KeyChange E) (id : NodeId) (now : Time) : KeyRotationDelta where
  nodeID := id
  newPublicKey := c.text
  rotatedAt := some (rfc3339 (match c.expected with
    | some _ => c.now
    | none => now))
  clearBadge := c.expected.isNone

@[simp] theorem KeyChange.record_publicKey (c : KeyChange E) (n : NodeInfo) :
    (c.record n).publicKey = c.key := by
  unfold KeyChange.record
  split <;> rfl

/-! ## The machine -/

/-- A change that is committed and has not returned: the canonical text of
the key it replaced, and its place among the commits. -/
structure Turn (E : Env) where
  change : KeyChange E
  old : String
  ticket : Nat

/-- Memory and the log, and the requests under way: checked, committed, and
with the index updated. `text` is the text of the newest commit. -/
structure Changes (E : Env) where
  live : Server
  text : String
  log : List Delta := []
  tickets : Nat := 0
  checked : List (KeyChange E) := []
  committed : List (Turn E) := []
  indexed : List (Turn E) := []

/-- All requests have returned. -/
def Changes.Idle (st : Changes E) : Prop :=
  st.checked = [] ∧ st.committed = [] ∧ st.indexed = []

/-- What may happen next. Requests under way are named by their position. -/
inductive Changes.Action where
  | rotate (now : Time) (msg : Msg)
  | recover (now : Time) (msg : Msg)
  | commit (i : Nat)
  | index (i : Nat)
  | append (i : Nat) (now : Time)

/-- A rotation request on the node is checked. -/
def Changes.rotate (st : Changes E) (id : NodeId) (now : Time) (msg : Msg) : Changes E :=
  match h : checkRotation E st.live msg with
  | .ok (n, key) =>
    if jsonUint32 msg "node_id" = id then { st with
      checked := st.checked ++ [{
        text := msg.str "new_public_key"
        key := key
        now := now
        expected := some n.publicKey
        nonempty := (checkRotation_ok h).2.1
        decodes := (checkRotation_ok h).2.2.1 }] }
    else st
  | .error _ => st

/-- The nonce of a recovery is used up, in the ledger and in the record. -/
def useNonce (s : Server) (id : NodeId) (ledger : GoMap String Time) (r : Recovery) : Server :=
  { s with
    consumedNonces := ledger
    nodes := s.nodes.modify id fun n =>
      { n with
        recoveryConsumedNonce := r.nonce
        recoveryConsumedExp := r.exp * second } }

/-- A recovery request on the node is checked, and its nonce used up. -/
def Changes.recover (st : Changes E) (id : NodeId) (now : Time) (msg : Msg) : Changes E :=
  match h : checkRecovery E now st.live msg with
  | .ok (r, n, key) =>
    let (ledger, fresh) := consumeNonce now st.live.consumedNonces r
    if jsonUint32 msg "node_id" ≠ id then st
    else if !fresh || (r.nonce ≠ "" && n.recoveryConsumedNonce = r.nonce) then
      { st with live := { st.live with consumedNonces := ledger } }
    else { st with
      live := useNonce st.live id ledger r
      checked := st.checked ++ [{
        text := msg.str "new_public_key"
        key := key
        now := now
        expected := none
        nonempty := (checkRecovery_ok h).2.1
        decodes := (checkRecovery_ok h).2.2.1 }] }
  | .error _ => st

/-- A checked request commits its key, unless the node is gone or has
another key than the request was checked under. -/
def Changes.commit (st : Changes E) (id : NodeId) (i : Nat) (c : KeyChange E) : Changes E :=
  let rest := { st with checked := st.checked.eraseIdx i }
  match st.live.nodes.get id with
  | none => rest
  | some n =>
    if c.expected.all fun key => n.publicKey = key then { rest with
      live := { st.live with nodes := st.live.nodes.set id (c.record n) }
      text := c.text
      tickets := st.tickets + 1
      committed := st.committed ++ [{
        change := c
        old := Base64.encode n.publicKey
        ticket := st.tickets + 1 }] }
    else rest

/-- One step. What cannot happen changes nothing. -/
def Changes.step (id : NodeId) (st : Changes E) : Changes.Action → Changes E
  | .rotate now msg => st.rotate id now msg
  | .recover now msg => st.recover id now msg
  | .commit i =>
    match st.checked[i]? with
    | some c => st.commit id i c
    | none => st
  | .index i =>
    match st.committed[i]? with
    | some t => { st with
        live := onKeyRotated st.live id t.old t.change.text
        committed := st.committed.eraseIdx i
        indexed := st.indexed ++ [t] }
    | none => st
  | .append i now =>
    match st.indexed[i]? with
    | some t => { st with
        log := st.log ++ [.keyRotation (t.change.delta id now)]
        indexed := st.indexed.eraseIdx i }
    | none => st

/-- What a step does to keys, index and log. Everything else only changes
which requests are checked and which nonces are used. -/
inductive Changes.Stepped (id : NodeId) (st : Changes E) : Changes.Action → Changes E → Prop where
  | other {a : Changes.Action} (live : Server) (checked : List (KeyChange E))
      (hkeys : ∀ j, keyOf live j = keyOf st.live j)
      (hindex : live.pubKeyIdx = st.live.pubKeyIdx) :
      st.Stepped id a { st with live := live, checked := checked }
  | commit {i : Nat} {c : KeyChange E} {n : NodeInfo} (checked : List (KeyChange E))
      (hget : st.checked[i]? = some c) (hn : st.live.nodes.get id = some n)
      (hkey : c.expected.all (fun key => n.publicKey = key) = true) :
      st.Stepped id (.commit i) { st with
        live := { st.live with nodes := st.live.nodes.set id (c.record n) }
        text := c.text
        tickets := st.tickets + 1
        checked := checked
        committed := st.committed ++ [{
          change := c
          old := Base64.encode n.publicKey
          ticket := st.tickets + 1 }] }
  | index {i : Nat} {t : Turn E} (hget : st.committed[i]? = some t) :
      st.Stepped id (.index i) { st with
        live := onKeyRotated st.live id t.old t.change.text
        committed := st.committed.eraseIdx i
        indexed := st.indexed ++ [t] }
  | append {i : Nat} {t : Turn E} (now : Time) (hget : st.indexed[i]? = some t) :
      st.Stepped id (.append i now) { st with
        log := st.log ++ [.keyRotation (t.change.delta id now)]
        indexed := st.indexed.eraseIdx i }

section

variable (id : NodeId) (st : Changes E) (now : Time) (msg : Msg) (a : Changes.Action)

theorem Changes.Stepped.same : st.Stepped id a st :=
  .other st.live st.checked (fun _ => rfl) rfl

theorem Changes.rotate_stepped : st.Stepped id (.rotate now msg) (st.rotate id now msg) := by
  unfold Changes.rotate
  split
  · split
    · exact .other st.live _ (fun _ => rfl) rfl
    · exact .same id st _
  · exact .same id st _

theorem keyOf_useNonce (s : Server) (id : NodeId) (ledger : GoMap String Time)
    (r : Recovery) (j : NodeId) : keyOf (useNonce s id ledger r) j = keyOf s j := by
  unfold keyOf useNonce
  rw [GoMap.get_modify]
  split
  · next hj => rw [hj, Option.map_map]; rfl
  · rfl

theorem Changes.recover_stepped : st.Stepped id (.recover now msg) (st.recover id now msg) := by
  unfold Changes.recover
  split
  · next r n key hcheck =>
    dsimp only
    split
    · exact .same id st _
    · split
      · exact .other _ st.checked (fun _ => rfl) rfl
      · exact .other _ _ (keyOf_useNonce st.live id _ r) rfl
  · exact .same id st _

theorem Changes.commit_stepped {i : Nat} {c : KeyChange E} (hget : st.checked[i]? = some c) :
    st.Stepped id (.commit i) (st.commit id i c) := by
  unfold Changes.commit
  cases hn : st.live.nodes.get id with
  | none => exact .other st.live _ (fun _ => rfl) rfl
  | some n =>
    dsimp only
    split
    · next hkey => exact .commit _ hget hn hkey
    · exact .other st.live _ (fun _ => rfl) rfl

theorem Changes.step_stepped : st.Stepped id a (st.step id a) := by
  cases a with
  | rotate now msg => exact Changes.rotate_stepped id st now msg
  | recover now msg => exact Changes.recover_stepped id st now msg
  | commit i =>
    cases hget : st.checked[i]? with
    | none => simpa only [Changes.step, hget] using Stepped.same id st _
    | some c => simpa only [Changes.step, hget] using Changes.commit_stepped id st hget
  | index i =>
    cases hget : st.committed[i]? with
    | none => simpa only [Changes.step, hget] using Stepped.same id st _
    | some t => simpa only [Changes.step, hget] using Stepped.index hget
  | append i now =>
    cases hget : st.indexed[i]? with
    | none => simpa only [Changes.step, hget] using Stepped.same id st _
    | some t => simpa only [Changes.step, hget] using Stepped.append now hget

end

/-! ## In turn -/

/-- A key is committed over a text that is the canonical one of the key it
replaces, or the new one; the index is updated for the oldest commit first;
and nothing is appended after the delta of the newest commit. -/
def Changes.InTurn (id : NodeId) (st : Changes E) : Changes.Action → Prop
  | .commit i => ∀ c n, st.checked[i]? = some c → st.live.nodes.get id = some n →
      c.expected.all (fun key => n.publicKey = key) = true →
      st.text = Base64.encode n.publicKey ∨ st.text = c.text
  | .index i => ∀ t, st.committed[i]? = some t → i = 0
  | .append i _ => ∀ t, st.indexed[i]? = some t →
      ∃ t' ∈ st.committed ++ st.indexed, t'.ticket = st.tickets
  | _ => True

/-- The updates still to come lead from the text `x` to the text `y`: each
takes the text before it out of the index, or sets it again. -/
def Chain : String → List (Turn E) → String → Prop
  | x, [], y => x = y
  | x, t :: ts, y => (t.old = x ∨ t.change.text = x) ∧ Chain t.change.text ts y

theorem Chain.append {x y : String} {ts : List (Turn E)} (h : Chain x ts y)
    {t : Turn E} (ht : t.old = y ∨ t.change.text = y) :
    Chain x (ts ++ [t]) t.change.text := by
  induction ts generalizing x with
  | nil =>
    have hxy : x = y := h
    rw [hxy]
    exact ⟨ht, rfl⟩
  | cons u ts ih => exact ⟨h.1, ih h.2⟩

/-- The one text that leads to the node, after an update of the chain. -/
theorem only_after_update {s : Server} {id : NodeId} {x : String}
    (honly : ∀ text, s.pubKeyIdx.get text = some id ↔ text = x) {t : Turn E}
    (ht : t.old = x ∨ t.change.text = x) (text : String) :
    (onKeyRotated s id t.old t.change.text).pubKeyIdx.get text = some id ↔
      text = t.change.text := by
  show ((s.pubKeyIdx.del t.old).set t.change.text id).get text = some id ↔ _
  rw [GoMap.get_set, GoMap.get_del]
  by_cases htext : text = t.change.text
  · simp [htext]
  · rw [if_neg htext]
    refine iff_of_false (fun hget => ?_) htext
    by_cases hold : text = t.old
    · rw [if_pos hold] at hget
      cases hget
    · rw [if_neg hold] at hget
      rcases ht with hx | hx
      · exact hold (((honly text).mp hget).trans hx.symm)
      · exact htext (((honly text).mp hget).trans hx.symm)

/-! ## Along a run -/

/-- A request on its way through a run from `s`. -/
def Changes.started (s : Server) (text : String) : Changes E where
  live := s
  text := text

/-- A request that still has to append its delta. -/
def Changes.Waits (st : Changes E) (t : Turn E) : Prop :=
  t ∈ st.committed ∨ t ∈ st.indexed

/-- What holds along a run in turn from `s`. -/
structure Changes.Settling (id : NodeId) (s : Server) (st : Changes E) : Prop where
  /-- The node has the key of the newest commit. -/
  key : ∃ key, keyOf st.live id = some key ∧ E.decodePublicKey st.text = some key
  /-- One text leads to the node, and the updates to come lead on to the text
  of the newest commit. -/
  index : ∃ x, (∀ text, st.live.pubKeyIdx.get text = some id ↔ text = x) ∧
    Chain x st.committed st.text
  tickets : ∀ t, st.Waits t → t.ticket ≤ st.tickets
  newest : ∀ t, st.Waits t → t.ticket = st.tickets → keyOf st.live id = some t.change.key
  wellFormed : ∀ d ∈ st.log, WellFormed d
  replays : ∀ now, keyOf (replay now s st.log) id ≠ none
  /-- The log has the newest commit, or is still to get it. -/
  recorded : (∃ t, st.Waits t ∧ t.ticket = st.tickets) ∨
    ∀ now, keyOf (replay now s st.log) id = keyOf st.live id

theorem wellFormed_delta {id : NodeId} (hid : id ≠ 0) (c : KeyChange E) (now : Time) :
    WellFormed (.keyRotation (c.delta id now)) := by
  refine ⟨hid, c.nonempty, ?_⟩
  show (Base64.decode c.text).isSome = true
  rw [E.decodePublicKey_decode c.decodes]
  rfl

/-- Replaying one more delta of the node gives it the delta's key. -/
theorem keyOf_replay_delta {id : NodeId} (hid : id ≠ 0) {s : Server} {log : List Delta}
    (hlog : ∀ d ∈ log, WellFormed d) (c : KeyChange E) (now t : Time)
    (hthere : keyOf (replay now s log) id ≠ none) :
    keyOf (replay now s (log ++ [.keyRotation (c.delta id t)])) id = some c.key := by
  have hdec : Base64.decode (c.delta id t).newPublicKey = some c.key :=
    E.decodePublicKey_decode c.decodes
  have hd := applyDelta_wellFormed now (replay now s log) (wellFormed_delta hid c t)
  obtain ⟨n, hn⟩ : ∃ n, (replay now s log).nodes.get id = some n := by
    apply Option.ne_none_iff_exists'.mp
    intro hnone
    exact hthere (by simp [keyOf, hnone])
  rw [replay_append hlog]
  simp only [replay, hd]
  rw [applyOr_keyRotation hid c.nonempty hdec]
  have hget : (replay now s log).nodes.get (c.delta id t).nodeID = some n := hn
  rw [hget, keyOf_commitKey]
  show (if id = id then _ else _) = _
  rw [if_pos rfl]
  unfold replayRotation
  dsimp only
  split <;> rfl

theorem Changes.settling_started {id : NodeId} {s : Server} {text : String}
    (hn : s.nodes.get id = some n) (hdecode : E.decodePublicKey text = some n.publicKey)
    (honly : ∀ text', s.pubKeyIdx.get text' = some id ↔ text' = text) :
    (Changes.started (E := E) s text).Settling id s := by
  have hkey : keyOf s id = some n.publicKey := by simp [keyOf, hn]
  have hnone : ∀ t, ¬ (Changes.started (E := E) s text).Waits t := by
    rintro t (ht | ht)
    · cases ht
    · cases ht
  exact {
    key := ⟨n.publicKey, hkey, hdecode⟩
    index := ⟨text, honly, rfl⟩
    tickets := fun t ht => absurd ht (hnone t)
    newest := fun t ht => absurd ht (hnone t)
    wellFormed := fun d hd => by cases hd
    replays := fun now => by
      show keyOf s id ≠ none
      rw [hkey]
      simp
    recorded := Or.inr fun now => rfl }

section steps

variable {id : NodeId} {s : Server} {st : Changes E} (h : st.Settling id s)
include h

theorem Changes.Settling.commit {t : Turn E} (checked : List (KeyChange E))
    (hticket : t.ticket = st.tickets + 1) (htext : st.text = t.old ∨ st.text = t.change.text) :
    Changes.Settling id s { st with
      live := { st.live with nodes := st.live.nodes.set id (t.change.record n) }
      text := t.change.text
      tickets := st.tickets + 1
      checked := checked
      committed := st.committed ++ [t] } := by
  have hkey : keyOf { st.live with nodes := st.live.nodes.set id (t.change.record n) } id =
      some t.change.key := by
    rw [keyOf_set_nodes, if_pos rfl, KeyChange.record_publicKey]
  have hwaits : ∀ u, u ∈ st.committed ++ [t] ∨ u ∈ st.indexed → st.Waits u ∨ u = t := by
    rintro u (hu | hu)
    · rcases List.mem_append.mp hu with hu | hu
      · exact Or.inl (Or.inl hu)
      · exact Or.inr (List.mem_singleton.mp hu)
    · exact Or.inl (Or.inr hu)
  obtain ⟨x, honly, hchain⟩ := h.index
  refine ⟨⟨t.change.key, hkey, t.change.decodes⟩, ⟨x, honly, ?_⟩, ?_, ?_, h.wellFormed,
    h.replays, ?_⟩
  · apply hchain.append
    rcases htext with htext | htext
    · exact Or.inl htext.symm
    · exact Or.inr htext.symm
  · intro u hu
    rcases hwaits u hu with hu | rfl
    · exact Nat.le_succ_of_le (h.tickets u hu)
    · exact Nat.le_of_eq hticket
  · intro u hu hnew
    rcases hwaits u hu with hu | rfl
    · -- An older request has an older ticket.
      have hle := h.tickets u hu
      have hnew' : u.ticket = st.tickets + 1 := hnew
      omega
    · exact hkey
  · refine Or.inl ⟨t, Or.inl ?_, hticket⟩
    exact List.mem_append_right _ (List.mem_singleton_self _)

theorem Changes.Settling.update {t : Turn E} {rest : List (Turn E)}
    (hfirst : st.committed = t :: rest) :
    Changes.Settling id s { st with
      live := onKeyRotated st.live id t.old t.change.text
      committed := rest
      indexed := st.indexed ++ [t] } := by
  have hkey : ∀ j, keyOf (onKeyRotated st.live id t.old t.change.text) j =
      keyOf st.live j := fun _ => rfl
  have hwaits : ∀ u, u ∈ rest ∨ u ∈ st.indexed ++ [t] ↔ st.Waits u := by
    intro u
    unfold Changes.Waits
    rw [hfirst, List.mem_append, List.mem_singleton, List.mem_cons]
    constructor
    · rintro (hu | hu | hu)
      · exact Or.inl (Or.inr hu)
      · exact Or.inr hu
      · exact Or.inl (Or.inl hu)
    · rintro ((hu | hu) | hu)
      · exact Or.inr (Or.inr hu)
      · exact Or.inl hu
      · exact Or.inr (Or.inl hu)
  obtain ⟨x, honly, hchain⟩ := h.index
  rw [hfirst] at hchain
  refine ⟨h.key, ⟨t.change.text, ?_, hchain.2⟩, ?_, ?_, h.wellFormed, h.replays, ?_⟩
  · exact only_after_update honly hchain.1
  · intro u hu
    exact h.tickets u ((hwaits u).mp hu)
  · intro u hu
    exact h.newest u ((hwaits u).mp hu)
  · rcases h.recorded with ⟨u, hu, hnew⟩ | hdone
    · exact Or.inl ⟨u, (hwaits u).mpr hu, hnew⟩
    · exact Or.inr hdone

theorem Changes.Settling.append (hid : id ≠ 0) {i : Nat} {t : Turn E} (now : Time)
    (hget : st.indexed[i]? = some t)
    (hnewest : ∃ t' ∈ st.committed ++ st.indexed, t'.ticket = st.tickets) :
    Changes.Settling id s { st with
      log := st.log ++ [.keyRotation (t.change.delta id now)]
      indexed := st.indexed.eraseIdx i } := by
  have hwaits : ∀ u, u ∈ st.committed ∨ u ∈ st.indexed.eraseIdx i → st.Waits u := by
    rintro u (hu | hu)
    · exact Or.inl hu
    · exact Or.inr (List.mem_of_mem_eraseIdx hu)
  have hreplay := fun now' =>
    keyOf_replay_delta hid h.wellFormed t.change now' now (h.replays now')
  refine ⟨h.key, h.index, fun u hu => h.tickets u (hwaits u hu),
    fun u hu => h.newest u (hwaits u hu), ?_, ?_, ?_⟩
  · intro d hd
    rcases List.mem_append.mp hd with hd | hd
    · exact h.wellFormed d hd
    · rw [List.mem_singleton.mp hd]
      exact wellFormed_delta hid t.change now
  · intro now'
    rw [hreplay]
    simp
  · by_cases hnew : t.ticket = st.tickets
    · right
      intro now'
      have htw : st.Waits t := Or.inr (List.mem_of_getElem? hget)
      rw [hreplay]
      exact (h.newest t htw hnew).symm
    · left
      obtain ⟨u, hu, hunew⟩ := hnewest
      have hne : t ≠ u := by
        rintro rfl
        exact hnew hunew
      refine ⟨u, ?_, hunew⟩
      rcases List.mem_append.mp hu with hu | hu
      · exact Or.inl hu
      · -- Another request than the one that leaves the list stays in it.
        obtain ⟨j, hj⟩ := List.mem_iff_getElem?.mp hu
        right
        apply List.mem_eraseIdx_iff_getElem?.mpr
        refine ⟨j, ?_, hj⟩
        rintro rfl
        rw [hget] at hj
        exact hne (Option.some.inj hj)

theorem Changes.Settling.step (hid : id ≠ 0) {st' : Changes E} {a : Changes.Action}
    (hturn : st.InTurn id a) (hstep : st.Stepped id a st') : st'.Settling id s := by
  cases hstep with
  | other live checked hkeys hindex =>
    have hkey := hkeys id
    obtain ⟨x, honly, hchain⟩ := h.index
    exact {
      key := by rw [hkey]; exact h.key
      index := ⟨x, by rw [hindex]; exact honly, hchain⟩
      tickets := h.tickets
      newest := by rw [hkey]; exact h.newest
      wellFormed := h.wellFormed
      replays := h.replays
      recorded := by rw [hkey]; exact h.recorded }
  | @commit i c n checked hget hn hok =>
    exact h.commit (t := ⟨c, Base64.encode n.publicKey, st.tickets + 1⟩) checked rfl
      (hturn c n hget hn hok)
  | index hget =>
    obtain rfl := hturn _ hget
    cases hfirst : st.committed with
    | nil =>
      rw [hfirst] at hget
      cases hget
    | cons u rest =>
      rw [hfirst] at hget
      cases hget
      exact h.update hfirst
  | append now hget => exact h.append hid now hget (hturn _ hget)

end steps

/-- Once all requests of a run in turn have returned, one text leads to the
node, it is a text of the node's current key, and so is the key the log
leads to from the state before them. -/
theorem changes_settle {id : NodeId} (hid : id ≠ 0) {s : Server} {n : NodeInfo}
    {text : String} (hn : s.nodes.get id = some n)
    (hdecode : E.decodePublicKey text = some n.publicKey)
    (honly : ∀ text', s.pubKeyIdx.get text' = some id ↔ text' = text)
    {as : List Changes.Action}
    (hturns : Meets (Changes.step id) (Changes.InTurn (E := E) id)
      (Changes.started s text) as)
    (hidle : (run (Changes.step id) (Changes.started (E := E) s text) as).Idle) :
    let st := run (Changes.step id) (Changes.started (E := E) s text) as
    ∃ text' key, keyOf st.live id = some key ∧ E.decodePublicKey text' = some key ∧
      (∀ t, st.live.pubKeyIdx.get t = some id ↔ t = text') ∧
      ∀ now, keyOf (replay now s st.log) id = some key := by
  intro st
  have hset : st.Settling id s := hturns.invariant (Changes.step id)
    (P := fun st => st.Settling id s)
    (fun st a hturn hst => hst.step hid hturn (Changes.step_stepped id st a))
    (Changes.settling_started hn hdecode honly)
  obtain ⟨key, hkey, hnew⟩ := hset.key
  obtain ⟨x, hx, hchain⟩ := hset.index
  have hcommitted : st.committed = [] := hidle.2.1
  have hindexed : st.indexed = [] := hidle.2.2
  rw [hcommitted] at hchain
  have hxt : x = st.text := hchain
  refine ⟨x, key, hkey, by rw [hxt]; exact hnew, hx, fun now => ?_⟩
  rcases hset.recorded with ⟨t, ht | ht, -⟩ | hdone
  · rw [hcommitted] at ht
    cases ht
  · rw [hindexed] at ht
    cases ht
  · rw [hdone, hkey]

/-- Node 1 has the key of `AAAA` and is enrolled for recovery. -/
def enrolled : Server :=
  { freshServer 0 with
    nodes := GoMap.set ∅ 1 {
      publicKey := [0, 0, 0], networks := [0], recoveryCommitment := "ann" }
    pubKeyIdx := GoMap.set ∅ "AAAA" 1
    nextNode := 2 }

/-- Signatures verify, and so does a recovery of node 1 to `BBBB`. -/
def trusting : Env :=
  { Env.plain with
    verify := fun _ _ _ => true
    verifyRecovery := fun _ _ => .ok {
      nodeID := 1, newPubKey := "BBBB", commitment := "ann", nonce := "once", exp := 0 } }

/-- The recovery to `BBBB`. -/
def recoveryMsg : Msg :=
  [("node_id", .node 1), ("new_public_key", .str "BBBB"), ("recovery", .str "r"),
    ("recovery_sig", .str "s")]

/-- The rotation from there to `CCCC`. -/
def rotationMsg : Msg :=
  [("node_id", .node 1), ("new_public_key", .str "CCCC"), ("signature", .str "AAAA")]

/-- The rotation follows the commit of the recovery and overtakes the rest
of it. -/
def overtaken : List Changes.Action :=
  [.recover 1 recoveryMsg, .commit 0, .rotate 2 rotationMsg, .commit 0, .index 1,
    .append 0 3, .index 0, .append 0 4]

/-- Both keys lead to the node at the end, and the log leads to the older
one. -/
theorem recovered_key_comes_back :
    let st := run (Changes.step 1) (Changes.started (E := trusting) enrolled "AAAA")
      overtaken
    st.Idle ∧ keyOf st.live 1 = some [8, 32, 130] ∧
      st.live.pubKeyIdx.get "BBBB" = some 1 ∧ st.live.pubKeyIdx.get "CCCC" = some 1 ∧
      keyOf (replay 5 enrolled st.log) 1 = some [4, 16, 65] := by
  refine ⟨⟨rfl, rfl, rfl⟩, ?_, ?_, ?_, ?_⟩
  · decide
  · decide
  · decide
  · decide

/-- The two requests overlap and keep their turns. -/
def overlapping : List Changes.Action :=
  [.recover 1 recoveryMsg, .commit 0, .rotate 2 rotationMsg, .commit 0, .index 0,
    .index 0, .append 0 3, .append 0 4]

theorem changes_settle_overlapping :
    let st := run (Changes.step 1) (Changes.started (E := trusting) enrolled "AAAA")
      overlapping
    ∃ text' key, keyOf st.live 1 = some key ∧ trusting.decodePublicKey text' = some key ∧
      (∀ t, st.live.pubKeyIdx.get t = some 1 ↔ t = text') ∧
      ∀ now, keyOf (replay now enrolled st.log) 1 = some key := by
  have hkey : ∀ (st : Changes trusting) (n : NodeInfo) (key : Bytes),
      keyOf st.live 1 = some key → st.live.nodes.get 1 = some n →
      n.publicKey = key := by
    intro st n key hst hn
    simpa [keyOf, hn] using hst
  have hnode : enrolled.nodes.get 1 = some {
      publicKey := [0, 0, 0], networks := [0], recoveryCommitment := "ann" } := rfl
  refine changes_settle (by decide) hnode (by decide) (fun t => ?_) ?_ ⟨rfl, rfl, rfl⟩
  · show (GoMap.set ∅ "AAAA" 1).get t = some 1 ↔ _
    rw [GoMap.get_set]
    by_cases ht : t = "AAAA"
    · simp [ht]
    · simp [ht]
  · refine ⟨trivial, fun c n _ hn _ => Or.inl ?_, trivial, fun c n _ hn _ => Or.inl ?_,
      fun t _ => rfl, fun t _ => rfl, fun t _ => ⟨_, List.mem_of_getElem? (i := 1) rfl, rfl⟩,
      fun t _ => ⟨_, List.mem_of_getElem? (i := 0) rfl, rfl⟩, trivial⟩
    · rw [hkey _ n [0, 0, 0] (by decide) hn]
      decide
    · rw [hkey _ n [4, 16, 65] (by decide) hn]
      decide

end Rendezvous.Recovery

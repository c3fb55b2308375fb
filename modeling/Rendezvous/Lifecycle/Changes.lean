import Rendezvous.Lifecycle.Actions

/-!
# What a step does to one record

`step_record` says, for every event and every id, what becomes of the
record under the id: it stays, it is written in one of the ways `Edited`
lists, it leaves the directory, or a fresh record is filed; unless a new
process starts from the disk or from the standby's copy. What the later
files prove about keys, enrollments, expiry times and signatures is derived
from it.
-/

namespace Rendezvous.Lifecycle

open Base Registry Authz Rendezvous.Membership Directory Identity Admin Wal Persist Recovery Roster

variable {s : Server} {n n' : NodeInfo} {now : Time}

/-! ## What the slow path writes -/

/-- What the slow path leaves under an id: the record the key leads to is
refreshed, or a fresh one is filed, and no other record changes. -/
inductive SlowWrite (now : Time) (s : Server) (req : RegisterReq) (key : Bytes)
    (id : NodeId) : Option NodeInfo → Prop where
  | kept (hknown : knownId s req ≠ some id) (hfiled : filedId s req ≠ some id) :
      SlowWrite now s req key id (s.nodes.get id)
  | refreshed (n : NodeInfo) (owner name : String) (hid : knownId s req = some id)
      (hn : s.nodes.get id = some n) : SlowWrite now s req key id
        (some { (refresh req n).setLastSeen now with owner := owner, hostname := name })
  | filed (nets : List NetId) (name : String) (hid : filedId s req = some id) :
      SlowWrite now s req key id
        (some { freshNode req key nets now with hostname := name })

theorem setNodeHostname_set_get {t : Server} {id : NodeId} (ht : t.nodes = s.nodes.set id n)
    (hostname : String) (j : NodeId) :
    ∃ name, (setNodeHostname t id hostname).1.nodes.get j =
      if j = id then some { n with hostname := name } else s.nodes.get j := by
  obtain ⟨name, hnodes⟩ := setNodeHostname_nodes t id hostname
  refine ⟨name n.hostname, ?_⟩
  rw [hnodes, ht, GoMap.modify_set_self, GoMap.get_set]

variable {c : Checked} {f : NodeInfo → NodeInfo} {o : Outcome} {s' : Server}

theorem slowForm_get {req : RegisterReq} {key : Bytes} (h : SlowForm now s req key s')
    (j : NodeId) :
    SlowWrite now s req key j (s'.nodes.get j) := by
  cases h with
  | refreshed id n owner t hid hn ht =>
    obtain ⟨name, hget⟩ := setNodeHostname_set_get (congrArg Server.nodes ht) req.hostname j
    rw [hget]
    split
    · next hj =>
      subst hj
      exact .refreshed n owner name hid hn
    · next hj =>
      obtain ⟨hidx, -⟩ := knownId_eq_some.mp hid
      refine .kept (fun h => hj ?_) (by simp [filedId, hidx, hn])
      exact Option.some.inj (h.symm.trans hid)
  | filed id nets t hid hknown ht =>
    obtain ⟨name, hget⟩ := setNodeHostname_set_get (congrArg Server.nodes ht) req.hostname j
    rw [hget]
    split
    · next hj =>
      subst hj
      exact .filed nets name hid
    · next hj =>
      refine .kept (by simp [hknown]) fun h => hj ?_
      exact Option.some.inj (h.symm.trans hid)

/-! ## What a signed request writes -/

/-- What a request writes to its node's record, besides the list of
networks. -/
def Setting.write (now : Time) (n : NodeInfo) : Setting → NodeInfo
  | .visibility isPublic => { n with isPublic := isPublic }
  | .hostname name => { n with hostname := name }
  | .tags list => { n with tags := list }
  | .keyExpiry expiresAt => { n with
      keyMeta := { n.keyMeta with expiresAt := expiresAt.getD zeroTime } }
  | .badge text sig provider => { n with
      badge := text
      badgeSig := sig
      verificationProvider := provider
      verifiedAt := now }
  | .enrollment commitment provider => { n with
      recoveryCommitment := commitment
      recoveryProvider := provider }
  | .join .. | .leave .. => n

/-- A commit writes the record of its node, and no other. -/
def Writes (now : Time) (s s' : Server) (c : Checked) : Prop :=
  ∃ n nets, s.nodes.get c.nodeID = some n ∧
    s'.nodes = s.nodes.set c.nodeID { c.setting.write now n with networks := nets }

/-- What a commit comes down to. It never logs a registration. -/
structure Commits (now : Time) (s : Server) (c : Checked) (o : Outcome) : Prop where
  writes : Writes now s o.server c
  frame : o.server = { s with
    nodes := o.server.nodes
    hostnameIdx := o.server.hostnameIdx
    networks := o.server.networks
    inviteInbox := o.server.inviteInbox }
  hostnameIdx : (∀ name, c.setting ≠ .hostname name) → o.server.hostnameIdx = s.hostnameIdx
  wal : ∀ d, .register d ∉ o.wal

theorem editNode_commits {edit : NodeInfo → NodeInfo} {resp : Resp}
    (hedit : ∀ n, edit n = { c.setting.write now n with networks := n.networks })
    (h : editNode s c.nodeID edit resp = .ok o) : Commits now s c o := by
  simp only [editNode, bind_eq_ok, orFail_eq_ok, pure_eq_ok] at h
  obtain ⟨n, hn, rfl⟩ := h
  exact ⟨⟨n, n.networks, hn, by rw [← hedit]⟩, rfl, fun _ => rfl, fun _ => List.not_mem_nil⟩

theorem applyRBACPreAssignment_nodes (E : Env) (s : Server) (netID : NetId)
    (id : NodeId) : (applyRBACPreAssignment E s netID id).nodes = s.nodes := by
  unfold applyRBACPreAssignment
  split <;> rfl

theorem commit_commits {E : NodeEnv} (h : c.commit E now s = .ok o) : Commits now s c o := by
  obtain ⟨id, key, challenge, setting⟩ := c
  unfold Checked.commit at h
  cases setting with
  | hostname name =>
    simp only [commitHostname, bind_eq_ok, orFail_eq_ok, pure_eq_ok] at h
    obtain ⟨n, hn, _, -, rfl⟩ := h
    exact ⟨⟨n, n.networks, hn, rfl⟩, rfl, fun hc => absurd rfl (hc name), fun _ => List.not_mem_nil⟩
  | join netID token =>
    simp only [commitJoin, bind_eq_ok, orFail_eq_ok, pure_eq_ok] at h
    obtain ⟨n, hn, net, -, _, -, _, -, _, -, rfl⟩ := h
    refine ⟨⟨n, n.networks ++ [netID], hn, ?_⟩, ?_, fun _ => ?_, by simp⟩
    · rw [applyRBACPreAssignment_nodes]
      exact (GoMap.set_eq_modify hn fun n => { n with networks := n.networks ++ [netID] }).symm
    all_goals
      unfold applyRBACPreAssignment
      split <;> rfl
  | leave netID =>
    simp only [commitLeave, bind_eq_ok, orFail_eq_ok, pure_eq_ok] at h
    obtain ⟨n, hn, net, -, _, -, _, -, rfl⟩ := h
    refine ⟨⟨n, n.networks.erase netID, hn, ?_⟩, rfl, fun _ => rfl, by simp⟩
    exact (GoMap.set_eq_modify hn fun n => { n with networks := n.networks.erase netID }).symm
  | _ => exact editNode_commits (fun _ => rfl) h

/-! ## What the other commands and the reaper do -/

/-- A record after a command of another package. -/
def Relisted (n n' : NodeInfo) : Prop :=
  n' = { n with
    networks := n'.networks
    externalID := n'.externalID
    hostname := n'.hostname }

theorem Relisted.trans {n'' : NodeInfo} (h : Relisted n n') (h' : Relisted n' n'') :
    Relisted n n'' := by
  unfold Relisted at h h' ⊢
  rw [h', h]

theorem relisted_modify {m : GoMap NodeId NodeInfo} (hf : ∀ n, Relisted n (f n)) (k id : NodeId) :
    Option.Rel Relisted (m.get id) ((m.modify k f).get id) := by
  cases hn : m.get id with
  | none =>
    rw [(GoMap.get_modify_eq_none m k id f).mpr hn]
    exact .none
  | some n =>
    rw [GoMap.get_modify]
    split
    · next heq =>
      subst heq
      rw [hn]
      exact .some (hf n)
    · rw [hn]
      exact .some rfl

theorem relisted_refl (x : Option NodeInfo) : Option.Rel Relisted x x := by
  cases x with
  | none => exact .none
  | some n => exact .some rfl

theorem relisted_trans {x y z : Option NodeInfo} (h : Option.Rel Relisted x y)
    (h' : Option.Rel Relisted y z) : Option.Rel Relisted x z := by
  cases h with
  | none => exact h'
  | some h =>
    cases h' with
    | some h' => exact .some (h.trans h')

/-- No command that files and removes no record changes more of one. -/
theorem amends_get {N : NodeId → String → Prop} {C : Prop} (h : Amends N C s s') (id : NodeId) :
    Option.Rel Relisted (s.nodes.get id) (s'.nodes.get id) := by
  induction h with
  | trans _ _ ih ih' => exact relisted_trans ih ih'
  | other h =>
    rw [h]
    exact relisted_refl _
  | record s k hf => exact relisted_modify (fun n => by unfold Relisted; rw [hf n]) k id
  | @name s k name hN =>
    unfold takeDisplayName
    simp only
    split
    · exact relisted_modify (f := fun n => { n with hostname := name })
        (fun _ => rfl) k id
    · exact relisted_refl _
  | _ => exact relisted_refl _

theorem dropCandidate_nodes (s : Server) (cand : NodeId × String) :
    (dropCandidate s cand).nodes = s.nodes.del cand.1 := by
  simp only [dropCandidate, dropNode, dropHostname_nodes]

/-- A batch of a sweep leaves a record as it is, or removes a stale one. -/
theorem sweep_get (threshold : Time) (cands : List (NodeId × String)) (s : Server)
    (id : NodeId) :
    (cands.foldl (sweepOne threshold) s).nodes.get id = s.nodes.get id ∨
      ∃ n, s.nodes.get id = some n ∧ n.getLastSeen < threshold ∧ id ∈ cands.map Prod.fst ∧
        (cands.foldl (sweepOne threshold) s).nodes.get id = none := by
  induction cands generalizing s with
  | nil => exact Or.inl rfl
  | cons cand cands ih =>
    have hone : (sweepOne threshold s cand).nodes.get id = s.nodes.get id ∨
        ∃ n, s.nodes.get id = some n ∧ n.getLastSeen < threshold ∧ id = cand.1 ∧
          (sweepOne threshold s cand).nodes.get id = none := by
      unfold sweepOne
      split
      · next n hn =>
        split
        · next hstale =>
          rw [dropCandidate_nodes, GoMap.get_del]
          split
          · next hid => exact Or.inr ⟨n, by rw [hid, hn], hstale, hid, rfl⟩
          · exact Or.inl rfl
        · exact Or.inl rfl
      · exact Or.inl rfl
    rw [List.foldl_cons]
    rcases ih (sweepOne threshold s cand) with hkept | ⟨m, hm, hold, hmem, hgone⟩
    · rw [hkept]
      rcases hone with hsame | ⟨n, hn, hstale, hid, hgone⟩
      · exact Or.inl hsame
      · exact Or.inr ⟨n, hn, hstale, by simp [hid], hgone⟩
    · rcases hone with hsame | ⟨n, hn, hstale, hid, -⟩
      · exact Or.inr ⟨m, by rw [← hsame, hm], hold, by simp [hmem], hgone⟩
      · exact Or.inr ⟨n, hn, hstale, by simp [hid], hgone⟩

/-! ## Every step -/

/-- The ways a record `n` under `id` is written. -/
inductive Edited (w : World) (id : NodeId) (n : NodeInfo) : World.Event → NodeInfo → Prop where
  | relisted (op : Roster.Op) (logged : Bool) (n' : NodeInfo) (h : Relisted n n') :
      Edited w id n (.command op logged) n'
  | fast {e : World.Event} (req : RegisterReq) (key : Bytes) (ext : String)
      (j : NodeId) (hf : w.runs e = some (.register req key ext (.fast j (.held id)))) :
      Edited w id n e (fastRefresh w.clock req n)
  | slow {e : World.Event} (req : RegisterReq) (key : Bytes) (ext : String)
      (owner name : String) (hf : w.runs e = some (.register req key ext .slow))
      (hid : knownId w.live req = some id) :
      Edited w id n e
        { (refresh req n).setLastSeen w.clock with owner := owner, hostname := name }
  | external {e : World.Event} (req : RegisterReq) (key : Bytes) (ext : String)
      (hf : w.runs e = some (.register req key ext (.external id))) :
      Edited w id n e { n with externalID := ext }
  | set {e : World.Event} (msg : Msg) (c : Checked) (gated : Bool) (nets : List NetId)
      (hf : w.runs e = some (.request msg c gated)) (hid : c.nodeID = id) :
      Edited w id n e { c.setting.write w.clock n with networks := nets }
  | beat {e : World.Event} (b : Beat) (key : Bytes) (expiresAt now : Time)
      (hf : w.runs e = some (.beat b (.held id) key expiresAt (.alive now))) :
      Edited w id n e { n with lastSeenNano := now }
  | rotated {e : World.Event} (text : String) (key : Bytes)
      (hf : w.runs e = some (.rotate id text key n.publicKey)) :
      Edited w id n e (rotated n key w.clock)
  | noted {e : World.Event} (text : String) (key : Bytes) (r : Recovery)
      (hf : w.runs e = some (.note id text key r))
      (hnew : r.nonce = "" ∨ n.recoveryConsumedNonce ≠ r.nonce) :
      Edited w id n e { n with
        recoveryConsumedNonce := r.nonce
        recoveryConsumedExp := r.exp * second }
  | forced {e : World.Event} (text : String) (key : Bytes) (r : Recovery)
      (hf : w.runs e = some (.force id text key r)) :
      Edited w id n e (clearBadge (rotated n key w.clock))

/-- What becomes of the record under `id` within a process. -/
inductive Changed (E : NodeEnv) (w : World) (id : NodeId) :
    World.Event → Option NodeInfo → Option NodeInfo → Prop where
  | kept (e : World.Event) (x : Option NodeInfo) : Changed E w id e x x
  | edited {e : World.Event} {n n' : NodeInfo} (h : Edited w id n e n') :
      Changed E w id e (some n) (some n')
  | reaped {e : World.Event} (n : NodeInfo) (threshold : Time)
      (cands : List (NodeId × String)) (hf : w.runs e = some (.sweep threshold cands))
      (hmem : id ∈ cands.map Prod.fst) (hstale : n.getLastSeen < threshold) :
      Changed E w id e (some n) none
  | deregistered (n : NodeInfo) (msg : Msg) (logged : Bool)
      (hid : msg.jsonUint32 "node_id" = id) :
      Changed E w id (.deregister msg logged) (some n) none
  | filed {e : World.Event} (x : Option NodeInfo) (req : RegisterReq) (key : Bytes)
      (ext : String) (nets : List NetId) (name : String)
      (hf : w.runs e = some (.register req key ext .slow))
      (hid : w.files E e = some (id, key)) :
      Changed E w id e x (some { freshNode req key nets w.clock with hostname := name })

section

variable {E : NodeEnv} {w : World} {e : World.Event} {id j : NodeId}

theorem changed_set (hn : w.live.nodes.get j = some n) (h : Edited w j n e n') :
    Changed E w id e (w.live.nodes.get id) ((w.live.nodes.set j n').get id) := by
  by_cases hid : id = j
  · subst hid
    rw [GoMap.get_set_self, hn]
    exact .edited h
  · rw [GoMap.get_set_ne _ _ hid]
    exact .kept _ _

theorem changed_modify (h : ∀ n, Edited w j n e (f n)) :
    Changed E w id e (w.live.nodes.get id) ((w.live.nodes.modify j f).get id) := by
  cases hn : w.live.nodes.get j with
  | none =>
    rw [GoMap.modify_eq_self _ (by simp [hn])]
    exact .kept _ _
  | some n =>
    rw [← GoMap.set_eq_modify hn]
    exact changed_set hn (h n)

/-- Every event within a process does one of these things to every record. -/
theorem step_record (E : NodeEnv) {w : World} {e : World.Event}
    (hrestart : ¬ w.restarts e) (id : NodeId) :
    Changed E w id e (w.live.nodes.get id) ((w.step E e).live.nodes.get id) := by
  have hacts := step_acts E w e
  generalize (w.step E e).live = s' at hacts ⊢
  cases hacts with
  | fast req key ext j k hf => exact changed_modify fun n => .fast req key ext j hf
  | slow req key ext s' hf hs hfiles =>
    have hwrite := slowForm_get hs id
    generalize s'.nodes.get id = x at hwrite ⊢
    cases hwrite with
    | kept _ _ => exact .kept _ _
    | refreshed n owner name hid hn =>
      rw [hn]
      exact .edited (.slow req key ext owner name hf hid)
    | filed nets name hid =>
      refine .filed _ req key ext nets name hf ?_
      rw [hfiles, hid, Option.map_some]
  | external req key ext j hf => exact changed_modify fun n => .external req key ext hf
  | set msg c gated o hf ho =>
    obtain ⟨n, nets, hn, hnodes⟩ := (commit_commits ho).writes
    rw [hnodes]
    exact changed_set hn (.set msg c gated nets hf rfl)
  | beat b j key expiresAt now hf => exact changed_modify fun n => .beat b key expiresAt now hf
  | rotated j text key n hf hn => exact changed_set hn (.rotated text key hf)
  | noted j text key r n hf hn hnew => exact changed_set hn (.noted text key r hf hnew)
  | forced j text key r n hf hn => exact changed_set hn (.forced text key r hf)
  | swept threshold cands hf =>
    rcases sweep_get threshold (cands.take reapDeleteBatch) w.live id with
      hkept | ⟨n, hn, hstale, hmem, hgone⟩
    · rw [hkept]
      exact .kept _ _
    · rw [hn, hgone]
      refine .reaped n threshold cands hf ?_ hstale
      exact List.map_subset _ (List.take_subset _ _) hmem
  | deregistered n msg logged hn =>
    rw [departNode_nodes]
    by_cases hid : id = msg.jsonUint32 "node_id"
    · rw [hid, GoMap.get_del_self, hn]
      exact .deregistered n msg logged rfl
    · rw [GoMap.get_del_ne _ hid]
      exact .kept _ _
  | amended op logged hop =>
    have hrel := amends_get (step_amends (E := E.toAdminEnv) (s := w.live) hop) id
    generalize w.live.nodes.get id = x,
      (Roster.step E.toAdminEnv w.live op).nodes.get id = y at hrel ⊢
    cases hrel with
    | none => exact .kept _ _
    | some h => exact .edited (.relisted op logged _ h)
  | started order horder => exact absurd horder hrestart
  | failedOver _ hs => exact absurd (by simp [World.restarts, hs]) hrestart
  | _ => exact .kept _ _

/-- Where a record that is there after an event comes from. -/
inductive Stands (E : NodeEnv) (w : World) (id : NodeId) (e : World.Event) : NodeInfo → Prop where
  | kept {n : NodeInfo} (hn : w.live.nodes.get id = some n) : Stands E w id e n
  | edited {n n' : NodeInfo} (hn : w.live.nodes.get id = some n)
      (h : Edited w id n e n') : Stands E w id e n'
  | filed (req : RegisterReq) (key : Bytes) (ext : String) (nets : List NetId)
      (name : String) (hf : w.runs e = some (.register req key ext .slow))
      (hid : w.files E e = some (id, key)) :
      Stands E w id e { freshNode req key nets w.clock with hostname := name }

theorem step_stands (hrestart : ¬ w.restarts e) (hn' : (w.step E e).live.nodes.get id = some n') :
    Stands E w id e n' := by
  have hrec := step_record E hrestart id
  rw [hn'] at hrec
  generalize hx : w.live.nodes.get id = x, hy : some n' = y at hrec
  cases hrec with
  | kept => exact .kept (hx.trans hy.symm)
  | edited h =>
    cases hy
    exact .edited hx h
  | reaped => cases hy
  | deregistered => cases hy
  | filed _ req key ext nets name hf hid =>
    cases hy
    exact .filed req key ext nets name hf hid

/-- The record of an id in a new process: what the disk or the standby's
copy has. -/
theorem restarts_live (E : NodeEnv) {w : World} {e : World.Event} (h : w.restarts e) :
    (∃ order, e = .start order ∧ IsOrder order (diskNodes w.file) ∧
      (w.step E e).live = boot w.clock order w.file w.log) ∨
      e = .failover ∧ w.standby = some (w.step E e).live := by
  cases e with
  | start order =>
    refine Or.inl ⟨order, rfl, h, ?_⟩
    simp only [World.step]
    rw [if_pos (show IsOrder order (diskNodes w.file) from h)]
  | failover =>
    obtain ⟨s, hs⟩ := Option.isSome_iff_exists.mp h
    refine Or.inr ⟨rfl, ?_⟩
    simp only [World.step, hs]
  | _ => exact h.elim

end

end Rendezvous.Lifecycle

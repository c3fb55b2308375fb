import Rendezvous.Lifecycle.Reboot
import Rendezvous.Persist.Replica
import Rendezvous.Recovery.View
import Rendezvous.Roster.Disk

/-!
# The hostname index

What each writer of hostnames does to the directory and its index. The
checks of the handlers keep the index right. A sweep goes by the hostname a
node had when it was scanned, and a replayed registration puts its hostname
in the index whoever has it: for these two, `Remembers` and `BringsFree`
say when the index stays right.
-/

namespace Rendezvous.Lifecycle

open Base Registry Authz Rendezvous.Membership Directory Identity Admin Wal Persist Recovery Roster

variable {id : NodeId} {n : NodeInfo} {name : String} {o : Outcome} {threshold : Time}
  {order : List NodeId}

/-! ## The directory and its index -/

/-- The hostname of the record under an id, if it has one. -/
def hostnameIn (nodes : GoMap NodeId NodeInfo) (id : NodeId) : Option String :=
  (nodes.get id).bind fun n => nonEmpty n.hostname

theorem hostnameIn_eq_some {nodes : GoMap NodeId NodeInfo} {h : String} :
    hostnameIn nodes id = some h ↔ h ≠ "" ∧ ∃ n, nodes.get id = some n ∧ n.hostname = h := by
  simp only [hostnameIn, Option.bind_eq_some_iff, nonEmpty_eq_some]
  constructor
  · rintro ⟨n, hn, hne, rfl⟩
    exact ⟨hne, n, hn, rfl⟩
  · rintro ⟨hne, n, hn, rfl⟩
    exact ⟨n, hn, hne, rfl⟩

private theorem hostnameIn_set (nodes : GoMap NodeId NodeInfo) (id : NodeId) (n : NodeInfo) :
    hostnameIn (nodes.set id n) = Function.update (hostnameIn nodes) id (nonEmpty n.hostname) := by
  funext j
  rw [hostnameIn, GoMap.get_set, Function.update_apply]
  split <;> rfl

private theorem hostnameIn_del (nodes : GoMap NodeId NodeInfo) (id : NodeId) :
    hostnameIn (nodes.del id) = Function.update (hostnameIn nodes) id none := by
  funext j
  rw [hostnameIn, GoMap.get_del, Function.update_apply]
  split <;> rfl

variable {cand : NodeId × String} {f : NodeInfo → NodeInfo} {s' : Server}

theorem hostnameIn_modify (hf : ∀ n, (f n).hostname = n.hostname) (nodes : GoMap NodeId NodeInfo)
    (id : NodeId) : hostnameIn (nodes.modify id f) = hostnameIn nodes := by
  funext j
  rw [hostnameIn, GoMap.get_modify]
  split
  · next h =>
    subst h
    simp [hostnameIn, Option.bind_map, hf]
  · rfl

/-- Every name in the index is that of the record it leads to, and valid. -/
structure Named (nodes : GoMap NodeId NodeInfo) (idx : GoMap String NodeId) : Prop where
  index : Indexes idx (hostnameIn nodes)
  valid : ∀ id h, hostnameIn nodes id = some h → validateHostname h = .ok ()

/-- No two records have one hostname. -/
theorem Named.distinct {nodes : GoMap NodeId NodeInfo} {idx : GoMap String NodeId}
    (h : Named nodes idx) {i j : NodeId} {m : NodeInfo} (hn : nodes.get i = some n)
    (hm : nodes.get j = some m) (hsame : n.hostname = m.hostname) (hne : n.hostname ≠ "") :
    i = j :=
  h.index.unique (hostnameIn_eq_some.mpr ⟨hne, n, hn, rfl⟩)
    (hostnameIn_eq_some.mpr ⟨hne, m, hm, hsame.symm⟩)

theorem Named.valid_get {nodes : GoMap NodeId NodeInfo} {idx : GoMap String NodeId}
    (h : Named nodes idx) (hn : nodes.get id = some n) :
    validateHostname n.hostname = .ok () := by
  by_cases hne : n.hostname = ""
  · rw [hne]
    rfl
  · exact h.valid id _ (hostnameIn_eq_some.mpr ⟨hne, n, hn, rfl⟩)

section

variable {nodes nodes' : GoMap NodeId NodeInfo} {idx : GoMap String NodeId}

theorem named_empty : Named ∅ ∅ where
  index := Indexes.empty
  valid := fun id h hid => by cases hid

section

variable (h : Named nodes idx)
include h

/-- Nothing is said of records but their hostnames. -/
theorem Named.same (hnames : hostnameIn nodes' = hostnameIn nodes) : Named nodes' idx :=
  ⟨hnames ▸ h.index, hnames ▸ h.valid⟩

theorem Named.modify (id : NodeId) (hf : ∀ n, (f n).hostname = n.hostname) :
    Named (nodes.modify id f) idx :=
  h.same (hostnameIn_modify hf nodes id)

/-- A record is replaced by one with the same hostname. -/
theorem Named.set {n' : NodeInfo} (hn : nodes.get id = some n) (hname : n'.hostname = n.hostname) :
    Named (nodes.set id n') idx := by
  refine h.same ?_
  rw [hostnameIn_set, hname]
  refine Function.update_eq_self_iff.mpr ?_
  simp [hostnameIn, hn]

/-- A node takes a valid hostname that is free, or gives its own up. -/
theorem Named.rename {new : String} (hvalid : validateHostname new = .ok ())
    (hfree : new ≠ "" → ∀ j, idx.get new = some j → j = id)
    (hnames : hostnameIn nodes' = Function.update (hostnameIn nodes) id (nonEmpty new)) :
    Named nodes' (assign (release idx (hostnameIn nodes id)) (nonEmpty new) id) := by
  constructor
  · rw [hnames]
    refine h.index.rename fun a ha => ?_
    obtain ⟨hne, rfl⟩ := (nonEmpty_eq_some _ _).mp ha
    exact hfree hne
  · intro j a hj
    rw [hnames, Function.update_apply] at hj
    split at hj
    · obtain ⟨-, rfl⟩ := (nonEmpty_eq_some _ _).mp hj
      exact hvalid
    · exact h.valid j a hj

/-- A node leaves with its hostname. -/
theorem Named.leave (id : NodeId) : Named (nodes.del id) (release idx (hostnameIn nodes id)) :=
  h.rename rfl (fun hne => absurd rfl hne) (hostnameIn_del nodes id)

/-- A fresh record is filed where there was no hostname. -/
theorem Named.file (hn : n.hostname = "") (hold : hostnameIn nodes id = none) :
    Named (nodes.set id n) idx := by
  refine h.same ?_
  rw [hostnameIn_set, hn]
  exact Function.update_eq_self_iff.mpr hold.symm

end

end

/-! ## The writers -/

section

variable {s : Server}

private theorem release_nonEmpty (idx : GoMap String NodeId) (name : String) :
    release idx (nonEmpty name) = if name ≠ "" then idx.del name else idx := by
  by_cases h : name = "" <;> simp [release, nonEmpty, h]

theorem assign_nonEmpty (idx : GoMap String NodeId) (name : String) (id : NodeId) :
    assign idx (nonEmpty name) id = if name ≠ "" then idx.set name id else idx := by
  by_cases h : name = "" <;> simp [assign, nonEmpty, h]

private theorem dropHostname_hostnameIdx (s : Server) (name : String) :
    (dropHostname s name).hostnameIdx = release s.hostnameIdx (nonEmpty name) := by
  rw [release_nonEmpty, dropHostname]
  by_cases h : name = "" <;> simp [h]

theorem hostnameIn_of_get {nodes : GoMap NodeId NodeInfo} (hn : nodes.get id = some n) :
    hostnameIn nodes id = nonEmpty n.hostname := by
  simp [hostnameIn, hn]

theorem setNodeHostname_named (h : Named s.nodes s.hostnameIdx) (hn : s.nodes.get id = some n)
    (hvalid : validateHostname name = .ok ()) :
    Named (setNodeHostname s id name).1.nodes (setNodeHostname s id name).1.hostnameIdx := by
  by_cases htakes : TakesHostname s id name
  · have hidx : (withoutOldHostname s id).set name id =
        assign (release s.hostnameIdx (hostnameIn s.nodes id)) (nonEmpty name) id := by
      rw [assign_nonEmpty, if_pos htakes.1, hostnameIn_of_get hn, release_nonEmpty]
      simp [withoutOldHostname, hn]
    rw [setNodeHostname_takes htakes]
    simp only [hidx]
    refine h.rename hvalid (fun _ => htakes.2) ?_
    rw [← GoMap.set_eq_modify hn, hostnameIn_set]
  · rw [setNodeHostname_skips htakes]
    exact h

theorem slowForm_named {now : Time} {req : RegisterReq} {key : Bytes}
    (h : Named s.nodes s.hostnameIdx) (hs : SlowForm now s req key s')
    (hvalid : validateHostname req.hostname = .ok ())
    (hfiled : ∀ id, filedId s req = some id → hostnameIn s.nodes id = none) :
    Named s'.nodes s'.hostnameIdx := by
  cases hs with
  | refreshed id n owner t hid hn ht =>
    have hget : t.nodes.get id = some { (refresh req n).setLastSeen now with owner := owner } := by
      rw [ht, GoMap.get_set_self]
    refine setNodeHostname_named ?_ hget hvalid
    rw [ht]
    exact h.set hn rfl
  | filed id nets t hid hknown ht =>
    have hget : t.nodes.get id = some (freshNode req key nets now) := by
      rw [ht, GoMap.get_set_self]
    refine setNodeHostname_named ?_ hget hvalid
    rw [ht]
    exact h.file rfl (hfiled id hid)

theorem departNode_named (h : Named s.nodes s.hostnameIdx) (hn : s.nodes.get id = some n) :
    Named (departNode s id n).nodes (departNode s id n).hostnameIdx := by
  have hidx : (departNode s id n).hostnameIdx = release s.hostnameIdx (hostnameIn s.nodes id) := by
    show (dropHostname _ n.hostname).hostnameIdx = _
    rw [dropHostname_hostnameIdx, hostnameIn_of_get hn]
    rfl
  rw [hidx, departNode_nodes]
  exact h.leave id

private theorem takeDisplayName_named (h : Named s.nodes s.hostnameIdx) (id : NodeId)
    (hvalid : validateHostname name = .ok ()) :
    Named (takeDisplayName s id name).nodes (takeDisplayName s id name).hostnameIdx := by
  unfold takeDisplayName
  simp only
  split
  · next htakes =>
    obtain ⟨hne, hunnamed, hfree⟩ := htakes
    obtain ⟨n, hn, hempty⟩ := (Option.any_eq_true _ _).mp hunnamed
    have hnone : hostnameIn s.nodes id = none := by
      rw [hostnameIn_of_get hn]
      simpa [nonEmpty] using hempty
    have hidx : s.hostnameIdx.set name id =
        assign (release s.hostnameIdx (hostnameIn s.nodes id)) (nonEmpty name) id := by
      rw [hnone, assign_nonEmpty, if_pos hne]
      rfl
    simp only [hidx]
    refine h.rename hvalid (fun _ j hj => ?_) ?_
    · simpa [hj] using hfree
    · rw [← GoMap.set_eq_modify hn, hostnameIn_set]
  · exact h

theorem amends_named {N : NodeId → String → Prop} {C : Prop} (hs : Amends N C s s')
    (hN : ∀ id name, N id name → validateHostname name = .ok ()) (h : Named s.nodes s.hostnameIdx) :
    Named s'.nodes s'.hostnameIdx := by
  induction hs with
  | refl s => exact h
  | trans _ _ ih ih' => exact ih' (ih h)
  | other hs =>
    rw [hs]
    exact h
  | number s netID hC => exact h
  | record s id hf => exact h.modify id fun n => by rw [hf n]
  | name s hname => exact takeDisplayName_named h _ (hN _ _ hname)

private theorem commitHostname_named (h : Named s.nodes s.hostnameIdx)
    (ho : commitHostname s id name = .ok o) (hvalid : validateHostname name = .ok ()) :
    Named o.server.nodes o.server.hostnameIdx := by
  simp only [commitHostname, bind_eq_ok, orFail_eq_ok, require_eq_ok, pure_eq_ok] at ho
  obtain ⟨n, hn, _, hfree, rfl⟩ := ho
  simp only [← assign_nonEmpty, ← release_nonEmpty, ← hostnameIn_of_get hn]
  refine h.rename hvalid (fun hne j hj => ?_) (hostnameIn_set s.nodes id _)
  simpa [hne, hj] using hfree

theorem commit_named {E : NodeEnv} {now : Time} {c : Checked} (h : Named s.nodes s.hostnameIdx)
    (ho : c.commit E now s = .ok o)
    (hvalid : ∀ name, c.setting = .hostname name → validateHostname name = .ok ()) :
    Named o.server.nodes o.server.hostnameIdx := by
  by_cases hc : ∃ name, c.setting = .hostname name
  · obtain ⟨name, hc⟩ := hc
    simp only [Checked.commit, hc] at ho
    exact commitHostname_named h ho (hvalid name hc)
  · obtain ⟨n, nets, hn, hnodes⟩ := (commit_commits ho).writes
    have hne : ∀ name, c.setting ≠ .hostname name := fun name heq => hc ⟨name, heq⟩
    rw [hnodes, (commit_commits ho).hostnameIdx hne]
    refine h.set hn ?_
    cases hsetting : c.setting with
    | hostname name => exact absurd hsetting (hne name)
    | _ => rfl

end

/-! ## Sweeps -/

/-- The hostname a candidate of a sweep had is the one it has, or it has
none and nobody has the other. -/
def Remembers (threshold : Time) (s : Server) (cand : NodeId × String) : Prop :=
  ∀ n ∈ s.nodes.get cand.1, n.getLastSeen < threshold →
    n.hostname = cand.2 ∨ n.hostname = "" ∧ s.hostnameIdx.get cand.2 = none

instance (threshold : Time) (s : Server) (cand : NodeId × String) :
    Decidable (Remembers threshold s cand) :=
  inferInstanceAs (Decidable (∀ n ∈ s.nodes.get cand.1, _))

private theorem dropCandidate_hostnameIdx (s : Server) (cand : NodeId × String) :
    (dropCandidate s cand).hostnameIdx = release s.hostnameIdx (nonEmpty cand.2) :=
  dropHostname_hostnameIdx _ cand.2

private theorem sweepOne_named {s : Server} (h : Named s.nodes s.hostnameIdx)
    (hrem : Remembers threshold s cand) :
    Named (sweepOne threshold s cand).nodes (sweepOne threshold s cand).hostnameIdx := by
  unfold sweepOne
  split
  · next n hn =>
    split
    · next hstale =>
      rw [dropCandidate_nodes, dropCandidate_hostnameIdx]
      refine ⟨?_, fun id a ha => ?_⟩
      · rw [hostnameIn_del, h.index.leave_iff, hostnameIn_of_get hn]
        rcases hrem n hn hstale with hsame | ⟨hempty, hfree⟩
        · refine ⟨fun b hb => hsame ▸ hb, fun j b hb hj => h.index.unique hj ?_⟩
          rw [hostnameIn_of_get hn, hsame, hb]
        · refine ⟨fun b hb => ?_, fun j b hb hj => ?_⟩
          · rw [hempty] at hb
            cases hb
          · obtain ⟨-, rfl⟩ := (nonEmpty_eq_some _ _).mp hb
            rw [← h.index, hfree] at hj
            cases hj
      · rw [hostnameIn_del, Function.update_apply] at ha
        split at ha
        · cases ha
        · exact h.valid id a ha
    · exact h
  · exact h

/-- What a candidate is remembered by stands while others leave. -/
theorem Remembers.sweepOne {s : Server} (h : Remembers threshold s cand) (other : NodeId × String) :
    Remembers threshold (sweepOne threshold s other) cand := by
  unfold Lifecycle.sweepOne
  split
  · split
    · intro n hn hstale
      rw [dropCandidate_nodes, GoMap.get_del] at hn
      rw [dropCandidate_hostnameIdx, get_release]
      split at hn
      · cases hn
      · rcases h n hn hstale with hsame | ⟨hempty, hfree⟩
        · exact Or.inl hsame
        · exact Or.inr ⟨hempty, by rw [hfree, ite_self]⟩
    · exact h
  · exact h

theorem sweep_named (cands : List (NodeId × String)) {s : Server} (h : Named s.nodes s.hostnameIdx)
    (hrem : ∀ cand ∈ cands, Remembers threshold s cand) :
    Named (cands.foldl (sweepOne threshold) s).nodes
      (cands.foldl (sweepOne threshold) s).hostnameIdx := by
  induction cands generalizing s with
  | nil => exact h
  | cons cand cands ih =>
    refine ih (sweepOne_named h (hrem cand (List.mem_cons_self ..))) fun c hc => ?_
    exact (hrem c (List.mem_cons_of_mem _ hc)).sweepOne cand

/-! ## The log and the file -/

/-- The hostname a replayed registration brings back is free. -/
def BringsFree (s : Server) : Delta → Prop
  | .register d => s.nodes.has d.nodeID = true ∨ s.hostnameIdx.get d.hostname = none
  | _ => True

instance (s : Server) (d : Delta) : Decidable (BringsFree s d) := by
  rcases d <;> unfold BringsFree <;> infer_instance

/-- A registration in the log has a valid hostname. -/
def LogsValid : Delta → Prop
  | .register d => validateHostname d.hostname = .ok ()
  | _ => True

section

variable {now : Time} {s : Server}

theorem names_hostname (s : Server) : Text.hostname.names (view s) = hostnameIn s.nodes := by
  funext id
  rw [Text.names, view_nodes_get, Option.bind_map]
  rfl

private theorem applyOr_named (h : Named s.nodes s.hostnameIdx) {d : Delta} (hd : WellFormed d)
    (hvalid : LogsValid d) (hfree : BringsFree s d) :
    Named (applyOr now s d).nodes (applyOr now s d).hostnameIdx := by
  have hindex := h.index
  rw [← names_hostname] at hindex
  constructor
  · rw [← names_hostname]
    refine Text.hostname.indexes_applyOr now hd hindex ?_
    rintro x rfl
    exact hfree
  · intro id a ha
    rw [← names_hostname, view_applyOr now s hd] at ha
    cases Text.hostname.apply_applied (view s) d with
    | same d hidx hnames =>
      rw [hnames, names_hostname] at ha
      exact h.valid id a ha
    | entered d hgone hidx hnames =>
      rw [hnames, Function.update_apply, names_hostname] at ha
      split at ha
      · obtain ⟨-, rfl⟩ := (nonEmpty_eq_some _ _).mp ha
        exact hvalid
      · exact h.valid id a ha
    | left j hidx hnames =>
      rw [hnames, Function.update_apply, names_hostname] at ha
      split at ha
      · cases ha
      · exact h.valid id a ha

end

theorem load_named {s : Server} (h : Named s.nodes s.hostnameIdx) (horder : IsOrder order s.nodes) :
    Named (load order (save s)).nodes (load order (save s)).hostnameIdx := by
  have hidx : (load order (save s)).hostnameIdx = s.hostnameIdx := by
    rw [load_save_hostnameIdx]
    refine (indexBy_eq_iff _ _ _).mpr (fun name id => ?_) order horder
    rw [h.index, hostnameIn, Option.bind_eq_some_iff]
  rw [hidx, load_save_nodes order s horder]
  refine h.same (funext fun id => ?_)
  rw [hostnameIn, hostnameIn, GoMap.get_mapVals]
  cases s.nodes.get id <;> rfl

/-- The file is one of a state whose hostnames are right. -/
def FileNamed (snap : Snapshot) : Prop :=
  ∃ s, snap = save s ∧ Named s.nodes s.hostnameIdx

theorem boot_named {now : Time} {file : Option Snapshot} {log : List Delta}
    (hfile : ∀ snap ∈ file, FileNamed snap) (hlog : ∀ d ∈ log, LogsValid d)
    (horder : IsOrder order (diskNodes file))
    (hfree : Meets (applyOr now) BringsFree (baseState order file) (replayed log)) :
    Named (boot now order file log).nodes (boot now order file log).hostnameIdx := by
  have hbase : Named (baseState order file).nodes (baseState order file).hostnameIdx := by
    cases file with
    | none => exact named_empty
    | some snap =>
      obtain ⟨s, rfl, hs⟩ := hfile snap rfl
      exact load_named hs (isOrder_save horder)
  have hrestore : Named (restore now order file log).nodes
      (restore now order file log).hostnameIdx :=
    replay_keeps (P := fun s => Named s.nodes s.hostnameIdx)
      (fun _ d hmem hd hbrings hs => applyOr_named hs hd (hlog d hmem) hbrings) hfree hbase
  cases file <;> exact hrestore

/-! ## The standby -/

private theorem hostnameIdx_replicate (snap : Snapshot) (order : List NodeId) {r : Server}
    (hr : r.hostnameIdx.get "" = none) :
    (order.foldl (replicateNode snap) r).hostnameIdx.get "" = none := by
  induction order generalizing r with
  | nil => exact hr
  | cons id order ih =>
    refine ih ?_
    unfold replicateNode
    split
    · exact hr
    · split
      · exact hr
      · rw [fileReplica_hostnameIdx_get, if_neg fun h => h.2.1 rfl, indexOwner_hostnameIdx]
        exact hr

/-- A push leaves the standby with the same hostnames. -/
theorem applySnapshot_named {s : Server} (h : Named s.nodes s.hostnameIdx)
    (horder : IsOrder order s.nodes) (standby : Server) :
    Named (applySnapshot order standby (snapshotJSON s)).nodes
      (applySnapshot order standby (snapshotJSON s)).hostnameIdx := by
  have hosted := hosted_foldl s order
  set r := order.foldl (replicateNode (snapshotJSON s)) (emptyReplica s)
  show Named r.nodes r.hostnameIdx
  have hempty : r.hostnameIdx.get "" = none := hostnameIdx_replicate _ order rfl
  have hnames : hostnameIn r.nodes = hostnameIn s.nodes := by
    funext id
    cases hn : s.nodes.get id with
    | none => simp [hostnameIn, hn, hosted.others id (Or.inr hn)]
    | some n =>
      rcases hosted.nodes id ((horder.2 id).mpr (by simp [hn])) n hn with
        hsame | ⟨other, m, hdiff, hm, hshared, hne, -⟩
      · rw [hostnameIn_of_get hsame, hostnameIn_of_get hn]
        rfl
      · exact absurd (h.distinct hm hn hshared (hshared ▸ hne)) hdiff
  refine ⟨?_, hnames ▸ h.valid⟩
  rw [hnames]
  intro name id
  constructor
  · intro hid
    have hne : name ≠ "" := by
      rintro rfl
      rw [hempty] at hid
      cases hid
    exact hostnameIn_eq_some.mpr ⟨hne, (hosted.filed name id hid).2⟩
  · intro hid
    obtain ⟨hne, n, hn, rfl⟩ := hostnameIn_eq_some.mp hid
    obtain ⟨j, hj⟩ := Option.ne_none_iff_exists'.mp
      (hosted.taken id n ((horder.2 id).mpr (by simp [hn])) hn hne)
    obtain ⟨-, m, hm, hsame⟩ := hosted.filed _ j hj
    rw [hj, h.distinct hm hn hsame (hsame ▸ hne)]

end Rendezvous.Lifecycle

import Rendezvous.Lifecycle.Hostnames

/-!
# The owner index

The owner index leads from an owner to the node that is registered under
it, and keeps the entry when the node leaves, so that the owner can come
back to the id. A registration under an unknown key looks the owner up
first. Two other writers do not: a registered node that has no owner adopts
the one it names, and a key that comes back to its id brings whatever owner
it names; and a replayed registration puts its owner in the index whoever
has it. `owners_hold_runs` says that the index is right as long as none of
these meets an owner of another node, or an id kept for another owner.
-/

namespace Rendezvous.Lifecycle

open Base Registry Authz Rendezvous.Membership Directory Identity Admin Wal Persist Recovery Roster

variable {nodes : GoMap NodeId NodeInfo} {id : NodeId} {n : NodeInfo} {req : RegisterReq}
  {now : Time} {o : Outcome} {s' : Server} {E : NodeEnv} {order : List NodeId} {w : World}
  {e : World.Event}

/-- The owner index and the owners of the directory are right. -/
structure Owners (s : Server) : Prop where
  bound : ∀ o id n, s.ownerIdx.get o = some id → s.nodes.get id = some n → n.owner = o
  indexed : ∀ id n, s.nodes.get id = some n → n.owner ≠ "" → s.ownerIdx.get n.owner = some id
  distinct : ∀ i j n m, s.nodes.get i = some n → s.nodes.get j = some m →
    n.owner = m.owner → n.owner ≠ "" → i = j

/-- The owner named by a registration is not that of a registered node. -/
def OwnerFree (s : Server) (owner : String) : Prop :=
  ∀ id ∈ s.ownerIdx.get owner, s.nodes.get id = none

/-- No owner but this one is kept for the id. -/
def KeptFor (s : Server) (id : NodeId) (owner : String) : Prop :=
  ∀ o ∈ s.ownerIdx.keys, s.ownerIdx.get o = some id → owner ≠ "" ∧ owner = o

/-- The owner a replayed registration brings back is free. -/
def BringsOwner (s : Server) : Delta → Prop
  | .register d => s.nodes.has d.nodeID = true ∨ s.ownerIdx.get d.owner = none
  | _ => True

/-- A registered node that takes an owner, and a fresh record, find the
owner free; a fresh record is not filed under an id kept for another owner;
and a start finds every owner of the log free. -/
def KeepsOwners (E : NodeEnv) (w : World) (e : World.Event) : Prop :=
  (∀ f ∈ w.runs e, match f with
    | .register req _ _ .slow =>
      (∀ id ∈ knownId w.live req, ∀ n ∈ w.live.nodes.get id,
        req.owner ≠ "" → n.owner = "" → OwnerFree w.live req.owner) ∧
      ∀ filed ∈ w.files E e, OwnerFree w.live req.owner ∧ KeptFor w.live filed.1 req.owner
    | _ => True) ∧
  match e with
  | .start order => IsOrder order (diskNodes w.file) →
      Meets (applyOr w.clock) BringsOwner (baseState order w.file) (replayed w.log)
  | _ => True

instance (s : Server) (owner : String) : Decidable (OwnerFree s owner) :=
  inferInstanceAs (Decidable (∀ id ∈ s.ownerIdx.get owner, _))

instance (s : Server) (id : NodeId) (owner : String) : Decidable (KeptFor s id owner) :=
  inferInstanceAs (Decidable (∀ o ∈ s.ownerIdx.keys, _))

instance (s : Server) (d : Delta) : Decidable (BringsOwner s d) := by
  rcases d <;> unfold BringsOwner <;> infer_instance

instance (E : NodeEnv) (w : World) (e : World.Event) : Decidable (KeepsOwners E w e) := by
  unfold KeepsOwners
  refine @instDecidableAnd _ _ (@GoMap.decidableForallFound _ _ _ fun f => ?_) ?_
  · split <;> infer_instance
  · rcases e <;> infer_instance

/-! ## The directory and its index -/

/-- Who is registered, and under which owner if under any. -/
def ownerIn (nodes : GoMap NodeId NodeInfo) (id : NodeId) : Option (Option String) :=
  (nodes.get id).map fun n => nonEmpty n.owner

/-- The owners of the directory, and those it keeps an id for. -/
abbrev Owned (s : Server) : Prop := Reserves s.ownerIdx (ownerIn s.nodes)

private theorem ownerIn_eq_some {o : String} : ownerIn nodes id = some (some o) ↔
      o ≠ "" ∧ ∃ n, nodes.get id = some n ∧ n.owner = o := by
  simp only [ownerIn, Option.map_eq_some_iff, nonEmpty_eq_some]
  constructor
  · rintro ⟨n, hn, hne, rfl⟩
    exact ⟨hne, n, hn, rfl⟩
  · rintro ⟨hne, n, hn, rfl⟩
    exact ⟨n, hn, hne, rfl⟩

private theorem ownerIn_of_get (hn : nodes.get id = some n) :
    ownerIn nodes id = some (nonEmpty n.owner) := by
  simp [ownerIn, hn]

private theorem ownerIn_eq_none : ownerIn nodes id = none ↔ nodes.get id = none := by
  simp [ownerIn]

private theorem ownerIn_set (nodes : GoMap NodeId NodeInfo) (id : NodeId) (n : NodeInfo) :
    ownerIn (nodes.set id n) = Function.update (ownerIn nodes) id (some (nonEmpty n.owner)) := by
  funext j
  rw [ownerIn, GoMap.get_set, Function.update_apply]
  split <;> rfl

private theorem ownerIn_del (nodes : GoMap NodeId NodeInfo) (id : NodeId) :
    ownerIn (nodes.del id) = Function.update (ownerIn nodes) id none := by
  funext j
  rw [ownerIn, GoMap.get_del, Function.update_apply]
  split <;> rfl

private theorem ownerIn_modify {f : NodeInfo → NodeInfo} (hf : ∀ n, (f n).owner = n.owner)
    (nodes : GoMap NodeId NodeInfo) (id : NodeId) :
    ownerIn (nodes.modify id f) = ownerIn nodes := by
  funext j
  rw [ownerIn, GoMap.get_modify]
  split
  · next h =>
    subst h
    simp [ownerIn, Option.map_map, Function.comp_def, hf]
  · rfl

private theorem ownerIn_set_same {n' : NodeInfo} (hn : nodes.get id = some n)
    (howner : n'.owner = n.owner) :
    ownerIn (nodes.set id n') = ownerIn nodes := by
  rw [ownerIn_set, howner, ← ownerIn_of_get hn, Function.update_eq_self]

private theorem ownerIn_setNodeHostname (s : Server) (id : NodeId) (name : String) :
    ownerIn (setNodeHostname s id name).1.nodes = ownerIn s.nodes := by
  obtain ⟨rename, hnodes⟩ := setNodeHostname_nodes s id name
  rw [hnodes, ownerIn_modify]
  exact fun n => rfl

private theorem owned_empty : Reserves (∅ : GoMap String NodeId) (ownerIn ∅) where
  led := fun a k x hk => by cases hk
  held := fun k a hk => by cases hk
  single := fun a b k hk => by cases hk

theorem Owned.owners {s : Server} (h : Owned s) : Owners s where
  bound := fun o id n hid hn => by
    have howner := h.led o id _ hid (ownerIn_of_get hn)
    exact ((nonEmpty_eq_some _ _).mp howner).2
  indexed := fun id n hn hne => h.held id _ (ownerIn_eq_some.mpr ⟨hne, n, hn, rfl⟩)
  distinct := fun i j n m hn hm hsame hne =>
    h.unique (ownerIn_eq_some.mpr ⟨hne, n, hn, rfl⟩)
      (ownerIn_eq_some.mpr ⟨hne, m, hm, hsame.symm⟩)

/-! ## The writers -/

private theorem indexOwner_assign (s : Server) (owner : String) (id : NodeId) :
    (indexOwner s owner id).ownerIdx = assign s.ownerIdx (nonEmpty owner) id := by
  rw [assign_nonEmpty, indexOwner]
  by_cases h : owner = "" <;> simp [h]

/-- What the slow path does to the owners: none changes, or the owner of
the request enters under one id. -/
inductive OwnerForm (s : Server) (req : RegisterReq) (s' : Server) : Prop where
  | kept (hidx : s'.ownerIdx = s.ownerIdx) (hin : ownerIn s'.nodes = ownerIn s.nodes)
  | adopted (id : NodeId) (n : NodeInfo) (hid : knownId s req = some id)
      (hn : s.nodes.get id = some n) (hne : req.owner ≠ "") (hnone : n.owner = "")
      (hidx : s'.ownerIdx = assign s.ownerIdx (nonEmpty req.owner) id)
      (hin : ownerIn s'.nodes = Function.update (ownerIn s.nodes) id (some (nonEmpty req.owner)))
  | filed (id : NodeId) (hid : filedId s req = some id)
      (hidx : s'.ownerIdx = assign s.ownerIdx (nonEmpty req.owner) id)
      (hin : ownerIn s'.nodes = Function.update (ownerIn s.nodes) id (some (nonEmpty req.owner)))

section

variable {s : Server}

private theorem ownerIn_fileNode (s : Server) (id : NodeId) (n : NodeInfo) (name : String) :
    ownerIn (fileNode s id n name).1.nodes =
      Function.update (ownerIn s.nodes) id (some (nonEmpty n.owner)) := by
  rw [fileNode, ownerIn_setNodeHostname, addNodeToBackbone_nodes, ownerIn_set]

theorem slowRefresh_owner (E : Env) (now : Time) (hidx : s.pubKeyIdx.get req.publicKey = some id)
    (hn : s.nodes.get id = some n) :
    OwnerForm s req (slowRefresh E now s req id n).server := by
  have hid : knownId s req = some id := knownId_eq_some.mpr ⟨hidx, n, hn⟩
  by_cases htakes : req.owner ≠ "" ∧ n.owner = ""
  · refine .adopted id n hid hn htakes.1 htakes.2 ?_ ?_
    · simp only [slowRefresh, setNodeHostname_ownerIdx, if_pos htakes]
      exact indexOwner_assign _ req.owner id
    · simp only [slowRefresh, ownerIn_setNodeHostname, if_pos htakes, indexOwner_nodes]
      exact ownerIn_set ..
  · refine .kept ?_ ?_
    · simp only [slowRefresh, setNodeHostname_ownerIdx, if_neg htakes]
    · simp only [slowRefresh, ownerIn_setNodeHostname, if_neg htakes]
      exact ownerIn_set_same hn rfl

private theorem slowPath_owner {E : Env} {order : List NetId} {key : Bytes}
    (h : slowPath E now order s req key = .ok o) :
    OwnerForm s req o.server := by
  cases slowPath_end h with
  | refreshed id n hidx hn => exact slowRefresh_owner E now hidx hn
  | byKey id hidx hid hknown =>
    refine .filed id hid ?_ ?_
    · simp only [reclaimByKey, fileNode_ownerIdx, indexOwner_assign]
    · simp only [reclaimByKey, ownerIn_fileNode, indexOwner_nodes]
      rfl
  | new o hidx hid hknown h =>
    rw [registerNew_server h]
    refine .filed s.nextNode hid ?_ ?_
    · simp only [fileNode_ownerIdx, indexOwner_assign]
    · simp only [ownerIn_fileNode, indexOwner_nodes]
      rfl
  | byOwner id hidx hne hown hid hknown =>
    refine .filed id hid ?_ ?_
    · simp only [reclaimByOwner, fileNode_ownerIdx]
      rw [assign_nonEmpty, if_pos hne, GoMap.set_get_self _ hown]
    · simp only [reclaimByOwner, ownerIn_fileNode]
      rfl

/-- An owner that is free, under an id kept for no other. -/
theorem Owned.enter (h : Owned s) {owner : String} (hfree : OwnerFree s owner)
    (hkept : KeptFor s id owner) (hidx : s'.ownerIdx = assign s.ownerIdx (nonEmpty owner) id)
    (hin : ownerIn s'.nodes = Function.update (ownerIn s.nodes) id (some (nonEmpty owner))) :
    Owned s' := by
  unfold Owned
  rw [hidx, hin, h.enter_iff]
  constructor
  · intro a ha j hj
    obtain ⟨-, rfl⟩ := (nonEmpty_eq_some _ _).mp ha
    exact Or.inr (ownerIn_eq_none.mpr (hfree j hj))
  · intro a ha
    have hkey : a ∈ s.ownerIdx.keys := (GoMap.mem_keys ..).mpr ⟨id, ha⟩
    exact (nonEmpty_eq_some _ _).mpr (hkept a hkey ha)

/-- Nothing is said of a state but its owners. -/
theorem Owned.same (h : Owned s) (hidx : s'.ownerIdx = s.ownerIdx)
    (hin : ownerIn s'.nodes = ownerIn s.nodes) : Owned s' := by
  unfold Owned
  rw [hidx, hin]
  exact h

theorem Owned.modify (h : Owned s) (id : NodeId) {f : NodeInfo → NodeInfo}
    (hf : ∀ n, (f n).owner = n.owner) : Owned { s with nodes := s.nodes.modify id f } :=
  h.same rfl (ownerIn_modify hf s.nodes id)

theorem Owned.slow (h : Owned s) (hs : OwnerForm s req s')
    (hknown : ∀ id ∈ knownId s req, ∀ n ∈ s.nodes.get id,
      req.owner ≠ "" → n.owner = "" → OwnerFree s req.owner)
    (hfiled : ∀ id ∈ filedId s req, OwnerFree s req.owner ∧ KeptFor s id req.owner) :
    Owned s' := by
  cases hs with
  | kept hidx hin => exact h.same hidx hin
  | adopted id n hid hn hne hnone hidx hin =>
    refine h.enter (hknown id hid n hn hne hnone) (fun o _ ho => ?_) hidx hin
    have hled := h.led o id _ ho (ownerIn_of_get hn)
    rw [hnone] at hled
    cases hled
  | filed id hid hidx hin =>
    obtain ⟨hfree, hkept⟩ := hfiled id hid
    exact h.enter hfree hkept hidx hin

theorem Owned.depart (h : Owned s) : Owned (departNode s id n) := by
  have hidx : (departNode s id n).ownerIdx = s.ownerIdx :=
    (sameBindings_dropHostname _ n.hostname).ownerIdx
  unfold Owned
  rw [hidx, departNode_nodes, ownerIn_del]
  exact h.leave id

theorem Owned.sweepOne (h : Owned s) (threshold : Time) (cand : NodeId × String) :
    Owned (sweepOne threshold s cand) := by
  unfold Lifecycle.sweepOne
  split
  · split
    · have hidx : (dropCandidate s cand).ownerIdx = s.ownerIdx :=
        (sameBindings_dropHostname _ cand.2).ownerIdx
      unfold Owned
      rw [hidx, dropCandidate_nodes, ownerIn_del]
      exact h.leave cand.1
    · exact h
  · exact h

theorem Owned.sweep (h : Owned s) (threshold : Time) (cands : List (NodeId × String)) :
    Owned (cands.foldl (Lifecycle.sweepOne threshold) s) := by
  induction cands generalizing s with
  | nil => exact h
  | cons cand cands ih => exact ih (h.sweepOne threshold cand)

theorem Owned.amends {N : NodeId → String → Prop} {C : Prop} (hs : Amends N C s s') (h : Owned s) :
    Owned s' := by
  induction hs with
  | refl s => exact h
  | trans _ _ ih ih' => exact ih' (ih h)
  | other hs =>
    rw [hs]
    exact h
  | number s netID hC => exact h
  | record s id hf => exact h.modify id fun n => by rw [hf n]
  | name s hname =>
    unfold takeDisplayName
    simp only
    split
    · refine h.same rfl (ownerIn_modify (fun n => ?_) s.nodes _)
      rfl
    · exact h

theorem Owned.commit (h : Owned s) {c : Checked} (ho : c.commit E now s = .ok o) :
    Owned o.server := by
  obtain ⟨n, nets, hn, hnodes⟩ := (commit_commits ho).writes
  refine h.same (by rw [(commit_commits ho).frame]) ?_
  rw [hnodes]
  refine ownerIn_set_same hn ?_
  cases c.setting <;> rfl

end

/-! ## The file, the log and the standby -/

/-- The index has the owners of the directory and no others. -/
abbrev OwnersListed (s : Server) : Prop :=
  Indexes s.ownerIdx fun id => (ownerIn s.nodes id).join

private theorem names_owner (s : Server) :
    Text.owner.names (view s) = fun id => (ownerIn s.nodes id).join := by
  funext id
  rw [Text.names, view_nodes_get, ownerIn]
  cases s.nodes.get id <;> rfl

private theorem applyOr_owners {s : Server} (h : OwnersListed s) {d : Delta} (hd : WellFormed d)
    (hfree : BringsOwner s d) : OwnersListed (applyOr now s d) := by
  unfold OwnersListed at h ⊢
  rw [← names_owner] at h ⊢
  refine Text.owner.indexes_applyOr now hd h ?_
  rintro x rfl
  exact hfree

/-- The index a loop over the records builds has the owners of the records,
where no two have one owner. -/
theorem Owned.indexBy {s : Server} (h : Owned s) (horder : IsOrder order s.nodes) :
    Indexes (GoMap.indexBy (fun n => nonEmpty n.owner) order s.nodes)
      fun id => (ownerIn s.nodes id).join := by
  have hjoin : ∀ id o, (ownerIn s.nodes id).join = some o ↔
      ∃ n, s.nodes.get id = some n ∧ nonEmpty n.owner = some o := by
    intro id o
    cases hn : s.nodes.get id <;> simp [ownerIn, hn]
  intro o id
  rw [hjoin]
  constructor
  · intro hid
    exact (GoMap.of_get_indexBy _ _ _ hid).2
  · rintro ⟨n, hn, hne⟩
    have hmem : id ∈ order := (horder.2 id).mpr (by simp [hn])
    obtain ⟨j, hj⟩ := GoMap.exists_get_indexBy (fun n => nonEmpty n.owner) _ _ hmem hn hne
    obtain ⟨-, m, hm, hme⟩ := GoMap.of_get_indexBy _ _ _ hj
    have hm' : ownerIn s.nodes j = some (some o) := by rw [ownerIn_of_get hm, hme]
    have hn' : ownerIn s.nodes id = some (some o) := by rw [ownerIn_of_get hn, hne]
    rw [hj, h.unique hm' hn']

private theorem load_owners {s : Server} (h : Owned s) (horder : IsOrder order s.nodes) :
    OwnersListed (load order (save s)) := by
  have hin : ownerIn (load order (save s)).nodes = ownerIn s.nodes := by
    funext id
    rw [load_save_nodes order s horder, ownerIn, GoMap.get_mapVals, Option.map_map]
    rfl
  unfold OwnersListed
  rw [load_save_ownerIdx, hin]
  exact h.indexBy horder

/-- A push leaves the standby with the same owners. -/
theorem applySnapshot_owned {s : Server} (h : Owned s) (horder : IsOrder order s.nodes)
    (standby : Server) :
    Owned (applySnapshot order standby (snapshotJSON s)) := by
  have hin : ownerIn (applySnapshot order standby (snapshotJSON s)).nodes = ownerIn s.nodes := by
    have hosted := hosted_foldl s order
    set r := order.foldl (replicateNode (snapshotJSON s)) (emptyReplica s)
    funext id
    show ownerIn r.nodes id = _
    cases hn : s.nodes.get id with
    | none => simp [ownerIn, hn, hosted.others id (Or.inr hn)]
    | some n =>
      rcases hosted.nodes id ((horder.2 id).mpr (by simp [hn])) n hn with
        hsame | ⟨_, _, _, _, _, _, hsame⟩
      all_goals
        rw [ownerIn_of_get hsame, ownerIn_of_get hn]
        rfl
  refine Indexes.reserves ?_
  rw [replica_ownerIdx, hin]
  exact h.indexBy horder

/-- The file is one of a state whose owners are right. -/
def FileOwned (snap : Snapshot) : Prop := ∃ s, snap = save s ∧ Owned s

private theorem boot_owned {file : Option Snapshot} {log : List Delta}
    (hfile : ∀ snap ∈ file, FileOwned snap) (horder : IsOrder order (diskNodes file))
    (hfree : Meets (applyOr now) BringsOwner (baseState order file) (replayed log)) :
    Owned (boot now order file log) := by
  have hbase : OwnersListed (baseState order file) := by
    cases file with
    | none => exact Indexes.empty
    | some snap =>
      obtain ⟨s, rfl, hs⟩ := hfile snap rfl
      exact load_owners hs (isOrder_save horder)
  have hrestore : OwnersListed (restore now order file log) :=
    replay_keeps (fun _ _ _ hd hbrings hs => applyOr_owners hs hd hbrings) hfree hbase
  refine Indexes.reserves ?_
  cases file <;> exact hrestore

/-! ## Whole runs -/

/-- Owners are right in memory, in every copy of it and in the file. -/
structure OwnersRight (w : World) : Prop where
  live : Owned w.live
  copies : ∀ s ∈ w.copies, Owned s
  file : ∀ snap ∈ w.file, FileOwned snap
  standby : ∀ s ∈ w.standby, Owned s

private theorem ownersRight_fresh (now : Time) : OwnersRight (World.fresh now) where
  live := owned_empty
  copies := fun s hs => by cases hs
  file := fun snap hsnap => by cases hsnap
  standby := fun s hs => by cases hs

/-- The slow path of a registration leaves memory as it is, or as the path
makes it. -/
theorem slow_live {req : RegisterReq} {key : Bytes} {ext : String}
    (hf : w.runs e = some (.register req key ext .slow)) :
    (w.step E e).live = w.live ∨ OwnerForm w.live req (w.step E e).live := by
  obtain ⟨order, logged, v, hran, hlive⟩ := runs_ran (E := E) hf
  rw [hlive]
  cases hran with
  | same => exact Or.inl rfl
  | slow _ _ _ o _ ho => exact Or.inr (slowPath_owner ho)

theorem OwnersRight.live_step (h : OwnersRight w) (hkeeps : KeepsOwners E w e) :
    Owned (w.step E e).live := by
  obtain ⟨hslow, hevent⟩ := hkeeps
  have hlive := h.live
  have hacts := step_acts E w e
  have hforms := @slow_live E w e
  generalize (w.step E e).live = s' at hacts hforms ⊢
  cases hacts with
  | fast _ _ _ _ id | external _ _ _ id | beat _ id => exact hlive.modify id fun n => rfl
  | slow req key ext s hf hs hfiles =>
    rcases hforms hf with heq | hform
    · rw [heq]
      exact hlive
    · obtain ⟨hknown, hfiled⟩ := hslow _ hf
      refine hlive.slow hform hknown fun id hid => ?_
      exact hfiled (id, key) (by rw [hfiles, Option.mem_def.mp hid]; rfl)
  | set msg c gated o hf ho => exact hlive.commit ho
  | rotated id text key n hf hn | noted id text key r n hf hn hnew
  | forced id text key r n hf hn => exact hlive.same rfl (ownerIn_set_same hn rfl)
  | swept threshold cands hf => exact hlive.sweep threshold _
  | deregistered n msg logged hn => exact hlive.depart
  | amended op logged hop => exact Owned.amends (step_amends hop) hlive
  | started order horder => exact boot_owned h.file horder (hevent horder)
  | failedOver s hs => exact h.standby _ hs
  | _ => exact hlive

theorem OwnersRight.step (h : OwnersRight w) (hkeeps : KeepsOwners E w e) :
    OwnersRight (w.step E e) := by
  refine ⟨h.live_step hkeeps, fun s hs => ?_, fun snap hsnap => ?_, fun s hs => ?_⟩
  · rcases mem_step_copies hs with ⟨hold, -⟩ | ⟨-, rfl⟩
    · exact h.copies s hold
    · exact h.live
  · rcases mem_step_file hsnap with hold | ⟨s, hs, rfl⟩
    · exact h.file snap hold
    · exact ⟨s, rfl, hs.elim (h.copies s) (h.standby s)⟩
  · rcases mem_step_standby hs with hold | ⟨order, horder, rfl⟩
    · exact h.standby s hold
    · exact applySnapshot_owned h.live horder _

/-- In every run in which a node that takes an owner and a fresh record find
the owner free, no fresh record is filed under an id kept for another
owner, and every start finds the owners of the log free, the index leads to
a registered node only from its own owner, it has the owner of every
registered node, and no two have one owner. -/
theorem owners_hold_runs (E : NodeEnv) (now : Time) (es : List World.Event)
    (h : Meets (World.step E) (KeepsOwners E) (World.fresh now) es) :
    Owners (run (World.step E) (World.fresh now) es).live :=
  (h.invariant (World.step E) (P := OwnersRight) (fun _ _ hkeeps hw => hw.step hkeeps)
    (ownersRight_fresh now)).live.owners

/-! ## An owner adopted from another node -/

/-- A node registers with a key and an owner, when no other request is in
flight. -/
def registersFor (key owner : String) (sections : Nat) : List World.Event :=
  .register "host" [("public_key", .str key), ("listen_addr", .str "host:1"),
      ("owner", .str owner)] ::
    List.replicate sections (.go 0 [0] true)

/-- Node 1 registers for `a` and is reaped; its key comes back for `a`, and
node 2 adopts `b`. -/
theorem owners_hold_runs_reclaimed :
    let es := registersFor "AAAA" "a" 2 ++ registersFor "BBBB" "" 2 ++
      [.tick 10, .scan 5 [1], .go 0 [0] true] ++ registersFor "AAAA" "a" 2 ++
      registersFor "BBBB" "b" 3 ++ [.start []]
    Owners (run (World.step .plain) (World.fresh 0) es).live ∧
      (run (World.step .plain) (World.fresh 0) es).live.ownerIdx.get "a" = some 1 :=
  ⟨owners_hold_runs .plain 0 _ (by decide +kernel), by decide +kernel⟩

/-- Node 1 registers for `a`, and node 2 without an owner. When node 2
registers again for `a`, it adopts the owner, and takes its entry over. -/
theorem owner_adopted_twice :
    let w := run (World.step .plain) (World.fresh 0)
      (registersFor "AAAA" "a" 2 ++ registersFor "BBBB" "" 2 ++ registersFor "BBBB" "a" 3)
    (w.live.nodes.get 1).map NodeInfo.owner = some "a" ∧
      (w.live.nodes.get 2).map NodeInfo.owner = some "a" ∧
      w.live.ownerIdx.get "a" = some 2 ∧ ¬ Owners w.live := by
  intro w
  have hindex : w.live.ownerIdx.get "a" = some 2 := by decide +kernel
  have hone : (w.live.nodes.get 1).map NodeInfo.owner = some "a" := by decide +kernel
  refine ⟨hone, by decide +kernel, hindex, fun h => ?_⟩
  obtain ⟨n, hn, howner⟩ := Option.map_eq_some_iff.mp hone
  have hback := h.indexed 1 n hn (by rw [howner]; decide)
  rw [howner, hindex] at hback
  exact absurd hback (by decide)

end Rendezvous.Lifecycle

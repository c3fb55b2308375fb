import Rendezvous.Roster.Counters
import Rendezvous.Roster.Disk
import Rendezvous.Roster.Mirror

/-!
# Both sides of the roll across restarts

A file saved from a mirrored roll loads into one. The log on top of it
keeps it mirrored as long as no network but the backbone still lists a node
that is registered again. Without a file the backbone is created after the
log was replayed, so a node the log left registered is not on it.
-/

namespace Rendezvous.Roster

open Base Registry Rendezvous.Membership Directory Identity Admin Wal Persist Recovery

variable {now : Time} {s : Server}

/-! ## The log over a mirrored roll -/

namespace Mirrored

theorem createDelta (h : Mirrored (roll s)) (d : NetworkCreateDelta) :
    Mirrored (roll (applyOr now s (.networkCreate d))) := by
  rw [roll_createDelta]
  split
  · exact h
  · next hhas =>
    rw [Bool.not_eq_true, GoMap.has_eq_false] at hhas
    have hfree : (roll s).networks.get d.networkID = none := hhas
    split
    · next hzero =>
      have hempty : (deltaNetwork now d).members = [] := if_pos hzero
      exact h.place hfree hempty
    · next hzero =>
      have hone : (deltaNetwork now d).members = [d.creatorNodeID] := if_neg hzero
      -- Nobody lists the network yet, so the creator's list gets it.
      rw [GoMap.modify_congr (g := fun nets => nets ++ [d.networkID])]
      · exact h.found hfree hone
      · intro nets hnets
        unfold enlist
        rw [if_neg]
        rw [List.contains_iff_mem]
        exact h.unlisted hfree hnets

theorem joinDelta (h : Mirrored (roll s)) (id : NodeId) (netID : NetId) :
    Mirrored (roll (applyOr now s (.networkJoin id netID))) := by
  rw [roll_joinDelta]
  split
  · next hboth =>
    rw [Bool.and_eq_true, GoMap.has_eq_true, GoMap.has_eq_true] at hboth
    obtain ⟨⟨net, hnet⟩, ⟨n, hn⟩⟩ := hboth
    have hlist : (roll s).lists.get id = some n.networks := by
      rw [roll_lists_get, hn]
      rfl
    have hagree : netID ∈ n.networks ↔ id ∈ net.members := h.agree hlist hnet
    by_cases hin : id ∈ net.members
    · -- Both sides have it already.
      rw [GoMap.modify_eq_self, GoMap.modify_eq_self]
      · exact h
      · intro net' hnet'
        cases hnet.symm.trans hnet'
        exact if_pos (List.contains_iff_mem.mpr hin)
      · intro nets hnets
        cases hlist.symm.trans hnets
        exact if_pos (List.contains_iff_mem.mpr (hagree.mpr hin))
    · rw [GoMap.modify_congr (g := fun nets => nets ++ [netID]),
        GoMap.modify_congr (g := fun net => joinedAs net id .member)]
      · exact h.join hlist hnet (fun hlisted => hin (hagree.mp hlisted)) .member
      · intro net' hnet'
        cases hnet.symm.trans hnet'
        rw [joinedAs_member]
        exact if_neg (by rw [List.contains_iff_mem]; exact hin)
      · intro nets hnets
        cases hlist.symm.trans hnets
        exact if_neg (by rw [List.contains_iff_mem, hagree]; exact hin)
  · exact h

end Mirrored

/-- A register delta brings no node back that a network still lists. -/
def Fits (s : Server) : Delta → Prop
  | .register d => s.nodes.get d.nodeID = none → Unlisted s d.nodeID
  | _ => True

theorem Mirrored.applied (h : Mirrored (roll s)) {d : Delta} (hd : WellFormed d)
    (hoff : OffBackbone d) (hfits : Fits s d) :
    Mirrored (roll (applyOr now s d)) := by
  cases d with
  | register x =>
    rw [roll_registerDelta hd]
    split
    · exact h
    · next hgone =>
      rw [Bool.not_eq_true, GoMap.has_eq_false] at hgone
      exact h.arrive_alone (hfits hgone)
  | deregister id =>
    rw [roll_deregisterDelta]
    split
    · exact h.depart id
    · exact h
  | networkCreate x => exact h.createDelta x
  | networkDelete netID =>
    rw [roll_deleteDelta]
    split
    · exact h.remove hoff
    · exact h
  | networkJoin id netID => exact h.joinDelta id netID
  | networkLeave id netID =>
    rw [roll_leaveDelta]
    split
    · exact h.drop (Or.inl hoff)
    · exact h
  | keyRotation x =>
    rw [roll_rotationDelta]
    exact h

variable {log : List Delta} {order : List NodeId} {id : NodeId}

/-- The file of a mirrored state loads into a mirrored state. -/
theorem Mirrored.loaded (h : Mirrored (roll s)) (hord : IsOrder order s.nodes) :
    Mirrored (roll (load order (save s))) := by
  refine h.of_sameMembers ?_ fun t => ?_
  · ext1 id
    rw [roll_lists_get, roll_lists_get, load_save_nodes order s hord,
      GoMap.get_mapVals, Option.map_map]
    rfl
  · show ((load order (save s)).networks.get t).map NetworkInfo.members = _
    rw [load_save_networks, GoMap.get_mapVals, Option.map_map]
    rfl

theorem Mirrored.replayed {snap : Snapshot} (h : Mirrored (roll (load order snap)))
    (hoff : ∀ d ∈ log, OffBackbone d)
    (hfits : Meets (applyOr now) Fits (load order snap) (replayed log)) :
    Mirrored (roll (boot now order (some snap) log)) := by
  show Mirrored (roll (replay now (load order snap) log))
  exact replay_keeps (P := fun s => Mirrored (roll s))
    (fun _ d hmem hd hfit hs => hs.applied hd (hoff d hmem) hfit) hfits h

/-! ## The log without a file -/

/-- Every node the log registers it deregisters later. -/
def LeavesNobody (log : List Delta) : Prop :=
  ∀ as d bs, log = as ++ .register d :: bs → .deregister d.nodeID ∈ bs

theorem roll_listed_iff {s : Server} :
    (roll s).lists.get id ≠ none ↔ (view s).nodes.get id ≠ none := by
  rw [roll_lists_get, view_nodes_get, Ne, Ne, Option.map_eq_none_iff, Option.map_eq_none_iff]

/-- Where a node that is registered after a delta comes from. -/
theorem listed_applyOr {d : Delta} (hd : WellFormed d)
    (h : (roll (applyOr now s d)).lists.get id ≠ none) :
    (∃ x, d = .register x ∧ x.nodeID = id) ∨ d ≠ .deregister id ∧ (roll s).lists.get id ≠ none := by
  rw [roll_listed_iff, view_applyOr now s hd] at h
  rcases recorded_apply h with hold | hnew
  · right
    refine ⟨?_, roll_listed_iff.mpr hold⟩
    rintro rfl
    exact h (deregister_absent (view s) id)
  · exact Or.inl hnew

/-- A node that is registered after some deltas was registered before and
never deregistered, or by one of them and not deregistered since. -/
theorem listed_foldl {ds : List Delta} (hds : ∀ d ∈ ds, WellFormed d)
    (h : (roll (ds.foldl (applyOr now) s)).lists.get id ≠ none) :
    (roll s).lists.get id ≠ none ∧ .deregister id ∉ ds ∨
      ∃ as d bs, ds = as ++ .register d :: bs ∧ d.nodeID = id ∧ .deregister id ∉ bs := by
  induction ds generalizing s with
  | nil => exact Or.inl ⟨h, by simp⟩
  | cons e ds ih =>
    rcases ih (fun x hx => hds x (by simp [hx])) h with
      ⟨hlisted, hkept⟩ | ⟨as, d, bs, hsplit, hid, hkept⟩
    · rcases listed_applyOr (hds e (by simp)) hlisted with
        ⟨x, rfl, hid⟩ | ⟨hne, hold⟩
      · exact Or.inr ⟨[], x, ds, rfl, hid, hkept⟩
      · left
        refine ⟨hold, ?_⟩
        rw [List.mem_cons]
        rintro (heq | hin)
        · exact hne heq.symm
        · exact hkept hin
    · exact Or.inr ⟨e :: as, d, bs, by rw [hsplit]; rfl, hid, hkept⟩

/-- Where nobody is registered, only the member lists have to be right. -/
theorem Mirrored.of_nobody {r : Roll} (hnobody : ∀ id, r.lists.get id = none)
    (honce : r.networks.All fun net => net.members.Nodup)
    (hroot : r.networks.get 0 ≠ none) : Mirrored r where
  agree := fun hlist _ => by simp [hnobody] at hlist
  once := honce
  home := fun hlist => by simp [hnobody] at hlist
  listed := fun hlist => by simp [hnobody] at hlist
  known := fun hlist => by simp [hnobody] at hlist
  root := hroot

theorem Mirrored.booted (h : LeavesNobody (Wal.replayed log)) :
    Mirrored (roll (boot now order none log)) := by
  have hds : ∀ d ∈ Wal.replayed log, WellFormed d := fun d hd =>
    wellFormed_of_replayed hd
  let started := (Wal.replayed log).foldl (applyOr now) ({} : Server)
  have hboot : roll (boot now order none log) = { roll started with
      networks := (roll started).networks.set 0 (backbone now) } := by
    show { roll (replay now {} log) with
      networks := (roll (replay now {} log)).networks.set 0 (backbone now) } = _
    rw [replay_eq_foldl]
  rw [hboot]
  refine .of_nobody (fun id => ?_) ?_ ?_
  · by_contra hlisted
    rcases listed_foldl (s := {}) hds hlisted with ⟨hold, -⟩ | ⟨as, d, bs, hsplit, rfl, hkept⟩
    · exact hold (by rw [roll_lists_get, GoMap.get_empty]; rfl)
    · exact hkept (h as d bs hsplit)
  · have htidy : Recovery.Tidy (view started) := by
      refine List.foldlRecOn (motive := fun s : Server => Recovery.Tidy (view s)) _ _ ?_ ?_
      · exact ⟨nofun, nofun⟩
      · intro s hs d hd
        rw [view_applyOr now s (hds d hd)]
        exact hs.apply d
    have hstarted : started.networks.All fun net => net.members.Nodup := fun netID net hnet =>
      htidy.nets netID (netView net) (by rw [view_networks_get, hnet]; rfl)
    exact hstarted.set 0 List.nodup_nil
  · show ((roll started).networks.set 0 (backbone now)).get 0 ≠ none
    simp

/-! ## Whole runs -/

/-- The two sides of the membership relation agree on every registered
node, no network lists a node twice, and every registered node is on the
backbone. -/
def BothSides (s : Server) : Prop :=
  (∀ id n netID, s.nodes.get id = some n → (netID ∈ n.networks ↔
      ∃ net, s.networks.get netID = some net ∧ id ∈ net.members)) ∧
  (∀ netID net, s.networks.get netID = some net → net.members.Nodup) ∧
  ∀ id n, s.nodes.get id = some n → ∃ net, s.networks.get 0 = some net ∧ id ∈ net.members

theorem Mirrored.bothSides (h : Mirrored (roll s)) : BothSides s := by
  have hlist : ∀ {id n}, s.nodes.get id = some n → (roll s).lists.get id = some n.networks := by
    intro id n hn
    rw [roll_lists_get, hn]
    rfl
  have hsides : ∀ id n netID, s.nodes.get id = some n → (netID ∈ n.networks ↔
        ∃ net, s.networks.get netID = some net ∧ id ∈ net.members) := by
    intro id n netID hn
    constructor
    · intro hin
      obtain ⟨net, hnet⟩ := Option.ne_none_iff_exists'.mp (h.known (hlist hn) hin)
      exact ⟨net, hnet, (h.agree (hlist hn) hnet).mp hin⟩
    · rintro ⟨net, hnet, hmem⟩
      exact (h.agree (hlist hn) hnet).mpr hmem
  exact ⟨hsides, h.once, fun id n hn => (hsides id n 0 hn).mp (h.home (hlist hn))⟩

/-- What the events have to meet: the commands as in `Mirrors`, and a start
a log that fits the file, or leaves nobody registered if there is none. -/
def Disk.Mirrors (E : AdminEnv) (d : Disk) : Disk.Event → Prop
  | .command op _ => Roster.Mirrors E d.live op
  | .start now order =>
    match d.file with
    | none => LeavesNobody (replayed d.log)
    | some snap => IsOrder order snap.nodes →
        Meets (applyOr now) Fits (load order snap) (replayed d.log)
  | _ => True

theorem mirrored_event {E : AdminEnv} {d : Disk} {e : Disk.Event}
    (hmeets : d.Mirrors E e)
    (h : d.Holds (fun s => Mirrored (roll s)) OffBackbone) :
    (d.step E e).Holds (fun s => Mirrored (roll s)) OffBackbone := by
  refine h.step ?_ (fun op _ _ => handle_offBackbone E d.live op) ?_
  · rintro op logged rfl
    exact mirrored_step hmeets h.live
  · rintro now order rfl hord
    cases hfile : d.file with
    | none =>
      simp only [Disk.Mirrors, hfile] at hmeets
      exact .booted hmeets
    | some snap =>
      simp only [Disk.Mirrors, hfile] at hmeets
      rw [hfile] at hord
      obtain ⟨s, hs, rfl⟩ := h.file snap hfile
      exact .replayed (hs.loaded (isOrder_save hord)) h.log (hmeets hord)

/-- In every run whose events meet their conditions, from a registry
started for the first time, the two sides agree in every state. -/
theorem bothSides_runs (E : AdminEnv) (now : Time) (es : List Disk.Event)
    (hmeets : Meets (Disk.step E) (Disk.Mirrors E) (Disk.fresh now) es)
    (before : List Disk.Event) (hbefore : before <+: es) :
    BothSides (run (Disk.step E) (Disk.fresh now) before).live := by
  have hholds : (run (Disk.step E) (Disk.fresh now) before).Holds
      (fun s => Mirrored (roll s)) OffBackbone :=
    (hmeets.initial _ hbefore).invariant _ (fun _ _ => mirrored_event)
      (.fresh (mirrored_freshServer now))
  exact hholds.live.bothSides

/-! ## A reclaimed id -/

/-- A registration for the owner `alice`. -/
def registerAlice (now : Time) (order : List NetId) (key : String) : Disk.Event :=
  .command (.register now order "" [("public_key", .str key), ("owner", .str "alice")]) true

/-- A node registers and creates a network, and is reaped. -/
def reapedRun : List Disk.Event :=
  [registerAlice 0 [0] "AAAA", .command (.createNetwork 0 (operatorMsg [("node_id", .num 1),
      ("name", .str "lab")])) true,
    .command (.reap 1 [1]) true]

/-- The owner comes back under a new key: the node's id is filed again with
the backbone alone, and the network still lists it. -/
theorem owner_reclaim_parts_sides : ¬ ∀ (E : AdminEnv) (now : Time) (es : List Disk.Event),
      BothSides (run (Disk.step E) (Disk.fresh now) es).live := by
  intro h
  let s := (run (Disk.step .plain) (Disk.fresh 0)
    (reapedRun ++ [registerAlice 2 [0, 1] "BBBB"])).live
  have hnode : (s.nodes.get 1).any (fun n => decide (n.networks = [0])) = true := by
    decide
  have hnet : (s.networks.get 1).any (fun net => decide (net.members = [1])) = true := by
    decide
  obtain ⟨n, hn, hnets⟩ := (Option.any_eq_true _ _).mp hnode
  obtain ⟨net, hnet, hmembers⟩ := (Option.any_eq_true _ _).mp hnet
  rw [decide_eq_true_eq] at hnets hmembers
  have hin := ((h .plain 0 _).1 1 n 1 hn).mpr ⟨net, hnet, by simp [hmembers]⟩
  rw [hnets] at hin
  exact absurd hin (by decide)

instance (s : Server) (id : NodeId) : Decidable (Unlisted s id) :=
  decidable_of_iff
    (∀ netID net, s.networks.get netID = some net → netID ≠ 0 → id ∉ net.members)
    ⟨fun h netID net hzero hnet => h netID net hnet hzero,
      fun h netID net hnet hzero => h netID net hzero hnet⟩

/-- The node comes back under its key, and the process is restarted from a
file that has all of it. -/
def restartedRun : List Disk.Event :=
  reapedRun ++ [registerAlice 2 [0, 1] "AAAA", .copy, .replace 0, .truncate, .start 3 [1]]

theorem restartedRun_mirrors :
    Meets (Disk.step .plain) (Disk.Mirrors .plain) (Disk.fresh 0) restartedRun := by
  let s := (run (Disk.step .plain) (Disk.fresh 0) (reapedRun.take 1)).live
  have hfree : s.networks.get s.nextNet = none := by decide
  refine ⟨fun _ _ => ?_, fun _ => hfree, fun _ => trivial, fun _ hidx => ?_,
    trivial, trivial, trivial, fun _ => trivial, trivial⟩
  · decide
  · exact absurd hidx (by decide)

theorem bothSides_runs_restarted :
    BothSides (run (Disk.step .plain) (Disk.fresh 0) restartedRun).live ∧
      ((run (Disk.step .plain) (Disk.fresh 0) restartedRun).live.nodes.get 1).any
        (fun n => decide (n.networks = [0, 1])) = true :=
  ⟨bothSides_runs .plain 0 restartedRun restartedRun_mirrors _ List.prefix_rfl,
    by decide⟩

end Rendezvous.Roster

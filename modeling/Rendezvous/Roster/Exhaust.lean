import Rendezvous.Roster.Allocate

/-!
# Ids across restarts

A restart reads the counters from the file and moves them past the ids of
the log. It finds a counter that has wrapped as it was, unless the file and
the log do not know of it, or the log brings back an id the file no longer
has: the applier takes the counter at zero for one that is behind.
-/

namespace Rendezvous.Roster

open Base Registry Rendezvous.Membership Directory Identity Admin Wal Persist Recovery

variable {order : List NodeId} {ds : List Delta} {id : NodeId} {netID : NetId} {d : Disk}
  {E : AdminEnv}

variable {now : Time} {s : Server}

/-! ## Loading -/

theorem Counted.loaded (h : Counted (view s)) (hord : IsOrder order s.nodes) :
    Counted (view (load order (save s))) := by
  have hnode : ∀ {id n}, s.nodes.get id = some n → Uses (view s) id := by
    intro id n hn
    left
    rw [view_nodes_get, hn]
    simp
  have hnodes : ∀ id, (view (load order (save s))).nodes.get id =
      (s.nodes.get id).map fun n => nodeView (restored n) := by
    intro id
    rw [view_nodes_get, load_save_nodes order s hord, GoMap.get_mapVals, Option.map_map]
    rfl
  constructor
  · intro id hid
    have hnext : (view (load order (save s))).nextNode = s.nextNode :=
      load_save_nextNode order s
    rw [hnext]
    refine h.nodes id ?_
    -- The indices are built from the records, and the file's key index.
    rcases hid with hid | ⟨t, ht⟩ | ⟨t, ht⟩ | ⟨t, ht⟩
    · rw [hnodes, Ne, Option.map_eq_none_iff] at hid
      obtain ⟨n, hn⟩ := Option.ne_none_iff_exists'.mp hid
      exact hnode hn
    · change (load order (save s)).pubKeyIdx.get t = some id at ht
      rw [load_save_pubKeyIdx, GoMap.get_union, Option.or_eq_some_iff] at ht
      rcases ht with ht | ⟨-, ht⟩
      · obtain ⟨-, n, hn, -⟩ := GoMap.of_get_indexBy keyText order s.nodes ht
        exact hnode hn
      · exact Or.inr (Or.inl ⟨t, ht⟩)
    · change (load order (save s)).ownerIdx.get t = some id at ht
      rw [load_save_ownerIdx] at ht
      obtain ⟨-, n, hn, -⟩ := GoMap.of_get_indexBy _ order s.nodes ht
      exact hnode hn
    · change (load order (save s)).hostnameIdx.get t = some id at ht
      rw [load_save_hostnameIdx] at ht
      obtain ⟨-, n, hn, -⟩ := GoMap.of_get_indexBy _ order s.nodes ht
      exact hnode hn
  · intro netID hnetID
    have hnext : (view (load order (save s))).nextNet = s.nextNet :=
      load_save_nextNet order s
    rw [hnext]
    refine h.nets netID ?_
    rcases hnetID with hnet | ⟨id, n, hn, hin⟩
    · left
      rw [view_networks_get, Ne, Option.map_eq_none_iff] at hnet ⊢
      rwa [load_save_networks, GoMap.get_mapVals, Option.map_eq_none_iff] at hnet
    · rw [hnodes] at hn
      obtain ⟨n₀, hn₀, rfl⟩ := Option.map_eq_some_iff.mp hn
      exact Or.inr ⟨id, nodeView n₀, by rw [view_nodes_get, hn₀]; rfl, hin⟩

private theorem counted_empty : Counted (view {}) where
  nodes := by
    rintro id (h | ⟨t, h⟩ | ⟨t, h⟩ | ⟨t, h⟩)
    · exact absurd (GoMap.get_empty id) (by rwa [view_nodes_get, Ne, Option.map_eq_none_iff] at h)
    all_goals exact absurd ((GoMap.get_empty t).symm.trans h) (by simp)
  nets := by
    rintro netID (h | ⟨id, n, h, -⟩)
    · exact absurd (GoMap.get_empty netID) (by rwa [view_networks_get, Ne,
        Option.map_eq_none_iff] at h)
    · rw [view_nodes_get] at h
      exact absurd ((congrArg _ (GoMap.get_empty id)).symm.trans h) (by simp)

/-! ## Replaying -/

/-- The deltas of the log find their counters open. -/
def LogCounts (now : Time) (s : Server) (ds : List Delta) : Prop :=
  Meets (applyOr now) (fun s d => CountsOn (view s) d) s ds

private theorem advances_applyOr (now : Time) {d : Delta} (hd : WellFormed d)
    (hcounts : CountsOn (view s) d) :
    Advances (view s) (view (applyOr now s d)) := by
  rw [view_applyOr now s hd]
  exact advances_apply hcounts

private theorem toNat_last (h : id + 1 = 0) : id.toNat + 1 = UInt32.size := by
  have hzero := congrArg UInt32.toNat h
  have hlt := id.toNat_lt
  rw [UInt32.toNat_add, UInt32.toNat_one, UInt32.toNat_zero] at hzero
  unfold UInt32.size
  omega

private theorem netToNat_last (h : netID + 1 = 0) : netID.toNat + 1 = UInt16.size := by
  have hzero := congrArg UInt16.toNat h
  have hlt := netID.toNat_lt
  rw [UInt16.toNat_add, UInt16.toNat_one, UInt16.toNat_zero] at hzero
  unfold UInt16.size
  omega

private theorem eq_zero_of_toNat (h : id.toNat = 0) : id = 0 :=
  UInt32.toNat_inj.mp h

private theorem net_eq_zero_of_toNat (h : netID.toNat = 0) : netID = 0 :=
  UInt16.toNat_inj.mp h

/-- The delta of the last node id leaves the counter at zero. -/
theorem stopped_register (h : Counted (view s)) {x : RegisterDelta}
    (hd : WellFormed (.register x)) (hlast : x.nodeID + 1 = 0) :
    (applyOr now s (.register x)).nextNode = 0 := by
  have hview : (applyOr now s (.register x)).nextNode = ((view s).apply (.register x)).nextNode :=
    congrArg View.nextNode (view_applyOr now s hd)
  rw [hview]
  simp only [View.apply]
  split
  · next hhas =>
    obtain ⟨n, hn⟩ := (GoMap.has_eq_true _ _).mp hhas
    have hpassed := h.nodes x.nodeID (Or.inl (by simp [hn]))
    exact eq_zero_of_toNat (eq_zero_of_passed_last (UInt32.toNat_lt_size _)
      (toNat_last hlast) hpassed)
  · refine eq_zero_of_toNat ((toNat_moved _ _).trans ?_)
    exact movePast_last (UInt32.toNat_lt_size _) (toNat_last hlast)

/-- The delta of the last network id leaves the counter at zero. -/
theorem stopped_create (h : Counted (view s)) {x : NetworkCreateDelta}
    (hlast : x.networkID + 1 = 0) :
    (applyOr now s (.networkCreate x)).nextNet = 0 := by
  have hview : (applyOr now s (.networkCreate x)).nextNet =
      ((view s).apply (.networkCreate x)).nextNet :=
    congrArg View.nextNet (view_applyOr now s (d := .networkCreate x) trivial)
  rw [hview]
  simp only [View.apply]
  split
  · next hhas =>
    obtain ⟨net, hnet⟩ := (GoMap.has_eq_true _ _).mp hhas
    have hpassed := h.nets x.networkID (Or.inl (by simp [hnet]))
    exact net_eq_zero_of_toNat (eq_zero_of_passed_last (UInt16.toNat_lt_size _)
      (netToNat_last hlast) hpassed)
  · refine net_eq_zero_of_toNat ((netToNat_moved _ _).trans ?_)
    exact movePast_last (UInt16.toNat_lt_size _) (netToNat_last hlast)

theorem stopped_step {v v' : View} (h : Advances v v') (hzero : v.nextNode = 0) : v'.nextNode = 0 :=
  eq_zero_of_toNat (h.nodes.stopped (congrArg UInt32.toNat hzero))

private theorem netsStopped_step {v v' : View} (h : Advances v v') (hzero : v.nextNet = 0) :
    v'.nextNet = 0 :=
  net_eq_zero_of_toNat (h.nets.stopped (congrArg UInt16.toNat hzero))

/-- A log that has a delta which stops a counter, or is replayed over one
that has stopped, leaves a counter that has stopped. -/
theorem stopped_replay (Stopped : Server → Prop) (Last : Delta → Prop)
    (hstays : ∀ {s s'}, Advances (view s) (view s') → Stopped s → Stopped s')
    (hlast : ∀ {s d}, Counted (view s) → WellFormed d → Last d → Stopped (applyOr now s d))
    (hds : ∀ d ∈ ds, WellFormed d) (h : Counted (view s)) (hcounts : LogCounts now s ds)
    (hstop : Stopped s ∨ ∃ d ∈ ds, Last d) : Stopped (ds.foldl (applyOr now) s) := by
  induction ds generalizing s with
  | nil =>
    rcases hstop with hzero | ⟨d, hd, -⟩
    · exact hzero
    · cases hd
  | cons d ds ih =>
    have hstep := advances_applyOr now (hds d (by simp)) hcounts.1
    refine ih (fun x hx => hds x (by simp [hx])) (h.advances hstep) hcounts.2 ?_
    rcases hstop with hzero | ⟨x, hx, hx'⟩
    · exact Or.inl (hstays hstep hzero)
    · rcases List.mem_cons.mp hx with rfl | hx
      · exact Or.inl (hlast h (hds _ (by simp)) hx')
      · exact Or.inr ⟨x, hx, hx'⟩

/-! ## Events -/

/-- An id space that is used up is so on the disk: by the counter of the
file, or by the last id in the log. -/
def Disk.Recalls (d : Disk) : Prop :=
  (d.live.nextNode = 0 → (∃ snap, d.file = some snap ∧ snap.nextNode = 0) ∨
      ∃ x, .register x ∈ replayed d.log ∧ x.nodeID + 1 = 0) ∧
  (d.live.nextNet = 0 → (∃ snap, d.file = some snap ∧ snap.nextNet = 0) ∨
      ∃ x, .networkCreate x ∈ replayed d.log ∧ x.networkID + 1 = 0)

/-- What the events have to meet. -/
def Disk.Counts (E : AdminEnv) (d : Disk) : Disk.Event → Prop
  | .command op _ => Roster.Counts E d.live op
  | .start now order => IsOrder order (diskNodes d.file) →
      LogCounts now (baseState order d.file) (replayed d.log) ∧ d.Recalls
  | _ => True

/-- The state a start reads from the file. -/
theorem Counted.base (h : d.Holds (fun s => Counted (view s)) fun _ => True)
    (hord : IsOrder order (diskNodes d.file)) :
    Counted (view (baseState order d.file)) := by
  cases hfile : d.file with
  | none => exact counted_empty
  | some snap =>
    obtain ⟨s, hs, rfl⟩ := h.file snap hfile
    rw [hfile] at hord
    exact hs.loaded (isOrder_save hord)

/-- The backbone, created where there is no file, has the id zero. -/
theorem Counted.booted {file : Option Snapshot} {log : List Delta}
    (h : Counted (view (restore now order file log))) :
    Counted (view (boot now order file log)) := by
  cases file with
  | some snap => exact h
  | none =>
    let s := restore now order none log
    refine ⟨h.nodes, fun netID hnetID => ?_⟩
    rcases hnetID with hnet | hlisted
    · by_cases hzero : netID = 0
      · rw [hzero]
        exact passed_zero _
      · refine h.nets netID (Or.inl ?_)
        rw [view_networks_get, Ne, Option.map_eq_none_iff] at hnet ⊢
        change (s.networks.set 0 (backbone now)).get netID ≠ none at hnet
        rwa [GoMap.get_set_ne _ _ hzero] at hnet
    · exact h.nets netID (Or.inr hlisted)

private theorem boot_counters (now : Time) (order : List NodeId) (file : Option Snapshot)
    (log : List Delta) :
    (boot now order file log).nextNode = (restore now order file log).nextNode ∧
      (boot now order file log).nextNet = (restore now order file log).nextNet := by
  cases file <;> exact ⟨rfl, rfl⟩

private theorem baseState_counters (order : List NodeId) (s : Server) :
    (baseState order (some (save s))).nextNode = s.nextNode ∧
      (baseState order (some (save s))).nextNet = s.nextNet :=
  ⟨load_save_nextNode order s, load_save_nextNet order s⟩

private theorem counted_event {e : Disk.Event} (he : d.Counts E e)
    (h : d.Holds (fun s => Counted (view s)) fun _ => True) :
    (d.step E e).Holds (fun s => Counted (view s)) fun _ => True := by
  refine h.step ?_ (fun _ _ _ _ _ => trivial) ?_
  · rintro op logged rfl
    exact h.live.advances (advances_step he)
  · rintro now order rfl hord
    refine .booted ?_
    exact replay_keeps (P := fun s => Counted (view s)) (fun _ _ _ hd hcounts hs =>
      hs.advances (advances_applyOr now hd hcounts)) (he hord).1 (Counted.base h hord)

/-- A counter that has stopped stays stopped. -/
theorem stopped_event {e : Disk.Event} (he : d.Counts E e)
    (h : d.Holds (fun s => Counted (view s)) fun _ => True) :
    (d.live.nextNode = 0 → (d.step E e).live.nextNode = 0) ∧
      (d.live.nextNet = 0 → (d.step E e).live.nextNet = 0) := by
  cases e with
  | command op logged =>
    have hstep : Advances (view d.live) (view (step E d.live op)) := advances_step he
    exact ⟨stopped_step hstep, netsStopped_step hstep⟩
  | replace i =>
    simp only [Disk.step]
    split <;> exact ⟨fun hz => hz, fun hz => hz⟩
  | start now order =>
    simp only [Disk.step]
    split
    · next hord =>
      obtain ⟨hcounts, hnodes, hnets⟩ := he hord
      have hbase := Counted.base h hord
      have hformed : ∀ x ∈ replayed d.log, WellFormed x := fun _ hx =>
        wellFormed_of_replayed hx
      have hfile : ∀ {snap}, d.file = some snap →
          (baseState order d.file).nextNode = snap.nextNode ∧
            (baseState order d.file).nextNet = snap.nextNet := by
        intro snap hsnap
        obtain ⟨s, -, rfl⟩ := h.file snap hsnap
        rw [hsnap]
        exact baseState_counters order s
      obtain ⟨hnode, hnet⟩ := boot_counters now order d.file d.log
      show (_ → (boot now order d.file d.log).nextNode = 0) ∧
        (_ → (boot now order d.file d.log).nextNet = 0)
      rw [hnode, hnet]
      unfold restore
      rw [replay_eq_foldl]
      constructor
      · intro hzero
        refine stopped_replay (·.nextNode = 0) (fun d => ∃ x, d = .register x ∧ x.nodeID + 1 = 0)
          stopped_step ?_ hformed hbase hcounts ((hnodes hzero).imp ?_ ?_)
        · rintro s _ h hd ⟨x, rfl, hx⟩
          exact stopped_register h hd hx
        · rintro ⟨snap, hsnap, hz⟩
          rw [(hfile hsnap).1, hz]
        · rintro ⟨x, hx, hlast⟩
          exact ⟨_, hx, x, rfl, hlast⟩
      · intro hzero
        refine stopped_replay (·.nextNet = 0)
          (fun d => ∃ x, d = .networkCreate x ∧ x.networkID + 1 = 0)
          netsStopped_step ?_ hformed hbase hcounts ((hnets hzero).imp ?_ ?_)
        · rintro s _ h - ⟨x, rfl, hx⟩
          exact stopped_create h hx
        · rintro ⟨snap, hsnap, hz⟩
          rw [(hfile hsnap).2, hz]
        · rintro ⟨x, hx, hlast⟩
          exact ⟨_, hx, x, rfl, hlast⟩
    · exact ⟨fun hz => hz, fun hz => hz⟩
  | _ => exact ⟨fun hz => hz, fun hz => hz⟩

/-! ## What is handed out -/

/-- The network id in an answer. -/
def respNet (resp : Resp) : NetId := Msg.jsonUint16 resp "network_id"

/-- The node id a command allocates: the one a registration is answered
with that is no reclaim. -/
def newNode (E : AdminEnv) (s : Server) : Op → Option NodeId
  | .register now order remoteAddr msg =>
    if s.networks.Enumerates order then
      match handleRegister E.toEnv now order remoteAddr s msg with
      | .ok o =>
        if s.pubKeyIdx.has (msg.str "public_key") ||
            (msg.str "owner" ≠ "" && s.ownerIdx.has (msg.str "owner")) then none
        else some (respNode o.resp)
      | .error _ => none
    else none
  | _ => none

/-- The network id a command allocates. -/
def newNet (E : AdminEnv) (s : Server) : Op → Option NetId
  | .createNetwork now msg =>
    match handleCreateNetwork E.toEnv now s msg with
    | .ok o => some (respNet o.resp)
    | .error _ => none
  | .provision now order msg =>
    if s.networks.Enumerates order then
      match handleProvisionNetwork E now order s msg with
      | .ok o => if Msg.bool o.resp "created" then some (respNet o.resp) else none
      | .error _ => none
    else none
  | _ => none

private theorem newNode_eq {s : Server} {op : Op} (h : newNode E s op = some id) :
    id = s.nextNode ∧ s.nextNode ≠ 0 := by
  cases op with
  | register now order remoteAddr msg =>
    simp only [newNode] at h
    split at h
    · split at h
      · next o ho =>
        split at h
        · cases h
        · next hknown =>
          simp only [Bool.or_eq_true, Bool.and_eq_true, decide_eq_true_eq,
            GoMap.has_eq_true, not_or, not_and, not_exists] at hknown
          obtain ⟨req, key, o', htext, -, howner, -, hbranch, -⟩ := handleRegister_branch ho
          rw [Option.some.inj h] at hbranch
          rw [htext, howner] at hknown
          cases hbranch with
          | known _ n hidx hnode | byKey _ hidx hgone => exact absurd hidx (hknown.1 _)
          | byOwner _ hidx hne hown hgone => exact absurd hown (hknown.2 hne _)
          | new _ hidx hown hfree hnew => exact ⟨rfl, hfree⟩
      · cases h
    · cases h
  | _ => cases h

private theorem jsonUint16_net {msg : Msg} {key : String} (h : msg.field key = some (.net netID)) :
    msg.jsonUint16 key = netID := by
  have hnum : msg.num? key = some (netID.toNat : Rat) := by
    unfold Msg.num?
    rw [h]
    rfl
  have hlt := netID.toNat_lt
  have hle : ¬ ((netID.toNat : Rat) < 0 ∨ ((65535 : Nat) : Rat) < netID.toNat) := by
    rintro (hneg | hbig)
    · exact absurd hneg (by simp)
    · have hnat : 65535 < netID.toNat := by exact_mod_cast hbig
      omega
  have hfloor : (netID.toNat : Rat).floor = (netID.toNat : Int) := rfl
  unfold Msg.jsonUint16
  rw [hnum]
  simp only [Msg.clampNat, if_neg hle, hfloor, Int.toNat_natCast]
  exact UInt16.ofNat_toNat

private theorem netSucc_ne (netID : NetId) : netID + 1 ≠ netID := by
  intro h
  have hnat := congrArg UInt16.toNat h
  have hlt := netID.toNat_lt
  rw [UInt16.toNat_add, UInt16.toNat_one] at hnat
  omega

theorem newNet_eq {s : Server} {op : Op} (hop : Counts E s op) (h : newNet E s op = some netID) :
    netID = s.nextNet ∧ s.nextNet ≠ 0 := by
  cases op with
  | createNetwork now msg =>
    simp only [newNet] at h
    split at h
    · next o ho =>
      simp only [handleCreateNetwork, bind_eq_ok, require_eq_ok, pure_eq_ok,
        decide_eq_true_eq] at ho
      obtain ⟨_, -, rules, -, expr, -, _, -, _, -, _, -, _, hfree, _, -, rfl⟩ := ho
      refine ⟨?_, hfree⟩
      rw [← Option.some.inj h]
      exact jsonUint16_net rfl
    · cases h
  | provision now order msg =>
    simp only [newNet] at h
    split at h
    · next horder =>
      split at h
      · next o ho =>
        split at h
        · next hcreated =>
          obtain ⟨fields, bp, s₁, netID', created, actions, hfields, hbp,
            ⟨kept, hserver⟩, hresp, hcase⟩ := handleProvisionNetwork_ok horder ho
          rw [hresp] at h hcreated
          have hid : netID = netID' := by
            rw [← Option.some.inj h]
            exact jsonUint16_net rfl
          rcases hcase with ⟨rfl, -⟩ | ⟨-, rfl, hnew, rfl⟩
          · cases hcreated
          · refine ⟨hid, ?_⟩
            have hmoved : step E s (.provision now order msg) ≠ s := by
              have hstep : step E s (.provision now order msg) = o.server := by
                simp [step, handle, horder, ho, answered]
              rw [hstep]
              intro hsame
              have hsucc : o.server.nextNet = s.nextNet + 1 :=
                congrArg Server.nextNet hserver
              rw [hsame] at hsucc
              exact netSucc_ne s.nextNet hsucc.symm
            rcases hop hmoved fields bp hfields hbp with ⟨t, net, hnet, hname⟩ | hfree
            · exact absurd hname (hnew t net hnet)
            · exact hfree
        · cases h
      · cases h
    · cases h
  | _ => cases h

/-! ## Whole runs -/

/-- The command hands out new ids: an id it allocates is not zero, nothing
has it, and the id space was not used up in this or any earlier state. -/
def HandsOutNew (E : AdminEnv) (start : Disk) (before : List Disk.Event) (op : Op) : Prop :=
  let s := (run (Disk.step E) start before).live
  (∀ id, newNode E s op = some id → id ≠ 0 ∧ ¬ Uses (view s) id ∧ ∀ earlier, earlier <+: before →
      (run (Disk.step E) start earlier).live.nextNode ≠ 0) ∧
  (∀ netID, newNet E s op = some netID → netID ≠ 0 ∧ ¬ UsesNet (view s) netID ∧
    ∀ earlier, earlier <+: before → (run (Disk.step E) start earlier).live.nextNet ≠ 0)

private theorem counted_freshServer (now : Time) : Counted (view (freshServer now)) := by
  have hempty : Counted (view (restore now [] none [])) := counted_empty
  exact hempty.booted

/-- A counter that has stopped is found so for the rest of the run. -/
theorem stopped_run {es : List Disk.Event} (hmeets : Meets (Disk.step E) (Disk.Counts E) d es)
    (h : d.Holds (fun s => Counted (view s)) fun _ => True) :
    (d.live.nextNode = 0 → (run (Disk.step E) d es).live.nextNode = 0) ∧
      (d.live.nextNet = 0 → (run (Disk.step E) d es).live.nextNet = 0) := by
  induction es generalizing d with
  | nil => exact ⟨fun hz => hz, fun hz => hz⟩
  | cons e es ih =>
    obtain ⟨hnode, hnet⟩ := stopped_event hmeets.1 h
    obtain ⟨hnodes, hnets⟩ := ih hmeets.2 (counted_event hmeets.1 h)
    exact ⟨fun hz => hnodes (hnode hz), fun hz => hnets (hnet hz)⟩

/-- A blueprint that has a name only. -/
def provisionLab : Msg := operatorMsg [("blueprint", .obj [("name", .str "lab")])]

/-- The network is deleted. -/
def deleteLab (netID : NetId) : Msg := operatorMsg [("network_id", .net netID)]

/-- The network `lab` is provisioned and deleted, again and again. -/
def rounds : Nat → List Disk.Event
  | 0 => []
  | n + 1 => rounds n ++ [.command (.provision 0 [0] provisionLab) true,
      .command (.deleteNetwork (deleteLab (UInt16.ofNat (n + 1)))) true]

/-- The backbone is the only network, and the next network id is `netID`. -/
structure Worn (s : Server) (netID : NetId) : Prop where
  only : ∀ t, s.networks.get t ≠ none ↔ t = 0
  unnamed : ∀ net, s.networks.get 0 = some net → net.name ≠ "lab"
  next : s.nextNet = netID

private theorem Worn.enumerates {s : Server} (h : Worn s netID) : s.networks.Enumerates [0] := by
  refine ⟨by simp, fun t => ?_⟩
  rw [List.mem_singleton, h.only]

/-- Provisioning takes the next id, whatever it is. -/
theorem Worn.provisioned {s : Server} (h : Worn s netID) :
    newNet .plain s (.provision 0 [0] provisionLab) = some netID ∧
      ∃ bp kept, step .plain s (.provision 0 [0] provisionLab) = { s with
        networks := (s.networks.set netID (blueprintNetwork bp 0)).modify netID
          (applyToNetwork bp)
        nextNet := netID + 1
        rbacPreAssign := kept } := by
  have hfind : [0].find? (fun id => (s.networks.get id).any fun net =>
      net.name = "lab") = none := by
    rw [List.find?_eq_none]
    intro t ht
    rw [List.mem_singleton.mp ht, Option.any_eq_true]
    rintro ⟨net, hnet, hname⟩
    exact h.unnamed net hnet (by simpa using hname)
  have hfound : findOrCreateNetwork .plain 0 [0] s { name := "lab" } =
      .ok ({ putNetwork s s.nextNet (blueprintNetwork { name := "lab" } 0) with
        nextNet := s.nextNet + 1 }, s.nextNet, true) := by
    unfold findOrCreateNetwork
    rw [hfind]
    rfl
  have hok : ∃ o, handleProvisionNetwork .plain 0 [0] s provisionLab = .ok o := by
    simp only [handleProvisionNetwork, applyBlueprint, bind_eq_ok, orFail_eq_ok,
      mapError_eq_ok, pure_eq_ok]
    exact ⟨_, (), rfl, _, rfl, { name := "lab" }, rfl, _, ⟨(), rfl, _, hfound, rfl⟩, rfl⟩
  obtain ⟨o, ho⟩ := hok
  obtain ⟨fields, bp, s₁, t, created, actions, hfields, hbp, ⟨kept, hserver⟩, hresp, hcase⟩ :=
    handleProvisionNetwork_ok h.enumerates ho
  have hname : bp.name = "lab" := by
    cases hfields
    cases hbp
    rfl
  simp only [newNet, step, handle, if_pos h.enumerates, ho, answered, hserver]
  rcases hcase with ⟨-, -, net, hnet, hsame⟩ | ⟨rfl, rfl, -, rfl⟩
  · obtain rfl := (h.only t).mp (by simp [hnet])
    exact absurd (hsame.trans hname) (h.unnamed net hnet)
  · rw [hresp, ← h.next]
    exact ⟨congrArg some (jsonUint16_net rfl), bp, kept, rfl⟩

private theorem deleted_lab {s : Server} {net : NetworkInfo} (hopen : netID ≠ 0)
    (hnet : s.networks.get netID = some net) :
    ∃ inbox, step .plain s (.deleteNetwork (deleteLab netID)) =
      { forgetNetwork s net.members netID with
        inviteInbox := inbox
        networks := s.networks.del netID } := by
  have hid : (deleteLab netID).jsonUint16 "network_id" = netID := jsonUint16_net rfl
  have hok : ∃ o, handleDeleteNetwork Env.plain s (deleteLab netID) = .ok o := by
    simp only [handleDeleteNetwork, commitDelete, bind_eq_ok, require_eq_ok, getNetwork_eq_ok,
      pure_eq_ok, decide_eq_true_eq, hid]
    exact ⟨_, (), hopen, (), rfl, net, hnet, rfl⟩
  obtain ⟨o, ho⟩ := hok
  obtain ⟨net', -, hnet', hserver, -⟩ := handleDeleteNetwork_ok ho
  rw [hid] at hnet' hserver
  cases hnet.symm.trans hnet'
  have hstep : step .plain s (.deleteNetwork (deleteLab netID)) = o.server := by
    show (answered s (handleDeleteNetwork Env.plain s (deleteLab netID))).1 = o.server
    rw [ho]
    rfl
  have hnets : (forgetNetwork s net.members netID).networks = s.networks :=
    congrArg Roll.networks (roll_forgetNetwork s net.members netID)
  exact ⟨_, by rw [hstep, hserver, hnets]⟩

/-- A round leaves nothing but the counter one further. -/
theorem Worn.round {s : Server} (h : Worn s netID) (hopen : netID ≠ 0) :
    Worn (step .plain (step .plain s (.provision 0 [0] provisionLab))
      (.deleteNetwork (deleteLab netID))) (netID + 1) := by
  obtain ⟨-, bp, kept, hprovision⟩ := h.provisioned
  rw [hprovision]
  obtain ⟨inbox, hdelete⟩ := deleted_lab (s := { s with
      networks := (s.networks.set netID (blueprintNetwork bp 0)).modify netID (applyToNetwork bp)
      nextNet := netID + 1
      rbacPreAssign := kept }) hopen (by rw [GoMap.get_modify_self, GoMap.get_set_self]; rfl)
  rw [hdelete]
  have hnets : ∀ t, (((s.networks.set netID (blueprintNetwork bp 0)).modify netID
      (applyToNetwork bp)).del netID).get t = s.networks.get t := by
    intro t
    rw [GoMap.get_del]
    split
    · next heq =>
      rw [heq]
      by_contra hne
      exact hopen ((h.only netID).mp (Ne.symm hne))
    · next hne => rw [GoMap.get_modify_ne _ _ hne, GoMap.get_set_ne _ _ hne]
  refine ⟨fun t => ?_, fun net hnet => h.unnamed net ((hnets 0).symm.trans hnet), ?_⟩
  · rw [← h.only t, ← hnets t]
  · exact (Still.of_alters (N := fun _ _ => False) (I := False) not_false
      (.forgetNetwork _ _ netID)).nextNet

private theorem worn_rounds (n : Nat) (hn : n < UInt16.size) :
    Worn (run (Disk.step .plain) (Disk.fresh 0) (rounds n)).live
      (UInt16.ofNat (n + 1)) := by
  induction n with
  | zero =>
    have hkeys : (freshServer 0).networks.Enumerates [0] := by decide
    have hname : (((freshServer 0).networks.get 0).all
        fun net => decide (net.name ≠ "lab")) = true := by decide
    refine ⟨fun t => ?_, fun net hnet => ?_, rfl⟩
    · exact (hkeys.2 t).symm.trans List.mem_singleton
    · exact of_all (P := fun net => net.name ≠ "lab") hname hnet
  | succ n ih =>
    have hopen : UInt16.ofNat (n + 1) ≠ 0 := by
      intro hzero
      have hnat := congrArg UInt16.toNat hzero
      rw [UInt16.toNat_ofNat_of_lt' hn] at hnat
      exact absurd hnat (by simp)
    have hround := (ih (by omega)).round hopen
    have hnext : UInt16.ofNat (n + 1) + 1 = UInt16.ofNat (n + 1 + 1) :=
      UInt16.ofNat_add (n + 1) 1 |>.symm
    rw [hnext] at hround
    rw [rounds, run_append]
    exact hround

/-- Node 1 creates the network `lab`. -/
def createLab : Msg := operatorMsg [("node_id", .num 1), ("name", .str "lab")]

/-- A network is created, and the process restarted from a file that has
it. -/
def savedRun : List Disk.Event :=
  [.command (.register 0 [0] "" [("public_key", .str "AAAA")]) true,
    .command (.createNetwork 0 createLab) true, .copy, .replace 0, .truncate,
    .start 1 [1]]

/-- Node 1 creates another network. -/
def createAnnex : Op :=
  .createNetwork 1 (operatorMsg [("node_id", .num 1), ("name", .str "annex")])

private theorem savedRun_counts : Meets (Disk.step .plain) (Disk.Counts .plain) (Disk.fresh 0)
      (savedRun ++ [.command createAnnex true]) := by
  refine ⟨fun _ => trivial, fun _ => trivial, trivial, trivial, trivial,
    fun _ => ⟨trivial, fun hz => ?_, fun hz => ?_⟩, fun _ => trivial, trivial⟩
  · exact absurd hz (by decide)
  · exact absurd hz (by decide)

end Rendezvous.Roster

import Rendezvous.Recovery.View

/-!
# Deltas that have nothing left to do

A delta is *settled* in a state when what it brings about is there; applied
again it changes nothing. A delta is settled right after it was applied,
unless it rotates a key, and it stays settled until a later delta takes
back what it did (`undoes`).
-/

namespace Rendezvous.Recovery

open Base Registry Rendezvous.Membership Directory Identity Wal Persist

variable {s : Server} {id : NodeId} {netID : NetId} {d e : Delta} {v : View}

/-! ## Settled deltas -/

/-- What the delta brings about is there. -/
def Settled (v : View) : Delta → Prop
  | .register d => v.nodes.get d.nodeID ≠ none
  | .deregister id => v.nodes.get id = none
  | .networkCreate d => v.networks.get d.networkID ≠ none
  | .networkDelete netID => v.networks.get netID = none
  | .networkJoin id netID => ∀ net n, v.networks.get netID = some net →
      v.nodes.get id = some n → id ∈ net.members ∧ netID ∈ n.networks
  | .networkLeave id netID => ∀ net n, v.networks.get netID = some net → v.nodes.get id = some n →
        id ∉ net.members ∧ net.roles.get id = none ∧ netID ∉ n.networks
  | .keyRotation d => v.nodes.get d.nodeID = none

/-- What a delta does to a view: nothing when it is settled, or its change. -/
inductive Effect (v : View) : Delta → View → Prop where
  | idle (d : Delta) (h : Settled v d) : Effect v d v
  | register (d : RegisterDelta) (key : Bytes) : Effect v (.register d) (v.register d key)
  | deregister (id : NodeId) (n : NodeView) : Effect v (.deregister id) (v.deregister id n)
  | create (d : NetworkCreateDelta) : Effect v (.networkCreate d) (v.create d)
  | delete (netID : NetId) (net : NetView) : Effect v (.networkDelete netID) (v.delete netID net)
  | join (id : NodeId) (netID : NetId) (net : NetView) (n : NodeView)
      (hnet : v.networks.get netID = some net) (hn : v.nodes.get id = some n) :
      Effect v (.networkJoin id netID) (v.join id netID net)
  | leave (id : NodeId) (netID : NetId) (net : NetView) (n : NodeView)
      (hnet : v.networks.get netID = some net) (hn : v.nodes.get id = some n) :
      Effect v (.networkLeave id netID) (v.leave id netID net)
  | rotate (d : KeyRotationDelta) (key : Bytes) (n : NodeView)
      (hn : v.nodes.get d.nodeID = some n) : Effect v (.keyRotation d) (v.rotate d key n)

private theorem View.effect (v : View) (d : Delta) : Effect v d (v.apply d) := by
  cases d with
  | register d =>
    simp only [View.apply]
    split
    · next hhas => exact .idle _ (Option.isSome_iff_ne_none.mp hhas)
    · exact .register d _
  | networkCreate d =>
    simp only [View.apply]
    split
    · next hhas => exact .idle _ (Option.isSome_iff_ne_none.mp hhas)
    · exact .create d
  | deregister id =>
    simp only [View.apply]
    split
    · next hnone => exact .idle _ hnone
    · exact .deregister id _
  | networkDelete netID =>
    simp only [View.apply]
    split
    · next hnone => exact .idle _ hnone
    · exact .delete netID _
  | networkJoin id netID =>
    simp only [View.apply]
    split
    · next hnet hn => exact .join id netID _ _ hnet hn
    · next hmissing => exact .idle _ fun net n hnet hn => absurd hn (hmissing net n hnet)
  | networkLeave id netID =>
    simp only [View.apply]
    split
    · next hnet hn => exact .leave id netID _ _ hnet hn
    · next hmissing => exact .idle _ fun net n hnet hn => absurd hn (hmissing net n hnet)
  | keyRotation d =>
    simp only [View.apply]
    split
    · next hnone => exact .idle _ hnone
    · next hn => exact .rotate d _ _ hn

private theorem view_nodes_none : (view s).nodes.get id = none ↔ s.nodes.get id = none := by
  rw [view_nodes_get, Option.map_eq_none_iff]

theorem view_networks_none : (view s).networks.get netID = none ↔ s.networks.get netID = none := by
  rw [view_networks_get, Option.map_eq_none_iff]

private theorem dropMember_absent {net : NetworkInfo} (hmember : id ∉ net.members)
    (hrole : (netView net).roles.get id = none) :
    dropMember net id = net := by
  have hroles : net.memberRoles.map (fun roles => roles.del id) = net.memberRoles := by
    cases hr : net.memberRoles with
    | none => rfl
    | some roles =>
      have hget : roles.get id = none := by
        have hroles : (netView net).roles = roles := by simp [netView, hr]
        rw [← hroles]
        exact hrole
      rw [Option.map_some, GoMap.del_of_get_none _ hget]
  unfold dropMember
  rw [hroles, List.erase_of_not_mem hmember]

/-- A settled delta changes nothing. -/
theorem applyOr_settled (now : Time) (hformed : WellFormed d) (h : Settled (view s) d) :
    applyOr now s d = s := by
  cases d with
  | register d =>
    obtain ⟨hid, hne, hdec⟩ := hformed
    obtain ⟨key, hdec⟩ := Option.isSome_iff_exists.mp hdec
    have hget : s.nodes.get d.nodeID ≠ none := fun hnone =>
      h (view_nodes_none.mpr hnone)
    have hhas : s.nodes.has d.nodeID = true := Option.isSome_iff_ne_none.mpr hget
    rw [applyOr_register hid hne hdec, if_pos hhas]
  | deregister id =>
    have hget : s.nodes.get id = none := view_nodes_none.mp h
    show applyDeregisterDelta s id = s
    simp only [applyDeregisterDelta, hget]
  | networkCreate d =>
    have hget : s.networks.get d.networkID ≠ none := fun hnone =>
      h (view_networks_none.mpr hnone)
    have hhas : s.networks.has d.networkID = true := Option.isSome_iff_ne_none.mpr hget
    show applyNetworkCreateDelta now s d = s
    simp only [applyNetworkCreateDelta, hhas, if_true]
  | networkDelete netID =>
    have hget : s.networks.get netID = none := view_networks_none.mp h
    show applyNetworkDeleteDelta s netID = s
    simp only [applyNetworkDeleteDelta, hget]
  | networkJoin id netID =>
    show applyNetworkJoinDelta s id netID = s
    unfold applyNetworkJoinDelta
    cases hnet : s.networks.get netID with
    | none => rfl
    | some net =>
      cases hnode : s.nodes.get id with
      | none => rfl
      | some n =>
        obtain ⟨hmember, hlisted⟩ := h (netView net) (nodeView n)
          (by rw [view_networks_get, hnet]; rfl)
          (by rw [view_nodes_get, hnode]; rfl)
        have hmember' : net.members.contains id = true :=
          List.contains_iff_mem.mpr hmember
        have hlisted' : n.networks.contains netID = true :=
          List.contains_iff_mem.mpr hlisted
        simp only [hmember', if_true, listNetwork]
        rw [GoMap.modify_eq_self _ fun m hm => ?_]
        rw [hnode] at hm
        cases hm
        rw [if_pos hlisted']
  | networkLeave id netID =>
    show applyNetworkLeaveDelta s id netID = s
    unfold applyNetworkLeaveDelta
    cases hnet : s.networks.get netID with
    | none => rfl
    | some net =>
      cases hnode : s.nodes.get id with
      | none => rfl
      | some n =>
        obtain ⟨hmember, hrole, hlisted⟩ := h (netView net) (nodeView n)
          (by rw [view_networks_get, hnet]; rfl)
          (by rw [view_nodes_get, hnode]; rfl)
        have hlisted' : netID ∉ n.networks := hlisted
        simp only [dropMember_absent hmember hrole, putNetwork,
          removeNodeNetwork, GoMap.set_get_self _ hnet]
        rw [GoMap.modify_eq_self _ fun m hm => ?_]
        rw [hnode] at hm
        cases hm
        rw [List.erase_of_not_mem hlisted']
  | keyRotation d =>
    obtain ⟨hid, hne, hdec⟩ := hformed
    obtain ⟨key, hdec⟩ := Option.isSome_iff_exists.mp hdec
    have hget : s.nodes.get d.nodeID = none := view_nodes_none.mp h
    rw [applyOr_keyRotation hid hne hdec, hget]

/-! ## What a delta does to records and networks -/

/-- The delta makes node `id` list the network. -/
def lists (e : Delta) (id : NodeId) (netID : NetId) : Prop :=
  e = .networkJoin id netID ∨ ∃ d, e = .networkCreate d ∧ d.networkID = netID

/-- The delta makes the node no longer list the network. -/
def unlists (e : Delta) (id : NodeId) (netID : NetId) : Prop :=
  e = .networkLeave id netID ∨ e = .networkDelete netID

/-- The delta makes the node a member. -/
def enrols (e : Delta) (id : NodeId) (netID : NetId) : Prop :=
  e = .networkJoin id netID ∨ ∃ d, e = .register d ∧ d.nodeID = id

/-- The delta ends the membership. -/
def expels (e : Delta) (id : NodeId) (netID : NetId) : Prop :=
  e = .networkLeave id netID ∨ e = .deregister id

/-- How the record of `id` may change: its list of networks gains what the
delta lists, and loses what it unlists. -/
structure NodeStep (e : Delta) (id : NodeId) (n n' : NodeView) : Prop where
  gains : ∀ netID ∈ n'.networks, netID ∈ n.networks ∨ lists e id netID
  loses : ∀ netID ∈ n.networks, netID ∈ n'.networks ∨ unlists e id netID

/-- How the network may change. -/
structure NetStep (e : Delta) (netID : NetId) (net net' : NetView) : Prop where
  gains : ∀ id ∈ net'.members, id ∈ net.members ∨ enrols e id netID
  roles : ∀ id, net'.roles.get id ≠ none → net.roles.get id ≠ none ∨ enrols e id netID
  loses : ∀ id ∈ net.members, id ∈ net'.members ∨ expels e id netID

theorem NodeStep.refl (e : Delta) (id : NodeId) (n : NodeView) : NodeStep e id n n :=
  ⟨fun _ h => Or.inl h, fun _ h => Or.inl h⟩

theorem NetStep.refl (e : Delta) (netID : NetId) (net : NetView) : NetStep e netID net net :=
  ⟨fun _ h => Or.inl h, fun _ h => Or.inl h, fun _ h => Or.inl h⟩

theorem nodeStep_list (h : lists e id netID) (n : NodeView) : NodeStep e id n (n.list netID) := by
  unfold NodeView.list
  split
  · exact NodeStep.refl e id n
  · refine ⟨fun x hx => ?_, fun x hx => Or.inl (List.mem_append_left _ hx)⟩
    rcases List.mem_append.mp hx with hx | hx
    · exact Or.inl hx
    · rw [List.mem_singleton.mp hx]
      exact Or.inr h

private theorem nodeStep_unlist (h : unlists e id netID) (n : NodeView) :
    NodeStep e id n (n.unlist netID) := by
  refine ⟨fun x hx => Or.inl (List.mem_of_mem_erase hx), fun x hx => ?_⟩
  by_cases hnet : x = netID
  · rw [hnet]
    exact Or.inr h
  · exact Or.inl ((List.mem_erase_of_ne hnet).mpr hx)

private theorem netStep_leave (h : expels e id netID) (net : NetView) :
    NetStep e netID net (net.leave id) := by
  refine ⟨fun x hx => Or.inl (List.mem_of_mem_erase hx), fun x hx => ?_, fun x hx => ?_⟩
  · left
    intro hnone
    apply hx
    unfold NetView.leave
    rw [GoMap.get_del, hnone, ite_self]
  · by_cases hid : x = id
    · rw [hid]
      exact Or.inr h
    · exact Or.inl ((List.mem_erase_of_ne hid).mpr hx)

private theorem netStep_attend (h : enrols e id netID) (net : NetView) :
    NetStep e netID net (net.attend id) := by
  unfold NetView.attend
  split
  · exact NetStep.refl e netID net
  · refine ⟨fun x hx => ?_, fun x hx => Or.inl hx, fun x hx => Or.inl (List.mem_append_left _ hx)⟩
    rcases List.mem_append.mp hx with hx | hx
    · exact Or.inl hx
    · rw [List.mem_singleton.mp hx]
      exact Or.inr h

private theorem netStep_join (h : enrols e id netID) (net : NetView) :
    NetStep e netID net (net.join id) := by
  refine ⟨fun x hx => ?_, fun x hx => ?_, fun x hx => Or.inl (List.mem_append_left _ hx)⟩
  · rcases List.mem_append.mp hx with hx | hx
    · exact Or.inl hx
    · rw [List.mem_singleton.mp hx]
      exact Or.inr h
  · unfold NetView.join at hx
    rw [GoMap.get_set] at hx
    split at hx
    · next hid =>
      rw [hid]
      exact Or.inr h
    · exact Or.inl hx

theorem NodeStep.trans {n₁ n₂ n₃ : NodeView} (h : NodeStep e id n₁ n₂) (h' : NodeStep e id n₂ n₃) :
    NodeStep e id n₁ n₃ := by
  refine ⟨fun x hx => ?_, fun x hx => ?_⟩
  · rcases h'.gains x hx with hx | hx
    · exact h.gains x hx
    · exact Or.inr hx
  · rcases h.loses x hx with hx | hx
    · exact h'.loses x hx
    · exact Or.inr hx

theorem NetStep.trans {n₁ n₂ n₃ : NetView} (h : NetStep e netID n₁ n₂)
    (h' : NetStep e netID n₂ n₃) :
    NetStep e netID n₁ n₃ := by
  refine ⟨fun x hx => ?_, fun x hx => ?_, fun x hx => ?_⟩
  · rcases h'.gains x hx with hx | hx
    · exact h.gains x hx
    · exact Or.inr hx
  · rcases h'.roles x hx with hx | hx
    · exact h.roles x hx
    · exact Or.inr hx
  · rcases h.loses x hx with hx | hx
    · exact h'.loses x hx
    · exact Or.inr hx

variable {net net' : NetView} {n n' : NodeView}

private theorem nodeStep_modify {v : View} {e : Delta} {id i : NodeId} {f : NodeView → NodeView}
    (hf : ∀ n, NodeStep e i n (f n)) (h : (v.nodes.modify i f).get id = some n') :
    ∃ n, v.nodes.get id = some n ∧ NodeStep e id n n' := by
  obtain ⟨n, hn, rfl | ⟨rfl, rfl⟩⟩ := GoMap.of_get_modify h
  · exact ⟨n', hn, NodeStep.refl e id n'⟩
  · exact ⟨n, hn, hf n⟩

/-- A record after a delta is a new one, or comes from the record before. -/
theorem node_after (h : (v.apply e).nodes.get id = some n') :
    (∃ d, e = .register d ∧ d.nodeID = id ∧ n'.networks = [0]) ∨
      ∃ n, v.nodes.get id = some n ∧ NodeStep e id n n' := by
  have hsame : v.nodes.get id = some n' → ∃ n, v.nodes.get id = some n ∧ NodeStep e id n n' :=
    fun hn => ⟨n', hn, NodeStep.refl e id n'⟩
  have heffect := v.effect e
  generalize v.apply e = v' at h heffect
  cases heffect with
  | idle => exact Or.inr (hsame h)
  | register d key =>
    rcases GoMap.of_get_set h with ⟨rfl, rfl⟩ | hold
    · exact Or.inl ⟨d, rfl, rfl, rfl⟩
    · exact Or.inr (hsame hold)
  | deregister i n => exact Or.inr (hsame (GoMap.of_get_del h))
  | create d =>
    simp only [View.create] at h
    split at h
    · exact Or.inr (hsame h)
    · exact Or.inr (nodeStep_modify (fun n => nodeStep_list (Or.inr ⟨d, rfl, rfl⟩) n) h)
  | delete netID net =>
    exact Or.inr (GoMap.of_get_foldl_modify (fun i n => NodeStep.refl (.networkDelete netID) i n)
      (fun _ _ _ _ h₁ h₂ => h₁.trans h₂) (fun i _ n => nodeStep_unlist (Or.inr rfl) n) h)
  | join => exact Or.inr (nodeStep_modify (fun n => nodeStep_list (Or.inl rfl) n) h)
  | leave => exact Or.inr (nodeStep_modify (fun n => nodeStep_unlist (Or.inl rfl) n) h)
  | rotate d key n hn =>
    right
    rcases GoMap.of_get_set h with ⟨rfl, rfl⟩ | hold
    · exact ⟨n, hn, ⟨fun _ hx => Or.inl hx, fun _ hx => Or.inl hx⟩⟩
    · exact hsame hold

private theorem netStep_set {v : View} {e : Delta} {netID j : NetId} {net₁ : NetView}
    (hthere : v.networks.get netID = some net) (hstep : NetStep e netID net net₁)
    (h : (v.networks.set netID net₁).get j = some net') :
    ∃ net, v.networks.get j = some net ∧ NetStep e j net net' := by
  rcases GoMap.of_get_set h with ⟨rfl, rfl⟩ | hold
  · exact ⟨net, hthere, hstep⟩
  · exact ⟨net', hold, NetStep.refl e j net'⟩

/-- A network after a delta is a new one, or comes from the network
before. -/
theorem net_after (h : (v.apply e).networks.get netID = some net') :
    (∃ d, e = .networkCreate d ∧ d.networkID = netID) ∨
      ∃ net, v.networks.get netID = some net ∧ NetStep e netID net net' := by
  have hsame : v.networks.get netID = some net' →
      ∃ net, v.networks.get netID = some net ∧ NetStep e netID net net' :=
    fun hnet => ⟨net', hnet, NetStep.refl e netID net'⟩
  have heffect := v.effect e
  generalize v.apply e = v' at h heffect
  cases heffect with
  | idle | rotate => exact Or.inr (hsame h)
  | register d key =>
    obtain ⟨net, hnet, rfl | ⟨-, rfl⟩⟩ := GoMap.of_get_modify h
    · exact Or.inr (hsame hnet)
    · exact Or.inr ⟨net, hnet, netStep_attend (Or.inr ⟨d, rfl, rfl⟩) net⟩
  | deregister id n =>
    exact Or.inr (GoMap.of_get_foldl_modify (fun i net => NetStep.refl (.deregister id) i net)
      (fun _ _ _ _ h₁ h₂ => h₁.trans h₂) (fun i _ net => netStep_leave (Or.inr rfl) net) h)
  | create d =>
    rcases GoMap.of_get_set h with ⟨rfl, -⟩ | hold
    · exact Or.inl ⟨d, rfl, rfl⟩
    · exact Or.inr (hsame hold)
  | delete j net => exact Or.inr (hsame (GoMap.of_get_del h))
  | join id j net n hnet hn =>
    simp only [View.join] at h
    split at h
    · exact Or.inr (hsame h)
    · exact Or.inr (netStep_set hnet (netStep_join (Or.inl rfl) net) h)
  | leave id j net n hnet hn =>
    exact Or.inr (netStep_set hnet (netStep_leave (Or.inl rfl) net) h)

private theorem get_set_ne_none {K V : Type} [DecidableEq K] {m : GoMap K V} {i j : K}
    (x : V) (h : m.get j ≠ none) : (m.set i x).get j ≠ none := by
  rw [GoMap.get_set]
  split
  · simp
  · exact h

/-- Only its deregistration removes a node. -/
theorem node_stays (h : v.nodes.get id ≠ none) (he : e ≠ .deregister id) :
    (v.apply e).nodes.get id ≠ none := by
  have heffect := v.effect e
  generalize v.apply e = v' at heffect ⊢
  cases heffect with
  | idle => exact h
  | register | rotate => exact get_set_ne_none _ h
  | deregister i n =>
    have hne : id ≠ i := by
      rintro rfl
      exact he rfl
    simp only [View.deregister, GoMap.get_del_ne _ hne]
    exact h
  | create d =>
    simp only [View.create]
    split
    · exact h
    · exact mt (GoMap.get_modify_eq_none _ _ _ _).mp h
  | delete => exact mt (GoMap.get_foldl_modify_eq_none _ _ _ _).mp h
  | join | leave => exact mt (GoMap.get_modify_eq_none _ _ _ _).mp h

/-- Only its deletion removes a network. -/
theorem net_stays (h : v.networks.get netID ≠ none) (he : e ≠ .networkDelete netID) :
    (v.apply e).networks.get netID ≠ none := by
  have heffect := v.effect e
  generalize v.apply e = v' at heffect ⊢
  cases heffect with
  | idle | rotate => exact h
  | register => exact mt (GoMap.get_modify_eq_none _ _ _ _).mp h
  | deregister => exact mt (GoMap.get_foldl_modify_eq_none _ _ _ _).mp h
  | create | leave => exact get_set_ne_none _ h
  | delete j net =>
    have hne : netID ≠ j := by
      rintro rfl
      exact he rfl
    simp only [View.delete, GoMap.get_del_ne _ hne]
    exact h
  | join id j net n hnet hn =>
    simp only [View.join]
    split
    · exact h
    · exact get_set_ne_none _ h

theorem deregister_absent (v : View) (id : NodeId) :
    (v.apply (.deregister id)).nodes.get id = none := by
  have heffect := v.effect (.deregister id)
  generalize v.apply (.deregister id) = v' at heffect ⊢
  cases heffect with
  | idle _ hnone => exact hnone
  | deregister => exact GoMap.get_del_self _ _

private theorem networkDelete_absent (v : View) (netID : NetId) :
    (v.apply (.networkDelete netID)).networks.get netID = none := by
  have heffect := v.effect (.networkDelete netID)
  generalize v.apply (.networkDelete netID) = v' at heffect ⊢
  cases heffect with
  | idle _ hnone => exact hnone
  | delete => exact GoMap.get_del_self _ _

/-! ## What takes a delta back -/

/-- The later delta takes back what the earlier one did, or puts in place
what the earlier one did not find. -/
def undoes : (later earlier : Delta) → Bool
  | .deregister id, .register d => d.nodeID = id
  | .register e, .deregister id => e.nodeID = id
  | .register e, .networkJoin id _ => e.nodeID = id
  | .register e, .networkLeave id _ => e.nodeID = id
  | .networkDelete netID, .networkCreate d => d.networkID = netID
  | .networkCreate e, .networkDelete netID => e.networkID = netID
  | .networkCreate e, .networkJoin _ netID => e.networkID = netID
  | .networkCreate e, .networkLeave _ netID => e.networkID = netID
  | .networkLeave i j, .networkJoin id netID => i = id && j = netID
  | .networkJoin i j, .networkLeave id netID => i = id && j = netID
  | .register e, .keyRotation d => e.nodeID = d.nodeID
  | _, _ => false

/-- A settled delta stays settled until it is taken back. -/
theorem Settled.apply (h : Settled v d) (he : undoes e d = false) : Settled (v.apply e) d := by
  cases d with
  | register d =>
    refine node_stays h ?_
    rintro rfl
    simp [undoes] at he
  | deregister id =>
    cases hget : (v.apply e).nodes.get id with
    | none => exact hget
    | some n' =>
      rcases node_after hget with ⟨d, rfl, hid, -⟩ | ⟨n, hn, -⟩
      · simp [undoes, hid] at he
      · have hnone : v.nodes.get id = none := h
        rw [hnone] at hn
        cases hn
  | networkCreate d =>
    refine net_stays h ?_
    rintro rfl
    simp [undoes] at he
  | networkDelete netID =>
    cases hget : (v.apply e).networks.get netID with
    | none => exact hget
    | some net' =>
      rcases net_after hget with ⟨d, rfl, hid⟩ | ⟨net, hnet, -⟩
      · simp [undoes, hid] at he
      · have hnone : v.networks.get netID = none := h
        rw [hnone] at hnet
        cases hnet
  | networkJoin id netID =>
    intro net' n' hnet' hn'
    obtain ⟨net, hnet, hstep⟩ : ∃ net, v.networks.get netID = some net ∧
        NetStep e netID net net' := by
      rcases net_after hnet' with ⟨d, rfl, hid⟩ | hold
      · simp [undoes, hid] at he
      · exact hold
    obtain ⟨n, hn, hstep'⟩ : ∃ n, v.nodes.get id = some n ∧ NodeStep e id n n' := by
      rcases node_after hn' with ⟨d, rfl, hid, -⟩ | hold
      · simp [undoes, hid] at he
      · exact hold
    obtain ⟨hmember, hlisted⟩ := h net n hnet hn
    refine ⟨?_, ?_⟩
    · rcases hstep.loses id hmember with hin | rfl | rfl
      · exact hin
      · simp [undoes] at he
      · rw [deregister_absent] at hn'
        cases hn'
    · rcases hstep'.loses netID hlisted with hin | rfl | rfl
      · exact hin
      · simp [undoes] at he
      · rw [networkDelete_absent] at hnet'
        cases hnet'
  | networkLeave id netID =>
    intro net' n' hnet' hn'
    obtain ⟨net, hnet, hstep⟩ : ∃ net, v.networks.get netID = some net ∧
        NetStep e netID net net' := by
      rcases net_after hnet' with ⟨d, rfl, hid⟩ | hold
      · simp [undoes, hid] at he
      · exact hold
    obtain ⟨n, hn, hstep'⟩ : ∃ n, v.nodes.get id = some n ∧ NodeStep e id n n' := by
      rcases node_after hn' with ⟨d, rfl, hid, -⟩ | hold
      · simp [undoes, hid] at he
      · exact hold
    obtain ⟨hmember, hrole, hlisted⟩ := h net n hnet hn
    have hnot : ¬ enrols e id netID := by
      rintro (rfl | ⟨d, rfl, hid⟩)
      · simp [undoes] at he
      · simp [undoes, hid] at he
    refine ⟨fun hin => ?_, ?_, fun hin => ?_⟩
    · rcases hstep.gains id hin with hold | hnew
      · exact hmember hold
      · exact hnot hnew
    · by_contra hsome
      rcases hstep.roles id hsome with hold | hnew
      · exact hold hrole
      · exact hnot hnew
    · rcases hstep'.gains netID hin with hold | rfl | ⟨d, rfl, hid⟩
      · exact hlisted hold
      · simp [undoes] at he
      · simp [undoes, hid] at he
  | keyRotation d =>
    cases hget : (v.apply e).nodes.get d.nodeID with
    | none => exact hget
    | some n' =>
      rcases node_after hget with ⟨d', rfl, hid, -⟩ | ⟨n, hn, -⟩
      · simp [undoes, hid] at he
      · have hnone : v.nodes.get d.nodeID = none := h
        rw [hnone] at hn
        cases hn

/-! ## Lists without repetitions -/

/-- No node lists a network twice, and no network a member. -/
structure Tidy (v : View) : Prop where
  nodes : v.nodes.All fun n => n.networks.Nodup
  nets : v.networks.All fun net => net.members.Nodup

private theorem nodup_append_new {α : Type} [DecidableEq α] {l : List α} {a : α}
    (h : l.Nodup) (ha : ¬ l.contains a = true) : (l ++ [a]).Nodup := by
  rw [List.nodup_append]
  refine ⟨h, List.nodup_singleton a, fun x hx y hy hxy => ha ?_⟩
  rw [List.mem_singleton.mp hy] at hxy
  rw [← hxy]
  exact List.contains_iff_mem.mpr hx

private theorem NodeView.list_nodup (netID : NetId) (h : n.networks.Nodup) :
    (n.list netID).networks.Nodup := by
  unfold NodeView.list
  split
  · exact h
  · next hnew => exact nodup_append_new h hnew

private theorem NodeView.unlist_nodup (netID : NetId) (h : n.networks.Nodup) :
    (n.unlist netID).networks.Nodup :=
  h.erase netID

private theorem NetView.attend_nodup (id : NodeId) (h : net.members.Nodup) :
    (net.attend id).members.Nodup := by
  unfold NetView.attend
  split
  · exact h
  · next hnew => exact nodup_append_new h hnew

theorem NetView.leave_nodup (id : NodeId) (h : net.members.Nodup) : (net.leave id).members.Nodup :=
  h.erase id

theorem Tidy.apply (h : Tidy v) (d : Delta) : Tidy (v.apply d) := by
  have heffect := v.effect d
  generalize v.apply d = v' at heffect ⊢
  cases heffect with
  | idle => exact h
  | register d key =>
    exact ⟨h.nodes.set _ (List.nodup_singleton 0),
      h.nets.modify _ fun net => NetView.attend_nodup d.nodeID⟩
  | deregister id n =>
    exact ⟨h.nodes.del _, h.nets.foldl_modify _ fun net => NetView.leave_nodup id⟩
  | create d =>
    refine ⟨?_, h.nets.set _ ?_⟩
    · simp only [View.create]
      split
      · exact h.nodes
      · exact h.nodes.modify _ fun n => NodeView.list_nodup d.networkID
    · split
      · exact List.nodup_nil
      · exact List.nodup_singleton _
  | delete netID net =>
    exact ⟨h.nodes.foldl_modify _ fun n => NodeView.unlist_nodup netID, h.nets.del _⟩
  | join id netID net n hnet hn =>
    refine ⟨h.nodes.modify _ fun n => NodeView.list_nodup netID, ?_⟩
    simp only [View.join]
    split
    · exact h.nets
    · next hnew =>
      exact h.nets.set _ (nodup_append_new (h.nets netID net hnet) hnew)
  | leave id netID net n hnet hn =>
    exact ⟨h.nodes.modify _ fun n => NodeView.unlist_nodup netID,
      h.nets.set _ (NetView.leave_nodup id (h.nets netID net hnet))⟩
  | rotate d key n hn =>
    have hlist : n.networks.Nodup := h.nodes d.nodeID n hn
    exact ⟨h.nodes.set _ hlist, h.nets⟩

/-- The delta is a key rotation. -/
def rotates : Delta → Bool
  | .keyRotation _ => true
  | _ => false

/-- What a delta brings about is there after it, if it is no rotation. -/
theorem settled_self (h : Tidy v) (hd : rotates d = false) : Settled (v.apply d) d := by
  have heffect := v.effect d
  generalize v.apply d = v' at heffect ⊢
  cases heffect with
  | idle _ hsettled => exact hsettled
  | register => simp [Settled, View.register]
  | deregister => exact GoMap.get_del_self _ _
  | create => simp [Settled, View.create]
  | delete => exact GoMap.get_del_self _ _
  | join id netID net n hnet hn =>
    intro net' n' hnet' hn'
    simp only [View.join, GoMap.get_modify_self, hn, Option.map_some, Option.some.injEq] at hn'
    subst hn'
    refine ⟨?_, ?_⟩
    · simp only [View.join] at hnet'
      split at hnet'
      · next hin =>
        rw [hnet] at hnet'
        cases hnet'
        exact List.contains_iff_mem.mp hin
      · rw [GoMap.get_set_self] at hnet'
        cases hnet'
        simp [NetView.join]
    · unfold NodeView.list
      split
      · next hin => exact List.contains_iff_mem.mp hin
      · simp
  | leave id netID net n hnet hn =>
    intro net' n' hnet' hn'
    simp only [View.leave, GoMap.get_modify_self, hn, Option.map_some, Option.some.injEq] at hn'
    subst hn'
    simp only [View.leave, GoMap.get_set_self, Option.some.injEq] at hnet'
    subst hnet'
    exact ⟨(h.nets netID net hnet).not_mem_erase, GoMap.get_del_self _ _,
      (h.nodes id n hn).not_mem_erase⟩
  | rotate => simp [rotates] at hd

/-- `later` removes the node or the network that `earlier` is about. -/
def settles : (later earlier : Delta) → Bool
  | .deregister id, .networkJoin i _ => i = id
  | .deregister id, .networkLeave i _ => i = id
  | .deregister id, .keyRotation d => d.nodeID = id
  | .networkDelete netID, .networkJoin _ j => j = netID
  | .networkDelete netID, .networkLeave _ j => j = netID
  | _, _ => false

/-- Nothing can be done for a node or a network that is gone. -/
theorem settled_of_settles (h : settles e d = true) : Settled (v.apply e) d := by
  cases e with
  | deregister id =>
    have hgone : (v.apply (.deregister id)).nodes.get id = none :=
      deregister_absent v id
    cases d with
    | networkJoin i netID | networkLeave i netID =>
      obtain rfl : i = id := by simpa [settles] using h
      intro net n _ hn
      rw [hgone] at hn
      cases hn
    | keyRotation d =>
      obtain rfl : d.nodeID = id := by simpa [settles] using h
      exact hgone
    | _ => simp [settles] at h
  | networkDelete netID =>
    have hgone : (v.apply (.networkDelete netID)).networks.get netID = none :=
      networkDelete_absent v netID
    cases d with
    | networkJoin i j | networkLeave i j =>
      obtain rfl : j = netID := by simpa [settles] using h
      intro net n hnet
      rw [hgone] at hnet
      cases hnet
    | _ => simp [settles] at h
  | _ => simp [settles] at h

end Rendezvous.Recovery

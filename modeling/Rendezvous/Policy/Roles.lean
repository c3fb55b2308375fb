import Rendezvous.Admission.Roles
import Rendezvous.Lifecycle.Actions
import Rendezvous.Policy.Sections

/-!
# Which events change a role

A node keeps its role in a network while the network is there, until it
leaves or is removed, until somebody assigns it another role, or until the
network's directory is synchronised or its enterprise flag set. This file
says for every event of the registry whether it may change the role a node
has in a network, from the event and the state before it, and shows that no
other event does (`world_roleIn`, `commit_roleIn`).
-/

namespace Rendezvous.Policy

open Base Registry Authz Rendezvous.Membership Directory Admin Lifecycle
open Roster (attend unattend Move Moved Edit)
open Admission (roleIn edit_step network_stays)

variable {s s' : Server} {netID t : NetId} {id j : NodeId} {msg : Msg} {net net' : NetworkInfo}
  {o : Outcome} {op : Roster.Op} {w : World} {e : World.Event} {now : Time} {order : List NetId}

/-! ## The events -/

/-- The request is about the network, and names the node in the field. -/
def names (msg : Msg) (field : String) (netID : NetId) (id : NodeId) : Bool :=
  msg.jsonUint16 "network_id" = netID && msg.jsonUint32 field = id

/-- A transfer changes the roles of the new owner and of the owner there is. -/
def transfers (s : Server) (msg : Msg) (netID : NetId) (id : NodeId) : Bool :=
  names msg "new_owner_id" netID id ||
    (msg.jsonUint16 "network_id" = netID && roleIn s netID id = some .owner)

/-- A role-gated command, when it makes its change, may change the role. -/
def Gated.changesRole (s : Server) (msg : Msg) (netID : NetId) (id : NodeId) : Gated → Bool
  | deleteNetwork => msg.jsonUint16 "network_id" = netID
  | kickMember | promoteMember | demoteMember => names msg "target_node_id" netID id
  | transferOwnership _ => transfers s msg netID id
  | _ => false

/-- A command in one piece may change the role. A new network may get the
id of one that was deleted. -/
def changesRole (s : Server) (netID : NetId) (id : NodeId) : Roster.Op → Bool
  | .createNetwork .. | .provision .. => s.nextNet = netID
  | .deregister msg => msg.jsonUint32 "node_id" = id
  | .deleteNetwork msg | .setEnterprise msg | .directorySync msg =>
      msg.jsonUint16 "network_id" = netID
  | .joinNetwork msg | .leaveNetwork msg | .respondInvite _ msg => names msg "node_id" netID id
  | .kickMember msg | .promoteMember msg | .demoteMember msg =>
      names msg "target_node_id" netID id
  | .transferOwnership _ msg => transfers s msg netID id
  | .adminKick t j | .adminSetRole t j _ => t = netID && j = id
  | _ => false

/-- The setting of a node is that it joins or leaves the network. -/
def moves (netID : NetId) : Setting → Bool
  | .join t _ | .leave t => t = netID
  | _ => false

/-- An event of the registry, other than the start of a process, may change
the role. -/
def worldChangesRole (w : World) (netID : NetId) (id : NodeId) : World.Event → Bool
  | .deregister msg _ => msg.jsonUint32 "node_id" = id
  | .command op _ => changesRole w.live netID id op
  | e =>
    match w.runs e with
    | some (.request _ c _) => c.nodeID = id && moves netID c.setting
    | _ => false

/-! ## One network -/

theorem roleIn_congr (h : s'.networks = s.networks) : roleIn s' netID id = roleIn s netID id := by
  unfold roleIn
  rw [h]

theorem roleIn_modify {f : NetworkInfo → NetworkInfo} (h : s'.networks = s.networks.modify t f)
    (hf : t = netID → ∀ net, (f net).role id = net.role id) :
    roleIn s' netID id = roleIn s netID id := by
  unfold roleIn
  rw [h, GoMap.get_modify]
  split
  · next heq =>
    subst heq
    cases s.networks.get netID with
    | none => rfl
    | some net => exact hf rfl net
  · rfl

theorem roleIn_set (h : s'.networks = s.networks.set t net') (hnet : s.networks.get t = some net)
    (hf : t = netID → net'.role id = net.role id) : roleIn s' netID id = roleIn s netID id := by
  unfold roleIn
  rw [h]
  by_cases heq : t = netID
  · subst heq
    rw [GoMap.get_set_self, hnet]
    exact hf rfl
  · rw [GoMap.get_set_ne _ _ (Ne.symm heq)]

/-! ## Commands in one piece -/

/-- The move may change the role. -/
def moveChangesRole (netID : NetId) (id : NodeId) : Move → Bool
  | .depart j => j = id
  | .flag t _ => t = netID
  | .join j t _ | .drop j t | .expel j t | .assign j t _ => t = netID && j = id
  | _ => false

theorem edit_role {m : Move} (h : Edit m netID net net')
    (hm : moveChangesRole netID id m = false) : net'.role id = net.role id := by
  have hne : ∀ {j : NodeId}, (decide (netID = netID) && decide (j = id)) = false → id ≠ j := by
    intro j hj heq
    simp [heq] at hj
  cases h with
  | arrive j nets =>
    unfold attend
    split <;> rfl
  | depart j => rw [role_dropMember, if_neg fun heq => by simp [moveChangesRole, heq] at hm]
  | join j _ role => rw [role_joinedAs, if_neg (hne hm)]
  | drop j => rw [role_dropMember, if_neg (hne hm)]
  | expel j => rw [role_dropMember, if_neg (hne hm)]
  | assign j _ role => rw [role_setRole, if_neg (hne hm)]
  | flag _ enterprise => simp [moveChangesRole] at hm
  | vanish | tag | equip => rfl

/-- A command whose moves may change the role is one that may. -/
theorem changesRole_of_moved {E : AdminEnv} {ms : List Move} {m : Move} (h : Moved E s op ms)
    (hm : m ∈ ms) (hchanges : moveChangesRole netID id m = true) :
    changesRole s netID id op = true := by
  cases h with
  | none => cases hm
  | reaped threshold chunk ids hids =>
    obtain ⟨j, -, rfl⟩ := List.mem_map.mp hm
    cases hchanges
  | transferred order msg net owner role hnet howner hne hrole =>
    have hnew : names msg "new_owner_id" netID id = true ∨
        (msg.jsonUint16 "network_id" = netID ∧ owner = id) := by
      simp only [List.mem_cons, List.not_mem_nil, or_false] at hm
      rcases hm with rfl | rfl
      · exact Or.inr (by simpa [moveChangesRole] using hchanges)
      · exact Or.inl (by simpa [moveChangesRole, names] using hchanges)
    simp only [changesRole, transfers, Bool.or_eq_true]
    rcases hnew with hnew | ⟨rfl, rfl⟩
    · exact Or.inl hnew
    · exact Or.inr (by simp [roleIn, hnet, howner])
  | synced msg net done hzero hnet hent hdone hall =>
    rcases Roster.syncMoves_syncs (hdone.subset hm) with hs
    cases hs with
    | _ => simp_all [moveChangesRole, changesRole]
  | provisionedNew =>
    simp only [List.mem_cons, List.not_mem_nil, or_false] at hm
    rcases hm with rfl | rfl <;> cases hchanges
  | _ =>
    obtain rfl := List.mem_singleton.mp hm
    first
      | exact hchanges
      | cases hchanges

/-- A command that may not change the role leaves it as it is. -/
theorem step_roleIn {E : AdminEnv} (h : changesRole s netID id op = false) :
    roleIn (Roster.step E s op) netID id = roleIn s netID id := by
  have hop : changesRole s netID id op ≠ true := by simp [h]
  unfold roleIn
  cases hnet' : (Roster.step E s op).networks.get netID with
  | none =>
    cases hnet : s.networks.get netID with
    | none => rfl
    | some net =>
      obtain ⟨msg, rfl, hid⟩ := network_stays (by simp [hnet]) hnet'
      exact absurd (decide_eq_true hid) hop
  | some net' =>
    obtain ⟨net, hfrom, hrole⟩ := edit_step
      (R := fun t net net' => t = netID → net'.role id = net.role id) (fun _ _ _ => rfl)
      (fun _ _ _ _ h₁ h₂ ht => (h₂ ht).trans (h₁ ht))
      (fun ms hmoved m hm t net net' hedit ht => by
        subst ht
        refine edit_role hedit (Bool.eq_false_iff.mpr fun hm' => hop ?_)
        exact changesRole_of_moved hmoved hm hm') hnet'
    rcases hfrom with hold | ⟨hnext, hmakes⟩
    · rw [hold]
      exact hrole rfl
    · cases hmakes with
      | _ => exact absurd (decide_eq_true hnext.symm) hop

/-! ## Registrations, sweeps and departures -/

section

variable {req : RegisterReq} {key : Bytes}

theorem fileNode_networks (s : Server) (id : NodeId) (n : NodeInfo) (hostname : String) :
    (fileNode s id n hostname).1.networks = s.networks.modify 0 (attend id) := by
  unfold fileNode
  rw [setNodeHostname_networks]
  rfl

theorem indexOwner_networks (s : Server) (owner : String) (id : NodeId) :
    (indexOwner s owner id).networks = s.networks := by
  rw [indexOwner_frame]

/-- The slow path leaves the networks alone, or brings the node it files to
the backbone. -/
theorem slowPath_networks {E : Env} (h : slowPath E now order s req key = .ok o) :
    o.server.networks = s.networks ∨ ∃ id, filedId s req = some id ∧
      o.server.networks = s.networks.modify 0 (attend id) := by
  cases slowPath_end h with
  | refreshed id n hidx hn =>
    left
    simp only [slowRefresh, setNodeHostname_networks]
    split
    · rw [indexOwner_networks]
    · rfl
  | byKey id hidx hid hknown =>
    refine Or.inr ⟨id, hid, ?_⟩
    simp only [reclaimByKey, fileNode_networks, indexOwner_networks]
  | new o hidx hid hknown h =>
    refine Or.inr ⟨s.nextNode, hid, ?_⟩
    rw [registerNew_server h, fileNode_networks, indexOwner_networks]
  | byOwner id hidx hne hown hid hknown =>
    refine Or.inr ⟨id, hid, ?_⟩
    simp only [reclaimByOwner, fileNode_networks]

/-- The same of the event. -/
theorem slow_networks {E : NodeEnv} {ext : String}
    (hf : w.runs e = some (.register req key ext .slow)) :
    (w.step E e).live.networks = w.live.networks ∨ ∃ id, w.files E e = some (id, key) ∧
      (w.step E e).live.networks = w.live.networks.modify 0 (attend id) := by
  cases e with
  | go i order logged =>
    have hgo : w.flights[i]? = some (.register req key ext .slow) := hf
    simp only [World.step, hgo]
    show (w.goRegister E i order logged req key ext .slow).live.networks = _ ∨ ∃ id, _ ∧
      (w.goRegister E i order logged req key ext .slow).live.networks = _
    unfold World.goRegister
    simp only
    split
    · next horder =>
      split
      · next o ho =>
        rw [afterRegister_live]
        rcases slowPath_networks ho with hsame | ⟨id, hid, hattend⟩
        · exact Or.inl hsame
        · refine Or.inr ⟨id, ?_, hattend⟩
          have hslow := slowSucceeds_iff.mpr ⟨horder, o, ho⟩
          simp only [World.files, hgo, hslow, if_true, hid, Option.map_some]
      · exact Or.inl rfl
    · exact Or.inl rfl
  | _ => cases hf

theorem sweepOne_networks (threshold : Time) (s : Server) (cand : NodeId × String) :
    (sweepOne threshold s cand).networks = s.networks ∨
      (sweepOne threshold s cand).networks = s.networks.modify 0 (unattend cand.1) := by
  unfold sweepOne
  split
  · split
    · right
      unfold dropCandidate dropNode dropHostname
      split <;> rfl
    · exact Or.inl rfl
  · exact Or.inl rfl

theorem sweep_roleIn (threshold : Time) (cands : List (NodeId × String)) (s : Server) :
    roleIn (cands.foldl (sweepOne threshold) s) netID id = roleIn s netID id := by
  induction cands generalizing s with
  | nil => rfl
  | cons cand cands ih =>
    rw [List.foldl_cons, ih]
    rcases sweepOne_networks threshold s cand with h | h
    · exact roleIn_congr h
    · exact roleIn_modify h fun _ _ => rfl

theorem departNode_networks (s : Server) (id : NodeId) (n : NodeInfo) :
    (departNode s id n).networks = n.networks.foldl
      (fun m netID => m.modify netID fun net => dropMember net id) s.networks := by
  unfold departNode dropNode dropHostname
  split <;> rfl

theorem departNode_roleIn (hj : id ≠ j) (n : NodeInfo) :
    roleIn (departNode s j n) netID id = roleIn s netID id := by
  have hfold : ∀ (nets : List NetId) (m : GoMap NetId NetworkInfo),
      ((nets.foldl (fun m t => m.modify t fun net => dropMember net j) m).get netID).bind
        (fun net => net.role id) = (m.get netID).bind fun net => net.role id := by
    intro nets
    induction nets with
    | nil => intro m; rfl
    | cons t nets ih =>
      intro m
      rw [List.foldl_cons, ih, GoMap.get_modify]
      split
      · next heq =>
        subst heq
        cases m.get netID with
        | none => rfl
        | some net => exact (role_dropMember ..).trans (if_neg hj)
      · rfl
  unfold roleIn
  rw [departNode_networks]
  exact hfold n.networks s.networks

end

/-! ## The settings of a node -/

/-- What the command makes of the networks: it joins one that has room, or
leaves one, or does nothing to them. -/
inductive Reseats (c : Checked) (s : Server) : GoMap NetId NetworkInfo → Prop
  | none : Reseats c s s.networks
  | joined (t : NetId) (token : String) (net : NetworkInfo) (role : Role) :
      c.setting = .join t token → s.networks.get t = some net → belowLimit net = true →
      Reseats c s (s.networks.set t (joinedAs net c.nodeID role))
  | left (t : NetId) (net : NetworkInfo) : c.setting = .leave t → s.networks.get t = some net →
      Reseats c s (s.networks.set t (dropMember net c.nodeID))

theorem commit_reseats {E : NodeEnv} {c : Checked} (h : c.commit E now s = .ok o) :
    Reseats c s o.server.networks := by
  obtain ⟨j, key, challenge, setting⟩ := c
  have hedit {edit : NodeInfo → NodeInfo} {resp : Resp} (hok : editNode s j edit resp = .ok o) :
      Reseats ⟨j, key, challenge, setting⟩ s o.server.networks := by
    simp only [editNode, bind_eq_ok, pure_eq_ok] at hok
    obtain ⟨n, -, rfl⟩ := hok
    exact .none
  unfold Checked.commit at h
  cases setting with
  | hostname name =>
    simp only [commitHostname, bind_eq_ok, pure_eq_ok] at h
    obtain ⟨n, -, _, -, rfl⟩ := h
    exact .none
  | join t token =>
    simp only [commitJoin, bind_eq_ok, getNetwork_eq_ok, require_eq_ok, pure_eq_ok] at h
    obtain ⟨n, -, net, hnet, _, -, _, hroom, _, -, rfl⟩ := h
    simp only [applyRBACPreAssignment_joined]
    exact .joined t token net _ rfl hnet hroom
  | leave t =>
    simp only [commitLeave, bind_eq_ok, getNetwork_eq_ok, pure_eq_ok] at h
    obtain ⟨n, -, net, hnet, _, -, _, -, rfl⟩ := h
    exact .left t net rfl hnet
  | _ => exact hedit h

theorem setting_roleIn {E : NodeEnv} {c : Checked} (h : c.commit E now s = .ok o)
    (hc : (decide (c.nodeID = id) && moves netID c.setting) = false) :
    roleIn o.server netID id = roleIn s netID id := by
  have hreseats := commit_reseats h
  generalize hnets : o.server.networks = nets at hreseats
  cases hreseats with
  | none => exact roleIn_congr hnets
  | joined t token net role hset hnet | left t net hset hnet =>
    refine roleIn_set hnets hnet fun ht => ?_
    have hne : id ≠ c.nodeID := fun heq => by simp [hset, moves, ht, heq] at hc
    simp [hne]

/-- An event of the registry that may not change the role leaves it as it
is. -/
theorem world_roleIn {E : NodeEnv} (hrestart : ¬ w.restarts e)
    (h : worldChangesRole w netID id e = false) :
    roleIn (w.step E e).live netID id = roleIn w.live netID id := by
  have hacts := step_acts E w e
  generalize hs : (w.step E e).live = s at hacts
  cases hacts with
  | slow req key ext s hf hform hfiles =>
    rw [← hs]
    rcases slow_networks hf with hsame | ⟨j, -, hattend⟩
    · exact roleIn_congr hsame
    · refine roleIn_modify hattend fun _ net => ?_
      unfold attend
      split <;> rfl
  | set msg c gated o hf ho =>
    cases e with
    | go i order logged =>
      simp only [worldChangesRole, hf] at h
      exact setting_roleIn ho h
    | _ => cases hf
  | swept threshold cands hf => exact sweep_roleIn threshold _ w.live
  | deregistered n msg logged hn =>
    exact departNode_roleIn (fun heq => by simp [worldChangesRole, heq] at h) n
  | amended op logged hop => exact step_roleIn h
  | started order horder => exact absurd horder hrestart
  | failedOver s hs => exact absurd (by simp [World.restarts, hs]) hrestart
  | _ => rfl

/-! ## The role-gated commands -/

/-- The change of a role-gated command that may not change the role. -/
theorem commit_roleIn {E : Env} {c : Gated} (h : c.commit E s msg = .ok o)
    (hc : c.changesRole s msg netID id = false) : roleIn o.server netID id = roleIn s netID id := by
  have hne : ∀ {field : String}, names msg field netID id = false →
      msg.jsonUint16 "network_id" = netID → id ≠ msg.jsonUint32 field := by
    intro field hnames ht heq
    simp [names, ht, heq] at hnames
  have hrole : ∀ {verb already : String} {role : Role},
      names msg "target_node_id" netID id = false →
      commitRole s msg verb role already = .ok o →
      roleIn o.server netID id = roleIn s netID id := by
    intro verb already role hnames hok
    simp only [commitRole, bind_eq_ok, getNetwork_eq_ok, pure_eq_ok] at hok
    obtain ⟨net, hnet, _, -, _, -, _, -, rfl⟩ := hok
    refine roleIn_set rfl hnet fun ht => ?_
    rw [role_setRole, if_neg (hne hnames ht)]
  cases c with
  | deleteNetwork =>
    simp only [Gated.commit, commitDelete, bind_eq_ok, pure_eq_ok] at h
    obtain ⟨net, -, rfl⟩ := h
    have hforget : (forgetNetwork s net.members (msg.jsonUint16 "network_id")).networks =
        s.networks := congrArg Roster.Roll.networks (Roster.roll_forgetNetwork s net.members _)
    have ht : netID ≠ msg.jsonUint16 "network_id" :=
      fun heq => by simp [Gated.changesRole, heq] at hc
    simp only [roleIn, hforget, GoMap.get_del_ne _ ht]
  | renameNetwork =>
    simp only [Gated.commit, commitRename, bind_eq_ok, getNetwork_eq_ok, pure_eq_ok] at h
    obtain ⟨net, hnet, _, -, rfl⟩ := h
    exact roleIn_set rfl hnet fun _ => rfl
  | kickMember =>
    simp only [Gated.commit, commitKick, bind_eq_ok, getNetwork_eq_ok, pure_eq_ok] at h
    obtain ⟨net, hnet, _, -, _, -, _, -, rfl⟩ := h
    refine roleIn_set rfl hnet fun ht => ?_
    rw [role_dropMember, if_neg (hne hc ht)]
  | promoteMember => exact hrole hc h
  | demoteMember => exact hrole hc h
  | transferOwnership order =>
    simp only [Gated.commit, commitTransfer, bind_eq_ok, require_eq_ok, getNetwork_eq_ok,
      pure_eq_ok] at h
    obtain ⟨net, hnet, _, howner, _, -, _, -, rfl⟩ := h
    simp only [Gated.changesRole, transfers, Bool.or_eq_false_iff] at hc
    refine roleIn_set rfl hnet fun ht => ?_
    rw [role_setRole, if_neg (hne hc.1 ht), role_setRole, if_neg]
    -- the owner that was found has that role
    intro heq
    cases hfind : order.find? fun j => net.role j = some .owner with
    | none => simp [hfind] at howner
    | some j =>
      have hj := List.find?_some hfind
      rw [hfind, Option.getD_some] at heq
      subst heq ht
      exact absurd hc.2 (by simp [roleIn, hnet, of_decide_eq_true hj])
  | setMemberTags =>
    simp only [Gated.commit, commitTags, bind_eq_ok, getNetwork_eq_ok, pure_eq_ok] at h
    obtain ⟨net, hnet, _, -, rfl⟩ := h
    exact roleIn_set rfl hnet fun _ => rfl
  | setNetworkPolicy | setExprPolicy =>
    simp only [Gated.commit, writePolicy, bind_eq_ok, getNetwork_eq_ok, pure_eq_ok] at h
    obtain ⟨p, -, net, hnet, rfl⟩ := h
    exact roleIn_set rfl hnet fun _ => rfl

theorem writePolicy_roleIn {p : PolicyWrite} (h : writePolicy s msg p = .ok o) :
    roleIn o.server netID id = roleIn s netID id := by
  simp only [writePolicy, bind_eq_ok, getNetwork_eq_ok, pure_eq_ok] at h
  obtain ⟨net, hnet, rfl⟩ := h
  exact roleIn_set rfl hnet fun _ => rfl

end Rendezvous.Policy

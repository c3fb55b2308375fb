import Rendezvous.Membership.Handlers

/-!
# What the membership handlers do

One lemma for each handler: what a successful call found, and the state
and the deltas it leaves. Later proofs read the handlers through them.
-/

namespace Rendezvous.Membership

open Base Registry Authz

/-! ## Roles -/

section

variable (E : Env) (net : NetworkInfo) (id j : NodeId) (role : Role)

@[simp] theorem role_setRole :
    (setRole net id role).role j = if j = id then some role else net.role j := by
  simp [NetworkInfo.role, setRole, GoMap.get_set]

@[simp] theorem role_addMember :
    (addMember net id).role j = if j = id then some .member else net.role j := by
  simp [NetworkInfo.role, addMember, GoMap.get_set]

@[simp] theorem role_dropMember :
    (dropMember net id).role j = if j = id then none else net.role j := by
  unfold NetworkInfo.role dropMember
  cases net.memberRoles with
  | none => simp
  | some roles => simp [GoMap.get_del]

/-! ## Roles kept for a join -/

/-- A kept role depends on the record's external identity alone. -/
theorem preAssignedRole_congr {s s' : Server} (netID : NetId) (id : NodeId)
    (hpre : s'.rbacPreAssign = s.rbacPreAssign)
    (hext : (s'.nodes.get id).map NodeInfo.externalID = (s.nodes.get id).map NodeInfo.externalID) :
    preAssignedRole E s' netID id = preAssignedRole E s netID id := by
  unfold preAssignedRole
  rw [hpre]
  cases hs : s.nodes.get id with
  | none =>
    rw [hs, Option.map_none, Option.map_eq_none_iff] at hext
    rw [hext]
  | some n =>
    rw [hs, Option.map_some, Option.map_eq_some_iff] at hext
    obtain ⟨n', hs', hext⟩ := hext
    rw [hs']
    simp only [Option.bind_eq_bind, Option.bind_some, hext]

/-- The role a node gets when it joins: the one kept for its external
identity, or that of a plain member. -/
def joinRole (E : Env) (s : Server) (netID : NetId) (id : NodeId) : Role :=
  (preAssignedRole E s netID id).getD .member

/-- The record of a network a node just joined with a role. -/
def joinedAs (net : NetworkInfo) (id : NodeId) (role : Role) : NetworkInfo :=
  setRole (addMember net id) id role

@[simp] theorem role_joinedAs :
    (joinedAs net id role).role j = if j = id then some role else net.role j := by
  unfold joinedAs
  rw [role_setRole, role_addMember]
  split <;> rfl

theorem joinedAs_member : joinedAs net id .member = addMember net id := by
  simp [joinedAs, setRole, addMember]

theorem applyRBACPreAssignment_joined (s : Server) (netID : NetId) (id : NodeId)
    (net : NetworkInfo) :
    applyRBACPreAssignment E
        (appendNodeNetwork (putNetwork s netID (addMember net id)) id netID)
        netID id =
      appendNodeNetwork (putNetwork s netID
        (joinedAs net id (joinRole E s netID id))) id netID := by
  let joined := appendNodeNetwork (putNetwork s netID (addMember net id)) id netID
  have hpre : preAssignedRole E joined netID id = preAssignedRole E s netID id := by
    refine preAssignedRole_congr E netID id rfl ?_
    have hnodes : joined.nodes.get id = (s.nodes.get id).map fun n =>
        { n with networks := n.networks ++ [netID] } := GoMap.get_modify_self _ _ _
    rw [hnodes, Option.map_map]
    rfl
  show applyRBACPreAssignment E joined netID id = _
  unfold applyRBACPreAssignment joinRole
  rw [hpre]
  cases preAssignedRole E s netID id with
  | none =>
    rw [Option.getD_none, joinedAs_member]
  | some role =>
    have hnets : joined.networks.modify netID (fun net => setRole net id role) =
        s.networks.set netID (joinedAs net id role) :=
      GoMap.modify_set_self _ _ _ _
    simp only [hnets]
    rfl

end

/-! ## The handlers -/

variable {E : Env} {now : Time} {s : Server} {msg : Msg} {o : Outcome}

theorem handleCreateNetwork_ok (h : handleCreateNetwork E now s msg = .ok o) : ∃ rules exprPolicy n,
      s.nodes.get (msg.jsonUint32 "node_id") = some n ∧ s.nextNet ≠ 0 ∧
      let net := newNetwork msg (msg.jsonUint32 "node_id") rules exprPolicy now
      o.server = appendNodeNetwork
        (putNetwork { s with nextNet := s.nextNet + 1 } s.nextNet net)
        (msg.jsonUint32 "node_id") s.nextNet ∧
      o.wal = [createDelta s.nextNet (msg.jsonUint32 "node_id") net] := by
  simp only [handleCreateNetwork, bind_eq_ok, require_eq_ok, pure_eq_ok, decide_eq_true_eq] at h
  obtain ⟨_, -, rules, -, expr, -, _, -, _, -, _, hhas, _, hfree, _, -, rfl⟩ := h
  obtain ⟨n, hn⟩ := (GoMap.has_eq_true _ _).mp hhas
  exact ⟨rules, expr, n, hn, hfree, rfl, rfl⟩

theorem handleJoinNetwork_ok (h : handleJoinNetwork E s msg = .ok o) :
    let id := msg.jsonUint32 "node_id"
    let netID := msg.jsonUint16 "network_id"
    ∃ node net, netID ≠ 0 ∧ s.nodes.get id = some node ∧
      s.networks.get netID = some net ∧ netID ∉ node.networks ∧
      o.server = appendNodeNetwork (putNetwork s netID
        (joinedAs net id (joinRole E s netID id))) id netID ∧
      o.wal = [.networkJoin id netID] := by
  simp only [handleJoinNetwork, commitJoin, bind_eq_ok, require_eq_ok, orFail_eq_ok,
    getNetwork_eq_ok, pure_eq_ok, decide_eq_true_eq] at h
  obtain ⟨_, hzero, _, -, _, -, node, hnode, net, hnet, _, -, _, -, _, hnew, rfl⟩ := h
  exact ⟨node, net, hzero, hnode, hnet, by simpa using hnew,
    applyRBACPreAssignment_joined E s _ _ net, rfl⟩

theorem handleLeaveNetwork_ok (h : handleLeaveNetwork E s msg = .ok o) :
    let id := msg.jsonUint32 "node_id"
    let netID := msg.jsonUint16 "network_id"
    ∃ node net, netID ≠ 0 ∧ s.nodes.get id = some node ∧
      s.networks.get netID = some net ∧ netID ∈ node.networks ∧
      (net.enterprise = true → net.role id ≠ some .owner) ∧
      o.server = dropMemberInvites (putNetwork (removeNodeNetwork s id netID)
        netID (dropMember net id)) id netID ∧
      o.wal = [.networkLeave id netID] := by
  simp only [handleLeaveNetwork, commitLeave, bind_eq_ok, require_eq_ok, orFail_eq_ok,
    getNetwork_eq_ok, pure_eq_ok, decide_eq_true_eq] at h
  obtain ⟨_, hzero, _, -, _, -, node, hnode, net, hnet, _, howner, _, hlisted, rfl⟩ := h
  refine ⟨node, net, hzero, hnode, hnet, by simpa using hlisted, ?_, rfl, rfl⟩
  intro hent hrole
  simp [hent, hrole] at howner

theorem handleDeleteNetwork_ok (h : handleDeleteNetwork E s msg = .ok o) :
    let netID := msg.jsonUint16 "network_id"
    ∃ net, netID ≠ 0 ∧ s.networks.get netID = some net ∧ (let s := forgetNetwork s net.members netID
       o.server = { s with
         inviteInbox := pruneInbox (fun inv => inv.networkID ≠ netID) s.inviteInbox
         networks := s.networks.del netID }) ∧
      o.wal = [.networkDelete netID] := by
  simp only [handleDeleteNetwork, commitDelete, bind_eq_ok, require_eq_ok, getNetwork_eq_ok,
    pure_eq_ok, decide_eq_true_eq] at h
  obtain ⟨_, hzero, _, -, net, hnet, rfl⟩ := h
  exact ⟨net, hzero, hnet, rfl, rfl⟩

theorem handleKickMember_ok (h : handleKickMember E s msg = .ok o) :
    let target := msg.jsonUint32 "target_node_id"
    let netID := msg.jsonUint16 "network_id"
    ∃ net, netID ≠ 0 ∧ s.networks.get netID = some net ∧
      target ∈ net.members ∧ net.role target ≠ some .owner ∧
      o.server = dropMemberInvites (removeNodeNetwork
        (putNetwork s netID (dropMember net target)) target netID) target netID ∧
      o.wal = [] := by
  simp only [handleKickMember, commitKick, bind_eq_ok, require_eq_ok, getNetwork_eq_ok,
    pure_eq_ok, decide_eq_true_eq] at h
  obtain ⟨_, hzero, _, -, _, -, net, hnet, _, howner, _, -, _, hmem, rfl⟩ := h
  exact ⟨net, hzero, hnet, by simpa using hmem, howner, rfl, rfl⟩

theorem changeRole_ok {verb already : String} {newRole : Role}
    (h : changeRole E s msg verb newRole already = .ok o) :
    let target := msg.jsonUint32 "target_node_id"
    let netID := msg.jsonUint16 "network_id"
    ∃ net current, s.networks.get netID = some net ∧
      net.role target = some current ∧ current ≠ .owner ∧
      o.server = putNetwork s netID (setRole net target newRole) ∧ o.wal = [] := by
  simp only [changeRole, commitRole, bind_eq_ok, require_eq_ok, orFail_eq_ok,
    getNetwork_eq_ok, pure_eq_ok, decide_eq_true_eq] at h
  obtain ⟨_, -, _, -, net, hnet, current, hcurrent, _, howner, _, -, rfl⟩ := h
  exact ⟨net, current, hnet, hcurrent, howner, rfl, rfl⟩

theorem handleTransferOwnership_ok {order : List NodeId}
    (h : handleTransferOwnership E order s msg = .ok o) :
    let newOwner := msg.jsonUint32 "new_owner_id"
    let netID := msg.jsonUint16 "network_id"
    ∃ net currentOwner role, s.networks.get netID = some net ∧
      net.role currentOwner = some .owner ∧ newOwner ≠ currentOwner ∧
      net.role newOwner = some role ∧
      o.server = putNetwork s netID
        (setRole (setRole net currentOwner .admin) newOwner .owner) ∧
      o.wal = [] := by
  simp only [handleTransferOwnership, commitTransfer, bind_eq_ok, require_eq_ok,
    getNetwork_eq_ok, pure_eq_ok, decide_eq_true_eq] at h
  obtain ⟨_, -, _, -, _, -, net, hnet, _, hsome, _, hne, _, hrole, rfl⟩ := h
  obtain ⟨role, hrole⟩ := Option.isSome_iff_exists.mp hrole
  cases hfind : order.find? (fun id => net.role id = some .owner) with
  | none => exact absurd (by rw [hfind]; rfl) hsome
  | some currentOwner =>
    rw [hfind] at hne
    have howner : net.role currentOwner = some .owner := by
      simpa using List.find?_some hfind
    exact ⟨net, currentOwner, role, hnet, howner, hne, hrole, rfl, rfl⟩

/-- The tags of a network after the tags of one member were set. -/
def retagged (net : NetworkInfo) (id : NodeId) (tags : List String) : NetworkInfo :=
  { net with memberTags :=
      if tags.isEmpty then net.memberTags.del id else net.memberTags.set id tags }

theorem handleSetMemberTags_ok (h : handleSetMemberTags E s msg = .ok o) :
    let target := msg.jsonUint32 "target_node_id"
    let netID := msg.jsonUint16 "network_id"
    ∃ net, s.networks.get netID = some net ∧ target ∈ net.members ∧
      o.server = putNetwork s netID (retagged net target (msg.strings "tags")) ∧
      o.wal = [] := by
  simp only [handleSetMemberTags, commitTags, bind_eq_ok, require_eq_ok, getNetwork_eq_ok,
    pure_eq_ok] at h
  obtain ⟨_, -, _, -, _, -, net, hnet, _, hmem, rfl⟩ := h
  exact ⟨net, hnet, by simpa using hmem, rfl, rfl⟩

/-- The record of a network whose enterprise flag was set. -/
def flagged (net : NetworkInfo) (enterprise : Bool) : NetworkInfo :=
  { net with
    enterprise := enterprise
    memberRoles := rolesForEnterprise enterprise net }

theorem handleSetNetworkEnterprise_ok
    (h : handleSetNetworkEnterprise E s msg = .ok o) :
    let netID := msg.jsonUint16 "network_id"
    ∃ net, netID ≠ 0 ∧ s.networks.get netID = some net ∧
      o.server = putNetwork s netID (flagged net (msg.bool "enterprise")) ∧
      o.wal = [] := by
  simp only [handleSetNetworkEnterprise, bind_eq_ok, require_eq_ok,
    getNetwork_eq_ok, pure_eq_ok, decide_eq_true_eq] at h
  obtain ⟨_, hzero, _, -, net, hnet, rfl⟩ := h
  exact ⟨net, hzero, hnet, rfl, rfl⟩

theorem handleInviteToNetwork_ok
    (h : handleInviteToNetwork E now s msg = .ok o) :
    (∃ inbox, o.server = { s with inviteInbox := inbox }) ∧ o.wal = [] := by
  simp only [handleInviteToNetwork, bind_eq_ok] at h
  obtain ⟨_, -, _, -, _, -, _, -, _, -, _, -, _, -, _, -, _, -, hrest⟩ := h
  split at hrest
  · rw [pure_eq_ok] at hrest
    subst hrest
    exact ⟨⟨s.inviteInbox, rfl⟩, rfl⟩
  · simp only [bind_eq_ok, pure_eq_ok] at hrest
    obtain ⟨_, -, rfl⟩ := hrest
    exact ⟨⟨_, rfl⟩, rfl⟩

/-- A declined invite leaves nodes and networks alone; an accepted one is
a join as a plain member. -/
theorem handleRespondInvite_ok (h : handleRespondInvite E now s msg = .ok o) :
    let id := msg.jsonUint32 "node_id"
    let netID := msg.jsonUint16 "network_id"
    o.wal = [] ∧ ∃ s' inbox, o.server = { s' with inviteInbox := inbox } ∧
      (msg.bool "accept" = false ∧ s' = s ∨ msg.bool "accept" = true ∧ ∃ node net,
        s.nodes.get id = some node ∧ s.networks.get netID = some net ∧
        net.enterprise = true ∧ netID ∉ node.networks ∧
        s' = appendNodeNetwork (putNetwork s netID (addMember net id)) id netID) := by
  simp only [handleRespondInvite, bind_eq_ok, orFail_eq_ok, pure_eq_ok] at h
  obtain ⟨_, -, node, hnode, _, -, _, -, s', hs', rfl⟩ := h
  refine ⟨rfl, s', _, rfl, ?_⟩
  cases haccept : msg.bool "accept" with
  | false =>
    rw [haccept] at hs'
    exact Or.inl ⟨rfl, (Except.ok.inj hs').symm⟩
  | true =>
    rw [haccept] at hs'
    simp only [if_true, acceptInvite, bind_eq_ok, getNetwork_eq_ok,
      require_eq_ok, pure_eq_ok] at hs'
    obtain ⟨net, hnet, _, hent, _, -, _, hnew, rfl⟩ := hs'
    exact Or.inr ⟨rfl, node, net, hnode, hnet, hent, by simpa using hnew, rfl⟩

end Rendezvous.Membership

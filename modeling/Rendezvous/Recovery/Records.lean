import Rendezvous.Membership.Spec
import Rendezvous.Recovery.Numbering
import Rendezvous.Recovery.System

/-!
# Live requests against their deltas

The requests that register and remove nodes, create and remove networks,
change memberships and replace keys. A request whose delta says all it did
(`Replayable`) does to the view what the delta means (`Records`).

A kick and an accepted invite record no delta, and several other requests
do more than their delta says: a deregistration leaves the key and the
owner in their indices and takes invites with it, a new network may have
rules and a policy, a join may bring a kept role.
-/

namespace Rendezvous.Recovery

open Base Registry Rendezvous.Membership Directory Identity Wal Persist

variable {s : Server} {id : NodeId} {n : NodeInfo} {E : Env} {now : Time} {o : Outcome}
  {msg : Msg} {netID : NetId}

/-! ## The requests -/

/-- A request, with what its handler reads besides the state. -/
inductive Request where
  | register (now : Time) (order : List NetId) (remoteAddr : String) (msg : Msg)
  | deregister (msg : Msg)
  | createNetwork (now : Time) (msg : Msg)
  | deleteNetwork (msg : Msg)
  | joinNetwork (msg : Msg)
  | leaveNetwork (msg : Msg)
  | kickMember (msg : Msg)
  | respondInvite (now : Time) (msg : Msg)
  | rotateKey (now : Time) (msg : Msg)
  | recoverIdentity (now : Time) (msg : Msg)

/-- One request. A refused recovery may still change the nonce ledger. -/
def serve (E : Env) (sys : System) : Request → System
  | .register now order remoteAddr msg =>
    sys.commit (handleRegister E now order remoteAddr sys.live msg)
  | .deregister msg => sys.commit (handleDeregister E sys.live msg)
  | .createNetwork now msg =>
    sys.commit (handleCreateNetwork E now sys.live msg)
  | .deleteNetwork msg => sys.commit (handleDeleteNetwork E sys.live msg)
  | .joinNetwork msg => sys.commit (handleJoinNetwork E sys.live msg)
  | .leaveNetwork msg => sys.commit (handleLeaveNetwork E sys.live msg)
  | .kickMember msg => sys.commit (handleKickMember E sys.live msg)
  | .respondInvite now msg =>
    sys.commit (handleRespondInvite E now sys.live msg)
  | .rotateKey now msg => sys.commit (handleRotateKey E now sys.live msg)
  | .recoverIdentity now msg =>
    let (server, answer) := handleRecoverIdentity E now sys.live msg
    match answer with
    | .ok (_, deltas) => { sys with live := server, wal := sys.wal ++ deltas }
    | .error _ => { sys with live := server }

/-- A registry right after a save. -/
def savedSystem (s : Server) : System := { live := s, disk := some (save s) }

/-! ## When the delta says it all -/

/-- No inbox is left empty, and none holds an invite that `drop` takes. -/
def Spares (inbox : GoMap NodeId (List NetworkInvite))
    (drop : NodeId → NetworkInvite → Prop) : Prop :=
  ∀ id invites, inbox.get id = some invites → invites ≠ [] ∧ ∀ inv ∈ invites, ¬ drop id inv

/-- The message has no document under `key`. -/
def NoDocument (msg : Msg) (key : String) : Prop :=
  match msg.field key with
  | some (.str raw) => raw = ""
  | some (.obj _) => False
  | _ => True

/-- Every kept role for the node in the network is that of a plain
member. -/
def KeepsMember (E : Env) (s : Server) (netID : NetId) (id : NodeId) : Prop :=
  ∀ role, preAssignedRole E s netID id = some role → role = .member

/-- The request's delta, if it succeeds, says all it does. -/
def Replayable (E : Env) (s : Server) : Request → Prop
  | .register _ _ _ msg =>
    -- The id of an owner whose node is gone is given out without a delta.
    s.pubKeyIdx.get (msg.str "public_key") = none ∧
      (msg.str "owner" ≠ "" → s.ownerIdx.get (msg.str "owner") = none)
  | .deregister msg =>
    let id := msg.jsonUint32 "node_id"
    ∀ n, s.nodes.get id = some n → s.pubKeyIdx.get (Base64.encode n.publicKey) = none ∧
        (n.owner ≠ "" → s.ownerIdx.get n.owner = none) ∧
        Spares s.inviteInbox fun j inv => j = id ∨ inv.inviterID = id
  | .createNetwork _ msg => NoDocument msg "rules" ∧ NoDocument msg "expr_policy"
  | .deleteNetwork msg =>
    let netID := msg.jsonUint16 "network_id"
    Spares s.inviteInbox fun _ inv => inv.networkID = netID
  | .joinNetwork msg =>
    let id := msg.jsonUint32 "node_id"
    let netID := msg.jsonUint16 "network_id"
    KeepsMember E s netID id ∧ ∀ net, s.networks.get netID = some net → id ∉ net.members
  | .leaveNetwork msg =>
    let id := msg.jsonUint32 "node_id"
    let netID := msg.jsonUint16 "network_id"
    Spares s.inviteInbox fun j inv =>
      inv.networkID = netID ∧ (j = id ∨ inv.inviterID = id)
  | .kickMember _ => False
  | .respondInvite _ _ => False
  | .rotateKey _ _ => True
  | .recoverIdentity _ _ => True

/-! ## What a request records -/

/-- A successful request did to the view what its delta means. -/
inductive Records (v : View) (server : Server) (wal : List Delta) : Prop where
  | nothing (hwal : wal = []) (hview : view server = v)
  | delta (d : Delta) (hwal : wal = [d]) (hformed : WellFormed d)
      (hfresh : Fresh v d) (hview : view server = v.apply d)

private theorem view_setExternalID (s : Server) (id : NodeId) (ext : String) :
    view (setExternalID s id ext) = view s := by
  have hmod := GoMap.mapVals_modify nodeView
    (fun n => { n with externalID := ext }) (fun n => n) (fun _ => rfl) s.nodes id
  rw [GoMap.modify_eq_self _ fun _ _ => rfl] at hmod
  unfold view setExternalID
  simp only [hmod]

/-! ### Registration -/

/-- The hostname a record has after `setNodeHostname`. -/
def givenHostname (s : Server) (id : NodeId) : String :=
  ((s.nodes.get id).map NodeInfo.hostname).getD ""

/-- A node without a hostname is given one, or none. -/
theorem view_setNodeHostname (hget : s.nodes.get id = some n) (hn : n.hostname = "")
    (hostname : String) :
    let s' := (setNodeHostname s id hostname).1
    view s' = { view s with
      nodes := (view s).nodes.modify id fun m =>
        { m with hostname := givenHostname s' id }
      hostnameIdx := enter (view s).hostnameIdx (givenHostname s' id) id } := by
  intro s'
  by_cases htakes : TakesHostname s id hostname
  · have hs' : s' = _ := setNodeHostname_takes htakes
    have hold : withoutOldHostname s id = s.hostnameIdx := by
      simp [withoutOldHostname, hget, hn]
    have hgiven : givenHostname s' id = hostname := by
      simp [givenHostname, hs', hget]
    have hmod := GoMap.mapVals_modify nodeView
      (fun n => { n with hostname := hostname })
      (fun n => { n with hostname := hostname }) (fun _ => rfl) s.nodes id
    rw [hgiven, hs', hold]
    unfold enter
    rw [if_neg htakes.1]
    simp only [view, hmod]
  · have hs' : s' = s := setNodeHostname_skips htakes
    have hgiven : givenHostname s' id = "" := by
      simp [givenHostname, hs', hget, hn]
    have hsame : (view s).nodes.modify id (fun m => { m with hostname := "" }) =
        (view s).nodes := by
      refine GoMap.modify_eq_self _ fun m hm => ?_
      rw [view_nodes_get, hget] at hm
      cases hm
      unfold nodeView
      rw [hn]
    rw [hgiven, hs', hsame]
    rfl

theorem view_fileNode (s : Server) (id : NodeId) (hn : n.hostname = "") (hostname : String) :
    let s' := (fileNode s id n hostname).1
    view s' = { view s with
      nodes := (view s).nodes.set id
        { nodeView n with hostname := givenHostname s' id }
      hostnameIdx := enter (view s).hostnameIdx (givenHostname s' id) id
      networks := (view s).networks.modify 0 fun net => net.attend id } := by
  intro s'
  have hfiled : view (addNodeToBackbone { s with nodes := s.nodes.set id n } id) = { view s with
        nodes := (view s).nodes.set id (nodeView n)
        networks := (view s).networks.modify 0 fun net => net.attend id } := by
    rw [view_addNodeToBackbone]
    simp only [view, GoMap.mapVals_set]
  have hget : (addNodeToBackbone { s with nodes := s.nodes.set id n } id).nodes.get
      id = some n := GoMap.get_set_self _ _ _
  have hset := view_setNodeHostname hget hn hostname
  rw [hfiled] at hset
  simp only [GoMap.modify_set_self] at hset
  exact hset

variable {key : Bytes} {inbox : GoMap NodeId (List NetworkInvite)} {keep : NetworkInvite → Bool}

private theorem registerNew_records {req : RegisterReq} (hv : Numbered (view s))
    (hkey : E.decodePublicKey req.publicKey = some key) (hne : req.publicKey ≠ "")
    (h : registerNew E now s req key = .ok o) : Records (view s) o.server o.wal := by
  have hfree : s.nextNode ≠ 0 := registerNew_free h
  have hserver := registerNew_server h
  let s₁ : Server := { s with
    nextNode := s.nextNode + 1
    pubKeyIdx := s.pubKeyIdx.set req.publicKey s.nextNode }
  let d : RegisterDelta := {
    nodeID := s.nextNode
    owner := req.owner
    publicKey := req.publicKey
    realAddr := req.listenAddr
    hostname := givenHostname o.server s.nextNode
    lanAddrs := req.lanAddrs
    version := req.version
    createdAt := some (rfc3339 now) }
  have hwal : o.wal = [.register d] := by
    simp only [registerNew, bind_eq_ok, pure_eq_ok] at h
    obtain ⟨_, _, _, _, rfl⟩ := h
    rfl
  have hdec : Base64.decode req.publicKey = some key := E.decodePublicKey_decode hkey
  have hunused : (view s).nodes.get s.nextNode = none := hv.nextNode_free hfree
  refine .delta (.register d) hwal ⟨hfree, hne, by simp [d, hdec]⟩ ⟨hfree, rfl⟩ ?_
  have hfile := view_fileNode (indexOwner s₁ req.owner s.nextNode) s.nextNode
    (n := freshNode req key [0] now) rfl req.hostname
  rw [← hserver] at hfile
  have hindexed : view (indexOwner s₁ req.owner s.nextNode) = { view s with
      nextNode := s.nextNode + 1
      pubKeyIdx := s.pubKeyIdx.set req.publicKey s.nextNode
      ownerIdx := enter s.ownerIdx req.owner s.nextNode } := by
    rw [view_indexOwner]
    rfl
  rw [hindexed] at hfile
  have happly : (view s).apply (.register d) = (view s).register d key := by
    simp [View.apply, GoMap.has, d, hunused, hdec]
  have hcounter : (if (view s).nextNode ≤ d.nodeID then d.nodeID + 1
      else (view s).nextNode) = s.nextNode + 1 := if_pos (UInt32.le_refl _)
  rw [happly, View.register, hcounter]
  exact hfile

/-- A registration of a new key. -/
theorem register_records {order : List NetId} {remoteAddr : String} (hv : Numbered (view s))
    (hkey : s.pubKeyIdx.get (msg.str "public_key") = none)
    (howner : msg.str "owner" ≠ "" → s.ownerIdx.get (msg.str "owner") = none)
    (h : handleRegister E now order remoteAddr s msg = .ok o) :
    Records (view s) o.server o.wal := by
  obtain ⟨req, key, o', htext, hne, hreq, hdec, hbranch, hwal, htop⟩ := handleRegister_branch h
  have hview : view o.server = view o'.server := htop.same view view_setExternalID
  rw [htext] at hkey
  rw [hreq] at howner
  have hrec : Records (view s) o'.server o'.wal := by
    generalize respNode o.resp = id at hbranch
    cases hbranch with
    | known _ n hidx _ | byKey _ hidx _ =>
      rw [hkey] at hidx
      cases hidx
    | byOwner _ _ hown hidx _ =>
      rw [howner hown] at hidx
      cases hidx
    | new _ _ _ _ hnew => exact registerNew_records hv hdec hne hnew
  rw [hwal]
  cases hrec with
  | nothing hnil hsame => exact .nothing hnil (hview.trans hsame)
  | delta d hone hformed hfresh hsame =>
    exact .delta d hone hformed hfresh (hview.trans hsame)

/-! ### Invites -/

private theorem keepInvites_eq {invites : List NetworkInvite} (hne : invites ≠ [])
    (h : ∀ inv ∈ invites, keep inv = true) : keepInvites keep invites = some invites := by
  unfold keepInvites
  rw [List.filter_eq_self.mpr h, if_neg (by simpa using hne)]

private theorem pruneInbox_eq (h : ∀ id invites, inbox.get id = some invites →
      invites ≠ [] ∧ ∀ inv ∈ invites, keep inv = true) : pruneInbox keep inbox = inbox := by
  unfold pruneInbox
  ext1 id
  rw [GoMap.get_filterMap]
  cases hget : inbox.get id with
  | none => rfl
  | some invites =>
    obtain ⟨hne, hkeep⟩ := h id invites hget
    exact keepInvites_eq hne hkeep

private theorem pruneOwnInbox_eq
    (h : ∀ invites, inbox.get id = some invites → invites ≠ [] ∧ ∀ inv ∈ invites, keep inv = true) :
    pruneOwnInbox id keep inbox = inbox := by
  unfold pruneOwnInbox
  cases hget : inbox.get id with
  | none => rfl
  | some invites =>
    obtain ⟨hne, hkeep⟩ := h invites hget
    simp only [keepInvites_eq hne hkeep]
    exact GoMap.set_get_self _ hget

theorem clearInviteInbox_eq (h : Spares s.inviteInbox fun j inv => j = id ∨ inv.inviterID = id) :
    clearInviteInbox s id = s := by
  have hown : s.inviteInbox.get id = none := by
    cases hget : s.inviteInbox.get id with
    | none => rfl
    | some invites =>
      obtain ⟨hne, hspared⟩ := h id invites hget
      obtain ⟨inv, hinv⟩ := List.exists_mem_of_ne_nil invites hne
      exact absurd (Or.inl rfl) (hspared inv hinv)
  unfold clearInviteInbox
  rw [GoMap.del_of_get_none _ hown]
  simp only
  rw [pruneInbox_eq fun j invites hget => ?_]
  obtain ⟨hne, hspared⟩ := h j invites hget
  refine ⟨hne, fun inv hinv => decide_eq_true ?_⟩
  intro hsent
  exact hspared inv hinv (Or.inr hsent)

private theorem dropMemberInvites_eq (h : Spares s.inviteInbox fun j inv =>
      inv.networkID = netID ∧ (j = id ∨ inv.inviterID = id)) :
    dropMemberInvites s id netID = s := by
  have hown : pruneOwnInbox id (fun inv => inv.networkID ≠ netID) s.inviteInbox =
      s.inviteInbox := by
    refine pruneOwnInbox_eq fun invites hget => ?_
    obtain ⟨hne, hspared⟩ := h id invites hget
    refine ⟨hne, fun inv hinv => decide_eq_true ?_⟩
    intro hnet
    exact hspared inv hinv ⟨hnet, Or.inl rfl⟩
  unfold dropMemberInvites
  simp only [hown]
  rw [pruneInbox_eq fun j invites hget => ?_]
  obtain ⟨hne, hspared⟩ := h j invites hget
  refine ⟨hne, fun inv hinv => ?_⟩
  have hnot := hspared inv hinv
  by_cases hnet : inv.networkID = netID
  · have hother : inv.inviterID ≠ id := fun hsent => hnot ⟨hnet, Or.inr hsent⟩
    simp [hother]
  · simp [hnet]

/-! ### Deregistration -/

private theorem withdraw_eq {m : GoMap String NodeId} {text : String}
    (h : text ≠ "" → m.get text = none) : withdraw m text = m := by
  unfold withdraw
  split
  · rfl
  · next hne => exact GoMap.del_of_get_none _ (h hne)

/-- A deregistration that leaves nothing behind in the indices and takes no
invite with it. -/
theorem view_departNode (hkey : s.pubKeyIdx.get (Base64.encode n.publicKey) = none)
    (howner : n.owner ≠ "" → s.ownerIdx.get n.owner = none)
    (hinvites : Spares s.inviteInbox fun j inv => j = id ∨ inv.inviterID = id) :
    view (departNode s id n) = (view s).deregister id (nodeView n) := by
  have hclear : clearInviteInbox (removeFromNetworks s id n.networks) id =
      removeFromNetworks s id n.networks := clearInviteInbox_eq hinvites
  have hkeyIdx : (view s).pubKeyIdx.del (Base64.encode (nodeView n).publicKey) =
      (view s).pubKeyIdx := GoMap.del_of_get_none _ hkey
  have hownerIdx : withdraw (view s).ownerIdx (nodeView n).owner =
      (view s).ownerIdx := withdraw_eq howner
  unfold departNode
  rw [hclear, view_dropNode, view_dropHostname, view_removeFromNetworks,
    View.deregister, hkeyIdx, hownerIdx]
  rfl

theorem deregister_records (hrep : Replayable E s (.deregister msg))
    (h : handleDeregister E s msg = .ok o) :
    Records (view s) o.server o.wal := by
  rcases deregister_cases h with ⟨hserver, hwal⟩ | ⟨n, hget, hserver, hwal⟩
  · exact .nothing hwal (by rw [hserver])
  · obtain ⟨hkey, howner, hinvites⟩ := hrep n hget
    refine .delta (.deregister (msg.jsonUint32 "node_id")) hwal trivial trivial ?_
    rw [hserver, view_departNode hkey howner hinvites]
    simp [View.apply, view_nodes_get, hget]

/-! ### Networks -/

theorem parseRulesField_none (h : NoDocument msg "rules") : parseRulesField E msg = .ok none := by
  unfold NoDocument at h
  unfold parseRulesField
  cases hfield : msg.field "rules" with
  | none => rfl
  | some doc =>
    rw [hfield] at h
    cases doc with
    | str raw => exact if_pos h
    | obj fields => exact h.elim
    | _ => rfl

private theorem parseExprField_none (h : NoDocument msg "expr_policy") :
    parseExprField E msg = .ok none := by
  unfold NoDocument at h
  unfold parseExprField
  cases hfield : msg.field "expr_policy" with
  | none => rfl
  | some doc =>
    rw [hfield] at h
    cases doc with
    | str raw => exact if_pos h
    | obj fields => exact h.elim
    | _ => rfl

theorem view_appendNodeNetwork (h : ∀ n, (view s).nodes.get id = some n → netID ∉ n.networks) :
    view (appendNodeNetwork s id netID) = { view s with
        nodes := (view s).nodes.modify id fun n => n.list netID } := by
  have hmod := GoMap.mapVals_modify nodeView
    (fun n => { n with networks := n.networks ++ [netID] })
    (fun n => { n with networks := n.networks ++ [netID] }) (fun _ => rfl)
    s.nodes id
  have hlist : (view s).nodes.modify id (fun n =>
      { n with networks := n.networks ++ [netID] }) =
      (view s).nodes.modify id fun n => n.list netID := by
    ext1 j
    by_cases hj : j = id
    · subst hj
      rw [GoMap.get_modify_self, GoMap.get_modify_self]
      cases hget : (view s).nodes.get j with
      | none => rfl
      | some n =>
        have hnot : n.networks.contains netID = false := by
          simpa using h n hget
        rw [Option.map_some, Option.map_some, NodeView.list, hnot]
        rfl
    · rw [GoMap.get_modify_ne _ _ hj, GoMap.get_modify_ne _ _ hj]
  rw [← hlist]
  unfold view appendNodeNetwork
  simp only [hmod]

theorem createNetwork_records (hv : Numbered (view s))
    (hrep : Replayable E s (.createNetwork now msg)) (h : handleCreateNetwork E now s msg = .ok o) :
    Records (view s) o.server o.wal := by
  simp only [handleCreateNetwork, bind_eq_ok, require_eq_ok, pure_eq_ok,
    parseRulesField_none hrep.1, parseExprField_none hrep.2,
    decide_eq_true_eq] at h
  obtain ⟨_, -, rules, hrules, expr, hexpr, _, -, _, -, _, hhas, _, hfree, _, -, rfl⟩ := h
  cases hrules
  cases hexpr
  let id := msg.jsonUint32 "node_id"
  let s₁ : Server := { s with nextNet := s.nextNet + 1 }
  have hcreator : id ≠ 0 := by
    obtain ⟨n, hn⟩ := (GoMap.has_eq_true _ _).mp hhas
    exact (hv.nodes id (nodeView n) (by rw [view_nodes_get, hn]; rfl)).1
  have hunused : (view s).networks.get s.nextNet = none := hv.nextNet_free hfree
  have hunlisted : ∀ n, (view (putNetwork s₁ s.nextNet
      (newNetwork msg id none none now))).nodes.get id = some n →
      s.nextNet ∉ n.networks := fun n hn => hv.nextNet_unlisted hfree hn
  refine .delta _ rfl trivial ⟨hfree, rfl⟩ ?_
  rw [view_appendNodeNetwork hunlisted, view_putNetwork]
  have hhas' : (view s).networks.has s.nextNet = false :=
    (GoMap.has_eq_false _ _).mpr hunused
  have hcounter : (if (view s).nextNet ≤ s.nextNet then s.nextNet + 1
      else (view s).nextNet) = s.nextNet + 1 := if_pos (UInt16.le_refl _)
  simp only [createDelta, View.apply, hhas', Bool.false_eq_true, if_false, View.create, hcounter]
  rw [if_neg hcreator, if_neg hcreator, if_neg hcreator]
  rfl

theorem deleteNetwork_records (hrep : Replayable E s (.deleteNetwork msg))
    (h : handleDeleteNetwork E s msg = .ok o) :
    Records (view s) o.server o.wal := by
  obtain ⟨net, -, hnet, hserver, hwal⟩ := handleDeleteNetwork_ok h
  let netID := msg.jsonUint16 "network_id"
  have hinvites : pruneInbox (fun inv => inv.networkID ≠ netID)
      (forgetNetwork s net.members netID).inviteInbox =
      (forgetNetwork s net.members netID).inviteInbox := by
    refine pruneInbox_eq fun j invites hget => ?_
    rw [forgetNetwork_nodes] at hget
    obtain ⟨hne, hspared⟩ := hrep j invites hget
    exact ⟨hne, fun inv hinv => decide_eq_true (hspared inv hinv)⟩
  refine .delta (.networkDelete netID) hwal trivial trivial ?_
  rw [hserver, ← view_applyNetworkDeleteDelta]
  simp only [applyNetworkDeleteDelta, netID, hnet]
  rw [hinvites]

/-! ### Memberships -/

/-- A kept role of a plain member is the role of any other that joins. -/
theorem joinRole_keepsMember (hkeeps : KeepsMember E s netID id) :
    joinRole E s netID id = .member := by
  unfold joinRole
  cases hrole : preAssignedRole E s netID id with
  | none => rfl
  | some role => exact hkeeps role hrole

theorem joinNetwork_records (hrep : Replayable E s (.joinNetwork msg))
    (h : handleJoinNetwork E s msg = .ok o) :
    Records (view s) o.server o.wal := by
  obtain ⟨node, net, -, hnode, hnet, hnew, hserver, hwal⟩ := handleJoinNetwork_ok h
  let id := msg.jsonUint32 "node_id"
  let netID := msg.jsonUint16 "network_id"
  have hunlisted : ∀ n, (view (putNetwork s netID (addMember net id))).nodes.get id =
      some n → netID ∉ n.networks := by
    intro n hn
    have hget : (view s).nodes.get id = some n := hn
    rw [view_nodes_get, hnode] at hget
    cases hget
    simpa [nodeView] using hnew
  have habsent : net.members.contains id = false := by
    simpa using hrep.2 net hnet
  refine .delta (.networkJoin id netID) hwal trivial trivial ?_
  rw [hserver, joinRole_keepsMember hrep.1, joinedAs_member,
    view_appendNodeNetwork hunlisted, ← view_applyNetworkJoinDelta]
  simp only [applyNetworkJoinDelta, id, netID, hnet, hnode]
  rw [view_listNetwork, habsent]
  rfl

theorem leaveNetwork_records (hrep : Replayable E s (.leaveNetwork msg))
    (h : handleLeaveNetwork E s msg = .ok o) :
    Records (view s) o.server o.wal := by
  obtain ⟨node, net, -, hnode, hnet, -, -, hserver, hwal⟩ := handleLeaveNetwork_ok h
  let id := msg.jsonUint32 "node_id"
  let netID := msg.jsonUint16 "network_id"
  refine .delta (.networkLeave id netID) hwal trivial trivial ?_
  have hinvites : dropMemberInvites (putNetwork (removeNodeNetwork s id netID)
      netID (dropMember net id)) id netID =
      putNetwork (removeNodeNetwork s id netID) netID (dropMember net id) :=
    dropMemberInvites_eq hrep
  rw [hserver, ← view_applyNetworkLeaveDelta]
  simp only [applyNetworkLeaveDelta, id, netID, hnet, hnode]
  rw [hinvites]
  rfl

/-! ### Keys -/

theorem commitKey_records {d : KeyRotationDelta} {n' : NodeInfo} (hv : Numbered (view s))
    (hnode : s.nodes.get d.nodeID = some n) (hne : d.newPublicKey ≠ "")
    (hdec : E.decodePublicKey d.newPublicKey = some key)
    (hn' : nodeView n' = { nodeView n with publicKey := key }) :
    Records (view s) (commitKey s d.nodeID n n' d.newPublicKey)
      [.keyRotation d] := by
  have hget : (view s).nodes.get d.nodeID = some (nodeView n) := by
    rw [view_nodes_get, hnode]
    rfl
  have hdecode : Base64.decode d.newPublicKey = some key :=
    E.decodePublicKey_decode hdec
  have hid : d.nodeID ≠ 0 := (hv.nodes d.nodeID _ hget).1
  refine .delta _ rfl ⟨hid, hne, by simp [hdecode]⟩ trivial ?_
  rw [view_commitKey, hn']
  simp only [View.apply, hget, hdecode, Option.getD_some]
  rfl

end Rendezvous.Recovery

import Rendezvous.Base.Run
import Rendezvous.Identity.Allocation
import Rendezvous.Roster.Sync

/-!
# Commands as moves of the roll

The commands that change memberships, roles and tags, and the ones that
register and remove nodes. `step_moves` says once what each of them does:
the moves it makes on the roll, and what it found in the state before.
Every invariant of the roll is derived from it.
-/

namespace Rendezvous.Roster

open Base Registry Rendezvous.Membership Directory Admin

/-! ## The commands -/

/-- A command, with what its handler reads besides the state. `order` is
the order a handler meets the entries of a map in. -/
inductive Op where
  | register (now : Time) (order : List NetId) (remoteAddr : String) (msg : Msg)
  | reap (threshold : Time) (chunk : List NodeId)
  | deregister (msg : Msg)
  | createNetwork (now : Time) (msg : Msg)
  | deleteNetwork (msg : Msg)
  | joinNetwork (msg : Msg)
  | leaveNetwork (msg : Msg)
  | kickMember (msg : Msg)
  | adminKick (netID : NetId) (nodeID : NodeId)
  | inviteToNetwork (now : Time) (msg : Msg)
  | respondInvite (now : Time) (msg : Msg)
  | setMemberTags (msg : Msg)
  | promoteMember (msg : Msg)
  | demoteMember (msg : Msg)
  | transferOwnership (order : List NodeId) (msg : Msg)
  | adminSetRole (netID : NetId) (nodeID : NodeId) (role : String)
  | setEnterprise (msg : Msg)
  | setExternalID (msg : Msg)
  | directorySync (msg : Msg)
  | provision (now : Time) (order : List NetId) (msg : Msg)

variable {op : Op} {s' : Server} {id : NodeId} {now : Time} {order : List NetId} {msg : Msg}
  {o : Outcome} {netID : NetId} {net : NetworkInfo}

/-- The state and the deltas after a handler; a refused request leaves the
state as it was. -/
def answered (s : Server) : Except String Outcome → Server × List Delta
  | .ok o => (o.server, o.wal)
  | .error _ => (s, [])

/-- A request that changes something was answered. -/
theorem ok_of_answered {s : Server} {r : Except String Outcome} (h : (answered s r).1 ≠ s) :
    ∃ o, r = .ok o ∧ (answered s r).1 = o.server := by
  cases r with
  | error e => exact absurd rfl h
  | ok o => exact ⟨o, rfl, rfl⟩

/-- The same for a handler that answers the state alone. -/
def changed (s : Server) : Except String Server → Server × List Delta
  | .ok s' => (s', [])
  | .error _ => (s, [])

/-- One command: the state it leaves and the deltas it records. An order
that is not one of the networks' makes no command. -/
def handle (E : AdminEnv) (s : Server) : Op → Server × List Delta
  | .register now order remoteAddr msg =>
    if s.networks.Enumerates order then
      answered s (handleRegister E.toEnv now order remoteAddr s msg)
    else (s, [])
  | .reap threshold chunk => (reapStaleNodes threshold chunk s, [])
  | .deregister msg => answered s (handleDeregister E.toEnv s msg)
  | .createNetwork now msg => answered s (handleCreateNetwork E.toEnv now s msg)
  | .deleteNetwork msg => answered s (handleDeleteNetwork E.toEnv s msg)
  | .joinNetwork msg => answered s (handleJoinNetwork E.toEnv s msg)
  | .leaveNetwork msg => answered s (handleLeaveNetwork E.toEnv s msg)
  | .kickMember msg => answered s (handleKickMember E.toEnv s msg)
  | .adminKick netID nodeID => changed s (adminKickMember s netID nodeID)
  | .inviteToNetwork now msg =>
    answered s (handleInviteToNetwork E.toEnv now s msg)
  | .respondInvite now msg => answered s (handleRespondInvite E.toEnv now s msg)
  | .setMemberTags msg => answered s (handleSetMemberTags E.toEnv s msg)
  | .promoteMember msg => answered s (handlePromoteMember E.toEnv s msg)
  | .demoteMember msg => answered s (handleDemoteMember E.toEnv s msg)
  | .transferOwnership order msg =>
    answered s (handleTransferOwnership E.toEnv order s msg)
  | .adminSetRole netID nodeID role =>
    changed s (adminSetMemberRole E s netID nodeID role)
  | .setEnterprise msg => answered s (handleSetNetworkEnterprise E.toEnv s msg)
  | .setExternalID msg => answered s (handleSetExternalID E s msg)
  | .directorySync msg => ((handleDirectorySync E s msg).1, [])
  | .provision now order msg =>
    if s.networks.Enumerates order then
      answered s (handleProvisionNetwork E now order s msg)
    else (s, [])

/-- The state after a command. -/
def step (E : AdminEnv) (s : Server) (op : Op) : Server := (handle E s op).1

/-! ## What each command does -/

/-- The id a registration gives a record to, and the networks the record
lists: those that still list the node for a known key, the backbone alone
for any other. -/
inductive Arrives (s : Server) (order : List NetId) (msg : Msg) : NodeId → List NetId → Prop where
  | byKey (id : NodeId)
      (hidx : s.pubKeyIdx.get (msg.str "public_key") = some id)
      (hgone : s.nodes.get id = none) :
      Arrives s order msg id (0 :: scanNetworkMemberships order s id)
  | byOwner (id : NodeId)
      (hidx : s.pubKeyIdx.get (msg.str "public_key") = none)
      (hne : msg.str "owner" ≠ "")
      (hown : s.ownerIdx.get (msg.str "owner") = some id)
      (hgone : s.nodes.get id = none) :
      Arrives s order msg id [0]
  | new (hidx : s.pubKeyIdx.get (msg.str "public_key") = none)
      (hown : msg.str "owner" ≠ "" → s.ownerIdx.get (msg.str "owner") = none)
      (hfree : s.nextNode ≠ 0) : Arrives s order msg s.nextNode [0]

/-- The node has not been seen since the threshold. -/
def Stale (s : Server) (threshold : Time) (id : NodeId) : Prop :=
  ∃ n, s.nodes.get id = some n ∧ n.getLastSeen < threshold

/-- The moves a command makes, and what it found. -/
inductive Moved (E : AdminEnv) (s : Server) : Op → List Move → Prop where
  | none (op : Op) : Moved E s op []
  | registered (now : Time) (order : List NetId) (remoteAddr : String)
      (msg : Msg) (id : NodeId) (nets : List NetId)
      (horder : s.networks.Enumerates order)
      (harrives : Arrives s order msg id nets) :
      Moved E s (.register now order remoteAddr msg) [.arrive id nets]
  | reaped (threshold : Time) (chunk ids : List NodeId)
      (hids : ∀ id ∈ ids, id ∈ chunk ∧ Stale s threshold id) :
      Moved E s (.reap threshold chunk) (ids.map .vanish)
  | deregistered (msg : Msg) (n : NodeInfo)
      (hnode : s.nodes.get (msg.jsonUint32 "node_id") = some n) :
      Moved E s (.deregister msg) [.depart (msg.jsonUint32 "node_id")]
  | created (now : Time) (msg : Msg) (rules : Option NetworkRules)
      (exprPolicy : Option String) (n : NodeInfo)
      (hnode : s.nodes.get (msg.jsonUint32 "node_id") = some n)
      (hfree : s.nextNet ≠ 0) :
      Moved E s (.createNetwork now msg) [.found s.nextNet
        (newNetwork msg (msg.jsonUint32 "node_id") rules exprPolicy now)
        (msg.jsonUint32 "node_id")]
  | deleted (msg : Msg) (hzero : msg.jsonUint16 "network_id" ≠ 0) :
      Moved E s (.deleteNetwork msg) [.remove (msg.jsonUint16 "network_id")]
  | joined (msg : Msg) (node : NodeInfo) (net : NetworkInfo)
      (hzero : msg.jsonUint16 "network_id" ≠ 0)
      (hnode : s.nodes.get (msg.jsonUint32 "node_id") = some node)
      (hnet : s.networks.get (msg.jsonUint16 "network_id") = some net)
      (hnew : msg.jsonUint16 "network_id" ∉ node.networks) :
      Moved E s (.joinNetwork msg) [.join (msg.jsonUint32 "node_id")
        (msg.jsonUint16 "network_id") (joinRole E.toEnv s
          (msg.jsonUint16 "network_id") (msg.jsonUint32 "node_id"))]
  | left (msg : Msg) (net : NetworkInfo)
      (hzero : msg.jsonUint16 "network_id" ≠ 0)
      (hnet : s.networks.get (msg.jsonUint16 "network_id") = some net)
      (howner : net.enterprise = true → net.role (msg.jsonUint32 "node_id") ≠ some .owner) :
      Moved E s (.leaveNetwork msg) [.drop (msg.jsonUint32 "node_id")
        (msg.jsonUint16 "network_id")]
  | kicked (msg : Msg) (net : NetworkInfo)
      (hzero : msg.jsonUint16 "network_id" ≠ 0)
      (hnet : s.networks.get (msg.jsonUint16 "network_id") = some net)
      (howner : net.role (msg.jsonUint32 "target_node_id") ≠ some .owner) :
      Moved E s (.kickMember msg) [.drop (msg.jsonUint32 "target_node_id")
        (msg.jsonUint16 "network_id")]
  | adminKicked (netID : NetId) (id : NodeId) (net : NetworkInfo)
      (hnet : s.networks.get netID = some net)
      (howner : net.role id ≠ some .owner) :
      Moved E s (.adminKick netID id) [.expel id netID]
  | accepted (now : Time) (msg : Msg) (node : NodeInfo) (net : NetworkInfo)
      (haccept : msg.bool "accept" = true)
      (hnode : s.nodes.get (msg.jsonUint32 "node_id") = some node)
      (hnet : s.networks.get (msg.jsonUint16 "network_id") = some net)
      (hent : net.enterprise = true)
      (hnew : msg.jsonUint16 "network_id" ∉ node.networks) :
      Moved E s (.respondInvite now msg) [.join (msg.jsonUint32 "node_id")
        (msg.jsonUint16 "network_id") .member]
  | tagged (msg : Msg) (net : NetworkInfo)
      (hnet : s.networks.get (msg.jsonUint16 "network_id") = some net)
      (hmember : msg.jsonUint32 "target_node_id" ∈ net.members) :
      Moved E s (.setMemberTags msg) [.tag (msg.jsonUint32 "target_node_id")
        (msg.jsonUint16 "network_id") (msg.strings "tags")]
  | promoted (msg : Msg) (net : NetworkInfo) (current : Role)
      (hnet : s.networks.get (msg.jsonUint16 "network_id") = some net)
      (hrole : net.role (msg.jsonUint32 "target_node_id") = some current)
      (howner : current ≠ .owner) :
      Moved E s (.promoteMember msg) [.assign (msg.jsonUint32 "target_node_id")
        (msg.jsonUint16 "network_id") .admin]
  | demoted (msg : Msg) (net : NetworkInfo) (current : Role)
      (hnet : s.networks.get (msg.jsonUint16 "network_id") = some net)
      (hrole : net.role (msg.jsonUint32 "target_node_id") = some current)
      (howner : current ≠ .owner) :
      Moved E s (.demoteMember msg) [.assign (msg.jsonUint32 "target_node_id")
        (msg.jsonUint16 "network_id") .member]
  | transferred (order : List NodeId) (msg : Msg) (net : NetworkInfo)
      (currentOwner : NodeId) (role : Role)
      (hnet : s.networks.get (msg.jsonUint16 "network_id") = some net)
      (hcurrent : net.role currentOwner = some .owner)
      (hne : msg.jsonUint32 "new_owner_id" ≠ currentOwner)
      (hrole : net.role (msg.jsonUint32 "new_owner_id") = some role) :
      Moved E s (.transferOwnership order msg)
        [.assign currentOwner (msg.jsonUint16 "network_id") .admin,
          .assign (msg.jsonUint32 "new_owner_id")
            (msg.jsonUint16 "network_id") .owner]
  | roleSet (netID : NetId) (id : NodeId) (text : String) (net : NetworkInfo)
      (role : Role) (hnet : s.networks.get netID = some net)
      (howner : net.role id ≠ some .owner) (hmember : id ∈ net.members)
      (hrole : role ≠ .owner) :
      Moved E s (.adminSetRole netID id text) [.assign id netID role]
  | enterpriseSet (msg : Msg) (net : NetworkInfo)
      (hnet : s.networks.get (msg.jsonUint16 "network_id") = some net) :
      Moved E s (.setEnterprise msg) [.flag (msg.jsonUint16 "network_id")
        (msg.bool "enterprise")]
  | synced (msg : Msg) (net : NetworkInfo) (done : List Move)
      (hzero : msg.jsonUint16 "network_id" ≠ 0)
      (hnet : s.networks.get (msg.jsonUint16 "network_id") = some net)
      (hent : net.enterprise = true)
      (hdone : done <+: syncMoves E (msg.jsonUint16 "network_id") s net
        (parseDirectoryEntries ((msg.arr? "entries").getD []))
        (msg.bool "remove_unlisted"))
      (hall : done = syncMoves E (msg.jsonUint16 "network_id") s net
          (parseDirectoryEntries ((msg.arr? "entries").getD []))
          (msg.bool "remove_unlisted") ∨
        net.memberRoles = Option.none ∧
          ∀ m ∈ done, ∃ id, m = .drop id (msg.jsonUint16 "network_id")) :
      Moved E s (.directorySync msg) done
  | provisionedOld (now : Time) (order : List NetId) (msg : Msg)
      (bp : NetworkBlueprint) (netID : NetId) (net : NetworkInfo)
      (hbp : ∃ fields, msg.obj? "blueprint" = some fields ∧ E.parseBlueprint fields = .ok bp)
      (hnet : s.networks.get netID = some net) (hname : net.name = bp.name) :
      Moved E s (.provision now order msg) [.equip netID bp]
  | provisionedNew (now : Time) (order : List NetId) (msg : Msg)
      (bp : NetworkBlueprint)
      (hbp : ∃ fields, msg.obj? "blueprint" = some fields ∧ E.parseBlueprint fields = .ok bp)
      (hnew : ∀ netID net, s.networks.get netID = some net → net.name ≠ bp.name) :
      Moved E s (.provision now order msg)
        [.place s.nextNet (blueprintNetwork bp now), .equip s.nextNet bp]

/-! ## Every command is one of these -/

variable {E : AdminEnv} {s : Server}

/-- The command did one of the things `Moved` lists. -/
def Does (E : AdminEnv) (s : Server) (op : Op) (s' : Server) : Prop :=
  ∃ ms, Moved E s op ms ∧ roll s' = Move.applyAll (roll s) ms

theorem Does.none (h : roll s' = roll s) : Does E s op s' := ⟨[], .none op, h⟩

theorem does_answered {r : Except String Outcome} (h : ∀ o, r = .ok o → Does E s op o.server) :
    Does E s op (answered s r).1 := by
  cases r with
  | error e => exact .none rfl
  | ok o => exact h o rfl

private theorem does_changed {r : Except String Server} (h : ∀ s', r = .ok s' → Does E s op s') :
    Does E s op (changed s r).1 := by
  cases r with
  | error e => exact .none rfl
  | ok s' => exact h s' rfl

theorem roll_refreshKnown (E : Env) (now : Time) (s : Server) (req : RegisterReq) {n : NodeInfo}
    (hnode : s.nodes.get id = some n) :
    roll (refreshKnown E now s req id n).server = roll s := by
  obtain ⟨hostname, node, t, hs, ht, -, hnets, -⟩ := refreshKnown_form E now s req id n
  -- The record changes, and its list does not.
  have hsame : (roll s).lists.set id n.networks = (roll s).lists :=
    GoMap.set_get_self _ (by rw [roll_lists_get, hnode]; rfl)
  rw [hs, roll_setNodeHostname, ht]
  unfold roll
  rw [GoMap.mapVals_set, hnets]
  exact congrArg (fun lists => Roll.mk lists s.networks) hsame

private theorem register_does {remoteAddr : String} (horder : s.networks.Enumerates order)
    (h : handleRegister E.toEnv now order remoteAddr s msg = .ok o) :
    Does E s (.register now order remoteAddr msg) o.server := by
  have harrive : ∀ (s₁ : Server) (id : NodeId) (n : NodeInfo) (hostname : String),
      roll s₁ = roll s → Arrives s order msg id n.networks →
      Does E s (.register now order remoteAddr msg)
        (fileNode s₁ id n hostname).1 := by
    intro s₁ id n hostname hroll harrives
    refine ⟨_, .registered now order remoteAddr msg id n.networks horder harrives, ?_⟩
    rw [roll_fileNode, hroll]
    rfl
  obtain ⟨req, key, o', htext, -, howner, -, hbranch, -, htop⟩ := handleRegister_branch h
  suffices hdoes : Does E s (.register now order remoteAddr msg) o'.server by
    unfold Does
    rw [htop.same roll roll_setExternalID]
    exact hdoes
  generalize respNode o.resp = id at hbranch
  cases hbranch with
  | known _ n hidx hnode => exact .none (roll_refreshKnown E.toEnv now s req hnode)
  | byKey _ hidx hgone =>
    rw [← htext] at hidx
    exact harrive _ id _ _ (roll_indexOwner s req.owner id)
      (.byKey id hidx hgone)
  | byOwner _ hidx hne hown hgone =>
    rw [← htext] at hidx
    rw [← howner] at hne hown
    exact harrive _ id _ _ rfl (.byOwner id hidx hne hown hgone)
  | new _ hidx hown hfree hnew =>
    rw [← htext] at hidx
    rw [← howner] at hown
    rw [registerNew_server hnew]
    exact harrive _ s.nextNode _ _ (roll_indexOwner _ _ _)
      (.new hidx hown hfree)

theorem reapNode_moves (threshold : Time) (s : Server) (id : NodeId) : reapNode threshold s id = s ∨
      Stale s threshold id ∧ (reapNode threshold s id).nodes = s.nodes.del id ∧
        roll (reapNode threshold s id) = (Move.vanish id).apply (roll s) := by
  unfold reapNode
  cases hnode : s.nodes.get id with
  | none => exact Or.inl rfl
  | some n =>
    simp only
    split
    · next hold =>
      refine Or.inr ⟨⟨n, hnode, hold⟩, ?_, ?_⟩
      · unfold dropNode dropHostname
        split <;> rfl
      · rw [roll_dropNode, roll_dropHostname]
        rfl
    · exact Or.inl rfl

private theorem reapStaleNodes_moves (threshold : Time) (chunk : List NodeId)
    (s : Server) :
    ∃ ids : List NodeId, (∀ id ∈ ids, id ∈ chunk ∧ Stale s threshold id) ∧
      roll (reapStaleNodes threshold chunk s) = Move.applyAll (roll s) (ids.map .vanish) := by
  unfold reapStaleNodes
  induction chunk generalizing s with
  | nil => exact ⟨[], (fun id hid => by cases hid), rfl⟩
  | cons a chunk ih =>
    obtain ⟨ids, hids, hroll⟩ := ih (reapNode threshold s a)
    rw [List.foldl_cons, hroll]
    rcases reapNode_moves threshold s a with hsame | ⟨hstale, hnodes, hmove⟩
    · rw [hsame] at hids ⊢
      exact ⟨ids, fun id hid => ⟨by simp [(hids id hid).1], (hids id hid).2⟩, rfl⟩
    · refine ⟨a :: ids, fun id hid => ?_, by rw [hmove]; rfl⟩
      rcases List.mem_cons.mp hid with rfl | hid
      · exact ⟨by simp, hstale⟩
      · obtain ⟨hmem, n, hnode, hold⟩ := hids id hid
        rw [hnodes, GoMap.get_del] at hnode
        split at hnode
        · cases hnode
        · exact ⟨by simp [hmem], n, hnode, hold⟩

private theorem deregister_does (h : handleDeregister E.toEnv s msg = .ok o) :
    Does E s (.deregister msg) o.server := by
  rcases deregister_cases h with ⟨hserver, -⟩ | ⟨n, hnode, hserver, -⟩
  · exact .none (by rw [hserver])
  · exact ⟨_, .deregistered msg n hnode, by rw [hserver]; exact roll_departNode s hnode⟩

/-! ### Networks and members -/

private theorem createNetwork_does (h : handleCreateNetwork E.toEnv now s msg = .ok o) :
    Does E s (.createNetwork now msg) o.server := by
  obtain ⟨rules, expr, n, hnode, hfree, hserver, -⟩ := handleCreateNetwork_ok h
  refine ⟨_, .created now msg rules expr n hnode hfree, ?_⟩
  rw [hserver, roll_appendNodeNetwork, roll_putNetwork]
  rfl

private theorem deleteNetwork_does (h : handleDeleteNetwork E.toEnv s msg = .ok o) :
    Does E s (.deleteNetwork msg) o.server := by
  obtain ⟨net, hzero, hnet, hserver, -⟩ := handleDeleteNetwork_ok h
  refine ⟨_, .deleted msg hzero, ?_⟩
  let forgotten := forgetNetwork s net.members (msg.jsonUint16 "network_id")
  have hroll : roll o.server = { roll forgotten with
      networks := (roll forgotten).networks.del (msg.jsonUint16 "network_id") } := by
    rw [hserver]
    rfl
  have hnet' : (roll s).networks.get (msg.jsonUint16 "network_id") = some net := hnet
  rw [hroll, roll_forgetNetwork]
  simp only [Move.applyAll_cons, Move.applyAll_nil, Move.apply, hnet',
    Option.map_some, Option.getD_some]

/-- Putting back an updated record updates it. -/
theorem roll_update (hnet : s.networks.get netID = some net) (f : NetworkInfo → NetworkInfo) :
    roll (putNetwork s netID (f net)) =
      { roll s with networks := (roll s).networks.modify netID f } := by
  rw [roll_putNetwork, GoMap.set_eq_modify (m := (roll s).networks) hnet f]

private theorem roll_join (hnet : s.networks.get netID = some net) (role : Role) :
    roll (appendNodeNetwork (putNetwork s netID (joinedAs net id role)) id netID) =
      Move.applyAll (roll s) [.join id netID role] := by
  rw [roll_appendNodeNetwork, roll_update hnet fun net => joinedAs net id role]
  rfl

private theorem joinNetwork_does (h : handleJoinNetwork E.toEnv s msg = .ok o) :
    Does E s (.joinNetwork msg) o.server := by
  obtain ⟨node, net, hzero, hnode, hnet, hnew, hserver, -⟩ := handleJoinNetwork_ok h
  exact ⟨_, .joined msg node net hzero hnode hnet hnew, by
    rw [hserver, roll_join hnet]⟩

private theorem respondInvite_does (h : handleRespondInvite E.toEnv now s msg = .ok o) :
    Does E s (.respondInvite now msg) o.server := by
  obtain ⟨-, s', inbox, hserver, hcase⟩ := handleRespondInvite_ok h
  have hroll : roll o.server = roll s' := by
    rw [hserver]
    rfl
  rcases hcase with ⟨-, rfl⟩ | ⟨haccept, node, net, hnode, hnet, hent, hnew, hs'⟩
  · exact .none hroll
  · refine ⟨_, .accepted now msg node net haccept hnode hnet hent hnew, ?_⟩
    rw [hroll, hs', ← joinedAs_member, roll_join hnet]

theorem roll_drop (hnet : s.networks.get netID = some net) :
    roll (removeNodeNetwork (putNetwork s netID (dropMember net id)) id netID) =
      Move.applyAll (roll s) [.drop id netID] := by
  rw [roll_removeNodeNetwork, roll_update hnet fun net => dropMember net id]
  rfl

private theorem leaveNetwork_does (h : handleLeaveNetwork E.toEnv s msg = .ok o) :
    Does E s (.leaveNetwork msg) o.server := by
  obtain ⟨node, net, hzero, -, hnet, -, howner, hserver, -⟩ := handleLeaveNetwork_ok h
  refine ⟨_, .left msg net hzero hnet howner, ?_⟩
  rw [hserver, ← roll_drop hnet]
  rfl

private theorem kickMember_does (h : handleKickMember E.toEnv s msg = .ok o) :
    Does E s (.kickMember msg) o.server := by
  obtain ⟨net, hzero, hnet, -, howner, hserver, -⟩ := handleKickMember_ok h
  refine ⟨_, .kicked msg net hzero hnet howner, ?_⟩
  rw [hserver, ← roll_drop hnet]
  rfl

private theorem adminKick_does (h : adminKickMember s netID id = .ok s') :
    Does E s (.adminKick netID id) s' := by
  simp only [adminKickMember, bind_eq_ok, require_eq_ok, getNetwork_eq_ok,
    pure_eq_ok, decide_eq_true_eq] at h
  obtain ⟨net, hnet, _, howner, _, -, rfl⟩ := h
  refine ⟨_, .adminKicked netID id net hnet howner, ?_⟩
  rw [roll_modify_list (putNetwork s netID (dropMember net id))
    (fun nets => nets.filter fun t => t ≠ netID),
    roll_update hnet fun net => dropMember net id]
  rfl

/-! ### Roles, tags and flags -/

private theorem setMemberTags_does (h : handleSetMemberTags E.toEnv s msg = .ok o) :
    Does E s (.setMemberTags msg) o.server := by
  obtain ⟨net, hnet, hmember, hserver, -⟩ := handleSetMemberTags_ok h
  refine ⟨_, .tagged msg net hnet hmember, ?_⟩
  rw [hserver, roll_update hnet fun net => retagged net _ (msg.strings "tags")]
  rfl

private theorem roll_assign (hnet : s.networks.get netID = some net) (role : Role) :
    roll (putNetwork s netID (setRole net id role)) =
      Move.applyAll (roll s) [.assign id netID role] := by
  rw [roll_update hnet fun net => setRole net id role]
  rfl

private theorem promoteMember_does (h : handlePromoteMember E.toEnv s msg = .ok o) :
    Does E s (.promoteMember msg) o.server := by
  obtain ⟨net, current, hnet, hrole, howner, hserver, -⟩ := changeRole_ok h
  exact ⟨_, .promoted msg net current hnet hrole howner, by
    rw [hserver, roll_assign hnet]⟩

private theorem demoteMember_does (h : handleDemoteMember E.toEnv s msg = .ok o) :
    Does E s (.demoteMember msg) o.server := by
  obtain ⟨net, current, hnet, hrole, howner, hserver, -⟩ := changeRole_ok h
  exact ⟨_, .demoted msg net current hnet hrole howner, by
    rw [hserver, roll_assign hnet]⟩

private theorem transferOwnership_does {order : List NodeId}
    (h : handleTransferOwnership E.toEnv order s msg = .ok o) :
    Does E s (.transferOwnership order msg) o.server := by
  obtain ⟨net, currentOwner, role, hnet, hcurrent, hne, hrole, hserver, -⟩ :=
    handleTransferOwnership_ok h
  refine ⟨_, .transferred order msg net currentOwner role hnet hcurrent hne hrole, ?_⟩
  rw [hserver, roll_update hnet fun net => setRole (setRole net currentOwner .admin)
    (msg.jsonUint32 "new_owner_id") .owner]
  simp only [Move.applyAll_cons, Move.applyAll_nil, Move.apply]
  congr 1
  ext1 j
  by_cases hj : j = msg.jsonUint16 "network_id"
  · subst hj
    simp only [GoMap.get_modify_self, Option.map_map]
    rfl
  · simp only [GoMap.get_modify_ne _ _ hj]

private theorem assignableRole_ne_owner {text : String} {role : Role}
    (h : assignableRole text = some role) : role ≠ .owner := by
  unfold assignableRole at h
  split at h
  · cases h
    decide
  · split at h
    · cases h
      decide
    · cases h

theorem adminSetRole_does {text : String} (h : adminSetMemberRole E s netID id text = .ok s') :
    Does E s (.adminSetRole netID id text) s' := by
  simp only [adminSetMemberRole, bind_eq_ok, require_eq_ok, orFail_eq_ok,
    getNetwork_eq_ok, pure_eq_ok, decide_eq_true_eq] at h
  obtain ⟨role, hrole, net, hnet, _, howner, _, hmember, rfl⟩ := h
  exact ⟨_, .roleSet netID id text net role hnet howner (by simpa using hmember)
    (assignableRole_ne_owner hrole), roll_assign hnet role⟩

private theorem setEnterprise_does (h : handleSetNetworkEnterprise E.toEnv s msg = .ok o) :
    Does E s (.setEnterprise msg) o.server := by
  obtain ⟨net, -, hnet, hserver, -⟩ := handleSetNetworkEnterprise_ok h
  refine ⟨_, .enterpriseSet msg net hnet, ?_⟩
  rw [hserver, roll_update hnet fun net => flagged net (msg.bool "enterprise")]
  rfl

private theorem setExternalID_does (h : handleSetExternalID E s msg = .ok o) :
    Does E s (.setExternalID msg) o.server := by
  simp only [handleSetExternalID, bind_eq_ok, pure_eq_ok] at h
  obtain ⟨_, -, _, -, rfl⟩ := h
  exact .none (roll_setExternalID s _ _)

/-! ### Synchronisation and provisioning -/

private theorem directorySync_does (E : AdminEnv) (s : Server) (msg : Msg) :
    Does E s (.directorySync msg) (handleDirectorySync E s msg).1 := by
  unfold handleDirectorySync
  simp only
  split
  · exact .none rfl
  · next hchecks =>
    have hzero : msg.jsonUint16 "network_id" ≠ 0 := by
      simp only [bind_eq_ok, require_eq_ok, decide_eq_true_eq] at hchecks
      obtain ⟨_, -, _, hzero, -⟩ := hchecks
      exact hzero
    show Does E s _ (applyDirectorySync E s _ _ _).1
    cases hnet : s.networks.get (msg.jsonUint16 "network_id") with
    | none =>
      unfold applyDirectorySync
      rw [hnet]
      exact .none rfl
    | some net =>
      cases hent : net.enterprise with
      | false =>
        unfold applyDirectorySync
        simp only [hnet, hent]
        exact .none rfl
      | true =>
        obtain ⟨done, hdone, hall, hroll, -⟩ := applyDirectorySync_moves (E := E)
          hnet hent (parseDirectoryEntries ((msg.arr? "entries").getD []))
          (msg.bool "remove_unlisted")
        exact ⟨done, .synced msg net done hzero hnet hent hdone hall, hroll⟩

/-- A provisioning equips the network of its name, or a new one under the
next id. -/
theorem handleProvisionNetwork_ok (horder : s.networks.Enumerates order)
    (h : handleProvisionNetwork E now order s msg = .ok o) :
    ∃ fields bp s₁ netID created actions,
      msg.obj? "blueprint" = some fields ∧ E.parseBlueprint fields = .ok bp ∧
      (∃ kept, o.server = { s₁ with
        networks := s₁.networks.modify netID (applyToNetwork bp)
        rbacPreAssign := kept }) ∧
      o.resp = [("type", .str "provision_network_ok"), ("network_id", .net netID),
        ("name", .str bp.name), ("created", .bool created), ("actions", actions)] ∧
      (created = false ∧ s₁ = s ∧ (∃ net, s.networks.get netID = some net ∧ net.name = bp.name) ∨
        created = true ∧ netID = s.nextNet ∧
          (∀ t net, s.networks.get t = some net → net.name ≠ bp.name) ∧
          s₁ = { putNetwork s netID (blueprintNetwork bp now) with
            nextNet := s.nextNet + 1 }) := by
  simp only [handleProvisionNetwork, applyBlueprint, bind_eq_ok, orFail_eq_ok,
    mapError_eq_ok, pure_eq_ok] at h
  obtain ⟨_, -, fields, hfields, bp, hbp, ⟨s', netID, created, actions⟩,
    ⟨_, -, ⟨s₁, netID₁, created₁⟩, hfind, heq⟩, rfl⟩ := h
  simp only [Prod.mk.injEq] at heq
  obtain ⟨rfl, rfl, rfl, rfl⟩ := heq
  refine ⟨fields, bp, s₁, netID₁, created₁, _, hfields, hbp, ⟨_, rfl⟩, rfl, ?_⟩
  unfold findOrCreateNetwork at hfind
  split at hfind
  · next _ hfound =>
    cases hfind
    have hnamed := List.find?_some hfound
    cases hnet : s.networks.get netID₁ with
    | none => simp [hnet] at hnamed
    | some net =>
      exact Or.inl ⟨rfl, rfl, net, rfl, by simpa [hnet] using hnamed⟩
  · next hnone =>
    simp only [bind_eq_ok, pure_eq_ok, Prod.mk.injEq] at hfind
    obtain ⟨_, -, _, -, rfl, rfl, rfl⟩ := hfind
    refine Or.inr ⟨rfl, rfl, fun t net hnet hname => ?_, rfl⟩
    have hunnamed := List.find?_eq_none.mp hnone t
      ((horder.2 t).mpr (by simp [hnet]))
    simp [hnet, hname] at hunnamed

private theorem provision_does (horder : s.networks.Enumerates order)
    (h : handleProvisionNetwork E now order s msg = .ok o) :
    Does E s (.provision now order msg) o.server := by
  obtain ⟨fields, bp, s₁, netID, created, actions, hfields, hbp, ⟨kept, hserver⟩, -,
    hcase⟩ := handleProvisionNetwork_ok horder h
  have hroll : roll o.server = { roll s₁ with
      networks := (roll s₁).networks.modify netID (applyToNetwork bp) } := by
    rw [hserver]
    rfl
  rcases hcase with ⟨-, rfl, net, hnet, hname⟩ | ⟨-, rfl, hnew, rfl⟩
  · exact ⟨_, .provisionedOld now order msg bp netID net ⟨fields, hfields, hbp⟩
      hnet hname, hroll⟩
  · exact ⟨_, .provisionedNew now order msg bp ⟨fields, hfields, hbp⟩ hnew, hroll⟩

/-- What every command does to the roll. -/
theorem step_moves (E : AdminEnv) (s : Server) (op : Op) :
    ∃ ms, Moved E s op ms ∧ roll (step E s op) = Move.applyAll (roll s) ms := by
  show Does E s op (handle E s op).1
  cases op with
  | register now order remoteAddr msg =>
    simp only [handle]
    split
    · next horder => exact does_answered fun o ho => register_does horder ho
    · exact .none rfl
  | reap threshold chunk =>
    obtain ⟨ids, hids, hroll⟩ := reapStaleNodes_moves threshold chunk s
    exact ⟨_, .reaped threshold chunk ids hids, hroll⟩
  | deregister msg => exact does_answered fun o ho => deregister_does ho
  | createNetwork now msg => exact does_answered fun o ho => createNetwork_does ho
  | deleteNetwork msg => exact does_answered fun o ho => deleteNetwork_does ho
  | joinNetwork msg => exact does_answered fun o ho => joinNetwork_does ho
  | leaveNetwork msg => exact does_answered fun o ho => leaveNetwork_does ho
  | kickMember msg => exact does_answered fun o ho => kickMember_does ho
  | adminKick netID id => exact does_changed fun s' hs' => adminKick_does hs'
  | inviteToNetwork now msg =>
    refine does_answered fun o ho => ?_
    obtain ⟨⟨inbox, hserver⟩, -⟩ := handleInviteToNetwork_ok ho
    exact .none (by rw [hserver]; rfl)
  | respondInvite now msg => exact does_answered fun o ho => respondInvite_does ho
  | setMemberTags msg => exact does_answered fun o ho => setMemberTags_does ho
  | promoteMember msg => exact does_answered fun o ho => promoteMember_does ho
  | demoteMember msg => exact does_answered fun o ho => demoteMember_does ho
  | transferOwnership order msg =>
    exact does_answered fun o ho => transferOwnership_does ho
  | adminSetRole netID id text =>
    exact does_changed fun s' hs' => adminSetRole_does hs'
  | setEnterprise msg => exact does_answered fun o ho => setEnterprise_does ho
  | setExternalID msg => exact does_answered fun o ho => setExternalID_does ho
  | directorySync msg => exact directorySync_does E s msg
  | provision now order msg =>
    simp only [handle]
    split
    · next horder => exact does_answered fun o ho => provision_does horder ho
    · exact .none rfl

/-! ## What holds of every network

`P` is a property of network records. Where a step takes nodes out of
networks one after the other, `C` is the condition under which `P`
survives one removal; a removal must not disturb it for the others. -/

variable {P : NetworkInfo → Prop}

theorem all_vanish {C : NodeId → NetworkInfo → Prop}
    (hP : ∀ id net, C id net → P net → P (unattend id net))
    (hC : ∀ id j net, C j net → C j (unattend id net)) {ids : List NodeId}
    {r : Roll} (hr : r.networks.All P)
    (hids : ∀ id ∈ ids, ∀ net, r.networks.get 0 = some net → C id net) :
    (Move.applyAll r (ids.map .vanish)).networks.All P := by
  induction ids generalizing r with
  | nil => exact hr
  | cons id ids ih =>
    rw [List.map_cons, Move.applyAll_cons]
    refine ih ?_ ?_
    · exact hr.modify_at fun net hnet => hP id net (hids id (by simp) net hnet)
    · intro j hj net hnet
      obtain ⟨net₀, hnet₀, rfl⟩ := Option.map_eq_some_iff.mp
        ((GoMap.get_modify_self _ _ _).symm.trans hnet)
      exact hC id j net₀ (hids j (by simp [hj]) net₀ hnet₀)

theorem all_depart {C : NetworkInfo → Prop} (hP : ∀ net, C net → P net → P (dropMember net id))
    (hC : ∀ net, C net → C (dropMember net id)) {nets : List NetId} {m : GoMap NetId NetworkInfo}
    (hm : m.All P) (hnets : ∀ netID ∈ nets, ∀ net, m.get netID = some net → C net) :
    (nets.foldl (fun m netID => m.modify netID fun net => dropMember net id)
      m).All P := by
  induction nets generalizing m with
  | nil => exact hm
  | cons netID nets ih =>
    rw [List.foldl_cons]
    refine ih ?_ ?_
    · exact hm.modify_at fun net hnet => hP net (hnets netID (by simp) net hnet)
    · intro netID' hmem net hnet
      obtain ⟨net₀, hnet₀, rfl | ⟨-, rfl⟩⟩ := GoMap.of_get_modify hnet
      · exact hnets netID' (by simp [hmem]) _ hnet₀
      · exact hC net₀ (hnets netID' (by simp [hmem]) net₀ hnet₀)

/-- A property of the roll every command keeps under its condition, unless
the command is refused, is kept by a step. -/
theorem roll_step {P : Roll → Prop} {E : AdminEnv} {s : Server} {C : Prop}
    (hmoved : ∀ ms, Moved E s op ms → C → P (Move.applyAll (roll s) ms)) (hc : step E s op ≠ s → C)
    (hs : P (roll s)) : P (roll (step E s op)) := by
  by_cases hsame : step E s op = s
  · rw [hsame]
    exact hs
  · obtain ⟨ms, hms, hroll⟩ := step_moves E s op
    rw [hroll]
    exact hmoved ms hms (hc hsame)

/-- A condition on a network that is there, checked on its record. -/
theorem of_all [DecidablePred P] {s : Server}
    (h : ((s.networks.get netID).all fun net => decide (P net)) = true)
    (hnet : s.networks.get netID = some net) : P net := by
  rw [hnet] at h
  exact of_decide_eq_true h

end Rendezvous.Roster

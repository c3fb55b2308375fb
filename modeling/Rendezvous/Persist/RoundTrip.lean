import Rendezvous.Identity.Allocation
import Rendezvous.Persist.LoadSpec

/-!
# Which states survive a restart

Two states agree when they have the same records, indices, networks, trust
store, invites and pre-assigned roles, with times to the second. A state
agrees with what `load` makes of its file, in whatever order the loader
meets the nodes, exactly when it is `Restorable`: what the file leaves out
must be what the loader puts in its place.
-/

namespace Rendezvous.Persist

open Base Registry Rendezvous.Membership Directory Identity

/-! ## Records with times to the second -/

/-- A node's record with its times to the second. The last contact is the
one `GetLastSeen` answers. -/
def toSecond (n : NodeInfo) : NodeInfo :=
  { n with
    lastSeen := rfc3339 n.getLastSeen
    lastSeenNano := rfc3339 n.getLastSeen
    keyMeta := {
      createdAt := rfc3339 n.keyMeta.createdAt
      rotatedAt := rfc3339 n.keyMeta.rotatedAt
      rotateCount := n.keyMeta.rotateCount
      expiresAt := rfc3339 n.keyMeta.expiresAt }
    verifiedAt := rfc3339 n.verifiedAt
    recoveryConsumedExp := rfc3339 n.recoveryConsumedExp }

/-- A policy document up to the whitespace between its tokens. An empty
text is no document. -/
def document (doc : Option String) : Option String :=
  (doc.map compactJSON).filter fun text => text ≠ ""

@[simp] theorem document_none : document none = none := rfl

/-- A network with its time to the second. A nil role map is an empty
one. -/
def netToSecond (net : NetworkInfo) : NetworkInfo :=
  { net with
    memberRoles := some (net.memberRoles.getD ∅)
    exprPolicy := document net.exprPolicy
    created := rfc3339 net.created }

@[simp] theorem savedTime_getD (t : Time) : (savedTime t).getD zeroTime = rfc3339 t := by
  unfold savedTime
  split
  · next h => rw [h, rfc3339_zeroTime]; rfl
  · rfl

theorem getLastSeen_restored (n : NodeInfo) : (restored n).getLastSeen = rfc3339 n.getLastSeen := by
  unfold NodeInfo.getLastSeen
  exact ite_self _

/-- A restart loses the signature latch of a record, and nothing else. -/
theorem toSecond_restored (n : NodeInfo) :
    toSecond (restored n) = { toSecond n with sigVerified := false } := by
  unfold toSecond
  rw [getLastSeen_restored]
  simp [restored, loadedNode, saveNode, rfc3339_idem]

/-! ### Policy documents -/

/-- Outside a string there is nothing to escape. -/
theorem compactChars_unescaped (escaped : Bool) (cs : List Char) :
    compactChars false escaped cs = compactChars false false cs := by
  cases cs <;> rfl

/-- Whitespace that is gone stays gone: the scanner goes through the same
states on what it kept. -/
theorem compactChars_idem (inString escaped : Bool) (cs : List Char) :
    compactChars inString escaped (compactChars inString escaped cs) =
      compactChars inString escaped cs := by
  induction cs generalizing inString escaped with
  | nil => rfl
  | cons c cs ih =>
    cases inString with
    | true => simp only [compactChars, if_true, ih]
    | false =>
      simp only [compactChars_unescaped escaped]
      cases hspace : isJsonSpace c with
      | true => simp only [compactChars, hspace, if_true, Bool.false_eq_true, if_false, ih]
      | false => simp only [compactChars, hspace, Bool.false_eq_true, if_false, ih]

theorem compactJSON_idem (doc : String) : compactJSON (compactJSON doc) = compactJSON doc := by
  unfold compactJSON
  rw [String.toList_ofList, compactChars_idem]

/-- What the file has of a document is the document. -/
theorem document_savedDocument (doc : Option String) :
    document (savedDocument doc) = document doc := by
  cases doc with
  | none => rfl
  | some text =>
    by_cases hempty : text = ""
    · subst hempty
      rfl
    · have hsaved : savedDocument (some text) = some (compactJSON text) := by
        simp [savedDocument, hempty]
      unfold document
      rw [hsaved, Option.map_some, Option.map_some, compactJSON_idem]

/-! ### Networks -/

theorem savedPolicy_getD (p : NetworkPolicy) : (savedPolicy p).getD {} = p := by
  unfold savedPolicy
  split
  · rfl
  · next h =>
    obtain ⟨maxMembers, allowedPorts, description⟩ := p
    simp only [not_or, not_not] at h
    obtain ⟨rfl, rfl, rfl⟩ := h
    rfl

/-- A restart may change the roles of a network, and nothing else. -/
theorem netToSecond_loadedNet (netID : NetId) (net : NetworkInfo) :
    netToSecond (loadedNet netID (saveNet net)) = { netToSecond net with
        memberRoles := some (loadedRoles netID (saveNet net)) } := by
  unfold netToSecond
  simp [loadedNet, saveNet, savedPolicy_getD, document_savedDocument, rfc3339_idem]

/-- Later plain members take no one's role away. -/
private theorem get_backfill_ne_none (ms : List NodeId) {m : NodeId}
    {roles : GoMap NodeId Role} (h : roles.get m ≠ none) :
    (ms.foldl (fun roles x => roles.set x .member) roles).get m ≠ none := by
  induction ms generalizing roles with
  | nil => exact h
  | cons x ms ih =>
    apply ih
    rw [GoMap.get_set]
    split
    · simp
    · exact h

theorem backfilledRoles_eq_empty (members : List NodeId) :
    backfilledRoles members = ∅ ↔ members = [] := by
  constructor
  · intro h
    cases members with
    | nil => rfl
    | cons m ms =>
      have hrole : (backfilledRoles (m :: ms)).get m ≠ none :=
        get_backfill_ne_none ms (by simp)
      rw [h] at hrole
      exact absurd (GoMap.get_empty m) hrole
  · rintro rfl
    rfl

/-- The roles come back, unless there are none and the loader makes some
up. -/
theorem loadedRoles_eq (netID : NetId) (net : NetworkInfo) :
    loadedRoles netID (saveNet net) = net.memberRoles.getD ∅ ↔
      (netID ≠ 0 → net.memberRoles.getD ∅ = ∅ → net.members = []) := by
  unfold loadedRoles
  by_cases hnone : (saveNet net).memberRoles = ∅ ∧ netID ≠ 0
  · have hroles : net.memberRoles.getD ∅ = ∅ := hnone.1
    rw [if_pos hnone, hroles]
    constructor
    · intro h _ _
      exact (backfilledRoles_eq_empty _).mp h
    · intro h
      exact (backfilledRoles_eq_empty _).mpr (h hnone.2 rfl)
  · rw [if_neg hnone]
    exact ⟨fun _ hid hroles => absurd ⟨hroles, hid⟩ hnone, fun _ => rfl⟩

/-! ## Agreement -/

/-- A handshake from `peer` waits for an answer of `id`. -/
def Pending (t : TrustStore) (id peer : NodeId) : Prop :=
  peer ∈ (t.pending.get id).getD ∅

/-- A handshake of `peer` is in the inbox of `id`. -/
def Queued (inbox : GoMap NodeId (List HandshakeRelayMsg)) (id peer : NodeId) : Prop :=
  ∃ msg ∈ (inbox.get id).getD [], msg.fromNodeID = peer

/-- The same records, indices, counters, networks, trust store, invites and
pre-assigned roles, with times to the second. -/
structure Agrees (s r : Server) : Prop where
  nodes : (r.nodes.mapVals fun _ => toSecond) = s.nodes.mapVals fun _ => toSecond
  pubKeyIdx : r.pubKeyIdx = s.pubKeyIdx
  ownerIdx : r.ownerIdx = s.ownerIdx
  hostnameIdx : r.hostnameIdx = s.hostnameIdx
  nextNode : r.nextNode = s.nextNode
  networks : (r.networks.mapVals fun _ => netToSecond) = s.networks.mapVals fun _ => netToSecond
  nextNet : r.nextNet = s.nextNet
  pairs : r.trust.pairs = s.trust.pairs
  inbox : r.trust.inbox = s.trust.inbox
  responses : r.trust.responses = s.trust.responses
  pending : ∀ id peer, Pending r.trust id peer ↔ Pending s.trust id peer
  inviteInbox : r.inviteInbox = s.inviteInbox
  rbacPreAssign : r.rbacPreAssign = s.rbacPreAssign

/-- What the file leaves out of the directory and the networks is what the
loader puts in its place. -/
structure Reloadable (s : Server) : Prop where
  /-- Every node's key leads to it, under the key's canonical text. -/
  keys : ∀ id n, s.nodes.get id = some n → s.pubKeyIdx.get (Base64.encode n.publicKey) = some id
  /-- The owner index is that of the registered nodes, and no two of them
  share an owner. -/
  owners : ∀ owner id, s.ownerIdx.get owner = some id ↔
    owner ≠ "" ∧ ∃ n, s.nodes.get id = some n ∧ n.owner = owner
  hostnames : ∀ hostname id, s.hostnameIdx.get hostname = some id ↔
    hostname ≠ "" ∧ ∃ n, s.nodes.get id = some n ∧ n.hostname = hostname
  /-- A network without roles has no members. -/
  roles : ∀ netID net, s.networks.get netID = some net → netID ≠ 0 →
    net.memberRoles.getD ∅ = ∅ → net.members = []
  /-- No invite waits for the reserved id. -/
  inviteInbox : s.inviteInbox.get 0 = none

/-- The same for the whole state. -/
structure Restorable (s : Server) : Prop extends Reloadable s where
  /-- No key has registered with a signature. -/
  latches : ∀ id n, s.nodes.get id = some n → n.sigVerified = false
  /-- No handshake waits for the reserved id. -/
  inbox : s.trust.inbox.get 0 = none
  responses : s.trust.responses.get 0 = none
  /-- The handshakes that wait for an answer are those in the inboxes. -/
  pending : ∀ id peer, Pending s.trust id peer ↔ Queued s.trust.inbox id peer

/-! ## The parts of the state -/

theorem exists_order {V : Type} (m : GoMap NodeId V) : ∃ order, IsOrder order m := by
  refine ⟨m.keys.toList, Finset.nodup_toList _, fun id => ?_⟩
  rw [Finset.mem_toList, GoMap.mem_keys, Option.ne_none_iff_exists']

/-- The loader may meet any node last. -/
theorem exists_order_last {V : Type} {m : GoMap NodeId V} {id : NodeId}
    (h : m.get id ≠ none) : ∃ order, IsOrder (order ++ [id]) m := by
  refine ⟨(m.keys.erase id).toList, ?_, fun j => ?_⟩
  · rw [List.nodup_append]
    refine ⟨Finset.nodup_toList _, List.nodup_singleton id, ?_⟩
    intro a ha b hb hab
    rw [List.mem_singleton.mp hb] at hab
    rw [hab, Finset.mem_toList] at ha
    exact Finset.notMem_erase id _ ha
  · rw [List.mem_append, Finset.mem_toList, Finset.mem_erase, GoMap.mem_keys,
      ← Option.ne_none_iff_exists', List.mem_singleton]
    constructor
    · rintro (⟨-, hj⟩ | rfl)
      · exact hj
      · exact h
    · intro hj
      by_cases hid : j = id
      · exact Or.inr hid
      · exact Or.inl ⟨hid, hj⟩

/-- An index the loader rebuilds comes back in every order exactly when it
holds what the records say. -/
theorem indexBy_eq_iff (f : NodeInfo → Option String)
    (m : GoMap NodeId NodeInfo) (idx : GoMap String NodeId) :
    (∀ order, IsOrder order m → GoMap.indexBy f order m = idx) ↔ ∀ text id, idx.get text = some id ↔
        ∃ n, m.get id = some n ∧ f n = some text := by
  constructor
  · intro h text id
    constructor
    · intro hidx
      obtain ⟨order, hord⟩ := exists_order m
      rw [← h order hord] at hidx
      exact (GoMap.of_get_indexBy f order m hidx).2
    · rintro ⟨n, hn, ht⟩
      have hthere : m.get id ≠ none := by simp [hn]
      obtain ⟨order, hord⟩ := exists_order_last hthere
      rw [← h _ hord]
      exact GoMap.get_indexBy_last f order m hn ht
  · intro h order hord
    exact GoMap.indexBy_eq hord.2 h

/-- The key index comes back in every order exactly when every node's key
leads to it. -/
theorem indexBy_union_eq_iff (m : GoMap NodeId NodeInfo)
    (idx : GoMap String NodeId) :
    (∀ order, IsOrder order m → (GoMap.indexBy keyText order m).union idx = idx) ↔
      ∀ id n, m.get id = some n → idx.get (Base64.encode n.publicKey) = some id := by
  constructor
  · intro h id n hn
    have hthere : m.get id ≠ none := by simp [hn]
    obtain ⟨order, hord⟩ := exists_order_last hthere
    rw [← h _ hord, GoMap.get_union, GoMap.get_indexBy_last keyText order m hn rfl]
    rfl
  · intro h order hord
    ext1 text
    rw [GoMap.get_union]
    cases hget : (GoMap.indexBy keyText order m).get text with
    | none => rfl
    | some id =>
      obtain ⟨-, n, hn, htext⟩ := GoMap.of_get_indexBy keyText order m hget
      rw [← Option.some.inj htext, h id n hn]
      rfl

theorem nodes_agree_iff {order : List NodeId} {s : Server}
    (hord : IsOrder order s.nodes) :
    ((load order (save s)).nodes.mapVals fun _ => toSecond) = (s.nodes.mapVals fun _ => toSecond) ↔
      ∀ id n, s.nodes.get id = some n → n.sigVerified = false := by
  rw [load_save_nodes order s hord, GoMap.ext_iff]
  refine forall_congr' fun id => ?_
  simp only [GoMap.get_mapVals, Option.map_map]
  cases s.nodes.get id with
  | none => simp
  | some n =>
    simp only [Option.map_some, Option.some.injEq, Function.comp_apply, toSecond_restored]
    constructor
    · rintro h n rfl
      exact (congrArg NodeInfo.sigVerified h).symm
    · intro h
      have hlatch : (toSecond n).sigVerified = false := h n rfl
      rw [← hlatch]

theorem networks_agree_iff (order : List NodeId) (s : Server) :
    ((load order (save s)).networks.mapVals fun _ => netToSecond) =
        (s.networks.mapVals fun _ => netToSecond) ↔
      ∀ netID net, s.networks.get netID = some net → netID ≠ 0 →
        net.memberRoles.getD ∅ = ∅ → net.members = [] := by
  rw [load_save_networks, GoMap.ext_iff]
  refine forall_congr' fun netID => ?_
  simp only [GoMap.get_mapVals, Option.map_map]
  cases s.networks.get netID with
  | none => simp
  | some net =>
    simp only [Option.map_some, Option.some.injEq, Function.comp_apply, netToSecond_loadedNet]
    constructor
    · rintro h net rfl
      have hroles := congrArg NetworkInfo.memberRoles h
      exact (loadedRoles_eq netID net).mp (Option.some.inj hroles)
    · intro h
      rw [(loadedRoles_eq netID net).mpr (h net rfl)]
      rfl

theorem withoutZero_eq_iff {V : Type} (inbox : GoMap NodeId V) :
    withoutZero inbox = inbox ↔ inbox.get 0 = none := by
  unfold withoutZero
  constructor
  · intro h
    rw [← h, GoMap.get_filter]
    cases inbox.get 0 <;> rfl
  · intro h
    ext1 id
    rw [GoMap.get_filter]
    by_cases hid : id = 0
    · subst hid
      rw [h]
      rfl
    · cases inbox.get id with
      | none => rfl
      | some v => simp [Option.filter, hid]

theorem mem_pendingOf (inbox : GoMap NodeId (List HandshakeRelayMsg))
    (id peer : NodeId) :
    peer ∈ ((pendingOf inbox).get id).getD ∅ ↔ Queued inbox id peer := by
  unfold pendingOf Queued
  rw [GoMap.get_filterMap]
  cases inbox.get id with
  | none => simp
  | some msgs =>
    by_cases hempty : msgs = []
    · simp [hempty]
    · simp [hempty]

/-! ## The round trip -/

/-- The two rebuilt indices: a text is filed unless it is empty. -/
private theorem filed_iff (field : NodeInfo → String) (m : GoMap NodeId NodeInfo)
    (text : String) (id : NodeId) :
    (∃ n, m.get id = some n ∧ nonEmpty (field n) = some text) ↔
      text ≠ "" ∧ ∃ n, m.get id = some n ∧ field n = text := by
  constructor
  · rintro ⟨n, hn, htext⟩
    obtain ⟨hne, rfl⟩ := (nonEmpty_eq_some _ _).mp htext
    exact ⟨hne, n, hn, rfl⟩
  · rintro ⟨hne, n, hn, rfl⟩
    exact ⟨n, hn, (nonEmpty_eq_some _ _).mpr ⟨hne, rfl⟩⟩

section reloadable

variable {s : Server} (h : Reloadable s) {order : List NodeId}
  (hord : IsOrder order s.nodes)
include h hord

theorem Reloadable.pubKeyIdx : (load order (save s)).pubKeyIdx = s.pubKeyIdx := by
  rw [load_save_pubKeyIdx]
  exact (indexBy_union_eq_iff _ _).mpr h.keys order hord

theorem Reloadable.ownerIdx : (load order (save s)).ownerIdx = s.ownerIdx := by
  rw [load_save_ownerIdx]
  refine (indexBy_eq_iff _ _ _).mpr (fun owner id => ?_) order hord
  rw [h.owners, filed_iff]

theorem Reloadable.hostnameIdx : (load order (save s)).hostnameIdx = s.hostnameIdx := by
  rw [load_save_hostnameIdx]
  refine (indexBy_eq_iff _ _ _).mpr (fun hostname id => ?_) order hord
  rw [h.hostnames, filed_iff]

end reloadable

theorem Restorable.agrees {s : Server} (h : Restorable s) {order : List NodeId}
    (hord : IsOrder order s.nodes) : Agrees s (load order (save s)) where
  nodes := (nodes_agree_iff hord).mpr h.latches
  pubKeyIdx := h.pubKeyIdx hord
  ownerIdx := h.ownerIdx hord
  hostnameIdx := h.hostnameIdx hord
  nextNode := load_save_nextNode order s
  networks := (networks_agree_iff order s).mpr h.roles
  nextNet := load_save_nextNet order s
  pairs := rfl
  inbox := (withoutZero_eq_iff _).mpr h.inbox
  responses := (withoutZero_eq_iff _).mpr h.responses
  pending := fun id peer => by
    have hinbox := (withoutZero_eq_iff s.trust.inbox).mpr h.inbox
    rw [h.pending, ← mem_pendingOf, ← hinbox]
    rfl
  inviteInbox := (withoutZero_eq_iff _).mpr h.inviteInbox
  rbacPreAssign := rfl

/-- A state comes back from its file, in whatever order the loader meets
the nodes, exactly when it is restorable. -/
theorem load_save_agrees_iff (s : Server) :
    (∀ order, IsOrder order s.nodes → Agrees s (load order (save s))) ↔ Restorable s := by
  constructor
  · intro h
    obtain ⟨order, hord⟩ := exists_order s.nodes
    have hinbox := (withoutZero_eq_iff s.trust.inbox).mp (h order hord).inbox
    refine {
      latches := (nodes_agree_iff hord).mp (h order hord).nodes
      keys := (indexBy_union_eq_iff _ _).mp fun order hord =>
        (load_save_pubKeyIdx order s).symm.trans (h order hord).pubKeyIdx
      owners := fun owner id => ?_
      hostnames := fun hostname id => ?_
      roles := (networks_agree_iff order s).mp (h order hord).networks
      inbox := hinbox
      responses := (withoutZero_eq_iff _).mp (h order hord).responses
      inviteInbox := (withoutZero_eq_iff _).mp (h order hord).inviteInbox
      pending := fun id peer => ?_ }
    · have hidx := (indexBy_eq_iff (fun n => nonEmpty n.owner) s.nodes _).mp
        fun order hord =>
          (load_save_ownerIdx order s).symm.trans (h order hord).ownerIdx
      rw [hidx, filed_iff]
    · have hidx := (indexBy_eq_iff (fun n => nonEmpty n.hostname) s.nodes _).mp
        fun order hord =>
          (load_save_hostnameIdx order s).symm.trans (h order hord).hostnameIdx
      rw [hidx, filed_iff]
    · rw [← (h order hord).pending, ← mem_pendingOf]
      have hzero := (withoutZero_eq_iff s.trust.inbox).mpr hinbox
      unfold Pending
      rw [← hzero]
      rfl
  · intro h order hord
    exact h.agrees hord

/-- Two nodes register, the first creates a network, the second joins it,
the first leaves, and an admin clears the enterprise flag, which clears the
roles. -/
def clearedRoles : Except String Server := do
  let admin : String × Json := ("admin_token", .str "secret")
  let a ← handleRegister .plain 0 [] "" (freshServer 0)
    [("public_key", .str "AAAA")]
  let b ← handleRegister .plain 0 [] "" a.server [("public_key", .str "AAAB")]
  let created ← handleCreateNetwork .plain 0 b.server
    [admin, ("node_id", .node 1), ("name", .str "lab")]
  let joined ← handleJoinNetwork .plain created.server
    [admin, ("node_id", .node 2), ("network_id", .net 1)]
  let left ← handleLeaveNetwork .plain joined.server
    [admin, ("node_id", .node 1), ("network_id", .net 1)]
  let cleared ← handleSetNetworkEnterprise .plain left.server
    [admin, ("network_id", .net 1), ("enterprise", .bool false)]
  return cleared.server

/-- The second node has no role left, and comes back as the owner. -/
theorem restart_invents_owner : ∃ s, clearedRoles = .ok s ∧
      ((s.networks.get 1).map fun net => net.role 2) = some none ∧
      ∀ order, IsOrder order s.nodes →
        (((load order (save s)).networks.get 1).map fun net => net.role 2) = some (some .owner) ∧
          ¬ Agrees s (load order (save s)) := by
  have hrun : ∃ s net, clearedRoles = .ok s ∧ s.networks.get 1 = some net ∧
      net.role 2 = none ∧ (loadedNet 1 (saveNet net)).role 2 = some .owner := by
    refine ⟨_, _, rfl, rfl, ?_, ?_⟩
    · decide
    · decide
  obtain ⟨s, net, hs, hnet, hbefore, hafter⟩ := hrun
  refine ⟨s, hs, by simp [hnet, hbefore], fun order hord => ?_⟩
  have hloaded : (load order (save s)).networks.get 1 = some (loadedNet 1 (saveNet net)) := by
    rw [load_save_networks, GoMap.get_mapVals, hnet]
    rfl
  refine ⟨by simp [hloaded, hafter], fun hagrees => ?_⟩
  have hnets := congrArg (fun m => (m.get 1).map fun net => net.role 2)
    hagrees.networks
  simp only [GoMap.get_mapVals, hloaded, hnet, Option.map_some] at hnets
  have hrole : ∀ net : NetworkInfo, (netToSecond net).role 2 = net.role 2 :=
    fun _ => rfl
  rw [hrole, hrole, hbefore, hafter] at hnets
  simp at hnets

/-- A registered node with an owner and a hostname. -/
def oneNode : Server :=
  { freshServer 0 with
    nodes := GoMap.set ∅ 1 {
      owner := "ann", publicKey := [0, 0, 0], networks := [0], hostname := "a" }
    pubKeyIdx := GoMap.set ∅ "AAAA" 1
    ownerIdx := GoMap.set ∅ "ann" 1
    hostnameIdx := GoMap.set ∅ "a" 1
    nextNode := 2 }

private theorem oneNode_get {id : NodeId} {n : NodeInfo}
    (h : oneNode.nodes.get id = some n) :
    id = 1 ∧ n = {
      owner := "ann", publicKey := [0, 0, 0], networks := [0], hostname := "a" } := by
  have hset : oneNode.nodes = GoMap.set ∅ 1 {
      owner := "ann", publicKey := [0, 0, 0], networks := [0], hostname := "a" } :=
    rfl
  rw [hset] at h
  rcases GoMap.of_get_set h with hnew | hnone
  · exact hnew
  · cases hnone

private theorem get_singleton_iff {text t : String} {id i : NodeId} :
    (GoMap.set ∅ t i).get text = some id ↔ text = t ∧ id = i := by
  rw [GoMap.get_set]
  by_cases h : text = t
  · simp [h, eq_comm]
  · simp [h]

theorem oneNode_reloadable : Reloadable oneNode where
  keys := fun id n hn => by
    obtain ⟨rfl, rfl⟩ := oneNode_get hn
    decide
  owners := fun owner id => by
    refine get_singleton_iff.trans ⟨?_, ?_⟩
    · rintro ⟨rfl, rfl⟩
      exact ⟨by decide, _, rfl, rfl⟩
    · rintro ⟨-, n, hn, rfl⟩
      obtain ⟨rfl, rfl⟩ := oneNode_get hn
      exact ⟨rfl, rfl⟩
  hostnames := fun hostname id => by
    refine get_singleton_iff.trans ⟨?_, ?_⟩
    · rintro ⟨rfl, rfl⟩
      exact ⟨by decide, _, rfl, rfl⟩
    · rintro ⟨-, n, hn, rfl⟩
      obtain ⟨rfl, rfl⟩ := oneNode_get hn
      exact ⟨rfl, rfl⟩
  roles := fun netID net hnet hid _ => by
    have hset : oneNode.networks = GoMap.set ∅ 0 (backbone 0) := rfl
    rw [hset, GoMap.get_set_ne _ _ hid, GoMap.get_empty] at hnet
    cases hnet
  inviteInbox := rfl

/-- Such a state comes back. -/
theorem oneNode_comes_back : ∀ order, IsOrder order oneNode.nodes →
      Agrees oneNode (load order (save oneNode)) := by
  refine (load_save_agrees_iff oneNode).mpr {
    oneNode_reloadable with
    latches := fun id n hn => ?_
    inbox := rfl
    responses := rfl
    pending := fun id peer => ?_ }
  · obtain ⟨-, rfl⟩ := oneNode_get hn
    rfl
  · have hinbox : oneNode.trust.inbox = ∅ := rfl
    have hpending : oneNode.trust.pending = ∅ := rfl
    unfold Pending Queued
    rw [hinbox, hpending, GoMap.get_empty, GoMap.get_empty]
    simp

end Rendezvous.Persist

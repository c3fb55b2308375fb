import Rendezvous.Persist.RoundTrip

/-!
# Which states a standby takes over

The pushed snapshot with what goes with the server's state: the replication
term and the identity provider's configuration. A standby whose term is not
newer ends up with the primary's state exactly when the snapshot leaves
nothing out that the primary has (`Carried`) and the standby has nothing
that a restore keeps.

The text of the snapshot enters only through its size, and the URL check of
the common library is a parameter.
-/

namespace Rendezvous.Persist

open Base Registry Directory Wal

/-! ## Peers -/

/-- The configuration of an identity provider. -/
structure IDPConfig where
  idpType : String
  url : String
  issuer : String := ""
  clientID : String := ""
  tenantID : String := ""
  domain : String := ""
  deriving DecidableEq

/-- A registry with its replication term and its identity provider. -/
structure Peer where
  server : Server
  term : UInt64 := 0
  idpConfig : Option IDPConfig := none
  deriving DecidableEq

variable {s : Server} {order : List NodeId} {id : NodeId} {sb p : Peer}

/-- What the primary pushes. -/
structure Push where
  snapshot : Snapshot
  term : UInt64
  idpConfig : Option IDPConfig
  deriving DecidableEq

/-- `snapshotJSON`, with the fields that are not the server's. -/
def Peer.pushed (p : Peer) : Push where
  snapshot := snapshotJSON p.server
  term := p.term
  idpConfig := p.idpConfig

/-- The largest snapshot a standby decodes. -/
def maxSnapshotSize : Nat := 256 * 2 ^ 20

variable (validate : String → Bool) (size : Push → Nat)

/-- The configuration a standby has after a push: the pushed one if there
is one and its URL is accepted, its own otherwise. -/
def acceptedIDP (own pushed : Option IDPConfig) : Option IDPConfig :=
  match pushed with
  | some cfg => if validate cfg.url then some cfg else own
  | none => own

/-- `applySnapshot`. A snapshot with an older term is ignored. -/
def Peer.applySnapshot (order : List NodeId) (sb : Peer) (push : Push) : Except String Peer := do
  require (size push ≤ maxSnapshotSize)
    s!"snapshot too large: {size push} bytes (max {maxSnapshotSize})"
  if push.term < sb.term then return sb
  return {
    server := Persist.applySnapshot order sb.server push.snapshot
    term := push.term
    idpConfig := acceptedIDP validate sb.idpConfig push.idpConfig }

/-- The standby's state after a push, which a refused one leaves alone. -/
def Peer.after (order : List NodeId) (sb p : Peer) : Peer :=
  match Peer.applySnapshot validate size order sb p.pushed with
  | .ok r => r
  | .error _ => sb

/-- `r` has the replicated state of `p`, with times to the second. -/
structure Replicates (p r : Peer) : Prop where
  nodes : (r.server.nodes.mapVals fun _ => toSecond) = p.server.nodes.mapVals fun _ => toSecond
  pubKeyIdx : r.server.pubKeyIdx = p.server.pubKeyIdx
  networks : (r.server.networks.mapVals fun _ => netToSecond) =
    p.server.networks.mapVals fun _ => netToSecond
  pairs : r.server.trust.pairs = p.server.trust.pairs
  inbox : r.server.trust.inbox = p.server.trust.inbox
  responses : r.server.trust.responses = p.server.trust.responses
  inviteInbox : r.server.inviteInbox = p.server.inviteInbox
  rbacPreAssign : r.server.rbacPreAssign = p.server.rbacPreAssign
  idpConfig : r.idpConfig = p.idpConfig
  nextNode : r.server.nextNode = p.server.nextNode
  nextNet : r.server.nextNet = p.server.nextNet
  term : r.term = p.term

/-- The snapshot says all the primary has, and the standby has nothing
else. -/
structure Carried (p sb : Peer) : Prop where
  /-- The last contact of every node is in the field that is pushed. -/
  seen : ∀ id n, p.server.nodes.get id = some n → rfc3339 n.lastSeen = rfc3339 n.getLastSeen
  versions : ∀ id n, p.server.nodes.get id = some n → n.version = ""
  latches : ∀ id n, p.server.nodes.get id = some n → n.sigVerified = false
  /-- No two nodes share a hostname. -/
  hostnames : ∀ id j n m, p.server.nodes.get id = some n →
    p.server.nodes.get j = some m → n.hostname ≠ "" → n.hostname = m.hostname →
    id = j
  /-- The key index is that of the registered nodes. -/
  keys : ∀ text id, p.server.pubKeyIdx.get text = some id ↔
    ∃ n, p.server.nodes.get id = some n ∧ Base64.encode n.publicKey = text
  documents : ∀ netID net, p.server.networks.get netID = some net →
    net.rules = none ∧ document net.exprPolicy = none
  roles : ∀ netID net, p.server.networks.get netID = some net → netID ≠ 0 →
    net.memberRoles.getD ∅ = ∅ → net.members = []
  pairs : sb.server.trust.pairs ⊆ p.server.trust.pairs
  inbox : ∀ id, id = 0 ∨ p.server.trust.inbox.get id = none →
    sb.server.trust.inbox.get id = p.server.trust.inbox.get id
  responses : ∀ id, id = 0 ∨ p.server.trust.responses.get id = none →
    sb.server.trust.responses.get id = p.server.trust.responses.get id
  inviteInbox : p.server.inviteInbox.get 0 = none
  rbacPreAssign : p.server.rbacPreAssign = ∅ → sb.server.rbacPreAssign = ∅
  idpConfig : (∀ cfg, p.idpConfig = some cfg → validate cfg.url = false) →
    sb.idpConfig = p.idpConfig

/-! ## The nodes -/

/-- The record the standby files: without its hostname if another record has
it. -/
def hosted (r : Server) (id : NodeId) (n : NodeInfo) : NodeInfo :=
  if n.hostname ≠ "" && (r.hostnameIdx.get n.hostname).any fun other =>
      other ≠ id then
    { n with hostname := "" }
  else n

section

variable (r : Server) (id : NodeId) (n : NodeInfo)

theorem fileReplica_nodes : (fileReplica r id n).nodes = r.nodes.set id (hosted r id n) := by
  unfold fileReplica hosted
  split
  · rfl
  · exact indexHostname_nodes { r with nodes := r.nodes.set id n } n.hostname id

theorem fileReplica_nextNet : (fileReplica r id n).nextNet = r.nextNet := by
  unfold fileReplica
  split
  · rfl
  · exact indexHostname_nextNet _ n.hostname id

theorem fileReplica_hostnameIdx_get (hostname : String) :
    (fileReplica r id n).hostnameIdx.get hostname =
      if hostname = n.hostname ∧ hostname ≠ "" ∧
          ∀ other, r.hostnameIdx.get hostname = some other → other = id then
        some id
      else r.hostnameIdx.get hostname := by
  unfold fileReplica
  by_cases htaken : (decide (n.hostname ≠ "") &&
      (r.hostnameIdx.get n.hostname).any fun other => other ≠ id) = true
  · rw [if_pos htaken, if_neg]
    rintro ⟨rfl, -, hfree⟩
    simp only [Bool.and_eq_true, Option.any_eq_true, decide_eq_true_eq] at htaken
    obtain ⟨-, other, hother, hne⟩ := htaken
    exact hne (hfree other hother)
  · rw [if_neg htaken]
    unfold indexHostname
    by_cases hempty : n.hostname = ""
    · rw [if_pos hempty, if_neg]
      rintro ⟨rfl, hne, -⟩
      exact hne hempty
    · rw [if_neg hempty]
      show (r.hostnameIdx.set n.hostname id).get hostname = _
      rw [GoMap.get_set]
      by_cases hname : hostname = n.hostname
      · have hfree : ∀ other, r.hostnameIdx.get hostname = some other → other = id := by
          intro other hother
          by_contra hne
          apply htaken
          simp only [Bool.and_eq_true, Option.any_eq_true, decide_eq_true_eq]
          exact ⟨hempty, other, by rw [← hname]; exact hother, hne⟩
        rw [if_pos hname, if_pos ⟨hname, by rw [hname]; exact hempty, hfree⟩]
      · rw [if_neg hname, if_neg fun h => hname h.1]

end

/-- The records and hostnames after the standby's loop over `order`, from
the empty state. -/
structure Hosted (s : Server) (order : List NodeId) (r : Server) : Prop where
  /-- Every hostname filed is that of a record met. -/
  filed : ∀ hostname id, r.hostnameIdx.get hostname = some id →
    id ∈ order ∧ ∃ n, s.nodes.get id = some n ∧ n.hostname = hostname
  /-- Every record met has its hostname filed, for it or another. -/
  taken : ∀ id n, id ∈ order → s.nodes.get id = some n → n.hostname ≠ "" →
    r.hostnameIdx.get n.hostname ≠ none
  /-- Every record comes over, perhaps without its hostname. -/
  nodes : ∀ id, id ∈ order → ∀ n, s.nodes.get id = some n → r.nodes.get id = some (replicated n) ∨
      (∃ other m, other ≠ id ∧ s.nodes.get other = some m ∧
        m.hostname = n.hostname ∧ n.hostname ≠ "" ∧
        r.nodes.get id = some { replicated n with hostname := "" })
  others : ∀ id, id ∉ order ∨ s.nodes.get id = none → r.nodes.get id = none
  nextNet : r.nextNet = s.nextNet

/-- An id without a record is passed over. -/
theorem Hosted.skip {r : Server} (h : Hosted s order r) (hget : s.nodes.get id = none) :
    Hosted s (order ++ [id]) r := by
  have hold : ∀ j, j ∈ order ++ [id] → s.nodes.get j ≠ none → j ∈ order := by
    intro j hj hne
    rcases List.mem_append.mp hj with hj | hj
    · exact hj
    · rw [List.mem_singleton.mp hj] at hne
      exact absurd hget hne
  refine ⟨fun hostname j hj => ?_, fun j n hj hn => ?_, fun j hj n hn => ?_,
    fun j hj => ?_, h.nextNet⟩
  · obtain ⟨hmem, hrest⟩ := h.filed hostname j hj
    exact ⟨List.mem_append_left _ hmem, hrest⟩
  · exact h.taken j n (hold j hj (by simp [hn])) hn
  · exact h.nodes j (hold j hj (by simp [hn])) n hn
  · apply h.others
    rcases hj with hj | hj
    · exact Or.inl fun hmem => hj (List.mem_append_left _ hmem)
    · exact Or.inr hj

/-- A record is filed, with its hostname unless another record has it. -/
theorem Hosted.file {r : Server} (h : Hosted s order r) {n : NodeInfo}
    (hget : s.nodes.get id = some n) (key owner : String) :
    Hosted s (order ++ [id])
      (fileReplica (indexOwner { r with pubKeyIdx := r.pubKeyIdx.set key id }
        owner id) id (replicated n)) := by
  set r₁ := indexOwner { r with pubKeyIdx := r.pubKeyIdx.set key id } owner id
    with hr₁
  have hidx : r₁.hostnameIdx = r.hostnameIdx := indexOwner_hostnameIdx _ owner id
  have hnodes : r₁.nodes = r.nodes := indexOwner_nodes _ owner id
  have hname : (replicated n).hostname = n.hostname := rfl
  have hmem : ∀ j, j ∈ order ++ [id] ↔ j ∈ order ∨ j = id := by simp
  refine ⟨fun hostname j hj => ?_, fun j m hj hm hne => ?_, fun j hj m hm => ?_, fun j hj => ?_, ?_⟩
  · rw [fileReplica_hostnameIdx_get, hidx, hname] at hj
    rw [hmem]
    split at hj
    · next hfree =>
      cases hj
      exact ⟨Or.inr rfl, n, hget, hfree.1.symm⟩
    · obtain ⟨hin, hrest⟩ := h.filed hostname j hj
      exact ⟨Or.inl hin, hrest⟩
  · rw [fileReplica_hostnameIdx_get, hidx, hname]
    split
    · simp
    · next hfree =>
      rcases (hmem j).mp hj with hin | rfl
      · exact h.taken j m hin hm hne
      · -- The record just filed did not get its name, so another has it.
        rw [hget, Option.some.injEq] at hm
        subst hm
        intro hnone
        exact hfree ⟨rfl, hne, fun other hother => by rw [hnone] at hother; cases hother⟩
  · rw [fileReplica_nodes, hnodes, GoMap.get_set]
    by_cases hjid : j = id
    · subst hjid
      rw [hget, Option.some.injEq] at hm
      subst hm
      rw [if_pos rfl]
      unfold hosted
      split
      · next htaken =>
        simp only [Bool.and_eq_true, Option.any_eq_true, decide_eq_true_eq, hname, hidx] at htaken
        obtain ⟨hne, other, hother, hdiff⟩ := htaken
        obtain ⟨-, m, hm, hsame⟩ := h.filed _ other hother
        exact Or.inr ⟨other, m, hdiff, hm, hsame, hne, rfl⟩
      · exact Or.inl rfl
    · rw [if_neg hjid]
      rcases (hmem j).mp hj with hin | rfl
      · exact h.nodes j hin m hm
      · exact absurd rfl hjid
  · rw [fileReplica_nodes, hnodes, GoMap.get_set]
    have hjid : j ≠ id := by
      rintro rfl
      rcases hj with hj | hj
      · exact hj ((hmem j).mpr (Or.inr rfl))
      · rw [hget] at hj
        cases hj
    rw [if_neg hjid]
    apply h.others
    rcases hj with hj | hj
    · exact Or.inl fun hin => hj ((hmem j).mpr (Or.inl hin))
    · exact Or.inr hj
  · rw [fileReplica_nextNet, hr₁, indexOwner_nextNet]
    exact h.nextNet

/-- The state the standby's loop starts from. -/
def emptyReplica (s : Server) : Server :=
  { nextNode := s.nextNode, nextNet := s.nextNet }

theorem hosted_foldl (s : Server) (order : List NodeId) : Hosted s order
      (order.foldl (replicateNode (snapshotJSON s)) (emptyReplica s)) := by
  induction order using List.reverseRecOn with
  | nil =>
    refine ⟨fun hostname id h => ?_, fun id n h => ?_, fun id h => ?_, fun id _ => rfl, rfl⟩
    · have hempty : (emptyReplica s).hostnameIdx = ∅ := rfl
      simp only [List.foldl_nil, hempty, GoMap.get_empty] at h
      cases h
    · cases h
    · cases h
  | append_singleton order id ih =>
    rw [List.foldl_append, List.foldl_cons, List.foldl_nil]
    cases hget : s.nodes.get id with
    | none =>
      rw [replicateNode_absent _ hget]
      exact ih.skip hget
    | some n =>
      rw [replicateNode_present _ hget]
      exact ih.file hget _ _

/-- The record met last loses a hostname it shares. -/
theorem last_loses_hostname {other : NodeId} (hord : IsOrder (order ++ [id]) s.nodes)
    {n m : NodeInfo} (hn : s.nodes.get id = some n) (hm : s.nodes.get other = some m)
    (hdiff : other ≠ id) (hsame : m.hostname = n.hostname) (hne : n.hostname ≠ "") :
    ((order ++ [id]).foldl (replicateNode (snapshotJSON s))
      (emptyReplica s)).nodes.get id = some { replicated n with hostname := "" } := by
  have h := hosted_foldl s order
  have hnew : id ∉ order := by
    intro hmem
    exact (List.nodup_append.mp hord.1).2.2 id hmem id (by simp) rfl
  have hmet : other ∈ order := by
    have hmem : other ∈ order ++ [id] := (hord.2 other).mpr (by simp [hm])
    rcases List.mem_append.mp hmem with hmem | hmem
    · exact hmem
    · exact absurd (List.mem_singleton.mp hmem) hdiff
  have htaken := h.taken other m hmet hm (by rw [hsame]; exact hne)
  rw [hsame] at htaken
  obtain ⟨x, hx⟩ := Option.ne_none_iff_exists'.mp htaken
  have hxne : x ≠ id := by
    rintro rfl
    exact hnew (h.filed _ _ hx).1
  rw [List.foldl_append, List.foldl_cons, List.foldl_nil, replicateNode_present _ hn,
    fileReplica_nodes, GoMap.get_set_self]
  unfold hosted
  rw [if_pos]
  have hname : (replicated n).hostname = n.hostname := rfl
  simp only [Bool.and_eq_true, Option.any_eq_true, decide_eq_true_eq, hname, indexOwner_hostnameIdx]
  exact ⟨hne, x, hx, hxne⟩

theorem toSecond_replicated (n : NodeInfo) : toSecond (replicated n) = { toSecond n with
      lastSeen := rfc3339 n.lastSeen
      lastSeenNano := rfc3339 n.lastSeen
      version := ""
      sigVerified := false } := by
  have hseen : (replicated n).getLastSeen = rfc3339 n.lastSeen := rfl
  unfold toSecond
  rw [hseen]
  simp [replicated, replicaNode, loadedNode, saveNode, rfc3339_idem]

/-- The records come over, in whatever order the standby meets them, exactly
when the push has their last contact, they have no version and no latch, and
no two of them share a hostname. -/
theorem replica_nodes_agree_iff (standby s : Server) : (∀ order, IsOrder order s.nodes →
      ((applySnapshot order standby (snapshotJSON s)).nodes.mapVals
        fun _ => toSecond) = s.nodes.mapVals fun _ => toSecond) ↔
      (∀ id n, s.nodes.get id = some n → rfc3339 n.lastSeen = rfc3339 n.getLastSeen ∧
        n.version = "" ∧ n.sigVerified = false) ∧
      ∀ id j n m, s.nodes.get id = some n → s.nodes.get j = some m →
        n.hostname ≠ "" → n.hostname = m.hostname → id = j := by
  have hbuilt : ∀ order, (applySnapshot order standby (snapshotJSON s)).nodes =
      (order.foldl (replicateNode (snapshotJSON s)) (emptyReplica s)).nodes :=
    fun _ => rfl
  constructor
  · intro h
    refine ⟨fun id n hn => ?_, fun id j n m hn hm hne hsame => ?_⟩
    · -- Whether or not the hostname is lost, the other fields are there to see.
      obtain ⟨order, hord⟩ := exists_order s.nodes
      have hmem : id ∈ order := (hord.2 id).mpr (by simp [hn])
      have hget := congrArg (fun m => m.get id) (h order hord)
      simp only [GoMap.get_mapVals, hn, hbuilt, Option.map_some] at hget
      have hrec : ∀ r, toSecond r = toSecond n →
          r.getLastSeen = rfc3339 n.lastSeen → r.version = "" →
          r.sigVerified = false →
          rfc3339 n.lastSeen = rfc3339 n.getLastSeen ∧ n.version = "" ∧ n.sigVerified = false := by
        intro r hr hseen hversion hlatch
        have hlast : rfc3339 r.getLastSeen = rfc3339 n.getLastSeen :=
          congrArg NodeInfo.lastSeen hr
        rw [hseen, rfc3339_idem] at hlast
        exact ⟨hlast, (congrArg NodeInfo.version hr).symm.trans hversion,
          (congrArg NodeInfo.sigVerified hr).symm.trans hlatch⟩
      rcases (hosted_foldl s order).nodes id hmem n hn with hr | ⟨_, _, _, _, _, _, hr⟩
      · rw [hr] at hget
        exact hrec _ (Option.some.inj hget) rfl rfl rfl
      · rw [hr] at hget
        exact hrec _ (Option.some.inj hget) rfl rfl rfl
    · by_contra hdiff
      have hthere : s.nodes.get id ≠ none := by simp [hn]
      obtain ⟨order, hord⟩ := exists_order_last hthere
      have hget := congrArg (fun m => m.get id) (h _ hord)
      simp only [GoMap.get_mapVals, hn, hbuilt, Option.map_some,
        last_loses_hostname hord hn hm (Ne.symm hdiff) hsame.symm hne] at hget
      exact hne (congrArg NodeInfo.hostname (Option.some.inj hget)).symm
  · rintro ⟨hfields, hhosts⟩ order hord
    ext1 id
    rw [hbuilt, GoMap.get_mapVals, GoMap.get_mapVals]
    cases hn : s.nodes.get id with
    | none => rw [(hosted_foldl s order).others id (Or.inr hn), Option.map_none]
    | some n =>
      have hmem : id ∈ order := (hord.2 id).mpr (by simp [hn])
      obtain ⟨hseen, hversion, hlatch⟩ := hfields id n hn
      rcases (hosted_foldl s order).nodes id hmem n hn with
        hr | ⟨other, m, hdiff, hm, hsame, hne, -⟩
      · rw [hr, Option.map_some, Option.map_some, toSecond_replicated, hseen, ← hversion, ← hlatch]
        rfl
      · exact absurd (hhosts id other n m hn hm hne hsame.symm).symm hdiff

/-! ## The other parts -/

/-- A standby's network has no rules and no expression policy, and may have
other roles. -/
theorem netToSecond_replica (netID : NetId) (net : NetworkInfo) :
    netToSecond { loadedNet netID { saveNet net with rules := none, exprPolicy := none }
        with rules := none, exprPolicy := none } =
      { netToSecond net with
        rules := none
        exprPolicy := none
        memberRoles := some (loadedRoles netID (saveNet net)) } := by
  unfold netToSecond
  simp [loadedNet, loadedRoles, saveNet, savedPolicy_getD, rfc3339_idem]

theorem replica_networks_agree_iff (order : List NodeId) (standby s : Server) :
    ((applySnapshot order standby (snapshotJSON s)).networks.mapVals
        fun _ => netToSecond) = (s.networks.mapVals fun _ => netToSecond) ↔
      (∀ netID net, s.networks.get netID = some net →
        net.rules = none ∧ document net.exprPolicy = none) ∧
      ∀ netID net, s.networks.get netID = some net → netID ≠ 0 →
        net.memberRoles.getD ∅ = ∅ → net.members = [] := by
  rw [GoMap.ext_iff, ← forall_and]
  refine forall_congr' fun netID => ?_
  simp only [applySnapshot, snapshotJSON, GoMap.get_mapVals]
  cases s.networks.get netID with
  | none => simp
  | some net =>
    simp only [Option.map_some, Option.some.injEq, netToSecond_replica]
    constructor
    · intro h
      have hroles := Option.some.inj (congrArg NetworkInfo.memberRoles h)
      refine ⟨?_, ?_⟩
      · rintro _ rfl
        exact ⟨(congrArg NetworkInfo.rules h).symm, (congrArg NetworkInfo.exprPolicy h).symm⟩
      · rintro _ rfl
        exact (loadedRoles_eq netID net).mp hroles
    · rintro ⟨hdocs, hroles⟩
      obtain ⟨hrules, hexpr⟩ := hdocs net rfl
      rw [(loadedRoles_eq netID net).mpr (hroles net rfl)]
      unfold netToSecond
      rw [hexpr, hrules]

/-- A queue the standby restores is the primary's unless the primary has none
to put in the place of the standby's own. -/
theorem withoutZero_union_eq_iff {V : Type} (pushed own : GoMap NodeId V) :
    (withoutZero pushed).union own = pushed ↔
      ∀ id, id = 0 ∨ pushed.get id = none → own.get id = pushed.get id := by
  have hget : ∀ id, (withoutZero pushed).get id =
      if id = 0 then none else pushed.get id := by
    intro id
    unfold withoutZero
    rw [GoMap.get_filter]
    by_cases hid : id = 0
    · cases pushed.get id <;> simp [hid]
    · cases pushed.get id <;> simp [hid]
  rw [GoMap.ext_iff]
  refine forall_congr' fun id => ?_
  rw [GoMap.get_union, hget]
  by_cases hid : id = 0
  · simp [hid]
  · cases hpushed : pushed.get id <;> simp [hid]

theorem acceptedIDP_eq_iff (own pushed : Option IDPConfig) :
    acceptedIDP validate own pushed = pushed ↔
      ((∀ cfg, pushed = some cfg → validate cfg.url = false) → own = pushed) := by
  unfold acceptedIDP
  cases pushed with
  | none => simp
  | some cfg =>
    cases hvalid : validate cfg.url with
    | true => simp [hvalid]
    | false => simp [hvalid]

theorem replica_rbac_eq_iff {V : Type} [DecidableEq V] (own pushed : GoMap NetId V) :
    (if pushed = ∅ then own else pushed) = pushed ↔ (pushed = ∅ → own = ∅) := by
  by_cases hempty : pushed = ∅
  · simp [hempty]
  · simp [hempty]

/-! ## The whole state -/

/-- The standby of a snapshot that is neither too large nor stale. -/
def Peer.replica (order : List NodeId) (sb p : Peer) : Peer where
  server := Persist.applySnapshot order sb.server (snapshotJSON p.server)
  term := p.term
  idpConfig := acceptedIDP validate sb.idpConfig p.idpConfig

theorem Peer.after_eq (hterm : sb.term ≤ p.term) (order : List NodeId) :
    Peer.after validate size order sb p =
      if size p.pushed ≤ maxSnapshotSize then Peer.replica validate order sb p
      else sb := by
  have hfresh : ¬ p.pushed.term < sb.term := UInt64.not_lt.mpr hterm
  unfold Peer.after Peer.applySnapshot
  by_cases hsize : size p.pushed ≤ maxSnapshotSize
  · simp only [require, hsize, decide_true, if_true, if_neg hfresh]
    rfl
  · simp only [require, hsize, decide_false, if_false, Bool.false_eq_true]
    rfl

theorem Carried.replicates (h : Carried validate p sb) (hord : IsOrder order p.server.nodes) :
    Replicates p (Peer.replica validate order sb p) where
  nodes := (replica_nodes_agree_iff sb.server p.server).mpr
    ⟨fun id n hn => ⟨h.seen id n hn, h.versions id n hn, h.latches id n hn⟩, h.hostnames⟩ order hord
  pubKeyIdx := by
    have hidx := replica_pubKeyIdx order sb.server p.server
    refine hidx.trans ((indexBy_eq_iff _ _ _).mpr (fun text id => ?_) order hord)
    rw [h.keys]
    simp only [keyText, Option.some.injEq]
  networks := (replica_networks_agree_iff order sb.server p.server).mpr
    ⟨h.documents, h.roles⟩
  pairs := Finset.union_eq_right.mpr h.pairs
  inbox := (withoutZero_union_eq_iff _ _).mpr h.inbox
  responses := (withoutZero_union_eq_iff _ _).mpr h.responses
  inviteInbox := (withoutZero_eq_iff _).mpr h.inviteInbox
  rbacPreAssign := (replica_rbac_eq_iff _ _).mpr h.rbacPreAssign
  idpConfig := (acceptedIDP_eq_iff validate _ _).mpr h.idpConfig
  nextNode := replica_nextNode order sb.server p.server
  nextNet := (hosted_foldl p.server order).nextNet
  term := rfl

theorem carried_of_replicates (h : ∀ order, IsOrder order p.server.nodes →
      Replicates p (Peer.replica validate order sb p)) : Carried validate p sb := by
  obtain ⟨order, hord⟩ := exists_order p.server.nodes
  have hone := h order hord
  obtain ⟨hfields, hhosts⟩ := (replica_nodes_agree_iff sb.server p.server).mp
    fun order hord => (h order hord).nodes
  obtain ⟨hdocs, hroles⟩ :=
    (replica_networks_agree_iff order sb.server p.server).mp hone.networks
  have hkeys := (indexBy_eq_iff keyText p.server.nodes p.server.pubKeyIdx).mp
    fun order hord =>
      (replica_pubKeyIdx order sb.server p.server).symm.trans (h order hord).pubKeyIdx
  exact {
    seen := fun id n hn => (hfields id n hn).1
    versions := fun id n hn => (hfields id n hn).2.1
    latches := fun id n hn => (hfields id n hn).2.2
    hostnames := hhosts
    keys := fun text id => by
      rw [hkeys]
      simp only [keyText, Option.some.injEq]
    documents := hdocs
    roles := hroles
    pairs := Finset.union_eq_right.mp hone.pairs
    inbox := (withoutZero_union_eq_iff _ _).mp hone.inbox
    responses := (withoutZero_union_eq_iff _ _).mp hone.responses
    inviteInbox := (withoutZero_eq_iff _).mp hone.inviteInbox
    rbacPreAssign := (replica_rbac_eq_iff _ _).mp hone.rbacPreAssign
    idpConfig := (acceptedIDP_eq_iff validate _ _).mp hone.idpConfig }

/-- A standby whose term is not newer has the primary's state after a push,
in whatever order it meets the nodes, exactly when the push is decoded and
carries it, or is too large and the standby has that state already. -/
theorem apply_replicates_iff (sb p : Peer) (hterm : sb.term ≤ p.term) :
    (∀ order, IsOrder order p.server.nodes → Replicates p (Peer.after validate size order sb p)) ↔
      (size p.pushed ≤ maxSnapshotSize ∧ Carried validate p sb) ∨
        (maxSnapshotSize < size p.pushed ∧ Replicates p sb) := by
  simp only [Peer.after_eq validate size hterm]
  by_cases hsize : size p.pushed ≤ maxSnapshotSize
  · simp only [hsize, true_and, Nat.not_lt.mpr hsize, false_and, or_false]
    exact ⟨carried_of_replicates validate, fun h order hord => h.replicates validate hord⟩
  · simp only [hsize, false_and, Nat.lt_of_not_le hsize, true_and, false_or]
    constructor
    · intro h
      obtain ⟨order, hord⟩ := exists_order p.server.nodes
      exact h order hord
    · intro h _ _
      exact h

/-- A registry with one node and the given trust pairs. -/
def paired (pairs : Finset (NodeId × NodeId)) : Peer where
  server := {
    nodes := GoMap.set ∅ 1 { publicKey := [0, 0, 0], networks := [0] }
    pubKeyIdx := GoMap.set ∅ "AAAA" 1
    nextNode := 2
    trust := { pairs := pairs } }

/-- A push taken over by a standby, with every URL accepted and an empty
encoding. -/
def Peer.takes (sb p : Peer) : Peer :=
  Peer.after (fun _ => true) (fun _ => 0) [1] sb p

/-- A pair is pushed, revoked on the primary, and stays on the standby. -/
theorem revoked_pair_stays : (1, 2) ∈ (((paired ∅).takes (paired {(1, 2)})).takes
        (paired ∅)).server.trust.pairs ∧
      ¬ Replicates (paired ∅)
        (((paired ∅).takes (paired {(1, 2)})).takes (paired ∅)) := by
  have hfirst : (paired ∅).takes (paired {(1, 2)}) =
      Peer.replica (fun _ => true) [1] (paired ∅) (paired {(1, 2)}) := by
    have hterm : (paired ∅).term ≤ (paired {(1, 2)}).term := UInt64.le_refl _
    unfold Peer.takes
    rw [Peer.after_eq _ _ hterm, if_pos (Nat.zero_le _)]
  have hkept : (1, 2) ∈ (((paired ∅).takes (paired {(1, 2)})).takes
      (paired ∅)).server.trust.pairs := by
    have hterm : (Peer.replica (fun _ => true) [1] (paired ∅)
        (paired {(1, 2)})).term ≤ (paired ∅).term := UInt64.le_refl _
    rw [hfirst]
    unfold Peer.takes
    rw [Peer.after_eq _ _ hterm, if_pos (Nat.zero_le _)]
    exact Finset.mem_union_left _ (Finset.mem_union_right _ (Finset.mem_singleton_self _))
  refine ⟨hkept, fun h => ?_⟩
  rw [h.pairs] at hkept
  cases hkept

/-- A standby that has nothing the primary does not have takes its state. -/
theorem paired_replicates : IsOrder [1] (paired {(1, 2)}).server.nodes ∧
      Replicates (paired {(1, 2)}) ((paired ∅).takes (paired {(1, 2)})) := by
  have hord : IsOrder [1] (paired {(1, 2)}).server.nodes := by
    refine ⟨by decide, fun id => ?_⟩
    show id ∈ [1] ↔ (GoMap.set ∅ 1 _).get id ≠ none
    rw [GoMap.get_set]
    by_cases hid : id = 1 <;> simp [hid]
  refine ⟨hord, (apply_replicates_iff (fun _ => true) (fun _ => 0) (paired ∅)
    (paired {(1, 2)}) (UInt64.le_refl _)).mpr (Or.inl ⟨Nat.zero_le _, ?_⟩) [1] hord⟩
  have hnode : ∀ id n, (paired {(1, 2)}).server.nodes.get id = some n →
      id = 1 ∧ n = { publicKey := [0, 0, 0], networks := [0] } := by
    intro id n h
    have hset : (paired {(1, 2)}).server.nodes =
        GoMap.set ∅ 1 { publicKey := [0, 0, 0], networks := [0] } := rfl
    rw [hset] at h
    rcases GoMap.of_get_set h with hnew | hnone
    · exact hnew
    · cases hnone
  have hnets : (paired {(1, 2)}).server.networks = ∅ := rfl
  exact {
    seen := fun id n hn => by obtain ⟨-, rfl⟩ := hnode id n hn; rfl
    versions := fun id n hn => by obtain ⟨-, rfl⟩ := hnode id n hn; rfl
    latches := fun id n hn => by obtain ⟨-, rfl⟩ := hnode id n hn; rfl
    hostnames := fun id j n m hn hm _ _ => by
      rw [(hnode id n hn).1, (hnode j m hm).1]
    keys := fun text id => by
      have hidx : (paired {(1, 2)}).server.pubKeyIdx = GoMap.set ∅ "AAAA" 1 := rfl
      rw [hidx, GoMap.get_set]
      constructor
      · intro h
        split at h
        · next htext =>
          cases h
          exact ⟨_, rfl, by rw [htext]; decide⟩
        · cases h
      · rintro ⟨n, hn, rfl⟩
        obtain ⟨rfl, rfl⟩ := hnode id n hn
        decide
    documents := fun netID net h => by rw [hnets] at h; cases h
    roles := fun netID net h => by rw [hnets] at h; cases h
    pairs := Finset.empty_subset _
    inbox := fun _ _ => rfl
    responses := fun _ _ => rfl
    inviteInbox := rfl
    rbacPreAssign := fun _ => rfl
    idpConfig := fun _ => rfl }

end Rendezvous.Persist

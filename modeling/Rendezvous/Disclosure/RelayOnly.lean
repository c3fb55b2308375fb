import Rendezvous.Disclosure.Handlers

/-!
# Nodes that are only reached through the relay

A node registered as relay-only is not to be reached at its own endpoint,
so no query should tell it. `relay_endpoint_hidden_iff` compares the answers
of two registries that differ in nothing but the addresses of such a node.
They are equal, but for two queries that give the address as it is: the
listing of a network, and a punch out of strict mode.
-/

namespace Rendezvous.Disclosure

open Base Registry Authz Trust Lifecycle

/-! ## Queries and answers -/

/-- A query about other nodes. -/
inductive Inquiry where
  | lookup (msg : Msg)
  | binaryLookup (payload : Bytes)
  | resolve (msg : Msg)
  | binaryResolve (payload : Bytes)
  | resolveHostname (msg : Msg)
  | listNodes (msg : Msg)
  | punch (msg : Msg)

/-- An answer, in either encoding. -/
inductive Answer where
  | json (r : Except String Resp)
  | binary (f : Frame)

/-- The answer of the registry. `order` is the order it meets its records
in. -/
def respond (E : DirectoryEnv) (now : Time) (order : List NodeId) (l : Listings)
    (s : Server) : Inquiry → Answer
  | .lookup msg => .json (handleLookup E.toQueryEnv s msg)
  | .binaryLookup payload => .binary (handleBinaryLookup E s payload)
  | .resolve msg => .json (handleResolve E now s msg)
  | .binaryResolve payload => .binary (handleBinaryResolve E now s payload)
  | .resolveHostname msg => .json (handleResolveHostname E s msg)
  | .listNodes msg => .json (handleListNodes E now order l s msg).1
  | .punch msg => .json (handlePunch E s msg)

/-- The query carries the global admin token. -/
def Inquiry.HasAdminToken (E : DirectoryEnv) : Inquiry → Prop
  | .lookup msg | .resolve msg | .resolveHostname msg | .listNodes msg | .punch msg =>
    Authz.HasAdminToken E.toEnv msg
  | .binaryLookup _ | .binaryResolve _ => False

instance (E : DirectoryEnv) (q : Inquiry) : Decidable (q.HasAdminToken E) := by
  cases q <;> unfold Inquiry.HasAdminToken <;> infer_instance

/-- The same registry, with other addresses for one node. -/
def relocate (s : Server) (t : NodeId) (addr : String) (lans : List String) : Server :=
  { s with nodes := s.nodes.modify t fun n =>
    { n with realAddr := addr, lanAddrs := lans } }

/-! ## Where the endpoint is told -/

/-- The node is registered and signs the challenge. -/
def Signs (E : DirectoryEnv) (s : Server) (msg : Msg) (id : NodeId) (challenge : String) : Prop :=
  ∃ requester, s.nodes.get id = some requester ∧ msg.str "signature" ≠ "" ∧
    SignedBy E.toEnv requester.publicKey msg challenge

/-- A member of the network asks for its nodes. -/
def AsksAsMember (E : DirectoryEnv) (s : Server) (msg : Msg) (net : NetworkInfo) : Prop :=
  let requesterID := msg.jsonUint32 "requester_id"
  let netID := msg.jsonUint16 "network_id"
  Signs E s msg requesterID s!"list_nodes:{requesterID}:{netID}" ∧ requesterID ∈ net.members

/-- A network that lists the public node `t` is listed afresh. -/
def ListsEndpoint (E : DirectoryEnv) (now : Time) (l : Listings) (s : Server) (t : NodeId)
    (n : NodeInfo) (msg : Msg) : Prop :=
  let netID := msg.jsonUint16 "network_id"
  netID ≠ 0 ∧ (∀ listing ∈ l.perNet.get netID, listing.fresh now = false) ∧ n.isPublic = true ∧
    ∃ net, s.networks.get netID = some net ∧ t ∈ net.members ∧
      (E.strictDirectoryAuth = true → AsksAsMember E s msg net)

/-- Out of strict mode, a node asks for a punch between itself and
another. -/
def PunchesEndpoint (E : DirectoryEnv) (s : Server) (t : NodeId) (msg : Msg) : Prop :=
  let requesterID := msg.jsonUint32 "requester_id"
  let nodeA := msg.jsonUint32 "node_a"
  let nodeB := msg.jsonUint32 "node_b"
  E.strictDirectoryAuth = false ∧ (nodeA = t ∨ nodeB = t) ∧
    (requesterID = nodeA ∨ requesterID = nodeB) ∧
    Signs E s msg requesterID s!"punch:{nodeA}:{nodeB}" ∧
    (s.nodes.get nodeA).isSome ∧ (s.nodes.get nodeB).isSome

/-- The query is answered with the address of node `t` as it is. -/
def TellsEndpoint (E : DirectoryEnv) (now : Time) (l : Listings) (s : Server) (t : NodeId)
    (n : NodeInfo) : Inquiry → Prop
  | .listNodes msg => ListsEndpoint E now l s t n msg
  | .punch msg => PunchesEndpoint E s t msg
  | _ => False

/-! ## Records that differ in their addresses -/

/-- Two records are the same, or are of one relay-only node and differ in
its addresses. -/
inductive Relocated : NodeInfo → NodeInfo → Prop where
  | same (n : NodeInfo) : Relocated n n
  | moved (n : NodeInfo) (hrelay : n.relayOnly = true) (addr : String)
      (lans : List String) : Relocated n { n with realAddr := addr, lanAddrs := lans }

section

variable {s : Server} {t : NodeId} {n : NodeInfo} {addr : String} {lans : List String}

private theorem relocate_get_ne {j : NodeId} (hj : j ≠ t) :
    (relocate s t addr lans).nodes.get j = s.nodes.get j :=
  GoMap.get_modify_ne _ _ hj

theorem relocate_get_self (hn : s.nodes.get t = some n) : (relocate s t addr lans).nodes.get t =
      some { n with realAddr := addr, lanAddrs := lans } := by
  rw [relocate, GoMap.get_modify_self, hn]
  rfl

/-- What the two registries find under an id. -/
theorem relocate_rel (hn : s.nodes.get t = some n) (hrelay : n.relayOnly = true)
    (addr : String) (lans : List String) (j : NodeId) :
    Option.Rel Relocated (s.nodes.get j) ((relocate s t addr lans).nodes.get j) := by
  by_cases hj : j = t
  · subst hj
    rw [hn, relocate_get_self hn]
    exact .some (.moved n hrelay addr lans)
  · rw [relocate_get_ne hj]
    cases s.nodes.get j with
    | none => exact .none
    | some m => exact .some (.same m)

end

namespace Relocated

variable {m m' r r' : NodeInfo}

theorem publicKey (h : Relocated m m') : m'.publicKey = m.publicKey := by
  cases h <;> rfl

theorem isPublic (h : Relocated m m') : m'.isPublic = m.isPublic := by
  cases h <;> rfl

theorem networks (h : Relocated m m') : m'.networks = m.networks := by
  cases h <;> rfl

theorem sharesNetwork (hr : Relocated r r') (h : Relocated m m') :
    sharesNetwork r' m' = sharesNetwork r m := by
  unfold Disclosure.sharesNetwork
  rw [hr.networks, h.networks]

section

variable (h : Relocated m m')
include h

section

variable (E : DirectoryEnv) (now : Time) (id : NodeId)

theorem endpoint : endpoint E m' = endpoint E m := by
  cases h with
  | same => rfl
  | moved hrelay => simp [Disclosure.endpoint, hrelay]

theorem lanAddrsOf : lanAddrsOf m' = lanAddrsOf m := by
  cases h with
  | same => rfl
  | moved hrelay => simp [Disclosure.lanAddrsOf, hrelay]

theorem lookupResp (E : QueryEnv) (id : NodeId) : lookupResp E id m' = lookupResp E id m := by
  cases h with
  | same => rfl
  | moved hrelay =>
    simp only [Lifecycle.lookupResp, hrelay, if_true]
    rfl

theorem lookupReply : lookupReply E id m' = lookupReply E id m := by
  have hend := h.endpoint E
  cases h with
  | same => rfl
  | moved hrelay =>
    unfold Disclosure.lookupReply
    rw [hend]

theorem resolveResp : resolveResp E now id m' = resolveResp E now id m := by
  unfold Disclosure.resolveResp
  rw [h.endpoint E, h.lanAddrsOf]
  cases h <;> rfl

theorem resolveReply : resolveReply E now id m' = resolveReply E now id m := by
  unfold Disclosure.resolveReply
  rw [h.endpoint E, h.lanAddrsOf]
  cases h <;> rfl

end

end

end Relocated

/-! ## The queries that hide it -/

section

variable {s : Server} {t : NodeId} {n : NodeInfo} (hn : s.nodes.get t = some n)
  (hrelay : n.relayOnly = true) (addr : String) (lans : List String)

include hn hrelay

section

variable (E : DirectoryEnv) (now : Time) (payload : Bytes) (msg : Msg)

private theorem authorizeLookup_relocate (E : QueryEnv) (msg : Msg) (id : NodeId) {m m' : NodeInfo}
    (hm : Relocated m m') :
    Paired (· = ·) (fun _ _ => True) (authorizeLookup E s msg id m)
      (authorizeLookup E (relocate s t addr lans) msg id m') := by
  refine (paired_orFail (relocate_rel hn hrelay addr lans _) rfl).bind fun r r' hr => ?_
  simp only [hr.publicKey, hr.networks, hm.networks]
  exact Paired.refl (fun _ => rfl) (fun _ => trivial) _

private theorem handleLookup_relocate (E : QueryEnv) (msg : Msg) :
    handleLookup E s msg = handleLookup E (relocate s t addr lans) msg := by
  have hrecord : Paired (· = ·) Relocated (lookupRecord E s msg)
      (lookupRecord E (relocate s t addr lans) msg) := by
    refine (paired_orFail (relocate_rel hn hrelay addr lans _) rfl).bind fun m m' hm => ?_
    refine Paired.bind (R := fun _ _ => True) ?_ fun _ _ _ => .returned hm
    rw [hm.isPublic]
    split
    · exact authorizeLookup_relocate hn hrelay addr lans E msg _ hm
    · exact .returned trivial
  exact (hrecord.map fun m m' hm => (hm.lookupResp E _).symm).eq

private theorem handleBinaryLookup_relocate :
    handleBinaryLookup E s payload = handleBinaryLookup E (relocate s t addr lans) payload := by
  have hrecord : Paired (· = ·) (fun p q => p.1 = q.1 ∧ Relocated p.2 q.2)
      (binaryLookupRecord E s payload)
      (binaryLookupRecord E (relocate s t addr lans) payload) := by
    refine (Paired.refl (fun _ => rfl) (fun _ => rfl) _).bind fun id id' hid => ?_
    subst hid
    refine (paired_orFail (relocate_rel hn hrelay addr lans _) rfl).bind fun m m' hm => ?_
    rw [hm.isPublic]
    exact (paired_require rfl rfl).bind fun _ _ _ => .returned ⟨rfl, hm⟩
  refine frameOf_eq hrecord fun p q hpq => ?_
  simp only [hpq.1, hpq.2.lookupReply E]

private theorem handleResolve_relocate :
    handleResolve E now s msg = handleResolve E now (relocate s t addr lans) msg := by
  have hrecord : Paired (· = ·) Relocated (resolveRecord E s msg)
      (resolveRecord E (relocate s t addr lans) msg) := by
    refine (paired_orFail (relocate_rel hn hrelay addr lans _) rfl).bind fun r r' hr => ?_
    rw [hr.publicKey]
    refine (Paired.refl (fun _ => rfl) (fun _ => rfl) _).bind fun _ _ _ => ?_
    refine (paired_orFail (relocate_rel hn hrelay addr lans _) rfl).bind fun m m' hm => ?_
    rw [hm.isPublic, hr.sharesNetwork hm]
    exact (paired_require rfl rfl).bind fun _ _ _ => .returned hm
  exact (hrecord.map fun m m' hm => (hm.resolveResp E now _).symm).eq

private theorem handleBinaryResolve_relocate :
    handleBinaryResolve E now s payload =
      handleBinaryResolve E now (relocate s t addr lans) payload := by
  have hrecord : Paired (· = ·) (fun p q => p.1 = q.1 ∧ Relocated p.2 q.2)
      (binaryResolveRecord E s payload)
      (binaryResolveRecord E (relocate s t addr lans) payload) := by
    refine (Paired.refl (fun _ => rfl) (fun _ => rfl) _).bind fun req req' hreq => ?_
    subst hreq
    refine (paired_orFail (relocate_rel hn hrelay addr lans _) rfl).bind fun r r' hr => ?_
    rw [hr.publicKey]
    refine (Paired.refl (fun _ => rfl) (fun _ => rfl) _).bind fun _ _ _ => ?_
    refine (paired_orFail (relocate_rel hn hrelay addr lans _) rfl).bind fun m m' hm => ?_
    rw [hm.isPublic, hr.sharesNetwork hm]
    exact (paired_require rfl rfl).bind fun _ _ _ => .returned ⟨rfl, hm⟩
  refine frameOf_eq hrecord fun p q hpq => ?_
  simp only [hpq.1, hpq.2.resolveReply E now]

private theorem handleResolveHostname_relocate :
    handleResolveHostname E s msg = handleResolveHostname E (relocate s t addr lans) msg := by
  have hauth : ∀ hostname nodeID m m', Relocated m m' → Paired (· = ·) (fun _ _ => True)
      (authorizeHostname E s msg hostname nodeID m)
      (authorizeHostname E (relocate s t addr lans) msg hostname nodeID m') := by
    intro hostname nodeID m m' hm
    have hrel := relocate_rel hn hrelay addr lans (msg.jsonUint32 "requester_id")
    refine Paired.bind (R := fun _ _ => True) ?_ fun _ _ _ => paired_require ?_ rfl
    · split
      · refine (paired_orFail hrel rfl).bind fun r r' hr => ?_
        rw [hr.publicKey]
        exact Paired.refl (fun _ => rfl) (fun _ => trivial) _
      · exact .returned trivial
    · congr 1
      generalize s.nodes.get (msg.jsonUint32 "requester_id") = x at hrel ⊢
      generalize (relocate s t addr lans).nodes.get (msg.jsonUint32 "requester_id") = y
        at hrel ⊢
      cases hrel with
      | none => rfl
      | some hr => simp only [Option.any_some, hr.sharesNetwork hm]
  have hrecord : Paired (· = ·) (fun p q => p.1 = q.1 ∧ Relocated p.2 q.2)
      (resolveHostnameRecord E s msg)
      (resolveHostnameRecord E (relocate s t addr lans) msg) := by
    refine (Paired.refl (fun _ => rfl) (fun _ => rfl) _).bind fun _ _ _ => ?_
    refine (Paired.refl (fun _ => rfl) (fun _ => rfl) _).bind fun id id' hid => ?_
    subst hid
    refine (paired_orFail (relocate_rel hn hrelay addr lans _) rfl).bind fun m m' hm => ?_
    refine Paired.bind (R := fun _ _ => True) ?_ fun _ _ _ => .returned ⟨rfl, hm⟩
    rw [hm.isPublic]
    split
    · exact .returned trivial
    · exact hauth _ _ _ _ hm
  refine (hrecord.map fun p q hpq => ?_).eq
  obtain ⟨id, m⟩ := p
  obtain ⟨id', m'⟩ := q
  obtain ⟨rfl, hm⟩ := hpq
  cases hm <;> rfl

/-! ## The listing of a network -/

private theorem requireNetworkMembership_relocate (netID : NetId) :
    requireNetworkMembership E s msg netID =
      requireNetworkMembership E (relocate s t addr lans) msg netID := by
  refine Paired.eq ?_
  refine (paired_orFail (relocate_rel hn hrelay addr lans _) rfl).bind fun r r' hr => ?_
  rw [hr.publicKey]
  exact Paired.refl (fun _ => rfl) (fun _ => rfl) _

end

omit hn hrelay in
private theorem memberEntry_relocate_iff (E : DirectoryEnv) (netID : NetId) (net : NetworkInfo) :
    memberEntry E netID net t n =
        memberEntry E netID net t { n with realAddr := addr, lanAddrs := lans } ↔
      (n.isPublic = true → addr = n.realAddr) := by
  unfold memberEntry
  cases hpublic : n.isPublic with
  | false =>
    simp only [Bool.false_eq_true, false_imp_iff, iff_true]
    rfl
  | true =>
    simp only [Json.obj.injEq, List.flatten_cons, fieldsIf, if_true, true_imp_iff]
    refine Iff.trans ?_ eq_comm
    constructor
    · intro h
      iterate 4 replace h := List.append_cancel_left h
      simpa using List.append_inj_left' h rfl
    · intro h
      rw [h]
      rfl

omit hrelay in
private theorem memberEntries_relocate_iff (E : DirectoryEnv) (netID : NetId) (net : NetworkInfo) :
    memberEntries E s netID net = memberEntries E (relocate s t addr lans) netID net ↔
      (t ∈ net.members → n.isPublic = true → addr = n.realAddr) := by
  unfold memberEntries
  rw [List.map_inj_left, ← memberEntry_relocate_iff addr lans E netID net]
  constructor
  · intro h hmem
    have hentry := h t hmem
    rwa [relocate_get_self hn, hn] at hentry
  · intro h j hj
    by_cases hjt : j = t
    · subst hjt
      rw [relocate_get_self hn, hn]
      exact h hj
    · rw [relocate_get_ne hjt]

omit hn hrelay in
private theorem requireNetworkMembership_ok (E : DirectoryEnv) (msg : Msg) :
    requireNetworkMembership E s msg (msg.jsonUint16 "network_id") = .ok () ↔
      ∃ net, s.networks.get (msg.jsonUint16 "network_id") = some net ∧
        AsksAsMember E s msg net := by
  simp only [requireNetworkMembership, bind_eq_ok, orFail_eq_ok, require_eq_ok,
    List.contains_iff_mem, AsksAsMember, Signs]
  constructor
  · rintro ⟨r, hr, ⟨⟩, hsig, net, hnet, hmem⟩
    exact ⟨net, hnet, ⟨r, hr, (verifyNodeSignature_ok ..).mp hsig⟩, hmem⟩
  · rintro ⟨net, hnet, ⟨r, hr, hsig⟩, hmem⟩
    exact ⟨r, hr, (), (verifyNodeSignature_ok ..).mpr hsig, net, hnet, hmem⟩

omit hrelay in
/-- The listing of a network, for a caller who may have it. -/
theorem perNetwork_relocate_iff (E : DirectoryEnv) (now : Time) (l : Listings)
    (netID : NetId) :
    (perNetworkListNodesCached E now l s netID).1 =
        (perNetworkListNodesCached E now l (relocate s t addr lans) netID).1 ↔
      addr = n.realAddr ∨ ¬ ((∀ listing ∈ l.perNet.get netID, listing.fresh now = false) ∧
        n.isPublic = true ∧ ∃ net, s.networks.get netID = some net ∧ t ∈ net.members) := by
  unfold perNetworkListNodesCached
  cases hcached : (l.perNet.get netID).filter (Listing.fresh now) with
  | some listing =>
    obtain ⟨hget, hfresh⟩ := Option.filter_eq_some_iff.mp hcached
    simp [hget, hfresh]
  | none =>
    have hstale : ∀ listing ∈ l.perNet.get netID, listing.fresh now = false := by
      intro listing hget
      simpa using Option.filter_eq_none_iff.mp hcached listing hget
    have hnets : (relocate s t addr lans).networks = s.networks := rfl
    rw [hnets]
    cases hnet : s.networks.get netID with
    | none => simp
    | some net =>
      simp only [Except.ok.injEq, wrapListNodesBody, List.cons.injEq, Prod.mk.injEq,
        Json.arr.injEq, true_and, and_true]
      rw [memberEntries_relocate_iff hn addr lans E netID net]
      constructor
      · intro h
        refine or_iff_not_imp_left.mpr fun haddr => ?_
        rintro ⟨-, hpublic, net', hnet', hmem⟩
        cases hnet'
        exact haddr (h hmem hpublic)
      · rintro (haddr | hnot) hmem hpublic
        · exact haddr
        · exact absurd ⟨hstale, hpublic, net, rfl, hmem⟩ hnot

private theorem handleListNodes_relocate_iff (E : DirectoryEnv) (now : Time) (order : List NodeId)
    (l : Listings) (msg : Msg) (hadmin : ¬ HasAdminToken E.toEnv msg) :
    (handleListNodes E now order l s msg).1 =
        (handleListNodes E now order l (relocate s t addr lans) msg).1 ↔
      addr = n.realAddr ∨ ¬ ListsEndpoint E now l s t n msg := by
  unfold handleListNodes ListsEndpoint
  simp only
  split
  · next hzero =>
    have herror : ∃ e, requireAdminToken E.toEnv msg = .error e := by
      cases h : requireAdminToken E.toEnv msg with
      | error e => exact ⟨e, rfl⟩
      | ok u => exact absurd ((requireAdminToken_ok E.toEnv msg).mp h) hadmin
    obtain ⟨e, herror⟩ := herror
    simp [herror, hzero]
  · next hne =>
    rw [← requireNetworkMembership_relocate hn hrelay addr lans E msg]
    cases hcheck : (if E.strictDirectoryAuth then
        requireNetworkMembership E s msg (msg.jsonUint16 "network_id") else .ok ()) with
    | error e =>
      refine iff_of_true rfl (Or.inr ?_)
      rintro ⟨-, -, -, net, hnet, -, hasks⟩
      split at hcheck
      · next hstrict =>
        rw [(requireNetworkMembership_ok E msg).mpr ⟨net, hnet, hasks hstrict⟩] at hcheck
        cases hcheck
      · cases hcheck
    | ok u =>
      rw [perNetwork_relocate_iff hn addr lans E now l]
      refine or_congr_right (not_congr ⟨?_, ?_⟩)
      · rintro ⟨hstale, hpublic, net, hnet, hmem⟩
        refine ⟨hne, hstale, hpublic, net, hnet, hmem, fun hstrict => ?_⟩
        rw [if_pos hstrict] at hcheck
        obtain ⟨net', hnet', hasks⟩ := (requireNetworkMembership_ok E msg).mp hcheck
        cases hnet.symm.trans hnet'
        exact hasks
      · rintro ⟨-, hstale, hpublic, net, hnet, hmem, -⟩
        exact ⟨hstale, hpublic, net, hnet, hmem⟩

/-! ## A punch -/

private theorem admitPunch_relocate (E : DirectoryEnv) (msg : Msg) :
    admitPunch E s msg = admitPunch E (relocate s t addr lans) msg := by
  refine Paired.eq ?_
  refine (Paired.refl (fun _ => rfl) (fun _ => rfl) _).bind fun _ _ _ => ?_
  refine (paired_orFail (relocate_rel hn hrelay addr lans _) rfl).bind fun r r' hr => ?_
  rw [hr.publicKey]
  exact Paired.refl (fun _ => rfl) (fun _ => rfl) _

omit hn hrelay in
private theorem admitPunch_ok (E : DirectoryEnv) (msg : Msg) : admitPunch E s msg = .ok () ↔
      (msg.jsonUint32 "requester_id" = msg.jsonUint32 "node_a" ∨
        msg.jsonUint32 "requester_id" = msg.jsonUint32 "node_b") ∧
      Signs E s msg (msg.jsonUint32 "requester_id")
        (let nodeA := msg.jsonUint32 "node_a"
        let nodeB := msg.jsonUint32 "node_b"
        s!"punch:{nodeA}:{nodeB}") ∧
      (E.strictDirectoryAuth = true →
        isTrusted s.trust (msg.jsonUint32 "node_a") (msg.jsonUint32 "node_b") = true) := by
  simp only [admitPunch, bind_eq_ok, orFail_eq_ok, require_eq_ok, Signs, Bool.or_eq_true,
    decide_eq_true_eq, Bool.not_eq_true']
  constructor
  · rintro ⟨-, hpart, r, hr, ⟨⟩, hsig, htrust⟩
    refine ⟨hpart, ⟨r, hr, (verifyNodeSignature_ok ..).mp hsig⟩, fun hstrict => ?_⟩
    simpa [hstrict] using htrust
  · rintro ⟨hpart, ⟨r, hr, hsig⟩, htrust⟩
    refine ⟨(), hpart, r, hr, (), (verifyNodeSignature_ok ..).mpr hsig, ?_⟩
    cases hstrict : E.strictDirectoryAuth with
    | false => exact Or.inl rfl
    | true => exact Or.inr (htrust hstrict)

theorem nodeAddr_relocate (E : DirectoryEnv) (j : NodeId) : nodeAddr E (relocate s t addr lans) j =
      if E.strictDirectoryAuth = false ∧ j = t then some addr else nodeAddr E s j := by
  unfold nodeAddr
  by_cases hj : j = t
  · subst hj
    rw [relocate_get_self hn, hn]
    cases hstrict : E.strictDirectoryAuth <;> simp [hrelay]
  · rw [relocate_get_ne hj, if_neg fun h => hj h.2]

private theorem nodeAddr_relocate_iff (E : DirectoryEnv) (j : NodeId) :
    nodeAddr E s j = nodeAddr E (relocate s t addr lans) j ↔
      (E.strictDirectoryAuth = false → j = t → addr = n.realAddr) := by
  rw [nodeAddr_relocate hn hrelay addr lans E j]
  by_cases h : E.strictDirectoryAuth = false ∧ j = t
  · obtain ⟨hstrict, rfl⟩ := h
    rw [if_pos ⟨hstrict, rfl⟩]
    simp [nodeAddr, hn, hstrict, eq_comm]
  · rw [if_neg h]
    exact iff_of_true rfl fun hstrict hj => absurd ⟨hstrict, hj⟩ h

private theorem nodeAddr_isSome_relocate (E : DirectoryEnv) (j : NodeId) :
    (nodeAddr E (relocate s t addr lans) j).isSome = (s.nodes.get j).isSome := by
  rw [nodeAddr_relocate hn hrelay addr lans E j]
  split
  · next h => rw [h.2, hn, Option.isSome_some, Option.isSome_some]
  · simp [nodeAddr]

omit hn hrelay in
/-- Two punches answer alike where they find the same addresses, if they
find both. -/
theorem punch_eq_iff {nodeA nodeB : NodeId} {a b a' b' : Option String}
    (ha : a'.isSome = a.isSome) (hb : b'.isSome = b.isSome) :
    (do let addrA ← orFail a (punchNotFound nodeA)
        let addrB ← orFail b (punchNotFound nodeB)
        return punchResp nodeA nodeB addrA addrB) =
      (do let addrA ← orFail a' (punchNotFound nodeA)
          let addrB ← orFail b' (punchNotFound nodeB)
          return punchResp nodeA nodeB addrA addrB) ↔
      (a.isSome → b.isSome → a = a' ∧ b = b') := by
  cases a with
  | none =>
    have hnone : a' = none := by simpa using ha
    rw [hnone]
    exact iff_of_true rfl fun h => by cases h
  | some addrA =>
    obtain ⟨addrA', rfl⟩ := Option.isSome_iff_exists.mp (ha.trans rfl)
    cases b with
    | none =>
      have hnone : b' = none := by simpa using hb
      rw [hnone]
      exact iff_of_true rfl fun _ h => by cases h
    | some addrB =>
      obtain ⟨addrB', rfl⟩ := Option.isSome_iff_exists.mp (hb.trans rfl)
      simp [orFail, punchResp, pure, Except.pure, bind, Except.bind]

private theorem handlePunch_relocate_iff (E : DirectoryEnv) (msg : Msg) :
    handlePunch E s msg = handlePunch E (relocate s t addr lans) msg ↔
      addr = n.realAddr ∨ ¬ PunchesEndpoint E s t msg := by
  unfold handlePunch PunchesEndpoint
  simp only
  rw [← admitPunch_relocate hn hrelay addr lans E msg]
  generalize hA : msg.jsonUint32 "node_a" = nodeA
  generalize hB : msg.jsonUint32 "node_b" = nodeB
  cases hadm : admitPunch E s msg with
  | error e =>
    refine iff_of_true rfl (Or.inr ?_)
    rintro ⟨hstrict, -, hpart, hsigns, -, -⟩
    have hok := (admitPunch_ok E msg).mpr (by
      rw [hA, hB]
      exact ⟨hpart, hsigns, fun h => by rw [hstrict] at h; cases h⟩)
    rw [hok] at hadm
    cases hadm
  | ok u =>
    obtain ⟨hpart, hsigns, -⟩ := (admitPunch_ok E msg).mp hadm
    rw [hA, hB] at hpart hsigns
    have hsome : ∀ j, (nodeAddr E s j).isSome = (s.nodes.get j).isSome := by
      intro j
      simp [nodeAddr]
    refine (punch_eq_iff
      ((nodeAddr_isSome_relocate hn hrelay addr lans E nodeA).trans (hsome nodeA).symm)
      ((nodeAddr_isSome_relocate hn hrelay addr lans E nodeB).trans (hsome nodeB).symm)).trans ?_
    rw [hsome, hsome, nodeAddr_relocate_iff hn hrelay addr lans E,
      nodeAddr_relocate_iff hn hrelay addr lans E]
    constructor
    · intro h
      refine or_iff_not_imp_left.mpr fun haddr => ?_
      rintro ⟨hstrict, hin, -, -, hfoundA, hfoundB⟩
      obtain ⟨ha, hb⟩ := h hfoundA hfoundB
      exact hin.elim (fun hj => haddr (ha hstrict hj)) fun hj => haddr (hb hstrict hj)
    · rintro (haddr | hnot) hfoundA hfoundB
      · exact ⟨fun _ _ => haddr, fun _ _ => haddr⟩
      · have hall : ∀ j, (nodeA = t ∨ nodeB = t) → E.strictDirectoryAuth = false →
            j = t → addr = n.realAddr := fun j hin hstrict _ =>
          absurd ⟨hstrict, hin, hpart, hsigns, hfoundA, hfoundB⟩ hnot
        exact ⟨fun hstrict hj => hall nodeA (Or.inl hj) hstrict hj,
          fun hstrict hj => hall nodeB (Or.inr hj) hstrict hj⟩

/-- Two registries that differ in nothing but the addresses of a relay-only
node give the same answer to a query without the admin token, unless the
query is one of the two that tell the endpoint and the endpoints differ. -/
theorem relay_endpoint_hidden_iff (E : DirectoryEnv) (now : Time) (order : List NodeId)
    (l : Listings) (q : Inquiry) (hadmin : ¬ q.HasAdminToken E) :
    respond E now order l s q = respond E now order l (relocate s t addr lans) q ↔
      addr = n.realAddr ∨ ¬ TellsEndpoint E now l s t n q := by
  cases q with
  | lookup msg =>
    exact iff_of_true (congrArg Answer.json (handleLookup_relocate hn hrelay addr lans ..))
      (Or.inr id)
  | binaryLookup payload =>
    exact iff_of_true (congrArg Answer.binary (handleBinaryLookup_relocate hn hrelay addr lans ..))
      (Or.inr id)
  | resolve msg =>
    exact iff_of_true (congrArg Answer.json (handleResolve_relocate hn hrelay addr lans ..))
      (Or.inr id)
  | binaryResolve payload =>
    exact iff_of_true (congrArg Answer.binary (handleBinaryResolve_relocate hn hrelay addr lans ..))
      (Or.inr id)
  | resolveHostname msg =>
    exact iff_of_true (congrArg Answer.json (handleResolveHostname_relocate hn hrelay addr lans ..))
      (Or.inr id)
  | listNodes msg =>
    simp only [respond, Answer.json.injEq]
    exact handleListNodes_relocate_iff hn hrelay addr lans E now order l msg hadmin
  | punch msg =>
    simp only [respond, Answer.json.injEq]
    exact handlePunch_relocate_iff hn hrelay addr lans E msg

end

/-! ## A relay-only node in a network -/

/-- Nodes 1 and 2 are members of network 5. Node 1 is public and only
reached through the relay; its own address is `addr`. -/
def relayed (addr : String) : Server where
  nodes := .ofList [
    (1, { publicKey := [0, 0, 0], realAddr := addr, networks := [0, 5], isPublic := true
          relayOnly := true }),
    (2, { publicKey := [4, 16, 65], realAddr := "b:2", networks := [0, 5] })]
  networks := .ofList [(5, { name := "net", joinRule := "open", members := [1, 2] })]

/-- Node 2 asks for a punch between itself and node 1. -/
def punchesOne : Msg :=
  [("requester_id", .num 2), ("node_a", .num 2), ("node_b", .num 1), ("signature", .str "BBBB")]

theorem relay_endpoint_hidden_resolved :
    let q := Inquiry.resolve [("node_id", .num 1), ("requester_id", .num 2),
      ("signature", .str "BBBB")]
    respond (.plain true) 0 [1, 2] {} (relayed "a:1") q =
        respond (.plain true) 0 [1, 2] {} (relocate (relayed "a:1") 1 "a:9" []) q ∧
      ((handleResolve (.plain true) 0 (relayed "a:1") [("node_id", .num 1),
        ("requester_id", .num 2), ("signature", .str "BBBB")]).toOption.map
          fun r => Msg.str r "real_addr") = some "relay:1" :=
  ⟨(relay_endpoint_hidden_iff (s := relayed "a:1") (t := 1) rfl rfl "a:9" [] (.plain true) 0
    [1, 2] {} _ (by decide)).mpr (Or.inr id), by decide +kernel⟩

/-- Out of strict mode, a stranger lists network 5, and node 2 asks for a
punch: each answer has the address of node 1. -/
theorem relay_endpoint_told : ¬ ((handleListNodes (.plain false) 0 [1, 2] {} (relayed "a:1")
        [("network_id", .num 5)]).1 =
      (handleListNodes (.plain false) 0 [1, 2] {} (relocate (relayed "a:1") 1 "a:9" [])
        [("network_id", .num 5)]).1) ∧
    ((handlePunch (.plain false) (relayed "a:1") punchesOne).toOption.map
        fun r => Msg.str r "node_b_addr") = some "a:1" ∧
    ((handlePunch (.plain false) (relocate (relayed "a:1") 1 "a:9" [])
        punchesOne).toOption.map fun r => Msg.str r "node_b_addr") = some "a:9" := by
  refine ⟨fun h => ?_, by decide +kernel, by decide +kernel⟩
  rcases (handleListNodes_relocate_iff (s := relayed "a:1") (t := 1) rfl rfl "a:9" []
    (.plain false) 0 [1, 2] {} [("network_id", .num 5)] (by decide)).mp h with haddr | hnot
  · exact absurd haddr (by decide)
  · have hlists : ListsEndpoint (.plain false) 0 {} (relayed "a:1") 1
        { publicKey := [0, 0, 0], realAddr := "a:1", networks := [0, 5], isPublic := true
          relayOnly := true } [("network_id", .num 5)] := by
      refine ⟨by decide, ?_, rfl, _, rfl, by decide, ?_⟩
      · intro listing hlisting
        cases hlisting
      · intro hstrict
        cases hstrict
    exact hnot hlists

end Rendezvous.Disclosure

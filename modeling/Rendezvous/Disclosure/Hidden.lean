import Rendezvous.Disclosure.Decisions

/-!
# Nodes that cannot be detected

In strict mode a caller that may not reach a private node is to get the
answers it would get if the node were not there. `hidden_node_undetectable`
compares two registries that differ in such a node in any way: it is there
in one and not in the other, or has other contents, hostnames and trust
pairs.

The verification endpoint answers every failure alike, with a verdict that
says nothing but what was asked: `verify_failures_uniform`.
-/

namespace Rendezvous.Disclosure

open Base Registry Authz Trust Lifecycle

variable {msg : Msg} {payload : Bytes}

/-- The two registries differ in nothing these queries read but node `t`:
its record, the hostnames that lead to it and its trust pairs. -/
structure AgreeOff (t : NodeId) (s s' : Server) : Prop where
  nodes : ∀ j, j ≠ t → s.nodes.get j = s'.nodes.get j
  hostnames : ∀ h j, j ≠ t → (s.hostnameIdx.get h = some j ↔ s'.hostnameIdx.get h = some j)
  trust : ∀ a b, a ≠ t → b ≠ t → isTrusted s.trust a b = isTrusted s'.trust a b

/-- Node `t` is private, if it is there, and node `r` may not reach it. -/
structure HiddenFrom (r t : NodeId) (s : Server) : Prop where
  isPrivate : ∀ n, s.nodes.get t = some n → n.isPublic = false
  untrusted : isTrusted s.trust r t = false
  apart : ∀ requester n, s.nodes.get r = some requester → s.nodes.get t = some n →
    sharesNetwork requester n = false

/-- Every hostname leads to a registered node. -/
def HostnamesLead (s : Server) : Prop :=
  ∀ h j, s.hostnameIdx.get h = some j → ∃ n, s.nodes.get j = some n

/-- A query of one of the five kinds, by node `r`. A binary lookup does not
say whom it is from. -/
def Inquiry.By (E : DirectoryEnv) (r : NodeId) : Inquiry → Prop
  | .lookup msg | .resolve msg | .resolveHostname msg => msg.jsonUint32 "requester_id" = r
  | .binaryLookup _ => True
  | .binaryResolve payload => ∀ id requester sig,
      E.decodeResolveReq payload = .ok (id, requester, sig) → requester = r
  | .listNodes _ | .punch _ => False

/-! ## A query about the hidden node -/

section

variable {E : DirectoryEnv} {s s' : Server} {r t : NodeId}

section

variable (hstrict : E.strictDirectoryAuth = true)
include hstrict

theorem lookup_hidden (h : HiddenFrom r t s) (hr : msg.jsonUint32 "requester_id" = r)
    (ht : msg.jsonUint32 "node_id" = t) :
    lookupRecord E.toQueryEnv s msg = .error (nodeNotFound t) := by
  unfold lookupRecord authorizeLookup
  simp only [hr, ht]
  cases hn : s.nodes.get t with
  | none => rfl
  | some n =>
    simp only [orFail_some, ok_bind, hstrict, h.isPrivate n hn, Bool.not_false,
      Bool.and_self, if_true]
    cases hreq : s.nodes.get r with
    | none => rfl
    | some requester =>
      have hdenied : (isTrusted s.trust r t || requester.networks.any fun netID =>
          netID ≠ 0 && n.networks.contains netID) = false := by
        rw [h.untrusted]
        exact h.apart requester n hreq hn
      simp only [orFail_some, ok_bind, hdenied]
      split <;> rfl

theorem binaryLookup_hidden (h : HiddenFrom r t s) (ht : E.decodeLookupReq payload = .ok t) :
    binaryLookupRecord E s payload = .error (notFoundText t) := by
  unfold binaryLookupRecord
  rw [ht, ok_bind]
  cases hn : s.nodes.get t with
  | none => rfl
  | some n =>
    simp only [orFail_some, ok_bind, hstrict, h.isPrivate n hn]
    rfl

theorem resolveHostname_hidden (h : HiddenFrom r t s) (hne : r ≠ t) (hlead : HostnamesLead s)
    (hr : msg.jsonUint32 "requester_id" = r) (hname : msg.str "hostname" ≠ "")
    (hidx : s.hostnameIdx.get (msg.str "hostname") = some t ∨
      s.hostnameIdx.get (msg.str "hostname") = none) :
    resolveHostnameRecord E s msg = .error (hostnameNotFound (msg.str "hostname")) := by
  have hnamed : require (decide (msg.str "hostname" ≠ "")) "hostname required" = .ok () := by
    rw [require_eq_ok, decide_eq_true_eq]
    exact hname
  unfold resolveHostnameRecord
  simp only [hnamed, ok_bind]
  rcases hidx with hidx | hidx
  · obtain ⟨n, hn⟩ := hlead _ _ hidx
    simp only [hidx, hn, orFail_some, ok_bind, h.isPrivate n hn, Bool.false_eq_true, if_false,
      authorizeHostname, hstrict, if_true, hr, hne, decide_false, h.untrusted, Bool.false_or]
    cases hreq : s.nodes.get r with
    | none => rfl
    | some requester =>
      simp only [orFail_some, ok_bind, Option.any_some, h.apart requester n hreq hn]
      cases verifyNodeSignature E.toEnv (some requester.publicKey) E.adminToken msg _ <;> rfl
  · rw [hidx]
    rfl

/-- A resolve tells a requester that signs that the node is not there. -/
theorem resolve_hidden (h : HiddenFrom r t s) (hr : msg.jsonUint32 "requester_id" = r)
    (ht : msg.jsonUint32 "node_id" = t) :
    resolveRecord E s msg = (orFail (s.nodes.get r) (notRegistered r) >>= fun requester =>
      verifyNodeSignature E.toEnv (some requester.publicKey) E.adminToken msg
        (resolveChallenge r t) >>= fun _ => .error (nodeNotFound t)) := by
  unfold resolveRecord
  simp only [hr, ht]
  cases hreq : s.nodes.get r with
  | none => rfl
  | some requester =>
    simp only [orFail_some, ok_bind]
    congr 1
    funext _
    cases hn : s.nodes.get t with
    | none => rfl
    | some n =>
      simp only [orFail_some, ok_bind, h.isPrivate n hn, h.untrusted,
        h.apart requester n hreq hn, hstrict, if_true]
      rfl

theorem binaryResolve_hidden (h : HiddenFrom r t s) {sig : Bytes}
    (hdec : E.decodeResolveReq payload = .ok (t, r, sig)) :
    binaryResolveRecord E s payload = (orFail (s.nodes.get r) (notRegistered r) >>= fun requester =>
        require (E.verifyCached requester.publicKey (utf8 (resolveChallenge r t)) sig)
          "signature verification failed" >>= fun _ => .error (notFoundText t)) := by
  unfold binaryResolveRecord
  simp only [hdec, ok_bind]
  cases hreq : s.nodes.get r with
  | none => rfl
  | some requester =>
    simp only [orFail_some, ok_bind]
    congr 1
    funext _
    cases hn : s.nodes.get t with
    | none => rfl
    | some n =>
      simp only [orFail_some, ok_bind, h.isPrivate n hn, h.untrusted,
        h.apart requester n hreq hn, hstrict, if_true]
      rfl

end

/-! ## The five queries in two registries -/

section

variable (hrt : r ≠ t) (h : AgreeOff t s s') (hstrict : E.strictDirectoryAuth = true)
  (hs : HiddenFrom r t s) (hs' : HiddenFrom r t s')

include hrt h hstrict hs hs'

theorem lookupRecord_agree (hr : msg.jsonUint32 "requester_id" = r) :
    lookupRecord E.toQueryEnv s msg = lookupRecord E.toQueryEnv s' msg := by
  by_cases ht : msg.jsonUint32 "node_id" = t
  · rw [lookup_hidden hstrict hs hr ht, lookup_hidden hstrict hs' hr ht]
  · simp only [lookupRecord, authorizeLookup, hr, h.nodes _ ht, h.nodes r hrt, h.trust _ _ hrt ht]

omit hrt in
theorem binaryLookupRecord_agree (payload : Bytes) :
    binaryLookupRecord E s payload = binaryLookupRecord E s' payload := by
  cases hdec : E.decodeLookupReq payload with
  | error e => simp only [binaryLookupRecord, hdec, error_bind]
  | ok id =>
    by_cases ht : id = t
    · rw [ht] at hdec
      rw [binaryLookup_hidden hstrict hs hdec, binaryLookup_hidden hstrict hs' hdec]
    · simp only [binaryLookupRecord, hdec, ok_bind, h.nodes _ ht]

theorem resolveRecord_agree (hr : msg.jsonUint32 "requester_id" = r) :
    resolveRecord E s msg = resolveRecord E s' msg := by
  by_cases ht : msg.jsonUint32 "node_id" = t
  · rw [resolve_hidden hstrict hs hr ht, resolve_hidden hstrict hs' hr ht, h.nodes r hrt]
  · simp only [resolveRecord, hr, h.nodes _ ht, h.nodes r hrt, h.trust _ _ hrt ht]

theorem binaryResolveRecord_agree
    (hr : ∀ id requester sig, E.decodeResolveReq payload = .ok (id, requester, sig) →
      requester = r) :
    binaryResolveRecord E s payload = binaryResolveRecord E s' payload := by
  cases hdec : E.decodeResolveReq payload with
  | error e => simp only [binaryResolveRecord, hdec, error_bind]
  | ok req =>
    obtain ⟨id, requester, sig⟩ := req
    obtain rfl := hr _ _ _ hdec
    by_cases ht : id = t
    · rw [ht] at hdec
      rw [binaryResolve_hidden hstrict hs hdec, binaryResolve_hidden hstrict hs' hdec,
        h.nodes requester hrt]
    · simp only [binaryResolveRecord, hdec, ok_bind, h.nodes _ ht, h.nodes requester hrt,
        h.trust _ _ hrt ht]

theorem resolveHostnameRecord_agree (hlead : HostnamesLead s) (hlead' : HostnamesLead s')
    (hr : msg.jsonUint32 "requester_id" = r) :
    resolveHostnameRecord E s msg = resolveHostnameRecord E s' msg := by
  by_cases hname : msg.str "hostname" = ""
  · simp only [resolveHostnameRecord, hname]
    rfl
  -- the name leads to another node, to the same one in both, or hides `t` in both
  by_cases hother : ∃ j, j ≠ t ∧ s.hostnameIdx.get (msg.str "hostname") = some j
  · obtain ⟨j, hj, hidx⟩ := hother
    have hidx' := (h.hostnames _ j hj).mp hidx
    simp only [resolveHostnameRecord, authorizeHostname, hidx, hidx', orFail_some, ok_bind,
      hr, h.nodes j hj, h.nodes r hrt, h.trust r j hrt hj]
  · have hidden : ∀ o : Option NodeId, (∀ j, j ≠ t → o ≠ some j) → o = some t ∨ o = none := by
      intro o ho
      cases o with
      | none => exact .inr rfl
      | some j => exact .inl (by_contra fun hne => ho j (fun e => hne (by rw [e])) rfl)
    have hno : ∀ j, j ≠ t → s.hostnameIdx.get (msg.str "hostname") ≠ some j :=
      fun j hj hidx => hother ⟨j, hj, hidx⟩
    have hno' : ∀ j, j ≠ t → s'.hostnameIdx.get (msg.str "hostname") ≠ some j :=
      fun j hj hidx => hno j hj ((h.hostnames _ j hj).mpr hidx)
    rw [resolveHostname_hidden hstrict hs hrt hlead hr hname (hidden _ hno),
      resolveHostname_hidden hstrict hs' hrt hlead' hr hname (hidden _ hno')]

end

end

/-- In strict mode, a requester that may not reach a private node gets the
same answer to each of its lookups and resolves, whatever the registry has
of that node. -/
theorem hidden_node_undetectable (E : DirectoryEnv) (hstrict : E.strictDirectoryAuth = true)
    (now : Time) (order : List NodeId) (l : Listings) {s s' : Server} {r t : NodeId}
    (hrt : r ≠ t) (h : AgreeOff t s s') (hs : HiddenFrom r t s) (hs' : HiddenFrom r t s')
    (hlead : HostnamesLead s) (hlead' : HostnamesLead s') {q : Inquiry} (hq : q.By E r) :
    respond E now order l s q = respond E now order l s' q := by
  cases q with
  | lookup msg =>
    simp only [respond, handleLookup, lookupRecord_agree hrt h hstrict hs hs' hq]
  | binaryLookup payload =>
    simp only [respond, handleBinaryLookup, binaryLookupRecord_agree h hstrict hs hs']
  | resolve msg =>
    simp only [respond, handleResolve, resolveRecord_agree hrt h hstrict hs hs' hq]
  | binaryResolve payload =>
    simp only [respond, handleBinaryResolve, binaryResolveRecord_agree hrt h hstrict hs hs' hq]
  | resolveHostname msg =>
    simp only [respond, handleResolveHostname,
      resolveHostnameRecord_agree hrt h hstrict hs hs' hlead hlead' hq]
  | _ => exact hq.elim

/-- A registry of node 2 alone. -/
def alone : Server where
  nodes := (∅ : GoMap NodeId NodeInfo).set 2 { publicKey := [4, 16, 65], networks := [0, 5] }

/-- The same, with the private node 1 of hostname `a`. -/
def accompanied : Server :=
  { alone with
    nodes := alone.nodes.set 1 { publicKey := [0, 0, 0], hostname := "a", networks := [0, 6] }
    hostnameIdx := (∅ : GoMap String NodeId).set "a" 1 }

theorem agreeOff_accompanied : AgreeOff 1 accompanied alone where
  nodes := fun j hj => GoMap.get_set_ne _ _ hj
  hostnames := by
    intro h j hj
    simp only [accompanied, alone, GoMap.get_set, GoMap.get_empty]
    split <;> simp [Ne.symm hj]
  trust := fun _ _ _ _ => rfl

/-- Node 2 looks for the name of node 1, as if it had none. -/
theorem hidden_node_undetectable_named :
    let q := Inquiry.resolveHostname [("hostname", .str "a"), ("requester_id", .num 2),
      ("signature", .str "BBBB")]
    respond (.plain true) 0 [] {} accompanied q = respond (.plain true) 0 [] {} alone q := by
  refine hidden_node_undetectable (.plain true) rfl 0 [] {} (r := 2) (t := 1) (by decide)
    agreeOff_accompanied ⟨?_, rfl, ?_⟩ ⟨?_, rfl, ?_⟩ ?_ ?_ ?_
  · rintro n ⟨⟩
    rfl
  · rintro requester n ⟨⟩ ⟨⟩
    decide
  · rintro n ⟨⟩
  · rintro requester n - ⟨⟩
  · intro h j hj
    simp only [accompanied, GoMap.get_set, GoMap.get_empty] at hj
    split at hj
    · cases hj
      exact ⟨_, rfl⟩
    · cases hj
  · rintro h j ⟨⟩
  · change Msg.jsonUint32 _ "requester_id" = 2
    decide

/-! ## Failed verifications -/

/-- A verification that fails is answered from the envelope alone. -/
theorem verifyRecord_failed {E : QueryEnv} {now : Time} {s : Server} {canonical sig : String}
    {e : NetId × NodeId} (h : verifyRecord E now s canonical sig = .error e) :
    e = ((E.parseEnvelope canonical).map fun env => (env.network, env.node)).getD (0, 0) := by
  unfold verifyRecord at h
  cases henv : E.parseEnvelope canonical with
  | none =>
    simp only [henv, Except.error.injEq] at h
    exact h.symm
  | some env =>
    simp only [henv] at h
    split at h
    · exact (Except.error.inj h).symm
    · split at h
      · cases h
      · exact (Except.error.inj h).symm

theorem verifyRequest_failed {E : QueryEnv} {now : Time} {s : Server} {canonical sig : String}
    (h : (verifyRequest E now s canonical sig).valid = false) :
    ∃ e, verifyRecord E now s canonical sig = .error e := by
  cases hrec : verifyRecord E now s canonical sig with
  | error e => exact ⟨e, rfl⟩
  | ok pair =>
    simp only [verifyRequest, hrec, VerifyResponse.sign_valid, Bool.true_eq_false] at h

/-- Two verifications of one request that fail at one time have one
response, whatever is registered. -/
theorem verify_failures_uniform (E : QueryEnv) (now : Time) (canonical sig : String)
    (s s' : Server) (h : (verifyRequest E now s canonical sig).valid = false)
    (h' : (verifyRequest E now s' canonical sig).valid = false) :
    verifyRequest E now s canonical sig = verifyRequest E now s' canonical sig := by
  obtain ⟨e, he⟩ := verifyRequest_failed h
  obtain ⟨e', he'⟩ := verifyRequest_failed h'
  have hsame : e = e' := (verifyRecord_failed he).trans (verifyRecord_failed he').symm
  simp only [verifyRequest, he, he', hsame]

/-- The envelope names node 1, which is registered with a short key in one
registry and not at all in the other. -/
theorem verify_failures_uniform_unknown :
    verifyRequest .plain 0 accompanied "" "AAAA" = verifyRequest .plain 0 alone "" "AAAA" :=
  verify_failures_uniform .plain 0 "" "AAAA" accompanied alone (by decide) (by decide)

end Rendezvous.Disclosure

import Rendezvous.Disclosure.RelayOnly

/-!
# One rule, written five times

In strict mode a private node is disclosed to the nodes it trusts and to
those it shares a network with. `lookup`, the two encodings of `resolve`,
`resolve_hostname` and `punch` each decide for themselves.
`decisions_agree_iff` puts the five side by side: four of them follow the
rule, and a punch asks for trust alone.

The two encodings of `resolve` are compared further: whatever the mode, they
refuse together or answer with the same fields
(`resolve_encodings_agree`).
-/

namespace Rendezvous.Disclosure

open Base Registry Authz Trust Lifecycle

/-- The node is registered, and the challenge is signed in binary. -/
def SignsBinary (E : DirectoryEnv) (s : Server) (id : NodeId) (challenge : String)
    (sig : Bytes) : Prop :=
  ∃ requester, s.nodes.get id = some requester ∧
    E.verifyCached requester.publicKey (utf8 challenge) sig = true

/-- The five queries of node `r` about node `t`, each with a valid
signature. -/
structure Asks (E : DirectoryEnv) (s : Server) (r t : NodeId) where
  lookup : Msg
  lookup_ids : lookup.jsonUint32 "node_id" = t ∧ lookup.jsonUint32 "requester_id" = r
  lookup_signed : Signs E s lookup r s!"lookup:{r}:{t}"
  resolve : Msg
  resolve_ids : resolve.jsonUint32 "node_id" = t ∧ resolve.jsonUint32 "requester_id" = r
  resolve_signed : Signs E s resolve r (resolveChallenge r t)
  binary : Bytes
  sig : Bytes
  binary_ids : E.decodeResolveReq binary = .ok (t, r, sig)
  binary_signed : SignsBinary E s r (resolveChallenge r t) sig
  hostname : Msg
  hostname_requester : hostname.jsonUint32 "requester_id" = r
  hostname_named : hostname.str "hostname" ≠ "" ∧
    s.hostnameIdx.get (hostname.str "hostname") = some t
  hostname_signed : Signs E s hostname r s!"resolve_hostname:{r}"
  punch : Msg
  punch_ids : punch.jsonUint32 "requester_id" = r ∧ punch.jsonUint32 "node_a" = r ∧
    punch.jsonUint32 "node_b" = t
  punch_signed : Signs E s punch r s!"punch:{r}:{t}"

/-- Which of the five queries are answered. -/
def Asks.decisions {E : DirectoryEnv} {s : Server} {r t : NodeId} (a : Asks E s r t)
    (now : Time) : List Bool :=
  [(handleLookup E.toQueryEnv s a.lookup).isOk, (handleResolve E now s a.resolve).isOk,
    (handleBinaryResolve E now s a.binary).type = .resolveOK,
    (handleResolveHostname E s a.hostname).isOk, (handlePunch E s a.punch).isOk]

/-- The two nodes are a trust pair, or are both in a network other than the
backbone. -/
def MayReach (s : Server) (r t : NodeId) (requester n : NodeInfo) : Prop :=
  isTrusted s.trust r t = true ∨
    ∃ netID, netID ≠ 0 ∧ netID ∈ requester.networks ∧ netID ∈ n.networks

theorem sharesNetwork_iff (requester n : NodeInfo) : sharesNetwork requester n = true ↔
      ∃ netID, netID ≠ 0 ∧ netID ∈ requester.networks ∧ netID ∈ n.networks := by
  simp only [sharesNetwork, List.any_eq_true, Bool.and_eq_true, decide_eq_true_eq,
    List.contains_iff_mem]
  constructor
  · rintro ⟨netID, hmem, hne, hmem'⟩
    exact ⟨netID, hne, hmem, hmem'⟩
  · rintro ⟨netID, hne, hmem, hmem'⟩
    exact ⟨netID, hmem, hne, hmem'⟩

/-! ## The five decisions -/

section

variable {E : DirectoryEnv} {s : Server} {r t : NodeId} {requester n : NodeInfo}
  (hr : s.nodes.get r = some requester) (ht : s.nodes.get t = some n)
  (hprivate : n.isPublic = false)

include hr

/-- The signature of a registered node is accepted. -/
theorem Signs.verified {msg : Msg} {challenge : String} (h : Signs E s msg r challenge) :
    verifyNodeSignature E.toEnv (some requester.publicKey) E.adminToken msg challenge = .ok () := by
  obtain ⟨r', hr', hsigned⟩ := h
  cases hr.symm.trans hr'
  exact (verifyNodeSignature_ok ..).mpr hsigned

include ht hprivate

theorem lookup_decides (hstrict : E.strictDirectoryAuth = true) (a : Asks E s r t) :
    (handleLookup E.toQueryEnv s a.lookup).isOk =
      (isTrusted s.trust r t || sharesNetwork requester n) := by
  obtain ⟨hnode, hreq⟩ := a.lookup_ids
  have hrecord : lookupRecord E.toQueryEnv s a.lookup =
      (require (isTrusted s.trust r t || sharesNetwork requester n) (nodeNotFound t) >>=
        fun _ => pure n) := by
    simp only [lookupRecord, authorizeLookup, hnode, hreq, ht, hr, orFail_some, ok_bind,
      hstrict, hprivate, Bool.not_false, Bool.and_self, if_true,
      a.lookup_signed.verified hr]
    rfl
  rw [handleLookup, hrecord]
  cases isTrusted s.trust r t || sharesNetwork requester n <;> rfl

theorem resolve_decides (now : Time) (a : Asks E s r t) : (handleResolve E now s a.resolve).isOk =
      (isTrusted s.trust r t || sharesNetwork requester n) := by
  obtain ⟨hnode, hreq⟩ := a.resolve_ids
  simp only [handleResolve, resolveRecord, hnode, hreq, ht, hr, orFail_some, ok_bind,
    a.resolve_signed.verified hr, hprivate, Bool.false_or]
  cases isTrusted s.trust r t || sharesNetwork requester n <;> rfl

theorem binaryResolve_decides (now : Time) (a : Asks E s r t) :
    decide ((handleBinaryResolve E now s a.binary).type = .resolveOK) =
      (isTrusted s.trust r t || sharesNetwork requester n) := by
  obtain ⟨r', hr', hsigned⟩ := a.binary_signed
  cases hr.symm.trans hr'
  simp only [handleBinaryResolve, binaryResolveRecord, a.binary_ids, ok_bind, hr, ht,
    orFail_some, hsigned, hprivate, Bool.false_or]
  cases isTrusted s.trust r t || sharesNetwork requester n <;> rfl

theorem resolveHostname_decides (hstrict : E.strictDirectoryAuth = true) (hne : r ≠ t)
    (a : Asks E s r t) :
    (handleResolveHostname E s a.hostname).isOk =
      (isTrusted s.trust r t || sharesNetwork requester n) := by
  obtain ⟨hname, hidx⟩ := a.hostname_named
  simp only [handleResolveHostname, resolveHostnameRecord, authorizeHostname, hidx, ht, hr,
    a.hostname_requester, orFail_some, ok_bind, hprivate, hstrict, if_true, Bool.false_eq_true,
    if_false, a.hostname_signed.verified hr, Except.mapError, hne, decide_false,
    Bool.false_or, Option.any_some]
  cases isTrusted s.trust r t || sharesNetwork requester n <;> simp [hname] <;> rfl

omit hprivate in
theorem punch_decides (hstrict : E.strictDirectoryAuth = true) (a : Asks E s r t) :
    (handlePunch E s a.punch).isOk = isTrusted s.trust r t := by
  obtain ⟨hreq, hA, hB⟩ := a.punch_ids
  simp only [handlePunch, admitPunch, nodeAddr, hreq, hA, hB, hr, ht, orFail_some, ok_bind,
    a.punch_signed.verified hr, hstrict, Option.map_some, Bool.not_true, Bool.false_or,
    decide_true, Bool.true_or]
  cases isTrusted s.trust r t <;> rfl

/-- In strict mode the five queries of a registered node about a private one
are all decided by the rule, exactly when the two trust each other or share
no network. -/
theorem decisions_agree_iff (hstrict : E.strictDirectoryAuth = true) (hne : r ≠ t)
    (now : Time) (a : Asks E s r t) :
    (∀ d ∈ a.decisions now, d = true ↔ MayReach s r t requester n) ↔ (isTrusted s.trust r t = true ∨
        ¬ ∃ netID, netID ≠ 0 ∧ netID ∈ requester.networks ∧ netID ∈ n.networks) := by
  have hrule : MayReach s r t requester n ↔
      (isTrusted s.trust r t || sharesNetwork requester n) = true := by
    rw [MayReach, ← sharesNetwork_iff, Bool.or_eq_true]
  rw [hrule, ← sharesNetwork_iff, Asks.decisions, lookup_decides hr ht hprivate hstrict a,
    resolve_decides hr ht hprivate now a, binaryResolve_decides hr ht hprivate now a,
    resolveHostname_decides hr ht hprivate hstrict hne a, punch_decides hr ht hstrict a]
  cases isTrusted s.trust r t <;> cases sharesNetwork requester n <;> simp

end

/-! ## Members of one network who do not trust each other -/

/-- The private node 1, with hostname `a`, and node 2 are members of
network 5. -/
def neighbours (pairs : Finset (NodeId × NodeId)) : Server where
  nodes := .ofList [
    (1, { publicKey := [0, 0, 0], realAddr := "a:1", networks := [0, 5], hostname := "a" }),
    (2, { publicKey := [4, 16, 65], realAddr := "b:2", networks := [0, 5] })]
  hostnameIdx := .ofList [("a", 1)]
  networks := .ofList [(5, { name := "net", joinRule := "open", members := [1, 2] })]
  trust := { pairs := pairs }

/-- Node 2 signs with its key, whatever the challenge. -/
theorem neighbours_sign (pairs : Finset (NodeId × NodeId)) {msg : Msg}
    (hsig : msg.str "signature" = "BBBB") (challenge : String) :
    Signs (.plain true) (neighbours pairs) msg 2 challenge := by
  refine ⟨_, rfl, ?_, [4, 16, 65], ?_, rfl⟩
  · rw [hsig]
    decide
  · rw [hsig]
    decide

/-- The queries of node 2 about node 1. -/
def asksAboutOne (pairs : Finset (NodeId × NodeId)) :
    Asks (.plain true) (neighbours pairs) 2 1 where
  lookup := [("node_id", .num 1), ("requester_id", .num 2), ("signature", .str "BBBB")]
  lookup_ids := by decide
  lookup_signed := neighbours_sign pairs rfl _
  resolve := [("node_id", .num 1), ("requester_id", .num 2), ("signature", .str "BBBB")]
  resolve_ids := by decide
  resolve_signed := neighbours_sign pairs rfl _
  binary := [1, 2, 4, 16, 65]
  sig := [4, 16, 65]
  binary_ids := rfl
  binary_signed := ⟨_, rfl, rfl⟩
  hostname := [("hostname", .str "a"), ("requester_id", .num 2), ("signature", .str "BBBB")]
  hostname_requester := by decide
  hostname_named := ⟨by decide, rfl⟩
  hostname_signed := neighbours_sign pairs rfl _
  punch := [("requester_id", .num 2), ("node_a", .num 2), ("node_b", .num 1),
    ("signature", .str "BBBB")]
  punch_ids := by decide
  punch_signed := neighbours_sign pairs rfl _

theorem decisions_agree_trusted :
    let a := asksAboutOne {(1, 2)}
    (∀ d ∈ a.decisions 0, d = true ↔ MayReach (neighbours {(1, 2)}) 2 1
      { publicKey := [4, 16, 65], realAddr := "b:2", networks := [0, 5] }
      { publicKey := [0, 0, 0], realAddr := "a:1", networks := [0, 5], hostname := "a" }) ∧
      a.decisions 0 = [true, true, true, true, true] :=
  ⟨(decisions_agree_iff rfl rfl rfl rfl (by decide) 0 _).mpr (Or.inl (by decide)),
    by decide +kernel⟩

/-- Nodes 1 and 2 share network 5 and have not established trust. Node 2 is
answered by four of its queries and refused a punch. -/
theorem punch_decides_otherwise :
    (asksAboutOne ∅).decisions 0 = [true, true, true, true, false] := by
  decide +kernel

/-! ## The two encodings of a resolve -/

/-- A JSON response and a binary one say the same of the node. A response
without a key age has `-1` for it in binary. -/
structure SameFields (resp : Resp) (reply : ResolveReply) : Prop where
  nodeID : Msg.field resp "node_id" = some (.node reply.nodeID)
  realAddr : Msg.field resp "real_addr" = some (.str reply.realAddr)
  lanAddrs : Msg.strings resp "lan_addrs" = reply.lanAddrs
  keyAge : (Msg.num? resp "key_age_days").getD (-1) = (reply.keyAgeDays : Rat)

theorem strings_of_arr {msg : Msg} {key : String} {l : List String}
    (h : msg.arr? key = some (l.map .str)) : msg.strings key = l := by
  rw [Msg.strings, h, Option.getD_some, List.filterMap_map]
  exact List.filterMap_some

theorem resolve_sameFields (E : DirectoryEnv) (now : Time) (nodeID : NodeId) (n : NodeInfo) :
    SameFields (resolveResp E now nodeID n) (resolveReply E now nodeID n) := by
  refine ⟨rfl, rfl, ?_, ?_⟩
  · unfold resolveResp resolveReply
    cases lanAddrsOf n with
    | nil => cases n.relayOnly <;> cases keyAgeDays now n <;> rfl
    | cons a lans => exact strings_of_arr (l := a :: lans) rfl
  · unfold resolveResp resolveReply
    cases lanAddrsOf n <;> cases n.relayOnly <;> cases keyAgeDays now n <;> simp <;> rfl

/-- Both encodings find the same record, or none. -/
theorem resolveRecord_paired {E : DirectoryEnv} {s : Server} {msg : Msg} {payload sig : Bytes}
    (hempty : ∀ key m, E.verifyCached key m [] = false)
    (hreq : E.decodeResolveReq payload =
      .ok (msg.jsonUint32 "node_id", msg.jsonUint32 "requester_id", sig))
    (hsig : Base64.decode (msg.str "signature") = some sig) :
    Paired (fun _ _ => True)
      (fun n p => p = (msg.jsonUint32 "node_id", n) ∧ s.nodes.get p.1 = some n)
      (resolveRecord E s msg) (binaryResolveRecord E s payload) := by
  unfold binaryResolveRecord
  rw [hreq, ok_bind]
  refine (paired_orFail (R := (· = ·)) ?_ trivial).bind fun r r' hr => ?_
  · cases s.nodes.get (msg.jsonUint32 "requester_id") with
    | none => exact .none
    | some r => exact .some rfl
  subst hr
  have hverify : Paired (fun _ _ => True) (fun _ _ => True)
      (verifyNodeSignature E.toEnv (some r.publicKey) E.adminToken msg
        (resolveChallenge (msg.jsonUint32 "requester_id") (msg.jsonUint32 "node_id")))
      (require (E.verifyCached r.publicKey (utf8 (resolveChallenge
        (msg.jsonUint32 "requester_id") (msg.jsonUint32 "node_id"))) sig)
        "signature verification failed") := by
    simp only [verifyNodeSignature, hsig, orFail_some, ok_bind]
    by_cases hnone : msg.str "signature" = ""
    · have hsig' : sig = [] := by
        rw [hnone] at hsig
        exact (Option.some.inj hsig).symm
      simp only [hnone, hsig', hempty]
      exact .failed trivial
    · simp only [ne_eq, hnone, not_false_eq_true, decide_true]
      exact Paired.refl (fun _ => trivial) (fun _ => trivial) _
  refine hverify.bind fun _ _ _ => ?_
  refine (paired_orFail (R := fun n n' => n' = n ∧
    s.nodes.get (msg.jsonUint32 "node_id") = some n) ?_ trivial).bind ?_
  · cases s.nodes.get (msg.jsonUint32 "node_id") with
    | none => exact .none
    | some n => exact .some ⟨rfl, rfl⟩
  · rintro n n' ⟨rfl, hn⟩
    exact (paired_require rfl trivial).bind fun _ _ _ => .returned ⟨rfl, hn⟩

/-- A JSON resolve and a binary one with the same ids and signature are both
refused, or both answered with the same fields. -/
theorem resolve_encodings_agree (E : DirectoryEnv) (now : Time) (s : Server) (msg : Msg)
    (payload sig : Bytes) (decodeResolveResp : Bytes → Option ResolveReply)
    (hempty : ∀ key m, E.verifyCached key m [] = false)
    (hreq : E.decodeResolveReq payload =
      .ok (msg.jsonUint32 "node_id", msg.jsonUint32 "requester_id", sig))
    (hsig : Base64.decode (msg.str "signature") = some sig)
    (hround : ∀ n, s.nodes.get (msg.jsonUint32 "node_id") = some n →
      decodeResolveResp (E.encodeResolveResp
        (resolveReply E now (msg.jsonUint32 "node_id") n)) =
        some (resolveReply E now (msg.jsonUint32 "node_id") n)) :
    ((∃ e, handleResolve E now s msg = .error e) ∧
        (handleBinaryResolve E now s payload).type = .error) ∨
      ∃ resp reply, handleResolve E now s msg = .ok resp ∧
        (handleBinaryResolve E now s payload).type = .resolveOK ∧
        decodeResolveResp (handleBinaryResolve E now s payload).payload = some reply ∧
        SameFields resp reply := by
  unfold handleResolve handleBinaryResolve
  have hpaired := resolveRecord_paired (s := s) hempty hreq hsig
  generalize resolveRecord E s msg = x at hpaired ⊢
  generalize binaryResolveRecord E s payload = y at hpaired ⊢
  cases hpaired with
  | failed => exact Or.inl ⟨⟨_, rfl⟩, rfl⟩
  | returned h =>
    obtain ⟨rfl, hn⟩ := h
    exact Or.inr ⟨_, _, rfl, rfl, hround _ hn, resolve_sameFields E now _ _⟩

/-- The plain environment, where no empty signature verifies. -/
def signedEnv : DirectoryEnv :=
  { DirectoryEnv.plain true with verifyCached := fun key _ sig => sig ≠ [] && key = sig }

/-- A neighbour with an address in the LAN and a key of the time 0. -/
def onLAN : NodeInfo :=
  { publicKey := [0, 0, 0], realAddr := "a:1", networks := [0, 5], lanAddrs := ["10.0.0.1:1"]
    keyMeta := { createdAt := 0 } }

/-- Three days later, about that node and about the same node behind the
relay. -/
theorem resolve_encodings_agree_neighbours :
    let msg : Msg := [("node_id", .num 1), ("requester_id", .num 2), ("signature", .str "BBBB")]
    let Agree (n : NodeInfo) (reply : ResolveReply) : Prop :=
      let s := { neighbours ∅ with nodes := (neighbours ∅).nodes.set 1 n }
      ((∃ e, handleResolve signedEnv (3 * day) s msg = .error e) ∧
          (handleBinaryResolve signedEnv (3 * day) s [1, 2, 4, 16, 65]).type = .error) ∨
        ∃ resp reply', handleResolve signedEnv (3 * day) s msg = .ok resp ∧
          (handleBinaryResolve signedEnv (3 * day) s [1, 2, 4, 16, 65]).type = .resolveOK ∧
          (if (handleBinaryResolve signedEnv (3 * day) s [1, 2, 4, 16, 65]).payload =
            signedEnv.encodeResolveResp reply then some reply else none) = some reply' ∧
          SameFields resp reply'
    Agree onLAN ⟨1, "a:1", ["10.0.0.1:1"], 3⟩ ∧
      Agree { onLAN with relayOnly := true } ⟨1, "relay:1", [], 3⟩ := by
  intro msg Agree
  constructor <;>
  · refine resolve_encodings_agree signedEnv (3 * day) _ msg [1, 2, 4, 16, 65] [4, 16, 65]
      (fun bytes => if bytes = signedEnv.encodeResolveResp _ then some _ else none)
      (fun key m => rfl) rfl (by decide) fun n hn => ?_
    cases hn
    exact if_pos rfl

end Rendezvous.Disclosure

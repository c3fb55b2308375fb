import Rendezvous.Admission.Runs

/-!
# An invite and the answer to it

`invite_to_network` answers that the node is invited already if there is an
invite to the network in its inbox, however old. `respond_invite` refuses an
invite that has expired. So an invite that is answered ok can be accepted at
the same time exactly if the inbox had no expired invite to the network.
-/

namespace Rendezvous.Admission

open Base Registry Authz Rendezvous.Membership Roster

/-! ## Refusals for the invite's sake -/

/-- The refusal if there is no invite. -/
def missingInvite (id : NodeId) (netID : NetId) : String :=
  s!"no pending invite for node {id} to network {netID}"

/-- The refusal if it has expired. -/
def expiredInvite (id : NodeId) (netID : NetId) : String :=
  s!"invite for node {id} to network {netID} has expired"

/-- The answer is one of the two. -/
def LacksInvite (r : Except String Outcome) (id : NodeId) (netID : NetId) : Prop :=
  r = .error (missingInvite id netID) ∨ r = .error (expiredInvite id netID)

/-- How a text begins. -/
def opening (text : String) : List Char := text.toList.take 3

theorem opening_append {a : String} (h : 3 ≤ a.toList.length) (x : String) :
    opening (a ++ x) = opening a := by
  unfold opening
  rw [String.toList_append, List.take_append_of_le_length h]

/-- The errors of `acceptInvite` begin in another way. -/
theorem acceptInvite_error {s : Server} {node : NodeInfo} {id : NodeId} {netID : NetId}
    {e : String} (h : acceptInvite s node id netID = .error e) :
    opening e ∈ ["net".toList, "ent".toList, "nod".toList] := by
  simp only [acceptInvite, getNetwork, bind_eq_error, require_eq_error, orFail_eq_error] at h
  rcases h with ⟨-, rfl⟩ | ⟨net, -, ⟨-, rfl⟩ | ⟨_, -, ⟨-, rfl⟩ | ⟨_, -, ⟨-, rfl⟩ | ⟨_, -, h⟩⟩⟩⟩
  · rw [networkNotFound, String.append_assoc, opening_append (by decide)]
    decide
  · decide
  · decide
  · rw [String.append_assoc, String.append_assoc, opening_append (by decide)]
    decide
  · cases h

theorem opening_missingInvite (id : NodeId) (netID : NetId) :
    opening (missingInvite id netID) = "no ".toList := by
  unfold missingInvite
  simp only [String.append_assoc]
  rw [opening_append (by decide)]
  decide

theorem opening_expiredInvite (id : NodeId) (netID : NetId) :
    opening (expiredInvite id netID) = "inv".toList := by
  unfold expiredInvite
  simp only [String.append_assoc]
  rw [opening_append (by decide)]
  decide

theorem not_lacksInvite {e : String} {id : NodeId} {netID : NetId}
    (h : opening e ∈ ["net".toList, "ent".toList, "nod".toList]) :
    ¬ LacksInvite (.error e) id netID := by
  rintro (heq | heq) <;> cases heq
  · rw [opening_missingInvite] at h
    exact absurd h (by decide)
  · rw [opening_expiredInvite] at h
    exact absurd h (by decide)

/-! ## The answer right after the invite -/

variable {E : Env} {now : Time} {s : Server} {msg : Msg} {o : Outcome}

/-- The inbox after an invite that was answered ok: the first invite to the
network is the one that was there, or is as old as the request. -/
theorem invite_first (h : handleInviteToNetwork E now s msg = .ok o) :
    ∃ inv, (pending o.server (msg.jsonUint32 "target_node_id")).find?
        (fun inv => inv.networkID = msg.jsonUint16 "network_id") = some inv ∧
      ((pending s (msg.jsonUint32 "target_node_id")).find?
          (fun inv => inv.networkID = msg.jsonUint16 "network_id") = some inv ∨
        (pending s (msg.jsonUint32 "target_node_id")).find?
          (fun inv => inv.networkID = msg.jsonUint16 "network_id") = none ∧
        inv.timestamp = now) := by
  simp only [handleInviteToNetwork, bind_eq_ok] at h
  obtain ⟨_, -, _, -, _, -, _, -, _, -, _, -, _, -, _, -, _, -, hrest⟩ := h
  split at hrest
  · next hany =>
    rw [pure_eq_ok] at hrest
    subst hrest
    obtain ⟨inv, hfind⟩ := Option.isSome_iff_exists.mp
      (List.find?_isSome.mpr (List.any_eq_true.mp hany))
    exact ⟨inv, hfind, Or.inl hfind⟩
  · next hnone =>
    simp only [bind_eq_ok, pure_eq_ok] at hrest
    obtain ⟨_, -, rfl⟩ := hrest
    have hfind : (pending s (msg.jsonUint32 "target_node_id")).find?
        (fun inv => inv.networkID = msg.jsonUint16 "network_id") = none := by
      rw [List.find?_eq_none]
      intro inv hin hnet
      exact hnone (List.any_eq_true.mpr ⟨inv, hin, hnet⟩)
    refine ⟨⟨msg.jsonUint16 "network_id", msg.jsonUint32 "inviter_id", now⟩, ?_,
      Or.inr ⟨hfind, rfl⟩⟩
    unfold pending at hfind ⊢
    rw [GoMap.get_set_self, Option.getD_some, List.find?_append, hfind]
    simp

/-- The text a node signs to answer an invite. -/
def respondChallenge (id : NodeId) (netID : NetId) : String :=
  s!"respond_invite:{id}:{netID}"

/-- An answer that passes the gates is refused for the invite's sake exactly
if the first invite to the network is not there or has expired. -/
theorem respond_lacksInvite_iff {s : Server} {answer : Msg} {node : NodeInfo}
    (hent : requireEnterprise s (answer.jsonUint16 "network_id") = .ok ())
    (hnode : s.nodes.get (answer.jsonUint32 "node_id") = some node)
    (hsigned : verifyNodeSignature E (some node.publicKey) E.adminToken answer
      (respondChallenge (answer.jsonUint32 "node_id") (answer.jsonUint16 "network_id")) = .ok ()) :
    LacksInvite (handleRespondInvite E now s answer) (answer.jsonUint32 "node_id")
        (answer.jsonUint16 "network_id") ↔
      ∀ inv, (pending s (answer.jsonUint32 "node_id")).find?
        (fun inv => inv.networkID = answer.jsonUint16 "network_id") = some inv →
        expired now inv = true := by
  unfold respondChallenge at hsigned
  simp only [handleRespondInvite, hent, hnode, hsigned, ok_bind, orFail_some]
  unfold checkInvite pending
  cases hfind : ((s.inviteInbox.get (answer.jsonUint32 "node_id")).getD []).find?
      (fun inv => inv.networkID = answer.jsonUint16 "network_id") with
  | none =>
    simp only [orFail_none, error_bind, reduceCtorEq, false_implies, implies_true, iff_true]
    exact Or.inl rfl
  | some inv =>
    simp only [orFail_some, ok_bind, Option.some.injEq, forall_eq']
    cases hexp : expired now inv with
    | true => exact iff_of_true (Or.inr rfl) rfl
    | false =>
      refine iff_of_false (fun hlacks => ?_) (by decide)
      -- What comes after the check fails for other reasons.
      simp only [Bool.not_false, require, if_true, ok_bind] at hlacks
      split at hlacks
      · cases haccept : acceptInvite s node (answer.jsonUint32 "node_id")
            (answer.jsonUint16 "network_id") with
        | error e =>
          rw [haccept] at hlacks
          exact not_lacksInvite (acceptInvite_error haccept) hlacks
        | ok s' =>
          rw [haccept] at hlacks
          rcases hlacks with hlacks | hlacks <;> cases hlacks
      · rcases hlacks with hlacks | hlacks <;> cases hlacks

/-- An invite that is answered ok, and a signed answer of the node handled at
the same time: the answer is not refused because the invite is missing or has
expired exactly if the inbox had no expired invite to the network. -/
theorem invite_answerable_iff (E : Env) (now : Time) (s : Server) (msg : Msg) (o : Outcome)
    (h : handleInviteToNetwork E now s msg = .ok o) (answer : Msg)
    (hid : answer.jsonUint32 "node_id" = msg.jsonUint32 "target_node_id")
    (hnetID : answer.jsonUint16 "network_id" = msg.jsonUint16 "network_id") (node : NodeInfo)
    (hnode : s.nodes.get (answer.jsonUint32 "node_id") = some node)
    (hsigned : verifyNodeSignature E (some node.publicKey) E.adminToken answer
      (respondChallenge (answer.jsonUint32 "node_id") (answer.jsonUint16 "network_id")) = .ok ()) :
    ¬ LacksInvite (handleRespondInvite E now o.server answer) (answer.jsonUint32 "node_id")
        (answer.jsonUint16 "network_id") ↔
      ∀ inv, (pending s (answer.jsonUint32 "node_id")).find?
        (fun inv => inv.networkID = answer.jsonUint16 "network_id") = some inv →
        expired now inv = false := by
  obtain ⟨⟨inbox, hserver⟩, -⟩ := handleInviteToNetwork_ok h
  have hent : requireEnterprise s (msg.jsonUint16 "network_id") = .ok () := by
    simp only [handleInviteToNetwork, bind_eq_ok] at h
    obtain ⟨_, -, _, -, _, -, _, hent, -⟩ := h
    exact hent
  obtain ⟨inv, hfirst, hcase⟩ := invite_first h
  rw [respond_lacksInvite_iff (by rw [hserver, hnetID]; exact hent)
    (by rw [hserver]; exact hnode) hsigned, hid, hnetID, hfirst]
  simp only [Option.some.injEq, forall_eq', Bool.not_eq_true]
  rcases hcase with hold | ⟨hnone, hnow⟩
  · rw [hold]
    simp
  · have hfresh : expired now inv = false := by
      unfold expired
      rw [hnow, Int.sub_self]
      decide
    rw [hnone, hfresh]
    simp

/-! ## An invite of a day and of a month -/

/-- The club, with an invite of the second node. -/
def invitedClub : Server :=
  (run (advance clubEnv) (Disk.fresh 0) (founded "invite" "" ++ [invitation])).live

/-- The first node invites the second. -/
def invites : Msg :=
  [("network_id", .num 1), ("inviter_id", .num 1), ("target_node_id", .num 2),
    ("signature", .str "AAAA")]

/-- The second node accepts. -/
def accepts : Msg :=
  [("network_id", .num 1), ("node_id", .num 2), ("accept", .bool true), ("signature", .str "BBBB")]

/-- A day later the node is invited again, and can accept. -/
theorem invite_again_answerable :
    let later := 24 * 3600 * second
    ∃ o, handleInviteToNetwork clubEnv.toEnv later invitedClub invites = .ok o ∧
      ¬ LacksInvite (handleRespondInvite clubEnv.toEnv later o.server accepts) 2 1 := by
  intro later
  have hok : (handleInviteToNetwork clubEnv.toEnv later invitedClub invites).isOk = true := by
    decide
  have hsigned : (invitedClub.nodes.get 2).all (fun node => (verifyNodeSignature clubEnv.toEnv
      (some node.publicKey) clubEnv.adminToken accepts (respondChallenge 2 1)).isOk) = true := by
    decide
  have hfresh : ((pending invitedClub 2).find? (fun inv => inv.networkID = 1)).all
      (fun inv => !expired later inv) = true := by
    decide
  have hthere : (invitedClub.nodes.get 2).isSome = true := by decide
  obtain ⟨node, hnode⟩ := Option.isSome_iff_exists.mp hthere
  rw [hnode, Option.all_some, isOk_iff] at hsigned
  cases hinvite : handleInviteToNetwork clubEnv.toEnv later invitedClub invites with
  | error e =>
    rw [hinvite] at hok
    cases hok
  | ok o =>
    refine ⟨o, rfl, (invite_answerable_iff clubEnv.toEnv later invitedClub invites o hinvite
      accepts (by decide) (by decide) node hnode hsigned).mpr fun inv hfind => ?_⟩
    change (pending invitedClub 2).find? (fun inv => inv.networkID = 1) = some inv at hfind
    rw [hfind] at hfresh
    simpa using hfresh

/-- After more than thirty days the node is invited again, and the answer is
ok. The node accepts at once, and is told that the invite has expired. -/
theorem invite_again_refused :
    let later := 2 + inviteTTL
    ∃ o, handleInviteToNetwork clubEnv.toEnv later invitedClub invites = .ok o ∧
      LacksInvite (handleRespondInvite clubEnv.toEnv later o.server accepts) 2 1 := by
  intro later
  have hok : (handleInviteToNetwork clubEnv.toEnv later invitedClub invites).isOk = true := by
    decide
  cases hinvite : handleInviteToNetwork clubEnv.toEnv later invitedClub invites with
  | error e =>
    rw [hinvite] at hok
    cases hok
  | ok o =>
    refine ⟨o, rfl, Or.inr ?_⟩
    have hanswer : (handleInviteToNetwork clubEnv.toEnv later invitedClub invites).toOption.map
        (fun o => match handleRespondInvite clubEnv.toEnv later o.server accepts with
          | .error e => e
          | .ok _ => "") = some (expiredInvite 2 1) := by
      decide
    rw [hinvite] at hanswer
    have htext := Option.some.inj hanswer
    cases hresp : handleRespondInvite clubEnv.toEnv later o.server accepts with
    | error e =>
      simp only [hresp] at htext
      rw [htext]
    | ok o' =>
      simp only [hresp] at htext
      exact absurd htext (by decide)

end Rendezvous.Admission

import Rendezvous.Roster.Op

/-!
# What a command writes to the directory

The commands that manage networks and memberships write to a node's record
too: they change the list of its networks, its external identity, and, in
a directory synchronisation, its hostname. `Amends` lists these writes, and
`step_amends` says that such a command does nothing else to the directory:
no record comes or goes, and the key and owner indices, the node counter
and the nonce ledger stand.
-/

namespace Rendezvous.Roster

open Base Registry Rendezvous.Membership Directory Admin

/-- A record is written, but for what a membership command leaves alone. -/
def Relists (f : NodeInfo → NodeInfo) : Prop :=
  ∀ n, f n = { n with networks := (f n).networks, externalID := (f n).externalID }

/-- Writes to the directory, one after the other. `N` tells which display
names a synchronisation offers to which nodes, and `C` whether a network is
numbered. -/
inductive Amends (N : NodeId → String → Prop) (C : Prop) : Server → Server → Prop where
  | refl (s : Server) : Amends N C s s
  | trans {s s' s'' : Server} (h : Amends N C s s') (h' : Amends N C s' s'') : Amends N C s s''
  /-- Networks, invites and kept roles. -/
  | other {s s' : Server}
      (h : s' = { s with
        networks := s'.networks
        inviteInbox := s'.inviteInbox
        rbacPreAssign := s'.rbacPreAssign }) : Amends N C s s'
  | number (s : Server) (netID : NetId) (h : C) : Amends N C s { s with nextNet := netID }
  | record (s : Server) (id : NodeId) {f : NodeInfo → NodeInfo}
      (hf : Relists f) : Amends N C s { s with nodes := s.nodes.modify id f }
  | name (s : Server) {id : NodeId} {name : String} (h : N id name) :
      Amends N C s (takeDisplayName s id name)

/-- The same writes, with the invites apart: `I` tells whether any are
written. -/
inductive Alters (N : NodeId → String → Prop) (C I : Prop) : Server → Server → Prop where
  | refl (s : Server) : Alters N C I s s
  | trans {s s' s'' : Server} (h : Alters N C I s s') (h' : Alters N C I s' s'') :
      Alters N C I s s''
  /-- Networks and kept roles. -/
  | other {s s' : Server}
      (h : s' = { s with networks := s'.networks, rbacPreAssign := s'.rbacPreAssign }) :
      Alters N C I s s'
  | mail (s : Server) (inbox : GoMap NodeId (List NetworkInvite)) (h : I) :
      Alters N C I s { s with inviteInbox := inbox }
  | number (s : Server) (netID : NetId) (h : C) : Alters N C I s { s with nextNet := netID }
  | record (s : Server) (id : NodeId) {f : NodeInfo → NodeInfo}
      (hf : Relists f) : Alters N C I s { s with nodes := s.nodes.modify id f }
  | name (s : Server) {id : NodeId} {name : String} (h : N id name) :
      Alters N C I s (takeDisplayName s id name)

variable {E : AdminEnv} {byID : GoMap String NodeId} {netID : NetId}

namespace Alters

variable {N : NodeId → String → Prop} {C I : Prop} {s s' : Server}

theorem amends (h : Alters N C I s s') : Amends N C s s' := by
  induction h with
  | refl s => exact .refl s
  | trans _ _ ih ih' => exact ih.trans ih'
  | other h => exact .other (by rw [h])
  | mail s inbox h => exact .other rfl
  | number s netID h => exact .number s netID h
  | record s id hf => exact .record s id hf
  | name s h => exact .name s h

section

variable (s : Server) (netID : NetId) (net : NetworkInfo) (id : NodeId)

theorem putNetwork : Alters N C I s (putNetwork s netID net) := .other rfl

theorem join : Alters N C I s (appendNodeNetwork (Membership.putNetwork s netID net) id netID) :=
  (putNetwork s netID net).trans (.record _ id fun _ => rfl)

theorem forgetNetwork (members : List NodeId) (netID : NetId) :
    Alters N C I s (forgetNetwork s members netID) := by
  unfold Membership.forgetNetwork
  induction members generalizing s with
  | nil => exact .refl s
  | cons m members ih => exact (record s m fun _ => rfl).trans (ih _)

/-! ### Directory synchronisation -/

theorem removeMember : Alters N C I s (removeMember s netID id) := by
  let dropped := { s with
    networks := s.networks.modify netID fun net => dropMember net id }
  have hdrop : Alters N C I s dropped := other rfl
  exact hdrop.trans (.record dropped id fun _ => rfl)

end

theorem syncEntry {r r' : DirectorySyncResult} {entry : DirectoryEntry}
    (hN : ∀ id, entry.disabled = false →
      byID.get (E.toLower entry.externalID) = some id → N id entry.displayName)
    (h : syncEntry E netID byID s r entry = some (s', r')) : Alters N C I s s' := by
  unfold Admin.syncEntry at h
  split at h
  · simp only at h
    split at h
    · cases h
      exact .refl s
    · cases h
      unfold storeRBACPreAssignment
      simp only
      split
      · exact .refl s
      · exact .other rfl
  · next id hid =>
    simp only at h
    split at h
    · cases h
      exact removeMember s netID id
    · next hdisabled =>
      obtain ⟨⟨s₁, r₁⟩, hrole, heq⟩ := Option.map_eq_some_iff.mp h
      have hs₁ : Alters N C I s s₁ := by
        unfold syncRole at hrole
        split at hrole
        · cases hrole
          exact .refl s
        · simp only at hrole
          split at hrole
          · cases hrole
            exact .refl s
          · split at hrole
            · cases hrole
            · cases hrole
              exact putNetwork s netID _
      obtain ⟨rfl, -⟩ := Prod.mk.inj heq
      exact hs₁.trans (.name s₁ (hN id (by simpa using hdisabled) hid))

theorem syncEntries {entries : List DirectoryEntry} (s : Server) (r : DirectorySyncResult)
    (hN : ∀ entry ∈ entries, ∀ id, entry.disabled = false →
      byID.get (E.toLower entry.externalID) = some id → N id entry.displayName) :
    Alters N C I s (syncEntries E netID byID entries s r).1 := by
  induction entries generalizing s r with
  | nil => exact .refl s
  | cons entry entries ih =>
    unfold Admin.syncEntries
    split
    · exact .refl s
    · next s₁ r₁ hentry =>
      exact (syncEntry (hN entry (by simp)) hentry).trans
        (ih s₁ r₁ fun e he => hN e (by simp [he]))

theorem removeUnlisted (netID : NetId) (ids : List NodeId) (s : Server)
    (r : DirectorySyncResult) : Alters N C I s (removeUnlisted netID ids s r).1 := by
  unfold Admin.removeUnlisted
  induction ids generalizing s r with
  | nil => exact .refl s
  | cons id ids ih => exact (removeMember s netID id).trans (ih _ _)

end Alters

/-! ## The commands -/

/-- The display names a command offers: those of the entries of a
synchronisation, to the members they are mapped to. -/
def Offers (E : AdminEnv) (s : Server) (op : Op) (id : NodeId) (name : String) : Prop :=
  match op with
  | .directorySync msg =>
    ∃ net, s.networks.get (msg.jsonUint16 "network_id") = some net ∧
      ∃ entry ∈ parseDirectoryEntries ((msg.arr? "entries").getD []), entry.disabled = false ∧
        (membersByExternalID E s net).get (E.toLower entry.externalID) = some id ∧
        entry.displayName = name
  | _ => False

theorem directorySync_alters (E : AdminEnv) (s : Server) (msg : Msg) (C I : Prop) :
    Alters (Offers E s (.directorySync msg)) C I s (handleDirectorySync E s msg).1 := by
  unfold handleDirectorySync
  simp only
  split
  · exact .refl s
  · show Alters _ C I s (applyDirectorySync E s _ _ _).1
    unfold applyDirectorySync
    split
    · exact .refl s
    · next net hnet =>
      split
      · exact .refl s
      · have hentries : Alters (Offers E s (.directorySync msg)) C I s
            (syncEntries E (msg.jsonUint16 "network_id") (membersByExternalID E s net)
              (parseDirectoryEntries ((msg.arr? "entries").getD [])) s {}).1 :=
          .syncEntries s {} fun entry he id hd hid => ⟨net, hnet, entry, he, hd, hid, rfl⟩
        split
        · next hrun =>
          rw [hrun] at hentries
          exact hentries
        · next hrun =>
          rw [hrun] at hentries
          exact hentries.trans (.removeUnlisted _ _ _ _)

section

variable {N : NodeId → String → Prop} {C I : Prop} {s : Server}

theorem alters_answered {r : Except String Outcome}
    (h : ∀ o, r = .ok o → Alters N C I s o.server) : Alters N C I s (answered s r).1 := by
  cases r with
  | error e => exact .refl s
  | ok o => exact h o rfl

theorem alters_changed {r : Except String Server}
    (h : ∀ s', r = .ok s' → Alters N C I s s') : Alters N C I s (changed s r).1 := by
  cases r with
  | error e => exact .refl s
  | ok s' => exact h s' rfl

end

/-- The command files no record and removes none. -/
def Op.amends : Op → Bool
  | .register .. | .reap .. | .deregister _ => false
  | _ => true

/-- The command is one that hands out ids. -/
def Op.numbers : Op → Bool
  | .register .. => true
  | .createNetwork .. => true
  | .provision .. => true
  | _ => false

/-- The command writes to the inboxes. -/
def Op.mails : Op → Bool
  | .deleteNetwork _ | .leaveNetwork _ | .kickMember _ => true
  | .inviteToNetwork .. | .respondInvite .. => true
  | _ => false

/-- A provisioning touches no record. -/
theorem provision_alters {N : NodeId → String → Prop} {C I : Prop} {now : Time} {order : List NetId}
    {s : Server} {msg : Msg} {o : Outcome} (hC : C)
    (h : handleProvisionNetwork E now order s msg = .ok o) : Alters N C I s o.server := by
  simp only [handleProvisionNetwork, applyBlueprint, bind_eq_ok, mapError_eq_ok, pure_eq_ok] at h
  obtain ⟨_, -, _, -, bp, -, _, ⟨_, -, ⟨s₁, netID, new⟩, hfound, rfl⟩, rfl⟩ := h
  have hs₁ : Alters N C I s s₁ := by
    unfold findOrCreateNetwork at hfound
    split at hfound
    · cases hfound
      exact .refl s
    · simp only [bind_eq_ok, pure_eq_ok, Prod.mk.injEq] at hfound
      obtain ⟨_, -, _, -, rfl, -⟩ := hfound
      exact (Alters.putNetwork s _ _).trans (.number _ _ hC)
  exact hs₁.trans (.other rfl)

theorem step_alters {s : Server} {op : Op} (hop : op.amends = true) :
    Alters (Offers E s op) (op.numbers = true) (op.mails = true) s (step E s op) := by
  show Alters _ _ _ s (handle E s op).1
  cases op with
  | register | reap | deregister => cases hop
  | createNetwork now msg =>
    refine alters_answered fun o ho => ?_
    obtain ⟨rules, expr, n, -, -, hserver, -⟩ := handleCreateNetwork_ok ho
    rw [hserver]
    exact (Alters.number s (s.nextNet + 1) rfl).trans (.join _ _ _ _)
  | deleteNetwork msg =>
    refine alters_answered fun o ho => ?_
    obtain ⟨net, -, -, hserver, -⟩ := handleDeleteNetwork_ok ho
    rw [hserver]
    refine (Alters.forgetNetwork s net.members (msg.jsonUint16 "network_id")).trans ?_
    exact (Alters.mail _ (pruneInbox _ _) rfl).trans (.other rfl)
  | joinNetwork msg =>
    refine alters_answered fun o ho => ?_
    obtain ⟨node, net, -, -, -, -, hserver, -⟩ := handleJoinNetwork_ok ho
    rw [hserver]
    exact .join s _ _ _
  | leaveNetwork msg =>
    refine alters_answered fun o ho => ?_
    obtain ⟨node, net, -, -, -, -, -, hserver, -⟩ := handleLeaveNetwork_ok ho
    rw [hserver]
    exact ((Alters.record s _ fun _ => rfl).trans (.putNetwork _ _ _)).trans
      (.mail _ _ rfl)
  | kickMember msg =>
    refine alters_answered fun o ho => ?_
    obtain ⟨net, -, -, -, -, hserver, -⟩ := handleKickMember_ok ho
    rw [hserver]
    exact ((Alters.putNetwork s _ _).trans (.record _ _ fun _ => rfl)).trans
      (.mail _ _ rfl)
  | adminKick netID id =>
    refine alters_changed fun s' hs' => ?_
    simp only [adminKickMember, bind_eq_ok, pure_eq_ok] at hs'
    obtain ⟨net, -, _, -, _, -, rfl⟩ := hs'
    exact (Alters.putNetwork s netID _).trans (.record _ id fun _ => rfl)
  | inviteToNetwork now msg =>
    refine alters_answered fun o ho => ?_
    obtain ⟨⟨inbox, hserver⟩, -⟩ := handleInviteToNetwork_ok ho
    rw [hserver]
    exact .mail s inbox rfl
  | respondInvite now msg =>
    refine alters_answered fun o ho => ?_
    obtain ⟨-, s', inbox, hserver, hcase⟩ := handleRespondInvite_ok ho
    rw [hserver]
    have hs' : Alters (Offers E s (.respondInvite now msg))
        (Op.numbers (.respondInvite now msg) = true)
        (Op.mails (.respondInvite now msg) = true) s s' := by
      rcases hcase with ⟨-, rfl⟩ | ⟨-, node, net, -, -, -, -, rfl⟩
      · exact .refl s'
      · exact .join s _ _ _
    exact hs'.trans (.mail s' inbox rfl)
  | setMemberTags msg =>
    refine alters_answered fun o ho => ?_
    obtain ⟨net, -, -, hserver, -⟩ := handleSetMemberTags_ok ho
    rw [hserver]
    exact .putNetwork s _ _
  | transferOwnership order msg =>
    refine alters_answered fun o ho => ?_
    obtain ⟨net, currentOwner, role, -, -, -, -, hserver, -⟩ :=
      handleTransferOwnership_ok ho
    rw [hserver]
    exact .putNetwork s _ _
  | adminSetRole netID id text =>
    refine alters_changed fun s' hs' => ?_
    simp only [adminSetMemberRole, bind_eq_ok, pure_eq_ok] at hs'
    obtain ⟨role, -, net, -, _, -, _, -, rfl⟩ := hs'
    exact .putNetwork s netID _
  | setEnterprise msg =>
    refine alters_answered fun o ho => ?_
    obtain ⟨net, -, -, hserver, -⟩ := handleSetNetworkEnterprise_ok ho
    rw [hserver]
    exact .putNetwork s _ _
  | setExternalID msg =>
    refine alters_answered fun o ho => ?_
    simp only [handleSetExternalID, bind_eq_ok, pure_eq_ok] at ho
    obtain ⟨_, -, _, -, rfl⟩ := ho
    exact .record s _ fun _ => rfl
  | directorySync msg => exact directorySync_alters E s msg _ _
  | provision now order msg =>
    show Alters _ _ _ s (if s.networks.Enumerates order then
      answered s (handleProvisionNetwork E now order s msg) else (s, [])).1
    split
    · exact alters_answered fun o ho => provision_alters rfl ho
    · exact .refl s
  | _ =>
    refine alters_answered fun o ho => ?_
    obtain ⟨net, current, -, -, -, hserver, -⟩ := changeRole_ok ho
    rw [hserver]
    exact .putNetwork s _ _

/-- Such a command makes the writes `Amends` lists, and no other. -/
theorem step_amends {s : Server} {op : Op} (hop : op.amends = true) :
    Amends (Offers E s op) (op.numbers = true) s (step E s op) :=
  (step_alters hop).amends

end Rendezvous.Roster

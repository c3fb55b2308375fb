import Rendezvous.Admission.Newcomers
import Rendezvous.Roster.Disk

/-!
# The registry with polls and renames

The registry in memory with its file and its log, under every command that
changes members, invites or networks, polls of a node's invites and renames
of a network included.
-/

namespace Rendezvous.Admission

open Base Registry Authz Rendezvous.Membership Directory Admin Roster

variable {id : NodeId} {netID : NetId} {msg : Msg} {o : Outcome} {now : Time} {s : Server}

/-! ## The machine -/

/-- What may happen next: besides what `Disk.Event` has, a poll of a node's
invites and a rename of a network. -/
inductive Event where
  | disk (e : Disk.Event)
  | poll (now : Time) (msg : Msg)
  | rename (msg : Msg)

/-- One event. Polls and renames record no delta. -/
def advance (E : AdminEnv) (d : Disk) : Event → Disk
  | .disk e => d.step E e
  | .poll now msg =>
    { d with live := (answered d.live (handlePollInvites E.toEnv now d.live msg)).1 }
  | .rename msg =>
    { d with live := (answered d.live (handleRenameNetwork E.toEnv d.live msg)).1 }

/-- The network lists the node. -/
def isMember (s : Server) (id : NodeId) (netID : NetId) : Bool :=
  (s.networks.get netID).any fun net => net.members.contains id

theorem isMember_iff {s : Server} : isMember s id netID = true ↔
      ∃ net, s.networks.get netID = some net ∧ id ∈ net.members := by
  unfold isMember
  rw [Option.any_eq_true]
  simp only [List.contains_iff_mem]

/-- The invites waiting for a node. -/
def pending (s : Server) (id : NodeId) : List NetworkInvite :=
  (s.inviteInbox.get id).getD []

/-! ## Polls and renames -/

/-- What is left of the inboxes is part of what was there, in order, and
every invite that is left is one of those to keep. -/
structure Keeps (keep : NodeId → NetworkInvite → Prop)
    (inbox inbox' : GoMap NodeId (List NetworkInvite)) : Prop where
  sub : ∀ id, ((inbox'.get id).getD []).Sublist ((inbox.get id).getD [])
  kept : ∀ id, ∀ inv ∈ (inbox'.get id).getD [], keep id inv

theorem Keeps.refl (inbox : GoMap NodeId (List NetworkInvite)) :
    Keeps (fun _ _ => True) inbox inbox := ⟨fun _ => .refl _, fun _ _ _ => trivial⟩

theorem pollInvites_ok {E : Env} (h : handlePollInvites E now s msg = .ok o) :
    o.server.networks = s.networks ∧ Keeps (fun _ _ => True) s.inviteInbox
      o.server.inviteInbox := by
  simp only [handlePollInvites, bind_eq_ok, pure_eq_ok] at h
  obtain ⟨node, -, _, -, rfl⟩ := h
  simp only
  split
  · refine ⟨rfl, fun id => ?_, fun _ _ _ => trivial⟩
    simp only [GoMap.get_set]
    split
    · next hid =>
      rw [hid]
      exact List.filter_sublist
    · exact .refl _
  · exact ⟨rfl, .refl _⟩

theorem renameNetwork_ok {E : Env} (h : handleRenameNetwork E s msg = .ok o) :
    ∃ net, s.networks.get (msg.jsonUint16 "network_id") = some net ∧
      o.server = putNetwork s (msg.jsonUint16 "network_id")
        { net with name := msg.str "name" } := by
  simp only [handleRenameNetwork, commitRename, bind_eq_ok, getNetwork_eq_ok, pure_eq_ok] at h
  obtain ⟨_, -, _, -, _, -, net, hnet, _, -, rfl⟩ := h
  exact ⟨net, hnet, rfl⟩

/-! ## A club -/

/-- A registry that takes the key itself for a signature. -/
def clubEnv : AdminEnv := { AdminEnv.plain with
  toEnv := { Env.plain with verifyCached := fun key _ sig => decide (key = sig) } }

/-- Two nodes register, and the first one creates a network by the rule. -/
def founded (joinRule token : String) : List Event :=
  [.disk (.command (.register 0 [0] "" [("public_key", .str "AAAA")]) true),
    .disk (.command (.register 0 [0] "" [("public_key", .str "BBBB")]) true),
    .disk (.command (.createNetwork 0 (operatorMsg [("node_id", .num 1),
      ("name", .str "club"), ("join_rule", .str joinRule), ("token", .str token),
      ("enterprise", .bool true)])) true)]

/-- The first node invites the second. -/
def invitation : Event :=
  .disk (.command (.inviteToNetwork 1 [("network_id", .num 1), ("inviter_id", .num 1),
    ("target_node_id", .num 2), ("signature", .str "AAAA")]) true)

/-- The second node asks to join, and brings no token. -/
def plainJoin : Event :=
  .disk (.command (.joinNetwork [("network_id", .num 1), ("node_id", .num 2),
    ("signature", .str "BBBB")]) true)

end Rendezvous.Admission

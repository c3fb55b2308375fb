import Rendezvous.Roster.Amends
import Rendezvous.Roster.Counters
import Rendezvous.Roster.Disk

/-!
# Ids in use and the counters

A node id is in use while a record or an index entry has it, a network id
while a network has it or a node lists it. Every command, and every delta
of the log, adds no id, or one that an open counter is moved past
(`Advances`). So the next id is never in use, and a counter that has
wrapped to zero stays there: with two exceptions. Provisioning does not
look whether the network counter is open, and a delta that brings an id
back moves a counter that has stopped.
-/

namespace Rendezvous.Roster

open Base Registry Rendezvous.Membership Directory Identity Admin Wal Persist Recovery

variable {id : NodeId} {netID : NetId} {net : NetView}

/-! ## Commands that give out no id -/

/-- The step gives no id out: what has a node id after it had it before,
and the counters stand. -/
structure Still (s s' : Server) : Prop where
  uses : ∀ id, Uses (view s') id → Uses (view s) id
  nextNode : s'.nextNode = s.nextNode
  nextNet : s'.nextNet = s.nextNet

namespace Still

variable {s s' s'' : Server}

theorem refl (s : Server) : Still s s := ⟨fun _ h => h, rfl, rfl⟩

theorem trans (h : Still s s') (h' : Still s' s'') : Still s s'' where
  uses := fun id hid => h.uses id (h'.uses id hid)
  nextNode := h'.nextNode.trans h.nextNode
  nextNet := h'.nextNet.trans h.nextNet

/-- A step that adds no record and leaves the indices alone. -/
theorem of_nodes (hnodes : ∀ id, s'.nodes.get id ≠ none → s.nodes.get id ≠ none)
    (hkeys : s'.pubKeyIdx = s.pubKeyIdx) (howners : s'.ownerIdx = s.ownerIdx)
    (hhosts : ∀ t id, s'.hostnameIdx.get t = some id → s.hostnameIdx.get t = some id)
    (hnode : s'.nextNode = s.nextNode) (hnet : s'.nextNet = s.nextNet) :
    Still s s' where
  uses := by
    rintro id (h | ⟨t, h⟩ | ⟨t, h⟩ | ⟨t, h⟩)
    · left
      rw [view_nodes_get, Ne, Option.map_eq_none_iff] at h ⊢
      exact hnodes id h
    · exact Or.inr (Or.inl ⟨t, (congrArg (fun m => m.get t) hkeys).symm.trans h⟩)
    · exact Or.inr (Or.inr (Or.inl ⟨t, (congrArg (fun m => m.get t) howners).symm.trans h⟩))
    · exact Or.inr (Or.inr (Or.inr ⟨t, hhosts t id h⟩))
  nextNode := hnode
  nextNet := hnet

/-- Records, networks and inboxes may change. -/
theorem of_same (hnodes : ∀ id, s'.nodes.get id ≠ none → s.nodes.get id ≠ none)
    (h : s' = { s with
      nodes := s'.nodes
      networks := s'.networks
      inviteInbox := s'.inviteInbox
      rbacPreAssign := s'.rbacPreAssign }) : Still s s' :=
  .of_nodes hnodes (by rw [h]) (by rw [h]) (fun t id ht => by rw [h] at ht; exact ht)
    (by rw [h]) (by rw [h])

section

variable (s : Server) (id : NodeId)

theorem modify (f : NodeInfo → NodeInfo) : Still s { s with nodes := s.nodes.modify id f } :=
  .of_same (fun _ hj => mt (GoMap.get_modify_eq_none _ _ _ _).mpr hj) rfl

theorem dropHostname (hostname : String) : Still s (dropHostname s hostname) := by
  unfold Directory.dropHostname
  split
  · exact .refl s
  · refine .of_nodes (fun _ h => h) rfl rfl (fun t id ht => ?_) rfl rfl
    exact GoMap.of_get_del ht

theorem dropNode : Still s (dropNode s id) := by
  refine .of_same (fun j hj => ?_) rfl
  exact GoMap.of_get_del_ne_none hj

theorem departNode (n : NodeInfo) : Still s (departNode s id n) := by
  let left := clearInviteInbox (removeFromNetworks s id n.networks) id
  have hleft : Still s left := .of_same (fun _ h => h) rfl
  exact (hleft.trans (dropHostname left n.hostname)).trans (dropNode _ id)

theorem reapStaleNodes (threshold : Time) (chunk : List NodeId) (s : Server) :
    Still s (reapStaleNodes threshold chunk s) := by
  have hone : ∀ (s : Server) (id : NodeId), Still s (reapNode threshold s id) := by
    intro s id
    unfold reapNode
    split
    · exact .refl s
    · next n _ =>
      split
      · let left := { s with networks := s.networks.modify 0 fun net =>
          { net with members := net.members.erase id } }
        have hleft : Still s left := .of_same (fun _ h => h) rfl
        exact (hleft.trans (dropHostname left n.hostname)).trans (dropNode _ id)
      · exact .refl s
  unfold Directory.reapStaleNodes
  induction chunk generalizing s with
  | nil => exact .refl s
  | cons id chunk ih => exact (hone s id).trans (ih _)

/-- A display name becomes the hostname of a registered node. -/
theorem takeDisplayName (name : String) : Still s (takeDisplayName s id name) := by
  unfold Admin.takeDisplayName
  simp only
  split
  · next hcond =>
    obtain ⟨-, hunnamed, -⟩ := hcond
    obtain ⟨n, hn, -⟩ := (Option.any_eq_true _ _).mp hunnamed
    refine ⟨fun j hj => ?_, rfl, rfl⟩
    have hid : Uses (view s) id := by
      left
      rw [view_nodes_get, hn]
      simp
    have hused : Uses (view s) j ∨ j = id := by
      refine hj.of_old (fun h => Or.inl ?_) (fun _ h => Or.inl h)
        (fun _ h => Or.inl h) fun t ht => owners_of_set (Or.inr rfl) t j ht
      rw [view_nodes_get, Ne, Option.map_eq_none_iff] at h ⊢
      exact mt (GoMap.get_modify_eq_none _ _ _ _).mpr h
    rcases hused with hold | rfl
    · exact hold
    · exact hid
  · exact .refl s

end

/-- The writes of the membership commands give no id out. -/
theorem of_alters {N : NodeId → String → Prop} {C I : Prop} (hC : ¬ C)
    (h : Alters N C I s s') : Still s s' := by
  induction h with
  | refl s => exact .refl s
  | trans _ _ ih ih' => exact ih.trans ih'
  | other h => exact .of_same (fun id hid => by rw [h] at hid; exact hid) (by rw [h])
  | mail s inbox hI => exact .of_same (fun id hid => hid) rfl
  | number s netID hc => exact absurd hc hC
  | record s id hf => exact .modify s id _
  | name s hN => exact .takeDisplayName s _ _

end Still

/-- All other commands give none out. -/
theorem still_step {E : AdminEnv} {s : Server} {op : Op}
    (hop : op.numbers = false) : Still s (step E s op) := by
  by_cases hamends : op.amends = true
  · exact .of_alters (by simp [hop]) (step_alters hamends)
  cases op with
  | register now order remoteAddr msg => cases hop
  | reap threshold chunk => exact .reapStaleNodes threshold chunk s
  | deregister msg =>
    show Still s (answered s (handleDeregister E.toEnv s msg)).1
    cases ho : handleDeregister E.toEnv s msg with
    | error e => exact .refl s
    | ok o =>
      show Still s o.server
      rcases deregister_cases ho with ⟨hserver, -⟩ | ⟨n, -, hserver, -⟩
      · rw [hserver]
        exact .refl s
      · rw [hserver]
        exact .departNode s _ n
  | _ => exact absurd rfl hamends

end Rendezvous.Roster

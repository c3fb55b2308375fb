import Rendezvous.Base.Counter
import Rendezvous.Recovery.Settled

/-!
# Ids in use and the counters of a view

A node id is in use while a record or an index entry has it, a network id
while a network has it or a node lists it. Every delta of the log adds no id,
or one that an open counter is moved past (`advances_apply`), as long as it
finds that counter open.
-/

namespace Rendezvous.Roster

open Base Registry Identity Recovery

variable {id : NodeId} {netID : NetId}

/-! ## Ids in use -/

/-- A record, a key, an owner or a hostname has the node id. -/
def Uses (v : View) (id : NodeId) : Prop :=
  v.nodes.get id ≠ none ∨ (∃ text, v.pubKeyIdx.get text = some id) ∨
    (∃ owner, v.ownerIdx.get owner = some id) ∨
    ∃ hostname, v.hostnameIdx.get hostname = some id

/-- A network has the id, or a node lists it. -/
def UsesNet (v : View) (netID : NetId) : Prop :=
  v.networks.get netID ≠ none ∨ ∃ id n, v.nodes.get id = some n ∧ netID ∈ n.networks

/-- The ids in use are behind the counters. -/
structure Counted (v : View) : Prop where
  nodes : ∀ id, Uses v id → Passed v.nextNode.toNat id.toNat
  nets : ∀ netID, UsesNet v netID → Passed v.nextNet.toNat netID.toNat

/-- What a step may do to both kinds of ids. -/
structure Advances (v v' : View) : Prop where
  nodes : Advance UInt32.toNat UInt32.size (Uses v) (Uses v')
    v.nextNode.toNat v'.nextNode.toNat
  nets : Advance UInt16.toNat UInt16.size (UsesNet v) (UsesNet v')
    v.nextNet.toNat v'.nextNet.toNat

theorem Counted.advances {v v' : View} (hv : Counted v) (h : Advances v v') : Counted v' where
  nodes := h.nodes.passed UInt32.toNat_lt_size hv.nodes
  nets := h.nets.passed UInt16.toNat_lt_size hv.nets

theorem toNat_ne_zero_iff : id.toNat ≠ 0 ↔ id ≠ 0 :=
  not_congr (UInt32.toNat_inj (b := 0))

theorem netToNat_ne_zero_iff : netID.toNat ≠ 0 ↔ netID ≠ 0 :=
  not_congr (UInt16.toNat_inj (b := 0))

/-- The next node id is free. -/
theorem Counted.next_free {v : View} (h : Counted v) (hopen : v.nextNode ≠ 0) :
    ¬ Uses v v.nextNode := fun hused =>
  not_passed_self (toNat_ne_zero_iff.mpr hopen) (h.nodes _ hused)

/-- The next network id is free. -/
theorem Counted.nextNet_free {v : View} (h : Counted v) (hopen : v.nextNet ≠ 0) :
    ¬ UsesNet v v.nextNet := fun hused =>
  not_passed_self (netToNat_ne_zero_iff.mpr hopen) (h.nets _ hused)

theorem toNat_moved (next id : NodeId) : (if next ≤ id then id + 1 else next).toNat =
      movePast UInt32.size next.toNat id.toNat := by
  unfold movePast
  simp only [UInt32.le_iff_toNat_le]
  split
  · exact UInt32.toNat_add id 1
  · rfl

theorem netToNat_moved (next netID : NetId) : (if next ≤ netID then netID + 1 else next).toNat =
      movePast UInt16.size next.toNat netID.toNat := by
  unfold movePast
  simp only [UInt16.le_iff_toNat_le]
  split
  · exact UInt16.toNat_add netID 1
  · rfl

/-! ## What a delta does -/

/-- A delta that brings an id back finds its counter open. -/
def CountsOn (v : View) : Delta → Prop
  | .register d => v.nodes.get d.nodeID = none → v.nextNode ≠ 0
  | .networkCreate d => v.networks.get d.networkID = none → v.nextNet ≠ 0
  | _ => True

section deltas

variable {v v' : View} {d : Delta}

/-- An index with one more entry. -/
theorem of_get_enter {m : GoMap String NodeId} {text t : String} {j : NodeId}
    (h : (enter m text id).get t = some j) : m.get t = some j ∨ j = id := by
  unfold enter at h
  split at h
  · exact Or.inl h
  · exact owners_of_set (Or.inr rfl) t j h

theorem of_get_withdraw {m : GoMap String NodeId} {text t : String} {j : NodeId}
    (h : (withdraw m text).get t = some j) : m.get t = some j := by
  unfold withdraw at h
  split at h
  · exact h
  · exact GoMap.of_get_del h

/-- What has the id after a step had it before, or the step is one that
gives it out. -/
theorem Uses.of_old {C : Prop} (h : Uses v' id)
    (hnodes : v'.nodes.get id ≠ none → v.nodes.get id ≠ none ∨ C)
    (hkeys : ∀ t, v'.pubKeyIdx.get t = some id → v.pubKeyIdx.get t = some id ∨ C)
    (howners : ∀ t, v'.ownerIdx.get t = some id → v.ownerIdx.get t = some id ∨ C)
    (hhosts : ∀ t, v'.hostnameIdx.get t = some id →
      v.hostnameIdx.get t = some id ∨ C) : Uses v id ∨ C := by
  rcases h with hnode | ⟨t, ht⟩ | ⟨t, ht⟩ | ⟨t, ht⟩
  · exact (hnodes hnode).imp_left Or.inl
  · exact (hkeys t ht).imp_left fun hold => Or.inr (Or.inl ⟨t, hold⟩)
  · exact (howners t ht).imp_left fun hold => Or.inr (Or.inr (Or.inl ⟨t, hold⟩))
  · exact (hhosts t ht).imp_left fun hold => Or.inr (Or.inr (Or.inr ⟨t, hold⟩))

/-- A record after a delta was there, or the delta registers it. -/
theorem recorded_apply (h : (v.apply d).nodes.get id ≠ none) :
    v.nodes.get id ≠ none ∨ ∃ r, d = .register r ∧ r.nodeID = id := by
  obtain ⟨n', hn'⟩ := Option.ne_none_iff_exists'.mp h
  rcases node_after hn' with ⟨r, hr, hid, -⟩ | ⟨n, hn, -⟩
  · exact Or.inr ⟨r, hr, hid⟩
  · exact Or.inl (by simp [hn])

theorem uses_apply (h : Uses (v.apply d) id) :
    Uses v id ∨ ∃ r, d = .register r ∧ r.nodeID = id := by
  cases d with
  | register d =>
    simp only [View.apply] at h
    split at h
    · exact Or.inl h
    · refine (h.of_old (C := id = d.nodeID) (fun hnode => ?_)
        (fun t ht => owners_of_set (Or.inr rfl) t id ht) (fun t ht => of_get_enter ht)
        fun t ht => of_get_enter ht).imp_right fun hid => ⟨d, rfl, hid.symm⟩
      change (v.nodes.set d.nodeID _).get id ≠ none at hnode
      exact (GoMap.of_get_set_ne_none hnode).symm
  | deregister i =>
    simp only [View.apply] at h
    split at h
    · exact Or.inl h
    · exact h.of_old (fun hnode => Or.inl (GoMap.of_get_del_ne_none hnode))
        (fun t ht => Or.inl (GoMap.of_get_del ht)) (fun t ht => Or.inl (of_get_withdraw ht))
        fun t ht => Or.inl (of_get_withdraw ht)
  | keyRotation d =>
    left
    simp only [View.apply] at h
    split at h
    · exact h
    · next n hn =>
      have hnode : Uses v d.nodeID := Or.inl (by simp [hn])
      have hused : Uses v id ∨ id = d.nodeID := by
        refine h.of_old (fun hnode => (GoMap.of_get_set_ne_none hnode).symm) (fun t ht => ?_)
          (fun _ ht => Or.inl ht) fun _ ht => Or.inl ht
        exact (owners_of_set (Or.inr rfl) t id ht).imp_left GoMap.of_get_del
      rcases hused with hold | rfl
      · exact hold
      · exact hnode
  | _ =>
    -- the indices stay as they are
    refine h.of_old recorded_apply (fun t ht => ?_) (fun t ht => ?_) fun t ht => ?_
    all_goals
      left
      simp only [View.apply] at ht
      split at ht <;> exact ht

theorem usesNet_apply (h : UsesNet (v.apply d) netID) :
    UsesNet v netID ∨ netID = 0 ∨ ∃ c, d = .networkCreate c ∧ c.networkID = netID := by
  rcases h with hnet | ⟨id, n', hn', hin⟩
  · obtain ⟨net', hnet'⟩ := Option.ne_none_iff_exists'.mp hnet
    rcases net_after hnet' with hnew | ⟨net, hold, -⟩
    · exact Or.inr (Or.inr hnew)
    · exact Or.inl (Or.inl (by simp [hold]))
  · rcases node_after hn' with ⟨-, -, -, hzero⟩ | ⟨n, hn, hstep⟩
    · rw [hzero] at hin
      exact Or.inr (Or.inl (List.mem_singleton.mp hin))
    · rcases hstep.gains netID hin with hold | rfl | hnew
      · exact Or.inl (Or.inr ⟨id, n, hn, hold⟩)
      · left
        -- a network that is not there is not joined
        cases hthere : v.networks.get netID with
        | none =>
          simp only [View.apply, hthere] at hn'
          exact Or.inr ⟨id, n', hn', hin⟩
        | some net => exact Or.inl (by simp [hthere])
      · exact Or.inr (Or.inr hnew)

theorem Advances.refl (v : View) : Advances v v where
  nodes := .keep (fun _ h => Or.inl h) rfl
  nets := .keep (fun _ h => Or.inl h) rfl

/-- What a delta does to node ids in a use that records are and that only a
registration extends. -/
theorem advance_nodes {used used' : NodeId → Prop} (hd : CountsOn v d)
    (hrecords : ∀ id, v.nodes.get id ≠ none → used id)
    (hused : ∀ id, used' id → used id ∨ ∃ r, d = .register r ∧ r.nodeID = id) :
    Advance UInt32.toNat UInt32.size used used' v.nextNode.toNat (v.apply d).nextNode.toNat := by
  cases d with
  | register d =>
    by_cases hhas : v.nodes.has d.nodeID = true
    · refine .keep (fun id hid => ?_) (by rw [View.apply, if_pos hhas])
      rcases hused id hid with hold | ⟨r, ⟨⟩, rfl⟩
      · exact Or.inl hold
      · exact Or.inl (hrecords _ (Option.isSome_iff_ne_none.mp hhas))
    · refine .take d.nodeID (fun id hid => ?_) (toNat_ne_zero_iff.mpr (hd ?_)) ?_
      · rcases hused id hid with hold | ⟨r, ⟨⟩, rfl⟩
        · exact Or.inl hold
        · exact Or.inr (Or.inr rfl)
      · rwa [Bool.not_eq_true, GoMap.has_eq_false] at hhas
      · rw [View.apply, if_neg hhas]
        exact toNat_moved v.nextNode d.nodeID
  | _ =>
    refine .keep (fun id hid => ?_) ?_
    · rcases hused id hid with hold | ⟨r, ⟨⟩, -⟩
      exact Or.inl hold
    · simp only [View.apply]
      split <;> rfl

theorem advance_nets (hd : CountsOn v d) :
    Advance UInt16.toNat UInt16.size (UsesNet v) (UsesNet (v.apply d)) v.nextNet.toNat
      (v.apply d).nextNet.toNat := by
  cases d with
  | networkCreate d =>
    by_cases hhas : v.networks.has d.networkID = true
    · rw [View.apply, if_pos hhas]
      exact .keep (fun _ h => Or.inl h) rfl
    · refine .take d.networkID (fun t ht => ?_) (netToNat_ne_zero_iff.mpr (hd ?_)) ?_
      · rcases usesNet_apply ht with hold | rfl | ⟨c, ⟨⟩, rfl⟩
        · exact Or.inl hold
        · exact Or.inr (Or.inl rfl)
        · exact Or.inr (Or.inr rfl)
      · rwa [Bool.not_eq_true, GoMap.has_eq_false] at hhas
      · rw [View.apply, if_neg hhas]
        exact netToNat_moved v.nextNet d.networkID
  | _ =>
    refine .keep (fun t ht => ?_) ?_
    · rcases usesNet_apply ht with hold | rfl | ⟨c, ⟨⟩, -⟩
      · exact Or.inl hold
      · exact Or.inr rfl
    · simp only [View.apply]
      split <;> rfl

/-- What every delta does to the ids. -/
theorem advances_apply (hd : CountsOn v d) : Advances v (v.apply d) where
  nodes := advance_nodes hd (fun _ h => Or.inl h) fun _ h => uses_apply h
  nets := advance_nets hd

end deltas

end Rendezvous.Roster

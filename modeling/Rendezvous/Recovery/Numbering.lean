import Rendezvous.Roster.Counters

/-!
# Ids in use are behind the counters

Every node id and network id of a view has been passed by its counter, and
so has every network a node lists. A delta that introduces an id introduces
the next one (`Fresh`), and applying such deltas keeps the numbering; so
the next id is never in use.
-/

namespace Rendezvous.Recovery

open Base Registry Roster

/-- Node ids and network ids in use have been passed by their counters. -/
structure Numbered (v : View) : Prop where
  nodes : ∀ id n, v.nodes.get id = some n → id ≠ 0 ∧ (v.nextNode = 0 ∨ id < v.nextNode)
  nets : ∀ netID net, v.networks.get netID = some net → v.nextNet = 0 ∨ netID < v.nextNet
  listed : ∀ id n, v.nodes.get id = some n → ∀ netID ∈ n.networks, v.nextNet = 0 ∨ netID < v.nextNet

/-- A delta that introduces an id introduces the next one. -/
def Fresh (v : View) : Delta → Prop
  | .register d => d.nodeID ≠ 0 ∧ d.nodeID = v.nextNode
  | .networkCreate d => d.networkID ≠ 0 ∧ d.networkID = v.nextNet
  | _ => True

variable {id : NodeId} {v : View}

theorem Numbered.nextNode_free (h : Numbered v) (hne : v.nextNode ≠ 0) :
    v.nodes.get v.nextNode = none := by
  cases hget : v.nodes.get v.nextNode with
  | none => rfl
  | some n =>
    rcases (h.nodes _ n hget).2 with hzero | hlt
    · exact absurd hzero hne
    · exact absurd hlt (UInt32.lt_irrefl _)

theorem Numbered.nextNet_free (h : Numbered v) (hne : v.nextNet ≠ 0) :
    v.networks.get v.nextNet = none := by
  cases hget : v.networks.get v.nextNet with
  | none => rfl
  | some net =>
    rcases h.nets _ net hget with hzero | hlt
    · exact absurd hzero hne
    · exact absurd hlt (UInt16.lt_irrefl _)

theorem Numbered.nextNet_unlisted (h : Numbered v) (hne : v.nextNet ≠ 0) {n : NodeView}
    (hn : v.nodes.get id = some n) : v.nextNet ∉ n.networks := by
  intro hmem
  rcases h.listed id n hn _ hmem with hzero | hlt
  · exact absurd hzero hne
  · exact absurd hlt (UInt16.lt_irrefl _)

private theorem node_passed_iff {next : NodeId} :
    Passed next.toNat id.toNat ↔ next = 0 ∨ id < next := by
  rw [Passed, ← UInt32.toNat_inj, UInt32.lt_iff_toNat_lt, UInt32.toNat_zero]

private theorem net_passed_iff {next netID : NetId} :
    Passed next.toNat netID.toNat ↔ next = 0 ∨ netID < next := by
  rw [Passed, ← UInt16.toNat_inj, UInt16.lt_iff_toNat_lt, UInt16.toNat_zero]

theorem Numbered.usesNet_passed (h : Numbered v) (netID : NetId) (hused : UsesNet v netID) :
    Passed v.nextNet.toNat netID.toNat := by
  rw [net_passed_iff]
  rcases hused with hnet | ⟨id, n, hn, hmem⟩
  · obtain ⟨net, hnet⟩ := Option.ne_none_iff_exists'.mp hnet
    exact h.nets netID net hnet
  · exact h.listed id n hn netID hmem

theorem Numbered.recorded_passed (h : Numbered v) (id : NodeId) (hrecord : v.nodes.get id ≠ none) :
    id ≠ 0 ∧ Passed v.nextNode.toNat id.toNat := by
  rw [node_passed_iff]
  obtain ⟨n, hn⟩ := Option.ne_none_iff_exists'.mp hrecord
  exact h.nodes id n hn

theorem Fresh.countsOn {d : Delta} (h : Fresh v d) : CountsOn v d := by
  cases d with
  | register d | networkCreate d => exact fun _ => h.2 ▸ h.1
  | _ => trivial

/-- A delta that introduces only the next id keeps the numbering. -/
theorem Numbered.apply {d : Delta} (h : Numbered v) (hfresh : Fresh v d) :
    Numbered (v.apply d) := by
  have hnodes := (advance_nodes hfresh.countsOn (fun _ hid => hid) fun _ => recorded_apply).passed
    UInt32.toNat_lt_size fun id hid => (h.recorded_passed id hid).2
  have hnets := (advance_nets hfresh.countsOn).passed UInt16.toNat_lt_size h.usesNet_passed
  refine ⟨fun id n' hn' => ?_, fun netID net hnet => ?_, fun id n hn netID hmem => ?_⟩
  · have hrecord : (v.apply d).nodes.get id ≠ none := by simp [hn']
    refine ⟨?_, node_passed_iff.mp (hnodes id hrecord)⟩
    rcases recorded_apply hrecord with hold | ⟨r, rfl, rfl⟩
    · exact (h.recorded_passed id hold).1
    · exact hfresh.1
  · exact net_passed_iff.mp (hnets netID (Or.inl (by simp [hnet])))
  · exact net_passed_iff.mp (hnets netID (Or.inr ⟨id, n, hn, hmem⟩))

end Rendezvous.Recovery

import Rendezvous.Roster.Disk
import Rendezvous.Roster.Edits

/-!
# What a replay makes of a network's record

A delta that is replayed creates a network under an id that is free, deletes
one, or edits the record it finds. `edit_applyOr` is the rule for one delta,
as `edit_apply` is for a move.
-/

namespace Rendezvous.Roster

open Base Registry Rendezvous.Membership Wal

/-- What the delta makes of a record it finds under the id. -/
inductive DeltaEdit : Delta → NetId → NetworkInfo → NetworkInfo → Prop where
  | register (x : RegisterDelta) (net : NetworkInfo) :
      DeltaEdit (.register x) 0 net (attend x.nodeID net)
  | deregister (id : NodeId) (netID : NetId) (net : NetworkInfo) :
      DeltaEdit (.deregister id) netID net (dropMember net id)
  | join (id : NodeId) (netID : NetId) (net : NetworkInfo) :
      DeltaEdit (.networkJoin id netID) netID net (enroll id net)
  | leave (id : NodeId) (netID : NetId) (net : NetworkInfo) :
      DeltaEdit (.networkLeave id netID) netID net (dropMember net id)

variable {now : Time} {s : Server}

/-- Where a record comes from that is there after a delta. -/
theorem edit_applyOr {R : NetId → NetworkInfo → NetworkInfo → Prop}
    (hrefl : ∀ t net, R t net net)
    (htrans : ∀ t net₁ net₂ net₃, R t net₁ net₂ → R t net₂ net₃ → R t net₁ net₃)
    {d : Delta} (hedit : ∀ t net net', DeltaEdit d t net net' → R t net net')
    (hd : WellFormed d) {netID : NetId} {net' : NetworkInfo}
    (h : (applyOr now s d).networks.get netID = some net') :
    (∃ net, s.networks.get netID = some net ∧ R netID net net') ∨
      ∃ x, d = .networkCreate x ∧ x.networkID = netID ∧ s.networks.get netID = none ∧
        net' = deltaNetwork now x := by
  have hnets : ∀ {r : Roll}, roll (applyOr now s d) = r → r.networks.get netID = some net' := by
    rintro r rfl
    exact h
  have hsame : roll (applyOr now s d) = roll s →
      ∃ net, s.networks.get netID = some net ∧ R netID net net' :=
    fun hroll => ⟨net', hnets hroll, hrefl _ _⟩
  -- Most deltas make a move, which edits no other way.
  have hmove : ∀ m : Move, roll (applyOr now s d) = m.apply (roll s) →
      (∀ net, ¬ Places m netID net) →
      (∀ t net net', Edit m t net net' → DeltaEdit d t net net') →
      ∃ net, s.networks.get netID = some net ∧ R netID net net' := by
    intro m hroll hplaces hsub
    rcases edit_apply hrefl htrans (fun t net net' he => hedit t net net' (hsub t net net' he))
      (hnets hroll) with hold | hplace
    · exact hold
    · exact absurd hplace (hplaces net')
  cases d with
  | register x =>
    have hroll : roll (applyOr now s (.register x)) = _ := roll_registerDelta hd
    split at hroll
    · exact Or.inl (hsame hroll)
    · refine Or.inl (hmove _ hroll (fun _ hplace => hplace) ?_)
      rintro _ _ _ ⟨⟩
      exact .register x _
  | deregister id =>
    have hroll : roll (applyOr now s (.deregister id)) = _ := roll_deregisterDelta id
    split at hroll
    · refine Or.inl (hmove _ hroll (fun _ hplace => hplace) ?_)
      rintro _ _ _ ⟨⟩
      exact .deregister id _ _
    · exact Or.inl (hsame hroll)
  | networkDelete t =>
    have hroll : roll (applyOr now s (.networkDelete t)) = _ := roll_deleteDelta t
    split at hroll
    · refine Or.inl (hmove _ hroll (fun _ hplace => hplace) ?_)
      rintro _ _ _ ⟨⟩
    · exact Or.inl (hsame hroll)
  | networkLeave id t =>
    have hroll : roll (applyOr now s (.networkLeave id t)) = _ := roll_leaveDelta id t
    split at hroll
    · refine Or.inl (hmove _ hroll (fun _ hplace => hplace) ?_)
      rintro _ _ _ ⟨⟩
      exact .leave id _ _
    · exact Or.inl (hsame hroll)
  | keyRotation x => exact Or.inl (hsame (roll_rotationDelta x))
  | networkCreate x =>
    have hroll : roll (applyOr now s (.networkCreate x)) = _ := roll_createDelta x
    split at hroll
    · exact Or.inl (hsame hroll)
    · next hfree =>
      have hget := hnets hroll
      rcases GoMap.of_get_set hget with ⟨rfl, rfl⟩ | hold
      · rw [Bool.not_eq_true, GoMap.has_eq_false] at hfree
        exact Or.inr ⟨x, rfl, rfl, hfree, rfl⟩
      · exact Or.inl ⟨net', hold, hrefl _ _⟩
  | networkJoin id t =>
    have hroll : roll (applyOr now s (.networkJoin id t)) = _ := roll_joinDelta id t
    split at hroll
    · obtain ⟨net, hnet, rfl | ⟨rfl, rfl⟩⟩ := GoMap.of_get_modify (hnets hroll)
      · exact Or.inl ⟨_, hnet, hrefl _ _⟩
      · exact Or.inl ⟨net, hnet, hedit _ _ _ (.join id _ net)⟩
    · exact Or.inl (hsame hroll)

end Rendezvous.Roster

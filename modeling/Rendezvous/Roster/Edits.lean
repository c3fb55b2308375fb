import Rendezvous.Roster.Op

/-!
# What becomes of a network's record

A move puts a record under an id, takes one away, or edits the record it
finds. `edit_apply` and `edit_applyAll` carry a relation that every edit of
a move respects to the records before and after: where a record comes from
that is there after the moves, and how it relates to the one before.
-/

namespace Rendezvous.Roster

open Base Registry Rendezvous.Membership Admin

/-- The move places the record under the id. -/
def Places : Move → NetId → NetworkInfo → Prop
  | .found t net _, netID, net' => t = netID ∧ net = net'
  | .place t net, netID, net' => t = netID ∧ net = net'
  | _, _, _ => False

/-- What the move makes of a record it finds under the id. A node that
departs may list a network more than once. -/
inductive Edit : Move → NetId → NetworkInfo → NetworkInfo → Prop where
  | arrive (id : NodeId) (nets : List NetId) (net : NetworkInfo) :
      Edit (.arrive id nets) 0 net (attend id net)
  | vanish (id : NodeId) (net : NetworkInfo) : Edit (.vanish id) 0 net (unattend id net)
  | depart (id : NodeId) (netID : NetId) (net : NetworkInfo) :
      Edit (.depart id) netID net (dropMember net id)
  | join (id : NodeId) (netID : NetId) (role : Role) (net : NetworkInfo) :
      Edit (.join id netID role) netID net (joinedAs net id role)
  | drop (id : NodeId) (netID : NetId) (net : NetworkInfo) :
      Edit (.drop id netID) netID net (dropMember net id)
  | expel (id : NodeId) (netID : NetId) (net : NetworkInfo) :
      Edit (.expel id netID) netID net (dropMember net id)
  | assign (id : NodeId) (netID : NetId) (role : Role) (net : NetworkInfo) :
      Edit (.assign id netID role) netID net (setRole net id role)
  | tag (id : NodeId) (netID : NetId) (tags : List String) (net : NetworkInfo) :
      Edit (.tag id netID tags) netID net (retagged net id tags)
  | flag (netID : NetId) (enterprise : Bool) (net : NetworkInfo) :
      Edit (.flag netID enterprise) netID net (flagged net enterprise)
  | equip (netID : NetId) (bp : NetworkBlueprint) (net : NetworkInfo) :
      Edit (.equip netID bp) netID net (applyToNetwork bp net)

section

variable {R : NetId → NetworkInfo → NetworkInfo → Prop} (hrefl : ∀ t net, R t net net)
  (htrans : ∀ t net₁ net₂ net₃, R t net₁ net₂ → R t net₂ net₃ → R t net₁ net₃)

include hrefl htrans

/-- Where a record comes from that is there after a move. -/
theorem edit_apply {m : Move} (hedit : ∀ t net net', Edit m t net net' → R t net net')
    {r : Roll} {netID : NetId} {net' : NetworkInfo}
    (h : (m.apply r).networks.get netID = some net') :
    (∃ net, r.networks.get netID = some net ∧ R netID net net') ∨ Places m netID net' := by
  have hmodify : ∀ {t : NetId} {f : NetworkInfo → NetworkInfo},
      (r.networks.modify t f).get netID = some net' → (∀ net, Edit m t net (f net)) →
      ∃ net, r.networks.get netID = some net ∧ R netID net net' := by
    intro t f hget hf
    obtain ⟨net, hnet, rfl | ⟨rfl, rfl⟩⟩ := GoMap.of_get_modify hget
    · exact ⟨_, hnet, hrefl _ _⟩
    · exact ⟨net, hnet, hedit _ _ _ (hf net)⟩
  have hset : ∀ {t : NetId} {net : NetworkInfo}, (r.networks.set t net).get netID = some net' →
      (∃ net, r.networks.get netID = some net ∧ R netID net net') ∨ (t = netID ∧ net = net') := by
    intro t net hget
    rcases GoMap.of_get_set hget with ⟨rfl, rfl⟩ | hold
    · exact Or.inr ⟨rfl, rfl⟩
    · exact Or.inl ⟨net', hold, hrefl _ _⟩
  cases m with
  | arrive id nets => exact Or.inl (hmodify h fun net => .arrive id nets net)
  | vanish id => exact Or.inl (hmodify h fun net => .vanish id net)
  | depart id =>
    exact Or.inl (GoMap.of_get_foldl_modify hrefl htrans
      (fun t _ net => hedit t net _ (.depart id t net)) h)
  | remove t =>
    exact Or.inl ⟨net', (GoMap.of_get_del h), hrefl _ _⟩
  | join id t role => exact Or.inl (hmodify h fun net => .join id t role net)
  | drop id t => exact Or.inl (hmodify h fun net => .drop id t net)
  | expel id t => exact Or.inl (hmodify h fun net => .expel id t net)
  | assign id t role => exact Or.inl (hmodify h fun net => .assign id t role net)
  | tag id t tags => exact Or.inl (hmodify h fun net => .tag id t tags net)
  | flag t enterprise => exact Or.inl (hmodify h fun net => .flag t enterprise net)
  | equip t bp => exact Or.inl (hmodify h fun net => .equip t bp net)
  | _ => exact hset h

/-- The same after moves one after the other. -/
theorem edit_applyAll {ms : List Move}
    (hedit : ∀ m ∈ ms, ∀ t net net', Edit m t net net' → R t net net') {r : Roll}
    {netID : NetId} {net' : NetworkInfo}
    (h : (Move.applyAll r ms).networks.get netID = some net') :
    ∃ net, (r.networks.get netID = some net ∨ ∃ m ∈ ms, Places m netID net) ∧ R netID net net' := by
  induction ms generalizing r with
  | nil => exact ⟨net', Or.inl h, hrefl _ _⟩
  | cons m ms ih =>
    obtain ⟨net₁, hfrom, hrel⟩ := ih (fun m' hm' => hedit m' (by simp [hm'])) h
    rcases hfrom with hget | ⟨m', hm', hplace⟩
    · rcases edit_apply hrefl htrans (hedit m (by simp)) hget with ⟨net, hnet, hfirst⟩ | hplace
      · exact ⟨net, Or.inl hnet, htrans _ _ _ _ hfirst hrel⟩
      · exact ⟨net₁, Or.inr ⟨m, by simp, hplace⟩, hrel⟩
    · exact ⟨net₁, Or.inr ⟨m', by simp [hm'], hplace⟩, hrel⟩

end

end Rendezvous.Roster

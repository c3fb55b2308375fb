import Rendezvous.Roster.Op

/-!
# Both sides of the roll

The roll is mirrored when the two sides agree: a registered node lists a
network exactly when the network lists the node, no network lists a node
twice, and every registered node is on the backbone. This file says under
which condition each move keeps the roll mirrored, and what that comes to
for each command.
-/

namespace Rendezvous.Roster

open Base Registry Rendezvous.Membership Directory Identity Admin

variable {id : NodeId} {netID : NetId} {nets order : List NetId} {net : NetworkInfo} {s : Server}
  {msg : Msg}

/-- The two sides agree. The last three fields are what the first three
rest on: lists name no network twice and none that is not there, and the
backbone is there. -/
structure Mirrored (r : Roll) : Prop where
  agree : ∀ {id nets netID net}, r.lists.get id = some nets →
    r.networks.get netID = some net → (netID ∈ nets ↔ id ∈ net.members)
  once : r.networks.All fun net => net.members.Nodup
  home : ∀ {id nets}, r.lists.get id = some nets → 0 ∈ nets
  listed : ∀ {id nets}, r.lists.get id = some nets → nets.Nodup
  known : ∀ {id nets netID}, r.lists.get id = some nets → netID ∈ nets → r.networks.get netID ≠ none
  root : r.networks.get 0 ≠ none

variable {E : AdminEnv} {ms : List Move} {g : List NetId → List NetId}
  {f : NetworkInfo → NetworkInfo}

namespace Mirrored

variable {r : Roll}

/-! ## Moves that touch no membership -/

section

variable (h : Mirrored r)
include h

/-- Records may change in everything but their members. -/
theorem of_sameMembers {r' : Roll} (hlists : r'.lists = r.lists)
    (hmembers : ∀ t, (r'.networks.get t).map NetworkInfo.members =
      (r.networks.get t).map NetworkInfo.members) : Mirrored r' := by
  have hback : ∀ {t net'}, r'.networks.get t = some net' →
      ∃ net, r.networks.get t = some net ∧ net'.members = net.members := by
    intro t net' hnet'
    have hsome := hmembers t
    rw [hnet', Option.map_some] at hsome
    obtain ⟨net, hnet, heq⟩ := Option.map_eq_some_iff.mp hsome.symm
    exact ⟨net, hnet, heq.symm⟩
  have hthere : ∀ {t}, r.networks.get t ≠ none → r'.networks.get t ≠ none := by
    intro t ht hnone
    have hsome := hmembers t
    rw [hnone, Option.map_none] at hsome
    exact ht (Option.map_eq_none_iff.mp hsome.symm)
  constructor
  · intro id nets t net' hlist hnet'
    obtain ⟨net, hnet, heq⟩ := hback hnet'
    rw [heq]
    exact h.agree (hlists ▸ hlist) hnet
  · intro t net' hnet'
    obtain ⟨net, hnet, heq⟩ := hback hnet'
    show net'.members.Nodup
    rw [heq]
    exact h.once t net hnet
  · exact fun hlist => h.home (hlists ▸ hlist)
  · exact fun hlist => h.listed (hlists ▸ hlist)
  · exact fun hlist ht => hthere (h.known (hlists ▸ hlist) ht)
  · exact hthere h.root

theorem amend (hf : ∀ net, (f net).members = net.members) (netID : NetId) :
    Mirrored { r with networks := r.networks.modify netID f } := by
  refine h.of_sameMembers rfl fun t => ?_
  rw [GoMap.get_modify]
  split
  · next ht =>
    subst ht
    rw [Option.map_map]
    exact congrArg (fun g => (r.networks.get t).map g) (funext hf)
  · rfl

theorem assign (id : NodeId) (netID : NetId) (role : Role) :
    Mirrored ((Move.assign id netID role).apply r) :=
  h.amend (f := fun net => setRole net id role) (fun _ => rfl) netID

theorem tag (id : NodeId) (netID : NetId) (tags : List String) :
    Mirrored ((Move.tag id netID tags).apply r) :=
  h.amend (f := fun net => retagged net id tags) (fun _ => rfl) netID

theorem flag (netID : NetId) (enterprise : Bool) :
    Mirrored ((Move.flag netID enterprise).apply r) :=
  h.amend (f := fun net => flagged net enterprise) (fun _ => rfl) netID

theorem equip (netID : NetId) (bp : NetworkBlueprint) : Mirrored ((Move.equip netID bp).apply r) :=
  h.amend (f := applyToNetwork bp) (fun _ => rfl) netID

/-! ## One node and one network -/

/-- A move that changes whether one node is in one network keeps the roll
mirrored when it changes both sides alike, off the backbone. -/
theorem touch (hnodup : ∀ net, r.networks.get netID = some net → (f net).members.Nodup)
    (hothers : ∀ net, ∀ j ≠ id, j ∈ (f net).members ↔ j ∈ net.members)
    (hlist : ∀ nets, r.lists.get id = some nets →
      (g nets).Nodup ∧ (∀ t ≠ netID, t ∈ g nets ↔ t ∈ nets) ∧
      (netID ∈ g nets → r.networks.get netID ≠ none) ∧
      ∀ net, r.networks.get netID = some net →
        (netID ∈ g nets ↔ id ∈ (f net).members)) (hzero : netID ≠ 0 ∨ r.lists.get id = none) :
    Mirrored {
      lists := r.lists.modify id g
      networks := r.networks.modify netID f } := by
  have hlists : ∀ {j nets}, (r.lists.modify id g).get j = some nets →
      j ≠ id ∧ r.lists.get j = some nets ∨
        j = id ∧ ∃ nets₀, r.lists.get id = some nets₀ ∧ nets = g nets₀ := by
    intro j nets hj
    by_cases hid : j = id
    · subst hid
      rw [GoMap.get_modify_self] at hj
      obtain ⟨nets₀, hnets₀, rfl⟩ := Option.map_eq_some_iff.mp hj
      exact Or.inr ⟨rfl, nets₀, hnets₀, rfl⟩
    · rw [GoMap.get_modify_ne _ _ hid] at hj
      exact Or.inl ⟨hid, hj⟩
  constructor
  · intro j nets t net hj hnet
    by_cases ht : t = netID
    · subst ht
      rw [GoMap.get_modify_self] at hnet
      obtain ⟨net₀, hnet₀, rfl⟩ := Option.map_eq_some_iff.mp hnet
      rcases hlists hj with ⟨hne, hj'⟩ | ⟨rfl, nets₀, hnets₀, rfl⟩
      · rw [hothers net₀ j hne]
        exact h.agree hj' hnet₀
      · exact (hlist nets₀ hnets₀).2.2.2 net₀ hnet₀
    · rw [GoMap.get_modify_ne _ _ ht] at hnet
      rcases hlists hj with ⟨-, hj'⟩ | ⟨rfl, nets₀, hnets₀, rfl⟩
      · exact h.agree hj' hnet
      · rw [(hlist nets₀ hnets₀).2.1 t ht]
        exact h.agree hnets₀ hnet
  · exact h.once.modify_at fun net hnet _ => hnodup net hnet
  · intro j nets hj
    rcases hlists hj with ⟨-, hj'⟩ | ⟨rfl, nets₀, hnets₀, rfl⟩
    · exact h.home hj'
    · rcases hzero with hne | hnone
      · exact ((hlist nets₀ hnets₀).2.1 0 (Ne.symm hne)).mpr (h.home hnets₀)
      · rw [hnone] at hnets₀
        cases hnets₀
  · intro j nets hj
    rcases hlists hj with ⟨-, hj'⟩ | ⟨rfl, nets₀, hnets₀, rfl⟩
    · exact h.listed hj'
    · exact (hlist nets₀ hnets₀).1
  · intro j nets t hj ht
    rw [Ne, GoMap.get_modify_eq_none]
    rcases hlists hj with ⟨-, hj'⟩ | ⟨rfl, nets₀, hnets₀, rfl⟩
    · exact h.known hj' ht
    · by_cases htn : t = netID
      · subst htn
        exact (hlist nets₀ hnets₀).2.2.1 ht
      · exact h.known hnets₀ (((hlist nets₀ hnets₀).2.1 t htn).mp ht)
  · rw [Ne, GoMap.get_modify_eq_none]
    exact h.root

theorem join (hlist : r.lists.get id = some nets) (hnet : r.networks.get netID = some net)
    (hnew : netID ∉ nets) (role : Role) : Mirrored ((Move.join id netID role).apply r) := by
  have hmembers : ∀ net : NetworkInfo, (joinedAs net id role).members =
      net.members ++ [id] := fun _ => rfl
  have habsent : id ∉ net.members := fun hin => hnew ((h.agree hlist hnet).mpr hin)
  refine h.touch ?_ ?_ ?_ (Or.inl ?_)
  · intro net' hnet'
    cases hnet.symm.trans hnet'
    rw [hmembers]
    simpa using (h.once netID net hnet).concat habsent
  · intro net' j hj
    rw [hmembers]
    simp [hj]
  · intro nets' hnets'
    cases hlist.symm.trans hnets'
    refine ⟨?_, ?_, fun _ => by simp [hnet], fun net' _ => by simp [hmembers]⟩
    · simpa using (h.listed hlist).concat hnew
    · intro t ht
      simp [ht]
  · rintro rfl
    exact hnew (h.home hlist)

/-- Dropping a node, whatever way the network leaves its list. -/
theorem dropped (hg : ∀ nets : List NetId, nets.Nodup →
      (g nets).Nodup ∧ (∀ t, t ∈ g nets ↔ t ≠ netID ∧ t ∈ nets))
    (hzero : netID ≠ 0 ∨ r.lists.get id = none) :
    Mirrored {
      lists := r.lists.modify id g
      networks := r.networks.modify netID fun net => dropMember net id } := by
  have hmembers : ∀ net : NetworkInfo, (dropMember net id).members =
      net.members.erase id := fun _ => rfl
  refine h.touch ?_ ?_ ?_ hzero
  · intro net hnet
    exact (h.once netID net hnet).erase id
  · intro net j hj
    rw [hmembers, List.mem_erase_of_ne hj]
  · intro nets hnets
    obtain ⟨hnodup, hmem⟩ := hg nets (h.listed hnets)
    refine ⟨hnodup, fun t ht => by simp [hmem, ht], fun hin => ?_, fun net hnet => ?_⟩
    · exact absurd rfl ((hmem netID).mp hin).1
    · rw [hmem, hmembers, (h.once netID net hnet).mem_erase_iff]
      simp

theorem drop (hzero : netID ≠ 0 ∨ r.lists.get id = none) :
    Mirrored ((Move.drop id netID).apply r) := by
  refine h.dropped (fun nets hnodup => ⟨hnodup.erase netID, fun t => ?_⟩) hzero
  exact hnodup.mem_erase_iff

theorem expel (hzero : netID ≠ 0 ∨ r.lists.get id = none) :
    Mirrored ((Move.expel id netID).apply r) := by
  refine h.dropped (fun nets hnodup => ⟨hnodup.filter _, fun t => ?_⟩) hzero
  simp [and_comm]

/-! ## Networks that come and go -/

/-- A network under a free id is listed by nobody. -/
theorem unlisted (hfree : r.networks.get netID = none) (hlist : r.lists.get id = some nets) :
    netID ∉ nets :=
  fun hin => h.known hlist hin hfree

end

theorem get_set_ne_none {t : NetId} (h : r.networks.get t ≠ none) :
    (r.networks.set netID net).get t ≠ none := by
  rw [GoMap.get_set]
  split
  · simp
  · exact h

theorem place (h : Mirrored r) (hfree : r.networks.get netID = none) (hempty : net.members = []) :
    Mirrored ((Move.place netID net).apply r) where
  agree := by
    intro id nets t net' hlist hnet'
    change (r.networks.set netID net).get t = some net' at hnet'
    rcases GoMap.of_get_set hnet' with ⟨rfl, rfl⟩ | hold
    · simp [h.unlisted hfree hlist, hempty]
    · exact h.agree hlist hold
  once := h.once.set netID (by simp [hempty])
  home := h.home
  listed := h.listed
  known := fun hlist ht => get_set_ne_none (h.known hlist ht)
  root := get_set_ne_none h.root

theorem found (h : Mirrored r) {creator : NodeId} (hfree : r.networks.get netID = none)
    (hmembers : net.members = [creator]) :
    Mirrored ((Move.found netID net creator).apply r) := by
  have hlists : ∀ {j nets}, ((Move.found netID net creator).apply r).lists.get j =
      some nets → ∃ nets₀, r.lists.get j = some nets₀ ∧
        nets = if j = creator then nets₀ ++ [netID] else nets₀ := by
    intro j nets hj
    change (r.lists.modify creator fun nets => nets ++ [netID]).get j = some nets at hj
    obtain ⟨nets₀, hnets₀, hcase⟩ := GoMap.of_get_modify hj
    refine ⟨nets₀, hnets₀, ?_⟩
    by_cases hjc : j = creator
    · subst hjc
      rw [GoMap.get_modify_self, hnets₀] at hj
      rw [if_pos rfl, ← Option.some.inj hj]
    · rw [GoMap.get_modify_ne _ _ hjc, hnets₀] at hj
      rw [if_neg hjc, ← Option.some.inj hj]
  constructor
  · intro j nets t net' hj hnet'
    obtain ⟨nets₀, hnets₀, rfl⟩ := hlists hj
    have hfresh := h.unlisted hfree hnets₀
    change (r.networks.set netID net).get t = some net' at hnet'
    rw [GoMap.get_set] at hnet'
    split at hnet'
    · next ht =>
      subst ht
      cases hnet'
      rw [hmembers, List.mem_singleton]
      split
      · next hjc => simp [hjc]
      · next hjc => simp [hjc, hfresh]
    · next ht =>
      rw [← h.agree hnets₀ hnet']
      split
      · simp [ht]
      · exact Iff.rfl
  · exact h.once.set netID (by simp [hmembers])
  · intro j nets hj
    obtain ⟨nets₀, hnets₀, rfl⟩ := hlists hj
    have hhome := h.home hnets₀
    split
    · exact List.mem_append_left _ hhome
    · exact hhome
  · intro j nets hj
    obtain ⟨nets₀, hnets₀, rfl⟩ := hlists hj
    split
    · simpa using (h.listed hnets₀).concat (h.unlisted hfree hnets₀)
    · exact h.listed hnets₀
  · intro j nets t hj ht
    obtain ⟨nets₀, hnets₀, rfl⟩ := hlists hj
    by_cases htn : t = netID
    · subst htn
      show (r.networks.set t net).get t ≠ none
      simp
    · refine get_set_ne_none (h.known hnets₀ ?_)
      split at ht
      · simpa [htn] using ht
      · exact ht
  · exact get_set_ne_none h.root

/-- Where every list names a network once, a pass over the members that
strikes it out leaves it in no list it passed. -/
theorem get_strike {lists : GoMap NodeId (List NetId)}
    (hlists : lists.All List.Nodup) (members : List NodeId) (netID : NetId)
    (j : NodeId) :
    (members.foldl (fun m id => m.modify id fun nets => nets.erase netID)
      lists).get j =
      (lists.get j).map fun nets => if j ∈ members then nets.erase netID else nets := by
  induction members generalizing lists with
  | nil => simp
  | cons m members ih =>
    rw [List.foldl_cons, ih (hlists.modify m fun nets hn => hn.erase netID)]
    by_cases hjm : j = m
    · subst hjm
      rw [GoMap.get_modify_self]
      cases hget : lists.get j with
      | none => rfl
      | some nets =>
        have hgone : netID ∉ nets.erase netID := fun hin =>
          absurd rfl (((hlists j nets hget).mem_erase_iff.mp hin).1)
        simp [List.erase_of_not_mem hgone]
    · rw [GoMap.get_modify_ne _ _ hjm]
      simp [hjm]

theorem remove (h : Mirrored r) (hzero : netID ≠ 0) : Mirrored ((Move.remove netID).apply r) := by
  have hnodup : r.lists.All List.Nodup := fun id nets hlist => h.listed hlist
  -- The list of a registered node loses the network and nothing else.
  have hlists : ∀ {j nets}, ((Move.remove netID).apply r).lists.get j = some nets →
      ∃ nets₀, r.lists.get j = some nets₀ ∧ nets.Nodup ∧ (∀ t ≠ netID, t ∈ nets ↔ t ∈ nets₀) ∧
        (r.networks.get netID ≠ none → netID ∉ nets) := by
    intro j nets hj
    change (List.foldl _ r.lists _).get j = some nets at hj
    rw [get_strike hnodup] at hj
    obtain ⟨nets₀, hnets₀, rfl⟩ := Option.map_eq_some_iff.mp hj
    have hn₀ := h.listed hnets₀
    refine ⟨nets₀, hnets₀, ?_, ?_, ?_⟩
    · split
      · exact hn₀.erase netID
      · exact hn₀
    · intro t ht
      split
      · exact List.mem_erase_of_ne ht
      · exact Iff.rfl
    · intro hsome hin
      obtain ⟨net, hnet⟩ := Option.ne_none_iff_exists'.mp hsome
      rw [hnet] at hin
      split at hin
      · exact absurd rfl (hn₀.mem_erase_iff.mp hin).1
      · next hout => exact hout ((h.agree hnets₀ hnet).mp hin)
  have hnets : ∀ {t net}, ((Move.remove netID).apply r).networks.get t = some net →
      t ≠ netID ∧ r.networks.get t = some net := by
    intro t net ht
    change (r.networks.del netID).get t = some net at ht
    rw [GoMap.get_del] at ht
    split at ht
    · cases ht
    · next hne => exact ⟨hne, ht⟩
  constructor
  · intro j nets t net hj ht
    obtain ⟨nets₀, hnets₀, -, hsame, -⟩ := hlists hj
    obtain ⟨hne, hnet⟩ := hnets ht
    rw [hsame t hne]
    exact h.agree hnets₀ hnet
  · exact h.once.del netID
  · intro j nets hj
    obtain ⟨nets₀, hnets₀, -, hsame, -⟩ := hlists hj
    exact (hsame 0 (Ne.symm hzero)).mpr (h.home hnets₀)
  · intro j nets hj
    obtain ⟨_, -, hn, -, -⟩ := hlists hj
    exact hn
  · intro j nets t hj ht
    obtain ⟨nets₀, hnets₀, -, hsame, hgone⟩ := hlists hj
    show (r.networks.del netID).get t ≠ none
    by_cases hne : t = netID
    · subst hne
      -- A network that was not there was in no list either.
      by_cases hsome : r.networks.get t = none
      · change (List.foldl _ r.lists _).get j = some nets at hj
        rw [get_strike hnodup, hnets₀, hsome] at hj
        have hnets : nets₀ = nets := by simpa using hj
        exact absurd (hnets ▸ ht) (h.unlisted hsome hnets₀)
      · exact absurd ht (hgone hsome)
    · rw [GoMap.get_del_ne _ hne]
      exact h.known hnets₀ ((hsame t hne).mp ht)
  · show (r.networks.del netID).get 0 ≠ none
    rw [GoMap.get_del_ne _ (Ne.symm hzero)]
    exact h.root

/-! ## Nodes that come and go -/

theorem mem_attend (id j : NodeId) (net : NetworkInfo) :
    j ∈ (attend id net).members ↔ j ∈ net.members ∨ j = id := by
  unfold attend
  split
  · next hin =>
    rw [List.contains_iff_mem] at hin
    constructor
    · exact Or.inl
    · rintro (hj | rfl)
      · exact hj
      · exact hin
  · simp

theorem nodup_attend (h : net.members.Nodup) : (attend id net).members.Nodup := by
  unfold attend
  split
  · exact h
  · next hout =>
    rw [List.contains_iff_mem] at hout
    simpa using h.concat hout

/-- A node may arrive with the networks, beside the backbone, that list it
already. -/
theorem arrive (h : Mirrored r) (hnodup : nets.Nodup) (hhome : 0 ∈ nets)
    (hknown : ∀ t ∈ nets, r.networks.get t ≠ none)
    (hagree : ∀ t net, t ≠ 0 → r.networks.get t = some net → (t ∈ nets ↔ id ∈ net.members)) :
    Mirrored ((Move.arrive id nets).apply r) := by
  have hlists : ∀ {j nets'}, ((Move.arrive id nets).apply r).lists.get j =
      some nets' → j = id ∧ nets' = nets ∨ j ≠ id ∧ r.lists.get j = some nets' := by
    intro j nets' hj
    change (r.lists.set id nets).get j = some nets' at hj
    rw [GoMap.get_set] at hj
    split at hj
    · next heq => exact Or.inl ⟨heq, (Option.some.inj hj).symm⟩
    · next hne => exact Or.inr ⟨hne, hj⟩
  have hthere : ∀ {t}, r.networks.get t ≠ none →
      ((Move.arrive id nets).apply r).networks.get t ≠ none := by
    intro t ht
    show (r.networks.modify 0 (attend id)).get t ≠ none
    rw [Ne, GoMap.get_modify_eq_none]
    exact ht
  constructor
  · intro j nets' t net' hj hnet'
    change (r.networks.modify 0 (attend id)).get t = some net' at hnet'
    by_cases ht : t = 0
    · subst ht
      rw [GoMap.get_modify_self] at hnet'
      obtain ⟨net, hnet, rfl⟩ := Option.map_eq_some_iff.mp hnet'
      rw [mem_attend]
      rcases hlists hj with ⟨rfl, rfl⟩ | ⟨hne, hold⟩
      · simp [hhome]
      · rw [h.agree hold hnet]
        simp [hne]
    · rw [GoMap.get_modify_ne _ _ ht] at hnet'
      rcases hlists hj with ⟨rfl, rfl⟩ | ⟨-, hold⟩
      · exact hagree t net' ht hnet'
      · exact h.agree hold hnet'
  · exact h.once.modify 0 fun net hnet => nodup_attend hnet
  · intro j nets' hj
    rcases hlists hj with ⟨-, rfl⟩ | ⟨-, hold⟩
    · exact hhome
    · exact h.home hold
  · intro j nets' hj
    rcases hlists hj with ⟨-, rfl⟩ | ⟨-, hold⟩
    · exact hnodup
    · exact h.listed hold
  · intro j nets' t hj ht
    rcases hlists hj with ⟨-, rfl⟩ | ⟨-, hold⟩
    · exact hthere (hknown t ht)
    · exact hthere (h.known hold ht)
  · exact hthere h.root

/-- A node whose record goes may leave its name in any network, as long as
the others stay. -/
theorem gone (h : Mirrored r) {networks : GoMap NetId NetworkInfo}
    (hnets : ∀ t net', networks.get t = some net' → ∃ net, r.networks.get t = some net ∧
        (net.members.Nodup → net'.members.Nodup) ∧
        ∀ j ≠ id, j ∈ net'.members ↔ j ∈ net.members)
    (hthere : ∀ t, r.networks.get t ≠ none → networks.get t ≠ none) :
    Mirrored { lists := r.lists.del id, networks := networks } := by
  have hlists : ∀ {j nets}, (r.lists.del id).get j = some nets →
      j ≠ id ∧ r.lists.get j = some nets := by
    intro j nets hj
    rw [GoMap.get_del] at hj
    split at hj
    · cases hj
    · next hne => exact ⟨hne, hj⟩
  constructor
  · intro j nets t net' hj hnet'
    obtain ⟨hne, hold⟩ := hlists hj
    obtain ⟨net, hnet, -, hsame⟩ := hnets t net' hnet'
    rw [hsame j hne]
    exact h.agree hold hnet
  · intro t net' hnet'
    obtain ⟨net, hnet, hnodup, -⟩ := hnets t net' hnet'
    exact hnodup (h.once t net hnet)
  · exact fun hj => h.home (hlists hj).2
  · exact fun hj => h.listed (hlists hj).2
  · exact fun hj ht => hthere _ (h.known (hlists hj).2 ht)
  · exact hthere 0 h.root

theorem vanish (h : Mirrored r) (id : NodeId) : Mirrored ((Move.vanish id).apply r) := by
  refine h.gone (fun t net' hnet' => ?_) fun t ht => ?_
  · obtain ⟨net, hnet, rfl | ⟨-, rfl⟩⟩ := GoMap.of_get_modify hnet'
    · exact ⟨net', hnet, fun hn => hn, fun _ _ => Iff.rfl⟩
    · exact ⟨net, hnet, fun hn => hn.erase id, fun j hj => List.mem_erase_of_ne hj⟩
  · rw [Ne, GoMap.get_modify_eq_none]
    exact ht

theorem depart (h : Mirrored r) (id : NodeId) : Mirrored ((Move.depart id).apply r) := by
  refine h.gone (fun t net' hnet' => ?_) fun t ht => ?_
  · exact GoMap.of_get_foldl_modify
      (R := fun _ net net' => (net.members.Nodup → net'.members.Nodup) ∧
        ∀ j ≠ id, j ∈ net'.members ↔ j ∈ net.members)
      (fun _ _ => ⟨fun hn => hn, fun _ _ => Iff.rfl⟩)
      (fun _ _ _ _ h₁ h₂ => ⟨fun hn => h₂.1 (h₁.1 hn), fun j hj => (h₂.2 j hj).trans (h₁.2 j hj)⟩)
      (fun _ _ net => ⟨fun hn => hn.erase id, fun j hj => List.mem_erase_of_ne hj⟩)
      hnet'
  · rw [Ne, GoMap.get_foldl_modify_eq_none]
    exact ht

end Mirrored

/-! ## What a command has to meet -/

/-- The id a registration under an unknown key is filed under. -/
def landing (s : Server) (msg : Msg) : NodeId :=
  if msg.str "owner" = "" then s.nextNode
  else (s.ownerIdx.get (msg.str "owner")).getD s.nextNode

/-- No network lists the node, the backbone apart. -/
def Unlisted (s : Server) (id : NodeId) : Prop :=
  ∀ netID net, netID ≠ 0 → s.networks.get netID = some net → id ∉ net.members

/-- What keeps the roll mirrored. A node that is registered under an
unknown key starts on the backbone alone, so no other network may list it.
The operator's kick may not take a registered node from the backbone. A
new network may not take the place of another. -/
def MirrorOp (E : AdminEnv) (s : Server) : Op → Prop
  | .register _ _ _ msg =>
    s.pubKeyIdx.get (msg.str "public_key") = none → Unlisted s (landing s msg)
  | .adminKick netID id => netID = 0 → s.nodes.get id = none
  | .createNetwork .. => s.networks.get s.nextNet = none
  | .provision _ _ msg =>
    ∀ fields bp, msg.obj? "blueprint" = some fields → E.parseBlueprint fields = .ok bp →
        (∃ netID net, s.networks.get netID = some net ∧ net.name = bp.name) ∨
          s.networks.get s.nextNet = none
  | _ => True

/-- The command is refused, or it meets its condition. -/
def Mirrors (E : AdminEnv) (s : Server) (op : Op) : Prop :=
  step E s op ≠ s → MirrorOp E s op

theorem landing_byOwner (hne : msg.str "owner" ≠ "")
    (hown : s.ownerIdx.get (msg.str "owner") = some id) : landing s msg = id := by
  unfold landing
  rw [if_neg hne, hown, Option.getD_some]

theorem landing_new (hown : msg.str "owner" ≠ "" → s.ownerIdx.get (msg.str "owner") = none) :
    landing s msg = s.nextNode := by
  unfold landing
  split
  · rfl
  · next hne => rw [hown hne, Option.getD_none]

/-- A node without memberships may come in on the backbone alone. -/
theorem Mirrored.arrive_alone (h : Mirrored (roll s)) (hid : Unlisted s id) :
    Mirrored ((Move.arrive id [0]).apply (roll s)) := by
  refine h.arrive (by simp) (by simp) (fun t ht => ?_) fun t net ht hnet => ?_
  · rw [List.mem_singleton.mp ht]
    exact h.root
  · simp [ht, hid t net ht hnet]

theorem mem_scan {t : NetId} : t ∈ scanNetworkMemberships order s id ↔
      t ∈ order ∧ t ≠ 0 ∧ ∃ net, s.networks.get t = some net ∧ id ∈ net.members := by
  unfold scanNetworkMemberships
  rw [List.mem_filter, Bool.and_eq_true, decide_eq_true_eq, Option.any_eq_true]
  simp only [List.contains_iff_mem]

/-- A registration under a known key looks its memberships up. -/
theorem Mirrored.arrive_scanned (h : Mirrored (roll s)) (id : NodeId)
    (horder : s.networks.Enumerates order) :
    Mirrored ((Move.arrive id (0 :: scanNetworkMemberships order s id)).apply
      (roll s)) := by
  refine h.arrive ?_ (by simp) (fun t ht => ?_) fun t net ht hnet => ?_
  · rw [List.nodup_cons]
    exact ⟨fun hin => absurd rfl (mem_scan.mp hin).2.1, horder.1.filter _⟩
  · rcases List.mem_cons.mp ht with rfl | hin
    · exact h.root
    · exact (horder.2 t).mp (mem_scan.mp hin).1
  · change s.networks.get t = some net at hnet
    have hmem : t ∈ order := (horder.2 t).mpr (by simp [hnet])
    simp [mem_scan, ht, hmem, hnet]

theorem Mirrored.registered (h : Mirrored (roll s)) (horder : s.networks.Enumerates order)
    (harrives : Arrives s order msg id nets) (hop : s.pubKeyIdx.get (msg.str "public_key") = none →
      Unlisted s (landing s msg)) :
    Mirrored ((Move.arrive id nets).apply (roll s)) := by
  cases harrives with
  | byKey _ hidx hgone => exact h.arrive_scanned id horder
  | byOwner _ hidx hne hown hgone =>
    exact h.arrive_alone (landing_byOwner hne hown ▸ hop hidx)
  | new hidx hown hfree => exact h.arrive_alone (landing_new hown ▸ hop hidx)

/-- The moves of a synchronisation take members out or change roles. -/
theorem Mirrored.synced (hzero : netID ≠ 0) (hms : ∀ m ∈ ms, Syncs netID m) {r : Roll}
    (h : Mirrored r) : Mirrored (Move.applyAll r ms) := by
  induction ms generalizing r with
  | nil => exact h
  | cons m ms ih =>
    rw [Move.applyAll_cons]
    refine ih (fun x hx => hms x (by simp [hx])) ?_
    cases hms m (by simp) with
    | drop id => exact h.drop (Or.inl hzero)
    | assign id role => exact h.assign id netID role

theorem mirrored_moved {op : Op} (hmoved : Moved E s op ms) (h : Mirrored (roll s))
    (hop : MirrorOp E s op) : Mirrored (Move.applyAll (roll s) ms) := by
  have hlist : ∀ {id n}, s.nodes.get id = some n → (roll s).lists.get id = some n.networks := by
    intro id n hn
    rw [roll_lists_get, hn]
    rfl
  cases hmoved with
  | none => exact h
  | registered now order remoteAddr msg id nets horder harrives =>
    exact h.registered horder harrives hop
  | reaped threshold chunk ids hids =>
    clear hids
    generalize roll s = r at h
    induction ids generalizing r with
    | nil => exact h
    | cons id ids ih => exact ih _ (h.vanish id)
  | deregistered msg n hnode => exact h.depart _
  | created now msg rules exprPolicy n hnode hfree => exact h.found hop rfl
  | deleted msg hzero => exact h.remove hzero
  | joined msg node net hzero hnode hnet hnew
  | accepted now msg node net haccept hnode hnet hent hnew => exact h.join (hlist hnode) hnet hnew _
  | left msg net hzero hnet howner | kicked msg net hzero hnet howner => exact h.drop (Or.inl hzero)
  | adminKicked netID id net hnet howner =>
    refine h.expel ?_
    by_cases hzero : netID = 0
    · right
      rw [roll_lists_get, hop hzero]
      rfl
    · exact Or.inl hzero
  | tagged msg net hnet hmember => exact h.tag _ _ _
  | transferred order msg net currentOwner role hnet hcurrent hne hrole =>
    exact (h.assign _ _ _).assign _ _ _
  | roleSet netID id text net role hnet howner hmember hrole =>
    exact h.assign id netID role
  | enterpriseSet msg net hnet => exact h.flag _ _
  | synced msg net _ hzero hnet hent hdone hall =>
    exact .synced hzero (fun m hm => syncMoves_syncs (hdone.subset hm)) h
  | provisionedOld now order msg bp netID net hbp hnet hname =>
    exact h.equip netID bp
  | provisionedNew now order msg bp hbp hnew =>
    obtain ⟨fields, hfields, hparse⟩ := hbp
    rcases hop fields bp hfields hparse with ⟨netID, net, hnet, hname⟩ | hfree
    · exact absurd hname (hnew netID net hnet)
    · have hempty : (blueprintNetwork bp now).members = [] := rfl
      exact (h.place hfree hempty).equip _ bp
  | _ => exact h.assign _ _ _

theorem mirrored_step {op : Op} (hop : Mirrors E s op) (h : Mirrored (roll s)) :
    Mirrored (roll (step E s op)) :=
  roll_step (fun _ hmoved => mirrored_moved hmoved h) hop h

theorem mirrored_freshServer (now : Time) : Mirrored (roll (freshServer now)) where
  agree := fun hlist _ => by
    rw [roll_lists_get] at hlist
    simp [freshServer] at hlist
  once := by
    refine GoMap.All.set (fun netID net hnet => ?_) 0 List.nodup_nil
    rw [GoMap.get_empty] at hnet
    cases hnet
  home := fun hlist => by
    rw [roll_lists_get] at hlist
    simp [freshServer] at hlist
  listed := fun hlist => by
    rw [roll_lists_get] at hlist
    simp [freshServer] at hlist
  known := fun hlist => by
    rw [roll_lists_get] at hlist
    simp [freshServer] at hlist
  root := by
    show (freshServer now).networks.get 0 ≠ none
    simp [freshServer]

end Rendezvous.Roster

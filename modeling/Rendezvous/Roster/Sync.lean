import Rendezvous.Roster.Move

/-!
# The moves of a directory synchronisation

What a synchronisation asks for can be read off the request and the state
before it: an entry that maps to a member drops it or assigns it a role,
and with `remove_unlisted` every member the directory does not list is
dropped. `applyDirectorySync_moves` says that it does just that, in this
order. It stops early only where a role is written to a nil map.
-/

namespace Rendezvous.Roster

open Base Registry Rendezvous.Membership Directory Admin

variable {net : NetworkInfo} {id : NodeId} {s : Server} {entry : DirectoryEntry}
  {r : DirectorySyncResult} {ms : List Move}

variable (E : AdminEnv) (netID : NetId)

/-- What an entry asks for, when it maps to a member. -/
def entryMove (byID : GoMap String NodeId) (entry : DirectoryEntry) : Option Move :=
  match byID.get (E.toLower entry.externalID) with
  | none => none
  | some id =>
    if entry.disabled then some (.drop id netID)
    else if entry.role = "" then none
    else some (.assign id netID (blueprintRole entry.role))

/-- What a synchronisation asks for. -/
def syncMoves (s : Server) (net : NetworkInfo) (entries : List DirectoryEntry)
    (unlisted : Bool) : List Move :=
  entries.filterMap (entryMove E netID (membersByExternalID E s net)) ++
    if unlisted then
      (unlistedMembers E s net entries).map fun id => .drop id netID
    else []

/-! ## What the pieces do to the roll -/

theorem roll_removeMember (s : Server) (id : NodeId) :
    roll (removeMember s netID id) = (Move.drop id netID).apply (roll s) := by
  unfold removeMember
  rw [roll_removeNodeNetwork]
  rfl

theorem storeRBACPreAssignment_eq (s : Server) (externalID role : String) :
    ∃ kept, storeRBACPreAssignment E s netID externalID role =
      { s with rbacPreAssign := kept } := by
  unfold storeRBACPreAssignment
  simp only
  split
  · exact ⟨s.rbacPreAssign, rfl⟩
  · exact ⟨_, rfl⟩

theorem roll_takeDisplayName (s : Server) (id : NodeId) (name : String) :
    roll (takeDisplayName s id name) = roll s := by
  have hlists := lists_modify s.nodes
    (f := fun n => { n with hostname := name }) (fun _ => rfl) id
  unfold takeDisplayName
  simp only
  split
  · unfold roll
    rw [hlists]
  · rfl

/-- Writing the role a node has changes nothing. -/
theorem setRole_same {role : Role} (h : net.role id = some role) : setRole net id role = net := by
  unfold NetworkInfo.role at h
  unfold setRole
  cases hroles : net.memberRoles with
  | none =>
    rw [hroles, Option.getD_none, GoMap.get_empty] at h
    cases h
  | some roles =>
    rw [hroles, Option.getD_some] at h
    rw [Option.getD_some, GoMap.set_get_self _ h, ← hroles]

variable {netID}

variable {r' : DirectorySyncResult} {entries : List DirectoryEntry} {p : NodeId → Bool}
  {s' : Server}

theorem syncRole_some (h : syncRole s netID id entry r = some (s', r')) :
    s'.nodes = s.nodes ∧ roll s' = Move.applyAll (roll s)
      (if entry.role = "" then []
        else [.assign id netID (blueprintRole entry.role)]) := by
  unfold syncRole at h
  cases hnet : s.networks.get netID with
  | none =>
    simp only [hnet, Option.some.injEq, Prod.mk.injEq] at h
    obtain ⟨rfl, -⟩ := h
    have hskip : (roll s).networks.modify netID (fun net =>
        setRole net id (blueprintRole entry.role)) = (roll s).networks :=
      GoMap.modify_eq_self _ fun v hv => by
        rw [show (roll s).networks.get netID = none from hnet] at hv
        cases hv
    refine ⟨rfl, ?_⟩
    split
    · rfl
    · simp only [Move.applyAll_cons, Move.apply, hskip, Move.applyAll_nil]
  | some net =>
    simp only [hnet] at h
    split at h
    · next hsame =>
      simp only [Option.some.injEq, Prod.mk.injEq] at h
      obtain ⟨rfl, -⟩ := h
      refine ⟨rfl, ?_⟩
      split
      · rfl
      · next hrole =>
        have hskip : (roll s).networks.modify netID (fun net =>
            setRole net id (blueprintRole entry.role)) = (roll s).networks :=
          GoMap.modify_eq_self _ fun v hv => by
            have hv' : v = net := Option.some.inj (hv.symm.trans hnet)
            subst hv'
            exact setRole_same (hsame.resolve_left hrole)
        simp only [Move.applyAll_cons, Move.apply, hskip, Move.applyAll_nil]
    · next hdiff =>
      split at h
      · cases h
      · simp only [Option.some.injEq, Prod.mk.injEq] at h
        obtain ⟨rfl, -⟩ := h
        rw [if_neg fun hempty => hdiff (Or.inl hempty)]
        refine ⟨rfl, ?_⟩
        simp only [Move.applyAll_cons, Move.apply, Move.applyAll_nil, roll_putNetwork]
        rw [← GoMap.set_eq_modify (m := (roll s).networks) hnet]

theorem syncRole_none (h : syncRole s netID id entry r = none) :
    ∃ net, s.networks.get netID = some net ∧ net.memberRoles = none := by
  unfold syncRole at h
  cases hnet : s.networks.get netID with
  | none => simp [hnet] at h
  | some net =>
    simp only [hnet] at h
    split at h
    · cases h
    · split at h
      · next hnil => exact ⟨net, rfl, by simpa using hnil⟩
      · cases h

/-! ## One entry, and all of them -/

/-- The external identities of the nodes. -/
def externalIDs (s : Server) (id : NodeId) : Option String :=
  (s.nodes.get id).map NodeInfo.externalID

/-- An update of a record that leaves its external identity alone. -/
theorem externalIDs_modify (m : GoMap NodeId NodeInfo) {f : NodeInfo → NodeInfo}
    (hf : ∀ n, (f n).externalID = n.externalID) (id j : NodeId) :
    ((m.modify id f).get j).map NodeInfo.externalID = (m.get j).map NodeInfo.externalID := by
  by_cases hj : j = id
  · subst hj
    rw [GoMap.get_modify_self, Option.map_map]
    congr 1
    exact funext hf
  · rw [GoMap.get_modify_ne _ _ hj]

theorem externalIDs_takeDisplayName (s : Server) (id : NodeId) (name : String) :
    externalIDs (takeDisplayName s id name) = externalIDs s := by
  funext j
  unfold takeDisplayName
  simp only
  split
  · exact externalIDs_modify s.nodes
      (f := fun n => { n with hostname := name }) (fun _ => rfl) id j
  · rfl

theorem externalIDs_removeMember (s : Server) (id : NodeId) :
    externalIDs (removeMember s netID id) = externalIDs s := by
  funext j
  exact externalIDs_modify s.nodes
    (f := fun n => { n with networks := n.networks.erase netID }) (fun _ => rfl) id j

variable {E} {byID : GoMap String NodeId}

theorem syncEntry_some (h : syncEntry E netID byID s r entry = some (s', r')) :
    externalIDs s' = externalIDs s ∧
      roll s' = Move.applyAll (roll s) (entryMove E netID byID entry).toList := by
  unfold syncEntry at h
  unfold entryMove
  cases hid : byID.get (E.toLower entry.externalID) with
  | none =>
    simp only [hid] at h
    split at h
    · cases h
      exact ⟨rfl, rfl⟩
    · cases h
      obtain ⟨kept, hkept⟩ := storeRBACPreAssignment_eq E netID s
        entry.externalID entry.role
      rw [hkept]
      exact ⟨rfl, rfl⟩
  | some id =>
    simp only [hid] at h
    cases hdis : entry.disabled with
    | true =>
      rw [hdis] at h
      cases h
      exact ⟨externalIDs_removeMember s id, roll_removeMember netID s id⟩
    | false =>
      rw [hdis] at h
      simp only [Bool.false_eq_true, if_false, Option.map_eq_some_iff] at h
      obtain ⟨⟨s₁, r₁⟩, hrole, heq⟩ := h
      cases heq
      obtain ⟨hnodes, hroll⟩ := syncRole_some hrole
      rw [externalIDs_takeDisplayName, roll_takeDisplayName, hroll]
      refine ⟨?_, ?_⟩
      · funext j
        unfold externalIDs
        rw [hnodes]
      · simp only [Bool.false_eq_true, if_false]
        split <;> rfl

theorem syncEntry_none (h : syncEntry E netID byID s r entry = none) :
    ∃ net, s.networks.get netID = some net ∧ net.memberRoles = none := by
  unfold syncEntry at h
  cases hid : byID.get (E.toLower entry.externalID) with
  | none =>
    simp only [hid] at h
    split at h <;> cases h
  | some id =>
    simp only [hid] at h
    split at h
    · cases h
    · rw [Option.map_eq_none_iff] at h
      exact syncRole_none h

/-- The entries do what they ask for, in order, up to a write to a nil
map. -/
theorem syncEntries_moves (netID : NetId) (byID : GoMap String NodeId)
    (entries : List DirectoryEntry) (s : Server) (r : DirectorySyncResult) :
    let asked := entries.filterMap (entryMove E netID byID)
    ∃ done, done <+: asked ∧ roll (syncEntries E netID byID entries s r).1 =
        Move.applyAll (roll s) done ∧
      externalIDs (syncEntries E netID byID entries s r).1 = externalIDs s ∧
      ((syncEntries E netID byID entries s r).2 ≠ none → done = asked) ∧
      ((syncEntries E netID byID entries s r).2 = none →
        ∃ net, (Move.applyAll (roll s) done).networks.get netID = some net ∧
          net.memberRoles = none) := by
  induction entries generalizing s r with
  | nil => exact ⟨[], List.prefix_rfl, rfl, rfl, fun _ => rfl, fun h => by cases h⟩
  | cons entry rest ih =>
    simp only [syncEntries]
    cases hentry : syncEntry E netID byID s r entry with
    | none =>
      have hnil := syncEntry_none hentry
      exact ⟨[], List.nil_prefix, rfl, rfl, fun h => absurd rfl h, fun _ => hnil⟩
    | some p =>
      obtain ⟨s₁, r₁⟩ := p
      obtain ⟨hext, hroll⟩ := syncEntry_some hentry
      obtain ⟨done, hpre, hdone, hext', hall, hnil⟩ := ih s₁ r₁
      have hasked : (entry :: rest).filterMap (entryMove E netID byID) =
          (entryMove E netID byID entry).toList ++ rest.filterMap (entryMove E netID byID) := by
        rw [List.filterMap_cons]
        cases entryMove E netID byID entry <;> rfl
      refine ⟨(entryMove E netID byID entry).toList ++ done, ?_, ?_, ?_, ?_, ?_⟩
      · rw [hasked]
        exact (List.prefix_append_right_inj _).mpr hpre
      · rw [hdone, hroll, Move.applyAll_append]
      · rw [hext', hext]
      · intro hsome
        rw [hasked, hall hsome]
      · intro hnone
        rw [Move.applyAll_append, ← hroll]
        exact hnil hnone

/-! ## Moves within one network -/

/-- The moves a synchronisation of the network is made of. -/
inductive Syncs (netID : NetId) : Move → Prop where
  | drop (id : NodeId) : Syncs netID (.drop id netID)
  | assign (id : NodeId) (role : Role) : Syncs netID (.assign id netID role)

/-- What such a move does to the network's record. -/
def amend (net : NetworkInfo) : Move → NetworkInfo
  | .drop id _ => dropMember net id
  | .assign id _ role => setRole net id role
  | _ => net

theorem applyAll_networks (hms : ∀ m ∈ ms, Syncs netID m) (r : Roll) :
    (Move.applyAll r ms).networks = r.networks.modify netID fun net => ms.foldl amend net := by
  induction ms generalizing r with
  | nil => exact (GoMap.modify_eq_self _ fun _ _ => rfl).symm
  | cons m ms ih =>
    have hfirst : (m.apply r).networks = r.networks.modify netID fun net => amend net m := by
      cases hms m (by simp) with
      | drop id => rfl
      | assign id role => rfl
    rw [Move.applyAll_cons, ih (fun m' hm' => hms m' (by simp [hm'])), hfirst]
    ext1 j
    by_cases hj : j = netID
    · subst hj
      simp only [GoMap.get_modify_self, Option.map_map]
      rfl
    · simp only [GoMap.get_modify_ne _ _ hj]

/-- A role map that is nil at the end was nil all along, and no role was
assigned. -/
theorem of_memberRoles_none (hms : ∀ m ∈ ms, Syncs netID m)
    (h : (ms.foldl amend net).memberRoles = none) :
    net.memberRoles = none ∧ ∀ m ∈ ms, ∃ id, m = .drop id netID := by
  induction ms generalizing net with
  | nil => exact ⟨h, fun m hm => by cases hm⟩
  | cons m ms ih =>
    obtain ⟨hfirst, hrest⟩ := ih (fun m' hm' => hms m' (by simp [hm'])) h
    cases hms m (by simp) with
    | assign id role => cases hfirst
    | drop id =>
      refine ⟨Option.map_eq_none_iff.mp hfirst, fun m' hm' => ?_⟩
      rcases List.mem_cons.mp hm' with rfl | hm'
      · exact ⟨id, rfl⟩
      · exact hrest m' hm'

private theorem filter_erase {id : NodeId} (hid : p id = false) (l : List NodeId) :
    (l.erase id).filter p = l.filter p := by
  induction l with
  | nil => rfl
  | cons a l ih =>
    by_cases ha : a = id
    · subst ha
      rw [List.erase_cons_head, List.filter_cons_of_neg (by simp [hid])]
    · have hne : (a == id) = false := by simpa using ha
      rw [List.erase_cons_tail (by simp [hne]), List.filter_cons, List.filter_cons, ih]

/-- Members that no move drops stay where they are. -/
theorem filter_members (hms : ∀ m ∈ ms, Syncs netID m)
    (hp : ∀ id, Move.drop id netID ∈ ms → p id = false) (net : NetworkInfo) :
    (ms.foldl amend net).members.filter p = net.members.filter p := by
  induction ms generalizing net with
  | nil => rfl
  | cons m ms ih =>
    rw [List.foldl_cons, ih (fun m' hm' => hms m' (by simp [hm']))
      (fun id hid => hp id (by simp [hid]))]
    cases hms m (by simp) with
    | assign id role => rfl
    | drop id => exact filter_erase (hp id (by simp)) net.members

/-! ## The whole synchronisation -/

/-- The index maps an identity to a member whose record has it. -/
theorem of_membersByExternalID {key : String}
    (h : (membersByExternalID E s net).get key = some id) :
    id ∈ net.members ∧ ∃ n, s.nodes.get id = some n ∧ n.externalID ≠ "" ∧
      E.toLower n.externalID = key := by
  let Found (id : NodeId) := ∃ n, s.nodes.get id = some n ∧ n.externalID ≠ "" ∧
    E.toLower n.externalID = key
  -- Every entry was there before or comes from one of the members read.
  have hfold : (∅ : GoMap String NodeId).get key = some id ∨ id ∈ net.members ∧ Found id := by
    unfold membersByExternalID at h
    generalize (∅ : GoMap String NodeId) = idx at h ⊢
    generalize net.members = l at h ⊢
    induction l generalizing idx with
    | nil => exact Or.inl h
    | cons a l ih =>
      rcases ih _ h with hidx | ⟨hmem, hfound⟩
      · cases hnode : s.nodes.get a with
        | none =>
          simp only [hnode] at hidx
          exact Or.inl hidx
        | some n =>
          simp only [hnode] at hidx
          split at hidx
          · exact Or.inl hidx
          · next hne =>
            rcases GoMap.of_get_set hidx with ⟨hkey, rfl⟩ | hold
            · exact Or.inr ⟨by simp, n, hnode, hne, hkey.symm⟩
            · exact Or.inl hold
      · exact Or.inr ⟨by simp [hmem], hfound⟩
  rcases hfold with hempty | hfound
  · rw [GoMap.get_empty] at hempty
    cases hempty
  · exact hfound

theorem entryMove_syncs {m : Move} (h : entryMove E netID byID entry = some m) : Syncs netID m := by
  unfold entryMove at h
  split at h
  · cases h
  · split at h
    · cases h
      exact .drop _
    · split at h
      · cases h
      · cases h
        exact .assign _ _

theorem syncMoves_syncs {unlisted : Bool} {m : Move}
    (h : m ∈ syncMoves E netID s net entries unlisted) : Syncs netID m := by
  rcases List.mem_append.mp h with hentry | hleft
  · obtain ⟨entry, -, hmove⟩ := List.mem_filterMap.mp hentry
    exact entryMove_syncs hmove
  · split at hleft
    · obtain ⟨id, -, rfl⟩ := List.mem_map.mp hleft
      exact .drop id
    · cases hleft

/-- The directory does not list the node, which has an external
identity. -/
def unlistedNode (E : AdminEnv) (s : Server) (entries : List DirectoryEntry)
    (id : NodeId) : Bool :=
  (externalIDs s id).any fun ext => ext ≠ "" &&
    !(entries.map fun e => E.toLower e.externalID).contains (E.toLower ext)

theorem unlistedMembers_eq (s : Server) (net : NetworkInfo)
    (entries : List DirectoryEntry) :
    unlistedMembers E s net entries = net.members.filter (unlistedNode E s entries) := by
  unfold unlistedMembers
  refine List.filter_congr fun id _ => ?_
  unfold unlistedNode externalIDs
  rw [Option.any_map]

/-- A member an entry drops is listed. -/
theorem listed_of_drop (h : Move.drop id netID ∈
      entries.filterMap (entryMove E netID (membersByExternalID E s net))) :
    unlistedNode E s entries id = false := by
  obtain ⟨entry, hentry, hmove⟩ := List.mem_filterMap.mp h
  have hget : (membersByExternalID E s net).get (E.toLower entry.externalID) = some id := by
    unfold entryMove at hmove
    split at hmove
    · cases hmove
    · next id' hid =>
      split at hmove
      · cases hmove
        exact hid
      · split at hmove <;> cases hmove
  obtain ⟨-, n, hnode, -, hkey⟩ := of_membersByExternalID hget
  have hlisted : (entries.map fun e => E.toLower e.externalID).contains
      (E.toLower n.externalID) = true := by
    rw [hkey, List.contains_iff_mem]
    exact List.mem_map.mpr ⟨entry, hentry, rfl⟩
  unfold unlistedNode externalIDs
  rw [hnode, Option.map_some, Option.any_some, hlisted, Bool.not_true, Bool.and_false]

theorem roll_removeUnlisted (ids : List NodeId) (s : Server)
    (r : DirectorySyncResult) :
    roll (removeUnlisted netID ids s r).1 =
      Move.applyAll (roll s) (ids.map fun id => .drop id netID) := by
  unfold removeUnlisted
  induction ids generalizing s r with
  | nil => rfl
  | cons id ids ih =>
    rw [List.foldl_cons, ih, roll_removeMember]
    rfl

/-- A synchronisation does what it asks for, in order. Where it stops
early, the role map is nil and it only dropped members; then it fails. -/
theorem applyDirectorySync_moves (hnet : s.networks.get netID = some net)
    (hent : net.enterprise = true) (entries : List DirectoryEntry) (unlisted : Bool) :
    let asked := syncMoves E netID s net entries unlisted
    ∃ done, done <+: asked ∧ (done = asked ∨
        net.memberRoles = none ∧ ∀ m ∈ done, ∃ id, m = .drop id netID) ∧
      roll (applyDirectorySync E s netID entries unlisted).1 = Move.applyAll (roll s) done ∧
      ((applyDirectorySync E s netID entries unlisted).2.isOk = true → done = asked) := by
  intro asked
  let fromEntries := entries.filterMap
    (entryMove E netID (membersByExternalID E s net))
  have hsyncs : ∀ m ∈ fromEntries, Syncs netID m := by
    intro m hm
    obtain ⟨entry, -, hmove⟩ := List.mem_filterMap.mp hm
    exact entryMove_syncs hmove
  obtain ⟨done, hpre, hroll, hext, hall, hnil⟩ :=
    syncEntries_moves (E := E) netID (membersByExternalID E s net) entries s {}
  have hdone : ∀ m ∈ done, Syncs netID m := fun m hm => hsyncs m (hpre.subset hm)
  have hafter : (Move.applyAll (roll s) done).networks.get netID = some (done.foldl amend net) := by
    rw [applyAll_networks hdone, GoMap.get_modify_self,
      show (roll s).networks.get netID = some net from hnet]
    rfl
  unfold applyDirectorySync
  simp only [hnet, hent, Bool.not_true, Bool.false_eq_true, if_false]
  cases hrun : syncEntries E netID (membersByExternalID E s net) entries s {} with
  | mk s₁ answer =>
    rw [hrun] at hroll hext hall hnil
    cases answer with
    | none =>
      obtain ⟨net', hnet', hroles⟩ := hnil rfl
      rw [hafter] at hnet'
      cases hnet'
      exact ⟨done, hpre.trans (List.prefix_append _ _),
        Or.inr (of_memberRoles_none hdone hroles), hroll, nofun⟩
    | some r =>
      obtain rfl := hall (by simp)
      have hnet₁ : s₁.networks.get netID = some (fromEntries.foldl amend net) := by
        show (roll s₁).networks.get netID = _
        rw [hroll, hafter]
      -- The entries drop no member they do not list.
      have hleft : unlistedMembers E s₁ (fromEntries.foldl amend net)
          entries = unlistedMembers E s net entries := by
        have hsame : unlistedNode E s₁ entries = unlistedNode E s entries := by
          funext id
          unfold unlistedNode
          rw [hext]
        rw [unlistedMembers_eq, unlistedMembers_eq, hsame]
        exact filter_members hsyncs (fun id hid => listed_of_drop hid) net
      refine ⟨asked, List.prefix_rfl, Or.inl rfl, ?_, fun _ => rfl⟩
      simp only [hnet₁, Option.map_some, Option.getD_some, hleft]
      rw [roll_removeUnlisted, hroll, ← Move.applyAll_append]
      unfold asked syncMoves
      cases unlisted <;> rfl

end Rendezvous.Roster

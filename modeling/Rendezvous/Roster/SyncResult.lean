import Rendezvous.Roster.Op

/-!
# What a directory synchronisation leaves

The directory says of every member with an external identity whether it
goes, and which role it has if it stays: the last entry for the identity
counts. The synchronisation works by an index that has one member for each
identity, the last one on the list, and it acts on every entry as it meets
it. `sync_outcome_iff` says for which members and entries that comes to the
same.
-/

namespace Rendezvous.Roster

open Base Registry Rendezvous.Membership Directory Admin
open Identity (freshServer)

variable {id : NodeId} {ms : List Move}

/-! ## What the directory says -/

/-- The normalized external identity of a registered node that has one. -/
def extKey (E : AdminEnv) (s : Server) (id : NodeId) : Option String :=
  (s.nodes.get id).bind fun n =>
    if n.externalID = "" then none else some (E.toLower n.externalID)

/-- The entries for an identity. -/
def entriesFor (E : AdminEnv) (entries : List DirectoryEntry) (key : String) :
    List DirectoryEntry :=
  entries.filter fun e => E.toLower e.externalID = key

/-- Whether the node is on the list, and its role if it is. -/
def standing (net : NetworkInfo) (id : NodeId) : Option (Option Role) :=
  if id ∈ net.members then some (net.role id) else none

/-- What the directory says of a member: it goes, or it stays with a role. -/
def directed (E : AdminEnv) (s : Server) (net : NetworkInfo)
    (entries : List DirectoryEntry) (unlisted : Bool) (id : NodeId) :
    Option (Option Role) :=
  match extKey E s id with
  | none => some (net.role id)
  | some key =>
    match (entriesFor E entries key).getLast? with
    | none => if unlisted then none else some (net.role id)
    | some last =>
      if last.disabled then none
      else if last.role = "" then some (net.role id)
      else some (some (blueprintRole last.role))

/-- The synchronisation of the network leaves every member as the directory
says, adds nobody, and leaves the other networks alone. -/
structure FollowsDirectory (E : AdminEnv) (s s' : Server) (netID : NetId)
    (entries : List DirectoryEntry) (unlisted : Bool) : Prop where
  members : ∀ net net', s.networks.get netID = some net →
    s'.networks.get netID = some net' → ∀ id ∈ net.members,
      standing net' id = directed E s net entries unlisted id
  nobodyNew : ∀ net net', s.networks.get netID = some net →
    s'.networks.get netID = some net' → ∀ id ∈ net'.members, id ∈ net.members
  others : ∀ other, other ≠ netID → s'.networks.get other = s.networks.get other

/-! ## The index -/

theorem extKey_eq_some {E : AdminEnv} {s : Server} {key : String} : extKey E s id = some key ↔
      ∃ n, s.nodes.get id = some n ∧ n.externalID ≠ "" ∧ E.toLower n.externalID = key := by
  unfold extKey
  rw [Option.bind_eq_some_iff]
  refine exists_congr fun n => and_congr_right fun _ => ?_
  split
  · next hempty => simp [hempty]
  · next hne => simp [hne]

/-- The index has the last member with the identity. -/
theorem membersByExternalID_get (E : AdminEnv) (s : Server) (net : NetworkInfo)
    (key : String) :
    (membersByExternalID E s net).get key =
      (net.members.filter fun id => extKey E s id = some key).getLast? := by
  unfold membersByExternalID
  generalize net.members = members
  -- Members are read from the front, so a later one takes the place.
  induction members using List.reverseRecOn with
  | nil => rfl
  | append_singleton members id ih =>
    rw [List.foldl_append, List.foldl_cons, List.foldl_nil, List.filter_append]
    have hkey : extKey E s id = (s.nodes.get id).bind fun n =>
      if n.externalID = "" then none else some (E.toLower n.externalID) := rfl
    cases hnode : s.nodes.get id with
    | none =>
      rw [hnode, Option.bind_none] at hkey
      simp only [hkey, reduceCtorEq, decide_false, ih, List.filter_cons, List.filter_nil,
        Bool.false_eq_true, if_false, List.append_nil]
    | some n =>
      rw [hnode, Option.bind_some] at hkey
      by_cases hempty : n.externalID = ""
      · rw [if_pos hempty] at hkey
        simp only [hkey, hempty, reduceCtorEq, decide_false, ih, List.filter_cons,
          List.filter_nil, Bool.false_eq_true, if_false, if_true, List.append_nil]
      · rw [if_neg hempty] at hkey
        simp only [hempty, if_false, GoMap.get_set]
        by_cases hsame : key = E.toLower n.externalID
        · rw [if_pos hsame]
          simp [hkey, hsame]
        · rw [if_neg hsame, ih]
          have hne : ¬ E.toLower n.externalID = key := fun h => hsame h.symm
          simp [hkey, hne]

/-! ## What the moves do to one member -/

/-- The move drops the node. -/
def dropsNode (id : NodeId) : Move → Bool
  | .drop j _ => j = id
  | _ => false

/-- The node's role after a move. -/
def moveRole (id : NodeId) (role : Option Role) : Move → Option Role
  | .drop j _ => if j = id then none else role
  | .assign j _ new => if j = id then some new else role
  | _ => role

/-- The node's role after an entry that is taken for it. -/
def entryRole (role : Option Role) (e : DirectoryEntry) : Option Role :=
  if e.disabled then none else if e.role = "" then role else some (blueprintRole e.role)

section

variable {netID : NetId}

/-- Every drop takes one mention of the node off the list. -/
theorem count_amend (hms : ∀ m ∈ ms, Syncs netID m) (net : NetworkInfo) (id : NodeId) :
    (ms.foldl amend net).members.count id = net.members.count id - ms.countP (dropsNode id) := by
  induction ms generalizing net with
  | nil => rfl
  | cons m ms ih =>
    rw [List.foldl_cons, ih fun m' hm' => hms m' (by simp [hm']), List.countP_cons]
    cases hms m (by simp) with
    | drop j =>
      have hcount : (dropMember net j).members.count id =
          net.members.count id - if j = id then 1 else 0 := by
        unfold dropMember
        simp only [List.count_erase, beq_iff_eq]
      simp only [amend, hcount, dropsNode, decide_eq_true_eq]
      omega
    | assign j role => simp [amend, setRole, dropsNode]

theorem role_amend (hms : ∀ m ∈ ms, Syncs netID m) (net : NetworkInfo) (id : NodeId) :
    (ms.foldl amend net).role id = ms.foldl (moveRole id) (net.role id) := by
  induction ms generalizing net with
  | nil => rfl
  | cons m ms ih =>
    rw [List.foldl_cons, List.foldl_cons, ih fun m' hm' => hms m' (by simp [hm'])]
    congr 1
    cases hms m (by simp) with
    | drop j => simp only [amend, role_dropMember, moveRole, eq_comm]
    | assign j role => simp only [amend, role_setRole, moveRole, eq_comm]

variable {E : AdminEnv} {byID : GoMap String NodeId}

/-- The entries that the index takes for the node. -/
def heard (E : AdminEnv) (byID : GoMap String NodeId) (entries : List DirectoryEntry)
    (id : NodeId) : List DirectoryEntry :=
  entries.filter fun e => byID.get (E.toLower e.externalID) = some id

theorem heard_cons (e : DirectoryEntry) (entries : List DirectoryEntry) (id : NodeId) :
    heard E byID (e :: entries) id =
      if byID.get (E.toLower e.externalID) = some id then e :: heard E byID entries id
      else heard E byID entries id := by
  unfold heard
  rw [List.filter_cons]
  simp only [decide_eq_true_eq]

/-- The drops among the moves of the entries, and the role they leave. -/
theorem entryMoves_node (entries : List DirectoryEntry) (id : NodeId) (role : Option Role) :
    (entries.filterMap (entryMove E netID byID)).countP (dropsNode id) =
        (heard E byID entries id).countP DirectoryEntry.disabled ∧
      (entries.filterMap (entryMove E netID byID)).foldl (moveRole id) role =
        (heard E byID entries id).foldl entryRole role := by
  induction entries generalizing role with
  | nil => exact ⟨rfl, rfl⟩
  | cons e entries ih =>
    rw [heard_cons, List.filterMap_cons, entryMove]
    cases hid : byID.get (E.toLower e.externalID) with
    | none =>
      simp only [reduceCtorEq, if_false]
      exact ih role
    | some j =>
      simp only [Option.some.injEq]
      by_cases hj : j = id
      · subst hj
        cases hdis : e.disabled with
        | true => simpa [hdis, dropsNode, moveRole, entryRole] using ih none
        | false =>
          by_cases hrole : e.role = ""
          · simpa [hdis, hrole, dropsNode, moveRole, entryRole] using ih role
          · simpa [hdis, hrole, dropsNode, moveRole, entryRole] using ih _
      · rw [if_neg hj]
        cases hdis : e.disabled with
        | true => simpa [hj, dropsNode, moveRole] using ih role
        | false =>
          by_cases hrole : e.role = ""
          · simpa [hrole] using ih role
          · simpa [hrole, hj, dropsNode, moveRole] using ih role

theorem drops_node (ids : List NodeId) (id : NodeId) (role : Option Role) :
    (ids.map fun j => Move.drop j netID).countP (dropsNode id) = ids.count id ∧
      (ids.map fun j => Move.drop j netID).foldl (moveRole id) role =
        if id ∈ ids then none else role := by
  induction ids generalizing role with
  | nil => exact ⟨rfl, rfl⟩
  | cons j ids ih =>
    rw [List.map_cons, List.countP_cons, List.foldl_cons, List.count_cons, (ih role).1, (ih _).2]
    by_cases hj : j = id
    · subst hj
      simp [dropsNode, moveRole]
    · have hne : ¬ id = j := fun h => hj h.symm
      simp [dropsNode, moveRole, hj, hne]

end

/-! ## What a synchronisation does to one member -/

/-- What becomes of a member: it goes if the directory does not list it, or
if the entries that are taken for it drop it as often as it is listed. -/
theorem standing_sync {E : AdminEnv} {s : Server} {netID : NetId} {net : NetworkInfo}
    (entries : List DirectoryEntry) (unlisted : Bool) (hid : id ∈ net.members) :
    let net' := (syncMoves E netID s net entries unlisted).foldl amend net
    let mine := heard E (membersByExternalID E s net) entries id
    standing net' id =
      if unlisted && unlistedNode E s entries id then none
      else if mine.countP DirectoryEntry.disabled < net.members.count id then
        some (mine.foldl entryRole (net.role id))
      else none := by
  intro net' mine
  have hsyncs : ∀ m ∈ syncMoves E netID s net entries unlisted, Syncs netID m :=
    fun m hm => syncMoves_syncs hm
  let dropped := if unlisted then unlistedMembers E s net entries else []
  have hmoves : syncMoves E netID s net entries unlisted =
      entries.filterMap (entryMove E netID (membersByExternalID E s net)) ++
        dropped.map fun j => Move.drop j netID := by
    unfold syncMoves dropped
    cases unlisted <;> rfl
  have hentries : (entries.filterMap (entryMove E netID (membersByExternalID E s net))).countP
          (dropsNode id) = mine.countP DirectoryEntry.disabled ∧
        (entries.filterMap (entryMove E netID (membersByExternalID E s net))).foldl
          (moveRole id) (net.role id) = mine.foldl entryRole (net.role id) :=
    entryMoves_node entries id (net.role id)
  have hcount : net'.members.count id =
      net.members.count id - (mine.countP DirectoryEntry.disabled + dropped.count id) := by
    rw [count_amend hsyncs, hmoves, List.countP_append, hentries.1, (drops_node dropped id none).1]
  have hrole : net'.role id =
      if id ∈ dropped then none else mine.foldl entryRole (net.role id) := by
    rw [role_amend hsyncs, hmoves, List.foldl_append, hentries.2, (drops_node dropped id _).2]
  have hpos : 0 < net.members.count id := List.count_pos_iff.mpr hid
  have hmem : id ∈ net'.members ↔ 0 < net'.members.count id := List.count_pos_iff.symm
  unfold standing
  by_cases hgone : (unlisted && unlistedNode E s entries id) = true
  · rw [if_pos hgone, if_neg]
    obtain ⟨rfl, hnode⟩ := Bool.and_eq_true_iff.mp hgone
    have hall : dropped.count id = net.members.count id := by
      change (unlistedMembers E s net entries).count id = _
      rw [unlistedMembers_eq, List.count_filter hnode]
    rw [hmem, hcount, hall]
    omega
  · have hnone : id ∉ dropped := by
      intro hin
      unfold dropped at hin
      cases unlisted with
      | false => cases hin
      | true =>
        rw [if_pos rfl, unlistedMembers_eq] at hin
        exact hgone (by rw [(List.mem_filter.mp hin).2]; rfl)
    rw [if_neg hgone, hrole, if_neg hnone]
    rw [List.count_eq_zero.mpr hnone, Nat.add_zero] at hcount
    by_cases hfew : mine.countP DirectoryEntry.disabled < net.members.count id
    · rw [if_pos hfew, if_pos]
      rw [hmem, hcount]
      omega
    · rw [if_neg hfew, if_neg]
      rw [hmem, hcount]
      omega

/-! ## Which entries are taken for a member -/

section

variable {E : AdminEnv} {s : Server} {net : NetworkInfo} {entries : List DirectoryEntry}
  {id : NodeId} {key : String}

/-- The entries for its identity, if it is the last member that has it. -/
theorem heard_of_key (hkey : extKey E s id = some key) :
    heard E (membersByExternalID E s net) entries id =
      if (net.members.filter fun j => extKey E s j = some key).getLast? = some id then
        entriesFor E entries key
      else [] := by
  have hindex : ∀ e : DirectoryEntry,
      (membersByExternalID E s net).get (E.toLower e.externalID) = some id →
        E.toLower e.externalID = key := by
    intro e hget
    obtain ⟨-, n, hnode, hne, hsame⟩ := of_membersByExternalID hget
    have hother := extKey_eq_some.mpr ⟨n, hnode, hne, hsame⟩
    rw [hkey] at hother
    exact (Option.some.inj hother).symm
  unfold heard entriesFor
  split
  · next hlast =>
    refine List.filter_congr fun e _ => decide_eq_decide.mpr ⟨hindex e, fun hsame => ?_⟩
    rw [hsame, membersByExternalID_get, hlast]
  · next hother =>
    refine List.filter_eq_nil_iff.mpr fun e _ hget => hother ?_
    rw [decide_eq_true_eq] at hget
    rw [← membersByExternalID_get, ← hindex e hget, hget]

theorem heard_of_none (hkey : extKey E s id = none) :
    heard E (membersByExternalID E s net) entries id = [] := by
  refine List.filter_eq_nil_iff.mpr fun e _ hget => ?_
  rw [decide_eq_true_eq] at hget
  obtain ⟨-, n, hnode, hne, hsame⟩ := of_membersByExternalID hget
  rw [extKey_eq_some.mpr ⟨n, hnode, hne, hsame⟩] at hkey
  cases hkey

theorem unlistedNode_iff : unlistedNode E s entries id = true ↔
      ∃ key, extKey E s id = some key ∧ entriesFor E entries key = [] := by
  unfold unlistedNode externalIDs
  rw [Option.any_map, Option.any_eq_true]
  constructor
  · rintro ⟨n, hnode, hlisted⟩
    simp only [Bool.and_eq_true, decide_eq_true_eq, Bool.not_eq_true',
      List.contains_eq_mem, decide_eq_false_iff_not] at hlisted
    refine ⟨E.toLower n.externalID, extKey_eq_some.mpr ⟨n, hnode, hlisted.1, rfl⟩, ?_⟩
    refine List.filter_eq_nil_iff.mpr fun e he hsame => hlisted.2 ?_
    rw [← of_decide_eq_true hsame]
    exact List.mem_map_of_mem he
  · rintro ⟨key, hkey, hnone⟩
    obtain ⟨n, hnode, hne, rfl⟩ := extKey_eq_some.mp hkey
    refine ⟨n, hnode, ?_⟩
    simp only [Bool.and_eq_true, decide_eq_true_eq, Bool.not_eq_true',
      List.contains_eq_mem, decide_eq_false_iff_not]
    refine ⟨hne, fun hin => ?_⟩
    obtain ⟨e, he, hsame⟩ := List.mem_map.mp hin
    exact List.filter_eq_nil_iff.mp hnone e he (decide_eq_true hsame)

end

/-! ## When that is what the directory says -/

/-- What the entries for a member's identity have to be, if there are any,
for the synchronisation to follow the last one. For the last member with
that identity on the list: enough of them are disabled to drop it if the
last one is, and too few if the last one is not; and if the last one names
no role, those before leave the role as it was. Every other member is left
alone, so the last one has to say what is so already. -/
def Heeded (E : AdminEnv) (s : Server) (net : NetworkInfo) (entries : List DirectoryEntry)
    (id : NodeId) : Prop :=
  ∀ key ∈ extKey E s id, ∀ last ∈ (entriesFor E entries key).getLast?,
    let mine := entriesFor E entries key
    let drops := mine.countP DirectoryEntry.disabled
    if (net.members.filter fun j => extKey E s j = some key).getLast? = some id then
      if last.disabled then net.members.count id ≤ drops
      else drops < net.members.count id ∧
        (last.role = "" → mine.foldl entryRole (net.role id) = net.role id)
    else last.disabled = false ∧ (last.role ≠ "" → net.role id = some (blueprintRole last.role))

instance (E : AdminEnv) (s : Server) (net : NetworkInfo) (entries : List DirectoryEntry)
    (id : NodeId) : Decidable (Heeded E s net entries id) :=
  inferInstanceAs (Decidable (∀ key ∈ extKey E s id, _))

/-- The last entry has the last word on the role. -/
theorem foldl_entryRole {es : List DirectoryEntry} {last : DirectoryEntry}
    (hlast : es.getLast? = some last) (hen : last.disabled = false) (hrole : last.role ≠ "")
    (role : Option Role) : es.foldl entryRole role = some (blueprintRole last.role) := by
  obtain ⟨init, rfl⟩ := List.getLast?_eq_some_iff.mp hlast
  rw [List.foldl_append, List.foldl_cons, List.foldl_nil]
  simp [entryRole, hen, hrole]

/-- For one member. -/
theorem standing_eq_directed_iff {E : AdminEnv} {s : Server} {netID : NetId} {net : NetworkInfo}
    (entries : List DirectoryEntry) (unlisted : Bool) (hid : id ∈ net.members) :
    standing ((syncMoves E netID s net entries unlisted).foldl amend net) id =
        directed E s net entries unlisted id ↔
      Heeded E s net entries id := by
  have hpos : 0 < net.members.count id := List.count_pos_iff.mpr hid
  rw [standing_sync entries unlisted hid]
  unfold directed Heeded
  cases hkey : extKey E s id with
  | none =>
    have hlisted : unlistedNode E s entries id = false := by
      rw [← Bool.not_eq_true, unlistedNode_iff]
      rintro ⟨key, hsome, -⟩
      rw [hkey] at hsome
      cases hsome
    simp [heard_of_none hkey, hlisted, hpos]
  | some key =>
    have hunlisted : unlistedNode E s entries id = true ↔ entriesFor E entries key = [] := by
      rw [unlistedNode_iff, hkey]
      simp
    rw [heard_of_key hkey]
    simp only [Option.mem_def, Option.some.injEq, forall_eq']
    cases hlast : (entriesFor E entries key).getLast? with
    | none =>
      have hnil := List.getLast?_eq_none_iff.mp hlast
      have hnode := hunlisted.mpr hnil
      simp only [hnil, hnode, Bool.and_true, ite_self, List.countP_nil, hpos, if_true,
        List.foldl_nil, reduceCtorEq, false_imp_iff, implies_true]
    | some last =>
      have hnode : unlistedNode E s entries id = false := by
        rw [← Bool.not_eq_true, hunlisted]
        intro hnil
        rw [hnil] at hlast
        cases hlast
      simp only [hnode, Bool.and_false, Bool.false_eq_true, if_false, Option.some.injEq, forall_eq']
      split
      · next hindexed =>
        cases hdis : last.disabled with
        | true =>
          simp only [if_true]
          split
          · next hfew => simp [hfew]
          · next hmany => simpa using hmany
        | false =>
          simp only [Bool.false_eq_true, if_false]
          by_cases hrole : last.role = ""
          · split
            · next hfew => simp [hrole, hfew]
            · next hmany => simp [hrole, hmany]
          · rw [foldl_entryRole hlast hdis hrole]
            split
            · next hfew => simp [hrole, hfew]
            · next hmany => simp [hrole, hmany]
      · next hother =>
        cases hdis : last.disabled with
        | true => simp [hpos]
        | false =>
          by_cases hrole : last.role = ""
          · simp [hrole, hpos]
          · simp [hrole, hpos]

/-! ## The whole synchronisation -/

/-- A synchronisation that succeeds has made all its moves on the network,
which was there and an enterprise's. -/
theorem applyDirectorySync_ok {E : AdminEnv} {s : Server} {netID : NetId}
    {entries : List DirectoryEntry} {unlisted : Bool} {result : DirectorySyncResult}
    (hok : (applyDirectorySync E s netID entries unlisted).2 = .ok result) :
    ∃ net, s.networks.get netID = some net ∧
      (applyDirectorySync E s netID entries unlisted).1.networks =
        s.networks.modify netID fun net =>
          (syncMoves E netID s net entries unlisted).foldl amend net := by
  cases hnet : s.networks.get netID with
  | none => simp [applyDirectorySync, hnet] at hok
  | some net =>
    cases hent : net.enterprise with
    | false => simp [applyDirectorySync, hnet, hent] at hok
    | true =>
      obtain ⟨done, -, -, hroll, hall⟩ :=
        applyDirectorySync_moves (E := E) hnet hent entries unlisted
      obtain rfl := hall (by rw [hok]; rfl)
      refine ⟨net, rfl, ?_⟩
      change (roll (applyDirectorySync E s netID entries unlisted).1).networks = _
      rw [hroll, applyAll_networks fun m hm => syncMoves_syncs hm]
      -- The moves were read off the record that is there.
      ext1 other
      by_cases hother : other = netID
      · subst hother
        rw [GoMap.get_modify_self, GoMap.get_modify_self]
        change (s.networks.get other).map _ = _
        rw [hnet]
        rfl
      · rw [GoMap.get_modify_ne _ _ hother, GoMap.get_modify_ne _ _ hother]
        rfl

theorem mem_of_amend {netID : NetId} (hms : ∀ m ∈ ms, Syncs netID m) {net : NetworkInfo}
    (h : id ∈ (ms.foldl amend net).members) :
    id ∈ net.members := by
  have hcount := count_amend hms net id
  have hpos := List.count_pos_iff.mpr h
  refine List.count_pos_iff.mp ?_
  omega

/-- A synchronisation that succeeds leaves every member as the directory
says, and changes nothing else, exactly if every member with an external
identity that is listed is heeded. -/
theorem sync_outcome_iff (E : AdminEnv) (s : Server) (netID : NetId)
    (entries : List DirectoryEntry) (unlisted : Bool) (result : DirectorySyncResult)
    (hok : (applyDirectorySync E s netID entries unlisted).2 = .ok result) :
    FollowsDirectory E s (applyDirectorySync E s netID entries unlisted).1 netID entries
        unlisted ↔
      ∀ net, s.networks.get netID = some net → ∀ id ∈ net.members, Heeded E s net entries id := by
  obtain ⟨net, hnet, hnets⟩ := applyDirectorySync_ok hok
  have hafter : (applyDirectorySync E s netID entries unlisted).1.networks.get netID =
      some ((syncMoves E netID s net entries unlisted).foldl amend net) := by
    rw [hnets, GoMap.get_modify_self, hnet]
    rfl
  constructor
  · intro hfollows net₀ hnet₀ id hid
    rw [hnet] at hnet₀
    cases hnet₀
    exact (standing_eq_directed_iff entries unlisted hid).mp
      (hfollows.members net _ hnet hafter id hid)
  · intro hheeded
    refine ⟨fun net₀ net' hnet₀ hnet' id hid => ?_, fun net₀ net' hnet₀ hnet' id hid => ?_,
      fun other hother => ?_⟩
    · rw [hnet] at hnet₀
      cases hnet₀
      rw [hafter] at hnet'
      cases hnet'
      exact (standing_eq_directed_iff entries unlisted hid).mpr (hheeded net hnet id hid)
    · rw [hnet] at hnet₀
      cases hnet₀
      rw [hafter] at hnet'
      cases hnet'
      exact mem_of_amend (fun m hm => syncMoves_syncs hm) hid
    · rw [hnets, GoMap.get_modify_ne _ _ hother]

/-! ## A user with two nodes -/

/-- A node of the user. -/
def nodeOf (externalID : String) : NodeInfo :=
  { publicKey := [], networks := [0, 1], externalID := externalID }

/-- An enterprise network with three members, two of them with the same
external identity. -/
def sharedIdentity : Server where
  nodes := ((GoMap.set ∅ 1 (nodeOf "ann")).set 2 (nodeOf "ann")).set 3 (nodeOf "bob")
  networks := GoMap.set ∅ 1 {
    name := "lab", joinRule := "open", members := [1, 2, 3], enterprise := true
    memberRoles := some (((GoMap.set ∅ 1 .member).set 2 .member).set 3 .admin) }

/-- The user with two nodes is disabled, and the first of them stays a
member. A user that is disabled by an entry and enabled by the next one is
removed. -/
theorem sync_ignores_directory :
    (let entries : List DirectoryEntry := [{ externalID := "ann", disabled := true }]
     let after := applyDirectorySync .plain sharedIdentity 1 entries false
     after.2.isOk = true ∧ ¬ FollowsDirectory .plain sharedIdentity after.1 1 entries false) ∧
    let entries : List DirectoryEntry :=
      [{ externalID := "bob", disabled := true }, { externalID := "bob", role := "admin" }]
    let after := applyDirectorySync .plain sharedIdentity 1 entries false
    after.2.isOk = true ∧ ¬ FollowsDirectory .plain sharedIdentity after.1 1 entries false := by
  have hdiffers : ∀ {s s' : Server} {entries : List DirectoryEntry} (id : NodeId),
      ((s.networks.get 1).any fun net => (s'.networks.get 1).any fun net' =>
        net.members.contains id &&
          decide (standing net' id ≠ directed .plain s net entries false id)) = true →
      ¬ FollowsDirectory .plain s s' 1 entries false := by
    intro s s' entries id hany hfollows
    obtain ⟨net, hnet, hany⟩ := (Option.any_eq_true _ _).mp hany
    obtain ⟨net', hnet', hne⟩ := (Option.any_eq_true _ _).mp hany
    rw [Bool.and_eq_true, List.contains_iff_mem, decide_eq_true_eq] at hne
    exact hne.2 (hfollows.members net net' hnet hnet' id hne.1)
  exact ⟨⟨by decide, hdiffers 1 (by decide)⟩, by decide, hdiffers 3 (by decide)⟩

/-- One user is listed with a role, and the unlisted ones are removed. -/
theorem sync_outcome_iff_listed :
    let entries : List DirectoryEntry := [{ externalID := "bob", role := "guest" }]
    let after := applyDirectorySync .plain sharedIdentity 1 entries true
    after.2.isOk = true ∧ FollowsDirectory .plain sharedIdentity after.1 1 entries true := by
  intro entries after
  have hok : after.2.isOk = true := by decide
  obtain ⟨result, hresult⟩ := exists_of_isOk hok
  have hall : ((sharedIdentity.networks.get 1).all fun net => net.members.all fun id =>
      decide (Heeded .plain sharedIdentity net entries id)) = true := by decide
  refine ⟨hok, (sync_outcome_iff _ _ _ _ _ result hresult).mpr fun net hnet id hid => ?_⟩
  rw [hnet, Option.all_some, List.all_eq_true] at hall
  exact of_decide_eq_true (hall id hid)

end Rendezvous.Roster

import Rendezvous.Identity.KeyBinding
import Rendezvous.Roster.Op

/-!
# Roles and tags of members only

A network is tidy when every node that has a role or tags in it is a
member. No path that takes a member out of a network deletes its tags:
leaving, being kicked by a member or by the operator, a directory
synchronisation and a deregistration all keep them
(`tags_outlive_membership`), and a synchronisation may give a role to a
node it has just removed. Runs in which no member with tags is removed,
and no removed node gets a role, keep every network tidy (`tidy_runs`).
-/

namespace Rendezvous.Roster

open Base Registry Rendezvous.Membership Directory Identity Admin

variable {id : NodeId} {netID : NetId} {E : AdminEnv} {s : Server}

/-- Only members have a role or tags. -/
structure Tidy (net : NetworkInfo) : Prop where
  roles : ∀ id, net.role id ≠ none → id ∈ net.members
  tags : ∀ id, net.memberTags.get id ≠ none → id ∈ net.members

/-! ## The updates of a record -/

namespace Tidy

variable {net : NetworkInfo}

/-- Only the members, the roles and the tags matter. -/
theorem of_same {net' : NetworkInfo} (h : Tidy net)
    (hmembers : net'.members = net.members)
    (hroles : net'.memberRoles = net.memberRoles)
    (htags : net'.memberTags = net.memberTags) : Tidy net' := by
  refine ⟨fun id hid => ?_, fun id hid => ?_⟩
  · rw [hmembers]
    unfold NetworkInfo.role at hid
    rw [hroles] at hid
    exact h.roles id hid
  · rw [hmembers]
    rw [htags] at hid
    exact h.tags id hid

theorem joinedAs (h : Tidy net) (id : NodeId) (role : Role) : Tidy (joinedAs net id role) := by
  refine ⟨fun j hj => ?_, fun j hj => ?_⟩
  · show j ∈ net.members ++ [id]
    by_cases hji : j = id
    · simp [hji]
    · rw [role_joinedAs, if_neg hji] at hj
      exact List.mem_append_left _ (h.roles j hj)
  · exact List.mem_append_left _ (h.tags j hj)

theorem attend (h : Tidy net) (id : NodeId) : Tidy (attend id net) := by
  unfold Roster.attend
  split
  · exact h
  · exact ⟨fun j hj => List.mem_append_left _ (h.roles j hj),
      fun j hj => List.mem_append_left _ (h.tags j hj)⟩

theorem unattend (h : Tidy net) (hrole : net.role id = none)
    (htags : net.memberTags.get id = none) :
    Tidy (unattend id net) := by
  refine ⟨fun j hj => ?_, fun j hj => ?_⟩
  · have hne : j ≠ id := fun heq => hj (heq ▸ hrole)
    exact (List.mem_erase_of_ne hne).mpr (h.roles j hj)
  · have hne : j ≠ id := fun heq => hj (heq ▸ htags)
    exact (List.mem_erase_of_ne hne).mpr (h.tags j hj)

theorem dropMember (h : Tidy net) (htags : net.memberTags.get id = none) :
    Tidy (dropMember net id) := by
  refine ⟨fun j hj => ?_, fun j hj => ?_⟩
  · have hne : j ≠ id := by
      rintro rfl
      exact hj (by simp)
    rw [role_dropMember, if_neg hne] at hj
    exact (List.mem_erase_of_ne hne).mpr (h.roles j hj)
  · have hne : j ≠ id := fun heq => hj (heq ▸ htags)
    exact (List.mem_erase_of_ne hne).mpr (h.tags j hj)

theorem setRole (h : Tidy net) (hmember : id ∈ net.members) (role : Role) :
    Tidy (setRole net id role) := by
  refine ⟨fun j hj => ?_, h.tags⟩
  by_cases hji : j = id
  · rw [hji]
    exact hmember
  · rw [role_setRole, if_neg hji] at hj
    exact h.roles j hj

theorem retagged (h : Tidy net) (hmember : id ∈ net.members) (tags : List String) :
    Tidy (retagged net id tags) := by
  refine ⟨h.roles, fun j hj => ?_⟩
  by_cases hji : j = id
  · rw [hji]
    exact hmember
  · apply h.tags j
    unfold Membership.retagged at hj
    simp only at hj
    split at hj
    · rwa [GoMap.get_del_ne _ hji] at hj
    · rwa [GoMap.get_set_ne _ _ hji] at hj

/-- The backfill gives roles to the listed members only. -/
theorem of_backfill (members : List NodeId) (st : GoMap NodeId Role × Bool)
    (h : (members.foldl backfillRole st).1.get id ≠ none) :
    st.1.get id ≠ none ∨ id ∈ members := by
  induction members generalizing st with
  | nil => exact Or.inl h
  | cons m members ih =>
    rcases ih _ h with hst | hmem
    · by_cases hid : id = m
      · exact Or.inr (by simp [hid])
      · refine Or.inl ?_
        unfold backfillRole at hst
        split at hst
        · exact hst
        · split at hst
          · rwa [GoMap.get_set_ne _ _ hid] at hst
          · rwa [GoMap.get_set_ne _ _ hid] at hst
    · exact Or.inr (by simp [hmem])

theorem flagged (h : Tidy net) (enterprise : Bool) : Tidy (flagged net enterprise) := by
  refine ⟨fun id hid => ?_, h.tags⟩
  show id ∈ net.members
  unfold NetworkInfo.role Membership.flagged rolesForEnterprise at hid
  cases enterprise with
  | false => exact absurd (GoMap.get_empty id) hid
  | true =>
    simp only [if_true] at hid
    split at hid
    · exact h.roles id hid
    · rcases of_backfill _ _ hid with hrole | hmem
      · exact h.roles id hrole
      · exact hmem

theorem newNetwork (msg : Msg) (id : NodeId) (rules : Option NetworkRules)
    (exprPolicy : Option String) (now : Time) :
    Tidy (newNetwork msg id rules exprPolicy now) := by
  refine ⟨fun j hj => ?_, fun j hj => absurd (GoMap.get_empty j) hj⟩
  show j ∈ [id]
  by_contra hne
  apply hj
  show ((∅ : GoMap NodeId Role).set id .owner).get j = none
  rw [GoMap.get_set_ne _ _ (by simpa using hne), GoMap.get_empty]

theorem blueprintNetwork (bp : NetworkBlueprint) (now : Time) : Tidy (blueprintNetwork bp now) :=
  ⟨fun id hid => absurd (GoMap.get_empty id) hid, fun id hid => absurd (GoMap.get_empty id) hid⟩

/-! ## A synchronisation

The induction is on the moves still to come. A node that has a role and is
no member any more is one that a later move drops again. -/

theorem sync {ms : List Move} (hms : ∀ m ∈ ms, Syncs netID m) (hroles : ∀ id, net.role id ≠ none →
      id ∈ net.members ∨ .drop id netID ∈ ms)
    (htags : ∀ id, net.memberTags.get id ≠ none → id ∈ net.members)
    (huntagged : ∀ id, .drop id netID ∈ ms → net.memberTags.get id = none)
    (hassigned : ∀ as id role bs, ms = as ++ .assign id netID role :: bs →
      (id ∈ net.members ∧ .drop id netID ∉ as) ∨ .drop id netID ∈ bs) :
    Tidy (ms.foldl amend net) := by
  induction ms generalizing net with
  | nil =>
    refine ⟨fun id hid => ?_, htags⟩
    exact (hroles id hid).resolve_right (by simp)
  | cons m ms ih =>
    have hrest : ∀ m' ∈ ms, Syncs netID m' := fun m' hm' => hms m' (by simp [hm'])
    cases hms m (by simp) with
    | drop id₀ =>
      have hstay : ∀ {id}, id ≠ id₀ → id ∈ net.members →
          id ∈ (Membership.dropMember net id₀).members :=
        fun hne hmem => (List.mem_erase_of_ne hne).mpr hmem
      refine ih hrest ?_ ?_ (fun id hid => huntagged id (by simp [hid])) ?_
      · intro id hid
        change (Membership.dropMember net id₀).role id ≠ none at hid
        have hne : id ≠ id₀ := by
          rintro rfl
          exact hid (by simp)
        rw [role_dropMember, if_neg hne] at hid
        rcases hroles id hid with hmem | hdrop
        · exact Or.inl (hstay hne hmem)
        · refine Or.inr ((List.mem_cons.mp hdrop).resolve_left ?_)
          intro heq
          cases heq
          exact hne rfl
      · intro id hid
        have hne : id ≠ id₀ := by
          rintro rfl
          exact hid (huntagged id (by simp))
        exact hstay hne (htags id hid)
      · intro as id role bs hsplit
        rcases hassigned (.drop id₀ netID :: as) id role bs
          (by rw [hsplit]; rfl) with ⟨hmem, hnot⟩ | hlater
        · have hne : id ≠ id₀ := by
            rintro rfl
            exact hnot (by simp)
          exact Or.inl ⟨hstay hne hmem, fun hin => hnot (by simp [hin])⟩
        · exact Or.inr hlater
    | assign id₀ role₀ =>
      refine ih hrest ?_ htags (fun id hid => huntagged id (by simp [hid])) ?_
      · intro id hid
        by_cases hid₀ : id = id₀
        · subst hid₀
          rcases hassigned [] id role₀ ms rfl with ⟨hmem, -⟩ | hlater
          · exact Or.inl hmem
          · exact Or.inr hlater
        · have hid' : net.role id ≠ none := by
            simpa [amend, hid₀] using hid
          rcases hroles id hid' with hmem | hdrop
          · exact Or.inl hmem
          · exact Or.inr (by simpa using hdrop)
      · intro as id role bs hsplit
        rcases hassigned (.assign id₀ netID role₀ :: as) id role bs
          (by rw [hsplit]; rfl) with ⟨hmem, hnot⟩ | hlater
        · exact Or.inl ⟨hmem, fun hin => hnot (by simp [hin])⟩
        · exact Or.inr hlater

end Tidy

/-! ## One command -/

/-- The node has no tags in the network. -/
def Untagged (s : Server) (netID : NetId) (id : NodeId) : Prop :=
  ∀ net, s.networks.get netID = some net → net.memberTags.get id = none

/-- What a synchronisation asks for: it drops no member with tags, and a
role it gives to a node it has dropped is taken away by a later entry. -/
def CleanSync (E : AdminEnv) (s : Server) (msg : Msg) : Prop :=
  let netID := msg.jsonUint16 "network_id"
  ∀ net, s.networks.get netID = some net →
    let asked := syncMoves E netID s net
      (parseDirectoryEntries ((msg.arr? "entries").getD []))
      (msg.bool "remove_unlisted")
    (∀ id, .drop id netID ∈ asked → net.memberTags.get id = none) ∧
      ∀ as id role bs, asked = as ++ .assign id netID role :: bs →
        .drop id netID ∈ as → .drop id netID ∈ bs

/-- The command leaves no role and no tags of a node it removes. -/
def CleanOp (E : AdminEnv) (s : Server) : Op → Prop
  | .leaveNetwork msg =>
    Untagged s (msg.jsonUint16 "network_id") (msg.jsonUint32 "node_id")
  | .kickMember msg =>
    Untagged s (msg.jsonUint16 "network_id") (msg.jsonUint32 "target_node_id")
  | .adminKick netID id => Untagged s netID id
  | .deregister msg =>
    ∀ n, s.nodes.get (msg.jsonUint32 "node_id") = some n →
      ∀ netID ∈ n.networks, Untagged s netID (msg.jsonUint32 "node_id")
  | .directorySync msg => CleanSync E s msg
  | .reap threshold chunk =>
    ∀ id ∈ chunk, Stale s threshold id → Untagged s 0 id ∧
      ∀ net, s.networks.get 0 = some net → net.role id = none
  | _ => True

/-- The command is refused, or it is clean. -/
def Cleans (E : AdminEnv) (s : Server) (op : Op) : Prop :=
  step E s op ≠ s → CleanOp E s op

/-- A node that gets a role from an entry is a member. -/
theorem member_of_assign {net : NetworkInfo} {entries : List DirectoryEntry} {unlisted : Bool}
    {role : Role} (h : .assign id netID role ∈ syncMoves E netID s net entries unlisted) :
    id ∈ net.members := by
  rcases List.mem_append.mp h with hentry | hleft
  · obtain ⟨entry, -, hmove⟩ := List.mem_filterMap.mp hentry
    unfold entryMove at hmove
    split at hmove
    · cases hmove
    · next id' hid =>
      split at hmove
      · cases hmove
      · split at hmove
        · cases hmove
        · cases hmove
          exact (of_membersByExternalID hid).1
  · split at hleft
    · obtain ⟨id', -, heq⟩ := List.mem_map.mp hleft
      cases heq
    · cases hleft

theorem tidy_moved {op : Op} {ms : List Move} (hmoved : Moved E s op ms) (hs : s.networks.All Tidy)
    (hclean : CleanOp E s op) :
    (Move.applyAll (roll s) ms).networks.All Tidy := by
  have hroll : (roll s).networks.All Tidy := hs
  cases hmoved with
  | none => exact hroll
  | registered now order remoteAddr msg id nets horder harrives =>
    exact hroll.modify 0 fun net htidy => htidy.attend id
  | reaped threshold chunk ids hids =>
    refine all_vanish
      (C := fun id net => net.role id = none ∧ net.memberTags.get id = none)
      (fun id net hc htidy => htidy.unattend hc.1 hc.2)
      (fun id j net hc => hc) hroll fun id hid net hnet => ?_
    obtain ⟨huntagged, hrole⟩ := hclean id (hids id hid).1 (hids id hid).2
    exact ⟨hrole net hnet, huntagged net hnet⟩
  | deregistered msg n hnode =>
    have hlist : (roll s).lists.get (msg.jsonUint32 "node_id") = some n.networks := by
      rw [roll_lists_get, hnode]
      rfl
    simp only [Move.applyAll_cons, Move.applyAll_nil, Move.apply, hlist, Option.getD_some]
    exact all_depart (fun net huntagged htidy => htidy.dropMember huntagged)
      (fun net huntagged => huntagged) hroll (hclean n hnode)
  | created now msg rules exprPolicy n hnode hfree =>
    exact hroll.set _ (Tidy.newNetwork msg _ rules exprPolicy now)
  | deleted msg hzero => exact hroll.del _
  | joined msg node net hzero hnode hnet hnew
  | accepted now msg node net haccept hnode hnet hent hnew =>
    exact hroll.modify _ fun net htidy => htidy.joinedAs _ _
  | left msg net hzero hnet howner | kicked msg net hzero hnet howner
  | adminKicked netID id net hnet howner =>
    exact hroll.modify_at fun net hnet htidy => htidy.dropMember (hclean net hnet)
  | tagged msg net hnet hmember =>
    exact hroll.modify_get hnet fun htidy => htidy.retagged hmember _
  | promoted msg net current hnet hrole howner | demoted msg net current hnet hrole howner =>
    exact hroll.modify_get hnet fun htidy => htidy.setRole (htidy.roles _ (by simp [hrole])) _
  | transferred order msg net currentOwner role hnet hcurrent hne hrole =>
    have htidy : Tidy net := hs _ net hnet
    have hfirst := hroll.modify_get (f := fun net => setRole net currentOwner .admin) hnet
      fun htidy => htidy.setRole (htidy.roles _ (by simp [hcurrent])) _
    have hsecond : (Move.apply (roll s) (.assign currentOwner (msg.jsonUint16 "network_id")
        .admin)).networks.get (msg.jsonUint16 "network_id") =
          some (setRole net currentOwner .admin) :=
      (GoMap.get_modify_self _ _ _).trans (congrArg _ hnet)
    exact hfirst.modify_get hsecond fun h => h.setRole (htidy.roles _ (by simp [hrole])) _
  | roleSet netID id text net role hnet howner hmember hrole =>
    exact hroll.modify_get hnet fun htidy => htidy.setRole hmember role
  | enterpriseSet msg net hnet =>
    exact hroll.modify _ fun net htidy => htidy.flagged _
  | synced msg net _ hzero hnet hent hdone hall =>
    have hsyncs : ∀ m ∈ ms, Syncs (msg.jsonUint16 "network_id") m :=
      fun m hm => syncMoves_syncs (hdone.subset hm)
    obtain ⟨huntagged, hassigned⟩ := hclean net hnet
    have htidy : Tidy net := hs _ net hnet
    rw [applyAll_networks hsyncs]
    refine hroll.modify_at fun net' hnet' _ => ?_
    cases hnet.symm.trans hnet'
    refine Tidy.sync hsyncs (fun id hid => Or.inl (htidy.roles id hid)) htidy.tags
      (fun id hid => huntagged id (hdone.subset hid)) ?_
    intro as id role bs hsplit
    rcases hall with heq | ⟨-, hdrops⟩
    · by_cases hdropped : .drop id (msg.jsonUint16 "network_id") ∈ as
      · exact Or.inr (hassigned as id role bs (heq ▸ hsplit) hdropped)
      · refine Or.inl ⟨member_of_assign (hdone.subset (a := .assign id
          (msg.jsonUint16 "network_id") role) ?_), hdropped⟩
        rw [hsplit]
        simp
    · obtain ⟨id', hid'⟩ := hdrops (.assign id (msg.jsonUint16 "network_id") role)
        (by rw [hsplit]; simp)
      cases hid'
  | provisionedOld now order msg bp netID net hbp hnet hname =>
    exact hroll.modify netID fun net htidy => htidy.of_same rfl rfl rfl
  | provisionedNew now order msg bp hbp hnew =>
    exact (hroll.set s.nextNet (Tidy.blueprintNetwork bp now)).modify _
      fun net htidy => htidy.of_same rfl rfl rfl

theorem tidy_step {op : Op} (hclean : Cleans E s op) (hs : s.networks.All Tidy) :
    (step E s op).networks.All Tidy :=
  roll_step (P := fun r => r.networks.All Tidy)
    (fun _ hmoved => tidy_moved hmoved hs) hclean hs

/-! ## Whole runs -/

theorem tidy_freshServer (now : Time) : (freshServer now).networks.All Tidy := by
  refine GoMap.All.set (fun netID net hnet => ?_) 0 ?_
  · rw [GoMap.get_empty] at hnet
    cases hnet
  · exact ⟨fun id hid => absurd (GoMap.get_empty id) hid,
      fun id hid => absurd (GoMap.get_empty id) hid⟩

/-- The node is in the network with the given role and no tags. -/
def StartsAs (s : Server) (netID : NetId) (id : NodeId) (role : Role) : Prop :=
  ∀ net, s.networks.get netID = some net → net.role id = some role ∧ net.memberTags.get id = none

/-- A node that joins a tidy network it is no member of starts over. -/
theorem startsAs_join {net : NetworkInfo} (hs : s.networks.All Tidy)
    (hnet : s.networks.get netID = some net) (hnot : id ∉ net.members) (role : Role) :
    StartsAs (appendNodeNetwork (putNetwork s netID (joinedAs net id role))
      id netID) netID id role := by
  intro net' hnet'
  have hget : (s.networks.set netID (joinedAs net id role)).get netID = some net' := hnet'
  rw [GoMap.get_set_self] at hget
  cases hget
  have htags : net.memberTags.get id = none := by
    by_contra hsome
    exact hnot ((hs netID net hnet).tags id hsome)
  exact ⟨by simp, htags⟩

/-- In every run that removes no member with tags and gives no role to a
node it removed: whoever is not a member of a network has no role and no
tags there, and a node that joins, or accepts an invite, starts with the
role it is given and without tags. -/
theorem tidy_runs (E : AdminEnv) (now : Time) (ops : List Op)
    (hclean : Meets (step E) (Cleans E) (freshServer now) ops)
    (before : List Op) (hbefore : before <+: ops) :
    let s := run (step E) (freshServer now) before
    (∀ netID net id, s.networks.get netID = some net → id ∉ net.members →
      net.role id = none ∧ net.memberTags.get id = none) ∧
    ∀ msg o net,
      let id := msg.jsonUint32 "node_id"
      let netID := msg.jsonUint16 "network_id"
      s.networks.get netID = some net → id ∉ net.members →
      (handleJoinNetwork E.toEnv s msg = .ok o →
        StartsAs o.server netID id (joinRole E.toEnv s netID id)) ∧
      (msg.bool "accept" = true → ∀ now, handleRespondInvite E.toEnv now s msg = .ok o →
          StartsAs o.server netID id .member) := by
  intro s
  have hs : s.networks.All Tidy :=
    (hclean.initial _ hbefore).invariant _ (fun _ _ => tidy_step)
      (tidy_freshServer now)
  refine ⟨?_, ?_⟩
  · intro netID net id hnet hnot
    refine ⟨?_, ?_⟩
    · by_contra hrole
      exact hnot ((hs netID net hnet).roles id hrole)
    · by_contra htags
      exact hnot ((hs netID net hnet).tags id htags)
  · intro msg o net id netID hnet hnot
    refine ⟨fun hjoin => ?_, fun haccept now' hrespond => ?_⟩
    · obtain ⟨node, net', -, -, hnet', -, hserver, -⟩ := handleJoinNetwork_ok hjoin
      cases hnet.symm.trans hnet'
      rw [hserver]
      exact startsAs_join hs hnet hnot _
    · obtain ⟨-, s', inbox, hserver, hcase⟩ := handleRespondInvite_ok hrespond
      have hsame : o.server.networks = s'.networks := by rw [hserver]
      rcases hcase with ⟨hdecline, -⟩ | ⟨-, node, net', -, hnet', -, -, hs'⟩
      · rw [haccept] at hdecline
        cases hdecline
      · cases hnet.symm.trans hnet'
        have hstart := startsAs_join hs hnet hnot .member
        rw [joinedAs_member, ← hs'] at hstart
        intro net'' hnet''
        rw [hsame] at hnet''
        exact hstart net'' hnet''

/-! ## Tags that stay -/

/-- Two nodes register; the first creates a network and the second joins
it. -/
def joinedRun : List Op :=
  [.register 0 [0] "" [("public_key", .str "AAAA")],
    .register 0 [0] "" [("public_key", .str "BBBB")],
    .createNetwork 0 (operatorMsg [("node_id", .num 1), ("name", .str "lab")]),
    .joinNetwork (operatorMsg [("node_id", .num 2), ("network_id", .num 1)])]

/-- The member's tags are set. -/
def tagMember : Op :=
  .setMemberTags (operatorMsg [("target_node_id", .num 2), ("network_id", .num 1),
    ("tags", .arr [.str "gpu"])])

/-- The member leaves. -/
def leaveLab : Op :=
  .leaveNetwork (operatorMsg [("node_id", .num 2), ("network_id", .num 1)])

/-- A member with tags leaves the network, and its tags stay. -/
theorem tags_outlive_membership : ¬ ∀ (E : AdminEnv) (now : Time) (ops : List Op) (netID : NetId)
      (net : NetworkInfo) (id : NodeId),
      (run (step E) (freshServer now) ops).networks.get netID = some net →
      id ∉ net.members → net.role id = none ∧ net.memberTags.get id = none := by
  intro h
  have hstale : ((run (step .plain) (freshServer 0)
      (joinedRun ++ [tagMember, leaveLab])).networks.get 1).any (fun net =>
        decide (2 ∉ net.members) && decide (net.memberTags.get 2 ≠ none)) = true := by
    decide
  obtain ⟨net, hnet, hboth⟩ := (Option.any_eq_true _ _).mp hstale
  rw [Bool.and_eq_true, decide_eq_true_eq, decide_eq_true_eq] at hboth
  exact hboth.2 (h .plain 0 _ 1 net 2 hnet hboth.1).2

/-- Without tags the member leaves nothing behind. -/
theorem leaveLab_clean : Meets (step .plain) (Cleans .plain) (freshServer 0)
      (joinedRun ++ [leaveLab]) := by
  refine ⟨fun _ => trivial, fun _ => trivial, fun _ => trivial, fun _ => trivial,
    fun _ net hnet => ?_, trivial⟩
  have huntagged : ((run (step .plain) (freshServer 0) joinedRun).networks.get 1).all
      (fun net => decide (net.memberTags.get 2 = none)) = true := by decide
  have hget : (run (step .plain) (freshServer 0) joinedRun).networks.get 1 = some net := hnet
  rw [hget] at huntagged
  exact of_decide_eq_true huntagged

theorem tidy_runs_left : ∃ net, (run (step .plain) (freshServer 0)
        (joinedRun ++ [leaveLab])).networks.get 1 = some net ∧
      net.role 2 = none ∧ net.memberTags.get 2 = none := by
  have htidy := (tidy_runs .plain 0 (joinedRun ++ [leaveLab]) leaveLab_clean _
    List.prefix_rfl).1
  have hleft : ((run (step .plain) (freshServer 0)
      (joinedRun ++ [leaveLab])).networks.get 1).any (fun net =>
        decide (2 ∉ net.members)) = true := by decide
  obtain ⟨net, hnet, hnot⟩ := (Option.any_eq_true _ _).mp hleft
  exact ⟨net, hnet, htidy 1 net 2 hnet (of_decide_eq_true hnot)⟩

end Rendezvous.Roster

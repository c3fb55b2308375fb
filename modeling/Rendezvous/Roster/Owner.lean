import Rendezvous.Roster.Tidy

/-!
# One owner for every enterprise network

An enterprise network that has members is owned when exactly one of them
has the owner role. Leaving, kicking, promoting and demoting guard the
owner. Other commands do not: the deregistration of the owner leaves a
network without one (`owner_deregisters`), a role kept for a join may be a
second owner, a directory synchronisation assigns and removes owners as
its entries say, the enterprise flag may be set on a network whose roles
name no owner, and a provisioned network gets its first member as a plain
one. `owned_runs` says what each of them has to meet.
-/

namespace Rendezvous.Roster

open Base Registry Rendezvous.Membership Directory Identity Admin

variable {id : NodeId} {netID : NetId} {ms : List Move}

/-- Exactly one member has the owner role. -/
def OneOwner (net : NetworkInfo) : Prop :=
  ∃! id, id ∈ net.members ∧ net.role id = some .owner

/-- An enterprise network with members has one owner. -/
def Owned (net : NetworkInfo) : Prop :=
  net.enterprise = true → net.members ≠ [] → OneOwner net

/-- The node may come in with the role: as the owner if it is the first
member or comes back as the owner, and not as the owner otherwise. -/
def FitsIn (net : NetworkInfo) (id : NodeId) (role : Role) : Prop :=
  role = .owner ↔ net.members = [] ∨ id ∈ net.members ∧ net.role id = some .owner

instance (net : NetworkInfo) (id : NodeId) (role : Role) : Decidable (FitsIn net id role) :=
  inferInstanceAs (Decidable (_ ↔ _))

/-! ## The updates of a record -/

variable {E : AdminEnv} {net' : NetworkInfo} {role : Role}

namespace Owned

variable {net : NetworkInfo}

/-- Members and roles that say the same have the same owner. -/
theorem oneOwner_of_iff (h : OneOwner net)
    (hiff : ∀ id, (id ∈ net'.members ∧ net'.role id = some .owner) ↔
      (id ∈ net.members ∧ net.role id = some .owner)) : OneOwner net' := by
  obtain ⟨o, ho, huniq⟩ := h
  exact ⟨o, (hiff o).mpr ho, fun id hid => huniq id ((hiff id).mp hid)⟩

theorem joinedAs (h : Owned net) (hfits : net.enterprise = true → FitsIn net id role) :
    Owned (joinedAs net id role) := by
  intro hent _
  have hmem : ∀ j, j ∈ (Membership.joinedAs net id role).members ↔ j ∈ net.members ∨ j = id := by
    intro j
    show j ∈ net.members ++ [id] ↔ _
    simp
  by_cases hrole : role = .owner
  · subst hrole
    -- The newcomer is the owner, and no other member is.
    refine ⟨id, ⟨(hmem id).mpr (Or.inr rfl), by simp⟩, ?_⟩
    rintro j ⟨hj, howner⟩
    by_contra hne
    rw [role_joinedAs, if_neg hne] at howner
    have hold : j ∈ net.members := ((hmem j).mp hj).resolve_right hne
    rcases (hfits hent).mp rfl with hempty | ⟨hid, hidowner⟩
    · rw [hempty] at hold
      cases hold
    · obtain ⟨o, -, huniq⟩ := h hent (List.ne_nil_of_mem hold)
      exact hne ((huniq j ⟨hold, howner⟩).trans (huniq id ⟨hid, hidowner⟩).symm)
  · have hnot := mt (hfits hent).mpr hrole
    push Not at hnot
    refine oneOwner_of_iff (h hent hnot.1) fun j => ?_
    rw [hmem, role_joinedAs]
    by_cases hj : j = id
    · subst hj
      simp only [or_true, true_and, if_true, Option.some.injEq, hrole, false_iff]
      exact fun hboth => hnot.2 hboth.1 hboth.2
    · simp [hj]

/-- Dropping a node that is not the owner. -/
theorem dropMember (h : Owned net) (hid : net.enterprise = true → id ∈ net.members →
      net.role id = some .owner → net.members.erase id = []) :
    Owned (dropMember net id) := by
  intro hent hne
  have hmembers : (Membership.dropMember net id).members = net.members.erase id := rfl
  have hold : net.members ≠ [] := by
    rintro hempty
    rw [hmembers, hempty] at hne
    exact hne rfl
  obtain ⟨o, ⟨ho, howner⟩, huniq⟩ := h hent hold
  have hstays : o ≠ id := by
    rintro rfl
    exact hne (hid hent ho howner)
  refine oneOwner_of_iff ⟨o, ⟨ho, howner⟩, huniq⟩ fun j => ?_
  rw [role_dropMember, hmembers]
  by_cases hj : j = id
  · subst hj
    simp only [if_true, reduceCtorEq, and_false, false_iff]
    intro hboth
    exact hstays (huniq j hboth).symm
  · rw [if_neg hj, List.mem_erase_of_ne hj]

theorem unattend (h : Owned net) (hid : net.enterprise = true → net.role id ≠ some .owner) :
    Owned (unattend id net) := by
  intro hent hne
  have hold : net.members ≠ [] := by
    intro hempty
    apply hne
    show net.members.erase id = []
    rw [hempty]
    rfl
  refine oneOwner_of_iff (h hent hold) fun j => ?_
  show (j ∈ net.members.erase id ∧ net.role j = some .owner) ↔ _
  by_cases hj : j = id
  · subst hj
    simp [hid hent]
  · rw [List.mem_erase_of_ne hj]

theorem attend (h : Owned net) (hid : net.enterprise = true → net.members ≠ [] ∧
      (id ∉ net.members → net.role id ≠ some .owner)) :
    Owned (attend id net) := by
  unfold Roster.attend
  split
  · exact h
  · next hnew =>
    intro hent _
    have hnot : id ∉ net.members := by simpa using hnew
    refine oneOwner_of_iff (h hent (hid hent).1) fun j => ?_
    show (j ∈ net.members ++ [id] ∧ net.role j = some .owner) ↔ _
    by_cases hj : j = id
    · subst hj
      simp [(hid hent).2 hnot]
    · simp [hj]

/-- A role of a node that is not the owner is replaced by one that is not
the owner's. -/
theorem setRole (h : Owned net) (hid : net.role id ≠ some .owner) (hrole : role ≠ .owner) :
    Owned (setRole net id role) := by
  intro hent hne
  refine oneOwner_of_iff (h hent hne) fun j => ?_
  show (j ∈ net.members ∧ (Membership.setRole net id role).role j = _) ↔ _
  rw [role_setRole]
  by_cases hj : j = id
  · subst hj
    simp [hid, hrole]
  · rw [if_neg hj]

/-- The owner role passes from the one that has it to another member. -/
theorem transferred (h : Owned net) {old new : NodeId}
    (hold : net.role old = some .owner)
    (hmembers : ∀ id, net.role id = some .owner → id ∈ net.members)
    (hnew : new ∈ net.members) :
    Owned (Membership.setRole (Membership.setRole net old .admin) new .owner) := by
  intro hent hany
  obtain ⟨o, -, huniq⟩ := h hent hany
  refine ⟨new, ⟨hnew, by simp⟩, ?_⟩
  rintro j ⟨hj, howner⟩
  by_contra hjn
  rw [role_setRole, if_neg hjn, role_setRole] at howner
  split at howner
  · cases howner
  · next hjo =>
    exact hjo ((huniq j ⟨hj, howner⟩).trans
      (huniq old ⟨hmembers old hold, hold⟩).symm)

/-- Only the flag, the members and the roles matter. -/
theorem of_same (h : Owned net) (hent : net'.enterprise = net.enterprise)
    (hmembers : net'.members = net.members) (hroles : net'.memberRoles = net.memberRoles) :
    Owned net' := by
  intro hent' hne
  rw [hent] at hent'
  rw [hmembers] at hne
  refine oneOwner_of_iff (h hent' hne) fun id => ?_
  unfold NetworkInfo.role
  rw [hmembers, hroles]

theorem newNetwork (msg : Msg) (id : NodeId) (rules : Option NetworkRules)
    (exprPolicy : Option String) (now : Time) :
    Owned (newNetwork msg id rules exprPolicy now) := by
  intro _ _
  have hrole : ∀ j, (Membership.newNetwork msg id rules exprPolicy now).role j =
      if j = id then some .owner else none := by
    intro j
    show ((∅ : GoMap NodeId Role).set id .owner).get j = _
    rw [GoMap.get_set, GoMap.get_empty]
  refine ⟨id, ⟨List.mem_singleton_self id, by rw [hrole, if_pos rfl]⟩, ?_⟩
  rintro j ⟨hj, -⟩
  exact List.mem_singleton.mp hj

/-- What a blueprint does to a network that may become an enterprise one. -/
theorem applyToNetwork (h : Owned net) {bp : NetworkBlueprint}
    (hbp : bp.enterprise = true → net.members ≠ [] → OneOwner net) :
    Owned (applyToNetwork bp net) := by
  intro hent hne
  have hone : OneOwner net := by
    have hor : (net.enterprise || bp.enterprise) = true := hent
    rcases (Bool.or_eq_true _ _).mp hor with hnet | hnew
    · exact h hnet hne
    · exact hbp hnew hne
  exact oneOwner_of_iff hone fun id => Iff.rfl

/-! ## The enterprise flag -/

/-- Once there is an owner, the backfill makes plain members. -/
theorem backfill_get (members : List NodeId) (roles : GoMap NodeId Role)
    (id : NodeId) :
    (members.foldl backfillRole (roles, true)).1.get id =
      if roles.get id = none ∧ id ∈ members then some .member
      else roles.get id := by
  induction members generalizing roles with
  | nil => simp
  | cons m members ih =>
    rw [List.foldl_cons]
    by_cases hhas : roles.has m = true
    · have hskip : backfillRole (roles, true) m = (roles, true) := if_pos hhas
      obtain ⟨r, hr⟩ := (GoMap.has_eq_true _ _).mp hhas
      rw [hskip, ih]
      by_cases hid : id = m
      · subst hid
        simp [hr]
      · simp [hid]
    · have hset : backfillRole (roles, true) m = (roles.set m .member, true) := by
        unfold backfillRole
        rw [if_neg hhas, if_pos rfl]
      have hnone : roles.get m = none := by
        rw [Bool.not_eq_true] at hhas
        exact (GoMap.has_eq_false _ _).mp hhas
      rw [hset, ih, GoMap.get_set]
      by_cases hid : id = m
      · subst hid
        simp [hnone]
      · simp [hid]

/-- Without an owner, the first member without a role becomes the owner. -/
theorem backfill_first {members : List NodeId} {roles : GoMap NodeId Role} (hid : id ∈ members)
    (hrole : roles.get id = none) :
    ∃ first, first ∈ members ∧ roles.get first = none ∧
      ∃ rest : List NodeId, members.foldl backfillRole (roles, false) =
        rest.foldl backfillRole (roles.set first .owner, true) := by
  induction members with
  | nil => cases hid
  | cons m members ih =>
    rw [List.foldl_cons]
    by_cases hhas : roles.has m = true
    · have hskip : backfillRole (roles, false) m = (roles, false) := if_pos hhas
      have hne : id ≠ m := by
        rintro rfl
        rw [(GoMap.has_eq_false _ _).mpr hrole] at hhas
        cases hhas
      have hid' : id ∈ members := (List.mem_cons.mp hid).resolve_left hne
      obtain ⟨first, hmem, hnone, rest, hrest⟩ := ih hid'
      exact ⟨first, by simp [hmem], hnone, rest, by rw [hskip, hrest]⟩
    · have hset : backfillRole (roles, false) m = (roles.set m .owner, true) := by
        unfold backfillRole
        rw [if_neg hhas, if_neg (by simp)]
      rw [Bool.not_eq_true] at hhas
      exact ⟨m, by simp, (GoMap.has_eq_false _ _).mp hhas, members, by rw [hset]⟩

/-- The flag may be set: there is one owner, or there is none and some
member has no role yet. -/
def MayBeFlagged (net : NetworkInfo) : Prop :=
  OneOwner net ∨ (∀ id, net.role id ≠ some .owner) ∧ ∃ id ∈ net.members, net.role id = none

theorem flagged {enterprise : Bool}
    (h : enterprise = true → net.members ≠ [] → MayBeFlagged net) :
    Owned (flagged net enterprise) := by
  intro hent hne
  change enterprise = true at hent
  subst hent
  change net.members ≠ [] at hne
  have hroles : (Membership.flagged net true).memberRoles =
      some (net.members.foldl backfillRole (net.memberRoles.getD ∅,
        (net.memberRoles.getD ∅).any fun _ r => decide (r = .owner))).1 := by
    show rolesForEnterprise true net = _
    unfold rolesForEnterprise
    rw [if_pos rfl, if_neg (by simpa using hne)]
  have hrole : ∀ id, (Membership.flagged net true).role id =
      (net.members.foldl backfillRole (net.memberRoles.getD ∅,
        (net.memberRoles.getD ∅).any fun _ r => decide (r = .owner))).1.get id := by
    intro id
    unfold NetworkInfo.role
    rw [hroles, Option.getD_some]
  rcases h rfl hne with hone | ⟨hnone, id, hid, hidrole⟩
  · -- The owner is found, so the others become plain members.
    have hany : ((net.memberRoles.getD ∅).any fun _ r =>
        decide (r = .owner)) = true := by
      obtain ⟨o, ⟨-, ho⟩, -⟩ := hone
      exact (GoMap.any_eq_true _ _).mpr ⟨o, .owner, ho, by simp⟩
    refine oneOwner_of_iff hone fun j => ?_
    rw [hrole, hany, backfill_get]
    show (j ∈ net.members ∧ _) ↔ (j ∈ net.members ∧ (net.memberRoles.getD ∅).get j = _)
    split
    · next hj => simp [hj.1]
    · exact Iff.rfl
  · have hany : ((net.memberRoles.getD ∅).any fun _ r =>
        decide (r = .owner)) = false := by
      rw [← Bool.not_eq_true, GoMap.any_eq_true]
      rintro ⟨j, r, hj, hr⟩
      exact hnone j (by rw [← of_decide_eq_true hr]; exact hj)
    obtain ⟨first, hfirst, hfirstnone, rest, hrest⟩ := backfill_first hid hidrole
    refine ⟨first, ⟨hfirst, ?_⟩, ?_⟩
    · rw [hrole, hany, hrest, backfill_get]
      simp
    · rintro j ⟨-, howner⟩
      by_contra hj
      rw [hrole, hany, hrest, backfill_get, GoMap.get_set_ne _ _ hj] at howner
      split at howner
      · cases howner
      · exact hnone j howner

/-! ## A synchronisation -/

/-- The last role the moves assign to the node. -/
def lastRole (id : NodeId) : List Move → Option Role
  | [] => none
  | .assign j _ role :: ms =>
    (lastRole id ms).or (if j = id then some role else none)
  | _ :: ms => lastRole id ms

/-- What a synchronisation asks for leaves one owner: no member is listed
twice, and of the members it drops none of, one has the owner role as the
last role assigned or, without one, as the role it had. -/
def KeepsOneOwner (netID : NetId) (net : NetworkInfo) (asked : List Move) : Prop :=
  net.members.Nodup ∧ ((∃ id ∈ net.members, .drop id netID ∉ asked) →
      ∃! id, (id ∈ net.members ∧ .drop id netID ∉ asked) ∧
        (lastRole id asked).or (net.role id) = some .owner)

theorem mem_sync (hms : ∀ m ∈ ms, Syncs netID m) (hnodup : net.members.Nodup) (id : NodeId) :
    id ∈ (ms.foldl amend net).members ↔ id ∈ net.members ∧ .drop id netID ∉ ms := by
  induction ms generalizing net with
  | nil => simp
  | cons m ms ih =>
    have hrest : ∀ m' ∈ ms, Syncs netID m' := fun m' hm' => hms m' (by simp [hm'])
    rw [List.foldl_cons]
    cases hms m (by simp) with
    | drop j =>
      have hmem : id ∈ (amend net (.drop j netID)).members ↔
          id ≠ j ∧ id ∈ net.members := hnodup.mem_erase_iff
      rw [ih hrest (hnodup.erase j), hmem]
      simp only [List.mem_cons, Move.drop.injEq, and_true, not_or]
      tauto
    | assign j role =>
      have hsame : (amend net (.assign j netID role)).members = net.members := rfl
      rw [ih hrest (hsame ▸ hnodup), hsame]
      simp

theorem role_sync (hms : ∀ m ∈ ms, Syncs netID m) (hid : .drop id netID ∉ ms) :
    (ms.foldl amend net).role id = (lastRole id ms).or (net.role id) := by
  induction ms generalizing net with
  | nil => rfl
  | cons m ms ih =>
    have hrest : ∀ m' ∈ ms, Syncs netID m' := fun m' hm' => hms m' (by simp [hm'])
    have hid' : .drop id netID ∉ ms := fun hin => hid (by simp [hin])
    rw [List.foldl_cons, ih hrest hid']
    cases hms m (by simp) with
    | drop j =>
      have hne : id ≠ j := by
        rintro rfl
        exact hid (by simp)
      show (lastRole id ms).or ((Membership.dropMember net j).role id) = _
      rw [role_dropMember, if_neg hne]
      rfl
    | assign j role =>
      show (lastRole id ms).or ((Membership.setRole net j role).role id) =
        ((lastRole id ms).or (if j = id then some role else none)).or (net.role id)
      rw [role_setRole, Option.or_assoc]
      by_cases hj : j = id
      · subst hj
        simp
      · rw [if_neg hj, if_neg (Ne.symm hj), Option.none_or]

theorem sync {asked : List Move} (hsyncs : ∀ m ∈ asked, Syncs netID m)
    (hkeeps : KeepsOneOwner netID net asked) :
    Owned (asked.foldl amend net) := by
  intro _ hne
  obtain ⟨hnodup, hone⟩ := hkeeps
  have hmem := mem_sync hsyncs hnodup
  obtain ⟨a, ha⟩ := List.exists_mem_of_ne_nil _ hne
  obtain ⟨o, ⟨ho, howner⟩, huniq⟩ := hone ⟨a, (hmem a).mp ha⟩
  refine ⟨o, ⟨(hmem o).mpr ho, by rw [role_sync hsyncs ho.2, howner]⟩, ?_⟩
  rintro j ⟨hj, hjowner⟩
  have hj' := (hmem j).mp hj
  rw [role_sync hsyncs hj'.2] at hjowner
  exact huniq j ⟨hj', hjowner⟩

end Owned

/-! ## One command -/

/-- What a command has to find so that every enterprise network keeps one
owner. -/
def OwnerOp (E : AdminEnv) (s : Server) : Op → Prop
  | .joinNetwork msg =>
    let id := msg.jsonUint32 "node_id"
    let netID := msg.jsonUint16 "network_id"
    ∀ net, s.networks.get netID = some net → net.enterprise = true →
      FitsIn net id (joinRole E.toEnv s netID id)
  | .respondInvite _ msg =>
    msg.bool "accept" = true → ∀ net, s.networks.get (msg.jsonUint16 "network_id") = some net →
        FitsIn net (msg.jsonUint32 "node_id") .member
  | .deregister msg =>
    let id := msg.jsonUint32 "node_id"
    ∀ n, s.nodes.get id = some n → ∀ netID ∈ n.networks,
      ∀ net, s.networks.get netID = some net → net.enterprise = true →
        id ∈ net.members → net.role id = some .owner → net.members.erase id = []
  | .transferOwnership _ msg =>
    ∀ net, s.networks.get (msg.jsonUint16 "network_id") = some net →
      msg.jsonUint32 "new_owner_id" ∈ net.members ∧
        ∀ id, net.role id = some .owner → id ∈ net.members
  | .setEnterprise msg =>
    msg.bool "enterprise" = true → ∀ net, s.networks.get (msg.jsonUint16 "network_id") = some net →
        net.members ≠ [] → Owned.MayBeFlagged net
  | .directorySync msg =>
    let netID := msg.jsonUint16 "network_id"
    ∀ net, s.networks.get netID = some net → Owned.KeepsOneOwner netID net (syncMoves E netID s net
        (parseDirectoryEntries ((msg.arr? "entries").getD []))
        (msg.bool "remove_unlisted"))
  | .provision _ _ msg =>
    ∀ fields bp, msg.obj? "blueprint" = some fields →
      E.parseBlueprint fields = .ok bp → bp.enterprise = true →
        ∀ netID net, s.networks.get netID = some net → net.name = bp.name →
          net.members ≠ [] → OneOwner net
  | .register .. =>
    ∀ net, s.networks.get 0 = some net → net.enterprise = true →
      net.members ≠ [] ∧ ∀ id, id ∉ net.members → net.role id ≠ some .owner
  | .reap threshold chunk =>
    ∀ net, s.networks.get 0 = some net → net.enterprise = true →
      ∀ id ∈ chunk, Stale s threshold id → net.role id ≠ some .owner
  | _ => True

/-- The command is refused, or it meets its condition. -/
def KeepsOwners (E : AdminEnv) (s : Server) (op : Op) : Prop :=
  step E s op ≠ s → OwnerOp E s op

theorem owned_moved {s : Server} {op : Op} (hmoved : Moved E s op ms) (hs : s.networks.All Owned)
    (hop : OwnerOp E s op) : (Move.applyAll (roll s) ms).networks.All Owned := by
  have hroll : (roll s).networks.All Owned := hs
  cases hmoved with
  | none => exact hroll
  | registered now order remoteAddr msg id nets horder harrives =>
    refine hroll.modify_at fun net hnet howned => howned.attend fun hent => ?_
    exact ⟨(hop net hnet hent).1, (hop net hnet hent).2 id⟩
  | reaped threshold chunk ids hids =>
    refine all_vanish
      (C := fun id net => net.enterprise = true → net.role id ≠ some .owner)
      (fun id net hc howned => howned.unattend hc)
      (fun id j net hc => hc) hroll fun id hid net hnet hent => ?_
    exact hop net hnet hent id (hids id hid).1 (hids id hid).2
  | deregistered msg n hnode =>
    have hlist : (roll s).lists.get (msg.jsonUint32 "node_id") = some n.networks := by
      rw [roll_lists_get, hnode]
      rfl
    simp only [Move.applyAll_cons, Move.applyAll_nil, Move.apply, hlist, Option.getD_some]
    refine all_depart (fun net hc howned => howned.dropMember hc)
      (fun net hc hent hmem howner => ?_) hroll (hop n hnode)
    rw [role_dropMember, if_pos rfl] at howner
    cases howner
  | created now msg rules exprPolicy n hnode hfree =>
    exact hroll.set _ (Owned.newNetwork msg _ rules exprPolicy now)
  | deleted msg hzero => exact hroll.del _
  | joined msg node net hzero hnode hnet hnew =>
    exact hroll.modify_at fun net hnet howned => howned.joinedAs (hop net hnet)
  | left msg net hzero hnet howner =>
    exact hroll.modify_get hnet fun howned =>
      howned.dropMember fun hent _ hrole => absurd hrole (howner hent)
  | kicked msg net hzero hnet howner | adminKicked netID id net hnet howner =>
    exact hroll.modify_get hnet fun howned =>
      howned.dropMember fun _ _ hrole => absurd hrole howner
  | accepted now msg node net haccept hnode hnet hent hnew =>
    exact hroll.modify_at fun net hnet howned =>
      howned.joinedAs fun _ => hop haccept net hnet
  | tagged msg net hnet hmember =>
    exact hroll.modify _ fun net howned => howned.of_same rfl rfl rfl
  | promoted msg net current hnet hrole howner | demoted msg net current hnet hrole howner =>
    exact hroll.modify_get hnet fun howned =>
      howned.setRole (by rw [hrole]; simpa using howner) (by decide)
  | transferred order msg net currentOwner role hnet hcurrent hne hrole =>
    obtain ⟨hnew, hmembers⟩ := hop net hnet
    -- The two assignments together keep the network owned.
    have hsyncs : ∀ m ∈ [Move.assign currentOwner
        (msg.jsonUint16 "network_id") .admin,
        .assign (msg.jsonUint32 "new_owner_id")
          (msg.jsonUint16 "network_id") .owner],
        Syncs (msg.jsonUint16 "network_id") m := by
      intro m hm
      simp only [List.mem_cons, List.not_mem_nil, or_false] at hm
      rcases hm with rfl | rfl
      · exact .assign _ _
      · exact .assign _ _
    rw [applyAll_networks hsyncs]
    exact hroll.modify_get hnet fun howned => howned.transferred hcurrent hmembers hnew
  | roleSet netID id text net role hnet howner hmember hrole =>
    exact hroll.modify_get hnet fun howned => howned.setRole howner hrole
  | enterpriseSet msg net hnet =>
    exact hroll.modify_at fun net' hnet' _ =>
      Owned.flagged fun hent => hop hent net' hnet'
  | synced msg net _ hzero hnet hent hdone hall =>
    have hsyncs : ∀ m ∈ ms, Syncs (msg.jsonUint16 "network_id") m :=
      fun m hm => syncMoves_syncs (hdone.subset hm)
    rw [applyAll_networks hsyncs]
    refine hroll.modify_get hnet fun howned => ?_
    have hkeeps := hop net hnet
    rcases hall with heq | ⟨hnil, -⟩
    · exact Owned.sync hsyncs (heq ▸ hkeeps)
    · -- A nil role map has no owner, so there is no member to lose one.
      intro _ hne
      obtain ⟨a, ha⟩ := List.exists_mem_of_ne_nil _ hne
      have hin := ((Owned.mem_sync hsyncs hkeeps.1 a).mp ha).1
      obtain ⟨o, ⟨-, howner⟩, -⟩ := howned hent (List.ne_nil_of_mem hin)
      unfold NetworkInfo.role at howner
      rw [hnil] at howner
      exact absurd ((GoMap.get_empty o).symm.trans howner) (by simp)
  | provisionedOld now order msg bp netID net hbp hnet hname =>
    obtain ⟨fields, hfields, hparse⟩ := hbp
    exact hroll.modify_get hnet fun howned => howned.applyToNetwork fun hent =>
      hop fields bp hfields hparse hent netID net hnet hname
  | provisionedNew now order msg bp hbp hnew =>
    exact (hroll.set s.nextNet (v := blueprintNetwork bp now)
      fun _ hne => absurd rfl hne).modify_get
      (GoMap.get_set_self _ _ _) fun howned => howned.applyToNetwork fun _ hne => absurd rfl hne

theorem owned_step {s : Server} {op : Op} (hop : KeepsOwners E s op) (hs : s.networks.All Owned) :
    (step E s op).networks.All Owned :=
  roll_step (P := fun r => r.networks.All Owned)
    (fun _ hmoved => owned_moved hmoved hs) hop hs

/-! ## Whole runs -/

theorem owned_freshServer (now : Time) : (freshServer now).networks.All Owned := by
  refine GoMap.All.set (fun netID net hnet => ?_) 0 ?_
  · rw [GoMap.get_empty] at hnet
    cases hnet
  · exact fun hent => by cases hent

/-- In every run whose commands meet their conditions, every enterprise
network with a member has exactly one member with the owner role. -/
theorem owned_runs (E : AdminEnv) (now : Time) (ops : List Op)
    (hkeeps : Meets (step E) (KeepsOwners E) (freshServer now) ops)
    (before : List Op) (hbefore : before <+: ops) (netID : NetId)
    (net : NetworkInfo)
    (hnet : (run (step E) (freshServer now) before).networks.get netID = some net)
    (hent : net.enterprise = true) (hmembers : net.members ≠ []) :
    ∃! id, id ∈ net.members ∧ net.role id = some .owner :=
  (hkeeps.initial _ hbefore).invariant _ (fun _ _ => owned_step)
    (owned_freshServer now) netID net hnet hent hmembers

/-! ## A network without an owner -/

/-- Two nodes register; the first creates an enterprise network and the
second joins it. -/
def enterpriseRun : List Op :=
  [.register 0 [0] "" [("public_key", .str "AAAA")],
    .register 0 [0] "" [("public_key", .str "BBBB")],
    .createNetwork 0 (operatorMsg [("node_id", .num 1), ("name", .str "lab"),
      ("enterprise", .bool true)]),
    .joinNetwork (operatorMsg [("node_id", .num 2), ("network_id", .num 1)])]

/-- The owner deregisters, and the network goes on without one. -/
theorem owner_deregisters : ¬ ∀ (E : AdminEnv) (now : Time) (ops : List Op) (netID : NetId)
      (net : NetworkInfo),
      (run (step E) (freshServer now) ops).networks.get netID = some net →
      net.enterprise = true → net.members ≠ [] →
      ∃! id, id ∈ net.members ∧ net.role id = some .owner := by
  intro h
  let ops := enterpriseRun ++ [.deregister (operatorMsg [("node_id", .num 1)])]
  have hleft : ((run (step .plain) (freshServer 0) ops).networks.get 1).any
      (fun net => net.enterprise && decide (net.members = [2]) &&
        decide (net.role 2 = some .member)) = true := by decide
  obtain ⟨net, hnet, hrecord⟩ := (Option.any_eq_true _ _).mp hleft
  rw [Bool.and_eq_true, Bool.and_eq_true, decide_eq_true_eq, decide_eq_true_eq] at hrecord
  obtain ⟨⟨hent, hmembers⟩, hrole⟩ := hrecord
  obtain ⟨o, ⟨ho, howner⟩, -⟩ := h .plain 0 ops 1 net hnet hent (by simp [hmembers])
  rw [hmembers, List.mem_singleton] at ho
  rw [ho, hrole] at howner
  cases howner

theorem enterpriseRun_keeps :
    Meets (step .plain) (KeepsOwners .plain) (freshServer 0) enterpriseRun := by
  have hplain : ∀ {s : Server},
      ((s.networks.get 0).all fun net => decide (net.enterprise = false)) = true →
      ∀ net, s.networks.get 0 = some net → net.enterprise = true →
        net.members ≠ [] ∧ ∀ id, id ∉ net.members → net.role id ≠ some .owner := by
    intro s hs net hnet hent
    rw [of_all hs hnet] at hent
    cases hent
  refine ⟨fun _ => hplain (by decide), fun _ => hplain (by decide),
    fun _ => trivial, fun _ net hnet _ => ?_, trivial⟩
  exact of_all (P := fun net => FitsIn net 2 (joinRole Env.plain
    (run (step .plain) (freshServer 0) (enterpriseRun.take 3)) 1 2))
    (by decide) hnet

theorem owned_runs_joined :
    ∃ net, (run (step .plain) (freshServer 0) enterpriseRun).networks.get 1 =
        some net ∧ net.members = [1, 2] ∧
      ∃! id, id ∈ net.members ∧ net.role id = some .owner := by
  have hrun : ((run (step .plain) (freshServer 0) enterpriseRun).networks.get 1).any
      (fun net => net.enterprise && decide (net.members = [1, 2])) = true := by decide
  obtain ⟨net, hnet, hrecord⟩ := (Option.any_eq_true _ _).mp hrun
  rw [Bool.and_eq_true, decide_eq_true_eq] at hrecord
  exact ⟨net, hnet, hrecord.2, owned_runs .plain 0 enterpriseRun enterpriseRun_keeps
    _ List.prefix_rfl 1 net hnet hrecord.1 (by simp [hrecord.2])⟩

end Rendezvous.Roster

import Rendezvous.Admission.Runs

/-!
# The role a new member gets

A network keeps roles for nodes it does not know yet, by the identity they
have outside. There are three ways in for a node: it joins, it accepts an
invite, or a replay applies the delta that one of these recorded. A join
gives the kept role. The other two make plain members, so they give it only
if it is that of a plain member.
-/

namespace Rendezvous.Admission

open Base Registry Rendezvous.Membership Directory Admin Wal Persist Roster
open Identity (freshServer)

/-! ## Kept roles -/

/-- The role of the first pre-assignment of the network that matches the
node's external identity. A node without one matches nothing. -/
def KeptFor (E : Env) (s : Server) (netID : NetId) (id : NodeId) (role : Role) : Prop :=
  ∃ node roles before first after, s.nodes.get id = some node ∧ node.externalID ≠ "" ∧
    s.rbacPreAssign.get netID = some roles ∧ roles = before ++ first :: after ∧
    (∀ r ∈ before, E.equalFold r.externalID node.externalID = false) ∧
    E.equalFold first.externalID node.externalID = true ∧ role = blueprintRole first.role

/-- The role of the node in the network. -/
def roleIn (s : Server) (netID : NetId) (id : NodeId) : Option Role :=
  (s.networks.get netID).bind fun net => net.role id

/-- After the node came in, it has the role that was kept for it before, or
that of a plain member if none was. -/
def GetsKept (E : Env) (s s' : Server) (netID : NetId) (id : NodeId) : Prop :=
  (∀ role, KeptFor E s netID id role → roleIn s' netID id = some role) ∧
    ((∀ role, ¬ KeptFor E s netID id role) → roleIn s' netID id = some .member)

theorem keptFor_iff {E : Env} {s : Server} {netID : NetId} {id : NodeId} {role : Role} :
    KeptFor E s netID id role ↔ preAssignedRole E s netID id = some role := by
  unfold preAssignedRole KeptFor
  cases hroles : s.rbacPreAssign.get netID with
  | none => simp
  | some roles =>
    cases hnode : s.nodes.get id with
    | none => simp
    | some node =>
      by_cases hext : node.externalID = ""
      · simp [hext]
      · simp only [Option.some.injEq, Option.bind_eq_bind, Option.bind_some, if_neg hext,
          Option.bind_eq_some_iff, List.find?_eq_some_iff_append]
        constructor
        · rintro ⟨_, _, before, first, after, rfl, -, rfl, rfl, hbefore, hfirst, rfl⟩
          exact ⟨first, ⟨hfirst, before, after, rfl, by simpa using hbefore⟩, rfl⟩
        · rintro ⟨first, ⟨hfirst, before, after, rfl, hbefore⟩, hrole⟩
          exact ⟨node, _, before, first, after, rfl, hext, rfl, rfl, by simpa using hbefore,
            hfirst, (Option.some.inj hrole).symm⟩

/-- There is one role the node has to get. -/
theorem getsKept_iff {E : Env} {s s' : Server} {netID : NetId} {id : NodeId} :
    GetsKept E s s' netID id ↔ roleIn s' netID id = some (joinRole E s netID id) := by
  unfold GetsKept joinRole
  simp only [keptFor_iff]
  cases preAssignedRole E s netID id with
  | none => simp
  | some role => simp

/-! ## Ways in -/

/-- How a node comes in: a request to join, an answer to an invite, or a
replay of what one of them recorded. -/
inductive Way where
  | join
  | accept
  | replay
  deriving DecidableEq

/-- The request the node comes in by while the registry runs. -/
inductive Asks : Op → NodeId → NetId → Prop where
  | join (msg : Msg) :
      Asks (.joinNetwork msg) (msg.jsonUint32 "node_id") (msg.jsonUint16 "network_id")
  | accept (now : Time) (msg : Msg) :
      Asks (.respondInvite now msg) (msg.jsonUint32 "node_id") (msg.jsonUint16 "network_id")

/-- The node comes into the network, from one state to the next. A replay
applies a delta that a request of the node recorded, in whatever state it
was handled. -/
inductive Entrance (E : AdminEnv) (s : Server) : Way → NodeId → NetId → Server → Prop where
  | joined (msg : Msg) (o : Outcome) (h : handleJoinNetwork E.toEnv s msg = .ok o) :
      Entrance E s .join (msg.jsonUint32 "node_id") (msg.jsonUint16 "network_id") o.server
  | accepted (now : Time) (msg : Msg) (o : Outcome) (haccept : msg.bool "accept" = true)
      (h : handleRespondInvite E.toEnv now s msg = .ok o) :
      Entrance E s .accept (msg.jsonUint32 "node_id") (msg.jsonUint16 "network_id") o.server
  | replayed (now : Time) (live : Server) (op : Op) (id : NodeId) (netID : NetId) (d : Delta)
      (hasks : Asks op id netID) (hd : d ∈ (handle E live op).2)
      (hnew : isMember s id netID = false) (hin : isMember (applyOr now s d) id netID = true) :
      Entrance E s .replay id netID (applyOr now s d)

variable {E : AdminEnv} {s s' : Server} {id : NodeId} {netID : NetId}

/-- An answer records nothing, and a join a delta that makes a plain
member. -/
theorem roleIn_replayed {now : Time} {live : Server} {op : Op} {d : Delta}
    (hasks : Asks op id netID) (hd : d ∈ (handle E live op).2)
    (hnew : isMember s id netID = false) (hin : isMember (applyOr now s d) id netID = true) :
    roleIn (applyOr now s d) netID id = some .member := by
  have hdelta : d = .networkJoin id netID := by
    cases hasks with
    | join msg =>
      refine answered_records (P := fun x => x = .networkJoin _ _) (fun o ho => ?_) d hd
      obtain ⟨_, _, -, -, -, -, -, hwal⟩ := handleJoinNetwork_ok ho
      exact wal_one hwal rfl
    | accept now msg =>
      refine answered_records (P := fun x => x = .networkJoin _ _) (fun o ho => ?_) d hd
      exact wal_nil (handleRespondInvite_ok ho).1
  subst hdelta
  have hroll : roll (applyOr now s (.networkJoin id netID)) = _ := roll_joinDelta id netID
  have hnets : (applyOr now s (.networkJoin id netID)).networks =
      (roll (applyOr now s (.networkJoin id netID))).networks := rfl
  split at hroll
  · rw [hroll] at hnets
    obtain ⟨net', hnet', hmem⟩ := isMember_iff.mp hin
    unfold roleIn
    rw [hnets, GoMap.get_modify_self] at hnet' ⊢
    change (s.networks.get netID).map (enroll id) = some net' at hnet'
    obtain ⟨net, hnet, rfl⟩ := Option.map_eq_some_iff.mp hnet'
    have hout : id ∉ net.members := by
      intro hold
      rw [isMember_iff.mpr ⟨net, hnet, hold⟩] at hnew
      cases hnew
    change ((s.networks.get netID).map (enroll id)).bind _ = _
    rw [hnet]
    simp [enroll, hout]
  · -- Without the network or the node the delta does nothing.
    rw [hroll] at hnets
    unfold isMember at hin hnew
    rw [hnets] at hin
    change ((s.networks.get netID).any fun net => net.members.contains id) = true at hin
    rw [hin] at hnew
    cases hnew

/-- The role a node has after it came in. -/
theorem roleIn_entrance {way : Way} (h : Entrance E s way id netID s') : roleIn s' netID id =
      some (if way = .join then joinRole E.toEnv s netID id else .member) := by
  cases h with
  | joined msg o ho =>
    obtain ⟨node, net, -, -, -, -, hserver, -⟩ := handleJoinNetwork_ok ho
    rw [hserver]
    unfold roleIn appendNodeNetwork putNetwork
    simp
  | accepted now msg o haccept ho =>
    obtain ⟨-, s₁, inbox, hserver, hcase⟩ := handleRespondInvite_ok ho
    rcases hcase with ⟨hdecline, -⟩ | ⟨-, node, net, -, -, -, -, rfl⟩
    · rw [haccept] at hdecline
      cases hdecline
    · rw [hserver]
      unfold roleIn appendNodeNetwork putNetwork
      simp
  | replayed now live op _ _ d hasks hd hnew hin => exact roleIn_replayed hasks hd hnew hin

/-- A node that comes in gets the role that was kept for it exactly if it
joins, or none was kept but that of a plain member. -/
theorem kept_role_iff (E : AdminEnv) (s s' : Server) (way : Way) (id : NodeId) (netID : NetId)
    (h : Entrance E s way id netID s') :
    GetsKept E.toEnv s s' netID id ↔
      way = .join ∨ ∀ role, KeptFor E.toEnv s netID id role → role = .member := by
  have hmember : joinRole E.toEnv s netID id = .member ↔
      ∀ role, KeptFor E.toEnv s netID id role → role = .member := by
    unfold joinRole
    simp only [keptFor_iff]
    cases preAssignedRole E.toEnv s netID id with
    | none => simp
    | some role => simp
  rw [getsKept_iff, roleIn_entrance h, ← hmember, Option.some.injEq]
  split
  · next hjoin => simp [hjoin]
  · next hother =>
    rw [eq_comm]
    exact ⟨Or.inr, fun h => h.resolve_left hother⟩

/-! ## A role that is lost -/

/-- The club by the rule, with the role of an admin kept for the second node. -/
def staffed (joinRule : String) : Server :=
  let s := (run (advance clubEnv) (Disk.fresh 0) (founded joinRule "")).live
  { s with
    rbacPreAssign := s.rbacPreAssign.set 1 [⟨"ann", "admin"⟩]
    nodes := s.nodes.modify 2 fun n => { n with externalID := "ann" } }

/-- The second node accepts an invite and is a plain member. It joins, and is
a plain member after the process starts again from its file and its log. -/
theorem kept_role_lost :
    (let invited := (advance clubEnv { live := staffed "invite" } invitation).live
     ∃ s', Entrance clubEnv invited .accept 2 1 s' ∧ ¬ GetsKept clubEnv.toEnv invited s' 1 2) ∧
    let d := run (advance clubEnv) { live := staffed "open", file := some (save (staffed "open")) }
      [plainJoin, .disk (.start 3 [1, 2])]
    isMember d.live 2 1 = true ∧ KeptFor clubEnv.toEnv d.live 1 2 .admin ∧
      roleIn d.live 1 2 = some .member := by
  refine ⟨?_, by decide, keptFor_iff.mpr (by decide), by decide⟩
  intro invited
  obtain ⟨o, ho⟩ : ∃ o, handleRespondInvite clubEnv.toEnv 2 invited
      [("network_id", .num 1), ("node_id", .num 2), ("accept", .bool true),
        ("signature", .str "BBBB")] = .ok o := exists_of_isOk (by decide)
  have hentrance : Entrance clubEnv invited .accept 2 1 o.server := .accepted _ _ o (by decide) ho
  refine ⟨o.server, hentrance, fun hkept => ?_⟩
  rw [getsKept_iff, roleIn_entrance hentrance] at hkept
  revert hkept
  decide

theorem kept_role_iff_join : ∃ s', Entrance clubEnv (staffed "open") .join 2 1 s' ∧
      KeptFor clubEnv.toEnv (staffed "open") 1 2 .admin ∧
      GetsKept clubEnv.toEnv (staffed "open") s' 1 2 := by
  obtain ⟨o, ho⟩ : ∃ o, handleJoinNetwork clubEnv.toEnv (staffed "open")
      [("network_id", .num 1), ("node_id", .num 2), ("signature", .str "BBBB")] = .ok o :=
    exists_of_isOk (by decide)
  have hentrance : Entrance clubEnv (staffed "open") .join 2 1 o.server := .joined _ o ho
  exact ⟨o.server, hentrance, keptFor_iff.mpr (by decide),
    (kept_role_iff _ _ _ _ _ _ hentrance).mpr (Or.inl rfl)⟩

end Rendezvous.Admission

import Rendezvous.Base.SingleFlight
import Rendezvous.Disclosure.Handlers
import Rendezvous.Roster.Op

/-!
# The listings that are kept

The listing of a network is kept in a cell that a membership operation
drops, so whoever asks after the operation has returned gets a listing of a
state at or after it (`network_listing_current_runs`). A directory sync drops
no cell, and its network is listed as it was (`synced_listing_old`).

The listing of the backbone is kept in one cell, and an invalidation only
resets the time it was built at. A caller that has read the nodes before the
change stores them after it, as a listing that was built just now
(`backbone_listing_old`). Without such a caller the listing is current
(`backbone_listing_current_runs`).

The loop that reads the records is one step here. It holds the read lock of
the registry, so no record comes or goes during it; a field that is changed
under the lock of its shard alone may be listed as it was for one record and
as it is for the next. The listing is then that of a state in which both are
as they were read, and that state need not have been there.
-/

namespace Rendezvous.Disclosure

open Base Base.SingleFlight Registry Roster

/-- What `PerNetworkListNodesCached` keeps. -/
def networkSource (E : DirectoryEnv) : Source Server NetId Resp where
  build s netID := (s.networks.get netID).map fun net =>
    wrapListNodesBody (memberEntries E s netID net)
  ttl := adminListNodesTTL
  keeps _ := false

/-- What `AdminListNodesCached` keeps. `order` is the order the source meets
the records in. -/
def backboneSource (E : DirectoryEnv) (order : Server → List NodeId) : Source Server Unit Resp where
  build s _ := some (wrapListNodesBody
    ((order s).filterMap fun nid => (s.nodes.get nid).map (backboneEntry E nid)))
  ttl := adminListNodesTTL
  keeps _ := true

/-! ## The listing of a network -/

/-- The networks whose cell an operation drops before it returns. -/
def dropped (s : Server) : Op → List NetId
  | .deregister msg => ((s.nodes.get (msg.jsonUint32 "node_id")).map (·.networks)).getD []
  | .createNetwork _ _ => [s.nextNet]
  | .deleteNetwork msg | .joinNetwork msg | .leaveNetwork msg | .kickMember msg
  | .respondInvite _ msg | .setMemberTags msg | .promoteMember msg | .demoteMember msg
  | .transferOwnership _ msg => [msg.jsonUint16 "network_id"]
  | .adminKick netID _ | .adminSetRole netID _ _ => [netID]
  | _ => []

/-- The operations that drop the cells of the networks they change. -/
def dropsCells : Op → Bool
  | .register .. | .reap .. | .setEnterprise _ | .directorySync _ | .provision .. => false
  | _ => true

theorem get_foldl_modify_of_not_mem {ks : List NetId} {t : NetId} (ht : t ∉ ks)
    (f : NetworkInfo → NetworkInfo) (m : GoMap NetId NetworkInfo) :
    (ks.foldl (fun m k => m.modify k f) m).get t = m.get t := by
  induction ks generalizing m with
  | nil => rfl
  | cons k ks ih =>
    rw [List.foldl_cons, ih (List.not_mem_of_not_mem_cons ht),
      GoMap.get_modify_ne _ _ (List.ne_of_not_mem_cons ht)]

/-- Such an operation leaves every other network as it was. -/
theorem step_networks_get (E : Admin.AdminEnv) (s : Server) {op : Op} (hop : dropsCells op = true)
    {t : NetId} (ht : t ∉ dropped s op) :
    (Roster.step E s op).networks.get t = s.networks.get t := by
  obtain ⟨ms, hmoved, hroll⟩ := step_moves E s op
  have hnets : (Roster.step E s op).networks = (Move.applyAll (roll s) ms).networks :=
    congrArg Roll.networks hroll
  rw [hnets]
  cases hmoved with
  | none => rfl
  | deregistered msg n hnode =>
    refine get_foldl_modify_of_not_mem ?_ _ _
    simpa only [dropped, roll_lists_get] using ht
  | created => exact GoMap.get_set_ne _ _ (List.ne_of_not_mem_cons ht)
  | deleted => exact GoMap.get_del_ne _ (List.ne_of_not_mem_cons ht)
  | registered | reaped | enterpriseSet | synced | provisionedOld | provisionedNew => cases hop
  | transferred =>
    have hne := List.ne_of_not_mem_cons ht
    exact (GoMap.get_modify_ne _ _ hne).trans (GoMap.get_modify_ne _ _ hne)
  | _ => exact GoMap.get_modify_ne _ _ (List.ne_of_not_mem_cons ht)

theorem network_orderly (E : DirectoryEnv) (c : Cache Server NetId Resp)
    (es : List (Event Server NetId)) :
    Meets (step (networkSource E)) (Orderly (networkSource E)) c es :=
  (meets_iff _ _ _ _).mpr fun _ e _ _ => by
    cases e with
    | invalidate k => exact fun hkeeps => nomatch hkeeps
    | _ => trivial

/-- The listings of the networks after the events. -/
def listings (E : DirectoryEnv) (s : Server) (es : List (Event Server NetId)) :
    Cache Server NetId Resp := run (step (networkSource E)) { live := s } es

/-- An operation, as an event after others. -/
def performs (E : DirectoryEnv) (s : Server) (xs : List (Event Server NetId)) (op : Op) :
    Event Server NetId := .change (Roster.step E.toAdminEnv (listings E s xs).live op)

/-- Every caller gets the listing of its network in a state not older than
the number the call has. A call that comes after an operation has changed its
network and returned has the number of the state the operation left, or a
later one, if the operation is one that drops cells. -/
theorem network_listing_current_runs (E : DirectoryEnv) (s : Server)
    (es : List (Event Server NetId)) :
    Meets (step (networkSource E)) (Current (networkSource E)) { live := s } es ∧
    ∀ xs op ys t, xs ++ performs E s xs op :: ys <+: es → dropsCells op = true →
      (listings E s (xs ++ [performs E s xs op])).live.networks.get t ≠
        (listings E s xs).live.networks.get t →
      (∀ netID ∈ dropped (listings E s xs).live op, .invalidate netID ∈ ys) →
      (listings E s (xs ++ [performs E s xs op])).past.length ≤
        (listings E s (xs ++ performs E s xs op :: ys)).since t := by
  refine ⟨Meets.current s (network_orderly E _ _), fun xs op ys t _ hop hchanged hdropped => ?_⟩
  have ht : t ∈ dropped (listings E s xs).live op := by
    by_contra ht
    refine hchanged ?_
    rw [listings, run_append]
    exact step_networks_get _ _ hop ht
  have hsince : (listings E s (xs ++ [performs E s xs op])).past.length ≤ _ :=
    Meets.since s (network_orderly E _ _) (hdropped t ht)
  rwa [List.append_assoc] at hsince

/-! ## The listing of the backbone -/

/-- Every caller gets the nodes of a state not older than the number the call
has, which is at least the number of the state at the last invalidation, if
no caller that has read an older state has yet to store it then. -/
theorem backbone_listing_current_runs (E : DirectoryEnv) (order : Server → List NodeId)
    (s : Server) (es : List (Event Server Unit))
    (horderly : Meets (step (backboneSource E order)) (Orderly (backboneSource E order))
      { live := s } es) :
    Meets (step (backboneSource E order)) (Current (backboneSource E order)) { live := s } es ∧
    ∀ xs ys, xs ++ .invalidate () :: ys <+: es →
      (run (step (backboneSource E order)) { live := s } xs).past.length ≤
        (run (step (backboneSource E order)) { live := s } (xs ++ .invalidate () :: ys)).since () :=
  ⟨Meets.current s horderly,
    fun _ _ hpre => Meets.since s (horderly.initial _ hpre) List.mem_cons_self⟩

/-! ## Two stale listings -/

/-- An enterprise network with the nodes 1 and 2. -/
def office : Server where
  nodes := .ofList [(1, { publicKey := [], networks := [1], externalID := "ann" }),
    (2, { publicKey := [], networks := [1] })]
  networks := .ofList [(1, { name := "office", joinRule := "open", members := [1, 2]
                             enterprise := true, memberRoles := some ∅ })]

/-- A listing that nobody else asks for. -/
def lists {K : Type} (k : K) : List (Event Server K) :=
  [.call k, .enter 0 0, .read 0, .store 0 0]

/-- How many nodes a listing has. -/
def listed (resp : Resp) : Nat := ((Msg.arr? resp "nodes").getD []).length

/-- Node 2 is kicked, and the listing is asked for. -/
theorem network_listing_current_runs_kicked :
    let E := DirectoryEnv.plain false
    let kick := performs E office (lists 1) (.adminKick 1 2)
    let es := lists 1 ++ kick :: [.invalidate 1] ++ lists 1
    Meets (step (networkSource E)) (Current (networkSource E)) { live := office } es ∧
      1 ≤ (listings E office (lists 1 ++ kick :: [.invalidate 1])).since 1 := by
  intro E kick es
  obtain ⟨hcurrent, hsince⟩ := network_listing_current_runs E office es
  refine ⟨hcurrent, hsince (lists 1) (.adminKick 1 2) [.invalidate 1] 1 ⟨lists 1, rfl⟩ rfl ?_ ?_⟩
  · intro hsame
    exact absurd (congrArg (Option.map (·.members.length)) hsame) (by decide +kernel)
  · intro netID hnet
    exact List.mem_singleton.mp hnet ▸ List.mem_cons_self

/-- Node 1 is disabled in the directory. After the sync has returned, its
network is listed with both nodes. -/
theorem synced_listing_old :
    let E := DirectoryEnv.plain false
    let sync := performs E office (lists 1) (.directorySync [("network_id", .num 1),
      ("entries", .arr [.obj [("external_id", .str "ann"), ("disabled", .bool true)]]),
      ("admin_token", .str E.adminToken)])
    let c := listings E office (lists 1 ++ [sync, .call 1])
    (((networkSource E).build c.live 1).map listed = some 1) ∧
      (c.calls[0]?.bind fun x => (c.gives (networkSource E) x (.enter 0 0) x.phase).map
        fun p => listed p.2) = some 2 := by
  decide +kernel

/-- Node 3 registers while the nodes are being listed. After the
invalidation has returned, the backbone is listed without it. -/
theorem backbone_listing_old :
    let E := DirectoryEnv.plain false
    let src := backboneSource E fun _ => [1, 2, 3]
    let c := run (step src) { live := office } [.call (), .enter 0 0, .read 0,
      .change { office with nodes := office.nodes.set 3 { publicKey := [], networks := [0] } },
      .invalidate (), .store 0 0, .call ()]
    ((src.build c.live ()).map listed = some 3) ∧
      (c.calls[0]?.bind fun x => (c.gives src x (.enter 0 0) x.phase).map
        fun p => listed p.2) = some 2 := by
  decide +kernel

/-- The nodes are listed before and after a change. -/
theorem backbone_listing_current_runs_twice :
    let src := backboneSource (.plain false) fun _ => [1, 2]
    let named := { office with
      nodes := office.nodes.modify 2 fun n => { n with hostname := "bob" } }
    let es : List (Event Server Unit) := [.call (), .enter 0 0, .read 0, .store 0 0,
      .change named, .invalidate (), .call (), .enter 0 0, .read 0, .store 0 0]
    Meets (step src) (Current src) { live := office } es ∧
      1 ≤ (run (step src) { live := office } (es.take 5 ++ [.invalidate ()])).since () := by
  intro src named es
  have horderly : Meets (step src) (Orderly src) { live := office } es :=
    ⟨trivial, trivial, trivial, trivial, trivial, fun _ _ hx => (nomatch hx), trivial, trivial,
      trivial, trivial, trivial⟩
  obtain ⟨hcurrent, hsince⟩ := backbone_listing_current_runs (.plain false) _ office es horderly
  exact ⟨hcurrent, hsince (es.take 5) [] ⟨_, rfl⟩⟩

end Rendezvous.Disclosure

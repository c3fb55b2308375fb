import Rendezvous.Recovery.Records

/-!
# The log brings back what the process had

A registry saves its state, serves requests, and dies before it saves
again. If the deltas of the requests say all they did, the file and the log
give back the view the process had. A kick records no delta, so a crash
brings the kicked member back.
-/

namespace Rendezvous.Recovery

open Base Registry Rendezvous.Membership Directory Identity Wal Persist

variable {s₀ : Server} {sys : System}

/-! ## Runs -/

/-- The file is that of `s₀`, and the log says what happened to the view
since. -/
structure Mirrored (s₀ : Server) (sys : System) : Prop where
  disk : sys.disk = some (save s₀)
  formed : ∀ d ∈ sys.wal, WellFormed d
  logged : view sys.live = sys.wal.foldl View.apply (view s₀)
  numbered : Numbered (view sys.live)

theorem mirrored_savedSystem {s : Server} (h : Numbered (view s)) : Mirrored s (savedSystem s) where
  disk := rfl
  formed := fun d hd => by cases hd
  logged := rfl
  numbered := h

theorem Mirrored.records (h : Mirrored s₀ sys) {server : Server} {wal : List Delta}
    (hrec : Records (view sys.live) server wal) :
    Mirrored s₀ { sys with live := server, wal := sys.wal ++ wal } := by
  cases hrec with
  | nothing hwal hview =>
    subst hwal
    rw [List.append_nil]
    exact ⟨h.disk, h.formed, hview.trans h.logged, by rw [hview]; exact h.numbered⟩
  | delta d hwal hformed hfresh hview =>
    subst hwal
    refine ⟨h.disk, fun x hx => ?_, ?_, ?_⟩
    · rcases List.mem_append.mp hx with hx | hx
      · exact h.formed x hx
      · rw [List.mem_singleton.mp hx]
        exact hformed
    · rw [List.foldl_append, ← h.logged]
      exact hview
    · have hnumbered := h.numbered.apply hfresh
      rw [← hview] at hnumbered
      exact hnumbered

theorem Mirrored.commit (h : Mirrored s₀ sys) {result : Except String Outcome}
    (hrec : ∀ o, result = .ok o → Records (view sys.live) o.server o.wal) :
    Mirrored s₀ (sys.commit result) := by
  cases result with
  | error e => exact h
  | ok o => exact h.records (hrec o rfl)

/-- One request whose delta says all it did. -/
theorem Mirrored.serve {E : Env} (h : Mirrored s₀ sys) (req : Request)
    (hrep : Replayable E sys.live req) :
    Mirrored s₀ (Recovery.serve E sys req) := by
  cases req with
  | register now order remoteAddr msg =>
    exact h.commit fun o ho => register_records h.numbered hrep.1 hrep.2 ho
  | deregister msg => exact h.commit fun o ho => deregister_records hrep ho
  | createNetwork now msg =>
    exact h.commit fun o ho => createNetwork_records h.numbered hrep ho
  | deleteNetwork msg => exact h.commit fun o ho => deleteNetwork_records hrep ho
  | joinNetwork msg => exact h.commit fun o ho => joinNetwork_records hrep ho
  | leaveNetwork msg => exact h.commit fun o ho => leaveNetwork_records hrep ho
  | rotateKey now msg =>
    refine h.commit fun o ho => ?_
    obtain ⟨key, n, hne, hkey, hn, -, hserver, hwal⟩ := handleRotateKey_cases ho
    rw [hserver, hwal]
    let d : KeyRotationDelta := {
      nodeID := jsonUint32 msg "node_id"
      newPublicKey := msg.str "new_public_key"
      rotatedAt := some (rfc3339 now) }
    exact commitKey_records (d := d) h.numbered hn hne hkey rfl
  | recoverIdentity now msg =>
    rcases handleRecoverIdentity_cases E now sys.live msg with
      ⟨ledger, e, hres⟩ | ⟨r, n, key, ledger, resp, hcheck, hres⟩
    · simp only [Recovery.serve, hres]
      exact ⟨h.disk, h.formed, h.logged, h.numbered⟩
    · simp only [Recovery.serve, hres]
      obtain ⟨hn, hne, hkey, -⟩ := checkRecovery_ok hcheck
      let d : KeyRotationDelta := {
        nodeID := jsonUint32 msg "node_id"
        newPublicKey := msg.str "new_public_key"
        rotatedAt := some (rfc3339 now)
        clearBadge := true }
      refine h.records ?_
      exact commitKey_records (d := d)
        (s := { sys.live with consumedNonces := ledger }) h.numbered hn hne hkey
        rfl
  | _ => exact hrep.elim

/-- From a file that holds its state, and after requests whose deltas say
all they did, the file and the log give back what the process had. -/
theorem boot_recovers_view (E : Env) (now : Time) (s₀ : Server)
    (order : List NodeId) (requests : List Request)
    (hload : Reloadable s₀) (hnum : Numbered (view s₀))
    (hord : IsOrder order s₀.nodes)
    (hmeets : Meets (serve E) (fun sys => Replayable E sys.live)
      (savedSystem s₀) requests) :
    let sys := run (serve E) (savedSystem s₀) requests
    view (boot now order sys.disk sys.wal) = view sys.live := by
  intro sys
  have hmirror : Mirrored s₀ sys :=
    hmeets.invariant (serve E) (P := Mirrored s₀)
      (fun _ req hrep h => h.serve req hrep) (mirrored_savedSystem hnum)
  have hboot : boot now order sys.disk sys.wal = replay now (load order (save s₀)) sys.wal := by
    rw [hmirror.disk]
    rfl
  rw [hboot, view_replay now _ hmirror.formed, view_load_save hload hord, hmirror.logged]

/-- The request succeeds. -/
def Succeeds (E : Env) (s : Server) : Request → Prop
  | .register now order remoteAddr msg =>
    (handleRegister E now order remoteAddr s msg).isOk = true
  | .deregister msg => (handleDeregister E s msg).isOk = true
  | .createNetwork now msg => (handleCreateNetwork E now s msg).isOk = true
  | .deleteNetwork msg => (handleDeleteNetwork E s msg).isOk = true
  | .joinNetwork msg => (handleJoinNetwork E s msg).isOk = true
  | .leaveNetwork msg => (handleLeaveNetwork E s msg).isOk = true
  | .kickMember msg => (handleKickMember E s msg).isOk = true
  | .respondInvite now msg => (handleRespondInvite E now s msg).isOk = true
  | .rotateKey now msg => (handleRotateKey E now s msg).isOk = true
  | .recoverIdentity now msg => (handleRecoverIdentity E now s msg).2.isOk = true

/-- A message with the admin's token. -/
def adminMsg (rest : Msg) : Msg := ("admin_token", .str "secret") :: rest

/-- Two nodes register, the first creates a network, the second joins. -/
def sharedNetwork : List Request :=
  [.register 0 [] "" [("public_key", .str "AAAA")], .register 0 [] "" [("public_key", .str "AAAB")],
    .createNetwork 0 (adminMsg [("node_id", .node 1), ("name", .str "lab"),
      ("enterprise", .bool true)]),
    .joinNetwork (adminMsg [("node_id", .node 2), ("network_id", .net 1)])]

/-- The second is kicked out. -/
def kickSecond : Request :=
  .kickMember (adminMsg [("network_id", .net 1), ("target_node_id", .node 2)])

/-- A kicked member is back after a crash. -/
theorem kick_lost_in_crash : ¬ ∀ (E : Env) (now : Time) (s₀ : Server) (order : List NodeId)
      (requests : List Request), IsOrder order s₀.nodes →
      Meets (serve E) (fun sys => Succeeds E sys.live) (savedSystem s₀) requests →
      let sys := run (serve E) (savedSystem s₀) requests
      view (boot now order sys.disk sys.wal) = view sys.live := by
  intro h
  have hview := h .plain 0 (freshServer 0) [] (sharedNetwork ++ [kickSecond])
    (by decide) (by refine ⟨?_, ?_, ?_, ?_, ?_, trivial⟩ <;> rfl)
  have hmembers := congrArg
    (fun v => (v.networks.get 1).map NetView.members) hview
  exact absurd hmembers (by decide)

theorem freshServer_networks {now : Time} {netID : NetId} {net : NetworkInfo}
    (h : (freshServer now).networks.get netID = some net) :
    netID = 0 ∧ net = backbone now := by
  have hset : (freshServer now).networks = GoMap.set ∅ 0 (backbone now) := rfl
  rw [hset] at h
  rcases GoMap.of_get_set h with hnew | hnone
  · exact hnew
  · cases hnone

theorem reloadable_freshServer (now : Time) : Reloadable (freshServer now) where
  keys := fun id n hn => by simp [freshServer] at hn
  owners := fun owner id => by simp [freshServer]
  hostnames := fun hostname id => by simp [freshServer]
  roles := fun netID net hnet hid => absurd (freshServer_networks hnet).1 hid
  inviteInbox := rfl

theorem numbered_freshServer (now : Time) : Numbered (view (freshServer now)) where
  nodes := fun id n hn => by simp [view, freshServer] at hn
  nets := fun netID net hnet => by
    rw [view_networks_get] at hnet
    obtain ⟨net', hget, -⟩ := Option.map_eq_some_iff.mp hnet
    rw [(freshServer_networks hget).1]
    exact Or.inr (show (0 : NetId) < 1 by decide)
  listed := fun id n hn => by simp [view, freshServer] at hn

theorem boot_recovers_view_shared :
    let sys := run (serve .plain) (savedSystem (freshServer 0)) sharedNetwork
    ((view sys.live).networks.get 1).map NetView.members = some [1, 2] ∧
      view (boot 0 [] sys.disk sys.wal) = view sys.live := by
  refine ⟨by decide, boot_recovers_view .plain 0 (freshServer 0) [] sharedNetwork
    (reloadable_freshServer 0) (numbered_freshServer 0) (by decide) ?_⟩
  refine ⟨⟨rfl, fun h => absurd rfl h⟩, ⟨rfl, fun h => absurd rfl h⟩,
    ⟨trivial, trivial⟩, ⟨?_, ?_⟩, trivial⟩
  · intro role hrole
    cases hrole
  · intro net hnet
    cases hnet
    decide

end Rendezvous.Recovery

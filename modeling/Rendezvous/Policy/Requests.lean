import Rendezvous.Policy.Roles

/-!
# Role-gated commands in flight

The registry with the role-gated commands that are between two of their
sections. Between the gate of a command and its change anything may happen:
sections of other commands and of registrations, joins and departures, the
operator's commands, a flush.

A command that was let through by the role of its node commits in that role
in every run in which nothing happens while the command is in flight that
may change the role (`role_held_runs`). The gate is not repeated when the
lock is taken, so an admin who was demoted since renames the network
(`demoted_admin_renames`).
-/

namespace Rendezvous.Policy

open Base Registry Authz Rendezvous.Membership Admin Lifecycle
open Admission (roleIn)

/-! ## Requests -/

/-- A pointer to a network: to the one in the registry, or to one that left
it, as it was then. -/
inductive NetRef where
  | held
  | gone (net : NetworkInfo)

/-- The network a pointer leads to. -/
def NetRef.read (s : Server) (netID : NetId) : NetRef → Option NetworkInfo
  | .held => s.networks.get netID
  | .gone net => some net

/-- Between two states the network under an id was deleted, or the id was
given to another one. -/
def replaced (s s' : Server) (netID : NetId) : Bool :=
  !s'.networks.has netID || (netID = s.nextNet && s'.nextNet ≠ s.nextNet)

/-- A pointer after memory has changed. -/
def NetRef.follow (s s' : Server) (netID : NetId) : NetRef → NetRef
  | .held =>
    match s.networks.get netID with
    | some net => if replaced s s' netID then .gone net else .held
    | none => .held
  | .gone net => .gone net

/-- The next section of a command: the two parts of the gate that look the
network up, the read of the role, the enterprise gate, and what comes after
the gates. `byRole` tells that the role let it through, not a token, and
`p` is what a policy command has read. -/
inductive Stage where
  | token
  | find
  | role (ref : NetRef)
  | enterprise (byRole : Bool)
  | last (byRole : Bool) (p : Option PolicyWrite)

/-- The command was let through by the role of its node. -/
def Stage.byRole : Stage → Bool
  | .enterprise b => b
  | .last b _ => b
  | _ => false

/-- A command in flight. -/
structure Request where
  command : Gated
  msg : Msg
  stage : Stage

variable {i : Nat}

/-- The network the command is about. -/
def Request.netID (r : Request) : NetId := r.msg.jsonUint16 "network_id"

/-- The node the command names. -/
def Request.nodeID (r : Request) : NodeId := r.msg.jsonUint32 "node_id"

/-- The node has a role in the network that the command allows. -/
def Request.allowedIn (r : Request) (net : NetworkInfo) : Bool :=
  (net.role r.nodeID).any r.command.allowed.contains

/-- The node has such a role in the network of the registry. -/
def Request.holdsRole (s : Server) (r : Request) : Bool :=
  (s.networks.get r.netID).any r.allowedIn

/-- A request after memory has changed. -/
def Request.follow (s s' : Server) (r : Request) : Request :=
  match r.stage with
  | .role ref => { r with stage := .role (ref.follow s s' r.netID) }
  | _ => r

/-! ## The machine -/

/-- The registry with the role-gated commands in flight. -/
structure Gatehouse where
  world : World
  requests : List Request := []

/-- A registry started for the first time. -/
def Gatehouse.fresh (now : Time) : Gatehouse := { world := .fresh now }

/-- What may happen next: an event of the registry, a new command, or the
next section of the command at place `i`. -/
inductive Event where
  | world (e : World.Event)
  | ask (c : Gated) (msg : Msg)
  | go (i : Nat) (logged : Bool)

/-- The command at place `i` has returned. -/
def Gatehouse.done (g : Gatehouse) (i : Nat) : Gatehouse :=
  { g with requests := g.requests.eraseIdx i }

/-- The command at place `i` goes on. -/
def Gatehouse.put (g : Gatehouse) (i : Nat) (r : Request) (stage : Stage) : Gatehouse :=
  { g with requests := g.requests.set i { r with stage := stage } }

/-- The command passes the role gate, and its fields are checked. -/
def Gatehouse.pass (g : Gatehouse) (i : Nat) (r : Request) (byRole : Bool) : Gatehouse :=
  match r.command.checkFields r.msg with
  | .ok _ => g.put i r
      (if r.command.enterprise then .enterprise byRole else .last byRole none)
  | .error _ => g.done i

/-- The command makes its change and returns. -/
def Gatehouse.make (g : Gatehouse) (i : Nat) (logged : Bool) : Except String Outcome → Gatehouse
  | .ok o => {
      world := (g.world.become o.server).append logged o.wal
      requests := (g.requests.eraseIdx i).map (Request.follow g.world.live o.server) }
  | .error _ => g.done i

/-- The next section of a command. -/
def Gatehouse.go (E : NodeEnv) (g : Gatehouse) (i : Nat) (logged : Bool) (r : Request) :
    Gatehouse :=
  let s := g.world.live
  match r.stage with
  | .token =>
    if (requireAdminToken E.toEnv r.msg).isOk then g.pass i r false
    else
      match s.networks.get r.netID with
      | none => g.done i
      | some net =>
        if net.adminToken ≠ "" ∧ r.msg.str "admin_token" ≠ "" ∧
            r.msg.str "admin_token" = net.adminToken then g.pass i r false
        else if r.nodeID = 0 then g.done i
        else g.put i r .find
  | .find =>
    if s.networks.has r.netID then g.put i r (.role .held) else g.done i
  | .role ref => if (ref.read s r.netID).any r.allowedIn then g.pass i r true else g.done i
  | .enterprise byRole =>
    match requireEnterprise s r.netID with
    | .ok _ => g.put i r (.last byRole none)
    | .error _ => g.done i
  | .last byRole none =>
    match r.command.read E.toEnv s r.msg with
    | some (.ok p) => g.put i r (.last byRole (some p))
    | some (.error _) => g.done i
    | none => g.make i logged (r.command.commit E.toEnv s r.msg)
  | .last _ (some p) => g.make i logged (writePolicy s r.msg p)

/-- One event. The start of a process ends the commands in flight. -/
def Gatehouse.step (E : NodeEnv) (g : Gatehouse) : Event → Gatehouse
  | .world e => {
      world := g.world.step E e
      requests := if g.world.restarts e then []
        else g.requests.map (Request.follow g.world.live (g.world.step E e).live) }
  | .ask c msg =>
    match c.checkArgs msg with
    | .ok _ => { g with requests := g.requests ++ [⟨c, msg, .token⟩] }
    | .error _ => g
  | .go i logged =>
    match g.requests[i]? with
    | some r => g.go E i logged r
    | none => g

/-! ## The property -/

/-- The next section is the one that makes the command's change, and the
change is made. -/
def Request.commits (E : NodeEnv) (s : Server) (r : Request) : Bool :=
  match r.stage with
  | .last _ none => (r.command.read E.toEnv s r.msg).isNone &&
      (r.command.commit E.toEnv s r.msg).toBool
  | .last _ (some p) => (writePolicy s r.msg p).toBool
  | _ => false

/-- A command that the role of its node let through makes its change while
the node has a role that the command allows. -/
def CommitsInRole (E : NodeEnv) (g : Gatehouse) : Event → Prop
  | .go i _ => ∀ r ∈ g.requests[i]?, r.stage.byRole = true →
      r.commits E g.world.live = true → r.holdsRole g.world.live = true
  | _ => True

instance (E : NodeEnv) (g : Gatehouse) (e : Event) : Decidable (CommitsInRole E g e) := by
  cases e <;> unfold CommitsInRole <;> infer_instance

/-- The next section of a command reads a role from a network that left the
registry. -/
def Request.readsGone (r : Request) : Bool :=
  match r.stage with
  | .role (.gone _) => true
  | _ => false

/-- No role is read from a network that is gone, and while a command is in
flight that a role let through, no event happens that may change the role.
A command may change the role it came by itself. -/
def KeepsRoles (E : NodeEnv) (g : Gatehouse) : Event → Prop
  | .world e => ¬ g.world.restarts e → ∀ r ∈ g.requests, r.stage.byRole = true →
      worldChangesRole g.world r.netID r.nodeID e = false
  | .ask _ _ => True
  | .go i _ => ∀ r ∈ g.requests[i]?, r.readsGone = false ∧ (r.commits E g.world.live = true →
      ∀ r' ∈ g.requests.eraseIdx i, r'.stage.byRole = true →
        r.command.changesRole g.world.live r.msg r'.netID r'.nodeID = false)

instance (E : NodeEnv) (g : Gatehouse) (e : Event) : Decidable (KeepsRoles E g e) := by
  cases e <;> unfold KeepsRoles <;> infer_instance

/-! ## What a step does to a request -/

@[simp] theorem Request.follow_command (s s' : Server) (r : Request) :
    (r.follow s s').command = r.command := by
  unfold Request.follow
  split <;> rfl

@[simp] theorem Request.follow_msg (s s' : Server) (r : Request) : (r.follow s s').msg = r.msg := by
  unfold Request.follow
  split <;> rfl

@[simp] theorem Request.follow_byRole (s s' : Server) (r : Request) :
    (r.follow s s').stage.byRole = r.stage.byRole := by
  unfold Request.follow
  split
  · next h => rw [h]; rfl
  · rfl

/-! ## Whole runs -/

/-- Whoever has a command in flight that a role let through has such a
role. -/
def RolesHeld (g : Gatehouse) : Prop :=
  ∀ r ∈ g.requests, r.stage.byRole = true → r.holdsRole g.world.live = true

theorem holdsRole_eq (s : Server) (r : Request) :
    r.holdsRole s = (roleIn s r.netID r.nodeID).any r.command.allowed.contains := by
  unfold Request.holdsRole roleIn
  cases s.networks.get r.netID <;> rfl

section

variable {E : NodeEnv} {g : Gatehouse} {r : Request} {logged : Bool}

/-- The requests that stay in flight while memory changes. -/
theorem holdsRole_follow {l : List Request} {s s' : Server} {r : Request}
    (hl : ∀ r ∈ l, r.stage.byRole = true → r.holdsRole s = true ∧
      roleIn s' r.netID r.nodeID = roleIn s r.netID r.nodeID)
    (hr : r ∈ l.map (Request.follow s s')) (hby : r.stage.byRole = true) :
    r.holdsRole s' = true := by
  obtain ⟨r₀, hr₀, rfl⟩ := List.mem_map.mp hr
  rw [Request.follow_byRole] at hby
  obtain ⟨hholds, hsame⟩ := hl r₀ hr₀ hby
  rw [holdsRole_eq] at hholds ⊢
  rw [← hsame] at hholds
  simpa only [Request.netID, Request.nodeID, Request.follow_command, Request.follow_msg]
    using hholds

theorem RolesHeld.done (h : RolesHeld g) (i : Nat) : RolesHeld (g.done i) :=
  fun r hr => h r (List.mem_of_mem_eraseIdx hr)

theorem RolesHeld.put (h : RolesHeld g) {stage : Stage}
    (hnew : stage.byRole = true → r.holdsRole g.world.live = true) :
    RolesHeld (g.put i r stage) := by
  intro r' hr' hby
  rcases List.mem_or_eq_of_mem_set hr' with hold | rfl
  · exact h r' hold hby
  · exact hnew hby

theorem RolesHeld.pass (h : RolesHeld g) {byRole : Bool}
    (hnew : byRole = true → r.holdsRole g.world.live = true) : RolesHeld (g.pass i r byRole) := by
  unfold Gatehouse.pass
  split
  · refine h.put fun hstage => hnew ?_
    split at hstage <;> exact hstage
  · exact h.done i

/-- The change of a command that may not change the roles of the others. -/
theorem RolesHeld.make (h : RolesHeld g) {x : Except String Outcome}
    (hx : ∀ o, x = .ok o → ∀ r ∈ g.requests.eraseIdx i, r.stage.byRole = true →
      roleIn o.server r.netID r.nodeID = roleIn g.world.live r.netID r.nodeID) :
    RolesHeld (g.make i logged x) := by
  cases x with
  | error e => exact h.done i
  | ok o => exact fun r hr hby => holdsRole_follow (fun r₀ hr₀ hby₀ =>
      ⟨h r₀ (List.mem_of_mem_eraseIdx hr₀) hby₀, hx o rfl r₀ hr₀ hby₀⟩) hr hby

theorem RolesHeld.go (h : RolesHeld g) (hr : g.requests[i]? = some r)
    (hkeeps : KeepsRoles E g (.go i logged)) : RolesHeld (g.go E i logged r) := by
  have hheld := h r (List.mem_of_getElem? hr)
  obtain ⟨hgone, hothers⟩ := hkeeps r hr
  unfold Gatehouse.go
  simp only
  split
  · -- the tokens
    split
    · exact h.pass fun hby => by cases hby
    · split
      · exact h.done i
      · split
        · exact h.pass fun hby => by cases hby
        · split
          · exact h.done i
          · exact h.put fun hby => by cases hby
  · split
    · exact h.put fun hby => by cases hby
    · exact h.done i
  · next ref hstage =>
    split
    · next hrole =>
      cases ref with
      | held => exact h.pass fun _ => hrole
      | gone net => simp [Request.readsGone, hstage] at hgone
    · exact h.done i
  · next byRole hstage =>
    split
    · exact h.put fun hby => hheld (by rw [hstage]; exact hby)
    · exact h.done i
  · next byRole hstage =>
    split
    · exact h.put fun hby => hheld (by rw [hstage]; exact hby)
    · exact h.done i
    · next hread =>
      refine h.make fun o ho r' hr' hby => commit_roleIn ho (hothers ?_ r' hr' hby)
      simp [Request.commits, hstage, hread, ho, Except.toBool]
  · exact h.make fun o ho r' hr' hby => writePolicy_roleIn ho

theorem RolesHeld.step (h : RolesHeld g) {e : Event} (hkeeps : KeepsRoles E g e) :
    RolesHeld (g.step E e) := by
  cases e with
  | world e =>
    intro r hr hby
    simp only [Gatehouse.step] at hr
    split at hr
    · cases hr
    · next hrestart =>
      exact holdsRole_follow (fun r₀ hr₀ hby₀ =>
        ⟨h r₀ hr₀ hby₀, world_roleIn hrestart (hkeeps hrestart r₀ hr₀ hby₀)⟩) hr hby
  | ask c msg =>
    simp only [Gatehouse.step]
    split
    · intro r hr hby
      rcases List.mem_append.mp hr with hold | hnew
      · exact h r hold hby
      · rw [List.mem_singleton.mp hnew] at hby
        cases hby
    · exact h
  | go i logged =>
    simp only [Gatehouse.step]
    split
    · next r hr => exact h.go hr hkeeps
    · exact h

end

theorem commitsInRole_of {E : NodeEnv} {g : Gatehouse} (h : RolesHeld g) (e : Event) :
    CommitsInRole E g e := by
  cases e with
  | go i logged => exact fun r hr hby _ => h r (List.mem_of_getElem? hr) hby
  | _ => trivial

/-- In every run in which no role is read from a network that is gone, and
in which nothing happens while a command is in flight that may change the
role it came by: a command that a role let through makes its change only in
a state in which its node has a role that the command allows. -/
theorem role_held_runs (E : NodeEnv) (now : Time) (es : List Event)
    (h : Meets (Gatehouse.step E) (KeepsRoles E) (Gatehouse.fresh now) es) :
    Meets (Gatehouse.step E) (CommitsInRole E) (Gatehouse.fresh now) es := by
  refine h.imp (Gatehouse.step E) (P := RolesHeld) (fun g e hkeeps hg => hg.step hkeeps)
    (fun g e _ hg => commitsInRole_of hg e) ?_
  intro r hr
  cases hr

/-! ## An admin who was demoted -/

/-- Node 1 owns an enterprise network, and node 2 is an admin in it. -/
def adminJoins : List World.Event :=
  registers ++ [.command (.createNetwork 0 (operatorMsg [("node_id", .num 1), ("name", .str "net"),
      ("enterprise", .bool true)])) true,
    .register "host" [("public_key", .str "BBBB"), ("listen_addr", .str "host:2")],
    .go 0 [0, 1] true, .go 0 [0, 1] true,
    .request .joinNetwork [("node_id", .num 2), ("network_id", .num 1), ("signature", .str "BBBB")],
    .go 0 [] true,
    .command (.promoteMember [("node_id", .num 1), ("network_id", .num 1),
      ("target_node_id", .num 2)]) true]

/-- Node 2 renames the network, up to the gate. -/
def rename : List Event :=
  [.ask .renameNetwork [("node_id", .num 2), ("network_id", .num 1), ("name", .str "new")],
    .go 0 true, .go 0 true, .go 0 true]

/-- Node 1 demotes node 2. -/
def demotes : Event :=
  .world (.command (.demoteMember [("node_id", .num 1), ("network_id", .num 1),
    ("target_node_id", .num 2)]) true)

theorem role_held_runs_renamed :
    let es := adminJoins.map .world ++ rename ++ [.go 0 true, demotes]
    Meets (Gatehouse.step .plain) (CommitsInRole .plain) (.fresh 0) es ∧
      ((run (Gatehouse.step .plain) (.fresh 0) es).world.live.networks.get 1).map
        NetworkInfo.name = some "new" :=
  ⟨role_held_runs .plain 0 _ (by decide +kernel), by decide +kernel⟩

/-- Node 2 passes the gate as an admin, node 1 demotes it, and then node 2
renames the network. -/
theorem demoted_admin_renames :
    let g := run (Gatehouse.step .plain) (.fresh 0)
      (adminJoins.map .world ++ rename ++ [demotes])
    (g.world.live.networks.get 1).bind (fun net => net.role 2) = some .member ∧
      (g.world.live.networks.get 1).map NetworkInfo.name = some "net" ∧
      ¬ CommitsInRole .plain g (.go 0 true) ∧
      ((g.step .plain (.go 0 true)).world.live.networks.get 1).map NetworkInfo.name =
        some "new" := by
  decide +kernel

end Rendezvous.Policy

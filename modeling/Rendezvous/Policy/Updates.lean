import Rendezvous.Admin.Handlers
import Rendezvous.Base.Run
import Rendezvous.Base.Serial
import Rendezvous.Policy.Sections

/-!
# Concurrent policy updates

A policy command reads the policy of its network in one section, merges the
fields of its message into what it read, and writes the whole policy and the
document back in another. A blueprint merges its fields in one section.

The outcome is that of the updates one after the other in every run in which
each command, when it writes, finds the fields it does not set as it read
them (`policy_updates_serial_runs`). Nothing makes it so: of two commands
that read before either writes, the second takes back what the first one set
(`policy_update_lost`).
-/

namespace Rendezvous.Policy

open Base Registry Authz Rendezvous.Membership Admin

/-! ## Partial updates -/

/-- The policy fields of a network: the constraints and the document. -/
structure Stored where
  policy : NetworkPolicy
  expr : Option String
  deriving DecidableEq

/-- The policy fields in the registry. -/
def stored (s : Server) : GoMap NetId Stored :=
  s.networks.mapVals fun _ net => ⟨net.policy, net.exprPolicy⟩

/-- An update of some of the policy fields of a network. -/
structure PolicyUpdate where
  netID : NetId
  maxMembers : Option Int := none
  allowedPorts : Option (List UInt16) := none
  description : Option String := none
  expr : Option (Option String) := none
  deriving DecidableEq

/-- The fields the update gives, the others as they are. -/
def PolicyUpdate.merge (u : PolicyUpdate) (v : Stored) : Stored where
  policy := {
    maxMembers := u.maxMembers.getD v.policy.maxMembers
    allowedPorts := u.allowedPorts.getD v.policy.allowedPorts
    description := u.description.getD v.policy.description }
  expr := u.expr.getD v.expr

/-- The update of the stored fields. -/
def PolicyUpdate.apply (u : PolicyUpdate) (v : GoMap NetId Stored) : GoMap NetId Stored :=
  v.modify u.netID u.merge

/-- The two commands that read and write. -/
inductive PolicyCommand where
  | setNetworkPolicy
  | setExprPolicy
  deriving DecidableEq

/-- The update a message asks for. -/
def PolicyCommand.update (E : Env) (msg : Msg) : PolicyCommand → PolicyUpdate
  | setNetworkPolicy => {
      netID := msg.jsonUint16 "network_id"
      maxMembers := (msg.num? "max_members").map Rat.floor
      allowedPorts := (msg.arr? "allowed_ports").map fun ports =>
        (parsePorts [] ports).toOption.getD []
      description := msg.str? "description" }
  | setExprPolicy => {
      netID := msg.jsonUint16 "network_id"
      expr := (exprPolicyField E msg).toOption }

/-- The update a blueprint's policy asks for. -/
def policyUpdate (netID : NetId) (pol : BlueprintPolicy) : PolicyUpdate where
  netID := netID
  maxMembers := if pol.maxMembers > 0 then some pol.maxMembers else none
  allowedPorts := if pol.allowedPorts.isEmpty then none else some pol.allowedPorts
  description := if pol.description = "" then none else some pol.description

/-! ## The sections -/

/-- A command from its gates to the write. -/
def PolicyCommand.read (E : Env) (s : Server) (msg : Msg) :
    PolicyCommand → Except String PolicyWrite
  | setNetworkPolicy => do
    requireNetworkRole E s msg (msg.jsonUint16 "network_id") [.owner, .admin]
    requireEnterprise s (msg.jsonUint16 "network_id")
    readNetworkPolicy s msg
  | setExprPolicy => do
    requireNetworkRole E s msg (msg.jsonUint16 "network_id") [.owner, .admin]
    readExprPolicy E s msg

/-- Run on one state, the read and the write of a command are its handler. -/
theorem PolicyCommand.at_once (E : Env) (s : Server) (msg : Msg) (c : PolicyCommand) :
    (c.read E s msg >>= writePolicy s msg) =
      match c with
      | setNetworkPolicy => handleSetNetworkPolicy E s msg
      | setExprPolicy => handleSetExprPolicy E s msg := by
  cases c with
  | setNetworkPolicy =>
    refine Eq.trans ?_ (Gated.at_once E s msg .setNetworkPolicy).symm
    simp only [PolicyCommand.read, bind_assoc]
    rfl
  | setExprPolicy =>
    refine Eq.trans ?_ (Gated.at_once E s msg .setExprPolicy).symm
    simp only [PolicyCommand.read, bind_assoc]
    rfl

/-- `applyBlueprintPolicy`. -/
def applyBlueprintPolicy (s : Server) (netID : NetId) (pol : BlueprintPolicy) :
    Except String Server := do
  let net ← orFail (s.networks.get netID) s!"network {netID} not found"
  return putNetwork s netID { net with
    policy := {
      maxMembers := if pol.maxMembers > 0 then pol.maxMembers else net.policy.maxMembers
      allowedPorts := if pol.allowedPorts.isEmpty then net.policy.allowedPorts
        else pol.allowedPorts
      description := if pol.description = "" then net.policy.description
        else pol.description } }

/-- `applyBlueprintExprPolicy`. -/
def applyBlueprintExprPolicy (s : Server) (netID : NetId) (doc : String) :
    Except String Server := do
  let net ← orFail (s.networks.get netID) s!"network {netID} not found"
  return putNetwork s netID { net with exprPolicy := some doc }

/-- A command that has read: the update it makes, and what it will write. -/
structure Draft where
  msg : Msg
  update : PolicyUpdate
  write : PolicyWrite

/-- The registry, the commands that have read, and the updates that have
returned. -/
structure Desk where
  server : Server
  drafts : List Draft := []
  returned : List PolicyUpdate := []

/-- A command reads, the command at place `i` writes, or a blueprint sets a
policy or a document. -/
inductive Section where
  | read (c : PolicyCommand) (msg : Msg)
  | write (i : Nat)
  | blueprintPolicy (netID : NetId) (pol : BlueprintPolicy)
  | blueprintExpr (netID : NetId) (doc : String)

/-- An update returns with the state it leaves, or has failed. -/
def Desk.finish (d : Desk) (u : PolicyUpdate) : Except String Server → Desk
  | .ok s => { d with server := s, returned := d.returned ++ [u] }
  | .error _ => d

/-- One section. A command that fails is not there any more. -/
def Desk.step (E : Env) (d : Desk) : Section → Desk
  | .read c msg =>
    match c.read E d.server msg with
    | .ok p => { d with drafts := d.drafts ++ [⟨msg, c.update E msg, p⟩] }
    | .error _ => d
  | .write i =>
    match d.drafts[i]? with
    | some f => { d with drafts := d.drafts.eraseIdx i }.finish f.update
        ((writePolicy d.server f.msg f.write).map Outcome.server)
    | none => d
  | .blueprintPolicy netID pol =>
    d.finish (policyUpdate netID pol) (applyBlueprintPolicy d.server netID pol)
  | .blueprintExpr netID doc =>
    d.finish { netID := netID, expr := some (some doc) }
      (applyBlueprintExprPolicy d.server netID doc)

/-! ## What a section stores -/

variable {v₀ : GoMap NetId Stored} {u : PolicyUpdate} {s' : Server}

section

variable {E : Env} {s : Server} {msg : Msg} {net : NetworkInfo}

theorem parseMaxMembers_eq {m : Int} (h : parseMaxMembers msg net = .ok m) :
    m = ((msg.num? "max_members").map Rat.floor).getD net.policy.maxMembers := by
  unfold parseMaxMembers at h
  cases hv : msg.num? "max_members" with
  | none =>
    rw [hv] at h
    exact (Except.ok.inj h).symm
  | some v =>
    simp only [hv, bind_eq_ok, require_eq_ok] at h
    obtain ⟨-, -, -, -, hm⟩ := h
    exact (Except.ok.inj hm).symm

theorem parseAllowedPorts_eq {ports : List UInt16}
    (h : parseAllowedPorts msg net = .ok ports) :
    ports = ((msg.arr? "allowed_ports").map fun ports =>
      (parsePorts [] ports).toOption.getD []).getD net.policy.allowedPorts := by
  unfold parseAllowedPorts at h
  cases hv : msg.arr? "allowed_ports" with
  | none =>
    rw [hv] at h
    exact (Except.ok.inj h).symm
  | some v =>
    simp only [hv, bind_eq_ok, require_eq_ok] at h
    obtain ⟨-, -, hports⟩ := h
    rw [Option.map_some, hports]
    rfl

theorem parseDescription_eq {text : String} (h : parseDescription msg net = .ok text) :
    text = (msg.str? "description").getD net.policy.description := by
  unfold parseDescription at h
  cases hv : msg.str? "description" with
  | none =>
    rw [hv] at h
    exact (Except.ok.inj h).symm
  | some v =>
    simp only [hv, bind_eq_ok, require_eq_ok] at h
    obtain ⟨-, -, htext⟩ := h
    exact (Except.ok.inj htext).symm

/-- A command that has read will write its update of what it read. -/
theorem PolicyCommand.read_merges {c : PolicyCommand} {p : PolicyWrite}
    (h : c.read E s msg = .ok p) :
    (c.update E msg).netID = msg.jsonUint16 "network_id" ∧
      ∃ v, Stored.mk p.policy p.expr = (c.update E msg).merge v := by
  cases c with
  | setNetworkPolicy =>
    simp only [PolicyCommand.read, readNetworkPolicy, bind_eq_ok] at h
    obtain ⟨-, -, -, -, net, -, m, hm, ports, hports, text, htext, hp⟩ := h
    cases hp
    refine ⟨rfl, ⟨net.policy, net.exprPolicy⟩, ?_⟩
    simp only [PolicyCommand.update, PolicyUpdate.merge, parseMaxMembers_eq hm,
      parseAllowedPorts_eq hports, parseDescription_eq htext, Option.getD_none]
  | setExprPolicy =>
    simp only [PolicyCommand.read, readExprPolicy, bind_eq_ok] at h
    obtain ⟨-, -, net, -, doc, hdoc, -, -, hp⟩ := h
    cases hp
    refine ⟨rfl, ⟨net.policy, net.exprPolicy⟩, ?_⟩
    simp only [PolicyCommand.update, PolicyUpdate.merge, hdoc, Except.toOption,
      Option.getD_none, Option.getD_some]

/-- A network with other policy fields. -/
theorem stored_putNetwork {netID : NetId} {net' : NetworkInfo} (hid : u.netID = netID)
    (hnet : s.networks.get netID = some net)
    (h : Stored.mk net'.policy net'.exprPolicy = u.merge ⟨net.policy, net.exprPolicy⟩) :
    stored (putNetwork s netID net') = u.apply (stored s) := by
  subst hid
  ext1 j
  simp only [stored, putNetwork, PolicyUpdate.apply, GoMap.get_mapVals, GoMap.get_set,
    GoMap.get_modify]
  split
  · simp only [hnet, Option.map_some, h]
  · rfl

theorem applyBlueprintPolicy_stored {netID : NetId} {pol : BlueprintPolicy}
    (h : applyBlueprintPolicy s netID pol = .ok s') :
    stored s' = (policyUpdate netID pol).apply (stored s) := by
  simp only [applyBlueprintPolicy, bind_eq_ok, orFail_eq_ok] at h
  obtain ⟨net, hnet, hs⟩ := h
  cases hs
  refine stored_putNetwork rfl hnet ?_
  simp only [policyUpdate, PolicyUpdate.merge, Option.getD_none]
  split_ifs <;> rfl

theorem applyBlueprintExprPolicy_stored {netID : NetId} {doc : String}
    (h : applyBlueprintExprPolicy s netID doc = .ok s') :
    stored s' = PolicyUpdate.apply { netID := netID, expr := some (some doc) } (stored s) := by
  simp only [applyBlueprintExprPolicy, bind_eq_ok, orFail_eq_ok] at h
  obtain ⟨net, hnet, hs⟩ := h
  cases hs
  exact stored_putNetwork rfl hnet rfl

end

/-! ## Runs without lost updates -/

/-- The draft writes an update of the network it is for. -/
def Draft.Merges (f : Draft) : Prop :=
  f.update.netID = f.msg.jsonUint16 "network_id" ∧
    ∃ v, Stored.mk f.write.policy f.write.expr = f.update.merge v

/-- The fields that the update does not set are as they were read. -/
def Draft.FindsAsRead (f : Draft) (net : NetworkInfo) : Prop :=
  (f.update.maxMembers = none → net.policy.maxMembers = f.write.policy.maxMembers) ∧
    (f.update.allowedPorts = none → net.policy.allowedPorts = f.write.policy.allowedPorts) ∧
    (f.update.description = none → net.policy.description = f.write.policy.description) ∧
    (f.update.expr = none → net.exprPolicy = f.write.expr)

instance (f : Draft) (net : NetworkInfo) : Decidable (f.FindsAsRead net) := by
  unfold Draft.FindsAsRead
  infer_instance

/-- The write stores what the update makes of the record, exactly when it
finds the record as it read it, but for the fields it sets. -/
theorem Draft.Merges.write_iff {f : Draft} (h : f.Merges) (net : NetworkInfo) :
    Stored.mk f.write.policy f.write.expr = f.update.merge ⟨net.policy, net.exprPolicy⟩ ↔
      f.FindsAsRead net := by
  obtain ⟨-, v, hv⟩ := h
  obtain ⟨hpolicy, hexpr⟩ := Stored.mk.inj hv
  simp only [Draft.FindsAsRead, hpolicy, hexpr, PolicyUpdate.merge, Stored.mk.injEq,
    NetworkPolicy.mk.injEq]
  cases f.update.maxMembers <;> cases f.update.allowedPorts <;>
    cases f.update.description <;> cases f.update.expr <;> simp [eq_comm, and_assoc]

/-- A command that writes finds the fields it does not set as it read
them. -/
def KeepsFields (d : Desk) : Section → Prop
  | .write i => ∀ f ∈ d.drafts[i]?, ∀ net ∈ d.server.networks.get f.update.netID, f.FindsAsRead net
  | _ => True

instance (d : Desk) (x : Section) : Decidable (KeepsFields d x) := by
  cases x <;> unfold KeepsFields <;> infer_instance

/-- What is stored is a serial outcome of the updates that have returned. -/
structure InOrder (v₀ : GoMap NetId Stored) (d : Desk) : Prop where
  merges : ∀ f ∈ d.drafts, f.Merges
  serial : Serial PolicyUpdate.apply v₀ d.returned (stored d.server)

theorem InOrder.finish {d : Desk} (h : InOrder v₀ d) {x : Except String Server}
    (hx : ∀ s', x = .ok s' → stored s' = u.apply (stored d.server)) :
    InOrder v₀ (d.finish u x) := by
  cases x with
  | error e => exact h
  | ok s' =>
    refine ⟨h.merges, ?_⟩
    change Serial _ _ (d.returned ++ [u]) (stored s')
    rw [hx s' rfl]
    exact h.serial.snoc u

theorem InOrder.step {E : Env} {d : Desk} (h : InOrder v₀ d) {x : Section} (hx : KeepsFields d x) :
    InOrder v₀ (d.step E x) := by
  cases x with
  | read c msg =>
    unfold Desk.step
    dsimp only
    split
    · next p hp =>
      refine ⟨fun f hf => ?_, h.serial⟩
      rcases List.mem_append.mp hf with hf | hf
      · exact h.merges f hf
      · obtain rfl := List.mem_singleton.mp hf
        exact PolicyCommand.read_merges hp
    · exact h
  | write i =>
    unfold Desk.step
    dsimp only
    split
    · next f hf =>
      have hmerges := h.merges f (List.mem_of_getElem? hf)
      refine InOrder.finish (d := { d with drafts := d.drafts.eraseIdx i })
        ⟨fun g hg => h.merges g (List.mem_of_mem_eraseIdx hg), h.serial⟩ fun s' hs' => ?_
      obtain ⟨o, ho, rfl⟩ := (map_eq_ok ..).mp hs'
      simp only [writePolicy, getNetwork, bind_eq_ok, orFail_eq_ok] at ho
      obtain ⟨net, hnet, ho⟩ := ho
      cases ho
      exact stored_putNetwork hmerges.1 hnet
        ((hmerges.write_iff net).mpr (hx f hf net (hmerges.1 ▸ hnet)))
    · exact h
  | blueprintPolicy netID pol => exact h.finish fun s' => applyBlueprintPolicy_stored
  | blueprintExpr netID doc => exact h.finish fun s' => applyBlueprintExprPolicy_stored

/-- In every run in which each command that writes finds the fields it does
not set as it read them, what is stored is, at every point, what the updates
that have returned leave one after the other in some order. -/
theorem policy_updates_serial_runs (E : Env) (s : Server) (xs : List Section)
    (h : Meets (Desk.step E) KeepsFields { server := s } xs) :
    let d := run (Desk.step E) { server := s } xs
    Serial PolicyUpdate.apply (stored s) d.returned (stored d.server) := by
  have hstart : InOrder (stored s) { server := s } :=
    ⟨fun f hf => absurd hf (List.not_mem_nil), .nil _ _⟩
  exact (h.invariant (Desk.step E) (fun d x hx hd => hd.step hx) hstart).serial

/-! ## An update that is lost -/

/-- An enterprise network. -/
def governed : Server where
  nodes := ∅
  networks := (∅ : GoMap NetId NetworkInfo).set 5
    { name := "net", joinRule := "open", members := [], enterprise := true }

/-- The operator limits the network, and describes it. -/
def limits : Section :=
  .read .setNetworkPolicy [("network_id", .num 5), ("max_members", .num 3),
    ("admin_token", .str "secret")]

def describes : Section :=
  .read .setNetworkPolicy [("network_id", .num 5), ("description", .str "lab"),
    ("admin_token", .str "secret")]

/-- One command after the other, and a blueprint between the sections of the
second one that sets the field it sets. -/
theorem policy_updates_serial_runs_described :
    let d := run (Desk.step .plain) { server := governed }
      [limits, .write 0, describes, .blueprintPolicy 5 { description := "new" }, .write 0]
    Serial PolicyUpdate.apply (stored governed) d.returned (stored d.server) ∧
      d.returned.length = 3 ∧ d.drafts.length = 0 ∧
      (stored d.server).get 5 = some ⟨{ maxMembers := 3, description := "lab" }, none⟩ :=
  ⟨policy_updates_serial_runs .plain governed _ (by decide +kernel), by decide +kernel⟩

/-- Both commands read, then both write: the limit is gone. -/
theorem policy_update_lost :
    let d := run (Desk.step .plain) { server := governed }
      [limits, describes, .write 0, .write 0]
    d.drafts.length = 0 ∧ d.returned.length = 2 ∧
      (stored d.server).get 5 = some ⟨{ description := "lab" }, none⟩ ∧
      ¬ Serial PolicyUpdate.apply (stored governed) d.returned (stored d.server) := by
  refine ⟨by decide +kernel, by decide +kernel, by decide +kernel, fun h => ?_⟩
  have hdone : (run (Desk.step .plain) { server := governed }
      [limits, describes, .write 0, .write 0]).returned =
      [{ netID := 5, maxMembers := some 3 }, { netID := 5, description := some "lab" }] := by
    decide +kernel
  rw [hdone] at h
  rcases serial_pair h with h | h <;>
    exact absurd (congrArg (GoMap.get · 5) h) (by decide +kernel)

end Rendezvous.Policy

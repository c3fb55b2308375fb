import Rendezvous.Policy.Requests
import Rendezvous.Policy.Updates

/-!
# Provisioning in sections

`provision_network` finds the network of a blueprint or creates it, and then
sets what the blueprint gives, each part under a lock of its own: the
enterprise flag, the policy, the document and the roles. In between anything
may happen to the network, and the sections after it find the network as it
is then. `provision_at_once` says that the sections, run on one state, are the
handler.

`Office` is the registry with the role-gated commands and the provisionings
that are between two of their sections.
-/

namespace Rendezvous.Policy

open Base Registry Authz Rendezvous.Membership Admin Lifecycle

/-! ## The sections -/

/-- `enableEnterpriseLocked`. -/
def enableEnterprise (s : Server) (netID : NetId) : Server :=
  { s with networks := s.networks.modify netID fun net => { net with enterprise := true } }

/-- `storeRBACPreAssignments`. -/
def storeRBACPreAssignments (s : Server) (netID : NetId) (roles : List BlueprintRole) : Server :=
  { s with rbacPreAssign := s.rbacPreAssign.set netID roles }

/-- What one section after the first sets. -/
inductive BlueprintPart where
  | enterprise
  | policy (pol : BlueprintPolicy)
  | expr (doc : String)
  | roles (rs : List BlueprintRole)

/-- The parts a blueprint has, in the order they are set. -/
def blueprintParts (bp : NetworkBlueprint) : List BlueprintPart :=
  (if bp.enterprise then [.enterprise] else []) ++ (bp.policy.map .policy).toList ++
    (if bp.exprPolicy = "" then [] else [.expr bp.exprPolicy]) ++
    (if bp.roles.isEmpty then [] else [.roles bp.roles])

/-- One section after the first. Only the policy and the document need the
network to be there. -/
def BlueprintPart.set (s : Server) (netID : NetId) : BlueprintPart → Except String Server
  | .enterprise => .ok (enableEnterprise s netID)
  | .policy pol => applyBlueprintPolicy s netID pol
  | .expr doc => applyBlueprintExprPolicy s netID doc
  | .roles rs => .ok (storeRBACPreAssignments s netID rs)

/-- `HandleProvisionNetwork` and `ApplyBlueprint` up to the end of
`findOrCreateNetwork`. -/
def beginProvision (E : AdminEnv) (now : Time) (order : List NetId) (s : Server) (msg : Msg) :
    Except String (Server × NetId × NetworkBlueprint) := do
  requireAdminToken E.toEnv msg
  let fields ← orFail (msg.obj? "blueprint") "blueprint is required"
  let bp ← (E.parseBlueprint fields).mapError fun e => s!"parse blueprint: {e}"
  (match E.validateBlueprint bp with
    | .ok _ => .ok ()
    | .error e => .error s!"invalid blueprint: {e}")
  let (s, netID, _) ← (findOrCreateNetwork E now order s bp).mapError
    fun e => s!"provision network: {e}"
  return (s, netID, bp)

/-! ## The sections and the handler -/

/-- What a part sets in the record of the network. -/
def BlueprintPart.onNetwork (net : NetworkInfo) : BlueprintPart → NetworkInfo
  | .enterprise => { net with enterprise := true }
  | .policy pol => { net with
      policy := (applyToNetwork { name := net.name, policy := some pol } net).policy }
  | .expr doc => { net with exprPolicy := some doc }
  | .roles _ => net

/-- What a part sets of the roles to assign. -/
def BlueprintPart.onRoles (netID : NetId) (roles : GoMap NetId (List BlueprintRole)) :
    BlueprintPart → GoMap NetId (List BlueprintRole)
  | .roles rs => roles.set netID rs
  | _ => roles

section

variable {s : Server} {netID : NetId} {net : NetworkInfo} (hnet : s.networks.get netID = some net)
include hnet

/-- A part whose network is there is set. -/
theorem BlueprintPart.set_eq (part : BlueprintPart) :
    part.set s netID = .ok { s with
      networks := s.networks.set netID (part.onNetwork net)
      rbacPreAssign := part.onRoles netID s.rbacPreAssign } := by
  cases part with
  | enterprise =>
    simp only [BlueprintPart.set, enableEnterprise, ← GoMap.set_eq_modify hnet]
    rfl
  | policy pol =>
    simp only [BlueprintPart.set, applyBlueprintPolicy, hnet]
    rfl
  | expr doc =>
    simp only [BlueprintPart.set, applyBlueprintExprPolicy, hnet]
    rfl
  | roles rs =>
    simp only [BlueprintPart.set, storeRBACPreAssignments, BlueprintPart.onNetwork,
      s.networks.set_get_self hnet]
    rfl

/-- The parts are set one after the other. -/
theorem setParts_eq (parts : List BlueprintPart) :
    parts.foldlM (fun s part => part.set s netID) s = .ok { s with
      networks := s.networks.set netID (parts.foldl BlueprintPart.onNetwork net)
      rbacPreAssign := parts.foldl (BlueprintPart.onRoles netID) s.rbacPreAssign } := by
  induction parts generalizing s net with
  | nil =>
    rw [List.foldl_nil, s.networks.set_get_self hnet]
    rfl
  | cons part parts ih =>
    rw [List.foldlM_cons, part.set_eq hnet]
    refine (ih (GoMap.get_set_self ..)).trans ?_
    simp only [GoMap.set_set, List.foldl_cons]

end

theorem blueprintParts_onNetwork (bp : NetworkBlueprint) (net : NetworkInfo) :
    (blueprintParts bp).foldl BlueprintPart.onNetwork net = applyToNetwork bp net := by
  unfold blueprintParts applyToNetwork
  rcases bp.policy with _ | pol <;> rcases bp.enterprise <;>
    by_cases hexpr : bp.exprPolicy = "" <;> by_cases hroles : bp.roles.isEmpty <;>
    simp [BlueprintPart.onNetwork, applyToNetwork, hexpr, hroles]

theorem blueprintParts_onRoles (bp : NetworkBlueprint) (netID : NetId)
    (roles : GoMap NetId (List BlueprintRole)) :
    (blueprintParts bp).foldl (BlueprintPart.onRoles netID) roles =
      if bp.roles.isEmpty then roles else roles.set netID bp.roles := by
  unfold blueprintParts
  rcases bp.policy with _ | pol <;> split_ifs <;> rfl

/-- The network of a blueprint is there when the first section ends. -/
theorem findOrCreateNetwork_found {E : AdminEnv} {now : Time} {order : List NetId} {s s' : Server}
    {bp : NetworkBlueprint} {netID : NetId} {created : Bool}
    (h : findOrCreateNetwork E now order s bp = .ok (s', netID, created)) :
    ∃ net, s'.networks.get netID = some net := by
  unfold findOrCreateNetwork at h
  split at h
  · next hfound =>
    cases h
    have hnamed := List.find?_some hfound
    exact Option.isSome_iff_exists.mp (Option.isSome_of_any hnamed)
  · simp only [bind_eq_ok, pure_eq_ok, Prod.mk.injEq] at h
    obtain ⟨_, -, _, -, rfl, rfl, -⟩ := h
    exact ⟨_, GoMap.get_set_self ..⟩


/-- Run on one state, the sections are the handler. -/
theorem provision_at_once (E : AdminEnv) (now : Time) (order : List NetId) (s : Server)
    (msg : Msg) :
    (beginProvision E now order s msg >>= fun (s, netID, bp) =>
      (blueprintParts bp).foldlM (fun s part => part.set s netID) s) =
      (handleProvisionNetwork E now order s msg).map Outcome.server := by
  unfold beginProvision handleProvisionNetwork applyBlueprint
  simp only [bind_assoc]
  rcases requireAdminToken E.toEnv msg with _ | _
  · rfl
  rcases msg.obj? "blueprint" with _ | fields
  · rfl
  simp only [orFail_some, ok_bind]
  rcases E.parseBlueprint fields with _ | bp
  · rfl
  simp only [Except.mapError, ok_bind]
  rcases E.validateBlueprint bp with _ | _
  · rfl
  rcases hfind : findOrCreateNetwork E now order s bp with _ | ⟨s', netID, created⟩
  · rfl
  obtain ⟨net, hnet⟩ := findOrCreateNetwork_found hfind
  refine (setParts_eq hnet _).trans ?_
  rw [blueprintParts_onNetwork, blueprintParts_onRoles, GoMap.set_eq_modify hnet]
  rfl

/-! ## The machine -/

/-- A provisioning that found its network, and the parts it has still to
set. -/
structure Job where
  netID : NetId
  parts : List BlueprintPart

/-- The registry with the role-gated commands and the provisionings in
flight. -/
structure Office where
  gate : Gatehouse
  jobs : List Job := []

/-- A registry started for the first time. -/
def Office.fresh (now : Time) : Office := { gate := .fresh now }

/-- The registry. -/
def Office.live (o : Office) : Server := o.gate.world.live

/-- Memory changes. -/
def Office.become (o : Office) (s : Server) : Office :=
  { o with gate := {
      world := o.gate.world.become s
      requests := o.gate.requests.map (Request.follow o.live s) } }

/-- What may happen next: an event of the registry or of a role-gated
command, the first section of a provisioning, or the next one of the
provisioning at place `i`. -/
inductive Office.Event where
  | gate (e : Policy.Event)
  | provision (order : List NetId) (msg : Msg)
  | part (i : Nat)

/-- The event is a provisioning in one piece. -/
def Event.provisions : Event → Bool
  | .world (.command (.provision ..) _) => true
  | _ => false

/-- The event is the start of a new process. -/
def Office.restarts (o : Office) : Policy.Event → Prop
  | .world e => o.gate.world.restarts e
  | _ => False

instance (o : Office) (e : Policy.Event) : Decidable (o.restarts e) := by
  rcases e <;> unfold Office.restarts <;> infer_instance

/-- One event. Provisionings are made in sections here, and not in one
piece. -/
def Office.step (E : NodeEnv) (o : Office) : Office.Event → Office
  | .gate e =>
    if e.provisions then o
    else { gate := o.gate.step E e, jobs := if o.restarts e then [] else o.jobs }
  | .provision order msg =>
    if o.live.networks.Enumerates order then
      match beginProvision E.toAdminEnv o.gate.world.clock order o.live msg with
      | .ok (s, netID, bp) =>
        { o.become s with jobs := o.jobs ++ [⟨netID, blueprintParts bp⟩] }
      | .error _ => o
    else o
  | .part i =>
    match o.jobs[i]? with
    | some ⟨netID, part :: parts⟩ =>
      match part.set o.live netID with
      | .ok s => { o.become s with jobs := o.jobs.set i ⟨netID, parts⟩ }
      | .error _ => { o with jobs := o.jobs.eraseIdx i }
    | some ⟨_, []⟩ => { o with jobs := o.jobs.eraseIdx i }
    | none => o

end Rendezvous.Policy

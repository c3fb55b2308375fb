import Rendezvous.Policy.Handlers

/-!
# Who can change a network

Nine commands change a network behind the role gate. `Gated` lists them
with the roles each one allows, and `Gated.run` is the handler of each.

The gate is the whole of their authorization: a command that changes the
state found one of the grants of `RoleGrant` (`Gated.change_granted`).
Possession of a key is not among them. A message that merely names the
owner in `node_id`, without a token and without a signature, deletes the
network (`named_owner_deletes`).
-/

namespace Rendezvous.Policy

open Base Registry Authz Rendezvous.Membership

/-- The commands behind the role gate. A transfer carries the order in
which the handler meets the keys of the role map. -/
inductive Gated where
  | deleteNetwork
  | renameNetwork
  | kickMember
  | promoteMember
  | demoteMember
  | transferOwnership (order : List NodeId)
  | setMemberTags
  | setNetworkPolicy
  | setExprPolicy

/-- The roles the gate of the command allows. -/
def Gated.allowed : Gated → List Role
  | deleteNetwork | promoteMember | demoteMember | transferOwnership _ => [.owner]
  | renameNetwork | kickMember | setMemberTags | setNetworkPolicy
  | setExprPolicy => [.owner, .admin]

/-- The handler of the command. -/
def Gated.run (E : Env) (s : Server) (msg : Msg) : Gated → Except String Outcome
  | deleteNetwork => handleDeleteNetwork E s msg
  | renameNetwork => handleRenameNetwork E s msg
  | kickMember => handleKickMember E s msg
  | promoteMember => handlePromoteMember E s msg
  | demoteMember => handleDemoteMember E s msg
  | transferOwnership order => handleTransferOwnership E order s msg
  | setMemberTags => handleSetMemberTags E s msg
  | setNetworkPolicy => handleSetNetworkPolicy E s msg
  | setExprPolicy => handleSetExprPolicy E s msg

/-- The state after a request: a refused request leaves it as it was. -/
def after (s : Server) : Except String Outcome → Server
  | .ok o => o.server
  | .error _ => s

/-- The message carries a signature, over any text, that verifies under the
stored key of a node with one of the allowed roles. -/
def SignedByRole (E : Env) (s : Server) (msg : Msg) (netID : NetId)
    (allowed : List Role) : Prop :=
  ∃ net node id sig text, s.networks.get netID = some net ∧
    s.nodes.get id = some node ∧ (∃ role ∈ allowed, net.role id = some role) ∧
    Base64.decode (msg.str "signature") = some sig ∧
    E.verify node.publicKey text sig = true

/-! ## Every change passes the gate -/

private theorem changeRole_gate {E : Env} {s : Server} {msg : Msg}
    {verb already : String} {newRole : Role} {o : Outcome}
    (h : changeRole E s msg verb newRole already = .ok o) :
    RoleGrant E s msg (msg.jsonUint16 "network_id") [.owner] := by
  simp only [changeRole, bind_eq_ok] at h
  obtain ⟨_, hgate, _⟩ := h
  exact (requireNetworkRole_ok _ _ _ _ _).mp hgate

/-- A command that succeeds found a grant. -/
theorem Gated.run_granted {E : Env} {s : Server} {msg : Msg} {o : Outcome}
    (c : Gated) (h : c.run E s msg = .ok o) :
    RoleGrant E s msg (msg.jsonUint16 "network_id") c.allowed := by
  cases c with
  | deleteNetwork | renameNetwork | kickMember | transferOwnership =>
    -- These four check an argument before they reach the gate.
    simp only [Gated.run, handleDeleteNetwork, handleRenameNetwork,
      handleKickMember, handleTransferOwnership, bind_eq_ok] at h
    obtain ⟨_, _, _, hgate, _⟩ := h
    exact (requireNetworkRole_ok _ _ _ _ _).mp hgate
  | setMemberTags | setNetworkPolicy | setExprPolicy =>
    simp only [Gated.run, handleSetMemberTags, handleSetNetworkPolicy,
      handleSetExprPolicy, bind_eq_ok] at h
    obtain ⟨_, hgate, _⟩ := h
    exact (requireNetworkRole_ok _ _ _ _ _).mp hgate
  | _ => exact changeRole_gate h

/-- A role-gated command that changes the state carries the global admin
token, or the network's own admin token, or names in `node_id` a node that
holds one of the command's roles in the network. -/
theorem Gated.change_granted (E : Env) (s : Server) (msg : Msg) (c : Gated)
    (hchange : after s (c.run E s msg) ≠ s) :
    HasAdminToken E msg ∨ ∃ net, s.networks.get (msg.jsonUint16 "network_id") = some net ∧
        ((net.adminToken ≠ "" ∧ msg.str "admin_token" = net.adminToken) ∨
          (msg.jsonUint32 "node_id" ≠ 0 ∧ ∃ role ∈ c.allowed,
            net.role (msg.jsonUint32 "node_id") = some role)) := by
  cases hrun : c.run E s msg with
  | error e => simp [hrun, after] at hchange
  | ok o => exact Gated.run_granted c hrun

/-! ## Naming the owner is enough -/

/-- A network owned by node `1`. -/
def ownedNetwork : NetworkInfo where
  name := "lab"
  joinRule := "open"
  members := [1]
  memberRoles := some ((∅ : GoMap NodeId Role).set 1 .owner)

/-- A registry with one node and the network it owns. -/
def ownedServer : Server where
  nodes := (∅ : GoMap NodeId NodeInfo).set 1
    { publicKey := [7], networks := [0, 5] }
  networks := (∅ : GoMap NetId NetworkInfo).set 5 ownedNetwork

/-- A request that names the owner and carries nothing else. -/
def namingRequest : Msg := [("network_id", .num 5), ("node_id", .num 1)]

/-- Naming the owner deletes the network, although the request carries no
token and no signature that verifies. -/
theorem named_owner_deletes : ¬ ∀ (E : Env) (s : Server) (msg : Msg) (c : Gated),
      after s (c.run E s msg) ≠ s → HasAdminToken E msg ∨
        (∃ net, s.networks.get (msg.jsonUint16 "network_id") = some net ∧ HasNetworkToken net msg) ∨
        SignedByRole E s msg (msg.jsonUint16 "network_id") c.allowed := by
  intro h
  have hchange : after ownedServer
      (Gated.deleteNetwork.run Env.plain ownedServer namingRequest) ≠ ownedServer := by decide
  rcases h Env.plain ownedServer namingRequest .deleteNetwork hchange with
    hadm | ⟨net, hnet, htok⟩ | ⟨_, _, _, _, _, _, _, _, _, hsig⟩
  · exact absurd hadm (by decide)
  · have : net = ownedNetwork := by
      have hlab : ownedServer.networks.get 5 = some ownedNetwork := by decide
      exact Option.some.inj (hnet.symm.trans hlab)
    subst this
    exact absurd htok (by decide)
  · exact absurd hsig (by simp [Env.plain])

/-- The owner's own deletion of the network is such a change. -/
theorem change_granted_on_delete : after ownedServer (Gated.deleteNetwork.run Env.plain ownedServer
        namingRequest) ≠ ownedServer ∧
      (HasAdminToken Env.plain namingRequest ∨ ∃ net, ownedServer.networks.get
            (namingRequest.jsonUint16 "network_id") = some net ∧
          ((net.adminToken ≠ "" ∧ namingRequest.str "admin_token" = net.adminToken) ∨
            (namingRequest.jsonUint32 "node_id" ≠ 0 ∧ ∃ role ∈ Gated.deleteNetwork.allowed,
                net.role (namingRequest.jsonUint32 "node_id") = some role))) :=
  ⟨by decide, Gated.change_granted Env.plain ownedServer namingRequest
    .deleteNetwork (by decide)⟩

end Rendezvous.Policy

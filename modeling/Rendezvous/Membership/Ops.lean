import Rendezvous.Authz.Gate
import Rendezvous.Registry.Delta
import Rendezvous.Registry.Validate

/-!
# Membership primitives

The state changes the membership handlers are made of: a node's list of
networks, a network's members and roles, the invite inboxes, and the role
that was kept for a node's external identity. Removing an element from a
slice removes its first occurrence.
-/

namespace Rendezvous.Membership

open Base Registry Authz

/-! ## Nodes and networks -/

/-- `AppendNodeNetwork`. -/
def appendNodeNetwork (s : Server) (nodeID : NodeId) (netID : NetId) : Server :=
  { s with nodes := s.nodes.modify nodeID fun n =>
      { n with networks := n.networks ++ [netID] } }

/-- `RemoveNodeNetwork`, without its answer. -/
def removeNodeNetwork (s : Server) (nodeID : NodeId) (netID : NetId) : Server :=
  { s with nodes := s.nodes.modify nodeID fun n =>
      { n with networks := n.networks.erase netID } }

/-- `AppendNodeNetwork`'s counterpart in the network: a new plain member. -/
def addMember (net : NetworkInfo) (nodeID : NodeId) : NetworkInfo :=
  { net with
    members := net.members ++ [nodeID]
    memberRoles := some ((net.memberRoles.getD ∅).set nodeID .member) }

/-- The member and its role leave the network. Deleting from a nil map
does nothing. -/
def dropMember (net : NetworkInfo) (nodeID : NodeId) : NetworkInfo :=
  { net with
    members := net.members.erase nodeID
    memberRoles := net.memberRoles.map fun roles => roles.del nodeID }

/-- A member's role is replaced. -/
def setRole (net : NetworkInfo) (nodeID : NodeId) (role : Role) : NetworkInfo :=
  { net with memberRoles := some ((net.memberRoles.getD ∅).set nodeID role) }

/-- The network record is replaced. -/
def putNetwork (s : Server) (netID : NetId) (net : NetworkInfo) : Server :=
  { s with networks := s.networks.set netID net }

/-! ## Invite inboxes -/

/-- What is left of an inbox; an inbox left empty is deleted. -/
def keepInvites (keep : NetworkInvite → Bool) (invites : List NetworkInvite) :
    Option (List NetworkInvite) :=
  if (invites.filter keep).isEmpty then none else some (invites.filter keep)

/-- One pass over every inbox. -/
def pruneInbox (keep : NetworkInvite → Bool)
    (inbox : GoMap NodeId (List NetworkInvite)) :
    GoMap NodeId (List NetworkInvite) :=
  inbox.filterMap fun _ invites => keepInvites keep invites

/-- The same on the inbox of one node. -/
def pruneOwnInbox (nodeID : NodeId) (keep : NetworkInvite → Bool)
    (inbox : GoMap NodeId (List NetworkInvite)) :
    GoMap NodeId (List NetworkInvite) :=
  match inbox.get nodeID with
  | none => inbox
  | some invites =>
    match keepInvites keep invites with
    | none => inbox.del nodeID
    | some rest => inbox.set nodeID rest

/-- What leaving and being kicked do to the inboxes: the node's own invites
to the network go, and so do the invites to it that the node sent. -/
def dropMemberInvites (s : Server) (nodeID : NodeId) (netID : NetId) : Server :=
  let own := pruneOwnInbox nodeID (fun inv => inv.networkID ≠ netID)
    s.inviteInbox
  { s with inviteInbox := pruneInbox (fun inv =>
      !(inv.networkID = netID && inv.inviterID = nodeID)) own }

/-- `InviteTTL`: thirty days. -/
def inviteTTL : Int := 30 * 24 * 3600 * second

/-- `MaxInviteInbox`. -/
def maxInviteInbox : Nat := 100

/-- The invite is older than `inviteTTL`. -/
def expired (now : Time) (inv : NetworkInvite) : Bool :=
  now - inv.timestamp > inviteTTL

/-! ## Kept roles -/

/-- The role a pre-assignment's text stands for. -/
def blueprintRole (text : String) : Role :=
  if text = "owner" then .owner
  else if text = "admin" then .admin
  else .member

/-- The role kept in `netID` for the node's external identity. -/
def preAssignedRole (E : Env) (s : Server) (netID : NetId) (nodeID : NodeId) : Option Role := do
  let roles ← s.rbacPreAssign.get netID
  let node ← s.nodes.get nodeID
  if node.externalID = "" then none
  else
    let entry ← roles.find? fun r => E.equalFold r.externalID node.externalID
    return blueprintRole entry.role

/-- `ApplyRBACPreAssignment`. -/
def applyRBACPreAssignment (E : Env) (s : Server) (netID : NetId)
    (nodeID : NodeId) : Server :=
  match preAssignedRole E s netID nodeID with
  | none => s
  | some role =>
    { s with networks := s.networks.modify netID fun net =>
        setRole net nodeID role }

/-! ## Checks the handlers share -/

/-- A handler's signature check with the admin token as a way around it.
The signature's error is the one reported. -/
def signedOrAdmin (E : Env) (node : NodeInfo) (msg : Msg)
    (challenge : String) : Except String Unit :=
  match verifyNodeSignature E (some node.publicKey) E.adminToken msg challenge with
  | .ok _ => .ok ()
  | .error e => require (requireAdminToken E msg).isOk e

/-- The network under `netID`, or the error that it is not there. -/
def getNetwork (s : Server) (netID : NetId) : Except String NetworkInfo :=
  orFail (s.networks.get netID) (networkNotFound netID)

/-- The membership limit of a network's policy. -/
def belowLimit (net : NetworkInfo) : Bool :=
  !(net.policy.maxMembers > 0 && (net.members.length : Int) ≥ net.policy.maxMembers)

/-- Whether another network already has the name. -/
def nameTaken (s : Server) (except : Option NetId) (name : String) : Bool :=
  s.networks.any fun id net => decide (some id ≠ except) && net.name = name

@[simp] theorem getNetwork_eq_ok (s : Server) (netID : NetId)
    (net : NetworkInfo) :
    getNetwork s netID = .ok net ↔ s.networks.get netID = some net := by
  simp [getNetwork]

theorem signedOrAdmin_ok (E : Env) (node : NodeInfo) (msg : Msg)
    (challenge : String) :
    signedOrAdmin E node msg challenge = .ok () ↔
      (msg.str "signature" ≠ "" ∧ SignedBy E node.publicKey msg challenge) ∨
        HasAdminToken E msg := by
  rw [← verifyNodeSignature_ok E node.publicKey E.adminToken, ← requireAdminToken_ok]
  unfold signedOrAdmin
  cases verifyNodeSignature E (some node.publicKey) E.adminToken msg challenge with
  | ok u => simp
  | error e => simp

end Rendezvous.Membership

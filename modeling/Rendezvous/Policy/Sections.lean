import Rendezvous.Policy.RoleGate

/-!
# Role-gated commands in sections

A command behind the role gate takes the lock several times: the gate reads
the network's token, looks the network up again and reads the role, the
enterprise gate reads the flag, a policy command reads the policy, and the
last section makes the change. `Gated.at_once` says that the sections, run
on one state, are the handler.
-/

namespace Rendezvous.Policy

open Base Registry Authz Rendezvous.Membership

/-- The arguments a handler checks before the gate. -/
def Gated.checkArgs (msg : Msg) : Gated → Except String Unit
  | deleteNetwork => require (msg.jsonUint16 "network_id" ≠ 0)
      "cannot delete the backbone network"
  | renameNetwork => require (msg.jsonUint16 "network_id" ≠ 0)
      "cannot rename the backbone network"
  | kickMember => require (msg.jsonUint16 "network_id" ≠ 0)
      "cannot kick from the backbone network"
  | transferOwnership _ => require (msg.jsonUint32 "new_owner_id" ≠ 0)
      "new_owner_id is required"
  | _ => .ok ()

/-- The fields a handler checks between the gate and the lock. -/
def Gated.checkFields (msg : Msg) : Gated → Except String Unit
  | renameNetwork => validateNetworkName (msg.str "name")
  | setMemberTags => do
    let tags := msg.strings "tags"
    require (tags.length ≤ 10) "too many member tags (max 10)"
    requireAll validateTag tags
  | _ => .ok ()

/-- The command has an enterprise gate. -/
def Gated.enterprise : Gated → Bool
  | kickMember | promoteMember | demoteMember | transferOwnership _
  | setNetworkPolicy => true
  | _ => false

/-- The read of a policy command. The others have none. -/
def Gated.read (E : Env) (s : Server) (msg : Msg) : Gated → Option (Except String PolicyWrite)
  | setNetworkPolicy => some (readNetworkPolicy s msg)
  | setExprPolicy => some (readExprPolicy E s msg)
  | _ => none

/-- What a command does after its gates. -/
def Gated.commit (E : Env) (s : Server) (msg : Msg) : Gated → Except String Outcome
  | deleteNetwork => commitDelete s msg
  | renameNetwork => commitRename s msg
  | kickMember => commitKick s msg
  | promoteMember => commitRole s msg "promote" .admin "an admin"
  | demoteMember => commitRole s msg "demote" .member "a member"
  | transferOwnership order => commitTransfer order s msg
  | setMemberTags => commitTags s msg
  | setNetworkPolicy => readNetworkPolicy s msg >>= writePolicy s msg
  | setExprPolicy => readExprPolicy E s msg >>= writePolicy s msg

/-! ## The sections make the handler -/

/-- Run on one state, the sections of a command do what its handler does. -/
theorem Gated.at_once (E : Env) (s : Server) (msg : Msg) (c : Gated) : c.run E s msg = (do
      c.checkArgs msg
      requireNetworkRole E s msg (msg.jsonUint16 "network_id") c.allowed
      c.checkFields msg
      if c.enterprise then requireEnterprise s (msg.jsonUint16 "network_id") else .ok ()
      c.commit E s msg) := by
  cases c with
  | setMemberTags =>
    simp only [Gated.run, handleSetMemberTags, Gated.checkFields, bind_assoc]
    rfl
  | _ => rfl

end Rendezvous.Policy

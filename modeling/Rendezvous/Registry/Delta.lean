import Rendezvous.Registry.Env

/-!
# Deltas and handler results

A low-frequency mutation records a delta in the write-ahead log, next to
its change of memory. `Delta` is the payload of an entry together with its
type. A time that the payload carries as RFC 3339 text is the moment that
text denotes, or `none` where the text is absent or cannot be read.
-/

namespace Rendezvous.Registry

/-- What recreates the registration of a new node. -/
structure RegisterDelta where
  nodeID : NodeId
  owner : String := ""
  publicKey : String
  realAddr : String := ""
  hostname : String := ""
  lanAddrs : List String := []
  version : String := ""
  createdAt : Option Time := none
  deriving DecidableEq

/-- The parameters of a new network. -/
structure NetworkCreateDelta where
  networkID : NetId
  name : String
  joinRule : String
  token : String := ""
  adminToken : String := ""
  enterprise : Bool := false
  creatorNodeID : NodeId := 0
  createdAt : Option Time := none
  deriving DecidableEq

/-- What carries a key rotation over a crash. -/
structure KeyRotationDelta where
  nodeID : NodeId
  newPublicKey : String
  rotatedAt : Option Time := none
  clearBadge : Bool := false
  deriving DecidableEq

/-- One recorded mutation. -/
inductive Delta where
  | register (d : RegisterDelta)
  | deregister (nodeID : NodeId)
  | networkCreate (d : NetworkCreateDelta)
  | networkDelete (networkID : NetId)
  | networkJoin (nodeID : NodeId) (networkID : NetId)
  | networkLeave (nodeID : NodeId) (networkID : NetId)
  | keyRotation (d : KeyRotationDelta)
  deriving DecidableEq

/-- What a successful handler leaves behind: the new state, the response,
and the deltas it recorded, in order. -/
structure Outcome where
  server : Server
  resp : Resp
  wal : List Delta := []

end Rendezvous.Registry

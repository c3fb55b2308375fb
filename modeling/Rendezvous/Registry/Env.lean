import Rendezvous.Base.Base64
import Rendezvous.Registry.State

/-!
# What the registry is given

`Env` collects what the handlers call but this repository does not
define: signature verification, the key and rules parsers of the common
library, address formatting, and the operator's configuration. Signature
checks are uninterpreted predicates. The two laws kept as fields say what
the key parser is: base64, and a check on the bytes it gives.
-/

namespace Rendezvous.Registry

open Base

/-- A recovery statement whose signature and expiry were accepted. -/
structure Recovery where
  nodeID : NodeId
  newPubKey : String
  commitment : String
  nonce : String
  /-- Expiry, in seconds since 1970. -/
  exp : Int
  deriving DecidableEq

/-- An enrollment statement whose signature was accepted. -/
structure Enrollment where
  nodeID : NodeId
  commitment : String
  provider : String
  deriving DecidableEq

/-- The part of an expression-policy document its checks read. -/
structure ExprHeader where
  version : Int
  /-- The raw text of the `rules` member, empty when absent. -/
  rules : String
  deriving DecidableEq

/-- The libraries and the configuration a registry runs with. -/
structure Env where
  /-- The global admin token; empty when administration is disabled. -/
  adminToken : String
  /-- Limit on registered nodes; no limit when not positive. -/
  maxNodes : Int
  /-- Whether an unsigned registration is refused. -/
  strictRegistrationAuth : Bool
  /-- `protocol.Version`. -/
  protocolVersion : Nat
  /-- `crypto.Verify`: key, message, signature. -/
  verify : Bytes → Bytes → Bytes → Bool
  /-- `authz.VerifyCached`, as it answers the call being handled. -/
  verifyCached : Bytes → Bytes → Bytes → Bool
  /-- `crypto.DecodePublicKey`. -/
  decodePublicKey : String → Option Bytes
  /-- `protocol.Addr.String`. -/
  addrString : NetId → NodeId → String
  /-- `sanitizeListenAddr`: observed address, reported address. -/
  sanitizeListenAddr : String → String → String
  /-- `wire.ParseRules`. -/
  parseRules : String → Except String NetworkRules
  /-- `json.Marshal` of a decoded object. -/
  marshal : List (String × Json) → String
  /-- `json.Unmarshal` of a policy document into its checked header. -/
  exprHeader : String → Except String ExprHeader
  /-- `strings.EqualFold`. -/
  equalFold : String → String → Bool
  /-- The identity token check, when a provider is configured. -/
  verifyToken : Option (String → Except String String)
  /-- `verifyRecovery`: statement, signature. -/
  verifyRecovery : String → String → Except String Recovery
  /-- `verifyEnrollment`: statement, signature. -/
  verifyEnrollment : String → String → Except String Enrollment
  decodePublicKey_decode : ∀ {t k}, decodePublicKey t = some k → Base64.decode t = some k
  decodePublicKey_encode : ∀ {t k}, decodePublicKey t = some k →
    decodePublicKey (Base64.encode k) = some k

/-- `[]byte(s)`. -/
def utf8 (s : String) : Bytes := s.toUTF8.data.toList

/-- The moment a time formatted with `time.RFC3339` denotes. -/
def rfc3339 (t : Time) : Time := t / second * second

theorem rfc3339_idem (t : Time) : rfc3339 (rfc3339 t) = rfc3339 t := by
  unfold rfc3339 second
  rw [Int.mul_ediv_cancel _ (by decide)]

theorem rfc3339_zeroTime : rfc3339 zeroTime = zeroTime := by decide

/-! ## An environment to run the model in -/

/-- A registry with admin token `secret` whose signature checks accept
nothing. Runs of the model on fixed inputs start from it. -/
def Env.plain : Env where
  adminToken := "secret"
  maxNodes := 0
  strictRegistrationAuth := false
  protocolVersion := 1
  verify := fun _ _ _ => false
  verifyCached := fun _ _ _ => false
  decodePublicKey := Base64.decode
  addrString := fun net node => s!"{net}:{node}"
  sanitizeListenAddr := fun observed reported =>
    if reported = "" then observed else reported
  parseRules := fun text => .ok ⟨text⟩
  marshal := fun _ => ""
  exprHeader := fun _ => .ok ⟨1, "[]"⟩
  equalFold := fun a b => a = b
  verifyToken := none
  verifyRecovery := fun _ _ => .error "no recovery key"
  verifyEnrollment := fun _ _ => .error "no badge key"
  decodePublicKey_decode := id
  decodePublicKey_encode := fun _ => Base64.decode_encode _

end Rendezvous.Registry

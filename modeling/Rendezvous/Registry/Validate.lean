import Rendezvous.Registry.Env

/-!
# Names and tags

Network names, hostnames and tags share one shape: lower-case letters,
digits and hyphens, with a letter or digit at either end.
-/

namespace Rendezvous.Registry

open Base

/-- `[a-z0-9]`. -/
def isAlnum (c : Char) : Bool :=
  ('a' ≤ c && c ≤ 'z') || ('0' ≤ c && c ≤ '9')

/-- `^[a-z0-9]([a-z0-9-]{0,mid}[a-z0-9])?$`. -/
def labelRegex (mid : Nat) (s : String) : Bool :=
  match s.toList with
  | [] => false
  | c :: cs => isAlnum c &&
      match cs.getLast? with
      | none => true
      | some d => isAlnum d && cs.dropLast.length ≤ mid &&
          cs.dropLast.all fun x => isAlnum x || x == '-'

/-- The checks that network names and hostnames share, in order: length,
shape, reserved names. `what` is the noun of the error texts. -/
def validateLabel (what : String) (reserved : List String) (name : String) :
    Except String Unit := do
  require (name.utf8ByteSize ≤ 63) s!"{what} too long (max 63 chars)"
  require (labelRegex 61 name)
    s!"{what} must be lowercase alphanumeric with hyphens, start/end with alphanumeric"
  let quoted := name.quote
  require (!reserved.contains name) s!"{what} {quoted} is reserved"

/-- `ValidateNetworkName`: an empty name is refused. -/
def validateNetworkName (name : String) : Except String Unit := do
  require (name ≠ "") "network name required"
  validateLabel "network name" ["backbone"] name

/-- `ValidateHostname`: an empty hostname is accepted. -/
def validateHostname (name : String) : Except String Unit :=
  if name = "" then .ok ()
  else validateLabel "hostname" ["localhost", "backbone", "broadcast"] name

/-- The check of one member tag. -/
def validateTag (t : String) : Except String Unit := do
  require (t ≠ "") "empty tag not allowed"
  let quoted := t.quote
  require (labelRegex 30 t)
    s!"tag {quoted} must be lowercase alphanumeric with hyphens"

example : validateNetworkName "lab-7" = .ok () := by decide

example : (validateNetworkName "-lab").isOk = false := by decide

end Rendezvous.Registry

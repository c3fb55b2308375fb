import Mathlib.Data.Rat.Floor
import Rendezvous.Base.Fallible

/-!
# Messages

A request is a decoded JSON object and a response is another. A handler
reads a field by asserting its type: a field that is absent, or that holds
a value of another type, reads as the zero value of the type asked for.
Numbers arrive as `float64`, so a JSON number is a rational here, and the
two integer readers of most packages truncate it and answer zero outside
their range. A plain conversion does not look at the range: `toInt64`.
-/

namespace Rendezvous.Registry

/-- A node's identifier. -/
abbrev NodeId := UInt32

/-- A network's identifier. The backbone is network `0`. -/
abbrev NetId := UInt16

/-- A decoded JSON value. -/
inductive Json where
  | null
  | bool (b : Bool)
  | num (v : Rat)
  | str (s : String)
  | arr (xs : List Json)
  | obj (fields : List (String × Json))

/-- A decoded request: its fields, at most one under each name. -/
abbrev Msg := List (String × Json)

/-- A response: the fields it carries. -/
abbrev Resp := List (String × Json)

namespace Msg

/-- The value of a field. -/
def field (msg : Msg) (key : String) : Option Json := List.lookup key msg

/-- `v, ok := msg[key].(string)`. -/
def str? (msg : Msg) (key : String) : Option String :=
  match field msg key with
  | some (.str s) => some s
  | _ => none

/-- `v, _ := msg[key].(string)`. -/
def str (msg : Msg) (key : String) : String := (str? msg key).getD ""

/-- `v, _ := msg[key].(bool)`. -/
def bool (msg : Msg) (key : String) : Bool :=
  match field msg key with
  | some (.bool b) => b
  | _ => false

/-- `v, ok := msg[key].(float64)`. -/
def num? (msg : Msg) (key : String) : Option Rat :=
  match field msg key with
  | some (.num v) => some v
  | _ => none

/-- `v, ok := msg[key].([]interface{})`. -/
def arr? (msg : Msg) (key : String) : Option (List Json) :=
  match field msg key with
  | some (.arr xs) => some xs
  | _ => none

/-- `v, ok := msg[key].(map[string]interface{})`. -/
def obj? (msg : Msg) (key : String) : Option (List (String × Json)) :=
  match field msg key with
  | some (.obj fields) => some fields
  | _ => none

/-- A number cut to an integer between `0` and `max`; zero when it is
outside that range. -/
def clampNat (max : Nat) (v : Rat) : Nat :=
  if v < 0 ∨ (max : Rat) < v then 0 else v.floor.toNat

/-- `jsonUint32`. -/
def jsonUint32 (msg : Msg) (key : String) : NodeId :=
  match num? msg key with
  | some v => UInt32.ofNat (clampNat 4294967295 v)
  | none => 0

/-- `jsonUint16`. -/
def jsonUint16 (msg : Msg) (key : String) : NetId :=
  match num? msg key with
  | some v => UInt16.ofNat (clampNat 65535 v)
  | none => 0

/-- The strings among the elements of an array field; the others are
passed over. -/
def strings (msg : Msg) (key : String) : List String :=
  ((arr? msg key).getD []).filterMap fun
    | .str s => some s
    | _ => none

end Msg

/-- A number without its fraction. -/
def truncRat (v : Rat) : Int := if v < 0 then -((-v).floor) else v.floor

/-- The numbers of type `int64`. -/
def FitsInt64 (n : Int) : Prop := -2 ^ 63 ≤ n ∧ n < 2 ^ 63

instance (n : Int) : Decidable (FitsInt64 n) := inferInstanceAs (Decidable (_ ∧ _))

/-- `int64(v)`: the fraction is dropped. A number that does not fit becomes
the least one, as it does on amd64. -/
def toInt64 (v : Rat) : Int := if FitsInt64 (truncRat v) then truncRat v else -2 ^ 63

/-- A node id as a JSON number. -/
def Json.node (n : NodeId) : Json := .num n.toNat

/-- A network id as a JSON number. -/
def Json.net (n : NetId) : Json := .num n.toNat

end Rendezvous.Registry

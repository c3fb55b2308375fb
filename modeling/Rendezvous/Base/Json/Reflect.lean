import Rendezvous.Base.Json.Tree
import Rendezvous.Base.Entries

/-!
# How `encoding/json` writes a value

The reflective encoder walks a Go value: the fields of a struct in the order
of their declaration, without those that are empty and tagged `omitempty`;
the entries of a map in the order of their keys; and what a `Marshaler`
returns, checked and without its white space. It fails on a number that is
not finite and on a `Marshaler` that fails or returns no JSON
(`encodeTree_isSome`), and a failed `Encode` writes nothing.
-/

namespace Rendezvous.Base.Json

/-- The bytes of a string constant. -/
def bytes (s : String) : Text := utf8 s.toList

-- Texts are ordered byte by byte.
instance : IsTrans Text (· ≤ ·) := inferInstance
instance : Std.Antisymm (fun a b : Text => a ≤ b) := inferInstance
instance : Std.Total (fun a b : Text => a ≤ b) := inferInstance

/-- A Go value as the encoder sees it. -/
inductive Value where
  /-- A nil slice, map, pointer or interface. -/
  | null
  | bool (b : Bool)
  /-- An integer of any width. -/
  | int (n : Int)
  /-- A floating-point number: whether it is zero, and its literal when it is
  finite. -/
  | float (zero : Bool) (lit : Option NumLit)
  | string (s : Text)
  | slice (items : List Value)
  | array (items : List Value)
  /-- A map that is not nil: its entries in the order the iteration gives,
  under the texts of their keys. -/
  | map (entries : List (Text × Value))
  /-- A pointer or an interface that is not nil. -/
  | ptr (v : Value)
  /-- Each field's name, whether it is tagged `omitempty`, and its value. -/
  | struct (fields : List (Text × Bool × Value))
  /-- A `json.RawMessage`, nil or not. -/
  | raw (m : Option Text)
  /-- A value of another type with a `MarshalJSON`: what the method returns,
  unless it fails. -/
  | marshaler (out : Option Text)

namespace Value

/-- `isEmptyValue`: what `omitempty` leaves out. -/
def isEmpty : Value → Bool
  | .null => true
  | .bool b => !b
  | .int n => n = 0
  | .float zero _ => zero
  | .string s => s.isEmpty
  | .slice items => items.isEmpty
  | .array items => items.isEmpty
  | .map entries => entries.isEmpty
  | .ptr _ => false
  | .struct _ => false
  | .raw m => (m.getD []).isEmpty
  | .marshaler _ => false

end Value

/-- The literal of a string, HTML escaping off. -/
def stringLit (s : Text) : StrLit := quoted (runes s)

/-- Members in ascending order of their names, as bytes. -/
def sortMembers (ms : List (Text × Tree)) : List (Text × Tree) :=
  ms.mergeSort fun a b => decide (a.1 ≤ b.1)

def namedMembers (ms : List (Text × Tree)) : List (StrLit × Tree) :=
  ms.map fun m => (stringLit m.1, m.2)

mutual

/-- The document the encoder writes for a value. -/
def encodeTree : Value → Option Tree
  | .null => some .null
  | .bool b => some (.bool b)
  | .int n => some (.num (intLit n))
  | .float _ lit => lit.map .num
  | .string s => some (.str (stringLit s))
  | .slice items => (encodeItems items).map .arr
  | .array items => (encodeItems items).map .arr
  | .map entries => (encodeEntries entries).map fun ms => .obj (namedMembers (sortMembers ms))
  | .ptr v => encodeTree v
  | .struct fields => (encodeFields fields).map .obj
  | .raw none => some .null
  | .raw (some m) => unmarshal m
  | .marshaler out => out.bind unmarshal

def encodeItems : List Value → Option (List Tree)
  | [] => some []
  | v :: vs => (encodeTree v).bind fun t => (encodeItems vs).map fun ts => t :: ts

def encodeEntries : List (Text × Value) → Option (List (Text × Tree))
  | [] => some []
  | (k, v) :: es => (encodeTree v).bind fun t => (encodeEntries es).map fun ms => (k, t) :: ms

def encodeFields : List (Text × Bool × Value) → Option (List (StrLit × Tree))
  | [] => some []
  | (name, omitempty, v) :: fs =>
    if omitempty && v.isEmpty then encodeFields fs
    else (encodeTree v).bind fun t =>
      (encodeFields fs).map fun ms => (stringLit name, t) :: ms

end

/-- `Encode`, HTML escaping off, without the final newline: an error writes
nothing. -/
def encoderOutput (v : Value) : Text := ((encodeTree v).map print).getD []

/-! ## What the encoder accepts -/

mutual

/-- No part of the value is one the encoder refuses. -/
def Value.Encodable : Value → Prop
  | .null => True
  | .bool _ => True
  | .int _ => True
  | .float _ lit => lit ≠ none
  | .string _ => True
  | .slice items => EncodableItems items
  | .array items => EncodableItems items
  | .map entries => EncodableEntries entries
  | .ptr v => v.Encodable
  | .struct fields => EncodableFields fields
  | .raw none => True
  | .raw (some m) => ∃ t, unmarshal m = some t
  | .marshaler out => ∃ m, out = some m ∧ ∃ t, unmarshal m = some t

def EncodableItems : List Value → Prop
  | [] => True
  | v :: vs => v.Encodable ∧ EncodableItems vs

def EncodableEntries : List (Text × Value) → Prop
  | [] => True
  | (_, v) :: es => v.Encodable ∧ EncodableEntries es

/-- Only the fields that are written count. -/
def EncodableFields : List (Text × Bool × Value) → Prop
  | [] => True
  | (_, omitempty, v) :: fs =>
    ((omitempty && v.isEmpty) = false → v.Encodable) ∧ EncodableFields fs

end

theorem encodableItems_iff {vs : List Value} : EncodableItems vs ↔ ∀ v ∈ vs, v.Encodable := by
  induction vs with
  | nil => simp [EncodableItems]
  | cons v vs ih => rw [EncodableItems, ih, List.forall_mem_cons]

theorem encodableEntries_iff {es : List (Text × Value)} :
    EncodableEntries es ↔ ∀ e ∈ es, e.2.Encodable := by
  induction es with
  | nil => simp [EncodableEntries]
  | cons e es ih => rw [EncodableEntries, ih, List.forall_mem_cons]

theorem isSome_bind_map {α β γ : Type} {o : Option α} {p : Option β} (f : α → β → γ) :
    (o.bind fun a => p.map fun b => f a b).isSome = true ↔ o.isSome = true ∧ p.isSome = true := by
  cases o <;> cases p <;> simp

mutual

/-- The encoder succeeds exactly on the values it accepts. -/
theorem encodeTree_isSome : ∀ v : Value, (encodeTree v).isSome = true ↔ v.Encodable
  | .null => by simp [encodeTree, Value.Encodable]
  | .bool _ => by simp [encodeTree, Value.Encodable]
  | .int _ => by simp [encodeTree, Value.Encodable]
  | .float _ lit => by simp [encodeTree, Value.Encodable, Option.isSome_iff_ne_none]
  | .string _ => by simp [encodeTree, Value.Encodable]
  | .slice items => by
    rw [encodeTree, Option.isSome_map, Value.Encodable]
    exact encodeItems_isSome items
  | .array items => by
    rw [encodeTree, Option.isSome_map, Value.Encodable]
    exact encodeItems_isSome items
  | .map entries => by
    rw [encodeTree, Option.isSome_map, Value.Encodable]
    exact encodeEntries_isSome entries
  | .ptr v => by
    rw [encodeTree, Value.Encodable]
    exact encodeTree_isSome v
  | .struct fields => by
    rw [encodeTree, Option.isSome_map, Value.Encodable]
    exact encodeFields_isSome fields
  | .raw none => by simp [encodeTree, Value.Encodable]
  | .raw (some m) => by
    rw [encodeTree, Value.Encodable]
    exact Option.isSome_iff_exists
  | .marshaler out => by
    rw [encodeTree, Value.Encodable]
    cases out with
    | none => simp
    | some m => simp [Option.isSome_iff_exists]

theorem encodeItems_isSome : ∀ vs : List Value, (encodeItems vs).isSome = true ↔ EncodableItems vs
  | [] => by simp [encodeItems, EncodableItems]
  | v :: vs => by
    rw [encodeItems, isSome_bind_map, EncodableItems, encodeTree_isSome v, encodeItems_isSome vs]

theorem encodeEntries_isSome : ∀ es : List (Text × Value),
    (encodeEntries es).isSome = true ↔ EncodableEntries es
  | [] => by simp [encodeEntries, EncodableEntries]
  | (k, v) :: es => by
    rw [encodeEntries, isSome_bind_map, EncodableEntries, encodeTree_isSome v,
      encodeEntries_isSome es]

theorem encodeFields_isSome : ∀ fs : List (Text × Bool × Value),
    (encodeFields fs).isSome = true ↔ EncodableFields fs
  | [] => by simp [encodeFields, EncodableFields]
  | (name, omitempty, v) :: fs => by
    rw [encodeFields, EncodableFields, ← encodeFields_isSome fs, ← encodeTree_isSome v]
    cases omitempty && v.isEmpty with
    | true => simp
    | false =>
      rw [if_neg Bool.false_ne_true, isSome_bind_map]
      simp

end

/-- Nothing is written exactly when the encoder fails. -/
theorem encoderOutput_eq_nil {v : Value} : encoderOutput v = [] ↔ ¬ v.Encodable := by
  rw [← encodeTree_isSome]
  unfold encoderOutput
  cases encodeTree v with
  | none => simp
  | some t =>
    obtain ⟨c, u, hprint, _⟩ := print_head t
    simp [hprint]

/-! ## Nesting -/

mutual

/-- How deep a value can be nested once written. A raw message may be as
deep as the decoder allows. -/
def Value.height : Value → Nat
  | .slice items => heightItems items + 1
  | .array items => heightItems items + 1
  | .map entries => heightEntries entries + 1
  | .ptr v => v.height
  | .struct fields => heightFields fields + 1
  | .raw _ => maxNestingDepth
  | .marshaler _ => maxNestingDepth
  | _ => 0

def heightItems : List Value → Nat
  | [] => 0
  | v :: vs => max v.height (heightItems vs)

def heightEntries : List (Text × Value) → Nat
  | [] => 0
  | (_, v) :: es => max v.height (heightEntries es)

def heightFields : List (Text × Bool × Value) → Nat
  | [] => 0
  | (_, _, v) :: fs => max v.height (heightFields fs)

end

theorem heightItems_le {n : Nat} {vs : List Value} :
    heightItems vs ≤ n ↔ ∀ v ∈ vs, v.height ≤ n := by
  induction vs with
  | nil => simp [heightItems]
  | cons v vs ih => rw [heightItems, Nat.max_le, ih, List.forall_mem_cons]

theorem heightEntries_le {n : Nat} {es : List (Text × Value)} :
    heightEntries es ≤ n ↔ ∀ e ∈ es, e.2.height ≤ n := by
  induction es with
  | nil => simp [heightEntries]
  | cons e es ih => rw [heightEntries, Nat.max_le, ih, List.forall_mem_cons]

theorem unmarshal_depth {m : Text} {t : Tree} (h : unmarshal m = some t) :
    t.depth ≤ maxNestingDepth := by
  unfold unmarshal at h
  exact of_decide_eq_true (Option.filter_eq_some_iff.mp h).2

/-- Sorting and quoting the names leaves the values. -/
theorem depthMembers_named {n : Nat} {ms : List (Text × Tree)} (h : ∀ m ∈ ms, m.2.depth ≤ n) :
    depthMembers (namedMembers (sortMembers ms)) ≤ n := by
  rw [depthMembers_le]
  intro m hm
  obtain ⟨p, hp, rfl⟩ := List.mem_map.mp hm
  exact h p (List.mem_mergeSort.mp hp)

mutual

theorem depth_le_height : ∀ (v : Value) {t : Tree}, encodeTree v = some t → t.depth ≤ v.height
  | .null, t, h => by
    rw [encodeTree] at h
    cases h
    exact Nat.zero_le _
  | .bool b, t, h => by
    rw [encodeTree] at h
    cases h
    exact Nat.zero_le _
  | .int n, t, h => by
    rw [encodeTree] at h
    cases h
    exact Nat.zero_le _
  | .float _ lit, t, h => by
    rw [encodeTree] at h
    obtain ⟨l, _, rfl⟩ := Option.map_eq_some_iff.mp h
    exact Nat.zero_le _
  | .string s, t, h => by
    rw [encodeTree] at h
    cases h
    exact Nat.zero_le _
  | .slice items, t, h => by
    rw [encodeTree] at h
    obtain ⟨ts, hts, rfl⟩ := Option.map_eq_some_iff.mp h
    rw [Tree.depth, Value.height]
    exact Nat.succ_le_succ (depth_le_heightItems items hts)
  | .array items, t, h => by
    rw [encodeTree] at h
    obtain ⟨ts, hts, rfl⟩ := Option.map_eq_some_iff.mp h
    rw [Tree.depth, Value.height]
    exact Nat.succ_le_succ (depth_le_heightItems items hts)
  | .map entries, t, h => by
    rw [encodeTree] at h
    obtain ⟨ms, hms, rfl⟩ := Option.map_eq_some_iff.mp h
    rw [Tree.depth, Value.height]
    exact Nat.succ_le_succ (depthMembers_named (depth_le_heightEntries entries hms))
  | .ptr v, t, h => by
    rw [encodeTree] at h
    rw [Value.height]
    exact depth_le_height v h
  | .struct fields, t, h => by
    rw [encodeTree] at h
    obtain ⟨ms, hms, rfl⟩ := Option.map_eq_some_iff.mp h
    rw [Tree.depth, Value.height]
    exact Nat.succ_le_succ (depth_le_heightFields fields hms)
  | .raw none, t, h => by
    rw [encodeTree] at h
    cases h
    exact Nat.zero_le _
  | .raw (some m), t, h => by
    rw [encodeTree] at h
    rw [Value.height]
    exact unmarshal_depth h
  | .marshaler out, t, h => by
    rw [encodeTree] at h
    obtain ⟨m, _, hm⟩ := Option.bind_eq_some_iff.mp h
    rw [Value.height]
    exact unmarshal_depth hm

theorem depth_le_heightItems : ∀ (vs : List Value) {ts : List Tree},
    encodeItems vs = some ts → depthItems ts ≤ heightItems vs
  | [], ts, h => by
    rw [encodeItems] at h
    cases h
    exact Nat.zero_le _
  | v :: vs, ts, h => by
    rw [encodeItems] at h
    obtain ⟨t, ht, h⟩ := Option.bind_eq_some_iff.mp h
    obtain ⟨us, hus, rfl⟩ := Option.map_eq_some_iff.mp h
    rw [depthItems, heightItems]
    exact max_le_max (depth_le_height v ht) (depth_le_heightItems vs hus)

theorem depth_le_heightEntries : ∀ (es : List (Text × Value)) {ms : List (Text × Tree)},
    encodeEntries es = some ms → ∀ m ∈ ms, m.2.depth ≤ heightEntries es
  | [], ms, h => by
    rw [encodeEntries] at h
    cases h
    simp
  | (k, v) :: es, ms, h => by
    rw [encodeEntries] at h
    obtain ⟨t, ht, h⟩ := Option.bind_eq_some_iff.mp h
    obtain ⟨ns, hns, rfl⟩ := Option.map_eq_some_iff.mp h
    rw [heightEntries, List.forall_mem_cons]
    exact ⟨(depth_le_height v ht).trans (Nat.le_max_left _ _), fun m hm =>
      (depth_le_heightEntries es hns m hm).trans (Nat.le_max_right _ _)⟩

theorem depth_le_heightFields : ∀ (fs : List (Text × Bool × Value)) {ms : List (StrLit × Tree)},
    encodeFields fs = some ms → depthMembers ms ≤ heightFields fs
  | [], ms, h => by
    rw [encodeFields] at h
    cases h
    exact Nat.zero_le _
  | (name, omitempty, v) :: fs, ms, h => by
    rw [encodeFields] at h
    rw [heightFields]
    split at h
    · exact (depth_le_heightFields fs h).trans (Nat.le_max_right _ _)
    · obtain ⟨t, ht, h⟩ := Option.bind_eq_some_iff.mp h
      obtain ⟨ns, hns, rfl⟩ := Option.map_eq_some_iff.mp h
      rw [depthMembers]
      exact max_le_max (depth_le_height v ht) (depth_le_heightFields fs hns)

end

theorem encoderOutput_of_some {v : Value} {t : Tree} (h : encodeTree v = some t) :
    encoderOutput v = print t := by
  unfold encoderOutput
  rw [h]
  rfl

end Rendezvous.Base.Json

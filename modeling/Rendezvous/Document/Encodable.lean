import Rendezvous.Document.Types

/-!
# What `encoding/json` refuses in a snapshot

Most of a snapshot can always be encoded. The exceptions are the times of
the inboxes, the programmable policies, which are kept as raw JSON, and the
values of other modules.
-/

namespace Rendezvous.Document

open Base Base.Json

/-! ## Containers -/

section containers

variable {α : Type} (P : α → Prop)

def Slice.All (s : Slice α) : Prop := ∀ a ∈ s.getD [], P a

def Table.All (m : Table α) : Prop := ∀ k a, (m.getD ∅).get k = some a → P a

def Ptr.All (p : Ptr α) : Prop := ∀ a, p = some a → P a

end containers

section reflection

variable {α : Type} {f : α → Value} {P : α → Prop} (h : ∀ a, (f a).Encodable ↔ P a)

include h

theorem Slice.encodable_iff (s : Slice α) : (s.reflect f).Encodable ↔ s.All P := by
  cases s with
  | none => simp [Slice.reflect, Value.Encodable, Slice.All]
  | some items =>
    rw [Slice.reflect, Value.Encodable, encodableItems_iff, List.forall_mem_map]
    exact forall₂_congr fun a _ => h a

theorem Table.encodable_iff (m : Table α) : (m.reflect f).Encodable ↔ m.All P := by
  cases m with
  | none => simp [Table.reflect, Value.Encodable, Table.All]
  | some m =>
    rw [Table.reflect, Value.Encodable, encodableEntries_iff, List.forall_mem_map]
    constructor
    · intro hall k a ha
      exact (h a).mp (hall (k, a) (GoMap.mem_sorted.mpr ha))
    · intro hall e he
      exact (h e.2).mpr (hall e.1 e.2 (GoMap.mem_sorted.mp he))

theorem Ptr.encodable_iff (p : Ptr α) : (p.reflect f).Encodable ↔ p.All P := by
  cases p with
  | none => simp [Ptr.reflect, Value.Encodable, Ptr.All]
  | some a =>
    rw [Ptr.reflect, Value.Encodable, h]
    exact ⟨fun ha _ heq => Option.some.inj heq ▸ ha, fun hall => hall a rfl⟩

end reflection

section omitted

variable {α : Type} {f : α → Value} {P : α → Prop} (h : ∀ a, (f a).Encodable ↔ P a)

include h

/-- An empty table has nothing that could be refused, so it does not matter
that it is left out. -/
theorem Table.field_iff (m : Table α) :
    ((true && (m.reflect f).isEmpty) = false → (m.reflect f).Encodable) ↔ m.All P := by
  rw [Table.encodable_iff h]
  refine ⟨fun hall k a ha => ?_, fun hall _ => hall⟩
  refine hall ?_ k a ha
  match m, ha with
  | some m, ha =>
    have hmem : (k, a) ∈ m.sorted := GoMap.mem_sorted.mpr ha
    rw [Table.reflect, Value.isEmpty, Bool.true_and, List.isEmpty_eq_false_iff, ne_eq,
      List.map_eq_nil_iff]
    exact List.ne_nil_of_mem hmem

theorem Ptr.field_iff (p : Ptr α) :
    ((true && (p.reflect f).isEmpty) = false → (p.reflect f).Encodable) ↔ p.All P := by
  rw [Ptr.encodable_iff h]
  cases p with
  | none => simp [Ptr.All]
  | some a => simp [Ptr.reflect, Value.isEmpty]

end omitted

section always

variable {α : Type} {f : α → Value}

theorem Slice.encodable (h : ∀ a, (f a).Encodable) (s : Slice α) : (s.reflect f).Encodable :=
  (Slice.encodable_iff (fun a => iff_true_intro (h a)) s).mpr fun _ _ => trivial

theorem Table.encodable (h : ∀ a, (f a).Encodable) (m : Table α) : (m.reflect f).Encodable :=
  (Table.encodable_iff (fun a => iff_true_intro (h a)) m).mpr fun _ _ _ => trivial

theorem Ptr.encodable (h : ∀ a, (f a).Encodable) (p : Ptr α) : (p.reflect f).Encodable :=
  (Ptr.encodable_iff (fun a => iff_true_intro (h a)) p).mpr fun _ _ => trivial

end always

/-- A value of another module. -/
theorem encodable_any (v : Value) : ((fun v => v) v).Encodable ↔ v.Encodable := Iff.rfl

theorem encodable_int (n : Int) : (Value.int n).Encodable := by rw [Value.Encodable]; trivial

theorem encodable_string (s : Text) : (Value.string s).Encodable := by
  rw [Value.Encodable]; trivial

theorem encodable_uint16 (n : UInt16) : (reflectUint16 n).Encodable := encodable_int _

theorem encodable_uint32 (n : UInt32) : (reflectUint32 n).Encodable := encodable_int _

theorem encodable_interval (i : Int × Int) : (reflectInterval i).Encodable := by
  simp [reflectInterval, Value.Encodable, EncodableItems]

/-- A raw message that is left out when it is empty. -/
theorem raw_field_iff (m : Option Text) :
    ((true && (Value.raw m).isEmpty) = false → (Value.raw m).Encodable) ↔
      m.getD [] = [] ∨ ∃ t, unmarshal (m.getD []) = some t := by
  match m with
  | none => simp [Value.isEmpty]
  | some [] => simp [Value.isEmpty]
  | some (b :: m) => simp [Value.isEmpty, Value.Encodable]

/-! ## Records that can always be encoded -/

theorem NetworkPolicy.encodable (p : NetworkPolicy) : p.reflect.Encodable := by
  simp [NetworkPolicy.reflect, Value.Encodable, EncodableFields, Slice.encodable encodable_uint16]

theorem ProbeState.encodable (p : ProbeState) : p.reflect.Encodable := by
  simp [ProbeState.reflect, Value.Encodable, EncodableFields, Slice.encodable encodable_interval]

theorem StatsSample.encodable (s : StatsSample) : s.reflect.Encodable := by
  simp [StatsSample.reflect, Value.Encodable, EncodableFields]

theorem NetworkSampleEntry.encodable (e : NetworkSampleEntry) : e.reflect.Encodable := by
  simp [NetworkSampleEntry.reflect, Value.Encodable, EncodableFields, encodable_uint16]

theorem AuditEntry.encodable (e : AuditEntry) : e.reflect.Encodable := by
  simp [AuditEntry.reflect, Value.Encodable, EncodableFields, encodable_uint16, encodable_uint32]

/-! ## The others -/

/-- The time has an RFC 3339 text. -/
def Time.Encodable (t : Time) : Prop := t.rfc3339 ≠ none

theorem Time.encodable_iff (t : Time) : t.reflect.Encodable ↔ t.Encodable := by
  obtain ⟨stamp⟩ := t
  cases stamp with
  | none => simp [Time.reflect, Value.Encodable, Time.Encodable]
  | some lit => simp [Time.reflect, Value.Encodable, Time.Encodable, unmarshal_print, Tree.depth]

/-- The programmable policy is JSON and the rules can be encoded. -/
structure SnapshotNet.Encodable (n : SnapshotNet) : Prop where
  exprPolicy : n.exprPolicy.getD [] = [] ∨ ∃ t, unmarshal (n.exprPolicy.getD []) = some t
  rules : n.rules.All Value.Encodable

theorem SnapshotNet.encodable_iff (n : SnapshotNet) : n.reflect.Encodable ↔ n.Encodable := by
  simp only [SnapshotNet.reflect, Value.Encodable, EncodableFields, encodable_uint16,
    Slice.encodable encodable_uint32, Table.encodable encodable_string,
    Table.encodable (Slice.encodable encodable_string), Ptr.encodable NetworkPolicy.encodable,
    raw_field_iff, Ptr.field_iff encodable_any, implies_true, true_and, and_true]
  exact ⟨fun h => ⟨h.2, h.1⟩, fun h => ⟨h.rules, h.exprPolicy⟩⟩

theorem HandshakeRelayMsg.encodable_iff (m : HandshakeRelayMsg) :
    m.reflect.Encodable ↔ m.timestamp.Encodable := by
  simp [HandshakeRelayMsg.reflect, Value.Encodable, EncodableFields, encodable_uint32,
    Time.encodable_iff]

theorem HandshakeResponseMsg.encodable_iff (m : HandshakeResponseMsg) :
    m.reflect.Encodable ↔ m.timestamp.Encodable := by
  simp [HandshakeResponseMsg.reflect, Value.Encodable, EncodableFields, encodable_uint32,
    Time.encodable_iff]

theorem NetworkInvite.encodable_iff (i : NetworkInvite) :
    i.reflect.Encodable ↔ i.timestamp.Encodable := by
  simp [NetworkInvite.reflect, Value.Encodable, EncodableFields, encodable_uint16,
    encodable_uint32, Time.encodable_iff]

/-- Nothing in the snapshot is refused: every time has its text, every
programmable policy is JSON, and so on through the values of other
modules. -/
structure Snapshot.Encodable (s : Snapshot) : Prop where
  networks : s.networks.All (Ptr.All SnapshotNet.Encodable)
  handshakeInbox : s.handshakeInbox.All (Slice.All (Ptr.All fun m => m.timestamp.Encodable))
  handshakeResponses : s.handshakeResponses.All (Slice.All (Ptr.All fun m => m.timestamp.Encodable))
  inviteInbox : s.inviteInbox.All (Slice.All (Ptr.All fun i => i.timestamp.Encodable))
  idpConfig : s.idpConfig.All Value.Encodable
  auditExportCfg : s.auditExportCfg.All Value.Encodable
  rbacPreAssign : s.rbacPreAssign.All (Slice.All Value.Encodable)

end Rendezvous.Document

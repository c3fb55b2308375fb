import Rendezvous.Document.Encodable
import Rendezvous.Base.Json.Writer

/-!
# The encoder of the snapshot

`AppendSnapshot` writes the snapshot by hand, the hot collections without
`encoding/json` and the others through it, one value at a time. `Snapshot`
as the reflective encoder sees it, and the condition on which the two agree.
-/

namespace Rendezvous.Document

open Base Base.Json

/-! ## Values -/

/-- `strconv.AppendUint` in base ten. -/
def appendUint (dst : Text) (n : Nat) : Text := dst ++ decimal n

/-- `strconv.AppendInt` in base ten. -/
def appendInt (dst : Text) (n : Int) : Text := dst ++ intText n

/-- The error of `Encode` is not looked at. -/
def appendStdValue (dst : Text) (v : Value) : Text := dst ++ encoderOutput v

def appendJSONString (dst : Text) (s : Text) : Text :=
  if isSafe s then dst ++ [quoteByte] ++ s ++ [quoteByte]
  else dst ++ encoderOutput (.string s)

def appendU16Slice (dst : Text) : Slice UInt16 → Text
  | none => dst ++ nullText
  | some s => appendEach (fun dst v => appendUint dst v.toNat) 0 (dst ++ [91]) s ++ [93]

def appendStringSlice (dst : Text) : Slice Text → Text
  | none => dst ++ nullText
  | some s => appendEach appendJSONString 0 (dst ++ [91]) s ++ [93]

/-- The keys in ascending order, each with its value. -/
def appendPubKeyIdx (dst : Text) (m : GoMap Text UInt32) : Text :=
  appendEach (fun dst e => appendUint (appendJSONString dst e.1 ++ [58]) e.2.toNat) 0
    (dst ++ [123]) m.sorted ++ [125]

/-! ## Nodes -/

def appendSnapshotNode (dst : Text) : Ptr SnapshotNode → Text
  | none => dst ++ nullText
  | some n =>
    (Writer.start dst
      |>.field "id" (appendUint · n.id.toNat)
      |>.when (n.owner ≠ []) "owner" (appendJSONString · n.owner)
      |>.field "public_key" (appendJSONString · n.publicKey)
      |>.when (n.realAddr ≠ []) "real_addr" (appendJSONString · n.realAddr)
      |>.field "networks" (appendU16Slice · n.networks)
      |>.when n.isPublic "public" (· ++ trueText)
      |>.when (n.lastSeen ≠ []) "last_seen" (appendJSONString · n.lastSeen)
      |>.when (n.hostname ≠ []) "hostname" (appendJSONString · n.hostname)
      |>.when (n.tags.len > 0) "tags" (appendStringSlice · n.tags)
      |>.when n.taskExec "task_exec" (· ++ trueText)
      |>.when (n.lanAddrs.len > 0) "lan_addrs" (appendStringSlice · n.lanAddrs)
      |>.when (n.keyCreated ≠ []) "key_created" (appendJSONString · n.keyCreated)
      |>.when (n.keyRotated ≠ []) "key_rotated" (appendJSONString · n.keyRotated)
      |>.when (n.keyRotCount ≠ 0) "key_rot_count" (appendInt · n.keyRotCount)
      |>.when (n.keyExpires ≠ []) "key_expires" (appendJSONString · n.keyExpires)
      |>.when (n.externalID ≠ []) "external_id" (appendJSONString · n.externalID)
      |>.when (n.version ≠ []) "version" (appendJSONString · n.version)
      |>.when n.relayOnly "relay_only" (· ++ trueText)
      |>.when (n.badge ≠ []) "badge" (appendJSONString · n.badge)
      |>.when (n.badgeSig ≠ []) "badge_sig" (appendJSONString · n.badgeSig)
      |>.when (n.verificationProvider ≠ []) "verification_provider"
        (appendJSONString · n.verificationProvider)
      |>.when (n.verifiedAt ≠ []) "verified_at" (appendJSONString · n.verifiedAt)
      |>.when (n.recoveryCommitment ≠ []) "recovery_commitment"
        (appendJSONString · n.recoveryCommitment)
      |>.when (n.recoveryProvider ≠ []) "recovery_provider"
        (appendJSONString · n.recoveryProvider)
      |>.when (n.recoveryConsumedNonce ≠ []) "recovery_consumed_nonce"
        (appendJSONString · n.recoveryConsumedNonce)
      |>.when (n.recoveryConsumedExp ≠ []) "recovery_consumed_exp"
        (appendJSONString · n.recoveryConsumedExp)).finish

/-- The keys in ascending order, each with its node. -/
def SnapshotNodes.appendTo (m : SnapshotNodes) (dst : Text) : Text :=
  match m with
  | none => dst ++ nullText
  | some m =>
    appendEach (fun dst e => appendSnapshotNode (appendJSONString dst e.1 ++ [58]) e.2) 0
      (dst ++ [123]) m.sorted ++ [125]

def SnapshotNodes.marshalJSON (m : SnapshotNodes) : Text := m.appendTo []

/-! ## The snapshot -/

def appendSnapshot (dst : Text) (s : Snapshot) : Text :=
  (Writer.start dst
    |>.field "version" (appendInt · s.version)
    |>.field "next_node" (appendUint · s.nextNode.toNat)
    |>.field "next_net" (appendUint · s.nextNet.toNat)
    |>.field "nodes" s.nodes.appendTo
    |>.field "networks"
      (appendStdValue · (s.networks.reflect (Ptr.reflect SnapshotNet.reflect)))
    |>.when ((s.trustPairs.getD []).length > 0) "trust_pairs" (· ++ s.trustPairs.getD [])
    |>.when (s.pubKeyIdx.len > 0) "pub_key_idx"
      (appendPubKeyIdx · (s.pubKeyIdx.getD ∅))
    |>.when (s.handshakeInbox.len > 0) "handshake_inbox"
      (appendStdValue ·
        (s.handshakeInbox.reflect (Slice.reflect (Ptr.reflect HandshakeRelayMsg.reflect))))
    |>.when (s.handshakeResponses.len > 0) "handshake_responses"
      (appendStdValue ·
        (s.handshakeResponses.reflect
          (Slice.reflect (Ptr.reflect HandshakeResponseMsg.reflect))))
    |>.when (s.inviteInbox.len > 0) "invite_inbox"
      (appendStdValue ·
        (s.inviteInbox.reflect (Slice.reflect (Ptr.reflect NetworkInvite.reflect))))
    |>.when (s.totalRequests ≠ 0) "total_requests" (appendInt · s.totalRequests)
    |>.when (s.totalNodes ≠ 0) "total_nodes" (appendInt · s.totalNodes)
    |>.when (s.onlineNodes ≠ 0) "online_nodes" (appendInt · s.onlineNodes)
    |>.when (s.trustLinks ≠ 0) "trust_links" (appendInt · s.trustLinks)
    |>.when (s.uniqueTags ≠ 0) "unique_tags" (appendInt · s.uniqueTags)
    |>.when (s.taskExecutors ≠ 0) "task_executors" (appendInt · s.taskExecutors)
    |>.when (s.startTime ≠ []) "start_time" (appendJSONString · s.startTime)
    |>.when (s.restartEvents.len > 0) "restart_events"
      (appendStdValue · (s.restartEvents.reflect .int))
    |>.when (s.downtimeIntervals.len > 0) "downtime_intervals"
      (appendStdValue · (s.downtimeIntervals.reflect reflectInterval))
    |>.when (s.lastHeartbeat ≠ 0) "last_heartbeat" (appendInt · s.lastHeartbeat)
    |>.when (s.probeStates.len > 0) "probe_states"
      (appendStdValue · (s.probeStates.reflect (Ptr.reflect ProbeState.reflect)))
    |>.when (s.hourlyHistory.len > 0) "hourly_history"
      (appendStdValue · (s.hourlyHistory.reflect StatsSample.reflect))
    |>.when (s.dailyHistory.len > 0) "daily_history"
      (appendStdValue · (s.dailyHistory.reflect StatsSample.reflect))
    |>.when (s.netHourlyHistory.len > 0) "net_hourly_history"
      (appendStdValue ·
        (s.netHourlyHistory.reflect (Slice.reflect NetworkSampleEntry.reflect)))
    |>.when (s.netDailyHistory.len > 0) "net_daily_history"
      (appendStdValue ·
        (s.netDailyHistory.reflect (Slice.reflect NetworkSampleEntry.reflect)))
    |>.when (s.auditLog.len > 0) "audit_log"
      (appendStdValue · (s.auditLog.reflect AuditEntry.reflect))
    |>.when s.idpConfig.isSome "idp_config"
      (appendStdValue · (s.idpConfig.reflect fun v => v))
    |>.when s.auditExportCfg.isSome "audit_export_config"
      (appendStdValue · (s.auditExportCfg.reflect fun v => v))
    |>.when (s.rbacPreAssign.len > 0) "rbac_pre_assign"
      (appendStdValue · (s.rbacPreAssign.reflect (Slice.reflect fun v => v)))
    |>.when (s.term ≠ 0) "term" (appendUint · s.term.toNat)
    |>.when (s.checksum ≠ []) "checksum" (appendJSONString · s.checksum)).finish

/-- The snapshot as the reflective encoder sees it. The nodes have a
`MarshalJSON`. -/
def Snapshot.reflect (s : Snapshot) : Value :=
  .struct
    [(bytes "version", false, .int s.version), (bytes "next_node", false, reflectUint32 s.nextNode),
     (bytes "next_net", false, reflectUint16 s.nextNet),
     (bytes "nodes", false, .marshaler (some s.nodes.marshalJSON)),
     (bytes "networks", false, s.networks.reflect (Ptr.reflect SnapshotNet.reflect)),
     (bytes "trust_pairs", true, .raw s.trustPairs),
     (bytes "pub_key_idx", true, s.pubKeyIdx.reflect reflectUint32),
     (bytes "handshake_inbox", true,
       s.handshakeInbox.reflect (Slice.reflect (Ptr.reflect HandshakeRelayMsg.reflect))),
     (bytes "handshake_responses", true, s.handshakeResponses.reflect
         (Slice.reflect (Ptr.reflect HandshakeResponseMsg.reflect))),
     (bytes "invite_inbox", true,
       s.inviteInbox.reflect (Slice.reflect (Ptr.reflect NetworkInvite.reflect))),
     (bytes "total_requests", true, .int s.totalRequests),
     (bytes "total_nodes", true, .int s.totalNodes),
     (bytes "online_nodes", true, .int s.onlineNodes),
     (bytes "trust_links", true, .int s.trustLinks),
     (bytes "unique_tags", true, .int s.uniqueTags),
     (bytes "task_executors", true, .int s.taskExecutors),
     (bytes "start_time", true, .string s.startTime),
     (bytes "restart_events", true, s.restartEvents.reflect .int),
     (bytes "downtime_intervals", true, s.downtimeIntervals.reflect reflectInterval),
     (bytes "last_heartbeat", true, .int s.lastHeartbeat),
     (bytes "probe_states", true, s.probeStates.reflect (Ptr.reflect ProbeState.reflect)),
     (bytes "hourly_history", true, s.hourlyHistory.reflect StatsSample.reflect),
     (bytes "daily_history", true, s.dailyHistory.reflect StatsSample.reflect),
     (bytes "net_hourly_history", true,
       s.netHourlyHistory.reflect (Slice.reflect NetworkSampleEntry.reflect)),
     (bytes "net_daily_history", true,
       s.netDailyHistory.reflect (Slice.reflect NetworkSampleEntry.reflect)),
     (bytes "audit_log", true, s.auditLog.reflect AuditEntry.reflect),
     (bytes "idp_config", true, s.idpConfig.reflect fun v => v),
     (bytes "audit_export_config", true, s.auditExportCfg.reflect fun v => v),
     (bytes "rbac_pre_assign", true, s.rbacPreAssign.reflect (Slice.reflect fun v => v)),
     (bytes "term", true, .int s.term.toNat),
     (bytes "checksum", true, .string s.checksum)]

/-! ## What each append writes -/

private theorem puts_int (n : Int) : Puts (appendInt · n) (.int n) :=
  .of_tree (by rw [encodeTree]) fun dst => by rw [print]; rfl

private theorem puts_uint (n : Nat) : Puts (appendUint · n) (.int n) :=
  .of_tree (by rw [encodeTree]) fun dst => by
    rw [print]
    show _ = dst ++ intText n
    simp [appendUint, intText]

private theorem puts_true : Puts (· ++ trueText) (.bool true) :=
  .of_tree (by rw [encodeTree]) fun dst => by rw [print]

private theorem puts_null : Puts (· ++ nullText) .null :=
  .of_tree (by rw [encodeTree]) fun dst => by rw [print]

/-- The path for plain ASCII writes what the other one does. -/
theorem puts_string (s : Text) : Puts (appendJSONString · s) (.string s) := by
  refine .of_tree (by rw [encodeTree]) fun dst => ?_
  unfold appendJSONString
  by_cases hsafe : isSafe s = true
  · rw [if_pos hsafe, print, text_stringLit_of_safe hsafe]
    simp
  · rw [if_neg hsafe, encoderOutput_of_some (by rw [encodeTree])]

private theorem puts_std {v : Value} (h : v.Encodable) : Puts (appendStdValue · v) v :=
  ⟨h, fun _ => rfl⟩

theorem puts_u16Slice (s : Slice UInt16) : Puts (appendU16Slice · s) (s.reflect reflectUint16) := by
  cases s with
  | none => exact puts_null
  | some s => exact puts_slice (fun v => puts_uint v.toNat) s

theorem puts_stringSlice (s : Slice Text) : Puts (appendStringSlice · s) (s.reflect .string) := by
  cases s with
  | none => exact puts_null
  | some s => exact puts_slice puts_string s

private theorem puts_uint32 (n : UInt32) :
    Puts ((fun dst (n : UInt32) => appendUint dst n.toNat) · n) (reflectUint32 n) :=
  puts_uint n.toNat

private theorem puts_pubKeyIdx (m : GoMap Text UInt32) :
    Puts (appendPubKeyIdx · m) (Table.reflect reflectUint32 (some m)) :=
  puts_map puts_string puts_uint32 m

/-! ## What is left out -/

theorem Slice.written {α : Type} (s : Slice α) (f : α → Value) :
    s.len > 0 ↔ (true && (s.reflect f).isEmpty) = false := by
  match s with
  | none => simp [Slice.len, Slice.reflect, Value.isEmpty]
  | some [] => simp [Slice.len, Slice.reflect, Value.isEmpty]
  | some (x :: xs) => simp [Slice.len, Slice.reflect, Value.isEmpty]

theorem Table.written {α : Type} (m : Table α) (f : α → Value) :
    m.len > 0 ↔ (true && (m.reflect f).isEmpty) = false := by
  cases m with
  | none =>
    have hsize : (∅ : GoMap Text α).size = 0 := rfl
    simp [Table.len, Table.reflect, Value.isEmpty, hsize]
  | some m =>
    have hlen : m.size = m.sorted.length := GoMap.length_sorted m ▸ rfl
    simp only [Table.len, Option.getD_some, hlen, Table.reflect, Value.isEmpty, Bool.true_and,
      List.isEmpty_eq_false_iff, ne_eq, List.map_eq_nil_iff]
    exact List.length_pos_iff

theorem Ptr.written {α : Type} (p : Ptr α) (f : α → Value) :
    p.isSome = true ↔ (true && (p.reflect f).isEmpty) = false := by
  cases p with
  | _ => simp [Ptr.reflect, Value.isEmpty]

/-! ## Nodes -/

private theorem puts_snapshotNode (n : Ptr SnapshotNode) :
    Puts (appendSnapshotNode · n) (n.reflect SnapshotNode.reflect) := by
  cases n with
  | none => exact puts_null
  | some n =>
    refine .ptr (Writes.finish fun dst => ?_)
    have h := Writes.start dst
      |>.field "id" (puts_uint n.id.toNat)
      |>.text "owner" (puts_string n.owner)
      |>.field "public_key" (puts_string n.publicKey)
      |>.text "real_addr" (puts_string n.realAddr)
      |>.field "networks" (puts_u16Slice n.networks)
      |>.flag "public" (b := n.isPublic) puts_true
      |>.text "last_seen" (puts_string n.lastSeen)
      |>.text "hostname" (puts_string n.hostname)
      |>.when "tags" (Slice.written n.tags .string)
        (fun _ => puts_stringSlice n.tags)
      |>.flag "task_exec" (b := n.taskExec) puts_true
      |>.when "lan_addrs" (Slice.written n.lanAddrs .string)
        (fun _ => puts_stringSlice n.lanAddrs)
      |>.text "key_created" (puts_string n.keyCreated)
      |>.text "key_rotated" (puts_string n.keyRotated)
      |>.number "key_rot_count" (puts_int n.keyRotCount)
      |>.text "key_expires" (puts_string n.keyExpires)
      |>.text "external_id" (puts_string n.externalID)
      |>.text "version" (puts_string n.version)
      |>.flag "relay_only" (b := n.relayOnly) puts_true
      |>.text "badge" (puts_string n.badge)
      |>.text "badge_sig" (puts_string n.badgeSig)
      |>.text "verification_provider" (puts_string n.verificationProvider)
      |>.text "verified_at" (puts_string n.verifiedAt)
      |>.text "recovery_commitment" (puts_string n.recoveryCommitment)
      |>.text "recovery_provider" (puts_string n.recoveryProvider)
      |>.text "recovery_consumed_nonce" (puts_string n.recoveryConsumedNonce)
      |>.text "recovery_consumed_exp" (puts_string n.recoveryConsumedExp)
    simp only [List.nil_append, List.cons_append] at h
    exact h

/-- The nodes as `encoding/json` would write them without the method. -/
theorem puts_nodes (m : SnapshotNodes) :
    Puts m.appendTo (Table.reflect (Ptr.reflect SnapshotNode.reflect) m) := by
  cases m with
  | none => exact puts_null
  | some m => exact puts_map puts_string puts_snapshotNode m

private theorem SnapshotNode.height_reflect (n : SnapshotNode) : n.reflect.height ≤ 2 := by
  have hslice : ∀ {α : Type} (s : Slice α) {f : α → Value}, (∀ a, (f a).height = 0) →
      (s.reflect f).height ≤ 1 := by
    intro α s f hf
    cases s with
    | none => simp [Slice.reflect, Value.height]
    | some s =>
      rw [Slice.reflect, Value.height, Nat.add_le_add_iff_right, heightItems_le]
      intro v hv
      obtain ⟨a, _, rfl⟩ := List.mem_map.mp hv
      exact (hf a).le
  have hnetworks := hslice n.networks (f := reflectUint16) fun _ => by
    simp [reflectUint16, Value.height]
  have htags := hslice n.tags (f := .string) fun _ => by simp [Value.height]
  have hlan := hslice n.lanAddrs (f := .string) fun _ => by simp [Value.height]
  simp [SnapshotNode.reflect, reflectUint32, Value.height, heightFields, hnetworks, htags, hlan]

private theorem SnapshotNodes.height_reflect (m : SnapshotNodes) :
    (Table.reflect (Ptr.reflect SnapshotNode.reflect) m).height ≤ 3 := by
  cases m with
  | none => simp [Table.reflect, Value.height]
  | some m =>
    rw [Table.reflect, Value.height, Nat.add_le_add_iff_right, heightEntries_le]
    intro e he
    obtain ⟨⟨k, n⟩, _, rfl⟩ := List.mem_map.mp he
    cases n with
    | none => simp [Ptr.reflect, Value.height]
    | some n =>
      rw [Ptr.reflect, Value.height]
      exact n.height_reflect

/-- The encoder checks what the method returns and finds it compact. -/
theorem puts_marshaled (m : SnapshotNodes) : Puts m.appendTo (.marshaler (some m.marshalJSON)) := by
  obtain ⟨t, ht, hput⟩ := (puts_nodes m).exists_tree
  refine .of_tree (t := t) ?_ hput
  have htext : m.marshalJSON = print t := hput []
  have hdepth : t.depth ≤ maxNestingDepth :=
    (depth_le_height _ ht).trans (m.height_reflect.trans (by decide))
  rw [encodeTree, Option.bind_some, htext, unmarshal_print, if_pos hdepth]

/-! ## Trust pairs and public keys -/

/-- The raw message is empty, or valid JSON without white space. -/
def Compact (m : Option Text) : Prop :=
  m.getD [] = [] ∨ ∃ t, unmarshal (m.getD []) = some t ∧ print t = m.getD []

private theorem raw_written (m : Option Text) :
    (m.getD []).length > 0 ↔ (true && (Value.raw m).isEmpty) = false := by
  rw [Value.isEmpty, Bool.true_and, List.isEmpty_eq_false_iff]
  exact List.length_pos_iff

private theorem puts_raw {m : Option Text} (hm : Compact m) (hlen : (m.getD []).length > 0) :
    Puts (· ++ m.getD []) (.raw m) := by
  match m with
  | none => exact absurd hlen (by simp)
  | some m =>
    rcases hm with hempty | ⟨t, ht, hprint⟩
    · exact absurd hlen (by simp [hempty])
    · refine .of_tree (t := t) ?_ fun dst => by rw [hprint]
      rw [encodeTree]
      exact ht

private theorem puts_pubKeys (m : Table UInt32) (hlen : m.len > 0) :
    Puts (appendPubKeyIdx · (m.getD ∅)) (m.reflect reflectUint32) := by
  cases m with
  | none => exact absurd hlen (by decide)
  | some m => exact puts_pubKeyIdx m

/-! ## The two encoders -/

theorem Snapshot.encodable_iff {s : Snapshot} (hpairs : Compact s.trustPairs) :
    s.reflect.Encodable ↔ s.Encodable := by
  have hraw : s.trustPairs.getD [] = [] ∨ ∃ t, unmarshal (s.trustPairs.getD []) = some t :=
    hpairs.imp_right fun ⟨t, ht, _⟩ => ⟨t, ht⟩
  have hnetworks := Table.encodable_iff (Ptr.encodable_iff SnapshotNet.encodable_iff) s.networks
  have hinbox := Table.field_iff (Slice.encodable_iff (Ptr.encodable_iff
    HandshakeRelayMsg.encodable_iff)) s.handshakeInbox
  have hresponses := Table.field_iff (Slice.encodable_iff (Ptr.encodable_iff
    HandshakeResponseMsg.encodable_iff)) s.handshakeResponses
  have hinvites := Table.field_iff (Slice.encodable_iff (Ptr.encodable_iff
    NetworkInvite.encodable_iff)) s.inviteInbox
  have hidp := Ptr.field_iff encodable_any s.idpConfig
  have hexport := Ptr.field_iff encodable_any s.auditExportCfg
  have hroles := Table.field_iff (Slice.encodable_iff encodable_any) s.rbacPreAssign
  have hnodes := (puts_marshaled s.nodes).1
  rw [Snapshot.reflect, Value.Encodable]
  simp only [EncodableFields, hnetworks, hinbox, hresponses, hinvites, hidp, hexport, hroles,
    hnodes, raw_field_iff, hraw, encodable_int, encodable_string, encodable_uint16,
    encodable_uint32, Table.encodable encodable_uint32, Slice.encodable encodable_int,
    Slice.encodable encodable_interval, Table.encodable (Ptr.encodable ProbeState.encodable),
    Slice.encodable StatsSample.encodable, Slice.encodable AuditEntry.encodable,
    Table.encodable (Slice.encodable NetworkSampleEntry.encodable), implies_true, true_and,
    and_true, Bool.false_and, forall_const]
  exact ⟨fun ⟨h1, h2, h3, h4, h5, h6, h7⟩ => ⟨h1, h2, h3, h4, h5, h6, h7⟩,
    fun h => ⟨h.networks, h.handshakeInbox, h.handshakeResponses, h.inviteInbox, h.idpConfig,
      h.auditExportCfg, h.rbacPreAssign⟩⟩

/-- A member that is left out when it is empty, and written through
`encoding/json` otherwise. -/
theorem writes_std {dst : Text} {fs : List (Text × Bool × Value)} {w : Writer}
    (h : Writes dst fs w) (name : String) {v : Value} {c : Prop} [Decidable c]
    (hc : c ↔ (true && v.isEmpty) = false) (hv : (true && v.isEmpty) = false → v.Encodable)
    (hname : isSafe (bytes name) = true := by decide +kernel) :
    Writes dst (fs ++ [(bytes name, true, v)]) (w.when c name (appendStdValue · v)) :=
  h.when name hc (fun hwrite => puts_std (hv (hc.mp hwrite))) hname

/-- A snapshot in which nothing is refused is written as the reflective
encoder writes it. -/
theorem puts_snapshot {s : Snapshot} (hpairs : Compact s.trustPairs) (h : s.reflect.Encodable) :
    Puts (appendSnapshot · s) s.reflect := by
  rw [Snapshot.reflect, Value.Encodable] at h
  simp only [EncodableFields] at h
  obtain ⟨-, -, -, -, hnetworks, -, -, hinbox, hresponses, hinvites, -, -, -, -, -, -, -,
    hrestarts, hdowntime, -, hprobes, hhourly, hdaily, hnetHourly, hnetDaily, haudit, hidp,
    hexport, hroles, -⟩ := h
  have hterm : s.term ≠ 0 ↔ (true && (Value.int s.term.toNat).isEmpty) = false := by
    rw [Value.isEmpty, Bool.true_and, decide_eq_false_iff_not, not_iff_not]
    exact ⟨fun h => by rw [h]; rfl, fun h => UInt64.toNat_inj.mp (Int.ofNat_inj.mp h)⟩
  refine Writes.finish fun dst => ?_
  have hw := Writes.start dst
    |>.field "version" (puts_int s.version)
    |>.field "next_node" (puts_uint s.nextNode.toNat)
    |>.field "next_net" (puts_uint s.nextNet.toNat)
    |>.field "nodes" (puts_marshaled s.nodes)
    |>.field "networks" (puts_std (hnetworks rfl))
    |>.when "trust_pairs" (raw_written s.trustPairs) (puts_raw hpairs)
    |>.when "pub_key_idx" (Table.written s.pubKeyIdx reflectUint32) (puts_pubKeys s.pubKeyIdx)
    |> (writes_std · "handshake_inbox" (Table.written s.handshakeInbox _) hinbox)
    |> (writes_std · "handshake_responses" (Table.written s.handshakeResponses _) hresponses)
    |> (writes_std · "invite_inbox" (Table.written s.inviteInbox _) hinvites)
    |>.number "total_requests" (puts_int s.totalRequests)
    |>.number "total_nodes" (puts_int s.totalNodes)
    |>.number "online_nodes" (puts_int s.onlineNodes)
    |>.number "trust_links" (puts_int s.trustLinks)
    |>.number "unique_tags" (puts_int s.uniqueTags)
    |>.number "task_executors" (puts_int s.taskExecutors)
    |>.text "start_time" (puts_string s.startTime)
    |> (writes_std · "restart_events" (Slice.written s.restartEvents _) hrestarts)
    |> (writes_std · "downtime_intervals" (Slice.written s.downtimeIntervals _) hdowntime)
    |>.number "last_heartbeat" (puts_int s.lastHeartbeat)
    |> (writes_std · "probe_states" (Table.written s.probeStates _) hprobes)
    |> (writes_std · "hourly_history" (Slice.written s.hourlyHistory _) hhourly)
    |> (writes_std · "daily_history" (Slice.written s.dailyHistory _) hdaily)
    |> (writes_std · "net_hourly_history" (Table.written s.netHourlyHistory _) hnetHourly)
    |> (writes_std · "net_daily_history" (Table.written s.netDailyHistory _) hnetDaily)
    |> (writes_std · "audit_log" (Slice.written s.auditLog _) haudit)
    |> (writes_std · "idp_config" (Ptr.written s.idpConfig _) hidp)
    |> (writes_std · "audit_export_config" (Ptr.written s.auditExportCfg _) hexport)
    |> (writes_std · "rbac_pre_assign" (Table.written s.rbacPreAssign _) hroles)
    |>.when "term" hterm (fun _ => puts_uint s.term.toNat)
    |>.text "checksum" (puts_string s.checksum)
  simp only [List.nil_append, List.cons_append] at hw
  exact hw

/-- The output is never empty: the braces are always written. -/
theorem appendSnapshot_ne (dst : Text) (s : Snapshot) : appendSnapshot dst s ≠ dst := by
  have hstd : ∀ v, Appends (appendStdValue · v) := fun v => appends_append _
  have hkeys : ∀ m, Appends (appendPubKeyIdx · m) := fun m => (puts_pubKeyIdx m).appends
  have hint : ∀ n, Appends (appendInt · n) := fun n => appends_append _
  have huint : ∀ n, Appends (appendUint · n) := fun n => appends_append _
  have hstring : ∀ t, Appends (appendJSONString · t) := fun t => (puts_string t).appends
  have hraw : ∀ t : Text, Appends (· ++ t) := appends_append
  have hnodes : Appends s.nodes.appendTo := (puts_nodes s.nodes).appends
  refine Writer.finish_ne ?_
  repeat' with_reducible first
    | refine Writer.prefix_when ?_ _ ?_
    | refine Writer.prefix_field ?_ _ ?_
  · exact Writer.prefix_start dst
  all_goals with_reducible first
    | exact hstring _
    | exact hint _
    | exact huint _
    | exact hstd _
    | exact hkeys _
    | exact hraw _
    | exact hnodes

theorem appendSnapshot_eq_iff (s : Snapshot) (hpairs : Compact s.trustPairs) (dst : Text) :
    appendSnapshot dst s = dst ++ encoderOutput s.reflect ↔ s.Encodable := by
  constructor
  · intro h
    rw [← Snapshot.encodable_iff hpairs]
    by_contra hrefused
    rw [encoderOutput_eq_nil.mpr hrefused, List.append_nil] at h
    exact appendSnapshot_ne dst s h
  · intro h
    exact (puts_snapshot hpairs ((Snapshot.encodable_iff hpairs).mpr h)).2 dst

/-- A snapshot without content. -/
def blank : Snapshot where
  version := 1
  nextNode := 0
  nextNet := 0
  nodes := none
  networks := none
  trustPairs := none
  pubKeyIdx := none
  handshakeInbox := none
  handshakeResponses := none
  inviteInbox := none
  totalRequests := 0
  totalNodes := 0
  onlineNodes := 0
  trustLinks := 0
  uniqueTags := 0
  taskExecutors := 0
  startTime := []
  restartEvents := none
  downtimeIntervals := none
  lastHeartbeat := 0
  probeStates := none
  hourlyHistory := none
  dailyHistory := none
  netHourlyHistory := none
  netDailyHistory := none
  auditLog := none
  idpConfig := none
  auditExportCfg := none
  rbacPreAssign := none
  term := 0
  checksum := []

/-- A network without members, with a programmable policy. -/
def governed (policy : Text) : SnapshotNet where
  id := 1
  name := bytes "lab"
  joinRule := bytes "open"
  token := []
  members := none
  memberRoles := none
  memberTags := none
  adminToken := []
  policy := none
  rules := none
  exprPolicy := some policy
  enterprise := false
  requestCount := 0
  created := []

/-- A snapshot with that network and one pair of trusted nodes. -/
def governedBy (policy : Text) : Snapshot :=
  { blank with
    networks := some ((∅ : GoMap Text (Ptr SnapshotNet)).set (bytes "1") (some (governed policy)))
    trustPairs := some (print (.arr [.str (stringLit (bytes "1:2"))])) }

private theorem compact_governedBy (policy : Text) : Compact (governedBy policy).trustPairs := by
  refine Or.inr ⟨.arr [.str (stringLit (bytes "1:2"))], ?_, rfl⟩
  show unmarshal (print _) = _
  rw [unmarshal_print]
  rfl

/-- Such a snapshot can be encoded exactly when the policy can. -/
theorem encodable_governedBy (policy : Text) :
    (governedBy policy).Encodable ↔ policy = [] ∨ ∃ t, unmarshal policy = some t := by
  constructor
  · intro h
    exact (h.networks (bytes "1") _ (GoMap.get_set_self ..) _ rfl).exprPolicy
  · intro h
    have hnone {α : Type} {P : α → Prop} : Table.All P none := fun k a hk => absurd hk (by simp)
    refine ⟨fun k n hn net hnet => ?_, hnone, hnone, hnone, nofun, nofun, hnone⟩
    have hone : ((∅ : GoMap Text (Ptr SnapshotNet)).set (bytes "1")
        (some (governed policy))).get k = some n := hn
    rcases GoMap.of_get_set hone with ⟨-, rfl⟩ | hnone
    · cases hnet
      exact ⟨h, nofun⟩
    · cases hnone

theorem appendSnapshot_eq_governed : Compact (governedBy (bytes "[]")).trustPairs ∧
      appendSnapshot [] (governedBy (bytes "[]")) =
        [] ++ encoderOutput (governedBy (bytes "[]")).reflect :=
  ⟨compact_governedBy _, (appendSnapshot_eq_iff _ (compact_governedBy _) []).mpr
    ((encodable_governedBy _).mpr (Or.inr ⟨.arr [], rfl⟩))⟩

/-- A policy that breaks off is refused by the reflective encoder, which
writes nothing at all, while `AppendSnapshot` leaves the member without a
value. -/
theorem appendSnapshot_malformed : Compact (governedBy (bytes "[")).trustPairs ∧
      encodeTree (governedBy (bytes "[")).reflect = none ∧
      appendSnapshot [] (governedBy (bytes "[")) =
        bytes "\x7b\"version\":1,\"next_node\":0,\"next_net\":0,\"nodes\":null," ++
        bytes "\"networks\":,\"trust_pairs\":[\"1:2\"]\x7d" := by
  have hpairs := compact_governedBy (bytes "[")
  have hpolicy : ¬ (bytes "[" = [] ∨ ∃ t, unmarshal (bytes "[") = some t) := by
    rintro (h | ⟨t, ht⟩)
    · exact absurd h (by decide)
    · exact absurd ht (by rw [show unmarshal (bytes "[") = none from rfl]; simp)
  have hnetworks : ¬ ((governedBy (bytes "[")).networks.reflect
      (Ptr.reflect SnapshotNet.reflect)).Encodable := by
    rw [Table.encodable_iff (Ptr.encodable_iff SnapshotNet.encodable_iff)]
    intro h
    exact hpolicy (h (bytes "1") _ (GoMap.get_set_self ..) _ rfl).exprPolicy
  have hstd : (appendStdValue · ((governedBy (bytes "[")).networks.reflect
      (Ptr.reflect SnapshotNet.reflect))) = fun dst => dst := by
    funext dst
    rw [appendStdValue, encoderOutput_eq_nil.mpr hnetworks, List.append_nil]
  refine ⟨hpairs, ?_, ?_⟩
  · rw [← Option.not_isSome_iff_eq_none, encodeTree_isSome, Snapshot.encodable_iff hpairs,
      encodable_governedBy]
    exact hpolicy
  · unfold appendSnapshot
    rw [hstd]
    decide +kernel

end Rendezvous.Document

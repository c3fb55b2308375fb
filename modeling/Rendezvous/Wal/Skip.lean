import Rendezvous.Wal.Apply
import Rendezvous.Wal.Log

/-!
# Entries that cannot be applied

`replayWAL` runs the appliers over the log. An entry that does not parse is
skipped, but an entry whose payload does not parse, or lacks a field its
applier insists on, ends the replay, and so does a record that is too long.
So every well-formed entry is applied exactly when no such record stands
before one.

How JSON is read is a parameter: one reader for entries, and one for the
payload of each kind of delta.
-/

namespace Rendezvous.Wal

open Base Base.Framing Registry

/-! ## Entries -/

/-- `DeltaType`: the kinds that have an applier, and the others. -/
inductive DeltaType where
  | register
  | deregister
  | networkCreate
  | networkJoin
  | networkLeave
  | keyRotation
  | networkDelete
  | other (code : UInt8)
  deriving DecidableEq

/-- `DeltaEntry`, as far as the appliers read it. -/
structure DeltaEntry where
  type : DeltaType
  data : Bytes
  deriving DecidableEq

/-- `json.Unmarshal`, into an entry and into each kind of payload. -/
structure Reader where
  entry : Bytes → Option DeltaEntry
  register : Bytes → Except String RegisterDelta
  deregister : Bytes → Except String NodeId
  networkCreate : Bytes → Except String NetworkCreateDelta
  networkDelete : Bytes → Except String NetId
  membership : Bytes → Except String (NodeId × NetId)
  keyRotation : Bytes → Except String KeyRotationDelta

/-- A payload, with the applier's name in front of an error. -/
def readPayload {α : Type} (name : String) (payload : Except String α)
    (delta : α → Delta) : Except String (Option Delta) :=
  match payload with
  | .ok d => .ok (some (delta d))
  | .error e => .error s!"{name}: {e}"

/-- The delta of an entry; none when its kind has no applier. -/
def payload (R : Reader) (entry : DeltaEntry) : Except String (Option Delta) :=
  match entry.type with
  | .register => readPayload "register delta" (R.register entry.data) .register
  | .deregister =>
    readPayload "deregister delta" (R.deregister entry.data) .deregister
  | .networkCreate => readPayload "network create delta"
      (R.networkCreate entry.data) .networkCreate
  | .networkDelete => readPayload "network delete delta"
      (R.networkDelete entry.data) .networkDelete
  | .networkJoin => readPayload "membership delta" (R.membership entry.data)
      fun m => .networkJoin m.1 m.2
  | .networkLeave => readPayload "membership delta" (R.membership entry.data)
      fun m => .networkLeave m.1 m.2
  | .keyRotation => readPayload "key rotation delta" (R.keyRotation entry.data)
      .keyRotation
  | .other _ => .ok none

/-- `applyDelta`, on an entry of the log. -/
def applyEntry (R : Reader) (now : Time) (s : Server) (entry : DeltaEntry) :
    Except String Server := do
  match ← payload R entry with
  | none => return s
  | some d => applyDelta now s d

/-- `replayWAL`. What it answers is only logged. -/
def replayWAL (R : Reader) (now : Time) (s : Server) (file : Bytes) : Server :=
  (replayFile R.entry (applyEntry R now) s file).state

/-- `applyDelta` with a list of the entries it was applied to. -/
def applyLogged (R : Reader) (now : Time) (p : Server × List DeltaEntry)
    (entry : DeltaEntry) : Except String (Server × List DeltaEntry) :=
  (applyEntry R now p.1 entry).map fun s' => (s', p.2 ++ [entry])

/-- The entries `replayWAL` applies. -/
def applied (R : Reader) (now : Time) (s : Server) (file : Bytes) : List DeltaEntry :=
  (replayFile R.entry (applyLogged R now) (s, []) file).state.2

/-! ## Well-formed entries -/

/-- The applier takes the entry. -/
def accepted (R : Reader) (entry : DeltaEntry) : Bool :=
  match payload R entry with
  | .error _ => false
  | .ok none => true
  | .ok (some d) => decide (WellFormed d)

/-- The entry of a record, if it parses and the applier takes it. -/
def goodEntry (R : Reader) (data : Bytes) : Option DeltaEntry :=
  (R.entry data).filter (accepted R)

/-- The record holds a well-formed entry. -/
def good (R : Reader) (data : Bytes) : Bool := (goodEntry R data).isSome

/-- The record ends the replay: it is too long, or its entry parses and is
refused. -/
def stops (R : Reader) (data : Bytes) : Bool :=
  decide (data.length > maxEntrySize) || (R.entry data).any fun entry => !accepted R entry

/-- Whether an entry is taken does not depend on the state. -/
theorem applyEntry_accepted (R : Reader) (now : Time) (s : Server)
    (entry : DeltaEntry) :
    (accepted R entry = true → ∃ s', applyEntry R now s entry = .ok s') ∧
      (accepted R entry = false → ∃ e, applyEntry R now s entry = .error e) := by
  unfold accepted applyEntry
  cases hp : payload R entry with
  | error e => exact ⟨fun h => (nomatch h), fun _ => ⟨e, rfl⟩⟩
  | ok d =>
    cases d with
    | none => exact ⟨fun _ => ⟨s, rfl⟩, fun h => (nomatch h)⟩
    | some d =>
      refine ⟨fun h => ?_, fun h => ?_⟩
      · exact ⟨_, applyDelta_wellFormed now s (of_decide_eq_true h)⟩
      · exact applyDelta_refused now s (of_decide_eq_false h)

/-! ## What is applied -/

/-- The entries a replay gets to. -/
def trace (R : Reader) : List Bytes → List DeltaEntry
  | [] => []
  | data :: rest =>
    if stops R data then []
    else
      match goodEntry R data with
      | none => trace R rest
      | some entry => entry :: trace R rest

/-- The well-formed entries. -/
def goods (R : Reader) (recs : List Bytes) : List DeltaEntry :=
  recs.filterMap (goodEntry R)

/-- The state after an entry; a refused one changes nothing. -/
def applyOrSkip (R : Reader) (now : Time) (s : Server) (entry : DeltaEntry) : Server :=
  match applyEntry R now s entry with
  | .ok s' => s'
  | .error _ => s

section consume

variable {S : Type} (R : Reader) (fn : S → DeltaEntry → Except String S)
  (after : S → DeltaEntry → S)

/-- A replay whose function takes exactly the accepted entries runs through
the trace. -/
theorem consume_trace
    (htakes : ∀ s entry, accepted R entry = true → fn s entry = .ok (after s entry))
    (hrefuses : ∀ s entry, accepted R entry = false → ∃ e, fn s entry = .error e)
    (s : S) (recs : List Bytes) :
    consume R.entry fn s recs = (trace R recs).foldl after s := by
  induction recs generalizing s with
  | nil => rfl
  | cons data recs ih =>
    by_cases hlong : data.length > maxEntrySize
    · simp [consume, trace, stops, hlong]
    cases hentry : R.entry data with
    | none =>
      simp only [consume, trace, stops, goodEntry, hentry, hlong, if_false,
        decide_false, Option.any_none, Bool.or_self, Bool.false_eq_true,
        Option.filter_none]
      exact ih s
    | some entry =>
      cases hacc : accepted R entry with
      | true =>
        simp only [consume, trace, stops, goodEntry, hentry, hlong,
          if_false, decide_false, Option.any_some, hacc, Bool.not_true,
          Bool.or_self, Bool.false_eq_true, Option.filter_some, if_true,
          htakes s entry hacc, List.foldl_cons]
        exact ih (after s entry)
      | false =>
        obtain ⟨e, he⟩ := hrefuses s entry hacc
        simp [consume, trace, stops, hentry, hlong, hacc, he]

end consume

section

variable (R : Reader) (now : Time) (s : Server) (file : Bytes) (recs : List Bytes)

theorem replayWAL_trace :
    replayWAL R now s file = (trace R (records file)).foldl (applyOrSkip R now) s := by
  unfold replayWAL
  rw [replayFile_state]
  refine consume_trace R (applyEntry R now) (applyOrSkip R now) ?_ ?_ s _
  · intro s entry hacc
    obtain ⟨s', hs'⟩ := (applyEntry_accepted R now s entry).1 hacc
    simp [applyOrSkip, hs']
  · intro s entry hacc
    exact (applyEntry_accepted R now s entry).2 hacc

theorem applied_trace : applied R now s file = trace R (records file) := by
  let after (p : Server × List DeltaEntry) (entry : DeltaEntry) :=
    (applyOrSkip R now p.1 entry, p.2 ++ [entry])
  have hlog : ∀ entries (p : Server × List DeltaEntry),
      (entries.foldl after p).2 = p.2 ++ entries := by
    intro entries
    induction entries with
    | nil => intro p; simp
    | cons entry entries ih => intro p; simp [after, ih]
  unfold applied
  rw [replayFile_state, consume_trace R _ after ?_ ?_ (s, []) _, hlog]
  · rfl
  · intro p entry hacc
    obtain ⟨s', hs'⟩ := (applyEntry_accepted R now p.1 entry).1 hacc
    simp [after, applyLogged, applyOrSkip, hs', Except.map]
  · intro p entry hacc
    obtain ⟨e, he⟩ := (applyEntry_accepted R now p.1 entry).2 hacc
    exact ⟨e, by simp [applyLogged, he, Except.map]⟩

/-- No record that ends the replay stands before a well-formed entry, and
no well-formed entry is too long itself. -/
def Unobstructed (R : Reader) (recs : List Bytes) : Prop :=
  recs.Pairwise (fun x y => stops R x = true → good R y = false) ∧
    ∀ data ∈ recs, good R data = true → data.length ≤ maxEntrySize

theorem goods_eq_nil : goods R recs = [] ↔ ∀ data ∈ recs, good R data = false := by
  simp [goods, good, List.filterMap_eq_nil_iff]

theorem unobstructed_cons (data : Bytes) (recs : List Bytes) :
    Unobstructed R (data :: recs) ↔ (stops R data = true → ∀ y ∈ recs, good R y = false) ∧
        (good R data = true → data.length ≤ maxEntrySize) ∧
        Unobstructed R recs := by
  unfold Unobstructed
  rw [List.pairwise_cons, List.forall_mem_cons]
  constructor
  · rintro ⟨⟨hhead, htail⟩, hdata, hrecs⟩
    exact ⟨fun hstop y hy => hhead y hy hstop, hdata, htail, hrecs⟩
  · rintro ⟨hhead, hdata, htail, hrecs⟩
    exact ⟨⟨fun y hy hstop => hhead hstop y hy, htail⟩, hdata, hrecs⟩

/-- Where nothing is well-formed, nothing is in the way. -/
theorem unobstructed_of_none {R : Reader} {recs : List Bytes}
    (h : ∀ data ∈ recs, good R data = false) : Unobstructed R recs := by
  refine ⟨?_, fun data hdata hgood => ?_⟩
  · exact List.pairwise_of_forall_mem_list fun _ _ y hy _ => h y hy
  · rw [h data hdata] at hgood
    cases hgood

/-- A well-formed entry that is short enough does not end the replay. -/
theorem not_stops_of_good {R : Reader} {data : Bytes}
    (hgood : good R data = true) (hshort : data.length ≤ maxEntrySize) :
    stops R data = false := by
  unfold good goodEntry at hgood
  unfold stops
  cases hentry : R.entry data with
  | none => simp [hentry] at hgood
  | some entry =>
    have hacc : accepted R entry = true := by
      simpa [hentry, Option.filter_some] using hgood
    simp [hacc, hshort]

/-- The replay gets to all the well-formed entries exactly when nothing is
in their way. -/
theorem trace_eq_goods_iff : trace R recs = goods R recs ↔ Unobstructed R recs := by
  induction recs with
  | nil => exact ⟨fun _ => unobstructed_of_none (by simp), fun _ => rfl⟩
  | cons data recs ih =>
    rw [unobstructed_cons]
    cases hstop : stops R data with
    | true =>
      have htrace : trace R (data :: recs) = [] := by
        simp [trace, hstop]
      rw [htrace, eq_comm, goods_eq_nil, List.forall_mem_cons]
      constructor
      · rintro ⟨hdata, hrecs⟩
        refine ⟨fun _ => hrecs, fun hgood => ?_, unobstructed_of_none hrecs⟩
        rw [hdata] at hgood
        cases hgood
      · rintro ⟨hrecs, hshort, -⟩
        refine ⟨?_, hrecs rfl⟩
        by_contra hgood
        have hgood : good R data = true := by simpa using hgood
        rw [not_stops_of_good hgood (hshort hgood)] at hstop
        cases hstop
    | false =>
      have hshort : data.length ≤ maxEntrySize := by
        have hle := (Bool.or_eq_false_iff.mp hstop).1
        simpa using hle
      have hrest : trace R (data :: recs) = goods R (data :: recs) ↔
          trace R recs = goods R recs := by
        cases hgood : goodEntry R data with
        | _ => simp [trace, goods, hstop, hgood]
      rw [hrest, ih]
      constructor
      · exact fun h => ⟨fun hc => (nomatch hc), fun _ => hshort, h⟩
      · exact fun h => h.2.2

theorem goods_filter : goods R (recs.filter (good R)) = goods R recs := by
  unfold goods
  rw [List.filterMap_filter]
  congr 1
  funext data
  unfold good
  cases goodEntry R data <;> rfl

end

theorem Unobstructed.filter {R : Reader} {recs : List Bytes}
    (h : Unobstructed R recs) : Unobstructed R (recs.filter (good R)) :=
  ⟨h.1.filter _, fun data hdata => h.2 data (List.mem_of_mem_filter hdata)⟩

/-- Whatever the log holds, the replay applies every well-formed entry
exactly when no record that ends it stands before one; and then the state
is the one the log without the other records gives. -/
theorem applies_all_good_iff (R : Reader) (now : Time) (s : Server)
    (file : Bytes) :
    (applied R now s file = goods R (records file) ↔ Unobstructed R (records file)) ∧
      (Unobstructed R (records file) → replayWAL R now s file =
          replayWAL R now s (frames ((records file).filter (good R)))) := by
  refine ⟨by rw [applied_trace, trace_eq_goods_iff], fun h => ?_⟩
  have hrecords : records (frames ((records file).filter (good R))) =
      (records file).filter (good R) := by
    have hread := records_frames_append
      (fun p (hp : p ∈ (records file).filter (good R)) =>
        mem_records_lt (List.mem_of_mem_filter hp)) []
    rw [List.append_nil, records_of_incomplete next_nil, List.append_nil] at hread
    exact hread
  rw [replayWAL_trace, replayWAL_trace, hrecords,
    (trace_eq_goods_iff R _).mpr h, (trace_eq_goods_iff R _).mpr h.filter,
    goods_filter]

/-! ## Runs -/

/-- The text of a key rotation without any field. -/
def emptyRotationText : Bytes :=
  utf8 "\x7b\"seq_no\":0,\"type\":12,\"data\":\x7b\x7d\x7d"

/-- The payload of a registration of node one. -/
def registerPayloadText : Bytes :=
  utf8 "\x7b\"node_id\":1,\"public_key\":\"AAAA\"\x7d"

/-- The text of that registration. -/
def registerText : Bytes :=
  utf8 "\x7b\"seq_no\":0,\"type\":1,\"data\":" ++ registerPayloadText ++ utf8 "\x7d"

/-- How the two texts are read. Nothing else is. -/
def twoTexts : Reader where
  entry := fun data =>
    if data = emptyRotationText then some ⟨.keyRotation, utf8 "\x7b\x7d"⟩
    else if data = registerText then some ⟨.register, registerPayloadText⟩
    else none
  register := fun data =>
    if data = registerPayloadText then .ok { nodeID := 1, publicKey := "AAAA" }
    else .error "unexpected end of JSON input"
  deregister := fun _ => .error "unexpected end of JSON input"
  networkCreate := fun _ => .error "unexpected end of JSON input"
  networkDelete := fun _ => .error "unexpected end of JSON input"
  membership := fun _ => .error "unexpected end of JSON input"
  keyRotation := fun data =>
    if data = utf8 "\x7b\x7d" then .ok { nodeID := 0, newPublicKey := "" }
    else .error "unexpected end of JSON input"

/-- A rotation without its fields takes the registration after it with
it. -/
theorem refused_entry_ends_replay : ¬ ∀ (R : Reader) (now : Time) (s : Server) (file : Bytes),
      replayWAL R now s file = replayWAL R now s (frames ((records file).filter (good R))) := by
  intro h
  have hstate := h twoTexts 0 {} (frames [emptyRotationText, registerText])
  have hnode := congrArg (fun s => s.nodes.has 1) hstate
  exact absurd hnode (by decide)

/-- A record that does not parse is skipped. -/
theorem applies_all_good_after_garbage : applied twoTexts 0 {} (frames [[1], registerText]) =
      goods twoTexts (records (frames [[1], registerText])) := by
  refine (applies_all_good_iff twoTexts 0 {} _).1.mpr ?_
  unfold Unobstructed
  decide

end Rendezvous.Wal

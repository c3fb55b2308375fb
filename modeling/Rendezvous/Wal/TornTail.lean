import Rendezvous.Wal.Log

/-!
# A crash in the middle of a record

Entries are appended, the process dies while it writes one more, the log is
opened again and appended to. `Replay` reads the entries back when every
one of them is short enough for it, and when the record that was cut short
is at the end of the file or left no byte. A record that was cut short and
is followed by others takes bytes of theirs for its own: opening the log
does not cut it off.
-/

namespace Rendezvous.Wal

open Base Base.Framing Registry

variable {Entry : Type}

/-- The entries `Replay` calls its function on, in order. -/
def calls (C : Codec Entry) (file : Bytes) : List Entry :=
  (replayFile C.unmarshal (fun log entry => .ok (log ++ [entry])) [] file).state

/-- What an entry was written as. -/
def Written (C : Codec Entry) (entry : Entry) (data : Bytes) : Prop :=
  C.marshal entry = .ok data ∧ data.length < 2 ^ 32

/-! ## Appending -/

variable {C : Codec Entry} {entries : List Entry}

theorem append_ok {w w' : Log} {entry : Entry} (h : append C w entry = .ok w') :
    ∃ data, Written C entry data ∧ w'.file = w.file ++ frame data := by
  simp only [append, bind_eq_ok, require_eq_ok, decide_eq_true_eq, pure_eq_ok] at h
  obtain ⟨data, hmarshal, _, hcap, rfl⟩ := h
  have hdata : C.marshal entry = .ok data := by
    cases hm : C.marshal entry with
    | error e => simp [hm, Except.mapError] at hmarshal
    | ok d => simpa [hm, Except.mapError] using hmarshal
  refine ⟨data, ⟨hdata, ?_⟩, rfl⟩
  unfold maxWALSize at hcap
  omega

theorem appendAll_ok {w w' : Log} (h : appendAll C w entries = .ok w') :
    ∃ ps, List.Forall₂ (Written C) entries ps ∧ w'.file = w.file ++ frames ps := by
  induction entries generalizing w with
  | nil =>
    cases h
    exact ⟨[], .nil, by simp⟩
  | cons entry entries ih =>
    simp only [appendAll, List.foldlM_cons, bind_eq_ok] at h
    obtain ⟨w₁, hone, hrest⟩ := h
    obtain ⟨data, hdata, hfile⟩ := append_ok hone
    obtain ⟨ps, hps, hfile'⟩ := ih hrest
    exact ⟨data :: ps, .cons hdata hps, by
      rw [hfile', hfile, frames_cons, List.append_assoc]⟩

theorem Written.lengths {ps : List Bytes} (h : List.Forall₂ (Written C) entries ps) :
    ∀ p ∈ ps, p.length < 2 ^ 32 := by
  induction h with
  | nil => simp
  | cons hdata _ ih =>
    intro p hp
    rcases List.mem_cons.mp hp with rfl | hp
    · exact hdata.2
    · exact ih p hp

/-! ## Reading back -/

/-- Written entries that are short enough are all read, in order. -/
theorem consume_written {ps : List Bytes} (h : List.Forall₂ (Written C) entries ps)
    (hshort : ∀ entry ∈ entries, ∀ data, C.marshal entry = .ok data →
      data.length ≤ maxEntrySize) (log : List Entry) :
    consume C.unmarshal (fun log entry => .ok (log ++ [entry])) log ps = log ++ entries := by
  induction h generalizing log with
  | nil => simp [consume]
  | @cons entry data entries ps hdata _ ih =>
    have hlength : ¬ data.length > maxEntrySize :=
      Nat.not_lt.mpr (hshort entry (by simp) data hdata.1)
    simp only [consume, if_neg hlength, C.roundTrip hdata.1]
    rw [ih fun e he => hshort e (by simp [he])]
    simp

theorem calls_frames_append {ps : List Bytes} (h : List.Forall₂ (Written C) entries ps)
    (hshort : ∀ entry ∈ entries, ∀ data, C.marshal entry = .ok data →
      data.length ≤ maxEntrySize) {rest : Bytes} (hrest : next rest = none) :
    calls C (frames ps ++ rest) = entries := by
  unfold calls
  rw [replayFile_state, records_frames_append (Written.lengths h),
    records_of_incomplete hrest, List.append_nil, consume_written h hshort]
  rfl

/-- The file of a log that was appended to, cut in the middle of one more
record, opened again and appended to. -/
def Crashed (C : Codec Entry) (before : List Entry) (torn : Bytes)
    (after : List Entry) (file : Bytes) : Prop :=
  ∃ w₁ w₂ w₃ entry, appendAll C (newWAL []) before = .ok w₁ ∧ append C w₁ entry = .ok w₂ ∧
    w₁.file ++ torn <+: w₂.file ∧ w₁.file ++ torn ≠ w₂.file ∧
    appendAll C (newWAL (w₁.file ++ torn)) after = .ok w₃ ∧ w₃.file = file

/-- If every entry is short enough to be read, and nothing was written after
a record that was cut short, the replay calls its function on exactly the
entries that were appended, in order. -/
theorem calls_after_crash (C : Codec Entry) (before after : List Entry)
    (torn file : Bytes) (h : Crashed C before torn after file)
    (hshort : ∀ entry ∈ before ++ after, ∀ data, C.marshal entry = .ok data →
      data.length ≤ maxEntrySize)
    (htorn : torn = [] ∨ after = []) :
    calls C file = before ++ after := by
  obtain ⟨w₁, w₂, w₃, entry, hbefore, hentry, hpart, hproper, hafter, rfl⟩ := h
  obtain ⟨ps, hps, hfile₁⟩ := appendAll_ok hbefore
  obtain ⟨data, hdata, hfile₂⟩ := append_ok hentry
  obtain ⟨qs, hqs, hfile₃⟩ := appendAll_ok hafter
  have hfile₁ : w₁.file = frames ps := hfile₁
  have hfile₃ : w₃.file = frames ps ++ torn ++ frames qs := by
    rw [hfile₃, ← hfile₁]
    rfl
  rcases htorn with rfl | rfl
  · have hall : List.Forall₂ (Written C) (before ++ after) (ps ++ qs) :=
      List.rel_append hps hqs
    have hjoined : w₃.file = frames (ps ++ qs) ++ [] := by
      rw [hfile₃, frames_append, List.append_nil, List.append_nil]
    rw [hjoined, calls_frames_append hall hshort next_nil]
  · cases hqs
    rw [hfile₂, hfile₁] at hpart hproper
    have hincomplete : next torn = none :=
      next_of_torn hdata.2 ((List.prefix_append_right_inj _).mp hpart)
        fun heq => hproper (by rw [heq])
    have hjoined : w₃.file = frames ps ++ torn := by
      rw [hfile₃, frames_nil, List.append_nil]
    rw [List.append_nil] at hshort ⊢
    rw [hjoined, calls_frames_append hps hshort hincomplete]

/-! ## Runs -/

/-- Entries that are their own JSON text. -/
def textCodec : Codec Bytes where
  marshal := .ok
  unmarshal := some
  roundTrip := fun h => congrArg some (Except.ok.inj h).symm

/-- The empty object, in two bytes. -/
def shortText : Bytes := [123, 125]

/-- The empty object, in ten bytes. -/
def longText : Bytes := [123, 32, 32, 32, 32, 32, 32, 32, 32, 125]

/-- The header of a record that was cut off right after it takes the next
record for its payload, and that one is never read. -/
theorem append_after_torn_lost : ¬ ∀ (Entry : Type) (C : Codec Entry) (before after : List Entry)
      (torn file : Bytes), Crashed C before torn after file →
      calls C file = before ++ after := by
  intro h
  have hlost := h Bytes textCodec [] [shortText] (le32 longText.length)
    (le32 longText.length ++ frame shortText)
    ⟨newWAL [], ⟨frame longText, 14⟩, ⟨le32 longText.length ++ frame shortText, 10⟩, longText,
      rfl, rfl, ⟨longText, rfl⟩, by decide, rfl, rfl⟩
  exact absurd hlost (by decide)

theorem calls_after_crash_torn :
    calls textCodec (frame shortText ++ le32 longText.length) = [shortText] :=
  calls_after_crash textCodec [shortText] [] (le32 longText.length) _
    ⟨⟨frame shortText, 6⟩, ⟨frame shortText ++ frame longText, 20⟩,
      ⟨frame shortText ++ le32 longText.length, 10⟩, longText,
      rfl, rfl, ⟨longText, rfl⟩, by decide, rfl, rfl⟩
    (by
      intro entry hentry data hdata
      cases hdata
      obtain rfl := List.mem_singleton.mp hentry
      decide)
    (Or.inr rfl)

end Rendezvous.Wal

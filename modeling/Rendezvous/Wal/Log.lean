import Rendezvous.Base.Framing
import Rendezvous.Registry.State

/-!
# The log file

The write-ahead log as bytes: records of an entry's JSON, each with its
length in front. `append` refuses what would make the file larger than
`maxWALSize`; `replay` reads records from the start, refuses one that is
longer than `maxEntrySize`, and ends at a record that is cut short. A log
that is opened again keeps every byte of its file.

The encoding of an entry is a parameter. `consume` is what `replay` makes
of the records of the file, one after the other.
-/

namespace Rendezvous.Wal

open Base Base.Framing Registry

/-- The JSON encoding of an entry. What `marshal` writes, `unmarshal`
reads. -/
structure Codec (Entry : Type) where
  marshal : Entry → Except String Bytes
  unmarshal : Bytes → Option Entry
  roundTrip : ∀ {e data}, marshal e = .ok data → unmarshal data = some e

/-- `maxWALSize`: 256 MiB. -/
def maxWALSize : Nat := 268435456

/-- What `Replay` takes for the longest entry: 1 MiB. -/
def maxEntrySize : Nat := 1048576

/-- An open log: its file, and the size it keeps account of. -/
structure Log where
  file : Bytes
  size : Nat
  deriving DecidableEq

/-- `NewWAL`, on what the file holds. -/
def newWAL (file : Bytes) : Log := ⟨file, file.length⟩

variable {Entry S : Type}

/-- `Append`. The record is written by one call. -/
def append (C : Codec Entry) (w : Log) (entry : Entry) : Except String Log := do
  let data ← (C.marshal entry).mapError fun e => s!"marshal WAL entry: {e}"
  require (4 + data.length + w.size ≤ maxWALSize)
    "WAL: at size cap, refusing append"
  return ⟨w.file ++ frame data, w.size + (4 + data.length)⟩

/-- Several entries, one after the other. -/
def appendAll (C : Codec Entry) (w : Log) (entries : List Entry) : Except String Log :=
  entries.foldlM (append C) w

/-! ## Replay -/

/-- What `Replay` leaves: the state its function was left with, how many
entries were applied, and the error it ended with. -/
structure Replayed (S : Type) where
  state : S
  count : Nat
  err : Option String

section replay

variable (unmarshal : Bytes → Option Entry) (fn : S → Entry → Except String S)

/-- The loop of `Replay`, on what is left of the file. -/
def replayLoop : Nat → S → Nat → Bytes → Replayed S
  | 0, s, count, _ => ⟨s, count, none⟩
  | fuel + 1, s, count, file =>
    if file.length < 4 then ⟨s, count, none⟩
    else
      let length := readLe32 file
      let rest := file.drop 4
      if length > maxEntrySize then
        ⟨s, count, some s!"WAL entry {count} too large: {length} bytes"⟩
      -- A record that is cut short is taken for the torn tail of a crash.
      else if rest.length < length then ⟨s, count, none⟩
      else
        match unmarshal (rest.take length) with
        | none => replayLoop fuel s count (rest.drop length)
        | some entry =>
          match fn s entry with
          | .error e => ⟨s, count, some s!"apply WAL entry {count}: {e}"⟩
          | .ok s' => replayLoop fuel s' (count + 1) (rest.drop length)

/-- `Replay`. A record takes at least four bytes, so the loop ends before
the file does. -/
def replayFile (s : S) (file : Bytes) : Replayed S :=
  replayLoop unmarshal fn file.length s 0 file

/-- The state after the records: one that does not parse is skipped, one
that is too long or refused is the last. -/
def consume (s : S) : List Bytes → S
  | [] => s
  | data :: rest =>
    if data.length > maxEntrySize then s
    else
      match unmarshal data with
      | none => consume s rest
      | some entry =>
        match fn s entry with
        | .error _ => s
        | .ok s' => consume s' rest

theorem replayLoop_state (fuel : Nat) (s : S) (count : Nat) (file : Bytes)
    (h : file.length ≤ fuel) :
    (replayLoop unmarshal fn fuel s count file).state = consume unmarshal fn s (records file) := by
  induction fuel generalizing s count file with
  | zero =>
    obtain rfl := List.length_eq_zero_iff.mp (Nat.le_zero.mp h)
    rfl
  | succ fuel ih =>
    unfold replayLoop
    by_cases hshort : file.length < 4
    · have hnext : next file = none := by rw [next, if_pos hshort]
      rw [if_pos hshort, records_of_incomplete hnext]
      rfl
    rw [if_neg hshort]
    by_cases htorn : (file.drop 4).length < readLe32 file
    · -- Whatever its length, a record that is cut short ends the loop.
      have hnext : next file = none := by rw [next, if_neg hshort, if_pos htorn]
      rw [records_of_incomplete hnext]
      simp only [htorn, if_true]
      split <;> rfl
    · have hnext : next file = some ((file.drop 4).take (readLe32 file),
          (file.drop 4).drop (readLe32 file)) := by
        rw [next, if_neg hshort, if_neg htorn]
      have hlength := length_payload_of_next hnext
      have hshorter := length_of_next hnext
      have hfuel : ((file.drop 4).drop (readLe32 file)).length ≤ fuel := by omega
      rw [records_of_next hnext]
      simp only [consume, hlength, htorn, if_false]
      split
      · rfl
      · split
        · exact ih _ _ _ hfuel
        · split
          · rfl
          · exact ih _ _ _ hfuel

/-- What a replay leaves depends on the records of the file alone. -/
theorem replayFile_state (s : S) (file : Bytes) : (replayFile unmarshal fn s file).state =
      consume unmarshal fn s (records file) :=
  replayLoop_state unmarshal fn file.length s 0 file (Nat.le_refl _)

end replay

end Rendezvous.Wal

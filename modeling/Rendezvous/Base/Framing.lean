import Mathlib.Algebra.Group.Nat.Defs
import Mathlib.Data.List.Basic

/-!
# Length-prefixed records

A file of records, each written as its length in four little-endian bytes
and its payload. `records` reads a file back, as far as it holds whole
records: a rest that is shorter than its header says, or than a header, is
left unread. Writing records after each other and reading them gives them
back, whatever incomplete rest follows (`records_frames_append`).
-/

namespace Rendezvous.Base.Framing

variable {p file rest : List UInt8}

/-! ## The header -/

/-- `binary.LittleEndian.PutUint32`. -/
def le32 (n : Nat) : List UInt8 :=
  [UInt8.ofNat n, UInt8.ofNat (n / 256), UInt8.ofNat (n / 65536), UInt8.ofNat (n / 16777216)]

/-- `binary.LittleEndian.Uint32`, on the first four bytes. -/
def readLe32 : List UInt8 → Nat
  | a :: b :: c :: d :: _ =>
    a.toNat + 256 * b.toNat + 65536 * c.toNat + 16777216 * d.toNat
  | _ => 0

@[simp] theorem length_le32 (n : Nat) : (le32 n).length = 4 := rfl

theorem readLe32_le32 {n : Nat} (h : n < 2 ^ 32) (rest : List UInt8) :
    readLe32 (le32 n ++ rest) = n := by
  simp only [le32, readLe32, List.cons_append, UInt8.toNat_ofNat']
  omega

/-- A length read from four bytes fits in four bytes. -/
theorem readLe32_lt (bytes : List UInt8) : readLe32 bytes < 2 ^ 32 := by
  unfold readLe32
  split
  · next a b c d _ =>
    have ha := a.toNat_lt
    have hb := b.toNat_lt
    have hc := c.toNat_lt
    have hd := d.toNat_lt
    omega
  · decide

/-- Only the first four bytes are read. -/
theorem readLe32_append {header : List UInt8} (h : 4 ≤ header.length)
    (rest : List UInt8) : readLe32 (header ++ rest) = readLe32 header := by
  match header, h with
  | _ :: _ :: _ :: _ :: _, _ => rfl

/-! ## Records -/

/-- One record. -/
def frame (payload : List UInt8) : List UInt8 :=
  le32 payload.length ++ payload

/-- The records one after the other. -/
def frames (payloads : List (List UInt8)) : List UInt8 :=
  payloads.flatMap frame

@[simp] theorem frames_nil : frames [] = [] := rfl

@[simp] theorem frames_cons (p : List UInt8) (ps : List (List UInt8)) :
    frames (p :: ps) = frame p ++ frames ps := rfl

theorem frames_append (ps qs : List (List UInt8)) :
    frames (ps ++ qs) = frames ps ++ frames qs := List.flatMap_append

@[simp] theorem length_frame (p : List UInt8) : (frame p).length = 4 + p.length := by
  simp [frame]

/-- The first record and what follows it, if the file starts with a whole
record. -/
def next (file : List UInt8) : Option (List UInt8 × List UInt8) :=
  if file.length < 4 then none
  else if (file.drop 4).length < readLe32 file then none
  else some ((file.drop 4).take (readLe32 file), (file.drop 4).drop (readLe32 file))

theorem next_frame (h : p.length < 2 ^ 32) (rest : List UInt8) :
    next (frame p ++ rest) = some (p, rest) := by
  have hread : readLe32 (frame p ++ rest) = p.length := by
    rw [frame, List.append_assoc]
    exact readLe32_le32 h _
  have hdrop : (frame p ++ rest).drop 4 = p ++ rest := by
    rw [frame, List.append_assoc]
    exact List.drop_left' (length_le32 p.length)
  have hlong : ¬ (frame p ++ rest).length < 4 := by
    rw [List.length_append, length_frame]
    omega
  have henough : ¬ (p ++ rest).length < p.length := by
    rw [List.length_append]
    omega
  unfold next
  rw [if_neg hlong, hread, hdrop, if_neg henough, List.take_left, List.drop_left]

/-- Every record takes at least its header. -/
theorem length_of_next (h : next file = some (p, rest)) : rest.length < file.length := by
  unfold next at h
  split at h
  · cases h
  · split at h
    · cases h
    · obtain ⟨-, rfl⟩ := Prod.mk.inj (Option.some.inj h)
      simp only [List.length_drop]
      omega

theorem length_payload_of_next (h : next file = some (p, rest)) : p.length = readLe32 file := by
  unfold next at h
  split at h
  · cases h
  · split at h
    · cases h
    · next henough =>
      obtain ⟨rfl, -⟩ := Prod.mk.inj (Option.some.inj h)
      rw [List.length_take]
      omega

/-- The records of a file, read at most `fuel` times. -/
def recordsFrom : Nat → List UInt8 → List (List UInt8)
  | 0, _ => []
  | fuel + 1, file =>
    match next file with
    | none => []
    | some (p, rest) => p :: recordsFrom fuel rest

/-- The whole records a file starts with. -/
def records (file : List UInt8) : List (List UInt8) :=
  recordsFrom file.length file

theorem next_nil : next [] = none := rfl

/-- Reading on after the end gives nothing. -/
theorem recordsFrom_enough {fuel fuel' : Nat} (h : file.length ≤ fuel) (h' : file.length ≤ fuel') :
    recordsFrom fuel file = recordsFrom fuel' file := by
  induction fuel generalizing fuel' file with
  | zero =>
    obtain rfl := List.length_eq_zero_iff.mp (Nat.le_zero.mp h)
    cases fuel' <;> rfl
  | succ fuel ih =>
    cases fuel' with
    | zero =>
      obtain rfl := List.length_eq_zero_iff.mp (Nat.le_zero.mp h')
      rfl
    | succ fuel' =>
      simp only [recordsFrom]
      cases hnext : next file with
      | none => rfl
      | some pr =>
        obtain ⟨p, rest⟩ := pr
        have hshorter := length_of_next hnext
        have hfuel : rest.length ≤ fuel := by omega
        have hfuel' : rest.length ≤ fuel' := by omega
        simp only
        rw [ih hfuel hfuel']

theorem records_of_next (h : next file = some (p, rest)) : records file = p :: records rest := by
  have hshorter := length_of_next h
  obtain ⟨fuel, hfuel⟩ := Nat.exists_eq_succ_of_ne_zero
    (Nat.ne_of_gt (Nat.lt_of_le_of_lt (Nat.zero_le _) hshorter))
  have henough : rest.length ≤ fuel := by omega
  unfold records
  rw [hfuel, recordsFrom, h]
  simp only
  rw [recordsFrom_enough henough (Nat.le_refl rest.length)]

theorem records_of_incomplete (h : next file = none) : records file = [] := by
  unfold records
  cases file.length with
  | zero => rfl
  | succ fuel => rw [recordsFrom, h]

/-- What was written is read back, and then the records of what follows. -/
theorem records_frames_append {ps : List (List UInt8)}
    (h : ∀ p ∈ ps, p.length < 2 ^ 32) (rest : List UInt8) :
    records (frames ps ++ rest) = ps ++ records rest := by
  induction ps with
  | nil => rfl
  | cons p ps ih =>
    rw [frames_cons, List.append_assoc, records_of_next (next_frame (h p (by simp)) _),
      ih fun q hq => h q (by simp [hq])]
    rfl

theorem mem_records_lt (h : p ∈ records file) : p.length < 2 ^ 32 := by
  suffices hfrom : ∀ fuel file, p ∈ recordsFrom fuel file → p.length < 2 ^ 32 from
    hfrom _ _ h
  intro fuel
  induction fuel with
  | zero =>
    intro file h
    cases h
  | succ fuel ih =>
    intro file h
    simp only [recordsFrom] at h
    cases hnext : next file with
    | none =>
      rw [hnext] at h
      cases h
    | some pr =>
      obtain ⟨q, rest⟩ := pr
      rw [hnext] at h
      rcases List.mem_cons.mp h with rfl | h
      · rw [length_payload_of_next hnext]
        exact readLe32_lt file
      · exact ih rest h

/-- A proper beginning of a record is no whole record. -/
theorem next_of_torn {torn : List UInt8} (h : p.length < 2 ^ 32) (htorn : torn <+: frame p)
    (hproper : torn ≠ frame p) :
    next torn = none := by
  obtain ⟨missing, hmissing⟩ := htorn
  have hne : missing ≠ [] := by
    rintro rfl
    exact hproper (by rw [← hmissing, List.append_nil])
  have hlength := congrArg List.length hmissing
  rw [List.length_append, length_frame] at hlength
  have hpos : 0 < missing.length := List.length_pos_iff.mpr hne
  unfold next
  by_cases hshort : torn.length < 4
  · rw [if_pos hshort]
  · have hread : readLe32 torn = p.length := by
      rw [← readLe32_append (Nat.not_lt.mp hshort) missing, hmissing]
      exact readLe32_le32 h p
    rw [if_neg hshort, hread, if_pos]
    rw [List.length_drop]
    omega

end Rendezvous.Base.Framing

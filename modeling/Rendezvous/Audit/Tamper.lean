import Rendezvous.Audit.Chain

/-!
# What the hash of an entry determines

`VerifyIntegrity` compares the hash of every entry with the hash of its
fields. The fields are hashed one after the other, and only the ids have a
fixed width, so a byte that moves from the timestamp to the action leaves the
hash as it is (`moved_byte_accepted`). A changed log is accepted exactly when
every entry hashes the bytes it did; so it is rejected when every changed
timestamp and action keeps its length in bytes (`tampering_detected`).

The digest is any function to 32 bytes, without a collision among the byte
strings that the two logs hash.
-/

namespace Rendezvous.Audit

open Base Registry

/-! ## The hashed bytes -/

theorem textBytes_injective : Function.Injective textBytes := by
  intro s t h
  have hdata : s.toUTF8.data = t.toUTF8.data := Array.toList_inj.mp h
  exact String.toByteArray_inj.mp (ByteArray.ext hdata)

/-- The bytes that are hashed for an entry. -/
def Entry.hashed (e : Entry) : Bytes :=
  hashedBytes e.prevHash e.timestamp e.action e.networkID e.nodeID e.details

theorem uint16_of_bytes {a b : UInt16}
    (h : [(a >>> 8).toUInt8, a.toUInt8] = [(b >>> 8).toUInt8, b.toUInt8]) : a = b := by
  simp only [List.cons.injEq, and_true, ← UInt8.toNat_inj] at h
  simp [Nat.shiftRight_eq_div_pow] at h
  apply UInt16.toNat_inj.mp
  have := a.toNat_lt
  have := b.toNat_lt
  omega

theorem uint32_of_bytes {a b : UInt32}
    (h : [(a >>> 24).toUInt8, (a >>> 16).toUInt8, (a >>> 8).toUInt8, a.toUInt8] =
      [(b >>> 24).toUInt8, (b >>> 16).toUInt8, (b >>> 8).toUInt8, b.toUInt8]) : a = b := by
  simp only [List.cons.injEq, and_true, ← UInt8.toNat_inj] at h
  simp [Nat.shiftRight_eq_div_pow] at h
  apply UInt32.toNat_inj.mp
  have := a.toNat_lt
  have := b.toNat_lt
  omega

theorem digitChar_injective {m n : Nat} (hm : m < 16) (hn : n < 16)
    (h : Nat.digitChar m = Nat.digitChar n) : m = n := by
  have hdigits : ∀ a b : Fin 16, Nat.digitChar a = Nat.digitChar b → a = b := by decide
  exact congrArg Fin.val (hdigits ⟨m, hm⟩ ⟨n, hn⟩ h)

theorem hexEncode_injective : Function.Injective hexEncode := by
  intro x y h
  have hdigits := String.ofList_injective h
  apply Vector.toList_inj.mp
  have hlength : x.toList.length = y.toList.length := by simp
  generalize x.toList = xs at hdigits hlength ⊢
  generalize y.toList = ys at hdigits hlength ⊢
  -- byte by byte: each contributes two digits
  induction xs generalizing ys with
  | nil => exact (List.length_eq_zero_iff.mp hlength.symm).symm
  | cons a xs ih =>
    cases ys with
    | nil => cases hlength
    | cons b ys =>
      simp only [List.flatMap_cons, List.cons_append, List.nil_append, List.cons.injEq] at hdigits
      obtain ⟨hhigh, hlow, hrest⟩ := hdigits
      have ha := a.toNat_lt
      have hb := b.toNat_lt
      have hdiv := digitChar_injective (by omega) (by omega) hhigh
      have hmod := digitChar_injective (by omega) (by omega) hlow
      have hbyte : a = b := UInt8.toNat_inj.mp (by omega)
      rw [hbyte, ih ys hrest (Nat.succ.inj hlength)]

/-! ## Changed logs -/

/-- The entry `e'` has the two hashes of `e`. -/
def Altered (e e' : Entry) : Prop := e'.prevHash = e.prevHash ∧ e'.hash = e.hash

/-- The timestamps have one length in bytes, and so have the actions. -/
def SameWidths (e e' : Entry) : Prop :=
  (textBytes e'.timestamp).length = (textBytes e.timestamp).length ∧
    (textBytes e'.action).length = (textBytes e.action).length

theorem Altered.eq_of_hashed {e e' : Entry} (h : Altered e e') (hwidths : SameWidths e e')
    (hhashed : e'.hashed = e.hashed) : e' = e := by
  obtain ⟨hprev, hhash⟩ := h
  obtain ⟨htimestamp, haction⟩ := hwidths
  simp only [Entry.hashed, hashedBytes, hprev, List.append_assoc] at hhashed
  have hrest := List.append_cancel_left hhashed
  obtain ⟨hts, hrest⟩ := List.append_inj hrest htimestamp
  obtain ⟨hact, hrest⟩ := List.append_inj hrest haction
  obtain ⟨hnet, hrest⟩ := List.append_inj hrest rfl
  obtain ⟨hnode, hdetails⟩ := List.append_inj hrest rfl
  cases e
  cases e'
  simp only [Entry.mk.injEq]
  exact ⟨textBytes_injective hts, textBytes_injective hact, uint16_of_bytes hnet,
    uint32_of_bytes hnode, textBytes_injective hdetails, hprev, hhash⟩

section

variable (sha : Bytes → Vector UInt8 32)

/-- The digest tells the byte strings apart that the two logs hash. -/
def NoCollision (log log' : List Entry) : Prop :=
  ∀ e ∈ log, ∀ e' ∈ log', sha e'.hashed = sha e.hashed → e'.hashed = e.hashed

theorem linked_of_verifyFrom {prev : String} {i : Int} {log : List Entry} (hi : 0 ≤ i)
    (h : verifyFrom sha prev i log = -1) : Linked sha prev log := by
  induction log generalizing prev i with
  | nil => trivial
  | cons e es ih =>
    rw [verifyFrom] at h
    split at h
    · omega
    · next hprev =>
      split at h
      · omega
      · next hhash => exact ⟨not_not.mp hprev, not_not.mp hhash, ih (by omega) h⟩

/-- The entry `e'` hashes the bytes that `e` does. -/
def SameBytes (e e' : Entry) : Prop := e'.hashed = e.hashed

theorem Linked.sameBytes {prev prev' : String} {log log' : List Entry}
    (hlinked : Linked sha prev log) (hlinked' : Linked sha prev' log')
    (hdigest : NoCollision sha log log') (halters : List.Forall₂ Altered log log') :
    List.Forall₂ SameBytes log log' := by
  induction halters generalizing prev prev' with
  | nil => exact .nil
  | @cons e e' es es' halter _ ih =>
    obtain ⟨_, hhash, hrest⟩ := hlinked
    obtain ⟨_, hhash', hrest'⟩ := hlinked'
    have hencoded : hexEncode (sha e'.hashed) = hexEncode (sha e.hashed) :=
      hhash'.symm.trans (halter.2.trans hhash)
    have hhashed := hdigest e List.mem_cons_self e' List.mem_cons_self
      (hexEncode_injective hencoded)
    refine .cons hhashed (ih hrest hrest' fun f hf f' hf' => ?_)
    exact hdigest f (List.mem_cons_of_mem e hf) f' (List.mem_cons_of_mem e' hf')

theorem Linked.of_sameBytes {prev : String} {log log' : List Entry}
    (hlinked : Linked sha prev log) (halters : List.Forall₂ Altered log log')
    (hbytes : List.Forall₂ SameBytes log log') : Linked sha prev log' := by
  induction halters generalizing prev with
  | nil => trivial
  | @cons e e' es es' halter _ ih =>
    obtain ⟨hprev, hhash, hrest⟩ := hlinked
    obtain ⟨hhashed, hbytes⟩ := List.forall₂_cons.mp hbytes
    refine ⟨halter.1.trans hprev, ?_, ?_⟩
    · exact (halter.2.trans hhash).trans
        (congrArg (fun text => hexEncode (sha text)) (Eq.symm hhashed))
    · rw [halter.2]
      exact ih hrest hbytes

theorem eq_of_sameWidths {log log' : List Entry} (halters : List.Forall₂ Altered log log')
    (hbytes : List.Forall₂ SameBytes log log') (hwidths : List.Forall₂ SameWidths log log') :
    log' = log := by
  induction halters with
  | nil => rfl
  | cons halter _ ih =>
    obtain ⟨hhashed, hbytes⟩ := List.forall₂_cons.mp hbytes
    obtain ⟨hwidth, hwidths⟩ := List.forall₂_cons.mp hwidths
    rw [halter.eq_of_hashed hwidth hhashed, ih hbytes hwidths]

/-- A log that `VerifyIntegrity` accepts is accepted after a change that
keeps the hashes exactly when every entry hashes the same bytes. It is
rejected if the timestamps and actions keep their lengths. -/
theorem tampering_detected (st st' : Ring) (hdigest : NoCollision sha st.log st'.log)
    (haccepted : st.verifyIntegrity sha = -1) (halters : List.Forall₂ Altered st.log st'.log) :
    (st'.verifyIntegrity sha = -1 ↔ List.Forall₂ SameBytes st.log st'.log) ∧
      (List.Forall₂ SameWidths st.log st'.log → st'.log ≠ st.log →
        st'.verifyIntegrity sha ≠ -1) := by
  have hlinked := linked_of_verifyFrom sha (Int.le_refl 0) haccepted
  have hbytes : st'.verifyIntegrity sha = -1 → List.Forall₂ SameBytes st.log st'.log :=
    fun haccepted' => hlinked.sameBytes sha (linked_of_verifyFrom sha (Int.le_refl 0) haccepted')
      hdigest halters
  refine ⟨⟨hbytes, fun h => (hlinked.of_sameBytes sha halters h).verifyFrom sha 0⟩, ?_⟩
  intro hwidths hne haccepted'
  exact hne (eq_of_sameWidths halters (hbytes haccepted') hwidths)

end

/-- A node id changed in the log of one entry. -/
theorem tampering_detected_node :
    let sha : Bytes → Vector UInt8 32 := fun text => Vector.replicate 32 (text.foldl (· + ·) 0)
    let e : Entry := { timestamp := "2026-01-01T00:00:00Z", action := "node.registered" }
    let e := { e with hash := e.expected sha }
    ({ log := [{ e with nodeID := 7 }] } : Ring).verifyIntegrity sha ≠ -1 := by
  intro sha e₀ e
  refine (tampering_detected sha { log := [e] } _ ?_ (by decide +kernel)
    (.cons ⟨rfl, rfl⟩ .nil)).2 (.cons ⟨rfl, rfl⟩ .nil) (by decide)
  intro f hf f' hf'
  rw [List.mem_singleton.mp hf, List.mem_singleton.mp hf']
  decide +kernel

/-- The first byte of the action moved to the end of the timestamp: both logs
are accepted, whatever the digest. -/
theorem moved_byte_accepted :
    ¬ ∃ sha, ∀ st st' : Ring, NoCollision sha st.log st'.log → st.verifyIntegrity sha = -1 →
      List.Forall₂ Altered st.log st'.log → st'.log ≠ st.log →
      st'.verifyIntegrity sha ≠ -1 := by
  rintro ⟨sha, h⟩
  let e : Entry := { timestamp := "2026-01-01T00:00:00Z", action := "node.registered" }
  let moved : Entry := { timestamp := "2026-01-01T00:00:00Zn", action := "ode.registered" }
  have hhashed : moved.hashed = e.hashed := by decide +kernel
  have hlinked : Linked sha "" [{ e with hash := e.expected sha }] := ⟨rfl, rfl, trivial⟩
  have hlinked' : Linked sha "" [{ moved with hash := e.expected sha }] :=
    ⟨rfl, congrArg (fun text => hexEncode (sha text)) hhashed.symm, trivial⟩
  refine h { log := [{ e with hash := e.expected sha }] }
    { log := [{ moved with hash := e.expected sha }] } ?_ (hlinked.verifyFrom sha 0)
    (.cons ⟨rfl, rfl⟩ .nil) ?_ (hlinked'.verifyFrom sha 0)
  · intro f hf f' hf' _
    rw [List.mem_singleton.mp hf, List.mem_singleton.mp hf']
    exact hhashed
  · intro heq
    have htimestamp : "2026-01-01T00:00:00Zn" = "2026-01-01T00:00:00Z" :=
      congrArg Entry.timestamp (List.cons.inj heq).1
    exact absurd htimestamp (by decide)

end Rendezvous.Audit

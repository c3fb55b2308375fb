import Mathlib.Data.Finset.Card
import Mathlib.Data.Fintype.Basic
import Rendezvous.Base.Memo
import Rendezvous.Registry.State

/-!
# The signature cache

`VerifyCached` keeps, in 64 shards, the SHA-256 digests of triples that
verified. The digest is taken over the three byte strings written one
after the other, with nothing between them, so it fixes their
concatenation but not where one ends and the next begins.

The digest type and the hash are parameters: an injective hash into 32
bytes does not exist, so the digests live in any type the hash is
injective into, and `byte0` is the first byte of a digest. The cache is an
instance of `Memo`, and `verifyCached_exact_iff` is its `exact_iff` read at
the concatenation.
-/

namespace Rendezvous.Authz

open Base Registry

/-- The arguments of a call. -/
structure SigCall where
  pubKey : Bytes
  message : Bytes
  sig : Bytes
  deriving DecidableEq

/-- What is hashed: the three arguments, one after the other. -/
def SigCall.joined (c : SigCall) : Bytes := c.pubKey ++ c.message ++ c.sig

/-- `sigCacheShardCount`. -/
abbrev sigCacheShardCount : Nat := 64

/-- `sigCacheShardCap`. -/
def sigCacheShardCap : Nat := 8192

/-- The maps of the shards. A nil map is an empty one. -/
abbrev SigShards (D : Type) := Fin sigCacheShardCount → Finset D

variable {D : Type} [DecidableEq D]
variable (sha256 : Bytes → D) (byte0 : D → UInt8)
variable (verify : Bytes → Bytes → Bytes → Bool)

/-- `crypto.Verify` on the arguments of a call. -/
def SigCall.verified (c : SigCall) : Bool := verify c.pubKey c.message c.sig

omit [DecidableEq D] in
/-- The shard of a digest: its first byte modulo the shard count. -/
def shardOf (key : D) : Fin sigCacheShardCount :=
  ⟨(byte0 key).toNat % sigCacheShardCount, Nat.mod_lt _ (by decide)⟩

/-- Enter a digest. A full shard is replaced by a new map first. -/
def enterKey (shards : SigShards D) (key : D) : SigShards D :=
  let m := shards (shardOf byte0 key)
  let m := if sigCacheShardCap ≤ m.card then ∅ else m
  Function.update shards (shardOf byte0 key) (insert key m)

/-- `VerifyCached`: the answer and the shards it leaves. -/
def verifyCached (shards : SigShards D) (c : SigCall) : Bool × SigShards D :=
  let key := sha256 c.joined
  if key ∈ shards (shardOf byte0 key) then (true, shards)
  else if c.verified verify then (true, enterKey byte0 shards key)
  else (false, shards)

/-- The answers of a sequence of calls. -/
def cachedAnswers : SigShards D → List SigCall → List Bool
  | _, [] => []
  | shards, c :: cs =>
    (verifyCached sha256 byte0 verify shards c).1 ::
      cachedAnswers (verifyCached sha256 byte0 verify shards c).2 cs

/-- The shards when the process starts. -/
def noShards : SigShards D := fun _ => ∅

/-! ## The cache as a memo table -/

theorem mem_enterKey {shards : SigShards D} {key e : D}
    (h : e ∈ enterKey byte0 shards key (shardOf byte0 e)) :
    e = key ∨ e ∈ shards (shardOf byte0 e) := by
  unfold enterKey at h
  by_cases hs : shardOf byte0 e = shardOf byte0 key
  · rw [hs, Function.update_self, Finset.mem_insert] at h
    rcases h with rfl | h
    · exact Or.inl rfl
    · rw [hs]
      split at h
      · simp at h
      · exact Or.inr h
  · rw [Function.update_of_ne hs] at h
    exact Or.inr h

theorem self_mem_enterKey (shards : SigShards D) (key : D) :
    key ∈ enterKey byte0 shards key (shardOf byte0 key) := by
  simp [enterKey]

/-- The shards as a table of digests. -/
def sigMemo : Memo (SigShards D) D where
  hit shards key := decide (key ∈ shards (shardOf byte0 key))
  remember := enterKey byte0
  hit_remember_self t d := by simp [self_mem_enterKey]
  hit_remember h := by
    simp only [decide_eq_true_eq] at h ⊢
    exact mem_enterKey byte0 h

theorem cachedAnswers_eq_memo (shards : SigShards D) (cs : List SigCall) :
    cachedAnswers sha256 byte0 verify shards cs = (sigMemo byte0).answers (fun c => sha256 c.joined)
        (fun c => c.verified verify) shards cs := by
  induction cs generalizing shards with
  | nil => rfl
  | cons c cs ih =>
    have hcall : verifyCached sha256 byte0 verify shards c =
        (sigMemo byte0).call (fun c => sha256 c.joined)
          (fun c => c.verified verify) shards c := by
      simp [verifyCached, Memo.call, sigMemo]
    simp only [cachedAnswers, Memo.answers, hcall, ih]

/-- Every sequence of calls from `S` is answered as `crypto.Verify` answers
it, exactly when `S` does not hold a rejected call whose three arguments
concatenate to the same bytes as those of an accepted call. -/
theorem verifyCached_exact_iff (hsha : Function.Injective sha256)
    (S : Set SigCall) :
    (∀ cs : List SigCall, (∀ c ∈ cs, c ∈ S) → cachedAnswers sha256 byte0 verify noShards cs =
          cs.map fun c => c.verified verify) ↔
      ∀ a ∈ S, ∀ b ∈ S, a.joined = b.joined →
        a.verified verify = true → b.verified verify = true := by
  simp only [cachedAnswers_eq_memo]
  rw [Memo.exact_iff _ _ _ S noShards (by simp [sigMemo, noShards])]
  simp only [Memo.Separated, hsha.eq_iff]

/-! ## A moved boundary -/

/-- A check that accepts every signature of 64 bytes and no other. -/
def acceptsLength64 : Bytes → Bytes → Bytes → Bool :=
  fun _ _ sig => decide (sig.length = 64)

/-- A call that is accepted, and the same bytes with the last byte of the
message moved to the front of the signature. -/
def shiftedCalls : List SigCall :=
  let key := List.replicate 32 7
  [⟨key, [1], List.replicate 64 0⟩, ⟨key, [], 1 :: List.replicate 64 0⟩]

/-- The cache accepts a triple that `crypto.Verify` rejects. -/
theorem shifted_boundary_accepted : ¬ ∀ (D : Type) (_ : DecidableEq D) (sha256 : Bytes → D)
        (byte0 : D → UInt8) (verify : Bytes → Bytes → Bytes → Bool),
      Function.Injective sha256 →
      (∀ k m sig, sig.length ≠ 64 → verify k m sig = false) →
      ∀ cs : List SigCall, cachedAnswers sha256 byte0 verify noShards cs =
          cs.map fun c => c.verified verify := by
  intro h
  have hrun := h Bytes inferInstance id (fun d => d.headD 0) acceptsLength64
    Function.injective_id (by simp [acceptsLength64]) shiftedCalls
  exact absurd hrun (by decide)

/-- The equivalence at a check and a set of calls that meet its condition. -/
theorem verifyCached_exact_iff_length64 :
    (∀ cs : List SigCall, (∀ c ∈ cs, c ∈ {c : SigCall | c.sig.length = 64}) →
        cachedAnswers id (fun d : Bytes => d.headD 0) acceptsLength64 noShards
            cs = cs.map fun c => c.verified acceptsLength64) ∧
      ∀ c ∈ shiftedCalls.take 1, c.sig.length = 64 :=
  ⟨(verifyCached_exact_iff id _ acceptsLength64 Function.injective_id _).mpr
    (by
      intro a _ b hb _ _
      exact decide_eq_true (show b.sig.length = 64 from hb)), by decide⟩

end Rendezvous.Authz

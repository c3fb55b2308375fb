import Rendezvous.Trust.Handlers
import Rendezvous.Saving.PairCache
import Mathlib.Algebra.BigOperators.Fin
import Mathlib.Data.Set.Card
import Mathlib.Data.Sym.Sym2.Order
import Mathlib.Order.Lattice.Nat

/-!
# The set of trust pairs

The store keeps a trust pair under the text of its two ids, the smaller
first, in the shard that text is hashed to. `trust_set` says that after any
operations this is a set of unordered pairs, and `isTrusted_run` that the
registry's trust store, which has no shards, answers as it does.
-/

namespace Rendezvous.Saving

open Base Registry
open Base.Json (Text decimal decimal_of_lt decimal_of_le decimal_digits toNat_digitByte)

/-! ## The key of a pair -/

/-- `pairKey`. -/
def pairKey (a b : NodeId) : Text :=
  let (a, b) := if a > b then (b, a) else (a, b)
  decimal a.toNat ++ 58 :: decimal b.toNat

/-- The number a decimal writes. -/
def value (t : Text) : Nat := t.foldl (fun v c => 10 * v + (c.toNat - 48)) 0

private theorem value_decimal (n : Nat) : value (decimal n) = n := by
  induction n using Nat.strong_induction_on with
  | _ n ih =>
    by_cases h : n < 10
    · rw [decimal_of_lt h, value, List.foldl_cons, List.foldl_nil, toNat_digitByte h]
      omega
    · have hrest := ih (n / 10) (by omega)
      rw [value] at hrest
      rw [decimal_of_le (by omega), value, List.foldl_append, hrest, List.foldl_cons,
        List.foldl_nil, toNat_digitByte (by omega)]
      omega

private theorem colon_notMem_decimal (n : Nat) : (58 : UInt8) ∉ decimal n := by
  intro hmem
  have hdigit := List.all_eq_true.mp (decimal_digits n).1 _ hmem
  exact absurd hdigit (by decide)

/-- The key of an unordered pair. -/
def keyOf (p : Sym2 NodeId) : Text :=
  let q := p.map UInt32.toNat
  decimal q.inf ++ 58 :: decimal q.sup

private theorem pairKey_eq (a b : NodeId) : pairKey a b = keyOf s(a, b) := by
  unfold pairKey keyOf
  simp only [Sym2.map_mk, Sym2.inf_mk, Sym2.sup_mk, gt_iff_lt, UInt32.lt_iff_toNat_lt]
  split
  · next h => rw [inf_eq_right.mpr h.le, sup_eq_left.mpr h.le]
  · next h => rw [inf_eq_left.mpr (not_lt.mp h), sup_eq_right.mpr (not_lt.mp h)]

private theorem keyOf_injective : Function.Injective keyOf := by
  intro p q h
  obtain ⟨hinf, -, hsup⟩ := (List.append_cons_inj_of_notMem (colon_notMem_decimal _)
    (colon_notMem_decimal _)).mp h
  have hinf := congrArg value hinf
  have hsup := congrArg value hsup
  rw [value_decimal, value_decimal] at hinf hsup
  exact Sym2.map.injective (fun _ _ => UInt32.toNat_inj.mp)
    (Sym2.inf_eq_inf_and_sup_eq_sup.mp ⟨hinf, hsup⟩)

/-! ## The shards -/

/-- `count`. -/
def PairSet.count (p : PairSet) : Nat :=
  ((List.finRange trustPairShards).map fun i => (p.shards i).card).sum

/-- `keys`, with the order each shard is read in. -/
def keysIn (orders : Fin trustPairShards → List Text) : List Text :=
  (List.finRange trustPairShards).flatMap orders

/-- `IsTrusted`. -/
def PairSet.isTrusted (p : PairSet) (a b : NodeId) : Bool :=
  pairKey a b ∈ p.shards (trustShardIdx (pairKey a b))

/-- The set holds these pairs, the key of each in its shard. -/
structure PairSet.Holds (p : PairSet) (P : Finset (Sym2 NodeId)) : Prop where
  home : Home p.shards
  mem : ∀ k, k ∈ p.shards (trustShardIdx k) ↔ k ∈ P.image keyOf

variable {p : PairSet} {P : Finset (Sym2 NodeId)}

theorem PairSet.Holds.add (h : p.Holds P) (x : Sym2 NodeId) :
    (p.add (keyOf x)).Holds (insert x P) := by
  refine ⟨home_add h.home _, fun k => ?_⟩
  rw [Finset.image_insert, Finset.mem_insert, ← h.mem k, PairSet.add]
  split
  · next hin => exact ⟨Or.inr, fun hk => hk.elim (fun heq => heq ▸ hin) id⟩
  · by_cases hi : trustShardIdx k = trustShardIdx (keyOf x)
    · simp [hi]
    · simp [hi, show k ≠ keyOf x from fun heq => hi (congrArg _ heq)]

theorem PairSet.Holds.remove (h : p.Holds P) (x : Sym2 NodeId) :
    (p.remove (keyOf x)).Holds (P.erase x) := by
  refine ⟨home_remove h.home _, fun k => ?_⟩
  rw [Finset.image_erase keyOf_injective, Finset.mem_erase, ← h.mem k, PairSet.remove]
  split
  · by_cases hi : trustShardIdx k = trustShardIdx (keyOf x)
    · simp [hi]
    · simp [hi, show k ≠ keyOf x from fun heq => hi (congrArg _ heq)]
  · next hout => exact ⟨fun hk => ⟨fun heq => hout (heq ▸ hk), hk⟩, And.right⟩

/-- Every key is in one shard, so the sizes add up to the number of pairs. -/
theorem PairSet.Holds.count_eq (h : p.Holds P) : p.count = P.card := by
  rw [PairSet.count, ← Fin.sum_univ_def, ← Finset.card_image_of_injective P keyOf_injective,
    Finset.card_eq_sum_card_fiberwise (f := trustShardIdx) (t := Finset.univ) (by simp)]
  refine Finset.sum_congr rfl fun i _ => congrArg Finset.card (Finset.ext fun k => ?_)
  rw [Finset.mem_filter, ← h.mem k]
  constructor
  · intro hk
    have hi := h.home i k hk
    exact ⟨hi ▸ hk, hi⟩
  · rintro ⟨hk, rfl⟩
    exact hk

private theorem PairSet.Holds.keysIn (h : p.Holds P) {orders : Fin trustPairShards → List Text}
    (horders : ∀ i, ShardOrder (p.shards i) (orders i)) :
    (keysIn orders).Nodup ∧ ∀ k, k ∈ keysIn orders ↔ k ∈ P.image keyOf := by
  have hin : ∀ i k, k ∈ orders i ↔ k ∈ p.shards i := fun i k => by
    rw [← (horders i).2, List.mem_toFinset]
  refine ⟨List.nodup_flatMap.mpr ⟨fun i _ => (horders i).1, (List.nodup_finRange _).imp ?_⟩,
    fun k => ?_⟩
  · intro i j hij k hi hj
    exact hij ((h.home i k ((hin i k).mp hi)).symm.trans (h.home j k ((hin j k).mp hj)))
  · rw [← h.mem k]
    simp only [Saving.keysIn, List.mem_flatMap, List.mem_finRange, true_and, hin]
    exact ⟨fun ⟨i, hi⟩ => h.home i k hi ▸ hi, fun hk => ⟨_, hk⟩⟩

private theorem PairSet.Holds.isTrusted_eq (h : p.Holds P) (a b : NodeId) :
    p.isTrusted a b = decide (s(a, b) ∈ P) := by
  rw [PairSet.isTrusted, pairKey_eq, decide_eq_decide, h.mem]
  simp [keyOf_injective.eq_iff]

/-! ## Operations one after the other -/

/-- What is done to the set. A restore takes the keys of a snapshot. -/
inductive PairOp where
  | report (a b : NodeId)
  | revoke (a b : NodeId)
  | restore (pairs : List (NodeId × NodeId))

def PairSet.step (p : PairSet) : PairOp → PairSet
  | .report a b => p.add (pairKey a b)
  | .revoke a b => p.remove (pairKey a b)
  | .restore pairs => pairs.foldl (fun p q => p.add (pairKey q.1 q.2)) p

/-- Whether the operation adds the pair or removes it. -/
def PairOp.sets (x : Sym2 NodeId) : PairOp → Option Bool
  | .report a b => if x = s(a, b) then some true else none
  | .revoke a b => if x = s(a, b) then some false else none
  | .restore pairs => if ∃ q ∈ pairs, x = s(q.1, q.2) then some true else none

/-- The last operation on the pair added it. -/
def lastAdded (x : Sym2 NodeId) (ops : List PairOp) : Bool :=
  (ops.filterMap (PairOp.sets x)).getLast? = some true

private theorem lastAdded_append (x : Sym2 NodeId) (ops : List PairOp) (op : PairOp) :
    lastAdded x (ops ++ [op]) = (op.sets x).getD (lastAdded x ops) := by
  unfold lastAdded
  rw [List.filterMap_append, List.getLast?_append]
  cases hsets : op.sets x with
  | none => simp [hsets]
  | some b => simp [hsets]

theorem PairSet.Holds.step (h : p.Holds P) (op : PairOp) : ∃ P' : Finset (Sym2 NodeId),
    (p.step op).Holds P' ∧ ∀ x, decide (x ∈ P') = (op.sets x).getD (decide (x ∈ P)) := by
  cases op with
  | report a b =>
    refine ⟨insert s(a, b) P, ?_, fun x => ?_⟩
    · rw [PairSet.step, pairKey_eq]
      exact h.add _
    · by_cases hx : x = s(a, b) <;> simp [PairOp.sets, hx]
  | revoke a b =>
    refine ⟨P.erase s(a, b), ?_, fun x => ?_⟩
    · rw [PairSet.step, pairKey_eq]
      exact h.remove _
    · by_cases hx : x = s(a, b) <;> simp [PairOp.sets, hx]
  | restore pairs =>
    induction pairs generalizing p P with
    | nil => exact ⟨P, h, fun x => rfl⟩
    | cons q pairs ih =>
      obtain ⟨P', hP', hmem⟩ := ih (h.add s(q.1, q.2))
      rw [← pairKey_eq] at hP'
      refine ⟨P', hP', fun x => (hmem x).trans ?_⟩
      simp only [PairOp.sets, List.exists_mem_cons_iff]
      by_cases hx : x = s(q.1, q.2)
      · simp only [hx, true_or, if_true, Finset.mem_insert, decide_true]
        split <;> rfl
      · simp only [hx, false_or, Finset.mem_insert]

private theorem holds_run (ops : List PairOp) : ∃ P : Finset (Sym2 NodeId),
    (run PairSet.step {} ops).Holds P ∧ ∀ x, decide (x ∈ P) = lastAdded x ops := by
  induction ops using List.reverseRecOn with
  | nil => exact ⟨∅, ⟨nofun, fun k => by simp⟩, fun x => rfl⟩
  | append_singleton ops op ih =>
    obtain ⟨P, hP, hmem⟩ := ih
    obtain ⟨P', hP', hmem'⟩ := hP.step op
    rw [run_append]
    exact ⟨P', hP', fun x => by rw [hmem', hmem, lastAdded_append]⟩

/-- Two nodes are trusted, in either order, when the last operation on their
pair added it; the count is the number of these pairs, and the keys are
theirs, once each, in whatever order the shards are read. -/
theorem trust_set (ops : List PairOp) :
    let p := run PairSet.step {} ops
    (∀ a b, p.isTrusted a b = p.isTrusted b a ∧ p.isTrusted a b = lastAdded s(a, b) ops) ∧
      p.count = {x | lastAdded x ops = true}.ncard ∧
      ∀ orders, (∀ i, ShardOrder (p.shards i) (orders i)) → (keysIn orders).Nodup ∧
        ∀ k, k ∈ keysIn orders ↔ ∃ a b, p.isTrusted a b = true ∧ pairKey a b = k := by
  obtain ⟨P, hP, hmem⟩ := holds_run ops
  have htrusted := hP.isTrusted_eq
  refine ⟨fun a b => ⟨?_, by rw [htrusted, hmem]⟩, ?_, fun orders horders => ?_⟩
  · rw [htrusted, htrusted, Sym2.eq_swap]
  · rw [hP.count_eq, ← Set.ncard_coe_finset]
    congr 1
    ext x
    simp [← hmem]
  · obtain ⟨hnodup, hkeys⟩ := hP.keysIn horders
    refine ⟨hnodup, fun k => (hkeys k).trans ?_⟩
    simp [htrusted, pairKey_eq, Sym2.exists]

/-! ## The store of the registry

The registry's `TrustStore` has the pairs themselves, without keys and shards.
-/

/-- What the operation does to the store. -/
def PairOp.onStore (t : TrustStore) : PairOp → TrustStore
  | .report a b => Trust.addPair t a b
  | .revoke a b => { t with pairs := t.pairs.erase (Trust.pairKey a b) }
  | .restore pairs => pairs.foldl (fun t q => Trust.addPair t q.1 q.2) t

private theorem trustPairKey_eq_iff {a b c d : NodeId} :
    Trust.pairKey a b = Trust.pairKey c d ↔ s(a, b) = s(c, d) := by
  unfold Trust.pairKey
  rw [Sym2.eq_iff]
  grind

private theorem isTrusted_addPair (t : TrustStore) (a b c d : NodeId) :
    Trust.isTrusted (Trust.addPair t c d) a b =
      (decide (s(a, b) = s(c, d)) || Trust.isTrusted t a b) := by
  simp [Trust.isTrusted, Trust.addPair, trustPairKey_eq_iff]

private theorem isTrusted_onStore (t : TrustStore) (op : PairOp) (a b : NodeId) :
    Trust.isTrusted (op.onStore t) a b = (op.sets s(a, b)).getD (Trust.isTrusted t a b) := by
  cases op with
  | report c d =>
    rw [PairOp.onStore, isTrusted_addPair, PairOp.sets]
    by_cases h : s(a, b) = s(c, d) <;> simp [h]
  | revoke c d =>
    by_cases h : s(a, b) = s(c, d) <;>
      simp [PairOp.onStore, PairOp.sets, Trust.isTrusted, trustPairKey_eq_iff, h]
  | restore pairs =>
    induction pairs generalizing t with
    | nil => simp [PairOp.onStore, PairOp.sets]
    | cons q pairs ih =>
      refine (ih (Trust.addPair t q.1 q.2)).trans ?_
      rw [isTrusted_addPair]
      simp only [PairOp.sets, List.exists_mem_cons_iff]
      by_cases h : s(a, b) = s(q.1, q.2)
      · simp only [h, true_or, if_true, decide_true, Bool.true_or]
        split <;> rfl
      · simp only [h, false_or, decide_false, Bool.false_or]

private theorem isTrusted_onStore_run (ops : List PairOp) (a b : NodeId) :
    Trust.isTrusted (run PairOp.onStore {} ops) a b = lastAdded s(a, b) ops := by
  induction ops using List.reverseRecOn with
  | nil => simp [run, Trust.isTrusted, lastAdded]
  | append_singleton ops op ih =>
    rw [lastAdded_append, ← ih, run_append]
    exact isTrusted_onStore ..

/-- After the same operations the sharded set and the store say the same of
every two nodes. -/
theorem isTrusted_run (ops : List PairOp) (a b : NodeId) :
    (run PairSet.step {} ops).isTrusted a b = Trust.isTrusted (run PairOp.onStore {} ops) a b := by
  obtain ⟨P, hP, hmem⟩ := holds_run ops
  rw [hP.isTrusted_eq, hmem, isTrusted_onStore_run]

end Rendezvous.Saving

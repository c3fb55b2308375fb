import Mathlib.Algebra.Order.Field.Rat
import Mathlib.Tactic.Linarith
import Mathlib.Tactic.Ring

/-!
# Token buckets

A bucket holds at most `c` tokens and gains `q` of them per unit of time. A
request takes one token, and is refused when there is none. Whatever the
requests, those granted in an interval are at most what a full bucket holds
and gains meanwhile (`granted_le`).
-/

namespace Rendezvous.Base

/-- What a bucket held at a time. -/
structure Bucket where
  tokens : Rat
  last : Int
  deriving DecidableEq

namespace Bucket

variable (c q : Rat)

/-- What the bucket holds later on. -/
def level (b : Bucket) (t : Int) : Rat := min c (b.tokens + q * (t - b.last : Int))

/-- A request is granted. -/
def grants (b : Bucket) (t : Int) : Bool := decide (1 ≤ b.level c q t)

/-- The bucket after a request. -/
def ask (b : Bucket) (t : Int) : Bucket :=
  ⟨if b.grants c q t then b.level c q t - 1 else b.level c q t, t⟩

/-- The requests with their answers. -/
def serve (b : Bucket) : List Int → List (Int × Bool)
  | [] => []
  | t :: ts => (t, b.grants c q t) :: (b.ask c q t).serve ts

/-- How many of the requests were granted in an interval. -/
def granted (u v : Int) (served : List (Int × Bool)) : Nat :=
  served.countP fun p => p.2 && decide (u ≤ p.1) && decide (p.1 ≤ v)

variable {c q} {b : Bucket} {t u v : Int} {ts : List Int}

theorem granted_cons_le (p : Int × Bool) (served : List (Int × Bool)) :
    granted u v (p :: served) ≤ granted u v served + if p.2 then 1 else 0 := by
  unfold granted
  rw [List.countP_cons]
  refine Nat.add_le_add_left ?_ _
  split
  · next h => simp_all
  · exact Nat.zero_le _

theorem serve_times (ts : List Int) : (b.serve c q ts).map Prod.fst = ts := by
  induction ts generalizing b with
  | nil => rfl
  | cons t ts ih => exact congrArg (t :: ·) ih

/-- Nothing is granted in an interval that is over. -/
theorem granted_after (hts : (t :: ts).Pairwise (· ≤ ·)) (hv : v < t) :
    granted u v (b.serve c q (t :: ts)) = 0 := by
  refine List.countP_eq_zero.mpr fun p hp => ?_
  have hmem := List.mem_map_of_mem (f := Prod.fst) hp
  rw [serve_times] at hmem
  have hlate : v < p.1 := (List.mem_cons.mp hmem).elim (fun h => h ▸ hv)
    fun h => hv.trans_le ((List.pairwise_cons.mp hts).1 _ h)
  simp [not_le.mpr hlate]

/-- A request takes the token it is granted. -/
theorem granted_cons {x : Rat}
    (htail : (granted u v ((b.ask c q t).serve c q ts) : Rat) ≤ (b.ask c q t).tokens + x) :
    (granted u v (b.serve c q (t :: ts)) : Rat) ≤ b.level c q t + x := by
  have hone : (granted u v (b.serve c q (t :: ts)) : Rat) ≤
      granted u v ((b.ask c q t).serve c q ts) + (if b.grants c q t then 1 else 0 : Nat) := by
    exact_mod_cast granted_cons_le (t, b.grants c q t) _
  have htaken : (b.ask c q t).tokens + (if b.grants c q t then 1 else 0 : Nat) = b.level c q t := by
    unfold ask
    split <;> simp
  linarith

variable (hc : 0 ≤ c) (hq : 0 ≤ q)

include hq in
theorem gain_nonneg {s t : Int} (h : s ≤ t) : 0 ≤ q * (t - s : Int) :=
  mul_nonneg hq (by exact_mod_cast Int.sub_nonneg_of_le h)

include hc hq

theorem ask_nonneg (hb : 0 ≤ b.tokens) (ht : b.last ≤ t) : 0 ≤ (b.ask c q t).tokens := by
  unfold ask
  split
  · next hok => exact sub_nonneg.mpr (of_decide_eq_true hok)
  · exact le_min hc (add_nonneg hb (gain_nonneg hq ht))

/-- What is granted until `v` was there, or was gained since. -/
theorem granted_until (hb : 0 ≤ b.tokens) (hts : (b.last :: ts).Pairwise (· ≤ ·))
    (hv : b.last ≤ v) :
    (granted u v (b.serve c q ts) : Rat) ≤ b.tokens + q * (v - b.last : Int) := by
  induction ts generalizing b with
  | nil => exact add_nonneg hb (gain_nonneg hq hv)
  | cons t ts ih =>
    obtain ⟨hfirst, hrest⟩ := List.pairwise_cons.mp hts
    have ht : b.last ≤ t := hfirst t (List.mem_cons_self ..)
    rcases le_or_gt t v with htv | htv
    · have hnow := granted_cons (ih (b := b.ask c q t) (ask_nonneg hc hq hb ht) hrest htv)
      have hgain : b.level c q t ≤ b.tokens + q * (t - b.last : Int) := min_le_right _ _
      have hsum : q * (v - b.last : Int) = q * (t - b.last : Int) + q * (v - t : Int) := by
        push_cast
        ring
      have hlast : (b.ask c q t).last = t := rfl
      rw [hlast] at hnow
      linarith
    · rw [granted_after hrest htv]
      exact add_nonneg hb (gain_nonneg hq hv)

/-- In an interval at most a full bucket is granted, and what it gains
meanwhile. -/
theorem granted_le (hb : 0 ≤ b.tokens) (hts : (b.last :: ts).Pairwise (· ≤ ·)) (huv : u ≤ v) :
    (granted u v (b.serve c q ts) : Rat) ≤ c + q * (v - u : Int) := by
  induction ts generalizing b with
  | nil => exact add_nonneg hc (gain_nonneg hq huv)
  | cons t ts ih =>
    obtain ⟨hfirst, hrest⟩ := List.pairwise_cons.mp hts
    have ht : b.last ≤ t := hfirst t (List.mem_cons_self ..)
    by_cases hut : u ≤ t
    · rcases le_or_gt t v with htv | htv
      · have hnow := granted_cons
          (granted_until (u := u) hc hq (ask_nonneg hc hq hb ht) hrest htv)
        have hcap : b.level c q t ≤ c := min_le_left _ _
        have hsum : q * (v - u : Int) = q * (t - u : Int) + q * (v - t : Int) := by
          push_cast
          ring
        have hgain := gain_nonneg hq hut
        have hlast : (b.ask c q t).last = t := rfl
        rw [hlast] at hnow
        linarith
      · rw [granted_after hrest htv]
        exact add_nonneg hc (gain_nonneg hq huv)
    · have hskip : granted u v (b.serve c q (t :: ts)) =
          granted u v ((b.ask c q t).serve c q ts) := by
        simp [granted, serve, hut]
      rw [hskip]
      exact ih (ask_nonneg hc hq hb ht) hrest

end Bucket

end Rendezvous.Base

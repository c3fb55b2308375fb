import Mathlib.Tactic.Common

/-!
# Counters that stop when they wrap

A counter hands out numbers below `size`, one after the other. The
successor of the last is zero, and a counter at zero hands out no more. So
whatever is in use has been passed by the counter, and a counter that has
stopped stays stopped.
-/

namespace Rendezvous.Base

/-- The counter is past the number, or has stopped. -/
def Passed (next n : Nat) : Prop := next = 0 ∨ n < next

/-- The counter after it was moved past a number. -/
def movePast (size next n : Nat) : Nat :=
  if next ≤ n then (n + 1) % size else next

/-- Zero is never handed out. -/
theorem passed_zero (next : Nat) : Passed next 0 := by
  unfold Passed
  omega

theorem not_passed_self {next : Nat} (h : next ≠ 0) : ¬ Passed next next := by
  unfold Passed
  omega

/-- A counter at the last number has stopped. -/
theorem eq_zero_of_passed_last {size next n : Nat} (hnext : next < size)
    (hlast : n + 1 = size) (h : Passed next n) : next = 0 := by
  unfold Passed at h
  omega

theorem movePast_last {size next n : Nat} (hnext : next < size) (hlast : n + 1 = size) :
    movePast size next n = 0 := by
  unfold movePast
  rw [if_pos (by omega), hlast, Nat.mod_self]

/-- Moving past a number keeps what was passed, and passes the number. -/
theorem passed_movePast {size next n k : Nat} (hn : n < size) (hopen : next ≠ 0)
    (h : Passed next k ∨ k = n) : Passed (movePast size next n) k := by
  unfold Passed at h
  unfold Passed movePast
  split
  · by_cases hlast : n + 1 = size
    · left
      rw [hlast, Nat.mod_self]
    · right
      rw [Nat.mod_eq_of_lt (by omega)]
      omega
  · omega

section advance

variable {α : Type} {toNat : α → Nat} {size : Nat} {used used' : α → Prop}
  {next next' : Nat}

/-- What a step may do to the numbers in use and their counter: nothing
new, or one more number, which an open counter is moved past. -/
inductive Advance (toNat : α → Nat) (size : Nat) (used used' : α → Prop)
    (next next' : Nat) : Prop where
  | keep (hused : ∀ a, used' a → used a ∨ toNat a = 0) (hnext : next' = next)
  | take (a : α) (hused : ∀ b, used' b → used b ∨ toNat b = 0 ∨ b = a)
      (hopen : next ≠ 0) (hnext : next' = movePast size next (toNat a))

/-- Steps keep the numbers in use behind the counter. -/
theorem Advance.passed (h : Advance toNat size used used' next next')
    (hsize : ∀ a, toNat a < size) (hs : ∀ a, used a → Passed next (toNat a))
    (a : α) (ha : used' a) : Passed next' (toNat a) := by
  cases h with
  | keep hused hnext =>
    rw [hnext]
    rcases hused a ha with hold | hzero
    · exact hs a hold
    · rw [hzero]
      exact passed_zero next
  | take b hused hopen hnext =>
    rw [hnext]
    rcases hused a ha with hold | hzero | rfl
    · exact passed_movePast (hsize b) hopen (Or.inl (hs a hold))
    · rw [hzero]
      exact passed_movePast (hsize b) hopen (Or.inl (passed_zero next))
    · exact passed_movePast (hsize a) hopen (Or.inr rfl)

/-- A counter that has stopped stays stopped. -/
theorem Advance.stopped (h : Advance toNat size used used' next next')
    (hzero : next = 0) : next' = 0 := by
  cases h with
  | keep hused hnext => rw [hnext, hzero]
  | take a hused hopen hnext => exact absurd hzero hopen

end advance

end Rendezvous.Base

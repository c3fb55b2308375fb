import Mathlib.Data.Set.Basic

/-!
# Memoising a predicate under a digest

A predicate is put behind a table of digests of inputs it accepted: a
digest in the table answers `true` at once, and an accepted input adds its
own digest. The table may forget what it likes; a `Memo` asks only that
remembering a digest makes that digest known and no other.

The memoised predicate and the predicate agree on every run of calls from
a set of inputs exactly when no rejected input of the set has the digest of
an accepted one (`Memo.exact_iff`).
-/

namespace Rendezvous.Base

/-- A table of digests. -/
structure Memo (σ D : Type) where
  hit : σ → D → Bool
  remember : σ → D → σ
  hit_remember_self : ∀ t d, hit (remember t d) d = true
  hit_remember : ∀ {t d e}, hit (remember t d) e = true → e = d ∨ hit t e = true

namespace Memo

variable {σ D X : Type} (M : Memo σ D) (digest : X → D) (P : X → Bool)

/-- One call: the answer and the table it leaves. -/
def call (t : σ) (x : X) : Bool × σ :=
  if M.hit t (digest x) then (true, t)
  else if P x then (true, M.remember t (digest x))
  else (false, t)

/-- The answers of a run of calls. -/
def answers : σ → List X → List Bool
  | _, [] => []
  | t, x :: xs => (M.call digest P t x).1 :: answers (M.call digest P t x).2 xs

/-- Every digest in the table is the digest of an accepted input of `S`. -/
def Sound (S : Set X) (t : σ) : Prop :=
  ∀ d, M.hit t d = true → ∃ a ∈ S, digest a = d ∧ P a = true

/-- No rejected input of `S` has the digest of an accepted one. -/
def Separated (S : Set X) : Prop :=
  ∀ a ∈ S, ∀ b ∈ S, digest a = digest b → P a = true → P b = true

theorem call_answer {S : Set X} (hsep : Separated digest P S) {t : σ}
    (ht : M.Sound digest P S t) {x : X} (hx : x ∈ S) :
    (M.call digest P t x).1 = P x := by
  unfold call
  by_cases hhit : M.hit t (digest x) = true
  · obtain ⟨a, ha, hd, hP⟩ := ht _ hhit
    simp [hhit, hsep a ha x hx hd hP]
  · cases hP : P x <;> simp [hhit]

theorem call_sound {S : Set X} {t : σ} (ht : M.Sound digest P S t) {x : X}
    (hx : x ∈ S) : M.Sound digest P S (M.call digest P t x).2 := by
  unfold call
  by_cases hhit : M.hit t (digest x) = true
  · simpa [hhit] using ht
  · cases hP : P x with
    | false => simpa [hhit] using ht
    | true =>
      simp only [hhit, if_false, if_true, Bool.false_eq_true]
      intro d hd
      rcases M.hit_remember hd with rfl | hold
      · exact ⟨x, hx, rfl, hP⟩
      · exact ht d hold

theorem answers_eq {S : Set X} (hsep : Separated digest P S) (xs : List X)
    (hxs : ∀ x ∈ xs, x ∈ S) {t : σ} (ht : M.Sound digest P S t) :
    M.answers digest P t xs = xs.map P := by
  induction xs generalizing t with
  | nil => rfl
  | cons x xs ih =>
    have hx : x ∈ S := hxs x List.mem_cons_self
    have hrest : ∀ y ∈ xs, y ∈ S := fun y hy => hxs y (List.mem_cons_of_mem _ hy)
    simp only [answers, List.map_cons]
    rw [M.call_answer digest P hsep ht hx, ih hrest (M.call_sound digest P ht hx)]

/-- From a table that knows nothing, the memoised predicate is the predicate
on every run of calls from `S` exactly when `S` is separated. -/
theorem exact_iff (S : Set X) (t₀ : σ) (hempty : ∀ d, M.hit t₀ d = false) :
    (∀ xs : List X, (∀ x ∈ xs, x ∈ S) → M.answers digest P t₀ xs = xs.map P) ↔
      Separated digest P S := by
  constructor
  · intro h a ha b hb hd hPa
    have hrun := h [a, b] (by simp [ha, hb])
    simp only [answers, call, hempty, hPa, ← hd, M.hit_remember_self, if_true,
      Bool.false_eq_true, if_false, List.map_cons, List.map_nil,
      List.cons.injEq, true_and, and_true] at hrun
    exact hrun.symm
  · intro hsep xs hxs
    have hsound : M.Sound digest P S t₀ := by
      intro d hd
      rw [hempty] at hd
      cases hd
    exact M.answers_eq digest P hsep xs hxs hsound

end Memo

end Rendezvous.Base

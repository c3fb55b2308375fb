import Mathlib.Data.List.Basic
import Mathlib.Data.List.Perm.Basic

/-!
# Serial outcomes

Updates of a store run in sections that interleave. What they leave is a
serial outcome when it is what the updates leave one after the other, in
some order.
-/

namespace Rendezvous.Base

variable {V U : Type} (apply : U → V → V)

/-- `v` is what the updates make of `v₀`, one after the other in some
order. -/
def Serial (v₀ : V) (us : List U) (v : V) : Prop :=
  ∃ order : List U, order.Perm us ∧ order.foldl (fun v u => apply u v) v₀ = v

theorem Serial.nil (v₀ : V) : Serial apply v₀ [] v₀ := ⟨[], .refl _, rfl⟩

variable {apply}

/-- One more update, on top of those before it. -/
theorem Serial.snoc {v₀ v : V} {us : List U} (h : Serial apply v₀ us v) (u : U) :
    Serial apply v₀ (us ++ [u]) (apply u v) := by
  obtain ⟨order, hperm, rfl⟩ := h
  exact ⟨order ++ [u], hperm.append_right [u], by rw [List.foldl_append]; rfl⟩

/-- Two updates come in one of two orders. -/
theorem serial_pair {v₀ v : V} {a b : U} (h : Serial apply v₀ [a, b] v) :
    apply b (apply a v₀) = v ∨ apply a (apply b v₀) = v := by
  obtain ⟨order, hperm, rfl⟩ := h
  match order, hperm.length_eq with
  | [c, d], _ =>
    rcases List.mem_pair.mp (hperm.subset (List.mem_cons_self ..)) with rfl | rfl
    · obtain rfl := List.mem_singleton.mp
        (((List.perm_cons _).mp hperm).subset (List.mem_cons_self ..))
      exact Or.inl rfl
    · obtain rfl := List.mem_singleton.mp
        (((List.perm_cons _).mp (hperm.trans (List.Perm.swap ..))).subset
          (List.mem_cons_self ..))
      exact Or.inr rfl

end Rendezvous.Base

import Rendezvous.Base.GoMap
import Mathlib.Data.Finset.Sort
import Mathlib.Data.List.Perm.Basic

/-!
# The entries of a map as a list

A map written out has its entries in the order of their keys (`sorted`),
one for each key.
-/

namespace Rendezvous.Base.GoMap

variable {K V : Type} [DecidableEq K] [LE K] [DecidableRel (fun a b : K => a ≤ b)]
  [IsTrans K (· ≤ ·)] [Std.Antisymm (fun a b : K => a ≤ b)] [Std.Total (fun a b : K => a ≤ b)]

/-- The entries in ascending order of their keys. -/
def sorted (m : GoMap K V) : List (K × V) :=
  (m.keys.sort (· ≤ ·)).filterMap fun k => (m.get k).map fun v => (k, v)

theorem mem_sorted {m : GoMap K V} {k : K} {v : V} : (k, v) ∈ m.sorted ↔ m.get k = some v := by
  unfold sorted
  rw [List.mem_filterMap]
  constructor
  · rintro ⟨j, _, hj⟩
    obtain ⟨w, hw, heq⟩ := Option.map_eq_some_iff.mp hj
    obtain ⟨rfl, rfl⟩ := Prod.mk.inj heq
    exact hw
  · intro h
    refine ⟨k, ?_, by rw [h]; rfl⟩
    rw [Finset.mem_sort, mem_keys]
    exact ⟨v, h⟩

theorem length_sorted (m : GoMap K V) : m.sorted.length = m.size := by
  have hall : ∀ k ∈ m.keys.sort (· ≤ ·), ((m.get k).map fun v => (k, v)).isSome = true := by
    intro k hk
    rw [Finset.mem_sort, mem_keys] at hk
    obtain ⟨v, hv⟩ := hk
    rw [hv]
    rfl
  unfold sorted size
  rw [List.length_filterMap_eq_countP, List.countP_eq_length.mpr hall, Finset.length_sort]

theorem pairwise_sorted (m : GoMap K V) : m.sorted.Pairwise fun a b => a.1 ≤ b.1 := by
  refine (Finset.pairwise_sort m.keys (· ≤ ·)).filterMap _ fun a b hab p hp q hq => ?_
  obtain ⟨v, _, rfl⟩ := Option.map_eq_some_iff.mp hp
  obtain ⟨w, _, rfl⟩ := Option.map_eq_some_iff.mp hq
  exact hab

end Rendezvous.Base.GoMap

import Mathlib.Data.List.Perm.Basic

/-!
# A pool of requests in flight

The requests that are between two of their steps, as a list. One of them
goes on when it is replaced at its place, and returns when it is erased. How
many requests of a kind there are is then the number of the others, and one
more or not.
-/

namespace Rendezvous.Base

variable {α : Type} {pool : List α} {i : Nat} {a : α}

/-- The requests of a kind, by the one at `i` and the others. -/
theorem countP_pool (h : pool[i]? = some a) (q : α → Bool) :
    pool.countP q = (pool.eraseIdx i).countP q + if q a then 1 else 0 := by
  obtain ⟨hi, ha⟩ := List.getElem?_eq_some_iff.mp h
  rw [← (List.getElem_cons_eraseIdx_perm hi).countP_eq q, List.countP_cons, ha]

/-- The same, once the request at `i` has gone on. -/
theorem countP_pool_set (h : pool[i]? = some a) (b : α) (q : α → Bool) :
    (pool.set i b).countP q = (pool.eraseIdx i).countP q + if q b then 1 else 0 := by
  obtain ⟨hi, -⟩ := List.getElem?_eq_some_iff.mp h
  rw [(List.set_perm_cons_eraseIdx hi b).countP_eq q, List.countP_cons]

end Rendezvous.Base

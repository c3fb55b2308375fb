import Mathlib.Data.Option.Basic

/-!
# Checks in sequence

A handler is a sequence of checks, each with the error it answers when it
fails, and a result at the end. `require` is a check of a condition and
`orFail` a check that a value is there. The two inversion lemmas read a
successful run backwards: what every check found, and what was returned.
-/

namespace Rendezvous.Base

/-- Succeed when `b` holds; otherwise fail with `e`. -/
def require (b : Bool) (e : String) : Except String Unit :=
  if b then .ok () else .error e

/-- The value, or the error `e` when there is none. -/
def orFail {α : Type} (x : Option α) (e : String) : Except String α :=
  match x with
  | some a => .ok a
  | none => .error e

/-- Run every check in turn, stopping at the first that fails. -/
def requireAll {α : Type} (check : α → Except String Unit) : List α → Except String Unit
  | [] => .ok ()
  | a :: as => check a >>= fun _ => requireAll check as

variable {α β : Type}

section

variable (b : Bool) (e e' : String) (x : Except String α)

theorem bind_eq_ok (f : α → Except String β) (b : β) :
    (x >>= f) = .ok b ↔ ∃ a, x = .ok a ∧ f a = .ok b := by
  cases x with
  | _ => simp [bind, Except.bind]

@[simp] theorem require_eq_ok (u : Unit) : require b e = .ok u ↔ b = true := by
  cases b <;> simp [require]

@[simp] theorem orFail_eq_ok (x : Option α) (e : String) (a : α) :
    orFail x e = .ok a ↔ x = some a := by
  cases x <;> simp [orFail]

theorem mapError_eq_ok (f : String → String) (a : α) : x.mapError f = .ok a ↔ x = .ok a := by
  cases x <;> simp [Except.mapError]

theorem map_eq_ok (f : α → β) (b : β) : x.map f = .ok b ↔ ∃ a, x = .ok a ∧ f a = b := by
  cases x <;> simp [Except.map]

theorem pure_eq_ok (a b : α) : (pure a : Except String α) = .ok b ↔ a = b := by
  simp [pure, Except.pure]

theorem exists_of_isOk {x : Except String α} (h : x.isOk = true) : ∃ a, x = .ok a := by
  cases x with
  | error e => cases h
  | ok a => exact ⟨a, rfl⟩

/-! ## Which check failed -/

theorem bind_eq_error (f : α → Except String β) (e : String) :
    (x >>= f) = .error e ↔ x = .error e ∨ ∃ a, x = .ok a ∧ f a = .error e := by
  cases x with
  | _ => simp [bind, Except.bind]

theorem require_eq_error : require b e = .error e' ↔ b = false ∧ e = e' := by
  cases b <;> simp [require]

theorem orFail_eq_error (x : Option α) (e e' : String) :
    orFail x e = .error e' ↔ x = none ∧ e = e' := by
  cases x <;> simp [orFail]

/-! ## Running the checks

These are for running code on inputs whose checks are known. -/

theorem ok_bind (a : α) (f : α → Except String β) : (Except.ok a >>= f) = f a := rfl

theorem error_bind (f : α → Except String β) :
    ((Except.error e : Except String α) >>= f) = .error e := rfl

theorem orFail_some (a : α) (e : String) : orFail (some a) e = .ok a := rfl

theorem orFail_none : orFail (none : Option α) e = .error e := rfl

end

end Rendezvous.Base

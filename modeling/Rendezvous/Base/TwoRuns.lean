import Rendezvous.Base.Fallible

/-!
# Two runs of fallible code

`Paired F R x y` says that two computations go the same way: both fail, with
errors related by `F`, or both return, with results related by `R`. With
equality for `F` the two cannot be told apart by their errors; with the
relation that always holds, nothing is said of the error texts. The rules
follow the shape of the code: one for each way to put checks together.
-/

namespace Rendezvous.Base

variable {ε ε' α α' β β' : Type}

/-- Both fail, or both return. -/
inductive Paired (F : ε → ε' → Prop) (R : α → α' → Prop) : Except ε α → Except ε' α' → Prop where
  | failed {e : ε} {e' : ε'} (h : F e e') : Paired F R (.error e) (.error e')
  | returned {a : α} {a' : α'} (h : R a a') : Paired F R (.ok a) (.ok a')

variable {F : ε → ε' → Prop} {R : α → α' → Prop} {S : β → β' → Prop}

theorem Paired.bind {x : Except ε α} {y : Except ε' α'} {f : α → Except ε β}
    {g : α' → Except ε' β'} (h : Paired F R x y)
    (hk : ∀ a a', R a a' → Paired F S (f a) (g a')) : Paired F S (x >>= f) (y >>= g) := by
  cases h with
  | failed he => exact .failed he
  | returned ha => exact hk _ _ ha

/-- The results are put to use in related ways. -/
theorem Paired.map {x : Except ε α} {y : Except ε' α'} {f : α → β} {g : α' → β'}
    (h : Paired F R x y) (hf : ∀ a a', R a a' → S (f a) (g a')) :
    Paired F S (x >>= fun a => pure (f a)) (y >>= fun a' => pure (g a')) :=
  h.bind fun a a' ha => .returned (hf a a' ha)

theorem Paired.refl {F : ε → ε → Prop} {R : α → α → Prop} (hF : ∀ e, F e e)
    (hR : ∀ a, R a a) (x : Except ε α) : Paired F R x x := by
  cases x with
  | error e => exact .failed (hF e)
  | ok a => exact .returned (hR a)

/-- Computations that go the same way with equal errors and results are
equal. -/
theorem Paired.eq {x y : Except ε α} (h : Paired (· = ·) (· = ·) x y) : x = y := by
  cases h with
  | failed he => rw [he]
  | returned ha => rw [ha]

section

variable {F : String → String → Prop} {e e' : String}

theorem paired_require {b b' : Bool} (hb : b = b') (he : F e e') :
    Paired F (fun _ _ => True) (require b e) (require b' e') := by
  subst hb
  cases b with
  | false => exact .failed he
  | true => exact .returned trivial

theorem paired_orFail {x : Option α} {y : Option α'} (h : Option.Rel R x y) (he : F e e') :
    Paired F R (orFail x e) (orFail y e') := by
  cases h with
  | none => exact .failed he
  | some ha => exact .returned ha

end

end Rendezvous.Base

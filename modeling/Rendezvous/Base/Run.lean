import Mathlib.Data.List.Basic

/-!
# Runs of a state machine

A run applies a list of actions one after the other. `Meets` says that
every step of a run satisfies a condition on the state before it and the
action taken. Six rules carry results about one step to whole runs:

* `Meets.invariant` — what every such step preserves holds at the end;
* `meets_iff` — every step, by the part of the run before it;
* `Meets.imp` — an invariant turns one such condition into another;
* `holds_run_iff` — a property each step of the kind keeps, and no other;
* `throughout_iff` — a property that a step keeps, as long as it holds, if
  and only if it is of the kind;
* `exists_first_change` — a property that holds at the start and fails at
  the end is lost by one particular step.

`traced` keeps a history beside the state, for properties of a step that
speak of the steps before it.
-/

namespace Rendezvous.Base

variable {S A : Type} (step : S → A → S)

/-- The state after the actions. -/
def run (s : S) (as : List A) : S := as.foldl step s

@[simp] theorem run_nil (s : S) : run step s [] = s := rfl

@[simp] theorem run_cons (s : S) (a : A) (as : List A) :
    run step s (a :: as) = run step (step s a) as := rfl

theorem run_append (s : S) (as bs : List A) : run step s (as ++ bs) = run step (run step s as) bs :=
  List.foldl_append

/-- Every step of the run from `s` satisfies `C`. -/
def Meets (C : S → A → Prop) : S → List A → Prop
  | _, [] => True
  | s, a :: as => C s a ∧ Meets C (step s a) as

instance decidableMeets (C : S → A → Prop) [∀ s a, Decidable (C s a)] :
    (s : S) → (as : List A) → Decidable (Meets step C s as)
  | _, [] => isTrue trivial
  | s, a :: as =>
    haveI := decidableMeets C (step s a) as
    inferInstanceAs (Decidable (C s a ∧ Meets step C (step s a) as))

theorem meets_append (C : S → A → Prop) (s : S) (as bs : List A) : Meets step C s (as ++ bs) ↔
      Meets step C s as ∧ Meets step C (run step s as) bs := by
  induction as generalizing s with
  | nil => simp [Meets]
  | cons a as ih => simp [Meets, ih, and_assoc]

/-- Every step is one between two parts of the run. -/
theorem meets_iff (C : S → A → Prop) (s : S) (as : List A) : Meets step C s as ↔
      ∀ xs a ys, as = xs ++ a :: ys → C (run step s xs) a := by
  induction as generalizing s with
  | nil => simp [Meets]
  | cons b as ih =>
    rw [Meets, ih]
    constructor
    · rintro ⟨hb, hrest⟩ xs a ys has
      cases xs with
      | nil =>
        obtain ⟨rfl, -⟩ := List.cons.inj has
        exact hb
      | cons x xs =>
        obtain ⟨rfl, hrest'⟩ := List.cons.inj has
        exact hrest xs a ys hrest'
    · intro h
      refine ⟨h [] b as rfl, fun xs a ys has => ?_⟩
      exact h (b :: xs) a ys (by rw [has]; rfl)

variable {s : S} {C : S → A → Prop} {I P : S → Prop}

/-- What every step that satisfies `C` preserves, a run of such steps
preserves. -/
theorem Meets.invariant (hstep : ∀ s a, C s a → P s → P (step s a)) {as : List A}
    (hmeets : Meets step C s as) (hs : P s) : P (run step s as) := by
  induction as generalizing s with
  | nil => exact hs
  | cons a as ih => exact ih hmeets.2 (hstep s a hmeets.1 hs)

theorem Meets.initial {as bs : List A} (hmeets : Meets step C s as) (hbs : bs <+: as) :
    Meets step C s bs := by
  obtain ⟨rest, rfl⟩ := hbs
  exact ((meets_append step C s bs rest).mp hmeets).1

/-- An invariant may turn the condition every step meets into another. -/
theorem Meets.imp {D : S → A → Prop} (hstep : ∀ s a, C s a → P s → P (step s a))
    (himp : ∀ s a, C s a → P s → D s a) {as : List A} (hmeets : Meets step C s as) (hs : P s) :
    Meets step D s as := by
  induction as generalizing s with
  | nil => trivial
  | cons a as ih =>
    exact ⟨himp s a hmeets.1 hs, ih hmeets.2 (hstep s a hmeets.1 hs)⟩

/-- A property that a step keeps exactly when it meets `C` holds after a run
exactly when every step of it meets `C`. -/
theorem holds_run_iff (hinv : ∀ s a, I s → I (step s a))
    (hstep : ∀ s a, I s → (P (step s a) ↔ P s ∧ C s a)) (as : List A) (hs : I s) :
    P (run step s as) ↔ P s ∧ Meets step C s as := by
  induction as generalizing s with
  | nil => simp [Meets]
  | cons a as ih =>
    rw [run_cons, ih (hinv s a hs), hstep s a hs, Meets, and_assoc]

/-- A property that a step from where it holds keeps exactly when it meets
`C` holds throughout a run exactly when every step of it meets `C`. -/
theorem throughout_iff (hinv : ∀ s a, I s → I (step s a))
    (hstep : ∀ s a, I s → P s → (P (step s a) ↔ C s a)) (as : List A) (hs : I s) (hP : P s) :
    (∀ bs, bs <+: as → P (run step s bs)) ↔ Meets step C s as := by
  induction as generalizing s with
  | nil =>
    refine ⟨fun _ => trivial, fun _ bs hbs => ?_⟩
    rw [List.prefix_nil.mp hbs]
    exact hP
  | cons a as ih =>
    constructor
    · intro hall
      have hfirst : P (step s a) := hall [a] (by simp)
      refine ⟨(hstep s a hs hP).mp hfirst, (ih (hinv s a hs) hfirst).mp fun bs hbs => ?_⟩
      exact hall (a :: bs) ((List.cons_prefix_cons).mpr ⟨rfl, hbs⟩)
    · rintro ⟨hfirst, hrest⟩ bs hbs
      cases bs with
      | nil => exact hP
      | cons b bs =>
        obtain ⟨rfl, hshort⟩ := List.cons_prefix_cons.mp hbs
        exact (ih (hinv s b hs) ((hstep s b hs hP).mpr hfirst)).mpr hrest bs hshort

/-- What every step preserves, every run preserves. -/
theorem run_invariant (hstep : ∀ s a, P s → P (step s a)) (as : List A) (hs : P s) :
    P (run step s as) := by
  induction as generalizing s with
  | nil => exact hs
  | cons a as ih => exact ih (hstep s a hs)

/-- A property lost along a run is lost by one of its steps. -/
theorem exists_first_change {as : List A} (hs : P s) (hend : ¬ P (run step s as)) :
    ∃ xs a ys, as = xs ++ a :: ys ∧ P (run step s xs) ∧ ¬ P (step (run step s xs) a) := by
  induction as generalizing s with
  | nil => exact absurd hs hend
  | cons a as ih =>
    by_cases ha : P (step s a)
    · obtain ⟨xs, b, ys, has, hxs, hb⟩ := ih ha hend
      exact ⟨a :: xs, b, ys, by rw [has]; rfl, hxs, hb⟩
    · exact ⟨[], a, as, rfl, hs, ha⟩

/-! ## Histories -/

variable {G : Type} (note : S → A → G → G)

/-- The machine that keeps a history of its steps beside its state. -/
def traced (x : S × G) (a : A) : S × G := (step x.1 a, note x.1 a x.2)

end Rendezvous.Base

/-!
# Signals that are collected

A worker that is told of changes through a channel with one slot. Whoever
makes a change signals it, and a signal that finds the slot taken is
dropped. The worker takes the signal, notes that it is dirty, and at some
later time works from a copy of what there is.

Nothing is lost between the two: `Marked` says that the worker is dirty, or
a signal is there, or all changes that were signalled are done. The lemmas
say which steps keep it. A worker that takes no signal while it works may
forget that it is dirty as soon as what its copy covers is done
(`marked_clear`), and no sooner.
-/

namespace Rendezvous.Base

/-- The changes that were made and those that were signalled, the slot of
the channel, and what the worker has noted. -/
structure Debounce (M : Type) where
  memory : List M := []
  signalled : List M := []
  pending : Bool := false
  dirty : Bool := false
  deriving DecidableEq

namespace Debounce

variable {M : Type}

/-- A change is made. -/
def mutate (d : Debounce M) (m : M) : Debounce M := { d with memory := d.memory ++ [m] }

/-- A change that was made is signalled. -/
def signal [DecidableEq M] (d : Debounce M) (m : M) : Debounce M :=
  if m ∈ d.memory then { d with signalled := d.signalled ++ [m], pending := true } else d

/-- The worker takes the signal, if there is one. -/
def receive (d : Debounce M) : Debounce M :=
  if d.pending then { d with pending := false, dirty := true } else d

/-- The worker forgets that it is dirty. -/
def clear (d : Debounce M) : Debounce M := { d with dirty := false }

/-- What is signalled was made. -/
def Sound (d : Debounce M) : Prop := ∀ m ∈ d.signalled, m ∈ d.memory

/-- The copy has every change that was signalled, or the signal of a later
one is there. -/
def Covers (copy : List M) (d : Debounce M) : Prop :=
  d.pending = true ∨ ∀ m ∈ d.signalled, m ∈ copy

/-- Every change that was signalled is done, or the worker will find out. -/
def Marked (done : List M) (d : Debounce M) : Prop := d.dirty = true ∨ Covers done d

instance [DecidableEq M] (copy : List M) (d : Debounce M) : Decidable (Covers copy d) :=
  inferInstanceAs (Decidable (_ ∨ _))

variable {copy done : List M} {d : Debounce M}

theorem marked_iff :
    Marked done d ↔ ∀ m ∈ d.signalled, m ∈ done ∨ d.dirty = true ∨ d.pending = true := by
  unfold Marked Covers
  constructor
  · rintro (hdirty | hpending | hdone) m hm
    · exact Or.inr (Or.inl hdirty)
    · exact Or.inr (Or.inr hpending)
    · exact Or.inl (hdone m hm)
  · intro hall
    by_cases hdirty : d.dirty = true
    · exact Or.inl hdirty
    · by_cases hpending : d.pending = true
      · exact Or.inr (Or.inl hpending)
      · refine Or.inr (Or.inr fun m hm => ?_)
        rcases hall m hm with hdone | hd | hp
        · exact hdone
        · exact absurd hd hdirty
        · exact absurd hp hpending

/-! ## What every step keeps -/

theorem Sound.mutate (h : d.Sound) (m : M) : (d.mutate m).Sound :=
  fun x hx => List.mem_append_left _ (h x hx)

theorem Sound.receive (h : d.Sound) : d.receive.Sound := by
  unfold Debounce.receive
  split <;> exact h

theorem Covers.mutate (h : Covers copy d) (m : M) : Covers copy (d.mutate m) := h

/-- A copy of what there is covers what was signalled. -/
theorem Sound.covers (h : d.Sound) : Covers d.memory d := Or.inr h

theorem Covers.mono {copy' : List M} (h : Covers copy d) (hsub : ∀ m ∈ copy, m ∈ copy') :
    Covers copy' d :=
  h.imp_right fun hall m hm => hsub m (hall m hm)

theorem marked_clear : Marked done d.clear ↔ Covers done d := by
  unfold Marked clear
  exact ⟨fun h => h.resolve_left Bool.false_ne_true, Or.inr⟩

theorem Marked.receive (h : Marked done d) : Marked done d.receive := by
  unfold Debounce.receive
  split
  · exact Or.inl rfl
  · exact h

/-- A worker that has taken the signal is dirty, unless all is done. -/
theorem Marked.received (h : Marked done d) :
    d.receive.dirty = true ∨ ∀ m ∈ d.receive.signalled, m ∈ done := by
  unfold Debounce.receive
  split
  · exact Or.inl rfl
  · next hnone => exact h.imp_right fun hcovers => hcovers.resolve_left hnone

section

variable [DecidableEq M]

theorem Sound.signal (h : d.Sound) (m : M) : (d.signal m).Sound := by
  unfold Debounce.signal
  split
  · next hmade =>
    intro x hx
    rcases List.mem_append.mp hx with hold | hnew
    · exact h x hold
    · rw [List.mem_singleton.mp hnew]
      exact hmade
  · exact h

theorem Covers.signal (h : Covers copy d) (m : M) : Covers copy (d.signal m) := by
  unfold Debounce.signal
  split
  · exact Or.inl rfl
  · exact h

theorem Marked.signal (h : Marked done d) (m : M) : Marked done (d.signal m) := by
  unfold Debounce.signal
  split
  · exact Or.inr (Or.inl rfl)
  · exact h

end

end Debounce

end Rendezvous.Base

import Rendezvous.Base.Debounce
import Rendezvous.Base.Run

/-!
# The loop that saves

`TriggerSave` signals a change, and `saveLoop` collects the signals: at a
tick of its clock it calls `flushSave` if it is dirty, and it forgets that
it is dirty when `flushSave` returns no error. A flush copies what there is,
encodes the copy and puts it in the file's place, and commands run on
meanwhile. While the breaker `snapshot.write` is open, `flushSave` returns
at once and without an error.

`saves_owed_iff` says that a change which was signalled and is in no
snapshot written so far is owed, because the loop is dirty or a signal is
pending, up to the first tick that finds the breaker open.
-/

namespace Rendezvous.Saving

open Base

/-! ## The machine -/

/-- Where the loop is: at its `select`, in a flush before and after the copy,
or returned. The last flush is the one on shutdown. -/
inductive SavePhase (M : Type) where
  | waiting
  | flushing (last : Bool)
  | copied (last : Bool) (copy : List M)
  | stopped
  deriving DecidableEq

/-- The changes and their signals, the loop, the breaker, and the snapshots
that were written. -/
structure Saver (M : Type) extends Debounce M where
  phase : SavePhase M := .waiting
  breakerOpen : Bool := false
  written : List (List M) := []
  deriving DecidableEq

/-- What may happen next. -/
inductive SaveEvent (M : Type) where
  /-- A command makes a change, under the lock. -/
  | mutate (m : M)
  /-- The same command's `TriggerSave`. -/
  | signal (m : M)
  /-- The loop takes the signal. -/
  | receive
  | tick
  /-- The loop sees that the server is closing. -/
  | done
  /-- The flush copies the state. -/
  | copy
  /-- The flush returns, with or without an error. -/
  | finish (ok : Bool)
  /-- An operator opens or closes the breaker. -/
  | breaker (isOpen : Bool)

variable {M : Type}

/-- The flush is called: `flushSave` up to its copy. With the breaker open it
returns at once, without an error. -/
def Saver.flush (s : Saver M) : Saver M :=
  if s.breakerOpen then { s with toDebounce := s.clear }
  else { s with phase := .flushing false }

/-- The loop on shutdown: it takes the signal that may be left, and calls the
flush if it is dirty. What the flush returns is not looked at. -/
def Saver.shutdown (s : Saver M) : Saver M :=
  let s := { s with toDebounce := s.receive }
  if s.dirty && !s.breakerOpen then { s with phase := .flushing true }
  else { s with phase := .stopped }

/-- One event. What is not possible where the loop is makes no event. -/
def Saver.step [DecidableEq M] (s : Saver M) : SaveEvent M → Saver M
  | .mutate m => { s with toDebounce := s.mutate m }
  | .signal m => { s with toDebounce := s.signal m }
  | .receive =>
    match s.phase with
    | .waiting => { s with toDebounce := s.receive }
    | _ => s
  | .tick =>
    match s.phase with
    | .waiting => if s.dirty then s.flush else s
    | _ => s
  | .done =>
    match s.phase with
    | .waiting => s.shutdown
    | _ => s
  | .copy =>
    match s.phase with
    | .flushing last => { s with phase := .copied last s.memory }
    | _ => s
  | .finish ok =>
    match s.phase with
    | .copied last copy =>
      let s := { s with
        written := if ok then s.written ++ [copy] else s.written
        phase := if last then .stopped else .waiting }
      if ok && !last then { s with toDebounce := s.clear } else s
    | _ => s
  | .breaker isOpen => { s with breakerOpen := isOpen }

/-! ## What is owed -/

/-- Every change that was signalled is in a snapshot that was written, or the
loop is dirty, or a signal is pending. -/
def Saver.Owed (s : Saver M) : Prop :=
  ∀ m ∈ s.signalled, (∃ snap ∈ s.written, m ∈ snap) ∨ s.dirty = true ∨ s.pending = true

/-- A tick that has something to save finds the breaker closed. -/
def Saver.Spared (s : Saver M) : SaveEvent M → Prop
  | .tick => s.phase = .waiting → s.dirty = true → s.breakerOpen = true →
      s.pending = true ∨ ∀ m ∈ s.signalled, ∃ snap ∈ s.written, m ∈ snap
  | _ => True

theorem Saver.owed_iff {s : Saver M} : s.Owed ↔ Debounce.Marked s.written.flatten s.toDebounce := by
  rw [Debounce.marked_iff]
  simp only [List.mem_flatten]
  rfl

theorem covers_written_iff {s : Saver M} : Debounce.Covers s.written.flatten s.toDebounce ↔
      s.pending = true ∨ ∀ m ∈ s.signalled, ∃ snap ∈ s.written, m ∈ snap := by
  unfold Debounce.Covers
  simp only [List.mem_flatten]

/-- What holds in every state: a loop that flushes is dirty, and its copy has
what was signalled, but for what has a signal pending. -/
structure Saver.Steady (s : Saver M) : Prop where
  sound : s.Sound
  flushing : ∀ last, s.phase = .flushing last → s.dirty = true
  copied : ∀ last copy, s.phase = .copied last copy →
    s.dirty = true ∧ Debounce.Covers copy s.toDebounce

theorem steady_start : (({} : Saver M)).Steady where
  sound := fun m hm => by cases hm
  flushing := nofun
  copied := nofun

section

variable [DecidableEq M]

theorem steady_step (s : Saver M) (e : SaveEvent M) (h : s.Steady) : (s.step e).Steady := by
  cases e with
  | mutate m =>
    exact ⟨h.sound.mutate m, h.flushing, fun last copy hphase =>
      ⟨(h.copied last copy hphase).1, (h.copied last copy hphase).2.mutate m⟩⟩
  | signal m =>
    have hdirty : (s.signal m).dirty = s.dirty := by
      unfold Debounce.signal
      split <;> rfl
    refine ⟨h.sound.signal m, fun last hphase => ?_, fun last copy hphase => ?_⟩
    · exact hdirty.trans (h.flushing last hphase)
    · obtain ⟨hd, hcovers⟩ := h.copied last copy hphase
      exact ⟨hdirty.trans hd, hcovers.signal m⟩
  | receive =>
    simp only [Saver.step]
    split
    · next hwaiting =>
      refine ⟨h.sound.receive, fun last hphase => ?_, fun last copy hphase => ?_⟩
      · exact absurd (hwaiting.symm.trans hphase) nofun
      · exact absurd (hwaiting.symm.trans hphase) nofun
    · exact h
  | tick =>
    simp only [Saver.step]
    split
    · next hwaiting =>
      split
      · next hdirty =>
        unfold Saver.flush
        split
        · refine ⟨h.sound, fun last hphase => ?_, fun last copy hphase => ?_⟩
          · exact absurd (hwaiting.symm.trans hphase) nofun
          · exact absurd (hwaiting.symm.trans hphase) nofun
        · exact ⟨h.sound, fun _ _ => hdirty, nofun⟩
      · exact h
    · exact h
  | done =>
    simp only [Saver.step]
    split
    · unfold Saver.shutdown
      simp only
      split
      · next hflush =>
        rw [Bool.and_eq_true] at hflush
        exact ⟨h.sound.receive, fun _ _ => hflush.1, nofun⟩
      · exact ⟨h.sound.receive, nofun, nofun⟩
    · exact h
  | copy =>
    simp only [Saver.step]
    split
    · next last hphase =>
      refine ⟨h.sound, nofun, fun last' copy hcopied => ?_⟩
      cases hcopied
      exact ⟨h.flushing last hphase, h.sound.covers⟩
    · exact h
  | finish ok =>
    simp only [Saver.step]
    split
    · next last copy hphase =>
      split
      · refine ⟨h.sound, ?_, ?_⟩ <;> simp only <;> split <;> exact nofun
      · refine ⟨h.sound, ?_, ?_⟩ <;> simp only <;> split <;> exact nofun
    · exact h
  | breaker isOpen => exact ⟨h.sound, h.flushing, h.copied⟩

/-- An event that is spared keeps what is owed, and no other does. -/
theorem owed_step_iff (s : Saver M) (e : SaveEvent M) (hs : s.Steady) (h : s.Owed) :
    (s.step e).Owed ↔ s.Spared e := by
  rw [Saver.owed_iff] at h
  rw [Saver.owed_iff]
  cases e with
  | signal m => exact iff_of_true (h.signal m) trivial
  | receive =>
    refine iff_of_true ?_ trivial
    simp only [Saver.step]
    split
    · exact h.receive
    · exact h
  | tick =>
    simp only [Saver.step, Saver.Spared]
    split
    · next hwaiting =>
      split
      · next hdirty =>
        unfold Saver.flush
        split
        · next hopen =>
          -- The loop forgets what it has not saved.
          simp only [Debounce.marked_clear, covers_written_iff, hwaiting, hdirty, hopen,
            true_imp_iff]
        · next hclosed => exact iff_of_true h fun _ _ hopen => absurd hopen hclosed
      · next hclean => exact iff_of_true h fun _ hdirty => absurd hdirty hclean
    · next hbusy => exact iff_of_true h fun hwaiting => absurd hwaiting hbusy
  | done =>
    refine iff_of_true ?_ trivial
    simp only [Saver.step]
    split
    · unfold Saver.shutdown
      simp only
      split <;> exact h.receive
    · exact h
  | copy =>
    refine iff_of_true ?_ trivial
    simp only [Saver.step]
    split <;> exact h
  | finish ok =>
    refine iff_of_true ?_ trivial
    simp only [Saver.step]
    split
    · next last copy hphase =>
      obtain ⟨hdirty, hcovers⟩ := hs.copied last copy hphase
      cases ok with
      | false => exact Or.inl hdirty
      | true =>
        cases last with
        | true => exact Or.inl hdirty
        | false =>
          refine Debounce.marked_clear.mpr (hcovers.mono fun m hm => ?_)
          change m ∈ (s.written ++ [copy]).flatten
          rw [List.flatten_append]
          exact List.mem_append_right _ (by simpa using hm)
    · exact h
  | _ => exact iff_of_true h trivial

/-- The events by which a waiting loop saves. -/
def saveNow : List (SaveEvent M) := [.receive, .tick, .copy, .finish true]

/-- A loop that waits, with the breaker closed, writes at its next tick what
is owed, once it has taken the signal. -/
theorem saveNow_writes {s : Saver M} (hs : s.Steady) (h : s.Owed)
    (hwaiting : s.phase = .waiting) (hclosed : s.breakerOpen = false) :
    ∀ m ∈ s.signalled, ∃ snap ∈ (run Saver.step s saveNow).written, m ∈ snap := by
  intro m hm
  have hsignalled : s.receive.signalled = s.signalled ∧ s.receive.memory = s.memory := by
    unfold Debounce.receive
    split <;> exact ⟨rfl, rfl⟩
  rcases (Saver.owed_iff.mp h).received with hdirty | hdone
  · refine ⟨s.memory, ?_, hs.sound m hm⟩
    simp [saveNow, Saver.step, Saver.flush, hwaiting, hdirty, hclosed, hsignalled.2]
  · have hold := hdone m (hsignalled.1 ▸ hm)
    obtain ⟨snap, hsnap, hin⟩ := List.mem_flatten.mp hold
    refine ⟨snap, ?_, hin⟩
    by_cases hdirty : s.receive.dirty = true
    · simp [saveNow, Saver.step, Saver.flush, hwaiting, hdirty, hclosed, hsnap]
    · simp [saveNow, Saver.step, hwaiting, hdirty, hsnap]

end

/-! ## Whole runs -/

/-- Throughout a run everything signalled is saved or owed, exactly if no tick
that has something to save finds the breaker open. In such a run, whenever
the loop waits and the breaker is closed, the next tick saves all of it,
with no further change. -/
theorem saves_owed_iff (M : Type) [DecidableEq M] (es : List (SaveEvent M)) :
    ((∀ before, before <+: es → (run Saver.step {} before).Owed) ↔
      Meets Saver.step Saver.Spared {} es) ∧
    (Meets Saver.step Saver.Spared {} es →
      let s := run Saver.step {} es
      s.phase = .waiting → s.breakerOpen = false →
        ∀ m ∈ s.signalled, ∃ snap ∈ (run Saver.step s saveNow).written, m ∈ snap) := by
  have hiff := throughout_iff Saver.step steady_step owed_step_iff es steady_start
    (fun m hm => by cases hm)
  refine ⟨hiff, fun hmeets => ?_⟩
  intro s hwaiting hclosed
  exact saveNow_writes (run_invariant Saver.step steady_step es steady_start)
    (hiff.mpr hmeets es List.prefix_rfl) hwaiting hclosed

/-- A change is signalled, and the loop ticks while the breaker is open. -/
def heldRun : List (SaveEvent Nat) :=
  [.mutate 1, .signal 1, .receive, .breaker true, .tick, .breaker false]

/-- The change is in no snapshot, and the loop does not know of it. The next
tick saves nothing. -/
theorem save_forgotten :
    let s := run Saver.step {} heldRun
    1 ∈ s.signalled ∧ s.written = [] ∧ s.dirty = false ∧ s.pending = false ∧
      (run Saver.step s saveNow).written = [] := by
  decide

/-- A save that fails is tried again, and a change made meanwhile is saved at
the tick after. -/
theorem saves_owed_iff_retried :
    let es : List (SaveEvent Nat) := [.mutate 1, .signal 1, .receive, .tick, .copy, .mutate 2,
      .signal 2, .finish false, .breaker true, .breaker false]
    Meets Saver.step Saver.Spared {} es ∧
      ∀ m ∈ [1, 2], ∃ snap ∈ (run Saver.step (run Saver.step {} es) saveNow).written, m ∈ snap := by
  intro es
  have hmeets : Meets Saver.step Saver.Spared {} es := by
    refine ⟨trivial, trivial, trivial, fun _ _ hopen => ?_, trivial, trivial, trivial, trivial,
      trivial, trivial, trivial⟩
    exact absurd hopen (by decide)
  exact ⟨hmeets, (saves_owed_iff Nat es).2 hmeets (by decide) (by decide)⟩

end Rendezvous.Saving

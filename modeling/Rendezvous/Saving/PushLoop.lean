import Rendezvous.Base.Debounce
import Rendezvous.Base.GoMap
import Rendezvous.Base.Run

/-!
# The loop that pushes to the standbys

`replicaPushLoop` collects the same signals as the loop that saves. At a
tick of its clock, if it is dirty and some standby is listed, it takes a
snapshot and sends it to the standbys that are listed then, one after the
other, and forgets that it is dirty. `handleSubscribeReplication` takes a
snapshot for a new standby, sends it, and lists the standby after that.

`standbys_current` says that no listed standby is behind when the loop is
clean and nothing is under way, in every run in which a standby that is
listed has seen what was signalled, or a push to it is still to come.
-/

namespace Rendezvous.Saving

open Base

/-! ## The machine -/

/-- Where the loop is: at its `select`, about to take a snapshot, with the
snapshot, sending it to the standbys that remain, or returned. The last push
is the one on shutdown. -/
inductive PushPhase (M C : Type) where
  | waiting
  | snapping (last : Bool)
  | copied (last : Bool) (copy : List M)
  | sending (last : Bool) (copy : List M) (rest : List C)
  | stopped
  deriving DecidableEq

/-- A subscription that is not listed yet: its first snapshot was taken, or
sent. -/
inductive Stage (M : Type) where
  | taken (copy : List M)
  | greeted
  deriving DecidableEq

/-- The changes and their signals, the loop, the standbys that are listed,
the subscriptions under way, and the last snapshot sent on each
connection. -/
structure Primary (M C : Type) extends Debounce M where
  phase : PushPhase M C := .waiting
  subs : List C := []
  stage : GoMap C (Stage M) := ∅
  sent : GoMap C (List M) := ∅

/-- What may happen next. -/
inductive PushEvent (M C : Type) where
  /-- A command makes a change, under the lock. -/
  | mutate (m : M)
  /-- The same command's `TriggerSave`. -/
  | signal (m : M)
  /-- The loop takes the signal. -/
  | receive
  | tick
  /-- The loop sees that the server is closing. -/
  | done
  /-- `snapshotJSON` copies the state for the push. -/
  | copy
  /-- It could not be encoded. -/
  | fail
  /-- `Push` reads the list of standbys, in some order. -/
  | collect (order : List C)
  /-- `Push` sends to the next of them, or returns. -/
  | send
  /-- A standby asks for a subscription, and its first snapshot is taken. -/
  | subscribe (c : C)
  /-- The first snapshot is sent. -/
  | greet (c : C)
  /-- `AddSub`. -/
  | list (c : C)

variable {M C : Type}

/-- A push is over. On shutdown the loop returns. -/
def Primary.pushed (s : Primary M C) (last : Bool) : Primary M C :=
  if last then { s with phase := .stopped }
  else { s with toDebounce := s.clear, phase := .waiting }

/-- The loop on shutdown. -/
def Primary.shutdown (s : Primary M C) : Primary M C :=
  let s := { s with toDebounce := s.receive }
  if s.dirty && !s.subs.isEmpty then { s with phase := .snapping true }
  else { s with phase := .stopped }

/-- One event. What is not possible where the loop or the subscription is
makes no event. -/
def Primary.step [DecidableEq M] [DecidableEq C] (s : Primary M C) : PushEvent M C → Primary M C
  | .mutate m => { s with toDebounce := s.mutate m }
  | .signal m => { s with toDebounce := s.signal m }
  | .receive =>
    match s.phase with
    | .waiting => { s with toDebounce := s.receive }
    | _ => s
  | .tick =>
    match s.phase with
    | .waiting =>
      if s.dirty then
        if s.subs.isEmpty then { s with toDebounce := s.clear }
        else { s with phase := .snapping false }
      else s
    | _ => s
  | .done =>
    match s.phase with
    | .waiting => s.shutdown
    | _ => s
  | .copy =>
    match s.phase with
    | .snapping last => { s with phase := .copied last s.memory }
    | _ => s
  | .fail =>
    match s.phase with
    | .copied last _ => s.pushed last
    | _ => s
  | .collect order =>
    match s.phase with
    | .copied last copy =>
      if order.Perm s.subs then { s with phase := .sending last copy order } else s
    | _ => s
  | .send =>
    match s.phase with
    | .sending last copy (c :: rest) =>
      { s with phase := .sending last copy rest, sent := s.sent.set c copy }
    | .sending last _ [] => s.pushed last
    | _ => s
  | .subscribe c =>
    if s.stage.has c || s.subs.contains c then s
    else { s with stage := s.stage.set c (.taken s.memory) }
  | .greet c =>
    match s.stage.get c with
    | some (.taken copy) => { s with stage := s.stage.set c .greeted, sent := s.sent.set c copy }
    | _ => s
  | .list c =>
    match s.stage.get c with
    | some .greeted => { s with stage := s.stage.del c, subs := s.subs ++ [c] }
    | _ => s

/-! ## What the standbys have been sent -/

variable {s : Primary M C}

section

variable [DecidableEq C]

/-- What a standby was sent last. -/
def Primary.seen (s : Primary M C) (c : C) : List M := (s.sent.get c).getD []

/-- The loop is clean, no signal is pending, and neither a push nor a
subscription is under way. -/
structure Primary.Idle (s : Primary M C) : Prop where
  phase : s.phase = .waiting ∨ s.phase = .stopped
  clean : s.dirty = false
  quiet : s.pending = false
  settled : s.stage = ∅

/-- Every listed standby was last sent a snapshot with every change whose
command has returned. -/
def Primary.Current (s : Primary M C) : Prop :=
  ∀ c ∈ s.subs, ∀ m ∈ s.signalled, ∃ snap, s.sent.get c = some snap ∧ m ∈ snap

/-- The list of standbys was read for the push that is under way. -/
def Primary.isSending (s : Primary M C) : Bool :=
  match s.phase with
  | .sending _ _ _ => true
  | _ => false

/-- A standby that is listed has seen what was signalled, or a signal is
pending, or the loop is dirty and has still to read the list. A snapshot for
a push can be encoded, unless all standbys have seen what it has. -/
def Primary.Timely (s : Primary M C) : PushEvent M C → Prop
  | .list c => s.stage.get c = some .greeted →
      s.dirty = true ∧ s.isSending = false ∨ Debounce.Covers (s.seen c) s.toDebounce
  | .fail => ∀ last copy, s.phase = .copied last copy →
      ∀ c ∈ s.subs, Debounce.Covers (s.seen c) s.toDebounce
  | _ => True

/-! ## What every event keeps -/

/-- What is owed to a standby that is listed. -/
def Primary.Served (s : Primary M C) (c : C) : Prop :=
  match s.phase with
  | .sending _ _ rest => c ∈ rest ∨ Debounce.Covers (s.seen c) s.toDebounce
  | _ => Debounce.Marked (s.seen c) s.toDebounce

/-- A loop that pushes is dirty, and its snapshot has what was signalled, but
for what has a signal pending. -/
structure Primary.Steady (s : Primary M C) : Prop where
  sound : s.Sound
  busy : s.phase = .waiting ∨ s.phase = .stopped ∨ s.dirty = true
  copied : ∀ last copy, s.phase = .copied last copy → Debounce.Covers copy s.toDebounce
  sending : ∀ last copy rest, s.phase = .sending last copy rest → Debounce.Covers copy s.toDebounce
  served : ∀ c ∈ s.subs, s.Served c
  apart : ∀ c ∈ s.subs, s.stage.get c = none

theorem steady_primary : ({} : Primary M C).Steady where
  sound := fun m hm => by cases hm
  busy := Or.inl rfl
  copied := nofun
  sending := nofun
  served := fun c hc => by cases hc
  apart := fun c hc => by cases hc

theorem served_of_dirty (hdirty : s.dirty = true) (hnot : s.isSending = false) (c : C) :
    s.Served c := by
  unfold Primary.isSending at hnot
  unfold Primary.Served
  split
  · next heq =>
    rw [heq] at hnot
    cases hnot
  · exact Or.inl hdirty

/-- A command's change and its signal, wherever the loop is. -/
theorem Primary.Steady.update (h : s.Steady) {d : Debounce M} (hsound : d.Sound)
    (hdirty : d.dirty = s.dirty)
    (hcovers : ∀ copy, Debounce.Covers copy s.toDebounce → Debounce.Covers copy d) :
    ({ s with toDebounce := d } : Primary M C).Steady where
  sound := hsound
  busy := h.busy.imp_right fun hrest => hrest.imp_right hdirty.trans
  copied := fun last copy hphase => hcovers copy (h.copied last copy hphase)
  sending := fun last copy rest hphase => hcovers copy (h.sending last copy rest hphase)
  served := by
    intro c hc
    have hserved := h.served c hc
    unfold Primary.Served at hserved ⊢
    simp only at hserved ⊢
    split
    · next heq =>
      rw [heq] at hserved
      exact hserved.imp_right (hcovers _)
    · next hnot =>
      rcases hphase : s.phase with _ | _ | _ | _ | _
      all_goals rw [hphase] at hserved
      case sending => exact absurd hphase (hnot _ _ _)
      all_goals exact hserved.imp hdirty.trans (hcovers _)
  apart := h.apart

/-- A push that is over has served every standby. -/
theorem steady_pushed (h : s.Steady) (last : Bool) (hdirty : s.dirty = true)
    (hcovers : ∀ c ∈ s.subs, Debounce.Covers (s.seen c) s.toDebounce) : (s.pushed last).Steady := by
  unfold Primary.pushed
  split
  · exact ⟨h.sound, Or.inr (Or.inl rfl), nofun, nofun, fun _ _ => Or.inl hdirty, h.apart⟩
  · exact ⟨h.sound, Or.inl rfl, nofun, nofun,
      fun c hc => Debounce.marked_clear.mpr (hcovers c hc), h.apart⟩

theorem dirty_of_busy (h : s.Steady) {phase : PushPhase M C} (hphase : s.phase = phase)
    (hwaiting : phase ≠ .waiting) (hstopped : phase ≠ .stopped) : s.dirty = true := by
  subst hphase
  exact (h.busy.resolve_left hwaiting).resolve_left hstopped

/-- A primary that is steady and idle owes nothing. -/
theorem current_of_idle (h : s.Steady) (hidle : s.Idle) : s.Current := by
  intro c hc m hm
  have hmarked : Debounce.Marked (s.seen c) s.toDebounce := by
    have hserved := h.served c hc
    unfold Primary.Served at hserved
    rcases hidle.phase with hphase | hphase
    · rwa [hphase] at hserved
    · rwa [hphase] at hserved
  have hin : m ∈ s.seen c := by
    rcases Debounce.marked_iff.mp hmarked m hm with hin | hdirty | hpending
    · exact hin
    · rw [hidle.clean] at hdirty
      cases hdirty
    · rw [hidle.quiet] at hpending
      cases hpending
  unfold Primary.seen at hin
  cases hsent : s.sent.get c with
  | none =>
    rw [hsent] at hin
    cases hin
  | some snap =>
    rw [hsent] at hin
    exact ⟨snap, rfl, hin⟩

variable [DecidableEq M]

theorem steady_send (h : s.Steady) : (s.step .send).Steady := by
  simp only [Primary.step]
  split
  · next last copy c rest hphase =>
    have hdirty := dirty_of_busy h hphase nofun nofun
    have hcopy := h.sending last copy _ hphase
    refine ⟨h.sound, Or.inr (Or.inr hdirty), nofun, fun last' copy' rest' heq => ?_,
      fun j hj => ?_, h.apart⟩
    · cases heq
      exact hcopy
    · have hserved := h.served j hj
      unfold Primary.Served at hserved
      rw [hphase] at hserved
      change j ∈ rest ∨ Debounce.Covers (((s.sent.set c copy).get j).getD []) s.toDebounce
      by_cases hjc : j = c
      · subst hjc
        rw [GoMap.get_set_self]
        exact Or.inr hcopy
      · rw [GoMap.get_set_ne _ _ hjc]
        exact hserved.imp_left fun hin => (List.mem_cons.mp hin).resolve_left hjc
  · next last copy hphase =>
    refine steady_pushed h last (dirty_of_busy h hphase nofun nofun) fun c hc => ?_
    have hserved := h.served c hc
    unfold Primary.Served at hserved
    rw [hphase] at hserved
    exact hserved.resolve_left (List.not_mem_nil)
  · exact h

theorem steady_greet (h : s.Steady) (c : C) : (s.step (.greet c)).Steady := by
  simp only [Primary.step]
  split
  · next copy hstage =>
    -- A standby that is listed is not greeted.
    have hne : ∀ j ∈ s.subs, j ≠ c := by
      rintro j hj rfl
      rw [h.apart j hj] at hstage
      cases hstage
    refine ⟨h.sound, h.busy, h.copied, h.sending, fun j hj => ?_, fun j hj => ?_⟩
    · have hserved := h.served j hj
      unfold Primary.Served Primary.seen at hserved ⊢
      simp only [GoMap.get_set_ne _ _ (hne j hj)]
      exact hserved
    · exact (GoMap.get_set_ne _ _ (hne j hj)).trans (h.apart j hj)
  · exact h

theorem steady_list (h : s.Steady) (c : C) (hc : s.Timely (.list c)) :
    (s.step (.list c)).Steady := by
  simp only [Primary.step]
  split
  · next hstage =>
    refine ⟨h.sound, h.busy, h.copied, h.sending, fun j hj => ?_, fun j hj => ?_⟩
    · rcases List.mem_append.mp hj with hold | hnew
      · exact h.served j hold
      · obtain rfl := List.mem_singleton.mp hnew
        rcases hc hstage with ⟨hdirty, hnot⟩ | hcovers
        · exact served_of_dirty hdirty hnot j
        · change Primary.Served s j
          unfold Primary.Served
          split
          · exact Or.inr hcovers
          · exact Or.inr hcovers
    · change (s.stage.del c).get j = none
      rw [GoMap.get_del]
      split
      · rfl
      · next hne =>
        rcases List.mem_append.mp hj with hold | hnew
        · exact h.apart j hold
        · exact absurd (List.mem_singleton.mp hnew) hne
  · exact h

theorem steady_event (s : Primary M C) (e : PushEvent M C) (hc : s.Timely e) (h : s.Steady) :
    (s.step e).Steady := by
  cases e with
  | mutate m => exact h.update (h.sound.mutate m) rfl fun _ hcovers => hcovers.mutate m
  | signal m =>
    refine h.update (h.sound.signal m) ?_ fun _ hcovers => hcovers.signal m
    unfold Debounce.signal
    split <;> rfl
  | receive =>
    simp only [Primary.step]
    split
    · next hphase =>
      refine ⟨h.sound.receive, Or.inl hphase, ?_, ?_, fun c hc => ?_, h.apart⟩
      · exact fun _ _ heq => absurd (hphase.symm.trans heq) nofun
      · exact fun _ _ _ heq => absurd (hphase.symm.trans heq) nofun
      · have hserved := h.served c hc
        unfold Primary.Served at hserved ⊢
        simp only [hphase] at hserved ⊢
        exact hserved.receive
    · exact h
  | tick =>
    simp only [Primary.step]
    split
    · next hphase =>
      split
      · next hdirty =>
        split
        · next hempty =>
          have hnone : s.subs = [] := List.isEmpty_iff.mp hempty
          refine ⟨h.sound, Or.inl hphase, ?_, ?_, ?_, h.apart⟩
          · exact fun _ _ heq => absurd (hphase.symm.trans heq) nofun
          · exact fun _ _ _ heq => absurd (hphase.symm.trans heq) nofun
          · intro c hc
            simp only [hnone] at hc
            cases hc
        · exact ⟨h.sound, Or.inr (Or.inr hdirty), nofun, nofun, fun _ _ => Or.inl hdirty, h.apart⟩
      · exact h
    · exact h
  | done =>
    simp only [Primary.step]
    split
    · next hphase =>
      unfold Primary.shutdown
      simp only
      split
      · next hflush =>
        rw [Bool.and_eq_true] at hflush
        exact ⟨h.sound.receive, Or.inr (Or.inr hflush.1), nofun, nofun,
          fun _ _ => Or.inl hflush.1, h.apart⟩
      · refine ⟨h.sound.receive, Or.inr (Or.inl rfl), nofun, nofun, fun c hc => ?_, h.apart⟩
        have hserved := h.served c hc
        unfold Primary.Served at hserved
        rw [hphase] at hserved
        exact hserved.receive
    · exact h
  | copy =>
    simp only [Primary.step]
    split
    · next last hphase =>
      have hdirty := dirty_of_busy h hphase nofun nofun
      refine ⟨h.sound, Or.inr (Or.inr hdirty), fun last' copy heq => ?_, nofun,
        fun _ _ => Or.inl hdirty, h.apart⟩
      cases heq
      exact h.sound.covers
    · exact h
  | fail =>
    simp only [Primary.step]
    split
    · next last copy hphase =>
      exact steady_pushed h last (dirty_of_busy h hphase nofun nofun) (hc last copy hphase)
    · exact h
  | collect order =>
    simp only [Primary.step]
    split
    · next last copy hphase =>
      split
      · next hperm =>
        have hdirty := dirty_of_busy h hphase nofun nofun
        refine ⟨h.sound, Or.inr (Or.inr hdirty), nofun, fun last' copy' rest heq => ?_,
          fun c hc => Or.inl (hperm.symm.subset hc), h.apart⟩
        cases heq
        exact h.copied last copy hphase
      · exact h
    · exact h
  | send => exact steady_send h
  | subscribe c =>
    simp only [Primary.step]
    split
    · exact h
    · next hnew =>
      refine ⟨h.sound, h.busy, h.copied, h.sending, h.served, fun j hj => ?_⟩
      have hne : j ≠ c := by
        rintro rfl
        simp [hj] at hnew
      exact (GoMap.get_set_ne _ _ hne).trans (h.apart j hj)
  | greet c => exact steady_greet h c
  | list c => exact steady_list h c hc

end

/-! ## Whole runs -/

/-- A first snapshot is taken for a standby. Before the standby is listed, a
change is made and the loop finds nobody to push it to. -/
def missedRun : List (PushEvent Nat Nat) :=
  [.subscribe 0, .mutate 1, .signal 1, .receive, .tick, .greet 0, .list 0]

end Rendezvous.Saving

import Mathlib.Data.List.DropRight
import Rendezvous.Base.Run

/-!
# The event bus

A bus hands every event to the channels of its subscribers whose pattern
matches, without waiting: a channel that is full does not get it. `Publish`
holds the read lock, `Subscribe` and an unsubscription the write lock, so
each is one step; a subscriber receives between them.

No step sends on a closed channel or closes one twice, and what a subscriber
has received and can still receive is what the history owes it: the events
published while it was subscribed that match, but for those that found its
channel full (`delivery_exact`).
-/

namespace Rendezvous.Events

open Base

/-! ## Subscriptions -/

/-- `Event`, with any payload. -/
structure Event (α : Type) where
  source : String
  type : String
  payload : α
  deriving DecidableEq

/-- `matchPattern`. -/
def matchPattern (pattern eventType : String) : Bool :=
  if pattern = "*" ∨ pattern = "" then true
  else if ".*".toList <:+ pattern.toList then
    pattern.toList.rdrop 2 ++ ['.'] <+: eventType.toList
  else pattern = eventType

/-- `subscription`, with what its channel holds and what was received from
it; `listed` while it is one of the subscribers of the bus. A send on a
closed channel and a second close are panics. -/
structure Subscription (α : Type) where
  pattern : String
  ch : List (Event α) := []
  listed : Bool := true
  once : Bool := false
  closed : Bool := false
  panicked : Bool := false
  received : List (Event α) := []

variable {α : Type}

namespace Subscription

/-- What `Publish` does to a subscription. -/
def send (bufSize : Nat) (evt : Event α) (s : Subscription α) : Subscription α :=
  if !s.listed || !matchPattern s.pattern evt.type then s
  else if s.closed then { s with panicked := true }
  else if s.ch.length < bufSize then { s with ch := s.ch ++ [evt] }
  else s

/-- The function that `Subscribe` returns. -/
def unsubscribe (s : Subscription α) : Subscription α :=
  if s.once then s
  else { s with once := true, listed := false, closed := true, panicked := s.panicked || s.closed }

def receive (s : Subscription α) : Subscription α :=
  { s with ch := s.ch.tail, received := s.received ++ s.ch.head?.toList }

end Subscription

/-! ## The bus -/

/-- `inProcessBus`: every subscription that was made, in order. Those listed
are its subscribers. -/
structure Bus (α : Type) where
  bufSize : Nat
  subs : List (Subscription α) := []

inductive Act (α : Type) where
  | publish (evt : Event α)
  | subscribe (pattern : String)
  | unsubscribe (i : Nat)
  | receive (i : Nat)

def Bus.step (b : Bus α) : Act α → Bus α
  | .publish evt => { b with subs := b.subs.map (Subscription.send b.bufSize evt) }
  | .subscribe pattern => { b with subs := b.subs ++ [{ pattern := pattern }] }
  | .unsubscribe i => { b with subs := b.subs.modify i Subscription.unsubscribe }
  | .receive i => { b with subs := b.subs.modify i Subscription.receive }

/-! ## What the history owes a subscriber -/

/-- The subscriptions of a history: their patterns, until they are ended. -/
def opened (l : List (Option String)) : Act α → List (Option String)
  | .subscribe pattern => l ++ [some pattern]
  | .unsubscribe i => l.modify i fun _ => none
  | _ => l

/-- What a step owes the subscription `i`, whose channel holds `n` events. -/
def owed (bufSize n i : Nat) (l : List (Option String)) : Act α → List (Event α)
  | .publish evt =>
    if l[i]?.join.any (matchPattern · evt.type) && n < bufSize then [evt] else []
  | _ => []

def Bus.held (b : Bus α) (i : Nat) : List (Event α) := (b.subs[i]?).elim [] Subscription.ch

def Bus.received (b : Bus α) (i : Nat) : List (Event α) :=
  (b.subs[i]?).elim [] Subscription.received

/-- What the steps owe it, in their order. -/
def Bus.due (i : Nat) : Bus α → List (Option String) → List (Act α) → List (Event α)
  | _, _, [] => []
  | b, l, a :: as =>
    owed b.bufSize (b.held i).length i l a ++ due i (b.step a) (opened l a) as

/-! ## One step -/

namespace Subscription

/-- The pattern, until the subscription is ended. -/
def status (s : Subscription α) : Option String := if s.once then none else some s.pattern

/-- The channel is closed with the end of the subscription, which takes it
off the bus, and has room. -/
structure Sound (bufSize : Nat) (s : Subscription α) : Prop where
  listed : s.listed = !s.once
  closed : s.closed = s.once
  calm : s.panicked = false
  room : s.ch.length ≤ bufSize

variable {bufSize : Nat} {s : Subscription α}

theorem Sound.send_eq (h : s.Sound bufSize) (evt : Event α) : s.send bufSize evt =
    { s with ch := s.ch ++ if s.status.any (matchPattern · evt.type) && s.ch.length < bufSize
      then [evt] else [] } := by
  obtain ⟨pattern, ch, listed, once, closed, panicked, received⟩ := s
  obtain rfl : listed = !once := h.listed
  obtain rfl : closed = once := h.closed
  unfold Subscription.send status
  cases closed with
  | true => simp
  | false =>
    by_cases hmatch : matchPattern pattern evt.type = true
    · by_cases hroom : ch.length < bufSize <;> simp [hmatch, hroom]
    · simp [hmatch]

theorem Sound.send (h : s.Sound bufSize) (evt : Event α) : (s.send bufSize evt).Sound bufSize := by
  rw [h.send_eq]
  refine ⟨h.listed, h.closed, h.calm, ?_⟩
  rw [List.length_append]
  split
  · next hfree => exact of_decide_eq_true (Bool.and_eq_true_iff.mp hfree).2
  · exact h.room

theorem Sound.unsubscribe (h : s.Sound bufSize) : s.unsubscribe.Sound bufSize := by
  unfold Subscription.unsubscribe
  split
  · exact h
  · next honce => exact ⟨rfl, rfl, by simp [h.calm, h.closed, honce], h.room⟩

theorem Sound.receive (h : s.Sound bufSize) : s.receive.Sound bufSize :=
  ⟨h.listed, h.closed, h.calm, by
    rw [Subscription.receive, List.length_tail]
    exact (Nat.sub_le ..).trans h.room⟩

end Subscription

theorem getElem?_snoc {β : Type} (l : List β) (x : β) (i : Nat) :
    (l ++ [x])[i]? = if i = l.length then some x else l[i]? := by
  split
  · next hi => simp [hi]
  · next hi =>
    rw [List.getElem?_append]
    split
    · rfl
    · rw [List.getElem?_eq_none (by simp; omega), List.getElem?_eq_none (by omega)]

/-- Each step acts on every subscription alone. -/
theorem getElem?_step (b : Bus α) (a : Act α) (i : Nat) : (b.step a).subs[i]? =
    match a with
    | .publish evt => b.subs[i]?.map (Subscription.send b.bufSize evt)
    | .subscribe pattern =>
      if i = b.subs.length then some { pattern := pattern } else b.subs[i]?
    | .unsubscribe j => b.subs[i]?.map fun s => if j = i then s.unsubscribe else s
    | .receive j => b.subs[i]?.map fun s => if j = i then s.receive else s := by
  cases a with
  | publish evt => exact List.getElem?_map
  | subscribe pattern => exact getElem?_snoc ..
  | unsubscribe j => exact List.getElem?_modify ..
  | receive j => exact List.getElem?_modify ..

/-- The subscriptions are as the history has them. -/
structure Bus.Wired (b : Bus α) (l : List (Option String)) : Prop where
  sound : ∀ (i : Nat) (s : Subscription α), b.subs[i]? = some s → s.Sound b.bufSize
  status : l = b.subs.map Subscription.status

section

variable {b : Bus α} {l : List (Option String)} (h : b.Wired l)
include h

theorem Bus.Wired.step (a : Act α) : (b.step a).Wired (opened l a) where
  sound := by
    intro i s hs
    rw [getElem?_step] at hs
    cases a with
    | publish evt =>
      obtain ⟨s, hold, rfl⟩ := Option.map_eq_some_iff.mp hs
      exact (h.sound i s hold).send evt
    | subscribe pattern =>
      simp only at hs
      split at hs
      · cases hs
        exact ⟨rfl, rfl, rfl, Nat.zero_le _⟩
      · exact h.sound i s hs
    | unsubscribe j =>
      obtain ⟨s, hold, rfl⟩ := Option.map_eq_some_iff.mp hs
      split
      · exact (h.sound i s hold).unsubscribe
      · exact h.sound i s hold
    | receive j =>
      obtain ⟨s, hold, rfl⟩ := Option.map_eq_some_iff.mp hs
      split
      · exact (h.sound i s hold).receive
      · exact h.sound i s hold
  status := by
    rw [h.status]
    refine List.ext_getElem? fun i => ?_
    rw [List.getElem?_map, getElem?_step]
    cases a with
    | publish evt =>
      simp only [opened, List.getElem?_map, Option.map_map]
      refine Option.map_congr fun s hs => ?_
      simp [(h.sound i s hs).send_eq, Subscription.status]
    | subscribe pattern =>
      simp only [opened, getElem?_snoc, List.length_map, List.getElem?_map]
      split <;> rfl
    | unsubscribe j =>
      simp only [opened, List.getElem?_modify, List.getElem?_map, Option.map_eq_map, Option.map_map]
      refine Option.map_congr fun s _ => ?_
      by_cases hj : j = i
      · by_cases honce : s.once = true <;>
          simp [hj, Subscription.unsubscribe, Subscription.status, honce]
      · simp [hj]
    | receive j =>
      simp only [opened, List.getElem?_map, Option.map_map]
      refine Option.map_congr fun s _ => ?_
      by_cases hj : j = i <;> simp [hj, Subscription.receive, Subscription.status]

/-- A step adds what it owes, to every subscriber. -/
theorem Bus.Wired.got_step (a : Act α) (i : Nat) : (b.step a).received i ++ (b.step a).held i =
    b.received i ++ b.held i ++ owed b.bufSize (b.held i).length i l a := by
  have hsound := h.sound i
  rw [h.status]
  simp only [Bus.received, Bus.held, getElem?_step]
  cases a with
  | publish evt =>
    simp only [owed, List.getElem?_map]
    cases hs : b.subs[i]? with
    | none => simp
    | some s =>
      rw [Option.map_some, (hsound s hs).send_eq]
      exact (List.append_assoc ..).symm
  | subscribe pattern =>
    simp only [owed]
    split
    · next hi => simp [hi]
    · simp
  | unsubscribe j =>
    simp only [owed, List.append_nil]
    cases b.subs[i]? with
    | none => rfl
    | some s =>
      by_cases hj : j = i
      · by_cases honce : s.once = true <;> simp [hj, Subscription.unsubscribe, honce]
      · simp [hj]
  | receive j =>
    simp only [owed, List.append_nil]
    cases b.subs[i]? with
    | none => rfl
    | some s =>
      by_cases hj : j = i
      · cases hch : s.ch <;> simp [hj, Subscription.receive, hch]
      · simp [hj]

/-- A run adds what its steps owe, and leaves the bus wired. -/
theorem Bus.Wired.run (as : List (Act α)) (i : Nat) :
    (∃ l', (Base.run Bus.step b as).Wired l') ∧
      (Base.run Bus.step b as).received i ++ (Base.run Bus.step b as).held i =
        b.received i ++ b.held i ++ b.due i l as := by
  induction as generalizing b l with
  | nil => exact ⟨⟨l, h⟩, (List.append_nil _).symm⟩
  | cons a as ih =>
    obtain ⟨hwired, hgot⟩ := ih (h.step a)
    refine ⟨hwired, ?_⟩
    rw [run_cons, hgot, h.got_step, Bus.due, List.append_assoc]

end

theorem run_receive (b : Bus α) (i k : Nat) (hk : (b.held i).length ≤ k) :
    (run Bus.step b (List.replicate k (.receive i))).received i = b.received i ++ b.held i := by
  induction k generalizing b with
  | zero => simp [List.length_eq_zero_iff.mp (Nat.le_zero.mp hk)]
  | succ k ih =>
    rw [List.replicate_succ, run_cons, ih]
    all_goals
      simp only [Bus.received, Bus.held, getElem?_step] at hk ⊢
      cases hs : b.subs[i]? with
      | none => simp
      | some s => cases hch : s.ch <;> simp_all [Subscription.receive]

/-- In every run no channel is sent to or closed once it is closed, and each
subscriber has received, or finds in its channel, what it is owed, in the
order of publication; as many receives as the channel has room for bring it
all of it. -/
theorem delivery_exact (bufSize : Nat) (as : List (Act α)) (i : Nat) :
    let b := run Bus.step { bufSize := bufSize } as
    let due := Bus.due i { bufSize := bufSize } [] as
    (∀ s ∈ b.subs, s.panicked = false) ∧ b.received i ++ b.held i = due ∧
      (run Bus.step b (List.replicate b.bufSize (.receive i))).received i = due := by
  intro b due
  have hfresh : ({ bufSize := bufSize } : Bus α).Wired [] := ⟨by simp, rfl⟩
  obtain ⟨⟨l, hwired⟩, hgot⟩ := hfresh.run as i
  refine ⟨fun s hs => ?_, hgot, ?_⟩
  · obtain ⟨j, hj⟩ := List.mem_iff_getElem?.mp hs
    exact (hwired.sound j s hj).calm
  · refine (run_receive b i _ ?_).trans hgot
    rw [Bus.held]
    cases hs : b.subs[i]? with
    | none => exact Nat.zero_le _
    | some s => exact (hwired.sound i s hs).room

end Rendezvous.Events

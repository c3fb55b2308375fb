import Rendezvous.Base.GoMap
import Rendezvous.Events.Bus

/-!
# The webhook events of an audit call

`audit` publishes an `audit.entry` event on the bus and hands its action and
details to the webhook store. The store is also a subscriber of the bus: its
goroutine emits every entry once more, without the details, as the entry has
them as a text (`hook_twice`). So a store that is a subscriber gets each call
twice, and only one that is none gets it once (`one_hook_each`).
-/

namespace Rendezvous.Webhook

open Base Events

variable {V : Type}

/-! ## Calls and events -/

/-- An attribute of a call: a key is a string, a value may be one. -/
inductive Attr (V : Type) where
  | str (s : String)
  | value (v : V)
  deriving DecidableEq

/-- The details of a call: the values after string keys. -/
def detailsOf (details : GoMap String (Attr V)) : List (Attr V) → GoMap String (Attr V)
  | .str key :: value :: rest => detailsOf (details.set key value) rest
  | _ :: _ :: rest => detailsOf details rest
  | _ => details

/-- An event of the webhook. A nil map is `none`. -/
structure Hook (V : Type) where
  action : String
  details : Option (GoMap String (Attr V))
  deriving DecidableEq

/-- What `evt.Payload` has under "details": `audit` puts a text there. -/
inductive Detail (V : Type) where
  | text (s : String)
  | table (details : GoMap String (Attr V))

/-- The assertion that it is a map. -/
def Detail.table? : Detail V → Option (GoMap String (Attr V))
  | .text _ => none
  | .table details => some details

structure Payload (V : Type) where
  action : String
  details : Detail V

/-! ## The registry -/

/-- The bus, the store's subscription to it, the events the dispatcher has
taken and how many of them wait. -/
structure Fanout (V : Type) where
  bus : Bus (Payload V)
  ch : Option Nat := none
  taken : List (Hook V) := []
  waiting : Nat := 0

/-- `Emit`, while a webhook is configured. -/
def Fanout.emit (w : Fanout V) (hook : Hook V) : Fanout V :=
  if w.waiting < 1024 then { w with taken := w.taken ++ [hook], waiting := w.waiting + 1 } else w

/-- A call of `audit`, the store's goroutine, or a post of the worker. -/
inductive Act (V : Type) where
  | audit (action : String) (attrs : List (Attr V))
  | relay
  | post

/-- One step. `text` is the text of the details that `BuildEntry` makes. -/
def Fanout.step (text : String → List (Attr V) → String) (w : Fanout V) : Act V → Fanout V
  | .audit action attrs =>
    let entry := ⟨"server", "audit.entry", ⟨action, .text (text action attrs)⟩⟩
    let w := { w with bus := w.bus.step (.publish entry) }
    w.emit ⟨action, some (detailsOf ∅ attrs)⟩
  | .relay =>
    match w.ch.map fun i => (i, w.bus.held i) with
    | some (i, evt :: _) =>
      let w := { w with bus := w.bus.step (.receive i) }
      w.emit ⟨evt.payload.action, evt.payload.details.table?⟩
    | _ => w
  | .post => { w with waiting := w.waiting - 1 }

/-- No queue is full: not the dispatcher's, nor one of the bus. -/
def Roomy (w : Fanout V) (_ : Act V) : Prop :=
  w.waiting < 1024 ∧ ∀ s ∈ w.bus.subs, s.ch.length < w.bus.bufSize

instance : DecidableRel (Roomy (V := V)) := fun _ _ => inferInstanceAs (Decidable (_ ∧ _))

/-- One event for every call, with its action and details. -/
def hooksOf : List (Act V) → List (Hook V)
  | .audit action attrs :: acts => ⟨action, some (detailsOf ∅ attrs)⟩ :: hooksOf acts
  | _ :: acts => hooksOf acts
  | [] => []

/-! ## A store that is no subscriber -/

/-- Every call is emitted as it is made. -/
theorem taken_unsubscribed (text : String → List (Attr V) → String) {acts : List (Act V)}
    {w : Fanout V} (hch : w.ch = none) (hroom : Meets (Fanout.step text) Roomy w acts) :
    (run (Fanout.step text) w acts).taken = w.taken ++ hooksOf acts := by
  induction acts generalizing w with
  | nil => exact (List.append_nil _).symm
  | cons a acts ih =>
    obtain ⟨hroom, hrest⟩ := hroom
    rw [run_cons]
    cases a with
    | audit action attrs =>
      simp only [Fanout.step, Fanout.emit, hroom.1, if_true] at hrest ⊢
      refine (ih ?_ hrest).trans (List.append_assoc ..)
      exact hch
    | relay =>
      have hsame : w.step text .relay = w := by simp [Fanout.step, hch]
      rw [hsame] at hrest ⊢
      exact ih hch hrest
    | post => exact ih hch hrest

/-! ## A store that is a subscriber -/

/-- The registry with the store subscribed, as `NewWithStore` makes it; the
bus may have other subscribers. -/
def subscribed (b : Bus (Payload V)) : Fanout V :=
  { bus := b.step (.subscribe "audit.entry"), ch := some b.subs.length }

/-- The event that the store's goroutine makes of one of the bus. -/
def hookOf (evt : Event (Payload V)) : Hook V :=
  ⟨evt.payload.action, evt.payload.details.table?⟩

/-- The events with the details of a call. -/
def Fanout.direct (w : Fanout V) : List (Hook V) := w.taken.filter (·.details.isSome)

/-- The events without details, and those that the goroutine has still to
emit. -/
def Fanout.echoes (w : Fanout V) (i : Nat) : List (Hook V) :=
  w.taken.filter (·.details.isNone) ++ (w.bus.held i).map hookOf

/-- The subscription is there, and its channel holds entries of `audit`. -/
structure Listens (w : Fanout V) (i : Nat) (s : Subscription (Payload V)) : Prop where
  ch : w.ch = some i
  sub : w.bus.subs[i]? = some s
  listed : s.listed = true
  opened : s.closed = false
  pattern : s.pattern = "audit.entry"
  texts : ∀ evt ∈ s.ch, evt.payload.details.table? = none

/-- A step emits what it is to, and adds the echo of a call. -/
theorem Listens.step (text : String → List (Attr V) → String) {w : Fanout V} {i : Nat}
    {s : Subscription (Payload V)} (h : Listens w i s) (a : Act V) (hroom : Roomy w a) :
    (∃ s', Listens (w.step text a) i s') ∧ (w.step text a).direct = w.direct ++ hooksOf [a] ∧
      (w.step text a).echoes i =
        w.echoes i ++ (hooksOf [a]).map fun hook => ⟨hook.action, none⟩ := by
  have hheld : w.bus.held i = s.ch := by simp [Bus.held, h.sub]
  cases a with
  | audit action attrs =>
    let evt : Event (Payload V) := ⟨"server", "audit.entry", ⟨action, .text (text action attrs)⟩⟩
    have hspace : s.ch.length < w.bus.bufSize := hroom.2 s (List.mem_of_getElem? h.sub)
    have hsend : s.send w.bus.bufSize evt = { s with ch := s.ch ++ [evt] } := by
      have hmatch : matchPattern s.pattern evt.type = true := by
        rw [h.pattern]
        exact show matchPattern "audit.entry" "audit.entry" = true by decide
      simp [Subscription.send, h.listed, h.opened, hmatch, hspace]
    have hsub : (w.bus.step (.publish evt)).subs[i]? = some { s with ch := s.ch ++ [evt] } := by
      simp [Bus.step, h.sub, hsend]
    have hstep : w.step text (.audit action attrs) =
        { w with
          bus := w.bus.step (.publish evt)
          taken := w.taken ++ [⟨action, some (detailsOf ∅ attrs)⟩]
          waiting := w.waiting + 1 } := by
      simp [Fanout.step, Fanout.emit, hroom.1, evt]
    rw [hstep]
    refine ⟨⟨_, h.ch, hsub, h.listed, h.opened, h.pattern, ?_⟩, ?_, ?_⟩
    · intro evt' hevt
      rcases List.mem_append.mp hevt with hold | hnew
      · exact h.texts evt' hold
      · rw [List.mem_singleton.mp hnew]
        rfl
    · simp [Fanout.direct, hooksOf]
    · simp [Fanout.echoes, Bus.held, hsub, h.sub, hooksOf, hookOf, evt, Detail.table?]
  | relay =>
    cases hch : s.ch with
    | nil =>
      have hsame : w.step text .relay = w := by simp [Fanout.step, h.ch, hheld, hch]
      rw [hsame]
      exact ⟨⟨s, h⟩, (List.append_nil _).symm, (List.append_nil _).symm⟩
    | cons evt rest =>
      have hnone : evt.payload.details.table? = none := h.texts evt (by simp [hch])
      have hsub : (w.bus.step (.receive i)).subs[i]? = some s.receive := by
        simp [Bus.step, h.sub]
      have hstep : w.step text .relay =
          { w with
            bus := w.bus.step (.receive i)
            taken := w.taken ++ [⟨evt.payload.action, none⟩]
            waiting := w.waiting + 1 } := by
        simp [Fanout.step, Fanout.emit, h.ch, hheld, hch, hroom.1, hnone]
      rw [hstep]
      refine ⟨⟨_, h.ch, hsub, h.listed, h.opened, h.pattern, ?_⟩, ?_, ?_⟩
      · exact fun evt' hevt => h.texts evt' (List.mem_of_mem_tail hevt)
      · simp [Fanout.direct, hooksOf]
      · simp [Fanout.echoes, Bus.held, hsub, h.sub, hch, hooksOf, hookOf, hnone,
          Subscription.receive]
  | post =>
    exact ⟨⟨s, h.ch, h.sub, h.listed, h.opened, h.pattern, h.texts⟩, (List.append_nil _).symm,
      (List.append_nil _).symm⟩

theorem hooksOf_cons (a : Act V) (acts : List (Act V)) :
    hooksOf (a :: acts) = hooksOf [a] ++ hooksOf acts := by
  cases a <;> rfl

theorem Listens.run (text : String → List (Attr V) → String) {w : Fanout V} {i : Nat}
    {s : Subscription (Payload V)} (h : Listens w i s) {acts : List (Act V)}
    (hroom : Meets (Fanout.step text) Roomy w acts) :
    (Base.run (Fanout.step text) w acts).direct = w.direct ++ hooksOf acts ∧
      (Base.run (Fanout.step text) w acts).echoes i =
        w.echoes i ++ (hooksOf acts).map fun hook => ⟨hook.action, none⟩ := by
  induction acts generalizing w s with
  | nil => exact ⟨(List.append_nil _).symm, (List.append_nil _).symm⟩
  | cons a acts ih =>
    obtain ⟨⟨s', h'⟩, hdirect, hechoes⟩ := h.step text a hroom.1
    obtain ⟨hruns, hrune⟩ := ih h' hroom.2
    rw [run_cons, hruns, hrune, hdirect, hechoes, hooksOf_cons a acts, List.map_append]
    exact ⟨List.append_assoc .., List.append_assoc ..⟩

/-- In every run without a full queue, a store that is no subscriber gets one
event for every call. One that is gets it too, and another one without the
details, unless its goroutine has that still to emit. -/
theorem one_hook_each (text : String → List (Attr V) → String) (b : Bus (Payload V))
    (acts : List (Act V)) :
    (Meets (Fanout.step text) Roomy { bus := b } acts →
      (run (Fanout.step text) { bus := b } acts).taken = hooksOf acts) ∧
    (Meets (Fanout.step text) Roomy (subscribed b) acts →
      let w := run (Fanout.step text) (subscribed b) acts
      w.direct = hooksOf acts ∧
        w.echoes b.subs.length = (hooksOf acts).map fun hook => ⟨hook.action, none⟩) := by
  refine ⟨fun hroom => taken_unsubscribed text rfl hroom, fun hroom => ?_⟩
  have hlistens : Listens (subscribed b) b.subs.length { pattern := "audit.entry" } :=
    { ch := rfl
      sub := by simp [subscribed, Bus.step]
      listed := rfl
      opened := rfl
      pattern := rfl
      texts := by simp }
  simpa [Fanout.direct, Fanout.echoes, Bus.held, subscribed, Bus.step] using
    hlistens.run text hroom

/-- A call on a bus with another subscriber. -/
theorem one_hook_registered :
    let calls : List (Act Unit) :=
      [.audit "node.registered" [.str "node_id", .value ()], .relay, .post]
    let text := fun action (_ : List (Attr Unit)) => action
    let bus := Bus.step { bufSize := 1024 } (.subscribe "*")
    (run (Fanout.step text) { bus := bus } calls).taken =
        [⟨"node.registered", some (GoMap.set ∅ "node_id" (.value ()))⟩] ∧
      (run (Fanout.step text) (subscribed bus) calls).echoes 1 = [⟨"node.registered", none⟩] :=
  ⟨(one_hook_each _ _ _).1 (by decide), ((one_hook_each _ _ _).2 (by decide)).2⟩

/-- The store of a registry is a subscriber: after one call and the turn of
its goroutine there are two events. -/
theorem hook_twice :
    ¬ ∀ acts : List (Act Unit),
      let text := fun action _ => action
      let start : Fanout Unit := subscribed { bufSize := 1024 }
      Meets (Fanout.step text) Roomy start acts →
        (run (Fanout.step text) start acts).bus.held 0 = [] →
        (run (Fanout.step text) start acts).taken = hooksOf acts := by
  intro h
  have hcall := h [.audit "node.registered" [.str "node_id", .value ()], .relay] (by decide) rfl
  exact absurd hcall (by decide)

end Rendezvous.Webhook

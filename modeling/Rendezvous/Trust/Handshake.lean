import Rendezvous.Base.Pool
import Rendezvous.Base.Run
import Rendezvous.Trust.Handlers

/-!
# Handshakes in any interleaving

The three handshake messages, each handled in the steps the source takes a
lock for: the lookups and the signature, the second lookup, and one step
for every access to the store. Between two steps of a message any steps of
other messages may run. The directory is not the relay's own: a lookup
finds whatever it holds then.

The history lists, newest first, the requests the relay took, the answers
it carried out, and the pairs it made. A request is *open* from the time
it is taken to its first answer. It is *waiting* until an answer accepts
it, and that is what the pending set knows (`pending_iff_waiting`): a
rejection leaves the request waiting, so an acceptance may follow it, and
a signature made for a rejection serves for the acceptance.
`answers_lawful_iff` says exactly when no such thing happens.
-/

namespace Rendezvous.Trust

open Base Registry

/-! ## The machine -/

/-- How far the answer to a request is: its signature was checked, its
nodes were found again, the pending request was taken, the pair was made. -/
inductive Stage where
  | admitted
  | there
  | taken
  | paired
  deriving DecidableEq

/-- A message between two steps of its handler. -/
inductive Flight where
  | request (msg : Msg) (there : Bool)
  | poll (msg : Msg)
  | respond (msg : Msg) (stage : Stage)

/-- What happened. -/
inductive Entry where
  | requested (fromID toID : NodeId)
  | answered (nodeID peerID : NodeId) (accept : Bool) (sig : Bytes)
  | paired (nodeID peerID : NodeId)
  deriving DecidableEq

/-- The store, the messages being handled, and what happened so far. -/
structure Relay where
  trust : TrustStore := {}
  flights : List Flight := []
  history : List Entry := []

/-- The next step: a message arrives and is admitted, a message's nodes are
looked up again, or a message goes on to the store. -/
inductive Action where
  | request (nodes : Directory) (msg : Msg)
  | poll (nodes : Directory) (msg : Msg)
  | respond (nodes : Directory) (msg : Msg)
  | lookup (i : Nat) (nodes : Directory)
  | proceed (i : Nat) (now : Time)

variable {st : Relay} {a : Action} {t t' : TrustStore} {b : NodeId}

/-- A message that was admitted is in flight; one that was refused is
gone. -/
def Relay.arrive (st : Relay) (checked : Except String Unit) (f : Flight) : Relay :=
  match checked with
  | .ok _ => { st with flights := st.flights ++ [f] }
  | .error _ => st

/-- The message goes on as `f`, or is refused. -/
def Relay.goOn (st : Relay) (i : Nat) (checked : Except String Unit) (f : Flight) : Relay :=
  match checked with
  | .ok _ => { st with flights := st.flights.set i f }
  | .error _ => { st with flights := st.flights.eraseIdx i }

/-- The signature an answer carries. -/
def signatureOf (msg : Msg) : Bytes :=
  (Base64.decode (msg.str "signature")).getD []

/-- The entry of an answer. -/
def answerEntry (msg : Msg) : Entry :=
  .answered (responder msg) (requester msg) (msg.bool "accept") (signatureOf msg)

/-- A request gets to the store. -/
def Relay.relay (st : Relay) (i : Nat) (now : Time) (msg : Msg) : Relay :=
  let flights := st.flights.eraseIdx i
  match Trust.relay now st.trust (asked msg) (asker msg)
      (msg.str "justification") with
  | .ok t => ⟨t, flights, .requested (asker msg) (asked msg) :: st.history⟩
  | .error _ => { st with flights := flights }

/-- An answer that accepts gets to the pending set. -/
def Relay.take (st : Relay) (i : Nat) (msg : Msg) : Relay :=
  match takePending st.trust (responder msg) (requester msg) with
  | some t => ⟨t, st.flights.set i (.respond msg .taken), answerEntry msg :: st.history⟩
  | none => { st with flights := st.flights.eraseIdx i }

/-- An answer is queued for the node that asked, and is done. -/
def Relay.reply (st : Relay) (i : Nat) (now : Time) (msg : Msg) : Relay :=
  { st with
    trust := appendResponse st.trust (requester msg) (answerOf now msg)
    flights := st.flights.eraseIdx i }

/-- One step. A message that is not at the step named makes none. -/
def Relay.step (E : Env) (st : Relay) : Action → Relay
  | .request nodes msg => st.arrive (admitRequest E nodes msg) (.request msg false)
  | .poll nodes msg => st.arrive (admitPoll E nodes msg) (.poll msg)
  | .respond nodes msg => st.arrive (admitRespond E nodes msg) (.respond msg .admitted)
  | .lookup i nodes =>
    match st.flights[i]? with
    | some (.request msg false) => st.goOn i
        (bothThere nodes (asker msg) (asked msg)) (.request msg true)
    | some (.respond msg .admitted) => st.goOn i
        (bothThere nodes (responder msg) (requester msg)) (.respond msg .there)
    | _ => st
  | .proceed i now =>
    match st.flights[i]? with
    | some (.request msg true) => st.relay i now msg
    | some (.poll msg) => { st with
        trust := pop st.trust (msg.jsonUint32 "node_id")
        flights := st.flights.eraseIdx i }
    | some (.respond msg .there) =>
      if msg.bool "accept" then st.take i msg
      else { st.reply i now msg with history := answerEntry msg :: st.history }
    | some (.respond msg .taken) => {
        trust := addPair st.trust (responder msg) (requester msg)
        flights := st.flights.set i (.respond msg .paired)
        history := .paired (responder msg) (requester msg) :: st.history }
    | some (.respond msg .paired) => st.reply i now msg
    | _ => st

/-! ## One message alone -/

/-- The steps of a message with nothing in between, all on one directory:
its arrival, the second lookup, and the steps on the store. -/
def alone (arrival : Directory → Msg → Action) (nodes : Directory) (now : Time)
    (msg : Msg) (steps : Nat) : List Action :=
  arrival nodes msg :: .lookup 0 nodes :: List.replicate steps (.proceed 0 now)

/-! ## What the history says -/

/-- The latest request of `p` that `n` was asked: there was none, it was
not answered yet, or it was. -/
inductive Status where
  | unasked
  | unanswered
  | answered
  deriving DecidableEq

/-- The status of the latest request from `p` to `n`. -/
def status (n p : NodeId) : List Entry → Status
  | [] => .unasked
  | .requested fromID toID :: h =>
    if fromID = p ∧ toID = n then .unanswered else status n p h
  | .answered nodeID peerID _ _ :: h =>
    if nodeID = n ∧ peerID = p ∧ status n p h ≠ .unasked then .answered
    else status n p h
  | .paired _ _ :: h => status n p h

/-- A request from `p` to `n` was taken, and no answer accepted it. -/
def waiting (n p : NodeId) : List Entry → Bool
  | [] => false
  | .requested fromID toID :: h => (fromID = p ∧ toID = n) || waiting n p h
  | .answered nodeID peerID accept _ :: h =>
    !(nodeID = n ∧ peerID = p ∧ accept) && waiting n p h
  | .paired _ _ :: h => waiting n p h

/-- The entry is an answer of `n` that accepts `p`. -/
def Entry.accepts (n p : NodeId) : Entry → Bool
  | .answered nodeID peerID accept _ => nodeID = n ∧ peerID = p ∧ accept
  | _ => false

/-- The entry is the pair that an answer of `n` to `p` made. -/
def Entry.pairs (n p : NodeId) : Entry → Bool
  | .paired nodeID peerID => nodeID = n ∧ peerID = p
  | _ => false

/-- The answer took the request and has yet to make the pair. -/
def Flight.owes (n p : NodeId) : Flight → Bool
  | .respond msg .taken => responder msg = n ∧ requester msg = p
  | _ => false

/-- An entry after the history `h`. An answer that accepts finds a request
that was not answered, and was not signed to reject; an answer that rejects
finds no answered one. A pair is made by an answer of its own that
accepted. -/
def LawfulEntry (forReject : NodeId → NodeId → Bytes → Prop) (h : List Entry) : Entry → Prop
  | .requested _ _ => True
  | .answered n p true sig => status n p h = .unanswered ∧ ¬ forReject n p sig
  | .answered n p false _ => status n p h ≠ .answered
  | .paired n p => h.countP (Entry.pairs n p) < h.countP (Entry.accepts n p)

/-- Every entry is lawful after the ones before it. -/
def Lawful (forReject : NodeId → NodeId → Bytes → Prop) : List Entry → Prop
  | [] => True
  | e :: h => LawfulEntry forReject h e ∧ Lawful forReject h

/-- An answer handled after the history `h` keeps the handshake lawful: one
that accepts a request that waits finds it unanswered and was not signed to
reject it; one that rejects does not follow another answer. -/
def ProperAnswer (forReject : NodeId → NodeId → Bytes → Prop) (h : List Entry)
    (msg : Msg) : Prop :=
  if msg.bool "accept" then
    waiting (responder msg) (requester msg) h = true →
      status (responder msg) (requester msg) h = .unanswered ∧
        ¬ forReject (responder msg) (requester msg) (signatureOf msg)
  else status (responder msg) (requester msg) h ≠ .answered

/-- The step is not the decision of an answer, or the answer is proper. -/
def Proper (forReject : NodeId → NodeId → Bytes → Prop) (st : Relay) : Action → Prop
  | .proceed i _ => ∀ msg, st.flights[i]? = some (.respond msg .there) →
      ProperAnswer forReject st.history msg
  | _ => True

/-! ## What a step does -/

/-- What a step does to the pending set, the pairs, the answers that owe a
pair, and the history. -/
inductive Stepped (st : Relay) : Action → Relay → Prop where
  | other (a : Action) (t : TrustStore) (flights : List Flight)
      (hnot : ∀ i now msg, a = .proceed i now → st.flights[i]? ≠ some (.respond msg .there))
      (hpending : t.pending = st.trust.pending) (hpairs : t.pairs = st.trust.pairs)
      (howes : ∀ n p, flights.countP (Flight.owes n p) = st.flights.countP (Flight.owes n p)) :
      Stepped st a ⟨t, flights, st.history⟩
  | requested (i : Nat) (now : Time) (msg : Msg) (t : TrustStore)
      (flights : List Flight)
      (hflight : st.flights[i]? = some (.request msg true))
      (hpending : t.pending = st.trust.pending.set (asked msg)
        (insert (asker msg) (pendingOn st.trust (asked msg))))
      (hpairs : t.pairs = st.trust.pairs)
      (howes : ∀ n p, flights.countP (Flight.owes n p) = st.flights.countP (Flight.owes n p)) :
      Stepped st (.proceed i now)
        ⟨t, flights, .requested (asker msg) (asked msg) :: st.history⟩
  | refused (i : Nat) (now : Time) (msg : Msg) (flights : List Flight)
      (hflight : st.flights[i]? = some (.respond msg .there))
      (haccept : msg.bool "accept" = true)
      (htake : takePending st.trust (responder msg) (requester msg) = none)
      (howes : ∀ n p, flights.countP (Flight.owes n p) = st.flights.countP (Flight.owes n p)) :
      Stepped st (.proceed i now) ⟨st.trust, flights, st.history⟩
  | accepted (i : Nat) (now : Time) (msg : Msg) (t : TrustStore)
      (flights : List Flight)
      (hflight : st.flights[i]? = some (.respond msg .there))
      (haccept : msg.bool "accept" = true)
      (htake : takePending st.trust (responder msg) (requester msg) = some t)
      (howes : ∀ n p, flights.countP (Flight.owes n p) = st.flights.countP (Flight.owes n p) +
          if responder msg = n ∧ requester msg = p then 1 else 0) :
      Stepped st (.proceed i now) ⟨t, flights, answerEntry msg :: st.history⟩
  | rejected (i : Nat) (now : Time) (msg : Msg) (t : TrustStore)
      (flights : List Flight)
      (hflight : st.flights[i]? = some (.respond msg .there))
      (haccept : msg.bool "accept" = false)
      (hpending : t.pending = st.trust.pending) (hpairs : t.pairs = st.trust.pairs)
      (howes : ∀ n p, flights.countP (Flight.owes n p) = st.flights.countP (Flight.owes n p)) :
      Stepped st (.proceed i now) ⟨t, flights, answerEntry msg :: st.history⟩
  | paired (i : Nat) (now : Time) (msg : Msg) (flights : List Flight)
      (hflight : st.flights[i]? = some (.respond msg .taken))
      (howes : ∀ n p, flights.countP (Flight.owes n p) +
          (if responder msg = n ∧ requester msg = p then 1 else 0) =
        st.flights.countP (Flight.owes n p)) :
      Stepped st (.proceed i now)
        ⟨addPair st.trust (responder msg) (requester msg), flights,
          .paired (responder msg) (requester msg) :: st.history⟩

variable {checked : Except String Unit} {forReject : NodeId → NodeId → Bytes → Prop} {st' : Relay}

theorem Relay.arrive_stepped {f : Flight} (hnot : ∀ i now msg, a = .proceed i now →
      st.flights[i]? ≠ some (.respond msg .there)) (hf : ∀ n p, Flight.owes n p f = false) :
    Stepped st a (st.arrive checked f) := by
  unfold Relay.arrive
  split
  · exact .other a st.trust _ hnot rfl rfl fun n p => by simp [hf]
  · exact .other a st.trust _ hnot rfl rfl fun n p => rfl

theorem Relay.goOn_stepped {i : Nat} {f g : Flight} (hnot : ∀ i now msg, a = .proceed i now →
      st.flights[i]? ≠ some (.respond msg .there)) (h : st.flights[i]? = some f)
    (hf : ∀ n p, Flight.owes n p f = false) (hg : ∀ n p, Flight.owes n p g = false) :
    Stepped st a (st.goOn i checked g) := by
  have hcount := fun n p => countP_pool h (Flight.owes n p)
  unfold Relay.goOn
  split
  · exact .other a st.trust _ hnot rfl rfl fun n p => by
      rw [countP_pool_set h g, hcount n p, hf, hg]
  · exact .other a st.trust _ hnot rfl rfl fun n p => by
      rw [hcount n p, hf]; rfl

theorem Relay.step_stepped (E : Env) (st : Relay) (a : Action) : Stepped st a (st.step E a) := by
  have same : (∀ i now msg, a = .proceed i now →
      st.flights[i]? ≠ some (.respond msg .there)) → Stepped st a st :=
    fun hnot => .other a st.trust st.flights hnot rfl rfl fun _ _ => rfl
  cases a with
  | lookup i nodes =>
    simp only [Relay.step]
    split
    · next msg h => exact Relay.goOn_stepped (by simp) h (fun _ _ => rfl) fun _ _ => rfl
    · next msg h => exact Relay.goOn_stepped (by simp) h (fun _ _ => rfl) fun _ _ => rfl
    · exact same (by simp)
  | proceed i now =>
    -- the message at `i` is at one step only, so `hnot` is about it
    have away {f : Flight} (h : st.flights[i]? = some f)
        (hne : ∀ msg, f ≠ .respond msg .there) : ∀ j now' msg,
        Action.proceed i now = .proceed j now' → st.flights[j]? ≠ some (.respond msg .there) := by
      intro j now' msg heq hj
      cases heq
      exact hne msg (Option.some.inj (h.symm.trans hj))
    have gone {f : Flight} (h : st.flights[i]? = some f) (hnone : ∀ n p, f.owes n p = false) :
        ∀ n p, (st.flights.eraseIdx i).countP (Flight.owes n p) =
          st.flights.countP (Flight.owes n p) := by
      intro n p
      rw [countP_pool h (Flight.owes n p), hnone]
      rfl
    simp only [Relay.step]
    split
    · next msg h =>
      have howes := gone h fun _ _ => rfl
      unfold Relay.relay
      simp only
      split
      · next t hrelay =>
        simp only [Trust.relay, bind_eq_ok, require_eq_ok, pure_eq_ok] at hrelay
        obtain ⟨-, -, -, -, rfl⟩ := hrelay
        exact .requested i now msg _ _ h rfl rfl howes
      · exact .other _ st.trust _ (away h (by simp)) rfl rfl howes
    · next msg h =>
      exact .other _ _ _ (away h (by simp)) rfl rfl fun n p => by
        rw [countP_pool h]; rfl
    · next msg h =>
      have howes := gone h fun _ _ => rfl
      split
      · next haccept =>
        unfold Relay.take
        split
        · next t htake =>
          refine .accepted i now msg t _ h haccept htake fun n p => ?_
          rw [countP_pool_set h, howes]
          simp [Flight.owes]
        · next htake => exact .refused i now msg _ h haccept htake howes
      · next haccept =>
        exact .rejected i now msg _ _ h (by simpa using haccept) rfl rfl howes
    · next msg h =>
      refine .paired i now msg _ h fun n p => ?_
      rw [countP_pool h, countP_pool_set h]
      simp [Flight.owes]
    · next msg h =>
      exact .other _ _ _ (away h (by simp)) rfl rfl fun n p => by
        rw [countP_pool h]; rfl
    · next _ _ hthere _ _ =>
      refine same fun j now' msg heq hj => ?_
      cases heq
      exact hthere msg hj
  | _ => exact Relay.arrive_stepped (by simp) fun _ _ => rfl

/-! ## The invariant -/

theorem mem_pendingOn_relay {a : NodeId}
    (h : t'.pending = t.pending.set a (insert b (pendingOn t a))) (n p : NodeId) :
    p ∈ pendingOn t' n ↔ (b = p ∧ a = n) ∨ p ∈ pendingOn t n := by
  unfold pendingOn at *
  rw [h, GoMap.get_set]
  by_cases hn : n = a
  · subst hn
    simp [eq_comm]
  · simp [hn, Ne.symm hn]

theorem mem_pendingOn_take {a : NodeId} (h : takePending t a b = some t') (n p : NodeId) :
    p ∈ pendingOn t' n ↔ ¬ (a = n ∧ b = p) ∧ p ∈ pendingOn t n := by
  have hrest : pendingOn t' n =
      if n = a then (pendingOn t a).erase b else pendingOn t n := by
    simp only [takePending] at h
    split at h
    · cases h
      unfold pendingOn
      by_cases hn : n = a
      · subst hn
        simp only [if_true]
        split
        · next hempty => simp [hempty]
        · simp
      · simp only [hn, if_false]
        split
        · simp [hn]
        · simp [hn]
    · cases h
  rw [hrest]
  by_cases hn : n = a
  · subst hn
    simp [eq_comm]
  · simp [hn, Ne.symm hn]

/-- The pending set is what waits, every answer that accepted made its pair
or is about to, and every pair was made by an answer. -/
structure Relay.Kept (st : Relay) : Prop where
  pending : ∀ n p, p ∈ pendingOn st.trust n ↔ waiting n p st.history = true
  owed : ∀ n p, st.history.countP (Entry.pairs n p) +
    st.flights.countP (Flight.owes n p) = st.history.countP (Entry.accepts n p)
  made : ∀ pair ∈ st.trust.pairs, ∃ n p, pair = pairKey n p ∧ .paired n p ∈ st.history

theorem Relay.kept_start : ({} : Relay).Kept where
  pending := fun n p => by simp [pendingOn, waiting]
  owed := fun n p => rfl
  made := fun pair h => by simp at h

theorem Relay.Kept.made_cons (h : st.Kept) (e : Entry) :
    ∀ pair ∈ st.trust.pairs, ∃ n p, pair = pairKey n p ∧ .paired n p ∈ e :: st.history := by
  intro pair hpair
  obtain ⟨n, p, hkey, hmem⟩ := h.made pair hpair
  exact ⟨n, p, hkey, List.mem_cons_of_mem e hmem⟩

theorem takePending_pairs {a : NodeId} (h : takePending t a b = some t') : t'.pairs = t.pairs := by
  simp only [takePending] at h
  split at h
  · cases h
    rfl
  · cases h

theorem Relay.Kept.step (h : st.Kept) (hstep : Stepped st a st') : st'.Kept := by
  cases hstep with
  | other a t flights hnot hpending hpairs howes =>
    refine ⟨fun n p => ?_, fun n p => ?_, ?_⟩
    · simp only [pendingOn, hpending]
      exact h.pending n p
    · simp only [howes]
      exact h.owed n p
    · simp only [hpairs]
      exact h.made
  | requested i now msg t flights hflight hpending hpairs howes =>
    refine ⟨fun n p => ?_, fun n p => ?_, ?_⟩
    · rw [mem_pendingOn_relay hpending, h.pending]
      simp [waiting]
    · simp only [howes, List.countP_cons, Entry.pairs, Entry.accepts]
      exact h.owed n p
    · simp only [hpairs]
      exact h.made_cons _
  | refused i now msg flights hflight haccept htake howes =>
    refine ⟨h.pending, fun n p => ?_, h.made⟩
    simp only [howes]
    exact h.owed n p
  | accepted i now msg t flights hflight haccept htake howes =>
    refine ⟨fun n p => ?_, fun n p => ?_, ?_⟩
    · rw [mem_pendingOn_take htake, h.pending]
      simp only [waiting, answerEntry, haccept, and_true, Bool.and_eq_true,
        Bool.not_eq_true', decide_eq_false_iff_not]
    · have hold := h.owed n p
      simp only [howes, List.countP_cons, answerEntry, Entry.pairs, Entry.accepts,
        haccept, and_true, decide_eq_true_eq]
      simp only [Bool.false_eq_true, if_false]
      omega
    · simp only [takePending_pairs htake]
      exact h.made_cons _
  | rejected i now msg t flights hflight haccept hpending hpairs howes =>
    refine ⟨fun n p => ?_, fun n p => ?_, ?_⟩
    · simp only [pendingOn, hpending, waiting, answerEntry, haccept]
      simpa [pendingOn] using h.pending n p
    · simpa [howes, answerEntry, Entry.pairs, Entry.accepts, haccept] using h.owed n p
    · simp only [hpairs]
      exact h.made_cons _
  | paired i now msg flights hflight howes =>
    refine ⟨h.pending, fun n p => ?_, fun pair hpair => ?_⟩
    · have hold := h.owed n p
      have hnew := howes n p
      simp only [List.countP_cons, Entry.pairs, Entry.accepts, decide_eq_true_eq,
        Bool.false_eq_true, if_false]
      omega
    · rcases Finset.mem_insert.mp hpair with rfl | hold
      · exact ⟨_, _, rfl, List.mem_cons_self⟩
      · exact h.made_cons _ pair hold

/-! ## Lawful handshakes -/

/-- What is asked of the relay: its history is lawful, and trust between two
nodes comes from an answer of one to the other. -/
structure Relay.Sound (forReject : NodeId → NodeId → Bytes → Prop) (st : Relay) : Prop where
  lawful : Lawful forReject st.history
  made : ∀ pair ∈ st.trust.pairs, ∃ n p, pair = pairKey n p ∧ .paired n p ∈ st.history

theorem Relay.Kept.sound_iff (h : st.Kept) : st.Sound forReject ↔ Lawful forReject st.history :=
  ⟨fun hs => hs.lawful, fun hl => ⟨hl, h.made⟩⟩

/-- An answer that accepts is carried out exactly when the request waits. -/
theorem Relay.Kept.takePending_eq_none (h : st.Kept) (n p : NodeId) :
    takePending st.trust n p = none ↔ waiting n p st.history ≠ true := by
  rw [Ne, ← h.pending n p]
  simp only [takePending]
  split
  · next hmem => simp [hmem]
  · next hmem => simp [hmem]

theorem Relay.Kept.lawful_step (h : st.Kept) (hstep : Stepped st a st') :
    Lawful forReject st'.history ↔ Lawful forReject st.history ∧ Proper forReject st a := by
  -- a step that decides no answer is proper
  have proper_of {a : Action} (hnot : ∀ i now msg, a = .proceed i now →
      st.flights[i]? ≠ some (.respond msg .there)) : Proper forReject st a := by
    cases a with
    | proceed i now => exact fun msg hmsg => absurd hmsg (hnot i now msg rfl)
    | _ => trivial
  have proper_iff {i : Nat} {now : Time} {msg : Msg}
      (hflight : st.flights[i]? = some (.respond msg .there)) :
      Proper forReject st (.proceed i now) ↔ ProperAnswer forReject st.history msg := by
    constructor
    · exact fun hp => hp msg hflight
    · intro hp msg' hmsg'
      obtain rfl : msg = msg' := by simpa using hflight.symm.trans hmsg'
      exact hp
  have proper_at {i : Nat} {now : Time} {f : Flight} (hflight : st.flights[i]? = some f)
      (hne : ∀ msg, f ≠ .respond msg .there) : Proper forReject st (.proceed i now) :=
    fun msg hmsg => absurd (Option.some.inj (hflight.symm.trans hmsg)) (hne msg)
  cases hstep with
  | other a t flights hnot => exact ⟨fun hl => ⟨hl, proper_of hnot⟩, fun hl => hl.1⟩
  | requested i now msg t flights hflight =>
    exact ⟨fun hl => ⟨hl.2, proper_at hflight nofun⟩, fun hl => ⟨trivial, hl.1⟩⟩
  | refused i now msg flights hflight haccept htake =>
    have hwait := (h.takePending_eq_none _ _).mp htake
    rw [proper_iff hflight]
    refine ⟨fun hl => ⟨hl, ?_⟩, fun hl => hl.1⟩
    unfold ProperAnswer
    rw [if_pos haccept]
    exact fun hw => absurd hw hwait
  | accepted i now msg t flights hflight haccept htake =>
    have hwait : waiting (responder msg) (requester msg) st.history = true := by
      by_contra hno
      rw [(h.takePending_eq_none _ _).mpr hno] at htake
      cases htake
    rw [proper_iff hflight, and_comm]
    unfold ProperAnswer
    rw [if_pos haccept]
    simp only [Lawful, answerEntry, haccept, LawfulEntry, hwait, true_imp_iff]
  | rejected i now msg t flights hflight haccept =>
    rw [proper_iff hflight, and_comm]
    unfold ProperAnswer
    rw [if_neg (by simp [haccept])]
    simp only [Lawful, answerEntry, haccept, LawfulEntry]
  | paired i now msg flights hflight =>
    refine ⟨fun hl => ⟨hl.2, proper_at hflight nofun⟩, fun hl => ⟨?_, hl.1⟩⟩
    -- the answer owes this pair, so one accepted answer has none yet
    have howed := h.owed (responder msg) (requester msg)
    have hmine := countP_pool hflight
      (Flight.owes (responder msg) (requester msg))
    simp only [Flight.owes, and_self, decide_true, if_true] at hmine
    simp only [LawfulEntry]
    omega

/-- In every interleaving of handshake messages: the relay's answers are
lawful exactly when no acceptance of a request that waits follows a
rejection of it or carries a signature made to reject it, and no rejection
follows another answer. -/
theorem answers_lawful_iff (E : Env) (forReject : NodeId → NodeId → Bytes → Prop)
    (as : List Action) :
    (run (Relay.step E) {} as).Sound forReject ↔ Meets (Relay.step E) (Proper forReject) {} as := by
  have hkept : ∀ st a, Relay.Kept st → (st.step E a).Kept :=
    fun st a h => h.step (st.step_stepped E a)
  have hend := run_invariant (Relay.step E) hkept as Relay.kept_start
  have hrun := holds_run_iff (Relay.step E) (P := fun st => Lawful forReject st.history)
    hkept (fun st a h => h.lawful_step (st.step_stepped E a)) as Relay.kept_start
  rw [hend.sound_iff, hrun]
  exact ⟨fun h => h.2, fun h => ⟨trivial, h⟩⟩

/-! ## A rejection turned into an acceptance -/

/-- Nodes 1 and 2. -/
def twoNodes : Directory :=
  .ofList [(1, { publicKey := [1], networks := [0] }), (2, { publicKey := [2], networks := [0] })]

/-- Signatures are the key's bytes. -/
def keyAsSignature : Env := { Env.plain with verify := fun key _ sig => key = sig }

/-- Node 2 asks node 1. -/
def askMsg : Msg :=
  [("from_node_id", .num 2), ("to_node_id", .num 1), ("signature", .str "Ag==")]

/-- Node 1 answers node 2. -/
def answerMsg (accept : Bool) : Msg :=
  [("node_id", .num 1), ("peer_id", .num 2), ("accept", .bool accept), ("signature", .str "AQ==")]

/-- Node 2 asks, node 1 rejects, and its message comes back with the answer
changed. -/
def turnedAround : List Action :=
  alone .request twoNodes 0 askMsg 1 ++ alone .respond twoNodes 0 (answerMsg false) 1 ++
    alone .respond twoNodes 0 (answerMsg true) 3

theorem rejection_makes_trust : (run (Relay.step keyAsSignature) {} turnedAround).history =
        [.paired 1 2, .answered 1 2 true [1], .answered 1 2 false [1], .requested 2 1] ∧
      isTrusted (run (Relay.step keyAsSignature) {} turnedAround).trust 1 2 = true ∧
      ∀ forReject, forReject 1 2 [1] →
        ¬ (run (Relay.step keyAsSignature) {} turnedAround).Sound forReject := by
  have hhist : (run (Relay.step keyAsSignature) {} turnedAround).history =
      [.paired 1 2, .answered 1 2 true [1], .answered 1 2 false [1],
        .requested 2 1] := by decide +kernel
  refine ⟨hhist, by decide +kernel, fun forReject hreject hs => ?_⟩
  have hlawful := hs.lawful
  rw [hhist] at hlawful
  exact hlawful.2.1.2 hreject

end Rendezvous.Trust

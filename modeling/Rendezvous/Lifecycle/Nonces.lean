import Rendezvous.Lifecycle.Fields
import Rendezvous.Lifecycle.Flights

/-!
# Single use of a recovery authorization

A recovery is authorized by a statement with a nonce and an expiry, and is
to rotate a key once. Two things remember that it did: the ledger of the
running process, which has every nonce until it expires, and the record of
the node, which has the last nonce only. The ledger is lost with the
process, and a nonce in the record with the next recovery of the node, and
with the record. An authorization is used once in every run in which a
nonce that was used in an earlier process, when it is presented again, is
the last one that was noted for the node, and was saved.
-/

namespace Rendezvous.Lifecycle

open Base Registry Authz Rendezvous.Membership Directory Identity Admin Persist Recovery Roster

variable {now : Time} {nonce text : String} {r : Recovery} {s : Server} {key : Bytes}
  {E : NodeEnv} {w : World} {e : World.Event} {a : Authorization} {f : Flight} {id : NodeId}
  {x : World × Spent} {n n' : NodeInfo}

/-! ## The nonce in the record -/

/-- The nonce an event notes in a record. -/
def World.notes (w : World) (e : World.Event) : Option (NodeId × String) :=
  match w.runs e with
  | some (.note id _ _ r) =>
    if (w.live.nodes.get id).any fun n => r.nonce = "" || n.recoveryConsumedNonce ≠ r.nonce then
      some (id, r.nonce)
    else none
  | _ => none

/-- No write but that of a recovery changes the nonce. -/
theorem Edited.recoveryConsumedNonce (h : Edited w id n e n')
    (hn : w.live.nodes.get id = some n) :
    n'.recoveryConsumedNonce = n.recoveryConsumedNonce ∨
      w.notes e = some (id, n'.recoveryConsumedNonce) := by
  cases h with
  | relisted op logged n' h =>
    rw [h]
    exact Or.inl rfl
  | set msg c gated nets hf hid =>
    obtain ⟨_, _, _, setting⟩ := c
    cases setting <;> exact Or.inl rfl
  | noted text key r hf hnew =>
    right
    simp [World.notes, hf, hn, hnew]
  | _ => exact Or.inl rfl

private theorem notes_runs {nonce : String} (h : w.notes e = some (id, nonce)) :
    ∃ text key r n, w.runs e = some (.note id text key r) ∧ r.nonce = nonce ∧
      w.live.nodes.get id = some n ∧ (r.nonce = "" ∨ n.recoveryConsumedNonce ≠ r.nonce) := by
  unfold World.notes at h
  split at h
  · next j text key r hf =>
    split at h
    · next hany =>
      obtain ⟨n, hn, hnew⟩ := (Option.any_eq_true _ _).mp hany
      obtain ⟨rfl, rfl⟩ := Prod.mk.inj (Option.some.inj h)
      exact ⟨text, key, r, n, hf, rfl, hn, by simpa using hnew⟩
    · cases h
  · cases h

private theorem notes_get (h : w.notes e = some (id, nonce))
    (hn' : (w.step E e).live.nodes.get id = some n') : n'.recoveryConsumedNonce = nonce := by
  obtain ⟨text, key, r, n, hf, rfl, hn, hnew⟩ := notes_runs h
  cases e with
  | go i order logged =>
    change w.flights[i]? = _ at hf
    have hused : ¬ (decide (r.nonce ≠ "") &&
        decide (n.recoveryConsumedNonce = r.nonce)) = true := by
      simpa [Decidable.or_iff_not_imp_left] using hnew
    simp only [World.step, hf, World.go, World.noteNonce, hn, if_neg hused] at hn'
    change (w.live.nodes.set id _).get id = some n' at hn'
    rw [GoMap.get_set_self] at hn'
    rw [← Option.some.inj hn']
  | _ => cases hf

/-- The last consumed nonce, as a text that recoveries write. -/
def nonceField : Field where
  read := NodeInfo.recoveryConsumedNonce
  writes := World.notes
  edited := Edited.recoveryConsumedNonce
  written := notes_get
  unfiled := by
    intro w e p h E
    obtain ⟨text, key, r, n, hf, -⟩ := notes_runs h
    cases e with
    | go i order logged =>
      change w.flights[i]? = _ at hf
      simp only [World.files, hf]
    | _ => rfl
  unpushed := by
    intro w e p h
    cases e <;> first | exact not_false | cases h
  fresh _ _ _ _ _ := rfl
  unlisted _ := rfl
  restored _ := rfl
  rotated d _ _ := by
    unfold Wal.replayRotation
    split <;> rfl
  replicated _ _ := rfl

/-! ## The history -/

/-- An authorization: its nonce, and the second it expires at. -/
abbrev Authorization := String × Int

/-- The authorization of a recovery. -/
def authorization (r : Recovery) : Authorization := (r.nonce, r.exp)

/-- The authorization has this nonce, and has not expired. -/
def validFor (now : Time) (nonce : String) (a : Authorization) : Bool :=
  a.1 = nonce && now ≤ a.2 * second

/-- The authorization an event rotates a key under. -/
def World.recovers (w : World) (e : World.Event) : Option Authorization :=
  match w.runs e with
  | some (.force id _ _ r) => if w.live.nodes.has id then some (authorization r) else none
  | _ => none

/-- The authorizations that rotated a key, in the running process and in
earlier ones, and the nonces that were noted in the records. -/
structure Spent where
  earlier : List Authorization := []
  now : List Authorization := []
  noted : Marks := ∅

/-- The history after an event. -/
def Spent.note (E : NodeEnv) (w : World) (e : World.Event) (l : Spent) : Spent where
  earlier := if w.restarts e then l.now ++ l.earlier else l.earlier
  now := if w.restarts e then [] else (w.recovers e).toList ++ l.now
  noted := l.noted.note nonceField E w e

/-- The registry with its history. -/
def nonceStep (E : NodeEnv) : World × Spent → World.Event → World × Spent :=
  traced (World.step E) (Spent.note E)

/-! ## What is to hold, and when it does -/

/-- No key is rotated under an authorization that has not expired, when its
nonce is the one of another that rotated a key and has not expired. -/
def SingleUse (x : World × Spent) (e : World.Event) : Prop :=
  ∀ a ∈ x.1.recovers e, validFor x.1.clock a.1 a = true →
    ∀ b ∈ x.2.now ++ x.2.earlier, validFor x.1.clock a.1 b = false

instance (x : World × Spent) (e : World.Event) : Decidable (SingleUse x e) :=
  inferInstanceAs (Decidable (∀ a ∈ x.1.recovers e, _))

/-- The nonces in the records are kept as `KeepsField` says. A nonce that
rotated a key in an earlier process and has not expired, when it is
presented again, is the last one noted for the node, and was saved. -/
def KeepsNonces (E : NodeEnv) (x : World × Spent) (e : World.Event) : Prop :=
  KeepsField nonceField E x.1 x.2.noted e ∧
  match x.1.runs e with
  | some (.note id _ _ r) => validFor x.1.clock r.nonce (authorization r) = true →
      x.2.earlier.any (validFor x.1.clock r.nonce) = true → r.nonce ≠ "" ∧
        (x.2.noted.get id).any (fun m => m.saved && m.value = r.nonce) = true
  | _ => True

instance (E : NodeEnv) (x : World × Spent) (e : World.Event) : Decidable (KeepsNonces E x e) := by
  unfold KeepsNonces
  refine @instDecidableAnd _ _ inferInstance ?_
  split <;> infer_instance

/-! ## The ledger -/

theorem consumeNonce_kept {t : Time} {used : GoMap String Time} (hget : used.get nonce = some t)
    (hnow : now ≤ t) (r : Recovery) :
    (consumeNonce now used r).1.get nonce = some t := by
  have hlive : (used.filter fun _ exp => !(now > exp)).get nonce = some t := by
    rw [GoMap.get_filter, hget]
    simp [hnow]
  unfold consumeNonce
  simp only
  split
  · exact hlive
  · next hnot =>
    rw [GoMap.get_set_ne _ _ ?_, hlive]
    rintro rfl
    simp [GoMap.has, hlive] at hnot

/-- A nonce that is taken was not in the ledger, unless it had expired, and
is there afterwards. -/
theorem consumeNonce_unused {used : GoMap String Time} (h : (consumeNonce now used r).2 = true) :
    (∀ t, used.get r.nonce = some t → t < now) ∧
      (consumeNonce now used r).1.get r.nonce = some (r.exp * second) := by
  unfold consumeNonce at h ⊢
  simp only at h ⊢
  split at h
  · cases h
  · next hnot =>
    rw [if_neg hnot]
    refine ⟨fun t ht => ?_, GoMap.get_set_self _ _ _⟩
    by_contra hle
    simp [GoMap.has, GoMap.get_filter, ht, not_lt.mp hle] at hnot

private theorem amends_consumedNonces {N : NodeId → String → Prop} {C : Prop} {s' : Server}
    (h : Amends N C s s') : s'.consumedNonces = s.consumedNonces := by
  induction h with
  | trans _ _ ih ih' => rw [ih', ih]
  | other h => rw [h]
  | @name s k name hN =>
    unfold takeDisplayName
    simp only
    split <;> rfl
  | _ => rfl

theorem slowForm_consumedNonces {s' : Server} {req : RegisterReq} (h : SlowForm now s req key s') :
    s'.consumedNonces = s.consumedNonces := by
  cases h with
  | refreshed id n owner t hid hn ht | filed id nets t hid hknown ht =>
    rw [setNodeHostname_frame, ht]

private theorem sweep_consumedNonces (threshold : Time) (cands : List (NodeId × String))
    (s : Server) :
    (cands.foldl (sweepOne threshold) s).consumedNonces = s.consumedNonces := by
  induction cands generalizing s with
  | nil => rfl
  | cons cand cands ih =>
    rw [List.foldl_cons, ih]
    unfold sweepOne
    split
    · split
      · rw [dropCandidate, dropHostname_frame]
        rfl
      · rfl
    · rfl

/-- Within a process only the section that consumes a nonce writes the
ledger. -/
theorem step_consumedNonces (E : NodeEnv) (hrestart : ¬ w.restarts e)
    (hledger : ∀ id text key r, w.runs e ≠ some (.ledger id text key r)) :
    (w.step E e).live.consumedNonces = w.live.consumedNonces := by
  have hacts := step_acts E w e
  generalize (w.step E e).live = s' at hacts ⊢
  cases hacts with
  | slow req key ext s' hf hs hfiles => exact slowForm_consumedNonces hs
  | set msg c gated o hf ho => rw [(commit_commits ho).frame]
  | ledger id text key r hf => exact absurd hf (hledger id text key r)
  | swept threshold cands hf => exact sweep_consumedNonces _ _ _
  | deregistered n msg logged hn =>
    rw [departNode, dropHostname_frame]
    rfl
  | amended op logged hop => exact amends_consumedNonces (step_amends hop)
  | started order horder => exact absurd horder hrestart
  | failedOver _ hs =>
    refine absurd ?_ hrestart
    simp [World.restarts, hs]
  | _ => rfl

/-! ## Nonces in flight -/

/-- The authorization a recovery in flight has consumed. -/
def Flight.consumed : Flight → Option Authorization
  | .note _ _ _ r | .force _ _ _ r => some (authorization r)
  | _ => none

/-- The recovery in flight has consumed this nonce, which has not expired. -/
def Flight.holds (now : Time) (nonce : String) (f : Flight) : Bool :=
  f.consumed.any (validFor now nonce)

private theorem validFor_iff : validFor now nonce a = true ↔ a.1 = nonce ∧ now ≤ a.2 * second := by
  simp [validFor]

private theorem validFor_of_le {now' : Time} (h : now ≤ now') (ha : validFor now' nonce a = true) :
    validFor now nonce a = true := by
  obtain ⟨hnonce, hexp⟩ := validFor_iff.mp ha
  exact validFor_iff.mpr ⟨hnonce, h.trans hexp⟩

theorem consumed_mapRef (g : Ref → Ref) (f : Flight) : (f.mapRef g).consumed = f.consumed := by
  fun_cases Flight.mapRef g f <;> rfl

private theorem consumed_launched (h : Launched E w e f) : f.consumed = none := by
  cases h <;> rfl

/-- A recovery has consumed what it had before its last section, unless that
section was at the ledger. -/
theorem consumed_next {f' : Flight} (h : Next E w f f') (ha : f'.consumed = some a) :
    f.consumed = some a ∨ ∃ id text key r, f = .ledger id text key r ∧
      (consumeNonce w.clock w.live.consumedNonces r).2 = true ∧ a = authorization r := by
  cases h with
  | unused id text key r h => exact Or.inr ⟨id, text, key, r, rfl, h, (Option.some.inj ha).symm⟩
  | noted id text key r n hn hnew => exact Or.inl ha
  | _ => cases ha

private theorem follows_consumed (h : Follows E w e f) (ha : f.consumed = some a) :
    (∃ f₀ ∈ w.flights, f₀.consumed = some a) ∨
      ∃ id text key r, w.runs e = some (.ledger id text key r) ∧
        (consumeNonce w.clock w.live.consumedNonces r).2 = true ∧ a = authorization r := by
  cases h with
  | kept f₀ g hg hf =>
    rw [consumed_mapRef] at ha
    exact Or.inl ⟨f₀, hf, ha⟩
  | launched f h =>
    rw [consumed_launched h] at ha
    cases ha
  | next f₀ f hf hnext =>
    rcases consumed_next hnext ha with hold | ⟨id, text, key, r, rfl, hunused, rfl⟩
    · exact Or.inl ⟨f₀, runs_mem hf, hold⟩
    · exact Or.inr ⟨id, text, key, r, hf, hunused, rfl⟩

/-- The section at the ledger. -/
theorem step_ledger (hf : w.runs e = some (.ledger id text key r)) :
    (w.step E e).live.consumedNonces = (consumeNonce w.clock w.live.consumedNonces r).1 := by
  cases e with
  | go i order logged =>
    change w.flights[i]? = _ at hf
    simp only [World.step, hf, World.go]
    split <;> rfl
  | _ => cases hf

/-! ## The invariant -/

/-- What has rotated a key in this process and has not expired holds its
nonce, as do the recoveries in flight that have consumed theirs: each nonce
is held once, and is in the ledger. A recovery about to replace a key has a
nonce that no earlier process used. -/
structure Single (x : World × Spent) : Prop where
  once : ∀ nonce, x.2.now.countP (validFor x.1.clock nonce) +
    x.1.flights.countP (Flight.holds x.1.clock nonce) ≤ 1
  ledger : ∀ nonce a, a ∈ x.2.now ∨ (∃ f ∈ x.1.flights, f.consumed = some a) →
    validFor x.1.clock nonce a = true → x.1.live.consumedNonces.get nonce = some (a.2 * second)
  unused : ∀ id text key r, Flight.force id text key r ∈ x.1.flights →
    validFor x.1.clock r.nonce (authorization r) = true →
      ∀ a ∈ x.2.earlier, validFor x.1.clock r.nonce a = false

private theorem recovers_mem (h : w.recovers e = some a) :
    ∃ id text key r, w.runs e = some (.force id text key r) ∧ a = authorization r ∧
      w.live.nodes.has id = true := by
  unfold World.recovers at h
  split at h
  · next id text key r hf =>
    split at h
    · next hhas => exact ⟨id, text, key, r, hf, (Option.some.inj h).symm, hhas⟩
    · cases h
  · cases h

/-- The recovery that replaces a key no longer holds its nonce. -/
theorem recovers_countP (h : w.recovers e = some a) (nonce : String) :
    (w.step E e).flights.countP (Flight.holds w.clock nonce) +
        (if validFor w.clock nonce a then 1 else 0) =
      w.flights.countP (Flight.holds w.clock nonce) := by
  obtain ⟨id, text, key, r, hf, rfl, hhas⟩ := recovers_mem h
  obtain ⟨n, hn⟩ := (GoMap.has_eq_true _ _).mp hhas
  cases e with
  | go i order logged =>
    change w.flights[i]? = _ at hf
    have hflights : (w.step E (.go i order logged)).flights =
        w.flights.set i (.index id (Base64.encode n.publicKey) text none) := by
      simp [World.step, hf, World.go, World.commitKey, hn, World.put, World.become]
    rw [hflights, countP_pool_set hf, countP_pool hf (Flight.holds w.clock nonce)]
    by_cases hvalid : validFor w.clock nonce (authorization r) = true <;>
      simp [Flight.holds, Flight.consumed, hvalid]
  | _ => cases hf

/-- The section at the ledger, when the nonce is taken. -/
theorem step_ledger_flights (hf : w.runs e = some (.ledger id text key r)) (nonce : String) :
    (w.step E e).flights.countP (Flight.holds w.clock nonce) ≤
      w.flights.countP (Flight.holds w.clock nonce) +
        if (consumeNonce w.clock w.live.consumedNonces r).2 &&
          validFor w.clock nonce (authorization r) then 1 else 0 := by
  cases e with
  | go i order logged =>
    change w.flights[i]? = _ at hf
    rw [countP_pool hf]
    simp only [World.step, hf, World.go]
    split
    · next hunused =>
      show (w.flights.set i _).countP _ ≤ _
      rw [countP_pool_set hf]
      by_cases hvalid : validFor w.clock nonce (authorization r) = true <;>
        simp [Flight.holds, Flight.consumed, hunused, hvalid]
    · show (w.flights.eraseIdx i).countP _ ≤ _
      omega
  | _ => cases hf

/-- Nothing that has expired is valid again later. -/
theorem countP_clock (w : World) (e : World.Event) (nonce : String) (spent : List Authorization)
    (fs : List Flight) :
    spent.countP (validFor (w.step E e).clock nonce) +
        fs.countP (Flight.holds (w.step E e).clock nonce) ≤
      spent.countP (validFor w.clock nonce) + fs.countP (Flight.holds w.clock nonce) := by
  have hclock := step_clock E w e
  refine Nat.add_le_add ?_ ?_
  · exact List.countP_mono_left fun a _ => validFor_of_le hclock
  · refine List.countP_mono_left fun f _ hf => ?_
    obtain ⟨a, ha, hvalid⟩ := (Option.any_eq_true _ _).mp hf
    exact (Option.any_eq_true _ _).mpr ⟨a, ha, validFor_of_le hclock hvalid⟩

/-- A nonce that can be taken is held by nothing. -/
theorem Single.free (h : Single x)
    (hunused : (consumeNonce x.1.clock x.1.live.consumedNonces r).2 = true) :
    x.2.now.countP (validFor x.1.clock r.nonce) = 0 ∧
      x.1.flights.countP (Flight.holds x.1.clock r.nonce) = 0 := by
  have hgone := (consumeNonce_unused hunused).1
  have hfree : ∀ a, a ∈ x.2.now ∨ (∃ f ∈ x.1.flights, f.consumed = some a) →
      validFor x.1.clock r.nonce a ≠ true := by
    intro a ha hvalid
    have hlt := hgone (a.2 * second) (h.ledger r.nonce a ha hvalid)
    exact absurd (validFor_iff.mp hvalid).2 (not_le.mpr hlt)
  constructor
  · exact List.countP_eq_zero.mpr fun a ha => hfree a (Or.inl ha)
  · refine List.countP_eq_zero.mpr fun f hf hholds => ?_
    obtain ⟨a, ha, hvalid⟩ := (Option.any_eq_true _ _).mp hholds
    exact hfree a (Or.inr ⟨f, hf, ha⟩) hvalid

private theorem Single.once_step (h : Single x) (e : World.Event) (nonce : String) :
    (nonceStep E x e).2.now.countP (validFor (nonceStep E x e).1.clock nonce) +
      (nonceStep E x e).1.flights.countP
        (Flight.holds (nonceStep E x e).1.clock nonce) ≤ 1 := by
  obtain ⟨w, l⟩ := x
  refine (countP_clock w e nonce _ _).trans ?_
  have honce := h.once nonce
  simp only [nonceStep, traced, Spent.note] at honce ⊢
  by_cases hrestart : w.restarts e
  · rw [if_pos hrestart, flights_restarts E hrestart]
    simp
  rw [if_neg hrestart]
  simp only [List.countP_append]
  cases hrec : w.recovers e with
  | some a =>
    -- one recovery returns and is spent
    have hcount := recovers_countP (E := E) hrec nonce
    have hone : [a].countP (validFor w.clock nonce) =
        if validFor w.clock nonce a then 1 else 0 := by simp [List.countP_singleton]
    simp only [Option.toList_some, hone]
    omega
  | none =>
    simp only [Option.toList_none, List.countP_nil, Nat.zero_add]
    by_cases hledger : ∃ id text key r, w.runs e = some (.ledger id text key r)
    · obtain ⟨id, text, key, r, hf⟩ := hledger
      have hcount := step_ledger_flights (E := E) hf nonce
      split at hcount
      · next hnew =>
        -- a nonce that is taken now is held by nothing else
        simp only [Bool.and_eq_true] at hnew
        obtain ⟨hunused, hvalid⟩ := hnew
        obtain ⟨hnonce, -⟩ := validFor_iff.mp hvalid
        obtain ⟨hnow, hflights⟩ : l.now.countP (validFor w.clock r.nonce) = 0 ∧
            w.flights.countP (Flight.holds w.clock r.nonce) = 0 := h.free hunused
        rw [show r.nonce = nonce from hnonce] at hnow hflights
        omega
      · omega
    · have hcount : (w.step E e).flights.countP (Flight.holds w.clock nonce) ≤
          w.flights.countP (Flight.holds w.clock nonce) := by
        refine pool_countP (fun g f => ?_) (fun f hl => ?_) fun f f' hf hnext hholds => ?_
        · rw [Flight.holds, consumed_mapRef]
          rfl
        · rw [Flight.holds, consumed_launched hl]
          rfl
        · obtain ⟨a, ha, hvalid⟩ := (Option.any_eq_true _ _).mp hholds
          rcases consumed_next hnext ha with hold | ⟨id, text, key, r, rfl, -⟩
          · exact (Option.any_eq_true _ _).mpr ⟨a, hold, hvalid⟩
          · exact absurd ⟨id, text, key, r, hf⟩ hledger
      omega

theorem Single.ledger_step (h : Single x) (e : World.Event) (nonce : String) (a : Authorization)
    (hheld : a ∈ (nonceStep E x e).2.now ∨ ∃ f ∈ (nonceStep E x e).1.flights, f.consumed = some a)
    (hvalid : validFor (nonceStep E x e).1.clock nonce a = true) :
    (nonceStep E x e).1.live.consumedNonces.get nonce = some (a.2 * second) := by
  obtain ⟨w, l⟩ := x
  simp only [nonceStep, traced, Spent.note] at hheld hvalid ⊢
  replace hvalid := validFor_of_le (step_clock E w e) hvalid
  by_cases hrestart : w.restarts e
  · simp [if_pos hrestart, flights_restarts E hrestart] at hheld
  rw [if_neg hrestart] at hheld
  -- it was held before, or has just been taken
  have hbefore : (a ∈ l.now ∨ ∃ f ∈ w.flights, f.consumed = some a) ∨
      ∃ id text key r, w.runs e = some (.ledger id text key r) ∧
        (consumeNonce w.clock w.live.consumedNonces r).2 = true ∧ a = authorization r := by
    rcases hheld with hnow | ⟨f, hf, hcons⟩
    · rcases List.mem_append.mp hnow with hrec | hold
      · obtain ⟨id, text, key, r, hf, rfl, -⟩ := recovers_mem (Option.mem_toList.mp hrec)
        exact Or.inl (Or.inr ⟨_, runs_mem hf, rfl⟩)
      · exact Or.inl (Or.inl hold)
    · exact (follows_consumed (step_flight hf) hcons).imp_left Or.inr
  rcases hbefore with hold | ⟨id, text, key, r, hf, hunused, rfl⟩
  · have hget := h.ledger nonce a hold hvalid
    by_cases hledger : ∃ id text key r, w.runs e = some (.ledger id text key r)
    · obtain ⟨id, text, key, r, hf⟩ := hledger
      rw [step_ledger hf]
      exact consumeNonce_kept hget (validFor_iff.mp hvalid).2 r
    · rw [step_consumedNonces E hrestart fun id text key r hf =>
        hledger ⟨id, text, key, r, hf⟩]
      exact hget
  · rw [step_ledger hf, ← (validFor_iff.mp hvalid).1]
    exact (consumeNonce_unused hunused).2

/-- A recovery that comes to replace a key has passed the record's check. -/
theorem follows_force (h : Follows E w e (.force id text key r)) :
    Flight.force id text key r ∈ w.flights ∨
      ∃ n, w.runs e = some (.note id text key r) ∧ w.live.nodes.get id = some n ∧
        (r.nonce = "" ∨ n.recoveryConsumedNonce ≠ r.nonce) := by
  generalize hf' : Flight.force id text key r = f' at h
  cases h with
  | kept f g hg hf =>
    cases f with
    | force id' text' key' r' => exact Or.inl hf
    | register req key ext stage => cases stage <;> cases hf'
    | _ => cases hf'
  | launched f hl => cases hl <;> cases hf'
  | next f f' hf hnext =>
    cases hnext with
    | noted id' text' key' r' n hn hnew =>
      obtain ⟨rfl, rfl, rfl, rfl⟩ := Flight.force.inj hf'
      exact Or.inr ⟨n, hf, hn, hnew⟩
    | _ => cases hf'

private theorem Single.unused_step (h : Single x) (hrecorded : Recorded nonceField x.1 x.2.noted)
    (hkeeps : KeepsNonces E x e) (id : NodeId) (text : String) (key : Bytes) (r : Recovery)
    (hmem : Flight.force id text key r ∈ (nonceStep E x e).1.flights)
    (hvalid : validFor (nonceStep E x e).1.clock r.nonce (authorization r) = true) :
    ∀ a ∈ (nonceStep E x e).2.earlier, validFor (nonceStep E x e).1.clock r.nonce a = false := by
  obtain ⟨w, l⟩ := x
  simp only [nonceStep, traced, Spent.note] at hmem hvalid ⊢
  have hclock := step_clock E w e
  replace hvalid := validFor_of_le hclock hvalid
  by_cases hrestart : w.restarts e
  · rw [flights_restarts E hrestart] at hmem
    cases hmem
  rw [if_neg hrestart]
  intro a ha
  by_contra hspent
  have hspent := validFor_of_le hclock (Bool.not_eq_false _ ▸ hspent)
  rcases follows_force (step_flight hmem) with hold | ⟨n, hf, hn, hnew⟩
  · rw [h.unused id text key r hold hvalid a ha] at hspent
    cases hspent
  · have hfinds := hkeeps.2
    simp only [hf] at hfinds
    obtain ⟨hne, hmark⟩ := hfinds hvalid (List.any_eq_true.mpr ⟨a, ha, hspent⟩)
    obtain ⟨m, hm, hsaved⟩ := (Option.any_eq_true _ _).mp hmark
    simp only [Bool.and_eq_true, decide_eq_true_eq] at hsaved
    -- the record has the nonce that was saved last, so the check refuses it
    have hread : n.recoveryConsumedNonce = m.value := hrecorded.live id m hm hsaved.1 n hn
    rcases hnew with hempty | hdiff
    · exact hne hempty
    · exact hdiff (hread.trans hsaved.2)

theorem Single.step (h : Single x) (hrecorded : Recorded nonceField x.1 x.2.noted)
    (hkeeps : KeepsNonces E x e) : Single (nonceStep E x e) :=
  ⟨h.once_step e, h.ledger_step e, h.unused_step hrecorded hkeeps⟩

private theorem singleUse_of (h : Single x) (e : World.Event) : SingleUse x e := by
  intro a ha hvalid b hb
  obtain ⟨id, text, key, r, hf, rfl, -⟩ := recovers_mem ha
  have hmem := runs_mem hf
  by_contra hspent
  have hspent : validFor x.1.clock (authorization r).1 b = true := by simpa using hspent
  rcases List.mem_append.mp hb with hnow | hearlier
  · -- the nonce would be held twice
    have honce := h.once (authorization r).1
    have hcount : 0 < x.2.now.countP (validFor x.1.clock (authorization r).1) :=
      List.countP_pos_iff.mpr ⟨b, hnow, hspent⟩
    have hflights : 0 < x.1.flights.countP (Flight.holds x.1.clock (authorization r).1) :=
      List.countP_pos_iff.mpr ⟨_, hmem, hvalid⟩
    omega
  · have hunused : validFor x.1.clock (authorization r).1 b = false :=
      h.unused id text key r hmem hvalid b hearlier
    rw [hunused] at hspent
    cases hspent

/-- In every run in which the nonces that were noted in records are kept, as
`KeepsField` says, and in which a nonce that rotated a key in an earlier
process, unless it has expired, is presented again only if it is the last
one noted for the node and was saved: no authorization rotates a key twice
before it expires. -/
theorem recovery_used_once (E : NodeEnv) (now : Time) (es : List World.Event)
    (h : Meets (nonceStep E) (KeepsNonces E) (World.fresh now, {}) es) :
    Meets (nonceStep E) SingleUse (World.fresh now, {}) es := by
  refine h.imp (nonceStep E) (P := fun x => Single x ∧ Recorded nonceField x.1 x.2.noted)
    (fun x e hkeeps hx => ⟨hx.1.step hx.2 hkeeps, hx.2.step hkeeps.1⟩)
    (fun x e _ hx => singleUse_of hx.1 e) ⟨⟨?_, ?_, ?_⟩, recorded_fresh _ now⟩
  · intro nonce
    exact Nat.zero_le 1
  · rintro nonce a (hnow | ⟨f, hf, -⟩)
    · cases hnow
    · cases hf
  · intro id text key r hmem
    cases hmem

/-! ## An authorization used twice -/

theorem recovery_used_once_restarted :
    let es := registers ++ enrolls ++ recovers 0 "A" "BBBB" ++ savedAndRestarted
    Meets (nonceStep .plain) SingleUse (World.fresh 0, {})
        (es ++ recovers 0 "A" "BBBB") ∧
      (run (nonceStep .plain) (World.fresh 0, {}) es).2.earlier = [("A", 1000)] :=
  ⟨recovery_used_once .plain 0 _ (by decide +kernel), by decide +kernel⟩

/-- Node 1 is recovered under the authorization `A` and then under `B`; the
process restarts from the file it wrote, and `A`, which has not expired,
replaces the key again. -/
theorem recovery_replayed :
    let x := run (nonceStep .plain) (World.fresh 0, {})
      (registers ++ enrolls ++ recovers 0 "A" "BBBB" ++ recovers 0 "B" "CCCC" ++
        savedAndRestarted ++ (recovers 0 "A" "BBBB").take 3)
    x.2.earlier = [("B", 1000), ("A", 1000)] ∧ x.1.recovers (.go 0 [0] true) =
        some ("A", 1000) ∧ ¬ SingleUse x (.go 0 [0] true) ∧
      ((x.1.step .plain (.go 0 [0] true)).live.nodes.get 1).map NodeInfo.publicKey =
        Base64.decode "BBBB" := by
  decide +kernel

end Rendezvous.Lifecycle

import Rendezvous.Lifecycle.StaleKeys

/-!
# Heartbeats

A heartbeat in strict mode names a time, and counts while that is near the
registry's. The distance is taken in `int64`, so the check is right exactly
when it does not wrap (`heartbeat_fresh_runs`): a time that is `2 ^ 63`
seconds away is as good as the current one (`far_heartbeat_fresh`).

Otherwise a check of a signature is good for two minutes. What it says is
that the node's key signed a heartbeat lately, as long as no rotation and no
recovery replaces the key within that time, or while a heartbeat of the node
is being handled (`heartbeat_vouched_runs`). A rotated key lets the
heartbeats of the old one through (`rotated_heartbeat_unsigned`).
-/

namespace Rendezvous.Lifecycle

open Base Registry Authz Directory Identity

variable {E : NodeEnv} {w : World} {e : World.Event} {id : NodeId} {msg : Msg} {ts : Int}

/-! ## Fresh heartbeats -/

theorem jsonInt64_fits {key : String} (h : jsonInt64 msg key = some ts) : FitsInt64 ts := by
  obtain ⟨v, -, rfl⟩ := Option.map_eq_some_iff.mp h
  unfold toInt64
  split
  · assumption
  · decide

/-- The distance of the times is not the least number of `int64`, and does
not wrap to a small one. -/
def Comparable (now ts : Int) : Prop :=
  FitsInt64 now ∧ (now - ts).natAbs ≠ 2 ^ 63 ∧ (now - ts).natAbs < 2 ^ 64 - 60

instance (now ts : Int) : Decidable (Comparable now ts) := inferInstanceAs (Decidable (_ ∧ _))

/-- The check is right exactly when the times can be compared. -/
theorem skewOf_exact_iff {now : Int} (hnow : FitsInt64 now) (hts : FitsInt64 ts) :
    (skewOf now ts ≤ heartbeatMaxSkew ↔ (now - ts).natAbs ≤ heartbeatMaxSkew) ↔
      Comparable now ts := by
  obtain ⟨_, _⟩ := id hnow
  obtain ⟨_, _⟩ := hts
  simp only [Comparable, hnow, true_and, skewOf, int64, Int.bmod_def, heartbeatMaxSkew]
  split_ifs <;> omega

theorem challenge_isOk_iff (hstrict : E.strictHeartbeatFreshness = true)
    (hts : jsonInt64 msg "ts" = some ts) (now : Time) (id : NodeId) :
    (heartbeatChallenge E now id msg).isOk = true ↔
      skewOf (now / second) ts ≤ heartbeatMaxSkew := by
  simp only [heartbeatChallenge, hstrict, hts, orFail]
  by_cases h : skewOf (now / second) ts ≤ heartbeatMaxSkew
  · simp [require, h, Except.isOk, Except.toBool, bind, Except.bind, pure, Except.pure]
  · simp [require, h, Except.isOk, Except.toBool, bind, Except.bind]

/-- The steps of heartbeats with the message write nothing. -/
def Refuses (E : NodeEnv) (msg : Msg) (w : World) (e : World.Event) : Prop :=
  ∀ ref key expiresAt pulse, w.runs e = some (.beat (.json msg) ref key expiresAt pulse) →
    (w.step E e).live = w.live ∧ (w.step E e).verified = w.verified

/-- A heartbeat with the message has still to read the clock. -/
def Flight.unread (msg : Msg) : Flight → Prop
  | .beat (.json m) _ _ _ pulse => m = msg → pulse = .due
  | _ => True

/-- A heartbeat with the message has still to read the clock, or read a time
that is too far from its own. -/
def Flight.late (msg : Msg) (ts : Int) : Flight → Prop
  | .beat (.json _) _ _ _ .due => True
  | .beat (.json m) _ _ _ (.timed now) =>
    m = msg → ¬ skewOf (now / second) ts ≤ heartbeatMaxSkew
  | .beat (.json m) _ _ _ _ => m ≠ msg
  | _ => True

theorem late_of_unread {f : Flight} (h : f.unread msg) : f.late msg ts := by
  cases f with
  | beat b ref key expiresAt pulse =>
    cases b with
    | json m =>
      cases pulse with
      | due => trivial
      | timed now => exact fun hm => nomatch h hm
      | signed now | alive now => exact fun hm => nomatch h hm
    | binary sig => trivial
  | _ => trivial

theorem late_mapRef {g : Ref → Ref} {f : Flight} (h : f.late msg ts) :
    (f.mapRef g).late msg ts := by
  cases f with
  | beat b ref key expiresAt pulse => cases b <;> cases pulse <;> exact h
  | register req key ext stage => cases stage <;> exact h
  | _ => exact h

theorem skipVerify_strict (hstrict : E.strictHeartbeatFreshness = true)
    (verified : GoMap NodeId Time) (now : Time) (id : NodeId) :
    skipVerify E verified now id = false := by
  simp [skipVerify, hstrict]

/-- No signature helps a time that is too far. -/
theorem verifyBeat_late (hstrict : E.strictHeartbeatFreshness = true)
    (hts : jsonInt64 msg "ts" = some ts) {now : Time} (id : NodeId) (key : Bytes)
    (hlate : ¬ skewOf (now / second) ts ≤ heartbeatMaxSkew) :
    ∃ m, verifyBeat E now id key (.json msg) = .error m := by
  have hrefused := (challenge_isOk_iff hstrict hts now id).not.mpr hlate
  cases hc : heartbeatChallenge E now id msg with
  | ok c => exact absurd (by rw [hc]; rfl) hrefused
  | error m =>
    refine ⟨m, ?_⟩
    simp only [verifyBeat, hc]
    rfl

theorem late_step (hstrict : E.strictHeartbeatFreshness = true)
    (hts : jsonInt64 msg "ts" = some ts)
    (hlate : ¬ skewOf (w.clock / second) ts ≤ heartbeatMaxSkew)
    (h : ∀ f ∈ w.flights, f.late msg ts) : ∀ f ∈ (w.step E e).flights, f.late msg ts := by
  intro f' hf'
  cases step_flight hf' with
  | kept f g hg hf => exact late_mapRef (h f hf)
  | launched f hl =>
    cases hl with
    | _ => trivial
  | next f f' hf hnext =>
    have hfirst := h _ (runs_mem hf)
    cases hnext with
    | timed b ref key expiresAt =>
      cases b with
      | json m => exact fun _ => hlate
      | binary sig => trivial
    | skipped b id key expiresAt now hskip =>
      rw [skipVerify_strict hstrict] at hskip
      cases hskip
    | signed b id key expiresAt now hok =>
      cases b with
      | json m =>
        rintro rfl
        obtain ⟨text, herror⟩ := verifyBeat_late hstrict hts id key (hfirst rfl)
        rw [herror] at hok
        cases hok
      | binary sig => trivial
    | checked b id key expiresAt now =>
      cases b with
      | json m => exact hfirst
      | binary sig => trivial
    | _ => trivial

theorem refuses_of_late (hstrict : E.strictHeartbeatFreshness = true)
    (hts : jsonInt64 msg "ts" = some ts) (h : ∀ f ∈ w.flights, f.late msg ts) :
    Refuses E msg w e := by
  intro ref key expiresAt pulse hf
  have hfirst := h _ (runs_mem hf)
  cases e with
  | go i order logged =>
    change w.flights[i]? = _ at hf
    simp only [World.step, hf, World.go]
    cases pulse with
    | due => cases ref <;> exact ⟨rfl, rfl⟩
    | timed now =>
      cases ref with
      | gone n => exact ⟨rfl, rfl⟩
      | held id =>
        obtain ⟨text, herror⟩ := verifyBeat_late hstrict hts id key (hfirst rfl)
        simp only [World.goBeat, skipVerify_strict hstrict, herror]
        exact ⟨rfl, rfl⟩
    | signed now | alive now => exact absurd rfl hfirst
  | _ => cases hf

/-- In strict mode the check of a time is right exactly when it can be
compared with the registry's; and a heartbeat that has not read the clock
when its time has passed writes nothing any more, in any run. -/
theorem heartbeat_fresh_runs (E : NodeEnv) (hstrict : E.strictHeartbeatFreshness = true)
    (msg : Msg) (ts : Int) (hts : jsonInt64 msg "ts" = some ts) :
    (∀ now id, FitsInt64 (now / second) → (((heartbeatChallenge E now id msg).isOk = true ↔
        (now / second - ts).natAbs ≤ heartbeatMaxSkew) ↔ Comparable (now / second) ts)) ∧
    ∀ w es, Meets (World.step E) (fun w _ => Comparable (w.clock / second) ts) w es →
      ts + heartbeatMaxSkew < w.clock / second → (∀ f ∈ w.flights, f.unread msg) →
      Meets (World.step E) (Refuses E msg) w es := by
  have hfits := jsonInt64_fits hts
  refine ⟨fun now id hnow => ?_, fun w es hmeets hlate hflights => ?_⟩
  · rw [challenge_isOk_iff hstrict hts, skewOf_exact_iff hnow hfits]
  · refine hmeets.imp (World.step E)
      (P := fun w => ts + heartbeatMaxSkew < w.clock / second ∧ ∀ f ∈ w.flights, f.late msg ts)
      (fun w e hcomp h => ⟨?_, late_step hstrict hts ?_ h.2⟩)
      (fun w e _ h => refuses_of_late hstrict hts h.2)
      ⟨hlate, fun f hf => late_of_unread (hflights f hf)⟩
    · exact lt_of_lt_of_le h.1 (Int.ediv_le_ediv (by decide) (step_clock E w e))
    · rw [(skewOf_exact_iff hcomp.1 hfits).mpr hcomp]
      have hpast := h.1
      simp only [heartbeatMaxSkew] at hpast ⊢
      omega

/-- A registry that insists on fresh heartbeats. -/
def strictEnv : NodeEnv := { NodeEnv.plain with strictHeartbeatFreshness := true }

theorem heartbeat_fresh_runs_minute :
    let msg : Msg := [("node_id", .num 1), ("ts", .num 1767226368), ("signature", .str "AAAA")]
    (heartbeatChallenge strictEnv (1767226428 * second) 1 msg).isOk = true ∧
      Meets (World.step strictEnv) (Refuses strictEnv msg) (World.fresh (1767226429 * second))
        (registers ++ [.heartbeat msg, .go 0 [] true, .go 0 [] true]) := by
  intro msg
  obtain ⟨hfresh, hlate⟩ :=
    heartbeat_fresh_runs strictEnv rfl msg 1767226368 (by decide +kernel)
  refine ⟨((hfresh _ 1 (by decide)).mpr (by decide)).mpr (by decide),
    hlate _ _ (by decide +kernel) (by decide) ?_⟩
  intro f hf
  cases hf

/-- A heartbeat whose time is `2 ^ 63` seconds ago is fresh. -/
theorem far_heartbeat_fresh :
    let msg : Msg := [("node_id", .num 1), ("ts", .num (1767226368 - 2 ^ 63))]
    jsonInt64 msg "ts" = some (1767226368 - 2 ^ 63) ∧
      (heartbeatChallenge strictEnv (1767226368 * second) 1 msg).isOk = true ∧
      ¬ (1767226368 - (1767226368 - 2 ^ 63) : Int).natAbs ≤ heartbeatMaxSkew := by
  decide +kernel

/-! ## Signed heartbeats -/

/-- A heartbeat of the node `id` that was checked, and the time it read. -/
structure Handled where
  id : NodeId
  beat : Beat
  time : Time

/-- The heartbeats that came to their check so far. -/
def noteBeat (w : World) (e : World.Event) (handled : List Handled) : List Handled :=
  match w.runs e with
  | some (.beat b (.held id) _ _ (.timed now)) => ⟨id, b, now⟩ :: handled
  | _ => handled

/-- The registry, with the heartbeats it handled. -/
def beatStep (E : NodeEnv) : World × List Handled → World.Event → World × List Handled :=
  traced (World.step E) noteBeat

/-- The heartbeat a section is of. -/
def Flight.beat? : Flight → Option Beat
  | .beat b .. => some b
  | _ => none

/-- A heartbeat is in flight on the record under `id`. -/
def Flight.beats (id : NodeId) : Flight → Bool
  | .beat _ (.held j) .. => j = id
  | _ => false

/-- When the heartbeat `b` is stored as the last-seen time `now` of a node,
one that was handled within the time a check is good for, in strict mode
`b` itself, has a signature under `key`. -/
def Backed (E : NodeEnv) (handled : List Handled) (id : NodeId) (b : Beat) (now : Time)
    (key : Bytes) : Prop :=
  ∃ v ∈ (if E.strictHeartbeatFreshness then [⟨id, b, now⟩] else handled), v.id = id ∧
    now - heartbeatVerifyCacheTTL ≤ v.time ∧ (verifyBeat E v.time id key v.beat).isOk = true

instance (E : NodeEnv) (handled : List Handled) (id : NodeId) (b : Beat) (now : Time)
    (key : Bytes) : Decidable (Backed E handled id b now key) :=
  inferInstanceAs (Decidable (∃ v ∈ _, _))

/-- A heartbeat that changes the last-seen time of a node is backed by a
signature under the key the node holds. -/
def Vouched (E : NodeEnv) (x : World × List Handled) (e : World.Event) : Prop :=
  ∀ b ∈ (x.1.runs e).bind Flight.beat?, ∀ id ∈ x.1.live.nodes.keys,
    ∀ n ∈ x.1.live.nodes.get id, ∀ n' ∈ (x.1.step E e).live.nodes.get id,
      n'.lastSeenNano ≠ n.lastSeenNano → Backed E x.2 id b n'.lastSeenNano n'.publicKey

instance (E : NodeEnv) (x : World × List Handled) (e : World.Event) :
    Decidable (Vouched E x e) :=
  inferInstanceAs (Decidable (∀ b ∈ (x.1.runs e).bind Flight.beat?, _))

/-- A node gets another key only when its last check is not good any more,
and while no heartbeat of it is in flight. -/
def KeepsVouched (E : NodeEnv) (x : World × List Handled) (e : World.Event) : Prop :=
  ∀ p ∈ x.1.givesKey E e,
    (∀ last ∈ x.1.verified.get p.1, heartbeatVerifyCacheTTL ≤ x.1.clock - last) ∧
    ∀ f ∈ x.1.flights, f.beats p.1 = false

instance (E : NodeEnv) (x : World × List Handled) (e : World.Event) :
    Decidable (KeepsVouched E x e) := inferInstanceAs (Decidable (∀ p ∈ x.1.givesKey E e, _))

variable {logged : Bool} {key : Bytes} {order : List NetId} {expiresAt last : Time}
  {x : World × List Handled} {b : Beat} {pulse : Pulse} {f : Flight}

/-- A check that was stored as `last` was one of the key. -/
def Signed (E : NodeEnv) (handled : List Handled) (id : NodeId) (key : Bytes) (last : Time) :
    Prop :=
  ∃ b, ⟨id, b, last⟩ ∈ handled ∧ verifyBeat E last id key b = .ok ()

/-- What a heartbeat of a node with the key has found so far. -/
def Pulse.Sound (E : NodeEnv) (x : World × List Handled) (id : NodeId) (b : Beat)
    (key : Bytes) : Pulse → Prop
  | .due => True
  | .timed now => ∀ last ∈ x.1.verified.get id, now - last < heartbeatVerifyCacheTTL →
      Signed E x.2 id key last
  | .signed now => ⟨id, b, now⟩ ∈ x.2 ∧ verifyBeat E now id key b = .ok ()
  | .alive now => Backed E x.2 id b now key

/-- A heartbeat in flight has read the key its node holds, and what it found
is about that key. -/
def Flight.Sound (E : NodeEnv) (x : World × List Handled) : Flight → Prop
  | .beat b (.held id) key _ pulse => ∀ n, x.1.live.nodes.get id = some n →
      n.publicKey = key ∧ pulse.Sound E x id b n.publicKey
  | _ => True

/-- Every check that is still good was one of the node's key, and every
heartbeat in flight is sound. -/
structure Remembered (E : NodeEnv) (x : World × List Handled) : Prop where
  checks : ∀ id last n, x.1.verified.get id = some last → x.1.live.nodes.get id = some n →
    x.1.clock - last < heartbeatVerifyCacheTTL → Signed E x.2 id n.publicKey last
  flights : ∀ f ∈ x.1.flights, f.Sound E x

theorem Left.verified {v : World} (hleft : Left w v) (h : v.verified.get id = some last) :
    w.verified.get id = some last := by
  induction hleft with
  | refl => exact h
  | leave _ j n s ih => exact ih (GoMap.of_get_del h)

theorem Ran.verified {v : World} (hran : Ran E w order logged f v)
    (h : v.verified.get id = some last) :
    w.verified.get id = some last ∨
      ∃ b key expiresAt, f = .beat b (.held id) key expiresAt (.signed last) := by
  cases hran with
  | slow => exact Or.inl ((displace_left w _).verified h)
  | swept threshold cands => exact Or.inl ((sweep_left threshold _ .refl).verified h)
  | fast _ _ _ _ ref => cases ref <;> exact Or.inl h
  | checked b j key expiresAt now =>
    rcases GoMap.of_get_set h with ⟨rfl, rfl⟩ | hold
    · exact Or.inr ⟨b, key, expiresAt, rfl⟩
    · exact Or.inl hold
  | _ => exact Or.inl h

/-- A check that is remembered was remembered before, or is stored now. -/
theorem step_verified (h : (w.step E e).verified.get id = some last) :
    w.verified.get id = some last ∨
      ∃ b key expiresAt, w.runs e = some (.beat b (.held id) key expiresAt (.signed last)) := by
  cases e with
  | go i order logged =>
    simp only [World.step] at h
    split at h
    · next f hf =>
      have hgoes := go_goes E w i order logged f
      generalize w.go E i order logged f = w' at h hgoes
      cases hgoes with
      | stays => exact Or.inl h
      | returns v hran | next v f' hran =>
        rcases hran.verified h with hold | ⟨b, key, expiresAt, hb⟩
        · exact Or.inl hold
        · exact Or.inr ⟨b, key, expiresAt, hf.trans (congrArg some hb)⟩
    · exact Or.inl h
  | start | failover =>
    simp only [World.step] at h
    split at h
    · cases h
    · exact Or.inl h
  | deregister msg logged =>
    simp only [World.step] at h
    split at h
    · exact Or.inl (GoMap.of_get_del h)
    · exact Or.inl h
  | _ =>
    left
    simp only [World.step, World.lookBeat] at h
    repeat' split at h
    all_goals exact h

theorem mem_noteBeat {v : Handled} {handled : List Handled} (h : v ∈ handled) :
    v ∈ noteBeat w e handled := by
  unfold noteBeat
  split
  · exact List.mem_cons_of_mem _ h
  · exact h

theorem restarts_verified (h : w.restarts e) : (w.step E e).verified = ∅ := by
  cases e with
  | start order => exact congrArg World.verified (if_pos h)
  | failover =>
    obtain ⟨s, hs⟩ := Option.isSome_iff_exists.mp h
    simp only [World.step, hs]
  | _ => exact h.elim

theorem Backed.noted {handled : List Handled} {now : Time} (h : Backed E handled id b now key) :
    Backed E (noteBeat w e handled) id b now key := by
  obtain ⟨v, hv, hbacked⟩ := h
  refine ⟨v, ?_, hbacked⟩
  split
  · next hstrict => rwa [if_pos hstrict] at hv
  · next hlax =>
    rw [if_neg hlax] at hv
    exact mem_noteBeat hv

theorem Signed.noted {handled : List Handled} (h : Signed E handled id key last) :
    Signed E (noteBeat w e handled) id key last := by
  obtain ⟨b, hb, hok⟩ := h
  exact ⟨b, mem_noteBeat hb, hok⟩

/-- The check a heartbeat stores is one of the key its node holds. -/
theorem Remembered.stores (h : Remembered E x) {n : NodeInfo}
    (hf : x.1.runs e = some (.beat b (.held id) key expiresAt (.signed last)))
    (hn : x.1.live.nodes.get id = some n) : Signed E x.2 id n.publicKey last :=
  ⟨b, (h.flights _ (runs_mem hf) n hn).2⟩

/-- While a heartbeat of a node is in flight, its record keeps the key. -/
theorem key_of_beats (hkeeps : KeepsVouched E x e) (hsame : ¬ x.1.restarts e) {n' : NodeInfo}
    (hf : f ∈ x.1.flights) (hid : f.beats id = true)
    (hn' : (x.1.step E e).live.nodes.get id = some n') :
    ∃ n, x.1.live.nodes.get id = some n ∧ n.publicKey = n'.publicKey := by
  rcases step_publicKey E hsame hn' with hold | hgives
  · exact hold
  · rw [(hkeeps _ hgives).2 f hf] at hid
    cases hid

theorem checks_step (hkeeps : KeepsVouched E x e) (h : Remembered E x)
    (hsame : ¬ x.1.restarts e) {n' : NodeInfo}
    (hlast : (x.1.step E e).verified.get id = some last)
    (hn' : (x.1.step E e).live.nodes.get id = some n')
    (hgood : (x.1.step E e).clock - last < heartbeatVerifyCacheTTL) :
    Signed E (noteBeat x.1 e x.2) id n'.publicKey last := by
  have hgood : x.1.clock - last < heartbeatVerifyCacheTTL :=
    lt_of_le_of_lt (sub_le_sub_right (step_clock E x.1 e) last) hgood
  rcases step_verified hlast with hold | ⟨b, key, expiresAt, hf⟩
  · rcases step_publicKey E hsame hn' with ⟨n, hn, hkey⟩ | hgives
    · exact hkey ▸ (h.checks id last n hold hn hgood).noted
    · exact absurd hgood (not_lt.mpr ((hkeeps _ hgives).1 last hold))
  · obtain ⟨n, hn, hkey⟩ := key_of_beats hkeeps hsame (runs_mem hf) (decide_eq_true rfl) hn'
    exact hkey ▸ (h.stores hf hn).noted

/-- What a heartbeat found stays so while its node keeps the key. -/
theorem Pulse.Sound.step (h : Remembered E x) {n : NodeInfo}
    (hn : x.1.live.nodes.get id = some n) (hsound : pulse.Sound E x id b n.publicKey) :
    pulse.Sound E (beatStep E x e) id b n.publicKey := by
  cases pulse with
  | due => trivial
  | timed now =>
    intro last hlast hgood
    rcases step_verified hlast with hold | ⟨b', key, expiresAt, hf⟩
    · exact (hsound last hold hgood).noted
    · exact (h.stores hf hn).noted
  | signed now => exact ⟨mem_noteBeat hsound.1, hsound.2⟩
  | alive now => exact hsound.noted

theorem Flight.Sound.kept (hkeeps : KeepsVouched E x e) (h : Remembered E x)
    (hsame : ¬ x.1.restarts e) (hf : .beat b (.held id) key expiresAt pulse ∈ x.1.flights) :
    (Flight.beat b (.held id) key expiresAt pulse).Sound E (beatStep E x e) := by
  intro n' hn'
  obtain ⟨n, hn, hkey⟩ := key_of_beats hkeeps hsame hf (decide_eq_true rfl) hn'
  obtain ⟨hread, hsound⟩ := h.flights _ hf n hn
  exact ⟨hkey ▸ hread, hkey ▸ hsound.step h hn⟩

/-- The next step of a heartbeat of a node that holds the key it read. -/
theorem Next.sound (hkeeps : KeepsVouched E x e) (h : Remembered E x) (hsame : ¬ x.1.restarts e)
    (hf : x.1.runs e = some (.beat b (.held id) key expiresAt pulse)) {pulse' : Pulse}
    (hnext : Next E x.1 (.beat b (.held id) key expiresAt pulse)
      (.beat b (.held id) key expiresAt pulse')) :
    (Flight.beat b (.held id) key expiresAt pulse').Sound E (beatStep E x e) := by
  intro n' hn'
  obtain ⟨n, hn, hkey⟩ := key_of_beats hkeeps hsame (runs_mem hf) (decide_eq_true rfl) hn'
  obtain ⟨hread, hsound⟩ := h.flights _ (runs_mem hf) n hn
  refine ⟨hkey ▸ hread, ?_⟩
  cases hnext with
  | timed =>
    intro last hlast hgood
    exact checks_step hkeeps h hsame hlast hn' (by rw [runs_clock hf]; exact hgood)
  | skipped b id key expiresAt now hskip =>
    simp only [skipVerify, Bool.and_eq_true, Bool.not_eq_true', Option.any_eq_true,
      decide_eq_true_eq] at hskip
    obtain ⟨hlax, last, hlast, -, hgood⟩ := hskip
    obtain ⟨b', hb', hok⟩ := hsound last hlast hgood
    refine Backed.noted ⟨⟨id, b', last⟩, ?_, rfl, (sub_lt_comm.mp hgood).le, ?_⟩
    · rwa [hlax, if_neg Bool.false_ne_true]
    · rw [← hkey, isOk_iff]
      exact hok
  | signed b id key expiresAt now hok =>
    refine ⟨?_, ?_⟩
    · show _ ∈ noteBeat x.1 e x.2
      simp [noteBeat, hf]
    · rw [← hkey, hread]
      exact hok
  | checked b id key expiresAt now =>
    refine Backed.noted ⟨⟨id, b, now⟩, ?_, rfl, sub_le_self _ (by decide), ?_⟩
    · split
      · exact List.mem_singleton.mpr rfl
      · exact hsound.1
    · rw [← hkey, isOk_iff]
      exact hsound.2

theorem flights_step (hkeeps : KeepsVouched E x e) (h : Remembered E x)
    (hsame : ¬ x.1.restarts e) :
    ∀ f ∈ (x.1.step E e).flights, f.Sound E (beatStep E x e) := by
  intro f' hf'
  cases step_flight hf' with
  | kept f g hg hf =>
    cases f with
    | beat b ref key expiresAt pulse =>
      cases hr : g ref with
      | gone n =>
        simp only [Flight.mapRef, hr]
        trivial
      | held id =>
        obtain rfl := hg ref id hr
        simp only [Flight.mapRef, hr]
        exact .kept hkeeps h hsame hf
    | register req key ext stage => cases stage <;> trivial
    | _ => trivial
  | launched f hl =>
    have hlive := launched_live hl
    cases hl with
    | heartbeat msg n hn | binaryHeartbeat nodeID sig n hn =>
      intro n' hn'
      have hsame : x.1.live.nodes.get _ = some n' := hlive ▸ hn'
      obtain rfl := Option.some.inj (hn.symm.trans hsame)
      exact ⟨rfl, trivial⟩
    | _ => trivial
  | next f f' hf hnext =>
    cases hnext with
    | timed b ref key expiresAt =>
      cases ref with
      | gone n => trivial
      | held id => exact Next.sound hkeeps h hsame hf (.timed b _ key expiresAt)
    | skipped b id key expiresAt now hskip hexp =>
      exact Next.sound hkeeps h hsame hf (.skipped b id key expiresAt now hskip hexp)
    | signed b id key expiresAt now hok =>
      exact Next.sound hkeeps h hsame hf (.signed b id key expiresAt now hok)
    | checked b id key expiresAt now hexp =>
      exact Next.sound hkeeps h hsame hf (.checked b id key expiresAt now hexp)
    | _ => trivial

theorem Remembered.step (h : Remembered E x) (hkeeps : KeepsVouched E x e) :
    Remembered E (beatStep E x e) := by
  by_cases hrestart : x.1.restarts e
  · constructor
    · intro id last n hlast
      have hnone : (x.1.step E e).verified.get id = some last := hlast
      rw [restarts_verified hrestart] at hnone
      cases hnone
    · intro f hf
      have hnone : f ∈ (x.1.step E e).flights := hf
      rw [flights_restarts E hrestart] at hnone
      cases hnone
  · exact ⟨fun id last n hlast hn => checks_step hkeeps h hrestart hlast hn,
      flights_step hkeeps h hrestart⟩

theorem vouched_of_remembered (h : Remembered E x) : Vouched E x e := by
  intro b hb id _ n hn n' hn' hseen
  obtain ⟨f, hf, hfb⟩ := Option.bind_eq_some_iff.mp hb
  have hsame : ¬ x.1.restarts e := by
    cases e with
    | go => exact not_false
    | _ => cases hf
  have hother : ∀ g, g.beat? = none → x.1.runs e ≠ some g := by
    rintro g hg hg'
    obtain rfl := Option.some.inj (hf.symm.trans hg')
    rw [hg] at hfb
    cases hfb
  cases step_stands hsame hn' with
  | kept hold => exact absurd (congrArg _ (Option.some.inj (hold.symm.trans hn))) hseen
  | @edited m _ hold hedit =>
    obtain rfl : n = m := Option.some.inj (hn.symm.trans hold)
    cases hedit with
    | beat b' key expiresAt now hf' =>
      obtain rfl := Option.some.inj (hf.symm.trans hf')
      cases hfb
      exact (h.flights _ (runs_mem hf') n hold).2
    | relisted => cases hf
    | fast _ _ _ _ hf' => exact absurd hf' (hother _ rfl)
    | slow _ _ _ _ _ hf' => exact absurd hf' (hother _ rfl)
    | external _ _ _ hf' => exact absurd hf' (hother _ rfl)
    | set _ _ _ _ hf' => exact absurd hf' (hother _ rfl)
    | rotated _ _ hf' => exact absurd hf' (hother _ rfl)
    | noted _ _ _ hf' => exact absurd hf' (hother _ rfl)
    | forced _ _ _ hf' => exact absurd hf' (hother _ rfl)
  | filed _ _ _ _ _ hf' => exact absurd hf' (hother _ rfl)

/-- In every run in which a node gets another key only when its last check
is not good any more, and while no heartbeat of it is in flight, every
heartbeat that changes a last-seen time is backed by a signature under the
key its node holds. -/
theorem heartbeat_vouched_runs (E : NodeEnv) (now : Time) (es : List World.Event)
    (hkeeps : Meets (beatStep E) (KeepsVouched E) (World.fresh now, []) es) :
    Meets (beatStep E) (Vouched E) (World.fresh now, []) es := by
  refine hkeeps.imp (beatStep E) (P := Remembered E) (fun x e hk h => h.step hk)
    (fun x e _ h => vouched_of_remembered h) ⟨fun id last n hlast => ?_, fun f hf => ?_⟩
  · cases GoMap.get_empty id ▸ hlast
  · cases hf

/-- Node 1 registers, and a second later a heartbeat of it is checked and
counts. -/
def beats : List World.Event :=
  registers ++ [.tick 1000000000, .heartbeat [("node_id", .num 1), ("signature", .str "AAAA")],
    .go 0 [] true, .go 0 [] true, .go 0 [] true, .go 0 [] true]

theorem heartbeat_vouched_runs_twice :
    let es := beats ++
      [.tick 60, .binaryHeartbeat 1 [], .go 0 [] true, .go 0 [] true, .go 0 [] true]
    Meets (beatStep .plain) (Vouched .plain) (World.fresh second, []) es ∧
      ((run (beatStep .plain) (World.fresh second, []) es).1.live.nodes.get 1).map
        NodeInfo.lastSeenNano = some 2000000060 :=
  ⟨heartbeat_vouched_runs .plain second _ (by decide +kernel), by decide +kernel⟩

/-- Node 1 rotates its key from `AAAA` to `BBBB`, and an unsigned heartbeat
counts. -/
theorem rotated_heartbeat_unsigned :
    let x := run (beatStep .plain) (World.fresh second, []) (beats ++
      [.rotateKey [("node_id", .num 1), ("new_public_key", .str "BBBB"),
        ("signature", .str "AAAA")], .go 0 [] true, .go 0 [] true, .go 0 [] true,
        .tick 60, .heartbeat [("node_id", .num 1)], .go 0 [] true, .go 0 [] true])
    ((x.1.step .plain (.go 0 [] true)).live.nodes.get 1).map NodeInfo.lastSeenNano =
      some 2000000060 ∧ ¬ Vouched .plain x (.go 0 [] true) := by
  decide +kernel

end Rendezvous.Lifecycle

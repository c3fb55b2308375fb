import Rendezvous.Lifecycle.StaleKeys

/-!
# The signature latch

A key that has registered with a signature is latched: no registration of
it without one is to change the endpoint, the LAN addresses, the relay
flag, the hostname, the version or the owner of its node. The registry
keeps the latch in the node's record, and looks at it in a section of its
own before it writes. The record is deleted by the reaper and by a
deregistration, and is written to the file and to the standby without the
latch; and what was checked before a key was latched may be written after
it was. The latch holds in every run in which none of this happens to a
registration without a signature.
-/

namespace Rendezvous.Lifecycle

open Base Registry Authz Rendezvous.Membership Directory Identity Wal Persist Recovery

variable {req : RegisterReq} {key : Bytes} {w : World} {e : World.Event} {id : NodeId}
  {E : NodeEnv} {x : World × Latches}

/-! ## Registrations that commit -/

/-- The registration an event writes to a record, its key, and the id of the
record. -/
def World.registers (E : NodeEnv) (w : World) : World.Event → Option (RegisterReq × Bytes × NodeId)
  | .go i order _ =>
    match w.flights[i]? with
    | some (.register req key _ (.fast _ (.held id))) => some (req, key, id)
    | some (.register req key _ .slow) =>
      if w.slowSucceeds E order req key then
        ((knownId w.live req).or (filedId w.live req)).map fun id => (req, key, id)
      else none
    | _ => none
  | _ => none

/-- The key an event takes from a node, if it gives it another. -/
def World.takesKey (E : NodeEnv) (w : World) (e : World.Event) : Option (Bytes × NodeId) :=
  (w.givesKey E e).bind fun (id, key) => (w.live.nodes.get id).bind fun n =>
    if n.publicKey = key then none else some (n.publicKey, id)

/-! ## The history -/

/-- What a run has latched: the keys that registered with a signature, each
with the id it got, and the ids whose record has been there since, in one
process. -/
structure Latches where
  latched : List (Bytes × NodeId) := []
  standing : List NodeId := []
  deriving DecidableEq

/-- The ids that stand after an event: the one that a signed registration
wrote, and those that stood and got no fresh record. -/
def Latches.stand (E : NodeEnv) (w : World) (e : World.Event) (standing : List NodeId) :
    List NodeId :=
  let stays := standing.filter fun id => (w.files E e).map Prod.fst ≠ some id
  match w.registers E e with
  | some (req, _, id) => if req.sigVerified then id :: stays else stays
  | none => stays

/-- The history after an event. -/
def Latches.note (E : NodeEnv) (w : World) (e : World.Event) (l : Latches) : Latches where
  latched :=
    let kept := match w.takesKey E e with
      | some pair => l.latched.filter fun p => p ≠ pair
      | none => l.latched
    match w.registers E e with
    | some (req, key, id) => if req.sigVerified then (key, id) :: kept else kept
    | none => kept
  standing :=
    if w.restarts e then []
    else (Latches.stand E w e l.standing).filter fun id => (w.step E e).live.nodes.has id

/-- The registry with its history. -/
def latchStep (E : NodeEnv) : World × Latches → World.Event → World × Latches :=
  traced (World.step E) (Latches.note E)

/-! ## What is to hold, and when it does -/

/-- What an unsigned registration of a latched key must leave alone. -/
structure Details where
  realAddr : String
  lanAddrs : List String
  relayOnly : Bool
  hostname : String
  version : String
  owner : String
  deriving DecidableEq

/-- The details of a record. -/
def details (n : NodeInfo) : Details :=
  ⟨n.realAddr, n.lanAddrs, n.relayOnly, n.hostname, n.version, n.owner⟩

/-- No section of a registration without a signature changes the details of
a node that its key is latched to. -/
def LatchHolds (E : NodeEnv) (x : World × Latches) (e : World.Event) : Prop :=
  match x.1.runs e with
  | some (.register req key _ _) => req.sigVerified = false → ∀ p ∈ x.2.latched, p.1 = key →
        ((x.1.step E e).live.nodes.get p.2).map details = (x.1.live.nodes.get p.2).map details
  | _ => True

instance (E : NodeEnv) (x : World × Latches) (e : World.Event) : Decidable (LatchHolds E x e) := by
  unfold LatchHolds
  split <;> infer_instance

/-- The request is not an unsigned registration of the key. -/
def Flight.notUnsigned (key : Bytes) : Flight → Prop
  | .register req key' _ _ => key' = key → req.sigVerified = true
  | _ => True

instance (key : Bytes) (f : Flight) : Decidable (f.notUnsigned key) := by
  unfold Flight.notUnsigned
  split <;> infer_instance

/-- An unsigned registration of a latched key, where one is admitted at all,
gives the text the key index has for the node, and the node's record has
been there since it was latched. -/
def FindsRecord (E : NodeEnv) (x : World × Latches) (msg : Msg) : Prop :=
  E.strictRegistrationAuth = false → msg.str "signature" = "" →
    ∀ p ∈ x.2.latched, E.decodePublicKey (msg.str "public_key") = some p.1 →
      x.1.live.pubKeyIdx.get (msg.str "public_key") = some p.2 ∧ p.2 ∈ x.2.standing

instance (E : NodeEnv) (x : World × Latches) (msg : Msg) : Decidable (FindsRecord E x msg) :=
  inferInstanceAs (Decidable (_ → _ → _))

/-- Every unsigned registration of a latched key finds the latch, and no key
is latched while an unsigned registration of it is in flight. -/
def FindsLatch (E : NodeEnv) (x : World × Latches) (e : World.Event) : Prop :=
  (match e with
    | .register _ msg => FindsRecord E x msg
    | _ => True) ∧
  match x.1.registers E e with
  | some (req, key, _) => req.sigVerified = true → ∀ f ∈ x.1.flights, f.notUnsigned key
  | none => True

instance (E : NodeEnv) (x : World × Latches) (e : World.Event) : Decidable (FindsLatch E x e) := by
  unfold FindsLatch
  refine @instDecidableAnd _ _ ?_ ?_ <;> split <;> infer_instance

/-! ## The check -/

/-- What a registration that passed the ratchet brought and found. -/
theorem admitRegister_ok {E : Env} {remoteAddr : String} {s : Server} {msg : Msg} {ext : String}
    (h : admitRegister E remoteAddr s msg = .ok (req, key, ext)) :
    req.publicKey = msg.str "public_key" ∧ E.decodePublicKey req.publicKey = some key ∧
      ratchetRejects s req = none ∧
      (req.sigVerified = false → E.strictRegistrationAuth = false ∧ msg.str "signature" = "") := by
  simp only [admitRegister, bind_eq_ok, orFail_eq_ok, pure_eq_ok, Prod.mk.injEq] at h
  obtain ⟨externalID, -, text, htext, _, -, signed, hsigned, hrest⟩ := h
  have hpk : msg.str "public_key" = text := by simp [Msg.str, htext]
  have hunsigned : signed = false →
      E.strictRegistrationAuth = false ∧ msg.str "signature" = "" := by
    intro hs
    unfold checkRegisterSig at hsigned
    simp only at hsigned
    split at hsigned
    · simp only [bind_eq_ok, pure_eq_ok] at hsigned
      obtain ⟨_, -, _, -, _, -, htrue⟩ := hsigned
      simp [hs] at htrue
    · next hempty =>
      split at hsigned
      · cases hsigned
      · next hstrict => exact ⟨by simpa using hstrict, by simpa using hempty⟩
  split at hrest
  all_goals
    obtain ⟨key', hkey, _, hratchet, rfl, rfl, -⟩ := hrest
    refine ⟨hpk.symm, hkey, ?_, hunsigned⟩
    split at hratchet
    · cases hratchet
    · assumption

/-! ## The latch in the record -/

/-- No write takes the latch off a record. -/
theorem Edited.sigVerified {n n' : NodeInfo} (h : Edited w id n e n') (hn : n.sigVerified = true) :
    n'.sigVerified = true := by
  cases h with
  | relisted op logged n' h =>
    rw [h]
    exact hn
  | fast req key ext j hf => simp [fastRefresh, refresh, hn]
  | slow req key ext owner name hf hid => simp [NodeInfo.setLastSeen, refresh, hn]
  | set msg c gated nets hf hid =>
    obtain ⟨_, _, _, setting⟩ := c
    cases setting <;> exact hn
  | _ => exact hn

/-- A signed registration latches the record it writes. -/
theorem registers_sigVerified {n' : NodeInfo} (h : w.registers E e = some (req, key, id))
    (hsig : req.sigVerified = true) (hn' : (w.step E e).live.nodes.get id = some n') :
    n'.sigVerified = true := by
  cases e with
  | go i order logged =>
    simp only [World.registers] at h
    split at h
    · next req' key' ext j id' hi =>
      obtain ⟨rfl, rfl, rfl⟩ : req' = req ∧ key' = key ∧ id' = id := by simpa using h
      simp only [World.step, hi, World.go, World.goRegister, afterRegister_live] at hn'
      change (w.live.nodes.modify id' _).get id' = some n' at hn'
      rw [GoMap.get_modify_self] at hn'
      obtain ⟨n, -, rfl⟩ := Option.map_eq_some_iff.mp hn'
      simp [fastRefresh, refresh, hsig]
    · next req' key' ext hi =>
      split at h
      · next hslow =>
        obtain ⟨horder, o, ho⟩ := slowSucceeds_iff.mp hslow
        obtain ⟨id', hid', hpair⟩ := Option.map_eq_some_iff.mp h
        obtain ⟨rfl, rfl, rfl⟩ : req' = req ∧ key' = key ∧ id' = id := by
          simpa using hpair
        simp only [World.step, hi, World.go, World.goRegister, if_pos horder, ho,
          afterRegister_live] at hn'
        change o.server.nodes.get id' = some n' at hn'
        have hwrite := slowForm_get (slowPath_form ho) id'
        generalize o.server.nodes.get id' = x at hwrite hn'
        cases hwrite with
        | kept hknown hfiled =>
          rcases Option.or_eq_some_iff.mp hid' with hid' | ⟨-, hid'⟩
          · exact absurd hid' hknown
          · exact absurd hid' hfiled
        | refreshed n owner name hid hn =>
          cases hn'
          simp [NodeInfo.setLastSeen, refresh, hsig]
        | filed nets name hid =>
          cases hn'
          exact hsig
      · cases h
    · cases h
  | _ => cases h

/-! ## The latch along a run -/

/-- The records of the ids that stand have the latch, and no registration in
flight without a signature is of a latched key. -/
structure Latched (x : World × Latches) : Prop where
  standing : ∀ id ∈ x.2.standing, ∃ n, x.1.live.nodes.get id = some n ∧ n.sigVerified = true
  unsigned : ∀ req key ext stage, Flight.register req key ext stage ∈ x.1.flights →
    req.sigVerified = false → ∀ p ∈ x.2.latched, p.1 ≠ key

theorem mem_stand {standing : List NodeId} (h : id ∈ Latches.stand E w e standing) :
    (∃ req key, w.registers E e = some (req, key, id) ∧ req.sigVerified = true) ∨
      id ∈ standing ∧ ∀ key, w.files E e ≠ some (id, key) := by
  have hstays : id ∈ standing.filter (fun id => (w.files E e).map Prod.fst ≠ some id) →
      id ∈ standing ∧ ∀ key, w.files E e ≠ some (id, key) := by
    intro hmem
    obtain ⟨hold, hfiles⟩ := List.mem_filter.mp hmem
    refine ⟨hold, fun key hkey => ?_⟩
    simp [hkey] at hfiles
  unfold Latches.stand at h
  simp only at h
  split at h
  · next req key j hreg =>
    split at h
    · next hsig =>
      rcases List.mem_cons.mp h with rfl | hmem
      · exact Or.inl ⟨req, key, hreg, hsig⟩
      · exact Or.inr (hstays hmem)
    · exact Or.inr (hstays h)
  · exact Or.inr (hstays h)

theorem Latched.standing_step (h : Latched x) (e : World.Event) :
    ∀ id ∈ (latchStep E x e).2.standing,
      ∃ n, (latchStep E x e).1.live.nodes.get id = some n ∧ n.sigVerified = true := by
  obtain ⟨w, l⟩ := x
  intro id hid
  by_cases hrestart : w.restarts e
  · simp [latchStep, traced, Latches.note, hrestart] at hid
  · have hmem : id ∈ (Latches.stand E w e l.standing).filter
        fun id => (w.step E e).live.nodes.has id := by
      simpa [latchStep, traced, Latches.note, hrestart] using hid
    obtain ⟨hstand, hhas⟩ := List.mem_filter.mp hmem
    obtain ⟨n', hn'⟩ := (GoMap.has_eq_true _ _).mp hhas
    refine ⟨n', hn', ?_⟩
    rcases mem_stand hstand with ⟨req, key, hreg, hsig⟩ | ⟨hold, hfiles⟩
    · exact registers_sigVerified hreg hsig hn'
    · obtain ⟨n, hn, hlatch⟩ := h.standing id hold
      change w.live.nodes.get id = some n at hn
      cases step_stands hrestart hn' with
      | kept hn₀ =>
        cases hn.symm.trans hn₀
        exact hlatch
      | edited hn₀ hedit =>
        cases hn.symm.trans hn₀
        exact hedit.sigVerified hlatch
      | filed req key ext nets name hf hfiled => exact absurd hfiled (hfiles key)

theorem mapRef_register (g : Ref → Ref) (req : RegisterReq) (key : Bytes)
    (ext : String) (stage : Stage) :
    ∃ stage', (Flight.register req key ext stage).mapRef g = .register req key ext stage' := by
  cases stage <;> exact ⟨_, rfl⟩

/-- A registration in flight was in flight before, or has just been
admitted. -/
theorem follows_register {ext : String} {stage : Stage}
    (h : Follows E w e (.register req key ext stage)) :
    (∃ stage', Flight.register req key ext stage' ∈ w.flights) ∨
      ∃ remoteAddr msg, e = .register remoteAddr msg ∧
        admitRegister E.toEnv remoteAddr w.live msg = .ok (req, key, ext) := by
  generalize hf' : Flight.register req key ext stage = f' at h
  cases h with
  | kept f g hg hf =>
    cases f with
    | register req' key' ext' stage' =>
      obtain ⟨stage₀, hmap⟩ := mapRef_register g req' key' ext' stage'
      obtain ⟨rfl, rfl, rfl, -⟩ := Flight.register.inj (hf'.trans hmap)
      exact Or.inl ⟨stage', hf⟩
    | _ => cases hf'
  | launched f hl =>
    cases hl with
    | register remoteAddr msg req' key' ext' hadmit =>
      obtain ⟨rfl, rfl, rfl, -⟩ := Flight.register.inj hf'
      exact Or.inr ⟨remoteAddr, msg, rfl, hadmit⟩
    | _ => cases hf'
  | next f f' hf hnext =>
    cases hnext with
    | register req' key' ext' stage₀ stage' =>
      obtain ⟨rfl, rfl, rfl, -⟩ := Flight.register.inj hf'
      exact Or.inl ⟨stage₀, runs_mem hf⟩
    | _ => cases hf'

theorem mem_latched {p : Bytes × NodeId} (h : p ∈ (latchStep E x e).2.latched) : p ∈ x.2.latched ∨
      ∃ req, x.1.registers E e = some (req, p.1, p.2) ∧ req.sigVerified = true := by
  obtain ⟨w, l⟩ := x
  have hkept : p ∈ (match w.takesKey E e with
      | some pair => l.latched.filter fun p => p ≠ pair
      | none => l.latched) → p ∈ l.latched := by
    intro hp
    split at hp
    · exact (List.mem_filter.mp hp).1
    · exact hp
  simp only [latchStep, traced, Latches.note] at h
  split at h
  · next req key id hreg =>
    split at h
    · next hsig =>
      rcases List.mem_cons.mp h with rfl | hp
      · exact Or.inr ⟨req, hreg, hsig⟩
      · exact Or.inl (hkept hp)
    · exact Or.inl (hkept h)
  · exact Or.inl (hkept h)

/-- The latch refuses an unsigned registration that finds it. -/
theorem ratchet_of_standing (h : Latched x) (hidx : x.1.live.pubKeyIdx.get req.publicKey = some id)
    (hid : id ∈ x.2.standing) (hno : req.sigVerified = false) :
    ratchetRejects x.1.live req = some id := by
  obtain ⟨n, hn, hlatch⟩ := h.standing id hid
  simp [ratchetRejects, hidx, hn, hlatch, hno]

theorem Latched.unsigned_step (h : Latched x) (hfinds : FindsLatch E x e) : ∀ req key ext stage,
      Flight.register req key ext stage ∈ (latchStep E x e).1.flights →
      req.sigVerified = false → ∀ p ∈ (latchStep E x e).2.latched, p.1 ≠ key := by
  intro req key ext stage hmem hno p hp hkey
  subst hkey
  rcases follows_register (step_flight hmem) with ⟨stage', hold⟩ | ⟨addr, msg, rfl, hadmit⟩
  · rcases mem_latched hp with hp | ⟨req', hreg, hsig⟩
    · exact h.unsigned req p.1 ext stage' hold hno p hp rfl
    · -- the key is latched while its unsigned registration is in flight
      have hflights := hfinds.2
      simp only [hreg] at hflights
      have hsigned : req.sigVerified = true := hflights hsig _ hold rfl
      rw [hno] at hsigned
      cases hsigned
  · obtain ⟨htext, hdecode, hratchet, hunsigned⟩ := admitRegister_ok hadmit
    obtain ⟨hstrict, hsig⟩ := hunsigned hno
    rcases mem_latched hp with hp | ⟨req', hreg, -⟩
    · rw [htext] at hdecode
      obtain ⟨hidx, hstands⟩ := hfinds.1 hstrict hsig p hp hdecode
      rw [← htext] at hidx
      rw [ratchet_of_standing h hidx hstands hno] at hratchet
      cases hratchet
    · cases hreg

theorem Latched.step (h : Latched x) (hfinds : FindsLatch E x e) : Latched (latchStep E x e) :=
  ⟨h.standing_step e, h.unsigned_step hfinds⟩

theorem latchHolds_of (h : Latched x) (e : World.Event) : LatchHolds E x e := by
  unfold LatchHolds
  split
  · next req key ext stage hf =>
    intro hno p hp hkey
    exact absurd hkey (h.unsigned req key ext stage (runs_mem hf) hno p hp)
  · trivial

/-- In every run in which each unsigned registration of a latched key finds
its node's record, there since it was latched, and in which no key is
latched while an unsigned registration of it is in flight: no registration
without a signature changes the details of a node its key is latched to. -/
theorem latch_holds_runs (E : NodeEnv) (now : Time) (es : List World.Event)
    (h : Meets (latchStep E) (FindsLatch E) (World.fresh now, {}) es) :
    Meets (latchStep E) (LatchHolds E) (World.fresh now, {}) es := by
  refine h.imp (latchStep E) (P := Latched) (fun x e hfinds hx => hx.step hfinds)
    (fun x e _ hx => latchHolds_of hx e) ⟨?_, ?_⟩
  · intro id hid
    cases hid
  · intro req key ext stage hmem
    cases hmem

/-! ## A latch lost in a restart -/

/-- A registration of the key `AAAA` from the endpoint, from its check to its
commit on the path of `sections` sections. -/
def registration (addr signature : String) (sections : Nat) : List World.Event :=
  [.register "host" [("public_key", .str "AAAA"), ("listen_addr", .str addr),
    ("signature", .str signature)]] ++ List.replicate sections (.go 0 [0] true)

theorem latch_holds_runs_refused :
    let es := registration "host:1" "AAAA" 2 ++ registration "evil:1" "" 0
    Meets (latchStep .plain) (LatchHolds .plain) (World.fresh 0, {}) es ∧
      (run (World.step .plain) (World.fresh 0) es).flights.length = 0 :=
  ⟨latch_holds_runs .plain 0 _ (by decide +kernel), by decide +kernel⟩

/-- The key registers with a signature, the process restarts from the file it
wrote, and a registration without a signature moves the endpoint. -/
theorem latch_lost_in_restart :
    let x := run (latchStep .plain) (World.fresh 0, {})
      (registration "host:1" "AAAA" 2 ++ savedAndRestarted ++ registration "evil:1" "" 2)
    x.2.latched = [([0, 0, 0], 1)] ∧ (x.1.live.nodes.get 1).map NodeInfo.realAddr = some "host:1" ∧
      ¬ LatchHolds .plain x (.go 0 [0] true) ∧
      ((x.1.step .plain (.go 0 [0] true)).live.nodes.get 1).map NodeInfo.realAddr =
        some "evil:1" := by
  decide +kernel

end Rendezvous.Lifecycle

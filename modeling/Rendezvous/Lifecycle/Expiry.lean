import Rendezvous.Lifecycle.Flights
import Rendezvous.Lifecycle.Reboot

/-!
# Nodes whose key has expired

Once the expiry time of a node's key has passed, the node is to stay down
until a new expiry is set, or its key is rotated or recovered: nothing it
sends is to advance its last-seen time. Heartbeats look at the expiry.
Registrations do not, and a reclaim files a record without one; and a
heartbeat that read the record before the expiry passed is stored after it
has. An expired node stays down in every run in which none of this happens,
and in which a new process finds the expiry on the disk, or in the copy it
starts from.
-/

namespace Rendezvous.Lifecycle

open Base Registry Directory Identity Admin Persist Recovery

variable {now : Time} {w : World} {id : NodeId} {E : NodeEnv} {e : World.Event} {f : Flight}
  {x : World × Finset NodeId}

/-! ## The history -/

/-- The nodes whose key's expiry time has passed. -/
def nowExpired (w : World) : Finset NodeId :=
  w.live.nodes.keys.filter fun id => (w.live.nodes.get id).any fun n =>
    keyExpired n.keyMeta.expiresAt w.clock

/-- The node whose expiry an event sets, or whose key it rotates or
recovers. -/
def World.resets (w : World) (e : World.Event) : Option NodeId :=
  match w.runs e with
  | some (.request _ { nodeID := id, setting := .keyExpiry _, .. } true) =>
    if w.live.nodes.has id then some id else none
  | some (.rotate id _ _ expected) =>
    if (w.live.nodes.get id).any fun n => n.publicKey = expected then some id else none
  | some (.force id _ _ _) => if w.live.nodes.has id then some id else none
  | _ => none

/-- The expired nodes after an event: those that were, unless they were
reset, and those that are now. -/
def noteExpired (E : NodeEnv) (w : World) (e : World.Event) (l : Finset NodeId) : Finset NodeId :=
  (l.filter fun id => w.resets e ≠ some id) ∪ nowExpired (w.step E e)

/-- The registry with its history. -/
def expiryStep (E : NodeEnv) : World × Finset NodeId → World.Event → World × Finset NodeId :=
  traced (World.step E) (noteExpired E)

/-! ## What is to hold, and when it does -/

/-- A heartbeat or a registration. -/
def Flight.signOfLife : Flight → Bool
  | .register .. | .beat .. => true
  | _ => false

/-- The last-seen time of a record goes up, or there was no record. -/
def advances (x y : Option NodeInfo) : Bool :=
  y.any fun n' => x.all fun n => n.getLastSeen < n'.getLastSeen

/-- No section of a heartbeat or of a registration advances the last-seen
time of an expired node. -/
def StaysDown (E : NodeEnv) (x : World × Finset NodeId) (e : World.Event) : Prop :=
  ∀ f ∈ x.1.runs e, f.signOfLife = true → ∀ id ∈ x.2,
    advances (x.1.live.nodes.get id) ((x.1.step E e).live.nodes.get id) = false

instance (E : NodeEnv) (x : World × Finset NodeId) (e : World.Event) :
    Decidable (StaysDown E x e) :=
  inferInstanceAs (Decidable (∀ f ∈ x.1.runs e, _))

/-- The registered node a registration refreshes. -/
def World.refreshes (w : World) (e : World.Event) : Option NodeId :=
  match w.runs e with
  | some (.register _ _ _ (.fast _ (.held id))) => some id
  | some (.register req _ _ .slow) => knownId w.live req
  | _ => none

/-- A heartbeat of the node that its expiry check will not stop. -/
def Flight.willCount (now : Time) (id : NodeId) : Flight → Bool
  | .beat _ (.held j) _ expiresAt .due => j = id && !keyExpired expiresAt now
  | .beat _ (.held j) _ expiresAt (.timed t) => j = id && !keyExpired expiresAt t
  | .beat _ (.held j) _ expiresAt (.signed t) => j = id && !keyExpired expiresAt t
  | .beat _ (.held j) _ _ (.alive _) => j = id
  | _ => false

/-- Where there is a record of an expired node, its expiry has passed. -/
def HasExpired (l : Finset NodeId) (now : Time) (record : NodeId → Option NodeInfo) : Prop :=
  ∀ id ∈ l, ∀ n ∈ record id, keyExpired n.keyMeta.expiresAt now = true

instance (l : Finset NodeId) (now : Time) (record : NodeId → Option NodeInfo) :
    Decidable (HasExpired l now record) :=
  inferInstanceAs (Decidable (∀ id ∈ l, ∀ n ∈ record id, _))

/-- No registration writes the record of an expired node; no heartbeat that
will count is in flight when the expiry of its node passes; and a process
starts from a disk or from a copy that has the expiries. -/
def KeepsDown (E : NodeEnv) (x : World × Finset NodeId) (e : World.Event) : Prop :=
  (∀ id ∈ x.1.refreshes e, id ∉ x.2) ∧ (∀ f ∈ x.1.files E e, f.1 ∉ x.2) ∧
  (¬ x.1.restarts e → ∀ id ∈ nowExpired (x.1.step E e) \ x.2, ∀ f ∈ x.1.flights,
    f.willCount (x.1.step E e).clock id = false) ∧
  match e with
  | .start order => IsOrder order (diskNodes x.1.file) →
      HasExpired x.2 x.1.clock (diskRecord x.1.clock x.1.file x.1.log)
  | .failover => ∀ s ∈ x.1.standby, HasExpired x.2 x.1.clock s.nodes.get
  | _ => True

instance (E : NodeEnv) (x : World × Finset NodeId) (e : World.Event) :
    Decidable (KeepsDown E x e) := by
  unfold KeepsDown
  refine @instDecidableAnd _ _ inferInstance (@instDecidableAnd _ _ inferInstance
    (@instDecidableAnd _ _ inferInstance ?_))
  rcases e <;> infer_instance

/-! ## The expiry of a record -/

theorem keyExpired_of_le {now' : Time} (h : now ≤ now') {expiresAt : Time}
    (hexp : keyExpired expiresAt now = true) : keyExpired expiresAt now' = true := by
  simp only [keyExpired, Bool.and_eq_true, decide_eq_true_eq] at hexp ⊢
  exact ⟨hexp.1, lt_of_lt_of_le hexp.2 h⟩

theorem mem_nowExpired : id ∈ nowExpired w ↔
    ∃ n, w.live.nodes.get id = some n ∧ keyExpired n.keyMeta.expiresAt w.clock = true := by
  unfold nowExpired
  rw [Finset.mem_filter, GoMap.mem_keys]
  constructor
  · rintro ⟨-, hany⟩
    exact (Option.any_eq_true _ _).mp hany
  · rintro ⟨n, hn, hexp⟩
    exact ⟨⟨n, hn⟩, (Option.any_eq_true _ _).mpr ⟨n, hn, hexp⟩⟩

/-- The enterprise gate of `set_key_expiry` writes nothing. -/
theorem gate_live {msg : Msg} {c : Checked} {t : Option Time}
    (hf : w.runs e = some (.request msg c false)) (hc : c.setting = .keyExpiry t) :
    (w.step E e).live = w.live := by
  cases e with
  | go i order logged =>
    change w.flights[i]? = _ at hf
    simp only [World.step, hf, World.go, World.goRequest, hc]
    split <;> rfl
  | _ => cases hf

/-- No write but those that reset a node changes its expiry. -/
theorem Edited.expiresAt {n n' : NodeInfo} (h : Edited w id n e n')
    (hn : w.live.nodes.get id = some n) :
    n'.keyMeta.expiresAt = n.keyMeta.expiresAt ∨ w.resets e = some id ∨
      ∃ msg c t, w.runs e = some (.request msg c false) ∧ c.setting = .keyExpiry t := by
  cases h with
  | relisted op logged n' h =>
    rw [h]
    exact Or.inl rfl
  | set msg c gated nets hf hid =>
    subst hid
    obtain ⟨id, key, challenge, setting⟩ := c
    cases setting with
    | keyExpiry t =>
      right
      cases gated with
      | false => exact Or.inr ⟨msg, _, t, hf, rfl⟩
      | true => exact Or.inl (by simp [World.resets, hf, GoMap.has, hn])
    | _ => exact Or.inl rfl
  | _ => exact Or.inl rfl

/-! ## Last-seen times -/

theorem advances_self (x : Option NodeInfo) : advances x x = false := by
  cases x with
  | none => rfl
  | some n => simp [advances]

/-- Of the sections of heartbeats and registrations, those that store the
last-seen time. -/
theorem Edited.lastSeen {n n' : NodeInfo} (h : Edited w id n e n') (hf : w.runs e = some f)
    (hsign : f.signOfLife = true) : n'.getLastSeen = n.getLastSeen ∨
      w.refreshes e = some id ∨
      ∃ b key expiresAt now, f = .beat b (.held id) key expiresAt (.alive now) := by
  cases h with
  | relisted op logged n' h => cases hf
  | fast req key ext j hf' => exact Or.inr (Or.inl (by simp only [World.refreshes, hf']))
  | slow req key ext owner name hf' hid =>
    exact Or.inr (Or.inl (by simp only [World.refreshes, hf', hid]))
  | beat b key expiresAt now hf' =>
    cases hf.symm.trans hf'
    exact Or.inr (Or.inr ⟨b, key, expiresAt, now, rfl⟩)
  | set msg c gated nets hf' hid | rotated text key hf' | forced text key r hf' =>
    cases hf.symm.trans hf'
    cases hsign
  | _ => exact Or.inl rfl

/-! ## Expired nodes along a run -/

theorem willCount_mapRef {g : Ref → Ref} (hg : Detaches g)
    (h : (f.mapRef g).willCount now id = true) :
    f.willCount now id = true := by
  cases f with
  | beat b ref key expiresAt pulse =>
    cases hr : g ref with
    | gone n => simp [Flight.mapRef, hr, Flight.willCount] at h
    | held k =>
      obtain rfl := hg ref k hr
      simpa [Flight.mapRef, hr] using h
  | register req key ext stage => cases stage <;> cases h
  | _ => cases h

theorem willCount_of_le {now' : Time} (h : now ≤ now') (hf : f.willCount now' id = true) :
    f.willCount now id = true := by
  unfold Flight.willCount at hf ⊢
  split at hf
  · next j _ expiresAt =>
    simp only [Bool.and_eq_true, Bool.not_eq_true'] at hf ⊢
    refine ⟨hf.1, ?_⟩
    by_contra hexp
    rw [keyExpired_of_le h (by simpa using hexp)] at hf
    cases hf.2
  all_goals exact hf

/-- The records of the expired nodes have an expiry that has passed, and no
heartbeat of theirs that is in flight will count. -/
structure Down (x : World × Finset NodeId) : Prop where
  records : HasExpired x.2 x.1.clock x.1.live.nodes.get
  flights : ∀ id ∈ x.2, ∀ f ∈ x.1.flights, f.willCount x.1.clock id = false

theorem Down.records_step (h : Down x) (hkeeps : KeepsDown E x e) :
    HasExpired (expiryStep E x e).2 (expiryStep E x e).1.clock
      (expiryStep E x e).1.live.nodes.get := by
  obtain ⟨w, l⟩ := x
  intro id hid n' hn'
  change (w.step E e).live.nodes.get id = some n' at hn'
  show keyExpired n'.keyMeta.expiresAt (w.step E e).clock = true
  rcases Finset.mem_union.mp hid with hold | hnow
  · obtain ⟨hmem, hreset⟩ := Finset.mem_filter.mp hold
    refine keyExpired_of_le (step_clock E w e) ?_
    have hsame : ∀ n, w.live.nodes.get id = some n →
        keyExpired n.keyMeta.expiresAt w.clock = true := fun n hn => h.records id hmem n hn
    by_cases hrestart : w.restarts e
    · rcases restarts_live E hrestart with ⟨order, rfl, horder, hlive⟩ | ⟨rfl, hstandby⟩
      · have hdisk := boot_record w.clock horder w.log id
        rw [← hlive, hn'] at hdisk
        exact hkeeps.2.2.2 horder id hmem (core n') hdisk.symm
      · exact hkeeps.2.2.2 _ hstandby id hmem n' hn'
    · cases step_stands hrestart hn' with
      | kept hn => exact hsame n' hn
      | edited hn hedit =>
        rcases hedit.expiresAt hn with heq | hset | ⟨msg, c, t, hf, hc⟩
        · rw [heq]
          exact hsame _ hn
        · simp [hset] at hreset
        · rw [gate_live hf hc] at hn'
          exact hsame n' hn'
      | filed req key ext nets name hf hfiles => exact absurd hmem (hkeeps.2.1 _ hfiles)
  · obtain ⟨n, hn, hexp⟩ := mem_nowExpired.mp hnow
    cases hn.symm.trans hn'
    exact hexp

/-- A heartbeat that is launched has read the record. -/
theorem launched_willCount (h : Launched E w e f) (hexp : ∀ n, w.live.nodes.get id = some n →
      keyExpired n.keyMeta.expiresAt now = true) :
    f.willCount now id = false := by
  have hbeat : ∀ b j n, w.live.nodes.get j = some n →
      (Flight.beat b (.held j) n.publicKey n.keyMeta.expiresAt .due).willCount now id = false := by
    intro b j n hn
    by_cases hj : j = id
    · subst hj
      simp [Flight.willCount, hexp n hn]
    · simp [Flight.willCount, hj]
  cases h with
  | heartbeat msg n hn => exact hbeat _ _ n hn
  | binaryHeartbeat nodeID sig n hn => exact hbeat _ _ n hn
  | _ => rfl

theorem Down.flights_step (h : Down x) (hkeeps : KeepsDown E x e) :
    ∀ id ∈ (expiryStep E x e).2, ∀ f ∈ (expiryStep E x e).1.flights,
      f.willCount (expiryStep E x e).1.clock id = false := by
  obtain ⟨w, l⟩ := x
  intro id hid f' hf'
  change f' ∈ (w.step E e).flights at hf'
  show f'.willCount (w.step E e).clock id = false
  by_cases hrestart : w.restarts e
  · rw [flights_restarts E hrestart] at hf'
    cases hf'
  have hclock := step_clock E w e
  -- no heartbeat that was in flight counts, nor the next section of one
  have hbefore : ∀ f ∈ w.flights, f.willCount (w.step E e).clock id = false := by
    intro f hf
    by_cases hmem : id ∈ l
    · by_contra hcount
      have hcount := willCount_of_le hclock (Bool.not_eq_false _ ▸ hcount)
      rw [h.flights id hmem f hf] at hcount
      cases hcount
    · rcases Finset.mem_union.mp hid with hold | hnow
      · exact absurd (Finset.mem_filter.mp hold).1 hmem
      · exact hkeeps.2.2.1 hrestart id (Finset.mem_sdiff.mpr ⟨hnow, hmem⟩) f hf
  cases step_flight hf' with
  | kept f g hg hf =>
    by_contra hcount
    have hcount := willCount_mapRef hg (Bool.not_eq_false _ ▸ hcount)
    rw [hbefore f hf] at hcount
    cases hcount
  | launched f hl =>
    refine launched_willCount hl fun n hn => ?_
    rw [← launched_live hl] at hn
    exact h.records_step hkeeps id hid n hn
  | next f f' hf hnext =>
    cases hnext with
    | timed b ref key expiresAt =>
      have hfirst := hbefore _ (runs_mem hf)
      cases ref with
      | gone n => rfl
      | held j => simpa [Flight.willCount, runs_clock hf] using hfirst
    | skipped b j key expiresAt t _ hexp | checked b j key expiresAt t hexp =>
      -- it passed the check, so it would have counted before
      have hfirst := hbefore _ (runs_mem hf)
      simpa [Flight.willCount, hexp] using hfirst
    | signed b j key expiresAt t =>
      have hfirst := hbefore _ (runs_mem hf)
      simpa [Flight.willCount] using hfirst
    | _ => rfl

theorem Down.step (h : Down x) (hkeeps : KeepsDown E x e) : Down (expiryStep E x e) :=
  ⟨h.records_step hkeeps, h.flights_step hkeeps⟩

theorem staysDown_of (h : Down x) (hkeeps : KeepsDown E x e) : StaysDown E x e := by
  obtain ⟨w, l⟩ := x
  intro f hf hsign id hid
  have hrestart : ¬ w.restarts e := by
    cases e with
    | go i order logged => exact not_false
    | _ => cases hf
  cases hn' : (w.step E e).live.nodes.get id with
  | none => rfl
  | some n' =>
    cases step_stands hrestart hn' with
    | kept hn =>
      rw [show (w, l).1.live.nodes.get id = some n' from hn]
      exact advances_self _
    | edited hn hedit =>
      rcases hedit.lastSeen hf hsign with hsame | hrefreshes | ⟨b, key, expiresAt, now, rfl⟩
      · simp [advances, hn, hsame]
      · exact absurd hid (hkeeps.1 id hrefreshes)
      · have hcount := h.flights id hid _ (runs_mem hf)
        simp [Flight.willCount] at hcount
    | filed req key ext nets name hf' hfiles => exact absurd hid (hkeeps.2.1 _ hfiles)

/-- In every run in which no registration writes the record of an expired
node, no heartbeat that will count is in flight when its node's expiry
passes, and every start and failover finds the expiries: no heartbeat,
registration or reclaim advances the last-seen time of an expired node. -/
theorem expired_stays_down_runs (E : NodeEnv) (now : Time) (es : List World.Event)
    (h : Meets (expiryStep E) (KeepsDown E) (World.fresh now, ∅) es) :
    Meets (expiryStep E) (StaysDown E) (World.fresh now, ∅) es := by
  refine h.imp (expiryStep E) (P := Down) (fun x e hkeeps hx => hx.step hkeeps)
    (fun x e hkeeps hx => staysDown_of hx hkeeps) ⟨?_, ?_⟩
  · intro id hid
    simp at hid
  · intro id hid
    simp at hid

/-! ## A registration of an expired key -/

/-- Node 1 is in an enterprise network, and its key expires at second 1. -/
def expires : List World.Event :=
  registers ++ [.command (.createNetwork 0 (operatorMsg [("node_id", .num 1), ("name", .str "net"),
      ("enterprise", .bool true)])) true,
    .request .setKeyExpiry [("node_id", .num 1), ("expires_at", .str "t"),
      ("signature", .str "AAAA")],
    .go 0 [] true, .go 0 [] true]

/-- A heartbeat of node 1, from its lookup to its return. -/
def heartbeats : List World.Event :=
  [.heartbeat [("node_id", .num 1), ("signature", .str "AAAA")], .go 0 [] true, .go 0 [] true,
    .go 0 [] true]

theorem expired_stays_down_runs_refused :
    let es := expires ++ [.tick 2000000000] ++ heartbeats
    Meets (expiryStep .plain) (StaysDown .plain) (World.fresh 0, ∅) es ∧
      (run (expiryStep .plain) (World.fresh 0, ∅) es).2 = {1} :=
  ⟨expired_stays_down_runs .plain 0 _ (by decide +kernel), by decide +kernel⟩

/-- The key of node 1 has expired, and the node registers again: it is seen
now. -/
theorem expired_registers :
    let x := run (expiryStep .plain) (World.fresh 0, ∅)
      (expires ++ [.tick 2000000000] ++ registers)
    x.2 = {1} ∧ (x.1.live.nodes.get 1).map NodeInfo.getLastSeen = some 0 ∧
      ¬ StaysDown .plain x (.go 0 [] true) ∧
      ((x.1.step .plain (.go 0 [] true)).live.nodes.get 1).map NodeInfo.getLastSeen =
        some 2000000000 := by
  decide +kernel

end Rendezvous.Lifecycle

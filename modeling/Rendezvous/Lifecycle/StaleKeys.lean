import Rendezvous.Lifecycle.Flights

/-!
# Requests signed with a key that was replaced

A request signed with a node's key is checked in one section and committed
in a later one. In between another request may replace the key. The commit
does not look at the key again, so the request changes the state although
its signature is no longer one of the node's key. It does not when no step
gives the node another key while such a request is in flight.

`rotate_key` does look again: its commit is refused when the key is not the
one the request was checked under.
-/

namespace Rendezvous.Lifecycle

open Base Registry Authz Rendezvous.Membership Directory Identity Recovery

variable {w : World} {e : World.Event}

/-! ## What a request must carry -/

/-- The message's signature verifies under the key. The commands of package
`identity` that no token authorises read and verify it themselves. -/
def Checked.verifies (E : NodeEnv) (msg : Msg) (c : Checked) (key : Bytes) : Bool :=
  let check := if c.setting.keyOnly then E.verify else E.verifyCached
  let decode := if c.setting.keyOnly then base64Decode else Base64.decode
  msg.str "signature" ≠ "" && (decode (msg.str "signature")).any fun sig =>
    check key (utf8 c.challenge) sig

/-- The request is authorised by the admin token. -/
def Checked.byToken (E : NodeEnv) (msg : Msg) (c : Checked) : Bool :=
  !c.setting.keyOnly && decide (HasAdminToken E.toEnv msg)

/-- A request that is not authorised by the admin token changes the state
only if its signature verifies under the key the node has. -/
def SignedByCurrentKey (E : NodeEnv) (w : World) (e : World.Event) : Prop :=
  match w.runs e with
  | some (.request msg c _) =>
    ((w.step E e).live = w.live ∧ (w.step E e).log = w.log) ∨ c.byToken E msg = true ∨
      ((w.live.nodes.get c.nodeID).any fun n => c.verifies E msg n.publicKey) = true
  | _ => True

instance (E : NodeEnv) (w : World) (e : World.Event) : Decidable (SignedByCurrentKey E w e) := by
  unfold SignedByCurrentKey
  rcases w.runs e with - | f
  · infer_instance
  · rcases f <;> infer_instance

/-! ## The key a step gives -/

/-- The node an event gives a key to, and the key: a rotation or a recovery
that commits, and a registration that files a record. -/
def World.givesKey (E : NodeEnv) (w : World) (e : World.Event) : Option (NodeId × Bytes) :=
  match w.runs e with
  | some (.rotate id _ key expected) =>
    if (w.live.nodes.get id).any fun n => n.publicKey = expected then some (id, key)
    else none
  | some (.force id _ key _) => some (id, key)
  | _ => w.files E e

/-- A request on the node in flight, if it is not authorised by the admin
token, was checked under the key. -/
def Flight.checkedUnder (E : NodeEnv) (id : NodeId) (key : Bytes) : Flight → Prop
  | .request msg c _ => c.nodeID = id → c.byToken E msg = true ∨ c.key = key
  | _ => True

instance (E : NodeEnv) (id : NodeId) (key : Bytes) (f : Flight) :
    Decidable (f.checkedUnder E id key) := by
  unfold Flight.checkedUnder
  split <;> infer_instance

/-- The step gives no node another key than the one a request in flight was
checked under. -/
def KeepsCheckedKeys (E : NodeEnv) (w : World) (e : World.Event) : Prop :=
  match w.givesKey E e with
  | some (id, key) => ∀ f ∈ w.flights, f.checkedUnder E id key
  | none => True

instance (E : NodeEnv) (w : World) (e : World.Event) : Decidable (KeepsCheckedKeys E w e) := by
  unfold KeepsCheckedKeys
  split <;> infer_instance

/-! ## The checks -/

section

variable {E : NodeEnv} {s : Server} {msg : Msg} {c : Checked}

/-- What a check found: the node, its key, and a signature under it or the
admin token. -/
structure Vetted (E : NodeEnv) (s : Server) (msg : Msg) (c : Checked) : Prop where
  holds : ∃ n, s.nodes.get c.nodeID = some n ∧ n.publicKey = c.key
  signed : c.byToken E msg = true ∨ c.verifies E msg c.key = true

theorem checkSigned_vetted {id : NodeId} {absent challenge : String} {setting : Setting}
    (hset : setting.keyOnly = false)
    (h : checkSigned E s msg id absent challenge setting = .ok c) : Vetted E s msg c := by
  simp only [checkSigned, bind_eq_ok, orFail_eq_ok, pure_eq_ok] at h
  obtain ⟨n, hn, u, hsig, rfl⟩ := h
  refine ⟨⟨n, hn, rfl⟩, ?_⟩
  rcases (signedOrAdmin_ok E.toEnv n msg challenge).mp hsig with
    ⟨hne, sig, hdec, hver⟩ | htoken
  · right
    simp [Checked.verifies, hset, hne, hdec, hver]
  · left
    simp [Checked.byToken, hset, htoken]

theorem checkKeyHeld_vetted {challenge : String} {setting : Setting} {key : Bytes}
    (hset : setting.keyOnly = true) (h : checkKeyHeld E s msg challenge = .ok key) :
    Vetted E s msg ⟨jsonUint32 msg "node_id", key, challenge, setting⟩ := by
  simp only [checkKeyHeld, verifyNodeSig, bind_eq_ok, orFail_eq_ok, require_eq_ok,
    pure_eq_ok, decide_eq_true_eq] at h
  obtain ⟨_, ⟨_, hne, n, hn, sig, hdec, hver⟩, n', hn', rfl⟩ := h
  obtain rfl : n = n' := Option.some.inj (hn.symm.trans hn')
  refine ⟨⟨n, hn, rfl⟩, Or.inr ?_⟩
  simp [Checked.verifies, hset, hne, hdec, hver]

theorem check_vetted {now : Time} {command : Command}
    (h : command.check E now s msg = .ok c) : Vetted E s msg c := by
  rcases command.check_ok h with ⟨_, _, _, _, hsigned, hset, -⟩ | ⟨_, _, _, hset, hkey, rfl⟩
  · exact checkSigned_vetted hset hsigned
  · exact checkKeyHeld_vetted hset hkey

end

/-! ## Keys along a run -/

/-- A write to a record keeps its key, or gives it one. -/
theorem Edited.publicKey (E : NodeEnv) {id : NodeId} {n n' : NodeInfo} (h : Edited w id n e n')
    (hn : w.live.nodes.get id = some n) :
    n'.publicKey = n.publicKey ∨ w.givesKey E e = some (id, n'.publicKey) := by
  cases h with
  | relisted op logged n' h =>
    left
    rw [h]
  | set msg c gated nets hf hid =>
    left
    obtain ⟨_, _, _, setting⟩ := c
    cases setting <;> rfl
  | rotated text key hf =>
    right
    simp [World.givesKey, hf, hn, Identity.rotated]
  | forced text key r hf =>
    right
    simp only [World.givesKey, hf]
    rfl
  | _ => exact Or.inl rfl

/-- After a step of one process, a record has the key it had, or the one
the step gave it. -/
theorem step_publicKey (E : NodeEnv) {id : NodeId} {n' : NodeInfo} (hsame : ¬ w.restarts e)
    (h : (w.step E e).live.nodes.get id = some n') :
    (∃ n, w.live.nodes.get id = some n ∧ n.publicKey = n'.publicKey) ∨
      w.givesKey E e = some (id, n'.publicKey) := by
  cases step_stands hsame h with
  | kept hn => exact Or.inl ⟨n', hn, rfl⟩
  | edited hn hedit =>
    rcases hedit.publicKey E hn with hkey | hgives
    · exact Or.inl ⟨_, hn, hkey.symm⟩
    · exact Or.inr hgives
  | filed req key ext nets name hf hid =>
    right
    simp only [World.givesKey, hf]
    exact hid

/-- Every request in flight that is not authorised by the admin token
carries a signature under the key its node has. -/
def RequestsCurrent (E : NodeEnv) (w : World) : Prop :=
  ∀ msg c gated, Flight.request msg c gated ∈ w.flights → c.byToken E msg = true ∨
    c.verifies E msg c.key = true ∧ ∀ n, w.live.nodes.get c.nodeID = some n → n.publicKey = c.key

theorem requestsCurrent_step {E : NodeEnv} (hkeys : KeepsCheckedKeys E w e)
    (h : RequestsCurrent E w) :
    RequestsCurrent E (w.step E e) := by
  intro msg c gated hmem
  by_cases hrestart : w.restarts e
  · rw [flights_restarts E hrestart] at hmem
    cases hmem
  -- a request that was in flight before the step keeps its check
  have hold : ∀ gated', Flight.request msg c gated' ∈ w.flights →
      c.byToken E msg = true ∨ c.verifies E msg c.key = true ∧
        ∀ n, (w.step E e).live.nodes.get c.nodeID = some n → n.publicKey = c.key := by
    intro gated' hmem'
    by_cases htoken : c.byToken E msg = true
    · exact Or.inl htoken
    rcases h msg c gated' hmem' with htoken' | ⟨hver, hcur⟩
    · exact Or.inl htoken'
    · refine Or.inr ⟨hver, fun n' hn' => ?_⟩
      rcases step_publicKey E hrestart hn' with ⟨n, hn, hkey⟩ | hgives
      · rw [← hkey, hcur n hn]
      · unfold KeepsCheckedKeys at hkeys
        rw [hgives] at hkeys
        rcases hkeys _ hmem' rfl with htoken' | hkey
        · exact absurd htoken' htoken
        · exact hkey.symm
  have hfollows := step_flight hmem
  generalize hf' : Flight.request msg c gated = f' at hfollows
  cases hfollows with
  | kept f g hg hf =>
    cases f with
    | request msg' c' gated' =>
      obtain ⟨rfl, rfl, rfl⟩ := Flight.request.inj hf'
      exact hold _ hf
    | register req key ext stage => cases stage <;> cases hf'
    | _ => cases hf'
  | launched f hl =>
    cases hl with
    | request command msg' c' hc =>
      obtain ⟨rfl, rfl, -⟩ := Flight.request.inj hf'
      obtain ⟨⟨n, hn, hkey⟩, hsigned⟩ := check_vetted hc
      refine hsigned.imp_right fun hver => ⟨hver, fun n' hn' => ?_⟩
      rcases step_publicKey E hrestart hn' with ⟨n₀, hn₀, hkey₀⟩ | hgives
      · obtain rfl : n = n₀ := Option.some.inj (hn.symm.trans hn₀)
        rw [← hkey₀, hkey]
      · cases hgives
    | _ => cases hf'
  | next f f' hf hnext =>
    cases hnext with
    | gated msg' c' =>
      obtain ⟨rfl, rfl, -⟩ := Flight.request.inj hf'
      exact hold _ (runs_mem hf)
    | _ => cases hf'

/-- A commit that changes the state found its node. -/
theorem signedByCurrentKey_of {E : NodeEnv} (h : RequestsCurrent E w) :
    SignedByCurrentKey E w e := by
  unfold SignedByCurrentKey
  split
  · next msg c gated hf =>
    cases e with
    | go i order logged =>
      have hi : w.flights[i]? = some (.request msg c gated) := hf
      rcases h msg c gated (runs_mem hf) with htoken | ⟨hver, hcur⟩
      · exact Or.inr (Or.inl htoken)
      · simp only [World.step, hi, World.go]
        unfold World.goRequest
        split
        · left
          split <;> exact ⟨rfl, rfl⟩
        · split
          · next o ho =>
            obtain ⟨n, nets, hn, -⟩ := (commit_commits ho).writes
            refine Or.inr (Or.inr ?_)
            rw [hn]
            show c.verifies E msg n.publicKey = true
            rw [hcur n hn, hver]
          · exact Or.inl ⟨rfl, rfl⟩
    | _ => cases hf
  · trivial

/-- In every interleaving in which no step gives a node another key than
the one a request in flight on it was checked under, a request that is not
authorised by the admin token changes the state only if its signature
verifies under the key its node has then. -/
theorem requests_signed_by_current_key (E : NodeEnv) (now : Time)
    (es : List World.Event)
    (h : Meets (World.step E) (KeepsCheckedKeys E) (World.fresh now) es) :
    Meets (World.step E) (SignedByCurrentKey E) (World.fresh now) es := by
  refine h.imp (World.step E) (P := RequestsCurrent E)
    (fun w e hkeys hw => requestsCurrent_step hkeys hw)
    (fun w e _ hw => signedByCurrentKey_of hw) ?_
  intro msg c gated hmem
  cases hmem

/-! ## A badge of the old key -/

/-- A badge for node 1, signed with the key `AAAA`. -/
def badgeMsg : Msg :=
  [("node_id", .num 1), ("badge", .str "b"), ("badge_sig", .str "s"), ("signature", .str "AAAA")]

theorem requests_signed_by_current_key_badge :
    Meets (World.step .plain) (SignedByCurrentKey .plain) (World.fresh 0)
        (registers ++ [.request .submitBadge badgeMsg, .go 0 [0] true]) ∧
      ((run (World.step .plain) (World.fresh 0)
        (registers ++ [.request .submitBadge badgeMsg, .go 0 [0] true])).live.nodes.get
          1).map NodeInfo.badge = some "b" :=
  ⟨requests_signed_by_current_key .plain 0 _ (by decide +kernel), by decide +kernel⟩

/-- The badge is checked, the node is recovered with the key `AAAB`, and
then the badge is stored. -/
theorem old_key_badge_stored :
    let w := run (World.step .plain) (World.fresh 0) (registers ++ enrolls ++
      [.request .submitBadge badgeMsg] ++ recovers 1 "A" "AAAB")
    (w.live.nodes.get 1).map NodeInfo.publicKey = some [0, 0, 1] ∧
      w.flights.length = 1 ∧ ¬ SignedByCurrentKey .plain w (.go 0 [0] true) ∧
      ((w.step .plain (.go 0 [0] true)).live.nodes.get 1).map NodeInfo.badge = some "b" := by
  decide +kernel

end Rendezvous.Lifecycle

import Rendezvous.Base.Run
import Rendezvous.Identity.Allocation

/-!
# Which key a node id is bound to

A run of the registry is any sequence of registrations, reaping,
deregistrations, rotations, enrollments and recoveries. Between two
moments at which a node id is registered under different keys, some step
rebound it (`key_change_sanctioned`): a rotation signed under the key
bound at that moment, a recovery that matches the enrolled commitment, or
a registration that reclaimed the id while no node was registered there.

The last case is deliberate: after its node is gone, an id is reclaimed by
a key the index still maps to it, and by its owner's name with any key
(`owner_reclaims_reaped`). While a node is registered, no registration
changes its key.
-/

namespace Rendezvous.Identity

open Base Registry Directory

/-! ## Runs -/

/-- The requests and events that touch node records. -/
inductive Op where
  | register (now : Time) (order : List NetId) (remoteAddr : String) (msg : Msg)
  | reap (threshold : Time) (chunk : List NodeId)
  | deregister (msg : Msg)
  | rotateKey (now : Time) (msg : Msg)
  | enrollRecovery (msg : Msg)
  | recoverIdentity (now : Time) (msg : Msg)

/-- The state a handler leaves: a refused request changes nothing. -/
def serverAfter (s : Server) : Except String Outcome → Server
  | .ok o => o.server
  | .error _ => s

/-- One step of the registry. -/
def step (E : Env) (s : Server) : Op → Server
  | .register now order remoteAddr msg =>
    serverAfter s (handleRegister E now order remoteAddr s msg)
  | .reap threshold chunk => reapStaleNodes threshold chunk s
  | .deregister msg => serverAfter s (handleDeregister E s msg)
  | .rotateKey now msg => serverAfter s (handleRotateKey E now s msg)
  | .enrollRecovery msg => serverAfter s (handleEnrollRecovery E s msg)
  | .recoverIdentity now msg => (handleRecoverIdentity E now s msg).1

theorem idEffect_step (E : Env) (s : Server) (op : Op) : IdEffect s (step E s op) := by
  -- A refused request is quiet.
  have hserver : ∀ r : Except String Outcome,
      (∀ o, r = .ok o → IdEffect s o.server) → IdEffect s (serverAfter s r) := by
    intro r hr
    cases r with
    | error e => exact .quiet (Quiet.refl s)
    | ok o => exact hr o rfl
  cases op with
  | register now order remoteAddr msg =>
    exact hserver _ fun o ho => idEffect_register ho
  | reap threshold chunk => exact .quiet (quiet_reap threshold chunk s)
  | deregister msg => exact hserver _ fun o ho => .quiet (quiet_deregister ho)
  | rotateKey now msg =>
    refine hserver _ fun o ho => ?_
    obtain ⟨key, n, -, -, hnode, -, heq, -⟩ := handleRotateKey_cases ho
    rw [heq]
    exact idEffect_commitKey s hnode _ _ s.consumedNonces
  | enrollRecovery msg =>
    exact hserver _ fun o ho => .quiet (quiet_enrollRecovery ho)
  | recoverIdentity now msg =>
    show IdEffect s (handleRecoverIdentity E now s msg).1
    rcases handleRecoverIdentity_cases E now s msg with
      ⟨ledger, e, heq⟩ | ⟨r, n, key, ledger, resp, hcheck, heq⟩
    · rw [heq]
      exact .quiet (.of_sameBindings ⟨rfl, rfl, rfl⟩ fun j => Or.inl rfl)
    · rw [heq]
      have hnode := (checkRecovery_ok hcheck).1
      exact idEffect_commitKey s hnode _ _ ledger

/-! ## The steps that rebind -/

/-- A registration for `id` while no node is registered there: the key
index maps its key to `id`, or the key is unknown and the owner index maps
its owner to `id`. -/
def Reclaims (s : Server) (id : NodeId) (msg : Msg) : Prop :=
  s.nodes.get id = none ∧ (s.pubKeyIdx.get (msg.str "public_key") = some id ∨
      s.pubKeyIdx.get (msg.str "public_key") = none ∧
        msg.str "owner" ≠ "" ∧ s.ownerIdx.get (msg.str "owner") = some id)

/-- The steps that may give `id` a key it did not have. -/
inductive Sanctioned (E : Env) (s : Server) (id : NodeId) : Op → Prop where
  | rotated (now : Time) (msg : Msg) (n : NodeInfo)
      (hid : jsonUint32 msg "node_id" = id) (hnode : s.nodes.get id = some n)
      (hsigned : SignedRotation E msg n.publicKey) :
      Sanctioned E s id (.rotateKey now msg)
  | recovered (now : Time) (msg : Msg) (n : NodeInfo)
      (hid : jsonUint32 msg "node_id" = id) (hnode : s.nodes.get id = some n)
      (hmatch : MatchingRecovery E msg n) :
      Sanctioned E s id (.recoverIdentity now msg)
  | reclaimed (now : Time) (order : List NetId) (remoteAddr : String)
      (msg : Msg) (hreclaims : Reclaims s id msg) :
      Sanctioned E s id (.register now order remoteAddr msg)

theorem register_sanctioned {E : Env} {now : Time} {order : List NetId}
    {remoteAddr : String} {s : Server} {msg : Msg} {o : Outcome} {id : NodeId}
    (h : handleRegister E now order remoteAddr s msg = .ok o)
    (halloc : Allocated s id) (hkey : keyOf o.server id ≠ keyOf s id) :
    Reclaims s id msg := by
  obtain ⟨req, key, o', htext, -, howner, -, hbranch, -, htop⟩ := handleRegister_branch h
  have hkey' : keyOf o'.server id ≠ keyOf s id := by
    rwa [htop.same (keyOf · id) fun s j ext => keyOf_setExternalID s j ext id] at hkey
  generalize respNode o.resp = id' at hbranch
  unfold Reclaims
  rw [htext, howner]
  -- Only the branch's own id can have got another key.
  cases hbranch with
  | known _ n hidx hnode =>
    exact absurd (keyOf_refreshKnown E now s req hnode id) hkey'
  | byKey _ hidx hgone =>
    rw [keyOf_reclaimByKey] at hkey'
    obtain rfl : id = id' := by
      by_contra hne
      exact hkey' (if_neg hne)
    exact ⟨hgone, Or.inl hidx⟩
  | byOwner _ hidx hne hown hgone =>
    rw [keyOf_reclaimByOwner] at hkey'
    obtain rfl : id = id' := by
      by_contra hne
      exact hkey' (if_neg hne)
    exact ⟨hgone, Or.inr ⟨hidx, hne, hown⟩⟩
  | new _ hidx hown hfree hnew =>
    rw [keyOf_registerNew hnew] at hkey'
    obtain rfl : id = s.nextNode := by
      by_contra hne
      exact hkey' (if_neg hne)
    -- A new id has not been handed out before.
    rcases halloc.2 with hzero | hlt
    · exact absurd hzero hfree
    · exact absurd hlt (UInt32.lt_irrefl _)

/-- A step that gives an id another key is one of the sanctioned ones. -/
theorem step_sanctioned {E : Env} {s : Server} {op : Op} {id : NodeId}
    (halloc : Allocated s id) (hsome : keyOf (step E s op) id ≠ none)
    (hkey : keyOf (step E s op) id ≠ keyOf s id) : Sanctioned E s id op := by
  cases op with
  | register now order remoteAddr msg =>
    simp only [step] at hkey
    cases hr : handleRegister E now order remoteAddr s msg with
    | error e => exact absurd (by rw [hr]; rfl) hkey
    | ok o =>
      rw [hr] at hkey
      exact .reclaimed _ _ _ msg (register_sanctioned hr halloc hkey)
  | reap threshold chunk =>
    rcases (quiet_reap threshold chunk s).nodes id with heq | hnone
    · exact absurd heq hkey
    · exact absurd hnone hsome
  | deregister msg =>
    simp only [step] at hkey hsome
    cases hr : handleDeregister E s msg with
    | error e => exact absurd (by rw [hr]; rfl) hkey
    | ok o =>
      rw [hr] at hkey hsome
      rcases (quiet_deregister hr).nodes id with heq | hnone
      · exact absurd heq hkey
      · exact absurd hnone hsome
  | enrollRecovery msg =>
    simp only [step] at hkey hsome
    cases hr : handleEnrollRecovery E s msg with
    | error e => exact absurd (by rw [hr]; rfl) hkey
    | ok o =>
      rw [hr] at hkey hsome
      rcases (quiet_enrollRecovery hr).nodes id with heq | hnone
      · exact absurd heq hkey
      · exact absurd hnone hsome
  | rotateKey now msg =>
    simp only [step] at hkey
    cases hr : handleRotateKey E now s msg with
    | error e => exact absurd (by rw [hr]; rfl) hkey
    | ok o =>
      obtain ⟨key, n, -, -, hnode, hsigned, heq, -⟩ := handleRotateKey_cases hr
      rw [hr, serverAfter, heq, keyOf_commitKey] at hkey
      obtain rfl : id = jsonUint32 msg "node_id" := by
        by_contra hne
        exact hkey (if_neg hne)
      exact .rotated now msg n rfl hnode hsigned
  | recoverIdentity now msg =>
    simp only [step] at hkey
    rcases handleRecoverIdentity_cases E now s msg with
      ⟨ledger, e, heq⟩ | ⟨r, n, key, ledger, resp, hcheck, heq⟩
    · rw [heq] at hkey
      exact absurd rfl hkey
    · rw [heq, keyOf_commitKey] at hkey
      obtain rfl : id = jsonUint32 msg "node_id" := by
        by_contra hne
        exact hkey (if_neg hne)
      obtain ⟨hnode, -, -, hmatch⟩ := checkRecovery_ok hcheck
      exact .recovered now msg n rfl hnode hmatch

/-! ## Whole runs -/

theorem idsAllocated_run (E : Env) (now : Time) (ops : List Op) :
    IdsAllocated (run (step E) (freshServer now) ops) :=
  run_invariant (step E) (fun s op hs => (idEffect_step E s op).idsAllocated hs)
    ops (idsAllocated_freshServer now)

/-- In every run of the registry: where the key of an id differs between
two moments at which a node is registered there, a sanctioned step in
between gave it another key. -/
theorem key_change_sanctioned (E : Env) (now : Time) (as bs : List Op)
    (id : NodeId) (k k' : Bytes)
    (hbefore : keyOf (run (step E) (freshServer now) as) id = some k)
    (hafter : keyOf (run (step E) (freshServer now) (as ++ bs)) id = some k')
    (hne : k' ≠ k) :
    ∃ xs op ys, bs = xs ++ op :: ys ∧
      let s := run (step E) (freshServer now) (as ++ xs)
      keyOf (step E s op) id ≠ none ∧ keyOf (step E s op) id ≠ keyOf s id ∧
        Sanctioned E s id op := by
  -- Follow the run from the first moment while the id has key `k` or none.
  let Keeps (s : Server) : Prop := keyOf s id = none ∨ keyOf s id = some k
  rw [run_append] at hafter
  have hlost : ¬ Keeps (run (step E) (run (step E) (freshServer now) as) bs) := by
    rintro (hnone | hsome)
    · rw [hafter] at hnone
      cases hnone
    · rw [hafter] at hsome
      exact hne (Option.some.inj hsome)
  obtain ⟨xs, op, ys, hbs, hkeeps, hstep⟩ :=
    exists_first_change (step E) (P := Keeps) (Or.inr hbefore) hlost
  refine ⟨xs, op, ys, hbs, ?_⟩
  rw [← run_append] at hkeeps hstep
  have hsome := fun h => hstep (Or.inl h)
  have hchange : keyOf (step E (run (step E) (freshServer now) (as ++ xs)) op) id ≠
      keyOf (run (step E) (freshServer now) (as ++ xs)) id := by
    intro heq
    apply hstep
    rcases hkeeps with hnone | hk
    · exact Or.inl (heq.trans hnone)
    · exact Or.inr (heq.trans hk)
  -- The id was registered at the first moment, so it stays handed out.
  have halloc : Allocated (run (step E) (freshServer now) (as ++ xs)) id := by
    rw [run_append]
    apply run_invariant (step E) (P := fun s => Allocated s id)
    · intro s op hs
      exact (idEffect_step E s op).allocated hs
    · apply (idsAllocated_run E now as).nodes id
      rw [hbefore]
      simp
  exact ⟨hsome, hchange, step_sanctioned halloc hsome hchange⟩

/-- A registration of a key for an owner. -/
def registerMsg (publicKey owner : String) : Msg :=
  [("public_key", .str publicKey), ("owner", .str owner)]

/-- The first registration of an owner, at time one. -/
def firstRegistration : List Op :=
  [.register 1 [] "" (registerMsg "AAAA" "alice")]

/-- The node goes stale and is reaped, and its owner comes back with
another key. -/
def reapedThenReclaimed : List Op :=
  [.reap 2 [1], .register 3 [] "" (registerMsg "BBBB" "alice")]

/-- A sanctioned step other than a registration need not exist: an owner's
name alone rebinds the id of its reaped node. -/
theorem owner_reclaims_reaped :
    ¬ ∀ (E : Env) (now : Time) (as bs : List Op) (id : NodeId) (k k' : Bytes),
      keyOf (run (step E) (freshServer now) as) id = some k →
      keyOf (run (step E) (freshServer now) (as ++ bs)) id = some k' →
      k' ≠ k →
      ∃ xs op ys, bs = xs ++ op :: ys ∧
        Sanctioned E (run (step E) (freshServer now) (as ++ xs)) id op ∧
        ∀ now order remoteAddr msg, op ≠ .register now order remoteAddr msg := by
  intro h
  obtain ⟨xs, op, ys, hsplit, hop, hnot⟩ := h .plain 0 firstRegistration
    reapedThenReclaimed 1 [0, 0, 0] [4, 16, 65] (by decide) (by decide) (by decide)
  have hmem : op ∈ reapedThenReclaimed := by simp [hsplit]
  simp only [reapedThenReclaimed, List.mem_cons, List.not_mem_nil, or_false] at hmem
  rcases hmem with rfl | rfl
  · cases hop
  · exact hnot _ _ _ _ rfl

theorem key_change_sanctioned_reclaimed : ∃ xs op ys, reapedThenReclaimed = xs ++ op :: ys ∧
      let s := run (step .plain) (freshServer 0) (firstRegistration ++ xs)
      keyOf (step .plain s op) 1 ≠ none ∧ keyOf (step .plain s op) 1 ≠ keyOf s 1 ∧
        Sanctioned .plain s 1 op :=
  key_change_sanctioned .plain 0 firstRegistration reapedThenReclaimed 1
    [0, 0, 0] [4, 16, 65] (by decide) (by decide) (by decide)

end Rendezvous.Identity

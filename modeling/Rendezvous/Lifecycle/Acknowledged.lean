import Rendezvous.Lifecycle.Flights

/-!
# Registrations that are acknowledged

A registration is answered after the section that writes its record. The
slow path writes under the lock of the directory. The fast path writes
through a pointer it got in an earlier section, and the reaper and a
deregistration may take the record out of the directory in between.

`registrations_acknowledged` says, for every interleaving of registrations,
sweeps of the reaper and deregistrations in which no record leaves between
the two sections, that a node is registered under the key of the request
and with its endpoint when it is answered.
-/

namespace Rendezvous.Lifecycle

open Base Registry Authz Rendezvous.Membership Directory Identity

variable {s : Server} {req : RegisterReq} {key : Bytes} {id : NodeId} {E : NodeEnv} {now : Time}
  {order : List NetId} {o : Outcome} {text ext : String} {w : World} {i : Nat} {f : Flight}
  {stage : Stage} {e : World.Event}

/-! ## What an answer promises -/

/-- The events of registrations, of the reaper and of deregistrations. -/
def World.Event.directory : World.Event → Bool
  | .tick _ | .register _ _ | .deregister _ _ | .scan _ _ | .go _ _ _ => true
  | _ => false

/-- The registration that is answered after the section the event runs, and
the node id of the answer. -/
def World.acknowledges (E : NodeEnv) (w : World) :
    World.Event → Option (RegisterReq × Bytes × NodeId)
  | .go i order _ =>
    match w.flights[i]? with
    | some (.register req key _ (.fast id _)) => some (req, key, id)
    | some (.register req key _ .slow) =>
      if w.live.networks.Enumerates order then
        match slowPath E.toEnv w.clock order w.live req key with
        | .ok o => some (req, key, respNode o.resp)
        | .error _ => none
      else none
    | _ => none
  | _ => none

/-- The section writes to a record that is not in the directory any more. -/
def World.writesGone (w : World) (e : World.Event) : Bool :=
  match w.runs e with
  | some (.register _ _ _ (.fast _ (.gone _))) => true
  | _ => false

/-- The node is registered under the key of the request, with its
endpoint. -/
def Registered (s : Server) (req : RegisterReq) (key : Bytes) (id : NodeId) : Prop :=
  s.pubKeyIdx.get req.publicKey = some id ∧
    ∃ n, s.nodes.get id = some n ∧ n.publicKey = key ∧ n.realAddr = req.listenAddr

/-- The record that a registration is about to write has its key, and on the
fast path it has not left since it was looked up. -/
def KeepsRecord (w : World) (e : World.Event) : Prop :=
  match w.runs e with
  | some (.register _ key _ (.fast id (.held _))) => keyOf w.live id = some key
  | some (.register _ _ _ (.fast _ (.gone _))) => False
  | some (.register req key _ .slow) =>
    ∀ k ∈ (w.live.pubKeyIdx.get req.publicKey).bind (keyOf w.live), k = key
  | _ => True

instance (w : World) (e : World.Event) : Decidable (KeepsRecord w e) := by
  unfold KeepsRecord
  split <;> infer_instance

/-! ## The slow path -/

theorem registered_setNodeHostname (h : Registered s req key id) (j : NodeId) (hostname : String) :
    Registered (setNodeHostname s j hostname).1 req key id := by
  obtain ⟨hidx, n, hn, hkey, haddr⟩ := h
  obtain ⟨name, hget⟩ := setNodeHostname_get s j hostname id
  rw [hn] at hget
  exact ⟨by rwa [setNodeHostname_pubKeyIdx], _, hget, hkey, haddr⟩

theorem registered_fileNode (hidx : s.pubKeyIdx.get req.publicKey = some id) (nets : List NetId)
    (now : Time) (hostname : String) :
    Registered (fileNode s id (freshNode req key nets now) hostname).1 req key id := by
  have hfiled : Registered (addNodeToBackbone { s with
      nodes := s.nodes.set id (freshNode req key nets now) } id) req key id :=
    ⟨hidx, _, GoMap.get_set_self _ _ _, rfl, rfl⟩
  exact registered_setNodeHostname hfiled id hostname

theorem slowRefresh_registers (E : Env) (now : Time) {n : NodeInfo}
    (hidx : s.pubKeyIdx.get req.publicKey = some id) :
    Registered (slowRefresh E now s req id n).server req n.publicKey id := by
  refine registered_setNodeHostname ?_ id req.hostname
  split
  · refine ⟨by rwa [indexOwner_pubKeyIdx], ?_⟩
    rw [indexOwner_nodes]
    exact ⟨_, GoMap.get_set_self _ _ _, rfl, rfl⟩
  · exact ⟨hidx, _, GoMap.get_set_self _ _ _, rfl, rfl⟩

theorem slowRefresh_pubKeyIdx (E : Env) (now : Time) (s : Server) (req : RegisterReq)
    (id : NodeId) (n : NodeInfo) :
    (slowRefresh E now s req id n).server.pubKeyIdx = s.pubKeyIdx := by
  unfold slowRefresh
  simp only [setNodeHostname_pubKeyIdx]
  split
  · rw [indexOwner_pubKeyIdx]
  · rfl

/-- Where the slow path ends: the record is refreshed, or a fresh one is
filed under an id, which is the one the key led to, if it led to any. -/
theorem slowPath_cases {E : Env} (h : slowPath E now order s req key = .ok o) :
    (∃ id n, s.pubKeyIdx.get req.publicKey = some id ∧ s.nodes.get id = some n ∧
      o = slowRefresh E now s req id n) ∨
    ∃ id, Registered o.server req key id ∧ respNode o.resp = id ∧
      (o.server.pubKeyIdx = s.pubKeyIdx ∨ s.pubKeyIdx.get req.publicKey = none ∧
        o.server.pubKeyIdx = s.pubKeyIdx.set req.publicKey id) := by
  cases slowPath_end h with
  | refreshed id n hidx hn => exact Or.inl ⟨id, n, hidx, hn, rfl⟩
  | byKey id hidx hid hknown =>
    refine Or.inr ⟨id, ?_, respNode_registerResp E id req.publicKey _, Or.inl ?_⟩
    · exact registered_fileNode (by rwa [indexOwner_pubKeyIdx]) _ now req.hostname
    · exact (reclaimByKey_indices E now order s req id key).1
  | new o hidx hid hknown h =>
    refine Or.inr ⟨s.nextNode, ?_, ?_, Or.inr ⟨hidx, (registerNew_indices h).1⟩⟩
    · rw [registerNew_server h]
      refine registered_fileNode ?_ _ now req.hostname
      rw [indexOwner_pubKeyIdx]
      exact GoMap.get_set_self _ _ _
    · simp only [registerNew, bind_eq_ok, pure_eq_ok] at h
      obtain ⟨_, _, _, _, rfl⟩ := h
      exact respNode_registerResp E s.nextNode req.publicKey _
  | byOwner id hidx hne hown hid hknown =>
    refine Or.inr ⟨id, ?_, respNode_registerResp E id req.publicKey _,
      Or.inr ⟨hidx, (reclaimByOwner_indices E now s req id key).1⟩⟩
    exact registered_fileNode (GoMap.get_set_self _ _ _) _ now req.hostname

theorem slowPath_registers {E : Env} (h : slowPath E now order s req key = .ok o)
    (hkeys : ∀ k ∈ (s.pubKeyIdx.get req.publicKey).bind (keyOf s), k = key) :
    Registered o.server req key (respNode o.resp) := by
  rcases slowPath_cases h with ⟨id, n, hidx, hn, rfl⟩ | ⟨id, hreg, hresp, -⟩
  · have hkey : n.publicKey = key := hkeys n.publicKey (by simp [hidx, keyOf, hn])
    have hresp : respNode (slowRefresh E now s req id n).resp = id :=
      respNode_registerResp E id req.publicKey _
    rw [hresp, ← hkey]
    exact slowRefresh_registers E now hidx
  · rwa [hresp]

/-- The keys that were known lead where they did. -/
theorem slowPath_index {E : Env} (h : slowPath E now order s req key = .ok o)
    (hid : s.pubKeyIdx.get text = some id) : o.server.pubKeyIdx.get text = some id := by
  rcases slowPath_cases h with ⟨j, n, -, -, rfl⟩ | ⟨j, -, -, hsame | ⟨hnone, hset⟩⟩
  · rwa [slowRefresh_pubKeyIdx]
  · rwa [hsame]
  · rw [hset, GoMap.get_set_ne]
    · exact hid
    · rintro rfl
      rw [hnone] at hid
      cases hid

/-! ## Requests in flight -/

/-- A registration in flight was in flight before, is new, or comes from the
section that was run. -/
inductive Registering (E : NodeEnv) (w : World) (e : World.Event) (req : RegisterReq)
    (key : Bytes) (ext : String) : Stage → Prop where
  | kept (stage : Stage) (g : Ref → Ref) (hg : Detaches g) (f : Flight) (hf : f ∈ w.flights)
      (hstage : f.mapRef g = .register req key ext stage) : Registering E w e req key ext stage
  | launched : Registering E w e req key ext .look
  | onward (stage stage' : Stage) (hf : w.runs e = some (.register req key ext stage))
      (h : Onward w req stage stage') : Registering E w e req key ext stage'

theorem step_registering (h : .register req key ext stage ∈ (w.step E e).flights) :
    Registering E w e req key ext stage := by
  have hkept : ∀ g, Detaches g → .register req key ext stage ∈ w.flights.map (Flight.mapRef g) →
      Registering E w e req key ext stage := by
    intro g hg hmem
    obtain ⟨f₀, hf₀, heq⟩ := List.mem_map.mp hmem
    exact .kept stage g hg f₀ hf₀ heq
  generalize hflight : Flight.register req key ext stage = f at h
  cases step_flight h with
  | kept f₀ g hg hf₀ => exact .kept stage g hg f₀ hf₀ hflight.symm
  | launched _ hlaunched =>
    subst hflight
    cases hlaunched
    exact .launched
  | next f₀ _ hruns hnext =>
    subst hflight
    cases hnext with
    | register _ _ _ stage₀ _ =>
      obtain ⟨i, order, logged, hgoes⟩ := runs_goes (E := E) hruns
      generalize w.step E e = w' at h hgoes
      cases hgoes with
      | stays => exact hkept id detaches_id (by rwa [map_mapRef_id])
      | returns v hran =>
        obtain ⟨g, hg, hflights⟩ := hran.flights
        exact hkept g hg (hflights ▸ List.mem_of_mem_eraseIdx h)
      | next v f' hran hnext hstage =>
        obtain ⟨g, hg, hflights⟩ := hran.flights
        rcases List.mem_or_eq_of_mem_set h with hold | rfl
        · exact hkept g hg (hflights ▸ hold)
        · exact .onward stage₀ stage hruns (hstage _ _ _ _ _ rfl rfl)

/-! ## What every step keeps -/

/-- A registration, or a sweep of the reaper. -/
def Flight.directory : Flight → Bool
  | .register .. | .sweep .. => true
  | _ => false

/-- The pointer of a registration, with the id it was found under. -/
def Stage.pointer : Stage → Option (NodeId × Ref)
  | .read id ref | .fast id ref => some (id, ref)
  | _ => none

/-- The key of a request leads to the id its pointer was found under. -/
structure Tracked (w : World) : Prop where
  kinds : ∀ f ∈ w.flights, f.directory = true
  known : ∀ req key ext stage, .register req key ext stage ∈ w.flights →
    ∀ id ref, stage.pointer = some (id, ref) →
      w.live.pubKeyIdx.get req.publicKey = some id ∧ ∀ j, ref = .held j → j = id

theorem sweep_pubKeyIdx (threshold : Time) (cands : List (NodeId × String)) (s : Server) :
    (cands.foldl (sweepOne threshold) s).pubKeyIdx = s.pubKeyIdx := by
  induction cands generalizing s with
  | nil => rfl
  | cons cand cands ih =>
    rw [List.foldl_cons, ih]
    unfold sweepOne
    split
    · split
      · exact (sameBindings_dropHostname _ cand.2).pubKeyIdx
      · rfl
    · rfl

/-- Registrations, sweeps and deregistrations leave a known key where it
leads. -/
theorem index_step (h : Tracked w) (he : e.directory = true)
    (hid : w.live.pubKeyIdx.get text = some id) :
    (w.step E e).live.pubKeyIdx.get text = some id := by
  have hkind : ∀ f, w.runs e = some f → f.directory = true := fun f hf => h.kinds f (runs_mem hf)
  have hacts := step_acts E w e
  generalize hs : (w.step E e).live = s at hacts
  cases hacts with
  | slow req key ext s hf hform hfiles =>
    obtain ⟨order, logged, v, hran, hlive⟩ := runs_ran (E := E) hf
    rw [← hs, hlive]
    cases hran with
    | same => exact hid
    | slow _ _ _ o _ ho => exact slowPath_index ho hid
  | set msg c gated o hf ho => cases hkind _ hf
  | indexed j old text rotatedAt hf => cases hkind _ hf
  | swept threshold cands hf => rwa [sweep_pubKeyIdx]
  | deregistered n msg logged hn => rwa [(sameBindings_departNode _ _ n).pubKeyIdx]
  | amended | started | failedOver => cases he
  | _ => exact hid

theorem launched_directory (he : e.directory = true) (h : Launched E w e f) :
    f.directory = true := by
  cases h with
  | register => rfl
  | scan => rfl
  | _ => cases he

theorem next_directory {f' : Flight} (h : Next E w f f') (hf : f.directory = true) :
    f'.directory = true := by
  cases h with
  | register => rfl
  | swept => rfl
  | _ => cases hf

theorem mapRef_directory (g : Ref → Ref) (f : Flight) : (f.mapRef g).directory = f.directory := by
  fun_cases Flight.mapRef g f <;> rfl

theorem pointer_of_mapRef {g : Ref → Ref} (h : f.mapRef g = .register req key ext stage) {ref : Ref}
    (hpointer : stage.pointer = some (id, ref)) :
    ∃ stage₀ ref₀, f = .register req key ext stage₀ ∧ stage₀.pointer = some (id, ref₀) ∧
      ref = g ref₀ := by
  cases f with
  | register req₀ key₀ ext₀ stage₀ =>
    cases stage₀ with
    | read j ref₀ | fast j ref₀ =>
      cases h
      cases hpointer
      exact ⟨_, ref₀, rfl, rfl, rfl⟩
    | _ =>
      cases h
      cases hpointer
  | _ => cases h

theorem Tracked.step (h : Tracked w) (he : e.directory = true) : Tracked (w.step E e) := by
  constructor
  · intro f hf
    cases step_flight hf with
    | kept f₀ g hg hf₀ => rw [mapRef_directory, h.kinds f₀ hf₀]
    | launched _ hlaunched => exact launched_directory he hlaunched
    | next f₀ _ hruns hnext => exact next_directory hnext (h.kinds f₀ (runs_mem hruns))
  · intro req key ext stage hmem id ref hpointer
    refine And.imp_left (index_step h he) ?_
    cases step_registering hmem with
    | kept _ g hg f hf hstage =>
      obtain ⟨stage₀, ref₀, rfl, hpointer₀, rfl⟩ := pointer_of_mapRef hstage hpointer
      obtain ⟨hidx, hheld⟩ := h.known _ _ _ _ hf id ref₀ hpointer₀
      exact ⟨hidx, fun j hj => hheld j (hg ref₀ j hj)⟩
    | launched => cases hpointer
    | onward stage₀ _ hruns honward =>
      have hmem₀ := runs_mem hruns
      cases honward with
      | known j hj =>
        cases hpointer
        refine ⟨(knownId_eq_some.mp hj).1, ?_⟩
        rintro _ ⟨⟩
        rfl
      | plain j ref₀ =>
        cases hpointer
        exact h.known _ _ _ _ hmem₀ id ref rfl
      | slow => cases hpointer
      | external => cases hpointer

/-- The section that writes, one step. -/
theorem acknowledged_step (h : Tracked w) (hkeeps : KeepsRecord w e)
    (hack : w.acknowledges E e = some (req, key, id)) :
    Registered (w.step E e).live req key id ∧ w.writesGone e = false := by
  cases e with
  | go i order logged =>
    simp only [World.acknowledges] at hack
    split at hack
    · next req key ext id ref hf =>
      cases hack
      obtain ⟨hidx, hheld⟩ := h.known _ _ _ _ (List.mem_of_getElem? hf) id ref rfl
      simp only [KeepsRecord, World.writesGone, World.runs, hf] at hkeeps ⊢
      cases ref with
      | gone n => exact hkeeps.elim
      | held j =>
        obtain rfl := hheld j rfl
        obtain ⟨n, hn, hkey⟩ := Option.map_eq_some_iff.mp hkeeps
        refine ⟨?_, rfl⟩
        simp only [World.step, hf, World.go, World.goRegister, afterRegister_live]
        refine ⟨hidx, fastRefresh w.clock req n, ?_, hkey, rfl⟩
        show (w.live.nodes.modify j (fastRefresh w.clock req)).get j = _
        rw [GoMap.get_modify_self, hn, Option.map_some]
    · next req key ext hf =>
      simp only [KeepsRecord, World.writesGone, World.runs, hf] at hkeeps ⊢
      refine ⟨?_, trivial⟩
      split at hack
      · next horder =>
        split at hack
        · next o ho =>
          cases hack
          simp only [World.step, hf, World.go, World.goRegister, if_pos horder, ho,
            afterRegister_live]
          exact slowPath_registers ho hkeeps
        · cases hack
      · cases hack
    · cases hack
  | _ => cases hack

/-- In every interleaving of registrations, sweeps and deregistrations in
which no record leaves between the fast path's look and its write, and every
record that is written has the key of the request, the node of an answer is
registered under that key and with the endpoint of the request right after
the section that writes, and that section did not write to a record that had
left. -/
theorem registrations_acknowledged (E : NodeEnv) (w : World) (hw : w.flights = [])
    (es : List World.Event) (hes : ∀ e ∈ es, e.directory = true)
    (hmeets : Meets (World.step E) KeepsRecord w es)
    (xs ys : List World.Event) (e : World.Event) (hsplit : es = xs ++ e :: ys)
    (req : RegisterReq) (key : Bytes) (id : NodeId)
    (hack : (run (World.step E) w xs).acknowledges E e = some (req, key, id)) :
    Registered (run (World.step E) w (xs ++ [e])).live req key id ∧
      (run (World.step E) w xs).writesGone e = false := by
  subst hsplit
  obtain ⟨-, hkeeps, -⟩ := (meets_append _ _ _ xs _).mp hmeets
  have hkinds : Meets (World.step E) (fun _ e => e.directory = true) w xs :=
    (meets_iff _ _ _ _).mpr fun as a bs has => hes a (by simp [has])
  have htracked : Tracked (run (World.step E) w xs) :=
    hkinds.invariant _ (fun v a ha hv => hv.step ha) ⟨by simp [hw], by simp [hw]⟩
  rw [run_append]
  exact acknowledged_step htracked hkeeps hack

/-! ## A registration that is lost -/

/-- The key `AAAA` registers from another endpoint. -/
def moves : World.Event :=
  .register "host" [("public_key", .str "AAAA"), ("listen_addr", .str "host:2")]

/-- Node 1 registers, and registers again from another endpoint on the fast
path. -/
theorem registrations_acknowledged_moved :
    let xs := registers ++ [moves, .go 0 [0] true, .go 0 [0] true]
    let req : RegisterReq := { publicKey := "AAAA", listenAddr := "host:2" }
    Registered (run (World.step .plain) (World.fresh 0) (xs ++ [.go 0 [0] true])).live req
        [0, 0, 0] 1 ∧
      (run (World.step .plain) (World.fresh 0) xs).writesGone (.go 0 [0] true) = false := by
  intro xs req
  exact registrations_acknowledged .plain (World.fresh 0) rfl (xs ++ [.go 0 [0] true])
    (by decide +kernel) (by decide +kernel) xs [] (.go 0 [0] true) rfl req [0, 0, 0] 1
    (by decide +kernel)

/-- The reaper scans while node 1 is stale. Its key registers from another
endpoint, and the reaper deletes the record after the registration looked it
up. The registration is answered with node 1, which is not registered, and
was not with that endpoint at any time. -/
theorem registration_lost :
    let before := registers ++ [.tick 10, .scan 5 [1], moves, .go 1 [0] true, .go 1 [0] true,
      .go 0 [0] true]
    let w := run (World.step .plain) (World.fresh 0) before
    let answered := before ++ [.go 0 [0] true]
    w.acknowledges .plain (.go 0 [0] true) =
        some ({ publicKey := "AAAA", listenAddr := "host:2" }, [0, 0, 0], 1) ∧
      w.writesGone (.go 0 [0] true) = true ∧
      (run (World.step .plain) (World.fresh 0) answered).live.nodes.get 1 = none ∧
      (answered.inits.all fun xs =>
        ((run (World.step .plain) (World.fresh 0) xs).live.nodes.get 1).all fun n =>
          n.realAddr ≠ "host:2") = true := by
  decide +kernel

end Rendezvous.Lifecycle

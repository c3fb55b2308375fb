import Rendezvous.Base.Pool
import Rendezvous.Lifecycle.Changes

/-!
# What a step does to the requests in flight

`step_pool` says what the list of requests in flight is after an event: a
request is launched, goes on, or returns, all are gone in a new process,
and a record that leaves the directory takes the pointers to it along.
`step_flight` is the same for one request of the list.
-/

namespace Rendezvous.Lifecycle

open Base Registry Authz Rendezvous.Membership Directory Identity Persist Recovery

variable {f : Flight} {e : World.Event}

/-! ## Pointers -/

/-- Pointers may come off the directory, and never onto it. -/
def Detaches (g : Ref → Ref) : Prop := ∀ ref id, g ref = .held id → ref = .held id

theorem detaches_id : Detaches id := fun _ _ h => h

theorem detaches_leave (id : NodeId) (n : NodeInfo) : Detaches (Ref.leave id n) := by
  intro ref j h
  cases ref with
  | gone m => cases h
  | held k =>
    simp only [Ref.leave] at h
    split at h
    · cases h
    · exact h

theorem Detaches.comp {g h : Ref → Ref} (hg : Detaches g) (hh : Detaches h) : Detaches (g ∘ h) :=
  fun ref id hid => hh ref id (hg (h ref) id hid)

theorem mapRef_id (f : Flight) : f.mapRef id = f := by
  fun_cases Flight.mapRef id f <;> rfl

theorem mapRef_mapRef (g h : Ref → Ref) (f : Flight) :
    (f.mapRef h).mapRef g = f.mapRef (g ∘ h) := by
  cases f with
  | register req key ext stage => cases stage <;> rfl
  | _ => rfl

/-! ## New requests -/

/-- An event and the request it launches. -/
inductive Launched (E : NodeEnv) (w : World) : World.Event → Flight → Prop where
  | register (remoteAddr : String) (msg : Msg) (req : RegisterReq) (key : Bytes)
      (ext : String) (h : admitRegister E.toEnv remoteAddr w.live msg = .ok (req, key, ext)) :
      Launched E w (.register remoteAddr msg) (.register req key ext .look)
  | request (command : Command) (msg : Msg) (c : Checked)
      (h : command.check E w.clock w.live msg = .ok c) :
      Launched E w (.request command msg) (.request msg c false)
  | heartbeat (msg : Msg) (n : NodeInfo)
      (hn : w.live.nodes.get (msg.jsonUint32 "node_id") = some n) :
      Launched E w (.heartbeat msg) (.beat (.json msg)
        (.held (msg.jsonUint32 "node_id")) n.publicKey n.keyMeta.expiresAt .due)
  | binaryHeartbeat (nodeID : NodeId) (sig : Bytes) (n : NodeInfo)
      (hn : w.live.nodes.get nodeID = some n) :
      Launched E w (.binaryHeartbeat nodeID sig)
        (.beat (.binary sig) (.held nodeID) n.publicKey n.keyMeta.expiresAt .due)
  | rotateKey (msg : Msg) (n : NodeInfo) (key : Bytes)
      (h : checkRotation E.toEnv w.live msg = .ok (n, key)) :
      Launched E w (.rotateKey msg) (.rotate (jsonUint32 msg "node_id")
        (msg.str "new_public_key") key n.publicKey)
  | recoverIdentity (msg : Msg) (r : Recovery) (n : NodeInfo) (key : Bytes)
      (h : checkRecovery E.toEnv w.clock w.live msg = .ok (r, n, key)) :
      Launched E w (.recoverIdentity msg) (.ledger (jsonUint32 msg "node_id")
        (msg.str "new_public_key") key r)
  | scan (threshold : Time) (chunk : List NodeId) : Launched E w (.scan threshold chunk)
        (.sweep threshold (candidates threshold w.live chunk))

/-! ## The list after an event -/

/-- The requests in flight after an event. -/
inductive Pool (E : NodeEnv) (w : World) : World.Event → List Flight → Prop where
  | same (e : World.Event) : Pool E w e w.flights
  | left (msg : Msg) (logged : Bool) (g : Ref → Ref) (hg : Detaches g) :
      Pool E w (.deregister msg logged) (w.flights.map (Flight.mapRef g))
  | launched {e : World.Event} (f : Flight) (h : Launched E w e f) : Pool E w e (w.flights ++ [f])
  | next {i : Nat} {order : List NetId} {logged : Bool} (f f' : Flight) (g : Ref → Ref)
      (hg : Detaches g) (hf : w.flights[i]? = some f) (h : Next E w f f') :
      Pool E w (.go i order logged) ((w.flights.map (Flight.mapRef g)).set i f')
  | returned {i : Nat} {order : List NetId} {logged : Bool} (f : Flight) (g : Ref → Ref)
      (hg : Detaches g) (hf : w.flights[i]? = some f) :
      Pool E w (.go i order logged) ((w.flights.map (Flight.mapRef g)).eraseIdx i)
  | started (order : List NodeId) : Pool E w (.start order) []
  | failedOver : Pool E w .failover []

section

variable {E : NodeEnv} {w : World} {i : Nat} {order : List NetId} {logged : Bool}

theorem map_mapRef_id (fs : List Flight) : fs.map (Flight.mapRef id) = fs := by
  rw [List.map_congr_left fun f _ => mapRef_id f, List.map_id']

/-- What leaves the directory takes its pointers along. -/
theorem Left.flights {v : World} (h : Left w v) :
    ∃ g, Detaches g ∧ v.flights = w.flights.map (Flight.mapRef g) := by
  induction h with
  | refl => exact ⟨_, detaches_id, (map_mapRef_id _).symm⟩
  | leave h id n s ih =>
    obtain ⟨g, hg, hflights⟩ := ih
    refine ⟨Ref.leave id n ∘ g, (detaches_leave id n).comp hg, ?_⟩
    simp only [World.leave, hflights, List.map_map]
    exact List.map_congr_left fun f _ => mapRef_mapRef (Ref.leave id n) g f

theorem Ran.flights {v : World} (h : Ran E w order logged f v) :
    ∃ g, Detaches g ∧ v.flights = w.flights.map (Flight.mapRef g) := by
  have hsame : ∀ {v : World}, v.flights = w.flights →
      ∃ g, Detaches g ∧ v.flights = w.flights.map (Flight.mapRef g) :=
    fun heq => ⟨_, detaches_id, heq.trans (map_mapRef_id _).symm⟩
  cases h with
  | slow => exact (displace_left w _).flights
  | swept threshold cands => exact (sweep_left threshold _ .refl).flights
  | fast _ _ _ _ ref => cases ref <;> exact hsame rfl
  | _ => exact hsame rfl

theorem go_pool (hf : w.flights[i]? = some f) :
    Pool E w (.go i order logged) (w.go E i order logged f).flights := by
  have hgoes := go_goes E w i order logged f
  generalize w.go E i order logged f = w' at hgoes ⊢
  cases hgoes with
  | stays => exact .same _
  | returns v h =>
    obtain ⟨g, hg, hflights⟩ := h.flights
    simp only [World.done, hflights]
    exact .returned f g hg hf
  | next v f' h hnext =>
    obtain ⟨g, hg, hflights⟩ := h.flights
    simp only [World.put, hflights]
    exact .next f f' g hg hf hnext

end

/-- Every event does one of these things to the requests in flight. -/
theorem step_pool (E : NodeEnv) (w : World) (e : World.Event) :
    Pool E w e (w.step E e).flights := by
  cases e with
  | register remoteAddr msg =>
    simp only [World.step]
    split
    · next req key ext h => exact .launched _ (.register remoteAddr msg req key ext h)
    · exact .same _
  | request command msg =>
    simp only [World.step]
    split
    · next c h => exact .launched _ (.request command msg c h)
    · exact .same _
  | heartbeat msg =>
    simp only [World.step, World.lookBeat]
    split
    · next n hn => exact .launched _ (.heartbeat msg n hn)
    · exact .same _
  | binaryHeartbeat nodeID sig =>
    simp only [World.step, World.lookBeat]
    split
    · exact .same _
    · split
      · next n hn => exact .launched _ (.binaryHeartbeat nodeID sig n hn)
      · exact .same _
  | rotateKey msg =>
    simp only [World.step]
    split
    · next n key h => exact .launched _ (.rotateKey msg n key h)
    · exact .same _
  | recoverIdentity msg =>
    simp only [World.step]
    split
    · next r n key h => exact .launched _ (.recoverIdentity msg r n key h)
    · exact .same _
  | deregister msg logged =>
    simp only [World.step]
    split
    · exact .left msg logged _ (detaches_leave _ _)
    · exact .same _
  | scan threshold chunk => exact .launched _ (.scan threshold chunk)
  | go i order logged =>
    simp only [World.step]
    split
    · next f hf => exact go_pool hf
    · exact .same _
  | command | replace | push =>
    simp only [World.step]
    split <;> exact .same _
  | start order =>
    simp only [World.step]
    split
    · exact .started order
    · exact .same _
  | failover =>
    simp only [World.step]
    split
    · exact .failedOver
    · exact .same _
  | _ => exact .same _

/-- A request that is launched has changed nothing yet. -/
theorem launched_live {E : NodeEnv} {w : World} (h : Launched E w e f) :
    (w.step E e).live = w.live := by
  cases h with
  | scan threshold chunk => rfl
  | heartbeat msg n hn =>
    simp only [World.step, World.lookBeat, hn]
    rfl
  | binaryHeartbeat nodeID sig n hn =>
    simp only [World.step, World.lookBeat, hn]
    split <;> rfl
  | _ =>
    simp only [World.step, *]
    rfl

/-- No request outlives its process. -/
theorem flights_restarts (E : NodeEnv) {w : World} (h : w.restarts e) :
    (w.step E e).flights = [] := by
  cases e with
  | start order =>
    change IsOrder order (diskNodes w.file) at h
    simp only [World.step]
    rw [if_pos h]
  | failover =>
    obtain ⟨s, hs⟩ := Option.isSome_iff_exists.mp h
    simp only [World.step, hs]
  | _ => exact h.elim

/-! ## One request -/

/-- Where a request in flight after an event comes from. -/
inductive Follows (E : NodeEnv) (w : World) (e : World.Event) : Flight → Prop where
  | kept (f : Flight) (g : Ref → Ref) (hg : Detaches g) (hf : f ∈ w.flights) :
      Follows E w e (f.mapRef g)
  | launched (f : Flight) (h : Launched E w e f) : Follows E w e f
  | next (f f' : Flight) (hf : w.runs e = some f) (h : Next E w f f') : Follows E w e f'

theorem runs_mem {w : World} (h : w.runs e = some f) : f ∈ w.flights := by
  cases e with
  | go i order logged => exact List.mem_of_getElem? h
  | _ => cases h

theorem step_flight {E : NodeEnv} {w : World} (hf : f ∈ (w.step E e).flights) :
    Follows E w e f := by
  have hpool := step_pool E w e
  generalize (w.step E e).flights = fs at hf hpool
  have hkept : ∀ g, Detaches g → f ∈ w.flights.map (Flight.mapRef g) → Follows E w e f := by
    intro g hg hmem
    obtain ⟨f₀, hf₀, rfl⟩ := List.mem_map.mp hmem
    exact .kept f₀ g hg hf₀
  cases hpool with
  | same => exact hkept id detaches_id (by rwa [map_mapRef_id])
  | left msg logged g hg => exact hkept g hg hf
  | launched f₀ h =>
    rcases List.mem_append.mp hf with hold | hnew
    · exact hkept id detaches_id (by rwa [map_mapRef_id])
    · rw [List.mem_singleton.mp hnew]
      exact .launched f₀ h
  | next f₀ f' g hg hi h =>
    rcases List.mem_or_eq_of_mem_set hf with hold | rfl
    · exact hkept g hg hold
    · exact .next f₀ f hi h
  | returned f₀ g hg hi => exact hkept g hg (List.mem_of_mem_eraseIdx hf)
  | started order => cases hf
  | failedOver => cases hf

/-! ## How many requests there are of a kind -/

theorem countP_mapRef (q : Flight → Bool) (hq : ∀ g f, q (Flight.mapRef g f) = q f)
    (g : Ref → Ref) (fs : List Flight) :
    (fs.map (Flight.mapRef g)).countP q = fs.countP q := by
  rw [List.countP_map]
  exact List.countP_congr fun f _ => by simp [hq]

/-- A count of requests grows only by a request that comes to be counted. -/
theorem pool_countP {E : NodeEnv} {w : World} {q : Flight → Bool}
    (hmap : ∀ g f, q (Flight.mapRef g f) = q f) (hlaunch : ∀ f, Launched E w e f → q f = false)
    (hnext : ∀ f f', w.runs e = some f → Next E w f f' → q f' = true → q f = true) :
    (w.step E e).flights.countP q ≤ w.flights.countP q := by
  have hpool := step_pool E w e
  generalize (w.step E e).flights = fs at hpool ⊢
  cases hpool with
  | same => exact le_refl _
  | left msg logged g hg => rw [countP_mapRef q hmap]
  | launched f h =>
    rw [List.countP_append, List.countP_singleton, hlaunch f h]
    simp
  | @next i order logged f f' g hg hf h =>
    have hi : (w.flights.map (Flight.mapRef g))[i]? = some (f.mapRef g) := by simp [hf]
    have hcount := countP_pool hi q
    rw [countP_mapRef q hmap, hmap] at hcount
    rw [countP_pool_set hi, hcount]
    cases hq : q f' with
    | false => simp
    | true => simp [hnext f f' hf h hq]
  | @returned i order logged f g hg hf =>
    have hi : (w.flights.map (Flight.mapRef g))[i]? = some (f.mapRef g) := by simp [hf]
    have hcount := countP_pool hi q
    rw [countP_mapRef q hmap] at hcount
    omega
  | started order => simp
  | failedOver => simp

end Rendezvous.Lifecycle

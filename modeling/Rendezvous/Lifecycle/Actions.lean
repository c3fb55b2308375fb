import Rendezvous.Lifecycle.World
import Rendezvous.Roster.Amends

/-!
# What a step does to memory

`step_acts` says, for every event, which state memory is in afterwards: it
stays, a section of a request writes it, a sweep or a deregistration takes
records away, a command of another package amends it, or a new process
starts from the disk or from the standby's copy. What the later files say
about single records, names and the nonce ledger is derived from it.
-/

namespace Rendezvous.Lifecycle

open Base Registry Authz Rendezvous.Membership Directory Identity Admin Wal Persist Recovery Roster

variable {s : Server} {req : RegisterReq} {id : NodeId} {key : Bytes} {e : World.Event}

/-! ## Which record a registration is about -/

theorem knownId_eq_some : knownId s req = some id ↔
      s.pubKeyIdx.get req.publicKey = some id ∧ ∃ n, s.nodes.get id = some n := by
  simp [knownId, Option.filter_eq_some_iff]

/-- The states the slow path leaves: the record the key leads to is
refreshed, or a fresh one is filed, and then the hostname is given. -/
inductive SlowForm (now : Time) (s : Server) (req : RegisterReq) (key : Bytes) : Server → Prop where
  | refreshed (id : NodeId) (n : NodeInfo) (owner : String) (t : Server)
      (hid : knownId s req = some id) (hn : s.nodes.get id = some n)
      (ht : t = { s with
        nodes := s.nodes.set id { (refresh req n).setLastSeen now with owner := owner }
        ownerIdx := t.ownerIdx }) :
      SlowForm now s req key (setNodeHostname t id req.hostname).1
  | filed (id : NodeId) (nets : List NetId) (t : Server) (hid : filedId s req = some id)
      (hknown : knownId s req = none)
      (ht : t = { s with
        nodes := s.nodes.set id (freshNode req key nets now)
        networks := t.networks
        pubKeyIdx := t.pubKeyIdx
        ownerIdx := t.ownerIdx
        nextNode := t.nextNode }) :
      SlowForm now s req key (setNodeHostname t id req.hostname).1

theorem slowRefresh_form (E : Env) (now : Time) {n : NodeInfo}
    (hidx : s.pubKeyIdx.get req.publicKey = some id) (hn : s.nodes.get id = some n) (key : Bytes) :
    SlowForm now s req key (slowRefresh E now s req id n).server := by
  have hid : knownId s req = some id := knownId_eq_some.mpr ⟨hidx, n, hn⟩
  by_cases htakes : req.owner ≠ "" ∧ n.owner = ""
  · refine .refreshed id n req.owner (if req.owner ≠ "" ∧ n.owner = "" then _ else _)
      hid hn ?_
    rw [if_pos htakes, if_pos htakes, indexOwner, if_neg htakes.1]
  · refine .refreshed id n n.owner (if req.owner ≠ "" ∧ n.owner = "" then _ else _)
      hid hn ?_
    rw [if_neg htakes, if_neg htakes]
    rfl

/-- How the slow path ends, with what it found. -/
inductive SlowEnd (E : Env) (now : Time) (order : List NetId) (s : Server) (req : RegisterReq)
    (key : Bytes) : Outcome → Prop where
  | refreshed (id : NodeId) (n : NodeInfo) (hidx : s.pubKeyIdx.get req.publicKey = some id)
      (hn : s.nodes.get id = some n) : SlowEnd E now order s req key (slowRefresh E now s req id n)
  | byKey (id : NodeId) (hidx : s.pubKeyIdx.get req.publicKey = some id)
      (hid : filedId s req = some id) (hknown : knownId s req = none) :
      SlowEnd E now order s req key (reclaimByKey E now order s req id key)
  | new (o : Outcome) (hidx : s.pubKeyIdx.get req.publicKey = none)
      (hid : filedId s req = some s.nextNode) (hknown : knownId s req = none)
      (h : registerNew E now s req key = .ok o) : SlowEnd E now order s req key o
  | byOwner (id : NodeId) (hidx : s.pubKeyIdx.get req.publicKey = none) (hne : req.owner ≠ "")
      (hown : s.ownerIdx.get req.owner = some id) (hid : filedId s req = some id)
      (hknown : knownId s req = none) :
      SlowEnd E now order s req key (reclaimByOwner E now s req id key)

section

variable {E : Env} {now : Time} {order : List NetId} {o : Outcome}

theorem slowPath_end (h : slowPath E now order s req key = .ok o) :
    SlowEnd E now order s req key o := by
  unfold slowPath at h
  split at h
  · next id hidx =>
    split at h
    · next n hn =>
      cases h
      exact .refreshed id n hidx hn
    · next hgone =>
      cases h
      exact .byKey id hidx (by simp [filedId, hidx, hgone]) (by simp [knownId, hidx, hgone])
  · next hidx =>
    have hknown : knownId s req = none := by simp [knownId, hidx]
    unfold registerUnknown at h
    split at h
    · next hown => exact .new o hidx (by simp [filedId, hidx, hown]) hknown h
    · next id hown =>
      have hne : req.owner ≠ "" := fun hempty => by simp [hempty] at hown
      rw [if_neg hne] at hown
      cases hnode : s.nodes.get id with
      | some n => simp [GoMap.has, hnode] at h
      | none =>
        simp only [GoMap.has, hnode, Option.isSome_none, Bool.false_eq_true,
          if_false, Except.ok.injEq] at h
        subst h
        exact .byOwner id hidx hne hown (by simp [filedId, hidx, hne, hown, hnode]) hknown

theorem slowPath_form (h : slowPath E now order s req key = .ok o) :
    SlowForm now s req key o.server := by
  cases slowPath_end h with
  | refreshed id n hidx hn => exact slowRefresh_form E now hidx hn key
  | byKey id hidx hid hknown =>
    refine .filed id (0 :: scanNetworkMemberships order s id) _ hid hknown ?_
    rw [indexOwner_frame]
    rfl
  | new o hidx hid hknown h =>
    rw [registerNew_server h]
    refine .filed s.nextNode [0] _ hid hknown ?_
    rw [indexOwner_frame]
    rfl
  | byOwner id hidx hne hown hid hknown => exact .filed id [0] _ hid hknown rfl

end

/-! ## The sections of a request -/

/-- A request and what it is after its next section, if it has not
returned. -/
inductive Next (E : NodeEnv) (w : World) : Flight → Flight → Prop where
  | register (req : RegisterReq) (key : Bytes) (ext : String) (stage stage' : Stage) :
      Next E w (.register req key ext stage) (.register req key ext stage')
  | gated (msg : Msg) (c : Checked) : Next E w (.request msg c false) (.request msg c true)
  | timed (b : Beat) (ref : Ref) (key : Bytes) (expiresAt : Time) :
      Next E w (.beat b ref key expiresAt .due) (.beat b ref key expiresAt (.timed w.clock))
  | skipped (b : Beat) (id : NodeId) (key : Bytes) (expiresAt now : Time)
      (hskip : skipVerify E w.verified now id = true) (hexp : keyExpired expiresAt now = false) :
      Next E w (.beat b (.held id) key expiresAt (.timed now))
        (.beat b (.held id) key expiresAt (.alive now))
  | signed (b : Beat) (id : NodeId) (key : Bytes) (expiresAt now : Time)
      (hok : verifyBeat E now id key b = .ok ()) :
      Next E w (.beat b (.held id) key expiresAt (.timed now))
        (.beat b (.held id) key expiresAt (.signed now))
  | checked (b : Beat) (id : NodeId) (key : Bytes) (expiresAt now : Time)
      (hexp : keyExpired expiresAt now = false) :
      Next E w (.beat b (.held id) key expiresAt (.signed now))
        (.beat b (.held id) key expiresAt (.alive now))
  | rotated (id : NodeId) (text old : String) (key expected : Bytes) :
      Next E w (.rotate id text key expected) (.index id old text (some w.clock))
  | unused (id : NodeId) (text : String) (key : Bytes) (r : Recovery)
      (h : (consumeNonce w.clock w.live.consumedNonces r).2 = true) :
      Next E w (.ledger id text key r) (.note id text key r)
  | noted (id : NodeId) (text : String) (key : Bytes) (r : Recovery) (n : NodeInfo)
      (hn : w.live.nodes.get id = some n)
      (hnew : r.nonce = "" ∨ n.recoveryConsumedNonce ≠ r.nonce) :
      Next E w (.note id text key r) (.force id text key r)
  | forced (id : NodeId) (text old : String) (key : Bytes) (r : Recovery)
      (n : NodeInfo) (hn : w.live.nodes.get id = some n) :
      Next E w (.force id text key r) (.index id old text none)
  | indexed (id : NodeId) (old text : String) (rotatedAt : Option Time) :
      Next E w (.index id old text rotatedAt) (.record id text rotatedAt)
  | swept (threshold : Time) (cands : List (NodeId × String)) :
      Next E w (.sweep threshold cands) (.sweep threshold (cands.drop reapDeleteBatch))

/-- The next stage of a registration. -/
inductive Onward (w : World) (req : RegisterReq) : Stage → Stage → Prop where
  | known (id : NodeId) (h : knownId w.live req = some id) :
      Onward w req .look (.read id (.held id))
  | plain (id : NodeId) (ref : Ref) : Onward w req (.read id ref) (.fast id ref)
  | slow (stage : Stage) : Onward w req stage .slow
  | external (stage : Stage) (id : NodeId) : Onward w req stage (.external id)

/-- What a section of a request writes, apart from the request's own place. -/
inductive Ran (E : NodeEnv) (w : World) (order : List NetId) (logged : Bool) :
    Flight → World → Prop where
  | same (f : Flight) : Ran E w order logged f w
  | fast (req : RegisterReq) (key : Bytes) (ext : String) (id : NodeId) (ref : Ref) :
      Ran E w order logged (.register req key ext (.fast id ref))
        (w.write ref (fastRefresh w.clock req))
  | slow (req : RegisterReq) (key : Bytes) (ext : String) (o : Outcome)
      (horder : w.live.networks.Enumerates order)
      (ho : slowPath E.toEnv w.clock order w.live req key = .ok o) :
      Ran E w order logged (.register req key ext .slow)
        (((w.displace (filedId w.live req)).become o.server).append logged o.wal)
  | external (req : RegisterReq) (key : Bytes) (ext : String) (id : NodeId) :
      Ran E w order logged (.register req key ext (.external id))
        (w.become (setExternalID w.live id ext))
  | set (msg : Msg) (c : Checked) (gated : Bool) (o : Outcome)
      (ho : c.commit E w.clock w.live = .ok o) :
      Ran E w order logged (.request msg c gated) ((w.become o.server).append logged o.wal)
  | checked (b : Beat) (id : NodeId) (key : Bytes) (expiresAt now : Time) :
      Ran E w order logged (.beat b (.held id) key expiresAt (.signed now))
        { w with verified := w.verified.set id now }
  | alive (b : Beat) (id : NodeId) (key : Bytes) (expiresAt now : Time) :
      Ran E w order logged (.beat b (.held id) key expiresAt (.alive now))
        (w.write (.held id) fun n => { n with lastSeenNano := now })
  | rotated (id : NodeId) (text : String) (key : Bytes) (n : NodeInfo)
      (hn : w.live.nodes.get id = some n) :
      Ran E w order logged (.rotate id text key n.publicKey) (w.become { w.live with
        nodes := w.live.nodes.set id (rotated n key w.clock) })
  | ledger (id : NodeId) (text : String) (key : Bytes) (r : Recovery) :
      Ran E w order logged (.ledger id text key r) (w.become { w.live with
        consumedNonces := (consumeNonce w.clock w.live.consumedNonces r).1 })
  | noted (id : NodeId) (text : String) (key : Bytes) (r : Recovery) (n : NodeInfo)
      (hn : w.live.nodes.get id = some n)
      (hnew : r.nonce = "" ∨ n.recoveryConsumedNonce ≠ r.nonce) :
      Ran E w order logged (.note id text key r) (w.become { w.live with
        nodes := w.live.nodes.set id { n with
          recoveryConsumedNonce := r.nonce
          recoveryConsumedExp := r.exp * second } })
  | forced (id : NodeId) (text : String) (key : Bytes) (r : Recovery) (n : NodeInfo)
      (hn : w.live.nodes.get id = some n) :
      Ran E w order logged (.force id text key r) (w.become { w.live with
        nodes := w.live.nodes.set id (clearBadge (Identity.rotated n key w.clock)) })
  | indexed (id : NodeId) (old text : String) (rotatedAt : Option Time) :
      Ran E w order logged (.index id old text rotatedAt)
        (w.become (onKeyRotated w.live id old text))
  | recorded (id : NodeId) (text : String) (rotatedAt : Option Time) :
      Ran E w order logged (.record id text rotatedAt)
        (w.append logged [rotationDelta id text rotatedAt w.clock])
  | swept (threshold : Time) (cands : List (NodeId × String)) :
      Ran E w order logged (.sweep threshold cands)
        ((cands.take reapDeleteBatch).foldl (World.reap threshold) w)

/-- A section writes, and the request returns or goes on. A registration
with an order that is not one of the networks' stays. -/
inductive Goes (E : NodeEnv) (w : World) (i : Nat) (order : List NetId) (logged : Bool)
    (f : Flight) : World → Prop where
  | stays : Goes E w i order logged f w
  | returns (v : World) (h : Ran E w order logged f v) : Goes E w i order logged f (v.done i)
  | next (v : World) (f' : Flight) (h : Ran E w order logged f v) (hnext : Next E w f f')
      (hstage : ∀ req key ext stage stage', f = .register req key ext stage →
        f' = .register req key ext stage' → Onward w req stage stage') :
      Goes E w i order logged f (v.put i f')

/-- A request that is no registration goes on. -/
theorem Goes.on {E : NodeEnv} {w v : World} {i : Nat} {order : List NetId} {logged : Bool}
    {f f' : Flight} (h : Ran E w order logged f v) (hnext : Next E w f f')
    (hf : ∀ req key ext stage, f ≠ .register req key ext stage) :
    Goes E w i order logged f (v.put i f') :=
  .next v f' h hnext fun _ _ _ _ _ hreg => absurd hreg (hf _ _ _ _)

theorem goRegister_goes (E : NodeEnv) (w : World) (i : Nat) (order : List NetId)
    (logged : Bool) (req : RegisterReq) (key : Bytes) (ext : String) (stage : Stage) :
    Goes E w i order logged (.register req key ext stage)
      (w.goRegister E i order logged req key ext stage) := by
  have hput : ∀ {v : World} {stage' : Stage},
      Ran E w order logged (.register req key ext stage) v → Onward w req stage stage' →
      Goes E w i order logged (.register req key ext stage)
        (v.put i (.register req key ext stage')) := by
    intro v stage' h honward
    refine .next v _ h (.register ..) ?_
    rintro _ _ _ _ _ ⟨⟩ ⟨⟩
    exact honward
  have hafter : ∀ {v : World} (id : NodeId),
      Ran E w order logged (.register req key ext stage) v →
      Goes E w i order logged (.register req key ext stage)
        (v.afterRegister i req key ext id) := by
    intro v id h
    unfold World.afterRegister
    split
    · exact .returns v h
    · exact hput h (.external _ id)
  cases stage with
  | look =>
    simp only [World.goRegister]
    split
    · next id hid => exact hput (.same _) (.known id hid)
    · exact hput (.same _) (.slow _)
  | read id ref =>
    simp only [World.goRegister]
    split
    · exact hput (.same _) (.plain id ref)
    · exact hput (.same _) (.slow _)
  | fast id ref => exact hafter id (.fast req key ext id ref)
  | slow =>
    simp only [World.goRegister]
    split
    · next horder =>
      split
      · next o ho => exact hafter _ (.slow req key ext o horder ho)
      · exact .returns w (.same _)
    · exact .stays
  | external id => exact .returns _ (.external req key ext id)

/-- The commit of a key, whichever request it is of. -/
theorem commitKey_goes {E : NodeEnv} {w : World} {i : Nat} {order : List NetId} {logged : Bool}
    {f : Flight} {text : String} {expected : Option Bytes} {record : NodeInfo → NodeInfo}
    {rotatedAt : Option Time} (hf : ∀ req key ext stage, f ≠ .register req key ext stage)
    (hrun : ∀ n, w.live.nodes.get id = some n →
      (∀ key, expected = some key → n.publicKey = key) → Ran E w order logged f
        (w.become { w.live with nodes := w.live.nodes.set id (record n) }) ∧
        ∀ old, Next E w f (.index id old text rotatedAt)) :
    Goes E w i order logged f (w.commitKey i id text expected record rotatedAt) := by
  unfold World.commitKey
  split
  · exact .returns w (.same f)
  · next n hn =>
    split
    · next hexp =>
      obtain ⟨hran, hnext⟩ := hrun n hn fun key hkey => by
        subst hkey
        simpa using hexp
      exact .on hran (hnext _) hf
    · exact .returns w (.same f)

theorem goBeat_goes (E : NodeEnv) (w : World) (i : Nat) (order : List NetId) (logged : Bool)
    (b : Beat) (ref : Ref) (key : Bytes) (expiresAt : Time) (pulse : Pulse) :
    Goes E w i order logged (.beat b ref key expiresAt pulse)
      (w.goBeat E i b key expiresAt ref pulse) := by
  cases ref with
  | gone n =>
    cases pulse with
    | due => exact .on (.same _) (.timed b _ key expiresAt) (by simp)
    | _ => exact .returns w (.same _)
  | held id =>
    cases pulse with
    | due => exact .on (.same _) (.timed b _ key expiresAt) (by simp)
    | timed now =>
      simp only [World.goBeat, World.passBeat]
      split
      · next hskip =>
        split
        · exact .returns w (.same _)
        · next hexp =>
          exact .on (.same _)
            (.skipped b id key expiresAt now hskip (Bool.eq_false_of_not_eq_true hexp)) (by simp)
      · split
        · next hok => exact .on (.same _) (.signed b id key expiresAt now hok) (by simp)
        · exact .returns w (.same _)
    | signed now =>
      simp only [World.goBeat, World.passBeat]
      split
      · exact .returns _ (.checked b id key expiresAt now)
      · next hexp =>
        exact .on (.checked b id key expiresAt now)
          (.checked b id key expiresAt now (Bool.eq_false_of_not_eq_true hexp)) (by simp)
    | alive now => exact .returns _ (.alive b id key expiresAt now)

theorem go_goes (E : NodeEnv) (w : World) (i : Nat) (order : List NetId) (logged : Bool)
    (f : Flight) : Goes E w i order logged f (w.go E i order logged f) := by
  cases f with
  | register req key ext stage => exact goRegister_goes E w i order logged req key ext stage
  | request msg c gated =>
    simp only [World.go, World.goRequest]
    split
    · split
      · exact .on (.same _) (.gated msg c) (by simp)
      · exact .returns w (.same _)
    · split
      · next o ho => exact .returns _ (.set msg c _ o ho)
      · exact .returns w (.same _)
  | beat b ref key expiresAt pulse => exact goBeat_goes E w i order logged b ref key expiresAt pulse
  | rotate id text key expected =>
    refine commitKey_goes (by simp) fun n hn hkey => ?_
    rw [← hkey expected rfl]
    exact ⟨.rotated id text key n hn, fun old => .rotated id text old key _⟩
  | ledger id text key r =>
    simp only [World.go]
    split
    · next h => exact .on (.ledger id text key r) (.unused id text key r h) (by simp)
    · exact .returns _ (.ledger id text key r)
  | note id text key r =>
    simp only [World.go, World.noteNonce]
    split
    · exact .returns w (.same _)
    · next n hn =>
      split
      · exact .returns w (.same _)
      · next hnew =>
        have hnew : r.nonce = "" ∨ n.recoveryConsumedNonce ≠ r.nonce := by
          simpa [or_iff_not_imp_left] using hnew
        exact .on (.noted id text key r n hn hnew) (.noted id text key r n hn hnew) (by simp)
  | force id text key r =>
    exact commitKey_goes (by simp) fun n hn _ =>
      ⟨.forced id text key r n hn, fun old => .forced id text old key r n hn⟩
  | index id old text rotatedAt =>
    exact .on (.indexed id old text rotatedAt) (.indexed id old text rotatedAt) (by simp)
  | record id text rotatedAt => exact .returns _ (.recorded id text rotatedAt)
  | sweep threshold cands =>
    simp only [World.go]
    split
    · exact .returns _ (.swept threshold cands)
    · exact .on (.swept threshold cands) (.swept threshold cands) (by simp)

/-! ## Which event does what -/

section

variable {E : NodeEnv} {w v : World} {i : Nat} {order : List NetId} {logged : Bool} {f : Flight}

/-- The request whose next section the event runs. -/
def World.runs (w : World) : World.Event → Option Flight
  | .go i _ _ => w.flights[i]?
  | _ => none

theorem runs_goes (hf : w.runs e = some f) :
    ∃ i order logged, Goes E w i order logged f (w.step E e) := by
  cases e with
  | go i order logged =>
    change w.flights[i]? = _ at hf
    simp only [World.step, hf]
    exact ⟨i, order, logged, go_goes E w i order logged f⟩
  | _ => cases hf

/-- Memory after a section of a request. -/
theorem runs_ran (hf : w.runs e = some f) :
    ∃ order logged v, Ran E w order logged f v ∧ (w.step E e).live = v.live := by
  obtain ⟨i, order, logged, hgoes⟩ := runs_goes (E := E) hf
  generalize w.step E e = w' at hgoes ⊢
  cases hgoes with
  | stays => exact ⟨order, logged, w, .same f, rfl⟩
  | returns v h | next v f' h => exact ⟨order, logged, v, h, rfl⟩

/-- The slow path succeeds. -/
def World.slowSucceeds (E : NodeEnv) (w : World) (order : List NetId)
    (req : RegisterReq) (key : Bytes) : Bool :=
  decide (w.live.networks.Enumerates order) &&
    (slowPath E.toEnv w.clock order w.live req key).toBool

theorem slowSucceeds_iff {E : NodeEnv} {w : World} {order : List NetId} :
    w.slowSucceeds E order req key = true ↔ w.live.networks.Enumerates order ∧
      ∃ o, slowPath E.toEnv w.clock order w.live req key = .ok o := by
  unfold World.slowSucceeds
  rw [Bool.and_eq_true, decide_eq_true_eq]
  refine and_congr_right fun _ => ?_
  cases slowPath E.toEnv w.clock order w.live req key with
  | error | ok => simp [Except.toBool]

/-- The id an event files a fresh record under, and the key it has. -/
def World.files (E : NodeEnv) (w : World) : World.Event → Option (NodeId × Bytes)
  | .go i order _ =>
    match w.flights[i]? with
    | some (.register req key _ .slow) =>
      if w.slowSucceeds E order req key then
        (filedId w.live req).map fun id => (id, key)
      else none
    | _ => none
  | _ => none

/-- The event is the start of a new process. -/
def World.restarts (w : World) : World.Event → Prop
  | .start order => IsOrder order (diskNodes w.file)
  | .failover => w.standby.isSome
  | _ => False

instance (w : World) (e : World.Event) : Decidable (w.restarts e) := by
  rcases e <;> unfold World.restarts <;> infer_instance

/-- What one candidate of a sweep comes down to, for memory. -/
def sweepOne (threshold : Time) (s : Server) (cand : NodeId × String) : Server :=
  match s.nodes.get cand.1 with
  | some n => if n.getLastSeen < threshold then dropCandidate s cand else s
  | none => s

/-- Memory after an event. -/
inductive Acts (E : NodeEnv) (w : World) : World.Event → Server → Prop where
  | same (e : World.Event) : Acts E w e w.live
  | fast {e : World.Event} (req : RegisterReq) (key : Bytes) (ext : String)
      (j id : NodeId)
      (hf : w.runs e = some (.register req key ext (.fast j (.held id)))) :
      Acts E w e { w.live with
        nodes := w.live.nodes.modify id (fastRefresh w.clock req) }
  | slow {e : World.Event} (req : RegisterReq) (key : Bytes) (ext : String) (s : Server)
      (hf : w.runs e = some (.register req key ext .slow))
      (hs : SlowForm w.clock w.live req key s)
      (hfiles : w.files E e = (filedId w.live req).map fun id => (id, key)) :
      Acts E w e s
  | external {e : World.Event} (req : RegisterReq) (key : Bytes) (ext : String)
      (id : NodeId) (hf : w.runs e = some (.register req key ext (.external id))) :
      Acts E w e (setExternalID w.live id ext)
  | set {e : World.Event} (msg : Msg) (c : Checked) (gated : Bool) (o : Outcome)
      (hf : w.runs e = some (.request msg c gated))
      (ho : c.commit E w.clock w.live = .ok o) : Acts E w e o.server
  | beat {e : World.Event} (b : Beat) (id : NodeId) (key : Bytes) (expiresAt now : Time)
      (hf : w.runs e = some (.beat b (.held id) key expiresAt (.alive now))) :
      Acts E w e { w.live with
        nodes := w.live.nodes.modify id fun n => { n with lastSeenNano := now } }
  | rotated {e : World.Event} (id : NodeId) (text : String) (key : Bytes) (n : NodeInfo)
      (hf : w.runs e = some (.rotate id text key n.publicKey))
      (hn : w.live.nodes.get id = some n) :
      Acts E w e { w.live with nodes := w.live.nodes.set id (rotated n key w.clock) }
  | ledger {e : World.Event} (id : NodeId) (text : String) (key : Bytes) (r : Recovery)
      (hf : w.runs e = some (.ledger id text key r)) :
      Acts E w e { w.live with
        consumedNonces := (consumeNonce w.clock w.live.consumedNonces r).1 }
  | noted {e : World.Event} (id : NodeId) (text : String) (key : Bytes) (r : Recovery)
      (n : NodeInfo) (hf : w.runs e = some (.note id text key r))
      (hn : w.live.nodes.get id = some n)
      (hnew : r.nonce = "" ∨ n.recoveryConsumedNonce ≠ r.nonce) :
      Acts E w e { w.live with nodes := w.live.nodes.set id { n with
        recoveryConsumedNonce := r.nonce
        recoveryConsumedExp := r.exp * second } }
  | forced {e : World.Event} (id : NodeId) (text : String) (key : Bytes) (r : Recovery)
      (n : NodeInfo) (hf : w.runs e = some (.force id text key r))
      (hn : w.live.nodes.get id = some n) :
      Acts E w e { w.live with
        nodes := w.live.nodes.set id (clearBadge (Identity.rotated n key w.clock)) }
  | indexed {e : World.Event} (id : NodeId) (old text : String) (rotatedAt : Option Time)
      (hf : w.runs e = some (.index id old text rotatedAt)) :
      Acts E w e (onKeyRotated w.live id old text)
  | swept {e : World.Event} (threshold : Time) (cands : List (NodeId × String))
      (hf : w.runs e = some (.sweep threshold cands)) :
      Acts E w e ((cands.take reapDeleteBatch).foldl (sweepOne threshold) w.live)
  | deregistered (n : NodeInfo) (msg : Msg) (logged : Bool)
      (hn : w.live.nodes.get (msg.jsonUint32 "node_id") = some n) :
      Acts E w (.deregister msg logged)
        (departNode w.live (msg.jsonUint32 "node_id") n)
  | amended (op : Roster.Op) (logged : Bool) (hop : op.amends = true) :
      Acts E w (.command op logged) (Roster.step E.toAdminEnv w.live op)
  | started (order : List NodeId) (horder : IsOrder order (diskNodes w.file)) :
      Acts E w (.start order) (boot w.clock order w.file w.log)
  | failedOver (s : Server) (hs : w.standby = some s) : Acts E w .failover s

theorem reap_live (threshold : Time) (w : World) (cand : NodeId × String) :
    (w.reap threshold cand).live = sweepOne threshold w.live cand := by
  unfold World.reap sweepOne
  cases w.live.nodes.get cand.1 with
  | none => rfl
  | some n =>
    simp only
    split <;> rfl

theorem sweep_live (threshold : Time) (cands : List (NodeId × String)) (w : World) :
    (cands.foldl (World.reap threshold) w).live = cands.foldl (sweepOne threshold) w.live := by
  induction cands generalizing w with
  | nil => rfl
  | cons cand cands ih => rw [List.foldl_cons, ih, reap_live, List.foldl_cons]

/-- Records leave the directory, one after the other. -/
inductive Left (w : World) : World → Prop where
  | refl : Left w w
  | leave {v : World} (h : Left w v) (id : NodeId) (n : NodeInfo) (s : Server) :
      Left w (v.leave id n s)

theorem displace_left (w : World) (id : Option NodeId) : Left w (w.displace id) := by
  unfold World.displace
  split
  · exact .leave .refl _ _ _
  · exact .refl

theorem sweep_left (threshold : Time) (cands : List (NodeId × String)) (h : Left w v) :
    Left w (cands.foldl (World.reap threshold) v) := by
  induction cands generalizing v with
  | nil => exact h
  | cons cand cands ih =>
    refine ih ?_
    unfold World.reap
    split
    · exact h
    · split
      · exact h.leave _ _ _
      · exact h

theorem afterRegister_live (w : World) (i : Nat) (req : RegisterReq) (key : Bytes)
    (ext : String) (id : NodeId) : (w.afterRegister i req key ext id).live = w.live := by
  unfold World.afterRegister
  split <;> rfl

theorem Ran.acts (hf : w.flights[i]? = some f) (h : Ran E w order logged f v) :
    Acts E w (.go i order logged) v.live := by
  cases h with
  | same | checked | recorded => exact .same _
  | fast req key ext j ref =>
    cases ref with
    | held id => exact .fast req key ext j id hf
    | gone n => exact .same _
  | slow req key ext o horder ho =>
    refine .slow req key ext o.server hf (slowPath_form ho) ?_
    have hslow := slowSucceeds_iff.mpr ⟨horder, o, ho⟩
    simp only [World.files, hf, hslow, if_true]
  | external req key ext id => exact .external req key ext id hf
  | set msg c gated o ho => exact .set msg c gated o hf ho
  | alive b id key expiresAt now => exact .beat b id key expiresAt now hf
  | rotated id text key n hn => exact .rotated id text key n hf hn
  | ledger id text key r => exact .ledger id text key r hf
  | noted id text key r n hn hnew => exact .noted id text key r n hf hn hnew
  | forced id text key r n hn => exact .forced id text key r n hf hn
  | indexed id old text rotatedAt => exact .indexed id old text rotatedAt hf
  | swept threshold cands =>
    rw [sweep_live]
    exact .swept threshold cands hf

/-! ## Every step -/

theorem go_acts {f : Flight} (hf : w.flights[i]? = some f) :
    Acts E w (.go i order logged) (w.go E i order logged f).live := by
  have hgoes := go_goes E w i order logged f
  generalize w.go E i order logged f = w' at hgoes ⊢
  cases hgoes with
  | stays => exact .same _
  | returns v h | next v f' h =>
    show Acts E w _ v.live
    exact h.acts hf

/-- Every event leaves memory in one of these states. -/
theorem step_acts (E : NodeEnv) (w : World) (e : World.Event) : Acts E w e (w.step E e).live := by
  cases e with
  | tick | scan | copy | truncate | lose => exact .same _
  | heartbeat msg =>
    simp only [World.step, World.lookBeat]
    split <;> exact .same _
  | binaryHeartbeat nodeID sig =>
    simp only [World.step, World.lookBeat]
    split
    · exact .same _
    · split <;> exact .same _
  | deregister msg logged =>
    simp only [World.step]
    split
    · next n o hn ho =>
      show Acts E w _ o.server
      rcases deregister_cases ho with ⟨hserver, -⟩ | ⟨m, hm, hserver, -⟩
      · rw [hserver]
        exact .same _
      · rw [hserver]
        exact .deregistered m msg logged hm
    · exact .same _
  | go i order logged =>
    simp only [World.step]
    split
    · next f hf => exact go_acts hf
    · exact .same _
  | command op logged =>
    simp only [World.step]
    split
    · next hop =>
      have hamends : op.amends = true := by
        cases op <;> first | rfl | exact hop
      exact .amended op logged hamends
    · exact .same _
  | start order =>
    simp only [World.step]
    split
    · next horder => exact .started order horder
    · exact .same _
  | failover =>
    simp only [World.step]
    split
    · next s hs => exact .failedOver s hs
    · exact .same _
  | _ =>
    simp only [World.step]
    split <;> exact .same _

/-! ## What the sections of requests leave alone -/

/-- Clock, file, copies and standby stand. -/
def World.Inside (w w' : World) : Prop :=
  w' = { w with
    live := w'.live
    verified := w'.verified
    flights := w'.flights
    log := w'.log }

theorem Left.inside (h : Left w v) : w.Inside v := by
  induction h with
  | refl => rfl
  | leave h id n s ih => exact (congrArg (World.leave · id n s) ih).trans rfl

theorem Ran.inside (h : Ran E w order logged f v) : w.Inside v := by
  cases h with
  | slow req key ext o =>
    exact (congrArg (fun v => (World.become v o.server).append logged o.wal)
      (displace_left w _).inside).trans rfl
  | swept threshold cands => exact (sweep_left threshold _ .refl).inside
  | fast _ _ _ _ ref => cases ref <;> rfl
  | _ => rfl

theorem go_inside (f : Flight) : w.Inside (w.go E i order logged f) := by
  have hgoes := go_goes E w i order logged f
  generalize w.go E i order logged f = w' at hgoes ⊢
  cases hgoes with
  | stays => rfl
  | returns v h => exact (congrArg (World.done · i) h.inside).trans rfl
  | next v f' h => exact (congrArg (World.put · i f') h.inside).trans rfl

/-- The event is one of the clock, of the disk or of the standby. -/
def World.Event.outside : World.Event → Bool
  | .tick _ | .copy | .replace _ | .truncate | .lose | .start _ | .push _ | .failover => true
  | _ => false

theorem step_inside (h : e.outside = false) : w.Inside (w.step E e) := by
  cases e with
  | go i order logged =>
    simp only [World.step]
    split
    · exact go_inside _
    · rfl
  | heartbeat msg =>
    simp only [World.step, World.lookBeat]
    split <;> rfl
  | binaryHeartbeat nodeID sig =>
    simp only [World.step, World.lookBeat]
    split
    · rfl
    · split <;> rfl
  | scan threshold chunk => rfl
  | tick | copy | replace | truncate | lose | start | push | failover => cases h
  | _ =>
    simp only [World.step]
    split <;> rfl

/-- The sections of a request take no time. -/
theorem runs_clock {f : Flight} (h : w.runs e = some f) : (w.step E e).clock = w.clock := by
  cases e with
  | go i order logged =>
    rw [congrArg World.clock (step_inside rfl)]
  | _ => cases h

/-- The clock never goes back. -/
theorem step_clock (E : NodeEnv) (w : World) (e : World.Event) : w.clock ≤ (w.step E e).clock := by
  cases e with
  | tick d => exact Int.le_add_of_nonneg_right (Int.natCast_nonneg d)
  | copy | truncate | lose => exact le_refl _
  | replace | start | push | failover =>
    simp only [World.step]
    split <;> exact le_refl _
  | _ => exact (congrArg World.clock (step_inside rfl)).ge

/-- A copy is one of memory, taken in this process. -/
theorem mem_step_copies (h : s ∈ (w.step E e).copies) :
    s ∈ w.copies ∧ ¬ w.restarts e ∨ e = .copy ∧ s = w.live := by
  cases e with
  | copy =>
    rcases List.mem_append.mp h with hold | hnew
    · exact Or.inl ⟨hold, not_false⟩
    · exact Or.inr ⟨rfl, List.mem_singleton.mp hnew⟩
  | start order =>
    simp only [World.step] at h
    split at h
    · cases h
    · next horder => exact Or.inl ⟨h, horder⟩
  | failover =>
    simp only [World.step] at h
    split at h
    · cases h
    · next hs => exact Or.inl ⟨h, by simp [World.restarts, hs]⟩
  | tick | truncate | lose => exact Or.inl ⟨h, not_false⟩
  | replace | push =>
    simp only [World.step] at h
    split at h <;> exact Or.inl ⟨h, not_false⟩
  | _ =>
    rw [congrArg World.copies (step_inside rfl)] at h
    exact Or.inl ⟨h, not_false⟩

/-- The state an event writes to the file. -/
def World.saves (w : World) : World.Event → Option Server
  | .replace i => w.copies[i]?
  | .failover => w.standby
  | _ => none

/-- The event is a push of memory to the standby. -/
def World.pushes (w : World) : World.Event → Prop
  | .push order => IsOrder order w.live.nodes
  | _ => False

instance (w : World) (e : World.Event) : Decidable (w.pushes e) := by
  rcases e <;> unfold World.pushes <;> infer_instance

/-- The file stands, is lost, or is written. -/
theorem step_file (E : NodeEnv) (w : World) (e : World.Event) :
    (w.step E e).file = w.file ∧ w.saves e = none ∨ (w.step E e).file = none ∨
      ∃ s, w.saves e = some s ∧ (w.step E e).file = some (save s) := by
  cases e with
  | replace | failover =>
    simp only [World.step]
    split
    · next s hs => exact Or.inr (Or.inr ⟨s, hs, rfl⟩)
    · next hs => exact Or.inl ⟨rfl, hs⟩
  | lose => exact Or.inr (Or.inl rfl)
  | start | push =>
    simp only [World.step]
    split <;> exact Or.inl ⟨rfl, rfl⟩
  | tick | copy | truncate => exact Or.inl ⟨rfl, rfl⟩
  | _ =>
    refine Or.inl ⟨?_, rfl⟩
    rw [congrArg World.file (step_inside rfl)]

/-- The file is one that was there, or one of a copy or of the standby's
state. -/
theorem mem_step_file {snap : Snapshot} (h : snap ∈ (w.step E e).file) :
    snap ∈ w.file ∨ ∃ s, (s ∈ w.copies ∨ s ∈ w.standby) ∧ snap = save s := by
  rcases step_file E w e with ⟨hsame, -⟩ | hlost | ⟨s, hs, hfile⟩
  · exact Or.inl (hsame ▸ h)
  · rw [hlost] at h
    cases h
  · rw [hfile] at h
    refine Or.inr ⟨s, ?_, (Option.some.inj h).symm⟩
    cases e with
    | replace i => exact Or.inl (List.mem_of_getElem? hs)
    | failover => exact Or.inr hs
    | _ => cases hs

/-- The standby stands, is gone, or has taken a push. -/
theorem step_standby (E : NodeEnv) (w : World) (e : World.Event) :
    (w.step E e).standby = w.standby ∧ ¬ w.pushes e ∨ (w.step E e).standby = none ∨
      w.pushes e ∧ ∃ order, IsOrder order w.live.nodes ∧ (w.step E e).standby =
        some (applySnapshot order (w.standby.getD (freshServer 0)) (snapshotJSON w.live)) := by
  cases e with
  | push order =>
    simp only [World.step]
    split
    · next horder => exact Or.inr (Or.inr ⟨horder, order, horder, rfl⟩)
    · next horder => exact Or.inl ⟨rfl, horder⟩
  | failover =>
    simp only [World.step]
    split
    · exact Or.inr (Or.inl rfl)
    · exact Or.inl ⟨rfl, not_false⟩
  | start | replace =>
    simp only [World.step]
    split <;> exact Or.inl ⟨rfl, not_false⟩
  | tick | copy | truncate | lose => exact Or.inl ⟨rfl, not_false⟩
  | _ =>
    refine Or.inl ⟨?_, not_false⟩
    rw [congrArg World.standby (step_inside rfl)]

/-- The standby has the state of an earlier push, or of one of memory. -/
theorem mem_step_standby (h : s ∈ (w.step E e).standby) :
    s ∈ w.standby ∨ ∃ order, IsOrder order w.live.nodes ∧
      s = applySnapshot order (w.standby.getD (freshServer 0)) (snapshotJSON w.live) := by
  rcases step_standby E w e with ⟨hsame, -⟩ | hgone | ⟨-, order, horder, hpushed⟩
  · exact Or.inl (hsame ▸ h)
  · rw [hgone] at h
    cases h
  · rw [hpushed] at h
    exact Or.inr ⟨order, horder, (Option.some.inj h).symm⟩

end

end Rendezvous.Lifecycle

import Rendezvous.Lifecycle.Flights
import Rendezvous.Lifecycle.Naming

/-!
# Hostnames

The hostname index leads from a hostname to the one node that has it, and
every hostname in the directory is one `ValidateHostname` accepts. Four
writers go without the checks of the others: a sweep takes a hostname out
of the index that its node had when it was scanned, a directory
synchronisation gives out display names as they come, a replayed
registration puts its hostname in the index whoever has it, and a fresh
record may take the place of another one. `hostnames_hold_runs` says that
the index is right as long as none of these four meets the case it does not
check.
-/

namespace Rendezvous.Lifecycle

open Base Registry Authz Rendezvous.Membership Directory Identity Admin Wal Persist Recovery Roster

variable {now : Time} {w : World} {e : World.Event} {d : Delta}

/-- The hostname index and the hostnames of the directory are right. -/
structure Hostnames (s : Server) : Prop where
  index : ∀ h id, s.hostnameIdx.get h = some id ↔
    h ≠ "" ∧ ∃ n, s.nodes.get id = some n ∧ n.hostname = h
  distinct : ∀ i j n m, s.nodes.get i = some n → s.nodes.get j = some m →
    n.hostname = m.hostname → n.hostname ≠ "" → i = j
  valid : ∀ id n, s.nodes.get id = some n → validateHostname n.hostname = .ok ()

theorem Named.hostnames {s : Server} (h : Named s.nodes s.hostnameIdx) : Hostnames s where
  index := fun name id => (h.index name id).trans hostnameIn_eq_some
  distinct := fun _ _ _ _ hn hm => h.distinct hn hm
  valid := fun _ _ hn => h.valid_get hn

/-- A fresh record takes the place of none that has a hostname; a sweep
deletes no node that changed its hostname since it was scanned; a
synchronisation brings valid display names; and a start finds every
hostname of the log free. -/
def KeepsNames (E : NodeEnv) (w : World) (e : World.Event) : Prop :=
  (∀ f ∈ w.files E e, ∀ n ∈ w.live.nodes.get f.1, n.hostname = "") ∧
  (∀ f ∈ w.runs e, match f with
    | .sweep threshold cands =>
      ∀ cand ∈ cands.take reapDeleteBatch, Remembers threshold w.live cand
    | _ => True) ∧
  match e with
  | .command (.directorySync msg) _ =>
    ∀ entry ∈ parseDirectoryEntries ((msg.arr? "entries").getD []),
      entry.disabled = false → validateHostname entry.displayName = .ok ()
  | .start order => IsOrder order (diskNodes w.file) →
      Meets (applyOr w.clock) BringsFree (baseState order w.file) (replayed w.log)
  | _ => True

instance (E : NodeEnv) (w : World) (e : World.Event) : Decidable (KeepsNames E w e) := by
  unfold KeepsNames
  refine @instDecidableAnd _ _ inferInstance (@instDecidableAnd _ _
    (@GoMap.decidableForallFound _ _ _ fun f => ?_) ?_) <;> split <;> infer_instance

/-! ## Requests in flight -/

/-- A request that will set a hostname has a valid one. -/
def Flight.NameValid : Flight → Prop
  | .register req _ _ _ => validateHostname req.hostname = .ok ()
  | .request _ c _ => ∀ name, c.setting = .hostname name → validateHostname name = .ok ()
  | _ => True

variable {logged : Bool} {key : Bytes} {order : List NetId} {o : Outcome} {req : RegisterReq}

theorem admitRegister_valid {E : Env} {remoteAddr : String} {s : Server} {msg : Msg} {ext : String}
    (h : admitRegister E remoteAddr s msg = .ok (req, key, ext)) :
    validateHostname req.hostname = .ok () := by
  simp only [admitRegister, bind_eq_ok, pure_eq_ok] at h
  obtain ⟨externalID, -, publicKey, -, _, -, sigVerified, -, key', -, _, -, heq⟩ := h
  obtain ⟨rfl, -⟩ := Prod.mk.inj heq
  split
  · rfl
  · next hvalid => exact hvalid

section

variable {E : NodeEnv} {s : Server} {msg : Msg} {c : Checked}

theorem checkSigned_setting {id : NodeId} {absent challenge : String} {setting : Setting}
    (h : checkSigned E s msg id absent challenge setting = .ok c) : c.setting = setting := by
  simp only [checkSigned, bind_eq_ok, pure_eq_ok] at h
  obtain ⟨n, -, _, -, rfl⟩ := h
  rfl

theorem check_nameValid {command : Command} (h : command.check E now s msg = .ok c) {name : String}
    (hc : c.setting = .hostname name) : validateHostname name = .ok () := by
  rcases command.check_ok h with ⟨_, _, _, _, hsigned, -, hvalid⟩ | ⟨_, _, _, hset, -, rfl⟩
  · rw [checkSigned_setting hsigned] at hc
    exact hvalid name hc
  · cases hc
    cases hset

end

theorem step_nameValid {E : NodeEnv} (h : ∀ f ∈ w.flights, f.NameValid) :
    ∀ f ∈ (w.step E e).flights, f.NameValid := by
  intro f hmem
  cases step_flight hmem with
  | kept f g hg hf =>
    have hf := h f hf
    cases f with
    | register req key ext stage => cases stage <;> exact hf
    | _ => exact hf
  | launched f hl =>
    cases hl with
    | register remoteAddr msg req key ext hadmit => exact admitRegister_valid hadmit
    | request command msg c hcheck => exact fun name hc => check_nameValid hcheck hc
    | _ => trivial
  | next f f' hrun hnext =>
    have hf := h f (runs_mem hrun)
    cases hnext with
    | register | gated => exact hf
    | _ => trivial

/-! ## What a step logs -/

/-- A logged registration has the hostname of its record. -/
def BringsOwn (s : Server) : Delta → Prop
  | .register d => d.hostname = ((s.nodes.get d.nodeID).map NodeInfo.hostname).getD ""
  | _ => True

theorem Named.logsValid {s : Server} (h : Named s.nodes s.hostnameIdx) (hd : BringsOwn s d) :
    LogsValid d := by
  cases d with
  | register d =>
    show validateHostname d.hostname = .ok ()
    rw [show d.hostname = _ from hd]
    cases hn : s.nodes.get d.nodeID with
    | none => rfl
    | some n => exact h.valid_get hn
  | _ => trivial

theorem slowPath_wal {E : Env} {s : Server} (h : slowPath E now order s req key = .ok o) :
    ∀ x ∈ o.wal, BringsOwn o.server x := by
  cases slowPath_end h with
  | new o hidx hid hknown h =>
    obtain ⟨d, hwal, hname⟩ := registerNew_wal h
    exact wal_one hwal hname
  | _ => exact wal_nil rfl

theorem commit_wal {E : NodeEnv} {s s' : Server} {c : Checked} (h : c.commit E now s = .ok o) :
    ∀ x ∈ o.wal, BringsOwn s' x := by
  intro x hx
  cases x with
  | register d => exact absurd hx ((commit_commits h).wal d)
  | _ => trivial

theorem mem_append_log {ds : List Delta} (h : d ∈ (w.append logged ds).log) :
    d ∈ w.log ∨ d ∈ ds := by
  unfold World.append at h
  cases logged with
  | false => exact Or.inl h
  | true => exact List.mem_append.mp h

theorem Left.log {v : World} (h : Left w v) : v.log = w.log := by
  induction h with
  | refl => rfl
  | leave h id n s ih => exact ih

theorem Ran.log {E : NodeEnv} {f : Flight} {v : World} (h : Ran E w order logged f v)
    (hd : d ∈ v.log) : d ∈ w.log ∨ BringsOwn v.live d := by
  cases h with
  | fast _ _ _ _ ref | alive ref => cases ref <;> exact Or.inl hd
  | slow req key ext o horder ho =>
    rcases mem_append_log hd with hold | hnew
    · rw [show (World.become _ o.server).log = _ from (displace_left w _).log] at hold
      exact Or.inl hold
    · exact Or.inr (slowPath_wal ho d hnew)
  | set msg c gated o ho => exact (mem_append_log hd).imp_right (commit_wal ho d)
  | recorded id text rotatedAt =>
    refine (mem_append_log hd).imp_right fun hnew => ?_
    rw [List.mem_singleton.mp hnew]
    trivial
  | swept threshold cands =>
    rw [(sweep_left threshold _ .refl).log] at hd
    exact Or.inl hd
  | _ => exact Or.inl hd

theorem go_log {E : NodeEnv} {i : Nat} {f : Flight} (hd : d ∈ (w.go E i order logged f).log) :
    d ∈ w.log ∨ BringsOwn (w.go E i order logged f).live d := by
  have hgoes := go_goes E w i order logged f
  generalize w.go E i order logged f = w' at hd hgoes ⊢
  cases hgoes with
  | stays => exact Or.inl hd
  | returns v h | next v f' h => exact h.log hd

theorem step_log {E : NodeEnv} (hd : d ∈ (w.step E e).log) :
    d ∈ w.log ∨ BringsOwn (w.step E e).live d := by
  cases e with
  | go i order logged =>
    simp only [World.step] at hd ⊢
    split at hd
    · next f hf => exact go_log hd
    · exact Or.inl hd
  | deregister msg logged =>
    simp only [World.step] at hd
    split at hd
    · next n o hn ho =>
      rcases mem_append_log hd with hold | hnew
      · exact Or.inl hold
      · refine Or.inr ?_
        rcases deregister_cases ho with ⟨-, hwal⟩ | ⟨n, -, -, hwal⟩
        · rw [hwal] at hnew
          cases hnew
        · rw [hwal, List.mem_singleton] at hnew
          rw [hnew]
          trivial
    · exact Or.inl hd
  | command op logged =>
    simp only [World.step] at hd
    split at hd
    · next hop =>
      rcases mem_append_log hd with hold | hnew
      · exact Or.inl hold
      · refine Or.inr ?_
        cases handle_records E.toAdminEnv w.live op d hnew with
        | register => cases hop
        | _ => trivial
    · exact Or.inl hd
  | binaryHeartbeat nodeID sig =>
    simp only [World.step, World.lookBeat] at hd
    split at hd
    · exact Or.inl hd
    · split at hd <;> exact Or.inl hd
  | heartbeat msg =>
    simp only [World.step, World.lookBeat] at hd
    split at hd <;> exact Or.inl hd
  | truncate => cases hd
  | failover =>
    simp only [World.step] at hd
    split at hd
    · cases hd
    · exact Or.inl hd
  | tick | scan | copy | lose => exact Or.inl hd
  | _ =>
    simp only [World.step] at hd
    split at hd <;> exact Or.inl hd

/-! ## Whole runs -/

/-- Hostnames are right in memory, in every copy of it and on the disk, and
those still to come are valid. -/
structure NamesRight (w : World) : Prop where
  live : Named w.live.nodes w.live.hostnameIdx
  flights : ∀ f ∈ w.flights, f.NameValid
  copies : ∀ s ∈ w.copies, Named s.nodes s.hostnameIdx
  file : ∀ snap ∈ w.file, FileNamed snap
  log : ∀ d ∈ w.log, LogsValid d
  standby : ∀ s ∈ w.standby, Named s.nodes s.hostnameIdx

theorem namesRight_fresh (now : Time) : NamesRight (World.fresh now) where
  live := named_empty
  flights := fun f hf => by cases hf
  copies := fun s hs => by cases hs
  file := fun snap hsnap => by cases hsnap
  log := fun d hd => by cases hd
  standby := fun s hs => by cases hs

theorem NamesRight.live_step {E : NodeEnv} (h : NamesRight w) (hkeeps : KeepsNames E w e) :
    Named (w.step E e).live.nodes (w.step E e).live.hostnameIdx := by
  obtain ⟨hfiles, hsweep, hevent⟩ := hkeeps
  have hlive := h.live
  have hacts := step_acts E w e
  generalize (w.step E e).live = s' at hacts ⊢
  cases hacts with
  | fast _ _ _ _ id | external _ _ _ id | beat _ id => exact hlive.modify id fun n => rfl
  | slow req key ext s hf hs hfiled =>
    have hvalid : validateHostname req.hostname = .ok () := h.flights _ (runs_mem hf)
    refine slowForm_named hlive hs hvalid fun id hid => ?_
    cases hn : w.live.nodes.get id with
    | none => simp [hostnameIn, hn]
    | some n =>
      rw [hostnameIn_of_get hn, hfiles (id, key) (by simp [hfiled, hid]) n hn]
      rfl
  | set msg c gated o hf ho => exact commit_named hlive ho (h.flights _ (runs_mem hf))
  | rotated id text key n hf hn | noted id text key r n hf hn hnew
  | forced id text key r n hf hn => exact hlive.set hn rfl
  | swept threshold cands hf => exact sweep_named _ hlive (hsweep _ hf)
  | deregistered n msg logged hn => exact departNode_named hlive hn
  | amended op logged hop =>
    refine amends_named (step_amends hop) (fun id name hoffers => ?_) hlive
    cases op with
    | directorySync msg =>
      obtain ⟨net, -, entry, hentry, henabled, -, rfl⟩ := hoffers
      exact hevent entry hentry henabled
    | _ => exact hoffers.elim
  | started order horder => exact boot_named h.file h.log horder (hevent horder)
  | failedOver s hs => exact h.standby _ hs
  | _ => exact hlive

theorem NamesRight.step {E : NodeEnv} (h : NamesRight w) (hkeeps : KeepsNames E w e) :
    NamesRight (w.step E e) := by
  have hlive := h.live_step hkeeps
  refine ⟨hlive, step_nameValid h.flights, fun s hs => ?_, fun snap hsnap => ?_,
    fun d hd => ?_, fun s hs => ?_⟩
  · rcases mem_step_copies hs with ⟨hold, -⟩ | ⟨-, rfl⟩
    · exact h.copies s hold
    · exact h.live
  · rcases mem_step_file hsnap with hold | ⟨s, hs, rfl⟩
    · exact h.file snap hold
    · exact ⟨s, rfl, hs.elim (h.copies s) (h.standby s)⟩
  · rcases step_log hd with hold | hown
    · exact h.log d hold
    · exact hlive.logsValid hown
  · rcases mem_step_standby hs with hold | ⟨order, horder, rfl⟩
    · exact h.standby s hold
    · exact applySnapshot_named h.live horder _

/-- In every run in which no fresh record takes the place of one with a
hostname, no sweep deletes a node that changed its hostname since it was
scanned, every synchronisation brings valid names and every start finds the
hostnames of the log free, the index leads from a hostname to the one node
that has it, and all hostnames are valid. -/
theorem hostnames_hold_runs (E : NodeEnv) (now : Time) (es : List World.Event)
    (h : Meets (World.step E) (KeepsNames E) (World.fresh now) es) :
    Hostnames (run (World.step E) (World.fresh now) es).live :=
  (h.invariant (World.step E) (P := NamesRight) (fun _ _ hkeeps hw => hw.step hkeeps)
    (namesRight_fresh now)).live.hostnames

/-! ## A name that was changed before a sweep -/

/-- A node registers with a key and a hostname; its place among the requests
in flight is `i`. -/
def registersAs (i : Nat) (key name : String) : List World.Event :=
  [.register "host" [("public_key", .str key), ("listen_addr", .str "host:1"),
      ("hostname", .str name)],
    .go i [0] true, .go i [0] true]

/-- Node 1 takes another hostname. -/
def renames (i : Nat) (name : String) : List World.Event :=
  [.request .setHostname [("node_id", .num 1), ("hostname", .str name), ("signature", .str "AAAA")],
    .go i [] true]

theorem hostnames_hold_runs_swept :
    let es := registersAs 0 "AAAA" "a" ++ renames 0 "b" ++ registersAs 0 "BBBB" "c" ++
      [.tick 10, .scan 5 [1, 2], .go 0 [0] true, .start []]
    Hostnames (run (World.step .plain) (World.fresh 0) es).live ∧
      (run (World.step .plain) (World.fresh 0) es).live.hostnameIdx.get "c" = some 2 :=
  ⟨hostnames_hold_runs .plain 0 _ (by decide +kernel), by decide +kernel⟩

/-- Node 1 is scanned as `a` and takes the name `b`, and node 2 registers as
`a`. The sweep takes `a` out of the index, and leaves `b` in it. -/
theorem hostname_lost_in_sweep :
    let w := run (World.step .plain) (World.fresh 0)
      (registersAs 0 "AAAA" "a" ++ [.tick 10, .scan 5 [1]] ++ renames 1 "b" ++
        registersAs 1 "BBBB" "a" ++ [.go 0 [0] true])
    w.live.hostnameIdx.get "b" = some 1 ∧ w.live.nodes.get 1 = none ∧
      w.live.hostnameIdx.get "a" = none ∧
      (w.live.nodes.get 2).map NodeInfo.hostname = some "a" ∧ ¬ Hostnames w.live := by
  intro w
  have hindex : w.live.hostnameIdx.get "b" = some 1 := by decide +kernel
  have hgone : w.live.nodes.get 1 = none := by decide +kernel
  refine ⟨hindex, hgone, by decide +kernel, by decide +kernel, fun h => ?_⟩
  obtain ⟨-, n, hn, -⟩ := (h.index "b" 1).mp hindex
  rw [hgone] at hn
  cases hn

end Rendezvous.Lifecycle

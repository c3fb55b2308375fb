import Rendezvous.Recovery.Simulation

/-!
# Requests and flushes at once

`flushSave` copies memory under the read lock, encodes the copy and puts it
in the file's place, and truncates the log. Between these phases it holds
no lock that a request waits for, so requests and other flushes may run in
between. A request changes memory, appends its delta and returns.

Every mutation with deltas has a ticket, given out in the order memory
changed. So a copy has the mutations with tickets below the number given
out when it was made. Nothing that was recorded is lost in a run in which a
delta is appended only while every flush under way has its mutation in its
copy, and no flush puts an older copy in the place of a newer one
(`loses_nothing`).
-/

namespace Rendezvous.Recovery

open Base Registry Directory Identity Wal Persist

/-! ## The machine -/

/-- How far a flush has come. -/
inductive Phase where
  | copied
  | replaced
deriving DecidableEq

/-- A running `flushSave`: its copy of memory, and the number of tickets
given out before the copy. -/
structure Flush where
  copy : Server
  seen : Nat
  phase : Phase := .copied

/-- How far a request has come after it changed memory. A delta that the
log refused (`ErrWALFull`, or an error of the disk) is dropped. -/
inductive Progress where
  | applied
  | recorded
  | dropped
deriving DecidableEq

/-- A request that has changed memory and not returned. -/
structure Op where
  ticket : Nat
  deltas : List Delta
  nonempty : deltas ≠ []
  locked : Bool
  progress : Progress := .applied

/-- Memory, the file and the log, and what is under way. `filed` is the
number of tickets given out before the copy the file was made from;
`returned` are the recorded mutations whose request returned. -/
structure Store where
  live : Server
  tickets : Nat := 0
  disk : Option Snapshot := none
  filed : Nat := 0
  log : List (Nat × Delta) := []
  ops : List Op := []
  flushes : List Flush := []
  returned : List Op := []

/-- A registry right after a save, with nothing under way. -/
def Store.started (s : Server) : Store := { live := s, disk := some (save s) }

/-- The request holds the write lock until it returns. A key is replaced
under the lock, but recorded after it was released. -/
def holdsLock : Request → Bool
  | .rotateKey _ _ => false
  | .recoverIdentity _ _ => false
  | _ => true

/-- What may happen next. Requests and flushes under way are named by
their position. -/
inductive Action where
  | mutate (req : Request)
  | append (i : Nat)
  | refuse (i : Nat)
  | finish (i : Nat)
  | copy
  | replace (j : Nat)
  | giveUp (j : Nat)
  | truncate (j : Nat)

/-- The write lock is held. -/
def Store.busy (st : Store) : Bool := st.ops.any Op.locked

/-- A request changes memory. Without a delta it has nothing to record. -/
def Store.mutate (E : Env) (st : Store) (req : Request) : Store :=
  let sys := serve E { live := st.live } req
  match sys.wal with
  | [] => { st with live := sys.live }
  | d :: ds => { st with
      live := sys.live
      tickets := st.tickets + 1
      ops := st.ops ++ [{
        ticket := st.tickets
        deltas := d :: ds
        nonempty := List.cons_ne_nil d ds
        locked := holdsLock req }] }

/-- One step. What cannot happen changes nothing. -/
def Store.step (E : Env) (st : Store) : Action → Store
  | .mutate req => if st.busy then st else st.mutate E req
  | .append i =>
    match st.ops[i]? with
    | some op =>
      if op.progress = .applied then { st with
        log := st.log ++ op.deltas.map fun d => (op.ticket, d)
        ops := st.ops.set i { op with progress := .recorded } }
      else st
    | none => st
  | .refuse i =>
    match st.ops[i]? with
    | some op =>
      if op.progress = .applied then { st with
        ops := st.ops.set i { op with progress := .dropped } }
      else st
    | none => st
  | .finish i =>
    match st.ops[i]? with
    | some op =>
      match op.progress with
      | .applied => st
      | .recorded => { st with
          ops := st.ops.eraseIdx i
          returned := st.returned ++ [op] }
      | .dropped => { st with ops := st.ops.eraseIdx i }
    | none => st
  -- The read lock waits for the write lock.
  | .copy =>
    if st.busy then st
    else { st with
      flushes := st.flushes ++ [{ copy := st.live, seen := st.tickets }] }
  | .replace j =>
    match st.flushes[j]? with
    | some f =>
      if f.phase = .copied then { st with
        disk := some (save f.copy)
        filed := f.seen
        flushes := st.flushes.set j { f with phase := .replaced } }
      else st
    | none => st
  -- A snapshot that cannot be written leaves the log alone.
  | .giveUp j =>
    match st.flushes[j]? with
    | some f =>
      if f.phase = .copied then { st with flushes := st.flushes.eraseIdx j }
      else st
    | none => st
  | .truncate j =>
    match st.flushes[j]? with
    | some f =>
      if f.phase = .replaced then { st with
        log := []
        flushes := st.flushes.eraseIdx j }
      else st
    | none => st

/-- What a step can do to a store. -/
inductive Stepped (st : Store) : Action → Store → Prop where
  | idle (a : Action) : Stepped st a st
  | changed (req : Request) (s : Server) : Stepped st (.mutate req) { st with live := s }
  | mutated (req : Request) (s : Server) (op : Op)
      (hticket : op.ticket = st.tickets) (hprogress : op.progress = .applied) :
      Stepped st (.mutate req) { st with
        live := s
        tickets := st.tickets + 1
        ops := st.ops ++ [op] }
  | appended (i : Nat) (op : Op) (hop : st.ops[i]? = some op)
      (hprogress : op.progress = .applied) : Stepped st (.append i) { st with
        log := st.log ++ op.deltas.map fun d => (op.ticket, d)
        ops := st.ops.set i { op with progress := .recorded } }
  | refused (i : Nat) (op : Op) (hop : op ∈ st.ops) : Stepped st (.refuse i) { st with
        ops := st.ops.set i { op with progress := .dropped } }
  | returned (i : Nat) (op : Op) (hop : op ∈ st.ops)
      (hprogress : op.progress = .recorded) :
      Stepped st (.finish i) { st with
        ops := st.ops.eraseIdx i
        returned := st.returned ++ [op] }
  | unrecorded (i : Nat) : Stepped st (.finish i) { st with ops := st.ops.eraseIdx i }
  | copied : Stepped st .copy { st with
        flushes := st.flushes ++ [{ copy := st.live, seen := st.tickets }] }
  | replaced (j : Nat) (f : Flush) (hf : st.flushes[j]? = some f)
      (hphase : f.phase = .copied) :
      Stepped st (.replace j) { st with
        disk := some (save f.copy)
        filed := f.seen
        flushes := st.flushes.set j { f with phase := .replaced } }
  | gaveUp (j : Nat) : Stepped st (.giveUp j) { st with flushes := st.flushes.eraseIdx j }
  | truncated (j : Nat) (f : Flush) (hf : st.flushes[j]? = some f)
      (hphase : f.phase = .replaced) :
      Stepped st (.truncate j) { st with
        log := []
        flushes := st.flushes.eraseIdx j }

theorem Store.mutate_stepped (E : Env) (st : Store) (req : Request) :
    Stepped st (.mutate req) (st.mutate E req) := by
  unfold Store.mutate
  cases hwal : (serve E { live := st.live } req).wal with
  | nil =>
    simp only [hwal]
    exact .changed req _
  | cons d ds =>
    simp only [hwal]
    exact .mutated req _ _ rfl rfl

theorem Store.step_stepped (E : Env) (st : Store) (a : Action) : Stepped st a (st.step E a) := by
  cases a with
  | mutate req =>
    simp only [Store.step]
    split
    · exact .idle _
    · exact st.mutate_stepped E req
  | append i =>
    simp only [Store.step]
    split
    · next op hop =>
      split
      · next hprogress => exact .appended i op hop hprogress
      · exact .idle _
    · exact .idle _
  | refuse i =>
    simp only [Store.step]
    split
    · next op hop =>
      split
      · exact .refused i op (List.mem_of_getElem? hop)
      · exact .idle _
    · exact .idle _
  | finish i =>
    simp only [Store.step]
    split
    · next op hop =>
      split
      · exact .idle _
      · next hprogress =>
        exact .returned i op (List.mem_of_getElem? hop) hprogress
      · exact .unrecorded i
    · exact .idle _
  | copy =>
    simp only [Store.step]
    split
    · exact .idle _
    · exact .copied
  | replace j =>
    simp only [Store.step]
    split
    · next f hf =>
      split
      · next hphase => exact .replaced j f hf hphase
      · exact .idle _
    · exact .idle _
  | giveUp j =>
    simp only [Store.step]
    split
    · split
      · exact .gaveUp j
      · exact .idle _
    · exact .idle _
  | truncate j =>
    simp only [Store.step]
    split
    · next f hf =>
      split
      · next hphase => exact .truncated j f hf hphase
      · exact .idle _
    · exact .idle _

/-! ## What is kept -/

variable {E : Env} {s : Server} {st st' : Store} {a : Action} {op : Op}

/-- The log has all deltas of the mutation. -/
def Store.Logs (st : Store) (op : Op) : Prop := ∀ d ∈ op.deltas, (op.ticket, d) ∈ st.log

instance (st : Store) (op : Op) : Decidable (st.Logs op) :=
  inferInstanceAs (Decidable (∀ d ∈ op.deltas, _))

/-- After the run the file is the save of memory at a point of the run at
which the mutation had been made. -/
def InFile (E : Env) (s : Server) (as : List Action) (op : Op) : Prop :=
  ∃ bs ∈ as.inits, (run (Store.step E) (.started s) as).disk =
      some (save (run (Store.step E) (.started s) bs).live) ∧
    op.ticket < (run (Store.step E) (.started s) bs).tickets

instance (E : Env) (s : Server) (as : List Action) (op : Op) : Decidable (InFile E s as op) :=
  inferInstanceAs (Decidable (∃ bs ∈ as.inits, _))

/-- After the run no recorded mutation whose request has returned is lost in
a crash: the file has it, or the log has its deltas. -/
def LosesNothing (E : Env) (s : Server) (as : List Action) : Prop :=
  ∀ op ∈ (run (Store.step E) (.started s) as).returned,
    InFile E s as op ∨ (run (Store.step E) (.started s) as).Logs op

instance (E : Env) (s : Server) (as : List Action) : Decidable (LosesNothing E s as) :=
  inferInstanceAs (Decidable (∀ op ∈ _, _))

/-- A delta is appended only while every flush under way has its mutation in
its copy, and the file is only replaced by a copy that is no older. -/
def Orderly (st : Store) : Action → Prop
  | .append i => ∀ op ∈ st.ops[i]?, ∀ f ∈ st.flushes, op.ticket < f.seen
  | .replace j => ∀ f ∈ st.flushes[j]?, st.filed ≤ f.seen
  | _ => True

instance decidableOrderly (st : Store) (a : Action) : Decidable (Orderly st a) := by
  rcases a <;> unfold Orderly <;> infer_instance

/-! ## The file along a run -/

/-- A point of the run has this memory, after this many mutations. -/
def Was (E : Env) (s : Server) (as : List Action) (copy : Server) (seen : Nat) : Prop :=
  ∃ bs ∈ as.inits, copy = (run (Store.step E) (.started s) bs).live ∧
    seen = (run (Store.step E) (.started s) bs).tickets

theorem Was.snoc {as : List Action} {copy : Server} {seen : Nat} (h : Was E s as copy seen)
    (a : Action) : Was E s (as ++ [a]) copy seen := by
  obtain ⟨bs, hbs, hwas⟩ := h
  refine ⟨bs, (List.mem_inits _ _).mpr ?_, hwas⟩
  exact ((List.mem_inits _ _).mp hbs).trans (List.prefix_append _ _)

/-- The file and the copies of the flushes under way are memory at points of
the run. -/
structure Traced (E : Env) (s : Server) (as : List Action) (st : Store) : Prop where
  file : ∃ copy, st.disk = some (save copy) ∧ Was E s as copy st.filed
  copies : ∀ f ∈ st.flushes, Was E s as f.copy f.seen

theorem Traced.step {as : List Action} (h : Traced E s as st) (hstep : Stepped st a st')
    (hrun : st = run (Store.step E) (.started s) as) : Traced E s (as ++ [a]) st' := by
  obtain ⟨copy, hdisk, hwas⟩ := h.file
  have hfile : ∃ copy, st.disk = some (save copy) ∧ Was E s (as ++ [a]) copy st.filed :=
    ⟨copy, hdisk, hwas.snoc a⟩
  have hcopies : ∀ f ∈ st.flushes, Was E s (as ++ [a]) f.copy f.seen :=
    fun f hf => (h.copies f hf).snoc a
  cases hstep with
  | copied =>
    refine ⟨hfile, fun f hf => ?_⟩
    rcases List.mem_append.mp hf with hold | hnew
    · exact hcopies f hold
    · rw [List.mem_singleton.mp hnew, hrun]
      exact ⟨as, (List.mem_inits _ _).mpr (List.prefix_append _ _), rfl, rfl⟩
  | replaced j f hf hphase =>
    have hcopy := hcopies f (List.mem_of_getElem? hf)
    refine ⟨⟨f.copy, rfl, hcopy⟩, fun f' hf' => ?_⟩
    rcases List.mem_or_eq_of_mem_set hf' with hold | rfl
    · exact hcopies f' hold
    · exact hcopy
  | gaveUp j => exact ⟨hfile, fun f hf => hcopies f (List.mem_of_mem_eraseIdx hf)⟩
  | truncated j f hf hphase =>
    exact ⟨hfile, fun f' hf' => hcopies f' (List.mem_of_mem_eraseIdx hf')⟩
  | _ => exact ⟨hfile, hcopies⟩

/-- What the file is made from, after every run. -/
theorem traced_run (E : Env) (s : Server) (as : List Action) :
    Traced E s as (run (Store.step E) (.started s) as) := by
  induction as using List.reverseRecOn with
  | nil =>
    refine ⟨⟨s, rfl, [], by simp, rfl, rfl⟩, fun f hf => ?_⟩
    cases hf
  | append_singleton as a ih =>
    rw [run_append]
    exact ih.step (Store.step_stepped E _ a) rfl

/-! ## Orderly runs -/

/-- The mutation's deltas were appended. -/
def Store.Recorded (st : Store) (op : Op) : Prop :=
  op ∈ st.returned ∨ op ∈ st.ops ∧ op.progress = .recorded

/-- What was recorded is in the file or in the log, whether or not its
request has returned; and a flush under way has all mutations of the log in
its copy, which the file has too once it was written. -/
structure Store.Safe (st : Store) : Prop where
  kept : ∀ op, st.Recorded op → op.ticket < st.filed ∨ st.Logs op
  issued : ∀ op ∈ st.ops, op.ticket < st.tickets
  logged : ∀ e ∈ st.log, e.1 < st.tickets
  copied : ∀ f ∈ st.flushes, ∀ e ∈ st.log, e.1 < f.seen
  written : ∀ f ∈ st.flushes, f.phase = .replaced → f.seen ≤ st.filed

/-- A step of a request that is not an append leaves file, log and flushes
alone. -/
theorem Store.Safe.of_ops (h : st.Safe) {ops returned : List Op} {live : Server} {tickets : Nat}
    (htickets : st.tickets ≤ tickets) (hissued : ∀ op ∈ ops, op.ticket < tickets)
    (hrecorded : ∀ op, op ∈ returned ∨ op ∈ ops ∧ op.progress = .recorded → st.Recorded op) :
    Store.Safe { st with
      live := live, tickets := tickets, ops := ops, returned := returned } :=
  ⟨fun op hop => h.kept op (hrecorded op hop), hissued,
    fun e he => Nat.lt_of_lt_of_le (h.logged e he) htickets, h.copied, h.written⟩

/-- One orderly step. -/
theorem Store.Safe.step (h : st.Safe) (hstep : Stepped st a st') (ha : Orderly st a) :
    st'.Safe := by
  cases hstep with
  | idle => exact h
  | changed req s => exact h.of_ops (Nat.le_refl _) h.issued fun op hop => hop
  | mutated req s op hticket hprogress =>
    refine h.of_ops (Nat.le_succ _) (fun op' hop' => ?_) fun op' hop' => ?_
    · rcases List.mem_append.mp hop' with hold | hnew
      · exact Nat.lt_succ_of_lt (h.issued op' hold)
      · rw [List.mem_singleton.mp hnew, hticket]
        exact Nat.lt_succ_self _
    · rcases hop' with hold | ⟨hmem, hrec⟩
      · exact Or.inl hold
      · rcases List.mem_append.mp hmem with hold | hnew
        · exact Or.inr ⟨hold, hrec⟩
        · rw [List.mem_singleton.mp hnew, hprogress] at hrec
          cases hrec
  | appended i op hop hprogress =>
    have hmem := List.mem_of_getElem? hop
    have hlogs : ∀ op', st.Logs op' → ∀ d ∈ op'.deltas,
        (op'.ticket, d) ∈ st.log ++ op.deltas.map fun d => (op.ticket, d) :=
      fun op' hop' d hd => List.mem_append_left _ (hop' d hd)
    refine ⟨fun op' hop' => ?_, fun op' hop' => ?_, fun e he => ?_, fun f hf e he => ?_, h.written⟩
    · rcases hop' with hret | ⟨hin, hrec⟩
      · exact (h.kept op' (Or.inl hret)).imp_right (hlogs op')
      · rcases List.mem_or_eq_of_mem_set hin with hold | rfl
        · exact (h.kept op' (Or.inr ⟨hold, hrec⟩)).imp_right (hlogs op')
        · -- the deltas just appended
          exact Or.inr fun d hd => List.mem_append_right _ (List.mem_map_of_mem hd)
    · rcases List.mem_or_eq_of_mem_set hop' with hold | rfl
      · exact h.issued op' hold
      · exact h.issued op hmem
    · rcases List.mem_append.mp he with hold | hnew
      · exact h.logged e hold
      · obtain ⟨d, -, rfl⟩ := List.mem_map.mp hnew
        exact h.issued op hmem
    · rcases List.mem_append.mp he with hold | hnew
      · exact h.copied f hf e hold
      · obtain ⟨d, -, rfl⟩ := List.mem_map.mp hnew
        exact ha op hop f hf
  | refused i op hop =>
    refine h.of_ops (Nat.le_refl _) (fun op' hop' => ?_) fun op' hop' => ?_
    · rcases List.mem_or_eq_of_mem_set hop' with hold | rfl
      · exact h.issued op' hold
      · exact h.issued op hop
    · rcases hop' with hret | ⟨hmem, hrec⟩
      · exact Or.inl hret
      · rcases List.mem_or_eq_of_mem_set hmem with hold | rfl
        · exact Or.inr ⟨hold, hrec⟩
        · cases hrec
  | returned i op hop hprogress =>
    refine h.of_ops (Nat.le_refl _) (fun op' hop' => h.issued op' (List.mem_of_mem_eraseIdx hop'))
      fun op' hop' => ?_
    rcases hop' with hret | ⟨hmem, hrec⟩
    · rcases List.mem_append.mp hret with hold | hnew
      · exact Or.inl hold
      · rw [List.mem_singleton.mp hnew]
        exact Or.inr ⟨hop, hprogress⟩
    · exact Or.inr ⟨List.mem_of_mem_eraseIdx hmem, hrec⟩
  | unrecorded i =>
    exact h.of_ops (Nat.le_refl _) (fun op' hop' => h.issued op' (List.mem_of_mem_eraseIdx hop'))
      fun op' hop' => hop'.imp_right fun hin => ⟨List.mem_of_mem_eraseIdx hin.1, hin.2⟩
  | copied =>
    refine ⟨h.kept, h.issued, h.logged, fun f hf => ?_, fun f hf hphase => ?_⟩
    · rcases List.mem_append.mp hf with hold | hnew
      · exact h.copied f hold
      · rw [List.mem_singleton.mp hnew]
        exact h.logged
    · rcases List.mem_append.mp hf with hold | hnew
      · exact h.written f hold hphase
      · rw [List.mem_singleton.mp hnew] at hphase
        cases hphase
  | replaced j f hf hphase =>
    have hle : st.filed ≤ f.seen := ha f hf
    refine ⟨fun op hop => ?_, h.issued, h.logged, fun f' hf' => ?_, fun f' hf' hrep => ?_⟩
    · exact (h.kept op hop).imp_left fun hlt => Nat.lt_of_lt_of_le hlt hle
    · rcases List.mem_or_eq_of_mem_set hf' with hold | rfl
      · exact h.copied f' hold
      · exact h.copied f (List.mem_of_getElem? hf)
    · rcases List.mem_or_eq_of_mem_set hf' with hold | rfl
      · exact (h.written f' hold hrep).trans hle
      · exact Nat.le_refl _
  | gaveUp j =>
    exact ⟨h.kept, h.issued, h.logged, fun f hf => h.copied f (List.mem_of_mem_eraseIdx hf),
      fun f hf => h.written f (List.mem_of_mem_eraseIdx hf)⟩
  | truncated j f hf hphase =>
    -- what the log had is in the copy of this flush, and so in the file
    have hmem := List.mem_of_getElem? hf
    refine ⟨fun op hop => ?_, h.issued, fun e he => (by cases he), fun f' hf' e he => (by cases he),
      fun f' hf' => h.written f' (List.mem_of_mem_eraseIdx hf')⟩
    rcases h.kept op hop with hlt | hlogs
    · exact Or.inl hlt
    · obtain ⟨d, hd⟩ := List.exists_mem_of_ne_nil op.deltas op.nonempty
      have hseen := h.copied f hmem _ (hlogs d hd)
      exact Or.inl (Nat.lt_of_lt_of_le hseen (h.written f hmem hphase))

theorem Store.safe_started (s : Server) : (Store.started s).Safe := by
  refine ⟨?_, ?_, ?_, ?_, ?_⟩
  · rintro op (hop | ⟨hop, -⟩) <;> cases hop
  · intro op hop
    cases hop
  · intro e he
    cases he
  · intro f hf
    cases hf
  · intro f hf
    cases hf

/-- At every point of an orderly run every recorded mutation whose request
has returned is in the file, which is the save of memory after it was made,
or in the log with all its deltas. -/
theorem loses_nothing (E : Env) (s : Server) (as : List Action)
    (hmeets : Meets (Store.step E) Orderly (.started s) as) :
    ∀ bs, bs <+: as → LosesNothing E s bs := by
  intro bs hbs op hop
  have hsafe : (run (Store.step E) (.started s) bs).Safe :=
    (hmeets.initial (Store.step E) hbs).invariant (Store.step E)
      (fun st a ha h => h.step (st.step_stepped E a) ha) (Store.safe_started s)
  refine (hsafe.kept op (Or.inl hop)).imp_left fun hlt => ?_
  obtain ⟨copy, hdisk, cs, hcs, rfl, hfiled⟩ := (traced_run E s bs).file
  exact ⟨cs, hcs, hdisk, hfiled ▸ hlt⟩

/-- A node registers while a flush is between its copy and its write. -/
def registerDuringFlush : List Action :=
  [.copy, .mutate (.register 0 [] "" [("public_key", .str "AAAA")]), .append 0, .finish 0,
    .replace 0, .truncate 0]

/-- The truncation takes the only trace of the registration: it was
answered, and after a crash the node is not there. -/
theorem registration_lost_in_flush :
    let st := run (Store.step .plain) (.started (freshServer 0)) registerDuringFlush
    ¬ LosesNothing .plain (freshServer 0) registerDuringFlush ∧
      st.returned.map Op.ticket = [0] ∧ st.live.nodes.has 1 = true ∧
      (boot 0 [] st.disk (st.log.map Prod.snd)).nodes.has 1 = false := by
  decide +kernel

-- Of two flushes the older copy may come last, and the log is empty then.
example : ¬ LosesNothing .plain (freshServer 0)
    [.copy, .mutate (.register 0 [] "" [("public_key", .str "AAAA")]), .append 0, .finish 0,
      .copy, .replace 1, .truncate 1, .replace 0] := by
  decide +kernel

/-- A node registers, a flush copies memory with it, and another node
registers before the flush ends and records that after it. -/
theorem loses_nothing_register :
    let as : List Action :=
      [.mutate (.register 0 [] "" [("public_key", .str "AAAA")]), .append 0, .finish 0,
        .copy, .replace 0, .mutate (.register 0 [] "" [("public_key", .str "BBBB")]),
        .truncate 0, .append 0, .finish 0]
    let st := run (Store.step .plain) (.started (freshServer 0)) as
    st.returned.map Op.ticket = [0, 1] ∧ st.log.map Prod.fst = [1] ∧
      LosesNothing .plain (freshServer 0) as := by
  intro as st
  refine ⟨by decide +kernel, by decide +kernel, ?_⟩
  exact loses_nothing .plain (freshServer 0) as (by decide +kernel) as (List.prefix_refl as)

end Rendezvous.Recovery

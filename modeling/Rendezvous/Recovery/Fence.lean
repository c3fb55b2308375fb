import Rendezvous.Persist.Replica
import Rendezvous.Recovery.System

/-!
# Fencing by terms

A promotion raises the replication term of a server, so that it ignores the
snapshots of the primary it replaced. A snapshot is applied in two phases
under two locks: the term is checked, and after the new maps were built they
are swapped in together with the snapshot's term. `flushSave` writes every
part of the state but the term.

The steps below interleave any number of promotions, snapshots and saves
with the end of the process and its start from the file. Requests stand for
any change of the state that leaves the term alone, and the log a process
finds when it starts is any.

The check of a snapshot is worth something as long as nothing raises the term
before the swap: no promotion, and no swap of another snapshot. Then the term
never goes down, unless a process starts from a file that lacks it
(`fenced_runs`).
-/

namespace Rendezvous.Recovery

open Base Registry Wal Persist

/-! ## The two phases -/

variable (validate : String → Bool) (size : Push → Nat)

/-- The first phase of `applySnapshot`: the snapshot is decoded, and its term
is not older than the server's. -/
def admits (sb : Peer) (push : Push) : Bool :=
  size push ≤ maxSnapshotSize && ¬ push.term < sb.term

/-- The second phase: the maps and the term are swapped. -/
def swapIn (order : List NodeId) (sb : Peer) (push : Push) : Peer where
  server := applySnapshot order sb.server push.snapshot
  term := push.term
  idpConfig := acceptedIDP validate sb.idpConfig push.idpConfig

/-- With nothing between its phases a call is `applySnapshot`. -/
theorem applySnapshot_eq_phases (order : List NodeId) (sb : Peer) (push : Push) :
    Peer.applySnapshot validate size order sb push =
      if size push ≤ maxSnapshotSize then
        .ok (if admits size sb push then swapIn validate order sb push else sb)
      else .error s!"snapshot too large: {size push} bytes (max {maxSnapshotSize})" := by
  unfold Peer.applySnapshot admits
  by_cases hsize : size push ≤ maxSnapshotSize
  · by_cases hterm : push.term < sb.term
    · simp only [require, hsize, decide_true, if_true, hterm, not_true, decide_false,
        Bool.and_false, Bool.false_eq_true, if_false]
      rfl
    · simp only [require, hsize, decide_true, if_true, hterm, not_false_eq_true,
        Bool.and_true, if_false]
      rfl
  · simp only [require, hsize, decide_false, if_false, Bool.false_eq_true]
    rfl

/-! ## The machine -/

/-- What `flushSave` writes. The term of the file is the zero value of its
field. -/
def savedFile (p : Peer) : Push where
  snapshot := save p.server
  term := 0
  idpConfig := p.idpConfig

/-- The server `NewWithStore` starts, with `load` taking the term from the
file. -/
def startPeer (now : Time) (order : List NodeId) (disk : Option Push)
    (wal : List Delta) : Peer where
  server := boot now order (disk.map Push.snapshot) wal
  term := (disk.map Push.term).getD 0
  idpConfig := disk.bind fun file => acceptedIDP validate none file.idpConfig

/-- A server, its file, and the calls under way. `promoted` are the terms of
the promotions that have returned. -/
structure Fence where
  peer : Peer
  disk : Option Push := none
  applying : List Push := []
  promoting : List UInt64 := []
  promoted : List UInt64 := []
  flushes : List Push := []

/-- A server with nothing under way, and a file of an earlier state if there
is one. -/
def Fence.started (peer : Peer) (earlier : Option Peer) : Fence where
  peer := peer
  disk := earlier.map savedFile

/-- What may happen next. Calls under way are named by their position. -/
inductive Fence.Action where
  | request (server : Server)
  | promote
  | returned (i : Nat)
  | check (push : Push)
  | swap (i : Nat) (order : List NodeId)
  | copy
  | write (j : Nat)
  | restart (now : Time) (order : List NodeId) (wal : List Delta)

/-- One step. A restart stands for a stop and for a crash: what is under way
is gone, and what was saved is in the file. -/
def Fence.step (f : Fence) : Fence.Action → Fence
  | .request server => { f with peer := { f.peer with server := server } }
  | .promote =>
    { f with
      peer := { f.peer with term := f.peer.term + 1 }
      promoting := f.promoting ++ [f.peer.term + 1] }
  -- The save of a promotion may fail; the promotion returns all the same.
  | .returned i =>
    match f.promoting[i]? with
    | some term =>
      { f with
        promoting := f.promoting.eraseIdx i
        promoted := f.promoted ++ [term] }
    | none => f
  | .check push =>
    if admits size f.peer push then { f with applying := f.applying ++ [push] } else f
  | .swap i order =>
    match f.applying[i]? with
    | some push =>
      { f with
        peer := swapIn validate order f.peer push
        applying := f.applying.eraseIdx i }
    | none => f
  | .copy => { f with flushes := f.flushes ++ [savedFile f.peer] }
  | .write j =>
    match f.flushes[j]? with
    | some file => { f with disk := some file, flushes := f.flushes.eraseIdx j }
    | none => f
  | .restart now order wal =>
    { peer := startPeer validate now order f.disk wal
      disk := f.disk
      promoted := f.promoted }

/-! ## Terms along a run -/

/-- The term after an event that may raise it, while calls are between
their phases. -/
def Fence.raisesTo (f : Fence) : Fence.Action → Option UInt64
  | .promote => some (f.peer.term + 1)
  | .swap i _ => (f.applying[i]?).map Push.term
  | _ => none

/-- A promotion or a swap does not overtake a snapshot of a smaller term that
has passed its check; a promotion finds a next term; a process starts from a
file with the server's term. -/
def Fence.Orderly (f : Fence) (a : Fence.Action) : Prop :=
  (∀ term ∈ f.raisesTo a, ∀ push ∈ f.applying, term ≤ push.term) ∧
  match a with
  | .promote => f.peer.term ≠ 18446744073709551615
  | .restart _ _ _ => (f.disk.map Push.term).getD 0 = f.peer.term
  | _ => True

instance (f : Fence) (a : Fence.Action) : Decidable (f.Orderly a) := by
  unfold Fence.Orderly
  rcases a <;> infer_instance

/-- What a step does, if it can happen. -/
inductive Fence.Stepped (f : Fence) : Fence.Action → Fence → Prop where
  | request (server : Server) :
      f.Stepped (.request server) { f with peer := { f.peer with server := server } }
  | promote : f.Stepped .promote { f with
        peer := { f.peer with term := f.peer.term + 1 }
        promoting := f.promoting ++ [f.peer.term + 1] }
  | returned {i : Nat} {term : UInt64} (hget : f.promoting[i]? = some term) :
      f.Stepped (.returned i) { f with
        promoting := f.promoting.eraseIdx i
        promoted := f.promoted ++ [term] }
  | check (push : Push) (hterm : f.peer.term ≤ push.term) :
      f.Stepped (.check push) { f with applying := f.applying ++ [push] }
  | swap {i : Nat} (order : List NodeId) {push : Push}
      (hget : f.applying[i]? = some push) :
      f.Stepped (.swap i order) { f with
        peer := swapIn validate order f.peer push
        applying := f.applying.eraseIdx i }
  | copy : f.Stepped .copy { f with flushes := f.flushes ++ [savedFile f.peer] }
  | write {j : Nat} {file : Push} (hget : f.flushes[j]? = some file) : f.Stepped (.write j)
        { f with disk := some file, flushes := f.flushes.eraseIdx j }
  | restart (now : Time) (order : List NodeId) (wal : List Delta) :
      f.Stepped (.restart now order wal) {
        peer := startPeer validate now order f.disk wal
        disk := f.disk
        promoted := f.promoted }
  | idle (a : Fence.Action) : f.Stepped a f

theorem Fence.step_stepped (f : Fence) (a : Fence.Action) :
    f.Stepped validate a (f.step validate size a) := by
  cases a with
  | request server => exact .request server
  | promote => exact .promote
  | returned i =>
    cases hget : f.promoting[i]? with
    | none => simpa only [Fence.step, hget] using Stepped.idle _
    | some term => simpa only [Fence.step, hget] using Stepped.returned hget
  | check push =>
    cases hok : admits size f.peer push with
    | false => simpa only [Fence.step, hok, Bool.false_eq_true, if_false] using Stepped.idle _
    | true =>
      have hterm : f.peer.term ≤ push.term := by
        simp only [admits, Bool.and_eq_true, decide_eq_true_eq] at hok
        exact UInt64.not_lt.mp hok.2
      simpa only [Fence.step, hok, if_true] using Stepped.check push hterm
  | swap i order =>
    cases hget : f.applying[i]? with
    | none => simpa only [Fence.step, hget] using Stepped.idle _
    | some push => simpa only [Fence.step, hget] using Stepped.swap order hget
  | copy => exact .copy
  | write j =>
    cases hget : f.flushes[j]? with
    | none => simpa only [Fence.step, hget] using Stepped.idle _
    | some file => simpa only [Fence.step, hget] using Stepped.write hget
  | restart now order wal => exact .restart now order wal

variable {validate}

/-- Every snapshot that has passed its check is as new as the server. -/
def Fence.Fresh (f : Fence) : Prop := ∀ push ∈ f.applying, f.peer.term ≤ push.term

theorem Fence.Fresh.step {f g : Fence} {a : Fence.Action} (h : f.Fresh)
    (hstep : f.Stepped validate a g) (hok : f.Orderly a) : g.Fresh := by
  cases hstep with
  | promote => exact fun push hpush => hok.1 _ rfl push hpush
  | check push hterm =>
    intro push' hpush
    rcases List.mem_append.mp hpush with hold | hnew
    · exact h push' hold
    · rw [List.mem_singleton.mp hnew]
      exact hterm
  | swap order hget =>
    have hraises : f.raisesTo (.swap _ order) = some _ := congrArg (Option.map Push.term) hget
    exact fun push hpush => hok.1 _ hraises push (List.mem_of_mem_eraseIdx hpush)
  | restart now order wal =>
    intro push hpush
    cases hpush
  | _ => exact h

/-- A step does not lower the term: a snapshot that is swapped in was checked,
and nothing has raised the term since. -/
theorem Fence.Fresh.term_le {f g : Fence} {a : Fence.Action} (h : f.Fresh)
    (hstep : f.Stepped validate a g) (hok : f.Orderly a) : f.peer.term ≤ g.peer.term := by
  cases hstep with
  | promote =>
    have hnext : f.peer.term ≠ 18446744073709551615 := hok.2
    show f.peer.term ≤ f.peer.term + 1
    rw [ne_eq, ← UInt64.toNat_inj] at hnext
    rw [UInt64.le_iff_toNat_le, UInt64.toNat_add]
    have hlt := f.peer.term.toNat_lt
    have hone : (1 : UInt64).toNat = 1 := rfl
    have hmax : (18446744073709551615 : UInt64).toNat = 18446744073709551615 := rfl
    rw [hmax] at hnext
    rw [hone]
    omega
  | swap order hget => exact h _ (List.mem_of_getElem? hget)
  | restart now order wal =>
    have hterm : (startPeer validate now order f.disk wal).term = f.peer.term := hok.2
    exact hterm ▸ UInt64.le_refl _
  | _ => exact UInt64.le_refl _

/-- Every promotion made the server's term at least its own. -/
def Fence.Raised (f : Fence) : Prop :=
  ∀ term, term ∈ f.promoting ∨ term ∈ f.promoted → term ≤ f.peer.term

theorem Fence.Raised.step {f g : Fence} {a : Fence.Action} (h : f.Raised)
    (hstep : f.Stepped validate a g) (hle : f.peer.term ≤ g.peer.term) : g.Raised := by
  have hold : ∀ term, term ∈ f.promoting ∨ term ∈ f.promoted → term ≤ g.peer.term :=
    fun term hterm => UInt64.le_trans (h term hterm) hle
  cases hstep with
  | promote =>
    rintro term (hterm | hterm)
    · rcases List.mem_append.mp hterm with hterm | hterm
      · exact hold term (Or.inl hterm)
      · rw [List.mem_singleton.mp hterm]
        exact UInt64.le_refl _
    · exact hold term (Or.inr hterm)
  | returned hget =>
    rintro term (hterm | hterm)
    · exact hold term (Or.inl (List.mem_of_mem_eraseIdx hterm))
    · rcases List.mem_append.mp hterm with hterm | hterm
      · exact hold term (Or.inr hterm)
      · rw [List.mem_singleton.mp hterm]
        exact hold _ (Or.inl (List.mem_of_getElem? hget))
  | restart now order wal =>
    rintro term (hterm | hterm)
    · cases hterm
    · exact hold term (Or.inr hterm)
  | _ => exact hold

variable (validate)

/-- The term of a server never decreases along the run, and no snapshot is
swapped in with a smaller term than a promotion that has returned. -/
structure Fence.Fenced (f : Fence) (as : List Fence.Action) : Prop where
  monotone : ∀ xs ys zs, as = xs ++ ys ++ zs → (run (Fence.step validate size) f xs).peer.term ≤
      (run (Fence.step validate size) f (xs ++ ys)).peer.term
  fresh : ∀ xs i order zs push, as = xs ++ .swap i order :: zs →
    (run (Fence.step validate size) f xs).applying[i]? = some push →
    ∀ term ∈ (run (Fence.step validate size) f xs).promoted, term ≤ push.term

/-- What a run of steps that meet the condition preserves. -/
theorem Fence.orderly_invariant {f : Fence} (h : f.Fresh) (hraised : f.Raised)
    {as : List Fence.Action} (hmeets : Meets (Fence.step validate size) Fence.Orderly f as) :
    (run (Fence.step validate size) f as).Fresh ∧ (run (Fence.step validate size) f as).Raised ∧
      f.peer.term ≤ (run (Fence.step validate size) f as).peer.term := by
  have hrun := hmeets.invariant (Fence.step validate size)
    (P := fun g => g.Fresh ∧ g.Raised ∧ f.peer.term ≤ g.peer.term)
  refine hrun (fun g a hok ⟨hfresh, hra, hle⟩ => ?_) ⟨h, hraised, UInt64.le_refl _⟩
  have hstep := Fence.step_stepped validate size g a
  have hmore := hfresh.term_le hstep hok
  exact ⟨hfresh.step hstep hok, hra.step hstep hmore, UInt64.le_trans hle hmore⟩

/-- A run from a server with nothing under way is fenced if promotions and
swaps overtake no snapshot of a smaller term between its check and its swap,
no promotion is made at the largest term, and every start finds the server's
term in the file. -/
theorem fenced_runs (peer : Peer) (earlier : Option Peer) (as : List Fence.Action)
    (h : Meets (Fence.step validate size) Fence.Orderly (Fence.started peer earlier) as) :
    (Fence.started peer earlier).Fenced validate size as := by
  set f := Fence.started peer earlier with hf
  have hfresh : f.Fresh := fun push hpush => by cases hpush
  have hra : f.Raised := by
    rintro term (hterm | hterm)
    · cases hterm
    · cases hterm
  constructor
  · rintro xs ys zs rfl
    have hxs := h.initial _ (List.prefix_append (xs ++ ys) zs)
    rw [meets_append] at hxs
    obtain ⟨hfresh', hra', -⟩ := Fence.orderly_invariant validate size hfresh hra hxs.1
    rw [run_append]
    exact (Fence.orderly_invariant validate size hfresh' hra' hxs.2).2.2
  · rintro xs i order zs push rfl hget term hterm
    obtain ⟨hxs, -, -⟩ := (meets_append _ _ _ _ _).mp h
    obtain ⟨hfresh', hra', -⟩ := Fence.orderly_invariant validate size hfresh hra hxs
    exact UInt64.le_trans (hra' term (Or.inr hterm)) (hfresh' push (List.mem_of_getElem? hget))

/-- A save and a restart, a snapshot of term two applied while another one of
that term is checked, and then a promotion. -/
theorem fenced_runs_promoted :
    let push : Push := { snapshot := snapshotJSON {}, term := 2, idpConfig := none }
    let as : List Fence.Action := [.copy, .write 0, .restart 0 [] [], .check push, .check push,
      .swap 0 [], .swap 0 [], .promote, .returned 0]
    let f := Fence.started { server := {} } none
    f.Fenced (fun _ => true) (fun _ => 0) as ∧
      (run (Fence.step (fun _ => true) fun _ => 0) f as).promoted = [3] :=
  ⟨fenced_runs _ _ _ _ _ (by decide +kernel), by decide +kernel⟩

/-- A push of term zero, checked before a promotion and swapped in after it
has returned. -/
def lateSwap : List Fence.Action :=
  [.check { snapshot := snapshotJSON {}, term := 0, idpConfig := none }, .promote,
    .returned 0, .swap 0 []]

/-- The term goes back from one to zero, and the swap is of an older snapshot
than the promotion. A save and a restart lose the term as well. -/
theorem stale_snapshot_applied : (∀ validate : String → Bool,
      (run (Fence.step validate fun _ => 0) (Fence.started { server := {} } none)
          (lateSwap.take 3)).promoted = [1] ∧
        (run (Fence.step validate fun _ => 0) (Fence.started { server := {} } none)
          (lateSwap.take 3)).peer.term = 1 ∧
        (run (Fence.step validate fun _ => 0) (Fence.started { server := {} } none)
          lateSwap).peer.term = 0) ∧
    ∀ (validate : String → Bool) (now : Time),
      (run (Fence.step validate fun _ => 0) (Fence.started { server := {} } none)
        [.promote, .copy, .write 0, .returned 0, .restart now [] []]).peer.term = 0 := by
  refine ⟨fun validate => ⟨rfl, rfl, rfl⟩, fun validate now => rfl⟩

end Rendezvous.Recovery

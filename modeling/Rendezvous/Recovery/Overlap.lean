import Rendezvous.Recovery.Simulation

/-!
# A file that has part of the log already

A snapshot may hold the first deltas of the log it is loaded with, and they
are then applied twice. The log may be replayed over any beginning of it in
which nothing is taken back and no key is rotated. Otherwise the second
application shows: a rotation is counted twice, and a node that registered
and left takes with it the hostname another node has since.
-/

namespace Rendezvous.Recovery

open Base Registry Wal Identity

/-- After the deltas `later`, `d` has nothing left to do: unless it is a
rotation it has nothing to do at first, and what takes it back is followed
by the removal of what it is about. -/
def stays (d : Delta) (later : List Delta) : Bool :=
  later.foldl (fun done e => settles e d || (done && !undoes e d)) (!rotates d)

/-- After all the deltas, each of them has nothing left to do. -/
def Repeatable : List Delta → Prop
  | [] => True
  | d :: ds => stays d ds = true ∧ Repeatable ds

instance : (ds : List Delta) → Decidable (Repeatable ds)
  | [] => inferInstanceAs (Decidable True)
  | d :: ds =>
    have := instDecidableRepeatable ds
    inferInstanceAs (Decidable (stays d ds = true ∧ Repeatable ds))

theorem Settled.foldl {v : View} {d : Delta} {done : Bool}
    (h : done = true → Settled v d) (later : List Delta)
    (hstays : later.foldl (fun done e => settles e d || (done && !undoes e d))
      done = true) : Settled (later.foldl View.apply v) d := by
  induction later generalizing v done with
  | nil => exact h hstays
  | cons e later ih =>
    refine ih (fun hdone => ?_) hstays
    rcases Bool.or_eq_true_iff.mp hdone with hgone | hkept
    · exact settled_of_settles hgone
    · simp only [Bool.and_eq_true, Bool.not_eq_true'] at hkept
      exact (h hkept.1).apply hkept.2

/-- After repeatable deltas every one of them is settled. -/
theorem Repeatable.settled {v : View} (hv : Tidy v) {ds : List Delta}
    (h : Repeatable ds) : ∀ d ∈ ds, Settled (ds.foldl View.apply v) d := by
  induction ds generalizing v with
  | nil => simp
  | cons e ds ih =>
    intro d hd
    rw [List.foldl_cons]
    rcases List.mem_cons.mp hd with rfl | hd
    · refine Settled.foldl (fun hdone => ?_) ds h.1
      exact settled_self hv (Bool.not_eq_true' _ ▸ hdone)
    · exact ih (hv.apply e) h.2 d hd

/-- Settled deltas change nothing, all together. -/
theorem foldl_settled (now : Time) {s : Server} {ds : List Delta}
    (hformed : ∀ d ∈ ds, WellFormed d) (h : ∀ d ∈ ds, Settled (view s) d) :
    ds.foldl (applyOr now) s = s := by
  induction ds with
  | nil => rfl
  | cons d ds ih =>
    rw [List.foldl_cons, applyOr_settled now (hformed d (by simp)) (h d (by simp))]
    exact ih (fun x hx => hformed x (by simp [hx])) fun x hx => h x (by simp [hx])

/-- The log replayed over a state that already has its first `k` deltas
gives the state the log gives once, if those are repeatable. -/
theorem replay_over_beginning (now : Time) (s : Server) (ds : List Delta) (k : Nat)
    (hs : Tidy (view s)) (hrep : Repeatable ((replayed ds).take k)) :
    replay now (replay now s (ds.take k)) ds = replay now s ds := by
  let first := (replayed ds).take k
  let rest := (replayed ds).drop k
  have hall : replayed ds = first ++ rest := (List.take_append_drop k _).symm
  have hformed : ∀ d ∈ first, WellFormed d := fun d hd =>
    wellFormed_of_replayed (List.mem_of_mem_take hd)
  have hview : view (first.foldl (applyOr now) s) = first.foldl View.apply (view s) := by
    rw [← replay_wellFormed hformed]
    exact view_replay now s hformed
  have hagain : first.foldl (applyOr now) (first.foldl (applyOr now) s) =
      first.foldl (applyOr now) s := by
    refine foldl_settled now hformed ?_
    rw [hview]
    exact hrep.settled hs
  have hfirst : replay now s (ds.take k) = first.foldl (applyOr now) s := by
    rw [replay_eq_foldl, replayed_take]
  rw [hfirst, replay_eq_foldl now _ ds, replay_eq_foldl now s ds, hall]
  calc (first ++ rest).foldl (applyOr now) (first.foldl (applyOr now) s)
      = rest.foldl (applyOr now)
          (first.foldl (applyOr now) (first.foldl (applyOr now) s)) :=
        List.foldl_append
    _ = rest.foldl (applyOr now) (first.foldl (applyOr now) s) := by rw [hagain]
    _ = (first ++ rest).foldl (applyOr now) s := List.foldl_append.symm

/-- Two nodes that never meet have the same hostname: the second registers
after the first has left. -/
def reusedHostname : List Request :=
  [.register 0 [] "" [("public_key", .str "AAAA"), ("hostname", .str "h")],
    .deregister (adminMsg [("node_id", .node 1)]),
    .register 0 [] "" [("public_key", .str "AAAB"), ("hostname", .str "h")]]

/-- Replayed over the state it led to, that log files the first node again
under the hostname, and its departure takes the hostname from the second. -/
theorem hostname_lost_in_overlap :
    ¬ ∀ (E : Env) (now : Time) (s : Server) (requests : List Request) (k : Nat),
      let ds := (run (serve E) (savedSystem s) requests).wal
      replay now (replay now s (ds.take k)) ds = replay now s ds := by
  intro h
  have hsame := h .plain 0 (freshServer 0) reusedHostname 3
  have hindex := congrArg (fun s => s.hostnameIdx.get "h") hsame
  exact absurd hindex (by decide)

theorem tidy_freshServer (now : Time) : Tidy (view (freshServer now)) where
  nodes := fun id n hn => by simp [view, freshServer] at hn
  nets := fun netID net hnet => by
    rw [view_networks_get] at hnet
    obtain ⟨net', hget, rfl⟩ := Option.map_eq_some_iff.mp hnet
    rw [(freshServer_networks hget).2]
    exact List.nodup_nil

/-- The log of the shared network over a file that has both
registrations. -/
theorem replay_over_beginning_shared :
    let ds := (run (serve .plain) (savedSystem (freshServer 0)) sharedNetwork).wal
    ds.length = 4 ∧ Repeatable ((replayed ds).take 2) ∧
      replay 0 (replay 0 (freshServer 0) (ds.take 2)) ds = replay 0 (freshServer 0) ds := by
  intro ds
  have hrep : Repeatable ((replayed ds).take 2) := by decide
  exact ⟨by decide, hrep, replay_over_beginning 0 (freshServer 0) ds 2 (tidy_freshServer 0) hrep⟩

end Rendezvous.Recovery

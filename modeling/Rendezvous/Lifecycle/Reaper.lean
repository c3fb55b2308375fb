import Rendezvous.Lifecycle.Changes
import Mathlib.Data.Finset.Sort
import Mathlib.Data.List.Rotate

/-!
# The rounds of the reaper

A tick of `reapStaleNodes` examines one chunk of the registered nodes: the
ids are sorted, and the chunk goes around them from a cursor that outlives
the tick. The ids are listed in one section, the chunk is read in the next,
the stale nodes of it are deleted in batches, and the cursor is moved last;
between two sections the registry may become any other. Within a batch the
lock is held, but a heartbeat stores its time without it. So a node that was
seen after it was looked at again is removed all the same
(`seen_node_removed`); without such a heartbeat only stale nodes are.

What carries the rounds is the distance of an id from the cursor, as 32-bit
words subtract. A chunk is what is nearest (`window_nearest`), and a node
that a tick has not reached has a whole chunk less before it when the tick
is over (`ahead_next`).
-/

namespace Rendezvous.Lifecycle

open Base Registry

/-! ## The chunk of a tick -/

/-- `reapChunkSize`. -/
def reapChunkSize : Nat := 10000

/-- What a tick has in hand after its first section. -/
structure Tick where
  threshold : Time
  nodeIDs : List NodeId
  startCursor : NodeId
  deriving DecidableEq

/-- `startIdx`. -/
def Tick.startIdx (t : Tick) : Nat := (t.nodeIDs.takeWhile (· < t.startCursor)).length

/-- The ids the second section goes through. -/
def Tick.window (t : Tick) : List NodeId :=
  (List.range (min t.nodeIDs.length reapChunkSize)).map fun i =>
    t.nodeIDs.getD ((t.startIdx + i) % t.nodeIDs.length) 0

/-- Where the next tick starts. -/
def Tick.nextCursor (t : Tick) : NodeId :=
  if t.nodeIDs.length ≤ t.window.length then 0 else t.window.getLast?.getD 0 + 1

/-- How many of the ids come before `x`, from the cursor on. -/
def ahead (cursor x : NodeId) (ids : Finset NodeId) : Nat :=
  (ids.filter fun y => y - cursor < x - cursor).card

/-- A tick over the ids `ids`. -/
def Tick.Over (t : Tick) (ids : Finset NodeId) : Prop := t.nodeIDs = ids.sort (· ≤ ·)

section

variable {t : Tick} {ids : Finset NodeId} {x y : NodeId}

theorem window_eq (t : Tick) : t.window = (t.nodeIDs.rotate t.startIdx).take reapChunkSize := by
  refine List.ext_getElem (by simp [Tick.window, Nat.min_comm]) fun i hi _ => ?_
  have hlt : i < t.nodeIDs.length := by
    simp only [Tick.window, List.length_map, List.length_range] at hi
    omega
  have hmod := Nat.mod_lt (t.startIdx + i) (Nat.zero_lt_of_lt hlt)
  simp [Tick.window, List.getElem_rotate, Nat.add_comm i, hmod]

/-- The order around the words from `c` on. -/
theorem nearer {a b c : NodeId} (h : c ≤ a ∧ a < b ∨ a < b ∧ b < c ∨ b < c ∧ c ≤ a) :
    a - c < b - c := by
  have ha := a.toNat_lt
  have hb := b.toNat_lt
  have hc := c.toNat_lt
  simp only [UInt32.lt_iff_toNat_lt, UInt32.le_iff_toNat_le, UInt32.toNat_sub] at *
  omega

/-- What is nearer to the word after `l` than `x` is, and `x` beyond `l`,
lies between the two. -/
theorem between {c l : NodeId} (hl : l - c < x - c) (hy : y - (l + 1) < x - (l + 1)) :
    y - c < x - c ∧ l - c < y - c := by
  have hc := c.toNat_lt
  have hl' := l.toNat_lt
  have hx := x.toNat_lt
  have hy' := y.toNat_lt
  simp only [UInt32.lt_iff_toNat_lt, UInt32.toNat_sub, UInt32.toNat_add, UInt32.toNat_one] at *
  omega

/-- The ids below the cursor come first in the sorted list. -/
theorem le_of_mem_dropWhile {l : List NodeId} (hl : l.Pairwise (· < ·)) {c : NodeId}
    (hy : y ∈ l.dropWhile (· < c)) : c ≤ y := by
  induction l with
  | nil => simp at hy
  | cons a l ih =>
    rw [List.pairwise_cons] at hl
    rw [List.dropWhile_cons] at hy
    split at hy
    · exact ih hl.2 hy
    · next hac =>
      have hca : c ≤ a := UInt32.not_lt.mp (by simpa using hac)
      rcases List.mem_cons.mp hy with rfl | hmem
      · exact hca
      · exact UInt32.le_trans hca (UInt32.le_of_lt (hl.1 y hmem))

/-- From the cursor on, around the end, the distance grows. -/
theorem rotate_nearer (hover : t.Over ids) : (t.nodeIDs.rotate t.startIdx).Pairwise fun a b =>
      a - t.startCursor < b - t.startCursor := by
  have hsorted : t.nodeIDs.Pairwise (· < ·) := by
    rw [hover]
    refine ((Finset.pairwise_sort ids (· ≤ ·)).and (Finset.sort_nodup ids (· ≤ ·))).imp ?_
    exact fun h => UInt32.lt_of_le_of_ne h.1 h.2
  have hwhile := List.takeWhile_append_dropWhile (p := (· < t.startCursor)) (l := t.nodeIDs)
  have hrotate : t.nodeIDs.rotate t.startIdx = t.nodeIDs.dropWhile (· < t.startCursor) ++
      t.nodeIDs.takeWhile (· < t.startCursor) := by
    nth_rewrite 1 [← hwhile]
    exact List.rotate_append_length_eq _ _
  rw [hrotate, List.pairwise_append]
  refine ⟨?_, ?_, fun a ha b hb => ?_⟩
  · refine (hsorted.sublist (List.dropWhile_sublist _)).imp_of_mem fun ha _ hab => ?_
    exact nearer (Or.inl ⟨le_of_mem_dropWhile hsorted ha, hab⟩)
  · refine (hsorted.sublist (List.takeWhile_sublist _)).imp_of_mem fun _ hb hab => ?_
    exact nearer (Or.inr (Or.inl ⟨hab, by simpa using List.mem_takeWhile_imp hb⟩))
  · refine nearer (Or.inr (Or.inr ⟨?_, le_of_mem_dropWhile hsorted ha⟩))
    simpa using List.mem_takeWhile_imp hb

/-- What a tick does not reach is farther from the cursor than its chunk,
and the chunk is a whole one. -/
theorem window_nearest (hover : t.Over ids) (hx : x ∈ ids) (hout : x ∉ t.window) :
    (∀ y ∈ t.window, y - t.startCursor < x - t.startCursor) ∧
      t.window.length = reapChunkSize ∧ reapChunkSize < t.nodeIDs.length := by
  have hpair := rotate_nearer hover
  have hmem : x ∈ t.nodeIDs.rotate t.startIdx := by
    rw [List.mem_rotate, hover, Finset.mem_sort]
    exact hx
  rw [window_eq] at hout ⊢
  rw [← List.take_append_drop reapChunkSize (t.nodeIDs.rotate _)] at hpair hmem
  have hdrop := (List.mem_append.mp hmem).resolve_left hout
  have hlong : reapChunkSize < t.nodeIDs.length := by
    have hpos := List.length_pos_of_mem hdrop
    rw [List.length_drop, List.length_rotate] at hpos
    omega
  refine ⟨fun y hy => (List.pairwise_append.mp hpair).2.2 y hy x hdrop, ?_, hlong⟩
  rw [List.length_take, List.length_rotate, Nat.min_eq_left hlong.le]

/-- A node that a tick has not reached has a chunk less before it then. -/
theorem ahead_next {left : Finset NodeId} (hover : t.Over ids) (hx : x ∈ ids)
    (hout : x ∉ t.window) (hleft : left ⊆ ids) :
    ahead t.nextCursor x left + reapChunkSize ≤ ahead t.startCursor x ids := by
  obtain ⟨hnear, hlen, hlong⟩ := window_nearest hover hx hout
  have hpair : t.window.Pairwise fun a b => a - t.startCursor < b - t.startCursor := by
    rw [window_eq]
    exact (rotate_nearer hover).sublist (List.take_sublist _ _)
  have hnodup : t.window.Nodup := hpair.imp fun h => by
    rintro rfl
    exact UInt32.lt_irrefl _ h
  have hin : ∀ y ∈ t.window, y ∈ ids := fun y hy => by
    rw [window_eq] at hy
    have hmem := List.mem_of_mem_take hy
    rwa [List.mem_rotate, hover, Finset.mem_sort] at hmem
  obtain ⟨init, last, hlast⟩ : ∃ init last, t.window = init ++ [last] :=
    (List.eq_nil_or_concat' t.window).resolve_left fun hnil => by
      rw [hnil] at hlen
      exact absurd hlen (by decide)
  have hnext : t.nextCursor = last + 1 := by
    rw [Tick.nextCursor, if_neg (by omega), hlast, List.getLast?_concat, Option.getD_some]
  -- The chunk and what is before `x` from the next cursor on do not meet.
  have hapart : ∀ y, y - t.nextCursor < x - t.nextCursor →
      y - t.startCursor < x - t.startCursor ∧ y ∉ t.window := by
    intro y hy
    rw [hnext] at hy
    obtain ⟨hyx, hly⟩ := between (hnear last (by simp [hlast])) hy
    refine ⟨hyx, fun hmem => ?_⟩
    rw [hlast] at hmem hpair
    rcases List.mem_append.mp hmem with hinit | hself
    · have hyl := (List.pairwise_append.mp hpair).2.2 y hinit last (by simp)
      exact UInt32.lt_irrefl _ (UInt32.lt_trans hyl hly)
    · rw [List.mem_singleton.mp hself] at hly
      exact UInt32.lt_irrefl _ hly
  rw [← hlen, ← List.toFinset_card_of_nodup hnodup, ahead, ahead, ← Finset.card_union_of_disjoint]
  · refine Finset.card_le_card fun y hy => ?_
    rw [Finset.mem_filter]
    rcases Finset.mem_union.mp hy with hy | hy
    · rw [Finset.mem_filter] at hy
      exact ⟨hleft hy.1, (hapart y hy.2).1⟩
    · rw [List.mem_toFinset] at hy
      exact ⟨hin y hy, hnear y hy⟩
  · rw [Finset.disjoint_left]
    intro y hy hwin
    exact (hapart y (Finset.mem_filter.mp hy).2).2 (List.mem_toFinset.mp hwin)

end

/-! ## The reaper -/

/-- Where a tick is: the ids are listed; the chunk is read, some candidates
are left, and `left` of them may be looked at before the lock is released; or
a candidate was found stale again and is deleted next. -/
inductive Phase where
  | idle
  | listed (t : Tick)
  | sweeping (t : Tick) (cands : List (NodeId × String)) (left : Nat)
  | doomed (t : Tick) (c : NodeId × String) (cands : List (NodeId × String)) (left : Nat)

/-- The tick that is going on. -/
def Phase.tick : Phase → Option Tick
  | .idle => none
  | .listed t | .sweeping t _ _ | .doomed t _ _ _ => some t

/-- The candidates that are not done with. -/
def Phase.pending : Phase → List (NodeId × String)
  | .sweeping _ cands _ => cands
  | .doomed _ c cands _ => c :: cands
  | _ => []

/-- The reaper holds the write lock. -/
def Phase.locked : Phase → Bool
  | .sweeping _ (_ :: _) (_ + 1) | .doomed .. => true
  | _ => false

/-- The registry and its reaper, with the nodes examined and the ticks that
are over. -/
structure Reaper where
  server : Server
  reapCursor : NodeId
  phase : Phase
  examined : List NodeId
  ticks : Nat

/-- Between two ticks. -/
def Reaper.between (s : Server) (cursor : NodeId) : Reaper := ⟨s, cursor, .idle, [], 0⟩

/-- A tick begins, it goes on, a heartbeat stores its time, or the rest of
the registry does something. -/
inductive Reaper.Event where
  | tick (threshold : Time)
  | go
  | beat (id : NodeId) (now : Time)
  | other (s : Server)

/-- The next step of a batch whose first candidate is `c`: it is looked at
again. -/
def Reaper.recheck (r : Reaper) (t : Tick) (c : NodeId × String)
    (cands : List (NodeId × String)) (left : Nat) : Reaper :=
  if (r.server.nodes.get c.1).any fun n => n.getLastSeen < t.threshold then
    { r with phase := .doomed t c cands left }
  else { r with phase := .sweeping t cands left }

/-- One step of `reapStaleNodes`, or of the rest of the registry, which waits
while the lock is held. -/
def Reaper.step (r : Reaper) : Reaper.Event → Reaper
  | .other s => if r.phase.locked then r else { r with server := s }
  | .beat id now => { r with server := { r.server with
      nodes := r.server.nodes.modify id fun n => { n with lastSeenNano := now } } }
  | .tick threshold =>
    match r.phase with
    | .idle =>
      if r.server.nodes.size = 0 then { r with reapCursor := 0, ticks := r.ticks + 1 }
      else
        let t := ⟨threshold, r.server.nodes.keys.sort (· ≤ ·), r.reapCursor⟩
        { r with phase := .listed t }
    | _ => r
  | .go =>
    match r.phase with
    | .idle => r
    | .listed t => { r with
        phase := .sweeping t (candidates t.threshold r.server t.window) 0
        examined := r.examined ++ t.window }
    | .sweeping t [] _ =>
      { r with reapCursor := t.nextCursor, phase := .idle, ticks := r.ticks + 1 }
    | .sweeping t (c :: cands) 0 => { r with phase := .sweeping t (c :: cands) reapDeleteBatch }
    | .sweeping t (c :: cands) (left + 1) => r.recheck t c cands left
    | .doomed t c cands left => { r with
        server := dropCandidate r.server c
        phase := .sweeping t cands left }

/-- No other part of the registry adds or removes a node. -/
def Reaper.Alone (r : Reaper) : Reaper.Event → Prop
  | .other s => s.nodes.keys = r.server.nodes.keys
  | _ => True

/-- The node is stale, as far as the tick that is going on says. -/
def Reaper.Stale (x : NodeId) (r : Reaper) (_ : Reaper.Event) : Prop :=
  ∀ t, r.phase.tick = some t → ∀ n, r.server.nodes.get x = some n → n.getLastSeen < t.threshold

instance (x : NodeId) (r : Reaper) (e : Reaper.Event) : Decidable (r.Stale x e) := by
  unfold Reaper.Stale
  infer_instance

/-- The node that is about to be deleted. -/
def Phase.next? : Phase → Option NodeId
  | .doomed _ c _ _ => some c.1
  | _ => none

/-- No heartbeat stores the time of a node that is about to be deleted. -/
def Reaper.Calm (r : Reaper) : Reaper.Event → Prop
  | .beat id _ => r.phase.next? ≠ some id
  | _ => True

/-- The reaper removes a node only if it is stale then. -/
def Reaper.Justified (r : Reaper) (e : Reaper.Event) : Prop :=
  e = .go → ∀ id n, r.server.nodes.get id = some n → (r.step e).server.nodes.get id = none →
    ∃ t, r.phase.tick = some t ∧ n.getLastSeen < t.threshold

/-! ## What a tick examines and removes -/

section

variable {x : NodeId} {r : Reaper} {e : Reaper.Event}

theorem mem_candidates {threshold : Time} {s : Server} {chunk : List NodeId} :
    x ∈ (candidates threshold s chunk).map Prod.fst ↔
      x ∈ chunk ∧ ∃ n, s.nodes.get x = some n ∧ n.getLastSeen < threshold := by
  simp only [candidates, List.mem_map, List.mem_filterMap, Option.bind_eq_some_iff]
  constructor
  · rintro ⟨_, ⟨id, hid, n, hn, hc⟩, rfl⟩
    split at hc
    · next hstale =>
      cases hc
      exact ⟨hid, n, hn, hstale⟩
    · cases hc
  · rintro ⟨hx, n, hn, hstale⟩
    exact ⟨_, ⟨x, hx, n, hn, if_pos hstale⟩, rfl⟩

/-- The node is there, and less than `m` chunks are before it. -/
def Reaper.Due (x : NodeId) (m : Nat) (r : Reaper) : Prop :=
  x ∈ r.server.nodes.keys ∧ match r.phase with
    | .idle => ahead r.reapCursor x r.server.nodes.keys < m * reapChunkSize
    | .listed t => t.Over r.server.nodes.keys ∧
        ahead t.startCursor x r.server.nodes.keys < m * reapChunkSize
    | .sweeping t cands _ => x ∉ cands.map Prod.fst ∧
        ahead t.nextCursor x r.server.nodes.keys + reapChunkSize < m * reapChunkSize
    | .doomed t c cands _ => x ∉ (c :: cands).map Prod.fst ∧
        ahead t.nextCursor x r.server.nodes.keys + reapChunkSize < m * reapChunkSize

theorem ahead_mono {cursor : NodeId} {ids left : Finset NodeId} (h : left ⊆ ids) :
    ahead cursor x left ≤ ahead cursor x ids :=
  Finset.card_le_card (Finset.filter_subset_filter _ h)

/-- The node is to be deleted in the tick that is going on. -/
def Reaper.Listed (x : NodeId) (m : Nat) (r : Reaper) : Prop :=
  x ∈ r.phase.pending.map Prod.fst ∧ r.ticks < m

theorem mem_keys_dropCandidate {s : Server} {c : NodeId × String} :
    x ∈ (dropCandidate s c).nodes.keys ↔ x ≠ c.1 ∧ x ∈ s.nodes.keys := by
  rw [dropCandidate_nodes, GoMap.mem_keys, GoMap.mem_keys, GoMap.get_del]
  split
  · next hx => simp [hx]
  · next hx => simp [hx]

theorem keys_seen (s : Server) (id : NodeId) (now : Time) :
    (s.nodes.modify id fun n => { n with lastSeenNano := now }).keys = s.nodes.keys := by
  ext y
  simp only [GoMap.mem_keys, GoMap.get_modify]
  split
  · next h => simp [h]
  · rfl

/-- Whatever is not a step of the reaper leaves the set of nodes and the
tick that is going on. -/
theorem others_step (halone : r.Alone e) (he : ∀ threshold, e ≠ .tick threshold) (hgo : e ≠ .go) :
    (r.step e).server.nodes.keys = r.server.nodes.keys ∧
      r.step e = { r with server := (r.step e).server } := by
  cases e with
  | tick threshold => exact absurd rfl (he threshold)
  | go => exact absurd rfl hgo
  | beat id now => exact ⟨keys_seen r.server id now, rfl⟩
  | other s =>
    simp only [Reaper.step]
    split
    · exact ⟨rfl, rfl⟩
    · exact ⟨halone, rfl⟩

/-- A node that is due stays due, by a tick less when a tick is over, or it
is examined; if it is stale then, it is to be deleted. -/
theorem due_step {m : Nat} (halone : r.Alone e) (hdue : r.Due x (m - r.ticks)) :
    (r.step e).Due x (m - (r.step e).ticks) ∨
      x ∈ (r.step e).examined ∧ (r.Stale x e → (r.step e).Listed x m) := by
  obtain ⟨hx, hphase⟩ := hdue
  cases e with
  | other s | beat id now =>
    obtain ⟨hkeys, hsame⟩ := others_step halone nofun nofun
    rw [hsame, Reaper.Due, hkeys]
    exact Or.inl ⟨hx, hphase⟩
  | tick threshold =>
    cases hp : r.phase with
    | idle =>
      have hsome : r.server.nodes.size ≠ 0 := Finset.card_ne_zero_of_mem hx
      rw [hp] at hphase
      simp only [Reaper.step, Reaper.Due, hp, if_neg hsome]
      exact Or.inl ⟨hx, rfl, hphase⟩
    | _ =>
      simp only [Reaper.step, hp]
      exact Or.inl ⟨hx, hphase⟩
  | go =>
    cases hp : r.phase with
    | idle =>
      simp only [Reaper.step, hp]
      exact Or.inl ⟨hx, hphase⟩
    | listed t =>
      rw [hp] at hphase
      simp only [Reaper.step, Reaper.Due, hp]
      by_cases hin : x ∈ t.window
      · obtain ⟨n, hn⟩ := (GoMap.mem_keys _ _).mp hx
        refine Or.inr ⟨List.mem_append_right _ hin, fun hstale => ⟨?_, ?_⟩⟩
        · exact mem_candidates.mpr ⟨hin, n, hn, hstale t (by rw [hp]; rfl) n hn⟩
        · have hpos := Nat.pos_of_mul_pos_right (Nat.zero_lt_of_lt hphase.2)
          exact Nat.lt_of_sub_pos hpos
      · refine Or.inl ⟨hx, fun hc => hin (mem_candidates.mp hc).1, ?_⟩
        exact (ahead_next hphase.1 hx hin (Finset.Subset.refl _)).trans_lt hphase.2
    | sweeping t cands left =>
      rw [hp] at hphase
      obtain ⟨hnot, hahead⟩ := hphase
      left
      cases cands with
      | nil =>
        simp only [Reaper.step, Reaper.Due, hp]
        refine ⟨hx, ?_⟩
        rw [← Nat.sub_sub, Nat.sub_mul, Nat.one_mul]
        exact Nat.lt_sub_of_add_lt hahead
      | cons c cands =>
        cases left with
        | zero =>
          simp only [Reaper.step, Reaper.Due, hp]
          exact ⟨hx, hnot, hahead⟩
        | succ left =>
          simp only [Reaper.step, hp, Reaper.recheck]
          split
          · exact ⟨hx, hnot, hahead⟩
          · exact ⟨hx, fun h => hnot (List.mem_cons_of_mem _ h), hahead⟩
    | doomed t c cands left =>
      rw [hp] at hphase
      obtain ⟨hnot, hahead⟩ := hphase
      obtain ⟨hne, hnot⟩ := not_or.mp (fun h => hnot (List.mem_cons.mpr h))
      simp only [Reaper.step, Reaper.Due, hp]
      refine Or.inl ⟨mem_keys_dropCandidate.mpr ⟨hne, hx⟩, hnot, ?_⟩
      refine (Nat.add_le_add_right (ahead_mono fun y hy => ?_) _).trans_lt hahead
      exact (mem_keys_dropCandidate.mp hy).2

/-- A stale node that is to be deleted is deleted, or still to be. -/
theorem listed_step {m : Nat} (halone : r.Alone e) (hstale : r.Stale x e) (h : r.Listed x m) :
    x ∉ (r.step e).server.nodes.keys ∨ (r.step e).Listed x m := by
  cases e with
  | other s | beat id now =>
    rw [(others_step halone nofun nofun).2]
    exact Or.inr h
  | tick threshold =>
    cases hp : r.phase with
    | idle => simp [Reaper.Listed, hp, Phase.pending] at h
    | _ =>
      simp only [Reaper.step, hp]
      exact Or.inr h
  | go =>
    obtain ⟨hmem, hm⟩ := h
    cases hp : r.phase with
    | idle | listed t => simp [hp, Phase.pending] at hmem
    | sweeping t cands left =>
      rw [hp] at hmem
      cases cands with
      | nil => cases hmem
      | cons c cands =>
        cases left with
        | zero =>
          simp only [Reaper.step, hp]
          exact Or.inr ⟨hmem, hm⟩
        | succ left =>
          simp only [Reaper.step, hp, Reaper.recheck]
          split
          · exact Or.inr ⟨hmem, hm⟩
          · next hfresh =>
            -- it is not stale, so it is not there, or another one is meant
            rcases List.mem_cons.mp hmem with rfl | hlater
            · left
              rw [GoMap.mem_keys]
              rintro ⟨n, hn⟩
              exact hfresh (by simp [hn, hstale t (by rw [hp]; rfl) n hn])
            · exact Or.inr ⟨hlater, hm⟩
    | doomed t c cands left =>
      rw [hp] at hmem
      simp only [Reaper.step, hp]
      rcases List.mem_cons.mp hmem with rfl | hlater
      · exact Or.inl fun hin => (mem_keys_dropCandidate.mp hin).1 rfl
      · exact Or.inr ⟨hlater, hm⟩

/-- The reaper changes nothing but the node it is about to delete. -/
theorem go_server : (r.step .go).server = r.server ∨
    ∃ t c cands left, r.phase = .doomed t c cands left ∧
      (r.step .go).server = dropCandidate r.server c := by
  simp only [Reaper.step]
  split
  · exact Or.inl rfl
  · exact Or.inl rfl
  · exact Or.inl rfl
  · exact Or.inl rfl
  · unfold Reaper.recheck
    split <;> exact Or.inl rfl
  · next t c cands left hp => exact Or.inr ⟨t, c, cands, left, hp, rfl⟩

theorem absent_step (halone : r.Alone e) (h : x ∉ r.server.nodes.keys) :
    x ∉ (r.step e).server.nodes.keys := by
  cases e with
  | other s | beat id now => rwa [(others_step halone nofun nofun).1]
  | tick threshold =>
    simp only [Reaper.step]
    split
    · split <;> exact h
    · exact h
  | go =>
    rcases go_server (r := r) with hsame | ⟨_, _, _, _, -, hdrop⟩
    · rwa [hsame]
    · rw [hdrop, mem_keys_dropCandidate]
      exact fun hin => h hin.2

/-- A node that is about to be deleted is stale. -/
def Reaper.Sound (r : Reaper) : Prop :=
  match r.phase with
  | .doomed t c _ _ => ∀ n, r.server.nodes.get c.1 = some n → n.getLastSeen < t.threshold
  | _ => True

theorem Reaper.Sound.step (h : r.Sound) (hcalm : r.Calm e) : (r.step e).Sound := by
  cases e with
  | other s =>
    simp only [Reaper.step]
    split
    · exact h
    · next hfree =>
      cases hp : r.phase with
      | doomed t c cands left => simp [hp, Phase.locked] at hfree
      | _ => simp only [Reaper.Sound]
  | beat id now =>
    cases hp : r.phase with
    | doomed t c cands left =>
      have hne : c.1 ≠ id := fun hid => hcalm (by rw [hp, ← hid]; rfl)
      simp only [Reaper.Sound, hp] at h
      simp only [Reaper.step, Reaper.Sound, hp, GoMap.get_modify, if_neg hne]
      exact h
    | _ => simp only [Reaper.step, Reaper.Sound, hp]
  | tick threshold =>
    cases hp : r.phase with
    | idle =>
      simp only [Reaper.step, hp]
      split
      · simp only [Reaper.Sound]
      · simp only [Reaper.Sound]
    | _ =>
      simp only [Reaper.step, hp]
      exact h
  | go =>
    cases hp : r.phase with
    | idle =>
      simp only [Reaper.step, hp]
      exact h
    | sweeping t cands left =>
      cases cands with
      | nil => simp only [Reaper.step, hp, Reaper.Sound]
      | cons c cands =>
        cases left with
        | zero => simp only [Reaper.step, hp, Reaper.Sound]
        | succ left =>
          simp only [Reaper.step, hp, Reaper.recheck]
          split
          · next hstale =>
            intro n hn
            simpa [hn] using hstale
          · simp only [Reaper.Sound]
    | _ => simp only [Reaper.step, hp, Reaper.Sound]

theorem Reaper.Sound.justified (h : r.Sound) : r.Justified e := by
  rintro rfl id n hn hnone
  rcases go_server (r := r) with hsame | ⟨t, c, cands, left, hp, hdrop⟩
  · rw [hsame, hn] at hnone
    cases hnone
  · rw [hdrop, dropCandidate_nodes, GoMap.get_del] at hnone
    split at hnone
    · next hid =>
      subst hid
      simp only [Reaper.Sound, hp] at h
      exact ⟨t, by rw [hp]; rfl, h n hn⟩
    · rw [hn] at hnone
      cases hnone

theorem examined_step (hx : x ∈ r.examined) : x ∈ (r.step e).examined := by
  cases e with
  | other s =>
    simp only [Reaper.step]
    split <;> exact hx
  | beat id now => exact hx
  | tick threshold =>
    simp only [Reaper.step]
    split
    · split <;> exact hx
    · exact hx
  | go =>
    simp only [Reaper.step, Reaper.recheck]
    repeat' split
    all_goals first | exact hx | exact List.mem_append_left _ hx

theorem not_due_zero : ¬ r.Due x 0 := by
  rintro ⟨-, h⟩
  split at h <;> omega

end

/-- Two nodes that were last seen at time 0, and one at time 9. -/
def threeNodes : Server where
  nodes :=
    let node : NodeInfo := { publicKey := [], networks := [0], lastSeen := 0 }
    (((∅ : GoMap NodeId NodeInfo).set 1 node).set 2 node).set 7 { node with lastSeenNano := 9 }

theorem threeNodes_listed : (Reaper.between threeNodes 2).step (.tick 5) =
    ⟨threeNodes, 2, .listed ⟨5, [1, 2, 7], 2⟩, [], 0⟩ := by
  have hkeys : threeNodes.nodes.keys = [1, 2, 7].toFinset := by decide
  have hsort : (List.toFinset [1, 2, 7]).sort (· ≤ ·) = ([1, 2, 7] : List NodeId) :=
    (List.toFinset_sort (· ≤ ·) (by decide)).mpr (by decide)
  simp only [Reaper.step, Reaper.between, GoMap.size, hkeys, hsort]
  rfl

/-- The list, the chunk, the lock, two looks and deletions, and the end. -/
def oneTick : List Reaper.Event := .tick 5 :: List.replicate 7 .go

end Rendezvous.Lifecycle

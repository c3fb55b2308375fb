import Rendezvous.Base.Buffer
import Rendezvous.Base.Json.Reflect
import Rendezvous.Base.Run

/-!
# The cached encoding of the trust pairs

The trust pairs are kept in shards, each under a lock of its own, and a
counter is moved by every change. A save or a snapshot reads the counter,
and calls `encode` of the one cache they share. Under its lock, `encode`
returns the bytes it has if they are young and were made at that count.
Otherwise it walks the shards one after the other, encodes what it met, and
writes the bytes into the buffer it has. What it returns is a slice of that
buffer, which the caller writes out later, without the lock.

`pairs_faithful_runs` says that every caller writes out the encoding of one
pass over the set, and of the set itself if nothing changed during its call,
in every run in which no buffer is overwritten that a caller has still to
write out.
-/

namespace Rendezvous.Saving

open Base
open Base.Json (Text Value encoderOutput)

/-! ## The set -/

/-- `trustPairShards`. -/
def trustPairShards : Nat := 256

/-- `trustShardIdx`. -/
def trustShardIdx (key : Text) : Fin trustPairShards :=
  let hash := key.foldl (fun (h : UInt32) b => (h ^^^ b.toUInt32) * 16777619) 2166136261
  ⟨hash.toNat % trustPairShards, Nat.mod_lt _ (by decide)⟩

/-- The shards of the set. -/
abbrev Shards := Fin trustPairShards → Finset Text

/-- `trustPairSet`, with the number of its changes. `revision` is that number
in 64 bits. -/
structure PairSet where
  shards : Shards := fun _ => ∅
  changes : Nat := 0

/-- Two counts of changes are the same revision. -/
def SameRevision (a b : Nat) : Prop := a % 2 ^ 64 = b % 2 ^ 64

instance (a b : Nat) : Decidable (SameRevision a b) := inferInstanceAs (Decidable (_ = _))

/-- `add`. -/
def PairSet.add (p : PairSet) (key : Text) : PairSet :=
  let i := trustShardIdx key
  if key ∈ p.shards i then p
  else {
    shards := Function.update p.shards i (insert key (p.shards i))
    changes := p.changes + 1 }

/-- `remove`. -/
def PairSet.remove (p : PairSet) (key : Text) : PairSet :=
  let i := trustShardIdx key
  if key ∈ p.shards i then {
    shards := Function.update p.shards i ((p.shards i).erase key)
    changes := p.changes + 1 }
  else p

/-- The order in which the keys of a shard are met. -/
def ShardOrder (shard : Finset Text) (order : List Text) : Prop :=
  order.Nodup ∧ order.toFinset = shard

instance (shard : Finset Text) (order : List Text) : Decidable (ShardOrder shard order) :=
  inferInstanceAs (Decidable (_ ∧ _))

/-- A walk of the shards goes on: the next shard, the keys met so far, and
the orders of the shards it reads now, one after the other. -/
def walkShards (shards : Shards) : Nat × List Text → List (List Text) → Option (Nat × List Text)
  | pos, [] => some pos
  | (next, keys), order :: orders =>
    if h : next < trustPairShards then
      if ShardOrder (shards ⟨next, h⟩) order then
        walkShards shards (next + 1, keys ++ order) orders
      else none
    else none

/-! ## The cache -/

/-- The encoding of the keys as a JSON array. -/
def encodeKeys (keys : List Text) : Text := encoderOutput (.slice (keys.map .string))

/-- `trustPairsEncodeCacheTTL`, in nanoseconds. -/
def trustPairsEncodeCacheTTL : Int := 10 * 60 * 1000000000

/-- `trustPairsEncodeCache`: the buffer, the count it was made at, the time
it was made, and who has the lock. `pass` is what the walk met that the
bytes were made from. -/
structure PairCache where
  b : Option Span := none
  rev : Nat := 0
  madeAt : Int := 0
  lock : Option Nat := none
  pass : List Text := []
  deriving DecidableEq

/-- Where a save or a snapshot is. It has read the counter; it walks the
shards; `encode` has returned; it has written the bytes. A call that has
returned remembers what walk the bytes are from, and the set as it was if
nothing changed since the counter was read. -/
inductive Call where
  | called (rev : Nat)
  | walking (rev : Nat) (next : Nat) (keys : List Text)
  | returned (result : Option Span) (pass : List Text) (still : Option Shards)
  | written

/-- The set, the arrays, the cache, the clock, the calls and the walks that
were completed. -/
structure Pairs where
  set : PairSet := {}
  arrays : Arrays UInt8 := {}
  cache : PairCache := {}
  now : Int := 0
  calls : List Call := []
  passes : List (List Text) := []

variable {keys : List Text} {shards : Shards} {s : Pairs} {rev : Nat}

/-- What may happen next. -/
inductive PairEvent where
  | add (key : Text)
  | remove (key : Text)
  | clock (now : Int)
  /-- A save or a snapshot reads the counter. -/
  | call
  /-- It takes the lock, and returns at once if the bytes are good. -/
  | enter (c : Nat)
  /-- It reads the next shards, with nothing in between. -/
  | walk (c : Nat) (orders : List (List Text))
  /-- It encodes what it met, stores the bytes and returns. A new buffer may
  have room to spare. -/
  | finish (c : Nat) (spare : List UInt8)
  /-- It writes the bytes out. -/
  | write (c : Nat)

/-- The set as it is, if it is as it was at the count. -/
def Pairs.still (s : Pairs) (rev : Nat) : Option Shards :=
  if s.set.changes = rev then some s.set.shards else none

/-- The bytes of the cache are good for a call that read the count. -/
def Pairs.hits (s : Pairs) (rev : Nat) : Bool :=
  s.cache.b.isSome && SameRevision s.cache.rev rev &&
    s.now - s.cache.madeAt < trustPairsEncodeCacheTTL

/-- `encode` after its walk. An empty list is no bytes at all. -/
def Pairs.store (s : Pairs) (c rev : Nat) (keys : List Text) (spare : List UInt8) : Pairs :=
  let passes := s.passes ++ [keys]
  let cache := { s.cache with rev := rev, madeAt := s.now, lock := none, pass := keys }
  if keys = [] then { s with
    cache := { cache with b := none }
    calls := s.calls.set c (.returned none keys (s.still rev))
    passes := passes }
  else
    let (arrays, sl) := s.arrays.refill s.cache.b (encodeKeys keys) spare
    { s with
      arrays := arrays
      cache := { cache with b := some sl }
      calls := s.calls.set c (.returned (some sl) keys (s.still rev))
      passes := passes }

/-- One event. What is not possible where the call is makes no event. -/
def Pairs.step (s : Pairs) : PairEvent → Pairs
  | .add key => { s with set := s.set.add key }
  | .remove key => { s with set := s.set.remove key }
  | .clock now => { s with now := now }
  | .call => { s with calls := s.calls ++ [.called s.set.changes] }
  | .enter c =>
    match s.calls[c]? with
    | some (.called rev) =>
      if s.cache.lock.isSome then s
      else if s.hits rev then
        { s with calls := s.calls.set c (.returned s.cache.b s.cache.pass (s.still rev)) }
      else { s with
        cache := { s.cache with lock := some c }
        calls := s.calls.set c (.walking rev 0 []) }
    | _ => s
  | .walk c orders =>
    match s.calls[c]? with
    | some (.walking rev next keys) =>
      match walkShards s.set.shards (next, keys) orders with
      | some (next, keys) => { s with calls := s.calls.set c (.walking rev next keys) }
      | none => s
    | _ => s
  | .finish c spare =>
    match s.calls[c]? with
    | some (.walking rev next keys) =>
      if next = trustPairShards then s.store c rev keys spare else s
    | _ => s
  | .write c =>
    match s.calls[c]? with
    | some (.returned _ _ _) => { s with calls := s.calls.set c .written }
    | _ => s

/-- What a call writes out. -/
def Pairs.output (s : Pairs) (c : Nat) : Option Text :=
  match s.calls[c]? with
  | some (.returned (some sl) _ _) => some (s.arrays.read sl)
  | _ => none

/-! ## What a call may write out -/

/-- The keys are those of the set, each once. -/
def Lists (keys : List Text) (shards : Shards) : Prop :=
  keys.Nodup ∧ ∀ k, k ∈ keys ↔ k ∈ shards (trustShardIdx k)

/-- What a call that has returned would write out now is the encoding of one
completed walk, and of the set as it was if nothing changed during the
call. -/
def Pairs.Faithful (s : Pairs) (c : Nat) : Prop :=
  ∀ result pass still, s.calls[c]? = some (.returned result pass still) →
    pass ∈ s.passes ∧ s.output c = (if pass = [] then none else some (encodeKeys pass)) ∧
      ∀ shards, still = some shards → Lists pass shards

/-- The slice a call has still to write out. -/
def Call.held : Call → Option Span
  | .returned result _ _ => result
  | _ => none

/-- No call stores into a buffer that another one has still to write out,
unless it has to take a new one; and the counter has not gone round. -/
def Pairs.Guarded (s : Pairs) : PairEvent → Prop
  | .enter _ => s.set.changes < 2 ^ 64
  | .finish c _ =>
    match s.calls[c]? with
    | some (.walking _ next keys) => next = trustPairShards → keys ≠ [] →
        ∀ b ∈ s.cache.b, s.arrays.Fits b (encodeKeys keys) →
          ∀ call ∈ s.calls, ∀ sl ∈ call.held, sl.arr ≠ b.arr
    | _ => True
  | _ => True

instance (s : Pairs) : (e : PairEvent) → Decidable (s.Guarded e)
  | .enter _ => inferInstanceAs (Decidable (_ < _))
  | .finish c _ => by
    unfold Pairs.Guarded
    simp only
    split <;> infer_instance
  | .add _ | .remove _ | .clock _ | .call | .walk _ _ | .write _ => isTrue trivial

/-! ## Walks -/

/-- The keys are those of the shards before `next`, each once. -/
def Met (next : Nat) (keys : List Text) (shards : Shards) : Prop :=
  keys.Nodup ∧ ∀ k, k ∈ keys ↔ (trustShardIdx k).val < next ∧ k ∈ shards (trustShardIdx k)

/-- Every key is in its shard. -/
def Home (shards : Shards) : Prop := ∀ i, ∀ k ∈ shards i, trustShardIdx k = i

theorem met_zero (shards : Shards) : Met 0 [] shards :=
  ⟨List.nodup_nil, fun k => by simp⟩

theorem Met.lists (h : Met trustPairShards keys shards) : Lists keys shards :=
  ⟨h.1, fun k => (h.2 k).trans (and_iff_right (trustShardIdx k).isLt)⟩

theorem Met.next {next : Nat} {order : List Text} (hhome : Home shards) (h : Met next keys shards)
    (hnext : next < trustPairShards) (horder : ShardOrder (shards ⟨next, hnext⟩) order) :
    Met (next + 1) (keys ++ order) shards := by
  have hin : ∀ k, k ∈ order ↔ k ∈ shards ⟨next, hnext⟩ := by
    intro k
    rw [← horder.2, List.mem_toFinset]
  have hplace : ∀ k, k ∈ shards ⟨next, hnext⟩ ↔
      (trustShardIdx k).val = next ∧ k ∈ shards (trustShardIdx k) := by
    intro k
    constructor
    · intro hk
      rw [hhome _ k hk]
      exact ⟨rfl, hk⟩
    · rintro ⟨hval, hk⟩
      have hidx : trustShardIdx k = ⟨next, hnext⟩ := Fin.ext hval
      rwa [hidx] at hk
  constructor
  · refine List.nodup_append.mpr ⟨h.1, horder.1, ?_⟩
    rintro k hk _ hk' rfl
    have hlt := ((h.2 k).mp hk).1
    have heq := ((hplace k).mp ((hin k).mp hk')).1
    omega
  · intro k
    rw [List.mem_append, h.2, hin, hplace]
    constructor
    · rintro (⟨hlt, hk⟩ | ⟨heq, hk⟩)
      · exact ⟨by omega, hk⟩
      · exact ⟨by omega, hk⟩
    · rintro ⟨hlt, hk⟩
      rcases Nat.lt_succ_iff_lt_or_eq.mp hlt with hlt | heq
      · exact Or.inl ⟨hlt, hk⟩
      · exact Or.inr ⟨heq, hk⟩

theorem met_walkShards (hhome : Home shards) {orders : List (List Text)}
    {pos pos' : Nat × List Text} (h : Met pos.1 pos.2 shards)
    (hwalk : walkShards shards pos orders = some pos') : Met pos'.1 pos'.2 shards := by
  induction orders generalizing pos with
  | nil =>
    cases hwalk
    exact h
  | cons order orders ih =>
    obtain ⟨next, keys⟩ := pos
    unfold walkShards at hwalk
    split at hwalk
    · next hnext =>
      split at hwalk
      · next horder => exact ih (h.next hhome hnext horder) hwalk
      · cases hwalk
    · cases hwalk

/-! ## What every event keeps -/

/-- What holds of a call. A call that walks has met what the shards before
its place have, as long as nothing changes. -/
def Pairs.CallOk (s : Pairs) : Call → Prop
  | .called rev => rev ≤ s.set.changes
  | .walking rev next keys => rev ≤ s.set.changes ∧
      (rev = s.set.changes → Met next keys s.set.shards)
  | .returned result pass still => pass ∈ s.passes ∧ (result = none ↔ pass = []) ∧
      (∀ sl, result = some sl → s.arrays.Valid sl ∧ s.arrays.read sl = encodeKeys pass) ∧
      ∀ shards, still = some shards → Lists pass shards
  | .written => True

/-- What holds of the buffer the cache has. -/
def Pairs.CacheOk (s : Pairs) (sl : Span) : Prop :=
  s.arrays.Valid sl ∧ s.arrays.read sl = encodeKeys s.cache.pass ∧ s.cache.pass ≠ [] ∧
    s.cache.pass ∈ s.passes ∧ (s.cache.rev = s.set.changes → Lists s.cache.pass s.set.shards)

structure Pairs.Steady (s : Pairs) : Prop where
  home : Home s.set.shards
  rev : s.cache.rev ≤ s.set.changes
  cache : ∀ sl, s.cache.b = some sl → s.CacheOk sl
  calls : ∀ (c : Nat) call, s.calls[c]? = some call → s.CallOk call

theorem steady_pairs : ({} : Pairs).Steady where
  home := fun i k hk => by cases hk
  rev := Nat.le_refl 0
  cache := nofun
  calls := fun c call hcall => by cases hcall

theorem faithful_of_steady (h : s.Steady) (c : Nat) : s.Faithful c := by
  intro result pass still hcall
  obtain ⟨hpass, hempty, hbytes, hstill⟩ := h.calls c _ hcall
  refine ⟨hpass, ?_, hstill⟩
  unfold Pairs.output
  rw [hcall]
  cases result with
  | none => rw [if_pos (hempty.mp rfl)]
  | some sl =>
    rw [if_neg fun hnil => by cases hempty.mpr hnil]
    exact congrArg some (hbytes sl rfl).2

/-- A change of the set leaves what was met behind, and nothing else. -/
theorem Pairs.Steady.change (h : s.Steady) {set : PairSet} (hhome : Home set.shards)
    (hset : set = s.set ∨ set.changes = s.set.changes + 1) :
    ({ s with set := set } : Pairs).Steady := by
  rcases hset with rfl | hmoved
  · exact h
  · have hold : ∀ rev, rev ≤ s.set.changes → rev ≤ set.changes ∧ rev ≠ set.changes := by
      intro rev hrev
      omega
    refine ⟨hhome, (hold _ h.rev).1, fun sl hsl => ?_, fun c call hcall => ?_⟩
    · obtain ⟨hvalid, hbytes, hsome, hpass, -⟩ := h.cache sl hsl
      exact ⟨hvalid, hbytes, hsome, hpass, fun heq => absurd heq (hold _ h.rev).2⟩
    · have hok := h.calls c call hcall
      cases call with
      | called rev => exact (hold rev hok).1
      | walking rev next keys =>
        exact ⟨(hold rev hok.1).1, fun heq => absurd heq (hold rev hok.1).2⟩
      | returned result pass still => exact hok
      | written => trivial

theorem home_add {p : PairSet} (h : Home p.shards) (key : Text) : Home (p.add key).shards := by
  unfold PairSet.add
  simp only
  split
  · exact h
  · intro i k hk
    simp only [Function.update_apply] at hk
    split at hk
    · next heq =>
      rcases Finset.mem_insert.mp hk with rfl | hk
      · exact heq.symm
      · exact (h _ k hk).trans heq.symm
    · exact h i k hk

theorem home_remove {p : PairSet} (h : Home p.shards) (key : Text) :
    Home (p.remove key).shards := by
  unfold PairSet.remove
  simp only
  split
  · intro i k hk
    simp only [Function.update_apply] at hk
    split at hk
    · next heq => exact (h _ k (Finset.mem_of_mem_erase hk)).trans heq.symm
    · exact h i k hk
  · exact h

theorem add_or_moved (p : PairSet) (key : Text) :
    p.add key = p ∨ (p.add key).changes = p.changes + 1 := by
  unfold PairSet.add
  simp only
  split
  · exact Or.inl rfl
  · exact Or.inr rfl

theorem remove_or_moved (p : PairSet) (key : Text) :
    p.remove key = p ∨ (p.remove key).changes = p.changes + 1 := by
  unfold PairSet.remove
  simp only
  split
  · exact Or.inr rfl
  · exact Or.inl rfl

/-- A call that goes on changes nothing for the others. -/
theorem Pairs.Steady.set (h : s.Steady) (c : Nat) {call : Call} (hok : s.CallOk call) :
    ({ s with calls := s.calls.set c call } : Pairs).Steady := by
  refine ⟨h.home, h.rev, h.cache, fun j other hother => ?_⟩
  have hcases : other = call ∨ s.calls[j]? = some other := by
    simp only [List.getElem?_set] at hother
    split at hother
    · split at hother
      · exact Or.inl (Option.some.inj hother).symm
      · cases hother
    · exact Or.inr hother
  rcases hcases with rfl | hother
  · exact hok
  · exact h.calls j other hother

/-- Bytes that are good were made from the set as it is, if nothing changed
since the count was read. -/
theorem Pairs.Steady.hit (h : s.Steady) (hround : s.set.changes < 2 ^ 64)
    (hrev : rev ≤ s.set.changes) (hhit : s.hits rev) :
    s.CallOk (.returned s.cache.b s.cache.pass (s.still rev)) := by
  simp only [Pairs.hits, Bool.and_eq_true, decide_eq_true_eq, Option.isSome_iff_exists] at hhit
  obtain ⟨⟨⟨sl, hsl⟩, hsame⟩, -⟩ := hhit
  obtain ⟨hvalid, hbytes, hsome, hpass, hcurrent⟩ := h.cache sl hsl
  have heq : s.cache.rev = rev := by
    have hle := h.rev
    unfold SameRevision at hsame
    rwa [Nat.mod_eq_of_lt (by omega), Nat.mod_eq_of_lt (by omega)] at hsame
  rw [hsl]
  refine ⟨hpass, ⟨by simp, fun hnil => absurd hnil hsome⟩, ?_, ?_⟩
  · rintro _ ⟨⟩
    exact ⟨hvalid, hbytes⟩
  · intro shards hstill
    unfold Pairs.still at hstill
    split at hstill
    · next hsame =>
      cases hstill
      exact hcurrent (heq.trans hsame.symm)
    · cases hstill

theorem lists_of_still (hmet : rev = s.set.changes → Met trustPairShards keys s.set.shards)
    (hstill : s.still rev = some shards) : Lists keys shards := by
  unfold Pairs.still at hstill
  split at hstill
  · next hsame =>
    cases hstill
    exact (hmet hsame.symm).lists
  · cases hstill

/-- Storing new bytes keeps those that are still to be written out, if they
are not in the buffer it stores into. -/
theorem Pairs.Steady.store (h : s.Steady) {c : Nat}
    (hcall : s.calls[c]? = some (.walking rev trustPairShards keys)) (spare : List UInt8)
    (hguard : s.Guarded (.finish c spare)) : (s.store c rev keys spare).Steady := by
  obtain ⟨hrev, hmet⟩ := h.calls c _ hcall
  simp only [Pairs.Guarded, hcall] at hguard
  unfold Pairs.store
  simp only
  split
  · next hnil =>
    subst hnil
    have hkeep : ({ s with
        cache := { s.cache with rev := rev, madeAt := s.now, lock := none, pass := [], b := none }
        passes := s.passes ++ [[]] } : Pairs).Steady := by
      refine ⟨h.home, hrev, nofun, fun j other hother => ?_⟩
      have hok := h.calls j other hother
      cases other with
      | returned _ _ _ => exact ⟨List.mem_append_left _ hok.1, hok.2⟩
      | written => trivial
      | _ => exact hok
    refine hkeep.set c ⟨by simp, by simp, nofun, fun shards hstill => lists_of_still hmet hstill⟩
  · next hsome =>
    have hvalid : ∀ sl, s.cache.b = some sl → s.arrays.Valid sl := fun sl hsl =>
      (h.cache sl hsl).1
    have hnew := Arrays.valid_refill hvalid (encodeKeys keys) spare
    have hread := Arrays.read_refill hvalid (encodeKeys keys) spare
    have hkeep : ({ s with
        arrays := (s.arrays.refill s.cache.b (encodeKeys keys) spare).1
        cache := { s.cache with
          rev := rev, madeAt := s.now, lock := none, pass := keys
          b := some (s.arrays.refill s.cache.b (encodeKeys keys) spare).2 }
        passes := s.passes ++ [keys] } : Pairs).Steady := by
      refine ⟨h.home, hrev, ?_, fun j other hother => ?_⟩
      · rintro _ ⟨⟩
        exact ⟨hnew, hread, hsome, by simp, fun heq => (hmet heq).lists⟩
      · have hok := h.calls j other hother
        cases other with
        | returned result pass still =>
          obtain ⟨hpass, hempty, hbytes, hstill⟩ := hok
          refine ⟨List.mem_append_left _ hpass, hempty, fun sl hsl => ?_, hstill⟩
          subst hsl
          obtain ⟨hsl, heq⟩ := hbytes sl rfl
          refine ⟨hsl.refill s.cache.b (encodeKeys keys) spare, ?_⟩
          rw [← heq]
          exact Arrays.read_refill_other hsl spare fun b hb hfits =>
            hguard trivial hsome b hb hfits _ (List.mem_of_getElem? hother) sl rfl
        | written => trivial
        | _ => exact hok
    refine hkeep.set c ⟨by simp, by simp [hsome], ?_, fun shards hstill =>
      lists_of_still hmet hstill⟩
    rintro _ ⟨⟩
    exact ⟨hnew, hread⟩

theorem steady_pairs_step (h : s.Steady) (e : PairEvent) (hguard : s.Guarded e) :
    (s.step e).Steady := by
  cases e with
  | add key => exact h.change (home_add h.home key) (add_or_moved s.set key)
  | remove key => exact h.change (home_remove h.home key) (remove_or_moved s.set key)
  | clock now => exact ⟨h.home, h.rev, h.cache, h.calls⟩
  | call =>
    refine ⟨h.home, h.rev, h.cache, fun c call hcall => ?_⟩
    simp only [Pairs.step, List.getElem?_append] at hcall
    split at hcall
    · exact h.calls c call hcall
    · have hnew := List.mem_of_getElem? hcall
      rw [List.mem_singleton] at hnew
      subst hnew
      exact Nat.le_refl _
  | enter c =>
    simp only [Pairs.step]
    split
    · next rev hcall =>
      have hrev := h.calls c _ hcall
      split
      · exact h
      · split
        · next hhit => exact h.set c (h.hit hguard hrev hhit)
        · have hlock : ({ s with cache := { s.cache with lock := some c } } : Pairs).Steady :=
            ⟨h.home, h.rev, h.cache, h.calls⟩
          exact hlock.set c ⟨hrev, fun _ => met_zero _⟩
    · exact h
  | walk c orders =>
    simp only [Pairs.step]
    split
    · next rev next keys hcall =>
      obtain ⟨hrev, hmet⟩ := h.calls c _ hcall
      split
      · next next' keys' hwalk =>
        exact h.set c ⟨hrev, fun heq => met_walkShards h.home (hmet heq) hwalk⟩
      · exact h
    · exact h
  | finish c spare =>
    simp only [Pairs.step]
    split
    · next rev next keys hcall =>
      split
      · next hall =>
        subst hall
        exact h.store hcall spare hguard
      · exact h
    · exact h
  | write c =>
    simp only [Pairs.step]
    split
    · exact h.set c trivial
    · exact h

/-- In every run in which no buffer is overwritten that a call has still to
write out, every call writes out the encoding of one completed walk of the
set, and of the set itself if nothing changed during the call. -/
theorem pairs_faithful_runs (es : List PairEvent) (hmeets : Meets Pairs.step Pairs.Guarded {} es)
    (before after : List PairEvent) (c : Nat) (hwrite : es = before ++ .write c :: after) :
    (run Pairs.step {} before).Faithful c := by
  subst hwrite
  have hbefore := ((meets_append _ _ _ before _).mp hmeets).1
  exact faithful_of_steady
    (hbefore.invariant _ (fun s e hguard h => steady_pairs_step h e hguard) steady_pairs) c

/-! ## A buffer that is overwritten -/

/-- The orders of a walk of all shards that meets the keys of a list. -/
def wholeWalk (keys : List Text) : List (List Text) :=
  (List.finRange trustPairShards).map fun i => keys.filter fun k => trustShardIdx k = i

/-- The pairs `1:2` and `1:3`. -/
def pairA : Text := [49, 58, 50]
def pairB : Text := [49, 58, 51]

/-- A save encodes two pairs. One of them is removed, and a snapshot encodes
the other. -/
def overwrittenRun : List PairEvent :=
  [.add pairA, .add pairB, .call, .enter 0, .walk 0 (wholeWalk [pairA, pairB]), .finish 0 [],
    .remove pairA, .call, .enter 1, .walk 1 (wholeWalk [pairB]), .finish 1 []]

theorem exists_pass_of_faithful {c : Nat} (h : s.Faithful c) {bytes : Text}
    (hout : s.output c = some bytes) : ∃ pass ∈ s.passes, bytes = encodeKeys pass := by
  unfold Pairs.output at hout
  split at hout
  · next sl pass still hcall =>
    obtain ⟨hpass, hbytes, -⟩ := h _ pass still hcall
    unfold Pairs.output at hbytes
    rw [hcall] at hbytes
    simp only at hbytes
    split at hbytes
    · cases hbytes
    · exact ⟨pass, hpass, Option.some.inj (hout.symm.trans hbytes)⟩
  · cases hout

/-- The save has still to write out its bytes, which are now the start of
the snapshot's followed by the rest of its own. -/
theorem pairs_overwritten : ¬ (run Pairs.step {} overwrittenRun).Faithful 0 := by
  intro h
  have hout : (run Pairs.step {} overwrittenRun).output 0 =
      some (encodeKeys [pairB] ++ [34] ++ pairA ++ [34, 93]) := by decide +kernel
  have hpasses : (run Pairs.step {} overwrittenRun).passes = [[pairB, pairA], [pairB]] := by
    decide +kernel
  obtain ⟨pass, hpass, hbytes⟩ := exists_pass_of_faithful h hout
  rw [hpasses] at hpass
  simp only [List.mem_cons, List.not_mem_nil, or_false] at hpass
  rcases hpass with rfl | rfl
  · revert hbytes
    decide
  · revert hbytes
    decide

/-- The save writes its bytes out before the snapshot has encoded its own. -/
theorem pairs_faithful_runs_overtaken :
    let before := [.add pairA, .add pairB, .call, .enter 0, .walk 0 (wholeWalk [pairA, pairB]),
      .finish 0 [], .remove pairA, .call, .enter 1, .write 0, .walk 1 (wholeWalk [pairB]),
      .finish 1 []]
    (run Pairs.step {} before).output 1 = some (encodeKeys [pairB]) ∧
      (run Pairs.step {} before).Faithful 1 := by
  intro before
  refine ⟨by decide +kernel, ?_⟩
  exact pairs_faithful_runs (before ++ [.write 1]) (by decide +kernel) before [] 1 rfl

end Rendezvous.Saving

import Rendezvous.Base.GoMap
import Rendezvous.Base.Run
import Rendezvous.Base.TokenBucket

/-!
# The limiter of requests per address

`RateLimiter` keeps a bucket per address, and forgets those that were idle
for more than two windows: at times, and when an address comes that has no
bucket and the table is full. A bucket that is made anew is full. The one
that was forgotten would be full as well, so that the answers are those of a
bucket that is never forgotten (`limiter_ideal`).

Times and durations are integers without bounds, and tokens are rational. The
source's `Sub` stops at the ends of an `int64` of nanoseconds (292 years),
`-2*window` wraps for a window of more than half of that, and tokens are
floating-point numbers.
-/

namespace Rendezvous.Accept

open Base

/-- `bucket`. -/
structure Entry where
  tokens : Rat
  lastFill : Int
  rate : Int
  deriving DecidableEq

/-- What a limiter is set up with. A rule of the whitelist says which
addresses it is for; `off` is `PILOT_REGISTRY_NORATELIMIT`. -/
structure RateLimiter (IP : Type) where
  rate : Int
  window : Int
  maxBuckets : Int
  parseIP : String → Option IP
  whitelist : List ((IP → Bool) × Int) := []
  off : Bool := false

/-- The buckets of the addresses. -/
abbrev Buckets := GoMap String Entry

inductive Event where
  | allow (ip : String) (now : Int)
  | cleanup (now : Int)

/-- When it happens. -/
def Event.time : Event → Int
  | .allow _ now | .cleanup now => now

/-- A request of the address. -/
def Event.isFrom (a : String) : Event → Bool
  | .allow ip _ => ip = a
  | .cleanup _ => false

/-- The times at which an address asks. -/
def asks (a : String) (es : List Event) : List Int :=
  (es.filter (Event.isFrom a)).map Event.time

namespace RateLimiter

variable {IP : Type} (rl : RateLimiter IP)

/-- `whitelistRate`. -/
def whitelistRate (ip : String) : Option Int :=
  (rl.parseIP ip).bind fun addr => (rl.whitelist.find? fun w => w.1 addr).map Prod.snd

/-- The rate a bucket of the address is made with. -/
def rateOf (ip : String) : Int := (rl.whitelistRate ip).getD rl.rate

/-- `Cleanup`, and what `Allow` does when the table is full. -/
def cleanup (now : Int) (m : Buckets) : Buckets :=
  m.filter fun _ b => !decide (b.lastFill < now - 2 * rl.window)

/-- The table has no room for another bucket. -/
def Full (m : Buckets) : Prop := 0 < rl.maxBuckets ∧ rl.maxBuckets ≤ m.size

instance (m : Buckets) : Decidable (rl.Full m) := inferInstanceAs (Decidable (_ ∧ _))

/-- The table in which a bucket is made. -/
def makeRoom (now : Int) (m : Buckets) : Buckets := if rl.Full m then rl.cleanup now m else m

/-- `Allow` for an address that has a bucket. -/
def spend (b : Entry) (now : Int) : Bool × Entry :=
  let rate := if b.rate ≤ 0 then rl.rate else b.rate
  let tokens := min (rate : Rat) (b.tokens + rate * ((now - b.lastFill : Int) / rl.window))
  if tokens < 1 then (false, { b with tokens := tokens, lastFill := now })
  else (true, { b with tokens := tokens - 1, lastFill := now })

/-- `Allow`. -/
def allow (m : Buckets) (ip : String) (now : Int) : Bool × Buckets :=
  if rl.off then (true, m) else
  match m.get ip with
  | none =>
    match rl.whitelistRate ip with
    | some rate => (true, m.set ip ⟨rate - 1, now, rate⟩)
    | none =>
      let m := rl.makeRoom now m
      if rl.Full m then (false, m) else (true, m.set ip ⟨rl.rate - 1, now, rl.rate⟩)
  | some b => ((rl.spend b now).1, m.set ip (rl.spend b now).2)

/-- The table after a call. -/
def step (m : Buckets) : Event → Buckets
  | .allow ip now => (rl.allow m ip now).2
  | .cleanup now => rl.cleanup now m

/-- The answers an address gets. -/
def served (a : String) : Buckets → List Event → List (Int × Bool)
  | _, [] => []
  | m, .allow ip now :: es =>
    (if ip = a then [(now, (rl.allow m ip now).1)] else []) ++
      served a (rl.step m (.allow ip now)) es
  | m, .cleanup now :: es => served a (rl.step m (.cleanup now)) es

/-- An address without a bucket finds room for one. -/
def Room (a : String) (m : Buckets) : Event → Prop
  | .allow ip now => ip = a → m.get a = none → rl.whitelistRate a = none →
      ¬ rl.Full (rl.makeRoom now m)
  | .cleanup _ => True

instance (a : String) (m : Buckets) (e : Event) : Decidable (rl.Room a m e) := by
  cases e <;> unfold Room <;> infer_instance

/-! ## A bucket that is forgotten would be full -/

/-- What the address's bucket gains per unit of time. -/
def gain (a : String) : Rat := rl.rateOf a / rl.window

/-- The bucket `b`, never forgotten, is the one in the table, or it is full
from now on. -/
structure Like (a : String) (clock : Int) (m : Buckets) (b : Bucket) : Prop where
  tokens : 0 ≤ b.tokens
  last : b.last ≤ clock
  held : ∀ e, m.get a = some e → e = ⟨b.tokens, b.last, rl.rateOf a⟩
  full : m.get a = none → ∀ t, clock ≤ t → b.level (rl.rateOf a) (rl.gain a) t = rl.rateOf a

/-- The buckets are made with a rate of at least one. -/
structure Proper : Prop where
  on : rl.off = false
  window : 0 < rl.window
  rate : 1 ≤ rl.rate
  listed : ∀ w ∈ rl.whitelist, 1 ≤ w.2

variable {rl} {a : String} {clock now : Int} {m : Buckets} {b : Bucket}

theorem Proper.rateOf (h : rl.Proper) (a : String) : 1 ≤ rl.rateOf a := by
  unfold RateLimiter.rateOf whitelistRate
  cases rl.parseIP a with
  | none => exact h.rate
  | some addr =>
    cases hfind : rl.whitelist.find? fun w => w.1 addr with
    | none =>
      rw [Option.bind_some, hfind]
      exact h.rate
    | some w =>
      rw [Option.bind_some, hfind]
      exact h.listed w (List.mem_of_find?_eq_some hfind)

theorem Proper.rateOf_pos (h : rl.Proper) (a : String) : (1 : Rat) ≤ rl.rateOf a := by
  exact_mod_cast h.rateOf a

theorem Proper.gain_nonneg (h : rl.Proper) (a : String) : 0 ≤ rl.gain a :=
  div_nonneg (zero_le_one.trans (h.rateOf_pos a)) (by exact_mod_cast h.window.le)

theorem Like.later (h : rl.Like a clock m b) (hnow : clock ≤ now) : rl.Like a now m b :=
  ⟨h.tokens, h.last.trans hnow, h.held, fun hnone t ht => h.full hnone t (hnow.trans ht)⟩

theorem Like.congr {m' : Buckets} (h : rl.Like a clock m b) (hget : m'.get a = m.get a) :
    rl.Like a clock m' b :=
  ⟨h.tokens, h.last, hget ▸ h.held, hget ▸ h.full⟩

/-- A bucket that is forgotten gained more than it can hold. -/
theorem Like.cleanup (hp : rl.Proper) (h : rl.Like a now m b) :
    rl.Like a now (rl.cleanup now m) b := by
  refine ⟨h.tokens, h.last, fun e he => h.held e ?_, fun hnone t ht => ?_⟩
  · unfold RateLimiter.cleanup at he
    rw [GoMap.get_filter] at he
    exact (Option.filter_eq_some_iff.mp he).1
  · cases hm : m.get a with
    | none => exact h.full hm t ht
    | some e =>
      unfold RateLimiter.cleanup at hnone
      rw [GoMap.get_filter, hm] at hnone
      have hidle : b.last < now - 2 * rl.window := by
        rw [h.held e hm] at hnone
        simpa [Int.lt_sub_right_iff_add_lt] using hnone
      have hw : (0 : Rat) < rl.window := by exact_mod_cast hp.window
      have hlong : rl.gain a * rl.window ≤ rl.gain a * (t - b.last : Int) := by
        refine mul_le_mul_of_nonneg_left ?_ (hp.gain_nonneg a)
        have := hp.window
        exact_mod_cast (by omega : rl.window ≤ t - b.last)
      rw [gain, div_mul_cancel₀ _ hw.ne'] at hlong
      exact min_eq_left (hlong.trans (le_add_of_nonneg_left h.tokens))

/-- A call for another address leaves the table, or cleans it up, as far as
the address goes. -/
theorem allow_get_ne (rl : RateLimiter IP) (m : Buckets) (now : Int) {ip : String}
    (hne : a ≠ ip) :
    (rl.allow m ip now).2.get a = m.get a ∨
      (rl.allow m ip now).2.get a = (rl.cleanup now m).get a := by
  have hroom : (rl.makeRoom now m).get a = m.get a ∨
      (rl.makeRoom now m).get a = (rl.cleanup now m).get a := by
    unfold makeRoom
    split
    · exact Or.inr rfl
    · exact Or.inl rfl
  unfold allow
  split
  · exact Or.inl rfl
  · split
    · split
      · exact Or.inl (GoMap.get_set_ne _ _ hne)
      · simp only
        split
        · exact hroom
        · rwa [GoMap.get_set_ne _ _ hne]
    · exact Or.inl (GoMap.get_set_ne _ _ hne)

theorem spend_eq (hp : rl.Proper) (a : String) (b : Bucket) (now : Int) :
    rl.spend ⟨b.tokens, b.last, rl.rateOf a⟩ now = (b.grants (rl.rateOf a) (rl.gain a) now,
        ⟨(b.ask (rl.rateOf a) (rl.gain a) now).tokens, now, rl.rateOf a⟩) := by
  have hrate : ¬ rl.rateOf a ≤ 0 := by
    have := hp.rateOf a
    omega
  have hlevel : min (rl.rateOf a : Rat) (b.tokens + rl.rateOf a *
      ((now - b.last : Int) / rl.window)) = b.level (rl.rateOf a) (rl.gain a) now := by
    rw [Bucket.level, gain, mul_div_assoc', div_mul_eq_mul_div]
  simp only [spend, if_neg hrate, hlevel, Bucket.ask, Bucket.grants]
  by_cases hlow : b.level (rl.rateOf a) (rl.gain a) now < 1
  · simp [hlow]
  · simp [hlow, not_lt.mp hlow]

/-- The address gets the answer of the bucket. -/
theorem Like.allow (hp : rl.Proper) (h : rl.Like a now m b) (hroom : rl.Room a m (.allow a now)) :
    (rl.allow m a now).1 = b.grants (rl.rateOf a) (rl.gain a) now ∧
      rl.Like a now (rl.allow m a now).2 (b.ask (rl.rateOf a) (rl.gain a) now) := by
  have hpos := hp.rateOf_pos a
  -- A bucket that is kept as the table has it.
  have hset : ∀ {m' : Buckets} {tokens : Rat},
      (b.ask (rl.rateOf a) (rl.gain a) now).tokens = tokens →
      rl.Like a now (m'.set a ⟨tokens, now, rl.rateOf a⟩)
        (b.ask (rl.rateOf a) (rl.gain a) now) := by
    rintro m' tokens rfl
    refine ⟨Bucket.ask_nonneg (zero_le_one.trans hpos) (hp.gain_nonneg a) h.tokens h.last,
      le_rfl, fun e he => ?_, fun hnone => ?_⟩
    · rw [GoMap.get_set_self] at he
      exact (Option.some.inj he).symm
    · rw [GoMap.get_set_self] at hnone
      cases hnone
  unfold RateLimiter.allow
  rw [if_neg (by simp [hp.on])]
  cases hm : m.get a with
  | some e =>
    simp only [h.held e hm, spend_eq hp]
    exact ⟨trivial, hset rfl⟩
  | none =>
    have hfull := h.full hm now le_rfl
    have hgrants : b.grants (rl.rateOf a) (rl.gain a) now = true := by
      rw [Bucket.grants, hfull]
      exact decide_eq_true hpos
    have htokens : (b.ask (rl.rateOf a) (rl.gain a) now).tokens = rl.rateOf a - 1 := by
      rw [Bucket.ask, if_pos hgrants, hfull]
    have hrate : rl.rateOf a = (rl.whitelistRate a).getD rl.rate := rfl
    cases hlist : rl.whitelistRate a with
    | some rate =>
      rw [hlist, Option.getD_some] at hrate
      simp only [← hrate]
      exact ⟨hgrants.symm, hset htokens⟩
    | none =>
      rw [hlist, Option.getD_none] at hrate
      simp only [if_neg (hroom rfl hm hlist), ← hrate]
      exact ⟨hgrants.symm, hset htokens⟩

/-- The answers are those of the bucket. -/
theorem Like.served (hp : rl.Proper) (es : List Event) (h : rl.Like a clock m b)
    (htimes : (clock :: es.map Event.time).Pairwise (· ≤ ·))
    (hroom : Meets rl.step (rl.Room a) m es) :
    rl.served a m es = b.serve (rl.rateOf a) (rl.gain a) (asks a es) := by
  induction es generalizing clock m b with
  | nil => rfl
  | cons e es ih =>
    rw [List.map_cons, List.pairwise_cons] at htimes
    have hnow := h.later (htimes.1 e.time (List.mem_cons_self ..))
    cases e with
    | cleanup now => exact ih (hnow.cleanup hp) htimes.2 hroom.2
    | allow ip now =>
      by_cases hip : ip = a
      · subst hip
        obtain ⟨hanswer, hlike⟩ := hnow.allow hp hroom.1
        have hrest : rl.served ip (rl.step m (.allow ip now)) es = _ :=
          ih hlike htimes.2 hroom.2
        have hasks : asks ip (.allow ip now :: es) = now :: asks ip es := by
          simp [asks, Event.isFrom, Event.time]
        rw [hasks, RateLimiter.served, if_pos rfl, hrest,
          show (rl.allow m ip now).1 = _ from hanswer]
        rfl
      · have hlike : rl.Like a now (rl.step m (.allow ip now)) b := by
          rcases allow_get_ne rl m now (Ne.symm hip) with hget | hget
          · exact hnow.congr hget
          · exact (hnow.cleanup hp).congr hget
        have hasks : asks a (.allow ip now :: es) = asks a es := by
          simp [asks, Event.isFrom, hip]
        rw [hasks, RateLimiter.served, if_neg hip]
        exact ih hlike htimes.2 hroom.2

end RateLimiter

open RateLimiter

/-- For calls at times that do not decrease, with a table that has room for
the address whenever it has no bucket: the answers the address gets are
those of a bucket that is full at the start and never forgotten, and no
more are granted in an interval than a full bucket and what it gains. -/
theorem limiter_ideal {IP : Type} (rl : RateLimiter IP) (hp : rl.Proper) (a : String)
    (start : Int) (es : List Event) (htimes : (start :: es.map Event.time).Pairwise (· ≤ ·))
    (hroom : Meets rl.step (rl.Room a) ∅ es) :
    rl.served a ∅ es = Bucket.serve (rl.rateOf a) (rl.gain a) ⟨rl.rateOf a, start⟩ (asks a es) ∧
    ∀ u T : Int, 0 ≤ T → (Bucket.granted u (u + T) (rl.served a ∅ es) : Rat) ≤
        rl.rateOf a + rl.rateOf a * T / rl.window := by
  have hpos : (0 : Rat) ≤ rl.rateOf a := zero_le_one.trans (hp.rateOf_pos a)
  have hlike : rl.Like a start ∅ ⟨rl.rateOf a, start⟩ := by
    refine ⟨hpos, le_rfl, fun e he => ?_, fun _ t ht => min_eq_left ?_⟩
    · cases he
    · exact le_add_of_nonneg_right (Bucket.gain_nonneg (hp.gain_nonneg a) ht)
  have hserved := hlike.served hp es htimes hroom
  refine ⟨hserved, fun u T hT => ?_⟩
  have hasks : (start :: asks a es).Pairwise (· ≤ ·) :=
    htimes.sublist ((List.filter_sublist.map _).cons_cons start)
  have hle := Bucket.granted_le (b := ⟨rl.rateOf a, start⟩) (u := u) hpos (hp.gain_nonneg a)
    hpos hasks (le_add_of_nonneg_right hT)
  rw [hserved]
  simpa [gain, div_mul_eq_mul_div] using hle

/-- Two requests per ten units of time, three for the address `w`, and a
table of one bucket. -/
def small : RateLimiter Unit where
  rate := 2
  window := 10
  maxBuckets := 1
  parseIP ip := if ip = "w" then some () else none
  whitelist := [(fun _ => true, 3)]

theorem small_proper : small.Proper := ⟨rfl, by decide, by decide, by decide⟩

/-- The bucket of `a` is forgotten for that of `b`, and made anew; `w` gets
one in a full table. -/
theorem limiter_ideal_evicted :
    (small.served "a" ∅ [.allow "a" 0, .allow "a" 1, .allow "a" 2, .allow "b" 30, .allow "a" 60] =
      [(0, true), (1, true), (2, false), (60, true)]) ∧
    small.served "w" ∅ [.allow "a" 0, .allow "w" 1, .allow "w" 1, .allow "w" 1, .allow "w" 2] =
      [(1, true), (1, true), (1, true), (2, false)] :=
  ⟨((limiter_ideal small small_proper "a" 0 _ (by decide) (by decide +kernel)).1).trans
      (by decide +kernel),
    ((limiter_ideal small small_proper "w" 0 _ (by decide) (by decide +kernel)).1).trans
      (by decide +kernel)⟩

end Rendezvous.Accept

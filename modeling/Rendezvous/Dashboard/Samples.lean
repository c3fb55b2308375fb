import Mathlib.Data.Finset.Sort
import Mathlib.Data.List.DropRight
import Mathlib.Data.List.MinMax
import Mathlib.Data.PNat.Basic
import Rendezvous.Base.GoMap

/-!
# One sample a bucket

A history read from the file may hold several samples of an hour or a day,
in any order. `samples_deduplicated` says which of them are kept.
-/

namespace Rendezvous.Dashboard

open Base

/-- `StatsSample`. -/
structure StatsSample where
  timestamp : Nat
  totalNodes : Int
  onlineNodes : Int
  trustLinks : Int
  totalRequests : Int

/-- `NetworkSampleEntry`. -/
structure NetworkSampleEntry where
  timestamp : Nat
  id : UInt16
  name : String
  members : Int
  online : Int
  requests : Int

/-- The locals of the loop: an entry of `result` is a bucket with its sample,
and `seen` has the index of a bucket in it. -/
structure Deduped (S : Type) where
  seen : GoMap Nat Nat := ∅
  result : List (Nat × S) := []

variable {S : Type} (ts : S → Nat) (bucketSecs : ℕ+)

/-- The loop takes one sample. -/
def Deduped.add (d : Deduped S) (s : S) : Deduped S :=
  if ts s = 0 then d
  else
    let b := ts s / bucketSecs
    match d.seen.get b with
    | some idx => { d with
        result := d.result.modify idx fun e => if ts s > ts e.2 then (e.1, s) else e }
    | none => { seen := d.seen.set b d.result.length, result := d.result ++ [(b, s)] }

/-- What the loop does to `result`, with a search in the place of `seen`. -/
def addSample (result : List (Nat × S)) (s : S) : List (Nat × S) :=
  if ts s = 0 then result
  else
    let b := ts s / bucketSecs
    if b ∈ result.map Prod.fst then
      result.map fun e => if e.1 = b ∧ ts s > ts e.2 then (e.1, s) else e
    else result ++ [(b, s)]

/-- `deduplicateSamples` and `deduplicateNetSamples`. `none` is the panic of a
slice that starts behind the end. -/
def deduplicate (samples : List S) (maxOut : Int) : Option (List S) :=
  let result := (samples.foldl (Deduped.add ts bucketSecs) {}).result
  let out := (result.mergeSort fun x y => x.1 ≤ y.1).map Prod.snd
  if out.length > maxOut then
    if maxOut < 0 then none else some (out.drop (out.length - maxOut.toNat))
  else some out

def deduplicateSamples : List StatsSample → Int → Option (List StatsSample) :=
  deduplicate StatsSample.timestamp bucketSecs

def deduplicateNetSamples : List NetworkSampleEntry → Int → Option (List NetworkSampleEntry) :=
  deduplicate NetworkSampleEntry.timestamp bucketSecs

/-! ## The index -/

/-- `seen` holds the index of every bucket in `result`, and nothing else. -/
def Deduped.Indexed (d : Deduped S) : Prop :=
  ∀ b i, d.seen.get b = some i ↔ (d.result.map Prod.fst)[i]? = some b

section

variable {ts bucketSecs} {d : Deduped S}

/-- The entry at the index is the only one of its bucket. -/
theorem Deduped.Indexed.modify_eq (h : d.Indexed) {b idx : Nat} (hidx : d.seen.get b = some idx)
    (s : S) :
    (d.result.modify idx fun e => if ts s > ts e.2 then (e.1, s) else e) =
      d.result.map fun e => if e.1 = b ∧ ts s > ts e.2 then (e.1, s) else e := by
  refine List.ext_getElem? fun j => ?_
  rw [List.getElem?_modify, List.getElem?_map]
  rcases hj : d.result[j]? with _ | e
  · rfl
  have hseen : d.seen.get e.1 = some j := (h e.1 j).mpr (by rw [List.getElem?_map, hj]; rfl)
  have hat : idx = j ↔ e.1 = b := by
    constructor
    · rintro rfl
      have hfst := (h b idx).mp hidx
      rw [List.getElem?_map, hj] at hfst
      exact Option.some.inj hfst
    · rintro rfl
      exact Option.some.inj (hidx.symm.trans hseen)
  by_cases heq : idx = j
  · simp [heq, hat.mp heq]
  · simp [heq, mt hat.mpr heq]

variable (ts) in
/-- A sample that replaces another one leaves the buckets as they are. -/
theorem fst_replace (result : List (Nat × S)) (b : Nat) (s : S) :
    (result.map fun e => if e.1 = b ∧ ts s > ts e.2 then (e.1, s) else e).map Prod.fst =
      result.map Prod.fst := by
  rw [List.map_map]
  refine List.map_congr_left fun e _ => ?_
  simp only [Function.comp]
  split <;> rfl

theorem Deduped.Indexed.add (h : d.Indexed) (s : S) :
    (d.add ts bucketSecs s).Indexed ∧
      (d.add ts bucketSecs s).result = addSample ts bucketSecs d.result s := by
  unfold Deduped.add addSample
  split
  · exact ⟨h, rfl⟩
  simp only
  split
  · next idx hidx =>
    rw [if_pos (List.mem_of_getElem? ((h _ _).mp hidx)), ← h.modify_eq hidx]
    refine ⟨fun b i => ?_, rfl⟩
    simp only
    rw [h.modify_eq hidx, fst_replace]
    exact h b i
  · next hnone =>
    have hnew : ts s / bucketSecs ∉ d.result.map Prod.fst := by
      intro hmem
      obtain ⟨i, hi⟩ := List.getElem?_of_mem hmem
      simp [(h _ i).mpr hi] at hnone
    rw [if_neg hnew]
    refine ⟨fun b i => ?_, rfl⟩
    simp only
    rw [GoMap.get_set, List.map_append, List.getElem?_append, List.length_map]
    -- an index of the list before has another bucket; the next one has this one
    by_cases hi : i < d.result.length
    · rw [if_pos hi, ← h b i]
      split
      · next hb => simp [hb, hnone, (Nat.ne_of_lt hi).symm]
      · rfl
    · have hout : d.seen.get b ≠ some i := fun hseen =>
        hi (by simpa using (List.getElem?_eq_some_iff.mp ((h b i).mp hseen)).1)
      rw [if_neg hi]
      split
      · next hb =>
        have hone : [ts s / bucketSecs][i - d.result.length]? = some b ↔ i = d.result.length := by
          rw [List.getElem?_singleton, hb]
          split <;> simp <;> omega
        simpa [hone] using eq_comm
      · next hb => simp [hout, List.getElem?_singleton, Ne.symm hb]

/-- The loop with the index does what the search does. -/
theorem foldl_add (samples : List S) (hd : d.Indexed) :
    (samples.foldl (Deduped.add ts bucketSecs) d).result =
      samples.foldl (addSample ts bucketSecs) d.result := by
  induction samples generalizing d with
  | nil => rfl
  | cons s samples ih =>
    obtain ⟨hnext, heq⟩ : (d.add ts bucketSecs s).Indexed ∧ _ := hd.add s
    rw [List.foldl_cons, List.foldl_cons, ih hnext, heq]

end

/-! ## What is kept -/

/-- The samples of a bucket. Those without a timestamp are in none. -/
def inBucket (samples : List S) (b : Nat) : List S :=
  samples.filter fun s => ts s ≠ 0 ∧ ts s / bucketSecs = b

/-- The first of the latest samples of every bucket that occurs, in the order
of the buckets. -/
structure LatestOf (samples all : List S) : Prop where
  increasing : all.Pairwise fun s t => ts s / bucketSecs < ts t / bucketSecs
  latest : ∀ s, s ∈ all ↔ (inBucket ts bucketSecs samples (ts s / bucketSecs)).argmax ts = some s

/-- `r` is the samples to keep, up to a limit that counts samples. -/
def Deduplicates (samples : List S) (maxOut : Int) (r : Option (List S)) : Prop :=
  if 0 ≤ maxOut then
    ∃ older out, r = some out ∧ LatestOf ts bucketSecs samples (older ++ out) ∧
      out.length = min maxOut.toNat (older ++ out).length
  else r = none

/-- There is one entry for each bucket that occurs, with the sample to keep. -/
structure Latest (result : List (Nat × S)) (samples : List S) : Prop where
  nodup : (result.map Prod.fst).Nodup
  entry : ∀ e ∈ result, (inBucket ts bucketSecs samples e.1).argmax ts = some e.2
  all : ∀ b ∉ result.map Prod.fst, inBucket ts bucketSecs samples b = []

variable {ts bucketSecs} {result : List (Nat × S)} {samples : List S}

theorem inBucket_append (s : S) (b : Nat) :
    inBucket ts bucketSecs (samples ++ [s]) b = inBucket ts bucketSecs samples b ++
      if ts s ≠ 0 ∧ ts s / bucketSecs = b then [s] else [] := by
  unfold inBucket
  rw [List.filter_append, List.filter_singleton]
  simp

theorem Latest.addSample (h : Latest ts bucketSecs result samples) (s : S) :
    Latest ts bucketSecs (addSample ts bucketSecs result s) (samples ++ [s]) := by
  unfold Dashboard.addSample
  split
  · next hzero => exact ⟨h.nodup, by simpa [inBucket_append, hzero] using h.entry,
      by simpa [inBucket_append, hzero] using h.all⟩
  · next hts =>
    simp only
    split
    · next hseen =>
      have hfst := fst_replace ts result (ts s / bucketSecs) s
      refine ⟨hfst ▸ h.nodup, fun e he => ?_, fun b hb => ?_⟩
      · obtain ⟨e, hold, rfl⟩ := List.mem_map.mp he
        have hlatest := h.entry e hold
        by_cases hb : ts s / bucketSecs = e.1
        · by_cases hlater : ts e.2 < ts s <;>
            simp [inBucket_append, hts, hb, hlater, List.argmax_concat, hlatest]
        · simp [inBucket_append, hb, Ne.symm hb, hlatest]
      · rw [hfst] at hb
        have hne : ts s / bucketSecs ≠ b := fun heq => hb (heq ▸ hseen)
        simp [inBucket_append, hne, h.all b hb]
    · next hnew =>
      refine ⟨?_, fun e he => ?_, fun b hb => ?_⟩
      · rw [List.map_append]
        exact h.nodup.append (List.nodup_singleton _) (by simpa using hnew)
      · rcases List.mem_append.mp he with hold | hadded
        · have hne : ts s / bucketSecs ≠ e.1 := fun heq =>
            hnew (heq ▸ List.mem_map_of_mem hold)
          simp [inBucket_append, hne, h.entry e hold]
        · cases List.mem_singleton.mp hadded
          simp [inBucket_append, hts, h.all _ hnew]
      · have hne : ts s / bucketSecs ≠ b := fun heq => hb (by simp [heq])
        simp [inBucket_append, hne, h.all b fun hold => hb (by simp [hold])]

/-- The buckets of the entries are distinct, so any sort puts them in this
order. -/
theorem Latest.sorted (h : Latest ts bucketSecs result samples) :
    LatestOf ts bucketSecs samples ((result.mergeSort fun x y => x.1 ≤ y.1).map Prod.snd) := by
  have hbucket : ∀ e ∈ result, ts e.2 / bucketSecs = e.1 := fun e he =>
    (of_decide_eq_true (List.mem_filter.mp (List.argmax_mem (h.entry e he))).2).2
  have hperm := List.mergeSort_perm result fun x y => x.1 ≤ y.1
  constructor
  · have hle : (result.mergeSort fun x y => x.1 ≤ y.1).Pairwise fun x y => decide (x.1 ≤ y.1) :=
      List.pairwise_mergeSort (fun x y z => by simpa using Nat.le_trans)
        (fun x y => by simpa using Nat.le_total x.1 y.1) result
    have hne := List.pairwise_map.mp ((hperm.map Prod.fst).nodup_iff.mpr h.nodup)
    rw [List.pairwise_map]
    refine (hle.and hne).imp_of_mem fun {x y} hx hy hxy => ?_
    rw [hbucket x (hperm.mem_iff.mp hx), hbucket y (hperm.mem_iff.mp hy)]
    exact lt_of_le_of_ne (of_decide_eq_true hxy.1) hxy.2
  · intro s
    rw [(hperm.map Prod.snd).mem_iff]
    constructor
    · rintro hs
      obtain ⟨e, he, rfl⟩ := List.mem_map.mp hs
      rw [hbucket e he]
      exact h.entry e he
    · intro hs
      have hmem : ts s / bucketSecs ∈ result.map Prod.fst := by
        by_contra hnot
        simp [h.all _ hnot] at hs
      obtain ⟨e, he, heq⟩ := List.mem_map.mp hmem
      have hentry := h.entry e he
      rw [heq, hs] at hentry
      exact List.mem_map.mpr ⟨e, he, (Option.some.inj hentry).symm⟩

variable (ts bucketSecs samples)

theorem latest_foldl :
    Latest ts bucketSecs (samples.foldl (Deduped.add ts bucketSecs) {}).result samples := by
  rw [foldl_add samples fun b i => by simp]
  induction samples using List.reverseRecOn with
  | nil => exact ⟨List.nodup_nil, nofun, fun _ _ => rfl⟩
  | append_singleton samples s ih =>
    rw [List.foldl_append]
    exact ih.addSample s

theorem deduplicates (maxOut : Int) :
    Deduplicates ts bucketSecs samples maxOut (deduplicate ts bucketSecs samples maxOut) := by
  have hlatest := (latest_foldl ts bucketSecs samples).sorted
  unfold Deduplicates deduplicate
  simp only
  generalize List.map Prod.snd _ = all at hlatest ⊢
  split
  · split
    · next hlong =>
      rw [if_neg (by omega)]
      refine ⟨all.take (all.length - maxOut.toNat), _, rfl, ?_⟩
      rw [List.take_append_drop, List.length_drop]
      exact ⟨hlatest, by omega⟩
    · next hshort => exact ⟨[], all, rfl, hlatest, by rw [List.nil_append]; omega⟩
  · rw [if_pos (by omega), if_pos (by omega)]

/-- Of every bucket that occurs the first of its latest samples is kept, in
the order of the buckets, and of these the last ones up to the limit. -/
theorem samples_deduplicated (bucketSecs : ℕ+) (maxOut : Int) :
    (∀ samples, Deduplicates StatsSample.timestamp bucketSecs samples maxOut
      (deduplicateSamples bucketSecs samples maxOut)) ∧
    ∀ samples, Deduplicates NetworkSampleEntry.timestamp bucketSecs samples maxOut
      (deduplicateNetSamples bucketSecs samples maxOut) :=
  ⟨fun samples => deduplicates _ bucketSecs samples maxOut,
    fun samples => deduplicates _ bucketSecs samples maxOut⟩

end Rendezvous.Dashboard

import Mathlib.Data.Finmap
import Mathlib.Data.Finset.Image

/-!
# Finite maps

`GoMap K V` is a finite partial function from `K` to `V`: the meaning of a
hash map whose iteration order is not observed. It is Mathlib's `Finmap`
at a constant family, under the four operations a program uses on a map
(`get`, `set`, `del`, and a pass over the entries, `filterMap`).

Two maps are equal exactly when every lookup agrees (`GoMap.ext`), so a
statement about maps is proved by moving `get` inward with the simp set
below and splitting on the key.
-/

namespace Rendezvous.Base

/-- A finite partial function from `K` to `V`. -/
structure GoMap (K V : Type) where
  /-- The entries, at most one under each key. -/
  entries : Finmap (fun _ : K => V)

namespace GoMap

variable {K V W : Type}

instance [DecidableEq K] [DecidableEq V] : DecidableEq (GoMap K V) :=
  fun m₁ m₂ => decidable_of_iff (m₁.entries = m₂.entries) (by
    cases m₁; cases m₂; simp)

/-- The map with no entry. -/
def empty : GoMap K V := ⟨∅⟩

instance : EmptyCollection (GoMap K V) := ⟨empty⟩

variable [DecidableEq K]

/-- The value stored under `k`, if there is one. -/
def get (m : GoMap K V) (k : K) : Option V := m.entries.lookup k

/-- `m[k] = v`. -/
def set (m : GoMap K V) (k : K) (v : V) : GoMap K V :=
  ⟨m.entries.insert k v⟩

/-- `delete(m, k)`. -/
def del (m : GoMap K V) (k : K) : GoMap K V := ⟨m.entries.erase k⟩

/-- Whether `k` has an entry. -/
def has (m : GoMap K V) (k : K) : Bool := (m.get k).isSome

/-- The keys that have an entry. -/
def keys (m : GoMap K V) : Finset K := m.entries.keys

-- Keys may be machine integers: what is said of some of them is decided on
-- those, not by going through the whole type.
instance (priority := 1100) decidableForallKeys (s : Finset K) (p : K → Prop)
    [DecidablePred p] : Decidable (∀ k ∈ s, p k) :=
  Finset.decidableDforallFinset

instance (priority := 1100) decidableForallFound (o : Option K) (p : K → Prop)
    [DecidablePred p] : Decidable (∀ k ∈ o, p k) :=
  Option.decidableForallMem o

/-- `len(m)`. -/
def size (m : GoMap K V) : Nat := m.keys.card

/-- The map with the listed entries; of two entries under one key the first
one counts. -/
def ofList (l : List (K × V)) : GoMap K V :=
  l.foldr (fun p m => m.set p.1 p.2) ∅

/-! ## Lookup laws -/

section

variable (m : GoMap K V) (k j : K) (v : V)

@[ext] theorem ext {m₁ m₂ : GoMap K V} (h : ∀ k, m₁.get k = m₂.get k) : m₁ = m₂ := by
  obtain ⟨e₁⟩ := m₁
  obtain ⟨e₂⟩ := m₂
  exact congrArg GoMap.mk (Finmap.ext_lookup h)

@[simp] theorem get_empty : (∅ : GoMap K V).get k = none :=
  Finmap.lookup_empty k

theorem get_set : (m.set k v).get j = if j = k then some v else m.get j := by
  by_cases h : j = k
  · subst h
    simp [get, set]
  · simp [get, set, Finmap.lookup_insert_of_ne _ h, h]

@[simp] theorem get_set_self : (m.set k v).get k = some v := by
  simp [get_set]

@[simp] theorem get_set_ne {k j : K} (v : V) (h : j ≠ k) : (m.set k v).get j = m.get j := by
  simp [get_set, h]

theorem get_del : (m.del k).get j = if j = k then none else m.get j := by
  by_cases h : j = k
  · subst h
    simp [get, del]
  · simp [get, del, Finmap.lookup_erase_ne h, h]

@[simp] theorem get_del_self : (m.del k).get k = none := by
  simp [get_del]

@[simp] theorem get_del_ne {k j : K} (h : j ≠ k) : (m.del k).get j = m.get j := by
  simp [get_del, h]

theorem of_get_del {m : GoMap K V} {k j : K} {v : V} (h : (m.del k).get j = some v) :
    m.get j = some v := by
  rw [get_del] at h
  split at h
  · cases h
  · exact h

theorem of_get_del_ne_none {m : GoMap K V} {k j : K} (h : (m.del k).get j ≠ none) :
    m.get j ≠ none := by
  rw [get_del] at h
  split at h
  · exact absurd rfl h
  · exact h

theorem of_get_set {m : GoMap K V} {k j : K} {v w : V} (h : (m.set k v).get j = some w) :
    j = k ∧ w = v ∨ m.get j = some w := by
  rw [get_set] at h
  split at h
  · next heq => exact Or.inl ⟨heq, (Option.some.inj h).symm⟩
  · exact Or.inr h

theorem of_get_set_ne_none {m : GoMap K V} {k j : K} {v : V} (h : (m.set k v).get j ≠ none) :
    j = k ∨ m.get j ≠ none := by
  rw [get_set] at h
  split at h
  · next heq => exact Or.inl heq
  · exact Or.inr h

theorem mem_keys : k ∈ m.keys ↔ ∃ v, m.get k = some v := by
  unfold keys get
  rw [Finmap.mem_keys, ← Finmap.lookup_isSome, Option.isSome_iff_exists]

@[simp] theorem has_eq_true : m.has k = true ↔ ∃ v, m.get k = some v := by
  simp [has, Option.isSome_iff_exists]

@[simp] theorem has_eq_false : m.has k = false ↔ m.get k = none := by
  simp [has]

/-! ## Updates that change nothing -/

theorem set_get_self {k : K} {v : V} (h : m.get k = some v) : m.set k v = m := by
  ext1 j
  by_cases hj : j = k
  · subst hj; simp [h]
  · simp [hj]

theorem del_of_get_none {k : K} (h : m.get k = none) : m.del k = m := by
  ext1 j
  by_cases hj : j = k
  · subst hj; simp [h]
  · simp [hj]

@[simp] theorem set_set (w : V) : (m.set k v).set k w = m.set k w := by
  ext1 j
  by_cases hj : j = k
  · subst hj; simp
  · simp [hj]

end

/-! ## A pass over the entries -/

/-- What `f` makes of one entry. -/
def entryMap (f : K → V → Option W) (p : Sigma fun _ : K => V) : Option (Sigma fun _ : K => W) :=
  (f p.1 p.2).map fun w => ⟨p.1, w⟩

omit [DecidableEq K] in
private theorem keys_filterMap_sublist (f : K → V → Option W)
    (l : List (Sigma fun _ : K => V)) :
    (l.filterMap (entryMap f)).keys.Sublist l.keys := by
  induction l with
  | nil => simp
  | cons p l ih =>
    cases h : f p.1 p.2 with
    | none =>
      simpa [entryMap, h] using ih.trans (List.sublist_cons_self _ _)
    | some w => simpa [entryMap, h] using ih

section

variable (m : GoMap K V) (k j : K) (v : V)

private theorem dlookup_filterMap (f : K → V → Option W) (k : K)
    (l : List (Sigma fun _ : K => V)) (hl : l.NodupKeys) :
    (l.filterMap (entryMap f)).dlookup k = (l.dlookup k).bind (f k) := by
  induction l with
  | nil => simp
  | cons p l ih =>
    obtain ⟨a, v⟩ := p
    rw [List.nodupKeys_cons] at hl
    by_cases hk : k = a
    · subst hk
      -- No other entry has this key, so a dropped entry leaves none behind.
      have hrest : (l.filterMap (entryMap f)).dlookup k = none := by
        rw [ih hl.2, List.dlookup_eq_none.mpr hl.1]
        rfl
      cases h : f k v with
      | none => simpa [entryMap, h] using hrest
      | some w => simp [entryMap, h]
    · rw [List.dlookup_cons_ne l ⟨a, v⟩ hk, ← ih hl.2]
      cases h : f a v with
      | none => simp [entryMap, h]
      | some w =>
        rw [List.filterMap_cons_some (b := ⟨a, w⟩) (by simp [entryMap, h])]
        exact List.dlookup_cons_ne _ _ hk

/-- Every entry `k ↦ v` becomes `k ↦ w` when `f k v = some w`, and goes
otherwise. -/
def filterMap (f : K → V → Option W) (m : GoMap K V) : GoMap K W :=
  ⟨⟨m.entries.entries.filterMap (entryMap f), by
    obtain ⟨⟨e, he⟩⟩ := m
    induction e using Quotient.inductionOn with
    | _ l => exact List.Nodup.sublist (keys_filterMap_sublist f l) he⟩⟩

@[simp] theorem get_filterMap (f : K → V → Option W) (m : GoMap K V) (k : K) :
    (m.filterMap f).get k = (m.get k).bind (f k) := by
  obtain ⟨⟨e, he⟩⟩ := m
  induction e using Quotient.inductionOn with
  | _ l => exact dlookup_filterMap f k l he

/-- Every value passed through `f`. -/
def mapVals (f : K → V → W) (m : GoMap K V) : GoMap K W :=
  m.filterMap fun k v => some (f k v)

/-- The entries that satisfy `p`. -/
def filter (p : K → V → Bool) (m : GoMap K V) : GoMap K V :=
  m.filterMap fun k v => if p k v then some v else none

@[simp] theorem get_mapVals (f : K → V → W) (m : GoMap K V) (k : K) :
    (m.mapVals f).get k = (m.get k).map (f k) := by
  simp only [mapVals, get_filterMap]
  cases m.get k <;> rfl

theorem get_filter (p : K → V → Bool) (m : GoMap K V) (k : K) :
    (m.filter p).get k = (m.get k).filter (p k) := by
  simp only [filter, get_filterMap]
  cases m.get k with
  | none => rfl
  | some v => simp [Option.filter]

/-! ## Searching and updating in place -/

/-- Whether some entry satisfies `p`. -/
def any (p : K → V → Bool) (m : GoMap K V) : Bool :=
  decide (∃ k ∈ m.keys, (m.get k).any (p k) = true)

theorem any_eq_true (p : K → V → Bool) (m : GoMap K V) :
    m.any p = true ↔ ∃ k v, m.get k = some v ∧ p k v = true := by
  simp only [any, decide_eq_true_eq, mem_keys]
  constructor
  · rintro ⟨k, ⟨v, hv⟩, hp⟩
    exact ⟨k, v, hv, by simpa [hv] using hp⟩
  · rintro ⟨k, v, hv, hp⟩
    exact ⟨k, ⟨v, hv⟩, by simpa [hv] using hp⟩

instance (priority := 1100) decidableForallEntries (m : GoMap K V) (P : K → V → Prop)
    [∀ k v, Decidable (P k v)] : Decidable (∀ k v, m.get k = some v → P k v) :=
  decidable_of_iff (m.any (fun k v => !decide (P k v)) = false) (by
    rw [← Bool.not_eq_true, any_eq_true]
    simp only [Bool.not_eq_true', decide_eq_false_iff_not]
    constructor
    · exact fun h k v hv => by_contra fun hp => h ⟨k, v, hv, hp⟩
    · rintro h ⟨k, v, hv, hp⟩
      exact hp (h k v hv))

/-- Apply `f` to the value under `k`, if there is one. -/
def modify (m : GoMap K V) (k : K) (f : V → V) : GoMap K V :=
  match m.get k with
  | some v => m.set k (f v)
  | none => m

theorem get_modify (f : V → V) :
    (m.modify k f).get j = if j = k then (m.get k).map f else m.get j := by
  unfold modify
  cases h : m.get k with
  | none =>
    by_cases hj : j = k
    · subst hj; simp [h]
    · simp [hj]
  | some v => simp [get_set]

@[simp] theorem get_modify_self (f : V → V) : (m.modify k f).get k = (m.get k).map f := by
  simp [get_modify]

@[simp] theorem get_modify_ne {k j : K} (f : V → V) (h : j ≠ k) :
    (m.modify k f).get j = m.get j := by
  simp [get_modify, h]

@[simp] theorem modify_set_self (f : V → V) : (m.set k v).modify k f = m.set k (f v) := by
  ext1 j
  by_cases hj : j = k
  · subst hj
    simp
  · simp [hj]

variable {m k v} in
/-- Replacing a value that is there updates it. -/
theorem set_eq_modify (h : m.get k = some v) (f : V → V) : m.set k (f v) = m.modify k f := by
  unfold modify
  rw [h]

/-- Updates that agree on the entry are the same. -/
theorem modify_congr {k : K} {f g : V → V} (h : ∀ v, m.get k = some v → f v = g v) :
    m.modify k f = m.modify k g := by
  unfold modify
  cases hget : m.get k with
  | none => rfl
  | some v => simp only [h v hget]

/-- An update that leaves the entry as it is does nothing. -/
theorem modify_eq_self {k : K} {f : V → V} (h : ∀ v, m.get k = some v → f v = v) :
    m.modify k f = m := by
  ext1 j
  by_cases hj : j = k
  · subst hj
    rw [get_modify_self]
    cases hget : m.get j with
    | none => rfl
    | some v => rw [Option.map_some, h v hget]
  · rw [get_modify_ne _ _ hj]

/-- Updates add and remove no entry. -/
@[simp] theorem get_modify_eq_none (f : V → V) : (m.modify k f).get j = none ↔ m.get j = none := by
  by_cases hj : j = k
  · subst hj
    simp
  · simp [hj]

@[simp] theorem get_foldl_modify_eq_none (ks : List K) (m : GoMap K V) (j : K)
    (f : V → V) :
    (ks.foldl (fun m k => m.modify k f) m).get j = none ↔ m.get j = none := by
  induction ks generalizing m with
  | nil => rfl
  | cons k ks ih => rw [List.foldl_cons, ih, get_modify_eq_none]

/-! ## Passing values through a function -/

@[simp] theorem mapVals_set (f : V → W) (m : GoMap K V) (k : K) (v : V) :
    (m.set k v).mapVals (fun _ => f) = (m.mapVals fun _ => f).set k (f v) := by
  ext1 j
  by_cases hj : j = k
  · subst hj
    simp
  · simp [hj]

@[simp] theorem mapVals_del (f : V → W) (m : GoMap K V) (k : K) :
    (m.del k).mapVals (fun _ => f) = (m.mapVals fun _ => f).del k := by
  ext1 j
  by_cases hj : j = k
  · subst hj
    simp
  · simp [hj]

/-- An update of a value is seen through `f` as the update `g'`. -/
theorem mapVals_modify (f : V → W) (g : V → V) (g' : W → W)
    (h : ∀ v, f (g v) = g' (f v)) (m : GoMap K V) (k : K) :
    (m.modify k g).mapVals (fun _ => f) = (m.mapVals fun _ => f).modify k g' := by
  ext1 j
  by_cases hj : j = k
  · subst hj
    simp only [get_mapVals, get_modify_self, Option.map_map]
    congr 1
    exact funext h
  · simp [hj]

@[simp] theorem has_mapVals (f : V → W) (m : GoMap K V) (k : K) :
    (m.mapVals fun _ => f).has k = m.has k := by
  simp [has]

/-! ## Where a value comes from -/

theorem of_get_modify {m : GoMap K V} {k j : K} {f : V → V} {w : V}
    (h : (m.modify k f).get j = some w) :
    ∃ v, m.get j = some v ∧ (w = v ∨ j = k ∧ w = f v) := by
  rw [get_modify] at h
  split at h
  · next hj =>
    obtain ⟨v, hv, rfl⟩ := Option.map_eq_some_iff.mp h
    exact ⟨v, by rw [hj]; exact hv, Or.inr ⟨hj, rfl⟩⟩
  · exact ⟨w, h, Or.inl rfl⟩

/-- A value after a loop of updates comes from the value there was, by
steps of the relation every update satisfies. -/
theorem of_get_foldl_modify {R : K → V → V → Prop} (hrefl : ∀ k v, R k v v)
    (htrans : ∀ k u v w, R k u v → R k v w → R k u w) {f : V → V} {ks : List K}
    (hf : ∀ k ∈ ks, ∀ v, R k v (f v)) {m : GoMap K V} {j : K} {w : V}
    (h : (ks.foldl (fun m k => m.modify k f) m).get j = some w) :
    ∃ v, m.get j = some v ∧ R j v w := by
  induction ks generalizing m with
  | nil => exact ⟨w, h, hrefl j w⟩
  | cons k ks ih =>
    obtain ⟨u, hu, huw⟩ := ih (fun i hi => hf i (by simp [hi])) h
    obtain ⟨v, hv, rfl | ⟨rfl, rfl⟩⟩ := of_get_modify hu
    · exact ⟨u, hv, huw⟩
    · exact ⟨v, hv, htrans _ _ _ _ (hf j (by simp) v) huw⟩

/-! ## What holds of every value -/

/-- Every value of the map satisfies `P`. -/
def All (P : V → Prop) (m : GoMap K V) : Prop := ∀ k v, m.get k = some v → P v

theorem All.set {P : V → Prop} {m : GoMap K V} (h : m.All P) (k : K) {v : V}
    (hv : P v) : (m.set k v).All P := by
  intro j w hw
  rcases of_get_set hw with ⟨-, rfl⟩ | hold
  · exact hv
  · exact h j w hold

theorem All.del {P : V → Prop} {m : GoMap K V} (h : m.All P) (k : K) : (m.del k).All P := by
  intro j w hw
  rw [get_del] at hw
  split at hw
  · cases hw
  · exact h j w hw

/-- An update of one value; it may be told which value it is. -/
theorem All.modify_at {P : V → Prop} {m : GoMap K V} (h : m.All P) {k : K}
    {f : V → V} (hf : ∀ v, m.get k = some v → P v → P (f v)) :
    (m.modify k f).All P := by
  intro j w hw
  rw [get_modify] at hw
  split at hw
  · obtain ⟨v, hv, rfl⟩ := Option.map_eq_some_iff.mp hw
    exact hf v hv (h k v hv)
  · exact h j w hw

/-- An update of a value that is known. -/
theorem All.modify_get {P : V → Prop} {m : GoMap K V} (h : m.All P) {k : K} {v : V}
    {f : V → V} (hk : m.get k = some v) (hf : P v → P (f v)) : (m.modify k f).All P :=
  h.modify_at fun w hw => by
    cases hk.symm.trans hw
    exact hf

theorem All.modify {P : V → Prop} {m : GoMap K V} (h : m.All P) (k : K)
    {f : V → V} (hf : ∀ v, P v → P (f v)) : (m.modify k f).All P :=
  h.modify_at fun v _ hv => hf v hv

theorem All.foldl_modify {P : V → Prop} {m : GoMap K V} (h : m.All P)
    (ks : List K) {f : V → V} (hf : ∀ v, P v → P (f v)) :
    (ks.foldl (fun m k => m.modify k f) m).All P := by
  induction ks generalizing m with
  | nil => exact h
  | cons k ks ih => exact ih (h.modify k hf)

/-! ## Orders of the keys -/

/-- The list names every key of the map once: an order a pass over the map
may meet them in. -/
def Enumerates (m : GoMap K V) (order : List K) : Prop :=
  order.Nodup ∧ ∀ k, k ∈ order ↔ m.get k ≠ none

instance (m : GoMap K V) (order : List K) : Decidable (m.Enumerates order) :=
  decidable_of_iff (order.Nodup ∧ order.toFinset = m.keys) (by
    refine and_congr_right fun _ => ?_
    rw [Finset.ext_iff]
    refine forall_congr' fun k => ?_
    rw [List.mem_toFinset, mem_keys, ← Option.isSome_iff_exists, Option.isSome_iff_ne_none])

/-! ## Two maps together -/

/-- The entries of `m`, and those of `m'` under keys `m` does not have. -/
def union (m m' : GoMap K V) : GoMap K V := ⟨m.entries ∪ m'.entries⟩

@[simp] theorem get_union (m' : GoMap K V) (k : K) :
    (m.union m').get k = (m.get k).or (m'.get k) := by
  unfold get union
  by_cases h : k ∈ m.entries
  · rw [Finmap.lookup_union_left h]
    obtain ⟨v, hv⟩ := Option.isSome_iff_exists.mp (Finmap.lookup_isSome.mpr h)
    rw [hv]
    rfl
  · rw [Finmap.lookup_union_right h, Finmap.lookup_eq_none.mpr h]
    rfl

/-! ## Entries written one after the other -/

/-- The listed entries are written in order, so the last one under a key
counts. -/
def setAll (m : GoMap K V) (l : List (K × V)) : GoMap K V :=
  l.foldl (fun m p => m.set p.1 p.2) m

@[simp] theorem setAll_cons (p : K × V) (l : List (K × V)) :
    m.setAll (p :: l) = (m.set p.1 p.2).setAll l := rfl

/-- A key that is not listed keeps its entry. -/
theorem get_setAll_of_not_mem {l : List (K × V)} {k : K} (h : ∀ v, (k, v) ∉ l) :
    (m.setAll l).get k = m.get k := by
  induction l generalizing m with
  | nil => rfl
  | cons p l ih =>
    have hp : k ≠ p.1 := by
      rintro rfl
      exact h p.2 (by simp)
    rw [setAll_cons, ih (m.set p.1 p.2) fun v hv => h v (by simp [hv]), get_set_ne _ _ hp]

/-- A listed key gets one of its listed values. -/
theorem exists_get_setAll {l : List (K × V)} {k : K} (h : ∃ v, (k, v) ∈ l) :
    ∃ v, (k, v) ∈ l ∧ (m.setAll l).get k = some v := by
  induction l generalizing m with
  | nil =>
    obtain ⟨v, hv⟩ := h
    cases hv
  | cons p l ih =>
    rw [setAll_cons]
    by_cases hl : ∃ v, (k, v) ∈ l
    · obtain ⟨v, hv, hget⟩ := ih (m.set p.1 p.2) hl
      exact ⟨v, by simp [hv], hget⟩
    · -- Nothing later writes the key, so the head entry stays.
      obtain ⟨v, hv⟩ := h
      rcases List.mem_cons.mp hv with rfl | hv
      · refine ⟨v, by simp, ?_⟩
        rw [get_setAll_of_not_mem _ fun w hw => hl ⟨w, hw⟩]
        simp
      · exact absurd ⟨v, hv⟩ hl

end

/-- The index a loop over the entries builds: `f` says under which key an
entry's own key is filed, if under any. -/
def indexBy {J : Type} [DecidableEq J] (f : V → Option J) (order : List K)
    (m : GoMap K V) : GoMap J K :=
  setAll ∅ (order.filterMap fun k =>
    (m.get k).bind fun v => (f v).map fun j => (j, k))

section indexBy

variable {J : Type} [DecidableEq J] (f : V → Option J) (order : List K)
  (m : GoMap K V)

omit [DecidableEq J] in
private theorem mem_indexed (j : J) (k : K) : (j, k) ∈ (order.filterMap fun k =>
        (m.get k).bind fun v => (f v).map fun j => (j, k)) ↔
      k ∈ order ∧ ∃ v, m.get k = some v ∧ f v = some j := by
  simp only [List.mem_filterMap, Option.bind_eq_some_iff, Option.map_eq_some_iff, Prod.mk.injEq]
  constructor
  · rintro ⟨k', hk', v, hv, j', hj', rfl, rfl⟩
    exact ⟨hk', v, hv, hj'⟩
  · rintro ⟨hk, v, hv, hj⟩
    exact ⟨k, hk, v, hv, j, hj, rfl, rfl⟩

/-- What the index answers is filed under that key. -/
theorem of_get_indexBy {j : J} {k : K}
    (h : (indexBy f order m).get j = some k) :
    k ∈ order ∧ ∃ v, m.get k = some v ∧ f v = some j := by
  by_cases hl : ∃ k', (j, k') ∈ order.filterMap fun k =>
      (m.get k).bind fun v => (f v).map fun j => (j, k)
  · obtain ⟨k', hmem, hget⟩ := exists_get_setAll ∅ hl
    have hk : k = k' := Option.some.inj (h.symm.trans hget)
    subst hk
    exact (mem_indexed f order m j k).mp hmem
  · have hnone : (indexBy f order m).get j = none := by
      unfold indexBy
      rw [get_setAll_of_not_mem _ fun k' hk' => hl ⟨k', hk'⟩]
      exact get_empty j
    rw [hnone] at h
    cases h

/-- A key some entry is filed under is answered. -/
theorem exists_get_indexBy {j : J} {k : K} {v : V} (hk : k ∈ order)
    (hv : m.get k = some v) (hj : f v = some j) :
    ∃ k', (indexBy f order m).get j = some k' := by
  have hmem := (mem_indexed f order m j k).mpr ⟨hk, v, hv, hj⟩
  obtain ⟨k', -, hget⟩ := exists_get_setAll (∅ : GoMap J K) ⟨k, hmem⟩
  exact ⟨k', hget⟩

/-- The entry the loop meets last keeps what it is filed under. -/
theorem get_indexBy_last {j : J} {k : K} {v : V} (hv : m.get k = some v)
    (hj : f v = some j) : (indexBy f (order ++ [k]) m).get j = some k := by
  unfold indexBy setAll
  rw [List.filterMap_append, List.foldl_append]
  simp [hv, hj]

variable {f order m}

/-- An index that has exactly what the entries are filed under is the one
every loop over them builds. -/
theorem indexBy_eq (hord : ∀ k, k ∈ order ↔ m.get k ≠ none) {idx : GoMap J K}
    (h : ∀ j k, idx.get j = some k ↔ ∃ v, m.get k = some v ∧ f v = some j) :
    indexBy f order m = idx := by
  ext1 j
  cases hidx : idx.get j with
  | none =>
    cases hget : (indexBy f order m).get j with
    | none => rfl
    | some k =>
      obtain ⟨-, hfiled⟩ := of_get_indexBy f order m hget
      rw [(h j k).mpr hfiled] at hidx
      cases hidx
  | some k =>
    obtain ⟨v, hv, hj⟩ := (h j k).mp hidx
    have hk : k ∈ order := (hord k).mpr (by simp [hv])
    obtain ⟨k', hget⟩ := exists_get_indexBy f order m hk hv hj
    obtain ⟨-, hfiled⟩ := of_get_indexBy f order m hget
    have hidx' := (h j k').mpr hfiled
    rw [hidx] at hidx'
    rw [hget, hidx']

end indexBy

end GoMap

end Rendezvous.Base

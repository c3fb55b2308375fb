import Mathlib.Logic.Function.Basic
import Rendezvous.Base.Run

/-!
# A cache that one caller at a time builds

Under every key there is a cell with a value that was built from the state.
A caller takes the value while it is young, waits when another caller is
building it, or builds it. Who changes the state invalidates keys: the cell
is dropped and the next caller finds an empty one, or it is kept and only
forgets when its value was built (`Source.keeps`).

A caller gets a value that is not older than the last invalidation of its
key before it came (`Meets.current`), as long as a cell that is kept is not
being built from an older state when it is invalidated (`Orderly`).

States, values and cells carry numbers for the sake of this statement. No
step looks at them. A caller reads the state in one step: whatever can change
while it reads is not in the state.
-/

namespace Rendezvous.Base.SingleFlight

/-- What is cached: the value of a key in a state, how long it is given out,
and the keys whose cell is kept. -/
structure Source (S K V : Type) where
  build : S → K → Option V
  ttl : Int
  keeps : K → Bool

/-- A cell. Its value comes with the number of the state it was built from;
`floor` is the number of the state when the cell was last invalidated. -/
structure Cell (V : Type) where
  body : Option (Nat × V) := none
  builtAt : Option Int := none
  building : Bool := false
  failed : Bool := false
  floor : Nat := 0

/-- What a caller does next: look at its cell, wait for another caller, read
the state, or store what it has read. -/
inductive Phase (V : Type) where
  | enter
  | wait
  | build
  | store (read : Option (Nat × V))

/-- A caller, its cell among those its key has had, and the number of the
state when the key was last invalidated before it came. -/
structure Call (K V : Type) where
  key : K
  cell : Nat
  since : Nat
  phase : Phase V

/-- The state and the earlier ones, the cells of every key and which of them
is the one in use, and the callers under way. -/
structure Cache (S K V : Type) where
  live : S
  past : List S := []
  cells : K × Nat → Cell V := fun _ => {}
  inUse : K → Nat := fun _ => 0
  calls : List (Call K V) := []

inductive Event (S K : Type) where
  | call (k : K)
  | enter (i : Nat) (now : Int)
  | wake (i : Nat)
  | read (i : Nat)
  | store (i : Nat) (now : Int)
  | change (s : S)
  | invalidate (k : K)

section

variable {S K V : Type} [DecidableEq K] (src : Source S K V)

/-- The value is young enough to be given out. -/
def Cell.fresh (cell : Cell V) (now : Int) : Bool :=
  cell.body.isSome && cell.builtAt.any fun t => decide (now - t < src.ttl)

/-- What a caller leaves in its cell. -/
def Cell.fill (cell : Cell V) (now : Int) : Option (Nat × V) → Cell V
  | some p => { cell with body := some p, builtAt := some now, building := false, failed := false }
  | none => { cell with building := false, failed := true }

/-- The cell of a caller. -/
def Cache.cell (c : Cache S K V) (x : Call K V) : Cell V := c.cells (x.key, x.cell)

/-- The number of the state when the key was last invalidated. -/
def Cache.since (c : Cache S K V) (k : K) : Nat := (c.cells (k, c.inUse k)).floor

def Cache.setCell (c : Cache S K V) (a : K × Nat) (cell : Cell V) : Cache S K V :=
  { c with cells := Function.update c.cells a cell }

def Cache.setCall (c : Cache S K V) (i : Nat) (x : Call K V) (phase : Phase V) : Cache S K V :=
  { c with calls := c.calls.set i { x with phase := phase } }

def Cache.dropCall (c : Cache S K V) (i : Nat) : Cache S K V :=
  { c with calls := c.calls.eraseIdx i }

/-- A key is invalidated. -/
def Cache.invalidate (c : Cache S K V) (k : K) : Cache S K V :=
  if src.keeps k then c.setCell (k, c.inUse k)
    { c.cells (k, c.inUse k) with builtAt := none, floor := c.past.length }
  else { c.setCell (k, c.inUse k + 1) { floor := c.past.length } with
    inUse := Function.update c.inUse k (c.inUse k + 1) }

/-- The next step of the caller at `i`. -/
def Cache.go (c : Cache S K V) (i : Nat) (x : Call K V) : Event S K → Phase V → Cache S K V
  | .enter _ now, .enter =>
    if (c.cell x).fresh src now then c.dropCall i
    else if (c.cell x).building then c.setCall i x .wait
    else (c.setCell (x.key, x.cell) { c.cell x with building := true }).setCall i x .build
  | .wake _, .wait => if (c.cell x).building then c else c.dropCall i
  | .read _, .build =>
    c.setCall i x (.store ((src.build c.live x.key).map fun v => (c.past.length, v)))
  | .store _ now, .store r => (c.setCell (x.key, x.cell) ((c.cell x).fill now r)).dropCall i
  | _, _ => c

def step (c : Cache S K V) (e : Event S K) : Cache S K V :=
  match e with
  | .call k => { c with calls := c.calls ++ [⟨k, c.inUse k, c.since k, .enter⟩] }
  | .enter i _ | .wake i | .read i | .store i _ =>
    match c.calls[i]? with
    | some x => c.go src i x e x.phase
    | none => c
  | .change s => { c with live := s, past := c.past ++ [c.live] }
  | .invalidate k => c.invalidate src k

/-- The value a caller gets from its next step, if it gets one. -/
def Cache.gives (c : Cache S K V) (x : Call K V) : Event S K → Phase V → Option (Nat × V)
  | .enter _ now, .enter => if (c.cell x).fresh src now then (c.cell x).body else none
  | .wake _, .wait =>
    if (c.cell x).building || (c.cell x).failed then none else (c.cell x).body
  | .store _ _, .store r => r
  | _, _ => none

/-! ## When answers are current -/

/-- The value is the one of the key in the state of that number. -/
def Cache.Built (c : Cache S K V) (k : K) (p : Nat × V) : Prop :=
  ∃ s, (c.past ++ [c.live])[p.1]? = some s ∧ src.build s k = some p.2

/-- The caller that takes a step gets the value of a state at or after the
last invalidation of its key before it came. -/
def Current (c : Cache S K V) (e : Event S K) : Prop :=
  match e with
  | .enter i _ | .wake i | .store i _ => ∀ x ∈ c.calls[i]?, ∀ p ∈ c.gives src x e x.phase,
      x.since ≤ p.1 ∧ c.Built src x.key p
  | _ => True

/-- A cell that is kept is not being built from an older state when it is
invalidated. -/
def Orderly (c : Cache S K V) : Event S K → Prop
  | .invalidate k => src.keeps k = true → ∀ x ∈ c.calls, x.key = k →
      ∀ p, x.phase = .store (some p) → c.past.length ≤ p.1
  | _ => True

/-! ## What every step keeps -/

/-- The cell of a caller is not older than it has to be, and neither is the
value the caller waits for or has read. -/
def Call.Good (c : Cache S K V) (x : Call K V) : Prop :=
  x.cell ≤ c.inUse x.key ∧ x.since ≤ (c.cell x).floor ∧
  match x.phase with
  | .wait => (c.cell x).building = false → (c.cell x).failed = false →
      ∀ p ∈ (c.cell x).body, x.since ≤ p.1
  | .store (some p) => (c.cell x).floor ≤ p.1 ∧ c.Built src x.key p
  | _ => True

/-- The value of a cell is one of its key, and not older than the cell as
long as it may be given out. -/
def Cell.Good (c : Cache S K V) (k : K) (cell : Cell V) : Prop :=
  cell.floor ≤ c.past.length ∧ ∀ p ∈ cell.body, c.Built src k p ∧
    (cell.builtAt.isSome = true → cell.floor ≤ p.1)

structure Sound (c : Cache S K V) : Prop where
  cells : ∀ a, (c.cells a).Good src c a.1
  calls : ∀ x ∈ c.calls, x.Good src c

variable {src} {c : Cache S K V} {i : Nat} {k : K}

section

omit [DecidableEq K]

theorem sound_initial (s : S) : Sound src ({ live := s } : Cache S K V) where
  cells _ := ⟨Nat.le_refl 0, fun _ h => nomatch h⟩
  calls _ h := nomatch h

theorem Sound.setCalls (h : Sound src c) {calls : List (Call K V)}
    (hcalls : ∀ x ∈ calls, x ∈ c.calls ∨ x.Good src c) : Sound src { c with calls := calls } :=
  ⟨h.cells, fun x hx => (hcalls x hx).elim (h.calls x) id⟩

theorem Sound.dropCall (h : Sound src c) (i : Nat) : Sound src (c.dropCall i) :=
  h.setCalls fun _ hx => Or.inl (List.mem_of_mem_eraseIdx hx)

theorem Sound.setCall (h : Sound src c) (i : Nat) {x : Call K V} {phase : Phase V}
    (hx : Call.Good src c { x with phase := phase }) : Sound src (c.setCall i x phase) := by
  refine h.setCalls fun y hy => ?_
  rcases List.mem_or_eq_of_mem_set hy with hy | rfl
  · exact Or.inl hy
  · exact Or.inr hx

/-- A value that was built from a state stays so. -/
theorem Cache.Built.change {p : Nat × V} (h : c.Built src k p) (s : S) :
    { c with live := s, past := c.past ++ [c.live] }.Built src k p := by
  obtain ⟨s', hs', hbuild⟩ := h
  refine ⟨s', ?_, hbuild⟩
  rw [List.getElem?_append_left (List.getElem?_eq_some_iff.mp hs').1]
  exact hs'

theorem Sound.change (h : Sound src c) (s : S) :
    Sound src { c with live := s, past := c.past ++ [c.live] } := by
  refine ⟨fun a => ⟨Nat.le_trans (h.cells a).1 (by simp), fun p hp => ?_⟩, fun x hx => ?_⟩
  · obtain ⟨hbuilt, hyoung⟩ := (h.cells a).2 p hp
    exact ⟨Cache.Built.change hbuilt s, hyoung⟩
  · obtain ⟨hcell, hsince, hphase⟩ := h.calls x hx
    refine ⟨hcell, hsince, ?_⟩
    cases hp : x.phase with
    | wait =>
      rw [hp] at hphase
      exact hphase
    | store r =>
      rw [hp] at hphase
      cases r with
      | some p => exact ⟨hphase.1, Cache.Built.change hphase.2 s⟩
      | none => trivial
    | _ => trivial

end

/-- A cell may become newer, as long as its callers need no more than it
has. -/
theorem Sound.setCell (h : Sound src c) {n : Nat} {cell : Cell V} (hgood : cell.Good src c k)
    (hfloor : (c.cells (k, n)).floor ≤ cell.floor)
    (hwait : ∀ x ∈ c.calls, x.key = k → x.cell = n → x.phase = .wait →
      cell.building = false → cell.failed = false → ∀ p ∈ cell.body, x.since ≤ p.1)
    (hstore : ∀ x ∈ c.calls, x.key = k → x.cell = n → ∀ p, x.phase = .store (some p) →
      cell.floor ≤ p.1) :
    Sound src (c.setCell (k, n) cell) := by
  have hfloors : ∀ a, (c.cells a).floor ≤ ((c.setCell (k, n) cell).cells a).floor := by
    intro a
    simp only [Cache.setCell, Function.update_apply]
    split
    · next ha => exact ha ▸ hfloor
    · exact Nat.le_refl _
  refine ⟨fun a => ?_, fun x hx => ?_⟩
  · simp only [Cache.setCell, Function.update_apply]
    split
    · next ha =>
      subst ha
      exact hgood
    · exact h.cells a
  · obtain ⟨hcell, hsince, hphase⟩ := h.calls x hx
    by_cases ha : (x.key, x.cell) = (k, n)
    · obtain ⟨hk, hn⟩ := Prod.mk.inj ha
      have hnew : (c.setCell (k, n) cell).cell x = cell := ha ▸ Function.update_self _ _ _
      refine ⟨hcell, Nat.le_trans hsince (hfloors _), ?_⟩
      rw [hnew]
      cases hp : x.phase with
      | wait => exact hwait x hx hk hn hp
      | store r =>
        rw [hp] at hphase
        cases r with
        | some p => exact ⟨hstore x hx hk hn p hp, hphase.2⟩
        | none => trivial
      | _ => trivial
    · have hsame : (c.setCell (k, n) cell).cell x = c.cell x := Function.update_of_ne ha _ _
      refine ⟨hcell, ?_⟩
      rw [hsame]
      exact ⟨hsince, hphase⟩

theorem Sound.go (h : Sound src c) {x : Call K V} (hx : c.calls[i]? = some x) (e : Event S K) :
    Sound src (c.go src i x e x.phase) := by
  have hmem := List.mem_of_getElem? hx
  obtain ⟨hcell, hsince, hphase⟩ := h.calls x hmem
  have hgood := h.cells (x.key, x.cell)
  -- a caller that has read a state keeps it, whatever the others do
  have hread : ∀ y ∈ c.calls, y.key = x.key → y.cell = x.cell → ∀ p,
      y.phase = .store (some p) → (c.cell x).floor ≤ p.1 := by
    intro y hy hk hn p hp
    have hyp := (h.calls y hy).2.2
    rw [hp, Cache.cell, hk, hn] at hyp
    exact hyp.1
  cases e with
  | enter m now =>
    cases hp : x.phase with
    | enter =>
      simp only [Cache.go]
      split
      · exact h.dropCall i
      · split
        · next hbuilding =>
          exact h.setCall i ⟨hcell, hsince, fun hidle => nomatch hbuilding.symm.trans hidle⟩
        · have hset : Sound src (c.setCell (x.key, x.cell) { c.cell x with building := true }) :=
            h.setCell hgood (Nat.le_refl _) (fun _ _ _ _ _ hidle => nomatch hidle) hread
          obtain ⟨hcell', hsince', -⟩ := hset.calls x hmem
          exact hset.setCall i ⟨hcell', hsince', trivial⟩
    | _ => exact h
  | wake m =>
    cases hp : x.phase with
    | wait =>
      simp only [Cache.go]
      split
      · exact h
      · exact h.dropCall i
    | _ => exact h
  | read m =>
    cases hp : x.phase with
    | build =>
      refine h.setCall i ⟨hcell, hsince, ?_⟩
      cases hv : src.build c.live x.key with
      | none => trivial
      | some v => exact ⟨hgood.1, c.live, by simp, hv⟩
    | _ => exact h
  | store m now =>
    cases hp : x.phase with
    | store r =>
      rw [hp] at hphase
      refine Sound.dropCall ?_ i
      cases r with
      | none => exact h.setCell hgood (Nat.le_refl _) (fun _ _ _ _ _ _ hfine => nomatch hfine) hread
      | some p =>
        refine h.setCell ⟨hgood.1, fun q hq => ?_⟩ (Nat.le_refl _) (fun y hy hk hn _ _ _ q hq => ?_)
          hread
        · cases hq
          exact ⟨hphase.2, fun _ => hphase.1⟩
        · cases hq
          have hy := (h.calls y hy).2.1
          rw [Cache.cell, hk, hn] at hy
          exact Nat.le_trans hy hphase.1
    | _ => exact h
  | _ => cases x.phase <;> exact h

/-- A key that is invalidated has a cell that is as new as the state. -/
theorem Sound.invalidate (h : Sound src c) (horderly : Orderly src c (.invalidate k)) :
    Sound src (c.invalidate src k) := by
  unfold Cache.invalidate
  split
  · next hkeeps =>
    refine h.setCell ⟨Nat.le_refl _, fun p hp => ⟨((h.cells (k, c.inUse k)).2 p hp).1,
        fun hnever => nomatch hnever⟩⟩ (h.cells _).1 (fun x hx hk hn hp => ?_)
      (fun x hx hk _ => horderly hkeeps x hx hk)
    have hwait := (h.calls x hx).2.2
    rw [hp, Cache.cell, hk, hn] at hwait
    exact hwait
  · -- no caller has the new cell yet
    have hnone : ∀ x ∈ c.calls, x.key = k → x.cell ≠ c.inUse k + 1 := by
      rintro x hx rfl hn
      exact Nat.not_succ_le_self _ (hn ▸ (h.calls x hx).1)
    have hset : Sound src (c.setCell (k, c.inUse k + 1) { floor := c.past.length }) := h.setCell
      ⟨Nat.le_refl _, fun _ hp => nomatch hp⟩ (h.cells _).1
      (fun x hx hk hn => absurd hn (hnone x hx hk)) (fun x hx hk hn => absurd hn (hnone x hx hk))
    refine ⟨hset.cells, fun x hx => ⟨Nat.le_trans (hset.calls x hx).1 ?_, (hset.calls x hx).2⟩⟩
    change c.inUse x.key ≤ Function.update c.inUse k (c.inUse k + 1) x.key
    rw [Function.update_apply]
    split
    · next hk => exact hk ▸ Nat.le_succ _
    · exact Nat.le_refl _

theorem Sound.step {e : Event S K} (horderly : Orderly src c e) (h : Sound src c) :
    Sound src (step src c e) := by
  cases e with
  | call k =>
    refine h.setCalls fun x hx => (List.mem_append.mp hx).imp id fun hx => ?_
    rw [List.mem_singleton.mp hx]
    exact ⟨Nat.le_refl _, Nat.le_refl _, trivial⟩
  | change s => exact h.change s
  | invalidate k => exact h.invalidate horderly
  | _ =>
    simp only [SingleFlight.step]
    split
    · next x hx => exact h.go hx _
    · exact h

omit [DecidableEq K] in
theorem Sound.current (h : Sound src c) (e : Event S K) : Current src c e := by
  have hcall : ∀ (i : Nat), ∀ x ∈ c.calls[i]?, ∀ p ∈ c.gives src x e x.phase,
      x.since ≤ p.1 ∧ c.Built src x.key p := by
    intro i x hx p hp
    obtain ⟨-, hsince, hphase⟩ := h.calls x (List.mem_of_getElem? hx)
    have hcell := (h.cells (x.key, x.cell)).2 p
    unfold Cache.gives at hp
    split at hp
    · -- a young value
      split at hp
      · next hfresh =>
        have hbuilt : (c.cell x).builtAt.isSome = true := by
          simp only [Cell.fresh, Bool.and_eq_true, Option.any_eq_true] at hfresh
          obtain ⟨-, t, ht, -⟩ := hfresh
          rw [ht]
          rfl
        exact ⟨Nat.le_trans hsince ((hcell hp).2 hbuilt), (hcell hp).1⟩
      · cases hp
    · -- the value another caller has built
      next hp' =>
      rw [hp'] at hphase
      split at hp
      · cases hp
      · next hdone =>
        simp only [Bool.or_eq_true, not_or, Bool.not_eq_true] at hdone
        exact ⟨hphase hdone.1 hdone.2 p hp, (hcell hp).1⟩
    · -- its own
      next hp' =>
      rw [hp', Option.mem_def.mp hp] at hphase
      exact ⟨Nat.le_trans hsince hphase.1, hphase.2⟩
    · cases hp
  cases e with
  | enter i | wake i | store i => exact hcall i
  | _ => trivial

/-! ## How new a caller's value has to be -/

theorem since_invalidate : (c.invalidate src k).since k = c.past.length := by
  unfold Cache.invalidate Cache.since Cache.setCell
  split <;> simp

theorem setCell_since {n : Nat} {d : Cell V} (hfloor : d.floor = (c.cells (k, n)).floor)
    (k' : K) : (c.setCell (k, n) d).since k' = c.since k' := by
  simp only [Cache.since, Cache.setCell, Function.update_apply]
  split
  · next ha => rw [hfloor, ← ha]
  · rfl

theorem go_since (x : Call K V) (e : Event S K) (phase : Phase V) (k : K) :
    (c.go src i x e phase).since k = c.since k := by
  unfold Cache.go
  split
  · split
    · rfl
    · split
      · rfl
      · exact setCell_since (d := { c.cell x with building := true }) rfl k
  · split <;> rfl
  · rfl
  · next r =>
    refine setCell_since ?_ k
    cases r <;> rfl
  · rfl

/-- What a caller has to see never gets less. -/
theorem since_step (h : Sound src c) (e : Event S K) (k : K) :
    c.since k ≤ (step src c e).since k := by
  cases e with
  | call | change => exact Nat.le_refl _
  | invalidate k' =>
    by_cases hk : k = k'
    · subst hk
      exact Nat.le_trans (h.cells _).1 (Nat.le_of_eq since_invalidate.symm)
    · simp only [step, Cache.invalidate, Cache.since, Cache.setCell]
      split <;> simp [hk]
  | _ =>
    simp only [step]
    split
    · exact Nat.le_of_eq (go_since _ _ _ k).symm
    · exact Nat.le_refl _

theorem past_step (e : Event S K) : c.past.length ≤ (step src c e).past.length := by
  cases e with
  | call => exact Nat.le_refl _
  | change s => simp [step]
  | invalidate k =>
    simp only [step, Cache.invalidate]
    split <;> exact Nat.le_refl _
  | _ =>
    simp only [step]
    split
    · unfold Cache.go
      repeat' split
      all_goals exact Nat.le_refl _
    · exact Nat.le_refl _

end

section

variable {S K V : Type} [DecidableEq K] {src : Source S K V} (s : S)

/-- In every run whose steps are orderly, every caller gets a value that is
not older than the last invalidation of its key before it came. -/
theorem Meets.current {es : List (Event S K)}
    (h : Meets (step src) (Orderly src) { live := s } es) :
    Meets (step src) (Current src) { live := s } es :=
  h.imp (step src) (fun _ _ => Sound.step) (fun _ e _ hsound => hsound.current e) (sound_initial s)

/-- A caller that comes after an invalidation has to see the states before
it. -/
theorem Meets.since {xs ys : List (Event S K)} {k : K}
    (h : Meets (step src) (Orderly src) { live := s } (xs ++ ys)) (hk : .invalidate k ∈ ys) :
    (run (step src) { live := s } xs).past.length ≤
      (run (step src) { live := s } (xs ++ ys)).since k := by
  obtain ⟨ys, zs, rfl⟩ := List.append_of_mem hk
  obtain ⟨hxs, hrest⟩ := (meets_append (step src) _ _ _ _).mp h
  obtain ⟨hys, horderly, hzs⟩ := (meets_append (step src) _ _ _ _).mp hrest
  have hsound := hxs.invariant (step src) (fun _ _ => Sound.step) (sound_initial s)
  -- until the invalidation the states get more, after it what is to be seen
  obtain ⟨hsound, hpast⟩ := hys.invariant (step src)
    (P := fun c => Sound src c ∧ (run (step src) { live := s } xs).past.length ≤ c.past.length)
    (fun c e he hc => ⟨hc.1.step he, Nat.le_trans hc.2 (past_step e)⟩) ⟨hsound, Nat.le_refl _⟩
  have hend := hzs.invariant (step src)
    (P := fun c => Sound src c ∧ (run (step src) { live := s } xs).past.length ≤ c.since k)
    (fun c e he hc => ⟨hc.1.step he, Nat.le_trans hc.2 (since_step hc.1 e k)⟩)
    ⟨hsound.step horderly, Nat.le_trans hpast (Nat.le_of_eq since_invalidate.symm)⟩
  simpa only [run_append, run_cons] using hend.2

end

end Rendezvous.Base.SingleFlight

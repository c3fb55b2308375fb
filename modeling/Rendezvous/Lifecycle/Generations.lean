import Rendezvous.Lifecycle.Queries
import Rendezvous.Lifecycle.Reboot

/-!
# Generations of a key

Verifiers compare what the registry published of a node at different times:
its generation is never to go down, and two keys of the node are never to
have the same. A rotation and a recovery count up. A fresh record starts
again at zero, whatever was published of the id before, and so does the
record of a process that starts from a disk or from a copy without the last
rotations. The generations hold in every run in which no fresh record is
filed behind what was published of its id, every process starts from a file
and a log that have the published rotations, and a standby takes over only
if they were pushed to it.
-/

namespace Rendezvous.Lifecycle

open Base Registry Directory Identity Wal Persist Recovery

/-! ## The history -/

/-- An event of the registry, or a query. -/
inductive Inquiry where
  | event (e : World.Event)
  | query (q : Query)

/-- What the registry has published, the latest first, and what it could
have published when it last pushed to the standby. -/
structure Publications where
  published : List Published := []
  pushed : GoMap NodeId Published := ∅

/-- The registry with its history. -/
def generationStep (E : QueryEnv) (x : World × Publications) : Inquiry → World × Publications
  | .event e => (x.1.step E.toNodeEnv e,
      if x.1.pushes e then { x.2 with pushed := x.1.live.nodes.mapVals published } else x.2)
  | .query q => (x.1, { x.2 with
      published := (q.publishes E x.1.clock x.1.live).toList ++ x.2.published })

/-! ## What the disk says of a key -/

/-- What a delta says of the key of an id: how often it was rotated, and the
key. -/
def accountDelta (id : NodeId) (x : Option (Nat × Bytes)) : Delta → Option (Nat × Bytes)
  | .register d =>
    if d.nodeID = id then x.or ((Base64.decode d.publicKey).map fun key => (0, key)) else x
  | .deregister nodeID => if nodeID = id then none else x
  | .keyRotation d =>
    if d.nodeID = id then
      x.bind fun a => (Base64.decode d.newPublicKey).map fun key => (a.1 + 1, key)
    else x
  | _ => x

/-- What the file says of the key, with what the log says after it. -/
def diskAccount (file : Option Snapshot) (log : List Delta) (id : NodeId) : Option (Nat × Bytes) :=
  (replayed log).foldl (accountDelta id) (((diskNodes file).get id).bind fun sn =>
    (Base64.decode sn.publicKey).map fun key => (sn.keyRotCount, key))

/-- What a record says of its key. -/
def account (n : NodeInfo) : Nat × Bytes := (n.keyMeta.rotateCount, n.publicKey)

theorem accountDelta_record (now : Time) (id : NodeId) (x : Option NodeInfo) (d : Delta) :
    accountDelta id (x.map account) d = (replayRecord now id x d).map account := by
  cases d with
  | register d =>
    simp only [accountDelta, replayRecord]
    split
    · cases x with
      | some n => rfl
      | none => cases Base64.decode d.publicKey <;> rfl
    · rfl
  | deregister nodeID =>
    simp only [accountDelta, replayRecord]
    split <;> rfl
  | keyRotation d =>
    simp only [accountDelta, replayRecord]
    split
    · cases x with
      | none => rfl
      | some n =>
        cases Base64.decode d.newPublicKey with
        | none => rfl
        | some key =>
          simp only [Option.map_some, Option.bind_some, account, replayRotation]
          split <;> rfl
    · rfl
  | _ => rfl

theorem foldl_accountDelta (now : Time) (id : NodeId) (ds : List Delta) (x : Option NodeInfo) :
    ds.foldl (accountDelta id) (x.map account) =
      (ds.foldl (replayRecord now id) x).map account := by
  induction ds generalizing x with
  | nil => rfl
  | cons d ds ih => rw [List.foldl_cons, List.foldl_cons, accountDelta_record now, ih]

theorem fileRecord_account (file : Option Snapshot) (id : NodeId) :
    (((diskNodes file).get id).bind fun sn =>
      (Base64.decode sn.publicKey).map fun key => (sn.keyRotCount, key)) =
      (fileRecord file id).map account := by
  unfold fileRecord
  cases (diskNodes file).get id with
  | none => rfl
  | some sn => cases hkey : Base64.decode sn.publicKey <;> simp [hkey, account, core, loadedNode]

/-- A start counts the rotations of file and log. -/
theorem boot_account {order : List NodeId} {file : Option Snapshot}
    (horder : IsOrder order (diskNodes file)) (now : Time) (log : List Delta) {id : NodeId}
    {n : NodeInfo} (hn : (boot now order file log).nodes.get id = some n) :
    diskAccount file log id = some (account n) := by
  have hrecord := boot_record now horder log id
  rw [hn, Option.map_some] at hrecord
  rw [diskAccount, fileRecord_account, foldl_accountDelta now]
  exact (congrArg (Option.map account) hrecord).symm

/-! ## What is to hold, and when it does -/

/-- What is published of a node after something else was. -/
def Succeeds (later earlier : Published) : Prop :=
  later.nodeID = earlier.nodeID → earlier.generation ≤ later.generation ∧
    (earlier.generation = later.generation → earlier.key = later.key)

instance (later earlier : Published) : Decidable (Succeeds later earlier) :=
  inferInstanceAs (Decidable (_ → _))

/-- Generations never go down, and tell keys apart. -/
def GenerationsHold (l : List Published) : Prop := l.Pairwise Succeeds

instance (l : List Published) : Decidable (GenerationsHold l) :=
  inferInstanceAs (Decidable (l.Pairwise Succeeds))

/-- The node whose key the next section replaces. -/
def Flight.rotates : Flight → Option NodeId
  | .rotate id _ _ _ | .force id _ _ _ => some id
  | _ => none

/-- The event is not a rotation, or the count it makes is in the range of
`int`. -/
def CountsInRange (w : World) (e : World.Event) : Prop :=
  ∀ id ∈ (w.runs e).bind Flight.rotates, ∀ n ∈ w.live.nodes.get id,
    FitsInt64 (n.keyMeta.rotateCount + 1)

instance (w : World) (e : World.Event) : Decidable (CountsInRange w e) :=
  inferInstanceAs (Decidable (∀ _ ∈ _, _))

/-- A process starts from a file and a log that say nothing of a node that
is behind what was published of it. A standby takes over if what was pushed
to it is not behind it. A fresh record is filed under an id only if its key,
and generation zero, is all that was published of it. -/
def KeepsGenerations (E : QueryEnv) (x : World × Publications) : Inquiry → Prop
  | .event (.start _) => ∀ p ∈ x.2.published, ∀ a ∈ diskAccount x.1.file x.1.log p.nodeID,
      Succeeds ⟨p.nodeID, Base64.encode a.2, goInt a.1⟩ p
  | .event .failover => ∀ p ∈ x.2.published, ∀ q ∈ x.2.pushed.get p.nodeID, Succeeds q p
  | .event e => CountsInRange x.1 e ∧ ∀ f ∈ x.1.files E.toNodeEnv e, ∀ p ∈ x.2.published,
      p.nodeID = f.1 → p.generation = 0 ∧ p.key = Base64.encode f.2
  | .query _ => True

instance (E : QueryEnv) (x : World × Publications) (a : Inquiry) :
    Decidable (KeepsGenerations E x a) := by
  unfold KeepsGenerations
  split <;> infer_instance

/-! ## The generation of a record -/

variable {E : QueryEnv} {x : World × Publications} {e : World.Event}

theorem Succeeds.refl (p : Published) : Succeeds p p := fun _ => ⟨le_refl _, fun _ => rfl⟩

theorem Succeeds.trans {p q r : Published} (h : Succeeds p q) (h' : Succeeds q r)
    (hpq : p.nodeID = q.nodeID) : Succeeds p r := by
  intro hpr
  obtain ⟨hle, hkey⟩ := h hpq
  obtain ⟨hle', hkey'⟩ := h' (hpq.symm.trans hpr)
  refine ⟨hle'.trans hle, fun heq => ?_⟩
  have hmid : r.generation = q.generation := le_antisymm hle' (heq ▸ hle)
  rw [hkey' hmid, hkey (hmid.symm.trans heq)]

theorem goInt_of_fits {n : Nat} (h : FitsInt64 n) : goInt n = n := by
  unfold FitsInt64 at h
  exact Int.bmod_eq_of_le (by omega) (by omega)

theorem published_fresh (id : NodeId) (req : RegisterReq) (key : Bytes) (nets : List NetId)
    (now : Time) (name : String) :
    published id { freshNode req key nets now with hostname := name } =
      ⟨id, Base64.encode key, 0⟩ := by
  have hzero : goInt 0 = 0 := goInt_of_fits (by decide)
  simp only [published, KeyInfo.generation, freshNode, hzero]

theorem succeeds_same {id : NodeId} {n n' : NodeInfo} (hkey : n'.publicKey = n.publicKey)
    (hcount : n'.keyMeta.rotateCount = n.keyMeta.rotateCount) :
    Succeeds (published id n') (published id n) := by
  unfold published KeyInfo.generation
  rw [hkey, hcount]
  exact .refl _

/-- A count in range is greater than the one before. -/
theorem succeeds_rotated {id : NodeId} {n n' : NodeInfo}
    (hcount : n'.keyMeta.rotateCount = n.keyMeta.rotateCount + 1)
    (hrange : FitsInt64 (n.keyMeta.rotateCount + 1)) :
    Succeeds (published id n') (published id n) := by
  intro _
  have hold : n.keyMeta.generation = n.keyMeta.rotateCount := by
    unfold FitsInt64 at hrange
    exact goInt_of_fits ⟨by omega, by omega⟩
  have hnew : n'.keyMeta.generation = n.keyMeta.rotateCount + 1 := by
    unfold KeyInfo.generation
    rw [hcount, goInt_of_fits hrange]
    rfl
  simp only [published, hold, hnew]
  omega

/-- A write leaves key and generation alone, or counts up. -/
theorem Edited.succeeds {w : World} {id : NodeId} {n n' : NodeInfo} (h : Edited w id n e n')
    (hn : w.live.nodes.get id = some n) (hrange : CountsInRange w e) :
    Succeeds (published id n') (published id n) := by
  cases h with
  | relisted op logged n' h =>
    rw [h]
    exact succeeds_same rfl rfl
  | set msg c gated nets hf hid =>
    obtain ⟨_, _, _, setting⟩ := c
    cases setting <;> exact succeeds_same rfl rfl
  | rotated text key hf | forced text key r hf =>
    exact succeeds_rotated rfl (hrange id (by rw [hf]; rfl) n hn)
  | _ => exact succeeds_same rfl rfl

/-! ## Generations along a run -/

/-- What was published holds, the directory is not behind it, and the
standby has what was pushed. -/
structure Numbered (x : World × Publications) : Prop where
  holds : GenerationsHold x.2.published
  current : ∀ p ∈ x.2.published, ∀ n, x.1.live.nodes.get p.nodeID = some n →
    Succeeds (published p.nodeID n) p
  standby : ∀ s ∈ x.1.standby, ∀ id n, s.nodes.get id = some n →
    x.2.pushed.get id = some (published id n)

theorem Numbered.current_step (h : Numbered x) (hkeeps : KeepsGenerations E x (.event e)) :
    ∀ p ∈ x.2.published, ∀ n', (x.1.step E.toNodeEnv e).live.nodes.get p.nodeID = some n' →
      Succeeds (published p.nodeID n') p := by
  obtain ⟨w, l⟩ := x
  intro p hp n' hn'
  by_cases hrestart : w.restarts e
  · rcases restarts_live E.toNodeEnv hrestart with
      ⟨order, rfl, horder, hlive⟩ | ⟨rfl, hstandby⟩
    · rw [hlive] at hn'
      have hdisk := hkeeps p hp _ (boot_account horder w.clock w.log hn')
      unfold published KeyInfo.generation
      exact hdisk
    · exact hkeeps p hp _ (h.standby _ hstandby p.nodeID n' hn')
  · have hinside : CountsInRange w e ∧ ∀ f ∈ w.files E.toNodeEnv e, ∀ p ∈ l.published,
        p.nodeID = f.1 → p.generation = 0 ∧ p.key = Base64.encode f.2 := by
      cases e with
      | start | failover => exact ⟨fun _ hid => (by cases hid), fun f hf => (by cases hf)⟩
      | _ => exact hkeeps
    cases step_stands hrestart hn' with
    | kept hn => exact h.current p hp n' hn
    | edited hn hedit => exact (hedit.succeeds hn hinside.1).trans (h.current p hp _ hn) rfl
    | filed req key ext nets name hf hid =>
      obtain ⟨hzero, hkey⟩ := hinside.2 _ hid p hp rfl
      rw [published_fresh]
      exact fun _ => ⟨hzero.le, fun _ => hkey⟩

theorem Numbered.standby_step (h : Numbered x) :
    ∀ s ∈ (generationStep E x (.event e)).1.standby, ∀ id n, s.nodes.get id = some n →
      (generationStep E x (.event e)).2.pushed.get id = some (published id n) := by
  obtain ⟨w, l⟩ := x
  intro s hs id n hn
  simp only [generationStep] at hs ⊢
  rcases step_standby_record hs hn with ⟨hnot, hold⟩ | ⟨hpush, m, hm, name, rfl⟩
  · rw [if_neg hnot]
    exact h.standby s hold id n hn
  · rw [if_pos hpush, GoMap.get_mapVals, hm]
    rfl

theorem Numbered.step (h : Numbered x) {a : Inquiry} (hkeeps : KeepsGenerations E x a) :
    Numbered (generationStep E x a) := by
  cases a with
  | event e =>
    have hpublished : (generationStep E x (.event e)).2.published = x.2.published := by
      simp only [generationStep]
      split <;> rfl
    refine ⟨?_, ?_, h.standby_step⟩
    · rw [hpublished]
      exact h.holds
    · rw [hpublished]
      exact h.current_step hkeeps
  | query q =>
    refine ⟨?_, ?_, h.standby⟩
    · show GenerationsHold ((q.publishes E x.1.clock x.1.live).toList ++ x.2.published)
      cases hpub : q.publishes E x.1.clock x.1.live with
      | none => exact h.holds
      | some p =>
        obtain ⟨n, hn, hp⟩ := Query.publishes_record hpub
        refine List.pairwise_cons.mpr ⟨fun q hq hid => ?_, h.holds⟩
        rw [hid] at hn hp
        rw [hp]
        exact h.current q hq n hn rfl
    · intro q' hq' m hm
      rcases List.mem_append.mp hq' with hnew | hold
      · obtain ⟨n, hn, hp⟩ := Query.publishes_record (Option.mem_toList.mp hnew)
        cases hn.symm.trans hm
        rw [← hp]
        exact .refl _
      · exact h.current q' hold m hm

/-- Node 1 rotates its key from `AAAA` to `BBBB`. -/
def rotates : List World.Event :=
  [.rotateKey [("node_id", .num 1), ("new_public_key", .str "BBBB"),
      ("signature", .str "AAAA")]] ++ List.replicate 3 (.go 0 [0] true)

/-- A lookup of node 1. -/
def lookup : Inquiry := .query (.lookup [("node_id", .num 1)])

end Rendezvous.Lifecycle

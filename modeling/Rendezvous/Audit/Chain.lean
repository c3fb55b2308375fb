import Rendezvous.Audit.Exporter

/-!
# The hash chain of the audit log

Every entry of the log carries the hash of the one before it.
`VerifyIntegrity` reports the log intact in every run in which an append
finds the hash it has read still the last one, no append finds the log full,
and the entries handed to `RestoreLog` name their predecessors
(`chain_intact_runs`).

Otherwise it need not be. `Append` reads the last hash before it takes the
lock, it drops the first entry of a full log although the next one names it
(`full_log_not_intact`), and the rebuilding of a broken link hashes the name
that was there before.

The digest is any function to 32 bytes.
-/

namespace Rendezvous.Audit

open Base Registry

/-! ## Hashes -/

/-- `hex.EncodeToString`. -/
def hexEncode (digest : Vector UInt8 32) : String :=
  String.ofList (digest.toList.flatMap fun b =>
    [Nat.digitChar (b.toNat / 16), Nat.digitChar (b.toNat % 16)])

theorem hexEncode_ne (digest : Vector UInt8 32) : hexEncode digest ≠ "" := by
  intro h
  have hlength := congrArg (fun s => s.toList.length) h
  simp [hexEncode, List.length_flatMap] at hlength

def textBytes (s : String) : Bytes := s.toUTF8.data.toList

/-- The bytes that `hashEntry` hashes. -/
def hashedBytes (prevHash timestamp action : String) (networkID : NetId) (nodeID : NodeId)
    (details : String) : Bytes :=
  textBytes prevHash ++ textBytes timestamp ++ textBytes action ++
    [(networkID >>> 8).toUInt8, networkID.toUInt8] ++
    [(nodeID >>> 24).toUInt8, (nodeID >>> 16).toUInt8, (nodeID >>> 8).toUInt8, nodeID.toUInt8] ++
    textBytes details

section

variable (sha : Bytes → Vector UInt8 32)

/-- `hashEntry`. -/
def hashEntry (prevHash timestamp action : String) (networkID : NetId) (nodeID : NodeId)
    (details : String) : String :=
  hexEncode (sha (hashedBytes prevHash timestamp action networkID nodeID details))

/-- The hash of an entry, by the fields it has. -/
def Entry.expected (e : Entry) : String :=
  hashEntry sha e.prevHash e.timestamp e.action e.networkID e.nodeID e.details

theorem Entry.expected_ne (e : Entry) : e.expected sha ≠ "" := hexEncode_ne _

/-! ## The store -/

def maxEntries : Nat := 1000

/-- The ring buffer of `Store`, with the calls of `Append` that have read
`lastHash` and do not hold the lock yet. -/
structure Ring where
  log : List Entry := []
  lastHash : String := ""
  appends : List Entry := []

/-- `Append`, before the lock. -/
def Ring.link (st : Ring) (e : Entry) : Entry :=
  let e := { e with prevHash := st.lastHash }
  { e with hash := e.expected sha }

/-- `Append`, under the lock. -/
def Ring.push (st : Ring) (e : Entry) : Ring :=
  let log := if maxEntries ≤ st.log.length then st.log.tail else st.log
  { st with log := log ++ [e], lastHash := e.hash }

/-- `rebuildHashChain`, the first entry. -/
def Entry.rebuildGenesis (e : Entry) : Entry :=
  if e.hash = "" then { e with prevHash := "", hash := e.expected sha } else e

/-- `rebuildHashChain`, an entry after one with the hash `prev`. -/
def Entry.rebuild (prev : String) (e : Entry) : Entry :=
  if e.prevHash ≠ prev ∨ e.hash ≠ e.expected sha then
    { e with prevHash := prev, hash := e.expected sha }
  else e

def rebuildFrom : String → List Entry → List Entry
  | _, [] => []
  | prev, e :: es => e.rebuild sha prev :: rebuildFrom (e.rebuild sha prev).hash es

/-- The hash of the last entry, or `prev`. -/
def lastHashFrom : String → List Entry → String
  | prev, [] => prev
  | _, e :: es => lastHashFrom e.hash es

/-- `rebuildHashChain`. -/
def rebuildHashChain : List Entry → List Entry
  | [] => []
  | e :: es => e.rebuildGenesis sha :: rebuildFrom sha (e.rebuildGenesis sha).hash es

/-- `RestoreLog`. -/
def Ring.restoreLog (st : Ring) (entries : List Entry) : Ring :=
  let log := rebuildHashChain sha entries
  { st with log := log, lastHash := lastHashFrom "" log }

def verifyFrom : String → Int → List Entry → Int
  | _, _, [] => -1
  | prevHash, i, e :: es =>
    if e.prevHash ≠ prevHash then i
    else if e.hash ≠ e.expected sha then i
    else verifyFrom e.hash (i + 1) es

/-- `VerifyIntegrity`. -/
def Ring.verifyIntegrity (st : Ring) : Int := verifyFrom sha "" 0 st.log

/-- The next step: an `Append` starts, the `Append` at `i` takes the lock, or
a log is restored. -/
inductive ChainAct where
  | start (e : Entry)
  | commit (i : Nat)
  | restore (entries : List Entry)

def Ring.step (st : Ring) : ChainAct → Ring
  | .start e => { st with appends := st.appends ++ [st.link sha e] }
  | .commit i =>
    match st.appends[i]? with
    | some e => { st.push e with appends := st.appends.eraseIdx i }
    | none => st
  | .restore entries => st.restoreLog sha entries

/-! ## The chain -/

/-- The entries form a chain that starts after `prev`. -/
def Linked : String → List Entry → Prop
  | _, [] => True
  | prev, e :: es => e.prevHash = prev ∧ e.hash = e.expected sha ∧ Linked e.hash es

theorem Linked.verifyFrom {prev : String} {log : List Entry} (h : Linked sha prev log)
    (i : Int) : verifyFrom sha prev i log = -1 := by
  induction log generalizing prev i with
  | nil => rfl
  | cons e es ih =>
    obtain ⟨hprev, hhash, hrest⟩ := h
    rw [Audit.verifyFrom, if_neg (not_not.mpr hprev), if_neg (not_not.mpr hhash)]
    exact ih hrest (i + 1)

theorem Linked.append {prev : String} {log : List Entry} {e : Entry}
    (h : Linked sha prev log) (hprev : e.prevHash = lastHashFrom prev log)
    (hhash : e.hash = e.expected sha) : Linked sha prev (log ++ [e]) := by
  induction log generalizing prev with
  | nil => exact ⟨hprev, hhash, trivial⟩
  | cons e' es ih => exact ⟨h.1, h.2.1, ih h.2.2 hprev⟩

theorem lastHashFrom_append (prev : String) (log : List Entry) (e : Entry) :
    lastHashFrom prev (log ++ [e]) = e.hash := by
  induction log generalizing prev with
  | nil => rfl
  | cons e' es ih => exact ih e'.hash

/-- Every entry names the hash the one before it should have. -/
def Follows : String → List Entry → Prop
  | _, [] => True
  | prev, e :: es => e.prevHash = prev ∧ Follows (e.expected sha) es

/-- The entries `RestoreLog` makes a chain of: they name their predecessors,
and the first has its own hash or none. What hashes the others have does not
matter. -/
def Restorable : List Entry → Prop
  | [] => True
  | e :: es => e.prevHash = "" ∧ (e.hash = "" ∨ e.hash = e.expected sha) ∧
      Follows sha (e.expected sha) es

theorem rebuildFrom_linked {prev : String} {es : List Entry} (h : Follows sha prev es) :
    Linked sha prev (rebuildFrom sha prev es) := by
  induction es generalizing prev with
  | nil => trivial
  | cons e es ih =>
    obtain ⟨rfl, hrest⟩ := h
    have hentry : e.rebuild sha e.prevHash = { e with hash := e.expected sha } := by
      by_cases hhash : e.hash = e.expected sha
      · rw [Entry.rebuild, if_neg (by simp [hhash]), ← hhash]
      · rw [Entry.rebuild, if_pos (Or.inr hhash)]
    rw [rebuildFrom, hentry]
    exact ⟨rfl, rfl, ih hrest⟩

theorem rebuildHashChain_linked {entries : List Entry} (h : Restorable sha entries) :
    Linked sha "" (rebuildHashChain sha entries) := by
  cases entries with
  | nil => trivial
  | cons e es =>
    obtain ⟨hprev, hhash, hrest⟩ := h
    have hentry : e.rebuildGenesis sha = { e with hash := e.expected sha } := by
      rcases hhash with hnone | hown
      · rw [Entry.rebuildGenesis, if_pos hnone, ← hprev]
      · rw [Entry.rebuildGenesis, if_neg (hown ▸ e.expected_ne sha), ← hown]
    rw [rebuildHashChain, hentry]
    exact ⟨hprev, rfl, rebuildFrom_linked sha hrest⟩

/-! ## Runs -/

/-- What keeps the chain: the hash an `Append` has read is still the last
one and the log has room, and a restored log can be made a chain. -/
def Ring.Proper (st : Ring) : ChainAct → Prop
  | .start _ => True
  | .commit i => ∀ e, st.appends[i]? = some e →
      e.prevHash = st.lastHash ∧ st.log.length < maxEntries
  | .restore entries => Restorable sha entries

/-- The log is a chain up to the last hash, and the appends under way have
their own hashes. -/
structure Ring.Intact (st : Ring) : Prop where
  linked : Linked sha "" st.log
  last : st.lastHash = lastHashFrom "" st.log
  appends : ∀ e ∈ st.appends, e.hash = e.expected sha

theorem Ring.Intact.push {st : Ring} (h : st.Intact sha) {e : Entry}
    (hprev : e.prevHash = st.lastHash) (hhash : e.hash = e.expected sha)
    (hroom : st.log.length < maxEntries) : (st.push e).Intact sha := by
  simp only [Ring.push, if_neg (Nat.not_le.mpr hroom)]
  exact ⟨h.linked.append sha (hprev.trans h.last) hhash,
    (lastHashFrom_append "" st.log e).symm, h.appends⟩

theorem Ring.Intact.step {st : Ring} {a : ChainAct} (hproper : st.Proper sha a)
    (h : st.Intact sha) : (st.step sha a).Intact sha := by
  cases a with
  | start e =>
    refine ⟨h.linked, h.last, fun e' hmem => ?_⟩
    rcases List.mem_append.mp hmem with hmem | hmem
    · exact h.appends e' hmem
    · rw [List.mem_singleton.mp hmem]
      rfl
  | commit i =>
    simp only [Ring.step]
    split
    · next e hi =>
      obtain ⟨hprev, hroom⟩ := hproper e hi
      have hpushed := h.push sha hprev (h.appends e (List.mem_of_getElem? hi)) hroom
      exact ⟨hpushed.linked, hpushed.last,
        fun e' hmem => h.appends e' (List.mem_of_mem_eraseIdx hmem)⟩
    · exact h
  | restore entries => exact ⟨rebuildHashChain_linked sha hproper, rfl, h.appends⟩

end

/-- In every run whose steps are proper, `VerifyIntegrity` reports the log
intact. -/
theorem chain_intact_runs (sha : Bytes → Vector UInt8 32) (acts : List ChainAct)
    (hproper : Meets (Ring.step sha) (Ring.Proper sha) {} acts) :
    (run (Ring.step sha) {} acts).verifyIntegrity sha = -1 :=
  have hintact : (run (Ring.step sha) {} acts).Intact sha :=
    Meets.invariant (Ring.step sha) (fun _ _ => Ring.Intact.step sha) hproper
      ⟨trivial, rfl, fun _ hmem => absurd hmem List.not_mem_nil⟩
  hintact.linked.verifyFrom sha 0

/-- Two appends, one after the other, and the restart with what they left. -/
theorem chain_intact_restart :
    let sha : Bytes → Vector UInt8 32 := fun text => Vector.replicate 32 (text.foldl (· + ·) 0)
    let e : Entry := { timestamp := "2026-01-01T00:00:00Z", action := "node.registered" }
    let first : Entry := { e with hash := e.expected sha }
    (run (Ring.step sha) {} [.start e, .commit 0, .start e, .commit 0,
      .restore [first, { e with prevHash := first.hash }]]).verifyIntegrity sha = -1 := by
  intro sha e first
  refine chain_intact_runs sha _
    ⟨trivial, ?_, trivial, ?_, ⟨rfl, Or.inr rfl, rfl, trivial⟩, trivial⟩
  all_goals
    rintro _ ⟨⟩
    exact ⟨rfl, by decide⟩

/-! ## A full log -/

section

variable (sha : Bytes → Vector UInt8 32)

/-- `n` calls of `Append` with one entry, one after the other. -/
def appendTimes (e : Entry) : Nat → List ChainAct
  | 0 => []
  | n + 1 => appendTimes e n ++ [.start e, .commit 0]

theorem run_appendTimes (e : Entry) (n : Nat) : run (Ring.step sha) {} (appendTimes e (n + 1)) =
      (run (Ring.step sha) {} (appendTimes e n)).push
        ((run (Ring.step sha) {} (appendTimes e n)).link sha e) ∧
    (run (Ring.step sha) {} (appendTimes e n)).appends = [] := by
  induction n with
  | zero => exact ⟨rfl, rfl⟩
  | succ n ih =>
    have hnone : (run (Ring.step sha) {} (appendTimes e (n + 1))).appends = [] := by
      rw [ih.1]
      exact ih.2
    refine ⟨?_, hnone⟩
    rw [appendTimes, run_append, run_cons, run_cons, run_nil]
    simp only [Ring.step, hnone, List.nil_append, List.getElem?_cons_zero,
      List.eraseIdx_cons_zero, Ring.push]

/-- As long as there is room, all entries are there. -/
theorem appendTimes_intact (e : Entry) {n : Nat} (hn : n ≤ maxEntries) :
    (run (Ring.step sha) {} (appendTimes e n)).Intact sha ∧
      (run (Ring.step sha) {} (appendTimes e n)).log.length = n := by
  induction n with
  | zero => exact ⟨⟨trivial, rfl, fun _ hmem => absurd hmem List.not_mem_nil⟩, rfl⟩
  | succ n ih =>
    obtain ⟨hintact, hlength⟩ := ih (Nat.le_of_succ_le hn)
    have hroom : (run (Ring.step sha) {} (appendTimes e n)).log.length < maxEntries :=
      hlength.trans_lt hn
    rw [(run_appendTimes sha e n).1]
    refine ⟨hintact.push sha rfl rfl hroom, ?_⟩
    simp [Ring.push, hlength, Nat.not_le.mpr hn]

/-- What is left of a full log after its first entry does not start with a
first entry. -/
theorem Ring.Intact.push_full {st : Ring} (h : st.Intact sha)
    (hfull : maxEntries ≤ st.log.length) (e : Entry) :
    (st.push e).verifyIntegrity sha = 0 := by
  simp only [Ring.push, if_pos hfull, Ring.verifyIntegrity]
  match hlog : st.log, h.linked with
  | [], _ | [_], _ => simp [hlog, maxEntries] at hfull
  | a :: b :: rest, ⟨_, hhash, hprev, _⟩ =>
    have hne : b.prevHash ≠ "" := hprev ▸ hhash ▸ a.expected_ne sha
    simp [verifyFrom, hne]

end

/-- After 1001 appends, one after the other, the log is not reported intact,
whatever the digest. -/
theorem full_log_not_intact :
    ¬ ∃ sha, (run (Ring.step sha) {} (appendTimes ⟨"2026-01-01T00:00:00Z", "node.registered",
      0, 1, "", "", ""⟩ (maxEntries + 1))).verifyIntegrity sha = -1 := by
  rintro ⟨sha, h⟩
  obtain ⟨hintact, hlength⟩ := appendTimes_intact sha _ (Nat.le_refl maxEntries)
  rw [(run_appendTimes sha _ maxEntries).1, hintact.push_full sha (Nat.le_of_eq hlength.symm)] at h
  exact absurd h (by decide)

end Rendezvous.Audit

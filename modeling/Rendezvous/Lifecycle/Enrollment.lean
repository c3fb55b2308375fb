import Rendezvous.Lifecycle.Fields

/-!
# Saved recovery enrollments

A node that has enrolled for recovery can be given a new key without the
old one, as long as the registry has its commitment. The commitment is in
the node's record, and is in the file as soon as the record is saved. It is
not lost with the process then. It is lost when the record is: the reaper
and a deregistration delete it, and the registration that reclaims the id
files a fresh one. A saved enrollment is kept in every run in which no fresh
record is filed over it, no older copy of memory is saved after it, the log
brings no other record of the node, and a standby takes over only after it
was pushed to.
-/

namespace Rendezvous.Lifecycle

open Base Registry Directory Identity Persist Recovery

variable {w : World} {e : World.Event} {id : NodeId} {n n' : NodeInfo} {E : NodeEnv}

/-- `GetRecoveryEnrollment`: the commitment, the provider, and whether the
node is enrolled. -/
def getRecoveryEnrollment (s : Server) (id : NodeId) : String × String × Bool :=
  match s.nodes.get id with
  | none => ("", "", false)
  | some n =>
    if n.recoveryCommitment = "" then ("", "", false)
    else (n.recoveryCommitment, n.recoveryProvider, true)

/-! ## The commitment in the record -/

/-- The enrollment an event commits. -/
def World.enrolls (w : World) (e : World.Event) : Option (NodeId × String) :=
  match w.runs e with
  | some (.request _ { nodeID := id, setting := .enrollment commitment _, .. } _) =>
    if w.live.nodes.has id then some (id, commitment) else none
  | _ => none

/-- No write but an enrollment changes the commitment. -/
theorem Edited.recoveryCommitment (h : Edited w id n e n') (hn : w.live.nodes.get id = some n) :
    n'.recoveryCommitment = n.recoveryCommitment ∨
      w.enrolls e = some (id, n'.recoveryCommitment) := by
  cases h with
  | relisted op logged n' h =>
    rw [h]
    exact Or.inl rfl
  | set msg c gated nets hf hid =>
    subst hid
    obtain ⟨id, key, challenge, setting⟩ := c
    cases setting with
    | enrollment commitment provider =>
      right
      have hhas : w.live.nodes.has id = true := by simp [GoMap.has, hn]
      simp [World.enrolls, hf, hhas, Setting.write]
    | _ => exact Or.inl rfl
  | _ => exact Or.inl rfl

/-- What an enrollment leaves in the record. -/
theorem enrolls_get {commitment : String} (h : w.enrolls e = some (id, commitment))
    (hn' : (w.step E e).live.nodes.get id = some n') :
    n'.recoveryCommitment = commitment := by
  unfold World.enrolls at h
  split at h
  · next msg j key challenge commitment' provider gated hf =>
    split at h
    · next hhas =>
      obtain ⟨rfl, rfl⟩ : j = id ∧ commitment' = commitment := by simpa using h
      obtain ⟨n, hn⟩ := (GoMap.has_eq_true _ _).mp hhas
      cases e with
      | go i order logged =>
        change w.flights[i]? = _ at hf
        simp only [World.step, hf, World.go, World.goRequest, Checked.commit,
          editNode, hn, orFail] at hn'
        change (w.live.nodes.set j _).get j = some n' at hn'
        rw [GoMap.get_set_self] at hn'
        rw [← Option.some.inj hn']
      | _ => cases hf
    · cases h
  · cases h

theorem files_of_enrolls {pair : NodeId × String} (h : w.enrolls e = some pair) (E : NodeEnv) :
    w.files E e = none := by
  cases e with
  | go i order logged =>
    unfold World.enrolls at h
    split at h
    · next hf =>
      change w.flights[i]? = _ at hf
      simp only [World.files, hf]
    · cases h
  | _ => rfl

/-- The commitment, as a text that enrollments write. -/
def commitmentField : Field where
  read := NodeInfo.recoveryCommitment
  writes := World.enrolls
  edited := Edited.recoveryCommitment
  written := enrolls_get
  unfiled := files_of_enrolls
  unpushed := by
    intro w e p h
    cases e <;> first | exact not_false | cases h
  fresh _ _ _ _ _ := rfl
  unlisted _ := rfl
  restored _ := rfl
  rotated d _ _ := by
    unfold Wal.replayRotation
    split <;> rfl
  replicated _ _ := rfl

/-! ## What is to hold, and when it does -/

/-- The registry with its history. -/
def enrollmentStep (E : NodeEnv) : World × Marks → World.Event → World × Marks :=
  traced (World.step E) (Marks.note commitmentField E)

/-- The saved enrollment of a node that is registered is the one that is
returned. -/
def EnrollmentKept (x : World × Marks) : Prop :=
  ∀ id r, x.2.get id = some r → r.saved = true → x.1.live.nodes.has id = true →
    (getRecoveryEnrollment x.1.live id).1 = r.value

/-- `KeepsField`, for the commitments. -/
def KeepsEnrolled (E : NodeEnv) (x : World × Marks) (e : World.Event) : Prop :=
  KeepsField commitmentField E x.1 x.2 e

instance (E : NodeEnv) (x : World × Marks) (e : World.Event) : Decidable (KeepsEnrolled E x e) :=
  inferInstanceAs (Decidable (KeepsField ..))

theorem getRecoveryEnrollment_fst {s : Server} (hn : s.nodes.get id = some n) :
    (getRecoveryEnrollment s id).1 = n.recoveryCommitment := by
  simp only [getRecoveryEnrollment, hn]
  split
  · next h => exact h.symm
  · rfl

/-- The reaper deletes node 1, and its key registers again. -/
def reapedAndReclaimed : List World.Event :=
  [.tick 10, .scan 5 [1], .go 0 [0] true] ++ registers

end Rendezvous.Lifecycle

import Rendezvous.Lifecycle.Reboot

/-!
# A text in the record, on its way to the disk and back

Some texts in the record of a node are written by one kind of event only,
and are to be found there later: the commitment of an enrollment, the nonce
of a recovery. The text is lost with the record, when a fresh one is filed
under the id. It outlives the process if it was saved, and if no older copy
of memory was saved after it; and the primary if it was pushed.

`Recorded.step` says so for any such text: a saved text is in the record, in
the file and, if it was pushed, in the standby's copy.
-/

namespace Rendezvous.Lifecycle

open Base Registry Directory Identity Wal Persist Recovery

variable {E : NodeEnv} {w : World} {e : World.Event} {id : NodeId} {n n' : NodeInfo}

/-! ## Fields -/

/-- A text in the record of a node, with the events that write it. Nothing
else does, and the loader, the replay of a rotation and a push keep it. -/
structure Field where
  read : NodeInfo → String
  writes : World → World.Event → Option (NodeId × String)
  edited : ∀ {w id n e n'}, Edited w id n e n' → w.live.nodes.get id = some n →
    read n' = read n ∨ writes w e = some (id, read n')
  written : ∀ {E w e id value n'}, writes w e = some (id, value) →
    (World.step E w e).live.nodes.get id = some n' → read n' = value
  unfiled : ∀ {w e p}, writes w e = some p → ∀ E, World.files E w e = none
  unpushed : ∀ {w e p}, writes w e = some p → ¬ World.pushes w e
  fresh : ∀ req key nets now name,
    read { freshNode req key nets now with hostname := name } = ""
  unlisted : ∀ n, read (core n) = read n
  restored : ∀ n, read (restored n) = read n
  rotated : ∀ d key n, read (replayRotation d key n) = read n
  replicated : ∀ n name, read { replicated n with hostname := name } = read n

variable {F : Field}

/-! ## The history -/

/-- What was last written for a node, whether a file with it was written,
and whether the standby has it from the last push. -/
structure Mark where
  value : String
  saved : Bool
  pushed : Bool
  deriving DecidableEq

/-- What was written for every node. -/
abbrev Marks := GoMap NodeId Mark

variable {l : Marks} {r r' : Mark}

/-- The history after an event. What was not saved when its node got a fresh
record never is. -/
def Marks.note (F : Field) (E : NodeEnv) (w : World) (e : World.Event) (l : Marks) : Marks :=
  match w.files E e, F.writes w e with
  | some (id, _), _ => if (l.get id).any Mark.saved then l else l.del id
  | none, some (id, value) => l.set id ⟨value, false, false⟩
  | none, none => l.mapVals fun id r => {
      value := r.value
      saved := r.saved || (w.saves e).any fun s =>
        (s.nodes.get id).any fun n => F.read n = r.value
      pushed := if w.pushes e then (w.live.nodes.get id).all fun n => F.read n = r.value
        else r.pushed }

/-! ## What is to hold, and when it does -/

/-- Where there is a record of a node whose mark has the flag, the record
has the text. -/
def Agrees (F : Field) (flag : Mark → Bool) (l : Marks) (record : NodeId → Option NodeInfo) :
    Prop :=
  ∀ id r, l.get id = some r → flag r = true → ∀ n, record id = some n → F.read n = r.value

instance (F : Field) (flag : Mark → Bool) (l : Marks) (record : NodeId → Option NodeInfo) :
    Decidable (Agrees F flag l record) :=
  decidable_of_iff ((l.any fun id r => flag r && (record id).any fun n =>
      F.read n ≠ r.value) = false) (by
    rw [← Bool.not_eq_true, GoMap.any_eq_true]
    constructor
    · intro h id r hr hflag n hn
      by_contra hne
      exact h ⟨id, r, hr, by simp [hflag, hn, hne]⟩
    · rintro h ⟨id, r, hr, hbad⟩
      obtain ⟨hflag, hany⟩ := Bool.and_eq_true .. ▸ hbad
      obtain ⟨n, hn, hne⟩ := (Option.any_eq_true _ _).mp hany
      exact absurd (h id r hr hflag n hn) (by simpa using hne))

/-- The delta is a registration of the node. -/
def registersNode (id : NodeId) : Delta → Bool
  | .register d => d.nodeID = id
  | _ => false

/-- The delta is a deregistration of the node. -/
def deregistersNode (id : NodeId) : Delta → Bool
  | .deregister nodeID => nodeID = id
  | _ => false

/-- The log may bring a record of the node that is not the file's. -/
def restores (file : Option Snapshot) (log : List Delta) (id : NodeId) : Bool :=
  log.any (registersNode id) && ((fileRecord file id).isNone || log.any (deregistersNode id))

/-- No fresh record is filed over a text that was saved. No copy of memory
is saved that is older than a saved text. When a process starts, the log
brings no record that the file does not have of a node with a saved text.
When the standby takes over, every saved text was pushed. -/
def KeepsField (F : Field) (E : NodeEnv) (w : World) (l : Marks) (e : World.Event) : Prop :=
  (∀ p ∈ w.files E e, ∀ r ∈ l.get p.1, r.saved = true → r.value = "") ∧
  match e with
  | .replace i => ∀ s ∈ w.copies[i]?, Agrees F Mark.saved l s.nodes.get
  | .start _ => (l.any fun id r => r.saved && restores w.file w.log id) = false
  | .failover => (l.any fun _ r => r.saved && !r.pushed) = false
  | _ => True

instance (F : Field) (E : NodeEnv) (w : World) (l : Marks) (e : World.Event) :
    Decidable (KeepsField F E w l e) := by
  unfold KeepsField
  refine @instDecidableAnd _ _ inferInstance ?_
  rcases e <;> infer_instance

/-! ## The text in the record -/

theorem Field.step_read (F : Field) (hrestart : ¬ w.restarts e)
    (hn' : (w.step E e).live.nodes.get id = some n') :
    (∃ n, w.live.nodes.get id = some n ∧ F.read n' = F.read n) ∨
      F.writes w e = some (id, F.read n') ∨
      ∃ key, w.files E e = some (id, key) ∧ F.read n' = "" := by
  cases step_stands hrestart hn' with
  | kept hn => exact Or.inl ⟨n', hn, rfl⟩
  | edited hn h => exact (F.edited h hn).imp (fun hsame => ⟨_, hn, hsame⟩) Or.inl
  | filed req key ext nets name hf hid => exact Or.inr (Or.inr ⟨key, hid, F.fresh ..⟩)

/-- One delta leaves the text alone, unless it brings a record. -/
theorem replayRecord_read (F : Field) (now : Time) {x : Option NodeInfo} {d : Delta}
    (hd : WellFormed d) (h : registersNode id d = false ∨ x.isSome ∧ deregistersNode id d = false) :
    (∀ n, replayRecord now id x d = some n → ∃ n₀, x = some n₀ ∧ F.read n = F.read n₀) ∧
      (x.isSome → deregistersNode id d = false → (replayRecord now id x d).isSome) := by
  cases d with
  | register d =>
    simp only [replayRecord]
    split
    · next hid =>
      cases x with
      | none => simp [registersNode, hid] at h
      | some n₀ => exact ⟨fun n hn => ⟨n₀, rfl, by rw [Option.some.inj hn]⟩, fun _ _ => rfl⟩
    · exact ⟨fun n hn => ⟨n, hn, rfl⟩, fun hx _ => hx⟩
  | deregister nodeID =>
    simp only [replayRecord]
    split
    · next hid =>
      exact ⟨fun n hn => (by cases hn), fun _ hno => (by simp [deregistersNode, hid] at hno)⟩
    · exact ⟨fun n hn => ⟨n, hn, rfl⟩, fun hx _ => hx⟩
  | keyRotation d =>
    obtain ⟨key, hkey⟩ := Option.isSome_iff_exists.mp hd.2.2
    simp only [replayRecord, hkey, Option.map_some]
    split
    · cases x with
      | none => exact ⟨fun n hn => (by cases hn), fun hx _ => hx⟩
      | some n₀ =>
        refine ⟨fun n hn => ⟨n₀, rfl, ?_⟩, fun _ _ => rfl⟩
        rw [← Option.some.inj hn, F.rotated]
    · exact ⟨fun n hn => ⟨n, hn, rfl⟩, fun hx _ => hx⟩
  | _ => exact ⟨fun n hn => ⟨n, hn, rfl⟩, fun hx _ => hx⟩

theorem foldl_replayRecord_read (F : Field) (now : Time) {ds : List Delta}
    (hds : ∀ d ∈ ds, WellFormed d) {x : Option NodeInfo}
    (h : ds.any (registersNode id) = false ∨ x.isSome ∧ ds.any (deregistersNode id) = false)
    (hn : ds.foldl (replayRecord now id) x = some n) :
    ∃ n₀, x = some n₀ ∧ F.read n = F.read n₀ := by
  induction ds generalizing x with
  | nil => exact ⟨n, hn, rfl⟩
  | cons d ds ih =>
    simp only [List.any_cons, Bool.or_eq_false_iff] at h
    obtain ⟨hread, hstays⟩ := replayRecord_read F now (hds d (by simp))
      (h.imp And.left fun hx => ⟨hx.1, hx.2.1⟩)
    obtain ⟨n₁, hn₁, hsame⟩ := ih (fun d' hd' => hds d' (by simp [hd']))
      (h.imp And.right fun hx => ⟨hstays hx.1 hx.2.1, hx.2.2⟩) hn
    obtain ⟨n₀, hn₀, hfirst⟩ := hread n₁ hn₁
    exact ⟨n₀, hn₀, hsame.trans hfirst⟩

/-- A start finds the text in the file. -/
theorem boot_read (F : Field) {order : List NodeId} {file : Option Snapshot} {log : List Delta}
    {now : Time} (horder : IsOrder order (diskNodes file)) (hlog : restores file log id = false)
    (hn : (boot now order file log).nodes.get id = some n) :
    ∃ n₀, fileRecord file id = some n₀ ∧ F.read n = F.read n₀ := by
  have hdisk := boot_record now horder log id
  rw [hn, Option.map_some] at hdisk
  have hsub : ∀ p : Delta → Bool, log.any p = false → (replayed log).any p = false := by
    intro p hnone
    rw [List.any_eq_false] at hnone ⊢
    exact fun d hd => hnone d (List.takeWhile_subset _ hd)
  have hcases : (replayed log).any (registersNode id) = false ∨
      (fileRecord file id).isSome ∧ (replayed log).any (deregistersNode id) = false := by
    simp only [restores, Bool.and_eq_false_iff, Bool.or_eq_false_iff,
      Option.isNone_eq_false_iff] at hlog
    exact hlog.imp (hsub _) fun h => ⟨h.1, hsub _ h.2⟩
  rw [← F.unlisted n]
  exact foldl_replayRecord_read F now (fun d => wellFormed_of_replayed) hcases hdisk.symm

/-! ## The history along a run -/

/-- What the history has of an id: the text just written, or the one before,
which is saved now if a file with it was just written. -/
inductive Noted (F : Field) (E : NodeEnv) (w : World) (e : World.Event) (l : Marks)
    (id : NodeId) : Mark → Prop where
  | made (value : String) (h : F.writes w e = some (id, value)) :
      Noted F E w e l id ⟨value, false, false⟩
  | kept (r r' : Mark) (hr : l.get id = some r) (hvalue : r'.value = r.value)
      (hwrites : ∀ value, F.writes w e ≠ some (id, value))
      (hfiles : ∀ key, w.files E e = some (id, key) → r.saved = true)
      (hsaved : r'.saved = true → r.saved = true ∨ ∃ s m, w.saves e = some s ∧
        s.nodes.get id = some m ∧ F.read m = r.value)
      (hpushed : r'.pushed = true → if w.pushes e then
        ∀ n, w.live.nodes.get id = some n → F.read n = r.value else r.pushed = true) :
      Noted F E w e l id r'

theorem files_unpushed {p : NodeId × Bytes} (h : w.files E e = some p) : ¬ w.pushes e := by
  cases e with
  | go i order logged => exact not_false
  | _ => cases h

/-- What was there before, and is neither written nor filed over. -/
theorem Noted.same (hr : l.get id = some r) (hpush : ¬ w.pushes e)
    (hwrites : ∀ value, F.writes w e ≠ some (id, value))
    (hfiles : ∀ key, w.files E e = some (id, key) → r.saved = true) : Noted F E w e l id r :=
  .kept r r hr rfl hwrites hfiles Or.inl fun hpushed => by rwa [if_neg hpush]

theorem note_get (h : (l.note F E w e).get id = some r') : Noted F E w e l id r' := by
  unfold Marks.note at h
  split at h
  · next j key _ hfiles =>
    have hnone : ∀ value, F.writes w e ≠ some (id, value) := by
      intro value hwrites
      rw [F.unfiled hwrites] at hfiles
      cases hfiles
    split at h
    · next hsaved =>
      refine .same h (files_unpushed hfiles) hnone fun key' hkey => ?_
      obtain ⟨rfl, -⟩ := Prod.mk.inj (Option.some.inj (hfiles.symm.trans hkey))
      simpa [h] using hsaved
    · rw [GoMap.get_del] at h
      split at h
      · cases h
      · next hne =>
        refine .same h (files_unpushed hfiles) hnone fun key' hkey => absurd ?_ hne
        exact (Prod.mk.inj (Option.some.inj (hkey.symm.trans hfiles))).1
  · next j value hfiles hwrites =>
    rw [GoMap.get_set] at h
    split at h
    · next heq =>
      subst heq
      rw [← Option.some.inj h]
      exact .made _ hwrites
    · next hne =>
      refine .same h (F.unpushed hwrites) (fun v hv => hne ?_) fun key hkey => ?_
      · exact (Prod.mk.inj (Option.some.inj (hv.symm.trans hwrites))).1
      · rw [hfiles] at hkey
        cases hkey
  · next hfiles hwrites =>
    rw [GoMap.get_mapVals] at h
    obtain ⟨r, hr, rfl⟩ := Option.map_eq_some_iff.mp h
    refine .kept r _ hr rfl (fun v hv => ?_) (fun key hkey => ?_) (fun hsaved => ?_)
      fun hpushed => ?_
    · rw [hwrites] at hv
      cases hv
    · rw [hfiles] at hkey
      cases hkey
    · refine ((Bool.or_eq_true _ _).mp hsaved).imp_right fun hnew => ?_
      obtain ⟨s, hs, hany⟩ := (Option.any_eq_true _ _).mp hnew
      obtain ⟨m, hm, hread⟩ := (Option.any_eq_true _ _).mp hany
      exact ⟨s, m, hs, hm, of_decide_eq_true hread⟩
    · simp only at hpushed
      split at hpushed
      · next hpush =>
        rw [if_pos hpush]
        intro n hn
        simpa [hn] using hpushed
      · next hpush => rwa [if_neg hpush]

/-- A saved text is in the record, and so is one that a copy has and that
will be saved with it; it is in the file; and one that was pushed is in the
standby's copy of the record. -/
structure Recorded (F : Field) (w : World) (l : Marks) : Prop where
  live : Agrees F Mark.saved l w.live.nodes.get
  copied : ∀ s ∈ w.copies, ∀ id r m n, l.get id = some r → s.nodes.get id = some m →
    F.read m = r.value → w.live.nodes.get id = some n → F.read n = r.value
  file : Agrees F Mark.saved l (fileRecord w.file)
  standby : ∀ s ∈ w.standby, Agrees F Mark.pushed l s.nodes.get

/-- The text stays in the record, or goes into the fresh one if it is
empty. -/
theorem KeepsField.stands (h : KeepsField F E w l e) (hr : l.get id = some r)
    (hrestart : ¬ w.restarts e) (hwrites : ∀ value, F.writes w e ≠ some (id, value))
    (hfiles : ∀ key, w.files E e = some (id, key) → r.saved = true)
    (hn' : (w.step E e).live.nodes.get id = some n')
    (hbefore : ∀ n, w.live.nodes.get id = some n → F.read n = r.value) : F.read n' = r.value := by
  rcases F.step_read hrestart hn' with ⟨n, hn, hsame⟩ | hmade | ⟨key, hfiled, hempty⟩
  · rw [hsame, hbefore n hn]
  · exact absurd hmade (hwrites _)
  · rw [hempty, h.1 _ hfiled r hr (hfiles key hfiled)]

/-- A state that is written to the file has the saved texts. -/
theorem Recorded.saves (h : Recorded F w l) (hkeeps : KeepsField F E w l e) {s : Server}
    (hs : w.saves e = some s) : Agrees F Mark.saved l s.nodes.get := by
  cases e with
  | replace i => exact hkeeps.2 s hs
  | failover =>
    intro id r hr hsaved
    refine h.standby s hs id r hr ?_
    by_contra hnot
    have hall : (l.any fun _ r => r.saved && !r.pushed) = true :=
      (GoMap.any_eq_true _ _).mpr ⟨id, r, hr, by simp [hsaved, hnot]⟩
    rw [hkeeps.2] at hall
    cases hall
  | _ => cases hs

/-- Within a process a file is written from a copy, and memory stands. -/
theorem saves_copy {s : Server} (hrestart : ¬ w.restarts e) (hs : w.saves e = some s) :
    s ∈ w.copies ∧ (w.step E e).live = w.live := by
  cases e with
  | replace i =>
    refine ⟨List.mem_of_getElem? hs, ?_⟩
    simp only [World.step]
    split <;> rfl
  | failover =>
    refine absurd ?_ hrestart
    simp [World.restarts, show w.standby = some s from hs]
  | _ => cases hs

/-- A saved text is in the record. -/
theorem Recorded.live_step (h : Recorded F w l) (hkeeps : KeepsField F E w l e) :
    Agrees F Mark.saved (l.note F E w e) (w.step E e).live.nodes.get := by
  intro id r' hr' hsaved n' hn'
  cases note_get hr' with
  | made value hwrites => cases hsaved
  | kept r r' hr hvalue hwrites hfiles hnew hpushed =>
    rw [hvalue]
    by_cases hrestart : w.restarts e
    · rcases restarts_live E hrestart with ⟨order, rfl, horder, hlive⟩ | ⟨rfl, hstandby⟩
      · -- the file has the text, and the log brings no other record
        have hold : r.saved = true := by
          rcases hnew hsaved with hold | ⟨s, m, hs, -⟩
          · exact hold
          · cases hs
        have hlog : restores w.file w.log id = false := by
          by_contra hbrings
          have hany : (l.any fun id r => r.saved && restores w.file w.log id) = true :=
            (GoMap.any_eq_true _ _).mpr ⟨id, r, hr, by simp [hold, hbrings]⟩
          rw [hkeeps.2] at hany
          cases hany
        rw [hlive] at hn'
        obtain ⟨n₀, hn₀, hread⟩ := boot_read F horder hlog hn'
        rw [hread]
        exact h.file id r hr hold n₀ hn₀
      · rcases hnew hsaved with hold | ⟨s, m, hs, hm, hread⟩
        · exact h.saves hkeeps hstandby id r hr hold n' hn'
        · cases hs.symm.trans hstandby
          cases hm.symm.trans hn'
          exact hread
    · rcases hnew hsaved with hold | ⟨s, m, hs, hm, hread⟩
      · exact hkeeps.stands hr hrestart hwrites hfiles hn' fun n hn => h.live id r hr hold n hn
      · obtain ⟨hcopy, hlive⟩ := saves_copy (E := E) hrestart hs
        rw [hlive] at hn'
        exact h.copied s hcopy id r m n' hr hm hread hn'

theorem Recorded.copied_step (h : Recorded F w l) (hkeeps : KeepsField F E w l e) :
    ∀ s ∈ (w.step E e).copies, ∀ id r m n, (l.note F E w e).get id = some r →
      s.nodes.get id = some m → F.read m = r.value →
      (w.step E e).live.nodes.get id = some n → F.read n = r.value := by
  intro s hs id r' m n' hr' hm hread hn'
  rcases mem_step_copies hs with ⟨hold, hrestart⟩ | ⟨rfl, rfl⟩
  · cases note_get hr' with
    | made value hwrites => exact F.written hwrites hn'
    | kept r r' hr hvalue hwrites hfiles hnew hpushed =>
      rw [hvalue] at hread ⊢
      exact hkeeps.stands hr hrestart hwrites hfiles hn' fun n hn =>
        h.copied s hold id r m n hr hm hread hn
  · obtain rfl : m = n' := Option.some.inj (hm.symm.trans hn')
    exact hread

/-- A saved text is in the file. -/
theorem Recorded.file_step (h : Recorded F w l) (hkeeps : KeepsField F E w l e) :
    Agrees F Mark.saved (l.note F E w e) (fileRecord (w.step E e).file) := by
  intro id r' hr' hsaved n hn
  cases note_get hr' with
  | made value hwrites => cases hsaved
  | kept r r' hr hvalue hwrites hfiles hnew hpushed =>
    rw [hvalue]
    rcases step_file E w e with ⟨hsame, hnone⟩ | hlost | ⟨s, hs, hfile⟩
    · rw [hsame] at hn
      have hold : r.saved = true := by
        rcases hnew hsaved with hold | ⟨s, m, hs, -⟩
        · exact hold
        · cases hnone.symm.trans hs
      exact h.file id r hr hold n hn
    · rw [hlost] at hn
      cases hn
    · rw [hfile, fileRecord_save] at hn
      obtain ⟨m, hm, rfl⟩ := Option.map_eq_some_iff.mp hn
      rw [F.unlisted, F.restored]
      rcases hnew hsaved with hold | ⟨s', m', hs', hm', hread⟩
      · exact h.saves hkeeps hs id r hr hold m hm
      · cases hs'.symm.trans hs
        cases hm'.symm.trans hm
        exact hread

/-- A text that was pushed is in the copy of the standby. -/
theorem Recorded.standby_step (h : Recorded F w l) :
    ∀ s ∈ (w.step E e).standby, Agrees F Mark.pushed (l.note F E w e) s.nodes.get := by
  intro s hs id r' hr' hflag n hn
  cases note_get hr' with
  | made value hwrites => cases hflag
  | kept r r' hr hvalue hwrites hfiles hnew hpushed =>
    rw [hvalue]
    replace hpushed := hpushed hflag
    rcases step_standby_record hs hn with ⟨hnot, hold⟩ | ⟨hpush, m, hm, name, rfl⟩
    · rw [if_neg hnot] at hpushed
      exact h.standby s hold id r hr hpushed n hn
    · rw [if_pos hpush] at hpushed
      rw [F.replicated]
      exact hpushed m hm

/-- What is recorded stays recorded. -/
theorem Recorded.step (h : Recorded F w l) (hkeeps : KeepsField F E w l e) :
    Recorded F (w.step E e) (l.note F E w e) :=
  ⟨h.live_step hkeeps, h.copied_step hkeeps, h.file_step hkeeps, h.standby_step⟩

theorem recorded_fresh (F : Field) (now : Time) : Recorded F (World.fresh now) ∅ := by
  refine ⟨fun id r hr => ?_, fun s hs => ?_, fun id r hr => ?_, fun s hs => ?_⟩
  · cases hr
  · cases hs
  · cases hr
  · cases hs

end Rendezvous.Lifecycle

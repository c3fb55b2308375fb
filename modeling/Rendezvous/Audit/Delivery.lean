import Rendezvous.Audit.Exporter

/-!
# No audit entry is lost

An entry whose `Export` has returned is to be delivered, or to be in the log
for the next start. That is so in every run in which a call writes to a log
that is open and has no line cut off, and a `Close` truncates the log only
when every entry in it was delivered (`accepted_kept_runs`).

`Close` does not look: it truncates the log with entries that could not be
sent, that found the queue full, that it did not wait for, or that another
exporter has written (`audit_entries_lost`).
-/

namespace Rendezvous.Audit

open Base Registry

/-! ## The log file -/

section

variable {file : List Piece} {r : Record}

theorem pending_append_line (h : Piece.part ∉ file) :
    pending (file ++ [.line r]) = pending file ++ [r] := by
  induction file with
  | nil => rfl
  | cons p rest ih =>
    cases p with
    | line q => simp [pending, ih fun hp => h (List.mem_cons_of_mem _ hp)]
    | part => exact absurd (List.mem_cons_self ..) h

theorem pending_append_part : pending (file ++ [.part]) = pending file := by
  induction file with
  | nil => rfl
  | cons p rest ih =>
    cases p with
    | line q => simp [pending, ih]
    | part => rfl

end

/-! ## The condition -/

/-- The exporter at place `i` has a log. -/
def Store.logs (a : Store) (i : Nat) : Bool := (a.exporters[i]?).any (·.log ≠ .absent)

/-- A call that writes to the log finds it open and without a line cut off,
and a log is truncated when all its entries were delivered. -/
def Sound (a : Store) : Event → Prop
  | .call k _ => ∀ c ∈ a.exports[k]?, c.stage = .append → ∀ x ∈ a.exporters[c.exporter]?,
      x.log ≠ .absent → x.log = .opened ∧ Piece.part ∉ a.file
  | .close j timeout => ∀ c ∈ a.closes[j]?, c.stage = .wait → ∀ x ∈ a.exporters[c.exporter]?,
      x.log = .opened → (x.finished || timeout) = true → ∀ r ∈ pending a.file, r ∈ a.delivered
  | _ => True

instance (a : Store) (e : Event) : Decidable (Sound a e) := by
  cases e <;> unfold Sound <;> infer_instance

/-- The entry was delivered, or the log holds it. -/
def Store.keeps (a : Store) (r : Record) : Prop := r ∈ a.delivered ∨ r ∈ pending a.file

/-- Every entry that was accepted is kept. -/
def AcceptedKept (a : Store) : Prop := ∀ r ∈ a.accepted, a.keeps r

/-- So is the entry of every call that has written and is still to return. -/
structure Kept (a : Store) : Prop where
  accepted : AcceptedKept a
  written : ∀ c ∈ a.exports, c.stage = .enqueue → a.logs c.exporter = true → a.keeps c.record

/-! ## One event -/

section

variable {a : Store}

/-- What is changed besides the accepted entries, the calls and the logs does
not matter, as long as no entry is lost. -/
theorem Kept.mono {b : Store} (h : Kept a) (hkeeps : ∀ r, a.keeps r → b.keeps r)
    (haccepted : ∀ r ∈ b.accepted, r ∈ a.accepted ∨ b.keeps r)
    (hexports : ∀ c ∈ b.exports, c.stage = .enqueue → b.logs c.exporter = true →
      (c ∈ a.exports ∧ a.logs c.exporter = true) ∨ b.keeps c.record) : Kept b where
  accepted := by
    intro r hr
    rcases haccepted r hr with hold | hnew
    · exact hkeeps r (h.accepted r hold)
    · exact hnew
  written := by
    intro c hc hstage hlogs
    rcases hexports c hc hstage hlogs with ⟨hold, hlogs⟩ | hnew
    · exact hkeeps _ (h.written c hold hstage hlogs)
    · exact hnew

/-- The exporters a change of one exporter leaves have the logs they had. -/
theorem logs_modify (exporters : List Exporter) (i j : Nat) (f : Exporter → Exporter)
    (hf : ∀ x, (f x).log ≠ .absent → x.log ≠ .absent)
    (h : ((exporters.modify i f)[j]?).any (·.log ≠ .absent) = true) :
    (exporters[j]?).any (·.log ≠ .absent) = true := by
  rw [List.getElem?_modify] at h
  cases hx : exporters[j]? with
  | none => simp [hx] at h
  | some x =>
    simp only [hx, Option.map_eq_map, Option.map_some, Option.any_some, decide_eq_true_eq]
      at h ⊢
    split at h
    · exact hf x h
    · exact h

/-- The calls of `Export` and the store know exporters that are there. -/
structure Placed (a : Store) : Prop where
  exports : ∀ c ∈ a.exports, c.exporter < a.exporters.length
  current : ∀ i ∈ a.current, i < a.exporters.length

/-- A step keeps the places when it takes no exporter away, and the calls and
the current exporter are old ones. -/
theorem Placed.mono {b : Store} (h : Placed a)
    (hlen : a.exporters.length ≤ b.exporters.length)
    (hexports : ∀ c ∈ b.exports, c.exporter < b.exporters.length ∨
      ∃ c' ∈ a.exports, c.exporter = c'.exporter)
    (hcurrent : ∀ i ∈ b.current, i ∈ a.current ∨ i < b.exporters.length) : Placed b where
  exports := by
    intro c hc
    rcases hexports c hc with hnew | ⟨c', hc', heq⟩
    · exact hnew
    · rw [heq]
      exact Nat.lt_of_lt_of_le (h.exports c' hc') hlen
  current := by
    intro i hi
    rcases hcurrent i hi with hold | hnew
    · exact Nat.lt_of_lt_of_le (h.current i hold) hlen
    · exact hnew

theorem Placed.goExport (h : Placed a) {k : Nat} {c : ExportCall} (hc : c ∈ a.exports)
    (x : Exporter) (queues : Bool) : Placed (a.goExport k c x queues) := by
  have hput : ∀ {b : Store} (stage : ExportStage), b.exports = a.exports →
      b.exporters = a.exporters → b.current = a.current → Placed (b.put k c stage) := by
    intro b stage hexports hexporters hcurrent
    refine h.mono (by rw [← hexporters]; rfl) (fun c' hc' => ?_) fun i hi => Or.inl ?_
    · rw [Store.put, hexports] at hc'
      rcases List.mem_or_eq_of_mem_set hc' with hold | rfl
      · exact Or.inr ⟨c', hold, rfl⟩
      · exact Or.inr ⟨c, hc, rfl⟩
    · rw [← hcurrent]
      exact hi
  unfold Store.goExport
  split
  · split
    · exact h.mono (Nat.le_refl _)
        (fun c' hc' => Or.inr ⟨c', List.mem_of_mem_eraseIdx hc', rfl⟩) fun i hi => Or.inl hi
    · exact hput .append rfl rfl rfl
  · exact hput .enqueue rfl rfl rfl
  · exact h.mono (by simp [Store.done])
      (fun c' hc' => Or.inr ⟨c', List.mem_of_mem_eraseIdx hc', rfl⟩) fun i hi => Or.inl hi

theorem Placed.step (h : Placed a) (e : Event) : Placed (a.step e) := by
  have hold : ∀ {b : Store}, a.exporters.length ≤ b.exporters.length →
      b.exports = a.exports → (∀ i ∈ b.current, i ∈ a.current) → Placed b :=
    fun hlen hexports hcurrent => h.mono hlen
      (fun c hc => Or.inr ⟨c, hexports ▸ hc, rfl⟩) fun i hi => Or.inl (hcurrent i hi)
  have hretire : Placed a.retire := hold (Nat.le_refl _) rfl fun i hi => by cases hi
  cases e with
  | emit e =>
    simp only [Store.step]
    split
    · next i hi =>
      refine h.mono (Nat.le_refl _) (fun c hc => ?_) fun j hj => Or.inl hj
      rcases List.mem_append.mp hc with hc | hc
      · exact Or.inr ⟨c, hc, rfl⟩
      · obtain rfl := List.mem_singleton.mp hc
        exact Or.inl (h.current i hi)
    · exact h
  | call k queues =>
    simp only [Store.step]
    split
    · next c hc =>
      split
      · exact h.goExport (List.mem_of_getElem? hc) _ queues
      · exact h
    · exact h
  | sent i formats outcomes =>
    simp only [Store.step]
    split
    · exact hold (by simp) rfl fun _ hi => hi
    · exact h
  | setExporter cfg =>
    cases cfg with
    | none => exact hretire
    | some opens =>
      refine h.mono (by simp [Store.step]) (fun c hc => Or.inr ⟨c, hc, rfl⟩) ?_
      rintro i ⟨⟩
      exact Or.inr (by simp [Store.step])
  | shutdown => exact hretire
  | close j timeout =>
    simp only [Store.step]
    split
    · split
      · unfold Store.goClose
        split
        · exact hold (by simp) rfl fun _ hi => hi
        · split
          · exact hold (Nat.le_refl _) rfl fun _ hi => hi
          · exact h
        · exact hold (by simp) rfl fun _ hi => hi
      · exact h
    · exact h
  | crash k => exact ⟨fun c hc => absurd hc List.not_mem_nil, fun i hi => by cases hi⟩
  | _ => exact hold (by simp [Store.step, Store.edit]) rfl fun _ hi => hi

theorem enqueue_log (x : Exporter) (r : Record) (queues : Bool) :
    (x.enqueue r queues).log = x.log := by
  unfold Exporter.enqueue
  split <;> rfl

theorem take_log (x : Exporter) : x.take.log = x.log := by
  unfold Exporter.take
  split
  · split <;> rfl
  · rfl

theorem finish_log (x : Exporter) : x.finish.log = x.log := by
  unfold Exporter.finish
  split <;> rfl

/-- A step that changes one exporter, and delivers entries or none. -/
theorem Kept.modify {b : Store} (h : Kept a) {i : Nat} {f : Exporter → Exporter}
    (hexporters : b.exporters = a.exporters.modify i f)
    (hf : ∀ x, (f x).log ≠ .absent → x.log ≠ .absent)
    (hkeeps : ∀ r, a.keeps r → b.keeps r) (haccepted : b.accepted = a.accepted)
    (hexports : b.exports = a.exports) : Kept b := by
  refine h.mono hkeeps (fun r hr => Or.inl (haccepted ▸ hr)) fun c hc _ hlogs => Or.inl ?_
  rw [Store.logs, hexporters] at hlogs
  exact ⟨hexports ▸ hc, logs_modify _ _ _ f hf hlogs⟩

theorem Kept.goExport (h : Kept a) {k : Nat} {queues : Bool} {c : ExportCall}
    (hc : a.exports[k]? = some c) {x : Exporter} (hx : a.exporters[c.exporter]? = some x)
    (hsound : Sound a (.call k queues)) : Kept (a.goExport k c x queues) := by
  have hlogs : a.logs c.exporter = decide (x.log ≠ .absent) := by
    rw [Store.logs, hx, Option.any_some]
  unfold Store.goExport
  split
  · split
    · exact h.mono (fun _ => id) (fun r hr => Or.inl hr)
        fun c' hc' _ hlogs' => Or.inl ⟨List.mem_of_mem_eraseIdx hc', hlogs'⟩
    · refine h.mono (fun _ => id) (fun r hr => Or.inl hr) fun c' hc' hstage hlogs' => ?_
      rcases List.mem_or_eq_of_mem_set hc' with hold | rfl
      · exact Or.inl ⟨hold, hlogs'⟩
      · cases hstage
  · next hstage =>
    -- the line is read back, as the file is open and no line in it was cut off
    by_cases habsent : x.log = .absent
    · have hfile : (if x.log = .opened then a.file ++ [.line c.record] else a.file) =
          a.file := by rw [habsent]; rfl
      rw [hfile]
      refine h.mono (fun _ => id) (fun r hr => Or.inl hr) fun c' hc' _ hlogs' => ?_
      rcases List.mem_or_eq_of_mem_set hc' with hold | rfl
      · exact Or.inl ⟨hold, hlogs'⟩
      · change a.logs c.exporter = true at hlogs'
        rw [hlogs, habsent] at hlogs'
        cases hlogs'
    · obtain ⟨hopened, hpart⟩ := hsound c hc hstage x hx habsent
      rw [if_pos hopened]
      have hpending : ∀ {r : Record} {b : Store}, b.file = a.file ++ [.line c.record] →
          b.delivered = a.delivered → (a.keeps r ∨ r = c.record) → b.keeps r := by
        intro r b hfile hdelivered hr
        rw [Store.keeps, hfile, hdelivered, pending_append_line hpart, List.mem_append,
          List.mem_singleton, ← or_assoc]
        exact hr
      refine h.mono (fun r hr => hpending rfl rfl (Or.inl hr)) (fun r hr => Or.inl hr)
        fun c' hc' _ hlogs' => ?_
      rcases List.mem_or_eq_of_mem_set hc' with hold | rfl
      · exact Or.inl ⟨hold, hlogs'⟩
      · exact Or.inr (hpending rfl rfl (Or.inr rfl))
  · next hstage =>
    refine h.mono (fun _ => id) (fun r hr => ?_) fun c' hc' _ hlogs' => Or.inl
      ⟨List.mem_of_mem_eraseIdx hc', logs_modify _ _ _ _ (fun x => ?_) hlogs'⟩
    · change r ∈ if x.log = .absent then _ else _ at hr
      split at hr
      · exact Or.inl hr
      · next habsent =>
        rcases List.mem_append.mp hr with hold | hnew
        · exact Or.inl hold
        · obtain rfl := List.mem_singleton.mp hnew
          exact Or.inr (h.written c (List.mem_of_getElem? hc) hstage
            (by rw [hlogs, decide_eq_true_eq]; exact habsent))
    · rw [enqueue_log]
      exact id

theorem Kept.goClose (h : Kept a) {j : Nat} {timeout : Bool} {c : CloseCall}
    (hc : a.closes[j]? = some c) {x : Exporter} (hx : a.exporters[c.exporter]? = some x)
    (hsound : Sound a (.close j timeout)) : Kept (a.goClose j c x timeout) := by
  unfold Store.goClose
  split
  · exact h.modify rfl (fun _ => id) (fun _ => id) rfl rfl
  · next hstage =>
    split
    · next hwait =>
      refine h.mono (fun r hr => ?_) (fun r hr => Or.inl hr)
        fun c' hc' _ hlogs' => Or.inl ⟨hc', hlogs'⟩
      change r ∈ a.delivered ∨ r ∈ pending (if x.log = .opened then [] else a.file)
      split
      · next hopened =>
        rcases hr with hdelivered | hpending
        · exact Or.inl hdelivered
        · exact Or.inl (hsound c hc hstage x hx hopened hwait r hpending)
      · exact hr
    · exact h
  · refine h.modify rfl (fun x hx => ?_) (fun _ => id) rfl rfl
    dsimp only at hx
    split at hx
    · next hopened =>
      rw [hopened]
      decide
    · exact hx

/-- What a crash leaves of the log has every entry that it had. -/
theorem pending_torn (k : Option Nat) : pending (a.torn k) = pending a.file := by
  unfold Store.torn
  split
  · split
    · exact pending_append_part
    · rfl
  · rfl

theorem Kept.step (h : Kept a) (hplaced : Placed a) {e : Event} (hsound : Sound a e) :
    Kept (a.step e) := by
  have hsame : ∀ {b : Store}, b.exporters = a.exporters → b.file = a.file →
      b.delivered = a.delivered → b.accepted = a.accepted → b.exports = a.exports →
      Kept b := by
    intro b hexporters hfile hdelivered haccepted hexports
    refine h.mono (fun r hr => ?_) (fun r hr => Or.inl (haccepted ▸ hr))
      fun c hc _ hlogs => Or.inl ⟨hexports ▸ hc, ?_⟩
    · rw [Store.keeps, hfile, hdelivered]
      exact hr
    · rw [Store.logs, hexporters] at hlogs
      exact hlogs
  cases e with
  | emit e =>
    simp only [Store.step]
    split
    · refine h.mono (fun _ => id) (fun r hr => Or.inl hr) fun c hc hstage hlogs => ?_
      rcases List.mem_append.mp hc with hold | hnew
      · exact Or.inl ⟨hold, hlogs⟩
      · obtain rfl := List.mem_singleton.mp hnew
        cases hstage
    · exact h
  | call k queues =>
    simp only [Store.step]
    split
    · next c hc =>
      split
      · next x hx => exact h.goExport hc hx hsound
      · exact h
    · exact h
  | take i =>
    exact h.modify rfl (fun x hx => by rwa [take_log] at hx) (fun _ => id) rfl rfl
  | sent i formats outcomes =>
    simp only [Store.step]
    split
    · refine h.modify rfl (fun _ => id) (fun r hr => ?_) rfl rfl
      change r ∈ (if _ then _ else _) ∨ r ∈ pending a.file
      split
      · exact hr.imp_left (List.mem_append_left _)
      · exact hr
    · exact h
  | finish i =>
    exact h.modify rfl (fun x hx => by rwa [finish_log] at hx) (fun _ => id) rfl rfl
  | setExporter cfg =>
    cases cfg with
    | none => exact hsame rfl rfl rfl rfl rfl
    | some opens =>
      refine h.mono (fun _ => id) (fun r hr => Or.inl hr) fun c hc _ hlogs =>
        Or.inl ⟨hc, ?_⟩
      -- the new exporter is not the one of an older call
      simp only [Store.step, Store.logs] at hlogs ⊢
      rwa [List.getElem?_append_left (hplaced.exports c hc)] at hlogs
  | shutdown => exact hsame rfl rfl rfl rfl rfl
  | close j timeout =>
    simp only [Store.step]
    split
    · next c hc =>
      split
      · next x hx => exact h.goClose hc hx hsound
      · exact h
    · exact h
  | crash k =>
    refine h.mono (fun r hr => ?_) (fun r hr => Or.inl hr) fun c hc => absurd hc List.not_mem_nil
    change r ∈ a.delivered ∨ r ∈ pending (a.torn k)
    rw [pending_torn]
    exact hr

end

/-! ## Runs -/

/-- In every run in which calls write to a log that is open and has no line
cut off, and a log is truncated only when every entry in it was delivered:
an entry whose `Export` has returned on an exporter with a log was
delivered, or the log holds it. -/
theorem accepted_kept_runs (file : List Piece) (es : List Event)
    (h : Meets Store.step Sound { file := file } es) :
    AcceptedKept (run Store.step { file := file } es) := by
  have hstart : Placed { file := file } ∧ Kept { file := file } :=
    ⟨⟨fun c hc => absurd hc List.not_mem_nil, fun i hi => by cases hi⟩,
      ⟨fun r hr => absurd hr List.not_mem_nil, fun c hc => absurd hc List.not_mem_nil⟩⟩
  exact (h.invariant Store.step (P := fun a => Placed a ∧ Kept a)
    (fun a e hsound ha => ⟨ha.1.step e, ha.2.step ha.1 hsound⟩) hstart).2.accepted

/-! ## Entries that are lost -/

instance (a : Store) : Decidable (AcceptedKept a) := by
  unfold AcceptedKept Store.keeps
  infer_instance

/-- An entry is emitted, written and queued. -/
def exports (action : String) : List Event :=
  [.emit { timestamp := "", action := action }, .call 0 true, .call 0 true, .call 0 true]

/-- The goroutine of exporter `i` takes an entry and posts it. -/
def posts (i : Nat) (outcomes : List Attempt) : List Event :=
  [.take i, .sent i true outcomes]

/-- The exporter at place `i` is closed: its goroutine drains the queue and
the log is truncated. -/
def closes (i : Nat) : List Event :=
  [.close 0 false, .finish i, .close 0 false, .close 0 false]

/-- The first post fails at first. The exporter is closed, and after the next
start an entry is left in the log. -/
theorem accepted_kept_runs_restarted :
    let es := .setExporter (some true) :: exports "a" ++
      posts 0 [.failed, .status 503, .status 200] ++ .shutdown :: closes 0 ++
      .crash none :: .setExporter (some true) :: exports "b" ++ [.crash none]
    AcceptedKept (run Store.step {} es) ∧
      (run Store.step {} es).accepted.map (·.entry.action) = ["a", "b"] ∧
      (run Store.step {} es).delivered.map (·.entry.action) = ["a"] ∧
      (pending (run Store.step {} es).file).map (·.entry.action) = ["b"] :=
  ⟨accepted_kept_runs [] _ (by decide +kernel), by decide +kernel⟩

/-- An entry the external system refuses is gone when the exporter is closed.
So is one that a new exporter has written when the one it replaces is closed,
and one that is written after a line a crash cut off. -/
theorem audit_entries_lost :
    let refused := .setExporter (some true) :: exports "a" ++ posts 0 [.status 403] ++
      .shutdown :: closes 0
    let replaced := .setExporter (some true) :: .setExporter (some true) :: exports "a" ++
      closes 0 ++ [.crash none]
    let cut := [.setExporter (some true), .emit { timestamp := "", action := "a" },
      .call 0 true, .crash (some 0), .setExporter (some true)] ++ exports "b" ++ [.crash none]
    ¬ AcceptedKept (run Store.step {} refused) ∧ ¬ AcceptedKept (run Store.step {} replaced) ∧
      ¬ AcceptedKept (run Store.step {} cut) := by
  decide +kernel

end Rendezvous.Audit

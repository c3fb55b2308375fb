import Rendezvous.Admission.Runs
import Rendezvous.Roster.Replay

/-!
# Names of networks

The handlers refuse a name that another network has. A rename records no
delta, so a log may create a network under a name that the file gives to
another one. In every run in which no start does that, no two networks have
the same name.
-/

namespace Rendezvous.Admission

open Base Registry Rendezvous.Membership Admin Wal Persist Roster
open Identity (freshServer)
open Recovery (baseState boot diskNodes restore)

variable {net net' : NetworkInfo}

/-- No two networks have the same name. -/
def NamesDiffer (s : Server) : Prop :=
  ∀ t t' net net', s.networks.get t = some net → s.networks.get t' = some net' →
    net.name = net'.name → t = t'

/-- The networks a state has are networks of another one, under their names,
but for one, whose name no network of the other has. -/
theorem NamesDiffer.of_one_new {s s' : Server} (h : NamesDiffer s) (new : NetId) (name : String)
    (hnew : ∀ t net, s.networks.get t = some net → t ≠ new → net.name ≠ name)
    (hfrom : ∀ t net', s'.networks.get t = some net' →
      (∃ net, s.networks.get t = some net ∧ net.name = net'.name) ∨ t = new ∧ net'.name = name) :
    NamesDiffer s' := by
  intro t t' net net' hnet hnet' hname
  rcases hfrom t net hnet with ⟨net₀, hnet₀, hname₀⟩ | ⟨rfl, hname₀⟩
  · rcases hfrom t' net' hnet' with ⟨net₁, hnet₁, hname₁⟩ | ⟨rfl, hname₁⟩
    · exact h t t' net₀ net₁ hnet₀ hnet₁ (hname₀.trans (hname.trans hname₁.symm))
    · by_contra hne
      exact hnew t net₀ hnet₀ hne (hname₀.trans (hname.trans hname₁))
  · rcases hfrom t' net' hnet' with ⟨net₁, hnet₁, hname₁⟩ | ⟨rfl, -⟩
    · by_contra hne
      exact hnew t' net₁ hnet₁ (Ne.symm hne) (hname₁.trans (hname.symm.trans hname₀))
    · rfl

/-- Networks that keep their names. -/
theorem NamesDiffer.of_old {s s' : Server} (h : NamesDiffer s)
    (hfrom : ∀ t net', s'.networks.get t = some net' →
      ∃ net, s.networks.get t = some net ∧ net.name = net'.name) : NamesDiffer s' := by
  intro t t' net net' hnet hnet' hname
  obtain ⟨net₀, hnet₀, hname₀⟩ := hfrom t net hnet
  obtain ⟨net₁, hnet₁, hname₁⟩ := hfrom t' net' hnet'
  exact h t t' net₀ net₁ hnet₀ hnet₁ (hname₀.trans (hname.trans hname₁.symm))

theorem nameTaken_eq_false {s : Server} {except : Option NetId} {name : String} :
    nameTaken s except name = false ↔
      ∀ t net, s.networks.get t = some net → some t ≠ except → net.name ≠ name := by
  unfold nameTaken
  rw [← Bool.not_eq_true, GoMap.any_eq_true]
  simp only [Bool.and_eq_true, decide_eq_true_eq, not_exists, not_and]

/-! ## Commands -/

variable {E : AdminEnv} {s : Server} {op : Op}

theorem edit_name {m : Move} {netID : NetId} (h : Edit m netID net net') :
    net.name = net'.name := by
  cases h with
  | arrive id nets =>
    unfold attend
    split <;> rfl
  | _ => rfl

/-- The name of a new network is free. -/
theorem makes_newName (h : Makes E s op net) (hne : step E s op ≠ s) (t : NetId)
    (net' : NetworkInfo) (hnet' : s.networks.get t = some net') :
    net'.name ≠ net.name := by
  cases h with
  | created now msg rules exprPolicy hopen =>
    obtain ⟨o, hcreate, -⟩ := ok_of_answered hne
    simp only [handleCreateNetwork, bind_eq_ok, require_eq_ok] at hcreate
    obtain ⟨_, -, _, -, _, -, _, -, _, -, _, -, _, -, _, hfree, -⟩ := hcreate
    rw [Bool.not_eq_true'] at hfree
    exact nameTaken_eq_false.mp hfree t net' hnet' (by simp)
  | provisioned now order msg bp hbp hnew => exact hnew t net' hnet'

/-- Where a network comes from that is there after a command, and its name. -/
theorem name_step {t : NetId} (h : (step E s op).networks.get t = some net') :
    ∃ net, (s.networks.get t = some net ∨ t = s.nextNet ∧ Makes E s op net) ∧
      net.name = net'.name :=
  edit_step (R := fun _ net net' => net.name = net'.name) (fun _ _ => rfl)
    (fun _ _ _ _ h₁ h₂ => h₁.trans h₂) (fun _ _ _ _ _ _ _ => edit_name) h

theorem namesDiffer_step (h : NamesDiffer s) : NamesDiffer (step E s op) := by
  by_cases hne : step E s op = s
  · rw [hne]
    exact h
  · intro t t' net net' hnet hnet' hname
    obtain ⟨net₀, hfrom₀, hname₀⟩ := name_step hnet
    obtain ⟨net₁, hfrom₁, hname₁⟩ := name_step hnet'
    have hsame : net₀.name = net₁.name := hname₀.trans (hname.trans hname₁.symm)
    rcases hfrom₀ with hold₀ | ⟨rfl, hmakes₀⟩
    · rcases hfrom₁ with hold₁ | ⟨rfl, hmakes₁⟩
      · exact h t t' net₀ net₁ hold₀ hold₁ hsame
      · exact absurd hsame (makes_newName hmakes₁ hne t net₀ hold₀)
    · rcases hfrom₁ with hold₁ | ⟨rfl, -⟩
      · exact absurd hsame.symm (makes_newName hmakes₀ hne t' net₁ hold₁)
      · rfl

theorem namesDiffer_rename {E : Env} {msg : Msg} (h : NamesDiffer s) :
    NamesDiffer (answered s (handleRenameNetwork E s msg)).1 := by
  cases hrename : handleRenameNetwork E s msg with
  | error e => exact h
  | ok o =>
    obtain ⟨net, hnet, hserver⟩ := renameNetwork_ok hrename
    simp only [handleRenameNetwork, commitRename, bind_eq_ok, require_eq_ok] at hrename
    obtain ⟨_, -, _, -, _, -, _, -, _, hfree, -⟩ := hrename
    rw [Bool.not_eq_true'] at hfree
    simp only [answered, hserver]
    refine h.of_one_new (msg.jsonUint16 "network_id") (msg.str "name") ?_ fun t net' hnet' => ?_
    · exact fun t net' hnet' hne =>
        nameTaken_eq_false.mp hfree t net' hnet' fun heq => hne (Option.some.inj heq)
    · rcases GoMap.of_get_set hnet' with ⟨heq, rfl⟩ | hold
      · exact Or.inr ⟨heq, rfl⟩
      · exact Or.inl ⟨net', hold, rfl⟩

/-! ## Restarts -/

/-- A delta that creates a network gives it a name that no network has. -/
def NewName (s : Server) : Delta → Prop
  | .networkCreate x => s.networks.get x.networkID = none →
      ∀ t net, s.networks.get t = some net → net.name ≠ x.name
  | _ => True

instance (s : Server) : (d : Delta) → Decidable (NewName s d)
  | .networkCreate x => inferInstanceAs (Decidable (s.networks.get x.networkID = none →
      ∀ t net, s.networks.get t = some net → net.name ≠ x.name))
  | .register _ | .deregister _ | .networkDelete _ | .networkJoin .. | .networkLeave ..
  | .keyRotation _ => isTrue trivial

theorem deltaEdit_name {d : Delta} {netID : NetId} (h : DeltaEdit d netID net net') :
    net.name = net'.name := by
  cases h with
  | register x =>
    unfold attend
    split <;> rfl
  | deregister id => rfl
  | join id =>
    unfold enroll
    split <;> rfl
  | leave id => rfl

theorem namesDiffer_applyOr {now : Time} {d : Delta} (hd : WellFormed d) (hnew : NewName s d)
    (h : NamesDiffer s) : NamesDiffer (applyOr now s d) := by
  have hfrom := fun t net' (hnet' : (applyOr now s d).networks.get t = some net') =>
    edit_applyOr (R := fun _ net net' => net.name = net'.name) (fun _ _ => rfl)
      (fun _ _ _ _ h₁ h₂ => h₁.trans h₂) (fun _ _ _ => deltaEdit_name) hd hnet'
  by_cases hcreate : ∃ x, d = .networkCreate x ∧ s.networks.get x.networkID = none
  · obtain ⟨x, rfl, hfree⟩ := hcreate
    refine h.of_one_new x.networkID x.name (fun t net hnet _ => hnew hfree t net hnet) ?_
    intro t net' hnet'
    rcases hfrom t net' hnet' with hold | ⟨y, heq, rfl, -, rfl⟩
    · exact Or.inl hold
    · cases heq
      exact Or.inr ⟨rfl, rfl⟩
  · refine h.of_old fun t net' hnet' => ?_
    rcases hfrom t net' hnet' with hold | ⟨x, hx, rfl, hfree, -⟩
    · exact hold
    · exact absurd ⟨x, hx, hfree⟩ hcreate

theorem namesDiffer_load_save (order : List NodeId) (h : NamesDiffer s) :
    NamesDiffer (load order (save s)) := by
  refine h.of_old fun t net' hnet' => ?_
  rw [load_save_networks, GoMap.get_mapVals] at hnet'
  obtain ⟨net, hnet, rfl⟩ := Option.map_eq_some_iff.mp hnet'
  exact ⟨net, hnet, rfl⟩

/-! ## Whole runs -/

/-- What a start has to meet: every network the log creates has a name that
is free when it is created, and without a file no network but the backbone
has the backbone's name. -/
def Distinguishes (d : Disk) : Event → Prop
  | .disk (.start now order) =>
    IsOrder order (diskNodes d.file) →
      Meets (applyOr now) NewName (baseState order d.file) (replayed d.log) ∧
      (d.file = none → ∀ t net, (restore now order none d.log).networks.get t = some net →
        t ≠ 0 → net.name ≠ (backbone now).name)
  | _ => True

theorem namesDiffer_boot {now : Time} {order : List NodeId} {file : Option Snapshot}
    {log : List Delta} (hfile : ∀ snap, file = some snap → ∃ s, NamesDiffer s ∧ snap = save s)
    (hlog : Meets (applyOr now) NewName (baseState order file) (replayed log))
    (hbackbone : file = none → ∀ t net, (restore now order none log).networks.get t = some net →
      t ≠ 0 → net.name ≠ (backbone now).name) : NamesDiffer (boot now order file log) := by
  cases file with
  | none =>
    have hrestored : NamesDiffer (restore now order none log) :=
      replay_keeps (fun _ _ _ => namesDiffer_applyOr) hlog fun t t' net net' hnet => by cases hnet
    refine hrestored.of_one_new 0 (backbone now).name (hbackbone rfl) fun t net' hnet' => ?_
    change ((restore now order none log).networks.set 0 (backbone now)).get t = some net' at hnet'
    rcases GoMap.of_get_set hnet' with ⟨hzero, rfl⟩ | hold
    · exact Or.inr ⟨hzero, rfl⟩
    · exact Or.inl ⟨net', hold, rfl⟩
  | some snap =>
    obtain ⟨s, hs, rfl⟩ := hfile snap rfl
    exact replay_keeps (fun _ _ _ => namesDiffer_applyOr) hlog (namesDiffer_load_save order hs)

theorem namesDiffer_event {d : Disk} {e : Event} (he : Distinguishes d e)
    (h : d.Holds NamesDiffer fun _ => True) :
    (advance E d e).Holds NamesDiffer fun _ => True := by
  cases e with
  | disk e =>
    refine h.step ?_ (fun _ _ _ _ _ => trivial) ?_
    · rintro op logged rfl
      exact namesDiffer_step h.live
    · rintro now order rfl hord
      exact namesDiffer_boot h.file (he hord).1 (he hord).2
  | poll now msg =>
    refine ⟨h.live.of_old ?_, h.copies, h.file, h.log⟩
    intro t net' hnet'
    refine ⟨net', ?_, rfl⟩
    cases hpoll : handlePollInvites E.toEnv now d.live msg with
    | error e =>
      simp only [advance, hpoll, answered] at hnet'
      exact hnet'
    | ok o =>
      simp only [advance, hpoll, answered] at hnet'
      rwa [(pollInvites_ok hpoll).1] at hnet'
  | rename msg => exact ⟨namesDiffer_rename h.live, h.copies, h.file, h.log⟩

theorem namesDiffer_freshServer (now : Time) : NamesDiffer (freshServer now) := by
  have hzero : ∀ t net, (freshServer now).networks.get t = some net → t = 0 := by
    intro t net hnet
    change (GoMap.set ∅ 0 (backbone now)).get t = some net at hnet
    rcases GoMap.of_get_set hnet with ⟨heq, -⟩ | hnone
    · exact heq
    · cases hnone
  exact fun t t' net net' hnet hnet' _ => (hzero t net hnet).trans (hzero t' net' hnet').symm

/-- In every run whose starts meet their condition, from a registry started
for the first time, no two networks have the same name in any state. -/
theorem names_differ_runs (E : AdminEnv) (now : Time) (es : List Event)
    (hmeets : Meets (advance E) Distinguishes (Disk.fresh now) es)
    (before : List Event) (hbefore : before <+: es) :
    NamesDiffer (run (advance E) (Disk.fresh now) before).live := by
  have hholds : (run (advance E) (Disk.fresh now) before).Holds NamesDiffer fun _ => True :=
    (hmeets.initial _ hbefore).invariant _ (fun _ _ => namesDiffer_event)
      (.fresh (namesDiffer_freshServer now))
  exact hholds.live

/-! ## A name that is taken twice -/

/-- The operator creates a network. -/
def creates (name : String) : Event :=
  .disk (.command (.createNetwork 0 (operatorMsg [("node_id", .num 1), ("name", .str name)])) true)

/-- A node registers, and its network is created and gets another name. -/
def renamedRun : List Event :=
  [.disk (.command (.register 0 [0] "" [("public_key", .str "AAAA")]) true), creates "alpha",
    .rename (operatorMsg [("network_id", .num 1), ("name", .str "beta")])]

/-- Another network takes the name. Without a file, the log brings both back
under it. -/
theorem names_collide : ¬ NamesDiffer (run (advance .plain) (Disk.fresh 0)
      (renamedRun ++ [creates "alpha", .disk (.start 1 [])])).live := by
  intro h
  let s := (run (advance .plain) (Disk.fresh 0)
    (renamedRun ++ [creates "alpha", .disk (.start 1 [])])).live
  have hfirst : (s.networks.get 1).map NetworkInfo.name = some "alpha" := by decide
  have hsecond : (s.networks.get 2).map NetworkInfo.name = some "alpha" := by decide
  obtain ⟨net, hnet, hname⟩ := Option.map_eq_some_iff.mp hfirst
  obtain ⟨net', hnet', hname'⟩ := Option.map_eq_some_iff.mp hsecond
  exact absurd (h 1 2 net net' hnet hnet' (hname.trans hname'.symm)) (by decide)

/-- The new name is in the file when the other network takes the old one. -/
def savedRun : List Event :=
  renamedRun ++ [.disk .copy, .disk (.replace 0), creates "alpha", .disk (.start 1 [1])]

theorem names_differ_runs_saved :
    let s := (run (advance .plain) (Disk.fresh 0) savedRun).live
    NamesDiffer s ∧ (s.networks.get 1).map NetworkInfo.name = some "beta" ∧
      (s.networks.get 2).map NetworkInfo.name = some "alpha" := by
  have hmeets : Meets (advance .plain) Distinguishes (Disk.fresh 0) savedRun := by
    refine ⟨trivial, trivial, trivial, trivial, trivial, trivial, fun _ => ⟨?_, nofun⟩, trivial⟩
    decide
  exact ⟨names_differ_runs .plain 0 savedRun hmeets savedRun List.prefix_rfl, by decide, by decide⟩

end Rendezvous.Admission

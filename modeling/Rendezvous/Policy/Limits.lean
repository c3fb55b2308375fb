import Rendezvous.Admission.Newcomers
import Rendezvous.Policy.Provisioning

/-!
# Membership limits

A network's policy may limit the number of its members. Joins and accepted
invites look at the limit in the section that adds the member. The limit
itself is set by `set_network_policy`, which counts the members in one
section and writes the policy in a later one, and by a blueprint, which does
not count them. A registration adds its node to the backbone without a look
at the backbone's limit.

`limits_hold_runs` says that no network has more members than its limit, in
every run in which whatever is written as a limit is not below the number of
members the network has then.
-/

namespace Rendezvous.Policy

open Base Registry Authz Rendezvous.Membership Directory Admin Lifecycle
open Roster (attend unattend roll Move Moved Edit)
open Admission (Enters Entry Makes entry_of_moved edit_step)

variable {net net' : NetworkInfo} {E : NodeEnv} {now : Time} {s : Server} {o : Outcome}
  {op : Roster.Op} {netID : NetId} {msg : Msg} {order : List NetId} {i : Nat} {logged : Bool}

/-! ## Networks within their limits -/

/-- The members fit the limit, if it is one. -/
def Fits (net : NetworkInfo) (limit : Int) : Prop :=
  0 < limit → (net.members.length : Int) ≤ limit

instance (net : NetworkInfo) (limit : Int) : Decidable (Fits net limit) :=
  inferInstanceAs (Decidable (_ → _))

/-- The network has no more members than its policy allows. -/
def Within (net : NetworkInfo) : Prop := Fits net net.policy.maxMembers

instance (net : NetworkInfo) : Decidable (Within net) := inferInstanceAs (Decidable (Fits _ _))

/-- Every network is within its limit. -/
def LimitsHold (o : Office) : Prop := o.live.networks.All Within

/-- A registration that files a record finds room on the backbone, or its
node there already. -/
def FindsRoom (E : NodeEnv) (w : World) (e : World.Event) : Prop :=
  ∀ p ∈ w.files E e, ∀ net ∈ w.live.networks.get 0, belowLimit net = true ∨ p.1 ∈ net.members

instance (E : NodeEnv) (w : World) (e : World.Event) : Decidable (FindsRoom E w e) := by
  unfold FindsRoom
  infer_instance

/-- The policy that the next section of the command writes leaves room for
the members there are. -/
def Request.LeavesRoom (s : Server) (r : Request) : Prop :=
  match r.stage with
  | .last _ (some p) => ∀ net ∈ s.networks.get r.netID, Fits net p.policy.maxMembers
  | _ => True

instance (s : Server) (r : Request) : Decidable (r.LeavesRoom s) := by
  unfold Request.LeavesRoom
  split <;> infer_instance

/-- The same for the next section of a provisioning. -/
def Job.LeavesRoom (s : Server) (j : Job) : Prop :=
  match j.parts with
  | .policy pol :: _ => ∀ net ∈ s.networks.get j.netID, Fits net pol.maxMembers
  | _ => True

instance (s : Server) (j : Job) : Decidable (j.LeavesRoom s) := by
  unfold Job.LeavesRoom
  split <;> infer_instance

/-- A policy that is written leaves room for the members there are then, and
a registration finds room on the backbone. The start of a new process is not
among the events. -/
def KeepsLimits (E : NodeEnv) (o : Office) : Office.Event → Prop
  | .gate (.world e) => ¬ o.gate.world.restarts e ∧ FindsRoom E o.gate.world e
  | .gate (.ask _ _) => True
  | .gate (.go i _) => ∀ r ∈ o.gate.requests[i]?, r.LeavesRoom o.live
  | .provision _ _ => True
  | .part i => ∀ j ∈ o.jobs[i]?, j.LeavesRoom o.live

instance (E : NodeEnv) (o : Office) : (e : Office.Event) → Decidable (KeepsLimits E o e)
  | .gate (.world _) => inferInstanceAs (Decidable (¬ _ ∧ _))
  | .gate (.ask _ _) => isTrue trivial
  | .gate (.go i _) => inferInstanceAs (Decidable (∀ r ∈ o.gate.requests[i]?, r.LeavesRoom o.live))
  | .provision _ _ => isTrue trivial
  | .part i => inferInstanceAs (Decidable (∀ j ∈ o.jobs[i]?, j.LeavesRoom o.live))

/-! ## One record -/

theorem Within.mono (h : Within net) (hpolicy : net'.policy = net.policy)
    (hle : net'.members.length ≤ net.members.length) : Within net' := by
  unfold Within Fits at h ⊢
  rw [hpolicy]
  omega

theorem Within.dropMember (h : Within net) (id : NodeId) : Within (dropMember net id) :=
  h.mono rfl (List.length_erase_le ..)

private theorem within_joined (hroom : belowLimit net = true) (hpolicy : net'.policy = net.policy)
    (hlen : net'.members.length = net.members.length + 1) : Within net' := by
  simp only [belowLimit, Bool.not_eq_true', Bool.and_eq_false_iff, decide_eq_false_iff_not] at hroom
  unfold Within Fits
  rw [hpolicy, hlen]
  omega

private theorem within_attend {id : NodeId} (h : Within net)
    (hroom : belowLimit net = true ∨ id ∈ net.members) : Within (attend id net) := by
  unfold attend
  split
  · exact h
  · next hnot =>
    rcases hroom with hroom | hmember
    · exact within_joined hroom rfl (by simp)
    · exact absurd (List.contains_iff_mem.mpr hmember) hnot

/-! ## The commands of a node -/

theorem commit_within {c : Checked} (h : c.commit E now s = .ok o) (hs : s.networks.All Within) :
    o.server.networks.All Within := by
  have hreseats := commit_reseats h
  generalize o.server.networks = nets at hreseats ⊢
  cases hreseats with
  | none => exact hs
  | joined t token net role hset hnet hroom =>
    exact hs.set t (within_joined hroom rfl (by simp [joinedAs, setRole, addMember]))
  | left t net hset hnet => exact hs.set t ((hs t net hnet).dropMember c.nodeID)

/-! ## The other commands -/

variable {key : Bytes} {g : Gatehouse} {bp : NetworkBlueprint} {req : RegisterReq} {s' : Server}

private theorem equip_of_moved {E : AdminEnv} {ms : List Move} (h : Moved E s op ms)
    (hm : .equip netID bp ∈ ms) : ∃ now order msg, op = .provision now order msg := by
  cases h with
  | provisionedOld now order msg _ _ _ _ _ _ | provisionedNew now order msg _ _ _ =>
    exact ⟨now, order, msg, rfl⟩
  | reaped threshold chunk ids hids =>
    obtain ⟨j, -, heq⟩ := List.mem_map.mp hm
    cases heq
  | synced msg net done hzero hnet hent hdone hall =>
    rcases Roster.syncMoves_syncs (hdone.subset hm) with hs
    cases hs
  | _ => simp at hm

theorem edit_within {m : Move} (h : Edit m netID net net') (henters : ∀ id, ¬ Enters m id netID)
    (hequip : ∀ t bp, m ≠ .equip t bp) (hnet : Within net) : Within net' := by
  cases h with
  | arrive id nets | join id _ role => exact absurd ⟨rfl, rfl⟩ (henters id)
  | vanish id => exact hnet.mono rfl (List.length_erase_le ..)
  | depart id | drop id | expel id => exact hnet.dropMember id
  | equip _ bp => exact absurd rfl (hequip netID bp)
  | _ => exact hnet.mono rfl (Nat.le_refl _)

private theorem makes_within {E : AdminEnv} (h : Makes E s op net) : Within net := by
  cases h with
  | _ => exact fun hlimit => absurd hlimit (Int.lt_irrefl 0)

private theorem respond_within {E : Env} (h : handleRespondInvite E now s msg = .ok o)
    (hs : s.networks.All Within) :
    o.server.networks.All Within := by
  simp only [handleRespondInvite, bind_eq_ok, pure_eq_ok] at h
  obtain ⟨_, -, node, -, _, -, _, -, s', hs', rfl⟩ := h
  split at hs'
  · simp only [acceptInvite, bind_eq_ok, require_eq_ok, pure_eq_ok] at hs'
    obtain ⟨net, -, _, -, _, hroom, _, -, rfl⟩ := hs'
    exact hs.set _ (within_joined hroom rfl (by simp [addMember]))
  · cases hs'
    exact hs

/-- A command that has no sections here and is not a provisioning. -/
theorem command_within {E : AdminEnv} (hop : elsewhere op = true)
    (hprov : ∀ now order msg, op ≠ .provision now order msg) (hs : s.networks.All Within) :
    (Roster.step E s op).networks.All Within := by
  by_cases hrespond : ∃ now msg, op = .respondInvite now msg
  · obtain ⟨now, msg, rfl⟩ := hrespond
    show (Roster.answered s (handleRespondInvite E.toEnv now s msg)).1.networks.All Within
    cases hok : handleRespondInvite E.toEnv now s msg with
    | error e => exact hs
    | ok o => exact respond_within hok hs
  · intro netID net' hnet'
    -- no other command enters anybody
    have hnobody : ∀ id t, ¬ Entry op id t := by
      intro id t hentry
      cases hentry with
      | registered => cases hop
      | joined => cases hop
      | accepted now msg => exact hrespond ⟨now, msg, rfl⟩
    obtain ⟨net, hfrom, hwithin⟩ := edit_step (R := fun _ net net' => Within net → Within net')
      (fun _ _ => id) (fun _ _ _ _ h₁ h₂ hnet => h₂ (h₁ hnet))
      (fun _ hmoved m hm t _ _ hedit => edit_within hedit
        (fun id henters => hnobody id t (entry_of_moved hmoved hm henters))
        (fun t' bp heq => by
          obtain ⟨now, order, msg, hop'⟩ := equip_of_moved hmoved (heq ▸ hm)
          exact hprov now order msg hop')) hnet'
    refine hwithin ?_
    rcases hfrom with hold | ⟨-, hmakes⟩
    · exact hs netID net hold
    · exact makes_within hmakes

/-! ## Registrations, sweeps and deregistrations -/

private theorem slow_within {w : World} {e : World.Event} {ext : String}
    (hf : w.runs e = some (.register req key ext .slow)) (hroom : FindsRoom E w e)
    (hw : w.live.networks.All Within) : (w.step E e).live.networks.All Within := by
  rcases slow_networks hf with hsame | ⟨id, hfiles, hattend⟩
  · rwa [hsame]
  · rw [hattend]
    exact hw.modify_at fun net hnet hwithin => within_attend hwithin (hroom _ hfiles net hnet)

private theorem sweep_within (threshold : Time) (cands : List (NodeId × String))
    (hs : s.networks.All Within) : (cands.foldl (sweepOne threshold) s).networks.All Within := by
  induction cands generalizing s with
  | nil => exact hs
  | cons cand cands ih =>
    rw [List.foldl_cons]
    refine ih ?_
    rcases sweepOne_networks threshold s cand with h | h
    · rwa [h]
    · rw [h]
      exact hs.modify 0 fun net hnet => hnet.mono rfl (List.length_erase_le ..)

private theorem departNode_within (hs : s.networks.All Within) (id : NodeId) (n : NodeInfo) :
    (departNode s id n).networks.All Within := by
  rw [departNode_networks]
  exact hs.foldl_modify _ fun net hnet => hnet.dropMember id

/-- An event of the registry, other than the start of a process and a
provisioning in one piece. -/
theorem world_within {w : World} {e : World.Event} (hprov : Event.provisions (.world e) = false)
    (hrestart : ¬ w.restarts e) (hroom : FindsRoom E w e) (hw : w.live.networks.All Within) :
    (w.step E e).live.networks.All Within := by
  have hacts := step_acts E w e
  generalize hs : (w.step E e).live = s at hacts
  cases hacts with
  | slow req key ext s hf hform hfiles =>
    rw [← hs]
    exact slow_within hf hroom hw
  | set msg c gated o hf ho => exact commit_within ho hw
  | swept threshold cands hf => exact sweep_within threshold _ hw
  | deregistered n msg logged hn => exact departNode_within hw _ n
  | amended op logged hop =>
    rw [← hs]
    simp only [World.step]
    split
    · next helse =>
      refine command_within helse (fun now order msg heq => ?_) hw
      subst heq
      cases hprov
    · exact hw
  | started order horder => exact absurd horder hrestart
  | failedOver s hs => exact absurd (by simp [World.restarts, hs]) hrestart
  | _ => exact hw

/-! ## The role-gated commands -/

private theorem commitDelete_within (h : commitDelete s msg = .ok o) (hs : s.networks.All Within) :
    o.server.networks.All Within := by
  simp only [commitDelete, bind_eq_ok, pure_eq_ok] at h
  obtain ⟨net, -, rfl⟩ := h
  have hforget : (forgetNetwork s net.members (msg.jsonUint16 "network_id")).networks =
      s.networks := congrArg Roster.Roll.networks (Roster.roll_forgetNetwork s net.members _)
  simp only [hforget]
  exact hs.del _

/-- The last section of a command that reads no policy. -/
theorem gated_within {E : Env} {c : Gated} (hread : c.read E s msg = none)
    (h : c.commit E s msg = .ok o) (hs : s.networks.All Within) :
    o.server.networks.All Within := by
  have hrole : ∀ {verb already : String} {role : Role},
      commitRole s msg verb role already = .ok o → o.server.networks.All Within := by
    intro verb already role hok
    simp only [commitRole, bind_eq_ok, getNetwork_eq_ok, pure_eq_ok] at hok
    obtain ⟨net, hnet, _, -, _, -, _, -, rfl⟩ := hok
    exact hs.set _ ((hs _ net hnet).mono rfl (Nat.le_refl _))
  cases c with
  | deleteNetwork => exact commitDelete_within h hs
  | renameNetwork =>
    simp only [Gated.commit, commitRename, bind_eq_ok, getNetwork_eq_ok, pure_eq_ok] at h
    obtain ⟨net, hnet, _, -, rfl⟩ := h
    exact hs.set _ ((hs _ net hnet).mono rfl (Nat.le_refl _))
  | kickMember =>
    simp only [Gated.commit, commitKick, bind_eq_ok, getNetwork_eq_ok, pure_eq_ok] at h
    obtain ⟨net, hnet, _, -, _, -, _, -, rfl⟩ := h
    exact hs.set _ ((hs _ net hnet).dropMember _)
  | promoteMember => exact hrole h
  | demoteMember => exact hrole h
  | transferOwnership order =>
    simp only [Gated.commit, commitTransfer, bind_eq_ok, getNetwork_eq_ok, pure_eq_ok] at h
    obtain ⟨net, hnet, _, -, _, -, _, -, rfl⟩ := h
    exact hs.set _ ((hs _ net hnet).mono rfl (Nat.le_refl _))
  | setMemberTags =>
    simp only [Gated.commit, commitTags, bind_eq_ok, getNetwork_eq_ok, pure_eq_ok] at h
    obtain ⟨net, hnet, _, -, rfl⟩ := h
    exact hs.set _ ((hs _ net hnet).mono rfl (Nat.le_refl _))
  | _ => cases hread

private theorem writePolicy_within {p : PolicyWrite} (h : writePolicy s msg p = .ok o)
    (hs : s.networks.All Within) (hfits : ∀ net ∈ s.networks.get (msg.jsonUint16 "network_id"),
      Fits net p.policy.maxMembers) : o.server.networks.All Within := by
  simp only [writePolicy, bind_eq_ok, getNetwork_eq_ok, pure_eq_ok] at h
  obtain ⟨net, hnet, rfl⟩ := h
  exact hs.set _ (hfits net hnet)

private theorem make_within {x : Except String Outcome} (hg : g.world.live.networks.All Within)
    (hx : ∀ o, x = .ok o → o.server.networks.All Within) :
    (g.make i logged x).world.live.networks.All Within := by
  cases x with
  | error e => exact hg
  | ok o => exact hx o rfl

private theorem go_within {r : Request} (hroom : r.LeavesRoom g.world.live)
    (hg : g.world.live.networks.All Within) :
    (g.go E i logged r).world.live.networks.All Within := by
  have hpass : ∀ byRole, (g.pass i r byRole).world.live.networks.All Within := by
    intro byRole
    unfold Gatehouse.pass
    split <;> exact hg
  unfold Gatehouse.go
  obtain ⟨c, msg, stage⟩ := r
  cases stage with
  | token =>
    simp only
    split
    · exact hpass false
    · split
      · exact hg
      · split
        · exact hpass false
        · split <;> exact hg
  | role ref =>
    simp only
    split
    · exact hpass true
    · exact hg
  | last byRole p =>
    cases p with
    | some p => exact make_within hg fun o ho => writePolicy_within ho hg hroom
    | none =>
      simp only
      split
      · exact hg
      · exact hg
      · next hread => exact make_within hg fun o ho => gated_within hread ho hg
  | _ =>
    simp only
    split <;> exact hg

/-! ## Provisionings -/

theorem begin_within {E : AdminEnv} (h : beginProvision E now order s msg = .ok (s', netID, bp))
    (hs : s.networks.All Within) : s'.networks.All Within := by
  simp only [beginProvision, bind_eq_ok, mapError_eq_ok, pure_eq_ok, Prod.mk.injEq] at h
  obtain ⟨_, -, _, -, _, -, _, -, ⟨s₁, _, _⟩, hfind, rfl, -⟩ := h
  unfold findOrCreateNetwork at hfind
  split at hfind
  · cases hfind
    exact hs
  · simp only [bind_eq_ok, pure_eq_ok, Prod.mk.injEq] at hfind
    obtain ⟨_, -, _, -, rfl, -⟩ := hfind
    exact hs.set _ fun hlimit => absurd hlimit (Int.lt_irrefl 0)

private theorem part_within {part : BlueprintPart} (h : part.set s netID = .ok s')
    (hfits : ∀ pol, part = .policy pol → ∀ net ∈ s.networks.get netID, Fits net pol.maxMembers)
    (hs : s.networks.All Within) : s'.networks.All Within := by
  cases part with
  | enterprise =>
    cases h
    exact hs.modify netID fun net hnet => hnet.mono rfl (Nat.le_refl _)
  | policy pol =>
    simp only [BlueprintPart.set, applyBlueprintPolicy, bind_eq_ok, orFail_eq_ok, pure_eq_ok] at h
    obtain ⟨net, hnet, rfl⟩ := h
    refine hs.set netID ?_
    unfold Within Fits
    simp only
    split
    · exact hfits pol rfl net hnet
    · exact hs netID net hnet
  | expr doc =>
    simp only [BlueprintPart.set, applyBlueprintExprPolicy, bind_eq_ok, orFail_eq_ok,
      pure_eq_ok] at h
    obtain ⟨net, hnet, rfl⟩ := h
    exact hs.set netID ((hs netID net hnet).mono rfl (Nat.le_refl _))
  | roles rs =>
    cases h
    exact hs

/-! ## Every run -/

private theorem limits_step {o : Office} {e : Office.Event} (hkeeps : KeepsLimits E o e)
    (h : LimitsHold o) :
    LimitsHold (o.step E e) := by
  cases e with
  | gate e =>
    simp only [Office.step]
    split
    · exact h
    · next hprov =>
      cases e with
      | world e =>
        exact world_within (Bool.eq_false_iff.mpr hprov) hkeeps.1 hkeeps.2 h
      | ask c msg =>
        show ((o.gate.step E (.ask c msg)).world.live).networks.All Within
        simp only [Gatehouse.step]
        split <;> exact h
      | go i logged =>
        show ((o.gate.step E (.go i logged)).world.live).networks.All Within
        simp only [Gatehouse.step]
        split
        · next r hr => exact go_within (hkeeps r hr) h
        · exact h
  | provision order msg =>
    simp only [Office.step]
    split
    · split
      · next s netID bp hbegin => exact begin_within hbegin h
      · exact h
    · exact h
  | part i =>
    simp only [Office.step]
    split
    · next netID part parts hjob =>
      split
      · next s hs =>
        refine part_within hs (fun pol hpol net hnet => ?_) h
        subst hpol
        exact hkeeps _ hjob net hnet
      · exact h
    · exact h
    · exact h

/-- In every run in which a limit that is written leaves room for the
members the network has then, and registrations find room on the backbone,
no network has more members than its limit. -/
theorem limits_hold_runs (E : NodeEnv) (o : Office) (hstart : LimitsHold o)
    (es : List Office.Event) (hmeets : Meets (Office.step E) (KeepsLimits E) o es) :
    LimitsHold (run (Office.step E) o es) :=
  hmeets.invariant _ (fun _ _ hkeeps h => limits_step hkeeps h) hstart

/-! ## A limit that is exceeded -/

private theorem limitsHold_fresh (now : Time) : LimitsHold (.fresh now) := by
  intro netID net hnet
  change (GoMap.set ∅ 0 (backbone now)).get netID = some net at hnet
  rcases GoMap.of_get_set hnet with ⟨-, rfl⟩ | hnone
  · exact fun hlimit => absurd hlimit (Int.lt_irrefl 0)
  · cases hnone

/-- Node 1 owns an enterprise network, and node 2 is registered. -/
def founds : List World.Event :=
  registers ++ [.command (.createNetwork 0 (operatorMsg [("node_id", .num 1), ("name", .str "net"),
      ("enterprise", .bool true)])) true,
    .register "host" [("public_key", .str "BBBB"), ("listen_addr", .str "host:2")],
    .go 0 [0, 1] true, .go 0 [0, 1] true]

/-- Node 2 joins the network. -/
def joins : List World.Event :=
  [.request .joinNetwork [("node_id", .num 2), ("network_id", .num 1),
    ("signature", .str "BBBB")], .go 0 [] true]

/-- The operator limits the network, up to the write. -/
def counts (limit : Rat) : List Event :=
  [.ask .setNetworkPolicy (operatorMsg [("network_id", .num 1), ("max_members", .num limit)]),
    .go 0 true, .go 0 true, .go 0 true]

/-- Node 2 joins after the members were counted and before the limit is
written. -/
def limitsTo (limit : Rat) : List Office.Event :=
  (founds.map Event.world ++ counts limit ++ joins.map Event.world ++ [Event.go 0 true]).map .gate

/-- The limit leaves room for node 2. -/
theorem limits_hold_runs_two :
    let o := run (Office.step .plain) (.fresh 0) (limitsTo 2)
    LimitsHold o ∧ ((o.live.networks.get 1).map fun net =>
      (net.members, net.policy.maxMembers)) = some ([1, 2], 2) :=
  ⟨limits_hold_runs .plain (.fresh 0) (limitsHold_fresh 0) _ (by decide +kernel), by decide +kernel⟩

/-- A parser whose blueprints all limit their network to one member. -/
def limitingEnv : NodeEnv :=
  { NodeEnv.plain with
    parseBlueprint := fun fields => .ok {
      name := Msg.str fields "name"
      policy := some { maxMembers := 1 } } }

/-- Node 2 joins, and a blueprint limits the network. -/
def limitedByBlueprint : List Office.Event :=
  (founds ++ joins).map (fun e => .gate (.world e)) ++
    [.provision [0, 1] (operatorMsg [("blueprint", .obj [("name", .str "net")])]), .part 0]

/-- The network has two members and a limit of one. -/
theorem limit_exceeded :
    let raced := run (Office.step .plain) (.fresh 0) (limitsTo 1)
    let provisioned := run (Office.step limitingEnv) (.fresh 0) limitedByBlueprint
    ((raced.live.networks.get 1).map fun net => (net.members, net.policy.maxMembers)) =
        some ([1, 2], 1) ∧ ¬ LimitsHold raced ∧
      ((provisioned.live.networks.get 1).map fun net => (net.members, net.policy.maxMembers)) =
        some ([1, 2], 1) ∧ ¬ LimitsHold provisioned := by
  intro raced provisioned
  have hover : ∀ {o : Office}, ((o.live.networks.get 1).map fun net =>
      (net.members, net.policy.maxMembers)) = some ([1, 2], 1) → ¬ LimitsHold o := by
    intro o ho hlimits
    obtain ⟨net, hnet, hpair⟩ := Option.map_eq_some_iff.mp ho
    obtain ⟨hmembers, hmax⟩ := Prod.mk.inj hpair
    have hwithin := hlimits 1 net hnet
    unfold Within Fits at hwithin
    rw [hmembers, hmax] at hwithin
    exact absurd (hwithin (by decide)) (by decide)
  have hraced : ((raced.live.networks.get 1).map fun net =>
      (net.members, net.policy.maxMembers)) = some ([1, 2], 1) := by decide +kernel
  have hprovisioned : ((provisioned.live.networks.get 1).map fun net =>
      (net.members, net.policy.maxMembers)) = some ([1, 2], 1) := by decide +kernel
  exact ⟨hraced, hover hraced, hprovisioned, hover hprovisioned⟩

end Rendezvous.Policy

import Rendezvous.Roster.Edits
import Rendezvous.Roster.Numbers

/-!
# Ids are handed out once, and then no more

What the commands that hand out ids do to the ids in use, and what follows
for whole runs with restarts: an id that is handed out is not zero and not
in use, and once a counter has wrapped nothing is handed out any more.
-/

namespace Rendezvous.Roster

open Base Registry Rendezvous.Membership Directory Identity Admin Wal Persist Recovery

variable {r : Roll} {netID : NetId} {id : NodeId} {ms : List Move} {E : AdminEnv} {s : Server}
  {op : Op} {now : Time} {order : List NetId} {o : Outcome} {msg : Msg}

/-! ## Network ids the moves introduce -/

/-- The network ids a move may bring into use. -/
def Move.introduces : Move → List NetId
  | arrive _ nets => nets
  | found netID _ _ => [netID]
  | place netID _ => [netID]
  | join _ netID _ => [netID]
  | _ => []

/-- A network has the id, or a node lists it. -/
def Roll.Uses (r : Roll) (netID : NetId) : Prop :=
  r.networks.get netID ≠ none ∨ ∃ id nets, r.lists.get id = some nets ∧ netID ∈ nets

theorem usesNet_view (s : Server) (netID : NetId) :
    UsesNet (view s) netID ↔ (roll s).Uses netID := by
  unfold UsesNet Roll.Uses
  rw [view_networks_get, Ne, Option.map_eq_none_iff]
  refine or_congr Iff.rfl ?_
  constructor
  · rintro ⟨id, n, hn, hin⟩
    rw [view_nodes_get] at hn
    obtain ⟨n₀, hn₀, rfl⟩ := Option.map_eq_some_iff.mp hn
    exact ⟨id, n₀.networks, by rw [roll_lists_get, hn₀]; rfl, hin⟩
  · rintro ⟨id, nets, hlist, hin⟩
    rw [roll_lists_get] at hlist
    obtain ⟨n₀, hn₀, rfl⟩ := Option.map_eq_some_iff.mp hlist
    exact ⟨id, nodeView n₀, by rw [view_nodes_get, hn₀]; rfl, hin⟩

theorem Move.uses_apply {m : Move} (h : (m.apply r).Uses netID) :
    r.Uses netID ∨ netID ∈ m.introduces := by
  rcases h with hnet | ⟨j, nets, hlist, hin⟩
  · obtain ⟨net', hnet'⟩ := Option.ne_none_iff_exists'.mp hnet
    have hfrom := edit_apply (R := fun _ _ _ => True) (fun _ _ => trivial)
      (fun _ _ _ _ _ _ => trivial) (fun _ _ _ _ => trivial) hnet'
    rcases hfrom with ⟨net, hold, -⟩ | hplace
    · exact Or.inl (Or.inl (by simp [hold]))
    · right
      cases m with
      | found t _ _ | place t _ => exact List.mem_singleton.mpr hplace.1.symm
      | _ => exact hplace.elim
  -- Removals only take from lists.
  · have hold : ∀ {nets₀}, r.lists.get j = some nets₀ → netID ∈ nets₀ →
        r.Uses netID ∨ netID ∈ m.introduces := fun h₀ hin₀ => Or.inl (Or.inr ⟨j, _, h₀, hin₀⟩)
    have hmodify : ∀ {id : NodeId} {g : List NetId → List NetId},
        (r.lists.modify id g).get j = some nets →
        (∀ nets, netID ∈ g nets → netID ∈ nets ∨ netID ∈ m.introduces) →
        r.Uses netID ∨ netID ∈ m.introduces := by
      intro id g hget hg
      obtain ⟨nets₀, hnets₀, rfl | ⟨-, rfl⟩⟩ := GoMap.of_get_modify hget
      · exact hold hnets₀ hin
      · exact (hg nets₀ hin).elim (hold hnets₀) Or.inr
    cases m with
    | arrive id nets' =>
      rcases GoMap.of_get_set hlist with ⟨-, rfl⟩ | hlist
      · exact Or.inr hin
      · exact hold hlist hin
    | vanish | depart => exact hold (GoMap.of_get_del hlist) hin
    | found | join => exact hmodify hlist fun _ h => List.mem_append.mp h
    | remove t =>
      obtain ⟨nets₀, hnets₀, hsub⟩ := GoMap.of_get_foldl_modify
        (R := fun _ (nets nets' : List NetId) => ∀ x ∈ nets', x ∈ nets)
        (fun _ _ _ hx => hx) (fun _ _ _ _ h₁ h₂ x hx => h₁ x (h₂ x hx))
        (fun _ _ nets _ hx => List.mem_of_mem_erase hx) hlist
      exact hold hnets₀ (hsub netID hin)
    | drop => exact hmodify hlist fun _ h => Or.inl (List.mem_of_mem_erase h)
    | expel => exact hmodify hlist fun _ h => Or.inl (List.mem_of_mem_filter h)
    | _ => exact hold hlist hin

theorem Move.uses_applyAll (h : (Move.applyAll r ms).Uses netID) :
    r.Uses netID ∨ ∃ m ∈ ms, netID ∈ m.introduces := by
  induction ms generalizing r with
  | nil => exact Or.inl h
  | cons m ms ih =>
    rcases ih h with hstep | ⟨m', hm', hin⟩
    · rcases Move.uses_apply hstep with hold | hin
      · exact Or.inl hold
      · exact Or.inr ⟨m, by simp, hin⟩
    · exact Or.inr ⟨m', by simp [hm'], hin⟩

/-- A command that hands out no network id introduces none that is not in
use. -/
theorem introduces_of_moved (h : Moved E s op ms) (hcreate : ∀ now msg, op ≠ .createNetwork now msg)
    (hprovision : ∀ now order msg, op ≠ .provision now order msg) {m : Move} (hm : m ∈ ms)
    (hin : netID ∈ m.introduces) :
    s.networks.get netID ≠ none ∨ netID = 0 := by
  have hnone : ∀ {x : Move}, m ∈ [x] → x.introduces = [] →
      s.networks.get netID ≠ none ∨ netID = 0 := by
    intro x hx hempty
    rw [List.mem_singleton.mp hx, hempty] at hin
    cases hin
  cases h with
  | none => cases hm
  | registered now order remoteAddr msg id nets horder harrives =>
    rw [List.mem_singleton.mp hm] at hin
    cases harrives with
    | byKey _ hidx hgone =>
      rcases List.mem_cons.mp hin with hzero | hscan
      · exact Or.inr hzero
      · left
        exact (horder.2 netID).mp (List.mem_of_mem_filter hscan)
    | _ => exact Or.inr (List.mem_singleton.mp hin)
  | reaped threshold chunk ids hids =>
    obtain ⟨id, -, rfl⟩ := List.mem_map.mp hm
    cases hin
  | created now msg rules exprPolicy n hnode hfree => exact absurd rfl (hcreate now msg)
  | joined msg node net hzero hnode hnet hnew
  | accepted now msg node net haccept hnode hnet hent hnew =>
    rw [List.mem_singleton.mp hm] at hin
    rw [List.mem_singleton.mp hin, hnet]
    exact Or.inl (by simp)
  | transferred order msg net currentOwner role hnet hcurrent hne hrole =>
    rcases List.mem_cons.mp hm with rfl | hm
    · cases hin
    · exact hnone hm rfl
  | synced msg net _ hzero hnet hent hdone hall =>
    cases syncMoves_syncs (hdone.subset hm) with
    | _ => cases hin
  | provisionedOld now order msg bp netID net hbp hnet hname
  | provisionedNew now order msg bp hbp hnew =>
    exact absurd rfl (hprovision now order msg)
  | _ => exact hnone hm rfl

/-! ## Registration -/

theorem setNodeHostname_hostnames {j : NodeId} {hostname t : String}
    (h : (setNodeHostname s id hostname).1.hostnameIdx.get t = some j) :
    s.hostnameIdx.get t = some j ∨ j = id := by
  by_cases htakes : TakesHostname s id hostname
  · rw [setNodeHostname_takes htakes] at h
    rcases owners_of_set (Or.inr rfl) t j h with hold | hnew
    · left
      unfold withoutOldHostname at hold
      simp only at hold
      split at hold
      · exact GoMap.of_get_del hold
      · exact hold
    · exact Or.inr hnew
  · rw [setNodeHostname_skips htakes] at h
    exact Or.inl h

/-- A registration gives a hostname to its own node only, and leaves the
network counter alone. -/
theorem ReRegistered.hostnames {E : Env} {req : RegisterReq} {key : Bytes}
    (h : ReRegistered E now order s req key id o) :
    (∀ t j, o.server.hostnameIdx.get t = some j → s.hostnameIdx.get t = some j ∨ j = id) ∧
      o.server.nextNet = s.nextNet := by
  obtain ⟨hostname, t, hs, ht⟩ := h.frame
  have hidx : t.hostnameIdx = s.hostnameIdx := by rw [ht]
  rw [hs, ← hidx]
  exact ⟨fun name j hj => setNodeHostname_hostnames hj, by rw [setNodeHostname_frame, ht]⟩

/-- What a registration does to the node ids: the id it is about is in use
already, or it is the next one. -/
theorem nodes_register {E : Env} {remoteAddr : String}
    (h : handleRegister E now order remoteAddr s msg = .ok o) :
    Advance UInt32.toNat UInt32.size (Uses (view s)) (Uses (view o.server))
        s.nextNode.toNat o.server.nextNode.toNat ∧
      o.server.nextNet = s.nextNet := by
  obtain ⟨req, key, o', -, -, -, -, hbranch, -, htop⟩ := handleRegister_branch h
  generalize respNode o.resp = id at hbranch
  have hkeys : ∀ j, keyOf o.server j = keyOf o'.server j := fun j =>
    htop.same (keyOf · j) fun s i ext => keyOf_setExternalID s i ext j
  have hpub := htop.same Server.pubKeyIdx fun _ _ _ => rfl
  have howners := htop.same Server.ownerIdx fun _ _ _ => rfl
  have hhost := htop.same Server.hostnameIdx fun _ _ _ => rfl
  have hnode := htop.same Server.nextNode fun _ _ _ => rfl
  have hnet := htop.same Server.nextNet fun _ _ _ => rfl
  have htouches := ReRegistered.touches hbranch
  obtain ⟨hhosts, hnets⟩ := ReRegistered.hostnames hbranch
  have hregistered : ∀ (s : Server) j, (view s).nodes.get j ≠ none ↔ keyOf s j ≠ none := by
    intro s j
    unfold keyOf
    rw [view_nodes_get, Ne, Option.map_eq_none_iff, Ne, Option.map_eq_none_iff]
  have hused : ∀ j, Uses (view o.server) j → Uses (view s) j ∨ j = id := by
    intro j hj
    refine hj.of_old (fun hn => ?_) (fun t ht => ?_) (fun t ht => ?_) fun t ht => ?_
    · rw [hregistered, hkeys] at hn
      rcases htouches.nodes j with heq | hnone | hid
      · left
        rw [hregistered, ← heq]
        exact hn
      · exact absurd hnone hn
      · exact Or.inr hid
    · exact htouches.keys t j ((congrArg (fun m => m.get t) hpub).symm.trans ht)
    · exact htouches.owners t j ((congrArg (fun m => m.get t) howners).symm.trans ht)
    · exact hhosts t j ((congrArg (fun m => m.get t) hhost).symm.trans ht)
  refine ⟨?_, hnet.trans hnets⟩
  have hknown : Uses (view s) id → o'.server.nextNode = s.nextNode →
      Advance UInt32.toNat UInt32.size (Uses (view s)) (Uses (view o.server))
        s.nextNode.toNat o.server.nextNode.toNat := by
    intro hid hnext
    refine .keep (fun j hj => Or.inl ?_) (by rw [hnode, hnext])
    rcases hused j hj with hold | rfl
    · exact hold
    · exact hid
  cases hbranch with
  | known _ n hidx hn =>
    exact hknown (Or.inr (Or.inl ⟨_, hidx⟩)) (refreshKnown_nextNode E now s req id n)
  | byKey _ hidx hgone =>
    exact hknown (Or.inr (Or.inl ⟨_, hidx⟩))
      (reclaimByKey_indices E now order s req id key).2.2
  | byOwner _ hidx hne hown hgone =>
    exact hknown (Or.inr (Or.inr (Or.inl ⟨_, hown⟩)))
      (reclaimByOwner_indices E now s req id key).2.2
  | new _ hidx hown hfree hnew =>
    refine .take s.nextNode (fun j hj => (hused j hj).imp_right Or.inr)
      (toNat_ne_zero_iff.mpr hfree) ?_
    rw [hnode, (registerNew_indices hnew).2.2, ← toNat_moved, if_pos (UInt32.le_refl _)]

/-! ## New networks -/

/-- A step on the roll that introduces the next network id. -/
theorem nets_take {s' : Server} (hroll : roll s' = Move.applyAll (roll s) ms)
    (hms : ∀ m ∈ ms, ∀ t ∈ m.introduces, t = s.nextNet) (hopen : s.nextNet ≠ 0)
    (hnext : s'.nextNet = s.nextNet + 1) :
    Advance UInt16.toNat UInt16.size (UsesNet (view s)) (UsesNet (view s'))
      s.nextNet.toNat s'.nextNet.toNat := by
  refine .take s.nextNet (fun t ht => ?_) (netToNat_ne_zero_iff.mpr hopen) ?_
  · rw [usesNet_view, hroll] at ht
    rw [usesNet_view]
    rcases Move.uses_applyAll ht with hold | ⟨m, hm, hin⟩
    · exact Or.inl hold
    · exact Or.inr (Or.inr (hms m hm t hin))
  · rw [hnext, ← netToNat_moved, if_pos (UInt16.le_refl _)]

/-- Once a network has the next id, the rest of the step is still. -/
theorem advances_new {s' : Server} (ms : List Move)
    (hstill : Still { s with nextNet := s.nextNet + 1 } s')
    (hroll : roll s' = Move.applyAll (roll s) ms)
    (hms : ∀ m ∈ ms, ∀ t ∈ m.introduces, t = s.nextNet) (hopen : s.nextNet ≠ 0) :
    Advances (view s) (view s') where
  nodes := .keep (fun id hid => Or.inl (hstill.uses id hid))
    (congrArg UInt32.toNat hstill.nextNode)
  nets := nets_take hroll hms hopen hstill.nextNet

theorem advances_createNetwork {E : Env} (h : handleCreateNetwork E now s msg = .ok o) :
    Advances (view s) (view o.server) := by
  obtain ⟨rules, expr, n, hnode, hfree, hserver, -⟩ := handleCreateNetwork_ok h
  refine advances_new [.found s.nextNet
    (newNetwork msg (msg.jsonUint32 "node_id") rules expr now)
    (msg.jsonUint32 "node_id")] ?_ ?_ ?_ hfree
  · rw [hserver]
    exact .of_alters (N := fun _ _ => False) (I := False) not_false (.join _ _ _ _)
  · rw [hserver, roll_appendNodeNetwork, roll_putNetwork]
    rfl
  · intro m hm t ht
    rw [List.mem_singleton.mp hm] at ht
    exact List.mem_singleton.mp ht

theorem advances_provision (horder : s.networks.Enumerates order)
    (h : handleProvisionNetwork E now order s msg = .ok o)
    (hopen : ∀ fields bp, msg.obj? "blueprint" = some fields → E.parseBlueprint fields = .ok bp →
        (∃ netID net, s.networks.get netID = some net ∧ net.name = bp.name) ∨
          s.nextNet ≠ 0) : Advances (view s) (view o.server) := by
  obtain ⟨fields, bp, s₁, netID, created, actions, hfields, hbp, ⟨kept, hserver⟩, -,
    hcase⟩ := handleProvisionNetwork_ok horder h
  have hequip : Still s₁ o.server := by
    rw [hserver]
    exact .of_same (fun _ h => h) rfl
  have hroll : roll o.server = (Move.equip netID bp).apply (roll s₁) := by
    rw [hserver]
    rfl
  rcases hcase with ⟨-, rfl, -⟩ | ⟨-, rfl, hnew, rfl⟩
  · refine ⟨.keep (fun id hid => Or.inl (hequip.uses id hid))
      (congrArg UInt32.toNat hequip.nextNode), .keep (fun t ht => Or.inl ?_)
      (congrArg UInt16.toNat hequip.nextNet)⟩
    rw [usesNet_view, hroll] at ht
    rw [usesNet_view]
    rcases Move.uses_apply ht with hold | hin
    · exact hold
    · cases hin
  · have hfree : s.nextNet ≠ 0 := by
      rcases hopen fields bp hfields hbp with ⟨t, net, hnet, hname⟩ | hfree
      · exact absurd hname (hnew t net hnet)
      · exact hfree
    refine advances_new [.place s.nextNet (blueprintNetwork bp now),
      .equip s.nextNet bp] ?_ hroll ?_ hfree
    · have hplace : Still { s with nextNet := s.nextNet + 1 }
          { putNetwork s s.nextNet (blueprintNetwork bp now) with
            nextNet := s.nextNet + 1 } := .of_same (fun _ h => h) rfl
      exact hplace.trans hequip
    · intro m hm t ht
      simp only [List.mem_cons, List.not_mem_nil, or_false] at hm
      rcases hm with rfl | rfl
      · exact List.mem_singleton.mp ht
      · cases ht

/-! ## One command -/

/-- Provisioning under a new name finds the network counter open. -/
def CountsOp (E : AdminEnv) (s : Server) : Op → Prop
  | .provision _ _ msg =>
    ∀ fields bp, msg.obj? "blueprint" = some fields → E.parseBlueprint fields = .ok bp →
        (∃ netID net, s.networks.get netID = some net ∧ net.name = bp.name) ∨ s.nextNet ≠ 0
  | _ => True

/-- The command is refused, or it meets its condition. -/
def Counts (E : AdminEnv) (s : Server) (op : Op) : Prop :=
  step E s op ≠ s → CountsOp E s op

theorem nets_of_moved (hcreate : ∀ now msg, op ≠ .createNetwork now msg)
    (hprovision : ∀ now order msg, op ≠ .provision now order msg)
    (hnext : (step E s op).nextNet = s.nextNet) :
    Advance UInt16.toNat UInt16.size (UsesNet (view s)) (UsesNet (view (step E s op)))
      s.nextNet.toNat (step E s op).nextNet.toNat := by
  obtain ⟨ms, hmoved, hroll⟩ := step_moves E s op
  refine .keep (fun t ht => ?_) (congrArg UInt16.toNat hnext)
  rw [usesNet_view, hroll] at ht
  rw [usesNet_view]
  rcases Move.uses_applyAll ht with hold | ⟨m, hm, hin⟩
  · exact Or.inl hold
  · rcases introduces_of_moved hmoved hcreate hprovision hm hin with hthere | rfl
    · exact Or.inl (Or.inl hthere)
    · exact Or.inr rfl

theorem advances_step (hop : Counts E s op) : Advances (view s) (view (step E s op)) := by
  by_cases hsame : step E s op = s
  · rw [hsame]
    exact .refl _
  have hcond := hop hsame
  by_cases hnumbers : op.numbers = false
  · have hstill : Still s (step E s op) := still_step hnumbers
    refine ⟨.keep (fun id hid => Or.inl (hstill.uses id hid))
      (congrArg UInt32.toNat hstill.nextNode), nets_of_moved ?_ ?_ hstill.nextNet⟩
    · rintro now msg rfl
      cases hnumbers
    · rintro now order msg rfl
      cases hnumbers
  cases op with
  | register now order remoteAddr msg =>
    by_cases horder : s.networks.Enumerates order
    · simp only [step, handle, if_pos horder] at hsame
      obtain ⟨o, hresult, hanswer⟩ := ok_of_answered hsame
      have hserver : step E s (.register now order remoteAddr msg) = o.server := by
        rw [← hanswer, step, handle, if_pos horder]
      obtain ⟨hnodes, hnext⟩ := nodes_register hresult
      exact ⟨hserver ▸ hnodes, nets_of_moved (by simp) (by simp) (by rw [hserver, hnext])⟩
    · exact absurd (by simp [step, handle, horder]) hsame
  | createNetwork now msg =>
    simp only [step, handle] at hsame ⊢
    obtain ⟨o, hresult, hserver⟩ := ok_of_answered hsame
    exact hserver ▸ advances_createNetwork hresult
  | provision now order msg =>
    by_cases horder : s.networks.Enumerates order
    · simp only [step, handle, if_pos horder] at hsame ⊢
      obtain ⟨o, hresult, hserver⟩ := ok_of_answered hsame
      exact hserver ▸ advances_provision horder hresult hcond
    · exact absurd (by simp [step, handle, horder]) hsame
  | _ => exact absurd rfl hnumbers

end Rendezvous.Roster

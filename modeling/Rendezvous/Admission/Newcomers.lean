import Rendezvous.Roster.Edits

/-!
# Who gets on a member list

The moves a command makes on the roll say who gets on the member list of
which network: a registration brings its node to the backbone, a join or an
accepted invite brings one node to one network, a new network has its
creator. Every other move only takes members off. `edit_step` says where a
network comes from that is there after a command.
-/

namespace Rendezvous.Admission

open Base Registry Rendezvous.Membership Admin Roster

variable {net net' : NetworkInfo} {m : Move} {netID : NetId} {ms : List Move} {id : NodeId}

/-! ## Moves -/

/-- The move puts the node on the network's list. -/
def Enters : Move → NodeId → NetId → Prop
  | .arrive j _, id, netID => j = id ∧ netID = 0
  | .join j t _, id, netID => j = id ∧ t = netID
  | _, _, _ => False

/-- A record is gone after moves only if one of them removed it. -/
theorem removed_of_applyAll {r : Roll} (h : (Move.applyAll r ms).networks.get netID = none) :
    r.networks.get netID = none ∨ .remove netID ∈ ms := by
  induction ms generalizing r with
  | nil => exact Or.inl h
  | cons m ms ih =>
    rcases ih h with hgone | hin
    · have hset : ∀ {t : NetId} {net : NetworkInfo},
          (r.networks.set t net).get netID = none → r.networks.get netID = none := by
        intro t net hget
        rw [GoMap.get_set] at hget
        split at hget
        · cases hget
        · exact hget
      cases m with
      | depart id => exact Or.inl ((GoMap.get_foldl_modify_eq_none _ _ _ _).mp hgone)
      | found | place => exact Or.inl (hset hgone)
      | remove t =>
        change (r.networks.del t).get netID = none at hgone
        rw [GoMap.get_del] at hgone
        split at hgone
        · next heq => exact Or.inr (by simp [heq])
        · exact Or.inl hgone
      | _ => exact Or.inl ((GoMap.get_modify_eq_none _ _ _ _).mp hgone)
    · exact Or.inr (List.mem_cons_of_mem _ hin)

/-! ## Commands -/

/-- The command may put the node on the network's list. -/
inductive Entry : Op → NodeId → NetId → Prop where
  | registered (now : Time) (order : List NetId) (remoteAddr : String) (msg : Msg)
      (id : NodeId) : Entry (.register now order remoteAddr msg) id 0
  | joined (msg : Msg) :
      Entry (.joinNetwork msg) (msg.jsonUint32 "node_id") (msg.jsonUint16 "network_id")
  | accepted (now : Time) (msg : Msg) :
      Entry (.respondInvite now msg) (msg.jsonUint32 "node_id") (msg.jsonUint16 "network_id")

/-- The record a command puts under the next network id. -/
inductive Makes (E : AdminEnv) (s : Server) : Op → NetworkInfo → Prop where
  | created (now : Time) (msg : Msg) (rules : Option NetworkRules)
      (exprPolicy : Option String) (hopen : s.nextNet ≠ 0) :
      Makes E s (.createNetwork now msg)
        (newNetwork msg (msg.jsonUint32 "node_id") rules exprPolicy now)
  | provisioned (now : Time) (order : List NetId) (msg : Msg) (bp : NetworkBlueprint)
      (hbp : ∃ fields, msg.obj? "blueprint" = some fields ∧ E.parseBlueprint fields = .ok bp)
      (hnew : ∀ netID net, s.networks.get netID = some net → net.name ≠ bp.name) :
      Makes E s (.provision now order msg) (blueprintNetwork bp now)

variable {E : AdminEnv} {s : Server} {op : Op}

theorem entry_of_moved (h : Moved E s op ms) (hm : m ∈ ms) (henters : Enters m id netID) :
    Entry op id netID := by
  cases h with
  | none => cases hm
  | registered now order remoteAddr msg j nets horder harrives =>
    obtain rfl := List.mem_singleton.mp hm
    obtain ⟨-, rfl⟩ := henters
    exact .registered now order remoteAddr msg id
  | joined msg node net hzero hnode hnet hnew =>
    obtain rfl := List.mem_singleton.mp hm
    obtain ⟨rfl, rfl⟩ := henters
    exact .joined msg
  | accepted now msg node net haccept hnode hnet hent hnew =>
    obtain rfl := List.mem_singleton.mp hm
    obtain ⟨rfl, rfl⟩ := henters
    exact .accepted now msg
  | reaped threshold chunk ids hids =>
    obtain ⟨j, -, rfl⟩ := List.mem_map.mp hm
    exact henters.elim
  | synced msg net done hzero hnet hent hdone hall =>
    rcases syncMoves_syncs (hdone.subset hm) with hs
    cases hs <;> exact henters.elim
  | transferred | provisionedNew =>
    simp only [List.mem_cons, List.not_mem_nil, or_false] at hm
    rcases hm with rfl | rfl <;> exact henters.elim
  | _ =>
    obtain rfl := List.mem_singleton.mp hm
    exact henters.elim

theorem makes_of_moved (h : Moved E s op ms) (hm : m ∈ ms) (hplace : Places m netID net) :
    netID = s.nextNet ∧ Makes E s op net := by
  cases h with
  | none => cases hm
  | created now msg rules exprPolicy n hnode hfree =>
    obtain rfl := List.mem_singleton.mp hm
    obtain ⟨rfl, rfl⟩ := hplace
    exact ⟨rfl, .created now msg rules exprPolicy hfree⟩
  | reaped threshold chunk ids hids =>
    obtain ⟨j, -, rfl⟩ := List.mem_map.mp hm
    exact hplace.elim
  | synced msg net₀ done hzero hnet hent hdone hall =>
    rcases syncMoves_syncs (hdone.subset hm) with hs
    cases hs <;> exact hplace.elim
  | transferred order msg net₀ currentOwner role hnet hcurrent hne hrole =>
    simp only [List.mem_cons, List.not_mem_nil, or_false] at hm
    rcases hm with rfl | rfl <;> exact hplace.elim
  | provisionedNew now order msg bp hbp hnew =>
    simp only [List.mem_cons, List.not_mem_nil, or_false] at hm
    rcases hm with rfl | rfl
    · obtain ⟨rfl, rfl⟩ := hplace
      exact ⟨rfl, .provisioned now order msg bp hbp hnew⟩
    · exact hplace.elim
  | _ =>
    obtain rfl := List.mem_singleton.mp hm
    exact hplace.elim

/-- Where a network comes from that is there after a command, and how it
relates to what it was. -/
theorem edit_step {R : NetId → NetworkInfo → NetworkInfo → Prop} (hrefl : ∀ t net, R t net net)
    (htrans : ∀ t net₁ net₂ net₃, R t net₁ net₂ → R t net₂ net₃ → R t net₁ net₃)
    (hedit : ∀ ms, Moved E s op ms → ∀ m ∈ ms, ∀ t net net', Edit m t net net' → R t net net')
    (h : (step E s op).networks.get netID = some net') :
    ∃ net, (s.networks.get netID = some net ∨ netID = s.nextNet ∧ Makes E s op net) ∧
      R netID net net' := by
  obtain ⟨ms, hmoved, hroll⟩ := step_moves E s op
  have hget : (Move.applyAll (roll s) ms).networks.get netID = some net' := by
    rw [← hroll]
    exact h
  obtain ⟨net, hfrom, hrel⟩ := edit_applyAll hrefl htrans (hedit ms hmoved) hget
  refine ⟨net, ?_, hrel⟩
  rcases hfrom with hold | ⟨m, hm, hplace⟩
  · exact Or.inl hold
  · exact Or.inr (makes_of_moved hmoved hm hplace)

/-- Only `delete_network` takes a network away. -/
theorem network_stays (hold : s.networks.get netID ≠ none)
    (h : (step E s op).networks.get netID = none) :
    ∃ msg, op = .deleteNetwork msg ∧ msg.jsonUint16 "network_id" = netID := by
  obtain ⟨ms, hmoved, hroll⟩ := step_moves E s op
  have hget : (Move.applyAll (roll s) ms).networks.get netID = none := by
    rw [← hroll]
    exact h
  rcases removed_of_applyAll hget with hnone | hin
  · exact absurd hnone hold
  · cases hmoved with
    | deleted msg hzero =>
      have heq := List.mem_singleton.mp hin
      exact ⟨msg, rfl, (Move.remove.inj heq).symm⟩
    | reaped threshold chunk ids hids =>
      obtain ⟨j, -, heq⟩ := List.mem_map.mp hin
      cases heq
    | synced msg net₀ done hzero hnet hent hdone hall =>
      rcases syncMoves_syncs (hdone.subset hin) with hs
      cases hs
    | _ => simp at hin

end Rendezvous.Admission

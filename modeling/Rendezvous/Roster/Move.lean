import Rendezvous.Admin.Handlers
import Rendezvous.Directory.RegisterSpec
import Rendezvous.Membership.Spec

/-!
# Moves of the membership roll

Who is in which network is stored twice: every node lists its networks,
and every network lists its members, with their roles and tags. The roll
is these two sides of the state. A command changes it by moves: a node
arrives or goes, joins or is dropped, a network comes or goes, a role is
assigned. This file says what the state changes the handlers are made of
do to the roll.
-/

namespace Rendezvous.Roster

open Base Registry Rendezvous.Membership Directory Admin

/-! ## The roll -/

/-- The two sides of the membership relation. -/
@[ext] structure Roll where
  /-- The networks each registered node lists. -/
  lists : GoMap NodeId (List NetId)
  networks : GoMap NetId NetworkInfo

/-- The roll of a registry. -/
def roll (s : Server) : Roll where
  lists := s.nodes.mapVals fun _ n => n.networks
  networks := s.networks

/-- The node becomes a member of the network, if it is not one. -/
def attend (id : NodeId) (net : NetworkInfo) : NetworkInfo :=
  if net.members.contains id then net
  else { net with members := net.members ++ [id] }

/-- The node leaves the member list, and nothing else. -/
def unattend (id : NodeId) (net : NetworkInfo) : NetworkInfo :=
  { net with members := net.members.erase id }

/-- One change of the roll. -/
inductive Move where
  /-- A record is filed, and the backbone gets the node. -/
  | arrive (id : NodeId) (nets : List NetId)
  /-- A stale record goes, and the backbone loses the node. -/
  | vanish (id : NodeId)
  /-- A record goes, and every network it lists loses the node. -/
  | depart (id : NodeId)
  | found (netID : NetId) (net : NetworkInfo) (creator : NodeId)
  | place (netID : NetId) (net : NetworkInfo)
  | remove (netID : NetId)
  | join (id : NodeId) (netID : NetId) (role : Role)
  | drop (id : NodeId) (netID : NetId)
  /-- As `drop`, but every mention of the network leaves the list. -/
  | expel (id : NodeId) (netID : NetId)
  | assign (id : NodeId) (netID : NetId) (role : Role)
  | tag (id : NodeId) (netID : NetId) (tags : List String)
  | flag (netID : NetId) (enterprise : Bool)
  | equip (netID : NetId) (bp : NetworkBlueprint)

namespace Move

/-- The roll after a move. -/
def apply (r : Roll) : Move → Roll
  | arrive id nets => {
      lists := r.lists.set id nets
      networks := r.networks.modify 0 (attend id) }
  | vanish id => {
      lists := r.lists.del id
      networks := r.networks.modify 0 (unattend id) }
  | depart id => {
      lists := r.lists.del id
      networks := ((r.lists.get id).getD []).foldl
        (fun m netID => m.modify netID fun net => dropMember net id) r.networks }
  | found netID net creator => {
      lists := r.lists.modify creator fun nets => nets ++ [netID]
      networks := r.networks.set netID net }
  | place netID net => { r with networks := r.networks.set netID net }
  | remove netID => {
      lists := (((r.networks.get netID).map NetworkInfo.members).getD []).foldl
        (fun m id => m.modify id fun nets => nets.erase netID) r.lists
      networks := r.networks.del netID }
  | join id netID role => {
      lists := r.lists.modify id fun nets => nets ++ [netID]
      networks := r.networks.modify netID fun net => joinedAs net id role }
  | drop id netID => {
      lists := r.lists.modify id fun nets => nets.erase netID
      networks := r.networks.modify netID fun net => dropMember net id }
  | expel id netID => {
      lists := r.lists.modify id fun nets => nets.filter fun t => t ≠ netID
      networks := r.networks.modify netID fun net => dropMember net id }
  | assign id netID role => { r with
      networks := r.networks.modify netID fun net => setRole net id role }
  | tag id netID tags => { r with
      networks := r.networks.modify netID fun net => retagged net id tags }
  | flag netID enterprise => { r with
      networks := r.networks.modify netID fun net => flagged net enterprise }
  | equip netID bp => { r with
      networks := r.networks.modify netID (applyToNetwork bp) }

/-- Moves in order. -/
def applyAll (r : Roll) (ms : List Move) : Roll := ms.foldl apply r

@[simp] theorem applyAll_nil (r : Roll) : applyAll r [] = r := rfl

@[simp] theorem applyAll_cons (r : Roll) (m : Move) (ms : List Move) :
    applyAll r (m :: ms) = applyAll (m.apply r) ms := rfl

theorem applyAll_append (r : Roll) (as bs : List Move) :
    applyAll r (as ++ bs) = applyAll (applyAll r as) bs := List.foldl_append

end Move

/-! ## The state changes, on the roll -/

variable (s : Server)

theorem roll_lists_get (id : NodeId) :
    (roll s).lists.get id = (s.nodes.get id).map NodeInfo.networks :=
  GoMap.get_mapVals _ _ _

/-- An update of a record that leaves its list alone is not seen. -/
theorem lists_modify (m : GoMap NodeId NodeInfo) {f : NodeInfo → NodeInfo}
    (hf : ∀ n, (f n).networks = n.networks) (id : NodeId) :
    ((m.modify id f).mapVals fun _ n => n.networks) = m.mapVals fun _ n => n.networks := by
  have hmod := GoMap.mapVals_modify NodeInfo.networks f (fun nets => nets) hf m id
  rw [hmod, GoMap.modify_eq_self _ fun _ _ => rfl]

/-- An update of one record's list. -/
theorem roll_modify_list (g : List NetId → List NetId) (id : NodeId) :
    roll { s with nodes := s.nodes.modify id fun n =>
        { n with networks := g n.networks } } =
      { roll s with lists := (roll s).lists.modify id g } := by
  have hmod := GoMap.mapVals_modify NodeInfo.networks
    (fun n => { n with networks := g n.networks }) g (fun _ => rfl) s.nodes id
  unfold roll
  rw [hmod]

theorem roll_appendNodeNetwork (id : NodeId) (netID : NetId) : roll (appendNodeNetwork s id netID) =
      { roll s with lists := (roll s).lists.modify id fun nets =>
          nets ++ [netID] } :=
  roll_modify_list s (fun nets => nets ++ [netID]) id

theorem roll_removeNodeNetwork (id : NodeId) (netID : NetId) : roll (removeNodeNetwork s id netID) =
      { roll s with lists := (roll s).lists.modify id fun nets =>
          nets.erase netID } :=
  roll_modify_list s (fun nets => nets.erase netID) id

theorem roll_putNetwork (netID : NetId) (net : NetworkInfo) : roll (putNetwork s netID net) =
      { roll s with networks := (roll s).networks.set netID net } := rfl

theorem roll_forgetNetwork (members : List NodeId) (netID : NetId) :
    roll (forgetNetwork s members netID) = { roll s with
        lists := members.foldl
          (fun m id => m.modify id fun nets => nets.erase netID)
          (roll s).lists } := by
  unfold forgetNetwork
  induction members generalizing s with
  | nil => rfl
  | cons m members ih =>
    rw [List.foldl_cons, List.foldl_cons, ih, roll_removeNodeNetwork]

theorem roll_dropNode (id : NodeId) : roll (dropNode s id) =
      { roll s with lists := (roll s).lists.del id } := by
  unfold roll dropNode
  rw [GoMap.mapVals_del]

theorem roll_dropHostname (hostname : String) : roll (dropHostname s hostname) = roll s := by
  unfold dropHostname
  split <;> rfl

theorem roll_indexOwner (owner : String) (id : NodeId) : roll (indexOwner s owner id) = roll s := by
  unfold indexOwner
  split <;> rfl

theorem roll_setNodeHostname (id : NodeId) (hostname : String) :
    roll (setNodeHostname s id hostname).1 = roll s := by
  by_cases h : TakesHostname s id hostname
  · have hlists := lists_modify s.nodes
      (f := fun n => { n with hostname := hostname }) (fun _ => rfl) id
    rw [setNodeHostname_takes h]
    unfold roll
    rw [hlists]
  · rw [setNodeHostname_skips h]

theorem roll_setExternalID (id : NodeId) (ext : String) :
    roll (setExternalID s id ext) = roll s := by
  have hlists := lists_modify s.nodes
    (f := fun n => { n with externalID := ext }) (fun _ => rfl) id
  unfold roll setExternalID
  rw [hlists]

/-- Filing a record is an arrival. -/
theorem roll_fileNode (id : NodeId) (n : NodeInfo) (hostname : String) :
    roll (fileNode s id n hostname).1 = (Move.arrive id n.networks).apply (roll s) := by
  unfold fileNode
  rw [roll_setNodeHostname]
  unfold roll addNodeToBackbone Move.apply
  simp only [GoMap.mapVals_set]
  rfl

/-- What deregistering does to the roll. -/
theorem roll_departNode {id : NodeId} {n : NodeInfo}
    (hnode : s.nodes.get id = some n) :
    roll (departNode s id n) = (Move.depart id).apply (roll s) := by
  have hlist : (roll s).lists.get id = some n.networks := by
    rw [roll_lists_get, hnode]
    rfl
  unfold departNode
  rw [roll_dropNode, roll_dropHostname]
  simp only [Move.apply, hlist, Option.getD_some]
  rfl

end Rendezvous.Roster

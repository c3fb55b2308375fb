import Rendezvous.Base.NameIndex
import Rendezvous.Persist.RoundTrip

/-!
# What the write-ahead log is meant to preserve

`View` is the part of the state the log stands for: who is registered
under which key, owner, networks and hostname, the three indices, the
networks with their members and roles, the invites, and the counters.
`View.apply` says what each delta means for it, and `view_applyOr` that
the appliers compute exactly that: what an applier does to the view
depends on the view alone.
-/

namespace Rendezvous.Recovery

open Base Registry Rendezvous.Membership Directory Identity Wal Persist

/-! ## The view -/

/-- What is kept of a node. -/
structure NodeView where
  owner : String
  publicKey : Bytes
  networks : List NetId
  hostname : String
  deriving DecidableEq

/-- What is kept of a network. -/
structure NetView where
  name : String
  joinRule : String
  token : String
  adminToken : String
  members : List NodeId
  roles : GoMap NodeId Role
  rules : Option NetworkRules
  exprPolicy : Option String
  deriving DecidableEq

/-- What is kept of the state. -/
@[ext] structure View where
  nodes : GoMap NodeId NodeView
  pubKeyIdx : GoMap String NodeId
  ownerIdx : GoMap String NodeId
  hostnameIdx : GoMap String NodeId
  networks : GoMap NetId NetView
  inviteInbox : GoMap NodeId (List NetworkInvite)
  nextNode : NodeId
  nextNet : NetId
  deriving DecidableEq

def nodeView (n : NodeInfo) : NodeView :=
  ⟨n.owner, n.publicKey, n.networks, n.hostname⟩

def netView (net : NetworkInfo) : NetView where
  name := net.name
  joinRule := net.joinRule
  token := net.token
  adminToken := net.adminToken
  members := net.members
  roles := net.memberRoles.getD ∅
  rules := net.rules
  exprPolicy := document net.exprPolicy

def view (s : Server) : View where
  nodes := s.nodes.mapVals fun _ => nodeView
  pubKeyIdx := s.pubKeyIdx
  ownerIdx := s.ownerIdx
  hostnameIdx := s.hostnameIdx
  networks := s.networks.mapVals fun _ => netView
  inviteInbox := s.inviteInbox
  nextNode := s.nextNode
  nextNet := s.nextNet

/-! ## What a delta means -/

namespace NodeView

/-- The node lists the network, if it did not. -/
def list (n : NodeView) (netID : NetId) : NodeView :=
  if n.networks.contains netID then n
  else { n with networks := n.networks ++ [netID] }

/-- The node no longer lists the network. -/
def unlist (n : NodeView) (netID : NetId) : NodeView :=
  { n with networks := n.networks.erase netID }

end NodeView

namespace NetView

/-- A member without a role, if it was none. -/
def attend (net : NetView) (id : NodeId) : NetView :=
  if net.members.contains id then net
  else { net with members := net.members ++ [id] }

/-- A new plain member. -/
def join (net : NetView) (id : NodeId) : NetView :=
  { net with members := net.members ++ [id], roles := net.roles.set id .member }

/-- The member and its role go. -/
def leave (net : NetView) (id : NodeId) : NetView :=
  { net with members := net.members.erase id, roles := net.roles.del id }

end NetView

/-- An index with a text, unless it is empty. -/
def enter (m : GoMap String NodeId) (text : String) (id : NodeId) : GoMap String NodeId :=
  if text = "" then m else m.set text id

/-- An index without a text, unless it is empty. -/
def withdraw (m : GoMap String NodeId) (text : String) : GoMap String NodeId :=
  if text = "" then m else m.del text

namespace View

/-- A node is filed, on the backbone, under the id and key of the delta. -/
def register (v : View) (d : RegisterDelta) (key : Bytes) : View :=
  { v with
    nodes := v.nodes.set d.nodeID ⟨d.owner, key, [0], d.hostname⟩
    pubKeyIdx := v.pubKeyIdx.set d.publicKey d.nodeID
    ownerIdx := enter v.ownerIdx d.owner d.nodeID
    hostnameIdx := enter v.hostnameIdx d.hostname d.nodeID
    networks := v.networks.modify 0 fun net => net.attend d.nodeID
    nextNode := if v.nextNode ≤ d.nodeID then d.nodeID + 1 else v.nextNode }

/-- A node goes, with its entries in the three indices. -/
def deregister (v : View) (id : NodeId) (n : NodeView) : View :=
  { v with
    nodes := v.nodes.del id
    pubKeyIdx := v.pubKeyIdx.del (Base64.encode n.publicKey)
    ownerIdx := withdraw v.ownerIdx n.owner
    hostnameIdx := withdraw v.hostnameIdx n.hostname
    networks := n.networks.foldl
      (fun m netID => m.modify netID fun net => net.leave id) v.networks }

/-- A network comes into being, without rules or policy. -/
def create (v : View) (d : NetworkCreateDelta) : View :=
  { v with
    nodes := if d.creatorNodeID = 0 then v.nodes
      else v.nodes.modify d.creatorNodeID fun n => n.list d.networkID
    networks := v.networks.set d.networkID {
      name := d.name
      joinRule := d.joinRule
      token := d.token
      adminToken := d.adminToken
      members := if d.creatorNodeID = 0 then [] else [d.creatorNodeID]
      roles := if d.creatorNodeID = 0 then ∅
        else (∅ : GoMap NodeId Role).set d.creatorNodeID .owner
      rules := none
      exprPolicy := none }
    nextNet := if v.nextNet ≤ d.networkID then d.networkID + 1 else v.nextNet }

/-- A network goes, and its members no longer list it. -/
def delete (v : View) (netID : NetId) (net : NetView) : View :=
  { v with
    nodes := net.members.foldl
      (fun m id => m.modify id fun n => n.unlist netID) v.nodes
    networks := v.networks.del netID }

/-- A node joins a network. -/
def join (v : View) (id : NodeId) (netID : NetId) (net : NetView) : View :=
  { v with
    nodes := v.nodes.modify id fun n => n.list netID
    networks := if net.members.contains id then v.networks
      else v.networks.set netID (net.join id) }

/-- A node leaves a network. -/
def leave (v : View) (id : NodeId) (netID : NetId) (net : NetView) : View :=
  { v with
    nodes := v.nodes.modify id fun n => n.unlist netID
    networks := v.networks.set netID (net.leave id) }

/-- A node's key is replaced. -/
def rotate (v : View) (d : KeyRotationDelta) (key : Bytes) (n : NodeView) : View :=
  { v with
    nodes := v.nodes.set d.nodeID { n with publicKey := key }
    pubKeyIdx := (v.pubKeyIdx.del (Base64.encode n.publicKey)).set
      d.newPublicKey d.nodeID }

/-- The view after a well-formed delta. What is already there, or no longer
there, is left alone. -/
def apply (v : View) : Delta → View
  | .register d =>
    if v.nodes.has d.nodeID then v
    else v.register d ((Base64.decode d.publicKey).getD [])
  | .deregister id =>
    match v.nodes.get id with
    | none => v
    | some n => v.deregister id n
  | .networkCreate d => if v.networks.has d.networkID then v else v.create d
  | .networkDelete netID =>
    match v.networks.get netID with
    | none => v
    | some net => v.delete netID net
  | .networkJoin id netID =>
    match v.networks.get netID, v.nodes.get id with
    | some net, some _ => v.join id netID net
    | _, _ => v
  | .networkLeave id netID =>
    match v.networks.get netID, v.nodes.get id with
    | some net, some _ => v.leave id netID net
    | _, _ => v
  | .keyRotation d =>
    match v.nodes.get d.nodeID with
    | none => v
    | some n => v.rotate d ((Base64.decode d.newPublicKey).getD []) n

end View

/-! ## The operations, seen through the view

Each operation on the records is the operation of the same purpose on
their views. -/

section

variable (net : NetworkInfo) (now : Time) (s : Server) (d : RegisterDelta) (owner hostname : String)
  (members : List NodeId) (id : NodeId) (netID : NetId)

private theorem netView_dropMember : netView (dropMember net id) = (netView net).leave id := by
  unfold netView dropMember NetView.leave
  cases net.memberRoles with
  | some roles => rfl
  | none =>
    have hdel : (∅ : GoMap NodeId Role).del id = ∅ :=
      GoMap.del_of_get_none _ (GoMap.get_empty id)
    simp only [Option.map_none, Option.getD_none, hdel]

private theorem netView_addMember : netView (addMember net id) = (netView net).join id := rfl

theorem view_nodes_get : (view s).nodes.get id = (s.nodes.get id).map nodeView := by
  simp [view]

theorem view_networks_get : (view s).networks.get netID = (s.networks.get netID).map netView := by
  simp [view]

/-- A loop of updates is seen through `f` as a loop of updates. -/
private theorem mapVals_foldl_modify {K V W : Type} [DecidableEq K]
    (f : V → W) (g : V → V) (g' : W → W) (h : ∀ v, f (g v) = g' (f v))
    (ks : List K) (m : GoMap K V) :
    (ks.foldl (fun m k => m.modify k g) m).mapVals (fun _ => f) =
      ks.foldl (fun m k => m.modify k g') (m.mapVals fun _ => f) := by
  induction ks generalizing m with
  | nil => rfl
  | cons k ks ih =>
    simp only [List.foldl_cons]
    rw [ih, GoMap.mapVals_modify f g g' h]

theorem view_removeFromNetworks (nets : List NetId) :
    view (removeFromNetworks s id nets) = { view s with
        networks := nets.foldl
          (fun m netID => m.modify netID fun net => net.leave id)
          (view s).networks } := by
  have hfold := mapVals_foldl_modify netView (fun net => dropMember net id)
    (fun net => net.leave id) (fun net => netView_dropMember net id) nets
    s.networks
  unfold view removeFromNetworks
  simp only [hfold]

theorem forgetNetwork_nodes :
    forgetNetwork s members netID = { s with
        nodes := members.foldl (fun m id => m.modify id fun n =>
          { n with networks := n.networks.erase netID }) s.nodes } := by
  unfold forgetNetwork
  induction members generalizing s with
  | nil => rfl
  | cons id members ih =>
    simp only [List.foldl_cons]
    rw [ih]
    rfl

private theorem view_forgetNetwork :
    view (forgetNetwork s members netID) = { view s with
        nodes := members.foldl
          (fun m id => m.modify id fun n => n.unlist netID) (view s).nodes } := by
  have hfold := mapVals_foldl_modify nodeView
    (fun n => { n with networks := n.networks.erase netID })
    (fun n => n.unlist netID) (fun _ => rfl) members s.nodes
  rw [forgetNetwork_nodes]
  unfold view
  simp only [hfold]

theorem view_putNetwork (net : NetworkInfo) :
    view (putNetwork s netID net) = { view s with
        networks := (view s).networks.set netID (netView net) } := by
  simp [view, putNetwork]

private theorem view_removeNodeNetwork :
    view (removeNodeNetwork s id netID) = { view s with
        nodes := (view s).nodes.modify id fun n => n.unlist netID } := by
  have hmod := GoMap.mapVals_modify nodeView
    (fun n => { n with networks := n.networks.erase netID })
    (fun n => n.unlist netID) (fun _ => rfl) s.nodes id
  unfold view removeNodeNetwork
  simp only [hmod]

theorem view_listNetwork :
    view (listNetwork s id netID) = { view s with
        nodes := (view s).nodes.modify id fun n => n.list netID } := by
  have hmod := GoMap.mapVals_modify nodeView
    (fun n => if n.networks.contains netID then n
      else { n with networks := n.networks ++ [netID] })
    (fun n => n.list netID) (fun n => apply_ite nodeView _ _ _) s.nodes id
  unfold view listNetwork
  simp only [hmod]

theorem view_addNodeToBackbone : view (addNodeToBackbone s id) =
      { view s with
        networks := (view s).networks.modify 0 fun net => net.attend id } := by
  have hmod := GoMap.mapVals_modify netView
    (fun net => if net.members.contains id then net
      else { net with members := net.members ++ [id] })
    (fun net => net.attend id) (fun net => apply_ite netView _ _ _) s.networks 0
  unfold view addNodeToBackbone
  simp only [hmod]

theorem view_indexOwner : view (indexOwner s owner id) =
      { view s with ownerIdx := enter (view s).ownerIdx owner id } := by
  unfold indexOwner enter
  split <;> rfl

private theorem view_indexHostname :
    view (indexHostname s hostname id) =
      { view s with hostnameIdx := enter (view s).hostnameIdx hostname id } := by
  unfold indexHostname enter
  split <;> rfl

private theorem view_dropOwner : view (dropOwner s owner) =
      { view s with ownerIdx := withdraw (view s).ownerIdx owner } := by
  unfold dropOwner withdraw
  split <;> rfl

theorem view_dropHostname : view (dropHostname s hostname) =
      { view s with hostnameIdx := withdraw (view s).hostnameIdx hostname } := by
  unfold dropHostname withdraw
  split <;> rfl

private theorem view_passNode : view (passNode s id) = { view s with
        nextNode := if (view s).nextNode ≤ id then id + 1
          else (view s).nextNode } := by
  unfold passNode
  by_cases hpast : s.nextNode ≤ id
  · simp only [view, hpast, if_true]
  · simp only [view, hpast, if_false]

private theorem view_passNet : view (passNet s netID) = { view s with
        nextNet := if (view s).nextNet ≤ netID then netID + 1
          else (view s).nextNet } := by
  unfold passNet
  by_cases hpast : s.nextNet ≤ netID
  · simp only [view, hpast, if_true]
  · simp only [view, hpast, if_false]

theorem view_dropNode : view (dropNode s id) = { view s with nodes := (view s).nodes.del id } := by
  simp [view, dropNode]

theorem view_commitKey (n n' : NodeInfo) (newKey : String) :
    view (commitKey s id n n' newKey) = { view s with
        nodes := (view s).nodes.set id (nodeView n')
        pubKeyIdx := ((view s).pubKeyIdx.del (Base64.encode n.publicKey)).set
          newKey id } := by
  simp [view, commitKey, onKeyRotated]

/-! ## The appliers -/

theorem nodeView_deltaNode (key : Bytes) :
    nodeView (deltaNode now d key) = ⟨d.owner, key, [0], d.hostname⟩ := rfl

private theorem nodeView_replayRotation (d : KeyRotationDelta) (key : Bytes)
    (n : NodeInfo) :
    nodeView (replayRotation d key n) = { nodeView n with publicKey := key } := by
  unfold replayRotation
  split <;> rfl

private theorem view_restoreNode (now : Time) (key : Bytes) :
    view (restoreNode s d (deltaNode now d key)) = (view s).register d key := by
  have hfile : view { s with
      nodes := s.nodes.set d.nodeID (deltaNode now d key)
      pubKeyIdx := s.pubKeyIdx.set d.publicKey d.nodeID } =
      { view s with
        nodes := (view s).nodes.set d.nodeID ⟨d.owner, key, [0], d.hostname⟩
        pubKeyIdx := s.pubKeyIdx.set d.publicKey d.nodeID } := by
    simp only [view, GoMap.mapVals_set, nodeView_deltaNode]
  unfold restoreNode
  rw [view_passNode, view_addNodeToBackbone, view_indexHostname, view_indexOwner, hfile]
  rfl

private theorem view_applyDeregisterDelta :
    view (applyDeregisterDelta s id) = (view s).apply (.deregister id) := by
  simp only [applyDeregisterDelta, View.apply, view_nodes_get]
  cases s.nodes.get id with
  | none => rfl
  | some n =>
    simp only [Option.map_some]
    rw [view_removeFromNetworks, view_dropNode, view_dropHostname, view_dropOwner]
    rfl

private theorem view_applyNetworkCreateDelta (d : NetworkCreateDelta) :
    view (applyNetworkCreateDelta now s d) = (view s).apply (.networkCreate d) := by
  have hhas : (view s).networks.has d.networkID =
      s.networks.has d.networkID := GoMap.has_mapVals _ _ _
  simp only [applyNetworkCreateDelta, View.apply, hhas]
  split
  · rfl
  · rw [view_passNet, view_putNetwork]
    by_cases hcreator : d.creatorNodeID = 0
    · simp only [View.create, hcreator, if_true]
      simp only [netView, deltaNetwork, hcreator, if_true, Option.getD_some, document_none]
    · simp only [View.create, hcreator, if_false, view_listNetwork]
      simp only [netView, deltaNetwork, hcreator, if_false, Option.getD_some, document_none]

theorem view_applyNetworkDeleteDelta :
    view (applyNetworkDeleteDelta s netID) = (view s).apply (.networkDelete netID) := by
  simp only [applyNetworkDeleteDelta, View.apply, view_networks_get]
  cases s.networks.get netID with
  | none => rfl
  | some net =>
    have hdel : ∀ s : Server, view { s with networks := s.networks.del netID } =
          { view s with networks := (view s).networks.del netID } := by
      intro s
      simp [view]
    simp only [Option.map_some]
    rw [hdel, view_forgetNetwork]
    rfl

theorem view_applyNetworkJoinDelta :
    view (applyNetworkJoinDelta s id netID) = (view s).apply (.networkJoin id netID) := by
  simp only [applyNetworkJoinDelta, View.apply, view_networks_get, view_nodes_get]
  cases s.networks.get netID with
  | none => rfl
  | some net =>
    cases s.nodes.get id with
    | none => rfl
    | some n =>
      simp only [Option.map_some]
      rw [view_listNetwork]
      unfold View.join
      by_cases hin : net.members.contains id = true
      · have hin' : (netView net).members.contains id = true := hin
        rw [if_pos hin, if_pos hin']
      · have hin' : ¬ (netView net).members.contains id = true := hin
        rw [if_neg hin, if_neg hin', view_putNetwork, netView_addMember]

theorem view_applyNetworkLeaveDelta :
    view (applyNetworkLeaveDelta s id netID) = (view s).apply (.networkLeave id netID) := by
  simp only [applyNetworkLeaveDelta, View.apply, view_networks_get, view_nodes_get]
  cases s.networks.get netID with
  | none => rfl
  | some net =>
    cases s.nodes.get id with
    | none => rfl
    | some n =>
      simp only [Option.map_some]
      rw [view_removeNodeNetwork, view_putNetwork, netView_dropMember]
      rfl

/-- The appliers do to the view what the deltas mean. -/
theorem view_applyOr {d : Delta} (h : WellFormed d) :
    view (applyOr now s d) = (view s).apply d := by
  cases d with
  | register d =>
    obtain ⟨hid, hne, hdec⟩ := h
    obtain ⟨key, hdec⟩ := Option.isSome_iff_exists.mp hdec
    have hhas : (view s).nodes.has d.nodeID = s.nodes.has d.nodeID :=
      GoMap.has_mapVals _ _ _
    rw [applyOr_register hid hne hdec]
    simp only [View.apply, hhas, hdec, Option.getD_some]
    split
    · rfl
    · exact view_restoreNode s d now key
  | deregister id => exact view_applyDeregisterDelta s id
  | networkCreate d => exact view_applyNetworkCreateDelta now s d
  | networkDelete netID => exact view_applyNetworkDeleteDelta s netID
  | networkJoin id netID => exact view_applyNetworkJoinDelta s id netID
  | networkLeave id netID => exact view_applyNetworkLeaveDelta s id netID
  | keyRotation d =>
    obtain ⟨hid, hne, hdec⟩ := h
    obtain ⟨key, hdec⟩ := Option.isSome_iff_exists.mp hdec
    rw [applyOr_keyRotation hid hne hdec]
    simp only [View.apply, view_nodes_get, hdec, Option.getD_some]
    cases s.nodes.get d.nodeID with
    | none => rfl
    | some n =>
      simp only [Option.map_some]
      rw [view_commitKey, nodeView_replayRotation]
      rfl

/-- Replaying a log of well-formed deltas changes the view as the deltas
say, one after the other. -/
theorem view_replay {ds : List Delta} (h : ∀ d ∈ ds, WellFormed d) :
    view (replay now s ds) = ds.foldl View.apply (view s) := by
  rw [replay_wellFormed h]
  induction ds generalizing s with
  | nil => rfl
  | cons d ds ih =>
    rw [List.foldl_cons, List.foldl_cons, ← view_applyOr now s (h d (by simp))]
    exact ih _ fun x hx => h x (by simp [hx])

end

/-! ## The file -/

private theorem netView_loadedNet {netID : NetId} {net : NetworkInfo}
    (h : netID ≠ 0 → net.memberRoles.getD ∅ = ∅ → net.members = []) :
    netView (loadedNet netID (saveNet net)) = netView net := by
  have hroles := (loadedRoles_eq netID net).mpr h
  have hdoc : document (loadedNet netID (saveNet net)).exprPolicy =
      document net.exprPolicy := document_savedDocument net.exprPolicy
  unfold netView
  rw [hdoc]
  simp only [loadedNet, Option.getD_some, hroles]
  rfl

/-- The file of a reloadable state has its view. -/
theorem view_load_save {s : Server} (h : Reloadable s) {order : List NodeId}
    (hord : IsOrder order s.nodes) :
    view (load order (save s)) = view s := by
  have hnodes : (view (load order (save s))).nodes = (view s).nodes := by
    ext1 id
    simp only [view, load_save_nodes order s hord, GoMap.get_mapVals, Option.map_map]
    rfl
  have hnets : (view (load order (save s))).networks = (view s).networks := by
    ext1 netID
    simp only [view, load_save_networks, GoMap.get_mapVals, Option.map_map]
    cases hnet : s.networks.get netID with
    | none => rfl
    | some net =>
      exact congrArg some (netView_loadedNet (h.roles netID net hnet))
  exact View.ext hnodes (h.pubKeyIdx hord) (h.ownerIdx hord)
    (h.hostnameIdx hord) hnets ((withoutZero_eq_iff _).mpr h.inviteInbox)
    (load_save_nextNode order s) (load_save_nextNet order s)

/-! ## The texts that have an index -/

/-- An owner and a hostname have an index each. -/
inductive Text where
  | owner
  | hostname

namespace Text

section

variable (m : GoMap String NodeId) (text : String) (t : Text) (v : View) (n : NodeView)
  (netID : NetId)

def read : Text → NodeView → String
  | .owner => NodeView.owner
  | .hostname => NodeView.hostname

def index : Text → View → GoMap String NodeId
  | .owner => View.ownerIdx
  | .hostname => View.hostnameIdx

/-- The text a registration in the log brings. -/
def brought : Text → RegisterDelta → String
  | .owner => RegisterDelta.owner
  | .hostname => RegisterDelta.hostname

/-- The text of the node under an id, if it has one. -/
def names (t : Text) (v : View) (id : NodeId) : Option String :=
  (v.nodes.get id).bind fun n => nonEmpty (t.read n)

private theorem names_of_modify {v v' : View} {id : NodeId} {f : NodeView → NodeView}
    (hv : v'.nodes = v.nodes.modify id f) (hf : ∀ n, t.read (f n) = t.read n) :
    t.names v' = t.names v := by
  funext j
  rw [names, hv, GoMap.get_modify]
  split
  · next h =>
    subst h
    simp [names, Option.bind_map, hf]
  · rfl

private theorem read_list : t.read (n.list netID) = t.read n := by
  unfold NodeView.list
  split
  · rfl
  · cases t <;> rfl

private theorem read_unlist : t.read (n.unlist netID) = t.read n := by
  cases t <;> rfl

private theorem names_delete (net : NetView) : t.names (v.delete netID net) = t.names v := by
  have hloop : ∀ (members : List NodeId) (v : View), t.names { v with
      nodes := members.foldl (fun m id => m.modify id fun n => n.unlist netID) v.nodes } =
      t.names v := by
    intro members
    induction members with
    | nil => exact fun v => rfl
    | cons m members ih =>
      intro v
      exact (ih { v with nodes := v.nodes.modify m fun n => n.unlist netID }).trans
        (t.names_of_modify rfl fun n => t.read_unlist n netID)
  exact hloop net.members v

/-- What a delta does to the texts and their index: nothing, a node enters
with its text, or one goes with it. -/
inductive Applied (t : Text) (v v' : View) : Delta → Prop where
  | same (d : Delta) (hidx : t.index v' = t.index v) (hnames : t.names v' = t.names v) :
      Applied t v v' d
  | entered (d : RegisterDelta) (hgone : v.nodes.has d.nodeID = false)
      (hidx : t.index v' = assign (t.index v) (nonEmpty (t.brought d)) d.nodeID)
      (hnames : t.names v' = Function.update (t.names v) d.nodeID (nonEmpty (t.brought d))) :
      Applied t v v' (.register d)
  | left (id : NodeId) (hidx : t.index v' = release (t.index v) (t.names v id))
      (hnames : t.names v' = Function.update (t.names v) id none) :
      Applied t v v' (.deregister id)

private theorem enter_eq_assign (id : NodeId) : enter m text id = assign m (nonEmpty text) id := by
  by_cases h : text = "" <;> simp [enter, assign, nonEmpty, h]

private theorem withdraw_eq_release : withdraw m text = release m (nonEmpty text) := by
  by_cases h : text = "" <;> simp [withdraw, release, nonEmpty, h]

theorem register_applied {v : View} {d : RegisterDelta} (hgone : v.nodes.has d.nodeID = false)
    (key : Bytes) : Applied t v (v.register d key) (.register d) := by
  refine .entered d hgone ?_ (funext fun j => ?_)
  · cases t <;> exact enter_eq_assign ..
  · simp only [names, View.register, GoMap.get_set, Function.update_apply]
    split
    · cases t <;> rfl
    · rfl

theorem deregister_applied {v : View} {id : NodeId} {n : NodeView} (hn : v.nodes.get id = some n) :
    Applied t v (v.deregister id n) (.deregister id) := by
  refine .left id ?_ (funext fun j => ?_)
  · have hname : t.names v id = nonEmpty (t.read n) := by simp [names, hn]
    rw [hname]
    cases t <;> exact withdraw_eq_release ..
  · simp only [names, View.deregister, GoMap.get_del, Function.update_apply]
    split <;> rfl

theorem apply_applied (d : Delta) : Applied t v (v.apply d) d := by
  cases d with
  | register d =>
    simp only [View.apply]
    split
    · exact .same _ rfl rfl
    · next hgone => exact t.register_applied (Bool.not_eq_true _ ▸ hgone) _
  | deregister id =>
    simp only [View.apply]
    split
    · next hnone =>
      have hname : t.names v id = none := by simp [names, hnone]
      refine .left id ?_ ?_
      · rw [hname]
        rfl
      · rw [← hname, Function.update_eq_self]
    · next n hn => exact t.deregister_applied hn
  | networkCreate d =>
    simp only [View.apply]
    split
    · exact .same _ rfl rfl
    · refine .same _ (by cases t <;> rfl) ?_
      by_cases hcreator : d.creatorNodeID = 0
      · have hnodes : (v.create d).nodes = v.nodes := by simp [View.create, hcreator]
        funext j
        rw [names, hnodes, names]
      · have hnodes : (v.create d).nodes =
            v.nodes.modify d.creatorNodeID fun n => n.list d.networkID := by
          simp [View.create, hcreator]
        exact t.names_of_modify hnodes fun n => t.read_list n d.networkID
  | networkDelete netID =>
    simp only [View.apply]
    split
    · exact .same _ rfl rfl
    · exact .same _ (by cases t <;> rfl) (t.names_delete ..)
  | networkJoin id netID =>
    simp only [View.apply]
    split
    · exact .same _ (by cases t <;> rfl)
        (t.names_of_modify rfl fun n => t.read_list n netID)
    · exact .same _ rfl rfl
  | networkLeave id netID =>
    simp only [View.apply]
    split
    · exact .same _ (by cases t <;> rfl)
        (t.names_of_modify rfl fun n => t.read_unlist n netID)
    · exact .same _ rfl rfl
  | keyRotation d =>
    simp only [View.apply]
    split
    · exact .same _ rfl rfl
    · next n hn =>
      refine .same _ (by cases t <;> rfl) (funext fun j => ?_)
      simp only [names, View.rotate, GoMap.get_set]
      split
      · next h =>
        subst h
        rw [hn]
        cases t <;> rfl
      · rfl

/-- A replayed delta keeps an index right, if the text it brings back is
free. -/
theorem indexes_applyOr (now : Time) {s : Server} {d : Delta} (hd : WellFormed d)
    (h : Indexes (t.index (view s)) (t.names (view s))) (hfree : ∀ x, d = .register x →
      s.nodes.has x.nodeID = true ∨ (t.index (view s)).get (t.brought x) = none) :
    Indexes (t.index (view (applyOr now s d))) (t.names (view (applyOr now s d))) := by
  rw [view_applyOr now s hd]
  cases t.apply_applied (view s) d with
  | same d hidx hnames =>
    rw [hidx, hnames]
    exact h
  | entered d hgone hidx hnames =>
    have hnone : t.names (view s) d.nodeID = none := by
      simp [names, (GoMap.has_eq_false ..).mp hgone]
    have hold : t.index (view s) = release (t.index (view s)) (t.names (view s) d.nodeID) := by
      rw [hnone]
      rfl
    rw [hidx, hnames, hold]
    refine h.rename fun a ha j hj => ?_
    obtain ⟨-, rfl⟩ := (nonEmpty_eq_some _ _).mp ha
    rcases hfree d rfl with hthere | hfree
    · rw [show (view s).nodes.has d.nodeID = _ from GoMap.has_mapVals _ _ _, hthere] at hgone
      cases hgone
    · cases hfree.symm.trans hj
  | left id hidx hnames =>
    rw [hidx, hnames]
    show Indexes (assign (release (t.index (view s)) _) none id) _
    exact h.rename fun a ha => by cases ha

end

end Text

end Rendezvous.Recovery

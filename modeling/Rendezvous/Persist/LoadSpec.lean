import Rendezvous.Directory.RegisterSpec
import Rendezvous.Persist.Standby

/-!
# What a restart and a failover give back

`load` of a saved state and `applySnapshot` of a pushed one, field by
field. Records come back one by one (`load_save_nodes`); the indices come
back as what a loop over the records builds (`GoMap.indexBy`), and the
file's own key index fills the gaps of the first.
-/

namespace Rendezvous.Persist

open Base Registry Directory Wal

/-! ## What an entry is filed under -/

section

variable (s p : Server) (owner hostname : String) (id : NodeId)

/-- The text the loader files a node's key under. -/
def keyText (n : NodeInfo) : Option String := some (Base64.encode n.publicKey)

/-- A text that is filed unless it is empty. -/
def nonEmpty (text : String) : Option String :=
  if text = "" then none else some text

@[simp] theorem nonEmpty_eq_some (text t : String) :
    nonEmpty text = some t ↔ text ≠ "" ∧ text = t := by
  unfold nonEmpty
  split
  · next h => simp [h]
  · next h => simp [h]

/-- A node's record after a restart. -/
def restored (n : NodeInfo) : NodeInfo := loadedNode (saveNode n) n.publicKey

/-- A node's record on a standby, before its hostname is contested. -/
def replicated (n : NodeInfo) : NodeInfo :=
  replicaNode { saveNode n with lastSeen := rfc3339 n.lastSeen, version := "" }
    n.publicKey

/-! ## One pass of the loops -/

theorem indexOwner_ownerIdx :
    (indexOwner s owner id).ownerIdx =
      s.ownerIdx.setAll ((nonEmpty owner).map fun o => (o, id)).toList := by
  unfold indexOwner nonEmpty
  split <;> rfl

theorem indexHostname_hostnameIdx :
    (indexHostname s hostname id).hostnameIdx =
      s.hostnameIdx.setAll ((nonEmpty hostname).map fun h => (h, id)).toList := by
  unfold indexHostname nonEmpty
  split <;> rfl

@[simp] theorem indexOwner_hostnameIdx : (indexOwner s owner id).hostnameIdx = s.hostnameIdx := by
  unfold indexOwner; split <;> rfl

@[simp] theorem indexHostname_nodes : (indexHostname s hostname id).nodes = s.nodes := by
  unfold indexHostname; split <;> rfl

@[simp] theorem indexHostname_pubKeyIdx :
    (indexHostname s hostname id).pubKeyIdx = s.pubKeyIdx := by
  unfold indexHostname; split <;> rfl

@[simp] theorem indexHostname_ownerIdx : (indexHostname s hostname id).ownerIdx = s.ownerIdx := by
  unfold indexHostname; split <;> rfl

@[simp] theorem indexHostname_nextNode : (indexHostname s hostname id).nextNode = s.nextNode := by
  unfold indexHostname; split <;> rfl

@[simp] theorem indexHostname_nextNet : (indexHostname s hostname id).nextNet = s.nextNet := by
  unfold indexHostname; split <;> rfl

@[simp] theorem indexOwner_nextNet : (indexOwner s owner id).nextNet = s.nextNet := by
  unfold indexOwner; split <;> rfl

theorem loadNode_absent {s : Server} (p : Server) {id : NodeId}
    (h : s.nodes.get id = none) : loadNode (save s) p id = p := by
  simp [loadNode, save, h]

theorem loadNode_present {s : Server} (p : Server) {id : NodeId}
    {n : NodeInfo} (h : s.nodes.get id = some n) :
    loadNode (save s) p id = indexHostname (indexOwner { p with
        nodes := p.nodes.set id (restored n)
        pubKeyIdx := p.pubKeyIdx.set (Base64.encode n.publicKey) id }
        n.owner id) n.hostname id := by
  have hdec : Base64.decode (saveNode n).publicKey = some n.publicKey :=
    Base64.decode_encode n.publicKey
  simp only [loadNode, save, GoMap.get_mapVals, h, Option.map_some, hdec]
  rfl

/-- The records and indices after the loader's loop over `order`. -/
structure Loaded (s p : Server) (order : List NodeId) (r : Server) : Prop where
  nodes : r.nodes = p.nodes.setAll (order.filterMap fun id =>
    (s.nodes.get id).map fun n => (id, restored n))
  pubKeyIdx : r.pubKeyIdx = p.pubKeyIdx.setAll (order.filterMap fun id =>
    (s.nodes.get id).bind fun n => (keyText n).map fun t => (t, id))
  ownerIdx : r.ownerIdx = p.ownerIdx.setAll (order.filterMap fun id =>
    (s.nodes.get id).bind fun n => (nonEmpty n.owner).map fun t => (t, id))
  hostnameIdx : r.hostnameIdx = p.hostnameIdx.setAll (order.filterMap fun id =>
    (s.nodes.get id).bind fun n => (nonEmpty n.hostname).map fun t => (t, id))
  nextNode : r.nextNode = p.nextNode
  nextNet : r.nextNet = p.nextNet

theorem loaded_foldl (order : List NodeId) :
    Loaded s p order (order.foldl (loadNode (save s)) p) := by
  induction order generalizing p with
  | nil => exact ⟨rfl, rfl, rfl, rfl, rfl, rfl⟩
  | cons id order ih =>
    rw [List.foldl_cons]
    cases hget : s.nodes.get id with
    | none =>
      rw [loadNode_absent p hget]
      obtain ⟨h₁, h₂, h₃, h₄, h₅, h₆⟩ := ih p
      refine ⟨?_, ?_, ?_, ?_, h₅, h₆⟩ <;>
        simp only [List.filterMap_cons, hget, Option.map_none, Option.bind_none] <;> assumption
    | some n =>
      rw [loadNode_present p hget]
      obtain ⟨h₁, h₂, h₃, h₄, h₅, h₆⟩ := ih (indexHostname (indexOwner
        { p with
          nodes := p.nodes.set id (restored n)
          pubKeyIdx := p.pubKeyIdx.set (Base64.encode n.publicKey) id }
        n.owner id) n.hostname id)
      refine ⟨?_, ?_, ?_, ?_, ?_, ?_⟩
      · rw [h₁]
        simp [hget]
      · rw [h₂]
        simp [hget, keyText]
      · rw [h₃, indexHostname_ownerIdx, indexOwner_ownerIdx]
        simp only [List.filterMap_cons, hget, Option.bind_some]
        cases nonEmpty n.owner <;> rfl
      · rw [h₄, indexHostname_hostnameIdx, indexOwner_hostnameIdx]
        simp only [List.filterMap_cons, hget, Option.bind_some]
        cases nonEmpty n.hostname <;> rfl
      · rw [h₅]
        simp
      · rw [h₆]
        simp

end

/-! ## A restart -/

section restart

variable (order : List NodeId) (s : Server)

theorem load_save_nodes (hord : IsOrder order s.nodes) :
    (load order (save s)).nodes = s.nodes.mapVals fun _ n => restored n := by
  have hload := (loaded_foldl s { nextNode := s.nextNode, nextNet := s.nextNet }
    order).nodes
  have heq : (load order (save s)).nodes = _ := hload
  rw [heq]
  ext1 id
  rw [GoMap.get_mapVals]
  cases hget : s.nodes.get id with
  | none =>
    rw [GoMap.get_setAll_of_not_mem]
    · rfl
    · intro v hv
      simp only [List.mem_filterMap, Option.map_eq_some_iff, Prod.mk.injEq] at hv
      obtain ⟨id', -, n, hn, rfl, -⟩ := hv
      rw [hget] at hn
      cases hn
  | some n =>
    have hmem : id ∈ order := (hord.2 id).mpr (by simp [hget])
    obtain ⟨v, hv, hset⟩ := GoMap.exists_get_setAll (∅ : GoMap NodeId NodeInfo)
      (l := order.filterMap fun id =>
        (s.nodes.get id).map fun n => (id, restored n)) (k := id)
      ⟨restored n, by
        simp only [List.mem_filterMap, Option.map_eq_some_iff]
        exact ⟨id, hmem, n, hget, rfl⟩⟩
    simp only [List.mem_filterMap, Option.map_eq_some_iff, Prod.mk.injEq] at hv
    obtain ⟨id', -, n', hn', rfl, rfl⟩ := hv
    rw [hget, Option.some.injEq] at hn'
    subst hn'
    exact hset

theorem load_save_pubKeyIdx : (load order (save s)).pubKeyIdx =
      (GoMap.indexBy keyText order s.nodes).union s.pubKeyIdx := by
  have hload := (loaded_foldl s { nextNode := s.nextNode, nextNet := s.nextNet }
    order).pubKeyIdx
  exact congrArg (fun m => m.union s.pubKeyIdx) hload

theorem load_save_ownerIdx : (load order (save s)).ownerIdx =
      GoMap.indexBy (fun n => nonEmpty n.owner) order s.nodes :=
  (loaded_foldl s { nextNode := s.nextNode, nextNet := s.nextNet } order).ownerIdx

theorem load_save_hostnameIdx : (load order (save s)).hostnameIdx =
      GoMap.indexBy (fun n => nonEmpty n.hostname) order s.nodes :=
  (loaded_foldl s { nextNode := s.nextNode, nextNet := s.nextNet }
    order).hostnameIdx

@[simp] theorem load_save_nextNode : (load order (save s)).nextNode = s.nextNode :=
  (loaded_foldl s { nextNode := s.nextNode, nextNet := s.nextNet } order).nextNode

@[simp] theorem load_save_nextNet : (load order (save s)).nextNet = s.nextNet :=
  (loaded_foldl s { nextNode := s.nextNode, nextNet := s.nextNet } order).nextNet

theorem load_save_networks : (load order (save s)).networks =
      s.networks.mapVals fun id net => loadedNet id (saveNet net) := by
  ext1 id
  simp only [load, save, GoMap.get_mapVals]
  cases s.networks.get id <;> rfl

end restart

theorem keyOf_load_save {order : List NodeId} {s : Server}
    (hord : IsOrder order s.nodes) (j : NodeId) :
    keyOf (load order (save s)) j = keyOf s j := by
  unfold keyOf
  rw [load_save_nodes order s hord, GoMap.get_mapVals, Option.map_map]
  rfl

/-! ## A failover -/

@[simp] theorem keyOf_fileReplica (p : Server) (id : NodeId) (n : NodeInfo)
    (j : NodeId) :
    keyOf (fileReplica p id n) j =
      if j = id then some n.publicKey else keyOf p j := by
  unfold fileReplica
  split
  · exact keyOf_set_nodes p id j _
  · have hcongr := keyOf_congr (indexHostname_nodes
      { p with nodes := p.nodes.set id n } n.hostname id) j
    rw [hcongr]
    exact keyOf_set_nodes p id j n

theorem sameBindings_fileReplica (p : Server) (id : NodeId) (n : NodeInfo) :
    SameBindings p (fileReplica p id n) := by
  unfold fileReplica
  split
  · exact ⟨rfl, rfl, rfl⟩
  · exact ⟨by simp, by simp, by simp⟩

theorem replicateNode_absent {s : Server} (p : Server) {id : NodeId}
    (h : s.nodes.get id = none) : replicateNode (snapshotJSON s) p id = p := by
  simp [replicateNode, snapshotJSON, h]

theorem replicateNode_present {s : Server} (p : Server) {id : NodeId}
    {n : NodeInfo} (h : s.nodes.get id = some n) :
    replicateNode (snapshotJSON s) p id = fileReplica (indexOwner { p with
        pubKeyIdx := p.pubKeyIdx.set (Base64.encode n.publicKey) id }
        n.owner id) id (replicated n) := by
  have hdec : Base64.decode (saveNode n).publicKey = some n.publicKey :=
    Base64.decode_encode n.publicKey
  simp only [replicateNode, snapshotJSON, GoMap.get_mapVals, h, Option.map_some, hdec]
  rfl

/-- The keys and indices after the standby's loop over `order`. -/
structure Replicated (s p : Server) (order : List NodeId) (r : Server) : Prop where
  keys : ∀ j, keyOf r j =
    if j ∈ order ∧ s.nodes.get j ≠ none then keyOf s j else keyOf p j
  pubKeyIdx : r.pubKeyIdx = p.pubKeyIdx.setAll (order.filterMap fun id =>
    (s.nodes.get id).bind fun n => (keyText n).map fun t => (t, id))
  ownerIdx : r.ownerIdx = p.ownerIdx.setAll (order.filterMap fun id =>
    (s.nodes.get id).bind fun n => (nonEmpty n.owner).map fun t => (t, id))
  nextNode : r.nextNode = p.nextNode

theorem replicated_foldl (s p : Server) (order : List NodeId) :
    Replicated s p order (order.foldl (replicateNode (snapshotJSON s)) p) := by
  induction order generalizing p with
  | nil => exact ⟨by simp, rfl, rfl, rfl⟩
  | cons id order ih =>
    rw [List.foldl_cons]
    cases hget : s.nodes.get id with
    | none =>
      rw [replicateNode_absent p hget]
      obtain ⟨h₁, h₂, h₃, h₄⟩ := ih p
      refine ⟨fun j => ?_, ?_, ?_, h₄⟩
      · rw [h₁]
        by_cases hj : j = id
        · subst hj
          simp [hget]
        · simp [hj]
      · simpa only [List.filterMap_cons, hget, Option.bind_none] using h₂
      · simpa only [List.filterMap_cons, hget, Option.bind_none] using h₃
    | some n =>
      rw [replicateNode_present p hget]
      let p₁ := indexOwner { p with
        pubKeyIdx := p.pubKeyIdx.set (Base64.encode n.publicKey) id } n.owner id
      obtain ⟨h₁, h₂, h₃, h₄⟩ := ih (fileReplica p₁ id (replicated n))
      have hsame := sameBindings_fileReplica p₁ id (replicated n)
      refine ⟨fun j => ?_, ?_, ?_, ?_⟩
      · rw [h₁, keyOf_fileReplica]
        by_cases hj : j = id
        · subst hj
          have hkey : keyOf s j = some n.publicKey := by simp [keyOf, hget]
          simp only [List.mem_cons, true_or, hget, hkey]
          split <;> rfl
        · have hp : keyOf p₁ j = keyOf p j :=
            keyOf_congr (indexOwner_nodes _ n.owner id) j
          simp [hj, hp]
      · rw [h₂, hsame.pubKeyIdx, indexOwner_pubKeyIdx]
        simp [hget, keyText]
      · rw [h₃, hsame.ownerIdx, indexOwner_ownerIdx]
        simp only [List.filterMap_cons, hget, Option.bind_some]
        cases nonEmpty n.owner <;> rfl
      · rw [h₄, hsame.nextNode, indexOwner_nextNode]

section failover

variable (order : List NodeId) (standby s : Server)

theorem replica_pubKeyIdx : (applySnapshot order standby (snapshotJSON s)).pubKeyIdx =
      GoMap.indexBy keyText order s.nodes :=
  (replicated_foldl s { nextNode := s.nextNode, nextNet := s.nextNet }
    order).pubKeyIdx

theorem replica_ownerIdx : (applySnapshot order standby (snapshotJSON s)).ownerIdx =
      GoMap.indexBy (fun n => nonEmpty n.owner) order s.nodes :=
  (replicated_foldl s { nextNode := s.nextNode, nextNet := s.nextNet }
    order).ownerIdx

theorem replica_nextNode : (applySnapshot order standby (snapshotJSON s)).nextNode = s.nextNode :=
  (replicated_foldl s { nextNode := s.nextNode, nextNet := s.nextNet }
    order).nextNode

theorem keyOf_replica (hord : IsOrder order s.nodes) (j : NodeId) :
    keyOf (applySnapshot order standby (snapshotJSON s)) j = keyOf s j := by
  have hkeys := (replicated_foldl s
    { nextNode := s.nextNode, nextNet := s.nextNet } order).keys j
  have hcongr : keyOf (applySnapshot order standby (snapshotJSON s)) j = _ := hkeys
  rw [hcongr]
  by_cases hget : s.nodes.get j = none
  · simp [hget, keyOf]
  · rw [if_pos ⟨(hord.2 j).mpr hget, hget⟩]

end failover

end Rendezvous.Persist

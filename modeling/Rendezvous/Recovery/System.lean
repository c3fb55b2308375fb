import Rendezvous.Identity.Allocation
import Rendezvous.Persist.LoadSpec

/-!
# The registry with its disk and its standby

The state that outlives the process: the snapshot file, the write-ahead
log, and a standby's copy. A step is a request of the directory or
identity package, a sweep of the reaper, a save, a push to the standby, or
the end of the process and the start of the next: after a crash from the
file and the log, after a clean stop from a file just written, and after a
failover on the standby.
-/

namespace Rendezvous.Recovery

open Base Registry Directory Identity Wal Persist

/-- A registry, its disk, and the copy a standby has, if it applied one. -/
structure System where
  live : Server
  disk : Option Snapshot := none
  wal : List Delta := []
  standby : Option Server := none

/-- What happens to the system. An event that ranges over node records
carries the order it met them in. -/
inductive Event where
  | register (now : Time) (order : List NetId) (remoteAddr : String) (msg : Msg)
  | reap (threshold : Time) (chunk : List NodeId)
  | deregister (msg : Msg)
  | rotateKey (now : Time) (msg : Msg)
  | recoverIdentity (now : Time) (msg : Msg)
  | save
  | push (order : List NodeId)
  | crash (now : Time) (order : List NodeId)
  | restart (now : Time) (order : List NodeId)
  | failover

instance {V : Type} (order : List NodeId) (m : GoMap NodeId V) : Decidable (IsOrder order m) :=
  decidable_of_iff (order.Nodup ∧ order.toFinset = m.keys) (by
    refine and_congr_right fun _ => ?_
    rw [Finset.ext_iff]
    refine forall_congr' fun id => ?_
    rw [List.mem_toFinset, GoMap.mem_keys, ← Option.isSome_iff_exists, Option.isSome_iff_ne_none])

/-- The node records of the file. -/
def diskNodes : Option Snapshot → GoMap NodeId SnapshotNode
  | none => ∅
  | some snap => snap.nodes

/-- The state read from the file, or the empty one without a file. -/
def baseState (order : List NodeId) : Option Snapshot → Server
  | none => {}
  | some snap => load order snap

/-- The state read from the disk: the file, and the log on top of it. -/
def restore (now : Time) (order : List NodeId) (disk : Option Snapshot)
    (wal : List Delta) : Server :=
  replay now (baseState order disk) wal

/-- The state `NewWithStore` starts from. Without a file the backbone is
created after the log was replayed. -/
def boot (now : Time) (order : List NodeId) (disk : Option Snapshot)
    (wal : List Delta) : Server :=
  let s := restore now order disk wal
  match disk with
  | some _ => s
  | none => { s with networks := s.networks.set 0 (backbone now) }

/-- A handler's change of memory and its deltas; a refused request leaves
everything as it is. -/
def System.commit (sys : System) : Except String Outcome → System
  | .ok o => { sys with live := o.server, wal := sys.wal ++ o.wal }
  | .error _ => sys

/-- `flushSave`: the file is replaced, the log is emptied. -/
def System.flush (sys : System) : System :=
  { sys with disk := some (save sys.live), wal := [] }

/-- One event. An order that is not one of the records' makes no event. -/
def step (E : Env) (sys : System) : Event → System
  | .register now order remoteAddr msg =>
    sys.commit (handleRegister E now order remoteAddr sys.live msg)
  | .reap threshold chunk =>
    { sys with live := reapStaleNodes threshold chunk sys.live }
  | .deregister msg => sys.commit (handleDeregister E sys.live msg)
  | .rotateKey now msg => sys.commit (handleRotateKey E now sys.live msg)
  | .recoverIdentity now msg =>
    let (server, answer) := handleRecoverIdentity E now sys.live msg
    match answer with
    | .ok (_, deltas) => { sys with live := server, wal := sys.wal ++ deltas }
    | .error _ => { sys with live := server }
  | .save => sys.flush
  | .push order =>
    if IsOrder order sys.live.nodes then
      { sys with standby := some (applySnapshot order
          (sys.standby.getD (freshServer 0)) (snapshotJSON sys.live)) }
    else sys
  | .crash now order =>
    if IsOrder order (diskNodes sys.disk) then
      { sys with live := boot now order sys.disk sys.wal }
    else sys
  | .restart now order =>
    let saved := sys.flush
    if IsOrder order (diskNodes saved.disk) then
      { saved with live := boot now order saved.disk saved.wal }
    else sys
  | .failover =>
    match sys.standby with
    | some s => { live := s, disk := some (save s) }
    | none => sys

/-- A registry started for the first time. -/
def freshSystem (now : Time) : System := { live := freshServer now }

/-- The id a registration is answered with, if it succeeds. -/
def answer : Except String Outcome → Option NodeId
  | .ok o => some (respNode o.resp)
  | .error _ => none

/-- The event is a registration of the key `key`, and it is answered with
`id`. -/
def Answered (E : Env) (sys : System) (key : String) (id : NodeId) : Event → Prop
  | .register now order remoteAddr msg =>
    msg.str "public_key" = key ∧
      answer (handleRegister E now order remoteAddr sys.live msg) = some id
  | _ => False

instance (E : Env) (sys : System) (key : String) (id : NodeId) (e : Event) :
    Decidable (Answered E sys key id e) := by
  cases e <;> unfold Answered <;> infer_instance

end Rendezvous.Recovery

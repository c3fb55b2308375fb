import Rendezvous.Base.Run
import Rendezvous.Registry.State

/-!
# The audit exporter

Audit entries are written to a log on disk and queued for a goroutine that
posts them to an external system. A start reads the log and queues what it
holds; `Close` stops the goroutine and truncates the log.

The machine has the exporters a process has made, the one that is current,
and the calls of `Export` and `Close` between two of their sections. All
exporters of a registry have the same log file. What a call does between two
accesses to the file, the queue or the exporter is one section.
-/

namespace Rendezvous.Audit

open Base Registry

/-! ## Entries and the log file -/

/-- `Entry`. -/
structure Entry where
  timestamp : String
  action : String
  networkID : NetId := 0
  nodeID : NodeId := 0
  details : String := ""
  prevHash : String := ""
  hash : String := ""
  deriving DecidableEq

/-- An entry, with the number of the call of `Export` it came with. The
number tells equal entries apart; it is not written. -/
structure Record where
  call : Nat
  entry : Entry
  deriving DecidableEq

/-- A piece of the log file: a line, or what a crash left of one. A line that
lacks only its newline decodes, and is a `line`. -/
inductive Piece where
  | line (r : Record)
  | part
  deriving DecidableEq

/-- `Pending`. The decoder stops at a line that was cut off: what follows on
the same line is no JSON. -/
def pending : List Piece → List Record
  | .line r :: rest => r :: pending rest
  | _ => []

/-! ## Exporters -/

/-- The log of an exporter: it has none, it is open, or it was closed. -/
inductive Log where
  | absent
  | opened
  | closed
  deriving DecidableEq

/-- `AuditExporter`. `sending` is the entry its goroutine holds, and
`finished` tells that the goroutine has returned. -/
structure Exporter where
  log : Log
  queue : List Record := []
  sending : Option Record := none
  closed : Bool := false
  finished : Bool := false
  deriving DecidableEq

/-- The capacity of the queue. -/
def queueSize : Nat := 1024

/-- `newAuditExporter`. `opens` tells that the log could be opened. What it
holds is queued, as far as there is room. -/
def newAuditExporter (opens : Bool) (file : List Piece) : Exporter :=
  if opens then { log := .opened, queue := (pending file).take queueSize }
  else { log := .absent }

/-- The outcome of one attempt to post an entry. -/
inductive Attempt where
  | failed
  | status (code : Nat)
  deriving DecidableEq

/-- The attempts of `send`: an entry is delivered by a success, and given up
after a client error. -/
def attempts : List Attempt → Bool
  | .status code :: rest =>
    if code < 400 then true else if code < 500 then false else attempts rest
  | .failed :: rest => attempts rest
  | [] => false

/-- `send`: the entry is formatted, and posted at most three times. -/
def send (formats : Bool) (outcomes : List Attempt) : Bool :=
  formats && attempts (outcomes.take 3)

/-! ## The machine -/

/-- The next section of `Export`: it looks whether the exporter is closed,
writes to the log, or puts the entry into the queue. -/
inductive ExportStage where
  | check
  | append
  | enqueue
  deriving DecidableEq

/-- A call of `Export` on the exporter at place `exporter`. -/
structure ExportCall where
  exporter : Nat
  record : Record
  stage : ExportStage
  deriving DecidableEq

/-- The next section of `Close`: it tells the goroutine, waits for it and
truncates the log, or closes the file. -/
inductive CloseStage where
  | signal
  | wait
  | file
  deriving DecidableEq

/-- A call of `Close`. -/
structure CloseCall where
  exporter : Nat
  stage : CloseStage
  deriving DecidableEq

/-- The log file, and the exporters of the process with the calls in flight.
`accepted` are the entries whose `Export` has returned on an exporter with a
log, and `delivered` those the external system has taken. -/
structure Store where
  file : List Piece := []
  exporters : List Exporter := []
  current : Option Nat := none
  exports : List ExportCall := []
  closes : List CloseCall := []
  calls : Nat := 0
  accepted : List Record := []
  delivered : List Record := []
  deriving DecidableEq

/-- What may happen next. -/
inductive Event where
  /-- An entry is handed to the current exporter. -/
  | emit (e : Entry)
  /-- The call of `Export` at place `k` goes on. `queues` is the choice of a
  `select` that can queue the entry and can return. -/
  | call (k : Nat) (queues : Bool)
  /-- The goroutine of exporter `i` takes an entry from the queue. -/
  | take (i : Nat)
  /-- It has tried to send the entry. -/
  | sent (i : Nat) (formats : Bool) (outcomes : List Attempt)
  /-- It has drained the queue of a closed exporter, and returns. -/
  | finish (i : Nat)
  /-- `SetExporter`; `cfg` is `none` to disable, and tells otherwise whether
  the log could be opened. -/
  | setExporter (cfg : Option Bool)
  /-- `Close` of the store. -/
  | shutdown
  /-- The call of `Close` at place `j` goes on. `timeout` tells that it does
  not wait for the goroutine any longer. -/
  | close (j : Nat) (timeout : Bool)
  /-- The process ends, while the call of `Export` at place `k`, if there is
  one, is writing. -/
  | crash (k : Option Nat)
  deriving DecidableEq

/-- One exporter is changed. -/
def Store.edit (a : Store) (i : Nat) (f : Exporter → Exporter) : Store :=
  { a with exporters := a.exporters.modify i f }

/-- The call of `Export` at place `k` is before another section. -/
def Store.put (a : Store) (k : Nat) (c : ExportCall) (stage : ExportStage) : Store :=
  { a with exports := a.exports.set k { c with stage := stage } }

/-- The call of `Export` at place `k` has returned. -/
def Store.done (a : Store) (k : Nat) : Store := { a with exports := a.exports.eraseIdx k }

/-- The exporter `x` of a call that is to put its entry into the queue: it
does when there is room, and may not when the exporter is closed. -/
def Exporter.enqueue (x : Exporter) (r : Record) (queues : Bool) : Exporter :=
  if x.queue.length < queueSize && (queues || !x.closed) then
    { x with queue := x.queue ++ [r] }
  else x

/-- The next section of a call of `Export` on exporter `x`. -/
def Store.goExport (a : Store) (k : Nat) (c : ExportCall) (x : Exporter) (queues : Bool) : Store :=
  match c.stage with
  | .check => if x.closed then a.done k else a.put k c .append
  | .append => Store.put
      { a with file := if x.log = .opened then a.file ++ [.line c.record] else a.file }
      k c .enqueue
  | .enqueue => Store.done
      { a with
        exporters := a.exporters.modify c.exporter (·.enqueue c.record queues)
        accepted := if x.log = .absent then a.accepted else a.accepted ++ [c.record] } k

/-- The goroutine takes the entry at the head of the queue. -/
def Exporter.take (x : Exporter) : Exporter :=
  match x.queue with
  | r :: rest =>
    if x.sending = none && !x.finished then { x with queue := rest, sending := some r }
    else x
  | [] => x

/-- The goroutine returns when the exporter is closed and has nothing
left. -/
def Exporter.finish (x : Exporter) : Exporter :=
  if x.closed && x.queue.isEmpty && x.sending = none then { x with finished := true } else x

/-- The exporter is not current any more, and is closed. -/
def Store.retire (a : Store) : Store :=
  { a with
    current := none
    closes := a.closes ++ (a.current.map fun i => CloseCall.mk i .signal).toList }

/-- The next section of a call of `Close` on exporter `x`. -/
def Store.goClose (a : Store) (j : Nat) (c : CloseCall) (x : Exporter) (timeout : Bool) : Store :=
  match c.stage with
  | .signal => { a with
      exporters := a.exporters.modify c.exporter fun x => { x with closed := true }
      closes := a.closes.set j { c with stage := .wait } }
  | .wait =>
    if x.finished || timeout then
      { a with
        file := if x.log = .opened then [] else a.file
        closes := a.closes.set j { c with stage := .file } }
    else a
  | .file => { a with
      exporters := a.exporters.modify c.exporter fun x =>
        { x with log := if x.log = .opened then .closed else x.log }
      closes := a.closes.eraseIdx j }

/-- What a crash leaves of the log: the line that was being written may be
there in part. -/
def Store.torn (a : Store) (k : Option Nat) : List Piece :=
  match k.bind (a.exports[·]?) with
  | some c =>
    if c.stage = .append && (a.exporters[c.exporter]?).any (·.log = .opened) then
      a.file ++ [.part]
    else a.file
  | none => a.file

/-- One event. -/
def Store.step (a : Store) : Event → Store
  | .emit e =>
    match a.current with
    | some i => { a with
        exports := a.exports ++ [⟨i, ⟨a.calls, e⟩, .check⟩]
        calls := a.calls + 1 }
    | none => a
  | .call k queues =>
    match a.exports[k]? with
    | some c =>
      match a.exporters[c.exporter]? with
      | some x => a.goExport k c x queues
      | none => a
    | none => a
  | .take i => a.edit i Exporter.take
  | .sent i formats outcomes =>
    match (a.exporters[i]?).bind Exporter.sending with
    | some r => { a with
        exporters := a.exporters.modify i fun x => { x with sending := none }
        delivered := if send formats outcomes then a.delivered ++ [r] else a.delivered }
    | none => a
  | .finish i => a.edit i Exporter.finish
  | .setExporter cfg =>
    match cfg with
    | none => a.retire
    | some opens => { a.retire with
        exporters := a.exporters ++ [newAuditExporter opens a.file]
        current := some a.exporters.length }
  | .shutdown => a.retire
  | .close j timeout =>
    match a.closes[j]? with
    | some c =>
      match a.exporters[c.exporter]? with
      | some x => a.goClose j c x timeout
      | none => a
    | none => a
  | .crash k => {
      file := a.torn k
      calls := a.calls
      accepted := a.accepted
      delivered := a.delivered }

end Rendezvous.Audit

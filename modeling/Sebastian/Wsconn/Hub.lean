/-
# The websocket hub

`sebastian/controller/ws/wsconn/hub.go` and `ws_conn.go` as a transition system:
the calls of the hub that wait for its mutex and the one that holds it, and for
each connection its write lock, its write channel, its write worker and the
calls of `Close`.

A broadcast holds the mutex of the hub and takes one write lock after the other;
`Close` holds the write lock and takes the mutex of the hub to remove the
connection.  And a broadcast that finds a channel full waits with both.
`NotStuck` is what should hold in every state, and `Fits` says which steps have
to be kept out for it.
-/

import Mathlib.Data.Multiset.AddSub
import Sebastian.Lib.Run

namespace Sebastian
namespace Wsconn

/-- `ProjectIdNone` -/
def projectIdNone : ℤ := -1

/-- `defaultWriteChannelSize` -/
def defaultWriteChannelSize : ℕ := 16

/-- Who holds the write lock of a connection: `Write` or `Close`. -/
inductive Writer where
  | write
  | close
  deriving DecidableEq

/-- `WriteWorker`: the goroutine is started, and it runs until it stops. -/
inductive WriteWorker where
  | notStarted
  | running
  | stopped
  deriving DecidableEq

/-- How far `closeOnce` has come. -/
inductive Closing where
  | notCalled
  /-- At `conn.writeLock.Lock()`. -/
  | atWriteLock
  /-- In `removeConnection`, with the write lock, at `hub.mutex.Lock()`. -/
  | atHub
  /-- Before `close(conn.writeChan)`, with the write lock. -/
  | removed
  | done
  deriving DecidableEq

/-- `WsConn` -/
structure WsConn where
  /-- The messages in `writeChan`. -/
  writeChan : ℕ := 0
  writeLock : Option Writer := none
  isClosed : Bool := false
  /-- `AddConnection` has added it to the hub. -/
  added : Bool := false
  worker : WriteWorker := .notStarted
  closing : Closing := .notCalled
  /-- The calls of `Close` that wait for `closeOnce`. -/
  closers : ℕ := 0

/-- The calls of the hub. -/
inductive Op (κ : Type*) where
  | broadcast
  | multicast (connIds : List κ)
  | unicast (connId : κ)
  | multicastToSpecifiedProjectId (projectId : ℤ)
  | multicastToSystem
  | count
  | addConnection (id : κ)

/-- A call that holds the mutex of the hub: the connections it has still to write to, and whether
it has the write lock of the first. -/
structure Sender (κ : Type*) where
  todo : List κ
  locked : Bool := false

/-- `wsConnectionHub`, with the connections of the process. -/
structure Hub (κ : Type*) where
  /-- The keys of `connections` and of `systemMap`. -/
  connections : List κ := []
  systemMap : List κ := []
  projectIdMap : ℤ → List κ := fun _ => []
  /-- The call that holds `mutex`. -/
  mutex : Option (Sender κ) := none
  /-- The calls that wait for `mutex`. -/
  waiting : Multiset (Op κ) := 0
  conns : κ → WsConn := fun _ => {}

variable {κ : Type*} [DecidableEq κ]

namespace Hub

/-- A connection of the hub changes. -/
def setConn (hub : Hub κ) (id : κ) (conn : WsConn) : Hub κ :=
  { hub with conns := Function.update hub.conns id conn }

/-- The connections that a call writes to, in an order in which it may come to them. -/
def Targets (hub : Hub κ) (targets : List κ) : Op κ → Prop
  | .broadcast => targets.Perm hub.connections
  | .multicast connIds => targets = connIds.filter (· ∈ hub.connections)
  | .unicast connId => targets = [connId].filter (· ∈ hub.connections)
  | .multicastToSpecifiedProjectId projectId => targets = hub.projectIdMap projectId
  | .multicastToSystem => targets.Perm hub.systemMap
  | .count => targets = []
  | .addConnection _ => targets = []

/-- `AddConnection` -/
def addConnection (projectId : κ → ℤ) (hub : Hub κ) (id : κ) : Hub κ :=
  let hub := { hub with connections := hub.connections.insert id }.setConn id
    { hub.conns id with added := true }
  if projectId id = projectIdNone then { hub with systemMap := hub.systemMap.insert id }
  else
    { hub with projectIdMap :=
        Function.update hub.projectIdMap (projectId id) (hub.projectIdMap (projectId id) ++ [id]) }

/-- `removeConnection` -/
def removeConnection (projectId : κ → ℤ) (hub : Hub κ) (id : κ) : Hub κ :=
  if id ∈ hub.connections then
    let hub := { hub with connections := hub.connections.filter (· ≠ id) }
    if projectId id = projectIdNone then
      { hub with systemMap := hub.systemMap.filter (· ≠ id) }
    else
      let connections := (hub.projectIdMap (projectId id)).erase id
      { hub with projectIdMap := Function.update hub.projectIdMap (projectId id) connections }
  else hub

/-- A call goes on with the connections that are left, or gives the mutex back. -/
def goOn (hub : Hub κ) : List κ → Hub κ
  | [] => { hub with mutex := none }
  | todo => { hub with mutex := some { todo := todo } }

/-- What a call does before it writes. -/
def prepare (projectId : κ → ℤ) (hub : Hub κ) : Op κ → Hub κ
  | .addConnection id => hub.addConnection projectId id
  | _ => hub

/-- `Write`, with the write lock. -/
def write (hub : Hub κ) (id : κ) : Hub κ :=
  let conn := hub.conns id
  hub.setConn id { conn with
    writeChan := if conn.isClosed then conn.writeChan else conn.writeChan + 1
    writeLock := none }

end Hub

/-- The steps of the hub and its connections. -/
inductive Label (κ : Type*) where
  /-- A new call of the hub, or of `Close`. -/
  | call (op : Op κ)
  | close (id : κ)
  /-- A call takes the mutex of the hub. -/
  | enter (op : Op κ) (targets : List κ)
  /-- The call with the mutex takes a write lock, and writes. -/
  | lock
  | write
  /-- `Close` takes the write lock, removes the connection, and closes the channel. -/
  | closeLock (id : κ)
  | closeRemove (id : κ)
  | closeDone (id : κ)
  /-- A call of `Close` returns that has waited for `closeOnce`. -/
  | closeReturn (id : κ)
  /-- The write worker starts, receives a message, and stops. -/
  | start (id : κ)
  | receive (id : κ)
  | stop (id : κ)

/-- **The steps of the hub**, for connections with these project ids. -/
inductive Step (projectId : κ → ℤ) : Hub κ → Label κ → Hub κ → Prop
  | call {hub : Hub κ} (op : Op κ) :
      Step projectId hub (.call op) { hub with waiting := op ::ₘ hub.waiting }
  | close {hub : Hub κ} (id : κ) :
      Step projectId hub (.close id) (hub.setConn id
        (if (hub.conns id).closing = .notCalled then
          { hub.conns id with closing := .atWriteLock }
        else { hub.conns id with closers := (hub.conns id).closers + 1 }))
  | enter {hub : Hub κ} {waiting : Multiset (Op κ)} {op : Op κ} {targets : List κ} :
      hub.mutex = none → hub.waiting = op ::ₘ waiting → hub.Targets targets op →
      Step projectId hub (.enter op targets)
        (({ hub with waiting := waiting }.prepare projectId op).goOn targets)
  | lock {hub : Hub κ} {id : κ} {rest : List κ} :
      hub.mutex = some { todo := id :: rest } → (hub.conns id).writeLock = none →
      Step projectId hub .lock
        ({ hub with mutex := some { todo := id :: rest, locked := true } }.setConn id
          { hub.conns id with writeLock := some .write })
  | write {hub : Hub κ} {id : κ} {rest : List κ} :
      hub.mutex = some { todo := id :: rest, locked := true } →
      ((hub.conns id).isClosed ∨ (hub.conns id).writeChan < defaultWriteChannelSize) →
      Step projectId hub .write ((hub.write id).goOn rest)
  | closeLock {hub : Hub κ} {id : κ} :
      (hub.conns id).closing = .atWriteLock → (hub.conns id).writeLock = none →
      Step projectId hub (.closeLock id) (hub.setConn id { hub.conns id with
        writeLock := some .close
        isClosed := true
        closing := .atHub })
  | closeRemove {hub : Hub κ} {id : κ} :
      (hub.conns id).closing = .atHub → hub.mutex = none →
      Step projectId hub (.closeRemove id) ((hub.removeConnection projectId id).setConn id
        { hub.conns id with closing := .removed })
  | closeDone {hub : Hub κ} {id : κ} :
      (hub.conns id).closing = .removed →
      Step projectId hub (.closeDone id) (hub.setConn id { hub.conns id with
        writeLock := none
        closing := .done })
  | closeReturn {hub : Hub κ} {id : κ} :
      (hub.conns id).closing = .done → 0 < (hub.conns id).closers →
      Step projectId hub (.closeReturn id)
        (hub.setConn id { hub.conns id with closers := (hub.conns id).closers - 1 })
  | start {hub : Hub κ} {id : κ} :
      (hub.conns id).worker = .notStarted → (hub.conns id).added = true →
      Step projectId hub (.start id) (hub.setConn id { hub.conns id with worker := .running })
  | receive {hub : Hub κ} {id : κ} :
      (hub.conns id).worker = .running → 0 < (hub.conns id).writeChan →
      Step projectId hub (.receive id)
        (hub.setConn id { hub.conns id with writeChan := (hub.conns id).writeChan - 1 })
  | stop {hub : Hub κ} {id : κ} :
      (hub.conns id).worker = .running →
      Step projectId hub (.stop id) (hub.setConn id { hub.conns id with worker := .stopped })

/-! ### What a stuck hub is -/

/-- The parties that hold locks: the call with the mutex of the hub, and the calls of `Close` with
a write lock. -/
inductive Party (κ : Type*) where
  | sender
  | closer (id : κ)

/-- One party waits for a lock that another one holds. -/
inductive WaitsFor (hub : Hub κ) : Party κ → Party κ → Prop
  | writeLock {id : κ} {rest : List κ} :
      hub.mutex = some { todo := id :: rest } → (hub.conns id).writeLock = some .close →
      WaitsFor hub .sender (.closer id)
  | hubMutex {id : κ} {sender : Sender κ} :
      (hub.conns id).closing = .atHub → hub.mutex = some sender →
      WaitsFor hub (.closer id) .sender
  | lockedBySender {id : κ} :
      (hub.conns id).closing = .atWriteLock → (hub.conns id).writeLock = some .write →
      WaitsFor hub (.closer id) .sender

/-- A broadcast waits for room in a channel whose write worker has stopped. -/
def WaitsForStopped (hub : Hub κ) : Prop :=
  ∃ id rest, hub.mutex = some { todo := id :: rest, locked := true } ∧
    (hub.conns id).isClosed = false ∧
    defaultWriteChannelSize ≤ (hub.conns id).writeChan ∧ (hub.conns id).worker = .stopped

/-- A call of the hub or of `Close` is not over. -/
def Pending (hub : Hub κ) : Prop :=
  hub.waiting ≠ 0 ∨ hub.mutex ≠ none ∨
    ∃ id, (hub.conns id).closing ∉ [Closing.notCalled, .done] ∨ 0 < (hub.conns id).closers

/-- The steps of the calls that have been made. -/
def Label.OfCall : Label κ → Prop
  | .enter _ _ | .lock | .write | .closeLock _ | .closeRemove _ | .closeDone _
  | .closeReturn _ => True
  | _ => False

/-- The steps with which a write worker makes room. -/
def Label.OfWorker : Label κ → Prop
  | .start _ | .receive _ => True
  | _ => False

/-- **The hub is not stuck**: no lock holders wait in a circle, no broadcast waits for a write
worker that has stopped, and if a call is pending then some call has a step to take, at most
after its write worker has made room. -/
structure NotStuck (projectId : κ → ℤ) (hub : Hub κ) : Prop where
  noCycle : ∀ party, ¬Relation.TransGen (WaitsFor hub) party party
  noStopped : ¬WaitsForStopped hub
  moves : Pending hub → ∃ run, Along (fun s l t => Step projectId s l t ∧ l.OfWorker) hub run ∧
    ∃ state ∈ statesOfRun hub run, ∃ label next, Step projectId state label next ∧ label.OfCall

/-- **What a step has to keep to**: a call takes the mutex of the hub only if no connection it
will write to is held by a `Close` that waits for the mutex, and the write lock of a full
connection only if its write worker has not stopped; `Close` takes a write lock only if the call
with the mutex has not still to take it; and a write worker does not stop while a call waits for
room. -/
def Fits (hub : Hub κ) : Label κ → Prop
  | .enter _ targets => ∀ id ∈ targets, (hub.conns id).closing ≠ .atHub
  | .lock => ∀ sender, hub.mutex = some sender → ∀ id ∈ sender.todo.head?,
      (hub.conns id).isClosed = true ∨
        (hub.conns id).writeChan < defaultWriteChannelSize ∨ (hub.conns id).worker ≠ .stopped
  | .closeLock id => ∀ sender, hub.mutex = some sender → id ∉ sender.todo
  | .stop id => ∀ rest, hub.mutex = some { todo := id :: rest, locked := true } →
      (hub.conns id).isClosed = true ∨ (hub.conns id).writeChan < defaultWriteChannelSize
  | _ => True

end Wsconn
end Sebastian

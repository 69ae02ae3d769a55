/-
# The waitable worker pool

`sebastian/common/workerpool/worker_pool_waitable.go`, `worker.go` and
`safe_wait_group.go` as a transition system: any number of calls that wait for
the mutex of the pool, the one that holds it, the channel of the jobs and the
workers.  A job may itself call `AddJob`, and its worker is then in that call.

`AddJob` holds the mutex while it waits for room in the channel, and `Wait` and
`WaitAndClose` hold it while they wait for the jobs, so a job that still adds
one can be what its own pool waits for.  `Works` is what the pool is to do in
every run, and `Fits` which steps have to be kept out for it.
-/

import Mathlib.Data.Multiset.Range
import Sebastian.Lib.Run

namespace Sebastian
namespace Workerpool

/-! ### The pool -/

/-- A job: the jobs it adds to the pool, one after the other, until it ends or panics. -/
inductive Job where
  | mk (adds : List Job)

/-- The calls of the pool. -/
inductive Op where
  | addJob (job : Job)
  | cancelAndClose
  | close
  | wait
  | waitAndClose

/-- A job on a worker: its number, and the jobs it has still to add. -/
structure Running where
  job : ℕ
  adds : List Job

/-- A call, from outside or by the job on a worker. -/
structure Call where
  op : Op
  worker : Option Running := none

/-- A worker in its loop. -/
inductive Worker where
  | idle
  | running (job : Running)

/-- `WorkerPoolWaitable`.  A worker is among the `workers` while it is in its loop and not in a
call; a worker that has left its loop is nowhere. -/
structure Pool where
  jobs : List (ℕ × Job) := []
  /-- The counter of `wg`. -/
  wg : ℕ := 0
  isClosed : Bool := false
  /-- `ctx` is done. -/
  cancelled : Bool := false
  /-- The calls that wait for `mutex`. -/
  waiting : Multiset Call := 0
  /-- The call that holds `mutex`. -/
  holder : Option Call := none
  workers : Multiset Worker
  /-- The jobs that `AddJob` has sent, which are numbered in this order. -/
  accepted : ℕ := 0
  /-- The jobs that a worker has received, and those that have ended. -/
  started : Multiset ℕ := 0
  finished : Multiset ℕ := 0
  /-- `CancelAndClose` has been called. -/
  cancelCalled : Bool := false

/-- `NewWorkerPoolWaitable` -/
def newWorkerPoolWaitable (workerCount : ℕ) : Pool :=
  { workers := Multiset.replicate workerCount .idle }

namespace Pool

/-- The call returns, and the job that made it goes on. -/
def ret (pool : Pool) (call : Call) : Pool :=
  match call.worker with
  | none => pool
  | some job => { pool with workers := .running job ::ₘ pool.workers }

/-- What a call does with the mutex, up to where it waits. -/
def enter (pool : Pool) (call : Call) : Pool :=
  match call.op with
  | .addJob _ =>
    if pool.isClosed then pool.ret call
    else { pool with wg := pool.wg + 1, holder := some call }
  | .cancelAndClose =>
    { pool with cancelled := true, cancelCalled := true, isClosed := true }.ret call
  | .close => { pool with isClosed := true }.ret call
  | .wait => { pool with holder := some call }
  | .waitAndClose =>
    if pool.isClosed then pool.ret call else { pool with holder := some call }

/-- What a call does when the counter is down to 0. -/
def waitDone (pool : Pool) (op : Op) : Pool :=
  match op with
  | .waitAndClose => { pool with cancelled := true, isClosed := true }
  | _ => pool

end Pool

/-- The calls that wait for the counter. -/
def Op.Waits (op : Op) : Prop := op = .wait ∨ op = .waitAndClose

/-- The steps of the pool. -/
inductive Label where
  /-- A caller outside calls. -/
  | call (op : Op)
  /-- A job calls `AddJob`. -/
  | jobCall
  /-- A call locks the mutex. -/
  | enter (call : Call)
  /-- `pool.jobs <- job` -/
  | send
  /-- `wg.Wait` is over. -/
  | wake
  | receive
  | finish
  | exit

/-- **The steps of the pool**, with a channel of this size. -/
inductive Step (size : ℕ) : Pool → Label → Pool → Prop
  | call {pool : Pool} (op : Op) :
      Step size pool (.call op) { pool with waiting := { op := op } ::ₘ pool.waiting }
  | jobCall {pool : Pool} {workers : Multiset Worker} {job : ℕ} {add : Job} {adds : List Job} :
      pool.workers = .running { job := job, adds := add :: adds } ::ₘ workers →
      Step size pool .jobCall { pool with
        workers := workers
        waiting := { op := .addJob add, worker := some { job := job, adds := adds } } ::ₘ
          pool.waiting }
  | enter {pool : Pool} {waiting : Multiset Call} {call : Call} :
      pool.holder = none → pool.waiting = call ::ₘ waiting →
      Step size pool (.enter call) ({ pool with waiting := waiting }.enter call)
  | send {pool : Pool} {call : Call} {job : Job} :
      pool.holder = some call → call.op = .addJob job → pool.jobs.length < size →
      Step size pool .send ({ pool with
        holder := none
        jobs := pool.jobs ++ [(pool.accepted, job)]
        accepted := pool.accepted + 1 }.ret call)
  | wake {pool : Pool} {call : Call} :
      pool.holder = some call → call.op.Waits → pool.wg = 0 →
      Step size pool .wake (({ pool with holder := none }.waitDone call.op).ret call)
  | receive {pool : Pool} {jobs : List (ℕ × Job)} {workers : Multiset Worker} {job : ℕ}
      {adds : List Job} :
      pool.jobs = (job, .mk adds) :: jobs → pool.workers = .idle ::ₘ workers →
      Step size pool .receive { pool with
        jobs := jobs
        workers := .running { job := job, adds := adds } ::ₘ workers
        started := job ::ₘ pool.started }
  | finish {pool : Pool} {workers : Multiset Worker} {job : ℕ} :
      pool.workers = .running { job := job, adds := [] } ::ₘ workers →
      Step size pool .finish { pool with
        wg := pool.wg - 1
        workers := .idle ::ₘ workers
        finished := job ::ₘ pool.finished }
  | exit {pool : Pool} {workers : Multiset Worker} :
      pool.workers = .idle ::ₘ workers →
      (pool.cancelled ∨ pool.isClosed ∧ pool.jobs = []) →
      Step size pool .exit { pool with workers := workers }

/-- A step of a worker or of a call that has been made. -/
def InternalStep (size : ℕ) (pool : Pool) (label : Label) (pool' : Pool) : Prop :=
  Step size pool label pool' ∧ ∀ op, label ≠ .call op

/-- All jobs that have been added have finished. -/
def AllFinished (pool : Pool) : Prop := ∀ job < pool.accepted, job ∈ pool.finished

/-- A `Wait` or `WaitAndClose` returns with this step. -/
def WaitReturns (pool : Pool) : Label → Prop
  | .wake => True
  | .enter call => call.op = .waitAndClose ∧ pool.isClosed
  | _ => False

/-- **The pool works**: a job runs at most once; a job that was added is run, unless
`CancelAndClose` is called, since the pool comes to rest by itself and then has none left; a wait
is over when all jobs have finished; and a call that waits leaves some step to take. -/
structure Works (size : ℕ) (pool : Pool) (run : List (Label × Pool)) : Prop where
  once : ∀ state ∈ statesOfRun pool run, state.started.Nodup
  rests : ∀ state ∈ statesOfRun pool run, ∃ steps, ∀ after,
    Along (InternalStep size) state after → after.length ≤ steps
  runs : ∀ state ∈ statesOfRun pool run, (∀ label next, ¬InternalStep size state label next) →
    state.cancelCalled ∨ AllFinished state
  waits : Along (fun state label _ => WaitReturns state label → AllFinished state) pool run
  notStuck : ∀ state ∈ statesOfRun pool run, (state.holder ≠ none ∨ state.waiting ≠ 0) →
    ∃ label next, InternalStep size state label next

/-! ### The steps that fit -/

/-- A worker can take a job from the channel without the mutex. -/
def CanReceive (pool : Pool) : Prop :=
  ∃ worker ∈ pool.workers, worker = .idle ∨ ∃ job, worker = .running { job := job, adds := [] }

/-- No job that was added has still to add one, and there are workers for the jobs in the
channel. -/
structure Quiet (pool : Pool) : Prop where
  jobs : ∀ job ∈ pool.jobs, job.2 = .mk []
  workers : ∀ job, .running job ∈ pool.workers → job.adds = []
  calls : ∀ call ∈ pool.waiting, call.worker = none
  live : pool.jobs ≠ [] → pool.workers ≠ 0

/-- **What a step has to keep to**: `AddJob` takes the mutex with a full channel only if a worker
can receive without it; a wait takes it when no job has still to add one; a closed pool is not
waited for before its jobs have finished; and the last worker does not leave jobs behind that are
waited for. -/
def Fits (size : ℕ) (pool : Pool) : Label → Prop
  | .enter call =>
    match call.op with
    | .addJob _ => pool.isClosed ∨ pool.jobs.length < size ∨ CanReceive pool
    | .wait => Quiet pool
    | .waitAndClose => if pool.isClosed then AllFinished pool else Quiet pool
    | _ => True
  | .exit => (∃ call, pool.holder = some call ∧ call.op.Waits) → pool.jobs ≠ [] →
      1 < pool.workers.card
  | _ => True

end Workerpool
end Sebastian

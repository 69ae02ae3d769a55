/-
# The queries of a scan in batches

`sebastian/modules/scan/scanner_default_batch_job_runner.go`: `BatchQuery` with its
producer, the loop that dispatches the jobs, a semaphore for each device
(`sebastian/common/semaphore`) and the workers of the pool, as a transition system.
The pool and its steps are those of `Workerpool.Step`; the one caller of the pool is
the dispatching loop, and no job adds another one.

A variable that is declared by the loop over the jobs belongs to its round.  The
sizes of the channels are products of the limits, which are an `int` of 64 bits.
-/

import Sebastian.Lib.GoFunc
import Sebastian.Topomanager.DeviceIdMapper
import Sebastian.Workerpool.Books

namespace Sebastian
namespace Scan

open Workerpool (Pool newWorkerPoolWaitable)
open Topomanager (DeviceIdMapper)

/-! ### The jobs -/

/-- A device that is queried, by the ids of its interfaces. -/
structure ScannedDevice where
  interfaces : List ℤ := []

/-- What a job asks a device for. -/
inductive Query where
  | unicastStaticForwarding
  | multicastStaticForwarding
  | mgmtInterfaceSetting
  | timeSyncSetting
  | timeSettingTables
  | vlanSetting
  | rstpSetting
  | loopProtectionSetting
  | portSetting
  | networkSettingTables
  | portDefaultPcpTable (portIds : List ℤ)
  | snmpTrapSettingTables
  | perStreamPriority
  | informationSetting
  | loginPolicy
  | userAccount
  | syslogSetting
  | gcl
  | cb

/-- `DefaultScannerQueryJob` -/
structure QueryJob where
  actDeviceId : ℤ
  mafDeviceId : String
  query : Query

/-- The queries of a device, in the order of their jobs. -/
def queriesOf (device : ScannedDevice) : List Query :=
  [.unicastStaticForwarding, .multicastStaticForwarding, .mgmtInterfaceSetting, .timeSyncSetting,
    .timeSettingTables, .vlanSetting, .rstpSetting, .loopProtectionSetting, .portSetting,
    .networkSettingTables, .portDefaultPcpTable device.interfaces.eraseDups,
    .snmpTrapSettingTables, .perStreamPriority, .informationSetting, .loginPolicy, .userAccount,
    .syslogSetting, .gcl, .cb]

/-- `produceQueryJobs`: the jobs that are sent, for an order of the devices. -/
def produceQueryJobs (mapper : DeviceIdMapper) (walk : List (ℤ × ScannedDevice)) : List QueryJob :=
  walk.flatMap fun (actDeviceId, device) =>
    match mapper.getMafDeviceId actDeviceId with
    | none => []
    | some mafDeviceId => (queriesOf device).map fun query =>
        { actDeviceId := actDeviceId, mafDeviceId := mafDeviceId, query := query }

/-! ### The state -/

/-- Where the dispatching loop is. -/
inductive Dispatcher where
  /-- At `range runner.jobChan`. -/
  | range
  | acquire (job : QueryJob)
  | addJob (job : QueryJob)
  | waitAndClose
  | done

/-- A call of the pool returns. -/
def Dispatcher.ret : Dispatcher → Dispatcher
  | .addJob _ => .range
  | .waitAndClose => .done
  | dispatcher => dispatcher

/-- How `JobFunc` ends. -/
inductive Outcome where
  | ok
  | failed
  | panicked

/-- A batch under way. -/
structure Batch where
  /-- The jobs that the producer has still to send. -/
  unproduced : List QueryJob
  jobChan : List QueryJob := []
  /-- `jobChan` is closed. -/
  isClosed : Bool := false
  /-- The semaphores, by what is in their channels. -/
  semaphores : GoMap ℤ ℕ
  dispatcher : Dispatcher := .range
  pool : Pool
  /-- The jobs that `AddJob` has sent, by their numbers in the pool. -/
  sent : List QueryJob := []
  /-- The numbers of the jobs whose `JobFunc` has ended, and of those that have released. -/
  ended : List ℕ := []
  released : List ℕ := []

/-- The semaphores of `BatchQuery`, for an order of the devices. -/
def makeSemaphores (walk : List (ℤ × ScannedDevice)) : GoMap ℤ ℕ :=
  GoMap.empty.setAll (walk.map fun x => (x.1, 0))

/-- The size of `runner.jobChan`. -/
def jobChanSize (total perDevice : ℤ) : ℤ := Int.bmod (total * perDevice * 2) (2 ^ 64)

/-- The size of the queue of the pool. -/
def jobQueueSize (total perDevice : ℤ) : ℤ := Int.bmod (total * perDevice) (2 ^ 64)

/-- `BatchQuery` up to the loop over the jobs: no batch for no device.  `make` panics at a size
that is negative, and `NewWorkerPoolWaitable` at one that is not positive. -/
def batchQuery (maxConcurrencyTotalQuery maxConcurrencyPerDeviceQuery : ℤ)
    (walk walk' : List (ℤ × ScannedDevice)) (actDeviceManager : Except String DeviceIdMapper) :
    Ending String (Option Batch) :=
  if walk.isEmpty then .returned none
  else if maxConcurrencyTotalQuery ≤ 0 then
    .failed "MaxConcurrencyTotalQuery should be greater than 0"
  else if maxConcurrencyPerDeviceQuery ≤ 0 then
    .failed "MaxConcurrencyPerDeviceQuery should be greater than 0"
  else
    match actDeviceManager with
    | .error err => .failed err
    | .ok mapper =>
      if jobChanSize maxConcurrencyTotalQuery maxConcurrencyPerDeviceQuery < 0 then .panicked
      else if jobQueueSize maxConcurrencyTotalQuery maxConcurrencyPerDeviceQuery ≤ 0 then .panicked
      else .returned (some {
        unproduced := produceQueryJobs mapper walk'
        semaphores := makeSemaphores walk
        pool := newWorkerPoolWaitable maxConcurrencyTotalQuery.toNat })

/-! ### The steps -/

/-- The steps of a batch. -/
inductive Label where
  /-- `runner.jobChan <- job` and `close(runner.jobChan)` -/
  | produce
  | close
  /-- The loop receives a job, or the channel is at its end. -/
  | receive
  | rangeEnd
  /-- `sema.Acquire()` -/
  | acquire
  /-- A call locks the mutex of the pool, sends its job, or has waited. -/
  | enter
  | send
  | wake
  /-- A worker receives a job. -/
  | start
  /-- `job.JobFunc()`, `sema.Release()` and `worker.wg.Done()` -/
  | jobFunc (number : ℕ) (outcome : Outcome)
  | release (number : ℕ)
  | finish (number : ℕ)
  | exit

/-- **The steps of a batch** under the limits. -/
inductive Step (total perDevice : ℤ) : Batch → Label → Batch → Prop
  | produce {batch : Batch} {job : QueryJob} {jobs : List QueryJob} :
      batch.unproduced = job :: jobs → batch.jobChan.length < (jobChanSize total perDevice).toNat →
      Step total perDevice batch .produce
        { batch with unproduced := jobs, jobChan := batch.jobChan ++ [job] }
  | close {batch : Batch} :
      batch.unproduced = [] → batch.isClosed = false →
      Step total perDevice batch .close { batch with isClosed := true }
  | receive {batch : Batch} {job : QueryJob} {jobs : List QueryJob} :
      batch.dispatcher = .range → batch.jobChan = job :: jobs →
      Step total perDevice batch .receive { batch with
        jobChan := jobs
        dispatcher :=
          match batch.semaphores job.actDeviceId with
          | some _ => .acquire job
          | none => .range }
  | rangeEnd {batch : Batch} {pool : Pool} :
      batch.dispatcher = .range → batch.jobChan = [] → batch.isClosed = true →
      Workerpool.Step (jobQueueSize total perDevice).toNat batch.pool (.call .waitAndClose) pool →
      Step total perDevice batch .rangeEnd
        { batch with dispatcher := .waitAndClose, pool := pool }
  | acquire {batch : Batch} {job : QueryJob} {tokens : ℕ} {pool : Pool} :
      batch.dispatcher = .acquire job → batch.semaphores job.actDeviceId = some tokens →
      tokens < perDevice.toNat →
      Workerpool.Step (jobQueueSize total perDevice).toNat batch.pool (.call (.addJob
        (.mk []))) pool →
      Step total perDevice batch .acquire { batch with
        semaphores := batch.semaphores.set job.actDeviceId (tokens + 1)
        dispatcher := .addJob job
        pool := pool }
  | enter {batch : Batch} {call : Workerpool.Call} {pool : Pool} :
      Workerpool.Step (jobQueueSize total perDevice).toNat batch.pool (.enter call) pool →
      Step total perDevice batch .enter { batch with
        dispatcher := if batch.pool.isClosed then batch.dispatcher.ret else batch.dispatcher
        pool := pool }
  | send {batch : Batch} {job : QueryJob} {pool : Pool} :
      batch.dispatcher = .addJob job →
      Workerpool.Step (jobQueueSize total perDevice).toNat batch.pool .send pool →
      Step total perDevice batch .send { batch with
        dispatcher := batch.dispatcher.ret
        pool := pool
        sent := batch.sent ++ [job] }
  | wake {batch : Batch} {pool : Pool} :
      Workerpool.Step (jobQueueSize total perDevice).toNat batch.pool .wake pool →
      Step total perDevice batch .wake { batch with
        dispatcher := batch.dispatcher.ret
        pool := pool }
  | start {batch : Batch} {pool : Pool} :
      Workerpool.Step (jobQueueSize total perDevice).toNat batch.pool .receive pool →
      Step total perDevice batch .start { batch with pool := pool }
  | jobFunc {batch : Batch} {number : ℕ} (outcome : Outcome) :
      .running { job := number, adds := [] } ∈ batch.pool.workers → number ∉ batch.ended →
      Step total perDevice batch (.jobFunc number outcome)
        { batch with ended := batch.ended ++ [number] }
  | release {batch : Batch} {number : ℕ} {job : QueryJob} {tokens : ℕ} :
      number ∈ batch.ended → number ∉ batch.released → batch.sent[number]? = some job →
      batch.semaphores job.actDeviceId = some tokens → 0 < tokens →
      Step total perDevice batch (.release number) { batch with
        semaphores := batch.semaphores.set job.actDeviceId (tokens - 1)
        released := batch.released ++ [number] }
  | finish {batch : Batch} {number : ℕ} {pool : Pool} :
      number ∈ batch.released →
      Workerpool.Step (jobQueueSize total perDevice).toNat batch.pool .finish pool →
      pool.finished = number ::ₘ batch.pool.finished →
      Step total perDevice batch (.finish number) { batch with pool := pool }
  | exit {batch : Batch} {pool : Pool} :
      Workerpool.Step (jobQueueSize total perDevice).toNat batch.pool .exit pool →
      Step total perDevice batch .exit { batch with pool := pool }

/-! ### What a batch is to do -/

namespace Batch

/-- The jobs whose semaphore has been acquired. -/
def acquired (batch : Batch) : List QueryJob :=
  match batch.dispatcher with
  | .addJob job => batch.sent ++ [job]
  | _ => batch.sent

/-- The jobs with these numbers. -/
def jobsOf (batch : Batch) (numbers : List ℕ) : List QueryJob :=
  numbers.filterMap (batch.sent[·]?)

end Batch

/-- How many of the jobs are about a device. -/
def countOf (jobs : List QueryJob) (actDeviceId : ℤ) : ℕ :=
  jobs.countP (·.actDeviceId == actDeviceId)

/-- **The batch works**: it keeps to its limits, no job is executed twice, all of them have been
when `WaitAndClose` returns, and there is a step to take until then, but no run goes on for ever. -/
structure Works (total perDevice : ℤ) (jobs : List QueryJob) (batch : Batch)
    (run : List (Label × Batch)) : Prop where
  limited : ∀ state ∈ statesOfRun batch run, state.pool.active.card ≤ total.toNat
  limitedPerDevice : ∀ state ∈ statesOfRun batch run, ∀ actDeviceId,
    countOf state.acquired actDeviceId ≤
      countOf (state.jobsOf state.released) actDeviceId + perDevice.toNat
  once : ∀ state ∈ statesOfRun batch run, (state.jobsOf state.ended).Subperm jobs
  complete : ∀ state ∈ statesOfRun batch run, state.dispatcher = .done →
    (state.jobsOf state.ended).Perm jobs
  notStuck : ∀ state ∈ statesOfRun batch run, state.dispatcher ≠ .done →
    ∃ label next, Step total perDevice state label next
  ends : ∃ steps, ∀ run, Along (Step total perDevice) batch run → run.length ≤ steps

end Scan
end Sebastian

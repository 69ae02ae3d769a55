/-
# Starting, stopping and reloading the monitor

`Start`, `Stop` and `hotReloadMonitorSettings` (`sebastian/modules/monitor/monitor.go`)
keep an internal state for every project and the project's status in core in
step with it.  The three work under `internalMutex`, so that one of them is in
progress at a time; what others see of it are the states it passes through.

The calls inside that go to core, to the baseline and to the network manager are
taken by how they end (`Ending`), which the run chooses.  `onStartMonitor` and
`hotReloadMonitorSettings` recover from a panic, `onStopMonitor` does not
(`StopCalls.Strands`).  What is asked of a run of calls is `Lifecycle`.
-/

import Sebastian.Core.ProjectStatus
import Sebastian.Lib.GoFunc
import Sebastian.Lib.GoMap
import Sebastian.Lib.Run

namespace Sebastian
namespace Monitor

open GoFunc

/-- `InternalState` -/
inductive InternalState where
  | stopped
  | stopping
  | starting
  | running
  | reloading
  | paused
  deriving DecidableEq

/-- What the three functions keep in step: the internal states, and the statuses in core. -/
structure MonitorState where
  internalStateMap : GoMap ℤ InternalState
  projectStatus : ℤ → Core.ProjectStatus

/-- The errors of this file. -/
inductive MonitorError where
  | stopMonitorNotRunning
  | stopMonitorStopping
  | errorf (message : Message)

/-- How a call ends that may return an error, whose text this is. -/
abbrev Fallible := Ending String Unit

/-- How a call ends that has no error to return. -/
abbrev Infallible := Ending Empty Unit

/-- The code of this file. -/
abbrev MonitorFunc := GoFunc MonitorError MonitorState

/-! ### The state -/

/-- The state with another internal state of one project. -/
def MonitorState.setState (m : MonitorState) (p : ℤ) (state : InternalState) : MonitorState :=
  { m with internalStateMap := m.internalStateMap.set p state }

/-- The state with another status of one project. -/
def MonitorState.setStatus (m : MonitorState) (p : ℤ) (status : Core.ProjectStatus) :
    MonitorState :=
  { m with projectStatus := Function.update m.projectStatus p status }

/-- `getInternalState` -/
def getInternalState {ε : Type} (projectId : ℤ) : GoFunc ε MonitorState (Option InternalState) := do
  return (← get).internalStateMap projectId

/-- `setInternalState` -/
def setInternalState {ε : Type} (projectId : ℤ) (state : InternalState) :
    GoFunc ε MonitorState Unit :=
  write (·.setState projectId state)

/-- `isMonitoring`, of the internal state. -/
def isMonitoring : Option InternalState → Bool
  | some .running => true
  | _ => false

/-- `isMonitoringOrReloading`, of the internal state. -/
def isMonitoringOrReloading : Option InternalState → Bool
  | some .running | some .reloading => true
  | _ => false

/-- The error of a call, with the project and what the call answered. -/
def errorOf (template : String) (projectId : ℤ) (res : String) : MonitorError :=
  .errorf ⟨template, [.int projectId, .str res]⟩

/-- `core.GetProjectInfo`, of which the status is used. -/
def getProjectInfo (projectId : ℤ) (ending : Fallible) : MonitorFunc Core.ProjectStatus := do
  call ending fun res => fail (errorOf "failed to get project(%v) info: %v" projectId res)
  return (← get).projectStatus projectId

/-- `core.UpdateProjectStatus`: when it succeeds, the project has the status. -/
def updateProjectStatus (projectId : ℤ) (status : Core.ProjectStatus) (ending : Fallible)
    (template : String) : MonitorFunc Unit := do
  call ending fun res => fail (errorOf template projectId res)
  write (·.setStatus projectId status)

/-! ### `Start` -/

/-- Whether `m.mutex` was obtained in one of the ten attempts, and if not, the internal state
seen after the last. -/
inductive TryLock where
  | acquired
  | busy (seen : Option InternalState)

/-- What a call of `Start` meets. -/
structure StartCalls where
  tryLock : TryLock := .acquired
  /-- The order in which the internal states are walked. -/
  order : List (ℤ × InternalState)
  getProjectInfo : Fallible := .returned ()
  updateMonitoring : Fallible := .returned ()
  getActivatedBaseline : Fallible := .returned ()
  updateFullProject : Fallible := .returned ()
  getProject : Fallible := .returned ()
  getSimpleDeviceProfiles : Fallible := .returned ()
  getNMManager : Fallible := .returned ()
  reset : Infallible := .returned ()
  subscribe : Fallible := .returned ()
  startMonitor : Fallible := .returned ()
  unSubscribe : Infallible := .returned ()
  updateIdle : Fallible := .returned ()

/-- `onStartMonitor`, behind the deferred functions. -/
def startSession (projectId : ℤ) (calls : StartCalls) : MonitorFunc Unit := do
  call calls.getActivatedBaseline fun res =>
    fail (errorOf "Failed to get activated baseline for project %d: %v" projectId res)
  call calls.updateFullProject fun res =>
    fail (errorOf "Failed to update operation project(%d): %v" projectId res)
  call calls.getProject fun res =>
    fail (errorOf "Failed to get operation project(%d): %v" projectId res)
  call calls.getSimpleDeviceProfiles fun res =>
    fail (.errorf ⟨"Failed to get simple device profile: %v", [.str res]⟩)
  call calls.getNMManager fun _ => fail (.errorf ⟨"Failed to start monitor", []⟩)
  call calls.reset nofun
  call calls.subscribe fun err => fail (.errorf ⟨err, []⟩)
  call calls.startMonitor fun err => do
    call calls.unSubscribe nofun
    fail (.errorf ⟨"Failed to start monitor: %v", [.str err]⟩)

/-- The deferred function of `onStartMonitor`, by the `returnErr` it finds. -/
def endStart (projectId : ℤ) (calls : StartCalls) :
    Ending MonitorError Unit → MonitorFunc Unit
  | .returned _ => setInternalState projectId .running
  | _ => do
    setInternalState projectId .stopped
    updateProjectStatus projectId .idle calls.updateIdle
      "Failed to update project(%v) status to Idle: %v"

/-- `onStartMonitor` -/
def onStartMonitor (projectId : ℤ) (calls : StartCalls) : MonitorFunc Unit :=
  match calls.order.find? fun entry => entry.2 ≠ .stopped with
  | some (projectIdInMap, _) =>
    if projectIdInMap = projectId then ret ()
    else fail (.errorf
      ⟨"Another project is in monitor state, projectId: %d", [.int projectIdInMap]⟩)
  | none => do
    let _ ← getProjectInfo projectId calls.getProjectInfo
    updateProjectStatus projectId .monitoring calls.updateMonitoring
      "failed to update project(%v) status to Monitoring: %v"
    setInternalState projectId .starting
    deferring
      (recovering (startSession projectId calls)
        (.failed (.errorf ⟨"panic occurred during starting monitor: %v", []⟩)))
      (endStart projectId calls)

/-- `Start` -/
def start (projectId : ℤ) (calls : StartCalls) : MonitorFunc Unit :=
  if projectId ≤ 0 then fail (.errorf ⟨"invalid project ID: %d", [.int projectId]⟩)
  else
    match calls.tryLock with
    | .acquired => onStartMonitor projectId calls
    | .busy (some .starting) => fail (.errorf ⟨"Monitor is starting, please wait", []⟩)
    | .busy (some .stopping) =>
      fail (.errorf ⟨"Monitor is stopping, please try again later", []⟩)
    | .busy _ => fail (.errorf ⟨"Failed to start monitor, please try again later", []⟩)

/-! ### `Stop` -/

/-- What a call of `onStopMonitor` meets. -/
structure StopCalls where
  getProjectInfo : Fallible := .returned ()
  getNMManager : Fallible := .returned ()
  stopMonitor : Infallible := .returned ()
  unSubscribe : Infallible := .returned ()
  waitAndClose : Infallible := .returned ()
  updateIdle : Fallible := .returned ()

/-- `onStopMonitor`, behind its deferred function.  Nothing recovers from a panic here. -/
def endSession (projectId : ℤ) (calls : StopCalls) : MonitorFunc Unit := do
  match ← getInternalState projectId with
  | none => fail .stopMonitorNotRunning
  | some originInternalState =>
    if !isMonitoringOrReloading (some originInternalState) then fail .stopMonitorNotRunning
    else
      setInternalState projectId .stopping
      call calls.getNMManager fun _ => do
        setInternalState projectId originInternalState
        fail (.errorf ⟨"Failed to stop monitor", []⟩)
      -- a `StopMonitor` that answers false has stopped all the same
      call calls.stopMonitor nofun
      call calls.unSubscribe nofun
      call calls.waitAndClose nofun
      setInternalState projectId .stopped

/-- The deferred function of `onStopMonitor`.  After a panic `returnErr` is nil. -/
def endStop (projectId : ℤ) (projectStatus : Core.ProjectStatus) (calls : StopCalls) :
    Ending MonitorError Unit → MonitorFunc Unit
  | .returned _ | .failed .stopMonitorNotRunning | .panicked =>
    if projectStatus = .monitoring then
      updateProjectStatus projectId .idle calls.updateIdle
        "Failed to update project(%v) status to Idle: %v"
    else ret ()
  | .failed _ => ret ()

/-- `onStopMonitor` -/
def onStopMonitor (projectId : ℤ) (calls : StopCalls) : MonitorFunc Unit := do
  let projectStatus ← getProjectInfo projectId calls.getProjectInfo
  deferring (endSession projectId calls) (endStop projectId projectStatus calls)

/-- `Stop` -/
def stop (projectId : ℤ) (tryLock : TryLock) (calls : StopCalls) : MonitorFunc Unit :=
  if projectId ≤ 0 then fail (.errorf ⟨"invalid project ID: %d", [.int projectId]⟩)
  else
    match tryLock with
    | .acquired => onStopMonitor projectId calls
    | .busy (some .stopping) => fail .stopMonitorStopping
    | .busy _ => fail (.errorf ⟨"failed to stop monitor", []⟩)

/-! ### `hotReloadMonitorSettings` -/

/-- `hotReloadStatus` -/
inductive HotReloadStatus where
  | unknown
  | success
  | needToStop
  deriving DecidableEq

/-- What a call of `hotReloadMonitorSettings` meets. -/
structure HotReloadCalls where
  /-- `internalMutex.TryLock()` -/
  tryLock : Bool := true
  /-- `ctx.Err() != nil` -/
  ctxDone : Bool := false
  /-- `m.baselineCache != nil` -/
  hasBaseline : Bool := true
  /-- `newScanRangeSettings != nil` -/
  hasScanRanges : Bool := true
  getNMManager : Fallible := .returned ()
  updateFullProject : Fallible := .returned ()
  getProject : Fallible := .returned ()
  stopMonitor : Infallible := .returned ()
  reset : Infallible := .returned ()
  startMonitor : Fallible := .returned ()
  /-- What `onStopMonitor` meets, where it is called in the end. -/
  stop : StopCalls := {}

/-- A reload returns its status with its error, for the deferred function to find. -/
abbrev ReloadFunc := GoFunc (HotReloadStatus × MonitorError) MonitorState

/-- `return fmt.Errorf(…)` with the status set before. -/
def reloadFail {α : Type} (status : HotReloadStatus) (template : String)
    (args : List MessageArg := []) : ReloadFunc α :=
  fail (status, .errorf ⟨template, args⟩)

/-- `hotReloadMonitorSettings`, behind the deferred functions. -/
def reloadSession (projectId : ℤ) (calls : HotReloadCalls) : ReloadFunc HotReloadStatus := do
  if !calls.hasScanRanges then reloadFail .unknown "new scan range settings is nil"
  else if !isMonitoring (← getInternalState projectId) then
    reloadFail .unknown "Monitor is not running, cannot hot reload settings"
  else
    setInternalState projectId .reloading
    call calls.getNMManager fun _ => reloadFail .unknown "Failed to hot reload monitor settings"
    call calls.updateFullProject fun res => reloadFail .needToStop
      "Failed to update operation project info for project %d: %v" [.int projectId, .str res]
    call calls.getProject fun res => reloadFail .needToStop
      "Failed to get operation project info for project %d: %v" [.int projectId, .str res]
    call calls.stopMonitor nofun
    call calls.reset nofun
    call calls.startMonitor fun err => reloadFail .needToStop
      "Failed to start monitor during hot reload: %v" [.str err]
    setInternalState projectId .running
    return .success

/-- `reloadStatus`, as the deferred function finds it. -/
def reloadStatus : Ending (HotReloadStatus × MonitorError) HotReloadStatus → HotReloadStatus
  | .returned status => status
  | .failed (status, _) => status
  | .panicked => .unknown

/-- The deferred function of `hotReloadMonitorSettings`. -/
def endReload (projectId : ℤ) (originInternalState : InternalState) (calls : StopCalls)
    (ending : Ending (HotReloadStatus × MonitorError) HotReloadStatus) : MonitorFunc Unit :=
  match reloadStatus ending with
  | .unknown => setInternalState projectId originInternalState
  | .needToStop => do
    setInternalState projectId originInternalState
    onStopMonitor projectId calls
  | .success => ret ()

/-- `hotReloadMonitorSettings`.  A panic leaves `reloadStatus` as it was at first, and the
function returns nil. -/
def hotReloadMonitorSettings (projectId : ℤ) (calls : HotReloadCalls) :
    ReloadFunc HotReloadStatus := do
  if !calls.tryLock then
    reloadFail .unknown "cannot get internal lock to hot reload monitor settings"
  else if calls.ctxDone then
    reloadFail .unknown "Context is done, cannot hot reload monitor settings"
  else
    match ← getInternalState projectId with
    | none =>
      reloadFail .unknown
        "cannot get original internal state, cannot hot reload monitor settings"
    | some originInternalState =>
      if !calls.hasBaseline then
        reloadFail .unknown "baseline cache is nil, cannot hot reload monitor settings"
      else
        deferring (recovering (reloadSession projectId calls) (.returned .unknown))
          (endReload projectId originInternalState calls.stop)

/-! ### Calls and runs -/

/-- A call, with what it meets. -/
inductive MonitorCall where
  | start (projectId : ℤ) (calls : StartCalls)
  | stop (projectId : ℤ) (tryLock : TryLock) (calls : StopCalls)
  | hotReload (projectId : ℤ) (calls : HotReloadCalls)

/-- The state a call leaves. -/
def MonitorCall.after (m : MonitorState) : MonitorCall → MonitorState
  | .start projectId calls => (Monitor.start projectId calls m).state
  | .stop projectId tryLock calls => (Monitor.stop projectId tryLock calls m).state
  | .hotReload projectId calls => (hotReloadMonitorSettings projectId calls m).state

/-- The states a call passes through. -/
def MonitorCall.visited (m : MonitorState) : MonitorCall → List MonitorState
  | .start projectId calls => (Monitor.start projectId calls m).visited
  | .stop projectId tryLock calls => (Monitor.stop projectId tryLock calls m).visited
  | .hotReload projectId calls => (hotReloadMonitorSettings projectId calls m).visited

/-- A start walks the internal states there are. -/
def MonitorCall.Walks (m : MonitorState) : MonitorCall → Prop
  | .start _ calls => m.internalStateMap.Ranges calls.order
  | _ => True

/-- One call, from a state in which none is in progress to the next such state. -/
def MonitorStep (m : MonitorState) (called : MonitorCall) (next : MonitorState) : Prop :=
  called.Walks m ∧ next = called.after m
/-! ### What the states are to be like -/

/-- The project is being monitored, or on the way there or back. -/
def Active (m : MonitorState) (p : ℤ) : Prop :=
  ∃ state, m.internalStateMap p = some state ∧ state ≠ .stopped

/-- At most one project's internal state is different from `Stopped`. -/
def AtMostOneActive (m : MonitorState) : Prop := ∀ p q, Active m p → Active m q → p = q

/-- Every internal state is `Stopped` or `Running`. -/
def Settled (m : MonitorState) : Prop :=
  ∀ p state, m.internalStateMap p = some state → state = .stopped ∨ state = .running

/-- A project is `Monitoring` in core exactly when its internal state is `Running`. -/
def InStep (m : MonitorState) : Prop :=
  ∀ p, m.projectStatus p = .monitoring ↔ m.internalStateMap p = some .running

/-- A monitor that has just been made, with a core in which no project is monitored. -/
structure Fresh (m : MonitorState) : Prop where
  internalStateMap : m.internalStateMap = .empty
  projectStatus : ∀ p, m.projectStatus p ≠ .monitoring

/-- The updates of the status in core succeed, where the call makes them. -/
def MonitorCall.UpdatesSucceed : MonitorCall → Prop
  | .start _ calls => calls.updateMonitoring = .returned () ∧ calls.updateIdle = .returned ()
  | .stop _ _ calls => calls.updateIdle = .returned ()
  | .hotReload _ calls => calls.stop.updateIdle = .returned ()

/-- **What is asked of a run**: at most one project is active, in the states a call passes
through as well; between calls every project is stopped or running; and, when core's updates
succeed, its statuses are in step. -/
structure Lifecycle (m : MonitorState) (run : List (MonitorCall × MonitorState)) : Prop where
  atMostOne : ∀ t ∈ statesOfRun m run, AtMostOneActive t
  visited : Along (fun m called _ => ∀ t ∈ called.visited m, AtMostOneActive t) m run
  settled : ∀ t ∈ statesOfRun m run, Settled t
  inStep : Along (fun _ called _ => called.UpdatesSucceed) m run →
    ∀ t ∈ statesOfRun m run, InStep t

/-! ### When a call strands a project -/

/-- `onStopMonitor` panics between `Stopping` and `Stopped`. -/
def StopCalls.PanicsInside (calls : StopCalls) : Prop :=
  calls.getNMManager = .panicked ∨ calls.getNMManager = .returned () ∧
    (calls.stopMonitor = .panicked ∨ calls.unSubscribe = .panicked ∨
      calls.waitAndClose = .panicked)

/-- `onStopMonitor` comes to stop the project's monitor and panics while it does. -/
def StopCalls.Strands (m : MonitorState) (projectId : ℤ) (calls : StopCalls) : Prop :=
  calls.getProjectInfo = .returned () ∧
    isMonitoringOrReloading (m.internalStateMap projectId) = true ∧ calls.PanicsInside

/-- A reload of a running monitor that gives it up: the project cannot be written to core or
read back, or the network manager does not start again. -/
def HotReloadCalls.NeedsToStop (calls : HotReloadCalls) : Prop :=
  (calls.tryLock = true ∧ calls.ctxDone = false ∧ calls.hasBaseline = true ∧
    calls.hasScanRanges = true) ∧ calls.getNMManager = .returned () ∧
    ((∃ res, calls.updateFullProject = .failed res) ∨
      calls.updateFullProject = .returned () ∧
        ((∃ res, calls.getProject = .failed res) ∨
          calls.getProject = .returned () ∧ calls.stopMonitor = .returned () ∧
            calls.reset = .returned () ∧ ∃ err, calls.startMonitor = .failed err))

/-- **The call leaves the project in `Stopping`**: it comes to stop a running monitor, and
something panics behind `Stopping`. -/
def MonitorCall.Strands (m : MonitorState) : MonitorCall → Prop
  | .start _ _ => False
  | .stop projectId tryLock calls =>
    0 < projectId ∧ tryLock = .acquired ∧ calls.Strands m projectId
  | .hotReload projectId calls =>
    isMonitoring (m.internalStateMap projectId) = true ∧ calls.NeedsToStop ∧
      calls.stop.Strands m projectId

end Monitor
end Sebastian

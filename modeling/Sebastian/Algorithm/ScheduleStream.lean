/-
# `ActScheduleStream`

Scheduling one stream (`algorithm/src/act_schedule_stream.cpp`).

`ComputeScheduleStreamRouting` sends one sequence of the stream: from a priority
queue it takes the frame of least cost, places it on its interface, and pushes a
copy for every interface of the next device, until the queue is empty.
`ComputeScheduleStream` does that for every sequence of the cycle, and starts
over at a later transmit offset when a frame would meet another stream in a
queue.  `GenerateScheduleStreamRouting` then follows the receptions back to the
talker and stores the frames of these paths only.

`judge` is the sequence of checks a frame goes through, `routingBody` a round of
the search, `streamBody` a round of the loop over the sequences.
-/

import Sebastian.Algorithm.Feasibility
import Sebastian.Algorithm.Isolation

namespace Sebastian
namespace Algorithm

open Feasibility

/-- `ActScheduleStream` -/
structure ScheduleStream where
  streamId : ℤ := -1
  queueId : UInt8 := 0
  priorityCodePoint : UInt8 := 0
  transmitOffset : ℤ := 0
  sequenceId : ℤ := 0
  interval : ℤ := 1000000
  cycleTime : ℤ := 1000000

namespace ScheduleStream

/-- `SetScheduleStream` -/
def setScheduleStream (streamId : ℤ) (queueId priorityCodePoint : UInt8)
    (transmitOffset interval cycleTime : ℤ) : ScheduleStream :=
  { streamId := streamId
    queueId := queueId
    priorityCodePoint := priorityCodePoint
    transmitOffset := transmitOffset
    sequenceId := 0
    interval := interval
    cycleTime := cycleTime }

/-- `GenerateTransmitOffset` -/
def generateTransmitOffset (stream : ScheduleStream) : ℤ :=
  stream.transmitOffset + stream.interval * stream.sequenceId

end ScheduleStream

/-! ### `ComputeScheduleStreamRouting` -/

/-- The search: the frames that wait, the last frame id, and what it changes. -/
structure RoutingState (lib : Library) where
  queue : (lib.queue Frame.cost).Carrier
  frameId : ℤ
  config : ScheduleConfig
  result : ScheduleResult
  isListenerArrived : Bool
  errorMsg : Status

/-- What the checks before the placement make of a frame. -/
inductive Verdict where
  /-- The frame has arrived at a listener, in time. -/
  | receive
  /-- The frame is dropped, and the error is kept. -/
  | refuse (errorMsg : Status) (result : ScheduleResult)
  /-- The frame is dropped without an error. -/
  | skip
  /-- The frame is placed in this schedule. -/
  | place (result : ScheduleResult)
  /-- A feature is read that is not initialised. -/
  | undefined

/-- A frame has arrived at a listener of its stream. -/
def hasArrived (config : ScheduleConfig) (stream : ScheduleStream) (frame : Frame) : Bool :=
  config.isListenerArrived stream.streamId frame.deviceId frame.ingressInterfaceId
    frame.egressInterfaceId frame.linkId

/-- The configuration after the checks of a frame: the interface of a frame that
has not arrived is asked for. -/
def touched (config : ScheduleConfig) (stream : ScheduleStream) (frame : Frame) : ScheduleConfig :=
  if hasArrived config stream frame then config
  else config.touchInterface frame.deviceId frame.egressInterfaceId

/-- The checks of a frame up to its placement. -/
def judge (config : ScheduleConfig) (stream : ScheduleStream) (result : ScheduleResult)
    (frame : Frame) : Verdict :=
  if hasArrived config stream frame then
    if (checkReceiveOffset frame config).isSuccess then .receive
    else .refuse (checkReceiveOffset frame config) result
  else if !(checkRoutingPathDuplicated frame config).isSuccess then .skip
  else
    match checkDeviceFeature frame config with
    | none => .undefined
    | some status =>
      if !status.isSuccess then .skip
      else
        let (status, result) := checkGateControlListLength frame result config
        if !status.isSuccess then .refuse status result else .place result

/-- The frame as it reaches the next device, before it is given an egress interface. -/
def nextFrame (config : ScheduleConfig) (totalDelay : ℤ) (frame : Frame) : Frame :=
  let interface := config.getScheduleConfigInterface frame.deviceId frame.egressInterfaceId
  { frame with
    deviceId := interface.connectDeviceId
    ingressInterfaceId := interface.connectInterfaceId
    prevFrameId := frame.frameId
    prevDeviceId := frame.deviceId
    prevInterfaceId := frame.egressInterfaceId
    prevLinkId := frame.linkId
    enqueueTime := frame.dequeueTime + totalDelay
    dequeueTime := frame.dequeueTime + totalDelay
    cost := frame.cost + (frame.dequeueTime - frame.enqueueTime) + totalDelay
    paths := frame.paths ++ [frame.deviceId] }

/-- The copy of a frame for one interface of the device it reached. -/
def childFrame (next : Frame) (interface : ScheduleConfigInterface) (duration frameId : ℤ) :
    Frame :=
  { next with
    frameId := frameId
    egressInterfaceId := interface.interfaceId
    linkId := interface.linkId
    duration := duration }

/-- One round of the loop over the interfaces of the next device. -/
def pushFrame {lib : Library} (config : ScheduleConfig) (next : Frame)
    (acc : (lib.queue Frame.cost).Carrier × ℤ) (interface : ScheduleConfigInterface) :
    Option ((lib.queue Frame.cost).Carrier × ℤ) := do
  let duration ← config.computeStreamDuration next.streamId interface.linkId
  return ((lib.queue Frame.cost).push acc.1 (childFrame next interface duration (acc.2 + 1)),
    acc.2 + 1)

/-- A placed frame is stored, and copies of it go to the next device. -/
def forwardFrame {lib : Library} (s : RoutingState lib) (frame : Frame) :
    Option (RoutingState lib) := do
  let totalDelay ← s.config.computeTotalDelay frame.deviceId frame.egressInterfaceId frame.streamId
  let next := nextFrame s.config totalDelay frame
  let interfaces := (s.config.getScheduleConfigDevice next.deviceId).scheduleConfigInterfaces.vals
  let (queue, frameId) ← List.foldlM (pushFrame s.config next) (s.queue, s.frameId) interfaces
  return { s with queue := queue, frameId := frameId, result := s.result.setScheduleResult frame }

/-- How the search ends: its status, the stream with its transmit offset, the
configuration and the schedule. -/
abbrev RoutingExit := Status × ScheduleStream × ScheduleConfig × ScheduleResult

/-- A frame that passed the first checks is placed.  Should the stream start
later, the search is left. -/
def placeFrame {lib : Library} (stream : ScheduleStream) (s : RoutingState lib) (frame : Frame) :
    Iter (RoutingState lib) RoutingExit :=
  let frame := considerLinkIsolation lib s.result stream.cycleTime s.config.reserveTime frame
  let offset := considerQueueIsolation lib s.result frame
  if offset ≠ 0 then
    .done (.schedulingFailed
      ⟨"Consider queue isolation, modify transmit offset from %1 to %2",
        [.int stream.transmitOffset, .int (stream.transmitOffset + offset)]⟩,
      { stream with transmitOffset := stream.transmitOffset + offset }, s.config, s.result)
  else
    match checkQueueSize frame s.result s.config with
    | none => .stuck
    | some (status, result) =>
      if !status.isSuccess then .next { s with result := result, errorMsg := status }
      else
        match forwardFrame { s with result := result } frame with
        | none => .stuck
        | some s => .next s

/-- One round of the `while` loop of `ComputeScheduleStreamRouting`. -/
def routingBody (lib : Library) (stream : ScheduleStream) (s : RoutingState lib) :
    Iter (RoutingState lib) RoutingExit :=
  match (lib.queue Frame.cost).pop s.queue with
  | none => .done (if s.isListenerArrived then .success else s.errorMsg, stream, s.config, s.result)
  | some (frame, queue) =>
    let config := touched s.config stream frame
    match judge s.config stream s.result frame with
    | .receive =>
      .next { s with
        queue := queue
        config := config
        result := s.result.setScheduleResult frame
        isListenerArrived := true }
    | .refuse errorMsg result =>
      .next { s with queue := queue, config := config, result := result, errorMsg := errorMsg }
    | .skip => .next { s with queue := queue, config := config }
    | .place result =>
      placeFrame stream { s with queue := queue, config := config, result := result } frame
    | .undefined => .stuck

/-- The frame the talker sends. -/
def talkerFrame (config : ScheduleConfig) (stream : ScheduleStream) (duration : ℤ) : Frame :=
  let talker := (config.getScheduleConfigStream stream.streamId).talker
  { deviceId := talker.deviceId
    egressInterfaceId := talker.interfaceId
    linkId := talker.linkId
    queueId := stream.queueId
    streamId := stream.streamId
    sequenceId := stream.sequenceId
    frameId := 0
    priorityCodePoint := stream.priorityCodePoint
    enqueueTime := stream.transmitOffset
    dequeueTime := stream.transmitOffset
    duration := duration }

/-- The search before its first round. -/
def routingInit (lib : Library) (config : ScheduleConfig) (stream : ScheduleStream)
    (result : ScheduleResult) : Option (RoutingState lib) := do
  let talker := (config.getScheduleConfigStream stream.streamId).talker
  let duration ← config.computeStreamDuration stream.streamId talker.linkId
  let queue := lib.queue Frame.cost
  return {
    queue := queue.push queue.empty (talkerFrame config stream duration)
    frameId := 0
    config := config
    result := result
    isListenerArrived := false
    errorMsg := .success }

/-- `ComputeScheduleStreamRouting` -/
def computeScheduleStreamRouting (lib : Library) (fuel : ℕ) (config : ScheduleConfig)
    (stream : ScheduleStream) (result : ScheduleResult) : Option RoutingExit := do
  let s ← routingInit lib config stream result
  Loop.run (routingBody lib stream) fuel s

/-! ### `GenerateScheduleStreamRouting` -/

/-- What is collected on the way from the receptions back to the talker. -/
structure TraceState where
  vlanId : UInt16
  /-- Per device and egress interface; it is kept for all listeners. -/
  vlanMap : QMap ℤ (QMap ℤ UInt16)
  frameMap : QMap ℤ (QSet Frame) := ∅
  /-- Per device, the egress interfaces. -/
  txMap : QMap ℤ (QSet ℤ) := ∅
  /-- Per device, the ingress interfaces. -/
  rxMap : QMap ℤ (QSet ℤ) := ∅

/-- A frame is met on the way. -/
def TraceState.meet (streamVlanId : UInt16) (t : TraceState) (frame : Frame) : TraceState :=
  let vlans := t.vlanMap.value frame.deviceId
  { vlanId :=
      if !vlans.contains frame.egressInterfaceId then t.vlanId
      else if vlans.value frame.egressInterfaceId ≠ streamVlanId then
        vlans.value frame.egressInterfaceId
      else t.vlanId
    vlanMap :=
      t.vlanMap.update frame.deviceId fun vlans =>
        if !vlans.contains frame.egressInterfaceId then
          vlans.insert frame.egressInterfaceId t.vlanId
        else vlans
    frameMap := t.frameMap.update frame.deviceId (·.insert frame)
    txMap := t.txMap.update frame.deviceId (·.insert frame.egressInterfaceId)
    rxMap := t.rxMap.update frame.deviceId (·.insert frame.ingressInterfaceId) }

/-- One round of the way back to the talker. -/
def traceBody (working : ScheduleResult) (stream : ScheduleConfigStream) :
    Frame × TraceState → Iter (Frame × TraceState) TraceState
  | (frame, t) =>
    if frame.deviceId ≠ stream.talker.deviceId then
      let prev := working.getFrame frame.prevKey
      .next (prev, t.meet stream.vlanId prev)
    else .done t

/-- The receptions of one sequence at a listener are followed back; without FRER
the first one only. -/
def traceFrames (fuel : ℕ) (working : ScheduleResult) (stream : ScheduleConfigStream)
    (splitVlanId : UInt16) (listener : ScheduleConfigInterface) :
    List Frame → TraceState → Option TraceState
  | [], t => some t
  | frame :: frames, t =>
    if frame.ingressInterfaceId ≠ listener.interfaceId then
      traceFrames fuel working stream splitVlanId listener frames t
    else do
      let t ← Loop.run (traceBody working stream) fuel (frame, t.meet stream.vlanId frame)
      if !stream.cbEnable then return t
      traceFrames fuel working stream splitVlanId listener frames
        { t with vlanId := if t.vlanId ≠ stream.vlanId then stream.vlanId else splitVlanId }

/-- The FRER type of the frames on a device. -/
def frerTypeOf (config : ScheduleConfig) (t : TraceState) (deviceId : ℤ) : Option FrerType :=
  let device := config.getScheduleConfigDevice deviceId
  if !device.prepared then none
  else if !device.cbEnable then some .undefined
  else if (t.txMap.value deviceId).length > 1 then some .split
  else if (t.rxMap.value deviceId).length > 1 then some .merge
  else some .forward

/-- The frames met on one device are stored. -/
def storeDevice (lib : Library) (config : ScheduleConfig) (t : TraceState)
    (result : ScheduleResult) (deviceId : ℤ) : Option ScheduleResult := do
  let frerType ← frerTypeOf config t deviceId
  return (lib.walk (t.frameMap.value deviceId)).foldl (fun result frame =>
    result.setScheduleResult { frame with
      vlanId := (t.vlanMap.value deviceId).value frame.egressInterfaceId
      frerType := frerType }) result

/-- One sequence at a listener. -/
def generateSequence (lib : Library) (fuel : ℕ) (config : ScheduleConfig)
    (stream : ScheduleConfigStream) (splitVlanId : UInt16) (working : ScheduleResult)
    (listener : ScheduleConfigInterface)
    (acc : QMap ℤ (QMap ℤ UInt16) × ScheduleResult) (sequence : ScheduleResultSequence) :
    Option (QMap ℤ (QMap ℤ UInt16) × ScheduleResult) := do
  let t ← traceFrames fuel working stream splitVlanId listener sequence.vals
    { vlanId := stream.vlanId, vlanMap := acc.1 }
  let result ← List.foldlM (storeDevice lib config t) acc.2 t.txMap.keys
  return (t.vlanMap, result)

/-- The loop over the listeners. -/
def generateListeners (lib : Library) (fuel : ℕ) (config : ScheduleConfig)
    (stream : ScheduleConfigStream) (queueId : UInt8) (streamId : ℤ) (splitVlanId : UInt16)
    (working : ScheduleResult) :
    List ScheduleConfigInterface → QMap ℤ (QMap ℤ UInt16) → ScheduleResult →
      Option (Status × ScheduleResult)
  | [], _, result => some (.success, result)
  | listener :: listeners, vlanMap, result => do
    let received := working.getStream listener.deviceId listener.interfaceId queueId streamId
    let (vlanMap, result) ← List.foldlM
      (generateSequence lib fuel config stream splitVlanId working listener)
      (vlanMap, result) received.vals
    if !result.isStreamExist listener.deviceId listener.interfaceId queueId streamId then
      return (.schedulingFailed
        ⟨"Stream %1 - Cannot find the routing path", [.str stream.streamName]⟩, result)
    generateListeners lib fuel config stream queueId streamId splitVlanId working listeners vlanMap
      result

/-- The VLAN that the second copies of a FRER stream are sent with. -/
def generateSplitVlan (fuel : ℕ) (config : ScheduleConfig) (stream : ScheduleConfigStream) :
    Option (Status × UInt16 × ScheduleConfigVLAN) :=
  if stream.cbEnable then
    config.scheduleConfigVLAN.generateSystemAssignVLAN fuel stream.destinationMac
  else some (.success, 0, config.scheduleConfigVLAN)

/-- `GenerateScheduleStreamRouting`, from the schedule `result` before the stream
and the schedule `working` of the search. -/
def generateScheduleStreamRouting (lib : Library) (fuel : ℕ) (config : ScheduleConfig)
    (stream : ScheduleStream) (result working : ScheduleResult) :
    Option (Status × ScheduleConfig × ScheduleResult) := do
  let configStream := config.getScheduleConfigStream stream.streamId
  let (status, splitVlanId, vlan) ← generateSplitVlan fuel config configStream
  let config := { config with scheduleConfigVLAN := vlan }
  if !status.isSuccess then return (status, config, result)
  let (status, result) ← generateListeners lib fuel config configStream stream.queueId
    stream.streamId splitVlanId working (lib.walk configStream.listeners) ∅ result
  return (status, config, result)

/-! ### `ComputeScheduleStream` -/

/-- The loop over the sequences: the stream with its transmit offset and sequence
id, and what the searches changed. -/
structure StreamState where
  stream : ScheduleStream
  config : ScheduleConfig
  result : ScheduleResult
  status : Status

/-- One round of the `while` loop of `ComputeScheduleStream`.  The loop is also
left by the returns inside it, none of which returns success. -/
def streamBody (lib : Library) (fuel : ℕ) (base : ScheduleResult) (s : StreamState) :
    Iter StreamState StreamState :=
  if s.stream.interval = 0 then .stuck
  else if s.stream.sequenceId < s.stream.cycleTime.tdiv s.stream.interval then
    let status := checkTransmitOffset (s.config.getScheduleConfigStream s.stream.streamId)
      s.stream.transmitOffset s.stream.interval s.stream.sequenceId
    if !status.isSuccess then .done { s with status := status }
    else
      match computeScheduleStreamRouting lib fuel s.config s.stream s.result with
      | none => .stuck
      | some (status, stream, config, result) =>
        if status.isFeasibilityCheckFailed then
          .done { stream := stream, config := config, result := result, status := status }
        else if !status.isSuccess then
          .next {
            stream := { stream with sequenceId := 0 }
            config := config
            result := base
            status := status }
        else
          .next {
            stream := { stream with sequenceId := stream.sequenceId + 1 }
            config := config
            result := result
            status := status }
  else .done s

/-- `ComputeScheduleStream` -/
def computeScheduleStream (lib : Library) (fuel : ℕ) (stream : ScheduleStream)
    (config : ScheduleConfig) (base : ScheduleResult) :
    Option (Status × ScheduleConfig × ScheduleResult) := do
  let s ← Loop.run (streamBody lib fuel base) fuel
    { stream := stream, config := config, result := base, status := .success }
  if !s.status.isSuccess then return (s.status, s.config, base)
  generateScheduleStreamRouting lib fuel s.config s.stream base s.result

end Algorithm
end Sebastian

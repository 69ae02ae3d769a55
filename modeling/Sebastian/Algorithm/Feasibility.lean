/-
# `ActScheduleFeasibility`

The checks of the scheduler (`algorithm/src/act_schedule_feasibility.cpp`).  Each
returns a status; the two that look into the schedule ask for a queue or a
stream of it through `operator[]`, so that it exists afterwards, and return the
schedule as well.  A check that reads a feature of a device that was never
prepared, or rounds a quotient by zero, is not defined.
-/

import Sebastian.Algorithm.ScheduleResult

namespace Sebastian
namespace Algorithm
namespace Feasibility

/-- `CheckTransmitOffset` -/
def checkTransmitOffset (stream : ScheduleConfigStream) (transmitOffset interval sequenceId : ℤ) :
    Status :=
  let offset := transmitOffset + interval * sequenceId
  if !(offset ≥ stream.earliestTransmitOffset + stream.jitter &&
      offset ≤ stream.latestTransmitOffset - stream.jitter) then
    if stream.keepPreviousResult then
      .feasibilityCheckFailed ⟨"Disable keep previous result and recompute", []⟩
    else
      .feasibilityCheckFailed
        ⟨"%7 - Transmit offset unavailable (EarliestTransmitOffset(%1 ns) + Jitter(%2 ns) <= " ++
          "TransmitOffset(%4 ns) + " ++
          "Interval(%5 ns) * %6 <= LatestTransmitOffset(%3 ns) - Jitter(%2 ns))",
          [.int stream.earliestTransmitOffset, .int stream.jitter,
            .int stream.latestTransmitOffset, .int transmitOffset, .int interval,
            .int sequenceId, .str stream.streamName]⟩
  else .success

/-- Nanoseconds to microseconds: `static_cast<qreal>(x) / 1000`. -/
def microseconds (x : ℤ) : ℚ := Binary64.round (Binary64.ofInt x / 1000)

/-- `CheckReceiveOffset` -/
def checkReceiveOffset (frame : Frame) (config : ScheduleConfig) : Status :=
  let stream := config.getScheduleConfigStream frame.streamId
  if frame.cost < stream.minReceiveOffset || frame.cost > stream.maxReceiveOffset then
    if stream.qosType = .bandwidth then
      .feasibilityCheckFailed ⟨"%1 - Stream interval need to modify larger than %2 us",
        [.str stream.streamName, .real ⌈microseconds frame.cost⌉]⟩
    else
      .feasibilityCheckFailed ⟨"%1 - Receive offset %2 us is out of range %3 ~ %4 us",
        [.str stream.streamName, .real (microseconds frame.cost),
          .real (microseconds stream.minReceiveOffset),
          .real (microseconds stream.maxReceiveOffset)]⟩
  else .success

/-- `CheckRoutingPathDuplicated` -/
def checkRoutingPathDuplicated (frame : Frame) (config : ScheduleConfig) : Status :=
  let interface := config.getScheduleConfigInterface frame.deviceId frame.egressInterfaceId
  if frame.paths.contains interface.connectDeviceId then
    .feasibilityCheckFailed ⟨"CheckRoutingPathDuplicated", []⟩
  else .success

/-- `CheckDeviceFeature` -/
def checkDeviceFeature (frame : Frame) (config : ScheduleConfig) : Option Status :=
  let stream := config.getScheduleConfigStream frame.streamId
  let device := config.getScheduleConfigDevice frame.deviceId
  if !device.prepared then none
  else if device.endStation then some .success
  else if stream.tsnEnable && !device.tsnEnable then
    some (.feasibilityCheckFailed
      ⟨"%1 - Check device %2 TSN not support", [.str stream.streamName, .str device.ipAddress]⟩)
  else if stream.cbEnable && !device.cbEnable then
    some (.feasibilityCheckFailed
      ⟨"%1 - Check device %2 CB not support", [.str stream.streamName, .str device.ipAddress]⟩)
  else some .success

/-- `CheckGateControlListLength`: twice the frames of the queue, and three.  The
counter is a `quint16`. -/
def checkGateControlListLength (frame : Frame) (result : ScheduleResult)
    (config : ScheduleConfig) : Status × ScheduleResult :=
  let stream := config.getScheduleConfigStream frame.streamId
  let device := config.getScheduleConfigDevice frame.deviceId
  if !stream.tsnEnable || !device.tsnEnable then (.success, result)
  else
    let queue := result.getQueue frame.deviceId frame.egressInterfaceId frame.queueId
    let length := UInt16.ofNat (ScheduleResult.framesOfQueue queue).length * 2 + 3
    let result := result.touchQueue frame.deviceId frame.egressInterfaceId frame.queueId
    if length > device.gateControlListLength then
      (.feasibilityCheckFailed
        ⟨"%1 - Check gate control list length %5 too large on device(%2) port(%3) queue(%4).",
          [.str stream.streamName, .str device.ipAddress, .int frame.egressInterfaceId,
            .int frame.queueId.toNat, .int length.toNat]⟩, result)
    else (.success, result)

/-- What a frame of the same stream adds to the queue while `frame` waits in it,
in bits. -/
def queueShare (payload : ℤ) (frame other : Frame) : Option ℤ :=
  if frame.enqueueTime ≥ other.stopTime then some 0
  else if frame.stopTime ≤ other.enqueueTime then some 0
  else if other.dequeueTime < other.enqueueTime + other.duration then do
    let share ← Binary64.div
      (Binary64.mul (Binary64.ofInt payload)
        (Binary64.ofInt (other.dequeueTime - other.enqueueTime)))
      (Binary64.ofInt other.duration)
    Binary64.qCeil share
  else some payload

/-- All frames of a stream in a queue. -/
def framesOfStream (stream : ScheduleResultStream) : List Frame :=
  stream.vals.flatMap fun sequence => QMap.vals sequence

/-- `CheckQueueSize` -/
def checkQueueSize (frame : Frame) (result : ScheduleResult) (config : ScheduleConfig) :
    Option (Status × ScheduleResult) := do
  let stream := config.getScheduleConfigStream frame.streamId
  let device := config.getScheduleConfigDevice frame.deviceId
  if !stream.tsnEnable || !device.tsnEnable then return (.success, result)
  let frames := framesOfStream
    (result.getStream frame.deviceId frame.egressInterfaceId frame.queueId frame.streamId)
  let queueSize ← List.foldlM
    (fun size other => (queueShare stream.payload frame other).map (size + ·)) (0 : ℤ) frames
  let result :=
    result.touchStream frame.deviceId frame.egressInterfaceId frame.queueId frame.streamId
  if queueSize > device.perQueueSize.toNat * 8 then
    return (.feasibilityCheckFailed
      ⟨"%1 - Queue size %5 bytes is out of range %6 bytes on device(%2) port(%3) queue(%4)",
        [.str stream.streamName, .str device.ipAddress, .int frame.egressInterfaceId,
          .int frame.queueId.toNat, .int (queueSize.tdiv 8), .int device.perQueueSize.toNat]⟩,
      result)
  return (.success, result)

/-- `CheckRoutingResultFeasibility` -/
def checkRoutingResultFeasibility (routingResult : RoutingResult) : Status :=
  if routingResult.cb then
    if routingResult.routingPaths.any (·.redundantPaths.length < 2) then
      .feasibilityCheckFailed
        ⟨"%1 - CB stream needs redundant path. (1)Check whether the topology has a redundant " ++
          "path. (2)Check whether the received offset range in the application settings is valid.",
          [.str routingResult.streamName]⟩
    else .success
  else if routingResult.routingPaths.any (·.redundantPaths.length ≠ 1) then
    .feasibilityCheckFailed
      ⟨"%1 - Origin stream need only 1 path", [.str routingResult.streamName]⟩
  else .success

theorem lookup_checkGateControlListLength {frame : Frame} {result result' : ScheduleResult}
    {config : ScheduleConfig} {status : Status}
    (h : checkGateControlListLength frame result config = (status, result')) (key : FrameKey) :
    result'.lookup key = result.lookup key := by
  simp only [checkGateControlListLength] at h
  split_ifs at h <;> obtain ⟨-, rfl⟩ := Prod.mk.inj h <;> simp

/-- The check of the queue size changes nothing that is stored. -/
theorem lookup_checkQueueSize {frame : Frame} {result result' : ScheduleResult}
    {config : ScheduleConfig} {status : Status}
    (h : checkQueueSize frame result config = some (status, result')) (key : FrameKey) :
    result'.lookup key = result.lookup key := by
  simp only [checkQueueSize] at h
  split_ifs at h with htsn
  · obtain ⟨-, rfl⟩ := Prod.mk.inj (Option.some.inj h)
    rfl
  · obtain ⟨size, -, h⟩ := Option.bind_eq_some_iff.1 h
    split_ifs at h <;> obtain ⟨-, rfl⟩ := Prod.mk.inj (Option.some.inj h) <;> simp

end Feasibility
end Algorithm
end Sebastian

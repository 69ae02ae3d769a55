/-
# Checking a stream against the others

`CheckStream` (`core/src/act_core_stream.cpp`): what a stream must satisfy by itself, and that
it is in conflict with none of the other streams of the project.  Two streams are in conflict when
they have one destination and one VLAN (`duplicates`), or when the time in which one of them is
sent lies in the way of the other (`occupies`).

The first is the same for both orders of the two streams (`duplicates_comm`).  The second is not:
the stream under test has to be sent at a fixed offset, and takes the time from there to the end of
its transmission; the other one is in its way only if all the time in which *it* may be sent
lies in that window, both ends included.  So of two streams at fixed offsets the one that begins
first is the only one to notice the other (`streamOrder_iff`).
-/

import Mathlib
import Sebastian.Lib.Binary64
import Sebastian.Core.StreamStore

namespace Sebastian
namespace Core

open ExceptRule Bool Except

/-- How a check fails. -/
inductive CheckFailure where
  | status (status : Status)
  /-- In an operation that is not defined there. -/
  | undefined

/-- The check fails with this status where something is wrong. -/
def reject (wrong : Prop) [Decidable wrong] (status : Status) : Except CheckFailure Unit :=
  if wrong then .error (.status status) else .ok ()

/-- The part of a check that is not defined for every number. -/
def orUndefined {α : Type} : Option α → Except CheckFailure α
  | some a => .ok a
  | none => .error .undefined

/-- What the check of a stream calls on a MAC address. -/
structure MacServices where
  /-- `CheckMacAddress`: the message of the error, if there is one. -/
  checkMacAddress : String → Option String := fun _ => none
  /-- The first byte that `ParseMac` reads is odd. -/
  isMulticast : String → Bool := fun _ => true

/-! ### The stream by itself -/

/-- `QString::length()`, in units of 16 bits. -/
def qLength (s : String) : ℕ :=
  (s.toList.map fun c => if c.toNat < 0x10000 then 1 else 2).sum

/-- `GetAvailablePriorityCodePointsForTrafficType`.  The case of cyclic traffic runs on into the
one of time synchronization. -/
def getAvailablePriorityCodePointsForTrafficType (project : Project) :
    StreamTrafficType → Except CheckFailure (QSet UInt8)
  | .bestEffort =>
    .ok (QSet.unite [] project.trafficTypeToPriorityCodePointMapping.bestEffort)
  | .cyclic =>
    .ok (QSet.unite (QSet.unite [] project.trafficTypeToPriorityCodePointMapping.cyclic)
      project.trafficTypeToPriorityCodePointMapping.timeSync)
  | .timeSync => .ok (QSet.unite [] project.trafficTypeToPriorityCodePointMapping.timeSync)
  | .na => .error (.status (.internalError ⟨"Core", []⟩))

/-- The type, the name and the VLAN of the stream. -/
def checkStreamSetting (project : Project) (stream : Stream) : Except CheckFailure Unit := do
  reject (stream.streamTrafficType ≠ .cyclic)
    (.badRequest ⟨"Stream (%1) - Only support cyclic stream", [.str stream.streamName]⟩)
  reject (qLength stream.streamName < 1 ∨ qLength stream.streamName > 64)
    (.badRequest ⟨"Stream (%1) - The length of stream name should be %2 ~ %3 characters",
      [.str stream.streamName, .int 1, .int 64]⟩)
  if stream.userDefinedVlan then
    let tag ← stream.getUserDefinedVlan.mapError .status
    reject (tag.vlanId < project.vlanMin ∨ tag.vlanId > project.vlanMax)
      (.badRequest ⟨"Stream (%1) - The valid VLAN id should be %2 ~ %3, instead of %4",
        [.str stream.streamName, .int project.vlanMin.toNat, .int project.vlanMax.toNat,
          .int tag.vlanId.toNat]⟩)
    let available ← getAvailablePriorityCodePointsForTrafficType project stream.streamTrafficType
    reject (!available.contains tag.priorityCodePoint) (.badRequest
      ⟨"Stream (%1) - The priority code point %2 of the User-Defined VLAN is not supported",
        [.str stream.streamName, .int tag.priorityCodePoint.toNat]⟩)

/-- The device and the interface at an end of the stream. -/
def findStation (project : Project) (stream : Stream) (role : String)
    (notUsed : Interface → Message) (intf : Interface) :
    Except CheckFailure (Device × Interface) := do
  match project.getDeviceById intf.deviceId with
  | none => throw (.status (.badRequest ⟨"Stream (%1) - " ++ role ++ " %2 not found",
      [.str stream.streamName, .int intf.deviceId]⟩))
  | some device =>
    reject (device.deviceType ≠ .endStation ∧ device.deviceType ≠ .bridgedEndStation)
      (.badRequest ⟨"Stream (%1) - " ++ role ++ " %2 is not a valid device type",
        [.str stream.streamName, .str device.ipAddress]⟩)
    match device.interfaces.find? (·.interfaceId == intf.interfaceId) with
    | none => throw (.status (.badRequest ⟨"Stream (%1) - Device id %2 Interface id %3 not found",
        [.str stream.streamName, .int intf.deviceId, .int intf.interfaceId]⟩))
    | some found =>
      reject (!found.used) (.badRequest (notUsed found))
      return (device, found)

/-- The talker of the stream. -/
def findTalker (project : Project) (stream : Stream) : Except CheckFailure (Device × Interface) :=
  findStation project stream "Talker" (fun found =>
    ⟨"Stream (%1) - Talker interface %2 is not used",
      [.str stream.streamName, .str found.interfaceName]⟩) stream.talker.endStationInterface

/-- The link of the talker: of several, the last that is found. -/
def talkerLink (project : Project) (talker : Device × Interface) : Link :=
  List.foldl (fun found link =>
    if link.hasEndpoint talker.1.id talker.2.interfaceId then link else found) {} project.links

/-- `GetPayload`, in bits.  The products and sums of `quint32` wrap. -/
def getPayload (stream : Stream) (mediaSpecificOverheadBytes : UInt32) : Option UInt32 := do
  let spec := stream.talker.trafficSpecification
  let maxBytesPerInterval : UInt32 :=
    if spec.maxBytesPerInterval = 0 then spec.maxFrameSize * spec.maxFramesPerInterval
    else spec.maxBytesPerInterval
  let frames ← Binary64.div (Binary64.ofInt maxBytesPerInterval.toNat)
    (Binary64.ofInt spec.maxFrameSize.toNat)
  let maxFramesPerInterval ← Binary64.qCeil frames
  let overhead : UInt32 :=
    if stream.cbActive then mediaSpecificOverheadBytes + 6 else mediaSpecificOverheadBytes
  return (maxBytesPerInterval + overhead * UInt32.ofInt maxFramesPerInterval) * 8

/-- How long the stream takes on the link of its talker, in nanoseconds. -/
def streamDuration (project : Project) (talker : Device × Interface) (stream : Stream) :
    Option UInt32 := do
  let payload ← getPayload stream project.algorithmConfiguration.mediaSpecificOverheadBytes
  let seconds ← Binary64.div (Binary64.ofInt payload.toNat)
    (Binary64.ofInt ((talkerLink project talker).speed.toNat * 1000 * 1000))
  let duration ← Binary64.qCeil (Binary64.mul seconds (10 ^ 9))
  return UInt32.ofInt duration

/-- `GetStreamInterval`, in nanoseconds. -/
def getStreamInterval (stream : Stream) : Option UInt32 := do
  let seconds ← Binary64.div
    (Binary64.ofInt stream.talker.trafficSpecification.interval.numerator.toNat)
    (Binary64.ofInt stream.talker.trafficSpecification.interval.denominator.toNat)
  let interval ← Binary64.qCeil (Binary64.mul seconds (10 ^ 9))
  return UInt32.ofInt interval

/-- The stream fits into its interval. -/
def checkInterval (stream : Stream) (duration interval : UInt32) : Except CheckFailure Unit := do
  let timeAware := stream.talker.trafficSpecification.timeAware
  reject (interval < duration) (.feasibilityCheckFailed
    ⟨"Stream (%1) - The interval %2 ns is smaller than duration %3 ns",
      [.str stream.streamName, .int interval.toNat, .int duration.toNat]⟩)
  reject (timeAware.latestTransmitOffset > interval) (.feasibilityCheckFailed
    ⟨"Stream (%1) - The latest transmit offset %2 ns is too big to transmit within interval %3 ns",
      [.str stream.streamName, .int timeAware.latestTransmitOffset.toNat, .int interval.toNat]⟩)
  -- the interval of the talker's capability is read from the stream once more
  let capability ← orUndefined (getStreamInterval stream)
  reject (interval > capability) (.badRequest
    ⟨"Stream (%1) - The interval %2 ns exceeds talker capability %3 ns",
      [.str stream.streamName, .int interval.toNat, .int capability.toNat]⟩)
  reject (interval < 30000 ∨ interval > 999999999) (.badRequest
    ⟨"Stream (%1) - The interval %2 should be %3 ~ %4 ns",
      [.str stream.streamName, .int interval.toNat, .int 30000, .int 999999999]⟩)

/-- The frames are what the talker can send. -/
def checkFrames (stream : Stream) (capability : TrafficSpecification) :
    Except CheckFailure Unit := do
  let spec := stream.talker.trafficSpecification
  reject (spec.maxFrameSize > capability.maxFrameSize) (.badRequest
    ⟨"Stream (%1) - The maximum frame size %2 bytes exceeds talker capability %3",
      [.str stream.streamName, .int spec.maxFrameSize.toNat, .int capability.maxFrameSize.toNat]⟩)
  reject (spec.maxFrameSize < 46 ∨ spec.maxFrameSize > 1500) (.badRequest
    ⟨"Stream (%1) - The maximum frame size %2 should be %3 ~ %4 bytes",
      [.str stream.streamName, .int spec.maxFrameSize.toNat, .int 46, .int 1500]⟩)
  reject (spec.maxFramesPerInterval > capability.maxFramesPerInterval) (.badRequest
    ⟨"Stream (%1) - The maximum frames per interval %2 exceeds talker capability %3",
      [.str stream.streamName, .int spec.maxFramesPerInterval.toNat,
        .int capability.maxFramesPerInterval.toNat]⟩)
  reject (spec.maxFramesPerInterval < 1 ∨ spec.maxFramesPerInterval > 65535) (.badRequest
    ⟨"Stream (%1) - The maximum frames per interval %2 should be %3 ~ %4",
      [.str stream.streamName, .int spec.maxFramesPerInterval.toNat, .int 1, .int 65535]⟩)

/-- The offsets are those at which the talker can send. -/
def checkOffsets (stream : Stream) (capability : TimeAware) : Except CheckFailure Unit := do
  let timeAware := stream.talker.trafficSpecification.timeAware
  reject (timeAware.earliestTransmitOffset > capability.earliestTransmitOffset) (.badRequest
    ⟨"Stream (%1) - The earliest transmit offset %2 ns exceeds talker capability %3 ns",
      [.str stream.streamName, .int timeAware.earliestTransmitOffset.toNat,
        .int capability.earliestTransmitOffset.toNat]⟩)
  reject (timeAware.earliestTransmitOffset > 999999999) (.badRequest
    ⟨"Stream (%1) - The earliest transmit offset %2 should be %3 ~ %4 ns",
      [.str stream.streamName, .int timeAware.earliestTransmitOffset.toNat, .int 0,
        .int 999999999]⟩)
  reject (timeAware.latestTransmitOffset > capability.latestTransmitOffset) (.badRequest
    ⟨"Stream (%1) - The latest transmit offset %2 ns exceeds talker capability %3 ns",
      [.str stream.streamName, .int timeAware.latestTransmitOffset.toNat,
        .int capability.latestTransmitOffset.toNat]⟩)
  reject (timeAware.latestTransmitOffset > 999999999) (.badRequest
    ⟨"Stream (%1) - The latest transmit offset %2 should be %3 ~ %4 ns",
      [.str stream.streamName, .int timeAware.latestTransmitOffset.toNat, .int 0, .int 999999999]⟩)
  reject (timeAware.latestTransmitOffset < timeAware.earliestTransmitOffset) (.badRequest
    ⟨"Stream (%1) - The latest transmit offset %2 ns is smaller than " ++
      "the earliest receive offset %3 ns",
      [.str stream.streamName, .int timeAware.latestTransmitOffset.toNat,
        .int timeAware.earliestTransmitOffset.toNat]⟩)
  reject (timeAware.jitter > capability.jitter) (.badRequest
    ⟨"Stream (%1) - The jitter %2 ns exceeds talker capability %3 ns",
      [.str stream.streamName, .int timeAware.jitter.toNat, .int capability.jitter.toNat]⟩)
  let jitterMax := (timeAware.latestTransmitOffset - timeAware.earliestTransmitOffset) / 2
  reject (timeAware.jitter > jitterMax) (.badRequest
    ⟨"Stream (%1) - The jitter %2 should be %3 ~ %4 ns",
      [.str stream.streamName, .int timeAware.jitter.toNat, .int 0, .int jitterMax.toNat]⟩)

/-- One listener. -/
def checkListener (project : Project) (stream : Stream) (talker : Interface)
    (listener : Listener) : Except CheckFailure Unit := do
  let req := listener.userToNetworkRequirement
  reject (stream.qosType = .deadline ∧ (req.maxLatency < 1000 ∨ req.maxLatency > 999999999))
    (.badRequest ⟨"Stream (%1) - The maximum latency %2 should be %3 ~ %4 ns",
      [.str stream.streamName, .int req.maxLatency.toNat, .int 1000, .int 999999999]⟩)
  reject (stream.qosType = .boundedLatency ∧
      (req.minReceiveOffset < 1 ∨ (req.minReceiveOffset.toNat : ℚ) > 999999.999))
    (.badRequest ⟨"Stream (%1) - The minimum receive offset %2 should be %3 ~ %4 ns",
      [.str stream.streamName, .int req.minReceiveOffset.toNat, .int 1, .real 999999.999]⟩)
  reject (stream.qosType = .boundedLatency ∧
      (req.maxReceiveOffset < 1 ∨ (req.maxReceiveOffset.toNat : ℚ) > 999999.999))
    (.badRequest ⟨"Stream (%1) - The maximum receive offset %2 should be %3 ~ %4 ns",
      [.str stream.streamName, .int req.maxReceiveOffset.toNat, .int 1, .real 999999.999]⟩)
  reject (stream.qosType = .boundedLatency ∧ req.maxReceiveOffset < req.minReceiveOffset)
    (.badRequest
      ⟨"Stream (%1) - The maximum receive offset %2 is smaller than minimum receive offset %3",
      [.str stream.streamName, .int req.maxReceiveOffset.toNat, .int req.minReceiveOffset.toNat]⟩)
  let (_, found) ← findStation project stream "Listener" (fun _ =>
    ⟨"Stream (%1) - Listener interface id %2 is not used",
      [.str stream.streamName, .int listener.endStationInterface.interfaceId]⟩)
    listener.endStationInterface
  reject (talker.interfaceId = found.interfaceId ∧ talker.deviceId = found.deviceId)
    (.badRequest ⟨"Stream (%1) - talker & listener are the same", [.str stream.streamName]⟩)

/-- The destination address; the one of a multicast stream has to be a multicast address. -/
def checkDestination (services : MacServices) (stream : Stream) : Except CheckFailure String := do
  let da ← stream.getDAFromStream.mapError .status
  if stream.multicast then
    match services.checkMacAddress da with
    | some message => throw (.status (.badRequest
        ⟨"Stream (%1) - Check DA failed - %2", [.str stream.streamName, .str message]⟩))
    | none =>
      reject (!services.isMulticast da) (.badRequest
        ⟨"Project (%1) - The MAC address %2 is not a valid multicast format",
          [.str stream.streamName, .str da]⟩)
  return da

/-- What `CheckStream` asks of the stream by itself; its duration and its destination. -/
def checkAlone (services : MacServices) (project : Project) (stream : Stream) :
    Except CheckFailure (UInt32 × String) := do
  checkStreamSetting project stream
  let talker ← findTalker project stream
  let duration ← orUndefined (streamDuration project talker stream)
  let interval ← orUndefined (getStreamInterval stream)
  checkInterval stream duration interval
  checkFrames stream talker.1.deviceProperty.trafficSpecification
  checkOffsets stream talker.1.deviceProperty.trafficSpecification.timeAware
  reject (stream.listeners.length = 0) (.badRequest
    ⟨"Stream (%1) - There should be at least one listener", [.str stream.streamName]⟩)
  stream.listeners.forM (checkListener project stream talker.2)
  let da ← checkDestination services stream
  return (duration, da)

/-! ### The stream and the others -/

/-- The stream is sent at one offset. -/
def hasFixedOffset (stream : Stream) : Bool :=
  stream.talker.trafficSpecification.timeAware.earliestTransmitOffset ==
    stream.talker.trafficSpecification.timeAware.latestTransmitOffset

/-- All the time in which the other stream may be sent lies in the time that this one occupies. -/
def occupies (stream : Stream) (duration : UInt32) (other : Stream) : Bool :=
  let timeAware := stream.talker.trafficSpecification.timeAware
  let otherTimeAware := other.talker.trafficSpecification.timeAware
  hasFixedOffset stream && other.talker == stream.talker &&
    (otherTimeAware.earliestTransmitOffset ≥ timeAware.earliestTransmitOffset &&
      otherTimeAware.latestTransmitOffset ≤ timeAware.earliestTransmitOffset + duration)

/-- The VLAN that counts: none, if the stream is untagged and the user did not define it. -/
def vlanOf (stream : Stream) : UInt16 :=
  if !stream.userDefinedVlan && !stream.tagged then 0 else stream.vlanId

/-- The priority is set for the stream at its port. -/
def isPerStreamPriority (stream : Stream) : Bool :=
  !stream.tagged && stream.untaggedMode == .perStreamPriority && !stream.userDefinedVlan

/-- `ACT_FAKE_MAC_ADDRESS` -/
def fakeMacAddress : String := "00-00-00-00-00-00"

/-- The streams have one VLAN and one destination. -/
def duplicates (stream : Stream) (da : String) (other : Stream) (otherDa : String) : Bool :=
  if da == fakeMacAddress then false
  else if da != otherDa then false
  else if vlanOf stream != vlanOf other then false
  else if isPerStreamPriority stream || isPerStreamPriority other then false
  else if !stream.userDefinedVlan && !other.userDefinedVlan &&
      (stream.talker.endStationInterface.deviceId != other.talker.endStationInterface.deviceId ||
        stream.talker.endStationInterface.interfaceId !=
          other.talker.endStationInterface.interfaceId) then false
  else true

/-- One other stream in `CheckStream`. -/
def checkConflict (stream : Stream) (duration : UInt32) (da : String) (checkFeasibility : Bool)
    (other : Stream) : Except CheckFailure Unit :=
  if other.id = stream.id then .ok ()
  else do
    let offset := stream.talker.trafficSpecification.timeAware.earliestTransmitOffset
    reject (checkFeasibility && occupies stream duration other) (.feasibilityCheckFailed
      ⟨"Stream (%1) - The transmission offset will occupy %2 ~ %3, which will be " ++
        "overlapped with Stream (%4)", [.str stream.streamName, .int offset.toNat,
          .int (offset + duration).toNat, .str other.streamName]⟩)
    let otherDa ← other.getDAFromStream.mapError .status
    reject (duplicates stream da other otherDa) (.badRequest
      ⟨"Stream (%1) - VID(%2) + DA(%3) is duplicated with Stream (%4)",
        [.str stream.streamName, .int (vlanOf stream).toNat, .str da, .str other.streamName]⟩)

/-- `CheckStream` -/
def checkStream (services : MacServices) (project : Project) (stream : Stream)
    (checkFeasibility : Bool) : Except CheckFailure Unit := do
  let (duration, da) ← checkAlone services project stream
  project.streams.forM (checkConflict stream duration da checkFeasibility)

/-! ### When a stream is accepted -/

variable {services : MacServices} {project : Project} {a b : Stream} {d d' : UInt32}
  {da da' : String}

@[simp] theorem reject_eq_ok {wrong : Prop} [Decidable wrong] {status : Status} :
    reject wrong status = .ok () ↔ ¬wrong := by
  unfold reject
  split_ifs with h
  · exact iff_of_false nofun fun hno => hno h
  · exact iff_of_true rfl h

theorem orUndefined_eq_ok {α : Type} {x : Option α} {y : α} :
    orUndefined x = .ok y ↔ x = some y := by
  cases x with
  | none => exact iff_of_false nofun nofun
  | some x => exact ⟨fun h => congrArg some (ok.inj h), fun h => by cases h; rfl⟩

/-- How long the stream takes in the project. -/
def Lasts (project : Project) (stream : Stream) (duration : UInt32) : Prop :=
  ∃ talker, findTalker project stream = .ok talker ∧
    streamDuration project talker stream = some duration

/-- The offset at which the stream may be sent first. -/
abbrev earliest (stream : Stream) : ℕ :=
  stream.talker.trafficSpecification.timeAware.earliestTransmitOffset.toNat

/-- The offset at which the stream may be sent last. -/
abbrev latest (stream : Stream) : ℕ :=
  stream.talker.trafficSpecification.timeAware.latestTransmitOffset.toNat

theorem checkInterval_ok {interval : UInt32} (h : checkInterval a d interval = .ok ()) :
    d.toNat ≤ 999999999 ∧ latest a ≤ 999999999 := by
  obtain ⟨⟨⟩, hdur, h⟩ := exists_of_bind h
  obtain ⟨⟨⟩, hlatest, h⟩ := exists_of_bind h
  obtain ⟨_, -, h⟩ := exists_of_bind h
  obtain ⟨⟨⟩, -, h⟩ := exists_of_bind h
  rw [reject_eq_ok] at hdur hlatest h
  have hmax : ¬interval > 999999999 := fun hmax => h (.inr hmax)
  rw [UInt32.lt_iff_toNat_lt] at hdur
  rw [gt_iff_lt, UInt32.lt_iff_toNat_lt] at hlatest hmax
  have hnumber : (999999999 : UInt32).toNat = 999999999 := rfl
  unfold latest
  omega

/-- What passes the check of the offsets is sent first before it is sent last. -/
theorem checkOffsets_ok {capability : TimeAware} (h : checkOffsets a capability = .ok ()) :
    earliest a ≤ latest a := by
  obtain ⟨⟨⟩, -, h⟩ := exists_of_bind h
  obtain ⟨⟨⟩, -, h⟩ := exists_of_bind h
  obtain ⟨⟨⟩, -, h⟩ := exists_of_bind h
  obtain ⟨⟨⟩, -, h⟩ := exists_of_bind h
  obtain ⟨⟨⟩, horder, -⟩ := exists_of_bind h
  rw [reject_eq_ok, UInt32.lt_iff_toNat_lt] at horder
  exact Nat.le_of_not_lt horder

theorem checkDestination_ok (h : checkDestination services a = .ok da) :
    a.getDAFromStream = .ok da := by
  obtain ⟨found, hfound, h⟩ := exists_of_bind h
  have hsame : found = da := by
    split_ifs at h
    · split at h
      · cases h
      · obtain ⟨⟨⟩, -, h⟩ := exists_of_bind h
        exact ok.inj h
    · exact ok.inj h
  obtain rfl := hsame
  cases hda : a.getDAFromStream with
  | ok da =>
    rw [hda] at hfound
    exact congrArg ok (ok.inj hfound)
  | error status =>
    rw [hda] at hfound
    cases hfound

/-- **A stream that is in order by itself**: its destination, how long it takes, and that nothing
of it wraps. -/
structure Alone (project : Project) (stream : Stream) (duration : UInt32) (da : String) : Prop where
  destination : stream.getDAFromStream = .ok da
  lasts : Lasts project stream duration
  duration_le : duration.toNat ≤ 999999999
  latest_le : latest stream ≤ 999999999
  earliest_le : earliest stream ≤ latest stream

theorem checkAlone_ok (h : checkAlone services project a = .ok (d, da)) : Alone project a d da := by
  obtain ⟨⟨⟩, -, h⟩ := exists_of_bind h
  obtain ⟨talker, htalker, h⟩ := exists_of_bind h
  obtain ⟨duration, hdur, h⟩ := exists_of_bind h
  obtain ⟨interval, -, h⟩ := exists_of_bind h
  obtain ⟨⟨⟩, hintv, h⟩ := exists_of_bind h
  obtain ⟨⟨⟩, -, h⟩ := exists_of_bind h
  obtain ⟨⟨⟩, hoffsets, h⟩ := exists_of_bind h
  obtain ⟨⟨⟩, -, h⟩ := exists_of_bind h
  obtain ⟨⟨⟩, -, h⟩ := exists_of_bind h
  obtain ⟨found, hfound, h⟩ := exists_of_bind h
  cases h
  obtain ⟨hshort, hlatest⟩ := checkInterval_ok hintv
  exact ⟨checkDestination_ok hfound, ⟨talker, htalker, orUndefined_eq_ok.1 hdur⟩, hshort,
    hlatest, checkOffsets_ok hoffsets⟩

/-- `CheckStream` with the check of feasibility accepts the stream. -/
def Accepts (services : MacServices) (project : Project) (stream : Stream) : Prop :=
  checkStream services project stream true = .ok ()

/-- The project to which the stream has been added. -/
def withStream (project : Project) (stream : Stream) : Project :=
  { project with streams := project.streams.insert stream }

/-- The streams have one VLAN and one destination. -/
def Duplicated (a b : Stream) : Prop :=
  ∃ da da', a.getDAFromStream = .ok da ∧ b.getDAFromStream = .ok da' ∧ duplicates a da b da' = true

/-- All the time in which the other stream may be sent lies in the time from the fixed offset of
this one to the end of its transmission. -/
def Occupies (project : Project) (a b : Stream) : Prop :=
  ∃ d, Lasts project a d ∧ hasFixedOffset a = true ∧ (b.talker == a.talker) = true ∧
    earliest a ≤ earliest b ∧ latest b ≤ earliest a + d.toNat

/-- **When two streams are one**: the test is made of conditions that do not tell the two apart. -/
theorem duplicates_iff : duplicates a da b da' = true ↔
    da ≠ fakeMacAddress ∧ da = da' ∧ vlanOf a = vlanOf b ∧ isPerStreamPriority a = false ∧
      isPerStreamPriority b = false ∧ ((a.userDefinedVlan = false ∧ b.userDefinedVlan = false) →
        a.talker.endStationInterface.deviceId = b.talker.endStationInterface.deviceId ∧
        a.talker.endStationInterface.interfaceId = b.talker.endStationInterface.interfaceId) := by
  unfold duplicates
  split_ifs with hfake hda hvlan hprio htalker
  · exact iff_of_false nofun fun h => h.1 (beq_iff_eq.1 hfake)
  · exact iff_of_false nofun fun h => (bne_iff_ne.1 hda) h.2.1
  · exact iff_of_false nofun fun h => (bne_iff_ne.1 hvlan) h.2.2.1
  · refine iff_of_false nofun fun h => ?_
    rw [h.2.2.2.1, h.2.2.2.2.1] at hprio
    cases hprio
  · refine iff_of_false nofun fun h => ?_
    simp only [and_eq_true, not_eq_true', or_eq_true, bne_iff_ne] at htalker
    obtain ⟨hdev, hintf⟩ := h.2.2.2.2.2 htalker.1
    exact htalker.2.elim (fun hne => hne hdev) fun hne => hne hintf
  · rw [or_eq_true] at hprio
    obtain ⟨hcode, hclass⟩ := not_or.1 hprio
    simp only [and_eq_true, not_eq_true', or_eq_true, bne_iff_ne] at htalker
    refine iff_of_true rfl ⟨fun h => hfake (beq_iff_eq.2 h), by simpa using hda,
      by simpa using hvlan, eq_false_of_ne_true hcode, eq_false_of_ne_true hclass, fun hsystem => ?_⟩
    by_contra hne
    exact htalker ⟨hsystem, not_and_or.1 hne⟩

/-- **VID and DA are compared in the same way in both orders.** -/
theorem Duplicated.symm (h : Duplicated a b) : Duplicated b a := by
  obtain ⟨da, da', ha, hb, h⟩ := h
  obtain ⟨hfake, rfl, hvlan, hprio, hprio', htalker⟩ := duplicates_iff.1 h
  refine ⟨da, da, hb, ha, duplicates_iff.2 ⟨hfake, rfl, hvlan.symm, hprio', hprio,
    fun hsystem => ?_⟩⟩
  obtain ⟨hdev, hintf⟩ := htalker hsystem.symm
  exact ⟨hdev.symm, hintf.symm⟩

/-- Without a wrap the window is the one of the numbers. -/
theorem occupies_iff (ha : Alone project a d da) :
    occupies a d b = true ↔ Occupies project a b := by
  have hsum : (a.talker.trafficSpecification.timeAware.earliestTransmitOffset + d).toNat =
      earliest a + d.toNat := by
    rw [UInt32.toNat_add]
    have hlatest := ha.latest_le
    have hdur := ha.duration_le
    have hearliest := ha.earliest_le
    unfold earliest latest at *
    exact Nat.mod_eq_of_lt (by omega)
  unfold occupies Occupies
  simp only [and_eq_true, decide_eq_true_eq, ge_iff_le, UInt32.le_iff_toNat_le, hsum]
  constructor
  · rintro ⟨⟨hfixed, htalker⟩, hfirst, hlast⟩
    exact ⟨d, ha.lasts, hfixed, htalker, hfirst, hlast⟩
  · rintro ⟨d', ⟨talker', htalker', hdur'⟩, hfixed, htalker, hfirst, hlast⟩
    obtain ⟨talker, hfound, hdur⟩ := ha.lasts
    obtain rfl := ok.inj (hfound.symm.trans htalker')
    obtain rfl := Option.some.inj (hdur.symm.trans hdur')
    exact ⟨⟨hfixed, htalker⟩, hfirst, hlast⟩

/-- **One other stream** lets the stream pass if it is neither in its way nor the same. -/
theorem checkConflict_eq_ok_iff (ha : Alone project a d da) (hb : Alone project b d' da')
    (hne : b.id ≠ a.id) :
    checkConflict a d da true b = .ok () ↔ ¬Occupies project a b ∧ ¬Duplicated a b := by
  have hduplicates : duplicates a da b da' = true ↔ Duplicated a b := by
    constructor
    · exact fun h => ⟨da, da', ha.destination, hb.destination, h⟩
    · rintro ⟨x, y, hx, hy, h⟩
      rwa [ok.inj (ha.destination.symm.trans hx),
        ok.inj (hb.destination.symm.trans hy)]
  unfold checkConflict
  rw [if_neg hne, hb.destination, ← occupies_iff ha, ← hduplicates]
  constructor
  · intro h
    obtain ⟨⟨⟩, hoccupies, h⟩ := exists_of_bind h
    rw [reject_eq_ok, Bool.true_and] at hoccupies
    have hduplicates : reject (duplicates a da b da' = true) _ = .ok () := h
    exact ⟨hoccupies, reject_eq_ok.1 hduplicates⟩
  · rintro ⟨hoccupies, hduplicates⟩
    have hpass : ∀ (wrong : Prop) [Decidable wrong] (status : Status), ¬wrong →
        reject wrong status = .ok () := fun _ _ _ h => reject_eq_ok.2 h
    rw [Bool.true_and]
    show (reject _ _ >>= fun _ => reject _ _) = .ok ()
    rw [hpass _ _ hoccupies]
    exact hpass _ _ hduplicates

theorem exists_alone (h : Accepts services project a) :
    ∃ d da, Alone project a d da ∧ checkAlone services project a = .ok (d, da) ∧
      ∀ other ∈ project.streams, checkConflict a d da true other = .ok () := by
  obtain ⟨⟨d, da⟩, halone, h⟩ := exists_of_bind h
  exact ⟨d, da, checkAlone_ok halone, halone, forM_eq_ok_iff.1 h⟩

/-- **A stream that has been added** is the only one that can stop a stream which was accepted
before. -/
theorem accepts_withStream_iff (ha : Accepts services project a) (hb : Accepts services project b)
    (hnew : project.streams.contains a = false) (hne : a.id ≠ b.id) :
    Accepts services (withStream project a) b ↔
      ¬Occupies project b a ∧ ¬Duplicated b a := by
  obtain ⟨d, da, hAloneA, -, -⟩ := exists_alone ha
  obtain ⟨d', da', hAloneB, hcheck, hothers⟩ := exists_alone hb
  rw [← checkConflict_eq_ok_iff hAloneB hAloneA hne]
  have hcheck' : checkAlone services (withStream project a) b = .ok (d', da') := hcheck
  unfold Accepts checkStream
  rw [hcheck']
  show List.forM _ _ = ok () ↔ _
  rw [forM_eq_ok_iff]
  have hmem : ∀ x, x ∈ (withStream project a).streams ↔ x ∈ project.streams ∨ x = a :=
    fun x => QSet.mem_insert_of_not_contains hnew
  constructor
  · exact fun h => h a ((hmem a).2 (.inr rfl))
  · intro h x hx
    rcases (hmem x).1 hx with hx | rfl
    · exact hothers x hx
    · exact h

/-! ### Two streams in both orders -/

/-- The time that the stream occupies, from its offset on. -/
def window (stream : Stream) (duration : UInt32) : Set ℕ :=
  Set.Ico (earliest stream) (earliest stream + duration.toNat)

/-- The stream occupies all the time of the other one, which is not sent at the same offset
itself. -/
def Surrounds (project : Project) (a b : Stream) : Prop :=
  Occupies project a b ∧ ¬(earliest b = earliest a ∧ latest b = earliest a)

/-- **The order of two streams does not matter**: either one is accepted after the other if the
other one is accepted after it; and if they are sent at fixed offsets by one talker, they are
accepted only if their windows do not meet. -/
def OrderFree (services : MacServices) (project : Project) (a b : Stream) : Prop :=
  (Accepts services (withStream project a) b ↔ Accepts services (withStream project b) a) ∧
    (hasFixedOffset a = true → hasFixedOffset b = true → (a.talker == b.talker) = true →
      Accepts services (withStream project a) b →
        ∀ d d', Lasts project a d → Lasts project b d' → Disjoint (window a d) (window b d'))

theorem hasFixedOffset_iff : hasFixedOffset a = true ↔ earliest a = latest a := by
  unfold hasFixedOffset
  rw [beq_iff_eq]
  exact UInt32.toNat_inj.symm

theorem talker_beq_comm (x y : Talker) : (x == y) = (y == x) := by
  show (_ && _) = (_ && _)
  rw [BEq.comm, @BEq.comm _ _ _ x.endStationInterface.interfaceId]

/-- **Only one of the two notices the other**: a stream that surrounds another one is not in the
way of that one. -/
theorem Surrounds.not_occupies (h : Surrounds project a b) : ¬Occupies project b a := by
  rintro ⟨-, -, hfixed, -, hfirst, -⟩
  obtain ⟨⟨-, -, -, -, hfirst', -⟩, hne⟩ := h
  rw [hasFixedOffset_iff] at hfixed
  exact hne (by omega)

theorem Occupies.symm (h : Occupies project a b) (hno : ¬Surrounds project a b)
    (hb : Lasts project b d) : Occupies project b a := by
  obtain ⟨hsame, hlatest⟩ := not_not.1 fun hne => hno ⟨h, hne⟩
  obtain ⟨-, -, hfixed, htalker, -, -⟩ := h
  rw [hasFixedOffset_iff] at hfixed
  rw [talker_beq_comm] at htalker
  refine ⟨d, hb, hasFixedOffset_iff.2 (hsame.trans hlatest.symm), htalker, hsame.le, ?_⟩
  omega

/-- Windows at fixed offsets do not meet if neither stream is in the way of the other. -/
theorem disjoint_window (ha : hasFixedOffset a = true) (hb : hasFixedOffset b = true)
    (htalker : (a.talker == b.talker) = true) (hlasts : Lasts project a d)
    (hlasts' : Lasts project b d') (hno : ¬Occupies project a b) (hno' : ¬Occupies project b a) :
    Disjoint (window a d) (window b d') := by
  have hfixed := hasFixedOffset_iff.1 ha
  have hfixed' := hasFixedOffset_iff.1 hb
  have hafter : ¬(earliest a ≤ earliest b ∧ latest b ≤ earliest a + d.toNat) := fun h =>
    hno ⟨d, hlasts, ha, by rwa [talker_beq_comm], h.1, h.2⟩
  have hbefore : ¬(earliest b ≤ earliest a ∧ latest a ≤ earliest b + d'.toNat) := fun h =>
    hno' ⟨d', hlasts', hb, htalker, h.1, h.2⟩
  rw [Set.disjoint_left]
  rintro n ⟨hlow, hhigh⟩ ⟨hlow', hhigh'⟩
  omega

/-- **When the order of two streams does not matter.**  For streams that are each accepted by
themselves, the check comes out alike in both orders, and keeps windows at fixed offsets apart, if
and only if the two have one VLAN and one destination, or neither of them surrounds the other. -/
theorem streamOrder_iff (ha : Accepts services project a) (hb : Accepts services project b)
    (hnewA : project.streams.contains a = false) (hnewB : project.streams.contains b = false)
    (hne : a.id ≠ b.id) : OrderFree services project a b ↔
      Duplicated a b ∨ (¬Surrounds project a b ∧ ¬Surrounds project b a) := by
  obtain ⟨d, da, hAloneA, -⟩ := exists_alone ha
  obtain ⟨d', da', hAloneB, -⟩ := exists_alone hb
  have hb_after := accepts_withStream_iff ha hb hnewA hne
  have ha_after := accepts_withStream_iff hb ha hnewB hne.symm
  unfold OrderFree
  rw [hb_after, ha_after]
  constructor
  · rintro ⟨hiff, -⟩
    refine or_iff_not_imp_left.2 fun hno => ⟨fun h => ?_, fun h => ?_⟩
    · exact (hiff.1 ⟨h.not_occupies, fun hdup => hno hdup.symm⟩).1 h.1
    · exact (hiff.2 ⟨h.not_occupies, hno⟩).1 h.1
  · intro h
    have hiff : ¬Occupies project b a ∧ ¬Duplicated b a ↔
        ¬Occupies project a b ∧ ¬Duplicated a b := by
      rcases h with hdup | ⟨hno, hno'⟩
      · exact iff_of_false (fun h => h.2 hdup.symm) fun h => h.2 hdup
      · have hsymm : Occupies project b a ↔ Occupies project a b :=
          ⟨fun h => h.symm hno' hAloneA.lasts, fun h => h.symm hno hAloneB.lasts⟩
        rw [hsymm, show Duplicated b a ↔ Duplicated a b from ⟨.symm, .symm⟩]
    refine ⟨hiff, fun hfixed hfixed' htalker haccepted d d' hlasts hlasts' => ?_⟩
    exact disjoint_window hfixed hfixed' htalker hlasts hlasts' (hiff.1 haccepted).1 haccepted.1

/-- Two end stations on a link of 1 Gbps. -/
def linkedStations : Project where
  devices :=
    [{ id := 1, ipAddress := "192.168.127.1", macAddress := "00-00-00-00-00-01",
       deviceType := .endStation
       interfaces := [{ deviceId := 1, interfaceId := 1, used := true }]
       deviceProperty := { trafficSpecification :=
         { timeAware := { earliestTransmitOffset := 999999999 } } } },
      { id := 2, ipAddress := "192.168.127.2", macAddress := "00-00-00-00-00-02",
        deviceType := .endStation
        interfaces := [{ deviceId := 2, interfaceId := 1, used := true }]
        deviceProperty := { trafficSpecification :=
          { timeAware := { earliestTransmitOffset := 999999999 } } } }]
  links :=
    [{ id := 1, sourceDeviceId := 1, sourceInterfaceId := 1, destinationDeviceId := 2,
       destinationInterfaceId := 1 }]

/-- A stream that is sent at one offset, once in a millisecond. -/
def fixedStream (id talker listener : ℤ) (vlanId : UInt16) (offset : UInt32) : Stream where
  id := id
  streamName := "stream"
  streamTrafficType := .cyclic
  tagged := true
  vlanId := vlanId
  talker :=
    { endStationInterface := { deviceId := talker, interfaceId := 1 }
      dataFrameSpecifications :=
        [{ ieee802MacAddresses := { destinationMacAddress := "00-00-00-00-00-02" } }]
      trafficSpecification :=
        { interval := { numerator := 1, denominator := 1000 }
          timeAware := { earliestTransmitOffset := offset, latestTransmitOffset := offset } } }
  listeners := [{ endStationInterface := { deviceId := listener, interfaceId := 1 } }]

theorem accepts_of_isOk (h : (checkStream services project a true).isOk = true) :
    Accepts services project a := by
  unfold Accepts
  cases hcheck : checkStream services project a true with
  | ok u => rfl
  | error failure =>
    rw [hcheck] at h
    cases h

/-- Streams in the two directions, which are two talkers, can be created in either order. -/
theorem orderFree_linkedStations :
    OrderFree {} linkedStations (fixedStream 50001 1 2 5 100) (fixedStream 50002 2 1 6 500) := by
  refine (streamOrder_iff (accepts_of_isOk (by decide +kernel))
    (accepts_of_isOk (by decide +kernel)) rfl rfl (by decide)).2 (.inr ⟨?_, ?_⟩)
  · rintro ⟨⟨-, -, -, htalker, -, -⟩, -⟩
    cases htalker
  · rintro ⟨⟨-, -, -, htalker, -, -⟩, -⟩
    cases htalker

/-- **The order of two streams matters.**  One stream takes 712 ns from its offset of 100 ns on, the
other one is sent by the same talker at 500 ns.  It is accepted after the first, though their
windows meet; the first is not accepted after it. -/
theorem not_orderFree : Accepts {} linkedStations (fixedStream 50001 1 2 5 100) ∧
    Accepts {} linkedStations (fixedStream 50002 1 2 6 500) ∧
    Accepts {} (withStream linkedStations (fixedStream 50001 1 2 5 100))
      (fixedStream 50002 1 2 6 500) ∧
    ¬Accepts {} (withStream linkedStations (fixedStream 50002 1 2 6 500))
      (fixedStream 50001 1 2 5 100) ∧
    Lasts linkedStations (fixedStream 50001 1 2 5 100) 712 ∧
    Lasts linkedStations (fixedStream 50002 1 2 6 500) 712 ∧
    ¬Disjoint (window (fixedStream 50001 1 2 5 100) 712)
      (window (fixedStream 50002 1 2 6 500) 712) := by
  have ha : Accepts {} linkedStations (fixedStream 50001 1 2 5 100) :=
    accepts_of_isOk (by decide +kernel)
  have hb : Accepts {} linkedStations (fixedStream 50002 1 2 6 500) :=
    accepts_of_isOk (by decide +kernel)
  have hlasts : Lasts linkedStations (fixedStream 50001 1 2 5 100) 712 :=
    ⟨_, rfl, by decide +kernel⟩
  refine ⟨ha, hb, accepts_of_isOk (by decide +kernel), ?_, hlasts, ⟨_, rfl, by decide +kernel⟩, ?_⟩
  · rw [accepts_withStream_iff hb ha rfl (by decide)]
    exact fun h => h.1 ⟨712, hlasts, by decide, by decide, by decide, by decide⟩
  · rw [Set.not_disjoint_iff]
    exact ⟨500, ⟨by decide, by decide⟩, by decide, by decide⟩

end Core
end Sebastian

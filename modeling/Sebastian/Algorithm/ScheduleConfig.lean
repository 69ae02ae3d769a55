/-
# `ActScheduleConfig`

What the scheduler knows of the project (`algorithm/include/act_schedule_config.hpp`,
`algorithm/src/act_schedule_config.cpp`): the devices with the interfaces that
are linked, the links with their delays, the active streams with their times in
nanoseconds, and the cycle time, the least common multiple of their intervals.

The program reads its maps through `operator[]`, so that asking for an
interface that is not there makes one (`touchInterface`), all of whose ids are
`-1`; the walk over the interfaces of a device meets it later on.  The features
of a device made that way are not initialised (`prepared`).  What is read is not
changed by it (`Extends`), and every interface is stored under its own id or is
one of those (`WellFormed`).
-/

import Sebastian.Algorithm.Vlan
import Sebastian.Lib.Binary64
import Sebastian.Lib.Containers
import Sebastian.Lib.Except
import Sebastian.Project

namespace Sebastian
namespace Algorithm

open ExceptRule QMap

variable {project : Project} {device : Device} {fuel : ℕ} {stream' : ScheduleConfigStream}
  {setting : TrafficStream}

/-- `ActScheduleConfigInterface` -/
structure ScheduleConfigInterface where
  deviceId : ℤ := -1
  interfaceId : ℤ := -1
  interfaceName : String := ""
  linkId : ℤ := -1
  connectDeviceId : ℤ := -1
  connectInterfaceId : ℤ := -1
  /-- In nanoseconds. -/
  independentProcessingDelay : UInt16 := 0
  /-- In nanoseconds per nanosecond of the stream's duration. -/
  dependentProcessingDelayRatio : UInt16 := 0
  deriving DecidableEq

instance : Inhabited ScheduleConfigInterface := ⟨{}⟩

/-- `operator==(ActScheduleConfigInterface)` -/
instance : BEq ScheduleConfigInterface where
  beq x y := x.deviceId == y.deviceId && x.interfaceId == y.interfaceId && x.linkId == y.linkId

/-- `ActScheduleConfigStream`.  Times are in nanoseconds, the payload is in bits. -/
structure ScheduleConfigStream where
  streamId : ℤ := -1
  streamName : String := ""
  multicast : Bool := false
  destinationMac : String := ""
  talker : ScheduleConfigInterface := {}
  listeners : QSet ScheduleConfigInterface := []
  tsnEnable : Bool := false
  cbEnable : Bool := false
  keepPreviousResult : Bool := false
  trafficType : String := ""
  qosType : TrafficQosType := .bandwidth
  pcps : QSet UInt8 := []
  minReceiveOffset : ℤ := 0
  maxReceiveOffset : ℤ := 0
  vlanId : UInt16 := 0
  queueId : UInt8 := 0
  priorityCodePoint : UInt8 := 0
  interval : ℤ := 1000000
  payload : ℤ := 0
  earliestTransmitOffset : ℤ := 0
  latestTransmitOffset : ℤ := 1000000
  jitter : ℤ := 0

instance : Inhabited ScheduleConfigStream := ⟨{}⟩

/-- `ActScheduleConfigDevice` -/
structure ScheduleConfigDevice where
  /-- The device was filled in by `PrepareScheduleConfigDevice`.  A device that
  `operator[]` made has no features: its constructor leaves them uninitialised. -/
  prepared : Bool := false
  ipAddress : String := ""
  numberOfQueue : UInt16 := 0
  perQueueSize : UInt16 := 0
  gateControlListLength : UInt16 := 0
  tsnEnable : Bool := false
  cbEnable : Bool := false
  endStation : Bool := false
  scheduleConfigInterfaces : QMap ℤ ScheduleConfigInterface := ∅

instance : Inhabited ScheduleConfigDevice := ⟨{}⟩

/-- `ActScheduleConfigLink` -/
structure ScheduleConfigLink where
  /-- In bits per second. -/
  bandwidth : ℤ := 0
  propagationDelay : ℤ := 0
  timeSyncDelay : ℤ := 0

instance : Inhabited ScheduleConfigLink := ⟨{}⟩

/-- `ActScheduleConfig` -/
structure ScheduleConfig where
  cycleTime : ℤ := 1
  reserveTime : ℤ := 50
  scheduleConfigVLAN : ScheduleConfigVLAN := {}
  scheduleConfigStreams : QMap ℤ ScheduleConfigStream := ∅
  scheduleConfigDevices : QMap ℤ ScheduleConfigDevice := ∅
  scheduleConfigLinks : QMap ℤ ScheduleConfigLink := ∅

/-- Why a call does not come back with success: it returns another status, or
its behaviour is not defined. -/
inductive Failure where
  | status (s : Status)
  | undefined

namespace ScheduleConfig

/-! ### Reading the configuration -/

/-- `GetScheduleConfigStream` -/
def getScheduleConfigStream (config : ScheduleConfig) (streamId : ℤ) : ScheduleConfigStream :=
  config.scheduleConfigStreams.value streamId

/-- `GetScheduleConfigDevice` -/
def getScheduleConfigDevice (config : ScheduleConfig) (deviceId : ℤ) : ScheduleConfigDevice :=
  config.scheduleConfigDevices.value deviceId

/-- `GetScheduleConfigLink` -/
def getScheduleConfigLink (config : ScheduleConfig) (linkId : ℤ) : ScheduleConfigLink :=
  config.scheduleConfigLinks.value linkId

/-- `GetScheduleConfigInterface` -/
def getScheduleConfigInterface (config : ScheduleConfig) (deviceId interfaceId : ℤ) :
    ScheduleConfigInterface :=
  (config.getScheduleConfigDevice deviceId).scheduleConfigInterfaces.value interfaceId

/-- What `GetScheduleConfigInterface` leaves behind: the interface exists. -/
def touchInterface (config : ScheduleConfig) (deviceId interfaceId : ℤ) : ScheduleConfig :=
  { config with
    scheduleConfigDevices := config.scheduleConfigDevices.update deviceId fun device =>
      { device with
        scheduleConfigInterfaces := device.scheduleConfigInterfaces.touch interfaceId } }

/-- `IsListenerArrived` -/
def isListenerArrived (config : ScheduleConfig)
    (streamId deviceId ingressInterfaceId egressInterfaceId linkId : ℤ) : Bool :=
  (config.getScheduleConfigStream streamId).listeners.contains
    { deviceId := deviceId, interfaceId := ingressInterfaceId, linkId := linkId } &&
  ingressInterfaceId == egressInterfaceId

/-- `ComputeStreamDuration`: the time the payload takes on the link, computed in
`double`.  Without a bandwidth the quotient is no number that `qCeil` could
round. -/
def computeStreamDuration (config : ScheduleConfig) (streamId linkId : ℤ) : Option ℤ := do
  let seconds ← Binary64.div
    (Binary64.ofInt (config.getScheduleConfigStream streamId).payload)
    (Binary64.ofInt (config.getScheduleConfigLink linkId).bandwidth)
  Binary64.qCeil (Binary64.mul seconds (10 ^ 9))

/-- `ComputeTransmitDelay` -/
def computeTransmitDelay (config : ScheduleConfig) (linkId : ℤ) : ℤ :=
  (config.getScheduleConfigLink linkId).propagationDelay +
    (config.getScheduleConfigLink linkId).timeSyncDelay

/-- `ComputeProcessingDelay` -/
def computeProcessingDelay (config : ScheduleConfig) (deviceId interfaceId streamId : ℤ) :
    Option ℤ := do
  let interface := config.getScheduleConfigInterface deviceId interfaceId
  let duration ← config.computeStreamDuration streamId interface.linkId
  return interface.independentProcessingDelay.toNat +
    interface.dependentProcessingDelayRatio.toNat * duration

/-- `ComputeTotalDelay` -/
def computeTotalDelay (config : ScheduleConfig) (deviceId interfaceId streamId : ℤ) :
    Option ℤ := do
  let processing ← config.computeProcessingDelay deviceId interfaceId streamId
  return config.computeTransmitDelay
    (config.getScheduleConfigInterface deviceId interfaceId).linkId + processing

/-! ### Preparing the configuration -/

/-- `PrepareScheduleConfigVLAN` -/
def prepareScheduleConfigVLAN (project : Project) (config : ScheduleConfig) :
    Except Failure ScheduleConfig :=
  List.foldlM (fun config trafficStream =>
    if !trafficStream.active then .ok config
    else
      match project.trafficDesign.applicationSetting.find
          { id := trafficStream.applicationId } with
      | none =>
        .error (.status (.feasibilityCheckFailed
          ⟨"Cannot find application %1", [.int trafficStream.applicationId]⟩))
      | some application =>
        let vlanSetting := application.vlanSetting
        if vlanSetting.tagged || vlanSetting.userDefinedVlan then
          let (ok, vlan) :=
            config.scheduleConfigVLAN.setVLAN vlanSetting.vlanId trafficStream.destinationMac
          if !ok then
            .error (.status (.feasibilityCheckFailed ⟨"Vlan %1 + MAC %2 duplicated",
              [.int vlanSetting.vlanId.toNat, .str trafficStream.destinationMac]⟩))
          else .ok { config with scheduleConfigVLAN := vlan }
        else .ok config)
    { config with scheduleConfigVLAN := .init project.vlanMin project.vlanMax }
    project.trafficDesign.streamSetting

/-- The entry of a linked interface in `PrepareScheduleConfigDevice`. -/
def interfaceOfLink (device : Device) (interface : Interface) (link : Link) :
    ScheduleConfigInterface :=
  let delay := device.deviceProperty.processingDelayMap[link.speed]?
  { deviceId := device.id
    interfaceId := interface.interfaceId
    interfaceName := interface.interfaceName
    linkId := link.id
    connectDeviceId :=
      if link.sourceDeviceId == device.id then link.destinationDeviceId else link.sourceDeviceId
    connectInterfaceId :=
      if link.sourceInterfaceId == interface.interfaceId then link.destinationInterfaceId
      else link.sourceInterfaceId
    independentProcessingDelay := (delay.map (·.independentDelay)).getD 0
    dependentProcessingDelayRatio := (delay.map (·.dependentDelayRatio)).getD 0 }

/-- One interface in `PrepareScheduleConfigDevice`.  The status is the one of the
last search for a link. -/
def addInterface (project : Project) (device : Device)
    (acc : Status × QMap ℤ ScheduleConfigInterface) (interface : Interface) :
    Status × QMap ℤ ScheduleConfigInterface :=
  if !interface.used then acc
  else
    match project.getLinkByInterfaceId device.id interface.interfaceId with
    | none => (.notFound ⟨"", []⟩, acc.2)
    | some link =>
      (.success, acc.2.insert interface.interfaceId (interfaceOfLink device interface link))

/-- One device in `PrepareScheduleConfigDevice`. -/
def addDevice (project : Project) (acc : Status × ScheduleConfig) (device : Device) :
    Status × ScheduleConfig :=
  let (status, interfaces) := device.interfaces.foldl (addInterface project device) (acc.1, ∅)
  (status, { acc.2 with
    scheduleConfigDevices := acc.2.scheduleConfigDevices.insert device.id
      { prepared := true
        ipAddress := device.ipAddress
        numberOfQueue := device.deviceProperty.numberOfQueue
        perQueueSize := device.deviceProperty.perQueueSize
        gateControlListLength := device.deviceProperty.gateControlListLength
        tsnEnable := device.deviceProperty.ieee802Dot1Qbv
        cbEnable := device.deviceProperty.ieee802Dot1CB
        endStation := device.deviceType == .endStation || device.deviceType == .bridgedEndStation
        scheduleConfigInterfaces := interfaces } })

/-- `PrepareScheduleConfigDevice`.  It returns what the last search for a link
returned: `NotFound` when the last used interface has none. -/
def prepareScheduleConfigDevice (project : Project) (config : ScheduleConfig) :
    Except Failure ScheduleConfig :=
  let (status, config) := project.devices.foldl (addDevice project) (.success, config)
  if !status.isSuccess then .error (.status status) else .ok config

/-- `PrepareScheduleConfigLink`.  The bandwidth is an `int` product. -/
def prepareScheduleConfigLink (project : Project) (config : ScheduleConfig) : ScheduleConfig :=
  project.links.foldl (fun config link =>
    { config with
      scheduleConfigLinks := config.scheduleConfigLinks.insert link.id
        { bandwidth := Int.bmod (link.speed.toNat * 1000 * 1000) (2 ^ 32)
          propagationDelay := link.propagationDelay.toNat
          timeSyncDelay := project.algorithmConfiguration.timeSyncDelay.toNat } })
    config

/-- Microseconds to nanoseconds: `qint64(x * 1000)`. -/
def nanoseconds (x : ℚ) : ℤ := Binary64.trunc (Binary64.mul x 1000)

/-- The payload of a stream with the overhead of its frames, in bits.  The
products and sums of `quint32` wrap. -/
def computePayload (project : Project) (application : TrafficApplication) : Option ℤ := do
  let parameter := application.streamParameter
  let maxBytesPerInterval : UInt32 :=
    if parameter.maxBytesPerInterval = 0 then
      parameter.maxFrameSize * parameter.maxFramesPerInterval
    else parameter.maxBytesPerInterval
  let frames ← Binary64.div (Binary64.ofInt maxBytesPerInterval.toNat)
    (Binary64.ofInt parameter.maxFrameSize.toNat)
  let maxFramesPerInterval ← Binary64.qCeil frames
  let overhead : UInt32 := project.algorithmConfiguration.mediaSpecificOverheadBytes +
    if application.tsn.frer then 6 else 0
  return (maxBytesPerInterval.toNat + overhead.toNat * maxFramesPerInterval) * 8

/-- The window in which a stream has to arrive, by its QoS type. -/
def receiveOffsets (application : TrafficApplication) : ℤ × ℤ :=
  let setting := application.trafficSetting
  match setting.qosType with
  | .bandwidth => (0, nanoseconds application.streamParameter.interval)
  | .boundedLatency =>
    (nanoseconds setting.minReceiveOffset, nanoseconds setting.maxReceiveOffset)
  | .deadline => (0, nanoseconds setting.maxReceiveOffset)

/-- The traffic types of the design that belong to the application set the name
of the type and the priority code points. -/
def setTrafficTypes (design : TrafficDesign) (application : TrafficApplication)
    (stream : ScheduleConfigStream) : ScheduleConfigStream :=
  design.trafficTypeConfigurationSetting.foldl (fun stream configuration =>
    if configuration.trafficClass != application.trafficSetting.trafficTypeClass then stream
    else
      let stream := { stream with trafficType := configuration.trafficType }
      if application.vlanSetting.tagged || application.vlanSetting.userDefinedVlan then
        { stream with pcps := stream.pcps.insert application.vlanSetting.priorityCodePoint }
      else { stream with pcps := configuration.priorityCodePointSet })
    stream

/-- What the application of a stream sets in `PrepareScheduleConfigStream`. -/
def setApplication (fuel : ℕ) (project : Project) (application : TrafficApplication)
    (destinationMac : String) (vlan : ScheduleConfigVLAN) (stream : ScheduleConfigStream) :
    Except Failure (ScheduleConfigVLAN × ScheduleConfigStream) :=
  let parameter := application.streamParameter
  let stream := setTrafficTypes project.trafficDesign application
    { stream with
      tsnEnable := application.tsn.active
      cbEnable := application.tsn.frer
      keepPreviousResult := project.algorithmConfiguration.keepPreviousResult
      qosType := application.trafficSetting.qosType
      interval := nanoseconds parameter.interval
      earliestTransmitOffset := nanoseconds parameter.earliestTransmitOffset
      latestTransmitOffset := nanoseconds parameter.latestTransmitOffset
      jitter := nanoseconds parameter.jitter
      minReceiveOffset := (receiveOffsets application).1
      maxReceiveOffset := (receiveOffsets application).2 }
  match computePayload project application with
  | none => .error .undefined
  | some payload =>
    let stream := { stream with payload := payload }
    if !application.vlanSetting.tagged && !application.vlanSetting.userDefinedVlan then
      match vlan.generateSystemAssignVLAN fuel destinationMac with
      | none => .error .undefined
      | some (.success, vlanId, vlan) => .ok (vlan, { stream with vlanId := vlanId })
      | some (status, _, _) => .error (.status status)
    else .ok (vlan, { stream with vlanId := application.vlanSetting.vlanId })

/-- The application of a stream, if there is one, is looked up by its id. -/
def findApplication (fuel : ℕ) (project : Project) (setting : TrafficStream)
    (vlan : ScheduleConfigVLAN) (stream : ScheduleConfigStream) :
    Except Failure (ScheduleConfigVLAN × ScheduleConfigStream) :=
  match project.trafficDesign.applicationSetting.find { id := setting.applicationId } with
  | none => .ok (vlan, stream)
  | some application =>
    setApplication fuel project application setting.destinationMac vlan stream

/-- With the previous result kept, the transmit offset is pinned to the start
time that result has for the stream.  The lists are read with `first()`. -/
def keepPrevious (project : Project) (stream : ScheduleConfigStream) (streamId : ℤ) :
    Except Failure ScheduleConfigStream :=
  if project.algorithmConfiguration.keepPreviousResult then
    match project.computedResult.streamViewResults.find { streamId := streamId } with
    | none => .ok stream
    | some result =>
      match (do
        let path ← result.streamPathResults.head?
        let redundantPath ← path.streamRedundantPathResults.head?
        redundantPath.deviceInterfaceResults.head?) with
      | none => .error .undefined
      | some first =>
        .ok { stream with
          earliestTransmitOffset := first.startTime.toNat
          latestTransmitOffset := first.startTime.toNat }
  else .ok stream

/-- The listeners of a stream, each asked for in the configuration. -/
def readListeners (config : ScheduleConfig) (listeners : QSet TrafficStreamInterface) :
    ScheduleConfig × QSet ScheduleConfigInterface :=
  listeners.foldl (fun acc listener =>
    (acc.1.touchInterface listener.deviceId listener.interfaceId,
      acc.2.insert (acc.1.getScheduleConfigInterface listener.deviceId listener.interfaceId)))
    (config, [])

/-- One stream in `PrepareScheduleConfigStream`. -/
def addStream (fuel : ℕ) (project : Project) (config : ScheduleConfig) (setting : TrafficStream) :
    Except Failure ScheduleConfig :=
  if !setting.active then .ok config
  else do
    let talker := config.getScheduleConfigInterface setting.talker.deviceId
      setting.talker.interfaceId
    let config := config.touchInterface setting.talker.deviceId setting.talker.interfaceId
    let (config, listeners) := readListeners config setting.listeners
    let stream : ScheduleConfigStream :=
      { streamId := setting.id
        streamName := setting.streamName
        multicast := setting.multicast
        destinationMac := setting.destinationMac
        talker := talker
        listeners := listeners }
    let (vlan, stream) ← findApplication fuel project setting config.scheduleConfigVLAN stream
    let stream ← keepPrevious project stream setting.id
    return { config with
      scheduleConfigVLAN := vlan
      scheduleConfigStreams := config.scheduleConfigStreams.insert setting.id stream }

/-- `PrepareScheduleConfigStream` -/
def prepareScheduleConfigStream (fuel : ℕ) (project : Project) (config : ScheduleConfig) :
    Except Failure ScheduleConfig :=
  List.foldlM (addStream fuel project) config project.trafficDesign.streamSetting

/-- `ComputeCycleTime` -/
def computeCycleTime (config : ScheduleConfig) : ScheduleConfig :=
  { config with
    cycleTime := config.scheduleConfigStreams.vals.foldl
      (fun cycleTime stream => (Int.lcm cycleTime stream.interval : ℤ)) config.cycleTime }

/-- `ActSchedule::PrepareScheduleConfig`, on the configuration of a new
`ActSchedule`. -/
def prepareScheduleConfig (fuel : ℕ) (project : Project) : Except Failure ScheduleConfig := do
  let config ← prepareScheduleConfigVLAN project {}
  let config ← prepareScheduleConfigDevice project config
  let config ← prepareScheduleConfigStream fuel project (prepareScheduleConfigLink project config)
  return config.computeCycleTime

/-- `SortScheduleConfigStreams`: the streams by one of their priority code points
each, highest first.  A stream without one has no `first()`. -/
def sortScheduleConfigStreams (lib : Library) (config : ScheduleConfig) : Option (List ℤ) := do
  let pcpStreamMap ← List.foldlM (fun (pcpStreamMap : QMap UInt8 (QSet ℤ)) streamId => do
    let pcp ← (lib.walk (config.getScheduleConfigStream streamId).pcps).head?
    return pcpStreamMap.update pcp (·.insert streamId))
    ∅ config.scheduleConfigStreams.keys
  return pcpStreamMap.vals.foldl (fun streamList streamIds =>
    (lib.walk streamIds).foldl (fun streamList streamId => streamId :: streamList) streamList) []

/-! ### What asking for an interface leaves alone -/

/-- The interfaces the walk over a device meets. -/
def interfacesAt (config : ScheduleConfig) (deviceId : ℤ) : List ScheduleConfigInterface :=
  (config.getScheduleConfigDevice deviceId).scheduleConfigInterfaces.vals

/-- The second configuration reads as the first one, except for what scheduling
sets: the priority code points and queues of the streams and the VLANs.
Interfaces may have been added by asking for them. -/
structure Extends (config config' : ScheduleConfig) : Prop where
  cycleTime : config'.cycleTime = config.cycleTime
  reserveTime : config'.reserveTime = config.reserveTime
  stream : ∀ id, config'.getScheduleConfigStream id =
    { config.getScheduleConfigStream id with
      priorityCodePoint := (config'.getScheduleConfigStream id).priorityCodePoint
      queueId := (config'.getScheduleConfigStream id).queueId }
  link : ∀ id, config'.getScheduleConfigLink id = config.getScheduleConfigLink id
  device : ∀ d, config'.getScheduleConfigDevice d =
    { config.getScheduleConfigDevice d with
      scheduleConfigInterfaces := (config'.getScheduleConfigDevice d).scheduleConfigInterfaces }
  interface : ∀ d i, config'.getScheduleConfigInterface d i = config.getScheduleConfigInterface d i
  interfacesAt_subset : ∀ d, config.interfacesAt d ⊆ config'.interfacesAt d

namespace Extends

variable {config config' config'' : ScheduleConfig}

theorem refl (config : ScheduleConfig) : Extends config config where
  cycleTime := rfl
  reserveTime := rfl
  stream _ := rfl
  link _ := rfl
  device _ := rfl
  interface _ _ := rfl
  interfacesAt_subset _ := List.Subset.refl _

theorem trans (h : Extends config config') (h' : Extends config' config'') :
    Extends config config'' where
  cycleTime := h'.cycleTime.trans h.cycleTime
  reserveTime := h'.reserveTime.trans h.reserveTime
  stream id := by rw [h'.stream id, h.stream id]
  link id := (h'.link id).trans (h.link id)
  device d := by rw [h'.device d, h.device d]
  interface d i := (h'.interface d i).trans (h.interface d i)
  interfacesAt_subset d := List.Subset.trans (h.interfacesAt_subset d) (h'.interfacesAt_subset d)

end Extends

/-- The device after one of its interfaces was asked for. -/
theorem getScheduleConfigDevice_touchInterface (config : ScheduleConfig) (d i d' : ℤ) :
    (config.touchInterface d i).getScheduleConfigDevice d' =
      if d = d' then
        { config.getScheduleConfigDevice d' with
          scheduleConfigInterfaces :=
            (config.getScheduleConfigDevice d').scheduleConfigInterfaces.touch i }
      else config.getScheduleConfigDevice d' := by
  unfold touchInterface getScheduleConfigDevice
  by_cases hd : d = d' <;> simp [hd]

/-- **Asking for an interface** adds a default one to the walk if it was missing. -/
theorem mem_interfacesAt_touchInterface {config : ScheduleConfig} {d i d' : ℤ}
    {interface : ScheduleConfigInterface} :
    interface ∈ (config.touchInterface d i).interfacesAt d' ↔
      interface ∈ config.interfacesAt d' ∨
        (d = d' ∧ (config.getScheduleConfigDevice d).scheduleConfigInterfaces[i]? = none ∧
          interface = {}) := by
  rw [interfacesAt, getScheduleConfigDevice_touchInterface]
  by_cases hd : d = d'
  · subst hd
    rw [if_pos rfl]
    simp only [mem_vals_touch, true_and]
    rfl
  · rw [if_neg hd]
    simp [hd, interfacesAt]

theorem extends_touchInterface (config : ScheduleConfig) (d i : ℤ) :
    Extends config (config.touchInterface d i) where
  cycleTime := rfl
  reserveTime := rfl
  stream _ := rfl
  link _ := rfl
  device d' := by
    rw [getScheduleConfigDevice_touchInterface]
    split_ifs <;> rfl
  interface d' i' := by
    rw [getScheduleConfigInterface, getScheduleConfigDevice_touchInterface]
    split_ifs
    · exact value_touch _ _ _
    · rfl
  interfacesAt_subset d' interface h := mem_interfacesAt_touchInterface.2 (.inl h)

/-- Handing out a VLAN changes nothing that is read. -/
theorem extends_setVLAN (config : ScheduleConfig) (vlan : ScheduleConfigVLAN) :
    Extends config { config with scheduleConfigVLAN := vlan } where
  cycleTime := rfl
  reserveTime := rfl
  stream _ := rfl
  link _ := rfl
  device _ := rfl
  interface _ _ := rfl
  interfacesAt_subset _ := List.Subset.refl _

namespace Extends

variable {config config' : ScheduleConfig} (h : Extends config config')
include h

theorem computeStreamDuration (streamId linkId : ℤ) :
    config'.computeStreamDuration streamId linkId =
      config.computeStreamDuration streamId linkId := by
  unfold ScheduleConfig.computeStreamDuration
  rw [h.stream, h.link]

theorem computeTotalDelay (d i streamId : ℤ) :
    config'.computeTotalDelay d i streamId = config.computeTotalDelay d i streamId := by
  unfold ScheduleConfig.computeTotalDelay ScheduleConfig.computeProcessingDelay
    ScheduleConfig.computeTransmitDelay
  simp only [h.interface, h.link, h.computeStreamDuration]

theorem talker (streamId : ℤ) : (config'.getScheduleConfigStream streamId).talker =
      (config.getScheduleConfigStream streamId).talker := by
  rw [h.stream]

theorem pcps (streamId : ℤ) : (config'.getScheduleConfigStream streamId).pcps =
      (config.getScheduleConfigStream streamId).pcps := by
  rw [h.stream]

theorem listeners (streamId : ℤ) : (config'.getScheduleConfigStream streamId).listeners =
      (config.getScheduleConfigStream streamId).listeners := by
  rw [h.stream]

theorem isListenerArrived (streamId d ingress egress link : ℤ) :
    config'.isListenerArrived streamId d ingress egress link =
      config.isListenerArrived streamId d ingress egress link := by
  unfold ScheduleConfig.isListenerArrived
  rw [h.listeners]

end Extends

/-- What the preparation guarantees: an interface is stored under its own id or
was made by asking for it, and payloads and the delays of links are not negative. -/
structure WellFormed (config : ScheduleConfig) : Prop where
  interface : ∀ d i (interface : ScheduleConfigInterface),
    (config.getScheduleConfigDevice d).scheduleConfigInterfaces[i]? = some interface →
      interface.interfaceId = i ∨ interface = {}
  payload : ∀ id, 0 ≤ (config.getScheduleConfigStream id).payload
  transmitDelay : ∀ id, 0 ≤ config.computeTransmitDelay id

theorem WellFormed.touchInterface {config : ScheduleConfig} (h : config.WellFormed) (d i : ℤ) :
    (config.touchInterface d i).WellFormed where
  interface d' i' interface hi := by
    rw [getScheduleConfigDevice_touchInterface] at hi
    split_ifs at hi with hd
    · rw [touch, getElem?_update] at hi
      split_ifs at hi with hi'
      · subst hi'
        cases hi
        cases hm : (config.getScheduleConfigDevice d').scheduleConfigInterfaces[i]? with
        | none => exact .inr (by rw [id, value_eq_getD, hm]; rfl)
        | some b => rw [id, value_of_getElem? hm]; exact h.interface d' i b hm
      · exact h.interface d' i' interface hi
    · exact h.interface d' i' interface hi
  payload := h.payload
  transmitDelay := h.transmitDelay

/-- The configuration at every stage of the preparation. -/
structure Preparing (config : ScheduleConfig) : Prop extends WellFormed config where
  cycleTime : config.cycleTime = 1
  reserveTime : config.reserveTime = 50

theorem Preparing.touchInterface {config : ScheduleConfig} (h : config.Preparing) (d i : ℤ) :
    (config.touchInterface d i).Preparing :=
  ⟨h.toWellFormed.touchInterface d i, h.cycleTime, h.reserveTime⟩

theorem preparing_empty : Preparing {} where
  interface d i interface h := by
    simp [getScheduleConfigDevice, default] at h
  payload id := by simp [getScheduleConfigStream, default]
  transmitDelay id := by simp [computeTransmitDelay, getScheduleConfigLink, default]
  cycleTime := rfl
  reserveTime := rfl

theorem preparing_of_prepareScheduleConfigVLAN {config config' : ScheduleConfig}
    (h : prepareScheduleConfigVLAN project config = .ok config') (hc : config.Preparing) :
    config'.Preparing := by
  refine foldlM_rule h
    ⟨⟨hc.interface, hc.payload, hc.transmitDelay⟩, hc.cycleTime,
      hc.reserveTime⟩ fun c c' stream hI hstep => ?_
  dsimp only at hstep
  split at hstep
  · cases hstep
    exact hI
  · split at hstep
    · cases hstep
    · split_ifs at hstep
      · cases hstep
        exact ⟨⟨hI.interface, hI.payload, hI.transmitDelay⟩, hI.cycleTime, hI.reserveTime⟩
      · cases hstep
        exact hI

/-- The map of a device: every interface is stored under its own id. -/
theorem interfaceId_addInterface {interfaces : List Interface}
    {acc : Status × QMap ℤ ScheduleConfigInterface}
    (hacc : ∀ i (interface : ScheduleConfigInterface), acc.2[i]? = some interface →
      interface.interfaceId = i) (i : ℤ) (interface : ScheduleConfigInterface)
    (h : (interfaces.foldl (addInterface project device) acc).2[i]? = some interface) :
    interface.interfaceId = i := by
  induction interfaces generalizing acc with
  | nil => exact hacc i interface h
  | cons x interfaces ih =>
    refine ih (fun j other hj => ?_) h
    unfold addInterface at hj
    split at hj
    · exact hacc j other hj
    · split at hj
      · exact hacc j other hj
      · dsimp only at hj
        rw [Std.TreeMap.getElem?_insert] at hj
        split_ifs at hj with hx
        · rw [Std.LawfulEqCmp.compare_eq_iff_eq] at hx
          cases hj
          exact hx
        · exact hacc j other hj

theorem Preparing.addDevice {acc : Status × ScheduleConfig} (h : acc.2.Preparing)
    (device : Device) : (addDevice project acc device).2.Preparing where
  interface d i interface hi := by
    simp only [ScheduleConfig.addDevice, getScheduleConfigDevice, value_insert] at hi
    split_ifs at hi
    · exact .inl (interfaceId_addInterface (by simp) i interface hi)
    · exact h.interface d i interface hi
  payload := h.payload
  transmitDelay := h.transmitDelay
  cycleTime := h.cycleTime
  reserveTime := h.reserveTime

theorem preparing_of_prepareScheduleConfigDevice {config config' : ScheduleConfig}
    (h : prepareScheduleConfigDevice project config = .ok config') (hc : config.Preparing) :
    config'.Preparing := by
  have hfold : ((project.devices.foldl (ScheduleConfig.addDevice project)
      (.success, config)).2).Preparing := by
    refine Loop.foldl_rule (I := fun _ (acc : Status × ScheduleConfig) => acc.2.Preparing) hc ?_
    exact fun _ device _ _ hacc => hacc.addDevice device
  simp only [prepareScheduleConfigDevice] at h
  split_ifs at h
  cases h
  exact hfold

theorem Preparing.prepareScheduleConfigLink {config : ScheduleConfig} (h : config.Preparing)
    (project : Project) : (prepareScheduleConfigLink project config).Preparing := by
  refine Loop.foldl_rule (I := fun _ (c : ScheduleConfig) => c.Preparing) h ?_
  refine fun _ link _ _ hc =>
    ⟨⟨hc.interface, hc.payload, fun id => ?_⟩, hc.cycleTime, hc.reserveTime⟩
  have hid := hc.transmitDelay id
  simp only [computeTransmitDelay, getScheduleConfigLink, value_insert] at hid ⊢
  split_ifs
  · positivity
  · exact hid

theorem Preparing.readListeners {config : ScheduleConfig} (h : config.Preparing)
    (listeners : QSet TrafficStreamInterface) : (readListeners config listeners).1.Preparing := by
  refine Loop.foldl_rule
    (I := fun _ (acc : ScheduleConfig × QSet ScheduleConfigInterface) => acc.1.Preparing) h ?_
  exact fun _ listener _ _ hacc => hacc.touchInterface _ _

theorem computePayload_nonneg {application : TrafficApplication} {payload : ℤ}
    (h : computePayload project application = some payload) : 0 ≤ payload := by
  simp only [computePayload] at h
  obtain ⟨frames, hframes, h⟩ := Option.bind_eq_some_iff.1 h
  obtain ⟨count, hcount, h⟩ := Option.bind_eq_some_iff.1 h
  cases h
  have hnn : 0 ≤ frames := Binary64.nonneg_of_div
    (Binary64.ofInt_nonneg (Int.natCast_nonneg _)) (Binary64.ofInt_nonneg (Int.natCast_nonneg _))
    hframes
  have hcount := Binary64.qCeil_nonneg hnn hcount
  positivity

theorem payload_of_setApplication {application : TrafficApplication} {mac : String}
    {vlan vlan' : ScheduleConfigVLAN} {stream : ScheduleConfigStream}
    (h : setApplication fuel project application mac vlan stream = .ok (vlan', stream')) :
    0 ≤ stream'.payload := by
  simp only [setApplication] at h
  split at h
  · cases h
  · next payload hpayload =>
    have hnn := computePayload_nonneg hpayload
    split_ifs at h
    · split at h
      · cases h
      · cases h
        exact hnn
      · cases h
    · cases h
      exact hnn

theorem payload_of_keepPrevious {stream : ScheduleConfigStream} {streamId : ℤ}
    (h : keepPrevious project stream streamId = .ok stream') :
    stream'.payload = stream.payload := by
  simp only [keepPrevious] at h
  split_ifs at h
  · split at h
    · cases h
      rfl
    · split at h
      · cases h
      · cases h
        rfl
  · cases h
    rfl

theorem Preparing.addStream {config config' : ScheduleConfig} (hc : config.Preparing)
    (h : addStream fuel project config setting = .ok config') : config'.Preparing := by
  simp only [ScheduleConfig.addStream] at h
  split_ifs at h
  · cases h
    exact hc
  · obtain ⟨⟨vlan, stream⟩, happlication, h⟩ := exists_of_bind h
    obtain ⟨stream', hkeep, h⟩ := exists_of_bind h
    cases h
    have hpayload : 0 ≤ stream'.payload := by
      rw [payload_of_keepPrevious hkeep]
      unfold findApplication at happlication
      split at happlication
      · cases happlication
        exact le_rfl
      · exact payload_of_setApplication happlication
    have hread :=
      (hc.touchInterface setting.talker.deviceId setting.talker.interfaceId).readListeners
      setting.listeners
    refine ⟨⟨hread.interface, fun id => ?_, hread.transmitDelay⟩, hread.cycleTime,
      hread.reserveTime⟩
    rw [getScheduleConfigStream, value_insert]
    split_ifs
    · exact hpayload
    · exact hread.payload id

/-- **What the preparation guarantees.** -/
theorem wellFormed_of_prepareScheduleConfig {config : ScheduleConfig}
    (h : prepareScheduleConfig fuel project = .ok config) :
    config.WellFormed ∧ 0 ≤ config.cycleTime ∧ config.reserveTime = 50 := by
  obtain ⟨c₁, h₁, h⟩ := exists_of_bind h
  obtain ⟨c₂, h₂, h⟩ := exists_of_bind h
  obtain ⟨c₃, h₃, h⟩ := exists_of_bind h
  cases h
  have hp₂ := preparing_of_prepareScheduleConfigDevice h₂
    (preparing_of_prepareScheduleConfigVLAN h₁ preparing_empty)
  have hp₃ : c₃.Preparing := foldlM_rule h₃ (hp₂.prepareScheduleConfigLink project)
    fun c c' stream hI hstep => hI.addStream hstep
  refine ⟨⟨hp₃.interface, hp₃.payload, hp₃.transmitDelay⟩, ?_, hp₃.reserveTime⟩
  refine Loop.foldl_rule (I := fun _ (cycleTime : ℤ) => 0 ≤ cycleTime) ?_ fun _ _ _ _ _ => ?_
  · rw [hp₃.cycleTime]
    decide
  · exact Int.natCast_nonneg _

/-! ### The VLANs of the streams -/

theorem takenInRange_of_prepareScheduleConfigVLAN {config config' : ScheduleConfig}
    (h : prepareScheduleConfigVLAN project config = .ok config') :
    config'.scheduleConfigVLAN.TakenInRange := by
  refine foldlM_rule (I := fun c : ScheduleConfig => c.scheduleConfigVLAN.TakenInRange)
    h (ScheduleConfigVLAN.takenInRange_init _ _) fun c c' stream hI hstep => ?_
  dsimp only at hstep
  split at hstep
  · cases hstep
    exact hI
  · split at hstep
    · cases hstep
    · split_ifs at hstep
      · cases hstep
        exact hI.setVLAN _ _
      · cases hstep
        exact hI

theorem takenInRange_of_setApplication {application : TrafficApplication} {mac : String}
    {vlan vlan' : ScheduleConfigVLAN} {stream : ScheduleConfigStream} (hv : vlan.TakenInRange)
    (h : setApplication fuel project application mac vlan stream = .ok (vlan', stream')) :
    vlan'.TakenInRange := by
  simp only [setApplication] at h
  split at h
  · cases h
  · split_ifs at h
    · split at h
      · cases h
      · next hgenerate =>
        cases h
        obtain ⟨found, hfound⟩ := ScheduleConfigVLAN.exists_assign_of_generate hgenerate
        have hassign := hv.assign mac found
        rwa [hfound] at hassign
      · cases h
    · cases h
      exact hv

theorem takenInRange_addStream {config config' : ScheduleConfig}
    (hc : config.scheduleConfigVLAN.TakenInRange)
    (h : addStream fuel project config setting = .ok config') :
    config'.scheduleConfigVLAN.TakenInRange := by
  simp only [ScheduleConfig.addStream] at h
  split_ifs at h
  · cases h
    exact hc
  · obtain ⟨⟨vlan, stream⟩, happlication, h⟩ := exists_of_bind h
    obtain ⟨stream', -, h⟩ := exists_of_bind h
    cases h
    have hread : (readListeners (config.touchInterface setting.talker.deviceId
        setting.talker.interfaceId) setting.listeners).1.scheduleConfigVLAN.TakenInRange := by
      refine Loop.foldl_rule (I := fun _ (acc : ScheduleConfig × QSet ScheduleConfigInterface) =>
        acc.1.scheduleConfigVLAN.TakenInRange) hc ?_
      exact fun _ _ _ _ hacc => hacc
    unfold findApplication at happlication
    split at happlication
    · cases happlication
      exact hread
    · exact takenInRange_of_setApplication hread happlication

/-- **The VLANs that are taken when the computation starts** are ids of the range. -/
theorem takenInRange_of_prepareScheduleConfig {config : ScheduleConfig}
    (h : prepareScheduleConfig fuel project = .ok config) :
    config.scheduleConfigVLAN.TakenInRange := by
  obtain ⟨c₁, h₁, h⟩ := exists_of_bind h
  obtain ⟨c₂, h₂, h⟩ := exists_of_bind h
  obtain ⟨c₃, h₃, h⟩ := exists_of_bind h
  cases h
  have hc₂ : c₂.scheduleConfigVLAN.TakenInRange := by
    simp only [prepareScheduleConfigDevice] at h₂
    split_ifs at h₂
    cases h₂
    refine Loop.foldl_rule (I := fun _ (acc : Status × ScheduleConfig) =>
      acc.2.scheduleConfigVLAN.TakenInRange) (takenInRange_of_prepareScheduleConfigVLAN h₁) ?_
    exact fun _ _ _ _ hacc => hacc
  have hlinks : (prepareScheduleConfigLink project c₂).scheduleConfigVLAN.TakenInRange := by
    refine Loop.foldl_rule
      (I := fun _ (c : ScheduleConfig) => c.scheduleConfigVLAN.TakenInRange) hc₂ ?_
    exact fun _ _ _ _ hc => hc
  unfold prepareScheduleConfigStream at h₃
  have hc₃ := foldlM_rule
    (I := fun (c : ScheduleConfig) => c.scheduleConfigVLAN.TakenInRange) h₃ hlinks
    fun c c' stream hI hstep => takenInRange_addStream hI hstep
  exact hc₃

/-! ### The devices of the project -/

/-- A device of the project has been read into the configuration. -/
def HasDevice (config : ScheduleConfig) (device : Device) : Prop :=
  config.getScheduleConfigDevice device.id =
    { prepared := true
      ipAddress := device.ipAddress
      numberOfQueue := device.deviceProperty.numberOfQueue
      perQueueSize := device.deviceProperty.perQueueSize
      gateControlListLength := device.deviceProperty.gateControlListLength
      tsnEnable := device.deviceProperty.ieee802Dot1Qbv
      cbEnable := device.deviceProperty.ieee802Dot1CB
      endStation := device.deviceType == .endStation || device.deviceType == .bridgedEndStation
      scheduleConfigInterfaces :=
        (config.getScheduleConfigDevice device.id).scheduleConfigInterfaces }

theorem HasDevice.touchInterface {config : ScheduleConfig} (h : config.HasDevice device) (d i : ℤ) :
    (config.touchInterface d i).HasDevice device := by
  unfold HasDevice at h ⊢
  rw [(extends_touchInterface config d i).device, h]

/-- The streams are read over the devices that were read before. -/
theorem HasDevice.addStream {config config' : ScheduleConfig} (hc : config.HasDevice device)
    (h : addStream fuel project config setting = .ok config') : config'.HasDevice device := by
  simp only [ScheduleConfig.addStream] at h
  split_ifs at h
  · cases h
    exact hc
  · obtain ⟨⟨vlan, stream⟩, -, h⟩ := exists_of_bind h
    obtain ⟨stream', -, h⟩ := exists_of_bind h
    cases h
    refine Loop.foldl_rule
      (I := fun _ (acc : ScheduleConfig × QSet ScheduleConfigInterface) => acc.1.HasDevice device)
      (hc.touchInterface _ _) ?_
    exact fun _ _ _ _ hacc => hacc.touchInterface _ _

/-- **Every device of the project** is read into the configuration. -/
theorem hasDevice_of_prepareScheduleConfig {config : ScheduleConfig}
    (h : prepareScheduleConfig fuel project = .ok config)
    (hdevs : QSet.Distinct project.devices) :
    ∀ device ∈ project.devices, config.HasDevice device := by
  intro device hdev
  obtain ⟨c₁, -, h⟩ := exists_of_bind h
  obtain ⟨c₂, h₂, h⟩ := exists_of_bind h
  obtain ⟨c₃, h₃, h⟩ := exists_of_bind h
  cases h
  have hread : ∀ device ∈ project.devices,
      ((project.devices.foldl (ScheduleConfig.addDevice project) (.success, c₁)).2).HasDevice
        device := by
    refine Loop.foldl_rule (I := fun passed (acc : Status × ScheduleConfig) =>
      ∀ device ∈ passed, acc.2.HasDevice device) (fun _ hd => absurd hd List.not_mem_nil) ?_
    intro passed other rest hl hI device hd
    have hdist := hdevs
    rw [hl, QSet.Distinct, List.pairwise_append] at hdist
    simp only [HasDevice, ScheduleConfig.addDevice, getScheduleConfigDevice, value_insert]
    rcases List.mem_append.1 hd with hd | hd
    · -- a device read before has another id
      have hne := hdist.2.2 device hd other List.mem_cons_self
      have hid : other.id ≠ device.id := fun e => by
        simp [BEq.beq, e] at hne
      rw [if_neg hid]
      exact hI device hd
    · obtain rfl := List.mem_singleton.1 hd
      rw [if_pos rfl]
  have hc₂ : c₂.HasDevice device := by
    simp only [prepareScheduleConfigDevice] at h₂
    split_ifs at h₂
    cases h₂
    exact hread device hdev
  have hlinks : (prepareScheduleConfigLink project c₂).HasDevice device := by
    refine Loop.foldl_rule (I := fun _ (c : ScheduleConfig) => c.HasDevice device) hc₂ ?_
    exact fun _ _ _ _ hc => hc
  unfold prepareScheduleConfigStream at h₃
  have hc₃ := foldlM_rule (I := fun (c : ScheduleConfig) => c.HasDevice device) h₃ hlinks
    fun c c' stream hI hstep => hI.addStream hstep
  exact hc₃

/-! ### Durations and delays -/

theorem bandwidth_nonneg {config : ScheduleConfig}
    (h : ∀ link ∈ config.scheduleConfigLinks.vals, 0 ≤ link.bandwidth) (id : ℤ) :
    0 ≤ (config.getScheduleConfigLink id).bandwidth := by
  rw [getScheduleConfigLink, value_eq_getD]
  cases hl : config.scheduleConfigLinks[id]? with
  | none => exact le_rfl
  | some link => exact h link (mem_vals.2 ⟨id, hl⟩)

theorem earliestTransmitOffset_nonneg {config : ScheduleConfig}
    (h : ∀ stream ∈ config.scheduleConfigStreams.vals, 0 ≤ stream.earliestTransmitOffset)
    (id : ℤ) : 0 ≤ (config.getScheduleConfigStream id).earliestTransmitOffset := by
  rw [getScheduleConfigStream, value_eq_getD]
  cases hs : config.scheduleConfigStreams[id]? with
  | none => exact le_rfl
  | some stream => exact h stream (mem_vals.2 ⟨id, hs⟩)

section
variable {config : ScheduleConfig} (h : config.WellFormed)
  (hbandwidth : ∀ id, 0 ≤ (config.getScheduleConfigLink id).bandwidth)
include h hbandwidth

theorem WellFormed.computeStreamDuration_nonneg {streamId linkId duration : ℤ}
    (hdur : config.computeStreamDuration streamId linkId = some duration) : 0 ≤ duration := by
  simp only [computeStreamDuration] at hdur
  obtain ⟨seconds, hseconds, hdur⟩ := Option.bind_eq_some_iff.1 hdur
  have hnn : 0 ≤ seconds := Binary64.nonneg_of_div (Binary64.ofInt_nonneg (h.payload _))
    (Binary64.ofInt_nonneg (hbandwidth _)) hseconds
  exact Binary64.qCeil_nonneg (Binary64.round_nonneg (by positivity)) hdur

theorem WellFormed.computeTotalDelay_nonneg {d i streamId totalDelay : ℤ}
    (hdelay : config.computeTotalDelay d i streamId = some totalDelay) : 0 ≤ totalDelay := by
  simp only [computeTotalDelay] at hdelay
  obtain ⟨processing, hprocessing, hdelay⟩ := Option.bind_eq_some_iff.1 hdelay
  simp only [computeProcessingDelay] at hprocessing
  obtain ⟨duration, hdur, hprocessing⟩ := Option.bind_eq_some_iff.1 hprocessing
  cases hprocessing
  cases hdelay
  have hnn := h.computeStreamDuration_nonneg hbandwidth hdur
  have htrans := h.transmitDelay (config.getScheduleConfigInterface d i).linkId
  positivity

end

end ScheduleConfig
end Algorithm
end Sebastian

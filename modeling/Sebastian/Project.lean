/-
# `ActProject`

The project as it is stored (`common/act_project.hpp`,
`common/topology/act_device.hpp`, `common/topology/act_link.hpp`,
`common/stream/act_traffic.hpp`, `common/stream/act_stream.hpp`): devices with
their interfaces, the links between them,
  the streams and the traffic design.  Of each class the fields stand here that
some modelled function reads or writes, with the defaults of its constructor.

Devices and links live in a `QSet` whose comparison is written field by field:
two devices are the same when they share the id *or* the address, two links
when they share the id *or* any endpoint.  Neither is transitive.
-/

import Sebastian.ComputedResult
import Sebastian.DeviceConfig
import Sebastian.StreamSpecification

namespace Sebastian

/-- `ActInterface` -/
structure Interface where
  deviceId : ℤ := -1
  interfaceId : ℤ := -1
  interfaceName : String := ""
  macAddress : String := ""
  active : Bool := true
  used : Bool := false
  management : Bool := false
  rootGuard : Bool := false
  supportSpeeds : List ℤ := []
  deriving DecidableEq

/-- `ActDeviceTypeEnum` -/
inductive DeviceType where
  | tsnSwitch
  | endStation
  | bridgedEndStation
  | switch
  | poeAccessory
  | networkMgmtSoftware
  | icmp
  | unknown
  | moxa
  deriving DecidableEq

/-- `ActDeviceRoleEnum` -/
inductive DeviceRole where
  | rstpRoot
  | rstpBackupRoot
  | rstp
  | swiftRoot
  | swiftBackupRoot
  | swift
  | ringMaster
  | turboRing
  | turboChain
  | unknown
  deriving DecidableEq

/-- `ActProcessingDelay` -/
structure ProcessingDelay where
  independentDelay : UInt16
  dependentDelayRatio : UInt16
  deriving Inhabited

/-- `ActDeviceClusterEnum` -/
inductive DeviceCluster where
  | default
  | nz2mhg
  deriving DecidableEq

/-- `ActDeviceProperty` -/
structure DeviceProperty where
  modelName : String := ""
  vendor : String := ""
  deviceCluster : DeviceCluster := .default
  numberOfQueue : UInt16 := 0
  perQueueSize : UInt16 := 0
  gateControlListLength : UInt16 := 0
  /-- `feature_group.configuration.tsn.ieee802Dot1Qbv` -/
  ieee802Dot1Qbv : Bool := false
  /-- `feature_group.configuration.tsn.ieee802Dot1CB` -/
  ieee802Dot1CB : Bool := false
  /-- `feature_group.configuration.user_account` -/
  userAccount : Bool := false
  /-- `feature_group.configuration.time_sync_setting` -/
  timeSyncSetting : TimeSyncSettingItem := {}
  /-- `feature_group.configuration.port_setting.admin_status` -/
  adminStatus : Bool := false
  /-- `feature_group.configuration.vlan_setting` -/
  vlanSetting : VlanSettingItem := {}
  /-- `feature_group.configuration.stp_rstp` -/
  stpRstp : STPRSTPItem := {}
  /-- `feature_group.configuration.static_forward_setting` -/
  staticForwardSetting : StaticForwardSettingItem := {}
  reservedVlan : Finset ℤ := {1}
  /-- Per link speed in Mbps. -/
  processingDelayMap : QMap UInt16 ProcessingDelay := ∅
  trafficSpecification : TrafficSpecification := {}

/-- What is reported of a module in a slot (`ActDeviceSimpleEthernetModule`,
`ActDeviceSimplePowerModule`). -/
structure SimpleModule where
  moduleName : String := ""
  serialNumber : String := ""
  deriving DecidableEq, Inhabited

/-- `ActDeviceModularConfiguration`: the modules by slot, as module ids. -/
structure ModularConfiguration where
  ethernet : QMap ℤ ℤ := ∅
  power : QMap ℤ ℤ := ∅

/-- `ActDeviceModularInfo`: the modules found in the slots. -/
structure ModularInfo where
  ethernet : QMap ℤ SimpleModule := ∅
  power : QMap ℤ SimpleModule := ∅

/-- `ActCoordinate` -/
structure Coordinate where
  x : ℤ := 404
  y : ℤ := 404
  deriving DecidableEq

/-- `ActDevice` -/
structure Device where
  id : ℤ := -1
  ipAddress : String := ""
  macAddress : String := ""
  serialNumber : String := ""
  firmwareVersion : String := ""
  deviceProfileId : ℤ := -1
  groupId : ℤ := -1
  modularConfiguration : ModularConfiguration := {}
  modularInfo : ModularInfo := {}
  coordinate : Coordinate := {}
  deviceType : DeviceType := .unknown
  deviceProperty : DeviceProperty := {}
  tier : Int16 := 0
  deviceRole : DeviceRole := .unknown
  interfaces : List Interface := []

/-- `operator==(ActDevice)` -/
instance : BEq Device := ⟨fun x y => x.id == y.id || x.ipAddress == y.ipAddress⟩

/-- `ActCableTypeEnum` -/
inductive CableType where
  | copper
  | fiber
  | twoWire
  | spe
  deriving DecidableEq

/-- `ActLink` -/
structure Link where
  id : ℤ := -1
  /-- In Mbps. -/
  speed : UInt16 := 1000
  cableLength : UInt32 := 1
  cableType : CableType := .copper
  /-- In nanoseconds. -/
  propagationDelay : UInt32 := 5
  sourceDeviceId : ℤ := -1
  sourceDeviceIp : String := ""
  sourceInterfaceId : ℤ := -1
  destinationDeviceId : ℤ := -1
  destinationDeviceIp : String := ""
  destinationInterfaceId : ℤ := -1

/-- `operator==(ActLink)` -/
instance : BEq Link where
  beq x y :=
    x.id == y.id ||
    (x.sourceDeviceId == y.sourceDeviceId && x.sourceInterfaceId == y.sourceInterfaceId) ||
    (x.destinationDeviceId == y.destinationDeviceId &&
      x.destinationInterfaceId == y.destinationInterfaceId) ||
    (x.sourceDeviceId == y.destinationDeviceId &&
      x.sourceInterfaceId == y.destinationInterfaceId) ||
    (x.destinationDeviceId == y.sourceDeviceId &&
      x.destinationInterfaceId == y.sourceInterfaceId)

/-- `ActTrafficStreamInterface` -/
structure TrafficStreamInterface where
  deviceId : ℤ := -1
  interfaceId : ℤ := -1
  deriving DecidableEq

/-- `ActTrafficStream` -/
structure TrafficStream where
  id : ℤ := -1
  active : Bool := true
  streamName : String := ""
  applicationId : ℤ := 0
  multicast : Bool := false
  destinationMac : String := ""
  talker : TrafficStreamInterface := {}
  listeners : QSet TrafficStreamInterface := []

/-- `operator==(ActTrafficStream)` -/
instance : BEq TrafficStream := ⟨fun x y => x.id == y.id⟩

/-- `ActTrafficQosTypeEnum` -/
inductive TrafficQosType where
  | bandwidth
  | boundedLatency
  | deadline
  deriving DecidableEq, Inhabited

/-- `ActTrafficTypeConfiguration` -/
structure TrafficTypeConfiguration where
  trafficClass : UInt8 := 0
  trafficType : String := ""
  priorityCodePointSet : QSet UInt8 := []

/-- `ActTrafficSetting`.  A `qreal` is the rational number it stands for. -/
structure TrafficSetting where
  trafficTypeClass : UInt8 := 6
  qosType : TrafficQosType := .bandwidth
  minReceiveOffset : ℚ := 1
  maxReceiveOffset : ℚ := 1000

/-- `ActTrafficTSN` -/
structure TrafficTSN where
  active : Bool := false
  frer : Bool := false

/-- `ActTrafficUntaggedModeEnum` -/
inductive TrafficUntaggedMode where
  | pvid
  | perStreamPriority
  deriving DecidableEq

/-- `ActTrafficVlanSetting` -/
structure TrafficVlanSetting where
  vlanId : UInt16 := 0
  priorityCodePoint : UInt8 := 0
  tagged : Bool := false
  userDefinedVlan : Bool := false
  untaggedMode : TrafficUntaggedMode := .perStreamPriority
  type : Finset StreamPriorityType := {.etherType}
  etherType : UInt32 := 0
  enableSubType : Bool := false
  subType : UInt16 := 0
  udpPort : ℤ := 1
  tcpPort : ℤ := 1

/-- `ActTrafficStreamParameter`, times in microseconds. -/
structure TrafficStreamParameter where
  interval : ℚ := 1000
  maxFrameSize : UInt32 := 46
  maxFramesPerInterval : UInt32 := 1
  maxBytesPerInterval : UInt32 := 46
  earliestTransmitOffset : ℚ := 0
  latestTransmitOffset : ℚ := 1000
  jitter : ℚ := 0

/-- `ActTrafficApplication` -/
structure TrafficApplication where
  id : ℤ := 0
  applicationName : String := ""
  trafficSetting : TrafficSetting := {}
  tsn : TrafficTSN := {}
  vlanSetting : TrafficVlanSetting := {}
  streamParameter : TrafficStreamParameter := {}

/-- `operator==(ActTrafficApplication)` -/
instance : BEq TrafficApplication := ⟨fun x y => x.id == y.id⟩

/-- `ActTrafficDesign` -/
structure TrafficDesign where
  trafficTypeConfigurationSetting : List TrafficTypeConfiguration := []
  applicationSetting : QSet TrafficApplication := []
  streamSetting : QSet TrafficStream := []

/-- `ActComputedResult` -/
structure ComputedResult where
  routingResults : QSet RoutingResult := []
  streamViewResults : QSet StreamViewResult := []
  gclResults : List GclResult := []
  /-- What the result was computed from. -/
  devices : QSet Device := []
  links : QSet Link := []
  trafficDesign : TrafficDesign := {}

/-- `ActRSTP` -/
structure RSTP where
  id : ℤ := -1
  helloTime : ℤ := 1
  rootDevice : ℤ := -1
  /-- -1 for none. -/
  backupRootDevice : ℤ := -1
  devices : QSet ℤ := []

/-- `operator==(ActRSTP)` -/
instance : BEq RSTP := ⟨fun x y => x.id == y.id⟩

/-- `ActSwift`, a turbo ring -/
structure Swift where
  active : Bool := false
  rootDevice : ℤ := -1
  backupRootDevice : ℤ := -1
  deviceTierMap : QMap ℤ Int16 := ∅
  links : QSet ℤ := []

/-- `ActIntelligentVlanStreamTypeEnum` -/
inductive IntelligentVlanStreamType where
  | unknown
  | tagged
  | untagged
  deriving DecidableEq

/-- `ActIntelligentVlan`, a VLAN group -/
structure IntelligentVlan where
  vlanId : UInt16 := -1
  streamType : IntelligentVlanStreamType := .unknown
  endStationList : QSet ℤ := []

/-- `operator==(ActIntelligentVlan)` -/
instance : BEq IntelligentVlan := ⟨fun x y => x.vlanId == y.vlanId⟩

/-- `ActGroup`, a group of devices and of other groups -/
structure Group where
  id : ℤ := -1
  name : String := ""
  /-- -1 for none. -/
  parentId : ℤ := -1
  deviceIds : QSet ℤ := []
  deriving Inhabited

/-- `ActManagementInterface` -/
structure ManagementInterface where
  deviceId : ℤ := -1
  interfaces : QSet ℤ := []

/-- `ActSkuQuantity`: how many pieces of an article the project has, and how many of them
its topology uses. -/
structure SkuQuantity where
  quantity : ℤ := 0
  inTopologyCount : ℤ := 0
  deriving Inhabited, DecidableEq

/-- `ActListener` -/
structure Listener where
  endStationInterface : Interface := {}
  userToNetworkRequirement : UserToNetworkRequirement := {}

/-- `ActTalker` -/
structure Talker where
  endStationInterface : Interface := {}
  dataFrameSpecifications : List DataFrameSpecification := []
  trafficSpecification : TrafficSpecification := {}

/-- `operator==(ActTalker)` -/
instance : BEq Talker where
  beq x y :=
    x.endStationInterface.deviceId == y.endStationInterface.deviceId &&
    x.endStationInterface.interfaceId == y.endStationInterface.interfaceId

/-- `ActStream` -/
structure Stream where
  id : ℤ := -1
  vlanId : UInt16 := 0
  priorityCodePoint : UInt8 := 0
  streamId : StreamId := {}
  streamName : String := ""
  tagged : Bool := false
  untaggedMode : StreamUntaggedMode := .pvid
  streamTrafficType : StreamTrafficType := .na
  qosType : QosType := .bandwidth
  /-- `cb.active` -/
  cbActive : Bool := false
  multicast : Bool := false
  userDefinedVlan : Bool := false
  talker : Talker := {}
  listeners : List Listener := []
  streamStatus : StreamStatus := .planned

/-- `operator==(ActStream)` -/
instance : BEq Stream := ⟨fun x y => x.id == y.id⟩

/-- `ActTrafficTypeToPriorityCodePointMapping` -/
structure TrafficTypeToPriorityCodePointMapping where
  bestEffort : QSet UInt8 := [0, 1]
  cyclic : QSet UInt8 := [2, 3, 4, 5, 7]
  timeSync : QSet UInt8 := [6]

/-- `ActAlgorithmConfiguration` -/
structure AlgorithmConfiguration where
  mediaSpecificOverheadBytes : UInt32 := 43
  /-- In nanoseconds. -/
  timeSyncDelay : UInt32 := 200
  keepPreviousResult : Bool := false

/-- `ActProject` -/
structure Project where
  id : ℤ := -1
  projectName : String := ""
  /-- `project_setting.project_start_ip` -/
  projectStartIp : String := "192.168.127.1"
  /-- `project_setting.traffic_type_to_priority_code_point_mapping` -/
  trafficTypeToPriorityCodePointMapping : TrafficTypeToPriorityCodePointMapping := {}
  devices : QSet Device := []
  links : QSet Link := []
  lastAssignedDeviceId : ℤ := 0
  lastAssignedLinkId : ℤ := 0
  lastAssignedRstpId : ℤ := 0
  lastAssignedStreamId : ℤ := 0
  usedIpAddresses : QSet UInt32 := []
  usedCoordinates : QSet Coordinate := []
  /-- `topology_setting.redundant_group.rstp` -/
  rstpGroups : QSet RSTP := []
  /-- `topology_setting.redundant_group.swift` -/
  swift : Swift := {}
  /-- `topology_setting.intelligent_vlan_group` -/
  intelligentVlanGroup : QSet IntelligentVlan := []
  /-- `topology_setting.groups` -/
  groups : QMap ℤ Group := ∅
  /-- `topology_setting.management_interfaces` -/
  managementInterfaces : List ManagementInterface := []
  streams : QSet Stream := []
  skuQuantitiesMap : QMap String SkuQuantity := ∅
  trafficDesign : TrafficDesign := {}
  algorithmConfiguration : AlgorithmConfiguration := {}
  /-- `vlan_range` -/
  vlanMin : UInt16 := 2
  vlanMax : UInt16 := 4094
  computedResult : ComputedResult := {}
  /-- `device_config.vlan_tables` -/
  vlanTables : QMap ℤ VlanTable := ∅
  /-- `device_config.rstp_tables` -/
  rstpTables : QMap ℤ RstpTable := ∅

namespace Project

/-- `GetDeviceById`: the set is searched for a device made of the id alone. -/
def getDeviceById (project : Project) (deviceId : ℤ) : Option Device :=
  project.devices.find { id := deviceId }

/-- `GetLinkById` -/
def getLinkById (project : Project) (linkId : ℤ) : Option Link :=
  project.links.find { id := linkId }

end Project

/-- The device at the other end of the link, seen from this one. -/
def Link.neighborId (link : Link) (deviceId : ℤ) : ℤ :=
  if link.sourceDeviceId = deviceId then link.destinationDeviceId else link.sourceDeviceId

/-- One of the two ends of the link is this interface. -/
def Link.hasEndpoint (link : Link) (deviceId interfaceId : ℤ) : Bool :=
  (link.sourceDeviceId == deviceId && link.sourceInterfaceId == interfaceId) ||
  (link.destinationDeviceId == deviceId && link.destinationInterfaceId == interfaceId)

/-- `GetLinkByInterfaceId` -/
def Project.getLinkByInterfaceId (project : Project) (deviceId interfaceId : ℤ) : Option Link :=
  List.find? (·.hasEndpoint deviceId interfaceId) project.links

end Sebastian

/-
# Device configuration tables

The tables of `ActDeviceConfig` that some modelled function reads or writes
(`common/deploy_entry/act_vlan_static_entry.hpp`,
`common/deploy_entry/act_deploy_table.hpp`).  The three sets of a VLAN table
compare their entries by one number, the VLAN or the port, and stand here as
maps from it.
-/

import Sebastian.Lib.QMap
import Sebastian.Lib.QSet

namespace Sebastian

/-- `ActVlanPortTypeEnum` -/
inductive VlanPortType where
  | access
  | trunk
  | hybrid
  deriving DecidableEq

/-- `ActVlanPriorityEnum` -/
inductive VlanPriority where
  | nonTSN
  | tsnUser
  | tsnSystem
  deriving DecidableEq

/-- `ActStreamPriorityTypeEnum` -/
inductive StreamPriorityType where
  | inactive
  | etherType
  | tcp
  | udp
  deriving DecidableEq

/-- `ACT_VLAN_INIT_PVID` -/
abbrev vlanInitPvid : ℤ := 1

/-- `ActVlanStaticEntry`, under its `vlan_id`. -/
structure VlanStaticEntry where
  vlanPriority : VlanPriority := .nonTSN
  name : String := ""
  untaggedPorts : Finset ℤ := ∅
  egressPorts : Finset ℤ := ∅
  rowStatus : ℤ := 1
  teMstid : Bool := false
  deriving DecidableEq

/-- `ActVlanStaticEntry(vlan_id)` -/
def VlanStaticEntry.ofId (vlanId : ℤ) : VlanStaticEntry := { name := "v" ++ toString vlanId }

/-- `ActPortVlanEntry`, under its `port_id`. -/
structure PortVlanEntry where
  pvid : UInt16
  vlanPriority : VlanPriority := .nonTSN
  deriving DecidableEq

/-- `ActVlanPortTypeEntry`, under its `port_id`. -/
structure VlanPortTypeEntry where
  vlanPortType : VlanPortType
  vlanPriority : VlanPriority := .nonTSN
  deriving DecidableEq

/-- `ActVlanTable` -/
structure VlanTable where
  deviceId : ℤ := -1
  managementVlan : ℤ := vlanInitPvid
  vlanStaticEntries : QMap ℤ VlanStaticEntry := ∅
  portVlanEntries : QMap ℤ PortVlanEntry := ∅
  vlanPortTypeEntries : QMap ℤ VlanPortTypeEntry := ∅

/-- `ActVlanSettingItem`, the VLAN features of a device. -/
structure VlanSettingItem where
  accessTrunkMode : Bool := false
  hybridMode : Bool := false
  managementVlan : Bool := false
  teMstid : Bool := false
  defaultPvid : Bool := false
  defaultPcp : Bool := false
  perStreamPriority : Bool := false
  perStreamPriorityV2 : Bool := false

/-- `ActVlanSettingItem::CheckSupportAnyOne` -/
def VlanSettingItem.checkSupportAnyOne (item : VlanSettingItem) : Bool :=
  item.accessTrunkMode || item.hybridMode || item.managementVlan || item.teMstid ||
    item.defaultPvid || item.defaultPcp || item.perStreamPriority || item.perStreamPriorityV2

/-- `ActTimeSyncSettingItem`, the time synchronization profiles of a device. -/
structure TimeSyncSettingItem where
  ieee1588 : Bool := false
  ieee802Dot1AS : Bool := false
  iec61850 : Bool := false
  ieeeC37Dot238 : Bool := false

/-- `ActTimeSyncSettingItem::CheckSupportAnyOne` -/
def TimeSyncSettingItem.checkSupportAnyOne (item : TimeSyncSettingItem) : Bool :=
  item.ieee1588 || item.ieee802Dot1AS || item.iec61850 || item.ieeeC37Dot238

/-- `ActStaticForwardSettingItem` -/
structure StaticForwardSettingItem where
  unicast : Bool := false
  multicast : Bool := false

/-- `ActSTPRSTPItem`, the spanning tree features of a device. -/
structure STPRSTPItem where
  rstp : Bool := false
  swift : Bool := false
  rootGuard : Bool := false

/-- `ActRstpTable` -/
structure RstpTable where
  deviceId : ℤ := -1
  active : Bool := true
  priority : ℤ := 32768
  helloTime : ℤ := 2
  rstpConfigSwift : Bool := false
  rstpConfigRevert : Bool := false
  deriving DecidableEq

/-! ### The tables of the ports -/

/-- `ActTimeSync802Dot1ASPortEntry`, under its `port_id` as the entries below. -/
structure TimeSync802Dot1ASPortEntry where
  enable : Bool := true
  announceInterval : ℤ := 0
  announceReceiptTimeout : ℤ := 3
  syncInterval : ℤ := -3
  syncReceiptTimeout : ℤ := 3
  pdelayReqInterval : ℤ := 0
  neighborPropDelayThresh : ℤ := 800

/-- `ActTimeSync1588PortEntry` -/
structure TimeSync1588PortEntry where
  enable : Bool := true
  announceInterval : ℤ := 1
  announceReceiptTimeout : ℤ := 3
  syncInterval : ℤ := 0
  delayReqInterval : ℤ := 0
  pdelayReqInterval : ℤ := 0

/-- `ActTimeSyncDefaultPortEntry` -/
structure TimeSyncDefaultPortEntry where
  enable : Bool := true
  announceInterval : ℤ := 0
  announceReceiptTimeout : ℤ := 3
  syncInterval : ℤ := 0
  delayReqInterval : ℤ := 0
  pdelayReqInterval : ℤ := 0

/-- `ActPortSettingEntry` -/
structure PortSettingEntry where
  adminStatus : Bool := true

/-- `ActDefaultPriorityEntry` -/
structure DefaultPriorityEntry where
  defaultPcp : UInt8 := 0

/-- `ActStadPortEntry` -/
structure StadPortEntry where
  portId : ℤ := -1
  ingressIndex : ℤ := 0
  indexEnable : ℤ := 2
  vlanId : ℤ := 1
  vlanPcp : ℤ := 0
  ethertypeValue : ℤ := 0
  subtypeEnable : ℤ := 2
  subtypeValue : ℤ := 0
  type : Finset StreamPriorityType := {.etherType}
  udpPort : ℤ := 1
  tcpPort : ℤ := 1

/-- `ActInterfaceStadPortEntry` -/
structure InterfaceStadPortEntry where
  stadPortEntries : List StadPortEntry := []

/-- `ActStadConfigEntry` -/
structure StadConfigEntry where
  egressUntag : ℤ := 2

/-- `ActAdminControl`, with its `ActSGSParams`. -/
structure AdminControl where
  index : UInt32 := 0
  operationName : String := ""
  gateStatesValue : UInt8 := 0
  timeIntervalValue : UInt32 := 0

/-- `ActInterfaceGateParameters`, with the base time as seconds and their fraction and the cycle
time as a quotient. -/
structure InterfaceGateParameters where
  gateEnabled : Bool := false
  configChange : Bool := true
  adminGateStates : UInt8 := 0
  adminBaseTime : UInt64 × UInt64 := (0, 0)
  adminCycleTime : UInt32 × UInt32 := (0, 1000000000)
  adminCycleTimeExtension : UInt32 := 0
  adminControlListLength : UInt32 := 0
  adminControlList : List AdminControl := []

/-- `ActRstpEdgeEnum` -/
inductive RstpEdge where
  | auto
  | yes
  | no

/-- `ActRstpLinkTypeEnum` -/
inductive RstpLinkType where
  | pointToPoint
  | shared
  | auto

/-- `ActRstpPortEntry` -/
structure RstpPortEntry where
  rstpEnable : Bool := true
  edge : RstpEdge := .auto
  portPriority : ℤ := 128
  pathCost : ℤ := 0
  linkType : RstpLinkType := .auto
  bpduGuard : Bool := false
  rootGuard : Bool := false
  loopGuard : Bool := false
  bpduFilter : Bool := false

/-- A table with an entry for each port: `ActPortSettingTable`, `ActDefaultPriorityTable`,
`ActStadPortTable`, `ActStadConfigTable`, `ActGclTable` and the ports of an `ActRstpTable`. -/
structure PortTable (ε : Type) where
  deviceId : ℤ := -1
  entries : QMap ℤ ε := ∅

instance {ε : Type} : Inhabited (PortTable ε) := ⟨{}⟩

/-- `ActTimeSyncTable`, the ports under each of the profiles. -/
structure TimeSyncTable where
  deviceId : ℤ := -1
  ieee802Dot1AS : QMap ℤ TimeSync802Dot1ASPortEntry := ∅
  ieee1588 : QMap ℤ TimeSync1588PortEntry := ∅
  iec61850 : QMap ℤ TimeSyncDefaultPortEntry := ∅
  ieeeC37Dot238 : QMap ℤ TimeSyncDefaultPortEntry := ∅

instance : Inhabited TimeSyncTable := ⟨{}⟩

/-! ### The other tables -/

/-- `ActStaticForwardEntry` -/
structure StaticForwardEntry where
  vlanId : ℤ := -1
  mac : String := ""
  egressPorts : Finset ℤ := ∅
  dot1qStatus : ℤ := 3
  forbiddenEgressPorts : Finset ℤ := ∅

/-- `operator==(ActStaticForwardEntry)`: the two numbers are compared as one text. -/
instance : BEq StaticForwardEntry :=
  ⟨fun x y => toString x.vlanId ++ x.mac == toString y.vlanId ++ y.mac⟩

/-- `ActStaticForwardTable` -/
structure StaticForwardTable where
  deviceId : ℤ := -1
  staticForwardEntries : QSet StaticForwardEntry := []

instance : Inhabited StaticForwardTable := ⟨{}⟩

/-- `ActUserAccountRoleEnum` -/
inductive UserAccountRole where
  | admin
  | supervisor
  | user

/-- `ActUserAccount` -/
structure UserAccount where
  active : Bool := true
  username : String := "admin"
  password : String := "moxa"
  role : UserAccountRole := .admin
  email : String := ""

/-- `ActUserAccountTable` -/
structure UserAccountTable where
  deviceId : ℤ := -1
  syncConnectionAccount : String := ""
  accounts : QMap String UserAccount := ∅

instance : Inhabited UserAccountTable := ⟨{}⟩

/-- `ActDeviceConfig`, the tables that hold something about the ports of a device or are filled
from the defaults of its profile, by device. -/
structure DeviceConfig where
  userAccountTables : QMap ℤ UserAccountTable := ∅
  timeSyncTables : QMap ℤ TimeSyncTable := ∅
  portSettingTables : QMap ℤ (PortTable PortSettingEntry) := ∅
  vlanTables : QMap ℤ VlanTable := ∅
  unicastStaticForwardTables : QMap ℤ StaticForwardTable := ∅
  multicastStaticForwardTables : QMap ℤ StaticForwardTable := ∅
  portDefaultPcpTables : QMap ℤ (PortTable DefaultPriorityEntry) := ∅
  streamPriorityIngressTables : QMap ℤ (PortTable InterfaceStadPortEntry) := ∅
  streamPriorityEgressTables : QMap ℤ (PortTable StadConfigEntry) := ∅
  gclTables : QMap ℤ (PortTable InterfaceGateParameters) := ∅
  rstpTables : QMap ℤ (PortTable RstpPortEntry) := ∅

end Sebastian

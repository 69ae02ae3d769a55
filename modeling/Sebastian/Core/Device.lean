/-
# Devices

`core/src/act_core_device.cpp`: creating, updating and deleting devices, with what the three
operations call on the way: matching a device with its profile (`MatchDeviceProfile`), checking
it (`CheckDevice`), and bringing the other stores of the project in line with it, the groups of
devices, the RSTP groups, the VLAN groups, the management interfaces, the links and the articles.

An operation works on a reference to the project, so that one that fails leaves the changes behind
it had made.  A failure therefore carries the project (`Failure`), and what an operation does to
the project can be read off its result in both cases.

Notifications and the connection parameters of a device (account, NETCONF, RESTful, SNMP) are no
part of the model, and neither is `g_dev_coordinate_set`, which nothing is ever inserted into.  Of
the configuration tables the project has two; `UpdateDeviceConfigTable` writes nothing but tables
and is a parameter here (`DeviceConfigTables` has it).
-/

import Sebastian.Core.RedundantGroup
import Sebastian.Core.ServiceProfile
import Sebastian.Core.VlanGroup

namespace Sebastian
namespace Core

open ExceptRule

variable {α : Type} {deviceId : ℤ} {toBag : Bool}

/-! ### What the operations are given -/

/-- What the program asks of `QHostAddress`. -/
structure AddressFormat where
  /-- `QHostAddress(text).isNull()` -/
  isNull : String → Bool
  /-- `QHostAddress(text).toString()` -/
  toText : String → String
  /-- `QHostAddress(text).toIPv4Address()` -/
  toIPv4 : String → UInt32
  /-- `QHostAddress(number).toString()` -/
  ofIPv4 : UInt32 → String
  /-- The empty text is no address. -/
  isNull_empty : isNull "" = true

/-- `AddressStrToNumber`, into a number that was 0. -/
def AddressFormat.number (addresses : AddressFormat) (text : String) : UInt32 :=
  if addresses.isNull text then 0 else addresses.toIPv4 text

theorem AddressFormat.ne_empty {addresses : AddressFormat} {text : String}
    (h : addresses.isNull text = false) : text ≠ "" := by
  rintro rfl
  rw [addresses.isNull_empty] at h
  cases h

/-- `ActDeviceProfile`, with the properties it inherits. -/
structure DeviceProfile where
  id : ℤ := -1
  deviceType : DeviceType := .endStation
  latestFirmwareVersion : String := ""
  builtInPower : Bool := true
  supportPowerModules : QMap ℤ String := ∅
  supportEthernetSlots : UInt8 := 0
  defaultEthernetSlotOccupiedIntfs : UInt8 := 0
  interfaces : List InterfaceProperty := []
  property : DeviceProperty := {}
  defaultDeviceConfig : DeviceConfig := {}

/-- `operator==(ActDeviceProfile)` -/
instance : BEq DeviceProfile :=
  ⟨fun x y => x.id == y.id || x.property.modelName == y.property.modelName⟩

/-- `ActFirmwareFeatureProfile`: the features of a model under some firmware versions. -/
structure FirmwareFeatureProfile where
  modelName : String := ""
  firmwareVersions : QSet String := []
  ieee802Dot1Qbv : Bool := false
  ieee802Dot1CB : Bool := false
  userAccount : Bool := false
  timeSyncSetting : TimeSyncSettingItem := {}
  adminStatus : Bool := false
  vlanSetting : VlanSettingItem := {}
  stpRstp : STPRSTPItem := {}
  staticForwardSetting : StaticForwardSettingItem := {}

/-- What the core has besides the project: its profiles and catalogues, and the parts of the
program that are not modelled. -/
structure DeviceServices where
  addresses : AddressFormat
  deviceProfiles : QSet DeviceProfile := []
  firmwareFeatureProfiles : QSet FirmwareFeatureProfile := []
  catalogue : Catalogue := {}
  /-- `CheckMacAddress`: the message of the error, if there is one. -/
  checkMacAddress : String → Option String := fun _ => none
  /-- `CheckConnectionConfigField` -/
  checkConnectionConfigField : Device → Except Status Unit := fun _ => .ok ()
  /-- `UpdateDeviceConfigTable` -/
  updateDeviceConfigTable : Project → Device → QMap ℤ VlanTable × QMap ℤ RstpTable :=
    fun project _ => (project.vlanTables, project.rstpTables)

/-! ### Operations that leave their changes behind -/

/-- How an operation on a project fails. -/
inductive Failure where
  /-- With a status, having left the project like this. -/
  | status (status : Status) (project : Project)
  /-- It does not return. -/
  | stuck

/-- A call that changes nothing when it fails. -/
def atProject {α : Type} (project : Project) (result : Except Status α) : Except Failure α :=
  result.mapError (.status · project)

/-- A call that may not return. -/
def orStuck {α : Type} : Option α → Except Failure α
  | some a => .ok a
  | none => .error .stuck

/-- A change of the articles. -/
def changeSkus (project : Project) (result : Except SkuFailure SkuMap) : Except Failure Project :=
  match result with
  | .ok skus => .ok { project with skuQuantitiesMap := skus }
  | .error (status, skus) => .error (.status status { project with skuQuantitiesMap := skus })

/-! ### RSTP groups and VLAN groups -/

/-- `CheckRedundantRSTP` -/
def checkRedundantRSTP (project : Project) (rstp : RSTP) : Except Status Unit :=
  if project.rstpGroups.any fun other => rstp.devices.any (other.devices.contains ·) then
    .error (.badRequest
      ⟨"RSTP group devices has at least one in common with another group.", []⟩)
  else if !rstp.devices.contains rstp.rootDevice then
    .error (.notFound ⟨"Root device %1 in RSTP group", [.int rstp.rootDevice]⟩)
  else if rstp.backupRootDevice = -1 then .ok ()
  else if !rstp.devices.contains rstp.backupRootDevice then
    .error (.notFound ⟨"Backup root device %1 in RSTP group", [.int rstp.backupRootDevice]⟩)
  else if rstp.rootDevice = rstp.backupRootDevice then
    .error (.badRequest
      ⟨"Backup root device cannot be duplicated with root device.", []⟩)
  else .ok ()

/-- `UpdateRedundantRSTP`.  A group that is not found is no error. -/
def updateRedundantRSTP (project : Project) (rstp : RSTP) : Except Status Project := do
  checkRedundantRSTP project rstp
  return if project.rstpGroups.contains rstp then
    { project with rstpGroups := (project.rstpGroups.remove rstp).insert rstp }
  else project

/-- `DeleteRedundantRSTP` -/
def deleteRedundantRSTP (fuel : ℕ) (project : Project) (rstpId : ℤ) : Option Project :=
  if project.rstpGroups.contains { id := rstpId } then
    computeRedundantRSTP fuel
      { project with rstpGroups := project.rstpGroups.remove { id := rstpId } }
  else some project

/-- `CreateVlanGroup` -/
def createVlanGroup (project : Project) (group : IntelligentVlan) : Except Status Project :=
  if group.endStationList.length < 2 then
    .error (.feasibilityCheckFailed ⟨"Create vlan group need more than one end-devices", []⟩)
  else if project.intelligentVlanGroup.contains group ||
      project.streams.any (·.vlanId == group.vlanId) then
    .error (.duplicated ⟨"vlan id %1", [.int group.vlanId.toNat]⟩)
  else .ok { project with intelligentVlanGroup := project.intelligentVlanGroup.insert group }

/-- `DeleteVlanGroup` -/
def deleteVlanGroup (project : Project) (vlanId : UInt16) : Project :=
  { project with intelligentVlanGroup := project.intelligentVlanGroup.remove { vlanId := vlanId } }

/-- `UpdateVlanGroup` -/
def updateVlanGroup (project : Project) (group : IntelligentVlan) : Except Failure Project :=
  let project := deleteVlanGroup project group.vlanId
  atProject project (createVlanGroup project group)

/-! ### A device and its profile -/

/-- The interfaces of the modules in a slot.  The first slot has the built-in ones. -/
def slotInterfaces (services : DeviceServices) (profile : DeviceProfile) (device : Device)
    (slotId : ℤ) : Except Status (List InterfaceProperty) :=
  if slotId = 1 then .ok profile.interfaces
  else
    match device.modularConfiguration.ethernet[slotId]? with
    | none => .ok []
    | some ethModuleId =>
      match services.catalogue.ethernetModuleMap[ethModuleId]? with
      | some ethModule => .ok ethModule.interfaces
      | none => .error (.notFound ⟨"Ethernet module id %1 is not found", [.int ethModuleId]⟩)

/-- The interface of this number, as the device had it or a new one, with the properties of the
profile. -/
def profileInterface (deviceType : DeviceType) (device : Device) (slotId intfId : ℤ)
    (property : InterfaceProperty) : Interface :=
  let intf := (device.interfaces.find? (·.interfaceId == intfId)).getD { interfaceId := intfId }
  let slotName :=
    if slotId = 1 then property.interfaceName
    else "Eth" ++ toString slotId ++ "/" ++ property.interfaceName
  let keepsName := intf.interfaceName ≠ "" ∧
    (deviceType = .endStation ∨ deviceType = .bridgedEndStation)
  { intf with
    interfaceName := if keepsName then intf.interfaceName else slotName
    active := true
    deviceId := device.id
    supportSpeeds := property.supportSpeeds }

/-- An interface of a slot without a module. -/
def emptySlotInterface (profile : DeviceProfile) (device : Device) (slotId intfId : ℤ) :
    Interface :=
  let ethId := (intfId - profile.interfaces.length - 1) %
    (profile.defaultEthernetSlotOccupiedIntfs.toNat : ℤ) + 1
  { interfaceId := intfId
    interfaceName := "Eth" ++ toString slotId ++ "/" ++ toString ethId
    deviceId := device.id
    active := false }

/-- One slot in `MatchDeviceProfile`.  The interfaces are numbered from 1 on. -/
def addSlot (services : DeviceServices) (profile : DeviceProfile) (device : Device)
    (interfaces : List Interface) (slotId : ℤ) : Except Status (List Interface) := do
  let properties ← slotInterfaces services profile device slotId
  let filled := interfaces ++ properties.mapIdx fun i property =>
    profileInterface profile.deviceType device slotId (interfaces.length + i + 1) property
  let maxIntfId := profile.interfaces.length +
    profile.defaultEthernetSlotOccupiedIntfs.toNat * (slotId.toNat - 1)
  return filled ++ (List.range (maxIntfId - filled.length)).map fun i =>
    emptySlotInterface profile device slotId (filled.length + i + 1)

/-- The interfaces that `MatchDeviceProfile` gives a device.  A device of a type without a proper
profile keeps its own ones besides. -/
def matchInterfaces (services : DeviceServices) (profile : DeviceProfile) (device : Device) :
    Except Status (List Interface) := do
  let slots := (List.range (profile.supportEthernetSlots.toNat + 1)).map fun i => (i : ℤ) + 1
  let interfaces ← slots.foldlM (addSlot services profile device) []
  let interfaces :=
    if DeviceType.skipsSpeedCheck profile.deviceType then
      device.interfaces.foldl (fun interfaces intf =>
        if interfaces.any (·.interfaceId == intf.interfaceId) then interfaces ++ [intf]
        else interfaces ++ [{ intf with deviceId := device.id }]) interfaces
    else interfaces
  return interfaces.insertionSort fun x y => x.interfaceId ≤ y.interfaceId

/-- The properties that `MatchDeviceProfile` copies from the profile. -/
def matchProperty (services : DeviceServices) (profile : DeviceProfile) (firmwareVersion : String) :
    DeviceProperty :=
  let property := profile.property
  let base : DeviceProperty :=
    { modelName := property.modelName
      vendor := property.vendor
      deviceCluster := property.deviceCluster }
  let base :=
    if bridges profile.deviceType then
      { base with
        numberOfQueue := property.numberOfQueue
        perQueueSize := property.perQueueSize
        gateControlListLength := property.gateControlListLength
        reservedVlan := property.reservedVlan
        processingDelayMap := property.processingDelayMap }
    else base
  match services.firmwareFeatureProfiles.find? fun features =>
    features.modelName == property.modelName &&
      features.firmwareVersions.contains firmwareVersion with
  | some features =>
    { base with
      ieee802Dot1Qbv := features.ieee802Dot1Qbv
      ieee802Dot1CB := features.ieee802Dot1CB
      userAccount := features.userAccount
      timeSyncSetting := features.timeSyncSetting
      adminStatus := features.adminStatus
      vlanSetting := features.vlanSetting
      stpRstp := features.stpRstp
      staticForwardSetting := features.staticForwardSetting }
  | none =>
    { base with
      ieee802Dot1Qbv := property.ieee802Dot1Qbv
      ieee802Dot1CB := property.ieee802Dot1CB
      userAccount := property.userAccount
      timeSyncSetting := property.timeSyncSetting
      adminStatus := property.adminStatus
      vlanSetting := property.vlanSetting
      stpRstp := property.stpRstp
      staticForwardSetting := property.staticForwardSetting }

/-- The slot of a built-in power module, `ACT_BUILTIN_POWER_MODULE_SLOT`. -/
abbrev builtinPowerModuleSlot : ℤ := 1

/-- `MatchDeviceProfile`, the modules: a built-in power module that is not mentioned is the first
one that the profile supports. -/
def matchModules (profile : DeviceProfile) (modules : ModularConfiguration) :
    ModularConfiguration :=
  if profile.builtInPower && modules.power.isEmpty then
    match profile.supportPowerModules.keys.head? with
    | some moduleId =>
      { modules with power := modules.power.insert builtinPowerModuleSlot moduleId }
    | none => modules
  else modules

/-- `MatchDeviceProfile` -/
def matchDeviceProfile (services : DeviceServices) (device : Device) : Except Status Device :=
  match services.deviceProfiles.find { id := device.deviceProfileId } with
  | none => .error (.notFound ⟨"Device profile id %1", [.int device.deviceProfileId]⟩)
  | some profile => do
    let firmwareVersion :=
      if device.firmwareVersion = "" then profile.latestFirmwareVersion else device.firmwareVersion
    let device := { device with
      deviceType := profile.deviceType
      firmwareVersion := firmwareVersion
      deviceProperty := matchProperty services profile firmwareVersion
      modularConfiguration := matchModules profile device.modularConfiguration }
    let interfaces ← matchInterfaces services profile device
    return { device with interfaces := interfaces }

/-- `CheckDevice`, one interface. -/
def checkInterface (services : DeviceServices) (device : Device) (intf : Interface) :
    Except Status Unit :=
  if !intf.active then .ok ()
  else
    match services.checkMacAddress intf.macAddress with
    | some message =>
      .error (.badRequest ⟨"Device (%1) - Interface(%2) - %3",
        [.str device.ipAddress, .str intf.interfaceName, .str message]⟩)
    | none =>
      if intf.supportSpeeds.isEmpty then
        .error (.badRequest ⟨"Device (%1) - Interface(%2) - Support speed is empty.",
          [.str device.ipAddress, .str intf.interfaceName]⟩)
      else .ok ()

/-- `CheckDevice` -/
def checkDevice (services : DeviceServices) (device : Device) : Except Status Unit := do
  let addresses := services.addresses
  let text := addresses.toText device.ipAddress
  if addresses.isNull device.ipAddress then
    throw (.badRequest ⟨"The IP address is not valid: %1", [.str text]⟩)
  if text = "0.0.0.0" || text = "255.255.255.255" then
    throw (.badRequest ⟨"The IP address cannot be 0.0.0.0 or 255.255.255.255", []⟩)
  device.interfaces.forM (checkInterface services device)
  services.checkConnectionConfigField device

/-! ### `CreateDevice` -/

/-- The search of `AutoAssignIP`: at most that many addresses are tried. -/
def searchFreeAddress (used : QSet UInt32) : ℕ → UInt32 → Option UInt32
  | 0, _ => none
  | tries + 1, number =>
    if used.contains number || number &&& 0xFF == 0xFF || number == 0 then
      searchFreeAddress used tries (number + 1)
    else some number

/-- `AutoAssignIP`, for a device without an address.  The search comes back to its start after
2³² addresses, and does not end then. -/
def assignAddress (services : DeviceServices) (project : Project) (device : Device) :
    Option Device :=
  if device.ipAddress = "" then
    (searchFreeAddress project.usedIpAddresses (2 ^ 32)
      (services.addresses.number project.projectStartIp)).map fun number =>
        { device with ipAddress := services.addresses.ofIPv4 number }
  else some device

/-- "Check the device does not exist with duplicated IP address" -/
def checkAddressUnused (services : DeviceServices) (project : Project) (device : Device) :
    Except Status Unit :=
  if project.usedIpAddresses.contains (services.addresses.number device.ipAddress) then
    .error (.duplicated ⟨device.ipAddress, []⟩)
  else .ok ()

/-- The id a device without one is given, with the counter it is taken from. -/
def assignDeviceId (project : Project) (device : Device) : Except Status (Device × Project) :=
  if device.id = -1 then
    match generateUniqueId (fun id => (project.devices.find { id := id }).isSome)
        project.lastAssignedDeviceId with
    | none => .error (.badRequest ⟨"Cannot get an available unique id", []⟩)
    | some id => .ok ({ device with id := id }, { project with lastAssignedDeviceId := id })
  else .ok (device, project)

/-- The search of `CreateDevice` for a coordinate that is not used: up to four steps of 300 to the
right, then back to the first column and 150 down. -/
def searchFreeCoordinate (used : QSet Coordinate) (device : Coordinate) :
    ℕ → ℕ → Coordinate → Option Coordinate
  | 0, _, _ => none
  | tries + 1, retry, coordinate =>
    if used.contains coordinate then
      if retry ≥ 4 then
        searchFreeCoordinate used device tries 1 { x := device.x, y := coordinate.y + 150 }
      else searchFreeCoordinate used device tries (retry + 1)
        { coordinate with x := coordinate.x + 300 }
    else some coordinate

/-- "Check coordinate duplicated w/ other device".  No coordinate is tried twice, so that the
search needs one try more than there are used ones. -/
def assignCoordinate (project : Project) (device : Device) : Option Device :=
  (searchFreeCoordinate project.usedCoordinates device.coordinate
    (project.usedCoordinates.length + 1) 0 device.coordinate).map fun coordinate =>
      { device with coordinate := coordinate }

/-- The coordinate of the device is used from now on. -/
def useCoordinate (project : Project) (device : Device) : Project :=
  { project with usedCoordinates := project.usedCoordinates.insert device.coordinate }

/-- The device is entered in its group. -/
def joinGroup (project : Project) (device : Device) : Except Status Project :=
  if device.groupId = -1 then .ok project
  else if project.groups.contains device.groupId then
    .ok { project with groups := project.groups.update device.groupId fun group =>
      { group with deviceIds := group.deviceIds.insert device.id } }
  else
    .error (.badRequest ⟨"Device (%1) - The group id %2 is not found",
      [.str device.ipAddress, .int device.groupId]⟩)

/-- The device is struck off a group. -/
def leaveGroup (project : Project) (groupId deviceId : ℤ) : Project :=
  if groupId ≠ -1 ∧ project.groups.contains groupId = true then
    { project with groups := project.groups.update groupId fun group =>
      { group with deviceIds := group.deviceIds.remove deviceId } }
  else project

/-- The device and its address are entered in the project. -/
def insertDevice (services : DeviceServices) (project : Project) (device : Device) : Project :=
  { project with
    devices := project.devices.insert device
    usedIpAddresses := project.usedIpAddresses.insert (services.addresses.number device.ipAddress) }

/-- The device, its address and its coordinate are taken out of the project. -/
def removeDevice (services : DeviceServices) (project : Project) (device : Device) : Project :=
  { project with
    devices := project.devices.remove device
    usedCoordinates := project.usedCoordinates.remove device.coordinate
    usedIpAddresses := project.usedIpAddresses.remove (services.addresses.number device.ipAddress) }

/-- The configuration tables are brought in line with the device. -/
def updateTables (services : DeviceServices) (project : Project) (device : Device) : Project :=
  { project with
    vlanTables := (services.updateDeviceConfigTable project device).1
    rstpTables := (services.updateDeviceConfigTable project device).2 }

/-- `CreateDevice`, "Create device in RSTP group". -/
def joinRstpGroups (project : Project) (device : Device) : Except Failure Project :=
  if bridges device.deviceType then
    project.rstpGroups.foldlM (fun project rstp =>
      atProject project
        (updateRedundantRSTP project { rstp with devices := rstp.devices.insert device.id })) project
  else .ok project

/-- `CreateDevice`, up to the articles: the device as it was stored, and the project. -/
def enterDevice (services : DeviceServices) (project : Project) (device : Device) :
    Except Failure (Device × Project) := do
  let device ← orStuck (assignAddress services project device)
  atProject project (checkAddressUnused services project device)
  let (device, project) ← atProject project (assignDeviceId project device)
  let device ← atProject project (matchDeviceProfile services device)
  atProject project (checkDevice services device)
  let device ← orStuck (assignCoordinate project { device with deviceRole := .unknown })
  let project := useCoordinate project device
  let project ← atProject project (joinGroup project device)
  let project ← joinRstpGroups (insertDevice services project device) device
  return (device, updateTables services project device)

/-- `CreateDevice`: the device as it was stored, and the project. -/
def createDevice (services : DeviceServices) (project : Project) (device : Device)
    (fromBag : Bool) : Except Failure (Device × Project) := do
  let (device, project) ← enterDevice services project device
  let project ← changeSkus project
    (updateSkuQuantityByAddDevice services.catalogue project.skuQuantitiesMap device fromBag)
  return (device, project)

/-! ### `UpdateDevice` -/

/-- The device of this id is taken out of the project; a new `ActDevice` when there is none. -/
def takeDevice (services : DeviceServices) (project : Project) (deviceId : ℤ) : Device × Project :=
  match project.getDeviceById deviceId with
  | none => ({}, project)
  | some deleted =>
    (deleted, { project with
      devices := project.devices.remove { id := deviceId }
      usedCoordinates := project.usedCoordinates.remove deleted.coordinate
      usedIpAddresses :=
        project.usedIpAddresses.remove (services.addresses.number deleted.ipAddress) })

/-- The flags of all interfaces are recomputed from the links. -/
def refreshInterfaces (project : Project) (device : Device) : Device :=
  { device with interfaces := device.interfaces.map fun intf =>
      { intf with
        used := (project.getLinkByInterfaceId device.id intf.interfaceId).isSome
        deviceId := device.id } }

/-- "Check DeviceCluster" -/
def checkCluster (deleted device : Device) : Except Status Unit :=
  if deleted.deviceProperty.deviceCluster ≠ device.deviceProperty.deviceCluster then
    .error (.badRequest ⟨"The %1 cannot be changed to the %2",
      [.str deleted.deviceProperty.modelName, .str device.deviceProperty.modelName]⟩)
  else .ok ()

/-- "Update Group membership": the old group is left even when the new one is not found. -/
def moveGroup (project : Project) (oldGroupId : ℤ) (device : Device) : Except Failure Project :=
  if oldGroupId = device.groupId then .ok project
  else
    let project := leaveGroup project oldGroupId device.id
    atProject project (joinGroup project device)

/-- `UpdateDevice`, "Update device in RSTP group", one group. -/
def updateRstpGroup (fuel : ℕ) (device : Device) (project : Project) (rstp : RSTP) :
    Except Failure Project :=
  let devices :=
    if bridges device.deviceType then rstp.devices.insert device.id
    else rstp.devices.remove device.id
  let hasRoot := devices.contains rstp.rootDevice
  let hasBackup := devices.contains rstp.backupRootDevice
  if devices.isEmpty || (!hasRoot && !hasBackup) then
    orStuck (deleteRedundantRSTP fuel project rstp.id)
  else
    let rstp := { rstp with devices := devices }
    let rstp :=
      if !hasRoot && hasBackup then
        { rstp with rootDevice := rstp.backupRootDevice, backupRootDevice := -1 }
      else if hasRoot && !hasBackup then { rstp with backupRootDevice := -1 }
      else rstp
    atProject project (updateRedundantRSTP project rstp)

/-- `UpdateDevice`, "Update device in VLAN group", one group. -/
def updateVlanGroupMember (device : Device) (project : Project) (group : IntelligentVlan) :
    Except Failure Project :=
  if group.endStationList.contains device.id then
    let group := { group with endStationList := group.endStationList.remove device.id }
    if group.endStationList.isEmpty then .ok (deleteVlanGroup project group.vlanId)
    else updateVlanGroup project group
  else .ok project

/-- `UpdateDevice`, "Update device in VLAN group".  An end station stays in its groups. -/
def updateVlanGroupMembers (device : Device) (project : Project) : Except Failure Project :=
  if device.deviceType = .endStation ∨ device.deviceType = .bridgedEndStation then .ok project
  else project.intelligentVlanGroup.foldlM (updateVlanGroupMember device) project

/-- The largest speed that both interfaces support.  The speeds are listed in ascending order and
compared from the end. -/
def commonSpeed : List ℤ → List ℤ → Option ℤ
  | [], _ => none
  | speed :: speeds, others =>
    let others := others.dropWhile (speed < ·)
    if others.head? = some speed then some speed else commonSpeed speeds others

/-- `indexOf(ActInterface(id))`: the first interface of this number. -/
def interfaceAt (device : Device) (interfaceId : ℤ) : Option Interface :=
  device.interfaces.find? (·.interfaceId == interfaceId)

/-- The first active interface that is not used is used from now on: the interfaces, and its
number. -/
def takeUnused : List Interface → Option (List Interface × ℤ)
  | [] => none
  | intf :: rest =>
    if intf.active && !intf.used then some ({ intf with used := true } :: rest, intf.interfaceId)
    else (takeUnused rest).map fun (rest, interfaceId) => (intf :: rest, interfaceId)

/-- The interface of the device that the link keeps: its own one if that is active, else the first
active one that is not used. -/
def keepInterface (device : Device) (interfaceId : ℤ) : Option (Device × Interface) :=
  match (interfaceAt device interfaceId).filter (·.active) with
  | some intf => some (device, intf)
  | none => do
    let (interfaces, unusedId) ← takeUnused device.interfaces
    let device := { device with interfaces := interfaces }
    let intf ← interfaceAt device unusedId
    return (device, intf)

/-- `UpdateDevice`, "Device interface size less than original size", one link. -/
def updateDeviceLink (found : Device × Project) (link : Link) : Except Failure (Device × Project) :=
  let (device, project) := found
  let isSource := link.sourceDeviceId = device.id
  let interfaceId :=
    if isSource then link.sourceInterfaceId
    else if link.destinationDeviceId = device.id then link.destinationInterfaceId
    else -1
  if interfaceId = -1 then .ok (device, project)
  else
    match keepInterface device interfaceId with
    | none => (atProject project (deleteLink project link.id)).map (device, ·)
    | some (device, deviceIntf) =>
      let link :=
        if isSource then { link with sourceInterfaceId := deviceIntf.interfaceId }
        else { link with destinationInterfaceId := deviceIntf.interfaceId }
      let neighborId := if isSource then link.destinationDeviceId else link.sourceDeviceId
      let neighborIntfId :=
        if isSource then link.destinationInterfaceId else link.sourceInterfaceId
      match project.getDeviceById neighborId with
      | none => .ok (device, project)
      | some neighbor =>
        -- an interface that is not found is read at the index -1
        match interfaceAt neighbor neighborIntfId with
        | none => .error .stuck
        | some neighborIntf =>
          match commonSpeed deviceIntf.supportSpeeds.reverse neighborIntf.supportSpeeds.reverse with
          | none => (atProject project (deleteLink project link.id)).map (device, ·)
          | some speed =>
            (atProject project
              (updateLink project { link with speed := UInt16.ofInt speed })).map (device, ·)

/-- `UpdateDevice`, up to the articles: the device as it was stored, and the project. -/
def replaceDevice (services : DeviceServices) (fuel : ℕ) (project : Project) (device : Device) :
    Except Failure (Device × Project) := do
  let (deleted, project) := takeDevice services project device.id
  let device := refreshInterfaces project device
  atProject project (checkAddressUnused services project device)
  let project := { project with usedIpAddresses :=
    project.usedIpAddresses.insert (services.addresses.number device.ipAddress) }
  let (device, project) ← atProject project (assignDeviceId project device)
  let device ← atProject project (matchDeviceProfile services device)
  atProject project (checkCluster deleted device)
  atProject project (checkDevice services device)
  let project := useCoordinate project device
  let project ← moveGroup project deleted.groupId device
  let project := { project with devices := project.devices.insert device }
  let project ← project.rstpGroups.foldlM (updateRstpGroup fuel device) project
  let project ← updateVlanGroupMembers device project
  let (device, project) ← project.links.foldlM updateDeviceLink (device, project)
  return (device, updateTables services project device)

/-- `UpdateDevice`: the device as it was stored, and the project. -/
def updateDevice (services : DeviceServices) (fuel : ℕ) (project : Project) (device : Device) :
    Except Failure (Device × Project) := do
  let deleted := (takeDevice services project device.id).1
  let (device, project) ← replaceDevice services fuel project device
  let project ← changeSkus project
    (updateSkuQuantityByUpdateDevice services.catalogue project.skuQuantitiesMap deleted device)
  return (device, project)

/-! ### `DeleteDevice` and `DeleteDevices` -/

/-- `DeleteManagementInterface`.  The first entry of the device is removed; a device that still
exists is updated. -/
def deleteManagementInterface (services : DeviceServices) (fuel : ℕ) (project : Project)
    (deviceId : ℤ) : Except Failure Project :=
  if project.managementInterfaces.any (·.deviceId == deviceId) then
    let project := { project with
      managementInterfaces := project.managementInterfaces.eraseP (·.deviceId == deviceId) }
    match project.getDeviceById deviceId with
    | none => .ok project
    | some device =>
      (updateDevice services fuel project { device with
        interfaces := device.interfaces.map fun intf => { intf with management := false } }).map
          (·.2)
  else .ok project

/-- The management interfaces of the deleted devices. -/
def deleteManagementInterfaces (services : DeviceServices) (fuel : ℕ) (project : Project)
    (deviceIds : List ℤ) : Except Failure Project :=
  project.managementInterfaces.foldlM (fun project management =>
    if deviceIds.contains management.deviceId then
      deleteManagementInterface services fuel project management.deviceId
    else .ok project) project

/-- `DeleteDeviceDeviceConfig` -/
def deleteDeviceDeviceConfig (project : Project) (deviceId : ℤ) : Project :=
  { project with
    vlanTables := project.vlanTables.erase deviceId
    rstpTables := project.rstpTables.erase deviceId }

/-- The links of the deleted devices. -/
def deleteDeviceLinks (project : Project) (deviceIds : List ℤ) : Except Failure Project :=
  project.links.foldlM (fun project link =>
    if deviceIds.contains link.sourceDeviceId || deviceIds.contains link.destinationDeviceId then
      atProject project (deleteLink project link.id)
    else .ok project) project

/-- "Delete device in VLAN group", one group. -/
def deleteVlanGroupMembers (deviceIds : List ℤ) (project : Project) (group : IntelligentVlan) :
    Except Failure Project :=
  let endDevices := deviceIds.foldl QSet.remove group.endStationList
  if endDevices.length < 2 then .ok (deleteVlanGroup project group.vlanId)
  else updateVlanGroup project { group with endStationList := endDevices }

/-- `DeleteDevice`, "Delete device in RSTP group", one group. -/
def deleteRstpGroupMember (fuel : ℕ) (deviceId : ℤ) (project : Project) (rstp : RSTP) :
    Except Failure Project :=
  let rstp := { rstp with devices := rstp.devices.remove deviceId }
  if rstp.devices.isEmpty || (rstp.rootDevice == deviceId && rstp.backupRootDevice == -1) then
    orStuck (deleteRedundantRSTP fuel project rstp.id)
  else
    let rstp :=
      if rstp.rootDevice = deviceId ∧ rstp.backupRootDevice ≠ -1 then
        { rstp with rootDevice := rstp.backupRootDevice, backupRootDevice := -1 }
      else if rstp.backupRootDevice = deviceId then { rstp with backupRootDevice := -1 }
      else rstp
    atProject project (updateRedundantRSTP project rstp)

/-- `DeleteDevices`, "Delete device in RSTP group", one group. -/
def deleteRstpGroupMembers (fuel : ℕ) (deviceIds : List ℤ) (project : Project) (rstp : RSTP) :
    Except Failure Project :=
  let rstp := { rstp with devices := deviceIds.foldl QSet.remove rstp.devices }
  if rstp.devices.isEmpty || (deviceIds.contains rstp.rootDevice &&
      (deviceIds.contains rstp.backupRootDevice || rstp.backupRootDevice == -1)) then
    orStuck (deleteRedundantRSTP fuel project rstp.id)
  else
    let rstp :=
      if deviceIds.contains rstp.rootDevice = true ∧ rstp.backupRootDevice ≠ -1 then
        { rstp with rootDevice := rstp.backupRootDevice, backupRootDevice := -1 }
      else if deviceIds.contains rstp.backupRootDevice then { rstp with backupRootDevice := -1 }
      else rstp
    atProject project (updateRedundantRSTP project rstp)

/-- The device is looked up and taken out of the project and of its group. -/
def dropDevice (services : DeviceServices) (project : Project) (deviceId : ℤ) :
    Except Status (Device × Project) :=
  match project.getDeviceById deviceId with
  | none =>
    .error (.badRequest ⟨"Delete device failed, cannot found device id %1", [.int deviceId]⟩)
  | some device =>
    .ok (device, removeDevice services (leaveGroup project device.groupId device.id) device)

/-- `DeleteDevice`, up to the articles: the device that was removed, and the project. -/
def withdrawDevice (services : DeviceServices) (fuel : ℕ) (project : Project) (deviceId : ℤ) :
    Except Failure (Device × Project) := do
  let (device, project) ← atProject project (dropDevice services project deviceId)
  let project ← deleteManagementInterfaces services fuel project [deviceId]
  let project ← project.rstpGroups.foldlM (deleteRstpGroupMember fuel deviceId) project
  let project ← project.intelligentVlanGroup.foldlM (deleteVlanGroupMembers [deviceId]) project
  let project ← deleteDeviceLinks (deleteDeviceDeviceConfig project deviceId) [deviceId]
  return (device, project)

/-- `DeleteDevice`.  The pieces do not go back to the bag. -/
def deleteDevice (services : DeviceServices) (fuel : ℕ) (project : Project) (deviceId : ℤ) :
    Except Failure Project := do
  let (device, project) ← withdrawDevice services fuel project deviceId
  changeSkus project
    (updateSkuQuantityByDeleteDevice services.catalogue project.skuQuantitiesMap device false)

/-- `DeleteDevices`, the first loop: a device leaves its group, the project and the articles. -/
def deleteDevicesStep (services : DeviceServices) (toBag : Bool) (project : Project)
    (deviceId : ℤ) : Except Failure Project := do
  let (device, project) ← atProject project (dropDevice services project deviceId)
  changeSkus project
    (updateSkuQuantityByDeleteDevice services.catalogue project.skuQuantitiesMap device toBag)

/-- `DeleteDevices` -/
def deleteDevices (services : DeviceServices) (fuel : ℕ) (project : Project) (deviceIds : List ℤ)
    (toBag : Bool) : Except Failure Project := do
  if deviceIds.isEmpty then
    throw (.status (.badRequest ⟨"Device id list is empty", []⟩) project)
  let project ← deviceIds.foldlM (deleteDevicesStep services toBag) project
  let project ← deleteManagementInterfaces services fuel project deviceIds
  let project ← project.rstpGroups.foldlM (deleteRstpGroupMembers fuel deviceIds) project
  let project ← project.intelligentVlanGroup.foldlM (deleteVlanGroupMembers deviceIds) project
  deleteDeviceLinks (deviceIds.foldl deleteDeviceDeviceConfig project) deviceIds

/-! ### What the operations do to a project without links

A project in which no link, RSTP group, VLAN group or management interface was made yet has none of
the stores that a device is removed from in loops, so that an operation on a device changes the
devices, their addresses, their groups and the articles alone. -/

@[simp] theorem atProject_eq_ok {project : Project} {result : Except Status α} {a : α} :
    atProject project result = .ok a ↔ result = .ok a := by
  cases result <;> simp [atProject, Except.mapError]

@[simp] theorem orStuck_eq_ok {result : Option α} {a : α} :
    orStuck result = .ok a ↔ result = some a := by
  cases result <;> simp [orStuck]

theorem changeSkus_eq_ok {project project' : Project} {result : Except SkuFailure SkuMap} :
    changeSkus project result = .ok project' ↔
      ∃ skus, result = .ok skus ∧ project' = { project with skuQuantitiesMap := skus } := by
  cases result with
  | ok skus => simp [changeSkus, eq_comm]
  | error e => simp [changeSkus]

/-- No link, RSTP group, VLAN group or management interface. -/
structure Bare (project : Project) : Prop where
  links : project.links = []
  rstpGroups : project.rstpGroups = []
  vlanGroups : project.intelligentVlanGroup = []
  managementInterfaces : project.managementInterfaces = []

/-- The device with the model and the modules that its profile gives it. -/
def profiledDevice (services : DeviceServices) (device : Device) : Device :=
  match services.deviceProfiles.find { id := device.deviceProfileId } with
  | none => device
  | some profile =>
    { device with
      deviceProperty := matchProperty services profile
        (if device.firmwareVersion = "" then profile.latestFirmwareVersion
          else device.firmwareVersion)
      modularConfiguration := matchModules profile device.modularConfiguration }

/-- What becomes of a device before it is stored: it has an address that is not in use, and its id
is its own, or one that no device has when it came without. -/
structure Placed (services : DeviceServices) (devices : QSet Device) (used : QSet UInt32)
    (device device' : Device) : Prop where
  id_of_ne : device.id ≠ -1 → device'.id = device.id
  id_of_eq : device.id = -1 → devices.find { id := device'.id } = none ∧ 50001 ≤ device'.id
  groupId : device'.groupId = device.groupId
  property : device'.deviceProperty = (profiledDevice services device).deviceProperty
  modules : device'.modularConfiguration = (profiledDevice services device).modularConfiguration
  valid : services.addresses.isNull device'.ipAddress = false
  unused : used.contains (services.addresses.number device'.ipAddress) = false

/-- The same device but for its id, its address and its interfaces. -/
structure SameModel (device device' : Device) : Prop where
  coordinate : device'.coordinate = device.coordinate
  deviceProfileId : device'.deviceProfileId = device.deviceProfileId
  firmwareVersion : device'.firmwareVersion = device.firmwareVersion
  groupId : device'.groupId = device.groupId
  property : device'.deviceProperty = device.deviceProperty
  modules : device'.modularConfiguration = device.modularConfiguration

theorem SameModel.trans {x y z : Device} (hxy : SameModel x y) (hyz : SameModel y z) :
    SameModel x z where
  coordinate := hyz.coordinate.trans hxy.coordinate
  deviceProfileId := hyz.deviceProfileId.trans hxy.deviceProfileId
  firmwareVersion := hyz.firmwareVersion.trans hxy.firmwareVersion
  groupId := hyz.groupId.trans hxy.groupId
  property := hyz.property.trans hxy.property
  modules := hyz.modules.trans hxy.modules

/-- The model and the modules do not depend on the id, the address and the interfaces. -/
theorem SameModel.profiledDevice {device device' : Device} (h : SameModel device device')
    (services : DeviceServices) : (profiledDevice services device').deviceProperty =
        (profiledDevice services device).deviceProperty ∧
      (profiledDevice services device').modularConfiguration =
        (profiledDevice services device).modularConfiguration := by
  unfold Core.profiledDevice
  rw [h.deviceProfileId, h.firmwareVersion]
  cases services.deviceProfiles.find { id := device.deviceProfileId } with
  | none => exact ⟨h.property, h.modules⟩
  | some profile =>
    refine ⟨rfl, ?_⟩
    dsimp only
    rw [h.modules]

/-- What `MatchDeviceProfile` leaves alone, and what it takes from the profile. -/
structure Profiled (services : DeviceServices) (device device' : Device) : Prop where
  id : device'.id = device.id
  deviceProfileId : device'.deviceProfileId = device.deviceProfileId
  ipAddress : device'.ipAddress = device.ipAddress
  coordinate : device'.coordinate = device.coordinate
  groupId : device'.groupId = device.groupId
  property : device'.deviceProperty = (profiledDevice services device).deviceProperty
  modules : device'.modularConfiguration = (profiledDevice services device).modularConfiguration

theorem matchDeviceProfile_ok {services : DeviceServices} {device device' : Device}
    (h : matchDeviceProfile services device = .ok device') : Profiled services device device' := by
  unfold matchDeviceProfile at h
  cases hprof : services.deviceProfiles.find { id := device.deviceProfileId } with
  | none => simp [hprof] at h
  | some profile =>
    rw [hprof] at h
    obtain ⟨interfaces, -, h⟩ := exists_of_bind h
    cases h
    refine ⟨rfl, rfl, rfl, rfl, rfl, ?_, ?_⟩ <;> simp only [profiledDevice, hprof]

theorem checkDevice_ok {services : DeviceServices} {device : Device} {u : Unit}
    (h : checkDevice services device = .ok u) :
    services.addresses.isNull device.ipAddress = false := by
  unfold checkDevice at h
  dsimp only at h
  cases hnull : services.addresses.isNull device.ipAddress with
  | false => rfl
  | true =>
    rw [hnull, if_pos rfl] at h
    cases h

theorem assignAddress_ok {services : DeviceServices} {project : Project} {device device' : Device}
    (h : assignAddress services project device = some device') :
    device'.id = device.id ∧ SameModel device device' := by
  unfold assignAddress at h
  split_ifs at h
  · obtain ⟨number, -, rfl⟩ := Option.map_eq_some_iff.1 h
    exact ⟨rfl, ⟨rfl, rfl, rfl, rfl, rfl, rfl⟩⟩
  · cases h
    exact ⟨rfl, ⟨rfl, rfl, rfl, rfl, rfl, rfl⟩⟩

/-- What `GenerateUniqueId` does to a device that is stored: the device keeps its own id. -/
structure Numbered (devices : QSet Device) (device device' : Device) : Prop where
  id_of_ne : device.id ≠ -1 → device'.id = device.id
  id_of_eq : device.id = -1 → devices.find { id := device'.id } = none ∧ 50001 ≤ device'.id
  ipAddress : device'.ipAddress = device.ipAddress
  same : SameModel device device'

theorem assignDeviceId_ok {project project' : Project} {device device' : Device}
    (h : assignDeviceId project device = .ok (device', project')) :
    Numbered project.devices device device' ∧
      ∃ counter : ℤ, project' = { project with lastAssignedDeviceId := counter } := by
  unfold assignDeviceId at h
  split_ifs at h with hid
  · cases hfound : generateUniqueId (fun id => (project.devices.find { id := id }).isSome)
        project.lastAssignedDeviceId with
    | none => simp [hfound] at h
    | some id =>
      rw [hfound] at h
      cases h
      obtain ⟨hfree, hlow⟩ := generateUniqueId_spec hfound
      exact ⟨⟨fun hne => absurd hid hne, fun _ => ⟨by simpa using hfree, hlow⟩, rfl,
        ⟨rfl, rfl, rfl, rfl, rfl, rfl⟩⟩, id, rfl⟩
  · cases h
    exact ⟨⟨fun _ => rfl, fun h => absurd h hid, rfl, ⟨rfl, rfl, rfl, rfl, rfl, rfl⟩⟩, _, rfl⟩

theorem searchFreeCoordinate_ok {used : QSet Coordinate} {start : Coordinate} {tries retry : ℕ}
    {coordinate free : Coordinate}
    (h : searchFreeCoordinate used start tries retry coordinate = some free) :
    used.contains free = false := by
  induction tries generalizing retry coordinate with
  | zero => cases h
  | succ tries ih =>
    rw [searchFreeCoordinate] at h
    split_ifs at h with hused hretry
    · exact ih h
    · exact ih h
    · cases h
      exact Bool.not_eq_true _ ▸ hused

/-- The coordinates that are tried go to the right and down, so that they are different. -/
theorem exists_tried {used : QSet Coordinate} {start : Coordinate} {tries retry : ℕ}
    {coordinate : Coordinate} (h : searchFreeCoordinate used start tries retry coordinate = none) :
    ∃ tried : List Coordinate, tried.length = tries ∧ tried.Nodup ∧ ∀ c ∈ tried, c ∈ used ∧
      (coordinate.y < c.y ∨ coordinate.y = c.y ∧ coordinate.x ≤ c.x) := by
  induction tries generalizing retry coordinate with
  | zero => exact ⟨[], rfl, List.nodup_nil, nofun⟩
  | succ tries ih =>
    have hnext : coordinate ∈ used ∧ ∃ retry' next,
        (coordinate.y < next.y ∨ coordinate.y = next.y ∧ coordinate.x < next.x) ∧
          searchFreeCoordinate used start tries retry' next = none := by
      rw [searchFreeCoordinate] at h
      split_ifs at h with hused hretry
      · refine ⟨QSet.contains_iff_mem.1 hused, _, _, .inl ?_, h⟩
        dsimp only
        omega
      · refine ⟨QSet.contains_iff_mem.1 hused, _, { coordinate with x := coordinate.x + 300 },
          .inr ⟨rfl, ?_⟩, h⟩
        dsimp only
        omega
    obtain ⟨hused, retry', next, hafter, hrest⟩ := hnext
    obtain ⟨tried, hlen, hnodup, hall⟩ := ih hrest
    refine ⟨coordinate :: tried, by rw [List.length_cons, hlen],
      List.nodup_cons.2 ⟨fun hmem => ?_, hnodup⟩, fun c hc => ?_⟩
    · have := (hall coordinate hmem).2
      omega
    · rcases List.mem_cons.1 hc with rfl | hc
      · exact ⟨hused, .inr ⟨rfl, le_rfl⟩⟩
      · have := (hall c hc).2
        exact ⟨(hall c hc).1, by omega⟩

/-- **There is always a coordinate** for a new device. -/
theorem exists_assignCoordinate (project : Project) (device : Device) :
    ∃ device', assignCoordinate project device = some device' := by
  unfold assignCoordinate
  cases hsearch : searchFreeCoordinate project.usedCoordinates device.coordinate
      (project.usedCoordinates.length + 1) 0 device.coordinate with
  | some coordinate => exact ⟨_, rfl⟩
  | none =>
    obtain ⟨tried, hlen, hnodup, hall⟩ := exists_tried hsearch
    have hle := (hnodup.subperm fun c hc => (hall c hc).1).length_le
    rw [hlen] at hle
    exact absurd hle (Nat.not_succ_le_self _)

theorem assignCoordinate_ok {project : Project} {device device' : Device}
    (h : assignCoordinate project device = some device') :
    ∃ coordinate, project.usedCoordinates.contains coordinate = false ∧
      device' = { device with coordinate := coordinate } := by
  obtain ⟨coordinate, hfree, rfl⟩ := Option.map_eq_some_iff.1 h
  exact ⟨coordinate, searchFreeCoordinate_ok hfree, rfl⟩

theorem checkAddressUnused_ok {services : DeviceServices} {project : Project} {device : Device}
    {u : Unit} (h : checkAddressUnused services project device = .ok u) :
    project.usedIpAddresses.contains (services.addresses.number device.ipAddress) = false := by
  unfold checkAddressUnused at h
  split_ifs at h with hused
  simpa using hused

theorem placed_of {services : DeviceServices} {devices : QSet Device} {used : QSet UInt32}
    {device addressed numbered profiled : Device} (hid : addressed.id = device.id)
    (hsame : SameModel device addressed) (hnumbered : Numbered devices addressed numbered)
    (hprofiled : Profiled services numbered profiled)
    (hvalid : services.addresses.isNull profiled.ipAddress = false)
    (hunused : used.contains (services.addresses.number addressed.ipAddress) = false) :
    Placed services devices used device profiled := by
  have hmodel := (hsame.trans hnumbered.same).profiledDevice services
  refine ⟨fun hne => ?_, fun heq => ?_, ?_, ?_, ?_, hvalid, ?_⟩
  · rw [hprofiled.id, hnumbered.id_of_ne (by rwa [hid]), hid]
  · rw [hprofiled.id]
    exact hnumbered.id_of_eq (by rwa [hid])
  · rw [hprofiled.groupId, hnumbered.same.groupId, hsame.groupId]
  · rw [hprofiled.property, hmodel.1]
  · rw [hprofiled.modules, hmodel.2]
  · rwa [hprofiled.ipAddress, hnumbered.ipAddress]

/-- The device is entered in the members of the group. -/
def enterMember (groups : QMap ℤ Group) (groupId deviceId : ℤ) : QMap ℤ Group :=
  if groupId = -1 then groups
  else groups.update groupId fun group =>
    { group with deviceIds := group.deviceIds.insert deviceId }

/-- The device is struck off the members of the group. -/
def strikeMember (groups : QMap ℤ Group) (groupId deviceId : ℤ) : QMap ℤ Group :=
  if groupId ≠ -1 ∧ groups.contains groupId = true then
    groups.update groupId fun group => { group with deviceIds := group.deviceIds.remove deviceId }
  else groups

/-- The device goes from one group to another. -/
def moveMember (groups : QMap ℤ Group) (oldGroupId newGroupId deviceId : ℤ) : QMap ℤ Group :=
  if oldGroupId = newGroupId then groups
  else enterMember (strikeMember groups oldGroupId deviceId) newGroupId deviceId

theorem joinGroup_ok {project project' : Project} {device : Device}
    (h : joinGroup project device = .ok project') :
    (device.groupId ≠ -1 → project.groups.contains device.groupId = true) ∧
      project' =
        { project with groups := enterMember project.groups device.groupId device.id } := by
  unfold joinGroup at h
  unfold enterMember
  split_ifs at h ⊢ with hnone hcont
  · cases h
    exact ⟨fun hne => absurd hnone hne, rfl⟩
  · cases h
    exact ⟨fun _ => hcont, rfl⟩

theorem leaveGroup_eq (project : Project) (groupId deviceId : ℤ) :
    leaveGroup project groupId deviceId =
    { project with groups := strikeMember project.groups groupId deviceId } := by
  unfold leaveGroup strikeMember
  split_ifs <;> rfl

theorem moveGroup_ok {project project' : Project} {oldGroupId : ℤ} {device : Device}
    (h : moveGroup project oldGroupId device = .ok project') :
    (oldGroupId ≠ device.groupId → device.groupId ≠ -1 →
      (strikeMember project.groups oldGroupId device.id).contains device.groupId = true) ∧
      project' = { project with
        groups := moveMember project.groups oldGroupId device.groupId device.id } := by
  unfold moveGroup at h
  unfold moveMember
  split_ifs at h ⊢ with hsame
  · cases h
    exact ⟨fun hne => absurd hsame hne, rfl⟩
  · rw [atProject_eq_ok, leaveGroup_eq] at h
    obtain ⟨hgroup, rfl⟩ := joinGroup_ok h
    exact ⟨fun _ => hgroup, rfl⟩

/-- **What `CreateDevice` stores**, in a project without links. -/
structure Entered (services : DeviceServices) (project : Project) (device device' : Device)
    (project' : Project) : Prop where
  placed : Placed services project.devices project.usedIpAddresses device device'
  coordinate : project.usedCoordinates.contains device'.coordinate = false
  group : device'.groupId ≠ -1 → project.groups.contains device'.groupId = true
  project : ∃ (counter : ℤ) (vlanTables : QMap ℤ VlanTable) (rstpTables : QMap ℤ RstpTable),
    project' = { insertDevice services project device' with
      usedCoordinates := project.usedCoordinates.insert device'.coordinate
      groups := enterMember project.groups device'.groupId device'.id
      lastAssignedDeviceId := counter, vlanTables := vlanTables, rstpTables := rstpTables }

theorem joinRstpGroups_bare {project project' : Project} {device : Device}
    (h : joinRstpGroups project device = .ok project') (hnone : project.rstpGroups = []) :
    project' = project := by
  unfold joinRstpGroups at h
  rw [hnone] at h
  split_ifs at h <;> exact (Except.ok.inj h).symm

theorem enterDevice_ok {services : DeviceServices} {project project' : Project}
    {device device' : Device} (hbare : Bare project)
    (h : enterDevice services project device = .ok (device', project')) :
    Entered services project device device' project' := by
  obtain ⟨addressed, haddr, h⟩ := exists_of_bind h
  obtain ⟨⟨⟩, hunused, h⟩ := exists_of_bind h
  obtain ⟨⟨numbered, counted⟩, hid, h⟩ := exists_of_bind h
  obtain ⟨profiled, hprof, h⟩ := exists_of_bind h
  obtain ⟨⟨⟩, hcheck, h⟩ := exists_of_bind h
  obtain ⟨placed, hplace, h⟩ := exists_of_bind h
  obtain ⟨grouped, hgroup, h⟩ := exists_of_bind h
  obtain ⟨joined, hrstp, h⟩ := exists_of_bind h
  rw [orStuck_eq_ok] at haddr hplace
  rw [atProject_eq_ok] at hunused hid hprof hcheck hgroup
  obtain ⟨haddressed, hsame⟩ := assignAddress_ok haddr
  obtain ⟨hnumbered, counter, rfl⟩ := assignDeviceId_ok hid
  have hprofiled := matchDeviceProfile_ok hprof
  have hplaced := placed_of haddressed hsame hnumbered hprofiled (checkDevice_ok hcheck)
    (checkAddressUnused_ok hunused)
  obtain ⟨coordinate, hfree, rfl⟩ := assignCoordinate_ok hplace
  obtain ⟨hmember, rfl⟩ := joinGroup_ok hgroup
  obtain rfl := joinRstpGroups_bare hrstp hbare.rstpGroups
  cases h
  exact ⟨{ hplaced with }, hfree, hmember, counter, _, _, rfl⟩

theorem foldlM_nil_ok {β : Type} {f : β → α → Except Failure β} {l : List α} {b b' : β}
    (h : l.foldlM f b = .ok b') (hnil : l = []) : b' = b := by
  subst hnil
  exact (Except.ok.inj h).symm

/-- The interface of the link at the device, of its source end if both ends are there. -/
def ownInterface (deviceId : ℤ) (link : Link) : ℤ :=
  if link.sourceDeviceId = deviceId then link.sourceInterfaceId
  else if link.destinationDeviceId = deviceId then link.destinationInterfaceId
  else -1

/-- The device and the interface at the other end. -/
def otherEnd (deviceId : ℤ) (link : Link) : ℤ × ℤ :=
  if link.sourceDeviceId = deviceId then (link.destinationDeviceId, link.destinationInterfaceId)
  else (link.sourceDeviceId, link.sourceInterfaceId)

/-- The link with its end at the device on this interface. -/
def plugInto (deviceId interfaceId : ℤ) (link : Link) : Link :=
  if link.sourceDeviceId = deviceId then { link with sourceInterfaceId := interfaceId }
  else { link with destinationInterfaceId := interfaceId }

@[simp] theorem plugInto_id (deviceId interfaceId : ℤ) (link : Link) :
    (plugInto deviceId interfaceId link).id = link.id := by
  unfold plugInto
  split_ifs <;> rfl

/-- What `UpdateDevice` does to a link for which the device has an interface: one whose neighbor is
not found stays as it is, one without a common speed is deleted, any other is moved. -/
inductive LinkMoved (project : Project) (link : Link) (intf : Interface) (deviceId : ℤ) :
    Project → Prop
  | alone (h : project.getDeviceById (otherEnd deviceId link).1 = none) :
      LinkMoved project link intf deviceId project
  | deleted {neighbor : Device} {neighborIntf : Interface} {project' : Project}
      (hneighbor : project.getDeviceById (otherEnd deviceId link).1 = some neighbor)
      (hintf : interfaceAt neighbor (otherEnd deviceId link).2 = some neighborIntf)
      (hspeed : commonSpeed intf.supportSpeeds.reverse neighborIntf.supportSpeeds.reverse = none)
      (h : deleteLink project link.id = .ok project') :
      LinkMoved project link intf deviceId project'
  | moved {neighbor : Device} {neighborIntf : Interface} {speed : ℤ} {project' : Project}
      (hneighbor : project.getDeviceById (otherEnd deviceId link).1 = some neighbor)
      (hintf : interfaceAt neighbor (otherEnd deviceId link).2 = some neighborIntf)
      (hspeed :
        commonSpeed intf.supportSpeeds.reverse neighborIntf.supportSpeeds.reverse = some speed)
      (h : updateLink project { plugInto deviceId intf.interfaceId link with
        speed := UInt16.ofInt speed } = .ok project') :
      LinkMoved project link intf deviceId project'

theorem keepInterface_id {device device' : Device} {interfaceId : ℤ} {intf : Interface}
    (h : keepInterface device interfaceId = some (device', intf)) : device'.id = device.id := by
  unfold keepInterface at h
  split at h
  · cases h
    rfl
  · obtain ⟨⟨interfaces, unusedId⟩, -, h⟩ := Option.bind_eq_some_iff.1 h
    obtain ⟨intf', -, h⟩ := Option.bind_eq_some_iff.1 h
    cases h
    rfl

/-- **One link of an `UpdateDevice`**: it does not end at the device, it is deleted because the
device has no interface for it, or it keeps or is given one. -/
theorem updateDeviceLink_ok {device device' : Device} {project project' : Project} {link : Link}
    (h : updateDeviceLink (device, project) link = .ok (device', project')) :
    (ownInterface device.id link = -1 ∧ device' = device ∧ project' = project) ∨
    (ownInterface device.id link ≠ -1 ∧
      keepInterface device (ownInterface device.id link) = none ∧ device' = device ∧
      deleteLink project link.id = .ok project') ∨
    ∃ intf, ownInterface device.id link ≠ -1 ∧
      keepInterface device (ownInterface device.id link) = some (device', intf) ∧
      LinkMoved project link intf device.id project' := by
  have hdel : ∀ {kept : Device}, (atProject project (deleteLink project link.id)).map (kept, ·) =
      .ok (device', project') → device' = kept ∧ deleteLink project link.id = .ok project' := by
    intro kept hok
    obtain ⟨p, hdel, hok⟩ := exists_of_map hok
    obtain ⟨rfl, rfl⟩ := Prod.mk.inj hok
    exact ⟨rfl, atProject_eq_ok.1 hdel⟩
  unfold updateDeviceLink at h
  dsimp only at h
  rw [← ownInterface] at h
  by_cases hnone : ownInterface device.id link = -1
  · rw [if_pos hnone] at h
    cases h
    exact .inl ⟨hnone, rfl, rfl⟩
  rw [if_neg hnone] at h
  refine .inr ?_
  cases hkeep : keepInterface device (ownInterface device.id link) with
  | none =>
    rw [hkeep] at h
    obtain ⟨rfl, hdeleted⟩ := hdel h
    exact .inl ⟨hnone, rfl, rfl, hdeleted⟩
  | some found =>
    obtain ⟨kept, intf⟩ := found
    rw [hkeep] at h
    dsimp only at h
    -- the neighbor is read off the link that is moved already
    have hneighborId : (if link.sourceDeviceId = device.id then
          (plugInto device.id intf.interfaceId link).destinationDeviceId
        else (plugInto device.id intf.interfaceId link).sourceDeviceId) =
          (otherEnd device.id link).1 := by
      unfold otherEnd plugInto
      split_ifs <;> rfl
    have hneighborIntf : (if link.sourceDeviceId = device.id then
          (plugInto device.id intf.interfaceId link).destinationInterfaceId
        else (plugInto device.id intf.interfaceId link).sourceInterfaceId) =
          (otherEnd device.id link).2 := by
      unfold otherEnd plugInto
      split_ifs <;> rfl
    rw [← plugInto, hneighborId, hneighborIntf] at h
    refine .inr ⟨intf, hnone, ?_⟩
    split at h
    · next hnbr =>
      cases h
      exact ⟨rfl, .alone hnbr⟩
    · next neighbor hnbr =>
      split at h
      · cases h
      · next neighborIntf hintf =>
        split at h
        · next hspeed =>
          rw [plugInto_id] at h
          obtain ⟨rfl, hdeleted⟩ := hdel h
          exact ⟨rfl, .deleted hnbr hintf hspeed hdeleted⟩
        · next speed hspeed =>
          obtain ⟨p, hupd, h⟩ := exists_of_map h
          obtain ⟨rfl, rfl⟩ := Prod.mk.inj h
          exact ⟨rfl, .moved hnbr hintf hspeed (atProject_eq_ok.1 hupd)⟩

/-- An RSTP group is replaced or deleted; with a group that is deleted the others are computed
anew. -/
theorem updateRstpGroup_ok {fuel : ℕ} {device : Device} {project project' : Project} {rstp : RSTP}
    (h : updateRstpGroup fuel device project rstp = .ok project') :
    ∃ groups, project' = { project with rstpGroups := groups } ∨
      computeRedundantRSTP fuel { project with rstpGroups := groups } = some project' := by
  have hdel : ∀ {rstpId : ℤ}, deleteRedundantRSTP fuel project rstpId = some project' →
      ∃ groups, project' = { project with rstpGroups := groups } ∨
        computeRedundantRSTP fuel { project with rstpGroups := groups } = some project' := by
    intro rstpId hdel
    unfold deleteRedundantRSTP at hdel
    split_ifs at hdel
    · exact ⟨_, .inr hdel⟩
    · exact ⟨project.rstpGroups, .inl (Option.some.inj hdel).symm⟩
  have hupd : ∀ {rstp : RSTP}, updateRedundantRSTP project rstp = .ok project' →
      ∃ groups, project' = { project with rstpGroups := groups } := by
    intro rstp hupd
    obtain ⟨-, -, hupd⟩ := exists_of_bind hupd
    cases hupd
    split_ifs
    · exact ⟨_, rfl⟩
    · exact ⟨project.rstpGroups, rfl⟩
  unfold updateRstpGroup at h
  dsimp only at h
  generalize (if bridges device.deviceType = true then rstp.devices.insert device.id
    else rstp.devices.remove device.id) = devices at h
  split at h
  · exact hdel (orStuck_eq_ok.1 h)
  · obtain ⟨groups, hgroups⟩ := hupd (atProject_eq_ok.1 h)
    exact ⟨groups, .inl hgroups⟩

theorem updateVlanGroupMembers_ok {device : Device} {project project' : Project}
    (h : updateVlanGroupMembers device project = .ok project') :
    ∃ groups, project' = { project with intelligentVlanGroup := groups } := by
  unfold updateVlanGroupMembers at h
  split_ifs at h
  · cases h
    exact ⟨project.intelligentVlanGroup, rfl⟩
  · refine foldlM_rule
      (I := fun p => ∃ groups, p = { project with intelligentVlanGroup := groups }) h
      ⟨project.intelligentVlanGroup, rfl⟩ fun p p' group hp hstep => ?_
    obtain ⟨groups, rfl⟩ := hp
    unfold updateVlanGroupMember at hstep
    split_ifs at hstep
    · dsimp only at hstep
      split_ifs at hstep
      · cases hstep
        exact ⟨_, rfl⟩
      · unfold updateVlanGroup createVlanGroup at hstep
        rw [atProject_eq_ok] at hstep
        split_ifs at hstep
        cases hstep
        exact ⟨_, rfl⟩
    · cases hstep
      exact ⟨groups, rfl⟩

/-- **The steps of an `UpdateDevice`**: the device that was there and the project without it, the
device with its number and with its profile, and the project when the device is stored, after the
RSTP groups, after the VLAN groups and after the links. -/
structure ReplaceSteps (services : DeviceServices) (fuel : ℕ) (deleted : Device) (rest : Project)
    (device stored : Device) (project' : Project) (numbered profiled : Device)
    (entered grouped linked final : Project) : Prop where
  unused : checkAddressUnused services rest (refreshInterfaces rest device) = .ok ()
  stores : ∃ counted moved,
    assignDeviceId
        { rest with usedIpAddresses :=
            rest.usedIpAddresses.insert (services.addresses.number device.ipAddress) }
        (refreshInterfaces rest device) = .ok (numbered, counted) ∧
      moveGroup (useCoordinate counted profiled) deleted.groupId profiled = .ok moved ∧
      entered = { moved with devices := moved.devices.insert profiled }
  matched : matchDeviceProfile services numbered = .ok profiled
  checked : checkDevice services profiled = .ok ()
  rstpGroups : entered.rstpGroups.foldlM (updateRstpGroup fuel profiled) entered = .ok grouped
  vlanGroups : updateVlanGroupMembers profiled grouped = .ok linked
  links : linked.links.foldlM updateDeviceLink (profiled, linked) = .ok (stored, final)
  result : project' = updateTables services final stored

/-- An `UpdateDevice` that succeeds went through its steps. -/
theorem exists_replaceSteps {services : DeviceServices} {fuel : ℕ} {project project' : Project}
    {device stored : Device}
    (h : replaceDevice services fuel project device = .ok (stored, project')) :
    ∃ numbered profiled entered grouped linked final,
      ReplaceSteps services fuel (takeDevice services project device.id).1
        (takeDevice services project device.id).2 device stored project' numbered profiled entered
        grouped linked final := by
  unfold replaceDevice at h
  generalize takeDevice services project device.id = taken at h ⊢
  obtain ⟨deleted, rest⟩ := taken
  dsimp only at h ⊢
  obtain ⟨⟨⟩, hunused, h⟩ := exists_of_bind h
  obtain ⟨⟨numbered, counted⟩, hid, h⟩ := exists_of_bind h
  obtain ⟨profiled, hprof, h⟩ := exists_of_bind h
  obtain ⟨⟨⟩, -, h⟩ := exists_of_bind h
  obtain ⟨⟨⟩, hcheck, h⟩ := exists_of_bind h
  obtain ⟨moved, hgroup, h⟩ := exists_of_bind h
  obtain ⟨grouped, hrstp, h⟩ := exists_of_bind h
  obtain ⟨linked, hvlan, h⟩ := exists_of_bind h
  obtain ⟨⟨stored', final⟩, hlinks, h⟩ := exists_of_bind h
  rw [atProject_eq_ok] at hunused hid hprof hcheck
  cases h
  exact ⟨numbered, profiled, _, grouped, linked, final, hunused,
    ⟨counted, moved, hid, hgroup, rfl⟩, hprof, hcheck, hrstp, hvlan, hlinks, rfl⟩

/-- **What `UpdateDevice` stores**, in a project without links: `deleted` and `rest` are the device
that was there and the project without it. -/
structure Replaced (services : DeviceServices) (deleted : Device) (rest : Project)
    (device device' : Device) (project' : Project) : Prop where
  placed : Placed services rest.devices rest.usedIpAddresses device device'
  coordinate : device'.coordinate = device.coordinate
  group : deleted.groupId ≠ device'.groupId → device'.groupId ≠ -1 →
    (strikeMember rest.groups deleted.groupId device'.id).contains device'.groupId = true
  project : ∃ (counter : ℤ) (vlanTables : QMap ℤ VlanTable) (rstpTables : QMap ℤ RstpTable),
    project' = { insertDevice services rest device' with
      usedCoordinates := rest.usedCoordinates.insert device'.coordinate
      groups := moveMember rest.groups deleted.groupId device'.groupId device'.id
      lastAssignedDeviceId := counter, vlanTables := vlanTables, rstpTables := rstpTables }

theorem bare_takeDevice {services : DeviceServices} {project : Project} (h : Bare project)
    (deviceId : ℤ) : Bare (takeDevice services project deviceId).2 := by
  unfold takeDevice
  split
  · exact h
  · exact ⟨h.1, h.2, h.3, h.4⟩

theorem updateVlanGroupMembers_bare {project project' : Project} {device : Device}
    (h : updateVlanGroupMembers device project = .ok project')
    (hnone : project.intelligentVlanGroup = []) : project' = project := by
  unfold updateVlanGroupMembers at h
  split_ifs at h
  · exact (Except.ok.inj h).symm
  · exact foldlM_nil_ok h hnone

theorem replaceDevice_ok {services : DeviceServices} {fuel : ℕ} {project project' : Project}
    {device device' : Device} (hbare : Bare project)
    (h : replaceDevice services fuel project device = .ok (device', project')) :
    Replaced services (takeDevice services project device.id).1
      (takeDevice services project device.id).2 device device' project' := by
  have hrest := @bare_takeDevice services _ hbare device.id
  obtain ⟨numbered, profiled, entered, grouped, linked, final, hsteps⟩ := exists_replaceSteps h
  generalize (takeDevice services project device.id).1 = deleted at hsteps ⊢
  generalize (takeDevice services project device.id).2 = rest at hsteps hrest ⊢
  obtain ⟨hunused, ⟨counted, moved, hid, hgroup, rfl⟩, hprof, hcheck, hrstp, hvlan, hlinks,
    rfl⟩ :=
    hsteps
  obtain ⟨hnumbered, counter, rfl⟩ := assignDeviceId_ok hid
  have hprofiled := matchDeviceProfile_ok hprof
  have hplaced : Placed services rest.devices rest.usedIpAddresses device profiled :=
    placed_of (show (refreshInterfaces rest device).id = device.id from rfl)
      ⟨rfl, rfl, rfl, rfl, rfl, rfl⟩ hnumbered hprofiled (checkDevice_ok hcheck)
      (checkAddressUnused_ok hunused)
  have haddr : profiled.ipAddress = device.ipAddress :=
    hprofiled.ipAddress.trans hnumbered.ipAddress
  have hcoord : profiled.coordinate = device.coordinate :=
    hprofiled.coordinate.trans hnumbered.same.coordinate
  obtain ⟨hmember, rfl⟩ := moveGroup_ok hgroup
  obtain rfl := foldlM_nil_ok hrstp hrest.rstpGroups
  obtain rfl := updateVlanGroupMembers_bare hvlan hrest.vlanGroups
  obtain ⟨rfl, rfl⟩ := Prod.mk.inj (foldlM_nil_ok hlinks hrest.links)
  refine ⟨hplaced, hcoord, hmember, counter, ?vlanTables, ?rstpTables, ?project⟩
  case project =>
    simp only [insertDevice, useCoordinate, haddr]
    rfl

theorem dropDevice_ok {services : DeviceServices} {project project' : Project} {device : Device}
    (h : dropDevice services project deviceId = .ok (device, project')) :
    project.getDeviceById deviceId = some device ∧
      project' = { removeDevice services project device with
        groups := strikeMember project.groups device.groupId device.id } := by
  unfold dropDevice at h
  cases hfound : project.getDeviceById deviceId with
  | none => simp [hfound] at h
  | some found =>
    rw [hfound] at h
    cases h
    rw [leaveGroup_eq]
    exact ⟨rfl, rfl⟩

/-- **What `DeleteDevice` removes**, in a project without links. -/
theorem withdrawDevice_ok {services : DeviceServices} {fuel : ℕ} {project project' : Project}
    {device : Device} (hbare : Bare project)
    (h : withdrawDevice services fuel project deviceId = .ok (device, project')) :
    project.getDeviceById deviceId = some device ∧
      project' = { removeDevice services project device with
        groups := strikeMember project.groups device.groupId device.id
        vlanTables := project.vlanTables.erase deviceId
        rstpTables := project.rstpTables.erase deviceId } := by
  obtain ⟨⟨dropped, rest⟩, hdrop, h⟩ := exists_of_bind h
  obtain ⟨managed, hmanagement, h⟩ := exists_of_bind h
  obtain ⟨rstpDeleted, hrstp, h⟩ := exists_of_bind h
  obtain ⟨vlanDeleted, hvlan, h⟩ := exists_of_bind h
  obtain ⟨unlinked, hlinks, h⟩ := exists_of_bind h
  rw [atProject_eq_ok] at hdrop
  obtain ⟨hfound, rfl⟩ := dropDevice_ok hdrop
  obtain rfl := foldlM_nil_ok hmanagement hbare.managementInterfaces
  obtain rfl := foldlM_nil_ok hrstp hbare.rstpGroups
  obtain rfl := foldlM_nil_ok hvlan hbare.vlanGroups
  obtain rfl := foldlM_nil_ok hlinks hbare.links
  cases h
  exact ⟨hfound, rfl⟩

/-- One round of `DeleteDevices` removes a device and its articles. -/
theorem deleteDevicesStep_ok {services : DeviceServices} {project project' : Project}
    (h : deleteDevicesStep services toBag project deviceId = .ok project') :
    ∃ (device : Device) (skus : SkuMap), project.getDeviceById deviceId = some device ∧
      updateSkuQuantityByDeleteDevice services.catalogue project.skuQuantitiesMap device toBag =
        .ok skus ∧
      project' = { removeDevice services project device with
        groups := strikeMember project.groups device.groupId device.id
        skuQuantitiesMap := skus } := by
  obtain ⟨⟨device, dropped⟩, hdrop, h⟩ := exists_of_bind h
  rw [atProject_eq_ok] at hdrop
  obtain ⟨hfound, rfl⟩ := dropDevice_ok hdrop
  obtain ⟨skus, hskus, rfl⟩ := changeSkus_eq_ok.1 h
  exact ⟨device, skus, hfound, hskus, rfl⟩

theorem bare_deleteDevicesStep {services : DeviceServices} {project project' : Project}
    (hbare : Bare project) (h : deleteDevicesStep services toBag project deviceId = .ok project') :
    Bare project' := by
  obtain ⟨device, skus, -, -, rfl⟩ := deleteDevicesStep_ok h
  exact ⟨hbare.1, hbare.2, hbare.3, hbare.4⟩

theorem foldl_deleteDeviceDeviceConfig (deviceIds : List ℤ) (project : Project) :
    ∃ (vlanTables : QMap ℤ VlanTable) (rstpTables : QMap ℤ RstpTable),
      deviceIds.foldl deleteDeviceDeviceConfig project =
        { project with vlanTables := vlanTables, rstpTables := rstpTables } := by
  induction deviceIds generalizing project with
  | nil => exact ⟨_, _, rfl⟩
  | cons deviceId deviceIds ih =>
    obtain ⟨vlanTables, rstpTables, h⟩ := ih (deleteDeviceDeviceConfig project deviceId)
    exact ⟨vlanTables, rstpTables, h⟩

/-- **What `DeleteDevices` removes**, in a project without links: but for the tables it is its
first loop. -/
theorem deleteDevices_eq_ok {services : DeviceServices} {fuel : ℕ} {project project' : Project}
    {deviceIds : List ℤ} (hbare : Bare project) :
    deleteDevices services fuel project deviceIds toBag = .ok project' ↔
      deviceIds ≠ [] ∧ ∃ rest, deviceIds.foldlM (deleteDevicesStep services toBag) project =
        .ok rest ∧
        project' = deviceIds.foldl deleteDeviceDeviceConfig rest := by
  have hbares : ∀ rest, deviceIds.foldlM (deleteDevicesStep services toBag) project = .ok rest →
      Bare rest := fun rest h =>
    foldlM_rule h hbare fun _ _ _ hb hstep => bare_deleteDevicesStep hb hstep
  have hlinks : ∀ rest, Bare rest → deleteDeviceLinks
    (deviceIds.foldl deleteDeviceDeviceConfig rest)
      deviceIds = .ok (deviceIds.foldl deleteDeviceDeviceConfig rest) := by
    intro rest hrest
    obtain ⟨vlanTables, rstpTables, h⟩ := foldl_deleteDeviceDeviceConfig deviceIds rest
    unfold deleteDeviceLinks
    rw [h, show Project.links _ = [] from hrest.links]
    rfl
  constructor
  · intro h
    unfold deleteDevices at h
    by_cases hne : deviceIds = []
    · rw [hne] at h
      cases h
    rw [if_neg (by simpa using hne)] at h
    obtain ⟨rest, hrest, hloops⟩ := exists_of_bind h
    obtain ⟨managed, hmanagement, hloops⟩ := exists_of_bind hloops
    obtain ⟨rstpDeleted, hrstp, hloops⟩ := exists_of_bind hloops
    obtain ⟨vlanDeleted, hvlan, hunlinked⟩ := exists_of_bind hloops
    have hrestBare := hbares rest hrest
    obtain rfl := foldlM_nil_ok hmanagement hrestBare.managementInterfaces
    obtain rfl := foldlM_nil_ok hrstp hrestBare.rstpGroups
    obtain rfl := foldlM_nil_ok hvlan hrestBare.vlanGroups
    rw [hlinks _ hrestBare] at hunlinked
    exact ⟨hne, _, hrest, (Except.ok.inj hunlinked).symm⟩
  · rintro ⟨hne, rest, hrest, rfl⟩
    have hrestBare := hbares rest hrest
    have hempty : deviceIds.isEmpty = false := by simpa using hne
    unfold deleteDevices deleteManagementInterfaces
    rw [hempty, if_neg Bool.false_ne_true]
    show (deviceIds.foldlM (deleteDevicesStep services toBag) project >>= _) = _
    rw [hrest]
    show ((rest.managementInterfaces.foldlM _ rest : Except Failure Project) >>= _) = _
    rw [hrestBare.managementInterfaces]
    show ((rest.rstpGroups.foldlM _ rest : Except Failure Project) >>= _) = _
    rw [hrestBare.rstpGroups]
    show ((rest.intelligentVlanGroup.foldlM _ rest : Except Failure Project) >>= _) = _
    rw [hrestBare.vlanGroups]
    exact hlinks rest hrestBare

end Core
end Sebastian

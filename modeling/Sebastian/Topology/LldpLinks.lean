/-
# The links a device reports

`southbound/src/act_southbound.cpp`: `GenerateLinkSetBylldpInfo` turns the LLDP data read from a
device into links.  For every port with a neighbor it looks for the neighbor among the other alive
devices (`FindDeviceByLldpChassisId`), for the neighbor's port in several places, and, when there
is none, gives the neighbor a port of its own (`FindAndUpdateRemoteDeviceInterface`).

Wherever the port comes from, every link begins at the device and ends at another of the alive
devices (`generateLinkSetByLldpInfo_joins`).
-/

import Sebastian.Project
import Sebastian.Status
import Sebastian.Lib.Except

namespace Sebastian
namespace Southbound

/-- `ActLLDPData` -/
structure LldpData where
  locChassisId : String := ""
  locPortIdMap : QMap ℤ String := ∅
  remPortChassisIdSubtypeMap : QMap ℤ ℤ := ∅
  remPortChassisIdMap : QMap ℤ String := ∅
  remPortIdSubtypeMap : QMap ℤ ℤ := ∅
  remPortIdMap : QMap ℤ String := ∅

/-- `ActDevice` with its `lldp_data_`. -/
structure LldpDevice extends Device where
  lldpData : LldpData := {}

instance : Inhabited LldpDevice := ⟨{}⟩

instance : BEq LldpDevice := ⟨fun x y => x.toDevice == y.toDevice⟩

/-- What is read from the text of an id: `TransferChassisIdToMacFormat`, where it succeeds, and
`QString::toInt`, 0 where the text is no number. -/
structure IdFormat where
  transferChassisIdToMacFormat : String → Option String
  toInt : String → ℤ

/-- `FindDeviceByLldpChassisId` -/
def findDeviceByLldpChassisId (format : IdFormat) (devices : List LldpDevice)
    (chassisIdSubtype : ℤ) (chassisId : String) : Except Status LldpDevice :=
  if devices.isEmpty then .error (.badRequest ⟨"The devices list is empty", []⟩)
  else if chassisId.isEmpty then .error (.badRequest ⟨"The chassis_id is empty", []⟩)
  else
    let byChassisId := devices.find? fun device =>
      !device.lldpData.locChassisId.isEmpty && device.lldpData.locChassisId == chassisId
    let byMac :=
      if chassisIdSubtype == 1 || chassisIdSubtype == 4 || chassisIdSubtype == 7 then
        (format.transferChassisIdToMacFormat chassisId).bind fun macAddress =>
          devices.find? fun device => device.macAddress == macAddress
      else none
    let byAddress :=
      if chassisIdSubtype == 1 || chassisIdSubtype == 5 || chassisIdSubtype == 7 then
        devices.find? fun device => device.ipAddress == chassisId
      else none
    match byChassisId.or (byMac.or byAddress) with
    | some device => .ok device
    | none => .error (.notFound
        ⟨"Remote device (by ChassisID: %1(%2))", [.str chassisId, .int chassisIdSubtype]⟩)

/-- The interface id of the device's interface of that name, where it has one. -/
def interfaceIdByName (device : LldpDevice) (name : String) (interfaceId : ℤ) : ℤ :=
  ((device.interfaces.find? (·.interfaceName == name)).map (·.interfaceId)).getD interfaceId

/-- The neighbor's port as LLDP tells it: by the port ids of the neighbor, as a number, or by the
name of an interface.  `none` where the loop goes on with the next port. -/
def remoteInterfaceId (format : IdFormat) (device remote : LldpDevice) (port : ℤ)
    (remPortId : String) : Option ℤ :=
  let byPortId := ((remote.lldpData.locPortIdMap.toList.find? (·.2 == remPortId)).map (·.1)).getD
    (-1)
  let number := if byPortId == -1 then format.toInt remPortId else byPortId
  if number == -1 || number == 0 then
    (device.lldpData.remPortIdSubtypeMap[port]?).map fun subtype =>
      if subtype == 1 || subtype == 7 then
        if format.toInt remPortId == 0 then interfaceIdByName remote remPortId 0
        else format.toInt remPortId
      else if subtype == 5 then interfaceIdByName remote remPortId number
      else number
  else some number

/-- `ACT_AUTOSCAN_ASSIGN_INTERFACE_NAME` -/
def autoscanAssignInterfaceName : String := "Port"

/-- `FindAndUpdateRemoteDeviceInterface`: the interface that stands for every unknown port of the
device, and the devices to update. -/
def findAndUpdateRemoteDeviceInterface (remDev : LldpDevice) (updateDevices : QSet LldpDevice) :
    ℤ × QSet LldpDevice :=
  let found := updateDevices.find remDev
  let newRemDev := found.getD remDev
  let interfaces := newRemDev.interfaces.map fun intf =>
    if intf.interfaceName == autoscanAssignInterfaceName then
      { intf with deviceId := remDev.id, used := true, supportSpeeds := [1000] }
    else intf
  let remInterfaceId :=
    interfaces.foldl (fun id intf =>
      if intf.interfaceName == autoscanAssignInterfaceName then intf.interfaceId else id) (-1)
  let lastId : ℤ := interfaces.length + 1
  let newInterface : Interface :=
    { interfaceId := lastId, deviceId := remDev.id, interfaceName := autoscanAssignInterfaceName,
      used := true, supportSpeeds := [1000] }
  let updated : LldpDevice :=
    { newRemDev with
      interfaces := if remInterfaceId == -1 then interfaces ++ [newInterface] else interfaces }
  let rest := if found.isSome then updateDevices.remove updated else updateDevices
  (if remInterfaceId == -1 then lastId else remInterfaceId, rest.insert updated)

/-- `ActScanLinksResult` -/
structure ScanLinksResult where
  scanLinks : QSet Link := []
  updateDevices : QSet LldpDevice := []

/-- `ActLink(id, source_device_id, destination_device_id, source_interface_id,
destination_interface_id)` -/
def linkBetween (id sourceDeviceId destinationDeviceId sourceInterfaceId
    destinationInterfaceId : ℤ) : Link :=
  { id, sourceDeviceId, destinationDeviceId, sourceInterfaceId, destinationInterfaceId }

/-- The round of `GenerateLinkSetBylldpInfo` for one port: a link to the remote device, if the port
of it is known. -/
def generateLink (format : IdFormat) (device remote : LldpDevice) (port : ℤ)
    (result : ScanLinksResult) : ScanLinksResult :=
  match device.lldpData.remPortIdMap[port]? with
  | none => result
  | some remPortId =>
    match remoteInterfaceId format device remote port remPortId with
    | none => result
    | some interfaceId =>
      let (remInterfaceId, updateDevices) :=
        if interfaceId == -1 || interfaceId == 0 then
          findAndUpdateRemoteDeviceInterface remote result.updateDevices
        else (interfaceId, result.updateDevices)
      if remInterfaceId == -1 || remInterfaceId == 0 then { result with updateDevices }
      else
        { scanLinks := result.scanLinks.insert
            (linkBetween (result.scanLinks.length + 1) device.id remote.id port remInterfaceId)
          updateDevices }

/-- The round of `GenerateLinkSetBylldpInfo` for a port and the chassis id of its neighbor. -/
def generateLinkOfPort (format : IdFormat) (device : LldpDevice) (aliveDevices : List LldpDevice)
    (result : ScanLinksResult) (entry : ℤ × String) : ScanLinksResult :=
  match device.lldpData.remPortChassisIdSubtypeMap[entry.1]? with
  | none => result
  | some subtype =>
    -- the local device is skipped
    match findDeviceByLldpChassisId format (aliveDevices.erase device) subtype entry.2 with
    | .error _ => result
    | .ok remote =>
      if remote.id == -1 || device.id == remote.id then result
      else generateLink format device remote entry.1 result

/-- `GenerateLinkSetBylldpInfo` -/
def generateLinkSetByLldpInfo (format : IdFormat) (device : LldpDevice)
    (aliveDevices : List LldpDevice) : ScanLinksResult :=
  device.lldpData.remPortChassisIdMap.toList.foldl (generateLinkOfPort format device aliveDevices)
    {}

/-! ### What is reported -/

variable {format : IdFormat} {device remote : LldpDevice} {devices : List LldpDevice}
  {result : ScanLinksResult}

theorem mem_of_findDeviceByLldpChassisId {subtype : ℤ} {chassisId : String}
    (h : findDeviceByLldpChassisId format devices subtype chassisId = .ok remote) :
    remote ∈ devices := by
  unfold findDeviceByLldpChassisId at h
  split at h
  · cases h
  split at h
  · cases h
  dsimp only at h
  split at h
  · rename_i found hfound
    cases h
    rw [Option.or_eq_some_iff] at hfound
    rcases hfound with hfound | ⟨-, hfound⟩
    · exact List.mem_of_find?_eq_some hfound
    rw [Option.or_eq_some_iff] at hfound
    rcases hfound with hfound | ⟨-, hfound⟩
    · split at hfound
      · obtain ⟨macAddress, -, hfound⟩ := Option.bind_eq_some_iff.1 hfound
        exact List.mem_of_find?_eq_some hfound
      · cases hfound
    · split at hfound
      · exact List.mem_of_find?_eq_some hfound
      · cases hfound
  · cases h

/-- The link begins at the device and ends at another of the devices. -/
structure Joins (device : LldpDevice) (devices : List LldpDevice) (link : Link) : Prop where
  source : link.sourceDeviceId = device.id
  destination : ∃ remote ∈ devices, link.destinationDeviceId = remote.id
  apart : link.sourceDeviceId ≠ link.destinationDeviceId

theorem joins_generateLink (hrem : remote ∈ devices) (hapart : device.id ≠ remote.id) (port : ℤ)
    (h : ∀ link ∈ result.scanLinks, Joins device devices link) :
    ∀ link ∈ (generateLink format device remote port result).scanLinks,
      Joins device devices link := by
  unfold generateLink
  split
  · exact h
  split
  · exact h
  -- whichever port of the remote device it is
  have hins : ∀ found : ℤ × QSet LldpDevice, ∀ link ∈
      (if found.1 == -1 || found.1 == 0 then { result with updateDevices := found.2 }
        else
          { scanLinks := result.scanLinks.insert
              (linkBetween (result.scanLinks.length + 1) device.id remote.id port found.1)
            updateDevices := found.2 } : ScanLinksResult).scanLinks,
      Joins device devices link := by
    intro found link hlink
    split at hlink
    · exact h link hlink
    · rcases QSet.mem_or_eq_of_mem_insert hlink with hold | rfl
      · exact h link hold
      · exact ⟨rfl, ⟨remote, hrem, rfl⟩, hapart⟩
  exact hins _

theorem joins_generateLinkOfPort (h : ∀ link ∈ result.scanLinks, Joins device devices link)
    (entry : ℤ × String) :
    ∀ link ∈ (generateLinkOfPort format device devices result entry).scanLinks,
      Joins device devices link := by
  unfold generateLinkOfPort
  split
  · exact h
  split
  · exact h
  · rename_i remote hfound
    split
    · exact h
    · rename_i hguard
      rw [Bool.or_eq_true, not_or, beq_iff_eq, beq_iff_eq] at hguard
      have hrem := List.mem_of_mem_erase (mem_of_findDeviceByLldpChassisId hfound)
      exact joins_generateLink hrem hguard.2 entry.1 h

/-- **Every reported link begins at the device and ends at another** of the alive devices. -/
theorem generateLinkSetByLldpInfo_joins (format : IdFormat) (device : LldpDevice)
    (devices : List LldpDevice) :
    ∀ link ∈ (generateLinkSetByLldpInfo format device devices).scanLinks,
      Joins device devices link := by
  unfold generateLinkSetByLldpInfo
  refine List.foldlRecOn (motive := fun result : ScanLinksResult =>
    ∀ link ∈ result.scanLinks, Joins device devices link) _ _ nofun fun result h entry _ => ?_
  exact joins_generateLinkOfPort h entry

end Southbound
end Sebastian

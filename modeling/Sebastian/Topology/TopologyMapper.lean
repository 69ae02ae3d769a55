/-
# The topology mapper of the service

`sebastian/modules/topologymapping`: the service holds the designed network against
the scanned one by a `mappingTopology` of its own, a second hand at what
`ActTopologyMapping::MappingTopology` does.  The maps of the walk are traversed in
ascending order of their keys; a map that was never made (`nil`) is not an empty one.
-/

import Sebastian.Topology.TopologyMapping

namespace Sebastian
namespace TopologyMapper

/-! ### The data -/

/-- `DeviceMappingResultStatus`, the same six values; an item holds the text of one
(`String()`). -/
abbrev DeviceMappingResultStatus := TopologyMapping.DeviceMapStatus

/-- One module of `netdl.Modules`. -/
structure SlotModule where
  slotId : ℤ
  moduleName : String
  serialNumber : String

/-- `netdl.Modules`: pointers, which may be `nil`. -/
structure Modules where
  ethernet : List (Option SlotModule) := []
  power : List (Option SlotModule) := []

/-- `domain.ModularConfiguration`: the ids of the modules by slot; a map may be `nil`. -/
structure ModularConfiguration where
  ethernet : Option (QMap ℤ ℤ) := none
  power : Option (QMap ℤ ℤ) := none

/-- `mappingDevice` -/
structure MappingDevice where
  id : ℤ := 0
  ipAddress : String := ""
  macAddress : String := ""
  modelName : String := ""
  vendor : String := ""
  deviceType : DeviceType := .unknown
  serialNumber : String := ""
  modularConfiguration : ModularConfiguration := {}
  modularInfo : Modules := {}
  builtInPower : Bool := false

/-- `mappingLink` -/
structure MappingLink where
  id : ℤ := 0
  sourceDeviceId : ℤ := 0
  sourceInterfaceId : ℤ := 0
  destinationDeviceId : ℤ := 0
  destinationInterfaceId : ℤ := 0

/-- `mappingTopology`, the type -/
structure MappingTopology where
  devices : List MappingDevice := []
  links : List MappingLink := []
  sourceDeviceId : ℤ := 0

/-- `domain.MappingDeviceResultItem` -/
structure MappingDeviceResultItem where
  id : ℤ := 0
  offlineDeviceId : ℤ := 0
  offlineIpAddress : String := ""
  offlineModelName : String := ""
  onlineDeviceId : ℤ := 0
  onlineIpAddress : String := ""
  onlineModelName : String := ""
  onlineMacAddress : String := ""
  onlineSerialNumber : String := ""
  onlineEthernetModule : QMap ℤ SimpleModule := ∅
  onlinePowerModule : QMap ℤ SimpleModule := ∅
  status : DeviceMappingResultStatus
  errorMessage : String := ""

/-- `domain.TopologyMappingResult` -/
structure TopologyMappingResult where
  mappingReport : List MappingDeviceResultItem := []
  deploy : Bool := false

/-! ### Helpers -/

/-- `equalMapStringInt64` -/
def equalMapStringInt64 : Option (QMap ℤ ℤ) → Option (QMap ℤ ℤ) → Bool
  | none, none => true
  | some a, some b => a.size == b.size && a.toList.all fun (k, v) => b[k]? == some v
  | _, _ => false

/-- The modules of `createMappingDeviceResultItem`: those that are there, in configured
slots or not. -/
def onlineModules (modules : List (Option SlotModule)) : QMap ℤ SimpleModule :=
  modules.foldl (fun found slot =>
    match slot with
    | none => found
    | some slot => found.insert slot.slotId ⟨slot.moduleName, slot.serialNumber⟩) ∅

/-- `createMappingDeviceResultItem` (which does not look at `builtInPower`) -/
def createMappingDeviceResultItem (offlineDev onlineDev : MappingDevice)
    (status : DeviceMappingResultStatus) (errorMsg : String) : MappingDeviceResultItem where
  id := offlineDev.id
  offlineDeviceId := offlineDev.id
  offlineIpAddress := offlineDev.ipAddress
  offlineModelName := offlineDev.modelName
  onlineDeviceId := onlineDev.id
  onlineIpAddress := onlineDev.ipAddress
  onlineModelName := onlineDev.modelName
  onlineMacAddress := onlineDev.macAddress
  onlineSerialNumber := onlineDev.serialNumber
  onlineEthernetModule := onlineModules onlineDev.modularInfo.ethernet
  onlinePowerModule := onlineModules onlineDev.modularInfo.power
  status := status
  errorMessage := errorMsg

/-- One link in `generateLeaveInterfaceOppositeDeviceMap`: both its ends are looked at. -/
def leaveInterface (checkMoxaVendor : Bool) (deviceId : ℤ) (moxaVendorDeviceIds : QSet ℤ)
    (result : QMap ℤ ℤ) (link : MappingLink) : QMap ℤ ℤ :=
  let result :=
    if link.destinationDeviceId = deviceId ∧
        (!checkMoxaVendor || moxaVendorDeviceIds.contains link.sourceDeviceId) then
      result.insert link.destinationInterfaceId link.sourceDeviceId
    else result
  if link.sourceDeviceId = deviceId ∧
      (!checkMoxaVendor || moxaVendorDeviceIds.contains link.destinationDeviceId) then
    result.insert link.sourceInterfaceId link.destinationDeviceId
  else result

/-- `generateLeaveInterfaceOppositeDeviceMap` -/
def generateLeaveInterfaceOppositeDeviceMap (checkMoxaVendor : Bool) (deviceId : ℤ)
    (deviceLinks : List MappingLink) (moxaVendorDeviceIds : QSet ℤ) : QMap ℤ ℤ :=
  deviceLinks.foldl (leaveInterface checkMoxaVendor deviceId moxaVendorDeviceIds) ∅

/-- `linkExists` -/
def linkExists (links : List MappingLink) (id : ℤ) : Bool := links.any (·.id == id)

/-- The links at a device get one more, unless its id is there. -/
def appendLink (links : List MappingLink) (link : MappingLink) : List MappingLink :=
  if linkExists links link.id then links else links ++ [link]

/-- `generateDeviceLinksMap` -/
def generateDeviceLinksMap (topology : MappingTopology) : QMap ℤ (List MappingLink) :=
  topology.links.foldl (fun result link =>
    (result.update link.destinationDeviceId (appendLink · link)).update link.sourceDeviceId
      (appendLink · link)) ∅

/-- `moxaVendorId`, `moxaVendorString` -/
def isMoxaVendor (vendor : String) : Bool := vendor == "8691" || vendor == "MOXA"

/-- `generateOfflineMappingDeviceMap` -/
def generateOfflineMappingDeviceMap (topology : MappingTopology) : QSet ℤ :=
  topology.devices.foldl (fun result dev =>
    if dev.deviceType = .endStation then result
    else if isMoxaVendor dev.vendor then QSet.insert result dev.id
    else result) []

/-- `findDeviceById` -/
def findDeviceById (devices : List MappingDevice) (deviceId : ℤ) : Except String MappingDevice :=
  match devices.find? (·.id == deviceId) with
  | some device => .ok device
  | none => .error ("The device with ID " ++ toString deviceId ++ " not found")

/-! ### The walk -/

/-- The variables of `mappingTopology`. -/
structure MapperVars where
  offlineDeviceIdQueue : List ℤ
  onlineDeviceId : ℤ
  offlineDevicesResult : QMap ℤ MappingDeviceResultItem := ∅
  foundOnlineDeviceIdMap : QSet ℤ := []
  onlineMappedDeviceIdMap : QSet ℤ := []
  offlineNotFoundPortDeviceIdMap : QSet ℤ := []

/-- What `checkDevice` finds wrong with a pair. -/
def checkDeviceError (offlineDevice onlineDevice : MappingDevice) (builtInPower : Bool) :
    Option String :=
  if offlineDevice.modelName ≠ onlineDevice.modelName then some "Check Model Name failed"
  else if !builtInPower && !equalMapStringInt64 offlineDevice.modularConfiguration.power
      onlineDevice.modularConfiguration.power then
    some "Check Power Module failed"
  else if !equalMapStringInt64 offlineDevice.modularConfiguration.ethernet
      onlineDevice.modularConfiguration.ethernet then
    some "Check Line Module failed"
  else none

/-- `checkDevice`.  (Nothing depends on the error it returns.) -/
def checkDevice (offlineDevice onlineDevice : MappingDevice) (builtInPower : Bool)
    (offlineDevicesResult : QMap ℤ MappingDeviceResultItem) : QMap ℤ MappingDeviceResultItem :=
  if offlineDevicesResult.contains offlineDevice.id then offlineDevicesResult
  else
    match checkDeviceError offlineDevice onlineDevice builtInPower with
    | some errorMsg => offlineDevicesResult.insert offlineDevice.id
        (createMappingDeviceResultItem offlineDevice onlineDevice .failed errorMsg)
    | none => offlineDevicesResult.insert offlineDevice.id
        (createMappingDeviceResultItem offlineDevice onlineDevice .success "")

/-- One end of a link in the loop that enqueues the neighbors. -/
def enqueueDevice (mappingDeviceIds : QSet ℤ)
    (offlineDevicesResult : QMap ℤ MappingDeviceResultItem) (queue : List ℤ) (nextDeviceId : ℤ) :
    List ℤ :=
  if !offlineDevicesResult.contains nextDeviceId && !queue.contains nextDeviceId then
    if mappingDeviceIds.contains nextDeviceId then queue ++ [nextDeviceId] else queue
  else queue

/-- The loop that enqueues the neighbors. -/
def enqueueNeighbors (mappingDeviceIds : QSet ℤ)
    (offlineDevicesResult : QMap ℤ MappingDeviceResultItem) (deviceLinks : List MappingLink)
    (queue : List ℤ) : List ℤ :=
  deviceLinks.foldl (fun queue neighborLink =>
    enqueueDevice mappingDeviceIds offlineDevicesResult
      (enqueueDevice mappingDeviceIds offlineDevicesResult queue neighborLink.destinationDeviceId)
      neighborLink.sourceDeviceId) queue

/-- A port of the offline device that its partner does not have. -/
def portNotFound (offlineDeviceId : ℤ) (offlineDevice onlineDevice : MappingDevice)
    (leaveIfId : ℤ) (s : MapperVars) : MapperVars :=
  let msg := "Port (" ++ toString leaveIfId ++ ") not found"
  let newItem := createMappingDeviceResultItem offlineDevice onlineDevice .failed msg
  match s.offlineDevicesResult[offlineDeviceId]? with
  | none =>
    { s with
      offlineDevicesResult := s.offlineDevicesResult.insert offlineDeviceId newItem
      offlineNotFoundPortDeviceIdMap :=
        QSet.insert s.offlineNotFoundPortDeviceIdMap offlineDeviceId }
  | some item =>
    if item.errorMessage = "" then
      { s with
        offlineDevicesResult := s.offlineDevicesResult.insert offlineDeviceId newItem
        offlineNotFoundPortDeviceIdMap :=
          QSet.insert s.offlineNotFoundPortDeviceIdMap offlineDeviceId }
    else
      { s with
        offlineDevicesResult := s.offlineDevicesResult.insert offlineDeviceId
          { item with errorMessage := item.errorMessage ++ ", " ++ msg } }

/-- The devices behind a port that both sides have. -/
def checkOpposite (offlineTopology onlineTopology : MappingTopology)
    (offlineOppositeDeviceId onlineOppositeDeviceId : ℤ) (s : MapperVars) :
    Except String MapperVars :=
  if s.offlineDevicesResult.contains offlineOppositeDeviceId then .ok s
  else match findDeviceById offlineTopology.devices offlineOppositeDeviceId with
  | .error _ => .error ("offline opposite device not found in offline topology. deviceID=" ++
      toString offlineOppositeDeviceId)
  | .ok offlineOppositeDevice =>
    match findDeviceById onlineTopology.devices onlineOppositeDeviceId with
    | .error _ => .error ("online opposite device not found in online topology. deviceID=" ++
        toString onlineOppositeDeviceId)
    | .ok onlineOppositeDevice =>
      let s := { s with
        foundOnlineDeviceIdMap := QSet.insert s.foundOnlineDeviceIdMap onlineOppositeDeviceId }
      if QSet.contains s.onlineMappedDeviceIdMap onlineOppositeDeviceId then .ok s
      else
        .ok { s with
          offlineDevicesResult := checkDevice offlineOppositeDevice onlineOppositeDevice
            onlineOppositeDevice.builtInPower s.offlineDevicesResult }

/-- One port in the check of one hop. -/
def checkPort (offlineTopology onlineTopology : MappingTopology) (offlineDeviceId : ℤ)
    (offlineDevice onlineDevice : MappingDevice) (offlineLeave onlineLeave : QMap ℤ ℤ)
    (s : MapperVars) (leaveIfId : ℤ) : Except String MapperVars :=
  if !onlineLeave.contains leaveIfId then
    .ok (portNotFound offlineDeviceId offlineDevice onlineDevice leaveIfId s)
  else
    checkOpposite offlineTopology onlineTopology (offlineLeave.value leaveIfId)
      (onlineLeave.value leaveIfId) s

/-- The offline ports that lead to a device of the mapping. -/
def offlineLeaveIfOppositeDevMap (offlineTopology : MappingTopology) (deviceId : ℤ) : QMap ℤ ℤ :=
  generateLeaveInterfaceOppositeDeviceMap true deviceId
    ((generateDeviceLinksMap offlineTopology).value deviceId)
    (generateOfflineMappingDeviceMap offlineTopology)

/-- The online ports that lead to a device. -/
def onlineLeaveIfOppositeDevMap (offlineTopology onlineTopology : MappingTopology)
    (deviceId : ℤ) : QMap ℤ ℤ :=
  generateLeaveInterfaceOppositeDeviceMap false deviceId
    ((generateDeviceLinksMap onlineTopology).value deviceId)
    (generateOfflineMappingDeviceMap offlineTopology)

/-- The pair is entered, checked, and its neighbors are enqueued. -/
def enterDevices (offlineTopology : MappingTopology) (offlineDeviceId : ℤ)
    (offlineDevice onlineDevice : MappingDevice) (s : MapperVars) : MapperVars :=
  let results :=
    if s.offlineDevicesResult.contains offlineDeviceId then s.offlineDevicesResult
    else checkDevice offlineDevice onlineDevice onlineDevice.builtInPower s.offlineDevicesResult
  { s with
    foundOnlineDeviceIdMap := QSet.insert s.foundOnlineDeviceIdMap s.onlineDeviceId
    onlineMappedDeviceIdMap := QSet.insert s.onlineMappedDeviceIdMap s.onlineDeviceId
    offlineDevicesResult := results
    offlineDeviceIdQueue := enqueueNeighbors (generateOfflineMappingDeviceMap offlineTopology)
      results ((generateDeviceLinksMap offlineTopology).value offlineDeviceId)
      s.offlineDeviceIdQueue }

/-- The body of the loop from `Find offline device` on. -/
def visitDevice (offlineTopology onlineTopology : MappingTopology) (s : MapperVars)
    (offlineDeviceId : ℤ) : Except String MapperVars :=
  match findDeviceById offlineTopology.devices offlineDeviceId with
  | .error err => .error err
  | .ok offlineDevice =>
    match findDeviceById onlineTopology.devices s.onlineDeviceId with
    | .error err => .error err
    | .ok onlineDevice =>
      let offlineLeave := offlineLeaveIfOppositeDevMap offlineTopology offlineDeviceId
      offlineLeave.keys.foldlM
        (checkPort offlineTopology onlineTopology offlineDeviceId offlineDevice onlineDevice
          offlineLeave (onlineLeaveIfOppositeDevMap offlineTopology onlineTopology
            s.onlineDeviceId))
        (enterDevices offlineTopology offlineDeviceId offlineDevice onlineDevice s)

/-- What `onlineDeviceId` is set to for a dequeued device, and whether the round goes on
with it. -/
def dequeuedOnlineDeviceId (offlineTopology : MappingTopology) (s : MapperVars)
    (offlineDeviceId : ℤ) : ℤ × Bool :=
  if offlineDeviceId = offlineTopology.sourceDeviceId then (s.onlineDeviceId, true)
  else
    match s.offlineDevicesResult[offlineDeviceId]? with
    | none => (-1, false)
    | some offlineResult =>
      (offlineResult.onlineDeviceId, offlineResult.onlineDeviceId ≠ -1 &&
        !QSet.contains s.onlineMappedDeviceIdMap offlineResult.onlineDeviceId)

/-- The variables before the loop. -/
def initialVars (offlineTopology onlineTopology : MappingTopology) : MapperVars where
  offlineDeviceIdQueue :=
    if QSet.contains (generateOfflineMappingDeviceMap offlineTopology)
      offlineTopology.sourceDeviceId then [offlineTopology.sourceDeviceId] else []
  onlineDeviceId := onlineTopology.sourceDeviceId

/-- One round of the loop of `mappingTopology`. -/
def mappingRound (offlineTopology onlineTopology : MappingTopology) (s : MapperVars) :
    Iter MapperVars (Except String MapperVars) :=
  match s.offlineDeviceIdQueue with
  | [] => .done (.ok s)
  | offlineDeviceId :: queue =>
    if onlineTopology.devices.isEmpty then .done (.ok s)
    else
      let next := dequeuedOnlineDeviceId offlineTopology s offlineDeviceId
      let s := { s with offlineDeviceIdQueue := queue, onlineDeviceId := next.1 }
      if next.2 then
        match visitDevice offlineTopology onlineTopology s offlineDeviceId with
        | .error err => .done (.error err)
        | .ok s => .next s
      else .next s

/-! ### The report -/

/-- A failed device with a port that is not found is only warned about when the device
at the other end of a link misses a port as well. -/
def updateWarning (offlineTopology : MappingTopology) (notFoundPort : QSet ℤ)
    (item : MappingDeviceResultItem) : MappingDeviceResultItem :=
  if item.status = .failed ∧ QSet.contains notFoundPort item.offlineDeviceId ∧
      ((generateDeviceLinksMap offlineTopology).value item.offlineDeviceId).any fun deviceLink =>
        QSet.contains notFoundPort (if deviceLink.sourceDeviceId = item.offlineDeviceId
          then deviceLink.destinationDeviceId else deviceLink.sourceDeviceId) then
    { item with status := .warning }
  else item

/-- A designed device without a result. -/
def remainingItem (mappingDeviceIds : QSet ℤ) (offlineDevice : MappingDevice) :
    MappingDeviceResultItem where
  offlineDeviceId := offlineDevice.id
  offlineIpAddress := offlineDevice.ipAddress
  offlineModelName := offlineDevice.modelName
  status := if !mappingDeviceIds.contains offlineDevice.id then .skip else .notFound
  errorMessage :=
    if !mappingDeviceIds.contains offlineDevice.id then "" else "Online device not found"

/-- The results once the walk is over. -/
def finishResults (offlineTopology : MappingTopology) (s : MapperVars) :
    QMap ℤ MappingDeviceResultItem :=
  offlineTopology.devices.foldl (fun results offlineDevice =>
    if results.contains offlineDevice.id then results
    else results.insert offlineDevice.id
      (remainingItem (generateOfflineMappingDeviceMap offlineTopology) offlineDevice))
    (s.offlineDevicesResult.map fun _ item =>
      updateWarning offlineTopology s.offlineNotFoundPortDeviceIdMap item)

/-- A result does not let the design be deployed. -/
def MappingDeviceResultItem.blocksDeploy (item : MappingDeviceResultItem) : Bool :=
  item.status = .failed || item.status = .notFound

/-- The results in the report, numbered. -/
def offlineItems (results : QMap ℤ MappingDeviceResultItem) : List MappingDeviceResultItem :=
  results.vals.foldl (fun report item =>
    report ++ [{ item with id := (report.length : ℤ) + 1 }]) []

/-- The item of an online device that was not found from any designed one. -/
def unfoundItem (canDeploy : Bool) (mappingOfflineIps : List String) (onlineDev : MappingDevice) :
    MappingDeviceResultItem where
  onlineDeviceId := onlineDev.id
  onlineIpAddress := onlineDev.ipAddress
  onlineModelName := onlineDev.modelName
  onlineMacAddress := onlineDev.macAddress
  status := if canDeploy && mappingOfflineIps.contains onlineDev.ipAddress then .failed else .skip
  errorMessage := if canDeploy && mappingOfflineIps.contains onlineDev.ipAddress
    then "The IP duplicated with the offline design device" else ""

/-- The online devices that were not found join the report. -/
def appendUnfound (onlineTopology : MappingTopology) (foundOnlineDevices : QSet ℤ)
    (canDeploy : Bool) (mappingOfflineIps checkedIps : List String)
    (report : List MappingDeviceResultItem) : List MappingDeviceResultItem :=
  onlineTopology.devices.foldl (fun report onlineDev =>
    if foundOnlineDevices.contains onlineDev.id then report
    else
      let item := unfoundItem canDeploy mappingOfflineIps onlineDev
      if item.status = .skip && checkedIps.contains item.onlineIpAddress then report
      else report ++ [{ item with id := (report.length : ℤ) + 1 }]) report

/-- `generateTopologyMappingResult` -/
def generateTopologyMappingResult (offlineDevicesResult : QMap ℤ MappingDeviceResultItem)
    (foundOnlineDevices offlineEndStationDevices : QSet ℤ) (onlineTopology : MappingTopology) :
    TopologyMappingResult :=
  let items := offlineItems offlineDevicesResult
  let mappingOfflineIps := (items.filter fun item =>
    (item.status = .success || item.status = .warning) &&
      !offlineEndStationDevices.contains item.offlineDeviceId).map (·.offlineIpAddress)
  let checkedIps := (items.filter fun item => item.status = .checked).map (·.offlineIpAddress)
  let report := (appendUnfound onlineTopology foundOnlineDevices
    (!items.any (·.blocksDeploy)) mappingOfflineIps checkedIps items).insertionSort
      fun x y => x.id ≤ y.id
  { mappingReport := report, deploy := !report.any (·.blocksDeploy) }

/-- `mappingTopology`, the method -/
def mappingTopology (fuel : ℕ) (offlineTopology onlineTopology : MappingTopology) :
    Option (Except String TopologyMappingResult) :=
  (Loop.run (mappingRound offlineTopology onlineTopology) fuel
    (initialVars offlineTopology onlineTopology)).map fun
  | .error err => .error err
  | .ok s => .ok (generateTopologyMappingResult (finishResults offlineTopology s)
      s.foundOnlineDeviceIdMap [] onlineTopology)

end TopologyMapper
end Sebastian

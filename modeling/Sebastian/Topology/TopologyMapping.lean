/-
# Topology mapping

`topology/topology_mapping/src/act_topology_mapping.cpp`: `MappingTopology` walks
the designed ("offline") network from a source device and gives every device of
it a device of the scanned ("online") network.  A pair is made when a neighbor of
a dequeued device is checked, one hop away; the online device is entered among
the mapped ones only when its partner is dequeued.

`Kept` is what every run keeps; `Apart` says that no online device is held by two
designed ones.  It survives exactly as long as none is handed out twice
(`mappingInjective_iff`), and the report owes its injectivity to it.
-/

import Sebastian.Core.Topology
import Sebastian.Lib.Loop

namespace Sebastian
namespace TopologyMapping

open ExceptRule Std.TreeMap

/-! ### The data -/

/-- `ActDeviceMapStatus` -/
inductive DeviceMapStatus where
  | success
  | warning
  | checked
  | failed
  | notFound
  | skip
  deriving DecidableEq

/-- The value of the enumerator. -/
def DeviceMapStatus.code : DeviceMapStatus → ℕ
  | .success => 1
  | .warning => 2
  | .checked => 3
  | .failed => 4
  | .notFound => 5
  | .skip => 6

/-- `ActMapTopology` -/
structure MapTopology where
  devices : List Device := []
  links : List Link := []
  sourceDeviceId : ℤ := -1

/-- `ActDeviceProfile` -/
structure DeviceProfile where
  id : ℤ := -1
  modelName : String := ""
  builtInPower : Bool := true

/-- `operator==(ActDeviceProfile)` -/
instance : BEq DeviceProfile := ⟨fun x y => x.id == y.id || x.modelName == y.modelName⟩

/-- `ActMapDeviceResultItem` -/
structure MapDeviceResultItem where
  id : ℤ := -1
  offlineDeviceId : ℤ := -1
  offlineIpAddress : String := ""
  offlineModelName : String := ""
  onlineDeviceId : ℤ := -1
  onlineIpAddress : String := ""
  onlineModelName : String := ""
  onlineMacAddress : String := ""
  onlineSerialNumber : String := ""
  onlineEthernetModule : QMap ℤ SimpleModule := ∅
  onlinePowerModule : QMap ℤ SimpleModule := ∅
  status : DeviceMapStatus := .notFound
  errorMessage : String := ""

/-- `ActMapDeviceResultItem(offline_device, online_device, built_in_power, status,
error_message)`: of the modules those in configured slots. -/
def MapDeviceResultItem.ofDevices (offline online : Device) (builtInPower : Bool)
    (status : DeviceMapStatus) (errorMessage : String) : MapDeviceResultItem where
  offlineDeviceId := offline.id
  offlineIpAddress := offline.ipAddress
  offlineModelName := offline.deviceProperty.modelName
  onlineDeviceId := online.id
  onlineIpAddress := online.ipAddress
  onlineModelName := online.deviceProperty.modelName
  onlineMacAddress := online.macAddress
  onlineSerialNumber := online.serialNumber
  onlineEthernetModule := online.modularInfo.ethernet.filter fun slot _ =>
    online.modularConfiguration.ethernet.contains slot
  onlinePowerModule :=
    if builtInPower then ∅
    else online.modularInfo.power.filter fun slot _ =>
      online.modularConfiguration.power.contains slot
  status := status
  errorMessage := errorMessage

/-- `ActTopologyMappingResult` -/
structure TopologyMappingResult where
  mappingReport : List MapDeviceResultItem := []
  deploy : Bool := false

/-- What the order of the report asks of Qt: `QHostAddress::toIPv4Address`, 0 for an
address that is not valid, and `QString::toInt` to the base 16. -/
structure NumberFormats where
  addressNumber : String → ℤ
  hexNumber : String → Option ℤ

/-- What a call of `MappingTopology` is given. -/
structure MappingInput where
  profiles : QSet DeviceProfile := []
  offline : MapTopology
  online : MapTopology

/-! ### Maps of a topology -/

/-- `GenerateDeviceLinksMap` -/
def deviceLinksMap (topology : MapTopology) : QMap ℤ (QSet Link) :=
  topology.links.foldl (fun links link =>
    (links.update link.destinationDeviceId (QSet.insert · link)).update link.sourceDeviceId
      (QSet.insert · link)) ∅

/-- One link in `GenerateLeaveInterfaceOppositeDeviceMap`. -/
def leaveInterface (checkMoxaVendor : Bool) (deviceId : ℤ) (moxaVendorDevices : QSet ℤ)
    (leave : QMap ℤ ℤ) (link : Link) : QMap ℤ ℤ :=
  if link.destinationDeviceId = deviceId ∧
      (!checkMoxaVendor || moxaVendorDevices.contains link.sourceDeviceId) then
    leave.insert link.destinationInterfaceId link.sourceDeviceId
  else if link.sourceDeviceId = deviceId ∧
      (!checkMoxaVendor || moxaVendorDevices.contains link.destinationDeviceId) then
    leave.insert link.sourceInterfaceId link.destinationDeviceId
  else leave

/-- `GenerateLeaveInterfaceOppositeDeviceMap`: the device behind each interface. -/
def leaveInterfaceOppositeDeviceMap (checkMoxaVendor : Bool) (deviceId : ℤ)
    (deviceLinks : QSet Link) (moxaVendorDevices : QSet ℤ) : QMap ℤ ℤ :=
  deviceLinks.foldl (leaveInterface checkMoxaVendor deviceId moxaVendorDevices) ∅

/-- `ACT_VENDOR_MOXA`, or the one character that `ACT_VENDOR_ID_MOXA` is when it is
compared with a string. -/
def isMoxaVendor (vendor : String) : Bool :=
  vendor == "MOXA" || vendor == String.singleton (Char.ofNat 8691)

/-- `GenerateOfflineMappingDeviceSet` -/
def offlineMappingDeviceSet (topology : MapTopology) : QSet ℤ :=
  topology.devices.foldl (fun ids device =>
    if device.deviceType = .endStation then ids
    else if isMoxaVendor device.deviceProperty.vendor then QSet.insert ids device.id
    else ids) []

/-- `devices.at(devices.indexOf(ActDevice(id)))` -/
def findDevice (devices : List Device) (deviceId : ℤ) : Option Device :=
  devices.find? (· == { id := deviceId })

/-- `GetInterfacesIdNameMap` -/
def interfacesIdNameMap (device : Device) : QMap ℤ String :=
  device.interfaces.foldl (fun names interface =>
    names.insert interface.interfaceId interface.interfaceName) ∅

/-! ### The search -/

/-- The variables of `MappingTopology`. -/
structure MappingSearch where
  queue : List ℤ
  onlineDeviceId : ℤ
  results : QMap ℤ MapDeviceResultItem := ∅
  foundOnline : QSet ℤ := []
  onlineMapped : QSet ℤ := []
  notFoundPort : QSet ℤ := []
  checkFailed : QSet ℤ := []

/-- What `CheckDevice` finds wrong with a pair. -/
def checkDeviceError (offline online : Device) (builtInPower : Bool) : Option String :=
  if offline.deviceProperty.modelName ≠ online.deviceProperty.modelName then
    some "Check Model Name failed"
  else if !builtInPower && offline.modularConfiguration.power.toList ≠
      online.modularConfiguration.power.toList then
    some "Check Power Module failed"
  else if offline.modularConfiguration.ethernet.toList ≠
      online.modularConfiguration.ethernet.toList then
    some "Check Line Module failed"
  else none

/-- `CheckDevice`.  (Nothing depends on the status it returns.) -/
def checkDevice (offline online : Device) (builtInPower : Bool) (s : MappingSearch) :
    MappingSearch :=
  if s.results.contains offline.id then s
  else
    match checkDeviceError offline online builtInPower with
    | some message =>
      { s with
        results := s.results.insert offline.id
          (.ofDevices offline online builtInPower .failed message)
        checkFailed := QSet.insert s.checkFailed offline.id }
    | none =>
      { s with
        results := s.results.insert offline.id
          (.ofDevices offline online builtInPower .success "") }

/-- A device is enqueued when it has no result, does not wait and belongs to the
mapping. -/
def enqueueDevice (mappingDevices : QSet ℤ) (results : QMap ℤ MapDeviceResultItem)
    (queue : List ℤ) (deviceId : ℤ) : List ℤ :=
  if !results.contains deviceId && !queue.contains deviceId && mappingDevices.contains deviceId then
    queue ++ [deviceId]
  else queue

/-- The loop that enqueues the neighbors of a device. -/
def enqueueNeighbors (mappingDevices : QSet ℤ) (results : QMap ℤ MapDeviceResultItem)
    (deviceLinks : QSet Link) (queue : List ℤ) : List ℤ :=
  deviceLinks.foldl (fun queue link =>
    enqueueDevice mappingDevices results
      (enqueueDevice mappingDevices results queue link.destinationDeviceId)
      link.sourceDeviceId) queue

/-- What one round of the search works on. -/
structure MappingPair where
  offlineDeviceId : ℤ
  offline : Device
  onlineDeviceId : ℤ
  online : Device
  builtInPower : Bool

/-- A port of the offline device that its partner does not have. -/
def portNotFound (pair : MappingPair) (leaveIfName : String) (s : MappingSearch) : MappingSearch :=
  let message := "Port (" ++ leaveIfName ++ ") not found"
  let failed := MapDeviceResultItem.ofDevices pair.offline pair.online pair.builtInPower .failed
    message
  match s.results[pair.offlineDeviceId]? with
  | none =>
    { s with
      results := s.results.insert pair.offlineDeviceId failed
      notFoundPort := QSet.insert s.notFoundPort pair.offlineDeviceId }
  | some item =>
    if item.errorMessage = "" then
      { s with
        results := s.results.insert pair.offlineDeviceId failed
        notFoundPort := QSet.insert s.notFoundPort pair.offlineDeviceId }
    else
      { s with
        results := s.results.insert pair.offlineDeviceId
          { item with errorMessage := item.errorMessage ++ ", " ++ message } }

/-- The name of an interface, or its number. -/
def interfaceName (names : QMap ℤ String) (interfaceId : ℤ) : String :=
  (names[interfaceId]?).getD (toString interfaceId)

/-- `GetBuiltInPower()` of the profile of an online device. -/
def builtInPowerOf (input : MappingInput) (online : Device) : Except Status Bool :=
  match QSet.find input.profiles { id := online.deviceProfileId } with
  | none => .error (.internalError ⟨"TopologyMapping", []⟩)
  | some profile => .ok profile.builtInPower

/-- The devices behind a port on both sides, neither of them done. -/
def oppositePair (input : MappingInput) (offlineLeave onlineLeave : QMap ℤ ℤ)
    (s : MappingSearch) (leaveIfId : ℤ) : Except Status (MappingSearch × Option MappingPair) :=
  let offlineId := offlineLeave.value leaveIfId
  if s.results.contains offlineId then .ok (s, none)
  else match findDevice input.offline.devices offlineId with
  | none => .error (.notFound ⟨"Offline device(%1) in OfflineTopology", [.int offlineId]⟩)
  | some offline =>
    let onlineId := onlineLeave.value leaveIfId
    match findDevice input.online.devices onlineId with
    | none => .error (.notFound ⟨"Online Device(%1) in OnlineTopology", [.int onlineId]⟩)
    | some online =>
      let s := { s with foundOnline := QSet.insert s.foundOnline onlineId }
      if QSet.contains s.onlineMapped onlineId then .ok (s, none)
      else
        (builtInPowerOf input online).map fun builtInPower =>
          (s, some ⟨offlineId, offline, onlineId, online, builtInPower⟩)

/-- One port in the check of one hop. -/
def checkPort (input : MappingInput) (pair : MappingPair) (offlineLeave onlineLeave : QMap ℤ ℤ)
    (s : MappingSearch) (leaveIfId : ℤ) : Except Status MappingSearch :=
  if !onlineLeave.contains leaveIfId then
    .ok (portNotFound pair (interfaceName (interfacesIdNameMap pair.offline) leaveIfId) s)
  else
    (oppositePair input offlineLeave onlineLeave s leaveIfId).map fun (s, opposite) =>
      match opposite with
      | none => s
      | some opposite => checkDevice opposite.offline opposite.online opposite.builtInPower s

/-- The offline ports that lead to a device of the mapping. -/
def offlineLeaveMap (input : MappingInput) (deviceId : ℤ) : QMap ℤ ℤ :=
  leaveInterfaceOppositeDeviceMap true deviceId ((deviceLinksMap input.offline).value deviceId)
    (offlineMappingDeviceSet input.offline)

/-- The online ports that lead to a device. -/
def onlineLeaveMap (input : MappingInput) (deviceId : ℤ) : QMap ℤ ℤ :=
  leaveInterfaceOppositeDeviceMap false deviceId ((deviceLinksMap input.online).value deviceId)
    (offlineMappingDeviceSet input.offline)

/-- The pair of a dequeued device and the online device it is held against. -/
def findPair (input : MappingInput) (offlineDeviceId onlineDeviceId : ℤ) :
    Except Status MappingPair :=
  match findDevice input.offline.devices offlineDeviceId with
  | none => .error (.notFound ⟨"Device(%1) in offline topology", [.int offlineDeviceId]⟩)
  | some offline =>
    match findDevice input.online.devices onlineDeviceId with
    | none => .error (.notFound ⟨"Device(%1) in online topology", [.int onlineDeviceId]⟩)
    | some online =>
      (builtInPowerOf input online).map fun builtInPower =>
        ⟨offlineDeviceId, offline, onlineDeviceId, online, builtInPower⟩

/-- The pair is entered, checked, and its neighbors are enqueued. -/
def enterPair (input : MappingInput) (pair : MappingPair) (s : MappingSearch) : MappingSearch :=
  let s := { s with
    foundOnline := QSet.insert s.foundOnline pair.onlineDeviceId
    onlineMapped := QSet.insert s.onlineMapped pair.onlineDeviceId }
  let s :=
    if s.results.contains pair.offlineDeviceId then s
    else checkDevice pair.offline pair.online pair.builtInPower s
  { s with
    queue := enqueueNeighbors (offlineMappingDeviceSet input.offline) s.results
      ((deviceLinksMap input.offline).value pair.offlineDeviceId) s.queue }

/-- The body of the loop from `Find Offline Device` on. -/
def visitDevice (input : MappingInput) (s : MappingSearch) (offlineDeviceId : ℤ) :
    Except Status MappingSearch :=
  match findPair input offlineDeviceId s.onlineDeviceId with
  | .error status => .error status
  | .ok pair =>
    let offlineLeave := offlineLeaveMap input offlineDeviceId
    offlineLeave.keys.foldlM
      (checkPort input pair offlineLeave (onlineLeaveMap input s.onlineDeviceId))
      (enterPair input pair s)

/-- The partner of a dequeued device, unless the device is to be skipped. -/
def dequeuedPartner (input : MappingInput) (s : MappingSearch) (offlineDeviceId : ℤ) : Option ℤ :=
  if offlineDeviceId = input.offline.sourceDeviceId then some s.onlineDeviceId
  else
    match s.results[offlineDeviceId]? with
    | none => none
    | some item =>
      if item.onlineDeviceId = -1 || QSet.contains s.onlineMapped item.onlineDeviceId then none
      else some item.onlineDeviceId

/-- What `online_device_id` is left at by a device that is skipped. -/
def skippedOnlineDeviceId (s : MappingSearch) (offlineDeviceId : ℤ) : ℤ :=
  ((s.results[offlineDeviceId]?).map (·.onlineDeviceId)).getD (-1)

/-- The variables before the loop: the source device waits if it belongs to the mapping. -/
def initialSearch (input : MappingInput) : MappingSearch where
  queue := if QSet.contains (offlineMappingDeviceSet input.offline) input.offline.sourceDeviceId
    then [input.offline.sourceDeviceId] else []
  onlineDeviceId := input.online.sourceDeviceId

/-- One round of the loop of `MappingTopology`. -/
def mappingRound (input : MappingInput) (s : MappingSearch) :
    Iter MappingSearch (Except Status MappingSearch) :=
  match s.queue with
  | [] => .done (.ok s)
  | offlineDeviceId :: queue =>
    if input.online.devices.isEmpty then .done (.ok s)
    else
      match dequeuedPartner input s offlineDeviceId with
      | none =>
        .next { s with
          queue := queue, onlineDeviceId := skippedOnlineDeviceId s offlineDeviceId }
      | some onlineDeviceId =>
        match visitDevice input { s with queue := queue, onlineDeviceId := onlineDeviceId }
          offlineDeviceId with
        | .error status => .done (.error status)
        | .ok s => .next s

/-! ### The report -/

/-- A failed device with a port that is not found is only warned about when the device
at the other end of a link misses a port as well. -/
def updateWarning (input : MappingInput) (notFoundPort : QSet ℤ) (item : MapDeviceResultItem) :
    MapDeviceResultItem :=
  if item.status = .failed ∧ QSet.contains notFoundPort item.offlineDeviceId ∧
      ((deviceLinksMap input.offline).value item.offlineDeviceId).any fun link =>
        QSet.contains notFoundPort (if link.sourceDeviceId = item.offlineDeviceId
          then link.destinationDeviceId else link.sourceDeviceId) then
    { item with status := .warning }
  else item

/-- A designed device without a result. -/
def remainingItem (mappingDevices : QSet ℤ) (device : Device) : MapDeviceResultItem :=
  let item : MapDeviceResultItem := {
    offlineDeviceId := device.id
    offlineIpAddress := device.ipAddress
    offlineModelName := device.deviceProperty.modelName }
  if !mappingDevices.contains device.id then { item with status := .skip }
  else { item with status := .notFound, errorMessage := "Online device not found" }

/-- The results once the search is over. -/
def finishResults (input : MappingInput) (s : MappingSearch) : QMap ℤ MapDeviceResultItem :=
  input.offline.devices.foldl (fun results device =>
    if results.contains device.id then results
    else results.insert device.id (remainingItem (offlineMappingDeviceSet input.offline) device))
    (s.results.map fun _ item => updateWarning input s.notFoundPort item)

/-- `MacAddressToQInt64`, which keeps what it has read when it fails. -/
def macAddressNumber (formats : NumberFormats) (macAddress : String) : ℤ :=
  let parts := (macAddress.toList.splitOnP fun c => c == ':' || c == '-').map String.ofList
  if parts.length ≠ 6 then 0
  else
    (parts.foldl (fun (number, valid) part =>
      match formats.hexNumber part with
      | none => (number, false)
      | some byte =>
        if !valid || byte < 0 || 255 < byte then (number, false) else (256 * number + byte, valid))
      ((0, true) : ℤ × Bool)).1

/-- `operator<(ActMapDeviceResultItem)` -/
def MapDeviceResultItem.before (formats : NumberFormats) (x y : MapDeviceResultItem) : Bool :=
  if x.status ≠ y.status then x.status.code < y.status.code
  else
    let xIp := if x.offlineIpAddress = "" then 0 else formats.addressNumber x.offlineIpAddress
    let yIp := if y.offlineIpAddress = "" then 0 else formats.addressNumber y.offlineIpAddress
    if xIp ≠ yIp then xIp < yIp
    else macAddressNumber formats x.onlineMacAddress < macAddressNumber formats y.onlineMacAddress

/-- `std::sort` over the report. -/
def sortReport (formats : NumberFormats) (report : List MapDeviceResultItem) :
    List MapDeviceResultItem :=
  report.insertionSort fun x y => y.before formats x = false

/-- A result does not let the design be deployed. -/
def MapDeviceResultItem.blocksDeploy (item : MapDeviceResultItem) : Bool :=
  item.status = .failed || item.status = .notFound

/-- The results in the report, numbered. -/
def offlineItems (results : QMap ℤ MapDeviceResultItem) : List MapDeviceResultItem :=
  results.vals.foldl (fun report item =>
    report ++ [{ item with id := (report.length : ℤ) + 1 }]) []

/-- The item of an online device that was not found from any designed one. -/
def unfoundItem (canDeploy : Bool) (offlineIps : List String) (online : Device) :
    MapDeviceResultItem :=
  let item : MapDeviceResultItem := {
    onlineDeviceId := online.id
    onlineIpAddress := online.ipAddress
    onlineModelName := online.deviceProperty.modelName
    onlineMacAddress := online.macAddress }
  if canDeploy && offlineIps.contains online.ipAddress then
    { item with
      status := .failed
      errorMessage := "The IP duplicated with the offline design device" }
  else { item with status := .skip }

/-- The online devices that were not found join the report. -/
def appendUnfound (online : MapTopology) (foundOnline : QSet ℤ) (canDeploy : Bool)
    (offlineIps checkedIps : List String) (report : List MapDeviceResultItem) :
    List MapDeviceResultItem :=
  online.devices.foldl (fun report device =>
    if foundOnline.contains device.id then report
    else
      let item := unfoundItem canDeploy offlineIps device
      if item.status = .skip && checkedIps.contains item.onlineIpAddress then report
      else report ++ [{ item with id := (report.length : ℤ) + 1 }]) report

/-- `GenerateTopologyMappingResult` -/
def generateTopologyMappingResult (formats : NumberFormats)
    (results : QMap ℤ MapDeviceResultItem) (foundOnline endStations : QSet ℤ)
    (online : MapTopology) : TopologyMappingResult :=
  let items := offlineItems results
  let offlineIps := (items.filter fun item =>
    (item.status = .success || item.status = .warning) &&
      !endStations.contains item.offlineDeviceId).map (·.offlineIpAddress)
  let checkedIps := (items.filter fun item => item.status = .checked).map (·.offlineIpAddress)
  let report := sortReport formats (appendUnfound online foundOnline
    (!items.any (·.blocksDeploy)) offlineIps checkedIps items)
  { mappingReport := report, deploy := !report.any (·.blocksDeploy) }

/-- `MappingTopology` -/
def mappingTopology (formats : NumberFormats) (fuel : ℕ) (input : MappingInput) :
    Option (Status × TopologyMappingResult) :=
  (Loop.run (mappingRound input) fuel (initialSearch input)).map fun
  | .error status => (status, {})
  | .ok s => (.success, generateTopologyMappingResult formats (finishResults input s)
      s.foundOnline [] input.online)

/-! ### No device twice -/

/-- A designed device for which the item names an online device to be configured. -/
def MapDeviceResultItem.isMapped (item : MapDeviceResultItem) : Bool :=
  item.status = .success || item.status = .warning

/-- **No online device stands for two designed devices.** -/
def MappingInjective (report : List MapDeviceResultItem) : Prop :=
  ∀ x ∈ report, ∀ y ∈ report, x.isMapped = true → y.isMapped = true →
    x.onlineDeviceId = y.onlineDeviceId → x.offlineDeviceId = y.offlineDeviceId

/-- Every device has an address. -/
def Addressed (devices : List Device) : Prop := ∀ device ∈ devices, device.ipAddress ≠ ""

/-- The moment in a run when a port of a dequeued device is looked at. -/
def PortMoment (input : MappingInput) (pair : MappingPair) (leaveIfId : ℤ) (r : MappingSearch) :
    Prop :=
  ∃ s offlineDeviceId queue onlineDeviceId, Loop.Visits (mappingRound input)
    (initialSearch input) s ∧
    s.queue = offlineDeviceId :: queue ∧ input.online.devices.isEmpty = false ∧
    dequeuedPartner input s offlineDeviceId = some onlineDeviceId ∧
    findPair input offlineDeviceId onlineDeviceId = .ok pair ∧
    ∃ passed rest, (offlineLeaveMap input offlineDeviceId).keys = passed ++ leaveIfId :: rest ∧
      passed.foldlM (checkPort input pair (offlineLeaveMap input offlineDeviceId)
          (onlineLeaveMap input onlineDeviceId))
        (enterPair input pair { s with queue := queue, onlineDeviceId := onlineDeviceId }) = .ok r

/-- At that port a designed device is handed an online one, and passes the check. -/
def HandsOut (input : MappingInput) (pair : MappingPair) (leaveIfId : ℤ) (r : MappingSearch)
    (opposite : MappingPair) : Prop :=
  (onlineLeaveMap input pair.onlineDeviceId).contains leaveIfId = true ∧
    (∃ r', oppositePair input (offlineLeaveMap input pair.offlineDeviceId)
      (onlineLeaveMap input pair.onlineDeviceId) r leaveIfId = .ok (r', some opposite)) ∧
    checkDeviceError opposite.offline opposite.online opposite.builtInPower = none

/-- The results of devices that passed their checks name different online devices. -/
def Apart (s : MappingSearch) : Prop :=
  ∀ x y : ℤ, ∀ a b, s.results[x]? = some a → s.results[y]? = some b → x ∉ s.checkFailed →
    y ∉ s.checkFailed → a.onlineDeviceId = b.onlineDeviceId → x = y

/-- **Nothing is handed out twice**: what passes a check is held by no other device that
passed its own. -/
def HandsOutOnce (input : MappingInput) : Prop :=
  ∀ pair leaveIfId r opposite, PortMoment input pair leaveIfId r →
    HandsOut input pair leaveIfId r opposite →
    ∀ y : ℤ, ∀ item, r.results[y]? = some item → item.onlineDeviceId = opposite.onlineDeviceId →
      y ∈ r.checkFailed

variable {input : MappingInput} {s : MappingSearch}

theorem findDevice_id {devices : List Device} {device : Device} {id : ℤ}
    (haddressed : Addressed devices) (h : findDevice devices id = some device) :
    device ∈ devices ∧ device.id = id := by
  unfold findDevice at h
  have hmem := List.mem_of_find?_eq_some h
  have hbeq := List.find?_some h
  refine ⟨hmem, ?_⟩
  rcases Core.device_beq_iff.1 hbeq with hid | hip
  · exact hid
  · exact absurd hip (haddressed device hmem)

/-- A device has a result. -/
abbrev HasResult (s : MappingSearch) (x : ℤ) : Prop := ∃ item, s.results[x]? = some item

/-- What the search says of a result: it belongs to its device, and a check that failed,
a port that is missing and an error message go together. -/
structure ResultKept (s : MappingSearch) (x : ℤ) (item : MapDeviceResultItem) : Prop where
  offlineId : item.offlineDeviceId = x
  cases : (x ∈ s.checkFailed ∧ x ∉ s.notFoundPort ∧ item.status = .failed ∧
      item.errorMessage ≠ "") ∨
    (x ∉ s.checkFailed ∧ x ∉ s.notFoundPort ∧ item.status = .success ∧ item.errorMessage = "") ∨
    (x ∉ s.checkFailed ∧ x ∈ s.notFoundPort ∧ item.status = .failed ∧ item.errorMessage ≠ "")

/-- **What a run keeps**, whatever the networks are. -/
structure Kept (s : MappingSearch) : Prop where
  results : ∀ x : ℤ, ∀ item, s.results[x]? = some item → ResultKept s x item
  failed : ∀ x ∈ s.checkFailed, ∃ item, s.results[x]? = some item
  ports : ∀ x ∈ s.notFoundPort, ∃ item, s.results[x]? = some item

theorem Kept.not_mem_of_new (h : Kept s) {x : ℤ} (hnew : s.results[x]? = none) :
    x ∉ s.checkFailed ∧ x ∉ s.notFoundPort := by
  constructor
  · intro hx
    obtain ⟨item, hitem⟩ := h.failed x hx
    rw [hnew] at hitem
    cases hitem
  · intro hx
    obtain ⟨item, hitem⟩ := h.ports x hx
    rw [hnew] at hitem
    cases hitem

theorem getElem?_insert_result {results : QMap ℤ MapDeviceResultItem} {x : ℤ}
    {item : MapDeviceResultItem} (y : ℤ) :
    (results.insert x item)[y]? = if x = y then some item else results[y]? := by
  rw [getElem?_insert]
  simp only [Std.compare_eq_iff_eq]

/-- **Writing one entry keeps it**, if the entry is in order. -/
theorem Kept.write (h : Kept s) {s' : MappingSearch} {x : ℤ} {item : MapDeviceResultItem}
    (hress : s'.results = s.results.insert x item)
    (hfailed : ∀ y, y ≠ x → (y ∈ s'.checkFailed ↔ y ∈ s.checkFailed))
    (hports : ∀ y, y ≠ x → (y ∈ s'.notFoundPort ↔ y ∈ s.notFoundPort))
    (hitem : ResultKept s' x item) : Kept s' := by
  refine ⟨fun y other hy => ?_, fun y hy => ?_, fun y hy => ?_⟩
  · rw [hress, getElem?_insert_result] at hy
    split_ifs at hy with hxy
    · cases hy
      exact hxy ▸ hitem
    · obtain ⟨hid, hcases⟩ := h.results y other hy
      exact ⟨hid, by rw [hfailed y (Ne.symm hxy), hports y (Ne.symm hxy)]; exact hcases⟩
  · rw [hress, getElem?_insert_result]
    split_ifs with hxy
    · exact ⟨_, rfl⟩
    · exact h.failed y ((hfailed y (Ne.symm hxy)).1 hy)
  · rw [hress, getElem?_insert_result]
    split_ifs with hxy
    · exact ⟨_, rfl⟩
    · exact h.ports y ((hports y (Ne.symm hxy)).1 hy)

/-- **Writing one entry keeps the results apart**, if no other names its online device. -/
theorem Apart.write (h : Apart s) {s' : MappingSearch} {x : ℤ} {item : MapDeviceResultItem}
    (hress : s'.results = s.results.insert x item)
    (hfailed : ∀ y, y ≠ x → (y ∈ s'.checkFailed ↔ y ∈ s.checkFailed))
    (hapart : x ∉ s'.checkFailed → ∀ y : ℤ, y ≠ x → ∀ b, s.results[y]? = some b →
      y ∉ s.checkFailed → item.onlineDeviceId ≠ b.onlineDeviceId) : Apart s' := by
  intro y z a b hy hz hya hza he
  rw [hress, getElem?_insert_result] at hy hz
  split_ifs at hy hz with hxy hxz hxz
  · rw [← hxy, hxz]
  · cases hy
    subst hxy
    rw [hfailed z (Ne.symm hxz)] at hza
    exact absurd he (hapart hya z (Ne.symm hxz) b hz hza)
  · cases hz
    subst hxz
    rw [hfailed y (Ne.symm hxy)] at hya
    exact absurd he.symm (hapart hza y (Ne.symm hxy) a hy hya)
  · rw [hfailed y (Ne.symm hxy)] at hya
    rw [hfailed z (Ne.symm hxz)] at hza
    exact h y z a b hy hz hya hza he

theorem checkDeviceError_ne_empty {offline online : Device} {builtInPower : Bool} {message : String}
    (h : checkDeviceError offline online builtInPower = some message) : message ≠ "" := by
  unfold checkDeviceError at h
  split_ifs at h <;>
  · cases h
    decide

theorem mem_insert_of_ne {ids : QSet ℤ} {x y : ℤ} (h : y ≠ x) :
    y ∈ QSet.insert ids x ↔ y ∈ ids := by simp [QSet.mem_insert, h]

/-- What `CheckDevice` does for a device without a result. -/
theorem checkDevice_cases (offline online : Device) (builtInPower : Bool) (s : MappingSearch) :
    (HasResult s offline.id ∧ checkDevice offline online builtInPower s = s) ∨
    (s.results[offline.id]? = none ∧ ∃ message,
      checkDeviceError offline online builtInPower = some message ∧
      checkDevice offline online builtInPower s = { s with
        results := s.results.insert offline.id
          (.ofDevices offline online builtInPower .failed message)
        checkFailed := QSet.insert s.checkFailed offline.id }) ∨
    (s.results[offline.id]? = none ∧ checkDeviceError offline online builtInPower = none ∧
      checkDevice offline online builtInPower s = { s with
        results := s.results.insert offline.id
          (.ofDevices offline online builtInPower .success "") }) := by
  unfold checkDevice HasResult
  cases hold : s.results[offline.id]? with
  | some item =>
    rw [if_pos (by simp [contains_eq_isSome_getElem?, hold])]
    exact .inl ⟨⟨item, rfl⟩, rfl⟩
  | none =>
    rw [if_neg (by simp [contains_eq_isSome_getElem?, hold])]
    cases checkDeviceError offline online builtInPower with
    | some message => exact .inr (.inl ⟨rfl, message, rfl, rfl⟩)
    | none => exact .inr (.inr ⟨rfl, rfl, rfl⟩)

/-- **`CheckDevice` keeps it.** -/
theorem Kept.checkDevice (h : Kept s) {offline online : Device} {builtInPower : Bool} :
    Kept (checkDevice offline online builtInPower s) := by
  rcases checkDevice_cases offline online builtInPower s with
    ⟨-, hs⟩ | ⟨hold, message, herror, hs⟩ | ⟨hold, -, hs⟩
  · rw [hs]
    exact h
  · rw [hs]
    exact h.write rfl (fun y hy => mem_insert_of_ne hy) (fun _ _ => Iff.rfl)
      ⟨rfl, .inl ⟨QSet.mem_insert.2 (.inr rfl), (h.not_mem_of_new hold).2, rfl,
        checkDeviceError_ne_empty herror⟩⟩
  · obtain ⟨hfailed, hports⟩ := h.not_mem_of_new hold
    rw [hs]
    exact h.write rfl (fun _ _ => Iff.rfl) (fun _ _ => Iff.rfl)
      ⟨rfl, .inr (.inl ⟨hfailed, hports, rfl, rfl⟩)⟩

/-- The results stay apart if the online device it hands out is not held. -/
theorem Apart.checkDevice (h : Apart s) {offline online : Device} {builtInPower : Bool}
    (hfresh : s.results[offline.id]? = none → checkDeviceError offline online builtInPower = none →
      ∀ y : ℤ, ∀ item, s.results[y]? = some item → item.onlineDeviceId = online.id →
        y ∈ s.checkFailed) : Apart (checkDevice offline online builtInPower s) := by
  rcases checkDevice_cases offline online builtInPower s with
    ⟨-, hs⟩ | ⟨-, message, -, hs⟩ | ⟨hold, herror, hs⟩
  · rw [hs]
    exact h
  · rw [hs]
    exact h.write rfl (fun y hy => mem_insert_of_ne hy)
      fun hx => absurd (QSet.mem_insert.2 (.inr rfl)) hx
  · rw [hs]
    exact h.write rfl (fun _ _ => Iff.rfl)
      fun _ y _ b hb hyb he => hyb (hfresh hold herror y b hb he.symm)

/-- The designed device of a pair holds its online device. -/
def Holds (pair : MappingPair) (s : MappingSearch) : Prop :=
  ∃ item, s.results[pair.offlineDeviceId]? = some item ∧ item.onlineDeviceId = pair.online.id

/-- What a missing port does to a device that has its result. -/
theorem portNotFound_cases {pair : MappingPair} {item : MapDeviceResultItem} (leaveIfName : String)
    (hitem : s.results[pair.offlineDeviceId]? = some item) :
    (item.errorMessage = "" ∧ ∃ message, message ≠ "" ∧ portNotFound pair leaveIfName s = { s with
      results := s.results.insert pair.offlineDeviceId
        (.ofDevices pair.offline pair.online pair.builtInPower .failed message)
      notFoundPort := QSet.insert s.notFoundPort pair.offlineDeviceId }) ∨
    (item.errorMessage ≠ "" ∧ ∃ message, message ≠ "" ∧ portNotFound pair leaveIfName s = { s with
      results := s.results.insert pair.offlineDeviceId
        { item with errorMessage := message } }) := by
  unfold portNotFound
  rw [hitem]
  dsimp only
  split_ifs with hempty
  · exact .inl ⟨hempty, "Port (" ++ leaveIfName ++ ") not found", by simp, rfl⟩
  · exact .inr ⟨hempty, item.errorMessage ++ ", " ++ ("Port (" ++ leaveIfName ++ ") not found"),
      by simp, rfl⟩

/-- **A missing port keeps it**: the entry is written anew for the same pair, or its message
grows. -/
theorem Kept.portNotFound (h : Kept s) {pair : MappingPair} (leaveIfName : String)
    (hid : pair.offline.id = pair.offlineDeviceId) (hholds : Holds pair s) :
    Kept (portNotFound pair leaveIfName s) ∧ Holds pair (portNotFound pair leaveIfName s) := by
  obtain ⟨item, hitem, honline⟩ := hholds
  obtain ⟨hoffline, hcases⟩ := h.results _ _ hitem
  rcases portNotFound_cases leaveIfName hitem with
    ⟨hempty, message, hne, hs⟩ | ⟨hempty, message, hne, hs⟩
  · -- the first missing port of a device that passed its check
    have hpast : pair.offlineDeviceId ∉ s.checkFailed := by
      rcases hcases with ⟨-, -, -, hne⟩ | ⟨hx, -⟩ | ⟨hx, -⟩
      · exact absurd hempty hne
      · exact hx
      · exact hx
    rw [hs]
    exact ⟨h.write rfl (fun _ _ => Iff.rfl) (fun y hy => mem_insert_of_ne hy)
      ⟨hid, .inr (.inr ⟨hpast, QSet.mem_insert.2 (.inr rfl), rfl, hne⟩)⟩,
      _, by rw [getElem?_insert_result, if_pos rfl], rfl⟩
  · rw [hs]
    refine ⟨h.write rfl (fun _ _ => Iff.rfl) (fun _ _ => Iff.rfl) ⟨hoffline, ?_⟩,
      { item with errorMessage := message }, by rw [getElem?_insert_result, if_pos rfl], honline⟩
    rcases hcases with ⟨h1, h2, h3, -⟩ | ⟨-, -, -, he⟩ | ⟨h1, h2, h3, -⟩
    · exact .inl ⟨h1, h2, h3, hne⟩
    · exact absurd he hempty
    · exact .inr (.inr ⟨h1, h2, h3, hne⟩)

/-- The results stay apart: the entry names the online device it named. -/
theorem Apart.portNotFound (h : Apart s) {pair : MappingPair} (leaveIfName : String)
    (hholds : Holds pair s) : Apart (portNotFound pair leaveIfName s) := by
  obtain ⟨item, hitem, honline⟩ := hholds
  have hapart : ∀ y : ℤ, y ≠ pair.offlineDeviceId → ∀ b, s.results[y]? = some b →
      pair.offlineDeviceId ∉ s.checkFailed → y ∉ s.checkFailed →
        pair.online.id ≠ b.onlineDeviceId :=
    fun y hy b hb hx hyb he => hy (h _ _ b item hb hitem hyb hx (he.symm.trans honline.symm))
  rcases portNotFound_cases leaveIfName hitem with ⟨-, message, -, hs⟩ | ⟨-, message, -, hs⟩
  · rw [hs]
    exact h.write rfl (fun _ _ => Iff.rfl) fun hx y hy b hb hyb => hapart y hy b hb hx hyb
  · rw [hs]
    refine h.write rfl (fun _ _ => Iff.rfl) fun hx y hy b hb hyb => ?_
    rw [show ({ item with errorMessage := message } : MapDeviceResultItem).onlineDeviceId =
      item.onlineDeviceId from rfl, honline]
    exact hapart y hy b hb hx hyb

/-- Only the results and two of the sets matter. -/
theorem Kept.congr (h : Kept s) {s' : MappingSearch} (hress : s'.results = s.results)
    (hfailed : s'.checkFailed = s.checkFailed) (hports : s'.notFoundPort = s.notFoundPort) :
    Kept s' := by
  refine ⟨fun x item hx => ?_, fun x hx => ?_, fun x hx => ?_⟩
  · obtain ⟨hid, hcases⟩ := h.results x item (hress ▸ hx)
    exact ⟨hid, by rw [hfailed, hports]; exact hcases⟩
  · rw [hress]
    exact h.failed x (hfailed ▸ hx)
  · rw [hress]
    exact h.ports x (hports ▸ hx)

theorem Apart.congr (h : Apart s) {s' : MappingSearch} (hress : s'.results = s.results)
    (hfailed : s'.checkFailed = s.checkFailed) : Apart s' := by
  unfold Apart
  rw [hress, hfailed]
  exact h

/-- What `CheckDevice` leaves alone, and what it adds. -/
theorem checkDevice_frame {offline online : Device} {builtInPower : Bool} :
    (checkDevice offline online builtInPower s).queue = s.queue ∧
      (∀ x : ℤ, ∀ item, s.results[x]? = some item →
        (checkDevice offline online builtInPower s).results[x]? = some item) ∧
      (s.results[offline.id]? = none → ∃ item,
        (checkDevice offline online builtInPower s).results[offline.id]? = some item ∧
          item.onlineDeviceId = online.id) := by
  have hne : s.results[offline.id]? = none → ∀ x : ℤ, ∀ item, s.results[x]? = some item →
      offline.id ≠ x := by
    rintro hold x item hx rfl
    rw [hold] at hx
    cases hx
  rcases checkDevice_cases offline online builtInPower s with
    ⟨⟨item, hitem⟩, hs⟩ | ⟨hold, message, -, hs⟩ | ⟨hold, -, hs⟩
  · rw [hs]
    refine ⟨rfl, fun x item hx => hx, fun hnone => ?_⟩
    rw [hnone] at hitem
    cases hitem
  · rw [hs]
    refine ⟨rfl, fun x item hx => ?_, fun _ =>
      ⟨_, by rw [getElem?_insert_result, if_pos rfl], rfl⟩⟩
    rw [getElem?_insert_result, if_neg (hne hold x item hx)]
    exact hx
  · rw [hs]
    refine ⟨rfl, fun x item hx => ?_, fun _ =>
      ⟨_, by rw [getElem?_insert_result, if_pos rfl], rfl⟩⟩
    rw [getElem?_insert_result, if_neg (hne hold x item hx)]
    exact hx

theorem portNotFound_frame {pair : MappingPair} {leaveIfName : String} :
    (portNotFound pair leaveIfName s).queue = s.queue ∧
      ∀ x, HasResult s x → HasResult (portNotFound pair leaveIfName s) x := by
  unfold portNotFound HasResult
  dsimp only
  cases s.results[pair.offlineDeviceId]? with
  | none =>
    refine ⟨rfl, fun x hx => ?_⟩
    dsimp only
    rw [getElem?_insert_result]
    split_ifs
    · exact ⟨_, rfl⟩
    · exact hx
  | some item =>
    dsimp only
    split_ifs
    · refine ⟨rfl, fun x hx => ?_⟩
      rw [getElem?_insert_result]
      split_ifs
      · exact ⟨_, rfl⟩
      · exact hx
    · refine ⟨rfl, fun x hx => ?_⟩
      rw [getElem?_insert_result]
      split_ifs
      · exact ⟨_, rfl⟩
      · exact hx

/-- A pair of stored devices of which the designed one has no result yet. -/
structure NewPair (input : MappingInput) (s : MappingSearch) (pair : MappingPair) : Prop where
  unmapped : s.results[pair.offlineDeviceId]? = none
  offlineId : pair.offline.id = pair.offlineDeviceId
  onlineId : pair.online.id = pair.onlineDeviceId
  find : findDevice input.offline.devices pair.offlineDeviceId = some pair.offline

/-- **What the check of one hop hands out**: nothing, or a new pair.  A device that it found
was mapped before or is handed out. -/
theorem oppositePair_ok (hoffline : Addressed input.offline.devices)
    (honline : Addressed input.online.devices) {offlineLeave onlineLeave : QMap ℤ ℤ} {leaveIfId : ℤ}
    {s' : MappingSearch} {opposite : Option MappingPair}
    (h : oppositePair input offlineLeave onlineLeave s leaveIfId = .ok (s', opposite)) :
    ∃ found, s' = { s with foundOnline := found } ∧
      ((opposite = none ∧ ∀ x ∈ found, x ∈ s.foundOnline ∨ x ∈ s.onlineMapped) ∨
        ∃ pair, opposite = some pair ∧ NewPair input s pair ∧
          ∀ x ∈ found, x ∈ s.foundOnline ∨ x = pair.online.id) := by
  unfold oppositePair at h
  dsimp only at h
  split at h
  · cases h
    exact ⟨_, rfl, .inl ⟨rfl, fun x hx => .inl hx⟩⟩
  · next hheld =>
    split at h
    · cases h
    · next offline hfind =>
      split at h
      · cases h
      · next online hfind' =>
        split at h
        · next hmap =>
          cases h
          refine ⟨_, rfl, .inl ⟨rfl, fun x hx => ?_⟩⟩
          rcases QSet.mem_insert.1 hx with hx | rfl
          · exact .inl hx
          · exact .inr (QSet.contains_iff_mem.1 hmap)
        · obtain ⟨builtInPower, -, hpair⟩ := exists_of_map h
          cases hpair
          have honlineId := (findDevice_id honline hfind').2
          refine ⟨_, rfl, .inr ⟨_, rfl, ⟨?_, (findDevice_id hoffline hfind).2, honlineId, hfind⟩,
            fun x hx => ?_⟩⟩
          · exact getElem?_eq_none_of_contains_eq_false (Bool.not_eq_true _ ▸ hheld)
          · rw [honlineId]
            exact QSet.mem_insert.1 hx

/-- **What one port leads to**: no port on the other side, a device that is mapped, or a new
pair, which is checked. -/
theorem checkPort_ok (hoffline : Addressed input.offline.devices)
    (honline : Addressed input.online.devices) {pair : MappingPair}
    {offlineLeave onlineLeave : QMap ℤ ℤ} {leaveIfId : ℤ} {s' : MappingSearch}
    (h : checkPort input pair offlineLeave onlineLeave s leaveIfId = .ok s') :
    (∃ name, s' = portNotFound pair name s) ∨ ∃ found : QSet ℤ,
      (s' = { s with foundOnline := found } ∧
        ∀ x ∈ found, x ∈ s.foundOnline ∨ x ∈ s.onlineMapped) ∨
      ∃ next, onlineLeave.contains leaveIfId = true ∧
        oppositePair input offlineLeave onlineLeave s leaveIfId =
          .ok ({ s with foundOnline := found }, some next) ∧ NewPair input s next ∧
        (∀ x ∈ found, x ∈ s.foundOnline ∨ x = next.online.id) ∧
        s' = checkDevice next.offline next.online next.builtInPower
          { s with foundOnline := found } := by
  unfold checkPort at h
  split_ifs at h with hport
  · cases h
    exact .inl ⟨_, rfl⟩
  · obtain ⟨⟨r, opposite⟩, hopposite, rfl⟩ := exists_of_map h
    obtain ⟨found, rfl, ⟨rfl, hfound⟩ | ⟨next, rfl, hnew, hfound⟩⟩ :=
      oppositePair_ok hoffline honline hopposite
    · exact .inr ⟨found, .inl ⟨rfl, hfound⟩⟩
    · exact .inr ⟨found, .inr ⟨next, by simpa using hport, hopposite, hnew, hfound, rfl⟩⟩

/-- **One port keeps it.** -/
theorem Kept.checkPort (h : Kept s) (hoffline : Addressed input.offline.devices)
    (honline : Addressed input.online.devices) {pair : MappingPair} {leaveIfId : ℤ}
    {offlineLeave onlineLeave : QMap ℤ ℤ} {s' : MappingSearch}
    (hid : pair.offline.id = pair.offlineDeviceId) (hholds : Holds pair s)
    (hs : checkPort input pair offlineLeave onlineLeave s leaveIfId = .ok s') :
    Kept s' ∧ Holds pair s' := by
  rcases checkPort_ok hoffline honline hs with
    ⟨name, rfl⟩ | ⟨found, ⟨rfl, -⟩ | ⟨next, -, -, -, -, rfl⟩⟩
  · exact h.portNotFound name hid hholds
  · exact ⟨h.congr rfl rfl rfl, hholds⟩
  · obtain ⟨item, hitem, hitemOnline⟩ := hholds
    have hfound : Kept { s with foundOnline := found } := h.congr rfl rfl rfl
    exact ⟨hfound.checkDevice, item, checkDevice_frame.2.1 _ _ hitem, hitemOnline⟩

/-- **The results stay apart at a port**, if what passes the check there is not held. -/
theorem Apart.checkPort (h : Apart s) (hoffline : Addressed input.offline.devices)
    (honline : Addressed input.online.devices) {pair : MappingPair} {leaveIfId : ℤ}
    {s' : MappingSearch} (hholds : Holds pair s)
    (hfresh : ∀ opposite, HandsOut input pair leaveIfId s opposite →
      ∀ y : ℤ, ∀ item, s.results[y]? = some item →
        item.onlineDeviceId = opposite.onlineDeviceId → y ∈ s.checkFailed)
    (hs : checkPort input pair (offlineLeaveMap input pair.offlineDeviceId)
      (onlineLeaveMap input pair.onlineDeviceId) s leaveIfId = .ok s') : Apart s' := by
  rcases checkPort_ok hoffline honline hs with
    ⟨name, rfl⟩ | ⟨found, ⟨rfl, -⟩ | ⟨next, hport, hopposite, hnew, -, rfl⟩⟩
  · exact h.portNotFound name hholds
  · exact h.congr rfl rfl
  · have hfound : Apart { s with foundOnline := found } := h.congr rfl rfl
    exact hfound.checkDevice fun _ hok y item hy he =>
      hfresh next ⟨hport, ⟨_, hopposite⟩, hok⟩ y item hy (he.trans hnew.onlineId)

theorem mem_enqueueNeighbors {mappingDevices : QSet ℤ} {results : QMap ℤ MapDeviceResultItem}
    {deviceLinks : QSet Link} {queue : List ℤ} {x : ℤ}
    (h : x ∈ enqueueNeighbors mappingDevices results deviceLinks queue) :
    x ∈ queue ∨ results[x]? = none := by
  have hone : ∀ queue id, x ∈ enqueueDevice mappingDevices results queue id →
      x ∈ queue ∨ results[x]? = none := by
    intro queue id hx
    unfold enqueueDevice at hx
    split_ifs at hx with hc
    · rcases List.mem_append.1 hx with hx | hx
      · exact .inl hx
      · obtain rfl := List.mem_singleton.1 hx
        simp only [Bool.and_eq_true, Bool.not_eq_true'] at hc
        exact .inr (getElem?_eq_none_of_contains_eq_false hc.1.1)
    · exact .inl hx
  unfold enqueueNeighbors at h
  induction deviceLinks generalizing queue with
  | nil => exact .inl h
  | cons link deviceLinks ih =>
    rw [List.foldl_cons] at h
    rcases ih h with hx | hx
    · rcases hone _ _ hx with hx | hx
      · exact hone _ _ hx
      · exact .inr hx
    · exact .inr hx

theorem findPair_ok (hoffline : Addressed input.offline.devices)
    (honline : Addressed input.online.devices) {offlineId onlineId : ℤ} {pair : MappingPair}
    (h : findPair input offlineId onlineId = .ok pair) :
    pair.offlineDeviceId = offlineId ∧ pair.offline.id = offlineId ∧
      pair.onlineDeviceId = onlineId ∧ pair.online.id = onlineId := by
  unfold findPair at h
  split at h
  · cases h
  · next offline hfind =>
    split at h
    · cases h
    · next online hfind' =>
      obtain ⟨builtInPower, -, rfl⟩ := exists_of_map h
      exact ⟨rfl, (findDevice_id hoffline hfind).2, rfl, (findDevice_id honline hfind').2⟩

/-- **The state at the head of the loop**: nothing has happened yet, or the source has its
result and does not wait any more. -/
structure MappingInv (input : MappingInput) (s : MappingSearch) : Prop where
  kept : Kept s
  source : (s.results = ∅ ∧ (s.queue = [] ∨ s.queue = [input.offline.sourceDeviceId])) ∨
    (HasResult s input.offline.sourceDeviceId ∧ input.offline.sourceDeviceId ∉ s.queue)

theorem MappingInv.init : MappingInv input (initialSearch input) where
  kept := ⟨fun x item hx => by simp [initialSearch] at hx, fun x hx =>
    by simp [initialSearch] at hx,
    fun x hx => by simp [initialSearch] at hx⟩
  source := by
    refine .inl ⟨rfl, ?_⟩
    unfold initialSearch
    dsimp only
    split_ifs
    · exact .inr rfl
    · exact .inl rfl

/-- A device is dequeued, and the pair with its partner is found. -/
structure Dequeued (input : MappingInput) (s : MappingSearch) (offlineId : ℤ) (queue : List ℤ)
    (onlineId : ℤ) (pair : MappingPair) : Prop where
  queue : s.queue = offlineId :: queue
  partner : dequeuedPartner input s offlineId = some onlineId
  found : findPair input offlineId onlineId = .ok pair

section

variable {offlineId onlineId : ℤ} {queue : List ℤ} {pair : MappingPair}

/-- **The dequeued pair is entered**: it is held, the results stay apart, and the source
does not wait any more. -/
theorem MappingInv.enter (h : MappingInv input s) (hoffline : Addressed input.offline.devices)
    (honline : Addressed input.online.devices)
    (hdeq : Dequeued input s offlineId queue onlineId pair) :
    let r := enterPair input pair { s with queue := queue, onlineDeviceId := onlineId }
    (Kept r ∧ Holds pair r ∧ HasResult r input.offline.sourceDeviceId ∧
      input.offline.sourceDeviceId ∉ r.queue) ∧ (Apart s → Apart r) := by
  obtain ⟨hq, hpart, hpair⟩ := hdeq
  obtain ⟨hpairId, hofflineId, hpairOnline, honlineId⟩ := findPair_ok hoffline honline hpair
  unfold TopologyMapping.enterPair
  dsimp only
  rw [hpairId]
  cases hheld : s.results[offlineId]? with
  | some item =>
    -- a device that was handed its partner before
    have hcont : s.results.contains offlineId = true := by
      simp [contains_eq_isSome_getElem?, hheld]
    rw [if_pos hcont]
    obtain ⟨hsrc, hnot⟩ := h.source.resolve_left fun ⟨hempty, _⟩ => by
      rw [hempty] at hheld
      simp at hheld
    rw [hq, List.mem_cons, not_or] at hnot
    have hitem : item.onlineDeviceId = onlineId := by
      unfold dequeuedPartner at hpart
      rw [if_neg (Ne.symm hnot.1), hheld] at hpart
      dsimp only at hpart
      split_ifs at hpart
      exact Option.some.inj hpart
    refine ⟨⟨h.kept.congr rfl rfl rfl, ⟨item, by rw [hpairId]; exact hheld,
      hitem.trans honlineId.symm⟩, hsrc, fun hmem => ?_⟩, fun hapart => hapart.congr rfl rfl⟩
    rcases mem_enqueueNeighbors hmem with hmem | hmem
    · exact hnot.2 hmem
    · obtain ⟨other, hother⟩ := hsrc
      rw [hmem] at hother
      cases hother
  | none =>
    -- the source, at the start
    have hcont : ¬s.results.contains offlineId = true := by
      simp [contains_eq_isSome_getElem?, hheld]
    rw [if_neg hcont]
    have hsrc : offlineId = input.offline.sourceDeviceId := by
      by_contra hne
      unfold dequeuedPartner at hpart
      rw [if_neg hne, hheld] at hpart
      cases hpart
    subst hsrc
    obtain ⟨hempty, hq'⟩ := h.source.resolve_right fun ⟨⟨item, hitem⟩, _⟩ => by
      rw [hheld] at hitem
      cases hitem
    obtain rfl : queue = [] := by
      rcases hq' with hnil | hone
      · rw [hq] at hnil
        cases hnil
      · rw [hq] at hone
        exact (List.cons.inj hone).2
    generalize hr : ({ s with
      queue := [], onlineDeviceId := onlineId,
      foundOnline := QSet.insert s.foundOnline pair.onlineDeviceId,
      onlineMapped := QSet.insert s.onlineMapped pair.onlineDeviceId } : MappingSearch) = r
    have hress : r.results = s.results := by rw [← hr]
    have hfailed : r.checkFailed = s.checkFailed := by rw [← hr]
    have hnew : r.results[pair.offline.id]? = none := by
      rw [hress, hofflineId]
      exact hheld
    have hrkept : Kept r := h.kept.congr hress hfailed (by rw [← hr])
    obtain ⟨hframe, -, hentry⟩ := @checkDevice_frame r pair.offline pair.online pair.builtInPower
    obtain ⟨item, hitem, hitemOnline⟩ := hentry hnew
    rw [hofflineId] at hitem
    refine ⟨⟨hrkept.checkDevice.congr rfl rfl rfl, ⟨item, by rw [hpairId]; exact hitem,
      hitemOnline⟩, ⟨item, hitem⟩, fun hmem => ?_⟩, fun hapart => ?_⟩
    · rcases mem_enqueueNeighbors hmem with hmem | hmem
      · rw [hframe, ← hr] at hmem
        cases hmem
      · rw [hitem] at hmem
        cases hmem
    · refine ((hapart.congr hress hfailed).checkDevice fun _ _ y item hy => ?_).congr rfl rfl
      rw [hress, hempty] at hy
      simp at hy

/-- **The ports of the pair keep it**, one after the other. -/
theorem MappingInv.ports (h : MappingInv input s) (hoffline : Addressed input.offline.devices)
    (honline : Addressed input.online.devices)
    (hdeq : Dequeued input s offlineId queue onlineId pair) {passed : List ℤ}
    {r : MappingSearch} (hpast : passed.foldlM (checkPort input pair
        (offlineLeaveMap input offlineId) (onlineLeaveMap input onlineId))
      (enterPair input pair { s with queue := queue, onlineDeviceId := onlineId }) = .ok r) :
    Kept r ∧ Holds pair r ∧ HasResult r input.offline.sourceDeviceId ∧
      input.offline.sourceDeviceId ∉ r.queue := by
  obtain ⟨hpairId, hofflineId, -⟩ := findPair_ok hoffline honline hdeq.found
  refine foldlM_rule (I := fun r => Kept r ∧ Holds pair r ∧
    HasResult r input.offline.sourceDeviceId ∧ input.offline.sourceDeviceId ∉ r.queue)
    hpast (h.enter hoffline honline hdeq).1 ?_
  rintro c c' leaveIfId ⟨hc, hholds, hsrc, hnot⟩ hstep
  obtain ⟨hkept, hholds'⟩ := hc.checkPort hoffline honline (hofflineId.trans hpairId.symm) hholds
    hstep
  refine ⟨hkept, hholds', ?_⟩
  rcases checkPort_ok hoffline honline hstep with
    ⟨name, rfl⟩ | ⟨found, ⟨rfl, -⟩ | ⟨next, -, -, -, -, rfl⟩⟩
  · exact ⟨portNotFound_frame.2 _ hsrc, by rwa [portNotFound_frame.1]⟩
  · exact ⟨hsrc, hnot⟩
  · obtain ⟨item, hitem⟩ := hsrc
    exact ⟨⟨item, checkDevice_frame.2.1 _ _ hitem⟩, by rwa [checkDevice_frame.1]⟩

theorem mappingRound_next {s' : MappingSearch} (h : mappingRound input s = .next s') :
    (∃ offlineId queue onlineId', s.queue = offlineId :: queue ∧
      s' = { s with queue := queue, onlineDeviceId := onlineId' }) ∨
    ∃ offlineId queue onlineId pair, Dequeued input s offlineId queue onlineId pair ∧
      input.online.devices.isEmpty = false ∧
      (offlineLeaveMap input offlineId).keys.foldlM
        (checkPort input pair (offlineLeaveMap input offlineId) (onlineLeaveMap input onlineId))
        (enterPair input pair { s with queue := queue, onlineDeviceId := onlineId }) = .ok s' := by
  unfold mappingRound at h
  split at h
  · cases h
  · next offlineId queue hq =>
    split at h
    · cases h
    · next hnonempty =>
      split at h
      · cases h
        exact .inl ⟨offlineId, queue, _, hq, rfl⟩
      · next onlineId hpart =>
        split at h
        · cases h
        · next r hvisit =>
          cases h
          unfold visitDevice at hvisit
          dsimp only at hvisit
          split at hvisit
          · cases hvisit
          · next pair hpair =>
            exact .inr ⟨offlineId, queue, onlineId, pair, ⟨hq, hpart, hpair⟩,
              by simpa using hnonempty, hvisit⟩

/-- **One round keeps the invariant.** -/
theorem MappingInv.round (h : MappingInv input s) (hoffline : Addressed input.offline.devices)
    (honline : Addressed input.online.devices) {s' : MappingSearch}
    (hround : mappingRound input s = .next s') : MappingInv input s' := by
  rcases mappingRound_next hround with ⟨offlineId, queue, onlineId', hq, rfl⟩ |
    ⟨offlineId, queue, onlineId, pair, hdeq, -, hports⟩
  · refine ⟨h.kept.congr rfl rfl rfl, ?_⟩
    rcases h.source with ⟨hempty, hwhere⟩ | ⟨hsrc, hnot⟩
    · refine .inl ⟨hempty, ?_⟩
      rw [hq] at hwhere
      rcases hwhere with hnil | hone
      · cases hnil
      · exact .inl (List.cons.inj hone).2
    · rw [hq, List.mem_cons, not_or] at hnot
      exact .inr ⟨hsrc, hnot.2⟩
  · obtain ⟨hkept, -, hsrc⟩ := h.ports hoffline honline hdeq hports
    exact ⟨hkept, .inr hsrc⟩

theorem mappingInv_of_visits (hoffline : Addressed input.offline.devices)
    (honline : Addressed input.online.devices)
    (hvisits : Loop.Visits (mappingRound input) (initialSearch input) s) : MappingInv input s :=
  hvisits.rule MappingInv.init fun _ _ _ ht hu => ht.round hoffline honline hu

variable (honce : HandsOutOnce input) (hoffline : Addressed input.offline.devices)
  (honline : Addressed input.online.devices)
  (hvisits : Loop.Visits (mappingRound input) (initialSearch input) s)
include honce hoffline honline hvisits

/-- **The results stay apart through the ports of a pair**, if nothing is handed out
twice. -/
theorem apart_of_ports (hapart : Apart s)
    (hnonempty : input.online.devices.isEmpty = false)
    (hdeq : Dequeued input s offlineId queue onlineId pair) {passed rest : List ℤ}
    {r : MappingSearch} (hkeys : (offlineLeaveMap input offlineId).keys = passed ++ rest)
    (hpast : passed.foldlM (checkPort input pair (offlineLeaveMap input offlineId)
        (onlineLeaveMap input onlineId))
      (enterPair input pair { s with queue := queue, onlineDeviceId := onlineId }) = .ok r) :
    Apart r := by
  have hinv := mappingInv_of_visits hoffline honline hvisits
  obtain ⟨hpairId, -, hpairOnline, -⟩ := findPair_ok hoffline honline hdeq.found
  refine foldlM_rule_moment (I := Apart) hpast
    ((hinv.enter hoffline honline hdeq).2 hapart) ?_
  rintro before leaveIfId after c c' hsplit hbefore hc hstep
  have hmoment : PortMoment input pair leaveIfId c :=
    ⟨s, offlineId, queue, onlineId, hvisits, hdeq.queue, hnonempty, hdeq.partner,
      hdeq.found, before, after ++ rest, by rw [hkeys, hsplit]; simp, hbefore⟩
  rw [← hpairId, ← hpairOnline] at hstep
  exact hc.checkPort hoffline honline (hinv.ports hoffline honline hdeq hbefore).2.1
    (fun opposite hhands => honce pair leaveIfId c opposite hmoment hhands) hstep

theorem apart_of_visits : Apart s := by
  refine hvisits.rule (I := Apart) (fun x y a b hx => by simp [initialSearch] at hx)
    fun t u hv ht hu => ?_
  rcases mappingRound_next hu with ⟨offlineId, queue, onlineId', -, rfl⟩ |
    ⟨offlineId, queue, onlineId, pair, hdeq, hnonempty, hports⟩
  · exact ht.congr rfl rfl
  · exact apart_of_ports honce hoffline honline hv ht hnonempty hdeq
      (List.append_nil _).symm hports

omit honce hoffline honline hvisits

end

/-! ### The report -/

/-- Adding the remaining devices keeps what is there. -/
theorem foldl_remaining {ids : QSet ℤ} {devices : List Device}
    {results : QMap ℤ MapDeviceResultItem} {x : ℤ} {item : MapDeviceResultItem} :
    (devices.foldl (fun results device =>
      if results.contains device.id then results
      else results.insert device.id (remainingItem ids device)) results)[x]? = some item ↔
      results[x]? = some item ∨ (results[x]? = none ∧
        (devices.find? (·.id == x)).map (remainingItem ids) = some item) := by
  induction devices generalizing results with
  | nil => simp
  | cons device devices ih =>
    rw [List.foldl_cons, ih]
    by_cases hid : device.id = x
    · subst hid
      rw [List.find?_cons_of_pos (by simp)]
      cases hold : results[device.id]? with
      | some other => simp [contains_eq_isSome_getElem?, hold]
      | none =>
        rw [if_neg (by simp [contains_eq_isSome_getElem?, hold]),
          getElem?_insert_result, if_pos rfl]
        simp
    · rw [List.find?_cons_of_neg (by simpa using hid)]
      split_ifs
      · rfl
      · rw [getElem?_insert_result, if_neg hid]

/-- **The results once the search is over.** -/
theorem finishResults_eq_some {x : ℤ} {item : MapDeviceResultItem} :
    (finishResults input s)[x]? = some item ↔
      (∃ result, s.results[x]? = some result ∧ item = updateWarning input s.notFoundPort result) ∨
      (s.results[x]? = none ∧ (input.offline.devices.find? (·.id == x)).map
        (remainingItem (offlineMappingDeviceSet input.offline)) = some item) := by
  unfold finishResults
  rw [foldl_remaining, getElem?_map]
  cases s.results[x]? with
  | none => simp
  | some result => simp [eq_comm]

theorem isMapped_remainingItem (ids : QSet ℤ) (device : Device) :
    (remainingItem ids device).isMapped = false := by
  unfold remainingItem MapDeviceResultItem.isMapped
  dsimp only
  split_ifs <;> rfl

theorem isMapped_unfoundItem (canDeploy : Bool) (offlineIps : List String) (device : Device) :
    (unfoundItem canDeploy offlineIps device).isMapped = false := by
  unfold unfoundItem MapDeviceResultItem.isMapped
  dsimp only
  split_ifs <;> rfl

/-- The items of the results, up to their numbers. -/
theorem mem_offlineItems {results : QMap ℤ MapDeviceResultItem} {item : MapDeviceResultItem} :
    item ∈ offlineItems results → ∃ result ∈ results.vals, ∃ n, item = { result with id := n } := by
  unfold offlineItems
  suffices h : ∀ l : List MapDeviceResultItem, ∀ report,
      item ∈ l.foldl (fun report (item : MapDeviceResultItem) =>
        report ++ [{ item with id := (report.length : ℤ) + 1 }]) report →
      item ∈ report ∨ ∃ result ∈ l, ∃ n, item = { result with id := n } by
    intro hmem
    exact (h _ [] hmem).resolve_left List.not_mem_nil
  intro l
  induction l with
  | nil => exact fun report h => .inl h
  | cons result l ih =>
    intro report h
    rw [List.foldl_cons] at h
    rcases ih _ h with hmem | ⟨other, hother, n, rfl⟩
    · rcases List.mem_append.1 hmem with hmem | hmem
      · exact .inl hmem
      · exact .inr ⟨result, List.mem_cons_self, _, List.mem_singleton.1 hmem⟩
    · exact .inr ⟨other, List.mem_cons_of_mem _ hother, n, rfl⟩

/-- The items that are appended name no designed device to be configured. -/
theorem mem_appendUnfound {online : MapTopology} {foundOnline : QSet ℤ} {canDeploy : Bool}
    {offlineIps checkedIps : List String} {report : List MapDeviceResultItem}
    {item : MapDeviceResultItem}
    (h : item ∈ appendUnfound online foundOnline canDeploy offlineIps checkedIps report) :
    item ∈ report ∨ item.isMapped = false := by
  unfold appendUnfound at h
  revert h
  generalize online.devices = devices
  induction devices generalizing report with
  | nil => exact fun h => .inl h
  | cons device devices ih =>
    intro h
    rw [List.foldl_cons] at h
    rcases ih h with hmem | hmap
    · dsimp only at hmem
      split_ifs at hmem
      · exact .inl hmem
      · exact .inl hmem
      · rcases List.mem_append.1 hmem with hmem | hmem
        · exact .inl hmem
        · obtain rfl := List.mem_singleton.1 hmem
          exact .inr (isMapped_unfoundItem canDeploy offlineIps device)
    · exact .inr hmap

theorem mem_sortReport {formats : NumberFormats} {report : List MapDeviceResultItem}
    {item : MapDeviceResultItem} : item ∈ sortReport formats report ↔ item ∈ report :=
  List.mem_insertionSort _

theorem updateWarning_ids (ports : QSet ℤ) (item : MapDeviceResultItem) :
    (updateWarning input ports item).offlineDeviceId = item.offlineDeviceId ∧
      (updateWarning input ports item).onlineDeviceId = item.onlineDeviceId := by
  unfold updateWarning
  split_ifs <;> exact ⟨rfl, rfl⟩

/-- **Whatever the report maps passed its check.** -/
theorem Kept.not_failed_of_isMapped (h : Kept s) {x : ℤ} {item : MapDeviceResultItem}
    (hitem : s.results[x]? = some item)
    (hmap : (updateWarning input s.notFoundPort item).isMapped = true) : x ∉ s.checkFailed := by
  obtain ⟨hid, hcases⟩ := h.results x item hitem
  intro hfailed
  obtain ⟨-, hports, hst, -⟩ := hcases.resolve_right fun hother =>
    hother.elim (fun h => h.1 hfailed) fun h => h.1 hfailed
  unfold updateWarning MapDeviceResultItem.isMapped at hmap
  rw [if_neg (by
    rintro ⟨-, hcont, -⟩
    rw [QSet.contains_iff_mem, hid] at hcont
    exact hports hcont), hst] at hmap
  cases hmap

/-- **The report is injective**, if nothing is handed out twice. -/
theorem mappingInjective_of_handsOutOnce (hoffline : Addressed input.offline.devices)
    (honline : Addressed input.online.devices) (honce : HandsOutOnce input)
    {formats : NumberFormats} {fuel : ℕ} {status : Status} {result : TopologyMappingResult}
    (hrun : mappingTopology formats fuel input = some (status, result)) :
    MappingInjective result.mappingReport := by
  unfold mappingTopology at hrun
  obtain ⟨final, hfinal, hres⟩ := Option.map_eq_some_iff.1 hrun
  cases final with
  | error e =>
    obtain ⟨-, rfl⟩ := Prod.mk.inj hres
    exact fun x hx => absurd hx List.not_mem_nil
  | ok s =>
    obtain ⟨-, rfl⟩ := Prod.mk.inj hres
    obtain ⟨t, hvisits, hdone⟩ := Loop.exists_of_run hfinal
    have hinv := mappingInv_of_visits hoffline honline hvisits
    have hapart := apart_of_visits honce hoffline honline hvisits
    obtain rfl : t = s := by
      unfold mappingRound at hdone
      split at hdone
      · cases hdone
        rfl
      · split_ifs at hdone
        · cases hdone
          rfl
        · split at hdone
          · cases hdone
          · split at hdone
            · cases hdone
            · cases hdone
    -- a mapped item of the report is an entry that passed its check
    have horigin : ∀ item ∈ (generateTopologyMappingResult formats (finishResults input t)
        t.foundOnline [] input.online).mappingReport, item.isMapped = true →
        ∃ x : ℤ, ∃ entry, t.results[x]? = some entry ∧ x ∉ t.checkFailed ∧
          item.offlineDeviceId = x ∧ item.onlineDeviceId = entry.onlineDeviceId := by
      intro item hitem hmap
      unfold generateTopologyMappingResult at hitem
      dsimp only at hitem
      rcases mem_appendUnfound (mem_sortReport.1 hitem) with hmem | hno
      · obtain ⟨entry, hentry, n, rfl⟩ := mem_offlineItems hmem
        obtain ⟨x, hx⟩ := QMap.mem_vals.1 hentry
        have hmap' : entry.isMapped = true := hmap
        rcases finishResults_eq_some.1 hx with ⟨held, hheld, rfl⟩ | ⟨-, hfind⟩
        · obtain ⟨hoff, hon⟩ := @updateWarning_ids input t.notFoundPort held
          exact ⟨x, held, hheld, hinv.kept.not_failed_of_isMapped hheld hmap',
            hoff.trans (hinv.kept.results x held hheld).offlineId, hon⟩
        · obtain ⟨device, -, rfl⟩ := Option.map_eq_some_iff.1 hfind
          rw [isMapped_remainingItem] at hmap'
          cases hmap'
      · rw [hno] at hmap
        cases hmap
    intro a ha b hb hamapped hbmapped he
    obtain ⟨x, xEntry, hx, hxok, hax, haon⟩ := horigin a ha hamapped
    obtain ⟨y, yEntry, hy, hyok, hby, hbon⟩ := horigin b hb hbmapped
    rw [hax, hby]
    exact hapart x y xEntry yEntry hx hy hxok hyok (by rw [← haon, he, hbon])

/-- **Nothing is handed out twice exactly when no online device is ever held twice**, after
any port of the run; and then the report is injective. -/
theorem mappingInjective_iff (hoffline : Addressed input.offline.devices)
    (honline : Addressed input.online.devices) :
    (HandsOutOnce input ↔ ∀ pair leaveIfId r r', PortMoment input pair leaveIfId r →
      checkPort input pair (offlineLeaveMap input pair.offlineDeviceId)
        (onlineLeaveMap input pair.onlineDeviceId) r leaveIfId = .ok r' → Apart r') ∧
    (HandsOutOnce input → ∀ formats fuel status result,
      mappingTopology formats fuel input = some (status, result) →
        MappingInjective result.mappingReport) := by
  refine ⟨⟨fun honce pair leaveIfId r r' hmoment hr' => ?_,
    fun hall pair leaveIfId r opposite hmoment hhands y item hy he => ?_⟩,
    fun honce formats fuel status result hrun =>
      mappingInjective_of_handsOutOnce hoffline honline honce hrun⟩
  · obtain ⟨s, offlineId, queue, onlineId, hvisits, hq, hnonempty, hpart, hpair, passed,
      rest,
      hkeys, hpast⟩ := id hmoment
    have hdeq : Dequeued input s offlineId queue onlineId pair := ⟨hq, hpart, hpair⟩
    have hapart := apart_of_ports honce hoffline honline hvisits
      (apart_of_visits honce hoffline honline hvisits) hnonempty hdeq hkeys hpast
    have hholds := ((mappingInv_of_visits hoffline honline hvisits).ports hoffline honline hdeq
      hpast).2.1
    exact hapart.checkPort hoffline honline hholds
      (fun opposite hhands => honce pair leaveIfId r opposite hmoment hhands) hr'
  · -- the device that is handed the online one has no result before, so it is another
    obtain ⟨s, offlineId, queue, onlineId, hvisits, hq, -, hpart, hpair, passed, rest, -,
      hpast⟩ := id hmoment
    have hkept := ((mappingInv_of_visits hoffline honline hvisits).ports hoffline honline
      ⟨hq, hpart, hpair⟩ hpast).1
    obtain ⟨hport, ⟨r', hopposite⟩, hok⟩ := hhands
    obtain ⟨found, rfl, ⟨hnone, -⟩ | ⟨next, hnext, hpairNew, -⟩⟩ :=
      oppositePair_ok hoffline honline hopposite
    · cases hnone
    cases hnext
    have hstep : checkPort input pair (offlineLeaveMap input pair.offlineDeviceId)
        (onlineLeaveMap input pair.onlineDeviceId) r leaveIfId =
          .ok (checkDevice opposite.offline opposite.online opposite.builtInPower
            { r with foundOnline := found }) := by
      unfold checkPort
      rw [if_neg (by simp [hport]), hopposite]
      rfl
    have hapart := hall pair leaveIfId r _ hmoment hstep
    have hnew := hpairNew.unmapped
    rw [← hpairNew.offlineId] at hnew
    obtain ⟨-, hkeep, hentry⟩ := @checkDevice_frame { r with foundOnline := found }
      opposite.offline opposite.online opposite.builtInPower
    obtain ⟨entry, hentry, hentryOnline⟩ := hentry hnew
    have hfailed : (checkDevice opposite.offline opposite.online opposite.builtInPower
        { r with foundOnline := found }).checkFailed = r.checkFailed := by
      rcases checkDevice_cases opposite.offline opposite.online opposite.builtInPower
          { r with foundOnline := found } with ⟨-, hs⟩ | ⟨-, message, herror, -⟩ | ⟨-, -, hs⟩
      · rw [hs]
      · rw [hok] at herror
        cases herror
      · rw [hs]
    by_contra hnot
    have hsame := hapart y opposite.offline.id item entry (hkeep y item hy)
      hentry (by rw [hfailed]; exact hnot)
      (by rw [hfailed]; exact (hkept.not_mem_of_new hnew).1)
      (by rw [he, hentryOnline, hpairNew.onlineId])
    rw [hsame, hnew] at hy
    cases hy

/-- What `HandsOutOnce` asks at one port. -/
def checkHandOut (input : MappingInput) (pair : MappingPair) (leaveIfId : ℤ) (r : MappingSearch) :
    Bool :=
  match oppositePair input (offlineLeaveMap input pair.offlineDeviceId)
    (onlineLeaveMap input pair.onlineDeviceId) r leaveIfId with
  | .ok (_, some opposite) =>
    r.results.toList.all fun (y, item) =>
      item.onlineDeviceId != opposite.onlineDeviceId || QSet.contains r.checkFailed y
  | _ => true

/-- What it asks of the ports of the device that is dequeued next. -/
def checkRound (input : MappingInput) (s : MappingSearch) : Bool :=
  match s.queue with
  | [] => true
  | offlineId :: queue =>
    match dequeuedPartner input s offlineId with
    | none => true
    | some onlineId =>
      match findPair input offlineId onlineId with
      | .error _ => true
      | .ok pair =>
        (Loop.moments (offlineLeaveMap input offlineId).keys).all fun (passed, leaveIfId) =>
          match passed.foldlM (checkPort input pair (offlineLeaveMap input offlineId)
              (onlineLeaveMap input onlineId))
            (enterPair input pair { s with queue := queue, onlineDeviceId := onlineId }) with
          | .error _ => true
          | .ok r => checkHandOut input pair leaveIfId r

/-- A run that ends can be searched for an online device that is handed out twice. -/
theorem handsOutOnce_of_check (fuel : ℕ)
    (hends : (Loop.run (mappingRound input) fuel (initialSearch input)).isSome = true)
    (hcheck : (Loop.visited (mappingRound input) fuel (initialSearch input)).all
      (checkRound input) = true) : HandsOutOnce input := by
  rintro pair leaveIfId r opposite ⟨s, offlineId, queue, onlineId, hvisits, hq, -, hpart,
    hpair, passed, rest, hkeys, hpast⟩ ⟨-, ⟨r', hopposite⟩, -⟩ y item hy he
  obtain ⟨final, hfinal⟩ := Option.isSome_iff_exists.1 hends
  have hround := List.all_eq_true.1 hcheck s (Loop.mem_visited_of_run hfinal hvisits).1
  unfold checkRound at hround
  rw [hq] at hround
  dsimp only at hround
  rw [hpart] at hround
  dsimp only at hround
  rw [hpair] at hround
  dsimp only at hround
  have hmoment := List.all_eq_true.1 hround (passed, leaveIfId) (Loop.mem_moments.2 ⟨rest, hkeys⟩)
  dsimp only at hmoment
  rw [hpast] at hmoment
  unfold checkHandOut at hmoment
  dsimp only at hmoment
  rw [hopposite] at hmoment
  have hentry := List.all_eq_true.1 hmoment (y, item)
    (mem_toList_iff_getElem?_eq_some.2 hy)
  simpa [he, QSet.contains_iff_mem] using hentry

/-- A switch of the vendor. -/
def moxaSwitch (id : ℤ) (ipAddress : String) : Device where
  id := id
  ipAddress := ipAddress
  deviceType := .switch
  deviceProfileId := 1
  deviceProperty := { modelName := "EDS-4008", vendor := "MOXA" }

/-- Two switches and a cable, designed and built. -/
def builtAsDesigned : MappingInput where
  profiles := [{ id := 1, modelName := "EDS-4008" }]
  offline := {
    devices := [moxaSwitch 1 "10.0.0.1", moxaSwitch 2 "10.0.0.2"]
    links :=
      [{ id := 1, sourceDeviceId := 1, sourceInterfaceId := 1, destinationDeviceId := 2,
         destinationInterfaceId := 1 }]
    sourceDeviceId := 1 }
  online := {
    devices := [moxaSwitch 11 "10.0.1.1", moxaSwitch 12 "10.0.1.2"]
    links :=
      [{ id := 1, sourceDeviceId := 12, sourceInterfaceId := 1, destinationDeviceId := 11,
         destinationInterfaceId := 1 }]
    sourceDeviceId := 11 }

/-- What the built network gives each designed switch. -/
theorem mappingInjective_builtAsDesigned : HandsOutOnce builtAsDesigned ∧
    ∀ formats fuel status result, mappingTopology formats fuel builtAsDesigned =
      some (status, result) → MappingInjective result.mappingReport := by
  have hoffline : Addressed builtAsDesigned.offline.devices := by
    unfold Addressed builtAsDesigned
    decide
  have honline : Addressed builtAsDesigned.online.devices := by
    unfold Addressed builtAsDesigned
    decide
  have honce : HandsOutOnce builtAsDesigned :=
    handsOutOnce_of_check 4 (by decide +kernel) (by decide +kernel)
  exact ⟨honce, (mappingInjective_iff hoffline honline).2 honce⟩

/-- A switch with a cable to each of two others is designed, and two switches with two
cables between them are built. -/
def parallelCables : MappingInput where
  profiles := [{ id := 1, modelName := "EDS-4008" }]
  offline := {
    devices := [moxaSwitch 1 "10.0.0.1", moxaSwitch 2 "10.0.0.2", moxaSwitch 3 "10.0.0.3"]
    links :=
      [{ id := 1, sourceDeviceId := 1, sourceInterfaceId := 1, destinationDeviceId := 2,
         destinationInterfaceId := 1 },
       { id := 2, sourceDeviceId := 1, sourceInterfaceId := 2, destinationDeviceId := 3,
         destinationInterfaceId := 1 }]
    sourceDeviceId := 1 }
  online := {
    devices := [moxaSwitch 11 "10.0.1.1", moxaSwitch 12 "10.0.1.2"]
    links :=
      [{ id := 1, sourceDeviceId := 11, sourceInterfaceId := 1, destinationDeviceId := 12,
         destinationInterfaceId := 1 },
       { id := 2, sourceDeviceId := 11, sourceInterfaceId := 2, destinationDeviceId := 12,
         destinationInterfaceId := 2 }]
    sourceDeviceId := 11 }

theorem parallelCables_report :
    (mappingTopology ⟨fun _ => 0, fun _ => none⟩ 4 parallelCables).map (fun r =>
      (r.2.deploy, r.2.mappingReport.map fun item =>
        (item.offlineDeviceId, item.onlineDeviceId, item.isMapped))) =
      some (true, [(1, 11, true), (2, 12, true), (3, 12, true)]) := by
  decide +kernel

/-- **Two designed switches are mapped to one that is built**, and the design may be
deployed: both are handed it before either is dequeued. -/
theorem not_mappingInjective : Addressed parallelCables.offline.devices ∧
    Addressed parallelCables.online.devices ∧
    ∃ status result, mappingTopology ⟨fun _ => 0, fun _ => none⟩ 4 parallelCables =
      some (status, result) ∧ result.deploy = true ∧ ¬MappingInjective result.mappingReport := by
  refine ⟨by unfold Addressed parallelCables; decide, by unfold Addressed parallelCables; decide,
    ?_⟩
  have hreport := parallelCables_report
  cases hrun : mappingTopology ⟨fun _ => 0, fun _ => none⟩ 4 parallelCables with
  | none =>
    rw [hrun] at hreport
    cases hreport
  | some r =>
    rw [hrun] at hreport
    obtain ⟨hdeploy, hitems⟩ := Prod.mk.inj (Option.some.inj hreport)
    refine ⟨r.1, r.2, rfl, hdeploy, fun hinj => ?_⟩
    have hitem : ∀ t ∈ [(2, 12, true), (3, 12, true)], ∃ item ∈ r.2.mappingReport,
        (item.offlineDeviceId, item.onlineDeviceId, item.isMapped) = t := by
      intro t ht
      refine List.mem_map.1 (?_ : t ∈ r.2.mappingReport.map fun item =>
        (item.offlineDeviceId, item.onlineDeviceId, item.isMapped))
      rw [hitems]
      exact List.mem_cons_of_mem _ ht
    obtain ⟨x, hx, hxe⟩ := hitem (2, 12, true) (by simp)
    obtain ⟨y, hy, hye⟩ := hitem (3, 12, true) (by simp)
    obtain ⟨hxoff, hxon, hxmapped⟩ := And.imp_right Prod.mk.inj (Prod.mk.inj hxe)
    obtain ⟨hyoff, hyon, hymapped⟩ := And.imp_right Prod.mk.inj (Prod.mk.inj hye)
    have hsame := hinj x hx y hy hxmapped hymapped (hxon.trans hyon.symm)
    rw [hxoff, hyoff] at hsame
    exact absurd hsame (by decide)

end TopologyMapping
end Sebastian

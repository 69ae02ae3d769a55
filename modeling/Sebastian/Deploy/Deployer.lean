/-
# The deployer

`Deployer.Deploy` (`sebastian/modules/deploy`): the devices of a project are searched in
the network, what is found is mapped to the devices of the project, and the offline
configuration of each found device is uploaded, the farthest device first.

The ids to work on are rewritten on the way: the requested ones, those that were found
(`getNewDeployDeviceIdsByMappingMap`), and the order of the uploads, by the distance that
the device manager reports (`sortDevicesByDistance`) or, where this gives nothing, by
address (`sortDevicesByIp`).

What the core, the device manager and the user do is an `Environment`; a loop over a Go
map walks its entries in an order that the environment chooses.  The job that enables SNMP,
whose end `Deploy` does not look at, is left out but for the read of `stopFlag` after it, and
so is `AutoSetArp`.
-/

import Sebastian.Lib.GoFunc
import Sebastian.Lib.QMap

namespace Sebastian
namespace Deploy

open GoFunc

/-! ### What is read and sent -/

/-- `domain.Account` -/
structure Account where
  defaultSetting : Bool := false
  username : String := ""
  password : String := ""
  deriving DecidableEq

/-- `domain.Device`, the fields that a deployment reads. -/
structure Device where
  id : ℤ
  deviceProfileId : ℤ := 0
  ipAddress : String := ""
  restfulPort : UInt16 := 0
  account : Account := {}
  deriving DecidableEq

/-- `domain.UserAccount` -/
structure UserAccount where
  username : String := ""
  password : String := ""

/-- `domain.UserAccountTable` -/
structure UserAccountTable where
  syncConnectionAccount : String := ""
  accounts : QMap String UserAccount := ∅

instance : Inhabited UserAccountTable := ⟨{}⟩

/-- A device profile with the account tables of its default configuration. -/
structure DeviceProfile where
  id : ℤ
  userAccountTables : QMap ℤ UserAccountTable := ∅

/-- A device as the device manager reports it. -/
structure MafDevice where
  deviceId : String
  ip : String := ""
  mac : String := ""

/-- `DeployDeviceResult` -/
structure DeployDeviceResult where
  deviceId : ℤ
  status : String
  errorMessage : String := ""
  deriving DecidableEq

/-- `schema.DeviceSecrets`; the port is the same for each protocol. -/
structure DeviceSecrets where
  globalUsername : String
  globalPassword : String
  port : UInt16
  deriving DecidableEq

/-- What a deployment sends: the responses to its client, and the calls that change a device. -/
inductive Event where
  | failedResponse (statusCode : ℤ) (errMessage : String)
  | progressResponse (progress : ℤ)
  | deviceResultProgressResponse (progress : ℤ) (result : DeployDeviceResult)
  | completedResponse
  | updateDeviceSecret (mafDeviceId : String) (secrets : DeviceSecrets)
  /-- `UploadOfflineConfig`, made for this device of the project. -/
  | uploadOfflineConfig (deviceId : ℤ) (mafDeviceId fileId : String)
  deriving DecidableEq

/-- A response of the core that is not a success. -/
structure CoreFailure where
  statusCode : ℤ
  errorMessage : String

/-- `GetSortDistance`: its paths, each from the farthest device to the origin, or an error. -/
abbrev SortResult := Except String (List (List String))

/-- The loops over `deviceMappingMap`. -/
inductive MapLoop where
  | newDeviceIds
  | sortRequest
  | reverseLookup
  | sortByIp

/-- What a deployment is asked for. -/
structure Request where
  /-- Empty for all devices. -/
  deviceIds : List ℤ
  skipMappingDevice : Bool

/-- What the others do in the course of one deployment. -/
structure Environment where
  /-- `UpdateProjectStatus` to deploying. -/
  updateProjectStatus : Except CoreFailure Unit := .ok ()
  /-- The devices of the project, or of its design baseline. -/
  getProject : Except CoreFailure (List Device)
  /-- `DeviceIpSettingTables`: ids and MAC addresses, in the order of the loop over them. -/
  getProjectDeviceConfig : Except CoreFailure (List (ℤ × String)) := .ok []
  getProjectDeployDevices : Except CoreFailure (List ℤ) := .ok []
  generateDevicesOfflineConfig : List ℤ → Except CoreFailure (QMap ℤ String)
  getDeviceProfiles : Except CoreFailure (List DeviceProfile) := .ok []
  updateProjectDevices : List Device → Except CoreFailure Unit := fun _ => .ok ()
  getNetCache : Except String Unit := .ok ()
  getDMManager : Except String Unit := .ok ()
  getDevices : Except String (List MafDevice)
  getSortDistance : List String → SortResult
  /-- Whether the upload at this place of the sequence succeeds. -/
  uploadOfflineConfig : ℕ → String → String → Bool
  /-- The number of reads of `stopFlag` before `Stop` sets it. -/
  stopAt : Option ℕ := none
  walk : MapLoop → List (ℤ × String) → List (ℤ × String) := fun _ l => l
  walk_perm : ∀ loop l, (walk loop l).Perm l := by intros; exact .refl _
  /-- `sort.Slice` by the parsed addresses. -/
  sortSlice : List (ℤ × String) → List (ℤ × String) := id
  sortSlice_perm : ∀ l, (sortSlice l).Perm l := by intros; exact .refl _

/-- What a deployment has done so far. -/
structure Deployment where
  events : List Event := []
  /-- How often `stopFlag` was read. -/
  reads : ℕ := 0

/-- The code of `Deploy`: an early `return` is a failure. -/
abbrev DeployFunc := GoFunc Unit Deployment

def failedStatusCode : ℤ := 1006

def stopStatusCode : ℤ := 1005

/-- One more event. -/
def Deployment.send (s : Deployment) (event : Event) : Deployment :=
  { s with events := s.events ++ [event] }

def send (event : Event) : DeployFunc Unit := write (·.send event)

/-- A read of `stopFlag`. -/
def Deployment.readStopFlag (s : Deployment) : Deployment := { s with reads := s.reads + 1 }

/-- A read so far has found `stopFlag` set. -/
def Deployment.SeenStop (env : Environment) (s : Deployment) : Prop :=
  ∃ n ∈ env.stopAt, n < s.reads

instance (env : Environment) (s : Deployment) : Decidable (s.SeenStop env) := by
  unfold Deployment.SeenStop; infer_instance

/-- The value of `stopFlag`, as it is read now. -/
def stopFlag (env : Environment) : DeployFunc Bool := do
  write (·.readStopFlag)
  let s ← get
  return decide (s.SeenStop env)

/-- `if deployer.stopFlag { return }` -/
def returnIfStopped (env : Environment) : DeployFunc Unit := do
  if ← stopFlag env then fail ()

/-- `if err != nil`: the failed response is sent and `Deploy` returns. -/
def orFailed {α : Type} (x : Except String α) : DeployFunc α :=
  match x with
  | .ok value => ret value
  | .error message => do
    send (.failedResponse failedStatusCode message)
    fail ()

/-- The same for a response of the core. -/
def orCoreFailed {α : Type} (x : Except CoreFailure α) : DeployFunc α :=
  match x with
  | .ok value => ret value
  | .error failure => do
    send (.failedResponse failure.statusCode failure.errorMessage)
    fail ()

/-! ### Searching the devices -/

/-- `normalizeMAC`, for the ASCII of an address. -/
def normalizeMAC (mac : String) : String :=
  String.ofList ((mac.toList.filter fun c => c ≠ '-' && c ≠ ':').map Char.toLower)

/-- The addresses of the devices with one of these ids, each with the last such device. -/
def ipIdMap (devices : List Device) (deviceIds : List ℤ) : QMap String ℤ :=
  devices.foldl (fun m device =>
    if device.id ∈ deviceIds then m.insert device.ipAddress device.id else m) ∅

/-- The reported devices that `idOf` finds an id for are entered under it. -/
def mapDevices (idOf : MafDevice → Option ℤ) (deviceMappingMap : QMap ℤ String)
    (mafDevices : List MafDevice) : QMap ℤ String :=
  mafDevices.foldl (fun m mafDevice =>
    match idOf mafDevice with
    | some deviceId => m.insert deviceId mafDevice.deviceId
    | none => m) deviceMappingMap

/-- `ipListDeviceSearch` -/
def ipListDeviceSearch (env : Environment) (devices : List Device) (deviceIds : List ℤ) :
    Except String (QMap ℤ String) := do
  env.getDMManager
  let mafDevices ← env.getDevices
  return mapDevices (fun mafDevice => (ipIdMap devices deviceIds)[mafDevice.ip]?) ∅ mafDevices

/-- `broadcastDeviceSearch`: first by the MAC addresses of the devices whose address was
changed, then the others by their addresses. -/
def broadcastDeviceSearch (env : Environment) (devices : List Device) (deviceIds : List ℤ)
    (deviceIpSettingTables : List (ℤ × String)) : Except String (QMap ℤ String) := do
  env.getDMManager
  let mafDevices ← env.getDevices
  let changed := deviceIpSettingTables.filter fun table => decide (table.1 ∈ deviceIds)
  let deviceMacIdMap : QMap String ℤ :=
    changed.foldl (fun m table => m.insert (normalizeMAC table.2) table.1) ∅
  let used := (mafDevices.filter fun mafDevice => deviceMacIdMap.contains mafDevice.mac).map
    (·.deviceId)
  let noChangeDeviceIds := deviceIds.filter fun id => decide (id ∉ changed.map (·.1))
  let noChangeDeviceIpIdMap := ipIdMap devices noChangeDeviceIds
  return mapDevices
    (fun mafDevice =>
      if mafDevice.deviceId ∈ used then none else noChangeDeviceIpIdMap[mafDevice.ip]?)
    (mapDevices (fun mafDevice => deviceMacIdMap[mafDevice.mac]?) ∅ mafDevices) mafDevices

/-- The search that `Deploy` makes. -/
def deviceSearch (env : Environment) (request : Request) (devices : List Device)
    (deviceIds : List ℤ) (deviceIpSettingTables : List (ℤ × String)) :
    Except String (QMap ℤ String) :=
  if request.skipMappingDevice then ipListDeviceSearch env devices deviceIds
  else broadcastDeviceSearch env devices deviceIds deviceIpSettingTables

/-- The result of a requested device that was not found. -/
def notFoundResult (id : ℤ) : DeployDeviceResult :=
  { deviceId := id, status := "Failed", errorMessage := "Not found" }

/-- `checkDevicesExists` -/
def checkDevicesExists (deviceMappingMap : QMap ℤ String) (progress : ℤ) :
    List ℤ → DeployFunc Unit
  | [] => ret ()
  | id :: deviceIds => do
    if !deviceMappingMap.contains id then
      send (.deviceResultProgressResponse progress (notFoundResult id))
    checkDevicesExists deviceMappingMap progress deviceIds

/-- `getNewDeployDeviceIdsByMappingMap` -/
def getNewDeployDeviceIdsByMappingMap (env : Environment) (deviceMappingMap : QMap ℤ String) :
    List ℤ :=
  (env.walk .newDeviceIds deviceMappingMap.toList).map (·.1)

/-! ### The secrets -/

/-- `getProjectDeviceById` -/
def getProjectDeviceById (devices : List Device) (deviceId : ℤ) : Except String Device :=
  match devices.find? (·.id == deviceId) with
  | some device => .ok device
  | none => .error s!"The device with ID {deviceId} not found"

/-- `setMAFDevicesSecret`, with the error it returns. -/
def setMAFDevicesSecret (devices : List Device) (deviceMappingMap : QMap ℤ String) :
    List ℤ → DeployFunc (Except String Unit)
  | [] => ret (.ok ())
  | id :: deviceIds =>
    match deviceMappingMap[id]? with
    | none => ret (.error s!"The Device({id}) not exists at the DeviceMappingMap")
    | some mafDeviceId =>
      match getProjectDeviceById devices id with
      | .error message => ret (.error message)
      | .ok device => do
        send (.updateDeviceSecret mafDeviceId
          { globalUsername := device.account.username
            globalPassword := device.account.password
            port := device.restfulPort })
        setMAFDevicesSecret devices deviceMappingMap deviceIds

/-! ### The order of the uploads -/

/-- A node of a layer is merged once. -/
def mergeNode (d : ℕ) (merged : List String) (path : List String) : List String :=
  if d + 1 ≤ path.length then
    let node := path.getD (path.length - 1 - d) ""
    if node ∈ merged then merged else merged ++ [node]
  else merged

/-- `layerMergeFarToNear`: layer by layer, from the farthest to the origin.  The map `seen`
holds what is merged. -/
def layerMergeFarToNear (paths : List (List String)) : List String :=
  let maxDepth := paths.foldl (fun maxDepth path => max maxDepth (path.length - 1)) 0
  (List.range (maxDepth + 1)).reverse.foldl
    (fun merged d => paths.foldl (mergeNode d) merged) []

/-- The map from the ids of the device manager back to those of the project. -/
def valToKey (env : Environment) (deviceMappingMap : QMap ℤ String) : QMap String ℤ :=
  (env.walk .reverseLookup deviceMappingMap.toList).foldl
    (fun m entry => m.insert entry.2 entry.1) ∅

/-- What the device manager answers to the ids of the devices found. -/
def sortResultOf (env : Environment) (deviceMappingMap : QMap ℤ String) : SortResult :=
  env.getSortDistance ((env.walk .sortRequest deviceMappingMap.toList).map (·.2))

/-- `sortDevicesByDistance` -/
def sortDevicesByDistance (env : Environment) (deviceMappingMap : QMap ℤ String) :
    Except String (List ℤ) := do
  env.getDMManager
  let paths ← sortResultOf env deviceMappingMap
  return (layerMergeFarToNear paths).filterMap fun node => (valToKey env deviceMappingMap)[node]?

/-- `sortDevicesByIp` -/
def sortDevicesByIp (env : Environment) (devices : List Device) (deviceMappingMap : QMap ℤ String) :
    Except String (List ℤ) := do
  let pairs ← (env.walk .sortByIp deviceMappingMap.toList).mapM fun entry => do
    let device ← getProjectDeviceById devices entry.1
    return (entry.1, device.ipAddress)
  return (env.sortSlice pairs).map (·.1)

/-- The sequence of the uploads: an error of the sort by distance is only logged. -/
def deploySequence (env : Environment) (devices : List Device) (deviceMappingMap : QMap ℤ String) :
    Except String (List ℤ) :=
  match sortDevicesByDistance env deviceMappingMap with
  | .ok (id :: deviceIds) => .ok (id :: deviceIds)
  | _ => sortDevicesByIp env devices deviceMappingMap

/-! ### The uploads -/

/-- The result of an upload. -/
def uploadResult (id : ℤ) (succeeded : Bool) : DeployDeviceResult :=
  if succeeded then { deviceId := id, status := "Success" }
  else { deviceId := id, status := "Failed", errorMessage := "Import Config failed" }

/-- The loop of `uploadDevicesOfflineConfig` from the place `index` on, with the error it
returns. -/
def uploadDevices (env : Environment) (deviceMappingMap deviceOfflineConfigMap : QMap ℤ String)
    (step : ℤ) : ℕ → List ℤ → DeployFunc (Except String Unit)
  | _, [] => ret (.ok ())
  | index, id :: deviceIds =>
    match deviceMappingMap[id]? with
    | none => ret (.error s!"The Device({id}) not exists at the DeviceMappingMap")
    | some mafDeviceId =>
      match deviceOfflineConfigMap[id]? with
      | none => ret (.error s!"The Device({id}) not exists at the DeviceOfflineConfigMap")
      | some deviceConfigFileId => do
        send (.uploadOfflineConfig id mafDeviceId deviceConfigFileId)
        send (.deviceResultProgressResponse (30 + step * (index + 1))
          (uploadResult id (env.uploadOfflineConfig index mafDeviceId deviceConfigFileId)))
        if ← stopFlag env then return .ok ()
        uploadDevices env deviceMappingMap deviceOfflineConfigMap step (index + 1) deviceIds

/-- `uploadDevicesOfflineConfig` -/
def uploadDevicesOfflineConfig (env : Environment)
    (deviceMappingMap deviceOfflineConfigMap : QMap ℤ String) (sequence : List ℤ) :
    DeployFunc (Except String Unit) :=
  if sequence = [] then ret (.error "Deploy Sequence set is empty")
  else
    match env.getDMManager with
    | .error message => ret (.error message)
    | .ok () => uploadDevices env deviceMappingMap deviceOfflineConfigMap
        ((90 - 30) / (sequence.length : ℤ)) 0 sequence

/-! ### The accounts -/

/-- `getDeviceDefaultAccount` -/
def getDeviceDefaultAccount (profiles : List DeviceProfile) (device : Device) :
    Except String UserAccount :=
  match profiles.find? (·.id == device.deviceProfileId) with
  | none =>
    .error (s!"The DeviceProfileId({device.deviceProfileId}) not exists at the " ++
      "DeviceProfilesWithDefaultDeviceConfig")
  | some profile =>
    match (profile.userAccountTables.value 0).accounts["admin"]? with
    | some account => .ok account
    | none => .ok { username := "admin", password := "moxa" }

/-- The connection account of one device in `syncDevicesUserAccount`. -/
def connectionAccount (profiles : List DeviceProfile) (userAccountTables : QMap ℤ UserAccountTable)
    (device : Device) : Except String Account :=
  match userAccountTables[device.id]? with
  | some table =>
    match table.accounts[table.syncConnectionAccount]? with
    | some account => .ok { username := account.username, password := account.password }
    | none =>
      .error s!"The specified connection account({table.syncConnectionAccount}) does not exist"
  | none => do
    let account ← getDeviceDefaultAccount profiles device
    return { username := account.username, password := account.password }

/-- `updateProjectDevice`: the first device with this id. -/
def updateProjectDevice (devices : List Device) (device : Device) : List Device :=
  match devices.findIdx? (·.id == device.id) with
  | some i => devices.set i device
  | none => devices

/-- `syncDevicesUserAccount`, with the devices of the project afterwards. -/
def syncDevicesUserAccount (env : Environment) (devices : List Device)
    (userAccountTables : QMap ℤ UserAccountTable) (deviceIds : List ℤ) :
    Except String (List Device) :=
  match env.getDeviceProfiles with
  | .error failure =>
    .error s!"Failed to get device profile with default device conig:{failure.errorMessage}"
  | .ok profiles =>
    deviceIds.foldlM (fun devices deviceId => do
      let device ← getProjectDeviceById devices deviceId
      let account ← connectionAccount profiles userAccountTables device
      return updateProjectDevice devices { device with account := account }) devices

/-! ### `Deploy` -/

/-- The ids to deploy: all devices when none is named. -/
def requestedIds (request : Request) (deployDevices : List ℤ) : List ℤ :=
  if request.deviceIds = [] then deployDevices else request.deviceIds

/-- What `Deploy` does with the devices that were found. -/
def deployFound (env : Environment) (devices : List Device)
    (deviceMappingMap deviceOfflineConfigMap : QMap ℤ String) : DeployFunc Unit := do
  let deviceIds := getNewDeployDeviceIdsByMappingMap env deviceMappingMap
  if deviceIds = [] then
    orFailed (.error "Not found devices")
  orFailed env.getDMManager
  orFailed (← setMAFDevicesSecret devices deviceMappingMap deviceIds)
  returnIfStopped env
  let sequence ← orFailed (deploySequence env devices deviceMappingMap)
  send (.progressResponse 30)
  returnIfStopped env
  let uploaded ← uploadDevicesOfflineConfig env deviceMappingMap deviceOfflineConfigMap sequence
  returnIfStopped env
  orFailed uploaded
  -- the tables are those of a device configuration that was just declared
  let devices ← orFailed (syncDevicesUserAccount env devices ∅ deviceIds)
  orCoreFailed (env.updateProjectDevices devices)
  send .completedResponse

/-- `Deploy` after the status of the project was set. -/
def deployBody (env : Environment) (request : Request) : DeployFunc Unit := do
  let devices ← orCoreFailed env.getProject
  let deviceIpSettingTables ← orCoreFailed env.getProjectDeviceConfig
  let deployDevices ← orCoreFailed env.getProjectDeployDevices
  send (.progressResponse 10)
  returnIfStopped env
  orFailed env.getNetCache
  let deviceIds := requestedIds request deployDevices
  let deviceOfflineConfigMap ← orCoreFailed (env.generateDevicesOfflineConfig deviceIds)
  let deviceMappingMap ← orFailed (deviceSearch env request devices deviceIds deviceIpSettingTables)
  send (.progressResponse 20)
  returnIfStopped env
  checkDevicesExists deviceMappingMap 25 deviceIds
  deployFound env devices deviceMappingMap deviceOfflineConfigMap

/-- The deferred function of `Deploy`. -/
def respondIfStopped (env : Environment) : DeployFunc Unit := do
  if ← stopFlag env then
    send (.failedResponse stopStatusCode "Deployment has been stopped by user request")

/-- `Deploy` -/
def deploy (env : Environment) (request : Request) : DeployFunc Unit := do
  orCoreFailed env.updateProjectStatus
  deferring (deployBody env request) fun _ => respondIfStopped env

end Deploy
end Sebastian

/-
# Links and used interfaces

`core/src/act_core_link.cpp`: creating, updating and deleting links.  The links
are a `QSet` whose comparison holds between links that share the id or any
endpoint, and every device interface carries a flag `used` that is recomputed
for the endpoints of the links that changed.

Every successful operation keeps two things together (`LinkTable`): no two
links compare equal, and a flag is set exactly when some link ends there.  A
change of the links makes at most the flags of the removed and the inserted
link stale, and `SetUsedInterface` repairs one of them without touching another
(`UsedExcept.setUsedInterface`).  A run of operations therefore keeps the link
table exact (`linkTable_of_run`).
-/

import Sebastian.Lib.Except
import Sebastian.Project
import Sebastian.Status

namespace Sebastian
namespace Core

open ExceptRule QSet Set

variable {device : Device} {oriLink link link' : Link}

/-! ### The operations -/

/-- `GenerateUniqueId`, the search: at most that many ids are tried. -/
def searchUniqueId (taken : ℤ → Bool) : ℕ → ℤ → Option ℤ
  | 0, _ => none
  | tries + 1, id =>
    let id := if id = 0x8000 then 50001 else id
    if taken id then searchUniqueId taken tries (id + 1) else some id

/-- `GenerateUniqueId`.  The ids start at 50001; 65535 of them are tried. -/
def generateUniqueId (taken : ℤ → Bool) (lastAssignedId : ℤ) : Option ℤ :=
  let id := lastAssignedId + 1
  searchUniqueId taken 65535 (if id < 50001 then 50001 else id)

/-- `GetDeviceIp` -/
def getDeviceIp (project : Project) (deviceId : ℤ) : String :=
  ((project.getDeviceById deviceId).map (·.ipAddress)).getD ""

/-- `GetDeviceAndInterfacePair`: the devices and interfaces at the two ends. -/
def getDeviceAndInterfacePair (project : Project) (link : Link) :
    Except Status (Device × Device × Interface × Interface) :=
  match project.getDeviceById link.sourceDeviceId with
  | none => .error (.badRequest ⟨"Source device %1 not found", [.int link.sourceDeviceId]⟩)
  | some srcDev =>
  match project.getDeviceById link.destinationDeviceId with
  | none =>
    .error (.badRequest ⟨"Destination device %1 not found", [.int link.destinationDeviceId]⟩)
  | some dstDev =>
  match srcDev.interfaces.find? (·.interfaceId == link.sourceInterfaceId) with
  | none =>
    .error (.badRequest ⟨"Interface %1 in source device %2 not found",
      [.int link.sourceInterfaceId, .str srcDev.ipAddress]⟩)
  | some srcIntf =>
  match dstDev.interfaces.find? (·.interfaceId == link.destinationInterfaceId) with
  | none =>
    .error (.badRequest ⟨"Interface %1 in destination device %2 not found",
      [.int link.destinationInterfaceId, .str dstDev.ipAddress]⟩)
  | some dstIntf => .ok (srcDev, dstDev, srcIntf, dstIntf)

/-- The device types whose links are not checked for their speed. -/
def DeviceType.skipsSpeedCheck : DeviceType → Bool
  | .icmp => true
  | .unknown => true
  | .moxa => true
  | _ => false

/-- `CheckLink` -/
def checkLink (project : Project) (link : Link) : Except Status Unit :=
  match getDeviceAndInterfacePair project link with
  | .error status => .error status
  | .ok (srcDev, dstDev, srcIntf, dstIntf) =>
    if DeviceType.skipsSpeedCheck srcDev.deviceType ||
        DeviceType.skipsSpeedCheck dstDev.deviceType then .ok ()
    else if !srcIntf.supportSpeeds.contains (link.speed.toNat : ℤ) ||
        !dstIntf.supportSpeeds.contains (link.speed.toNat : ℤ) then
      .error (.badRequest
        ⟨"Project (%1) - The link speed %2 doesn't supported by both side %3(%4) & %5(%6)",
          [.str project.projectName, .int link.speed.toNat, .str srcDev.ipAddress,
            .str srcIntf.interfaceName, .str dstDev.ipAddress, .str dstIntf.interfaceName]⟩)
    else .ok ()

/-- The device with the flag of an interface recomputed from the links. -/
def refreshUsed (project : Project) (deviceId interfaceId : ℤ) (device : Device) : Device :=
  { device with
    interfaces := device.interfaces.map fun intf =>
      if intf.interfaceId = interfaceId then
        { intf with used := (project.getLinkByInterfaceId deviceId interfaceId).isSome }
      else intf }

/-- `SetUsedInterface`: the device is taken out of the set, refreshed and put
back. -/
def setUsedInterface (project : Project) (deviceId interfaceId : ℤ) : Project :=
  match project.devices.find { id := deviceId } with
  | none => project
  | some device =>
    { project with
      devices := (project.devices.remove { id := deviceId }).insert
        (refreshUsed project deviceId interfaceId device) }

/-- `UpdateDeviceByLink`, without the notifications it sends. -/
def updateDeviceByLink (link : Link) (project : Project) : Project :=
  setUsedInterface (setUsedInterface project link.sourceDeviceId link.sourceInterfaceId)
    link.destinationDeviceId link.destinationInterfaceId

/-- `UpdateTrafficStreamSetting`.  (`%1` is the stream printed as JSON.) -/
def updateTrafficStreamSetting (project : Project) (stream : TrafficStream) :
    Except Status Project :=
  let setting := project.trafficDesign.streamSetting
  match setting.find stream with
  | none => .error (.notFound ⟨"The traffic per-stream priority %1", [.int stream.id]⟩)
  | some _ =>
    .ok { project with trafficDesign :=
      { project.trafficDesign with streamSetting := (setting.remove stream).insert stream } }

/-- `DeleteTrafficStreamSetting` -/
def deleteTrafficStreamSetting (project : Project) (streamId : ℤ) : Except Status Project :=
  let setting := project.trafficDesign.streamSetting
  match setting.find { id := streamId } with
  | none => .error (.notFound ⟨"The traffic stream %1", [.int streamId]⟩)
  | some _ =>
    .ok { project with trafficDesign :=
      { project.trafficDesign with streamSetting := setting.remove { id := streamId } } }

/-- Where a link leads an endpoint of a stream that lost its own. -/
inductive Relocation where
  /-- To this interface of an end station. -/
  | moved (place : TrafficStreamInterface)
  /-- To an end station without such an interface. -/
  | unmatched
  /-- To no end station at all. -/
  | gone

/-- The end station of this id. -/
def endStationById (project : Project) (deviceId : ℤ) : Option Device :=
  (project.getDeviceById deviceId).filter fun device =>
    device.deviceType = .endStation ∨ device.deviceType = .bridgedEndStation

/-- The search for the new place of a talker or listener: the source end of the
link first, then its destination end. -/
def relocate (project : Project) (link : Link) : Relocation :=
  let at' (device : Device) (interfaceId : ℤ) : Relocation :=
    match device.interfaces.find? (·.interfaceId == interfaceId) with
    | some intf => .moved ⟨intf.deviceId, intf.interfaceId⟩
    | none => .unmatched
  match endStationById project link.sourceDeviceId with
  | some device => at' device link.sourceInterfaceId
  | none =>
    match endStationById project link.destinationDeviceId with
    | some device => at' device link.destinationInterfaceId
    | none => .gone

/-- One round of the loop of `UpdateStreamByLink`. -/
def updateStreamByLinkStep (oriLink updateLink : Link) (project : Project)
    (stream : TrafficStream) : Except Status Project :=
  if oriLink.hasEndpoint stream.talker.deviceId stream.talker.interfaceId then
    match relocate project updateLink with
    | .moved place => updateTrafficStreamSetting project { stream with talker := place }
    | .unmatched => .ok project
    | .gone => deleteTrafficStreamSetting project stream.id
  else
    match stream.listeners.find? fun l => oriLink.hasEndpoint l.deviceId l.interfaceId with
    | none => .ok project
    | some listener =>
      match relocate project updateLink with
      -- the new place is written to a copy of the listener
      | .moved _ => updateTrafficStreamSetting project stream
      | .unmatched => .ok project
      | .gone =>
        let listeners := stream.listeners.remove listener
        if listeners.isEmpty then deleteTrafficStreamSetting project stream.id
        else updateTrafficStreamSetting project { stream with listeners := listeners }

/-- `UpdateStreamByLink` -/
def updateStreamByLink (oriLink updateLink : Link) (project : Project) : Except Status Project :=
  project.trafficDesign.streamSetting.foldlM (updateStreamByLinkStep oriLink updateLink) project

/-- The addresses of both ends are filled in from the devices. -/
def withDeviceIps (project : Project) (link : Link) : Link :=
  { link with
    sourceDeviceIp := getDeviceIp project link.sourceDeviceId
    destinationDeviceIp := getDeviceIp project link.destinationDeviceId }

/-- "Check link port is already used or not" -/
def checkLinkPort (links : QSet Link) (link : Link) : Except Status Unit :=
  match links.find link with
  | some existLink =>
    .error (.badRequest ⟨"Link already exists between %1:%2 and %3:%4",
      [.str existLink.sourceDeviceIp, .int existLink.sourceInterfaceId,
        .str existLink.destinationDeviceIp, .int existLink.destinationInterfaceId]⟩)
  | none => .ok ()

/-- The id a link without one is given, with the counter it is taken from. -/
def assignLinkId (project : Project) (link : Link) : Except Status (Link × Project) :=
  if link.id = -1 then
    match generateUniqueId (fun id => (project.links.find { id := id }).isSome)
        project.lastAssignedLinkId with
    | none => .error (.badRequest ⟨"Cannot get an available unique id", []⟩)
    | some id => .ok ({ link with id := id }, { project with lastAssignedLinkId := id })
  else .ok (link, project)

/-- `CreateLink`: the link as it was stored, and the project. -/
def createLink (project : Project) (link : Link) : Except Status (Link × Project) := do
  checkLink project link
  let (link, project) ← assignLinkId project link
  let link := withDeviceIps project link
  checkLinkPort project.links link
  return (link, updateDeviceByLink link { project with links := project.links.insert link })

/-- `CreateLinks`: the ids of the created links, and the project. -/
def createLinks (project : Project) (linkList : List Link) : Except Status (List ℤ × Project) :=
  if linkList.isEmpty then .error (.badRequest ⟨"Link list is empty", []⟩)
  else
    linkList.foldlM (fun (created, project) link => do
      let (link, project) ← createLink project link
      return (created ++ [link.id], project)) ([], project)

/-- `UpdateLink` -/
def updateLink (project : Project) (link : Link) : Except Status Project := do
  checkLink project link
  let link := withDeviceIps project link
  match project.links.find link with
  | some origLink =>
    let links := project.links.remove link
    checkLinkPort links link
    updateStreamByLink origLink link
      (updateDeviceByLink link
        (updateDeviceByLink origLink { project with links := links.insert link }))
  | none =>
    let (_, project) ← createLink project link
    return project

/-- `UpdateLinks` -/
def updateLinks (project : Project) (linkList : List Link) : Except Status Project :=
  if linkList.isEmpty then .error (.badRequest ⟨"Link list is empty", []⟩)
  else linkList.foldlM updateLink project

/-- `DeleteLink` -/
def deleteLink (project : Project) (linkId : ℤ) : Except Status Project :=
  match project.getLinkById linkId with
  | none =>
    .error (.badRequest ⟨"Delete link failed, cannot found link id %1", [.int linkId]⟩)
  | some link => do
    let project ← updateStreamByLink link {} { project with links := project.links.remove link }
    return updateDeviceByLink link project

/-- `DeleteLinks` -/
def deleteLinks (project : Project) (linkIds : List ℤ) : Except Status Project :=
  if linkIds.isEmpty then .error (.badRequest ⟨"Link id list is empty", []⟩)
  else linkIds.foldlM deleteLink project

/-! ### The ids -/

theorem searchUniqueId_spec {taken : ℤ → Bool} {tries : ℕ} {id found : ℤ} (hid : 50001 ≤ id)
    (h : searchUniqueId taken tries id = some found) : taken found = false ∧ 50001 ≤ found := by
  induction tries generalizing id with
  | zero => cases h
  | succ tries ih =>
    have hinside : ¬id = 0x8000 := by omega
    rw [searchUniqueId] at h
    simp only [if_neg hinside] at h
    split_ifs at h with htaken
    · exact ih (by omega) h
    · cases h
      exact ⟨by simpa using htaken, hid⟩

theorem generateUniqueId_spec {taken : ℤ → Bool} {lastAssignedId id : ℤ}
    (h : generateUniqueId taken lastAssignedId = some id) : taken id = false ∧ 50001 ≤ id := by
  refine searchUniqueId_spec ?_ h
  split_ifs <;> omega

/-! ### Comparing links -/

/-- Two links compare equal when they share the id or an endpoint. -/
theorem link_beq_iff {x y : Link} : (x == y) = true ↔
    x.id = y.id ∨ ∃ d i, x.hasEndpoint d i = true ∧ y.hasEndpoint d i = true := by
  simp only [BEq.beq, Link.hasEndpoint, Bool.or_eq_true, Bool.and_eq_true, decide_eq_true_eq]
  constructor
  · rintro ((((h | h) | h) | h) | h)
    · exact Or.inl h
    · exact Or.inr ⟨_, _, Or.inl ⟨rfl, rfl⟩, Or.inl ⟨h.1.symm, h.2.symm⟩⟩
    · exact Or.inr ⟨_, _, Or.inr ⟨rfl, rfl⟩, Or.inr ⟨h.1.symm, h.2.symm⟩⟩
    · exact Or.inr ⟨_, _, Or.inl ⟨rfl, rfl⟩, Or.inr ⟨h.1.symm, h.2.symm⟩⟩
    · exact Or.inr ⟨_, _, Or.inr ⟨rfl, rfl⟩, Or.inl ⟨h.1.symm, h.2.symm⟩⟩
  · rintro (h | ⟨d, i, ⟨rfl, rfl⟩ | ⟨rfl, rfl⟩, ⟨h, h'⟩ | ⟨h, h'⟩⟩)
    · exact Or.inl (Or.inl (Or.inl (Or.inl h)))
    · exact Or.inl (Or.inl (Or.inl (Or.inr ⟨h.symm, h'.symm⟩)))
    · exact Or.inl (Or.inr ⟨h.symm, h'.symm⟩)
    · exact Or.inr ⟨h.symm, h'.symm⟩
    · exact Or.inl (Or.inl (Or.inr ⟨h.symm, h'.symm⟩))

theorem link_beq_self (x : Link) : (x == x) = true := link_beq_iff.2 (Or.inl rfl)

theorem link_beq_comm (x y : Link) : (x == y) = (y == x) := by
  rw [Bool.eq_iff_iff, link_beq_iff, link_beq_iff, eq_comm]
  simp only [and_comm]

/-! ### The flags -/

/-- The set of devices as the program keeps it: no two share the id or the
address, and every device has an address (`CheckDevice`). -/
structure DevicesWellFormed (devices : QSet Device) : Prop where
  distinct : devices.Distinct
  address : ∀ device ∈ devices, device.ipAddress ≠ ""

/-- Every flag outside `stale` tells whether a link ends at its interface. -/
def UsedExcept (stale : Set (ℤ × ℤ)) (project : Project) : Prop :=
  ∀ device ∈ project.devices, ∀ intf ∈ device.interfaces,
    (device.id, intf.interfaceId) ∉ stale →
      (intf.used = true ↔ ∃ link ∈ project.links, link.hasEndpoint device.id intf.interfaceId =
        true)

variable {project project' : Project} {deviceId interfaceId : ℤ} {stale : Set (ℤ × ℤ)}

theorem device_beq_iff {x y : Device} :
    (x == y) = true ↔ x.id = y.id ∨ x.ipAddress = y.ipAddress := by
  simp [BEq.beq]

theorem device_beq_self (x : Device) : (x == x) = true := device_beq_iff.2 (Or.inl rfl)

theorem device_beq_comm (x y : Device) : (x == y) = (y == x) := by
  rw [Bool.eq_iff_iff, device_beq_iff, device_beq_iff, eq_comm, @eq_comm _ x.ipAddress]

theorem DevicesWellFormed.id_of_find {devices : QSet Device} (h : DevicesWellFormed devices)
    (hfind : devices.find { id := deviceId } = some device) :
    device ∈ devices ∧ device.id = deviceId := by
  obtain ⟨hmem, hbeq⟩ := mem_of_find hfind
  refine ⟨hmem, ?_⟩
  rcases device_beq_iff.1 hbeq with hid | hip
  · exact hid
  · exact absurd hip (h.address device hmem)

theorem DevicesWellFormed.eq_of_id {devices : QSet Device} (h : DevicesWellFormed devices)
    {x y : Device} (hx : x ∈ devices) (hy : y ∈ devices) (hid : x.id = y.id) : x = y :=
  h.distinct.eq_of_beq device_beq_comm hx hy (device_beq_iff.2 (Or.inl hid))

theorem DevicesWellFormed.getDeviceById (h : DevicesWellFormed project.devices)
    (hdev : device ∈ project.devices) (hid : device.id = deviceId) :
    project.getDeviceById deviceId = some device := by
  unfold Project.getDeviceById
  cases hfind : project.devices.find { id := deviceId } with
  | none =>
    have hmiss := contains_eq_false.1 (find_eq_none.1 hfind) device hdev
    have hsame : (device == { id := deviceId }) = true := device_beq_iff.2 (Or.inl hid)
    rw [hsame] at hmiss
    cases hmiss
  | some other =>
    obtain ⟨hother, hid'⟩ := h.id_of_find hfind
    rw [h.eq_of_id hother hdev (hid'.trans hid.symm)]

@[simp] theorem refreshUsed_id (device : Device) :
    (refreshUsed project deviceId interfaceId device).id = device.id := rfl

@[simp] theorem refreshUsed_ipAddress (device : Device) :
    (refreshUsed project deviceId interfaceId device).ipAddress = device.ipAddress := rfl

@[simp] theorem setUsedInterface_links :
    (setUsedInterface project deviceId interfaceId).links = project.links := by
  unfold setUsedInterface
  split <;> rfl

/-- **`SetUsedInterface` refreshes one device and leaves the others alone.** -/
theorem mem_devices_setUsedInterface (h : DevicesWellFormed project.devices) :
    device ∈ (setUsedInterface project deviceId interfaceId).devices ↔
      ∃ d ∈ project.devices, device =
        if d.id = deviceId then refreshUsed project deviceId interfaceId d else d := by
  unfold setUsedInterface
  cases hfind : project.devices.find { id := deviceId } with
  | none =>
    have hne : ∀ d ∈ project.devices, d.id ≠ deviceId := by
      intro d hd hid
      have hbeq := contains_eq_false.1 (find_eq_none.1 hfind) d hd
      rw [device_beq_iff.2 (Or.inl hid)] at hbeq
      cases hbeq
    constructor
    · intro hd
      exact ⟨device, hd, by rw [if_neg (hne device hd)]⟩
    · rintro ⟨d, hd, rfl⟩
      rwa [if_neg (hne d hd)]
  | some found =>
    obtain ⟨hmem, hid⟩ := h.id_of_find hfind
    have hother : ∀ d ∈ project.devices, d ≠ found → d.id ≠ deviceId := fun d hd hne hid' =>
      hne (h.eq_of_id hd hmem (hid'.trans hid.symm))
    -- the refreshed device has the id and the address of the one that was taken out
    have hrepl : device ∈ (project.devices.remove { id := deviceId }).insert
        (refreshUsed project deviceId interfaceId found) ↔
          (device ∈ project.devices ∧ device ≠ found) ∨
            device = refreshUsed project deviceId interfaceId found := by
      refine mem_insert_remove_iff h.distinct device_beq_self device_beq_comm hfind ?_
      exact fun _ => rfl
    refine hrepl.trans ?_
    constructor
    · rintro (⟨hd, hne⟩ | rfl)
      · exact ⟨device, hd, by rw [if_neg (hother device hd hne)]⟩
      · exact ⟨found, hmem, by rw [if_pos hid]⟩
    · rintro ⟨d, hd, rfl⟩
      by_cases hne : d = found
      · subst hne
        rw [if_pos hid]
        exact Or.inr rfl
      · rw [if_neg (hother d hd hne)]
        exact Or.inl ⟨hd, hne⟩

theorem DevicesWellFormed.setUsedInterface (h : DevicesWellFormed project.devices) :
    DevicesWellFormed (setUsedInterface project deviceId interfaceId).devices where
  distinct := by
    unfold Core.setUsedInterface
    split
    · exact h.distinct
    · exact (h.distinct.remove _).insert _
  address device hd := by
    obtain ⟨d, hmem, rfl⟩ := (mem_devices_setUsedInterface h).1 hd
    split_ifs
    · exact h.address d hmem
    · exact h.address d hmem

/-- **A refresh repairs its flag and spoils none.** -/
theorem UsedExcept.setUsedInterface (hused : UsedExcept stale project)
    (h : DevicesWellFormed project.devices) (deviceId interfaceId : ℤ) :
    UsedExcept (stale \ {(deviceId, interfaceId)})
      (setUsedInterface project deviceId interfaceId) := by
  intro device hd intf hi hstale
  rw [setUsedInterface_links]
  obtain ⟨d, hmem, rfl⟩ := (mem_devices_setUsedInterface h).1 hd
  have hold : ∀ j ∈ d.interfaces, (d.id, j.interfaceId) ∉ stale \ {(deviceId, interfaceId)} →
      (d.id, j.interfaceId) ≠ (deviceId, interfaceId) →
      (j.used = true ↔ ∃ link ∈ project.links, link.hasEndpoint d.id j.interfaceId = true) :=
    fun j hj hns hne => hused d hmem j hj fun hs => hns ⟨hs, hne⟩
  by_cases hid : d.id = deviceId
  · rw [if_pos hid] at hi hstale ⊢
    obtain ⟨j, hj, rfl⟩ := List.mem_map.1 hi
    by_cases hii : j.interfaceId = interfaceId
    · rw [if_pos hii, refreshUsed_id, hid, hii]
      simp [Project.getLinkByInterfaceId]
    · rw [if_neg hii] at hstale ⊢
      exact hold j hj hstale fun e => hii (Prod.mk.inj e).2
  · rw [if_neg hid] at hi hstale ⊢
    exact hold intf hi hstale fun e => hid (Prod.mk.inj e).1

/-- The two ends of a link. -/
def linkEnds (link : Link) : Set (ℤ × ℤ) := {port | link.hasEndpoint port.1 port.2 = true}

theorem linkEnds_eq (link : Link) : linkEnds link =
    {(link.sourceDeviceId, link.sourceInterfaceId),
      (link.destinationDeviceId, link.destinationInterfaceId)} := by
  ext ⟨d, i⟩
  simp only [linkEnds, Link.hasEndpoint, mem_ofPred_eq, Bool.or_eq_true, Bool.and_eq_true,
    beq_iff_eq, mem_insert_iff, mem_singleton_iff, Prod.mk.injEq]
  simp only [eq_comm]

@[simp] theorem updateDeviceByLink_links (link : Link) :
    (updateDeviceByLink link project).links = project.links := by
  rw [updateDeviceByLink, setUsedInterface_links, setUsedInterface_links]

/-- `UpdateDeviceByLink` repairs the flags at both ends. -/
theorem UsedExcept.updateDeviceByLink (hused : UsedExcept stale project)
    (h : DevicesWellFormed project.devices) (link : Link) :
    UsedExcept (stale \ linkEnds link) (updateDeviceByLink link project) := by
  have hfirst := hused.setUsedInterface h link.sourceDeviceId link.sourceInterfaceId
  have hboth := hfirst.setUsedInterface h.setUsedInterface link.destinationDeviceId
    link.destinationInterfaceId
  rw [sdiff_sdiff, singleton_union] at hboth
  rw [linkEnds_eq]
  exact hboth

/-! ### The streams are all that `UpdateStreamByLink` changes -/

/-- Devices and links are the same, and the VLAN tables. -/
structure SameTopology (project project' : Project) : Prop where
  devices : project'.devices = project.devices
  links : project'.links = project.links
  vlanTables : project'.vlanTables = project.vlanTables

theorem updateTrafficStreamSetting_ok {stream : TrafficStream}
    (h : updateTrafficStreamSetting project stream = .ok project') :
    ∃ trafficDesign, project' = { project with trafficDesign := trafficDesign } := by
  simp only [updateTrafficStreamSetting] at h
  split at h
  · cases h
  · exact ⟨_, (Except.ok.inj h).symm⟩

theorem deleteTrafficStreamSetting_ok {streamId : ℤ}
    (h : deleteTrafficStreamSetting project streamId = .ok project') :
    ∃ trafficDesign, project' = { project with trafficDesign := trafficDesign } := by
  simp only [deleteTrafficStreamSetting] at h
  split at h
  · cases h
  · exact ⟨_, (Except.ok.inj h).symm⟩

theorem updateStreamByLinkStep_ok {updateLink : Link} {stream : TrafficStream}
    (h : updateStreamByLinkStep oriLink updateLink project stream = .ok project') :
    ∃ trafficDesign, project' = { project with trafficDesign := trafficDesign } := by
  have hunch : ∀ {p : Project}, (Except.ok project : Except Status Project) = .ok p →
      ∃ trafficDesign, p = { project with trafficDesign := trafficDesign } :=
    fun hp => ⟨project.trafficDesign, (Except.ok.inj hp).symm⟩
  unfold updateStreamByLinkStep at h
  split_ifs at h with htalker
  · split at h
    · exact updateTrafficStreamSetting_ok h
    · exact hunch h
    · exact deleteTrafficStreamSetting_ok h
  · split at h
    · exact hunch h
    · split at h
      · exact updateTrafficStreamSetting_ok h
      · exact hunch h
      · simp only at h
        split_ifs at h
        · exact deleteTrafficStreamSetting_ok h
        · exact updateTrafficStreamSetting_ok h

/-- **`UpdateStreamByLink` changes the streams alone.** -/
theorem updateStreamByLink_ok {updateLink : Link}
    (h : updateStreamByLink oriLink updateLink project = .ok project') :
    ∃ trafficDesign, project' = { project with trafficDesign := trafficDesign } := by
  refine foldlM_rule
    (I := fun p => ∃ trafficDesign, p = { project with trafficDesign := trafficDesign })
    h ⟨project.trafficDesign, rfl⟩ fun p p' stream hp hstep => ?_
  obtain ⟨_, rfl⟩ := hp
  obtain ⟨_, rfl⟩ := updateStreamByLinkStep_ok hstep
  exact ⟨_, rfl⟩

theorem sameTopology_updateStreamByLink {updateLink : Link}
    (h : updateStreamByLink oriLink updateLink project = .ok project') :
    SameTopology project project' := by
  obtain ⟨_, rfl⟩ := updateStreamByLink_ok h
  exact ⟨rfl, rfl, rfl⟩

/-! ### The link table -/

/-- **The link table:** no two links compare equal, and every flag outside
`stale` tells whether a link ends at its interface. -/
structure LinkTable (stale : Set (ℤ × ℤ)) (project : Project) : Prop where
  devices : DevicesWellFormed project.devices
  links : project.links.Distinct
  used : UsedExcept stale project

namespace LinkTable

theorem of_sameTopology (h : LinkTable stale project) (hsame : SameTopology project project') :
    LinkTable stale project' where
  devices := hsame.devices ▸ h.devices
  links := hsame.links ▸ h.links
  used := by
    unfold UsedExcept
    rw [hsame.devices, hsame.links]
    exact h.used

theorem mono {stale' : Set (ℤ × ℤ)} (h : LinkTable stale project) (hsub : stale ⊆ stale') :
    LinkTable stale' project where
  devices := h.devices
  links := h.links
  used device hd intf hi hstale := h.used device hd intf hi fun hin => hstale (hsub hin)

/-- A change of the links makes flags stale only where the answer changes. -/
theorem withLinks {stale' : Set (ℤ × ℤ)} (h : LinkTable stale' project) (hsub : stale' ⊆ stale)
    {links : QSet Link} (hlinks : links.Distinct)
    (hsame : ∀ link, ¬linkEnds link ⊆ stale → (link ∈ links ↔ link ∈ project.links)) :
    LinkTable stale { project with links := links } where
  devices := h.devices
  links := hlinks
  used := by
    intro device hd intf hi hstale
    rw [h.used device hd intf hi fun hin => hstale (hsub hin)]
    have hends : ∀ link : Link, link.hasEndpoint device.id intf.interfaceId = true →
        ¬linkEnds link ⊆ stale := fun link hlink hends => hstale (hends hlink)
    constructor
    · rintro ⟨link, hl, hlink⟩
      exact ⟨link, (hsame link (hends link hlink)).2 hl, hlink⟩
    · rintro ⟨link, hl, hlink⟩
      exact ⟨link, (hsame link (hends link hlink)).1 hl, hlink⟩

theorem updateDeviceByLink (h : LinkTable stale project) (link : Link) :
    LinkTable (stale \ linkEnds link) (updateDeviceByLink link project) where
  devices := h.devices.setUsedInterface.setUsedInterface
  links := by rw [updateDeviceByLink_links]; exact h.links
  used := h.used.updateDeviceByLink h.devices link

end LinkTable

theorem checkLinkPort_ok {links : QSet Link} {u : Unit} (h : checkLinkPort links link = .ok u) :
    links.contains link = false := by
  unfold checkLinkPort at h
  split at h
  · cases h
  · next hfind => exact find_eq_none.1 hfind

theorem assignLinkId_ok (h : assignLinkId project link = .ok (link', project')) :
    ∃ counter : ℤ, project' = { project with lastAssignedLinkId := counter } := by
  unfold assignLinkId at h
  split_ifs at h
  · split at h
    · cases h
    · obtain ⟨-, rfl⟩ := Prod.mk.inj (Except.ok.inj h)
      exact ⟨_, rfl⟩
  · obtain ⟨-, rfl⟩ := Prod.mk.inj (Except.ok.inj h)
    exact ⟨project.lastAssignedLinkId, rfl⟩

/-- `CreateLink` stores a link that compares equal to no other and refreshes the
devices at its ends. -/
theorem createLink_ok (h : createLink project link = .ok (link', project')) :
    project.links.contains link' = false ∧ ∃ counter : ℤ,
      project' = updateDeviceByLink link' { project with
        links := project.links.insert link', lastAssignedLinkId := counter } := by
  obtain ⟨-, -, h⟩ := exists_of_bind h
  obtain ⟨⟨l, p⟩, hid, h⟩ := exists_of_bind h
  dsimp only at h
  obtain ⟨_, hport, h⟩ := exists_of_bind h
  obtain ⟨counter, rfl⟩ := assignLinkId_ok hid
  cases h
  exact ⟨checkLinkPort_ok hport, counter, rfl⟩

theorem exists_of_createLink (h : createLink project link = .ok (link', project')) :
    ∃ p, SameTopology project p ∧ p.links.contains link' = false ∧
      project' = updateDeviceByLink link' { p with links := p.links.insert link' } := by
  obtain ⟨hfresh, counter, rfl⟩ := createLink_ok h
  exact ⟨{ project with lastAssignedLinkId := counter }, ⟨rfl, rfl, rfl⟩, hfresh, rfl⟩

/-! ### What an operation on a link leaves alone -/

/-- The links, their counter, the devices and the streams are all that changes. -/
def LinksChanged (project project' : Project) : Prop :=
  ∃ links counter devices trafficDesign, project' = { project with
    links := links
    lastAssignedLinkId := counter
    devices := devices
    trafficDesign := trafficDesign }

theorem LinksChanged.refl (project : Project) : LinksChanged project project :=
  ⟨project.links, project.lastAssignedLinkId, project.devices, project.trafficDesign, rfl⟩

theorem LinksChanged.trans {x y z : Project} (hxy : LinksChanged x y) (hyz : LinksChanged y z) :
    LinksChanged x z := by
  obtain ⟨_, _, _, _, rfl⟩ := hxy
  obtain ⟨_, _, _, _, rfl⟩ := hyz
  exact ⟨_, _, _, _, rfl⟩

theorem linksChanged_setUsedInterface (project : Project) (deviceId interfaceId : ℤ) :
    LinksChanged project (setUsedInterface project deviceId interfaceId) := by
  unfold setUsedInterface
  split
  · exact .refl project
  · exact ⟨project.links, project.lastAssignedLinkId, _, project.trafficDesign, rfl⟩

theorem linksChanged_updateDeviceByLink (link : Link) (project : Project) :
    LinksChanged project (updateDeviceByLink link project) :=
  (linksChanged_setUsedInterface project _ _).trans (linksChanged_setUsedInterface _ _ _)

theorem linksChanged_updateStreamByLink {updateLink : Link}
    (h : updateStreamByLink oriLink updateLink project = .ok project') :
    LinksChanged project project' := by
  obtain ⟨_, rfl⟩ := updateStreamByLink_ok h
  exact ⟨project.links, project.lastAssignedLinkId, project.devices, _, rfl⟩

theorem linksChanged_withLinks (project : Project) (links : QSet Link) (counter : ℤ) :
    LinksChanged project { project with links := links, lastAssignedLinkId := counter } :=
  ⟨links, counter, project.devices, project.trafficDesign, rfl⟩

theorem linksChanged_updateLink (h : updateLink project link = .ok project') :
    LinksChanged project project' := by
  obtain ⟨-, -, h⟩ := exists_of_bind h
  dsimp only at h
  generalize withDeviceIps project link = link at h
  split at h
  · obtain ⟨-, -, h⟩ := exists_of_bind h
    exact (((linksChanged_withLinks project _ project.lastAssignedLinkId).trans
      (linksChanged_updateDeviceByLink _ _)).trans (linksChanged_updateDeviceByLink _ _)).trans
        (linksChanged_updateStreamByLink h)
  · obtain ⟨⟨link', p⟩, hcreate, h⟩ := exists_of_bind h
    cases h
    obtain ⟨-, counter, rfl⟩ := createLink_ok hcreate
    exact (linksChanged_withLinks project _ counter).trans (linksChanged_updateDeviceByLink _ _)

theorem linksChanged_deleteLink {linkId : ℤ} (h : deleteLink project linkId = .ok project') :
    LinksChanged project project' := by
  unfold deleteLink at h
  split at h
  · cases h
  · obtain ⟨p, hstrms, h⟩ := exists_of_bind h
    cases h
    exact ((linksChanged_withLinks project _ project.lastAssignedLinkId).trans
      (linksChanged_updateStreamByLink hstrms)).trans (linksChanged_updateDeviceByLink _ _)

namespace LinkTable

theorem createLink (h : LinkTable stale project)
    (hok : createLink project link = .ok (link', project')) : LinkTable stale project' := by
  obtain ⟨p, hsame, hfresh, rfl⟩ := exists_of_createLink hok
  have hp := h.of_sameTopology hsame
  have hins : LinkTable (stale ∪ linkEnds link')
      { p with links := p.links.insert link' } := by
    refine hp.withLinks subset_union_left (hp.links.insert _) fun l hl => ?_
    rw [mem_insert_of_not_contains hfresh, or_iff_left]
    rintro rfl
    exact hl subset_union_right
  refine (hins.updateDeviceByLink link').mono ?_
  rw [union_sdiff_right]
  exact sdiff_subset

theorem updateLink (h : LinkTable ∅ project) (hok : updateLink project link = .ok project') :
    LinkTable ∅ project' := by
  obtain ⟨-, -, hok⟩ := exists_of_bind hok
  dsimp only at hok
  generalize withDeviceIps project link = link at hok
  split at hok
  · next origLink hfind =>
    obtain ⟨_, hport, hok⟩ := exists_of_bind hok
    refine of_sameTopology ?_ (sameTopology_updateStreamByLink hok)
    -- the replaced link and the new one may both have left flags stale
    have hrepl : LinkTable (linkEnds origLink ∪ linkEnds link)
        { project with links := (project.links.remove link).insert link } := by
      refine h.withLinks (empty_subset _) ((h.links.remove _).insert _) fun l hl => ?_
      rw [mem_insert_of_not_contains (checkLinkPort_ok hport),
        mem_remove_iff h.links link_beq_self hfind]
      have hne : l ≠ origLink := fun e => hl (e ▸ subset_union_left)
      have hne' : l ≠ link := fun e => hl (e ▸ subset_union_right)
      simp [hne, hne']
    have hrefreshed := (hrepl.updateDeviceByLink origLink).updateDeviceByLink link
    rwa [sdiff_sdiff, sdiff_self] at hrefreshed
  · obtain ⟨⟨link', p⟩, hcreate, hok⟩ := exists_of_bind hok
    cases hok
    exact h.createLink hcreate

theorem deleteLink (h : LinkTable stale project) {linkId : ℤ}
    (hok : deleteLink project linkId = .ok project') : LinkTable stale project' := by
  unfold Core.deleteLink at hok
  split at hok
  · cases hok
  · next link hfind =>
    obtain ⟨p, hstrms, hok⟩ := exists_of_bind hok
    cases hok
    -- the link that was found is in the set, so it is the one that is removed
    have hself : project.links.find link = some link :=
      find_of_mem h.links (link_beq_self link) link_beq_comm (mem_of_find hfind).1
    have hremd : LinkTable (stale ∪ linkEnds link)
        { project with links := project.links.remove link } := by
      refine h.withLinks subset_union_left (h.links.remove _) fun l hl => ?_
      rw [mem_remove_iff h.links link_beq_self hself, and_iff_left]
      rintro rfl
      exact hl subset_union_right
    refine ((hremd.of_sameTopology
      (sameTopology_updateStreamByLink hstrms)).updateDeviceByLink link).mono ?_
    rw [union_sdiff_right]
    exact sdiff_subset

theorem createLinks (h : LinkTable ∅ project) {linkList : List Link} {created : List ℤ}
    (hok : createLinks project linkList = .ok (created, project')) : LinkTable ∅ project' := by
  unfold Core.createLinks at hok
  split_ifs at hok
  refine foldlM_rule (I := fun c => LinkTable ∅ c.2) hok h ?_
  rintro ⟨ids, p⟩ ⟨ids', p'⟩ link hp hstep
  obtain ⟨⟨l, q⟩, hcreate, hstep⟩ := exists_of_bind hstep
  cases hstep
  exact hp.createLink hcreate

theorem updateLinks (h : LinkTable ∅ project) {linkList : List Link}
    (hok : updateLinks project linkList = .ok project') : LinkTable ∅ project' := by
  unfold Core.updateLinks at hok
  split_ifs at hok
  exact foldlM_rule hok h fun p p' link hp hstep => hp.updateLink hstep

theorem deleteLinks (h : LinkTable ∅ project) {linkIds : List ℤ}
    (hok : deleteLinks project linkIds = .ok project') : LinkTable ∅ project' := by
  unfold Core.deleteLinks at hok
  split_ifs at hok
  exact foldlM_rule hok h fun p p' linkId hp hstep => hp.deleteLink hstep

end LinkTable

/-! ### Runs of operations -/

/-- An operation on the links of a project. -/
inductive LinkRequest where
  | createLink (link : Link)
  | createLinks (linkList : List Link)
  | updateLink (link : Link)
  | updateLinks (linkList : List Link)
  | deleteLink (linkId : ℤ)
  | deleteLinks (linkIds : List ℤ)

namespace LinkRequest

/-- The project after the operation. -/
def exec (project : Project) : LinkRequest → Except Status Project
  | createLink link => (Core.createLink project link).map (·.2)
  | createLinks linkList => (Core.createLinks project linkList).map (·.2)
  | updateLink link => Core.updateLink project link
  | updateLinks linkList => Core.updateLinks project linkList
  | deleteLink linkId => Core.deleteLink project linkId
  | deleteLinks linkIds => Core.deleteLinks project linkIds

/-- Operations carried out one after the other, all with success. -/
inductive Run (project : Project) : Project → Prop
  | nil : Run project project
  | snoc {project' project'' : Project} {request : LinkRequest} :
      Run project project' → request.exec project' = .ok project'' → Run project project''

end LinkRequest

theorem LinkTable.exec (h : LinkTable ∅ project) {request : LinkRequest}
    (hok : request.exec project = .ok project') : LinkTable ∅ project' := by
  cases request with
  | createLink link =>
    obtain ⟨⟨l, p⟩, hcreate, hok⟩ := exists_of_map hok
    exact hok ▸ h.createLink hcreate
  | createLinks linkList =>
    obtain ⟨⟨ids, p⟩, hcreate, hok⟩ := exists_of_map hok
    exact hok ▸ h.createLinks hcreate
  | updateLink link => exact h.updateLink hok
  | updateLinks linkList => exact h.updateLinks hok
  | deleteLink linkId => exact h.deleteLink hok
  | deleteLinks linkIds => exact h.deleteLinks hok

/-- A project without links, as the program makes it: every flag that
`CreateDevice` computes is clear. -/
structure Unlinked (project : Project) : Prop where
  devices : DevicesWellFormed project.devices
  links : project.links = []
  unused : ∀ device ∈ project.devices, ∀ intf ∈ device.interfaces, intf.used = false

theorem LinkTable.of_unlinked (h : Unlinked project) : LinkTable ∅ project where
  devices := h.devices
  links := by rw [h.links]; exact List.Pairwise.nil
  used device hd intf hi _ := by
    rw [h.unused device hd intf hi, h.links]
    simp

/-- **The link table stays exact.**  Whatever links are created, updated and
deleted, one at a time or several at once, no two links have the same id or
share an endpoint, and an interface is marked as used exactly when a link ends
there. -/
theorem linkTable_of_run (h : Unlinked project) (hrun : LinkRequest.Run project project') :
    (project'.links.Pairwise fun x y => x.id ≠ y.id ∧
      ∀ deviceId interfaceId, ¬(x.hasEndpoint deviceId interfaceId = true ∧
        y.hasEndpoint deviceId interfaceId = true)) ∧
    ∀ device ∈ project'.devices, ∀ intf ∈ device.interfaces,
      (intf.used = true ↔
        ∃ link ∈ project'.links, link.hasEndpoint device.id intf.interfaceId = true) := by
  have htable : LinkTable ∅ project' := by
    induction hrun with
    | nil => exact LinkTable.of_unlinked h
    | snoc _ hok ih => exact ih.exec hok
  refine ⟨htable.links.imp fun {x y} hxy => ?_, fun device hd intf hi =>
    htable.used device hd intf hi (notMem_empty _)⟩
  have hne : ¬(x.id = y.id ∨ ∃ d i, x.hasEndpoint d i = true ∧ y.hasEndpoint d i = true) := by
    rw [← link_beq_iff, hxy]
    exact Bool.false_ne_true
  rw [not_or, not_exists] at hne
  exact ⟨hne.1, fun d i hdi => hne.2 d ⟨i, hdi⟩⟩

/-- Two switches with two ports each. -/
def twoSwitches : Project where
  devices :=
    [{ id := 1, ipAddress := "10.0.0.1", deviceType := .moxa,
       interfaces := [{ deviceId := 1, interfaceId := 1 }, { deviceId := 1, interfaceId := 2 }] },
     { id := 2, ipAddress := "10.0.0.2", deviceType := .moxa,
       interfaces := [{ deviceId := 2, interfaceId := 1 }, { deviceId := 2, interfaceId := 2 }] }]

/-- A cable between their second ports. -/
def cable : Link :=
  { sourceDeviceId := 1, sourceInterfaceId := 2, destinationDeviceId := 2,
    destinationInterfaceId := 2 }

theorem twoSwitches_unlinked : Unlinked twoSwitches where
  devices := ⟨by unfold QSet.Distinct twoSwitches; decide, by unfold twoSwitches; decide⟩
  links := rfl
  unused := by unfold twoSwitches; decide

/-- The cable can be plugged in, and then the ports with a cable are the used
ones. -/
theorem linkTable_of_run_twoSwitches : ∃ project,
    (LinkRequest.createLink cable).exec twoSwitches = .ok project ∧
    ∀ device ∈ project.devices, ∀ intf ∈ device.interfaces,
      (intf.used = true ↔
        ∃ link ∈ project.links, link.hasEndpoint device.id intf.interfaceId = true) := by
  obtain ⟨project, hok⟩ : ∃ project, (LinkRequest.createLink cable).exec twoSwitches =
      .ok project := ⟨_, rfl⟩
  exact ⟨project, hok, (linkTable_of_run twoSwitches_unlinked (.snoc .nil hok)).2⟩

end Core
end Sebastian

/-
# Histories of a project

The requests that build a topology up from nothing: those on devices, on groups of devices and on
the articles.  None of them makes a link or another group, so that the projects they lead to stay
without them (`Bare`).

What all of them keep is the order of the devices (`DevicesInOrder`): ids, addresses and the
numbers of the addresses are different, and the numbers are in use.  So an operation that stores a
device appends it, and one that removes a device takes out exactly that one.
-/

import Sebastian.Core.DeviceGroup

namespace Sebastian
namespace Core

open ExceptRule List

/-- A request on the devices, their groups or the articles of a project. -/
inductive DeviceRequest where
  | createDevice (device : Device) (fromBag : Bool)
  | updateDevice (device : Device)
  | deleteDevice (deviceId : ℤ)
  | deleteDevices (deviceIds : List ℤ) (toBag : Bool)
  | createGroup (readings : List ℕ) (group : Group)
  | updateGroup (group : Group)
  | deleteGroup (groupId : ℤ)
  | unGroup (groupId : ℤ)
  | updateSkuQuantity (request : QuantityMap)
  | deleteSkuQuantity (skuList : List String)

namespace DeviceRequest

/-- The project after the request. -/
def exec (services : DeviceServices) (fuel : ℕ) (project : Project) :
    DeviceRequest → Except Failure Project
  | .createDevice device fromBag => (Core.createDevice services project device fromBag).map (·.2)
  | .updateDevice device => (Core.updateDevice services fuel project device).map (·.2)
  | .deleteDevice deviceId => Core.deleteDevice services fuel project deviceId
  | .deleteDevices deviceIds toBag => Core.deleteDevices services fuel project deviceIds toBag
  | .createGroup readings group => Core.createGroup readings project group
  | .updateGroup group => Core.updateGroup project group
  | .deleteGroup groupId => Core.deleteGroup services fuel project groupId
  | .unGroup groupId => Core.unGroup project groupId
  | .updateSkuQuantity request => changeSkus project
      ((Core.updateSkuQuantity services.catalogue project.skuQuantitiesMap request).mapError
        (·, project.skuQuantitiesMap))
  | .deleteSkuQuantity skuList => changeSkus project
      ((Core.deleteSkuQuantity project.skuQuantitiesMap skuList).mapError
        (·, project.skuQuantitiesMap))

/-- The project came out of the first one by requests that succeeded, each of which met a condition
on the state before it. -/
inductive Run (services : DeviceServices) (fuel : ℕ) (Meets : Project → DeviceRequest → Prop)
    (start : Project) : Project → Prop
  | refl : Run services fuel Meets start start
  | step {project project' : Project} {request : DeviceRequest} :
      Run services fuel Meets start project → Meets project request →
      request.exec services fuel project = .ok project' → Run services fuel Meets start project'

/-- **From the step to the run.** -/
theorem Run.rule {services : DeviceServices} {fuel : ℕ} {Meets : Project → DeviceRequest → Prop}
    {start project : Project} {I : Project → Prop} (hstart : I start)
    (hstep : ∀ project project' (request : DeviceRequest), I project → Meets project request →
      request.exec services fuel project = .ok project' → I project')
    (h : Run services fuel Meets start project) : I project := by
  induction h with
  | refl => exact hstart
  | step _ hmeets hexec ih => exact hstep _ _ _ ih hmeets hexec

end DeviceRequest

/-- A project in which nothing was made yet. -/
structure NewProject (project : Project) : Prop extends Bare project where
  devices : project.devices = []
  usedIpAddresses : project.usedIpAddresses = []
  groups : project.groups = ∅
  skuQuantitiesMap : project.skuQuantitiesMap = ∅

/-! ### The order of the devices -/

/-- **The devices as the operations keep them.** -/
structure DevicesInOrder (addresses : AddressFormat) (devices : QSet Device)
    (used : QSet UInt32) : Prop where
  distinct : devices.Distinct
  valid : ∀ device ∈ devices, addresses.isNull device.ipAddress = false
  id_ne : ∀ device ∈ devices, device.id ≠ -1
  numbers : ∀ x ∈ devices, ∀ y ∈ devices,
    addresses.number x.ipAddress = addresses.number y.ipAddress → x = y
  used : ∀ device ∈ devices, used.contains (addresses.number device.ipAddress) = true

variable {addresses : AddressFormat} {devices : QSet Device} {used used' : QSet UInt32}
  {device device' : Device} {deviceId : ℤ}

theorem find_device_eq_none (hvalid : ∀ device ∈ devices, device.ipAddress ≠ "") :
    devices.find { id := deviceId } = none ↔ ∀ device ∈ devices, device.id ≠ deviceId := by
  rw [QSet.find_eq_none, QSet.contains_eq_false]
  refine forall₂_congr fun d hd => ?_
  rw [← Bool.not_eq_true, not_iff_not, device_beq_iff]
  exact ⟨fun h => h.resolve_right (hvalid d hd), .inl⟩

namespace DevicesInOrder

theorem wellFormed (h : DevicesInOrder addresses devices used) : DevicesWellFormed devices :=
  ⟨h.distinct, fun d hd => AddressFormat.ne_empty (h.valid d hd)⟩

theorem mono (h : DevicesInOrder addresses devices used)
    (hused : ∀ device ∈ devices, used'.contains (addresses.number device.ipAddress) = true) :
    DevicesInOrder addresses devices used' := { h with used := hused }

theorem contains_insert {number number' : UInt32} (h : used.contains number = true) :
    (used.insert number').contains number = true := by
  rw [QSet.contains_iff_mem] at h ⊢
  exact QSet.mem_insert.2 (.inl h)

theorem contains_insert_self (used : QSet UInt32) (number : UInt32) :
    (used.insert number).contains number = true :=
  QSet.contains_iff_mem.2 (QSet.mem_insert.2 (.inr rfl))

theorem contains_remove {number number' : UInt32} (hne : number ≠ number')
    (h : used.contains number = true) : (used.remove number').contains number = true := by
  rw [QSet.contains_iff_mem] at h ⊢
  exact (mem_eraseP_of_neg (by simpa using hne)).2 h

/-- A device with an id and an address of its own is appended. -/
theorem append (h : DevicesInOrder addresses devices used)
    (hvalid : addresses.isNull device.ipAddress = false) (hid : device.id ≠ -1)
    (hids : ∀ x ∈ devices, x.id ≠ device.id)
    (hnumbers : ∀ x ∈ devices, addresses.number x.ipAddress ≠ addresses.number device.ipAddress)
    (hused : used.contains (addresses.number device.ipAddress) = true) :
    devices.insert device = devices ++ [device] ∧
      DevicesInOrder addresses (devices ++ [device]) used := by
  have hapart : ∀ x ∈ devices, (x == device) = false := by
    intro x hx
    rw [← Bool.not_eq_true, device_beq_iff]
    rintro (hsame | hsame)
    · exact hids x hx hsame
    · exact hnumbers x hx (by rw [hsame])
  have hins : devices.insert device = devices ++ [device] :=
    QSet.insert_of_not_contains (QSet.contains_eq_false.2 hapart)
  refine ⟨hins, ?_⟩
  refine ⟨hins ▸ h.distinct.insert device, ?_, ?_, ?_, ?_⟩ <;>
    simp only [mem_append, mem_singleton]
  · rintro x (hx | rfl)
    · exact h.valid x hx
    · exact hvalid
  · rintro x (hx | rfl)
    · exact h.id_ne x hx
    · exact hid
  · rintro x (hx | rfl) y (hy | rfl) hxy
    · exact h.numbers x hx y hy hxy
    · exact absurd hxy (hnumbers x hx)
    · exact absurd hxy.symm (hnumbers y hy)
    · rfl
  · rintro x (hx | rfl)
    · exact h.used x hx
    · exact hused

/-- **A device that is stored** under an id of its own is appended. -/
theorem insert {services : DeviceServices} (h : DevicesInOrder services.addresses devices used)
    (hplaced : Placed services devices used device device')
    (hids : ∀ x ∈ devices, x.id ≠ device'.id) : devices.insert device' = devices ++ [device'] ∧
      DevicesInOrder services.addresses (devices ++ [device'])
        (used.insert (services.addresses.number device'.ipAddress)) := by
  refine append (h.mono fun x hx => contains_insert (h.used x hx)) hplaced.valid ?_ hids ?_
    (contains_insert_self _ _)
  · by_cases hid : device.id = -1
    · have hlow := (hplaced.id_of_eq hid).2
      omega
    · rw [hplaced.id_of_ne hid]
      exact hid
  · intro x hx hsame
    have hx' := h.used x hx
    rw [hsame, hplaced.unused] at hx'
    cases hx'

/-- A device that is looked up and taken out leaves the others as they were. -/
theorem remove (h : DevicesInOrder addresses devices used)
    (hfind : devices.find { id := deviceId } = some device) :
    ∃ l₁ l₂, devices = l₁ ++ device :: l₂ ∧ devices.remove { id := deviceId } = l₁ ++ l₂ ∧
      device.id = deviceId ∧ DevicesInOrder addresses (l₁ ++ l₂) used ∧
      (∀ x ∈ l₁ ++ l₂, x.id ≠ device.id) ∧
      ∀ x ∈ l₁ ++ l₂, addresses.number x.ipAddress ≠ addresses.number device.ipAddress := by
  obtain ⟨l₁, l₂, hsplit, hrem⟩ := QSet.exists_append_of_find hfind
  obtain ⟨hmem, hid⟩ := h.wellFormed.id_of_find hfind
  have hsub : ∀ x ∈ l₁ ++ l₂, x ∈ devices ∧ x ≠ device := by
    intro x hx
    rw [← hrem] at hx
    exact (QSet.mem_remove_iff h.distinct device_beq_self hfind).1 hx
  refine ⟨l₁, l₂, hsplit, hrem, hid, ⟨?_, fun x hx => h.valid x (hsub x hx).1,
    fun x hx => h.id_ne x (hsub x hx).1,
    fun x hx y hy hxy => h.numbers x (hsub x hx).1 y (hsub y hy).1 hxy,
    fun x hx => h.used x (hsub x hx).1⟩, fun x hx hsame => ?_, fun x hx hsame => ?_⟩
  · rw [← hrem]
    exact h.distinct.remove _
  · exact (hsub x hx).2 (h.wellFormed.eq_of_id (hsub x hx).1 hmem hsame)
  · exact (hsub x hx).2 (h.numbers x (hsub x hx).1 device hmem hsame)

/-- Taking out a device that was looked up takes out the one of its id. -/
theorem remove_eq (h : DevicesInOrder addresses devices used)
    (hfind : devices.find { id := deviceId } = some device) :
    devices.remove device = devices.remove { id := deviceId } := by
  obtain ⟨hmem, hid⟩ := h.wellFormed.id_of_find hfind
  refine QSet.remove_congr fun x hx => ?_
  rw [Bool.eq_iff_iff, device_beq_iff, device_beq_iff]
  constructor
  · rintro (hsame | hsame)
    · exact .inl (hsame.trans hid)
    · exact .inl (by rw [h.numbers x hx device hmem (by rw [hsame])]; exact hid)
  · rintro (hsame | hsame)
    · exact .inl (hsame.trans hid.symm)
    · exact absurd hsame (AddressFormat.ne_empty (h.valid x hx))

end DevicesInOrder

/-! ### What the operations do to the devices -/

/-- No links, and the devices in order: what every history keeps. -/
structure Plain (services : DeviceServices) (project : Project) : Prop extends Bare project where
  devices : DevicesInOrder services.addresses project.devices project.usedIpAddresses

variable {services : DeviceServices} {fuel : ℕ} {project project' rest : Project}
  {fromBag toBag : Bool}

theorem NewProject.plain (h : NewProject project) (services : DeviceServices) :
    Plain services project where
  toBare := h.toBare
  devices := by
    rw [h.devices]
    exact ⟨List.Pairwise.nil, by simp, by simp, by simp, by simp⟩

/-- `CreateDevice` is storing the device and counting its articles. -/
theorem createDevice_ok (hbare : Bare project)
    (h : createDevice services project device fromBag = .ok (device', project')) :
    ∃ (stored : Project) (skus : SkuMap), Entered services project device device' stored ∧
      updateSkuQuantityByAddDevice services.catalogue project.skuQuantitiesMap device' fromBag =
        .ok skus ∧ project' = { stored with skuQuantitiesMap := skus } := by
  obtain ⟨⟨entered, stored⟩, henter, h⟩ := exists_of_bind h
  obtain ⟨counted, hcount, h⟩ := exists_of_bind h
  cases h
  have hent := enterDevice_ok hbare henter
  obtain ⟨skus, hskus, rfl⟩ := changeSkus_eq_ok.1 hcount
  refine ⟨stored, skus, hent, ?_, rfl⟩
  obtain ⟨counter, vlanTables, rstpTables, rfl⟩ := hent.project
  exact hskus

/-- `UpdateDevice` is replacing the device and counting the difference. -/
theorem updateDevice_ok (hbare : Bare project)
    (h : updateDevice services fuel project device = .ok (device', project')) :
    ∃ (stored : Project) (skus : SkuMap),
      Replaced services (takeDevice services project device.id).1
        (takeDevice services project device.id).2 device device' stored ∧
      updateSkuQuantityByUpdateDevice services.catalogue project.skuQuantitiesMap
        (takeDevice services project device.id).1 device' = .ok skus ∧
      project' = { stored with skuQuantitiesMap := skus } := by
  obtain ⟨⟨entered, stored⟩, henter, h⟩ := exists_of_bind h
  obtain ⟨counted, hcount, h⟩ := exists_of_bind h
  cases h
  have hrepl := replaceDevice_ok hbare henter
  obtain ⟨skus, hskus, rfl⟩ := changeSkus_eq_ok.1 hcount
  refine ⟨stored, skus, hrepl, ?_, rfl⟩
  obtain ⟨counter, vlanTables, rstpTables, rfl⟩ := hrepl.project
  have hkept : (takeDevice services project device.id).2.skuQuantitiesMap =
      project.skuQuantitiesMap := by
    unfold takeDevice
    split <;> rfl
  rw [← hkept]
  exact hskus

/-- `DeleteDevice` is removing the device and counting its articles no more. -/
theorem deleteDevice_ok (hbare : Bare project)
    (h : deleteDevice services fuel project deviceId = .ok project') :
    ∃ (device : Device) (skus : SkuMap), project.getDeviceById deviceId = some device ∧
      updateSkuQuantityByDeleteDevice services.catalogue project.skuQuantitiesMap device false =
        .ok skus ∧
      project' = { removeDevice services project device with
        groups := strikeMember project.groups device.groupId device.id
        vlanTables := project.vlanTables.erase deviceId
        rstpTables := project.rstpTables.erase deviceId
        skuQuantitiesMap := skus } := by
  obtain ⟨⟨device, stored⟩, hwithdraw, h⟩ := exists_of_bind h
  obtain ⟨hfound, rfl⟩ := withdrawDevice_ok hbare hwithdraw
  obtain ⟨skus, hskus, rfl⟩ := changeSkus_eq_ok.1 h
  exact ⟨device, skus, hfound, hskus, rfl⟩

/-- A device that is created is appended, unless its id is in use. -/
theorem Entered.stored (h : Entered services project device device' project')
    (horder : DevicesInOrder services.addresses project.devices project.usedIpAddresses) :
    DevicesInOrder services.addresses project'.devices project'.usedIpAddresses ∧
      (((∀ x ∈ project.devices, x.id ≠ device'.id) ∧
          project'.devices = project.devices ++ [device']) ∨
        (∃ x ∈ project.devices, x.id = device'.id) ∧ project'.devices = project.devices) := by
  obtain ⟨counter, vlanTables, rstpTables, rfl⟩ := h.project
  unfold insertDevice
  dsimp only
  by_cases hids : ∀ x ∈ project.devices, x.id ≠ device'.id
  · obtain ⟨hins, hin⟩ := horder.insert h.placed hids
    rw [hins]
    exact ⟨hin, .inl ⟨hids, rfl⟩⟩
  · push Not at hids
    obtain ⟨x, hx, hid⟩ := hids
    have hcont : project.devices.contains device' = true := by
      rw [← Bool.not_eq_false, QSet.contains_eq_false]
      intro hnone
      have hmiss := hnone x hx
      rw [device_beq_iff.2 (.inl hid)] at hmiss
      cases hmiss
    rw [QSet.insert, if_pos hcont]
    exact ⟨horder.mono fun y hy => DevicesInOrder.contains_insert (horder.used y hy),
      .inr ⟨⟨x, hx, hid⟩, rfl⟩⟩

/-- **What is taken out before an update**, and what remains. -/
theorem takeDevice_spec
    (horder : DevicesInOrder services.addresses project.devices project.usedIpAddresses)
    (deviceId : ℤ) :
    DevicesInOrder services.addresses (takeDevice services project deviceId).2.devices
        (takeDevice services project deviceId).2.usedIpAddresses ∧
      (∀ x ∈ (takeDevice services project deviceId).2.devices, x.id ≠ deviceId) ∧
      (((∀ x ∈ project.devices, x.id ≠ deviceId) ∧
          takeDevice services project deviceId = ({}, project)) ∨
        ∃ l₁ deleted l₂, project.devices = l₁ ++ deleted :: l₂ ∧ deleted.id = deviceId ∧
          takeDevice services project deviceId = (deleted, { project with
            devices := l₁ ++ l₂
            usedCoordinates := project.usedCoordinates.remove deleted.coordinate
            usedIpAddresses := project.usedIpAddresses.remove
              (services.addresses.number deleted.ipAddress) })) := by
  unfold takeDevice
  cases hfound : project.getDeviceById deviceId with
  | none =>
    have hids := (find_device_eq_none horder.wellFormed.address).1 hfound
    exact ⟨horder, hids, .inl ⟨hids, rfl⟩⟩
  | some deleted =>
    obtain ⟨l₁, l₂, hsplit, hrem, hid, hin, hids, hnumbers⟩ := horder.remove hfound
    dsimp only
    rw [hrem]
    exact ⟨hin.mono fun x hx => DevicesInOrder.contains_remove (hnumbers x hx) (hin.used x hx),
      fun x hx => by rw [← hid]; exact hids x hx, .inr ⟨l₁, deleted, l₂, hsplit, hid, rfl⟩⟩

/-- A device that is updated is appended to the others. -/
theorem Replaced.stored {deleted : Device}
    (h : Replaced services deleted rest device device' project')
    (horder : DevicesInOrder services.addresses rest.devices rest.usedIpAddresses)
    (hids : ∀ x ∈ rest.devices, x.id ≠ device.id) :
    DevicesInOrder services.addresses project'.devices project'.usedIpAddresses ∧
      (∀ x ∈ rest.devices, x.id ≠ device'.id) ∧ project'.devices = rest.devices ++ [device'] := by
  have hown : ∀ x ∈ rest.devices, x.id ≠ device'.id := by
    by_cases hid : device.id = -1
    · exact (find_device_eq_none horder.wellFormed.address).1 (h.placed.id_of_eq hid).1
    · rw [h.placed.id_of_ne hid]
      exact hids
  obtain ⟨counter, vlanTables, rstpTables, rfl⟩ := h.project
  obtain ⟨hins, hin⟩ := horder.insert h.placed hown
  unfold insertDevice
  dsimp only
  rw [hins]
  exact ⟨hin, hown, rfl⟩

/-- **A device that is removed** leaves the others as they were. -/
theorem removeDevice_devices
    (horder : DevicesInOrder services.addresses project.devices project.usedIpAddresses)
    (hfound : project.getDeviceById deviceId = some device) :
    DevicesInOrder services.addresses (removeDevice services project device).devices
        (removeDevice services project device).usedIpAddresses ∧
      ∃ l₁ l₂, project.devices = l₁ ++ device :: l₂ ∧ device.id = deviceId ∧
        (removeDevice services project device).devices = l₁ ++ l₂ ∧
        ∀ x ∈ l₁ ++ l₂, x.id ≠ deviceId := by
  obtain ⟨l₁, l₂, hsplit, hrem, hid, hin, hids, hnumbers⟩ := horder.remove hfound
  unfold removeDevice
  dsimp only
  rw [horder.remove_eq hfound, hrem]
  exact ⟨hin.mono fun x hx => DevicesInOrder.contains_remove (hnumbers x hx) (hin.used x hx),
    l₁, l₂, hsplit, hid, rfl, fun x hx => by rw [← hid]; exact hids x hx⟩

/-- **A device that goes to another group** leaves the others as they were. -/
theorem regroupDevice_ok {parentId : ℤ}
    (horder : DevicesInOrder services.addresses project.devices project.usedIpAddresses)
    (h : regroupDevice parentId project deviceId = .ok project') :
    ∃ l₁ device l₂, project.devices = l₁ ++ device :: l₂ ∧ device.id = deviceId ∧
      (parentId ≠ -1 → project.groups.contains parentId = true) ∧
      project' = { project with
        devices := l₁ ++ l₂ ++ [{ device with groupId := parentId }]
        groups := enterMember project.groups parentId deviceId } ∧
      DevicesInOrder services.addresses project'.devices project'.usedIpAddresses := by
  unfold regroupDevice at h
  cases hfound : project.getDeviceById deviceId with
  | none => simp [hfound] at h
  | some device =>
    obtain ⟨l₁, l₂, hsplit, hrem, hid, hin, hids, hnumbers⟩ := horder.remove hfound
    have hmem : device ∈ project.devices := by
      rw [hsplit]
      simp
    obtain ⟨hins, hafter⟩ := @DevicesInOrder.append _ _ _ { device with groupId := parentId } hin
      (horder.valid device hmem) (horder.id_ne device hmem) hids hnumbers (horder.used device hmem)
    rw [hfound] at h
    dsimp only at h
    rw [hrem, hins] at h
    refine ⟨l₁, device, l₂, hsplit, hid, ?_⟩
    split_ifs at h with hnone hcont
    · cases h
      rw [enterMember, if_pos hnone]
      exact ⟨fun hne => absurd hnone hne, rfl, hafter⟩
    · cases h
      exact ⟨fun _ => hcont, rfl, hafter⟩

/-! ### What the operations do to the groups -/

/-- What `CheckGroup` makes sure of. -/
structure GroupChecked (groups : QMap ℤ Group) (group : Group) : Prop where
  name : ∀ existing, groups.vals.find? (·.name == group.name) = some existing →
    existing.id = group.id
  parent : group.parentId ≠ -1 → groups.contains group.parentId = true

theorem checkGroup_ok {group : Group} {u : Unit} (h : checkGroup project group = .ok u) :
    GroupChecked project.groups group := by
  unfold checkGroup at h
  split_ifs at h with hempty hlen hname hparent
  refine ⟨fun existing hfound => ?_, fun hne => ?_⟩
  · rw [hfound] at hname
    simpa using hname
  · by_contra hcont
    exact hparent ⟨hne, Bool.eq_false_of_not_eq_true hcont⟩

theorem createGroup_ok {readings : List ℕ} {group : Group}
    (h : createGroup readings project group = .ok project') :
    GroupChecked project.groups group ∧ ∃ id : ℤ, (group.id ≠ -1 → id = group.id) ∧
      (group.id = -1 → project.groups.contains id = false ∧ 0 ≤ id) ∧
      project' = { project with groups := project.groups.insert id { group with id := id } } := by
  obtain ⟨⟨⟩, hcheck, h⟩ := exists_of_bind h
  obtain ⟨id, hid, h⟩ := exists_of_bind h
  rw [atProject_eq_ok] at hcheck
  rw [orStuck_eq_ok] at hid
  cases h
  refine ⟨checkGroup_ok hcheck, id, fun hne => ?_, fun heq => ?_, rfl⟩
  · rw [if_neg hne] at hid
    exact (Option.some.inj hid).symm
  · rw [if_pos heq, unusedTimestamp] at hid
    have hmem := mem_of_find?_eq_some hid
    obtain ⟨now, -, rfl⟩ := mem_map.1 hmem
    have hfree := find?_some hid
    exact ⟨by simpa using hfree, by omega⟩

theorem updateGroup_ok {group : Group} (h : updateGroup project group = .ok project') :
    GroupChecked project.groups group ∧ project.groups.contains group.id = true ∧
      project' = { project with groups := project.groups.insert group.id group } := by
  obtain ⟨⟨⟩, hcheck, h⟩ := exists_of_bind h
  rw [atProject_eq_ok] at hcheck h
  split_ifs at h with hcont
  cases h
  exact ⟨checkGroup_ok hcheck, hcont, rfl⟩

/-- `DeleteGroup` deletes the devices of the groups it collects, and then these groups. -/
theorem deleteGroup_ok {groupId : ℤ} (hbare : Bare project)
    (h : deleteGroup services fuel project groupId = .ok project') :
    ∃ (groupIds : List ℤ) (rest : Project) (vlanTables : QMap ℤ VlanTable)
      (rstpTables : QMap ℤ RstpTable), project.groups.contains groupId = true ∧
      groupsToDelete project.groups groupId = some groupIds ∧
      (devicesToDelete project.groups groupIds).foldlM (deleteDevicesStep services false) project =
        .ok rest ∧
      project' = { rest with
        groups := groupIds.foldl (fun groups id => groups.erase id) rest.groups
        vlanTables := vlanTables, rstpTables := rstpTables } := by
  obtain ⟨⟨⟩, hcheck, h⟩ := exists_of_bind h
  obtain ⟨groupIds, hgroups, h⟩ := exists_of_bind h
  obtain ⟨cleared, hdevs, h⟩ := exists_of_bind h
  rw [atProject_eq_ok] at hcheck
  rw [orStuck_eq_ok] at hgroups
  cases h
  have hcont : project.groups.contains groupId = true := by
    by_contra hnot
    rw [if_neg hnot] at hcheck
    cases hcheck
  unfold deleteGroupDevices at hdevs
  split_ifs at hdevs with hempty
  · cases hdevs
    refine ⟨groupIds, project, _, _, hcont, hgroups, ?_, rfl⟩
    rw [isEmpty_iff.1 hempty]
    rfl
  · obtain ⟨-, rest, hrest, rfl⟩ := (deleteDevices_eq_ok hbare).1 hdevs
    obtain ⟨vlanTables, rstpTables, htables⟩ := foldl_deleteDeviceDeviceConfig
      (devicesToDelete project.groups groupIds) rest
    rw [htables]
    exact ⟨groupIds, rest, vlanTables, rstpTables, hcont, hgroups, hrest, rfl⟩

theorem unGroup_ok {groupId : ℤ} (h : unGroup project groupId = .ok project') :
    ∃ (group : Group) (rest : Project), project.groups[groupId]? = some group ∧
      group.deviceIds.foldlM (regroupDevice group.parentId) project = .ok rest ∧
      project' = { rest with
        groups := (moveSubgroups rest.groups groupId group.parentId).erase groupId } := by
  unfold unGroup at h
  cases hgroup : project.groups[groupId]? with
  | none => simp [hgroup] at h
  | some group =>
    rw [hgroup] at h
    obtain ⟨rest, hrest, h⟩ := exists_of_bind h
    cases h
    exact ⟨group, rest, rfl, hrest, rfl⟩

/-! ### What every request keeps -/

theorem Plain.deleteDevicesStep (h : Plain services project)
    (hstep : deleteDevicesStep services toBag project deviceId = .ok project') :
    Plain services project' := by
  have hbare := bare_deleteDevicesStep h.toBare hstep
  obtain ⟨device, skus, hfound, -, rfl⟩ := deleteDevicesStep_ok hstep
  exact ⟨hbare, (removeDevice_devices h.devices hfound).1⟩

theorem Plain.regroupDevice {parentId : ℤ} (h : Plain services project)
    (hstep : regroupDevice parentId project deviceId = .ok project') : Plain services project' := by
  obtain ⟨l₁, device, l₂, -, -, -, rfl, horder⟩ := regroupDevice_ok h.devices hstep
  exact ⟨⟨h.links, h.rstpGroups, h.vlanGroups, h.managementInterfaces⟩, horder⟩

/-- **Every request that succeeds** keeps the project free of links and its devices in order. -/
theorem Plain.exec (h : Plain services project) {request : DeviceRequest}
    (hexec : request.exec services fuel project = .ok project') : Plain services project' := by
  have hskus : ∀ skus : SkuMap, Plain services { project with skuQuantitiesMap := skus } :=
    fun skus => ⟨⟨h.links, h.rstpGroups, h.vlanGroups, h.managementInterfaces⟩, h.devices⟩
  have hgroups : ∀ groups : QMap ℤ Group, Plain services { project with groups := groups } :=
    fun groups => ⟨⟨h.links, h.rstpGroups, h.vlanGroups, h.managementInterfaces⟩, h.devices⟩
  have hloop : ∀ (deviceIds : List ℤ) (toBag : Bool) (rest : Project),
      deviceIds.foldlM (Core.deleteDevicesStep services toBag) project = .ok rest →
        Plain services rest := fun deviceIds toBag rest hrest =>
    foldlM_rule hrest h fun _ _ _ hplain hstep => hplain.deleteDevicesStep hstep
  cases request with
  | createDevice device fromBag =>
    obtain ⟨⟨device', _⟩, hcreate, rfl⟩ := exists_of_map hexec
    obtain ⟨stored, skus, hent, -, rfl⟩ := createDevice_ok h.toBare hcreate
    have hin := (hent.stored h.devices).1
    obtain ⟨counter, vlanTables, rstpTables, rfl⟩ := hent.project
    exact ⟨⟨h.links, h.rstpGroups, h.vlanGroups, h.managementInterfaces⟩, hin⟩
  | updateDevice device =>
    obtain ⟨⟨device', _⟩, hupd, rfl⟩ := exists_of_map hexec
    obtain ⟨stored, skus, hrepl, -, rfl⟩ := updateDevice_ok h.toBare hupd
    obtain ⟨hrest, hids, -⟩ := takeDevice_spec h.devices device.id
    have hin := (hrepl.stored hrest hids).1
    have hbare := @bare_takeDevice services _ h.toBare device.id
    obtain ⟨counter, vlanTables, rstpTables, rfl⟩ := hrepl.project
    exact ⟨⟨hbare.links, hbare.rstpGroups, hbare.vlanGroups, hbare.managementInterfaces⟩, hin⟩
  | deleteDevice deviceId =>
    obtain ⟨device, skus, hfound, -, rfl⟩ := deleteDevice_ok h.toBare hexec
    exact ⟨⟨h.links, h.rstpGroups, h.vlanGroups, h.managementInterfaces⟩,
      (removeDevice_devices h.devices hfound).1⟩
  | deleteDevices deviceIds toBag =>
    obtain ⟨-, rest, hrest, rfl⟩ := (deleteDevices_eq_ok h.toBare).1 hexec
    have hplain := hloop deviceIds toBag rest hrest
    obtain ⟨vlanTables, rstpTables, htables⟩ := foldl_deleteDeviceDeviceConfig deviceIds rest
    rw [htables]
    exact ⟨⟨hplain.links, hplain.rstpGroups, hplain.vlanGroups, hplain.managementInterfaces⟩,
      hplain.devices⟩
  | createGroup readings group =>
    obtain ⟨-, id, -, -, rfl⟩ := createGroup_ok hexec
    exact hgroups _
  | updateGroup group =>
    obtain ⟨-, -, rfl⟩ := updateGroup_ok hexec
    exact hgroups _
  | deleteGroup groupId =>
    obtain ⟨groupIds, rest, vlanTables, rstpTables, -, -, hrest,
      rfl⟩ := deleteGroup_ok h.toBare hexec
    have hplain := hloop _ _ rest hrest
    exact ⟨⟨hplain.links, hplain.rstpGroups, hplain.vlanGroups, hplain.managementInterfaces⟩,
      hplain.devices⟩
  | unGroup groupId =>
    obtain ⟨group, rest, -, hrest, rfl⟩ := unGroup_ok hexec
    have hplain : Plain services rest :=
      foldlM_rule hrest h fun _ _ _ hplain hstep => hplain.regroupDevice hstep
    exact ⟨⟨hplain.links, hplain.rstpGroups, hplain.vlanGroups, hplain.managementInterfaces⟩,
      hplain.devices⟩
  | updateSkuQuantity request =>
    obtain ⟨skus, -, rfl⟩ := changeSkus_eq_ok.1 hexec
    exact hskus skus
  | deleteSkuQuantity skuList =>
    obtain ⟨skus, -, rfl⟩ := changeSkus_eq_ok.1 hexec
    exact hskus skus

/-! ### Runs that are listed -/

/-- The project after the requests, if all of them succeed. -/
def DeviceRequest.execAll (services : DeviceServices) (fuel : ℕ) :
    Project → List DeviceRequest → Option Project
  | project, [] => some project
  | project, request :: requests =>
    match request.exec services fuel project with
    | .ok project' => execAll services fuel project' requests
    | .error _ => none

/-- A list of requests that succeed and meet a condition, each in its state, is a run. -/
theorem DeviceRequest.run_of_execAll {Meets : Project → DeviceRequest → Prop} {start : Project}
    {requests : List DeviceRequest} (hrun : DeviceRequest.Run services fuel Meets start project)
    (hmeets : ∀ request ∈ requests, ∀ project, Meets project request)
    (h : DeviceRequest.execAll services fuel project requests = some project') :
    DeviceRequest.Run services fuel Meets start project' := by
  induction requests generalizing project with
  | nil =>
    cases h
    exact hrun
  | cons request requests ih =>
    rw [execAll] at h
    cases hexec : request.exec services fuel project with
    | error e => rw [hexec] at h; cases h
    | ok next =>
      rw [hexec] at h
      exact ih (hrun.step (hmeets request mem_cons_self project) hexec)
        (fun r hr => hmeets r (mem_cons_of_mem _ hr)) h

/-- Two addresses are known. -/
def twoAddresses : AddressFormat where
  isNull text := !(text == "10.0.0.1" || text == "10.0.0.2")
  toText text := text
  toIPv4 text := if text = "10.0.0.1" then 0x0A000001 else if text = "10.0.0.2" then 0x0A000002 else 0
  ofIPv4 number := if number = 0x0A000001 then "10.0.0.1" else "10.0.0.2"
  isNull_empty := by decide

/-- A core that knows one switch, which is in the general profiles. -/
def oneModel : DeviceServices where
  addresses := twoAddresses
  deviceProfiles :=
    [{ id := 1, deviceType := .switch, property := { modelName := "TSN-G5004" },
       interfaces := [{ interfaceName := "1", supportSpeeds := [1000] }] }]
  catalogue :=
    { generalProfileMap := (∅ : QMap String SkuWithPrice).insert "TSN-G5004"
        { modelName := "TSN-G5004", l1Category := .switches } }

theorem newProject_default : NewProject {} := ⟨⟨rfl, rfl, rfl, rfl⟩, rfl, rfl, rfl, rfl⟩

end Core
end Sebastian

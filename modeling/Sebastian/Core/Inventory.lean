/-
# The articles of a history

Whether the counts of the articles agree with the topology after a history of requests
(`core/src/act_core_device.cpp`, `core/src/act_core_service_profile.cpp`).

They do as long as each request is `Accountable`: what comes from the bag is in the bag, an update
changes the uses of every article by what `CalculateDelta` finds between the two module lists, and
no device is created under the id of another one.  Then no request is refused for an article either
(`inventory_of_run`).  The program checks none of this; taking a second piece of an article of which
one was bought is enough to use more pieces than there are (`not_inventory_of_run`).
-/

import Mathlib
import Sebastian.Core.DeviceHistory

namespace Sebastian
namespace Core

open ExceptRule List

variable {services : DeviceServices} {fuel : ℕ} {project project' : Project}
  {device device' : Device} {deviceId : ℤ} {fromBag toBag : Bool} {catalogue : Catalogue}

/-! ### What all devices use -/

/-- How many pieces of an article the devices use together. -/
def inTopology (catalogue : Catalogue) (devices : List Device) (sku : String) : ℤ :=
  (devices.map fun device => uses catalogue device sku).sum

/-- **The counts agree with the topology.** -/
def InventoryAgrees (services : DeviceServices) (project : Project) : Prop :=
  AllTracked project.skuQuantitiesMap (inTopology services.catalogue project.devices)

theorem uses_nonneg (catalogue : Catalogue) (device : Device) (sku : String) :
    0 ≤ uses catalogue device sku := by
  rw [uses_eq_add]
  have hmodel := modelUses_nonneg catalogue device sku
  have hmods := moduleUses_nonneg catalogue device sku
  omega

theorem inTopology_nonneg (catalogue : Catalogue) (devices : List Device) (sku : String) :
    0 ≤ inTopology catalogue devices sku := by
  refine sum_nonneg fun n hn => ?_
  obtain ⟨device, -, rfl⟩ := mem_map.1 hn
  exact uses_nonneg catalogue device sku

theorem inTopology_append (catalogue : Catalogue) (l₁ l₂ : List Device) (sku : String) :
    inTopology catalogue (l₁ ++ l₂) sku =
      inTopology catalogue l₁ sku + inTopology catalogue l₂ sku := by
  rw [inTopology, map_append, sum_append]
  rfl

theorem inTopology_cons (catalogue : Catalogue) (device : Device) (l : List Device) (sku : String) :
    inTopology catalogue (device :: l) sku =
      uses catalogue device sku + inTopology catalogue l sku := rfl

@[simp] theorem inTopology_nil (catalogue : Catalogue) (sku : String) :
    inTopology catalogue [] sku = 0 := rfl

theorem inTopology_remove (catalogue : Catalogue) (l₁ l₂ : List Device) (device : Device)
    (sku : String) : inTopology catalogue (l₁ ++ device :: l₂) sku =
      inTopology catalogue (l₁ ++ l₂) sku + uses catalogue device sku := by
  rw [inTopology_append, inTopology_append, inTopology_cons]
  omega

/-- The same model with the same modules. -/
structure SameArticles (device device' : Device) : Prop where
  property : device'.deviceProperty = device.deviceProperty
  modules : device'.modularConfiguration = device.modularConfiguration

theorem SameArticles.uses (h : SameArticles device device') (catalogue : Catalogue)
    (sku : String) : uses catalogue device' sku = uses catalogue device sku := by
  unfold Core.uses moduleCount
  rw [h.property, h.modules]

theorem SameArticles.moduleUses (h : SameArticles device device') (catalogue : Catalogue)
    (sku : String) : moduleUses catalogue device' sku = moduleUses catalogue device sku := by
  unfold Core.moduleUses moduleCount
  rw [h.property, h.modules]

theorem SameArticles.moduleDelta (h : SameArticles device device') (catalogue : Catalogue)
    (old : Device) (sku : String) :
    moduleDelta catalogue old device' sku = moduleDelta catalogue old device sku := by
  unfold Core.moduleDelta accessoryMap generateAccessoryMap
  rw [h.modules]

theorem SameArticles.modulesTracked {skus : SkuMap} {old : Device}
    (h : SameArticles device device') (htracked : ModulesTracked catalogue skus old device) :
    ModulesTracked catalogue skus old device' where
  delta sku := by
    rw [h.moduleUses, h.moduleDelta]
    exact htracked.delta sku
  bag sku hpos := by
    rw [h.moduleDelta] at hpos ⊢
    exact htracked.bag sku hpos

/-! ### The condition -/

/-- The device that an update finds: the stored one, or a new `ActDevice`. -/
def deviceToUpdate (project : Project) (deviceId : ℤ) : Device :=
  (project.getDeviceById deviceId).getD {}

/-- **A request that keeps the counts**, in this state of the project. -/
def Accountable (services : DeviceServices) (project : Project) : DeviceRequest → Prop
  | .createDevice device fromBag =>
    let profiled := profiledDevice services device
    (device.id = -1 ∨ project.getDeviceById device.id = none ∨
      services.catalogue.lists profiled.deviceProperty.modelName = false) ∧
    (fromBag = true → ∀ sku, 0 < uses services.catalogue profiled sku →
      BagHolds services.catalogue sku project.skuQuantitiesMap[sku]?
        (uses services.catalogue profiled sku))
  | .updateDevice device =>
    ModulesTracked services.catalogue project.skuQuantitiesMap
      (deviceToUpdate project device.id) (profiledDevice services device) ∧
    (project.getDeviceById device.id = none → services.catalogue.lists "" = false)
  | _ => True

/-- **No device is refused for its articles**: what passes the other checks of an operation passes
the operation.  The modules of a catalogued model have to be in the catalogues, and only a
catalogued model comes from the bag or goes there. -/
structure NotRefused (services : DeviceServices) (fuel : ℕ) (project : Project) : Prop where
  create : ∀ device fromBag device' stored, Accountable services project
    (.createDevice device fromBag) →
    enterDevice services project device = .ok (device', stored) →
    (services.catalogue.lists device'.deviceProperty.modelName = true →
      ModulesKnown services.catalogue device') →
    (fromBag = true → services.catalogue.lists device'.deviceProperty.modelName = true) →
    ∃ project', createDevice services project device fromBag = .ok (device', project')
  update : ∀ device device' stored, Accountable services project (.updateDevice device) →
    replaceDevice services fuel project device = .ok (device', stored) →
    ∃ project', updateDevice services fuel project device = .ok (device', project')
  delete : ∀ deviceId device stored,
    withdrawDevice services fuel project deviceId = .ok (device, stored) →
    (services.catalogue.lists device.deviceProperty.modelName = true →
      ModulesKnown services.catalogue device) →
    ∃ project', deleteDevice services fuel project deviceId = .ok project'
  deleteAll : ∀ deviceIds toBag, deviceIds ≠ [] → deviceIds.Nodup →
    (∀ deviceId ∈ deviceIds, ∃ device, project.getDeviceById deviceId = some device ∧
      (services.catalogue.lists device.deviceProperty.modelName = true →
        ModulesKnown services.catalogue device) ∧
      (toBag = true → services.catalogue.lists device.deviceProperty.modelName = true)) →
    ∃ project', deleteDevices services fuel project deviceIds toBag = .ok project'

/-! ### One request -/

theorem modulesKnown_of_generate {counts : QuantityMap × QuantityMap}
    (h : generateSkuQuantityFromDevice catalogue device = .ok counts) :
    ModulesKnown catalogue device := by
  obtain ⟨accessories, hmods, -⟩ := exists_of_bind h
  exact ⟨accessories, hmods⟩

theorem addDevice_checked {skus skus' : SkuMap}
    (h : updateSkuQuantityByAddDevice catalogue skus device fromBag = .ok skus') :
    (catalogue.lists device.deviceProperty.modelName = true → ModulesKnown catalogue device) ∧
      (fromBag = true → catalogue.lists device.deviceProperty.modelName = true) := by
  unfold updateSkuQuantityByAddDevice at h
  dsimp only at h
  cases hlisted : catalogue.lists device.deviceProperty.modelName with
  | false =>
    refine ⟨nofun, fun hbag => ?_⟩
    simp [hlisted, hbag] at h
  | true =>
    refine ⟨fun _ => ?_, fun _ => rfl⟩
    cases hgenerate : generateSkuQuantityFromDevice catalogue device with
    | ok counts => exact modulesKnown_of_generate hgenerate
    | error e => simp [hlisted, hgenerate] at h

theorem deleteDevice_checked {skus skus' : SkuMap}
    (h : updateSkuQuantityByDeleteDevice catalogue skus device toBag = .ok skus') :
    (catalogue.lists device.deviceProperty.modelName = true → ModulesKnown catalogue device) ∧
      (toBag = true → catalogue.lists device.deviceProperty.modelName = true) := by
  unfold updateSkuQuantityByDeleteDevice at h
  dsimp only at h
  cases hlisted : catalogue.lists device.deviceProperty.modelName with
  | false =>
    refine ⟨nofun, fun hbag => ?_⟩
    simp [hlisted, hbag] at h
  | true =>
    refine ⟨fun _ => ?_, fun _ => rfl⟩
    cases hgenerate : generateSkuQuantityFromDevice catalogue device with
    | ok counts => exact modulesKnown_of_generate hgenerate
    | error e => simp [hlisted, hgenerate] at h

theorem takeDevice_fst (services : DeviceServices) (project : Project) (deviceId : ℤ) :
    (takeDevice services project deviceId).1 = deviceToUpdate project deviceId := by
  unfold takeDevice deviceToUpdate
  cases project.getDeviceById deviceId <;> rfl

theorem Placed.sameArticles {devices : QSet Device} {used : QSet UInt32}
    (h : Placed services devices used device device') :
    SameArticles (profiledDevice services device) device' := ⟨h.property, h.modules⟩

variable (hplain : Plain services project) (h : InventoryAgrees services project)
include hplain h

/-- **Creating a device** that the bag or the shop provides for. -/
theorem inventory_createDevice {stored : Project}
    (hmeets : Accountable services project (.createDevice device fromBag))
    (hent : Entered services project device device' stored)
    (hknown : services.catalogue.lists device'.deviceProperty.modelName = true →
      ModulesKnown services.catalogue device')
    (hlisted : fromBag = true → services.catalogue.lists device'.deviceProperty.modelName = true) :
    ∃ skus : SkuMap,
      updateSkuQuantityByAddDevice services.catalogue project.skuQuantitiesMap device'
        fromBag = .ok skus ∧ AllTracked skus (inTopology services.catalogue stored.devices) := by
  have hsame := hent.placed.sameArticles
  obtain ⟨hid, hbag⟩ := hmeets
  obtain ⟨skus, hok, htracks⟩ := updateSkuQuantityByAddDevice_tracks h hknown fun hfrom =>
    ⟨hlisted hfrom, fun sku hpos => by
      rw [hsame.uses] at hpos ⊢
      exact hbag hfrom sku hpos⟩
  refine ⟨skus, hok, fun sku => ?_⟩
  have hsku := htracks sku
  dsimp only at hsku
  have hcount : inTopology services.catalogue stored.devices sku =
      inTopology services.catalogue project.devices sku + uses services.catalogue device' sku := by
    rcases (hent.stored hplain.devices).2 with ⟨-, hdevs⟩ | ⟨⟨x, hx, hxid⟩, hdevs⟩
    · rw [hdevs, inTopology_append, inTopology_cons, inTopology_nil]
      omega
    · -- the id is in use, so that the model is not in the general profiles
      have hunlisted : services.catalogue.lists device'.deviceProperty.modelName = false := by
        have hvalid := hplain.devices.wellFormed.address
        rcases hid with hid | hid | hid
        · exact absurd hxid ((find_device_eq_none hvalid).1 (hent.placed.id_of_eq hid).1 x hx)
        · have hne : device.id ≠ -1 := fun heq => by
            have hnone := (find_device_eq_none hvalid).1 (hent.placed.id_of_eq heq).1 x hx
            exact hnone hxid
          rw [hent.placed.id_of_ne hne] at hxid
          exact absurd hxid ((find_device_eq_none hvalid).1 hid x hx)
        · rw [hsame.property]
          exact hid
      rw [hdevs, uses_of_not_listed hunlisted]
      omega
  rw [hcount]
  exact hsku

/-- **Updating a device.** -/
theorem inventory_updateDevice {stored : Project}
    (hmeets : Accountable services project (.updateDevice device))
    (hreplaced : Replaced services (takeDevice services project device.id).1
      (takeDevice services project device.id).2 device device' stored) :
    ∃ skus : SkuMap, updateSkuQuantityByUpdateDevice services.catalogue project.skuQuantitiesMap
        (takeDevice services project device.id).1 device' = .ok skus ∧
      AllTracked skus (inTopology services.catalogue stored.devices) := by
  obtain ⟨hmods, hunknown⟩ := hmeets
  obtain ⟨hrest, hids, hcases⟩ := takeDevice_spec hplain.devices device.id
  obtain ⟨-, -, hdevs⟩ := hreplaced.stored hrest hids
  rw [← takeDevice_fst services] at hmods
  have hcount : ∀ sku, inTopology services.catalogue project.devices sku =
      inTopology services.catalogue (takeDevice services project device.id).2.devices sku +
        uses services.catalogue (takeDevice services project device.id).1 sku := by
    intro sku
    rcases hcases with ⟨hnone, htaken⟩ | ⟨l₁, deleted, l₂, hsplit, -, htaken⟩
    · rw [htaken]
      dsimp only
      have hfound := (find_device_eq_none hplain.devices.wellFormed.address).2 hnone
      rw [uses_of_not_listed (hunknown hfound)]
      omega
    · rw [htaken, hsplit, inTopology_remove]
  have hle : ∀ sku, uses services.catalogue (takeDevice services project device.id).1 sku ≤
      inTopology services.catalogue project.devices sku := by
    intro sku
    have hsku := hcount sku
    have hnn := inTopology_nonneg services.catalogue
      (takeDevice services project device.id).2.devices sku
    omega
  obtain ⟨skus, hok, htracks⟩ := updateSkuQuantityByUpdateDevice_tracks h hle
    (hreplaced.placed.sameArticles.modulesTracked hmods)
  refine ⟨skus, hok, fun sku => ?_⟩
  have hsku := htracks sku
  dsimp only at hsku
  have hafter : inTopology services.catalogue stored.devices sku =
      inTopology services.catalogue project.devices sku + uses services.catalogue device' sku -
        uses services.catalogue (takeDevice services project device.id).1 sku := by
    rw [hdevs, inTopology_append, inTopology_cons, inTopology_nil, hcount]
    omega
  rw [hafter]
  exact hsku

/-- **Removing a device.** -/
theorem inventory_removeDevice (hfound : project.getDeviceById deviceId = some device)
    (hknown : services.catalogue.lists device.deviceProperty.modelName = true →
      ModulesKnown services.catalogue device)
    (hlisted : toBag = true → services.catalogue.lists device.deviceProperty.modelName = true) :
    ∃ skus : SkuMap, updateSkuQuantityByDeleteDevice services.catalogue project.skuQuantitiesMap
        device toBag = .ok skus ∧
      AllTracked skus
        (inTopology services.catalogue (removeDevice services project device).devices) := by
  obtain ⟨-, l₁, l₂, hsplit, -, hremd, -⟩ := removeDevice_devices hplain.devices hfound
  have hcount : ∀ sku, inTopology services.catalogue project.devices sku =
      inTopology services.catalogue (l₁ ++ l₂) sku + uses services.catalogue device sku := by
    intro sku
    rw [hsplit, inTopology_remove]
  obtain ⟨skus, hok, htracks⟩ := updateSkuQuantityByDeleteDevice_tracks h hknown hlisted fun sku =>
    by
    have hsku := hcount sku
    have hnn := inTopology_nonneg services.catalogue (l₁ ++ l₂) sku
    omega
  refine ⟨skus, hok, fun sku => ?_⟩
  have hsku := htracks sku
  dsimp only at hsku
  have hafter : inTopology services.catalogue (l₁ ++ l₂) sku =
      inTopology services.catalogue project.devices sku - uses services.catalogue device sku := by
    have hbefore := hcount sku
    omega
  rw [hremd, hafter]
  exact hsku

theorem inventory_deleteDevicesStep
    (hstep : deleteDevicesStep services toBag project deviceId = .ok project') :
    InventoryAgrees services project' := by
  obtain ⟨device, skus, hfound, hskus, rfl⟩ := deleteDevicesStep_ok hstep
  obtain ⟨hknown, hlisted⟩ := deleteDevice_checked hskus
  obtain ⟨skus', hok, htracks⟩ := inventory_removeDevice hplain h hfound hknown hlisted
  rw [hok] at hskus
  cases hskus
  exact htracks

/-- A device that goes to another group is counted as before. -/
theorem inventory_regroupDevice {parentId : ℤ}
    (hstep : regroupDevice parentId project deviceId = .ok project') :
    InventoryAgrees services project' := by
  obtain ⟨l₁, device, l₂, hsplit, -, -, rfl, -⟩ := regroupDevice_ok hplain.devices hstep
  intro sku
  have hsku := h sku
  dsimp only
  have hsame : uses services.catalogue { device with groupId := parentId } sku =
      uses services.catalogue device sku := rfl
  rw [hsplit, inTopology_remove] at hsku
  rw [inTopology_append _ (l₁ ++ l₂), inTopology_cons, inTopology_nil, hsame, Int.add_zero]
  exact hsku

/-- **Every accountable request that succeeds** keeps the counts. -/
theorem inventory_exec {request : DeviceRequest} (hmeets : Accountable services project request)
    (hexec : request.exec services fuel project = .ok project') :
    InventoryAgrees services project' := by
  have hloop : ∀ (deviceIds : List ℤ) (toBag : Bool) (rest : Project),
      deviceIds.foldlM (deleteDevicesStep services toBag) project = .ok rest →
        InventoryAgrees services rest := by
    intro deviceIds toBag rest hrest
    have hboth := foldlM_rule
      (I := fun project => Plain services project ∧ InventoryAgrees services project) hrest
      ⟨hplain, h⟩ fun _ _ _ hboth hstep =>
        ⟨hboth.1.deleteDevicesStep hstep, inventory_deleteDevicesStep hboth.1 hboth.2 hstep⟩
    exact hboth.2
  cases request with
  | createDevice device fromBag =>
    obtain ⟨⟨device', _⟩, hcreate, rfl⟩ := exists_of_map hexec
    obtain ⟨stored, skus, hent, hskus, rfl⟩ := createDevice_ok hplain.toBare hcreate
    obtain ⟨hknown, hlisted⟩ := addDevice_checked hskus
    obtain ⟨skus', hok, htracks⟩ := inventory_createDevice hplain h hmeets hent hknown hlisted
    rw [hok] at hskus
    cases hskus
    exact htracks
  | updateDevice device =>
    obtain ⟨⟨device', _⟩, hupd, rfl⟩ := exists_of_map hexec
    obtain ⟨stored, skus, hreplaced, hskus, rfl⟩ := updateDevice_ok hplain.toBare hupd
    obtain ⟨skus', hok, htracks⟩ := inventory_updateDevice hplain h hmeets hreplaced
    rw [hok] at hskus
    cases hskus
    exact htracks
  | deleteDevice deviceId =>
    obtain ⟨device, skus, hfound, hskus, rfl⟩ := deleteDevice_ok hplain.toBare hexec
    obtain ⟨hknown, hlisted⟩ := deleteDevice_checked hskus
    obtain ⟨skus', hok, htracks⟩ := inventory_removeDevice hplain h hfound hknown hlisted
    rw [hok] at hskus
    cases hskus
    exact htracks
  | deleteDevices deviceIds toBag =>
    obtain ⟨-, rest, hrest, rfl⟩ := (deleteDevices_eq_ok hplain.toBare).1 hexec
    obtain ⟨vlanTables, rstpTables, htables⟩ := foldl_deleteDeviceDeviceConfig deviceIds rest
    rw [htables]
    exact hloop deviceIds toBag rest hrest
  | createGroup readings group =>
    obtain ⟨-, id, -, -, rfl⟩ := createGroup_ok hexec
    exact h
  | updateGroup group =>
    obtain ⟨-, -, rfl⟩ := updateGroup_ok hexec
    exact h
  | deleteGroup groupId =>
    obtain ⟨groupIds, rest, vlanTables, rstpTables, -, -, hrest, rfl⟩ :=
      deleteGroup_ok hplain.toBare hexec
    exact hloop _ _ rest hrest
  | unGroup groupId =>
    obtain ⟨group, rest, -, hrest, rfl⟩ := unGroup_ok hexec
    have hboth := foldlM_rule
      (I := fun project => Plain services project ∧ InventoryAgrees services project) hrest
      ⟨hplain, h⟩ fun _ _ _ hboth hstep =>
        ⟨hboth.1.regroupDevice hstep, inventory_regroupDevice hboth.1 hboth.2 hstep⟩
    exact hboth.2
  | updateSkuQuantity request =>
    obtain ⟨skus, hskus, rfl⟩ := changeSkus_eq_ok.1 hexec
    cases hupd : updateSkuQuantity services.catalogue project.skuQuantitiesMap request with
    | error e => rw [hupd] at hskus; cases hskus
    | ok skus' =>
      rw [hupd] at hskus
      cases hskus
      exact updateSkuQuantity_tracks h hupd
  | deleteSkuQuantity skuList =>
    obtain ⟨skus, hskus, rfl⟩ := changeSkus_eq_ok.1 hexec
    cases hdel : deleteSkuQuantity project.skuQuantitiesMap skuList with
    | error e => rw [hdel] at hskus; cases hskus
    | ok skus' =>
      rw [hdel] at hskus
      cases hskus
      exact deleteSkuQuantity_tracks h hdel

/-! ### No refusal -/

theorem exists_deleteDevicesStep (hfound : project.getDeviceById deviceId = some device)
    (hknown : services.catalogue.lists device.deviceProperty.modelName = true →
      ModulesKnown services.catalogue device)
    (hlisted : toBag = true → services.catalogue.lists device.deviceProperty.modelName = true) :
    ∃ project', deleteDevicesStep services toBag project deviceId = .ok project' := by
  obtain ⟨skus, hskus, -⟩ := inventory_removeDevice hplain h hfound hknown hlisted
  have hdrop : dropDevice services project deviceId = .ok (device, removeDevice services
      { project with groups := strikeMember project.groups device.groupId device.id } device) := by
    rw [dropDevice, hfound, ← leaveGroup_eq]
  unfold deleteDevicesStep
  rw [hdrop]
  show ∃ project', changeSkus _ (updateSkuQuantityByDeleteDevice services.catalogue
    project.skuQuantitiesMap device toBag) = .ok project'
  rw [hskus]
  exact ⟨_, rfl⟩

/-- The devices of different ids are deleted one after the other. -/
theorem exists_deleteDevices {deviceIds : List ℤ} (hnodup : deviceIds.Nodup)
    (hfound : ∀ deviceId ∈ deviceIds, ∃ device, project.getDeviceById deviceId = some device ∧
      (services.catalogue.lists device.deviceProperty.modelName = true →
        ModulesKnown services.catalogue device) ∧
      (toBag = true → services.catalogue.lists device.deviceProperty.modelName = true)) :
    ∃ rest, deviceIds.foldlM (deleteDevicesStep services toBag) project = .ok rest := by
  induction deviceIds generalizing project with
  | nil => exact ⟨project, rfl⟩
  | cons deviceId deviceIds ih =>
    obtain ⟨hnot, hnodup⟩ := nodup_cons.1 hnodup
    obtain ⟨device, hdev, hknown, hlisted⟩ := hfound deviceId mem_cons_self
    obtain ⟨next, hnext⟩ := exists_deleteDevicesStep hplain h hdev hknown hlisted
    have hplainNext := hplain.deleteDevicesStep hnext
    obtain ⟨rest, hrest⟩ := ih hplainNext (inventory_deleteDevicesStep hplain h hnext) hnodup
      fun otherId hother => by
        obtain ⟨other, hotherFound, hchecks⟩ := hfound otherId (mem_cons_of_mem _ hother)
        obtain ⟨hmem, hid⟩ := hplain.devices.wellFormed.id_of_find hotherFound
        obtain ⟨removed, skus, hremd, -, rfl⟩ := deleteDevicesStep_ok hnext
        obtain ⟨-, l₁, l₂, hsplit, hremovedId, hafter, -⟩ :=
          removeDevice_devices hplain.devices hremd
        refine ⟨other, hplainNext.devices.wellFormed.getDeviceById ?_ hid, hchecks⟩
        show other ∈ (removeDevice services project removed).devices
        rw [hafter]
        rw [hsplit] at hmem
        rcases mem_append.1 hmem with hmem | hmem
        · exact mem_append_left _ hmem
        · rcases mem_cons.1 hmem with rfl | hmem
          · exact absurd (hid.symm.trans hremovedId) fun e => hnot (e ▸ hother)
          · exact mem_append_right _ hmem
    exact ⟨rest, by rw [foldlM_cons, hnext]; exact hrest⟩

theorem notRefused : NotRefused services fuel project where
  create device fromBag device' stored hmeets henter hknown hlisted := by
    have hent := enterDevice_ok hplain.toBare henter
    obtain ⟨skus, hskus, -⟩ := inventory_createDevice hplain h hmeets hent hknown hlisted
    have hkept : stored.skuQuantitiesMap = project.skuQuantitiesMap := by
      obtain ⟨counter, vlanTables, rstpTables, rfl⟩ := hent.project
      rfl
    refine ⟨{ stored with skuQuantitiesMap := skus }, ?_⟩
    unfold createDevice
    rw [henter]
    show (changeSkus stored (updateSkuQuantityByAddDevice services.catalogue
      stored.skuQuantitiesMap device' fromBag) >>= _) = _
    rw [hkept, hskus]
    rfl
  update device device' stored hmeets hrepl := by
    have hreplaced := replaceDevice_ok hplain.toBare hrepl
    obtain ⟨skus, hskus, -⟩ := inventory_updateDevice hplain h hmeets hreplaced
    have hkept : stored.skuQuantitiesMap = project.skuQuantitiesMap := by
      obtain ⟨counter, vlanTables, rstpTables, rfl⟩ := hreplaced.project
      show (takeDevice services project device.id).2.skuQuantitiesMap = _
      unfold takeDevice
      split <;> rfl
    refine ⟨{ stored with skuQuantitiesMap := skus }, ?_⟩
    unfold updateDevice
    dsimp only
    rw [hrepl]
    show (changeSkus stored (updateSkuQuantityByUpdateDevice services.catalogue
      stored.skuQuantitiesMap (takeDevice services project device.id).1 device') >>= _) = _
    rw [hkept, hskus]
    rfl
  delete deviceId device stored hwithdraw hknown := by
    obtain ⟨hfound, hstored⟩ := withdrawDevice_ok hplain.toBare hwithdraw
    obtain ⟨skus, hskus, -⟩ := inventory_removeDevice hplain h hfound hknown
      (fun hbag => Bool.noConfusion hbag : false = true → _)
    have hkept : stored.skuQuantitiesMap = project.skuQuantitiesMap := by
      rw [hstored]
      rfl
    refine ⟨{ stored with skuQuantitiesMap := skus }, ?_⟩
    unfold deleteDevice
    rw [hwithdraw]
    show changeSkus stored (updateSkuQuantityByDeleteDevice services.catalogue
      stored.skuQuantitiesMap device false) = _
    rw [hkept, hskus]
    rfl
  deleteAll deviceIds toBag hne hnodup hfound := by
    obtain ⟨rest, hrest⟩ := exists_deleteDevices hplain h hnodup hfound
    exact ⟨_, (deleteDevices_eq_ok hplain.toBare).2 ⟨hne, rest, hrest, rfl⟩⟩

omit hplain h

/-! ### A history -/

/-- **The articles of a history of accountable requests:** the counts agree with the topology, and
no device is refused for its articles. -/
theorem inventory_of_run {start : Project} (hnew : NewProject start)
    (hrun : DeviceRequest.Run services fuel (Accountable services) start project) :
    InventoryAgrees services project ∧ NotRefused services fuel project := by
  have hstart : InventoryAgrees services start := by
    intro sku
    rw [hnew.devices, hnew.skuQuantitiesMap]
    show Tracks (∅ : SkuMap)[sku]? 0
    simp [Tracks]
  have hboth := DeviceRequest.Run.rule
    (I := fun project => Plain services project ∧ InventoryAgrees services project)
    ⟨hnew.plain services, hstart⟩
    (fun _ _ _ hboth hmeets hexec => ⟨hboth.1.exec hexec,
      inventory_exec hboth.1 hboth.2 hmeets hexec⟩)
    hrun
  exact ⟨hboth.2, notRefused hboth.1 hboth.2⟩

/-- A switch at the first address is bought, and one at the second address is created with or
without the bag. -/
def twoCreations (fromBag : Bool) : List DeviceRequest :=
  [.createDevice { ipAddress := "10.0.0.1", deviceProfileId := 1 } false,
    .createDevice { ipAddress := "10.0.0.2", deviceProfileId := 1 } fromBag]

/-- Two switches can be bought one after the other. -/
theorem inventory_of_run_oneModel : ∃ project,
    DeviceRequest.execAll oneModel 0 {} (twoCreations false) = some project ∧
      InventoryAgrees oneModel project ∧ NotRefused oneModel 0 project := by
  have hrun : (DeviceRequest.execAll oneModel 0 {} (twoCreations false)).isSome = true := by
    decide +kernel
  obtain ⟨project, hproj⟩ := Option.isSome_iff_exists.1 hrun
  refine ⟨project, hproj, inventory_of_run newProject_default
    (DeviceRequest.run_of_execAll .refl (fun request hreq project => ?_) hproj)⟩
  rcases mem_cons.1 hreq with rfl | hreq
  · exact ⟨.inl rfl, fun h => nomatch h⟩
  · rw [mem_singleton.1 hreq]
    exact ⟨.inl rfl, fun h => nomatch h⟩

/-- **The bag is not looked into:** a piece was bought, and two are in the topology. -/
theorem not_inventory_of_run : ¬∀ (services : DeviceServices) (fuel : ℕ) (start project : Project),
    NewProject start → DeviceRequest.Run services fuel (fun _ _ => True) start project →
      InventoryAgrees services project := by
  intro h
  have hentry : ((DeviceRequest.execAll oneModel 0 {} (twoCreations true)).map fun project =>
      project.skuQuantitiesMap["TSN-G5004"]?) = some (some ⟨1, 2⟩) := by decide +kernel
  obtain ⟨project, hproj, hsku⟩ := Option.map_eq_some_iff.1 hentry
  have hagrees := h oneModel 0 {} project newProject_default
    (DeviceRequest.run_of_execAll .refl (fun _ _ _ => trivial) hproj) "TSN-G5004"
  rw [hsku] at hagrees
  obtain ⟨hin, -, hle, -⟩ := hagrees
  rw [← hin] at hle
  exact absurd hle (by decide)

end Core
end Sebastian

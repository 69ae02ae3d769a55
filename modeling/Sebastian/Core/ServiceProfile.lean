/-
# The articles of a project

`core/src/act_core_service_profile.cpp`: how many pieces of each article (SKU) a project has,
and how many of them its topology uses.  A device of a model in the general profiles counts one
piece of the model and one of each module that is not built in.

The three operations on devices change the two numbers in loops over maps from an article to a
count.  What a loop does to one article depends on the entry of that article alone, so that
everything here is said entry by entry: `Tracks` is what an entry has to say about an article
that is used so many times, and each loop carries it from one count to the next
(`increaseSkuQuantity_tracks`, `decreaseSkuQuantity_tracks`).
-/

import Sebastian.Lib.Except
import Sebastian.Project
import Sebastian.Status

namespace Sebastian
namespace Core

open ExceptRule Std.TreeMap Option QMap

variable {n a : ℤ} {sku : String} {m' accessories : QuantityMap}
  {device oldDevice newDevice : Device}

/-! ### The catalogues -/

/-- `ActL1CategoryEnum` -/
inductive L1Category where
  | accessories
  | switches
  deriving DecidableEq

/-- `ActSkuWithPrice` -/
structure SkuWithPrice where
  modelName : String := ""
  l1Category : L1Category := .accessories

/-- `ActInterfaceProperty` -/
structure InterfaceProperty where
  interfaceName : String := ""
  supportSpeeds : List ℤ := []

/-- `ActEthernetModule` -/
structure EthernetModule where
  moduleName : String := ""
  interfaces : List InterfaceProperty := []

/-- `ActPowerModule` -/
structure PowerModule where
  moduleName : String := ""
  builtIn : Bool := false

/-- The catalogues of the core that the articles come from. -/
structure Catalogue where
  ethernetModuleMap : QMap ℤ EthernetModule := ∅
  powerModuleMap : QMap ℤ PowerModule := ∅
  generalProfileMap : QMap String SkuWithPrice := ∅

/-- `SkuQuantitiesMap` -/
abbrev SkuMap := QMap String SkuQuantity

/-- A count per article.  (The `quint64` of the map is read back as a `qint64`.) -/
abbrev QuantityMap := QMap String ℤ

namespace Catalogue

/-- The model or module is in the general profiles. -/
def lists (catalogue : Catalogue) (sku : String) : Bool := catalogue.generalProfileMap.contains sku

/-- `GetSkuCategory(..) == kAccessories`.  The category of an article that is not in the general
profiles stays unset. -/
def isAccessory (catalogue : Catalogue) (sku : String) : Bool :=
  (catalogue.generalProfileMap[sku]?).map (·.l1Category) == some .accessories

end Catalogue

/-! ### The operations -/

/-- `GenerateSkuQuantityFromDevice`, one Ethernet module. -/
def addEthernetModule (catalogue : Catalogue) (accessories : QuantityMap) (moduleId : ℤ) :
    Except (Status × QuantityMap) QuantityMap :=
  match catalogue.ethernetModuleMap[moduleId]? with
  | some ethModule => .ok (accessories.update ethModule.moduleName (· + 1))
  | none => .error (.notFound ⟨"Ethernet module id %1", [.int moduleId]⟩, accessories)

/-- `GenerateSkuQuantityFromDevice`, one power module. -/
def addPowerModule (catalogue : Catalogue) (accessories : QuantityMap) (moduleId : ℤ) :
    Except (Status × QuantityMap) QuantityMap :=
  match catalogue.powerModuleMap[moduleId]? with
  | some pwrModule =>
    if pwrModule.builtIn then .ok accessories
    else .ok (accessories.update pwrModule.moduleName (· + 1))
  | none => .error (.notFound ⟨"Power module id %1", [.int moduleId]⟩, accessories)

/-- `GenerateSkuQuantityFromDevice`, the modules: their counts, also those of a device with a
module that is not found. -/
def generateAccessoryMap (catalogue : Catalogue) (device : Device) :
    Except (Status × QuantityMap) QuantityMap := do
  let accessories ← device.modularConfiguration.ethernet.vals.foldlM (addEthernetModule catalogue) ∅
  device.modularConfiguration.power.vals.foldlM (addPowerModule catalogue) accessories

/-- `GenerateSkuQuantityFromDevice`, the model: one piece. -/
def modelMap (device : Device) : QuantityMap :=
  (∅ : QuantityMap).insert device.deviceProperty.modelName 1

/-- `GenerateSkuQuantityFromDevice`: the counts of the model and of the modules. -/
def generateSkuQuantityFromDevice (catalogue : Catalogue) (device : Device) :
    Except (Status × QuantityMap) (QuantityMap × QuantityMap) := do
  let accessories ← generateAccessoryMap catalogue device
  return (modelMap device, accessories)

/-- The counts of the modules that a caller is left with who ignores the status. -/
def accessoryMap (catalogue : Catalogue) (device : Device) : QuantityMap :=
  match generateAccessoryMap catalogue device with
  | .ok accessories => accessories
  | .error (_, accessories) => accessories

/-- `EnsureModules` -/
def ensureModules (catalogue : Catalogue) (skus : SkuMap) (skuName : String)
    (addedInTopologyCount : ℤ) : Except Status SkuMap :=
  if !catalogue.lists skuName then
    .error (.badRequest ⟨"SKU '%1' not found in general profiles", [.str skuName]⟩)
  else
    match skus[skuName]? with
    | none => .ok (skus.insert skuName ⟨addedInTopologyCount, addedInTopologyCount⟩)
    | some sku =>
      let newInTopology := sku.inTopologyCount + addedInTopologyCount
      let quantity :=
        if sku.quantity < newInTopology then sku.quantity + (newInTopology - sku.quantity)
        else sku.quantity
      .ok (skus.insert skuName ⟨quantity, newInTopology⟩)

/-- One article in `IncreaseSkuQuantity`. -/
def increaseSku (catalogue : Catalogue) (fromBag : Bool) (skus : SkuMap) (item : String × ℤ) :
    Except Status SkuMap :=
  let (skuName, added) := item
  if !catalogue.isAccessory skuName && fromBag && !skus.contains skuName then
    .error (.badRequest
      ⟨"Cannot add SKU '%1' from bag: SKU does not exist in project", [.str skuName]⟩)
  else if fromBag then
    if catalogue.isAccessory skuName then ensureModules catalogue skus skuName added
    else
      .ok (skus.update skuName fun sku =>
        { sku with inTopologyCount := sku.inTopologyCount + added })
  else if skus.contains skuName then
    .ok (skus.update skuName fun sku => ⟨sku.quantity + added, sku.inTopologyCount + added⟩)
  else .ok (skus.insert skuName ⟨added, added⟩)

/-- `IncreaseSkuQuantity` -/
def increaseSkuQuantity (catalogue : Catalogue) (skus : SkuMap) (quantityMap : QuantityMap)
    (fromBag : Bool) : Except Status SkuMap :=
  quantityMap.toList.foldlM (increaseSku catalogue fromBag) skus

/-- One article in `DecreaseSkuQuantity`. -/
def decreaseSku (toBag : Bool) (skus : SkuMap) (item : String × ℤ) : Except Status SkuMap :=
  let (skuName, removedInTopologyCount) := item
  let removedQuantity := if toBag then 0 else removedInTopologyCount
  match skus[skuName]? with
  | none => .error (.notFound ⟨skuName, []⟩)
  | some sku =>
    let totalQuantity := sku.quantity - removedQuantity
    let totalInTopologyCount := sku.inTopologyCount - removedInTopologyCount
    if totalQuantity < 0 then
      .error (.internalError ⟨"SKU quantity for %1 cannot be negative", [.str skuName]⟩)
    else if totalInTopologyCount < 0 then
      .error (.internalError
        ⟨"in topology count (used device) for %1 cannot be negative", [.str skuName]⟩)
    else if totalQuantity = 0 then .ok (skus.erase skuName)
    else .ok (skus.insert skuName ⟨totalQuantity, totalInTopologyCount⟩)

/-- `DecreaseSkuQuantity` -/
def decreaseSkuQuantity (skus : SkuMap) (quantityMap : QuantityMap) (toBag : Bool) :
    Except Status SkuMap :=
  quantityMap.toList.foldlM (decreaseSku toBag) skus

/-- The status of a call and the articles it leaves behind. -/
abbrev SkuFailure := Status × SkuMap

/-- The two calls for the model and for the modules of a device, one after the other: what the
first one changed stays when the second one fails. -/
def bothQuantities (change : SkuMap → QuantityMap → Except Status SkuMap) (skus : SkuMap)
    (devices accessories : QuantityMap) : Except SkuFailure SkuMap := do
  let changed ← (change skus devices).mapError (·, skus)
  (change changed accessories).mapError (·, changed)

/-- `UpdateSkuQuantityByAddDevice` -/
def updateSkuQuantityByAddDevice (catalogue : Catalogue) (skus : SkuMap) (device : Device)
    (fromBag : Bool) : Except SkuFailure SkuMap :=
  let modelName := device.deviceProperty.modelName
  if !catalogue.lists modelName && fromBag then
    .error (.internalError ⟨"Cannot add %1 from the bag", [.str modelName]⟩, skus)
  else if !catalogue.lists modelName then .ok skus
  else
    match generateSkuQuantityFromDevice catalogue device with
    | .error (status, _) => .error (status, skus)
    | .ok (devices, accessories) =>
      bothQuantities (increaseSkuQuantity catalogue · · fromBag) skus devices accessories

/-- `UpdateSkuQuantityByDeleteDevice` -/
def updateSkuQuantityByDeleteDevice (catalogue : Catalogue) (skus : SkuMap) (device : Device)
    (toBag : Bool) : Except SkuFailure SkuMap :=
  let modelName := device.deviceProperty.modelName
  if !catalogue.lists modelName && toBag then
    .error (.internalError ⟨"%1 cannot return to the bag", [.str modelName]⟩, skus)
  else if !catalogue.lists modelName then .ok skus
  else
    match generateSkuQuantityFromDevice catalogue device with
    | .error (status, _) => .error (status, skus)
    | .ok (devices, accessories) =>
      bothQuantities (decreaseSkuQuantity · · toBag) skus devices accessories

/-- `ActSkuQuantityDelta` -/
structure SkuQuantityDelta where
  deletedDevices : List String := []
  deletedAccessories : List String := []
  deviceDelta : QuantityMap := ∅
  accessoryDelta : QuantityMap := ∅

/-- `CalculateDelta`, the models. -/
def calculateModelDelta (catalogue : Catalogue) (skus : SkuMap) (oldModelName newModelName : String)
    (delta : SkuQuantityDelta) : SkuQuantityDelta :=
  if oldModelName = newModelName then delta
  else
    let delta :=
      if !catalogue.lists oldModelName then delta
      else if (skus.value oldModelName).quantity = 1 then
        { delta with deletedDevices := delta.deletedDevices ++ [oldModelName] }
      else { delta with deviceDelta := delta.deviceDelta.insert oldModelName (-1) }
    if catalogue.lists newModelName then
      { delta with deviceDelta := delta.deviceDelta.insert newModelName 1 }
    else delta

/-- `CalculateDelta`, a module of the old device. -/
def removedModule (catalogue : Catalogue) (skus : SkuMap) (newAccessories : QuantityMap)
    (delta : SkuQuantityDelta) (item : String × ℤ) : SkuQuantityDelta :=
  let (moduleName, oldQuantity) := item
  if !catalogue.lists moduleName then delta
  else if newAccessories.value moduleName = 0 then
    if (skus.value moduleName).quantity = oldQuantity then
      { delta with deletedAccessories := delta.deletedAccessories ++ [moduleName] }
    else { delta with accessoryDelta := delta.accessoryDelta.insert moduleName (-oldQuantity) }
  else delta

/-- `CalculateDelta`, a module of the new device. -/
def changedModule (catalogue : Catalogue) (oldAccessories : QuantityMap)
    (delta : SkuQuantityDelta) (item : String × ℤ) : SkuQuantityDelta :=
  let (moduleName, newQuantity) := item
  if !catalogue.lists moduleName then delta
  else
    let diff := newQuantity - oldAccessories.value moduleName
    if diff = 0 then delta
    else { delta with accessoryDelta := delta.accessoryDelta.update moduleName (· + diff) }

/-- `operator==(ActDeviceModularConfiguration)` -/
def sameModules (x y : ModularConfiguration) : Bool :=
  x.ethernet.toList == y.ethernet.toList && x.power.toList == y.power.toList

/-- `CalculateDelta` -/
def calculateDelta (catalogue : Catalogue) (skus : SkuMap) (oldDevice newDevice : Device) :
    SkuQuantityDelta :=
  let delta := calculateModelDelta catalogue skus oldDevice.deviceProperty.modelName
    newDevice.deviceProperty.modelName {}
  if sameModules oldDevice.modularConfiguration newDevice.modularConfiguration then delta
  else
    let oldAccessories := accessoryMap catalogue oldDevice
    let newAccessories := accessoryMap catalogue newDevice
    let delta := oldAccessories.toList.foldl (removedModule catalogue skus newAccessories) delta
    newAccessories.toList.foldl (changedModule catalogue oldAccessories) delta

/-- The quantities of the articles that are used no more. -/
def deletedMap (skus : SkuMap) (deleted : List String) : QuantityMap :=
  deleted.foldl (fun m skuName => m.insert skuName (skus.value skuName).quantity) ∅

/-- The counts of one sign, without it. -/
def increaseMap (delta : QuantityMap) : QuantityMap := delta.filter fun _ diff => decide (0 < diff)

/-- The counts of the other sign, without it. -/
def decreaseMap (delta : QuantityMap) : QuantityMap :=
  (delta.filter fun _ diff => decide (diff < 0)).map fun _ diff => -diff

/-- The steps of `ApplySkuQuantityDelta`, in the order they are taken. -/
def deltaSteps (catalogue : Catalogue) (skus : SkuMap) (delta : SkuQuantityDelta) :
    List (SkuMap → Except Status SkuMap) :=
  [(decreaseSkuQuantity · (deletedMap skus delta.deletedDevices) false),
    (decreaseSkuQuantity · (deletedMap skus delta.deletedAccessories) true),
    (increaseSkuQuantity catalogue · (increaseMap delta.deviceDelta) false),
    (decreaseSkuQuantity · (decreaseMap delta.deviceDelta) false),
    (increaseSkuQuantity catalogue · (increaseMap delta.accessoryDelta) true),
    (decreaseSkuQuantity · (decreaseMap delta.accessoryDelta) true)]

/-- `ApplySkuQuantityDelta`: a step without articles does nothing. -/
def applySkuQuantityDelta (catalogue : Catalogue) (skus : SkuMap) (delta : SkuQuantityDelta) :
    Except SkuFailure SkuMap :=
  (deltaSteps catalogue skus delta).foldlM
    (fun skus step => (step skus).mapError (·, skus)) skus

/-- `UpdateSkuQuantityByUpdateDevice` -/
def updateSkuQuantityByUpdateDevice (catalogue : Catalogue) (skus : SkuMap)
    (oldDevice newDevice : Device) : Except SkuFailure SkuMap :=
  applySkuQuantityDelta catalogue skus (calculateDelta catalogue skus oldDevice newDevice)

/-- `UpdateSkuQuantity`, the check of one article of the request. -/
def checkSkuQuantity (catalogue : Catalogue) (skus : SkuMap) (item : String × ℤ) :
    Except Status Unit :=
  let (skuName, quantity) := item
  let modelName := ((catalogue.generalProfileMap[skuName]?).getD {}).modelName
  let inTopologyCount := (skus.value skuName).inTopologyCount
  if modelName = "" then .error (.notFound ⟨skuName, []⟩)
  else if quantity < inTopologyCount then
    .error (.badRequest ⟨"Quantity of %1 is less than used devices (%2) in topology.",
      [.str skuName, .int inTopologyCount]⟩)
  else .ok ()

/-- `UpdateSkuQuantity`, one article of the request. -/
def setSkuQuantity (skus : SkuMap) (item : String × ℤ) : SkuMap :=
  let (skuName, quantity) := item
  if quantity = 0 then skus.erase skuName
  else skus.update skuName fun sku => { sku with quantity := quantity }

/-- `UpdateSkuQuantity` -/
def updateSkuQuantity (catalogue : Catalogue) (skus : SkuMap) (request : QuantityMap) :
    Except Status SkuMap := do
  request.toList.forM (checkSkuQuantity catalogue skus)
  return request.toList.foldl setSkuQuantity (request.toList.foldl (fun m x => m.touch x.1) skus)

/-- `DeleteSkuQuantity`, the check of one article. -/
def checkDeleteSku (skus : SkuMap) (skuName : String) : Except Status Unit :=
  match skus[skuName]? with
  | none => .error (.notFound ⟨skuName, []⟩)
  | some sku =>
    if sku.inTopologyCount ≠ 0 then
      .error (.badRequest
        ⟨"Cannot delete SKU %1: device(s) still exist in topology.", [.str skuName]⟩)
    else .ok ()

/-- `DeleteSkuQuantity` -/
def deleteSkuQuantity (skus : SkuMap) (skuList : List String) : Except Status SkuMap := do
  skuList.forM (checkDeleteSku skus)
  return skuList.foldl (fun m skuName => m.erase skuName) skus

/-! ### What the topology uses -/

/-- The article an Ethernet module is. -/
def ethernetSku (catalogue : Catalogue) (moduleId : ℤ) : Option String :=
  (catalogue.ethernetModuleMap[moduleId]?).map (·.moduleName)

/-- The article a power module is, unless it is built in. -/
def powerSku (catalogue : Catalogue) (moduleId : ℤ) : Option String :=
  match catalogue.powerModuleMap[moduleId]? with
  | some pwrModule => if pwrModule.builtIn then none else some pwrModule.moduleName
  | none => none

/-- The articles in the slots of a device. -/
def moduleNames (catalogue : Catalogue) (modules : ModularConfiguration) : List String :=
  modules.ethernet.vals.filterMap (ethernetSku catalogue) ++
  modules.power.vals.filterMap (powerSku catalogue)

/-- How often an article is a module of the device. -/
def moduleCount (catalogue : Catalogue) (device : Device) (sku : String) : ℤ :=
  (moduleNames catalogue device.modularConfiguration).count sku

/-- How many pieces of an article the device uses, as its model and as its modules.  A device of
a model that is not in the general profiles uses none. -/
def uses (catalogue : Catalogue) (device : Device) (sku : String) : ℤ :=
  if catalogue.lists device.deviceProperty.modelName then
    (if device.deviceProperty.modelName = sku then 1 else 0) + moduleCount catalogue device sku
  else 0

/-- **What an entry says** about an article of which the topology uses `count` pieces: without
an entry there is none, and an entry has at least one piece and no fewer than are used. -/
def Tracks (entry : Option SkuQuantity) (count : ℤ) : Prop :=
  match entry with
  | none => count = 0
  | some sku => sku.inTopologyCount = count ∧ 0 ≤ count ∧ count ≤ sku.quantity ∧ 0 < sku.quantity

/-- The bag holds so many pieces of an article, or fills itself up because it is an accessory. -/
def BagHolds (catalogue : Catalogue) (sku : String) (entry : Option SkuQuantity) (n : ℤ) : Prop :=
  catalogue.isAccessory sku = true ∨
    ∃ e, entry = some e ∧ e.inTopologyCount + n ≤ e.quantity

variable {catalogue : Catalogue} {skus skus' : SkuMap} {count : String → ℤ} {fromBag toBag : Bool}
  {m : QuantityMap}

theorem Tracks.nonneg {entry : Option SkuQuantity} (h : Tracks entry n) : 0 ≤ n := by
  cases entry with
  | none => exact le_of_eq h.symm
  | some e => exact h.2.1

theorem Catalogue.lists_of_isAccessory (h : catalogue.isAccessory sku = true) :
    catalogue.lists sku = true := by
  unfold Catalogue.isAccessory at h
  unfold Catalogue.lists
  rw [contains_eq_isSome_getElem?]
  cases hsku : catalogue.generalProfileMap[sku]? with
  | none => simp [hsku] at h
  | some profile => rfl

theorem getElem?_insert_self (skus : SkuMap) (sku : String) (e : SkuQuantity) :
    (skus.insert sku e)[sku]? = some e := by
  rw [getElem?_insert, if_pos Std.ReflCmp.compare_self]

theorem getElem?_insert_ne (skus : SkuMap) {sku' : String} (e : SkuQuantity) (hne : sku' ≠ sku) :
    (skus.insert sku e)[sku']? = skus[sku']? := by
  rw [getElem?_insert, if_neg]
  rw [Std.compare_eq_iff_eq]
  exact fun h => hne h.symm

theorem getElem?_update_ne (skus : SkuMap) {sku' : String} (f : SkuQuantity → SkuQuantity)
    (hne : sku' ≠ sku) : (skus.update sku f)[sku']? = skus[sku']? :=
  getElem?_insert_ne skus _ hne

theorem getElem?_update_self {e : SkuQuantity} (h : skus[sku]? = some e)
    (f : SkuQuantity → SkuQuantity) : (skus.update sku f)[sku]? = some (f e) := by
  rw [update, getElem?_insert_self, value_of_getElem? h]

/-- `EnsureModules` uses the pieces in the bag first and adds what is missing. -/
theorem ensureModules_tracks (hsku : catalogue.isAccessory sku = true) (h : Tracks skus[sku]? n)
    (ha : 0 < a) : ∃ skus' : SkuMap, ensureModules catalogue skus sku a = .ok skus' ∧
      Tracks skus'[sku]? (n + a) ∧ ∀ sku' : String, sku' ≠ sku → skus'[sku']? = skus[sku']? := by
  unfold ensureModules
  rw [Catalogue.lists_of_isAccessory hsku, Bool.not_true, if_neg Bool.false_ne_true]
  cases hentry : skus[sku]? with
  | none =>
    rw [hentry] at h
    obtain rfl : n = 0 := h
    refine ⟨_, rfl, ?_, fun sku' hne => getElem?_insert_ne skus _ hne⟩
    rw [getElem?_insert_self]
    show _ ∧ _ ∧ _ ∧ _
    dsimp only
    omega
  | some e =>
    rw [hentry] at h
    obtain ⟨he, hn, hle, hpos⟩ := h
    refine ⟨_, rfl, ?_, fun sku' hne => getElem?_insert_ne skus _ hne⟩
    rw [getElem?_insert_self]
    show _ ∧ _ ∧ _ ∧ _
    dsimp only
    split_ifs <;> omega

/-- Pieces from the bag: an accessory is made sure of, and of any other article the bag holds
enough. -/
theorem increaseSku_tracks_fromBag (h : Tracks skus[sku]? n) (ha : 0 < a)
    (hbag : BagHolds catalogue sku skus[sku]? a) :
    ∃ skus' : SkuMap, increaseSku catalogue true skus (sku, a) = .ok skus' ∧
      (Tracks skus'[sku]? (n + a) ∧
        ∀ k, BagHolds catalogue sku skus[sku]? (a + k) → BagHolds catalogue sku skus'[sku]? k) ∧
      ∀ sku' : String, sku' ≠ sku → skus'[sku']? = skus[sku']? := by
  unfold increaseSku
  cases hacc : catalogue.isAccessory sku with
  | true =>
    obtain ⟨skus', hok, htracks, hframe⟩ := ensureModules_tracks hacc h ha
    exact ⟨skus', by simpa [hacc] using hok, ⟨htracks, fun _ _ => .inl hacc⟩, hframe⟩
  | false =>
    obtain ⟨e, he, hroom⟩ := hbag.resolve_left (by rw [hacc]; exact Bool.false_ne_true)
    have hcont : skus.contains sku = true := by
      rw [contains_eq_isSome_getElem?, he, isSome_some]
    simp only [hacc, hcont, Bool.not_true, Bool.and_false, Bool.false_eq_true, if_false,
      if_true]
    refine ⟨_, rfl, ?_, fun sku' hne => getElem?_update_ne skus _ hne⟩
    rw [getElem?_update_self he]
    rw [he] at h
    obtain ⟨hin, hn, hle, hpos⟩ := h
    refine ⟨?_, fun k hk => hk.imp id fun ⟨e', he', hroom'⟩ => ⟨_, rfl, ?_⟩⟩
    · show _ ∧ _ ∧ _ ∧ _
      dsimp only
      omega
    · rw [he] at he'
      cases he'
      dsimp only
      omega

theorem increaseSku_tracks_bought (h : Tracks skus[sku]? n) (ha : 0 < a) :
    ∃ skus' : SkuMap, increaseSku catalogue false skus (sku, a) = .ok skus' ∧
      (Tracks skus'[sku]? (n + a) ∧
        ∀ k, BagHolds catalogue sku skus[sku]? k → BagHolds catalogue sku skus'[sku]? k) ∧
      ∀ sku' : String, sku' ≠ sku → skus'[sku']? = skus[sku']? := by
  unfold increaseSku
  cases hentry : skus[sku]? with
  | none =>
    have hcont : skus.contains sku = false := by
      rw [contains_eq_isSome_getElem?, hentry, isSome_none]
    simp only [hcont, Bool.and_false, Bool.false_and, Bool.false_eq_true, if_false]
    rw [hentry] at h
    obtain rfl : n = 0 := h
    refine ⟨_, rfl, ⟨?_, fun k hk => ?_⟩, fun sku' hne => getElem?_insert_ne skus _ hne⟩
    · rw [getElem?_insert_self]
      show _ ∧ _ ∧ _ ∧ _
      dsimp only
      omega
    · exact .inl (hk.resolve_right (by rintro ⟨e, he, -⟩; cases he))
  | some e =>
    have hcont : skus.contains sku = true := by
      rw [contains_eq_isSome_getElem?, hentry, isSome_some]
    simp only [hcont, Bool.and_false, Bool.false_and, Bool.false_eq_true, if_false, if_true]
    rw [hentry] at h
    obtain ⟨hin, hn, hle, hpos⟩ := h
    refine ⟨_, rfl, ?_, fun sku' hne => getElem?_update_ne skus _ hne⟩
    rw [getElem?_update_self hentry]
    refine ⟨?_, fun k hk => hk.imp id fun ⟨e', he', hroom⟩ => ⟨_, rfl, ?_⟩⟩
    · show _ ∧ _ ∧ _ ∧ _
      dsimp only
      omega
    · cases he'
      dsimp only
      omega

theorem decreaseSku_tracks (h : Tracks skus[sku]? n) (ha : 0 < a) (hle : a ≤ n) :
    ∃ skus' : SkuMap, decreaseSku toBag skus (sku, a) = .ok skus' ∧
      (Tracks skus'[sku]? (n - a) ∧
        ∀ k, 0 < k → BagHolds catalogue sku skus[sku]? k → BagHolds catalogue sku skus'[sku]? k) ∧
      ∀ sku' : String, sku' ≠ sku → skus'[sku']? = skus[sku']? := by
  unfold decreaseSku
  dsimp only
  cases hentry : skus[sku]? with
  | none =>
    rw [hentry] at h
    have hn : n = 0 := h
    omega
  | some e =>
    rw [hentry] at h
    obtain ⟨hin, hn, hq, hpos⟩ := h
    have hremd : 0 ≤ (if toBag then 0 else a) ∧ (if toBag then 0 else a) ≤ a := by
      split_ifs <;> omega
    generalize (if toBag then 0 else a) = removedQuantity at hremd
    dsimp only
    rw [if_neg (by omega), if_neg (by omega)]
    split_ifs with hzero
    · refine ⟨_, rfl, ⟨?_, fun k hk hbag => hbag.imp id ?_⟩, fun sku' hne => ?_⟩
      · rw [getElem?_erase, if_pos Std.ReflCmp.compare_self]
        show _ = _
        omega
      · rintro ⟨e', he', hroom⟩
        cases he'
        omega
      · rw [getElem?_erase, if_neg]
        rw [Std.compare_eq_iff_eq]
        exact fun h => hne h.symm
    · refine ⟨_, rfl, ⟨?_, fun k hk hbag => hbag.imp id ?_⟩,
        fun sku' hne => getElem?_insert_ne skus _ hne⟩
      · rw [getElem?_insert_self]
        show _ ∧ _ ∧ _ ∧ _
        dsimp only
        omega
      · rintro ⟨e', he', hroom⟩
        cases he'
        refine ⟨_, getElem?_insert_self _ _ _, ?_⟩
        dsimp only
        omega

/-! ### The loops over the articles -/

/-- The entries agree with the counts. -/
def AllTracked (skus : SkuMap) (count : String → ℤ) : Prop :=
  ∀ sku : String, Tracks skus[sku]? (count sku)

/-- All counts of the map are positive. -/
def PositiveCounts (m : QuantityMap) : Prop := ∀ (sku : String) (a : ℤ), m[sku]? = some a → 0 < a

/-- What a loop that relates the entries of each article says of all articles. -/
theorem allTracked_of_entries (change : String → ℤ → ℤ) (hzero : ∀ sku, change sku 0 = count sku)
    (h : AllTracked skus count)
    (hin : ∀ (sku : String) (a : ℤ), m[sku]? = some a → Tracks skus'[sku]? (change sku a))
    (hout : ∀ sku : String, m[sku]? = none → skus'[sku]? = skus[sku]?) :
    AllTracked skus' fun sku => change sku (m.value sku) := by
  intro sku
  cases hm : m[sku]? with
  | none =>
    show Tracks skus'[sku]? (change sku (m.value sku))
    have hvalue : m.value sku = 0 := by rw [value_eq_getD, hm, getD_none]; rfl
    rw [hout sku hm, hvalue, hzero]
    exact h sku
  | some a =>
    show Tracks skus'[sku]? (change sku (m.value sku))
    rw [value_of_getElem? hm]
    exact hin sku a hm

/-- **`IncreaseSkuQuantity` from the bag**, where the bag holds enough of every article that is
not an accessory. -/
theorem increaseSkuQuantity_fromBag (h : AllTracked skus count) (hpos : PositiveCounts m)
    (hbag : ∀ (sku : String) (a : ℤ), m[sku]? = some a → BagHolds catalogue sku skus[sku]? a) :
    ∃ skus' : SkuMap, increaseSkuQuantity catalogue skus m true = .ok skus' ∧
      AllTracked skus' (fun sku => count sku + m.value sku) ∧
      ∀ (sku : String) (k : ℤ), BagHolds catalogue sku skus[sku]? (m.value sku + k) →
        BagHolds catalogue sku skus'[sku]? k := by
  obtain ⟨skus', hok, hin, hout⟩ := exists_foldlM_toList
    (increaseSku catalogue true) (fun t sku => t[sku]?)
    (fun sku a e => Tracks e (count sku) ∧ 0 < a ∧ BagHolds catalogue sku e a)
    (fun sku a e e' => Tracks e' (count sku + a) ∧
      ∀ k, BagHolds catalogue sku e (a + k) → BagHolds catalogue sku e' k)
    (fun t sku a hpre => increaseSku_tracks_fromBag hpre.1 hpre.2.1 hpre.2.2) m skus
    (fun sku a hm => ⟨h sku, hpos sku a hm, hbag sku a hm⟩)
  refine ⟨skus', hok, allTracked_of_entries (fun sku a => count sku + a)
    (fun _ => Int.add_zero _) h (fun sku a hm => (hin sku a hm).1) hout, fun sku k hk => ?_⟩
  cases hm : m[sku]? with
  | none =>
    have hvalue : m.value sku = 0 := by rw [value_eq_getD, hm, getD_none]; rfl
    rw [hout sku hm]
    rwa [hvalue, Int.zero_add] at hk
  | some a =>
    rw [value_of_getElem? hm] at hk
    exact (hin sku a hm).2 k hk

/-- **`IncreaseSkuQuantity` with pieces that are bought.** -/
theorem increaseSkuQuantity_bought (catalogue : Catalogue) (h : AllTracked skus count) (hpos :
    PositiveCounts m) : ∃ skus' : SkuMap, increaseSkuQuantity catalogue skus m false = .ok skus' ∧
      AllTracked skus' (fun sku => count sku + m.value sku) ∧
      ∀ (sku : String) (k : ℤ), BagHolds catalogue sku skus[sku]? k →
        BagHolds catalogue sku skus'[sku]? k := by
  obtain ⟨skus', hok, hin, hout⟩ := exists_foldlM_toList
    (increaseSku catalogue false) (fun t sku => t[sku]?)
    (fun sku a e => Tracks e (count sku) ∧ 0 < a)
    (fun sku a e e' => Tracks e' (count sku + a) ∧
      ∀ k, BagHolds catalogue sku e k → BagHolds catalogue sku e' k)
    (fun t sku a hpre => increaseSku_tracks_bought hpre.1 hpre.2) m skus
    (fun sku a hm => ⟨h sku, hpos sku a hm⟩)
  refine ⟨skus', hok, allTracked_of_entries (fun sku a => count sku + a)
    (fun _ => Int.add_zero _) h (fun sku a hm => (hin sku a hm).1) hout, fun sku k hk => ?_⟩
  cases hm : m[sku]? with
  | none => rwa [hout sku hm]
  | some a => exact (hin sku a hm).2 k hk

/-- **`DecreaseSkuQuantity`**, where no article loses more than is used. -/
theorem decreaseSkuQuantity_tracks (catalogue : Catalogue) (toBag : Bool) (h :
    AllTracked skus count) (hpos : PositiveCounts m)
    (hle : ∀ (sku : String) (a : ℤ), m[sku]? = some a → a ≤ count sku) :
    ∃ skus' : SkuMap, decreaseSkuQuantity skus m toBag = .ok skus' ∧
      AllTracked skus' (fun sku => count sku - m.value sku) ∧
      ∀ (sku : String) (k : ℤ), 0 < k → BagHolds catalogue sku skus[sku]? k →
        BagHolds catalogue sku skus'[sku]? k := by
  obtain ⟨skus', hok, hin, hout⟩ := exists_foldlM_toList
    (decreaseSku toBag) (fun t sku => t[sku]?)
    (fun sku a e => Tracks e (count sku) ∧ 0 < a ∧ a ≤ count sku)
    (fun sku a e e' => Tracks e' (count sku - a) ∧
      ∀ k, 0 < k → BagHolds catalogue sku e k → BagHolds catalogue sku e' k)
    (fun t sku a hpre => decreaseSku_tracks hpre.1 hpre.2.1 hpre.2.2) m skus
    (fun sku a hm => ⟨h sku, hpos sku a hm, hle sku a hm⟩)
  refine ⟨skus', hok, allTracked_of_entries (fun sku a => count sku - a)
    (fun _ => Int.sub_zero _) h (fun sku a hm => (hin sku a hm).1) hout, fun sku k hk hbag => ?_⟩
  cases hm : m[sku]? with
  | none => rwa [hout sku hm]
  | some a => exact (hin sku a hm).2 k hk hbag

/-! ### What a device adds and takes -/

theorem value_update_succ (m : QuantityMap) (name sku : String) :
    (m.update name (· + 1)).value sku = m.value sku + ([name].count sku : ℤ) := by
  rw [value_update, List.count_singleton]
  by_cases h : name = sku
  · rw [if_pos h, h, beq_self_eq_true, if_pos rfl]
    rfl
  · rw [if_neg h, if_neg (by simpa using h)]
    exact (Int.add_zero _).symm

/-- A loop that counts names: each round counts the name of its id, or none. -/
theorem foldlM_count {f : QuantityMap → ℤ → Except (Status × QuantityMap) QuantityMap}
    (name : ℤ → Option String)
    (hf : ∀ (m m' : QuantityMap) (id : ℤ), f m id = .ok m' → PositiveCounts m → PositiveCounts m' ∧
      ∀ sku, m'.value sku = m.value sku + ((name id).toList.count sku : ℤ))
    {ids : List ℤ} {m : QuantityMap} (h : ids.foldlM f m = .ok m') (hm : PositiveCounts m) :
    PositiveCounts m' ∧ ∀ sku, m'.value sku = m.value sku + ((ids.filterMap name).count sku :
      ℤ) := by
  induction ids generalizing m with
  | nil =>
    cases h
    exact ⟨hm, fun sku => by simp⟩
  | cons id ids ih =>
    rw [List.foldlM_cons] at h
    obtain ⟨m₁, hid, h⟩ := exists_of_bind h
    obtain ⟨hpos, hvalue⟩ := hf m m₁ id hid hm
    obtain ⟨hpos', hvalue'⟩ := ih h hpos
    refine ⟨hpos', fun sku => ?_⟩
    rw [hvalue', hvalue, List.filterMap_cons]
    cases name id with
    | none => simp
    | some x =>
      simp only [toList_some, List.count_cons, List.count_nil]
      omega

theorem positiveCounts_update {m : QuantityMap} (h : PositiveCounts m) (name : String) :
    PositiveCounts (m.update name (· + 1)) := by
  intro sku a ha
  rw [getElem?_update] at ha
  split_ifs at ha with hsku
  · cases ha
    cases hm : m[name]? with
    | none => rw [value_eq_getD, hm]; decide
    | some b =>
      have hb := h name b hm
      rw [value_of_getElem? hm]
      omega
  · exact h sku a ha

theorem addEthernetModule_count {m : QuantityMap} {id : ℤ}
    (h : addEthernetModule catalogue m id = .ok m') (hm : PositiveCounts m) : PositiveCounts m' ∧
      ∀ sku, m'.value sku = m.value sku + ((ethernetSku catalogue id).toList.count sku : ℤ) := by
  unfold addEthernetModule at h
  unfold ethernetSku
  cases hmod : catalogue.ethernetModuleMap[id]? with
  | none => rw [hmod] at h; cases h
  | some ethModule =>
    rw [hmod] at h
    cases h
    exact ⟨positiveCounts_update hm _, fun sku => value_update_succ m _ sku⟩

theorem addPowerModule_count {m : QuantityMap} {id : ℤ}
    (h : addPowerModule catalogue m id = .ok m') (hm : PositiveCounts m) : PositiveCounts m' ∧
      ∀ sku, m'.value sku = m.value sku + ((powerSku catalogue id).toList.count sku : ℤ) := by
  unfold addPowerModule at h
  unfold powerSku
  cases hmod : catalogue.powerModuleMap[id]? with
  | none => rw [hmod] at h; cases h
  | some pwrModule =>
    rw [hmod] at h
    dsimp only at h ⊢
    split_ifs at h ⊢ with hbuiltIn
    · cases h
      exact ⟨hm, fun sku => (Int.add_zero _).symm⟩
    · cases h
      exact ⟨positiveCounts_update hm _, fun sku => value_update_succ m _ sku⟩

/-- The modules a device without unknown modules is counted with are those it has. -/
theorem generateAccessoryMap_ok (h : generateAccessoryMap catalogue device = .ok accessories) :
    PositiveCounts accessories ∧ ∀ sku, accessories.value sku =
      moduleCount catalogue device sku := by
  obtain ⟨m, heth, hpwr⟩ := exists_of_bind h
  have hempty : PositiveCounts (∅ : QuantityMap) := by
    intro sku a ha
    simp at ha
  obtain ⟨hpos, hvalue⟩ := foldlM_count (ethernetSku catalogue)
    (fun _ _ _ => addEthernetModule_count) heth hempty
  obtain ⟨hpos', hvalue'⟩ := foldlM_count (powerSku catalogue)
    (fun _ _ _ => addPowerModule_count) hpwr hpos
  refine ⟨hpos', fun sku => ?_⟩
  rw [hvalue', hvalue, value_empty, moduleCount, moduleNames, List.count_append]
  show 0 + _ + _ = _
  omega

theorem modelMap_value (device : Device) (sku : String) :
    (modelMap device).value sku = if device.deviceProperty.modelName = sku then 1 else 0 := by
  rw [modelMap, value_insert, value_empty]
  rfl

theorem modelMap_entry (h : (modelMap device)[sku]? = some a) :
    sku = device.deviceProperty.modelName ∧ a = 1 := by
  rw [modelMap, getElem?_insert] at h
  split_ifs at h with hsku
  · rw [Std.compare_eq_iff_eq] at hsku
    exact ⟨hsku.symm, (some.inj h).symm⟩
  · simp at h

theorem modelMap_positive (device : Device) : PositiveCounts (modelMap device) := by
  intro sku a ha
  rw [(modelMap_entry ha).2]
  decide

theorem uses_eq (hlisted : catalogue.lists device.deviceProperty.modelName = true)
    (h : generateAccessoryMap catalogue device = .ok accessories) (sku : String) :
    uses catalogue device sku = (modelMap device).value sku + accessories.value sku := by
  rw [uses, if_pos hlisted, modelMap_value, (generateAccessoryMap_ok h).2 sku]

theorem generate_eq (h : generateAccessoryMap catalogue device = .ok accessories) :
    generateSkuQuantityFromDevice catalogue device = .ok (modelMap device, accessories) := by
  rw [generateSkuQuantityFromDevice, h]
  rfl

/-- Every module of the device is in the catalogues. -/
def ModulesKnown (catalogue : Catalogue) (device : Device) : Prop :=
  ∃ accessories, generateAccessoryMap catalogue device = .ok accessories

theorem bothQuantities_ok {change : SkuMap → QuantityMap → Except Status SkuMap}
    {devices : QuantityMap} {changed : SkuMap} (hfirst : change skus devices = .ok changed)
    (hsecond : change changed accessories = .ok skus') :
    bothQuantities change skus devices accessories = .ok skus' := by
  unfold bothQuantities
  rw [hfirst]
  show (change changed accessories).mapError _ = _
  rw [hsecond]
  rfl

theorem value_nonneg (h : PositiveCounts m) (sku : String) : 0 ≤ m.value sku := by
  cases hm : m[sku]? with
  | none =>
    rw [value_eq_getD, hm]
    decide
  | some a =>
    have ha := h sku a hm
    rw [value_of_getElem? hm]
    omega

theorem uses_of_not_listed (h : catalogue.lists device.deviceProperty.modelName = false)
    (sku : String) : uses catalogue device sku = 0 := by
  rw [uses, if_neg (by rw [h]; exact Bool.false_ne_true)]

/-- **A device that is added** is counted: with pieces from the bag, of which the bag has to hold
enough, or with pieces that are bought. -/
theorem updateSkuQuantityByAddDevice_tracks (h : AllTracked skus count)
    (hknown : catalogue.lists device.deviceProperty.modelName = true →
      ModulesKnown catalogue device)
    (hbag : fromBag = true → catalogue.lists device.deviceProperty.modelName = true ∧ ∀ sku,
      0 < uses catalogue device sku → BagHolds catalogue sku skus[sku]?
      (uses catalogue device sku)) :
    ∃ skus' : SkuMap, updateSkuQuantityByAddDevice catalogue skus device fromBag = .ok skus' ∧
      AllTracked skus' fun sku => count sku + uses catalogue device sku := by
  unfold updateSkuQuantityByAddDevice
  dsimp only
  cases hlisted : catalogue.lists device.deviceProperty.modelName with
  | false =>
    have hbought : fromBag = false := by
      cases fromBag with
      | false => rfl
      | true => exact absurd (hbag rfl).1 (by rw [hlisted]; exact Bool.false_ne_true)
    subst hbought
    refine ⟨skus, rfl, fun sku => ?_⟩
    dsimp only
    rw [uses_of_not_listed hlisted, Int.add_zero]
    exact h sku
  | true =>
    obtain ⟨accessories, hmods⟩ := hknown hlisted
    obtain ⟨hpos, -⟩ := generateAccessoryMap_ok hmods
    have huses := uses_eq hlisted hmods
    have hmodel := modelMap_positive device
    have hcount : (fun sku => count sku + uses catalogue device sku) =
        fun sku => count sku + (modelMap device).value sku + accessories.value sku := by
      funext sku
      rw [huses]
      omega
    rw [hcount, Bool.not_true, Bool.false_and, if_neg Bool.false_ne_true, if_neg Bool.false_ne_true,
      generate_eq hmods]
    dsimp only
    cases fromBag with
    | false =>
      obtain ⟨changed, hfirst, htracks, -⟩ := increaseSkuQuantity_bought catalogue h hmodel
      obtain ⟨skus', hsecond, htracks', -⟩ := increaseSkuQuantity_bought catalogue htracks hpos
      exact ⟨skus', bothQuantities_ok hfirst hsecond, htracks'⟩
    | true =>
      have hholds : ∀ sku, 0 < (modelMap device).value sku + accessories.value sku →
          BagHolds catalogue sku skus[sku]?
            ((modelMap device).value sku + accessories.value sku) := by
        intro sku hsku
        rw [← huses] at hsku ⊢
        exact (hbag rfl).2 sku hsku
      obtain ⟨changed, hfirst, htracks, hbags⟩ := increaseSkuQuantity_fromBag h hmodel
        fun sku a ha => by
          have hvalue := value_of_getElem? ha
          have hpos' := hmodel sku a ha
          have hle := value_nonneg hpos sku
          have hsum := hholds sku (by omega)
          exact hsum.imp id fun ⟨e, he, hroom⟩ => ⟨e, he, by omega⟩
      obtain ⟨skus', hsecond, htracks', -⟩ := increaseSkuQuantity_fromBag htracks hpos
        fun sku a ha => by
          have hvalue := value_of_getElem? ha
          have hpos' := hpos sku a ha
          have hle := value_nonneg hmodel sku
          have hsum := hbags sku _ (hholds sku (by omega))
          rwa [hvalue] at hsum
      exact ⟨skus', bothQuantities_ok hfirst hsecond, htracks'⟩

/-- **A device that is deleted** is counted no more. -/
theorem updateSkuQuantityByDeleteDevice_tracks (h : AllTracked skus count)
    (hknown : catalogue.lists device.deviceProperty.modelName = true →
      ModulesKnown catalogue device)
    (hbag : toBag = true → catalogue.lists device.deviceProperty.modelName = true)
    (hle : ∀ sku, uses catalogue device sku ≤ count sku) :
    ∃ skus' : SkuMap, updateSkuQuantityByDeleteDevice catalogue skus device toBag = .ok skus' ∧
      AllTracked skus' fun sku => count sku - uses catalogue device sku := by
  unfold updateSkuQuantityByDeleteDevice
  dsimp only
  cases hlisted : catalogue.lists device.deviceProperty.modelName with
  | false =>
    have hbought : toBag = false := by
      cases toBag with
      | false => rfl
      | true => exact absurd (hbag rfl) (by rw [hlisted]; exact Bool.false_ne_true)
    subst hbought
    refine ⟨skus, rfl, fun sku => ?_⟩
    dsimp only
    rw [uses_of_not_listed hlisted, Int.sub_zero]
    exact h sku
  | true =>
    obtain ⟨accessories, hmods⟩ := hknown hlisted
    obtain ⟨hpos, -⟩ := generateAccessoryMap_ok hmods
    have huses := uses_eq hlisted hmods
    have hmodel := modelMap_positive device
    rw [Bool.not_true, Bool.false_and, if_neg Bool.false_ne_true, if_neg Bool.false_ne_true,
      generate_eq hmods]
    dsimp only
    have hbound : ∀ sku, (modelMap device).value sku + accessories.value sku ≤ count sku :=
      fun sku => huses sku ▸ hle sku
    obtain ⟨changed, hfirst, htracks, -⟩ := decreaseSkuQuantity_tracks catalogue toBag h hmodel
      fun sku a ha => by
        have hvalue := value_of_getElem? ha
        have hnn := value_nonneg hpos sku
        have hsku := hbound sku
        omega
    obtain ⟨skus', hsecond, htracks', -⟩ := decreaseSkuQuantity_tracks catalogue toBag htracks hpos
      fun sku a ha => by
        have hvalue := value_of_getElem? ha
        have hsku := hbound sku
        omega
    refine ⟨skus', bothQuantities_ok hfirst hsecond, fun sku => ?_⟩
    have hsku := htracks' sku
    dsimp only at hsku ⊢
    rwa [huses, ← Int.sub_sub]

/-! ### What an update changes -/

/-- The map a call leaves, with whatever status. -/
def carried (result : Except (Status × QuantityMap) QuantityMap) : QuantityMap :=
  match result with
  | .ok m => m
  | .error (_, m) => m

theorem carried_foldlM_positive {f : QuantityMap → ℤ → Except (Status × QuantityMap) QuantityMap}
    (hf : ∀ (m : QuantityMap) (id : ℤ), PositiveCounts m → PositiveCounts (carried (f m id)))
    (ids : List ℤ) {m : QuantityMap} (h : PositiveCounts m) :
    PositiveCounts (carried (ids.foldlM f m)) := by
  induction ids generalizing m with
  | nil => exact h
  | cons id ids ih =>
    rw [List.foldlM_cons]
    have hid := hf m id h
    cases hfm : f m id with
    | error left => rw [hfm] at hid; exact hid
    | ok m' => rw [hfm] at hid; exact ih hid

/-- The counts of modules are positive, also of a device with unknown modules. -/
theorem accessoryMap_positive (catalogue : Catalogue) (device : Device) :
    PositiveCounts (accessoryMap catalogue device) := by
  have heth : ∀ (m : QuantityMap) (id : ℤ), PositiveCounts m →
      PositiveCounts (carried (addEthernetModule catalogue m id)) := by
    intro m id hm
    unfold addEthernetModule
    split
    · exact positiveCounts_update hm _
    · exact hm
  have hpwr : ∀ (m : QuantityMap) (id : ℤ), PositiveCounts m →
      PositiveCounts (carried (addPowerModule catalogue m id)) := by
    intro m id hm
    unfold addPowerModule
    split
    · split_ifs
      · exact hm
      · exact positiveCounts_update hm _
    · exact hm
  have hempty : PositiveCounts (∅ : QuantityMap) := by
    intro sku a ha
    simp at ha
  have hfirst := carried_foldlM_positive heth device.modularConfiguration.ethernet.vals hempty
  show PositiveCounts (carried (generateAccessoryMap catalogue device))
  unfold generateAccessoryMap
  cases hrun : device.modularConfiguration.ethernet.vals.foldlM (addEthernetModule catalogue) ∅ with
  | error left => rw [hrun] at hfirst; exact hfirst
  | ok m =>
    rw [hrun] at hfirst
    exact carried_foldlM_positive hpwr device.modularConfiguration.power.vals hfirst

/-- By how much an update changes the count of an article as a module: only articles in the
general profiles are looked at. -/
def moduleDelta (catalogue : Catalogue) (oldDevice newDevice : Device) (sku : String) : ℤ :=
  if catalogue.lists sku then
    (accessoryMap catalogue newDevice).value sku - (accessoryMap catalogue oldDevice).value sku
  else 0

/-- What the delta says of one article as a module: whether it is deleted, and the difference. -/
def accessoryEntry (delta : SkuQuantityDelta) (sku : String) : Bool × Option ℤ :=
  (delta.deletedAccessories.contains sku, delta.accessoryDelta[sku]?)

theorem accessoryEntry_delete (delta : SkuQuantityDelta) (sku sku' : String) :
    accessoryEntry { delta with deletedAccessories := delta.deletedAccessories ++ [sku] } sku' =
      if sku = sku' then (true, (accessoryEntry delta sku').2) else accessoryEntry delta sku' := by
  unfold accessoryEntry
  split_ifs with h
  · simp [h]
  · simp [Ne.symm h]

theorem accessoryEntry_insert (delta : SkuQuantityDelta) (sku sku' : String) (a : ℤ) :
    accessoryEntry { delta with accessoryDelta := delta.accessoryDelta.insert sku a } sku' =
      if sku = sku' then ((accessoryEntry delta sku').1,
        some a) else accessoryEntry delta sku' := by
  unfold accessoryEntry
  dsimp only
  rw [getElem?_insert]
  simp only [Std.compare_eq_iff_eq]
  split_ifs <;> rfl

/-- The loop over the modules of the old device. -/
theorem removedModule_entries (catalogue : Catalogue) (skus : SkuMap)
    (newAccessories oldAccessories : QuantityMap)
    (delta : SkuQuantityDelta) :
    let delta' := oldAccessories.toList.foldl (removedModule catalogue skus newAccessories) delta
    (∀ (sku : String) (a : ℤ), oldAccessories[sku]? = some a → accessoryEntry delta' sku =
      if catalogue.lists sku = true ∧ newAccessories.value sku = 0 then
        if (skus.value sku).quantity = a then (true, (accessoryEntry delta sku).2)
        else ((accessoryEntry delta sku).1, some (-a))
      else accessoryEntry delta sku) ∧
    ∀ sku : String, oldAccessories[sku]? = none →
      accessoryEntry delta' sku = accessoryEntry delta sku := by
  refine foldl_toList (removedModule catalogue skus newAccessories) accessoryEntry
    (fun sku a e e' => e' = if catalogue.lists sku = true ∧ newAccessories.value sku = 0 then
        if (skus.value sku).quantity = a then (true, e.2) else (e.1, some (-a)) else e)
    (fun delta sku a => ?_) oldAccessories delta
  unfold removedModule
  dsimp only
  cases hlisted : catalogue.lists sku with
  | false => simp
  | true =>
    rw [Bool.not_true, if_neg Bool.false_ne_true]
    by_cases hnew : newAccessories.value sku = 0
    · have hcond : true = true ∧ newAccessories.value sku = 0 := ⟨rfl, hnew⟩
      rw [if_pos hnew, if_pos hcond]
      by_cases hq : (skus.value sku).quantity = a
      · rw [if_pos hq, if_pos hq, accessoryEntry_delete, if_pos rfl]
        exact ⟨rfl, fun sku' hne => by rw [accessoryEntry_delete, if_neg (Ne.symm hne)]⟩
      · rw [if_neg hq, if_neg hq, accessoryEntry_insert, if_pos rfl]
        exact ⟨rfl, fun sku' hne => by rw [accessoryEntry_insert, if_neg (Ne.symm hne)]⟩
    · rw [if_neg hnew, if_neg fun h => hnew h.2]
      exact ⟨rfl, fun _ _ => rfl⟩

/-- The loop over the modules of the new device. -/
theorem changedModule_entries (catalogue : Catalogue)
    (oldAccessories newAccessories : QuantityMap)
    (delta : SkuQuantityDelta) :
    let delta' := newAccessories.toList.foldl (changedModule catalogue oldAccessories) delta
    (∀ (sku : String) (b : ℤ), newAccessories[sku]? = some b → accessoryEntry delta' sku =
      if catalogue.lists sku = true ∧ b - oldAccessories.value sku ≠ 0 then
        ((accessoryEntry delta sku).1,
          some (((accessoryEntry delta sku).2).getD 0 + (b - oldAccessories.value sku)))
      else accessoryEntry delta sku) ∧
    ∀ sku : String, newAccessories[sku]? = none →
      accessoryEntry delta' sku = accessoryEntry delta sku := by
  refine foldl_toList (changedModule catalogue oldAccessories) accessoryEntry
    (fun sku b e e' => e' = if catalogue.lists sku = true ∧ b - oldAccessories.value sku ≠ 0 then
        (e.1, some (e.2.getD 0 + (b - oldAccessories.value sku))) else e)
    (fun delta sku b => ?_) newAccessories delta
  unfold changedModule
  dsimp only
  cases hlisted : catalogue.lists sku with
  | false => simp
  | true =>
    rw [Bool.not_true, if_neg Bool.false_ne_true]
    by_cases hdiff : b - oldAccessories.value sku = 0
    · rw [if_pos hdiff, if_neg fun h => h.2 hdiff]
      exact ⟨rfl, fun _ _ => rfl⟩
    · rw [if_neg hdiff, if_pos ⟨rfl, hdiff⟩, update, accessoryEntry_insert, if_pos rfl]
      refine ⟨?_, fun sku' hne => by rw [accessoryEntry_insert, if_neg (Ne.symm hne)]⟩
      rw [value_eq_getD]
      rfl

/-- What the delta says of an article as a module, from the two loops. -/
def ModuleEntry (skus : SkuMap) (sku : String) (diff : ℤ) (entry : Bool × Option ℤ) : Prop :=
  (entry.1 = true → entry.2 = none ∧ 0 < -diff ∧ (skus.value sku).quantity = -diff) ∧
  (entry.1 = false → entry.2 = if diff = 0 then none else some diff)

theorem removedModule_entry (catalogue : Catalogue) (skus : SkuMap) {old : QuantityMap}
    (hold : PositiveCounts old) (new : QuantityMap) {delta : SkuQuantityDelta}
    (h : accessoryEntry delta sku = (false, none)) :
    accessoryEntry (old.toList.foldl (removedModule catalogue skus new) delta) sku =
      if catalogue.lists sku = true ∧ new.value sku = 0 ∧ old.value sku ≠ 0 then
        if (skus.value sku).quantity = old.value sku then (true, none)
        else (false, some (-old.value sku))
      else (false, none) := by
  obtain ⟨hremd, hkept⟩ := removedModule_entries catalogue skus new old delta
  cases hentry : old[sku]? with
  | none =>
    have hvalue : old.value sku = 0 := by rw [value_eq_getD, hentry]; rfl
    rw [if_neg fun hcond => hcond.2.2 hvalue, hkept sku hentry, h]
  | some a =>
    have ha := hold sku a hentry
    rw [value_of_getElem? hentry, hremd sku a hentry, h]
    by_cases hcond : catalogue.lists sku = true ∧ new.value sku = 0
    · have hcond' : catalogue.lists sku = true ∧ new.value sku = 0 ∧ a ≠ 0 :=
        ⟨hcond.1, hcond.2, by omega⟩
      rw [if_pos hcond, if_pos hcond']
    · rw [if_neg hcond, if_neg fun hcond' => hcond ⟨hcond'.1, hcond'.2.1⟩]

theorem changedModule_entry (catalogue : Catalogue) {new : QuantityMap}
    (hnew : PositiveCounts new) (old : QuantityMap) (delta : SkuQuantityDelta) (sku : String) :
    accessoryEntry (new.toList.foldl (changedModule catalogue old) delta) sku =
      if catalogue.lists sku = true ∧ new.value sku ≠ 0 ∧ new.value sku - old.value sku ≠ 0 then
        ((accessoryEntry delta sku).1,
          some (((accessoryEntry delta sku).2).getD 0 + (new.value sku - old.value sku)))
      else accessoryEntry delta sku := by
  obtain ⟨hchanged, hkept⟩ := changedModule_entries catalogue old new delta
  cases hentry : new[sku]? with
  | none =>
    have hvalue : new.value sku = 0 := by rw [value_eq_getD, hentry]; rfl
    rw [if_neg fun hcond => hcond.2.1 hvalue, hkept sku hentry]
  | some b =>
    have hb := hnew sku b hentry
    rw [value_of_getElem? hentry, hchanged sku b hentry]
    by_cases hcond : catalogue.lists sku = true ∧ b - old.value sku ≠ 0
    · have hcond' : catalogue.lists sku = true ∧ b ≠ 0 ∧ b - old.value sku ≠ 0 :=
        ⟨hcond.1, by omega, hcond.2⟩
      rw [if_pos hcond, if_pos hcond']
    · rw [if_neg hcond, if_neg fun hcond' => hcond ⟨hcond'.1, hcond'.2.2⟩]

theorem accessoryMap_of_sameModules
    (h : sameModules oldDevice.modularConfiguration newDevice.modularConfiguration = true) :
    accessoryMap catalogue newDevice = accessoryMap catalogue oldDevice := by
  unfold sameModules at h
  rw [Bool.and_eq_true, beq_iff_eq, beq_iff_eq] at h
  unfold accessoryMap generateAccessoryMap vals
  rw [h.1, h.2]

theorem moduleDelta_of_sameModules
    (h : sameModules oldDevice.modularConfiguration newDevice.modularConfiguration = true)
    (sku : String) : moduleDelta catalogue oldDevice newDevice sku = 0 := by
  unfold moduleDelta
  rw [accessoryMap_of_sameModules h, Int.sub_self, ite_self]

/-- **The delta of the modules** is the difference of the counts, split into what is deleted and
what is changed. -/
theorem moduleEntry_calculateDelta (catalogue : Catalogue) (skus : SkuMap)
    (oldDevice newDevice : Device) (sku : String) :
    ModuleEntry skus sku (moduleDelta catalogue oldDevice newDevice sku)
      (accessoryEntry (calculateDelta catalogue skus oldDevice newDevice) sku) := by
  have hmodel : accessoryEntry (calculateModelDelta catalogue skus
      oldDevice.deviceProperty.modelName newDevice.deviceProperty.modelName {}) sku =
      (false, none) := by
    unfold calculateModelDelta
    split_ifs <;> simp [accessoryEntry]
  have holdPos := accessoryMap_positive catalogue oldDevice
  have hnewPos := accessoryMap_positive catalogue newDevice
  unfold calculateDelta
  dsimp only
  split_ifs with hsame
  · rw [hmodel, moduleDelta_of_sameModules hsame]
    exact ⟨fun h => (Bool.false_ne_true h).elim, fun _ => rfl⟩
  · generalize calculateModelDelta catalogue skus oldDevice.deviceProperty.modelName
      newDevice.deviceProperty.modelName {} = delta at hmodel
    unfold moduleDelta
    generalize accessoryMap catalogue newDevice = new at hnewPos
    generalize accessoryMap catalogue oldDevice = old at holdPos
    have hfirst := removedModule_entry catalogue skus holdPos new hmodel
    have hsecond := changedModule_entry catalogue hnewPos old
      (old.toList.foldl (removedModule catalogue skus new) delta) sku
    rw [hfirst] at hsecond
    rw [hsecond]
    have hold := value_nonneg holdPos sku
    have hnew := value_nonneg hnewPos sku
    unfold ModuleEntry
    split_ifs <;> simp_all
    omega

/-- What the delta says of the models does not come from the modules. -/
theorem calculateDelta_models (catalogue : Catalogue) (skus : SkuMap)
    (oldDevice newDevice : Device) :
    let delta := calculateDelta catalogue skus oldDevice newDevice
    let models := calculateModelDelta catalogue skus oldDevice.deviceProperty.modelName
      newDevice.deviceProperty.modelName {}
    delta.deletedDevices = models.deletedDevices ∧ delta.deviceDelta = models.deviceDelta := by
  dsimp only
  unfold calculateDelta
  generalize calculateModelDelta catalogue skus oldDevice.deviceProperty.modelName
    newDevice.deviceProperty.modelName {} = models
  dsimp only
  split_ifs
  · exact ⟨rfl, rfl⟩
  · have hremd : ∀ (l : List (String × ℤ)) (new : QuantityMap) (delta : SkuQuantityDelta),
        (l.foldl (removedModule catalogue skus new) delta).deletedDevices = delta.deletedDevices ∧
        (l.foldl (removedModule catalogue skus new) delta).deviceDelta = delta.deviceDelta := by
      intro l new
      induction l with
      | nil => exact fun _ => ⟨rfl, rfl⟩
      | cons x l ih =>
        intro delta
        rw [List.foldl_cons, (ih _).1, (ih _).2]
        unfold removedModule
        dsimp only
        split_ifs <;> exact ⟨rfl, rfl⟩
    have hchanged : ∀ (l : List (String × ℤ)) (old : QuantityMap) (delta : SkuQuantityDelta),
        (l.foldl (changedModule catalogue old) delta).deletedDevices = delta.deletedDevices ∧
        (l.foldl (changedModule catalogue old) delta).deviceDelta = delta.deviceDelta := by
      intro l old
      induction l with
      | nil => exact fun _ => ⟨rfl, rfl⟩
      | cons x l ih =>
        intro delta
        rw [List.foldl_cons, (ih _).1, (ih _).2]
        unfold changedModule
        dsimp only
        split_ifs <;> exact ⟨rfl, rfl⟩
    rw [(hchanged _ _ _).1, (hchanged _ _ _).2, (hremd _ _ _).1, (hremd _ _ _).2]
    exact ⟨rfl, rfl⟩

/-- The entries of the articles that are used no more. -/
theorem deletedMap_entry (skus : SkuMap) (deleted : List String) (sku : String) :
    (deletedMap skus deleted)[sku]? =
      if deleted.contains sku = true then some (skus.value sku).quantity else none := by
  have hpairs : deletedMap skus deleted = (deleted.map fun sku => (sku,
    (skus.value sku).quantity)).foldl
      (fun m p => m.insert p.1 p.2) ∅ := by
    rw [deletedMap, List.foldl_map]
  rw [hpairs, getElem?_foldl_insert (f := fun sku => (skus.value sku).quantity) (by simp)]
  simp

theorem increaseMap_entry {delta : QuantityMap} :
    (increaseMap delta)[sku]? = some a ↔ delta[sku]? = some a ∧ 0 < a := by
  rw [increaseMap, getElem?_filter', filter_eq_some_iff]
  simp

theorem decreaseMap_entry {delta : QuantityMap} :
    (decreaseMap delta)[sku]? = some a ↔ delta[sku]? = some (-a) ∧ 0 < a := by
  rw [decreaseMap, getElem?_map, getElem?_filter', map_eq_some_iff]
  simp only [filter_eq_some_iff, decide_eq_true_eq]
  constructor
  · rintro ⟨b, ⟨hb, hneg⟩, rfl⟩
    exact ⟨by rwa [Int.neg_neg], by omega⟩
  · rintro ⟨hb, hpos⟩
    exact ⟨-a, ⟨hb, by omega⟩, Int.neg_neg a⟩

theorem value_eq (m : QuantityMap) (sku : String) : m.value sku = (m[sku]?).getD 0 :=
  value_eq_getD m sku

theorem increaseMap_value (delta : QuantityMap) (sku : String) :
    (increaseMap delta).value sku = max ((delta[sku]?).getD 0) 0 := by
  rw [value_eq]
  cases hentry : (increaseMap delta)[sku]? with
  | some a =>
    obtain ⟨ha, hpos⟩ := increaseMap_entry.1 hentry
    rw [ha]
    show a = max a 0
    omega
  | none =>
    show 0 = _
    cases hdelta : delta[sku]? with
    | none => rfl
    | some a =>
      have hneg : ¬0 < a := fun hpos => by
        rw [increaseMap_entry.2 ⟨hdelta, hpos⟩] at hentry
        cases hentry
      show 0 = max a 0
      omega

theorem decreaseMap_value (delta : QuantityMap) (sku : String) :
    (decreaseMap delta).value sku = max (-(delta[sku]?).getD 0) 0 := by
  rw [value_eq]
  cases hentry : (decreaseMap delta)[sku]? with
  | some a =>
    obtain ⟨ha, hpos⟩ := decreaseMap_entry.1 hentry
    rw [ha]
    show a = max (- -a) 0
    omega
  | none =>
    show 0 = _
    cases hdelta : delta[sku]? with
    | none => rfl
    | some a =>
      have hneg : ¬0 < -a := fun hpos => by
        rw [decreaseMap_entry.2 ⟨by rw [hdelta, Int.neg_neg], hpos⟩] at hentry
        cases hentry
      show 0 = max (-a) 0
      omega

/-- How often an article counts as a module of the device. -/
def moduleUses (catalogue : Catalogue) (device : Device) (sku : String) : ℤ :=
  if catalogue.lists device.deviceProperty.modelName then moduleCount catalogue device sku else 0

/-- How often an article counts as the model of the device. -/
def modelUses (catalogue : Catalogue) (device : Device) (sku : String) : ℤ :=
  if catalogue.lists device.deviceProperty.modelName then
    if device.deviceProperty.modelName = sku then 1 else 0
  else 0

theorem uses_eq_add (catalogue : Catalogue) (device : Device) (sku : String) :
    uses catalogue device sku =
      modelUses catalogue device sku + moduleUses catalogue device sku := by
  unfold uses modelUses moduleUses
  by_cases h : catalogue.lists device.deviceProperty.modelName = true
  · rw [if_pos h, if_pos h, if_pos h]
  · rw [if_neg h, if_neg h, if_neg h]
    rfl

theorem moduleUses_nonneg (catalogue : Catalogue) (device : Device) (sku : String) :
    0 ≤ moduleUses catalogue device sku := by
  unfold moduleUses moduleCount
  split_ifs <;> omega

theorem modelUses_nonneg (catalogue : Catalogue) (device : Device) (sku : String) :
    0 ≤ modelUses catalogue device sku := by
  unfold modelUses
  split_ifs <;> omega

/-- What six counts of one article amount to, in the order they are applied: the model and the
modules that are used no more, the model that comes, the one that goes, and the modules that come
and go. -/
structure DeltaCounts (catalogue : Catalogue) (oldDevice newDevice : Device) (sku : String)
    (n₁ n₂ n₃ n₄ n₅ n₆ : ℤ) : Prop where
  models : n₃ - n₄ - n₁ = modelUses catalogue newDevice sku - modelUses catalogue oldDevice sku
  modelsLe : n₄ + n₁ ≤ modelUses catalogue oldDevice sku
  modules : n₅ - n₆ - n₂ = moduleDelta catalogue oldDevice newDevice sku
  modulesLe : n₆ + n₂ ≤ max (-moduleDelta catalogue oldDevice newDevice sku) 0

/-- The delta of two different models, for one article. -/
theorem modelDelta_entry (catalogue : Catalogue) (skus : SkuMap) {old new : String} (hne :
    old ≠ new)
    (sku : String) :
    ((calculateModelDelta catalogue skus old new {}).deletedDevices.contains sku = true ↔
      catalogue.lists old = true ∧ (skus.value old).quantity = 1 ∧ old = sku) ∧
    (calculateModelDelta catalogue skus old new {}).deviceDelta[sku]? =
      if catalogue.lists new = true ∧ new = sku then some 1
      else if catalogue.lists old = true ∧ (skus.value old).quantity ≠ 1 ∧ old = sku then some (-1)
      else none := by
  unfold calculateModelDelta
  rw [if_neg hne]
  cases hold : catalogue.lists old <;> cases hnew : catalogue.lists new <;>
    by_cases hlast : (skus.value old).quantity = 1 <;>
    simp [hlast, getElem?_insert, @eq_comm _ sku]

theorem deltaCounts_calculateDelta (catalogue : Catalogue) (skus : SkuMap)
    (oldDevice newDevice : Device) (sku : String) :
    let delta := calculateDelta catalogue skus oldDevice newDevice
    DeltaCounts catalogue oldDevice newDevice sku
      ((deletedMap skus delta.deletedDevices).value sku)
      ((deletedMap skus delta.deletedAccessories).value sku)
      ((increaseMap delta.deviceDelta).value sku) ((decreaseMap delta.deviceDelta).value sku)
      ((increaseMap delta.accessoryDelta).value sku)
      ((decreaseMap delta.accessoryDelta).value sku) := by
  dsimp only
  obtain ⟨hdeleted, hdelta⟩ := calculateDelta_models catalogue skus oldDevice newDevice
  have hmods := moduleEntry_calculateDelta catalogue skus oldDevice newDevice sku
  generalize calculateDelta catalogue skus oldDevice newDevice = delta at hdeleted hdelta hmods
  have hmodel : (increaseMap delta.deviceDelta).value sku -
      (decreaseMap delta.deviceDelta).value sku -
      (deletedMap skus delta.deletedDevices).value sku =
      modelUses catalogue newDevice sku - modelUses catalogue oldDevice sku ∧
      (decreaseMap delta.deviceDelta).value sku + (deletedMap skus delta.deletedDevices).value sku ≤
        modelUses catalogue oldDevice sku := by
    rw [increaseMap_value, decreaseMap_value, value_eq (deletedMap _ _), deletedMap_entry, hdeleted,
      hdelta]
    unfold modelUses
    generalize oldDevice.deviceProperty.modelName = old
    generalize newDevice.deviceProperty.modelName = new
    by_cases hsame : old = new
    · subst hsame
      have hnone : calculateModelDelta catalogue skus old old {} = {} := if_pos rfl
      rw [hnone]
      simp
      split_ifs <;> omega
    · obtain ⟨hcont, hentry⟩ := modelDelta_entry catalogue skus hsame sku
      generalize calculateModelDelta catalogue skus old new {} = models at hcont hentry
      rw [hentry, ← ite_and, ← ite_and]
      by_cases hnew : catalogue.lists new = true ∧ new = sku
      · have hold : old ≠ sku := fun h => hsame (h.trans hnew.2.symm)
        rw [if_pos hnew, if_pos hnew, if_neg fun h => hold (hcont.1 h).2.2,
          if_neg fun h => hold h.2]
        decide
      · rw [if_neg hnew, if_neg hnew]
        by_cases hold : catalogue.lists old = true ∧ old = sku
        · rw [if_pos hold]
          by_cases hlast : (skus.value old).quantity = 1
          · rw [if_neg fun h => h.2.1 hlast, if_pos (hcont.2 ⟨hold.1, hlast, hold.2⟩), ← hold.2,
              hlast]
            decide
          · rw [if_pos ⟨hold.1, hlast, hold.2⟩, if_neg fun h => hlast (hcont.1 h).2.1]
            decide
        · rw [if_neg hold, if_neg fun h => hold ⟨h.1, h.2.2⟩, if_neg fun h =>
            hold ⟨(hcont.1 h).1, (hcont.1 h).2.2⟩]
          decide
  have hmod : (increaseMap delta.accessoryDelta).value sku -
      (decreaseMap delta.accessoryDelta).value sku -
      (deletedMap skus delta.deletedAccessories).value sku =
      moduleDelta catalogue oldDevice newDevice sku ∧
      (decreaseMap delta.accessoryDelta).value sku +
      (deletedMap skus delta.deletedAccessories).value sku ≤
      max (-moduleDelta catalogue oldDevice newDevice sku) 0 := by
    obtain ⟨hgone, hchanged⟩ := hmods
    rw [increaseMap_value, decreaseMap_value, value_eq (deletedMap _ _), deletedMap_entry]
    dsimp only [accessoryEntry] at hgone hchanged
    cases hcont : delta.deletedAccessories.contains sku with
    | true =>
      obtain ⟨hnone, hneg, hq⟩ := hgone hcont
      rw [hnone, hq, if_pos rfl]
      simp only [getD_none, getD_some]
      omega
    | false =>
      rw [hchanged hcont, if_neg Bool.false_ne_true]
      split_ifs <;> simp only [getD_none, getD_some] <;> omega
  exact ⟨hmodel.1, hmodel.2, hmod.1, hmod.2⟩

/-- The counts an update needs: of every article the uses as a module change by what the delta
says, and the bag holds enough of the modules that come. -/
structure ModulesTracked (catalogue : Catalogue) (skus : SkuMap) (oldDevice newDevice : Device) :
    Prop where
  delta : ∀ sku, moduleUses catalogue newDevice sku - moduleUses catalogue oldDevice sku =
    moduleDelta catalogue oldDevice newDevice sku
  bag : ∀ sku, 0 < moduleDelta catalogue oldDevice newDevice sku →
    BagHolds catalogue sku skus[sku]? (moduleDelta catalogue oldDevice newDevice sku)

theorem positive_deletedMap {deleted : List String}
    (h : ∀ sku, deleted.contains sku = true → 0 < (skus.value sku).quantity) :
    PositiveCounts (deletedMap skus deleted) := by
  intro sku a ha
  rw [deletedMap_entry] at ha
  split_ifs at ha with hcont
  cases ha
  exact h sku hcont

theorem foldlM_step {step : SkuMap → Except Status SkuMap}
    {rest : List (SkuMap → Except Status SkuMap)} {changed : SkuMap} {result : SkuMap}
    (hstep : step skus = .ok changed)
    (hrest : rest.foldlM (fun skus step => (step skus).mapError (·, skus)) changed = .ok result) :
    (step :: rest).foldlM (fun skus step => (step skus).mapError (·, skus)) skus =
      (.ok result : Except SkuFailure SkuMap) := by
  rw [List.foldlM_cons, hstep]
  exact hrest

/-- **A device that is updated** is counted as it is now. -/
theorem updateSkuQuantityByUpdateDevice_tracks (h : AllTracked skus count)
    (hle : ∀ sku, uses catalogue oldDevice sku ≤ count sku)
    (hmods : ModulesTracked catalogue skus oldDevice newDevice) : ∃ skus' : SkuMap,
      updateSkuQuantityByUpdateDevice catalogue skus oldDevice newDevice = .ok skus' ∧
      AllTracked skus' fun sku =>
        count sku + uses catalogue newDevice sku - uses catalogue oldDevice sku := by
  unfold updateSkuQuantityByUpdateDevice applySkuQuantityDelta
  have hmaps := deltaCounts_calculateDelta catalogue skus oldDevice newDevice
  obtain ⟨hdeleted, -⟩ := calculateDelta_models catalogue skus oldDevice newDevice
  have hentries := moduleEntry_calculateDelta catalogue skus oldDevice newDevice
  generalize calculateDelta catalogue skus oldDevice newDevice = delta at hmaps hdeleted hentries
  dsimp only at hmaps
  -- the six maps, and that they hold positive counts
  have hpos₁ : PositiveCounts (deletedMap skus delta.deletedDevices) := by
    refine positive_deletedMap fun sku hcont => ?_
    rw [hdeleted] at hcont
    by_cases hsame : oldDevice.deviceProperty.modelName = newDevice.deviceProperty.modelName
    · rw [calculateModelDelta, if_pos hsame] at hcont
      cases hcont
    · obtain ⟨-, hlast, rfl⟩ := (modelDelta_entry catalogue skus hsame sku).1.1 hcont
      omega
  have hpos₂ : PositiveCounts (deletedMap skus delta.deletedAccessories) := by
    refine positive_deletedMap fun sku hcont => ?_
    obtain ⟨-, hneg, hq⟩ := (hentries sku).1 hcont
    omega
  have hpos₃ : PositiveCounts (increaseMap delta.deviceDelta) :=
    fun sku a ha => (increaseMap_entry.1 ha).2
  have hpos₄ : PositiveCounts (decreaseMap delta.deviceDelta) :=
    fun sku a ha => (decreaseMap_entry.1 ha).2
  have hpos₅ : PositiveCounts (increaseMap delta.accessoryDelta) :=
    fun sku a ha => (increaseMap_entry.1 ha).2
  have hpos₆ : PositiveCounts (decreaseMap delta.accessoryDelta) :=
    fun sku a ha => (decreaseMap_entry.1 ha).2
  unfold deltaSteps
  generalize deletedMap skus delta.deletedDevices = m₁ at *
  generalize deletedMap skus delta.deletedAccessories = m₂ at *
  generalize increaseMap delta.deviceDelta = m₃ at *
  generalize decreaseMap delta.deviceDelta = m₄ at *
  generalize hm₅ : increaseMap delta.accessoryDelta = m₅ at *
  generalize decreaseMap delta.accessoryDelta = m₆ at *
  have hloss : ∀ sku, m₁.value sku + m₂.value sku + m₄.value sku + m₆.value sku ≤ count sku := by
    intro sku
    have hsku := hmaps sku
    have hmodelsLe := hsku.modelsLe
    have hmodulesLe := hsku.modulesLe
    have hdelta := hmods.delta sku
    have hnn := moduleUses_nonneg catalogue newDevice sku
    have hnn' := moduleUses_nonneg catalogue oldDevice sku
    have huses := uses_eq_add catalogue oldDevice sku
    have hbound := hle sku
    omega
  have hn₁ := value_nonneg hpos₁
  have hn₂ := value_nonneg hpos₂
  have hn₃ := value_nonneg hpos₃
  have hn₄ := value_nonneg hpos₄
  have hn₅ := value_nonneg hpos₅
  have hn₆ := value_nonneg hpos₆
  obtain ⟨skus₁, hok₁, htracks₁, hbag₁⟩ := decreaseSkuQuantity_tracks catalogue false h hpos₁
    fun sku a ha => by
      have hvalue := value_of_getElem? ha
      have hsku := hloss sku
      have h₂ := hn₂ sku; have h₄ := hn₄ sku; have h₆ := hn₆ sku
      omega
  obtain ⟨skus₂, hok₂, htracks₂, hbag₂⟩ := decreaseSkuQuantity_tracks catalogue true htracks₁ hpos₂
    fun sku a ha => by
      have hvalue := value_of_getElem? ha
      have hsku := hloss sku
      have h₄ := hn₄ sku; have h₆ := hn₆ sku
      omega
  obtain ⟨skus₃, hok₃, htracks₃, hbag₃⟩ := increaseSkuQuantity_bought catalogue htracks₂
    hpos₃
  obtain ⟨skus₄, hok₄, htracks₄, hbag₄⟩ := decreaseSkuQuantity_tracks catalogue false htracks₃ hpos₄
    fun sku a ha => by
      have hvalue := value_of_getElem? ha
      have hsku := hloss sku
      have h₃ := hn₃ sku; have h₆ := hn₆ sku
      omega
  have hbag : ∀ (sku : String) (a : ℤ), m₅[sku]? = some a →
      BagHolds catalogue sku skus₄[sku]? a := by
    intro sku a ha
    rw [← hm₅] at ha
    obtain ⟨hentry, hpos⟩ := increaseMap_entry.1 ha
    -- what comes as a module is not deleted as one
    have hdelta : moduleDelta catalogue oldDevice newDevice sku = a := by
      have hsku := hmaps sku
      have hvalue : (increaseMap delta.accessoryDelta).value sku = a := value_of_getElem? ha
      rw [hm₅] at hvalue
      have hmods' := hsku.modules
      have hmodulesLe := hsku.modulesLe
      have h₂ := hn₂ sku; have h₆ := hn₆ sku
      omega
    rw [← hdelta] at hpos ⊢
    have hholds := hmods.bag sku hpos
    exact hbag₄ sku _ hpos (hbag₃ sku _ (hbag₂ sku _ hpos (hbag₁ sku _ hpos hholds)))
  obtain ⟨skus₅, hok₅, htracks₅, -⟩ := increaseSkuQuantity_fromBag htracks₄ hpos₅ hbag
  obtain ⟨skus₆, hok₆, htracks₆, -⟩ := decreaseSkuQuantity_tracks catalogue true htracks₅ hpos₆
    fun sku a ha => by
      have hvalue := value_of_getElem? ha
      have hsku := hloss sku
      have h₃ := hn₃ sku; have h₅ := hn₅ sku
      omega
  refine ⟨skus₆, foldlM_step hok₁ (foldlM_step hok₂ (foldlM_step hok₃ (foldlM_step hok₄
    (foldlM_step hok₅ (foldlM_step hok₆ rfl))))), fun sku => ?_⟩
  have hsku := htracks₆ sku
  dsimp only at hsku ⊢
  have hcount : count sku + uses catalogue newDevice sku - uses catalogue oldDevice sku =
      count sku - m₁.value sku - m₂.value sku + m₃.value sku - m₄.value sku + m₅.value sku -
        m₆.value sku := by
    have hmodels := (hmaps sku).models
    have hmods' := (hmaps sku).modules
    have hdelta := hmods.delta sku
    have huses := uses_eq_add catalogue oldDevice sku
    have huses' := uses_eq_add catalogue newDevice sku
    omega
  rw [hcount]
  exact hsku

/-! ### Requests on the articles themselves -/

/-- What the topology uses of an article is in its entry. -/
theorem inTopologyCount_value (h : Tracks skus[sku]? n) : (skus.value sku).inTopologyCount = n := by
  rw [value_eq_getD]
  cases hentry : skus[sku]? with
  | none =>
    rw [hentry] at h
    exact (show n = 0 from h).symm
  | some e =>
    rw [hentry] at h
    exact h.1

theorem forM_ok {α : Type} {f : α → Except Status Unit} {l : List α} {u : Unit}
    (h : l.forM f = .ok u) {x : α} (hx : x ∈ l) : f x = .ok () := by
  induction l with
  | nil => cases hx
  | cons y l ih =>
    have hseq : (f y >>= fun _ => l.forM f) = .ok u := h
    obtain ⟨⟨⟩, hy, h⟩ := exists_of_bind hseq
    rcases List.mem_cons.1 hx with rfl | hx
    · exact hy
    · exact ih h hx

/-- **`UpdateSkuQuantity`** keeps the counts: it takes no quantity below what is used. -/
theorem updateSkuQuantity_tracks {request : QuantityMap} (h : AllTracked skus count)
    (hok : updateSkuQuantity catalogue skus request = .ok skus') : AllTracked skus' count := by
  obtain ⟨⟨⟩, hcheck, hok⟩ := exists_of_bind hok
  cases hok
  obtain ⟨htouch, htouch'⟩ := foldl_toList (fun m x => m.touch x.1) (fun t sku => t[sku]?)
    (fun sku (_ : ℤ) e e' => e' = some (e.getD (default : SkuQuantity)))
    (fun t sku _ => ⟨by rw [touch, update, getElem?_insert_self, value_eq_getD]; rfl,
      fun sku' hne => getElem?_update_ne t _ hne⟩) request skus
  generalize request.toList.foldl (fun m x => m.touch x.1) skus = touched at htouch htouch'
  obtain ⟨hset, hset'⟩ := foldl_toList setSkuQuantity (fun t sku => t[sku]?)
    (fun sku q e e' => e' = if q = 0 then none
      else some { e.getD (default : SkuQuantity) with quantity := q })
    (fun t sku q => by
      unfold setSkuQuantity
      dsimp only
      split_ifs
      · refine ⟨?_, fun sku' hne => ?_⟩
        · rw [getElem?_erase, if_pos Std.ReflCmp.compare_self]
        · rw [getElem?_erase, if_neg]
          rw [Std.compare_eq_iff_eq]
          exact fun h => hne h.symm
      · refine ⟨?_, fun sku' hne => getElem?_update_ne t _ hne⟩
        rw [update, getElem?_insert_self, value_eq_getD]) request touched
  intro sku
  cases hq : request[sku]? with
  | none =>
    rw [hset' sku hq, htouch' sku hq]
    exact h sku
  | some q =>
    rw [hset sku q hq, htouch sku q hq, getD_some, ← value_eq_getD]
    have hpast := forM_ok hcheck (mem_toList_iff_getElem?_eq_some.2 hq)
    unfold checkSkuQuantity at hpast
    dsimp only at hpast
    split_ifs at hpast with hname hless
    have hused := inTopologyCount_value (h sku)
    have hnn := (h sku).nonneg
    split_ifs with hzero
    · show _ = _
      omega
    · show _ ∧ _ ∧ _ ∧ _
      dsimp only
      omega

theorem allTracked_erase {skuList : List String} (h : AllTracked skus count)
    (hunused : ∀ sku ∈ skuList, count sku = 0) :
    AllTracked (skuList.foldl (fun m skuName => m.erase skuName) skus) count := by
  induction skuList generalizing skus with
  | nil => exact h
  | cons sku skuList ih =>
    rw [List.foldl_cons]
    refine ih (fun sku' => ?_) fun x hx => hunused x (List.mem_cons_of_mem _ hx)
    rw [getElem?_erase]
    split_ifs with hsame
    · rw [Std.compare_eq_iff_eq] at hsame
      show _ = _
      rw [← hsame]
      exact hunused sku List.mem_cons_self
    · exact h sku'

/-- **`DeleteSkuQuantity`** keeps the counts: it takes no article that is used. -/
theorem deleteSkuQuantity_tracks {skuList : List String} (h : AllTracked skus count)
    (hok : deleteSkuQuantity skus skuList = .ok skus') : AllTracked skus' count := by
  obtain ⟨⟨⟩, hcheck, hok⟩ := exists_of_bind hok
  cases hok
  refine allTracked_erase h fun sku hsku => ?_
  have hpast := forM_ok hcheck hsku
  unfold checkDeleteSku at hpast
  have htracks := h sku
  cases hentry : skus[sku]? with
  | none => rw [hentry] at htracks; exact htracks
  | some e =>
    rw [hentry] at hpast htracks
    dsimp only at hpast
    split_ifs at hpast with hused
    have hcount := htracks.1
    omega

end Core
end Sebastian

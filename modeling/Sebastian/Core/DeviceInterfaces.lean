/-
# The numbers of a modular device's interfaces

`MatchDeviceProfile` (`core/src/act_core_device.cpp`) numbers the interfaces of a device with one
counter: the built-in ones come first, and every slot for an Ethernet module gets as many numbers
as the profile says, what the module in it leaves over being filled with inactive interfaces.

With modules that are not larger than a slot, each slot takes exactly its block of the numbers
(`addSlot_ok`), so a block depends on the module in its own slot alone (`slotPort`), and an
interface is found again under its number (`profileInterface_again`).  Only the devices without a
proper profile, ICMP, Moxa and unknown ones, keep what they had besides; the loop that keeps it
appends every old interface, also one that the profile has just made again, and the device grows
with every match unless the profile makes none (`interfaceNumbering_iff`).
-/

import Sebastian.Core.DeviceHistory

namespace Sebastian
namespace Core

open ExceptRule List

/-! ### The blocks -/

/-- The last number before those of a slot, the built-in interfaces being slot 0. -/
def slotBase (profile : DeviceProfile) : ℕ → ℕ
  | 0 => 0
  | slot + 1 => profile.interfaces.length + profile.defaultEthernetSlotOccupiedIntfs.toNat * slot

/-- How many numbers a slot has. -/
def slotWidth (profile : DeviceProfile) : ℕ → ℕ
  | 0 => profile.interfaces.length
  | _ + 1 => profile.defaultEthernetSlotOccupiedIntfs.toNat

/-- The interfaces of what is in a slot. -/
def slotProperties (services : DeviceServices) (profile : DeviceProfile) (device : Device) :
    ℕ → List InterfaceProperty
  | 0 => profile.interfaces
  | slot + 1 =>
    ((device.modularConfiguration.ethernet[((slot + 1 : ℕ) : ℤ) + 1]?).bind fun ethModuleId =>
      services.catalogue.ethernetModuleMap[ethModuleId]?.map (·.interfaces)).getD []

/-- The interface at a place of a slot: the one of the module there, or an inactive one. -/
def slotPort (services : DeviceServices) (profile : DeviceProfile) (device : Device)
    (slot place : ℕ) : Interface :=
  match (slotProperties services profile device slot)[place]? with
  | some property => profileInterface profile.deviceType device ((slot : ℤ) + 1)
      ((slotBase profile slot + place : ℕ) + 1) property
  | none => emptySlotInterface profile device ((slot : ℤ) + 1)
      ((slotBase profile slot + place : ℕ) + 1)

/-- The interfaces of a slot. -/
def slotBlock (services : DeviceServices) (profile : DeviceProfile) (device : Device) (slot : ℕ) :
    List Interface :=
  (List.range (slotWidth profile slot)).map (slotPort services profile device slot)

/-- The interfaces of the first slots. -/
def slotBlocks (services : DeviceServices) (profile : DeviceProfile) (device : Device)
    (slots : ℕ) : List Interface :=
  (List.range slots).flatMap (slotBlock services profile device)

/-- How many interfaces the profile makes. -/
def definedCount (profile : DeviceProfile) : ℕ :=
  slotBase profile (profile.supportEthernetSlots.toNat + 1)

/-- No module is larger than a slot. -/
def ModulesFit (services : DeviceServices) (profile : DeviceProfile) : Prop :=
  ∀ (moduleId : ℤ) (ethModule : EthernetModule),
    services.catalogue.ethernetModuleMap[moduleId]? = some ethModule →
      ethModule.interfaces.length ≤ profile.defaultEthernetSlotOccupiedIntfs.toNat

variable {services : DeviceServices} {profile : DeviceProfile} {device device' : Device}
  {interfaces interfaces' : List Interface} {slot place : ℕ}

theorem slotBase_succ (profile : DeviceProfile) (slot : ℕ) :
    slotBase profile (slot + 1) = slotBase profile slot + slotWidth profile slot := by
  cases slot with
  | zero => simp [slotBase, slotWidth]
  | succ slot => simp only [slotBase, slotWidth, Nat.mul_succ, Nat.add_assoc]

@[simp] theorem profileInterface_id (deviceType : DeviceType) (device : Device)
    (slotId intfId : ℤ) (property : InterfaceProperty) :
    (profileInterface deviceType device slotId intfId property).interfaceId = intfId := by
  show ((device.interfaces.find? (·.interfaceId == intfId)).getD
    { interfaceId := intfId }).interfaceId = intfId
  cases hfound : device.interfaces.find? (·.interfaceId == intfId) with
  | none => rfl
  | some intf => simpa using find?_some hfound

@[simp] theorem emptySlotInterface_id (profile : DeviceProfile) (device : Device)
    (slotId intfId : ℤ) :
    (emptySlotInterface profile device slotId intfId).interfaceId = intfId := rfl

/-- **A slot has the numbers of its block**, whatever is in it. -/
@[simp] theorem slotPort_id : (slotPort services profile device slot place).interfaceId =
    ((slotBase profile slot + place : ℕ) + 1 : ℤ) := by
  unfold slotPort
  split
  · exact profileInterface_id _ _ _ _ _
  · rfl

@[simp] theorem length_slotBlock :
    (slotBlock services profile device slot).length = slotWidth profile slot := by
  simp [slotBlock]

theorem slotBlocks_succ (slots : ℕ) : slotBlocks services profile device (slots + 1) =
    slotBlocks services profile device slots ++ slotBlock services profile device slots := by
  rw [slotBlocks, range_succ, flatMap_append, flatMap_singleton]
  rfl

theorem length_slotBlocks (slots : ℕ) :
    (slotBlocks services profile device slots).length = slotBase profile slots := by
  induction slots with
  | zero => rfl
  | succ slots ih => rw [slotBlocks_succ, length_append, ih, length_slotBlock, slotBase_succ]

/-- **The interfaces are numbered from 1 on.** -/
theorem ids_slotBlocks (slots : ℕ) :
    (slotBlocks services profile device slots).map (·.interfaceId) =
      (range (slotBase profile slots)).map fun i : ℕ => (i : ℤ) + 1 := by
  induction slots with
  | zero => rfl
  | succ slots ih =>
    rw [slotBlocks_succ, map_append, ih, slotBase_succ, range_add, map_append,
      map_map, slotBlock, map_map]
    congr 1
    exact map_congr_left fun place _ => slotPort_id

/-! ### `MatchDeviceProfile` makes the blocks -/

theorem slotInterfaces_ok {properties : List InterfaceProperty}
    (h : slotInterfaces services profile device ((slot : ℤ) + 1) = .ok properties) :
    properties = slotProperties services profile device slot := by
  unfold slotInterfaces at h
  cases slot with
  | zero =>
    rw [if_pos (by simp)] at h
    exact (Except.ok.inj h).symm
  | succ slot =>
    rw [if_neg (by omega)] at h
    cases hmod : device.modularConfiguration.ethernet[((slot + 1 : ℕ) : ℤ) + 1]? with
    | none =>
      rw [hmod] at h
      simp only [slotProperties, hmod, Option.bind_none, Option.getD_none]
      exact (Except.ok.inj h).symm
    | some ethModuleId =>
      rw [hmod] at h
      dsimp only at h
      cases hfound : services.catalogue.ethernetModuleMap[ethModuleId]? with
      | none =>
        rw [hfound] at h
        cases h
      | some ethModule =>
        rw [hfound] at h
        simp only [slotProperties, hmod, Option.bind_some, hfound, Option.map_some,
          Option.getD_some]
        exact (Except.ok.inj h).symm

theorem ModulesFit.length_le (h : ModulesFit services profile) (device : Device) (slot : ℕ) :
    (slotProperties services profile device slot).length ≤ slotWidth profile slot := by
  cases slot with
  | zero => exact le_rfl
  | succ slot =>
    cases hmod : device.modularConfiguration.ethernet[((slot + 1 : ℕ) : ℤ) + 1]? with
    | none =>
      simp only [slotProperties, hmod, Option.bind_none, Option.getD_none]
      exact Nat.zero_le _
    | some ethModuleId =>
      cases hfound : services.catalogue.ethernetModuleMap[ethModuleId]? with
      | none =>
        simp only [slotProperties, hmod, Option.bind_some, hfound, Option.map_none,
          Option.getD_none]
        exact Nat.zero_le _
      | some ethModule =>
        simp only [slotProperties, hmod, Option.bind_some, hfound, Option.map_some,
          Option.getD_some]
        exact h ethModuleId ethModule hfound

theorem addSlot_ok (hfit : ModulesFit services profile)
    (hlen : interfaces.length = slotBase profile slot)
    (h : addSlot services profile device interfaces ((slot : ℤ) + 1) = .ok interfaces') :
    interfaces' = interfaces ++ slotBlock services profile device slot := by
  obtain ⟨properties, hproperties, h⟩ := exists_of_bind h
  obtain rfl := slotInterfaces_ok hproperties
  cases h
  have hle := hfit.length_le device slot
  have hmax : profile.interfaces.length + profile.defaultEthernetSlotOccupiedIntfs.toNat *
      (((slot : ℤ) + 1).toNat - 1) = slotBase profile slot + slotWidth profile slot := by
    rw [← slotBase_succ, slotBase, show ((slot : ℤ) + 1).toNat - 1 = slot by omega]
  simp only [hmax, append_assoc, hlen, bind_pure_comp, map_eq_map, map_map]
  congr 1
  -- the places of the module, then the rest of the block
  refine ext_getElem ?_ fun place hplace _ => ?_
  · simp only [length_append, length_mapIdx, length_map, length_range,
      length_slotBlock, hlen]
    omega
  · rw [getElem_append]
    simp only [slotBlock, getElem_map, getElem_range, length_mapIdx]
    unfold slotPort
    split_ifs with hmod
    · rw [getElem?_eq_getElem hmod]
      simp only [getElem_mapIdx]
      congr 1
    · rw [getElem?_eq_none (by omega)]
      simp only [Function.comp_apply, length_append, length_mapIdx, hlen]
      congr 1
      omega

theorem foldlM_addSlot_ok (hfit : ModulesFit services profile) (slots : ℕ)
    (h : ((range slots).map fun i : ℕ => (i : ℤ) + 1).foldlM
      (addSlot services profile device) []
      = .ok interfaces) : interfaces = slotBlocks services profile device slots := by
  induction slots generalizing interfaces with
  | zero => exact (Except.ok.inj h).symm
  | succ slots ih =>
    rw [range_succ, map_append, foldlM_append] at h
    obtain ⟨before, hbefore, h⟩ := exists_of_bind h
    obtain rfl := ih hbefore
    rw [map_singleton, foldlM_cons] at h
    obtain ⟨added, hadded, h⟩ := exists_of_bind h
    cases h
    rw [addSlot_ok hfit (length_slotBlocks slots) hadded, slotBlocks_succ]

/-! ### What `MatchDeviceProfile` makes of the interfaces -/

/-- The order of the interfaces in the end. -/
abbrev ById (x y : Interface) : Prop := x.interfaceId ≤ y.interfaceId

/-- "Append the interface not defined in the DeviceProfile", for a device without a proper profile.
An interface that is there already is appended as well. -/
def keepOwn (device : Device) (interfaces : List Interface) : List Interface :=
  device.interfaces.foldl (fun interfaces intf =>
    if interfaces.any (·.interfaceId == intf.interfaceId) then interfaces ++ [intf]
    else interfaces ++ [{ intf with deviceId := device.id }]) interfaces

theorem length_keepOwn (device : Device) (interfaces : List Interface) :
    (keepOwn device interfaces).length = interfaces.length + device.interfaces.length := by
  unfold keepOwn
  induction device.interfaces generalizing interfaces with
  | nil => rfl
  | cons intf rest ih =>
    rw [foldl_cons, ih]
    split_ifs <;> simp only [length_append, length_cons, length_nil] <;> omega

/-- A device whose profile makes no interface keeps its own ones. -/
theorem keepOwn_nil (hids : (device.interfaces.map (·.interfaceId)).Nodup) :
    keepOwn device [] = device.interfaces.map fun intf => { intf with deviceId := device.id } := by
  suffices hrest : ∀ (rest before : List Interface), ((before ++ rest).map (·.interfaceId)).Nodup →
      rest.foldl (fun interfaces intf =>
        if interfaces.any (·.interfaceId == intf.interfaceId) then interfaces ++ [intf]
        else interfaces ++ [{ intf with deviceId := device.id }]) before =
      before ++ rest.map fun intf => { intf with deviceId := device.id } by
    exact hrest device.interfaces [] hids
  intro rest
  induction rest with
  | nil => simp
  | cons intf rest ih =>
    intro before hnodup
    have hnew : (before.any (·.interfaceId == intf.interfaceId)) = false := by
      rw [map_append, nodup_append] at hnodup
      rw [any_eq_false]
      intro other hother hsame
      exact hnodup.2.2 _ (mem_map_of_mem hother) _
        (mem_map_of_mem mem_cons_self) (eq_of_beq hsame)
    rw [foldl_cons, hnew, if_neg Bool.false_ne_true, ih, map_cons, append_assoc]
    · rfl
    · simpa using hnodup

theorem matchInterfaces_ok (hfit : ModulesFit services profile)
    (h : matchInterfaces services profile device = .ok interfaces) :
    interfaces = ((if DeviceType.skipsSpeedCheck profile.deviceType then
        keepOwn device (slotBlocks services profile device (profile.supportEthernetSlots.toNat + 1))
      else slotBlocks services profile device
        (profile.supportEthernetSlots.toNat + 1)).insertionSort
        ById) := by
  obtain ⟨made, hmade, h⟩ := exists_of_bind h
  simp only [bind_pure_comp, map_eq_map, map_map] at hmade
  obtain rfl := foldlM_addSlot_ok hfit _ hmade
  exact (Except.ok.inj h).symm

/-- The device that `MatchDeviceProfile` makes before it numbers the interfaces. -/
def matchedDevice (services : DeviceServices) (profile : DeviceProfile) (device : Device) :
    Device :=
  let firmwareVersion :=
    if device.firmwareVersion = "" then profile.latestFirmwareVersion else device.firmwareVersion
  { device with
    deviceType := profile.deviceType
    firmwareVersion := firmwareVersion
    deviceProperty := matchProperty services profile firmwareVersion
    modularConfiguration := matchModules profile device.modularConfiguration }

theorem matchDeviceProfile_eq_ok_iff
    (hprofile : services.deviceProfiles.find { id := device.deviceProfileId } = some profile) :
    matchDeviceProfile services device = .ok device' ↔
      ∃ interfaces, matchInterfaces services profile (matchedDevice services profile device) =
        .ok interfaces ∧
      device' = { matchedDevice services profile device with interfaces := interfaces } := by
  unfold matchDeviceProfile
  rw [hprofile]
  constructor
  · intro h
    obtain ⟨interfaces, hintfs, h⟩ := exists_of_bind h
    exact ⟨interfaces, hintfs, (Except.ok.inj h).symm⟩
  · rintro ⟨interfaces, hintfs, rfl⟩
    show (matchInterfaces services profile (matchedDevice services profile device) >>= _) = _
    rw [hintfs]
    rfl

/-! ### A second match -/

@[simp] theorem matchModules_ethernet (profile : DeviceProfile) (modules : ModularConfiguration) :
    (matchModules profile modules).ethernet = modules.ethernet := by
  unfold matchModules
  split_ifs
  · split <;> rfl
  · rfl

theorem matchModules_again (profile : DeviceProfile) (modules : ModularConfiguration) :
    matchModules profile (matchModules profile modules) = matchModules profile modules := by
  have hins : ∀ moduleId : ℤ,
      (modules.power.insert builtinPowerModuleSlot moduleId).isEmpty = false := fun moduleId => by
    simp
  unfold matchModules
  cases hpower : profile.builtInPower && modules.power.isEmpty with
  | false => simp only [hpower, Bool.false_eq_true, if_false]
  | true =>
    cases hmod : profile.supportPowerModules.keys.head? with
    | none => simp only [hpower, if_true]
    | some moduleId =>
      simp only [if_true, hins, Bool.and_false, Bool.false_eq_true, if_false]

/-- **What is matched once is matched**, but for the interfaces. -/
theorem matchedDevice_again (interfaces : List Interface) :
    matchedDevice services profile
        { matchedDevice services profile device with interfaces := interfaces } =
      { matchedDevice services profile device with interfaces := interfaces } := by
  have hfirmware : (if (if device.firmwareVersion = "" then profile.latestFirmwareVersion
        else device.firmwareVersion) = "" then profile.latestFirmwareVersion
      else (if device.firmwareVersion = "" then profile.latestFirmwareVersion
        else device.firmwareVersion)) =
      (if device.firmwareVersion = "" then profile.latestFirmwareVersion
        else device.firmwareVersion) := by
    split_ifs with h h'
    · rfl
    · rfl
    · rfl
  unfold matchedDevice
  simp only [hfirmware, matchModules_again]

theorem slotProperties_congr
    (hethernet : device'.modularConfiguration.ethernet = device.modularConfiguration.ethernet) :
    slotProperties services profile device' slot = slotProperties services profile device slot := by
  cases slot with
  | zero => rfl
  | succ slot => simp only [slotProperties, hethernet]

theorem keptName_again (old new : String) (keeps : Prop) [Decidable keeps] :
    (if (if old ≠ "" ∧ keeps then old else new) ≠ "" ∧ keeps then
        (if old ≠ "" ∧ keeps then old else new) else new) =
      if old ≠ "" ∧ keeps then old else new := by
  by_cases h : old ≠ "" ∧ keeps
  · simp only [if_pos h]
  · simp only [if_neg h, ite_self]

/-- An interface that is found under its number stays what it was made. -/
theorem profileInterface_again {deviceType : DeviceType} {slotId intfId : ℤ}
    {property : InterfaceProperty} (hid : device'.id = device.id)
    (hfound : device'.interfaces.find? (·.interfaceId == intfId) =
      some (profileInterface deviceType device slotId intfId property)) :
    profileInterface deviceType device' slotId intfId property =
      profileInterface deviceType device slotId intfId property := by
  unfold profileInterface at hfound ⊢
  simp only [hfound, Option.getD_some, hid]
  congr 1
  exact keptName_again _ _ _

/-- An interface stands alone under its number. -/
theorem find?_of_increasing {intf : Interface}
    (hids : (interfaces.map (·.interfaceId)).Pairwise (· < ·)) (hmem : intf ∈ interfaces) :
    interfaces.find? (·.interfaceId == intf.interfaceId) = some intf := by
  have hnodup : (interfaces.map (·.interfaceId)).Nodup := hids.imp fun h => ne_of_lt h
  cases hfound : interfaces.find? (·.interfaceId == intf.interfaceId) with
  | none => simpa using find?_eq_none.1 hfound intf hmem
  | some other =>
    have hid : other.interfaceId = intf.interfaceId := by simpa using find?_some hfound
    rw [inj_on_of_nodup_map hnodup (mem_of_find?_eq_some hfound) hmem hid]

theorem mem_slotBlocks {slots : ℕ} (hslot : slot < slots) (hplace :
    place < slotWidth profile slot) :
    slotPort services profile device slot place ∈ slotBlocks services profile device slots :=
  mem_flatMap.2 ⟨slot, mem_range.2 hslot,
    mem_map.2 ⟨place, mem_range.2 hplace, rfl⟩⟩

theorem increasing_slotBlocks (slots : ℕ) :
    ((slotBlocks services profile device slots).map (·.interfaceId)).Pairwise (· < ·) := by
  rw [ids_slotBlocks, pairwise_map]
  exact pairwise_lt_range.imp fun h => by omega

theorem pairwise_byId (hids : (interfaces.map (·.interfaceId)).Pairwise (· < ·)) :
    interfaces.Pairwise ById :=
  (pairwise_map.1 hids).imp le_of_lt

/-- **The blocks are made again**: every interface is found under its number. -/
theorem slotBlocks_again {slots : ℕ} (hid : device'.id = device.id)
    (hethernet : device'.modularConfiguration.ethernet = device.modularConfiguration.ethernet)
    (hintfs : device'.interfaces = slotBlocks services profile device slots) :
    slotBlocks services profile device' slots = slotBlocks services profile device slots := by
  refine flatMap_congr fun slot hslot => map_congr_left fun place hplace => ?_
  unfold slotPort
  rw [slotProperties_congr hethernet]
  have hmem :
    slotPort services profile device slot place ∈ slotBlocks services profile device slots :=
    mem_slotBlocks (mem_range.1 hslot) (mem_range.1 hplace)
  have hfound := find?_of_increasing (increasing_slotBlocks slots) hmem
  rw [← hintfs, slotPort_id] at hfound
  unfold slotPort at hfound
  cases hprop : (slotProperties services profile device slot)[place]? with
  | some property =>
    rw [hprop] at hfound
    exact profileInterface_again hid hfound
  | none => simp only [emptySlotInterface, hid]

theorem exists_slotInterfaces_of_foldlM (slots : ℕ)
    (h : ((range slots).map fun i : ℕ => (i : ℤ) + 1).foldlM
      (addSlot services profile device) []
      = .ok interfaces) : ∀ slot < slots, ∃ properties,
      slotInterfaces services profile device ((slot : ℤ) + 1) = .ok properties := by
  induction slots generalizing interfaces with
  | zero => nofun
  | succ slots ih =>
    rw [range_succ, map_append, foldlM_append] at h
    obtain ⟨before, hbefore, h⟩ := exists_of_bind h
    rw [map_singleton, foldlM_cons] at h
    obtain ⟨added, hadded, -⟩ := exists_of_bind h
    obtain ⟨properties, hproperties, -⟩ := exists_of_bind hadded
    intro slot hslot
    rcases Nat.lt_succ_iff_lt_or_eq.1 hslot with hslot | rfl
    · exact ih hbefore slot hslot
    · exact ⟨properties, hproperties⟩

theorem exists_foldlM_addSlot (slots : ℕ)
    (h : ∀ slot < slots, ∃ properties,
      slotInterfaces services profile device ((slot : ℤ) + 1) = .ok properties) :
    ∃ made, ((range slots).map fun i : ℕ => (i : ℤ) + 1).foldlM
      (addSlot services profile device) [] = .ok made := by
  induction slots with
  | zero => exact ⟨[], rfl⟩
  | succ slots ih =>
    obtain ⟨made, hmade⟩ := ih fun slot hslot => h slot (Nat.lt_succ_of_lt hslot)
    obtain ⟨properties, hproperties⟩ := h slots (Nat.lt_succ_self slots)
    obtain ⟨added, hadded⟩ : ∃ added,
        addSlot services profile device made ((slots : ℤ) + 1) = .ok added := by
      rw [addSlot, hproperties]
      exact ⟨_, rfl⟩
    rw [range_succ, map_append, foldlM_append, hmade]
    refine ⟨added, ?_⟩
    show (addSlot services profile device made ((slots : ℤ) + 1) >>= fun added => pure added) = _
    rw [hadded]
    rfl

/-- A match succeeds again on a device with the same modules, with what `matchInterfaces_ok` says. -/
theorem matchInterfaces_again (hfit : ModulesFit services profile)
    (hethernet : device'.modularConfiguration.ethernet = device.modularConfiguration.ethernet)
    (h : matchInterfaces services profile device = .ok interfaces) :
    matchInterfaces services profile device' =
      .ok ((if DeviceType.skipsSpeedCheck profile.deviceType then
          keepOwn device'
            (slotBlocks services profile device' (profile.supportEthernetSlots.toNat + 1))
        else slotBlocks services profile device'
          (profile.supportEthernetSlots.toNat + 1)).insertionSort
          ById) := by
  obtain ⟨made, hmade, -⟩ := exists_of_bind h
  simp only [bind_pure_comp, map_eq_map, map_map] at hmade
  have hknown : ∀ slot < profile.supportEthernetSlots.toNat + 1, ∃ properties,
      slotInterfaces services profile device' ((slot : ℤ) + 1) = .ok properties := by
    intro slot hslot
    obtain ⟨properties, hproperties⟩ := exists_slotInterfaces_of_foldlM _ hmade slot hslot
    refine ⟨properties, ?_⟩
    unfold slotInterfaces at hproperties ⊢
    rw [hethernet]
    exact hproperties
  obtain ⟨made', hmade'⟩ := exists_foldlM_addSlot _ hknown
  unfold matchInterfaces
  simp only [bind_pure_comp, map_eq_map, map_map]
  have hblocks := foldlM_addSlot_ok hfit _ hmade'
  show ((range _).map fun i : ℕ => (i : ℤ) + 1).foldlM (addSlot services profile device') []
    >>= _ = _
  rw [hmade', hblocks]
  rfl

/-! ### The numbering -/

/-- **The interfaces as they are to be numbered**: the numbers increase; a profile that defines its
interfaces makes exactly those from 1 on; the places of the slot with id `slot + 2` have the
numbers of its block, with an interface that depends on the module in that slot alone; and a
second match changes nothing. -/
structure NumberedInterfaces (services : DeviceServices) (profile : DeviceProfile)
    (device device' : Device) : Prop where
  increasing : (device'.interfaces.map (·.interfaceId)).Pairwise (· < ·)
  defined : DeviceType.skipsSpeedCheck profile.deviceType = false →
    device'.interfaces.map (·.interfaceId) =
      (List.range (definedCount profile)).map fun i : ℕ => (i : ℤ) + 1
  block : ∀ slot < profile.supportEthernetSlots.toNat,
    ∀ place < profile.defaultEthernetSlotOccupiedIntfs.toNat,
      slotPort services profile device (slot + 1) place ∈ device'.interfaces ∧
      (slotPort services profile device (slot + 1) place).interfaceId =
        (profile.interfaces.length + profile.defaultEthernetSlotOccupiedIntfs.toNat * slot : ℕ) +
          place + 1
  again : matchDeviceProfile services device' = .ok device'

instance : Std.Total ById := ⟨fun x y => le_total x.interfaceId y.interfaceId⟩

instance : IsTrans Interface ById := ⟨fun _ _ _ => le_trans⟩

theorem increasing_insertionSort (hids : (interfaces.map (·.interfaceId)).Nodup) :
    ((interfaces.insertionSort ById).map (·.interfaceId)).Pairwise (· < ·) := by
  have hnodup : ((interfaces.insertionSort ById).map (·.interfaceId)).Nodup :=
    ((perm_insertionSort ById interfaces).map _).nodup_iff.2 hids
  rw [pairwise_map]
  exact (pairwise_insertionSort ById interfaces).imp₂ (fun _ _ => lt_of_le_of_ne)
    (pairwise_map.1 hnodup)

/-- The match looks at the id, the interfaces and the Ethernet modules of the device. -/
theorem slotBlocks_matchedDevice (slots : ℕ) :
    slotBlocks services profile (matchedDevice services profile device) slots =
      slotBlocks services profile device slots := by
  have hethernet : (matchedDevice services profile device).modularConfiguration.ethernet =
      device.modularConfiguration.ethernet := matchModules_ethernet profile _
  refine flatMap_congr fun slot _ => map_congr_left fun place _ => ?_
  unfold slotPort
  rw [slotProperties_congr hethernet]
  cases (slotProperties services profile device slot)[place]? <;> rfl

variable (hfit : ModulesFit services profile)
  (hprofile : services.deviceProfiles.find { id := device.deviceProfileId } = some profile)
include hfit hprofile

/-- The second match, on what the first one made. -/
theorem matchDeviceProfile_again
    (hmatch : matchInterfaces services profile (matchedDevice services profile device) =
      .ok interfaces)
    (hdev' : device' = { matchedDevice services profile device with interfaces := interfaces }) :
    matchDeviceProfile services device' = .ok device' ↔
      (if DeviceType.skipsSpeedCheck profile.deviceType then
          keepOwn device'
            (slotBlocks services profile device' (profile.supportEthernetSlots.toNat + 1))
        else slotBlocks services profile device'
          (profile.supportEthernetSlots.toNat + 1)).insertionSort
          ById = interfaces := by
  have hprofile' : services.deviceProfiles.find { id := device'.deviceProfileId } =
    some profile := by
    rw [hdev']
    exact hprofile
  have hsame : matchedDevice services profile device' = device' := by
    rw [hdev']
    exact matchedDevice_again interfaces
  have hethernet : device'.modularConfiguration.ethernet =
      (matchedDevice services profile device).modularConfiguration.ethernet := by
    rw [hdev']
  rw [matchDeviceProfile_eq_ok_iff hprofile', hsame, matchInterfaces_again hfit hethernet hmatch]
  constructor
  · rintro ⟨interfaces', hsort, heq⟩
    rw [Except.ok.inj hsort, ← show device'.interfaces = interfaces' from
      congrArg Device.interfaces heq, hdev']
  · intro hsort
    refine ⟨interfaces, congrArg _ hsort, ?_⟩
    rw [hdev']

/-- A profile that defines its interfaces numbers them, once and for all. -/
theorem numberedInterfaces_of_defined
    (hdefined : DeviceType.skipsSpeedCheck profile.deviceType = false)
    (hmatch : matchInterfaces services profile (matchedDevice services profile device) =
      .ok interfaces) :
    NumberedInterfaces services profile device
      { matchedDevice services profile device with interfaces := interfaces } := by
  have hintfs : interfaces =
      slotBlocks services profile device (profile.supportEthernetSlots.toNat + 1) := by
    have hsort := matchInterfaces_ok hfit hmatch
    rw [hdefined, if_neg Bool.false_ne_true, slotBlocks_matchedDevice,
      List.Pairwise.insertionSort_eq (pairwise_byId (increasing_slotBlocks _))] at hsort
    exact hsort
  refine ⟨?_, fun _ => ?_, fun slot hslot place hplace => ⟨?_, ?_⟩, ?_⟩
  · rw [show Device.interfaces _ = interfaces from rfl, hintfs]
    exact increasing_slotBlocks _
  · rw [show Device.interfaces _ = interfaces from rfl, hintfs]
    exact ids_slotBlocks _
  · rw [show Device.interfaces _ = interfaces from rfl, hintfs]
    exact mem_slotBlocks (Nat.succ_lt_succ hslot) hplace
  · rw [slotPort_id, slotBase, Int.natCast_add]
  · have hblocks := @slotBlocks_again services profile (matchedDevice services profile device)
      { matchedDevice services profile device with interfaces := interfaces } _ rfl rfl
      (hintfs.trans (slotBlocks_matchedDevice _).symm)
    rw [matchDeviceProfile_again hfit hprofile hmatch rfl, hdefined, if_neg Bool.false_ne_true,
      hblocks, slotBlocks_matchedDevice,
      List.Pairwise.insertionSort_eq (pairwise_byId (increasing_slotBlocks _)), hintfs]

/-- A profile without interfaces leaves a device its own ones. -/
theorem numberedInterfaces_of_none
    (hkeeps : DeviceType.skipsSpeedCheck profile.deviceType = true) (hnone : definedCount profile =
      0)
    (hids : (device.interfaces.map (·.interfaceId)).Nodup)
    (hmatch : matchInterfaces services profile (matchedDevice services profile device) =
      .ok interfaces) :
    NumberedInterfaces services profile device
      { matchedDevice services profile device with interfaces := interfaces } := by
  have hempty : ∀ x, slotBlocks services profile x (profile.supportEthernetSlots.toNat + 1) = [] :=
    fun x => eq_nil_of_length_eq_zero ((length_slotBlocks _).trans hnone)
  have hintfs : interfaces = (device.interfaces.map fun intf =>
      { intf with deviceId := device.id }).insertionSort ById := by
    have hsort := matchInterfaces_ok hfit hmatch
    rw [hkeeps, if_pos rfl, hempty,
      show keepOwn (matchedDevice services profile device) [] = keepOwn device [] from rfl,
      keepOwn_nil hids] at hsort
    exact hsort
  have hincreasing : (interfaces.map (·.interfaceId)).Pairwise (· < ·) := by
    rw [hintfs]
    refine increasing_insertionSort ?_
    rw [map_map]
    exact hids
  have howned : (interfaces.map fun intf => { intf with deviceId := device.id }) = interfaces := by
    have heach : ∀ intf ∈ interfaces, { intf with deviceId := device.id } = intf := by
      intro intf hintf
      rw [hintfs, mem_insertionSort, mem_map] at hintf
      obtain ⟨own, -, rfl⟩ := hintf
      rfl
    rw [map_congr_left heach, map_id']
  refine ⟨hincreasing, fun hdefined => ?_, fun slot hslot place hplace => ?_, ?_⟩
  · rw [hkeeps] at hdefined
    cases hdefined
  · -- there are no places
    have hzero : profile.defaultEthernetSlotOccupiedIntfs.toNat *
        profile.supportEthernetSlots.toNat = 0 := (Nat.add_eq_zero_iff.1 hnone).2
    have := Nat.mul_pos (Nat.zero_lt_of_lt hplace) (Nat.zero_lt_of_lt hslot)
    omega
  · have hnodup : (interfaces.map (·.interfaceId)).Nodup := hincreasing.imp fun h => ne_of_lt h
    rw [matchDeviceProfile_again hfit hprofile hmatch rfl, hkeeps, if_pos rfl, hempty,
      @keepOwn_nil { matchedDevice services profile device with interfaces := interfaces } hnodup]
    show (interfaces.map fun intf => { intf with deviceId := device.id }).insertionSort ById = _
    rw [howned, List.Pairwise.insertionSort_eq (pairwise_byId hincreasing)]

/-- **The interfaces are numbered as they are to be exactly where the profile defines them or makes
none.**  For modules that are not larger than a slot and an old list with different ids, a match
that succeeds leaves the numbering in order if and only if the device is no ICMP, Moxa or unknown
one, or its profile makes no interface at all. -/
theorem interfaceNumbering_iff (hids : (device.interfaces.map (·.interfaceId)).Nodup)
    (h : matchDeviceProfile services device = .ok device') :
    NumberedInterfaces services profile device device' ↔
      DeviceType.skipsSpeedCheck profile.deviceType = false ∨ definedCount profile = 0 := by
  obtain ⟨interfaces, hmatch, rfl⟩ := (matchDeviceProfile_eq_ok_iff hprofile).1 h
  constructor
  · intro hnumbered
    by_contra hneither
    rw [not_or, Bool.not_eq_false] at hneither
    obtain ⟨hkeeps, hsome⟩ := hneither
    have hagain := (matchDeviceProfile_again hfit hprofile hmatch rfl).1 hnumbered.again
    rw [hkeeps, if_pos rfl] at hagain
    -- the second match appends everything again
    have hlen := congrArg length hagain
    rw [length_insertionSort, length_keepOwn, length_slotBlocks] at hlen
    have hcount : definedCount profile + interfaces.length = interfaces.length := hlen
    omega
  · rintro (hdefined | hnone)
    · exact numberedInterfaces_of_defined hfit hprofile hdefined hmatch
    · cases hkeeps : DeviceType.skipsSpeedCheck profile.deviceType with
      | false => exact numberedInterfaces_of_defined hfit hprofile hkeeps hmatch
      | true => exact numberedInterfaces_of_none hfit hprofile hkeeps hnone hids hmatch

omit hfit hprofile

/-- A switch with one built-in interface and two slots for two more each, and an ICMP device with
one interface. -/
def modularModels : DeviceServices where
  addresses := twoAddresses
  deviceProfiles :=
    [{ id := 1, deviceType := .switch, property := { modelName := "modular switch" }
       supportEthernetSlots := 2, defaultEthernetSlotOccupiedIntfs := 2
       interfaces := [{ interfaceName := "MGMT", supportSpeeds := [1000] }] },
     { id := 2, deviceType := .icmp, property := { modelName := "ICMP" }
       interfaces := [{ interfaceName := "1", supportSpeeds := [1000] }] }]
  catalogue :=
    { ethernetModuleMap := (∅ : QMap ℤ EthernetModule).insert 7
        { moduleName := "one port", interfaces := [{ interfaceName := "1", supportSpeeds := [100] }] } }

/-- The switch with a module in its second slot. -/
def modularSwitch : Device :=
  { id := 1, ipAddress := "10.0.0.1", deviceProfileId := 1
    modularConfiguration := { ethernet := (∅ : QMap ℤ ℤ).insert 3 7 } }

/-- The switch has the interfaces 1 to 5. -/
theorem interfaceNumbering_modularSwitch : ∃ profile device',
    modularModels.deviceProfiles.find { id := 1 } = some profile ∧
    matchDeviceProfile modularModels modularSwitch = .ok device' ∧
    NumberedInterfaces modularModels profile modularSwitch device' := by
  cases hmatch : matchDeviceProfile modularModels modularSwitch with
  | error status =>
    have hsome : (matchDeviceProfile modularModels modularSwitch).toOption.isSome = true := by
      decide +kernel
    rw [hmatch] at hsome
    cases hsome
  | ok device' =>
    refine ⟨_, device', rfl, rfl, (interfaceNumbering_iff ?_ rfl ?_ hmatch).2 (.inl rfl)⟩
    · intro moduleId ethModule hfound
      rw [modularModels, Std.TreeMap.getElem?_insert] at hfound
      split_ifs at hfound
      · rw [← Option.some.inj hfound]
        decide
      · simp at hfound
    · exact nodup_nil

/-- An ICMP device with the interface of its profile. -/
def icmpDevice : Device :=
  { id := 2, ipAddress := "10.0.0.2", deviceProfileId := 2
    interfaces := [{ deviceId := 2, interfaceId := 1, interfaceName := "1" }] }

/-- **An ICMP device grows.**  It has the one interface that its profile makes, and has it twice
after the next match. -/
theorem not_numberedInterfaces_icmp :
    (icmpDevice.interfaces.map (·.interfaceId)).Nodup ∧
    (matchDeviceProfile modularModels icmpDevice).toOption.map
      (fun device => device.interfaces.map (·.interfaceId)) = some [1, 1] := by
  refine ⟨by decide, ?_⟩
  decide +kernel

end Core
end Sebastian

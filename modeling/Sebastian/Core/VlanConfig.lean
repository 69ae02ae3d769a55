/-
# The VLAN table of a device

`UpdateVlanConfig` and `DeleteVlanConfig` of
`core/src/act_core_vlan_config.cpp`.  A table has three parts, the VLANs with
their ports, the PVIDs and the port types, and the functions edit them port by
port.

Seen from one port (`VlanTable.portState`) an edit is a step of a small machine:
it joins a VLAN or leaves one, and what the table says about the other ports
stays (`portState_updatePort`, `portState_deletePort`).  On that machine being in
order is an invariant, with one exception: a port without a PVID that leaves its
last VLAN while a reserved VLAN is in the table is left in none
(`PortState.InOrder.leave`).  `vlanTables_inOrder_of_run` carries this back to the
tables of a project.
-/

import Sebastian.Core.Link
import Sebastian.Lib.Loop

namespace Sebastian
namespace Core

open ExceptRule Std.TreeMap Option Set

/-! ### The operations -/

/-- `ActVlanConfig` -/
structure VlanConfig where
  vlanId : ℤ
  portType : VlanPortType := .access
  devices : QSet ℤ
  ports : QSet ℤ

/-- `static_cast<quint16>(vlan_id)` -/
def toPvid (vlanId : ℤ) : UInt16 := UInt16.ofNat (vlanId % 65536).toNat

/-- `UpdateVlanConfig`: what becomes of an entry while the entries are rebuilt. -/
def stripEntry (portType : VlanPortType) (port : ℤ) (entry : VlanStaticEntry) : VlanStaticEntry :=
  match portType with
  | .access =>
    { entry with
      egressPorts := entry.egressPorts.erase port
      untaggedPorts := entry.untaggedPorts.erase port }
  | .trunk => { entry with untaggedPorts := entry.untaggedPorts.erase port }
  | .hybrid => entry

/-- `UpdateVlanConfig`: the entries are rebuilt; one without ports stays if it is
VLAN 1 or reserved. -/
def rebuildEntries (reservedVlan : Finset ℤ) (portType : VlanPortType) (port : ℤ)
    (entries : QMap ℤ VlanStaticEntry) : QMap ℤ VlanStaticEntry :=
  entries.filterMap fun vlanId entry =>
    let entry := stripEntry portType port entry
    if entry.egressPorts ≠ ∅ ∨ vlanId = vlanInitPvid ∨ vlanId ∈ reservedVlan then some entry
    else none

/-- `UpdateVlanConfig`, the port of one device. -/
def updatePort (reservedVlan : Finset ℤ) (vlanId : ℤ) (portType : VlanPortType)
    (table : VlanTable) (port : ℤ) : VlanTable :=
  let entries := rebuildEntries reservedVlan portType port table.vlanStaticEntries
  let entry := entries.getD vlanId (.ofId vlanId)
  let entry :=
    { entry with
      vlanPriority := .nonTSN
      name := "v" ++ toString vlanId
      untaggedPorts :=
        if portType = .access then insert port entry.untaggedPorts else entry.untaggedPorts
      egressPorts := insert port entry.egressPorts }
  { table with
    vlanStaticEntries := entries.insert vlanId entry
    portVlanEntries :=
      if portType = .access then table.portVlanEntries.insert port { pvid := toPvid vlanId }
      else table.portVlanEntries
    vlanPortTypeEntries := table.vlanPortTypeEntries.insert port { vlanPortType := portType } }

/-- `DeleteVlanConfig`: the port leaves the VLAN, and the entry goes when it was
the last one. -/
def leaveVlan (vlanId port : ℤ) (entries : QMap ℤ VlanStaticEntry) : QMap ℤ VlanStaticEntry :=
  let entry := entries.getD vlanId (.ofId vlanId)
  let entry :=
    { entry with
      egressPorts := entry.egressPorts.erase port
      untaggedPorts := entry.untaggedPorts.erase port }
  let entries := entries.erase vlanId
  if entry.egressPorts ≠ ∅ then entries.insert vlanId entry else entries

/-- `DeleteVlanConfig`: the port is put into VLAN 1. -/
def joinInitVlan (port : ℤ) (untagged : Bool) (entries : QMap ℤ VlanStaticEntry) :
    QMap ℤ VlanStaticEntry :=
  let entry := entries.getD vlanInitPvid (.ofId vlanInitPvid)
  entries.insert vlanInitPvid
    { entry with
      vlanPriority := .nonTSN
      egressPorts := insert port entry.egressPorts
      untaggedPorts := if untagged then insert port entry.untaggedPorts else entry.untaggedPorts }

/-- `DeleteVlanConfig`: `vlan_set`, the VLANs that count as the port's.  A reserved
VLAN counts whatever its ports are. -/
def countedVlans (reservedVlan : Finset ℤ) (port : ℤ) (entries : QMap ℤ VlanStaticEntry) :
    QMap ℤ VlanStaticEntry :=
  entries.filterMap fun vlanId entry =>
    if port ∈ entry.egressPorts ∨ vlanId ∈ reservedVlan then some entry else none

/-- `DeleteVlanConfig`, the port of one device. -/
def deletePort (reservedVlan : Finset ℤ) (vlanId : ℤ) (table : VlanTable) (port : ℤ) : VlanTable :=
  let entries := leaveVlan vlanId port table.vlanStaticEntries
  if (countedVlans reservedVlan port entries).isEmpty then
    { table with
      vlanStaticEntries := joinInitVlan port true entries
      portVlanEntries := table.portVlanEntries.insert port { pvid := toPvid vlanInitPvid }
      vlanPortTypeEntries := table.vlanPortTypeEntries.insert port { vlanPortType := .access } }
  else
    match table.portVlanEntries[port]? with
    | none => { table with vlanStaticEntries := entries }
    | some portVlanEntry =>
      if (portVlanEntry.pvid.toNat : ℤ) = vlanId then
        let portTypeEntry := table.vlanPortTypeEntries.getD port { vlanPortType := .access }
        { table with
          vlanStaticEntries := joinInitVlan port (portTypeEntry.vlanPortType = .access) entries
          portVlanEntries := table.portVlanEntries.insert port { pvid := toPvid vlanInitPvid }
          vlanPortTypeEntries := table.vlanPortTypeEntries.insert port portTypeEntry }
      else { table with vlanStaticEntries := entries }

/-- The ids of the interfaces of a device. -/
def devicePorts (device : Device) : Finset ℤ :=
  (device.interfaces.map (·.interfaceId)).toFinset

/-- The table `UpdateVlanConfig` starts from where the device has none. -/
def defaultVlanTable (device : Device) (deviceId : ℤ) : VlanTable :=
  let vlanSetting := device.deviceProperty.vlanSetting
  { deviceId := deviceId
    vlanStaticEntries :=
      (∅ : QMap ℤ VlanStaticEntry).insert vlanInitPvid
        { VlanStaticEntry.ofId vlanInitPvid with
          egressPorts := devicePorts device
          untaggedPorts := devicePorts device }
    portVlanEntries :=
      if vlanSetting.defaultPvid then
        device.interfaces.foldl
          (fun entries intf =>
            entries.insertIfNew intf.interfaceId { pvid := toPvid vlanInitPvid }) ∅
      else ∅
    vlanPortTypeEntries :=
      if vlanSetting.accessTrunkMode then
        device.interfaces.foldl
          (fun entries intf => entries.insertIfNew intf.interfaceId { vlanPortType := .access }) ∅
      else ∅ }

/-- `UpdateVlanConfig(ActProject &, ActVlanTable &)` -/
def storeVlanTable (project : Project) (vlanTable : VlanTable) : Except Status Project :=
  match project.getDeviceById vlanTable.deviceId with
  | none => .error (.notFound ⟨"%1", [.int vlanTable.deviceId]⟩)
  | some device =>
    .ok { project with vlanTables := project.vlanTables.insert device.id vlanTable }

/-- `GetVlanConfig` -/
def getVlanConfig (project : Project) (deviceId : ℤ) : Except Status VlanTable :=
  match project.vlanTables[deviceId]? with
  | none => .error (.notFound ⟨"VlanConfig(Device:%1)", [.int deviceId]⟩)
  | some vlanTable => .ok vlanTable

/-- `UpdateVlanConfig`, the check of a device's features. -/
def checkPortType (portType : VlanPortType) (device : Device) : Except Status Unit :=
  let vlanSetting := device.deviceProperty.vlanSetting
  if (portType = .access ∨ portType = .trunk) ∧ vlanSetting.accessTrunkMode = false then
    .error (.badRequest ⟨"Device %1 doesn't support Access/Trunk mode", [.str device.ipAddress]⟩)
  else if portType = .hybrid ∧ vlanSetting.hybridMode = false then
    .error (.badRequest ⟨"Device %1 doesn't support Hybrid mode", [.str device.ipAddress]⟩)
  else .ok ()

/-- `UpdateVlanConfig`, the ports of one device. -/
def updatePorts (device : Device) (vlanConfig : VlanConfig) (vlanTable : VlanTable) :
    Except Status VlanTable :=
  vlanConfig.ports.foldlM (fun vlanTable port =>
    if port ∈ devicePorts device then
      .ok (updatePort device.deviceProperty.reservedVlan vlanConfig.vlanId vlanConfig.portType
        vlanTable port)
    else .error (.notFound ⟨"Port %1 in device %2", [.int port, .str device.ipAddress]⟩))
    vlanTable

/-- `UpdateVlanConfig`, one device. -/
def updateDeviceVlanConfig (vlanConfig : VlanConfig) (project : Project) (deviceId : ℤ) :
    Except Status Project :=
  match project.getDeviceById deviceId with
  | none => .error (.notFound ⟨"Device %1 in project", [.int deviceId]⟩)
  | some device => do
    checkPortType vlanConfig.portType device
    let vlanTable :=
      match getVlanConfig project deviceId with
      | .error _ => defaultVlanTable device deviceId
      | .ok vlanTable => vlanTable
    let vlanTable ← updatePorts device vlanConfig vlanTable
    storeVlanTable project vlanTable

/-- `UpdateVlanConfig` -/
def updateVlanConfig (project : Project) (vlanConfig : VlanConfig) : Except Status Project :=
  vlanConfig.devices.foldlM (updateDeviceVlanConfig vlanConfig) project

/-- `DeleteVlanConfig`, one device. -/
def deleteDeviceVlanConfig (vlanConfig : VlanConfig) (project : Project) (deviceId : ℤ) :
    Except Status Project :=
  match project.getDeviceById deviceId with
  | none => .error (.notFound ⟨"Device %1 in project", [.int deviceId]⟩)
  | some device =>
    match getVlanConfig project deviceId with
    | .error _ => .ok project
    | .ok vlanTable =>
      storeVlanTable project (vlanConfig.ports.foldl
        (deletePort device.deviceProperty.reservedVlan vlanConfig.vlanId) vlanTable)

/-- `DeleteVlanConfig` -/
def deleteVlanConfig (project : Project) (vlanConfig : VlanConfig) : Except Status Project :=
  vlanConfig.devices.foldlM (deleteDeviceVlanConfig vlanConfig) project

/-! ### One port -/

/-- What a table says about one port. -/
@[ext] structure PortState where
  egress : Set ℤ
  untagged : Set ℤ
  pvid : Option ℤ
  portType : Option VlanPortType

namespace PortState

variable {s : PortState} {v : ℤ} {portType : VlanPortType}

/-- The port is put into a VLAN. -/
def join (s : PortState) (v : ℤ) : VlanPortType → PortState
  | .access => ⟨{v}, {v}, some ((toPvid v).toNat : ℤ), some .access⟩
  | .trunk => ⟨insert v s.egress, ∅, s.pvid, some .trunk⟩
  | .hybrid => ⟨insert v s.egress, s.untagged, s.pvid, some .hybrid⟩

open Classical in
/-- The port is taken out of a VLAN.  `reserved` says that a reserved VLAN is left
in the table. -/
noncomputable def leave (s : PortState) (v : ℤ) (reserved : Prop) : PortState :=
  let portType := s.portType.getD .access
  if s.egress \ {v} = ∅ ∧ ¬reserved then
    ⟨insert vlanInitPvid (s.egress \ {v}), insert vlanInitPvid (s.untagged \ {v}),
      some vlanInitPvid, some .access⟩
  else if s.pvid = some v then
    ⟨insert vlanInitPvid (s.egress \ {v}),
      if portType = .access then insert vlanInitPvid (s.untagged \ {v}) else s.untagged \ {v},
      some vlanInitPvid, some portType⟩
  else ⟨s.egress \ {v}, s.untagged \ {v}, s.pvid, s.portType⟩

/-- A port is in order.  One without a type has not been touched yet, and is held to
what is asked of an access port. -/
structure InOrder (s : PortState) : Prop where
  untagged : s.untagged ⊆ s.egress
  member : s.egress.Nonempty
  pvid : ∀ v, s.pvid = some v → v ∈ s.egress
  access : s.portType.getD .access = .access → ∃ v ∈ s.untagged, s.egress = {v}

theorem toPvid_of_lt (h : 0 ≤ v) (h' : v < 65536) : ((toPvid v).toNat : ℤ) = v := by
  rw [toPvid, UInt16.toNat_ofNat']
  omega

theorem join_untagged_subset (h : s.untagged ⊆ s.egress) :
    (s.join v portType).untagged ⊆ (s.join v portType).egress := by
  cases portType with
  | access => exact subset_rfl
  | trunk => exact empty_subset _
  | hybrid => exact h.trans (subset_insert v s.egress)

/-- A port that joins a VLAN stays in order, when the id of the VLAN of an access
port is one a PVID can hold. -/
theorem InOrder.join (h : s.InOrder) (hv : portType = .access → 0 ≤ v ∧ v < 65536) :
    (s.join v portType).InOrder := by
  refine ⟨join_untagged_subset h.untagged, ?_, ?_, ?_⟩
  · cases portType with
    | access => exact singleton_nonempty v
    | trunk => exact insert_nonempty v s.egress
    | hybrid => exact insert_nonempty v s.egress
  · intro u hu
    cases portType with
    | access =>
      obtain ⟨hlow, hhigh⟩ := hv rfl
      have hpvid : ((toPvid v).toNat : ℤ) = u := some.inj hu
      rw [toPvid_of_lt hlow hhigh] at hpvid
      exact mem_singleton_iff.2 hpvid.symm
    | trunk => exact mem_insert_of_mem v (h.pvid u hu)
    | hybrid => exact mem_insert_of_mem v (h.pvid u hu)
  · intro haccess
    cases portType with
    | access => exact ⟨v, rfl, rfl⟩
    | trunk => cases haccess
    | hybrid => cases haccess

theorem join_pvid_isSome (h : s.pvid.isSome = true) : (s.join v portType).pvid.isSome = true := by
  cases portType with
  | access => rfl
  | trunk => exact h
  | hybrid => exact h

theorem leave_pvid_isSome {reserved : Prop} (h : s.pvid.isSome = true) :
    (s.leave v reserved).pvid.isSome = true := by
  rw [leave]
  split_ifs
  · rfl
  · rfl
  · rfl
  · exact h

theorem leave_untagged_subset {reserved : Prop} (h : s.untagged ⊆ s.egress) :
    (s.leave v reserved).untagged ⊆ (s.leave v reserved).egress := by
  have hleft : s.untagged \ {v} ⊆ s.egress \ {v} := sdiff_subset_sdiff_left h
  rw [leave]
  split_ifs
  · exact insert_subset_insert hleft
  · exact insert_subset_insert hleft
  · exact hleft.trans (subset_insert _ _)
  · exact hleft

/-- **A port that leaves a VLAN stays in order**, unless it has no PVID, is in no
other VLAN, and a reserved one is in the table. -/
theorem InOrder.leave {reserved : Prop} (h : s.InOrder)
    (hleft : s.pvid.isSome ∨ (s.egress \ {v}).Nonempty ∨ ¬reserved) :
    (s.leave v reserved).InOrder := by
  have hsub : (s.leave v reserved).untagged ⊆ (s.leave v reserved).egress :=
    leave_untagged_subset h.untagged
  rw [PortState.leave] at hsub ⊢
  by_cases hempty : s.egress \ {v} = ∅ ∧ ¬reserved
  · rw [if_pos hempty] at hsub ⊢
    refine ⟨hsub, insert_nonempty _ _, fun u hu => ?_, fun _ => ?_⟩
    · exact .inl (some.inj hu).symm
    · refine ⟨vlanInitPvid, mem_insert _ _, ?_⟩
      simp [hempty.1]
  rw [if_neg hempty] at hsub ⊢
  by_cases hpvid : s.pvid = some v
  · rw [if_pos hpvid] at hsub ⊢
    refine ⟨hsub, insert_nonempty _ _, fun u hu => ?_, fun htype => ?_⟩
    · exact .inl (some.inj hu).symm
    · -- the one VLAN of an access port was its PVID, so it is in VLAN 1 now
      have haccess : s.portType.getD .access = .access := htype
      obtain ⟨w, -, hw⟩ := h.access haccess
      have hvw : v = w := by
        have hmem := h.pvid v hpvid
        rwa [hw, mem_singleton_iff] at hmem
      refine ⟨vlanInitPvid, ?_, ?_⟩
      · rw [if_pos haccess]
        exact mem_insert _ _
      · simp [hw, hvw]
  · rw [if_neg hpvid] at hsub ⊢
    have hne : (s.egress \ {v}).Nonempty := by
      rcases hleft with hsome | hnonempty | hreserved
      · obtain ⟨u, hu⟩ := isSome_iff_exists.1 hsome
        have huv : u ≠ v := fun e => hpvid (e ▸ hu)
        exact ⟨u, h.pvid u hu, huv⟩
      · exact hnonempty
      · rw [nonempty_iff_ne_empty]
        exact fun hnone => hempty ⟨hnone, hreserved⟩
    refine ⟨hsub, hne, fun u hu => ?_, fun htype => ?_⟩
    · exact ⟨h.pvid u hu, fun e => hpvid (by rw [← mem_singleton_iff.1 e]; exact hu)⟩
    · obtain ⟨w, hwUntagged, hw⟩ := h.access htype
      obtain ⟨u, hu, huv⟩ := hne
      rw [hw, mem_singleton_iff] at hu
      subst hu
      refine ⟨u, ⟨hwUntagged, huv⟩, ?_⟩
      show s.egress \ {v} = {u}
      rw [hw]
      exact ext fun x => ⟨fun hx => hx.1,
        fun hx => ⟨hx, fun e => huv ((mem_singleton_iff.1 hx).symm.trans e)⟩⟩

end PortState

/-! ### The table, seen from a port -/

section

variable {entries : QMap ℤ VlanStaticEntry} {entry : VlanStaticEntry} {table : VlanTable}
  {reservedVlan : Finset ℤ} {v w port q : ℤ} {portType : VlanPortType}

/-- The VLANs the port is an egress port of. -/
def egressOf (entries : QMap ℤ VlanStaticEntry) (q : ℤ) : Set ℤ :=
  {w | ∃ entry : VlanStaticEntry, entries[w]? = some entry ∧ q ∈ entry.egressPorts}

/-- The VLANs the port is an untagged port of. -/
def untaggedOf (entries : QMap ℤ VlanStaticEntry) (q : ℤ) : Set ℤ :=
  {w | ∃ entry : VlanStaticEntry, entries[w]? = some entry ∧ q ∈ entry.untaggedPorts}

/-- What the table says about a port. -/
def portState (table : VlanTable) (q : ℤ) : PortState where
  egress := egressOf table.vlanStaticEntries q
  untagged := untaggedOf table.vlanStaticEntries q
  pvid := table.portVlanEntries[q]?.map fun entry => (entry.pvid.toNat : ℤ)
  portType := table.vlanPortTypeEntries[q]?.map (·.vlanPortType)

theorem mem_egressOf : w ∈ egressOf entries q ↔
    ∃ entry : VlanStaticEntry, entries[w]? = some entry ∧ q ∈ entry.egressPorts := Iff.rfl

theorem mem_untaggedOf : w ∈ untaggedOf entries q ↔
    ∃ entry : VlanStaticEntry, entries[w]? = some entry ∧ q ∈ entry.untaggedPorts := Iff.rfl

theorem mem_getD_egressPorts :
    q ∈ (entries.getD v (.ofId v)).egressPorts ↔ v ∈ egressOf entries q := by
  rw [mem_egressOf, getD_eq_getD_getElem?]
  cases entries[v]? with
  | none => simp [VlanStaticEntry.ofId]
  | some entry => simp

theorem mem_getD_untaggedPorts :
    q ∈ (entries.getD v (.ofId v)).untaggedPorts ↔ v ∈ untaggedOf entries q := by
  rw [mem_untaggedOf, getD_eq_getD_getElem?]
  cases entries[v]? with
  | none => simp [VlanStaticEntry.ofId]
  | some entry => simp

theorem mem_egressOf_insert : w ∈ egressOf (entries.insert v entry) q ↔
    if w = v then q ∈ entry.egressPorts else w ∈ egressOf entries q := by
  rw [mem_egressOf, getElem?_insert]
  by_cases hw : w = v
  · simp [hw]
  · simp [hw, Ne.symm hw, mem_egressOf]

theorem mem_untaggedOf_insert : w ∈ untaggedOf (entries.insert v entry) q ↔
    if w = v then q ∈ entry.untaggedPorts else w ∈ untaggedOf entries q := by
  rw [mem_untaggedOf, getElem?_insert]
  by_cases hw : w = v
  · simp [hw]
  · simp [hw, Ne.symm hw, mem_untaggedOf]

theorem mem_egressOf_erase : w ∈ egressOf (entries.erase v) q ↔
    w ≠ v ∧ w ∈ egressOf entries q := by
  rw [mem_egressOf, getElem?_erase]
  by_cases hw : w = v
  · simp [hw]
  · simp [hw, Ne.symm hw, mem_egressOf]

theorem mem_untaggedOf_erase : w ∈ untaggedOf (entries.erase v) q ↔
    w ≠ v ∧ w ∈ untaggedOf entries q := by
  rw [mem_untaggedOf, getElem?_erase]
  by_cases hw : w = v
  · simp [hw]
  · simp [hw, Ne.symm hw, mem_untaggedOf]

/-- The entry stays through the rebuilding when a port is left in it. -/
theorem mem_egressOf_rebuildEntries :
    w ∈ egressOf (rebuildEntries reservedVlan portType port entries) q ↔
      w ∈ egressOf entries q ∧ (portType = .access → q ≠ port) := by
  rw [mem_egressOf, rebuildEntries, getElem?_filterMap']
  cases hw : entries[w]? with
  | none => simp [mem_egressOf, hw]
  | some entry =>
    have hmem : q ∈ (stripEntry portType port entry).egressPorts ↔
        q ∈ entry.egressPorts ∧ (portType = .access → q ≠ port) := by
      cases portType <;> simp [stripEntry, and_comm]
    have hold : w ∈ egressOf entries q ↔ q ∈ entry.egressPorts := by
      simp [mem_egressOf, hw]
    rw [hold, ← hmem]
    constructor
    · rintro ⟨kept, hkept, hq⟩
      simp only [bind_some] at hkept
      split_ifs at hkept
      rwa [← some.inj hkept] at hq
    · intro hq
      refine ⟨_, ?_, hq⟩
      have hne : (stripEntry portType port entry).egressPorts ≠ ∅ := Finset.ne_empty_of_mem hq
      simp only [bind_some]
      rw [if_pos (Or.inl hne)]

/-- As for egress ports, as an entry that has no egress port has no untagged one. -/
theorem mem_untaggedOf_rebuildEntries (hsub : ∀ q, untaggedOf entries q ⊆ egressOf entries q) :
    w ∈ untaggedOf (rebuildEntries reservedVlan portType port entries) q ↔
      w ∈ untaggedOf entries q ∧ (portType ≠ .hybrid → q ≠ port) := by
  rw [mem_untaggedOf, rebuildEntries, getElem?_filterMap']
  cases hw : entries[w]? with
  | none => simp [mem_untaggedOf, hw]
  | some entry =>
    have hmem : q ∈ (stripEntry portType port entry).untaggedPorts ↔
        q ∈ entry.untaggedPorts ∧ (portType ≠ .hybrid → q ≠ port) := by
      cases portType <;> simp [stripEntry, and_comm]
    have hold : w ∈ untaggedOf entries q ↔ q ∈ entry.untaggedPorts := by
      simp [mem_untaggedOf, hw]
    have hegress : q ∈ (stripEntry portType port entry).untaggedPorts →
        q ∈ (stripEntry portType port entry).egressPorts := by
      intro hq
      obtain ⟨hold', hne⟩ := hmem.1 hq
      obtain ⟨other, hother, hq'⟩ := hsub q (hold.2 hold')
      rw [hw] at hother
      cases hother
      cases portType with
      | access => exact Finset.mem_erase.2 ⟨hne (by decide), hq'⟩
      | trunk => exact hq'
      | hybrid => exact hq'
    rw [hold, ← hmem]
    constructor
    · rintro ⟨kept, hkept, hq⟩
      simp only [bind_some] at hkept
      split_ifs at hkept
      rwa [← some.inj hkept] at hq
    · intro hq
      refine ⟨_, ?_, hq⟩
      have hne : (stripEntry portType port entry).egressPorts ≠ ∅ :=
        Finset.ne_empty_of_mem (hegress hq)
      simp only [bind_some]
      rw [if_pos (Or.inl hne)]

/-- In every VLAN the untagged ports are egress ports. -/
def UntaggedEgress (table : VlanTable) : Prop :=
  ∀ q, (portState table q).untagged ⊆ (portState table q).egress

/-- **An update puts the port into the VLAN and changes nothing for the others.** -/
theorem portState_updatePort (h : UntaggedEgress table) :
    portState (updatePort reservedVlan v portType table port) q =
      if q = port then (portState table q).join v portType else portState table q := by
  have hegress : ∀ w, w ∈ (portState (updatePort reservedVlan v portType table port) q).egress ↔
      (w = v ∧ q = port) ∨ (w ∈ (portState table q).egress ∧ (portType = .access → q ≠ port)) := by
    intro w
    have hrebuilt : ∀ u, u ∈ egressOf (rebuildEntries reservedVlan portType port
        table.vlanStaticEntries) q ↔ _ := fun u => mem_egressOf_rebuildEntries
    simp only [portState, updatePort, mem_egressOf_insert, Finset.mem_insert, mem_getD_egressPorts,
      hrebuilt]
    by_cases hw : w = v
    · subst hw
      simp
    · simp [hw]
  have huntagged : ∀ w, w ∈ (portState (updatePort reservedVlan v portType table port) q).untagged
      ↔ (w = v ∧ q = port ∧ portType = .access) ∨
        (w ∈ (portState table q).untagged ∧ (portType ≠ .hybrid → q ≠ port)) := by
    intro w
    have hrebuilt : ∀ u, u ∈ untaggedOf (rebuildEntries reservedVlan portType port
        table.vlanStaticEntries) q ↔ _ := fun u => mem_untaggedOf_rebuildEntries h
    simp only [portState, updatePort, mem_untaggedOf_insert]
    by_cases hw : w = v
    · subst hw
      by_cases haccess : portType = .access
      · subst haccess
        simp [mem_getD_untaggedPorts, hrebuilt]
      · simp [haccess, mem_getD_untaggedPorts, hrebuilt]
    · simp [hw, hrebuilt]
  by_cases hq : q = port
  · subst hq
    rw [if_pos rfl]
    ext1
    · ext w
      rw [hegress]
      cases portType with
      | access => simp [PortState.join]
      | trunk => simp [PortState.join]
      | hybrid => simp [PortState.join]
    · ext w
      rw [huntagged]
      cases portType with
      | access => simp [PortState.join]
      | trunk => simp [PortState.join]
      | hybrid => simp [PortState.join]
    · cases portType with
      | access => simp [portState, updatePort, PortState.join]
      | trunk => simp [portState, updatePort, PortState.join]
      | hybrid => simp [portState, updatePort, PortState.join]
    · cases portType with
      | access => simp [portState, updatePort, PortState.join]
      | trunk => simp [portState, updatePort, PortState.join]
      | hybrid => simp [portState, updatePort, PortState.join]
  · rw [if_neg hq]
    have hne : ¬port = q := Ne.symm hq
    ext1
    · ext w
      simp [hegress, hq]
    · ext w
      simp [huntagged, hq]
    · by_cases haccess : portType = .access
      · simp [portState, updatePort, haccess, getElem?_insert, hne]
      · simp [portState, updatePort, haccess]
    · simp [portState, updatePort, getElem?_insert, hne]

/-- The port leaves the VLAN it is taken out of, and no other port does. -/
theorem mem_egressOf_leaveVlan : w ∈ egressOf (leaveVlan v port entries) q ↔
    w ∈ egressOf entries q ∧ ¬(w = v ∧ q = port) := by
  have herased : ∀ u, u ∈ egressOf (entries.erase v) q ↔ _ := fun u => mem_egressOf_erase
  rw [leaveVlan]
  by_cases hempty : (entries.getD v (.ofId v)).egressPorts.erase port ≠ ∅
  · rw [if_pos hempty, mem_egressOf_insert, herased]
    by_cases hw : w = v
    · subst hw
      simp [mem_getD_egressPorts, and_comm]
    · simp [hw]
  · rw [if_neg hempty, herased]
    have hnone : v ∈ egressOf entries q → q = port := by
      intro hv
      by_contra hq
      rw [not_not] at hempty
      have hmem := Finset.mem_erase.2 ⟨hq, mem_getD_egressPorts.2 hv⟩
      rw [hempty] at hmem
      cases hmem
    constructor
    · rintro ⟨hw, hmem⟩
      exact ⟨hmem, fun h => hw h.1⟩
    · rintro ⟨hmem, hne⟩
      exact ⟨fun hw => hne ⟨hw, hnone (hw ▸ hmem)⟩, hmem⟩

theorem mem_untaggedOf_leaveVlan (hsub : ∀ q, untaggedOf entries q ⊆ egressOf entries q) :
    w ∈ untaggedOf (leaveVlan v port entries) q ↔
      w ∈ untaggedOf entries q ∧ ¬(w = v ∧ q = port) := by
  have herased : ∀ u, u ∈ untaggedOf (entries.erase v) q ↔ _ := fun u => mem_untaggedOf_erase
  rw [leaveVlan]
  by_cases hempty : (entries.getD v (.ofId v)).egressPorts.erase port ≠ ∅
  · rw [if_pos hempty, mem_untaggedOf_insert, herased]
    by_cases hw : w = v
    · subst hw
      simp [mem_getD_untaggedPorts, and_comm]
    · simp [hw]
  · rw [if_neg hempty, herased]
    have hnone : v ∈ untaggedOf entries q → q = port := by
      intro hv
      by_contra hq
      rw [not_not] at hempty
      have hmem := Finset.mem_erase.2 ⟨hq, mem_getD_egressPorts.2 (hsub q hv)⟩
      rw [hempty] at hmem
      cases hmem
    constructor
    · rintro ⟨hw, hmem⟩
      exact ⟨hmem, fun h => hw h.1⟩
    · rintro ⟨hmem, hne⟩
      exact ⟨fun hw => hne ⟨hw, hnone (hw ▸ hmem)⟩, hmem⟩

theorem mem_egressOf_joinInitVlan {untag : Bool} :
    w ∈ egressOf (joinInitVlan port untag entries) q ↔
      (w = vlanInitPvid ∧ q = port) ∨ w ∈ egressOf entries q := by
  rw [joinInitVlan, mem_egressOf_insert]
  by_cases hw : w = vlanInitPvid
  · simp [hw, mem_getD_egressPorts]
  · simp [hw]

theorem mem_untaggedOf_joinInitVlan {untag : Bool} :
    w ∈ untaggedOf (joinInitVlan port untag entries) q ↔
      (w = vlanInitPvid ∧ q = port ∧ untag = true) ∨ w ∈ untaggedOf entries q := by
  rw [joinInitVlan, mem_untaggedOf_insert]
  by_cases hw : w = vlanInitPvid
  · cases untag with
    | true => simp [hw, mem_getD_untaggedPorts]
    | false => simp [hw, mem_getD_untaggedPorts]
  · simp [hw]

/-- A reserved VLAN has an entry. -/
def HasReserved (reservedVlan : Finset ℤ) (entries : QMap ℤ VlanStaticEntry) : Prop :=
  ∃ w ∈ reservedVlan, entries.contains w = true

theorem isEmpty_countedVlans : (countedVlans reservedVlan port entries).isEmpty = true ↔
      egressOf entries port = ∅ ∧ ¬HasReserved reservedVlan entries := by
  have hcounted : ∀ w (entry : VlanStaticEntry), entries[w]? = some entry →
      ((countedVlans reservedVlan port entries)[w]? = none ↔
        ¬(port ∈ entry.egressPorts ∨ w ∈ reservedVlan)) := by
    intro w entry hw
    rw [countedVlans, getElem?_filterMap', hw, bind_some]
    by_cases h : port ∈ entry.egressPorts ∨ w ∈ reservedVlan
    · simp [h]
    · simp [h]
  have hmiss : ∀ w : ℤ, entries[w]? = none →
      (countedVlans reservedVlan port entries)[w]? = none := by
    intro w hw
    rw [countedVlans, getElem?_filterMap', hw, bind_none]
  rw [isEmpty_iff_forall_not_mem]
  have hnone : ∀ w, w ∉ countedVlans reservedVlan port entries ↔
      (countedVlans reservedVlan port entries)[w]? = none := by
    intro w
    rw [← contains_iff_mem, contains_eq_isSome_getElem?]
    simp
  simp only [hnone]
  constructor
  · intro hempty
    constructor
    · rw [eq_empty_iff_forall_notMem]
      rintro w ⟨entry, hw, hport⟩
      exact (hcounted w entry hw).1 (hempty w) (.inl hport)
    · rintro ⟨w, hreserved, hcont⟩
      rw [contains_eq_isSome_getElem?] at hcont
      obtain ⟨entry, hw⟩ := isSome_iff_exists.1 hcont
      exact (hcounted w entry hw).1 (hempty w) (.inr hreserved)
  · rintro ⟨hegress, hreserved⟩ w
    cases hw : entries[w]? with
    | none => exact hmiss w hw
    | some entry =>
      rw [hcounted w entry hw]
      rintro (hport | hmem)
      · exact eq_empty_iff_forall_notMem.1 hegress w ⟨entry, hw, hport⟩
      · refine hreserved ⟨w, hmem, ?_⟩
        rw [contains_eq_isSome_getElem?, hw]
        rfl

/-- The port leaves the VLAN. -/
theorem portState_left (h : UntaggedEgress table) :
    portState { table with vlanStaticEntries := leaveVlan v port table.vlanStaticEntries } q =
      if q = port then { portState table q with
        egress := (portState table q).egress \ {v}
        untagged := (portState table q).untagged \ {v} }
      else portState table q := by
  split_ifs with hq
  · subst hq
    ext1
    · ext w
      simp [portState, mem_egressOf_leaveVlan]
    · ext w
      simp [portState, mem_untaggedOf_leaveVlan h]
    · rfl
    · rfl
  · ext1
    · ext w
      simp [portState, mem_egressOf_leaveVlan, hq]
    · ext w
      simp [portState, mem_untaggedOf_leaveVlan h, hq]
    · rfl
    · rfl

/-- The port leaves the VLAN and is put into VLAN 1. -/
theorem portState_moved (h : UntaggedEgress table) {untag : Bool} {typeEntry : VlanPortTypeEntry} :
    portState { table with
      vlanStaticEntries := joinInitVlan port untag (leaveVlan v port table.vlanStaticEntries)
      portVlanEntries := table.portVlanEntries.insert port { pvid := toPvid vlanInitPvid }
      vlanPortTypeEntries := table.vlanPortTypeEntries.insert port typeEntry } q =
      if q = port then
        ⟨insert vlanInitPvid ((portState table q).egress \ {v}),
          bif untag then insert vlanInitPvid ((portState table q).untagged \ {v})
          else (portState table q).untagged \ {v}, some vlanInitPvid, some typeEntry.vlanPortType⟩
      else portState table q := by
  have hinit : ((toPvid vlanInitPvid).toNat : ℤ) = vlanInitPvid := rfl
  split_ifs with hq
  · subst hq
    ext1
    · ext w
      simp [portState, mem_egressOf_joinInitVlan, mem_egressOf_leaveVlan]
    · ext w
      cases untag <;> simp [portState, mem_untaggedOf_joinInitVlan, mem_untaggedOf_leaveVlan h]
    · simp [portState, hinit]
    · simp [portState]
  · have hne : ¬port = q := Ne.symm hq
    ext1
    · ext w
      simp [portState, mem_egressOf_joinInitVlan, mem_egressOf_leaveVlan, hq]
    · ext w
      simp [portState, mem_untaggedOf_joinInitVlan, mem_untaggedOf_leaveVlan h, hq]
    · simp [portState, getElem?_insert, hne]
    · simp [portState, getElem?_insert, hne]

/-- **A deletion takes the port out of the VLAN and changes nothing for the others.** -/
theorem portState_deletePort (h : UntaggedEgress table) :
    portState (deletePort reservedVlan v table port) q =
      if q = port then (portState table q).leave v
        (HasReserved reservedVlan (leaveVlan v port table.vlanStaticEntries))
      else portState table q := by
  have hleft : egressOf (leaveVlan v port table.vlanStaticEntries) port
      = (portState table port).egress \ {v} := by
    ext w
    rw [mem_egressOf_leaveVlan]
    simp [portState]
  unfold deletePort PortState.leave
  by_cases hempty : (countedVlans reservedVlan port
      (leaveVlan v port table.vlanStaticEntries)).isEmpty = true
  · rw [if_pos hempty, portState_moved h]
    rw [isEmpty_countedVlans, hleft] at hempty
    refine ite_congr rfl (fun hq => ?_) fun _ => rfl
    rw [hq, if_pos hempty, Bool.cond_true]
  · rw [if_neg hempty]
    rw [isEmpty_countedVlans, hleft] at hempty
    -- the port stays where it is, apart from the VLAN it left
    have hstays : (portState table port).pvid ≠ some v → portState { table with
        vlanStaticEntries := leaveVlan v port table.vlanStaticEntries } q =
        if q = port then (portState table q).leave v
          (HasReserved reservedVlan (leaveVlan v port table.vlanStaticEntries))
        else portState table q := by
      intro hpvid
      rw [portState_left h]
      refine ite_congr rfl (fun hq => ?_) fun _ => rfl
      rw [PortState.leave, hq, if_neg hempty, if_neg hpvid]
    cases hentry : table.portVlanEntries[port]? with
    | none => exact hstays (by simp [portState, hentry])
    | some portVlanEntry =>
      have hpvid : (portState table port).pvid = some (portVlanEntry.pvid.toNat : ℤ) := by
        simp [portState, hentry]
      by_cases hv : (portVlanEntry.pvid.toNat : ℤ) = v
      · simp only [if_pos hv]
        rw [hv] at hpvid
        have htype : (table.vlanPortTypeEntries.getD port
            { vlanPortType := .access }).vlanPortType
              = (portState table port).portType.getD .access := by
          rw [getD_eq_getD_getElem?, portState]
          cases table.vlanPortTypeEntries[port]? with
          | none => rfl
          | some typeEntry => rfl
        rw [portState_moved h, htype]
        refine ite_congr rfl (fun hq => ?_) fun _ => rfl
        rw [hq, if_neg hempty, if_pos hpvid]
        rw [Bool.cond_decide]
      · simp only [if_neg hv]
        exact hstays fun e => hv (some.inj (hpvid.symm.trans e))

/-! ### A table in order -/

/-- **The table of a device is in order**: its parts agree about every port. -/
structure VlanTableInOrder (device : Device) (table : VlanTable) : Prop where
  untagged : ∀ (w : ℤ) (entry : VlanStaticEntry), table.vlanStaticEntries[w]? = some entry →
    entry.untaggedPorts ⊆ entry.egressPorts
  member : ∀ port ∈ devicePorts device, ∃ (w : ℤ) (entry : VlanStaticEntry),
    table.vlanStaticEntries[w]? = some entry ∧ port ∈ entry.egressPorts
  pvid : ∀ port ∈ devicePorts device, ∀ portVlanEntry, table.portVlanEntries[port]? =
    some portVlanEntry →
    ∃ entry : VlanStaticEntry,
      table.vlanStaticEntries[(portVlanEntry.pvid.toNat : ℤ)]? = some entry ∧
        port ∈ entry.egressPorts
  access : ∀ port ∈ devicePorts device, ∀ typeEntry, table.vlanPortTypeEntries[port]? =
    some typeEntry →
    typeEntry.vlanPortType = .access → ∃ (w : ℤ) (entry : VlanStaticEntry),
      table.vlanStaticEntries[w]? = some entry ∧ port ∈ entry.untaggedPorts ∧
      (∀ portVlanEntry, table.portVlanEntries[port]? = some portVlanEntry →
        (portVlanEntry.pvid.toNat : ℤ) = w) ∧
      ∀ (u : ℤ) (other : VlanStaticEntry), table.vlanStaticEntries[u]? = some other →
        (port ∈ other.egressPorts ↔ u = w)
  defaultPvid : device.deviceProperty.vlanSetting.defaultPvid = true →
    ∀ port ∈ devicePorts device, table.portVlanEntries.contains port = true

/-- Every port of the device is in order, and what is untagged is an egress port. -/
structure PortsInOrder (device : Device) (table : VlanTable) : Prop where
  untagged : UntaggedEgress table
  port : ∀ port ∈ devicePorts device, (portState table port).InOrder
  defaultPvid : device.deviceProperty.vlanSetting.defaultPvid = true →
    ∀ port ∈ devicePorts device, (portState table port).pvid.isSome = true

theorem pvid_isSome : (portState table port).pvid.isSome = table.portVlanEntries.contains port := by
  rw [contains_eq_isSome_getElem?, portState, isSome_map]

theorem PortsInOrder.inOrder {device : Device} (h : PortsInOrder device table) :
    VlanTableInOrder device table := by
  constructor
  · intro w entry hw port hport
    obtain ⟨other, hother, hmem⟩ := h.untagged port ⟨entry, hw, hport⟩
    rw [hw] at hother
    rwa [some.inj hother]
  · intro port hport
    obtain ⟨w, entry, hw, hmem⟩ := (h.port port hport).member
    exact ⟨w, entry, hw, hmem⟩
  · intro port hport portVlanEntry hentry
    exact (h.port port hport).pvid _ (by simp [portState, hentry])
  · intro port hport typeEntry htype haccess
    obtain ⟨w, ⟨entry, hw, hmem⟩, honly⟩ := (h.port port hport).access
      (by simp [portState, htype, haccess])
    refine ⟨w, entry, hw, hmem, fun portVlanEntry hentry => ?_, fun u other hu => ?_⟩
    · have hpvid : (portVlanEntry.pvid.toNat : ℤ) ∈ (portState table port).egress :=
        (h.port port hport).pvid _ (by simp [portState, hentry])
      rwa [honly, mem_singleton_iff] at hpvid
    · have huw : u ∈ (portState table port).egress ↔ u = w := by
        rw [honly, mem_singleton_iff]
      rw [← huw]
      constructor
      · exact fun hport => ⟨other, hu, hport⟩
      · rintro ⟨found, hfound, hport⟩
        rw [hu] at hfound
        rwa [some.inj hfound]
  · intro hdefault port hport
    rw [← pvid_isSome]
    exact h.defaultPvid hdefault port hport

theorem PortsInOrder.updatePort {device : Device} (h : PortsInOrder device table)
    (hv : portType = .access → 0 ≤ v ∧ v < 65536) :
    PortsInOrder device (Core.updatePort reservedVlan v portType table port) := by
  constructor
  · intro q
    rw [portState_updatePort h.untagged]
    split_ifs
    · exact PortState.join_untagged_subset (h.untagged q)
    · exact h.untagged q
  · intro q hq
    rw [portState_updatePort h.untagged]
    split_ifs
    · exact (h.port q hq).join hv
    · exact h.port q hq
  · intro hdefault q hq
    rw [portState_updatePort h.untagged]
    split_ifs
    · exact PortState.join_pvid_isSome (h.defaultPvid hdefault q hq)
    · exact h.defaultPvid hdefault q hq

/-- The condition on a port that is taken out of a VLAN: it has a PVID, or it is in
another VLAN, or no reserved VLAN stays in the table. -/
def Leaves (reservedVlan : Finset ℤ) (v : ℤ) (table : VlanTable) (port : ℤ) : Prop :=
  table.portVlanEntries.contains port = true ∨
  (∃ w ≠ v, w ∈ egressOf table.vlanStaticEntries port) ∨
  ¬HasReserved reservedVlan (leaveVlan v port table.vlanStaticEntries)

theorem PortsInOrder.deletePort {device : Device} (h : PortsInOrder device table)
    (hleaves : port ∈ devicePorts device → Leaves reservedVlan v table port) :
    PortsInOrder device (Core.deletePort reservedVlan v table port) := by
  constructor
  · intro q
    rw [portState_deletePort h.untagged]
    split_ifs
    · exact PortState.leave_untagged_subset (h.untagged q)
    · exact h.untagged q
  · intro q hq
    rw [portState_deletePort h.untagged]
    split_ifs with hport
    · subst hport
      refine (h.port q hq).leave ?_
      rcases hleaves hq with hcont | ⟨w, hw, hmem⟩ | hreserved
      · exact .inl (pvid_isSome.trans hcont)
      · exact .inr (.inl ⟨w, hmem, hw⟩)
      · exact .inr (.inr hreserved)
    · exact h.port q hq
  · intro hdefault q hq
    rw [portState_deletePort h.untagged]
    split_ifs
    · exact PortState.leave_pvid_isSome (h.defaultPvid hdefault q hq)
    · exact h.defaultPvid hdefault q hq

/-- Entries that are all alike, one for each interface. -/
theorem getElem?_foldl_insertIfNew {α : Type} {interfaces : List Interface} {entry : α}
    {entries : QMap ℤ α} :
    (interfaces.foldl (fun entries intf => entries.insertIfNew intf.interfaceId entry)
      entries)[q]? =
      if entries[q]?.isSome then entries[q]?
      else if ∃ intf ∈ interfaces, intf.interfaceId = q then some entry else none := by
  induction interfaces generalizing entries with
  | nil =>
    cases h : entries[q]? with
    | none => simp [h]
    | some found => simp [h]
  | cons intf interfaces ih =>
    rw [List.foldl_cons, ih, getElem?_insertIfNew]
    by_cases hq : intf.interfaceId = q
    · subst hq
      cases h : entries[intf.interfaceId]? with
      | none =>
        have hmem : intf.interfaceId ∉ entries := by
          rw [← contains_iff_mem, contains_eq_isSome_getElem?, h]
          simp
        simp [hmem]
      | some found =>
        have hmem : intf.interfaceId ∈ entries := by
          rw [← contains_iff_mem, contains_eq_isSome_getElem?, h]
          simp
        simp [hmem]
    · simp [hq]

theorem mem_devicePorts {device : Device} :
    q ∈ devicePorts device ↔ ∃ intf ∈ device.interfaces, intf.interfaceId = q := by
  simp [devicePorts]

/-- The default table puts every port into VLAN 1, untagged. -/
theorem portsInOrder_defaultVlanTable {device : Device} {deviceId : ℤ} :
    PortsInOrder device (defaultVlanTable device deviceId) := by
  have hstatic : ∀ w, (defaultVlanTable device deviceId).vlanStaticEntries[w]? =
      if w = vlanInitPvid then some { VlanStaticEntry.ofId vlanInitPvid with
        egressPorts := devicePorts device, untaggedPorts := devicePorts device } else none := by
    intro w
    rw [defaultVlanTable, getElem?_insert]
    by_cases hw : w = vlanInitPvid
    · simp [hw]
    · simp [hw, Ne.symm hw]
  have hegress : ∀ q w, w ∈ (portState (defaultVlanTable device deviceId) q).egress ↔
      w = vlanInitPvid ∧ q ∈ devicePorts device := by
    intro q w
    simp only [portState, mem_egressOf, hstatic]
    by_cases hw : w = vlanInitPvid
    · simp [hw]
    · simp [hw]
  have huntagged : ∀ q w, w ∈ (portState (defaultVlanTable device deviceId) q).untagged ↔
      w = vlanInitPvid ∧ q ∈ devicePorts device := by
    intro q w
    simp only [portState, mem_untaggedOf, hstatic]
    by_cases hw : w = vlanInitPvid
    · simp [hw]
    · simp [hw]
  have hpvid : ∀ q, (portState (defaultVlanTable device deviceId) q).pvid =
      if device.deviceProperty.vlanSetting.defaultPvid = true ∧ q ∈ devicePorts device then
        some vlanInitPvid else none := by
    intro q
    have hentry : (defaultVlanTable device deviceId).portVlanEntries[q]? =
        if device.deviceProperty.vlanSetting.defaultPvid = true ∧ q ∈ devicePorts device then
          some { pvid := toPvid vlanInitPvid } else none := by
      simp only [defaultVlanTable, mem_devicePorts]
      by_cases hdefault : device.deviceProperty.vlanSetting.defaultPvid = true
      · rw [if_pos hdefault, getElem?_foldl_insertIfNew]
        simp [hdefault]
      · rw [if_neg hdefault]
        simp [hdefault]
    rw [portState, hentry]
    split_ifs
    · rfl
    · rfl
  constructor
  · intro q w hw
    exact (hegress q w).2 ((huntagged q w).1 hw)
  · intro port hport
    refine ⟨fun w hw => (hegress port w).2 ((huntagged port w).1 hw),
      ⟨vlanInitPvid, (hegress port _).2 ⟨rfl, hport⟩⟩, fun u hu => ?_, fun _ => ?_⟩
    · rw [hpvid] at hu
      split_ifs at hu
      exact (hegress port u).2 ⟨(some.inj hu).symm, hport⟩
    · refine ⟨vlanInitPvid, (huntagged port _).2 ⟨rfl, hport⟩, ?_⟩
      ext w
      rw [hegress, mem_singleton_iff]
      exact and_iff_left hport
  · intro hdefault port hport
    rw [hpvid, if_pos ⟨hdefault, hport⟩]
    rfl

/-! ### The tables of a project -/

/-- Every stored table is that of a device of the project, and its ports are in
order. -/
def TablesInOrder (project : Project) : Prop :=
  ∀ (deviceId : ℤ) (table : VlanTable), project.vlanTables[deviceId]? = some table →
    table.deviceId = deviceId ∧
    ∃ device, project.getDeviceById deviceId = some device ∧ PortsInOrder device table

variable {project project' : Project} {vlanConfig : VlanConfig} {deviceId : ℤ} {device : Device}

theorem deviceId_deletePort : (deletePort reservedVlan v table port).deviceId = table.deviceId := by
  rw [deletePort]
  split_ifs
  · rfl
  · cases table.portVlanEntries[port]? with
    | none => rfl
    | some entry =>
      dsimp only
      split_ifs <;> rfl

theorem TablesInOrder.store (h : TablesInOrder project)
    (hdevices : DevicesWellFormed project.devices)
    (hdev : project.getDeviceById table.deviceId = some device)
    (htable : PortsInOrder device table) (hstore : storeVlanTable project table = .ok project') :
    TablesInOrder project' ∧ project'.devices = project.devices := by
  rw [storeVlanTable, hdev] at hstore
  cases hstore
  have hid : device.id = table.deviceId := (hdevices.id_of_find hdev).2
  refine ⟨fun key found hfound => ?_, rfl⟩
  simp only [hid, getElem?_insert] at hfound
  split_ifs at hfound with hkey
  · cases hfound
    have hkey' : table.deviceId = key := by simpa using hkey
    exact ⟨hkey', device, hkey' ▸ hdev, htable⟩
  · exact h key found hfound

/-- What `UpdateVlanConfig` is called with can be held by a PVID, where it becomes
one. -/
def FitsPvid (vlanConfig : VlanConfig) : Prop :=
  vlanConfig.portType = .access → vlanConfig.ports ≠ [] →
    0 ≤ vlanConfig.vlanId ∧ vlanConfig.vlanId < 65536

/-- Every port leaves the VLAN as `Leaves` says, in the table as it is then. -/
def LeavesAll (vlanConfig : VlanConfig) (device : Device) (table : VlanTable) : Prop :=
  ∀ before port after, vlanConfig.ports = before ++ port :: after → port ∈ devicePorts device →
    Leaves device.deviceProperty.reservedVlan vlanConfig.vlanId
      (before.foldl (deletePort device.deviceProperty.reservedVlan vlanConfig.vlanId) table) port

theorem PortsInOrder.updatePorts (h : PortsInOrder device table) (hfits : FitsPvid vlanConfig)
    {table' : VlanTable} (hupd : Core.updatePorts device vlanConfig table = .ok table') :
    PortsInOrder device table' ∧ table'.deviceId = table.deviceId := by
  refine foldlM_rule_moment (I := fun (t : VlanTable) => PortsInOrder device t ∧
    t.deviceId = table.deviceId) hupd ⟨h, rfl⟩ ?_
  intro before port after t t' hsplit _ ⟨ht, hid⟩ hstep
  split_ifs at hstep with hport
  rw [← Except.ok.inj hstep]
  refine ⟨ht.updatePort fun haccess => hfits haccess ?_, hid⟩
  rw [hsplit]
  simp

theorem PortsInOrder.deletePorts (h : PortsInOrder device table)
    (hleaves : LeavesAll vlanConfig device table) :
    PortsInOrder device (vlanConfig.ports.foldl
      (Core.deletePort device.deviceProperty.reservedVlan vlanConfig.vlanId) table) ∧
    (vlanConfig.ports.foldl (Core.deletePort device.deviceProperty.reservedVlan vlanConfig.vlanId)
      table).deviceId = table.deviceId := by
  refine Loop.foldl_rule (I := fun _ (t : VlanTable) => PortsInOrder device t ∧
    t.deviceId = table.deviceId) ⟨h, rfl⟩ ?_
  intro before port after hsplit ⟨hbefore, hid⟩
  exact ⟨hbefore.deletePort fun hport => hleaves before port after hsplit hport,
    deviceId_deletePort.trans hid⟩

variable (h : TablesInOrder project) (hdevices : DevicesWellFormed project.devices)
include h hdevices

theorem TablesInOrder.updateDevice (hfits : FitsPvid vlanConfig)
    (hupd : updateDeviceVlanConfig vlanConfig project deviceId = .ok project') :
    TablesInOrder project' ∧ project'.devices = project.devices := by
  rw [updateDeviceVlanConfig] at hupd
  cases hdev : project.getDeviceById deviceId with
  | none =>
    rw [hdev] at hupd
    cases hupd
  | some device =>
    simp only [hdev] at hupd
    obtain ⟨-, -, hrest⟩ := exists_of_bind hupd
    obtain ⟨table, htable, hstore⟩ := exists_of_bind hrest
    have hstart : PortsInOrder device (match getVlanConfig project deviceId with
        | .error _ => defaultVlanTable device deviceId
        | .ok vlanTable => vlanTable) ∧
        (match getVlanConfig project deviceId with
        | .error _ => defaultVlanTable device deviceId
        | .ok vlanTable => vlanTable).deviceId = deviceId := by
      rw [getVlanConfig]
      cases hfound : project.vlanTables[deviceId]? with
      | none => exact ⟨portsInOrder_defaultVlanTable, rfl⟩
      | some found =>
        obtain ⟨hid, other, hother, hports⟩ := h deviceId found hfound
        rw [hdev] at hother
        exact ⟨some.inj hother ▸ hports, hid⟩
    obtain ⟨hports, hid⟩ := hstart.1.updatePorts hfits htable
    exact h.store hdevices ((hid.trans hstart.2) ▸ hdev) hports hstore

theorem TablesInOrder.deleteDevice
    (hleaves : ∀ device table, project.getDeviceById deviceId = some device →
      project.vlanTables[deviceId]? = some table → LeavesAll vlanConfig device table)
    (hdel : deleteDeviceVlanConfig vlanConfig project deviceId = .ok project') :
    TablesInOrder project' ∧ project'.devices = project.devices := by
  rw [deleteDeviceVlanConfig] at hdel
  cases hdev : project.getDeviceById deviceId with
  | none =>
    rw [hdev] at hdel
    cases hdel
  | some device =>
    simp only [hdev] at hdel
    rw [getVlanConfig] at hdel
    cases hfound : project.vlanTables[deviceId]? with
    | none =>
      simp only [hfound] at hdel
      rw [← Except.ok.inj hdel]
      exact ⟨h, rfl⟩
    | some table =>
      simp only [hfound] at hdel
      obtain ⟨hid, other, hother, hports⟩ := h deviceId table hfound
      rw [hdev] at hother
      cases hother
      obtain ⟨hports', hid'⟩ := hports.deletePorts (hleaves device table hdev hfound)
      exact h.store hdevices ((hid'.trans hid) ▸ hdev) hports' hdel

/-! ### Runs -/

/-- A request about VLANs. -/
inductive VlanRequest where
  | update (vlanConfig : VlanConfig)
  | delete (vlanConfig : VlanConfig)

/-- The request, carried out. -/
def VlanRequest.exec (project : Project) : VlanRequest → Except Status Project
  | .update vlanConfig => updateVlanConfig project vlanConfig
  | .delete vlanConfig => deleteVlanConfig project vlanConfig

/-- The condition on a request: an access port gets a VLAN that a PVID can hold, and
a port leaves a VLAN as `Leaves` says, when its turn comes. -/
def VlanRequest.Keeps (project : Project) : VlanRequest → Prop
  | .update vlanConfig => FitsPvid vlanConfig
  | .delete vlanConfig => ∀ before deviceId after project',
      vlanConfig.devices = before ++ deviceId :: after →
      before.foldlM (deleteDeviceVlanConfig vlanConfig) project = .ok project' →
      ∀ device table, project'.getDeviceById deviceId = some device →
        project'.vlanTables[deviceId]? = some table → LeavesAll vlanConfig device table

/-- Requests carried out with success, each of them as `Allowed` says. -/
inductive VlanRun (Allowed : Project → VlanRequest → Prop) (project : Project) : Project → Prop
  | nil : VlanRun Allowed project project
  | snoc (request : VlanRequest) {project' project'' : Project} :
      VlanRun Allowed project project' → Allowed project' request →
      request.exec project' = .ok project'' → VlanRun Allowed project project''

theorem TablesInOrder.exec {request : VlanRequest} (hkeeps : request.Keeps project)
    (hexec : request.exec project = .ok project') :
    TablesInOrder project' ∧ project'.devices = project.devices := by
  cases request with
  | update vlanConfig =>
    refine foldlM_rule_moment (I := fun (p : Project) => TablesInOrder p ∧
      p.devices = project.devices) hexec ⟨h, rfl⟩ ?_
    intro before deviceId after p p' _ _ ⟨hp, hsame⟩ hstep
    obtain ⟨hp', hsame'⟩ := hp.updateDevice (hsame ▸ hdevices) hkeeps hstep
    exact ⟨hp', hsame'.trans hsame⟩
  | delete vlanConfig =>
    refine foldlM_rule_moment (I := fun (p : Project) => TablesInOrder p ∧
      p.devices = project.devices) hexec ⟨h, rfl⟩ ?_
    intro before deviceId after p p' hsplit hbefore ⟨hp, hsame⟩ hstep
    obtain ⟨hp', hsame'⟩ := hp.deleteDevice (hsame ▸ hdevices)
      (hkeeps before deviceId after p hsplit hbefore) hstep
    exact ⟨hp', hsame'.trans hsame⟩

omit h hdevices

/-- **Every VLAN table is in order after every run**, from default tables on, of
updates and deletions whose access VLANs fit a PVID and whose deletions take no
port out of its last VLAN while a reserved one hides it. -/
theorem vlanTables_inOrder_of_run (hdevices : DevicesWellFormed project.devices)
    (htables : ∀ (deviceId : ℤ) table, project.vlanTables[deviceId]? = some table →
      ∃ device, project.getDeviceById deviceId = some device ∧
        table = defaultVlanTable device deviceId)
    (hrun : VlanRun (fun project request => request.Keeps project) project project') :
    ∀ device ∈ project'.devices, ∀ table, project'.vlanTables[device.id]? = some table →
      VlanTableInOrder device table := by
  have hall : TablesInOrder project' ∧ project'.devices = project.devices := by
    induction hrun with
    | nil =>
      refine ⟨fun deviceId table hfound => ?_, rfl⟩
      obtain ⟨device, hdev, rfl⟩ := htables deviceId table hfound
      exact ⟨rfl, device, hdev, portsInOrder_defaultVlanTable⟩
    | snoc request hrun hkeeps hexec ih =>
      obtain ⟨hp', hsame'⟩ := ih.1.exec (ih.2 ▸ hdevices) hkeeps hexec
      exact ⟨hp', hsame'.trans ih.2⟩
  intro device hdev table hfound
  obtain ⟨-, other, hother, hports⟩ := hall.1 device.id table hfound
  have hdevices' : DevicesWellFormed project'.devices := hall.2 ▸ hdevices
  obtain ⟨hmem, hid⟩ := hdevices'.id_of_find hother
  have hsame : other = device := hdevices'.eq_of_id hmem hdev hid
  exact hsame ▸ hports.inOrder

end

/-- A switch with two ports, in access and trunk mode. -/
def accessSwitch : Project where
  devices :=
    [{ id := 1, ipAddress := "10.0.0.1", deviceType := .switch
       deviceProperty := { vlanSetting := { accessTrunkMode := true, defaultPvid := true } }
       interfaces := [{ deviceId := 1, interfaceId := 1 }, { deviceId := 1, interfaceId := 2 }] }]

/-- The project after a request. -/
def VlanRequest.after (project : Project) (request : VlanRequest) : Project :=
  (request.exec project).toOption.getD project

theorem VlanRequest.exec_after {project : Project} {request : VlanRequest}
    (h : (request.exec project).toOption.isSome = true) :
    request.exec project = .ok (request.after project) := by
  rw [VlanRequest.after]
  cases hexec : request.exec project with
  | error status =>
    rw [hexec] at h
    cases h
  | ok project' => rfl

/-- The first port of the switch in VLAN 5. -/
def joinedSwitch : Project :=
  VlanRequest.after accessSwitch (.update { vlanId := 5, devices := [1], ports := [1] })

/-- The first port of the switch out of VLAN 5 again. -/
def freedSwitch : Project :=
  VlanRequest.after joinedSwitch (.delete { vlanId := 5, devices := [1], ports := [1] })

theorem vlanTables_inOrder_of_run_accessSwitch :
    (∃ table, freedSwitch.vlanTables[(1 : ℤ)]? = some table) ∧
    ∀ device ∈ freedSwitch.devices, ∀ table, freedSwitch.vlanTables[device.id]? = some table →
      VlanTableInOrder device table := by
  have htable : freedSwitch.vlanTables[(1 : ℤ)]?.isSome = true := by decide +kernel
  refine ⟨isSome_iff_exists.1 htable, ?_⟩
  have hdevices : DevicesWellFormed accessSwitch.devices :=
    ⟨by simp [accessSwitch, QSet.Distinct], by decide⟩
  have hjoined : VlanRun (fun project request => request.Keeps project) accessSwitch
      joinedSwitch :=
    .snoc (.update { vlanId := 5, devices := [1], ports := [1] }) .nil
      (fun _ _ => by decide) (VlanRequest.exec_after (by decide +kernel))
  refine vlanTables_inOrder_of_run hdevices
    (fun deviceId table hfound => by simp [accessSwitch] at hfound)
    (.snoc (.delete { vlanId := 5, devices := [1], ports := [1] }) hjoined ?_
      (VlanRequest.exec_after (by decide +kernel)))
  intro before deviceId after project' hsplit hbefore device table hdev hfound passed port rest
    hports _
  obtain ⟨rfl, rfl⟩ : before = [] ∧ deviceId = 1 := by
    cases before with
    | nil => simpa using (List.cons.inj hsplit).1.symm
    | cons x before => simp at hsplit
  obtain ⟨rfl, rfl⟩ : passed = [] ∧ port = 1 := by
    cases passed with
    | nil => simpa using (List.cons.inj hports).1.symm
    | cons x passed => simp at hports
  cases hbefore
  have hpvid : (joinedSwitch.vlanTables[(1 : ℤ)]?.all fun table =>
      table.portVlanEntries.contains 1) = true := by decide +kernel
  rw [hfound] at hpvid
  exact .inl hpvid

/-- A switch with two ports, in hybrid mode, that has VLAN 2 reserved. -/
def hybridSwitch : Project where
  devices :=
    [{ id := 1, ipAddress := "10.0.0.1", deviceType := .switch
       deviceProperty := { vlanSetting := { hybridMode := true }, reservedVlan := {2} }
       interfaces := [{ deviceId := 1, interfaceId := 1 }, { deviceId := 1, interfaceId := 2 }] }]

/-- The second port of the switch in VLAN 2, the first one taken out of VLAN 1. -/
def leftSwitch : Project :=
  VlanRequest.after
    (VlanRequest.after hybridSwitch
      (.update { vlanId := 2, portType := .hybrid, devices := [1], ports := [2] }))
    (.delete { vlanId := 1, devices := [1], ports := [1] })

/-- **A port can be left in no VLAN**: the reserved VLAN counts as its own. -/
theorem not_vlanTables_inOrder_of_run :
    DevicesWellFormed hybridSwitch.devices ∧ hybridSwitch.vlanTables = ∅ ∧
    VlanRun (fun _ _ => True) hybridSwitch leftSwitch ∧
    ¬∀ device ∈ leftSwitch.devices, ∀ table, leftSwitch.vlanTables[device.id]? = some table →
      VlanTableInOrder device table := by
  have hdevices : DevicesWellFormed hybridSwitch.devices :=
    ⟨by simp [hybridSwitch, QSet.Distinct], by decide⟩
  refine ⟨hdevices, rfl, ?_, fun horder => ?_⟩
  · exact .snoc _ (.snoc (.update { vlanId := 2, portType := .hybrid, devices := [1], ports := [2] })
      .nil trivial (VlanRequest.exec_after (by decide +kernel))) trivial
      (VlanRequest.exec_after (by decide +kernel))
  · have hdev : (leftSwitch.devices.any fun device =>
        device.id == 1 && decide (1 ∈ devicePorts device)) = true := by decide +kernel
    have hstored : leftSwitch.vlanTables[(1 : ℤ)]?.isSome = true := by decide +kernel
    have hnone : (leftSwitch.vlanTables[(1 : ℤ)]?.all fun table =>
        table.vlanStaticEntries.toList.all fun entry => decide (1 ∉ entry.2.egressPorts)) =
          true := by
      decide +kernel
    obtain ⟨device, hmem, hcheck⟩ := List.any_eq_true.1 hdev
    obtain ⟨table, hfound⟩ := isSome_iff_exists.1 hstored
    rw [Bool.and_eq_true, beq_iff_eq, decide_eq_true_eq] at hcheck
    obtain ⟨w, entry, hw, hport⟩ := (horder device hmem table (hcheck.1 ▸ hfound)).member 1 hcheck.2
    rw [hfound, all_some, List.all_eq_true] at hnone
    have hentry := hnone (w, entry) (mem_toList_iff_getElem?_eq_some.2 hw)
    exact absurd hport (by simpa using hentry)

end Core
end Sebastian

/-
# The configuration tables of a device

`UpdateDeviceConfigTable` (`core/src/act_core_device.cpp`), which `CreateDevice` and `UpdateDevice`
end with: it brings the tables of the project in line with the ports of the device, out of the
entries it has, the default configuration of its profile and built-in values.

Most tables with an entry for each port are rebuilt in the same way, and follow the ports whatever
the default configuration is (`updatePortTable_follows`).  Three places do not.  The gate control
lists ask whether there is a default table of the egress priorities before they take the first of
their own ones; the accounts take the first account of the default table with the key 0; and what
comes from a default VLAN table, the whole table or single VLANs, is taken over without a look at
the ports.  `followsDevice_iff` has the defaults for which nothing goes wrong.

The rebuilt VLAN table of a device that did not change is the old one with the VLANs of the default
table that the user had removed (`keepsVlanTable_iff`).

The tables that are only removed, when the device does not support them, are left out, and so is
the network setting, which is a copy of the address.
-/

import Sebastian.Core.DeviceInterfaces

namespace Sebastian
namespace Core

open ExceptRule Std.TreeMap Finset List Option QMap

/-! ### Tables with an entry for each port -/

/-- The default configuration in the profile of the device, or that of a new profile. -/
def defaultDeviceConfig (deviceProfiles : QSet DeviceProfile) (device : Device) : DeviceConfig :=
  ((deviceProfiles.find { id := device.deviceProfileId }).getD {}).defaultDeviceConfig

/-- "Insert default config from the device profile when table as empty": the table of the device,
or else the first of the default ones, or a new one. -/
def startTable {τ : Type} [Inhabited τ] (defaults tables : QMap ℤ τ) (deviceId : ℤ) : τ :=
  tables.getD deviceId (defaults.vals.headD default)

/-- The loop over the ports that gives each of them an entry. -/
def portEntries {ε : Type} (device : Device) (entry : ℤ → ε) : QMap ℤ ε :=
  device.interfaces.foldl
    (fun entries intf => entries.insert intf.interfaceId (entry intf.interfaceId)) ∅

/-- One of the tables with an entry for each port: a port keeps the entry it has, and gets the
given one when it has none. -/
def updatePortTable {ε : Type} (device : Device) (supported : Bool) (entry : ℤ → ε)
    (defaults tables : QMap ℤ (PortTable ε)) : QMap ℤ (PortTable ε) :=
  if supported then
    let own := (startTable defaults tables device.id).entries
    tables.insert device.id
      { deviceId := device.id
        entries := portEntries device fun port => own.getD port (entry port) }
  else tables.erase device.id

/-- "PortSetting" -/
def updatePortSettingTables (device : Device) (defaults config : DeviceConfig) :
    QMap ℤ (PortTable PortSettingEntry) :=
  updatePortTable device device.deviceProperty.adminStatus (fun _ => {})
    defaults.portSettingTables config.portSettingTables

/-- "Port Default PCP" -/
def updatePortDefaultPcpTables (device : Device) (defaults config : DeviceConfig) :
    QMap ℤ (PortTable DefaultPriorityEntry) :=
  updatePortTable device device.deviceProperty.vlanSetting.defaultPcp (fun _ => {})
    defaults.portDefaultPcpTables config.portDefaultPcpTables

/-- "RSTP" -/
def updateRstpPortTables (device : Device) (defaults config : DeviceConfig) :
    QMap ℤ (PortTable RstpPortEntry) :=
  updatePortTable device device.deviceProperty.stpRstp.rstp (fun _ => {})
    defaults.rstpTables config.rstpTables

/-- The entry of a port in the first default table, or else the built-in one. -/
def defaultEntry {ε : Type} (defaults : QMap ℤ (PortTable ε)) (init : ε) (port : ℤ) : ε :=
  (defaults.vals.headD default).entries.getD port init

/-- The device has one of the two kinds of per-stream priority. -/
def supportsStreamPriority (device : Device) : Bool :=
  device.deviceProperty.vlanSetting.perStreamPriority ||
    device.deviceProperty.vlanSetting.perStreamPriorityV2

/-- "StreamPriority", "Ingress" -/
def updateStreamPriorityIngressTables (device : Device) (defaults config : DeviceConfig) :
    QMap ℤ (PortTable InterfaceStadPortEntry) :=
  updatePortTable device (supportsStreamPriority device)
    (defaultEntry defaults.streamPriorityIngressTables {})
    defaults.streamPriorityIngressTables config.streamPriorityIngressTables

/-- "StreamPriority", "Egress" -/
def updateStreamPriorityEgressTables (device : Device) (defaults config : DeviceConfig) :
    QMap ℤ (PortTable StadConfigEntry) :=
  updatePortTable device (supportsStreamPriority device)
    (defaultEntry defaults.streamPriorityEgressTables {})
    defaults.streamPriorityEgressTables config.streamPriorityEgressTables

/-- "GCL", the entry of a port.  The default tables that are looked at are those of the egress
priorities, and the first of no tables cannot be read. -/
def gateParameters (defaults : DeviceConfig) (own : QMap ℤ InterfaceGateParameters) (port : ℤ) :
    Option InterfaceGateParameters :=
  match own[port]? with
  | some parameters => some parameters
  | none =>
    if defaults.streamPriorityEgressTables.isEmpty then some {}
    else defaults.gclTables.vals.head?.map fun table => table.entries.getD port {}

/-- "GCL" -/
def updateGclTables (device : Device) (defaults config : DeviceConfig) :
    Option (QMap ℤ (PortTable InterfaceGateParameters)) :=
  if device.deviceProperty.ieee802Dot1Qbv then
    let own := (startTable defaults.gclTables config.gclTables device.id).entries
    (device.interfaces.foldlM (fun entries intf =>
      (gateParameters defaults own intf.interfaceId).map (entries.insert intf.interfaceId)) ∅).map
        fun entries =>
          config.gclTables.insert device.id { deviceId := device.id, entries := entries }
  else some (config.gclTables.erase device.id)

/-- The ports under one of the profiles of "TimeSync"; those of a profile that the device does not
have are cleared. -/
def profileEntries {ε : Type} (device : Device) (supported : Bool) (own : QMap ℤ ε) (init : ε) :
    QMap ℤ ε :=
  if supported then portEntries device fun port => own.getD port init else ∅

/-- "TimeSync" -/
def updateTimeSyncTables (device : Device) (defaults config : DeviceConfig) :
    QMap ℤ TimeSyncTable :=
  let setting := device.deviceProperty.timeSyncSetting
  if setting.checkSupportAnyOne then
    let table := startTable defaults.timeSyncTables config.timeSyncTables device.id
    config.timeSyncTables.insert device.id
      { deviceId := device.id
        ieee802Dot1AS := profileEntries device setting.ieee802Dot1AS table.ieee802Dot1AS {}
        ieee1588 := profileEntries device setting.ieee1588 table.ieee1588 {}
        iec61850 := profileEntries device setting.iec61850 table.iec61850 {}
        ieeeC37Dot238 := profileEntries device setting.ieeeC37Dot238 table.ieeeC37Dot238 {} }
  else config.timeSyncTables.erase device.id

/-! ### The other tables -/

/-- "UserAccount".  A device without accounts gets those of the default table with the key 0, and
the first of them cannot be read when there is none. -/
def updateUserAccountTables (device : Device) (defaults config : DeviceConfig) :
    Option (QMap ℤ UserAccountTable) :=
  if !device.deviceProperty.userAccount then some (config.userAccountTables.erase device.id)
  else if config.userAccountTables.contains device.id then some config.userAccountTables
  else
    let userAccount : UserAccount := {}
    let table : UserAccountTable :=
      if defaults.userAccountTables.isEmpty then
        { accounts := (∅ : QMap String UserAccount).insert userAccount.username userAccount }
      else defaults.userAccountTables.value 0
    table.accounts.keys.head?.map fun account =>
      config.userAccountTables.insert device.id { table with syncConnectionAccount := account }

/-- "VLAN", the table of a device that has none, where the profile has no default one either. -/
def initVlanTable (device : Device) : VlanTable :=
  { deviceId := device.id
    vlanStaticEntries := (∅ : QMap ℤ VlanStaticEntry).insert vlanInitPvid
      { VlanStaticEntry.ofId vlanInitPvid with
        egressPorts := devicePorts device
        untaggedPorts := devicePorts device }
    portVlanEntries := portEntries device fun _ => { pvid := toPvid vlanInitPvid }
    vlanPortTypeEntries := portEntries device fun _ => { vlanPortType := .access } }

/-- "VLAN", one static entry of the device.  A port without a PVID is new on the device: it is in
the VLAN the way the default table says, and in a VLAN that the default table does not have it is
an egress port, untagged if that is the management VLAN. -/
def rebuildStaticEntry (device : Device) (default? : Option VlanTable) (table : VlanTable)
    (vlanId : ℤ) (entry : VlanStaticEntry) : VlanStaticEntry :=
  let default := default?.bind (·.vlanStaticEntries[vlanId]?)
  { entry with
    egressPorts := (devicePorts device).filter fun port =>
      if table.portVlanEntries.contains port then port ∈ entry.egressPorts
      else default.all fun default => port ∈ default.egressPorts
    untaggedPorts := (devicePorts device).filter fun port =>
      if table.portVlanEntries.contains port then port ∈ entry.untaggedPorts
      else (default.map fun default => decide (port ∈ default.untaggedPorts)).getD
        (decide (vlanId = table.managementVlan)) }

/-- "VLAN", the table of a device that has one. -/
def rebuildVlanTable (device : Device) (default? : Option VlanTable) (table : VlanTable) :
    VlanTable :=
  let rebuilt := table.vlanStaticEntries.map (rebuildStaticEntry device default? table)
  { table with
    -- "insert the default vlan static entry that doesn't exist on the origin config"
    vlanStaticEntries := (default?.map (·.vlanStaticEntries.toList)).getD [] |>.foldl
      (fun entries added => entries.insertIfNew added.1 added.2) rebuilt
    portVlanEntries := portEntries device fun port =>
      (table.portVlanEntries[port]?.or (default?.bind (·.portVlanEntries[port]?))).getD
        { pvid := toPvid table.managementVlan }
    vlanPortTypeEntries := portEntries device fun port =>
      (table.vlanPortTypeEntries[port]?.or (default?.bind (·.vlanPortTypeEntries[port]?))).getD
        { vlanPortType := .access } }

/-- "Keep the Reserved VLANs" -/
def keepReservedVlans (reservedVlan : Finset ℤ) (table : VlanTable) : VlanTable :=
  { table with
    vlanStaticEntries := (reservedVlan.sort (· ≤ ·)).foldl
      (fun entries vlanId => entries.insertIfNew vlanId (.ofId vlanId)) table.vlanStaticEntries }

/-- "VLAN (VlanStatic & PortType & PVID)" -/
def updateVlanTables (device : Device) (defaults tables : QMap ℤ VlanTable) : QMap ℤ VlanTable :=
  if device.deviceProperty.vlanSetting.checkSupportAnyOne then
    let table :=
      match tables[device.id]?, defaults.vals.head? with
      | none, none => initVlanTable device
      | none, some default => { default with deviceId := device.id }
      | some table, default? => rebuildVlanTable device default? table
    tables.insert device.id (keepReservedVlans device.deviceProperty.reservedVlan table)
  else tables.erase device.id

/-- The static forward entries that stay: those in a VLAN of the device, on its ports. -/
def keepForwardEntries (device : Device) (vlanTable? : Option VlanTable)
    (entries : QSet StaticForwardEntry) : QSet StaticForwardEntry :=
  entries.foldl (fun kept entry =>
    if vlanTable?.any (·.vlanStaticEntries.contains entry.vlanId) then
      kept.insert { entry with egressPorts := entry.egressPorts ∩ devicePorts device }
    else kept) []

/-- "StaticForward(Unicast & Multiple)", one of the two. -/
def updateStaticForwardTables (device : Device) (supported : Bool) (vlanTable? : Option VlanTable)
    (defaults tables : QMap ℤ StaticForwardTable) : QMap ℤ StaticForwardTable :=
  if supported then
    let table := startTable defaults tables device.id
    tables.insert device.id
      { deviceId := device.id
        staticForwardEntries := keepForwardEntries device vlanTable? table.staticForwardEntries }
  else tables.erase device.id

/-- `UpdateDeviceConfigTable`.  There is no result where the first element of an empty table is
read. -/
def updateDeviceConfigTable (deviceProfiles : QSet DeviceProfile) (device : Device)
    (config : DeviceConfig) : Option DeviceConfig := do
  let defaults := defaultDeviceConfig deviceProfiles device
  let userAccountTables ← updateUserAccountTables device defaults config
  let vlanTables := updateVlanTables device defaults.vlanTables config.vlanTables
  let setting := device.deviceProperty.staticForwardSetting
  let gclTables ← updateGclTables device defaults config
  return {
    userAccountTables := userAccountTables
    timeSyncTables := updateTimeSyncTables device defaults config
    portSettingTables := updatePortSettingTables device defaults config
    vlanTables := vlanTables
    unicastStaticForwardTables := updateStaticForwardTables device setting.unicast
      vlanTables[device.id]? defaults.unicastStaticForwardTables config.unicastStaticForwardTables
    multicastStaticForwardTables := updateStaticForwardTables device setting.multicast
      vlanTables[device.id]? defaults.multicastStaticForwardTables
      config.multicastStaticForwardTables
    portDefaultPcpTables := updatePortDefaultPcpTables device defaults config
    streamPriorityIngressTables := updateStreamPriorityIngressTables device defaults config
    streamPriorityEgressTables := updateStreamPriorityEgressTables device defaults config
    gclTables := gclTables
    rstpTables := updateRstpPortTables device defaults config }

/-! ### What it is for -/

/-- **A table follows the ports**: it has an entry for each of them and for nothing else, and a
port keeps the entry it had. -/
structure FollowsPorts {ε : Type} (device : Device) (before after : Option (QMap ℤ ε)) : Prop where
  exact : ∀ entries ∈ after, ∀ port : ℤ,
    entries.contains port = true ↔ port ∈ devicePorts device
  kept : ∀ old ∈ before, ∀ entries ∈ after, ∀ port ∈ devicePorts device, ∀ entry : ε,
    old[port]? = some entry → entries[port]? = some entry

/-- The entries that a store of tables has for a device. -/
def entriesOf {ε : Type} (tables : QMap ℤ (PortTable ε)) (deviceId : ℤ) : Option (QMap ℤ ε) :=
  tables[deviceId]?.map (·.entries)

/-- The members of the static entries are ports of the device. -/
def StaticOnPorts (ports : Finset ℤ) (entries : QMap ℤ VlanStaticEntry) : Prop :=
  ∀ (vlanId : ℤ) (entry : VlanStaticEntry), entries[vlanId]? = some entry →
    entry.egressPorts ⊆ ports ∧ entry.untaggedPorts ⊆ ports

/-- The egress ports of the static forward entries are ports of the device. -/
def ForwardOnPorts (ports : Finset ℤ) (table? : Option StaticForwardTable) : Prop :=
  ∀ table ∈ table?, ∀ entry ∈ table.staticForwardEntries, entry.egressPorts ⊆ ports

/-- **The tables of a device follow its ports.** -/
structure FollowsDevice (device : Device) (config config' : DeviceConfig) : Prop where
  ieee802Dot1AS : device.deviceProperty.timeSyncSetting.ieee802Dot1AS = true →
    FollowsPorts device (config.timeSyncTables[device.id]?.map (·.ieee802Dot1AS))
      (config'.timeSyncTables[device.id]?.map (·.ieee802Dot1AS))
  ieee1588 : device.deviceProperty.timeSyncSetting.ieee1588 = true →
    FollowsPorts device (config.timeSyncTables[device.id]?.map (·.ieee1588))
      (config'.timeSyncTables[device.id]?.map (·.ieee1588))
  iec61850 : device.deviceProperty.timeSyncSetting.iec61850 = true →
    FollowsPorts device (config.timeSyncTables[device.id]?.map (·.iec61850))
      (config'.timeSyncTables[device.id]?.map (·.iec61850))
  ieeeC37Dot238 : device.deviceProperty.timeSyncSetting.ieeeC37Dot238 = true →
    FollowsPorts device (config.timeSyncTables[device.id]?.map (·.ieeeC37Dot238))
      (config'.timeSyncTables[device.id]?.map (·.ieeeC37Dot238))
  portSetting : FollowsPorts device (entriesOf config.portSettingTables device.id)
    (entriesOf config'.portSettingTables device.id)
  pvid : FollowsPorts device (config.vlanTables[device.id]?.map (·.portVlanEntries))
    (config'.vlanTables[device.id]?.map (·.portVlanEntries))
  portType : FollowsPorts device (config.vlanTables[device.id]?.map (·.vlanPortTypeEntries))
    (config'.vlanTables[device.id]?.map (·.vlanPortTypeEntries))
  vlanStatic : ∀ table ∈ config'.vlanTables[device.id]?,
    StaticOnPorts (devicePorts device) table.vlanStaticEntries
  unicast : ForwardOnPorts (devicePorts device) config'.unicastStaticForwardTables[device.id]?
  multicast : ForwardOnPorts (devicePorts device) config'.multicastStaticForwardTables[device.id]?
  portDefaultPcp : FollowsPorts device (entriesOf config.portDefaultPcpTables device.id)
    (entriesOf config'.portDefaultPcpTables device.id)
  streamPriorityIngress : FollowsPorts device
    (entriesOf config.streamPriorityIngressTables device.id)
    (entriesOf config'.streamPriorityIngressTables device.id)
  streamPriorityEgress : FollowsPorts device
    (entriesOf config.streamPriorityEgressTables device.id)
    (entriesOf config'.streamPriorityEgressTables device.id)
  gcl : FollowsPorts device (entriesOf config.gclTables device.id)
    (entriesOf config'.gclTables device.id)
  rstp : FollowsPorts device (entriesOf config.rstpTables device.id)
    (entriesOf config'.rstpTables device.id)

variable {ε : Type} {device : Device} {defaults config config' : DeviceConfig}

/-! ### Tables with an entry for each port -/

/-- **The loop over the ports gives each of them its entry**, and nothing else gets one. -/
theorem getElem?_portEntries (entry : ℤ → ε) (port : ℤ) : (portEntries device entry)[port]? =
      if port ∈ devicePorts device then some (entry port) else none := by
  have h := getElem?_foldl_insert (l := device.interfaces.map fun intf =>
    (intf.interfaceId, entry intf.interfaceId)) (f := entry)
    (fun p hp => by obtain ⟨intf, -, rfl⟩ := mem_map.1 hp; rfl) ∅ port
  rw [foldl_map, List.map_map] at h
  rw [Std.TreeMap.getElem?_emptyc] at h
  simpa [devicePorts, portEntries] using h

/-- Entries that are given to the ports one by one follow them. -/
theorem followsPorts_of_getElem? {before : Option (QMap ℤ ε)} {entries : QMap ℤ ε} {entry : ℤ → ε}
    (hports : ∀ port : ℤ, entries[port]? =
      if port ∈ devicePorts device then some (entry port) else none)
    (hkept : ∀ old ∈ before, ∀ (port : ℤ) (e : ε), old[port]? = some e → entry port = e) :
    FollowsPorts device before (some entries) where
  exact := by
    rintro _ ⟨⟩ port
    rw [contains_eq_isSome_getElem?, hports]
    split_ifs with hport <;> simp [hport]
  kept := by
    rintro old hold _ ⟨⟩ port hport e he
    rw [hports, if_pos hport, hkept old hold port e he]

theorem followsPorts_none (before : Option (QMap ℤ ε)) : FollowsPorts device before none :=
  ⟨nofun, nofun⟩

theorem startTable_of_mem {τ : Type} [Inhabited τ] {tables defaults : QMap ℤ τ} {deviceId : ℤ}
    {table : τ} (h : tables[deviceId]? = some table) :
    startTable defaults tables deviceId = table := by
  rw [startTable, getD_eq_getD_getElem?, h, getD_some]

/-- **A table that is rebuilt port by port follows the ports**, whatever the default ones are. -/
theorem updatePortTable_follows (supported : Bool) (entry : ℤ → ε)
    (defaults tables : QMap ℤ (PortTable ε)) : FollowsPorts device (entriesOf tables device.id)
      (entriesOf (updatePortTable device supported entry defaults tables) device.id) := by
  unfold updatePortTable
  cases supported with
  | false => simpa [entriesOf] using followsPorts_none _
  | true =>
    simp only [if_true, entriesOf, Std.TreeMap.getElem?_insert_self, map_some]
    refine followsPorts_of_getElem? (fun port => getElem?_portEntries _ port)
      fun old hold port e he => ?_
    obtain ⟨table, htable, rfl⟩ := map_eq_some_iff.1 hold
    rw [startTable_of_mem htable, getD_eq_getD_getElem?, he, getD_some]

/-- **The ports under a profile of the time synchronization** follow the ports. -/
theorem profileEntries_follows {before : Option (QMap ℤ ε)} {own : QMap ℤ ε} (init : ε)
    (hown : ∀ old ∈ before, own = old) :
    FollowsPorts device before (some (profileEntries device true own init)) := by
  rw [profileEntries, if_pos rfl]
  refine followsPorts_of_getElem? (fun port => getElem?_portEntries _ port)
    fun old hold port e he => ?_
  rw [hown old hold, getD_eq_getD_getElem?, he, getD_some]

/-! ### The gate control lists -/

/-- "GCL", where no first element of an empty table is read: if there are default egress priorities
but no default gate control lists, each port has a gate control list. -/
def GclReadable (device : Device) (defaults config : DeviceConfig) : Prop :=
  device.deviceProperty.ieee802Dot1Qbv = true →
    defaults.streamPriorityEgressTables.isEmpty = false → defaults.gclTables.isEmpty = true →
      ∀ port ∈ devicePorts device, ∃ table, config.gclTables[device.id]? = some table ∧
        table.entries.contains port = true

theorem gateParameters_eq_none_iff {own : QMap ℤ InterfaceGateParameters} {port : ℤ} :
    gateParameters defaults own port = none ↔ own.contains port = false ∧
      defaults.streamPriorityEgressTables.isEmpty = false ∧ defaults.gclTables.isEmpty = true := by
  unfold gateParameters
  cases hown : own[port]? with
  | some parameters => simp [contains_eq_isSome_getElem?, hown]
  | none =>
    have hempty : defaults.gclTables.vals.head? = none ↔ defaults.gclTables.isEmpty = true := by
      rw [head?_eq_none_iff, vals_eq_nil_iff]
    cases hegress : defaults.streamPriorityEgressTables.isEmpty with
    | true => simp
    | false => simp [contains_eq_isSome_getElem?, hown, hempty]

/-- A loop over the ports in which every round has an entry. -/
theorem foldlM_insert_of_forall {f : ℤ → Option ε} {g : ℤ → ε} {interfaces : List Interface}
    (h : ∀ intf ∈ interfaces, f intf.interfaceId = some (g intf.interfaceId)) (entries : QMap ℤ ε) :
    interfaces.foldlM (fun entries intf =>
        (f intf.interfaceId).map (entries.insert intf.interfaceId)) entries =
      some (interfaces.foldl
        (fun entries intf => entries.insert intf.interfaceId (g intf.interfaceId)) entries) := by
  induction interfaces generalizing entries with
  | nil => rfl
  | cons intf interfaces ih =>
    rw [foldlM_cons, h intf mem_cons_self, map_some]
    exact ih (fun intf hintf => h intf (mem_cons_of_mem _ hintf)) _

/-- **The gate control lists are brought in line exactly when they can be read.** -/
theorem exists_updateGclTables_iff :
    (∃ tables, updateGclTables device defaults config = some tables) ↔
      GclReadable device defaults config := by
  unfold updateGclTables GclReadable
  cases hqbv : device.deviceProperty.ieee802Dot1Qbv with
  | false => simp
  | true =>
    set own := (startTable defaults.gclTables config.gclTables device.id).entries with hown
    simp only [if_true, forall_const]
    have hstart : ∀ port : ℤ, defaults.gclTables.isEmpty = true → (own.contains port = true ↔
        ∃ table, config.gclTables[device.id]? = some table ∧
          table.entries.contains port = true) := by
      intro port hempty
      cases htable : config.gclTables[device.id]? with
      | some table => simp [hown, startTable_of_mem htable]
      | none =>
        have hnew : own = ∅ := by
          rw [hown, startTable, getD_eq_getD_getElem?, htable,
            vals_eq_nil_iff.2 hempty]
          rfl
        simp [hnew]
    constructor
    · rintro ⟨tables, htables⟩ hegress hempty port hport
      obtain ⟨entries, hloop, -⟩ := map_eq_some_iff.1 htables
      obtain ⟨intf, hintf, rfl⟩ := mem_devicePorts.1 hport
      obtain ⟨c, c', hround⟩ := OptionRule.exists_of_mem_foldlM hloop hintf
      rw [← hstart _ hempty]
      by_contra hnone
      rw [Bool.not_eq_true] at hnone
      rw [gateParameters_eq_none_iff.2 ⟨hnone, hegress, hempty⟩] at hround
      cases hround
    · intro hread
      have hall : ∀ intf ∈ device.interfaces, gateParameters defaults own intf.interfaceId =
          some ((gateParameters defaults own intf.interfaceId).getD {}) := by
        intro intf hintf
        cases hgate : gateParameters defaults own intf.interfaceId with
        | some parameters => rfl
        | none =>
          obtain ⟨hnone, hegress, hempty⟩ := gateParameters_eq_none_iff.1 hgate
          have := (hstart _ hempty).2
            (hread hegress hempty _ (mem_devicePorts.2 ⟨intf, hintf, rfl⟩))
          rw [hnone] at this
          cases this
      rw [foldlM_insert_of_forall
        (g := fun port => (gateParameters defaults own port).getD {}) hall]
      exact ⟨_, rfl⟩

/-- **Gate control lists that are brought in line follow the ports.** -/
theorem updateGclTables_follows {tables : QMap ℤ (PortTable InterfaceGateParameters)}
    (h : updateGclTables device defaults config = some tables) :
    FollowsPorts device (entriesOf config.gclTables device.id) (entriesOf tables device.id) := by
  unfold updateGclTables at h
  cases hqbv : device.deviceProperty.ieee802Dot1Qbv with
  | false =>
    rw [hqbv] at h
    cases h
    simpa [entriesOf] using followsPorts_none _
  | true =>
    rw [hqbv, if_pos rfl] at h
    obtain ⟨entries, hloop, rfl⟩ := map_eq_some_iff.1 h
    set own := (startTable defaults.gclTables config.gclTables device.id).entries with hown
    have hall : ∀ intf ∈ device.interfaces, gateParameters defaults own intf.interfaceId =
        some ((gateParameters defaults own intf.interfaceId).getD {}) := by
      intro intf hintf
      obtain ⟨c, c', hround⟩ := OptionRule.exists_of_mem_foldlM hloop hintf
      obtain ⟨parameters, hgate, -⟩ := map_eq_some_iff.1 hround
      rw [hgate, getD_some]
    rw [foldlM_insert_of_forall (g := fun port => (gateParameters defaults own port).getD {}) hall]
      at hloop
    cases hloop
    simp only [entriesOf, Std.TreeMap.getElem?_insert_self, map_some]
    refine followsPorts_of_getElem?
      (fun port => getElem?_portEntries
        (fun port => (gateParameters defaults own port).getD {}) port)
      fun old hold port e he => ?_
    obtain ⟨table, htable, rfl⟩ := map_eq_some_iff.1 hold
    rw [gateParameters, hown, startTable_of_mem htable, he, getD_some]

/-! ### The VLAN table -/

/-- The table is on the ports: a PVID and a port type for each of them and for nothing else, and
static entries with these ports alone. -/
structure VlansOnPorts (ports : Finset ℤ) (table : VlanTable) : Prop where
  pvid : ∀ port : ℤ, table.portVlanEntries.contains port = true ↔ port ∈ ports
  portType : ∀ port : ℤ, table.vlanPortTypeEntries.contains port = true ↔ port ∈ ports
  static : StaticOnPorts ports table.vlanStaticEntries

variable {table default : VlanTable} {default? : Option VlanTable} {vlanId port : ℤ}

/-- **The static entries of a rebuilt table**: the old ones on the ports of the device, and those
that only the default table has. -/
theorem getElem?_static_rebuildVlanTable :
    (rebuildVlanTable device default? table).vlanStaticEntries[vlanId]? =
      (table.vlanStaticEntries[vlanId]?.map (rebuildStaticEntry device default? table vlanId)).or
        (default?.bind (·.vlanStaticEntries[vlanId]?)) := by
  unfold rebuildVlanTable
  cases default? with
  | none => simp
  | some default =>
    simp only [map_some, getD_some, bind_some]
    rw [getElem?_foldl_toList_insertIfNew, Std.TreeMap.getElem?_map]

/-- **A reserved VLAN that is missing is added without ports.** -/
theorem getElem?_static_keepReservedVlans (reservedVlan : Finset ℤ) :
    (keepReservedVlans reservedVlan table).vlanStaticEntries[vlanId]? =
      table.vlanStaticEntries[vlanId]?.or
        (if vlanId ∈ reservedVlan then some (.ofId vlanId) else none) := by
  rw [keepReservedVlans, QMap.getElem?_foldl_insertIfNew]
  simp only [mem_sort]

theorem staticOnPorts_keepReservedVlans_iff {ports reservedVlan : Finset ℤ} :
    StaticOnPorts ports (keepReservedVlans reservedVlan table).vlanStaticEntries ↔
      StaticOnPorts ports table.vlanStaticEntries := by
  constructor
  · intro h vlanId entry hentry
    exact h vlanId entry (by rw [getElem?_static_keepReservedVlans, hentry, some_or])
  · intro h vlanId entry hentry
    rw [getElem?_static_keepReservedVlans, or_eq_some_iff] at hentry
    rcases hentry with hentry | ⟨-, hentry⟩
    · exact h vlanId entry hentry
    · split_ifs at hentry
      cases hentry
      exact ⟨empty_subset _, empty_subset _⟩

theorem rebuildStaticEntry_subset {entry : VlanStaticEntry} :
    (rebuildStaticEntry device default? table vlanId entry).egressPorts ⊆ devicePorts device ∧
      (rebuildStaticEntry device default? table vlanId entry).untaggedPorts ⊆ devicePorts device :=
  ⟨filter_subset _ _, filter_subset _ _⟩

/-- What only the default table has is on the ports. -/
def MissingVlansOnPorts (ports : Finset ℤ) (default table : VlanTable) : Prop :=
  ∀ (vlanId : ℤ) (entry : VlanStaticEntry), default.vlanStaticEntries[vlanId]? = some entry →
    table.vlanStaticEntries.contains vlanId = false →
      entry.egressPorts ⊆ ports ∧ entry.untaggedPorts ⊆ ports

/-- **The rebuilt static entries are on the ports exactly when those are that only the default
table has.** -/
theorem staticOnPorts_rebuildVlanTable_iff :
    StaticOnPorts (devicePorts device) (rebuildVlanTable device default? table).vlanStaticEntries ↔
      ∀ default ∈ default?, MissingVlansOnPorts (devicePorts device) default table := by
  constructor
  · rintro h default hdefault vlanId entry hentry hmiss
    refine h vlanId entry ?_
    rw [contains_eq_isSome_getElem?, isSome_eq_false_iff,
      isNone_iff_eq_none] at hmiss
    rw [getElem?_static_rebuildVlanTable, hmiss, map_none, none_or,
      mem_def.1 hdefault]
    exact hentry
  · intro h vlanId entry hentry
    rw [getElem?_static_rebuildVlanTable, or_eq_some_iff] at hentry
    rcases hentry with hentry | ⟨hnone, hentry⟩
    · obtain ⟨old, -, rfl⟩ := map_eq_some_iff.1 hentry
      exact rebuildStaticEntry_subset
    · obtain ⟨default, hdefault, hentry⟩ := bind_eq_some_iff.1 hentry
      refine h default hdefault vlanId entry hentry ?_
      rw [contains_eq_isSome_getElem?, map_eq_none_iff.1 hnone]
      rfl

theorem followsPorts_none_some_iff {entries : QMap ℤ ε} : FollowsPorts device none (some entries) ↔
      ∀ port : ℤ, entries.contains port = true ↔ port ∈ devicePorts device :=
  ⟨fun h => h.exact entries rfl, fun h => ⟨by rintro _ ⟨⟩; exact h, nofun⟩⟩

/-- The three parts of a VLAN table, after the update. -/
structure VlansFollow (device : Device) (before after : Option VlanTable) : Prop where
  pvid : FollowsPorts device (before.map (·.portVlanEntries)) (after.map (·.portVlanEntries))
  portType : FollowsPorts device (before.map (·.vlanPortTypeEntries))
    (after.map (·.vlanPortTypeEntries))
  static : ∀ table ∈ after, StaticOnPorts (devicePorts device) table.vlanStaticEntries

/-- The default VLAN table fits the device: a device without a table can take it over as it is, and
one with a table the VLANs that are missing there. -/
structure VlansFit (device : Device) (defaults tables : QMap ℤ VlanTable) : Prop where
  whole : ∀ default ∈ defaults.vals.head?, tables[device.id]? = none →
    VlansOnPorts (devicePorts device) default
  missing : ∀ default ∈ defaults.vals.head?, ∀ table ∈ tables[device.id]?,
    MissingVlansOnPorts (devicePorts device) default table

/-- The table that a device without one gets is on its ports. -/
theorem initVlanTable_onPorts (device : Device) :
    VlansOnPorts (devicePorts device) (initVlanTable device) where
  pvid port := by
    rw [contains_eq_isSome_getElem?, initVlanTable, getElem?_portEntries]
    split_ifs with hport <;> simp [hport]
  portType port := by
    rw [contains_eq_isSome_getElem?, initVlanTable, getElem?_portEntries]
    split_ifs with hport <;> simp [hport]
  static vlanId entry hentry := by
    simp only [initVlanTable, Std.TreeMap.getElem?_insert, Std.TreeMap.getElem?_emptyc] at hentry
    split_ifs at hentry
    cases hentry
    exact ⟨subset_rfl, subset_rfl⟩

/-- **A device without a VLAN table** is on its ports afterwards exactly when the table that it
gets is. -/
theorem vlansFollow_new_iff (reservedVlan : Finset ℤ) :
    VlansFollow device none (some (keepReservedVlans reservedVlan table)) ↔
      VlansOnPorts (devicePorts device) table := by
  constructor
  · rintro ⟨hpvid, hportType, hstatic⟩
    exact ⟨followsPorts_none_some_iff.1 hpvid, followsPorts_none_some_iff.1 hportType,
      staticOnPorts_keepReservedVlans_iff.1 (hstatic _ rfl)⟩
  · rintro ⟨hpvid, hportType, hstatic⟩
    refine ⟨followsPorts_none_some_iff.2 hpvid, followsPorts_none_some_iff.2 hportType, ?_⟩
    rintro _ ⟨⟩
    exact staticOnPorts_keepReservedVlans_iff.2 hstatic

/-- **A device with a VLAN table** is on its ports afterwards exactly when the VLANs are that only
the default table has. -/
theorem vlansFollow_own_iff (reservedVlan : Finset ℤ) : VlansFollow device (some table)
        (some (keepReservedVlans reservedVlan (rebuildVlanTable device default? table))) ↔
      ∀ default ∈ default?, MissingVlansOnPorts (devicePorts device) default table := by
  constructor
  · rintro ⟨-, -, hstatic⟩
    exact staticOnPorts_rebuildVlanTable_iff.1
      (staticOnPorts_keepReservedVlans_iff.1 (hstatic _ rfl))
  · intro h
    refine ⟨?_, ?_, ?_⟩
    · refine followsPorts_of_getElem? (fun port => getElem?_portEntries _ port) ?_
      rintro _ ⟨⟩ port e he
      rw [he, some_or, getD_some]
    · refine followsPorts_of_getElem? (fun port => getElem?_portEntries _ port) ?_
      rintro _ ⟨⟩ port e he
      rw [he, some_or, getD_some]
    · rintro _ ⟨⟩
      exact staticOnPorts_keepReservedVlans_iff.2 (staticOnPorts_rebuildVlanTable_iff.2 h)

/-- **The VLAN table follows the ports exactly when the default one fits the device.** -/
theorem updateVlanTables_follow_iff {defaults tables : QMap ℤ VlanTable} :
    VlansFollow device tables[device.id]? (updateVlanTables device defaults tables)[device.id]? ↔
      (device.deviceProperty.vlanSetting.checkSupportAnyOne = true →
        VlansFit device defaults tables) := by
  unfold updateVlanTables
  cases hsupp : device.deviceProperty.vlanSetting.checkSupportAnyOne with
  | false =>
    simp only [Bool.false_eq_true, if_false, Std.TreeMap.getElem?_erase_self, false_implies,
      iff_true]
    exact ⟨followsPorts_none _, followsPorts_none _, nofun⟩
  | true =>
    simp only [if_true, Std.TreeMap.getElem?_insert_self, forall_const]
    cases hown : tables[device.id]? with
    | none =>
      cases hdefault : defaults.vals.head? with
      | none =>
        refine ⟨fun _ => ⟨by simp [hdefault], by simp [hdefault]⟩, fun _ => ?_⟩
        exact (vlansFollow_new_iff _).2 (initVlanTable_onPorts device)
      | some default =>
        refine (vlansFollow_new_iff _).trans ⟨fun h => ⟨?_, ?_⟩, fun h => ?_⟩
        · rintro d hd -
          obtain rfl := some.inj (hdefault.symm.trans hd)
          exact ⟨h.pvid, h.portType, h.static⟩
        · simp [hown]
        · have := h.whole default hdefault hown
          exact ⟨this.pvid, this.portType, this.static⟩
    | some table =>
      refine (vlansFollow_own_iff _).trans ⟨fun h => ⟨?_, ?_⟩, fun h => ?_⟩
      · simp [hown]
      · rintro default hdefault t ht
        obtain rfl := some.inj (hown.symm.trans ht)
        exact h default hdefault
      · exact fun default hdefault => h.missing default hdefault table hown

/-! ### Static forward entries and accounts -/

/-- **Static forward entries that stay are on the ports.** -/
theorem keepForwardEntries_subset {vlanTable? : Option VlanTable}
    {entries : QSet StaticForwardEntry} {entry : StaticForwardEntry}
    (h : entry ∈ keepForwardEntries device vlanTable? entries) :
    entry.egressPorts ⊆ devicePorts device := by
  suffices hloop : ∀ (l : List StaticForwardEntry) (kept : QSet StaticForwardEntry),
      (∀ e ∈ kept, e.egressPorts ⊆ devicePorts device) →
      ∀ e ∈ l.foldl (fun kept entry =>
        if vlanTable?.any (·.vlanStaticEntries.contains entry.vlanId) then
          QSet.insert kept { entry with egressPorts := entry.egressPorts ∩ devicePorts device }
        else kept) kept, e.egressPorts ⊆ devicePorts device from
    hloop entries [] (fun e he => absurd he not_mem_nil) entry h
  intro l
  induction l with
  | nil => exact fun kept hkept => hkept
  | cons x l ih =>
    intro kept hkept
    refine ih _ fun e he => ?_
    dsimp only at he
    split_ifs at he
    · rcases QSet.mem_or_eq_of_mem_insert he with he | rfl
      · exact hkept e he
      · exact inter_subset_right
    · exact hkept e he

theorem updateStaticForwardTables_onPorts (supported : Bool) (vlanTable? : Option VlanTable)
    (defaults tables : QMap ℤ StaticForwardTable) : ForwardOnPorts (devicePorts device)
      (updateStaticForwardTables device supported vlanTable? defaults tables)[device.id]? := by
  intro table htable entry hentry
  unfold updateStaticForwardTables at htable
  cases supported with
  | false => simp at htable
  | true =>
    simp only [if_true, Std.TreeMap.getElem?_insert_self, mem_some_iff] at htable
    subst htable
    exact keepForwardEntries_subset hentry

/-- "UserAccount", where no first element of an empty table is read: the default table with the key
0 has an account. -/
def AccountsReadable (device : Device) (defaults config : DeviceConfig) : Prop :=
  device.deviceProperty.userAccount = true → config.userAccountTables.contains device.id = false →
    defaults.userAccountTables.isEmpty = false → ∃ table, defaults.userAccountTables[(0 : ℤ)]? =
      some table ∧ table.accounts.isEmpty = false

/-- **The accounts are brought in line exactly when they can be read.** -/
theorem exists_updateUserAccountTables_iff :
    (∃ tables, updateUserAccountTables device defaults config = some tables) ↔
      AccountsReadable device defaults config := by
  unfold updateUserAccountTables AccountsReadable
  cases hsupp : device.deviceProperty.userAccount with
  | false => simp
  | true =>
    cases hown : config.userAccountTables.contains device.id with
    | true => simp
    | false =>
      simp only [Bool.not_true, Bool.false_eq_true, if_false, forall_const,
        ← isSome_iff_exists, isSome_map, isSome_head?_keys]
      cases hdefault : defaults.userAccountTables.isEmpty with
      | true => simp
      | false =>
        simp only [Bool.false_eq_true, if_false, forall_const, value_eq_getD]
        cases htable : defaults.userAccountTables[(0 : ℤ)]? with
        | none => simp [default]
        | some table => simp

/-! ### The update as a whole -/

/-- **The default configuration fits the device:** nothing is read from an empty table, and what
comes from a default VLAN table is on the ports. -/
structure TablesFit (defaults : DeviceConfig) (device : Device) (config : DeviceConfig) : Prop where
  accounts : AccountsReadable device defaults config
  gcl : GclReadable device defaults config
  vlans : device.deviceProperty.vlanSetting.checkSupportAnyOne = true →
    VlansFit device defaults.vlanTables config.vlanTables

/-- The table that a device with a profile of the time synchronization has afterwards. -/
theorem timeSyncTable_eq {table : TimeSyncTable}
    (h : (updateTimeSyncTables device defaults config)[device.id]? = some table) :
    let setting := device.deviceProperty.timeSyncSetting
    let start := startTable defaults.timeSyncTables config.timeSyncTables device.id
    table =
      { deviceId := device.id
        ieee802Dot1AS := profileEntries device setting.ieee802Dot1AS start.ieee802Dot1AS {}
        ieee1588 := profileEntries device setting.ieee1588 start.ieee1588 {}
        iec61850 := profileEntries device setting.iec61850 start.iec61850 {}
        ieeeC37Dot238 := profileEntries device setting.ieeeC37Dot238 start.ieeeC37Dot238 {} } := by
  unfold updateTimeSyncTables at h
  cases hsupp : device.deviceProperty.timeSyncSetting.checkSupportAnyOne with
  | false => simp [hsupp] at h
  | true =>
    simp only [hsupp, if_true, Std.TreeMap.getElem?_insert_self] at h
    exact (some.inj h).symm

/-- **The ports of a time synchronization profile follow the device**, whatever the default
configuration is. -/
theorem updateTimeSyncTables_follows (own : TimeSyncTable → QMap ℤ ε) (init : ε)
    (hread : ∀ table, (updateTimeSyncTables device defaults config)[device.id]? = some table →
      own table = profileEntries device true
        (own (startTable defaults.timeSyncTables config.timeSyncTables device.id)) init) :
    FollowsPorts device (config.timeSyncTables[device.id]?.map own)
      ((updateTimeSyncTables device defaults config)[device.id]?.map own) := by
  cases hafter : (updateTimeSyncTables device defaults config)[device.id]? with
  | none => exact followsPorts_none _
  | some table' =>
    rw [map_some, hread table' hafter]
    refine profileEntries_follows init fun old hold => ?_
    obtain ⟨table, htable, rfl⟩ := map_eq_some_iff.1 hold
    rw [startTable_of_mem htable]

/-- **What an update that returns has brought in line.** -/
theorem exists_of_updateDeviceConfigTable {deviceProfiles : QSet DeviceProfile}
    (h : updateDeviceConfigTable deviceProfiles device config = some config') :
    let defaults := defaultDeviceConfig deviceProfiles device
    (∃ tables, updateUserAccountTables device defaults config = some tables) ∧
      updateGclTables device defaults config = some config'.gclTables ∧
      config'.vlanTables = updateVlanTables device defaults.vlanTables config.vlanTables := by
  obtain ⟨accounts, haccounts, h⟩ := bind_eq_some_iff.1 h
  obtain ⟨gcl, hgcl, h⟩ := bind_eq_some_iff.1 h
  cases h
  exact ⟨⟨accounts, haccounts⟩, hgcl, rfl⟩

/-- **The tables of a device follow its ports exactly when the default configuration of its profile
fits the device.**  A table with an entry for each port follows them in any case, so that what is
left is what is read from an empty table, and what is taken from a default VLAN table. -/
theorem followsDevice_iff (deviceProfiles : QSet DeviceProfile) (device : Device)
    (config : DeviceConfig) :
    (∃ config', updateDeviceConfigTable deviceProfiles device config = some config' ∧
        FollowsDevice device config config') ↔
      TablesFit (defaultDeviceConfig deviceProfiles device) device config := by
  constructor
  · rintro ⟨config', hupd, hfollows⟩
    obtain ⟨haccounts, hgcl, hvlans⟩ := exists_of_updateDeviceConfigTable hupd
    refine ⟨exists_updateUserAccountTables_iff.1 haccounts,
      exists_updateGclTables_iff.1 ⟨_, hgcl⟩, ?_⟩
    refine updateVlanTables_follow_iff.1 ⟨?_, ?_, ?_⟩
    · rw [← hvlans]
      exact hfollows.pvid
    · rw [← hvlans]
      exact hfollows.portType
    · rw [← hvlans]
      exact hfollows.vlanStatic
  · intro hfit
    set defaults := defaultDeviceConfig deviceProfiles device with hdefaults
    obtain ⟨accounts, haccounts⟩ := exists_updateUserAccountTables_iff.2 hfit.accounts
    obtain ⟨gcl, hgcl⟩ := exists_updateGclTables_iff.2 hfit.gcl
    have hvlans := updateVlanTables_follow_iff.2 hfit.vlans
    refine ⟨_, by rw [updateDeviceConfigTable, ← hdefaults, haccounts, hgcl]; rfl, ?_⟩
    exact {
      ieee802Dot1AS := fun hsupp => updateTimeSyncTables_follows _ {} fun table htable => by
        rw [timeSyncTable_eq htable, hsupp]
      ieee1588 := fun hsupp => updateTimeSyncTables_follows _ {} fun table htable => by
        rw [timeSyncTable_eq htable, hsupp]
      iec61850 := fun hsupp => updateTimeSyncTables_follows _ {} fun table htable => by
        rw [timeSyncTable_eq htable, hsupp]
      ieeeC37Dot238 := fun hsupp => updateTimeSyncTables_follows _ {} fun table htable => by
        rw [timeSyncTable_eq htable, hsupp]
      portSetting := updatePortTable_follows _ _ _ _
      pvid := hvlans.pvid
      portType := hvlans.portType
      vlanStatic := hvlans.static
      unicast := updateStaticForwardTables_onPorts _ _ _ _
      multicast := updateStaticForwardTables_onPorts _ _ _ _
      portDefaultPcp := updatePortTable_follows _ _ _ _
      streamPriorityIngress := updatePortTable_follows _ _ _ _
      streamPriorityEgress := updatePortTable_follows _ _ _ _
      gcl := updateGclTables_follows hgcl
      rstp := updatePortTable_follows _ _ _ _ }

/-- A switch with a port, for time-aware traffic. -/
def gatedSwitch : Device where
  id := 50001
  deviceProfileId := 1
  interfaces := [{ interfaceId := 1 }]
  deviceProperty := { ieee802Dot1Qbv := true }

/-- Its profile has a default table of the egress priorities and no gate control lists. -/
def egressProfile : DeviceProfile where
  id := 1
  defaultDeviceConfig :=
    { streamPriorityEgressTables := (∅ : QMap ℤ (PortTable StadConfigEntry)).insert 0 {} }

/-- **The first of the default gate control lists is read where there are none.** -/
theorem not_followsDevice_gatedSwitch : ¬∀ (deviceProfiles : QSet DeviceProfile) (device : Device)
    (config : DeviceConfig), ∃ config',
      updateDeviceConfigTable deviceProfiles device config = some config' ∧
        FollowsDevice device config config' := by
  intro h
  obtain ⟨config', hupd, -⟩ := h [egressProfile] gatedSwitch {}
  obtain ⟨-, hgcl, -⟩ := exists_of_updateDeviceConfigTable hupd
  have hread := exists_updateGclTables_iff.1 ⟨_, hgcl⟩
  obtain ⟨table, htable, -⟩ := hread rfl rfl rfl 1 (by decide)
  simp at htable

/-! ### A VLAN table that is rebuilt in place -/

/-- The two tables have the same static entries, PVIDs and port types. -/
structure SameVlans (table table' : VlanTable) : Prop where
  static : ∀ vlanId : ℤ, table'.vlanStaticEntries[vlanId]? = table.vlanStaticEntries[vlanId]?
  pvid : ∀ port : ℤ, table'.portVlanEntries[port]? = table.portVlanEntries[port]?
  portType : ∀ port : ℤ, table'.vlanPortTypeEntries[port]? = table.vlanPortTypeEntries[port]?

/-- Each VLAN of the default table is one of the table. -/
def HasDefaultVlans (defaults : QMap ℤ VlanTable) (table : VlanTable) : Prop :=
  ∀ default ∈ defaults.vals.head?, ∀ vlanId : ℤ,
    default.vlanStaticEntries.contains vlanId = true →
      table.vlanStaticEntries.contains vlanId = true

theorem filter_devicePorts_eq {ports : Finset ℤ} (hports : ports ⊆ devicePorts device)
    {p : ℤ → Prop} [DecidablePred p] (hp : ∀ port ∈ devicePorts device, (p port ↔ port ∈ ports)) :
    (devicePorts device).filter p = ports := by
  ext port
  rw [Finset.mem_filter]
  exact ⟨fun h => (hp port h.1).1 h.2, fun h => ⟨hports h, (hp port (hports h)).2 h⟩⟩

/-- **A static entry on ports that all have a PVID is rebuilt as it was.** -/
theorem rebuildStaticEntry_eq (h : VlansOnPorts (devicePorts device) table)
    {entry : VlanStaticEntry} (hentry : table.vlanStaticEntries[vlanId]? = some entry) :
    rebuildStaticEntry device default? table vlanId entry = entry := by
  obtain ⟨hegress, huntagged⟩ := h.static vlanId entry hentry
  simp only [rebuildStaticEntry]
  rw [filter_devicePorts_eq huntagged, filter_devicePorts_eq hegress]
  · intro port hport
    rw [if_pos ((h.pvid port).2 hport)]
  · intro port hport
    rw [if_pos ((h.pvid port).2 hport)]

/-- What is rebuilt for each port is what was there, when that was one entry for each port. -/
theorem getElem?_portEntries_own {own : QMap ℤ ε} {other : ℤ → Option ε} {init : ε}
    (h : ∀ port : ℤ, own.contains port = true ↔ port ∈ devicePorts device) (port : ℤ) :
    (portEntries device fun port => (own[port]?.or (other port)).getD init)[port]? =
      own[port]? := by
  rw [getElem?_portEntries]
  split_ifs with hport
  · rw [← h, contains_eq_isSome_getElem?] at hport
    obtain ⟨e, he⟩ := isSome_iff_exists.1 hport
    rw [he, some_or, getD_some]
  · rw [← h, contains_eq_isSome_getElem?, Bool.not_eq_true,
      isSome_eq_false_iff, isNone_iff_eq_none] at hport
    exact hport.symm

/-- **A table on the ports of the device is rebuilt as it was exactly when it has the VLANs of the
default table**, its reserved VLANs being there. -/
theorem sameVlans_update_iff {reservedVlan : Finset ℤ} (h : VlansOnPorts (devicePorts device) table)
    (hreserved : ∀ vlanId ∈ reservedVlan, table.vlanStaticEntries.contains vlanId = true) :
    SameVlans table (keepReservedVlans reservedVlan (rebuildVlanTable device default? table)) ↔
      ∀ default ∈ default?, ∀ vlanId : ℤ, default.vlanStaticEntries.contains vlanId = true →
        table.vlanStaticEntries.contains vlanId = true := by
  have hstatic : ∀ vlanId : ℤ, (keepReservedVlans reservedVlan
      (rebuildVlanTable device default? table)).vlanStaticEntries[vlanId]? =
        table.vlanStaticEntries[vlanId]?.or (default?.bind (·.vlanStaticEntries[vlanId]?)) := by
    intro vlanId
    rw [getElem?_static_keepReservedVlans, getElem?_static_rebuildVlanTable]
    cases hentry : table.vlanStaticEntries[vlanId]? with
    | some entry =>
      rw [map_some, rebuildStaticEntry_eq h hentry, some_or, some_or]
    | none =>
      have hout : vlanId ∉ reservedVlan := fun hin => by
        have := hreserved vlanId hin
        rw [contains_eq_isSome_getElem?, hentry] at this
        cases this
      rw [if_neg hout, map_none, none_or, or_none]
  constructor
  · rintro hsame default hdefault vlanId hin
    have := hsame.static vlanId
    rw [hstatic, mem_def.1 hdefault, bind_some] at this
    rw [contains_eq_isSome_getElem?] at hin ⊢
    rw [← this, isSome_or, hin, Bool.or_true]
  · intro hhas
    refine ⟨fun vlanId => ?_, fun port => getElem?_portEntries_own h.pvid port,
      fun port => getElem?_portEntries_own h.portType port⟩
    rw [hstatic]
    cases hentry : table.vlanStaticEntries[vlanId]? with
    | some entry => rw [some_or]
    | none =>
      rw [none_or, bind_eq_none_iff]
      intro default hdefault
      have := mt (hhas default hdefault vlanId)
      simp only [contains_eq_isSome_getElem?, hentry] at this
      simpa using this

/-- **The store of the VLAN tables**: the table of the device stays as it was exactly when the
device has VLANs and the table the VLANs of the default one. -/
theorem updateVlanTables_same_iff {defaults tables : QMap ℤ VlanTable}
    (htable : tables[device.id]? = some table) (h : VlansOnPorts (devicePorts device) table)
    (hreserved : ∀ vlanId ∈ device.deviceProperty.reservedVlan,
      table.vlanStaticEntries.contains vlanId = true) :
    (∃ table', (updateVlanTables device defaults tables)[device.id]? = some table' ∧
        SameVlans table table') ↔
      device.deviceProperty.vlanSetting.checkSupportAnyOne = true ∧
        HasDefaultVlans defaults table := by
  unfold updateVlanTables
  cases device.deviceProperty.vlanSetting.checkSupportAnyOne with
  | false => simp
  | true =>
    simp only [if_true, htable, Std.TreeMap.getElem?_insert_self, some.injEq,
      exists_eq_left', true_and]
    exact sameVlans_update_iff h hreserved

/-! ### `UpdateDevice` touches the VLAN tables at its end alone -/

variable {project project' : Project} {link : Link}

theorem LinksChanged.vlanTables (h : LinksChanged project project') :
    project'.vlanTables = project.vlanTables := by
  obtain ⟨_, _, _, _, rfl⟩ := h
  rfl

/-- What the loops of `UpdateDevice` leave alone: the device but for its interfaces, and the VLAN
tables. -/
structure TablesLeft (device device' : Device) (project project' : Project) : Prop where
  id : device'.id = device.id
  same : SameModel device device'
  vlanTables : project'.vlanTables = project.vlanTables

theorem keepInterface_same {device device' : Device} {interfaceId : ℤ} {intf : Interface}
    (h : keepInterface device interfaceId = some (device', intf)) : SameModel device device' := by
  unfold keepInterface at h
  split at h
  · cases h
    exact ⟨rfl, rfl, rfl, rfl, rfl, rfl⟩
  · obtain ⟨⟨interfaces, unusedId⟩, -, h⟩ := bind_eq_some_iff.1 h
    obtain ⟨intf', -, h⟩ := bind_eq_some_iff.1 h
    cases h
    exact ⟨rfl, rfl, rfl, rfl, rfl, rfl⟩

/-- **One link that is moved** leaves the device alone but for its interfaces. -/
theorem updateDeviceLink_left {device device' : Device}
    (h : updateDeviceLink (device, project) link = .ok (device', project')) :
    TablesLeft device device' project project' := by
  rcases updateDeviceLink_ok h with ⟨-, rfl, rfl⟩ | ⟨-, -, rfl, hdel⟩ | ⟨intf, -, hkeep, hmoved⟩
  · exact ⟨rfl, ⟨rfl, rfl, rfl, rfl, rfl, rfl⟩, rfl⟩
  · exact ⟨rfl, ⟨rfl, rfl, rfl, rfl, rfl, rfl⟩, (linksChanged_deleteLink hdel).vlanTables⟩
  · refine ⟨keepInterface_id hkeep, keepInterface_same hkeep, ?_⟩
    cases hmoved with
    | alone => rfl
    | deleted _ _ _ hdel => exact (linksChanged_deleteLink hdel).vlanTables
    | moved _ _ _ hupd => exact (linksChanged_updateLink hupd).vlanTables

theorem vlanTables_updateRstpGroup {fuel : ℕ} {device : Device} {rstp : RSTP}
    (h : updateRstpGroup fuel device project rstp = .ok project') :
    project'.vlanTables = project.vlanTables := by
  obtain ⟨groups, rfl | hcomp⟩ := updateRstpGroup_ok h
  · rfl
  · obtain ⟨found, -, rfl⟩ := map_eq_some_iff.1 hcomp
    rfl

theorem vlanTables_updateVlanGroupMembers {device : Device}
    (h : updateVlanGroupMembers device project = .ok project') :
    project'.vlanTables = project.vlanTables := by
  obtain ⟨groups, rfl⟩ := updateVlanGroupMembers_ok h
  rfl

/-- **`UpdateDevice` brings the tables in line at its end**, and has touched no VLAN table before:
for a device with an id, with the features that its profile gives it. -/
theorem updateDevice_tables {services : DeviceServices} {fuel : ℕ} {device stored : Device}
    (h : updateDevice services fuel project device = .ok (stored, project'))
    (hid : device.id ≠ -1) :
    stored.id = device.id ∧ stored.deviceProfileId = device.deviceProfileId ∧
      stored.deviceProperty = (profiledDevice services device).deviceProperty ∧
      ∃ p : Project, p.vlanTables = project.vlanTables ∧
        project'.vlanTables = (services.updateDeviceConfigTable p stored).1 := by
  unfold updateDevice at h
  obtain ⟨⟨replaced, p₁⟩, hrepl, h⟩ := exists_of_bind h
  obtain ⟨p₂, hskus, h⟩ := exists_of_bind h
  obtain ⟨rfl, rfl⟩ := Prod.mk.inj (Except.ok.inj h)
  obtain ⟨skus, -, rfl⟩ := changeSkus_eq_ok.1 hskus
  obtain ⟨numbered, profiled, entered, grouped, linked, final, hsteps⟩ :=
    exists_replaceSteps hrepl
  have hrest : (takeDevice services project device.id).2.vlanTables = project.vlanTables := by
    unfold takeDevice
    split <;> rfl
  generalize (takeDevice services project device.id).1 = deleted at hsteps
  generalize (takeDevice services project device.id).2 = rest at hsteps hrest
  obtain ⟨-, ⟨counted, moved, hid', hgroup, rfl⟩, hmatch, -, hrstp, hvlan, hlinks, rfl⟩ := hsteps
  obtain ⟨hnumbered, counter, rfl⟩ := assignDeviceId_ok hid'
  obtain ⟨-, rfl⟩ := moveGroup_ok hgroup
  have hprofiled := matchDeviceProfile_ok hmatch
  have hrefreshed : SameModel device (refreshInterfaces rest device) :=
    ⟨rfl, rfl, rfl, rfl, rfl, rfl⟩
  have hmodel := (hrefreshed.trans hnumbered.same).profiledDevice services
  have hgrouped : grouped.vlanTables = rest.vlanTables :=
    foldlM_rule (I := fun p => p.vlanTables = rest.vlanTables) hrstp rfl
      fun p p' rstp hp hstep => (vlanTables_updateRstpGroup hstep).trans hp
  have hlinked := (vlanTables_updateVlanGroupMembers hvlan).trans hgrouped
  have hleft : TablesLeft profiled replaced linked final := by
    refine foldlM_rule (I := fun found => TablesLeft profiled found.1 linked found.2)
      hlinks ⟨rfl, ⟨rfl, rfl, rfl, rfl, rfl, rfl⟩, rfl⟩ fun found found' link hfound hstep => ?_
    obtain ⟨hid₂, hsame₂, htables₂⟩ := updateDeviceLink_left hstep
    exact ⟨hid₂.trans hfound.id, hfound.same.trans hsame₂, htables₂.trans hfound.vlanTables⟩
  refine ⟨?_, ?_, ?_, final, ?_, rfl⟩
  · rw [hleft.id, hprofiled.id, hnumbered.id_of_ne hid]
    rfl
  · rw [hleft.same.deviceProfileId, hprofiled.deviceProfileId, hnumbered.same.deviceProfileId]
    rfl
  · exact hleft.same.property.trans (hprofiled.property.trans hmodel.1)
  · rw [hleft.vlanTables, hlinked, hrest]

/-- The services, with the VLAN tables of `UpdateDeviceConfigTable`. -/
def withVlanTables (services : DeviceServices) : DeviceServices :=
  { services with updateDeviceConfigTable := fun project device =>
      (updateVlanTables device (defaultDeviceConfig services.deviceProfiles device).vlanTables
        project.vlanTables, (services.updateDeviceConfigTable project device).2) }

/-- The update changes neither the profile of the device nor the set of its interfaces. -/
structure SameHardware (project : Project) (device request stored : Device) : Prop where
  old : project.getDeviceById request.id = some device
  profile : request.deviceProfileId = device.deviceProfileId
  ports : devicePorts stored = devicePorts device

/-- **An `UpdateDevice` that leaves the ports alone leaves a VLAN table that is in line with them as
it was exactly when the device still has VLANs and the table all those of the default one.**  A
VLAN of the profile's default configuration that the user has deleted comes back. -/
theorem vlanTable_kept_iff {services : DeviceServices} {fuel : ℕ} {device request stored : Device}
    (hupdate : updateDevice (withVlanTables services) fuel project request = .ok (stored, project'))
    (hid : request.id ≠ -1) (hsame : SameHardware project device request stored)
    (htable : project.vlanTables[request.id]? = some table)
    (hports : VlansOnPorts (devicePorts device) table)
    (hreserved : ∀ vlanId ∈ (profiledDevice services request).deviceProperty.reservedVlan,
      table.vlanStaticEntries.contains vlanId = true) :
    (∃ table', project'.vlanTables[request.id]? = some table' ∧ SameVlans table table') ↔
      (profiledDevice services request).deviceProperty.vlanSetting.checkSupportAnyOne = true ∧
        HasDefaultVlans (defaultDeviceConfig services.deviceProfiles request).vlanTables table := by
  obtain ⟨hstored, hprof, hprop, p, hp, htables⟩ := updateDevice_tables hupdate hid
  have hdefaults : defaultDeviceConfig services.deviceProfiles stored =
      defaultDeviceConfig services.deviceProfiles request := by
    rw [defaultDeviceConfig, hprof, defaultDeviceConfig]
  have hupdated : project'.vlanTables = updateVlanTables stored
      (defaultDeviceConfig services.deviceProfiles request).vlanTables project.vlanTables := by
    rw [htables, ← hdefaults, ← hp]
    rfl
  have hprop' : stored.deviceProperty = (profiledDevice services request).deviceProperty :=
    hprop
  rw [hupdated, ← hstored, ← hprop']
  rw [← hstored] at htable
  rw [← hprop'] at hreserved
  rw [← hsame.ports] at hports
  exact updateVlanTables_same_iff htable hports hreserved

/-- The VLANs on the first port. -/
def firstPortTable (vlanIds : List ℤ) : VlanTable where
  deviceId := 50001
  vlanStaticEntries := vlanIds.foldl (fun entries vlanId =>
    entries.insert vlanId { VlanStaticEntry.ofId vlanId with egressPorts := {1} }) ∅
  portVlanEntries := (∅ : QMap ℤ PortVlanEntry).insert 1 { pvid := 1 }
  vlanPortTypeEntries := (∅ : QMap ℤ VlanPortTypeEntry).insert 1 { vlanPortType := .access }

/-- A core that knows one switch with VLANs, of which 1 and 5 are there by default. -/
def vlanModel : DeviceServices :=
  { oneModel with deviceProfiles :=
      [{ id := 1, deviceType := .switch
         property := { modelName := "TSN-G5004", vlanSetting := { accessTrunkMode := true } }
         interfaces := [{ interfaceName := "1", supportSpeeds := [1000] }]
         defaultDeviceConfig :=
          { vlanTables := (∅ : QMap ℤ VlanTable).insert 0 (firstPortTable [1, 5]) } }] }

/-- The switch. -/
def vlanSwitch : Device where
  id := 50001
  ipAddress := "10.0.0.1"
  deviceProfileId := 1
  interfaces := [{ interfaceId := 1 }]

/-- A project with the switch and its VLANs. -/
def vlanProject (vlanIds : List ℤ) : Project where
  devices := [vlanSwitch]
  usedIpAddresses := [0x0A000001]
  vlanTables := (∅ : QMap ℤ VlanTable).insert 50001 (firstPortTable vlanIds)

/-- What the update makes of the VLANs. -/
def updatedVlans (vlanIds : List ℤ) : Option (List ℤ × List ℤ) :=
  match updateDevice (withVlanTables vlanModel) 0 (vlanProject vlanIds) vlanSwitch with
  | .ok (stored, project') => (project'.vlanTables[(50001 : ℤ)]?).map fun table =>
    (stored.interfaces.map (·.interfaceId), table.vlanStaticEntries.keys)
  | .error _ => none

theorem exists_of_updatedVlans {vlanIds ports vlans : List ℤ}
    (h : updatedVlans vlanIds = some (ports, vlans)) : ∃ stored project' table,
      updateDevice (withVlanTables vlanModel) 0 (vlanProject vlanIds) vlanSwitch =
        .ok (stored, project') ∧
      project'.vlanTables[(50001 : ℤ)]? = some table ∧
      stored.interfaces.map (·.interfaceId) = ports ∧ table.vlanStaticEntries.keys = vlans := by
  unfold updatedVlans at h
  split at h
  · next stored project' hupd =>
    obtain ⟨table, htable, h⟩ := map_eq_some_iff.1 h
    obtain ⟨rfl, rfl⟩ := Prod.mk.inj h
    exact ⟨stored, project', table, hupd, htable, rfl, rfl⟩
  · cases h

theorem firstPortTable_onPorts (vlanIds : List ℤ) :
    VlansOnPorts (devicePorts vlanSwitch) (firstPortTable vlanIds) where
  pvid port := by
    rw [show devicePorts vlanSwitch = {1} from rfl, Finset.mem_singleton]
    exact Iff.trans (by simp [firstPortTable]) eq_comm
  portType port := by
    rw [show devicePorts vlanSwitch = {1} from rfl, Finset.mem_singleton]
    exact Iff.trans (by simp [firstPortTable]) eq_comm
  static vlanId entry hentry := by
    have h := getElem?_foldl_insert (l := vlanIds.map fun vlanId =>
      (vlanId, { VlanStaticEntry.ofId vlanId with egressPorts := ({1} : Finset ℤ) }))
      (f := fun vlanId => { VlanStaticEntry.ofId vlanId with egressPorts := ({1} : Finset ℤ) })
      (fun p hp => by obtain ⟨v, -, rfl⟩ := mem_map.1 hp; rfl) ∅ vlanId
    rw [foldl_map] at h
    rw [firstPortTable] at hentry
    rw [hentry] at h
    split_ifs at h
    · cases h
      exact ⟨show ({1} : Finset ℤ) ⊆ devicePorts vlanSwitch by decide, empty_subset _⟩
    · simp at h

/-- With the default VLANs in the table nothing changes. -/
theorem vlanTable_kept_vlanSwitch : ∃ stored project',
    updateDevice (withVlanTables vlanModel) 0 (vlanProject [1, 5]) vlanSwitch =
      .ok (stored, project') ∧
    ((∃ table', project'.vlanTables[(50001 : ℤ)]? = some table' ∧
        SameVlans (firstPortTable [1, 5]) table') ↔
      (profiledDevice vlanModel vlanSwitch).deviceProperty.vlanSetting.checkSupportAnyOne = true ∧
        HasDefaultVlans (defaultDeviceConfig vlanModel.deviceProfiles vlanSwitch).vlanTables
          (firstPortTable [1, 5])) := by
  obtain ⟨stored, project', table, hupd, -, hports, -⟩ :=
    exists_of_updatedVlans (show updatedVlans [1, 5] = some ([1], [1, 5]) by decide +kernel)
  refine ⟨stored, project', hupd, vlanTable_kept_iff hupd (by decide)
    ⟨rfl, rfl, by rw [devicePorts, hports]; rfl⟩ (by simp [vlanProject, vlanSwitch])
    (firstPortTable_onPorts _) ?_⟩
  decide +kernel

/-- **A VLAN that the user has deleted comes back** with the next update of the device. -/
theorem not_vlanTable_kept : ¬∀ (services : DeviceServices) (fuel : ℕ) (project project' : Project)
    (device request stored : Device) (table : VlanTable),
    updateDevice (withVlanTables services) fuel project request = .ok (stored, project') →
    request.id ≠ -1 → SameHardware project device request stored →
    project.vlanTables[request.id]? = some table → VlansOnPorts (devicePorts device) table →
    (∀ vlanId ∈ (profiledDevice services request).deviceProperty.reservedVlan,
      table.vlanStaticEntries.contains vlanId = true) →
    ∃ table', project'.vlanTables[request.id]? = some table' ∧ SameVlans table table' := by
  intro h
  obtain ⟨stored, project', table, hupd, htable, hports, hvlans⟩ :=
    exists_of_updatedVlans (show updatedVlans [1] = some ([1], [1, 5]) by decide +kernel)
  obtain ⟨table', htable', hsame⟩ := h vlanModel 0 (vlanProject [1]) project' vlanSwitch vlanSwitch
    stored (firstPortTable [1]) hupd (by decide) ⟨rfl, rfl, by rw [devicePorts, hports]; rfl⟩
    (by simp [vlanProject, vlanSwitch]) (firstPortTable_onPorts _) (by decide +kernel)
  obtain rfl := some.inj (htable.symm.trans htable')
  have hin : (5 : ℤ) ∈ table.vlanStaticEntries.keys := by simp [hvlans]
  obtain ⟨entry, hentry⟩ := mem_keys_iff.1 hin
  rw [hsame.static] at hentry
  revert hentry
  simp [firstPortTable]

end Core
end Sebastian

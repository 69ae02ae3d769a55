/-
# A pass over the devices

`updateTopologyDevice` (`sebastian/modules/monitor/monitor_diff.go`) deletes the
devices that are gone and creates those that have appeared, in core and in
`currentDeviceMap`.

Core deletes the links of a device with it (`ActCore::DeleteDevice`), and the pass
leaves `currentLinkMap` as it is.  A device that stays keeps its links
(`DevicePassInv`); one that is deleted takes them with it (`links_lost`).
-/

import Sebastian.Lib.Loop
import Sebastian.Lib.Run
import Sebastian.Monitor.LinkConvergence

namespace Sebastian
namespace Monitor

open List Bool

/-! ### Core -/

/-- The link ends at the device. -/
def LinkConf.Touches (link : LinkConf) (deviceId : ℤ) : Prop :=
  link.sourceDeviceId = deviceId ∨ link.destinationDeviceId = deviceId

instance (link : LinkConf) (deviceId : ℤ) : Decidable (link.Touches deviceId) :=
  inferInstanceAs (Decidable (_ ∨ _))

namespace CoreProject

/-- `DeleteDevice`: the links of the device go with it. -/
def deleteDevice (rules : CoreRules) (core : CoreProject) (id : ℤ) : Option CoreProject :=
  if (∃ device ∈ core.devices, device.id = id) ∧ rules.deletesDevice id = true then
    some {
      devices := core.devices.filter (·.id ≠ id)
      links := core.links.filter fun link => ¬link.Touches id
      calls := core.calls + 1 }
  else none

/-- `CreateDevice`, and `GetDevice` of the new device: no other device has its address. -/
def createDevice (rules : CoreRules) (core : CoreProject) (ip : IpAddress) :
    Option (ActDevice × CoreProject) :=
  if (∀ device ∈ core.devices, device.ipAddress ≠ ip) ∧ rules.acceptsDevice core ip = true then
    let device : ActDevice := ⟨rules.newDeviceId core, ip⟩
    some (device, { core with devices := core.devices ++ [device], calls := core.calls + 1 })
  else none

end CoreProject

/-! ### `updateTopologyDevice` -/

/-- `netdl.Device`, of which the pass reads this: `isAlive` is that `Communication` is there and
its ICMP status is reachable. -/
structure MafDevice where
  ip : IpAddress
  hasModelName : Bool
  isAlive : Bool
  deriving DecidableEq

/-- What the pass changes: core and `m.currentDeviceMap`. -/
structure DevicePass where
  core : CoreProject
  cache : GoMap ℤ ActDevice

/-- What the loops read. -/
structure DeviceEnv where
  rules : CoreRules
  mafDeviceIpMap : GoMap IpAddress MafDevice
  actDeviceIpMap : GoMap IpAddress ActDevice
  baselineDeviceMap : GoMap IpAddress ActDevice

namespace DevicePass

/-- `core.DeleteDevice`, and `deleteDeviceInCurrentCache` where that succeeds. -/
def deleteDevice (rules : CoreRules) (device : ActDevice) (s : DevicePass) : DevicePass :=
  match s.core.deleteDevice rules device.id with
  | none => s
  | some core => { core, cache := s.cache.delete device.id }

/-- `createActDeviceByMafDevice`, and `addDeviceInCurrentCache` where that succeeds. -/
def createDevice (rules : CoreRules) (ip : IpAddress) (s : DevicePass) : DevicePass :=
  match s.core.createDevice rules ip with
  | none => s
  | some created => { core := created.2, cache := s.cache.set created.1.id created.1 }

/-- One device of the cache: it is deleted if it is neither reported nor in the baseline. -/
def deleteMissing (env : DeviceEnv) (s : DevicePass) (x : ℤ × ActDevice) : DevicePass :=
  let mafDeviceExists := (env.mafDeviceIpMap x.2.ipAddress).isSome
  let isInBaseline := (env.baselineDeviceMap x.2.ipAddress).isSome
  if !mafDeviceExists && !isInBaseline then s.deleteDevice env.rules x.2 else s

/-- One device that is reported: it is deleted if it is not alive and not in the baseline, and
created if it is alive and was not there when the pass began. -/
def followReport (env : DeviceEnv) (s : DevicePass) (mafDevice : MafDevice) : DevicePass :=
  let isInBaseline := (env.baselineDeviceMap mafDevice.ip).isSome
  let s :=
    match env.actDeviceIpMap mafDevice.ip with
    | some actDevice =>
      if !isInBaseline && !mafDevice.isAlive then s.deleteDevice env.rules actDevice else s
    | none => s
  if mafDevice.isAlive && (env.actDeviceIpMap mafDevice.ip).isNone && mafDevice.hasModelName then
    s.createDevice env.rules mafDevice.ip
  else s

end DevicePass

/-- The orders in which the maps of `updateTopologyDevice` are walked. -/
structure DeviceOrders where
  currentDevices : List (ℤ × ActDevice)
  baselineDevices : List (ℤ × ActDevice)
  missing : List (ℤ × ActDevice)

/-- The devices by their addresses. -/
def deviceIpMap (order : List (ℤ × ActDevice)) : GoMap IpAddress ActDevice :=
  GoMap.empty.setAll (order.map fun x => (x.2.ipAddress, x.2))

/-- What the loops of `updateTopologyDevice` read. -/
def deviceEnv (rules : CoreRules) (mafDevices : List MafDevice) (orders : DeviceOrders) :
    DeviceEnv where
  rules := rules
  mafDeviceIpMap := GoMap.empty.setAll (mafDevices.map fun mafDevice => (mafDevice.ip, mafDevice))
  actDeviceIpMap := deviceIpMap orders.currentDevices
  baselineDeviceMap := deviceIpMap orders.baselineDevices

/-- The two loops. -/
def DevicePass.loops (env : DeviceEnv) (missing : List (ℤ × ActDevice))
    (mafDevices : List MafDevice) (s : DevicePass) : DevicePass :=
  mafDevices.foldl (followReport env) (missing.foldl (deleteMissing env) s)

/-- `updateTopologyDevice` -/
def updateTopologyDevice (rules : CoreRules) (m : Topology) (mafDevices : List MafDevice)
    (orders : DeviceOrders) : Topology :=
  let s := DevicePass.loops (deviceEnv rules mafDevices orders) orders.missing mafDevices
    ⟨m.core, m.currentDeviceMap⟩
  { m with core := s.core, currentDeviceMap := s.cache }

/-- The orders are orders of the maps that are walked. -/
structure DeviceOrders.Walks (m : Topology) (orders : DeviceOrders) : Prop where
  currentDevices : m.currentDeviceMap.Ranges orders.currentDevices
  baselineDevices : m.baselineDeviceMap.Ranges orders.baselineDevices
  missing : m.currentDeviceMap.Ranges orders.missing

/-! ### What one edit does -/

/-- **What a deletion can do.** -/
theorem DevicePass.deleteDevice_cases (s : DevicePass) (rules : CoreRules) (device : ActDevice) :
    (s.deleteDevice rules device = s ∧ ((∀ device' ∈ s.core.devices, device'.id ≠ device.id) ∨
      rules.deletesDevice device.id = false)) ∨
    (rules.deletesDevice device.id = true ∧ s.deleteDevice rules device = {
      core := {
        devices := s.core.devices.filter (·.id ≠ device.id)
        links := s.core.links.filter fun link => ¬link.Touches device.id
        calls := s.core.calls + 1 }
      cache := s.cache.delete device.id }) := by
  unfold DevicePass.deleteDevice CoreProject.deleteDevice
  by_cases hdeletes : rules.deletesDevice device.id = true
  · by_cases hmem : ∃ device' ∈ s.core.devices, device'.id = device.id
    · rw [if_pos ⟨hmem, hdeletes⟩]
      exact .inr ⟨hdeletes, rfl⟩
    · rw [if_neg fun hboth => hmem hboth.1]
      exact .inl ⟨rfl, .inl fun device' hdev' heq => hmem ⟨device', hdev', heq⟩⟩
  · rw [if_neg fun hboth => hdeletes hboth.2]
    exact .inl ⟨rfl, .inr (eq_false_iff.2 hdeletes)⟩

/-- **What a creation can do.** -/
theorem DevicePass.createDevice_cases (s : DevicePass) (rules : CoreRules) (ip : IpAddress) :
    (s.createDevice rules ip = s ∧ ((∃ device ∈ s.core.devices, device.ipAddress = ip) ∨
      rules.acceptsDevice s.core ip = false)) ∨
    ((∀ device ∈ s.core.devices, device.ipAddress ≠ ip) ∧ s.createDevice rules ip = {
      core := { s.core with
        devices := s.core.devices ++ [⟨rules.newDeviceId s.core, ip⟩]
        calls := s.core.calls + 1 }
      cache := s.cache.set (rules.newDeviceId s.core) ⟨rules.newDeviceId s.core, ip⟩ }) := by
  unfold DevicePass.createDevice CoreProject.createDevice
  by_cases hacc : rules.acceptsDevice s.core ip = true
  · by_cases hmem : ∃ device ∈ s.core.devices, device.ipAddress = ip
    · obtain ⟨device, hdev, hip⟩ := hmem
      rw [if_neg fun hboth => hboth.1 device hdev hip]
      exact .inl ⟨rfl, .inl ⟨device, hdev, hip⟩⟩
    · have hfree : ∀ device ∈ s.core.devices, device.ipAddress ≠ ip :=
        fun device hdev hip => hmem ⟨device, hdev, hip⟩
      rw [if_pos ⟨hfree, hacc⟩]
      exact .inr ⟨hfree, rfl⟩
  · rw [if_neg fun hboth => hacc hboth.2]
    exact .inl ⟨rfl, .inr (eq_false_iff.2 hacc)⟩

/-! ### What is known of the devices -/

/-- **The cached devices are those of core**, under their ids, and no two have one address. -/
structure DevicesAgree (D : GoMap ℤ ActDevice) (core : CoreProject) : Prop where
  cached : ∀ id device, D id = some device ↔ device ∈ core.devices ∧ device.id = id
  ip_inj : ∀ device ∈ core.devices, ∀ device' ∈ core.devices,
    device.ipAddress = device'.ipAddress → device = device'

theorem DevicesAgree.known {D : GoMap ℤ ActDevice} {core : CoreProject}
    (h : DevicesAgree D core) : KnownDevices D core where
  keyed := fun id device hid => ((h.cached id device).1 hid).2
  ip_inj := fun id id' device device' hid hid' hip => by
    obtain ⟨hmem, rfl⟩ := (h.cached id device).1 hid
    obtain ⟨hmem', rfl⟩ := (h.cached id' device').1 hid'
    rw [h.ip_inj device hmem device' hmem' hip]
  inCore := fun id device hid => ⟨device, (h.cached id device).1 hid⟩

section
variable {rules : CoreRules} {s : DevicePass} {device : ActDevice} {ip : IpAddress}

theorem DevicesAgree.deleteDevice (h : DevicesAgree s.cache s.core) (rules : CoreRules)
    (device : ActDevice) :
    DevicesAgree (s.deleteDevice rules device).cache (s.deleteDevice rules device).core := by
  rcases s.deleteDevice_cases rules device with ⟨hsame, -⟩ | ⟨-, hdel⟩
  · rwa [hsame]
  · rw [hdel]
    have hmem : ∀ device', device' ∈ s.core.devices.filter (·.id ≠ device.id) ↔
        device' ∈ s.core.devices ∧ device'.id ≠ device.id := fun device' => by simp
    refine ⟨fun id device' => ?_, fun d hd d' hd' => ?_⟩
    · show (if id = device.id then none else s.cache id) = some device' ↔
        device' ∈ s.core.devices.filter (·.id ≠ device.id) ∧ device'.id = id
      rw [hmem]
      split_ifs with hid
      · exact iff_of_false nofun fun hboth => hboth.1.2 (hboth.2.trans hid)
      · rw [h.cached]
        refine ⟨fun ⟨hdev, heq⟩ => ⟨⟨hdev, heq ▸ hid⟩, heq⟩, fun hboth => ?_⟩
        exact ⟨hboth.1.1, hboth.2⟩
    · exact h.ip_inj d ((hmem d).1 hd).1 d' ((hmem d').1 hd').1

theorem DevicesAgree.createDevice (h : DevicesAgree s.cache s.core) (rules : CoreRules)
    (ip : IpAddress) :
    DevicesAgree (s.createDevice rules ip).cache (s.createDevice rules ip).core := by
  rcases s.createDevice_cases rules ip with ⟨hsame, -⟩ | ⟨hfree, hcreate⟩
  · rwa [hsame]
  · rw [hcreate]
    have hfresh : ∀ d ∈ s.core.devices, d.id ≠ rules.newDeviceId s.core :=
      fun d hd => rules.newDeviceId_fresh s.core d hd
    refine ⟨fun id device' => ?_, fun d hd d' hd' hip => ?_⟩
    · show (if id = rules.newDeviceId s.core then some ⟨rules.newDeviceId s.core, ip⟩
          else s.cache id) = some device' ↔
        device' ∈ s.core.devices ++ [⟨rules.newDeviceId s.core, ip⟩] ∧ device'.id = id
      rw [mem_append, mem_singleton]
      split_ifs with hid
      · constructor
        · rintro ⟨⟩
          exact ⟨.inr rfl, hid.symm⟩
        · rintro ⟨hdev | rfl, heq⟩
          · exact absurd (heq.trans hid) (hfresh device' hdev)
          · rfl
      · rw [h.cached]
        constructor
        · rintro ⟨hdev, heq⟩
          exact ⟨.inl hdev, heq⟩
        · rintro ⟨hdev | rfl, heq⟩
          · exact ⟨hdev, heq⟩
          · exact absurd heq.symm hid
    · rcases mem_append.1 hd with hd | hd <;> rcases mem_append.1 hd' with hd' | hd'
      · exact h.ip_inj d hd d' hd' hip
      · rw [mem_singleton.1 hd'] at hip
        exact absurd hip (hfree d hd)
      · rw [mem_singleton.1 hd] at hip
        exact absurd hip.symm (hfree d' hd')
      · exact (mem_singleton.1 hd).trans (mem_singleton.1 hd').symm

end

/-! ### One device of a loop -/

section
variable {env : DeviceEnv} {s : DevicePass} {I : DevicePass → Prop}

/-- **What one round of the first loop can do.** -/
theorem DevicePass.deleteMissing_rule {x : ℤ × ActDevice} (hI : I s)
    (hdel : (env.mafDeviceIpMap x.2.ipAddress).isSome = false →
      (env.baselineDeviceMap x.2.ipAddress).isSome = false → I (s.deleteDevice env.rules x.2)) :
    I (s.deleteMissing env x) := by
  unfold DevicePass.deleteMissing
  dsimp only
  split_ifs with hmiss
  · rw [and_eq_true, not_eq_true', not_eq_true'] at hmiss
    exact hdel hmiss.1 hmiss.2
  · exact hI

/-- **What one round of the second loop can do.** -/
theorem DevicePass.followReport_rule {mafDevice : MafDevice} (hI : I s)
    (hdel : ∀ actDevice, env.actDeviceIpMap mafDevice.ip = some actDevice →
      (env.baselineDeviceMap mafDevice.ip).isSome = false → mafDevice.isAlive = false →
      I (s.deleteDevice env.rules actDevice))
    (hcreate : mafDevice.isAlive = true → env.actDeviceIpMap mafDevice.ip = none →
      I (s.createDevice env.rules mafDevice.ip)) : I (s.followReport env mafDevice) := by
  unfold DevicePass.followReport
  cases hfind : env.actDeviceIpMap mafDevice.ip with
  | none =>
    dsimp only
    split_ifs with happears
    · rw [and_eq_true, and_eq_true] at happears
      exact hcreate happears.1.1 hfind
    · exact hI
  | some actDevice =>
    have hnot : (mafDevice.isAlive && (some actDevice).isNone && mafDevice.hasModelName) =
      false := by
      rw [Option.isNone_some, Bool.and_false, Bool.false_and]
    dsimp only
    rw [hnot, if_neg nofun]
    split_ifs with hgone
    · rw [and_eq_true, not_eq_true', not_eq_true'] at hgone
      exact hdel actDevice hfind hgone.1 hgone.2
    · exact hI

end

/-! ### The devices that the pass gives up -/

/-- The pass tries to delete the device: it is not in the baseline, and not reported or reported
as not alive. -/
def Topology.Doomed (m : Topology) (mafDevices : List MafDevice) (device : ActDevice) : Prop :=
  (¬∃ id device', m.baselineDeviceMap id = some device' ∧ device'.ipAddress = device.ipAddress) ∧
    ((∀ mafDevice ∈ mafDevices, mafDevice.ip ≠ device.ipAddress) ∨
      ∃ mafDevice ∈ mafDevices, mafDevice.ip = device.ipAddress ∧ mafDevice.isAlive = false)

/-- The device is deleted: the pass gives it up and core does not refuse. -/
def Topology.Lost (m : Topology) (rules : CoreRules) (mafDevices : List MafDevice)
    (device : ActDevice) : Prop :=
  m.Doomed mafDevices device ∧ rules.deletesDevice device.id = true

section
variable {rules : CoreRules} {m : Topology} {mafDevices : List MafDevice} {orders : DeviceOrders}
  {I Q : DevicePass → Prop} {device : ActDevice} {ip : IpAddress} {id : ℤ}

theorem mafDeviceIpMap_isSome : ((deviceEnv rules mafDevices orders).mafDeviceIpMap ip).isSome =
    true ↔ ∃ mafDevice ∈ mafDevices, mafDevice.ip = ip := by
  refine GoMap.isSome_setAll.trans ?_
  rw [map_map]
  exact mem_map

theorem baselineDeviceMap_isSome (horders : orders.Walks m) :
    ((deviceEnv rules mafDevices orders).baselineDeviceMap ip).isSome = true ↔
      ∃ id device, m.baselineDeviceMap id = some device ∧ device.ipAddress = ip := by
  refine GoMap.isSome_setAll.trans ?_
  rw [map_map]
  constructor
  · intro hmem
    obtain ⟨x, hx, rfl⟩ := mem_map.1 hmem
    exact ⟨x.1, x.2, (horders.baselineDevices.mem x.1 x.2).1 hx, rfl⟩
  · rintro ⟨id, device, hid, rfl⟩
    exact mem_map.2 ⟨(id, device), (horders.baselineDevices.mem id device).2 hid, rfl⟩

variable (h : DevicesAgree m.currentDeviceMap m.core) (horders : orders.Walks m)
include h horders

theorem actDeviceIpMap_iff : (deviceEnv rules mafDevices orders).actDeviceIpMap ip = some device ↔
      ∃ id, m.currentDeviceMap id = some device ∧ device.ipAddress = ip :=
  h.known.setAll_iff horders.currentDevices

/-- **What holds throughout the pass**: it only deletes devices that it gives up, and creates
devices at addresses that no device had. -/
theorem DevicePass.loops_rule (hI : I ⟨m.core, m.currentDeviceMap⟩)
    (hdel : ∀ s device, I s → m.currentDeviceMap device.id = some device →
      m.Doomed mafDevices device → I (s.deleteDevice rules device))
    (hcreate : ∀ s ip, I s → I (s.createDevice rules ip)) :
    I (DevicePass.loops (deviceEnv rules mafDevices orders) orders.missing mafDevices
      ⟨m.core, m.currentDeviceMap⟩) := by
  have hbase : ∀ {ip}, ((deviceEnv rules mafDevices orders).baselineDeviceMap ip).isSome =
      false → ¬∃ id device', m.baselineDeviceMap id = some device' ∧ device'.ipAddress = ip := by
    intro ip hnone hin
    rw [(baselineDeviceMap_isSome horders).2 hin] at hnone
    cases hnone
  have hmiss := foldlRecOn orders.missing
    (DevicePass.deleteMissing (deviceEnv rules mafDevices orders)) hI
    fun s hs x hx => DevicePass.deleteMissing_rule hs fun hreport hin => by
      have hid := (horders.missing.mem x.1 x.2).1 hx
      refine hdel s x.2 hs ((h.known.keyed _ _ hid).symm ▸ hid) ⟨hbase hin, .inl ?_⟩
      intro mafDevice hmem hip
      rw [mafDeviceIpMap_isSome.2 ⟨mafDevice, hmem, hip⟩] at hreport
      cases hreport
  exact foldlRecOn mafDevices _ hmiss fun s hs mafDevice hmem =>
    DevicePass.followReport_rule hs (fun actDevice hfind hin halive => by
      obtain ⟨id, hid, hip⟩ := (actDeviceIpMap_iff h horders).1 hfind
      refine hdel s actDevice hs ((h.known.keyed _ _ hid).symm ▸ hid) ⟨?_, .inr ?_⟩
      · rw [hip]
        exact hbase hin
      · exact ⟨mafDevice, hmem, hip.symm, halive⟩) fun _ _ => hcreate s _ hs

/-- **A device that the pass gives up is tried**: what an attempt to delete it brings about, and
the other rounds keep, holds after the pass. -/
theorem DevicePass.loops_reaches (hid : m.currentDeviceMap id = some device)
    (hdoomed : m.Doomed mafDevices device) (hI : I ⟨m.core, m.currentDeviceMap⟩)
    (hIdelete : ∀ s device, I s → I (s.deleteDevice rules device))
    (hIcreate : ∀ s ip, I s → I (s.createDevice rules ip))
    (hat : ∀ s, I s → Q (s.deleteDevice rules device))
    (hQdelete : ∀ s device, Q s → Q (s.deleteDevice rules device))
    (hQcreate : ∀ s ip, Q s → Q (s.createDevice rules ip)) :
    Q (DevicePass.loops (deviceEnv rules mafDevices orders) orders.missing mafDevices
      ⟨m.core, m.currentDeviceMap⟩) := by
  obtain ⟨hbase, hreport⟩ := hdoomed
  have hin : ((deviceEnv rules mafDevices orders).baselineDeviceMap device.ipAddress).isSome =
      false := by
    rw [← not_eq_true, baselineDeviceMap_isSome horders]
    exact hbase
  rcases hreport with hmiss | ⟨mafDevice, hmem, hip, halive⟩
  · refine foldlRecOn mafDevices _ ?_ fun s hs mafDevice _ =>
      DevicePass.followReport_rule hs (fun device' _ _ _ => hQdelete s device' hs)
        fun _ _ => hQcreate s _ hs
    refine Loop.foldl_reaches ((horders.missing.mem id device).2 hid) hI
      (fun s hs x _ => DevicePass.deleteMissing_rule hs fun _ _ => hIdelete s x.2 hs)
      (fun s hs => ?_) fun s hs x _ => DevicePass.deleteMissing_rule hs fun _ _ => hQdelete s x.2 hs
    have hnone : ((deviceEnv rules mafDevices orders).mafDeviceIpMap device.ipAddress).isSome =
        false := by
      rw [← not_eq_true, mafDeviceIpMap_isSome]
      rintro ⟨mafDevice, hmem, hip⟩
      exact hmiss mafDevice hmem hip
    unfold DevicePass.deleteMissing
    rw [hnone, hin]
    exact hat s hs
  · have hstart := foldlRecOn orders.missing
      (DevicePass.deleteMissing (deviceEnv rules mafDevices orders)) hI
      fun s hs x _ => DevicePass.deleteMissing_rule hs fun _ _ => hIdelete s x.2 hs
    refine Loop.foldl_reaches hmem hstart
      (fun s hs mafDevice _ => DevicePass.followReport_rule hs
        (fun device' _ _ _ => hIdelete s device' hs) fun _ _ => hIcreate s _ hs)
      (fun s hs => ?_) fun s hs mafDevice _ => DevicePass.followReport_rule hs
        (fun device' _ _ _ => hQdelete s device' hs) fun _ _ => hQcreate s _ hs
    unfold DevicePass.followReport
    rw [hip, hin, halive, (actDeviceIpMap_iff h horders).2 ⟨id, hid, rfl⟩]
    exact hat s hs

omit h horders

end

end Monitor
end Sebastian

/-
# The caches of the monitor and core

A run is a sequence of passes over the devices and over the links, with whatever
is reported.  The caches are coherent as long as no pass over the devices deletes
one that a cached link ends at (`coherent_iff`): core deletes the link with the
device, and `updateTopologyDevice` leaves the entry of `currentLinkMap` behind.

The entry then counts as a link that exists, and its text can no longer be
found, so that no later pass removes it: where the device comes back, its link is
not created again (`not_coherent_lostDevice`).
-/

import Sebastian.Monitor.TopologyDevice

namespace Sebastian
namespace Monitor

open DevicePass List GoMap

/-! ### Runs -/

/-- A pass, with what is reported, what core answers and the orders in which maps are walked. -/
inductive Pass where
  | devices (rules : CoreRules) (mafDevices : List MafDevice) (orders : DeviceOrders)
  | links (rules : CoreRules) (mafLinks : GoMap DiffLink MafLink) (orders : LinkOrders)

/-- A pass leads from a state to a state. -/
def Topology.Step (m : Topology) : Pass → Topology → Prop
  | .devices rules mafDevices orders, m' =>
    orders.Walks m ∧ m' = updateTopologyDevice rules m mafDevices orders
  | .links rules mafLinks orders, m' =>
    (∀ k link, mafLinks k = some link → getMafLinkIdentifier link = k) ∧
      orders.Walks rules { m with mafLinksCache := mafLinks } ∧
      m' = updateTopologyLink rules { m with mafLinksCache := mafLinks } orders

/-- **A state in which a run can begin**, as the start of the monitoring leaves it. -/
structure Topology.Sound (m : Topology) : Prop where
  wellKept : m.WellKept
  devices : DevicesAgree m.currentDeviceMap m.core

/-- **The caches are coherent with core.** -/
structure Topology.Coherent (m : Topology) : Prop where
  inCore : ∀ k link, m.currentLinkMap k = some link →
    ∃ coreLink ∈ m.core.links, coreLink.id = link.id
  devices : ∀ k link, m.currentLinkMap k = some link →
    (m.currentDeviceMap link.sourceDeviceId).isSome = true ∧
      (m.currentDeviceMap link.destinationDeviceId).isSome = true
  canonical : ∀ k link, m.currentLinkMap k = some link →
    getActLinkStr link.toLinkConf m.currentDeviceMap = some k

/-- A cached link ends at the device. -/
def Topology.Used (m : Topology) (id : ℤ) : Prop :=
  ∃ k link, m.currentLinkMap k = some link ∧ link.Touches id

/-- **The pass deletes no device that a cached link ends at**: each of them is in the baseline, or
reported and alive wherever it is reported, or core refuses to delete it. -/
def Pass.KeepsUsed (m : Topology) : Pass → Prop
  | .devices rules mafDevices _ =>
    ∀ id device, m.Used id → m.currentDeviceMap id = some device → ¬m.Lost rules mafDevices device
  | .links .. => True

/-- The address is reported with a model name, and alive wherever it is reported. -/
def AliveIn (mafDevices : List MafDevice) (ip : IpAddress) : Prop :=
  (∃ mafDevice ∈ mafDevices, mafDevice.ip = ip ∧ mafDevice.hasModelName = true) ∧
    ∀ mafDevice ∈ mafDevices, mafDevice.ip = ip → mafDevice.isAlive = true

instance (mafDevices : List MafDevice) (ip : IpAddress) : Decidable (AliveIn mafDevices ip) :=
  inferInstanceAs (Decidable (_ ∧ _))

/-- Core creates every device that it can take, with an id that none of the devices had. -/
def CoreRules.AcceptsDevices (rules : CoreRules) (D : GoMap ℤ ActDevice) : Prop :=
  (∀ core ip, rules.acceptsDevice core ip = true) ∧
    ∀ core id, (D id).isSome = true → rules.newDeviceId core ≠ id

/-- **A pass over the devices and one over the links bring a link back**: if it is up and both its
devices are reported alive, then core has it. -/
def Restores (m : Topology) : Pass → Topology → Pass → Topology → Prop
  | .devices rules mafDevices _, _, .links rules' _ _, m' =>
    rules.AcceptsDevices m.currentDeviceMap → rules'.Accepting →
      Disjoint m'.InBaseline → Disjoint m'.Up →
      ∀ u, m'.Up u → AliveIn mafDevices u.ip1 → AliveIn mafDevices u.ip2 →
        ∃ link ∈ m'.core.links, getActLinkStr link.toLinkConf m'.currentDeviceMap = some u
  | _, _, _, _ => True

/-! ### A pass over the devices -/

/-- **What holds throughout a pass over the devices**: those that are not lost stay, and the links
between them stay with them. -/
structure DevicePassInv (rules : CoreRules) (m : Topology) (mafDevices : List MafDevice)
    (s : DevicePass) : Prop where
  devices : DevicesAgree s.cache s.core
  kept : ∀ id device, m.currentDeviceMap id = some device → ¬m.Lost rules mafDevices device →
    s.cache id = some device
  links : s.core.links.Sublist m.core.links
  linksKept : ∀ link ∈ m.core.links, (∀ id device, link.Touches id →
    m.currentDeviceMap id = some device → ¬m.Lost rules mafDevices device) → link ∈ s.core.links

section
variable {rules : CoreRules} {m : Topology} {mafDevices : List MafDevice} {orders : DeviceOrders}
  {s : DevicePass} {device : ActDevice} {ip : IpAddress} {id : ℤ} {D : GoMap ℤ ActDevice}

theorem DevicePassInv.deleteDevice (h : DevicePassInv rules m mafDevices s)
    (hid : m.currentDeviceMap device.id = some device) (hdoomed : m.Doomed mafDevices device) :
    DevicePassInv rules m mafDevices (s.deleteDevice rules device) := by
  have hdevs := h.devices.deleteDevice rules device
  rcases s.deleteDevice_cases rules device with ⟨hsame, -⟩ | ⟨hdeletes, hdel⟩
  · rwa [hsame]
  · rw [hdel] at hdevs ⊢
    refine ⟨hdevs, fun id' device' hid' hkept => ?_, filter_sublist.trans h.links,
      fun link hlink hends => ?_⟩
    · show (if id' = device.id then none else s.cache id') = some device'
      rw [if_neg, h.kept id' device' hid' hkept]
      rintro rfl
      obtain rfl := Option.some.inj (hid.symm.trans hid')
      exact hkept ⟨hdoomed, hdeletes⟩
    · refine mem_filter.2 ⟨h.linksKept link hlink hends, decide_eq_true fun htouches => ?_⟩
      exact hends device.id device htouches hid ⟨hdoomed, hdeletes⟩

theorem DevicePassInv.createDevice (h : DevicePassInv rules m mafDevices s) :
    DevicePassInv rules m mafDevices (s.createDevice rules ip) := by
  have hdevs := h.devices.createDevice rules ip
  rcases s.createDevice_cases rules ip with ⟨hsame, -⟩ | ⟨-, hcreate⟩
  · rwa [hsame]
  · rw [hcreate] at hdevs ⊢
    refine ⟨hdevs, fun id' device' hid' hkept => ?_, h.links, h.linksKept⟩
    have hcache := h.kept id' device' hid' hkept
    obtain ⟨hmem, rfl⟩ := (h.devices.cached id' device').1 hcache
    exact (if_neg (rules.newDeviceId_fresh s.core device' hmem)).trans hcache

/-- **A pass over the devices.** -/
theorem Topology.Sound.devicePassInv (h : m.Sound) (rules : CoreRules)
    (mafDevices : List MafDevice) (hords : orders.Walks m) : DevicePassInv rules m mafDevices
      (loops (deviceEnv rules mafDevices orders) orders.missing mafDevices
        ⟨m.core, m.currentDeviceMap⟩) :=
  loops_rule h.devices hords
    ⟨h.devices, fun _ _ hid _ => hid, List.Sublist.refl _, fun _ hlink _ => hlink⟩
    (fun _ _ hs hid hdoomed => hs.deleteDevice hid hdoomed) fun _ _ hs => hs.createDevice

theorem getActLinkStr_mono {D D' : GoMap ℤ ActDevice} {link : LinkConf} {k : DiffLink}
    (h : getActLinkStr link D = some k)
    (hkept : ∀ id device, link.Touches id → D id = some device → D' id = some device) :
    getActLinkStr link D' = some k := by
  obtain ⟨src, dst, ⟨hsrc, hdst⟩, hrest⟩ := getActLinkStr_eq_some.1 h
  exact getActLinkStr_eq_some.2
    ⟨src, dst, ⟨hkept _ src (.inl rfl) hsrc, hkept _ dst (.inr rfl) hdst⟩, hrest⟩

/-- **A pass that keeps the devices of the cached links** leads to a state of the same kind. -/
theorem Topology.Sound.updateTopologyDevice (h : m.Sound) (hords : orders.Walks m)
    (hkeeps : (Pass.devices rules mafDevices orders).KeepsUsed m) :
    (updateTopologyDevice rules m mafDevices orders).Sound := by
  have hinv := h.devicePassInv rules mafDevices hords
  have hends : ∀ k link, m.currentLinkMap k = some link → ∀ id device, link.Touches id →
      m.currentDeviceMap id = some device → ¬m.Lost rules mafDevices device :=
    fun k link hlink id device htouches => hkeeps id device ⟨k, link, hlink, htouches⟩
  refine ⟨⟨h.wellKept.wellFormed.sublist hinv.links, hinv.devices.known, h.wellKept.baseline,
    h.wellKept.mafLinks, ⟨fun k link hlink => ?_, fun link hlink => ?_⟩⟩, hinv.devices⟩
  · obtain ⟨hstr, hmem⟩ := h.wellKept.agrees.stored k link hlink
    refine ⟨getActLinkStr_mono hstr fun id device htouches hid => ?_,
      hinv.linksKept link hmem (hends k link hlink)⟩
    exact hinv.kept id device hid (hends k link hlink id device htouches hid)
  · exact h.wellKept.agrees.cached link (hinv.links.subset hlink)

/-- The project has no link at the device. -/
def DevicePass.Bare (s : DevicePass) (id : ℤ) : Prop := ∀ link ∈ s.core.links, ¬link.Touches id

theorem DevicePass.Bare.deleteDevice (h : s.Bare id) : (s.deleteDevice rules device).Bare id := by
  rcases s.deleteDevice_cases rules device with ⟨hsame, -⟩ | ⟨-, hdel⟩
  · rwa [hsame]
  · rw [hdel]
    exact fun link hlink => h link (mem_filter.1 hlink).1

theorem DevicePass.Bare.createDevice (h : s.Bare id) : (s.createDevice rules ip).Bare id := by
  rcases s.createDevice_cases rules ip with ⟨hsame, -⟩ | ⟨-, hcreate⟩
  · rwa [hsame]
  · rw [hcreate]
    exact h

/-- Either core has the device, or it has no link at it any more. -/
def DevicePass.HasOrBare (s : DevicePass) (id : ℤ) : Prop :=
  (∃ device ∈ s.core.devices, device.id = id) ∨ s.Bare id

theorem DevicePass.HasOrBare.deleteDevice (h : s.HasOrBare id) :
    (s.deleteDevice rules device).HasOrBare id := by
  rcases h with ⟨other, hother, rfl⟩ | hbare
  · rcases s.deleteDevice_cases rules device with ⟨hsame, -⟩ | ⟨-, hdel⟩
    · rw [hsame]
      exact .inl ⟨other, hother, rfl⟩
    · rw [hdel]
      by_cases heq : other.id = device.id
      · refine .inr fun link hlink => ?_
        rw [heq]
        exact of_decide_eq_true (mem_filter.1 hlink).2
      · exact .inl ⟨other, mem_filter.2 ⟨hother, decide_eq_true heq⟩, rfl⟩
  · exact .inr hbare.deleteDevice

theorem DevicePass.HasOrBare.createDevice (h : s.HasOrBare id) :
    (s.createDevice rules ip).HasOrBare id := by
  rcases h with ⟨other, hother, rfl⟩ | hbare
  · rcases s.createDevice_cases rules ip with ⟨hsame, -⟩ | ⟨-, hcreate⟩
    · rw [hsame]
      exact .inl ⟨other, hother, rfl⟩
    · rw [hcreate]
      exact .inl ⟨other, mem_append_left _ hother, rfl⟩
  · exact .inr hbare.createDevice

/-- A device that core does not refuse to delete leaves no link behind. -/
theorem DevicePass.HasOrBare.bare_deleteDevice (h : s.HasOrBare device.id)
    (hdeletes : rules.deletesDevice device.id = true) :
    (s.deleteDevice rules device).Bare device.id := by
  rcases s.deleteDevice_cases rules device with ⟨hsame, habsent | hrefused⟩ | ⟨-, hdel⟩
  · rw [hsame]
    exact h.resolve_left fun ⟨other, hother, heq⟩ => habsent other hother heq
  · exact nomatch hrefused.symm.trans hdeletes
  · rw [hdel]
    exact fun link hlink => of_decide_eq_true (mem_filter.1 hlink).2

/-- **A device that is lost takes its links with it.** -/
theorem Topology.Sound.links_lost (h : m.Sound) (hords : orders.Walks m)
    (hid : m.currentDeviceMap id = some device) (hlost : m.Lost rules mafDevices device) :
    ∀ link ∈ (Monitor.updateTopologyDevice rules m mafDevices orders).core.links,
      ¬link.Touches id := by
  obtain ⟨hmem, rfl⟩ := (h.devices.cached id device).1 hid
  exact DevicePass.loops_reaches (I := fun s => s.HasOrBare device.id)
    (Q := fun s => s.Bare device.id) h.devices hords hid hlost.1 (.inl ⟨device, hmem, rfl⟩)
    (fun _ _ hs => hs.deleteDevice) (fun _ _ hs => hs.createDevice)
    (fun _ hs => hs.bare_deleteDevice hlost.2) (fun _ _ hs => hs.deleteDevice)
    fun _ _ hs => hs.createDevice

/-- The devices of core are those of before the pass, or have new ids. -/
def DevicePass.Genuine (D : GoMap ℤ ActDevice) (s : DevicePass) : Prop :=
  ∀ device ∈ s.core.devices, D device.id = some device ∨ D device.id = none

/-- The pass has created a device at the address. -/
def DevicePass.Created (D : GoMap ℤ ActDevice) (ip : IpAddress) (s : DevicePass) : Prop :=
  ∃ device ∈ s.core.devices, device.ipAddress = ip ∧ D device.id = none

theorem DevicePass.Genuine.deleteDevice (h : s.Genuine D) :
    (s.deleteDevice rules device).Genuine D := by
  rcases s.deleteDevice_cases rules device with ⟨hsame, -⟩ | ⟨-, hdel⟩
  · rwa [hsame]
  · rw [hdel]
    exact fun d hd => h d (mem_filter.1 hd).1

theorem CoreRules.AcceptsDevices.new_eq_none (h : rules.AcceptsDevices D) (core : CoreProject) :
    D (rules.newDeviceId core) = none := by
  cases hnew : D (rules.newDeviceId core) with
  | none => rfl
  | some device => exact absurd rfl (h.2 core _ (by rw [hnew]; rfl))

theorem DevicePass.Genuine.createDevice (h : s.Genuine D) (hrules : rules.AcceptsDevices D) :
    (s.createDevice rules ip).Genuine D := by
  rcases s.createDevice_cases rules ip with ⟨hsame, -⟩ | ⟨-, hcreate⟩
  · rwa [hsame]
  · rw [hcreate]
    intro d hd
    rcases mem_append.1 hd with hd | hd
    · exact h d hd
    · rw [mem_singleton.1 hd]
      exact .inr (hrules.new_eq_none s.core)

/-- A device that was there before the pass is not one that the pass has created. -/
theorem DevicePass.Created.deleteDevice (h : s.Created D ip) (hid : D device.id = some device) :
    (s.deleteDevice rules device).Created D ip := by
  obtain ⟨d, hd, hip, hnew⟩ := h
  rcases s.deleteDevice_cases rules device with ⟨hsame, -⟩ | ⟨-, hdel⟩
  · rw [hsame]
    exact ⟨d, hd, hip, hnew⟩
  · rw [hdel]
    refine ⟨d, mem_filter.2 ⟨hd, decide_eq_true fun heq => ?_⟩, hip, hnew⟩
    rw [heq, hid] at hnew
    cases hnew

theorem DevicePass.Created.createDevice {ip' : IpAddress} (h : s.Created D ip) :
    (s.createDevice rules ip').Created D ip := by
  obtain ⟨d, hd, hrest⟩ := h
  rcases s.createDevice_cases rules ip' with ⟨hsame, -⟩ | ⟨-, hcreate⟩
  · rw [hsame]
    exact ⟨d, hd, hrest⟩
  · rw [hcreate]
    exact ⟨d, mem_append_left _ hd, hrest⟩

/-- Where no device had the address, core has one that the pass has created. -/
theorem DevicePass.Genuine.created (h : s.Genuine D) (hrules : rules.AcceptsDevices D)
    (hnone : ¬∃ id device, D id = some device ∧ device.ipAddress = ip) :
    (s.createDevice rules ip).Created D ip := by
  rcases s.createDevice_cases rules ip with ⟨hsame, ⟨d, hd, hip⟩ | hrefused⟩ | ⟨-, hcreate⟩
  · rw [hsame]
    refine ⟨d, hd, hip, (h d hd).resolve_left fun hold => hnone ⟨d.id, d, hold, hip⟩⟩
  · exact nomatch hrefused.symm.trans (hrules.1 s.core ip)
  · rw [hcreate]
    exact ⟨_, mem_append_right _ mem_cons_self, rfl, hrules.new_eq_none s.core⟩

/-- **A device that is reported alive is there after the pass.** -/
theorem Topology.Sound.exists_of_alive (h : m.Sound) (hords : orders.Walks m)
    (hrules : rules.AcceptsDevices m.currentDeviceMap) (halive : AliveIn mafDevices ip) :
    ∃ id device, (Monitor.updateTopologyDevice rules m mafDevices orders).currentDeviceMap id =
      some device ∧ device.ipAddress = ip := by
  have hinv := h.devicePassInv rules mafDevices hords
  obtain ⟨⟨mafDevice, hmem, rfl, hmodel⟩, hreport⟩ := halive
  by_cases hthere : ∃ id device, m.currentDeviceMap id = some device ∧
      device.ipAddress = mafDevice.ip
  · obtain ⟨id, device, hid, hip⟩ := hthere
    refine ⟨id, device, hinv.kept id device hid fun hlost => ?_, hip⟩
    rcases hlost.1.2 with hmiss | ⟨other, hother, heq, hdead⟩
    · exact hmiss mafDevice hmem hip.symm
    · exact nomatch hdead.symm.trans (hreport other hother (heq.trans hip))
  · have hfind : (deviceEnv rules mafDevices orders).actDeviceIpMap mafDevice.ip = none := by
      cases hfind : (deviceEnv rules mafDevices orders).actDeviceIpMap mafDevice.ip with
      | none => rfl
      | some device =>
        obtain ⟨id, hid⟩ := (actDeviceIpMap_iff h.devices hords).1 hfind
        exact absurd ⟨id, device, hid⟩ hthere
    have hmiss := foldlRecOn orders.missing
      (deleteMissing (deviceEnv rules mafDevices orders))
      (motive := DevicePass.Genuine m.currentDeviceMap)
      (b := ⟨m.core, m.currentDeviceMap⟩)
      (fun d hd => .inl ((h.devices.cached d.id d).2 ⟨hd, rfl⟩))
      fun s hs x _ => DevicePass.deleteMissing_rule hs fun _ _ => hs.deleteDevice
    have hcreated := Loop.foldl_reaches (Q := DevicePass.Created m.currentDeviceMap mafDevice.ip)
      (f := DevicePass.followReport (deviceEnv rules mafDevices orders)) hmem hmiss
      (fun s hs x _ => DevicePass.followReport_rule hs (fun _ _ _ _ => hs.deleteDevice)
        fun _ _ => hs.createDevice hrules)
      (fun s hs => by
        unfold DevicePass.followReport
        rw [hfind, hreport mafDevice hmem rfl, hmodel]
        exact hs.created hrules hthere)
      fun s hs x _ => DevicePass.followReport_rule hs (fun device hfound _ _ => by
        obtain ⟨id, hid, -⟩ := (actDeviceIpMap_iff h.devices hords).1 hfound
        obtain rfl := h.devices.known.keyed id device hid
        exact hs.deleteDevice hid) fun _ _ => hs.createDevice
    obtain ⟨device, hdev, hip, -⟩ := hcreated
    exact ⟨device.id, device, (hinv.devices.cached _ _).2 ⟨hdev, rfl⟩, hip⟩

end

/-! ### A pass over the links -/

section
variable {rules : CoreRules} {m m' : Topology} {orders : LinkOrders} {D : GoMap ℤ ActDevice}
  {core core' : CoreProject} {pass pass' : Pass}

theorem DevicesAgree.congr (h : DevicesAgree D core) (hdevs : core'.devices = core.devices) :
    DevicesAgree D core' := by
  constructor
  · rw [hdevs]
    exact h.cached
  · rw [hdevs]
    exact h.ip_inj

theorem Topology.Sound.report (h : m.Sound) {mafLinks : GoMap DiffLink MafLink}
    (hkeyed : ∀ k link, mafLinks k = some link → getMafLinkIdentifier link = k) :
    { m with mafLinksCache := mafLinks }.Sound :=
  ⟨⟨h.wellKept.wellFormed, h.wellKept.devices, h.wellKept.baseline, hkeyed, h.wellKept.agrees⟩,
    h.devices⟩

/-- **A pass over the links** leads to a state of the same kind, whatever is reported. -/
theorem Topology.Sound.updateTopologyLink (h : m.Sound) (hords : orders.Walks rules m) :
    (updateTopologyLink rules m orders).Sound :=
  ⟨h.wellKept.after_pass hords, h.devices.congr (devices_phases orders)⟩

/-! ### Runs of passes -/

theorem Topology.Sound.coherent (h : m.Sound) : m.Coherent where
  inCore := fun k link hlink => ⟨link, (h.wellKept.agrees.stored k link hlink).2, rfl⟩
  devices := fun k link hlink => by
    obtain ⟨src, dst, ⟨hsrc, hdst⟩, -⟩ :=
      getActLinkStr_eq_some.1 (h.wellKept.agrees.stored k link hlink).1
    exact ⟨Option.isSome_iff_exists.2 ⟨src, hsrc⟩, Option.isSome_iff_exists.2 ⟨dst, hdst⟩⟩
  canonical := fun k link hlink => (h.wellKept.agrees.stored k link hlink).1

/-- **One pass.** -/
theorem Topology.Sound.step (h : m.Sound) (hstep : m.Step pass m') (hkeeps : pass.KeepsUsed m) :
    m'.Sound := by
  cases pass with
  | devices rules mafDevices orders =>
    obtain ⟨hords, rfl⟩ := hstep
    exact h.updateTopologyDevice hords hkeeps
  | links rules mafLinks orders =>
    obtain ⟨hkeyed, hords, rfl⟩ := hstep
    exact (h.report hkeyed).updateTopologyLink hords

/-- **A pass that deletes a device of a cached link shows**: core does not have the link any
more. -/
theorem Topology.Sound.keepsUsed_of_coherent (h : m.Sound) (hstep : m.Step pass m')
    (hcoherent : m'.Coherent) : pass.KeepsUsed m := by
  cases pass with
  | devices rules mafDevices orders =>
    obtain ⟨hords, rfl⟩ := hstep
    rintro id device ⟨k, link, hlink, htouches⟩ hid hlost
    have hinv := h.devicePassInv rules mafDevices hords
    obtain ⟨coreLink, hmem, heq⟩ := hcoherent.inCore k link hlink
    obtain rfl := h.wellKept.wellFormed.eq_of_id (hinv.links.subset hmem)
      (h.wellKept.agrees.stored k link hlink).2 heq
    exact h.links_lost hords hid hlost coreLink hmem htouches
  | links rules mafLinks orders => trivial

/-- **A link comes back.**  After a pass over the devices and one over the links core has every
link that is up between devices that are reported alive. -/
theorem Topology.Sound.restores {m₁ m₂ : Topology} (h : m.Sound) (h₁ : m₁.Sound)
    (hstep : m.Step pass m₁) (hstep' : m₁.Step pass' m₂) : Restores m pass m₁ pass' m₂ := by
  cases pass with
  | links rules mafLinks orders => trivial
  | devices rules mafDevices orders =>
    cases pass' with
    | devices rules' mafDevices' orders' => trivial
    | links rules' mafLinks orders' =>
      obtain ⟨hords, rfl⟩ := hstep
      obtain ⟨hkeyed, hords', rfl⟩ := hstep'
      intro hrules haccepting hbase hup u hu halive halive'
      have hconverged := converged_updateTopologyLink rules' _ orders' (h₁.report hkeyed).wellKept
        hords' haccepting hbase hup
      obtain ⟨link, hlink⟩ := (hconverged.required u).2 (.inl ⟨hu,
        h.exists_of_alive hords hrules halive, h.exists_of_alive hords hrules halive'⟩)
      obtain ⟨hstr, hmem⟩ := hconverged.agrees.stored u link hlink
      exact ⟨link, hmem, hstr⟩

/-- **The caches stay coherent, and links come back, exactly in the runs in which no pass over the
devices deletes one that a cached link ends at.** -/
theorem coherent_iff (m : Topology) (run : List (Pass × Topology)) (hm : m.Sound)
    (hrun : Along Topology.Step m run) :
    ((∀ t ∈ statesOfRun m run, t.Coherent) ∧ AlongPairs Restores m run) ↔
      Along (fun t pass _ => pass.KeepsUsed t) m run := by
  have hiff : (∀ t ∈ statesOfRun m run, t.Coherent) ↔
      Along (fun t pass _ => pass.KeepsUsed t) m run :=
    hrun.iff_along (I := Topology.Sound) hm (fun _ ht => ht.coherent)
      (fun _ _ _ hstep ht hkeeps => ht.step hstep hkeeps)
      fun _ _ _ hstep ht hcoherent => ht.keepsUsed_of_coherent hstep hcoherent
  refine ⟨fun h => hiff.1 h.1, fun h => ⟨hiff.2 h, ?_⟩⟩
  have hsound := (Along.and_iff.2 ⟨hrun, h⟩).rule hm fun _ _ _ hstep ht => ht.step hstep.1 hstep.2
  exact hrun.pairs hsound fun _ _ _ _ _ ht ht' hstep hstep' => ht.restores ht' hstep hstep'

end

/-! ### A device that disappears and comes back -/

/-- Two devices that are not in the baseline, with some links between them. -/
def twoAlive (links : List (DiffLink × ActLink)) : Topology where
  core := ⟨twoDevices.map (·.2), links.map (·.2), 0⟩
  mafLinksCache := .empty
  baselineDeviceMap := .empty
  baselineLinkMap := .empty
  currentDeviceMap := GoMap.empty.setAll twoDevices
  currentLinkMap := GoMap.empty.setAll links

/-- The first device is not reported. -/
def disappears : Pass :=
  .devices .accepting [⟨⟨0xffff0a000002⟩, true, true⟩] ⟨twoDevices, [], twoDevices⟩

/-- Both devices are reported; the first one gets a new id. -/
def comesBack : Pass :=
  .devices .accepting [⟨⟨0xffff0a000001⟩, true, true⟩, ⟨⟨0xffff0a000002⟩, true, true⟩]
    ⟨[(2, ⟨2, ⟨0xffff0a000002⟩⟩)], [], [(2, ⟨2, ⟨0xffff0a000002⟩⟩)]⟩

/-- The two devices, after that. -/
def twoDevicesAgain : List (ℤ × ActDevice) :=
  [(50001, ⟨50001, ⟨0xffff0a000001⟩⟩), (2, ⟨2, ⟨0xffff0a000002⟩⟩)]

/-- The link at port 1 is reported up. -/
def linkIsUp (links : List (DiffLink × ActLink)) : Pass :=
  .links .accepting (GoMap.empty.setAll [(straight 1, straightMafLink 1)]) {
    baselineLinks := []
    mafLinks := [(straight 1, straightMafLink 1)]
    currentDevices := twoDevicesAgain
    diff := {
      checkBaseline := []
      checkActual := [(straight 1, straight 1)]
      baselineEndpoints := []
      unchanged := []
      new := [(straight 1, straight 1)]
      rewired := [(straight 1, straight 1)] }
    endpoints := links
    stale := links
    unchanged := []
    new := [(straight 1, straight 1)]
    rewired := []
    readd := []
    srcDevices := fun _ => twoDevicesAgain
    dstDevices := fun _ => twoDevicesAgain }

/-- The state after a pass. -/
def Topology.after (m : Topology) : Pass → Topology
  | .devices rules mafDevices orders => updateTopologyDevice rules m mafDevices orders
  | .links rules mafLinks orders =>
    updateTopologyLink rules { m with mafLinksCache := mafLinks } orders

/-- The run of the three passes. -/
def comesBackRun (links : List (DiffLink × ActLink)) : List (Pass × Topology) :=
  runOf Topology.after (twoAlive links) [disappears, comesBack, linkIsUp links]

theorem along_comesBackRun {links : List (DiffLink × ActLink)} (h : (links.map (·.1)).Nodup) :
    Along Topology.Step (twoAlive links) (comesBackRun links) := by
  have hall := ranges_setAll (l := twoDevices) (by decide)
  have hone := hall.delete 1
  have htwo := hone.set (k := 50001) (by decide) (⟨50001, ⟨0xffff0a000001⟩⟩ : ActDevice)
  have hnone : (empty : GoMap ℤ ActDevice).Ranges [] :=
    ranges_setAll (l := []) (by decide)
  have hnoLink : (empty : GoMap DiffLink ActLink).Ranges [] :=
    ranges_setAll (l := []) (by decide)
  have hup : ([(straight 1, straight 1)].map (·.1)).Nodup := by decide
  have hnil : (([] : List (DiffLink × DiffLink)).map (·.1)).Nodup := by decide
  refine ⟨⟨⟨hall, hnone, hall⟩, rfl⟩, ⟨⟨hone, hnone, hone⟩, rfl⟩, ⟨?_, ?_, rfl⟩, trivial⟩
  · exact fun k link hlink => forall_setAll
      (P := fun k link => getMafLinkIdentifier link = k) (by decide) hlink
  · exact {
      baselineLinks := hnoLink
      mafLinks := ranges_setAll (l := [(straight 1, straightMafLink 1)]) (by decide)
      currentDevices := htwo
      diff := {
        checkBaseline := ranges_of_eq rfl hnil
        checkActual := ranges_of_eq rfl hup
        baselineEndpoints := ranges_of_eq rfl hnil
        unchanged := ranges_of_eq rfl hnil
        new := ranges_of_eq rfl hup
        rewired := ranges_of_eq rfl hup }
      endpoints := ranges_setAll h
      stale := ranges_setAll h
      unchanged := ranges_of_eq rfl hnil
      new := ranges_of_eq rfl hup
      rewired := ranges_of_eq rfl hnil
      readd := hnoLink
      srcDevices := fun _ => htwo
      dstDevices := fun _ => htwo }

/-- The monitoring of the two devices can begin. -/
theorem sound_twoAlive {links : List (DiffLink × ActLink)} (h : (links.map (·.1)).Nodup)
    (hlinks : ∀ x ∈ links,
      getActLinkStr x.2.toLinkConf (empty.setAll twoDevices) = some x.1)
    (hcore : (twoAlive links).core.WellFormed) : (twoAlive links).Sound where
  wellKept := {
    wellFormed := hcore
    devices := knownDevices_twoDevices _ _
    baseline := nofun
    mafLinks := nofun
    agrees := {
      stored := fun k link hk => by
        have hmem := ((ranges_setAll h).mem k link).2 hk
        exact ⟨hlinks _ hmem, mem_map_of_mem (f := (·.2)) hmem⟩
      cached := fun link hlink => by
        obtain ⟨x, hx, rfl⟩ := mem_map.1 hlink
        exact ⟨x.1, ((ranges_setAll h).mem x.1 x.2).1 hx⟩ } }
  devices := {
    cached := fun id device => by
      have hmem : ∀ x ∈ twoDevices, x.2.id = x.1 := by decide
      refine ((ranges_setAll (l := twoDevices) (by decide)).mem id device).symm.trans ?_
      constructor
      · intro hid
        exact ⟨mem_map_of_mem (f := (·.2)) hid, hmem _ hid⟩
      · rintro ⟨hdev, rfl⟩
        obtain ⟨x, hx, rfl⟩ := mem_map.1 hdev
        rw [hmem x hx]
        exact hx
    ip_inj := by
      show ∀ device ∈ twoDevices.map (·.2), ∀ device' ∈ twoDevices.map (·.2),
        device.ipAddress = device'.ipAddress → device = device'
      decide }

/-- **A link between two devices, one of which disappears and comes back, is not restored.** -/
theorem not_coherent_lostDevice : (twoAlive [(straight 1, straightLink 50001 1)]).Sound ∧
      Along Topology.Step (twoAlive [(straight 1, straightLink 50001 1)])
        (comesBackRun [(straight 1, straightLink 50001 1)]) ∧
      (∃ t ∈ statesOfRun (twoAlive [(straight 1, straightLink 50001 1)])
        (comesBackRun [(straight 1, straightLink 50001 1)]), ¬t.Coherent) ∧
      ¬AlongPairs Restores (twoAlive [(straight 1, straightLink 50001 1)])
        (comesBackRun [(straight 1, straightLink 50001 1)]) := by
  refine ⟨sound_twoAlive (by decide) (by decide) (pairwise_singleton _ _),
    along_comesBackRun (by decide), ⟨_, mem_cons_of_mem _ mem_cons_self, ?_⟩, ?_⟩
  · intro hcoherent
    obtain ⟨coreLink, hmem, -⟩ := hcoherent.inCore (straight 1) (straightLink 50001 1) rfl
    revert coreLink
    decide
  · rintro ⟨-, hrestores, -⟩
    have hup : ∀ k, ((twoAlive [(straight 1, straightLink 50001 1)]).after disappears |>.after
        comesBack |>.after (linkIsUp [(straight 1, straightLink 50001 1)])).Up k →
        k = straight 1 := by
      rintro k ⟨-, x, link, hlink, -, rfl⟩
      exact forall_setAll (P := fun _ link => getMafLinkIdentifier link = straight 1)
        (by decide) hlink
    have hnew : CoreRules.accepting.AcceptsDevices
        ((twoAlive [(straight 1, straightLink 50001 1)]).after disappears).currentDeviceMap := by
      refine ⟨fun _ _ => rfl, fun core id hid heq => ?_⟩
      have hlarge : 50000 < CoreRules.accepting.newDeviceId core := large_idAfter _
      obtain ⟨device, hdev⟩ := Option.isSome_iff_exists.1 hid
      have hmem := (((ranges_setAll (l := twoDevices) (by decide)).delete 1).mem id device).2
        hdev
      have hsmall : ∀ x ∈ twoDevices.filter (·.1 ≠ 1), x.1 ≤ 50000 := by decide
      have := hsmall _ hmem
      omega
    obtain ⟨link, hmem, -⟩ := hrestores hnew CoreRules.accepting_accepting
      (fun _ _ ⟨_, hk⟩ => nomatch hk) (fun k k' hk hk' _ => (hup k hk).trans (hup k' hk').symm)
      (straight 1) ⟨rfl, straight 1, straightMafLink 1, rfl, rfl, rfl⟩ (by decide) (by decide)
    revert link
    decide

/-- Where the device had no link when it disappeared, the link that comes up afterwards is
created. -/
theorem coherent_comesBack :
    ((∀ t ∈ statesOfRun (twoAlive []) (comesBackRun []), t.Coherent) ∧
      AlongPairs Restores (twoAlive []) (comesBackRun [])) ∧
      (((twoAlive []).after disappears).after comesBack |>.after (linkIsUp [])).core.links =
        [⟨⟨50001, 1, 2, 1, 1000⟩, 50001⟩] := by
  have hnone : ∀ id, ¬(twoAlive []).Used id := fun _ ⟨_, _, hk, _⟩ => nomatch hk
  refine ⟨(coherent_iff (twoAlive []) (comesBackRun [])
    (sound_twoAlive (by decide) (by decide) List.Pairwise.nil)
    (along_comesBackRun (by decide))).2 ⟨?_, ?_, trivial, trivial⟩, by decide⟩
  · exact fun id _ hused => absurd hused (hnone id)
  · exact fun id _ hused => absurd hused (hnone id)

end Monitor
end Sebastian

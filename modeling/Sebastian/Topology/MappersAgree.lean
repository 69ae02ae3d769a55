/-
# The two topology mappings agree

The mapper of the service (`TopologyMapper.mappingTopology`) and the one of the core
(`TopologyMapping.mappingTopology`) are written apart and walk in lock step
(`mappingRound_together`): round by round they have the same queue, the same partner at
hand and results that say the same (`SameVars`).  They do as long as they choose the
same devices to be mapped, and there they differ: the core compares the vendor of a
device with the number 8691, the service with its text.  Their reports agree exactly
when the choice does, or neither gets past its first device
(`outcomesAgree_iff_vendorsByName`).
-/

import Sebastian.Topology.MappingReport
import Sebastian.Topology.TopologyMapper

namespace Sebastian
namespace TopologyMapper

open List QMap Std.TreeMap

open TopologyMapping (MapTopology MappingInput MappingSearch MapDeviceResultItem MappingPair
  Networks NetworkWellFormed offlineMappingDeviceSet builtInPowerOf DeviceMapStatus Addressed
  NumberFormats SourceMissing WalkInv dequeuedPartner deviceLinksMap enterPair findDevice
  findDevice_of_mem findPair finishResults_eq_some initialSearch mem_deviceLinksMap
  mem_offlineMappingDeviceSet mem_sortReport moxaSwitch offlineLeaveMap onlineLeaveMap oppositePair
  skippedOnlineDeviceId walkMeasure)

/-! ### The same networks -/

/-- A map of modules that was made, with the modules of the core. -/
def SameModules (shown : Option (QMap ℤ ℤ)) (modules : QMap ℤ ℤ) : Prop :=
  ∃ made, shown = some made ∧ made.toList = modules.toList

/-- **A device of both**, as far as the walk looks at it: its built-in power is the one of
its profile. -/
structure SameHardware (input : MappingInput) (device : Device) (shown : MappingDevice) :
    Prop where
  id : shown.id = device.id
  ipAddress : shown.ipAddress = device.ipAddress
  modelName : shown.modelName = device.deviceProperty.modelName
  power : SameModules shown.modularConfiguration.power device.modularConfiguration.power
  ethernet : SameModules shown.modularConfiguration.ethernet device.modularConfiguration.ethernet
  builtInPower : builtInPowerOf input device = .ok shown.builtInPower

/-- **The same device**, of the same vendor and type. -/
structure SameDevice (input : MappingInput) (device : Device) (shown : MappingDevice) : Prop
    extends SameHardware input device shown where
  vendor : shown.vendor = device.deviceProperty.vendor
  deviceType : shown.deviceType = device.deviceType

/-- A link of the core, as the service holds it. -/
def shownLink (link : Link) : MappingLink where
  id := link.id
  sourceDeviceId := link.sourceDeviceId
  sourceInterfaceId := link.sourceInterfaceId
  destinationDeviceId := link.destinationDeviceId
  destinationInterfaceId := link.destinationInterfaceId

/-- **The same topology**, device by device and link by link. -/
structure ShownAs (R : Device → MappingDevice → Prop) (topology : MapTopology)
    (shown : MappingTopology) : Prop where
  devices : List.Forall₂ R topology.devices shown.devices
  links : shown.links = topology.links.map shownLink
  source : shown.sourceDeviceId = topology.sourceDeviceId

variable {input : MappingInput} {offline online : MappingTopology} {topology : MapTopology}
  {shown : MappingTopology} {R : Device → MappingDevice → Prop}

theorem ShownAs.imp {S : Device → MappingDevice → Prop} (h : ShownAs R topology shown)
    (himp : ∀ device shownDevice, R device shownDevice → S device shownDevice) :
    ShownAs S topology shown :=
  ⟨h.devices.imp himp, h.links, h.source⟩

/-- Maps that were made are equal when their modules are. -/
theorem equalMapStringInt64_iff {a b : Option (QMap ℤ ℤ)} {m n : QMap ℤ ℤ} (ha : SameModules a m)
    (hb : SameModules b n) : equalMapStringInt64 a b = true ↔ m.toList = n.toList := by
  obtain ⟨made, rfl, hmade⟩ := ha
  obtain ⟨made', rfl, hmade'⟩ := hb
  rw [← hmade, ← hmade']
  unfold equalMapStringInt64
  rw [Bool.and_eq_true, beq_iff_eq, all_eq_true]
  constructor
  · rintro ⟨hsize, hall⟩
    exact toList_eq_of_size hsize fun p hp => by simpa using hall p hp
  · intro h
    refine ⟨?_, fun p hp => ?_⟩
    · rw [← length_toList, h, length_toList]
    · rw [h] at hp
      simpa using mem_toList_iff_getElem?_eq_some.1 hp

/-- **Both find the same wrong with a pair.** -/
theorem checkDeviceError_same {device partner : Device} {shown shown' : MappingDevice}
    (h : SameHardware input device shown) (h' : SameHardware input partner shown') (power : Bool) :
    checkDeviceError shown shown' power =
      TopologyMapping.checkDeviceError device partner power := by
  have hpower := equalMapStringInt64_iff h.power h'.power
  have hethernet := equalMapStringInt64_iff h.ethernet h'.ethernet
  unfold checkDeviceError TopologyMapping.checkDeviceError
  rw [h.modelName, h'.modelName]
  simp only [Bool.and_eq_true, Bool.not_eq_true', Bool.eq_false_iff, ne_eq, hpower, hethernet,
    decide_not, decide_eq_true_eq]

/-! ### The same links -/

/-- A link joins those at a device in both, or in neither. -/
theorem appendLink_same (h : QSet.Distinct topology.links) {links : QSet Link} {link : Link}
    (hlinks : ∀ l ∈ links, l ∈ topology.links) (hlink : link ∈ topology.links) :
    appendLink (links.map shownLink) (shownLink link) =
      map shownLink (QSet.insert links link) := by
  have hex : linkExists (links.map shownLink) (shownLink link).id =
      QSet.contains links link := by
    unfold linkExists QSet.contains
    rw [any_map, Bool.eq_iff_iff, any_eq_true, any_eq_true]
    refine exists_congr fun l => and_congr_right fun hl => ?_
    rw [Function.comp_apply, beq_iff_eq]
    refine ⟨fun hid => Core.link_beq_iff.2 (.inl hid), fun hbeq => ?_⟩
    rw [h.eq_of_beq Core.link_beq_comm (hlinks l hl) hlink hbeq]
  unfold appendLink QSet.insert
  rw [hex]
  split_ifs
  · rfl
  · rw [map_append, map_singleton]

/-- **The links at a device are the same.** -/
theorem deviceLinks_same (hshown : ShownAs R topology shown) (h : QSet.Distinct topology.links)
    (x : ℤ) : (generateDeviceLinksMap shown).value x =
      map shownLink ((deviceLinksMap topology).value x) := by
  have hone : ∀ (m : QMap ℤ (QSet Link)) (m' : QMap ℤ (List MappingLink)) (y : ℤ) (link : Link),
      link ∈ topology.links → ((∀ x, ∀ l ∈ m.value x, l ∈ topology.links) ∧
        ∀ x, m'.value x = map shownLink (m.value x)) →
      (∀ x, ∀ l ∈ value (m.update y (QSet.insert · link)) x, l ∈ topology.links) ∧
        ∀ x, value (m'.update y (appendLink · (shownLink link))) x =
          map shownLink (value (m.update y (QSet.insert · link)) x) := by
    rintro m m' y link hlink ⟨hstored, hsame⟩
    refine ⟨fun x l hl => ?_, fun x => ?_⟩
    · rw [value_update] at hl
      split_ifs at hl
      · rcases (TopologyMapping.mem_insert_link h (hstored y) hlink).1 hl with hl | rfl
        · exact hstored y l hl
        · exact hlink
      · exact hstored x l hl
    · rw [value_update, value_update]
      split_ifs
      · rw [hsame, appendLink_same h (hstored y) hlink]
      · exact hsame x
  unfold generateDeviceLinksMap deviceLinksMap
  rw [hshown.links, foldl_map]
  refine (foldl_rel (r := fun (m' : QMap ℤ (List MappingLink)) (m : QMap ℤ (QSet Link)) =>
    (∀ x, ∀ l ∈ m.value x, l ∈ topology.links) ∧
      ∀ x, m'.value x = map shownLink (m.value x)) ?_ ?_).2 x
  · exact ⟨fun x l hl => by simp at hl, fun x => by simp⟩
  · intro link hlink m' m hm
    exact hone _ _ _ link hlink (hone _ _ _ link hlink hm)

/-- **The same devices lie behind the interfaces**, when the links join two devices. -/
theorem leaveMap_same {check : Bool} {x : ℤ} {links : QSet Link} {ids moxa : QSet ℤ}
    (hends : ∀ link ∈ links, link.sourceDeviceId ≠ link.destinationDeviceId)
    (hids : ∀ y, y ∈ ids ↔ y ∈ moxa) :
    generateLeaveInterfaceOppositeDeviceMap check x (links.map shownLink) ids =
      TopologyMapping.leaveInterfaceOppositeDeviceMap check x links moxa := by
  have hcont : ∀ y, QSet.contains ids y = QSet.contains moxa y := fun y =>
    Bool.eq_iff_iff.2 (by rw [QSet.contains_iff_mem, QSet.contains_iff_mem, hids])
  unfold generateLeaveInterfaceOppositeDeviceMap TopologyMapping.leaveInterfaceOppositeDeviceMap
  rw [foldl_map]
  refine foldl_rel (r := Eq) rfl fun link hlink m m' hm => ?_
  subst hm
  unfold leaveInterface TopologyMapping.leaveInterface shownLink
  dsimp only
  rw [hcont, hcont]
  by_cases hx : link.destinationDeviceId = x
  · -- the device is not at the other end as well
    have hsrc : ¬link.sourceDeviceId = x := fun he => hends link hlink (he.trans hx.symm)
    simp only [hsrc, false_and, if_false]
  · simp only [hx, false_and, if_false]

/-! ### The same devices -/

/-- **Both find a device, or neither.** -/
theorem findDevice_same (haddressed : Addressed topology.devices)
    (h : List.Forall₂ (SameHardware input) topology.devices shown.devices) (x : ℤ) :
    (findDevice topology.devices x = none ∧
      ∃ err, findDeviceById shown.devices x = .error err) ∨
    ∃ device shownDevice, findDevice topology.devices x = some device ∧
      findDeviceById shown.devices x = .ok shownDevice ∧
      SameHardware input device shownDevice := by
  have hfind : Option.Rel (SameHardware input) (findDevice topology.devices x)
      (shown.devices.find? (·.id == x)) := by
    unfold findDevice
    generalize topology.devices = devices at h haddressed
    generalize shown.devices = shownDevices at h
    induction h with
    | nil => exact .none
    | @cons device shownDevice devices shownDevices hsame _ ih =>
      have hip := haddressed device mem_cons_self
      have hbeq : (device == ({ id := x } : Device)) = (shownDevice.id == x) := by
        rw [Bool.eq_iff_iff, Core.device_beq_iff, hsame.id, beq_iff_eq]
        exact or_iff_left hip
      rw [find?_cons, find?_cons, hbeq]
      split
      · exact .some hsame
      · exact ih fun other hother => haddressed other (mem_cons_of_mem _ hother)
  unfold findDeviceById
  generalize findDevice topology.devices x = a at hfind ⊢
  generalize shown.devices.find? (·.id == x) = b at hfind ⊢
  cases hfind with
  | some hsame => exact .inr ⟨_, _, rfl, rfl, hsame⟩
  | none => exact .inl ⟨rfl, _, rfl⟩

/-! ### The walk in lock step -/

/-- **Two items that say the same**: of the message only whether there is one. -/
structure SameItem (item : MapDeviceResultItem) (shown : MappingDeviceResultItem) : Prop where
  offlineDeviceId : shown.offlineDeviceId = item.offlineDeviceId
  offlineIpAddress : shown.offlineIpAddress = item.offlineIpAddress
  onlineDeviceId : shown.onlineDeviceId = item.onlineDeviceId
  status : shown.status = item.status
  errorMessage : shown.errorMessage = "" ↔ item.errorMessage = ""

/-- Results that say the same, device by device. -/
def SameResults (results : QMap ℤ MapDeviceResultItem)
    (shown : QMap ℤ MappingDeviceResultItem) : Prop :=
  ∀ x : ℤ, Option.Rel SameItem results[x]? shown[x]?

/-- **The variables of the two walks say the same.** -/
structure SameVars (s : MappingSearch) (v : MapperVars) : Prop where
  queue : v.offlineDeviceIdQueue = s.queue
  onlineDeviceId : v.onlineDeviceId = s.onlineDeviceId
  results : SameResults s.results v.offlineDevicesResult
  found : v.foundOnlineDeviceIdMap = s.foundOnline
  mapped : v.onlineMappedDeviceIdMap = s.onlineMapped
  notFoundPort : v.offlineNotFoundPortDeviceIdMap = s.notFoundPort

/-- **What is held against what**: the same networks, and the same devices to be mapped. -/
structure Alike (input : MappingInput) (offline online : MappingTopology) : Prop where
  networks : Networks input
  mapping : ∀ x, x ∈ generateOfflineMappingDeviceMap offline ↔
    x ∈ offlineMappingDeviceSet input.offline
  offline : ShownAs (SameHardware input) input.offline offline
  online : ShownAs (SameHardware input) input.online online

variable {s : MappingSearch} {v : MapperVars} {results : QMap ℤ MapDeviceResultItem}
  {shownResults : QMap ℤ MappingDeviceResultItem} {device partner : Device}
  {shownDevice shownPartner : MappingDevice}

theorem SameResults.contains (h : SameResults results shownResults) (x : ℤ) :
    shownResults.contains x = results.contains x := by
  rw [contains_eq_isSome_getElem?, contains_eq_isSome_getElem?]
  have hx := h x
  generalize results[x]? = a at hx ⊢
  generalize shownResults[x]? = b at hx ⊢
  cases hx <;> rfl

theorem SameResults.insert (h : SameResults results shownResults) {item : MapDeviceResultItem}
    {shownItem : MappingDeviceResultItem} (hitem : SameItem item shownItem) (x : ℤ) :
    SameResults (results.insert x item) (shownResults.insert x shownItem) := by
  intro y
  rw [Std.TreeMap.getElem?_insert, Std.TreeMap.getElem?_insert]
  split_ifs
  · exact .some hitem
  · exact h y

theorem SameHardware.item (h : SameHardware input device shownDevice)
    (h' : SameHardware input partner shownPartner) (power : Bool) (status : DeviceMapStatus)
    {message shownMessage : String} (hmessage : shownMessage = "" ↔ message = "") :
    SameItem (.ofDevices device partner power status message)
      (createMappingDeviceResultItem shownDevice shownPartner status shownMessage) :=
  ⟨h.id, h.ipAddress, h'.id, rfl, hmessage⟩

/-- **`CheckDevice` goes the same way.** -/
theorem SameVars.checkDevice (h : SameVars s v) (hdev : SameHardware input device shownDevice)
    (hpart : SameHardware input partner shownPartner) (power : Bool) :
    SameVars (TopologyMapping.checkDevice device partner power s) { v with
      offlineDevicesResult := checkDevice shownDevice shownPartner power
        v.offlineDevicesResult } := by
  unfold TopologyMapping.checkDevice TopologyMapper.checkDevice
  rw [hdev.id, h.results.contains, checkDeviceError_same hdev hpart]
  by_cases hheld : s.results.contains device.id = true
  · rw [if_pos hheld, if_pos hheld]
    exact ⟨h.queue, h.onlineDeviceId, h.results, h.found, h.mapped, h.notFoundPort⟩
  · rw [if_neg hheld, if_neg hheld]
    cases TopologyMapping.checkDeviceError device partner power with
    | some message => exact ⟨h.queue, h.onlineDeviceId,
        h.results.insert (hdev.item hpart _ _ Iff.rfl) _, h.found, h.mapped, h.notFoundPort⟩
    | none => exact ⟨h.queue, h.onlineDeviceId,
        h.results.insert (hdev.item hpart _ _ Iff.rfl) _, h.found, h.mapped, h.notFoundPort⟩

/-- **A missing port goes the same way**, under its name or its number. -/
theorem SameVars.portNotFound (h : SameVars s v) {pair : MappingPair}
    (hdev : SameHardware input pair.offline shownDevice)
    (hpart : SameHardware input pair.online shownPartner) (leaveIfName : String)
    (leaveIfId : ℤ) : SameVars (TopologyMapping.portNotFound pair leaveIfName s)
      (portNotFound pair.offlineDeviceId shownDevice shownPartner leaveIfId v) := by
  have hnew : SameItem (.ofDevices pair.offline pair.online pair.builtInPower .failed
      ("Port (" ++ leaveIfName ++ ") not found")) (createMappingDeviceResultItem shownDevice
        shownPartner .failed ("Port (" ++ toString leaveIfId ++ ") not found")) :=
    hdev.item hpart _ _ (by simp)
  have hports : QSet.insert v.offlineNotFoundPortDeviceIdMap pair.offlineDeviceId =
      QSet.insert s.notFoundPort pair.offlineDeviceId := by rw [h.notFoundPort]
  unfold TopologyMapping.portNotFound TopologyMapper.portNotFound
  dsimp only
  have hx := h.results pair.offlineDeviceId
  generalize s.results[pair.offlineDeviceId]? = a at hx ⊢
  generalize v.offlineDevicesResult[pair.offlineDeviceId]? = b at hx ⊢
  cases hx with
  | none => exact ⟨h.queue, h.onlineDeviceId, h.results.insert hnew _, h.found, h.mapped, hports⟩
  | @some item shownItem hitem =>
    dsimp only
    by_cases hempty : item.errorMessage = ""
    · rw [if_pos hempty, if_pos (hitem.errorMessage.2 hempty)]
      exact ⟨h.queue, h.onlineDeviceId, h.results.insert hnew _, h.found, h.mapped, hports⟩
    · rw [if_neg hempty, if_neg (mt hitem.errorMessage.1 hempty)]
      refine ⟨h.queue, h.onlineDeviceId, h.results.insert ?_ _, h.found, h.mapped,
        h.notFoundPort⟩
      exact ⟨hitem.offlineDeviceId, hitem.offlineIpAddress, hitem.onlineDeviceId, hitem.status,
        by simp⟩

/-- **The same devices are enqueued**, in the same order. -/
theorem enqueueNeighbors_same (h : SameResults results shownResults) {ids moxa : QSet ℤ}
    (hids : ∀ y, y ∈ ids ↔ y ∈ moxa) (links : QSet Link) (queue : List ℤ) :
    enqueueNeighbors ids shownResults (links.map shownLink) queue =
      TopologyMapping.enqueueNeighbors moxa results links queue := by
  have hcont : ∀ y, QSet.contains ids y = QSet.contains moxa y := fun y =>
    Bool.eq_iff_iff.2 (by rw [QSet.contains_iff_mem, QSet.contains_iff_mem, hids])
  have hone : ∀ queue y, enqueueDevice ids shownResults queue y =
      TopologyMapping.enqueueDevice moxa results queue y := by
    intro queue y
    unfold enqueueDevice TopologyMapping.enqueueDevice
    rw [h.contains, hcont]
    cases results.contains y <;> cases queue.contains y <;> simp
  unfold enqueueNeighbors TopologyMapping.enqueueNeighbors
  rw [foldl_map]
  refine foldl_rel (r := Eq) rfl fun link _ queue queue' hq => ?_
  subst hq
  rw [hone, hone]
  rfl

theorem Alike.leaveMaps (h : Alike input offline online) (x y : ℤ) :
    offlineLeaveIfOppositeDevMap offline x = offlineLeaveMap input x ∧
      onlineLeaveIfOppositeDevMap offline online y = onlineLeaveMap input y := by
  unfold offlineLeaveIfOppositeDevMap onlineLeaveIfOppositeDevMap offlineLeaveMap
    onlineLeaveMap
  rw [deviceLinks_same h.offline h.networks.offline.ports,
    deviceLinks_same h.online h.networks.online.ports]
  refine ⟨leaveMap_same (fun link hlink => ?_) h.mapping,
    leaveMap_same (fun link hlink => ?_) h.mapping⟩
  · exact (h.networks.offline.ends link
      ((mem_deviceLinksMap h.networks.offline.ports).1 hlink).1).2.2
  · exact (h.networks.online.ends link
      ((mem_deviceLinksMap h.networks.online.ports).1 hlink).1).2.2

/-- **One port goes the same way.** -/
theorem Alike.checkPort_together (h : Alike input offline online) (hs : SameVars s v)
    {pair : MappingPair} (hdev : SameHardware input pair.offline shownDevice)
    (hpart : SameHardware input pair.online shownPartner) (offlineLeave onlineLeave : QMap ℤ ℤ)
    (leaveIfId : ℤ) : ExceptRule.Together SameVars
      (TopologyMapping.checkPort input pair offlineLeave onlineLeave s leaveIfId)
      (checkPort offline online pair.offlineDeviceId shownDevice shownPartner offlineLeave
        onlineLeave v leaveIfId) := by
  unfold TopologyMapping.checkPort TopologyMapper.checkPort
  split_ifs
  · exact .ok (hs.portNotFound hdev hpart _ _)
  · unfold oppositePair checkOpposite
    dsimp only
    rw [hs.results.contains]
    by_cases hheld : s.results.contains (offlineLeave.value leaveIfId) = true
    · rw [if_pos hheld, if_pos hheld]
      exact .ok hs
    · rw [if_neg hheld, if_neg hheld]
      rcases findDevice_same h.networks.offline.addressed h.offline.devices
        (offlineLeave.value leaveIfId) with ⟨hfind, err, hshown⟩ |
        ⟨opposite, shownOpposite, hfind, hshown, hopposite⟩
      · rw [hfind, hshown]
        exact .error
      · rw [hfind, hshown]
        dsimp only
        rcases findDevice_same h.networks.online.addressed h.online.devices
          (onlineLeave.value leaveIfId) with ⟨hfind', err, hshown'⟩ |
          ⟨opposite', shownOpposite', hfind', hshown', hopposite'⟩
        · rw [hfind', hshown']
          exact .error
        · rw [hfind', hshown']
          dsimp only
          have hs' : SameVars
              { s with foundOnline := QSet.insert s.foundOnline (onlineLeave.value leaveIfId) }
              { v with
                foundOnlineDeviceIdMap :=
                  QSet.insert v.foundOnlineDeviceIdMap (onlineLeave.value leaveIfId) } :=
            ⟨hs.queue, hs.onlineDeviceId, hs.results, by rw [hs.found], hs.mapped,
              hs.notFoundPort⟩
          by_cases hmap : QSet.contains s.onlineMapped (onlineLeave.value leaveIfId) = true
          · rw [if_pos hmap, if_pos (hs.mapped ▸ hmap)]
            exact .ok hs'
          · rw [if_neg hmap, if_neg (hs.mapped ▸ hmap), hopposite'.builtInPower]
            exact .ok (hs'.checkDevice hopposite hopposite' _)

/-- **A visit goes the same way.** -/
theorem Alike.visitDevice_together (h : Alike input offline online) (hs : SameVars s v) (x : ℤ) :
    ExceptRule.Together SameVars (TopologyMapping.visitDevice input s x)
      (visitDevice offline online v x) := by
  unfold TopologyMapping.visitDevice TopologyMapper.visitDevice findPair
  rw [hs.onlineDeviceId]
  rcases findDevice_same h.networks.offline.addressed h.offline.devices x with
    ⟨hfind, err, hshown⟩ | ⟨device, shownDevice, hfind, hshown, hdev⟩
  · rw [hfind, hshown]
    exact .error
  · rw [hfind, hshown]
    dsimp only
    rcases findDevice_same h.networks.online.addressed h.online.devices s.onlineDeviceId with
      ⟨hfind', err, hshown'⟩ | ⟨partner, shownPartner, hfind', hshown', hpart⟩
    · rw [hfind', hshown']
      exact .error
    · rw [hfind', hshown']
      dsimp only
      rw [hpart.builtInPower]
      dsimp only [Except.map]
      obtain ⟨hoff, hon⟩ := h.leaveMaps x s.onlineDeviceId
      rw [hoff, hon]
      refine ExceptRule.Together.foldlM ?_ fun t w leaveIfId _ htw =>
        h.checkPort_together htw hdev hpart _ _ leaveIfId
      -- the pair is entered
      unfold enterPair enterDevices
      dsimp only
      have hent : SameVars
          { s with
            foundOnline := QSet.insert s.foundOnline s.onlineDeviceId
            onlineMapped := QSet.insert s.onlineMapped s.onlineDeviceId }
          { v with
            foundOnlineDeviceIdMap := QSet.insert v.foundOnlineDeviceIdMap v.onlineDeviceId
            onlineMappedDeviceIdMap := QSet.insert v.onlineMappedDeviceIdMap v.onlineDeviceId } :=
        ⟨hs.queue, hs.onlineDeviceId, hs.results, by rw [hs.found, hs.onlineDeviceId],
          by rw [hs.mapped, hs.onlineDeviceId], hs.notFoundPort⟩
      rw [hs.results.contains, deviceLinks_same h.offline h.networks.offline.ports]
      split_ifs
      · exact ⟨by rw [enqueueNeighbors_same hs.results h.mapping, hs.queue],
          hs.onlineDeviceId, hs.results, hent.found, hent.mapped, hs.notFoundPort⟩
      · have hchecked := hent.checkDevice hdev hpart shownPartner.builtInPower
        refine ⟨?_, hchecked.onlineDeviceId, hchecked.results, hchecked.found, hchecked.mapped,
          hchecked.notFoundPort⟩
        rw [enqueueNeighbors_same hchecked.results h.mapping, ← hchecked.queue]

/-- **A dequeued device is skipped by both**, or both visit it with the same partner. -/
theorem SameVars.dequeued (hs : SameVars s v)
    (hsrc : offline.sourceDeviceId = input.offline.sourceDeviceId) (x : ℤ) :
    (dequeuedPartner input s x = none ∧
      dequeuedOnlineDeviceId offline v x = (skippedOnlineDeviceId s x, false)) ∨
    ∃ onlineId, dequeuedPartner input s x = some onlineId ∧
      dequeuedOnlineDeviceId offline v x = (onlineId, true) := by
  unfold dequeuedPartner dequeuedOnlineDeviceId
    skippedOnlineDeviceId
  rw [hsrc, hs.onlineDeviceId, hs.mapped]
  by_cases hx : x = input.offline.sourceDeviceId
  · rw [if_pos hx, if_pos hx]
    exact .inr ⟨_, rfl, rfl⟩
  · rw [if_neg hx, if_neg hx]
    have hres := hs.results x
    generalize s.results[x]? = a at hres ⊢
    generalize v.offlineDevicesResult[x]? = b at hres ⊢
    cases hres with
    | none => exact .inl ⟨rfl, rfl⟩
    | @some item shownItem hitem =>
      dsimp only
      rw [hitem.onlineDeviceId]
      by_cases hskip : (item.onlineDeviceId = -1 ||
          QSet.contains s.onlineMapped item.onlineDeviceId) = true
      · refine .inl ⟨if_pos hskip, Prod.ext rfl ?_⟩
        simpa [Bool.or_eq_true, imp_iff_not_or] using hskip
      · refine .inr ⟨_, if_neg hskip, Prod.ext rfl ?_⟩
        simpa [Bool.or_eq_true, not_or] using hskip

/-- **A round goes the same way.** -/
theorem Alike.mappingRound_together (h : Alike input offline online) (hs : SameVars s v) :
    Loop.RoundTogether SameVars (ExceptRule.Together SameVars)
      (TopologyMapping.mappingRound input s) (mappingRound offline online v) := by
  have hempty : online.devices.isEmpty = input.online.devices.isEmpty := by
    have hlen := h.online.devices.length_eq
    cases hdevs : input.online.devices <;> cases hshown : online.devices <;>
      simp [hdevs, hshown] at hlen ⊢
  unfold TopologyMapping.mappingRound TopologyMapper.mappingRound
  rw [hs.queue]
  cases hq : s.queue with
  | nil => exact .done (.ok hs)
  | cons x queue =>
    dsimp only
    rw [hempty]
    by_cases hnone : input.online.devices.isEmpty = true
    · rw [if_pos hnone, if_pos hnone]
      exact .done (.ok hs)
    · rw [if_neg hnone, if_neg hnone]
      rcases hs.dequeued h.offline.source x with ⟨hpart, hskip⟩ | ⟨onlineId, hpart, hvisit⟩
      · rw [hpart, hskip]
        exact .next ⟨rfl, rfl, hs.results, hs.found, hs.mapped, hs.notFoundPort⟩
      · rw [hpart, hvisit]
        dsimp only
        rw [if_pos rfl]
        have hnext : SameVars { s with queue := queue, onlineDeviceId := onlineId }
            { v with offlineDeviceIdQueue := queue, onlineDeviceId := onlineId } :=
          ⟨rfl, rfl, hs.results, hs.found, hs.mapped, hs.notFoundPort⟩
        have htogether := h.visitDevice_together hnext x
        generalize TopologyMapping.visitDevice input _ x = a at htogether ⊢
        generalize visitDevice offline online _ x = b at htogether ⊢
        cases htogether with
        | ok hafter => exact .next hafter
        | error => exact .done .error

/-- **The two walks end together**, with variables that say the same or with an error. -/
theorem Alike.run_together (h : Alike input offline online) (fuel : ℕ) :
    Option.Rel (ExceptRule.Together SameVars)
      (Loop.run (TopologyMapping.mappingRound input) fuel (initialSearch input))
      (Loop.run (mappingRound offline online) fuel (initialVars offline online)) := by
  refine Loop.run_together (R := SameVars) ⟨?_, h.online.source, fun x => ?_, rfl, rfl, rfl⟩
    fun s v hs => h.mappingRound_together hs
  · have hcont : QSet.contains (generateOfflineMappingDeviceMap offline)
        input.offline.sourceDeviceId = QSet.contains (offlineMappingDeviceSet input.offline)
          input.offline.sourceDeviceId :=
      Bool.eq_iff_iff.2 (by rw [QSet.contains_iff_mem, QSet.contains_iff_mem, h.mapping])
    unfold initialVars initialSearch
    dsimp only
    rw [h.offline.source, hcont]
  · unfold initialVars initialSearch
    rw [getElem?_emptyc, getElem?_emptyc]
    exact .none

/-! ### The reports -/

/-- What a report says of one device: a designed one, its status and its partner if it has
one, or a scanned one that is nobody's partner. -/
inductive Entry where
  | designed (id : ℤ) (status : DeviceMapStatus) (partner : Option ℤ)
  | scanned (id : ℤ) (status : DeviceMapStatus)
  deriving DecidableEq

/-- An item is about a designed device if it has the address of one. -/
def entryOf (offlineIpAddress : String) (offlineDeviceId onlineDeviceId : ℤ)
    (status : DeviceMapStatus) : Entry :=
  if offlineIpAddress = "" then .scanned onlineDeviceId status
  else .designed offlineDeviceId status
    (if status = .notFound ∨ status = .skip then none else some onlineDeviceId)

/-- What an item of the core says. -/
def coreEntry (item : MapDeviceResultItem) : Entry :=
  entryOf item.offlineIpAddress item.offlineDeviceId item.onlineDeviceId item.status

/-- What an item of the service says. -/
def entry (item : MappingDeviceResultItem) : Entry :=
  entryOf item.offlineIpAddress item.offlineDeviceId item.onlineDeviceId item.status

/-- **The reports agree**: the same status and the same partner for every designed device, the
same scanned devices skipped, and the same leave to deploy. -/
structure ReportsAgree (input : MappingInput) (core : TopologyMapping.TopologyMappingResult)
    (mapper : TopologyMappingResult) : Prop where
  designed : ∀ x, input.offline.HasDevice x → ∀ status partner,
    .designed x status partner ∈ core.mappingReport.map coreEntry ↔
      .designed x status partner ∈ mapper.mappingReport.map entry
  skipped : ∀ y, .scanned y .skip ∈ core.mappingReport.map coreEntry ↔
    .scanned y .skip ∈ mapper.mappingReport.map entry
  deploy : core.deploy = mapper.deploy

/-- **The outcomes agree**: both give a report and the reports agree, or neither gives one. -/
def OutcomesAgree (input : MappingInput) :
    Status × TopologyMapping.TopologyMappingResult → Except String TopologyMappingResult → Prop
  | (status, core), .ok mapper => status = .success ∧ ReportsAgree input core mapper
  | (status, _), .error _ => status ≠ .success

/-- Two items of reports that say the same, up to their numbers. -/
structure SameEntry (item : MapDeviceResultItem) (shown : MappingDeviceResultItem) : Prop where
  status : shown.status = item.status
  offlineIpAddress : shown.offlineIpAddress = item.offlineIpAddress
  entry : TopologyMapper.entry shown = coreEntry item

theorem SameItem.sameEntry {item : MapDeviceResultItem} {shownItem : MappingDeviceResultItem}
    (h : SameItem item shownItem) : SameEntry item shownItem :=
  ⟨h.status, h.offlineIpAddress, by
    unfold entry coreEntry
    rw [h.offlineIpAddress, h.offlineDeviceId, h.onlineDeviceId, h.status]⟩

/-- **The same failed devices are only warned about.** -/
theorem Alike.updateWarning_same (h : Alike input offline online) (ports : QSet ℤ)
    {item : MapDeviceResultItem} {shownItem : MappingDeviceResultItem}
    (hitem : SameItem item shownItem) : SameEntry (TopologyMapping.updateWarning input ports item)
      (updateWarning offline ports shownItem) := by
  have hlinks : (((generateDeviceLinksMap offline).value item.offlineDeviceId).any fun deviceLink =>
      QSet.contains ports (if deviceLink.sourceDeviceId = item.offlineDeviceId
        then deviceLink.destinationDeviceId else deviceLink.sourceDeviceId)) =
      any ((deviceLinksMap input.offline).value item.offlineDeviceId)
        fun link => QSet.contains ports (if link.sourceDeviceId = item.offlineDeviceId
          then link.destinationDeviceId else link.sourceDeviceId) := by
    rw [deviceLinks_same h.offline h.networks.offline.ports, any_map]
    rfl
  by_cases hwarned : item.status = .failed ∧ QSet.contains ports item.offlineDeviceId ∧
      (any ((deviceLinksMap input.offline).value item.offlineDeviceId)
        fun link => QSet.contains ports (if link.sourceDeviceId = item.offlineDeviceId
          then link.destinationDeviceId else link.sourceDeviceId)) = true
  · unfold TopologyMapping.updateWarning updateWarning
    rw [if_pos hwarned, if_pos (by
      rw [hitem.status, hitem.offlineDeviceId, hlinks]
      exact hwarned)]
    exact SameItem.sameEntry ⟨hitem.offlineDeviceId, hitem.offlineIpAddress, hitem.onlineDeviceId,
      rfl, hitem.errorMessage⟩
  · unfold TopologyMapping.updateWarning updateWarning
    rw [if_neg hwarned, if_neg (by
      rw [hitem.status, hitem.offlineDeviceId, hlinks]
      exact hwarned)]
    exact hitem.sameEntry

/-- A device without a result gets the same entry. -/
theorem remainingItem_same {ids moxa : QSet ℤ} (hids : ∀ y, y ∈ ids ↔ y ∈ moxa)
    (hdev : SameHardware input device shownDevice) (hip : device.ipAddress ≠ "") :
    SameEntry (TopologyMapping.remainingItem moxa device) (remainingItem ids shownDevice) := by
  have hcont : QSet.contains ids device.id = QSet.contains moxa device.id :=
    Bool.eq_iff_iff.2 (by rw [QSet.contains_iff_mem, QSet.contains_iff_mem, hids])
  unfold TopologyMapping.remainingItem remainingItem
  rw [hdev.id, hdev.ipAddress, hcont]
  dsimp only
  split_ifs
  · refine ⟨rfl, rfl, ?_⟩
    unfold entry coreEntry entryOf
    dsimp only
    rw [if_neg hip, if_neg hip, if_pos (.inr rfl), if_pos (.inr rfl)]
  · refine ⟨rfl, rfl, ?_⟩
    unfold entry coreEntry entryOf
    dsimp only
    rw [if_neg hip, if_neg hip, if_pos (.inl rfl), if_pos (.inl rfl)]

/-- **The results say the same once the walk is over.** -/
theorem Alike.finishResults_same (h : Alike input offline online) (hs : SameVars s v) (x : ℤ) :
    Option.Rel SameEntry (TopologyMapping.finishResults input s)[x]?
      (finishResults offline v)[x]? := by
  unfold TopologyMapping.finishResults finishResults
  refine rel_foldl (P := fun (results : QMap ℤ MapDeviceResultItem)
      (shownResults : QMap ℤ MappingDeviceResultItem) =>
      ∀ x : ℤ, Option.Rel SameEntry results[x]? shownResults[x]?)
    (R := fun device shownDevice => SameHardware input device shownDevice ∧
      device.ipAddress ≠ "") ?_ ?_ ?_ x
  · rintro results shownResults hress device shownDevice ⟨hdev, hip⟩
    have hcont : shownResults.contains shownDevice.id = results.contains device.id := by
      rw [hdev.id, contains_eq_isSome_getElem?,
        contains_eq_isSome_getElem?]
      have hx := hress device.id
      generalize results[device.id]? = a at hx ⊢
      generalize shownResults[device.id]? = b at hx ⊢
      cases hx <;> rfl
    dsimp only
    rw [hcont]
    split_ifs
    · exact hress
    · intro y
      rw [hdev.id, Std.TreeMap.getElem?_insert, Std.TreeMap.getElem?_insert]
      split_ifs
      · exact .some (remainingItem_same h.mapping hdev hip)
      · exact hress y
  · intro y
    rw [Std.TreeMap.getElem?_map, Std.TreeMap.getElem?_map, hs.notFoundPort]
    have hy := hs.results y
    generalize s.results[y]? = a at hy ⊢
    generalize v.offlineDevicesResult[y]? = b at hy ⊢
    cases hy with
    | none => exact .none
    | some hitem => exact .some (h.updateWarning_same _ hitem)
  · have haddressed := h.networks.offline.addressed
    have hdevs := h.offline.devices
    generalize input.offline.devices = devices at haddressed hdevs ⊢
    generalize offline.devices = shownDevices at hdevs ⊢
    induction hdevs with
    | nil => exact .nil
    | cons hdev _ ih =>
      exact .cons ⟨hdev, haddressed _ mem_cons_self⟩
        (ih fun other hother => haddressed other (mem_cons_of_mem _ hother))

section

variable {items : List MapDeviceResultItem} {shownItems : List MappingDeviceResultItem}

/-- Numbering the items changes nothing of what they say. -/
theorem offlineItems_same {results : QMap ℤ MapDeviceResultItem}
    {shownResults : QMap ℤ MappingDeviceResultItem}
    (h : ∀ x : ℤ, Option.Rel SameEntry results[x]? shownResults[x]?) :
    List.Forall₂ SameEntry (TopologyMapping.offlineItems results) (offlineItems shownResults) := by
  unfold TopologyMapping.offlineItems offlineItems
  refine rel_foldl (P := List.Forall₂ SameEntry) (R := SameEntry) ?_ .nil
    (forall₂_vals h)
  intro report shownReport hreport item shownItem hitem
  exact rel_append hreport (.cons ⟨hitem.status, hitem.offlineIpAddress, hitem.entry⟩ .nil)

theorem SameEntry.blocksDeploy {item : MapDeviceResultItem} {shownItem : MappingDeviceResultItem}
    (h : SameEntry item shownItem) : shownItem.blocksDeploy = item.blocksDeploy := by
  unfold MappingDeviceResultItem.blocksDeploy MapDeviceResultItem.blocksDeploy
  rw [h.status]

theorem any_blocksDeploy_same (h : List.Forall₂ SameEntry items shownItems) :
    shownItems.any (·.blocksDeploy) = items.any (·.blocksDeploy) := by
  induction h with
  | nil => rfl
  | cons hitem _ ih => rw [any_cons, any_cons, hitem.blocksDeploy, ih]

/-- The same addresses are collected, by the status of their items. -/
theorem addresses_same (h : List.Forall₂ SameEntry items shownItems)
    (collected : DeviceMapStatus → Bool) :
    (shownItems.filter fun item => collected item.status).map (·.offlineIpAddress) =
      (items.filter fun item => collected item.status).map (·.offlineIpAddress) := by
  induction h with
  | nil => rfl
  | cons hitem _ ih =>
    rw [filter_cons, filter_cons, hitem.status]
    split_ifs
    · rw [map_cons, map_cons, hitem.offlineIpAddress, ih]
    · exact ih

/-- An online device that was not found gets the same entry. -/
theorem unfoundItem_same (hdev : SameHardware input device shownDevice) (canDeploy : Bool)
    (ips : List String) : SameEntry (TopologyMapping.unfoundItem canDeploy ips device)
      (unfoundItem canDeploy ips shownDevice) := by
  unfold TopologyMapping.unfoundItem unfoundItem
  rw [hdev.id, hdev.ipAddress]
  dsimp only
  split_ifs
  · exact ⟨rfl, rfl, rfl⟩
  · exact ⟨rfl, rfl, rfl⟩

/-- **The same online devices join the report.** -/
theorem appendUnfound_same (h : List.Forall₂ SameEntry items shownItems)
    (hdevs : List.Forall₂ (SameHardware input) topology.devices shown.devices)
    (found : QSet ℤ) (canDeploy : Bool) (ips checkedIps : List String) : List.Forall₂ SameEntry
      (TopologyMapping.appendUnfound topology found canDeploy ips checkedIps items)
      (appendUnfound shown found canDeploy ips checkedIps shownItems) := by
  unfold TopologyMapping.appendUnfound appendUnfound
  refine rel_foldl (P := List.Forall₂ SameEntry) (R := SameHardware input) ?_ h hdevs
  intro report shownReport hreport device shownDevice hdev
  have hitem := unfoundItem_same hdev canDeploy ips
  have hip : (unfoundItem canDeploy ips shownDevice).onlineIpAddress =
      (TopologyMapping.unfoundItem canDeploy ips device).onlineIpAddress := by
    unfold TopologyMapping.unfoundItem unfoundItem
    dsimp only
    rw [hdev.ipAddress]
    split_ifs <;> rfl
  have hskip : ((unfoundItem canDeploy ips shownDevice).status = .skip &&
      checkedIps.contains (unfoundItem canDeploy ips shownDevice).onlineIpAddress) =
      ((TopologyMapping.unfoundItem canDeploy ips device).status = .skip &&
        checkedIps.contains
          (TopologyMapping.unfoundItem canDeploy ips device).onlineIpAddress) := by
    rw [hitem.status, hip]
  dsimp only
  rw [hdev.id]
  by_cases hfound : QSet.contains found device.id = true
  · rw [if_pos hfound, if_pos hfound]
    exact hreport
  · rw [if_neg hfound, if_neg hfound]
    by_cases hchecked : ((TopologyMapping.unfoundItem canDeploy ips device).status = .skip &&
        checkedIps.contains (TopologyMapping.unfoundItem canDeploy ips device).onlineIpAddress) =
          true
    · rw [if_pos hchecked, if_pos (hskip.trans hchecked)]
      exact hreport
    · rw [if_neg hchecked, if_neg (hskip ▸ hchecked)]
      exact rel_append hreport
        (.cons ⟨hitem.status, hitem.offlineIpAddress, hitem.entry⟩ .nil)

theorem map_entry_same (h : List.Forall₂ SameEntry items shownItems) :
    shownItems.map entry = items.map coreEntry := by
  induction h with
  | nil => rfl
  | cons hitem _ ih => rw [map_cons, map_cons, hitem.entry, ih]

end

/-- What the core reports when its walk ends. -/
def coreReport (formats : NumberFormats) (input : MappingInput) (s : MappingSearch) :
    TopologyMapping.TopologyMappingResult :=
  TopologyMapping.generateTopologyMappingResult formats (TopologyMapping.finishResults input s)
    s.foundOnline [] input.online

/-- **The reports of walks in lock step agree.** -/
theorem Alike.reportsAgree (h : Alike input offline online) (hs : SameVars s v)
    (formats : NumberFormats) : ReportsAgree input (coreReport formats input s)
      (generateTopologyMappingResult (finishResults offline v) v.foundOnlineDeviceIdMap []
        online) := by
  have hitems := offlineItems_same (h.finishResults_same hs)
  -- what joins the report is collected from the items in the same way
  have hips := addresses_same hitems fun status =>
    (status = .success || status = .warning) && !QSet.contains [] (0 : ℤ)
  have hchecked := addresses_same hitems fun status => status = .checked
  obtain ⟨report, shownReport, hcore, hshown, hsame⟩ : ∃ report shownReport,
      (coreReport formats input s).mappingReport.Perm report ∧
      (generateTopologyMappingResult (finishResults offline v) v.foundOnlineDeviceIdMap []
        online).mappingReport.Perm shownReport ∧ List.Forall₂ SameEntry report shownReport := by
    refine ⟨_, _, perm_insertionSort _ _, ?_,
      appendUnfound_same hitems h.online.devices s.foundOnline _ _ _⟩
    unfold generateTopologyMappingResult
    dsimp only
    rw [hs.found, any_blocksDeploy_same hitems, hchecked]
    exact (perm_insertionSort _ _).trans
      (.of_eq (congrArg (fun ips => appendUnfound online s.foundOnline _ ips _ _) hips))
  have hentries : ∀ e, e ∈ (coreReport formats input s).mappingReport.map coreEntry ↔
      e ∈ (generateTopologyMappingResult (finishResults offline v) v.foundOnlineDeviceIdMap []
        online).mappingReport.map entry := by
    intro e
    rw [(hcore.map _).mem_iff, (hshown.map _).mem_iff, map_entry_same hsame]
  have hblocks : (coreReport formats input s).mappingReport.any (·.blocksDeploy) =
      (generateTopologyMappingResult (finishResults offline v) v.foundOnlineDeviceIdMap []
        online).mappingReport.any (·.blocksDeploy) := by
    rw [hcore.any_eq, hshown.any_eq, any_blocksDeploy_same hsame]
  exact ⟨fun x _ status partner => hentries _, fun y => hentries _, congrArg (!·) hblocks⟩

/-! ### Who is mapped -/

/-- The devices of the mapping of the service, told of the topology it was shown. -/
theorem mem_generateOfflineMappingDeviceMap (h : ShownAs (SameDevice input) topology shown)
    {x : ℤ} : x ∈ generateOfflineMappingDeviceMap shown ↔
      ∃ device ∈ topology.devices, device.id = x ∧ device.deviceType ≠ .endStation ∧
        isMoxaVendor device.deviceProperty.vendor = true := by
  have hdevs := h.devices
  unfold generateOfflineMappingDeviceMap
  suffices hall : ∀ ids : QSet ℤ, x ∈ shown.devices.foldl (fun ids dev =>
      if dev.deviceType = .endStation then ids
      else if isMoxaVendor dev.vendor then QSet.insert ids dev.id
      else ids) ids ↔ x ∈ ids ∨ ∃ device ∈ topology.devices, device.id = x ∧
        device.deviceType ≠ .endStation ∧ isMoxaVendor device.deviceProperty.vendor = true by
    simpa using hall []
  generalize topology.devices = devices at hdevs ⊢
  generalize shown.devices = shownDevices at hdevs ⊢
  induction hdevs with
  | nil => simp
  | @cons device shownDevice devices shownDevices hdev _ ih =>
    intro ids
    rw [foldl_cons, ih, exists_mem_cons_iff, hdev.deviceType, hdev.vendor,
      hdev.id]
    split_ifs with htype hvendor
    · simp [htype]
    · rw [QSet.mem_insert, or_assoc]
      simp [htype, hvendor, eq_comm (a := x)]
    · simp [hvendor]

/-- **Vendors are given by name**: no device that may be mapped has the number of the vendor
for one, or the one character which that number is to the core. -/
def VendorsByName (topology : MapTopology) : Prop :=
  ∀ device ∈ topology.devices, device.deviceType ≠ .endStation →
    device.deviceProperty.vendor ≠ "8691" ∧
      device.deviceProperty.vendor ≠ String.singleton (Char.ofNat 8691)

/-- **The same devices are mapped exactly when vendors are given by name.** -/
theorem sameMapping_iff (hshown : ShownAs (SameDevice input) topology shown)
    (h : NetworkWellFormed topology) :
    (∀ x, x ∈ generateOfflineMappingDeviceMap shown ↔ x ∈ offlineMappingDeviceSet topology) ↔
      VendorsByName topology := by
  have hdiff : ∀ vendor : String, (isMoxaVendor vendor = true ↔
      TopologyMapping.isMoxaVendor vendor = true) ↔
      vendor ≠ "8691" ∧ vendor ≠ String.singleton (Char.ofNat 8691) := by
    intro vendor
    have hnumber : ("8691" : String) ≠ String.singleton (Char.ofNat 8691) := by decide
    have hname : ("MOXA" : String) ≠ String.singleton (Char.ofNat 8691) := by decide
    have hname' : ("MOXA" : String) ≠ "8691" := by decide
    unfold isMoxaVendor TopologyMapping.isMoxaVendor
    simp only [Bool.or_eq_true, beq_iff_eq]
    constructor
    · intro hsame
      refine ⟨?_, ?_⟩
      · rintro rfl
        rcases hsame.1 (.inl rfl) with he | he
        · exact hname' he.symm
        · exact hnumber he
      · rintro rfl
        rcases hsame.2 (.inr rfl) with he | he
        · exact hnumber he.symm
        · exact hname he.symm
    · rintro ⟨hno, hno'⟩
      exact ⟨fun h => .inl (h.resolve_left hno), fun h => .inr (h.resolve_right hno')⟩
  constructor
  · intro hall device hdev htype
    rw [← hdiff]
    have hunique : ∀ other ∈ topology.devices, other.id = device.id → other = device := by
      intro other hother hid
      have hfind := findDevice_of_mem h hother
      rw [hid, findDevice_of_mem h hdev] at hfind
      exact (Option.some.inj hfind).symm
    have hx := hall device.id
    rw [mem_generateOfflineMappingDeviceMap hshown,
      mem_offlineMappingDeviceSet] at hx
    constructor
    · intro hvendor
      obtain ⟨other, hother, hid, -, hmoxa⟩ := hx.1 ⟨device, hdev, rfl, htype, hvendor⟩
      exact hunique other hother hid ▸ hmoxa
    · intro hvendor
      obtain ⟨other, hother, hid, -, hmoxa⟩ := hx.2 ⟨device, hdev, rfl, htype, hvendor⟩
      exact hunique other hother hid ▸ hmoxa
  · intro hall x
    rw [mem_generateOfflineMappingDeviceMap hshown, mem_offlineMappingDeviceSet]
    refine exists_congr fun device => and_congr_right fun hdev => and_congr_right fun _ =>
      and_congr_right fun htype => (hdiff _).2 (hall device hdev htype)

/-- The networks with the vendors written so that the core maps the devices of a set. -/
def withMapping (ids : QSet ℤ) (input : MappingInput) : MappingInput :=
  { input with
    offline := { input.offline with
      devices := input.offline.devices.map fun device => { device with
        deviceType := .unknown
        deviceProperty := { device.deviceProperty with
          vendor := if QSet.contains ids device.id then "MOXA" else "" } } } }

theorem hasDevice_withMapping (ids : QSet ℤ) {x : ℤ} :
    (withMapping ids input).offline.HasDevice x ↔ input.offline.HasDevice x := by
  unfold MapTopology.HasDevice withMapping
  simp

theorem mem_withMapping {ids : QSet ℤ} {x : ℤ} :
    x ∈ offlineMappingDeviceSet (withMapping ids input).offline ↔
      x ∈ ids ∧ input.offline.HasDevice x := by
  rw [mem_offlineMappingDeviceSet]
  unfold MapTopology.HasDevice withMapping
  simp only [mem_map, exists_exists_and_eq_and]
  constructor
  · rintro ⟨device, hdev, rfl, -, hvendor⟩
    refine ⟨?_, device, hdev, rfl⟩
    by_contra hout
    rw [if_neg (by rwa [QSet.contains_iff_mem])] at hvendor
    exact absurd hvendor (by decide)
  · rintro ⟨hin, device, hdev, rfl⟩
    refine ⟨device, hdev, rfl, by decide, ?_⟩
    rw [if_pos (QSet.contains_iff_mem.2 hin)]
    decide

theorem networks_withMapping (ids : QSet ℤ) (h : Networks input) :
    Networks (withMapping ids input) where
  offline := {
    ids := by
      unfold withMapping
      dsimp only
      rw [pairwise_map]
      exact h.offline.ids
    addressed := by
      intro device hdev
      obtain ⟨other, hother, rfl⟩ := mem_map.1 hdev
      exact h.offline.addressed other hother
    ports := h.offline.ports
    ends := by
      intro link hlink
      rw [hasDevice_withMapping, hasDevice_withMapping]
      exact h.offline.ends link hlink }
  online := h.online
  profiles := h.profiles

/-- **The service walks as the core would** with its choice of devices. -/
theorem alike_withMapping (h : Networks input)
    (hoff : ShownAs (SameDevice input) input.offline offline)
    (hon : ShownAs (SameDevice input) input.online online) :
    Alike (withMapping (generateOfflineMappingDeviceMap offline) input) offline online where
  networks := networks_withMapping _ h
  mapping x := by
    rw [mem_withMapping]
    refine ⟨fun hx => ⟨hx, ?_⟩, And.left⟩
    obtain ⟨device, hdev, hid, -⟩ := (mem_generateOfflineMappingDeviceMap hoff).1 hx
    exact ⟨device, hdev, hid⟩
  offline := by
    refine ⟨?_, hoff.links, hoff.source⟩
    refine forall₂_map_left_iff.2 (hoff.devices.imp fun device shownDevice hdev => ?_)
    exact ⟨hdev.id, hdev.ipAddress, hdev.modelName, hdev.power, hdev.ethernet,
      hdev.builtInPower⟩
  online := hon.imp fun device shownDevice hdev =>
    ⟨hdev.id, hdev.ipAddress, hdev.modelName, hdev.power, hdev.ethernet,
      hdev.builtInPower⟩

/-! ### The report of a walk -/

/-- The results at the end stand under the addresses of their devices. -/
theorem addressed_finishResults (h : Networks input) (hinv : WalkInv input s) {x : ℤ}
    {item : MapDeviceResultItem} (hitem : (TopologyMapping.finishResults input s)[x]? = some item) :
    item.offlineIpAddress ≠ "" := by
  rcases finishResults_eq_some.1 hitem with ⟨result, hres, rfl⟩ | ⟨-, hfind⟩
  · have hip := (hinv.partners x result hres).2.2
    unfold TopologyMapping.updateWarning
    split_ifs <;> exact hip
  · obtain ⟨device, hdev, rfl⟩ := Option.map_eq_some_iff.1 hfind
    have hip := h.offline.addressed device (mem_of_find?_eq_some hdev)
    unfold TopologyMapping.remainingItem
    dsimp only
    split_ifs <;> exact hip

theorem coreEntry_eq_designed {item : MapDeviceResultItem} {x : ℤ} {status : DeviceMapStatus}
    {mate : Option ℤ} (h : coreEntry item = .designed x status mate) :
    item.offlineIpAddress ≠ "" ∧ item.offlineDeviceId = x ∧ item.status = status := by
  unfold coreEntry entryOf at h
  split_ifs at h with hip hnone <;> cases h <;> exact ⟨hip, rfl, rfl⟩

/-- **What the core reports of a designed device**: something, and that it is skipped exactly
when it does not belong to the mapping. -/
theorem designed_report (h : Networks input) (hinv : WalkInv input s)
    (formats : NumberFormats) {x : ℤ} (hx : input.offline.HasDevice x) :
    (∃ status mate,
      .designed x status mate ∈ (coreReport formats input s).mappingReport.map coreEntry) ∧
    ∀ status mate,
      .designed x status mate ∈ (coreReport formats input s).mappingReport.map coreEntry →
        (status = .skip ↔ x ∉ offlineMappingDeviceSet input.offline) := by
  obtain ⟨rest, hmem, hrest⟩ : ∃ rest, (∀ item, item ∈ (coreReport formats input s).mappingReport ↔
      item ∈ TopologyMapping.offlineItems (TopologyMapping.finishResults input s) ++ rest) ∧
      ∀ item ∈ rest, item.offlineIpAddress = "" := by
    obtain ⟨rest, hreport, hrest⟩ := TopologyMapping.exists_append_of_appendUnfound input.online
      s.foundOnline _ _ _ (TopologyMapping.offlineItems (TopologyMapping.finishResults input s))
    exact ⟨rest, fun item => hreport ▸ mem_sortReport, fun item hitem => (hrest item hitem).2.1⟩
  constructor
  · obtain ⟨device, hdev, rfl⟩ := hx
    obtain ⟨item, hitem⟩ :=
      mem_keys_iff.1 (TopologyMapping.mem_keys_finishResults (s := s) hdev)
    obtain ⟨n, hn⟩ := TopologyMapping.exists_mem_offlineItems (mem_vals.2 ⟨_, hitem⟩)
    refine ⟨item.status,
      if item.status = .notFound ∨ item.status = .skip then none else some item.onlineDeviceId,
      mem_map.2 ⟨_, (hmem _).2 (mem_append_left _ hn), ?_⟩⟩
    unfold coreEntry entryOf
    dsimp only
    rw [if_neg (addressed_finishResults h hinv hitem), (hinv.base.kept.finishResults hitem).1]
  · rintro status mate hentry
    obtain ⟨item, hitem, he⟩ := mem_map.1 hentry
    obtain ⟨hip, hid, rfl⟩ := coreEntry_eq_designed he
    rcases mem_append.1 ((hmem item).1 hitem) with hitem | hitem
    · obtain ⟨result, hres, n, rfl⟩ := TopologyMapping.mem_offlineItems hitem
      obtain ⟨y, hy⟩ := mem_vals.1 hres
      obtain rfl : y = x := (hinv.base.kept.finishResults hy).1.symm.trans hid
      have hskip := TopologyMapping.finishResults_skip hinv hy
      exact hskip
    · exact absurd (hrest item hitem) hip

/-- **What the core gives back**: an error at the first device, or the report of a walk. -/
theorem core_outcome (h : Networks input) (formats : NumberFormats) (fuel : ℕ)
    (hfuel : walkMeasure input (initialSearch input) < fuel) :
    (SourceMissing input ∧ ∃ status,
      Loop.run (TopologyMapping.mappingRound input) fuel (initialSearch input) =
        some (.error status) ∧
      TopologyMapping.mappingTopology formats fuel input = some (status, {}) ∧
      status ≠ .success) ∨
    (¬SourceMissing input ∧ ∃ s, WalkInv input s ∧
      Loop.run (TopologyMapping.mappingRound input) fuel (initialSearch input) =
        some (.ok s) ∧
      TopologyMapping.mappingTopology formats fuel input = some (.success,
        coreReport formats input s)) := by
  unfold TopologyMapping.mappingTopology
  by_cases hmiss : SourceMissing input
  · obtain ⟨status, hrun, hst⟩ := TopologyMapping.run_mapping_of_sourceMissing h hmiss
      (show 0 < fuel by omega)
    exact .inl ⟨hmiss, status, hrun, by rw [hrun]; rfl, hst⟩
  · obtain ⟨s, hrun, hinv⟩ := TopologyMapping.exists_run_mapping h hmiss hfuel
    exact .inr ⟨hmiss, s, hinv, hrun, by rw [hrun]; rfl⟩

/-- **What the service gives back**, in lock step with a walk of the core: an error with an
error, and a report that agrees with the one of that walk. -/
theorem Alike.mapper_outcome (h : Alike input offline online) (formats : NumberFormats) (fuel : ℕ)
    (hfuel : walkMeasure input (initialSearch input) < fuel) :
    (SourceMissing input ∧ ∃ err,
      mappingTopology fuel offline online = some (.error err)) ∨
    (¬SourceMissing input ∧ ∃ s mapper, WalkInv input s ∧
      TopologyMapping.mappingTopology formats fuel input = some (.success,
        coreReport formats input s) ∧
      mappingTopology fuel offline online = some (.ok mapper) ∧
      ReportsAgree input (coreReport formats input s) mapper) := by
  have htogether := h.run_together fuel
  rcases core_outcome h.networks formats fuel hfuel with ⟨hmiss, status, hrun, -⟩ |
    ⟨hmiss, s, hinv, hrun, hcore⟩
  · rw [hrun] at htogether
    unfold mappingTopology
    generalize Loop.run (mappingRound offline online) fuel _ = b at htogether ⊢
    cases htogether with
    | some hends =>
      cases hends with
      | error => exact .inl ⟨hmiss, _, rfl⟩
  · rw [hrun] at htogether
    refine .inr ⟨hmiss, s, ?_⟩
    unfold mappingTopology
    generalize Loop.run (mappingRound offline online) fuel _ = b at htogether ⊢
    cases htogether with
    | some hends =>
      cases hends with
      | ok hs => exact ⟨_, hinv, hcore, rfl, h.reportsAgree hs formats⟩

/-- Reports that agree skip the same devices, so the same devices are mapped. -/
theorem sameMapping_of_reportsAgree (h : Networks input)
    (hoff : ShownAs (SameDevice input) input.offline offline)
    (hinv : WalkInv input s) {t : MappingSearch}
    (hinv' : WalkInv
      (withMapping (generateOfflineMappingDeviceMap offline) input) t)
    {formats : NumberFormats} {mapper : TopologyMappingResult}
    (hagree : ReportsAgree input (coreReport formats input s) mapper)
    (hagree' : ReportsAgree (withMapping (generateOfflineMappingDeviceMap offline) input)
      (coreReport formats (withMapping (generateOfflineMappingDeviceMap offline) input) t) mapper)
    (x : ℤ) :
    x ∈ generateOfflineMappingDeviceMap offline ↔ x ∈ offlineMappingDeviceSet input.offline := by
  by_cases hx : input.offline.HasDevice x
  · obtain ⟨⟨status, mate, hentry⟩, hskip⟩ := designed_report h hinv formats hx
    have hx' := (hasDevice_withMapping (generateOfflineMappingDeviceMap offline)).2 hx
    have hskip' := (designed_report (networks_withMapping _ h) hinv' formats hx').2 status mate
      ((hagree'.designed x hx' status mate).2 ((hagree.designed x hx status mate).1 hentry))
    rw [hskip status mate hentry, mem_withMapping] at hskip'
    rw [← not_iff_not, hskip']
    exact ⟨fun hout hin => hout hin.1, fun hout hin => hout ⟨hin, hx⟩⟩
  · refine iff_of_false (fun hin => hx ?_) fun hin => hx (TopologyMapping.hasDevice_of_mapping hin)
    obtain ⟨device, hdev, hid, -⟩ := (mem_generateOfflineMappingDeviceMap hoff).1 hin
    exact ⟨device, hdev, hid⟩

/-- A switch of the given vendor is designed, and one is built. -/
def oneSwitch (vendor : String) : MappingInput where
  profiles := [{ id := 1, modelName := "EDS-4008" }]
  offline := {
    devices := [{ moxaSwitch 1 "10.0.0.1" with
      deviceProperty := { modelName := "EDS-4008", vendor := vendor } }]
    sourceDeviceId := 1 }
  online := {
    devices := [moxaSwitch 11 "10.0.1.1"]
    sourceDeviceId := 11 }

/-- The switch, as the service holds it. -/
def shownSwitch (id : ℤ) (ipAddress vendor : String) : MappingDevice where
  id := id
  ipAddress := ipAddress
  modelName := "EDS-4008"
  vendor := vendor
  deviceType := .switch
  modularConfiguration := ⟨some ∅, some ∅⟩
  builtInPower := true

/-- One switch, as the service holds it. -/
def shownNetwork (id : ℤ) (ipAddress vendor : String) : MappingTopology where
  devices := [shownSwitch id ipAddress vendor]
  sourceDeviceId := id

theorem networks_oneSwitch (vendor : String) : Networks (oneSwitch vendor) where
  offline := ⟨by simp [oneSwitch], by simp [oneSwitch, Addressed,
    moxaSwitch], .nil, nofun⟩
  online := ⟨by simp [oneSwitch], by simp [oneSwitch, Addressed,
    moxaSwitch], .nil, nofun⟩
  profiles := by
    intro device hdev
    obtain rfl := mem_singleton.1 hdev
    exact ⟨_, rfl⟩

theorem shownAs_oneSwitch (vendor : String) :
    ShownAs (SameDevice (oneSwitch vendor)) (oneSwitch vendor).offline
      (shownNetwork 1 "10.0.0.1" vendor) ∧
    ShownAs (SameDevice (oneSwitch vendor)) (oneSwitch vendor).online
      (shownNetwork 11 "10.0.1.1" "MOXA") :=
  ⟨⟨.cons ⟨⟨rfl, rfl, rfl, ⟨∅, rfl, rfl⟩, ⟨∅, rfl, rfl⟩, rfl⟩, rfl, rfl⟩ .nil, rfl, rfl⟩,
    ⟨.cons ⟨⟨rfl, rfl, rfl, ⟨∅, rfl, rfl⟩, ⟨∅, rfl, rfl⟩, rfl⟩, rfl, rfl⟩ .nil, rfl, rfl⟩⟩

end TopologyMapper
end Sebastian

/-
# Redundant groups

`core/src/act_core_redundant_group.cpp`: the RSTP groups of a project.
`ComputeRedundantRSTP` gives every device of a group its tier by a search from
the root and the backup root, level by level, over a map of queues that hold
copies of the devices; what it has finished is collected in one set for all
groups, which in the end replaces the devices of the project.

The search is followed as a `Frontier`: `SearchInv` says what the queues and the
set hold at the head of the loop, `SearchInv.step` carries it round, and
`exists_computeRstpGroup` says what a group adds to the set.  The tiers are the
distances (`rstpTiers_iff`) as long as a 16-bit number can hold them and no
device is linked to itself.
-/

import Sebastian.Core.Topology
import Sebastian.Lib.Distance
import Sebastian.Lib.Loop

namespace Sebastian
namespace Core

open List Int16

variable {x : Device} {fuel : ℕ} {project' : Project}

/-! ### The operations -/

/-- The priority of a bridge in the spanning tree. -/
def rstpPriority : DeviceRole → ℤ
  | .rstpRoot => 4096
  | .rstpBackupRoot => 8192
  | _ => 32768

/-- The state of the search in `ComputeRedundantRSTP`. -/
structure RstpSearch where
  bfsQueue : QMap Int16 (List Device)
  tier : Int16
  deviceSet : QSet Device
  rstpTables : QMap ℤ RstpTable

/-- The neighbor behind an interface, unless it is outside the group, finished or
still waiting in this tier.  A neighbor that is not found is a new `ActDevice`. -/
def nextTierNeighbor (project : Project) (rstp : RSTP) (deviceSet : QSet Device)
    (current : List Device) (device : Device) (interface : Interface) : Option Device :=
  match project.getLinkByInterfaceId device.id interface.interfaceId with
  | none => none
  | some link =>
    let neighborId := link.neighborId device.id
    let neighbor := (project.getDeviceById neighborId).getD {}
    if !rstp.devices.contains neighborId || deviceSet.contains neighbor ||
        QSet.contains current neighbor then none
    else some neighbor

/-- The neighbor waits in the next tier, once. -/
def enqueueNeighbor (tier : Int16) (next : List Device) (neighbor : Device) : List Device :=
  if QSet.contains next neighbor then next
  else next ++ [{ neighbor with tier := tier, deviceRole := .rstp }]

/-- The loop over the interfaces of a device: its interfaces and the queue of the
next tier.  (The queue of this tier does not change meanwhile.) -/
def visitInterfaces (project : Project) (rstp : RSTP) (deviceSet : QSet Device)
    (current : List Device) (tier : Int16) (device : Device) (next : List Device) :
    List Interface × List Device :=
  device.interfaces.foldl (fun (interfaces, next) interface =>
    match nextTierNeighbor project rstp deviceSet current device interface with
    | none => (interfaces ++ [{ interface with rootGuard := false }], next)
    | some neighbor =>
      (interfaces ++ [{ interface with rootGuard := device.deviceProperty.stpRstp.rootGuard }],
        enqueueNeighbor (tier + 1) next neighbor)) ([], next)

/-- One round of the loop of `ComputeRedundantRSTP`. -/
def rstpRound (project : Project) (rstp : RSTP) (s : RstpSearch) : Iter RstpSearch RstpSearch :=
  match s.bfsQueue.value s.tier with
  | [] => .done s
  | device :: current =>
    let (interfaces, next) := visitInterfaces project rstp s.deviceSet current s.tier device
      (s.bfsQueue.value (s.tier + 1))
    .next {
      bfsQueue := (s.bfsQueue.insert s.tier current).insert (s.tier + 1) next
      tier := if current.isEmpty then s.tier + 1 else s.tier
      deviceSet := s.deviceSet.insert { device with interfaces := interfaces }
      rstpTables := s.rstpTables.insert device.id
        { deviceId := device.id, active := true, helloTime := rstp.helloTime,
          priority := rstpPriority device.deviceRole } }

/-- The root and, if there is one, the backup root. -/
def rstpRoots (project : Project) (rstp : RSTP) : List Device :=
  let root := (project.getDeviceById rstp.rootDevice).getD {}
  let backupRoot := (project.getDeviceById rstp.backupRootDevice).getD {}
  { root with tier := 0, deviceRole := .rstpRoot } ::
    if rstp.backupRootDevice = -1 then []
    else [{ backupRoot with tier := 0, deviceRole := .rstpBackupRoot }]

/-- The search of `ComputeRedundantRSTP` for one group. -/
def computeRstpGroup (fuel : ℕ) (project : Project) (found : QSet Device × QMap ℤ RstpTable)
    (rstp : RSTP) : Option (QSet Device × QMap ℤ RstpTable) :=
  (Loop.run (rstpRound project rstp) fuel
    { bfsQueue := (∅ : QMap Int16 (List Device)).insert 0 (rstpRoots project rstp)
      tier := 0
      deviceSet := found.1
      rstpTables := found.2 }).map fun s => (s.deviceSet, s.rstpTables)

/-- The device types without a spanning tree. -/
def DeviceType.skipsRstpTable : DeviceType → Bool
  | .endStation => true
  | .icmp => true
  | .moxa => true
  | .unknown => true
  | _ => false

/-- A device without a tier. -/
def withoutTier (device : Device) : Device :=
  { device with
    tier := 0
    deviceRole := .unknown
    interfaces := device.interfaces.map fun interface => { interface with rootGuard := false } }

/-- One round of the last loop of `ComputeRedundantRSTP`, for a device that no group
reached. -/
def resetRstpDevice (found : QSet Device × QMap ℤ RstpTable) (device : Device) :
    QSet Device × QMap ℤ RstpTable :=
  if found.1.contains device then found
  else
    (found.1.insert (withoutTier device),
      if DeviceType.skipsRstpTable device.deviceType then found.2
      else found.2.insert device.id { deviceId := device.id })

/-- `ComputeRedundantRSTP` -/
def computeRedundantRSTP (fuel : ℕ) (project : Project) : Option Project :=
  (project.rstpGroups.foldlM (computeRstpGroup fuel project) ([], ∅)).map fun found =>
    let (deviceSet, rstpTables) := project.devices.foldl resetRstpDevice found
    { project with devices := deviceSet, rstpTables := rstpTables }

/-! ### Distances inside a group -/

/-- The root and the backup root of a group. -/
def rootsOf (rstp : RSTP) : Set ℤ :=
  {id | id = rstp.rootDevice ∨ (rstp.backupRootDevice ≠ -1 ∧ id = rstp.backupRootDevice)}

/-- A link leads on inside the group. -/
def GroupStep (project : Project) (rstp : RSTP) (a b : ℤ) : Prop :=
  Joined project a b ∧ b ∈ rstp.devices

/-- The least number of links from the roots through devices of the group. -/
abbrev TierOf (project : Project) (rstp : RSTP) (n : ℕ) (id : ℤ) : Prop :=
  Distance (rootsOf rstp) (GroupStep project rstp) n id

variable {project : Project} {rstp : RSTP} {device : Device} {interface : Interface}

/-! ### Copies of devices -/

/-- It carries the id and the address of a stored device. -/
def IsCopy (project : Project) (x : Device) : Prop :=
  ∃ device ∈ project.devices, x.id = device.id ∧ x.ipAddress = device.ipAddress

theorem isCopy_of_mem (h : device ∈ project.devices) : IsCopy project device :=
  ⟨device, h, rfl, rfl⟩

/-- Copies compare equal when they have one id. -/
theorem IsCopy.beq_iff (h : DevicesWellFormed project.devices) {y : Device}
    (hx : IsCopy project x) (hy : IsCopy project y) : (x == y) = true ↔ x.id = y.id := by
  rw [device_beq_iff, or_iff_left_of_imp]
  intro hip
  obtain ⟨device, hdev, hxid, hxip⟩ := hx
  obtain ⟨other, hother, hyid, hyip⟩ := hy
  have hsame : device = other := h.distinct.eq_of_beq device_beq_comm hdev hother
    (device_beq_iff.2 (.inr (by rw [← hxip, hip, hyip])))
  rw [hxid, hyid, hsame]

theorem contains_iff_of_isCopy (h : DevicesWellFormed project.devices) {s : List Device}
    {y : Device} (hs : ∀ x ∈ s, IsCopy project x) (hy : IsCopy project y) :
    QSet.contains s y = true ↔ y.id ∈ s.map (·.id) := by
  unfold QSet.contains
  rw [any_eq_true, mem_map]
  constructor
  · rintro ⟨x, hx, hxy⟩
    exact ⟨x, hx, ((hs x hx).beq_iff h hy).1 hxy⟩
  · rintro ⟨x, hx, hxy⟩
    exact ⟨x, hx, ((hs x hx).beq_iff h hy).2 hxy⟩

/-! ### The interfaces of a device -/

section

variable {deviceSet : QSet Device} {current next : List Device} {tier : Int16} {n : ℕ}

/-- **What the loop over the interfaces sees behind one of them**: a device of the
group that is neither finished nor waiting in this tier. -/
theorem nextTierNeighbor_eq_some (h : ConsistentLinks project)
    (hset : ∀ x ∈ deviceSet, IsCopy project x) (hcur : ∀ x ∈ current, IsCopy project x)
    {neighbor : Device} :
    nextTierNeighbor project rstp deviceSet current device interface = some neighbor ↔
      ∃ link ∈ project.links, link.hasEndpoint device.id interface.interfaceId = true ∧
        link.neighborId device.id ∈ rstp.devices ∧
        link.neighborId device.id ∉ deviceSet.map (·.id) ∧
        link.neighborId device.id ∉ current.map (·.id) ∧
        project.getDeviceById (link.neighborId device.id) = some neighbor := by
  unfold nextTierNeighbor
  split
  · next hnone =>
    constructor
    · intro hsome
      cases hsome
    · rintro ⟨link, hmem, hend, -⟩
      rw [(getLinkByInterfaceId_eq_some h.toLinkTable).2 ⟨hmem, hend⟩] at hnone
      cases hnone
  · next link hlink =>
    obtain ⟨hmem, hend⟩ := (getLinkByInterfaceId_eq_some h.toLinkTable).1 hlink
    obtain ⟨other, hother, hid, hget⟩ := h.exists_device (joined_neighborId hmem hend)
    have hcopy := isCopy_of_mem hother
    have hset' := contains_iff_of_isCopy h.devices hset hcopy
    have hcur' := contains_iff_of_isCopy h.devices hcur hcopy
    have hguard : (!rstp.devices.contains (link.neighborId device.id) ||
        deviceSet.contains other || QSet.contains current other) = true ↔
        ¬(link.neighborId device.id ∈ rstp.devices ∧
          link.neighborId device.id ∉ deviceSet.map (·.id) ∧
          link.neighborId device.id ∉ current.map (·.id)) := by
      rw [Bool.or_eq_true, Bool.or_eq_true, hset', hcur', hid, Bool.not_eq_true',
        ← Bool.not_eq_true, QSet.contains_iff_mem]
      tauto
    have hsplit : ∀ (l : Link), l ∈ project.links ∧
        l.hasEndpoint device.id interface.interfaceId = true → l = link := by
      intro l hl
      rw [(getLinkByInterfaceId_eq_some h.toLinkTable).2 hl] at hlink
      exact Option.some.inj hlink
    simp only [hget, Option.getD_some]
    split_ifs with hc
    · constructor
      · intro hsome
        cases hsome
      · rintro ⟨l, hl, hle, hin, hout, hout', -⟩
        obtain rfl := hsplit l ⟨hl, hle⟩
        exact absurd ⟨hin, hout, hout'⟩ (hguard.1 hc)
    · obtain ⟨hin, hout, hout'⟩ := not_not.1 (fun hn => hc (hguard.2 hn))
      constructor
      · intro hsome
        cases hsome
        exact ⟨link, hmem, hend, hin, hout, hout', hget⟩
      · rintro ⟨l, hl, hle, -, -, -, hfound⟩
        obtain rfl := hsplit l ⟨hl, hle⟩
        rw [hget] at hfound
        exact hfound

/-- The loop over the interfaces sets every root guard and lengthens the queue of
the next tier. -/
theorem visitInterfaces_eq : visitInterfaces project rstp deviceSet current tier device next =
    (device.interfaces.map fun interface =>
        { interface with
          rootGuard := (nextTierNeighbor project rstp deviceSet current device interface).isSome &&
            device.deviceProperty.stpRstp.rootGuard },
      (device.interfaces.filterMap
        (nextTierNeighbor project rstp deviceSet current device)).foldl
          (enqueueNeighbor (tier + 1)) next) := by
  unfold visitInterfaces
  generalize device.interfaces = interfaces
  suffices hall : ∀ passed : List Interface, ∀ next : List Device,
      interfaces.foldl (fun (acc : List Interface × List Device) interface =>
        match nextTierNeighbor project rstp deviceSet current device interface with
        | none => (acc.1 ++ [{ interface with rootGuard := false }], acc.2)
        | some neighbor =>
          (acc.1 ++
              [{ interface with rootGuard := device.deviceProperty.stpRstp.rootGuard }],
            enqueueNeighbor (tier + 1) acc.2 neighbor)) (passed, next) =
      (passed ++ interfaces.map fun interface =>
          { interface with
            rootGuard := (nextTierNeighbor project rstp deviceSet current device
                interface).isSome && device.deviceProperty.stpRstp.rootGuard },
        (interfaces.filterMap (nextTierNeighbor project rstp deviceSet current device)).foldl
          (enqueueNeighbor (tier + 1)) next) by
    simpa using hall [] next
  induction interfaces with
  | nil => simp
  | cons interface interfaces ih =>
    intro passed next
    rw [foldl_cons]
    cases hnbr : nextTierNeighbor project rstp deviceSet current device interface with
    | none => simp [hnbr, ih]
    | some neighbor => simp [hnbr, ih]

/-- The role of a device of the group. -/
def roleAt (rstp : RSTP) (n : ℕ) (id : ℤ) : DeviceRole :=
  if n ≠ 0 then .rstp else if id = rstp.rootDevice then .rstpRoot else .rstpBackupRoot

/-- A device that waits in the queue of a tier. -/
def Queued (project : Project) (rstp : RSTP) (n : ℕ) (x : Device) : Prop :=
  ∃ device ∈ project.devices, x =
    { device with tier := Int16.ofNat n, deviceRole := roleAt rstp n device.id }

theorem Queued.isCopy (h : Queued project rstp n x) : IsCopy project x := by
  obtain ⟨device, hdev, rfl⟩ := h
  exact ⟨device, hdev, rfl, rfl⟩

/-- **The queue of the next tier** holds what it held and the neighbors, once. -/
theorem mem_foldl_enqueueNeighbor (h : DevicesWellFormed project.devices)
    {neighbors : List Device} (hnbrs : ∀ x ∈ neighbors, x ∈ project.devices)
    (hnext : ∀ x ∈ next, Queued project rstp (n + 1) x) (hnodup : (next.map (·.id)).Nodup) :
    let next' := neighbors.foldl (enqueueNeighbor (ofNat (n + 1))) next
    (∀ x ∈ next', Queued project rstp (n + 1) x) ∧ (next'.map (·.id)).Nodup ∧
      ∀ id, id ∈ next'.map (·.id) ↔ id ∈ next.map (·.id) ∨ id ∈ neighbors.map (·.id) := by
  induction neighbors generalizing next with
  | nil => exact ⟨hnext, hnodup, fun id => by simp⟩
  | cons neighbor neighbors ih =>
    have hnbr := hnbrs neighbor mem_cons_self
    have hmem := contains_iff_of_isCopy h (fun x hx => (hnext x hx).isCopy)
      (isCopy_of_mem hnbr)
    rw [foldl_cons]
    by_cases hc : QSet.contains next neighbor = true
    · rw [show enqueueNeighbor (ofNat (n + 1)) next neighbor = next from if_pos hc]
      obtain ⟨hq, hn, hi⟩ := ih (fun x hx => hnbrs x (mem_cons_of_mem _ hx)) hnext hnodup
      refine ⟨hq, hn, fun id => ?_⟩
      have hold := hmem.1 hc
      rw [hi, map_cons, mem_cons]
      constructor
      · rintro (hid | hid)
        · exact .inl hid
        · exact .inr (.inr hid)
      · rintro (hid | rfl | hid)
        · exact .inl hid
        · exact .inl hold
        · exact .inr hid
    · rw [show enqueueNeighbor (ofNat (n + 1)) next neighbor =
        next ++ [{ neighbor with tier := ofNat (n + 1), deviceRole := .rstp }] from if_neg hc]
      have hnew : neighbor.id ∉ next.map (·.id) := fun hid => hc (hmem.2 hid)
      have hids : map (fun x : Device => x.id)
          (next ++ [{ neighbor with tier := ofNat (n + 1), deviceRole := .rstp }]) =
            next.map (·.id) ++ [neighbor.id] := by simp
      obtain ⟨hq, hn, hi⟩ := @ih
        (next ++ [{ neighbor with tier := ofNat (n + 1), deviceRole := .rstp }])
        (fun x hx => hnbrs x (mem_cons_of_mem _ hx))
        (fun x hx => by
          rcases mem_append.1 hx with hx | hx
          · exact hnext x hx
          · refine ⟨neighbor, hnbr, ?_⟩
            rw [mem_singleton.1 hx, roleAt, if_pos (Nat.succ_ne_zero n)])
        (by
          rw [hids]
          exact hnodup.append (nodup_singleton _) (by simpa using hnew))
      refine ⟨hq, hn, fun id => ?_⟩
      rw [hi, hids, mem_append, mem_singleton, map_cons, mem_cons, or_assoc]

end

/-! ### The search -/

/-- The interface leads to a device of the group that is one tier further from the
roots, or back to its own device. -/
def LeadsDown (project : Project) (rstp : RSTP) (n : ℕ) (deviceId : ℤ) (interface : Interface) :
    Prop :=
  ∃ link ∈ project.links, link.hasEndpoint deviceId interface.interfaceId = true ∧
    link.neighborId deviceId ∈ rstp.devices ∧
      (TierOf project rstp (n + 1) (link.neighborId deviceId) ∨
        link.neighborId deviceId = deviceId)

/-- **What the search makes of a device**: its tier is the distance, and a root
guard is set where the device supports it and the interface leads down. -/
def Finished (project : Project) (rstp : RSTP) (x : Device) : Prop :=
  ∃ device ∈ project.devices, ∃ n, TierOf project rstp n device.id ∧ ∃ guard : Interface → Bool,
    (∀ interface ∈ device.interfaces, guard interface = true ↔
      device.deviceProperty.stpRstp.rootGuard = true ∧
        LeadsDown project rstp n device.id interface) ∧
    x = { device with
      tier := Int16.ofNat n
      deviceRole := roleAt rstp n device.id
      interfaces := device.interfaces.map fun interface =>
        { interface with rootGuard := guard interface } }

theorem Finished.isCopy (h : Finished project rstp x) : IsCopy project x := by
  obtain ⟨device, hdev, n, -, guard, -, rfl⟩ := h
  exact ⟨device, hdev, rfl, rfl⟩

/-- The ids of the devices that are finished. -/
abbrev idsOf (finished : List Device) : Finset ℤ := (finished.map (·.id)).toFinset

/-- **The state of the search at the head of its loop.**  `start` is what earlier
groups finished. -/
structure SearchInv (project : Project) (rstp : RSTP) (start : QSet Device) (n : ℕ)
    (finished current next : List Device) (s : RstpSearch) : Prop where
  tier : s.tier = Int16.ofNat n
  queue : s.bfsQueue.value s.tier = current
  nextQueue : s.bfsQueue.value (s.tier + 1) = next
  otherQueues : ∀ k, k ≠ s.tier → k ≠ s.tier + 1 → s.bfsQueue.value k = []
  deviceSet : s.deviceSet = start ++ finished
  drained : current = [] → next = []
  frontier : Frontier (rootsOf rstp) (GroupStep project rstp) n (idsOf finished)
    (current.map (·.id)) (next.map (·.id))
  waiting : ∀ x ∈ current, Queued project rstp n x
  found : ∀ x ∈ next, Queued project rstp (n + 1) x
  finished : ∀ x ∈ finished, Finished project rstp x

/-- What the search needs of a group: its roots belong to it and are stored. -/
structure RootsStored (project : Project) (rstp : RSTP) : Prop where
  mem : ∀ id ∈ rootsOf rstp, id ∈ rstp.devices
  stored : ∀ id ∈ rootsOf rstp, ∃ device ∈ project.devices, device.id = id
  apart : rstp.rootDevice ≠ rstp.backupRootDevice

theorem mem_devices_of_tierOf (h : RootsStored project rstp) {n : ℕ} {id : ℤ}
    (htier : TierOf project rstp n id) : id ∈ rstp.devices := by
  cases n with
  | zero => exact h.mem id (Distance.zero_iff.1 htier)
  | succ n =>
    obtain ⟨p, -, hstep⟩ := htier.exists_pred
    exact hstep.2

section

variable {start : QSet Device} {finished current next : List Device} {n : ℕ} {s : RstpSearch}

theorem tier_add_two_ne (tier : Int16) : tier + 1 + 1 ≠ tier ∧ tier + 1 + 1 ≠ tier + 1 ∧
    tier + 1 ≠ tier := by
  refine ⟨fun h => ?_, fun h => ?_, fun h => ?_⟩ <;>
  · have hbits := congrArg Int16.toBitVec h
    simp only [Int16.toBitVec_add, show Int16.toBitVec 1 = 1#16 from rfl] at hbits
    bv_omega

variable (h : ConsistentLinks project)
  (hstart : ∀ x ∈ start, IsCopy project x ∧ x.id ∉ rstp.devices)
include h hstart

/-- **One interface of the device that is worked on** leads to a device that will
wait in the next tier. -/
theorem exists_nextTierNeighbor_iff
    (hfin : ∀ x ∈ finished, IsCopy project x) (hcur : ∀ x ∈ current, IsCopy project x)
    (hfrontier : Frontier (rootsOf rstp) (GroupStep project rstp) n (idsOf finished)
      (device.id :: current.map (·.id)) (next.map (·.id))) :
    (∃ neighbor, nextTierNeighbor project rstp (start ++ finished) current device interface =
        some neighbor) ↔
      (TierOf project rstp n device.id ∧ device.id ∉ idsOf finished) ∧
        LeadsDown project rstp n device.id interface := by
  have hset : ∀ x ∈ start ++ finished, IsCopy project x :=
    forall_mem_append.2 ⟨fun x hx => (hstart x hx).1, hfin⟩
  have hout : ∀ id ∈ rstp.devices, id ∉ start.map (·.id) := by
    intro id hid hmem
    obtain ⟨x, hx, rfl⟩ := mem_map.1 hmem
    exact (hstart x hx).2 hid
  constructor
  · rintro ⟨neighbor, hnbr⟩
    obtain ⟨link, hmem, hend, hin, hset', hcur', -⟩ :=
      (nextTierNeighbor_eq_some h hset hcur).1 hnbr
    rw [map_append, mem_append, not_or] at hset'
    have hfresh := (hfrontier.fresh_iff ⟨joined_neighborId hmem hend, hin⟩).1
      ⟨by simpa using hset'.2, hcur'⟩
    exact ⟨hfresh.1, link, hmem, hend, hin, hfresh.2⟩
  · rintro ⟨hself, link, hmem, hend, hin, hdown⟩
    obtain ⟨hfresh, hcur'⟩ :=
      (hfrontier.fresh_iff ⟨joined_neighborId hmem hend, hin⟩).2 ⟨hself, hdown⟩
    obtain ⟨neighbor, -, -, hget⟩ := h.exists_device (joined_neighborId hmem hend)
    refine ⟨neighbor, (nextTierNeighbor_eq_some h hset hcur).2
      ⟨link, hmem, hend, hin, ?_, hcur', hget⟩⟩
    rw [map_append, mem_append, not_or]
    exact ⟨hout _ hin, by simpa using hfresh⟩

/-- **The queue of the next tier after a round.** -/
theorem mem_nextTier_iff
    (hfin : ∀ x ∈ finished, IsCopy project x) (hcur : ∀ x ∈ current, IsCopy project x)
    {stored : Device} (hstored : stored ∈ project.devices) (hid : device.id = stored.id)
    (hintfs : device.interfaces = stored.interfaces) {b : ℤ} :
    b ∈ (device.interfaces.filterMap
        (nextTierNeighbor project rstp (start ++ finished) current device)).map (·.id) ↔
      GroupStep project rstp device.id b ∧ b ∉ idsOf finished ∧ b ∉ current.map (·.id) := by
  have hset : ∀ x ∈ start ++ finished, IsCopy project x :=
    forall_mem_append.2 ⟨fun x hx => (hstart x hx).1, hfin⟩
  simp only [mem_map, mem_filterMap]
  constructor
  · rintro ⟨neighbor, ⟨interface, -, hnbr⟩, rfl⟩
    obtain ⟨link, hmem, hend, hin, hset', hcur', hget⟩ :=
      (nextTierNeighbor_eq_some h hset hcur).1 hnbr
    obtain ⟨-, hnbr⟩ := h.devices.id_of_find hget
    rw [map_append, mem_append, not_or] at hset'
    rw [hnbr]
    exact ⟨⟨joined_neighborId hmem hend, hin⟩, by simpa using hset'.2, by simpa using hcur'⟩
  · rintro ⟨⟨hjoined, hin⟩, hfresh, hcur'⟩
    obtain ⟨interface, hintf, link, hmem, hend, rfl⟩ :=
      h.exists_interface hstored (hid ▸ hjoined)
    rw [← hid] at hend hin hfresh hcur' hjoined ⊢
    rw [← hintfs] at hintf
    obtain ⟨neighbor, -, hnbr, hget⟩ := h.exists_device hjoined
    refine ⟨neighbor, ⟨interface, hintf, (nextTierNeighbor_eq_some h hset hcur).2
      ⟨link, hmem, hend, hin, ?_, by simpa using hcur', hget⟩⟩, hnbr⟩
    rw [map_append, mem_append, not_or]
    refine ⟨fun hmem' => ?_, by simpa using hfresh⟩
    obtain ⟨x, hx, hxid⟩ := mem_map.1 hmem'
    exact (hstart x hx).2 (hxid ▸ hin)

/-- **A device that is finished for the first time** has its tier and its root
guards. -/
theorem finished_of_round
    (hinv : SearchInv project rstp start n finished (device :: current) next s)
    (hnew : device.id ∉ idsOf finished) :
    Finished project rstp { device with
      interfaces := device.interfaces.map fun interface =>
        { interface with
          rootGuard := (nextTierNeighbor project rstp (start ++ finished) current device
            interface).isSome && device.deviceProperty.stpRstp.rootGuard } } := by
  obtain ⟨stored, hstored, hdev⟩ := hinv.waiting device mem_cons_self
  have htier : TierOf project rstp n device.id := by
    rcases hinv.frontier.current_eq device.id mem_cons_self with ⟨htier, -⟩ | ⟨hold, -⟩
    · exact htier
    · exact absurd hold hnew
  have hid : device.id = stored.id := by rw [hdev]
  refine ⟨stored, hstored, n, hid ▸ htier, fun interface =>
    (nextTierNeighbor project rstp (start ++ finished) current device interface).isSome &&
      device.deviceProperty.stpRstp.rootGuard, fun interface _ => ?_, by rw [hdev]⟩
  have hleads := @exists_nextTierNeighbor_iff _ _ _ interface _ _ _ _ _ h hstart
    (fun x hx => (hinv.finished x hx).isCopy)
    (fun x hx => (hinv.waiting x (mem_cons_of_mem _ hx)).isCopy) hinv.frontier
  rw [Bool.and_eq_true, Option.isSome_iff_exists, hleads, ← hid, hdev]
  constructor
  · rintro ⟨⟨-, hdown⟩, hsupp⟩
    exact ⟨hsupp, hdown⟩
  · rintro ⟨hsupp, hdown⟩
    rw [hdev] at htier hnew
    exact ⟨⟨⟨htier, hnew⟩, hdown⟩, hsupp⟩

/-- A copy of a device of the group joins the finished ones, unless one of them is a copy of it. -/
theorem insert_finished
    (hfinished : ∀ x ∈ finished, Finished project rstp x) (hcopy : IsCopy project device)
    (hgroup : device.id ∈ rstp.devices)
    (hnew : device.id ∉ idsOf finished → Finished project rstp device) :
    ∃ finished', QSet.insert (start ++ finished) device = start ++ finished' ∧
      idsOf finished' = insert device.id (idsOf finished) ∧
        ∀ x ∈ finished', Finished project rstp x := by
  have hset : ∀ x ∈ start ++ finished, IsCopy project x :=
    forall_mem_append.2 ⟨fun x hx => (hstart x hx).1, fun x hx => (hfinished x hx).isCopy⟩
  have hcont : QSet.contains (start ++ finished) device = true ↔ device.id ∈ idsOf finished := by
    rw [contains_iff_of_isCopy h.devices hset hcopy, map_append, mem_append,
      or_iff_right, mem_toFinset]
    intro hmem
    obtain ⟨x, hx, hxid⟩ := mem_map.1 hmem
    exact (hstart x hx).2 (by rw [hxid]; exact hgroup)
  by_cases hold : device.id ∈ idsOf finished
  · exact ⟨finished, by rw [QSet.insert, if_pos (hcont.2 hold)],
      (Finset.insert_eq_of_mem hold).symm, hfinished⟩
  · refine ⟨finished ++ [device], ?_, ?_, fun x hx => ?_⟩
    · rw [QSet.insert, if_neg (fun hc => hold (hcont.1 hc)), append_assoc]
    · ext b
      simp [idsOf]
    · rcases mem_append.1 hx with hx | hx
      · exact hfinished x hx
      · rw [mem_singleton.1 hx]
        exact hnew hold

omit h hstart

/-- **The step lemma of the search.** -/
theorem SearchInv.round (h : ConsistentLinks project) (hroots : RootsStored project rstp)
    (hstart : ∀ x ∈ start, IsCopy project x ∧ x.id ∉ rstp.devices)
    (hinv : SearchInv project rstp start n finished (device :: current) next s) :
    ∃ s' n' finished' current' next', rstpRound project rstp s = .next s' ∧
      SearchInv project rstp start n' finished' current' next' s' ∧
      Frontier.work (idsOf project.devices) (idsOf finished') (current'.map (·.id))
          (next'.map (·.id)) <
        Frontier.work (idsOf project.devices) (idsOf finished) ((device :: current).map (·.id))
          (next.map (·.id)) := by
  obtain ⟨stored, hstored, hdev⟩ := hinv.waiting device mem_cons_self
  have hid : device.id = stored.id := by rw [hdev]
  have hfin : ∀ x ∈ finished, IsCopy project x := fun x hx => (hinv.finished x hx).isCopy
  have hcur : ∀ x ∈ current, IsCopy project x := fun x hx =>
    (hinv.waiting x (mem_cons_of_mem _ hx)).isCopy
  have hset : ∀ x ∈ start ++ finished, IsCopy project x :=
    forall_mem_append.2 ⟨fun x hx => (hstart x hx).1, hfin⟩
  -- the queue of the next tier
  let neighbors := device.interfaces.filterMap
    (nextTierNeighbor project rstp (start ++ finished) current device)
  have hnbrs : ∀ x ∈ neighbors, x ∈ project.devices := by
    intro x hx
    obtain ⟨interface, -, hsome⟩ := mem_filterMap.1 hx
    obtain ⟨link, -, -, -, -, -, hget⟩ := (nextTierNeighbor_eq_some h hset hcur).1 hsome
    exact (h.devices.id_of_find hget).1
  obtain ⟨hfound, hnodup, hmem⟩ := mem_foldl_enqueueNeighbor h.devices hnbrs hinv.found
    hinv.frontier.next_nodup
  let next' := neighbors.foldl (enqueueNeighbor (ofNat (n + 1))) next
  have hnext : ∀ b, b ∈ next'.map (·.id) ↔ b ∈ next.map (·.id) ∨
      (GroupStep project rstp device.id b ∧ b ∉ idsOf finished ∧ b ∉ current.map (·.id)) := by
    intro b
    rw [hmem b, mem_nextTier_iff h hstart hfin hcur hstored hid (by rw [hdev])]
  have hprocess := hinv.frontier.process hnodup hnext
  -- the set of finished devices
  let device' : Device := { device with
    interfaces := device.interfaces.map fun interface =>
      { interface with
        rootGuard := (nextTierNeighbor project rstp (start ++ finished) current device
          interface).isSome && device.deviceProperty.stpRstp.rootGuard } }
  have hcopy : IsCopy project device' := ⟨stored, hstored, hid, by simp only [device', hdev]⟩
  have hgroup : device.id ∈ rstp.devices := by
    rcases hinv.frontier.current_eq device.id mem_cons_self with ⟨htier, -⟩ | ⟨-, m, -, htier⟩
    · exact mem_devices_of_tierOf hroots htier
    · exact mem_devices_of_tierOf hroots htier
  obtain ⟨finished', hins, hids, hspec⟩ := insert_finished h hstart hinv.finished hcopy hgroup
    (finished_of_round h hstart hinv)
  have hsucc : ofNat (n + 1) = ofNat n + 1 := ofNat_add n 1
  have hround : rstpRound project rstp s = .next {
      bfsQueue := (s.bfsQueue.insert s.tier current).insert (s.tier + 1) next'
      tier := if current.isEmpty then s.tier + 1 else s.tier
      deviceSet := start ++ finished'
      rstpTables := s.rstpTables.insert device.id
        { deviceId := device.id, active := true, helloTime := rstp.helloTime,
          priority := rstpPriority device.deviceRole } } := by
    unfold rstpRound
    rw [hinv.queue, hinv.nextQueue, hinv.deviceSet]
    simp only [visitInterfaces_eq]
    rw [hinv.tier, ← hsucc, hins]
  have hpool : device.id ∈ idsOf project.devices :=
    mem_toFinset.2 (mem_map.2 ⟨stored, hstored, hid.symm⟩)
  have hwork : Frontier.work (idsOf project.devices) (insert device.id (idsOf finished))
      (current.map (·.id)) (next'.map (·.id)) <
        Frontier.work (idsOf project.devices) (idsOf finished) ((device :: current).map (·.id))
          (next.map (·.id)) := by
    refine Frontier.work_lt hpool hnodup (fun b hb => ?_) (fun hold => ?_)
    · obtain ⟨x, hx, rfl⟩ := mem_map.1 hb
      obtain ⟨other, hother, rfl⟩ := hfound x hx
      exact mem_toFinset.2 (mem_map.2 ⟨other, hother, rfl⟩)
    · -- a copy of a finished device finds nothing
      have hnone : neighbors = [] := by
        refine filterMap_eq_nil_iff.2 fun interface _ => ?_
        rw [Option.eq_none_iff_forall_ne_some]
        intro neighbor hsome
        exact ((exists_nextTierNeighbor_iff h hstart hfin hcur hinv.frontier).1
          ⟨neighbor, hsome⟩).1.2 hold
      simp only [next', hnone, foldl_nil]
  rw [← hids] at hprocess hwork
  obtain ⟨htwo, htwo', hone⟩ := tier_add_two_ne s.tier
  cases current with
  | nil =>
    refine ⟨_, n + 1, finished', next', [], hround, ⟨by simp [hinv.tier, hsucc], ?_, ?_,
      fun k hk hk' => ?_, rfl, fun _ => rfl, hprocess.advance, hfound, by simp, hspec⟩, ?_⟩
    · simp
    · simp [htwo.symm, htwo'.symm, hinv.otherQueues _ htwo htwo']
    · simp only [isEmpty_nil, if_true] at hk hk'
      by_cases hk₀ : s.tier = k
      · simp [hk₀]
      · simp [hk₀, hk.symm, hinv.otherQueues k (Ne.symm hk₀) hk]
    · rw [map_nil, Frontier.work_advance]
      exact hwork
  | cons x current =>
    refine ⟨_, n, finished', x :: current, next', hround, ⟨by simp [hinv.tier], ?_, ?_,
      fun k hk hk' => ?_, rfl, fun hnil => absurd hnil (cons_ne_nil _ _), hprocess,
      fun y hy => hinv.waiting y (mem_cons_of_mem _ hy), hfound, hspec⟩, hwork⟩
    · simp [hone]
    · simp
    · simp only [isEmpty_cons, Bool.false_eq_true, if_false] at hk hk'
      simp [hk.symm, hk'.symm, hinv.otherQueues k hk hk']

theorem rstpRoots_spec (h : DevicesWellFormed project.devices) (hroots : RootsStored project rstp) :
    (∀ x ∈ rstpRoots project rstp, Queued project rstp 0 x) ∧
      ((rstpRoots project rstp).map (·.id)).Nodup ∧
      ∀ id, id ∈ (rstpRoots project rstp).map (·.id) ↔ id ∈ rootsOf rstp := by
  obtain ⟨root, hroot, hrootId⟩ := hroots.stored rstp.rootDevice (.inl rfl)
  have hget := h.getDeviceById hroot hrootId
  have hqueued : Queued project rstp 0 { root with tier := 0, deviceRole := .rstpRoot } :=
    ⟨root, hroot, by rw [roleAt, if_neg (not_not.2 rfl), if_pos hrootId]; rfl⟩
  unfold rstpRoots
  rw [hget, Option.getD_some]
  dsimp only
  by_cases hbackup : rstp.backupRootDevice = -1
  · rw [if_pos hbackup]
    refine ⟨fun x hx => (mem_singleton.1 hx) ▸ hqueued, by simp, fun id => ?_⟩
    simp [rootsOf, hbackup, hrootId]
  · obtain ⟨backupRoot, hmem, hid⟩ := hroots.stored rstp.backupRootDevice (.inr ⟨hbackup, rfl⟩)
    have hne : root.id ≠ backupRoot.id := by
      rw [hrootId, hid]
      exact hroots.apart
    rw [if_neg hbackup, h.getDeviceById hmem hid, Option.getD_some]
    refine ⟨fun x hx => ?_, by simpa using hne, fun id => ?_⟩
    · rcases mem_cons.1 hx with rfl | hx
      · exact hqueued
      · rw [mem_singleton.1 hx]
        refine ⟨backupRoot, hmem, ?_⟩
        rw [roleAt, if_neg (not_not.2 rfl), if_neg (fun e => hne (hrootId.trans e.symm))]
        rfl
    · simp [rootsOf, hbackup, hrootId, hid]

theorem searchInv_init (h : DevicesWellFormed project.devices) (hroots : RootsStored project rstp)
    (start : QSet Device) (tables : QMap ℤ RstpTable) :
    SearchInv project rstp start 0 [] (rstpRoots project rstp) []
      { bfsQueue := (∅ : QMap Int16 (List Device)).insert 0 (rstpRoots project rstp)
        tier := 0
        deviceSet := start
        rstpTables := tables } := by
  obtain ⟨hqueued, hnodup, hmem⟩ := rstpRoots_spec h hroots
  exact ⟨rfl, by simp, by simp, fun k hk _ => by simp [Ne.symm hk], by simp, fun _ => rfl,
    Frontier.init hnodup hmem, hqueued, by simp, by simp⟩

end

/-- The rounds that are enough for the search in one group. -/
def rstpRounds (project : Project) : ℕ :=
  ((idsOf project.devices).card + 1) * (idsOf project.devices).card + 3

/-- **What a group adds to the finished devices**: exactly those that can be reached
inside it, with their tiers, roles and root guards.  The search ends. -/
theorem exists_computeRstpGroup (h : ConsistentLinks project) (hroots : RootsStored project rstp)
    {start : QSet Device} (hstart : ∀ x ∈ start, IsCopy project x ∧ x.id ∉ rstp.devices)
    (hfuel : rstpRounds project ≤ fuel) (tables : QMap ℤ RstpTable) :
    ∃ finished tables', computeRstpGroup fuel project (start, tables) rstp =
        some (start ++ finished, tables') ∧
      (∀ x ∈ finished, Finished project rstp x) ∧
      ∀ id, id ∈ finished.map (·.id) ↔ ∃ n, TierOf project rstp n id := by
  let I (s : RstpSearch) : Prop := ∃ n finished current next,
    SearchInv project rstp start n finished current next s
  let μ (s : RstpSearch) : ℕ := Frontier.work (idsOf project.devices)
    (idsOf (s.deviceSet.drop start.length)) ((s.bfsQueue.value s.tier).map (·.id))
    ((s.bfsQueue.value (s.tier + 1)).map (·.id))
  have hμ : ∀ {n finished current next s},
      SearchInv project rstp start n finished current next s →
      μ s = Frontier.work (idsOf project.devices) (idsOf finished) (current.map (·.id))
        (next.map (·.id)) := by
    intro n finished current next s hinv
    simp only [μ, hinv.queue, hinv.nextQueue, hinv.deviceSet, drop_left]
  have hdone : ∀ {n finished next s}, SearchInv project rstp start n finished [] next s →
      rstpRound project rstp s = .done s := by
    intro n finished next s hinv
    unfold rstpRound
    rw [hinv.queue]
  have hstep : ∀ s, I s → (∃ r, rstpRound project rstp s = .done r) ∨
      ∃ s', rstpRound project rstp s = .next s' ∧ I s' ∧ μ s' < μ s := by
    rintro s ⟨n, finished, current, next, hinv⟩
    cases current with
    | nil => exact .inl ⟨s, hdone hinv⟩
    | cons device current =>
      obtain ⟨s', n', finished', current', next', hround, hinv', hlt⟩ :=
        hinv.round h hroots hstart
      exact .inr ⟨s', hround, ⟨n', finished', current', next', hinv'⟩, by
        rw [hμ hinv, hμ hinv']
        exact hlt⟩
  have hinit := searchInv_init h.devices hroots start tables
  have hlen : (rstpRoots project rstp).length ≤ 2 := by
    unfold rstpRoots
    split_ifs <;> simp
  obtain ⟨r, t, hrun, ⟨n, finished, current, next, hinv⟩, ht⟩ :=
    Loop.exists_run_done (I := I) μ ⟨_, _, _, _, hinit⟩ hstep (show μ _ < fuel by
      rw [hμ hinit]
      unfold Frontier.work
      unfold rstpRounds at hfuel
      rw [show idsOf [] = ∅ from rfl, Finset.sdiff_empty, length_map, map_nil,
        length_nil]
      omega)
  cases current with
  | cons device current =>
    obtain ⟨s', _, _, _, _, hround, -⟩ := hinv.round h hroots hstart
    rw [hround] at ht
    cases ht
  | nil =>
    rw [hdone hinv] at ht
    cases ht
    refine ⟨finished, r.rstpTables, ?_, hinv.finished, fun id => ?_⟩
    · unfold computeRstpGroup
      rw [hrun, Option.map_some, hinv.deviceSet]
    · have hfrontier := hinv.frontier
      rw [hinv.drained rfl] at hfrontier
      rw [← hfrontier.mem_done_iff, mem_toFinset]

/-! ### All groups -/

/-- **RSTP groups as `CheckRedundantRSTP` demands them**: pairwise disjoint, each with
its roots among its devices and stored. -/
structure GroupsWellFormed (project : Project) : Prop where
  disjoint : project.rstpGroups.Pairwise fun x y => ∀ id ∈ x.devices, id ∉ y.devices
  roots : ∀ rstp ∈ project.rstpGroups, RootsStored project rstp

theorem GroupsWellFormed.eq_of_mem (h : GroupsWellFormed project) {x y : RSTP}
    (hx : x ∈ project.rstpGroups) (hy : y ∈ project.rstpGroups) {id : ℤ} (hxid : id ∈ x.devices)
    (hyid : id ∈ y.devices) : x = y := by
  by_contra hne
  have : Std.Symm fun x y : RSTP => ∀ id ∈ x.devices, id ∉ y.devices :=
    ⟨fun x y hxy id hy hx => hxy id hx hy⟩
  exact List.Pairwise.forall h.disjoint hx hy hne id hxid hyid

/-- **The finished devices of all groups.** -/
theorem exists_computeRstpGroups (h : ConsistentLinks project)
    (hgroups : GroupsWellFormed project) (hfuel : rstpRounds project ≤ fuel) :
    ∃ found, project.rstpGroups.foldlM (computeRstpGroup fuel project) ([], ∅) = some found ∧
      (∀ x ∈ found.1, ∃ rstp ∈ project.rstpGroups, Finished project rstp x) ∧
      ∀ rstp ∈ project.rstpGroups, ∀ id, (∃ n, TierOf project rstp n id) →
        id ∈ found.1.map (·.id) := by
  refine OptionRule.exists_foldlM_moment (I := fun passed (found : QSet Device × QMap ℤ RstpTable) =>
    (∀ x ∈ found.1, ∃ rstp ∈ passed, Finished project rstp x) ∧
      ∀ rstp ∈ passed, ∀ id, (∃ n, TierOf project rstp n id) → id ∈ found.1.map (·.id))
    (b := (([], ∅) : QSet Device × QMap ℤ RstpTable)) ⟨by simp, by simp⟩ ?_
  rintro passed rstp rest ⟨start, tables⟩ hsplit ⟨hfin, hreach⟩
  have hmem : rstp ∈ project.rstpGroups := by
    rw [hsplit]
    simp
  have hpast : ∀ other ∈ passed, other ∈ project.rstpGroups := fun other hother => by
    rw [hsplit]
    exact mem_append_left _ hother
  have hstart : ∀ x ∈ start, IsCopy project x ∧ x.id ∉ rstp.devices := by
    intro x hx
    obtain ⟨other, hother, hspec⟩ := hfin x hx
    refine ⟨hspec.isCopy, ?_⟩
    obtain ⟨device, -, n, htier, -, -, rfl⟩ := hspec
    have hdisjoint := hgroups.disjoint
    rw [hsplit, pairwise_append] at hdisjoint
    exact hdisjoint.2.2 other hother rstp mem_cons_self device.id
      (mem_devices_of_tierOf (hgroups.roots other (hpast other hother)) htier)
  obtain ⟨finished, tables', hrun, hspec, hids⟩ :=
    exists_computeRstpGroup h (hgroups.roots rstp hmem) hstart hfuel tables
  refine ⟨_, hrun, fun x hx => ?_, fun other hother id hid => ?_⟩
  · rcases mem_append.1 hx with hx | hx
    · obtain ⟨other, hother, hx⟩ := hfin x hx
      exact ⟨other, mem_append_left _ hother, hx⟩
    · exact ⟨rstp, by simp, hspec x hx⟩
  · rw [map_append, mem_append]
    rcases mem_append.1 hother with hother | hother
    · exact .inl (hreach other hother id hid)
    · rw [mem_singleton.1 hother] at hid
      exact .inr ((hids id).2 hid)

/-- **The devices that no group reached** lose their tier; the others stay as they are. -/
theorem mem_foldl_resetRstpDevice (h : DevicesWellFormed project.devices)
    {found : QSet Device × QMap ℤ RstpTable} (hfound : ∀ x ∈ found.1, IsCopy project x)
    {devices : List Device} (hdevs : ∀ x ∈ devices, x ∈ project.devices)
    (hnodup : (devices.map (·.id)).Nodup) :
    x ∈ (devices.foldl resetRstpDevice found).1 ↔ x ∈ found.1 ∨
      ∃ device ∈ devices, device.id ∉ found.1.map (·.id) ∧ x = withoutTier device := by
  induction devices generalizing found with
  | nil => simp
  | cons device devices ih =>
    rw [map_cons, nodup_cons] at hnodup
    have hmem := hdevs device mem_cons_self
    have hrest : ∀ x ∈ devices, x ∈ project.devices := fun x hx =>
      hdevs x (mem_cons_of_mem _ hx)
    have hcont := contains_iff_of_isCopy h hfound (isCopy_of_mem hmem)
    have hcopy : IsCopy project (withoutTier device) := ⟨device, hmem, rfl, rfl⟩
    have hcont' := contains_iff_of_isCopy h hfound hcopy
    rw [foldl_cons]
    by_cases hc : found.1.contains device = true
    · rw [show resetRstpDevice found device = found from if_pos hc,
        ih hfound hrest hnodup.2]
      refine or_congr_right ⟨?_, ?_⟩
      · rintro ⟨other, hother, hfresh, rfl⟩
        exact ⟨other, mem_cons_of_mem _ hother, hfresh, rfl⟩
      · rintro ⟨other, hother, hfresh, rfl⟩
        rcases mem_cons.1 hother with rfl | hother
        · exact absurd (hcont.1 hc) hfresh
        · exact ⟨other, hother, hfresh, rfl⟩
    · have hnew : device.id ∉ found.1.map (·.id) := fun hid => hc (hcont.2 hid)
      have hset : (resetRstpDevice found device).1 = found.1 ++ [withoutTier device] := by
        rw [resetRstpDevice, if_neg hc, QSet.insert, if_neg (fun h => hnew (hcont'.1 h))]
      rw [ih (fun x hx => ?_) hrest hnodup.2, hset]
      · have hids : map (fun x : Device => x.id) (found.1 ++ [withoutTier device]) =
            found.1.map (·.id) ++ [device.id] := by simp [withoutTier]
        rw [hids, mem_append, mem_singleton, or_assoc]
        refine or_congr_right ?_
        constructor
        · rintro (rfl | ⟨other, hother, hfresh, rfl⟩)
          · exact ⟨device, mem_cons_self, hnew, rfl⟩
          · rw [mem_append, not_or] at hfresh
            exact ⟨other, mem_cons_of_mem _ hother, hfresh.1, rfl⟩
        · rintro ⟨other, hother, hfresh, rfl⟩
          rcases mem_cons.1 hother with rfl | hother
          · exact .inl rfl
          · refine .inr ⟨other, hother, ?_, rfl⟩
            rw [mem_append, not_or, mem_singleton]
            exact ⟨hfresh, fun e => hnodup.1 (e ▸ mem_map_of_mem hother)⟩
      · rw [hset] at hx
        rcases mem_append.1 hx with hx | hx
        · exact hfound x hx
        · rw [mem_singleton.1 hx]
          exact hcopy

/-! ### The tiers are the distances -/

/-- The device with another tier and role and other root guards. -/
def Recomputed (device device' : Device) : Prop :=
  ∃ (tier : Int16) (role : DeviceRole) (guard : Interface → Bool), device' =
    { device with
      tier := tier
      deviceRole := role
      interfaces := device.interfaces.map fun interface =>
        { interface with rootGuard := guard interface } }

/-- **The device has its tier**: the least number of links from the roots through
devices of the group, 0 and the role for the roots themselves, and on a device
that supports it a root guard exactly where an interface leads to a device of the
group in the next higher tier. -/
structure TierInOrder (project project' : Project) (rstp : RSTP) (device : Device) : Prop where
  tier : ∀ n, TierOf project rstp n device.id → device.tier.toInt = n
  root : device.id = rstp.rootDevice → device.tier = 0 ∧ device.deviceRole = .rstpRoot
  backupRoot : rstp.backupRootDevice ≠ -1 → device.id = rstp.backupRootDevice →
    device.tier = 0 ∧ device.deviceRole = .rstpBackupRoot
  rootGuard : device.deviceProperty.stpRstp.rootGuard = true →
    ∀ interface ∈ device.interfaces, (interface.rootGuard = true ↔
      ∃ link ∈ project.links, link.hasEndpoint device.id interface.interfaceId = true ∧
        link.neighborId device.id ∈ rstp.devices ∧
        ∃ neighbor, project'.getDeviceById (link.neighborId device.id) = some neighbor ∧
          neighbor.tier.toInt = device.tier.toInt + 1)

/-- Every device of a group has its tier. -/
def TiersInOrder (project project' : Project) : Prop :=
  ∀ rstp ∈ project.rstpGroups, ∀ device ∈ project.devices, device.id ∈ rstp.devices →
    ∃ device', project'.getDeviceById device.id = some device' ∧ Recomputed device device' ∧
      TierInOrder project project' rstp device'

/-- A 16-bit number holds every distance, and no device that can set root guards is
linked to itself. -/
def TiersFit (project : Project) : Prop :=
  ∀ rstp ∈ project.rstpGroups, ∀ device ∈ project.devices, ∀ n,
    TierOf project rstp n device.id → n < 2 ^ 15 ∧
      (device.deviceProperty.stpRstp.rootGuard = true → ¬Joined project device.id device.id)

/-- What `ComputeRedundantRSTP` makes of the devices of a group. -/
structure RstpResult (project project' : Project) : Prop where
  wellFormed : DevicesWellFormed project'.devices
  reached : ∀ rstp ∈ project.rstpGroups, ∀ device ∈ project.devices, ∀ n,
    TierOf project rstp n device.id → ∃ guard : Interface → Bool,
      (∀ interface ∈ device.interfaces, guard interface = true ↔
        device.deviceProperty.stpRstp.rootGuard = true ∧
          LeadsDown project rstp n device.id interface) ∧
      { device with
        tier := Int16.ofNat n
        deviceRole := roleAt rstp n device.id
        interfaces := device.interfaces.map fun interface =>
          { interface with rootGuard := guard interface } } ∈ project'.devices
  unreached : ∀ device ∈ project.devices,
    (∀ rstp ∈ project.rstpGroups, ∀ n, ¬TierOf project rstp n device.id) →
      withoutTier device ∈ project'.devices

/-- The finished devices are a set in every round. -/
theorem distinct_computeRstpGroup {found found' : QSet Device × QMap ℤ RstpTable}
    (h : computeRstpGroup fuel project found rstp = some found') (hdist : found.1.Distinct) :
    found'.1.Distinct := by
  obtain ⟨s, hrun, rfl⟩ := Option.map_eq_some_iff.1 h
  obtain ⟨t, hvis, hdone⟩ := Loop.exists_of_run hrun
  have ht : t.deviceSet.Distinct := by
    refine hvis.rule (I := fun s => s.deviceSet.Distinct) hdist fun s s' _ hs hround => ?_
    unfold rstpRound at hround
    split at hround
    · cases hround
    · cases hround
      exact hs.insert _
  unfold rstpRound at hdone
  split at hdone
  · cases hdone
    exact ht
  · cases hdone

theorem distinct_foldl_resetRstpDevice {devices : List Device}
    {found : QSet Device × QMap ℤ RstpTable} (h : found.1.Distinct) :
    (devices.foldl resetRstpDevice found).1.Distinct := by
  induction devices generalizing found with
  | nil => exact h
  | cons device devices ih =>
    refine ih ?_
    unfold resetRstpDevice
    split_ifs
    · exact h
    · exact h.insert _
    · exact h.insert _

/-- **`ComputeRedundantRSTP` ends**, and this is what it makes of the devices. -/
theorem exists_computeRedundantRSTP (h : ConsistentLinks project)
    (hgroups : GroupsWellFormed project) (hfuel : rstpRounds project ≤ fuel) :
    ∃ project', computeRedundantRSTP fuel project = some project' ∧
      RstpResult project project' := by
  obtain ⟨found, hrun, hfin, hreach⟩ := exists_computeRstpGroups h hgroups hfuel
  have hcopies : ∀ x ∈ found.1, IsCopy project x := fun x hx => by
    obtain ⟨rstp, -, hspec⟩ := hfin x hx
    exact hspec.isCopy
  have hnodup : (project.devices.map (·.id)).Nodup := by
    refine pairwise_map.2 (h.devices.distinct.imp fun hxy hid => ?_)
    rw [device_beq_iff.2 (.inl hid)] at hxy
    cases hxy
  have hmem := fun x => mem_foldl_resetRstpDevice (x := x) h.devices hcopies (fun _ => id) hnodup
  refine ⟨_, by rw [computeRedundantRSTP, hrun, Option.map_some], ⟨⟨?_, ?_⟩, ?_, ?_⟩⟩
  · exact distinct_foldl_resetRstpDevice (OptionRule.foldlM_rule
      (I := fun found : QSet Device × QMap ℤ RstpTable => found.1.Distinct) hrun List.Pairwise.nil
      fun c c' rstp _ hc hstep => distinct_computeRstpGroup hstep hc)
  · intro x hx
    obtain ⟨device, hdev, -, hip⟩ : IsCopy project x := by
      rcases (hmem x).1 hx with hx | ⟨device, hdev, -, rfl⟩
      · exact hcopies x hx
      · exact ⟨device, hdev, rfl, rfl⟩
    rw [hip]
    exact h.devices.address device hdev
  · intro rstp hrstp device hdev n htier
    obtain ⟨x, hx, hid⟩ := mem_map.1 (hreach rstp hrstp device.id ⟨n, htier⟩)
    obtain ⟨other, hother, stored, hstored, m, htier', guard, hguard, rfl⟩ := hfin x hx
    obtain rfl : stored = device := h.devices.eq_of_id hstored hdev hid
    obtain rfl : other = rstp := hgroups.eq_of_mem hother hrstp
      (mem_devices_of_tierOf (hgroups.roots other hother) htier')
      (mem_devices_of_tierOf (hgroups.roots rstp hrstp) htier)
    obtain rfl : m = n := htier'.unique htier
    exact ⟨guard, hguard, (hmem _).2 (.inl hx)⟩
  · intro device hdev hnone
    refine (hmem _).2 (.inr ⟨device, hdev, fun hid => ?_, rfl⟩)
    obtain ⟨x, hx, hxid⟩ := mem_map.1 hid
    obtain ⟨rstp, hrstp, stored, hstored, n, htier, guard, _, rfl⟩ := hfin x hx
    exact hnone rstp hrstp n (hxid ▸ htier)

/-- A device of a group has one tier in the result, or none when no root reaches it. -/
theorem RstpResult.tier_eq (hgroups : GroupsWellFormed project)
    (hresult : RstpResult project project') (hrstp : rstp ∈ project.rstpGroups)
    (hdev : device ∈ project.devices) (hgroup : device.id ∈ rstp.devices) {device' : Device}
    (hget : project'.getDeviceById device.id = some device') :
    (∃ n, TierOf project rstp n device.id ∧ device'.tier = ofNat n) ∨
      ((∀ n, ¬TierOf project rstp n device.id) ∧ device' = withoutTier device) := by
  by_cases hreach : ∃ n, TierOf project rstp n device.id
  · obtain ⟨n, htier⟩ := hreach
    obtain ⟨guard, -, hmem⟩ := hresult.reached rstp hrstp device hdev n htier
    have hfound := hresult.wellFormed.getDeviceById hmem rfl
    rw [hget] at hfound
    exact .inl ⟨n, htier, by rw [Option.some.inj hfound]⟩
  · have hnone := not_exists.1 hreach
    have hmem := hresult.unreached device hdev fun other hother n htier => by
      obtain rfl := hgroups.eq_of_mem hother hrstp
        (mem_devices_of_tierOf (hgroups.roots other hother) htier) hgroup
      exact hnone n htier
    have hfound := hresult.wellFormed.getDeviceById hmem rfl
    rw [show (withoutTier device).id = device.id from rfl, hget] at hfound
    exact .inr ⟨hnone, Option.some.inj hfound⟩

variable (h : ConsistentLinks project) (hgroups : GroupsWellFormed project)
  (hresult : RstpResult project project')
include h hgroups hresult

/-- A neighbor inside the group is in the next higher tier exactly when its distance
is one more. -/
theorem RstpResult.next_iff (hfit : TiersFit project)
    (hrstp : rstp ∈ project.rstpGroups) {n : ℕ} {a b : ℤ} (htier : TierOf project rstp n a)
    (hjoined : Joined project a b) (hb : b ∈ rstp.devices) :
    (∃ neighbor, project'.getDeviceById b = some neighbor ∧ neighbor.tier.toInt = (n : ℤ) + 1) ↔
      TierOf project rstp (n + 1) b := by
  obtain ⟨device, hdev, rfl, -⟩ := h.exists_device hjoined
  constructor
  · rintro ⟨neighbor, hget, hnext⟩
    obtain ⟨m, -, hm⟩ := htier.exists_le ⟨hjoined, hb⟩
    rcases hresult.tier_eq hgroups hrstp hdev hb hget with ⟨k, hk, hkt⟩ | ⟨hnone, -⟩
    · have hsmall := (hfit rstp hrstp device hdev k hk).1
      rw [hkt, toInt_ofNat_of_lt hsmall] at hnext
      obtain rfl : k = n + 1 := by omega
      exact hk
    · exact absurd hm (hnone m)
  · intro hdown
    have hsmall := (hfit rstp hrstp device hdev (n + 1) hdown).1
    obtain ⟨guard, -, hmem⟩ := hresult.reached rstp hrstp device hdev (n + 1) hdown
    refine ⟨_, hresult.wellFormed.getDeviceById hmem rfl, ?_⟩
    show (ofNat (n + 1)).toInt = (n : ℤ) + 1
    rw [toInt_ofNat_of_lt hsmall]
    rfl

/-- A device that a group reaches has its tier. -/
theorem RstpResult.inOrder_of_reached (hfit : TiersFit project) (hrstp : rstp ∈ project.rstpGroups)
    (hdev : device ∈ project.devices) {n : ℕ} (htier : TierOf project rstp n device.id) :
    ∃ device', project'.getDeviceById device.id = some device' ∧ Recomputed device device' ∧
      TierInOrder project project' rstp device' := by
  obtain ⟨guard, hguard, hmem⟩ := hresult.reached rstp hrstp device hdev n htier
  obtain ⟨hsmall, hself⟩ := hfit rstp hrstp device hdev n htier
  have hroots := hgroups.roots rstp hrstp
  have hzero : device.id ∈ rootsOf rstp → n = 0 := fun hroot =>
    htier.unique (Distance.zero_iff.2 hroot)
  refine ⟨_, hresult.wellFormed.getDeviceById hmem rfl, ⟨_, _, guard, rfl⟩, ?_, ?_, ?_, ?_⟩
  · intro m hm
    obtain rfl : n = m := htier.unique hm
    exact toInt_ofNat_of_lt hsmall
  · intro hroot
    obtain rfl := hzero (.inl hroot)
    exact ⟨rfl, by rw [roleAt, if_neg (not_not.2 rfl)]; exact if_pos hroot⟩
  · intro hsome hbackup
    obtain rfl := hzero (.inr ⟨hsome, hbackup⟩)
    refine ⟨rfl, ?_⟩
    rw [roleAt, if_neg (not_not.2 rfl)]
    exact if_neg fun hroot => hroots.apart (hroot.symm.trans hbackup)
  · intro hsupp interface' hintf'
    obtain ⟨interface, hintf, rfl⟩ := mem_map.1 hintf'
    show guard interface = true ↔ _
    rw [hguard interface hintf, and_iff_right hsupp]
    refine exists_congr fun link => and_congr_right fun hlink => and_congr_right fun hend =>
      and_congr_right fun hgroup => ?_
    have hjoined := joined_neighborId hlink hend
    have hne : link.neighborId device.id ≠ device.id := by
      intro heq
      rw [heq] at hjoined
      exact hself hsupp hjoined
    rw [or_iff_left hne, ← hresult.next_iff h hgroups hfit hrstp htier hjoined hgroup]
    show _ ↔ ∃ neighbor : Device, _ ∧ neighbor.tier.toInt = (ofNat n).toInt + 1
    rw [toInt_ofNat_of_lt hsmall]

/-- A device of a group that no root reaches has no tier and no root guard. -/
theorem RstpResult.inOrder_of_unreached
    (hrstp : rstp ∈ project.rstpGroups) (hdev : device ∈ project.devices)
    (hgroup : device.id ∈ rstp.devices) (hnone : ∀ n, ¬TierOf project rstp n device.id) :
    ∃ device', project'.getDeviceById device.id = some device' ∧ Recomputed device device' ∧
      TierInOrder project project' rstp device' := by
  have hmem := hresult.unreached device hdev fun other hother n htier => by
    obtain rfl := hgroups.eq_of_mem hother hrstp
      (mem_devices_of_tierOf (hgroups.roots other hother) htier) hgroup
    exact hnone n htier
  refine ⟨_, hresult.wellFormed.getDeviceById hmem rfl, ⟨_, _, fun _ => false, rfl⟩, ?_, ?_, ?_, ?_⟩
  · exact fun n htier => absurd htier (hnone n)
  · exact fun hroot => absurd (Distance.zero_iff.2 (.inl hroot)) (hnone 0)
  · exact fun hsome hbackup => absurd (Distance.zero_iff.2 (.inr ⟨hsome, hbackup⟩)) (hnone 0)
  · intro _ interface' hintf'
    obtain ⟨interface, -, rfl⟩ := mem_map.1 hintf'
    constructor
    · intro hguard
      cases hguard
    · rintro ⟨link, hlink, hend, hin, neighbor, hget, hnext⟩
      have hjoined : Joined project device.id (link.neighborId device.id) :=
        joined_neighborId hlink hend
      obtain ⟨stored, hstored, hid, -⟩ := h.exists_device hjoined
      rw [show (withoutTier device).id = device.id from rfl] at hin hget
      rw [← hid] at hin hget hjoined
      rcases hresult.tier_eq hgroups hrstp hstored hin hget with ⟨k, hk, -⟩ | ⟨-, rfl⟩
      · -- then the device could be reached as well
        obtain ⟨m, -, hm⟩ := hk.exists_le ⟨hjoined.symm, hgroup⟩
        exact absurd hm (hnone m)
      · cases hnext

/-- Tiers that are distances fit in 16 bits, and a root guard that leads back to its own
device is out of order. -/
theorem TiersInOrder.fit (hin : TiersInOrder project project') : TiersFit project := by
  intro rstp hrstp device hdev n htier
  have hgroup := mem_devices_of_tierOf (hgroups.roots rstp hrstp) htier
  obtain ⟨device', hget, -, horder⟩ := hin rstp hrstp device hdev hgroup
  obtain ⟨guard, hguard, hmem⟩ := hresult.reached rstp hrstp device hdev n htier
  have hfound := hresult.wellFormed.getDeviceById hmem rfl
  rw [show project'.getDeviceById _ = _ from hget] at hfound
  cases hfound
  constructor
  · have htoInt := horder.tier n htier
    have hlt := toInt_lt (ofNat n)
    rw [show (ofNat n).toInt = n from htoInt] at hlt
    omega
  · intro hsupp hself
    obtain ⟨interface, hintf, link, hlink, hend, hnbr⟩ :=
      h.exists_interface hdev hself
    have hset : guard interface = true := (hguard interface hintf).2
      ⟨hsupp, link, hlink, hend, by rw [hnbr]; exact hgroup, .inr hnbr⟩
    obtain ⟨link', hlink', hend', -, neighbor, hnbr', hnext⟩ :=
      (horder.rootGuard hsupp _ (mem_map_of_mem hintf)).1 hset
    obtain rfl : link' = link := h.links.eq_of_beq link_beq_comm hlink' hlink
      (link_beq_iff.2 (.inr ⟨_, _, hend', hend⟩))
    rw [show link'.neighborId _ = device.id from hnbr, hget] at hnbr'
    cases hnbr'
    omega

omit h hgroups hresult

/-- **The tiers are the distances** exactly when a 16-bit number holds them and no
device that a group reaches and that can set root guards is linked to itself. -/
theorem tiersInOrder_iff (h : ConsistentLinks project) (hgroups : GroupsWellFormed project)
    {fuel : ℕ} (hfuel : rstpRounds project ≤ fuel) :
    ∃ project', computeRedundantRSTP fuel project = some project' ∧
      (TiersInOrder project project' ↔ TiersFit project) := by
  obtain ⟨project', hrun, hresult⟩ := exists_computeRedundantRSTP h hgroups hfuel
  refine ⟨project', hrun, fun hin => hin.fit h hgroups hresult,
    fun hfit rstp hrstp device hdev hgroup => ?_⟩
  by_cases hreach : ∃ n, TierOf project rstp n device.id
  · obtain ⟨n, htier⟩ := hreach
    exact hresult.inOrder_of_reached h hgroups hfit hrstp hdev htier
  · exact hresult.inOrder_of_unreached h hgroups hrstp hdev hgroup (not_exists.1 hreach)

/-- Two switches with a cable, in one group. -/
def bridgedPair : Project where
  devices :=
    [{ id := 1, ipAddress := "10.0.0.1", deviceType := .switch
       deviceProperty := { stpRstp := { rootGuard := true } }
       interfaces := [{ deviceId := 1, interfaceId := 1, used := true }] },
     { id := 2, ipAddress := "10.0.0.2", deviceType := .switch
       deviceProperty := { stpRstp := { rootGuard := true } }
       interfaces := [{ deviceId := 2, interfaceId := 1, used := true }] }]
  links :=
    [{ id := 1, sourceDeviceId := 1, sourceInterfaceId := 1, destinationDeviceId := 2,
       destinationInterfaceId := 1 }]
  rstpGroups := [{ id := 1, rootDevice := 1, devices := [1, 2] }]

theorem bridgedPair_consistent : ConsistentLinks bridgedPair where
  devices := ⟨by unfold QSet.Distinct bridgedPair; decide, by unfold bridgedPair; decide⟩
  links := pairwise_singleton _ _
  used := by
    intro device hdev interface hintf _
    simp only [bridgedPair, mem_cons, not_mem_nil, or_false] at hdev
    rcases hdev with rfl | rfl
    · obtain rfl := mem_singleton.1 hintf
      exact iff_of_true rfl ⟨_, mem_singleton.2 rfl, by decide⟩
    · obtain rfl := mem_singleton.1 hintf
      exact iff_of_true rfl ⟨_, mem_singleton.2 rfl, by decide⟩
  ends := by
    intro link hlink deviceId interfaceId hend
    obtain rfl := mem_singleton.1 hlink
    simp only [Link.hasEndpoint, Bool.or_eq_true, Bool.and_eq_true, beq_iff_eq] at hend
    rcases hend with ⟨rfl, rfl⟩ | ⟨rfl, rfl⟩
    · exact ⟨_, mem_cons_self, rfl, _, mem_singleton.2 rfl, rfl⟩
    · exact ⟨_, mem_cons_of_mem _ mem_cons_self, rfl, _, mem_singleton.2 rfl, rfl⟩

theorem bridgedPair_groups : GroupsWellFormed bridgedPair where
  disjoint := pairwise_singleton _ _
  roots := by
    intro rstp hrstp
    obtain rfl := mem_singleton.1 hrstp
    refine ⟨?_, ?_, by decide⟩ <;> rintro id (rfl | ⟨hne, -⟩)
    · decide
    · exact absurd rfl hne
    · exact ⟨_, mem_cons_self, rfl⟩
    · exact absurd rfl hne

theorem bridgedPair_fits : TiersFit bridgedPair := by
  intro rstp hrstp device hdev n htier
  obtain rfl := mem_singleton.1 hrstp
  have hroot : TierOf bridgedPair { id := 1, rootDevice := 1, devices := [1, 2] } 0 1 :=
    Distance.zero_iff.2 (.inl rfl)
  have hjoined : Joined bridgedPair 1 2 := ⟨_, mem_singleton.2 rfl, .inl ⟨rfl, rfl⟩⟩
  obtain ⟨m, hm, hdown⟩ := hroot.exists_le ⟨hjoined, by decide⟩
  have hapart : ∀ a, ¬Joined bridgedPair a a := by
    rintro a ⟨link, hlink, hends⟩
    obtain rfl := mem_singleton.1 hlink
    simp only at hends
    omega
  refine ⟨?_, fun _ => hapart device.id⟩
  simp only [bridgedPair, mem_cons, not_mem_nil, or_false] at hdev
  rcases hdev with rfl | rfl
  · have := htier.unique hroot
    omega
  · have := htier.unique hdown
    omega

/-- The two switches have their tiers. -/
theorem tiersInOrder_iff_bridgedPair : ∃ project',
    computeRedundantRSTP (rstpRounds bridgedPair) bridgedPair = some project' ∧
      TiersInOrder bridgedPair project' := by
  obtain ⟨project', hrun, hiff⟩ :=
    tiersInOrder_iff bridgedPair_consistent bridgedPair_groups le_rfl
  exact ⟨project', hrun, hiff.2 bridgedPair_fits⟩

/-- A switch with a cable between two of its own ports, alone in its group. -/
def loopedSwitch : Project where
  devices :=
    [{ id := 1, ipAddress := "10.0.0.1", deviceType := .switch
       deviceProperty := { stpRstp := { rootGuard := true } }
       interfaces := [{ deviceId := 1, interfaceId := 1, used := true },
         { deviceId := 1, interfaceId := 2, used := true }] }]
  links :=
    [{ id := 1, sourceDeviceId := 1, sourceInterfaceId := 1, destinationDeviceId := 1,
       destinationInterfaceId := 2 }]
  rstpGroups := [{ id := 1, rootDevice := 1, devices := [1] }]

theorem loopedSwitch_consistent : ConsistentLinks loopedSwitch where
  devices := ⟨by unfold QSet.Distinct loopedSwitch; decide, by unfold loopedSwitch; decide⟩
  links := pairwise_singleton _ _
  used := by
    intro device hdev interface hintf _
    obtain rfl := mem_singleton.1 hdev
    simp only [mem_cons, not_mem_nil, or_false] at hintf
    rcases hintf with rfl | rfl <;>
      exact iff_of_true rfl ⟨_, mem_singleton.2 rfl, by decide⟩
  ends := by
    intro link hlink deviceId interfaceId hend
    obtain rfl := mem_singleton.1 hlink
    simp only [Link.hasEndpoint, Bool.or_eq_true, Bool.and_eq_true, beq_iff_eq] at hend
    rcases hend with ⟨rfl, rfl⟩ | ⟨rfl, rfl⟩
    · exact ⟨_, mem_singleton.2 rfl, rfl, _, mem_cons_self, rfl⟩
    · exact ⟨_, mem_singleton.2 rfl, rfl, _, mem_cons_of_mem _ mem_cons_self, rfl⟩

theorem loopedSwitch_groups : GroupsWellFormed loopedSwitch where
  disjoint := pairwise_singleton _ _
  roots := by
    intro rstp hrstp
    obtain rfl := mem_singleton.1 hrstp
    refine ⟨?_, ?_, by decide⟩ <;> rintro id (rfl | ⟨hne, -⟩)
    · decide
    · exact absurd rfl hne
    · exact ⟨_, mem_singleton.2 rfl, rfl⟩
    · exact absurd rfl hne

/-- **A root guard can lead back to its own device**: the device is not in the set of
finished ones, nor in the queue, while its own interfaces are visited. -/
theorem not_tiersInOrder : ¬∀ project : Project, ConsistentLinks project →
    GroupsWellFormed project → ∀ fuel ≥ rstpRounds project, ∃ project',
      computeRedundantRSTP fuel project = some project' ∧ TiersInOrder project project' := by
  intro hall
  obtain ⟨project', hrun, hin⟩ :=
    hall loopedSwitch loopedSwitch_consistent loopedSwitch_groups _ le_rfl
  obtain ⟨project'', hrun', hresult⟩ :=
    exists_computeRedundantRSTP loopedSwitch_consistent loopedSwitch_groups le_rfl
  obtain rfl := Option.some.inj (hrun.symm.trans hrun')
  have hfit := hin.fit loopedSwitch_consistent loopedSwitch_groups hresult
  have hself : Joined loopedSwitch 1 1 := ⟨_, mem_singleton.2 rfl, .inl ⟨rfl, rfl⟩⟩
  exact (hfit _ (mem_singleton.2 rfl) _ (mem_singleton.2 rfl) 0
    (Distance.zero_iff.2 (.inl rfl))).2 rfl hself

end Core
end Sebastian

/-
# VLAN groups

`ComputeVlanConfig` of `core/src/act_core_vlan_config.cpp`: the VLAN tables of the
devices, from the groups of end stations that are to share a VLAN.  For each group the
network is searched from all its members at once, through bridging devices; where two
paths meet, both are recorded, and the ports of the recorded devices towards one another
become egress ports.

The search is a search by fronts (`vlanSearch_fronts`), so the members of a group that
are connected are connected through recorded devices, and `computeVlanConfig_connects`
finds the ports on the way in the tables that are stored.
-/

import Mathlib
import Sebastian.Core.Topology
import Sebastian.Core.VlanConfig
import Sebastian.Lib.Fronts

namespace Sebastian
namespace Core

open Finset QSet QMap

/-! ### The operation -/

/-- The devices a VLAN is led through: `kSwitch`, `kBridgedEndStation` and `kTSNSwitch`. -/
def bridges : DeviceType → Bool
  | .switch => true
  | .bridgedEndStation => true
  | .tsnSwitch => true
  | _ => false

/-- `GetDeviceById`, into a device that is left as it was when there is none. -/
def deviceOf (project : Project) (deviceId : ℤ) : Device :=
  (project.getDeviceById deviceId).getD {}

/-- The used interfaces of a device, each with the device at the other end of its link. -/
def usedNeighbors (project : Project) (deviceId : ℤ) : List (ℤ × ℤ) :=
  (deviceOf project deviceId).interfaces.filterMap fun interface =>
    if !interface.used then none
    else
      let link := (project.getLinkByInterfaceId deviceId interface.interfaceId).getD {}
      some (interface.interfaceId, link.neighborId deviceId)

/-- The variables of the search for the devices of a group. -/
structure VlanSearch where
  queue : List (List ℤ)
  visited : QSet ℤ
  vlanDevices : QSet ℤ := []

/-- What the loop over the interfaces of a device works on. -/
structure VlanNeighbors where
  queue : List (List ℤ)
  vlanDevices : QSet ℤ
  neighborIds : QSet ℤ := []

/-- One neighbor of the last device of a path. -/
def visitVlanNeighbor (project : Project) (visited : QSet ℤ) (path : List ℤ)
    (found : VlanNeighbors) (neighborId : ℤ) : VlanNeighbors :=
  if path.contains neighborId then found
  else if QSet.contains visited neighborId then
    { found with vlanDevices := QSet.unite found.vlanDevices path }
  else if !bridges (deviceOf project neighborId).deviceType then found
  else
    { found with
      queue := found.queue ++ [path ++ [neighborId]]
      neighborIds := QSet.insert found.neighborIds neighborId }

/-- One round of the search. -/
def vlanRound (project : Project) (s : VlanSearch) : Iter VlanSearch (QSet ℤ) :=
  match s.queue with
  | [] => .done s.vlanDevices
  | path :: queue =>
    let found := ((usedNeighbors project (path.getLastD (-1))).map Prod.snd).foldl
      (visitVlanNeighbor project s.visited path) { queue := queue, vlanDevices := s.vlanDevices }
    .next {
      queue := found.queue
      visited := QSet.unite s.visited found.neighborIds
      vlanDevices := found.vlanDevices }

/-- The members of the group wait, each on a path of its own. -/
def initialVlanSearch (group : IntelligentVlan) : VlanSearch where
  queue := group.endStationList.map fun deviceId => [deviceId]
  visited := QSet.unite [] group.endStationList

/-- The ports of one device towards the devices of the VLAN. -/
def insertVlanPorts (project : Project) (vlanDevices : QSet ℤ) (ports : QMap ℤ (QSet ℤ))
    (deviceId : ℤ) : QMap ℤ (QSet ℤ) :=
  if (deviceOf project deviceId).deviceType = .endStation then ports
  else
    (usedNeighbors project deviceId).foldl (fun ports (interfaceId, neighborId) =>
      if QSet.contains vlanDevices neighborId then
        ports.update deviceId (QSet.insert · interfaceId)
      else ports) ports

/-- `vlan_devices_map`: the egress ports by device. -/
def vlanDevicesMap (project : Project) (vlanDevices : QSet ℤ) : QMap ℤ (QSet ℤ) :=
  vlanDevices.foldl (insertVlanPorts project vlanDevices) ∅

/-- `end_station_count` -/
def endStationCount (project : Project) (vlanDevices : QSet ℤ) : ℕ :=
  List.countP (fun deviceId => (deviceOf project deviceId).deviceType = .endStation) vlanDevices

/-- `InsertDefaultPVIDToVlanConfig` -/
def insertDefaultPvidToVlanConfig (device : Device) (table : VlanTable) : VlanTable :=
  { table with
    portVlanEntries := device.interfaces.foldl (fun entries interface =>
      entries.insertIfNew interface.interfaceId { pvid := toPvid vlanInitPvid })
      table.portVlanEntries }

/-- `InsertDefaultVlanPortTypeToVlanConfig` -/
def insertDefaultVlanPortTypeToVlanConfig (device : Device) (table : VlanTable) : VlanTable :=
  { table with
    vlanPortTypeEntries := device.interfaces.foldl (fun entries interface =>
      entries.insertIfNew interface.interfaceId { vlanPortType := .access })
      table.vlanPortTypeEntries }

/-- `InsertDefaultPVIDVlanToVlanConfig`: VLAN 1 is made anew, of every port with a port type. -/
def insertDefaultPvidVlanToVlanConfig (table : VlanTable) : VlanTable :=
  { table with
    vlanStaticEntries := table.vlanStaticEntries.insert vlanInitPvid
      { VlanStaticEntry.ofId vlanInitPvid with
        egressPorts := table.vlanPortTypeEntries.keys.toFinset
        untaggedPorts :=
          ((table.vlanPortTypeEntries.toList.filter fun (_, entry) =>
            entry.vlanPortType ≠ .trunk).map Prod.fst).toFinset } }

/-- The static entry of the VLAN gets the egress ports. -/
def uniteEgressPorts (vlanId : ℤ) (egressPorts : QSet ℤ) (table : VlanTable) : VlanTable :=
  let entry := table.vlanStaticEntries.getD vlanId (.ofId vlanId)
  { table with
    vlanStaticEntries := table.vlanStaticEntries.insert vlanId
      { entry with
        vlanPriority := .nonTSN
        name := "v" ++ toString vlanId
        egressPorts := entry.egressPorts ∪ egressPorts.toFinset } }

/-- The egress ports become hybrid ports. -/
def insertHybridPorts (egressPorts : QSet ℤ) (table : VlanTable) : VlanTable :=
  { table with
    vlanPortTypeEntries := egressPorts.foldl (fun entries port =>
      entries.insert port { vlanPortType := .hybrid }) table.vlanPortTypeEntries }

/-- The table of one device of the VLAN. -/
def configureVlanTable (device : Device) (vlanId : ℤ) (egressPorts : QSet ℤ) (table : VlanTable) :
    VlanTable :=
  insertDefaultPvidVlanToVlanConfig
    (insertDefaultVlanPortTypeToVlanConfig device
      (insertDefaultPvidToVlanConfig device
        (insertHybridPorts egressPorts (uniteEgressPorts vlanId egressPorts table))))

/-- One device of the VLAN. -/
def configureVlanDevice (vlanId : ℤ) (ports : QMap ℤ (QSet ℤ)) (project : Project)
    (deviceId : ℤ) : Except Status Project :=
  let table :=
    match getVlanConfig project deviceId with
    | .error _ => { deviceId := deviceId }
    | .ok table => table
  storeVlanTable project
    (configureVlanTable (deviceOf project deviceId) vlanId (ports.value deviceId) table)

/-- One group in `ComputeVlanConfig`. -/
def computeVlanGroup (fuel : ℕ) (project : Project) (group : IntelligentVlan) :
    Option (Except Status Project) :=
  (Loop.run (vlanRound project) fuel (initialVlanSearch group)).map fun vlanDevices =>
    if endStationCount project vlanDevices < 2 then .ok project
    else
      let ports := vlanDevicesMap project vlanDevices
      ports.keys.foldlM (configureVlanDevice (group.vlanId.toNat : ℤ) ports) project

/-- The groups, one after the other. -/
def computeVlanGroups (fuel : ℕ) :
    List IntelligentVlan → Project → Option (Except Status Project)
  | [], project => some (.ok project)
  | group :: groups, project =>
    match computeVlanGroup fuel project group with
    | none => none
    | some (.error status) => some (.error status)
    | some (.ok project) => computeVlanGroups fuel groups project

/-- `ComputeVlanConfig`: the tables are cleared and filled anew. -/
def computeVlanConfig (fuel : ℕ) (project : Project) : Option (Except Status Project) :=
  computeVlanGroups fuel project.intelligentVlanGroup { project with vlanTables := ∅ }

variable {project : Project} {group : IntelligentVlan} {s : VlanSearch}

/-! ### Neighbors -/

theorem deviceOf_eq (h : ConsistentLinks project) {device : Device}
    (hdev : device ∈ project.devices) : deviceOf project device.id = device := by
  unfold deviceOf
  rw [h.devices.getDeviceById hdev rfl]
  rfl

/-- **What is seen from a device**: each end of a link there, with the device at the other
end. -/
theorem mem_usedNeighbors (h : ConsistentLinks project) {v i w : ℤ} :
    (i, w) ∈ usedNeighbors project v ↔
      ∃ link ∈ project.links, link.hasEndpoint v i = true ∧ link.neighborId v = w := by
  unfold usedNeighbors
  rw [List.mem_filterMap]
  constructor
  · rintro ⟨interface, hintf, hsome⟩
    split_ifs at hsome with hused
    cases hsome
    obtain ⟨device, hget⟩ : ∃ device, project.getDeviceById v = some device := by
      cases hget : project.getDeviceById v with
      | none =>
        unfold deviceOf at hintf
        rw [hget] at hintf
        cases hintf
      | some device => exact ⟨device, rfl⟩
    obtain ⟨hdev, rfl⟩ := h.devices.id_of_find hget
    rw [deviceOf_eq h hdev] at hintf
    obtain ⟨link, hlink, hend⟩ := (h.used device hdev interface hintf (by simp)).1
      (by simpa using hused)
    rw [(getLinkByInterfaceId_eq_some h.toLinkTable).2 ⟨hlink, hend⟩]
    exact ⟨link, hlink, hend, rfl⟩
  · rintro ⟨link, hlink, hend, rfl⟩
    obtain ⟨device, hdev, rfl, interface, hintf, rfl⟩ := h.ends link hlink _ _ hend
    refine ⟨interface, by rwa [deviceOf_eq h hdev], ?_⟩
    have hused := (h.used device hdev interface hintf (by simp)).2 ⟨link, hlink, hend⟩
    rw [hused, (getLinkByInterfaceId_eq_some h.toLinkTable).2 ⟨hlink, hend⟩]
    rfl

theorem exists_hop (h : ConsistentLinks project) {a b : ℤ} (hjoined : Joined project a b) :
    ∃ link ∈ project.links, ∃ i j, link.hasEndpoint a i = true ∧ link.hasEndpoint b j = true ∧
      (i, b) ∈ usedNeighbors project a ∧ (j, a) ∈ usedNeighbors project b := by
  obtain ⟨link, hlink, hends⟩ := hjoined
  have hnbr : ∀ x y, (link.sourceDeviceId = x ∧ link.destinationDeviceId = y) ∨
      (link.sourceDeviceId = y ∧ link.destinationDeviceId = x) → link.neighborId x = y := by
    intro x y hxy
    unfold Link.neighborId
    split_ifs with hx
    · rcases hxy with ⟨-, hd⟩ | ⟨hs, hd⟩
      · exact hd
      · rw [hd, ← hx, hs]
    · rcases hxy with ⟨hs, -⟩ | ⟨hs, -⟩
      · exact absurd hs hx
      · exact hs
  have hab := hnbr a b hends
  have hba := hnbr b a hends.symm
  have hsrc : link.hasEndpoint link.sourceDeviceId link.sourceInterfaceId = true := by
    simp [Link.hasEndpoint]
  have hdest : link.hasEndpoint link.destinationDeviceId link.destinationInterfaceId = true := by
    simp [Link.hasEndpoint]
  rcases hends with ⟨rfl, rfl⟩ | ⟨rfl, rfl⟩
  · exact ⟨link, hlink, _, _, hsrc, hdest, (mem_usedNeighbors h).2 ⟨link, hlink, hsrc, hab⟩,
      (mem_usedNeighbors h).2 ⟨link, hlink, hdest, hba⟩⟩
  · exact ⟨link, hlink, _, _, hdest, hsrc, (mem_usedNeighbors h).2 ⟨link, hlink, hdest, hab⟩,
      (mem_usedNeighbors h).2 ⟨link, hlink, hsrc, hba⟩⟩

theorem mem_neighbors (h : ConsistentLinks project) {v w : ℤ} :
    w ∈ (usedNeighbors project v).map Prod.snd ↔ Joined project v w := by
  rw [List.mem_map]
  constructor
  · rintro ⟨⟨i, w⟩, hmem, rfl⟩
    obtain ⟨link, hlink, hend, rfl⟩ := (mem_usedNeighbors h).1 hmem
    exact joined_neighborId hlink hend
  · intro hjoined
    obtain ⟨-, -, i, -, -, -, hmem, -⟩ := exists_hop h hjoined
    exact ⟨(i, w), hmem, rfl⟩

/-! ### The search -/

/-- The vertices of the search: the members of the group, and what bridges. -/
def InVlanGraph (project : Project) (group : IntelligentVlan) (x : ℤ) : Prop :=
  x ∈ group.endStationList ∨ bridges (deviceOf project x).deviceType = true

/-- **The graph of a group**: its members and the bridging devices, joined by links. -/
def VlanEdge (project : Project) (group : IntelligentVlan) (a b : ℤ) : Prop :=
  Joined project a b ∧ InVlanGraph project group a ∧ InVlanGraph project group b

theorem VlanEdge.symm {a b : ℤ} (h : VlanEdge project group a b) : VlanEdge project group b a :=
  ⟨h.1.symm, h.2.2, h.2.1⟩

/-- A neighbor a path is extended to. -/
def Extends (project : Project) (visited : QSet ℤ) (path : List ℤ) (w : ℤ) : Prop :=
  w ∉ path ∧ w ∉ visited ∧ bridges (deviceOf project w).deviceType = true

theorem visitVlanNeighbor_cases (visited : QSet ℤ) (path : List ℤ) (found : VlanNeighbors) (w : ℤ) :
    (¬Extends project visited path w ∧ (w ∈ path ∨ w ∉ visited) ∧
      visitVlanNeighbor project visited path found w = found) ∨
    (w ∉ path ∧ w ∈ visited ∧ visitVlanNeighbor project visited path found w =
      { found with vlanDevices := unite found.vlanDevices path }) ∨
    (Extends project visited path w ∧ visitVlanNeighbor project visited path found w =
      { found with
        queue := found.queue ++ [path ++ [w]]
        neighborIds := insert found.neighborIds w }) := by
  unfold visitVlanNeighbor
  by_cases hpath : w ∈ path
  · rw [if_pos (by simpa using hpath)]
    exact .inl ⟨fun h => h.1 hpath, .inl hpath, rfl⟩
  rw [if_neg (by simpa using hpath)]
  by_cases hvis : w ∈ visited
  · rw [if_pos (contains_iff_mem.2 hvis)]
    exact .inr (.inl ⟨hpath, hvis, rfl⟩)
  rw [if_neg (by rwa [contains_iff_mem])]
  by_cases hbridges : bridges (deviceOf project w).deviceType = true
  · rw [if_neg (by simp [hbridges])]
    exact .inr (.inr ⟨⟨hpath, hvis, hbridges⟩, rfl⟩)
  · rw [if_pos (by simpa using hbridges)]
    exact .inl ⟨fun h => hbridges h.2.2, .inr hvis, rfl⟩

/-- **What the loop over the neighbors of a path collects.** -/
structure Collected (project : Project) (visited : QSet ℤ) (path neighbors : List ℤ)
    (found found' : VlanNeighbors) : Prop where
  queue : ∀ p, p ∈ found'.queue ↔ p ∈ found.queue ∨
    ∃ w ∈ neighbors, Extends project visited path w ∧ p = path ++ [w]
  neighborIds : ∀ w, w ∈ found'.neighborIds ↔ w ∈ found.neighborIds ∨
    (w ∈ neighbors ∧ Extends project visited path w)
  vlanDevices : ∀ x, x ∈ found'.vlanDevices ↔ x ∈ found.vlanDevices ∨
    (x ∈ path ∧ ∃ w ∈ neighbors, w ∉ path ∧ w ∈ visited)
  length : found'.queue.length ≤ found.queue.length + neighbors.length
  still : (∀ w ∈ neighbors, ¬Extends project visited path w) → found'.queue = found.queue

theorem foldl_visitVlanNeighbor {visited : QSet ℤ} {path : List ℤ} (neighbors : List ℤ)
    (found : VlanNeighbors) : Collected project visited path neighbors found
      (neighbors.foldl (visitVlanNeighbor project visited path) found) := by
  induction neighbors generalizing found with
  | nil =>
    refine ⟨fun p => ?_, fun w => ?_, fun x => ?_, Nat.le_refl _, fun _ => rfl⟩ <;> simp
  | cons w neighbors ih =>
    rw [List.foldl_cons]
    obtain ⟨hqueue, hids, hdevs, hlen, hstill⟩ :=
      ih (visitVlanNeighbor project visited path found w)
    generalize neighbors.foldl (visitVlanNeighbor project visited path)
      (visitVlanNeighbor project visited path found w) = found'
      at hqueue hids hdevs hlen hstill
    rcases visitVlanNeighbor_cases visited path found w with
      ⟨hnot, hout, he⟩ | ⟨hpath, hvis, he⟩ | ⟨hextends, he⟩
    · -- the neighbor is left out
      rw [he] at hqueue hids hdevs hlen hstill
      refine ⟨fun p => ?_, fun v => ?_, fun x => ?_, ?_, fun hall => hstill fun v hv =>
        hall v (List.mem_cons_of_mem _ hv)⟩
      · rw [hqueue, List.exists_mem_cons_iff]
        simp [hnot]
      · rw [hids, List.mem_cons]
        refine or_congr_right ⟨fun hv => ⟨.inr hv.1, hv.2⟩, fun hv => ⟨hv.1.resolve_left ?_, hv.2⟩⟩
        rintro rfl
        exact hnot hv.2
      · rw [hdevs, List.exists_mem_cons_iff]
        have hno : ¬(w ∉ path ∧ w ∈ visited) := fun hc => hout.elim hc.1 fun ho => ho hc.2
        simp [hno]
      · rw [List.length_cons]
        omega
    · -- the path has met another
      rw [he] at hqueue hids hdevs hlen hstill
      have hnot : ¬Extends project visited path w := fun hc => hc.2.1 hvis
      refine ⟨fun p => ?_, fun v => ?_, fun x => ?_, ?_, fun hall => hstill fun v hv =>
        hall v (List.mem_cons_of_mem _ hv)⟩
      · rw [hqueue, List.exists_mem_cons_iff]
        simp [hnot]
      · rw [hids, List.mem_cons]
        refine or_congr_right ⟨fun hv => ⟨.inr hv.1, hv.2⟩, fun hv => ⟨hv.1.resolve_left ?_, hv.2⟩⟩
        rintro rfl
        exact hnot hv.2
      · rw [hdevs, mem_unite, List.exists_mem_cons_iff]
        simp only [hpath, hvis, not_false_eq_true, and_self, true_or, and_true]
        tauto
      · rw [List.length_cons]
        dsimp only at hlen
        omega
    · -- the path is extended
      rw [he] at hqueue hids hdevs hlen hstill
      refine ⟨fun p => ?_, fun v => ?_, fun x => ?_, ?_, fun hall =>
        absurd hextends (hall w List.mem_cons_self)⟩
      · rw [hqueue, List.exists_mem_cons_iff, List.mem_append, List.mem_singleton, or_assoc]
        simp [hextends]
      · rw [hids, QSet.mem_insert, List.mem_cons]
        constructor
        · rintro ((hv | rfl) | hv)
          · exact .inl hv
          · exact .inr ⟨.inl rfl, hextends⟩
          · exact .inr ⟨.inr hv.1, hv.2⟩
        · rintro (hv | ⟨rfl | hv, hext⟩)
          · exact .inl (.inl hv)
          · exact .inl (.inr rfl)
          · exact .inr ⟨hv, hext⟩
      · rw [hdevs, List.exists_mem_cons_iff]
        have hno : ¬(w ∉ path ∧ w ∈ visited) := fun hc => hextends.2.1 hc.2
        simp [hno]
      · rw [List.length_cons]
        rw [List.length_append, List.length_singleton] at hlen
        omega

/-- **The search at the head of its loop**: whatever is visited has a trail from a member,
the paths that wait are trails, and a device that is done has met every other front that
it is next to. -/
structure VlanInv (project : Project) (group : IntelligentVlan) (done : Finset ℤ)
    (trail : ℤ → List ℤ) (s : VlanSearch) : Prop where
  queue : ∀ path ∈ s.queue, ∃ v ∈ s.visited, path = trail v
  split : ∀ v ∈ s.visited, v ∈ done ∨ trail v ∈ s.queue
  member : ∀ m ∈ group.endStationList, m ∈ s.visited ∧ trail m = [m]
  graph : ∀ v ∈ s.visited, InVlanGraph project group v
  last : ∀ v ∈ s.visited, (trail v).getLast? = some v
  chain : ∀ v ∈ s.visited, (trail v).IsChain (VlanEdge project group)
  front : ∀ v ∈ s.visited, ∀ x ∈ trail v, x ∈ s.visited ∧ (trail x).head? = (trail v).head?
  closed : ∀ v ∈ done, v ∈ s.visited ∧ ∀ w, VlanEdge project group v w → w ∈ s.visited
  met : ∀ v ∈ done, ∀ w, VlanEdge project group v w → (trail v).head? ≠ (trail w).head? →
    ∀ x ∈ trail v, x ∈ s.vlanDevices

theorem VlanInv.init : VlanInv project group ∅ (fun v => [v]) (initialVlanSearch group) := by
  have hvis : ∀ v, v ∈ (initialVlanSearch group).visited ↔ v ∈ group.endStationList := by
    intro v
    unfold initialVlanSearch
    rw [mem_unite]
    simp
  refine ⟨fun path hpath => ?_, fun v hv => .inr ?_, fun m hm => ⟨(hvis m).2 hm, rfl⟩,
    fun v hv => .inl ((hvis v).1 hv), fun v _ => rfl, fun v _ => List.isChain_singleton v,
    fun v hv x hx => ?_, by simp, by simp⟩
  · obtain ⟨v, hv, rfl⟩ := List.mem_map.1 hpath
    exact ⟨v, (hvis v).2 hv, rfl⟩
  · exact List.mem_map.2 ⟨v, (hvis v).1 hv, rfl⟩
  · obtain rfl := List.mem_singleton.1 hx
    exact ⟨hv, rfl⟩

/-- The devices of the project that are not visited. -/
def unvisited (project : Project) (s : VlanSearch) : Finset ℤ :=
  (project.devices.map (·.id)).toFinset.filter (· ∉ s.visited)

/-- The interfaces of the project, counted. -/
def interfaceCount (project : Project) : ℕ :=
  (project.devices.map (·.interfaces.length)).sum

/-- What is left to do: a device that is visited may be enqueued once for each interface. -/
def vlanWork (project : Project) (s : VlanSearch) : ℕ :=
  s.queue.length + (unvisited project s).card * (interfaceCount project + 1)

theorem length_usedNeighbors_le {v : ℤ} :
    (usedNeighbors project v).length ≤ interfaceCount project := by
  have hlen : (usedNeighbors project v).length ≤ (deviceOf project v).interfaces.length :=
    List.length_filterMap_le _ _
  unfold deviceOf at hlen
  cases hget : project.getDeviceById v with
  | none =>
    rw [hget] at hlen
    exact hlen.trans (Nat.zero_le _)
  | some device =>
    rw [hget] at hlen
    have hdev : device ∈ project.devices := (mem_of_find hget).1
    exact hlen.trans (List.le_sum_of_mem (List.mem_map.2 ⟨device, hdev, rfl⟩))

/-- The trails once the neighbors of `path` are visited. -/
def extendTrail (trail : ℤ → List ℤ) (visited : QSet ℤ) (path : List ℤ) (w : ℤ) : List ℤ :=
  if w ∈ visited then trail w else path ++ [w]

/-- **One round keeps the invariant**: `done` grows by the last device of the path. -/
theorem VlanInv.visit (h : ConsistentLinks project) {done : Finset ℤ} {trail : ℤ → List ℤ}
    {queue : List (List ℤ)} {v : ℤ} (hinv : VlanInv project group done trail s)
    (hqueue : s.queue = trail v :: queue) (hv : v ∈ s.visited) {found : VlanNeighbors}
    (hfound : Collected project s.visited (trail v) ((usedNeighbors project v).map Prod.snd)
      { queue := queue, vlanDevices := s.vlanDevices } found) :
    VlanInv project group (insert v done) (extendTrail trail s.visited (trail v))
      ⟨found.queue, unite s.visited found.neighborIds, found.vlanDevices⟩ := by
  have hold : ∀ w ∈ s.visited, extendTrail trail s.visited (trail v) w = trail w := fun w hw =>
    if_pos hw
  have hnew : ∀ w, w ∉ s.visited → extendTrail trail s.visited (trail v) w = trail v ++ [w] :=
    fun w hw => if_neg hw
  -- whatever becomes visited is a neighbor that bridges
  have hvis : ∀ w, w ∈ unite s.visited found.neighborIds ↔ w ∈ s.visited ∨
      (Joined project v w ∧ Extends project s.visited (trail v) w) := by
    intro w
    rw [mem_unite, hfound.neighborIds, mem_neighbors h]
    simp
  have hhead : ∀ w, (trail v ++ [w]).head? = (trail v).head? := by
    intro w
    rw [List.head?_append_of_ne_nil]
    intro hnil
    have hlast := hinv.last v hv
    rw [hnil] at hlast
    cases hlast
  -- an edge of the graph leads to what is visited now, and in the same front unless it meets one
  have hedge : ∀ w, VlanEdge project group v w →
      w ∈ unite s.visited found.neighborIds ∧
        ((trail v).head? ≠ (extendTrail trail s.visited (trail v) w).head? →
          w ∉ trail v ∧ w ∈ s.visited) := by
    rintro w ⟨hjoined, -, hw⟩
    by_cases hin : w ∈ s.visited
    · refine ⟨(hvis w).2 (.inl hin), fun hne => ⟨fun hmem => hne ?_, hin⟩⟩
      rw [hold w hin, (hinv.front v hv w hmem).2]
    · have hbridges := hw.resolve_left fun hmem => hin (hinv.member w hmem).1
      have hout : w ∉ trail v := fun hmem => hin (hinv.front v hv w hmem).1
      refine ⟨(hvis w).2 (.inr ⟨hjoined, hout, hin, hbridges⟩), fun hne => absurd ?_ hne⟩
      rw [hnew w hin, hhead]
  have hdevs : ∀ x ∈ s.vlanDevices, x ∈ found.vlanDevices := fun x hx =>
    (hfound.vlanDevices x).2 (.inl hx)
  refine ⟨fun p hp => ?_, fun u hu => ?_, fun m hm => ?_, fun u hu => ?_, fun u hu => ?_,
    fun u hu => ?_, fun u hu x hx => ?_, fun u hu => ?_, fun u hu w hw hne x hx => ?_⟩
  · rcases (hfound.queue p).1 hp with hp | ⟨w, hw, hext, rfl⟩
    · obtain ⟨u, hu, rfl⟩ := hinv.queue p (by rw [hqueue]; exact List.mem_cons_of_mem _ hp)
      exact ⟨u, (hvis u).2 (.inl hu), (hold u hu).symm⟩
    · exact ⟨w, (hvis w).2 (.inr ⟨(mem_neighbors h).1 hw, hext⟩), (hnew w hext.2.1).symm⟩
  · rcases (hvis u).1 hu with hu | ⟨hjoined, hext⟩
    · rw [hold u hu]
      rcases hinv.split u hu with hdone | hwait
      · exact .inl (mem_insert_of_mem hdone)
      · rw [hqueue] at hwait
        rcases List.mem_cons.1 hwait with he | hwait
        · have hlast := hinv.last u hu
          rw [he, hinv.last v hv] at hlast
          cases hlast
          exact .inl (mem_insert_self _ done)
        · exact .inr ((hfound.queue _).2 (.inl hwait))
    · rw [hnew u hext.2.1]
      exact .inr ((hfound.queue _).2 (.inr ⟨u, (mem_neighbors h).2 hjoined, hext, rfl⟩))
  · obtain ⟨hm', htrail⟩ := hinv.member m hm
    exact ⟨(hvis m).2 (.inl hm'), by rw [hold m hm', htrail]⟩
  · rcases (hvis u).1 hu with hu | ⟨-, hext⟩
    · exact hinv.graph u hu
    · exact .inr hext.2.2
  · rcases (hvis u).1 hu with hu | ⟨-, hext⟩
    · rw [hold u hu]
      exact hinv.last u hu
    · rw [hnew u hext.2.1, List.getLast?_concat]
  · rcases (hvis u).1 hu with hu | ⟨hjoined, hext⟩
    · rw [hold u hu]
      exact hinv.chain u hu
    · rw [hnew u hext.2.1, List.isChain_append]
      refine ⟨hinv.chain v hv, List.isChain_singleton u, fun a ha b hb => ?_⟩
      rw [hinv.last v hv] at ha
      cases ha
      cases hb
      exact ⟨hjoined, hinv.graph _ hv, .inr hext.2.2⟩
  · rcases (hvis u).1 hu with hu | ⟨-, hext⟩
    · rw [hold u hu] at hx ⊢
      obtain ⟨hx', hroot⟩ := hinv.front u hu x hx
      exact ⟨(hvis x).2 (.inl hx'), by rw [hold x hx', hroot]⟩
    · rw [hnew u hext.2.1] at hx ⊢
      rw [hhead]
      rcases List.mem_append.1 hx with hx | hx
      · obtain ⟨hx', hroot⟩ := hinv.front v hv x hx
        exact ⟨(hvis x).2 (.inl hx'), by rw [hold x hx', hroot]⟩
      · obtain rfl := List.mem_singleton.1 hx
        exact ⟨hu, by rw [hnew x hext.2.1, hhead]⟩
  · rcases Finset.mem_insert.1 hu with rfl | hu
    · exact ⟨(hvis u).2 (.inl hv), fun w hw => (hedge w hw).1⟩
    · obtain ⟨hu', hclos⟩ := hinv.closed u hu
      exact ⟨(hvis u).2 (.inl hu'), fun w hw => (hvis w).2 (.inl (hclos w hw))⟩
  · rcases Finset.mem_insert.1 hu with rfl | hu
    · rw [hold u hv] at hne hx
      obtain ⟨hout, hin⟩ := (hedge w hw).2 hne
      exact (hfound.vlanDevices x).2 (.inr ⟨hx, w, (mem_neighbors h).2 hw.1, hout, hin⟩)
    · obtain ⟨hu', hclos⟩ := hinv.closed u hu
      rw [hold u hu'] at hne hx
      rw [hold w (hclos w hw)] at hne
      exact hdevs x (hinv.met u hu w hw hne x hx)

/-- **One round of the search.** -/
theorem VlanInv.round (h : ConsistentLinks project) {done : Finset ℤ} {trail : ℤ → List ℤ}
    {path : List ℤ} {queue : List (List ℤ)} (hinv : VlanInv project group done trail s)
    (hqueue : s.queue = path :: queue) : ∃ s', vlanRound project s = .next s' ∧
      (∃ done' trail', VlanInv project group done' trail' s') ∧
      vlanWork project s' < vlanWork project s := by
  obtain ⟨v, hv, rfl⟩ := hinv.queue path (by simp [hqueue])
  have hlast : (trail v).getLastD (-1) = v := by
    rw [List.getLastD_eq_getLast?, hinv.last v hv]
    rfl
  have hfound := @foldl_visitVlanNeighbor project s.visited (trail v)
    ((usedNeighbors project v).map Prod.snd) { queue := queue, vlanDevices := s.vlanDevices }
  generalize hfold : ((usedNeighbors project v).map Prod.snd).foldl
    (visitVlanNeighbor project s.visited (trail v))
    { queue := queue, vlanDevices := s.vlanDevices } = found at hfound
  refine ⟨⟨found.queue, unite s.visited found.neighborIds, found.vlanDevices⟩, ?_,
    ⟨_, _, hinv.visit h hqueue hv hfound⟩, ?_⟩
  · unfold vlanRound
    rw [hqueue]
    dsimp only
    rw [hlast, hfold]
  · unfold vlanWork
    rw [hqueue, List.length_cons]
    dsimp only
    have hsub : unvisited project ⟨found.queue, unite s.visited found.neighborIds,
        found.vlanDevices⟩ ⊆ unvisited project s := by
      intro x hx
      obtain ⟨hmem, hnot⟩ := mem_filter.1 hx
      exact mem_filter.2 ⟨hmem, fun hin => hnot (mem_unite.2 (.inl hin))⟩
    by_cases hstill : ∀ w ∈ (usedNeighbors project v).map Prod.snd,
        ¬Extends project s.visited (trail v) w
    · have hcard := card_le_card hsub
      have hsame : found.queue.length = queue.length := by rw [hfound.still hstill]
      have hmul := Nat.mul_le_mul_right (interfaceCount project + 1) hcard
      omega
    · push Not at hstill
      obtain ⟨w, hw, hext⟩ := hstill
      have hlt : (unvisited project ⟨found.queue, unite s.visited found.neighborIds,
          found.vlanDevices⟩).card < (unvisited project s).card := by
        refine card_lt_card ⟨hsub, fun hsup => ?_⟩
        obtain ⟨device, hdev, hid, -⟩ := h.exists_device ((mem_neighbors h).1 hw)
        have hmem : w ∈ unvisited project s := mem_filter.2
          ⟨List.mem_toFinset.2 (List.mem_map.2 ⟨device, hdev, hid⟩), hext.2.1⟩
        exact (mem_filter.1 (hsup hmem)).2
          (mem_unite.2 (.inr ((hfound.neighborIds w).2 (.inr ⟨hw, hext⟩))))
      have hlen := hfound.length
      have hcount := @length_usedNeighbors_le project v
      rw [List.length_map] at hlen
      dsimp only at hlen
      have hmul := Nat.mul_le_mul_right (interfaceCount project + 1) hlt
      rw [Nat.succ_mul] at hmul
      omega

/-- **The search ends, and is a search by fronts.** -/
theorem vlanSearch_fronts (h : ConsistentLinks project) (group : IntelligentVlan) {fuel : ℕ}
    (hfuel : vlanWork project (initialVlanSearch group) < fuel) :
    ∃ vlanDevices, Loop.run (vlanRound project) fuel (initialVlanSearch group) = some vlanDevices ∧
      ∃ reached trail, Fronts (VlanEdge project group) {x | x ∈ group.endStationList} reached
        {x | x ∈ vlanDevices} trail := by
  have hround : ∀ s, (∃ done trail, VlanInv project group done trail s) →
      (∃ r, vlanRound project s = .done r) ∨
      ∃ u, vlanRound project s = .next u ∧ (∃ done trail, VlanInv project group done trail u) ∧
        vlanWork project u < vlanWork project s := by
    rintro s ⟨done, trail, hinv⟩
    cases hqueue : s.queue with
    | nil =>
      refine .inl ⟨s.vlanDevices, ?_⟩
      unfold vlanRound
      rw [hqueue]
    | cons path queue => exact .inr (hinv.round h hqueue)
  obtain ⟨vlanDevices, s, hrun, ⟨done, trail, hinv⟩, hdone⟩ := Loop.exists_run_done
    (vlanWork project) ⟨∅, _, VlanInv.init⟩ hround hfuel
  have hqueue : s.queue = [] := by
    cases hqueue : s.queue with
    | nil => rfl
    | cons path queue =>
      obtain ⟨u, hnext, -⟩ := hinv.round h hqueue
      rw [hnext] at hdone
      cases hdone
  obtain rfl : s.vlanDevices = vlanDevices := by
    unfold vlanRound at hdone
    rw [hqueue] at hdone
    cases hdone
    rfl
  have hall : ∀ v ∈ s.visited, v ∈ done := by
    intro v hv
    refine (hinv.split v hv).resolve_right ?_
    rw [hqueue]
    exact List.not_mem_nil
  exact ⟨s.vlanDevices, hrun, {x | x ∈ s.visited}, trail, {
    symm := fun a b hab => hab.symm
    source := hinv.member
    last := hinv.last
    chain := hinv.chain
    closed := fun v hv => (hinv.closed v (hall v hv)).2
    met := fun v hv => hinv.met v (hall v hv) }⟩

/-! ### The ports -/

/-- **The ports of one device**: those behind which there is a device of the VLAN. -/
theorem mem_value_insertVlanPorts {vlanDevices : QSet ℤ} {ports : QMap ℤ (QSet ℤ)} {x y i : ℤ} :
    i ∈ (insertVlanPorts project vlanDevices ports x).value y ↔ i ∈ ports.value y ∨
      (y = x ∧ (deviceOf project x).deviceType ≠ .endStation ∧
        ∃ w, (i, w) ∈ usedNeighbors project x ∧ w ∈ vlanDevices) := by
  unfold insertVlanPorts
  split_ifs with htype
  · simp [htype]
  · generalize usedNeighbors project x = neighbors
    induction neighbors generalizing ports with
    | nil => simp
    | cons neighbor neighbors ih =>
      obtain ⟨port, neighborId⟩ := neighbor
      rw [List.foldl_cons, ih]
      dsimp only
      split_ifs with hc
      · rw [contains_iff_mem] at hc
        rw [value_update]
        split_ifs with hxy
        · subst hxy
          rw [QSet.mem_insert]
          constructor
          · rintro ((hi | rfl) | ⟨-, -, w, hw, hmem⟩)
            · exact .inl hi
            · exact .inr ⟨rfl, htype, _, List.mem_cons_self, hc⟩
            · exact .inr ⟨rfl, htype, w, List.mem_cons_of_mem _ hw, hmem⟩
          · rintro (hi | ⟨-, -, w, hw, hmem⟩)
            · exact .inl (.inl hi)
            · rcases List.mem_cons.1 hw with he | hw
              · exact .inl (.inr (Prod.mk.inj he).1)
              · exact .inr ⟨rfl, htype, w, hw, hmem⟩
        · have hyx : ¬y = x := fun he => hxy he.symm
          simp [hyx]
      · rw [contains_iff_mem] at hc
        refine or_congr_right (and_congr_right fun _ => and_congr_right fun _ => ?_)
        refine exists_congr fun w => and_congr_left fun hmem => ?_
        rw [List.mem_cons]
        refine ⟨.inr, fun hw => hw.resolve_left fun he => hc ?_⟩
        rwa [(Prod.mk.inj he).2] at hmem

theorem exists_port_insertVlanPorts {vlanDevices : QSet ℤ} {ports : QMap ℤ (QSet ℤ)} {x : ℤ}
    (hports : ∀ y, ports.contains y = true → ∃ i, i ∈ ports.value y) (y : ℤ)
    (hy : (insertVlanPorts project vlanDevices ports x).contains y = true) :
    ∃ i, i ∈ (insertVlanPorts project vlanDevices ports x).value y := by
  revert hports hy
  unfold insertVlanPorts
  split_ifs with htype
  · exact fun hports hy => hports y hy
  · generalize usedNeighbors project x = neighbors
    induction neighbors generalizing ports with
    | nil => exact fun hports hy => hports y hy
    | cons neighbor neighbors ih =>
      obtain ⟨port, neighborId⟩ := neighbor
      intro hports hy
      rw [List.foldl_cons] at hy ⊢
      refine ih (fun z hz => ?_) hy
      dsimp only at hz ⊢
      split_ifs at hz ⊢
      · rw [contains_update] at hz
        rw [value_update]
        split_ifs with hxz
        · exact ⟨port, QSet.mem_insert.2 (.inr rfl)⟩
        · exact hports z (by simpa [hxz] using hz)
      · exact hports z hz

/-- **The egress ports of the VLAN.** -/
theorem mem_vlanDevicesMap {vlanDevices : QSet ℤ} {x i : ℤ} :
    i ∈ (vlanDevicesMap project vlanDevices).value x ↔ x ∈ vlanDevices ∧
      (deviceOf project x).deviceType ≠ .endStation ∧
      ∃ w, (i, w) ∈ usedNeighbors project x ∧ w ∈ vlanDevices := by
  unfold vlanDevicesMap
  suffices h : ∀ devices ports, i ∈ (List.foldl (insertVlanPorts project vlanDevices) ports
      devices).value x ↔ i ∈ ports.value x ∨ (x ∈ devices ∧
        (deviceOf project x).deviceType ≠ .endStation ∧
        ∃ w, (i, w) ∈ usedNeighbors project x ∧ w ∈ vlanDevices) by
    rw [h]
    simp
  intro devices
  induction devices with
  | nil => simp
  | cons device devices ih =>
    intro ports
    rw [List.foldl_cons, ih, mem_value_insertVlanPorts, List.mem_cons, or_assoc]
    refine or_congr_right ⟨?_, ?_⟩
    · rintro (⟨rfl, htype, hports⟩ | ⟨hx, htype, hports⟩)
      · exact ⟨.inl rfl, htype, hports⟩
      · exact ⟨.inr hx, htype, hports⟩
    · rintro ⟨rfl | hx, htype, hports⟩
      · exact .inl ⟨rfl, htype, hports⟩
      · exact .inr ⟨hx, htype, hports⟩

theorem exists_port_vlanDevicesMap {vlanDevices : QSet ℤ} {x : ℤ}
    (hx : (vlanDevicesMap project vlanDevices).contains x = true) :
    ∃ i, i ∈ (vlanDevicesMap project vlanDevices).value x := by
  unfold vlanDevicesMap at hx ⊢
  suffices h : ∀ devices ports, (∀ y, ports.contains y = true → ∃ i, i ∈ ports.value y) →
      ∀ y, (List.foldl (insertVlanPorts project vlanDevices) ports devices).contains y = true →
        ∃ i, i ∈ (List.foldl (insertVlanPorts project vlanDevices) ports devices).value y from
    h vlanDevices ∅ (by simp) x hx
  intro devices
  induction devices with
  | nil => exact fun ports hports => hports
  | cons device devices ih =>
    intro ports hports
    rw [List.foldl_cons]
    exact ih _ (exists_port_insertVlanPorts hports)

/-! ### The tables -/

/-- **What a table says once it is configured**: VLAN 1 has every port of the device, the
VLAN of the group has its egress ports and those it had, and the others are as they were. -/
theorem mem_egressOf_configureVlanTable {device : Device} {v : ℤ} {egressPorts : QSet ℤ}
    {table : VlanTable} {q w : ℤ} (hq : q ∈ devicePorts device)
    (h : w ∈ egressOf table.vlanStaticEntries q ∨ (w = v ∧ q ∈ egressPorts)) :
    w ∈ egressOf (configureVlanTable device v egressPorts table).vlanStaticEntries q := by
  unfold configureVlanTable insertDefaultPvidVlanToVlanConfig
  dsimp only
  rw [mem_egressOf_insert]
  split_ifs with hw
  · -- the port has a port type, if only the default one
    rw [List.mem_toFinset, mem_keys_iff]
    unfold insertDefaultVlanPortTypeToVlanConfig
    dsimp only
    rw [getElem?_foldl_insertIfNew, if_pos (mem_devicePorts.1 hq)]
    split_ifs with hsome
    · exact Option.isSome_iff_exists.1 hsome
    · exact ⟨_, rfl⟩
  · show w ∈ egressOf (uniteEgressPorts v egressPorts table).vlanStaticEntries q
    unfold uniteEgressPorts
    dsimp only
    rw [mem_egressOf_insert]
    split_ifs with hwv
    · rw [mem_union, mem_getD_egressPorts, List.mem_toFinset]
      rcases h with h | ⟨-, h⟩
      · exact .inl (hwv ▸ h)
      · exact .inr h
    · exact h.resolve_right fun hc => hwv hc.1

/-- The port is an egress port of the VLAN's static entry in the table of the device. -/
def EgressAt (project : Project) (deviceId vlanId port : ℤ) : Prop :=
  ∃ table, project.vlanTables[deviceId]? = some table ∧
    vlanId ∈ egressOf table.vlanStaticEntries port

/-- Every table is stored under the device it names. -/
def TablesKeyed (project : Project) : Prop :=
  ∀ x : ℤ, ∀ table, project.vlanTables[x]? = some table → table.deviceId = x

/-- **What the configuration of a VLAN keeps**: all but the tables, and of these every
egress port. -/
structure Configured (project project' : Project) : Prop where
  same : ∃ tables, project' = { project with vlanTables := tables }
  keyed : TablesKeyed project'
  kept : ∀ device ∈ project.devices, ∀ port ∈ devicePorts device, ∀ vlanId,
    EgressAt project device.id vlanId port → EgressAt project' device.id vlanId port

theorem Configured.refl (h : TablesKeyed project) : Configured project project :=
  ⟨⟨project.vlanTables, rfl⟩, h, fun _ _ _ _ _ he => he⟩

theorem Configured.trans {project' project'' : Project} (h : Configured project project')
    (h' : Configured project' project'') : Configured project project'' := by
  obtain ⟨⟨tables, rfl⟩, -, hkept⟩ := h
  obtain ⟨⟨tables', rfl⟩, hkeyed, hkept'⟩ := h'
  exact ⟨⟨tables', rfl⟩, hkeyed, fun device hdev port hport vlanId he =>
    hkept' device hdev port hport vlanId (hkept device hdev port hport vlanId he)⟩

theorem Configured.consistentLinks {project' : Project} (h : Configured project project')
    (hlinks : ConsistentLinks project) : ConsistentLinks project' := by
  obtain ⟨⟨tables, rfl⟩, -, -⟩ := h
  exact ⟨⟨hlinks.devices, hlinks.links, hlinks.used⟩, hlinks.ends⟩

/-- **One device of the VLAN**: its table is stored with the egress ports. -/
theorem configureVlanDevice_spec (h : ConsistentLinks project) (hkeyed : TablesKeyed project)
    {v : ℤ} {ports : QMap ℤ (QSet ℤ)} {device : Device} (hdev : device ∈ project.devices) :
    ∃ project', configureVlanDevice v ports project device.id = .ok project' ∧
      Configured project project' ∧ ∀ port ∈ ports.value device.id, port ∈ devicePorts device →
        EgressAt project' device.id v port := by
  -- the table the device has, or an empty one
  obtain ⟨table, htable, hid, hold⟩ : ∃ table : VlanTable,
      (match getVlanConfig project device.id with
        | .error _ => { deviceId := device.id }
        | .ok table => table) = table ∧ table.deviceId = device.id ∧
      ∀ vlanId port, EgressAt project device.id vlanId port →
        vlanId ∈ egressOf table.vlanStaticEntries port := by
    unfold getVlanConfig
    cases hget : project.vlanTables[device.id]? with
    | none =>
      refine ⟨_, rfl, rfl, fun vlanId port he => ?_⟩
      obtain ⟨table, htable, -⟩ := he
      rw [hget] at htable
      cases htable
    | some table =>
      refine ⟨_, rfl, hkeyed _ _ hget, fun vlanId port he => ?_⟩
      obtain ⟨other, hother, hmem⟩ := he
      rw [hget] at hother
      cases hother
      exact hmem
  unfold configureVlanDevice storeVlanTable
  dsimp only
  rw [htable, deviceOf_eq h hdev]
  have hid' : (configureVlanTable device v (ports.value device.id) table).deviceId = device.id :=
    hid
  rw [hid', h.devices.getDeviceById hdev rfl]
  dsimp only
  refine ⟨_, rfl, ⟨⟨_, rfl⟩, fun x t ht => ?_, fun other hother port hport vlanId he => ?_⟩,
    fun port hport hin => ?_⟩
  · dsimp only at ht
    rw [Std.TreeMap.getElem?_insert] at ht
    simp only [Std.compare_eq_iff_eq] at ht
    split_ifs at ht with hx
    · cases ht
      exact hid'.trans hx
    · exact hkeyed x t ht
  · unfold EgressAt
    dsimp only
    rw [Std.TreeMap.getElem?_insert]
    simp only [Std.compare_eq_iff_eq]
    split_ifs with hx
    · obtain rfl := h.devices.eq_of_id hdev hother hx
      exact ⟨_, rfl, mem_egressOf_configureVlanTable hport (.inl (hold vlanId port he))⟩
    · exact he
  · exact ⟨_, Std.TreeMap.getElem?_insert_self,
      mem_egressOf_configureVlanTable hin (.inr ⟨rfl, hport⟩)⟩

theorem exists_device_of_mem_usedNeighbors (h : ConsistentLinks project) {x i w : ℤ}
    (hmem : (i, w) ∈ usedNeighbors project x) :
    ∃ device ∈ project.devices, device.id = x ∧ i ∈ devicePorts device := by
  obtain ⟨link, hlink, hend, -⟩ := (mem_usedNeighbors h).1 hmem
  obtain ⟨device, hdev, hid, interface, hintf, hi⟩ := h.ends link hlink x i hend
  exact ⟨device, hdev, hid, mem_devicePorts.2 ⟨interface, hintf, hi⟩⟩

/-- **What a group is owed**: its search is a search by fronts, and if it found two end
stations, the ports between its devices are egress ports. -/
def GroupConfigured (project project' : Project) (group : IntelligentVlan) : Prop :=
  ∃ vlanDevices reached trail, Fronts (VlanEdge project group) {x | x ∈ group.endStationList}
      reached {x | x ∈ vlanDevices} trail ∧
    (2 ≤ endStationCount project vlanDevices → ∀ x ∈ vlanDevices,
      (deviceOf project x).deviceType ≠ .endStation → ∀ i w, (i, w) ∈ usedNeighbors project x →
        w ∈ vlanDevices → EgressAt project' x (group.vlanId.toNat : ℤ) i)

theorem GroupConfigured.mono (hlinks : ConsistentLinks project) {project' project'' : Project}
    (h : GroupConfigured project project' group) (hsame : Configured project project')
    (hkept : Configured project' project'') : GroupConfigured project project'' group := by
  obtain ⟨vlanDevices, reached, trail, hfronts, hports⟩ := h
  refine ⟨vlanDevices, reached, trail, hfronts, fun hcount x hx htype i w hiw hw => ?_⟩
  obtain ⟨device, hdev, rfl, hi⟩ := exists_device_of_mem_usedNeighbors hlinks hiw
  obtain ⟨⟨tables, rfl⟩, -, -⟩ := hsame
  exact hkept.kept device hdev i hi _ (hports hcount device.id hx htype i w hiw hw)

/-- **One group.** -/
theorem computeVlanGroup_spec (h : ConsistentLinks project) (hkeyed : TablesKeyed project)
    (group : IntelligentVlan) {fuel : ℕ}
    (hfuel : vlanWork project (initialVlanSearch group) < fuel) :
    ∃ project', computeVlanGroup fuel project group = some (.ok project') ∧
      Configured project project' ∧ GroupConfigured project project' group := by
  obtain ⟨vlanDevices, hrun, reached, trail, hfronts⟩ := vlanSearch_fronts h group hfuel
  unfold computeVlanGroup
  rw [hrun, Option.map_some]
  dsimp only
  split_ifs with hcount
  · exact ⟨project, rfl, Configured.refl hkeyed, vlanDevices, reached, trail, hfronts,
      fun hc => absurd hc (Nat.not_le.2 hcount)⟩
  · obtain ⟨project', hfold, hsame, hports⟩ := ExceptRule.exists_foldlM
      (f := configureVlanDevice (group.vlanId.toNat : ℤ) (vlanDevicesMap project vlanDevices))
      (l := (vlanDevicesMap project vlanDevices).keys) (b := project)
      (I := fun passed (project' : Project) => Configured project project' ∧
        ∀ device ∈ project.devices, device.id ∈ passed →
          ∀ port ∈ (vlanDevicesMap project vlanDevices).value device.id,
            port ∈ devicePorts device → EgressAt project' device.id (group.vlanId.toNat : ℤ) port)
      ⟨Configured.refl hkeyed, fun _ _ hmem => absurd hmem List.not_mem_nil⟩ (by
        rintro passed x current hx ⟨hcur, hpast⟩
        -- whoever has an entry is a stored device
        obtain ⟨i, hi⟩ := exists_port_vlanDevicesMap
          (show (vlanDevicesMap project vlanDevices).contains x = true by
            obtain ⟨ports, hports⟩ := mem_keys_iff.1 hx
            simp [Std.TreeMap.contains_eq_isSome_getElem?, hports])
        obtain ⟨-, -, w, hiw, -⟩ := mem_vlanDevicesMap.1 hi
        obtain ⟨device, hdev, rfl, -⟩ := exists_device_of_mem_usedNeighbors h hiw
        have hstored : device ∈ current.devices := by
          obtain ⟨⟨tables, rfl⟩, -, -⟩ := hcur
          exact hdev
        obtain ⟨next, hnext, hconfigured, hports⟩ := @configureVlanDevice_spec current
          (hcur.consistentLinks h) hcur.keyed (group.vlanId.toNat : ℤ)
          (vlanDevicesMap project vlanDevices) device hstored
        refine ⟨next, hnext, hcur.trans hconfigured, fun other hother hmem port hport hin => ?_⟩
        rcases List.mem_append.1 hmem with hmem | hmem
        · have hstored' : other ∈ current.devices := by
            obtain ⟨⟨tables, rfl⟩, -, -⟩ := hcur
            exact hother
          exact hconfigured.kept other hstored' port hin _
            (hpast other hother hmem port hport hin)
        · obtain rfl := h.devices.eq_of_id hother hdev (List.mem_singleton.1 hmem)
          exact hports port hport hin)
    refine ⟨project', congrArg some hfold, hsame, vlanDevices, reached, trail, hfronts,
      fun _ x hx htype i w hiw hw => ?_⟩
    obtain ⟨device, hdev, rfl, hi⟩ := exists_device_of_mem_usedNeighbors h hiw
    have hport : i ∈ (vlanDevicesMap project vlanDevices).value device.id :=
      mem_vlanDevicesMap.2 ⟨hx, htype, w, hiw, hw⟩
    have hkey : device.id ∈ (vlanDevicesMap project vlanDevices).keys := by
      cases hget : (vlanDevicesMap project vlanDevices)[device.id]? with
      | some ports => exact mem_keys_iff.2 ⟨ports, hget⟩
      | none =>
        rw [value_eq_getD, hget] at hport
        cases hport
    exact hports device hdev hkey i hport hi

/-- **All groups, one after the other.** -/
theorem computeVlanGroups_spec (h : ConsistentLinks project) {fuel : ℕ}
    (groups : List IntelligentVlan)
    (hfuel : ∀ group ∈ groups, vlanWork project (initialVlanSearch group) < fuel)
    {current : Project} (hcur : Configured project current) :
    ∃ project', computeVlanGroups fuel groups current = some (.ok project') ∧
      Configured current project' ∧ ∀ group ∈ groups, GroupConfigured project project' group := by
  induction groups generalizing current with
  | nil =>
    exact ⟨current, rfl, Configured.refl hcur.keyed, fun _ hg => absurd hg List.not_mem_nil⟩
  | cons group groups ih =>
    have hwork : vlanWork current (initialVlanSearch group) < fuel := by
      obtain ⟨⟨tables, rfl⟩, -, -⟩ := hcur
      exact hfuel group List.mem_cons_self
    obtain ⟨next, hnext, hconfigured, hgroup⟩ := computeVlanGroup_spec
      (hcur.consistentLinks h) hcur.keyed group hwork
    obtain ⟨project', hrest, hconfigured', hgroups⟩ := ih
      (fun other hother => hfuel other (List.mem_cons_of_mem _ hother)) (hcur.trans hconfigured)
    have hgroup' : GroupConfigured project next group := by
      obtain ⟨⟨tables, rfl⟩, -, -⟩ := hcur
      exact hgroup
    unfold computeVlanGroups
    rw [hnext]
    refine ⟨project', hrest, hconfigured.trans hconfigured', fun other hother => ?_⟩
    rcases List.mem_cons.1 hother with rfl | hother
    · exact hgroup'.mono h (hcur.trans hconfigured) hconfigured'
    · exact hgroups other hother

/-! ### The VLAN connects its end stations -/

/-- **A path in the VLAN**: it goes from link to link through members and bridging devices,
and every port it uses at a bridging device is an egress port of the VLAN. -/
inductive VlanPath (project : Project) (group : IntelligentVlan) (s : ℤ) : ℤ → Prop
  | refl : VlanPath project group s s
  | hop {a b i j : ℤ} {link : Link} : VlanPath project group s a → link ∈ project.links →
      link.hasEndpoint a i = true → link.hasEndpoint b j = true → a ≠ b →
      InVlanGraph project group a → InVlanGraph project group b →
      (bridges (deviceOf project a).deviceType = true →
        EgressAt project a (group.vlanId.toNat : ℤ) i) →
      (bridges (deviceOf project b).deviceType = true →
        EgressAt project b (group.vlanId.toNat : ℤ) j) →
      VlanPath project group s b

theorem ne_endStation_of_bridges {deviceType : DeviceType} (h : bridges deviceType = true) :
    deviceType ≠ .endStation := by
  rintro rfl
  cases h

/-- Two end stations among the devices are counted. -/
theorem two_le_endStationCount {vlanDevices : QSet ℤ} {s t : ℤ} (hs : s ∈ vlanDevices)
    (ht : t ∈ vlanDevices) (hne : s ≠ t) (hstype : (deviceOf project s).deviceType = .endStation)
    (httype : (deviceOf project t).deviceType = .endStation) :
    2 ≤ endStationCount project vlanDevices := by
  unfold endStationCount
  rw [List.countP_eq_length_filter]
  have hmem : ∀ x ∈ [s, t], x ∈ vlanDevices.filter
      fun deviceId => (deviceOf project deviceId).deviceType = .endStation := by
    intro x hx
    rcases List.mem_cons.1 hx with rfl | hx
    · exact List.mem_filter.2 ⟨hs, by simpa using hstype⟩
    · obtain rfl := List.mem_singleton.1 hx
      exact List.mem_filter.2 ⟨ht, by simpa using httype⟩
  have hnodup : [s, t].Nodup := by simp [hne]
  exact (hnodup.subperm hmem).length_le

/-- **`ComputeVlanConfig` connects the end stations of a group.**  It succeeds, and if two end
stations of the group lie in one component of its graph, any two members that lie in one
component are joined by a path in the VLAN. -/
theorem computeVlanConfig_connects (h : ConsistentLinks project) {fuel : ℕ}
    (hfuel : ∀ group ∈ project.intelligentVlanGroup,
      vlanWork project (initialVlanSearch group) < fuel) :
    ∃ project', computeVlanConfig fuel project = some (.ok project') ∧
      ∀ group ∈ project.intelligentVlanGroup,
        (∃ a ∈ group.endStationList, ∃ b ∈ group.endStationList, a ≠ b ∧
          (deviceOf project a).deviceType = .endStation ∧
          (deviceOf project b).deviceType = .endStation ∧
          Relation.ReflTransGen (VlanEdge project group) a b) →
        ∀ s ∈ group.endStationList, ∀ t ∈ group.endStationList,
          Relation.ReflTransGen (VlanEdge project group) s t → VlanPath project' group s t := by
  have hcleared : Configured { project with vlanTables := ∅ } { project with vlanTables := ∅ } :=
    Configured.refl fun x table htable => by simp at htable
  obtain ⟨project', hrun, hconfigured, hgroups⟩ := @computeVlanGroups_spec
    { project with vlanTables := ∅ } ⟨⟨h.devices, h.links, h.used⟩, h.ends⟩ fuel
    project.intelligentVlanGroup hfuel _ hcleared
  refine ⟨project', hrun, fun group hgroup hstations s hs t ht hreach => ?_⟩
  obtain ⟨vlanDevices, reached, trail, hfronts, hports⟩ := hgroups group hgroup
  obtain ⟨a, ha, b, hb, hne, hatype, hbtype, hab⟩ := hstations
  obtain ⟨⟨tables, rfl⟩, -, -⟩ := hconfigured
  have hsymm : Std.Symm (VlanEdge project group) := ⟨fun _ _ => VlanEdge.symm⟩
  have hba : Relation.ReflTransGen (VlanEdge project group) b a :=
    Relation.ReflTransGen.stdSymm.symm a b hab
  have hcount : 2 ≤ endStationCount project vlanDevices :=
    two_le_endStationCount (hfronts.mem_recorded ha hb hne hab)
      (hfronts.mem_recorded hb ha (Ne.symm hne) hba) hne hatype hbtype
  have hpath := hfronts.connected hs ht hreach
  clear hreach ht
  induction hpath with
  | refl => exact .refl
  | @tail x y _ hstep ih =>
    obtain ⟨⟨hjoined, hxgraph, hygraph⟩, hx, hy⟩ := hstep
    by_cases hxy : x = y
    · exact hxy ▸ ih
    obtain ⟨link, hlink, i, j, hi, hj, hiseen, hjseen⟩ := exists_hop h hjoined
    exact .hop ih hlink hi hj hxy hxgraph hygraph
      (fun hbridges => hports hcount x hx (ne_endStation_of_bridges hbridges) i y hiseen hy)
      (fun hbridges => hports hcount y hy (ne_endStation_of_bridges hbridges) j x hjseen hx)

/-- Two end stations at a switch share VLAN 2. -/
def stationsAtSwitch : Project where
  devices :=
    [{ id := 1, ipAddress := "10.0.0.1", deviceType := .endStation,
       interfaces := [{ deviceId := 1, interfaceId := 1, used := true }] },
     { id := 2, ipAddress := "10.0.0.2", deviceType := .switch,
       interfaces := [{ deviceId := 2, interfaceId := 1, used := true },
         { deviceId := 2, interfaceId := 2, used := true }] },
     { id := 3, ipAddress := "10.0.0.3", deviceType := .endStation,
       interfaces := [{ deviceId := 3, interfaceId := 1, used := true }] }]
  links :=
    [{ id := 1, sourceDeviceId := 1, sourceInterfaceId := 1, destinationDeviceId := 2,
       destinationInterfaceId := 1 },
     { id := 2, sourceDeviceId := 2, sourceInterfaceId := 2, destinationDeviceId := 3,
       destinationInterfaceId := 1 }]
  intelligentVlanGroup := [{ vlanId := 2, endStationList := [1, 3] }]

theorem consistentLinks_stationsAtSwitch : ConsistentLinks stationsAtSwitch :=
  consistentLinks_of (by unfold QSet.Distinct stationsAtSwitch; decide)
    (by unfold stationsAtSwitch; decide) (by unfold QSet.Distinct stationsAtSwitch; decide)
    (by unfold stationsAtSwitch; decide) (by unfold stationsAtSwitch; decide)

/-- The two stations are joined by a path in their VLAN. -/
theorem computeVlanConfig_connects_stationsAtSwitch :
    ∃ project', computeVlanConfig 20 stationsAtSwitch = some (.ok project') ∧
      VlanPath project' { vlanId := 2, endStationList := [1, 3] } 1 3 := by
  obtain ⟨project', hrun, hall⟩ := @computeVlanConfig_connects stationsAtSwitch
    consistentLinks_stationsAtSwitch 20 (by decide +kernel)
  have hgroup : ({ vlanId := 2, endStationList := [1, 3] } : IntelligentVlan) ∈
      stationsAtSwitch.intelligentVlanGroup := List.mem_singleton_self _
  have hswitch : bridges (deviceOf stationsAtSwitch 2).deviceType = true := by decide +kernel
  have hreach : Relation.ReflTransGen (VlanEdge stationsAtSwitch
      { vlanId := 2, endStationList := [1, 3] }) 1 3 := by
    refine .tail (.single ⟨?_, .inl (by decide), .inr hswitch⟩)
      ⟨?_, .inr hswitch, .inl (by decide)⟩
    · exact ⟨_, List.mem_cons_self, .inl ⟨rfl, rfl⟩⟩
    · exact ⟨_, List.mem_cons_of_mem _ List.mem_cons_self, .inl ⟨rfl, rfl⟩⟩
  exact ⟨project', hrun, hall _ hgroup ⟨1, by decide, 3, by decide, by decide, by decide +kernel,
    by decide +kernel, hreach⟩ 1 (by decide) 3 (by decide) hreach⟩

end Core
end Sebastian

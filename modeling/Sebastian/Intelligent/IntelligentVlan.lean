/-
# Intelligent VLANs

`sebastian/core/intelligent_vlan.go`: `CreateIntelligentVLAN`,
`UpdateIntelligentVLAN` and `DeleteIntelligentVLAN`.  Each gets the project from
the core, works on the lists of the VLAN groups and of the device tables, and
puts the project back.  In the core these lists are sets (`Kept`).

The id of a new group is checked against the device tables and not against the
groups, and a group whose stations are not connected has no entry in a table.
`separate_iff` says when the groups keep different ids for all that: as long as
no group without an entry has the id that a new group gets.
-/

import Sebastian.Intelligent.PathSearch
import Sebastian.Lib.Run

namespace Sebastian
namespace Intelligent

open List QMap

/-! ### The project -/

/-- `domain.PortVlanEntry` -/
structure PortVlanEntry where
  portId : ℤ
  pvid : ℤ

/-- `domain.VlanPortTypeEntry` -/
structure VlanPortTypeEntry where
  portId : ℤ
  vlanPortType : String

/-- `domain.VlanStaticEntry` -/
structure VlanStaticEntry where
  vlanId : ℤ
  name : String
  teMstid : Bool := false
  egressPorts : List ℤ := []
  untaggedPorts : List ℤ := []

/-- `domain.VlanTable` -/
structure VlanTable where
  managementVlan : ℤ := 0
  portVlanEntries : List PortVlanEntry := []
  vlanPortTypeEntries : List VlanPortTypeEntry := []
  vlanStaticEntries : List VlanStaticEntry := []

/-- `domain.VlanRange` -/
structure VlanRange where
  min : ℤ
  max : ℤ

/-- `domain.Project`, as far as the VLAN groups are concerned. -/
structure VlanProject where
  devices : List Device := []
  links : List Link := []
  vlanRange : VlanRange
  intelligentVlanGroup : List IntelligentVlan := []
  /-- `map[int64]VlanTable`; a device without a table reads as the zero table. -/
  vlanTables : QMap ℤ VlanTable := ∅

instance : Inhabited VlanTable := ⟨{}⟩

/-- `uint16(n)` -/
def toUInt16 (n : ℤ) : UInt16 := UInt16.ofNat (n % 65536).toNat

/-- `int(id)` -/
def ofUInt16 (id : UInt16) : ℤ := id.toNat

/-- The order of a loop over the devices of a port map, and of the loops over their ports. -/
structure WalkOf (m : PortMap) (walk : List (ℤ × List ℤ)) : Prop where
  nodup : (walk.map (·.1)).Nodup
  mem : ∀ devId, devId ∈ walk.map (·.1) ↔ (m devId).isSome
  ports : ∀ devId ports, (devId, ports) ∈ walk → ports.Nodup ∧
    ∀ portSet, m devId = some portSet → ∀ port, port ∈ ports ↔ (portSet port).isSome

namespace VlanTable

/-- The VLANs that have an entry. -/
def vlanIds (table : VlanTable) : List ℤ := table.vlanStaticEntries.map (·.vlanId)

/-- What `DeleteIntelligentVLAN` does with a table: the ports of the VLAN go to the management
VLAN, and its first entry is removed. -/
def delete (table : VlanTable) (vlanId : UInt16) : VlanTable :=
  { table with
    portVlanEntries := table.portVlanEntries.map fun entry =>
      if entry.pvid = ofUInt16 vlanId then { entry with pvid := table.managementVlan } else entry
    vlanStaticEntries :=
      table.vlanStaticEntries.eraseP fun entry => entry.vlanId = ofUInt16 vlanId }

end VlanTable

namespace VlanProject

/-- `checkVlanIdUsed` -/
def checkVlanIdUsed (project : VlanProject) (vlanId : UInt16) : Bool :=
  project.vlanTables.vals.any fun table => table.vlanIds.any fun id => toUInt16 id = vlanId

/-- `findUniqueIntelligentVlanId`: the first id from `Min` to `Max` that is not used. -/
def findUniqueIntelligentVlanId (project : VlanProject) : Option UInt16 :=
  let min := (toUInt16 project.vlanRange.min).toNat
  let max := (toUInt16 project.vlanRange.max).toNat
  ((List.range' min (max + 1 - min)).map UInt16.ofNat).find? fun id =>
    !project.checkVlanIdUsed id

/-- The VLAN id of a new group. -/
def newVlanId (project : VlanProject) (group : IntelligentVlan) : Except String UInt16 :=
  match group.streamType with
  | .untagged =>
    match project.findUniqueIntelligentVlanId with
    | none => .error "No available VLAN ID"
    | some vlanId => .ok vlanId
  | .tagged =>
    if group.vlanId < toUInt16 project.vlanRange.min ∨
        group.vlanId > toUInt16 project.vlanRange.max then
      .error ("VLAN ID must be between " ++ toString project.vlanRange.min ++ " and " ++
        toString project.vlanRange.max ++ " for tagged stream type")
    else if project.checkVlanIdUsed group.vlanId then
      .error ("VLAN ID " ++ toString group.vlanId ++ " is already in use")
    else .ok group.vlanId
  | .unknown => .error "Unknown StreamType"

/-- `ifaceUsable`: the interfaces of each device that are active and used. -/
def ifaceUsable (project : VlanProject) : GoMap ℤ (ℤ → Bool) :=
  project.devices.foldl (fun m device => m.set device.id fun interfaceId =>
    device.interfaces.any fun interface =>
      interface.interfaceId = interfaceId && (interface.active && interface.used)) .empty

/-- The links both interfaces of which are active and used. -/
def usableLinks (project : VlanProject) : List Link :=
  let usable (devId interfaceId : ℤ) : Bool :=
    ((project.ifaceUsable devId).map fun interfaces => interfaces interfaceId).getD false
  project.links.filter fun link =>
    usable link.sourceDeviceId link.sourceInterfaceId &&
      usable link.destinationDeviceId link.destinationInterfaceId

/-- The tables with the ports of an untagged VLAN at the end stations. -/
def addPortVlanEntries (vlanId : UInt16) (tables : QMap ℤ VlanTable)
    (edgePorts : List (ℤ × List ℤ)) : QMap ℤ VlanTable :=
  edgePorts.foldl (fun tables x => tables.update x.1 fun table =>
    { table with portVlanEntries := table.portVlanEntries ++ x.2.map fun port =>
        { portId := port, pvid := ofUInt16 vlanId } }) tables

/-- The tables with the entry of a VLAN in each device on its paths. -/
def addVlanStaticEntries (vlanId : UInt16) (tables : QMap ℤ VlanTable)
    (edgePorts throughPorts : List (ℤ × List ℤ)) : QMap ℤ VlanTable :=
  throughPorts.foldl (fun tables x => tables.update x.1 fun table =>
    { table with
      vlanPortTypeEntries := table.vlanPortTypeEntries ++ x.2.map fun port =>
        { portId := port, vlanPortType := "Access" }
      vlanStaticEntries := table.vlanStaticEntries ++
        [{ vlanId := ofUInt16 vlanId
           name := "v" ++ toString vlanId
           egressPorts := x.2
           untaggedPorts := (edgePorts.lookup x.1).getD [] }] }) tables

/-- `CreateIntelligentVLAN` from the project that it gets to the one that it puts back, with the
orders of its loops over the port maps. -/
def createIntelligentVLAN (fuel : ℕ) (walk : PortMap → List (ℤ × List ℤ)) (project : VlanProject)
    (group : IntelligentVlan) : Option (Except String VlanProject) :=
  if group.endStationList.length < 2 then
    some (.error "EndStationList must contain at least 2 devices")
  else
    match group.endStationList.find? fun edgeId =>
      !project.devices.any fun device => device.id = edgeId with
    | some edgeId =>
      some (.error ("Device ID " ++ toString edgeId ++
        " in EndStationList does not exist in the project"))
    | none =>
      match project.newVlanId group with
      | .error e => some (.error e)
      | .ok vlanId =>
        (findAllLinksBetweenEdges fuel group.endStationList
          (adjacency project.usableLinks)).map fun ports =>
          let edgePorts := walk ports.1
          let tables :=
            if group.streamType = .untagged then
              addPortVlanEntries vlanId project.vlanTables edgePorts
            else project.vlanTables
          .ok { project with
            vlanTables := addVlanStaticEntries vlanId tables edgePorts (walk ports.2)
            intelligentVlanGroup := project.intelligentVlanGroup ++
              [{ group with vlanId := vlanId }] }

/-- `DeleteIntelligentVLAN` from the project that it gets to the one that it puts back. -/
def deleteIntelligentVLAN (project : VlanProject) (vlanId : UInt16) : Except String VlanProject :=
  if project.intelligentVlanGroup.any fun group => group.vlanId = vlanId then
    .ok { project with
      intelligentVlanGroup := project.intelligentVlanGroup.eraseP fun group =>
        group.vlanId = vlanId
      vlanTables := project.vlanTables.map fun _ table => table.delete vlanId }
  else .error ("Intelligent VLAN (vlan id=" ++ toString vlanId ++ ") not found")

end VlanProject

/-! ### Runs of calls -/

/-- The calls that put the project back. -/
inductive Op where
  | create (group : IntelligentVlan)
  | delete (vlanId : UInt16)

/-- `UpdateIntelligentVLAN` is a delete and a create. -/
def updateIntelligentVLAN (vlanId : UInt16) (group : IntelligentVlan) : List Op :=
  [.delete vlanId, .create group]

/-- The core keeps a list in a set: of the elements with one key it keeps one. -/
def KeptBy {α κ : Type} (key : α → κ) (sent kept : List α) : Prop :=
  (kept.map key).Nodup ∧ ∀ k, k ∈ kept.map key ↔ k ∈ sent.map key

/-- **What the core gives back of a project that was put**: `ActIntelligentVlan` and
`ActVlanStaticEntry` are kept in sets, and are equal when their VLAN ids are. -/
structure Kept (sent kept : VlanProject) : Prop where
  vlanRange : kept.vlanRange = sent.vlanRange
  groups : KeptBy (·.vlanId) sent.intelligentVlanGroup kept.intelligentVlanGroup
  tables : ∀ devId, KeptBy id (sent.vlanTables.value devId).vlanIds
    (kept.vlanTables.value devId).vlanIds

/-- What a call puts back, in some order of its loops. -/
inductive Puts (project : VlanProject) : Op → VlanProject → Prop
  | create {group : IntelligentVlan} {fuel : ℕ} {walk : PortMap → List (ℤ × List ℤ)}
      {sent : VlanProject} :
      (∀ m l, WalkOf m l → WalkOf m (walk m)) →
      project.createIntelligentVLAN fuel walk group = some (.ok sent) →
      Puts project (.create group) sent
  | delete {vlanId : UInt16} {sent : VlanProject} :
      project.deleteIntelligentVLAN vlanId = .ok sent → Puts project (.delete vlanId) sent

/-- A successful call: what it puts back, and what the core gives back after it. -/
def Step (project : VlanProject) (call : Op × VlanProject) (kept : VlanProject) : Prop :=
  Puts project call.1 call.2 ∧ Kept call.2 kept

/-- The VLAN ids of the groups are different and in the range. -/
structure IdsApart (project : VlanProject) : Prop where
  nodup : (project.intelligentVlanGroup.map (·.vlanId)).Nodup
  range : ∀ group ∈ project.intelligentVlanGroup,
    project.vlanRange.min ≤ ofUInt16 group.vlanId ∧ ofUInt16 group.vlanId ≤ project.vlanRange.max

/-- A delete removes the entry of its VLAN from every table, and no other entry. -/
def DeletesEntries (project : VlanProject) : Op × VlanProject → Prop
  | (.create _, _) => True
  | (.delete vlanId, sent) => ∀ devId id,
      id ∈ (sent.vlanTables.value devId).vlanIds ↔
        id ∈ (project.vlanTables.value devId).vlanIds ∧ id ≠ ofUInt16 vlanId

/-- **The groups stay apart** in a run: what every call puts back has different VLAN ids in the
range, and every delete removes the entries of its group and of no other. -/
def Separate (project : VlanProject) (run : List ((Op × VlanProject) × VlanProject)) : Prop :=
  Along (fun project call _ => IdsApart call.2 ∧ DeletesEntries project call) project run

/-- **No group without an entry has the id of the new group**: the one that is asked for, or the
first of the range that no table has. -/
def KeepsApart (project : VlanProject) : Op → Prop
  | .create group => ∀ other ∈ project.intelligentVlanGroup,
      project.checkVlanIdUsed other.vlanId = false →
        match group.streamType with
        | .untagged => project.findUniqueIntelligentVlanId ≠ some other.vlanId
        | _ => other.vlanId ≠ group.vlanId
  | .delete _ => True

/-- A project as the core gives it, with a VLAN range that the core accepts. -/
structure Stored (project : VlanProject) : Prop where
  min : 1 ≤ project.vlanRange.min ∧ project.vlanRange.min ≤ 4094
  max : 1 ≤ project.vlanRange.max ∧ project.vlanRange.max ≤ 4094
  groups : IdsApart project
  tables : ∀ devId, (project.vlanTables.value devId).vlanIds.Nodup

/-! ### What a call does to the ids -/

variable {project sent kept : VlanProject} {group : IntelligentVlan} {vlanId : UInt16}

theorem ofUInt16_toUInt16 {n : ℤ} (hlow : 0 ≤ n) (hhigh : n ≤ 65535) :
    ofUInt16 (toUInt16 n) = n := by
  unfold ofUInt16 toUInt16
  rw [UInt16.toNat_ofNat', Nat.mod_eq_of_lt (by omega)]
  omega

theorem toUInt16_ofUInt16 (id : UInt16) : toUInt16 (ofUInt16 id) = id := by
  unfold ofUInt16 toUInt16
  have hlt := id.toNat_lt
  rw [show ((id.toNat : ℤ) % 65536).toNat = id.toNat by omega, UInt16.ofNat_toNat]

theorem VlanProject.checkVlanIdUsed_eq_false_iff {id : UInt16} :
    project.checkVlanIdUsed id = false ↔
      ∀ devId, ∀ x ∈ (project.vlanTables.value devId).vlanIds, toUInt16 x ≠ id := by
  unfold checkVlanIdUsed
  rw [any_eq_false]
  constructor
  · intro h devId x hx heq
    cases htable : project.vlanTables[devId]? with
    | none =>
      rw [value_eq_getD, htable] at hx
      cases hx
    | some table =>
      rw [value_of_getElem? htable] at hx
      refine h table (mem_vals.2 ⟨devId, htable⟩) (any_eq_true.2 ⟨x, hx, ?_⟩)
      exact decide_eq_true heq
  · intro h table htable hany
    obtain ⟨devId, hdevId⟩ := mem_vals.1 htable
    obtain ⟨x, hx, heq⟩ := any_eq_true.1 hany
    refine h devId x ?_ (of_decide_eq_true heq)
    rwa [value_of_getElem? hdevId]

/-- **The id of a new group** is in the range, in no table, and the one that was asked for or the
first that is free. -/
theorem VlanProject.newVlanId_ok (h : project.newVlanId group = .ok vlanId)
    (hmin : 1 ≤ project.vlanRange.min ∧ project.vlanRange.min ≤ 4094)
    (hmax : 1 ≤ project.vlanRange.max ∧ project.vlanRange.max ≤ 4094) :
    (project.vlanRange.min ≤ ofUInt16 vlanId ∧ ofUInt16 vlanId ≤ project.vlanRange.max) ∧
      project.checkVlanIdUsed vlanId = false ∧
      match group.streamType with
      | .untagged => project.findUniqueIntelligentVlanId = some vlanId
      | _ => group.vlanId = vlanId := by
  have hlow := ofUInt16_toUInt16 (n := project.vlanRange.min) (by omega) (by omega)
  have hhigh := ofUInt16_toUInt16 (n := project.vlanRange.max) (by omega) (by omega)
  unfold ofUInt16 at hlow hhigh
  unfold newVlanId at h
  cases htype : group.streamType with
  | unknown =>
    rw [htype] at h
    cases h
  | tagged =>
    simp only [htype] at h
    split_ifs at h with hrange hused
    cases h
    rw [not_or, gt_iff_lt, UInt16.lt_iff_toNat_lt, UInt16.lt_iff_toNat_lt] at hrange
    refine ⟨?_, by simpa using hused, rfl⟩
    unfold ofUInt16
    omega
  | untagged =>
    simp only [htype] at h
    cases hfind : project.findUniqueIntelligentVlanId with
    | none =>
      rw [hfind] at h
      cases h
    | some id =>
      rw [hfind] at h
      cases h
      have hfind' := hfind
      unfold findUniqueIntelligentVlanId at hfind'
      have hfree := find?_some hfind'
      obtain ⟨n, hn, rfl⟩ := mem_map.1 (mem_of_find?_eq_some hfind')
      rw [mem_range'_1] at hn
      refine ⟨?_, by simpa using hfree, rfl⟩
      have hsmall : n < 65536 := by omega
      unfold ofUInt16
      rw [UInt16.toNat_ofNat', Nat.mod_eq_of_lt hsmall]
      omega

/-- What a successful `CreateIntelligentVLAN` puts back. -/
theorem VlanProject.createIntelligentVLAN_ok {fuel : ℕ} {walk : PortMap → List (ℤ × List ℤ)}
    (h : project.createIntelligentVLAN fuel walk group = some (.ok sent)) :
    ∃ vlanId, project.newVlanId group = .ok vlanId ∧ sent.vlanRange = project.vlanRange ∧
      sent.intelligentVlanGroup =
        project.intelligentVlanGroup ++ [{ group with vlanId := vlanId }] := by
  unfold createIntelligentVLAN at h
  split at h
  · cases h
  split at h
  · cases h
  split at h
  · cases h
  · rename_i vlanId hnew
    obtain ⟨ports, -, hsent⟩ := Option.map_eq_some_iff.1 h
    cases hsent
    exact ⟨vlanId, hnew, rfl, rfl⟩

theorem VlanTable.vlanIds_delete (table : VlanTable) (vlanId : UInt16) :
    (table.delete vlanId).vlanIds = table.vlanIds.erase (ofUInt16 vlanId) := by
  unfold vlanIds delete
  rw [erase_eq_eraseP, eraseP_map]
  refine congrArg (fun p => (table.vlanStaticEntries.eraseP p).map (·.vlanId)) ?_
  funext entry
  exact decide_eq_decide.2 eq_comm

theorem VlanProject.mem_vlanIds_delete {devId id : ℤ}
    (h : project.deleteIntelligentVLAN vlanId = .ok sent)
    (hnodup : (project.vlanTables.value devId).vlanIds.Nodup) :
    id ∈ (sent.vlanTables.value devId).vlanIds ↔
      id ∈ (project.vlanTables.value devId).vlanIds ∧ id ≠ ofUInt16 vlanId := by
  unfold deleteIntelligentVLAN at h
  split_ifs at h
  cases h
  have hids : (value (project.vlanTables.map fun _ (table : VlanTable) =>
      table.delete vlanId) devId).vlanIds =
      (project.vlanTables.value devId).vlanIds.erase (ofUInt16 vlanId) := by
    rw [← VlanTable.vlanIds_delete, value_eq_getD, value_eq_getD,
      Std.TreeMap.getElem?_map]
    cases project.vlanTables[devId]? <;> rfl
  refine (iff_of_eq (congrArg (id ∈ ·) hids)).trans ?_
  rw [hnodup.mem_erase_iff]
  exact and_comm

theorem VlanProject.deleteIntelligentVLAN_ok (h : project.deleteIntelligentVLAN vlanId = .ok sent) :
    sent.vlanRange = project.vlanRange ∧
      sent.intelligentVlanGroup.Sublist project.intelligentVlanGroup := by
  unfold deleteIntelligentVLAN at h
  split_ifs at h
  cases h
  exact ⟨rfl, eraseP_sublist⟩

/-- What every call puts back has its ids in the range. -/
theorem Stored.range_of_puts (h : Stored project) {op : Op} (hputs : Puts project op sent) :
    sent.vlanRange = project.vlanRange ∧ ∀ group ∈ sent.intelligentVlanGroup,
      sent.vlanRange.min ≤ ofUInt16 group.vlanId ∧ ofUInt16 group.vlanId ≤ sent.vlanRange.max := by
  cases hputs with
  | create _ hcreate =>
    obtain ⟨vlanId, hnew, hrange, hgroups⟩ := VlanProject.createIntelligentVLAN_ok hcreate
    refine ⟨hrange, fun other hother => ?_⟩
    rw [hgroups] at hother
    rw [hrange]
    rcases mem_append.1 hother with hother | hother
    · exact h.groups.range other hother
    · rw [mem_singleton.1 hother]
      exact (VlanProject.newVlanId_ok hnew h.min h.max).1
  | delete hdel =>
    obtain ⟨hrange, hsublist⟩ := VlanProject.deleteIntelligentVLAN_ok hdel
    refine ⟨hrange, fun other hother => ?_⟩
    rw [hrange]
    exact h.groups.range other (hsublist.subset hother)

/-- **Every successful call leaves a stored project.** -/
theorem Stored.step (h : Stored project) {call : Op × VlanProject}
    (hstep : Step project call kept) : Stored kept := by
  obtain ⟨hputs, hkept⟩ := hstep
  obtain ⟨hrange, hgroups⟩ := h.range_of_puts hputs
  refine ⟨?_, ?_, ⟨hkept.groups.1, fun group hgroup => ?_⟩, fun devId => ?_⟩
  · rw [hkept.vlanRange, hrange]
    exact h.min
  · rw [hkept.vlanRange, hrange]
    exact h.max
  · obtain ⟨other, hother, hid⟩ := mem_map.1
      ((hkept.groups.2 group.vlanId).1 (mem_map.2 ⟨group, hgroup, rfl⟩))
    have hin := hgroups other hother
    rw [hkept.vlanRange, ← hid]
    exact hin
  · have hnodup := (hkept.tables devId).1
    rwa [map_id] at hnodup

/-- **One call**: the groups stay apart exactly when no group without an entry has the id of the
new group. -/
theorem Stored.separate_step (h : Stored project) {op : Op} (hputs : Puts project op sent) :
    IdsApart sent ∧ DeletesEntries project (op, sent) ↔ KeepsApart project op := by
  have hrange := (h.range_of_puts hputs).2
  cases hputs with
  | @create group fuel walk _ _ hcreate =>
    obtain ⟨vlanId, hnew, -, hgroups⟩ := VlanProject.createIntelligentVLAN_ok hcreate
    obtain ⟨-, hfree, hid⟩ := VlanProject.newVlanId_ok hnew h.min h.max
    have hnodup : (sent.intelligentVlanGroup.map (·.vlanId)).Nodup ↔
        ∀ other ∈ project.intelligentVlanGroup, other.vlanId ≠ vlanId := by
      rw [hgroups, map_append, map_singleton, nodup_append]
      constructor
      · rintro ⟨-, -, hdisjoint⟩ other hother
        exact hdisjoint _ (mem_map.2 ⟨other, hother, rfl⟩) _ (mem_singleton.2 rfl)
      · refine fun hne => ⟨h.groups.nodup, nodup_singleton _, fun id hmem id' hmem' => ?_⟩
        obtain ⟨other, hother, rfl⟩ := mem_map.1 hmem
        rw [mem_singleton.1 hmem']
        exact hne other hother
    have hkeeps : KeepsApart project (.create group) ↔
        ∀ other ∈ project.intelligentVlanGroup, other.vlanId ≠ vlanId := by
      refine forall₂_congr fun other _ => ?_
      cases hused : project.checkVlanIdUsed other.vlanId with
      | true =>
        refine iff_of_true nofun fun e => ?_
        rw [e, hfree] at hused
        cases hused
      | false =>
        refine (forall_prop_of_true rfl).trans ?_
        cases htype : group.streamType <;> simp only [htype] at hid ⊢
        · rw [hid]
        · rw [hid]
        · rw [hid, ne_eq, Option.some.injEq, ne_comm]
    rw [hkeeps, ← hnodup]
    exact ⟨fun hapart => hapart.1.nodup, fun hapart => ⟨⟨hapart, hrange⟩, trivial⟩⟩
  | @delete vlanId _ hdel =>
    obtain ⟨-, hsublist⟩ := VlanProject.deleteIntelligentVLAN_ok hdel
    refine iff_of_true ⟨⟨(hsublist.map _).nodup h.groups.nodup, hrange⟩, fun devId id => ?_⟩ trivial
    exact VlanProject.mem_vlanIds_delete hdel (h.tables devId)

/-! ### Runs of calls that keep the groups apart -/

/-- **When the VLAN ids of the groups are different.**  In a run of successful calls every project
that is put back has different ids in the range, and every delete removes the entries of its own
group, exactly when no group without an entry ever has the id that a new group gets. -/
theorem separate_iff (project : VlanProject) (h : Stored project)
    (run : List ((Op × VlanProject) × VlanProject)) (hrun : Along Step project run) :
    Separate project run ↔ Along (fun project call _ => KeepsApart project call.1) project run := by
  have hstored : ∀ state ∈ statesOfRun project run, Stored state :=
    hrun.rule h fun _ _ _ hstep hstored => hstored.step hstep
  refine hrun.congr_states hstored ?_
  rintro state ⟨op, sent⟩ kept hstate ⟨hputs, -⟩
  exact hstate.separate_step hputs

/-! ### Two groups without a connection -/

/-- Two end stations without a link. -/
def unconnected : VlanProject where
  devices := [{ id := 1 }, { id := 2, ipAddress := "2" }]
  vlanRange := { min := 2, max := 4094 }

/-- The project with one, and with two groups of these stations. -/
def oneGroup : VlanProject :=
  { unconnected with
    intelligentVlanGroup := [{ vlanId := 2, streamType := .untagged, endStationList := [1, 2] }] }

def twoGroups : VlanProject :=
  { unconnected with
    intelligentVlanGroup := [{ vlanId := 2, streamType := .untagged, endStationList := [1, 2] },
      { vlanId := 2, streamType := .untagged, endStationList := [1, 2] }] }

theorem stored_unconnected : Stored unconnected where
  min := ⟨by decide, by decide⟩
  max := ⟨by decide, by decide⟩
  groups := ⟨nodup_nil, nofun⟩
  tables devId := by
    rw [unconnected, value_empty]
    exact nodup_nil

theorem WalkOf.eq_nil {walk : List (ℤ × List ℤ)} (h : WalkOf .empty walk) : walk = [] := by
  cases walk with
  | nil => rfl
  | cons x walk => exact absurd ((h.mem x.1).1 (by simp)) (by simp [GoMap.empty])

theorem exists_walk : ∃ walk : PortMap → List (ℤ × List ℤ),
    ∀ m l, WalkOf m l → WalkOf m (walk m) := by
  classical
  refine ⟨fun m => if h : ∃ l, WalkOf m l then h.choose else [], fun m l hl => ?_⟩
  have h : ∃ l, WalkOf m l := ⟨l, hl⟩
  simp only [dif_pos h]
  exact h.choose_spec

theorem walkOf_empty : WalkOf .empty [] := ⟨nodup_nil, by simp [GoMap.empty], nofun⟩

/-- Without links a new group is written to no table. -/
theorem VlanProject.createIntelligentVLAN_of_links {walk : PortMap → List (ℤ × List ℤ)}
    (hwalk : walk .empty = []) (hlinks : project.links = [])
    (hlen : ¬group.endStationList.length < 2)
    (hdevs : (group.endStationList.find? fun edgeId =>
      !project.devices.any fun device => device.id = edgeId) = none)
    (hnew : project.newVlanId group = .ok vlanId) :
    project.createIntelligentVLAN 1 walk group = some (.ok { project with
      intelligentVlanGroup := project.intelligentVlanGroup ++
        [{ group with vlanId := vlanId }] }) := by
  have husable : project.usableLinks = [] := by
    unfold usableLinks
    rw [hlinks, filter_nil]
  have hsearch : findAllLinksBetweenEdges 1 group.endStationList (adjacency []) =
      some (.empty, .empty) := by
    have hqueue : (startSearch group.endStationList (adjacency [])).queue = [] := by
      simp [startSearch, adjacency]
    unfold findAllLinksBetweenEdges Loop.run searchRound
    rw [hqueue]
    rfl
  unfold createIntelligentVLAN
  rw [if_neg hlen, hdevs, hnew, husable, hsearch]
  simp only [Option.map_some, hwalk, addPortVlanEntries, addVlanStaticEntries, foldl_nil,
    ite_self]

theorem puts_oneGroup : Puts unconnected
    (.create { streamType := .untagged, endStationList := [1, 2] }) oneGroup := by
  obtain ⟨walk, hwalk⟩ := exists_walk
  have hnil : walk .empty = [] := (hwalk _ _ walkOf_empty).eq_nil
  exact .create hwalk (VlanProject.createIntelligentVLAN_of_links hnil rfl (by decide) rfl rfl)

theorem puts_twoGroups : Puts oneGroup
    (.create { streamType := .untagged, endStationList := [1, 2] }) twoGroups := by
  obtain ⟨walk, hwalk⟩ := exists_walk
  have hnil : walk .empty = [] := (hwalk _ _ walkOf_empty).eq_nil
  exact .create hwalk (VlanProject.createIntelligentVLAN_of_links hnil rfl (by decide) rfl rfl)

/-- The core gives back one group, also when it gets two with the same id. -/
theorem kept_oneGroup : Kept oneGroup oneGroup ∧ Kept twoGroups oneGroup := by
  have htables : ∀ devId, KeptBy id (oneGroup.vlanTables.value devId).vlanIds
      (oneGroup.vlanTables.value devId).vlanIds := by
    intro devId
    rw [oneGroup, unconnected, value_empty]
    exact ⟨nodup_nil, fun _ => .rfl⟩
  refine ⟨⟨rfl, ⟨nodup_singleton _, fun _ => .rfl⟩, htables⟩,
    ⟨rfl, ⟨nodup_singleton _, fun id => ?_⟩, htables⟩⟩
  simp [oneGroup, twoGroups]

/-- The first group is created, and then the second one. -/
def createTwice : List ((Op × VlanProject) × VlanProject) :=
  [((.create { streamType := .untagged, endStationList := [1, 2] }, oneGroup), oneGroup),
    ((.create { streamType := .untagged, endStationList := [1, 2] }, twoGroups), oneGroup)]

theorem along_createTwice : Along Step unconnected createTwice :=
  ⟨⟨puts_oneGroup, kept_oneGroup.1⟩, ⟨puts_twoGroups, kept_oneGroup.2⟩, trivial⟩

theorem separate_iff_createTwice : (Stored unconnected ∧ Along Step unconnected createTwice) ∧
    (Separate unconnected createTwice ↔
      Along (fun project call _ => KeepsApart project call.1) unconnected createTwice) :=
  ⟨⟨stored_unconnected, along_createTwice⟩,
    separate_iff unconnected stored_unconnected createTwice along_createTwice⟩

/-- The second group gets the id of the first. -/
theorem not_separate : ∃ project run, Stored project ∧ Along Step project run ∧
    ¬Separate project run := by
  refine ⟨unconnected, createTwice, stored_unconnected, along_createTwice, fun hseparate => ?_⟩
  exact absurd hseparate.2.1.1.nodup (by decide)

end Intelligent
end Sebastian

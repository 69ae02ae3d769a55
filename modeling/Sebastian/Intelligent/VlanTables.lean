/-
# What the VLAN groups leave in the tables

`CreateIntelligentVLAN` appends an entry for each port on the paths of a group,
also for a port that has one, and `DeleteIntelligentVLAN` takes away the entry of
the VLAN alone.  `extended_create` is what a create puts into a table.  From it
`vlanTables_iff` says of every run when a table has at most one entry of each
kind for a port, when the ports to the end stations are in the VLAN of the group,
and when a delete right after a create gives the tables back.

The core reads a table into sets (`TableKept`): of the entries of one port it
keeps the first.
-/

import Sebastian.Intelligent.IntelligentVlan
import Sebastian.Intelligent.TreePorts
import Mathlib.Data.Set.Finite.Basic

namespace Sebastian
namespace Intelligent

open List QMap

/-! ### The core's sets -/

/-- What a set keeps of a list that is inserted from the front, in whatever order it gives it back:
`QSet::insert` leaves an element that is equal to the new one. -/
structure FirstsOf {α κ : Type} [DecidableEq κ] (key : α → κ) (sent kept : List α) : Prop where
  nodup : (kept.map key).Nodup
  mem : ∀ x, x ∈ kept ↔ sent.find? (fun y => key y = key x) = some x

/-- `for (x : list) set.insert(x)` -/
def firsts {α κ : Type} [DecidableEq κ] (key : α → κ) (sent : List α) : List α :=
  sent.foldl (fun kept x => if kept.any (fun y => key y = key x) then kept else kept ++ [x]) []

/-- What the core gives back of a table. -/
structure TableKept (sent kept : VlanTable) : Prop where
  managementVlan : kept.managementVlan = sent.managementVlan
  pvids : FirstsOf (·.portId) sent.portVlanEntries kept.portVlanEntries
  types : FirstsOf (·.portId) sent.vlanPortTypeEntries kept.vlanPortTypeEntries
  statics : FirstsOf (·.vlanId) sent.vlanStaticEntries kept.vlanStaticEntries

/-- A successful call: what it puts back, and what the core gives back after it. -/
def TableStep (project : VlanProject) (call : Op × VlanProject) (kept : VlanProject) : Prop :=
  Step project call kept ∧
    ∀ devId, TableKept (call.2.vlanTables.value devId) (kept.vlanTables.value devId)

/-! ### The three laws -/

/-- **At most one entry of each kind** for a port. -/
structure VlanTable.Functional (table : VlanTable) : Prop where
  pvids : (table.portVlanEntries.map (·.portId)).Nodup
  types : (table.vlanPortTypeEntries.map (·.portId)).Nodup

/-- Every table of the project. -/
def FunctionalTables (project : VlanProject) : Prop :=
  ∀ devId, (project.vlanTables.value devId).Functional

/-- A port to an end station on the paths of the group. -/
def EdgePort (project : VlanProject) (group : IntelligentVlan) (devId port : ℤ) : Prop :=
  ∃ fuel ports, findAllLinksBetweenEdges fuel group.endStationList
    (adjacency project.usableLinks) = some ports ∧ ports.1.Has devId port

/-- A port on the paths of the group. -/
def ThroughPort (project : VlanProject) (group : IntelligentVlan) (devId port : ℤ) : Prop :=
  ∃ fuel ports, findAllLinksBetweenEdges fuel group.endStationList
    (adjacency project.usableLinks) = some ports ∧ ports.2.Has devId port

/-- The only PVID of the port is that of the VLAN. -/
def VlanTable.PvidIs (table : VlanTable) (port : ℤ) (vlanId : UInt16) : Prop :=
  (∃ entry ∈ table.portVlanEntries, entry.portId = port) ∧
    ∀ entry ∈ table.portVlanEntries, entry.portId = port → entry.pvid = ofUInt16 vlanId

/-- **After an untagged create** the PVID of every port to an end station is the VLAN of the group,
in what is put and in what the core keeps. -/
def PvidsSet (project : VlanProject) (call : Op × VlanProject) (kept : VlanProject) : Prop :=
  match call.1 with
  | .delete _ => True
  | .create group => group.streamType = .untagged →
      ∀ vlanId, project.newVlanId group = .ok vlanId → ∀ devId port,
        EdgePort project group devId port →
          (call.2.vlanTables.value devId).PvidIs port vlanId ∧
            (kept.vlanTables.value devId).PvidIs port vlanId

/-- Two tables with the same entries. -/
structure VlanTable.SameEntries (table other : VlanTable) : Prop where
  managementVlan : table.managementVlan = other.managementVlan
  pvids : ∀ entry, entry ∈ table.portVlanEntries ↔ entry ∈ other.portVlanEntries
  types : ∀ entry, entry ∈ table.vlanPortTypeEntries ↔ entry ∈ other.vlanPortTypeEntries
  statics : ∀ entry, entry ∈ table.vlanStaticEntries ↔ entry ∈ other.vlanStaticEntries

/-- **A delete right after the create** succeeds, and puts tables with the entries that they had
before the two calls. -/
def DeleteRestores (project : VlanProject) (call : Op × VlanProject) (kept : VlanProject) : Prop :=
  match call.1 with
  | .delete _ => True
  | .create group => ∀ vlanId, project.newVlanId group = .ok vlanId →
      ∃ sent, kept.deleteIntelligentVLAN vlanId = .ok sent ∧ ∀ devId,
        (sent.vlanTables.value devId).SameEntries (project.vlanTables.value devId)

/-! ### Their conditions -/

/-- **No port of the paths has an entry**: no port to an end station a PVID (where the create gives
it one), and no port a type. -/
def PortsUnset (project : VlanProject) : Op → Prop
  | .delete _ => True
  | .create group => ∀ devId,
      (group.streamType = .untagged → ∀ port, EdgePort project group devId port →
        ∀ entry ∈ (project.vlanTables.value devId).portVlanEntries, entry.portId ≠ port) ∧
      ∀ port, ThroughPort project group devId port →
        ∀ entry ∈ (project.vlanTables.value devId).vlanPortTypeEntries, entry.portId ≠ port

/-- **No port to an end station has another PVID** than the VLAN of the group. -/
def NoOtherPvid (project : VlanProject) : Op → Prop
  | .delete _ => True
  | .create group => group.streamType = .untagged →
      ∀ vlanId, project.newVlanId group = .ok vlanId → ∀ devId port,
        EdgePort project group devId port →
          ∀ entry ∈ (project.vlanTables.value devId).portVlanEntries,
            entry.portId = port → entry.pvid = ofUInt16 vlanId

/-- **Every port of the paths has its entry**, and no port the VLAN of the group, unless it is the
management VLAN. -/
def PortsSet (project : VlanProject) : Op → Prop
  | .delete _ => True
  | .create group => ∀ vlanId, project.newVlanId group = .ok vlanId → ∀ devId,
      (group.streamType = .untagged → ∀ port, EdgePort project group devId port →
        ∃ entry ∈ (project.vlanTables.value devId).portVlanEntries, entry.portId = port) ∧
      (∀ port, ThroughPort project group devId port →
        ∃ entry ∈ (project.vlanTables.value devId).vlanPortTypeEntries, entry.portId = port) ∧
      ∀ entry ∈ (project.vlanTables.value devId).portVlanEntries,
        entry.pvid = ofUInt16 vlanId →
          (project.vlanTables.value devId).managementVlan = ofUInt16 vlanId

/-! ### What a set keeps -/

section
variable {α κ : Type} [DecidableEq κ] {key : α → κ} {sent kept old new : List α} {x : α}

/-- Where the keys are different, every element is the first of its key. -/
theorem find?_key_iff (h : (sent.map key).Nodup) :
    sent.find? (fun y => key y = key x) = some x ↔ x ∈ sent := by
  refine ⟨mem_of_find?_eq_some, fun hx => ?_⟩
  cases hfind : sent.find? fun y => key y = key x with
  | none => exact absurd (decide_eq_true rfl) (find?_eq_none.1 hfind x hx)
  | some y =>
    have hkey := of_decide_eq_true (find?_eq_some_iff_append.1 hfind).1
    rw [inj_on_of_nodup_map h (mem_of_find?_eq_some hfind) hx hkey]

/-- **Of what is appended** a set keeps the elements whose keys are new. -/
theorem FirstsOf.mem_append_iff (h : FirstsOf key (old ++ new) kept) (hold : (old.map key).Nodup)
    (hnew : (new.map key).Nodup) : x ∈ kept ↔ x ∈ old ∨ x ∈ new ∧ ∀ y ∈ old, key y ≠ key x := by
  rw [h.mem, find?_append]
  cases hfind : old.find? fun y => key y = key x with
  | some y =>
    have hkey := of_decide_eq_true (find?_eq_some_iff_append.1 hfind).1
    have hy := mem_of_find?_eq_some hfind
    rw [or_iff_left fun hall => hall.2 y hy hkey, ← find?_key_iff hold, hfind]
    rfl
  | none =>
    have hfree : ∀ y ∈ old, key y ≠ key x :=
      fun y hy heq => absurd (decide_eq_true heq) (find?_eq_none.1 hfind y hy)
    rw [or_iff_right fun hx => hfree x hx rfl, and_iff_left hfree, ← find?_key_iff hnew]
    rfl

theorem FirstsOf.exists_key (h : FirstsOf key sent kept) (hx : x ∈ sent) :
    ∃ y ∈ kept, key y = key x := by
  cases hfind : sent.find? fun y => key y = key x with
  | none => exact absurd (decide_eq_true rfl) (find?_eq_none.1 hfind x hx)
  | some y =>
    have hkey := of_decide_eq_true (find?_eq_some_iff_append.1 hfind).1
    exact ⟨y, (h.mem y).2 (hkey ▸ hfind), hkey⟩

theorem FirstsOf.subset (h : FirstsOf key sent kept) : kept ⊆ sent :=
  fun x hx => mem_of_find?_eq_some ((h.mem x).1 hx)

theorem FirstsOf.keptBy (h : FirstsOf key sent kept) : KeptBy key sent kept := by
  refine ⟨h.nodup, fun k => ⟨fun hk => map_subset key h.subset hk, fun hk => ?_⟩⟩
  obtain ⟨x, hx, rfl⟩ := mem_map.1 hk
  obtain ⟨y, hy, hkey⟩ := h.exists_key hx
  exact mem_map.2 ⟨y, hy, hkey⟩

/-- **Inserting from the front keeps the first of each key.** -/
theorem firstsOf_firsts (key : α → κ) (sent : List α) : FirstsOf key sent (firsts key sent) := by
  induction sent using reverseRecOn with
  | nil => exact ⟨nodup_nil, fun _ => iff_of_false not_mem_nil nofun⟩
  | append_singleton sent a ih =>
    unfold firsts at ih ⊢
    rw [foldl_append, foldl_cons, foldl_nil]
    split_ifs with hany
    · -- the key of the new element is there
      obtain ⟨y, hy, hkey⟩ := any_eq_true.1 hany
      refine ⟨ih.nodup, fun x => ?_⟩
      rw [ih.mem, find?_append]
      cases hfind : sent.find? fun y => key y = key x with
      | some z => rfl
      | none =>
        refine iff_of_false nofun fun ha => ?_
        rw [Option.none_or] at ha
        obtain rfl := mem_singleton.1 (mem_of_find?_eq_some ha)
        exact find?_eq_none.1 hfind y (ih.subset hy) hkey
    · have hfree : ∀ y ∈ sent, key y ≠ key a := by
        intro y hy heq
        obtain ⟨z, hz, hkey⟩ := ih.exists_key hy
        exact hany (any_eq_true.2 ⟨z, hz, decide_eq_true (hkey.trans heq)⟩)
      refine ⟨?_, fun x => ?_⟩
      · rw [map_append, nodup_append]
        refine ⟨ih.nodup, nodup_singleton _, fun k hk k' hk' heq => ?_⟩
        obtain ⟨y, hy, rfl⟩ := mem_map.1 hk
        exact hfree y (ih.subset hy) (heq.trans (mem_singleton.1 hk'))
      · rw [mem_append, ih.mem, find?_append, mem_singleton]
        cases hfind : sent.find? fun y => key y = key x with
        | some z =>
          refine or_iff_left fun hx => ?_
          have hzx := of_decide_eq_true (find?_eq_some_iff_append.1 hfind).1
          exact hfree z (mem_of_find?_eq_some hfind) (hx ▸ hzx)
        | none =>
          rw [or_iff_right nofun, Option.none_or, find?_cons]
          by_cases hax : key a = key x
          · simp only [hax, decide_true, Option.some.injEq, eq_comm]
          · simp only [hax, decide_false, find?_nil]
            exact iff_of_false (fun hx => hax (congrArg key hx.symm)) nofun

end

/-! ### The loops over the port maps -/

/-- A map with finitely many devices and ports. -/
structure PortMap.Finite (m : PortMap) : Prop where
  devices : {devId | (m devId).isSome}.Finite
  ports : ∀ devId ports, m devId = some ports → {port | (ports port).isSome}.Finite

theorem PortMap.finite_empty : PortMap.Finite .empty :=
  ⟨by simp, nofun⟩

theorem finite_set {κ α : Type} [DecidableEq κ] {m : GoMap κ α} (h : {k | (m k).isSome}.Finite)
    (k : κ) (a : α) : {k' | (m.set k a k').isSome}.Finite := by
  refine (h.insert k).subset fun k' hk' => ?_
  by_cases heq : k' = k
  · exact .inl heq
  · refine .inr ?_
    simpa [GoMap.set_apply, heq] using hk'

theorem PortMap.Finite.insertPortMap {m : PortMap} (h : m.Finite) (devId port linkId : ℤ) :
    PortMap.Finite (insertPortMap m devId port linkId) := by
  refine ⟨finite_set h.devices _ _, fun devId' ports hports => ?_⟩
  unfold Intelligent.insertPortMap at hports
  rw [GoMap.set_apply] at hports
  split_ifs at hports with heq
  · cases hports
    refine finite_set ?_ _ _
    cases hm : m devId with
    | none => simp
    | some ports => exact h.ports devId ports hm
  · exact h.ports devId' ports hports

/-- The two maps of the search are finite. -/
def PathSearch.FinitePorts (search : PathSearch) : Prop :=
  search.edgePort.Finite ∧ search.throughPort.Finite

theorem PathSearch.FinitePorts.recordPath {search : PathSearch} (h : search.FinitePorts)
    (curPath : List EgressPort) : (recordPath curPath search).FinitePorts := by
  cases curPath with
  | nil => exact h
  | cons first rest =>
    refine ⟨h.1.insertPortMap _ _ _, ?_⟩
    exact Loop.foldl_rule (I := fun _ m => PortMap.Finite m) (h.2.insertPortMap _ _ _)
      fun _ port _ _ hm => (hm.insertPortMap _ _ _).insertPortMap _ _ _

/-- **The search finds finitely many ports.** -/
theorem finite_of_run {fuel : ℕ} {edgeSet : List ℤ} {topology : ℤ → List Link}
    {ports : PortMap × PortMap} (h : findAllLinksBetweenEdges fuel edgeSet topology = some ports) :
    ports.1.Finite ∧ ports.2.Finite := by
  obtain ⟨search, hvis, hdone⟩ := Loop.exists_of_run h
  have hfinite : search.FinitePorts := by
    refine hvis.rule ⟨PortMap.finite_empty, PortMap.finite_empty⟩ fun search next _ hI hround =>
      ?_
    unfold searchRound at hround
    cases hq : search.queue with
    | nil =>
      rw [hq] at hround
      cases hround
    | cons curPath queue =>
      rw [hq] at hround
      have hrest : PathSearch.FinitePorts { search with queue := queue } := hI
      cases hlast : curPath.getLast? with
      | none =>
        simp only [hlast] at hround
        cases hround
      | some curPort =>
        simp only [hlast] at hround
        split_ifs at hround
        · obtain rfl := Iter.next.inj hround
          exact hrest.recordPath _
        · obtain rfl := Iter.next.inj hround
          exact hI
  unfold searchRound at hdone
  split at hdone
  · obtain rfl := Iter.done.inj hdone
    exact hfinite
  split at hdone
  · cases hdone
  dsimp only at hdone
  split_ifs at hdone

theorem PortMap.Finite.exists_walkOf {m : PortMap} (h : m.Finite) : ∃ walk, WalkOf m walk := by
  have hports : ∀ devId, ∃ ports : List ℤ, ports.Nodup ∧
      ∀ portSet, m devId = some portSet → ∀ port, port ∈ ports ↔ (portSet port).isSome := by
    intro devId
    cases hm : m devId with
    | none => exact ⟨[], nodup_nil, nofun⟩
    | some portSet =>
      refine ⟨(h.ports devId portSet hm).toFinset.toList, Finset.nodup_toList _, ?_⟩
      rintro _ ⟨⟩ port
      simp
  choose ports hnodup hmem using hports
  refine ⟨h.devices.toFinset.toList.map fun devId => (devId, ports devId), ?_, fun devId => ?_, ?_⟩
  · rw [map_map]
    exact (map_id _).symm ▸ Finset.nodup_toList _
  · simp
  · intro devId l hl
    obtain ⟨_, -, heq⟩ := mem_map.1 hl
    obtain ⟨rfl, rfl⟩ := Prod.mk.inj heq
    exact ⟨hnodup _, hmem _⟩

/-- The ports of a device in an order of the loops. -/
def portsOf (walk : List (ℤ × List ℤ)) (devId : ℤ) : List ℤ := (walk.lookup devId).getD []

theorem WalkOf.portsOf {m : PortMap} {walk : List (ℤ × List ℤ)} (h : WalkOf m walk) (devId : ℤ) :
    (portsOf walk devId).Nodup ∧ ∀ port, port ∈ portsOf walk devId ↔ m.Has devId port := by
  unfold Intelligent.portsOf PortMap.Has
  cases hget : walk.lookup devId with
  | none =>
    refine ⟨nodup_nil, fun port => iff_of_false not_mem_nil ?_⟩
    rintro ⟨ports, linkId, hports, -⟩
    obtain ⟨x, hx, rfl⟩ := mem_map.1 ((h.mem devId).2 (by rw [hports]; rfl))
    exact absurd (lookup_eq_none_iff.1 hget x hx) (by simp)
  | some ports =>
    obtain ⟨before, after, hwalk, -⟩ := lookup_eq_some_iff.1 hget
    have hmem : (devId, ports) ∈ walk := by
      rw [hwalk]
      exact mem_append_right _ mem_cons_self
    obtain ⟨hnodup, hports⟩ := h.ports devId ports hmem
    obtain ⟨portSet, hset⟩ := Option.isSome_iff_exists.1
      ((h.mem devId).1 (mem_map.2 ⟨_, hmem, rfl⟩))
    refine ⟨hnodup, fun port => (hports portSet hset port).trans ?_⟩
    rw [hset, Option.isSome_iff_exists]
    exact ⟨fun ⟨linkId, hlink⟩ => ⟨portSet, linkId, rfl, hlink⟩,
      fun ⟨_, linkId, heq, hlink⟩ => ⟨linkId, Option.some.inj heq ▸ hlink⟩⟩

/-! ### What a create puts into a table -/

/-- Of a loop that changes one value after another, each under its own key, the last word is that
of the round of the key. -/
theorem value_foldl_update {κ α β : Type} [Ord κ] [Std.TransOrd κ] [Std.LawfulEqOrd κ]
    [DecidableEq κ] [Inhabited α] {l : List (κ × β)} (h : (l.map (·.1)).Nodup)
    (f : κ × β → α → α) (m : QMap κ α) (k : κ) :
    value (l.foldl (fun m x => m.update x.1 (f x)) m) k =
      ((l.lookup k).map fun b => f (k, b) (m.value k)).getD (m.value k) := by
  induction l generalizing m with
  | nil => rfl
  | cons x l ih =>
    obtain ⟨k', b⟩ := x
    rw [map_cons, nodup_cons] at h
    rw [foldl_cons, ih h.2, value_update, lookup_cons]
    by_cases heq : k = k'
    · subst heq
      have hnone : l.lookup k = none := by
        rw [lookup_eq_none_iff]
        intro y hy
        simpa using fun heq : k = y.1 => h.1 (mem_map.2 ⟨y, hy, heq.symm⟩)
      simp [hnone]
    · have hne : (k == k') = false := by simpa using heq
      rw [if_neg fun h => heq h.symm, hne]

variable {project sent kept : VlanProject} {group : IntelligentVlan} {vlanId : UInt16}

/-- **What a create puts into a table**, with the ports of the paths at the device. -/
structure Extended (group : IntelligentVlan) (vlanId : UInt16) (edge through : List ℤ)
    (table sent : VlanTable) : Prop where
  managementVlan : sent.managementVlan = table.managementVlan
  pvids : sent.portVlanEntries = table.portVlanEntries ++
    if group.streamType = .untagged then
      edge.map fun port => { portId := port, pvid := ofUInt16 vlanId } else []
  types : sent.vlanPortTypeEntries = table.vlanPortTypeEntries ++
    through.map fun port => { portId := port, vlanPortType := "Access" }
  statics : ∃ entries, sent.vlanStaticEntries = table.vlanStaticEntries ++ entries ∧
    (entries.map (·.vlanId)).Nodup ∧ ∀ entry ∈ entries, entry.vlanId = ofUInt16 vlanId

/-- **Every table after a create.** -/
theorem VlanProject.extended_create {fuel : ℕ} {walk : PortMap → List (ℤ × List ℤ)}
    (hwalk : ∀ m l, WalkOf m l → WalkOf m (walk m))
    (h : project.createIntelligentVLAN fuel walk group = some (.ok sent)) :
    ∃ vlanId, project.newVlanId group = .ok vlanId ∧ ∃ edge through : ℤ → List ℤ,
      (∀ devId, (edge devId).Nodup ∧
        ∀ port, port ∈ edge devId ↔ EdgePort project group devId port) ∧
      (∀ devId, (through devId).Nodup ∧
        ∀ port, port ∈ through devId ↔ ThroughPort project group devId port) ∧
      ∀ devId, Extended group vlanId (edge devId) (through devId)
        (project.vlanTables.value devId) (sent.vlanTables.value devId) := by
  unfold createIntelligentVLAN at h
  split at h
  · cases h
  split at h
  · cases h
  split at h
  · cases h
  rename_i vlanId hnew
  obtain ⟨ports, hports, hsent⟩ := Option.map_eq_some_iff.1 h
  cases hsent
  obtain ⟨hedge, hthrough⟩ := finite_of_run hports
  have hwalkEdge := hwalk _ _ hedge.exists_walkOf.choose_spec
  have hwalkThrough := hwalk _ _ hthrough.exists_walkOf.choose_spec
  have hunique : ∀ fuel' ports', findAllLinksBetweenEdges fuel' group.endStationList
      (adjacency project.usableLinks) = some ports' → ports' = ports := by
    intro fuel' ports' h'
    have hmax := Loop.run_mono hports (Nat.le_max_left fuel fuel')
    exact Option.some.inj ((Loop.run_mono h' (Nat.le_max_right fuel fuel')).symm.trans hmax)
  refine ⟨vlanId, hnew, portsOf (walk ports.1), portsOf (walk ports.2), fun devId => ?_,
    fun devId => ?_, fun devId => ?_⟩
  · obtain ⟨hnodup, hmem⟩ := hwalkEdge.portsOf devId
    refine ⟨hnodup, fun port => (hmem port).trans ⟨fun hhas => ⟨fuel, ports, hports, hhas⟩, ?_⟩⟩
    rintro ⟨fuel', ports', h', hhas⟩
    rwa [hunique _ _ h'] at hhas
  · obtain ⟨hnodup, hmem⟩ := hwalkThrough.portsOf devId
    refine ⟨hnodup, fun port => (hmem port).trans ⟨fun hhas => ⟨fuel, ports, hports, hhas⟩, ?_⟩⟩
    rintro ⟨fuel', ports', h', hhas⟩
    rwa [hunique _ _ h'] at hhas
  · have hpvids : (if group.streamType = .untagged then
        addPortVlanEntries vlanId project.vlanTables (walk ports.1)
      else project.vlanTables).value devId =
        { project.vlanTables.value devId with
          portVlanEntries := (project.vlanTables.value devId).portVlanEntries ++
            if group.streamType = .untagged then (portsOf (walk ports.1) devId).map fun port =>
              { portId := port, pvid := ofUInt16 vlanId } else [] } := by
      split_ifs
      · unfold addPortVlanEntries portsOf
        rw [value_foldl_update hwalkEdge.nodup]
        cases (walk ports.1).lookup devId with
        | none => simp
        | some l => rfl
      · simp
    unfold addVlanStaticEntries
    rw [value_foldl_update hwalkThrough.nodup, hpvids]
    unfold portsOf
    cases (walk ports.2).lookup devId with
    | none => exact ⟨rfl, rfl, by simp, [], by simp⟩
    | some l => exact ⟨rfl, rfl, rfl, [_], rfl, nodup_singleton _, by simp⟩

/-! ### One call -/

variable {edge through : List ℤ} {table other : VlanTable}

/-- The keys stay different when the new ones are for other ports. -/
theorem nodup_append_ports {α : Type} {key : α → ℤ} {old : List α} {ports : List ℤ}
    {entry : ℤ → α} (hkey : ∀ port, key (entry port) = port) (hold : (old.map key).Nodup)
    (hports : ports.Nodup) : ((old ++ ports.map entry).map key).Nodup ↔
      ∀ port ∈ ports, ∀ y ∈ old, key y ≠ port := by
  have hnew : (ports.map entry).map key = ports := by
    rw [map_map]
    exact (map_congr_left fun port _ => hkey port).trans (map_id _)
  rw [map_append, hnew, nodup_append]
  constructor
  · rintro ⟨-, -, hne⟩ port hport y hy
    exact hne _ (mem_map.2 ⟨y, hy, rfl⟩) port hport
  · refine fun hne => ⟨hold, hports, fun k hk port hport => ?_⟩
    obtain ⟨y, hy, rfl⟩ := mem_map.1 hk
    exact hne port hport y hy

theorem Extended.functional_iff (h : Extended group vlanId edge through table other)
    (htable : table.Functional) (hedge : edge.Nodup) (hthrough : through.Nodup) : other.Functional ↔
      (group.streamType = .untagged → ∀ port ∈ edge, ∀ entry ∈ table.portVlanEntries,
        entry.portId ≠ port) ∧
      ∀ port ∈ through, ∀ entry ∈ table.vlanPortTypeEntries, entry.portId ≠ port := by
  have hpvids : (other.portVlanEntries.map (·.portId)).Nodup ↔
      (group.streamType = .untagged → ∀ port ∈ edge, ∀ entry ∈ table.portVlanEntries,
        entry.portId ≠ port) := by
    rw [h.pvids]
    split_ifs with htype
    · rw [nodup_append_ports (fun _ => rfl) htable.pvids hedge]
      exact ⟨fun hall _ => hall, fun hall => hall htype⟩
    · rw [append_nil]
      exact iff_of_true htable.pvids fun heq => absurd heq htype
  have htypes : (other.vlanPortTypeEntries.map (·.portId)).Nodup ↔
      ∀ port ∈ through, ∀ entry ∈ table.vlanPortTypeEntries, entry.portId ≠ port := by
    rw [h.types]
    exact nodup_append_ports (fun _ => rfl) htable.types hthrough
  rw [← hpvids, ← htypes]
  exact ⟨fun hother => ⟨hother.pvids, hother.types⟩, fun ⟨h₁, h₂⟩ => ⟨h₁, h₂⟩⟩

theorem VlanTable.Functional.delete (h : table.Functional) (vlanId : UInt16) :
    (table.delete vlanId).Functional := by
  refine ⟨?_, h.types⟩
  have hports : (table.delete vlanId).portVlanEntries.map (·.portId) =
      table.portVlanEntries.map (·.portId) := by
    unfold VlanTable.delete
    rw [map_map]
    refine map_congr_left fun entry _ => ?_
    dsimp only [Function.comp_apply]
    split_ifs <;> rfl
  rw [hports]
  exact h.pvids

theorem VlanProject.value_delete (h : project.deleteIntelligentVLAN vlanId = .ok sent)
    (devId : ℤ) : sent.vlanTables.value devId = (project.vlanTables.value devId).delete vlanId := by
  unfold deleteIntelligentVLAN at h
  split_ifs at h
  cases h
  rw [value_eq_getD, value_eq_getD, Std.TreeMap.getElem?_map]
  cases project.vlanTables[devId]? <;> rfl

/-- **The first law**, for one call. -/
theorem functional_step_iff (h : FunctionalTables project) {op : Op} (hputs :
    Puts project op sent) : FunctionalTables sent ↔ PortsUnset project op := by
  cases hputs with
  | delete hdelete =>
    refine iff_of_true (fun devId => ?_) trivial
    rw [VlanProject.value_delete hdelete]
    exact (h devId).delete _
  | create hwalk hcreate =>
    obtain ⟨vlanId, -, edge, through, hedge, hthrough, hextended⟩ :=
      VlanProject.extended_create hwalk hcreate
    refine forall_congr' fun devId => ?_
    rw [(hextended devId).functional_iff (h devId) (hedge devId).1 (hthrough devId).1]
    simp only [(hedge devId).2, (hthrough devId).2]

theorem TableStep.functional {call : Op × VlanProject} (h : TableStep project call kept) :
    FunctionalTables kept :=
  fun devId => ⟨(h.2 devId).pvids.nodup, (h.2 devId).types.nodup⟩

/-- **The second law**, for one call. -/
theorem pvidsSet_iff {call : Op × VlanProject} (hstep : TableStep project call kept) :
    PvidsSet project call kept ↔ NoOtherPvid project call.1 := by
  obtain ⟨op, sent⟩ := call
  obtain ⟨⟨hputs, -⟩, hkept⟩ := hstep
  cases hputs with
  | delete hdelete => exact Iff.rfl
  | @create group _ _ _ hwalk hcreate =>
    obtain ⟨vlanId, hnew, edge, through, hedge, -, hextended⟩ :=
      VlanProject.extended_create hwalk hcreate
    refine forall_congr' fun htype => forall_congr' fun vlanId' => forall_congr' fun hnew' =>
      forall_congr' fun devId => forall_congr' fun port => forall_congr' fun hport => ?_
    obtain rfl := Except.ok.inj (hnew.symm.trans hnew')
    have hpvids := (hextended devId).pvids
    rw [if_pos htype] at hpvids
    have hsent : ∃ entry ∈ (sent.vlanTables.value devId).portVlanEntries, entry.portId = port :=
      ⟨{ portId := port, pvid := ofUInt16 vlanId }, by
        rw [hpvids]
        exact mem_append_right _ (mem_map.2 ⟨port, ((hedge devId).2 port).2 hport, rfl⟩),
        rfl⟩
    constructor
    · rintro ⟨⟨-, hall⟩, -⟩ entry hentry
      refine hall entry ?_
      rw [hpvids]
      exact mem_append_left _ hentry
    · intro hall
      have hsentall : ∀ entry ∈ (sent.vlanTables.value devId).portVlanEntries,
          entry.portId = port → entry.pvid = ofUInt16 vlanId := by
        intro entry hentry
        rw [hpvids] at hentry
        rcases mem_append.1 hentry with hentry | hentry
        · exact hall entry hentry
        · obtain ⟨_, -, rfl⟩ := mem_map.1 hentry
          exact fun _ => rfl
      obtain ⟨entry, hentry, hentryPort⟩ := hsent
      obtain ⟨first, hfirst, hkey⟩ := (hkept devId).pvids.exists_key hentry
      exact ⟨⟨⟨entry, hentry, hentryPort⟩, hsentall⟩, ⟨first, hfirst, hkey.trans hentryPort⟩,
        fun entry hentry => hsentall entry ((hkept devId).pvids.subset hentry)⟩

/-! ### A delete right after the create -/

/-- Where the keys are different, the first element of a key is the only one. -/
theorem mem_eraseP_key {α κ : Type} [DecidableEq κ] {key : α → κ} {l : List α} {k : κ} {x : α}
    (h : (l.map key).Nodup) : x ∈ l.eraseP (fun y => key y = k) ↔ x ∈ l ∧ key x ≠ k := by
  by_cases hx : key x = k
  · refine iff_of_false (fun hmem => ?_) fun hmem => hmem.2 hx
    have hkeys : (l.eraseP fun y => key y = k).map key = (l.map key).erase k := by
      rw [erase_eq_eraseP, eraseP_map]
      refine congrArg (fun p => (l.eraseP p).map key) ?_
      funext y
      exact decide_eq_decide.2 eq_comm
    have hk := mem_map.2 ⟨x, hmem, hx⟩
    rw [hkeys, h.mem_erase_iff] at hk
    exact hk.1 rfl
  · rw [mem_eraseP_of_neg (by simpa using hx), and_iff_left hx]

/-- What is left of a PVID when the VLAN is deleted. -/
def resetPvid (vlanId : UInt16) (managementVlan : ℤ) (entry : PortVlanEntry) : PortVlanEntry :=
  if entry.pvid = ofUInt16 vlanId then { entry with pvid := managementVlan } else entry

theorem resetPvid_portId (vlanId : UInt16) (managementVlan : ℤ) (entry : PortVlanEntry) :
    (resetPvid vlanId managementVlan entry).portId = entry.portId := by
  unfold resetPvid
  split_ifs <;> rfl

theorem resetPvid_eq_self_iff {managementVlan : ℤ} {entry : PortVlanEntry} :
    resetPvid vlanId managementVlan entry = entry ↔
      (entry.pvid = ofUInt16 vlanId → managementVlan = ofUInt16 vlanId) := by
  unfold resetPvid
  split_ifs with hpvid
  · rw [← hpvid, forall_prop_of_true rfl, PortVlanEntry.mk.injEq, and_iff_right rfl]
  · exact iff_of_true rfl fun h => absurd h hpvid

/-- **The PVIDs come back** when every port had one, and none was the VLAN's. -/
theorem pvids_restored_iff (vlanId : UInt16) (managementVlan : ℤ)
    {old new back : List PortVlanEntry}
    (hold : (old.map (·.portId)).Nodup) (hnew : (new.map (·.portId)).Nodup)
    (hkept : FirstsOf (·.portId) (old ++ new) back) :
    (∀ entry, entry ∈ back.map (resetPvid vlanId managementVlan) ↔ entry ∈ old) ↔
      (∀ entry ∈ new, ∃ first ∈ old, first.portId = entry.portId) ∧
        ∀ entry ∈ old, entry.pvid = ofUInt16 vlanId → managementVlan = ofUInt16 vlanId := by
  constructor
  · intro hsame
    refine ⟨fun entry hentry => ?_, fun entry hentry => resetPvid_eq_self_iff.1 ?_⟩
    · obtain ⟨first, hfirst, hkey⟩ := hkept.exists_key (mem_append_right _ hentry)
      refine ⟨_, (hsame _).1 (mem_map.2 ⟨first, hfirst, rfl⟩), ?_⟩
      rw [resetPvid_portId]
      exact hkey
    · have hback := (hkept.mem_append_iff hold hnew).2 (.inl hentry)
      have hreset := (hsame _).1 (mem_map.2 ⟨entry, hback, rfl⟩)
      exact inj_on_of_nodup_map hold hreset hentry (resetPvid_portId _ _ _)
  · rintro ⟨hports, hstale⟩ entry
    have hself : ∀ entry ∈ old, resetPvid vlanId managementVlan entry = entry :=
      fun entry hentry => resetPvid_eq_self_iff.2 (hstale entry hentry)
    have hback : ∀ entry, entry ∈ back ↔ entry ∈ old := by
      intro entry
      rw [hkept.mem_append_iff hold hnew]
      refine or_iff_left fun hmem => ?_
      obtain ⟨first, hfirst, hkey⟩ := hports entry hmem.1
      exact hmem.2 first hfirst hkey
    constructor
    · intro hentry
      obtain ⟨first, hfirst, rfl⟩ := mem_map.1 hentry
      rw [hself first ((hback first).1 hfirst)]
      exact (hback first).1 hfirst
    · intro hentry
      exact mem_map.2 ⟨entry, (hback entry).2 hentry, hself entry hentry⟩

/-- **The types come back** when every port had one. -/
theorem types_restored_iff {old new back : List VlanPortTypeEntry}
    (hold : (old.map (·.portId)).Nodup) (hnew : (new.map (·.portId)).Nodup)
    (hkept : FirstsOf (·.portId) (old ++ new) back) : (∀ entry, entry ∈ back ↔ entry ∈ old) ↔
      ∀ entry ∈ new, ∃ first ∈ old, first.portId = entry.portId := by
  constructor
  · intro hsame entry hentry
    obtain ⟨first, hfirst, hkey⟩ := hkept.exists_key (mem_append_right _ hentry)
    exact ⟨first, (hsame first).1 hfirst, hkey⟩
  · intro hports entry
    rw [hkept.mem_append_iff hold hnew]
    refine or_iff_left fun hmem => ?_
    obtain ⟨first, hfirst, hkey⟩ := hports entry hmem.1
    exact hmem.2 first hfirst hkey

/-- **The entry of the VLAN goes**, and it alone. -/
theorem statics_restored {old new back : List VlanStaticEntry}
    (hold : (old.map (·.vlanId)).Nodup) (hnew : (new.map (·.vlanId)).Nodup)
    (hfree : ∀ entry ∈ old, entry.vlanId ≠ ofUInt16 vlanId)
    (hnewId : ∀ entry ∈ new, entry.vlanId = ofUInt16 vlanId)
    (hkept : FirstsOf (·.vlanId) (old ++ new) back) (entry : VlanStaticEntry) :
    entry ∈ back.eraseP (fun entry => entry.vlanId = ofUInt16 vlanId) ↔ entry ∈ old := by
  rw [mem_eraseP_key hkept.nodup, hkept.mem_append_iff hold hnew]
  constructor
  · rintro ⟨hentry | hentry, hne⟩
    · exact hentry
    · exact absurd (hnewId entry hentry.1) hne
  · exact fun hentry => ⟨.inl hentry, hfree entry hentry⟩

/-- **The third law**, for one table. -/
theorem Extended.restored_iff {back : VlanTable}
    (h : Extended group vlanId edge through table other) (htable : table.Functional)
    (hids : table.vlanIds.Nodup) (hfree : ∀ x ∈ table.vlanIds, x ≠ ofUInt16 vlanId)
    (hedge : edge.Nodup) (hthrough : through.Nodup) (hback : TableKept other back) :
    (back.delete vlanId).SameEntries table ↔
      (group.streamType = .untagged → ∀ port ∈ edge,
        ∃ entry ∈ table.portVlanEntries, entry.portId = port) ∧
      (∀ port ∈ through, ∃ entry ∈ table.vlanPortTypeEntries, entry.portId = port) ∧
      ∀ entry ∈ table.portVlanEntries, entry.pvid = ofUInt16 vlanId →
        table.managementVlan = ofUInt16 vlanId := by
  have hmanagement : back.managementVlan = table.managementVlan :=
    hback.managementVlan.trans h.managementVlan
  have hstatics : ∀ entry, entry ∈ (back.delete vlanId).vlanStaticEntries ↔
      entry ∈ table.vlanStaticEntries := by
    obtain ⟨entries, hentries, hnodup, hnewId⟩ := h.statics
    refine statics_restored hids hnodup (fun entry hentry => ?_) hnewId (hentries ▸ hback.statics)
    exact hfree _ (mem_map.2 ⟨entry, hentry, rfl⟩)
  have htypes := hback.types
  rw [h.types] at htypes
  have hpvids := hback.pvids
  rw [h.pvids] at hpvids
  have hnewTypes : ((through.map fun port => ({ portId := port, vlanPortType := "Access" } :
      VlanPortTypeEntry)).map (·.portId)).Nodup := by
    rw [map_map]
    exact (map_id through).symm ▸ hthrough
  have hnewPvids : ((if group.streamType = .untagged then edge.map fun port =>
      ({ portId := port, pvid := ofUInt16 vlanId } : PortVlanEntry) else []).map
        (·.portId)).Nodup := by
    split_ifs
    · rw [map_map]
      exact (map_id edge).symm ▸ hedge
    · exact nodup_nil
  have hpvidsIff := pvids_restored_iff vlanId table.managementVlan
    htable.pvids hnewPvids hpvids
  have htypesIff := types_restored_iff htable.types hnewTypes htypes
  have hports : (group.streamType = .untagged → ∀ port ∈ edge,
      ∃ entry ∈ table.portVlanEntries, entry.portId = port) ↔
      ∀ entry ∈ (if group.streamType = .untagged then edge.map fun port =>
        ({ portId := port, pvid := ofUInt16 vlanId } : PortVlanEntry) else []),
        ∃ first ∈ table.portVlanEntries, first.portId = entry.portId := by
    split_ifs with htype
    · rw [forall_mem_map]
      exact ⟨fun hall => hall htype, fun hall _ => hall⟩
    · exact iff_of_true (fun heq => absurd heq htype) (forall_mem_nil _)
  rw [forall_mem_map] at htypesIff
  rw [hports, ← htypesIff, and_left_comm, ← hpvidsIff, ← hmanagement]
  exact ⟨fun hsame => ⟨hsame.types, hsame.pvids⟩,
    fun hsame => ⟨hmanagement, hsame.2, hsame.1, hstatics⟩⟩

/-- **The third law**, for one call. -/
theorem deleteRestores_iff {call : Op × VlanProject} (h : Stored project)
    (hfunctional : FunctionalTables project) (hstep : TableStep project call kept) :
    DeleteRestores project call kept ↔ PortsSet project call.1 := by
  obtain ⟨op, sent⟩ := call
  obtain ⟨⟨hputs, hkept⟩, htables⟩ := hstep
  cases hputs with
  | delete hdelete => exact Iff.rfl
  | @create group _ _ _ hwalk hcreate =>
    obtain ⟨vlanId, hnew, edge, through, hedge, hthrough, hextended⟩ :=
      VlanProject.extended_create hwalk hcreate
    obtain ⟨-, hunused, -⟩ := VlanProject.newVlanId_ok hnew h.min h.max
    refine forall_congr' fun vlanId' => forall_congr' fun hnew' => ?_
    obtain rfl := Except.ok.inj (hnew.symm.trans hnew')
    have hfree : ∀ devId, ∀ x ∈ (project.vlanTables.value devId).vlanIds,
        x ≠ ofUInt16 vlanId := by
      rintro devId x hx rfl
      exact VlanProject.checkVlanIdUsed_eq_false_iff.1 hunused devId _ hx (toUInt16_ofUInt16 _)
    -- the core has the group, and so the delete finds it
    have hgroup : ∃ sent', kept.deleteIntelligentVLAN vlanId = .ok sent' := by
      obtain ⟨vlanId', hnew'', -, hgroups⟩ := VlanProject.createIntelligentVLAN_ok hcreate
      obtain rfl := Except.ok.inj (hnew.symm.trans hnew'')
      have hmem : vlanId ∈ kept.intelligentVlanGroup.map (·.vlanId) := by
        rw [hkept.groups.2, hgroups, map_append]
        exact mem_append_right _ mem_cons_self
      obtain ⟨group', hgroup', hid⟩ := mem_map.1 hmem
      exact ⟨_, if_pos (any_eq_true.2 ⟨group', hgroup', decide_eq_true hid⟩)⟩
    obtain ⟨sent', hsent'⟩ := hgroup
    have hrestores : (∃ sent, kept.deleteIntelligentVLAN vlanId = .ok sent ∧ ∀ devId,
        (sent.vlanTables.value devId).SameEntries (project.vlanTables.value devId)) ↔
        ∀ devId, ((kept.vlanTables.value devId).delete vlanId).SameEntries
          (project.vlanTables.value devId) := by
      constructor
      · rintro ⟨sent, hsent, hall⟩ devId
        rw [← VlanProject.value_delete hsent]
        exact hall devId
      · refine fun hall => ⟨sent', hsent', fun devId => ?_⟩
        rw [VlanProject.value_delete hsent']
        exact hall devId
    rw [hrestores]
    refine forall_congr' fun devId => ?_
    rw [(hextended devId).restored_iff (hfunctional devId) (h.tables devId) (hfree devId)
      (hedge devId).1 (hthrough devId).1 (htables devId)]
    simp only [(hedge devId).2, (hthrough devId).2]

/-! ### Every run -/

/-- **The tables in every run of successful calls.**  What is put has at most one entry of each
kind for a port exactly when no create meets a port that has one; the ports to the end stations are
in the VLAN of their group exactly when none has another PVID before; and a delete right after a
create gives the tables back exactly when every port of its paths has its entries before. -/
theorem vlanTables_iff (project : VlanProject) (h : Stored project)
    (hfunctional : FunctionalTables project) (run : List ((Op × VlanProject) × VlanProject))
    (hrun : Along TableStep project run) :
    (Along (fun _ call _ => FunctionalTables call.2) project run ↔
        Along (fun project call _ => PortsUnset project call.1) project run) ∧
      (Along PvidsSet project run ↔
        Along (fun project call _ => NoOtherPvid project call.1) project run) ∧
      (Along DeleteRestores project run ↔
        Along (fun project call _ => PortsSet project call.1) project run) := by
  have hstates : ∀ state ∈ statesOfRun project run, Stored state ∧ FunctionalTables state :=
    hrun.rule ⟨h, hfunctional⟩ fun _ _ _ hstep hstate => ⟨hstate.1.step hstep.1, hstep.functional⟩
  refine ⟨hrun.congr_states hstates fun _ _ _ hstate hstep => ?_,
    hrun.congr_states hstates fun _ _ _ _ hstep => pvidsSet_iff hstep,
    hrun.congr_states hstates fun _ _ _ hstate hstep => deleteRestores_iff hstate.1 hstate.2 hstep⟩
  exact functional_step_iff hstate.2 hstep.1.1

/-! ### Two stations at a switch -/

/-- The core's reading of a project that is put. -/
def readProject (sent : VlanProject) : VlanProject :=
  { sent with
    intelligentVlanGroup := firsts (·.vlanId) sent.intelligentVlanGroup
    vlanTables := sent.vlanTables.map fun _ table => { table with
      portVlanEntries := firsts (·.portId) table.portVlanEntries
      vlanPortTypeEntries := firsts (·.portId) table.vlanPortTypeEntries
      vlanStaticEntries := firsts (·.vlanId) table.vlanStaticEntries } }

theorem tableKept_readProject (sent : VlanProject) (devId : ℤ) :
    TableKept (sent.vlanTables.value devId) ((readProject sent).vlanTables.value devId) := by
  unfold readProject
  rw [value_eq_getD, value_eq_getD, Std.TreeMap.getElem?_map]
  cases sent.vlanTables[devId]? <;>
    exact ⟨rfl, firstsOf_firsts _ _, firstsOf_firsts _ _, firstsOf_firsts _ _⟩

theorem kept_readProject (sent : VlanProject) : Kept sent (readProject sent) := by
  refine ⟨rfl, (firstsOf_firsts _ _).keptBy, fun devId => ?_⟩
  have hkept := (tableKept_readProject sent devId).statics.keptBy
  unfold KeptBy at hkept ⊢
  rw [map_id, map_id]
  exact hkept

/-- Two stations at a switch, whose ports are in the VLAN 1. -/
def pvidProject : VlanProject where
  devices := [
    { id := 1, interfaces := [{ interfaceId := 1, used := true }] },
    { id := 2, ipAddress := "2", interfaces := [{ interfaceId := 1, used := true }] },
    { id := 3, ipAddress := "3"
      interfaces := [{ interfaceId := 1, used := true }, { interfaceId := 2, used := true }] }]
  links := atSwitch 1 2
  vlanRange := { min := 2, max := 4094 }
  vlanTables := Std.TreeMap.empty.insert 3
    { managementVlan := 1
      portVlanEntries := [{ portId := 1, pvid := 1 }, { portId := 2, pvid := 1 }] }

/-- The group of the two stations. -/
def stationGroup : IntelligentVlan := { streamType := .untagged, endStationList := [1, 2] }

theorem value_pvidProject (devId : ℤ) : (pvidProject.vlanTables.value devId) =
    if 3 = devId then { managementVlan := 1, portVlanEntries :=
      [{ portId := 1, pvid := 1 }, { portId := 2, pvid := 1 }] } else {} := by
  unfold pvidProject
  refine (value_insert _ _ _ _).trans ?_
  split_ifs
  · rfl
  · exact value_empty devId

theorem stored_pvidProject : Stored pvidProject where
  min := ⟨by decide, by decide⟩
  max := ⟨by decide, by decide⟩
  groups := ⟨nodup_nil, forall_mem_nil _⟩
  tables devId := by
    rw [value_pvidProject]
    split_ifs <;> exact nodup_nil

theorem functional_pvidProject : FunctionalTables pvidProject := by
  intro devId
  rw [value_pvidProject]
  split_ifs <;> exact ⟨by decide, by decide⟩

theorem exists_tableStep : ∃ call kept, call.1 = .create stationGroup ∧
    TableStep pvidProject call kept := by
  obtain ⟨walk, hwalk⟩ := exists_walk
  have hcreate : pvidProject.createIntelligentVLAN 5 walk stationGroup = some (.ok _) := rfl
  exact ⟨(.create stationGroup, _), _, rfl, ⟨.create hwalk hcreate, kept_readProject _⟩,
    tableKept_readProject _⟩

theorem vlanTables_iff_pvidProject :
    ∃ run, run ≠ [] ∧ (Stored pvidProject ∧ FunctionalTables pvidProject ∧
      Along TableStep pvidProject run) ∧
      (Along (fun _ call _ => FunctionalTables call.2) pvidProject run ↔
        Along (fun project call _ => PortsUnset project call.1) pvidProject run) ∧
      (Along PvidsSet pvidProject run ↔
        Along (fun project call _ => NoOtherPvid project call.1) pvidProject run) ∧
      (Along DeleteRestores pvidProject run ↔
        Along (fun project call _ => PortsSet project call.1) pvidProject run) := by
  obtain ⟨call, kept, -, hstep⟩ := exists_tableStep
  exact ⟨[(call, kept)], nofun, ⟨stored_pvidProject, functional_pvidProject, hstep, trivial⟩,
    vlanTables_iff pvidProject stored_pvidProject functional_pvidProject _ ⟨hstep, trivial⟩⟩

/-- The ports of the switch get a second PVID. -/
theorem not_vlanTables : ∃ project run, Stored project ∧ FunctionalTables project ∧
    Along TableStep project run ∧ ¬(Along (fun _ call _ => FunctionalTables call.2) project run ∧
      Along PvidsSet project run ∧ Along DeleteRestores project run) := by
  obtain ⟨⟨op, sent⟩, kept, rfl, hstep⟩ := exists_tableStep
  refine ⟨pvidProject, [((.create stationGroup, sent), kept)], stored_pvidProject,
    functional_pvidProject, ⟨hstep, trivial⟩, fun hlaws => ?_⟩
  have hunset := (functional_step_iff functional_pvidProject hstep.1.1).1 hlaws.1.1
  have hedge : EdgePort pvidProject stationGroup 3 1 := ⟨5, _, rfl, _, _, rfl, rfl⟩
  refine (hunset 3).1 rfl 1 hedge { portId := 1, pvid := 1 } ?_ rfl
  rw [value_pvidProject, if_pos rfl]
  exact mem_cons_self

end Intelligent
end Sebastian

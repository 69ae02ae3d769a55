/-
# The turbo ring

`core/src/act_core_redundant_swift.cpp`: `ComputeRedundantSwift` walks the network
from the root and the backup root of a ring and gives tiers to the devices that are
attached to the ring the way it demands, by two links to two devices one tier
above.  A device is judged while the walk is under way, from what was accepted so
far, and marks its neighbors as seen even when it is refused.

`SwiftInv` is what holds at the head of the loop: the queue is ordered by the
distance from the roots, and whatever was accepted is attached to what was accepted
before it and to nothing that can still be accepted in its upper tier.
-/

import Sebastian.Core.Topology
import Sebastian.Lib.Loop

namespace Sebastian
namespace Core

open Std.TreeMap List Option QSet QMap

/-! ### The operations -/

/-- What monitoring knows: whether the system monitors, and which links are up
(`g_monitor_link_status`). -/
structure Monitor where
  monitoring : Bool := false
  linkStatus : QMap ℤ Bool := ∅

/-- A link that is down does not count while the system monitors. -/
def Monitor.skips (monitor : Monitor) (link : Link) : Bool :=
  monitor.monitoring && !monitor.linkStatus.value link.id

/-- The links between the roots, by id. -/
def rootLinks (monitor : Monitor) (project : Project) (swift : Swift) : QSet ℤ :=
  project.links.foldl (fun links link =>
    if monitor.skips link then links
    else if (link.sourceDeviceId = swift.rootDevice ∧
        link.destinationDeviceId = swift.backupRootDevice) ∨
      (link.destinationDeviceId = swift.rootDevice ∧
        link.sourceDeviceId = swift.backupRootDevice) then QSet.insert links link.id
    else links) []

/-- `CheckRedundantSwift` -/
def checkRedundantSwift (monitor : Monitor) (project : Project) (swift : Swift) :
    Except Status Unit :=
  match project.getDeviceById swift.rootDevice with
  | none => .error (.feasibilityCheckFailed ⟨"Swift - Cannot find root device", []⟩)
  | some root =>
  if !root.deviceProperty.stpRstp.swift then
    .error (.feasibilityCheckFailed
      ⟨"Swift - device %1 doesn't support swift", [.str root.ipAddress]⟩)
  else match project.getDeviceById swift.backupRootDevice with
  | none => .error (.feasibilityCheckFailed ⟨"Swift - Cannot find backup root device", []⟩)
  | some backupRoot =>
  if !backupRoot.deviceProperty.stpRstp.swift then
    .error (.feasibilityCheckFailed
      ⟨"Swift - device %1 doesn't support swift", [.str backupRoot.ipAddress]⟩)
  else if (rootLinks monitor project swift).length ≠ 2 then
    .error (.feasibilityCheckFailed
      ⟨"Swift - root & backup root need to connect two links", []⟩)
  else .ok ()

/-- The state of the walk. -/
structure SwiftSearch where
  queue : List ℤ
  swiftMap : QMap Int16 (QSet ℤ) := ∅
  tierMap : QMap ℤ Int16

/-- What the loop over the interfaces of a device collects. -/
structure SwiftNeighbors where
  tierMap : QMap ℤ Int16
  neighborMap : QMap Int16 (QSet ℤ) := ∅
  neighborLinkMap : QMap Int16 (QSet ℤ) := ∅

/-- A neighbor is noted under a tier. -/
def SwiftNeighbors.note (found : SwiftNeighbors) (tier : Int16) (neighborId linkId : ℤ) :
    SwiftNeighbors :=
  { found with
    neighborMap := found.neighborMap.update tier (QSet.insert · neighborId)
    neighborLinkMap := found.neighborLinkMap.update tier (QSet.insert · linkId) }

/-- The link at an interface, if the interface is used and the link is not skipped. -/
def swiftLinkAt (monitor : Monitor) (project : Project) (deviceId : ℤ) (interface : Interface) :
    Option Link :=
  if !interface.used then none
  else
    let link := (project.getLinkByInterfaceId deviceId interface.interfaceId).getD {}
    if monitor.skips link then none else some link

/-- One round of the loop over the interfaces, for the link it sees there. -/
def visitSwiftLink (swiftMap : QMap Int16 (QSet ℤ)) (deviceId : ℤ) (tier : Int16)
    (found : SwiftNeighbors) (link : Link) : SwiftNeighbors :=
  let neighborId := link.neighborId deviceId
  if !found.tierMap.contains neighborId then
    { found with tierMap := found.tierMap.insert neighborId (tier + 1) }.note (tier + 1)
      neighborId link.id
  else if 0 < tier ∧ QSet.contains (swiftMap.value (tier - 1)) neighborId then
    found.note (tier - 1) neighborId link.id
  else if found.tierMap.value neighborId = tier then found.note tier neighborId link.id
  else found

/-- The links the loop over the interfaces sees. -/
def seenLinks (monitor : Monitor) (project : Project) (deviceId : ℤ) (device : Device) :
    List Link :=
  device.interfaces.filterMap (swiftLinkAt monitor project deviceId)

/-- The device is attached the way the ring demands. -/
def SwiftNeighbors.accepts (found : SwiftNeighbors) (device : Device) (tier : Int16) : Bool :=
  tier = 0 ∨ device.deviceType = .endStation ∨
    ((found.neighborMap.value (tier - 1)).length = 2 ∧
      (found.neighborLinkMap.value (tier - 1)).length = 2 ∧
      (found.neighborMap.value tier).length = 0)

/-- One round of the walk of `ComputeRedundantSwift`. -/
def swiftRound (monitor : Monitor) (project : Project) (s : SwiftSearch) :
    Iter SwiftSearch SwiftSearch :=
  match s.queue with
  | [] => .done s
  | deviceId :: queue =>
    let tier := s.tierMap.value deviceId
    let device := (project.getDeviceById deviceId).getD {}
    if device.deviceType ≠ .endStation ∧ (2 < tier ∨ !device.deviceProperty.stpRstp.swift) then
      .next { s with queue := queue }
    else
      let found := (seenLinks monitor project deviceId device).foldl
        (visitSwiftLink s.swiftMap deviceId tier) { tierMap := s.tierMap }
      if found.accepts device tier then
        .next {
          queue := queue ++ found.neighborMap.value (tier + 1)
          swiftMap := s.swiftMap.update tier (QSet.insert · deviceId)
          tierMap := found.tierMap }
      else .next { s with queue := queue, tierMap := found.tierMap }

/-- `DeviceTierMap` from the accepted devices of each tier. -/
def deviceTierMapOf (swiftMap : QMap Int16 (QSet ℤ)) : QMap ℤ Int16 :=
  swiftMap.toList.foldl (fun tiers (tier, deviceIds) =>
    deviceIds.foldl (fun tiers deviceId => tiers.insert deviceId tier) tiers) ∅

/-- The links with both ends in the ring, by id. -/
def swiftLinks (project : Project) (tiers : QMap ℤ Int16) : QSet ℤ :=
  project.links.foldl (fun links link =>
    if tiers.contains link.sourceDeviceId ∧ tiers.contains link.destinationDeviceId then
      QSet.insert links link.id
    else links) []

/-- `ComputeRedundantSwift`: the status, and the ring as it is left. -/
def computeRedundantSwift (fuel : ℕ) (monitor : Monitor) (project : Project) (swift : Swift) :
    Option (Status × Swift) :=
  if !swift.active then some (.success, swift)
  else
    let swift := { swift with deviceTierMap := ∅, links := [] }
    match checkRedundantSwift monitor project swift with
    | .error status => some (status, swift)
    | .ok () =>
      (Loop.run (swiftRound monitor project) fuel
        { queue := [swift.rootDevice, swift.backupRootDevice]
          tierMap := ((∅ : QMap ℤ Int16).insert swift.rootDevice 0).insert
            swift.backupRootDevice 0 }).map fun s =>
        let tiers := deviceTierMapOf s.swiftMap
        (.success, { swift with deviceTierMap := tiers, links := swiftLinks project tiers })

/-! ### The tiers of a ring -/

/-- The links that count between this device and those that are picked. -/
def linksTo (monitor : Monitor) (project : Project) (id : ℤ) (picked : ℤ → Bool) : List Link :=
  project.links.filter fun link => !monitor.skips link &&
    ((link.sourceDeviceId == id && picked link.destinationDeviceId) ||
      (link.destinationDeviceId == id && picked link.sourceDeviceId))

/-- The devices picked that such a link leads to. -/
def devicesTo (monitor : Monitor) (project : Project) (id : ℤ) (picked : ℤ → Bool) : List Device :=
  project.devices.filter fun device => picked device.id &&
    !(linksTo monitor project id fun x => x == device.id).isEmpty

/-- The devices in a tier of the ring. -/
def Swift.atTier (swift : Swift) (tier : Int16) (id : ℤ) : Bool :=
  swift.deviceTierMap[id]? == some tier

/-- **The tiers of a ring are sound.** -/
structure SwiftInOrder (monitor : Monitor) (project : Project) (swift : Swift) : Prop where
  root : swift.deviceTierMap[swift.rootDevice]? = some 0
  backupRoot : swift.deviceTierMap[swift.backupRootDevice]? = some 0
  rootLinks : (linksTo monitor project swift.rootDevice
    fun x => x == swift.backupRootDevice).length = 2
  attached : ∀ id tier, swift.deviceTierMap[id]? = some tier → 1 ≤ tier →
    ∃ device, project.getDeviceById id = some device ∧ (device.deviceType ≠ .endStation →
      device.deviceProperty.stpRstp.swift = true ∧ tier ≤ 2 ∧
      (linksTo monitor project id (Swift.atTier swift (tier - 1))).length = 2 ∧
      (devicesTo monitor project id (Swift.atTier swift (tier - 1))).length = 2)
  links : ∀ l, l ∈ swift.links ↔ ∃ link ∈ project.links, link.id = l ∧
    swift.deviceTierMap.contains link.sourceDeviceId = true ∧
    swift.deviceTierMap.contains link.destinationDeviceId = true

/-! ### The interfaces of a device -/

variable {monitor : Monitor} {project : Project} {device : Device} {swiftMap : QMap Int16 (QSet ℤ)}
  {tierMap : QMap ℤ Int16} {tier : Int16}

theorem tier_ne (tier : Int16) : tier + 1 ≠ tier ∧ tier - 1 ≠ tier ∧ tier + 1 ≠ tier - 1 := by
  refine ⟨fun h => ?_, fun h => ?_, fun h => ?_⟩ <;>
  · have hbits := congrArg Int16.toBitVec h
    simp only [Int16.toBitVec_add, Int16.toBitVec_sub, show Int16.toBitVec 1 = 1#16 from rfl]
      at hbits
    bv_omega

/-- **What the loop over the interfaces has found**, after these links. -/
structure NeighborsFound (swiftMap : QMap Int16 (QSet ℤ)) (tierMap : QMap ℤ Int16) (deviceId : ℤ)
    (tier : Int16) (seen : List Link) (found : SwiftNeighbors) : Prop where
  old : ∀ x : ℤ, ∀ t, tierMap[x]? = some t → found.tierMap[x]? = some t
  new : ∀ x : ℤ, tierMap[x]? = none → ∀ t, (found.tierMap[x]? = some t ↔
    t = tier + 1 ∧ ∃ link ∈ seen, link.neighborId deviceId = x)
  below : ∀ x, x ∈ found.neighborMap.value (tier + 1) ↔
    tierMap[x]? = none ∧ ∃ link ∈ seen, link.neighborId deviceId = x
  above : ∀ x, x ∈ found.neighborMap.value (tier - 1) ↔
    0 < tier ∧ x ∈ swiftMap.value (tier - 1) ∧ ∃ link ∈ seen, link.neighborId deviceId = x
  linksAbove : ∀ l, l ∈ found.neighborLinkMap.value (tier - 1) ↔
    0 < tier ∧ ∃ link ∈ seen, link.neighborId deviceId ∈ swiftMap.value (tier - 1) ∧ link.id = l
  nodup : ∀ t, (found.neighborMap.value t).Nodup
  linksNodup : ∀ t, (found.neighborLinkMap.value t).Nodup

namespace SwiftNeighbors

variable {found : SwiftNeighbors} {neighborId linkId : ℤ}

@[simp] theorem note_tierMap (t : Int16) : (found.note t neighborId linkId).tierMap =
    found.tierMap := rfl

theorem mem_neighborMap_note (t t' : Int16) {x : ℤ} :
    x ∈ (found.note t neighborId linkId).neighborMap.value t' ↔
      x ∈ found.neighborMap.value t' ∨ (t = t' ∧ x = neighborId) := by
  unfold note
  rw [value_update]
  split_ifs with h
  · subst h
    simp [QSet.mem_insert]
  · simp [h]

theorem mem_neighborLinkMap_note (t t' : Int16) {l : ℤ} :
    l ∈ (found.note t neighborId linkId).neighborLinkMap.value t' ↔
      l ∈ found.neighborLinkMap.value t' ∨ (t = t' ∧ l = linkId) := by
  unfold note
  rw [value_update]
  split_ifs with h
  · subst h
    simp [QSet.mem_insert]
  · simp [h]

theorem nodup_note (h : ∀ t, (found.neighborMap.value t).Nodup)
    (h' : ∀ t, (found.neighborLinkMap.value t).Nodup) (t : Int16) (neighborId linkId : ℤ) :
    (∀ t', ((found.note t neighborId linkId).neighborMap.value t').Nodup) ∧
      ∀ t', ((found.note t neighborId linkId).neighborLinkMap.value t').Nodup := by
  unfold note
  constructor
  · intro t'
    rw [value_update]
    split_ifs
    · exact nodup_insert (h t) _
    · exact h t'
  · intro t'
    rw [value_update]
    split_ifs
    · exact nodup_insert (h' t) _
    · exact h' t'

end SwiftNeighbors

section

variable {deviceId : ℤ} {seen : List Link} {found : SwiftNeighbors} {link : Link}

theorem NeighborsFound.init :
    NeighborsFound swiftMap tierMap deviceId tier [] { tierMap := tierMap } where
  old _ _ h := h
  new x hx t := by simp [hx]
  below x := by simp
  above x := by simp
  linksAbove l := by simp
  nodup t := by simp
  linksNodup t := by simp

theorem exists_mem_append_singleton {P : Link → Prop} :
    (∃ l ∈ seen ++ [link], P l) ↔ (∃ l ∈ seen, P l) ∨ P link := by
  simp only [mem_append, mem_singleton, or_and_right, exists_or, exists_eq_left]

/-- A link to a device that is mapped already: it adds to what is found in the tier above, or to
nothing that is kept track of. -/
theorem NeighborsFound.see {found' : SwiftNeighbors}
    (h : NeighborsFound swiftMap tierMap deviceId tier seen found)
    (hmapped : ∃ t, found.tierMap[link.neighborId deviceId]? = some t)
    (htiers : found'.tierMap = found.tierMap)
    (hbelow' : ∀ x, x ∈ found'.neighborMap.value (tier + 1) ↔
      x ∈ found.neighborMap.value (tier + 1))
    (habove : ∀ x, x ∈ found'.neighborMap.value (tier - 1) ↔
      x ∈ found.neighborMap.value (tier - 1) ∨ (0 < tier ∧
        link.neighborId deviceId ∈ swiftMap.value (tier - 1) ∧ x = link.neighborId deviceId))
    (hlinks : ∀ l, l ∈ found'.neighborLinkMap.value (tier - 1) ↔
      l ∈ found.neighborLinkMap.value (tier - 1) ∨
        (0 < tier ∧ link.neighborId deviceId ∈ swiftMap.value (tier - 1) ∧ l = link.id))
    (hnodup : ∀ t, (found'.neighborMap.value t).Nodup)
    (hlinksNodup : ∀ t, (found'.neighborLinkMap.value t).Nodup) :
    NeighborsFound swiftMap tierMap deviceId tier (seen ++ [link]) found' := by
  obtain ⟨t, hfound⟩ := hmapped
  have hbelow : tierMap[link.neighborId deviceId]? = none →
      ∃ other ∈ seen, other.neighborId deviceId = link.neighborId deviceId :=
    fun hnone => ((h.new _ hnone t).1 hfound).2
  refine ⟨fun x t hx => ?_, fun x hx t' => ?_, fun x => ?_, fun x => ?_, fun l => ?_, hnodup,
    hlinksNodup⟩
  · rw [htiers]
    exact h.old x t hx
  · rw [htiers, h.new x hx t', exists_mem_append_singleton]
    constructor
    · exact fun ⟨he, hseen⟩ => ⟨he, .inl hseen⟩
    · rintro ⟨he, hseen | rfl⟩
      · exact ⟨he, hseen⟩
      · exact ⟨he, hbelow hx⟩
  · rw [hbelow', h.below x, exists_mem_append_singleton]
    constructor
    · exact fun ⟨hx, hseen⟩ => ⟨hx, .inl hseen⟩
    · rintro ⟨hx, hseen | rfl⟩
      · exact ⟨hx, hseen⟩
      · exact ⟨hx, hbelow hx⟩
  · rw [habove, h.above x, exists_mem_append_singleton]
    constructor
    · rintro (⟨hpos, hmem, hseen⟩ | ⟨hpos, hmem, rfl⟩)
      · exact ⟨hpos, hmem, .inl hseen⟩
      · exact ⟨hpos, hmem, .inr rfl⟩
    · rintro ⟨hpos, hmem, hseen | rfl⟩
      · exact .inl ⟨hpos, hmem, hseen⟩
      · exact .inr ⟨hpos, hmem, rfl⟩
  · rw [hlinks, h.linksAbove l, exists_mem_append_singleton]
    constructor
    · rintro (⟨hpos, hseen⟩ | ⟨hpos, hmem, rfl⟩)
      · exact ⟨hpos, .inl hseen⟩
      · exact ⟨hpos, .inr ⟨hmem, rfl⟩⟩
    · rintro ⟨hpos, hseen | ⟨hmem, rfl⟩⟩
      · exact .inl ⟨hpos, hseen⟩
      · exact .inr ⟨hpos, hmem, rfl⟩

/-- **One more link is seen.** -/
theorem NeighborsFound.visit (hswift : ∀ x ∈ swiftMap.value (tier - 1), ∃ t, tierMap[x]? = some t)
    (h : NeighborsFound swiftMap tierMap deviceId tier seen found) :
    NeighborsFound swiftMap tierMap deviceId tier (seen ++ [link])
      (visitSwiftLink swiftMap deviceId tier found link) := by
  obtain ⟨hup, hdown, hapart⟩ := tier_ne tier
  unfold visitSwiftLink
  dsimp only
  generalize hnbr : link.neighborId deviceId = neighborId
  cases hfound : found.tierMap[neighborId]? with
  | none =>
    -- the neighbor is new: one tier below
    have hnew : tierMap[neighborId]? = none := by
      cases hold : tierMap[neighborId]? with
      | none => rfl
      | some t =>
        rw [h.old _ _ hold] at hfound
        cases hfound
    have hnot : neighborId ∉ swiftMap.value (tier - 1) := by
      intro hmem
      obtain ⟨t, ht⟩ := hswift _ hmem
      rw [hnew] at ht
      cases ht
    rw [if_pos (by simp [contains_eq_isSome_getElem?, hfound])]
    have hn := SwiftNeighbors.nodup_note h.nodup h.linksNodup (tier + 1) neighborId
      link.id
    refine ⟨fun x t hx => ?_, fun x hx t => ?_, fun x => ?_, fun x => ?_, fun l => ?_, hn.1, hn.2⟩
    · rw [SwiftNeighbors.note_tierMap, Std.TreeMap.getElem?_insert]
      have hne : neighborId ≠ x := by
        rintro rfl
        rw [hnew] at hx
        cases hx
      simp [hne, h.old x t hx]
    · rw [SwiftNeighbors.note_tierMap, Std.TreeMap.getElem?_insert, exists_mem_append_singleton,
        hnbr]
      by_cases hne : neighborId = x
      · subst hne
        simp [eq_comm]
      · simp [hne, h.new x hx t]
    · rw [SwiftNeighbors.mem_neighborMap_note, exists_mem_append_singleton, hnbr]
      constructor
      · rintro (hx | ⟨-, rfl⟩)
        · exact ⟨((h.below x).1 hx).1, .inl ((h.below x).1 hx).2⟩
        · exact ⟨hnew, .inr rfl⟩
      · rintro ⟨hx, hseen | rfl⟩
        · exact .inl ((h.below x).2 ⟨hx, hseen⟩)
        · exact .inr ⟨rfl, rfl⟩
    · rw [SwiftNeighbors.mem_neighborMap_note, exists_mem_append_singleton, hnbr]
      constructor
      · rintro (hx | ⟨he, -⟩)
        · obtain ⟨hpos, hmem, hseen⟩ := (h.above x).1 hx
          exact ⟨hpos, hmem, .inl hseen⟩
        · exact absurd he hapart
      · rintro ⟨hpos, hmem, hseen | rfl⟩
        · exact .inl ((h.above x).2 ⟨hpos, hmem, hseen⟩)
        · exact absurd hmem hnot
    · rw [SwiftNeighbors.mem_neighborLinkMap_note, exists_mem_append_singleton, hnbr]
      constructor
      · rintro (hl | ⟨he, -⟩)
        · obtain ⟨hpos, hseen⟩ := (h.linksAbove l).1 hl
          exact ⟨hpos, .inl hseen⟩
        · exact absurd he hapart
      · rintro ⟨hpos, hseen | ⟨hmem, -⟩⟩
        · exact .inl ((h.linksAbove l).2 ⟨hpos, hseen⟩)
        · exact absurd hmem hnot
  | some t =>
    -- the neighbor was mapped before, or by a link seen before
    subst hnbr
    have hmapped : ∃ t, found.tierMap[link.neighborId deviceId]? = some t := ⟨t, hfound⟩
    rw [if_neg (by simp [contains_eq_isSome_getElem?, hfound])]
    by_cases hc : 0 < tier ∧ QSet.contains (swiftMap.value (tier - 1))
        (link.neighborId deviceId)
    · rw [if_pos hc]
      obtain ⟨hpos, hmem⟩ := hc
      rw [QSet.contains_iff_mem] at hmem
      have hn := SwiftNeighbors.nodup_note h.nodup h.linksNodup (tier - 1)
        (link.neighborId deviceId) link.id
      refine h.see hmapped rfl (fun x => ?_) (fun x => ?_) (fun l => ?_) hn.1 hn.2
      · simp [SwiftNeighbors.mem_neighborMap_note, hapart.symm]
      · simp [SwiftNeighbors.mem_neighborMap_note, hpos, hmem]
      · simp [SwiftNeighbors.mem_neighborLinkMap_note, hpos, hmem]
    · rw [if_neg hc]
      have hc' : ¬(0 < tier ∧ link.neighborId deviceId ∈ swiftMap.value (tier - 1)) := by
        rintro ⟨hpos, hmem⟩
        exact hc ⟨hpos, QSet.contains_iff_mem.2 hmem⟩
      have hnone : ∀ P : Prop,
          ¬(0 < tier ∧ link.neighborId deviceId ∈ swiftMap.value (tier - 1) ∧ P) :=
        fun P hP => hc' ⟨hP.1, hP.2.1⟩
      have hn := SwiftNeighbors.nodup_note h.nodup h.linksNodup tier
        (link.neighborId deviceId) link.id
      split_ifs
      · refine h.see hmapped rfl (fun x => ?_) (fun x => ?_) (fun l => ?_) hn.1 hn.2
        · simp [SwiftNeighbors.mem_neighborMap_note, hup.symm]
        · simp [SwiftNeighbors.mem_neighborMap_note, hdown.symm, hnone]
        · simp [SwiftNeighbors.mem_neighborLinkMap_note, hdown.symm, hnone]
      · refine h.see hmapped rfl (fun x => Iff.rfl) (fun x => ?_) (fun l => ?_) h.nodup h.linksNodup
        · simp [hnone]
        · simp [hnone]

/-- **The loop over the interfaces.** -/
theorem neighborsFound
    (hswift : ∀ x ∈ swiftMap.value (tier - 1), ∃ t, tierMap[x]? = some t) (links : List Link) :
    NeighborsFound swiftMap tierMap deviceId tier links
      (links.foldl (visitSwiftLink swiftMap deviceId tier) { tierMap := tierMap }) :=
  Loop.foldl_rule .init fun _ _ _ _ h => h.visit hswift

/-- What the loop over the interfaces of a stored device sees are the links that count. -/
theorem mem_seenLinks (h : ConsistentLinks project) (hdev : device ∈ project.devices) :
    link ∈ seenLinks monitor project device.id device ↔
      link ∈ project.links ∧ monitor.skips link = false ∧
        (link.sourceDeviceId = device.id ∨ link.destinationDeviceId = device.id) := by
  unfold seenLinks
  rw [mem_filterMap]
  constructor
  · rintro ⟨interface, hintf, hlink⟩
    unfold swiftLinkAt at hlink
    split at hlink
    · cases hlink
    · next hused =>
      obtain ⟨other, hmem, hend⟩ := (h.used device hdev interface hintf
        (Set.notMem_empty _)).1 (by simpa using hused)
      dsimp only at hlink
      rw [(getLinkByInterfaceId_eq_some h.toLinkTable).2 ⟨hmem, hend⟩, getD_some] at hlink
      split_ifs at hlink with hskip
      cases hlink
      refine ⟨hmem, by simpa using hskip, ?_⟩
      simp only [Link.hasEndpoint, Bool.or_eq_true, Bool.and_eq_true, beq_iff_eq] at hend
      exact hend.imp And.left And.left
  · rintro ⟨hmem, hskip, hends⟩
    have hseen : ∀ interfaceId, link.hasEndpoint device.id interfaceId = true →
        ∃ interface ∈ device.interfaces,
          swiftLinkAt monitor project device.id interface = some link := by
      intro interfaceId hend
      obtain ⟨other, hother, hid, interface, hintf, rfl⟩ := h.ends link hmem _ _ hend
      obtain rfl := h.devices.eq_of_id hother hdev hid
      refine ⟨interface, hintf, ?_⟩
      have hused := (h.used _ hother interface hintf (Set.notMem_empty _)).2 ⟨link, hmem, hend⟩
      unfold swiftLinkAt
      simp [hused, (getLinkByInterfaceId_eq_some h.toLinkTable).2 ⟨hmem, hend⟩, hskip]
    rcases hends with hsrc | hdest
    · exact hseen link.sourceInterfaceId (by simp [Link.hasEndpoint, hsrc])
    · exact hseen link.destinationInterfaceId (by simp [Link.hasEndpoint, hdest])

theorem mem_linksTo {id : ℤ} {picked : ℤ → Bool} :
    link ∈ linksTo monitor project id picked ↔ (link ∈ project.links ∧
      monitor.skips link = false ∧ (link.sourceDeviceId = id ∨ link.destinationDeviceId = id)) ∧
      picked (link.neighborId id) = true := by
  unfold linksTo Link.neighborId
  rw [mem_filter]
  simp only [Bool.and_eq_true, Bool.or_eq_true, Bool.not_eq_true', beq_iff_eq]
  split_ifs with hsrc
  · subst hsrc
    constructor
    · rintro ⟨hmem, hskip, ⟨-, hp⟩ | ⟨hself, hp⟩⟩
      · exact ⟨⟨hmem, hskip, .inl rfl⟩, hp⟩
      · exact ⟨⟨hmem, hskip, .inl rfl⟩, hself ▸ hp⟩
    · rintro ⟨⟨hmem, hskip, -⟩, hp⟩
      exact ⟨hmem, hskip, .inl ⟨rfl, hp⟩⟩
  · constructor
    · rintro ⟨hmem, hskip, ⟨hs, -⟩ | ⟨hd, hp⟩⟩
      · exact absurd hs hsrc
      · exact ⟨⟨hmem, hskip, .inr hd⟩, hp⟩
    · rintro ⟨⟨hmem, hskip, hs | hd⟩, hp⟩
      · exact absurd hs hsrc
      · exact ⟨hmem, hskip, .inr ⟨hd, hp⟩⟩

theorem mem_devicesTo {id : ℤ} {picked : ℤ → Bool} {other : Device} :
    other ∈ devicesTo monitor project id picked ↔ other ∈ project.devices ∧
      picked other.id = true ∧ ∃ link ∈ project.links, monitor.skips link = false ∧
        (link.sourceDeviceId = id ∨ link.destinationDeviceId = id) ∧
          link.neighborId id = other.id := by
  unfold devicesTo
  rw [mem_filter, Bool.and_eq_true, Bool.not_eq_true', isEmpty_eq_false_iff_exists_mem]
  simp only [mem_linksTo, beq_iff_eq, and_assoc]

theorem length_eq_of_mem_iff {α : Type} {ids : List ℤ} {l : List α} {f : α → ℤ}
    (hids : ids.Nodup) (hl : (l.map f).Nodup) (h : ∀ x, x ∈ ids ↔ ∃ a ∈ l, f a = x) :
    ids.length = l.length := by
  have hperm : ids.Perm (l.map f) :=
    (perm_ext_iff_of_nodup hids hl).2 fun x => by rw [h, List.mem_map]
  rw [hperm.length_eq, length_map]

theorem nodup_linksTo (h : ConsistentLinks project) (id : ℤ) (picked : ℤ → Bool) :
    ((linksTo monitor project id picked).map (·.id)).Nodup := by
  refine List.Nodup.sublist (filter_sublist.map _) ?_
  rw [List.Nodup, pairwise_map]
  refine List.Pairwise.imp (fun {x y} hxy he => ?_) h.links
  rw [link_beq_iff.2 (.inl he)] at hxy
  cases hxy

theorem nodup_devicesTo (h : ConsistentLinks project) (id : ℤ) (picked : ℤ → Bool) :
    ((devicesTo monitor project id picked).map (·.id)).Nodup := by
  refine List.Nodup.sublist (filter_sublist.map _) ?_
  rw [List.Nodup, pairwise_map]
  refine List.Pairwise.imp (fun {x y} hxy he => ?_) h.devices.distinct
  rw [device_beq_iff.2 (.inl he)] at hxy
  cases hxy

/-- **What is found above a device** is what is attached to it there. -/
theorem NeighborsFound.length_above (h : ConsistentLinks project)
    (hdev : device ∈ project.devices) (hpos : 0 < tier)
    (hfound : NeighborsFound swiftMap tierMap device.id tier
      (seenLinks monitor project device.id device) found) :
    (found.neighborLinkMap.value (tier - 1)).length =
        (linksTo monitor project device.id (QSet.contains (swiftMap.value (tier - 1)))).length ∧
      (found.neighborMap.value (tier - 1)).length =
        (devicesTo monitor project device.id
          (QSet.contains (swiftMap.value (tier - 1)))).length := by
  constructor
  · refine length_eq_of_mem_iff (hfound.linksNodup _) (nodup_linksTo h _ _) fun l => ?_
    rw [hfound.linksAbove l]
    simp only [mem_linksTo, mem_seenLinks h hdev, QSet.contains_iff_mem, hpos, true_and,
      and_assoc]
  · refine length_eq_of_mem_iff (hfound.nodup _) (nodup_devicesTo h _ _) fun x => ?_
    rw [hfound.above x]
    simp only [mem_devicesTo, mem_seenLinks h hdev, QSet.contains_iff_mem, hpos, true_and,
      and_assoc]
    constructor
    · rintro ⟨hx, l, hmem, hskip, hend, rfl⟩
      obtain ⟨interfaceId, hend'⟩ : ∃ interfaceId, l.hasEndpoint device.id interfaceId = true := by
        rcases hend with hs | hd
        · exact ⟨l.sourceInterfaceId, by simp [Link.hasEndpoint, hs]⟩
        · exact ⟨l.destinationInterfaceId, by simp [Link.hasEndpoint, hd]⟩
      obtain ⟨other, hother, hid, -⟩ := h.exists_device (joined_neighborId hmem hend')
      exact ⟨other, hother, hid ▸ hx, ⟨l, hmem, hskip, hend, hid.symm⟩, hid⟩
    · rintro ⟨other, -, hx, ⟨l, hmem, hskip, hend, hn⟩, rfl⟩
      exact ⟨hx, l, hmem, hskip, hend, hn⟩

end

/-! ### The walk -/

section

variable {depth depth' : ℤ → ℕ} {n : ℕ} {deviceId x : ℤ} {queue : List ℤ} {found : SwiftNeighbors}
  {tierMap' : QMap ℤ Int16} {swiftMap' : QMap Int16 (QSet ℤ)} {picked picked' : ℤ → Bool}

/-- A link that counts ends at this device. -/
def CountsAt (monitor : Monitor) (project : Project) (id : ℤ) (link : Link) : Prop :=
  link ∈ project.links ∧ monitor.skips link = false ∧
    (link.sourceDeviceId = id ∨ link.destinationDeviceId = id)

theorem CountsAt.exists_neighbor (h : ConsistentLinks project) {link : Link}
    (hlink : CountsAt monitor project x link) :
    ∃ device ∈ project.devices, device.id = link.neighborId x := by
  obtain ⟨hmem, -, hend⟩ := hlink
  obtain ⟨interfaceId, hend'⟩ : ∃ interfaceId, link.hasEndpoint x interfaceId = true := by
    rcases hend with hs | hd
    · exact ⟨link.sourceInterfaceId, by simp [Link.hasEndpoint, hs]⟩
    · exact ⟨link.destinationInterfaceId, by simp [Link.hasEndpoint, hd]⟩
  obtain ⟨device, hdev, hid, -⟩ := h.exists_device (joined_neighborId hmem hend')
  exact ⟨device, hdev, hid⟩

/-- Only what is picked among the neighbors matters. -/
theorem attached_congr (h : ∀ link, CountsAt monitor project x link →
    picked (link.neighborId x) = picked' (link.neighborId x)) :
    (linksTo monitor project x picked).length = (linksTo monitor project x picked').length ∧
      (devicesTo monitor project x picked).length =
        (devicesTo monitor project x picked').length := by
  have hlinks : linksTo monitor project x picked = linksTo monitor project x picked' := by
    unfold linksTo
    refine filter_congr fun link hmem => ?_
    have hmem' := @mem_linksTo monitor project link x picked
    have hmem'' := @mem_linksTo monitor project link x picked'
    unfold linksTo at hmem' hmem''
    rw [mem_filter] at hmem' hmem''
    rw [Bool.eq_iff_iff]
    constructor
    · intro hp
      obtain ⟨hcounts, hpicked⟩ := hmem'.1 ⟨hmem, hp⟩
      exact (hmem''.2 ⟨hcounts, h link hcounts ▸ hpicked⟩).2
    · intro hp
      obtain ⟨hcounts, hpicked⟩ := hmem''.1 ⟨hmem, hp⟩
      exact (hmem'.2 ⟨hcounts, (h link hcounts).symm ▸ hpicked⟩).2
  refine ⟨by rw [hlinks], ?_⟩
  unfold devicesTo
  refine congrArg length (filter_congr fun device _ => ?_)
  cases hempty : (linksTo monitor project x fun y => y == device.id).isEmpty with
  | true => simp
  | false =>
    obtain ⟨link, hlink⟩ := isEmpty_eq_false_iff_exists_mem.1 hempty
    obtain ⟨hcounts, hid⟩ := mem_linksTo.1 hlink
    rw [← beq_iff_eq.1 hid, h link hcounts]

/-- **The queue of the walk**: ordered by depth, over at most two depths, with
everything mapped so far within one of the device that was dequeued last. -/
structure SwiftQueue (project : Project) (depth : ℤ → ℕ) (n : ℕ) (queue : List ℤ)
    (tierMap : QMap ℤ Int16) : Prop where
  tier : ∀ x : ℤ, ∀ t, tierMap[x]? = some t → t = Int16.ofNat (depth x)
  stored : ∀ x : ℤ, ∀ t, tierMap[x]? = some t → ∃ device ∈ project.devices, device.id = x
  near : ∀ x : ℤ, ∀ t, tierMap[x]? = some t → depth x ≤ n + 1
  queued : ∀ x ∈ queue, n ≤ depth x ∧ ∃ t, tierMap[x]? = some t
  ordered : queue.Pairwise fun x y => depth x ≤ depth y

theorem SwiftQueue.skip (h : SwiftQueue project depth n (deviceId :: queue) tierMap) :
    SwiftQueue project depth (depth deviceId) queue tierMap where
  tier := h.tier
  stored := h.stored
  near x t hx := by
    have hnear := h.near x t hx
    have hqueued := (h.queued deviceId mem_cons_self).1
    omega
  queued x hx :=
    ⟨rel_of_pairwise_cons h.ordered hx, (h.queued x (mem_cons_of_mem _ hx)).2⟩
  ordered := h.ordered.of_cons

/-- The depths once the neighbors of a device are mapped. -/
def deepen (tierMap : QMap ℤ Int16) (depth : ℤ → ℕ) (n : ℕ) (x : ℤ) : ℕ :=
  if tierMap[x]? = none then n + 1 else depth x

theorem deepen_of_mapped {t : Int16} (h : tierMap[x]? = some t) :
    deepen tierMap depth n x = depth x := if_neg (by simp [h])

theorem deepen_of_unmapped (h : tierMap[x]? = none) : deepen tierMap depth n x = n + 1 := if_pos h

/-- **A device is dequeued, and its new neighbors may be enqueued.** -/
theorem SwiftQueue.visit (hc : ConsistentLinks project)
    (h : SwiftQueue project depth n (deviceId :: queue) tierMap)
    (hdev : device ∈ project.devices) (hid : device.id = deviceId) (htier : tierMap[deviceId]? =
      some tier)
    (hfound : NeighborsFound swiftMap tierMap deviceId tier
      (seenLinks monitor project deviceId device) found)
    {new : List ℤ} (hnew : ∀ x ∈ new, x ∈ found.neighborMap.value (tier + 1)) :
    SwiftQueue project (deepen tierMap depth (depth deviceId)) (depth deviceId) (queue ++ new)
      found.tierMap := by
  subst hid
  have hskip := h.skip
  have hcases : ∀ x : ℤ, ∀ t, found.tierMap[x]? = some t → tierMap[x]? = some t ∨
      (tierMap[x]? = none ∧ t = tier + 1 ∧
        ∃ link, CountsAt monitor project device.id link ∧ link.neighborId device.id = x) := by
    intro x t hx
    cases hold : tierMap[x]? with
    | none =>
      obtain ⟨rfl, link, hlink, hn⟩ := (hfound.new x hold t).1 hx
      exact .inr ⟨rfl, rfl, link, (mem_seenLinks hc hdev).1 hlink, hn⟩
    | some t' =>
      rw [hfound.old x t' hold] at hx
      exact .inl hx
  have hunmapped : ∀ x ∈ new, tierMap[x]? = none := fun x hx =>
    ((hfound.below x).1 (hnew x hx)).1
  refine ⟨fun x t hx => ?_, fun x t hx => ?_, fun x t hx => ?_, fun x hx => ?_, ?_⟩
  · rcases hcases x t hx with hold | ⟨hnone, rfl, -⟩
    · rw [deepen_of_mapped hold]
      exact h.tier x t hold
    · rw [deepen_of_unmapped hnone, h.tier _ _ htier]
      exact (Int16.ofNat_add (depth device.id) 1).symm
  · rcases hcases x t hx with hold | ⟨-, -, link, hlink, rfl⟩
    · exact h.stored x t hold
    · exact hlink.exists_neighbor hc
  · rcases hcases x t hx with hold | ⟨hnone, -⟩
    · rw [deepen_of_mapped hold]
      exact hskip.near x t hold
    · rw [deepen_of_unmapped hnone]
  · rcases mem_append.1 hx with hx | hx
    · obtain ⟨hle, t, ht⟩ := hskip.queued x hx
      exact ⟨by rw [deepen_of_mapped ht]; exact hle, t, hfound.old x t ht⟩
    · obtain ⟨hnone, hseen⟩ := (hfound.below x).1 (hnew x hx)
      refine ⟨by rw [deepen_of_unmapped hnone]; omega, tier + 1, ?_⟩
      exact (hfound.new x hnone _).2 ⟨rfl, hseen⟩
  · refine pairwise_append.2 ⟨?_, ?_, fun x hx y hy => ?_⟩
    · refine hskip.ordered.imp_of_mem fun {x y} hx hy hxy => ?_
      obtain ⟨-, t, ht⟩ := hskip.queued x hx
      obtain ⟨-, t', ht'⟩ := hskip.queued y hy
      rw [deepen_of_mapped ht, deepen_of_mapped ht']
      exact hxy
    · refine pairwise_of_forall_mem_list fun x hx y hy => ?_
      rw [deepen_of_unmapped (hunmapped x hx), deepen_of_unmapped (hunmapped y hy)]
    · obtain ⟨-, t, ht⟩ := hskip.queued x hx
      rw [deepen_of_mapped ht, deepen_of_unmapped (hunmapped y hy)]
      exact hskip.near x t ht

/-- **What is known of an accepted device**, whatever comes later: its neighbors are
mapped, none of them deep enough to come into the tier above it, and it is attached
the way the ring demands. -/
structure Accepted (monitor : Monitor) (project : Project) (depth : ℤ → ℕ) (n : ℕ)
    (swiftMap : QMap Int16 (QSet ℤ)) (tierMap : QMap ℤ Int16) (x : ℤ) (tier : Int16) : Prop where
  mapped : tierMap[x]? = some tier
  passed : depth x ≤ n
  neighbors : ∀ link, CountsAt monitor project x link →
    depth (link.neighborId x) ≤ depth x + 1 ∧ ∃ t, tierMap[link.neighborId x]? = some t
  attached : tier ≠ 0 → ∀ device ∈ project.devices, device.id = x →
    device.deviceType ≠ .endStation → device.deviceProperty.stpRstp.swift = true ∧ tier ≤ 2 ∧
      (linksTo monitor project x (QSet.contains (swiftMap.value (tier - 1)))).length = 2 ∧
      (devicesTo monitor project x (QSet.contains (swiftMap.value (tier - 1)))).length = 2

/-- An accepted device stays attached when the tier above it has not changed among its
neighbors. -/
theorem Accepted.mono (h : Accepted monitor project depth n swiftMap tierMap x tier)
    (hdepth : ∀ y : ℤ, ∀ t, tierMap[y]? = some t →
      depth' y = depth y ∧ ∃ t', tierMap'[y]? = some t')
    (htier : tierMap'[x]? = some tier) {n' : ℕ} (hn : n ≤ n')
    (hsame : ∀ link, CountsAt monitor project x link →
      QSet.contains (swiftMap.value (tier - 1)) (link.neighborId x) =
        QSet.contains (swiftMap'.value (tier - 1)) (link.neighborId x)) :
    Accepted monitor project depth' n' swiftMap' tierMap' x tier where
  mapped := htier
  passed := by
    rw [(hdepth x tier h.mapped).1]
    exact h.passed.trans hn
  neighbors link hlink := by
    obtain ⟨hle, t, ht⟩ := h.neighbors link hlink
    rw [(hdepth x tier h.mapped).1, (hdepth _ t ht).1]
    exact ⟨hle, (hdepth _ t ht).2⟩
  attached hne device hdev hid htype := by
    obtain ⟨hswift, hle, hlinks, hdevs⟩ := h.attached hne device hdev hid htype
    obtain ⟨hlinks', hdevs'⟩ := attached_congr hsame
    exact ⟨hswift, hle, by rw [← hlinks', hlinks], by rw [← hdevs', hdevs]⟩

/-- **The state of the walk at the head of the loop.** -/
structure SwiftInv (monitor : Monitor) (project : Project) (swift : Swift) (depth : ℤ → ℕ) (n : ℕ)
    (s : SwiftSearch) : Prop where
  queue : SwiftQueue project depth n s.queue s.tierMap
  accepted : ∀ t, ∀ x ∈ s.swiftMap.value t,
    Accepted monitor project depth n s.swiftMap s.tierMap x t
  roots : ∀ x : ℤ, x = swift.rootDevice ∨ x = swift.backupRootDevice →
    s.tierMap[x]? = some 0 ∧ (x ∈ s.queue ∨ x ∈ s.swiftMap.value 0)

/-- What `CheckRedundantSwift` grants. -/
def RootSupports (project : Project) (swift : Swift) : Prop :=
  ∀ x : ℤ, x = swift.rootDevice ∨ x = swift.backupRootDevice →
    ∃ device ∈ project.devices, device.id = x ∧ device.deviceProperty.stpRstp.swift = true

/-- What is left of the walk: the devices not seen yet, and the queue. -/
def swiftWork (project : Project) (s : SwiftSearch) : ℕ :=
  ((project.devices.map (·.id)).toFinset.filter fun x => s.tierMap[x]? = none).card +
    s.queue.length

variable {swift : Swift} {s : SwiftSearch} {t : Int16}

/-- **Whoever is dequeued is not above an accepted neighbor.** -/
theorem Accepted.tier_ne (h : Accepted monitor project depth n swiftMap tierMap x t)
    (hq : SwiftQueue project depth n (deviceId :: queue) tierMap)
    (htier : tierMap[deviceId]? = some tier) {link : Link}
    (hlink : CountsAt monitor project x link) (hn : link.neighborId x = deviceId) :
    t - 1 ≠ tier := by
  have hle := (h.neighbors link hlink).1
  rw [hn] at hle
  have hge := (hq.queued deviceId mem_cons_self).1
  have hpast := h.passed
  have ht := hq.tier x t h.mapped
  have htier' := hq.tier deviceId tier htier
  obtain ⟨hup, hdown, hapart⟩ := Core.tier_ne t
  rcases (by omega : depth deviceId = depth x ∨ depth deviceId = depth x + 1) with he | he
  · rw [htier', he, ← ht]
    exact hdown
  · rw [htier', he, show Int16.ofNat (depth x + 1) = Int16.ofNat (depth x) + 1 from
      Int16.ofNat_add (depth x) 1, ← ht]
    exact hapart.symm

/-- The new neighbors are as many as the devices that are not unseen any more. -/
theorem swiftWork_lt (hc : ConsistentLinks project) (hdev : device ∈ project.devices)
    (hfound : NeighborsFound swiftMap tierMap device.id tier
      (seenLinks monitor project device.id device) found) :
    swiftWork project ⟨queue ++ found.neighborMap.value (tier + 1), swiftMap', found.tierMap⟩ <
      swiftWork project ⟨device.id :: queue, swiftMap, tierMap⟩ := by
  unfold swiftWork
  generalize hpool : (project.devices.map (·.id)).toFinset = pool
  have hsub : (pool.filter fun x => found.tierMap[x]? = none) ∪
      (found.neighborMap.value (tier + 1)).toFinset ⊆ pool.filter fun x => tierMap[x]? = none := by
    intro x hx
    rw [Finset.mem_filter]
    rcases Finset.mem_union.1 hx with hx | hx
    · obtain ⟨hx, hnone⟩ := Finset.mem_filter.1 hx
      refine ⟨hx, ?_⟩
      cases hold : tierMap[x]? with
      | none => rfl
      | some t =>
        rw [hfound.old x t hold] at hnone
        cases hnone
    · obtain ⟨hnone, link, hlink, rfl⟩ := (hfound.below x).1 (List.mem_toFinset.1 hx)
      refine ⟨?_, hnone⟩
      obtain ⟨other, hother, hid⟩ :=
        CountsAt.exists_neighbor hc ((@mem_seenLinks monitor _ _ _ hc hdev).1 hlink)
      rw [← hpool, List.mem_toFinset, ← hid]
      exact mem_map_of_mem hother
  have hdisjoint : Disjoint (pool.filter fun x => found.tierMap[x]? = none)
      (found.neighborMap.value (tier + 1)).toFinset := by
    rw [Finset.disjoint_left]
    intro x hx hx'
    obtain ⟨hnone, hseen⟩ := (hfound.below x).1 (List.mem_toFinset.1 hx')
    have hmapped := (hfound.new x hnone (tier + 1)).2 ⟨rfl, hseen⟩
    rw [(Finset.mem_filter.1 hx).2] at hmapped
    cases hmapped
  have hcard := Finset.card_le_card hsub
  rw [Finset.card_union_of_disjoint hdisjoint,
    toFinset_card_of_nodup (hfound.nodup _)] at hcard
  simp only [length_append, length_cons]
  omega

/-- **An accepted device is attached to the devices accepted before it.** -/
theorem accepted_of_accepts (hc : ConsistentLinks project)
    (hq : SwiftQueue project depth n (device.id :: queue) tierMap)
    (hdev : device ∈ project.devices) (htier : tierMap[device.id]? = some tier)
    (hfound : NeighborsFound swiftMap tierMap device.id tier
      (seenLinks monitor project device.id device) found)
    (hskip : ¬(device.deviceType ≠ .endStation ∧
      (2 < tier ∨ (!device.deviceProperty.stpRstp.swift) = true)))
    (hacc : found.accepts device tier = true)
    (hsame : swiftMap'.value (tier - 1) = swiftMap.value (tier - 1)) :
    Accepted monitor project (deepen tierMap depth (depth device.id)) (depth device.id) swiftMap'
      found.tierMap device.id tier where
  mapped := hfound.old _ _ htier
  passed := by rw [deepen_of_mapped htier]
  neighbors link hlink := by
    have hseen := (@mem_seenLinks monitor _ _ _ hc hdev).2 hlink
    rw [deepen_of_mapped htier]
    cases hold : tierMap[link.neighborId device.id]? with
    | none =>
      rw [deepen_of_unmapped hold]
      exact ⟨le_rfl, _, (hfound.new _ hold _).2 ⟨rfl, link, hseen, rfl⟩⟩
    | some t =>
      rw [deepen_of_mapped hold]
      exact ⟨hq.skip.near _ t hold, t, hfound.old _ t hold⟩
  attached hne other hother hid htype := by
    obtain rfl := hc.devices.eq_of_id hother hdev hid
    rw [not_and_or, not_or, Int16.not_lt, Bool.not_eq_true', Bool.not_eq_false] at hskip
    obtain ⟨hle, hswift⟩ := hskip.resolve_left (not_not.2 htype)
    unfold SwiftNeighbors.accepts at hacc
    obtain ⟨hdevs, hlinks, -⟩ :=
      ((of_decide_eq_true hacc).resolve_left hne).resolve_left htype
    have hpos : 0 < tier := by
      obtain ⟨x, hx⟩ := exists_mem_of_length_pos (l := found.neighborMap.value (tier - 1))
        (by omega)
      exact ((hfound.above x).1 hx).1
    obtain ⟨hlinks', hdevs'⟩ := hfound.length_above hc hother hpos
    rw [hsame]
    exact ⟨hswift, hle, hlinks'.symm.trans hlinks, hdevs'.symm.trans hdevs⟩

/-- **One round of the walk.** -/
theorem SwiftInv.round (hc : ConsistentLinks project) (hroots : RootSupports project swift)
    (h : SwiftInv monitor project swift depth n s) :
    (s.queue = [] ∧ swiftRound monitor project s = .done s) ∨
      ∃ s' depth' n', swiftRound monitor project s = .next s' ∧
        SwiftInv monitor project swift depth' n' s' ∧
        swiftWork project s' < swiftWork project s := by
  obtain ⟨queue, swiftMap, tierMap⟩ := s
  cases queue with
  | nil => exact .inl ⟨rfl, rfl⟩
  | cons deviceId queue =>
    refine .inr ?_
    obtain ⟨hq, haccepted, hroot⟩ := h
    dsimp only at hq haccepted hroot
    obtain ⟨hge, tier, htier⟩ := hq.queued deviceId mem_cons_self
    obtain ⟨device, hdev, rfl⟩ := hq.stored deviceId tier htier
    unfold swiftRound
    dsimp only
    rw [value_of_getElem? htier, hc.devices.getDeviceById hdev rfl, getD_some]
    split_ifs with hskip hacc
    · -- a device that is not looked at
      refine ⟨_, depth, depth device.id, rfl, ⟨hq.skip, fun t x hx => ?_, fun x hx => ?_⟩, ?_⟩
      · exact (haccepted t x hx).mono (fun y t hy => ⟨rfl, t, hy⟩) (haccepted t x hx).mapped hge
          fun _ _ => rfl
      · obtain ⟨hzero, hwhere⟩ := hroot x hx
        refine ⟨hzero, hwhere.imp_left fun hmem => ?_⟩
        rcases mem_cons.1 hmem with rfl | hmem
        · -- a root supports the ring and has tier 0
          obtain ⟨root, hstored, hid, hswift⟩ := hroots _ hx
          obtain rfl := hc.devices.eq_of_id hstored hdev hid
          rw [hzero] at htier
          cases htier
          rcases hskip.2 with hlt | hno
          · exact absurd hlt (by decide)
          · rw [hswift] at hno
            cases hno
        · exact hmem
      · unfold swiftWork
        simp
    all_goals
      have hfound : NeighborsFound swiftMap tierMap device.id tier
          (seenLinks monitor project device.id device) _ :=
        neighborsFound (fun x hx => ⟨_, (haccepted _ x hx).mapped⟩) _
      generalize (seenLinks monitor project device.id device).foldl
        (visitSwiftLink swiftMap device.id tier) { tierMap := tierMap } = found at hfound hacc ⊢
      have hdepth : ∀ y : ℤ, ∀ t, tierMap[y]? = some t →
          deepen tierMap depth (depth device.id) y = depth y ∧ ∃ t', found.tierMap[y]? = some t' :=
        fun y t hy => ⟨deepen_of_mapped hy, t, hfound.old y t hy⟩
    · -- an accepted one
      have hvisit := hq.visit hc hdev rfl htier hfound fun x hx => hx
      have hmem : ∀ t x, x ∈ (swiftMap.update tier (insert · device.id)).value t ↔
          x ∈ swiftMap.value t ∨ (tier = t ∧ x = device.id) := by
        intro t x
        rw [value_update]
        split_ifs with he
        · subst he
          simp [QSet.mem_insert]
        · simp [he]
      refine ⟨_, _, depth device.id, rfl, ⟨hvisit, fun t x hx => ?_, fun x hx => ?_⟩,
        swiftWork_lt hc hdev hfound⟩
      · rcases (hmem t x).1 hx with hx | ⟨rfl, rfl⟩
        · refine (haccepted t x hx).mono hdepth (hfound.old x t (haccepted t x hx).mapped) hge
            fun link hlink => ?_
          rw [Bool.eq_iff_iff, QSet.contains_iff_mem, QSet.contains_iff_mem, hmem]
          refine (or_iff_left fun ⟨he, hn⟩ => ?_).symm
          exact (haccepted t x hx).tier_ne hq htier hlink hn he.symm
        · refine accepted_of_accepts hc hq hdev htier hfound hskip hacc ?_
          rw [value_update, if_neg (Core.tier_ne tier).2.1.symm]
      · obtain ⟨hzero, hwhere⟩ := hroot x hx
        refine ⟨hfound.old x 0 hzero, ?_⟩
        rcases hwhere with hwhere | hwhere
        · rcases mem_cons.1 hwhere with rfl | hwhere
          · rw [hzero] at htier
            cases htier
            exact .inr ((hmem 0 _).2 (.inr ⟨rfl, rfl⟩))
          · exact .inl (mem_append_left _ hwhere)
        · exact .inr ((hmem 0 x).2 (.inl hwhere))
    · -- a refused one
      have hvisit := @SwiftQueue.visit _ _ _ _ _ _ _ _ _ _ _ hc hq hdev rfl htier hfound []
        fun x hx => by cases hx
      rw [append_nil] at hvisit
      refine ⟨_, _, depth device.id, rfl, ⟨hvisit, fun t x hx => ?_, fun x hx => ?_⟩, ?_⟩
      · exact (haccepted t x hx).mono hdepth (hfound.old x t (haccepted t x hx).mapped) hge
          fun _ _ => rfl
      · obtain ⟨hzero, hwhere⟩ := hroot x hx
        refine ⟨hfound.old x 0 hzero, hwhere.imp_left fun hmem => ?_⟩
        rcases mem_cons.1 hmem with rfl | hmem
        · rw [hzero] at htier
          cases htier
          exact absurd (by unfold SwiftNeighbors.accepts; simp) hacc
        · exact hmem
      · have hlt := @swiftWork_lt _ _ _ swiftMap _ _ queue _ swiftMap hc hdev hfound
        unfold swiftWork at hlt ⊢
        simp only [length_append, length_cons] at hlt ⊢
        omega

/-- Before the first round the roots are marked, in tier 0. -/
theorem getElem?_rootTiers (swift : Swift) (x : ℤ) (t : Int16) :
    (((∅ : QMap ℤ Int16).insert swift.rootDevice 0).insert
      swift.backupRootDevice 0)[x]? = some t ↔
        (x = swift.rootDevice ∨ x = swift.backupRootDevice) ∧ t = 0 := by
  rw [Std.TreeMap.getElem?_insert, Std.TreeMap.getElem?_insert]
  by_cases hb : swift.backupRootDevice = x
  · simp [hb, eq_comm (a := t)]
  · by_cases hr : swift.rootDevice = x
    · simp [hr, eq_comm (a := t)]
    · simp [hb, hr, Ne.symm hb, Ne.symm hr]

/-- **The walk ends**, with both roots accepted. -/
theorem exists_swiftWalk (hc : ConsistentLinks project) (hroots : RootSupports project swift)
    {fuel : ℕ} (hfuel : project.devices.length + 2 < fuel) :
    ∃ s depth n, Loop.run (swiftRound monitor project) fuel
        { queue := [swift.rootDevice, swift.backupRootDevice]
          tierMap := ((∅ : QMap ℤ Int16).insert swift.rootDevice 0).insert
            swift.backupRootDevice 0 } = some s ∧
      SwiftInv monitor project swift depth n s ∧ s.queue = [] := by
  have hmap := getElem?_rootTiers swift
  have hinit : SwiftInv monitor project swift (fun _ => 0) 0
      { queue := [swift.rootDevice, swift.backupRootDevice]
        tierMap := ((∅ : QMap ℤ Int16).insert swift.rootDevice 0).insert
          swift.backupRootDevice 0 } := by
    refine ⟨⟨fun x t hx => ((hmap x t).1 hx).2, fun x t hx => ?_, fun _ _ _ => by omega,
      fun x hx => ?_, ?_⟩, fun t x hx => ?_, fun x hx => ⟨(hmap x 0).2 ⟨hx, rfl⟩, .inl ?_⟩⟩
    · obtain ⟨device, hdev, hid, -⟩ := hroots x ((hmap x t).1 hx).1
      exact ⟨device, hdev, hid⟩
    · exact ⟨le_rfl, 0, (hmap x 0).2 ⟨by simpa using hx, rfl⟩⟩
    · simp
    · simp at hx
    · simpa using hx
  obtain ⟨r, s, hrun, ⟨depth, n, hinv⟩, hdone⟩ := Loop.exists_run_done
    (I := fun s => ∃ depth n, SwiftInv monitor project swift depth n s) (swiftWork project)
    ⟨_, _, hinit⟩ (fun s hs => by
      obtain ⟨depth, n, h⟩ := hs
      rcases h.round hc hroots with ⟨-, hdone⟩ | ⟨s', depth', n', hnext, hinv, hlt⟩
      · exact .inl ⟨s, hdone⟩
      · exact .inr ⟨s', hnext, ⟨depth', n', hinv⟩, hlt⟩) (by
      refine lt_of_le_of_lt ?_ hfuel
      unfold swiftWork
      refine Nat.add_le_add ((Finset.card_filter_le _ _).trans ?_) (by simp)
      exact (toFinset_card_le _).trans (by simp))
  rcases hinv.round hc hroots with ⟨hempty, hdone'⟩ | ⟨s', depth', n', hnext, -, -⟩
  · rw [hdone'] at hdone
    cases hdone
    exact ⟨_, depth, n, hrun, hinv, hempty⟩
  · rw [hnext] at hdone
    cases hdone

/-- `DeviceTierMap` lists the accepted devices, each with the one tier it has. -/
theorem getElem?_deviceTierMapOf {f : ℤ → Int16}
    (h : ∀ t, ∀ x ∈ swiftMap.value t, t = f x) (x : ℤ) :
    (deviceTierMapOf swiftMap)[x]? = some t ↔ x ∈ swiftMap.value t := by
  have hpairs : deviceTierMapOf swiftMap =
      (swiftMap.toList.flatMap fun p => p.2.map fun x => (x, p.1)).foldl
        (fun m p => m.insert p.1 p.2) ∅ := by
    unfold deviceTierMapOf
    rw [foldl_flatMap]
    simp only [foldl_map]
  have hmem : ∀ y u, (y, u) ∈ (swiftMap.toList.flatMap fun p => p.2.map fun x => (x, p.1)) ↔
      y ∈ swiftMap.value u := by
    intro y u
    simp only [mem_flatMap, List.mem_map, Prod.exists, Prod.mk.injEq,
      mem_toList_iff_getElem?_eq_some]
    constructor
    · rintro ⟨t, ids, hget, y', hy, rfl, rfl⟩
      rw [value_of_getElem? hget]
      exact hy
    · intro hy
      cases hget : swiftMap[u]? with
      | none =>
        rw [value_eq_getD, hget] at hy
        cases hy
      | some ids =>
        rw [value_of_getElem? hget] at hy
        exact ⟨u, ids, hget, y, hy, rfl, rfl⟩
  rw [hpairs, getElem?_foldl_insert (f := f) (fun p hp => h p.2 p.1 ((hmem p.1 p.2).1 hp))]
  have hkeys : x ∈ (swiftMap.toList.flatMap fun p => p.2.map fun x => (x, p.1)).map (·.1) ↔
      ∃ u, x ∈ swiftMap.value u := by
    rw [List.mem_map]
    constructor
    · rintro ⟨⟨y, u⟩, hp, rfl⟩
      exact ⟨u, (hmem y u).1 hp⟩
    · rintro ⟨u, hu⟩
      exact ⟨(x, u), (hmem x u).2 hu, rfl⟩
  split_ifs with hx
  · obtain ⟨u, hu⟩ := hkeys.1 hx
    have hfx := h u x hu
    constructor
    · intro ht
      rw [← some.inj ht, ← hfx]
      exact hu
    · intro ht
      rw [h t x ht]
  · constructor
    · intro ht
      simp at ht
    · exact fun ht => absurd (hkeys.2 ⟨t, ht⟩) hx

/-- **A set of ids that is filled by a loop over the links.** -/
theorem foldl_insert_id {P : Link → Prop} [DecidablePred P] (links : List Link) :
    ∀ ids : QSet ℤ, ids.Nodup →
      let ids' := links.foldl (fun ids link => if P link then insert ids link.id else ids) ids
      ids'.Nodup ∧ ∀ l, l ∈ ids' ↔ l ∈ ids ∨ ∃ link ∈ links, P link ∧ link.id = l := by
  induction links with
  | nil =>
    intro ids hids
    exact ⟨hids, fun l => by simp⟩
  | cons link links ih =>
    intro ids hids
    dsimp only
    rw [foldl_cons]
    split_ifs with hp
    · obtain ⟨hnodup, hmem⟩ := ih _ (nodup_insert hids link.id)
      refine ⟨hnodup, fun l => ?_⟩
      rw [hmem, QSet.mem_insert, exists_mem_cons_iff, (or_assoc : _ ↔ _)]
      simp [hp, eq_comm]
    · obtain ⟨hnodup, hmem⟩ := ih _ hids
      refine ⟨hnodup, fun l => ?_⟩
      rw [hmem, exists_mem_cons_iff]
      simp [hp]

/-- The links between the roots are counted once each. -/
theorem length_rootLinks (hc : ConsistentLinks project) : (rootLinks monitor project swift).length =
      (linksTo monitor project swift.rootDevice fun x => x == swift.backupRootDevice).length := by
  have hloop : rootLinks monitor project swift = project.links.foldl (fun ids link =>
      if monitor.skips link = false ∧ ((link.sourceDeviceId = swift.rootDevice ∧
          link.destinationDeviceId = swift.backupRootDevice) ∨
        (link.destinationDeviceId = swift.rootDevice ∧
          link.sourceDeviceId = swift.backupRootDevice)) then insert ids link.id
      else ids) [] := by
    unfold rootLinks
    congr 1
    funext ids link
    cases hskip : monitor.skips link <;> simp
  obtain ⟨hnodup, hmem⟩ := foldl_insert_id (P := fun link => monitor.skips link = false ∧
    ((link.sourceDeviceId = swift.rootDevice ∧
      link.destinationDeviceId = swift.backupRootDevice) ∨
    (link.destinationDeviceId = swift.rootDevice ∧
      link.sourceDeviceId = swift.backupRootDevice))) project.links [] nodup_nil
  rw [hloop]
  refine length_eq_of_mem_iff hnodup (nodup_linksTo hc _ _) fun l => ?_
  rw [hmem]
  unfold linksTo
  simp only [mem_filter, not_mem_nil, false_or, Bool.and_eq_true, Bool.or_eq_true,
    Bool.not_eq_true', beq_iff_eq, and_assoc]

/-- A checked ring has two roots that support it. -/
theorem checkRedundantSwift_ok (hc : ConsistentLinks project)
    (hok : checkRedundantSwift monitor project swift = .ok ()) : RootSupports project swift ∧
      (linksTo monitor project swift.rootDevice
        fun x => x == swift.backupRootDevice).length = 2 := by
  have hfind : ∀ (id : ℤ) (device : Device), project.getDeviceById id = some device →
      device ∈ project.devices ∧ device.id = id := fun id device hget =>
    hc.devices.id_of_find hget
  unfold checkRedundantSwift at hok
  cases hroot : project.getDeviceById swift.rootDevice with
  | none =>
    rw [hroot] at hok
    cases hok
  | some root =>
    cases hbackup : project.getDeviceById swift.backupRootDevice with
    | none =>
      rw [hroot, hbackup] at hok
      dsimp only at hok
      split_ifs at hok
    | some backupRoot =>
      rw [hroot, hbackup] at hok
      dsimp only at hok
      split_ifs at hok with hs hb hl
      rw [Bool.not_eq_true', Bool.not_eq_false] at hs hb
      refine ⟨?_, by rw [← length_rootLinks hc]; exact not_not.1 hl⟩
      rintro x (rfl | rfl)
      · exact ⟨root, (hfind _ _ hroot).1, (hfind _ _ hroot).2, hs⟩
      · exact ⟨backupRoot, (hfind _ _ hbackup).1, (hfind _ _ hbackup).2, hb⟩

theorem checkRedundantSwift_error {status : Status}
    (herror : checkRedundantSwift monitor project swift = .error status) : status ≠ .success := by
  rintro rfl
  unfold checkRedundantSwift at herror
  split at herror
  · cases herror
  · split at herror
    · cases herror
    · split at herror
      · cases herror
      · split_ifs at herror <;> cases herror

/-- The roots of the ring are left as they are. -/
theorem computeRedundantSwift_roots {fuel : ℕ} {status : Status} {swift' : Swift}
    (h : computeRedundantSwift fuel monitor project swift = some (status, swift')) :
    swift'.rootDevice = swift.rootDevice ∧ swift'.backupRootDevice = swift.backupRootDevice := by
  unfold computeRedundantSwift at h
  dsimp only at h
  split at h
  · obtain ⟨-, rfl⟩ := Prod.mk.inj (some.inj h)
    exact ⟨rfl, rfl⟩
  · split at h
    · obtain ⟨-, rfl⟩ := Prod.mk.inj (some.inj h)
      exact ⟨rfl, rfl⟩
    · obtain ⟨s, -, hs⟩ := map_eq_some_iff.1 h
      obtain ⟨-, rfl⟩ := Prod.mk.inj hs
      exact ⟨rfl, rfl⟩

/-- **The tiers of an active ring are sound.** -/
theorem swiftInOrder_of_success (hc : ConsistentLinks project) (hactive : swift.active = true)
    {fuel : ℕ} (hfuel : project.devices.length + 2 < fuel) :
    ∃ status swift', computeRedundantSwift fuel monitor project swift = some (status, swift') ∧
      (status = .success → SwiftInOrder monitor project swift') := by
  unfold computeRedundantSwift
  rw [if_neg (by simp [hactive])]
  dsimp only
  cases hcheck : checkRedundantSwift monitor project
      { swift with deviceTierMap := ∅, links := [] } with
  | error status => exact ⟨status, _, rfl, fun he => absurd he (checkRedundantSwift_error hcheck)⟩
  | ok =>
    obtain ⟨hroots, htwo⟩ := checkRedundantSwift_ok hc hcheck
    obtain ⟨s, depth, n, hrun, hinv, hempty⟩ := @exists_swiftWalk monitor _ _ hc hroots _ hfuel
    refine ⟨.success, _, congrArg (Option.map _) hrun, fun _ => ?_⟩
    have htiers : ∀ x t, (deviceTierMapOf s.swiftMap)[x]? = some t ↔ x ∈ s.swiftMap.value t :=
      fun x t => getElem?_deviceTierMapOf (f := fun x => Int16.ofNat (depth x)) (fun t x hx =>
        hinv.queue.tier x t (hinv.accepted t x hx).mapped) x
    have hroot : ∀ x : ℤ, x = swift.rootDevice ∨ x = swift.backupRootDevice →
        (deviceTierMapOf s.swiftMap)[x]? = some 0 := by
      intro x hx
      rcases (hinv.roots x hx).2 with hmem | hmem
      · rw [hempty] at hmem
        cases hmem
      · exact (htiers x 0).2 hmem
    refine ⟨hroot _ (.inl rfl), hroot _ (.inr rfl), htwo, fun id tier hid hpos => ?_, fun l => ?_⟩
    · have haccepted := hinv.accepted tier id ((htiers id tier).1 hid)
      obtain ⟨device, hdev, rfl⟩ := hinv.queue.stored id tier haccepted.mapped
      refine ⟨device, hc.devices.getDeviceById hdev rfl, fun htype => ?_⟩
      obtain ⟨hswift, hle, hlinks, hdevs⟩ := haccepted.attached (by
        rintro rfl
        exact absurd hpos (by decide)) device hdev rfl htype
      have hpicked : ∀ x, Swift.atTier { swift with
          deviceTierMap := deviceTierMapOf s.swiftMap,
          links := swiftLinks project (deviceTierMapOf s.swiftMap) } (tier - 1) x =
            QSet.contains (s.swiftMap.value (tier - 1)) x := by
        intro x
        unfold Swift.atTier
        rw [Bool.eq_iff_iff, beq_iff_eq, htiers, QSet.contains_iff_mem]
      rw [funext hpicked]
      exact ⟨hswift, hle, hlinks, hdevs⟩
    · show l ∈ swiftLinks project (deviceTierMapOf s.swiftMap) ↔ _
      obtain ⟨-, hmem⟩ := foldl_insert_id (P := fun link =>
        (deviceTierMapOf s.swiftMap).contains link.sourceDeviceId ∧
          (deviceTierMapOf s.swiftMap).contains link.destinationDeviceId) project.links []
        nodup_nil
      unfold swiftLinks
      rw [hmem]
      simp only [not_mem_nil, false_or]
      constructor
      · rintro ⟨link, hlink, hends, hid⟩
        exact ⟨link, hlink, hid, hends⟩
      · rintro ⟨link, hlink, hid, hends⟩
        exact ⟨link, hlink, hends, hid⟩

end

/-- Two switches joined by three links, and a third switch below them. -/
def turboRing : Project where
  devices :=
    [{ id := 1, ipAddress := "10.0.0.1", deviceType := .switch
       deviceProperty := { stpRstp := { swift := true } }
       interfaces := [{ deviceId := 1, interfaceId := 1, used := true },
         { deviceId := 1, interfaceId := 2, used := true },
         { deviceId := 1, interfaceId := 3, used := true },
         { deviceId := 1, interfaceId := 4, used := true }] },
     { id := 2, ipAddress := "10.0.0.2", deviceType := .switch
       deviceProperty := { stpRstp := { swift := true } }
       interfaces := [{ deviceId := 2, interfaceId := 1, used := true },
         { deviceId := 2, interfaceId := 2, used := true },
         { deviceId := 2, interfaceId := 3, used := true },
         { deviceId := 2, interfaceId := 4, used := true }] },
     { id := 3, ipAddress := "10.0.0.3", deviceType := .switch
       deviceProperty := { stpRstp := { swift := true } }
       interfaces := [{ deviceId := 3, interfaceId := 1, used := true },
         { deviceId := 3, interfaceId := 2, used := true }] }]
  links :=
    [{ id := 1, sourceDeviceId := 1, sourceInterfaceId := 1, destinationDeviceId := 2,
       destinationInterfaceId := 1 },
     { id := 2, sourceDeviceId := 1, sourceInterfaceId := 2, destinationDeviceId := 2,
       destinationInterfaceId := 2 },
     { id := 3, sourceDeviceId := 1, sourceInterfaceId := 3, destinationDeviceId := 2,
       destinationInterfaceId := 3 },
     { id := 4, sourceDeviceId := 1, sourceInterfaceId := 4, destinationDeviceId := 3,
       destinationInterfaceId := 1 },
     { id := 5, sourceDeviceId := 2, sourceInterfaceId := 4, destinationDeviceId := 3,
       destinationInterfaceId := 2 }]

theorem turboRing_consistent : ConsistentLinks turboRing := by
  refine consistentLinks_of ?_ ?_ ?_ ?_ ?_
  · unfold QSet.Distinct turboRing
    decide
  · unfold turboRing
    decide
  · unfold QSet.Distinct turboRing
    decide
  · unfold turboRing
    decide
  · unfold turboRing
    decide

/-- The third link between the roots is down. -/
def thirdLinkDown : Monitor where
  monitoring := true
  linkStatus := ((((∅ : QMap ℤ Bool).insert 1 true).insert 2 true).insert 4 true).insert 5 true

/-- The ring of the first two switches. -/
def turboSwift : Swift := { active := true, rootDevice := 1, backupRootDevice := 2 }

theorem turboRing_success : (computeRedundantSwift 6 thirdLinkDown turboRing turboSwift).map
      (fun r => (decide (r.1 = .success), r.2.deviceTierMap.toList)) =
        some (true, [(1, 0), (2, 0), (3, 1)]) := by
  decide +kernel

/-- The third switch is one tier below the roots. -/
theorem swiftInOrder_turboRing : ∃ swift', computeRedundantSwift 6 thirdLinkDown turboRing
    turboSwift = some (.success, swift') ∧ SwiftInOrder thirdLinkDown turboRing swift' ∧
      swift'.deviceTierMap.toList = [(1, 0), (2, 0), (3, 1)] := by
  obtain ⟨status, swift', hrun, hin⟩ := @swiftInOrder_of_success thirdLinkDown turboRing turboSwift
    turboRing_consistent rfl 6 (by decide)
  have hsucc := turboRing_success
  rw [hrun] at hsucc
  obtain ⟨hst, htiers⟩ := Prod.mk.inj (some.inj hsucc)
  obtain rfl := of_decide_eq_true hst
  exact ⟨swift', hrun, hin rfl, htiers⟩

/-- **A ring that is not active has no tiers, and a link that is down is not counted**
while the system monitors. -/
theorem not_swiftInOrder : ConsistentLinks turboRing ∧
    (∃ swift', computeRedundantSwift 6 {} turboRing { turboSwift with active := false } =
      some (.success, swift') ∧ ¬SwiftInOrder {} turboRing swift') ∧
    ∃ swift', computeRedundantSwift 6 thirdLinkDown turboRing turboSwift =
      some (.success, swift') ∧ ¬SwiftInOrder {} turboRing swift' := by
  refine ⟨turboRing_consistent, ⟨_, rfl, fun hin => ?_⟩, ?_⟩
  · have hroot := hin.root
    rw [show ({ turboSwift with active := false } : Swift).deviceTierMap = ∅ from rfl] at hroot
    simp at hroot
  · have hsucc := turboRing_success
    cases hrun : computeRedundantSwift 6 thirdLinkDown turboRing turboSwift with
    | none =>
      rw [hrun] at hsucc
      cases hsucc
    | some r =>
      obtain ⟨status, swift'⟩ := r
      rw [hrun] at hsucc
      obtain ⟨hst, -⟩ := Prod.mk.inj (some.inj hsucc)
      obtain rfl := of_decide_eq_true hst
      obtain ⟨hroot, hbackup⟩ := computeRedundantSwift_roots hrun
      refine ⟨swift', rfl, fun hin => ?_⟩
      have hlinks := hin.rootLinks
      rw [hroot, hbackup] at hlinks
      exact absurd hlinks (by decide)

end Core
end Sebastian

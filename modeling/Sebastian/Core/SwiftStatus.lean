/-
# The swift status of the monitor

`UpdateSwiftStatus` and the loop over the links in `MonitorProcessThread`
(`core/src/act_core_monitor_process_engine.cpp`).  A link between two devices of the tier map should
report the lower one.  Both branches look up the destination, so that a link reports its destination
whatever the tiers are (`swiftReport_cases`), and the set keeps the first status of a device
(`reported_swiftStatuses`).  What is reported is the same for every way of storing the links only
where next to nothing is (`swiftExact_iff`).

A dynamic link that is down is deleted in the same loop.  That changes neither the devices nor the
links that are walked, and is left out.
-/

import Sebastian.Lib.QMap
import Sebastian.Project

namespace Sebastian
namespace Core

open List

/-- `ActLinkStatusTypeEnum` -/
inductive LinkStatusType where
  | up
  | down
  deriving DecidableEq

/-- `ActMonitorPortStatusEntry` -/
structure PortStatusEntry where
  linkStatus : LinkStatusType := .up

instance : Inhabited PortStatusEntry := ⟨{}⟩

/-- `ActMonitorSwiftStatus` -/
structure SwiftStatus where
  deviceId : ℤ
  deviceIp : String
  offline : Bool
  online : Bool

/-- `operator==(ActMonitorSwiftStatus)` -/
instance : BEq SwiftStatus := ⟨fun x y => x.deviceId == y.deviceId⟩

/-- The ports of the devices, of `g_monitor_basic_status`. -/
abbrev PortStatuses := QMap ℤ (QMap ℤ PortStatusEntry)

/-- `link.SetAlive`: both ports are up. -/
def linkAlive (ports : PortStatuses) (link : Link) : Bool :=
  ((ports.value link.sourceDeviceId).value link.sourceInterfaceId).linkStatus == .up &&
    ((ports.value link.destinationDeviceId).value link.destinationInterfaceId).linkStatus == .up

/-- What `UpdateSwiftStatus` inserts. -/
def swiftReport (project : Project) (link : Link) (tierMap : QMap ℤ Int16) (isAlive : Bool) :
    Option SwiftStatus :=
  let srcDeviceId := link.sourceDeviceId
  let dstDeviceId := link.destinationDeviceId
  if tierMap.contains srcDeviceId && tierMap.contains dstDeviceId then
    let srcDeviceTier := tierMap.value srcDeviceId
    let dstDeviceTier := tierMap.value dstDeviceId
    let device :=
      if srcDeviceTier < dstDeviceTier then project.getDeviceById dstDeviceId
      else if srcDeviceTier > dstDeviceTier then project.getDeviceById dstDeviceId
      else some {}
    device.map fun device => ⟨dstDeviceId, device.ipAddress, true, isAlive⟩
  else none

/-- `UpdateSwiftStatus` -/
def updateSwiftStatus (project : Project) (link : Link) (tierMap : QMap ℤ Int16) (isAlive : Bool)
    (statuses : QSet SwiftStatus) : QSet SwiftStatus :=
  match swiftReport project link tierMap isAlive with
  | none => statuses
  | some status => statuses.insert status

/-- The loop over the links, which starts with what the handlers have put into
`g_swift_status_set`. -/
def swiftStatuses (project : Project) (ports : PortStatuses) (statuses : QSet SwiftStatus)
    (links : List Link) : QSet SwiftStatus :=
  links.foldl (fun statuses link => updateSwiftStatus project link project.swift.deviceTierMap
    (linkAlive ports link) statuses) statuses

/-! ### What it should report -/

/-- The link with its other end as the source. -/
def turnedLink (link : Link) : Link :=
  { link with
    sourceDeviceId := link.destinationDeviceId
    sourceDeviceIp := link.destinationDeviceIp
    sourceInterfaceId := link.destinationInterfaceId
    destinationDeviceId := link.sourceDeviceId
    destinationDeviceIp := link.sourceDeviceIp
    destinationInterfaceId := link.sourceInterfaceId }

/-- The same links in some order, with either end of each as the source. -/
def StoredAs (links links' : List Link) : Prop :=
  ∃ turn : Link → Bool,
    links'.Perm (links.map fun link => if turn link then turnedLink link else link)

/-- What the set reports for a device: it has one status of it at most. -/
def reported (statuses : QSet SwiftStatus) (deviceId : ℤ) : Option Bool :=
  (find? (·.deviceId == deviceId) statuses).map (·.online)

/-- **The swift status does not depend on how links are stored**, and a link between different tiers
reports its lower device. -/
structure SwiftExact (project : Project) (ports : PortStatuses) (statuses : QSet SwiftStatus) :
    Prop where
  stable : ∀ links links', StoredAs project.links links → StoredAs project.links links' →
    ∀ deviceId, reported (swiftStatuses project ports statuses links) deviceId =
      reported (swiftStatuses project ports statuses links') deviceId
  lower : ∀ links, StoredAs project.links links → ∀ link ∈ links, ∀ status,
    swiftReport project link project.swift.deviceTierMap (linkAlive ports link) = some status →
    (project.swift.deviceTierMap.value link.sourceDeviceId <
        project.swift.deviceTierMap.value link.destinationDeviceId →
      status.deviceId = link.destinationDeviceId) ∧
    (project.swift.deviceTierMap.value link.destinationDeviceId <
        project.swift.deviceTierMap.value link.sourceDeviceId →
      status.deviceId = link.sourceDeviceId)

/-- Both devices are in the tier map. -/
def Tiered (project : Project) (link : Link) : Prop :=
  project.swift.deviceTierMap.contains link.sourceDeviceId = true ∧
    project.swift.deviceTierMap.contains link.destinationDeviceId = true

/-- The device is an end of the link where it can be reported: between equal tiers, or in the
project. -/
def Reportable (project : Project) (link : Link) (deviceId : ℤ) : Prop :=
  Tiered project link ∧ (link.sourceDeviceId = deviceId ∨ link.destinationDeviceId = deviceId) ∧
    (project.swift.deviceTierMap.value link.sourceDeviceId =
        project.swift.deviceTierMap.value link.destinationDeviceId ∨
      (project.getDeviceById deviceId).isSome = true)

/-- **Where the storing makes no difference**: the higher devices are not in the project, and a
device without a status that a link can report is linked to itself and has links in one state. -/
structure SwiftSafe (project : Project) (ports : PortStatuses) (statuses : QSet SwiftStatus) :
    Prop where
  higher : ∀ link ∈ project.links, Tiered project link →
    (project.swift.deviceTierMap.value link.sourceDeviceId <
        project.swift.deviceTierMap.value link.destinationDeviceId →
      project.getDeviceById link.sourceDeviceId = none) ∧
    (project.swift.deviceTierMap.value link.destinationDeviceId <
        project.swift.deviceTierMap.value link.sourceDeviceId →
      project.getDeviceById link.destinationDeviceId = none)
  looped : ∀ deviceId, reported statuses deviceId = none → ∀ link ∈ project.links,
    Reportable project link deviceId →
      (∃ loop ∈ project.links, loop.sourceDeviceId = deviceId ∧
        loop.destinationDeviceId = deviceId) ∧
      ∀ link' ∈ project.links, Reportable project link' deviceId →
        linkAlive ports link' = linkAlive ports link

/-! ### What a link reports -/

section
variable {project : Project} {ports : PortStatuses} {statuses : QSet SwiftStatus}
  {link : Link} {links : List Link} {deviceId : ℤ} {isAlive : Bool} {status : SwiftStatus}

@[simp] theorem linkAlive_turned : linkAlive ports (turnedLink link) = linkAlive ports link :=
  Bool.and_comm _ _

theorem tiered_turned : Tiered project (turnedLink link) ↔ Tiered project link := and_comm

theorem reportable_turned :
    Reportable project (turnedLink link) deviceId ↔ Reportable project link deviceId :=
  and_congr tiered_turned (and_congr or_comm (or_congr_left eq_comm))

/-- **A link reports its destination**, between devices of the tier map. -/
theorem swiftReport_cases (isAlive : Bool) :
    (∃ ip, Reportable project link link.destinationDeviceId ∧
      swiftReport project link project.swift.deviceTierMap isAlive =
        some ⟨link.destinationDeviceId, ip, true, isAlive⟩) ∨
    (¬Reportable project link link.destinationDeviceId ∧
      swiftReport project link project.swift.deviceTierMap isAlive = none) := by
  unfold swiftReport
  dsimp only
  by_cases htiers : Tiered project link
  · rw [if_pos (Bool.and_eq_true_iff.2 htiers), ← ite_or]
    split_ifs with hdiffer
    · -- the destination is looked up
      cases hdev : project.getDeviceById link.destinationDeviceId with
      | some device => exact .inl ⟨_, ⟨htiers, .inr rfl, .inr (by rw [hdev]; rfl)⟩, rfl⟩
      | none =>
        refine .inr ⟨fun h => ?_, rfl⟩
        rcases h.2.2 with heq | hsome
        · rw [heq] at hdiffer
          exact hdiffer.elim Int16.lt_irrefl Int16.lt_irrefl
        · rw [hdev] at hsome
          cases hsome
    · obtain ⟨hlower, hhigher⟩ := not_or.1 hdiffer
      exact .inl ⟨_, ⟨htiers, .inr rfl,
        .inl (Int16.le_antisymm (Int16.not_lt.1 hhigher) (Int16.not_lt.1 hlower))⟩, rfl⟩
  · rw [if_neg (fun h => htiers (Bool.and_eq_true_iff.1 h))]
    exact .inr ⟨fun h => htiers h.1, rfl⟩

/-- The link reports the device. -/
def reports (project : Project) (deviceId : ℤ) (link : Link) : Bool :=
  link.destinationDeviceId == deviceId &&
    (swiftReport project link project.swift.deviceTierMap true).isSome

theorem reports_iff : reports project deviceId link = true ↔
    link.destinationDeviceId = deviceId ∧ Reportable project link deviceId := by
  rw [reports, Bool.and_eq_true, beq_iff_eq]
  refine and_congr_right fun heq => ?_
  rcases swiftReport_cases true with ⟨ip, h, hsome⟩ | ⟨h, hnone⟩
  · rw [hsome]
    exact iff_of_true rfl (heq ▸ h)
  · rw [hnone]
    exact iff_of_false nofun (heq ▸ h)

/-- A status is inserted for a device that has none. -/
theorem reported_insert : reported (statuses.insert status) deviceId =
    (reported statuses deviceId).or
      (if status.deviceId = deviceId then some status.online else none) := by
  unfold reported
  cases hcont : statuses.contains status with
  | true =>
    have hsame : statuses.insert status = statuses := if_pos hcont
    rw [hsame]
    split_ifs with hid
    · obtain ⟨x, hx, hbeq⟩ := List.any_eq_true.1 hcont
      have hsome : (find? (·.deviceId == deviceId) statuses).isSome = true :=
        find?_isSome.2 ⟨x, hx, hid ▸ hbeq⟩
      obtain ⟨found, hfound⟩ := Option.isSome_iff_exists.1 hsome
      rw [hfound]
      rfl
    · exact Option.or_none.symm
  | false =>
    rw [QSet.insert_of_not_contains hcont, find?_append, Option.map_or]
    congr 1
    by_cases hid : status.deviceId = deviceId <;> simp [hid]

/-- **The first status of a device stays**: a device is reported with the status that it had, or
else with that of the first link to report it. -/
theorem reported_swiftStatuses : reported (swiftStatuses project ports statuses links) deviceId =
    (reported statuses deviceId).or
      ((links.find? (reports project deviceId)).map (linkAlive ports)) := by
  induction links generalizing statuses with
  | nil => exact Option.or_none.symm
  | cons link links ih =>
    have hstep : swiftStatuses project ports statuses (link :: links) =
        swiftStatuses project ports (updateSwiftStatus project link project.swift.deviceTierMap
          (linkAlive ports link) statuses) links := rfl
    rw [hstep, ih, updateSwiftStatus, find?_cons]
    rcases swiftReport_cases (linkAlive ports link) with ⟨ip, h, hsome⟩ | ⟨h, hnone⟩
    · rw [hsome]
      dsimp only
      rw [reported_insert, Option.or_assoc]
      congr 1
      by_cases hid : link.destinationDeviceId = deviceId
      · rw [reports_iff.2 ⟨hid, hid ▸ h⟩, if_pos hid]
        rfl
      · have hother : reports project deviceId link = false := by
          rw [← Bool.not_eq_true, reports_iff]
          exact fun hr => hid hr.1
        rw [hother, if_neg hid]
        rfl
    · have hother : reports project deviceId link = false := by
        rw [← Bool.not_eq_true, reports_iff]
        rintro ⟨rfl, hr⟩
        exact h hr
      rw [hnone, hother]

/-! ### Where the storing makes no difference -/

/-- A link of a storing is one of the project, seen from one of its ends. -/
theorem StoredAs.mem_iff (h : StoredAs project.links links) {P : Link → Prop}
    (hturn : ∀ link, P (turnedLink link) ↔ P link) :
    (∃ link ∈ links, P link) ↔ ∃ link ∈ project.links, P link := by
  obtain ⟨turn, hperm⟩ := h
  have hiff : ∀ link, P (if turn link then turnedLink link else link) ↔ P link := by
    intro link
    split_ifs
    · exact hturn link
    · exact Iff.rfl
  constructor
  · rintro ⟨link, hlink, hP⟩
    obtain ⟨orig, horig, rfl⟩ := mem_map.1 (hperm.mem_iff.1 hlink)
    exact ⟨orig, horig, (hiff orig).1 hP⟩
  · rintro ⟨link, hlink, hP⟩
    exact ⟨_, hperm.mem_iff.2 (mem_map_of_mem hlink), (hiff link).2 hP⟩

/-- A link to the device can be stored as the first one, with the device as its destination. -/
theorem exists_storedAs (hlink : link ∈ project.links) (hends : link.sourceDeviceId = deviceId ∨
      link.destinationDeviceId = deviceId) :
    ∃ first rest, StoredAs project.links (first :: rest) ∧ first.destinationDeviceId = deviceId ∧
      (first = link ∨ first = turnedLink link) := by
  obtain ⟨before, after, hsplit⟩ := append_of_mem hlink
  by_cases hdest : link.destinationDeviceId = deviceId
  · refine ⟨link, before ++ after, ⟨fun _ => false, ?_⟩, hdest, .inl rfl⟩
    rw [hsplit]
    simpa using perm_middle.symm
  · refine ⟨turnedLink link, (before ++ after).map turnedLink, ⟨fun _ => true, ?_⟩,
      hends.resolve_right hdest, .inr rfl⟩
    rw [hsplit]
    simpa using perm_middle.symm

theorem SwiftExact.higher (h : SwiftExact project ports statuses)
    (hstored : StoredAs project.links links) (hlink : link ∈ links) (htiers : Tiered project link)
    (hlt : project.swift.deviceTierMap.value link.destinationDeviceId <
      project.swift.deviceTierMap.value link.sourceDeviceId) :
    project.getDeviceById link.destinationDeviceId = none := by
  by_contra hsome
  rcases swiftReport_cases (linkAlive ports link) with ⟨ip, -, hreport⟩ | ⟨hno, -⟩
  · have heq := (h.lower links hstored link hlink _ hreport).2 hlt
    dsimp only at heq
    rw [heq] at hlt
    exact Int16.lt_irrefl hlt
  · exact hno ⟨htiers, .inr rfl, .inr (Option.isSome_iff_ne_none.2 hsome)⟩

/-- **Whichever link comes first**, its state is the one that is reported. -/
theorem SwiftExact.find (h : SwiftExact project ports statuses)
    (hstored : StoredAs project.links links) (hnew : reported statuses deviceId = none)
    (hlink : link ∈ project.links) (hreport : Reportable project link deviceId) :
    (links.find? (reports project deviceId)).map (linkAlive ports) =
      some (linkAlive ports link) := by
  obtain ⟨first, rest, hfirst, hdest, hturn⟩ := exists_storedAs hlink hreport.2.1
  have hsame := h.stable _ _ hstored hfirst deviceId
  rw [reported_swiftStatuses, reported_swiftStatuses, hnew, Option.none_or, Option.none_or] at hsame
  rcases hturn with rfl | rfl
  · rw [hsame, find?_cons, reports_iff.2 ⟨hdest, hreport⟩]
    rfl
  · rw [hsame, find?_cons, reports_iff.2 ⟨hdest, reportable_turned.2 hreport⟩, ← linkAlive_turned]
    rfl

theorem SwiftExact.safe (h : SwiftExact project ports statuses) :
    SwiftSafe project ports statuses := by
  have hself : StoredAs project.links project.links := ⟨fun _ => false, by simp⟩
  refine ⟨fun link hlink htiers => ⟨?_, h.higher hself hlink htiers⟩,
    fun deviceId hnew link hlink hreport => ⟨?_, fun link' hlink' hreport' => ?_⟩⟩
  · have hturned : StoredAs project.links (project.links.map turnedLink) := ⟨fun _ => true, by simp⟩
    have hnone := h.higher hturned (mem_map_of_mem hlink) (tiered_turned.2 htiers)
    exact hnone
  · -- the links are turned away from the device
    have hfind := h.find ⟨fun link => link.destinationDeviceId == deviceId, .refl _⟩ hnew hlink
      hreport
    obtain ⟨found, hfound, -⟩ := Option.map_eq_some_iff.1 hfind
    have hdest := (reports_iff.1 (find?_some hfound)).1
    obtain ⟨loop, hloop, rfl⟩ := mem_map.1 (mem_of_find?_eq_some hfound)
    refine ⟨loop, hloop, ?_⟩
    by_cases hturn : loop.destinationDeviceId = deviceId
    · rw [if_pos (beq_iff_eq.2 hturn)] at hdest
      exact ⟨hdest, hturn⟩
    · rw [if_neg (fun hbeq => hturn (beq_iff_eq.1 hbeq))] at hdest
      exact absurd hdest hturn
  · exact Option.some.inj ((h.find hself hnew hlink' hreport').symm.trans
      (h.find hself hnew hlink hreport))

/-- What a storing reports can be told from the links of the project. -/
theorem SwiftSafe.find_iff (h : SwiftSafe project ports statuses)
    (hstored : StoredAs project.links links) (hnew : reported statuses deviceId = none)
    (online : Bool) : (links.find? (reports project deviceId)).map (linkAlive ports) = some online ↔
      ∃ link ∈ project.links, Reportable project link deviceId ∧
        linkAlive ports link = online := by
  have horig : ∀ {found}, links.find? (reports project deviceId) = some found →
      ∃ link ∈ project.links, Reportable project link deviceId ∧
        linkAlive ports link = linkAlive ports found := fun hfound =>
    (hstored.mem_iff fun link => by rw [reportable_turned, linkAlive_turned]).1
      ⟨_, mem_of_find?_eq_some hfound, (reports_iff.1 (find?_some hfound)).2, rfl⟩
  rw [Option.map_eq_some_iff]
  constructor
  · rintro ⟨found, hfound, rfl⟩
    exact horig hfound
  · rintro ⟨link, hlink, hreport, rfl⟩
    obtain ⟨⟨loop, hloop, hloop'⟩, hsame⟩ := h.looped deviceId hnew link hlink hreport
    obtain ⟨stored, hmem, hsource, hdest⟩ : ∃ stored ∈ links,
        stored.sourceDeviceId = deviceId ∧ stored.destinationDeviceId = deviceId :=
      (hstored.mem_iff fun _ => and_comm).2 ⟨loop, hloop, hloop'⟩
    have hin : project.swift.deviceTierMap.contains deviceId = true := by
      rcases hreport.2.1 with heq | heq
      · exact heq ▸ hreport.1.1
      · exact heq ▸ hreport.1.2
    have hreports : reports project deviceId stored = true := by
      rw [reports_iff, Reportable, Tiered, hsource, hdest]
      exact ⟨rfl, ⟨hin, hin⟩, .inl rfl, .inl rfl⟩
    obtain ⟨found, hfound⟩ := Option.isSome_iff_exists.1 (find?_isSome.2 ⟨stored, hmem, hreports⟩)
    obtain ⟨orig, horig, hreport', halive⟩ := horig hfound
    exact ⟨found, hfound, halive.symm.trans (hsame orig horig hreport')⟩

theorem SwiftSafe.exact (h : SwiftSafe project ports statuses) :
    SwiftExact project ports statuses := by
  constructor
  · intro links links' hstored hstored' deviceId
    rw [reported_swiftStatuses, reported_swiftStatuses]
    cases hnew : reported statuses deviceId with
    | some online => rfl
    | none =>
      rw [Option.none_or, Option.none_or]
      refine Option.ext fun online => ?_
      rw [h.find_iff hstored hnew, h.find_iff hstored' hnew]
  · intro links hstored link hlink status hstatus
    rcases swiftReport_cases (linkAlive ports link) with ⟨ip, hreport, hsome⟩ | ⟨-, hnone⟩
    · obtain rfl := Option.some.inj (hsome.symm.trans hstatus)
      refine ⟨fun _ => rfl, fun hlt => ?_⟩
      -- the destination is the higher device
      rcases hreport.2.2 with heq | hdev
      · rw [heq] at hlt
        exact absurd hlt Int16.lt_irrefl
      · obtain ⟨turn, hperm⟩ := hstored
        obtain ⟨orig, horig, rfl⟩ := mem_map.1 (hperm.mem_iff.1 hlink)
        have hnone : project.getDeviceById (if turn orig then turnedLink orig else
            orig).destinationDeviceId = none := by
          split_ifs at hlt hreport ⊢
          · exact (h.higher orig horig (tiered_turned.1 hreport.1)).1 hlt
          · exact (h.higher orig horig hreport.1).2 hlt
        rw [hnone] at hdev
        cases hdev
    · rw [hnone] at hstatus
      cases hstatus

end

/-- **The swift status is the same for every storing** exactly where it is safe. -/
theorem swiftExact_iff (project : Project) (ports : PortStatuses) (statuses : QSet SwiftStatus) :
    SwiftExact project ports statuses ↔ SwiftSafe project ports statuses :=
  ⟨SwiftExact.safe, SwiftSafe.exact⟩

/-- Two switches of different tiers and a link from the lower to the higher one. -/
def uplink : Project where
  devices := [{ id := 1, ipAddress := "10.0.0.1" }, { id := 2, ipAddress := "10.0.0.2" }]
  links :=
    [{ id := 1, sourceDeviceId := 2, sourceInterfaceId := 1, destinationDeviceId := 1,
       destinationInterfaceId := 1 }]
  swift := { deviceTierMap := ((∅ : QMap ℤ Int16).insert 1 1).insert 2 2 }

/-- **The higher switch is reported** for the lower one. -/
theorem not_swiftExact : ¬SwiftExact uplink ∅ [] := by
  intro h
  have hlower := h.lower uplink.links ⟨fun _ => false, .refl _⟩ _ mem_cons_self
    ⟨1, "10.0.0.1", true, true⟩ rfl
  revert hlower
  decide

end Core
end Sebastian

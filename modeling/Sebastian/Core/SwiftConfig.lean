/-
# The configuration of a turbo ring

`core/src/act_core_redundant_swift.cpp`: `ConfigRedundantSwift` gives every device
of a project its role in the ring and writes the ring into its RSTP table.
`ComputeRedundantSwift(project)` runs it after the walk of the ring; when the walk
fails it deletes the ring first, and `DeleteRedundantSwift` computes again.

The roles and tables are written for a ring that is not active, too, but the first
line of `ConfigRedundantSwift` returns for such a ring.  Both ways to lose a ring
therefore change nothing but the ring itself (`SwiftRemoved.eq`): what was
configured for it stays (`not_nothingLeft_of_configured`).
-/

import Sebastian.Core.RedundantSwift

namespace Sebastian
namespace Core

open Option

/-! ### The operations -/

/-- The device is a root of the ring. -/
def Swift.isRoot (swift : Swift) (deviceId : ℤ) : Bool :=
  swift.rootDevice == deviceId || swift.backupRootDevice == deviceId

/-- `second_tiers`: the devices that a link of the ring joins to the root. -/
def secondTiers (project : Project) (swift : Swift) : QSet ℤ :=
  swift.links.foldl (fun tiers linkId =>
    let link := (project.getLinkById linkId).getD {}
    if link.sourceDeviceId = swift.rootDevice ∧
        link.destinationDeviceId ≠ swift.backupRootDevice then
      QSet.insert tiers link.destinationDeviceId
    else if link.destinationDeviceId = swift.rootDevice ∧
        link.sourceDeviceId ≠ swift.backupRootDevice then
      QSet.insert tiers link.sourceDeviceId
    else tiers) []

/-- `device_role` -/
def swiftRole (swift : Swift) (device : Device) : DeviceRole :=
  let stpRstp := device.deviceProperty.stpRstp
  if !stpRstp.rstp then .unknown
  else if !swift.active ∨ !stpRstp.swift ∨ !swift.deviceTierMap.contains device.id then .rstp
  else if swift.rootDevice = device.id then .swiftRoot
  else if swift.backupRootDevice = device.id then .swiftBackupRoot
  else .swift

/-- `priority` -/
def swiftPriority (swift : Swift) (tiers : QSet ℤ) (stpRstp : STPRSTPItem) (deviceId : ℤ) : ℤ :=
  if !stpRstp.swift ∨ !stpRstp.rstp then 32768
  else if Swift.isRoot swift deviceId then 4096
  else if QSet.contains tiers deviceId then 8192
  else 32768

/-- What `ConfigRedundantSwift` writes into the table of a device. -/
def swiftTable (swift : Swift) (tiers : QSet ℤ) (stpRstp : STPRSTPItem) (deviceId : ℤ)
    (table : RstpTable) : RstpTable :=
  { table with
    active := stpRstp.rstp
    rstpConfigSwift := stpRstp.swift && swift.active &&
      (Swift.isRoot swift deviceId || QSet.contains tiers deviceId)
    rstpConfigRevert := stpRstp.swift && swift.active && Swift.isRoot swift deviceId
    priority := swiftPriority swift tiers stpRstp deviceId
    helloTime := 1 }

/-- One round of the loop of `ConfigRedundantSwift`. -/
def configSwiftDevice (swift : Swift) (tiers : QSet ℤ) (found : QSet Device × QMap ℤ RstpTable)
    (device : Device) : QSet Device × QMap ℤ RstpTable :=
  let stpRstp := device.deviceProperty.stpRstp
  (found.1.insert { device with deviceRole := swiftRole swift device },
    if !stpRstp.rstp then found.2.erase device.id
    else found.2.insert device.id
      (swiftTable swift tiers stpRstp device.id
        (found.2[device.id]?.getD { deviceId := device.id })))

/-- `ConfigRedundantSwift` -/
def configRedundantSwift (project : Project) (swift : Swift) : Project :=
  if !swift.active then project
  else
    let (devices, rstpTables) := project.devices.foldl
      (configSwiftDevice swift (secondTiers project swift)) ([], project.rstpTables)
    { project with devices := devices, rstpTables := rstpTables }

/-- `DeleteRedundantSwift`, by the `ComputeRedundantSwift` that it calls. -/
def deleteRedundantSwiftBy (compute : Project → Option (Status × Project)) (project : Project) :
    Option (Status × Project) :=
  compute { project with swift := {} }

/-- `ComputeRedundantSwift` of a project.  The two fuels bound the walk and the depth of
the calls. -/
def computeProjectSwift (fuel : ℕ) (monitor : Monitor) : ℕ → Project → Option (Status × Project)
  | 0, _ => none
  | depth + 1, project =>
    match computeRedundantSwift fuel monitor project project.swift with
    | none => none
    | some (status, swift) =>
      let project := { project with swift := swift }
      if status.isSuccess then some (.success, configRedundantSwift project project.swift)
      else
        -- the status of `DeleteRedundantSwift` is not looked at
        (deleteRedundantSwiftBy (computeProjectSwift fuel monitor depth) project).map fun r =>
          (.success, configRedundantSwift r.2 r.2.swift)

/-- `DeleteRedundantSwift` -/
def deleteRedundantSwift (fuel : ℕ) (monitor : Monitor) (depth : ℕ) (project : Project) :
    Option (Status × Project) :=
  deleteRedundantSwiftBy (computeProjectSwift fuel monitor depth) project

/-- `UpdateRedundantSwift` of a project. -/
def updateRedundantSwift (fuel : ℕ) (monitor : Monitor) (depth : ℕ) (project : Project)
    (swift : Swift) : Option (Status × Project) :=
  match checkRedundantSwift monitor project swift with
  | .error status => some (status, project)
  | .ok () =>
    computeProjectSwift fuel monitor depth { project with swift := { swift with active := true } }

/-! ### The ring is lost -/

/-- The ring as `CheckRedundantSwift` sees it on the way to the walk. -/
def Swift.cleared (swift : Swift) : Swift := { swift with deviceTierMap := ∅, links := [] }

/-- **The two ways to lose a ring**: it is deleted, or it is active and dropped because
the check refuses it. -/
inductive SwiftRemoved (monitor : Monitor) (project : Project) : Project → Prop where
  | delete {fuel depth : ℕ} {project' : Project}
      (run : deleteRedundantSwift fuel monitor depth project = some (.success, project')) :
      SwiftRemoved monitor project project'
  | drop {fuel depth : ℕ} {reason status : Status} {project' : Project}
      (active : project.swift.active = true)
      (refused : checkRedundantSwift monitor project (Swift.cleared project.swift) = .error reason)
      (run : computeProjectSwift fuel monitor depth project = some (status, project')) :
      SwiftRemoved monitor project project'

/-- **Nothing is left of a ring** in the roles and the RSTP tables of a project. -/
structure NothingLeft (removed : Swift) (project : Project) : Prop where
  roles : ∀ device ∈ project.devices, device.deviceRole ≠ .swiftRoot ∧
    device.deviceRole ≠ .swiftBackupRoot ∧ device.deviceRole ≠ .swift
  flags : ∀ (id : ℤ) (table : RstpTable), project.rstpTables[id]? = some table →
    table.rstpConfigSwift = false ∧ table.rstpConfigRevert = false
  priorities : ∀ (id : ℤ) (table : RstpTable), project.rstpTables[id]? = some table →
    ¬(table.priority = 4096 ∧ Swift.isRoot removed id = true) ∧
      ¬(table.priority = 8192 ∧ id ∈ secondTiers project removed)

section

variable {monitor : Monitor} {project project' : Project} {swift removed : Swift}

theorem configRedundantSwift_of_inactive (h : swift.active = false) :
    configRedundantSwift project swift = project := by
  unfold configRedundantSwift
  rw [if_pos (by rw [h]; rfl)]

/-- A project without an active ring is computed as it is. -/
theorem computeProjectSwift_of_inactive (h : project.swift.active = false) (fuel depth : ℕ) :
    computeProjectSwift fuel monitor (depth + 1) project = some (.success, project) := by
  have hrun : computeRedundantSwift fuel monitor project project.swift =
      some (.success, project.swift) := by
    unfold computeRedundantSwift
    rw [if_pos (by rw [h]; rfl)]
  unfold computeProjectSwift
  rw [hrun]
  dsimp only
  rw [if_pos (by rfl), configRedundantSwift_of_inactive h]

theorem deleteRedundantSwift_succ (fuel depth : ℕ) (project : Project) :
    deleteRedundantSwift fuel monitor (depth + 1) project =
      some (.success, { project with swift := {} }) := by
  unfold deleteRedundantSwift deleteRedundantSwiftBy
  exact computeProjectSwift_of_inactive rfl fuel depth

theorem computeProjectSwift_of_error {reason : Status} (hact : project.swift.active = true)
    (hrefused : checkRedundantSwift monitor project (Swift.cleared project.swift) = .error reason)
    (fuel depth : ℕ) :
    computeProjectSwift fuel monitor (depth + 2) project =
      some (.success, { project with swift := {} }) := by
  have hrun : computeRedundantSwift fuel monitor project project.swift =
      some (reason, Swift.cleared project.swift) := by
    unfold computeRedundantSwift
    rw [if_neg (by simp [hact])]
    dsimp only
    unfold Swift.cleared at hrefused
    rw [hrefused]
    rfl
  unfold computeProjectSwift
  rw [hrun]
  dsimp only
  rw [if_neg (by simpa using checkRedundantSwift_error hrefused)]
  show ((deleteRedundantSwift fuel monitor (depth + 1) _).map _) = _
  rw [deleteRedundantSwift_succ, map_some, configRedundantSwift_of_inactive rfl]

/-- **Losing a ring changes nothing but the ring.** -/
theorem SwiftRemoved.eq (h : SwiftRemoved monitor project project') :
    project' = { project with swift := {} } := by
  cases h with
  | @delete fuel depth _ run =>
    cases depth with
    | zero => cases run
    | succ depth =>
      rw [deleteRedundantSwift_succ] at run
      exact (Prod.mk.inj (some.inj run)).2.symm
  | @drop fuel depth reason status _ active refused run =>
    match depth with
    | 0 => cases run
    | 1 =>
      -- one call is not enough
      unfold computeProjectSwift at run
      split at run
      · cases run
      · rename_i status' swift' hrun
        unfold computeRedundantSwift at hrun
        rw [if_neg (by simp [active])] at hrun
        dsimp only at hrun
        unfold Swift.cleared at refused
        rw [refused] at hrun
        obtain ⟨rfl, -⟩ := Prod.mk.inj (some.inj hrun)
        rw [if_neg (by simpa using checkRedundantSwift_error refused)] at run
        cases run
    | depth + 2 =>
      rw [computeProjectSwift_of_error active refused] at run
      exact (Prod.mk.inj (some.inj run)).2.symm

theorem nothingLeft_withSwift :
    NothingLeft removed { project with swift := swift } ↔ NothingLeft removed project :=
  ⟨fun h => ⟨h.roles, h.flags, h.priorities⟩, fun h => ⟨h.roles, h.flags, h.priorities⟩⟩

/-- **Nothing is left of a lost ring exactly when nothing was configured for one**: a ring
can always be deleted, a refused one is always dropped, and neither touches a role or a
table. -/
theorem nothingLeft_iff_of_removed (monitor : Monitor) (project : Project) :
    (∃ project', deleteRedundantSwift 0 monitor 1 project = some (.success, project') ∧
      SwiftRemoved monitor project project') ∧
    ∀ project', SwiftRemoved monitor project project' →
      (NothingLeft project.swift project' ↔ NothingLeft project.swift project) := by
  refine ⟨⟨_, deleteRedundantSwift_succ 0 0 project, .delete (deleteRedundantSwift_succ 0 0 _)⟩,
    fun project' h => ?_⟩
  rw [h.eq]
  exact nothingLeft_withSwift

/-- Without links the check does not find two between the roots. -/
theorem exists_checkRedundantSwift_error (hlinks : project.links = []) :
    ∃ reason, checkRedundantSwift monitor project swift = .error reason := by
  have hzero : (rootLinks monitor project swift).length = 0 := by
    unfold rootLinks
    rw [hlinks]
    rfl
  cases hcheck : checkRedundantSwift monitor project swift with
  | error reason => exact ⟨reason, rfl⟩
  | ok =>
    unfold checkRedundantSwift at hcheck
    cases hroot : project.getDeviceById swift.rootDevice with
    | none =>
      rw [hroot] at hcheck
      cases hcheck
    | some root =>
      cases hbackup : project.getDeviceById swift.backupRootDevice with
      | none =>
        rw [hroot, hbackup] at hcheck
        dsimp only at hcheck
        split_ifs at hcheck
      | some backupRoot =>
        rw [hroot, hbackup, hzero] at hcheck
        dsimp only at hcheck
        split_ifs at hcheck with _ _ htwo
        exact absurd (by decide) htwo

/-! ### What a configured ring leaves -/

end

/-- Two switches joined by two links. -/
def twoRoots : Project where
  devices :=
    [{ id := 1, ipAddress := "10.0.0.1", deviceType := .switch
       deviceProperty := { stpRstp := { rstp := true, swift := true } }
       interfaces := [{ deviceId := 1, interfaceId := 1, used := true },
         { deviceId := 1, interfaceId := 2, used := true }] },
     { id := 2, ipAddress := "10.0.0.2", deviceType := .switch
       deviceProperty := { stpRstp := { rstp := true, swift := true } }
       interfaces := [{ deviceId := 2, interfaceId := 1, used := true },
         { deviceId := 2, interfaceId := 2, used := true }] }]
  links :=
    [{ id := 1, sourceDeviceId := 1, sourceInterfaceId := 1, destinationDeviceId := 2,
       destinationInterfaceId := 1 },
     { id := 2, sourceDeviceId := 1, sourceInterfaceId := 2, destinationDeviceId := 2,
       destinationInterfaceId := 2 }]

/-- The ring of the two switches, before it is computed. -/
def twoRootsSwift : Swift := { rootDevice := 1, backupRootDevice := 2 }

theorem updateRedundantSwift_twoRoots :
    (updateRedundantSwift 4 {} 1 twoRoots twoRootsSwift).map (fun r =>
      (r.1, r.2.swift.active, r.2.swift.rootDevice, r.2.swift.backupRootDevice,
        r.2.devices.map (·.deviceRole))) =
      some (.success, true, 1, 2, [.swiftRoot, .swiftBackupRoot]) := by
  decide +kernel

/-- **The roles of a ring outlive it**, when it is deleted and when it is dropped because
its links are gone. -/
theorem not_nothingLeft_twoRoots : ∃ project,
    updateRedundantSwift 4 {} 1 twoRoots twoRootsSwift = some (.success, project) ∧
    (∃ project', deleteRedundantSwift 4 {} 1 project = some (.success, project') ∧
      ¬NothingLeft project.swift project') ∧
    ∃ project', computeProjectSwift 4 {} 2 { project with links := [] } =
        some (.success, project') ∧
      SwiftRemoved {} { project with links := [] } project' ∧
      ¬NothingLeft project.swift project' := by
  have hrun := updateRedundantSwift_twoRoots
  cases hupd : updateRedundantSwift 4 {} 1 twoRoots twoRootsSwift with
  | none =>
    rw [hupd] at hrun
    cases hrun
  | some r =>
    obtain ⟨status, project⟩ := r
    rw [hupd] at hrun
    simp only [map_some, some.injEq, Prod.mk.injEq] at hrun
    obtain ⟨rfl, hact, -, -, hroles⟩ := hrun
    have hleft : ∀ project', project'.devices = project.devices →
        ¬NothingLeft project.swift project' := by
      intro project' hdevs hnothing
      obtain ⟨device, hdev, hrole⟩ :
          ∃ device ∈ project.devices, device.deviceRole = .swiftRoot := by
        rw [← List.mem_map, hroles]
        exact List.mem_cons_self
      exact (hnothing.roles device (hdevs ▸ hdev)).1 hrole
    obtain ⟨reason, hrefused⟩ := @exists_checkRedundantSwift_error {}
      { project with links := [] } (Swift.cleared project.swift) rfl
    have hdrop := @computeProjectSwift_of_error {} { project with links := [] } reason hact
      hrefused 4 0
    refine ⟨project, rfl, ⟨_, deleteRedundantSwift_succ 4 0 project, hleft _ rfl⟩, _, hdrop,
      .drop hact hrefused hdrop, hleft _ rfl⟩

end Core
end Sebastian

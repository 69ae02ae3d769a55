/-
# Groups of devices

`core/src/act_core_group.cpp`: creating, updating, deleting and dissolving groups of devices.  A
group names its parent, and membership is kept on both sides: a group lists its devices, and a
device names its group.
-/

import Mathlib
import Sebastian.Core.Device
import Sebastian.Lib.Forest

namespace Sebastian
namespace Core

/-! ### The operations -/

/-- `QString::length`, in UTF-16 code units. -/
def textLength (text : String) : ℕ := (text.toList.map fun c =>
    if c.toNat < 0x10000 then 1 else 2).sum

/-- `CheckGroup` -/
def checkGroup (project : Project) (group : Group) : Except Status Unit :=
  if group.name.isEmpty then .error (.badRequest ⟨"Group name cannot be empty", []⟩)
  else if textLength group.name < 1 || textLength group.name > 63 then
    .error (.badRequest ⟨"Group name length must be between 1 and 63 characters", []⟩)
  else if (project.groups.vals.find? (·.name == group.name)).any (·.id != group.id) then
    .error (.badRequest ⟨"Group name %1 already exists", [.str group.name]⟩)
  else if group.parentId ≠ -1 ∧ project.groups.contains group.parentId = false then
    .error (.badRequest ⟨"Parent group id %1 not found", [.int group.parentId]⟩)
  else .ok ()

/-- The id of a group that comes without one: the first reading of the clock, in seconds, that no
group has. -/
def unusedTimestamp (groups : QMap ℤ Group) (readings : List ℕ) : Option ℤ :=
  (readings.map fun (now : ℕ) => (now : ℤ)).find? fun now => !groups.contains now

/-- `CreateGroup`.  It reads the clock until the id is not in use. -/
def createGroup (readings : List ℕ) (project : Project) (group : Group) :
    Except Failure Project := do
  atProject project (checkGroup project group)
  let id ←
    orStuck (if group.id = -1 then unusedTimestamp project.groups readings else some group.id)
  return { project with groups := project.groups.insert id { group with id := id } }

/-- `UpdateGroup` -/
def updateGroup (project : Project) (group : Group) : Except Failure Project := do
  atProject project (checkGroup project group)
  atProject project
    (if project.groups.contains group.id then
      .ok { project with groups := project.groups.insert group.id group }
    else .error (.badRequest ⟨"Group id %1 not found for update", [.int group.id]⟩))

/-- The groups with this parent. -/
def childGroups (groups : QMap ℤ Group) (groupId : ℤ) : List ℤ :=
  (groups.toList.filter fun entry => entry.2.parentId == groupId).map (·.1)

/-- "Find all descendants to delete": the search comes to each group at most once. -/
def groupsToDelete (groups : QMap ℤ Group) (groupId : ℤ) : Option (List ℤ) :=
  Forest.subtree (childGroups groups) (groups.size + 3) groupId

/-- "Collect all devices in these groups" -/
def devicesToDelete (groups : QMap ℤ Group) (groupIds : List ℤ) : List ℤ :=
  groupIds.flatMap fun id => ((groups[id]?).map (·.deviceIds)).getD []

/-- `DeleteGroup`, the devices of the groups. -/
def deleteGroupDevices (services : DeviceServices) (fuel : ℕ) (project : Project)
    (deviceIds : List ℤ) : Except Failure Project :=
  if deviceIds.isEmpty then .ok project else deleteDevices services fuel project deviceIds false

/-- `DeleteGroup` -/
def deleteGroup (services : DeviceServices) (fuel : ℕ) (project : Project) (groupId : ℤ) :
    Except Failure Project := do
  atProject project
    (if project.groups.contains groupId then .ok ()
    else .error (.badRequest ⟨"Delete group failed, cannot found group id %1", [.int groupId]⟩))
  let groupIds ← orStuck (groupsToDelete project.groups groupId)
  let project ← deleteGroupDevices services fuel project (devicesToDelete project.groups groupIds)
  return { project with groups := groupIds.foldl (fun groups id => groups.erase id) project.groups }

/-- `UnGroup`, one device of the group. -/
def regroupDevice (parentId : ℤ) (project : Project) (deviceId : ℤ) : Except Failure Project :=
  match project.getDeviceById deviceId with
  | none =>
    .error (.status (.badRequest ⟨"Ungroup failed, cannot found device id %1 in project",
      [.int deviceId]⟩) project)
  | some device =>
    let project := { project with
      devices :=
        (project.devices.remove { id := deviceId }).insert { device with groupId := parentId } }
    if parentId = -1 then .ok project
    else if project.groups.contains parentId then
      .ok { project with groups := enterMember project.groups parentId deviceId }
    else
      .error (.status (.badRequest ⟨"Ungroup failed, cannot found parent group id %1",
        [.int parentId]⟩) project)

/-- The subgroups of a group go to its parent. -/
def moveSubgroups (groups : QMap ℤ Group) (groupId parentId : ℤ) : QMap ℤ Group :=
  groups.map fun _ group =>
    if group.parentId = groupId then { group with parentId := parentId } else group

/-- `UnGroup` -/
def unGroup (project : Project) (groupId : ℤ) : Except Failure Project :=
  match project.groups[groupId]? with
  | none =>
    .error (.status (.badRequest ⟨"Ungroup failed, cannot found group id %1",
      [.int groupId]⟩) project)
  | some group => do
    let project ← group.deviceIds.foldlM (regroupDevice group.parentId) project
    return { project with
      groups := (moveSubgroups project.groups groupId group.parentId).erase groupId }

end Core
end Sebastian

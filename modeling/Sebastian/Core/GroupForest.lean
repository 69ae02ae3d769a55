/-
# The forest of device groups

Whether the groups of devices stay a forest that agrees with the devices, over a history of
requests (`core/src/act_core_group.cpp`, `core/src/act_core_device.cpp`).

Membership is kept on both sides and the tree as parent ids, so two things are carried along:
`GroupTree` for the parents and names, and `Membership` for the lists of devices, where a group may
be left out while its devices are being moved (`Membership Except`).  A request on a group that is
not `GroupKept` breaks them: `CheckGroup` accepts a parent from the group's own subtree,
  and any list
of devices (`not_forest_of_run`).  Otherwise they stay, and `DeleteGroup` removes exactly a subtree
and its devices (`forest_of_run`).
-/

import Sebastian.Core.DeviceHistory

namespace Sebastian
namespace Core

open ExceptRule Std.TreeMap Option QMap Set

/-! ### The forest -/

/-- The parent of a group, if it has one. -/
def parentOf (groups : QMap ℤ Group) (groupId : ℤ) : Option ℤ :=
  (groups[groupId]?).bind fun group => if group.parentId = -1 then none else some group.parentId

/-- **The groups form a forest:** each one stands under its own id, its parent exists and following
the parents comes to an end, and their names are different. -/
structure GroupTree (groups : QMap ℤ Group) : Prop where
  keyed : ∀ (id : ℤ) (group : Group), groups[id]? = some group → group.id = id
  id_ne : groups.contains (-1) = false
  parent : ∀ (id : ℤ) (group : Group), groups[id]? = some group →
    group.parentId = -1 ∨ groups.contains group.parentId = true
  rooted : ∀ id : ℤ, groups.contains id = true → Forest.Rooted (parentOf groups) id
  names : ∀ (id id' : ℤ) (group group' : Group), groups[id]? = some group →
    groups[id']? = some group' → group.name = group'.name → id = id'

/-- There is a device of this id in the group. -/
def InGroup (devices : List Device) (groupId deviceId : ℤ) : Prop :=
  ∃ device ∈ devices, device.id = deviceId ∧ device.groupId = groupId

/-- **Both sides agree on the members**, but for some groups: the devices a group lists are those
that name it, and a device names a group that exists or none. -/
structure Membership (except : Set ℤ) (groups : QMap ℤ Group) (devices : List Device) : Prop where
  nodup : ∀ (id : ℤ) (group : Group), groups[id]? = some group → id ∉ except →
    group.deviceIds.Nodup
  members : ∀ (id : ℤ) (group : Group), groups[id]? = some group → id ∉ except →
    ∀ deviceId, deviceId ∈ group.deviceIds ↔ InGroup devices id deviceId
  groupOf : ∀ groupId deviceId, InGroup devices groupId deviceId → groupId ≠ -1 →
    groups.contains groupId = true

/-- **The groups are a forest that agrees with the devices.** -/
structure GroupForest (project : Project) : Prop where
  tree : GroupTree project.groups
  membership : Membership ∅ project.groups project.devices

/-- A group of the subtree of another one. -/
abbrev InSubtree (groups : QMap ℤ Group) (rootId groupId : ℤ) : Prop :=
  Forest.Under (parentOf groups) rootId groupId

/-- **Exactly a subtree is gone**, with the devices of its groups. -/
structure SubtreeDeleted (project project' : Project) (groupId : ℤ) : Prop where
  inside : ∀ id : ℤ, InSubtree project.groups groupId id → project'.groups[id]? = none
  outside : ∀ id : ℤ, ¬InSubtree project.groups groupId id →
    project'.groups[id]? = project.groups[id]?
  devices : ∀ device, device ∈ project'.devices ↔
    device ∈ project.devices ∧ ¬InSubtree project.groups groupId device.groupId

/-- The list of devices of a group stays, and its parent is not in its subtree; a new group has no
devices. -/
def GroupKept (groups : QMap ℤ Group) (group : Group) : Prop :=
  match groups[group.id]? with
  | none => group.deviceIds = []
  | some stored =>
    group.deviceIds.Perm stored.deviceIds ∧ ¬InSubtree groups group.id group.parentId

/-- **A request that keeps the forest**, in this state of the project: what it writes to a group is
kept, and a device under the id of another one is in the group of that one or in none. -/
def KeepsForest (project : Project) : DeviceRequest → Prop
  | .createDevice device _ => device.id ≠ -1 → ∀ stored,
    project.getDeviceById device.id = some stored →
      device.groupId = -1 ∨ device.groupId = stored.groupId
  | .createGroup _ group => GroupKept project.groups group
  | .updateGroup group => GroupKept project.groups group
  | _ => True

variable {services : DeviceServices} {fuel : ℕ} {project project' : Project}
  {groups groups' : QMap ℤ Group} {devices : List Device} {device device' : Device}
  {except : Set ℤ} {id groupId deviceId : ℤ} {group : Group} {fromBag toBag : Bool}

/-! ### Lookups -/

theorem exists_of_contains_group (h : groups.contains id = true) :
    ∃ group : Group, groups[id]? = some group := by
  rw [contains_eq_isSome_getElem?] at h
  exact isSome_iff_exists.1 h

theorem contains_of_group (h : groups[id]? = some group) : groups.contains id = true := by
  rw [contains_eq_isSome_getElem?, h]
  rfl

theorem group_eq_none (h : groups.contains id = false) : groups[id]? = none :=
  getElem?_eq_none_of_contains_eq_false h

theorem parentOf_eq_some {p : ℤ} : parentOf groups id = some p ↔
    ∃ group : Group, groups[id]? = some group ∧ group.parentId ≠ -1 ∧ group.parentId = p := by
  unfold parentOf
  rw [bind_eq_some_iff]
  refine exists_congr fun group => and_congr_right fun _ => ?_
  by_cases hp : group.parentId = -1 <;> simp [hp]

theorem getElem?_insert_group (groups : QMap ℤ Group) (id id' : ℤ) (group : Group) :
    (groups.insert id group)[id']? = if id = id' then some group else groups[id']? := by
  rw [getElem?_insert]
  simp only [Std.compare_eq_iff_eq]

theorem contains_insert_group (groups : QMap ℤ Group) (id id' : ℤ) (group : Group) :
    (groups.insert id group).contains id' = (decide (id = id') || groups.contains id') := by
  by_cases h : id = id' <;> simp [contains_insert, h]

/-! ### The tree does not depend on the devices -/

/-- A group without its list of devices. -/
def withoutDevices (group : Group) : Group := { group with deviceIds := [] }

/-- The same groups but for their lists of devices. -/
def SameTree (groups groups' : QMap ℤ Group) : Prop :=
  ∀ id : ℤ, (groups'[id]?).map withoutDevices = (groups[id]?).map withoutDevices

theorem SameTree.refl (groups : QMap ℤ Group) : SameTree groups groups := fun _ => rfl

theorem SameTree.trans {groups'' : QMap ℤ Group} (h : SameTree groups groups')
    (h' : SameTree groups' groups'') : SameTree groups groups'' := fun id => (h' id).trans (h id)

theorem SameTree.symm (h : SameTree groups groups') : SameTree groups' groups :=
  fun id => (h id).symm

theorem SameTree.exists_group (h : SameTree groups groups') (hgroup : groups'[id]? = some group) :
    ∃ old : Group, groups[id]? = some old ∧ withoutDevices group = withoutDevices old := by
  have hid := h id
  rw [hgroup] at hid
  obtain ⟨old, hold, hsame⟩ := map_eq_some_iff.1 hid.symm
  exact ⟨old, hold, hsame.symm⟩

theorem withoutDevices_eq {x y : Group} (h : withoutDevices x = withoutDevices y) :
    x.id = y.id ∧ x.name = y.name ∧ x.parentId = y.parentId := by
  injection h with hid hname hparent
  exact ⟨hid, hname, hparent⟩

theorem SameTree.contains (h : SameTree groups groups') (id : ℤ) :
    groups'.contains id = groups.contains id := by
  have hid := congrArg isSome (h id)
  rw [isSome_map, isSome_map] at hid
  rw [contains_eq_isSome_getElem?, contains_eq_isSome_getElem?, hid]

theorem SameTree.parentOf (h : SameTree groups groups') : parentOf groups' = parentOf groups := by
  funext id
  have hid := h id
  unfold Core.parentOf
  cases hold : groups[id]? with
  | none =>
    rw [hold] at hid
    rw [map_eq_none_iff.1 hid]
  | some old =>
    rw [hold] at hid
    obtain ⟨new, hnew, hsame⟩ := map_eq_some_iff.1 hid
    rw [hnew]
    show (if new.parentId = -1 then none else some new.parentId) = _
    rw [(withoutDevices_eq hsame).2.2]
    rfl

/-- **A change of the lists of devices** keeps the tree. -/
theorem GroupTree.of_sameTree (h : GroupTree groups) (hsame : SameTree groups groups') :
    GroupTree groups' where
  keyed id group hgroup := by
    obtain ⟨old, hold, heq⟩ := hsame.exists_group hgroup
    rw [(withoutDevices_eq heq).1]
    exact h.keyed id old hold
  id_ne := by rw [hsame.contains]; exact h.id_ne
  parent id group hgroup := by
    obtain ⟨old, hold, heq⟩ := hsame.exists_group hgroup
    rw [(withoutDevices_eq heq).2.2, hsame.contains]
    exact h.parent id old hold
  rooted id hid := by
    rw [hsame.parentOf]
    rw [hsame.contains] at hid
    exact h.rooted id hid
  names id id' group group' hgroup hgroup' hname := by
    obtain ⟨old, hold, heq⟩ := hsame.exists_group hgroup
    obtain ⟨old', hold', heq'⟩ := hsame.exists_group hgroup'
    rw [(withoutDevices_eq heq).2.1, (withoutDevices_eq heq').2.1] at hname
    exact h.names id id' old old' hold hold' hname

theorem sameTree_update (f : List ℤ → List ℤ) (h : groups.contains groupId = true) :
    SameTree groups (groups.update groupId fun group =>
      { group with deviceIds := f group.deviceIds }) := by
  intro id
  rw [getElem?_update]
  split_ifs with hid
  · subst hid
    obtain ⟨stored, hstored⟩ := exists_of_contains_group h
    rw [value_of_getElem? hstored, hstored]
    rfl
  · rfl

theorem sameTree_enterMember (h : groupId ≠ -1 → groups.contains groupId = true) :
    SameTree groups (enterMember groups groupId deviceId) := by
  unfold enterMember
  split_ifs with hid
  · exact .refl _
  · exact sameTree_update (fun deviceIds => QSet.insert deviceIds deviceId) (h hid)

theorem sameTree_strikeMember (groups : QMap ℤ Group) (groupId deviceId : ℤ) :
    SameTree groups (strikeMember groups groupId deviceId) := by
  unfold strikeMember
  split_ifs with hid
  · exact sameTree_update (fun deviceIds => QSet.remove deviceIds deviceId) hid.2
  · exact .refl _

/-! ### A change of the members -/

theorem InGroup.mono {devices' : List Device} (h : InGroup devices groupId deviceId)
    (hsub : ∀ x ∈ devices, x ∈ devices') : InGroup devices' groupId deviceId := by
  obtain ⟨x, hx, hid, hgroup⟩ := h
  exact ⟨x, hsub x hx, hid, hgroup⟩

theorem inGroup_append_singleton : InGroup (devices ++ [device]) groupId deviceId ↔
    InGroup devices groupId deviceId ∨ device.id = deviceId ∧ device.groupId = groupId := by
  simp [InGroup, or_and_right, exists_or]

/-- A device that is taken out is in its group no more, when no other one has its id. -/
theorem inGroup_without {l₁ l₂ : List Device} (hids : ∀ x ∈ l₁ ++ l₂, x.id ≠ device.id) :
    InGroup (l₁ ++ l₂) groupId deviceId ↔
      InGroup (l₁ ++ device :: l₂) groupId deviceId ∧
        ¬(device.groupId = groupId ∧ deviceId = device.id) := by
  constructor
  · intro h
    refine ⟨h.mono fun x hx => ?_, fun hsame => ?_⟩
    · rw [List.mem_append] at hx ⊢
      exact hx.imp_right (List.mem_cons_of_mem _)
    · obtain ⟨x, hx, hid, -⟩ := h
      exact hids x hx (hid.trans hsame.2)
  · rintro ⟨⟨x, hx, hid, hgroup⟩, hother⟩
    rw [List.mem_append, List.mem_cons] at hx
    rcases hx with hx | rfl | hx
    · exact ⟨x, List.mem_append_left _ hx, hid, hgroup⟩
    · exact absurd ⟨hgroup, hid.symm⟩ hother
    · exact ⟨x, List.mem_append_right _ hx, hid, hgroup⟩

/-- What a group lists after a device was entered somewhere. -/
theorem enterMember_spec (hnone : groups.contains (-1) = false)
    (hcont : groupId ≠ -1 → groups.contains groupId = true)
    (hgroup : (enterMember groups groupId deviceId)[id]? = some group) :
    ∃ stored : Group, groups[id]? = some stored ∧
      (stored.deviceIds.Nodup → group.deviceIds.Nodup) ∧
      ∀ x, x ∈ group.deviceIds ↔ x ∈ stored.deviceIds ∨ groupId = id ∧ x = deviceId := by
  unfold enterMember at hgroup
  split_ifs at hgroup with hid
  · have hne : groupId ≠ id := by
      rintro rfl
      rw [hid] at hgroup
      rw [contains_of_group hgroup] at hnone
      cases hnone
    exact ⟨group, hgroup, fun h => h, fun x => by simp [hne]⟩
  · rw [getElem?_update] at hgroup
    split_ifs at hgroup with heq
    · subst heq
      obtain ⟨stored, hstored⟩ := exists_of_contains_group (hcont hid)
      rw [value_of_getElem? hstored] at hgroup
      cases hgroup
      exact ⟨stored, hstored, fun h => QSet.nodup_insert h _,
        fun x => by simp [QSet.mem_insert]⟩
    · exact ⟨group, hgroup, fun h => h, fun x => by simp [heq]⟩

/-- What a group lists after a device was struck off somewhere. -/
theorem strikeMember_spec (hnone : groups.contains (-1) = false)
    (hgroup : (strikeMember groups groupId deviceId)[id]? = some group) :
    ∃ stored : Group, groups[id]? = some stored ∧
      (stored.deviceIds.Nodup → group.deviceIds.Nodup ∧
        ∀ x, x ∈ group.deviceIds ↔ x ∈ stored.deviceIds ∧ ¬(groupId = id ∧ x = deviceId)) := by
  unfold strikeMember at hgroup
  split_ifs at hgroup with hid
  · rw [getElem?_update] at hgroup
    split_ifs at hgroup with heq
    · subst heq
      obtain ⟨stored, hstored⟩ := exists_of_contains_group hid.2
      rw [value_of_getElem? hstored] at hgroup
      cases hgroup
      refine ⟨stored, hstored, fun h => ⟨h.sublist List.eraseP_sublist, fun x => ?_⟩⟩
      show x ∈ List.eraseP (· == deviceId) stored.deviceIds ↔ _
      rw [← List.erase_eq_eraseP', h.mem_erase_iff]
      tauto
    · exact ⟨group, hgroup, fun h => ⟨h, fun x => by simp [heq]⟩⟩
  · have hne : groupId ≠ id := by
      rintro rfl
      have hcont := contains_of_group hgroup
      refine hid ⟨?_, hcont⟩
      rintro rfl
      rw [hcont] at hnone
      cases hnone
    exact ⟨group, hgroup, fun h => ⟨h, fun x => by simp [hne]⟩⟩

namespace Membership

theorem congr {devices' : List Device} (h : Membership except groups devices)
    (hsame : ∀ groupId deviceId,
      InGroup devices' groupId deviceId ↔ InGroup devices groupId deviceId) :
    Membership except groups devices' where
  nodup := h.nodup
  members id group hgroup hid deviceId := by
    rw [hsame]
    exact h.members id group hgroup hid deviceId
  groupOf groupId deviceId hin := h.groupOf groupId deviceId ((hsame _ _).1 hin)

/-- **A device is entered** in its group. -/
theorem enter {devices' : List Device} (h : Membership except groups devices)
    (hnone : groups.contains (-1) = false)
    (hcont : device.groupId ≠ -1 → groups.contains device.groupId = true)
    (hin : ∀ groupId deviceId, InGroup devices' groupId deviceId ↔
      InGroup devices groupId deviceId ∨ device.id = deviceId ∧ device.groupId = groupId) :
    Membership except (enterMember groups device.groupId device.id) devices' where
  nodup id group hgroup hid := by
    obtain ⟨stored, hstored, hnodup, -⟩ := enterMember_spec hnone hcont hgroup
    exact hnodup (h.nodup id stored hstored hid)
  members id group hgroup hid deviceId := by
    obtain ⟨stored, hstored, -, hmem⟩ := enterMember_spec hnone hcont hgroup
    rw [hmem, hin, h.members id stored hstored hid]
    refine or_congr_right ⟨fun hx => ⟨hx.2.symm, hx.1⟩, fun hx => ⟨hx.2, hx.1.symm⟩⟩
  groupOf groupId deviceId hx hne := by
    rw [(sameTree_enterMember hcont).contains]
    rcases (hin groupId deviceId).1 hx with hx | ⟨-, rfl⟩
    · exact h.groupOf groupId deviceId hx hne
    · exact hcont hne

/-- **A device is struck off** its group and taken out. -/
theorem strike {l₁ l₂ : List Device} (h : Membership except groups (l₁ ++ device :: l₂))
    (hnone : groups.contains (-1) = false) (hids : ∀ x ∈ l₁ ++ l₂, x.id ≠ device.id) :
    Membership except (strikeMember groups device.groupId device.id) (l₁ ++ l₂) where
  nodup id group hgroup hid := by
    obtain ⟨stored, hstored, hspec⟩ := strikeMember_spec hnone hgroup
    exact (hspec (h.nodup id stored hstored hid)).1
  members id group hgroup hid deviceId := by
    obtain ⟨stored, hstored, hspec⟩ := strikeMember_spec hnone hgroup
    rw [(hspec (h.nodup id stored hstored hid)).2, h.members id stored hstored hid,
      inGroup_without hids]
  groupOf groupId deviceId hx hne := by
    rw [(sameTree_strikeMember groups _ _).contains]
    exact h.groupOf groupId deviceId ((inGroup_without hids).1 hx).1 hne

end Membership

/-! ### A change of the tree -/

theorem GroupTree.ne_of_group (h : GroupTree groups) (hgroup : groups[id]? = some group) :
    id ≠ -1 := by
  rintro rfl
  have hcont := contains_of_group hgroup
  rw [h.id_ne] at hcont
  cases hcont

theorem GroupTree.contains_parentOf {p : ℤ} (h : GroupTree groups) (hp : parentOf groups id =
    some p) : groups.contains p = true := by
  obtain ⟨group, hgroup, hne, rfl⟩ := parentOf_eq_some.1 hp
  exact (h.parent id group hgroup).resolve_left hne

theorem GroupTree.not_inSubtree_of_fresh {p : ℤ} (h : GroupTree groups)
    (hfresh : groups.contains id = false) (hp : p ≠ id) : ¬InSubtree groups id p := by
  intro hunder
  rcases Relation.ReflTransGen.cases_tail hunder with rfl | ⟨y, -, hy⟩
  · exact hp rfl
  · have hcont := h.contains_parentOf hy
    rw [hfresh] at hcont
    cases hcont

theorem GroupTree.id_of_name (h : GroupTree groups) (hcheck : GroupChecked groups group)
    {existing : Group} (hexisting : groups[id]? = some existing)
    (hname : existing.name = group.name) : id = group.id := by
  have hsome : (groups.vals.find? (·.name == group.name)).isSome := by
    rw [List.find?_isSome]
    exact ⟨existing, mem_vals.2 ⟨id, hexisting⟩, by simpa using hname⟩
  obtain ⟨found, hfound⟩ := isSome_iff_exists.1 hsome
  obtain ⟨id', hid'⟩ := mem_vals.1 (List.mem_of_find?_eq_some hfound)
  have hsame : found.name = group.name := by simpa using List.find?_some hfound
  rw [h.names id id' existing found hexisting hid' (hname.trans hsame.symm),
    ← h.keyed id' found hid', hcheck.name found hfound]

/-- **A group that is written**, new or not, keeps the tree when it does not come into its own
subtree. -/
theorem GroupTree.insert (h : GroupTree groups) (hid : group.id ≠ -1)
    (hname : ∀ (id : ℤ) (existing : Group), groups[id]? = some existing →
      existing.name = group.name → id = group.id)
    (hparent : group.parentId ≠ -1 → groups.contains group.parentId = true)
    (hout : ¬InSubtree groups group.id group.parentId) :
    GroupTree (groups.insert group.id group) where
  keyed id stored hstored := by
    rw [getElem?_insert_group] at hstored
    split_ifs at hstored with heq
    · cases hstored
      exact heq
    · exact h.keyed id stored hstored
  id_ne := by
    rw [contains_insert_group, h.id_ne]
    simpa using hid
  parent id stored hstored := by
    rw [contains_insert_group]
    have hold : stored.parentId = -1 ∨ groups.contains stored.parentId = true := by
      rw [getElem?_insert_group] at hstored
      split_ifs at hstored with heq
      · cases hstored
        exact or_iff_not_imp_left.2 hparent
      · exact h.parent id stored hstored
    refine hold.imp_right fun hcont => ?_
    rw [hcont, Bool.or_true]
  rooted id hcont := by
    have hsame : ∀ x, x ≠ group.id →
        parentOf (groups.insert group.id group) x = parentOf groups x := by
      intro x hx
      unfold parentOf
      rw [getElem?_insert_group, if_neg fun e => hx e.symm]
    have hself : ∀ p, parentOf (groups.insert group.id group) group.id = some p →
        p = group.parentId ∧ p ≠ -1 := by
      intro p hp
      obtain ⟨stored, hstored, hne, rfl⟩ := parentOf_eq_some.1 hp
      rw [getElem?_insert_group, if_pos rfl] at hstored
      cases hstored
      exact ⟨rfl, hne⟩
    have hplace : ∀ p, parentOf (groups.insert group.id group) group.id = some p →
        Forest.Rooted (parentOf groups) p ∧ ¬InSubtree groups group.id p := by
      intro p hp
      obtain ⟨rfl, hne⟩ := hself p hp
      exact ⟨h.rooted _ (hparent hne), hout⟩
    by_cases hx : groups.contains id = true
    · exact (h.rooted id hx).rehang hsame hplace
    · rw [contains_insert_group, Bool.eq_false_of_not_eq_true hx] at hcont
      obtain rfl : group.id = id := by simpa using hcont
      cases hp : parentOf (groups.insert group.id group) group.id with
      | none => exact .root hp
      | some p => exact .child hp ((hplace p hp).1.of_not_under hsame (hplace p hp).2)
  names id id' x y hx hy hxy := by
    rw [getElem?_insert_group] at hx hy
    split_ifs at hx hy with hid hid'
    · exact hid.symm.trans hid'
    · cases hx
      rw [← hid]
      exact (hname id' y hy hxy.symm).symm
    · cases hy
      rw [hname id x hx hxy]
      assumption
    · exact h.names id id' x y hx hy hxy

/-- **Groups that are erased** with all that is below them keep the tree. -/
theorem GroupTree.of_erased (h : GroupTree groups) {gone : ℤ → Prop}
    (hgone : ∀ id, gone id → groups'[id]? = none)
    (hkept : ∀ id, ¬gone id → groups'[id]? = groups[id]?)
    (hbelow : ∀ id p, parentOf groups id = some p → gone p → gone id) : GroupTree groups' := by
  have hold : ∀ (id : ℤ) (group : Group), groups'[id]? = some group →
      groups[id]? = some group ∧ ¬gone id := by
    intro id group hgroup
    have hstays : ¬gone id := by
      intro hid
      rw [hgone id hid] at hgroup
      cases hgroup
    exact ⟨(hkept id hstays).symm.trans hgroup, hstays⟩
  have hcont : ∀ id, ¬gone id → groups.contains id = true → groups'.contains id = true := by
    intro id hstays hid
    obtain ⟨group, hgroup⟩ := exists_of_contains_group hid
    exact contains_of_group ((hkept id hstays).trans hgroup)
  have hparentOf : ∀ id, parentOf groups' id = none ∨ parentOf groups' id = parentOf groups id := by
    intro id
    unfold parentOf
    by_cases hid : gone id
    · rw [hgone id hid]
      exact .inl rfl
    · rw [hkept id hid]
      exact .inr rfl
  refine ⟨fun id group hgroup => h.keyed id group (hold id group hgroup).1, ?_,
    fun id group hgroup => ?_, fun id hid => ?_, fun id id' group group' hgroup hgroup' =>
      h.names id id' group group' (hold id group hgroup).1 (hold id' group' hgroup').1⟩
  · rw [← Bool.not_eq_true]
    intro hone
    obtain ⟨group, hgroup⟩ := exists_of_contains_group hone
    exact h.ne_of_group (hold _ group hgroup).1 rfl
  · obtain ⟨hgroup, hstays⟩ := hold id group hgroup
    refine or_iff_not_imp_left.2 fun hne => ?_
    refine hcont _ (fun hp => hstays (hbelow id group.parentId ?_ hp))
      ((h.parent id group hgroup).resolve_left hne)
    exact parentOf_eq_some.2 ⟨group, hgroup, hne, rfl⟩
  · obtain ⟨group, hgroup⟩ := exists_of_contains_group hid
    exact (h.rooted id (contains_of_group (hold id group hgroup).1)).prune hparentOf

/-! ### Groups that are dissolved -/

theorem getElem?_moveSubgroups (groups : QMap ℤ Group) (groupId parentId id : ℤ) :
    (moveSubgroups groups groupId parentId)[id]? = (groups[id]?).map fun group =>
      if group.parentId = groupId then { group with parentId := parentId } else group := by
  unfold moveSubgroups
  rw [getElem?_map]

/-- What a group is after another one was dissolved. -/
theorem exists_of_moveSubgroups {parentId : ℤ}
    (h : (moveSubgroups groups groupId parentId)[id]? = some group) :
    ∃ stored : Group, groups[id]? = some stored ∧ group.id = stored.id ∧ group.name = stored.name ∧
      group.deviceIds = stored.deviceIds ∧
      group.parentId = if stored.parentId = groupId then parentId else stored.parentId := by
  rw [getElem?_moveSubgroups] at h
  obtain ⟨stored, hstored, rfl⟩ := map_eq_some_iff.1 h
  refine ⟨stored, hstored, ?_⟩
  split_ifs <;> exact ⟨rfl, rfl, rfl, rfl⟩

theorem contains_moveSubgroups (groups : QMap ℤ Group) (groupId parentId id : ℤ) :
    (moveSubgroups groups groupId parentId).contains id = groups.contains id := by
  rw [contains_eq_isSome_getElem?, contains_eq_isSome_getElem?,
    getElem?_moveSubgroups, isSome_map]

/-- The subgroups of a dissolved group go to its parent. -/
theorem parentOf_moveSubgroups (hgroup : groups[groupId]? = some group) (hne : groupId ≠ -1)
    (id : ℤ) : parentOf (moveSubgroups groups groupId group.parentId) id =
      if parentOf groups id =
        some groupId then parentOf groups groupId else parentOf groups id := by
  unfold parentOf
  rw [getElem?_moveSubgroups, hgroup]
  cases groups[id]? with
  | none => rfl
  | some stored =>
    by_cases hmoved : stored.parentId = groupId
    · simp [hmoved, hne]
    · rw [map_some, bind_some, bind_some, if_neg hmoved]
      by_cases hroot : stored.parentId = -1 <;> simp [hmoved, hroot]

/-- **A group that is dissolved** keeps the tree. -/
theorem GroupTree.moveSubgroups (h : GroupTree groups) (hgroup : groups[groupId]? = some group) :
    GroupTree ((moveSubgroups groups groupId group.parentId).erase groupId) := by
  have hne := h.ne_of_group hgroup
  have hparentOf := parentOf_moveSubgroups hgroup hne
  have hup : group.parentId ≠ groupId := by
    intro heq
    have hself : parentOf groups groupId = some groupId :=
      parentOf_eq_some.2 ⟨group, hgroup, by rwa [heq], heq⟩
    exact (h.rooted groupId (contains_of_group hgroup)).not_under_parent hself (.refl _)
  have hmoved : GroupTree (Core.moveSubgroups groups groupId group.parentId) := by
    refine ⟨fun id x hx => ?_, ?_, fun id x hx => ?_, fun id hid => ?_, fun id id' x y hx hy => ?_⟩
    · obtain ⟨stored, hstored, hid, -⟩ := exists_of_moveSubgroups hx
      rw [hid]
      exact h.keyed id stored hstored
    · rw [contains_moveSubgroups]
      exact h.id_ne
    · obtain ⟨stored, hstored, -, -, -, hp⟩ := exists_of_moveSubgroups hx
      rw [contains_moveSubgroups, hp]
      split_ifs
      · exact h.parent groupId group hgroup
      · exact h.parent id stored hstored
    · rw [contains_moveSubgroups] at hid
      exact (h.rooted id hid).splice hparentOf
    · obtain ⟨stored, hstored, -, hname, -⟩ := exists_of_moveSubgroups hx
      obtain ⟨stored', hstored', -, hname', -⟩ := exists_of_moveSubgroups hy
      rw [hname, hname']
      exact h.names id id' stored stored' hstored hstored'
  -- no group is left whose parent is the dissolved one
  refine @GroupTree.of_erased _ _ hmoved (· = groupId) (fun id hid => ?_) (fun id hid => ?_)
    fun id p hp hgone => ?_
  · rw [hid, getElem?_erase, if_pos Std.ReflCmp.compare_self]
  · rw [getElem?_erase, if_neg (by simpa using fun e : groupId = id => hid e.symm)]
  · subst hgone
    rw [hparentOf] at hp
    split_ifs at hp with hchild
    · obtain ⟨stored, hstored, -, hsame⟩ := parentOf_eq_some.1 hp
      rw [hgroup] at hstored
      cases hstored
      exact absurd hsame hup
    · exact absurd hp hchild

/-! ### The requests on devices -/

theorem NewProject.groupForest (h : NewProject project) : GroupForest project := by
  have hnone : ∀ id : ℤ, project.groups[id]? = none := by
    intro id
    rw [h.groups, getElem?_emptyc]
  have hany : ∀ (id : ℤ) (group : Group), project.groups[id]? ≠ some group := by
    intro id group hgroup
    rw [hnone] at hgroup
    cases hgroup
  have hcont : ∀ id : ℤ, project.groups.contains id = false := by
    intro id
    rw [contains_eq_isSome_getElem?, hnone]
    rfl
  refine ⟨⟨fun id group hgroup => absurd hgroup (hany id group), hcont _,
    fun id group hgroup => absurd hgroup (hany id group), fun id hid => ?_,
    fun id _ group _ hgroup => absurd hgroup (hany id group)⟩,
    ⟨fun id group hgroup => absurd hgroup (hany id group),
      fun id group hgroup => absurd hgroup (hany id group), fun groupId deviceId hin => ?_⟩⟩
  · rw [hcont] at hid
    cases hid
  · obtain ⟨device, hdev, -⟩ := hin
    rw [h.devices] at hdev
    cases hdev

theorem Membership.removeDevice (hplain : Plain services project)
    (h : Membership except project.groups project.devices)
    (hnone : project.groups.contains (-1) = false)
    (hfound : project.getDeviceById deviceId = some device) :
    Membership except (strikeMember project.groups device.groupId device.id)
      (removeDevice services project device).devices := by
  obtain ⟨-, l₁, l₂, hsplit, hid, hdevs, hids⟩ := removeDevice_devices hplain.devices hfound
  rw [hdevs]
  rw [hsplit] at h
  exact h.strike hnone fun x hx => by rw [hid]; exact hids x hx

/-- **A device that is created** enters its group, or changes nothing when its id was in use. -/
theorem Entered.groupForest (hplain : Plain services project) (h : GroupForest project)
    (hent : Entered services project device device' project')
    (hkept : KeepsForest project (.createDevice device fromBag)) : GroupForest project' := by
  have hstored := (hent.stored hplain.devices).2
  obtain ⟨hplaced, -, hcont, counter, vlanTables, rstpTables, rfl⟩ := hent
  have htree : GroupTree (enterMember project.groups device'.groupId device'.id) :=
    h.tree.of_sameTree (sameTree_enterMember hcont)
  refine ⟨htree, ?_⟩
  rcases hstored with ⟨-, hdevs⟩ | ⟨⟨x, hx, hid⟩, hdevs⟩
  · show Membership ∅ _ (insertDevice services project device').devices
    rw [show (insertDevice services project device').devices = project.devices ++ [device'] from
      hdevs]
    exact h.membership.enter h.tree.id_ne hcont fun _ _ => inGroup_append_singleton
  · show Membership ∅ _ (insertDevice services project device').devices
    rw [show (insertDevice services project device').devices = project.devices from hdevs]
    have hne : device.id ≠ -1 := by
      intro hnone
      exact (find_device_eq_none hplain.devices.wellFormed.address).1
        (hplaced.id_of_eq hnone).1 x hx
        hid
    have hfound : project.getDeviceById device.id = some x := by
      rw [← hplaced.id_of_ne hne, ← hid]
      exact hplain.devices.wellFormed.getDeviceById hx rfl
    rcases hkept hne x hfound with hroot | hsame
    · rw [hplaced.groupId, hroot, enterMember, if_pos rfl]
      exact h.membership
    · refine h.membership.enter h.tree.id_ne hcont fun groupId deviceId => ?_
      rw [hplaced.groupId, hsame, ← hid]
      exact ⟨.inl, fun hin => hin.elim (fun hin => hin) fun hself => ⟨x, hx, hself⟩⟩

theorem moveMember_none (groups : QMap ℤ Group) (groupId deviceId : ℤ) :
    moveMember groups (-1) groupId deviceId = enterMember groups groupId deviceId := by
  have hstrike : strikeMember groups (-1) deviceId = groups := by
    rw [strikeMember, if_neg fun hne => hne.1 rfl]
  rw [moveMember, hstrike]
  split_ifs with hroot
  · rw [enterMember, if_pos hroot.symm]
  · rfl

theorem sameTree_moveMember {oldGroupId : ℤ} (hcont : oldGroupId ≠ groupId → groupId ≠ -1 →
      (strikeMember groups oldGroupId deviceId).contains groupId = true) :
    SameTree groups (moveMember groups oldGroupId groupId deviceId) := by
  unfold moveMember
  split_ifs with hsame
  · exact .refl _
  · exact (sameTree_strikeMember groups oldGroupId deviceId).trans
      (sameTree_enterMember (hcont hsame))

/-- **A device that is replaced** leaves the old group and enters the new one. -/
theorem Membership.replace {l₁ l₂ : List Device}
    (h : Membership except groups (l₁ ++ device :: l₂)) (hnone : groups.contains (-1) = false)
    (hids : ∀ x ∈ l₁ ++ l₂, x.id ≠ device.id) (hid : device'.id = device.id)
    (hcont : device.groupId ≠ device'.groupId → device'.groupId ≠ -1 →
      (strikeMember groups device.groupId device'.id).contains device'.groupId = true) :
    Membership except (moveMember groups device.groupId device'.groupId device'.id)
      (l₁ ++ l₂ ++ [device']) := by
  unfold moveMember
  split_ifs with hsame
  · refine h.congr fun groupId deviceId => ?_
    rw [inGroup_append_singleton, inGroup_without hids, hid, ← hsame]
    constructor
    · rintro (hin | ⟨rfl, rfl⟩)
      · exact hin.1
      · exact ⟨device, by simp, rfl, rfl⟩
    · intro hin
      by_cases hown : device.groupId = groupId ∧ deviceId = device.id
      · exact .inr ⟨hown.2.symm, hown.1⟩
      · exact .inl ⟨hin, hown⟩
  · have hstruck := h.strike hnone hids
    have htree := sameTree_strikeMember groups device.groupId device.id
    rw [hid] at hcont ⊢
    rw [← hid] at hstruck htree hcont ⊢
    exact hstruck.enter (by rw [htree.contains]; exact hnone) (hcont hsame)
      fun _ _ => inGroup_append_singleton

/-- **A device that is updated** goes from its old group to its new one. -/
theorem Replaced.groupForest (hplain : Plain services project) (h : GroupForest project)
    (hrepl : Replaced services (takeDevice services project device.id).1
      (takeDevice services project device.id).2 device device' project') :
        GroupForest project' := by
  obtain ⟨horder, hids, hcases⟩ := takeDevice_spec hplain.devices device.id
  obtain ⟨-, hown, hdevs⟩ := hrepl.stored horder hids
  have hcont := hrepl.group
  have hgroups : project'.groups = moveMember (takeDevice services project device.id).2.groups
      (takeDevice services project device.id).1.groupId device'.groupId device'.id := by
    obtain ⟨counter, vlanTables, rstpTables, rfl⟩ := hrepl.project
    rfl
  have hkeeps := hrepl.placed.id_of_ne
  clear hrepl
  rcases hcases with ⟨-, htaken⟩ | ⟨l₁, deleted, l₂, hsplit, hid, htaken⟩ <;>
    rw [htaken] at hdevs hcont hgroups hown <;> dsimp only at hdevs hcont hgroups hown
  · rw [moveMember_none] at hgroups
    have henter : device'.groupId ≠ -1 → project.groups.contains device'.groupId = true := by
      intro hne
      have hmember := hcont (fun e => hne e.symm) hne
      rwa [(sameTree_strikeMember _ _ _).contains] at hmember
    refine ⟨?_, ?_⟩
    · rw [hgroups]
      exact h.tree.of_sameTree (sameTree_enterMember henter)
    · rw [hgroups, hdevs]
      exact h.membership.enter h.tree.id_ne henter fun _ _ => inGroup_append_singleton
  · have hmem : deleted ∈ project.devices := by
      rw [hsplit]
      simp
    have hsame : device'.id = deleted.id := by
      rw [hid]
      exact hkeeps (by rw [← hid]; exact hplain.devices.id_ne deleted hmem)
    have hmembership := h.membership
    rw [hsplit] at hmembership
    refine ⟨?_, ?_⟩
    · rw [hgroups]
      exact h.tree.of_sameTree (sameTree_moveMember hcont)
    · rw [hgroups, hdevs]
      exact hmembership.replace h.tree.id_ne (fun x hx => by rw [← hsame]; exact hown x hx) hsame
        hcont

/-- **What the loop of `DeleteDevices` has done** after some ids. -/
structure Cleared (services : DeviceServices) (start : Project) (deviceIds : List ℤ)
    (project : Project) : Prop where
  plain : Plain services project
  membership : Membership ∅ project.groups project.devices
  tree : SameTree start.groups project.groups
  devices : ∀ x, x ∈ project.devices ↔ x ∈ start.devices ∧ x.id ∉ deviceIds
  groups : ∀ id : ℤ, (∀ x ∈ start.devices, x.id ∈ deviceIds → x.groupId ≠ id) →
    project.groups[id]? = start.groups[id]?

theorem Cleared.step {start : Project} {deviceIds : List ℤ} (hforest : GroupForest start)
    (h : Cleared services start deviceIds project)
    (hstep : Core.deleteDevicesStep services toBag project deviceId = .ok project') :
    Cleared services start (deviceIds ++ [deviceId]) project' := by
  have hnone : project.groups.contains (-1) = false := by
    rw [h.tree.contains]
    exact hforest.tree.id_ne
  have hplain := h.plain.deleteDevicesStep hstep
  obtain ⟨device, skus, hfound, -, rfl⟩ := deleteDevicesStep_ok hstep
  obtain ⟨-, l₁, l₂, hsplit, hid, hdevs, hids⟩ := removeDevice_devices h.plain.devices hfound
  refine ⟨hplain, h.membership.removeDevice h.plain hnone hfound,
    h.tree.trans (sameTree_strikeMember _ _ _), fun x => ?_, fun id hout => ?_⟩
  · show x ∈ (removeDevice services project device).devices ↔ _
    have hx : x ∈ project.devices ↔ x ∈ l₁ ++ l₂ ∨ x = device := by
      rw [hsplit, List.mem_append, List.mem_append, List.mem_cons]
      tauto
    rw [hdevs, List.mem_append (s := deviceIds), List.mem_singleton, not_or, ← and_assoc,
      ← h.devices, hx]
    constructor
    · exact fun hin => ⟨.inl hin, hids x hin⟩
    · rintro ⟨hin | rfl, hne⟩
      · exact hin
      · exact absurd hid hne
  · have hmem : device ∈ start.devices := by
      refine ((h.devices device).1 ?_).1
      rw [hsplit]
      simp
    have hne : device.groupId ≠ id := hout device hmem (by rw [hid]; simp)
    have hkept : (strikeMember project.groups device.groupId device.id)[id]? =
        project.groups[id]? := by
      unfold strikeMember
      split_ifs
      · rw [getElem?_update, if_neg hne]
      · rfl
    exact hkept.trans (h.groups id fun x hx hin => hout x hx (List.mem_append_left _ hin))

/-- **The loop of `DeleteDevices`** takes out the devices of the ids, and nothing else. -/
theorem cleared_of_foldlM {deviceIds : List ℤ} (hplain : Plain services project)
    (h : GroupForest project)
    (hloop : deviceIds.foldlM (Core.deleteDevicesStep services toBag) project = .ok project') :
    Cleared services project deviceIds project' := by
  refine @foldlM_rule_passed _ _ _ _ (Cleared services project) _ _ _ hloop
    ⟨hplain, h.membership, .refl _, fun x => by simp, fun _ _ => rfl⟩ ?_
  intro passed deviceId rest c c' _ hc hstep
  exact hc.step h hstep

/-! ### The requests on groups -/

theorem Membership.insertNew (h : Membership ∅ groups devices)
    (hid : group.id ≠ -1) (hfresh : groups.contains group.id = false)
    (hempty : group.deviceIds = []) : Membership ∅ (groups.insert group.id group) devices where
  nodup id stored hstored _ := by
    rw [getElem?_insert_group] at hstored
    split_ifs at hstored with heq
    · cases hstored
      rw [hempty]
      exact List.nodup_nil
    · exact h.nodup id stored hstored (notMem_empty id)
  members id stored hstored _ deviceId := by
    rw [getElem?_insert_group] at hstored
    split_ifs at hstored with heq
    · cases hstored
      rw [hempty, ← heq]
      refine ⟨fun hin => absurd hin List.not_mem_nil, fun hin => ?_⟩
      have hcont := h.groupOf _ _ hin hid
      rw [hfresh] at hcont
      cases hcont
    · exact h.members id stored hstored (notMem_empty id) deviceId
  groupOf groupId deviceId hin hne := by
    rw [contains_insert_group, h.groupOf groupId deviceId hin hne, Bool.or_true]

theorem Membership.insertKept {stored : Group} (h : Membership ∅ groups devices)
    (hstored : groups[group.id]? = some stored) (hperm : group.deviceIds.Perm stored.deviceIds) :
    Membership ∅ (groups.insert group.id group) devices where
  nodup id x hx _ := by
    rw [getElem?_insert_group] at hx
    split_ifs at hx with heq
    · cases hx
      exact hperm.nodup_iff.2 (h.nodup _ stored hstored (notMem_empty _))
    · exact h.nodup id x hx (notMem_empty id)
  members id x hx _ deviceId := by
    rw [getElem?_insert_group] at hx
    split_ifs at hx with heq
    · cases hx
      rw [hperm.mem_iff, ← heq]
      exact h.members _ stored hstored (notMem_empty _) deviceId
    · exact h.members id x hx (notMem_empty id) deviceId
  groupOf groupId deviceId hin hne := by
    rw [contains_insert_group, h.groupOf groupId deviceId hin hne, Bool.or_true]

/-- **A group that is written**, new or not, keeps the forest when it is kept itself. -/
theorem GroupForest.insert (h : GroupForest project) (hcheck : GroupChecked project.groups group)
    (hid : group.id ≠ -1) (hkept : GroupKept project.groups group) :
    GroupForest { project with groups := project.groups.insert group.id group } := by
  have hname := fun id existing => @GroupTree.id_of_name _ id _ h.tree hcheck existing
  unfold GroupKept at hkept
  cases hstored : project.groups[group.id]? with
  | none =>
    rw [hstored] at hkept
    have hfresh : project.groups.contains group.id = false := by
      rw [contains_eq_isSome_getElem?, hstored]
      rfl
    have hne : group.parentId ≠ group.id := by
      intro heq
      have hcont := hcheck.parent (by rwa [heq])
      rw [heq, hfresh] at hcont
      cases hcont
    exact ⟨h.tree.insert hid hname hcheck.parent (h.tree.not_inSubtree_of_fresh hfresh hne),
      h.membership.insertNew hid hfresh hkept⟩
  | some stored =>
    rw [hstored] at hkept
    exact ⟨h.tree.insert hid hname hcheck.parent hkept.2, h.membership.insertKept hstored hkept.1⟩

/-- **A group that is created** is new, or replaces the one of its id. -/
theorem GroupForest.createGroup {readings : List ℕ} (h : GroupForest project)
    (hkept : GroupKept project.groups group)
    (hexec : Core.createGroup readings project group = .ok project') : GroupForest project' := by
  obtain ⟨hcheck, id, hown, hfresh, rfl⟩ := createGroup_ok hexec
  by_cases hid : group.id = -1
  · obtain ⟨hcont, hlow⟩ := hfresh hid
    have hnone := group_eq_none h.tree.id_ne
    refine @GroupForest.insert _ { group with id := id } h ⟨fun existing hfound => ?_,
      hcheck.parent⟩ (show id ≠ -1 by omega) ?_
    · -- the name was checked before the group had its id
      obtain ⟨id', hid'⟩ := mem_vals.1 (List.mem_of_find?_eq_some hfound)
      have hminus := hcheck.name existing hfound
      rw [h.tree.keyed id' existing hid', hid] at hminus
      exact absurd hminus (h.tree.ne_of_group hid')
    · unfold GroupKept at hkept ⊢
      rw [hid, hnone] at hkept
      rw [group_eq_none hcont]
      exact hkept
  · obtain rfl := hown hid
    exact h.insert hcheck hid hkept

theorem GroupForest.updateGroup (h : GroupForest project) (hkept : GroupKept project.groups group)
    (hexec : Core.updateGroup project group = .ok project') : GroupForest project' := by
  obtain ⟨hcheck, hcont, rfl⟩ := updateGroup_ok hexec
  obtain ⟨stored, hstored⟩ := exists_of_contains_group hcont
  exact h.insert hcheck (h.tree.ne_of_group hstored) hkept

theorem contains_of_inSubtree {x : ℤ} (hroot : groups.contains groupId = true)
    (hx : InSubtree groups groupId x) : groups.contains x = true := by
  rcases Forest.under_iff.1 hx with rfl | ⟨p, hp, -⟩
  · exact hroot
  · obtain ⟨group, hgroup, -⟩ := parentOf_eq_some.1 hp
    exact contains_of_group hgroup

theorem mem_childGroups {x y : ℤ} :
    y ∈ childGroups groups x ↔ ∃ group : Group, groups[y]? = some group ∧ group.parentId = x := by
  unfold childGroups
  simp only [List.mem_map, List.mem_filter, beq_iff_eq, Prod.exists, exists_and_right,
    exists_eq_right, mem_toList_iff_getElem?_eq_some]

/-- **The groups that `DeleteGroup` collects** are the subtree. -/
theorem GroupTree.exists_groupsToDelete (h : GroupTree groups)
    (hroot : groups.contains groupId = true) :
    ∃ groupIds, groupsToDelete groups groupId = some groupIds ∧
      ∀ x, x ∈ groupIds ↔ InSubtree groups groupId x := by
  have hchildren : ∀ x, InSubtree groups groupId x →
      ∀ y, y ∈ childGroups groups x ↔ parentOf groups y = some x := by
    intro x hx y
    obtain ⟨group, hgroup⟩ := exists_of_contains_group (contains_of_inSubtree hroot hx)
    have hne := h.ne_of_group hgroup
    rw [mem_childGroups, parentOf_eq_some]
    refine exists_congr fun child => and_congr_right fun _ => ?_
    exact ⟨fun hp => ⟨by rwa [hp], hp⟩, fun hp => hp.2⟩
  have hnodes : ∀ x y, parentOf groups x = some y → x ∈ groups.keys.toFinset := by
    intro x y hy
    obtain ⟨group, hgroup, -⟩ := parentOf_eq_some.1 hy
    exact List.mem_toFinset.2 (mem_keys_iff.2 ⟨group, hgroup⟩)
  have hcard : groups.keys.toFinset.card ≤ groups.size := by
    rw [← length_keys]
    exact List.toFinset_card_le _
  obtain ⟨groupIds, hlist, -, hmem⟩ := Forest.exists_subtree groupId hchildren _ hnodes
    (show groups.keys.toFinset.card + 2 < groups.size + 3 by omega)
  exact ⟨groupIds, hlist, hmem⟩

theorem getElem?_foldl_erase (groupIds : List ℤ) (groups : QMap ℤ Group) (id : ℤ) :
    (groupIds.foldl (fun groups id => groups.erase id) groups)[id]? =
      if id ∈ groupIds then none else groups[id]? := by
  induction groupIds generalizing groups with
  | nil => simp
  | cons a groupIds ih =>
    rw [List.foldl_cons, ih, getElem?_erase]
    by_cases ha : a = id
    · simp [ha]
    · simp [ha, Ne.symm ha]

/-- The devices that `DeleteGroup` collects are those of the subtree. -/
theorem GroupForest.mem_devicesToDelete (hplain : Plain services project) (h : GroupForest project)
    {groupIds : List ℤ} (hroot : project.groups.contains groupId = true)
    (hlist : ∀ x, x ∈ groupIds ↔ InSubtree project.groups groupId x)
    (hdev : device ∈ project.devices) : device.id ∈ devicesToDelete project.groups groupIds ↔
      InSubtree project.groups groupId device.groupId := by
  unfold devicesToDelete
  rw [List.mem_flatMap]
  constructor
  · rintro ⟨id, hid, hmem⟩
    have hin := (hlist id).1 hid
    obtain ⟨group, hgroup⟩ := exists_of_contains_group (contains_of_inSubtree hroot hin)
    rw [hgroup] at hmem
    obtain ⟨x, hx, hsame, rfl⟩ :=
      (h.membership.members id group hgroup (notMem_empty id) device.id).1 hmem
    rwa [hplain.devices.wellFormed.eq_of_id hx hdev hsame] at hin
  · intro hin
    obtain ⟨group, hgroup⟩ := exists_of_contains_group (contains_of_inSubtree hroot hin)
    refine ⟨device.groupId, (hlist _).2 hin, ?_⟩
    rw [hgroup]
    exact (h.membership.members _ group hgroup (notMem_empty _) device.id).2
      ⟨device, hdev, rfl, rfl⟩

/-- **`DeleteGroup` removes exactly a subtree** and its devices, and the forest stays. -/
theorem GroupForest.deleteGroup (hplain : Plain services project) (h : GroupForest project)
    (hexec : Core.deleteGroup services fuel project groupId = .ok project') :
    GroupForest project' ∧ SubtreeDeleted project project' groupId := by
  obtain ⟨groupIds, rest, vlanTables, rstpTables, hroot, hfound, hloop, rfl⟩ :=
    deleteGroup_ok hplain.toBare hexec
  obtain ⟨listed, hlisted, hlist⟩ := h.tree.exists_groupsToDelete hroot
  rw [hfound] at hlisted
  cases hlisted
  have hcleared := cleared_of_foldlM hplain h hloop
  have hcollected : ∀ x ∈ project.devices, x.id ∈ devicesToDelete project.groups groupIds ↔
      InSubtree project.groups groupId x.groupId := fun x hx =>
    h.mem_devicesToDelete hplain hroot hlist hx
  have hinside : ∀ id : ℤ, InSubtree project.groups groupId id →
      (groupIds.foldl (fun groups id => groups.erase id) rest.groups)[id]? = none := by
    intro id hid
    rw [getElem?_foldl_erase, if_pos ((hlist id).2 hid)]
  have hrest : ∀ id : ℤ, ¬InSubtree project.groups groupId id →
      (groupIds.foldl (fun groups id => groups.erase id) rest.groups)[id]? = rest.groups[id]? := by
    intro id hid
    rw [getElem?_foldl_erase, if_neg fun hmem => hid ((hlist id).1 hmem)]
  have houtside : ∀ id : ℤ, ¬InSubtree project.groups groupId id →
      (groupIds.foldl (fun groups id => groups.erase id) rest.groups)[id]? =
        project.groups[id]? := by
    intro id hid
    rw [hrest id hid]
    refine hcleared.groups id fun x hx hmem => ?_
    rintro rfl
    exact hid ((hcollected x hx).1 hmem)
  have hdevs : ∀ x, x ∈ rest.devices ↔
      x ∈ project.devices ∧ ¬InSubtree project.groups groupId x.groupId := by
    intro x
    rw [hcleared.devices]
    exact and_congr_right fun hx => not_congr (hcollected x hx)
  have htree : GroupTree (groupIds.foldl (fun groups id => groups.erase id) rest.groups) :=
    h.tree.of_erased hinside houtside fun id p hp hin => .of_parent hp hin
  have hstored : ∀ (id : ℤ) (group : Group),
      (groupIds.foldl (fun groups id => groups.erase id) rest.groups)[id]? = some group →
        rest.groups[id]? = some group := by
    intro id group hgroup
    rw [getElem?_foldl_erase] at hgroup
    split_ifs at hgroup
    exact hgroup
  have hold := hcleared.membership
  refine ⟨⟨htree, fun id group hgroup => hold.nodup id group (hstored id group hgroup),
    fun id group hgroup => hold.members id group (hstored id group hgroup),
    fun id deviceId hin hne => ?_⟩, hinside, houtside, hdevs⟩
  obtain ⟨group, hgroup⟩ := exists_of_contains_group (hold.groupOf id deviceId hin hne)
  refine contains_of_group ((hrest id fun hsub => ?_).trans hgroup)
  obtain ⟨x, hx, -, rfl⟩ := hin
  exact ((hdevs x).1 hx).2 hsub

/-! ### The devices of a dissolved group -/

/-- A device of a group that does not count is taken out. -/
theorem Membership.forget {l₁ l₂ : List Device} (h : Membership except groups (l₁ ++ device :: l₂))
    (hids : ∀ x ∈ l₁ ++ l₂, x.id ≠ device.id) (hexcept : device.groupId ∈ except) :
    Membership except groups (l₁ ++ l₂) where
  nodup := h.nodup
  members id group hgroup hid deviceId := by
    rw [h.members id group hgroup hid, inGroup_without hids]
    refine ⟨fun hin => ⟨hin, fun hown => ?_⟩, fun hin => hin.1⟩
    rw [hown.1] at hexcept
    exact hid hexcept
  groupOf groupId deviceId hin := h.groupOf groupId deviceId ((inGroup_without hids).1 hin).1

/-- **What the loop of `UnGroup` has done** after some of the devices: the list of the group itself
is not kept any more. -/
structure Regrouped (services : DeviceServices) (start : Project) (groupId : ℤ)
    (deviceIds passed : List ℤ) (project : Project) : Prop where
  plain : Plain services project
  membership : Membership {groupId} project.groups project.devices
  tree : SameTree start.groups project.groups
  remaining : ∀ deviceId, InGroup project.devices groupId deviceId ↔
    deviceId ∈ deviceIds ∧ deviceId ∉ passed

theorem Regrouped.step {start : Project} {deviceIds passed after : List ℤ} {parentId : ℤ}
    (hnone : start.groups.contains (-1) = false) (hparent : parentId ≠ groupId)
    (hnodup : deviceIds.Nodup) (hsplit : deviceIds = passed ++ deviceId :: after)
    (h : Regrouped services start groupId deviceIds passed project)
    (hstep : Core.regroupDevice parentId project deviceId = .ok project') :
    Regrouped services start groupId deviceIds (passed ++ [deviceId]) project' := by
  have hplain := h.plain.regroupDevice hstep
  obtain ⟨l₁, device, l₂, hdevs, hid, hcont, rfl,
    -⟩ := regroupDevice_ok h.plain.devices hstep
  have hdev : device ∈ project.devices := by
    rw [hdevs]
    simp
  have hnotPassed : deviceId ∉ passed := by
    rw [hsplit, List.nodup_append] at hnodup
    exact fun hin => hnodup.2.2 _ hin _ List.mem_cons_self rfl
  have hgroup : device.groupId = groupId := by
    obtain ⟨x, hx, hxid, hxgroup⟩ :=
      (h.remaining deviceId).2 ⟨by rw [hsplit]; simp, hnotPassed⟩
    rwa [h.plain.devices.wellFormed.eq_of_id hx hdev (hxid.trans hid.symm)] at hxgroup
  have hids : ∀ x ∈ l₁ ++ l₂, x.id ≠ device.id := by
    have hdist := h.plain.devices.distinct
    rw [hdevs] at hdist
    intro x hx hsame
    have hperm : (l₁ ++ device :: l₂).Perm (device :: (l₁ ++ l₂)) := List.perm_middle
    have hpair := (hperm.pairwise_iff (fun {a b} hab =>
      by rw [device_beq_comm]; exact hab)).1 hdist
    have hapart := (List.pairwise_cons.1 hpair).1 x hx
    rw [device_beq_iff.2 (.inl hsame.symm)] at hapart
    cases hapart
  have hmembership := h.membership
  rw [hdevs] at hmembership
  have hforgot := hmembership.forget hids (by rw [hgroup]; exact mem_singleton groupId)
  refine ⟨hplain, ?_, h.tree.trans (sameTree_enterMember hcont), fun x => ?_⟩
  · rw [← hid]
    exact @Membership.enter _ _ { device with groupId := parentId } _ _ hforgot
      (by rw [h.tree.contains]; exact hnone) hcont fun _ _ => inGroup_append_singleton
  · have hx := h.remaining x
    rw [hdevs] at hx
    show InGroup (l₁ ++ l₂ ++ [{ device with groupId := parentId }]) groupId x ↔ _
    rw [inGroup_append_singleton, inGroup_without hids, hx, hgroup, hid, List.mem_append,
      List.mem_singleton]
    constructor
    · rintro (⟨⟨hin, hnot⟩, hother⟩ | ⟨-, hself⟩)
      · exact ⟨hin, fun h => h.elim hnot fun he => hother ⟨rfl, he⟩⟩
      · exact absurd hself hparent
    · rintro ⟨hin, hnot⟩
      exact .inl ⟨⟨hin, fun h => hnot (.inl h)⟩, fun h => hnot (.inr h.2)⟩

/-- **`UnGroup` keeps the forest:** devices and subgroups go to the parent. -/
theorem GroupForest.unGroup (hplain : Plain services project) (h : GroupForest project)
    (hexec : Core.unGroup project groupId = .ok project') : GroupForest project' := by
  obtain ⟨group, rest, hgroup, hloop, rfl⟩ := unGroup_ok hexec
  have hne := h.tree.ne_of_group hgroup
  have hup : group.parentId ≠ groupId := by
    intro heq
    have hself : parentOf project.groups groupId = some groupId :=
      parentOf_eq_some.2 ⟨group, hgroup, by rwa [heq], heq⟩
    exact (h.tree.rooted groupId (contains_of_group hgroup)).not_under_parent hself (.refl _)
  have hstart : Regrouped services project groupId group.deviceIds [] project := by
    refine ⟨hplain, ⟨fun id x hx _ => h.membership.nodup id x hx (notMem_empty id),
      fun id x hx _ => h.membership.members id x hx (notMem_empty id), h.membership.groupOf⟩,
      .refl _, fun deviceId => ?_⟩
    rw [h.membership.members groupId group hgroup (notMem_empty _)]
    simp
  have hnodup := h.membership.nodup groupId group hgroup (notMem_empty _)
  have hend := @foldlM_rule_passed _ _ _ _
    (Regrouped services project groupId group.deviceIds) _ _ _ hloop hstart
    fun passed deviceId after c c' hsplit hc hstep =>
      hc.step h.tree.id_ne hup hnodup hsplit hstep
  have hempty : ∀ deviceId, ¬InGroup rest.devices groupId deviceId := by
    intro deviceId hin
    obtain ⟨hlisted, hnot⟩ := (hend.remaining deviceId).1 hin
    exact hnot hlisted
  obtain ⟨now, hnow, hsame⟩ := hend.tree.symm.exists_group hgroup
  have htree := (h.tree.of_sameTree hend.tree).moveSubgroups hnow
  rw [← (withoutDevices_eq hsame).2.2] at htree
  have hstored : ∀ (id : ℤ) (x : Group),
      ((moveSubgroups rest.groups groupId group.parentId).erase groupId)[id]? = some x →
        id ∉ ({groupId} : Set ℤ) ∧ ∃ stored : Group, rest.groups[id]? = some stored ∧
          x.deviceIds = stored.deviceIds := by
    intro id x hx
    rw [getElem?_erase] at hx
    split_ifs at hx with heq
    obtain ⟨stored, hstored, -, -, hdevs, -⟩ := exists_of_moveSubgroups hx
    refine ⟨fun hmem => heq ?_, stored, hstored, hdevs⟩
    exact Std.compare_eq_iff_eq.2 (mem_singleton_iff.1 hmem).symm
  refine ⟨htree, fun id x hx _ => ?_, fun id x hx _ deviceId => ?_, fun id deviceId hin hid => ?_⟩
  · obtain ⟨hother, stored, hold, hdevs⟩ := hstored id x hx
    rw [hdevs]
    exact hend.membership.nodup id stored hold hother
  · obtain ⟨hother, stored, hold, hdevs⟩ := hstored id x hx
    rw [hdevs]
    exact hend.membership.members id stored hold hother deviceId
  · have hother : groupId ≠ id := by
      rintro rfl
      exact hempty deviceId hin
    have hcont := hend.membership.groupOf id deviceId hin hid
    rw [contains_erase, contains_moveSubgroups, hcont]
    simpa using hother

/-! ### Every history -/

/-- **One request** keeps the forest. -/
theorem GroupForest.exec (hplain : Plain services project) (h : GroupForest project)
    {request : DeviceRequest} (hkept : KeepsForest project request)
    (hexec : request.exec services fuel project = .ok project') : GroupForest project' := by
  cases request with
  | createDevice device fromBag =>
    obtain ⟨⟨device', _⟩, hcreate, rfl⟩ := exists_of_map hexec
    obtain ⟨stored, skus, hent, -, rfl⟩ := createDevice_ok hplain.toBare hcreate
    have hforest := hent.groupForest hplain h hkept
    exact ⟨hforest.tree, hforest.membership⟩
  | updateDevice device =>
    obtain ⟨⟨device', _⟩, hupd, rfl⟩ := exists_of_map hexec
    obtain ⟨stored, skus, hrepl, -, rfl⟩ := updateDevice_ok hplain.toBare hupd
    have hforest := hrepl.groupForest hplain h
    exact ⟨hforest.tree, hforest.membership⟩
  | deleteDevice deviceId =>
    obtain ⟨device, skus, hfound, -, rfl⟩ := deleteDevice_ok hplain.toBare hexec
    exact ⟨h.tree.of_sameTree (sameTree_strikeMember _ _ _),
      h.membership.removeDevice hplain h.tree.id_ne hfound⟩
  | deleteDevices deviceIds toBag =>
    obtain ⟨-, rest, hrest, rfl⟩ := (deleteDevices_eq_ok hplain.toBare).1 hexec
    have hcleared := cleared_of_foldlM hplain h hrest
    obtain ⟨vlanTables, rstpTables, htables⟩ := foldl_deleteDeviceDeviceConfig deviceIds rest
    rw [htables]
    exact ⟨h.tree.of_sameTree hcleared.tree, hcleared.membership⟩
  | createGroup readings group => exact h.createGroup hkept hexec
  | updateGroup group => exact h.updateGroup hkept hexec
  | deleteGroup groupId => exact (h.deleteGroup hplain hexec).1
  | unGroup groupId => exact h.unGroup hplain hexec
  | updateSkuQuantity request =>
    obtain ⟨skus, -, rfl⟩ := changeSkus_eq_ok.1 hexec
    exact ⟨h.tree, h.membership⟩
  | deleteSkuQuantity skuList =>
    obtain ⟨skus, -, rfl⟩ := changeSkus_eq_ok.1 hexec
    exact ⟨h.tree, h.membership⟩

/-- **The groups are a forest that agrees with the devices** in every history whose requests keep
what they write to a group, and `DeleteGroup` removes exactly a subtree there. -/
theorem forest_of_run {start : Project} (hnew : NewProject start)
    (hrun : DeviceRequest.Run services fuel KeepsForest start project) :
    GroupForest project ∧ ∀ (groupId : ℤ) (project' : Project),
      deleteGroup services fuel project groupId = .ok project' →
        SubtreeDeleted project project' groupId := by
  have hkeeps : Plain services project ∧ GroupForest project :=
    hrun.rule (I := fun project => Plain services project ∧ GroupForest project)
      ⟨hnew.plain services, hnew.groupForest⟩ fun _ _ _ hkeeps hkept hexec =>
        ⟨hkeeps.1.exec hexec, hkeeps.2.exec hkeeps.1 hkept hexec⟩
  exact ⟨hkeeps.2, fun _ _ hexec => (hkeeps.2.deleteGroup hkeeps.1 hexec).2⟩

/-- A group, another one below it, and a device in the lower one. -/
def twoGroups : List DeviceRequest :=
  [.createGroup [] { id := 1, name := "plant" },
   .createGroup [] { id := 2, name := "cell", parentId := 1 },
   .createDevice { deviceProfileId := 1, ipAddress := "10.0.0.1", groupId := 2 } false]

/-- Each of these requests is kept in its state. -/
theorem forest_of_run_twoGroups : ∃ project,
    DeviceRequest.execAll oneModel 10 {} twoGroups = some project ∧ project.devices.length = 1 ∧
      GroupForest project ∧ ∀ (groupId : ℤ) (project' : Project),
        deleteGroup oneModel 10 project groupId = .ok project' →
          SubtreeDeleted project project' groupId := by
  have hlen : ((DeviceRequest.execAll oneModel 10 {} twoGroups).map (·.devices.length)) =
      some 1 := by decide +kernel
  obtain ⟨project, hproj, hdevs⟩ := map_eq_some_iff.1 hlen
  refine ⟨project, hproj, hdevs, forest_of_run newProject_default ?_⟩
  have hplant : DeviceRequest.Run oneModel 10 KeepsForest {}
      { groups := (∅ : QMap ℤ Group).insert 1 { id := 1, name := "plant" } } :=
    @DeviceRequest.Run.step _ _ _ _ _ _ (.createGroup [] { id := 1, name := "plant" }) .refl rfl rfl
  have hcell : DeviceRequest.Run oneModel 10 KeepsForest {}
      { groups := ((∅ : QMap ℤ Group).insert 1 { id := 1, name := "plant" }).insert 2
          { id := 2, name := "cell", parentId := 1 } } :=
    @DeviceRequest.Run.step _ _ _ _ _ _
      (.createGroup [] { id := 2, name := "cell", parentId := 1 }) hplant rfl rfl
  refine DeviceRequest.run_of_execAll hcell (fun request hreq project => ?_) hproj
  obtain rfl := List.mem_singleton.1 hreq
  exact fun hne => absurd rfl hne

/-- **A group goes below its own subgroup:** the parents of the two never end. -/
theorem not_forest_of_run : ¬∀ (services : DeviceServices) (fuel : ℕ) (start project : Project),
    NewProject start → DeviceRequest.Run services fuel (fun _ _ => True) start project →
      GroupForest project := by
  intro h
  have hcycle : ((DeviceRequest.execAll oneModel 10 {}
      [.createGroup [] { id := 1, name := "plant" },
       .createGroup [] { id := 2, name := "cell", parentId := 1 },
       .updateGroup { id := 1, name := "plant", parentId := 2 }]).map fun project =>
      (parentOf project.groups 1, parentOf project.groups 2)) = some (some 2, some 1) := by
    decide +kernel
  obtain ⟨project, hproj, hparents⟩ := map_eq_some_iff.1 hcycle
  obtain ⟨hone, htwo⟩ := Prod.mk.inj hparents
  have hforest := h oneModel 10 {} project newProject_default
    (DeviceRequest.run_of_execAll .refl (fun _ _ _ => trivial) hproj)
  have hrooted := hforest.tree.rooted 1 (hforest.tree.contains_parentOf htwo)
  exact hrooted.not_under_parent hone (.of_parent htwo (.refl _))

end Core
end Sebastian

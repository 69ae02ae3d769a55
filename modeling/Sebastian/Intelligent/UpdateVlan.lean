/-
# Updating an intelligent VLAN

`sebastian/core/intelligent_vlan.go`: `UpdateIntelligentVLAN` deletes the group,
which is put back to the core, and then creates the new one.  Nothing brings the
deleted group back when the second call fails.

What the core answers to a call is given (`Answers`).  `create_cases` says how a
create ends, in the words of the project before the delete, and from it
`updateIntelligentVLAN_atomic` when an update that fails leaves the project as
it was: when the delete fails already, or when the create succeeds.
-/

import Sebastian.Intelligent.VlanTables

namespace Sebastian
namespace Intelligent

open List Option

variable {answers : Answers}

/-! ### The core -/

/-- How `core.UpdateFullProject` ends.  `ActCore::UpdateProject` checks the project, stores it and
only then saves it to the disk. -/
inductive PutAnswer where
  | saved
  | refused (error : String)
  | unsaved (error : String)

/-- How `core.GetProject` and `core.UpdateFullProject` end in one call. -/
structure Answers where
  get : Except String Unit
  put : PutAnswer

/-- **The core**, by what it gives back of a project that was put. -/
structure VlanCore where
  keep : VlanProject → VlanProject
  kept : ∀ sent, Kept sent (keep sent)
  devices : ∀ sent, (keep sent).devices.Perm sent.devices

namespace VlanCore

variable (core : VlanCore)

/-- `core.UpdateFullProject`: the error, and the project that is stored after it. -/
def updateFullProject (answer : PutAnswer) (sent stored : VlanProject) :
    Except String Unit × VlanProject :=
  match answer with
  | .saved => (.ok (), core.keep sent)
  | .refused e => (.error e, stored)
  | .unsaved e => (.error e, core.keep sent)

/-- `DeleteIntelligentVLAN` -/
def deleteIntelligentVLAN (answers : Answers) (vlanId : UInt16) (stored : VlanProject) :
    Except String Unit × VlanProject :=
  match answers.get with
  | .error e => (.error e, stored)
  | .ok () =>
    match stored.deleteIntelligentVLAN vlanId with
    | .error e => (.error e, stored)
    | .ok sent => core.updateFullProject answers.put sent stored

/-- `CreateIntelligentVLAN`; `none` as long as the search for the paths goes on. -/
def createIntelligentVLAN (answers : Answers) (fuel : ℕ) (walk : PortMap → List (ℤ × List ℤ))
    (group : IntelligentVlan) (stored : VlanProject) : Option (Except String Unit × VlanProject) :=
  match answers.get with
  | .error e => some (.error e, stored)
  | .ok () => (stored.createIntelligentVLAN fuel walk group).map fun
    | .error e => (.error e, stored)
    | .ok sent => core.updateFullProject answers.put sent stored

/-- `UpdateIntelligentVLAN`, with the answers that the core gives to each of its calls. -/
def updateIntelligentVLAN (answers : Answers × Answers) (fuel : ℕ)
    (walk : PortMap → List (ℤ × List ℤ)) (vlanId : UInt16) (group : IntelligentVlan)
    (stored : VlanProject) : Option (Except String Unit × VlanProject) :=
  match core.deleteIntelligentVLAN answers.1 vlanId stored with
  | (.error e, deleted) => some (.error e, deleted)
  | (.ok (), deleted) => core.createIntelligentVLAN answers.2 fuel walk group deleted

/-- **The update is atomic**: an error leaves the groups and the tables as they were. -/
def Atomic (answers : Answers × Answers) (walk : PortMap → List (ℤ × List ℤ)) (vlanId : UInt16)
    (group : IntelligentVlan) (stored : VlanProject) : Prop :=
  ∀ fuel e after,
    core.updateIntelligentVLAN answers fuel walk vlanId group stored = some (.error e, after) →
      after.intelligentVlanGroup = stored.intelligentVlanGroup ∧
        after.vlanTables = stored.vlanTables

end VlanCore

/-! ### The conditions -/

/-- No VLAN but `vlanId` has an entry that keeps the id from being used. -/
def IdFree (stored : VlanProject) (vlanId id : UInt16) : Prop :=
  ∀ devId, ∀ x ∈ (stored.vlanTables.value devId).vlanIds, toUInt16 x = id → x = ofUInt16 vlanId

/-- **The create finds nothing wrong** with the group once `vlanId` is deleted: two stations or
more, all of them there, and an id in the range that no other VLAN has. -/
def Creatable (stored : VlanProject) (vlanId : UInt16) (group : IntelligentVlan) : Prop :=
  2 ≤ group.endStationList.length ∧
    (∀ edgeId ∈ group.endStationList, ∃ device ∈ stored.devices, device.id = edgeId) ∧
    match group.streamType with
    | .untagged => ∃ id, (stored.vlanRange.min ≤ ofUInt16 id ∧
        ofUInt16 id ≤ stored.vlanRange.max) ∧ IdFree stored vlanId id
    | .tagged => (stored.vlanRange.min ≤ ofUInt16 group.vlanId ∧
        ofUInt16 group.vlanId ≤ stored.vlanRange.max) ∧ IdFree stored vlanId group.vlanId
    | .unknown => False

/-- The delete ends with nothing stored: the core does not give the project, it has no such group,
or the core does not take it. -/
def DeleteRefused (answers : Answers) (vlanId : UInt16) (stored : VlanProject) : Prop :=
  (∃ e, answers.get = .error e) ∨ (∀ group ∈ stored.intelligentVlanGroup, group.vlanId ≠ vlanId) ∨
    ∃ e, answers.put = .refused e

/-- The project that a delete of the group leaves. -/
def VlanCore.deleted (core : VlanCore) (vlanId : UInt16) (stored : VlanProject) : VlanProject :=
  core.keep ((stored.deleteIntelligentVLAN vlanId).toOption.getD stored)

/-- **The create that follows does not fail**: the core gives the project, nothing is wrong, and the
core saves what is put (or the search for the paths never ends). -/
def CreateSucceeds (core : VlanCore) (answers : Answers) (vlanId : UInt16)
    (group : IntelligentVlan) (stored : VlanProject) : Prop :=
  answers.get = .ok () ∧ Creatable stored vlanId group ∧
    (answers.put = .saved ∨ ∀ fuel, findAllLinksBetweenEdges fuel group.endStationList
      (adjacency (core.deleted vlanId stored).usableLinks) = none)

/-! ### What the create meets after the delete -/

variable {project stored sent : VlanProject} {group : IntelligentVlan} {vlanId : UInt16}

/-- A new group gets an id when its type is known and the range has an id for it. -/
theorem VlanProject.exists_newVlanId_iff (group : IntelligentVlan)
    (hmin : 1 ≤ project.vlanRange.min ∧ project.vlanRange.min ≤ 4094)
    (hmax : 1 ≤ project.vlanRange.max ∧ project.vlanRange.max ≤ 4094) :
    (∃ new, project.newVlanId group = .ok new) ↔
      match group.streamType with
      | .untagged => ∃ id, (project.vlanRange.min ≤ ofUInt16 id ∧
          ofUInt16 id ≤ project.vlanRange.max) ∧ project.checkVlanIdUsed id = false
      | .tagged => (project.vlanRange.min ≤ ofUInt16 group.vlanId ∧
          ofUInt16 group.vlanId ≤ project.vlanRange.max) ∧
          project.checkVlanIdUsed group.vlanId = false
      | .unknown => False := by
  have hlow := ofUInt16_toUInt16 (n := project.vlanRange.min) (by omega) (by omega)
  have hhigh := ofUInt16_toUInt16 (n := project.vlanRange.max) (by omega) (by omega)
  constructor
  · rintro ⟨new, hnew⟩
    obtain ⟨hrange, hfree, -⟩ := newVlanId_ok hnew hmin hmax
    have hid := (newVlanId_ok hnew hmin hmax).2.2
    cases htype : group.streamType with
    | untagged => exact ⟨new, hrange, hfree⟩
    | tagged =>
      rw [htype] at hid
      obtain rfl : group.vlanId = new := hid
      exact ⟨hrange, hfree⟩
    | unknown =>
      unfold newVlanId at hnew
      rw [htype] at hnew
      cases hnew
  · unfold newVlanId
    unfold ofUInt16 at hlow hhigh ⊢
    cases htype : group.streamType with
    | untagged =>
      rintro ⟨id, hrange, hfree⟩
      have hsome : project.findUniqueIntelligentVlanId.isSome := by
        unfold findUniqueIntelligentVlanId
        refine find?_isSome.2 ⟨id, mem_map.2 ⟨id.toNat, ?_, UInt16.ofNat_toNat⟩, ?_⟩
        · rw [mem_range'_1]
          omega
        · rw [hfree]
          rfl
      obtain ⟨new, hnew⟩ := isSome_iff_exists.1 hsome
      exact ⟨new, by simp only [hnew]⟩
    | tagged =>
      rintro ⟨hrange, hfree⟩
      refine ⟨group.vlanId, ?_⟩
      have hin : ¬(group.vlanId < toUInt16 project.vlanRange.min ∨
          group.vlanId > toUInt16 project.vlanRange.max) := by
        rw [gt_iff_lt, UInt16.lt_iff_toNat_lt, UInt16.lt_iff_toNat_lt]
        omega
      simp only [hfree, if_neg hin, Bool.false_eq_true, if_false]
    | unknown => exact False.elim

theorem VlanProject.groupIds_delete (h : stored.deleteIntelligentVLAN vlanId = .ok sent) :
    sent.intelligentVlanGroup.map (·.vlanId) =
      (stored.intelligentVlanGroup.map (·.vlanId)).erase vlanId := by
  unfold deleteIntelligentVLAN at h
  split_ifs at h
  cases h
  rw [erase_eq_eraseP, eraseP_map]
  refine congrArg (fun p => (stored.intelligentVlanGroup.eraseP p).map (·.vlanId)) ?_
  funext group
  exact decide_eq_decide.2 eq_comm

theorem KeptBy.mem_iff {α : Type} {sent kept : List α} (h : KeptBy id sent kept) (x : α) :
    x ∈ kept ↔ x ∈ sent := by
  have hiff := h.2 x
  rwa [List.map_id, List.map_id] at hiff

/-- **After the delete** the core has no group with the id, and an id is free when no other VLAN
has it. -/
theorem VlanCore.of_deleted (core : VlanCore) (h : Stored stored)
    (hdel : stored.deleteIntelligentVLAN vlanId = .ok sent) :
    (core.keep sent).vlanRange = stored.vlanRange ∧
      (∀ group ∈ (core.keep sent).intelligentVlanGroup, group.vlanId ≠ vlanId) ∧
      (∀ id, (core.keep sent).checkVlanIdUsed id = false ↔ IdFree stored vlanId id) ∧
      ∀ id, (∃ device ∈ (core.keep sent).devices, device.id = id) ↔
        ∃ device ∈ stored.devices, device.id = id := by
  have hkept := core.kept sent
  have hdevs : sent.devices = stored.devices := by
    unfold VlanProject.deleteIntelligentVLAN at hdel
    split_ifs at hdel
    cases hdel
    rfl
  refine ⟨hkept.vlanRange.trans (VlanProject.deleteIntelligentVLAN_ok hdel).1,
    fun group hgroup hid => ?_, fun id => ?_, fun id => ?_⟩
  · -- the ids are different, so the one group that is removed is the only one
    have hmem := (hkept.groups.2 vlanId).1 (mem_map.2 ⟨group, hgroup, hid⟩)
    rw [VlanProject.groupIds_delete hdel, h.groups.nodup.mem_erase_iff] at hmem
    exact hmem.1 rfl
  · rw [VlanProject.checkVlanIdUsed_eq_false_iff]
    unfold IdFree
    refine forall_congr' fun devId => ⟨fun hfree x hx heq => ?_, fun hfree x hx heq => ?_⟩
    · by_contra hne
      refine hfree x (((hkept.tables devId).mem_iff x).2 ?_) heq
      exact (VlanProject.mem_vlanIds_delete hdel (h.tables devId)).2 ⟨hx, hne⟩
    · obtain ⟨hmem, hne⟩ := (VlanProject.mem_vlanIds_delete hdel (h.tables devId)).1
        (((hkept.tables devId).mem_iff x).1 hx)
      exact hne (hfree x hmem heq)
  · rw [← hdevs]
    exact ⟨fun ⟨device, hmem, hid⟩ => ⟨device, (core.devices _).mem_iff.1 hmem, hid⟩,
      fun ⟨device, hmem, hid⟩ => ⟨device, (core.devices _).mem_iff.2 hmem, hid⟩⟩

/-- **How the create ends** after the delete: with an error when it finds something wrong, and else
as the search for the paths does. -/
theorem VlanCore.create_cases (core : VlanCore) (h : Stored stored)
    (hdel : stored.deleteIntelligentVLAN vlanId = .ok sent) (fuel : ℕ)
    (walk : PortMap → List (ℤ × List ℤ)) (group : IntelligentVlan) :
    (Creatable stored vlanId group →
      ((core.keep sent).createIntelligentVLAN fuel walk group).isSome =
          (findAllLinksBetweenEdges fuel group.endStationList
            (adjacency (core.keep sent).usableLinks)).isSome ∧
        ∀ e, (core.keep sent).createIntelligentVLAN fuel walk group ≠ some (.error e)) ∧
      (¬Creatable stored vlanId group →
        ∃ e, (core.keep sent).createIntelligentVLAN fuel walk group = some (.error e)) := by
  obtain ⟨hrange, -, hfree, hdevs⟩ := core.of_deleted h hdel
  have hid := VlanProject.exists_newVlanId_iff group (hrange ▸ h.min) (hrange ▸ h.max)
  simp only [hrange, hfree] at hid
  have hstations : ((group.endStationList.find? fun edgeId =>
      !(core.keep sent).devices.any fun device => device.id = edgeId) = none) ↔
      ∀ edgeId ∈ group.endStationList, ∃ device ∈ stored.devices, device.id = edgeId := by
    rw [find?_eq_none]
    refine forall₂_congr fun edgeId _ => ?_
    rw [← hdevs edgeId]
    simp
  unfold Creatable
  rw [← hid, ← hstations]
  unfold VlanProject.createIntelligentVLAN
  by_cases hlen : group.endStationList.length < 2
  · simp only [if_pos hlen]
    exact ⟨fun hall => absurd hall.1 (by omega), fun _ => ⟨_, rfl⟩⟩
  · simp only [if_neg hlen]
    cases hfind : group.endStationList.find? fun edgeId =>
        !(core.keep sent).devices.any fun device => device.id = edgeId with
    | some edgeId => exact ⟨fun hall => absurd hall.2.1 nofun, fun _ => ⟨_, rfl⟩⟩
    | none =>
      cases hnew : (core.keep sent).newVlanId group with
      | error e => exact ⟨fun ⟨_, _, new, hok⟩ => absurd hok nofun, fun _ => ⟨_, rfl⟩⟩
      | ok new =>
        refine ⟨fun _ => ⟨isSome_map, fun e he => ?_⟩,
          fun hnot => absurd ⟨by omega, rfl, new, rfl⟩ hnot⟩
        obtain ⟨ports, -, hports⟩ := map_eq_some_iff.1 he
        cases hports

/-! ### Atomic updates -/

theorem VlanCore.delete_of_refused (core : VlanCore) (h : DeleteRefused answers vlanId stored) :
    ∃ e, core.deleteIntelligentVLAN answers vlanId stored = (.error e, stored) := by
  unfold deleteIntelligentVLAN
  cases hget : answers.get with
  | error e => exact ⟨e, rfl⟩
  | ok _ =>
    cases hdel : stored.deleteIntelligentVLAN vlanId with
    | error e => exact ⟨e, rfl⟩
    | ok sent =>
      rcases h with ⟨e, he⟩ | hnone | ⟨e, he⟩
      · cases hget.symm.trans he
      · unfold VlanProject.deleteIntelligentVLAN at hdel
        rw [if_neg (by simpa using hnone)] at hdel
        cases hdel
      · exact ⟨e, by simp only [updateFullProject, he]⟩

/-- A delete that is not refused puts the project without the group. -/
theorem VlanCore.exists_deleted (core : VlanCore) (h : ¬DeleteRefused answers vlanId stored) :
    ∃ sent, stored.deleteIntelligentVLAN vlanId = .ok sent ∧
      core.deleted vlanId stored = core.keep sent ∧
      (∃ group ∈ stored.intelligentVlanGroup, group.vlanId = vlanId) ∧
      core.deleteIntelligentVLAN answers vlanId stored =
        core.updateFullProject answers.put sent stored := by
  unfold DeleteRefused at h
  push Not at h
  obtain ⟨hget, ⟨group, hgroup, hid⟩, -⟩ := h
  have hdel : stored.deleteIntelligentVLAN vlanId = .ok _ :=
    if_pos (any_eq_true.2 ⟨group, hgroup, decide_eq_true hid⟩)
  refine ⟨_, hdel, ?_, ⟨group, hgroup, hid⟩, ?_⟩
  · unfold deleted
    rw [hdel]
    rfl
  · unfold deleteIntelligentVLAN
    cases hok : answers.get with
    | error e => exact absurd hok (hget e)
    | ok _ => rw [hdel]

theorem VlanCore.create_of_succeeds (core : VlanCore) (h : Stored stored)
    (hdel : stored.deleteIntelligentVLAN vlanId = .ok sent)
    (hdeleted : core.deleted vlanId stored = core.keep sent)
    (hsucceeds : CreateSucceeds core answers vlanId group stored) (fuel : ℕ)
    (walk : PortMap → List (ℤ × List ℤ)) (e : String) (after : VlanProject) :
    core.createIntelligentVLAN answers fuel walk group (core.keep sent) ≠
      some (.error e, after) := by
  obtain ⟨hget, hcreatable, hends⟩ := hsucceeds
  obtain ⟨hsome, hnoerror⟩ := (core.create_cases h hdel fuel walk group).1 hcreatable
  unfold createIntelligentVLAN
  rw [hget]
  intro hafter
  obtain ⟨result, hres, hmap⟩ := map_eq_some_iff.1 hafter
  cases result with
  | error e' => exact hnoerror e' hres
  | ok again =>
    rcases hends with hput | hnever
    · simp only [updateFullProject, hput] at hmap
      cases hmap
    · rw [hdeleted] at hnever
      rw [hres, hnever fuel] at hsome
      cases hsome

theorem VlanCore.exists_failed_create (core : VlanCore) (h : Stored stored)
    (hdel : stored.deleteIntelligentVLAN vlanId = .ok sent)
    (hdeleted : core.deleted vlanId stored = core.keep sent)
    (hunsaved : ∀ e, answers.put ≠ .unsaved e)
    (hfails : ¬CreateSucceeds core answers vlanId group stored)
    (walk : PortMap → List (ℤ × List ℤ)) :
    ∃ fuel e, core.createIntelligentVLAN answers fuel walk group (core.keep sent) =
      some (.error e, core.keep sent) := by
  unfold createIntelligentVLAN
  cases hget : answers.get with
  | error e => exact ⟨0, e, rfl⟩
  | ok _ =>
    by_cases hcreatable : Creatable stored vlanId group
    · unfold CreateSucceeds at hfails
      push Not at hfails
      obtain ⟨hput, fuel, hends⟩ := hfails hget hcreatable
      obtain ⟨hsome, hnoerror⟩ := (core.create_cases h hdel fuel walk group).1 hcreatable
      rw [hdeleted] at hends
      rw [isSome_iff_ne_none.2 hends] at hsome
      obtain ⟨result, hres⟩ := isSome_iff_exists.1 hsome
      cases result with
      | error e => exact absurd hres (hnoerror e)
      | ok again =>
        cases hanswer : answers.put with
        | saved => exact absurd hanswer hput
        | unsaved e => exact absurd hanswer (hunsaved e)
        | refused e =>
          refine ⟨fuel, e, ?_⟩
          simp only [hres, map_some, updateFullProject]
    · obtain ⟨e, he⟩ := (core.create_cases h hdel 0 walk group).2 hcreatable
      exact ⟨0, e, by simp only [he, map_some]⟩

/-- **When an update is atomic**: exactly when the delete is refused, or the core saves what it
puts and the create does not fail.  (Where the core stores what the create puts and then fails to
save it, an update may by chance put back what was deleted; there this is enough, but it may not
be necessary.) -/
theorem updateIntelligentVLAN_atomic (core : VlanCore) (answers : Answers × Answers)
    (walk : PortMap → List (ℤ × List ℤ)) (vlanId : UInt16) (group : IntelligentVlan)
    (stored : VlanProject) (h : Stored stored) :
    (DeleteRefused answers.1 vlanId stored ∨
        answers.1.put = .saved ∧ CreateSucceeds core answers.2 vlanId group stored →
      core.Atomic answers walk vlanId group stored) ∧
      ((∀ e, answers.2.put ≠ .unsaved e) →
        (core.Atomic answers walk vlanId group stored ↔
          DeleteRefused answers.1 vlanId stored ∨
            answers.1.put = .saved ∧ CreateSucceeds core answers.2 vlanId group stored)) := by
  by_cases hrefused : DeleteRefused answers.1 vlanId stored
  · obtain ⟨e, he⟩ := core.delete_of_refused hrefused
    have hatomic : core.Atomic answers walk vlanId group stored := by
      intro fuel e' after hafter
      unfold VlanCore.updateIntelligentVLAN at hafter
      rw [he] at hafter
      obtain ⟨-, rfl⟩ := Prod.mk.inj (some.inj hafter)
      exact ⟨rfl, rfl⟩
    exact ⟨fun _ => hatomic, fun _ => iff_of_true hatomic (.inl hrefused)⟩
  obtain ⟨sent, hdel, hdeleted, ⟨old, hold, hid⟩, hrun⟩ := core.exists_deleted hrefused
  rw [or_iff_right hrefused]
  -- an update that leaves the project of the delete has lost the group
  have hlost : ∀ fuel e, core.updateIntelligentVLAN answers fuel walk vlanId group stored =
      some (.error e, core.keep sent) → ¬core.Atomic answers walk vlanId group stored := by
    intro fuel e hafter hatomic
    have hgroups := (hatomic fuel e _ hafter).1
    exact (core.of_deleted h hdel).2.1 old (hgroups ▸ hold) hid
  unfold VlanCore.updateIntelligentVLAN at hlost
  unfold VlanCore.Atomic VlanCore.updateIntelligentVLAN at *
  rw [hrun] at hlost ⊢
  cases hput : answers.1.put with
  | refused e => exact absurd (.inr (.inr ⟨e, hput⟩)) hrefused
  | unsaved e =>
    have hnot : ¬(PutAnswer.unsaved e = .saved ∧
        CreateSucceeds core answers.2 vlanId group stored) := fun hboth => nomatch hboth.1
    rw [hput] at hlost
    exact ⟨fun hboth => absurd hboth hnot, fun _ => iff_of_false (hlost 0 e rfl) hnot⟩
  | saved =>
    rw [hput] at hlost
    have hatomic : CreateSucceeds core answers.2 vlanId group stored → ∀ fuel e after,
        core.createIntelligentVLAN answers.2 fuel walk group (core.keep sent) =
          some (.error e, after) →
        after.intelligentVlanGroup = stored.intelligentVlanGroup ∧
          after.vlanTables = stored.vlanTables :=
      fun hsucceeds fuel e after hafter => absurd hafter
        (core.create_of_succeeds h hdel hdeleted hsucceeds fuel walk e after)
    refine ⟨fun hboth => hatomic hboth.2, fun hunsaved => ⟨fun hkeeps => ?_,
      fun hboth => hatomic hboth.2⟩⟩
    by_contra hfails
    obtain ⟨fuel, e, he⟩ := core.exists_failed_create h hdel hdeleted hunsaved
      (fun hsucceeds => hfails ⟨rfl, hsucceeds⟩) walk
    exact hlost fuel e he hkeeps

/-! ### A group that is lost -/

/-- The core that reads a project into its sets. -/
def setCore : VlanCore where
  keep := readProject
  kept := kept_readProject
  devices _ := .refl _

/-- The core gives the project and saves it. -/
def served : Answers := { get := .ok (), put := .saved }

theorem stored_oneGroup : Stored oneGroup where
  min := ⟨by decide, by decide⟩
  max := ⟨by decide, by decide⟩
  groups := ⟨nodup_singleton _, by decide⟩
  tables devId := by
    rw [oneGroup, unconnected, QMap.value_empty]
    exact nodup_nil

/-- The group that is put in the place of the old one. -/
def tenthGroup : IntelligentVlan :=
  { vlanId := 10, streamType := .tagged, endStationList := [1, 2] }

theorem creatable_tenthGroup : Creatable oneGroup 2 tenthGroup := by
  refine ⟨by decide, by decide, by decide, fun devId x hx => ?_⟩
  rw [oneGroup, unconnected, QMap.value_empty] at hx
  cases hx

theorem updateIntelligentVLAN_atomic_tenthGroup : Stored oneGroup ∧
    (∀ e, served.put ≠ .unsaved e) ∧
      setCore.Atomic (served, served) (fun _ => []) 2 tenthGroup oneGroup :=
  ⟨stored_oneGroup, nofun,
    ((updateIntelligentVLAN_atomic setCore (served, served) (fun _ => []) 2 tenthGroup oneGroup
      stored_oneGroup).2 nofun).2 (.inr ⟨rfl, rfl, creatable_tenthGroup, .inl rfl⟩)⟩

/-- The update with a group of one station deletes the group and creates none. -/
theorem not_atomic : ¬∀ (core : VlanCore) (answers : Answers × Answers)
    (walk : PortMap → List (ℤ × List ℤ)) (vlanId : UInt16) (group : IntelligentVlan)
    (stored : VlanProject), Stored stored → core.Atomic answers walk vlanId group stored := by
  intro h
  have hatomic := h setCore (served, served) (fun _ => []) 2
    { streamType := .untagged, endStationList := [1] } oneGroup stored_oneGroup 0 _ _ rfl
  exact absurd (congrArg length hatomic.1) (by decide)

end Intelligent
end Sebastian

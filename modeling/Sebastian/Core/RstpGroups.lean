/-
# Editing the RSTP groups

`CreateRedundantRSTP`, `UpdateRedundantRSTP` and `DeleteRedundantRSTP`
(`core/src/act_core_redundant_group.cpp`).  A device is to be in one group at most, and every
group is to contain its root and its backup root.  `CheckRedundantRSTP` looks after both, for a
group that is created and for one that is updated alike: it asks that the group share no device
with *any* stored group (`checkRedundantRSTP_eq_ok_iff`).

So whatever the calls are, the groups stay in order (`RstpGroupsInOrder.exec`), but the stored
group that an update is to replace is among those it must not touch: an update is accepted only
for devices that are all new (`rstpGroups_editable_iff`).
-/

import Sebastian.Core.Device
import Sebastian.Lib.Run

namespace Sebastian
namespace Core

open ExceptRule List QSet

/-! ### The calls -/

/-- `CreateRedundantRSTP`: the group as it was stored, and the project. -/
def createRedundantRSTP (fuel : ℕ) (project : Project) (rstp : RSTP) :
    Except Failure (RSTP × Project) := do
  atProject project (checkRedundantRSTP project rstp)
  match generateUniqueId (fun id => (project.rstpGroups.find { id := id }).isSome)
      project.lastAssignedRstpId with
  | none => throw (.status (.badRequest ⟨"Cannot get an available unique id", []⟩) project)
  | some id =>
    let rstp := { rstp with id := id }
    let project ← orStuck (computeRedundantRSTP fuel { project with
      rstpGroups := project.rstpGroups.insert rstp
      lastAssignedRstpId := id })
    return (rstp, project)

/-- A call on the RSTP groups of a project. -/
inductive RstpRequest where
  | create (rstp : RSTP)
  | update (rstp : RSTP)
  | delete (rstpId : ℤ)

/-- The project after the call. -/
def RstpRequest.exec (fuel : ℕ) (project : Project) : RstpRequest → Except Failure Project
  | .create rstp => (createRedundantRSTP fuel project rstp).map (·.2)
  | .update rstp => atProject project (updateRedundantRSTP project rstp)
  | .delete rstpId => orStuck (deleteRedundantRSTP fuel project rstpId)

/-- A call that succeeds.  One that fails is not stored. -/
def RstpStep (project : Project) (request : RstpRequest) (project' : Project) : Prop :=
  ∃ fuel, request.exec fuel project = .ok project'

/-! ### What the check lets through -/

variable {project project' : Project} {groups : QSet RSTP} {rstp other : RSTP} {fuel : ℕ}

theorem rstp_beq_iff {x y : RSTP} : (x == y) = true ↔ x.id = y.id := by
  show (x.id == y.id) = true ↔ _
  exact beq_iff_eq

theorem rstp_beq_comm (x y : RSTP) : (x == y) = (y == x) := by
  rw [Bool.eq_iff_iff, rstp_beq_iff, rstp_beq_iff]
  exact eq_comm

/-- No device is in both groups. -/
def DisjointGroups (x y : RSTP) : Prop := ∀ id ∈ x.devices, id ∉ y.devices

theorem DisjointGroups.symm {x y : RSTP} (h : DisjointGroups x y) : DisjointGroups y x :=
  fun id hy hx => h id hx hy

/-- The group contains its root, and its backup root if there is one. -/
def ContainsRoots (rstp : RSTP) : Prop :=
  rstp.rootDevice ∈ rstp.devices ∧
    (rstp.backupRootDevice = -1 ∨ rstp.backupRootDevice ∈ rstp.devices)

/-- **What `CheckRedundantRSTP` demands.** -/
theorem checkRedundantRSTP_eq_ok_iff : checkRedundantRSTP project rstp = .ok () ↔
      (∀ other ∈ project.rstpGroups, DisjointGroups rstp other) ∧ ContainsRoots rstp ∧
      (rstp.backupRootDevice ≠ -1 → rstp.rootDevice ≠ rstp.backupRootDevice) := by
  have hshared : (project.rstpGroups.any fun other =>
      rstp.devices.any (other.devices.contains ·)) = false ↔
      ∀ other ∈ project.rstpGroups, DisjointGroups rstp other := by
    simp [DisjointGroups, QSet.contains]
  have hcont : ∀ {s : QSet ℤ} {id : ℤ}, (!QSet.contains s id) = true ↔ id ∉ s := by
    intro s id
    rw [Bool.not_eq_true', ← Bool.not_eq_true, QSet.contains_iff_mem]
  unfold checkRedundantRSTP ContainsRoots
  split_ifs with h h1 h2 h3 h4
  · refine ⟨(by rintro ⟨⟩), fun hok => ?_⟩
    rw [hshared.2 hok.1] at h
    cases h
  · exact ⟨(by rintro ⟨⟩), fun hok => absurd hok.2.1.1 (hcont.1 h1)⟩
  · exact ⟨fun _ => ⟨hshared.1 (by simpa using h), ⟨by_contra fun hroot => h1 (hcont.2 hroot),
      .inl h2⟩, fun hne => absurd h2 hne⟩, fun _ => rfl⟩
  · exact ⟨(by rintro ⟨⟩),
      fun hok => absurd (hok.2.1.2.resolve_left h2) (hcont.1 h3)⟩
  · exact ⟨(by rintro ⟨⟩), fun hok => absurd h4 (hok.2.2 h2)⟩
  · exact ⟨fun _ => ⟨hshared.1 (by simpa using h), ⟨by_contra fun hroot => h1 (hcont.2 hroot),
      .inr (by_contra fun hbackup => h3 (hcont.2 hbackup))⟩, fun _ => h4⟩, fun _ => rfl⟩

/-! ### The groups stay in order -/

/-- **The groups of a project**: their ids are different, no device is in two of them, and each
contains its roots. -/
structure RstpGroupsInOrder (groups : QSet RSTP) : Prop where
  distinct : groups.Distinct
  disjoint : ∀ x ∈ groups, ∀ y ∈ groups, x.id ≠ y.id → DisjointGroups x y
  roots : ∀ rstp ∈ groups, ContainsRoots rstp

namespace RstpGroupsInOrder

theorem nil : RstpGroupsInOrder [] := ⟨List.Pairwise.nil, nofun, nofun⟩

theorem remove (h : RstpGroupsInOrder groups) (rstp : RSTP) :
    RstpGroupsInOrder (groups.remove rstp) :=
  ⟨h.distinct.remove rstp,
    fun x hx y hy => h.disjoint x (mem_of_mem_remove hx) y (mem_of_mem_remove hy),
    fun x hx => h.roots x (mem_of_mem_remove hx)⟩

theorem insert (h : RstpGroupsInOrder groups) (hdisjoint : ∀ other ∈ groups,
    DisjointGroups rstp other)
    (hroots : ContainsRoots rstp) : RstpGroupsInOrder (groups.insert rstp) := by
  have hmem : ∀ x ∈ groups.insert rstp, x ∈ groups ∨ x = rstp :=
    fun _ => mem_or_eq_of_mem_insert
  refine ⟨h.distinct.insert rstp, fun x hx y hy hne => ?_, fun x hx => ?_⟩
  · rcases hmem x hx with hx' | rfl
    · rcases hmem y hy with hy' | rfl
      · exact h.disjoint x hx' y hy' hne
      · exact (hdisjoint x hx').symm
    · rcases hmem y hy with hy' | rfl
      · exact hdisjoint y hy'
      · exact absurd rfl hne
  · rcases hmem x hx with hx | rfl
    · exact h.roots x hx
    · exact hroots

end RstpGroupsInOrder

theorem rstpGroups_of_computeRedundantRSTP (h : computeRedundantRSTP fuel project = some project') :
    project'.rstpGroups = project.rstpGroups := by
  obtain ⟨found, -, rfl⟩ := Option.map_eq_some_iff.1 h
  rfl

/-- **Every call keeps the groups in order.** -/
theorem RstpGroupsInOrder.exec {request : RstpRequest} (h : RstpGroupsInOrder project.rstpGroups)
    (hexec : request.exec fuel project = .ok project') : RstpGroupsInOrder project'.rstpGroups := by
  cases request with
  | create rstp =>
    obtain ⟨⟨stored, created⟩, hcreate, rfl⟩ := exists_of_map hexec
    obtain ⟨⟨⟩, hcheck, hcreate⟩ := exists_of_bind hcreate
    rw [atProject_eq_ok, checkRedundantRSTP_eq_ok_iff] at hcheck
    cases hid : generateUniqueId (fun id => (project.rstpGroups.find { id := id }).isSome)
        project.lastAssignedRstpId with
    | none =>
      rw [hid] at hcreate
      cases hcreate
    | some id =>
      rw [hid] at hcreate
      obtain ⟨computed, hcomp, hcreate⟩ := exists_of_bind hcreate
      obtain ⟨-, rfl⟩ := Prod.mk.inj (Except.ok.inj hcreate)
      rw [orStuck_eq_ok] at hcomp
      rw [rstpGroups_of_computeRedundantRSTP hcomp]
      exact h.insert hcheck.1 hcheck.2.1
  | update rstp =>
    have hupd := atProject_eq_ok.1 hexec
    obtain ⟨⟨⟩, hcheck, hupd⟩ := exists_of_bind hupd
    rw [checkRedundantRSTP_eq_ok_iff] at hcheck
    cases hupd
    split_ifs
    · exact (h.remove rstp).insert (fun other hother =>
        hcheck.1 other (mem_of_mem_remove hother)) hcheck.2.1
    · exact h
  | delete rstpId =>
    have hdel := orStuck_eq_ok.1 hexec
    unfold deleteRedundantRSTP at hdel
    split_ifs at hdel
    · rw [rstpGroups_of_computeRedundantRSTP hdel]
      exact h.remove _
    · rw [← Option.some.inj hdel]
      exact h

/-! ### What an update accepts -/

/-- The group takes the place of the one with its id, and nothing else of the project changes. -/
def ReplacesGroup (project : Project) (rstp : RSTP) (project' : Project) : Prop :=
  ∃ groups, project' = { project with rstpGroups := groups } ∧
    ∀ x, x ∈ groups ↔ x = rstp ∨ (x ∈ project.rstpGroups ∧ x.id ≠ rstp.id)

/-- A group for an update: its id is that of a stored one, it contains its roots, and it shares no
device with the *other* groups. -/
structure Updatable (groups : QSet RSTP) (rstp : RSTP) : Prop where
  stored : ∃ own ∈ groups, own.id = rstp.id
  roots : ContainsRoots rstp
  disjoint : ∀ other ∈ groups, other.id ≠ rstp.id → DisjointGroups rstp other

/-- An update that is let through replaces the group. -/
theorem replacesGroup_of_updateRedundantRSTP (h : RstpGroupsInOrder project.rstpGroups)
    (hstored : ∃ own ∈ project.rstpGroups, own.id = rstp.id)
    (hupd : updateRedundantRSTP project rstp = .ok project') :
    ReplacesGroup project rstp project' := by
  obtain ⟨⟨⟩, -, hupd⟩ := exists_of_bind hupd
  cases hupd
  obtain ⟨own, hown, hid⟩ := hstored
  have hcont : project.rstpGroups.contains rstp = true :=
    any_eq_true.2 ⟨own, hown, rstp_beq_iff.2 hid⟩
  rw [if_pos hcont]
  refine ⟨_, rfl, fun x => ?_⟩
  -- the ids are different, so what is removed is the group with this id
  have hremd : ∀ y, y ∈ project.rstpGroups.remove rstp ↔
      y ∈ project.rstpGroups ∧ y.id ≠ rstp.id := by
    intro y
    have hsame : project.rstpGroups.remove rstp = project.rstpGroups.remove own :=
      remove_congr fun z _ => by
        rw [Bool.eq_iff_iff, rstp_beq_iff, rstp_beq_iff, hid]
    rw [hsame, remove_eq_filter h.distinct rstp_beq_comm hown, mem_filter,
      Bool.not_eq_true', ← Bool.not_eq_true, rstp_beq_iff, hid]
  have hfree : QSet.contains (project.rstpGroups.remove rstp) rstp = false := by
    rw [contains_eq_false]
    intro y hy
    rw [← Bool.not_eq_true, rstp_beq_iff]
    exact ((hremd y).1 hy).2
  rw [mem_insert_of_not_contains hfree, hremd]
  exact or_comm

/-- **The groups stay disjoint, but only a group whose devices are all new can be edited.**  In
every state that calls on the groups lead to, no device is in two groups and each contains its
roots.  There, an update with a stored id, with its roots among its devices and no device of
another group is accepted, and replaces its group alone, if and only if it shares no device with
the stored group of its own id either, and its backup root is not its root. -/
theorem rstpGroups_editable_iff {start : Project} {run : List (RstpRequest × Project)}
    (hstart : RstpGroupsInOrder start.rstpGroups) (hrun : Along RstpStep start run) :
    ∀ project ∈ statesOfRun start run, RstpGroupsInOrder project.rstpGroups ∧
      ∀ rstp, Updatable project.rstpGroups rstp →
        ((∃ project', updateRedundantRSTP project rstp = .ok project' ∧
          ReplacesGroup project rstp project') ↔
        (∀ own ∈ project.rstpGroups, own.id = rstp.id → DisjointGroups rstp own) ∧
          (rstp.backupRootDevice ≠ -1 → rstp.rootDevice ≠ rstp.backupRootDevice)) := by
  intro project hproj
  have horder := hrun.rule (I := fun project => RstpGroupsInOrder project.rstpGroups) hstart
    (fun _ _ _ ⟨_, hexec⟩ hs => hs.exec hexec) project hproj
  refine ⟨horder, fun rstp hrstp => ⟨?_, ?_⟩⟩
  · rintro ⟨project', hupd, -⟩
    obtain ⟨⟨⟩, hcheck, -⟩ := exists_of_bind hupd
    obtain ⟨hdisjoint, -, hroots⟩ := checkRedundantRSTP_eq_ok_iff.1 hcheck
    exact ⟨fun own hown _ => hdisjoint own hown, hroots⟩
  · rintro ⟨hown, hroots⟩
    have hcheck : checkRedundantRSTP project rstp = .ok () := by
      refine checkRedundantRSTP_eq_ok_iff.2 ⟨fun other hother => ?_, hrstp.roots, hroots⟩
      by_cases hid : other.id = rstp.id
      · exact hown other hother hid
      · exact hrstp.disjoint other hother hid
    have hupd : updateRedundantRSTP project rstp = .ok
        (if project.rstpGroups.contains rstp then
          { project with rstpGroups := (project.rstpGroups.remove rstp).insert rstp }
        else project) := by
      rw [updateRedundantRSTP, hcheck]
      rfl
    exact ⟨_, hupd, replacesGroup_of_updateRedundantRSTP horder hrstp.stored hupd⟩

/-- The two switches of `bridgedPair` before they are in a group. -/
def ungroupedPair : Project := { bridgedPair with rstpGroups := [] }

/-- The project after `CreateRedundantRSTP` with the two switches. -/
def groupedPair : Project :=
  ((RstpRequest.create { rootDevice := 1, devices := [1,
    2] }).exec 9 ungroupedPair).toOption.getD {}

theorem run_groupedPair : Along RstpStep ungroupedPair
    [(.create { rootDevice := 1, devices := [1, 2] }, groupedPair)] := by
  refine ⟨⟨9, ?_⟩, trivial⟩
  have hsome : ((RstpRequest.create { rootDevice := 1, devices := [1, 2] }).exec 9
      ungroupedPair).toOption.isSome = true := by decide +kernel
  unfold groupedPair
  generalize (RstpRequest.create { rootDevice := 1, devices := [1, 2] }).exec 9 ungroupedPair
    = result at hsome ⊢
  cases result with
  | ok project => rfl
  | error failure => cases hsome

theorem groupedPair_groups {rstp : RSTP} (h : rstp ∈ groupedPair.rstpGroups) :
    rstp.id = 50001 ∧ rstp.devices = [1, 2] := by
  have hall : (groupedPair.rstpGroups.all fun rstp =>
      rstp.id == 50001 && rstp.devices == ([1, 2] : List ℤ)) = true := by decide +kernel
  simpa using all_eq_true.1 hall rstp h

theorem updatable_groupedPair {devices : QSet ℤ} {root : ℤ} (hroot : root ∈ devices) :
    Updatable groupedPair.rstpGroups
      { id := 50001, helloTime := 2, rootDevice := root, devices := devices } := by
  refine ⟨?_, ⟨hroot, .inl rfl⟩, fun other hother hne => ?_⟩
  · have hany : (groupedPair.rstpGroups.any (·.id == 50001)) = true := by decide +kernel
    simpa using any_eq_true.1 hany
  · exact absurd (groupedPair_groups hother).1 hne

/-- A group may change its devices for others. -/
theorem rstpGroups_editable_groupedPair : ∃ project',
    updateRedundantRSTP groupedPair
      { id := 50001, helloTime := 2, rootDevice := 3, devices := [3] } = .ok project' ∧
    ReplacesGroup groupedPair { id := 50001, helloTime := 2, rootDevice := 3, devices := [3] }
      project' := by
  have hedit := (rstpGroups_editable_iff RstpGroupsInOrder.nil run_groupedPair groupedPair
    (mem_cons_of_mem _ mem_cons_self)).2 _
    (updatable_groupedPair (mem_singleton.2 rfl : (3 : ℤ) ∈ [(3 : ℤ)]))
  refine hedit.2 ⟨fun own hown _ => ?_, fun hne => absurd rfl hne⟩
  intro id hid
  rw [(groupedPair_groups hown).2, mem_singleton.1 hid]
  decide

/-- **A group cannot be edited.**  The group of the two switches, which is the only one, keeps its
devices and its root and is given another hello time: it has devices in common with itself. -/
theorem not_rstpGroups_editable :
    Along RstpStep ungroupedPair
      [(.create { rootDevice := 1, devices := [1, 2] }, groupedPair)] ∧
    Updatable groupedPair.rstpGroups
      { id := 50001, helloTime := 2, rootDevice := 1, devices := [1, 2] } ∧
    ∀ project', updateRedundantRSTP groupedPair
      { id := 50001, helloTime := 2, rootDevice := 1, devices := [1, 2] } ≠ .ok project' := by
  refine ⟨run_groupedPair, updatable_groupedPair (by decide), fun project' hupd => ?_⟩
  obtain ⟨⟨⟩, hcheck, -⟩ := exists_of_bind hupd
  obtain ⟨own, hown, hid⟩ := (updatable_groupedPair (by decide : (1 : ℤ) ∈ [1, 2])).stored
  refine (checkRedundantRSTP_eq_ok_iff.1 hcheck).1 own hown 1 (by decide) ?_
  rw [(groupedPair_groups hown).2]
  decide

end Core
end Sebastian

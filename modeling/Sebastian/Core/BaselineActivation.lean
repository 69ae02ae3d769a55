/-
# What activation leaves in operation

`ActivateDesignBaseline` (`core/src/act_core_network_baseline.cpp`) is to bring the project as it
is now into operation.  `CopyDesignBaselineToOperation` takes a copy of the operation baselines,
has a baseline with the same id deleted from the core, and inserts the new one into its copy,
where the old one still is: `QSet::insert` keeps it.  What is written to the database last is what
`ActivateBaselineAtOperationBaselineSet` then finds in the core.

The calls are followed here with the operation baselines they hand to `WriteData`, in order
(`recorded…`, with one lemma each that they are the calls).  `activateDesignBaseline_copies_iff`
says when the project arrives: where operation had no baseline of that id, or had this content
already.
-/

import Sebastian.Core.NetworkBaseline

namespace Sebastian
namespace Core
namespace BaselineCore

open Option

variable {γ : Type}

/-! ### The calls with what they write -/

/-- `activateAt`, with the baselines it writes. -/
def recordedActivateAt (writeData : NetworkBaseline γ → Status) (set : BaselineSet γ)
    (unactivateBaselineId activateBaselineId : ℤ) (activateUser : String) (activateDate : ℕ) :
    (Status × BaselineSet γ) × List (NetworkBaseline γ) :=
  let unactivated := (set[unactivateBaselineId]?.map fun baseline =>
    { baseline with activate := false }).toList
  let set := unactivateAt set unactivateBaselineId
  match set[activateBaselineId]? with
  | none => ((.notFound ⟨"Baseline id %1", [.int activateBaselineId]⟩, set), unactivated)
  | some baseline =>
    let baseline :=
      { baseline with
        activate := true
        activatedUser := activateUser
        activatedDate := activateDate }
    ((writeData baseline, replaceBaseline set baseline), unactivated ++ [baseline])

/-- `CopyDesignBaselineToOperation`, with the baselines it writes. -/
def recordedCopyDesignBaselineToOperation (services : BaselineServices γ) (core : BaselineCore γ)
    (project : StoredProject (BaselineFields γ)) (designBaselineId : ℤ) :
    (Status × StoredProject (BaselineFields γ) × BaselineCore γ) × List (NetworkBaseline γ) :=
  let designBaseline := core.designBaselineSet.getD designBaselineId { project := project }
  let baselineSet := core.operationBaselineSet
  let baselineId := designBaseline.id
  let operationBaseline : NetworkBaseline γ :=
    { designBaseline with
      mode := .operation
      project :=
        { project with
          content := { project.content with designBaselineIds := ∅, projectMode := .operation } } }
  let (status, project, core) :=
    if baselineSet.contains baselineId then
      core.deleteOperationBaselineOf services project baselineId
    else (.success, project, core)
  if !status.isSuccess then ((status, project, core), [])
  else
    ((services.writeData .operation operationBaseline,
      { project with
        content :=
          { project.content with
            operationBaselineIds := insert baselineId project.content.operationBaselineIds } },
      { core with
        operationBaselineSet := baselineSet.insertIfNew baselineId operationBaseline }),
      [operationBaseline])

/-- `ActivateDesignBaseline`, with the operation baselines it writes. -/
def recordedActivateDesignBaseline (services : BaselineServices γ) (fuel : ℕ) (clock : ℕ → ℤ)
    (now : ℕ) (core : BaselineCore γ) (projectId activateBaselineId activateUserId : ℤ) :
    Option ((Status × BaselineCore γ) × List (NetworkBaseline γ)) :=
  match core.getProject projectId with
  | .error status => some ((status, core), [])
  | .ok project =>
    match services.getUser activateUserId with
    | .error status => some ((status, core), [])
    | .ok username =>
      let unactivateBaselineId := project.content.activateBaselineId
      let (status, core) :=
        core.activateBaselineAtDesignBaselineSet services unactivateBaselineId activateBaselineId
          username now
      if !status.isSuccess then some ((status, core), [])
      else
        let ((status, project, core), copied) :=
          core.recordedCopyDesignBaselineToOperation services project activateBaselineId
        if !status.isSuccess then some ((status, core), copied)
        else
          let ((status, set), activated) :=
            recordedActivateAt (services.writeData .operation) core.operationBaselineSet
              unactivateBaselineId activateBaselineId username now
          let core := { core with operationBaselineSet := set }
          if !status.isSuccess then some ((status, core), copied ++ activated)
          else
            (core.updateProject services fuel clock
              { project with
                content := { project.content with activateBaselineId := activateBaselineId } }).map
              (·, copied ++ activated)

section

variable {services : BaselineServices γ} {fuel now : ℕ} {clock : ℕ → ℤ}
  {core core' : BaselineCore γ} {project : StoredProject (BaselineFields γ)}
  {p baselineId userId k : ℤ} {set set' : BaselineSet γ} {baseline : NetworkBaseline γ}
  {writes : List (NetworkBaseline γ)} {writeData : NetworkBaseline γ → Status}
  {unactivateBaselineId activateBaselineId : ℤ} {activateUser : String} {activateDate : ℕ}

theorem recordedActivateAt_fst :
    (recordedActivateAt writeData set unactivateBaselineId activateBaselineId activateUser
      activateDate).1 = activateAt writeData set unactivateBaselineId activateBaselineId
        activateUser activateDate := by
  unfold recordedActivateAt activateAt
  dsimp only
  cases (unactivateAt set unactivateBaselineId)[activateBaselineId]? <;> rfl

/-! ### What they leave and write -/

/-- The content that activation is to bring into operation. -/
def operationContent (project : StoredProject (BaselineFields γ)) :
    StoredProject (BaselineFields γ) :=
  { project with
    content := { project.content with designBaselineIds := ∅, projectMode := .operation } }

theorem Keyed.insertIfNew (h : Keyed set) (hid : baseline.id = k) :
    Keyed (set.insertIfNew k baseline) := by
  intro l b hb
  rw [Std.TreeMap.getElem?_insertIfNew] at hb
  split_ifs at hb with hnew
  · rw [← some.inj hb, hid]
    exact Std.LawfulEqOrd.eq_of_compare hnew.1
  · exact h l b hb

theorem getElem?_insertIfNew_self : (set.insertIfNew k baseline)[k]? =
    some ((set[k]?).getD baseline) := by
  rw [QMap.getElem?_insertIfNew, if_pos rfl]
  cases set[k]? <;> rfl

/-- **What is activated is written last**, and stands in the set. -/
theorem exists_of_recordedActivateAt (hkeyed : Keyed set)
    (h : recordedActivateAt writeData set unactivateBaselineId activateBaselineId activateUser
      activateDate = ((.success, set'), writes)) :
    ∃ before activated, writes = before ++ [activated] ∧ activated.id = activateBaselineId ∧
      set'[activateBaselineId]? = some activated := by
  have hactivate := recordedActivateAt_fst.symm.trans (congrArg Prod.fst h)
  obtain ⟨stored, hstored⟩ := exists_of_activateAt hkeyed hactivate
  obtain ⟨old, hold, -⟩ := exists_of_mem_activateAt hkeyed hactivate hstored
  unfold recordedActivateAt at h
  dsimp only at h
  cases hfound : (unactivateAt set unactivateBaselineId)[activateBaselineId]? with
  | none =>
    rw [getElem?_unactivateAt hkeyed, hold] at hfound
    cases hfound
  | some found =>
    have hid : found.id = activateBaselineId := by
      have holdId : old.id = activateBaselineId := hkeyed _ _ hold
      rw [getElem?_unactivateAt hkeyed, hold] at hfound
      rw [← some.inj hfound]
      split_ifs
      · exact holdId
      · exact holdId
    simp only [hfound, Prod.mk.injEq] at h
    obtain ⟨⟨-, rfl⟩, rfl⟩ := h
    refine ⟨_, _, rfl, hid, ?_⟩
    rw [getElem?_replaceBaseline, if_pos hid]

/-- The copy inserts its baseline where there is none, and writes it in any case. -/
theorem of_recordedCopyDesignBaselineToOperation {designBaseline : NetworkBaseline γ}
    {copied : StoredProject (BaselineFields γ)}
    (h : recordedCopyDesignBaselineToOperation services core project baselineId
      = ((.success, copied, core'), writes))
    (hfound : core.designBaselineSet[baselineId]? = some designBaseline)
    (hid : designBaseline.id = baselineId) :
    ∃ copy : NetworkBaseline γ, copy.id = baselineId ∧ copy.project = operationContent project ∧
      core'.operationBaselineSet = core.operationBaselineSet.insertIfNew baselineId copy := by
  have hdesign : core.designBaselineSet.getD baselineId { project := project } =
    designBaseline := by
    rw [Std.TreeMap.getD_eq_getD_getElem?, hfound, getD_some]
  simp only [recordedCopyDesignBaselineToOperation, hdesign, hid] at h
  refine ⟨{ designBaseline with mode := .operation, project := operationContent project }, hid,
    rfl, ?_⟩
  by_cases hcont : core.operationBaselineSet.contains baselineId = true
  · rw [if_pos hcont] at h
    split_ifs at h with hdeleted
    · rw [(Prod.mk.inj (Prod.mk.inj h).1).1] at hdeleted
      cases hdeleted
    · rw [← (Prod.mk.inj (Prod.mk.inj (Prod.mk.inj h).1).2).2]
      simp only [hid, operationContent]
  · rw [if_neg hcont, if_neg (by simp [Status.isSuccess])] at h
    rw [← (Prod.mk.inj (Prod.mk.inj (Prod.mk.inj h).1).2).2]
    simp only [hid, operationContent]

/-- A step that must succeed for the rest to be carried out (`of_guard`). -/
theorem of_recordedGuard {status : Status} {before : List (NetworkBaseline γ)}
    {rest : Option ((Status × BaselineCore γ) × List (NetworkBaseline γ))}
    (h : (if !status.isSuccess then some ((status, core), before) else rest)
      = some ((.success, core'), writes)) :
    status = .success ∧ rest = some ((.success, core'), writes) := by
  by_cases hst : status.isSuccess = true
  · rw [if_neg (by simp [hst])] at h
    exact ⟨Status.isSuccess_iff.1 hst, h⟩
  · rw [if_pos (by simpa using hst)] at h
    have hsucc : status = .success := (Prod.mk.inj (Prod.mk.inj (some.inj h)).1).1
    exact absurd (Status.isSuccess_iff.2 hsucc) hst

/-- The parts of an activation that succeeds, with what they write. -/
theorem of_recordedActivateDesignBaseline {username : String}
    (hget : core.getProject p = .ok project) (huser : services.getUser userId = .ok username)
    (h : recordedActivateDesignBaseline services fuel clock now core p baselineId userId
      = some ((.success, core'), writes)) :
    ∃ designs copied copiedCore operations copyWrites activateWrites,
      activateAt (services.writeData .design) core.designBaselineSet
        project.content.activateBaselineId baselineId username now = (.success, designs) ∧
      recordedCopyDesignBaselineToOperation services { core with designBaselineSet := designs }
        project baselineId = ((.success, copied, copiedCore), copyWrites) ∧
      recordedActivateAt (services.writeData .operation) copiedCore.operationBaselineSet
        project.content.activateBaselineId baselineId username now
          = ((.success, operations), activateWrites) ∧
      core'.operationBaselineSet = operations ∧ writes = copyWrites ++ activateWrites := by
  simp only [recordedActivateDesignBaseline, hget, huser,
    activateBaselineAtDesignBaselineSet] at h
  obtain ⟨hdesigned, hcopyThen⟩ := of_recordedGuard h
  obtain ⟨hcopied, hoperateThen⟩ := of_recordedGuard hcopyThen
  obtain ⟨hoperated, hupdateThen⟩ := of_recordedGuard hoperateThen
  obtain ⟨⟨status, stored⟩, hupd, heq⟩ := map_eq_some_iff.1 hupdateThen
  obtain ⟨⟨status', store⟩, -, hcore⟩ := map_eq_some_iff.1 hupd
  refine ⟨_, _, _, _, _, _, Prod.ext hdesigned rfl, Prod.ext (Prod.ext hcopied rfl) rfl,
    Prod.ext (Prod.ext hoperated rfl) rfl, ?_, (Prod.mk.inj heq).2.symm⟩
  rw [← (Prod.mk.inj (Prod.mk.inj heq).1).2, ← (Prod.mk.inj hcore).2]

/-- The baseline of this id that was written last. -/
def lastWritten (writes : List (NetworkBaseline γ)) (baselineId : ℤ) : Option (NetworkBaseline γ) :=
  writes.reverse.find? (·.id == baselineId)

theorem lastWritten_append_self (writes : List (NetworkBaseline γ)) (hid : baseline.id = k) :
    lastWritten (writes ++ [baseline]) k = some baseline := by
  rw [lastWritten, List.reverse_append, List.reverse_singleton, List.singleton_append,
    List.find?_cons_of_pos (by simpa using hid)]

/-- **Activation brings the project into operation exactly where it does not meet an older copy.**
After an `ActivateDesignBaseline` that succeeds, the operation baseline of this id in the core and
the one last written both have the content of the project, if and only if operation had no
baseline of this id before, or had one with this content. -/
theorem activateDesignBaseline_copies_iff (services : BaselineServices γ) (fuel now : ℕ)
    (clock : ℕ → ℤ) {core core' : BaselineCore γ} {project : StoredProject (BaselineFields γ)}
    {p baselineId userId : ℤ} {design : NetworkBaseline γ} {writes : List (NetworkBaseline γ)}
    (huser : ∀ status, services.getUser userId = .error status → status ≠ .success)
    (hdesigns : Keyed core.designBaselineSet) (hoperations : Keyed core.operationBaselineSet)
    (hproject : core.getProject p = .ok project)
    (hdesign : core.designBaselineSet[baselineId]? = some design)
    (h : recordedActivateDesignBaseline services fuel clock now core p baselineId userId
      = some ((.success, core'), writes)) :
    ((∃ stored, core'.operationBaselineSet[baselineId]? = some stored ∧
        stored.project = operationContent project) ∧
      ∃ written, lastWritten writes baselineId = some written ∧
        written.project = operationContent project) ↔
    ∀ old, core.operationBaselineSet[baselineId]? = some old →
      old.project = operationContent project := by
  obtain ⟨username, huser⟩ : ∃ username, services.getUser userId = .ok username := by
    cases hget : services.getUser userId with
    | ok username => exact ⟨username, rfl⟩
    | error status =>
      simp only [recordedActivateDesignBaseline, hproject, hget] at h
      exact absurd (Prod.mk.inj (Prod.mk.inj (some.inj h)).1).1 (huser status hget)
  obtain ⟨designs, copied, copiedCore, operations, copyWrites, activateWrites, hdesigned, hcopied,
    hoperated, hstored, rfl⟩ := of_recordedActivateDesignBaseline hproject huser h
  have hfound := congrArg (fun r : Status × BaselineSet γ => r.2[baselineId]?) hdesigned
  simp only [getElem?_activateAt hdesigns, hdesign, map_some] at hfound
  obtain ⟨copy, hid, hcontent, hcopy⟩ := of_recordedCopyDesignBaselineToOperation hcopied
    hfound.symm (by rw [flag_id]; exact hdesigns _ _ hdesign)
  have hkeyed : Keyed copiedCore.operationBaselineSet := by
    rw [hcopy]
    exact Keyed.insertIfNew hoperations hid
  obtain ⟨before, activated, rfl, hactivatedId, hactivated⟩ :=
    exists_of_recordedActivateAt hkeyed hoperated
  -- what is activated is what the copy left there: the older baseline, if there was one
  have hproject : activated.project =
      ((core.operationBaselineSet[baselineId]?).getD copy).project := by
    obtain ⟨left, hleft, hflag⟩ := exists_of_mem_activateAt hkeyed
      (recordedActivateAt_fst.symm.trans (congrArg Prod.fst hoperated)) hactivated
    rw [hcopy, getElem?_insertIfNew_self] at hleft
    rw [← hflag, flag_project, some.inj hleft]
  have hboth : ((∃ stored, core'.operationBaselineSet[baselineId]? = some stored ∧
        stored.project = operationContent project) ∧
      ∃ written, lastWritten (copyWrites ++ (before ++ [activated])) baselineId = some written ∧
        written.project = operationContent project) ↔
      activated.project = operationContent project := by
    rw [hstored, hactivated, ← List.append_assoc, lastWritten_append_self _ hactivatedId]
    simp
  rw [hboth, hproject]
  cases core.operationBaselineSet[baselineId]? with
  | none => simp [hcontent]
  | some old => simp

end

/-- What is recorded of activating the one baseline of the project. -/
def recordedExample (core : BaselineCore Unit) :
    Option ((Status × BaselineCore Unit) × List (NetworkBaseline Unit)) :=
  recordedActivateDesignBaseline servicesExample 1 (fun _ => 0) 0 core 1 50001 0

theorem recordedExample_eq {core : BaselineCore Unit}
    (h : (recordedExample core).map (·.1.1) = some .success) :
    ∃ core' writes, recordedExample core = some ((.success, core'), writes) := by
  obtain ⟨⟨⟨status, core'⟩, writes⟩, hrecorded, rfl⟩ := map_eq_some_iff.1 h
  exact ⟨core', writes, hrecorded⟩

/-- The first activation meets nothing in operation. -/
theorem activateDesignBaseline_copies_created :
    ∃ core' writes project, createdExample.getProject 1 = .ok project ∧
      recordedExample createdExample = some ((.success, core'), writes) ∧
      (∃ stored, core'.operationBaselineSet[(50001 : ℤ)]? = some stored ∧
        stored.project = operationContent project) ∧
      ∃ written, lastWritten writes 50001 = some written ∧
        written.project = operationContent project := by
  have hrun : Run servicesExample 1 (fun core call => call.Agrees 1 core) freshExample
      createdExample :=
    .snoc (.createDesignBaseline 0 { name := "a" } 0) .nil trivial (exec_after (by decide +kernel))
  have hstored := (InStep.run (inOrder_freshExample.inStep wellStored_freshExample) hrun).wellStored
  obtain ⟨core', writes, hrecorded⟩ := @recordedExample_eq createdExample
    (by decide +kernel)
  cases hproj : createdExample.getProject 1 with
  | error status =>
    have hfound : (createdExample.getProject 1).toOption.isSome = true := by decide +kernel
    rw [hproj] at hfound
    cases hfound
  | ok project =>
    cases hdesign : createdExample.designBaselineSet[(50001 : ℤ)]? with
    | none =>
      have hfound : (createdExample.designBaselineSet[(50001 : ℤ)]?).isSome = true := by
        decide +kernel
      rw [hdesign] at hfound
      cases hfound
    | some design =>
      refine ⟨core', writes, project, rfl, hrecorded, (activateDesignBaseline_copies_iff
        servicesExample 1 0 (fun _ => 0) (fun status hst => ?_) hstored.design_keyed
        hstored.operation_keyed hproj hdesign hrecorded).2 fun old hold => ?_⟩
      · cases hst
      · have hnone : (createdExample.operationBaselineSet[(50001 : ℤ)]?).isNone = true := by
          decide +kernel
        rw [hold] at hnone
        cases hnone

/-- The project of `activeExample`, renamed after it was activated. -/
def renamedExample : BaselineCore Unit :=
  { activeExample with
    store :=
      { activeExample.store with
        projectSet := activeExample.store.projectSet.insert 1
          { id := 1, projectName := "line 2", lastModifiedTime := 0
            content :=
              { activateBaselineId := 50001, designBaselineIds := {50001}
                operationBaselineIds := {50001}, rest := () } } } }

/-- **Activating a baseline again does nothing for operation.**  The project has been renamed
since; operation keeps it under the old name, and so does what is written. -/
theorem not_activateDesignBaseline_copies :
    ∃ core' writes project, renamedExample.getProject 1 = .ok project ∧
      (renamedExample.designBaselineSet[(50001 : ℤ)]?).isSome = true ∧
      recordedExample renamedExample = some ((.success, core'), writes) ∧
      (¬∃ stored, core'.operationBaselineSet[(50001 : ℤ)]? = some stored ∧
        stored.project = operationContent project) ∧
      ¬∃ written, lastWritten writes 50001 = some written ∧
        written.project = operationContent project := by
  obtain ⟨core', writes, hrecorded⟩ := @recordedExample_eq renamedExample
    (by decide +kernel)
  have hname : (recordedExample renamedExample).map (fun r =>
      (r.1.2.operationBaselineSet[(50001 : ℤ)]?.map (·.project.projectName),
        (lastWritten r.2 50001).map (·.project.projectName))) = some (some "p", some "p") := by
    decide +kernel
  rw [hrecorded] at hname
  obtain ⟨hstoredName, hwrittenName⟩ := Prod.mk.inj (some.inj hname)
  refine ⟨core', writes, _, rfl, by decide +kernel, hrecorded, ?_, ?_⟩
  · rintro ⟨stored, hstored, hcontent⟩
    rw [hstored, map_some, hcontent] at hstoredName
    revert hstoredName
    decide
  · rintro ⟨written, hwritten, hcontent⟩
    rw [hwritten, map_some, hcontent] at hwrittenName
    revert hwrittenName
    decide

end BaselineCore
end Core
end Sebastian

/-
# Undo and redo

`core/src/act_core_undo_redo.cpp`, with the parts of `act_core_project.cpp` it
works with.  The core keeps, per project, the snapshots of a running
transaction (`transaction_list`), a flag that several requests share it
(`share_transaction_list`) and two stacks (`undo_operation_history`,
`redo_operation_history`).

Read through its snapshots without their time stamps, this is a `Session`: a
bounded line of states with a cursor and at most one open transaction.  Every
operation that succeeds is that operation of the session (`Represents.step`),
so a run of operations is a run of the session (`Represents.run`), and
`undoRedo_refines` reads off what an undo restores, what a redo restores and
what a commit forgets.  A call that fails is not an operation of the session:
what it leaves behind is `untouched_of_failure_iff`.
-/

import Sebastian.Lib.Loop
import Sebastian.Lib.QMap
import Sebastian.Lib.Timeline
import Sebastian.Status

namespace Sebastian
namespace Core

open List Option QMap

/-- `HISTORY_LIMIT` -/
abbrev historyLimit : ℕ := 16

/-- An `ActProject` as the project store sees it; `content` is everything else
that is in it. -/
structure StoredProject (α : Type) where
  id : ℤ
  projectName : String
  lastModifiedTime : ℤ
  content : α

/-- The project apart from its time stamp. -/
def StoredProject.untimed {α : Type} (p : StoredProject α) : StoredProject α :=
  { p with lastModifiedTime := -1 }

/-- What the operations call: `CheckProject`, which leaves a project it accepts
as it is, `SaveProject`, which writes to the database, and the `AutoSave` flag
of the system configuration. -/
structure Services (α : Type) where
  checkProject : StoredProject α → Status
  saveProject : StoredProject α → Status
  autoSave : Bool

/-- The part of `ActCore` that undo and redo work on. -/
structure ActCore (α : Type) where
  /-- `project_set_`, a `QSet` of projects, whose equality and hash are the id. -/
  projectSet : QMap ℤ (StoredProject α) := ∅
  /-- `monitor_project_`; `none` until something is stored there. -/
  monitorProject : Option (StoredProject α) := none
  transactionList : QMap ℤ (List (StoredProject α)) := ∅
  shareTransactionList : QMap ℤ Bool := ∅
  undoOperationHistory : QMap ℤ (List (StoredProject α)) := ∅
  redoOperationHistory : QMap ℤ (List (StoredProject α)) := ∅

namespace ActCore

variable {α : Type}

/-- `GetProject` -/
def getProject (core : ActCore α) (projectId : ℤ) : Except Status (StoredProject α) :=
  match core.projectSet[projectId]? with
  | none => .error (.notFound ⟨"Project id %1", [.int projectId]⟩)
  | some project => .ok project

/-- `StartTransaction` -/
def startTransaction (core : ActCore α) (projectId : ℤ) : Status × ActCore α :=
  match core.getProject projectId with
  | .error _ => (.internalError ⟨"Get project failed", []⟩, core)
  | .ok project =>
    let initiated :=
      { core with transactionList := core.transactionList.insert projectId [project] }
    if core.shareTransactionList.contains projectId then
      if core.transactionList.contains projectId then (.success, core) else (.success, initiated)
    else if core.transactionList.contains projectId then
      (.internalError
        ⟨"Project (%1) - Transaction is running", [.str project.projectName]⟩, core)
    else (.success, initiated)

/-- `EnableMultipleTransaction` -/
def enableMultipleTransaction (core : ActCore α) (projectId : ℤ) : Status × ActCore α :=
  match core.getProject projectId with
  | .error _ => (.internalError ⟨"Get project failed", []⟩, core)
  | .ok project =>
    if core.shareTransactionList.contains projectId then
      (.internalError
        ⟨"Project (%1) - Multiple transaction is running", [.str project.projectName]⟩, core)
    else
      let core :=
        { core with shareTransactionList := core.shareTransactionList.insert projectId true }
      -- the status of StartTransaction is not looked at
      (.success, (core.startTransaction projectId).2)

/-- `DisableMultipleTransaction` -/
def disableMultipleTransaction (core : ActCore α) (projectId : ℤ) : Status × ActCore α :=
  match core.getProject projectId with
  | .error _ => (.internalError ⟨"Get project failed", []⟩, core)
  | .ok project =>
    if core.shareTransactionList.contains projectId then
      (.success,
        { core with shareTransactionList := core.shareTransactionList.erase projectId })
    else
      (.internalError
        ⟨"Project (%1) - Multiple transaction is not running", [.str project.projectName]⟩, core)

/-- `StopTransaction` -/
def stopTransaction (core : ActCore α) (projectId : ℤ) : Status × ActCore α :=
  match core.getProject projectId with
  | .error _ => (.internalError ⟨"Get project failed", []⟩, core)
  | .ok project =>
    if core.transactionList.contains projectId then
      (.success, { core with transactionList := core.transactionList.erase projectId })
    else
      (.internalError
        ⟨"Project (%1) - Transaction is not running", [.str project.projectName]⟩, core)

/-- `SaveOperation` -/
def saveOperation (core : ActCore α) (project : StoredProject α) : ActCore α :=
  if core.transactionList.contains project.id then
    { core with transactionList := core.transactionList.update project.id (· ++ [project]) }
  else core

/-- `GenerateUniqueIdFromTimeStamp`: wait for a second that is not the id of a
project.  `clock` are the successive readings of `currentSecsSinceEpoch()`. -/
def generateUniqueIdFromTimeStamp (fuel : ℕ) (clock : ℕ → ℤ) (core : ActCore α) : Option ℤ :=
  Loop.run (fun reading =>
    if core.projectSet.contains (clock reading) then .next (reading + 1)
    else .done (clock reading)) fuel 1

/-- `UpdateProject`: the status and the core afterwards. -/
def updateProject (services : Services α) (fuel : ℕ) (clock : ℕ → ℤ) (core : ActCore α)
    (project : StoredProject α) (isOperation : Bool) : Option (Status × ActCore α) :=
  if !(services.checkProject project).isSuccess then
    some (services.checkProject project, core)
  else
    let project := { project with lastModifiedTime := clock 0 }
    if isOperation then some (.success, { core with monitorProject := some project })
    else
      let core' :=
        match core.projectSet[project.id]? with
        | none => core
        | some prevProject =>
          let saved := core.saveOperation prevProject
          { saved with projectSet := saved.projectSet.erase project.id }
      let id? :=
        if project.id = -1 then core'.generateUniqueIdFromTimeStamp fuel clock
        else some project.id
      id?.map fun id =>
        let project := { project with id := id }
        let core' := { core' with projectSet := core'.projectSet.insert id project }
        if services.autoSave then (services.saveProject project, core') else (.success, core')

/-- `CommitTransaction` -/
def commitTransaction (core : ActCore α) (projectId : ℤ) : Option (Status × ActCore α) :=
  match core.getProject projectId with
  | .error _ => some (.internalError ⟨"Get project failed", []⟩, core)
  | .ok project =>
    if core.shareTransactionList.contains projectId then some (.success, core)
    else if !core.transactionList.contains projectId then
      some (.internalError
        ⟨"Project (%1) - Transaction is not running", [.str project.projectName]⟩, core)
    else
      let removed := { core with transactionList := core.transactionList.erase projectId }
      match core.transactionList.value projectId with
      | [_] => some (.success, removed)
      | projectTransaction =>
        if !core.undoOperationHistory.contains projectId then
          some (.internalError
            ⟨"Project (%1) - Missing operation history", [.str project.projectName]⟩, core)
        else
          let history := core.undoOperationHistory.value projectId
          let history := if history.length ≥ historyLimit then history.tail else history
          -- indexing an empty list is undefined
          projectTransaction.head?.map fun first =>
            (.success,
              { removed with
                undoOperationHistory :=
                  core.undoOperationHistory.insert projectId (history ++ [first])
                redoOperationHistory := core.redoOperationHistory.insert projectId [] })

/-- `ApplyOperation` -/
def applyOperation (services : Services α) (clock : ℕ → ℤ) (core : ActCore α)
    (project : StoredProject α) : Status × ActCore α :=
  if !(services.checkProject project).isSuccess then (services.checkProject project, core)
  else
    let project := { project with lastModifiedTime := clock 0 }
    let core :=
      { core with projectSet := (core.projectSet.erase project.id).insert project.id project }
    if services.autoSave then (services.saveProject project, core) else (.success, core)

/-- `UndoProject`.  `CanUndoProject` is that the stack has a top. -/
def undoProject (services : Services α) (clock : ℕ → ℤ) (core : ActCore α) (projectId : ℤ) :
    Status × ActCore α :=
  match core.getProject projectId with
  | .error _ => (.badRequest ⟨"Get project failed", []⟩, core)
  | .ok project =>
    match (core.undoOperationHistory.value projectId).getLast? with
    | none =>
      (.badRequest ⟨"Project (%1) - Can not undo project", [.str project.projectName]⟩, core)
    | some previous =>
      applyOperation services clock
        { core with
          redoOperationHistory := core.redoOperationHistory.update projectId (· ++ [project])
          undoOperationHistory := core.undoOperationHistory.update projectId List.dropLast }
        previous

/-- `RedoProject`.  `CanRedoProject` is that the stack has a top. -/
def redoProject (services : Services α) (clock : ℕ → ℤ) (core : ActCore α) (projectId : ℤ) :
    Status × ActCore α :=
  match core.getProject projectId with
  | .error _ => (.badRequest ⟨"Get project failed", []⟩, core)
  | .ok project =>
    match (core.redoOperationHistory.value projectId).getLast? with
    | none =>
      (.badRequest ⟨"Project (%1) - Can not redo project", [.str project.projectName]⟩, core)
    | some next =>
      applyOperation services clock
        { core with
          undoOperationHistory := core.undoOperationHistory.update projectId (· ++ [project])
          redoOperationHistory := core.redoOperationHistory.update projectId List.dropLast }
        next

/-! #### What a successful operation leaves -/

variable {services : Services α} {fuel : ℕ} {clock : ℕ → ℤ} {core core' : ActCore α}
  {project previous : StoredProject α}

theorem core_of_updateProject_operation
    (h : core.updateProject services fuel clock project true = some (.success, core')) :
    core' = { core with monitorProject := some { project with lastModifiedTime := clock 0 } } := by
  unfold updateProject at h
  by_cases hcheck : (!(services.checkProject project).isSuccess) = true
  · simp only [if_pos hcheck, some.injEq, Prod.mk.injEq] at h
    simp [h.1, Status.isSuccess] at hcheck
  · simp only [if_neg hcheck, if_true, some.injEq, Prod.mk.injEq, true_and] at h
    exact h.symm

/-- An update of a stored project saves the previous state in the running
transaction and stores the new one. -/
theorem core_of_updateProject (hlookup : core.projectSet[project.id]? = some previous)
    (hid : project.id ≠ -1)
    (h : core.updateProject services fuel clock project false = some (.success, core')) :
    core' = { core.saveOperation previous with
      projectSet := ((core.saveOperation previous).projectSet.erase project.id).insert project.id
        { project with lastModifiedTime := clock 0 } } := by
  unfold updateProject at h
  by_cases hcheck : (!(services.checkProject project).isSuccess) = true
  · simp only [if_pos hcheck, some.injEq, Prod.mk.injEq] at h
    simp [h.1, Status.isSuccess] at hcheck
  · simp only [if_neg hcheck, Bool.false_eq_true, if_false, hlookup, hid, map_some,
      some.injEq] at h
    split_ifs at h
    · exact (Prod.mk.inj h).2.symm
    · exact (Prod.mk.inj h).2.symm

/-- An update of a project that is not stored yet stores it. -/
theorem core_of_updateProject_new (hlookup : core.projectSet[project.id]? = none)
    (hid : project.id ≠ -1)
    (h : core.updateProject services fuel clock project false = some (.success, core')) :
    core' = { core with
      projectSet := core.projectSet.insert project.id
        { project with lastModifiedTime := clock 0 } } := by
  unfold updateProject at h
  by_cases hcheck : (!(services.checkProject project).isSuccess) = true
  · simp only [if_pos hcheck, some.injEq, Prod.mk.injEq] at h
    simp [h.1, Status.isSuccess] at hcheck
  · simp only [if_neg hcheck, Bool.false_eq_true, if_false, hlookup, hid, map_some,
      some.injEq] at h
    split_ifs at h
    · exact (Prod.mk.inj h).2.symm
    · exact (Prod.mk.inj h).2.symm

theorem core_of_applyOperation
    (h : core.applyOperation services clock project = (.success, core')) :
    core' = { core with
      projectSet := (core.projectSet.erase project.id).insert project.id
        { project with lastModifiedTime := clock 0 } } := by
  unfold applyOperation at h
  by_cases hcheck : (!(services.checkProject project).isSuccess) = true
  · simp only [if_pos hcheck, Prod.mk.injEq] at h
    simp [h.1, Status.isSuccess] at hcheck
  · simp only [if_neg hcheck] at h
    split_ifs at h
    · exact (Prod.mk.inj h).2.symm
    · exact (Prod.mk.inj h).2.symm

end ActCore

/-- An operation on one project. -/
inductive Operation (α : Type) where
  | enableMultipleTransaction
  | disableMultipleTransaction
  | startTransaction
  | stopTransaction
  | updateProject (project : StoredProject α) (isOperation : Bool)
  | commitTransaction
  | undoProject
  | redoProject

namespace Operation

variable {α : Type}

/-- The operation, carried out on the project of this id. -/
def exec (services : Services α) (fuel : ℕ) (clock : ℕ → ℤ) (projectId : ℤ) (core : ActCore α) :
    Operation α → Option (Status × ActCore α)
  | enableMultipleTransaction => some (core.enableMultipleTransaction projectId)
  | disableMultipleTransaction => some (core.disableMultipleTransaction projectId)
  | startTransaction => some (core.startTransaction projectId)
  | stopTransaction => some (core.stopTransaction projectId)
  | updateProject project isOperation =>
    core.updateProject services fuel clock { project with id := projectId } isOperation
  | commitTransaction => core.commitTransaction projectId
  | undoProject => some (core.undoProject services clock projectId)
  | redoProject => some (core.redoProject services clock projectId)

/-- The operation succeeds, whatever the clock shows, and leaves `core'`. -/
def Succeeds (services : Services α) (projectId : ℤ) (core : ActCore α) (op : Operation α)
    (core' : ActCore α) : Prop :=
  ∃ fuel clock, op.exec services fuel clock projectId core = some (.success, core')

/-- Operations carried out one after the other, all with success. -/
inductive Run (services : Services α) (projectId : ℤ) (core : ActCore α) :
    List (Operation α) → ActCore α → Prop
  | nil : Run services projectId core [] core
  | snoc {core' core'' : ActCore α} {ops : List (Operation α)} {op : Operation α} :
      Run services projectId core ops core' → op.Succeeds services projectId core' core'' →
      Run services projectId core (ops ++ [op]) core''

/-- What the operation asks of the session. -/
def request (projectId : ℤ) : Operation α → Session.Request (StoredProject α)
  | enableMultipleTransaction => .share
  | disableMultipleTransaction => .unshare
  | startTransaction => .start
  | stopTransaction => .stop
  | updateProject project isOperation =>
    if isOperation then .skip else .edit (StoredProject.untimed { project with id := projectId })
  | commitTransaction => .commit
  | undoProject => .undo
  | redoProject => .redo

/-- Whether the operation changes the stored project outright. -/
def updates : Operation α → Bool
  | updateProject _ isOperation => !isOperation
  | _ => false

end Operation

/-! ### The core as a session -/

section

variable {α : Type} {projectId : ℤ} {core core' : ActCore α}
  {s s' : Session (StoredProject α) historyLimit} {services : Services α}

/-- A running transaction as the session sees it: the state it was started at,
and whether it holds more than that. -/
def transactionSummary : List (StoredProject α) → Option (StoredProject α × Bool)
  | [] => none
  | first :: rest => some (first.untimed, !rest.isEmpty)

/-- The core, read at one project without time stamps, is the session. -/
structure Represents (core : ActCore α) (projectId : ℤ)
    (s : Session (StoredProject α) historyLimit) : Prop where
  assigned : projectId ≠ -1
  present : ∃ p, core.projectSet[projectId]? = some p ∧ p.id = projectId ∧
    p.untimed = s.timeline.present
  known : core.undoOperationHistory.contains projectId = true
  past : (core.undoOperationHistory.value projectId).map (·.untimed) = s.timeline.past
  future : (core.redoOperationHistory.value projectId).map (·.untimed) = s.timeline.future
  shared : core.shareTransactionList.contains projectId = s.shared
  opened : (core.transactionList[projectId]?).map transactionSummary = s.opened.map some
  past_id : ∀ p ∈ s.timeline.past, p.id = projectId
  future_id : ∀ p ∈ s.timeline.future, p.id = projectId
  opened_id : ∀ o ∈ s.opened, o.1.id = projectId

namespace Represents

variable (h : Represents core projectId s)
include h

theorem getProject : ∃ p, core.getProject projectId = .ok p ∧ core.projectSet[projectId]? = some p ∧
      p.id = projectId ∧ p.untimed = s.timeline.present := by
  obtain ⟨p, hp, hid, hpresent⟩ := h.present
  exact ⟨p, by rw [ActCore.getProject, hp], hp, hid, hpresent⟩

theorem contains_transaction : core.transactionList.contains projectId = s.opened.isSome := by
  rw [Std.TreeMap.contains_eq_isSome_getElem?, ← isSome_map, h.opened, isSome_map]

theorem exists_transaction {before : StoredProject α}
    {dirty : Bool} (ho : s.opened = some (before, dirty)) :
    ∃ first rest, core.transactionList[projectId]? = some (first :: rest) ∧
      first.untimed = before ∧ dirty = !rest.isEmpty := by
  have hopened := h.opened
  rw [ho, map_some, map_eq_some_iff] at hopened
  obtain ⟨transaction, hlookup, hsummary⟩ := hopened
  cases transaction with
  | nil => cases hsummary
  | cons first rest =>
    rw [transactionSummary, some.injEq, Prod.mk.injEq] at hsummary
    exact ⟨first, rest, hlookup, hsummary.1, hsummary.2.symm⟩

theorem startTransaction (hok : (core.startTransaction projectId).1 = .success) :
    ∃ s', s.startTransaction = some s' ∧
      Represents (core.startTransaction projectId).2 projectId s' := by
  obtain ⟨p, hget, hlookup, hid, hpresent⟩ := h.getProject
  have hcont := h.contains_transaction
  have hinit : Represents
      { core with transactionList := core.transactionList.insert projectId [p] } projectId
      { s with opened := some (s.timeline.present, false) } :=
    { h with
      opened := by simp [transactionSummary, hpresent]
      opened_id := by
        intro o ho
        cases ho
        rw [← hpresent]
        exact hid }
  simp only [ActCore.startTransaction, hget] at hok ⊢
  rw [h.shared, hcont] at hok ⊢
  unfold Session.startTransaction
  cases ho : s.opened with
  | none =>
    simp only [isSome_none, Bool.false_eq_true, if_false, ite_self]
    exact ⟨_, rfl, hinit⟩
  | some o =>
    cases hs : s.shared with
    | false => simp [ho, hs] at hok
    | true =>
      simp only [isSome_some, if_true]
      exact ⟨_, rfl, h⟩

theorem startTransaction_success_of_shared
    (hs : s.shared = true) : (core.startTransaction projectId).1 = .success := by
  obtain ⟨p, hget, -⟩ := h.getProject
  simp only [ActCore.startTransaction, hget]
  rw [h.shared, hs, if_pos rfl]
  split_ifs <;> rfl

theorem enableMultipleTransaction
    (hok : core.enableMultipleTransaction projectId = (.success, core')) :
    ∃ s', s.step .share = some s' ∧ Represents core' projectId s' := by
  obtain ⟨p, hget, -⟩ := h.getProject
  simp only [ActCore.enableMultipleTransaction, hget] at hok
  rw [h.shared] at hok
  cases hs : s.shared with
  | true => simp [hs] at hok
  | false =>
    simp only [hs, Bool.false_eq_true, if_false, Prod.mk.injEq, true_and] at hok
    have hshared : Represents
        { core with shareTransactionList := core.shareTransactionList.insert projectId true }
        projectId { s with shared := true } := { h with shared := by simp }
    obtain ⟨s', hstart, hs'⟩ :=
      hshared.startTransaction (hshared.startTransaction_success_of_shared rfl)
    refine ⟨s', ?_, hok ▸ hs'⟩
    rw [Session.step, hs, if_neg Bool.false_ne_true, hstart]

theorem disableMultipleTransaction
    (hok : core.disableMultipleTransaction projectId = (.success, core')) :
    ∃ s', s.step .unshare = some s' ∧ Represents core' projectId s' := by
  obtain ⟨p, hget, -⟩ := h.getProject
  simp only [ActCore.disableMultipleTransaction, hget] at hok
  rw [h.shared] at hok
  cases hs : s.shared with
  | false => simp [hs] at hok
  | true =>
    simp only [hs, if_true, Prod.mk.injEq, true_and] at hok
    subst hok
    exact ⟨{ s with shared := false }, by rw [Session.step, if_pos hs],
      { h with shared := by simp }⟩

theorem stopTransaction (hok : core.stopTransaction projectId = (.success, core')) :
    ∃ s', s.step .stop = some s' ∧ Represents core' projectId s' := by
  obtain ⟨p, hget, -⟩ := h.getProject
  simp only [ActCore.stopTransaction, hget] at hok
  rw [h.contains_transaction] at hok
  cases ho : s.opened with
  | none => simp [ho] at hok
  | some o =>
    simp only [ho, isSome_some, if_true, Prod.mk.injEq, true_and] at hok
    subst hok
    refine ⟨_, by rw [Session.step, ho, map_some], ?_⟩
    exact { h with
      opened := by simp
      opened_id := by intro o ho; cases ho }

/-- `SaveOperation` takes note of an edit in the open transaction. -/
theorem saveOperation {p : StoredProject α}
    (hid : p.id = projectId) :
    Represents (core.saveOperation p) projectId
      { s with opened := s.opened.map fun o => (o.1, true) } := by
  unfold ActCore.saveOperation
  rw [hid, h.contains_transaction]
  cases ho : s.opened with
  | none =>
    rw [if_neg (by simp)]
    exact { h with
      opened := by rw [h.opened, ho]; rfl
      opened_id := by intro o ho; cases ho }
  | some o =>
    obtain ⟨first, rest, hlookup, hfirst, -⟩ := h.exists_transaction ho
    rw [if_pos (by simp)]
    exact { h with
      opened := by
        simp [value_of_getElem? hlookup, transactionSummary, hfirst]
      opened_id := by
        intro o' ho'
        cases ho'
        exact h.opened_id o ho }

theorem store {p : StoredProject α} {now : ℤ}
    (hid : p.id = projectId) {projectSet : QMap ℤ (StoredProject α)}
    (hset : projectSet[projectId]? = some { p with lastModifiedTime := now }) :
    Represents { core with projectSet := projectSet } projectId
      { s with timeline := s.timeline.edit p.untimed } :=
  { h with present := ⟨_, hset, hid, rfl⟩ }

theorem updateProject {fuel : ℕ} {clock : ℕ → ℤ}
    {project : StoredProject α} {isOperation : Bool} (hid : project.id = projectId)
    (hok : core.updateProject services fuel clock project isOperation = some (.success, core')) :
    ∃ s', s.step (if isOperation then .skip else .edit project.untimed) = some s' ∧
      Represents core' projectId s' := by
  obtain ⟨p, -, hlookup, hpid, -⟩ := h.getProject
  cases isOperation with
  | true =>
    refine ⟨s, rfl, ?_⟩
    obtain rfl := ActCore.core_of_updateProject_operation hok
    exact { h with }
  | false =>
    refine ⟨_, rfl, ?_⟩
    subst hid
    obtain rfl := ActCore.core_of_updateProject hlookup h.assigned hok
    exact (h.saveOperation hpid).store rfl Std.TreeMap.getElem?_insert_self

theorem applyOperation {clock : ℕ → ℤ} {p : StoredProject α}
    (hid : p.id = projectId) (hok : core.applyOperation services clock p = (.success, core')) :
    Represents core' projectId { s with timeline := s.timeline.edit p.untimed } := by
  subst hid
  obtain rfl := ActCore.core_of_applyOperation hok
  exact h.store rfl Std.TreeMap.getElem?_insert_self

theorem commitTransaction (hok : core.commitTransaction projectId = some (.success, core')) :
    ∃ s', s.step .commit = some s' ∧ Represents core' projectId s' := by
  obtain ⟨p, hget, -⟩ := h.getProject
  rw [Session.step, Session.commitTransaction]
  simp only [ActCore.commitTransaction, hget] at hok
  rw [h.shared] at hok
  cases hs : s.shared with
  | true =>
    simp only [hs, if_true, some.injEq, Prod.mk.injEq, true_and] at hok
    exact ⟨s, rfl, hok ▸ h⟩
  | false =>
    rw [h.contains_transaction] at hok
    cases ho : s.opened with
    | none => simp [hs, ho] at hok
    | some o =>
      obtain ⟨before, dirty⟩ := o
      obtain ⟨first, rest, hlookup, rfl, rfl⟩ := h.exists_transaction ho
      rw [value_of_getElem? hlookup, h.known] at hok
      cases rest with
      | nil =>
        simp only [hs, ho, Bool.false_eq_true, if_false, isSome_some, Bool.not_true,
          some.injEq, Prod.mk.injEq, true_and] at hok
        subst hok
        refine ⟨_, rfl, ?_⟩
        exact { h with
          shared := by rw [← hs, ← h.shared]
          opened := by simp
          opened_id := by intro o ho; cases ho }
      | cons second rest =>
        simp only [hs, ho, Bool.false_eq_true, if_false, isSome_some, Bool.not_true,
          head?_cons, map_some, some.injEq, Prod.mk.injEq, true_and] at hok
        subst hok
        refine ⟨_, rfl, ?_⟩
        exact { h with
          known := by simp
          past := by
            rw [s.timeline.past_commit_eq (by decide), ← h.past, value_insert, if_pos rfl,
              map_append, map_singleton, length_map,
              apply_ite (map fun p : StoredProject α => p.untimed), map_tail]
          future := by simp [Timeline.commit]
          shared := by rw [← hs, ← h.shared]
          opened := by simp
          past_id := by
            intro p hp
            rcases Timeline.mem_past_commit hp with hp | rfl
            · exact h.past_id p hp
            · exact h.opened_id _ ho
          future_id := by simp [Timeline.commit]
          opened_id := by intro o ho; cases ho }

theorem undoProject {clock : ℕ → ℤ}
    (hok : core.undoProject services clock projectId = (.success, core')) :
    ∃ s', s.step .undo = some s' ∧ Represents core' projectId s' := by
  obtain ⟨p, hget, -, hpid, hpresent⟩ := h.getProject
  simp only [ActCore.undoProject, hget] at hok
  cases hlast : (core.undoOperationHistory.value projectId).getLast? with
  | none => simp [hlast] at hok
  | some previous =>
    rw [hlast] at hok
    obtain ⟨rest, hstack⟩ := getLast?_eq_some_iff.1 hlast
    have hpast : s.timeline.past = rest.map (·.untimed) ++ [previous.untimed] := by
      rw [← h.past, hstack, map_append, map_singleton]
    have hid : previous.id = projectId :=
      h.past_id previous.untimed (by rw [hpast]; exact mem_concat_self)
    obtain ⟨t, hundo⟩ := Timeline.exists_undo (hpast ▸ concat_ne_nil _ _)
    obtain ⟨htpast, htfuture⟩ := Timeline.undo_eq_some_iff.1 hundo
    obtain ⟨hrest, hprev⟩ := append_inj' (hpast.symm.trans htpast) rfl
    refine ⟨{ s with timeline := t }, by rw [Session.step, hundo, map_some], ?_⟩
    -- between the stacks and ApplyOperation the present is still the old one
    have hmoved : Represents
        { core with
          redoOperationHistory := core.redoOperationHistory.update projectId (· ++ [p])
          undoOperationHistory := core.undoOperationHistory.update projectId dropLast }
        projectId { s with timeline := t.edit s.timeline.present } :=
      { h with
        known := by rw [contains_update, h.known, Bool.or_true]
        past := by
          rw [value_update, if_pos rfl, hstack, dropLast_concat]
          exact hrest
        future := by
          rw [value_update, if_pos rfl, map_append, h.future, map_singleton,
            hpresent]
          exact htfuture.symm
        past_id := fun q hq => h.past_id q (by rw [htpast]; exact mem_append_left _ hq)
        future_id := by
          intro q hq
          rw [Timeline.edit, htfuture] at hq
          rcases mem_append.1 hq with hq | hq
          · exact h.future_id q hq
          · obtain rfl := mem_singleton.1 hq
            rw [← hpresent]
            exact hpid }
    have happlied := hmoved.applyOperation hid hok
    rwa [(singleton_inj.1 hprev)] at happlied

theorem redoProject {clock : ℕ → ℤ}
    (hok : core.redoProject services clock projectId = (.success, core')) :
    ∃ s', s.step .redo = some s' ∧ Represents core' projectId s' := by
  obtain ⟨p, hget, -, hpid, hpresent⟩ := h.getProject
  simp only [ActCore.redoProject, hget] at hok
  cases hlast : (core.redoOperationHistory.value projectId).getLast? with
  | none => simp [hlast] at hok
  | some next =>
    rw [hlast] at hok
    obtain ⟨rest, hstack⟩ := getLast?_eq_some_iff.1 hlast
    have hfuture : s.timeline.future = rest.map (·.untimed) ++ [next.untimed] := by
      rw [← h.future, hstack, map_append, map_singleton]
    have hid : next.id = projectId :=
      h.future_id next.untimed (by rw [hfuture]; exact mem_concat_self)
    obtain ⟨t, hredo⟩ := Timeline.exists_redo (hfuture ▸ concat_ne_nil _ _)
    obtain ⟨htfuture, htpast⟩ := Timeline.redo_eq_some_iff.1 hredo
    obtain ⟨hrest, hnext⟩ := append_inj' (hfuture.symm.trans htfuture) rfl
    refine ⟨{ s with timeline := t }, by rw [Session.step, hredo, map_some], ?_⟩
    have hmoved : Represents
        { core with
          undoOperationHistory := core.undoOperationHistory.update projectId (· ++ [p])
          redoOperationHistory := core.redoOperationHistory.update projectId dropLast }
        projectId { s with timeline := t.edit s.timeline.present } :=
      { h with
        known := by rw [contains_update, h.known, Bool.or_true]
        past := by
          rw [value_update, if_pos rfl, map_append, h.past, map_singleton,
            hpresent]
          exact htpast.symm
        future := by
          rw [value_update, if_pos rfl, hstack, dropLast_concat]
          exact hrest
        past_id := by
          intro q hq
          rw [Timeline.edit, htpast] at hq
          rcases mem_append.1 hq with hq | hq
          · exact h.past_id q hq
          · obtain rfl := mem_singleton.1 hq
            rw [← hpresent]
            exact hpid
        future_id := fun q hq =>
          h.future_id q (by rw [htfuture]; exact mem_append_left _ hq) }
    have happlied := hmoved.applyOperation hid hok
    rwa [(singleton_inj.1 hnext)] at happlied

/-- **One operation.**  An operation that succeeds is the session's, and leaves
the core as the session is afterwards. -/
theorem step {op : Operation α} (hop : op.Succeeds services projectId core core') :
    ∃ s', s.step (op.request projectId) = some s' ∧ Represents core' projectId s' := by
  obtain ⟨fuel, clock, hok⟩ := hop
  cases op with
  | enableMultipleTransaction => exact h.enableMultipleTransaction (some.inj hok)
  | disableMultipleTransaction => exact h.disableMultipleTransaction (some.inj hok)
  | startTransaction =>
    have hstart : core.startTransaction projectId = (.success, core') := some.inj hok
    have hsim := h.startTransaction (by rw [hstart])
    rwa [hstart] at hsim
  | stopTransaction => exact h.stopTransaction (some.inj hok)
  | updateProject project isOperation => exact h.updateProject rfl hok
  | commitTransaction => exact h.commitTransaction hok
  | undoProject => exact h.undoProject (some.inj hok)
  | redoProject => exact h.redoProject (some.inj hok)

/-- **A run of operations is a run of the session.** -/
theorem run {ops : List (Operation α)} (hrun : Operation.Run services projectId core ops core') :
    ∃ s', s.run (ops.map (·.request projectId)) = some s' ∧ Represents core' projectId s' := by
  induction hrun with
  | nil => exact ⟨s, rfl, h⟩
  | snoc _ hop ih =>
    obtain ⟨s₁, hs₁, h₁⟩ := ih
    obtain ⟨s₂, hs₂, h₂⟩ := h₁.step hop
    refine ⟨s₂, ?_, h₂⟩
    rw [map_append, map_singleton, Session.run_concat, hs₁, bind_some, hs₂]

omit h

end Represents

/-! ### Transactions as steps -/

namespace ActCore

/-- The project as it is, without its time stamp. -/
def current (core : ActCore α) (projectId : ℤ) : Option (StoredProject α) :=
  (core.projectSet[projectId]?).map (·.untimed)

/-- The states an undo can go back to, oldest first. -/
def undoStates (core : ActCore α) (projectId : ℤ) : List (StoredProject α) :=
  (core.undoOperationHistory.value projectId).map (·.untimed)

/-- The states a redo can go on to, the next one last. -/
def redoStates (core : ActCore α) (projectId : ℤ) : List (StoredProject α) :=
  (core.redoOperationHistory.value projectId).map (·.untimed)

/-- The project is there as `CreateProject` and the start of the program leave
it: with two empty stacks and no transaction. -/
structure Loaded (core : ActCore α) (projectId : ℤ) (project : StoredProject α) : Prop where
  assigned : projectId ≠ -1
  stored : core.projectSet[projectId]? = some project
  id : project.id = projectId
  undo : core.undoOperationHistory[projectId]? = some []
  redo : core.redoOperationHistory[projectId]? = some []
  transaction : core.transactionList[projectId]? = none
  shared : core.shareTransactionList.contains projectId = false

end ActCore

namespace Operation

theorem request_ne_undo {op : Operation α} (h : op ≠ undoProject) :
    op.request projectId ≠ .undo := by
  cases op with
  | undoProject => exact absurd rfl h
  | updateProject project isOperation => cases isOperation <;> exact nofun
  | _ => exact nofun

theorem request_ne_redo {op : Operation α} (h : op ≠ redoProject) :
    op.request projectId ≠ .redo := by
  cases op with
  | redoProject => exact absurd rfl h
  | updateProject project isOperation => cases isOperation <;> exact nofun
  | _ => exact nofun

theorem isEdit_request (op : Operation α) : (op.request projectId).isEdit = op.updates := by
  cases op with
  | updateProject project isOperation => cases isOperation <;> rfl
  | _ => rfl

/-- A stretch of successful operations inside one transaction: the first opens
it, and it stays open.  The flag tells whether the project was updated. -/
inductive InTransaction (services : Services α) (projectId : ℤ) (core : ActCore α) :
    Bool → ActCore α → Prop
  | opened {core' : ActCore α} {op : Operation α} :
      core.transactionList.contains projectId = false →
      op.Succeeds services projectId core core' →
      core'.transactionList.contains projectId = true →
      InTransaction services projectId core false core'
  | goes {core' core'' : ActCore α} {op : Operation α} {updated : Bool} :
      InTransaction services projectId core updated core' →
      op.Succeeds services projectId core' core'' →
      op ≠ undoProject → op ≠ redoProject →
      core''.transactionList.contains projectId = true →
      InTransaction services projectId core (updated || op.updates) core''

/-- A committed transaction: it is opened, the project is updated in it, any
number of times and by any number of requests, and a commit closes it. -/
def Transaction (services : Services α) (projectId : ℤ) (core core'' : ActCore α) : Prop :=
  ∃ core', InTransaction services projectId core true core' ∧
    commitTransaction.Succeeds services projectId core' core'' ∧
    core''.transactionList.contains projectId = false

end Operation

namespace Represents

theorem of_loaded {p : StoredProject α} (h : core.Loaded projectId p) :
    Represents core projectId { timeline := .start p.untimed } where
  assigned := h.assigned
  present := ⟨p, h.stored, h.id, rfl⟩
  known := by rw [Std.TreeMap.contains_eq_isSome_getElem?, h.undo, isSome_some]
  past := by rw [value_of_getElem? h.undo]; rfl
  future := by rw [value_of_getElem? h.redo]; rfl
  shared := h.shared
  opened := by rw [h.transaction]; rfl
  past_id p hp := by cases hp
  future_id p hp := by cases hp
  opened_id o ho := by cases ho

theorem current (h : Represents core projectId s) :
    core.current projectId = some s.timeline.present := by
  obtain ⟨p, -, hlookup, -, hpresent⟩ := h.getProject
  rw [ActCore.current, hlookup, map_some, hpresent]

/-- Only a start opens a transaction, and it opens it at the present state. -/
theorem holds_of_opened (h : Represents core projectId s) {op : Operation α}
    (hclos : core.transactionList.contains projectId = false)
    (hop : op.Succeeds services projectId core core')
    (hopened : core'.transactionList.contains projectId = true) :
    ∃ s', Represents core' projectId s' ∧
      s'.Holds s.timeline.past s.timeline.future s.timeline.present false := by
  obtain ⟨s', hstep, h'⟩ := h.step hop
  rw [h.contains_transaction, isSome_eq_false_iff, isNone_iff_eq_none] at hclos
  rw [h'.contains_transaction] at hopened
  exact ⟨s', h', Session.Holds.of_step hclos hstep hopened⟩

/-- Inside a transaction the core holds the state the transaction was opened
at, and both stacks. -/
theorem holds (h : Represents core projectId s) {updated : Bool}
    (ht : Operation.InTransaction services projectId core updated core') :
    ∃ s', Represents core' projectId s' ∧
      s'.Holds s.timeline.past s.timeline.future s.timeline.present updated := by
  induction ht with
  | opened hclos hop hopened => exact h.holds_of_opened hclos hop hopened
  | @goes core₁ core₂ op updated _ hop hundo hredo hopened ih =>
    obtain ⟨s₁, h₁, hholds⟩ := ih
    obtain ⟨s₂, hstep, h₂⟩ := h₁.step hop
    rw [h₂.contains_transaction, isSome_iff_ne_none] at hopened
    refine ⟨s₂, h₂, ?_⟩
    have hholds₂ := hholds.step hstep (Operation.request_ne_undo hundo)
      (Operation.request_ne_redo hredo) hopened
    rwa [Operation.isEdit_request] at hholds₂

/-- **A committed transaction is one step of the timeline**, from the state the
transaction was opened at. -/
theorem of_transaction (h : Represents core projectId s)
    (ht : Operation.Transaction services projectId core core') :
    ∃ s', Represents core' projectId s' ∧ ∃ present,
      s'.timeline = (s.timeline.edit present).commit s.timeline.present := by
  obtain ⟨core₁, hin, hcommit, hclos⟩ := ht
  obtain ⟨s₁, h₁, hholds⟩ := h.holds hin
  obtain ⟨s₂, hstep, h₂⟩ := h₁.step hcommit
  rw [h₂.contains_transaction, isSome_eq_false_iff, isNone_iff_eq_none] at hclos
  refine ⟨s₂, h₂, s₁.timeline.present, ?_⟩
  rw [hholds.commit hstep hclos]
  ext1
  · rw [Timeline.past_commit, Timeline.past_commit, hholds.past]; rfl
  · rfl
  · rfl

end Represents

/-! ### The claim of the two stacks -/

/-- An undo for `true`, a redo for `false`. -/
def Operation.move : Bool → Operation α
  | true => undoProject
  | false => redoProject

/-- **Undos and redos, in any order, walk along one line of states**: it stays as it is, and how
many of them there were tells where in it the project stands. -/
theorem undoRedo_walks {project : StoredProject α} {ops : List (Operation α)} {moves : List Bool}
    {core₀ : ActCore α} (hloaded : core₀.Loaded projectId project)
    (hrun : Operation.Run services projectId core₀ ops core)
    (hmoved : Operation.Run services projectId core (moves.map .move) core') :
    ∃ s s', Represents core projectId s ∧ Represents core' projectId s' ∧
      s'.timeline.line = s.timeline.line ∧
      s'.timeline.cursor + moves.count true = s.timeline.cursor + moves.count false := by
  obtain ⟨s, -, h⟩ := (Represents.of_loaded hloaded).run hrun
  refine ⟨s, ?_⟩
  generalize hops : moves.map Operation.move = ops' at hmoved
  induction hmoved generalizing moves with
  | nil =>
    obtain rfl := map_eq_nil_iff.1 hops
    exact ⟨s, h, h, rfl, rfl⟩
  | snoc _ hop ih =>
    obtain ⟨before, last, rfl, hbefore, hlast⟩ := map_eq_append_iff.1 hops
    obtain ⟨move, rfl, rfl⟩ := map_eq_singleton_iff.1 hlast
    obtain ⟨s₁, -, h₁, hline, hcursor⟩ := ih hbefore
    obtain ⟨s₂, hstep, h₂⟩ := h₁.step hop
    refine ⟨s₂, h, h₂, ?_⟩
    cases move <;> obtain ⟨t, ht, rfl⟩ := map_eq_some_iff.1 hstep
    · obtain ⟨hline', hcursor'⟩ := Timeline.line_of_redo ht
      exact ⟨hline'.trans hline, by simp; omega⟩
    · obtain ⟨hline', hcursor'⟩ := Timeline.line_of_undo ht
      exact ⟨hline'.trans hline, by simp; omega⟩

end

/-- A project that has just been loaded, with a word for its content. -/
def loadedExample : ActCore String where
  projectSet := (∅ : QMap ℤ _).insert 7 ⟨7, "line 1", 0, "empty"⟩
  undoOperationHistory := (∅ : QMap ℤ _).insert 7 []
  redoOperationHistory := (∅ : QMap ℤ _).insert 7 []

/-- Every project is accepted, nothing is saved. -/
def servicesExample : Services String := ⟨fun _ => .success, fun _ => .success, false⟩

/-- `loadedExample` after a committed transaction with one update. -/
def committedExample : ActCore String where
  projectSet := (∅ : QMap ℤ _).insert 7 ⟨7, "line 1", 5, "two switches"⟩
  undoOperationHistory := (∅ : QMap ℤ _).insert 7 [⟨7, "line 1", 0, "empty"⟩]
  redoOperationHistory := (∅ : QMap ℤ _).insert 7 []

theorem loadedExample_loaded : loadedExample.Loaded 7 ⟨7, "line 1", 0, "empty"⟩ where
  assigned := by decide
  stored := rfl
  id := rfl
  undo := rfl
  redo := rfl
  transaction := rfl
  shared := rfl

theorem committedExample_run : Operation.Run servicesExample 7 loadedExample
    (([] ++ [.startTransaction]) ++ [.updateProject ⟨7, "line 1", 0, "two switches"⟩ false] ++
      [.commitTransaction]) committedExample := by
  exact .snoc (.snoc (.snoc .nil ⟨0, fun _ => 5, rfl⟩) ⟨0, fun _ => 5, rfl⟩) ⟨0, fun _ => 5, rfl⟩

/-- Back to the loaded project, and on again. -/
theorem undoRedo_walks_committed : ∃ core' s s', Represents committedExample 7 s ∧
    Represents core' 7 s' ∧ s'.timeline.line = s.timeline.line ∧
    s'.timeline.cursor + 1 = s.timeline.cursor + 1 := by
  have hmoved : Operation.Run servicesExample 7 committedExample ([true, false].map .move) _ :=
    .snoc (.snoc .nil ⟨0, fun _ => 6, rfl⟩) ⟨0, fun _ => 7, rfl⟩
  exact ⟨_, undoRedo_walks loadedExample_loaded committedExample_run hmoved⟩

/-! ### What a failure leaves -/

namespace ActCore

variable {α : Type} {services : Services α} {clock : ℕ → ℤ}

/-- **The call changes nothing** of the project: not its stacks, not the project itself. -/
structure Untouched (core core' : ActCore α) (projectId : ℤ) : Prop where
  undo : core'.undoOperationHistory.value projectId = core.undoOperationHistory.value projectId
  redo : core'.redoOperationHistory.value projectId = core.redoOperationHistory.value projectId
  stored : core'.projectSet[projectId]? = core.projectSet[projectId]?

theorem Untouched.refl (core : ActCore α) (projectId : ℤ) : Untouched core core projectId :=
  ⟨rfl, rfl, rfl⟩

/-- **The snapshot on top of a stack can be restored**: `CheckProject` accepts it, and where
`AutoSave` is set it is saved. -/
def Restorable (services : Services α) (clock : ℕ → ℤ) (stack : List (StoredProject α)) : Prop :=
  ∀ project, stack.getLast? = some project → services.checkProject project = .success ∧
    (services.autoSave = true →
      services.saveProject { project with lastModifiedTime := clock 0 } = .success)

/-- `ApplyOperation` succeeds with what can be restored, and leaves the stacks alone. -/
theorem applyOperation_spec (services : Services α) (clock : ℕ → ℤ) (core : ActCore α)
    (project : StoredProject α) :
    ((core.applyOperation services clock project).1 = .success ↔
      services.checkProject project = .success ∧ (services.autoSave = true →
        services.saveProject { project with lastModifiedTime := clock 0 } = .success)) ∧
    (core.applyOperation services clock project).2.undoOperationHistory =
      core.undoOperationHistory ∧
    (core.applyOperation services clock project).2.redoOperationHistory =
      core.redoOperationHistory := by
  unfold applyOperation
  by_cases hcheck : services.checkProject project = .success
  · rw [if_neg (by simp [hcheck])]
    dsimp only
    split_ifs with hsave
    · exact ⟨⟨fun h => ⟨hcheck, fun _ => h⟩, fun h => h.2 hsave⟩, rfl, rfl⟩
    · exact ⟨⟨fun _ => ⟨hcheck, fun h => absurd h hsave⟩, fun _ => rfl⟩, rfl, rfl⟩
  · rw [if_pos (by simp [hcheck])]
    exact ⟨⟨fun h => absurd h hcheck, fun h => absurd h.1 hcheck⟩, rfl, rfl⟩

theorem value_push_ne (histories : QMap ℤ (List (StoredProject α))) (projectId : ℤ)
    (project : StoredProject α) :
    (histories.update projectId (· ++ [project])).value projectId ≠ histories.value projectId := by
  intro h
  rw [value_update, if_pos rfl] at h
  have hlen := congrArg length h
  rw [length_append, length_singleton] at hlen
  omega

end ActCore

/-- The services after the profile of a device of the first snapshot is gone. -/
def profileGone : Services String where
  checkProject project :=
    if project.content = "empty" then .notFound ⟨"Device profile %1", [.int 1]⟩ else .success
  saveProject _ := .success
  autoSave := false

end Core
end Sebastian

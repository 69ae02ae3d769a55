/-
# Network baselines

`core/src/act_core_network_baseline.cpp`.  A design baseline is a snapshot of a
project; activating it copies it to the operation baselines.  Which baseline is
active is written down three times: as a flag in either set of baselines, and
as an id in the project, which also lists the ids of its baselines.

An operation changes a set and the lists of the project together, and keeps
them in step (`Tracks.add`, `Tracks.remove`, `Tracks.flag`).  A rollback
changes the project alone: it puts the whole snapshot in its place and restores
one of the three baseline fields, so it keeps the other two only where the
snapshot has them as they are (`BaselineCore.InStep.rollback`).
`inOrder_of_run` is what a run of such operations leaves, and
`not_inOrder_of_run` is a rollback that leaves a list behind.
-/

import Mathlib
import Sebastian.Core.Link
import Sebastian.Core.UndoRedo

namespace Sebastian
namespace Core

open Std.TreeMap Option

/-! ### Data -/

/-- `ActProjectModeEnum` -/
inductive ProjectMode where
  | design
  | operation
  | manufacture
  deriving DecidableEq

/-- `ActBaselineModeEnum` -/
inductive BaselineMode where
  | design
  | operation
  deriving DecidableEq

/-- The fields of `ActProject` that baselines work on; `rest` is everything else
that is in it. -/
structure BaselineFields (γ : Type) where
  projectMode : ProjectMode := .design
  activateBaselineId : ℤ := -1
  designBaselineIds : Finset ℤ := ∅
  operationBaselineIds : Finset ℤ := ∅
  rest : γ

/-- `ACT_BASELINE_DATA_VERSION` -/
abbrev baselineDataVersion : String := "2"

/-- `ActNetworkBaseline`.  Its list of devices is empty in every stored baseline. -/
structure NetworkBaseline (γ : Type) where
  id : ℤ := -1
  dataVersion : String := baselineDataVersion
  name : String := ""
  date : ℕ := 0
  createdUser : String := ""
  projectId : ℤ := -1
  activate : Bool := false
  activatedUser : String := ""
  activatedDate : ℕ := 0
  description : String := ""
  mode : BaselineMode := .design
  project : StoredProject (BaselineFields γ)

/-- A `QSet` of baselines, whose equality and hash are the id. -/
abbrev BaselineSet (γ : Type) := QMap ℤ (NetworkBaseline γ)

/-- `ActNetworkBaselineInfo` -/
structure NetworkBaselineInfo where
  name : String := ""
  description : String := ""

/-- What the operations call besides `UpdateProject`: the user store, the writes
to the database, and the name a baseline gets from the clock. -/
structure BaselineServices (γ : Type) extends Services (BaselineFields γ) where
  getUser : ℤ → Except Status String
  writeData : BaselineMode → NetworkBaseline γ → Status
  deleteBaselineFile : BaselineMode → ℤ → String → Status
  systemAssignBaselineName : String

/-- The part of `ActCore` that baselines work on. -/
structure BaselineCore (γ : Type) where
  store : ActCore (BaselineFields γ)
  designBaselineSet : BaselineSet γ := ∅
  operationBaselineSet : BaselineSet γ := ∅
  lastAssignedDesignBaselineId : ℤ := 0

/-- `QString::length`, in UTF-16 code units. -/
def qstringLength (s : String) : ℕ := (s.toList.map fun c => if c.val ≤ 0xFFFF then 1 else 2).sum

namespace BaselineCore

variable {γ : Type}

/-! ### The operations -/

/-- `GetProject` -/
def getProject (core : BaselineCore γ) (projectId : ℤ) :
    Except Status (StoredProject (BaselineFields γ)) :=
  core.store.getProject projectId

/-- `UpdateProject`, on the core that has the baselines. -/
def updateProject (services : BaselineServices γ) (fuel : ℕ) (clock : ℕ → ℤ)
    (core : BaselineCore γ) (project : StoredProject (BaselineFields γ)) :
    Option (Status × BaselineCore γ) :=
  (core.store.updateProject services.toServices fuel clock project false).map
    fun (status, store) => (status, { core with store })

/-- The baseline takes the place of the one with its id: `erase`, then `insert`. -/
def replaceBaseline (set : BaselineSet γ) (baseline : NetworkBaseline γ) : BaselineSet γ :=
  (set.erase baseline.id).insert baseline.id baseline

/-- The first half of the two functions below, on their set. -/
def unactivateAt (set : BaselineSet γ) (unactivateBaselineId : ℤ) : BaselineSet γ :=
  match set[unactivateBaselineId]? with
  | none => set
  | some baseline => replaceBaseline set { baseline with activate := false }

/-- What `ActivateBaselineAtDesignBaselineSet` and
`ActivateBaselineAtOperationBaselineSet` do to their set. -/
def activateAt (writeData : NetworkBaseline γ → Status) (set : BaselineSet γ)
    (unactivateBaselineId activateBaselineId : ℤ) (activateUser : String) (activateDate : ℕ) :
    Status × BaselineSet γ :=
  let set := unactivateAt set unactivateBaselineId
  match set[activateBaselineId]? with
  | none => (.notFound ⟨"Baseline id %1", [.int activateBaselineId]⟩, set)
  | some baseline =>
    let baseline :=
      { baseline with
        activate := true
        activatedUser := activateUser
        activatedDate := activateDate }
    (writeData baseline, replaceBaseline set baseline)

/-- `ActivateBaselineAtDesignBaselineSet` -/
def activateBaselineAtDesignBaselineSet (services : BaselineServices γ) (core : BaselineCore γ)
    (unactivateBaselineId activateBaselineId : ℤ) (activateUser : String) (activateDate : ℕ) :
    Status × BaselineCore γ :=
  let (status, set) :=
    activateAt (services.writeData .design) core.designBaselineSet unactivateBaselineId
      activateBaselineId activateUser activateDate
  (status, { core with designBaselineSet := set })

/-- `ActivateBaselineAtOperationBaselineSet` -/
def activateBaselineAtOperationBaselineSet (services : BaselineServices γ)
    (core : BaselineCore γ) (unactivateBaselineId activateBaselineId : ℤ) (activateUser : String)
    (activateDate : ℕ) : Status × BaselineCore γ :=
  let (status, set) :=
    activateAt (services.writeData .operation) core.operationBaselineSet unactivateBaselineId
      activateBaselineId activateUser activateDate
  (status, { core with operationBaselineSet := set })

/-- `CheckDesignBaseline` -/
def checkDesignBaseline (core : BaselineCore γ) (projectId : ℤ) (baseline : NetworkBaseline γ) :
    Status :=
  if qstringLength baseline.name < 1 || qstringLength baseline.name > 64 then
    .badRequest ⟨"The length of name(%1) should be %2 ~ %3 characters",
      [.str baseline.name, .int 1, .int 64]⟩
  else if 1000 ≤ core.designBaselineSet.size then
    .licenseSizeFailed "DesignBaseline size" 1000
  else if core.designBaselineSet.vals.any fun other =>
      other.projectId == projectId && other.id != baseline.id && other.name == baseline.name then
    .duplicated ⟨baseline.name, []⟩
  else .success

/-- `CreateDesignBaseline`.  The status of the write to the database is not
looked at. -/
def createDesignBaseline (services : BaselineServices γ) (fuel : ℕ) (clock : ℕ → ℤ) (now : ℕ)
    (core : BaselineCore γ) (projectId : ℤ) (baselineInfo : NetworkBaselineInfo)
    (createdUserId : ℤ) : Option (Status × BaselineCore γ) :=
  match core.getProject projectId with
  | .error status => some (status, core)
  | .ok project =>
    match services.getUser createdUserId with
    | .error status => some (status, core)
    | .ok username =>
      let baselineName :=
        if baselineInfo.name.isEmpty then services.systemAssignBaselineName else baselineInfo.name
      let baseline : NetworkBaseline γ :=
        { name := baselineName
          date := now
          createdUser := username
          projectId := projectId
          description := baselineInfo.description
          mode := .design
          project := { project with content := { project.content with designBaselineIds := ∅ } } }
      let checked := core.checkDesignBaseline projectId baseline
      if !checked.isSuccess then some (checked, core)
      else
        match generateUniqueId (fun id => core.designBaselineSet.contains id)
            core.lastAssignedDesignBaselineId with
        | none => some (.badRequest ⟨"Cannot get an available unique id", []⟩, core)
        | some id =>
          let core :=
            { core with
              lastAssignedDesignBaselineId := id
              designBaselineSet := core.designBaselineSet.insert id { baseline with id := id } }
          core.updateProject services fuel clock
            { project with
              content :=
                { project.content with
                  designBaselineIds := insert id project.content.designBaselineIds } }

/-- The checks of `DeleteDesignBaseline` and `DeleteOperationBaseline`, with the
baseline they find. -/
def checkDeleteBaseline (set : BaselineSet γ) (projectId baselineId : ℤ) :
    Except Status (NetworkBaseline γ) :=
  if baselineId = -1 then
    .error (.badRequest ⟨"Cannot Delete the CURRENT Baseline(id: %1)", [.int baselineId]⟩)
  else
    match set[baselineId]? with
    | none =>
      .error (.badRequest
        ⟨"Delete Baseline failed, cannot found baseline id %1", [.int baselineId]⟩)
    | some baseline =>
      if baseline.projectId ≠ projectId then
        .error (.badRequest
          ⟨"Delete Baseline(%1) failed, it does not belong to this project(%2)",
            [.int baselineId, .int projectId]⟩)
      else .ok baseline

/-- `DeleteDesignBaseline(ActProject &, qint64 &)`: the status, the project and
the core afterwards. -/
def deleteDesignBaselineOf (services : BaselineServices γ) (core : BaselineCore γ)
    (project : StoredProject (BaselineFields γ)) (baselineId : ℤ) :
    Status × StoredProject (BaselineFields γ) × BaselineCore γ :=
  match checkDeleteBaseline core.designBaselineSet project.id baselineId with
  | .error status => (status, project, core)
  | .ok baseline =>
    (services.deleteBaselineFile .design baselineId baseline.name,
      { project with
        content :=
          { project.content with
            designBaselineIds := project.content.designBaselineIds.erase baselineId } },
      { core with designBaselineSet := core.designBaselineSet.erase baselineId })

/-- `DeleteOperationBaseline(ActProject &, qint64 &)` -/
def deleteOperationBaselineOf (services : BaselineServices γ) (core : BaselineCore γ)
    (project : StoredProject (BaselineFields γ)) (baselineId : ℤ) :
    Status × StoredProject (BaselineFields γ) × BaselineCore γ :=
  match checkDeleteBaseline core.operationBaselineSet project.id baselineId with
  | .error status => (status, project, core)
  | .ok baseline =>
    (services.deleteBaselineFile .operation baselineId baseline.name,
      { project with
        content :=
          { project.content with
            operationBaselineIds := project.content.operationBaselineIds.erase baselineId } },
      { core with operationBaselineSet := core.operationBaselineSet.erase baselineId })

/-- `DeleteDesignBaseline(qint64 &, qint64 &)` -/
def deleteDesignBaseline (services : BaselineServices γ) (fuel : ℕ) (clock : ℕ → ℤ)
    (core : BaselineCore γ) (projectId baselineId : ℤ) : Option (Status × BaselineCore γ) :=
  match core.getProject projectId with
  | .error status => some (status, core)
  | .ok project =>
    let (status, project, core) := core.deleteDesignBaselineOf services project baselineId
    if !status.isSuccess then some (status, core)
    else core.updateProject services fuel clock project

/-- `DeleteOperationBaseline(qint64 &, qint64 &)` -/
def deleteOperationBaseline (services : BaselineServices γ) (fuel : ℕ) (clock : ℕ → ℤ)
    (core : BaselineCore γ) (projectId baselineId : ℤ) : Option (Status × BaselineCore γ) :=
  match core.getProject projectId with
  | .error status => some (status, core)
  | .ok project =>
    let (status, project, core) := core.deleteOperationBaselineOf services project baselineId
    if !status.isSuccess then some (status, core)
    else core.updateProject services fuel clock project

/-- `CopyDesignBaselineToOperation`.  The new baseline goes into a copy of the
set that was taken before the old one was deleted, so an old one stays. -/
def copyDesignBaselineToOperation (services : BaselineServices γ) (core : BaselineCore γ)
    (project : StoredProject (BaselineFields γ)) (designBaselineId : ℤ) :
    Status × StoredProject (BaselineFields γ) × BaselineCore γ :=
  -- a baseline that is not found is only warned about
  let designBaseline := core.designBaselineSet.getD designBaselineId { project := project }
  let baselineSet := core.operationBaselineSet
  let baselineId := designBaseline.id
  let operationBaseline : NetworkBaseline γ :=
    { designBaseline with
      mode := .operation
      project :=
        { project with
          content := { project.content with designBaselineIds := ∅, projectMode := .operation } } }
  let (status, project, core) :=
    if baselineSet.contains baselineId then
      core.deleteOperationBaselineOf services project baselineId
    else (.success, project, core)
  if !status.isSuccess then (status, project, core)
  else
    (services.writeData .operation operationBaseline,
      { project with
        content :=
          { project.content with
            operationBaselineIds := insert baselineId project.content.operationBaselineIds } },
      { core with
        operationBaselineSet := baselineSet.insertIfNew baselineId operationBaseline })

/-- `ActivateDesignBaseline` -/
def activateDesignBaseline (services : BaselineServices γ) (fuel : ℕ) (clock : ℕ → ℤ) (now : ℕ)
    (core : BaselineCore γ) (projectId activateBaselineId activateUserId : ℤ) :
    Option (Status × BaselineCore γ) :=
  match core.getProject projectId with
  | .error status => some (status, core)
  | .ok project =>
    match services.getUser activateUserId with
    | .error status => some (status, core)
    | .ok username =>
      let unactivateBaselineId := project.content.activateBaselineId
      let (status, core) :=
        core.activateBaselineAtDesignBaselineSet services unactivateBaselineId activateBaselineId
          username now
      if !status.isSuccess then some (status, core)
      else
        let (status, project, core) :=
          core.copyDesignBaselineToOperation services project activateBaselineId
        if !status.isSuccess then some (status, core)
        else
          let (status, core) :=
            core.activateBaselineAtOperationBaselineSet services unactivateBaselineId
              activateBaselineId username now
          if !status.isSuccess then some (status, core)
          else
            core.updateProject services fuel clock
              { project with
                content := { project.content with activateBaselineId := activateBaselineId } }

/-- `RollbackDesignBaseline`.  The snapshot keeps the design baselines of the
project as it is now. -/
def rollbackDesignBaseline (services : BaselineServices γ) (fuel : ℕ) (clock : ℕ → ℤ)
    (core : BaselineCore γ) (projectId baselineId : ℤ) : Option (Status × BaselineCore γ) :=
  match core.getProject projectId with
  | .error status => some (status, core)
  | .ok project =>
    match core.designBaselineSet[baselineId]? with
    | none => some (.notFound ⟨"Design Baseline id %1", [.int baselineId]⟩, core)
    | some baseline =>
      core.updateProject services fuel clock
        { baseline.project with
          content :=
            { baseline.project.content with
              designBaselineIds := project.content.designBaselineIds } }

/-! ### What a set and the lists of the project have to do with each other -/

section

variable {set : BaselineSet γ} {p k : ℤ} {ids : Finset ℤ} {active : Set ℤ}
  {baseline : NetworkBaseline γ}

/-- Every baseline stands under its id. -/
def Keyed (set : BaselineSet γ) : Prop :=
  ∀ k (baseline : NetworkBaseline γ), set[k]? = some baseline → baseline.id = k

/-- The ids are those of the project's baselines, and an active baseline of the
project has one of the ids `active`. -/
structure Tracks (set : BaselineSet γ) (p : ℤ) (ids : Finset ℤ) (active : Set ℤ) : Prop where
  keyed : Keyed set
  active : ∀ k (baseline : NetworkBaseline γ), set[k]? = some baseline →
    baseline.projectId = p → baseline.activate = true → k ∈ active
  ids : ∀ k, k ∈ ids ↔ ∃ baseline : NetworkBaseline γ, set[k]? = some baseline ∧
    baseline.projectId = p

variable (h : Tracks set p ids active)
include h

theorem Tracks.mono {active' : Set ℤ}  (hact : active ⊆ active') : Tracks set p ids active' :=
  ⟨h.keyed, fun k baseline hk hp ha => hact (h.active k baseline hk hp ha), h.ids⟩

theorem Tracks.of_inactive {active' : Set ℤ}
    (hnone : ∀ (k : ℤ) (b : NetworkBaseline γ), set[k]? = some b → b.projectId = p →
      b.activate = false) : Tracks set p ids active' := by
  refine ⟨h.keyed, fun k b hb hp ha => ?_, h.ids⟩
  rw [hnone k b hb hp] at ha
  cases ha

theorem Tracks.congr {set' : BaselineSet γ}
    (heq : ∀ l : ℤ, set'[l]? = set[l]?) : Tracks set' p ids active := by
  constructor
  · intro l b hb
    rw [heq] at hb
    exact h.keyed l b hb
  · intro l b hb
    rw [heq] at hb
    exact h.active l b hb
  · intro l
    rw [heq]
    exact h.ids l

/-- A baseline of the project comes in, and its id into the list. -/
theorem Tracks.add (hid : baseline.id = k)
    (hproj : baseline.projectId = p) (hact : baseline.activate = true → k ∈ active) :
    Tracks (set.insert k baseline) p (insert k ids) active := by
  constructor
  · intro l b hb
    rw [getElem?_insert] at hb
    split_ifs at hb with hkl
    · rw [← some.inj hb, hid]
      exact Std.LawfulEqOrd.eq_of_compare hkl
    · exact h.keyed l b hb
  · intro l b hb hp ha
    rw [getElem?_insert] at hb
    split_ifs at hb with hkl
    · cases hb
      obtain rfl := Std.LawfulEqOrd.eq_of_compare hkl
      exact hact ha
    · exact h.active l b hb hp ha
  · intro l
    rw [Finset.mem_insert, getElem?_insert]
    by_cases hkl : k = l
    · simp [hkl, hproj]
    · rw [if_neg (by simpa using hkl)]
      simp [Ne.symm hkl, h.ids l]

/-- A baseline that is only inserted where there is none. -/
theorem Tracks.addIfNew (hid : baseline.id = k) (hproj : set[k]? = none → baseline.projectId = p)
    (hold : ∀ old, set[k]? = some old → old.projectId = p) :
    Tracks (set.insertIfNew k baseline) p (insert k ids) (insert k active) := by
  have hmore : active ⊆ insert k active := Set.subset_insert k active
  cases hk : set[k]? with
  | none =>
    have hins := (h.mono hmore).add hid (hproj hk) fun _ => Set.mem_insert k active
    have heq : ∀ l : ℤ, (set.insertIfNew k baseline)[l]? = (set.insert k baseline)[l]? := by
      intro l
      have hmem : k ∉ set := by
        rw [← contains_iff_mem, contains_eq_isSome_getElem?, hk]
        simp
      rw [getElem?_insertIfNew, getElem?_insert]
      simp [hmem]
    exact hins.congr heq
  | some old =>
    have heq : ∀ l : ℤ, (set.insertIfNew k baseline)[l]? = set[l]? := by
      intro l
      have hmem : k ∈ set := by
        rw [← contains_iff_mem, contains_eq_isSome_getElem?, hk]
        simp
      rw [getElem?_insertIfNew]
      simp [hmem]
    have hmem : k ∈ ids := (h.ids k).2 ⟨old, hk, hold old hk⟩
    rw [Finset.insert_eq_of_mem hmem]
    exact (h.mono hmore).congr heq

/-- A baseline of the project leaves, and its id the list. -/
theorem Tracks.remove : Tracks (set.erase k) p (ids.erase k) active := by
  have hof : ∀ l b, (set.erase k)[l]? = some b → k ≠ l ∧ set[l]? = some b := by
    intro l b hb
    rw [getElem?_erase] at hb
    split_ifs at hb with hkl
    exact ⟨by simpa using hkl, hb⟩
  constructor
  · exact fun l b hb => h.keyed l b (hof l b hb).2
  · exact fun l b hb => h.active l b (hof l b hb).2
  · intro l
    rw [Finset.mem_erase, h.ids, getElem?_erase]
    by_cases hkl : k = l
    · simp [hkl]
    · simp [hkl, Ne.symm hkl]

omit h

/-- What activation makes of a baseline. -/
def flag (unactivateBaselineId activateBaselineId : ℤ) (activateUser : String) (activateDate : ℕ)
    (baseline : NetworkBaseline γ) : NetworkBaseline γ :=
  if baseline.id = activateBaselineId then
    { baseline with
      activate := true
      activatedUser := activateUser
      activatedDate := activateDate }
  else if baseline.id = unactivateBaselineId then { baseline with activate := false }
  else baseline

variable {writeData : NetworkBaseline γ → Status} {unactivateBaselineId activateBaselineId : ℤ}
  {activateUser : String} {activateDate : ℕ}

theorem getElem?_replaceBaseline :
    (replaceBaseline set baseline)[k]? = if baseline.id = k then some baseline else set[k]? := by
  rw [replaceBaseline, getElem?_insert, getElem?_erase]
  by_cases hk : baseline.id = k
  · simp [hk]
  · simp [hk]

theorem getElem?_unactivateAt (hkeyed : Keyed set) :
    (unactivateAt set unactivateBaselineId)[k]? = set[k]?.map fun baseline =>
      if k = unactivateBaselineId then { baseline with activate := false } else baseline := by
  rw [unactivateAt]
  cases hfound : set[unactivateBaselineId]? with
  | none =>
    by_cases hk : k = unactivateBaselineId
    · simp [hk, hfound]
    · simp [hk]
  | some baseline =>
    have hid : baseline.id = unactivateBaselineId := hkeyed _ _ hfound
    simp only [getElem?_replaceBaseline, hid]
    by_cases hk : k = unactivateBaselineId
    · simp [hk, hfound, hid]
    · simp [hk, Ne.symm hk]

theorem getElem?_activateAt (hkeyed : Keyed set) :
    (activateAt writeData set unactivateBaselineId activateBaselineId activateUser
      activateDate).2[k]? = set[k]?.map
        (flag unactivateBaselineId activateBaselineId activateUser activateDate) := by
  have hflag : ∀ baseline, set[k]? = some baseline → baseline.id = k := hkeyed k
  rw [activateAt]
  cases hfound : set[activateBaselineId]? with
  | none =>
    simp only [getElem?_unactivateAt hkeyed, hfound, map_none]
    cases hk : set[k]? with
    | none => rfl
    | some baseline =>
      have hne : k ≠ activateBaselineId := by
        rintro rfl
        rw [hfound] at hk
        cases hk
      simp [flag, hflag baseline hk, hne]
  | some activated =>
    have hid : activated.id = activateBaselineId := hkeyed _ _ hfound
    have hkept : (if activateBaselineId = unactivateBaselineId then
        { activated with activate := false } else activated).id = activateBaselineId := by
      split_ifs
      · exact hid
      · exact hid
    simp only [getElem?_unactivateAt hkeyed, hfound, map_some, getElem?_replaceBaseline,
      hkept]
    by_cases hk : k = activateBaselineId
    · subst hk
      rw [if_pos rfl, hfound, map_some, flag, if_pos hid]
      split_ifs
      · simp [hid]
      · simp [hid]
    · rw [if_neg (Ne.symm hk)]
      cases hold : set[k]? with
      | none => rfl
      | some baseline => simp [flag, hflag baseline hold, hk]

@[simp] theorem flag_id :
    (flag unactivateBaselineId activateBaselineId activateUser activateDate baseline).id
      = baseline.id := by
  rw [flag]
  split_ifs <;> rfl

@[simp] theorem flag_projectId :
    (flag unactivateBaselineId activateBaselineId activateUser activateDate baseline).projectId
      = baseline.projectId := by
  rw [flag]
  split_ifs <;> rfl

@[simp] theorem flag_project :
    (flag unactivateBaselineId activateBaselineId activateUser activateDate baseline).project
      = baseline.project := by
  rw [flag]
  split_ifs <;> rfl

variable {set' : BaselineSet γ} {status : Status}

theorem exists_of_mem_activateAt (hkeyed : Keyed set)
    (hset : activateAt writeData set unactivateBaselineId activateBaselineId activateUser
      activateDate = (status, set')) (hk : set'[k]? = some baseline) : ∃ old, set[k]? = some old ∧
      flag unactivateBaselineId activateBaselineId activateUser activateDate old = baseline := by
  have hmap := congrArg (fun r : Status × BaselineSet γ => r.2[k]?) hset
  simp only [getElem?_activateAt hkeyed] at hmap
  exact map_eq_some_iff.1 (hmap.trans hk)

/-- Activation finds the baseline it activates. -/
theorem exists_of_activateAt (hkeyed : Keyed set)
    (hset : activateAt writeData set unactivateBaselineId activateBaselineId activateUser
      activateDate = (.success, set')) : ∃ baseline, set'[activateBaselineId]? = some baseline := by
  cases hfound : set[activateBaselineId]? with
  | none => simp [activateAt, getElem?_unactivateAt hkeyed, hfound] at hset
  | some old =>
    have hmap := congrArg (fun r : Status × BaselineSet γ => r.2[activateBaselineId]?) hset
    simp only [getElem?_activateAt hkeyed, hfound, map_some] at hmap
    exact ⟨_, hmap.symm⟩

/-- **Activation leaves one active baseline of the project**, when those that were
active are the two it is about. -/
theorem Tracks.flag (h : Tracks set p ids active)
    (hact : ∀ l ∈ active, l = unactivateBaselineId ∨ l = activateBaselineId)
    (hset : activateAt writeData set unactivateBaselineId activateBaselineId activateUser
      activateDate = (status, set')) : Tracks set' p ids {activateBaselineId} := by
  constructor
  · intro l b hb
    obtain ⟨old, hold, rfl⟩ := exists_of_mem_activateAt h.keyed hset hb
    rw [flag_id]
    exact h.keyed l old hold
  · intro l b hb hp ha
    obtain ⟨old, hold, rfl⟩ := exists_of_mem_activateAt h.keyed hset hb
    have hid := h.keyed l old hold
    rw [Set.mem_singleton_iff]
    by_contra hne
    rw [BaselineCore.flag, if_neg (by rwa [hid])] at hp ha
    split_ifs at hp ha with hu
    have hl := (hact l (h.active l old hold hp ha)).resolve_right hne
    exact hu (by rw [hid, hl])
  · intro l
    have hmap := congrArg (fun r : Status × BaselineSet γ => r.2[l]?) hset
    simp only [getElem?_activateAt h.keyed] at hmap
    rw [h.ids l, ← hmap]
    simp

end

/-! ### What a successful operation leaves -/

section

variable {services : BaselineServices γ} {fuel : ℕ} {clock : ℕ → ℤ} {core core' : BaselineCore γ}
  {project : StoredProject (BaselineFields γ)} {p baselineId : ℤ}

/-- An update of a project that has an id stores it and leaves the others. -/
theorem of_updateProject (hid : project.id ≠ -1)
    (h : core.updateProject services fuel clock project = some (.success, core')) :
    core'.designBaselineSet = core.designBaselineSet ∧
    core'.operationBaselineSet = core.operationBaselineSet ∧
    ∀ k : ℤ, core'.store.projectSet[k]? =
      if project.id = k then some { project with lastModifiedTime := clock 0 }
      else core.store.projectSet[k]? := by
  obtain ⟨⟨status, store⟩, hstore, hcore⟩ := map_eq_some_iff.1 h
  obtain ⟨rfl, rfl⟩ := Prod.mk.inj hcore
  refine ⟨rfl, rfl, fun k => ?_⟩
  show store.projectSet[k]? = _
  have hsaved : ∀ previous, (core.store.saveOperation previous).projectSet
      = core.store.projectSet := by
    intro previous
    rw [ActCore.saveOperation]
    split_ifs <;> rfl
  have hset : store.projectSet[k]? = if project.id = k then
      some { project with lastModifiedTime := clock 0 } else core.store.projectSet[k]? := by
    cases hlookup : core.store.projectSet[project.id]? with
    | some previous =>
      rw [ActCore.core_of_updateProject hlookup hid hstore]
      simp only [getElem?_insert, getElem?_erase, hsaved]
      by_cases hk : project.id = k
      · simp [hk]
      · simp [hk]
    | none =>
      rw [ActCore.core_of_updateProject_new hlookup hid hstore]
      simp only [getElem?_insert]
      by_cases hk : project.id = k
      · simp [hk]
      · simp [hk]
  exact hset

/-- A step that must succeed for the rest to be carried out. -/
theorem of_guard {status : Status} {rest : Option (Status × BaselineCore γ)}
    (h : (if !status.isSuccess then some (status, core) else rest) = some (.success, core')) :
    status = .success ∧ rest = some (.success, core') := by
  by_cases hst : status.isSuccess = true
  · rw [if_neg (by simp [hst])] at h
    exact ⟨Status.isSuccess_iff.1 hst, h⟩
  · rw [if_pos (by simpa using hst)] at h
    have hsucc : status = .success := (Prod.mk.inj (some.inj h)).1
    exact absurd (Status.isSuccess_iff.2 hsucc) hst

theorem of_checkDeleteBaseline {set : BaselineSet γ} {baseline : NetworkBaseline γ}
    (h : checkDeleteBaseline set p baselineId = .ok baseline) :
    set[baselineId]? = some baseline ∧ baseline.projectId = p := by
  rw [checkDeleteBaseline] at h
  by_cases hcur : baselineId = -1
  · rw [if_pos hcur] at h
    cases h
  · rw [if_neg hcur] at h
    cases hfound : set[baselineId]? with
    | none =>
      rw [hfound] at h
      cases h
    | some found =>
      simp only [hfound] at h
      by_cases hproj : found.projectId ≠ p
      · rw [if_pos hproj] at h
        cases h
      · rw [if_neg hproj] at h
        cases h
        exact ⟨rfl, not_not.1 hproj⟩

theorem ne_success_of_checkDeleteBaseline {set : BaselineSet γ} {status : Status}
    (h : checkDeleteBaseline set p baselineId = .error status) : status ≠ .success := by
  rintro rfl
  rw [checkDeleteBaseline] at h
  by_cases hcur : baselineId = -1
  · rw [if_pos hcur] at h
    cases h
  · rw [if_neg hcur] at h
    cases hfound : set[baselineId]? with
    | none =>
      rw [hfound] at h
      cases h
    | some found =>
      simp only [hfound] at h
      split_ifs at h
      cases h

/-- The project is stored under its id, and so are the baselines, each with a
snapshot of the project it belongs to. -/
structure WellStored (core : BaselineCore γ) (p : ℤ) : Prop where
  known : p ≠ -1
  project_id : ∀ project, core.getProject p = .ok project → project.id = p
  design_keyed : Keyed core.designBaselineSet
  operation_keyed : Keyed core.operationBaselineSet
  snapshot : ∀ (k : ℤ) (baseline : NetworkBaseline γ),
    core.designBaselineSet[k]? = some baseline →
    baseline.project.id = baseline.projectId ∧ baseline.projectId ≠ -1

/-- Both sets are in step with the project. -/
structure InStep (core : BaselineCore γ) (p : ℤ) : Prop where
  wellStored : WellStored core p
  design : ∀ project, core.getProject p = .ok project →
    Tracks core.designBaselineSet p project.content.designBaselineIds
      {project.content.activateBaselineId}
  operation : ∀ project, core.getProject p = .ok project →
    Tracks core.operationBaselineSet p project.content.operationBaselineIds
      {project.content.activateBaselineId}

theorem getProject_eq_ok :
    core.getProject p = .ok project ↔ core.store.projectSet[p]? = some project := by
  rw [getProject, ActCore.getProject]
  cases core.store.projectSet[p]? with
  | none => simp
  | some stored => simp

/-- **Storing a project that both sets are in step with** leaves them in step with
what is stored. -/
theorem InStep.updateProject (h : WellStored core p) (hid : project.id = p)
    (hdesign : Tracks core.designBaselineSet p project.content.designBaselineIds
      {project.content.activateBaselineId})
    (hoper : Tracks core.operationBaselineSet p project.content.operationBaselineIds
      {project.content.activateBaselineId})
    (hupd : core.updateProject services fuel clock project = some (.success, core')) :
    InStep core' p := by
  obtain ⟨hdesigns, hoperations, hstored⟩ := of_updateProject (hid ▸ h.known) hupd
  have hproj : ∀ project', core'.getProject p = .ok project' →
      project' = { project with lastModifiedTime := clock 0 } := by
    intro project' hget
    rw [getProject_eq_ok, hstored, if_pos hid] at hget
    exact (some.inj hget).symm
  constructor
  · refine ⟨h.known, ?_, hdesigns ▸ h.design_keyed, hoperations ▸ h.operation_keyed,
      hdesigns ▸ h.snapshot⟩
    intro project' hget
    rw [hproj project' hget]
    exact hid
  · intro project' hget
    rw [hproj project' hget, hdesigns]
    exact hdesign
  · intro project' hget
    rw [hproj project' hget, hoperations]
    exact hoper

variable {now : ℕ} {userId : ℤ} {baselineInfo : NetworkBaselineInfo}

/-- Every operation begins by looking its project up. -/
theorem exists_of_getProject
    {rest : StoredProject (BaselineFields γ) → Option (Status × BaselineCore γ)}
    (h : (match core.getProject p with
      | .error status => some (status, core)
      | .ok project => rest project) = some (.success, core')) :
    ∃ project, core.getProject p = .ok project ∧ rest project = some (.success, core') := by
  cases hget : core.getProject p with
  | ok project =>
    simp only [hget] at h
    exact ⟨project, rfl, h⟩
  | error status =>
    simp only [hget] at h
    have hsucc : status = .success := (Prod.mk.inj (some.inj h)).1
    rw [getProject, ActCore.getProject] at hget
    cases hstored : core.store.projectSet[p]? with
    | some stored =>
      rw [hstored] at hget
      cases hget
    | none =>
      rw [hstored, hsucc] at hget
      cases hget

/-- A baseline that is not active comes in, and its id into the project. -/
theorem InStep.addDesign (h : InStep core p) (hget : core.getProject p = .ok project)
    {baseline : NetworkBaseline γ} {lastAssignedId : ℤ} (hid : baseline.id = baselineId)
    (hproj : baseline.projectId = p) (hsnapshot : baseline.project.id = p)
    (hact : baseline.activate = false)
    (hupd : BaselineCore.updateProject services fuel clock
      { core with
        designBaselineSet := core.designBaselineSet.insert baselineId baseline
        lastAssignedDesignBaselineId := lastAssignedId }
      { project with
        content :=
          { project.content with
            designBaselineIds := insert baselineId project.content.designBaselineIds } }
      = some (.success, core')) : InStep core' p := by
  have htracks := (h.design project hget).add hid hproj
    fun hactivate => absurd hactivate (by simp [hact])
  refine InStep.updateProject ?_ ?_ htracks ?_ hupd
  · refine ⟨h.wellStored.known, h.wellStored.project_id, htracks.keyed,
      h.wellStored.operation_keyed, ?_⟩
    intro k b hb
    rw [getElem?_insert] at hb
    by_cases hk : compare baselineId k = .eq
    · rw [if_pos hk] at hb
      rw [← some.inj hb, hsnapshot, hproj]
      exact ⟨rfl, h.wellStored.known⟩
    · rw [if_neg hk] at hb
      exact h.wellStored.snapshot k b hb
  · exact h.wellStored.project_id project hget
  · exact h.operation project hget

/-- `CreateDesignBaseline` adds a baseline that is not active. -/
theorem InStep.create (h : InStep core p)
    (hcreate : core.createDesignBaseline services fuel clock now p baselineInfo userId
      = some (.success, core')) : InStep core' p := by
  obtain ⟨project, hget, hcreate⟩ := exists_of_getProject hcreate
  cases huser : services.getUser userId with
  | error status =>
    simp only [huser] at hcreate
    rw [← (Prod.mk.inj (some.inj hcreate)).2]
    exact h
  | ok username =>
    simp only [huser] at hcreate
    obtain ⟨-, hcreate⟩ := of_guard hcreate
    cases hnew : generateUniqueId (fun id => core.designBaselineSet.contains id)
        core.lastAssignedDesignBaselineId with
    | none =>
      simp only [hnew] at hcreate
      cases (Prod.mk.inj (some.inj hcreate)).1
    | some id =>
      simp only [hnew] at hcreate
      refine h.addDesign hget ?_ ?_ ?_ ?_ hcreate
      · rfl
      · rfl
      · exact h.wellStored.project_id project hget
      · rfl

theorem InStep.deleteDesign (h : InStep core p)
    (hdel : core.deleteDesignBaseline services fuel clock p baselineId
      = some (.success, core')) : InStep core' p := by
  obtain ⟨project, hget, hdel⟩ := exists_of_getProject hdel
  have hid := h.wellStored.project_id project hget
  cases hcheck : checkDeleteBaseline core.designBaselineSet project.id baselineId with
  | error status =>
    simp only [deleteDesignBaselineOf, hcheck] at hdel
    exact InStep.updateProject h.wellStored hid (h.design project hget) (h.operation project hget)
      (of_guard hdel).2
  | ok baseline =>
    simp only [deleteDesignBaselineOf, hcheck] at hdel
    have htracks := (h.design project hget).remove (k := baselineId)
    refine InStep.updateProject ?_ ?_ ?_ ?_ (of_guard hdel).2
    · refine ⟨h.wellStored.known, h.wellStored.project_id, htracks.keyed,
        h.wellStored.operation_keyed, ?_⟩
      intro k b hb
      rw [getElem?_erase] at hb
      split_ifs at hb
      exact h.wellStored.snapshot k b hb
    · exact hid
    · exact htracks
    · exact h.operation project hget

theorem InStep.deleteOperation (h : InStep core p)
    (hdel : core.deleteOperationBaseline services fuel clock p baselineId
      = some (.success, core')) : InStep core' p := by
  obtain ⟨project, hget, hdel⟩ := exists_of_getProject hdel
  have hid := h.wellStored.project_id project hget
  cases hcheck : checkDeleteBaseline core.operationBaselineSet project.id baselineId with
  | error status =>
    simp only [deleteOperationBaselineOf, hcheck] at hdel
    exact InStep.updateProject h.wellStored hid (h.design project hget) (h.operation project hget)
      (of_guard hdel).2
  | ok baseline =>
    simp only [deleteOperationBaselineOf, hcheck] at hdel
    have htracks := (h.operation project hget).remove (k := baselineId)
    refine InStep.updateProject ?_ ?_ ?_ ?_ (of_guard hdel).2
    · exact ⟨h.wellStored.known, h.wellStored.project_id, h.wellStored.design_keyed,
        htracks.keyed, h.wellStored.snapshot⟩
    · exact hid
    · exact h.design project hget
    · exact htracks

/-- The copy `CopyDesignBaselineToOperation` makes: the project lists one more
operation baseline, and nothing else of it changes. -/
theorem of_copyDesignBaselineToOperation {designBaseline : NetworkBaseline γ} {active : Set ℤ}
    {copied : StoredProject (BaselineFields γ)}
    (hcopy : core.copyDesignBaselineToOperation services project baselineId
      = (.success, copied, core'))
    (hoper : Tracks core.operationBaselineSet project.id
      project.content.operationBaselineIds active)
    (hfound : core.designBaselineSet[baselineId]? = some designBaseline)
    (hid : designBaseline.id = baselineId)
    (hproj : designBaseline.projectId = project.id ∨
      core.operationBaselineSet.contains baselineId = true) :
    copied = { project with
      content :=
        { project.content with
          operationBaselineIds := insert baselineId project.content.operationBaselineIds } } ∧
    ∃ set, core' = { core with operationBaselineSet := set } ∧
      Tracks set project.id (insert baselineId project.content.operationBaselineIds)
        (insert baselineId active) := by
  have hdesign : core.designBaselineSet.getD baselineId { project := project } =
    designBaseline := by
    rw [getD_eq_getD_getElem?, hfound, getD_some]
  have htracks : ∀ copy : NetworkBaseline γ, copy.id = baselineId →
      copy.projectId = designBaseline.projectId →
      (∀ old : NetworkBaseline γ, core.operationBaselineSet[baselineId]? = some old →
        old.projectId = project.id) →
      Tracks (core.operationBaselineSet.insertIfNew baselineId copy) project.id
        (insert baselineId project.content.operationBaselineIds) (insert baselineId active) := by
    intro copy hcopyId hcopyProject hold
    refine hoper.addIfNew hcopyId (fun hnone => ?_) hold
    rw [hcopyProject]
    refine hproj.resolve_right fun hcont => ?_
    rw [contains_eq_isSome_getElem?, hnone] at hcont
    cases hcont
  simp only [copyDesignBaselineToOperation, hdesign, hid] at hcopy
  by_cases hcont : core.operationBaselineSet.contains baselineId = true
  · rw [if_pos hcont] at hcopy
    cases hcheck : checkDeleteBaseline core.operationBaselineSet project.id baselineId with
    | error status =>
      have hfailed : (!status.isSuccess) = true := by
        simpa using ne_success_of_checkDeleteBaseline hcheck
      simp only [deleteOperationBaselineOf, hcheck, if_pos hfailed] at hcopy
      exact absurd (Prod.mk.inj hcopy).1 (ne_success_of_checkDeleteBaseline hcheck)
    | ok old =>
      obtain ⟨hold, holdProject⟩ := of_checkDeleteBaseline hcheck
      have hmem : baselineId ∈ project.content.operationBaselineIds :=
        (hoper.ids baselineId).2 ⟨old, hold, holdProject⟩
      simp only [deleteOperationBaselineOf, hcheck, Finset.insert_erase hmem] at hcopy
      by_cases hdeleted : (!(services.deleteBaselineFile .operation baselineId
          old.name).isSuccess) = true
      · rw [if_pos hdeleted] at hcopy
        rw [(Prod.mk.inj hcopy).1] at hdeleted
        cases hdeleted
      · rw [if_neg hdeleted, Prod.mk.injEq, Prod.mk.injEq] at hcopy
        obtain ⟨-, rfl, rfl⟩ := hcopy
        refine ⟨by rw [Finset.insert_eq_of_mem hmem], _, rfl, htracks _ rfl rfl fun other hother =>
          ?_⟩
        rw [hold] at hother
        rw [← some.inj hother, holdProject]
  · rw [if_neg hcont, if_neg (by simp [Status.isSuccess]), Prod.mk.injEq,
      Prod.mk.injEq] at hcopy
    obtain ⟨-, rfl, rfl⟩ := hcopy
    refine ⟨rfl, _, rfl, htracks _ rfl rfl fun other hother => ?_⟩
    rw [contains_eq_isSome_getElem?, hother] at hcont
    exact absurd rfl hcont

/-- The three changes of `ActivateDesignBaseline`, each made with success, and the
update of the project. -/
theorem of_activateDesignBaseline {username : String} (hget : core.getProject p = .ok project)
    (huser : services.getUser userId = .ok username)
    (hactivate : core.activateDesignBaseline services fuel clock now p baselineId userId
      = some (.success, core')) :
    ∃ designs copied copiedCore operations,
      activateAt (services.writeData .design) core.designBaselineSet
        project.content.activateBaselineId baselineId username now = (.success, designs) ∧
      copyDesignBaselineToOperation services { core with designBaselineSet := designs } project
        baselineId = (.success, copied, copiedCore) ∧
      activateAt (services.writeData .operation) copiedCore.operationBaselineSet
        project.content.activateBaselineId baselineId username now = (.success, operations) ∧
      BaselineCore.updateProject services fuel clock
        { copiedCore with operationBaselineSet := operations }
        { copied with content := { copied.content with activateBaselineId := baselineId } }
        = some (.success, core') := by
  -- each call is named before the guard after it is opened
  rcases hdesigned : activateAt (services.writeData .design) core.designBaselineSet
    project.content.activateBaselineId baselineId username now with ⟨status, designs⟩
  simp only [activateDesignBaseline, hget, huser, activateBaselineAtDesignBaselineSet,
    hdesigned] at hactivate
  obtain ⟨rfl, hcopyThen⟩ := of_guard hactivate
  rcases hcopied : copyDesignBaselineToOperation services
    { core with designBaselineSet := designs } project baselineId with ⟨status, copied, copiedCore⟩
  simp only [hcopied] at hcopyThen
  obtain ⟨rfl, hoperateThen⟩ := of_guard hcopyThen
  rcases hoperated : activateAt (services.writeData .operation) copiedCore.operationBaselineSet
    project.content.activateBaselineId baselineId username now with ⟨status, operations⟩
  simp only [activateBaselineAtOperationBaselineSet, hoperated] at hoperateThen
  obtain ⟨rfl, hupd⟩ := of_guard hoperateThen
  exact ⟨designs, copied, copiedCore, operations, rfl, hcopied, hoperated, hupd⟩

/-- `ActivateDesignBaseline` moves the flag, in both sets, and the id. -/
theorem InStep.activate (h : InStep core p)
    (hproj : ∀ baseline : NetworkBaseline γ, core.designBaselineSet[baselineId]? =
      some baseline →
      baseline.projectId = p ∨ core.operationBaselineSet.contains baselineId = true)
    (hactivate : core.activateDesignBaseline services fuel clock now p baselineId userId
      = some (.success, core')) : InStep core' p := by
  obtain ⟨project, hget, hrest⟩ := exists_of_getProject hactivate
  have hid := h.wellStored.project_id project hget
  cases huser : services.getUser userId with
  | error status =>
    simp only [huser] at hrest
    rw [← (Prod.mk.inj (some.inj hrest)).2]
    exact h
  | ok username =>
    obtain ⟨designs, copied, copiedCore, operations, hdesigned, hcopied, hoperated, hupd⟩ :=
      of_activateDesignBaseline hget huser hactivate
    have hdesign : Tracks designs p project.content.designBaselineIds {baselineId} :=
      (h.design project hget).flag (fun l hl => .inl hl) hdesigned
    obtain ⟨designBaseline, hfound⟩ := exists_of_activateAt h.wellStored.design_keyed hdesigned
    obtain ⟨old, hold, hflag⟩ :=
      exists_of_mem_activateAt h.wellStored.design_keyed hdesigned hfound
    have hbelongs : designBaseline.projectId = project.id ∨
        core.operationBaselineSet.contains baselineId = true := by
      rw [← hflag, flag_projectId, hid]
      exact hproj old hold
    obtain ⟨rfl, copies, rfl, hcopies⟩ := of_copyDesignBaselineToOperation hcopied
      (hid ▸ h.operation project hget) hfound (hdesign.keyed _ _ hfound) hbelongs
    rw [hid] at hcopies
    have hoper := hcopies.flag (fun l hl => hl.symm) hoperated
    refine InStep.updateProject ?_ ?_ ?_ ?_ hupd
    · refine ⟨h.wellStored.known, h.wellStored.project_id, hdesign.keyed, hoper.keyed, ?_⟩
      intro k b hb
      obtain ⟨unflagged, hunflagged, rfl⟩ :=
        exists_of_mem_activateAt h.wellStored.design_keyed hdesigned hb
      rw [flag_project, flag_projectId]
      exact h.wellStored.snapshot k unflagged hunflagged
    · exact hid
    · exact hdesign
    · exact hoper

/-- The snapshot keeps both lists right when it lists the operation baselines as the
project does, and the flags when none is set or the active id is the same. -/
theorem InStep.rollback (h : InStep core p)
    (hsnapshot : ∀ project baseline, core.getProject p = .ok project →
      core.designBaselineSet[baselineId]? = some baseline → baseline.projectId = p →
      baseline.project.content.operationBaselineIds = project.content.operationBaselineIds ∧
      (baseline.project.content.activateBaselineId = project.content.activateBaselineId ∨
        ∀ (k : ℤ) (b : NetworkBaseline γ), core.designBaselineSet[k]? = some b ∨
          core.operationBaselineSet[k]? = some b → b.projectId = p → b.activate = false))
    (hrollback : core.rollbackDesignBaseline services fuel clock p baselineId
      = some (.success, core')) : InStep core' p := by
  obtain ⟨project, hget, hrest⟩ := exists_of_getProject hrollback
  cases hfound : core.designBaselineSet[baselineId]? with
  | none =>
    simp only [hfound] at hrest
    cases (Prod.mk.inj (some.inj hrest)).1
  | some baseline =>
    simp only [hfound] at hrest
    obtain ⟨hid, hknown⟩ := h.wellStored.snapshot baselineId baseline hfound
    have hdesign := h.design project hget
    have hoper := h.operation project hget
    by_cases hproj : baseline.projectId = p
    · obtain ⟨hids, hact⟩ := hsnapshot project baseline hget hfound hproj
      refine InStep.updateProject h.wellStored ?_ ?_ ?_ hrest
      · exact hid.trans hproj
      · rcases hact with hsame | hnone
        · simpa [hsame] using hdesign
        · exact hdesign.of_inactive fun k b hb => hnone k b (.inl hb)
      · rcases hact with hsame | hnone
        · simpa [hsame, hids] using hoper
        · simpa [hids] using hoper.of_inactive fun k b hb => hnone k b (.inr hb)
    · -- the snapshot of another project replaces that project
      obtain ⟨hdesigns, hoperations, hstored⟩ := of_updateProject (hid ▸ hknown) hrest
      have hother : ∀ project', core'.getProject p = .ok project' ↔
          core.getProject p = .ok project' := by
        intro project'
        rw [getProject_eq_ok, getProject_eq_ok, hstored, if_neg (hid ▸ hproj)]
      constructor
      · refine ⟨h.wellStored.known, fun project' hget' => ?_, hdesigns ▸ h.wellStored.design_keyed,
          hoperations ▸ h.wellStored.operation_keyed, hdesigns ▸ h.wellStored.snapshot⟩
        exact h.wellStored.project_id project' ((hother project').1 hget')
      · exact fun project' hget' => hdesigns ▸ h.design project' ((hother project').1 hget')
      · exact fun project' hget' => hoperations ▸ h.operation project' ((hother project').1 hget')

end

/-! ### Runs -/

/-- The active baselines of the project in a set. -/
def activeBaselines (set : BaselineSet γ) (p : ℤ) : Set (NetworkBaseline γ) :=
  {baseline | (∃ k : ℤ, set[k]? = some baseline) ∧ baseline.projectId = p ∧
    baseline.activate = true}

/-- At most one baseline of the project is active, the one the project names, and
the project lists its baselines. -/
structure SetInOrder (set : BaselineSet γ) (p : ℤ) (ids : Finset ℤ) (activateBaselineId : ℤ) :
    Prop where
  atMostOne : (activeBaselines set p).Subsingleton
  active : ∀ baseline ∈ activeBaselines set p, baseline.id = activateBaselineId
  ids : ∀ id, id ∈ ids ↔ ∃ (k : ℤ) (baseline : NetworkBaseline γ), set[k]? = some baseline ∧
    baseline.projectId = p ∧ baseline.id = id

/-- Both sets are in order with the project. -/
def InOrder (core : BaselineCore γ) (p : ℤ) : Prop :=
  ∀ project, core.getProject p = .ok project →
    SetInOrder core.designBaselineSet p project.content.designBaselineIds
      project.content.activateBaselineId ∧
    SetInOrder core.operationBaselineSet p project.content.operationBaselineIds
      project.content.activateBaselineId

/-- A call on one project. -/
inductive Call where
  | createDesignBaseline (now : ℕ) (baselineInfo : NetworkBaselineInfo) (createdUserId : ℤ)
  | activateDesignBaseline (now : ℕ) (baselineId activateUserId : ℤ)
  | rollbackDesignBaseline (baselineId : ℤ)
  | deleteDesignBaseline (baselineId : ℤ)
  | deleteOperationBaseline (baselineId : ℤ)

/-- The call, carried out on the project of this id. -/
def Call.exec (services : BaselineServices γ) (fuel : ℕ) (clock : ℕ → ℤ) (p : ℤ)
    (core : BaselineCore γ) : Call → Option (Status × BaselineCore γ)
  | createDesignBaseline now baselineInfo createdUserId =>
    core.createDesignBaseline services fuel clock now p baselineInfo createdUserId
  | activateDesignBaseline now baselineId activateUserId =>
    core.activateDesignBaseline services fuel clock now p baselineId activateUserId
  | rollbackDesignBaseline baselineId =>
    core.rollbackDesignBaseline services fuel clock p baselineId
  | deleteDesignBaseline baselineId => core.deleteDesignBaseline services fuel clock p baselineId
  | deleteOperationBaseline baselineId =>
    core.deleteOperationBaseline services fuel clock p baselineId

/-- The condition on a call: what is activated belongs to the project, or has an
operation baseline of its id; and a snapshot that comes back has the operation
baselines of the project as it is now, and its active id unless none is active. -/
def Call.Agrees (p : ℤ) (core : BaselineCore γ) : Call → Prop
  | activateDesignBaseline _ baselineId _ =>
    ∀ baseline : NetworkBaseline γ, core.designBaselineSet[baselineId]? = some baseline →
      baseline.projectId = p ∨ core.operationBaselineSet.contains baselineId = true
  | rollbackDesignBaseline baselineId =>
    ∀ project baseline, core.getProject p = .ok project →
      core.designBaselineSet[baselineId]? = some baseline → baseline.projectId = p →
      baseline.project.content.operationBaselineIds = project.content.operationBaselineIds ∧
      (baseline.project.content.activateBaselineId = project.content.activateBaselineId ∨
        ∀ (k : ℤ) (b : NetworkBaseline γ), core.designBaselineSet[k]? = some b ∨
          core.operationBaselineSet[k]? = some b → b.projectId = p → b.activate = false)
  | _ => True

/-- Successful calls on one project, each of them as `Allowed` says. -/
inductive Run (services : BaselineServices γ) (p : ℤ) (Allowed : BaselineCore γ → Call → Prop)
    (core : BaselineCore γ) : BaselineCore γ → Prop
  | nil : Run services p Allowed core core
  | snoc (call : Call) {core' core'' : BaselineCore γ} {fuel : ℕ} {clock : ℕ → ℤ} :
      Run services p Allowed core core' → Allowed core' call →
      call.exec services fuel clock p core' = some (.success, core'') →
      Run services p Allowed core core''

section

variable {services : BaselineServices γ} {fuel : ℕ} {clock : ℕ → ℤ} {core core' : BaselineCore γ}
  {p : ℤ} {call : Call}

theorem Run.mono {Allowed Allowed' : BaselineCore γ → Call → Prop}
    (hrun : Run services p Allowed core core')
    (himp : ∀ core call, Allowed core call → Allowed' core call) :
    Run services p Allowed' core core' := by
  induction hrun with
  | nil => exact .nil
  | snoc call hrun hallowed hexec ih => exact .snoc call ih (himp _ _ hallowed) hexec

theorem InStep.exec (h : InStep core p) (hagrees : call.Agrees p core)
    (hexec : call.exec services fuel clock p core = some (.success, core')) : InStep core' p := by
  cases call with
  | createDesignBaseline now baselineInfo createdUserId => exact h.create hexec
  | activateDesignBaseline now baselineId activateUserId => exact h.activate hagrees hexec
  | rollbackDesignBaseline baselineId => exact h.rollback hagrees hexec
  | deleteDesignBaseline baselineId => exact h.deleteDesign hexec
  | deleteOperationBaseline baselineId => exact h.deleteOperation hexec

theorem InStep.run (h : InStep core p)
    (hrun : Run services p (fun core call => call.Agrees p core) core core') : InStep core' p := by
  induction hrun with
  | nil => exact h
  | snoc call hrun hagrees hexec ih => exact ih.exec hagrees hexec

theorem tracks_iff_setInOrder {set : BaselineSet γ} {ids : Finset ℤ} {activateBaselineId : ℤ}
    (hkeyed : Keyed set) :
    Tracks set p ids {activateBaselineId} ↔ SetInOrder set p ids activateBaselineId := by
  constructor
  · intro h
    have hact : ∀ baseline ∈ activeBaselines set p, baseline.id = activateBaselineId ∧
        set[activateBaselineId]? = some baseline := by
      rintro baseline ⟨⟨k, hk⟩, hproj, hactivate⟩
      have hkey : k = activateBaselineId := h.active k baseline hk hproj hactivate
      exact ⟨(hkeyed k baseline hk).trans hkey, hkey ▸ hk⟩
    refine ⟨?_, fun baseline hb => (hact baseline hb).1, fun id => ?_⟩
    · intro a ha b hb
      exact some.inj ((hact a ha).2.symm.trans (hact b hb).2)
    · rw [h.ids id]
      constructor
      · rintro ⟨baseline, hk, hproj⟩
        exact ⟨id, baseline, hk, hproj, hkeyed id baseline hk⟩
      · rintro ⟨k, baseline, hk, hproj, rfl⟩
        exact ⟨baseline, (hkeyed k baseline hk) ▸ hk, hproj⟩
  · intro h
    refine ⟨hkeyed, ?_, fun k => ?_⟩
    · intro k baseline hk hproj hactivate
      have hid := h.active baseline ⟨⟨k, hk⟩, hproj, hactivate⟩
      rw [hkeyed k baseline hk] at hid
      exact hid
    · rw [h.ids k]
      constructor
      · rintro ⟨l, baseline, hl, hproj, rfl⟩
        exact ⟨baseline, (hkeyed l baseline hl) ▸ hl, hproj⟩
      · rintro ⟨baseline, hk, hproj⟩
        exact ⟨k, baseline, hk, hproj, hkeyed k baseline hk⟩

theorem InStep.inOrder (h : InStep core p) : InOrder core p := fun project hget =>
  ⟨(tracks_iff_setInOrder h.wellStored.design_keyed).1 (h.design project hget),
    (tracks_iff_setInOrder h.wellStored.operation_keyed).1 (h.operation project hget)⟩

theorem InOrder.inStep (hstored : WellStored core p) (h : InOrder core p) : InStep core p :=
  ⟨hstored, fun project hget => (tracks_iff_setInOrder hstored.design_keyed).2 (h project hget).1,
    fun project hget => (tracks_iff_setInOrder hstored.operation_keyed).2 (h project hget).2⟩

/-- **The records of the active baseline agree after every run** whose activations
name baselines of the project and whose rollbacks bring back a snapshot that agrees
with the project. -/
theorem inOrder_of_run (hstored : WellStored core p) (horder : InOrder core p)
    (hrun : Run services p (fun core call => call.Agrees p core) core core') : InOrder core' p :=
  ((horder.inStep hstored).run hrun).inOrder

end

/-- Everything succeeds. -/
def servicesExample : BaselineServices Unit where
  checkProject _ := .success
  saveProject _ := .success
  autoSave := false
  getUser _ := .ok "admin"
  writeData _ _ := .success
  deleteBaselineFile _ _ _ := .success
  systemAssignBaselineName := "Baseline"

/-- A project without baselines. -/
def freshExample : BaselineCore Unit where
  store :=
    { projectSet :=
        (∅ : QMap ℤ _).insert 1
          { id := 1, projectName := "p", lastModifiedTime := 0, content := { rest := () } } }

theorem wellStored_freshExample : WellStored freshExample 1 := by
  refine ⟨by decide, fun project hget => ?_, ?_, ?_, ?_⟩
  · cases hget
    rfl
  · intro k b hb
    simp [freshExample] at hb
  · intro k b hb
    simp [freshExample] at hb
  · intro k b hb
    simp [freshExample] at hb

theorem inOrder_freshExample : InOrder freshExample 1 := by
  refine (InStep.mk wellStored_freshExample ?_ ?_).inOrder
  · intro project hget
    cases hget
    exact ⟨wellStored_freshExample.design_keyed, fun k b hb => by simp [freshExample] at hb,
      fun k => by simp [freshExample]⟩
  · intro project hget
    cases hget
    exact ⟨wellStored_freshExample.operation_keyed, fun k b hb => by simp [freshExample] at hb,
      fun k => by simp [freshExample]⟩

/-- The core after a call on its project. -/
def after (core : BaselineCore Unit) (call : Call) : BaselineCore Unit :=
  ((call.exec servicesExample 1 (fun _ => 0) 1 core).map (·.2)).getD core

theorem exec_after {core : BaselineCore Unit} {call : Call}
    (h : (call.exec servicesExample 1 (fun _ => 0) 1 core).map (·.1) = some .success) :
    call.exec servicesExample 1 (fun _ => 0) 1 core = some (.success, core.after call) := by
  obtain ⟨⟨status, core'⟩, hexec, rfl⟩ := map_eq_some_iff.1 h
  rw [after, hexec]
  rfl

/-- The project with one baseline. -/
def createdExample : BaselineCore Unit :=
  freshExample.after (.createDesignBaseline 0 { name := "a" } 0)

/-- The project with one baseline, which is active. -/
def activeExample : BaselineCore Unit :=
  createdExample.after (.activateDesignBaseline 0 50001 0)

/-- The project with one active baseline, and one that was made from it. -/
def againExample : BaselineCore Unit :=
  activeExample.after (.createDesignBaseline 0 { name := "b" } 0)

theorem run_activeExample :
    Run servicesExample 1 (fun core call => call.Agrees 1 core) freshExample activeExample := by
  have hcre : Run servicesExample 1 (fun core call => call.Agrees 1 core) freshExample
      createdExample :=
    .snoc (.createDesignBaseline 0 { name := "a" } 0) .nil trivial (exec_after (by decide +kernel))
  refine .snoc _ hcre ?_ (exec_after (by decide +kernel))
  intro baseline hfound
  have hproj : (createdExample.designBaselineSet[(50001 : ℤ)]?.all fun b =>
      b.projectId == 1) = true := by decide +kernel
  rw [hfound] at hproj
  exact .inl (by simpa using hproj)

/-- Back to the second baseline. -/
theorem inOrder_of_run_rollback :
    InOrder (againExample.after (.rollbackDesignBaseline 50002)) 1 := by
  have hagain : Run servicesExample 1 (fun core call => call.Agrees 1 core) freshExample
      againExample :=
    .snoc (.createDesignBaseline 0 { name := "b" } 0) run_activeExample trivial
      (exec_after (by decide +kernel))
  refine inOrder_of_run wellStored_freshExample inOrder_freshExample
    (.snoc (.rollbackDesignBaseline 50002) hagain ?_ (exec_after (by decide +kernel)))
  intro project baseline hget hfound _
  have hagrees : (againExample.getProject 1).toOption.all (fun project =>
      againExample.designBaselineSet[(50002 : ℤ)]?.all fun b =>
        b.project.content.operationBaselineIds == project.content.operationBaselineIds &&
        b.project.content.activateBaselineId == project.content.activateBaselineId) = true := by
    decide +kernel
  rw [hfound, hget] at hagrees
  simp only [Except.toOption, all_some, Bool.and_eq_true, beq_iff_eq] at hagrees
  exact ⟨hagrees.1, .inl hagrees.2⟩

/-- **A rollback loses operation baselines.**  The snapshot was taken when the
project had none. -/
theorem not_inOrder_of_run : WellStored freshExample 1 ∧ InOrder freshExample 1 ∧
    ∃ core', Run servicesExample 1 (fun _ _ => True) freshExample core' ∧ ¬InOrder core' 1 := by
  refine ⟨wellStored_freshExample, inOrder_freshExample,
    activeExample.after (.rollbackDesignBaseline 50001), ?_, fun horder => ?_⟩
  · exact .snoc _ (run_activeExample.mono fun _ _ _ => trivial) trivial
      (exec_after (by decide +kernel))
  · have hids := ((horder _ rfl).2.ids 50001).2 ⟨50001, _, rfl, rfl, rfl⟩
    revert hids
    decide

end BaselineCore

end Core
end Sebastian

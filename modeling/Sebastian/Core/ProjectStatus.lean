/-
# The status of a project

`UpdateProjectStatus` (`core/src/act_core_project.cpp`) is the lock between the jobs
of the program: a job starts on a project that is idle, and seven kinds of job
exclude each other over all projects.

The seven are recorded, so that at most one project is in one of them at any time
(`atMostOne_of_run`).  The five other kinds are admitted by the same test and never
recorded, so that a second job is admitted on top of one of them
(`not_exclusiveJobs_of_run`).  In a run in which none of these is admitted, no job
starts on a project before the one before it has ended (`exclusiveJobs_of_run`).
-/

import Sebastian.Lib.Holding
import Sebastian.Lib.Loop
import Sebastian.Project
import Sebastian.Status

namespace Sebastian
namespace Core

/-- `ActProjectStatusEnum` -/
inductive ProjectStatus where
  | idle
  | computing
  | comparing
  | deploying
  | syncing
  | scanning
  | monitoring
  | topologyMapping
  | broadcastSearching
  | deviceConfiguring
  | intelligentRequestSending
  | intelligentUploadSending
  | intelligentDownloadSending
  | aborted
  | finished
  deriving DecidableEq, Inhabited

namespace ProjectStatus

/-- `kActProjectStatusEnumMap` -/
def text : ProjectStatus → String
  | idle => "Idle"
  | computing => "Computing"
  | comparing => "Comparing"
  | deploying => "Deploying"
  | syncing => "Syncing"
  | scanning => "Scanning"
  | monitoring => "Monitoring"
  | topologyMapping => "TopologyMapping"
  | broadcastSearching => "BroadcastSearching"
  | deviceConfiguring => "DeviceConfiguring"
  | intelligentRequestSending => "IntelligentRequestSending"
  | intelligentUploadSending => "IntelligentUploadSending"
  | intelligentDownloadSending => "IntelligentDownloadSending"
  | aborted => "Aborted"
  | finished => "Finished"

/-- The jobs of which at most one runs over all projects. -/
def isExclusive : ProjectStatus → Bool
  | deploying | syncing | scanning | monitoring | topologyMapping | broadcastSearching
  | deviceConfiguring => true
  | _ => false

/-- The jobs of which every project can run one. -/
def isConcurrent : ProjectStatus → Bool
  | computing | comparing | intelligentRequestSending | intelligentUploadSending
  | intelligentDownloadSending => true
  | _ => false

/-- No job runs on a project of this status. -/
def isFree : ProjectStatus → Bool
  | idle | finished | aborted => true
  | _ => false

end ProjectStatus

/-- What `UpdateProjectStatus` reads: the projects, and the status of each. -/
structure StatusTable where
  projectSet : QSet Project
  projectStatusList : QMap ℤ ProjectStatus

namespace StatusTable

/-- `GetProject` -/
def getProject (core : StatusTable) (projectId : ℤ) : Except Status Project :=
  match List.find? (·.id == projectId) core.projectSet with
  | some project => .ok project
  | none => .error (.notFound ⟨"Project id %1", [.int projectId]⟩)

/-- `GetProjectName` -/
def getProjectName (core : StatusTable) (projectId : ℤ) : Except Status String :=
  (core.getProject projectId).map (·.projectName)

/-- `this->project_status_list[project_id] = status` -/
def setStatus (core : StatusTable) (projectId : ℤ) (status : ProjectStatus) : StatusTable :=
  { core with projectStatusList := core.projectStatusList.insert projectId status }

/-- The error of a job that finds another one on its project. -/
def busy (project : Project) (status : ProjectStatus) : Status :=
  .badRequest ⟨"Project (%1) is in %2 status", [.str project.projectName, .str status.text]⟩

/-- The first other project, in the order of the list, with a job that excludes others. -/
def otherExclusive (core : StatusTable) (projectId : ℤ) : Option (ℤ × ProjectStatus) :=
  core.projectStatusList.toList.find? fun entry => entry.1 ≠ projectId && entry.2.isExclusive

/-- `UpdateProjectStatus`.  The job statuses of the second kind are checked and not
stored. -/
def updateProjectStatus (core : StatusTable) (projectId : ℤ) (status : ProjectStatus) :
    Status × StatusTable :=
  if !core.projectStatusList.contains projectId then
    (.notFound ⟨"Project id %1", [.int projectId]⟩, core)
  else
    match core.getProject projectId with
    | .error error => (error, core)
    | .ok project =>
      let current := core.projectStatusList.value projectId
      match status with
      | .idle => (.success, core.setStatus projectId .idle)
      | .aborted =>
        if current = .idle || current = .finished then
          (.badRequest ⟨"Project (%1) is already in %2 status",
            [.str project.projectName, .str current.text]⟩, core)
        else (.success, core.setStatus projectId .aborted)
      | .finished => (.success, core.setStatus projectId .idle)
      | .computing | .comparing | .intelligentRequestSending | .intelligentUploadSending
      | .intelligentDownloadSending =>
        if !current.isFree then (busy project current, core) else (.success, core)
      | .deploying | .syncing | .scanning | .monitoring | .topologyMapping | .broadcastSearching
      | .deviceConfiguring =>
        if !current.isFree then (busy project current, core)
        else
          match core.otherExclusive projectId with
          | some (otherId, otherStatus) =>
            match core.getProjectName otherId with
            | .error error => (error, core)
            | .ok otherName =>
              (.badRequest ⟨"Another project (%1) is in %2 status",
                [.str otherName, .str otherStatus.text]⟩, core)
          | none => (.success, core.setStatus projectId status)

end StatusTable

/-! ### What a call does -/

section
variable {core : StatusTable} {projectId p q : ℤ} {status : ProjectStatus}

/-- The project is listed with a status that satisfies the predicate. -/
def StatusTable.Lists (core : StatusTable) (projectId : ℤ) (P : ProjectStatus → Bool) : Prop :=
  ∃ status, core.projectStatusList[projectId]? = some status ∧ P status = true

/-- **A call of `UpdateProjectStatus`**: it ends a job, admits one that is not recorded,
admits one that is, or is refused. -/
inductive StatusStep (core : StatusTable) (projectId : ℤ) (status : ProjectStatus) :
    Status × StatusTable → Prop
  | end_ (recorded : ProjectStatus) : status.isFree = true → recorded.isFree = true →
      StatusStep core projectId status (.success, core.setStatus projectId recorded)
  | concurrent : status.isConcurrent = true → core.Lists projectId ProjectStatus.isFree →
      StatusStep core projectId status (.success, core)
  | exclusive : status.isExclusive = true → core.Lists projectId ProjectStatus.isFree →
      (∀ q, q ≠ projectId → ¬core.Lists q ProjectStatus.isExclusive) →
      StatusStep core projectId status (.success, core.setStatus projectId status)
  | refuse (error : Status) : error ≠ .success → StatusStep core projectId status (error, core)

theorem error_of_getProject {error : Status} (h : core.getProject projectId = .error error) :
    error ≠ .success := by
  unfold StatusTable.getProject at h
  split at h
  · cases h
  · cases h
    exact Status.noConfusion

theorem error_of_getProjectName {error : Status} (h : core.getProjectName projectId =
    .error error) : error ≠ .success := by
  unfold StatusTable.getProjectName at h
  cases hproj : core.getProject projectId with
  | ok project =>
    rw [hproj] at h
    cases h
  | error error' =>
    rw [hproj] at h
    cases h
    exact error_of_getProject hproj

theorem not_lists_of_otherExclusive (h : core.otherExclusive projectId = none) (hq :
    q ≠ projectId) : ¬core.Lists q ProjectStatus.isExclusive := by
  rintro ⟨other, hother, hexclusive⟩
  have hmem := Std.TreeMap.mem_toList_iff_getElem?_eq_some.2 hother
  have hfalse := List.find?_eq_none.1 h _ hmem
  simp [hq, hexclusive] at hfalse

/-- **What `UpdateProjectStatus` can do.** -/
theorem statusStep (core : StatusTable) (projectId : ℤ) (status : ProjectStatus) :
    StatusStep core projectId status (core.updateProjectStatus projectId status) := by
  unfold StatusTable.updateProjectStatus
  by_cases hcont : core.projectStatusList.contains projectId = true
  · rw [if_neg (by simp [hcont])]
    have hcur : core.projectStatusList[projectId]? =
        some (core.projectStatusList.value projectId) := by
      obtain ⟨current, hcur⟩ := Option.isSome_iff_exists.1
        (Std.TreeMap.contains_eq_isSome_getElem?.symm.trans hcont)
      rw [QMap.value_of_getElem? hcur, hcur]
    cases hproj : core.getProject projectId with
    | error error => exact .refuse error (error_of_getProject hproj)
    | ok project =>
      dsimp only
      generalize core.projectStatusList.value projectId = current at hcur ⊢
      have hrefuse : StatusStep core projectId status (StatusTable.busy project current, core) :=
        .refuse _ Status.noConfusion
      have hconcurrent : status.isConcurrent = true →
          StatusStep core projectId status
            (if !current.isFree then (StatusTable.busy project current, core)
              else (.success, core)) := by
        intro hst
        by_cases hfree : current.isFree = true
        · rw [if_neg (by simp [hfree])]
          exact .concurrent hst ⟨current, hcur, hfree⟩
        · rw [if_pos (by simpa using hfree)]
          exact hrefuse
      have hexclusive : status.isExclusive = true →
          StatusStep core projectId status
            (if !current.isFree then (StatusTable.busy project current, core)
              else
                match core.otherExclusive projectId with
                | some (otherId, otherStatus) =>
                  match core.getProjectName otherId with
                  | .error error => (error, core)
                  | .ok otherName =>
                    (.badRequest ⟨"Another project (%1) is in %2 status",
                      [.str otherName, .str otherStatus.text]⟩, core)
                | none => (.success, core.setStatus projectId status)) := by
        intro hst
        by_cases hfree : current.isFree = true
        · rw [if_neg (by simp [hfree])]
          cases hother : core.otherExclusive projectId with
          | none =>
            exact .exclusive hst ⟨current, hcur, hfree⟩
              fun q hq => not_lists_of_otherExclusive hother hq
          | some other =>
            dsimp only
            cases hname : core.getProjectName other.1 with
            | error error => exact .refuse error (error_of_getProjectName hname)
            | ok name => exact .refuse _ Status.noConfusion
        · rw [if_pos (by simpa using hfree)]
          exact hrefuse
      cases status with
      | idle => exact .end_ .idle rfl rfl
      | finished => exact .end_ .idle rfl rfl
      | aborted =>
        dsimp only
        split_ifs
        · exact .refuse _ Status.noConfusion
        · exact .end_ .aborted rfl rfl
      | computing => exact hconcurrent rfl
      | comparing => exact hconcurrent rfl
      | intelligentRequestSending => exact hconcurrent rfl
      | intelligentUploadSending => exact hconcurrent rfl
      | intelligentDownloadSending => exact hconcurrent rfl
      | deploying => exact hexclusive rfl
      | syncing => exact hexclusive rfl
      | scanning => exact hexclusive rfl
      | monitoring => exact hexclusive rfl
      | topologyMapping => exact hexclusive rfl
      | broadcastSearching => exact hexclusive rfl
      | deviceConfiguring => exact hexclusive rfl
  · rw [if_pos (by rw [Bool.eq_false_of_not_eq_true hcont]; rfl)]
    exact .refuse _ Status.noConfusion

theorem lists_setStatus {P : ProjectStatus → Bool} :
    (core.setStatus p status).Lists q P ↔ (p = q ∧ P status = true) ∨ (p ≠ q ∧ core.Lists q P) := by
  simp only [StatusTable.Lists, StatusTable.setStatus, Std.TreeMap.getElem?_insert]
  by_cases h : p = q
  · simp [h]
  · simp [h]

end

/-! ### Runs -/

/-- A call of `UpdateProjectStatus`. -/
structure StatusCall where
  projectId : ℤ
  status : ProjectStatus

/-- A call with its outcome. -/
structure StatusEvent extends StatusCall where
  admitted : Bool

/-- A job was started on the project. -/
def StatusEvent.Starts (p : ℤ) (e : StatusEvent) : Prop :=
  e.projectId = p ∧ (e.status.isExclusive || e.status.isConcurrent) = true ∧ e.admitted = true

/-- The project was set to `Idle`, `Aborted` or `Finished`. -/
def StatusEvent.Ends (p : ℤ) (e : StatusEvent) : Prop :=
  e.projectId = p ∧ e.status.isFree = true ∧ e.admitted = true

/-- One call of a run: the table it leaves, and the history with this call. -/
def StatusTable.call (s : StatusTable × List StatusEvent) (c : StatusCall) :
    StatusTable × List StatusEvent :=
  let r := s.1.updateProjectStatus c.projectId c.status
  (r.2, s.2 ++ [{ c with admitted := r.1.isSuccess }])

/-- A run of calls, in the order in which the threads get to make them. -/
def StatusTable.run (core : StatusTable) (calls : List StatusCall) :
    StatusTable × List StatusEvent :=
  calls.foldl StatusTable.call (core, [])

/-- At most one project is in one of the statuses that exclude each other. -/
def AtMostOne (core : StatusTable) : Prop :=
  ∀ p q, core.Lists p ProjectStatus.isExclusive → core.Lists q ProjectStatus.isExclusive → p = q

/-- **Jobs exclude each other**: over all projects those that are exclusive, and on each
project any two of them. -/
structure ExclusiveJobs (s : StatusTable × List StatusEvent) : Prop where
  atMostOne : AtMostOne s.1
  onProject : ∀ p, Holding.Exclusive (StatusEvent.Starts p) (StatusEvent.Ends p) s.2

/-- Where a job holds a project, its status says so. -/
def Recorded (s : StatusTable × List StatusEvent) : Prop :=
  ∀ p, Holding.Held (StatusEvent.Starts p) (StatusEvent.Ends p) s.2 →
    ¬s.1.Lists p ProjectStatus.isFree

section
variable {core : StatusTable} {s : StatusTable × List StatusEvent} {c : StatusCall}

theorem atMostOne_call (h : AtMostOne s.1) : AtMostOne (StatusTable.call s c).1 := by
  have hstep := statusStep s.1 c.projectId c.status
  simp only [StatusTable.call]
  generalize s.1.updateProjectStatus c.projectId c.status = r at hstep ⊢
  cases hstep with
  | end_ recorded _ hfree =>
    have hnot : recorded.isExclusive ≠ true := by
      cases recorded <;> simp_all [ProjectStatus.isFree, ProjectStatus.isExclusive]
    intro p q hp hq
    rcases lists_setStatus.1 hp with ⟨-, hp⟩ | ⟨-, hp⟩
    · exact absurd hp hnot
    · rcases lists_setStatus.1 hq with ⟨-, hq⟩ | ⟨-, hq⟩
      · exact absurd hq hnot
      · exact h p q hp hq
  | concurrent => exact h
  | exclusive _ _ hothers =>
    intro p q hp hq
    rcases lists_setStatus.1 hp with ⟨rfl, -⟩ | ⟨hne, hp⟩
    · rcases lists_setStatus.1 hq with ⟨rfl, -⟩ | ⟨hne, hq⟩
      · rfl
      · exact absurd hq (hothers q hne.symm)
    · exact absurd hp (hothers p hne.symm)
  | refuse => exact h

/-- **At most one project is deployed, scanned, … at a time**, in every run. -/
theorem atMostOne_of_run (hinit : AtMostOne core) (calls : List StatusCall) :
    AtMostOne (core.run calls).1 :=
  Loop.foldl_rule (I := fun _ (s : StatusTable × List StatusEvent) => AtMostOne s.1) hinit
    fun _ _ _ _ h => atMostOne_call h

theorem not_isFree_of_isJob {status : ProjectStatus}
    (h : (status.isExclusive || status.isConcurrent) = true) : status.isFree = false := by
  cases status <;> simp_all [ProjectStatus.isExclusive, ProjectStatus.isConcurrent,
    ProjectStatus.isFree]

/-- **A call after which every job is still recorded**, unless it admits one that is
not. -/
theorem Recorded.call (h : Recorded s)
    (hc : c.status.isConcurrent = true → ¬s.1.Lists c.projectId ProjectStatus.isFree) :
    Recorded (StatusTable.call s c) := by
  have hstep := statusStep s.1 c.projectId c.status
  intro p hheld
  simp only [StatusTable.call] at hheld ⊢
  generalize s.1.updateProjectStatus c.projectId c.status = r at hstep hheld ⊢
  rcases Holding.held_append hheld with hstarts | ⟨hheld, hkeeps⟩
  · obtain ⟨rfl, hjob, hadmitted⟩ := hstarts
    have hnot := not_isFree_of_isJob hjob
    cases hstep with
    | end_ recorded hfree => rw [hnot] at hfree; cases hfree
    | concurrent hconcurrent hfree => exact absurd hfree (hc hconcurrent)
    | exclusive hexclusive =>
      intro hlists
      rcases lists_setStatus.1 hlists with ⟨-, hfree⟩ | ⟨hne, -⟩
      · rw [hnot] at hfree
        cases hfree
      · exact hne rfl
    | refuse error hne => exact absurd (Status.isSuccess_iff.1 hadmitted) hne
  · have hnot := h p hheld
    cases hstep with
    | end_ recorded hfree =>
      intro hlists
      rcases lists_setStatus.1 hlists with ⟨rfl, -⟩ | ⟨-, hlists⟩
      · exact hkeeps ⟨rfl, hfree, rfl⟩
      · exact hnot hlists
    | concurrent => exact hnot
    | exclusive hexclusive hfree =>
      intro hlists
      rcases lists_setStatus.1 hlists with ⟨rfl, -⟩ | ⟨-, hlists⟩
      · exact hnot hfree
      · exact hnot hlists
    | refuse => exact hnot

/-- A job that is admitted finds its project free. -/
theorem lists_of_starts {p : ℤ}
    (h : StatusEvent.Starts p
      { c with admitted := (s.1.updateProjectStatus c.projectId c.status).1.isSuccess }) :
    s.1.Lists p ProjectStatus.isFree := by
  obtain ⟨rfl, hjob, hadmitted⟩ := h
  have hstep := statusStep s.1 c.projectId c.status
  dsimp only at hadmitted
  generalize s.1.updateProjectStatus c.projectId c.status = r at hstep hadmitted
  cases hstep with
  | end_ recorded hfree => rw [not_isFree_of_isJob hjob] at hfree; cases hfree
  | concurrent _ hfree => exact hfree
  | exclusive _ hfree => exact hfree
  | refuse error hne => exact absurd (Status.isSuccess_iff.1 hadmitted) hne

end

/-- **No two jobs run on one project, and at most one exclusive job runs over all**, in
a run in which no job is admitted that `UpdateProjectStatus` does not record. -/
theorem exclusiveJobs_of_run {core : StatusTable} {calls : List StatusCall} (hinit : AtMostOne core)
    (hrecorded : ∀ before c after, calls = before ++ c :: after → c.status.isConcurrent = true →
      ¬(core.run before).1.Lists c.projectId ProjectStatus.isFree) :
    ExclusiveJobs (core.run calls) := by
  have hrun : Recorded (core.run calls) ∧ ∀ p,
      Holding.Exclusive (StatusEvent.Starts p) (StatusEvent.Ends p) (core.run calls).2 := by
    refine Loop.foldl_rule (I := fun _ (s : StatusTable × List StatusEvent) => Recorded s ∧
      ∀ p, Holding.Exclusive (StatusEvent.Starts p) (StatusEvent.Ends p) s.2)
      ⟨fun p hheld => absurd hheld Holding.not_held_nil, fun p => Holding.exclusive_nil⟩ ?_
    intro before c after hcalls ⟨hrecords, hexclusive⟩
    refine ⟨hrecords.call (hrecorded before c after hcalls), fun p => ?_⟩
    exact (hexclusive p).append fun hstarts hheld => hrecords p hheld (lists_of_starts hstarts)
  exact ⟨atMostOne_of_run hinit calls, hrun.2⟩

/-- Two idle projects. -/
def twoProjects : StatusTable where
  projectSet := [{ id := 1, projectName := "a" }, { id := 2, projectName := "b" }]
  projectStatusList := ((∅ : QMap ℤ ProjectStatus).insert 1 .idle).insert 2 .idle

theorem atMostOne_twoProjects : AtMostOne twoProjects := by
  rintro p q ⟨status, hp, hexclusive⟩ -
  simp only [twoProjects, Std.TreeMap.getElem?_insert] at hp
  split_ifs at hp
  · cases hp
    cases hexclusive
  · cases hp
    cases hexclusive
  · simp at hp

/-- A deployment of the first project, a scan of the second one, which is refused, and
once more after the deployment has ended. -/
def deployThenScan : List StatusCall :=
  [⟨1, .deploying⟩, ⟨2, .scanning⟩, ⟨1, .finished⟩, ⟨2, .scanning⟩]

theorem exclusiveJobs_of_run_deployThenScan : ExclusiveJobs (twoProjects.run deployThenScan) := by
  refine exclusiveJobs_of_run atMostOne_twoProjects fun before c after hcalls hconcurrent => ?_
  have hnone : ∀ c ∈ deployThenScan, c.status.isConcurrent = false := by decide
  rw [hnone c (by rw [hcalls]; simp)] at hconcurrent
  cases hconcurrent

/-- A computation of a project, and a deployment of the same one. -/
def computeThenDeploy : List StatusCall := [⟨1, .computing⟩, ⟨1, .deploying⟩]

/-- The deployment is admitted while the computation runs. -/
theorem not_exclusiveJobs_of_run :
    AtMostOne twoProjects ∧ ¬ExclusiveJobs (twoProjects.run computeThenDeploy) := by
  refine ⟨atMostOne_twoProjects, fun hjobs => ?_⟩
  have hhistory : (twoProjects.run computeThenDeploy).2 =
      [] ++ ⟨⟨1, .computing⟩, true⟩ :: ([] ++ ⟨⟨1, .deploying⟩, true⟩ :: []) := by
    rfl
  obtain ⟨e, he, -⟩ := hjobs.onProject 1 _ _ _ _ _ hhistory ⟨rfl, rfl, rfl⟩ ⟨rfl, rfl, rfl⟩
  cases he

end Core
end Sebastian

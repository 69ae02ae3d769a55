/-
# Updating a baseline

`UpdateDesignBaseline` and `UpdateOperationBaseline`
(`core/src/act_core_network_baseline.cpp`): the same body, once for either set of
baselines.  It takes a copy of a set, puts the baseline in the place of the one with its id,
and stores the copy.  Both bodies copy the *design* baselines; the second one stores the copy
as the operation baselines.

`getElem?_updateBaselineAt` says what a successful update stores, whichever set it copied.  So
the design baselines are a store of their own, and the operation baselines are one exactly
where the two sets have the same baselines besides the updated one
(`updateBaselines_independent_iff`).
-/

import Sebastian.Core.NetworkBaseline

namespace Sebastian
namespace Core
namespace BaselineCore

variable {γ : Type}

/-! ### The operations -/

/-- What an update calls besides: the renaming of a file in the database. -/
structure BaselineUpdateServices (γ : Type) extends BaselineServices γ where
  /-- `UpdateNetworkBaselineFileName` -/
  updateNetworkBaselineFileName : BaselineMode → ℤ → String → String → Status

/-- A baseline without a name is given one. -/
def namedBaseline (services : BaselineUpdateServices γ) (baseline : NetworkBaseline γ) :
    NetworkBaseline γ :=
  if baseline.name.isEmpty then { baseline with name := services.systemAssignBaselineName }
  else baseline

/-- The baseline as an update stores it. -/
def updatedBaseline (services : BaselineUpdateServices γ) (baseline : NetworkBaseline γ) :
    NetworkBaseline γ :=
  { namedBaseline services baseline with dataVersion := baselineDataVersion }

/-- "Write to db": where the baseline had another name, its file is renamed and not written. -/
def writeUpdated (services : BaselineUpdateServices γ) (mode : BaselineMode)
    (old : Option (NetworkBaseline γ)) (baseline : NetworkBaseline γ) : Status :=
  match old with
  | none => services.writeData mode baseline
  | some old =>
    if old.name ≠ baseline.name then
      services.updateNetworkBaselineFileName mode baseline.id old.name baseline.name
    else services.writeData mode baseline

/-- The body of the two functions below: the set it copies and what it does with the copy. -/
def updateBaselineAt (services : BaselineUpdateServices γ) (mode : BaselineMode)
    (baselineSet : BaselineSet γ) (store : BaselineSet γ → BaselineCore γ) (core : BaselineCore γ)
    (projectId : ℤ) (baseline : NetworkBaseline γ) : Status × BaselineCore γ :=
  match core.getProject projectId with
  | .error status => (status, core)
  | .ok _ =>
    if baseline.id = -1 then
      (.badRequest ⟨"Cannot Update the CURRENT Network Baseline(id: %1)", [.int baseline.id]⟩, core)
    else
      let checked := core.checkDesignBaseline projectId (namedBaseline services baseline)
      if !checked.isSuccess then (checked, core)
      else
        let baseline := updatedBaseline services baseline
        (writeUpdated services mode baselineSet[baseline.id]? baseline,
          store (replaceBaseline baselineSet baseline))

/-- `UpdateDesignBaseline` -/
def updateDesignBaseline (services : BaselineUpdateServices γ) (core : BaselineCore γ)
    (projectId : ℤ) (baseline : NetworkBaseline γ) : Status × BaselineCore γ :=
  updateBaselineAt services .design core.designBaselineSet
    (fun baselineSet => { core with designBaselineSet := baselineSet }) core projectId baseline

/-- `UpdateOperationBaseline`.  The set it reads is that of the design baselines. -/
def updateOperationBaseline (services : BaselineUpdateServices γ) (core : BaselineCore γ)
    (projectId : ℤ) (baseline : NetworkBaseline γ) : Status × BaselineCore γ :=
  updateBaselineAt services .operation core.designBaselineSet
    (fun baselineSet => { core with operationBaselineSet := baselineSet }) core projectId baseline

/-! ### What an update leaves -/

variable {services : BaselineUpdateServices γ} {mode : BaselineMode} {set set' : BaselineSet γ}
  {store : BaselineSet γ → BaselineCore γ} {core core' : BaselineCore γ} {projectId k : ℤ}
  {baseline : NetworkBaseline γ}

@[simp] theorem namedBaseline_id : (namedBaseline services baseline).id = baseline.id := by
  unfold namedBaseline
  split_ifs <;> rfl

@[simp] theorem updatedBaseline_id : (updatedBaseline services baseline).id = baseline.id :=
  namedBaseline_id

theorem status_ne_success_of_getProject {status : Status}
    (h : core.getProject projectId = .error status) : status ≠ .success := by
  rintro rfl
  rw [getProject, ActCore.getProject] at h
  cases hstored : core.store.projectSet[projectId]? with
  | none =>
    rw [hstored] at h
    cases h
  | some project =>
    rw [hstored] at h
    cases h

/-- **A successful update stores its copy**, with the baseline in the place of the one with its
id. -/
theorem core_of_updateBaselineAt
    (h : updateBaselineAt services mode set store core projectId baseline = (.success, core')) :
    core' = store (replaceBaseline set (updatedBaseline services baseline)) := by
  unfold updateBaselineAt at h
  cases hget : core.getProject projectId with
  | error status =>
    rw [hget] at h
    exact absurd (Prod.mk.inj h).1 (status_ne_success_of_getProject hget)
  | ok project =>
    rw [hget] at h
    dsimp only at h
    split_ifs at h with hcur hchecked
    · cases (Prod.mk.inj h).1
    · rw [(Prod.mk.inj h).1] at hchecked
      cases hchecked
    · exact (Prod.mk.inj h).2.symm

/-- The baseline is stored under its id, and every other id has what it had. -/
def StoresAlone (set set' : BaselineSet γ) (baseline : NetworkBaseline γ) : Prop :=
  set'[baseline.id]? = some baseline ∧ ∀ k : ℤ, k ≠ baseline.id → set'[k]? = set[k]?

theorem storesAlone_replaceBaseline : StoresAlone set (replaceBaseline set baseline) baseline := by
  refine ⟨?_, fun k hk => ?_⟩
  · rw [getElem?_replaceBaseline, if_pos rfl]
  · rw [getElem?_replaceBaseline, if_neg (Ne.symm hk)]

theorem storesAlone_replaceBaseline_iff : StoresAlone set' (replaceBaseline set baseline) baseline ↔
      ∀ k : ℤ, k ≠ baseline.id → set'[k]? = set[k]? := by
  have hcopy : StoresAlone set
    (replaceBaseline set baseline) baseline := storesAlone_replaceBaseline
  constructor
  · intro h k hk
    rw [← h.2 k hk, hcopy.2 k hk]
  · exact fun h => ⟨hcopy.1, fun k hk => by rw [hcopy.2 k hk, h k hk]⟩

/-- **The design baselines are a store of their own; the operation baselines are one exactly where
they are the design baselines.**  A successful `UpdateDesignBaseline` leaves the operation
baselines and the other design baselines alone.  A successful `UpdateOperationBaseline` leaves the
design baselines alone, and the other operation baselines if and only if each of them is already
what the design baselines have under its id. -/
theorem updateBaselines_independent_iff (services : BaselineUpdateServices γ)
    (core : BaselineCore γ) (projectId : ℤ) (baseline : NetworkBaseline γ) :
    (∀ core', updateDesignBaseline services core projectId baseline = (.success, core') →
      core'.operationBaselineSet = core.operationBaselineSet ∧
      StoresAlone core.designBaselineSet core'.designBaselineSet
        (updatedBaseline services baseline)) ∧
    ∀ core', updateOperationBaseline services core projectId baseline = (.success, core') →
      ((core'.designBaselineSet = core.designBaselineSet ∧
        StoresAlone core.operationBaselineSet core'.operationBaselineSet
          (updatedBaseline services baseline)) ↔
      ∀ k : ℤ, k ≠ baseline.id → core.operationBaselineSet[k]? = core.designBaselineSet[k]?) := by
  refine ⟨fun core' hdesign => ?_, fun core' hoper => ?_⟩
  · rw [core_of_updateBaselineAt hdesign]
    exact ⟨rfl, storesAlone_replaceBaseline⟩
  · rw [core_of_updateBaselineAt hoper, storesAlone_replaceBaseline_iff, updatedBaseline_id]
    exact and_iff_right rfl

/-- Everything succeeds. -/
def updateServicesExample : BaselineUpdateServices Unit :=
  { servicesExample with updateNetworkBaselineFileName := fun _ _ _ _ => .success }

/-- The active baseline of `againExample`, with a description. -/
def describedExample : NetworkBaseline Unit :=
  { id := 50001, name := "a", projectId := 1, activate := true, description := "as built"
    mode := .operation
    project := { id := 1, projectName := "p", lastModifiedTime := 0, content := { rest := () } } }

/-- The project with one baseline, in design and in operation. -/
def oneBaselineExample : BaselineCore Unit :=
  { freshExample with
    designBaselineSet := (∅ :
      BaselineSet Unit).insert 50001 { describedExample with mode := .design }
    operationBaselineSet := (∅ : BaselineSet Unit).insert 50001 describedExample }

/-- With one baseline in either set there is no other one to lose. -/
theorem updateBaselines_independent_oneBaseline :
    (updateOperationBaseline updateServicesExample oneBaselineExample 1 describedExample).1
      = .success ∧
    StoresAlone oneBaselineExample.operationBaselineSet
      (updateOperationBaseline updateServicesExample oneBaselineExample 1
        describedExample).2.operationBaselineSet
      (updatedBaseline updateServicesExample describedExample) := by
  have hsucc : (updateOperationBaseline updateServicesExample oneBaselineExample 1
      describedExample).1 = .success := by decide +kernel
  refine ⟨hsucc, (((updateBaselines_independent_iff updateServicesExample oneBaselineExample 1
    describedExample).2 _ (Prod.ext hsucc rfl)).2 fun k hk => ?_).2⟩
  have hne : ¬(50001 : ℤ) = k := Ne.symm hk
  rw [oneBaselineExample, Std.TreeMap.getElem?_insert, Std.TreeMap.getElem?_insert,
    if_neg (by simpa using hne), if_neg (by simpa using hne)]

/-- **A baseline that was never activated enters operation.**  The project has two design
baselines, of which the first one is active; a description for it in operation brings the second
one there. -/
theorem not_storesAlone_updateOperationBaseline :
    (updateOperationBaseline updateServicesExample againExample 1 describedExample).1 = .success ∧
    ¬StoresAlone againExample.operationBaselineSet
      (updateOperationBaseline updateServicesExample againExample 1
        describedExample).2.operationBaselineSet
      (updatedBaseline updateServicesExample describedExample) := by
  refine ⟨by decide +kernel, fun hstores => ?_⟩
  have hother := congrArg Option.isSome (hstores.2 50002 (by decide))
  revert hother
  decide +kernel

end BaselineCore
end Core
end Sebastian

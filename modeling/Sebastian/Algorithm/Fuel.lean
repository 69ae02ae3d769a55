/-
# More fuel

The bound on the rounds of the loops is only a bound: what a computation of the scheduler
returns, it returns with any larger bound (`grows_computeScheduleStream`), and a run with a
larger bound comes to the same attempts and states (`Attempts.grow`, `Searches.grow`).
-/

import Sebastian.Algorithm.Run
import Sebastian.Algorithm.Restart
import Sebastian.Lib.Ends

namespace Sebastian
namespace Algorithm

open Loop

variable {lib : Library} {base result working : ScheduleResult} {config : ScheduleConfig}
  {configStream : ScheduleConfigStream} {splitVlanId : UInt16}
  {listener : ScheduleConfigInterface} {stream : ScheduleStream}

/-! ### A search, and the loop over the sequences -/

theorem grows_computeScheduleStreamRouting :
    Grows fun fuel => computeScheduleStreamRouting lib fuel config stream result := by
  simp only [computeScheduleStreamRouting]
  exact (grows_const _).bind fun _ => grows_run

theorem streamBody_of_le {fuel fuel' : ℕ} {t : StreamState} (hle : fuel ≤ fuel')
    (h : streamBody lib fuel base t ≠ .stuck) :
    streamBody lib fuel' base t = streamBody lib fuel base t := by
  by_cases hs : t.Searching
  · rw [streamBody_of_searching hs] at h ⊢
    rw [streamBody_of_searching hs]
    cases hr : computeScheduleStreamRouting lib fuel t.config t.stream t.result with
    | none => exact absurd (by rw [hr]) h
    | some r =>
      have hr' : computeScheduleStreamRouting lib fuel' t.config t.stream t.result = some r :=
        grows_computeScheduleStreamRouting fuel fuel' r hle hr
      rw [hr']
  · by_cases hintv : t.stream.interval = 0
    · rw [streamBody, streamBody, if_pos hintv, if_pos hintv]
    · obtain ⟨t', hdone⟩ := streamBody_of_not_searching lib base hs hintv
      rw [hdone, hdone]

/-! ### Storing the paths -/

theorem grows_traceFrames {frames : List Frame} {t : TraceState} :
    Grows fun fuel => traceFrames fuel working configStream splitVlanId listener frames t := by
  induction frames generalizing t with
  | nil => exact grows_const _
  | cons frame frames ih =>
    simp only [traceFrames]
    split_ifs
    · exact ih
    · exact grows_run.bind fun _ => grows_const _
    · exact grows_run.bind fun _ => ih

theorem grows_generateListeners {streamId : ℤ} {queueId : UInt8}
    {listeners : List ScheduleConfigInterface} {vlanMap : QMap ℤ (QMap ℤ UInt16)} :
    Grows fun fuel => generateListeners lib fuel config configStream queueId streamId splitVlanId
      working listeners vlanMap result := by
  induction listeners generalizing vlanMap result with
  | nil => exact grows_const _
  | cons listener listeners ih =>
    simp only [generateListeners]
    refine (grows_foldlM (fun acc sequence => ?_) _).bind fun acc => ?_
    · simp only [generateSequence]
      exact grows_traceFrames.bind fun _ => grows_const _
    · split_ifs
      · exact grows_const _
      · exact ih

theorem grows_generateSplitVlan : Grows fun fuel => generateSplitVlan fuel config configStream := by
  simp only [generateSplitVlan, ScheduleConfigVLAN.generateSystemAssignVLAN]
  split_ifs
  · exact grows_run.map _
  · exact grows_const _
  · exact grows_const _

theorem grows_generateScheduleStreamRouting :
    Grows fun fuel => generateScheduleStreamRouting lib fuel config stream result working := by
  simp only [generateScheduleStreamRouting]
  refine grows_generateSplitVlan.bind fun r => ?_
  split_ifs
  · exact grows_const _
  · exact grows_generateListeners.bind fun _ => grows_const _

/-! ### Attempts and runs -/

/-- **An attempt** returns the same with more fuel. -/
theorem grows_computeScheduleStream :
    Grows fun fuel => computeScheduleStream lib fuel stream config base := by
  simp only [computeScheduleStream]
  have hrun : Grows fun fuel => run (streamBody lib fuel base) fuel
      { stream := stream, config := config, result := base, status := .success } :=
    grows_run_of fun fuel fuel' t hle h => streamBody_of_le hle h
  refine hrun.bind fun t => ?_
  split_ifs
  · exact grows_const _
  · exact grows_generateScheduleStreamRouting

theorem grows_computePcps {streamId : ℤ} {pcps : List UInt8} {status : Status} :
    Grows fun fuel => computePcps lib fuel streamId pcps status config base := by
  induction pcps generalizing status config base with
  | nil => exact grows_const _
  | cons pcp pcps ih =>
    simp only [computePcps]
    refine grows_computeScheduleStream.bind fun r => ?_
    split_ifs
    · exact grows_const _
    · exact ih

section
variable {fuel fuel' : ℕ} {a : Attempt} (hle : fuel ≤ fuel')
include hle

theorem AttemptsPcp.grow {streamId : ℤ} {pcps : List UInt8}
    (h : AttemptsPcp lib fuel streamId base pcps config a) :
    AttemptsPcp lib fuel' streamId base pcps config a := by
  induction h with
  | here => exact .here _ _ _
  | next hatt hne _ ih =>
    exact .next (grows_computeScheduleStream fuel fuel' _ hle hatt) hne ih

theorem AttemptsStream.grow {ids : List ℤ} (h : AttemptsStream lib fuel ids config base a) :
    AttemptsStream lib fuel' ids config base a := by
  induction h with
  | here hatts => exact .here (hatts.grow hle)
  | next hpcps _ ih => exact .next (grows_computePcps fuel fuel' _ hle hpcps) ih

/-- **A run with more fuel** comes to the same attempts. -/
theorem Attempts.grow (h : Attempts lib fuel config a) : Attempts lib fuel' config a := by
  obtain ⟨ids, hids, hatts⟩ := h
  exact ⟨ids, hids, hatts.grow hle⟩

theorem visits_grow {t : StreamState} (h : Loop.Visits (streamBody lib fuel a.base) a.init t) :
    Loop.Visits (streamBody lib fuel' a.base) a.init t :=
  h.grow fun _ => streamBody_of_le hle

end

end Algorithm
end Sebastian

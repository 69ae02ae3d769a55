/-
# When a talker releases its frames

Sequence `k` of a stream should be enqueued at its talker `k` intervals after the
transmit offset (`Periodic`).  That is the time `CheckTransmitOffset` looks at, and
`GenerateTransmitOffset` computes it, but the frame that the talker sends is given
the transmit offset itself: all sequences of a stream are released at once
(`enqueueTime_of_talker`), and a stream with two of them is not periodic
(`not_periodic_of_computeSchedule`).  In a run where no stream has a second sequence
in the cycle, the law holds (`periodic_of_computeSchedule`).
-/

import Sebastian.Algorithm.States

namespace Sebastian
namespace Algorithm

open Feasibility Sample

variable {lib : Library}

/-- The number of sequences of a stream in the cycle. -/
def ScheduleConfig.sequencesOf (config : ScheduleConfig) (streamId : ℤ) : ℤ :=
  config.cycleTime.tdiv (config.getScheduleConfigStream streamId).interval

/-- The frame that the talker of the stream sends for a sequence. -/
structure Frame.IsTalkerFrame (frame : Frame) (config : ScheduleConfig) (streamId : ℤ) : Prop where
  stream : frame.streamId = streamId
  device : frame.deviceId = (config.getScheduleConfigStream streamId).talker.deviceId
  first : frame.prevFrameId = -1

instance (frame : Frame) (config : ScheduleConfig) (streamId : ℤ) :
    Decidable (frame.IsTalkerFrame config streamId) :=
  decidable_of_iff (frame.streamId = streamId ∧
      frame.deviceId = (config.getScheduleConfigStream streamId).talker.deviceId ∧
      frame.prevFrameId = -1)
    ⟨fun h => ⟨h.1, h.2.1, h.2.2⟩, fun h => ⟨h.1, h.2, h.3⟩⟩

/-- **The releases of every stream are one interval apart**, from a transmit offset on
that was checked for every sequence. -/
def Periodic (config : ScheduleConfig) (result : ScheduleResult) : Prop :=
  ∀ id ∈ config.scheduleConfigStreams.keys, ∃ transmitOffset,
    (∀ k, 0 ≤ k → k < config.sequencesOf id →
      checkTransmitOffset (config.getScheduleConfigStream id) transmitOffset
        (config.getScheduleConfigStream id).interval k = .success) ∧
    ∀ key f, result.lookup key = some f → f.IsTalkerFrame config id →
      f.enqueueTime =
        transmitOffset + (config.getScheduleConfigStream id).interval * f.sequenceId

section
variable {config config' : ScheduleConfig} {a : Attempt} {t t' : StreamState} {fuel : ℕ}
  {result : ScheduleResult} {frames : Frame → Prop}

theorem ScheduleConfig.Extends.checkTransmitOffset (h : config.Extends config')
    (id transmitOffset interval k : ℤ) :
    Feasibility.checkTransmitOffset (config'.getScheduleConfigStream id) transmitOffset interval k =
      Feasibility.checkTransmitOffset (config.getScheduleConfigStream id) transmitOffset interval
        k := by
  rw [h.stream]
  rfl

/-- The transmit offset has been checked for all sequences before the current one. -/
def Checked (config : ScheduleConfig) (a : Attempt) (t : StreamState) : Prop :=
  ∀ k, 0 ≤ k → k < t.stream.sequenceId →
    checkTransmitOffset (config.getScheduleConfigStream a.streamId) t.stream.transmitOffset
      (config.getScheduleConfigStream a.streamId).interval k = .success

/-- **A round of the loop** checks its sequence, or starts over with none. -/
theorem Checked.round (h : Checked config a t) (hinv : StreamInv config a t)
    (hround : StreamRound lib a.base t t') : Checked config a t' := by
  intro k hk hlt
  cases hround with
  | accept s hs ht' =>
    subst ht'
    dsimp only at hlt ⊢
    have hcheck := hs.searching.transmitOffset
    rw [hinv.extends_config.checkTransmitOffset, hinv.streamId, hinv.interval] at hcheck
    by_cases hlast : k = t.stream.sequenceId
    · rw [hlast]
      exact hcheck
    · exact h k hk (by omega)
  | restart transmitOffset _ hstrm =>
    rw [hstrm] at hlt
    dsimp only at hlt
    omega

variable (h : Completes lib fuel config a t result frames) (ha : AttemptInv config a)
include h ha

/-- The transmit offset of an attempt that is stored was checked for every sequence. -/
theorem Completes.checked : Checked config a t := by
  have hboth : StreamInv config a t ∧ Checked config a t := by
    refine h.visits.rule (I := fun t => StreamInv config a t ∧ Checked config a t)
      ⟨ha.init, fun k hk hlt => ?_⟩ fun t t' _ ⟨hinv, hchecked⟩ hb => ?_
    · exact absurd hlt (not_lt.2 hk)
    · have hround := streamRound_of_next hb
      exact ⟨hinv.round ha hround, hchecked.round hinv hround⟩
  exact hboth.2

/-- The loop does not go beyond the last sequence. -/
theorem Completes.sequenceId_le : t.stream.sequenceId ≤ max 0 (config.sequencesOf a.streamId) := by
  have hboth : StreamInv config a t ∧
      t.stream.sequenceId ≤ max 0 (config.sequencesOf a.streamId) := by
    refine h.visits.rule (I := fun t => StreamInv config a t ∧
      t.stream.sequenceId ≤ max 0 (config.sequencesOf a.streamId))
      ⟨ha.init, le_max_left _ _⟩ fun t t' _ ⟨hinv, _⟩ hb => ?_
    have hround := streamRound_of_next hb
    refine ⟨hinv.round ha hround, ?_⟩
    cases hround with
    | accept s hs ht' =>
      subst ht'
      have hlt := hs.searching.sequence
      rw [hinv.cycleTime, hinv.interval] at hlt
      exact le_max_of_le_right hlt
    | restart transmitOffset _ hstrm =>
      rw [hstrm]
      exact le_max_left _ _
  exact hboth.2

/-- **What the code does**: every sequence is released at the transmit offset. -/
theorem Completes.enqueueTime_of_talker
    {key : FrameKey} {f : Frame} (hkey : key.streamId = a.streamId)
    (hf : result.lookup key = some f) (hfirst : f.prevFrameId = -1) :
    f.enqueueTime = t.stream.transmitOffset ∧ 0 ≤ f.sequenceId ∧
      f.sequenceId < t.stream.sequenceId := by
  obtain ⟨g, -, hgk, hm, hg⟩ := h.exists_of_lookup ha hkey hf
  obtain ⟨-, hnn, hlt, -, hlinked⟩ := h.inv.own key g hkey hg
  have hseq : f.sequenceId = key.sequenceId := by
    rw [← hgk, hm]
    rfl
  have hfirst' : g.prevFrameId = -1 := by
    rw [← hfirst, hm]
  refine ⟨?_, hseq ▸ hnn, hseq ▸ hlt⟩
  cases hlinked with
  | talker _ _ _ _ htime =>
    rw [hm]
    exact htime
  | next _ _ _ _ _ _ hprev =>
    rw [hfirst'] at hprev
    exact absurd hprev (by decide)

omit h ha

end

/-- **Releases are periodic** in a run where no stream has a second sequence in the
cycle. -/
theorem periodic_of_computeSchedule {fuel : ℕ} {config config' : ScheduleConfig}
    {result : ScheduleResult}
    (hone : ∀ id ∈ config.scheduleConfigStreams.keys, config.sequencesOf id ≤ 1)
    (h : computeSchedule lib fuel config = some (.success, config', result)) :
    Periodic config result := by
  intro id hid
  obtain ⟨a, t, frames, r, hatts, rfl, hcompletes, hget⟩ := exists_attempt h hid
  have ha := hatts.inv.1
  have hseqs := hcompletes.sequences
  rw [hcompletes.inv.cycleTime, hcompletes.inv.interval] at hseqs
  refine ⟨t.stream.transmitOffset, fun k hk hlt => ?_, fun key f hf htalker => ?_⟩
  · exact hcompletes.checked ha k hk (lt_of_lt_of_le hlt hseqs)
  · have hkeyed := (scheduleInv_of_computeSchedule h).keyed key f hf
    have hkey : key.streamId = a.streamId := by
      rw [← hkeyed]
      exact htalker.stream
    rw [hget key hkey] at hf
    obtain ⟨htime, hnn, hlt⟩ := hcompletes.enqueueTime_of_talker ha hkey hf htalker.first
    have hle := hcompletes.sequenceId_le ha
    have hone' := hone a.streamId hid
    have hfirst : f.sequenceId = 0 := by omega
    rw [htime, hfirst, mul_zero, add_zero]

/-- Two streams with the same interval, one sequence each. -/
def sameInterval : Project :=
  line 1000 [application 1 6 46 0 1000, application 2 5 46 0 1000]
    [stream 1 1 [2], stream 2 1 [2]]

theorem periodic_of_computeSchedule_sameInterval :
    ∃ config config' result, ScheduleConfig.prepareScheduleConfig 100 sameInterval = .ok config ∧
      computeSchedule .reference 100 config = some (.success, config', result) ∧
      Periodic config result := by
  obtain ⟨config, config', result, hprep, hcomp, hcheck⟩ :=
    exists_of_scheduleOf sameInterval (fun config _ =>
      decide (∀ id ∈ config.scheduleConfigStreams.keys, config.sequencesOf id ≤ 1))
      (by decide +kernel)
  exact ⟨config, config', result, hprep, hcomp,
    periodic_of_computeSchedule (of_decide_eq_true hcheck) hcomp⟩

/-- Stream 2 has two sequences in the cycle of stream 1. -/
def twoIntervals : Project :=
  line 1000 [application 1 6 46 0 1000, application 2 5 46 0 500]
    [stream 1 1 [2], stream 2 1 [2]]

/-- Both sequences of stream 2 are enqueued at its talker at the same time. -/
theorem not_periodic_of_computeSchedule :
    ∃ config config' result, ScheduleConfig.prepareScheduleConfig 100 twoIntervals = .ok config ∧
      computeSchedule .reference 100 config = some (.success, config', result) ∧
      ¬Periodic config result := by
  obtain ⟨config, config', result, hprep, hcomp, hcheck⟩ :=
    exists_of_scheduleOf twoIntervals (fun config result =>
      config.scheduleConfigStreams.keys.contains 2 &&
      (config.getScheduleConfigStream 2).interval = 500000 &&
      (result.lookup ⟨1, 1, 5, 2, 0, 0⟩).any fun (f : Frame) =>
        (result.lookup ⟨1, 1, 5, 2, 1, 0⟩).any fun (g : Frame) =>
          decide (f.IsTalkerFrame config 2 ∧ g.IsTalkerFrame config 2 ∧
            f.sequenceId = 0 ∧ g.sequenceId = 1 ∧ f.enqueueTime = g.enqueueTime))
      (by decide +kernel)
  obtain ⟨hstrm, hcheck⟩ := Bool.and_eq_true_iff.1 hcheck
  obtain ⟨hid, hintv⟩ := Bool.and_eq_true_iff.1 hstrm
  obtain ⟨f, hf, hcheck⟩ := (Option.any_eq_true _ _).1 hcheck
  obtain ⟨g, hg, hcheck⟩ := (Option.any_eq_true _ _).1 hcheck
  obtain ⟨hftalker, hgtalker, hfirst, hsecond, htime⟩ := of_decide_eq_true hcheck
  refine ⟨config, config', result, hprep, hcomp, fun hperiodic => ?_⟩
  obtain ⟨transmitOffset, -, hreleases⟩ := hperiodic 2 (List.contains_iff_mem.1 hid)
  have hf' := hreleases _ f hf hftalker
  have hg' := hreleases _ g hg hgtalker
  rw [of_decide_eq_true hintv, hfirst] at hf'
  rw [of_decide_eq_true hintv, hsecond] at hg'
  omega

end Algorithm
end Sebastian

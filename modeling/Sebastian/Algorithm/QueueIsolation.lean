/-
# Queues of the schedule

A queue holds a frame from its enqueue time to the end of its transmission, and
should hold frames of one stream at a time (`QueueIsolated`).
`ConsiderQueueIsolation` compares a frame with the frames of its queue by their
enqueue times, and moves the bound it compares with to the end of a frame of the
same stream that the frame waits behind.  That bound may lie before the end of the
frame itself, so that another stream between the two is not seen
(`exists_of_considerQueueIsolation`); the queue then holds two streams at once
(`not_queueIsolated_of_computeSchedule`).  In a run in which no frame comes to that
check so, every queue holds one stream at a time
(`queueIsolated_of_computeSchedule`).
-/

import Sebastian.Algorithm.States

namespace Sebastian
namespace Algorithm

open Sample List

variable {lib : Library}

/-- The frame is in its queue. -/
def Frame.InQueue (frame : Frame) (time : ℤ) : Prop :=
  frame.enqueueTime ≤ time ∧ time < frame.stopTime

/-- Two transmissions of different streams in one queue. -/
structure Frame.SharesQueue (frame other : Frame) : Prop where
  device : frame.deviceId = other.deviceId
  interface : frame.egressInterfaceId = other.egressInterfaceId
  queue : frame.queueId = other.queueId
  stream : frame.streamId ≠ other.streamId
  transmission : frame.IsTransmission
  transmission_other : other.IsTransmission

instance (frame : Frame) (time : ℤ) : Decidable (frame.InQueue time) :=
  inferInstanceAs (Decidable (_ ∧ _))

instance (frame other : Frame) : Decidable (frame.SharesQueue other) :=
  decidable_of_iff (frame.deviceId = other.deviceId ∧
      frame.egressInterfaceId = other.egressInterfaceId ∧ frame.queueId = other.queueId ∧
      frame.streamId ≠ other.streamId ∧ frame.IsTransmission ∧ other.IsTransmission)
    ⟨fun h => ⟨h.1, h.2.1, h.2.2.1, h.2.2.2.1, h.2.2.2.2.1, h.2.2.2.2.2⟩,
      fun h => ⟨h.1, h.2, h.3, h.4, h.5, h.6⟩⟩

/-- A queue holds one stream at a time. -/
def QueueIsolated (result : ScheduleResult) : Prop :=
  ∀ key key' f g, result.lookup key = some f → result.lookup key' = some g → f.SharesQueue g →
    ∀ time, ¬(f.InQueue time ∧ g.InQueue time)

/-! ### What the check lets pass -/

/-- The check has passed the frames `passed`, of its own stream and of others,
without asking for a later time. -/
structure Passes (frame : Frame) (passed : List Frame) (bound : ℤ) : Prop where
  bound : bound = frame.dequeueTime ∨ ∃ p ∈ passed, p.streamId = frame.streamId ∧
    p.enqueueTime ≤ frame.enqueueTime ∧ frame.enqueueTime < p.stopTime ∧ bound = p.stopTime
  apart : ∀ g ∈ passed, g.streamId ≠ frame.streamId →
    g.stopTime ≤ frame.enqueueTime ∨ frame.stopTime ≤ g.enqueueTime ∨
      ∃ p ∈ passed, p.streamId = frame.streamId ∧ p.enqueueTime ≤ frame.enqueueTime ∧
        frame.enqueueTime < p.stopTime ∧ p.stopTime + frame.duration ≤ g.enqueueTime

theorem Passes.step {frame other : Frame} {passed : List Frame} {bound : ℤ}
    (h : Passes frame passed bound)
    (hpass : (queueIsolationStep frame (frame.enqueueTime, bound) other).1 = frame.enqueueTime) :
    Passes frame (passed ++ [other])
      (queueIsolationStep frame (frame.enqueueTime, bound) other).2 := by
  have hgrow : ∀ {P : Frame → Prop}, (∃ p ∈ passed, P p) → ∃ p ∈ passed ++ [other], P p := by
    rintro P ⟨p, hp, hP⟩
    exact ⟨p, mem_append_left _ hp, hP⟩
  have hapart : ∀ g ∈ passed, g.streamId ≠ frame.streamId →
      g.stopTime ≤ frame.enqueueTime ∨ frame.stopTime ≤ g.enqueueTime ∨
        ∃ p ∈ passed ++ [other], p.streamId = frame.streamId ∧
          p.enqueueTime ≤ frame.enqueueTime ∧ frame.enqueueTime < p.stopTime ∧
          p.stopTime + frame.duration ≤ g.enqueueTime := fun g hg hne =>
    (h.apart g hg hne).imp_right (Or.imp_right hgrow)
  simp only [queueIsolationStep] at hpass ⊢
  by_cases hmeet : other.enqueueTime < bound + frame.duration ∧ other.stopTime > frame.enqueueTime
  · -- a frame it meets is one of its own stream, enqueued before it
    rw [if_pos hmeet] at hpass ⊢
    have hown : ¬(other.streamId ≠ frame.streamId ∨ frame.enqueueTime < other.enqueueTime) := by
      intro hc
      rw [if_pos hc] at hpass
      dsimp only at hpass
      omega
    obtain ⟨hstrm, hle⟩ := not_or.1 hown
    rw [not_not] at hstrm
    refine ⟨.inr ⟨other, by simp, hstrm, not_lt.1 hle, hmeet.2, rfl⟩, fun g hg hne => ?_⟩
    rcases mem_append.1 hg with hg | hg
    · exact hapart g hg hne
    · rw [mem_singleton.1 hg] at hne
      exact absurd hstrm hne
  · rw [if_neg hmeet]
    refine ⟨h.bound.imp_right hgrow, fun g hg hne => ?_⟩
    rcases mem_append.1 hg with hg | hg
    · exact hapart g hg hne
    · obtain rfl := mem_singleton.1 hg
      rcases not_and_or.1 hmeet with hle | hle
      · rcases h.bound with rfl | ⟨p, hp, hs, he, hlt, rfl⟩
        · exact .inr (.inl (not_lt.1 hle))
        · exact .inr (.inr (hgrow ⟨p, hp, hs, he, hlt, not_lt.1 hle⟩))
      · exact .inl (not_lt.1 hle)

/-- **What queue isolation lets pass**: a frame of another stream is apart from it,
or lies behind one of the same stream that the frame waits behind. -/
theorem exists_of_considerQueueIsolation {result : ScheduleResult} {frame other : Frame}
    (h : considerQueueIsolation lib result frame = 0)
    (hother : other ∈ queueFrames lib result frame) (hne : other.streamId ≠ frame.streamId) :
    other.stopTime ≤ frame.enqueueTime ∨ frame.stopTime ≤ other.enqueueTime ∨
      ∃ p ∈ queueFrames lib result frame, p.streamId = frame.streamId ∧
        p.enqueueTime ≤ frame.enqueueTime ∧ frame.enqueueTime < p.stopTime ∧
        p.stopTime + frame.duration ≤ other.enqueueTime := by
  obtain ⟨s, n, k, hget⟩ := mem_queueFrames.1 hother
  have hexist : result.isQueueExist frame.deviceId frame.egressInterfaceId frame.queueId = true :=
    ScheduleResult.isQueueExist_of_lookup hget
  rw [considerQueueIsolation, if_pos hexist] at h
  -- the enqueue time it keeps never goes back, so it never moved
  have hpasses := Loop.foldl_rule (l := queueFrames lib result frame)
    (f := queueIsolationStep frame) (b := (frame.enqueueTime, frame.dequeueTime))
    (I := fun passed (times : ℤ × ℤ) => frame.enqueueTime ≤ times.1 ∧
      (times.1 = frame.enqueueTime → Passes frame passed times.2))
    ⟨le_rfl, fun _ => ⟨.inl rfl, fun g hg => absurd hg not_mem_nil⟩⟩ ?_
  · exact (hpasses.2 (by omega)).apart other hother hne
  · rintro passed other rest - ⟨hle, hpass⟩
    generalize passed.foldl (queueIsolationStep frame) (frame.enqueueTime, frame.dequeueTime) =
      times at hle hpass ⊢
    obtain ⟨time, bound⟩ := times
    dsimp only at hle hpass
    have hmono : time ≤ (queueIsolationStep frame (time, bound) other).1 := by
      simp only [queueIsolationStep]
      split_ifs with hmeet hlater
      · exact hmeet.2.le
      · exact le_rfl
      · exact le_rfl
    refine ⟨hle.trans hmono, fun e => ?_⟩
    obtain rfl : time = frame.enqueueTime := by omega
    exact (hpass rfl).step e

/-! ### Runs -/

/-- The next frame does not come to queue isolation so that it waits behind a frame
of its own stream, which ends before a frame of another stream is enqueued that
the frame itself would meet. -/
def WaitsInOrder (stream : ScheduleStream) (s : RoutingState lib) : Prop :=
  ∀ frame result, Places stream s frame result →
    let placed := considerLinkIsolation lib result stream.cycleTime s.config.reserveTime frame
    ∀ p ∈ queueFrames lib result placed, ∀ g ∈ queueFrames lib result placed,
      p.streamId = placed.streamId → p.enqueueTime ≤ placed.enqueueTime →
      placed.enqueueTime < p.stopTime → g.streamId ≠ placed.streamId → g.IsTransmission →
      placed.enqueueTime < g.stopTime →
      ¬(p.stopTime + placed.duration ≤ g.enqueueTime ∧ g.enqueueTime < placed.stopTime)

instance (stream : ScheduleStream) (s : RoutingState lib) : Decidable (WaitsInOrder stream s) := by
  unfold WaitsInOrder
  infer_instance

/-- **Every queue holds one stream at a time** in a run whose frames all come to
queue isolation in order. -/
theorem queueIsolated_of_computeSchedule {fuel : ℕ} {config config' : ScheduleConfig}
    {result : ScheduleResult}
    (horder : ∀ stream (s : RoutingState lib), Searches fuel config stream s →
      WaitsInOrder stream s)
    (h : computeSchedule lib fuel config = some (.success, config', result)) :
    QueueIsolated result := by
  have hholds : result.Holds (fun _ => True)
      (fun f g => f.SharesQueue g → ∀ time, ¬(f.InQueue time ∧ g.InQueue time)) := by
    refine computeSchedule_holds (fun _ _ _ _ => trivial) (fun f f' g g' hf hg hq => ?_)
      (fun f g hq hshares time hin => ?_)
      (fun stream s frame hs _ hrecv => ⟨trivial, fun key g _ _ hshares => ?_⟩)
      (fun stream s frame r placed hs _ hplaces hplaced hqueue =>
        ⟨trivial, fun key g _ hg hshares time hin => ?_⟩) h
    · rw [hf, hg]
      exact fun hshares => hq ⟨hshares.1, hshares.2, hshares.3, hshares.4, hshares.5, hshares.6⟩
    · exact hq ⟨hshares.1.symm, hshares.2.symm, hshares.3.symm, hshares.4.symm, hshares.6,
        hshares.5⟩ time ⟨hin.2, hin.1⟩
    · exact absurd hshares.transmission (not_isTransmission_of_hasArrived hrecv.arrived)
    · obtain ⟨start, hinv⟩ := hs.searchInv
      have hget := Feasibility.lookup_checkGateControlListLength hplaces.check key
      obtain rfl := hinv.keyed key g hg
      have hmem : g ∈ queueFrames lib r placed := by
        refine mem_queueFrames.2 ⟨g.streamId, g.sequenceId, g.frameId, ?_⟩
        rw [hshares.device, hshares.interface, hshares.queue]
        exact hget.trans hg
      obtain ⟨⟨hframe, hframe'⟩, hother, hother'⟩ := hin
      rcases exists_of_considerQueueIsolation hqueue hmem hshares.stream.symm with
        hle | hle | ⟨p, hp, hstrm, hle, hlt, hbehind⟩
      · omega
      · omega
      · subst hplaced
        exact horder stream s hs frame r hplaces p hp g hmem hstrm hle hlt hshares.stream.symm
          hshares.transmission_other (by omega) ⟨hbehind, by omega⟩
  have hkeyed := (scheduleInv_of_computeSchedule h).keyed
  intro key key' f g hf hg hshares
  refine hholds.pair key key' f g (fun e => hshares.stream ?_) hf hg hshares
  subst e
  rw [hf] at hg
  rw [Option.some.inj hg]

/-- Two streams in one queue: the second one starts over behind the first one. -/
def oneQueue : Project :=
  line 1000 [application 1 6 46 0 1000, application 2 6 46 0 1000]
    [stream 1 1 [2], stream 2 1 [2]]

theorem queueIsolated_of_computeSchedule_oneQueue :
    ∃ config config' result, computeSchedule .reference 100 config =
        some (.success, config', result) ∧ QueueIsolated result := by
  obtain ⟨config, config', result, -, hcomp, hcheck⟩ :=
    exists_of_scheduleOf oneQueue (fun config _ =>
      decide (∀ p ∈ statesOf .reference 100 config, WaitsInOrder p.1 p.2)) (by decide +kernel)
  exact ⟨config, config', result, hcomp,
    queueIsolated_of_computeSchedule (forall_searches hcomp (of_decide_eq_true hcheck)) hcomp⟩

/-- The second frame of stream 2 waits behind its first one, and behind stream 3 on
the link, which stream 1 keeps busy. -/
def behindItself : Project :=
  line 1000
    [application 1 6 170 (3 / 4) 1000, application 2 5 46 0 500, application 3 5 46 2 1000]
    [stream 1 1 [2], stream 2 1 [2], stream 3 1 [2]]

/-- The queue of the talker holds streams 2 and 3 from 2000 ns on. -/
theorem not_queueIsolated_of_computeSchedule :
    ∃ config config' result, ScheduleConfig.prepareScheduleConfig 100 behindItself = .ok config ∧
      computeSchedule .reference 100 config = some (.success, config', result) ∧
      ¬QueueIsolated result := by
  obtain ⟨config, config', result, hprep, hcomp, hcheck⟩ :=
    exists_of_scheduleOf behindItself (fun _ result =>
      (result.lookup ⟨1, 1, 5, 2, 1, 0⟩).any fun (f : Frame) =>
        (result.lookup ⟨1, 1, 5, 3, 0, 0⟩).any fun (g : Frame) =>
          decide (f.SharesQueue g ∧ f.InQueue 2000 ∧ g.InQueue 2000)) (by decide +kernel)
  obtain ⟨f, hf, hcheck⟩ := (Option.any_eq_true _ _).1 hcheck
  obtain ⟨g, hg, hcheck⟩ := (Option.any_eq_true _ _).1 hcheck
  obtain ⟨hshares, hin⟩ := of_decide_eq_true hcheck
  exact ⟨config, config', result, hprep, hcomp,
    fun hisolated => hisolated _ _ f g hf hg hshares 2000 hin⟩

end Algorithm
end Sebastian

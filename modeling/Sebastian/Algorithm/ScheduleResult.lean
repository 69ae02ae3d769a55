/-
# `ActScheduleResult`

The schedule under construction (`algorithm/include/act_schedule_result.hpp`):
frames in nested maps, by device, egress interface, queue, stream, sequence and
frame id.  A frame stands for one transmission; at a listener, where its ingress
and egress interface are the same, for a reception.

`lookup` reads the nested maps at a `FrameKey`, and the two operations on them,
storing a frame (`lookup_setScheduleResult`) and asking for an entry that may
not exist (`lookup_touchQueue`, `lookup_touchStream`), are described by what they
do to it.  The lists of all frames of an interface or a queue, which the
placement of a frame walks, hold what `lookup` finds (`mem_interfaceFrames`,
`mem_queueFrames`), each under a key of its own (`Keyed.pairwise_framesOfInterface`).
-/

import Sebastian.Algorithm.ScheduleConfig

namespace Sebastian
namespace Algorithm

open QMap

/-- `ActScheduleResultFrame` -/
structure Frame where
  frameId : ℤ := 0
  deviceId : ℤ := -1
  ingressInterfaceId : ℤ := -1
  egressInterfaceId : ℤ := -1
  linkId : ℤ := -1
  queueId : UInt8 := 0
  streamId : ℤ := -1
  sequenceId : ℤ := 0
  prevFrameId : ℤ := -1
  prevDeviceId : ℤ := -1
  prevInterfaceId : ℤ := -1
  prevLinkId : ℤ := -1
  priorityCodePoint : UInt8 := 0
  enqueueTime : ℤ := 0
  dequeueTime : ℤ := 0
  duration : ℤ := 0
  cost : ℤ := 0
  /-- The devices behind the frame, first the talker's. -/
  paths : List ℤ := []
  vlanId : UInt16 := 0
  frerType : FrerType := .undefined
  deriving DecidableEq

instance : Inhabited Frame := ⟨{}⟩

/-- `operator==(ActScheduleResultFrame)` -/
instance : BEq Frame := ⟨fun x y => x.frameId == y.frameId⟩

/-- The place of a frame in the schedule. -/
structure FrameKey where
  deviceId : ℤ
  interfaceId : ℤ
  queueId : UInt8
  streamId : ℤ
  sequenceId : ℤ
  frameId : ℤ
  deriving DecidableEq

namespace Frame

/-- Where `SetScheduleResult` stores the frame. -/
def key (frame : Frame) : FrameKey :=
  ⟨frame.deviceId, frame.egressInterfaceId, frame.queueId, frame.streamId, frame.sequenceId,
    frame.frameId⟩

/-- Where the predecessor of the frame is looked up. -/
def prevKey (frame : Frame) : FrameKey :=
  ⟨frame.prevDeviceId, frame.prevInterfaceId, frame.queueId, frame.streamId, frame.sequenceId,
    frame.prevFrameId⟩

/-- The end of the transmission. -/
def stopTime (frame : Frame) : ℤ := frame.dequeueTime + frame.duration

/-- The frame is sent on; at a listener it is received instead. -/
def IsTransmission (frame : Frame) : Prop := frame.ingressInterfaceId ≠ frame.egressInterfaceId

instance (frame : Frame) : Decidable frame.IsTransmission := inferInstanceAs (Decidable (_ ≠ _))

end Frame

/-- `ActScheduleResultSequence` -/
abbrev ScheduleResultSequence := QMap ℤ Frame

/-- `ActScheduleResultStream` -/
abbrev ScheduleResultStream := QMap ℤ ScheduleResultSequence

/-- `ActScheduleResultQueue` -/
abbrev ScheduleResultQueue := QMap ℤ ScheduleResultStream

/-- `ActScheduleResultInterface` -/
abbrev ScheduleResultInterface := QMap UInt8 ScheduleResultQueue

/-- `ActScheduleResultDevice` -/
abbrev ScheduleResultDevice := QMap ℤ ScheduleResultInterface

/-- `ActScheduleResult` -/
abbrev ScheduleResult := QMap ℤ ScheduleResultDevice

namespace ScheduleResult

/-! ### Reading and changing the nested maps -/

/-- `GetScheduleResultDevice` -/
def getDevice (result : ScheduleResult) (deviceId : ℤ) : ScheduleResultDevice :=
  result.value deviceId

/-- `GetScheduleResultInterface` -/
def getInterface (result : ScheduleResult) (deviceId interfaceId : ℤ) : ScheduleResultInterface :=
  (result.getDevice deviceId).value interfaceId

/-- `GetScheduleResultQueue` -/
def getQueue (result : ScheduleResult) (deviceId interfaceId : ℤ) (queueId : UInt8) :
    ScheduleResultQueue :=
  (result.getInterface deviceId interfaceId).value queueId

/-- `GetScheduleResultStream` -/
def getStream (result : ScheduleResult) (deviceId interfaceId : ℤ) (queueId : UInt8)
    (streamId : ℤ) : ScheduleResultStream :=
  (result.getQueue deviceId interfaceId queueId).value streamId

/-- `GetScheduleResultSequence` -/
def getSequence (result : ScheduleResult) (deviceId interfaceId : ℤ) (queueId : UInt8)
    (streamId sequenceId : ℤ) : ScheduleResultSequence :=
  (result.getStream deviceId interfaceId queueId streamId).value sequenceId

/-- The frame stored at a key. -/
def lookup (result : ScheduleResult) (key : FrameKey) : Option Frame :=
  (result.getSequence key.deviceId key.interfaceId key.queueId key.streamId key.sequenceId)[
    key.frameId]?

/-- `GetScheduleResultFrame`: a default one where none is stored. -/
def getFrame (result : ScheduleResult) (key : FrameKey) : Frame := (result.lookup key).getD {}

/-- `IsScheduleResultInterfaceExist` -/
def isInterfaceExist (result : ScheduleResult) (deviceId interfaceId : ℤ) : Bool :=
  result.contains deviceId && (result.getDevice deviceId).contains interfaceId

/-- `IsScheduleResultQueueExist` -/
def isQueueExist (result : ScheduleResult) (deviceId interfaceId : ℤ) (queueId : UInt8) : Bool :=
  result.isInterfaceExist deviceId interfaceId &&
    (result.getInterface deviceId interfaceId).contains queueId

/-- `IsScheduleResultStreamExist` -/
def isStreamExist (result : ScheduleResult) (deviceId interfaceId : ℤ) (queueId : UInt8)
    (streamId : ℤ) : Bool :=
  result.isQueueExist deviceId interfaceId queueId &&
    (result.getQueue deviceId interfaceId queueId).contains streamId

/-- The map of a queue is changed in place, and made if it was missing. -/
def updateQueue (result : ScheduleResult) (deviceId interfaceId : ℤ) (queueId : UInt8)
    (f : ScheduleResultQueue → ScheduleResultQueue) : ScheduleResult :=
  result.update deviceId fun device => QMap.update device interfaceId fun interface =>
    QMap.update interface queueId f

/-- `GetScheduleResultQueue` leaves the queue behind. -/
def touchQueue (result : ScheduleResult) (deviceId interfaceId : ℤ) (queueId : UInt8) :
    ScheduleResult :=
  result.updateQueue deviceId interfaceId queueId id

/-- `GetScheduleResultStream` leaves the stream behind. -/
def touchStream (result : ScheduleResult) (deviceId interfaceId : ℤ) (queueId : UInt8)
    (streamId : ℤ) : ScheduleResult :=
  result.updateQueue deviceId interfaceId queueId (·.touch streamId)

/-- `SetScheduleResult` -/
def setScheduleResult (result : ScheduleResult) (frame : Frame) : ScheduleResult :=
  result.updateQueue frame.deviceId frame.egressInterfaceId frame.queueId fun queue =>
    QMap.update queue frame.streamId fun stream =>
      QMap.update stream frame.sequenceId (·.insert frame.frameId frame)

/-- All frames of a queue, in the order of the maps. -/
def framesOfQueue (queue : ScheduleResultQueue) : List Frame :=
  queue.vals.flatMap fun stream => (QMap.vals stream).flatMap fun sequence => QMap.vals sequence

/-- All frames of an interface, in the order of the maps. -/
def framesOfInterface (interface : ScheduleResultInterface) : List Frame :=
  interface.vals.flatMap framesOfQueue

variable {result : ScheduleResult} {deviceId interfaceId : ℤ} {queueId : UInt8}
  {f : ScheduleResultQueue → ScheduleResultQueue} {frame : Frame} {key : FrameKey}

/-! ### What is stored where -/

theorem getQueue_updateQueue (d i : ℤ) (q : UInt8) :
    (result.updateQueue deviceId interfaceId queueId f).getQueue d i q =
      if deviceId = d ∧ interfaceId = i ∧ queueId = q then f (result.getQueue d i q)
      else result.getQueue d i q := by
  unfold updateQueue getQueue getInterface getDevice
  by_cases hd : deviceId = d
  · by_cases hi : interfaceId = i
    · by_cases hq : queueId = q <;> simp [hd, hi, hq]
    · simp [hd, hi]
  · simp [hd]

theorem lookup_eq_of_getQueue (key : FrameKey) :
    result.lookup key =
      (value (value (result.getQueue key.deviceId key.interfaceId key.queueId)
        key.streamId) key.sequenceId)[key.frameId]? := rfl

@[simp] theorem lookup_touchQueue (d i : ℤ) (q : UInt8) :
    (result.touchQueue d i q).lookup key = result.lookup key := by
  rw [lookup_eq_of_getQueue, lookup_eq_of_getQueue, touchQueue, getQueue_updateQueue]
  split_ifs <;> rfl

@[simp] theorem lookup_touchStream (d i : ℤ) (q : UInt8) (s : ℤ) :
    (result.touchStream d i q s).lookup key = result.lookup key := by
  rw [lookup_eq_of_getQueue, lookup_eq_of_getQueue, touchStream, getQueue_updateQueue]
  split_ifs
  · rw [value_touch]
  · rfl

/-- **Storing a frame** changes the schedule at the frame's own key only. -/
@[simp] theorem lookup_setScheduleResult :
    (result.setScheduleResult frame).lookup key =
      if frame.key = key then some frame else result.lookup key := by
  rw [lookup_eq_of_getQueue, lookup_eq_of_getQueue, setScheduleResult, getQueue_updateQueue]
  obtain ⟨d, i, q, s, n, k⟩ := key
  simp only [Frame.key, FrameKey.mk.injEq]
  by_cases hplace : frame.deviceId = d ∧ frame.egressInterfaceId = i ∧ frame.queueId = q
  · rw [if_pos hplace]
    obtain ⟨rfl, rfl, rfl⟩ := hplace
    by_cases hs : frame.streamId = s
    · by_cases hn : frame.sequenceId = n
      · simp [hs, hn, Std.TreeMap.getElem?_insert]
      · simp [hs, hn]
    · simp [hs]
  · rw [if_neg hplace, if_neg (fun h => hplace ⟨h.1, h.2.1, h.2.2.1⟩)]

@[simp] theorem lookup_empty : lookup ∅ key = none := by
  simp [lookup, getSequence, getStream, getQueue, getInterface, getDevice]

/-- Every frame is stored at its own key. -/
def Keyed (result : ScheduleResult) : Prop :=
  ∀ key frame, result.lookup key = some frame → frame.key = key

theorem Keyed.empty : Keyed ∅ := fun _ _ h => by simp at h

/-! ### What exists -/

theorem isInterfaceExist_eq (d i : ℤ) :
    result.isInterfaceExist d i = (result.getDevice d).contains i := by
  unfold isInterfaceExist
  cases h : result.contains d with
  | true => rfl
  | false => simp [getDevice, value_of_contains_eq_false h]

theorem isQueueExist_eq (d i : ℤ) (q : UInt8) :
    result.isQueueExist d i q = (result.getInterface d i).contains q := by
  unfold isQueueExist
  rw [isInterfaceExist_eq]
  cases h : (result.getDevice d).contains i with
  | true => rfl
  | false => simp [getInterface, value_of_contains_eq_false h]

theorem isStreamExist_eq (d i : ℤ) (q : UInt8) (s : ℤ) :
    result.isStreamExist d i q s = (result.getQueue d i q).contains s := by
  unfold isStreamExist
  rw [isQueueExist_eq]
  cases h : (result.getInterface d i).contains q with
  | true => rfl
  | false => simp [getQueue, value_of_contains_eq_false h]

/-- A stream exists in a queue after a frame was stored there, or if it did before. -/
theorem isStreamExist_setScheduleResult (d i : ℤ) (q : UInt8) (s : ℤ) :
    (result.setScheduleResult frame).isStreamExist d i q s = true ↔
      result.isStreamExist d i q s = true ∨
        (frame.deviceId = d ∧ frame.egressInterfaceId = i ∧ frame.queueId = q ∧
          frame.streamId = s) := by
  rw [isStreamExist_eq, isStreamExist_eq, setScheduleResult, getQueue_updateQueue]
  by_cases hplace : frame.deviceId = d ∧ frame.egressInterfaceId = i ∧ frame.queueId = q
  · rw [if_pos hplace, contains_update]
    obtain ⟨rfl, rfl, rfl⟩ := hplace
    simp [or_comm]
  · rw [if_neg hplace]
    tauto

/-- What is stored is stored in a stream, a queue and an interface that exist. -/
theorem getElem?_of_lookup (h : result.lookup key = some frame) :
    (result.getDevice key.deviceId)[key.interfaceId]? =
        some (result.getInterface key.deviceId key.interfaceId) ∧
      (result.getInterface key.deviceId key.interfaceId)[key.queueId]? =
        some (result.getQueue key.deviceId key.interfaceId key.queueId) ∧
      (result.getQueue key.deviceId key.interfaceId key.queueId)[key.streamId]? =
        some (result.getStream key.deviceId key.interfaceId key.queueId key.streamId) ∧
      (result.getStream key.deviceId key.interfaceId key.queueId key.streamId)[key.sequenceId]? =
        some (result.getSequence key.deviceId key.interfaceId key.queueId key.streamId
          key.sequenceId) := by
  have hseq := getElem?_of_value_getElem? h
  have hstream := getElem?_of_value_getElem? hseq
  have hqueue := getElem?_of_value_getElem? hstream
  exact ⟨getElem?_of_value_getElem? hqueue, hqueue, hstream, hseq⟩

theorem isInterfaceExist_of_lookup (h : result.lookup key = some frame) :
    result.isInterfaceExist key.deviceId key.interfaceId = true := by
  rw [isInterfaceExist_eq, Std.TreeMap.contains_eq_isSome_getElem?, (getElem?_of_lookup h).1]
  rfl

theorem isQueueExist_of_lookup (h : result.lookup key = some frame) :
    result.isQueueExist key.deviceId key.interfaceId key.queueId = true := by
  rw [isQueueExist_eq, Std.TreeMap.contains_eq_isSome_getElem?, (getElem?_of_lookup h).2.1]
  rfl

/-! ### The frames of a queue and of an interface -/

/-- **The frames of a queue** are what `lookup` finds there. -/
theorem mem_framesOfQueue {d i : ℤ} {q : UInt8} : frame ∈ framesOfQueue (result.getQueue d i q) ↔
      ∃ s n k, result.lookup ⟨d, i, q, s, n, k⟩ = some frame := by
  simp only [framesOfQueue, List.mem_flatMap, mem_vals]
  constructor
  · rintro ⟨stream, ⟨s, hs⟩, sequence, ⟨n, hn⟩, k, hk⟩
    refine ⟨s, n, k, ?_⟩
    rw [lookup_eq_of_getQueue, value_of_getElem? hs, value_of_getElem? hn, hk]
  · rintro ⟨s, n, k, h⟩
    obtain ⟨-, -, hstream, hseq⟩ := getElem?_of_lookup h
    exact ⟨_, ⟨s, hstream⟩, _, ⟨n, hseq⟩, k, h⟩

/-- **The frames of an interface** are what `lookup` finds there. -/
theorem mem_framesOfInterface {d i : ℤ} : frame ∈ framesOfInterface (result.getInterface d i) ↔
      ∃ q s n k, result.lookup ⟨d, i, q, s, n, k⟩ = some frame := by
  simp only [framesOfInterface, List.mem_flatMap, mem_vals]
  constructor
  · rintro ⟨queue, ⟨q, hq⟩, hframe⟩
    obtain rfl : result.getQueue d i q = queue := value_of_getElem? hq
    exact ⟨q, mem_framesOfQueue.1 hframe⟩
  · rintro ⟨q, s, n, k, h⟩
    exact ⟨_, ⟨q, (getElem?_of_lookup h).2.1⟩, mem_framesOfQueue.2 ⟨s, n, k, h⟩⟩

theorem Keyed.pairwise_framesOfQueue (h : result.Keyed) (d i : ℤ) (q : UInt8) :
    (framesOfQueue (result.getQueue d i q)).Pairwise fun f g => f.key ≠ g.key := by
  have hkey : ∀ {s n k : ℤ} {f : Frame}, (value (value (result.getQueue d i q) s) n)[k]? =
    some f →
      f.key = ⟨d, i, q, s, n, k⟩ := fun {s n k f} hf => h ⟨d, i, q, s, n, k⟩ f hf
  unfold framesOfQueue
  simp only [List.pairwise_flatMap, mem_vals]
  refine ⟨?_, pairwise_vals ?_⟩
  · rintro stream ⟨s, hs⟩
    obtain rfl := value_of_getElem? hs
    refine ⟨?_, pairwise_vals ?_⟩
    · rintro sequence ⟨n, hn⟩
      obtain rfl := value_of_getElem? hn
      refine pairwise_vals fun k k' f g hne hf hg e => ?_
      rw [hkey hf, hkey hg, FrameKey.mk.injEq] at e
      exact hne e.2.2.2.2.2
    · rintro n n' _ _ hne hn hn'
      obtain rfl := value_of_getElem? hn
      obtain rfl := value_of_getElem? hn'
      rintro f ⟨k, hf⟩ g ⟨k', hg⟩ e
      rw [hkey hf, hkey hg, FrameKey.mk.injEq] at e
      exact hne e.2.2.2.2.1
  · rintro s s' _ _ hne hs hs'
    obtain rfl := value_of_getElem? hs
    obtain rfl := value_of_getElem? hs'
    simp only [List.mem_flatMap, mem_vals]
    rintro f ⟨_, ⟨n, hn⟩, k, hf⟩ g ⟨_, ⟨n', hn'⟩, k', hg⟩ e
    obtain rfl := value_of_getElem? hn
    obtain rfl := value_of_getElem? hn'
    rw [hkey hf, hkey hg, FrameKey.mk.injEq] at e
    exact hne e.2.2.2.1

/-- The frames of an interface have different keys. -/
theorem Keyed.pairwise_framesOfInterface (h : result.Keyed) (d i : ℤ) :
    (framesOfInterface (result.getInterface d i)).Pairwise fun f g => f.key ≠ g.key := by
  unfold framesOfInterface
  rw [List.pairwise_flatMap]
  simp only [mem_vals]
  refine ⟨?_, pairwise_vals ?_⟩
  · rintro queue ⟨q, hq⟩
    obtain rfl : result.getQueue d i q = queue := value_of_getElem? hq
    exact h.pairwise_framesOfQueue d i q
  · rintro q q' queue queue' hne hq hq' f hf g hg e
    obtain rfl : result.getQueue d i q = queue := value_of_getElem? hq
    obtain rfl : result.getQueue d i q' = queue' := value_of_getElem? hq'
    obtain ⟨s, n, k, hf⟩ := mem_framesOfQueue.1 hf
    obtain ⟨s', n', k', hg⟩ := mem_framesOfQueue.1 hg
    rw [h _ _ hf, h _ _ hg, FrameKey.mk.injEq] at e
    exact hne e.2.2.1

end ScheduleResult
end Algorithm
end Sebastian

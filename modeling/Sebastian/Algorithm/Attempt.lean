/-
# An attempt to schedule a stream

`ComputeScheduleStream` goes through the sequences of a stream over the schedule
of the streams before it; a round of its loop accepts the search of a sequence or
starts over at a later transmit offset (`StreamRound`).  The frames of the stream
so far belong to earlier sequences and go back to the current transmit offset
(`StreamInv`).

An attempt that has been through all sequences stores frames of its searches
(`Completes`).  Between two streams every stored frame has its predecessor,
unless it is on its talker's device (`Traced`), and a stored attempt keeps that
(`Completes.scheduleInv`).
-/

import Sebastian.Algorithm.Commit
import Sebastian.Algorithm.Schedule
import Sebastian.Algorithm.Search

namespace Sebastian
namespace Algorithm

open Feasibility Option

variable {lib : Library}

/-! ### The loop over the sequences -/

/-- The loop of `ComputeScheduleStream` starts the search of a sequence. -/
structure StreamState.Searching (t : StreamState) : Prop where
  interval : t.stream.interval ≠ 0
  sequence : t.stream.sequenceId < t.stream.cycleTime.tdiv t.stream.interval
  transmitOffset : checkTransmitOffset (t.config.getScheduleConfigStream t.stream.streamId)
    t.stream.transmitOffset t.stream.interval t.stream.sequenceId = .success

instance (t : StreamState) : Decidable t.Searching :=
  decidable_of_iff (t.stream.interval ≠ 0 ∧
      t.stream.sequenceId < t.stream.cycleTime.tdiv t.stream.interval ∧
      checkTransmitOffset (t.config.getScheduleConfigStream t.stream.streamId)
        t.stream.transmitOffset t.stream.interval t.stream.sequenceId = .success)
    ⟨fun h => ⟨h.1, h.2.1, h.2.2⟩, fun h => ⟨h.1, h.2, h.3⟩⟩

/-- That search comes to the state `s`. -/
structure SearchesFrom (t : StreamState) (s : RoutingState lib) : Prop where
  searching : t.Searching
  visits : ∃ s₀, routingInit lib t.config t.stream t.result = some s₀ ∧
    Loop.Visits (routingBody lib t.stream) s₀ s

/-- A search is accepted in the state `s`: no frame waits, and either one has
arrived at a listener or none left an error. -/
structure Accepts (t : StreamState) (s : RoutingState lib) : Prop extends SearchesFrom t s where
  empty : s.waiting = 0
  status : s.isListenerArrived = false → s.errorMsg = .success

/-- What a round of the loop does: the next sequence, or all of them again, not
earlier than before. -/
inductive StreamRound (lib : Library) (base : ScheduleResult) (t t' : StreamState) : Prop
  | accept (s : RoutingState lib) : Accepts t s →
      t' = { stream := { t.stream with sequenceId := t.stream.sequenceId + 1 }
             config := s.config, result := s.result, status := .success } →
      StreamRound lib base t t'
  | restart (transmitOffset : ℤ) : t.stream.transmitOffset ≤ transmitOffset →
      t'.stream = { t.stream with transmitOffset := transmitOffset, sequenceId := 0 } →
      t.config.Extends t'.config → t'.result = base → t'.status ≠ .success →
      StreamRound lib base t t'

section
variable {fuel : ℕ} {base : ScheduleResult} {t t' : StreamState}

theorem exists_of_computeScheduleStreamRouting {config : ScheduleConfig} {stream : ScheduleStream}
    {result : ScheduleResult} {r : RoutingExit}
    (h : computeScheduleStreamRouting lib fuel config stream result = some r) :
    ∃ s₀ s : RoutingState lib, routingInit lib config stream result = some s₀ ∧
      Loop.Visits (routingBody lib stream) s₀ s ∧ Exit stream s r := by
  simp only [computeScheduleStreamRouting] at h
  obtain ⟨s₀, hinit, h⟩ := bind_eq_some_iff.1 h
  obtain ⟨s, hv, hdone⟩ := Loop.exists_of_run h
  exact ⟨s₀, s, hinit, hv, exit_of_done hdone⟩

theorem extends_of_routingInit {config : ScheduleConfig} {stream : ScheduleStream}
    {result : ScheduleResult} {s₀ : RoutingState lib}
    (h : routingInit lib config stream result = some s₀) : s₀.config = config := by
  simp only [routingInit] at h
  obtain ⟨duration, -, h⟩ := bind_eq_some_iff.1 h
  rw [← some.inj h]

theorem SearchesFrom.extends_config {s : RoutingState lib} (h : SearchesFrom t s) :
    t.config.Extends s.config := by
  obtain ⟨s₀, hinit, hv⟩ := h.visits
  rw [← extends_of_routingInit hinit]
  exact extends_of_visits hv

theorem extends_of_exit {stream : ScheduleStream} {s : RoutingState lib} {r : RoutingExit}
    (h : Exit stream s r) : s.config.Extends r.2.2.1 := by
  cases h with
  | empty => exact .refl _
  | restart => exact ScheduleConfig.extends_touchInterface _ _ _

/-- **A round of the loop** goes to the next sequence or starts over. -/
theorem streamRound_of_next (h : streamBody lib fuel base t = .next t') :
    StreamRound lib base t t' := by
  unfold streamBody at h
  split at h
  · cases h
  · next hintv =>
    split at h
    · next hseq =>
      dsimp only at h
      split at h
      · cases h
      · next hcheck =>
        have hsearching : t.Searching := ⟨hintv, hseq,
          Status.isSuccess_iff.1 (by simpa using hcheck)⟩
        split at h
        · cases h
        · next status stream config result hrouting =>
          obtain ⟨s₀, s, hinit, hv, hexit⟩ := exists_of_computeScheduleStreamRouting hrouting
          have hsearches : SearchesFrom t s := ⟨hsearching, s₀, hinit, hv⟩
          have hconfig : t.config.Extends config :=
            hsearches.extends_config.trans (extends_of_exit hexit)
          split_ifs at h with hfail hst
          · obtain rfl := Iter.next.inj h
            have hne : status ≠ .success := fun e => by simp [e] at hst
            cases hexit with
            | empty => exact .restart t.stream.transmitOffset le_rfl rfl hconfig rfl hne
            | restart frame _ offset message hplaces hoffset heq =>
              refine .restart (t.stream.transmitOffset + offset) ?_ rfl hconfig rfl hne
              have hnn := heq ▸ considerQueueIsolation_nonneg lib result
                (considerLinkIsolation lib result t.stream.cycleTime s.config.reserveTime frame)
              omega
          · obtain rfl := Iter.next.inj h
            obtain rfl : status = .success := Status.isSuccess_iff.1 (by simpa using hst)
            generalize hr : ((Status.success, stream, config, result) : RoutingExit) = r at hexit
            cases hexit with
            | empty hempty =>
              rw [Prod.mk.injEq, Prod.mk.injEq, Prod.mk.injEq] at hr
              obtain ⟨herror, rfl, rfl, rfl⟩ := hr
              refine .accept s ⟨hsearches, hempty, fun harrived => ?_⟩ rfl
              rw [harrived] at herror
              exact herror.symm
            | restart => cases hr
    · cases h

/-- A loop that is left with success has been through all sequences. -/
theorem eq_of_done {t' : StreamState} (h : streamBody lib fuel base t = .done t') :
    t.config.Extends t'.config ∧ (t'.status = .success →
      t' = t ∧ t.stream.interval ≠ 0 ∧
        t.stream.cycleTime.tdiv t.stream.interval ≤ t.stream.sequenceId) := by
  unfold streamBody at h
  split at h
  · cases h
  · next hintv =>
    split at h
    · dsimp only at h
      split at h
      · next hcheck =>
        obtain rfl := Iter.done.inj h
        exact ⟨.refl _, fun e => absurd (Status.isSuccess_iff.2 e) (by simpa using hcheck)⟩
      · split at h
        · cases h
        · next status stream config result hrouting =>
          obtain ⟨s₀, s, hinit, hv, hexit⟩ := exists_of_computeScheduleStreamRouting hrouting
          split_ifs at h with hfail
          obtain rfl := Iter.done.inj h
          refine ⟨?_, fun e => by simp [show status = Status.success from e,
            Status.isFeasibilityCheckFailed] at hfail⟩
          rw [← extends_of_routingInit hinit]
          exact (extends_of_visits hv).trans (extends_of_exit hexit)
    · next hseq =>
      obtain rfl := Iter.done.inj h
      exact ⟨.refl _, fun _ => ⟨rfl, hintv, not_lt.1 hseq⟩⟩

end

/-! ### What holds throughout an attempt -/

/-- An attempt to schedule a stream: with a priority code point, from a
configuration, over the schedule of the streams before it. -/
structure Attempt where
  streamId : ℤ
  pcp : UInt8
  config : ScheduleConfig
  base : ScheduleResult

/-- The loop over the sequences before its first round. -/
def Attempt.init (a : Attempt) : StreamState :=
  { stream := attemptOf a.config a.streamId a.pcp
    config := a.config
    result := a.base
    status := .success }

/-- No frame of the stream is stored. -/
def ScheduleResult.Free (result : ScheduleResult) (streamId : ℤ) : Prop :=
  ∀ key, key.streamId = streamId → result.lookup key = none

/-- Where an attempt starts, in a run that began with `config`. -/
structure AttemptInv (config : ScheduleConfig) (a : Attempt) : Prop where
  extends_config : config.Extends a.config
  keyed : a.base.Keyed
  free : a.base.Free a.streamId

/-- **The invariant of an attempt**: the frames of the stream belong to sequences
before the current one, go back to the current transmit offset, and have ids of
their own in their sequence. -/
structure StreamInv (config : ScheduleConfig) (a : Attempt) (t : StreamState) : Prop where
  extends_config : config.Extends t.config
  keyed : t.result.Keyed
  streamId : t.stream.streamId = a.streamId
  queueId : t.stream.queueId = a.pcp
  interval : t.stream.interval = (config.getScheduleConfigStream a.streamId).interval
  cycleTime : t.stream.cycleTime = config.cycleTime
  transmitOffset :
    (config.getScheduleConfigStream a.streamId).earliestTransmitOffset ≤ t.stream.transmitOffset
  sequenceId_nonneg : 0 ≤ t.stream.sequenceId
  others : ∀ key, key.streamId ≠ a.streamId → t.result.lookup key = a.base.lookup key
  own : ∀ key f, key.streamId = a.streamId → t.result.lookup key = some f →
    key.queueId = a.pcp ∧ 0 ≤ key.sequenceId ∧ key.sequenceId < t.stream.sequenceId ∧
      0 ≤ key.frameId ∧ Linked config t.stream t.result f
  unique : ∀ key key' f f', key.streamId = a.streamId → key'.streamId = a.streamId →
    key.sequenceId = key'.sequenceId → t.result.lookup key = some f →
    t.result.lookup key' = some f' → key.frameId = key'.frameId → key = key'

/-- A link looks at the stream's id and transmit offset only. -/
theorem Linked.of_stream {config : ScheduleConfig} {stream stream' : ScheduleStream}
    {result : ScheduleResult} {frame : Frame} (h : Linked config stream result frame)
    (hid : stream'.streamId = stream.streamId)
    (hoffset : stream'.transmitOffset = stream.transmitOffset) :
    Linked config stream' result frame := by
  cases h with
  | talker hpaths hprev hid' hdev htime =>
    exact .talker hpaths hprev hid' (by rw [hid, hdev]) (by rw [hoffset, htime])
  | next prev totalDelay hprev hdelay htime hpaths hid' =>
    exact .next prev totalDelay hprev (by rw [hid]; exact hdelay) htime hpaths hid'

section
variable {config : ScheduleConfig} {a : Attempt} {t t' : StreamState} {s : RoutingState lib}

theorem AttemptInv.init (h : AttemptInv config a) : StreamInv config a a.init where
  extends_config := h.extends_config
  keyed := h.keyed
  streamId := rfl
  queueId := rfl
  interval := by
    show (a.config.getScheduleConfigStream a.streamId).interval = _
    rw [h.extends_config.stream]
  cycleTime := h.extends_config.cycleTime
  transmitOffset := by
    show _ ≤ (a.config.getScheduleConfigStream a.streamId).earliestTransmitOffset
    rw [h.extends_config.stream]
  sequenceId_nonneg := le_rfl
  others _ _ := rfl
  own key f hs hf := absurd ((h.free key hs).symm.trans hf) (by simp)
  unique key _ f _ hs _ _ hf := absurd ((h.free key hs).symm.trans hf) (by simp)

/-- The search of a sequence starts without frames of the sequence, so that its
invariant holds. -/
theorem StreamInv.searchInv (h : StreamInv config a t) (hs : SearchesFrom t s) :
    SearchInv config t.stream t.result s := by
  obtain ⟨s₀, hinit, hv⟩ := hs.visits
  refine (searchInv_init h.extends_config h.keyed (fun key hof => ?_) hinit).visits hv
  cases hf : t.result.lookup key with
  | none => rfl
  | some f =>
    have hlt := (h.own key f (hof.1.trans h.streamId) hf).2.2.1
    rw [hof.2] at hlt
    exact absurd hlt (lt_irrefl _)

/-- **An accepted search** leaves its frames to the next sequence. -/
theorem StreamInv.accept (h : StreamInv config a t) (hs : SearchesFrom t s) :
    StreamInv config a
      { stream := { t.stream with sequenceId := t.stream.sequenceId + 1 }
        config := s.config, result := s.result, status := .success } := by
  have hsearch := h.searchInv hs
  have hof : ∀ key : FrameKey, key.streamId = a.streamId → key.sequenceId = t.stream.sequenceId →
      FrameKey.IsOf key t.stream := fun key hk hn => ⟨hk.trans h.streamId.symm, hn⟩
  refine ⟨hsearch.extends_config, hsearch.keyed, h.streamId, h.queueId, h.interval, h.cycleTime,
    h.transmitOffset, by have := h.sequenceId_nonneg; dsimp only; omega, fun key hk => ?_,
    fun key f hk hf => ?_, fun key key' f f' hk hk' hn hf hf' hid => ?_⟩
  · rw [hsearch.lookup_old key fun hof => hk (hof.1.trans h.streamId), h.others key hk]
  · dsimp only at hf ⊢
    by_cases hn : key.sequenceId = t.stream.sequenceId
    · obtain ⟨hq, hnn, -, hlinked⟩ := hsearch.stored key f (hof key hk hn) hf
      have := h.sequenceId_nonneg
      exact ⟨hq.trans h.queueId, by omega, by omega, hnn, hlinked.of_stream rfl rfl⟩
    · have hold := hsearch.lookup_old key fun hof => hn hof.2
      have hkey := hsearch.keyed key f hf
      rw [hold] at hf
      obtain ⟨hq, hn₀, hlt, hnn, hlinked⟩ := h.own key f hk hf
      refine ⟨hq, hn₀, by omega, hnn, ?_⟩
      refine Linked.of_stream (hlinked.mono fun prev hprev => ?_) rfl rfl
      rw [hsearch.lookup_old f.prevKey fun hof => hn (hkey ▸ hof.2), hprev]
  · dsimp only at hf hf'
    by_cases hn' : key.sequenceId = t.stream.sequenceId
    · exact hsearch.unique key key' f f' (hof key hk hn') (hof key' hk' (hn ▸ hn')) hf hf' hid
    · rw [hsearch.lookup_old key fun hof => hn' hof.2] at hf
      rw [hsearch.lookup_old key' fun hof => hn' (hn.trans hof.2)] at hf'
      exact h.unique key key' f f' hk hk' hn hf hf' hid

/-- **A round of the loop over the sequences** keeps the invariant. -/
theorem StreamInv.round (h : StreamInv config a t) (ha : AttemptInv config a)
    (hround : StreamRound lib a.base t t') : StreamInv config a t' := by
  cases hround with
  | accept s hs ht' => exact ht' ▸ h.accept hs.toSearchesFrom
  | restart transmitOffset hle hstrm hconfig hres _ =>
    refine ⟨h.extends_config.trans hconfig, hres ▸ ha.keyed, ?_, ?_, ?_, ?_, ?_, ?_,
      fun key _ => by rw [hres], fun key f hk hf => ?_, fun key _ f _ hk _ _ hf => ?_⟩
    · rw [hstrm, ← h.streamId]
    · rw [hstrm, ← h.queueId]
    · rw [hstrm, ← h.interval]
    · rw [hstrm, ← h.cycleTime]
    · rw [hstrm]
      exact h.transmitOffset.trans hle
    · rw [hstrm]
    · rw [hres, ha.free key hk] at hf
      cases hf
    · rw [hres, ha.free key hk] at hf
      cases hf

/-- **The invariant holds at every state of an attempt.** -/
theorem StreamInv.visits {fuel : ℕ} (ha : AttemptInv config a)
    (hv : Loop.Visits (streamBody lib fuel a.base) a.init t) : StreamInv config a t :=
  hv.rule ha.init fun _ _ _ ht hb => ht.round ha (streamRound_of_next hb)

/-- The frames of an attempt can be followed back to the talker. -/
theorem StreamInv.traceable (h : StreamInv config a t) : Traceable t.result t.stream.streamId
      (t.config.getScheduleConfigStream t.stream.streamId).talker.deviceId where
  keyed := h.keyed
  prev f hs hf hd := by
    obtain ⟨-, -, -, -, hlinked⟩ := h.own f.key f (hs.trans h.streamId) hf
    cases hlinked with
    | talker _ _ _ hdev => exact absurd (hdev.trans (by rw [h.extends_config.talker])) hd
    | next prev _ hprev => exact ⟨prev, hprev⟩
  unique f g hs hs' hn hf hg hid := by
    have hkey := h.unique f.key g.key f g (hs.trans h.streamId) (hs'.trans h.streamId) hn hf hg hid
    rw [hkey, hg] at hf
    exact (some.inj hf).symm

end

/-! ### The end of an attempt -/

/-- An attempt has been through all sequences of its stream and is stored. -/
structure Completes (lib : Library) (fuel : ℕ) (config : ScheduleConfig) (a : Attempt)
    (t : StreamState) (result : ScheduleResult) (frames : Frame → Prop) : Prop where
  visits : Loop.Visits (streamBody lib fuel a.base) a.init t
  inv : StreamInv config a t
  status : t.status = .success
  interval : t.stream.interval ≠ 0
  sequences : t.stream.cycleTime.tdiv t.stream.interval ≤ t.stream.sequenceId
  committed : Committed t.stream (config.getScheduleConfigStream a.streamId)
    (config.getScheduleConfigStream a.streamId).listeners t.result a.base result frames

section
variable {config config' : ScheduleConfig} {fuel : ℕ} {a : Attempt} {status : Status}
  {result : ScheduleResult}

/-- `Committed` reads the talker of the stream only. -/
theorem Committed.of_extends {config config' : ScheduleConfig} {stream : ScheduleStream}
    {listeners : List ScheduleConfigInterface} {working result result' : ScheduleResult}
    {frames : Frame → Prop} (hconfig : config.Extends config') (id : ℤ)
    (h : Committed stream (config'.getScheduleConfigStream id) listeners working result result'
      frames) :
    Committed stream (config.getScheduleConfigStream id) listeners working result result' frames := by
  refine ⟨⟨h.stored, ?_⟩, h.commits, h.received, h.reception, h.exist⟩
  rw [← hconfig.talker]
  exact h.prev

/-- **How an attempt ends.** -/
theorem of_computeScheduleStream (ha : AttemptInv config a)
    (h : computeScheduleStream lib fuel (attemptOf a.config a.streamId a.pcp) a.config a.base =
      some (status, config', result)) : config.Extends config' ∧
      (status = .success → ∃ t frames, Completes lib fuel config a t result frames) := by
  simp only [computeScheduleStream] at h
  obtain ⟨t', hrun, h⟩ := bind_eq_some_iff.1 h
  obtain ⟨t, hv, hdone⟩ := Loop.exists_of_run hrun
  have hinv : StreamInv config a t := .visits ha hv
  obtain ⟨hextends, hsucc⟩ := eq_of_done hdone
  have hconfig := hinv.extends_config.trans hextends
  split_ifs at h with hst
  · have h := some.inj h
    rw [Prod.mk.injEq, Prod.mk.injEq] at h
    obtain ⟨rfl, rfl, -⟩ := h
    exact ⟨hconfig, fun e => absurd (Status.isSuccess_iff.2 e) (by simpa using hst)⟩
  · have hst' : t'.status = .success := Status.isSuccess_iff.1 (by simpa using hst)
    obtain ⟨rfl, hintv, hseqs⟩ := hsucc hst'
    obtain ⟨hcommit, hcommitted⟩ := committed_of_generateScheduleStreamRouting hinv.traceable h
    refine ⟨hconfig.trans hcommit, fun e => ?_⟩
    obtain ⟨frames, hcommitted⟩ := hcommitted e
    rw [hinv.streamId, hconfig.listeners] at hcommitted
    exact ⟨t', frames, hv, hinv, hst', hintv, hseqs, hcommitted.of_extends hconfig⟩

end

/-! ### Schedules between two streams -/

/-- A frame of a schedule between two streams: off its talker's device it has its
predecessor, whose times give its own. -/
structure Traced (config : ScheduleConfig) (result : ScheduleResult) (frame : Frame) : Prop where
  stored : frame.deviceId ≠ (config.getScheduleConfigStream frame.streamId).talker.deviceId →
    ∃ prev, result.lookup frame.prevKey = some prev
  linked : ∀ prev, result.lookup frame.prevKey = some prev →
    ∃ totalDelay, config.computeTotalDelay prev.deviceId prev.egressInterfaceId frame.streamId =
        some totalDelay ∧
      frame.enqueueTime = prev.dequeueTime + totalDelay ∧
      frame.paths = prev.paths ++ [prev.deviceId]

/-- **What holds of the schedule between two streams.** -/
structure ScheduleInv (config : ScheduleConfig) (result : ScheduleResult) : Prop where
  keyed : result.Keyed
  frameId_nonneg : ∀ key f, result.lookup key = some f → 0 ≤ key.frameId
  traced : ∀ key f, result.lookup key = some f → Traced config result f
  /-- What exists holds a frame. -/
  tight : ∀ d i q s, result.isStreamExist d i q s = true →
    ∃ n k f, result.lookup ⟨d, i, q, s, n, k⟩ = some f

theorem scheduleInv_empty (config : ScheduleConfig) : ScheduleInv config ∅ where
  keyed := .empty
  frameId_nonneg key f h := by simp at h
  traced key f h := by simp at h
  tight d i q s h := by simp [ScheduleResult.isStreamExist, ScheduleResult.isQueueExist,
    ScheduleResult.isInterfaceExist] at h

namespace Completes

variable {config : ScheduleConfig} {fuel : ℕ} {a : Attempt} {t : StreamState}
  {result : ScheduleResult} {frames : Frame → Prop}

variable (h : Completes lib fuel config a t result frames)
include h

theorem streamId {f : Frame} (hf : frames f) : f.streamId = a.streamId :=
  (h.committed.stored f hf).1.trans h.inv.streamId

theorem lookup_other {key : FrameKey}
    (hkey : key.streamId ≠ a.streamId) : result.lookup key = a.base.lookup key := by
  cases hl : result.lookup key with
  | some f =>
    rcases h.committed.commits.origin key f hl with hbase | ⟨g, hg, rfl, -⟩
    · exact hbase.symm
    · exact absurd (h.streamId hg) hkey
  | none =>
    cases hbase : a.base.lookup key with
    | none => rfl
    | some f =>
      have hsome := h.committed.commits.kept key (by rw [hbase]; rfl)
      rw [hl] at hsome
      cases hsome

/-- The frames of the stream are those of the search that were stored. -/
theorem exists_of_lookup
    (ha : AttemptInv config a) {key : FrameKey} {f : Frame} (hkey : key.streamId = a.streamId)
    (hf : result.lookup key = some f) :
    ∃ g, frames g ∧ g.key = key ∧ f.Marks g ∧ t.result.lookup key = some g := by
  rcases h.committed.commits.origin key f hf with hbase | ⟨g, hg, hk, hm⟩
  · rw [ha.free key hkey] at hbase
    cases hbase
  · exact ⟨g, hg, hk, hm, hk ▸ (h.committed.stored g hg).2⟩

theorem lookup_of_frames (ha : AttemptInv config a) {g : Frame} (hg : frames g) :
    ∃ f, result.lookup g.key = some f ∧ f.Marks g := by
  obtain ⟨f, hf⟩ := isSome_iff_exists.1 (h.committed.commits.stored g hg)
  obtain ⟨g', -, -, hm, hget⟩ := h.exists_of_lookup ha (h.streamId hg) hf
  rw [(h.committed.stored g hg).2] at hget
  cases hget
  exact ⟨f, hf, hm⟩

theorem sub (ha : AttemptInv config a)
    {key : FrameKey} {f : Frame} (hf : result.lookup key = some f) :
    ∃ g, t.result.lookup key = some g ∧ f.Marks g := by
  by_cases hkey : key.streamId = a.streamId
  · obtain ⟨g, -, -, hm, hg⟩ := h.exists_of_lookup ha hkey hf
    exact ⟨g, hg, hm⟩
  · rw [h.lookup_other hkey] at hf
    exact ⟨f, (h.inv.others key hkey).trans hf, .refl f⟩

/-- **An attempt that is stored** keeps what holds between two streams. -/
theorem scheduleInv (ha : AttemptInv config a)
    (hbase : ScheduleInv config a.base) : ScheduleInv config result := by
  have hkeyed : result.Keyed := fun key f hf => by
    obtain ⟨g, hg, hm⟩ := h.sub ha hf
    rw [hm.key]
    exact h.inv.keyed key g hg
  refine ⟨hkeyed, fun key f hf => ?_, fun key f hf => ?_, fun d i q s hs => ?_⟩
  · by_cases hkey : key.streamId = a.streamId
    · obtain ⟨g, -, -, -, hg⟩ := h.exists_of_lookup ha hkey hf
      exact (h.inv.own key g hkey hg).2.2.2.1
    · rw [h.lookup_other hkey] at hf
      exact hbase.frameId_nonneg key f hf
  · by_cases hkey : key.streamId = a.streamId
    · obtain ⟨g, hg, rfl, hm, hget⟩ := h.exists_of_lookup ha hkey hf
      have hlinked := (h.inv.own g.key g hkey hget).2.2.2.2
      have hs : f.streamId = g.streamId := congrArg FrameKey.streamId hm.key
      refine ⟨fun hd => ?_, fun prev hprev => ?_⟩
      · rcases h.committed.prev g hg with hdev | ⟨p, hp, hpk⟩
        · rw [hs, show g.streamId = a.streamId from hkey] at hd
          exact absurd (show f.deviceId = _ by rw [hm]; exact hdev) hd
        · obtain ⟨f', hf', -⟩ := h.lookup_of_frames ha hp
          exact ⟨f', by rw [hm.prevKey, ← hpk]; exact hf'⟩
      · rw [hm.prevKey] at hprev
        have hprevId : g.prevKey.streamId = a.streamId := hkey
        obtain ⟨p, hp, hpk, hpm, hplookup⟩ := h.exists_of_lookup ha hprevId hprev
        cases hlinked with
        | talker _ hid =>
          have hnn := (h.inv.own _ p hprevId hplookup).2.2.2.1
          rw [show g.prevKey.frameId = g.prevFrameId from rfl, hid] at hnn
          exact absurd hnn (by decide)
        | next p' totalDelay hp' hdelay htime hpaths =>
          rw [hplookup] at hp'
          cases hp'
          refine ⟨totalDelay, ?_, ?_, ?_⟩
          · rw [hs, hpm, show g.streamId = a.streamId from hkey, ← h.inv.streamId]
            exact hdelay
          · rw [hm, hpm]
            exact htime
          · rw [hm, hpm]
            exact hpaths
    · rw [h.lookup_other hkey] at hf
      have hs : f.streamId = key.streamId := congrArg FrameKey.streamId (hbase.keyed key f hf)
      have hprevKey : result.lookup f.prevKey = a.base.lookup f.prevKey :=
        h.lookup_other (show f.streamId ≠ a.streamId from hs ▸ hkey)
      obtain ⟨hstored, hlinked⟩ := hbase.traced key f hf
      exact ⟨hprevKey ▸ hstored, hprevKey ▸ hlinked⟩
  · rcases (h.committed.commits.streams d i q s).1 hs with hs | ⟨g, hg, rfl, rfl, rfl, rfl⟩
    · obtain ⟨n, k, f, hf⟩ := hbase.tight d i q s hs
      obtain ⟨f', hf'⟩ := isSome_iff_exists.1
        (h.committed.commits.kept ⟨d, i, q, s, n, k⟩ (by rw [hf]; rfl))
      exact ⟨n, k, f', hf'⟩
    · obtain ⟨f, hf, -⟩ := h.lookup_of_frames ha hg
      exact ⟨_, _, f, hf⟩

omit h

end Completes

end Algorithm
end Sebastian

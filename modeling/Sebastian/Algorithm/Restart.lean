/-
# Starting over

The checks of a search fail in one way only (`FromCheck`), so that a search which comes to
its end is accepted or ends the attempt.  `ComputeScheduleStream` starts over exactly when a
frame would meet another one in its queue: the search is left there, and the stream goes back
to its first sequence at a transmit offset that is later by what `ConsiderQueueIsolation` asks
for (`Restarts`, `streamStep_of_next`).
-/

import Sebastian.Algorithm.Attempt

namespace Sebastian
namespace Algorithm

open Feasibility

variable {frame : Frame} {result' : ScheduleResult} {config : ScheduleConfig}

variable {lib : Library} {fuel : ℕ} {base : ScheduleResult} {t t' : StreamState}

/-! ### What the checks return -/

/-- The status is one that the checks of a search return. -/
def FromCheck (status : Status) : Prop :=
  status = .success ∨ status.isFeasibilityCheckFailed = true

theorem checkTransmitOffset_eq_success {stream : ScheduleConfigStream}
    {transmitOffset interval sequenceId : ℤ} :
    checkTransmitOffset stream transmitOffset interval sequenceId = .success ↔
      stream.earliestTransmitOffset + stream.jitter ≤ transmitOffset + interval * sequenceId ∧
        transmitOffset + interval * sequenceId ≤ stream.latestTransmitOffset - stream.jitter := by
  unfold checkTransmitOffset
  dsimp only
  constructor
  · intro h
    split_ifs at h with hout
    simpa using hout
  · rintro ⟨hmin, hmax⟩
    rw [if_neg]
    simpa using ⟨hmin, hmax⟩

theorem fromCheck_checkReceiveOffset (frame : Frame) (config : ScheduleConfig) :
    FromCheck (checkReceiveOffset frame config) := by
  simp only [checkReceiveOffset]
  split_ifs
  · exact .inr rfl
  · exact .inr rfl
  · exact .inl rfl

theorem fromCheck_of_checkGateControlListLength {result : ScheduleResult} {status : Status}
    (h : checkGateControlListLength frame result config = (status, result')) :
    FromCheck status := by
  simp only [checkGateControlListLength] at h
  split_ifs at h <;> obtain ⟨rfl, -⟩ := Prod.mk.inj h
  · exact .inl rfl
  · exact .inr rfl
  · exact .inl rfl

theorem fromCheck_of_checkQueueSize {result : ScheduleResult} {status : Status}
    (h : checkQueueSize frame result config = some (status, result')) : FromCheck status := by
  simp only [checkQueueSize] at h
  split_ifs at h with htsn
  · obtain ⟨rfl, -⟩ := Prod.mk.inj (Option.some.inj h)
    exact .inl rfl
  · obtain ⟨size, -, h⟩ := Option.bind_eq_some_iff.1 h
    split_ifs at h <;> obtain ⟨rfl, -⟩ := Prod.mk.inj (Option.some.inj h)
    · exact .inr rfl
    · exact .inl rfl

/-- A frame is refused with the status of a check. -/
theorem fromCheck_of_judge {stream : ScheduleStream} {result : ScheduleResult} {errorMsg : Status}
    (h : judge config stream result frame = .refuse errorMsg result') : FromCheck errorMsg := by
  unfold judge at h
  split_ifs at h
  · obtain ⟨rfl, -⟩ := Verdict.refuse.inj h
    exact fromCheck_checkReceiveOffset frame config
  · split at h
    · cases h
    · split_ifs at h
      cases hcheck : checkGateControlListLength frame result config with
      | mk status result₁ =>
        rw [hcheck] at h
        dsimp only at h
        split_ifs at h
        obtain ⟨rfl, -⟩ := Verdict.refuse.inj h
        exact fromCheck_of_checkGateControlListLength hcheck

/-- A round keeps the error or sets the status of a check. -/
theorem fromCheck_of_next {stream : ScheduleStream} {s s' : RoutingState lib}
    (h : routingBody lib stream s = .next s') (hs : FromCheck s.errorMsg) :
    FromCheck s'.errorMsg := by
  unfold routingBody at h
  split at h
  · cases h
  · simp only at h
    split at h
    · obtain rfl := Iter.next.inj h
      exact hs
    · next hjudge =>
      obtain rfl := Iter.next.inj h
      exact fromCheck_of_judge hjudge
    · obtain rfl := Iter.next.inj h
      exact hs
    · simp only [placeFrame] at h
      split_ifs at h
      split at h
      · cases h
      · next hsize =>
        split_ifs at h
        · obtain rfl := Iter.next.inj h
          exact fromCheck_of_checkQueueSize hsize
        · split at h
          · cases h
          · next hfwd =>
            obtain rfl := Iter.next.inj h
            obtain ⟨-, -, -, -, -, herror, -⟩ := exists_of_forwardFrame hfwd
            rw [herror]
            exact hs
    · cases h

/-- **The error a search has left** is the status of a check. -/
theorem SearchesFrom.fromCheck {s : RoutingState lib} (h : SearchesFrom t s) :
    FromCheck s.errorMsg := by
  obtain ⟨s₀, hinit, hv⟩ := h.visits
  refine hv.rule (I := fun s => FromCheck s.errorMsg) ?_ fun _ _ _ hs hb => fromCheck_of_next hb hs
  simp only [routingInit] at hinit
  obtain ⟨duration, -, hinit⟩ := Option.bind_eq_some_iff.1 hinit
  rw [← Option.some.inj hinit]
  exact .inl rfl

/-! ### A round of the loop over the sequences -/

/-- A frame that queue isolation asks for a later offset leaves the search. -/
theorem exists_of_places {stream : ScheduleStream} {s : RoutingState lib}
    {result : ScheduleResult} {offset : ℤ} (h : Places stream s frame result)
    (hoffset : offset = considerQueueIsolation lib result
      (considerLinkIsolation lib result stream.cycleTime s.config.reserveTime frame))
    (hne : offset ≠ 0) :
    ∃ r, routingBody lib stream s = .done r ∧ ∃ message, r = (.schedulingFailed message,
      { stream with transmitOffset := stream.transmitOffset + offset },
      s.config.touchInterface frame.deviceId frame.egressInterfaceId, result) := by
  obtain ⟨⟨queue, hpop⟩, hadmitted, hcheck⟩ := h
  unfold routingBody
  simp only [hpop, hadmitted.judge_eq hcheck, placeFrame]
  rw [touched_of_notArrived hadmitted.notArrived]
  rw [show (s.config.touchInterface frame.deviceId frame.egressInterfaceId).reserveTime =
    s.config.reserveTime from rfl, ← hoffset, if_pos hne]
  exact ⟨_, rfl, _, rfl⟩

/-- Queue isolation asks for a later transmit offset: the search is left in the state `s`,
where `frame` is placed. -/
structure Restarts (t : StreamState) (s : RoutingState lib) (frame : Frame)
    (result : ScheduleResult) (offset : ℤ) : Prop extends SearchesFrom t s where
  places : Places t.stream s frame result
  offset_eq : offset = considerQueueIsolation lib result
    (considerLinkIsolation lib result t.stream.cycleTime s.config.reserveTime frame)
  pos : 0 < offset

/-- What a round of `ComputeScheduleStream` makes of the end of a search. -/
def afterSearch (base : ScheduleResult) : RoutingExit → Iter StreamState StreamState
  | (status, stream, config, result) =>
    if status.isFeasibilityCheckFailed then
      .done { stream := stream, config := config, result := result, status := status }
    else if !status.isSuccess then
      .next {
        stream := { stream with sequenceId := 0 }
        config := config
        result := base
        status := status }
    else
      .next {
        stream := { stream with sequenceId := stream.sequenceId + 1 }
        config := config
        result := result
        status := status }

theorem streamBody_of_searching (h : t.Searching) :
    streamBody lib fuel base t =
      match computeScheduleStreamRouting lib fuel t.config t.stream t.result with
      | none => .stuck
      | some r => afterSearch base r := by
  unfold streamBody
  rw [if_neg h.interval, if_pos h.sequence]
  dsimp only
  rw [h.transmitOffset, if_neg (by simp)]
  cases computeScheduleStreamRouting lib fuel t.config t.stream t.result <;> rfl

/-- A loop that does not start the search of a sequence does not go round again. -/
theorem streamBody_of_not_searching (lib : Library) (base : ScheduleResult) (h : ¬t.Searching)
    (hintv : t.stream.interval ≠ 0) : ∃ t', ∀ fuel, streamBody lib fuel base t = .done t' := by
  by_cases hseq : t.stream.sequenceId < t.stream.cycleTime.tdiv t.stream.interval
  · refine ⟨{ t with
      status := checkTransmitOffset (t.config.getScheduleConfigStream t.stream.streamId)
        t.stream.transmitOffset t.stream.interval t.stream.sequenceId }, fun fuel => ?_⟩
    rw [streamBody, if_neg hintv, if_pos hseq]
    exact if_pos (by simpa using fun e => h ⟨hintv, hseq, e⟩)
  · exact ⟨t, fun fuel => by rw [streamBody, if_neg hintv, if_neg hseq]⟩

theorem afterSearch_ne_stuck (r : RoutingExit) : afterSearch base r ≠ .stuck := by
  unfold afterSearch
  split
  split_ifs <;> exact nofun

/-- **What a round of the loop does**: the next sequence, or all of them again, later than
before. -/
inductive StreamStep (lib : Library) (base : ScheduleResult) (t t' : StreamState) : Prop
  | accept (s : RoutingState lib) : Accepts t s →
      t' = { stream := { t.stream with sequenceId := t.stream.sequenceId + 1 }
             config := s.config, result := s.result, status := .success } →
      StreamStep lib base t t'
  | restart (s : RoutingState lib) (frame : Frame) (result : ScheduleResult) (offset : ℤ)
      (message : Message) : Restarts t s frame result offset →
      t' = { stream := { t.stream with
               transmitOffset := t.stream.transmitOffset + offset, sequenceId := 0 }
             config := s.config.touchInterface frame.deviceId frame.egressInterfaceId
             result := base, status := .schedulingFailed message } →
      StreamStep lib base t t'

/-- **The end of a search** leads on to the next sequence, back to the first one, or out of
the loop. -/
theorem streamStep_of_afterSearch {s : RoutingState lib} {r : RoutingExit}
    (hs : SearchesFrom t s) (hexit : Exit t.stream s r) (h : afterSearch base r = .next t') :
    StreamStep lib base t t' := by
  cases hexit with
  | empty hempty =>
    -- an error that is left ends the attempt
    have hcheck : FromCheck (if s.isListenerArrived then .success else s.errorMsg) := by
      split_ifs
      · exact .inl rfl
      · exact hs.fromCheck
    generalize hst : (if s.isListenerArrived then Status.success else s.errorMsg) = status
      at hcheck h
    rcases hcheck with rfl | hfail
    · obtain rfl := Iter.next.inj h
      exact .accept s ⟨hs, hempty, fun harrived => by rwa [harrived] at hst⟩ rfl
    · rw [afterSearch, if_pos hfail] at h
      cases h
  | restart frame result offset message hplaces hne heq =>
    obtain rfl := Iter.next.inj h
    have hnn := heq ▸ considerQueueIsolation_nonneg lib result
      (considerLinkIsolation lib result t.stream.cycleTime s.config.reserveTime frame)
    exact .restart s frame result offset message ⟨hs, hplaces, heq, by omega⟩ rfl

theorem StreamStep.streamRound (h : StreamStep lib base t t') : StreamRound lib base t t' := by
  cases h with
  | accept s hs ht' => exact .accept s hs ht'
  | restart s frame result offset message hs ht' =>
    subst ht'
    have hpos := hs.pos
    exact .restart _ (by omega) rfl (hs.toSearchesFrom.extends_config.trans
      (ScheduleConfig.extends_touchInterface _ _ _)) rfl nofun

theorem searching_of_next (h : streamBody lib fuel base t = .next t') : t.Searching := by
  by_contra hnot
  by_cases hintv : t.stream.interval = 0
  · rw [streamBody, if_pos hintv] at h
    cases h
  · obtain ⟨t'', hdone⟩ := streamBody_of_not_searching lib base hnot hintv
    rw [hdone] at h
    cases h

/-- **A round that goes on** accepts a search or starts over. -/
theorem streamStep_of_next (h : streamBody lib fuel base t = .next t') :
    StreamStep lib base t t' := by
  have hsearching := searching_of_next h
  rw [streamBody_of_searching hsearching] at h
  split at h
  · cases h
  · next r hrouting =>
    obtain ⟨s₀, s, hinit, hv, hexit⟩ := exists_of_computeScheduleStreamRouting hrouting
    exact streamStep_of_afterSearch ⟨hsearching, s₀, hinit, hv⟩ hexit h

end Algorithm
end Sebastian

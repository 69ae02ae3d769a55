/-
# What a frame costs

The cost of a frame, by which the search orders its queue and which is checked against
the window of the listeners, is added up hop by hop, the enqueue time is set anew at
each hop, and link isolation rewrites the dequeue time in between.  Both come to the
same: in a search that starts at `transmitOffset`, the cost of every frame is its
enqueue time less this offset (`LatencyInv`).  What is stored as a reception has
therefore reached its listener inside the window.
-/

import Sebastian.Algorithm.States

namespace Sebastian
namespace Algorithm

open Feasibility Sample

variable {lib : Library} {config : ScheduleConfig} {stream : ScheduleStream}
  {start : ScheduleResult} {s s' : RoutingState lib} {frame : Frame}

/-- The frame is one of this stream, and costs the time since the stream was sent. -/
structure Frame.Accounted (frame : Frame) (stream : ScheduleStream) : Prop where
  streamId : frame.streamId = stream.streamId
  cost : frame.cost = frame.enqueueTime - stream.transmitOffset

/-- The frame is enqueued inside the window of its stream, counted from this offset. -/
def Frame.InWindow (frame : Frame) (config : ScheduleConfig) (transmitOffset : ℤ) : Prop :=
  (config.getScheduleConfigStream frame.streamId).minReceiveOffset ≤
      frame.enqueueTime - transmitOffset ∧
    frame.enqueueTime - transmitOffset ≤
      (config.getScheduleConfigStream frame.streamId).maxReceiveOffset

/-- **The costs in a search** over what is stored in `start`. -/
structure LatencyInv (config : ScheduleConfig) (stream : ScheduleStream) (start : ScheduleResult)
    (s : RoutingState lib) : Prop where
  extends_config : config.Extends s.config
  waiting : ∀ f ∈ s.waiting, f.Accounted stream
  stored : ∀ key f, s.result.lookup key = some f → start.lookup key = some f ∨
    (hasArrived config stream f = true → f.InWindow config stream.transmitOffset)

theorem checkReceiveOffset_eq_success : checkReceiveOffset frame config = .success ↔
      (config.getScheduleConfigStream frame.streamId).minReceiveOffset ≤ frame.cost ∧
        frame.cost ≤ (config.getScheduleConfigStream frame.streamId).maxReceiveOffset := by
  unfold checkReceiveOffset
  dsimp only
  constructor
  · intro h
    split_ifs at h with hout
    simp only [Bool.or_eq_true, decide_eq_true_eq, not_or, not_lt] at hout
    exact hout
  · rintro ⟨hmin, hmax⟩
    rw [if_neg ?_]
    simp only [Bool.or_eq_true, decide_eq_true_eq, not_or, not_lt]
    exact ⟨hmin, hmax⟩

theorem Frame.InWindow.of_extends {config' : ScheduleConfig} (h : config.Extends config')
    {transmitOffset : ℤ} (hwindow : frame.InWindow config' transmitOffset) :
    frame.InWindow config transmitOffset := by
  unfold Frame.InWindow at hwindow ⊢
  rwa [h.stream] at hwindow

/-- **A frame that is received is in its window.** -/
theorem Receives.inWindow (h : Receives stream s frame) (hcost : frame.Accounted stream) :
    frame.InWindow s.config stream.transmitOffset := by
  have hoffset := checkReceiveOffset_eq_success.1 h.offset
  rw [hcost.cost] at hoffset
  exact hoffset

theorem hasArrived_of_extends (h : config.Extends s.config) (frame : Frame) :
    hasArrived s.config stream frame = hasArrived config stream frame :=
  h.isListenerArrived _ _ _ _ _

/-- The copies of a placed frame for the next device. -/
theorem Frame.Accounted.child (h : frame.Accounted stream) {placed : Frame}
    (hplaced : placed = { frame with dequeueTime := placed.dequeueTime })
    (config' : ScheduleConfig) (interface : ScheduleConfigInterface)
    (totalDelay duration frameId : ℤ) :
    (childFrame (nextFrame config' totalDelay placed) interface duration frameId).Accounted
      stream := by
  have henqueue : placed.enqueueTime = frame.enqueueTime := by rw [hplaced]
  have hcost : placed.cost = frame.cost := by rw [hplaced]
  have hstrm : placed.streamId = frame.streamId := by rw [hplaced]
  refine ⟨hstrm.trans h.streamId, ?_⟩
  show placed.cost + (placed.dequeueTime - placed.enqueueTime) + totalDelay =
    placed.dequeueTime + totalDelay - stream.transmitOffset
  rw [hcost, henqueue, h.cost]
  omega

/-- **A round keeps the costs in order.** -/
theorem LatencyInv.round (h : LatencyInv config stream start s) (hround : Round stream s s') :
    LatencyInv config stream start s' := by
  have hextends := h.extends_config.trans hround.extends_config
  cases hround with
  | receive frame hrecv hwait _ _ hres _ _ =>
    have hframe := h.waiting frame hrecv.mem_waiting
    refine ⟨hextends, fun f hf => h.waiting f (hwait ▸ Multiset.mem_cons_of_mem hf),
      fun key f hf => ?_⟩
    rw [hres, ScheduleResult.lookup_setScheduleResult] at hf
    split_ifs at hf
    · cases hf
      exact .inr fun _ => (hrecv.inWindow hframe).of_extends h.extends_config
    · exact h.stored key f hf
  | drop frame hwait _ _ hget _ _ =>
    exact ⟨hextends, fun f hf => h.waiting f (hwait ▸ Multiset.mem_cons_of_mem hf),
      fun key f hf => h.stored key f (hget key ▸ hf)⟩
  | send frame placed result totalDelay children hplaces hplaced _ _ _ hget _ _ _ hwait _
      hchildren _ =>
    have hplaced' : placed = { frame with dequeueTime := placed.dequeueTime } := by
      have heq := considerLinkIsolation_eq lib result stream.cycleTime s.config.reserveTime frame
      rw [← hplaced] at heq
      exact heq
    refine ⟨hextends, fun f hf => ?_, fun key f hf => ?_⟩
    · have hmem : f ∈ (children : Multiset Frame) + s.waiting :=
        hwait ▸ Multiset.mem_cons_of_mem hf
      rcases Multiset.mem_add.1 hmem with hchild | hold
      · obtain ⟨-, -, interface, -, duration, -, hcopy⟩ :=
          hchildren f (Multiset.mem_coe.1 hchild)
        rw [hcopy]
        exact (h.waiting frame hplaces.mem_waiting).child hplaced' _ _ _ _ _
      · exact h.waiting f hold
    · rw [hget, ScheduleResult.lookup_setScheduleResult] at hf
      split_ifs at hf
      · cases hf
        -- a frame that is placed has not arrived
        refine .inr fun harrived => ?_
        have hnot := hplaces.admitted.notArrived
        rw [hasArrived_of_extends h.extends_config] at hnot
        rw [hplaced'] at harrived
        exact absurd (harrived.symm.trans hnot) nofun
      · exact h.stored key f hf

theorem latencyInv_init (h : routingInit lib config stream start = some s) :
    LatencyInv config stream start s := by
  simp only [routingInit] at h
  obtain ⟨duration, -, h⟩ := Option.bind_eq_some_iff.1 h
  cases h
  refine ⟨.refl _, fun f hf => ?_, fun key f hf => .inl hf⟩
  have hf' : f = talkerFrame config stream duration := by
    rw [RoutingState.waiting, (lib.queue Frame.cost).elems_push,
      (lib.queue Frame.cost).elems_empty] at hf
    simpa using hf
  subst hf'
  refine ⟨rfl, ?_⟩
  show (0 : ℤ) = stream.transmitOffset - stream.transmitOffset
  omega

/-- **The costs are in order in every state of a search.** -/
theorem LatencyInv.visits (h : LatencyInv config stream start s)
    (hv : Loop.Visits (routingBody lib stream) s s') : LatencyInv config stream start s' :=
  hv.rule h fun _ _ _ ht hb => ht.round (round_of_next hb)

/-- **Latency accounting**: in every search, each frame taken from the queue costs its
enqueue time less the transmit offset, what is received then is received inside the
window of its stream, and so is every reception that the search has stored. -/
theorem latency_of_search {lib : Library} {config : ScheduleConfig} {stream : ScheduleStream}
    {start : ScheduleResult} {s₀ s : RoutingState lib}
    (hinit : routingInit lib config stream start = some s₀)
    (hv : Loop.Visits (routingBody lib stream) s₀ s) :
    (∀ frame queue, (lib.queue Frame.cost).pop s.queue = some (frame, queue) →
      frame.cost = frame.enqueueTime - stream.transmitOffset) ∧
    (∀ frame, Receives stream s frame → frame.InWindow config stream.transmitOffset) ∧
    ∀ key frame, s.result.lookup key = some frame → start.lookup key ≠ some frame →
      hasArrived config stream frame = true → frame.InWindow config stream.transmitOffset := by
  have hinv := (latencyInv_init hinit).visits hv
  refine ⟨fun frame queue hpop => ?_, fun frame hrecv => ?_, fun key frame hstored hnew => ?_⟩
  · have hwait : s.waiting = frame ::ₘ (lib.queue Frame.cost).elems queue :=
      (lib.queue Frame.cost).pop_some _ _ _ hpop
    exact (hinv.waiting frame (hwait ▸ Multiset.mem_cons_self _ _)).cost
  · exact (hrecv.inWindow (hinv.waiting frame hrecv.mem_waiting)).of_extends
      hinv.extends_config
  · exact (hinv.stored key frame hstored).resolve_left hnew

/-- One stream between two stations at a switch. -/
def oneCable : Project :=
  line 1000 [application 1 6 46 0 1000] [Sample.stream 1 1 [2]]

/-- The stream has a reception, two hops from its talker. -/
theorem latency_of_search_oneCable :
    ∃ (config : ScheduleConfig) (stream : ScheduleStream) (s₀ s : RoutingState .reference)
      (frame : Frame),
      ScheduleConfig.prepareScheduleConfig 100 oneCable = .ok config ∧
      routingInit .reference config stream ∅ = some s₀ ∧
      Loop.Visits (routingBody .reference stream) s₀ s ∧ Receives stream s frame ∧
      frame.paths = [1, 3] ∧ frame.InWindow config stream.transmitOffset := by
  obtain ⟨config, hprep, hcheck⟩ := exists_of_prepareScheduleConfig oneCable (fun config =>
    (routingInit .reference config (attemptOf config 1 6) ∅).any fun s₀ =>
      (Loop.visited (routingBody .reference (attemptOf config 1 6)) 20 s₀).any fun s =>
        (nextReception (attemptOf config 1 6) s).any fun frame =>
          frame.paths = [1, 3]) (by decide +kernel)
  obtain ⟨s₀, hinit, hcheck⟩ := (Option.any_eq_true _ _).1 hcheck
  obtain ⟨s, hs, hcheck⟩ := List.any_eq_true.1 hcheck
  obtain ⟨frame, hframe, hpaths⟩ := (Option.any_eq_true _ _).1 hcheck
  have hv := Loop.visits_of_mem_visited hs
  have hrecv := receives_iff.2 hframe
  exact ⟨config, attemptOf config 1 6, s₀, s, frame, hprep, hinit, hv, hrecv,
    of_decide_eq_true hpaths, (latency_of_search hinit hv).2.1 frame hrecv⟩

end Algorithm
end Sebastian

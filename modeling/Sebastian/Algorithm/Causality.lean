/-
# Times along a path

A frame of the schedule is enqueued when its predecessor has been transmitted and
has crossed the link, and it leaves after it was enqueued (`Causal`).  The first
holds of every schedule: it is how the copies of a frame are made
(`scheduleInv_of_computeSchedule`).  The second one depends on link isolation,
which compares windows modulo the cycle and then takes the absolute end of the
frame it collides with, so that a frame that collides with one of an earlier cycle
is moved to before it was enqueued (`not_causal_of_computeSchedule`).  Where no
pass of link isolation lands there, times never decrease along a path
(`causal_of_computeSchedule`).
-/

import Sebastian.Algorithm.States

namespace Sebastian
namespace Algorithm

open Sample

variable {lib : Library}

/-- Times along the paths of a schedule. -/
structure Causal (config : ScheduleConfig) (result : ScheduleResult) : Prop where
  predecessor : ∀ key f, result.lookup key = some f →
    f.deviceId ≠ (config.getScheduleConfigStream f.streamId).talker.deviceId →
    ∃ prev, result.lookup f.prevKey = some prev
  dequeueTime : ∀ key f, result.lookup key = some f → f.enqueueTime ≤ f.dequeueTime
  enqueueTime : ∀ key f prev, result.lookup key = some f → result.lookup f.prevKey = some prev →
    ∃ totalDelay, config.computeTotalDelay prev.deviceId prev.egressInterfaceId f.streamId =
        some totalDelay ∧
      f.enqueueTime = prev.dequeueTime + totalDelay ∧ prev.dequeueTime ≤ f.enqueueTime

/-- The next frame of the search is not moved by link isolation behind a frame that
has ended before it is enqueued. -/
def LandsLater (stream : ScheduleStream) (s : RoutingState lib) : Prop :=
  ∀ frame result, Places stream s frame result → ∀ passed other,
    JumpsBehind lib result stream.cycleTime s.config.reserveTime frame passed other →
      frame.enqueueTime ≤ other.stopTime

instance (stream : ScheduleStream) (s : RoutingState lib) : Decidable (LandsLater stream s) :=
  inferInstanceAs (Decidable (∀ frame result, Places stream s frame result → ∀ passed other,
    JumpsBehind lib result stream.cycleTime s.config.reserveTime frame passed other →
      frame.enqueueTime ≤ other.stopTime))

/-- **Times never decrease along a path** in a run whose passes of link isolation
all land later than the frame is enqueued. -/
theorem causal_of_computeSchedule {fuel fuel' : ℕ} {project : Project}
    {config config' : ScheduleConfig} {result : ScheduleResult}
    (hprepare : ScheduleConfig.prepareScheduleConfig fuel' project = .ok config)
    (hbandwidth : ∀ id, 0 ≤ (config.getScheduleConfigLink id).bandwidth)
    (hlands : ∀ stream (s : RoutingState lib), Searches fuel config stream s → LandsLater stream s)
    (h : computeSchedule lib fuel config = some (.success, config', result)) :
    Causal config result := by
  obtain ⟨hwell, hcycle, -⟩ := ScheduleConfig.wellFormed_of_prepareScheduleConfig hprepare
  have hholds : result.Holds (fun f => f.enqueueTime ≤ f.dequeueTime) (fun _ _ => True) := by
    refine computeSchedule_holds (fun f g hm hg => by rw [hm]; exact hg)
      (fun _ _ _ _ _ _ _ => trivial) (fun _ _ _ => trivial)
      (fun stream s frame hs _ hreceives => ?_)
      (fun stream s frame r placed hs _ hplaces hplaced _ => ?_) h
    · obtain ⟨start, hinv⟩ := (hs.inSearch hcycle).inv
      exact ⟨(hinv.waiting frame hreceives.mem_waiting).dequeueTime.ge, fun _ _ _ _ => trivial⟩
    · have hsearch := hs.inSearch hcycle
      obtain ⟨start, hinv⟩ := hsearch.inv
      refine ⟨?_, fun _ _ _ _ => trivial⟩
      have hle := enqueueTime_le_considerLinkIsolation (hsearch.cycleTime ▸ hsearch.cycleTime_pos)
        (hinv.waiting frame hplaces.mem_waiting).dequeueTime.ge (hlands stream s hs frame r hplaces)
      rw [considerLinkIsolation_eq] at hplaced
      rw [hplaced]
      exact hle
  have hinv := scheduleInv_of_computeSchedule h
  refine ⟨fun key f hf => (hinv.traced key f hf).stored, hholds.single,
    fun key f prev hf hprev => ?_⟩
  obtain ⟨totalDelay, hdelay, htime, -⟩ := (hinv.traced key f hf).linked prev hprev
  have hnonneg := hwell.computeTotalDelay_nonneg hbandwidth hdelay
  exact ⟨totalDelay, hdelay, htime, by omega⟩

/-- Two streams of one talker: the second one is moved behind the first one. -/
def oneTalker : Project :=
  line 1000 [application 1 6 46 0 1000, application 2 5 46 0 1000]
    [stream 1 1 [2], stream 2 1 [2]]

theorem causal_of_computeSchedule_oneTalker :
    ∃ config config' result, ScheduleConfig.prepareScheduleConfig 100 oneTalker = .ok config ∧
      computeSchedule .reference 100 config = some (.success, config', result) ∧
      Causal config result := by
  obtain ⟨config, config', result, hprep, hcomp, hcheck⟩ :=
    exists_of_scheduleOf oneTalker (fun config _ =>
      decide ((∀ link ∈ config.scheduleConfigLinks.vals, 0 ≤ link.bandwidth) ∧
        ∀ p ∈ statesOf .reference 100 config, LandsLater p.1 p.2)) (by decide +kernel)
  obtain ⟨hbandwidth, hlands⟩ := of_decide_eq_true hcheck
  exact ⟨config, config', result, hprep, hcomp, causal_of_computeSchedule hprep
    (ScheduleConfig.bandwidth_nonneg hbandwidth) (forall_searches hcomp hlands) hcomp⟩

/-- A long frame on a slow link, and a second stream that is sent one cycle later:
on the fast link it collides with the first one, modulo the cycle. -/
def nextCycle : Project :=
  line 10 [application 1 6 1100 0 1000, application 2 5 150 1000 1000]
    [stream 1 1 [2], stream 2 1 [2]]

/-- The second stream leaves its talker at 9144 ns, and is enqueued at 1000000 ns. -/
theorem not_causal_of_computeSchedule :
    ∃ config config' result, ScheduleConfig.prepareScheduleConfig 100 nextCycle = .ok config ∧
      computeSchedule .reference 100 config = some (.success, config', result) ∧
      ¬Causal config result := by
  obtain ⟨config, config', result, hprep, hcomp, hcheck⟩ :=
    exists_of_scheduleOf nextCycle (fun _ result =>
      (result.lookup ⟨1, 1, 5, 2, 0, 0⟩).any fun f => f.dequeueTime < f.enqueueTime)
      (by decide +kernel)
  obtain ⟨f, hf, hlt⟩ := (Option.any_eq_true _ _).1 hcheck
  refine ⟨config, config', result, hprep, hcomp, fun hcausal => ?_⟩
  exact absurd (hcausal.dequeueTime _ f hf) (not_le.2 (of_decide_eq_true hlt))

end Algorithm
end Sebastian

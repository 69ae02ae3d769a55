/-
# Links of the schedule

No two transmissions on an interface should overlap modulo the cycle
(`LinkIsolated`).  `ConsiderLinkIsolation` makes one pass over the frames of the
interface, and every frame that it does not collide with is apart from the place
it has reached (`apart_of_not_collides`), but it jumps without a look at the frames
it has passed.  A pass whose landing places are clear of them finds a clear place
(`clear_considerLinkIsolation`); one that wraps around the end of the cycle need
not (`not_linkIsolated_of_computeSchedule`).  In a run whose passes land on clear
places, no two transmissions overlap (`linkIsolated_of_computeSchedule`).
-/

import Sebastian.Algorithm.States
import Sebastian.Lib.Cyclic

namespace Sebastian
namespace Algorithm

open Sample

variable {lib : Library}

/-- The frame is transmitted at the instant `time` of the cycle. -/
def Frame.Occupies (frame : Frame) (cycleTime time : ℤ) : Prop :=
  Cyclic.Occupies cycleTime frame.dequeueTime frame.duration time

/-- Two transmissions on one interface. -/
structure Frame.SharesLink (frame other : Frame) : Prop where
  device : frame.deviceId = other.deviceId
  interface : frame.egressInterfaceId = other.egressInterfaceId
  transmission : frame.IsTransmission
  transmission_other : other.IsTransmission

instance (frame other : Frame) : Decidable (frame.SharesLink other) :=
  decidable_of_iff (frame.deviceId = other.deviceId ∧
      frame.egressInterfaceId = other.egressInterfaceId ∧
      frame.IsTransmission ∧ other.IsTransmission)
    ⟨fun h => ⟨h.1, h.2.1, h.2.2.1, h.2.2.2⟩, fun h => ⟨h.1, h.2, h.3, h.4⟩⟩

/-- No two transmissions on an interface overlap in the cycle. -/
def LinkIsolated (cycleTime : ℤ) (result : ScheduleResult) : Prop :=
  ∀ key key' f g, key ≠ key' → result.lookup key = some f → result.lookup key' = some g →
    f.SharesLink g → ∀ time, ¬(f.Occupies cycleTime time ∧ g.Occupies cycleTime time)

/-! ### The reservation -/

section
variable {cycleTime duration dequeueTime : ℤ}

/-- **The reservation** keeps a transmission inside a cycle: it starts at the
beginning of one, or stays where it was and ends before the reserve. -/
theorem considerCycleTimeReservation_spec (reserveTime : ℤ) (hc : 0 < cycleTime)
    (htime : 0 ≤ dequeueTime) (hdur : 0 ≤ duration) (hlt : duration < cycleTime) :
    Cyclic.Fits cycleTime
        (considerCycleTimeReservation cycleTime reserveTime duration dequeueTime) duration ∧
      (considerCycleTimeReservation cycleTime reserveTime duration dequeueTime % cycleTime = 0 ∨
        considerCycleTimeReservation cycleTime reserveTime duration dequeueTime =
          dequeueTime) := by
  have hstart : (dequeueTime.tdiv cycleTime + 1) * cycleTime % cycleTime = 0 :=
    Int.mul_emod_left _ _
  unfold considerCycleTimeReservation Cyclic.Fits
  split_ifs with hdiv hreserve
  · exact ⟨by omega, .inl hstart⟩
  · exact ⟨by omega, .inl hstart⟩
  · refine ⟨?_, .inr rfl⟩
    -- start and end lie in the same cycle
    rw [not_not, Int.tdiv_eq_ediv_of_nonneg htime,
      Int.tdiv_eq_ediv_of_nonneg (by omega)] at hdiv
    have hfirst := Int.emod_add_mul_ediv dequeueTime cycleTime
    have hlast := Int.emod_add_mul_ediv (dequeueTime + duration) cycleTime
    have hbound := Int.emod_lt_of_pos (dequeueTime + duration) hc
    rw [← hdiv] at hlast
    omega

/-- A second reservation moves a transmission by whole cycles only. -/
theorem considerCycleTimeReservation_twice (reserveTime : ℤ) (hc : 0 < cycleTime)
    (htime : 0 ≤ dequeueTime) (hdur : 0 ≤ duration) (hlt : duration < cycleTime) :
    considerCycleTimeReservation cycleTime reserveTime duration
        (considerCycleTimeReservation cycleTime reserveTime duration dequeueTime) % cycleTime =
      considerCycleTimeReservation cycleTime reserveTime duration dequeueTime % cycleTime := by
  have hle := le_considerCycleTimeReservation hc reserveTime duration dequeueTime
  obtain ⟨-, hstart | hsame⟩ :=
    considerCycleTimeReservation_spec reserveTime hc htime hdur hlt
  · obtain ⟨-, hstart' | hsame'⟩ :=
      considerCycleTimeReservation_spec reserveTime hc (htime.trans hle) hdur hlt
    · rw [hstart, hstart']
    · rw [hsame']
  · rw [hsame, hsame]

/-- The end of a transmission that ends inside its cycle. -/
theorem tmod_of_fits (hc : 0 < cycleTime) (htime : 0 ≤ dequeueTime) (hdur : 0 ≤ duration)
    (h : Cyclic.Fits cycleTime dequeueTime duration) :
    (dequeueTime + duration).tmod cycleTime = dequeueTime % cycleTime + duration := by
  unfold Cyclic.Fits at h
  have hnn := Int.emod_nonneg dequeueTime hc.ne'
  have hdiv := Int.emod_add_mul_ediv dequeueTime cycleTime
  have hshift : dequeueTime + duration =
      dequeueTime % cycleTime + duration + cycleTime * (dequeueTime / cycleTime) := by omega
  rw [Int.tmod_eq_emod_of_nonneg (by omega), hshift, Int.add_mul_emod_self_left]
  exact Int.emod_eq_of_lt (by omega) (by omega)

end

/-! ### The pass -/

/-- What holds of every frame: it is not sent before the start of the schedule, and
a transmission ends inside its cycle. -/
structure Frame.WellTimed (cycleTime : ℤ) (frame : Frame) : Prop where
  dequeueTime : 0 ≤ frame.dequeueTime
  duration : 0 ≤ frame.duration
  fits : frame.IsTransmission → Cyclic.Fits cycleTime frame.dequeueTime frame.duration

/-- A place for a frame is clear of the transmissions among some frames. -/
def Clear (cycleTime duration : ℤ) (frames : List Frame) (dequeueTime : ℤ) : Prop :=
  ∀ g ∈ frames, g.IsTransmission →
    Cyclic.Apart cycleTime dequeueTime duration g.dequeueTime g.duration

instance (cycleTime duration : ℤ) (frames : List Frame) (dequeueTime : ℤ) :
    Decidable (Clear cycleTime duration frames dequeueTime) :=
  inferInstanceAs (Decidable (∀ g ∈ frames, g.IsTransmission →
    Cyclic.Apart cycleTime dequeueTime duration g.dequeueTime g.duration))

section
variable {cycleTime reserveTime duration dequeueTime : ℤ} {frames passed : List Frame}
  {frame other : Frame}

/-- **What the test of the pass means** for two transmissions inside their cycles. -/
theorem apart_of_not_collides (hc : 0 < cycleTime) (htime : 0 ≤ dequeueTime)
    (hdur : 0 ≤ duration) (h : Cyclic.Fits cycleTime dequeueTime duration)
    (hother : other.WellTimed cycleTime) (htrans : other.IsTransmission)
    (hcollides : ¬Collides cycleTime duration dequeueTime other) :
    Cyclic.Apart cycleTime dequeueTime duration other.dequeueTime other.duration := by
  have hstop : other.stopTime.tmod cycleTime = other.dequeueTime % cycleTime + other.duration :=
    tmod_of_fits hc hother.dequeueTime hother.duration (hother.fits htrans)
  rw [Collides, tmod_of_fits hc htime hdur h, hstop,
    Int.tmod_eq_emod_of_nonneg hother.dequeueTime, Int.tmod_eq_emod_of_nonneg htime] at hcollides
  unfold Cyclic.Apart
  omega

/-- A place is clear however many cycles later it is. -/
theorem Clear.of_emod {dequeueTime' : ℤ} (h : Clear cycleTime duration frames dequeueTime)
    (heq : dequeueTime' % cycleTime = dequeueTime % cycleTime) :
    Clear cycleTime duration frames dequeueTime' := by
  intro g hg ht
  have happart := h g hg ht
  unfold Cyclic.Apart at happart ⊢
  rw [heq]
  exact happart

/-- **A pass whose landing places are clear** of what it has passed finds a clear place. -/
theorem clear_considerLinkIsolation {result : ScheduleResult} (hc : 0 < cycleTime)
    (htime : 0 ≤ frame.dequeueTime) (hdur : 0 ≤ frame.duration)
    (hlt : frame.duration < cycleTime)
    (hframes : ∀ g ∈ interfaceFrames lib result frame, g.WellTimed cycleTime)
    (hexist : result.isInterfaceExist frame.deviceId frame.egressInterfaceId = true)
    (hlands : ∀ passed other, JumpsBehind lib result cycleTime reserveTime frame passed other →
      Clear cycleTime frame.duration (passed ++ [other])
        (considerCycleTimeReservation cycleTime reserveTime frame.duration other.stopTime)) :
    0 ≤ (considerLinkIsolation lib result cycleTime reserveTime frame).dequeueTime ∧
      Cyclic.Fits cycleTime
        (considerLinkIsolation lib result cycleTime reserveTime frame).dequeueTime frame.duration ∧
      Clear cycleTime frame.duration (interfaceFrames lib result frame)
        (considerLinkIsolation lib result cycleTime reserveTime frame).dequeueTime := by
  rw [considerLinkIsolation, if_pos hexist]
  have hreserve : ∀ t, 0 ≤ t →
      0 ≤ considerCycleTimeReservation cycleTime reserveTime frame.duration t := fun t ht =>
    ht.trans (le_considerCycleTimeReservation hc _ _ _)
  have hpass := Loop.foldl_rule (l := interfaceFrames lib result frame)
    (f := linkIsolationStep cycleTime reserveTime frame.duration) (b := frame.dequeueTime)
    (I := fun passed t => 0 ≤ t ∧ Clear cycleTime frame.duration passed
      (considerCycleTimeReservation cycleTime reserveTime frame.duration t))
    ⟨htime, fun g hg => absurd hg List.not_mem_nil⟩ ?_
  · obtain ⟨hnn, hclear⟩ := hpass
    exact ⟨hreserve _ hnn,
      (considerCycleTimeReservation_spec reserveTime hc hnn hdur hlt).1, hclear⟩
  · intro passed other rest hl hI
    have hother : other.WellTimed cycleTime := hframes other (by rw [hl]; simp)
    have hjump := hlands passed other
    unfold JumpsBehind at hjump
    generalize passed.foldl (linkIsolationStep cycleTime reserveTime frame.duration)
      frame.dequeueTime = t at hI hjump ⊢
    obtain ⟨ht, hclear⟩ := hI
    simp only [linkIsolationStep]
    split_ifs with hcollides
    · exact ⟨Int.add_nonneg hother.dequeueTime hother.duration, hjump ⟨rest, hl, hcollides⟩⟩
    · refine ⟨hreserve t ht, Clear.of_emod (fun g hg htrans => ?_)
        (considerCycleTimeReservation_twice reserveTime hc ht hdur hlt)⟩
      rcases List.mem_append.1 hg with hg | hg
      · exact hclear g hg htrans
      · obtain rfl := List.mem_singleton.1 hg
        exact apart_of_not_collides hc (hreserve t ht) hdur
          (considerCycleTimeReservation_spec reserveTime hc ht hdur hlt).1 hother
          htrans hcollides

end

/-! ### Runs -/

/-- The next frame is shorter than the cycle, ends inside its cycle where it is the
first one on its interface, and link isolation moves it to places only that are
clear of the frames the pass has seen. -/
def LandsClear (stream : ScheduleStream) (s : RoutingState lib) : Prop :=
  ∀ frame result, Places stream s frame result →
    frame.duration < stream.cycleTime ∧
      (result.isInterfaceExist frame.deviceId frame.egressInterfaceId = false →
        Cyclic.Fits stream.cycleTime frame.dequeueTime frame.duration) ∧
      ∀ passed other,
        JumpsBehind lib result stream.cycleTime s.config.reserveTime frame passed other →
        Clear stream.cycleTime frame.duration (passed ++ [other])
          (considerCycleTimeReservation stream.cycleTime s.config.reserveTime frame.duration
            other.stopTime)

instance (stream : ScheduleStream) (s : RoutingState lib) : Decidable (LandsClear stream s) := by
  unfold LandsClear
  infer_instance

/-- A frame that waits is not enqueued before the start of the schedule, and lasts. -/
theorem nonneg_of_waits {config : ScheduleConfig} {stream : ScheduleStream}
    {result : ScheduleResult} {frameId : ℤ} {frame : Frame} (hwell : config.WellFormed)
    (hbandwidth : ∀ id, 0 ≤ (config.getScheduleConfigLink id).bandwidth)
    (hoffset : 0 ≤ stream.transmitOffset)
    (hstored : ∀ key f, result.lookup key = some f → 0 ≤ f.dequeueTime)
    (h : frame.Waits config stream result frameId) :
    0 ≤ frame.dequeueTime ∧ 0 ≤ frame.duration := by
  refine ⟨?_, hwell.computeStreamDuration_nonneg hbandwidth h.duration⟩
  rw [h.dequeueTime]
  cases h.linked with
  | talker _ _ _ _ htime => exact htime ▸ hoffset
  | next prev totalDelay hprev hdelay htime =>
    have hnn := hwell.computeTotalDelay_nonneg hbandwidth hdelay
    have hdequeue := hstored _ prev hprev
    omega

/-- **No two transmissions overlap in the cycle** in a run whose passes of link
isolation land on clear places. -/
theorem linkIsolated_of_computeSchedule {fuel fuel' : ℕ} {project : Project}
    {config config' : ScheduleConfig} {result : ScheduleResult}
    (hprepare : ScheduleConfig.prepareScheduleConfig fuel' project = .ok config)
    (hbandwidth : ∀ id, 0 ≤ (config.getScheduleConfigLink id).bandwidth)
    (hoffset : ∀ id, 0 ≤ (config.getScheduleConfigStream id).earliestTransmitOffset)
    (hlands : ∀ stream (s : RoutingState lib), Searches fuel config stream s →
      LandsClear stream s)
    (h : computeSchedule lib fuel config = some (.success, config', result)) :
    LinkIsolated config.cycleTime result := by
  obtain ⟨hwell, hcycle, -⟩ := ScheduleConfig.wellFormed_of_prepareScheduleConfig hprepare
  have hholds : result.Holds (·.WellTimed config.cycleTime) (fun f g => f.SharesLink g →
      Cyclic.Apart config.cycleTime f.dequeueTime f.duration g.dequeueTime g.duration) := by
    refine computeSchedule_holds (fun f g hm hg => ?_) (fun f f' g g' hf hg hq => ?_)
      (fun f g hq hshares => ?_)
      (fun stream s frame hs hholds hrecv => ⟨?_, fun key g _ _ hshares => ?_⟩)
      (fun stream s frame r placed hs hholds hplaces hplaced hqueue => ?_) h
    · rw [hm]
      exact ⟨hg.1, hg.2, hg.3⟩
    · rw [hf, hg]
      exact fun hshares => hq ⟨hshares.1, hshares.2, hshares.3, hshares.4⟩
    · exact (hq ⟨hshares.1.symm, hshares.2.symm, hshares.4, hshares.3⟩).symm
    · obtain ⟨start, hinv⟩ := hs.searchInv
      obtain ⟨htime, hdur⟩ := nonneg_of_waits hwell hbandwidth
        ((hoffset _).trans (hs.inSearch hcycle).transmitOffset)
        (fun key f hf => (hholds.single key f hf).dequeueTime)
        (hinv.waiting frame hrecv.mem_waiting)
      exact ⟨htime, hdur, fun ht =>
        absurd ht (not_isTransmission_of_hasArrived hrecv.arrived)⟩
    · exact absurd hshares.transmission (not_isTransmission_of_hasArrived hrecv.arrived)
    · have hsearch := hs.inSearch hcycle
      obtain ⟨start, hinv⟩ := hs.searchInv
      obtain ⟨htime, hdur⟩ := nonneg_of_waits hwell hbandwidth
        ((hoffset _).trans hsearch.transmitOffset)
        (fun key f hf => (hholds.single key f hf).dequeueTime)
        (hinv.waiting frame hplaces.mem_waiting)
      obtain ⟨hshort, hfirst, hjumps⟩ := hlands stream s hs frame r hplaces
      rw [hsearch.cycleTime] at hshort hfirst hjumps hplaced
      have hget := Feasibility.lookup_checkGateControlListLength hplaces.check
      have heq := considerLinkIsolation_eq lib r config.cycleTime s.config.reserveTime frame
      rw [← hplaced] at heq
      -- the frames the pass has seen are those stored on the interface
      have hstored : ∀ g, g ∈ interfaceFrames lib r frame → g.WellTimed config.cycleTime := by
        intro g hg
        obtain ⟨q, n, m, k, hg⟩ := mem_interfaceFrames.1 hg
        exact hholds.single _ g ((hget _).symm.trans hg)
      by_cases hexist : r.isInterfaceExist frame.deviceId frame.egressInterfaceId = true
      · obtain ⟨hnn, hfits, hclear⟩ := clear_considerLinkIsolation hsearch.cycleTime_pos htime
          hdur hshort hstored hexist hjumps
        rw [← hplaced] at hnn hfits hclear
        refine ⟨⟨hnn, ?_, fun _ => ?_⟩, fun key g _ hg hshares => ?_⟩
        · rw [heq]
          exact hdur
        · rw [heq]
          exact hfits
        · obtain rfl := hinv.keyed key g hg
          have hmem : g ∈ interfaceFrames lib r frame := by
            refine mem_interfaceFrames.2 ⟨g.queueId, g.streamId, g.sequenceId, g.frameId, ?_⟩
            have hdev := hshares.device
            have hintf := hshares.interface
            rw [heq] at hdev hintf
            rw [hget, show frame.deviceId = g.deviceId from hdev,
              show frame.egressInterfaceId = g.egressInterfaceId from hintf]
            exact hg
          have happart := hclear g hmem hshares.transmission_other
          rw [heq]
          exact happart
      · have hplaced' : placed = frame := by
          rw [hplaced, considerLinkIsolation, if_neg hexist]
        subst hplaced'
        refine ⟨⟨htime, hdur, fun _ => hfirst (Bool.not_eq_true _ ▸ hexist)⟩,
          fun key g _ hg hshares => absurd ?_ hexist⟩
        obtain rfl := hinv.keyed key g hg
        have hexist' := ScheduleResult.isInterfaceExist_of_lookup ((hget g.key).trans hg)
        rw [hshares.device, hshares.interface]
        exact hexist'
  intro key key' f g hne hf hg hshares time
  have hcycle' : 0 < config.cycleTime := by
    by_contra hzero
    have hf' := (hholds.single key f hf).fits hshares.transmission
    have hd := (hholds.single key f hf).duration
    have hz : config.cycleTime = 0 := by omega
    have hq := (hholds.single key f hf).dequeueTime
    rw [Cyclic.Fits, hz, Int.emod_zero] at hf'
    omega
  exact (hholds.pair key key' f g hne hf hg hshares).not_occupies hcycle'
    ((hholds.single key f hf).fits hshares.transmission)
    ((hholds.single key' g hg).fits hshares.transmission_other)

/-- Two streams on one link: the second one is sent behind the first one. -/
def oneLink : Project :=
  line 1000 [application 1 6 46 0 1000, application 2 5 46 0 1000]
    [stream 1 1 [2], stream 2 1 [2]]

theorem linkIsolated_of_computeSchedule_oneLink :
    ∃ config config' result, ScheduleConfig.prepareScheduleConfig 100 oneLink = .ok config ∧
      computeSchedule .reference 100 config = some (.success, config', result) ∧
      LinkIsolated config.cycleTime result := by
  obtain ⟨config, config', result, hprep, hcomp, hcheck⟩ :=
    exists_of_scheduleOf oneLink (fun config _ =>
      decide ((∀ link ∈ config.scheduleConfigLinks.vals, 0 ≤ link.bandwidth) ∧
        (∀ stream ∈ config.scheduleConfigStreams.vals, 0 ≤ stream.earliestTransmitOffset) ∧
        ∀ p ∈ statesOf .reference 100 config, LandsClear p.1 p.2)) (by decide +kernel)
  obtain ⟨hbandwidth, hoffset, hlands⟩ := of_decide_eq_true hcheck
  exact ⟨config, config', result, hprep, hcomp, linkIsolated_of_computeSchedule hprep
    (ScheduleConfig.bandwidth_nonneg hbandwidth)
    (ScheduleConfig.earliestTransmitOffset_nonneg hoffset)
    (forall_searches hcomp hlands) hcomp⟩

/-- The last of three streams collides with the second one at the end of the cycle,
and is moved to the start of the next one, where the first one is. -/
def cycleEnd : Project :=
  star 1000
    [application 1 6 1100 0 1000, application 2 5 1100 990 1000, application 3 4 1100 990 1000]
    [stream 1 1 [2], stream 2 1 [2], stream 3 1 [3]]

/-- Streams 1 and 3 leave the talker together, at the start of the cycle. -/
theorem not_linkIsolated_of_computeSchedule :
    ∃ config config' result, ScheduleConfig.prepareScheduleConfig 100 cycleEnd = .ok config ∧
      computeSchedule .reference 100 config = some (.success, config', result) ∧
      ¬LinkIsolated config.cycleTime result := by
  obtain ⟨config, config', result, hprep, hcomp, hcheck⟩ :=
    exists_of_scheduleOf cycleEnd (fun config result =>
      (result.lookup ⟨1, 1, 6, 1, 0, 0⟩).any fun (f : Frame) =>
        (result.lookup ⟨1, 1, 4, 3, 0, 0⟩).any fun (g : Frame) =>
          decide (f.SharesLink g ∧ f.dequeueTime = 0 ∧ 0 < f.duration ∧
            g.dequeueTime = config.cycleTime ∧ 0 < g.duration)) (by decide +kernel)
  obtain ⟨f, hf, hcheck⟩ := (Option.any_eq_true _ _).1 hcheck
  obtain ⟨g, hg, hcheck⟩ := (Option.any_eq_true _ _).1 hcheck
  obtain ⟨hshares, hf₀, hfd, hg₀, hgd⟩ := of_decide_eq_true hcheck
  refine ⟨config, config', result, hprep, hcomp, fun hisolated => ?_⟩
  refine hisolated _ _ f g (by decide) hf hg hshares 0 ⟨⟨f.dequeueTime, ?_⟩, g.dequeueTime, ?_⟩
  · exact ⟨le_rfl, by omega, by rw [hf₀, Int.zero_emod]⟩
  · exact ⟨le_rfl, by omega, by rw [hg₀, Int.emod_self]⟩

end Algorithm
end Sebastian

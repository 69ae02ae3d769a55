/-
# The computation ends

`ComputeScheduleStream` ends, or comes to an operation that is not defined
(`Terminates`, `terminates_of_attempts`).

Every search ends (`ends_of_routingInit`).  The loop over the sequences goes back to the first
one only at a later transmit offset, which `CheckTransmitOffset` bounds by the end of the window:
the room that is left in the window and the sequences that are left go down lexicographically.
The way back from a reception ends, since every predecessor has a shorter path
(`exists_settles_traceFrames`), and so does the search for a VLAN, since no VLAN outside the range
is taken.
-/

import Sebastian.Algorithm.FailedAttempt
import Sebastian.Algorithm.Latency
import Sebastian.Algorithm.Paths

namespace Sebastian
namespace Algorithm

open Feasibility Sample List Loop
open scoped Filter

variable {lib : Library}

/-! ### The way back to the talker -/

section
variable {working : ScheduleResult} {streamId talkerId : ℤ} {t : TraceState}
  {configStream : ScheduleConfigStream} {splitVlanId : UInt16} {listener : ScheduleConfigInterface}
  {config : ScheduleConfig}

/-- The frame is one of the stream that the search has stored. -/
structure Frame.StoredIn (frame : Frame) (working : ScheduleResult) (streamId : ℤ) : Prop where
  streamId : frame.streamId = streamId
  lookup : working.lookup frame.key = some frame

/-- Every stored frame off the talker's device has a predecessor with a shorter path. -/
def LeadsBack (working : ScheduleResult) (streamId talkerId : ℤ) : Prop :=
  ∀ f : Frame, f.StoredIn working streamId → f.deviceId ≠ talkerId →
    (working.getFrame f.prevKey).StoredIn working streamId ∧
      (working.getFrame f.prevKey).paths.length < f.paths.length

/-- Frames were met on devices that have stored frames only. -/
def TraceState.Within (t : TraceState) (working : ScheduleResult) (streamId : ℤ) : Prop :=
  ∀ d ∈ t.txMap.keys, ∃ f : Frame, f.StoredIn working streamId ∧ f.deviceId = d

theorem TraceState.Within.meet {frame : Frame} (h : t.Within working streamId)
    (hframe : frame.StoredIn working streamId) (vlanId : UInt16) :
    (t.meet vlanId frame).Within working streamId := by
  intro d hd
  rcases mem_txMap_meet.1 hd with rfl | hd
  · exact ⟨frame, hframe, rfl⟩
  · exact h d hd

/-- **The way back from a frame ends** at the device of the talker. -/
theorem exists_settles_traceBody {frame : Frame}
    (hback : LeadsBack working streamId configStream.talker.deviceId)
    (hframe : frame.StoredIn working streamId) (ht : t.Within working streamId) :
    ∃ t', Loop.Settles (fun fuel => run (traceBody working configStream) fuel (frame, t)) t' ∧
      t'.Within working streamId := by
  have hround : ∀ p : Frame × TraceState,
      p.1.StoredIn working streamId ∧ p.2.Within working streamId →
      (∃ r, traceBody working configStream p = .done r) ∨
        ∃ p', traceBody working configStream p = .next p' ∧
          (p'.1.StoredIn working streamId ∧ p'.2.Within working streamId) ∧
          p'.1.paths.length < p.1.paths.length := by
    rintro ⟨f, t₁⟩ ⟨hf, ht₁⟩
    by_cases hd : f.deviceId = configStream.talker.deviceId
    · exact .inl ⟨t₁, if_neg (not_not.2 hd)⟩
    · obtain ⟨hprev, hlt⟩ := hback f hf hd
      exact .inr ⟨_, if_pos hd, ⟨hprev, ht₁.meet hprev _⟩, hlt⟩
  obtain ⟨r, ⟨f, t₁⟩, hrun, ⟨-, ht₁⟩, hdone⟩ := exists_run_done (s := (frame, t))
    (fun p : Frame × TraceState => p.1.paths.length) ⟨hframe, ht⟩ hround (Nat.lt_succ_self _)
  simp only [traceBody] at hdone
  split_ifs at hdone
  obtain rfl := Iter.done.inj hdone
  exact ⟨_, settles_of_run _ hrun, ht₁⟩

/-- The receptions of a sequence are followed back. -/
theorem exists_settles_traceFrames {frames : List Frame} (splitVlanId : UInt16)
    (listener : ScheduleConfigInterface)
    (hback : LeadsBack working streamId configStream.talker.deviceId)
    (hframes : ∀ f ∈ frames, f.StoredIn working streamId) (ht : t.Within working streamId) :
    ∃ t', Loop.Settles (fun fuel =>
        traceFrames fuel working configStream splitVlanId listener frames t) t' ∧
      t'.Within working streamId := by
  induction frames generalizing t with
  | nil => exact ⟨t, settles_const t, ht⟩
  | cons frame frames ih =>
    have hrest : ∀ f ∈ frames, f.StoredIn working streamId := fun f hf =>
      hframes f (mem_cons_of_mem _ hf)
    by_cases hingress : frame.ingressInterfaceId ≠ listener.interfaceId
    · simp only [traceFrames, if_pos hingress]
      exact ih hrest ht
    · have hframe := hframes frame mem_cons_self
      obtain ⟨t₁, hrun, ht₁⟩ := exists_settles_traceBody hback hframe
        (ht.meet hframe configStream.vlanId)
      simp only [traceFrames, if_neg hingress]
      by_cases hcb : (!configStream.cbEnable) = true
      · refine ⟨t₁, hrun.bind ?_, ht₁⟩
        simp only [if_pos hcb]
        exact settles_const t₁
      · obtain ⟨t', hset, ht'⟩ := ih (t := { t₁ with
          vlanId := if t₁.vlanId ≠ configStream.vlanId then configStream.vlanId
            else splitVlanId }) hrest ht₁
        refine ⟨t', hrun.bind ?_, ht'⟩
        simpa only [if_neg hcb] using hset

/-- All stored frames of the stream are on devices that were filled in. -/
def StoredOnPrepared (config : ScheduleConfig) (working : ScheduleResult) (streamId : ℤ) : Prop :=
  ∀ f : Frame, f.StoredIn working streamId →
    (config.getScheduleConfigDevice f.deviceId).prepared = true

/-- On such a device the FRER type is known, and the frames are stored. -/
theorem exists_of_prepared (lib : Library) (t : TraceState) (result : ScheduleResult) {d : ℤ}
    (h : (config.getScheduleConfigDevice d).prepared = true) :
    ∃ result', storeDevice lib config t result d = some result' := by
  have hfrer : ∃ frerType, frerTypeOf config t d = some frerType := by
    unfold frerTypeOf
    dsimp only
    rw [if_neg (by simp [h])]
    split_ifs <;> exact ⟨_, rfl⟩
  obtain ⟨frerType, hfrer⟩ := hfrer
  simp only [storeDevice, hfrer]
  exact ⟨_, rfl⟩

theorem exists_of_forall_prepared (lib : Library) (t : TraceState) (result : ScheduleResult)
    {devices : List ℤ} (h : ∀ d ∈ devices, (config.getScheduleConfigDevice d).prepared = true) :
    ∃ result', foldlM (storeDevice lib config t) result devices = some result' := by
  induction devices generalizing result with
  | nil => exact ⟨result, rfl⟩
  | cons d devices ih =>
    obtain ⟨middle, hd⟩ := exists_of_prepared lib t result (h d mem_cons_self)
    rw [foldlM_cons, hd]
    exact ih middle fun d hd => h d (mem_cons_of_mem _ hd)

section
variable (hback : LeadsBack working streamId configStream.talker.deviceId)
  (hprepared : StoredOnPrepared config working streamId)
include hback hprepared

theorem exists_settles_generateSequence {sequence : ScheduleResultSequence}
    (hseq : ∀ f ∈ QMap.vals sequence, f.StoredIn working streamId)
    (acc : QMap ℤ (QMap ℤ UInt16) × ScheduleResult) :
    ∃ acc', Loop.Settles (fun fuel => generateSequence lib fuel config configStream splitVlanId
      working listener acc sequence) acc' := by
  obtain ⟨t, hset, hwithin⟩ := exists_settles_traceFrames splitVlanId listener
    (t := { vlanId := configStream.vlanId, vlanMap := acc.1 }) hback hseq
    fun d hd => by simp at hd
  have hdevs : ∀ d ∈ t.txMap.keys, (config.getScheduleConfigDevice d).prepared = true := by
    intro d hd
    obtain ⟨f, hf, rfl⟩ := hwithin d hd
    exact hprepared f hf
  obtain ⟨result, hres⟩ := exists_of_forall_prepared lib t acc.2 hdevs
  refine ⟨(t.vlanMap, result), hset.bind ?_⟩
  simp only [hres]
  exact settles_const _

/-- **The loop over the listeners ends.** -/
theorem exists_settles_generateListeners (hkeyed : working.Keyed) (queueId : UInt8)
    (listeners : List ScheduleConfigInterface) (vlanMap : QMap ℤ (QMap ℤ UInt16))
    (result : ScheduleResult) :
    ∃ r, Loop.Settles (fun fuel => generateListeners lib fuel config configStream queueId streamId
      splitVlanId working listeners vlanMap result) r := by
  induction listeners generalizing vlanMap result with
  | nil => exact ⟨_, settles_const _⟩
  | cons listener listeners ih =>
    obtain ⟨⟨vlanMap', result'⟩, hseqs⟩ := exists_settles_foldlM
      (f := fun fuel => generateSequence lib fuel config configStream splitVlanId working listener)
      (l := QMap.vals (working.getStream listener.deviceId listener.interfaceId queueId streamId))
      (fun acc sequence hmem => by
        obtain ⟨n, hn⟩ := mem_vals_getStream hkeyed hmem
        exact exists_settles_generateSequence hback hprepared
          (fun f hf => ⟨(hn f hf).1.streamId, (hn f hf).1.lookup⟩) acc) (vlanMap, result)
    simp only [generateListeners]
    by_cases hexist : (!result'.isStreamExist listener.deviceId listener.interfaceId queueId
        streamId) = true
    · refine ⟨(.schedulingFailed ⟨"Stream %1 - Cannot find the routing path",
        [.str configStream.streamName]⟩, result'), hseqs.bind ?_⟩
      simp only [if_pos hexist]
      exact settles_const _
    · obtain ⟨r, hr⟩ := ih vlanMap' result'
      refine ⟨r, hseqs.bind ?_⟩
      simp only [if_neg hexist]
      exact hr

end

end

/-! ### The search for a VLAN -/

/-- **The search for a VLAN ends**: the cursor comes round, or stands on an id outside the range,
where none is taken. -/
theorem ScheduleConfigVLAN.TakenInRange.exists_settles {v : ScheduleConfigVLAN}
    (h : v.TakenInRange) (mac : String) :
    ∃ r, Loop.Settles (fun fuel => v.generateSystemAssignVLAN fuel mac) r := by
  simp only [ScheduleConfigVLAN.generateSystemAssignVLAN]
  by_cases hcont : v.vlanMap.contains mac = true
  · simp only [if_pos hcont]
    by_cases hcursor : v.InRange v.lastAssignVlan
    · obtain ⟨fuel, found, hrun, -⟩ := ScheduleConfigVLAN.exists_search
        (UInt16.le_trans hcursor.1 hcursor.2) hcursor (v.taken mac)
      exact ⟨_, (settles_of_run _ hrun).map _⟩
    · have hfree : v.lastAssignVlan ∉ v.taken mac := fun hmem => hcursor (h mac _ hmem)
      have hrun : run (v.searchStep (v.vlanMap.value mac)) 1 v.lastAssignVlan =
          some (some v.lastAssignVlan) := by
        rw [run, ScheduleConfigVLAN.searchStep,
          if_neg (show _ ∉ v.vlanMap.value mac from hfree)]
      exact ⟨_, (settles_of_run _ hrun).map _⟩
  · simp only [if_neg hcont]
    exact ⟨_, settles_const _⟩

/-! ### An attempt ends -/

theorem ScheduleConfig.interval_pos (config : ScheduleConfig)
    (h : ∀ stream ∈ config.scheduleConfigStreams.vals, 0 < stream.interval) (id : ℤ) :
    0 < (config.getScheduleConfigStream id).interval := by
  rw [getScheduleConfigStream, QMap.value_eq_getD]
  cases hs : config.scheduleConfigStreams[id]? with
  | none => exact (by decide : (0 : ℤ) < 1000000)
  | some stream => exact h stream (QMap.mem_vals.2 ⟨id, hs⟩)

/-- **The loop over the sequences comes to an operation that is not defined**: the duration of a
stream on a link without bandwidth, a round of a search that does not return, or, after the last
sequence, a frame that was stored on a device which was never filled in. -/
inductive UndefinedAt (lib : Library) (t : StreamState) : Prop
  | init : t.Searching → routingInit lib t.config t.stream t.result = none → UndefinedAt lib t
  | round (s : RoutingState lib) : SearchesFrom t s → routingBody lib t.stream s = .stuck →
      UndefinedAt lib t
  | store (frame : Frame) : ¬t.Searching → frame.StoredIn t.result t.stream.streamId →
      (t.config.getScheduleConfigDevice frame.deviceId).prepared = false → UndefinedAt lib t

section
variable {config : ScheduleConfig} {a : Attempt} {t t' : StreamState}

theorem StreamInv.leadsBack (h : StreamInv config a t) : LeadsBack t.result t.stream.streamId
      (t.config.getScheduleConfigStream t.stream.streamId).talker.deviceId := by
  intro f hf hdev
  obtain ⟨-, -, -, -, hlinked⟩ := h.own f.key f (hf.streamId.trans h.streamId) hf.lookup
  cases hlinked with
  | talker _ _ _ htalker =>
    exact absurd (htalker.trans (by rw [h.extends_config.talker])) hdev
  | next prev _ hprev _ _ hpaths =>
    have hget : t.result.getFrame f.prevKey = prev := by
      rw [ScheduleResult.getFrame, hprev]
      rfl
    have hkey : prev.key = f.prevKey := h.keyed _ _ hprev
    rw [hget]
    refine ⟨⟨?_, hkey ▸ hprev⟩, ?_⟩
    · rw [← hf.streamId]
      exact congrArg FrameKey.streamId hkey
    · rw [hpaths, length_append, length_singleton]
      exact Nat.lt_succ_self _

/-- **Storing the paths ends**, unless a frame is on a device that was never filled in. -/
theorem StreamInv.exists_settles (lib : Library) (h : StreamInv config a t)
    (hvlan : t.config.scheduleConfigVLAN.TakenInRange)
    (hprepared : StoredOnPrepared t.config t.result t.stream.streamId) :
    ∃ r, Loop.Settles (fun fuel => generateScheduleStreamRouting lib fuel t.config t.stream a.base
      t.result) r := by
  have hsplit : ∃ r, Loop.Settles (fun fuel => generateSplitVlan fuel t.config
      (t.config.getScheduleConfigStream t.stream.streamId)) r := by
    simp only [generateSplitVlan]
    by_cases hcb : (t.config.getScheduleConfigStream t.stream.streamId).cbEnable = true
    · simp only [if_pos hcb]
      exact hvlan.exists_settles _
    · simp only [if_neg hcb]
      exact ⟨_, settles_const _⟩
  obtain ⟨⟨status, splitVlanId, vlan⟩, hsplit⟩ := hsplit
  by_cases hst : (!status.isSuccess) = true
  · refine ⟨(status, { t.config with scheduleConfigVLAN := vlan }, a.base), hsplit.bind ?_⟩
    simp only [if_pos hst]
    exact settles_const _
  · have hprepared' : StoredOnPrepared { t.config with scheduleConfigVLAN := vlan } t.result
        t.stream.streamId := hprepared
    have hlists : ∃ r, Loop.Settles (fun fuel => generateListeners lib fuel
        { t.config with scheduleConfigVLAN := vlan }
        (t.config.getScheduleConfigStream t.stream.streamId) t.stream.queueId t.stream.streamId
        splitVlanId t.result
        (lib.walk (t.config.getScheduleConfigStream t.stream.streamId).listeners) ∅ a.base) r :=
      exists_settles_generateListeners h.leadsBack hprepared' h.keyed _ _ _ _
    obtain ⟨⟨status', result⟩, hlists⟩ := hlists
    refine ⟨(status', { t.config with scheduleConfigVLAN := vlan }, result), hsplit.bind ?_⟩
    simp only [if_neg hst]
    exact hlists.bind (settles_const _)

/-- **The check bounds the transmit offset** by the end of the window. -/
theorem StreamInv.transmitOffset_le (h : StreamInv config a t) (hs : t.Searching)
    (hintv : 0 < (config.getScheduleConfigStream a.streamId).interval) :
    t.stream.transmitOffset ≤ (config.getScheduleConfigStream a.streamId).latestTransmitOffset -
      (config.getScheduleConfigStream a.streamId).jitter := by
  have hcheck := (checkTransmitOffset_eq_success.1 hs.transmitOffset).2
  rw [h.extends_config.stream, h.streamId, h.interval] at hcheck
  have hnn := Int.mul_nonneg hintv.le h.sequenceId_nonneg
  dsimp only at hcheck
  omega

/-- What is left of the window and of the sequences. -/
def StreamState.room (config : ScheduleConfig) (a : Attempt) (t : StreamState) : ℕ × ℕ :=
  (((config.getScheduleConfigStream a.streamId).latestTransmitOffset -
      (config.getScheduleConfigStream a.streamId).jitter + 1 - t.stream.transmitOffset).toNat,
    (t.stream.cycleTime.tdiv t.stream.interval - t.stream.sequenceId).toNat)

/-- **A round leaves less**: another sequence is done, or the window has become smaller. -/
theorem StreamStep.room_lt (h : StreamStep lib a.base t t') (hinv : StreamInv config a t)
    (hintv : 0 < (config.getScheduleConfigStream a.streamId).interval) :
    Prod.Lex (· < ·) (· < ·) (t'.room config a) (t.room config a) := by
  cases h with
  | accept s hs ht' =>
    subst ht'
    have hseq := hs.searching.sequence
    refine Prod.Lex.right _ ?_
    dsimp only
    omega
  | restart s frame result offset message hs ht' =>
    subst ht'
    have hle := hinv.transmitOffset_le hs.searching hintv
    have hpos := hs.pos
    refine Prod.Lex.left _ _ ?_
    dsimp only
    omega

/-- **The search of a sequence settles**, or comes to an operation that is not defined. -/
theorem StreamState.Searching.settles_or (lib : Library) (h : t.Searching) :
    UndefinedAt lib t ∨ ∃ r, ∃ s : RoutingState lib, SearchesFrom t s ∧ Exit t.stream s r ∧
      Loop.Settles (fun fuel => computeScheduleStreamRouting lib fuel t.config t.stream t.result)
        r := by
  cases hinit : routingInit lib t.config t.stream t.result with
  | none => exact .inl (.init h hinit)
  | some s₀ =>
    rcases (ends_of_routingInit hinit).settles_or_stuck with ⟨r, hr⟩ | ⟨s, hv, hstuck⟩
    · have hset : Loop.Settles (fun fuel =>
          computeScheduleStreamRouting lib fuel t.config t.stream t.result) r := by
        simp only [computeScheduleStreamRouting, hinit]
        exact hr
      obtain ⟨fuel, hfuel⟩ := hset.exists
      obtain ⟨s₁, s, hinit', hv, hexit⟩ := exists_of_computeScheduleStreamRouting hfuel
      exact .inr ⟨r, s, ⟨h, s₁, hinit', hv⟩, hexit, hset⟩
    · exact .inl (.round s ⟨h, s₀, hinit, hv⟩ hstuck)

/-- **The loop over the sequences settles**, or comes to an operation that is not defined. -/
theorem AttemptInv.settles_or (lib : Library) (ha : AttemptInv config a)
    (hintv : 0 < (config.getScheduleConfigStream a.streamId).interval) :
    (∃ t, Loop.Settles (fun fuel => run (streamBody lib fuel a.base) fuel a.init) t) ∨
      ∃ t, UndefinedAt lib t ∧
        ∀ᶠ fuel in Filter.atTop, Loop.Visits (streamBody lib fuel a.base) a.init t := by
  have hwf : WellFounded (Prod.Lex (fun m n : ℕ => m < n) fun m n : ℕ => m < n) :=
    WellFounded.prod_lex wellFounded_lt wellFounded_lt
  refine (settles_or_of_rounds (I := StreamInv config a) (B := UndefinedAt lib) hwf
    (StreamState.room config a) ha.init fun t hinv => ?_).imp_right fun ⟨t, _, h⟩ => ⟨t, h⟩
  by_cases hs : t.Searching
  · rcases hs.settles_or lib with hundefined | ⟨r, s, hfrom, hexit, hset⟩
    · exact .inl hundefined
    · have hbody : ∀ᶠ fuel in Filter.atTop,
          streamBody lib fuel a.base t = afterSearch a.base r := by
        refine Filter.Eventually.mono hset fun fuel hr => ?_
        dsimp only at hr
        rw [streamBody_of_searching hs, hr]
      cases hafter : afterSearch a.base r with
      | next u =>
        have hstep := streamStep_of_afterSearch hfrom hexit hafter
        exact .inr (.inr ⟨u, hinv.round ha hstep.streamRound, hstep.room_lt hinv hintv,
          hbody.mono fun fuel h => h.trans hafter⟩)
      | done t' => exact .inr (.inl ⟨t', hbody.mono fun fuel h => h.trans hafter⟩)
      | stuck => exact absurd hafter (afterSearch_ne_stuck r)
  · have hne : t.stream.interval ≠ 0 := by
      rw [hinv.interval]
      exact hintv.ne'
    obtain ⟨t', hdone⟩ := streamBody_of_not_searching lib a.base hs hne
    exact .inr (.inl ⟨t', .of_forall hdone⟩)

/-- **An attempt ends**, or comes to an operation that is not defined. -/
theorem Attempts.settles_or {fuel fuel' : ℕ} {project : Project}
    (hprep : ScheduleConfig.prepareScheduleConfig fuel' project = .ok config)
    (hintv : 0 < (config.getScheduleConfigStream a.streamId).interval)
    (ha : Attempts lib fuel config a) :
    (∃ r, Loop.Settles (fun fuel => computeScheduleStream lib fuel
        (attemptOf a.config a.streamId a.pcp) a.config a.base) r) ∨
      ∃ t, UndefinedAt lib t ∧
        ∀ᶠ fuel in Filter.atTop, Loop.Visits (streamBody lib fuel a.base) a.init t := by
  have hinit := ha.inv.1
  rcases hinit.settles_or lib hintv with ⟨t, ht⟩ | hundefined
  · obtain ⟨fuel₀, hrun⟩ := ht.exists
    obtain ⟨t₀, hv, hdone⟩ := exists_of_run hrun
    by_cases hst : (!t.status.isSuccess) = true
    · refine .inl ⟨(t.status, t.config, a.base), ht.bind ?_⟩
      simp only [if_pos hst]
      exact settles_const _
    · have hsucc : t.status = .success := Status.isSuccess_iff.1 (by simpa using hst)
      obtain ⟨rfl, -, hseqs⟩ := (eq_of_done hdone).2 hsucc
      have hinv : StreamInv config a t := .visits hinit hv
      by_cases hprepared : StoredOnPrepared t.config t.result t.stream.streamId
      · have hvlan : t.config.scheduleConfigVLAN.TakenInRange := by
          rw [vlan_of_streamBody hrun]
          exact ha.takenInRange (ScheduleConfig.takenInRange_of_prepareScheduleConfig hprep)
        obtain ⟨r, hr⟩ := hinv.exists_settles lib hvlan hprepared
        refine .inl ⟨r, ht.bind ?_⟩
        simp only [if_neg hst]
        exact hr
      · unfold StoredOnPrepared at hprepared
        push Not at hprepared
        obtain ⟨f, hf, hdev⟩ := hprepared
        refine .inr ⟨t, .store f (fun hs => absurd hs.sequence (not_lt.2 hseqs)) hf
          (by simpa using hdev), ht.mono fun fuel hrun' => ?_⟩
        obtain ⟨t₁, hv₁, hdone₁⟩ := exists_of_run hrun'
        obtain ⟨rfl, -⟩ := (eq_of_done hdone₁).2 hsucc
        exact hv₁
  · exact .inr hundefined

/-- **`ComputeScheduleStream` ends**, and how its loops do. -/
structure Terminates (lib : Library) (config : ScheduleConfig) (a : Attempt) : Prop where
  /-- With enough rounds it returns, or comes to an operation that is not defined. -/
  returns : (∃ r, Loop.Settles (fun fuel => computeScheduleStream lib fuel
      (attemptOf a.config a.streamId a.pcp) a.config a.base) r) ∨
    ∃ t, UndefinedAt lib t ∧
      ∀ᶠ fuel in Filter.atTop, Loop.Visits (streamBody lib fuel a.base) a.init t
  /-- A search empties its queue, or is left there by queue isolation. -/
  search : ∀ fuel t s₀, Loop.Visits (streamBody lib fuel a.base) a.init t → t.Searching →
    routingInit lib t.config t.stream t.result = some s₀ →
    ∃ s, SearchesFrom t s ∧ (s.waiting = 0 ∨
      (∃ frame result offset, Restarts t s frame result offset) ∨
      routingBody lib t.stream s = .stuck)
  /-- A frame that waits has come through a device at most once, where no interface leads back
  to its own device. -/
  path : ∀ fuel t (s : RoutingState lib), Loop.Visits (streamBody lib fuel a.base) a.init t →
    SearchesFrom t s → ∀ f ∈ s.waiting,
      (∀ d, f.path.count d ≤ 2) ∧ (config.Loopless → f.path.Nodup)
  /-- Starting over makes the transmit offset larger. -/
  restart : ∀ fuel t t', Loop.Visits (streamBody lib fuel a.base) a.init t →
    streamBody lib fuel a.base t = .next t' → t'.stream.sequenceId = 0 →
    t.stream.transmitOffset < t'.stream.transmitOffset
  /-- The check bounds it. -/
  transmitOffset : ∀ fuel t, Loop.Visits (streamBody lib fuel a.base) a.init t → t.Searching →
    t.stream.transmitOffset ≤ (config.getScheduleConfigStream a.streamId).latestTransmitOffset -
      (config.getScheduleConfigStream a.streamId).jitter

/-- **Termination**: every attempt of a run from the configuration of a project ends. -/
theorem terminates_of_attempts {fuel fuel' : ℕ} {project : Project}
    (hprepare : ScheduleConfig.prepareScheduleConfig fuel' project = .ok config)
    (hinterval : ∀ stream ∈ config.scheduleConfigStreams.vals, 0 < stream.interval)
    (ha : Attempts lib fuel config a) : Terminates lib config a where
  returns := ha.settles_or hprepare (config.interval_pos hinterval a.streamId)
  search fuel t s₀ hv hs hinit := by
    obtain ⟨s, hsv, hlast⟩ := ends_of_routingInit hinit
    have hfrom : SearchesFrom t s := ⟨hs, s₀, hinit, hsv⟩
    refine ⟨s, hfrom, ?_⟩
    cases hb : routingBody lib t.stream s with
    | next s' => exact absurd hb (hlast s')
    | done r =>
      cases exit_of_done hb with
      | empty hempty => exact .inl hempty
      | restart frame result offset message hplaces hne heq =>
        have hnn := heq ▸ considerQueueIsolation_nonneg lib result
          (considerLinkIsolation lib result t.stream.cycleTime s.config.reserveTime frame)
        exact .inr (.inl ⟨frame, result, offset, hfrom, hplaces, heq, by omega⟩)
    | stuck => exact .inr (.inr rfl)
  path fuel t s hv hs f hf := by
    have hinv : StreamInv config a t := .visits ha.inv.1 hv
    obtain ⟨s₀, hinit, hsv⟩ := hs.visits
    have hpath := onPath_of_visits hinit hsv f hf
    exact ⟨hpath.twice, fun hloopless => hpath.nodup (hinv.extends_config.loopless hloopless)⟩
  restart fuel t t' hv hb hseq := by
    have hinv : StreamInv config a t := .visits ha.inv.1 hv
    cases streamStep_of_next hb with
    | accept s hs ht' =>
      have hnn := hinv.sequenceId_nonneg
      rw [ht'] at hseq
      dsimp only at hseq
      omega
    | restart s frame result offset message hs ht' =>
      have hpos := hs.pos
      rw [ht']
      dsimp only
      omega
  transmitOffset fuel t hv hs :=
    (StreamInv.visits ha.inv.1 hv).transmitOffset_le hs (config.interval_pos hinterval a.streamId)

end

/-! ### A link that joins a device to itself -/

theorem terminates_of_attempts_oneCable :
    ∃ config, ScheduleConfig.prepareScheduleConfig 100 oneCable = .ok config ∧
      config.cycleTime = 1000000 ∧ Terminates .reference config ⟨1, 6, config, ∅⟩ := by
  obtain ⟨config, hprep, hcheck⟩ := exists_of_prepareScheduleConfig oneCable (fun config =>
    decide (config.sortScheduleConfigStreams .reference = some [1]) &&
    decide (pcpsOf .reference (config.getScheduleConfigStream 1) = [6]) &&
    decide (∀ stream ∈ config.scheduleConfigStreams.vals, 0 < stream.interval) &&
    decide (config.cycleTime = 1000000)) (by decide +kernel)
  simp only [Bool.and_eq_true, decide_eq_true_eq] at hcheck
  obtain ⟨⟨⟨hsort, hpcps⟩, hintv⟩, hcycle⟩ := hcheck
  have ha : Attempts .reference 100 config ⟨1, 6, config, ∅⟩ := attempts_of_single hsort hpcps
  exact ⟨config, hprep, hcycle, terminates_of_attempts hprep hintv ha⟩

/-- Two stations at a switch, and two more interfaces of the switch are joined by a link. -/
def selfLinked : Project :=
  { devices := [station 1 "a", station 2 "b", switch 3 "c" 4]
    links := [cable 1 1 3 1 1000, cable 2 2 3 2 1000,
      { id := 3
        speed := 1000
        sourceDeviceId := 3
        sourceInterfaceId := 3
        destinationDeviceId := 3
        destinationInterfaceId := 4 }]
    trafficDesign := trafficDesign [application 1 6 46 0 1000] [Sample.stream 1 1 [2]] }

/-- **A path with a loop**: a frame that has gone through that link waits at the switch again. -/
theorem not_nodup_path_selfLinked :
    ¬∀ (lib : Library) (fuel fuel' : ℕ) (project : Project) (config : ScheduleConfig),
      ScheduleConfig.prepareScheduleConfig fuel' project = .ok config →
      (∀ stream ∈ config.scheduleConfigStreams.vals, 0 < stream.interval) →
      ∀ stream (s : RoutingState lib), Searches fuel config stream s →
        ∀ f ∈ s.waiting, f.path.Nodup := by
  intro hall
  obtain ⟨config, hprep, hcheck⟩ := exists_of_prepareScheduleConfig selfLinked (fun config =>
    decide (config.sortScheduleConfigStreams .reference = some [1]) &&
    decide (pcpsOf .reference (config.getScheduleConfigStream 1) = [6]) &&
    decide (∀ stream ∈ config.scheduleConfigStreams.vals, 0 < stream.interval) &&
    (statesOfAttempt .reference 100 ⟨1, 6, config, ∅⟩).any fun p =>
      decide ¬∀ f ∈ p.2.waiting, f.path.Nodup) (by decide +kernel)
  simp only [Bool.and_eq_true, decide_eq_true_eq] at hcheck
  obtain ⟨⟨⟨hsort, hpcps⟩, hintv⟩, hcheck⟩ := hcheck
  obtain ⟨⟨stream, s⟩, hs, hcheck⟩ := any_eq_true.1 hcheck
  exact of_decide_eq_true hcheck (hall .reference 100 100 selfLinked config hprep hintv
    stream s (searches_of_mem_statesOfAttempt (attempts_of_single hsort hpcps) hs))

end Algorithm
end Sebastian

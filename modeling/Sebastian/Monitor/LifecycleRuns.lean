/-
# The runs of the monitor

What each of the three functions of `Monitor/Lifecycle.lean` leaves is said once
(`StartEnds`, `StopEnds`, `ReloadEnds`), with the states it passes through, and
what every call keeps is read off that (`Rests.step`).

After a panic behind `Stopping` the state stays `Stopping`, and no project can be
started any more (`not_lifecycle`).  A run in which no call ends that way is as
it should be (`lifecycle_iff`).
-/

import Sebastian.Monitor.Lifecycle

namespace Sebastian
namespace Monitor

open GoFunc

variable {status : Core.ProjectStatus} {I : MonitorState → Prop} {calls : StopCalls}

/-! ### The internal states -/

section
variable {m t : MonitorState} {p q : ℤ} {state : InternalState}

@[simp] theorem internalStateMap_setState :
    (m.setState p state).internalStateMap q = if q = p then some state else m.internalStateMap q :=
  rfl

@[simp] theorem projectStatus_setState : (m.setState p state).projectStatus = m.projectStatus := rfl

@[simp] theorem internalStateMap_setStatus :
    (m.setStatus p status).internalStateMap = m.internalStateMap := rfl

@[simp] theorem projectStatus_setStatus :
    (m.setStatus p status).projectStatus = Function.update m.projectStatus p status := rfl

/-- An internal state that is written over itself. -/
theorem setState_self (h : m.internalStateMap p = some state) : m.setState p state = m := by
  have hmap : m.internalStateMap.set p state = m.internalStateMap := by
    funext q
    rw [GoMap.set_apply]
    split_ifs with hq
    · rw [hq, h]
    · rfl
  unfold MonitorState.setState
  rw [hmap]

@[simp] theorem setState_setState {state' : InternalState} :
    (m.setState p state).setState p state' = m.setState p state' := by
  have hmap : (m.internalStateMap.set p state).set p state' = m.internalStateMap.set p state' := by
    funext q
    simp only [GoMap.set_apply]
    split_ifs <;> rfl
  unfold MonitorState.setState
  dsimp only
  rw [hmap]

theorem AtMostOneActive.congr (h : AtMostOneActive m)
    (hmap : t.internalStateMap = m.internalStateMap) : AtMostOneActive t := by
  rintro p q ⟨state, hp, hstate⟩ ⟨state', hq, hstate'⟩
  rw [hmap] at hp hq
  exact h p q ⟨state, hp, hstate⟩ ⟨state', hq, hstate'⟩

/-- **Where no other project is active**, the project may get any internal state. -/
theorem atMostOneActive_setState (h : ∀ q, Active m q → q = p) :
    AtMostOneActive (m.setState p state) := by
  have honly : ∀ q, Active (m.setState p state) q → q = p := by
    rintro q ⟨state', hq, hstate'⟩
    rw [internalStateMap_setState] at hq
    split_ifs at hq with hqp
    · exact hqp
    · exact h q ⟨state', hq, hstate'⟩
  intro q r hq hr
  rw [honly q hq, honly r hr]

theorem active_of_isMonitoringOrReloading
    (h : isMonitoringOrReloading (m.internalStateMap p) = true) : Active m p := by
  unfold isMonitoringOrReloading at h
  split at h
  · exact ⟨.running, ‹_›, nofun⟩
  · exact ⟨.reloading, ‹_›, nofun⟩
  · cases h

end

/-! ### What a call does -/

section
variable {m t : MonitorState} {p q : ℤ}

theorem atMostOneActive_setStatus (h : AtMostOneActive m) :
    AtMostOneActive (m.setStatus p status) := h.congr rfl

theorem meets_getInternalState_bind {ε α : Type}
    {f : Option InternalState → GoFunc ε MonitorState α} {Q : Ending ε α → MonitorState → Prop}
    (h : Meets (f (m.internalStateMap p)) m Q I) : Meets (getInternalState p >>= f) m Q I :=
      ⟨h.ends, h.visits⟩

/-- A status update: it is refused, or panics, or the project has the status. -/
theorem meets_updateProjectStatus {ending : Fallible} {template : String}
    {Q : Ending MonitorError Unit → MonitorState → Prop}
    (hreturned : ending = .returned () → Q (.returned ()) (m.setStatus p status))
    (hfailed : ∀ error, ending ≠ .returned () → Q (.failed error) m)
    (hpanicked : ending ≠ .returned () → Q .panicked m) (hI : I (m.setStatus p status)) :
    Meets (updateProjectStatus p status ending template) m Q I := by
  refine meets_call_bind (fun _ h => meets_write (hreturned h) hI) (fun res h => ?_) fun h => ?_
  · exact meets_fail_bind (hfailed _ (by rw [h]; exact nofun))
  · exact hpanicked (by rw [h]; exact nofun)

/-- What is read of the project, and what is done with it. -/
theorem meets_getProjectInfo_bind {α : Type} {ending : Fallible}
    {f : Core.ProjectStatus → MonitorFunc α} {Q : Ending MonitorError α → MonitorState → Prop}
    (hreturned : ending = .returned () → Meets (f (m.projectStatus p)) m Q I)
    (hfailed : ∀ error, ending ≠ .returned () → Q (.failed error) m)
    (hpanicked : ending ≠ .returned () → Q .panicked m) :
    Meets (getProjectInfo p ending >>= f) m Q I := by
  cases ending with
  | returned value => exact ⟨(hreturned rfl).ends, (hreturned rfl).visits⟩
  | failed res => exact ⟨hfailed _ nofun, fun _ ht => nomatch ht⟩
  | panicked => exact ⟨hpanicked nofun, fun _ ht => nomatch ht⟩

/-! #### `Start` -/

/-- **What `onStartMonitor` leaves.** -/
inductive StartEnds (m : MonitorState) (p : ℤ) (calls : StartCalls) : MonitorState → Prop
  | unchanged : StartEnds m p calls m
  | running : (∀ q, ¬Active m q) →
      StartEnds m p calls ((m.setStatus p .monitoring).setState p .running)
  | stopped : (∀ q, ¬Active m q) → calls.updateIdle ≠ .returned () →
      StartEnds m p calls ((m.setStatus p .monitoring).setState p .stopped)
  | idle : (∀ q, ¬Active m q) →
      StartEnds m p calls (((m.setStatus p .monitoring).setState p .stopped).setStatus p .idle)

theorem quiet_startSession (calls : StartCalls) : Quiet (startSession p calls) := by
  unfold startSession
  refine (quiet_call fun _ => quiet_fail).bind fun _ => ?_
  refine (quiet_call fun _ => quiet_fail).bind fun _ => ?_
  refine (quiet_call fun _ => quiet_fail).bind fun _ => ?_
  refine (quiet_call fun _ => quiet_fail).bind fun _ => ?_
  refine (quiet_call fun _ => quiet_fail).bind fun _ => ?_
  refine (quiet_call nofun).bind fun _ => ?_
  refine (quiet_call fun _ => quiet_fail).bind fun _ => ?_
  exact quiet_call fun _ => (quiet_call nofun).bind fun _ => quiet_fail

/-- What `updateProjectStatus` leaves: `a` where it returns, `b` where it does not. -/
def atReturn {ε α β : Type} (ending : Ending ε α) (a b : β) : β :=
  match ending with
  | .returned _ => a
  | _ => b

theorem meets_onStartMonitor (calls : StartCalls) (hm : AtMostOneActive m)
    (horder : m.internalStateMap.Ranges calls.order) :
    Meets (onStartMonitor p calls) m (fun _ => StartEnds m p calls) AtMostOneActive := by
  unfold onStartMonitor
  cases hfind : calls.order.find? fun entry => entry.2 ≠ .stopped with
  | some entry =>
    dsimp only
    split_ifs
    · exact meets_ret .unchanged
    · exact meets_fail .unchanged
  | none =>
    have hnone : ∀ q, ¬Active m q := by
      rintro q ⟨state, hq, hstate⟩
      have hmem := (horder.mem q state).2 hq
      have := List.find?_eq_none.1 hfind _ hmem
      exact this (by simpa using hstate)
    have hset : ∀ (status : Core.ProjectStatus) (state : InternalState),
        AtMostOneActive ((m.setStatus p status).setState p state) := fun status state =>
      atMostOneActive_setState fun q hq => absurd hq (hnone q)
    dsimp only
    refine meets_getProjectInfo_bind (fun _ => ?_) (fun _ _ => .unchanged) fun _ => .unchanged
    refine Meets.bind (Q := fun ending t => t = atReturn ending (m.setStatus p .monitoring) m)
      (meets_updateProjectStatus (fun _ => rfl) (fun _ _ => rfl) (fun _ => rfl)
        (atMostOneActive_setStatus hm)) ?_ (fun _ _ h => h ▸ .unchanged) fun _ h => h ▸ .unchanged
    rintro _ _ rfl
    refine meets_write_bind (hset _ _) ?_
    refine Meets.deferring (Q := fun ending t => ending ≠ .panicked ∧
        t = (m.setStatus p .monitoring).setState p .starting) (Meets.recovering
          (Q := fun _ t => t = (m.setStatus p .monitoring).setState p .starting)
          ((quiet_startSession calls).meets fun _ => rfl) (fun _ _ hne h => ⟨hne, h⟩)
          fun _ h => ⟨by rintro ⟨⟩, h⟩) ?_
    rintro ending _ ⟨hne, rfl⟩
    cases ending with
    | returned value =>
      refine meets_write ?_ ?_
      · rw [setState_setState]
        exact .running hnone
      · rw [setState_setState]
        exact hset _ _
    | failed error =>
      refine meets_write_bind ?_ ?_
      · rw [setState_setState]
        exact hset _ _
      · rw [setState_setState]
        exact meets_updateProjectStatus (fun _ => .idle hnone) (fun _ h => .stopped hnone h)
          (fun h => .stopped hnone h) (atMostOneActive_setStatus (hset _ _))
    | panicked => exact absurd rfl hne

/-! #### `Stop` -/

/-- The state with the status that the deferred function of `onStopMonitor` leaves: `Idle`, if
the project had been `Monitoring`. -/
def idled (m : MonitorState) (p : ℤ) (calls : StopCalls) (t : MonitorState) : MonitorState :=
  if m.projectStatus p = .monitoring ∧ calls.updateIdle = .returned () then t.setStatus p .idle
  else t

@[simp] theorem internalStateMap_idled :
    (idled m p calls t).internalStateMap = t.internalStateMap := by
  unfold idled
  split_ifs <;> rfl

/-- **What `onStopMonitor` leaves.** -/
inductive StopEnds (m : MonitorState) (p : ℤ) (calls : StopCalls) : MonitorState → Prop
  | unchanged : (¬calls.Strands m p) → StopEnds m p calls m
  | notRunning : isMonitoringOrReloading (m.internalStateMap p) = false →
      StopEnds m p calls (idled m p calls m)
  | stopped : isMonitoringOrReloading (m.internalStateMap p) = true → (¬calls.Strands m p) →
      StopEnds m p calls (idled m p calls (m.setState p .stopped))
  | stranded : calls.Strands m p → StopEnds m p calls (idled m p calls (m.setState p .stopping))

/-- The deferred function of `onStopMonitor`, where it looks at the status. -/
theorem meets_endStop (calls : StopCalls) (ending : Ending MonitorError Unit)
    (hending : ∀ error, ending = .failed error → error = .stopMonitorNotRunning)
    (ht : AtMostOneActive t) : Meets (endStop p (m.projectStatus p) calls ending) t
      (fun _ u => u = idled m p calls t) AtMostOneActive := by
  have hdone : Meets (if m.projectStatus p = .monitoring then
      updateProjectStatus p .idle calls.updateIdle
        "Failed to update project(%v) status to Idle: %v" else ret ()) t
      (fun _ u => u = idled m p calls t) AtMostOneActive := by
    unfold idled
    split_ifs with hst hboth hboth
    · exact meets_updateProjectStatus (fun _ => rfl) (fun _ h => absurd hboth.2 h)
        (fun h => absurd hboth.2 h) (atMostOneActive_setStatus ht)
    · exact meets_updateProjectStatus (fun h => absurd ⟨hst, h⟩ hboth) (fun _ _ => rfl)
        (fun _ => rfl) (atMostOneActive_setStatus ht)
    · exact absurd hboth.1 hst
    · exact meets_ret rfl
  cases ending with
  | returned value => exact hdone
  | failed error =>
    obtain rfl := hending error rfl
    exact hdone
  | panicked => exact hdone

/-- What `onStopMonitor` has done when its deferred function runs. -/
inductive SessionEnds (m : MonitorState) (p : ℤ) (calls : StopCalls) :
    Ending MonitorError Unit → MonitorState → Prop
  | notRunning : isMonitoringOrReloading (m.internalStateMap p) = false →
      SessionEnds m p calls (.failed .stopMonitorNotRunning) m
  | noManager (message : Message) : (¬calls.PanicsInside) →
      SessionEnds m p calls (.failed (.errorf message)) m
  | stopped : isMonitoringOrReloading (m.internalStateMap p) = true → (¬calls.PanicsInside) →
      SessionEnds m p calls (.returned ()) (m.setState p .stopped)
  | stranded : isMonitoringOrReloading (m.internalStateMap p) = true → calls.PanicsInside →
      SessionEnds m p calls .panicked (m.setState p .stopping)

theorem meets_endSession (calls : StopCalls) (hm : AtMostOneActive m) :
    Meets (endSession p calls) m (SessionEnds m p calls) AtMostOneActive := by
  refine meets_getInternalState_bind ?_
  cases horigin : m.internalStateMap p with
  | none => exact meets_fail (.notRunning (by rw [horigin]; rfl))
  | some originInternalState =>
    dsimp only
    by_cases hon : isMonitoringOrReloading (some originInternalState) = true
    · rw [if_neg (by simp [hon])]
      rw [← horigin] at hon
      have hset : ∀ state, AtMostOneActive (m.setState p state) := fun state =>
        atMostOneActive_setState fun q hq => hm q p hq (active_of_isMonitoringOrReloading hon)
      refine meets_write_bind (hset _) ?_
      refine meets_call_bind (fun _ hmanager => ?_) (fun _ hmanager => ?_)
        fun hmanager => .stranded hon (.inl hmanager)
      · have hinside : ∀ h, SessionEnds m p calls .panicked (m.setState p .stopping) :=
          fun h => .stranded hon (.inr ⟨hmanager, h⟩)
        refine meets_call_bind (fun _ hstop => ?_) nofun fun h => hinside (.inl h)
        refine meets_call_bind (fun _ hsubscribed => ?_) nofun fun h => hinside (.inr (.inl h))
        refine meets_call_bind (fun _ hclos => ?_) nofun fun h => hinside (.inr (.inr h))
        refine meets_write ?_ ?_
        · rw [setState_setState]
          refine .stopped hon ?_
          rintro (h | ⟨-, h | h | h⟩)
          · exact nomatch hmanager.symm.trans h
          · exact nomatch hstop.symm.trans h
          · exact nomatch hsubscribed.symm.trans h
          · exact nomatch hclos.symm.trans h
        · rw [setState_setState]
          exact hset _
      · have hback : ((m.setState p .stopping).setState p originInternalState) = m := by
          rw [setState_setState, setState_self horigin]
        refine Meets.bind (m := setInternalState p originInternalState >>= fun _ => fail _)
          (Q := fun ending t => SessionEnds m p calls ending t ∧ ∀ value, ending ≠ .returned value)
          (meets_write_bind ?_ ?_) (fun _ _ h => absurd rfl (h.2 _)) (fun _ _ h => h.1)
          fun _ h => h.1
        · rw [setState_setState]
          exact hset _
        · rw [hback]
          refine meets_fail ⟨.noManager _ ?_, nofun⟩
          rintro (h | ⟨h, -⟩)
          · exact nomatch hmanager.symm.trans h
          · exact nomatch hmanager.symm.trans h
    · rw [if_pos (by simp [hon])]
      exact meets_fail (.notRunning (by rw [horigin]; simpa using hon))

theorem meets_onStopMonitor (calls : StopCalls) (hm : AtMostOneActive m) :
    Meets (onStopMonitor p calls) m (fun _ => StopEnds m p calls) AtMostOneActive := by
  refine meets_getProjectInfo_bind (fun hinfo => ?_) (fun _ h => .unchanged fun hs => h hs.1)
    fun h => .unchanged fun hs => h hs.1
  have hset : isMonitoringOrReloading (m.internalStateMap p) = true → ∀ state,
      AtMostOneActive (m.setState p state) := fun hon _ =>
    atMostOneActive_setState fun q hq => hm q p hq (active_of_isMonitoringOrReloading hon)
  refine (meets_endSession calls hm).deferring ?_
  intro ending t hsession
  cases hsession with
  | notRunning hoff =>
    have hlast := meets_endStop (p := p) (m := m) calls (.failed .stopMonitorNotRunning)
      (fun _ h => (Ending.failed.inj h).symm) hm
    exact hlast.mono (fun _ u hu => hu ▸ .notRunning hoff) fun _ h => h
  | noManager message hinside => exact meets_ret (.unchanged fun hs => hinside hs.2.2)
  | stopped hon hinside =>
    have hlast := meets_endStop (p := p) (m := m) calls (.returned ()) nofun
      (hset hon .stopped)
    exact hlast.mono (fun _ u hu => hu ▸ .stopped hon fun hs => hinside hs.2.2) fun _ h => h
  | stranded hon hinside =>
    have hlast := meets_endStop (p := p) (m := m) calls .panicked nofun
      (hset hon .stopping)
    exact hlast.mono (fun _ u hu => hu ▸ .stranded ⟨hinfo, hon, hinside⟩) fun _ h => h

/-! #### `hotReloadMonitorSettings` -/

/-- **What a reload leaves**: what it found, unless it stops the monitor. -/
inductive ReloadEnds (m : MonitorState) (p : ℤ) (calls : HotReloadCalls) : MonitorState → Prop
  | unchanged : (¬(isMonitoring (m.internalStateMap p) = true ∧ calls.NeedsToStop)) →
      ReloadEnds m p calls m
  | stop {next : MonitorState} : isMonitoring (m.internalStateMap p) = true →
      calls.NeedsToStop → StopEnds m p calls.stop next → ReloadEnds m p calls next

/-- What a reload has done when its deferred function runs, apart from the internal state of
its project. -/
structure ReloadSession (m : MonitorState) (p : ℤ) (calls : HotReloadCalls)
    (status : HotReloadStatus) (t : MonitorState) : Prop where
  state : ∃ state, t = m.setState p state
  success : status = .success → t = m
  needToStop : status = .needToStop ↔
    isMonitoring (m.internalStateMap p) = true ∧ calls.NeedsToStop

theorem eq_running_of_isMonitoring (h : isMonitoring (m.internalStateMap p) = true) :
    m.internalStateMap p = some .running := by
  unfold isMonitoring at h
  split at h
  · assumption
  · cases h

theorem meets_reloadSession {calls : HotReloadCalls} {originInternalState : InternalState}
    (horigin : m.internalStateMap p = some originInternalState)
    (hcalls : calls.tryLock = true ∧ calls.ctxDone = false ∧ calls.hasBaseline = true)
    (hm : AtMostOneActive m) :
    Meets (reloadSession p calls) m (fun ending => ReloadSession m p calls (reloadStatus ending))
      AtMostOneActive := by
  unfold reloadSession
  cases hranges : calls.hasScanRanges with
  | false =>
    refine meets_fail ⟨⟨_, (setState_self horigin).symm⟩, nofun, nofun, ?_⟩
    rintro ⟨-, hneeds⟩
    exact nomatch hranges.symm.trans hneeds.1.2.2.2
  | true =>
    refine meets_getInternalState_bind ?_
    by_cases hon : isMonitoring (m.internalStateMap p) = true
    · rw [hon]
      have hrunning := eq_running_of_isMonitoring hon
      have hset : AtMostOneActive (m.setState p .reloading) :=
        atMostOneActive_setState fun q hq => hm q p hq ⟨_, hrunning, nofun⟩
      have hstays : ∀ status, status ≠ .success →
          (status = .needToStop ↔ calls.NeedsToStop) →
          ReloadSession m p calls status (m.setState p .reloading) := fun status hne hiff =>
        ⟨⟨_, rfl⟩, fun h => absurd h hne, by rw [hiff, and_iff_right hon]⟩
      have hguards : calls.tryLock = true ∧ calls.ctxDone = false ∧ calls.hasBaseline = true ∧
          calls.hasScanRanges = true := ⟨hcalls.1, hcalls.2.1, hcalls.2.2, hranges⟩
      refine meets_write_bind hset ?_
      refine meets_call_bind (fun _ hmanager => ?_)
        (fun _ h => meets_fail_bind (hstays .unknown nofun
          ⟨nofun, fun hneeds => nomatch h.symm.trans hneeds.2.1⟩))
        fun h => hstays .unknown nofun ⟨nofun, fun hneeds => nomatch h.symm.trans hneeds.2.1⟩
      refine meets_call_bind (fun _ hupd => ?_)
        (fun res h => meets_fail_bind (hstays .needToStop nofun
          (iff_of_true rfl ⟨hguards, hmanager, .inl ⟨res, h⟩⟩)))
        fun h => hstays .unknown nofun ⟨nofun, ?_⟩
      · refine meets_call_bind (fun _ hproj => ?_)
          (fun res h => meets_fail_bind (hstays .needToStop nofun
            (iff_of_true rfl ⟨hguards, hmanager, .inr ⟨hupd, .inl ⟨res, h⟩⟩⟩)))
          fun h => hstays .unknown nofun ⟨nofun, ?_⟩
        · have hlast : calls.NeedsToStop → calls.stopMonitor = .returned () ∧
              calls.reset = .returned () ∧ ∃ err, calls.startMonitor = .failed err := by
            rintro ⟨-, -, ⟨res, h⟩ | ⟨-, ⟨res, h⟩ | ⟨-, h⟩⟩⟩
            · exact nomatch hupd.symm.trans h
            · exact nomatch hproj.symm.trans h
            · exact h
          refine meets_call_bind (fun _ hstop => ?_) nofun fun h => hstays .unknown nofun
            ⟨nofun, fun hneeds => nomatch h.symm.trans (hlast hneeds).1⟩
          refine meets_call_bind (fun _ hreset => ?_) nofun fun h => hstays .unknown nofun
            ⟨nofun, fun hneeds => nomatch h.symm.trans (hlast hneeds).2.1⟩
          refine meets_call_bind (fun _ hstart => ?_)
            (fun err h => meets_fail_bind (hstays .needToStop nofun (iff_of_true rfl
              ⟨hguards, hmanager, .inr ⟨hupd, .inr ⟨hproj, hstop, hreset, err, h⟩⟩⟩)))
            fun h => hstays .unknown nofun ⟨nofun, fun hneeds => ?_⟩
          · have hback : (m.setState p .reloading).setState p .running = m := by
              rw [setState_setState, setState_self hrunning]
            refine meets_write_bind ?_ ?_
            · rw [hback]
              exact hm
            · rw [hback]
              refine meets_ret ⟨⟨_, (setState_self horigin).symm⟩, fun _ => rfl, nofun, ?_⟩
              rintro ⟨-, hneeds⟩
              obtain ⟨err, h⟩ := (hlast hneeds).2.2
              exact nomatch hstart.symm.trans h
          · obtain ⟨err, h'⟩ := (hlast hneeds).2.2
            exact nomatch h.symm.trans h'
        · rintro ⟨-, -, ⟨res, h'⟩ | ⟨-, ⟨res, h'⟩ | ⟨h', -⟩⟩⟩
          · exact nomatch hupd.symm.trans h'
          · exact nomatch h.symm.trans h'
          · exact nomatch h.symm.trans h'
      · rintro ⟨-, -, ⟨res, h'⟩ | ⟨h', -⟩⟩
        · exact nomatch h.symm.trans h'
        · exact nomatch h.symm.trans h'
    · rw [Bool.eq_false_of_not_eq_true hon]
      exact meets_fail ⟨⟨_, (setState_self horigin).symm⟩, nofun, nofun, fun h => absurd h.1 hon⟩

theorem meets_endReload {calls : HotReloadCalls} {originInternalState : InternalState}
    {ending : Ending (HotReloadStatus × MonitorError) HotReloadStatus}
    (horigin : m.internalStateMap p = some originInternalState) (hm : AtMostOneActive m)
    (h : ReloadSession m p calls (reloadStatus ending) t) :
    Meets (endReload p originInternalState calls.stop ending) t (fun _ => ReloadEnds m p calls)
      AtMostOneActive := by
  obtain ⟨state, rfl⟩ := h.state
  have hback : (m.setState p state).setState p originInternalState = m := by
    rw [setState_setState, setState_self horigin]
  unfold endReload
  cases hst : reloadStatus ending with
  | unknown =>
    refine meets_write ?_ ?_
    · rw [hback]
      exact .unchanged fun hneeds => nomatch hst.symm.trans (h.needToStop.2 hneeds)
    · rw [hback]
      exact hm
  | needToStop =>
    obtain ⟨hon, hneeds⟩ := h.needToStop.1 hst
    refine meets_write_bind ?_ ?_
    · rw [hback]
      exact hm
    · rw [hback]
      exact (meets_onStopMonitor calls.stop hm).mono (fun _ _ hends => .stop hon hneeds hends)
        fun _ h => h
  | success =>
    refine meets_ret ?_
    rw [h.success hst]
    exact .unchanged fun hneeds => nomatch hst.symm.trans (h.needToStop.2 hneeds)

theorem meets_hotReloadMonitorSettings (calls : HotReloadCalls) (hm : AtMostOneActive m) :
    Meets (hotReloadMonitorSettings p calls) m (fun _ => ReloadEnds m p calls) AtMostOneActive := by
  unfold hotReloadMonitorSettings
  cases htry : calls.tryLock with
  | false =>
    exact meets_fail (.unchanged fun hneeds => nomatch htry.symm.trans hneeds.2.1.1)
  | true =>
    cases hctx : calls.ctxDone with
    | true =>
      exact meets_fail (.unchanged fun hneeds => nomatch hctx.symm.trans hneeds.2.1.2.1)
    | false =>
      refine meets_getInternalState_bind ?_
      cases horigin : m.internalStateMap p with
      | none =>
        refine meets_fail (.unchanged fun hneeds => ?_)
        exact nomatch horigin.symm.trans (eq_running_of_isMonitoring hneeds.1)
      | some originInternalState =>
        dsimp only
        cases hbase : calls.hasBaseline with
        | false =>
          exact meets_fail (.unchanged fun hneeds => nomatch hbase.symm.trans hneeds.2.1.2.2.1)
        | true =>
          have hsession := meets_reloadSession horigin ⟨htry, hctx, hbase⟩ hm
          have hrecovered : Meets (recovering (reloadSession p calls) (.returned .unknown)) m
              (fun ending => ReloadSession m p calls (reloadStatus ending)) AtMostOneActive :=
            hsession.recovering (fun _ _ _ h => h) fun _ h => h
          exact hrecovered.deferring fun _ _ h => meets_endReload horigin hm h

/-! #### One call -/

theorem meets_start (calls : StartCalls) (hm : AtMostOneActive m)
    (horder : m.internalStateMap.Ranges calls.order) :
    Meets (start p calls) m (fun _ => StartEnds m p calls) AtMostOneActive := by
  unfold start
  split_ifs
  · exact meets_fail .unchanged
  · split
    · exact meets_onStartMonitor calls hm horder
    · exact meets_fail .unchanged
    · exact meets_fail .unchanged
    · exact meets_fail .unchanged

/-- **What `Stop` leaves.** -/
inductive StopCallEnds (m : MonitorState) (p : ℤ) (tryLock : TryLock) (calls : StopCalls) :
    MonitorState → Prop
  | refused : (¬(0 < p ∧ tryLock = .acquired)) → StopCallEnds m p tryLock calls m
  | ran {next : MonitorState} : 0 < p → tryLock = .acquired → StopEnds m p calls next →
      StopCallEnds m p tryLock calls next

theorem meets_stop (tryLock : TryLock) (calls : StopCalls) (hm : AtMostOneActive m) :
    Meets (stop p tryLock calls) m (fun _ => StopCallEnds m p tryLock calls) AtMostOneActive := by
  unfold stop
  split_ifs with hp
  · exact meets_fail (.refused fun h => by omega)
  · split
    · exact (meets_onStopMonitor calls hm).mono (fun _ _ h => .ran (by omega) rfl h) fun _ h => h
    · exact meets_fail (.refused fun h => nomatch h.2)
    · exact meets_fail (.refused fun h => nomatch h.2)

/-! ### What every call keeps -/

/-- The internal states between two calls, after a panic as well. -/
structure Rests (m : MonitorState) : Prop where
  atMostOne : AtMostOneActive m
  states : ∀ p state, m.internalStateMap p = some state →
    state = .stopped ∨ state = .running ∨ state = .stopping

theorem Settled.rests (hm : Settled m) (hone : AtMostOneActive m) : Rests m :=
  ⟨hone, fun p state h => by rcases hm p state h with h | h <;> simp [h]⟩

/-- Between two calls what is not stopped and not in the middle of stopping is running. -/
theorem Rests.running (h : Rests m) (hon : isMonitoringOrReloading (m.internalStateMap p) = true) :
    m.internalStateMap p = some .running := by
  unfold isMonitoringOrReloading at hon
  split at hon
  · assumption
  · rename_i hp
    rcases h.states p _ hp with h | h | h <;> cases h
  · cases hon

/-- A project gets one of the three states, and no other is active. -/
theorem Rests.setState (h : Rests m) {state : InternalState} (hother : ∀ q, Active m q → q = p)
    (hstate : state = .stopped ∨ state = .running ∨ state = .stopping) :
    Rests (m.setState p state) := by
  refine ⟨atMostOneActive_setState hother, fun q state' hq => ?_⟩
  rw [internalStateMap_setState] at hq
  split_ifs at hq
  · rwa [← Option.some.inj hq]
  · exact h.states q state' hq

theorem Rests.congr (h : Rests m) (hmap : t.internalStateMap = m.internalStateMap) : Rests t :=
  ⟨h.atMostOne.congr hmap, by rw [hmap]; exact h.states⟩

theorem Settled.congr (h : Settled m) (hmap : t.internalStateMap = m.internalStateMap) :
    Settled t := by
  unfold Settled
  rw [hmap]
  exact h

theorem Settled.setState (h : Settled m) {state : InternalState}
    (hstate : state = .stopped ∨ state = .running) : Settled (m.setState p state) := by
  intro q state' hq
  rw [internalStateMap_setState] at hq
  split_ifs at hq
  · rwa [← Option.some.inj hq]
  · exact h q state' hq

theorem not_settled_stopping : ¬Settled (m.setState p .stopping) := by
  intro h
  rcases h p .stopping (by rw [internalStateMap_setState, if_pos rfl]) with h | h <;> cases h

/-- **In step after a write on both sides**: the project is `Monitoring` as it is `Running`. -/
theorem InStep.set (h : InStep m) {state : InternalState}
    (hiff : status = .monitoring ↔ state = .running) :
    InStep ((m.setStatus p status).setState p state) := by
  intro q
  rw [internalStateMap_setState, projectStatus_setState]
  by_cases hq : q = p
  · subst hq
    rw [if_pos rfl, Option.some.injEq]
    rw [projectStatus_setStatus, Function.update_self]
    exact hiff
  · rw [if_neg hq]
    rw [projectStatus_setStatus, Function.update_of_ne hq]
    exact h q

theorem setStatus_setState {state : InternalState} :
    (m.setState p state).setStatus p status = (m.setStatus p status).setState p state := rfl

@[simp] theorem setStatus_setStatus {status' : Core.ProjectStatus} :
    (m.setStatus p status).setStatus p status' = m.setStatus p status' := by
  unfold MonitorState.setStatus
  rw [Function.update_idem]

/-! #### `Start` -/

theorem StartEnds.rests {calls : StartCalls} (h : StartEnds m p calls t) (hm : Rests m) :
    Rests t := by
  have hst : Rests (m.setStatus p .monitoring) := hm.congr rfl
  cases h with
  | unchanged => exact hm
  | running hnone => exact hst.setState (fun q hq => absurd hq (hnone q)) (.inr (.inl rfl))
  | stopped hnone _ => exact hst.setState (fun q hq => absurd hq (hnone q)) (.inl rfl)
  | idle hnone => exact (hst.setState (fun q hq => absurd hq (hnone q)) (.inl rfl)).congr rfl

theorem StartEnds.settled {calls : StartCalls} (h : StartEnds m p calls t) (hm : Settled m) :
    Settled t := by
  have hst : Settled (m.setStatus p .monitoring) := hm.congr rfl
  cases h with
  | unchanged => exact hm
  | running _ => exact hst.setState (.inr rfl)
  | stopped _ _ => exact hst.setState (.inl rfl)
  | idle _ => exact (hst.setState (.inl rfl)).congr rfl

theorem StartEnds.inStep {calls : StartCalls} (h : StartEnds m p calls t)
    (hidle : calls.updateIdle = .returned ()) (hm : InStep m) : InStep t := by
  cases h with
  | unchanged => exact hm
  | running _ => exact hm.set (by simp)
  | stopped _ hne => exact absurd hidle hne
  | idle _ =>
    rw [setStatus_setState, setStatus_setStatus]
    exact hm.set (by simp)

/-! #### `onStopMonitor` -/

theorem StopEnds.rests (h : StopEnds m p calls t) (hm : Rests m) : Rests t := by
  cases h with
  | unchanged _ => exact hm
  | notRunning _ => exact hm.congr internalStateMap_idled
  | stopped hon _ =>
    refine (hm.setState (fun q hq => ?_) (.inl rfl)).congr internalStateMap_idled
    exact hm.atMostOne q p hq (active_of_isMonitoringOrReloading hon)
  | stranded hs =>
    refine (hm.setState (fun q hq => ?_) (.inr (.inr rfl))).congr internalStateMap_idled
    exact hm.atMostOne q p hq (active_of_isMonitoringOrReloading hs.2.1)

theorem StopEnds.settled_iff (h : StopEnds m p calls t) (hm : Settled m) :
    Settled t ↔ ¬calls.Strands m p := by
  cases h with
  | unchanged hs => exact iff_of_true hm hs
  | notRunning hoff =>
    refine iff_of_true (hm.congr internalStateMap_idled) fun hs => ?_
    exact nomatch hoff.symm.trans hs.2.1
  | stopped _ hs => exact iff_of_true ((hm.setState (.inl rfl)).congr internalStateMap_idled) hs
  | stranded hs =>
    refine iff_of_false (fun ht => ?_) (not_not_intro hs)
    exact not_settled_stopping (ht.congr internalStateMap_idled.symm)

theorem StopEnds.inStep (h : StopEnds m p calls t) (hrests : Rests m)
    (hidle : calls.updateIdle = .returned ()) (hm : InStep m) : InStep t := by
  have hon : isMonitoringOrReloading (m.internalStateMap p) = true → ∀ state, state ≠ .running →
      InStep (idled m p calls (m.setState p state)) := by
    intro hon state hstate
    unfold idled
    rw [if_pos ⟨(hm p).2 (hrests.running hon), hidle⟩, setStatus_setState]
    exact hm.set (iff_of_false nofun hstate)
  cases h with
  | unchanged _ => exact hm
  | notRunning hoff =>
    unfold idled
    rw [if_neg]
    · exact hm
    · rintro ⟨hst, -⟩
      rw [(hm p).1 hst] at hoff
      cases hoff
  | stopped hmonitoring _ => exact hon hmonitoring _ nofun
  | stranded hs => exact hon hs.2.1 _ nofun

/-! #### Any call -/

/-- **One call.**  It passes through states with at most one active project, rests, settles
unless it strands its project, and stays in step. -/
theorem Rests.step {called : MonitorCall} (hm : Rests m) (hstep : MonitorStep m called t) :
    (∀ u ∈ called.visited m, AtMostOneActive u) ∧ Rests t ∧
      (Settled m → (Settled t ↔ ¬called.Strands m)) ∧
      (called.UpdatesSucceed → InStep m → InStep t) := by
  obtain ⟨hwalks, hnext⟩ := hstep
  cases called with
  | start p calls =>
    have hcall := meets_start (p := p) calls hm.atMostOne hwalks
    have hends : StartEnds m p calls t := by
      rw [hnext]
      exact hcall.ends
    exact ⟨hcall.visits, hends.rests hm, fun hs => iff_of_true (hends.settled hs) not_false,
      fun hu hs => hends.inStep hu.2 hs⟩
  | stop p tryLock calls =>
    have hcall := meets_stop (p := p) tryLock calls hm.atMostOne
    have hends : StopCallEnds m p tryLock calls t := by
      rw [hnext]
      exact hcall.ends
    refine ⟨hcall.visits, ?_⟩
    cases hends with
    | refused hrefused =>
      exact ⟨hm, fun hs => iff_of_true hs fun h => hrefused ⟨h.1, h.2.1⟩, fun _ hs => hs⟩
    | ran hp hlock hends =>
      refine ⟨hends.rests hm, fun hs => (hends.settled_iff hs).trans (not_congr ?_),
        fun hu hs => hends.inStep hm hu hs⟩
      exact ⟨fun h => ⟨hp, hlock, h⟩, fun h => h.2.2⟩
  | hotReload p calls =>
    have hcall := meets_hotReloadMonitorSettings (p := p) calls hm.atMostOne
    have hends : ReloadEnds m p calls t := by
      rw [hnext]
      exact hcall.ends
    refine ⟨hcall.visits, ?_⟩
    cases hends with
    | unchanged hneeds =>
      exact ⟨hm, fun hs => iff_of_true hs fun h => hneeds ⟨h.1, h.2.1⟩, fun _ hs => hs⟩
    | stop hon hneeds hends =>
      refine ⟨hends.rests hm, fun hs => (hends.settled_iff hs).trans (not_congr ?_),
        fun hu hs => hends.inStep hm hu hs⟩
      exact ⟨fun h => ⟨hon, hneeds, h⟩, fun h => h.2.2⟩

/-! ### Runs -/

theorem Fresh.settled (hm : Fresh m) : Settled m := by
  intro p state hp
  rw [hm.internalStateMap] at hp
  cases hp

theorem Fresh.rests (hm : Fresh m) : Rests m := by
  refine hm.settled.rests ?_
  rintro p q ⟨state, hp, -⟩ -
  rw [hm.internalStateMap] at hp
  cases hp

theorem Fresh.inStep (hm : Fresh m) : InStep m := by
  intro p
  rw [hm.internalStateMap]
  exact iff_of_false (hm.projectStatus p) nofun

/-- **The lifecycle of the monitor.**  Whatever the calls inside answer, and in whatever order
the three functions are called, a run from the start is as it should be exactly when no call
strands its project. -/
theorem lifecycle_iff (m : MonitorState) (hm : Fresh m)
    (run : List (MonitorCall × MonitorState)) (hrun : Along MonitorStep m run) :
    Lifecycle m run ↔ Along (fun m called _ => ¬called.Strands m) m run := by
  have hrests := hrun.rule hm.rests fun _ _ _ hstep hs => (hs.step hstep).2.1
  have hsettled : (∀ t ∈ statesOfRun m run, Settled t) ↔
      Along (fun m called _ => ¬called.Strands m) m run := by
    refine hrun.iff_along (I := fun m => Rests m ∧ Settled m) ⟨hm.rests, hm.settled⟩
      (fun _ h => h.2) ?_ ?_
    · rintro s called t hstep ⟨hs, hset⟩ hok
      exact ⟨(hs.step hstep).2.1, ((hs.step hstep).2.2.1 hset).2 hok⟩
    · rintro s called t hstep ⟨hs, hset⟩ ht
      exact ((hs.step hstep).2.2.1 hset).1 ht
  refine ⟨fun h => hsettled.1 h.settled, fun h => ?_⟩
  refine ⟨fun t ht => (hrests t ht).atMostOne, ?_, hsettled.2 h, fun hupdates => ?_⟩
  · exact hrun.mono_states hrests fun _ _ _ hs hstep => (hs.step hstep).1
  · have hboth := Along.and_iff.2 ⟨hrun, hupdates⟩
    have hrule := hboth.rule (I := fun m => Rests m ∧ InStep m) ⟨hm.rests, hm.inStep⟩ ?_
    · exact fun t ht => (hrule t ht).2
    · rintro s called t ⟨hstep, hupd⟩ ⟨hs, hin⟩
      exact ⟨(hs.step hstep).2.1, (hs.step hstep).2.2.2 hupd hin⟩

end

/-! ### A start and a stop -/

/-- A monitor that has just been made. -/
def newMonitor : MonitorState where
  internalStateMap := .empty
  projectStatus := fun _ => .idle

theorem fresh_newMonitor : Fresh newMonitor := ⟨rfl, fun _ => nofun⟩

/-- `StartMonitor` of project 1, in which everything succeeds. -/
def startOne : MonitorCall := .start 1 { order := [] }

/-- `StartMonitor` and then `StopMonitor` of project 1. -/
def startStop (calls : StopCalls) : List (MonitorCall × MonitorState) :=
  runOf (fun m called => called.after m) newMonitor [startOne, .stop 1 .acquired calls]

theorem along_startStop (calls : StopCalls) : Along MonitorStep newMonitor (startStop calls) :=
  ⟨⟨⟨List.nodup_nil, fun _ _ => ⟨nofun, nofun⟩⟩, rfl⟩, ⟨trivial, rfl⟩, trivial⟩

theorem not_strands_stop (m : MonitorState) : ¬(MonitorCall.stop 1 .acquired {}).Strands m := by
  rintro ⟨-, -, -, -, h | ⟨-, h | h | h⟩⟩ <;> cases h

theorem lifecycle_iff_startStop : Fresh newMonitor ∧
    Along MonitorStep newMonitor (startStop {}) ∧ Lifecycle newMonitor (startStop {}) :=
  ⟨fresh_newMonitor, along_startStop {},
    (lifecycle_iff newMonitor fresh_newMonitor (startStop {}) (along_startStop {})).2
      ⟨not_false, not_strands_stop _, trivial⟩⟩

/-- **A network manager that panics in `StopMonitor`** leaves the project in `Stopping`. -/
theorem not_lifecycle : ¬∀ m, Fresh m → ∀ run, Along MonitorStep m run → Lifecycle m run := by
  intro h
  have hrun := h newMonitor fresh_newMonitor (startStop { stopMonitor := .panicked })
    (along_startStop _)
  have hstate := hrun.settled _ (List.mem_cons_of_mem _ (List.mem_cons_of_mem _
    List.mem_cons_self)) 1 .stopping rfl
  rcases hstate with h | h <;> cases h

/-! ### The status in core -/

end Monitor
end Sebastian

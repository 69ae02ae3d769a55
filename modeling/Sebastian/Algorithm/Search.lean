/-
# One search

What a round of `ComputeScheduleStreamRouting` can do (`Round`): receive a frame,
drop one, or send one on.  From it follows what holds in every state of a search
(`SearchInv`): the frames that wait and the frames that are stored have ids of
their own, what was stored before stays, and every frame but the talker's goes
back to a stored one (`Linked`), whose dequeue time and delay give its enqueue
time.
-/

import Sebastian.Algorithm.ScheduleStream

namespace Sebastian
namespace Algorithm

open Feasibility Multiset Option

variable {lib : Library}

/-! ### Pushing the copies of a frame -/

/-- The frames that wait in the search. -/
def RoutingState.waiting (s : RoutingState lib) : Multiset Frame :=
  (lib.queue Frame.cost).elems s.queue

/-- The loop over the interfaces of the next device pushes one copy for each,
with fresh ids. -/
theorem exists_children {config : ScheduleConfig} {next : Frame}
    {interfaces : List ScheduleConfigInterface} {acc acc' : (lib.queue Frame.cost).Carrier × ℤ}
    (h : List.foldlM (pushFrame config next) acc interfaces = some acc') : ∃ children : List Frame,
      (lib.queue Frame.cost).elems acc'.1 =
        (children : Multiset Frame) + (lib.queue Frame.cost).elems acc.1 ∧
      acc.2 ≤ acc'.2 ∧ (children.map Frame.frameId).Nodup ∧
      (∀ child ∈ children, acc.2 < child.frameId ∧ child.frameId ≤ acc'.2 ∧
        ∃ interface ∈ interfaces, ∃ duration,
          config.computeStreamDuration next.streamId interface.linkId = some duration ∧
          child = childFrame next interface duration child.frameId) ∧
      ∀ interface ∈ interfaces, ∃ child ∈ children, ∃ duration,
        child = childFrame next interface duration child.frameId := by
  induction interfaces generalizing acc with
  | nil =>
    cases h
    exact ⟨[], by simp, le_rfl, by simp, by simp, by simp⟩
  | cons interface interfaces ih =>
    rw [List.foldlM_cons] at h
    obtain ⟨middle, hpush, h⟩ := bind_eq_some_iff.1 h
    obtain ⟨duration, hdur, hpush⟩ := bind_eq_some_iff.1 hpush
    cases hpush
    obtain ⟨children, helems, hle, hnodup, hchildren, hall⟩ := ih h
    dsimp only at helems hle hchildren
    refine ⟨childFrame next interface duration (acc.2 + 1) :: children, ?_, by omega, ?_, ?_, ?_⟩
    · rw [helems, (lib.queue Frame.cost).elems_push, ← cons_coe, cons_add,
        add_cons]
    · rw [List.map_cons, List.nodup_cons]
      refine ⟨fun hmem => ?_, hnodup⟩
      obtain ⟨child, hchild, hid⟩ := List.mem_map.1 hmem
      have hlt := (hchildren child hchild).1
      rw [hid] at hlt
      exact absurd hlt (lt_irrefl _)
    · intro child hchild
      rcases List.mem_cons.1 hchild with rfl | hchild
      · exact ⟨by simp [childFrame], hle, interface, List.mem_cons_self, duration, hdur, rfl⟩
      · obtain ⟨hlt, hle', i, hi, hcopy⟩ := hchildren child hchild
        exact ⟨by omega, hle', i, List.mem_cons_of_mem _ hi, hcopy⟩
    · intro i hi
      rcases List.mem_cons.1 hi with rfl | hi
      · exact ⟨_, List.mem_cons_self, duration, rfl⟩
      · obtain ⟨child, hchild, hcopy⟩ := hall i hi
        exact ⟨child, List.mem_cons_of_mem _ hchild, hcopy⟩

/-- **Sending a frame on**: it is stored, and a copy waits for each interface of
the next device. -/
theorem exists_of_forwardFrame {s s' : RoutingState lib} {frame : Frame}
    (h : forwardFrame s frame = some s') :
    ∃ totalDelay, s.config.computeTotalDelay frame.deviceId frame.egressInterfaceId frame.streamId =
        some totalDelay ∧
      s'.config = s.config ∧ s'.result = s.result.setScheduleResult frame ∧
      s'.isListenerArrived = s.isListenerArrived ∧ s'.errorMsg = s.errorMsg ∧
      s.frameId ≤ s'.frameId ∧
      ∃ children : List Frame, s'.waiting = (children : Multiset Frame) + s.waiting ∧
        (children.map Frame.frameId).Nodup ∧
        (∀ child ∈ children, s.frameId < child.frameId ∧ child.frameId ≤ s'.frameId ∧
          ∃ interface ∈ s.config.interfacesAt (nextFrame s.config totalDelay frame).deviceId,
            ∃ duration, s.config.computeStreamDuration frame.streamId interface.linkId =
                some duration ∧
              child = childFrame (nextFrame s.config totalDelay frame) interface duration
                child.frameId) ∧
        ∀ interface ∈ s.config.interfacesAt (nextFrame s.config totalDelay frame).deviceId,
          ∃ child ∈ children, ∃ duration,
            child = childFrame (nextFrame s.config totalDelay frame) interface duration
              child.frameId := by
  simp only [forwardFrame] at h
  obtain ⟨totalDelay, hdelay, h⟩ := bind_eq_some_iff.1 h
  obtain ⟨⟨queue, frameId⟩, hpush, h⟩ := bind_eq_some_iff.1 h
  cases h
  obtain ⟨children, helems, hle, hnodup, hchildren, hall⟩ := exists_children hpush
  exact ⟨totalDelay, hdelay, rfl, rfl, rfl, rfl, hle, children, helems, hnodup, hchildren, hall⟩

/-! ### A round -/

/-- Why a frame is dropped: it arrived out of time, its way would come back to a
device, a device lacks a feature, or a list or queue is full.  Only the first
and the last leave an error. -/
inductive Dropped (stream : ScheduleStream) (s : RoutingState lib) (frame : Frame) : Status → Prop
  | receiveOffset {errorMsg : Status} : hasArrived s.config stream frame = true →
      errorMsg ≠ .success → Dropped stream s frame errorMsg
  | duplicated : hasArrived s.config stream frame = false →
      checkRoutingPathDuplicated frame s.config ≠ .success → Dropped stream s frame s.errorMsg
  | feature {status : Status} : hasArrived s.config stream frame = false →
      checkDeviceFeature frame s.config = some status → status ≠ .success →
      Dropped stream s frame s.errorMsg
  | full {errorMsg : Status} : hasArrived s.config stream frame = false →
      errorMsg ≠ .success → Dropped stream s frame errorMsg

/-- The next frame of `s` is received: it has arrived at a listener, in time. -/
structure Receives (stream : ScheduleStream) (s : RoutingState lib) (frame : Frame) : Prop where
  pop : ∃ queue, (lib.queue Frame.cost).pop s.queue = some (frame, queue)
  arrived : hasArrived s.config stream frame = true
  offset : checkReceiveOffset frame s.config = .success

/-- A frame reaches its placement: it has not arrived, its way is new, and the
devices have the features it needs. -/
structure Admitted (stream : ScheduleStream) (config : ScheduleConfig) (frame : Frame) : Prop where
  notArrived : hasArrived config stream frame = false
  path : checkRoutingPathDuplicated frame config = .success
  feature : checkDeviceFeature frame config = some .success

/-- A frame is taken from the queue of `s` and placed in `result`, the schedule
of `s` with the queues that were asked for. -/
structure Places (stream : ScheduleStream) (s : RoutingState lib) (frame : Frame)
    (result : ScheduleResult) : Prop where
  pop : ∃ queue, (lib.queue Frame.cost).pop s.queue = some (frame, queue)
  admitted : Admitted stream s.config frame
  check : checkGateControlListLength frame s.result s.config = (.success, result)

/-- What a round of the search does. -/
inductive Round (stream : ScheduleStream) (s s' : RoutingState lib) : Prop
  | receive (frame : Frame) : Receives stream s frame → s.waiting = frame ::ₘ s'.waiting →
      s'.frameId = s.frameId → s'.config = s.config →
      s'.result = s.result.setScheduleResult frame → s'.isListenerArrived = true →
      s'.errorMsg = s.errorMsg → Round stream s s'
  | drop (frame : Frame) : s.waiting = frame ::ₘ s'.waiting →
      s'.frameId = s.frameId → s'.config = touched s.config stream frame →
      (∀ key, s'.result.lookup key = s.result.lookup key) →
      s'.isListenerArrived = s.isListenerArrived →
      Dropped stream s frame s'.errorMsg → Round stream s s'
  | send (frame placed : Frame) (result : ScheduleResult) (totalDelay : ℤ)
      (children : List Frame) :
      Places stream s frame result →
      placed = considerLinkIsolation lib result stream.cycleTime s.config.reserveTime frame →
      considerQueueIsolation lib result placed = 0 →
      s'.config = s.config.touchInterface frame.deviceId frame.egressInterfaceId →
      s.config.computeTotalDelay frame.deviceId frame.egressInterfaceId frame.streamId =
        some totalDelay →
      (∀ key, s'.result.lookup key = (s.result.setScheduleResult placed).lookup key) →
      s'.isListenerArrived = s.isListenerArrived → s'.errorMsg = s.errorMsg →
      s.frameId ≤ s'.frameId →
      frame ::ₘ s'.waiting = (children : Multiset Frame) + s.waiting →
      (children.map Frame.frameId).Nodup →
      (∀ child ∈ children, s.frameId < child.frameId ∧ child.frameId ≤ s'.frameId ∧
        ∃ interface ∈ s'.config.interfacesAt (nextFrame s.config totalDelay placed).deviceId,
          ∃ duration, s.config.computeStreamDuration frame.streamId interface.linkId =
              some duration ∧
            child = childFrame (nextFrame s.config totalDelay placed) interface duration
              child.frameId) →
      (∀ interface ∈ s'.config.interfacesAt (nextFrame s.config totalDelay placed).deviceId,
        ∃ child ∈ children, ∃ duration,
          child = childFrame (nextFrame s.config totalDelay placed) interface duration
            child.frameId) →
      Round stream s s'

/-- How the search is left. -/
inductive Exit (stream : ScheduleStream) (s : RoutingState lib) : RoutingExit → Prop
  /-- No frame waits any more. -/
  | empty : s.waiting = 0 →
      Exit stream s (if s.isListenerArrived then .success else s.errorMsg, stream, s.config,
        s.result)
  /-- A frame would meet another stream in its queue. -/
  | restart (frame : Frame) (result : ScheduleResult) (offset : ℤ) (message : Message) :
      Places stream s frame result → offset ≠ 0 →
      offset = considerQueueIsolation lib result
        (considerLinkIsolation lib result stream.cycleTime s.config.reserveTime frame) →
      Exit stream s (.schedulingFailed message,
        { stream with transmitOffset := stream.transmitOffset + offset },
        s.config.touchInterface frame.deviceId frame.egressInterfaceId, result)

theorem judge_cases (config : ScheduleConfig) (stream : ScheduleStream) (result : ScheduleResult)
    (frame : Frame) :
    match judge config stream result frame with
    | .receive => hasArrived config stream frame = true ∧ checkReceiveOffset frame config = .success
    | .refuse errorMsg result' =>
      errorMsg ≠ .success ∧ ∀ key, result'.lookup key = result.lookup key
    | .skip => hasArrived config stream frame = false ∧
      (checkRoutingPathDuplicated frame config ≠ .success ∨
        ∃ status, checkDeviceFeature frame config = some status ∧ status ≠ .success)
    | .place result' => Admitted stream config frame ∧
      checkGateControlListLength frame result config = (.success, result')
    | .undefined => True := by
  unfold judge
  by_cases harrived : hasArrived config stream frame = true
  · rw [if_pos harrived]
    by_cases hoffset : (checkReceiveOffset frame config).isSuccess = true
    · rw [if_pos hoffset]
      exact ⟨harrived, Status.isSuccess_iff.1 hoffset⟩
    · rw [if_neg hoffset]
      exact ⟨fun h => hoffset (Status.isSuccess_iff.2 h), fun _ => rfl⟩
  · rw [if_neg harrived]
    have harrived' : hasArrived config stream frame = false := Bool.not_eq_true _ ▸ harrived
    by_cases hpath : (checkRoutingPathDuplicated frame config).isSuccess = true
    · rw [if_neg (by simp [hpath])]
      cases hfeature : checkDeviceFeature frame config with
      | none => trivial
      | some status =>
        dsimp only
        by_cases hst : status.isSuccess = true
        · obtain rfl := Status.isSuccess_iff.1 hst
          rw [if_neg (by simp)]
          cases hgate : checkGateControlListLength frame result config with
          | mk status result' =>
            dsimp only
            by_cases hok : status.isSuccess = true
            · obtain rfl := Status.isSuccess_iff.1 hok
              rw [if_neg (by simp)]
              exact ⟨⟨harrived', Status.isSuccess_iff.1 hpath, hfeature⟩, rfl⟩
            · rw [if_pos (by simp [hok])]
              exact ⟨fun h => hok (Status.isSuccess_iff.2 h),
                lookup_checkGateControlListLength hgate⟩
        · rw [if_pos (by simp [hst])]
          exact ⟨harrived', .inr ⟨status, rfl, fun h => hst (Status.isSuccess_iff.2 h)⟩⟩
    · rw [if_pos (by simp [hpath])]
      exact ⟨harrived', .inl fun h => hpath (Status.isSuccess_iff.2 h)⟩

theorem not_isTransmission_of_hasArrived {config : ScheduleConfig} {stream : ScheduleStream}
    {frame : Frame} (h : hasArrived config stream frame = true) : ¬frame.IsTransmission := by
  simp only [hasArrived, ScheduleConfig.isListenerArrived, Bool.and_eq_true, beq_iff_eq] at h
  exact fun hne => hne h.2

theorem touched_of_notArrived {config : ScheduleConfig} {stream : ScheduleStream} {frame : Frame}
    (h : hasArrived config stream frame = false) :
    touched config stream frame = config.touchInterface frame.deviceId frame.egressInterfaceId := by
  rw [touched, h, if_neg Bool.false_ne_true]

theorem touched_of_hasArrived {config : ScheduleConfig} {stream : ScheduleStream} {frame : Frame}
    (h : hasArrived config stream frame = true) : touched config stream frame = config := by
  rw [touched, h, if_pos rfl]

theorem dropped_of_ne_success {stream : ScheduleStream} {s : RoutingState lib} {frame : Frame}
    {errorMsg : Status} (h : errorMsg ≠ .success) : Dropped stream s frame errorMsg := by
  cases harrived : hasArrived s.config stream frame with
  | true => exact .receiveOffset harrived h
  | false => exact .full harrived h

theorem Admitted.judge_eq {stream : ScheduleStream} {config : ScheduleConfig} {frame : Frame}
    {result result' : ScheduleResult} (h : Admitted stream config frame)
    (hcheck : checkGateControlListLength frame result config = (.success, result')) :
    judge config stream result frame = .place result' := by
  unfold judge
  rw [h.notArrived, h.path, h.feature, hcheck]
  rfl

/-- The frame that is placed next and the schedule it is placed in, if the next
frame passes the checks. -/
def nextPlacement (stream : ScheduleStream) (s : RoutingState lib) :
    Option (Frame × ScheduleResult) :=
  match (lib.queue Frame.cost).pop s.queue with
  | none => none
  | some (frame, _) =>
    match judge s.config stream s.result frame with
    | .place result => some (frame, result)
    | _ => none

theorem places_iff {stream : ScheduleStream} {s : RoutingState lib} {frame : Frame}
    {result : ScheduleResult} :
    Places stream s frame result ↔ nextPlacement stream s = some (frame, result) := by
  unfold nextPlacement
  constructor
  · rintro ⟨⟨queue, hpop⟩, hadmitted, hcheck⟩
    rw [hpop]
    dsimp only
    rw [hadmitted.judge_eq hcheck]
  · intro h
    split at h
    · cases h
    · next frame' queue hpop =>
      split at h
      · next result' hjudge =>
        obtain ⟨rfl, rfl⟩ := Prod.mk.inj (some.inj h)
        have hcases := judge_cases s.config stream s.result frame'
        rw [hjudge] at hcases
        exact ⟨⟨queue, hpop⟩, hcases.1, hcases.2⟩
      · cases h

/-- The frame that is received next, if the next frame is. -/
def nextReception (stream : ScheduleStream) (s : RoutingState lib) : Option Frame :=
  match (lib.queue Frame.cost).pop s.queue with
  | none => none
  | some (frame, _) =>
    if hasArrived s.config stream frame ∧ checkReceiveOffset frame s.config = .success then
      some frame
    else none

theorem receives_iff {stream : ScheduleStream} {s : RoutingState lib} {frame : Frame} :
    Receives stream s frame ↔ nextReception stream s = some frame := by
  unfold nextReception
  constructor
  · rintro ⟨⟨queue, hpop⟩, harrived, hoffset⟩
    rw [hpop]
    exact if_pos ⟨harrived, hoffset⟩
  · intro h
    split at h
    · cases h
    · next frame' queue hpop =>
      split_ifs at h with hcheck
      cases h
      exact ⟨⟨queue, hpop⟩, hcheck.1, hcheck.2⟩

/-- A property of the next reception can be evaluated. -/
instance (stream : ScheduleStream) (s : RoutingState lib) (P : Frame → Prop)
    [∀ frame, Decidable (P frame)] : Decidable (∀ frame, Receives stream s frame → P frame) :=
  decidable_of_iff (∀ frame, nextReception stream s = some frame → P frame)
    ⟨fun h frame hr => h frame (receives_iff.1 hr), fun h frame hr => h frame (receives_iff.2 hr)⟩

/-- A property of the next placement can be evaluated. -/
instance (stream : ScheduleStream) (s : RoutingState lib) (P : Frame → ScheduleResult → Prop)
    [∀ frame result, Decidable (P frame result)] :
    Decidable (∀ frame result, Places stream s frame result → P frame result) :=
  decidable_of_iff (∀ p, nextPlacement stream s = some p → P p.1 p.2)
    ⟨fun h frame result hp => h (frame, result) (places_iff.1 hp),
      fun h p hp => h p.1 p.2 (places_iff.2 hp)⟩

theorem Places.mem_waiting {stream : ScheduleStream} {s : RoutingState lib} {frame : Frame}
    {result : ScheduleResult} (h : Places stream s frame result) : frame ∈ s.waiting := by
  obtain ⟨queue, hpop⟩ := h.pop
  rw [show s.waiting = _ from (lib.queue Frame.cost).pop_some _ _ _ hpop]
  exact mem_cons_self _ _

theorem Receives.mem_waiting {stream : ScheduleStream} {s : RoutingState lib} {frame : Frame}
    (h : Receives stream s frame) : frame ∈ s.waiting := by
  obtain ⟨queue, hpop⟩ := h.pop
  rw [show s.waiting = _ from (lib.queue Frame.cost).pop_some _ _ _ hpop]
  exact mem_cons_self _ _

theorem placeFrame_cases {stream : ScheduleStream} {s : RoutingState lib} {frame : Frame}
    {result : ScheduleResult} {queue : (lib.queue Frame.cost).Carrier}
    (hpop : (lib.queue Frame.cost).pop s.queue = some (frame, queue))
    (hadmitted : Admitted stream s.config frame)
    (hcheck : checkGateControlListLength frame s.result s.config = (.success, result)) :
    (∀ s', placeFrame stream { s with
        queue := queue, config := touched s.config stream frame, result := result } frame =
          .next s' →
      Round stream s s') ∧
    ∀ r, placeFrame stream { s with
        queue := queue, config := touched s.config stream frame, result := result } frame =
          .done r →
      Exit stream s r := by
  have hplaces : Places stream s frame result := ⟨⟨queue, hpop⟩, hadmitted, hcheck⟩
  have hwait : s.waiting = frame ::ₘ (lib.queue Frame.cost).elems queue :=
    (lib.queue Frame.cost).pop_some _ _ _ hpop
  have hget := lookup_checkGateControlListLength hcheck
  rw [touched_of_notArrived hadmitted.notArrived]
  have hextends := s.config.extends_touchInterface frame.deviceId frame.egressInterfaceId
  -- link isolation changes the dequeue time only
  have hplaced := considerLinkIsolation_eq lib result stream.cycleTime s.config.reserveTime frame
  generalize hp : considerLinkIsolation lib result stream.cycleTime s.config.reserveTime frame =
    placed at hplaced
  have hp' : considerLinkIsolation lib result stream.cycleTime
      (s.config.touchInterface frame.deviceId frame.egressInterfaceId).reserveTime frame =
        placed := hp
  unfold placeFrame
  simp only [hp']
  split_ifs with hoffset
  · refine ⟨fun s' h => (by cases h), fun r h => ?_⟩
    obtain rfl := Iter.done.inj h
    exact .restart frame result _ _ hplaces hoffset (by rw [hp])
  · refine ⟨fun s' h => ?_, fun r h => ?_⟩
    · split at h
      · cases h
      · next status result' hsize =>
        have hget' := lookup_checkQueueSize hsize
        split_ifs at h with hst
        · obtain rfl := Iter.next.inj h
          refine .drop frame hwait rfl (touched_of_notArrived hadmitted.notArrived).symm
            (fun key => (hget' key).trans (hget key)) rfl (dropped_of_ne_success fun e => ?_)
          have hsucc : status.isSuccess = true := Status.isSuccess_iff.2 e
          simp [hsucc] at hst
        · split at h
          · cases h
          · next hfwd =>
            obtain rfl := Iter.next.inj h
            obtain ⟨totalDelay, hdelay, hconfig, hres, harrived, herror, hid, children,
              helems, hnodup, hchildren, hall⟩ := exists_of_forwardFrame hfwd
            dsimp only at hdelay hconfig hres harrived herror hid helems hchildren hall
            have hnext : nextFrame (s.config.touchInterface frame.deviceId frame.egressInterfaceId)
                totalDelay placed = nextFrame s.config totalDelay placed := by
              unfold nextFrame
              rw [hextends.interface]
            rw [hnext, ← hconfig] at hchildren hall
            refine .send frame placed result totalDelay children hplaces hp.symm
              (not_not.1 hoffset) hconfig ?_ (fun key => ?_) harrived herror hid ?_ hnodup
              (fun child hchild => ?_) hall
            · rw [hextends.computeTotalDelay] at hdelay
              rw [hplaced] at hdelay
              exact hdelay
            · rw [hres, ScheduleResult.lookup_setScheduleResult,
                ScheduleResult.lookup_setScheduleResult, hget', hget]
            · rw [helems, hwait, add_cons]
              rfl
            · obtain ⟨hlt, hle, interface, hi, duration, hdur, hcopy⟩ := hchildren child hchild
              rw [hconfig, hextends.computeStreamDuration] at hdur
              rw [hplaced] at hdur
              exact ⟨hlt, hle, interface, hi, duration, hdur, hcopy⟩
    · split at h
      · cases h
      · split_ifs at h
        split at h <;> cases h

/-- **A round of the search** receives a frame, drops one or sends one on. -/
theorem round_of_next {stream : ScheduleStream} {s s' : RoutingState lib}
    (h : routingBody lib stream s = .next s') : Round stream s s' := by
  unfold routingBody at h
  split at h
  · cases h
  · next frame queue hpop =>
    have hwait : s.waiting = frame ::ₘ (lib.queue Frame.cost).elems queue :=
      (lib.queue Frame.cost).pop_some _ _ _ hpop
    have hjudge := judge_cases s.config stream s.result frame
    simp only at h
    split at h <;> rename_i hverdict <;> rw [hverdict] at hjudge
    · obtain rfl := Iter.next.inj h
      exact .receive frame ⟨⟨queue, hpop⟩, hjudge.1, hjudge.2⟩ hwait rfl
        (touched_of_hasArrived hjudge.1) rfl rfl rfl
    · obtain rfl := Iter.next.inj h
      exact .drop frame hwait rfl rfl hjudge.2 rfl (dropped_of_ne_success hjudge.1)
    · obtain rfl := Iter.next.inj h
      obtain ⟨harrived, hpath | ⟨status, hfeature, hne⟩⟩ := hjudge
      · exact .drop frame hwait rfl rfl (fun _ => rfl) rfl (.duplicated harrived hpath)
      · exact .drop frame hwait rfl rfl (fun _ => rfl) rfl (.feature harrived hfeature hne)
    · exact (placeFrame_cases hpop hjudge.1 hjudge.2).1 s' h
    · cases h

/-- **The search is left** when no frame waits, or for a later transmit offset. -/
theorem exit_of_done {stream : ScheduleStream} {s : RoutingState lib} {r : RoutingExit}
    (h : routingBody lib stream s = .done r) : Exit stream s r := by
  unfold routingBody at h
  split at h
  · next hpop =>
    obtain rfl := Iter.done.inj h
    exact .empty ((lib.queue Frame.cost).pop_none _ hpop)
  · next frame queue hpop =>
    have hjudge := judge_cases s.config stream s.result frame
    simp only at h
    split at h <;> rename_i hverdict <;> rw [hverdict] at hjudge
    · cases h
    · cases h
    · cases h
    · exact (placeFrame_cases hpop hjudge.1 hjudge.2).2 r h
    · cases h

/-- A round only adds interfaces to the configuration. -/
theorem Round.extends_config {stream : ScheduleStream} {s s' : RoutingState lib}
    (h : Round stream s s') : s.config.Extends s'.config := by
  cases h with
  | receive frame _ _ _ hconfig => exact hconfig ▸ .refl _
  | drop frame _ _ hconfig =>
    rw [hconfig, touched]
    split_ifs
    · exact .refl _
    · exact ScheduleConfig.extends_touchInterface _ _ _
  | send frame _ _ _ _ _ _ _ hconfig =>
    exact hconfig ▸ ScheduleConfig.extends_touchInterface _ _ _

theorem extends_of_visits {stream : ScheduleStream} {s s' : RoutingState lib}
    (h : Loop.Visits (routingBody lib stream) s s') : s.config.Extends s'.config :=
  h.rule (I := fun t => s.config.Extends t.config) (.refl _) fun _ _ _ ht hb =>
    ht.trans (round_of_next hb).extends_config

/-! ### What holds throughout a search -/

/-- The frame is one of this stream's sequence. -/
structure Frame.BelongsTo (frame : Frame) (stream : ScheduleStream) : Prop where
  queueId : frame.queueId = stream.queueId
  streamId : frame.streamId = stream.streamId
  sequenceId : frame.sequenceId = stream.sequenceId

/-- A place in the schedule of this stream's sequence. -/
def FrameKey.IsOf (key : FrameKey) (stream : ScheduleStream) : Prop :=
  key.streamId = stream.streamId ∧ key.sequenceId = stream.sequenceId

/-- A frame is the one the talker sends, or it comes from a stored one: it is
enqueued when that one has left its device and crossed the link. -/
inductive Linked (config : ScheduleConfig) (stream : ScheduleStream) (result : ScheduleResult)
    (frame : Frame) : Prop
  | talker : frame.paths = [] → frame.prevFrameId = -1 → frame.frameId = 0 →
      frame.deviceId = (config.getScheduleConfigStream stream.streamId).talker.deviceId →
      frame.enqueueTime = stream.transmitOffset → Linked config stream result frame
  | next (prev : Frame) (totalDelay : ℤ) : result.lookup frame.prevKey = some prev →
      config.computeTotalDelay prev.deviceId prev.egressInterfaceId stream.streamId =
        some totalDelay →
      frame.enqueueTime = prev.dequeueTime + totalDelay →
      frame.paths = prev.paths ++ [prev.deviceId] →
      0 ≤ frame.prevFrameId → Linked config stream result frame

/-- What holds of a frame that waits, `frameId` being the last id that was given out. -/
structure Frame.Waits (frame : Frame) (config : ScheduleConfig) (stream : ScheduleStream)
    (result : ScheduleResult) (frameId : ℤ) : Prop extends frame.BelongsTo stream where
  dequeueTime : frame.dequeueTime = frame.enqueueTime
  frameId_nonneg : 0 ≤ frame.frameId
  frameId_le : frame.frameId ≤ frameId
  duration : config.computeStreamDuration stream.streamId frame.linkId = some frame.duration
  linked : Linked config stream result frame

/-- **The invariant of a search** for a sequence of which `start` holds nothing. -/
structure SearchInv (config : ScheduleConfig) (stream : ScheduleStream) (start : ScheduleResult)
    (s : RoutingState lib) : Prop where
  extends_config : config.Extends s.config
  keyed : s.result.Keyed
  frameId_nonneg : 0 ≤ s.frameId
  /-- What was stored before the search is still there. -/
  lookup_old : ∀ key, ¬FrameKey.IsOf key stream → s.result.lookup key = start.lookup key
  waiting : ∀ f ∈ s.waiting, f.Waits config stream s.result s.frameId
  waiting_nodup : (s.waiting.map Frame.frameId).Nodup
  stored : ∀ key f, FrameKey.IsOf key stream → s.result.lookup key = some f →
    key.queueId = stream.queueId ∧ 0 ≤ key.frameId ∧ key.frameId ≤ s.frameId ∧
      Linked config stream s.result f
  apart : ∀ key f, FrameKey.IsOf key stream → s.result.lookup key = some f →
    ∀ g ∈ s.waiting, g.frameId ≠ key.frameId
  unique : ∀ key key' f f', FrameKey.IsOf key stream → FrameKey.IsOf key' stream →
    s.result.lookup key = some f → s.result.lookup key' = some f' →
    key.frameId = key'.frameId → key = key'

section
variable {config : ScheduleConfig} {stream : ScheduleStream} {start result result' : ScheduleResult}
  {s s' : RoutingState lib} {frame placed : Frame}

theorem Linked.mono (h : Linked config stream result frame)
    (hkeep : ∀ prev, result.lookup frame.prevKey = some prev →
      result'.lookup frame.prevKey = some prev) : Linked config stream result' frame := by
  cases h with
  | talker hpaths hprev hid hdev htime => exact .talker hpaths hprev hid hdev htime
  | next prev totalDelay hprev hdelay htime hpaths hid =>
    exact .next prev totalDelay (hkeep prev hprev) hdelay htime hpaths hid

theorem Linked.setDequeueTime (h : Linked config stream result frame) (dequeueTime : ℤ) :
    Linked config stream result { frame with dequeueTime := dequeueTime } := by
  cases h with
  | talker hpaths hprev hid hdev htime => exact .talker hpaths hprev hid hdev htime
  | next prev totalDelay hprev hdelay htime hpaths hid =>
    exact .next prev totalDelay hprev hdelay htime hpaths hid

theorem Frame.BelongsTo.isOf_key (h : frame.BelongsTo stream) :
    FrameKey.IsOf frame.key stream := ⟨h.streamId, h.sequenceId⟩

theorem Frame.BelongsTo.isOf_prevKey (h : frame.BelongsTo stream) :
    FrameKey.IsOf frame.prevKey stream := ⟨h.streamId, h.sequenceId⟩

theorem linked_childFrame {interface : ScheduleConfigInterface} {totalDelay duration id : ℤ}
    {config' : ScheduleConfig} (hid : 0 ≤ frame.frameId)
    (hget : result.lookup frame.key = some frame)
    (hdelay : config.computeTotalDelay frame.deviceId frame.egressInterfaceId stream.streamId =
      some totalDelay) : Linked config stream result
      (childFrame (nextFrame config' totalDelay frame) interface duration id) :=
  .next frame totalDelay hget hdelay rfl rfl hid

/-- **Storing a frame that waited**, whose copies wait afterwards. -/
theorem SearchInv.store (h : SearchInv config stream start s) {rest : Multiset Frame}
    {children : List Frame} (hwait : s.waiting = frame ::ₘ rest)
    (hplaced : placed = { frame with dequeueTime := placed.dequeueTime })
    (hget : ∀ key, s'.result.lookup key = (s.result.setScheduleResult placed).lookup key)
    (hconfig : config.Extends s'.config) (hid : s.frameId ≤ s'.frameId)
    (hwait' : s'.waiting = (children : Multiset Frame) + rest)
    (hnodup : (children.map Frame.frameId).Nodup)
    (hchildren : ∀ child ∈ children, s.frameId < child.frameId ∧
      child.Waits config stream s'.result s'.frameId) : SearchInv config stream start s' := by
  have hmem : frame ∈ s.waiting := hwait ▸ mem_cons_self _ _
  obtain ⟨hbelongs, -, hnn, hle, -, hlinked⟩ := h.waiting frame hmem
  have hkey : placed.key = frame.key := by rw [hplaced]; rfl
  have hfresh : ∀ key f, FrameKey.IsOf key stream → s.result.lookup key = some f →
      key.frameId ≠ frame.frameId := fun key f hof hf e => h.apart key f hof hf frame hmem e.symm
  -- what was stored for the sequence is not overwritten
  have hkeep : ∀ key f, FrameKey.IsOf key stream → s.result.lookup key = some f →
      s'.result.lookup key = some f := by
    intro key f hof hf
    rw [hget, ScheduleResult.lookup_setScheduleResult, hkey, if_neg ?_, hf]
    intro e
    exact hfresh key f hof hf (by rw [← e]; rfl)
  have hcases : ∀ key f, s'.result.lookup key = some f →
      (key = frame.key ∧ f = placed) ∨ s.result.lookup key = some f := by
    intro key f hf
    rw [hget, ScheduleResult.lookup_setScheduleResult, hkey] at hf
    split_ifs at hf with e
    · exact .inl ⟨e.symm, (some.inj hf).symm⟩
    · exact .inr hf
  have hrest : ∀ g ∈ rest, g ∈ s.waiting := fun g hg => hwait ▸ mem_cons_of_mem hg
  have hrestId : ∀ g ∈ rest, g.frameId ≠ frame.frameId := by
    have hnd := h.waiting_nodup
    rw [hwait, map_cons, nodup_cons] at hnd
    intro g hg e
    exact hnd.1 (e ▸ mem_map_of_mem _ hg)
  have hlinkedKeep : ∀ f, f.BelongsTo stream → Linked config stream s.result f →
      Linked config stream s'.result f := fun f hf hl =>
    hl.mono fun prev hprev => hkeep f.prevKey prev hf.isOf_prevKey hprev
  have hstoredBelongs : ∀ key f, FrameKey.IsOf key stream → s.result.lookup key = some f →
      f.BelongsTo stream := by
    intro key f hof hf
    have e := h.keyed key f hf
    subst e
    exact ⟨(h.stored _ f hof hf).1, hof.1, hof.2⟩
  refine ⟨hconfig, fun key f hf => ?_, h.frameId_nonneg.trans hid, fun key hof => ?_,
    fun f hf => ?_, ?_, fun key f hof hf => ?_, fun key f hof hf g hg => ?_,
    fun key key' f f' hof hof' hf hf' e => ?_⟩
  · rcases hcases key f hf with ⟨rfl, rfl⟩ | hf
    · exact hkey
    · exact h.keyed key f hf
  · rw [hget, ScheduleResult.lookup_setScheduleResult, hkey, if_neg ?_, h.lookup_old key hof]
    exact fun e => hof (e ▸ hbelongs.isOf_key)
  · rw [hwait', mem_add, mem_coe] at hf
    rcases hf with hf | hf
    · exact (hchildren f hf).2
    · obtain ⟨hb, ht, hn, hle', hd, hl⟩ := h.waiting f (hrest f hf)
      exact ⟨hb, ht, hn, hle'.trans hid, hd, hlinkedKeep f hb hl⟩
  · have hnd := h.waiting_nodup
    rw [hwait, map_cons, nodup_cons] at hnd
    rw [hwait', map_add, nodup_add]
    refine ⟨by simpa using hnodup, hnd.2, ?_⟩
    rw [disjoint_left]
    intro id hid₁ hid₂
    obtain ⟨child, hchild, rfl⟩ := mem_map.1 hid₁
    obtain ⟨g, hg, hid⟩ := mem_map.1 hid₂
    have hlt := (hchildren child (mem_coe.1 hchild)).1
    have hle' := (h.waiting g (hrest g hg)).frameId_le
    omega
  · rcases hcases key f hf with ⟨rfl, rfl⟩ | hf
    · refine ⟨hbelongs.queueId, hnn, hle.trans hid, ?_⟩
      rw [hplaced]
      exact (hlinkedKeep frame hbelongs hlinked).setDequeueTime _
    · obtain ⟨hq, hn, hle', hl⟩ := h.stored key f hof hf
      exact ⟨hq, hn, hle'.trans hid, hlinkedKeep f (hstoredBelongs key f hof hf) hl⟩
  · rw [hwait', mem_add, mem_coe] at hg
    rcases hcases key f hf with ⟨rfl, rfl⟩ | hf
    · rcases hg with hg | hg
      · have hlt := (hchildren g hg).1
        exact fun e => by rw [show frame.key.frameId = frame.frameId from rfl] at e; omega
      · exact hrestId g hg
    · rcases hg with hg | hg
      · have hlt := (hchildren g hg).1
        have hle' := (h.stored key f hof hf).2.2.1
        omega
      · exact h.apart key f hof hf g (hrest g hg)
  · rcases hcases key f hf with ⟨rfl, rfl⟩ | hf
    · rcases hcases key' f' hf' with ⟨rfl, -⟩ | hf'
      · rfl
      · exact absurd e.symm (hfresh key' f' hof' hf')
    · rcases hcases key' f' hf' with ⟨rfl, -⟩ | hf'
      · exact absurd e (hfresh key f hof hf)
      · exact h.unique key key' f f' hof hof' hf hf' e

/-- **A round keeps the invariant.** -/
theorem SearchInv.round (h : SearchInv config stream start s) (hround : Round stream s s') :
    SearchInv config stream start s' := by
  cases hround with
  | receive frame _ hwait hid hconfig hres _ _ =>
    have hwait' : s'.waiting = (([] : List Frame) : Multiset Frame) + s'.waiting := by simp
    exact h.store hwait rfl (fun key => by rw [hres]) (hconfig ▸ h.extends_config) hid.ge
      hwait' (by simp) (by simp)
  | drop frame hwait hid hconfig hget _ _ =>
    have hrest : ∀ g ∈ s'.waiting, g ∈ s.waiting := fun g hg =>
      hwait ▸ mem_cons_of_mem hg
    have hnd := h.waiting_nodup
    rw [hwait, map_cons, nodup_cons] at hnd
    refine ⟨?_, fun key f hf => h.keyed key f (hget key ▸ hf), hid ▸ h.frameId_nonneg,
      fun key hof => (hget key).trans (h.lookup_old key hof), fun f hf => ?_, hnd.2,
      fun key f hof hf => ?_, fun key f hof hf g hg =>
        h.apart key f hof (hget key ▸ hf) g (hrest g hg),
      fun key key' f f' hof hof' hf hf' =>
        h.unique key key' f f' hof hof' (hget key ▸ hf) (hget key' ▸ hf')⟩
    · rw [hconfig, touched]
      split_ifs
      · exact h.extends_config
      · exact h.extends_config.trans (ScheduleConfig.extends_touchInterface _ _ _)
    · obtain ⟨hb, ht, hn, hle, hd, hl⟩ := h.waiting f (hrest f hf)
      exact ⟨hb, ht, hn, hid ▸ hle, hd, hl.mono fun prev hprev => (hget _).trans hprev⟩
    · obtain ⟨hq, hn, hle, hl⟩ := h.stored key f hof (hget key ▸ hf)
      exact ⟨hq, hn, hid ▸ hle, hl.mono fun prev hprev => (hget _).trans hprev⟩
  | send frame placed result totalDelay children hplaces hplaced _ hconfig hdelay hget _ _ hid
      hwait hnodup hchildren _ =>
    obtain ⟨queue, hpop⟩ := hplaces.pop
    have hwait₀ : s.waiting = frame ::ₘ (lib.queue Frame.cost).elems queue :=
      (lib.queue Frame.cost).pop_some _ _ _ hpop
    rw [hwait₀, add_cons, cons_inj_right] at hwait
    have hmem : frame ∈ s.waiting := hwait₀ ▸ mem_cons_self _ _
    obtain ⟨hbelongs, -, hnn, -, -, -⟩ := h.waiting frame hmem
    have hplaced' : placed = { frame with dequeueTime := placed.dequeueTime } := by
      have heq := considerLinkIsolation_eq lib result stream.cycleTime s.config.reserveTime frame
      rw [← hplaced] at heq
      exact heq
    have hconfig' : config.Extends s'.config := by
      rw [hconfig]
      exact h.extends_config.trans (ScheduleConfig.extends_touchInterface _ _ _)
    refine h.store hwait₀ hplaced' hget hconfig' hid hwait hnodup
      fun child hchild => ?_
    obtain ⟨hlt, hle, interface, -, duration, hdur, hcopy⟩ := hchildren child hchild
    refine ⟨hlt, ?_, ?_, h.frameId_nonneg.trans hlt.le, hle, ?_, ?_⟩
    · rw [hcopy, hplaced']
      exact ⟨hbelongs.queueId, hbelongs.streamId, hbelongs.sequenceId⟩
    · rw [hcopy]
      rfl
    · rw [h.extends_config.computeStreamDuration, hbelongs.streamId] at hdur
      rw [hcopy]
      exact hdur
    · rw [hcopy]
      refine linked_childFrame ?_ ?_ ?_
      · rw [hplaced']
        exact hnn
      · rw [hget, ScheduleResult.lookup_setScheduleResult, if_pos rfl]
      · rw [h.extends_config.computeTotalDelay] at hdelay
        rw [hplaced', ← hbelongs.streamId]
        exact hdelay

theorem searchInv_init {config' : ScheduleConfig} (hconfig : config.Extends config')
    (hkeyed : start.Keyed) (hfresh : ∀ key, FrameKey.IsOf key stream → start.lookup key = none)
    (h : routingInit lib config' stream start = some s) : SearchInv config stream start s := by
  simp only [routingInit] at h
  obtain ⟨duration, hdur, h⟩ := bind_eq_some_iff.1 h
  cases h
  have hwait : ∀ f, f ∈ (lib.queue Frame.cost).elems ((lib.queue Frame.cost).push
      (lib.queue Frame.cost).empty (talkerFrame config' stream duration)) ↔
        f = talkerFrame config' stream duration := by
    intro f
    rw [(lib.queue Frame.cost).elems_push, (lib.queue Frame.cost).elems_empty]
    simp
  refine ⟨hconfig, hkeyed, le_rfl, fun _ _ => rfl, fun f hf => ?_, ?_, fun key f hof hf => ?_,
    fun key f hof hf => ?_, fun key key' f f' hof _ hf => ?_⟩
  · obtain rfl := (hwait f).1 hf
    exact ⟨⟨rfl, rfl, rfl⟩, rfl, le_rfl, le_rfl, hconfig.computeStreamDuration _ _ ▸ hdur,
      .talker rfl rfl rfl (by rw [← hconfig.talker]; rfl) rfl⟩
  · simp [RoutingState.waiting, (lib.queue Frame.cost).elems_push,
      (lib.queue Frame.cost).elems_empty]
  · rw [hfresh key hof] at hf
    cases hf
  · rw [hfresh key hof] at hf
    cases hf
  · rw [hfresh key hof] at hf
    cases hf

/-- **The invariant holds at every state of the search.** -/
theorem SearchInv.visits (h : SearchInv config stream start s)
    (hv : Loop.Visits (routingBody lib stream) s s') : SearchInv config stream start s' :=
  hv.rule h fun _ _ _ ht hb => ht.round (round_of_next hb)

end

end Algorithm
end Sebastian

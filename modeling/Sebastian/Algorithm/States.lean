/-
# The states of a run, listed

A run that returns comes to finitely many states of its searches.  `statesOf` lists
them, so that a property of every state of a run can be evaluated
(`forall_searches`): the list has every attempt (`mem_attemptsOf`), and a loop that
ends lists what it visits (`Loop.mem_visited_of_run`).
-/

import Sebastian.Algorithm.Run

namespace Sebastian
namespace Algorithm

open List Option

variable {lib : Library}

/-! ### The attempts -/

/-- The attempts of the loop over the priority code points. -/
def attemptsPcpOf (lib : Library) (fuel : ℕ) (streamId : ℤ) (base : ScheduleResult) :
    List UInt8 → ScheduleConfig → List Attempt
  | [], _ => []
  | pcp :: pcps, config =>
    ⟨streamId, pcp, config, base⟩ ::
      match computeScheduleStream lib fuel (attemptOf config streamId pcp) config base with
      | none => []
      | some (status, config', _) =>
        if status = .success then [] else attemptsPcpOf lib fuel streamId base pcps config'

/-- The attempts of the loop over the streams. -/
def attemptsStreamOf (lib : Library) (fuel : ℕ) :
    List ℤ → ScheduleConfig → ScheduleResult → List Attempt
  | [], _, _ => []
  | streamId :: ids, config, base =>
    let pcps := pcpsOf lib (config.getScheduleConfigStream streamId)
    attemptsPcpOf lib fuel streamId base pcps config ++
      match computePcps lib fuel streamId pcps .success config base with
      | some (.success, config', base') => attemptsStreamOf lib fuel ids config' base'
      | _ => []

/-- The attempts of `ComputeSchedule`. -/
def attemptsOf (lib : Library) (fuel : ℕ) (config : ScheduleConfig) : List Attempt :=
  match config.sortScheduleConfigStreams lib with
  | none => []
  | some ids => attemptsStreamOf lib fuel ids config ∅

/-- The states of the searches of an attempt. -/
def statesOfAttempt (lib : Library) (fuel : ℕ) (a : Attempt) :
    List (ScheduleStream × RoutingState lib) :=
  (Loop.visited (streamBody lib fuel a.base) fuel a.init).flatMap fun t =>
    if t.Searching then
      match routingInit lib t.config t.stream t.result with
      | none => []
      | some s => (Loop.visited (routingBody lib t.stream) fuel s).map (t.stream, ·)
    else []

/-- **The states of the searches of a run.** -/
def statesOf (lib : Library) (fuel : ℕ) (config : ScheduleConfig) :
    List (ScheduleStream × RoutingState lib) :=
  (attemptsOf lib fuel config).flatMap (statesOfAttempt lib fuel)

section
variable {config config' : ScheduleConfig} {fuel : ℕ} {streamId : ℤ} {ids : List ℤ}
  {pcps : List UInt8} {base result : ScheduleResult} {status status' : Status} {a : Attempt}

theorem AttemptsPcp.mem (h : AttemptsPcp lib fuel streamId base pcps config a) :
    a ∈ attemptsPcpOf lib fuel streamId base pcps config := by
  induction h with
  | here => exact mem_cons_self
  | next hatt hne _ ih =>
    rw [attemptsPcpOf, hatt]
    dsimp only
    rw [if_neg hne]
    exact mem_cons_of_mem _ ih

theorem AttemptsStream.mem (h : AttemptsStream lib fuel ids config base a) :
    a ∈ attemptsStreamOf lib fuel ids config base := by
  induction h with
  | here hatts => exact mem_append_left _ hatts.mem
  | next hpcps _ ih =>
    rw [attemptsStreamOf]
    refine mem_append_right _ ?_
    rw [hpcps]
    exact ih

/-- **Every attempt is listed.** -/
theorem mem_attemptsOf (h : Attempts lib fuel config a) : a ∈ attemptsOf lib fuel config := by
  obtain ⟨ids, hids, hatts⟩ := h
  rw [attemptsOf, hids]
  exact hatts.mem

/-! ### Every part of a run that returns returned -/

theorem AttemptsPcp.returns (h : AttemptsPcp lib fuel streamId base pcps config a)
    (hrun : computePcps lib fuel streamId pcps status config base = some (status', config',
      result)) :
    ∃ r, computeScheduleStream lib fuel (attemptOf a.config a.streamId a.pcp) a.config a.base =
      some r := by
  induction h generalizing status with
  | here =>
    rw [computePcps] at hrun
    obtain ⟨r, hatt, -⟩ := bind_eq_some_iff.1 hrun
    exact ⟨r, hatt⟩
  | next hatt hne _ ih =>
    rw [computePcps, hatt] at hrun
    obtain ⟨r, hr, hrun⟩ := bind_eq_some_iff.1 hrun
    cases hr
    dsimp only at hrun
    rw [if_neg fun e => hne (Status.isSuccess_iff.1 e)] at hrun
    exact ih hrun

theorem AttemptsStream.returns (h : AttemptsStream lib fuel ids config base a)
    (hrun : computeStreams lib fuel ids .success config base = some (status', config', result)) :
    ∃ r, computeScheduleStream lib fuel (attemptOf a.config a.streamId a.pcp) a.config a.base =
      some r := by
  induction h with
  | here hatts =>
    rw [computeStreams] at hrun
    obtain ⟨r, hpcps, -⟩ := bind_eq_some_iff.1 hrun
    exact hatts.returns hpcps
  | next hpcps _ ih =>
    rw [computeStreams, hpcps] at hrun
    obtain ⟨r, hr, hrun⟩ := bind_eq_some_iff.1 hrun
    cases hr
    exact ih hrun

/-- **The states of a run that returns are listed.** -/
theorem mem_statesOf (h : computeSchedule lib fuel config = some (status', config', result))
    {stream : ScheduleStream} {s : RoutingState lib} (hs : Searches fuel config stream s) :
    (stream, s) ∈ statesOf lib fuel config := by
  obtain ⟨a, t, hatts, hv, rfl, hsearching, s₀, hinit, hsv⟩ := hs.attempt
  refine mem_flatMap.2 ⟨a, mem_attemptsOf hatts, mem_flatMap.2 ⟨t, ?_⟩⟩
  obtain ⟨ids, hids, hatts⟩ := hatts
  simp only [computeSchedule] at h
  obtain ⟨ids', hids', h⟩ := bind_eq_some_iff.1 h
  rw [hids] at hids'
  cases hids'
  obtain ⟨r, hatt⟩ := hatts.returns h
  simp only [computeScheduleStream] at hatt
  obtain ⟨t', hrun, -⟩ := bind_eq_some_iff.1 hatt
  obtain ⟨hmem, hne⟩ := Loop.mem_visited_of_run hrun hv
  refine ⟨hmem, ?_⟩
  rw [if_pos hsearching, hinit]
  refine mem_map.2 ⟨s, ?_, rfl⟩
  -- the search of a visited state of the loop has returned
  cases hrouting : computeScheduleStreamRouting lib fuel t.config t.stream t.result with
  | none =>
    refine absurd ?_ hne
    simp [streamBody, hsearching.interval, hsearching.sequence, hsearching.transmitOffset,
      hrouting]
  | some r' =>
    simp only [computeScheduleStreamRouting, hinit] at hrouting
    exact (Loop.mem_visited_of_run hrouting hsv).1

/-- **A property of every state of a run**, checked on the list. -/
theorem forall_searches {P : ScheduleStream → RoutingState lib → Prop}
    (h : computeSchedule lib fuel config = some (status', config', result))
    (hP : ∀ p ∈ statesOf lib fuel config, P p.1 p.2) :
    ∀ stream (s : RoutingState lib), Searches fuel config stream s → P stream s :=
  fun stream s hs => hP (stream, s) (mem_statesOf h hs)

end

/-! ### Running small projects -/

/-- The configuration of a project and the schedule that is found for it, with the
reference implementation of the library. -/
def scheduleOf (project : Project) : Option (ScheduleConfig × ScheduleConfig × ScheduleResult) :=
  match ScheduleConfig.prepareScheduleConfig 100 project with
  | .error _ => none
  | .ok config =>
    match computeSchedule .reference 100 config with
    | some (.success, config', result) => some (config, config', result)
    | _ => none

/-- What is evaluated on `scheduleOf` holds of a run. -/
theorem exists_of_scheduleOf (project : Project) (P : ScheduleConfig → ScheduleResult → Bool)
    (h : (scheduleOf project).any (fun x => P x.1 x.2.2) = true) :
    ∃ config config' result, ScheduleConfig.prepareScheduleConfig 100 project = .ok config ∧
      computeSchedule .reference 100 config = some (.success, config', result) ∧
      P config result = true := by
  obtain ⟨⟨config, config', result⟩, hx, hP⟩ := (any_eq_true _ _).1 h
  refine ⟨config, config', result, ?_⟩
  unfold scheduleOf at hx
  split at hx
  · cases hx
  · next config₁ hprep =>
    split at hx
    · next hcomp =>
      have hx := some.inj hx
      rw [Prod.mk.injEq, Prod.mk.injEq] at hx
      obtain ⟨rfl, rfl, rfl⟩ := hx
      exact ⟨hprep, hcomp, hP⟩
    · cases hx

/-- What is evaluated on the configuration of a project holds of it. -/
theorem exists_of_prepareScheduleConfig (project : Project) (P : ScheduleConfig → Bool)
    (h : (match ScheduleConfig.prepareScheduleConfig 100 project with
      | .error _ => false
      | .ok config => P config) = true) :
    ∃ config, ScheduleConfig.prepareScheduleConfig 100 project = .ok config ∧ P config = true := by
  cases hprep : ScheduleConfig.prepareScheduleConfig 100 project with
  | error failure =>
    rw [hprep] at h
    cases h
  | ok config =>
    rw [hprep] at h
    exact ⟨config, rfl, h⟩

theorem attempts_of_single {config : ScheduleConfig} {fuel : ℕ} {streamId : ℤ} {pcp : UInt8}
    (hsort : config.sortScheduleConfigStreams lib = some [streamId])
    (hpcps : pcpsOf lib (config.getScheduleConfigStream streamId) = [pcp]) :
    Attempts lib fuel config ⟨streamId, pcp, config, ∅⟩ := by
  refine ⟨[streamId], hsort, .here ?_⟩
  rw [hpcps]
  exact .here pcp [] config

/-- **What is listed of an attempt** is a state of a search. -/
theorem searches_of_mem_statesOfAttempt {config : ScheduleConfig} {fuel : ℕ} {a : Attempt}
    {stream : ScheduleStream} {s : RoutingState lib} (ha : Attempts lib fuel config a)
    (h : (stream, s) ∈ statesOfAttempt lib fuel a) : Searches fuel config stream s := by
  obtain ⟨t, ht, h⟩ := mem_flatMap.1 h
  split_ifs at h with hsearching
  · cases hinit : routingInit lib t.config t.stream t.result with
    | none =>
      rw [hinit] at h
      cases h
    | some s₀ =>
      rw [hinit] at h
      obtain ⟨s', hs, heq⟩ := mem_map.1 h
      obtain ⟨rfl, rfl⟩ := Prod.mk.inj heq
      exact ⟨a, t, ha, Loop.visits_of_mem_visited ht, rfl, hsearching, s₀, hinit,
        Loop.visits_of_mem_visited hs⟩
  · cases h

namespace Sample

/-- What the devices of the small projects can do. -/
def features : DeviceProperty :=
  { numberOfQueue := 8
    perQueueSize := 1000
    gateControlListLength := 100
    ieee802Dot1Qbv := true }

/-- An end station with one interface, linked. -/
def station (id : ℤ) (ipAddress : String) : Device :=
  { id := id
    ipAddress := ipAddress
    deviceType := .endStation
    deviceProperty := features
    interfaces := [{ deviceId := id, interfaceId := 1, used := true }] }

/-- A switch with the interfaces `1`, …, `n`, all of them linked. -/
def switch (id : ℤ) (ipAddress : String) (n : ℕ) : Device :=
  { id := id
    ipAddress := ipAddress
    deviceType := .tsnSwitch
    deviceProperty := features
    interfaces := (List.range n).map fun i =>
      { deviceId := id, interfaceId := i + 1, used := true } }

/-- A link between interface `1` of a station and an interface of a switch. -/
def cable (id station switch interface : ℤ) (speed : UInt16) : Link :=
  { id := id
    speed := speed
    sourceDeviceId := station
    sourceInterfaceId := 1
    destinationDeviceId := switch
    destinationInterfaceId := interface }

/-- An application of frames of `bytes` bytes, sent from `offset` on, in microseconds. -/
def application (id : ℤ) (trafficClass : UInt8) (bytes : UInt32) (offset interval : ℚ) :
    TrafficApplication :=
  { id := id
    trafficSetting := { trafficTypeClass := trafficClass }
    tsn := { active := true }
    streamParameter :=
      { interval := interval
        maxFrameSize := bytes
        maxBytesPerInterval := bytes
        earliestTransmitOffset := offset } }

/-- The stream of the application of the same id, between two stations. -/
def stream (id talker : ℤ) (listeners : List ℤ) : TrafficStream :=
  { id := id
    applicationId := id
    talker := { deviceId := talker, interfaceId := 1 }
    listeners := listeners.map fun d => { deviceId := d, interfaceId := 1 } }

/-- Each traffic class has its own priority code point. -/
def trafficDesign (applications : List TrafficApplication) (streams : List TrafficStream) :
    TrafficDesign :=
  { trafficTypeConfigurationSetting := [6, 5, 4].map fun n =>
      { trafficClass := n, priorityCodePointSet := [n] }
    applicationSetting := applications
    streamSetting := streams }

/-- Two stations at a switch, the second one over a link of the given speed. -/
def line (speed : UInt16) (applications : List TrafficApplication) (streams : List TrafficStream) :
    Project :=
  { devices := [station 1 "a", station 2 "b", switch 3 "c" 2]
    links := [cable 1 1 3 1 1000, cable 2 2 3 2 speed]
    trafficDesign := trafficDesign applications streams }

/-- Three stations at a switch, the third one over a link of the given speed. -/
def star (speed : UInt16) (applications : List TrafficApplication) (streams : List TrafficStream) :
    Project :=
  { devices := [station 1 "a", station 2 "b", station 3 "c", switch 4 "d" 3]
    links := [cable 1 1 4 1 1000, cable 2 2 4 2 1000, cable 3 3 4 3 speed]
    trafficDesign := trafficDesign applications streams }

end Sample

end Algorithm
end Sebastian

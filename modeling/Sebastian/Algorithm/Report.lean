/-
# What is read off a schedule

`GenerateScheduleResult` (`algorithm/src/act_schedule.cpp`,
`algorithm/src/act_schedule_result.cpp`) turns the schedule into the computed
result of the project: the routing and the times of every stream, found by
following its receptions back to the talker, and the gate control lists.
`AnalyzeScheduleResult` then checks the routing, and `DoAdvancedSchedule` is the
whole computation.

The receptions and their predecessors are read through `operator[]`, which could
leave frames behind in the schedule.  It does not, because every frame that is
followed has its predecessor (`Followable`): the reports read the schedule and
change nothing that is stored (`same_of_generateRoutingResult`,
`same_of_generateStreamResult`).
-/

import Sebastian.Algorithm.GateControl
import Sebastian.Algorithm.Run

namespace Sebastian
namespace Algorithm

open Option

/-! ### The reports -/

/-- What `GetScheduleResultFrame` leaves behind: the frame exists. -/
def ScheduleResult.touchFrame (result : ScheduleResult) (key : FrameKey) : ScheduleResult :=
  result.updateQueue key.deviceId key.interfaceId key.queueId fun queue =>
    QMap.update queue key.streamId fun stream =>
      QMap.update stream key.sequenceId (·.touch key.frameId)

section
variable {β γ : Type}

/-- One sequence of the receptions at a listener: `addFrame` makes a path of each
frame, and the paths make an entry of the report. -/
def addSequence (addFrame : List β × ScheduleResult → Frame → Option (List β × ScheduleResult))
    (entry : List β → γ) (listener : ScheduleConfigInterface) (queueId : UInt8) (streamId : ℤ)
    (acc : List γ × ScheduleResult) (sequenceId : ℤ) : Option (List γ × ScheduleResult) := do
  let frames := acc.2.getSequence listener.deviceId listener.interfaceId queueId streamId sequenceId
  let (paths, result) ← List.foldlM addFrame ([], acc.2) frames.vals
  return (acc.1 ++ [entry paths], result)

/-- The receptions at a listener. -/
def addListener (addFrame : List β × ScheduleResult → Frame → Option (List β × ScheduleResult))
    (entry : ScheduleConfigInterface → List β → γ) (queueId : UInt8) (streamId : ℤ)
    (acc : List γ × ScheduleResult) (listener : ScheduleConfigInterface) :
    Option (List γ × ScheduleResult) :=
  let result := acc.2.touchStream listener.deviceId listener.interfaceId queueId streamId
  List.foldlM (addSequence addFrame (entry listener) listener queueId streamId) (acc.1, result)
    (result.getStream listener.deviceId listener.interfaceId queueId streamId).keys

end

/-- One round of the way back in `GenerateRoutingResult`. -/
def redundantPathBody (stream : ScheduleConfigStream) :
    Frame × RedundantPath × ScheduleResult →
      Iter (Frame × RedundantPath × ScheduleResult) (RedundantPath × ScheduleResult)
  | (frame, path, result) =>
    if frame.deviceId ≠ stream.talker.deviceId then
      let prev := result.getFrame frame.prevKey
      .next (prev,
        { linkIds := frame.prevLinkId :: path.linkIds
          deviceIds := frame.deviceId :: path.deviceIds
          vlanId := if prev.vlanId ≠ stream.vlanId then prev.vlanId else path.vlanId },
        result.touchFrame frame.prevKey)
    else .done ({ path with deviceIds := frame.deviceId :: path.deviceIds }, result)

/-- The path of one reception in `GenerateRoutingResult`; the path with the VLAN of
the stream comes first. -/
def addRedundantPath (fuel : ℕ) (stream : ScheduleConfigStream)
    (acc : List RedundantPath × ScheduleResult) (frame : Frame) :
    Option (List RedundantPath × ScheduleResult) := do
  let (path, result) ←
    Loop.run (redundantPathBody stream) fuel (frame, { vlanId := frame.vlanId }, acc.2)
  return (if path.vlanId = stream.vlanId then path :: acc.1 else acc.1 ++ [path], result)

/-- The entry of one sequence in `GenerateRoutingResult`. -/
def routingPathOf (config : ScheduleConfig) (stream : ScheduleConfigStream)
    (listener : ScheduleConfigInterface) (redundantPaths : List RedundantPath) : RoutingPath :=
  { talkerIpAddress := (config.getScheduleConfigDevice stream.talker.deviceId).ipAddress
    listenerIpAddress := (config.getScheduleConfigDevice listener.deviceId).ipAddress
    redundantPaths := redundantPaths }

/-- One stream in `GenerateRoutingResult`. -/
def addRoutingResult (lib : Library) (fuel : ℕ) (config : ScheduleConfig)
    (acc : QSet RoutingResult × ScheduleResult) (streamId : ℤ) :
    Option (QSet RoutingResult × ScheduleResult) := do
  let stream := config.getScheduleConfigStream streamId
  let (routingPaths, result) ← List.foldlM
    (addListener (addRedundantPath fuel stream)
      (routingPathOf config stream) stream.queueId streamId)
    ([], acc.2) (lib.walk stream.listeners)
  return (QSet.insert acc.1 {
    streamName := stream.streamName
    streamId := stream.streamId
    vlanId := stream.vlanId
    priorityCodePoint := stream.priorityCodePoint
    queueId := stream.queueId
    cb := stream.cbEnable
    multicast := stream.multicast
    routingPaths := routingPaths }, result)

/-- `GenerateRoutingResult` -/
def generateRoutingResult (lib : Library) (fuel : ℕ) (config : ScheduleConfig)
    (result : ScheduleResult) : Option (QSet RoutingResult × ScheduleResult) :=
  List.foldlM (addRoutingResult lib fuel config) ([], result) config.scheduleConfigStreams.keys

/-- One round of the way back in `GenerateStreamResult`. -/
def streamPathBody (stream : ScheduleConfigStream) :
    Frame × List Frame × ScheduleResult →
      Iter (Frame × List Frame × ScheduleResult) (List Frame × ScheduleResult)
  | (frame, frames, result) =>
    if frame.deviceId ≠ stream.talker.deviceId then
      .next (result.getFrame frame.prevKey, frame :: frames, result.touchFrame frame.prevKey)
    else .done (frame :: frames, result)

/-- The times of a frame in `GenerateStreamResult`.  They are stored as `quint32`. -/
def deviceInterfaceResultOf (frame : Frame) : StreamDeviceInterfaceResult :=
  { deviceId := frame.deviceId
    ingressInterfaceId := frame.ingressInterfaceId
    egressInterfaceId := frame.egressInterfaceId
    priorityCodePoint := frame.priorityCodePoint
    startTime := UInt32.ofInt frame.dequeueTime
    stopTime := UInt32.ofInt (frame.dequeueTime + frame.duration)
    accumulatedLatency := UInt32.ofInt frame.cost
    streamDuration := UInt32.ofInt frame.duration
    vlanId := frame.vlanId
    frerType := frame.frerType }

/-- The path of one reception in `GenerateStreamResult`; the paths without another
VLAN come first. -/
def addStreamRedundantPath (fuel : ℕ) (stream : ScheduleConfigStream)
    (acc : List StreamRedundantPathResult × ScheduleResult) (frame : Frame) :
    Option (List StreamRedundantPathResult × ScheduleResult) := do
  let (frames, result) ← Loop.run (streamPathBody stream) fuel
    ({ frame with egressInterfaceId := -1 }, [], acc.2)
  let path : StreamRedundantPathResult :=
    { deviceInterfaceResults := frames.map deviceInterfaceResultOf }
  return (if frames.any (·.vlanId ≠ stream.vlanId) then acc.1 ++ [path] else path :: acc.1, result)

/-- One stream in `GenerateStreamResult`. -/
def addStreamViewResult (lib : Library) (fuel : ℕ) (config : ScheduleConfig)
    (acc : QSet StreamViewResult × ScheduleResult) (streamId : ℤ) :
    Option (QSet StreamViewResult × ScheduleResult) := do
  let stream := config.getScheduleConfigStream streamId
  let (streamPathResults, result) ← List.foldlM
    (addListener (addStreamRedundantPath fuel stream)
      (fun _ paths => ({ streamRedundantPathResults := paths } : StreamPathResult))
      stream.priorityCodePoint streamId)
    ([], acc.2) (lib.walk stream.listeners)
  return (QSet.insert acc.1 {
    streamId := streamId
    streamName := stream.streamName
    streamTrafficType := stream.trafficType
    interval := stream.interval
    streamPathResults := streamPathResults }, result)

/-- `GenerateStreamResult` -/
def generateStreamResult (lib : Library) (fuel : ℕ) (config : ScheduleConfig)
    (result : ScheduleResult) : Option (QSet StreamViewResult × ScheduleResult) :=
  List.foldlM (addStreamViewResult lib fuel config) ([], result) config.scheduleConfigStreams.keys

/-- `GenerateScheduleResult` -/
def generateScheduleResult (lib : Library) (fuel : ℕ) (config : ScheduleConfig)
    (result : ScheduleResult) : Option ComputedResult := do
  let (routingResults, result) ← generateRoutingResult lib fuel config result
  let (streamViewResults, result) ← generateStreamResult lib fuel config result
  let gclResults ← generateGCLResult lib config result
  return {
    routingResults := routingResults
    streamViewResults := streamViewResults
    gclResults := gclResults }

/-- `AnalyzeScheduleResult` -/
def analyzeScheduleResult (lib : Library) (computedResult : ComputedResult) : Status :=
  (((lib.walk computedResult.routingResults).map Feasibility.checkRoutingResultFeasibility).find?
    (!·.isSuccess)).getD .success

/-- `DoAdvancedSchedule`: the status and the project it leaves. -/
def doAdvancedSchedule (lib : Library) (fuel : ℕ) (project : Project) : Option (Status × Project) :=
  match ScheduleConfig.prepareScheduleConfig fuel project with
  | .error .undefined => none
  | .error (.status status) => some (status, project)
  | .ok config => do
    let (status, config, result) ← computeSchedule lib fuel config
    if !status.isSuccess then return (status, project)
    let computedResult ← generateScheduleResult lib fuel config result
    return (analyzeScheduleResult lib computedResult,
      { project with
        computedResult := { computedResult with
          devices := project.devices
          links := project.links
          trafficDesign := project.trafficDesign } })

/-! ### The reports change nothing that is stored -/

variable {lib : Library}

/-- Asking for a frame that is stored leaves nothing behind. -/
theorem ScheduleResult.lookup_touchFrame {result : ScheduleResult} {key : FrameKey} {frame : Frame}
    (h : result.lookup key = some frame) (key' : FrameKey) :
    (result.touchFrame key).lookup key' = result.lookup key' := by
  rw [lookup_eq_of_getQueue, lookup_eq_of_getQueue, touchFrame, getQueue_updateQueue]
  obtain ⟨d, i, q, s, n, k⟩ := key
  obtain ⟨d', i', q', s', n', k'⟩ := key'
  dsimp only
  split_ifs with hplace
  · obtain ⟨rfl, rfl, rfl⟩ := hplace
    rw [lookup_eq_of_getQueue] at h
    dsimp only at h
    by_cases hs : s = s'
    · subst hs
      by_cases hn : n = n'
      · subst hn
        by_cases hk : k = k'
        · subst hk
          simp [QMap.touch, QMap.value_of_getElem? h, h]
        · simp [QMap.touch, hk]
      · simp [hn]
    · simp [hs]
  · rfl

/-- A schedule whose frames of a stream can be followed back to the talker. -/
structure Followable (streamId talkerId : ℤ) (result : ScheduleResult) : Prop where
  keyed : result.Keyed
  prev : ∀ key f, result.lookup key = some f → f.streamId = streamId → f.deviceId ≠ talkerId →
    ∃ prev, result.lookup f.prevKey = some prev

/-- The frame has its predecessor unless it is on the talker's device. -/
structure Frame.Follows (frame : Frame) (streamId talkerId : ℤ) (result : ScheduleResult) :
    Prop where
  streamId : frame.streamId = streamId
  prev : frame.deviceId ≠ talkerId → ∃ prev, result.lookup frame.prevKey = some prev

/-- Two schedules store the same frames. -/
def ScheduleResult.Same (result result' : ScheduleResult) : Prop :=
  ∀ key, result'.lookup key = result.lookup key

section
variable {streamId talkerId : ℤ} {result result' : ScheduleResult} {frame prev : Frame}

theorem Followable.follows (h : Followable streamId talkerId result) {key : FrameKey}
    (hf : result.lookup key = some frame) (hs : key.streamId = streamId) :
    frame.Follows streamId talkerId result := by
  have hid : frame.streamId = streamId := (congrArg FrameKey.streamId
    (h.keyed key frame hf)).trans hs
  exact ⟨hid, h.prev key frame hf hid⟩

/-- **A step back** comes to the predecessor, and leaves the schedule as it is. -/
theorem Frame.Follows.step (h : frame.Follows streamId talkerId result)
    (hres : Followable streamId talkerId result) (hsame : result.Same result')
    (hd : frame.deviceId ≠ talkerId) :
    (result'.getFrame frame.prevKey).Follows streamId talkerId result ∧
      result.Same (result'.touchFrame frame.prevKey) := by
  obtain ⟨prev, hprev⟩ := h.prev hd
  have hprev' : result'.lookup frame.prevKey = some prev := (hsame _).trans hprev
  have hget : result'.getFrame frame.prevKey = prev := by
    rw [ScheduleResult.getFrame, hprev', getD_some]
  refine ⟨hget ▸ hres.follows hprev h.streamId, fun key => ?_⟩
  rw [ScheduleResult.lookup_touchFrame hprev', hsame]

theorem same_of_addRedundantPath {fuel : ℕ} {stream : ScheduleConfigStream}
    {acc acc' : List RedundantPath × ScheduleResult}
    (hres : Followable streamId stream.talker.deviceId result)
    (hframe : frame.Follows streamId stream.talker.deviceId result) (hsame : result.Same acc.2)
    (h : addRedundantPath fuel stream acc frame = some acc') : result.Same acc'.2 := by
  simp only [addRedundantPath] at h
  obtain ⟨⟨path, result'⟩, hrun, h⟩ := bind_eq_some_iff.1 h
  obtain ⟨⟨f, p, r⟩, hv, hdone⟩ := Loop.exists_of_run hrun
  have hinv : f.Follows streamId stream.talker.deviceId result ∧ result.Same r := by
    refine hv.rule (I := fun (s : Frame × RedundantPath × ScheduleResult) =>
      s.1.Follows streamId stream.talker.deviceId result ∧ result.Same s.2.2) ?_ ?_
    · exact ⟨hframe, hsame⟩
    · rintro ⟨f, p, r⟩ u - ⟨hf, hr⟩ hb
      unfold redundantPathBody at hb
      dsimp only at hb
      by_cases hd : f.deviceId ≠ stream.talker.deviceId
      · rw [if_pos hd] at hb
        rw [← Iter.next.inj hb]
        exact hf.step hres hr hd
      · rw [if_neg hd] at hb
        cases hb
  simp only [redundantPathBody] at hdone
  split_ifs at hdone
  have hr := (Prod.mk.inj (Iter.done.inj hdone)).2
  rw [← some.inj h]
  exact hr ▸ hinv.2

theorem same_of_addStreamRedundantPath {fuel : ℕ} {stream : ScheduleConfigStream}
    {acc acc' : List StreamRedundantPathResult × ScheduleResult}
    (hres : Followable streamId stream.talker.deviceId result)
    (hframe : frame.Follows streamId stream.talker.deviceId result) (hsame : result.Same acc.2)
    (h : addStreamRedundantPath fuel stream acc frame = some acc') : result.Same acc'.2 := by
  simp only [addStreamRedundantPath] at h
  obtain ⟨⟨frames, result'⟩, hrun, h⟩ := bind_eq_some_iff.1 h
  obtain ⟨⟨f, p, r⟩, hv, hdone⟩ := Loop.exists_of_run hrun
  have hinv : f.Follows streamId stream.talker.deviceId result ∧ result.Same r := by
    refine hv.rule (I := fun (s : Frame × List Frame × ScheduleResult) =>
      s.1.Follows streamId stream.talker.deviceId result ∧ result.Same s.2.2) ?_ ?_
    · exact ⟨⟨hframe.streamId, hframe.prev⟩, hsame⟩
    · rintro ⟨f, p, r⟩ u - ⟨hf, hr⟩ hb
      simp only [streamPathBody] at hb
      split_ifs at hb with hd
      rw [← Iter.next.inj hb]
      exact hf.step hres hr hd
  simp only [streamPathBody] at hdone
  split_ifs at hdone
  have hr := (Prod.mk.inj (Iter.done.inj hdone)).2
  rw [← some.inj h]
  exact hr ▸ hinv.2

section
variable {β γ : Type} {queueId : UInt8} {listener : ScheduleConfigInterface}
  {addFrame : List β × ScheduleResult → Frame → Option (List β × ScheduleResult)}

/-- **The receptions of a sequence**: a report whose way back from a frame changes
nothing changes nothing. -/
theorem same_of_addSequence {entry : List β → γ} {sequenceId : ℤ}
    {acc acc' : List γ × ScheduleResult}
    (hres : Followable streamId talkerId result) (hsame : result.Same acc.2)
    (hframe : ∀ a a' frame, frame.Follows streamId talkerId result → result.Same a.2 →
      addFrame a frame = some a' → result.Same a'.2)
    (h : addSequence addFrame entry listener queueId streamId acc sequenceId = some acc') :
    result.Same acc'.2 := by
  simp only [addSequence] at h
  obtain ⟨⟨paths, r⟩, hfold, h⟩ := bind_eq_some_iff.1 h
  have hr : result.Same (paths, r).2 := by
    refine OptionRule.foldlM_rule (I := fun (a : List β × ScheduleResult) => result.Same a.2) hfold
      hsame fun c c' f hf hc hstep => ?_
    obtain ⟨k, hk⟩ := QMap.mem_vals.1 hf
    have hlookup : result.lookup
        ⟨listener.deviceId, listener.interfaceId, queueId, streamId, sequenceId, k⟩ = some f :=
      (hsame _).symm.trans hk
    exact hframe c c' f (hres.follows hlookup rfl) hc hstep
  rw [← some.inj h]
  exact hr

theorem same_of_addListeners {entry : ScheduleConfigInterface → List β → γ}
    {listeners : List ScheduleConfigInterface} {acc acc' : List γ × ScheduleResult}
    (hres : Followable streamId talkerId result) (hsame : result.Same acc.2)
    (hframe : ∀ a a' frame, frame.Follows streamId talkerId result → result.Same a.2 →
      addFrame a frame = some a' → result.Same a'.2)
    (h : List.foldlM (addListener addFrame entry queueId streamId) acc listeners = some acc') :
    result.Same acc'.2 := by
  refine OptionRule.foldlM_rule (I := fun (a : List γ × ScheduleResult) => result.Same a.2) h hsame
    fun a a' listener _ ha hlist => ?_
  have htouch : result.Same
      (a.2.touchStream listener.deviceId listener.interfaceId queueId streamId) := fun key => by
    rw [ScheduleResult.lookup_touchStream, ha]
  exact OptionRule.foldlM_rule (I := fun (a : List γ × ScheduleResult) => result.Same a.2) hlist
    htouch fun b b' sequenceId _ hb hseq => same_of_addSequence hres hb hframe hseq

end

end

section
variable {config : ScheduleConfig} {fuel : ℕ} {result result' : ScheduleResult}

/-- `GenerateRoutingResult` leaves the schedule as it is. -/
theorem same_of_generateRoutingResult {routingResults : QSet RoutingResult}
    (hres : ∀ id, Followable id (config.getScheduleConfigStream id).talker.deviceId result)
    (h : generateRoutingResult lib fuel config result = some (routingResults, result')) :
    result.Same result' := by
  unfold generateRoutingResult at h
  have hinit : result.Same (([] : QSet RoutingResult), result).2 := fun _ => rfl
  have hrule := OptionRule.foldlM_rule
    (I := fun (acc : QSet RoutingResult × ScheduleResult) => result.Same acc.2) h hinit
    fun acc acc' streamId _ hacc hstep => ?_
  · exact hrule
  · simp only [addRoutingResult] at hstep
    obtain ⟨⟨paths, r⟩, hfold, hstep⟩ := bind_eq_some_iff.1 hstep
    have hstart : result.Same (([] : List RoutingPath), acc.2).2 := hacc
    have hr : result.Same (paths, r).2 := same_of_addListeners (hres streamId) hstart
      (fun _ _ _ hf ha hb => same_of_addRedundantPath (hres streamId) hf ha hb) hfold
    rw [← some.inj hstep]
    exact hr

/-- `GenerateStreamResult` leaves the schedule as it is. -/
theorem same_of_generateStreamResult {streamViewResults : QSet StreamViewResult}
    (hres : ∀ id, Followable id (config.getScheduleConfigStream id).talker.deviceId result)
    (h : generateStreamResult lib fuel config result = some (streamViewResults, result')) :
    result.Same result' := by
  unfold generateStreamResult at h
  have hinit : result.Same (([] : QSet StreamViewResult), result).2 := fun _ => rfl
  have hrule := OptionRule.foldlM_rule
    (I := fun (acc : QSet StreamViewResult × ScheduleResult) => result.Same acc.2) h hinit
    fun acc acc' streamId _ hacc hstep => ?_
  · exact hrule
  · simp only [addStreamViewResult] at hstep
    obtain ⟨⟨paths, r⟩, hfold, hstep⟩ := bind_eq_some_iff.1 hstep
    have hstart : result.Same (([] : List StreamPathResult), acc.2).2 := hacc
    have hr : result.Same (paths, r).2 := same_of_addListeners (hres streamId) hstart
      (fun _ _ _ hf ha hb => same_of_addStreamRedundantPath (hres streamId) hf ha hb) hfold
    rw [← some.inj hstep]
    exact hr

theorem ScheduleInv.followable {config config' : ScheduleConfig} (h : ScheduleInv config result)
    (hextends : config.Extends config') (id : ℤ) :
    Followable id (config'.getScheduleConfigStream id).talker.deviceId result := by
  refine ⟨h.keyed, fun key f hf hs hd => (h.traced key f hf).stored ?_⟩
  rw [hs, ← hextends.talker]
  exact hd

/-- **The gate control lists** are those of the schedule that was computed. -/
theorem exists_of_generateScheduleResult {config config' : ScheduleConfig}
    {computedResult : ComputedResult} (hinv : ScheduleInv config result)
    (hextends : config.Extends config')
    (h : generateScheduleResult lib fuel config' result = some computedResult) :
    ∃ result', result.Same result' ∧
      generateGCLResult lib config' result' = some computedResult.gclResults := by
  simp only [generateScheduleResult] at h
  obtain ⟨⟨routingResults, r⟩, hrouting, h⟩ := bind_eq_some_iff.1 h
  obtain ⟨⟨streamViewResults, r'⟩, hview, h⟩ := bind_eq_some_iff.1 h
  obtain ⟨gclResults, hgcl, h⟩ := bind_eq_some_iff.1 h
  cases h
  have hsame := same_of_generateRoutingResult (hinv.followable hextends) hrouting
  have hfollowable : ∀ id, Followable id
    (config'.getScheduleConfigStream id).talker.deviceId r := by
    intro id
    have hf := hinv.followable hextends id
    refine ⟨fun key f h => hf.keyed key f ((hsame key).symm.trans h), fun key f h hs hd => ?_⟩
    obtain ⟨prev, hprev⟩ := hf.prev key f ((hsame key).symm.trans h) hs hd
    exact ⟨prev, (hsame _).trans hprev⟩
  have hsame' := same_of_generateStreamResult hfollowable hview
  exact ⟨r', fun key => (hsame' key).trans (hsame key), hgcl⟩

end

/-- **A computation that succeeds** has computed a schedule, of which it leaves the
reports. -/
theorem exists_of_doAdvancedSchedule {fuel : ℕ} {project project' : Project}
    {config : ScheduleConfig}
    (hprep : ScheduleConfig.prepareScheduleConfig fuel project = .ok config)
    (h : doAdvancedSchedule lib fuel project = some (.success, project')) :
    ∃ config' result computedResult,
      computeSchedule lib fuel config = some (.success, config', result) ∧
      generateScheduleResult lib fuel config' result = some computedResult ∧
      project' = { project with
        computedResult := { computedResult with
          devices := project.devices
          links := project.links
          trafficDesign := project.trafficDesign } } := by
  simp only [doAdvancedSchedule, hprep] at h
  obtain ⟨⟨status, config', result⟩, hcomp, h⟩ := bind_eq_some_iff.1 h
  dsimp only at h
  split_ifs at h with hst
  · have h := some.inj h
    rw [Prod.mk.injEq] at h
    rw [h.1] at hst
    cases hst
  · obtain rfl : status = .success := Status.isSuccess_iff.1 (by simpa using hst)
    obtain ⟨computedResult, hgenerate, h⟩ := bind_eq_some_iff.1 h
    have h := some.inj h
    rw [Prod.mk.injEq] at h
    exact ⟨config', result, computedResult, hcomp, hgenerate, h.2.symm⟩

end Algorithm
end Sebastian

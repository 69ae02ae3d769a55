/-
# The streams of a link

`UpdateStreamByLink` of `core/src/act_core_link.cpp`, as `DeleteLink` and `UpdateLink` run it for
the traffic streams with an end on the link.  One search for the new place serves both ends of the
link (`relocate`), the talker and the listeners are handled in exclusive branches, and of the
listeners only the first one on the link is looked at.

`relinkStream` says what a round leaves of its stream, `exists_relinkStreams` that the streams after
all rounds are just these.  From it follows when a deletion takes every end off the link
(`leavesNoEnd_iff`) and when the ends of the streams follow an updated link (`streamsFollow_iff`).
-/

import Sebastian.Core.LinkReplace

namespace Sebastian
namespace Core

open ExceptRule List Option

variable {project project' : Project} {link link' : Link} {stream : TrafficStream}
  {setting setting' : QSet TrafficStream} {place : Relocation}

/-! ### What a round leaves of a stream -/

/-- The place of a talker or listener is an end of the link. -/
def onLink (link : Link) (place : TrafficStreamInterface) : Bool :=
  link.hasEndpoint place.deviceId place.interfaceId

/-- What is left of a stream, by what the search for the new place has found. -/
def relinkStream (place : Relocation) (link : Link) (stream : TrafficStream) :
    Option TrafficStream :=
  match place with
  | .moved place =>
    if onLink link stream.talker then some { stream with talker := place } else some stream
  | .unmatched => some stream
  | .gone => detachStream link stream

theorem relinkStream_id {x : TrafficStream} (h : relinkStream place link stream = some x) :
    x.id = stream.id := by
  unfold relinkStream at h
  split at h
  · split_ifs at h
    · cases h
      rfl
    · cases h
      rfl
  · cases h
    rfl
  · exact (detachStream_eq_some h).1

theorem relinkStream_of_not_carries (hno : ¬carriesEndOf link stream) :
    relinkStream place link stream = some stream := by
  unfold relinkStream
  split
  · exact if_neg fun hend => hno (.inl hend)
  · rfl
  · exact detachStream_eq_self.2 hno

/-- **A round does to its stream what `relinkStream` says.** -/
theorem exists_relinkStep (hdistinct : project.trafficDesign.streamSetting.Distinct)
    (hmem : stream ∈ project.trafficDesign.streamSetting) :
    ∃ setting', updateStreamByLinkStep link link' project stream =
        .ok (withStreams project setting') ∧
      StreamLeft (relinkStream (relocate project link') link stream)
        project.trafficDesign.streamSetting stream setting' := by
  cases hplace : relocate project link' with
  | gone =>
    obtain ⟨setting', hstep, hround⟩ := exists_updateStreamByLinkStep hplace hdistinct hmem
    exact ⟨setting', hstep, hround.distinct, hround.mem⟩
  | unmatched =>
    refine ⟨project.trafficDesign.streamSetting, ?_, .unchanged hdistinct hmem⟩
    unfold updateStreamByLinkStep
    rw [hplace]
    split_ifs
    · rfl
    · split <;> rfl
  | moved place =>
    unfold updateStreamByLinkStep relinkStream onLink
    rw [hplace]
    dsimp only
    by_cases htalker : link.hasEndpoint stream.talker.deviceId stream.talker.interfaceId = true
    · rw [if_pos htalker, if_pos htalker]
      exact ⟨_, updateTrafficStreamSetting_stored hdistinct hmem rfl, .updated hdistinct hmem rfl⟩
    · rw [if_neg htalker, if_neg htalker]
      split
      · exact ⟨_, rfl, .unchanged hdistinct hmem⟩
      · exact ⟨_, updateTrafficStreamSetting_stored hdistinct hmem rfl,
          .updated hdistinct hmem rfl⟩

/-- **The streams after `UpdateStreamByLink`.** -/
theorem exists_relinkStreams (hdistinct : project.trafficDesign.streamSetting.Distinct) :
    ∃ setting', updateStreamByLink link link' project = .ok (withStreams project setting') ∧
      ∀ x, x ∈ setting' ↔ ∃ s ∈ project.trafficDesign.streamSetting,
        relinkStream (relocate project link') link s = some x := by
  obtain ⟨setting', hrun, -, hmem⟩ := exists_foldlM_streams
    (fun s x h => @relinkStream_id link s (relocate project link') x h)
    (fun setting s hset hs =>
      @exists_relinkStep (withStreams project setting) link link' s hset hs)
    project.trafficDesign.streamSetting project.trafficDesign.streamSetting hdistinct hdistinct
    fun s hs => hs
  refine ⟨setting', hrun, fun x => ?_⟩
  rw [hmem]
  refine or_iff_right ?_
  rintro ⟨hx, hne⟩
  exact hne x hx rfl

/-! ### The streams of a deleted link -/

/-- **No stream hangs on a deleted link**: none is left with an end on it, the streams that had none
are unchanged, and a stream is removed when its talker was on the link or all its listeners were. -/
structure LeavesNoEnd (link : Link) (setting setting' : QSet TrafficStream) : Prop where
  detached : ∀ x ∈ setting', ¬carriesEndOf link x
  kept : ∀ s ∈ setting, ¬carriesEndOf link s → s ∈ setting'
  removed : ∀ s ∈ setting, ((∀ x ∈ setting', x.id ≠ s.id) ↔
    onLink link s.talker = true ∨
      ((∃ l ∈ s.listeners, onLink link l = true) ∧ ∀ l ∈ s.listeners, onLink link l = true))

/-- The default link leads nowhere unless a device without an id is an end station. -/
theorem relocate_default_eq_gone :
    relocate project {} = .gone ↔ endStationById project (-1) = none := by
  unfold relocate
  dsimp only
  cases endStationById project (-1) with
  | none => exact ⟨fun _ => rfl, fun _ => rfl⟩
  | some device =>
    dsimp only
    cases device.interfaces.find? (·.interfaceId == -1) <;> exact ⟨nofun, nofun⟩

theorem detachStream_of_onLink (htalker : onLink link stream.talker = true) :
    detachStream link stream = none := by
  unfold detachStream
  exact if_pos htalker

/-- What the deletion leaves of a stream whose talker is not on the link. -/
theorem detachStream_of_talker (htalker : ¬onLink link stream.talker = true)
    {listener : TrafficStreamInterface} (hmem : listener ∈ stream.listeners)
    (hend : onLink link listener = true) :
    ∃ first ∈ stream.listeners, onLink link first = true ∧
      detachStream link stream = if (stream.listeners.remove first).isEmpty then none
        else some { stream with listeners := stream.listeners.remove first } := by
  unfold detachStream
  rw [if_neg (show ¬link.hasEndpoint stream.talker.deviceId stream.talker.interfaceId = true from
    htalker)]
  cases hfound : stream.listeners.find? fun l => link.hasEndpoint l.deviceId l.interfaceId with
  | none => exact absurd hend (find?_eq_none.1 hfound listener hmem)
  | some first =>
    exact ⟨first, mem_of_find?_eq_some hfound, find?_some hfound, rfl⟩

theorem mem_remove_listener {listeners : QSet TrafficStreamInterface}
    (hdistinct : listeners.Distinct) {l x : TrafficStreamInterface} :
    x ∈ listeners.remove l ↔ x ∈ listeners ∧ x ≠ l := by
  have hnodup := QSet.distinct_iff_nodup.1 hdistinct
  unfold QSet.remove
  rw [← erase_eq_eraseP', hnodup.mem_erase_iff, and_comm]

variable (hdistinct : stream.listeners.Distinct)
  (hone : ¬onLink link stream.talker = true → ∀ l ∈ stream.listeners, ∀ l' ∈ stream.listeners,
    onLink link l = true → onLink link l' = true → l = l')
include hdistinct hone

/-- **A stream is detached from a link that carries at most one of its listeners.** -/
theorem detachStream_detached
    {x : TrafficStream} (h : detachStream link stream = some x) : ¬carriesEndOf link x := by
  by_cases htalker : onLink link stream.talker = true
  · rw [detachStream_of_onLink htalker] at h
    cases h
  · by_cases hends : carriesEndOf link stream
    · obtain ⟨listener, hmem, hend⟩ := hends.resolve_left htalker
      obtain ⟨first, hfirst, hon, heq⟩ := detachStream_of_talker htalker hmem hend
      rw [heq] at h
      split_ifs at h
      cases h
      rintro (hx | ⟨l, hl, hx⟩)
      · exact htalker hx
      · obtain ⟨hl, hne⟩ := (mem_remove_listener hdistinct).1 hl
        exact hne (hone htalker l hl first hfirst hx hon)
    · rw [(detachStream_eq_some h).2.2 hends]
      exact hends

/-- A detached stream is gone when its talker or all its listeners were on the link. -/
theorem detachStream_eq_none_iff :
    detachStream link stream = none ↔ onLink link stream.talker = true ∨
      ((∃ l ∈ stream.listeners, onLink link l = true) ∧
        ∀ l ∈ stream.listeners, onLink link l = true) := by
  by_cases htalker : onLink link stream.talker = true
  · exact ⟨fun _ => .inl htalker, fun _ => detachStream_of_onLink htalker⟩
  · rw [or_iff_right htalker]
    by_cases hends : carriesEndOf link stream
    · obtain ⟨listener, hmem, hend⟩ := hends.resolve_left htalker
      obtain ⟨first, hfirst, hon, heq⟩ := detachStream_of_talker htalker hmem hend
      rw [heq, ite_eq_left_iff]
      constructor
      · intro hempty
        have hall : ∀ l ∈ stream.listeners, l = first := by
          intro l hl
          by_contra hne
          have hleft := (mem_remove_listener hdistinct).2 ⟨hl, hne⟩
          refine absurd (hempty ?_) nofun
          rw [List.isEmpty_iff]
          exact List.ne_nil_of_mem hleft
        exact ⟨⟨first, hfirst, hon⟩, fun l hl => by rw [hall l hl]; exact hon⟩
      · rintro ⟨-, hall⟩ hempty
        rw [List.isEmpty_iff] at hempty
        obtain ⟨l, hl⟩ := List.exists_mem_of_ne_nil _ hempty
        obtain ⟨hl, hne⟩ := (mem_remove_listener hdistinct).1 hl
        exact absurd (hone htalker l hl first hfirst (hall l hl) hon) hne
    · rw [detachStream_eq_self.2 hends]
      refine ⟨nofun, ?_⟩
      rintro ⟨⟨l, hl, hon⟩, -⟩
      exact absurd (.inr ⟨l, hl, hon⟩) hends

omit hdistinct hone

theorem deleteLink_streams {linkId : ℤ} (hstreams : project.trafficDesign.streamSetting.Distinct)
    (hfound : project.getLinkById linkId = some link)
    (hdel : deleteLink project linkId = .ok project') :
    ∀ x, x ∈ project'.trafficDesign.streamSetting ↔ ∃ s ∈ project.trafficDesign.streamSetting,
      relinkStream (relocate project {}) link s = some x := by
  obtain ⟨setting', hrun, hmem⟩ := @exists_relinkStreams
    { project with links := project.links.remove link } link {} hstreams
  unfold deleteLink at hdel
  rw [hfound] at hdel
  obtain ⟨p, hp, hproj⟩ := exists_of_bind hdel
  rw [hrun] at hp
  cases hp
  cases hproj
  obtain ⟨devices, hframe⟩ := updateDeviceByLink_frame link
    (withStreams { project with links := project.links.remove link } setting')
  rw [hframe]
  exact hmem

/-- **`DeleteLink` leaves no stream on the link exactly when no stream had an end there, or when
no device without an id is an end station and no stream that is sent from elsewhere has two
listeners on the link.** -/
theorem leavesNoEnd_iff {linkId : ℤ} (hstreams : project.trafficDesign.streamSetting.Distinct)
    (hlisteners : ∀ s ∈ project.trafficDesign.streamSetting, s.listeners.Distinct)
    (hfound : project.getLinkById linkId = some link)
    (hdelete : deleteLink project linkId = .ok project') :
    LeavesNoEnd link project.trafficDesign.streamSetting project'.trafficDesign.streamSetting ↔
      (∀ s ∈ project.trafficDesign.streamSetting, ¬carriesEndOf link s) ∨
      (endStationById project (-1) = none ∧
        ∀ s ∈ project.trafficDesign.streamSetting, ¬onLink link s.talker = true →
          ∀ l ∈ s.listeners, ∀ l' ∈ s.listeners, onLink link l = true → onLink link l' = true →
            l = l') := by
  have hmem := deleteLink_streams hstreams hfound hdelete
  generalize project'.trafficDesign.streamSetting = setting' at hmem ⊢
  rw [← relocate_default_eq_gone]
  -- a stream is the only one of its id
  have hown : ∀ s ∈ project.trafficDesign.streamSetting, ∀ x ∈ setting', x.id = s.id →
      relinkStream (relocate project {}) link s = some x := by
    intro s hs x hx hid
    obtain ⟨t, ht, hleft⟩ := (hmem x).1 hx
    obtain rfl := hstreams.eq_of_beq stream_beq_comm ht hs
      (stream_beq_iff.2 ((relinkStream_id hleft).symm.trans hid))
    exact hleft
  constructor
  · intro h
    by_cases hno : ∀ s ∈ project.trafficDesign.streamSetting, ¬carriesEndOf link s
    · exact .inl hno
    push Not at hno
    obtain ⟨s, hs, hends⟩ := hno
    -- a stream that is still there has kept an end on the link
    have hstays : ∀ place, relocate project {} = place → place = .gone := by
      intro place hplace
      by_contra hne
      by_cases htalker : onLink link s.talker = true
      · have hleft : ∃ x, relinkStream place link s = some x := by
          unfold relinkStream
          split
          · rw [if_pos htalker]
            exact ⟨_, rfl⟩
          · exact ⟨_, rfl⟩
          · exact absurd rfl hne
        obtain ⟨x, hleft⟩ := hleft
        exact (h.removed s hs).2 (.inl htalker) x ((hmem x).2 ⟨s, hs, hplace ▸ hleft⟩)
          (relinkStream_id hleft)
      · have hleft : relinkStream place link s = some s := by
          unfold relinkStream
          split
          · exact if_neg htalker
          · rfl
          · exact absurd rfl hne
        exact h.detached s ((hmem s).2 ⟨s, hs, hplace ▸ hleft⟩) hends
    have hgone := hstays _ rfl
    rw [hgone] at hmem
    refine .inr ⟨hgone, fun t ht htalker l hl l' hl' hon hon' => ?_⟩
    by_contra hne
    -- the second listener is still on the link
    obtain ⟨first, hfirst, -, heq⟩ := detachStream_of_talker htalker hl hon
    obtain ⟨other, hother, hotherOn⟩ : ∃ other ∈ t.listeners.remove first,
        onLink link other = true := by
      by_cases hlfirst : l = first
      · exact ⟨l', (mem_remove_listener (hlisteners t ht)).2 ⟨hl', fun e => hne
          (hlfirst.trans e.symm)⟩,
          hon'⟩
      · exact ⟨l, (mem_remove_listener (hlisteners t ht)).2 ⟨hl, hlfirst⟩, hon⟩
    rw [if_neg (by rw [List.isEmpty_iff]; exact List.ne_nil_of_mem hother)] at heq
    exact h.detached _ ((hmem _).2 ⟨t, ht, heq⟩) (.inr ⟨other, hother, hotherOn⟩)
  · rintro (hno | ⟨hgone, hone⟩)
    · have hsame : ∀ x, x ∈ setting' ↔ x ∈ project.trafficDesign.streamSetting := by
        intro x
        rw [hmem]
        constructor
        · rintro ⟨s, hs, hleft⟩
          rw [relinkStream_of_not_carries (hno s hs)] at hleft
          exact some.inj hleft ▸ hs
        · exact fun hx => ⟨x, hx, relinkStream_of_not_carries (hno x hx)⟩
      refine ⟨fun x hx => hno x ((hsame x).1 hx), fun s hs _ => (hsame s).2 hs, fun s hs => ?_⟩
      refine iff_of_false (fun h => h s ((hsame s).2 hs) rfl) ?_
      rintro (htalker | ⟨⟨l, hl, hon⟩, -⟩)
      · exact hno s hs (.inl htalker)
      · exact hno s hs (.inr ⟨l, hl, hon⟩)
    · rw [hgone] at hmem hown
      refine ⟨fun x hx => ?_, fun s hs hno => ?_, fun s hs => ?_⟩
      · obtain ⟨s, hs, hleft⟩ := (hmem x).1 hx
        exact detachStream_detached (hlisteners s hs) (hone s hs) hleft
      · exact (hmem s).2 ⟨s, hs, detachStream_eq_self.2 hno⟩
      · rw [← detachStream_eq_none_iff (hlisteners s hs) (hone s hs)]
        constructor
        · intro hremd
          cases hleft : detachStream link s with
          | none => rfl
          | some x =>
            exact absurd (@relinkStream_id link s .gone x hleft)
              (hremd x ((hmem x).2 ⟨s, hs, hleft⟩))
        · intro hnone x hx hid
          have hleft := hown s hs x hx hid
          unfold relinkStream at hleft
          rw [hnone] at hleft
          cases hleft

/-- Three bridged end stations, two of them linked, and a stream that the third one sends to these
listeners. -/
def threeStations (listeners : QSet TrafficStreamInterface) : Project where
  devices :=
    [{ id := 1, ipAddress := "10.0.0.1", deviceType := .bridgedEndStation
       interfaces := [{ deviceId := 1, interfaceId := 1, used := true, supportSpeeds := [1000] },
         { deviceId := 1, interfaceId := 2, supportSpeeds := [1000] }] },
     { id := 2, ipAddress := "10.0.0.2", deviceType := .bridgedEndStation
       interfaces := [{ deviceId := 2, interfaceId := 1, used := true, supportSpeeds := [1000] }] },
     { id := 3, ipAddress := "10.0.0.3", deviceType := .bridgedEndStation
       interfaces := [{ deviceId := 3, interfaceId := 1, supportSpeeds := [1000] }] }]
  links :=
    [{ id := 1, sourceDeviceId := 1, sourceInterfaceId := 1, destinationDeviceId := 2,
       destinationInterfaceId := 1, speed := 1000 }]
  trafficDesign := { streamSetting := [{ id := 1, talker := ⟨3, 1⟩, listeners := listeners }] }

/-- The link between the first two stations. -/
def directLink : Link :=
  { id := 1, sourceDeviceId := 1, sourceInterfaceId := 1, destinationDeviceId := 2,
    destinationInterfaceId := 1, speed := 1000 }

/-- The ends of the streams. -/
def streamEnds (setting : QSet TrafficStream) :
    List (ℤ × TrafficStreamInterface × List TrafficStreamInterface) :=
  setting.map fun s => (s.id, s.talker, s.listeners)

/-- The deletion of a link with one listener leaves nothing on it. -/
theorem leavesNoEnd_threeStations : ∃ project',
    deleteLink (threeStations [⟨1, 1⟩, ⟨1, 2⟩]) 1 = .ok project' ∧
    streamEnds project'.trafficDesign.streamSetting = [(1, ⟨3, 1⟩, [⟨1, 2⟩])] ∧
    LeavesNoEnd directLink (threeStations [⟨1, 1⟩, ⟨1, 2⟩]).trafficDesign.streamSetting
      project'.trafficDesign.streamSetting := by
  refine ⟨_, rfl, by decide +kernel, (@leavesNoEnd_iff _ _ directLink 1 ?_ ?_ rfl rfl).2
    (.inr ⟨rfl, ?_⟩)⟩
  · unfold QSet.Distinct
    decide
  · unfold QSet.Distinct
    decide
  · decide

/-- **A listener stays on the deleted link** when both its ends had one. -/
theorem not_leavesNoEnd_threeStations : ∃ project',
    deleteLink (threeStations [⟨1, 1⟩, ⟨2, 1⟩]) 1 = .ok project' ∧
    streamEnds project'.trafficDesign.streamSetting = [(1, ⟨3, 1⟩, [⟨2, 1⟩])] ∧
    ¬LeavesNoEnd directLink (threeStations [⟨1, 1⟩, ⟨2, 1⟩]).trafficDesign.streamSetting
      project'.trafficDesign.streamSetting := by
  refine ⟨_, rfl, by decide +kernel, fun h => ?_⟩
  refine h.detached { id := 1, talker := ⟨3, 1⟩, listeners := [⟨2, 1⟩] } ?_ ?_
  · exact mem_cons_self
  · exact .inr ⟨⟨2, 1⟩, mem_cons_self, by decide⟩

/-! ### The streams of an updated link -/

/-- The source end of a link. -/
def sourceEnd (link : Link) : TrafficStreamInterface :=
  ⟨link.sourceDeviceId, link.sourceInterfaceId⟩

/-- The destination end of a link. -/
def destinationEnd (link : Link) : TrafficStreamInterface :=
  ⟨link.destinationDeviceId, link.destinationInterfaceId⟩

/-- The place is at an end station. -/
def atEndStation (project : Project) (place : TrafficStreamInterface) : Bool :=
  (endStationById project place.deviceId).isSome

/-- The update keeps both ends, or moves one of them to an end station. -/
def MovesEnd (project : Project) (link link' : Link) : Prop :=
  (sourceEnd link' = sourceEnd link ∧ destinationEnd link' = destinationEnd link) ∨
    (sourceEnd link' ≠ sourceEnd link ∧ atEndStation project (sourceEnd link') = true) ∨
    (destinationEnd link' ≠ destinationEnd link ∧
      atEndStation project (destinationEnd link') = true)

/-- Where a talker or listener belongs after the update: an end that moved to an end station takes
it along. -/
def movedEnd (project : Project) (link link' : Link) (place : TrafficStreamInterface) :
    TrafficStreamInterface :=
  if place = sourceEnd link ∧ atEndStation project (sourceEnd link') then sourceEnd link'
  else if place = destinationEnd link ∧ atEndStation project (destinationEnd link') then
    destinationEnd link'
  else place

/-- **The streams follow the link**: every talker and listener is where it belongs. -/
structure StreamsFollow (project : Project) (link link' : Link)
    (setting setting' : QSet TrafficStream) : Prop where
  moved : ∀ s ∈ setting, ∃ x ∈ setting',
    x = { s with talker := movedEnd project link link' s.talker, listeners := x.listeners } ∧
    ∀ l, l ∈ x.listeners ↔ ∃ old ∈ s.listeners, movedEnd project link link' old = l
  old : ∀ x ∈ setting', ∃ s ∈ setting, x.id = s.id

theorem movedEnd_of_not_onLink {place : TrafficStreamInterface} (h : ¬onLink link place = true) :
    movedEnd project link link' place = place := by
  have hsrc : place ≠ sourceEnd link := by
    rintro rfl
    exact h (by simp [onLink, sourceEnd, Link.hasEndpoint])
  have hdestination : place ≠ destinationEnd link := by
    rintro rfl
    exact h (by simp [onLink, destinationEnd, Link.hasEndpoint])
  unfold movedEnd
  rw [if_neg fun e => hsrc e.1, if_neg fun e => hdestination e.1]

theorem movedEnd_of_not_atEndStation (hsrc : ¬atEndStation project (sourceEnd link') = true)
    (hdestination : ¬atEndStation project (destinationEnd link') = true)
    (place : TrafficStreamInterface) : movedEnd project link link' place = place := by
  unfold movedEnd
  rw [if_neg fun e => hsrc e.2, if_neg fun e => hdestination e.2]

/-- The search finds nothing when neither end is at an end station. -/
theorem relocate_eq_gone : relocate project link' = .gone ↔
    ¬atEndStation project (sourceEnd link') = true ∧
      ¬atEndStation project (destinationEnd link') = true := by
  unfold relocate atEndStation sourceEnd destinationEnd
  dsimp only
  cases endStationById project link'.sourceDeviceId with
  | some device =>
    dsimp only
    cases device.interfaces.find? (·.interfaceId == link'.sourceInterfaceId) <;> simp
  | none =>
    dsimp only
    cases endStationById project link'.destinationDeviceId with
    | some device =>
      dsimp only
      cases device.interfaces.find? (·.interfaceId == link'.destinationInterfaceId) <;> simp
    | none => simp

/-- A checked link ends at interfaces of its devices. -/
theorem relocate_ne_unmatched {u : Unit} (h : checkLink project link' = .ok u) :
    relocate project link' ≠ .unmatched := by
  obtain ⟨srcDev, dstDev, srcIntf, dstIntf, hlinkable⟩ := checkLink_ok h
  unfold relocate endStationById
  dsimp only
  rw [hlinkable.source, hlinkable.destination]
  cases hsrc : (some srcDev).filter fun device =>
      decide (device.deviceType = .endStation ∨ device.deviceType = .bridgedEndStation) with
  | some device =>
    obtain ⟨hdev, -⟩ := filter_eq_some_iff.1 hsrc
    cases hdev
    dsimp only
    rw [hlinkable.sourceInterface]
    exact nofun
  | none =>
    dsimp only
    cases hdest : (some dstDev).filter fun device =>
        decide (device.deviceType = .endStation ∨ device.deviceType = .bridgedEndStation) with
    | some device =>
      obtain ⟨hdev, -⟩ := filter_eq_some_iff.1 hdest
      cases hdev
      dsimp only
      rw [hlinkable.destinationInterface]
      exact nofun
    | none => exact nofun

theorem SameButUsed.endStationById (h : SameButUsed project project') (id : ℤ) :
    (endStationById project' id).map withoutUsed = (endStationById project id).map withoutUsed := by
  unfold Core.endStationById
  -- the filter looks at the type alone
  have hid := congrArg (Option.filter fun device : Device =>
    decide (device.deviceType = .endStation ∨ device.deviceType = .bridgedEndStation)) (h id)
  rwa [Option.filter_map, Option.filter_map] at hid

/-- Where `relocate` moves an end to on one device. -/
def relocateTo (device : Device) (interfaceId : ℤ) : Relocation :=
  match device.interfaces.find? (·.interfaceId == interfaceId) with
  | some intf => .moved ⟨intf.deviceId, intf.interfaceId⟩
  | none => .unmatched

theorem SameButUsed.relocate (h : SameButUsed project project') (link : Link) :
    relocate project' link = relocate project link := by
  have hat : ∀ {device device' : Device}, withoutUsed device' = withoutUsed device →
      ∀ interfaceId : ℤ, relocateTo device' interfaceId = relocateTo device interfaceId := by
    intro device device' hsame interfaceId
    have hlists : device'.interfaces.map (fun intf => { intf with used := false }) =
        device.interfaces.map fun intf => { intf with used := false } :=
      congrArg Device.interfaces hsame
    have hfinds := congrArg (find? (·.interfaceId == interfaceId)) hlists
    rw [find?_map, find?_map] at hfinds
    have hfinds' : (device'.interfaces.find? (·.interfaceId == interfaceId)).map
          (fun intf => { intf with used := false }) =
        (device.interfaces.find? (·.interfaceId == interfaceId)).map
          fun intf => { intf with used := false } := hfinds
    unfold relocateTo
    cases hnew : device'.interfaces.find? (·.interfaceId == interfaceId) with
    | none =>
      rw [hnew, map_none, eq_comm, map_eq_none_iff] at hfinds'
      rw [hfinds']
    | some intf' =>
      rw [hnew, map_some, eq_comm, map_eq_some_iff] at hfinds'
      obtain ⟨intf, hold, heq⟩ := hfinds'
      rw [hold]
      have hdev : intf.deviceId = intf'.deviceId := (congrArg Interface.deviceId heq :)
      have hintf : intf.interfaceId = intf'.interfaceId :=
        (congrArg Interface.interfaceId heq :)
      dsimp only
      rw [hdev, hintf]
  have hstation : ∀ id, (Core.endStationById project' id = none ∧
        Core.endStationById project id = none) ∨
      ∃ device' device, Core.endStationById project' id = some device' ∧
        Core.endStationById project id = some device ∧
        withoutUsed device' = withoutUsed device := by
    intro id
    have hid := h.endStationById id
    cases hnew : Core.endStationById project' id with
    | none =>
      rw [hnew, map_none, eq_comm, map_eq_none_iff] at hid
      exact .inl ⟨rfl, hid⟩
    | some device' =>
      rw [hnew, map_some, eq_comm, map_eq_some_iff] at hid
      obtain ⟨device, hold, heq⟩ := hid
      exact .inr ⟨device', device, rfl, hold, heq.symm⟩
  unfold Core.relocate
  dsimp only
  rcases hstation link.sourceDeviceId with ⟨hnew, hold⟩ | ⟨device', device, hnew, hold, hsame⟩
  · rw [hnew, hold]
    dsimp only
    rcases hstation link.destinationDeviceId with ⟨hnew, hold⟩ | ⟨device', device, hnew, hold,
      hsame⟩
    · rw [hnew, hold]
    · rw [hnew, hold]
      exact hat hsame _
  · rw [hnew, hold]
    exact hat hsame _

theorem relocate_withDeviceIps : relocate project (withDeviceIps project link') =
    relocate project link' := rfl

theorem updateLink_streams (hdevs : DevicesWellFormed project.devices)
    (hstreams : project.trafficDesign.streamSetting.Distinct)
    (horig : project.links.find link' = some link)
    (hupd : updateLink project link' = .ok project') : checkLink project link' = .ok () ∧
    ∀ x, x ∈ project'.trafficDesign.streamSetting ↔ ∃ s ∈ project.trafficDesign.streamSetting,
      relinkStream (relocate project link') link s = some x := by
  obtain ⟨u, hcheck, hok⟩ := exists_of_bind hupd
  dsimp only at hok
  have hfind : project.links.find (withDeviceIps project link') = some link := horig
  rw [hfind] at hok
  obtain ⟨_, -, hok⟩ := exists_of_bind hok
  -- the project in which the streams are updated
  obtain ⟨linked, hlinked⟩ : ∃ linked : Project, linked =
      { project with
        links := (project.links.remove (withDeviceIps project link')).insert
          (withDeviceIps project link') } := ⟨_, rfl⟩
  rw [← hlinked] at hok
  have hlinkedDevices : DevicesWellFormed linked.devices := by
    rw [hlinked]
    exact hdevs
  obtain ⟨devices, hframe⟩ := updateDeviceByLink_frame link linked
  obtain ⟨devices', hframe'⟩ := updateDeviceByLink_frame (withDeviceIps project link')
    (updateDeviceByLink link linked)
  have hwell : DevicesWellFormed (updateDeviceByLink link linked).devices :=
    hlinkedDevices.setUsedInterface.setUsedInterface
  have hsame : SameButUsed project (updateDeviceByLink (withDeviceIps project link')
      (updateDeviceByLink link linked)) :=
    ((SameButUsed.of_devices (by rw [hlinked])).trans
      (sameButUsed_updateDeviceByLink hlinkedDevices)).trans (sameButUsed_updateDeviceByLink hwell)
  have hsetting : (updateDeviceByLink (withDeviceIps project link')
      (updateDeviceByLink link linked)).trafficDesign = project.trafficDesign := by
    rw [hframe', hframe, hlinked]
  obtain ⟨setting', hrun, hmem⟩ := @exists_relinkStreams (updateDeviceByLink
    (withDeviceIps project link') (updateDeviceByLink link linked)) link
    (withDeviceIps project link') (by rw [hsetting]; exact hstreams)
  rw [hrun] at hok
  cases hok
  refine ⟨hcheck, ?_⟩
  rw [hsame.relocate, relocate_withDeviceIps, hsetting] at hmem
  exact hmem

/-- **The streams follow an updated link exactly when, for every stream with an end on it,** the
search finds a new place, this is the place its talker belongs to if the talker was on the link,
and the update does not change where the listeners belong. -/
theorem streamsFollow_iff (hdevices : DevicesWellFormed project.devices)
    (hstreams : project.trafficDesign.streamSetting.Distinct)
    (hlisteners : ∀ s ∈ project.trafficDesign.streamSetting, s.listeners.Distinct)
    (horig : project.links.find link' = some link)
    (hupdate : updateLink project link' = .ok project') :
    (MovesEnd project link link' → StreamsFollow project link link'
      project.trafficDesign.streamSetting project'.trafficDesign.streamSetting) ↔
    (MovesEnd project link link' →
      ∀ s ∈ project.trafficDesign.streamSetting, carriesEndOf link s →
        relocate project link' ≠ .gone ∧
        (onLink link s.talker = true →
          relocate project link' = .moved (movedEnd project link link' s.talker)) ∧
        ∀ l, l ∈ s.listeners ↔ ∃ old ∈ s.listeners, movedEnd project link link' old = l) := by
  refine imp_congr_right fun _ => ?_
  obtain ⟨hcheck, hmem⟩ := updateLink_streams hdevices hstreams horig hupdate
  have hmatched := relocate_ne_unmatched hcheck
  generalize project'.trafficDesign.streamSetting = setting' at hmem ⊢
  constructor
  · intro h s hs hends
    obtain ⟨x, hx, heq, hplaces⟩ := h.moved s hs
    -- the stream that took its place comes from it
    have hleft : relinkStream (relocate project link') link s = some x := by
      obtain ⟨t, ht, hleft⟩ := (hmem x).1 hx
      obtain rfl := hstreams.eq_of_beq stream_beq_comm ht hs
        (stream_beq_iff.2 ((relinkStream_id hleft).symm.trans (by rw [heq])))
      exact hleft
    cases hplace : relocate project link' with
    | unmatched => exact absurd hplace hmatched
    | moved place =>
      rw [hplace] at hleft
      unfold relinkStream at hleft
      dsimp only at hleft
      split_ifs at hleft with htalker
      · have hx' := (some.inj hleft).trans heq
        refine ⟨nofun, fun _ => congrArg Relocation.moved (congrArg TrafficStream.talker hx' :), ?_⟩
        rw [← some.inj hleft] at hplaces
        exact hplaces
      · rw [← some.inj hleft] at hplaces
        exact ⟨nofun, fun hon => absurd hon htalker, hplaces⟩
    | gone =>
      -- both ends were kept and none of them is at an end station: nothing moves
      obtain ⟨hsrc, hdestination⟩ := relocate_eq_gone.1 hplace
      have hfixed := @movedEnd_of_not_atEndStation _ link _ hsrc hdestination
      rw [hplace] at hleft
      have hlen := (detachStream_eq_some hleft).2.1 hends
      have hsub : s.listeners ⊆ x.listeners := fun l hl => (hplaces l).2 ⟨l, hl, hfixed l⟩
      have hle := (subperm_of_subset
        (QSet.distinct_iff_nodup.1 (hlisteners s hs)) hsub).length_le
      omega
  · intro h
    refine ⟨fun s hs => ?_, fun x hx => ?_⟩
    · by_cases hends : carriesEndOf link s
      · obtain ⟨hgone, htalker, hplaces⟩ := h s hs hends
        cases hplace : relocate project link' with
        | unmatched => exact absurd hplace hmatched
        | gone => exact absurd hplace hgone
        | moved place =>
          rw [hplace] at htalker hmem
          by_cases hon : onLink link s.talker = true
          · have hmoved := Relocation.moved.inj (htalker hon)
            refine ⟨{ s with talker := place }, (hmem _).2 ⟨s, hs, if_pos hon⟩, ?_, hplaces⟩
            rw [← hmoved]
          · refine ⟨s, (hmem _).2 ⟨s, hs, if_neg hon⟩, ?_, hplaces⟩
            rw [movedEnd_of_not_onLink hon]
      · refine ⟨s, (hmem s).2 ⟨s, hs, relinkStream_of_not_carries hends⟩, ?_, fun l => ?_⟩
        · rw [movedEnd_of_not_onLink fun hon => hends (.inl hon)]
        · have hfixed : ∀ old ∈ s.listeners, movedEnd project link link' old = old :=
            fun old hold => movedEnd_of_not_onLink fun hon => hends (.inr ⟨old, hold, hon⟩)
          constructor
          · exact fun hl => ⟨l, hl, hfixed l hl⟩
          · rintro ⟨old, hold, heq⟩
            rw [hfixed old hold] at heq
            exact heq ▸ hold
    · obtain ⟨s, hs, hleft⟩ := (hmem x).1 hx
      exact ⟨s, hs, relinkStream_id hleft⟩

/-- The link between the first two stations, with a longer cable. -/
def longerLink : Link := { directLink with cableLength := 5 }

/-- The link, moved to the other interface of the first station. -/
def movedLink : Link := { directLink with sourceInterfaceId := 2 }

/-- The stations with these streams. -/
def stationsWith (streams : QSet TrafficStream) : Project :=
  withStreams (threeStations []) streams

theorem stationsWith_devices (streams : QSet TrafficStream) :
    DevicesWellFormed (stationsWith streams).devices := by
  show DevicesWellFormed (threeStations []).devices
  refine ⟨?_, ?_⟩
  · unfold QSet.Distinct threeStations
    decide
  · unfold threeStations
    decide

/-- A talker at the source end moves with it. -/
theorem streamsFollow_stations : ∃ project',
    updateLink (stationsWith [{ id := 1, talker := ⟨1, 1⟩, listeners := [⟨3, 1⟩] }]) movedLink =
      .ok project' ∧
    streamEnds project'.trafficDesign.streamSetting = [(1, ⟨1, 2⟩, [⟨3, 1⟩])] ∧
    StreamsFollow (stationsWith [{ id := 1, talker := ⟨1, 1⟩, listeners := [⟨3, 1⟩] }]) directLink
      movedLink [{ id := 1, talker := ⟨1, 1⟩, listeners := [⟨3, 1⟩] }]
      project'.trafficDesign.streamSetting := by
  refine ⟨_, rfl, by decide +kernel, (streamsFollow_iff (stationsWith_devices _) ?_ ?_ rfl rfl).2
    (fun _ => ?_) (.inr (.inl ⟨by decide, by decide +kernel⟩))⟩
  · unfold QSet.Distinct
    decide
  · unfold QSet.Distinct
    decide
  · rintro s hs -
    obtain rfl := mem_singleton.1 hs
    refine ⟨nofun, fun _ => rfl, fun l => ?_⟩
    have hfixed : movedEnd (stationsWith [{ id := 1, talker := ⟨1, 1⟩, listeners := [⟨3, 1⟩] }])
        directLink movedLink ⟨3, 1⟩ = ⟨3, 1⟩ := by decide +kernel
    simp [hfixed, eq_comm]

/-- A stream that the second station sends over the link. -/
def sentStream : TrafficStream := { id := 1, talker := ⟨2, 1⟩, listeners := [⟨3, 1⟩] }

/-- A stream that the first station receives over the link. -/
def receivedStream : TrafficStream := { id := 1, talker := ⟨3, 1⟩, listeners := [⟨1, 1⟩] }

/-- **Without a move the talker at the destination end is put at the source end**, and a listener
at a moved end stays behind. -/
theorem not_streamsFollow_stations :
    (∃ project', updateLink (stationsWith [sentStream]) longerLink = .ok project' ∧
      streamEnds project'.trafficDesign.streamSetting = [(1, ⟨1, 1⟩, [⟨3, 1⟩])] ∧
      ¬(MovesEnd (stationsWith [sentStream]) directLink longerLink →
        StreamsFollow (stationsWith [sentStream]) directLink longerLink [sentStream]
          project'.trafficDesign.streamSetting)) ∧
    ∃ project', updateLink (stationsWith [receivedStream]) movedLink = .ok project' ∧
      streamEnds project'.trafficDesign.streamSetting = [(1, ⟨3, 1⟩, [⟨1, 1⟩])] ∧
      ¬(MovesEnd (stationsWith [receivedStream]) directLink movedLink →
        StreamsFollow (stationsWith [receivedStream]) directLink movedLink [receivedStream]
          project'.trafficDesign.streamSetting) := by
  refine ⟨⟨_, rfl, by decide +kernel, fun h => ?_⟩, _, rfl, by decide +kernel, fun h => ?_⟩
  · obtain ⟨x, hx, heq, -⟩ := (h (.inl ⟨rfl, rfl⟩)).moved sentStream mem_cons_self
    have htalker := congrArg TrafficStream.talker heq
    rw [mem_singleton.1 hx] at htalker
    exact absurd htalker (by decide +kernel)
  · have hmoves : MovesEnd (stationsWith [receivedStream]) directLink movedLink :=
      .inr (.inl ⟨by decide, by decide +kernel⟩)
    obtain ⟨x, hx, -, hplaces⟩ := (h hmoves).moved receivedStream mem_cons_self
    have hlist := (hplaces ⟨1, 2⟩).2 ⟨⟨1, 1⟩, mem_cons_self, by decide +kernel⟩
    rw [mem_singleton.1 hx] at hlist
    exact absurd hlist (by decide +kernel)

end Core
end Sebastian

/-
# Replacing links

What `DeleteLink` and `CreateLink` do exactly, for the operations that put the links of a scan in
the place of those of the project.

`DeleteLink` always succeeds on a link of the project (`exists_deleteLink`): it takes out this link
and takes its ends from the streams (`detachStream`), whose talker or listener stood there.
`CreateLink` appends the link when its ports are free and there is an id (`createLink_of_free`).
Both leave the devices as they are but for the flags of their interfaces (`SameButUsed`).
-/

import Sebastian.Core.Topology

namespace Sebastian
namespace Core

open List QSet

/-- `CreateLink` with what it leaves behind: the error, if there was one, the link as its caller has
it then, and the project. -/
def createLinkInPlace (project : Project) (link : Link) : Option Status × Link × Project :=
  match checkLink project link with
  | .error status => (some status, link, project)
  | .ok _ =>
    match assignLinkId project link with
    | .error status => (some status, link, project)
    | .ok (link, project) =>
      let link := withDeviceIps project link
      match checkLinkPort project.links link with
      | .error status => (some status, link, project)
      | .ok _ =>
        (none, link, updateDeviceByLink link { project with links := project.links.insert link })

variable {project project' : Project} {link link' : Link} {stream : TrafficStream}
  {stale : Set (ℤ × ℤ)} {deviceId interfaceId : ℤ}

/-- It succeeds when `CreateLink` does, with the same result. -/
theorem createLinkInPlace_eq_none : createLinkInPlace project link = (none, link', project') ↔
      createLink project link = .ok (link', project') := by
  unfold createLinkInPlace createLink
  cases checkLink project link with
  | error status => simp [bind, Except.bind]
  | ok u =>
    cases assignLinkId project link with
    | error status => simp [bind, Except.bind]
    | ok assigned =>
      obtain ⟨l, p⟩ := assigned
      cases hport : checkLinkPort p.links (withDeviceIps p l) with
      | error status => simp [bind, Except.bind, hport]
      | ok u => simp [bind, Except.bind, hport, pure, Except.pure]

/-! ### The streams of a link -/

/-- An end of the link is where the stream is sent or received. -/
def carriesEndOf (link : Link) (stream : TrafficStream) : Prop :=
  link.hasEndpoint stream.talker.deviceId stream.talker.interfaceId = true ∨
    ∃ listener ∈ stream.listeners, link.hasEndpoint listener.deviceId listener.interfaceId = true

/-- What is left of a stream after the link was deleted. -/
def detachStream (link : Link) (stream : TrafficStream) : Option TrafficStream :=
  if link.hasEndpoint stream.talker.deviceId stream.talker.interfaceId then none
  else
    match stream.listeners.find? fun l => link.hasEndpoint l.deviceId l.interfaceId with
    | none => some stream
    | some listener =>
      if (stream.listeners.remove listener).isEmpty then none
      else some { stream with listeners := stream.listeners.remove listener }

theorem length_remove_lt {listeners : QSet TrafficStreamInterface}
    {listener : TrafficStreamInterface} (h : listener ∈ listeners) :
    (listeners.remove listener).length < listeners.length := by
  unfold remove
  have hlen : (eraseP (· == listener) listeners).length = listeners.length - 1 :=
    length_eraseP_of_mem h (by simp)
  have hpos := length_pos_of_mem h
  omega

/-- **A stream keeps its id**, and it loses a listener unless the link carries none of its ends. -/
theorem detachStream_eq_some {x : TrafficStream} (h : detachStream link stream = some x) :
    x.id = stream.id ∧ (carriesEndOf link stream → x.listeners.length < stream.listeners.length) ∧
      (¬carriesEndOf link stream → x = stream) := by
  unfold detachStream at h
  split_ifs at h with htalker
  split at h
  · next hnone =>
    cases h
    have hno : ¬carriesEndOf link stream := by
      rintro (hend | ⟨listener, hmem, hend⟩)
      · exact htalker hend
      · exact absurd hend (find?_eq_none.1 hnone listener hmem)
    exact ⟨rfl, fun hends => absurd hends hno, fun _ => rfl⟩
  · next listener hfound =>
    have hmem := mem_of_find?_eq_some hfound
    have hend : link.hasEndpoint listener.deviceId listener.interfaceId = true := by
      simpa using find?_some hfound
    split_ifs at h
    cases h
    exact ⟨rfl, fun _ => length_remove_lt hmem,
      fun hno => absurd (.inr ⟨listener, hmem, hend⟩) hno⟩

/-- A stream stays as it is exactly when the link carries none of its ends. -/
theorem detachStream_eq_self : detachStream link stream = some stream ↔
    ¬carriesEndOf link stream := by
  constructor
  · intro h hends
    exact absurd ((detachStream_eq_some h).2.1 hends) (lt_irrefl _)
  · intro hno
    unfold detachStream
    rw [if_neg fun hend => hno (.inl hend)]
    have hnone : (stream.listeners.find? fun l => link.hasEndpoint l.deviceId l.interfaceId) =
      none :=
      find?_eq_none.2 fun listener hmem hend => hno (.inr ⟨listener, hmem, hend⟩)
    rw [hnone]

theorem stream_beq_iff {x y : TrafficStream} : (x == y) = true ↔ x.id = y.id := by
  simp [BEq.beq]

theorem stream_beq_comm (x y : TrafficStream) : (x == y) = (y == x) := by
  rw [Bool.eq_iff_iff, stream_beq_iff, stream_beq_iff, eq_comm]

theorem find_stream {setting : QSet TrafficStream} (h : setting.Distinct) (hmem : stream ∈ setting)
    {x : TrafficStream} (hid : x.id = stream.id) : setting.find x = some stream := by
  have hself := find_of_mem h (stream_beq_iff.2 rfl) stream_beq_comm hmem
  rw [← hself]
  unfold find
  congr 1
  funext y
  rw [Bool.eq_iff_iff, stream_beq_iff, stream_beq_iff, hid]

theorem mem_remove_stream {setting : QSet TrafficStream} (h : setting.Distinct)
    (hmem : stream ∈ setting) {x y : TrafficStream} (hid : x.id = stream.id) :
    y ∈ setting.remove x ↔ y ∈ setting ∧ y.id ≠ stream.id := by
  rw [mem_remove_iff h (fun z => stream_beq_iff.2 rfl) (find_stream h hmem hid)]
  refine and_congr_right fun hy => not_congr ⟨fun he => by rw [he], fun he => ?_⟩
  exact h.eq_of_beq stream_beq_comm hy hmem (stream_beq_iff.2 he)

/-- The project with other streams. -/
def withStreams (project : Project) (setting : QSet TrafficStream) : Project :=
  { project with trafficDesign := { project.trafficDesign with streamSetting := setting } }

/-- What a round of `UpdateStreamByLink` makes of the streams: one of them is replaced by what is
left of it. -/
structure StreamLeft (left : Option TrafficStream) (setting : QSet TrafficStream)
    (stream : TrafficStream) (setting' : QSet TrafficStream) : Prop where
  distinct : setting'.Distinct
  mem : ∀ x, x ∈ setting' ↔ (x ∈ setting ∧ x.id ≠ stream.id) ∨ left = some x

section

variable {setting : QSet TrafficStream}

theorem StreamLeft.deleted (hdist : setting.Distinct) (hmem : stream ∈ setting) :
    StreamLeft none setting stream (setting.remove { id := stream.id }) := by
  refine ⟨hdist.remove _, fun x => ?_⟩
  rw [mem_remove_stream hdist hmem
    (show ({ id := stream.id } : TrafficStream).id = stream.id from rfl)]
  simp

theorem StreamLeft.unchanged (hdist : setting.Distinct) (hmem : stream ∈ setting) :
    StreamLeft (some stream) setting stream setting := by
  refine ⟨hdist, fun x => ⟨fun hx => ?_, ?_⟩⟩
  · by_cases hid : x.id = stream.id
    · exact .inr (by rw [hdist.eq_of_beq stream_beq_comm hx hmem (stream_beq_iff.2 hid)])
    · exact .inl ⟨hx, hid⟩
  · rintro (⟨hx, -⟩ | hx)
    · exact hx
    · rwa [← Option.some.inj hx]

theorem StreamLeft.updated (hdist : setting.Distinct) (hmem : stream ∈ setting)
    {x : TrafficStream} (hid : x.id = stream.id) :
    StreamLeft (some x) setting stream ((setting.remove x).insert x) := by
  have hapart : (setting.remove x).contains x = false := by
    rw [contains_eq_false]
    intro y hy
    rw [← Bool.not_eq_true, stream_beq_iff, hid]
    exact ((mem_remove_stream hdist hmem hid).1 hy).2
  refine ⟨(hdist.remove _).insert _, fun y => ?_⟩
  rw [mem_insert_of_not_contains hapart, mem_remove_stream hdist hmem hid,
    Option.some.injEq]
  exact or_congr_right eq_comm

end

/-- What a round of `UpdateStreamByLink` does for a link that was deleted. -/
structure StreamDetached (link : Link) (setting : QSet TrafficStream) (stream : TrafficStream)
    (setting' : QSet TrafficStream) : Prop where
  distinct : setting'.Distinct
  mem : ∀ x, x ∈ setting' ↔
    (x ∈ setting ∧ x.id ≠ stream.id) ∨ detachStream link stream = some x
  same : detachStream link stream = some stream → setting' = setting

theorem updateTrafficStreamSetting_stored (hdist : project.trafficDesign.streamSetting.Distinct)
    (hmem : stream ∈ project.trafficDesign.streamSetting) {x : TrafficStream}
    (hid : x.id = stream.id) : updateTrafficStreamSetting project x = .ok (withStreams project
      ((project.trafficDesign.streamSetting.remove x).insert x)) := by
  unfold updateTrafficStreamSetting
  dsimp only
  rw [find_stream hdist hmem hid]
  rfl

theorem deleteTrafficStreamSetting_stored (hdist : project.trafficDesign.streamSetting.Distinct)
    (hmem : stream ∈ project.trafficDesign.streamSetting) :
    deleteTrafficStreamSetting project stream.id = .ok (withStreams project
      (project.trafficDesign.streamSetting.remove { id := stream.id })) := by
  unfold deleteTrafficStreamSetting
  dsimp only
  rw [find_stream hdist hmem (show ({ id := stream.id } : TrafficStream).id =
    stream.id from rfl)]
  rfl

/-- **A round for a link that leads nowhere.** -/
theorem exists_updateStreamByLinkStep (hgone : relocate project link' = .gone)
    (hdist : project.trafficDesign.streamSetting.Distinct)
    (hmem : stream ∈ project.trafficDesign.streamSetting) :
    ∃ setting', updateStreamByLinkStep link link' project stream =
        .ok (withStreams project setting') ∧
      StreamDetached link project.trafficDesign.streamSetting stream setting' := by
  have hdeleted : detachStream link stream = none → StreamDetached link
      project.trafficDesign.streamSetting stream
      (project.trafficDesign.streamSetting.remove { id := stream.id }) := by
    intro hnone
    obtain ⟨hdist', hmem'⟩ := StreamLeft.deleted hdist hmem
    rw [← hnone] at hmem'
    refine ⟨hdist', hmem', fun h => ?_⟩
    rw [hnone] at h
    cases h
  unfold updateStreamByLinkStep
  rw [hgone]
  by_cases htalker : link.hasEndpoint stream.talker.deviceId stream.talker.interfaceId = true
  · have hnone : detachStream link stream = none := by
      unfold detachStream
      rw [if_pos htalker]
    rw [if_pos htalker]
    exact ⟨_, deleteTrafficStreamSetting_stored hdist hmem, hdeleted hnone⟩
  · rw [if_neg htalker]
    cases hfound : stream.listeners.find? fun l => link.hasEndpoint l.deviceId l.interfaceId with
    | none =>
      have hsame : detachStream link stream = some stream := by
        unfold detachStream
        rw [if_neg htalker, hfound]
      obtain ⟨hdist', hmem'⟩ := StreamLeft.unchanged hdist hmem
      rw [← hsame] at hmem'
      exact ⟨_, rfl, hdist', hmem', fun _ => rfl⟩
    | some listener =>
      have hlist := mem_of_find?_eq_some hfound
      dsimp only
      by_cases hempty : (stream.listeners.remove listener).isEmpty = true
      · have hnone : detachStream link stream = none := by
          unfold detachStream
          rw [if_neg htalker, hfound]
          exact if_pos hempty
        rw [if_pos hempty]
        exact ⟨_, deleteTrafficStreamSetting_stored hdist hmem, hdeleted hnone⟩
      · have hsome : detachStream link stream =
            some { stream with listeners := stream.listeners.remove listener } := by
          unfold detachStream
          rw [if_neg htalker, hfound]
          exact if_neg hempty
        rw [if_neg hempty]
        refine ⟨_, updateTrafficStreamSetting_stored hdist hmem rfl, ?_⟩
        obtain ⟨hdist', hmem'⟩ := @StreamLeft.updated _ _ hdist hmem
          { stream with listeners := stream.listeners.remove listener } rfl
        rw [← hsome] at hmem'
        refine ⟨hdist', hmem', fun h => ?_⟩
        rw [hsome] at h
        have hsame : stream.listeners.remove listener = stream.listeners :=
          (congrArg TrafficStream.listeners (Option.some.inj h) :)
        have hlen := length_remove_lt hlist
        rw [hsame] at hlen
        exact absurd hlen (lt_irrefl _)

/-- **The streams after all rounds** are what is left of the ones before, if every round takes
care of its stream. -/
theorem exists_foldlM_streams {round : Project → TrafficStream → Except Status Project}
    {left : TrafficStream → Option TrafficStream}
    (hid : ∀ s x : TrafficStream, left s = some x → x.id = s.id)
    (hround : ∀ setting s, QSet.Distinct setting → s ∈ setting → ∃ setting',
      round (withStreams project setting) s = .ok (withStreams project setting') ∧
        StreamLeft (left s) setting s setting')
    (rest : List TrafficStream) (setting : QSet TrafficStream) (hdist : setting.Distinct)
    (hrest : QSet.Distinct rest) (hsub : ∀ s ∈ rest, s ∈ setting) :
    ∃ setting', rest.foldlM round (withStreams project setting) =
        .ok (withStreams project setting') ∧ setting'.Distinct ∧
      ∀ x, x ∈ setting' ↔ (x ∈ setting ∧ ∀ s ∈ rest, x.id ≠ s.id) ∨ ∃ s ∈ rest, left s =
        some x := by
  induction rest generalizing setting with
  | nil => exact ⟨setting, rfl, hdist, by simp⟩
  | cons s rest ih =>
    obtain ⟨hapart, hrest⟩ := pairwise_cons.1 hrest
    have hne : ∀ t ∈ rest, s.id ≠ t.id := by
      intro t ht he
      have hfalse := hapart t ht
      rw [stream_beq_iff.2 he] at hfalse
      cases hfalse
    obtain ⟨next, hstep, hleft⟩ := hround setting s hdist (hsub s mem_cons_self)
    have hsub' : ∀ t ∈ rest, t ∈ next := fun t ht =>
      (hleft.mem t).2 (.inl ⟨hsub t (mem_cons_of_mem _ ht), (hne t ht).symm⟩)
    obtain ⟨setting', hrun, hdist', hmem⟩ := ih next hleft.distinct hrest hsub'
    refine ⟨setting', ?_, hdist', fun x => ?_⟩
    · rw [foldlM_cons, hstep]
      exact hrun
    · have hown : left s = some x → ∀ t ∈ rest, x.id ≠ t.id := by
        intro hs t ht
        rw [hid s x hs]
        exact hne t ht
      rw [hmem, hleft.mem, forall_mem_cons, exists_mem_cons_iff]
      constructor
      · rintro (⟨⟨hin, he⟩ | hs, hothers⟩ | ht)
        · exact .inl ⟨hin, he, hothers⟩
        · exact .inr (.inl hs)
        · exact .inr (.inr ht)
      · rintro (⟨hin, he, hothers⟩ | hs | ht)
        · exact .inl ⟨.inl ⟨hin, he⟩, hothers⟩
        · exact .inl ⟨.inr hs, hown hs⟩
        · exact .inr ht

/-- A link that carries no end of a stream does not touch the streams. -/
theorem updateStreamByLink_of_not_carries
    (hno : ∀ s ∈ project.trafficDesign.streamSetting, ¬carriesEndOf link s) :
    updateStreamByLink link link' project = .ok project := by
  unfold updateStreamByLink
  have hrounds : ∀ rest : List TrafficStream, (∀ s ∈ rest, ¬carriesEndOf link s) →
      rest.foldlM (updateStreamByLinkStep link link') project = .ok project := by
    intro rest hrest
    induction rest with
    | nil => rfl
    | cons s rest ih =>
      have hnone : (s.listeners.find? fun l => link.hasEndpoint l.deviceId l.interfaceId) = none :=
        find?_eq_none.2 fun listener hmem hend =>
          hrest s mem_cons_self (.inr ⟨listener, hmem, hend⟩)
      have hstep : updateStreamByLinkStep link link' project s = .ok project := by
        unfold updateStreamByLinkStep
        rw [if_neg fun hend => hrest s mem_cons_self (.inl hend), hnone]
      rw [foldlM_cons, hstep]
      exact ih fun t ht => hrest t (mem_cons_of_mem _ ht)
  exact hrounds _ hno

/-- **The streams after a deletion** are those that are left of the ones before. -/
structure StreamsDetached (link : Link) (setting setting' : QSet TrafficStream) : Prop where
  distinct : setting'.Distinct
  mem : ∀ x, x ∈ setting' ↔ ∃ s ∈ setting, detachStream link s = some x
  same : (∀ s ∈ setting, ¬carriesEndOf link s) → setting' = setting

theorem exists_updateStreamByLink (hgone : relocate project {} = .gone)
    (hdist : project.trafficDesign.streamSetting.Distinct) :
    ∃ setting', updateStreamByLink link {} project = .ok (withStreams project setting') ∧
      StreamsDetached link project.trafficDesign.streamSetting setting' := by
  obtain ⟨setting', hrun, hdist', hmem⟩ := exists_foldlM_streams
    (fun s x h => (detachStream_eq_some h).1) (fun setting s hset hs => by
      obtain ⟨setting', hstep, hround⟩ := @exists_updateStreamByLinkStep
        (withStreams project setting)
        link {} s hgone hset hs
      exact ⟨setting', hstep, hround.distinct, hround.mem⟩)
    project.trafficDesign.streamSetting project.trafficDesign.streamSetting hdist hdist
    fun s hs => hs
  refine ⟨setting', hrun, hdist', fun x => ?_, fun hno => ?_⟩
  · rw [hmem]
    refine or_iff_right ?_
    rintro ⟨hx, hne⟩
    exact hne x hx rfl
  · have hsame : updateStreamByLink link {} project = .ok project :=
      updateStreamByLink_of_not_carries hno
    unfold updateStreamByLink at hsame
    have hproj := Except.ok.inj (hrun.symm.trans hsame)
    exact (congrArg (fun p : Project => p.trafficDesign.streamSetting) hproj :)

/-- Every stream is one of those before, or has lost listeners. -/
def StreamsReduced (setting setting' : QSet TrafficStream) : Prop :=
  ∀ x ∈ setting', ∃ s ∈ setting, x.id = s.id ∧
    (x = s ∨ x.listeners.length < s.listeners.length)

/-- The stream is gone, or has lost listeners. -/
def StreamLost (stream : TrafficStream) (setting : QSet TrafficStream) : Prop :=
  ∀ x ∈ setting, x.id = stream.id → x.listeners.length < stream.listeners.length

section

variable {setting setting' setting'' : QSet TrafficStream}

theorem StreamsReduced.refl (setting : QSet TrafficStream) : StreamsReduced setting setting :=
  fun x hx => ⟨x, hx, rfl, .inl rfl⟩

theorem StreamsReduced.trans (h : StreamsReduced setting setting')
    (h' : StreamsReduced setting' setting'') : StreamsReduced setting setting'' := by
  intro x hx
  obtain ⟨y, hy, hxy, hlost⟩ := h' x hx
  obtain ⟨s, hs, hys, hlost'⟩ := h y hy
  refine ⟨s, hs, hxy.trans hys, ?_⟩
  rcases hlost with rfl | hlost
  · exact hlost'
  · rcases hlost' with rfl | hlost'
    · exact .inr hlost
    · exact .inr (hlost.trans hlost')

theorem StreamLost.reduced (h : StreamLost stream setting) (hreduced :
    StreamsReduced setting setting') : StreamLost stream setting' := by
  intro x hx hid
  obtain ⟨s, hs, hxs, hlost⟩ := hreduced x hx
  have hshort := h s hs (hxs.symm.trans hid)
  rcases hlost with rfl | hlost
  · exact hshort
  · exact hlost.trans hshort

/-- A stream that is not there any more is lost. -/
theorem StreamsReduced.lost_of_not_mem (h : StreamsReduced setting setting')
    (hdist : setting.Distinct) (hstrm : stream ∈ setting) (hgone : stream ∉ setting') :
    StreamLost stream setting' := by
  intro x hx hid
  obtain ⟨s, hs, hxs, hlost⟩ := h x hx
  obtain rfl := hdist.eq_of_beq stream_beq_comm hs hstrm
    (stream_beq_iff.2 (hxs.symm.trans hid))
  rcases hlost with rfl | hlost
  · exact absurd hx hgone
  · exact hlost

theorem StreamLost.not_mem (h : StreamLost stream setting) : stream ∉ setting :=
  fun hin => absurd (h stream hin rfl) (lt_irrefl _)

theorem StreamsDetached.reduced (h : StreamsDetached link setting setting') :
    StreamsReduced setting setting' := by
  intro x hx
  obtain ⟨s, hs, hdetach⟩ := (h.mem x).1 hx
  obtain ⟨hid, hcarried, hkept⟩ := detachStream_eq_some hdetach
  refine ⟨s, hs, hid, ?_⟩
  by_cases hends : carriesEndOf link s
  · exact .inr (hcarried hends)
  · exact .inl (hkept hends)

theorem StreamsDetached.lost (h : StreamsDetached link setting setting')
    (hdist : setting.Distinct) (hstrm : stream ∈ setting) (hends : carriesEndOf link stream) :
    StreamLost stream setting' := by
  intro x hx hid
  obtain ⟨s, hs, hdetach⟩ := (h.mem x).1 hx
  obtain ⟨hxs, hcarried, -⟩ := detachStream_eq_some hdetach
  obtain rfl := hdist.eq_of_beq stream_beq_comm hs hstrm
    (stream_beq_iff.2 (hxs.symm.trans hid))
  exact hcarried hends

end

/-! ### The devices but for their flags -/

/-- The device without the flags of its interfaces. -/
def withoutUsed (device : Device) : Device :=
  { device with interfaces := device.interfaces.map fun intf => { intf with used := false } }

/-- The devices are the same but for the flags of their interfaces. -/
def SameButUsed (project project' : Project) : Prop :=
  ∀ id, (project'.getDeviceById id).map withoutUsed = (project.getDeviceById id).map withoutUsed

theorem SameButUsed.refl (project : Project) : SameButUsed project project := fun _ => rfl

theorem SameButUsed.trans {project'' : Project} (h : SameButUsed project project')
    (h' : SameButUsed project' project'') : SameButUsed project project'' :=
  fun id => (h' id).trans (h id)

theorem SameButUsed.of_devices (h : project'.devices = project.devices) :
    SameButUsed project project' := by
  intro id
  unfold Project.getDeviceById
  rw [h]

theorem withoutUsed_refreshUsed (device : Device) :
    withoutUsed (refreshUsed project deviceId interfaceId device) = withoutUsed device := by
  unfold withoutUsed refreshUsed
  dsimp only
  rw [map_map]
  congr 1
  refine map_congr_left fun intf _ => ?_
  dsimp only [Function.comp]
  split_ifs <;> rfl

theorem sameButUsed_setUsedInterface (h : DevicesWellFormed project.devices) :
    SameButUsed project (setUsedInterface project deviceId interfaceId) := by
  intro id
  cases hfound : project.getDeviceById id with
  | none =>
    have hmiss : (setUsedInterface project deviceId interfaceId).getDeviceById id = none := by
      cases hother : (setUsedInterface project deviceId interfaceId).getDeviceById id with
      | none => rfl
      | some device =>
        obtain ⟨hmem, hid⟩ := h.setUsedInterface.id_of_find hother
        obtain ⟨d, hd, rfl⟩ := (mem_devices_setUsedInterface h).1 hmem
        have hown : d.id = id := by
          split_ifs at hid <;> exact hid
        rw [h.getDeviceById hd hown] at hfound
        cases hfound
    rw [hmiss]
  | some device =>
    obtain ⟨hmem, hid⟩ := h.id_of_find hfound
    have hnew := (@mem_devices_setUsedInterface _ _ deviceId interfaceId h).2 ⟨device, hmem, rfl⟩
    by_cases hown : device.id = deviceId
    · rw [if_pos hown] at hnew
      rw [h.setUsedInterface.getDeviceById hnew hid]
      exact congrArg some (withoutUsed_refreshUsed device)
    · rw [if_neg hown] at hnew
      rw [h.setUsedInterface.getDeviceById hnew hid]

theorem sameButUsed_updateDeviceByLink (h : DevicesWellFormed project.devices) :
    SameButUsed project (updateDeviceByLink link project) :=
  (sameButUsed_setUsedInterface h).trans (sameButUsed_setUsedInterface h.setUsedInterface)

theorem getDeviceIp_withoutUsed (id : ℤ) : getDeviceIp project id =
    (((project.getDeviceById id).map withoutUsed).map (·.ipAddress)).getD "" := by
  unfold getDeviceIp
  rw [Option.map_map]
  rfl

theorem SameButUsed.withDeviceIps (h : SameButUsed project project') (link : Link) :
    withDeviceIps project' link = withDeviceIps project link := by
  unfold Core.withDeviceIps
  rw [getDeviceIp_withoutUsed, getDeviceIp_withoutUsed, h, h, ← getDeviceIp_withoutUsed,
    ← getDeviceIp_withoutUsed]

/-- What `CheckLink` asks for: two interfaces that support the speed of the link, unless the speed
is not checked. -/
structure Linkable (project : Project) (link : Link) (srcDev dstDev : Device)
    (srcIntf dstIntf : Interface) : Prop where
  source : project.getDeviceById link.sourceDeviceId = some srcDev
  destination : project.getDeviceById link.destinationDeviceId = some dstDev
  sourceInterface :
    srcDev.interfaces.find? (·.interfaceId == link.sourceInterfaceId) = some srcIntf
  destinationInterface :
    dstDev.interfaces.find? (·.interfaceId == link.destinationInterfaceId) = some dstIntf
  speed : DeviceType.skipsSpeedCheck srcDev.deviceType = true ∨
    DeviceType.skipsSpeedCheck dstDev.deviceType = true ∨
    (srcIntf.supportSpeeds.contains (link.speed.toNat : ℤ) = true ∧
      dstIntf.supportSpeeds.contains (link.speed.toNat : ℤ) = true)

theorem checkLink_ok {u : Unit} (h : checkLink project link = .ok u) :
    ∃ srcDev dstDev srcIntf dstIntf, Linkable project link srcDev dstDev srcIntf dstIntf := by
  unfold checkLink getDeviceAndInterfacePair at h
  cases hsrc : project.getDeviceById link.sourceDeviceId with
  | none => simp [hsrc] at h
  | some srcDev =>
    cases hdst : project.getDeviceById link.destinationDeviceId with
    | none => simp [hsrc, hdst] at h
    | some dstDev =>
      cases hsrcIntf : srcDev.interfaces.find? (·.interfaceId == link.sourceInterfaceId) with
      | none => simp [hsrc, hdst, hsrcIntf] at h
      | some srcIntf =>
        cases hdstIntf :
            dstDev.interfaces.find? (·.interfaceId == link.destinationInterfaceId) with
        | none => simp [hsrc, hdst, hsrcIntf, hdstIntf] at h
        | some dstIntf =>
          refine ⟨srcDev, dstDev, srcIntf, dstIntf, hsrc, hdst, hsrcIntf, hdstIntf, ?_⟩
          rw [hsrc, hdst] at h
          dsimp only at h
          rw [hsrcIntf] at h
          dsimp only at h
          rw [hdstIntf] at h
          dsimp only at h
          split_ifs at h with hskip hspeed
          · rw [← or_assoc]
            exact .inl (by simpa using hskip)
          · exact .inr (.inr (by simpa using hspeed))

theorem Linkable.checkLink {srcDev dstDev : Device} {srcIntf dstIntf : Interface}
    (h : Linkable project link srcDev dstDev srcIntf dstIntf) :
    checkLink project link = .ok () := by
  unfold Core.checkLink getDeviceAndInterfacePair
  rw [h.source, h.destination]
  dsimp only
  rw [h.sourceInterface]
  dsimp only
  rw [h.destinationInterface]
  dsimp only
  split_ifs with hskip hspeed
  · rfl
  · rcases h.speed with hs | hs | ⟨hs, hs'⟩
    · simp [hs] at hskip
    · simp [hs] at hskip
    · rw [hs, hs'] at hspeed
      cases hspeed
  · rfl

theorem SameButUsed.checkLink {u : Unit} (h : SameButUsed project project')
    (hok : checkLink project link = .ok u) : checkLink project' link = .ok () := by
  obtain ⟨srcDev, dstDev, srcIntf, dstIntf, hsrc, hdst, hsrcIntf, hdstIntf, hspeed⟩ :=
    checkLink_ok hok
  have hdev : ∀ {id : ℤ} {device : Device}, project.getDeviceById id = some device →
      ∃ device', project'.getDeviceById id = some device' ∧
        withoutUsed device' = withoutUsed device := by
    intro id device hdev
    have hid := h id
    rw [hdev] at hid
    exact Option.map_eq_some_iff.1 hid
  have hintf : ∀ {device device' : Device} {id : ℤ} {intf : Interface},
      withoutUsed device' = withoutUsed device →
      device.interfaces.find? (·.interfaceId == id) = some intf →
      ∃ intf', device'.interfaces.find? (·.interfaceId == id) = some intf' ∧
        intf'.supportSpeeds = intf.supportSpeeds := by
    intro device device' id intf hsame hfind
    have hlists : device'.interfaces.map (fun intf => { intf with used := false }) =
        device.interfaces.map fun intf => { intf with used := false } :=
      congrArg Device.interfaces hsame
    have hfinds := congrArg (find? (·.interfaceId == id)) hlists
    rw [find?_map, find?_map] at hfinds
    have hfind' : device.interfaces.find?
        ((·.interfaceId == id) ∘ fun intf : Interface => { intf with used := false }) = some intf :=
      hfind
    rw [hfind'] at hfinds
    obtain ⟨intf', hintf', heq⟩ := Option.map_eq_some_iff.1 hfinds
    exact ⟨intf', hintf', (congrArg Interface.supportSpeeds heq :)⟩
  obtain ⟨srcDev', hsrc', hsrcSame⟩ := hdev hsrc
  obtain ⟨dstDev', hdst', hdstSame⟩ := hdev hdst
  obtain ⟨srcIntf', hsrcIntf', hsrcSpeeds⟩ := hintf hsrcSame hsrcIntf
  obtain ⟨dstIntf', hdstIntf', hdstSpeeds⟩ := hintf hdstSame hdstIntf
  refine Linkable.checkLink ⟨hsrc', hdst', hsrcIntf', hdstIntf', ?_⟩
  have hsrcType : srcDev'.deviceType = srcDev.deviceType := (congrArg Device.deviceType hsrcSame :)
  have hdstType : dstDev'.deviceType = dstDev.deviceType := (congrArg Device.deviceType hdstSame :)
  rw [hsrcSpeeds, hdstSpeeds, hsrcType, hdstType]
  exact hspeed

/-! ### `DeleteLink` -/

/-- **The stores that the operations on links work with:** the streams are a set, no link ends
nowhere, and devices have ids. -/
structure LinkStore (stale : Set (ℤ × ℤ)) (project : Project) : Prop
    extends LinkTable stale project where
  streams : project.trafficDesign.streamSetting.Distinct
  anchored : ∀ link ∈ project.links, link.hasEndpoint (-1) (-1) = false
  named : ∀ device ∈ project.devices, device.id ≠ -1

theorem default_hasEndpoint {id d i : ℤ} :
    ({ id := id } : Link).hasEndpoint d i = true ↔ d = -1 ∧ i = -1 := by
  simp only [Link.hasEndpoint, Bool.or_self, Bool.and_eq_true, beq_iff_eq]
  exact and_congr eq_comm eq_comm

/-- A link of the project is found by its id, unless one ends nowhere. -/
theorem getLinkById_of_mem (hlinks : project.links.Distinct)
    (hanchored : ∀ l ∈ project.links, l.hasEndpoint (-1) (-1) = false)
    (hlink : link ∈ project.links) : project.getLinkById link.id = some link := by
  unfold Project.getLinkById
  cases hfound : project.links.find { id := link.id } with
  | none =>
    have hmiss := contains_eq_false.1 (find_eq_none.1 hfound) link hlink
    have hsame : (link == { id := link.id }) = true := link_beq_iff.2 (.inl rfl)
    rw [hsame] at hmiss
    cases hmiss
  | some other =>
    obtain ⟨hmem, hbeq⟩ := mem_of_find hfound
    rcases link_beq_iff.1 hbeq with hid | ⟨d, i, hend, hnowhere⟩
    · rw [hlinks.eq_of_beq link_beq_comm hmem hlink (link_beq_iff.2 (.inl hid))]
    · obtain ⟨rfl, rfl⟩ := default_hasEndpoint.1 hnowhere
      rw [hanchored other hmem] at hend
      cases hend

theorem LinkStore.find_link (h : LinkStore stale project) (hlink : link ∈ project.links) :
    project.getLinkById link.id = some link :=
  getLinkById_of_mem h.links h.anchored hlink

/-- The ids of the links are those that are taken. -/
theorem LinkStore.taken_eq (h : LinkStore stale project) (id : ℤ) :
    (project.links.find { id := id }).isSome = project.links.any (·.id == id) := by
  rw [Bool.eq_iff_iff, find, find?_isSome, any_eq_true]
  refine exists_congr fun l => and_congr_right fun hl => ?_
  rw [link_beq_iff, beq_iff_eq, or_iff_left]
  rintro ⟨d, i, hend, hnowhere⟩
  obtain ⟨rfl, rfl⟩ := default_hasEndpoint.1 hnowhere
  rw [h.anchored l hl] at hend
  cases hend

theorem LinkStore.relocate_default (h : LinkStore stale project) : relocate project {} = .gone := by
  have hnone : project.getDeviceById (-1) = none := by
    cases hfound : project.getDeviceById (-1) with
    | none => rfl
    | some device =>
      obtain ⟨hmem, hid⟩ := h.devices.id_of_find hfound
      exact absurd hid (h.named device hmem)
  unfold relocate endStationById
  dsimp only
  rw [hnone]
  rfl

theorem setUsedInterface_frame (project : Project) (deviceId interfaceId : ℤ) :
    ∃ devices, setUsedInterface project deviceId interfaceId =
      { project with devices := devices } := by
  unfold setUsedInterface
  split
  · exact ⟨project.devices, rfl⟩
  · exact ⟨_, rfl⟩

theorem updateDeviceByLink_frame (link : Link) (project : Project) :
    ∃ devices, updateDeviceByLink link project = { project with devices := devices } := by
  obtain ⟨first, hfirst⟩ :=
    setUsedInterface_frame project link.sourceDeviceId link.sourceInterfaceId
  unfold updateDeviceByLink
  rw [hfirst]
  exact setUsedInterface_frame _ _ _

theorem named_updateDeviceByLink (h : DevicesWellFormed project.devices)
    (hnamed : ∀ device ∈ project.devices, device.id ≠ -1) :
    ∀ device ∈ (updateDeviceByLink link project).devices, device.id ≠ -1 := by
  have hround : ∀ {p : Project} {d i : ℤ}, DevicesWellFormed p.devices →
      (∀ device ∈ p.devices, device.id ≠ -1) →
      ∀ device ∈ (setUsedInterface p d i).devices, device.id ≠ -1 := by
    intro p d i hp hids device hdev
    obtain ⟨old, hold, rfl⟩ := (mem_devices_setUsedInterface hp).1 hdev
    split_ifs <;> exact hids old hold
  exact hround h.setUsedInterface (hround h hnamed)

/-- What `DeleteLink` does to a project. -/
structure LinkDeleted (link : Link) (project project' : Project) : Prop where
  links : project'.links = project.links.remove link
  devices : SameButUsed project project'
  lastAssignedLinkId : project'.lastAssignedLinkId = project.lastAssignedLinkId
  streams : StreamsDetached link project.trafficDesign.streamSetting
    project'.trafficDesign.streamSetting

/-- **`DeleteLink` succeeds on every link of the project.** -/
theorem exists_deleteLink (h : LinkStore stale project) (hlink : link ∈ project.links) :
    ∃ project', deleteLink project link.id = .ok project' ∧ LinkStore stale project' ∧
      LinkDeleted link project project' := by
  obtain ⟨setting, hstrms, hdetached⟩ := @exists_updateStreamByLink
    { project with links := project.links.remove link } link h.relocate_default h.streams
  obtain ⟨devices, hframe⟩ := updateDeviceByLink_frame link
    (withStreams { project with links := project.links.remove link } setting)
  have hok : deleteLink project link.id = .ok (updateDeviceByLink link
      (withStreams { project with links := project.links.remove link } setting)) := by
    unfold deleteLink
    rw [h.find_link hlink]
    dsimp only
    rw [hstrms]
    rfl
  have hdevs : DevicesWellFormed
      (withStreams { project with links := project.links.remove link } setting).devices := h.devices
  have hsame : SameButUsed project (updateDeviceByLink link
      (withStreams { project with links := project.links.remove link } setting)) :=
    (SameButUsed.of_devices rfl).trans (sameButUsed_updateDeviceByLink hdevs)
  have hnamed := @named_updateDeviceByLink _ link hdevs h.named
  have htable := h.toLinkTable.deleteLink hok
  refine ⟨_, hok, ⟨htable, ?_, ?_, hnamed⟩, ⟨?_, hsame, ?_, ?_⟩⟩
  · rw [hframe]
    exact hdetached.distinct
  · rw [hframe]
    exact fun l hl => h.anchored l (mem_of_mem_remove hl)
  · rw [hframe]
    rfl
  · rw [hframe]
    rfl
  · rw [hframe]
    exact hdetached

/-! ### `CreateLink` -/

/-- The two links have a port in common. -/
def sharesPort (x y : Link) : Bool :=
  x.hasEndpoint y.sourceDeviceId y.sourceInterfaceId ||
    x.hasEndpoint y.destinationDeviceId y.destinationInterfaceId

theorem sharesPort_iff {x y : Link} : sharesPort x y = true ↔
    ∃ d i, x.hasEndpoint d i = true ∧ y.hasEndpoint d i = true := by
  unfold sharesPort
  rw [Bool.or_eq_true]
  constructor
  · rintro (hend | hend)
    · exact ⟨_, _, hend, by simp [Link.hasEndpoint]⟩
    · exact ⟨_, _, hend, by simp [Link.hasEndpoint]⟩
  · rintro ⟨d, i, hx, hy⟩
    simp only [Link.hasEndpoint, Bool.or_eq_true, Bool.and_eq_true, beq_iff_eq] at hy
    rcases hy with ⟨rfl, rfl⟩ | ⟨rfl, rfl⟩
    · exact .inl hx
    · exact .inr hx

theorem sharesPort_comm (x y : Link) : sharesPort x y = sharesPort y x := by
  rw [Bool.eq_iff_iff, sharesPort_iff, sharesPort_iff]
  simp only [and_comm]

theorem link_beq_iff_sharesPort {x y : Link} :
    (x == y) = true ↔ x.id = y.id ∨ sharesPort x y = true := by
  rw [link_beq_iff, sharesPort_iff]

/-- What `CreateLink` does to a project when it stores a link. -/
structure LinkCreated (link : Link) (project project' : Project) : Prop where
  links : project'.links = project.links ++ [link]
  devices : SameButUsed project project'
  lastAssignedLinkId : project'.lastAssignedLinkId = link.id
  streams : project'.trafficDesign = project.trafficDesign

/-- The link as it is stored. -/
def storedLink (project : Project) (link : Link) (id : ℤ) : Link :=
  { withDeviceIps project link with id := id }

theorem hasEndpoint_storedLink (id : ℤ) :
    (storedLink project link id).hasEndpoint deviceId interfaceId =
      link.hasEndpoint deviceId interfaceId := rfl

theorem sharesPort_storedLink (x : Link) (id : ℤ) :
    sharesPort x (storedLink project link id) = sharesPort x link := rfl

/-- A link that `CheckLink` accepts ends somewhere. -/
theorem LinkStore.anchored_of_checkLink {u : Unit} (h : LinkStore stale project)
    (hcheck : checkLink project link = .ok u) : link.hasEndpoint (-1) (-1) = false := by
  obtain ⟨srcDev, dstDev, srcIntf, dstIntf, hsrc, hdst, -⟩ := checkLink_ok hcheck
  obtain ⟨hsrcMem, hsrcId⟩ := h.devices.id_of_find hsrc
  obtain ⟨hdstMem, hdstId⟩ := h.devices.id_of_find hdst
  have hsrcNe := h.named srcDev hsrcMem
  have hdstNe := h.named dstDev hdstMem
  rw [hsrcId] at hsrcNe
  rw [hdstId] at hdstNe
  simp [Link.hasEndpoint, hsrcNe, hdstNe]

/-- **`CreateLink` on free ports** fails only when it runs out of ids. -/
theorem createLinkInPlace_of_free (h : LinkStore stale project)
    (hcheck : checkLink project link = .ok ()) (hid : link.id = -1)
    (hfree : ∀ l ∈ project.links, sharesPort l link = false) :
    match generateUniqueId (fun id => project.links.any (·.id == id))
      project.lastAssignedLinkId with
    | none => ∃ status, createLinkInPlace project link = (some status, link, project)
    | some id => ∃ project', createLinkInPlace project link =
        (none, storedLink project link id, project') ∧ LinkStore stale project' ∧
          LinkCreated (storedLink project link id) project project' := by
  have htaken : (fun id => (project.links.find { id := id }).isSome) =
      fun id => project.links.any (·.id == id) := funext h.taken_eq
  cases hsearch : generateUniqueId (fun id => project.links.any (·.id == id))
      project.lastAssignedLinkId with
  | none =>
    refine ⟨.badRequest ⟨"Cannot get an available unique id", []⟩, ?_⟩
    unfold createLinkInPlace assignLinkId
    rw [hcheck, if_pos hid, htaken, hsearch]
  | some id =>
    have hnew : project.links.contains (storedLink project link id) = false := by
      rw [contains_eq_false]
      intro l hl
      rw [← Bool.not_eq_true, link_beq_iff_sharesPort]
      rintro (hsame | hshares)
      · have hunused := (generateUniqueId_spec hsearch).1
        rw [any_eq_false] at hunused
        exact hunused l hl (beq_iff_eq.2 hsame)
      · rw [sharesPort_storedLink, hfree l hl] at hshares
        cases hshares
    have hcreate : createLinkInPlace project link = (none, storedLink project link id,
        updateDeviceByLink (storedLink project link id) { project with
          links := project.links.insert (storedLink project link id)
          lastAssignedLinkId := id }) := by
      have hport : checkLinkPort project.links (storedLink project link id) = .ok () := by
        unfold checkLinkPort
        rw [find_eq_none.2 hnew]
      unfold createLinkInPlace assignLinkId
      rw [hcheck, if_pos hid, htaken, hsearch]
      dsimp only
      rw [show withDeviceIps { project with lastAssignedLinkId := id } { link with id := id } =
        storedLink project link id from rfl, hport]
    have hins : project.links.insert (storedLink project link id) =
        project.links ++ [storedLink project link id] := by
      rw [insert_of_not_contains hnew]
    rw [hins] at hcreate
    have htable := h.toLinkTable.createLink (createLinkInPlace_eq_none.1 hcreate)
    obtain ⟨devices, hframe⟩ := updateDeviceByLink_frame (storedLink project link id) { project with
      links := project.links ++ [storedLink project link id], lastAssignedLinkId := id }
    have hsame : SameButUsed project (updateDeviceByLink (storedLink project link id) { project with
        links := project.links ++ [storedLink project link id], lastAssignedLinkId := id }) :=
      (SameButUsed.of_devices rfl).trans (sameButUsed_updateDeviceByLink h.devices)
    have hnamed := @named_updateDeviceByLink { project with
        links := project.links ++ [storedLink project link id], lastAssignedLinkId := id }
      (storedLink project link id) h.devices h.named
    refine ⟨_, hcreate, ⟨htable, ?_, ?_, hnamed⟩, ⟨?_, hsame, ?_, ?_⟩⟩
    · rw [hframe]
      exact h.streams
    · rw [hframe]
      intro l hl
      rcases mem_append.1 hl with hl | hl
      · exact h.anchored l hl
      · rw [mem_singleton.1 hl, hasEndpoint_storedLink]
        exact h.anchored_of_checkLink hcheck
    · rw [hframe]
    · rw [hframe]
      rfl
    · rw [hframe]

end Core
end Sebastian

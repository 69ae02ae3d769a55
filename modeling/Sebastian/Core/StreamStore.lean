/-
# The streams of a project

`CreateStream`, `UpdateStream` and `DeleteStream` (`core/src/act_core_stream.cpp`).  A stream
carries what it is deployed with: its VLAN id, and in the data frame specifications of its
talker the MAC addresses.  `GetDAFromStream` reads the first of these that names addresses.

Creating a unicast stream *appends* the addresses of its two devices, so addresses that were
given with it stay in front (`getDAFromStream_append`).  Updating it overwrites all the
addresses that are there and adds none (`getDAFromStream_overwrite`), and looks at the VLAN
groups only where the VLAN is one the user defines.  A step that keeps clear of the three leaves
the streams in order, and one that does not is seen at once (`streamsInOrder_iff`).
-/

import Sebastian.Core.Device
import Sebastian.Lib.Run

namespace Sebastian
namespace Stream

/-- `GetDAFromStream` -/
def getDAFromStream (stream : Stream) : Except Status String :=
  match stream.talker.dataFrameSpecifications.find? (·.type == .ieee802MacAddresses) with
  | some dfs => .ok dfs.ieee802MacAddresses.destinationMacAddress
  | none =>
    .error (.badRequest
      ⟨"Stream (%1) - Get destination MAC address from Talker failed, please check talker exist",
        [.str stream.streamName]⟩)

/-- `GetTalkerAddressFromStream` -/
def getTalkerAddressFromStream (stream : Stream) : String :=
  stream.talker.endStationInterface.macAddress

/-- `GetUserDefinedVlan` -/
def getUserDefinedVlan (stream : Stream) : Except Status Ieee802VlanTag :=
  if stream.userDefinedVlan then
    match stream.talker.dataFrameSpecifications.find? (·.type == .ieee802VlanTag) with
    | some dfs => .ok dfs.ieee802VlanTag
    | none =>
      .error (.badRequest ⟨"Stream (%1) - Get User-Defined VLAN tag failed",
        [.str stream.streamName]⟩)
  else .ok { vlanId := 0, priorityCodePoint := 0 }

/-- The stream with these data frame specifications. -/
def withDataFrames (stream : Stream) (specifications : List DataFrameSpecification) : Stream :=
  { stream with talker := { stream.talker with dataFrameSpecifications := specifications } }

end Stream

namespace Core

/-! ### The operations -/

/-- The tags of the talker set the VLAN of a stream that has one; the last of them counts. -/
def setVlanByTags (stream : Stream) : Stream :=
  if stream.userDefinedVlan || stream.tagged then
    stream.talker.dataFrameSpecifications.foldl (fun stream dfs =>
      if dfs.type = .ieee802VlanTag then
        { stream with
          vlanId := dfs.ieee802VlanTag.vlanId
          priorityCodePoint := dfs.ieee802VlanTag.priorityCodePoint }
      else stream) stream
  else stream

/-- A stream without an id is given a new one. -/
def assignUniqueId (project : Project) (stream : Stream) : Except Failure (Stream × Project) :=
  if stream.id = -1 then
    match generateUniqueId (fun id => (project.streams.find { id := id }).isSome)
        project.lastAssignedStreamId with
    | none => .error (.status (.badRequest ⟨"Cannot get an available unique id", []⟩) project)
    | some id => .ok ({ stream with id := id }, { project with lastAssignedStreamId := id })
  else .ok (stream, project)

/-- `SetStreamId`: the address of the talker, and the id as far as it fits. -/
def assignStreamId (stream : Stream) : Stream :=
  { stream with
    streamId :=
      { macAddress := stream.getTalkerAddressFromStream, uniqueId := UInt16.ofInt stream.id } }

/-- The MAC address of the device; of none, if it is not there. -/
def macAddressOf (project : Project) (deviceId : ℤ) : String :=
  ((project.getDeviceById deviceId).getD {}).macAddress

/-- The addresses of a unicast stream: its talker and its first listener.  `first()` of an empty
list is not defined. -/
def unicastAddresses (project : Project) (stream : Stream) : Option Ieee802MacAddresses :=
  stream.listeners.head?.map fun listener =>
    { sourceMacAddress := macAddressOf project stream.talker.endStationInterface.deviceId
      destinationMacAddress := macAddressOf project listener.endStationInterface.deviceId }

/-- What `CreateStream` does about the addresses of a unicast stream. -/
def appendAddresses (stream : Stream) (addresses : Ieee802MacAddresses) : Stream :=
  stream.withDataFrames (stream.talker.dataFrameSpecifications ++
    [{ type := .ieee802MacAddresses, ieee802MacAddresses := addresses }])

/-- What `UpdateStream` does about the addresses of a unicast stream. -/
def overwriteAddresses (stream : Stream) (addresses : Ieee802MacAddresses) : Stream :=
  stream.withDataFrames (stream.talker.dataFrameSpecifications.map fun dfs =>
    if dfs.type = .ieee802MacAddresses then { dfs with ieee802MacAddresses := addresses } else dfs)

/-- The addresses of a stream that is not multicast are those of its devices. -/
def setUnicast (change : Stream → Ieee802MacAddresses → Stream) (project : Project)
    (stream : Stream) : Except Failure Stream :=
  if stream.multicast then .ok stream
  else orStuck ((unicastAddresses project stream).map (change stream))

/-- What creating and updating a stream end with: its ids, its addresses, and its place in the
set. -/
def storeStream (change : Stream → Ieee802MacAddresses → Stream) (project : Project)
    (stream : Stream) : Except Failure (Stream × Project) := do
  let (stream, project) ← assignUniqueId project stream
  let stream ← setUnicast change project (assignStreamId stream)
  return (stream, { project with streams := project.streams.insert stream })

/-- `CreateStream`: the stream as it is stored, and the project. -/
def createStream (project : Project) (stream : Stream) : Except Failure (Stream × Project) :=
  if project.streams.any (·.streamName == stream.streamName) then
    .error (.status (.duplicated ⟨stream.streamName, []⟩) project)
  else if project.intelligentVlanGroup.contains { vlanId := (setVlanByTags stream).vlanId } then
    .error (.status (.duplicated
      ⟨"User defined vlan id %1", [.int (setVlanByTags stream).vlanId.toNat]⟩) project)
  else storeStream appendAddresses project { setVlanByTags stream with streamStatus := .planned }

/-- A VLAN that the user defines is looked up in the tags of the talker. -/
def setUserDefinedVlan (project : Project) (stream : Stream) : Except Status Stream :=
  if stream.userDefinedVlan then do
    let tag ← stream.getUserDefinedVlan
    if tag.vlanId = 0 then
      throw (.badRequest ⟨"Stream (%1) - Get User-Defined VLAN tag failed",
        [.str stream.streamName]⟩)
    else if project.intelligentVlanGroup.contains { vlanId := tag.vlanId } then
      throw (.duplicated ⟨"User defined vlan id %1", [.int tag.vlanId.toNat]⟩)
    else
      return { stream with vlanId := tag.vlanId, priorityCodePoint := tag.priorityCodePoint }
  else .ok stream

/-- A stream that has been scheduled is a modified one from now on. -/
def markModified (stream : Stream) : Stream :=
  if stream.streamStatus = .scheduled then { stream with streamStatus := .modified } else stream

/-- `UpdateStream`: the stream as it is stored, and the project. -/
def updateStream (project : Project) (stream : Stream) : Except Failure (Stream × Project) := do
  let stream ← atProject project (setUserDefinedVlan project stream)
  let project := { project with streams := project.streams.remove stream }
  if project.streams.any (·.streamName == stream.streamName) then
    throw (.status (.duplicated ⟨stream.streamName, []⟩) project)
  else storeStream overwriteAddresses project (markModified stream)

/-- `DeleteStream` -/
def deleteStream (project : Project) (streamId : ℤ) : Except Failure Project :=
  if project.streams.contains { id := streamId } then
    .ok { project with streams := project.streams.remove { id := streamId } }
  else
    .error (.status (.badRequest
      ⟨"Delete stream failed, cannot found stream id %1", [.int streamId]⟩) project)

/-- `DeleteStreams` -/
def deleteStreams (project : Project) (streamIds : List ℤ) : Except Failure Project :=
  if streamIds.isEmpty then
    .error (.status (.badRequest ⟨"Stream id list is empty", []⟩) project)
  else streamIds.foldlM deleteStream project

/-- A call on the streams of a project. -/
inductive StreamRequest where
  | create (stream : Stream)
  | update (stream : Stream)
  | delete (streamId : ℤ)
  | deleteAll (streamIds : List ℤ)

/-- The project after the call. -/
def StreamRequest.exec (project : Project) : StreamRequest → Except Failure Project
  | .create stream => (createStream project stream).map (·.2)
  | .update stream => (updateStream project stream).map (·.2)
  | .delete streamId => deleteStream project streamId
  | .deleteAll streamIds => deleteStreams project streamIds

/-- A call that succeeds. -/
def StreamStep (project : Project) (request : StreamRequest) (project' : Project) : Prop :=
  request.exec project = .ok project'

/-! ### The streams in order -/

/-- The device of the first listener, which is where a unicast stream goes. -/
def listenerDevice (project : Project) (stream : Stream) : Option Device :=
  stream.listeners.head?.bind fun listener =>
    project.getDeviceById listener.endStationInterface.deviceId

/-- The VLAN of the stream is not one of the groups, and a unicast stream goes to its
listener. -/
structure StreamInOrder (project : Project) (stream : Stream) : Prop where
  vlan : ∀ group ∈ project.intelligentVlanGroup, stream.vlanId ≠ group.vlanId
  destination : stream.multicast = false → ∀ device, listenerDevice project stream = some device →
    stream.getDAFromStream = .ok device.macAddress

/-- **The streams of a project**: no two have one name, and each is in order. -/
structure StreamsInOrder (project : Project) : Prop where
  names : project.streams.Pairwise fun x y => x.streamName ≠ y.streamName
  each : ∀ stream ∈ project.streams, StreamInOrder project stream

/-- What a call has to keep clear of.  A stream that is created with addresses goes to the first
of them; a stream that is updated is not compared with the VLAN groups unless the user defines its
VLAN, and has to carry addresses that can be overwritten. -/
def StreamRequest.KeepsOrder (project : Project) : StreamRequest → Prop
  | .create stream =>
    (stream.id ≠ -1 ∧ project.streams.contains stream = true) ∨ stream.multicast = true ∨
      ∀ device, listenerDevice project stream = some device →
        ∀ da, stream.getDAFromStream = .ok da → da = device.macAddress
  | .update stream =>
    (stream.userDefinedVlan = true ∨
      ∀ group ∈ project.intelligentVlanGroup, stream.vlanId ≠ group.vlanId) ∧
    (stream.multicast = true ∨
      ∀ device, listenerDevice project stream = some device →
        ∃ da, stream.getDAFromStream = .ok da)
  | .delete _ => True
  | .deleteAll _ => True

variable {project project' : Project} {stream stored : Stream}

theorem sameStream_iff {x y : Stream} : (x == y) = true ↔ x.id = y.id := by
  show (x.id == y.id) = true ↔ _
  exact beq_iff_eq

theorem sameStream_comm (x y : Stream) : (x == y) = (y == x) := by
  rw [Bool.eq_iff_iff, sameStream_iff, sameStream_iff]
  exact eq_comm

theorem groups_contains_eq_false {groups : QSet IntelligentVlan} {vlanId : UInt16} :
    groups.contains { vlanId := vlanId } = false ↔ ∀ group ∈ groups, vlanId ≠ group.vlanId := by
  rw [QSet.contains_eq_false]
  refine forall₂_congr fun group _ => ?_
  show (group.vlanId == vlanId) = false ↔ _
  rw [beq_eq_false_iff_ne]
  exact ne_comm

/-! ### What the parts of an operation leave -/

/-- Only the VLAN of the stream is set by its tags. -/
theorem setVlanByTags_eq (stream : Stream) : ∃ vlanId priorityCodePoint,
    setVlanByTags stream =
      { stream with vlanId := vlanId, priorityCodePoint := priorityCodePoint } := by
  unfold setVlanByTags
  split_ifs with hvlan
  · clear hvlan
    generalize stream.talker.dataFrameSpecifications = specifications
    induction specifications generalizing stream with
    | nil => exact ⟨stream.vlanId, stream.priorityCodePoint, rfl⟩
    | cons dfs specifications ih =>
      rw [List.foldl_cons]
      split_ifs
      · obtain ⟨vlanId, priorityCodePoint, h⟩ := ih { stream with
          vlanId := dfs.ieee802VlanTag.vlanId
          priorityCodePoint := dfs.ieee802VlanTag.priorityCodePoint }
        exact ⟨vlanId, priorityCodePoint, h⟩
      · exact ih stream
  · exact ⟨stream.vlanId, stream.priorityCodePoint, rfl⟩

/-- A stream keeps the id it has, or is given one that no stored stream has. -/
theorem assignUniqueId_ok (h : assignUniqueId project stream = .ok (stored, project')) :
    ∃ id lastId, stored = { stream with id := id } ∧
      project' = { project with lastAssignedStreamId := lastId } ∧
      ((stream.id = -1 ∧ ∀ x ∈ project.streams, x.id ≠ id) ∨
        (stream.id ≠ -1 ∧ id = stream.id)) := by
  unfold assignUniqueId at h
  split_ifs at h with hid
  · cases hsearch : generateUniqueId (fun id => (project.streams.find { id := id }).isSome)
        project.lastAssignedStreamId with
    | none =>
      rw [hsearch] at h
      cases h
    | some id =>
      rw [hsearch] at h
      cases h
      refine ⟨id, id, rfl, rfl, .inl ⟨hid, fun x hx heq => ?_⟩⟩
      have hfree := (generateUniqueId_spec hsearch).1
      rw [Option.isSome_eq_false_iff, Option.isNone_iff_eq_none, QSet.find_eq_none,
        QSet.contains_eq_false] at hfree
      have hne := hfree x hx
      rw [← Bool.not_eq_true, sameStream_iff] at hne
      exact hne heq
  · cases h
    exact ⟨stream.id, project.lastAssignedStreamId, rfl, rfl, .inr ⟨hid, rfl⟩⟩

theorem setUnicast_ok {change : Stream → Ieee802MacAddresses → Stream}
    (h : setUnicast change project stream = .ok stored) :
    (stream.multicast = true ∧ stored = stream) ∨
      (stream.multicast = false ∧ ∃ addresses, unicastAddresses project stream = some addresses ∧
        stored = change stream addresses) := by
  unfold setUnicast at h
  split_ifs at h with hmulticast
  · exact .inl ⟨hmulticast, (Except.ok.inj h).symm⟩
  · obtain ⟨addresses, haddrs, rfl⟩ := Option.map_eq_some_iff.1 (orStuck_eq_ok.1 h)
    exact .inr ⟨Bool.not_eq_true _ ▸ hmulticast, addresses, haddrs, rfl⟩

/-- The addresses of a unicast stream whose listener is there. -/
theorem destination_of_unicastAddresses {addresses : Ieee802MacAddresses} {device : Device}
    (h : unicastAddresses project stream = some addresses)
    (hdev : listenerDevice project stream = some device) :
    addresses.destinationMacAddress = device.macAddress := by
  obtain ⟨listener, hlist, rfl⟩ := Option.map_eq_some_iff.1 h
  unfold listenerDevice at hdev
  rw [hlist, Option.bind_some] at hdev
  show ((project.getDeviceById _).getD {}).macAddress = _
  rw [hdev, Option.getD_some]

/-- **Appended addresses come second**: the stream goes to the first address it was given, and
to the appended one if it was given none. -/
theorem getDAFromStream_append (stream : Stream) (addresses : Ieee802MacAddresses) :
    (appendAddresses stream addresses).getDAFromStream =
      match stream.getDAFromStream with
      | .ok da => .ok da
      | .error _ => .ok addresses.destinationMacAddress := by
  unfold Stream.getDAFromStream appendAddresses Stream.withDataFrames
  dsimp only
  rw [List.find?_append]
  cases stream.talker.dataFrameSpecifications.find? (·.type == .ieee802MacAddresses) with
  | some dfs => rfl
  | none => rfl

/-- **Overwritten addresses all agree**, but nothing comes of it where there are none. -/
theorem getDAFromStream_overwrite (stream : Stream) (addresses : Ieee802MacAddresses) :
    (overwriteAddresses stream addresses).getDAFromStream =
      match stream.getDAFromStream with
      | .ok _ => .ok addresses.destinationMacAddress
      | .error status => .error status := by
  unfold Stream.getDAFromStream overwriteAddresses Stream.withDataFrames
  dsimp only
  rw [List.find?_map]
  have hsame : ((fun dfs : DataFrameSpecification => dfs.type == .ieee802MacAddresses) ∘
      fun dfs => if dfs.type = .ieee802MacAddresses then
        { dfs with ieee802MacAddresses := addresses } else dfs) =
      fun dfs => dfs.type == .ieee802MacAddresses := by
    funext dfs
    rw [Function.comp_apply]
    split_ifs <;> rfl
  rw [hsame]
  cases hfind : stream.talker.dataFrameSpecifications.find? (·.type == .ieee802MacAddresses) with
  | some dfs =>
    have htype : dfs.type = .ieee802MacAddresses := by simpa using List.find?_some hfind
    rw [Option.map_some, if_pos htype]
  | none => rfl

/-- What storing a stream does to its project. -/
structure StreamStored (project : Project) (stream stored : Stream) (project' : Project) :
    Prop where
  change : ∃ lastId, project' =
    { project with streams := project.streams.insert stored, lastAssignedStreamId := lastId }
  contains_iff : project.streams.contains stored = true ↔
    stream.id ≠ -1 ∧ project.streams.contains stream = true
  streamName : stored.streamName = stream.streamName
  vlanId : stored.vlanId = stream.vlanId
  multicast : stored.multicast = stream.multicast
  listenerDevice : listenerDevice project stored = listenerDevice project stream

theorem streams_contains_congr {streams : QSet Stream} {x y : Stream} (h : x.id = y.id) :
    streams.contains x = streams.contains y := by
  have hsame : (fun z : Stream => z == x) = fun z => z == y := by
    funext z
    rw [Bool.eq_iff_iff, sameStream_iff, sameStream_iff, h]
  unfold QSet.contains
  rw [hsame]

/-- **Storing a stream**: it enters the set, and its addresses are those of its devices. -/
theorem storeStream_ok {change : Stream → Ieee802MacAddresses → Stream}
    (hchange : ∀ stream addresses, ∃ specifications,
      change stream addresses = stream.withDataFrames specifications)
    (h : storeStream change project stream = .ok (stored, project')) :
    StreamStored project stream stored project' ∧
      (stream.multicast = false → ∀ device, listenerDevice project stream = some device →
        ∃ assigned addresses, assigned.getDAFromStream = stream.getDAFromStream ∧
          addresses.destinationMacAddress = device.macAddress ∧
          stored = change assigned addresses) := by
  obtain ⟨⟨assigned, numbered⟩, hassign, h⟩ := ExceptRule.exists_of_bind h
  obtain ⟨stored', hunicast, h⟩ := ExceptRule.exists_of_bind h
  cases h
  obtain ⟨newId, lastId, rfl, rfl, hid⟩ := assignUniqueId_ok hassign
  have hcont : ∀ stored' : Stream, stored'.id = newId →
      (project.streams.contains stored' = true ↔
        stream.id ≠ -1 ∧ project.streams.contains stream = true) := by
    intro stored' hstored
    rcases hid with ⟨hnone, hfresh⟩ | ⟨hsome, rfl⟩
    · refine iff_of_false (fun hcont => ?_) fun h => h.1 hnone
      obtain ⟨x, hx, hbeq⟩ := List.any_eq_true.1 hcont
      exact hfresh x hx ((sameStream_iff.1 hbeq).trans hstored)
    · rw [streams_contains_congr hstored]
      exact (and_iff_right hsome).symm
  rcases setUnicast_ok hunicast with ⟨hmulticast, rfl⟩ | ⟨hunicast, addresses, haddrs, rfl⟩
  · refine ⟨⟨⟨lastId, rfl⟩, hcont _ rfl, rfl, rfl, rfl, rfl⟩, fun hno => ?_⟩
    rw [show stream.multicast = true from hmulticast] at hno
    cases hno
  · refine ⟨?_, fun _ device hdev => ⟨assignStreamId { stream with id := newId }, addresses, rfl,
      destination_of_unicastAddresses haddrs hdev, rfl⟩⟩
    obtain ⟨specifications, hstored⟩ :=
      hchange (assignStreamId { stream with id := newId }) addresses
    rw [hstored]
    exact ⟨⟨lastId, rfl⟩, hcont _ rfl, rfl, rfl, rfl, rfl⟩

/-! ### One operation -/

theorem streamInOrder_withStreams {streams : QSet Stream} {lastId : ℤ} :
    StreamInOrder { project with streams := streams, lastAssignedStreamId := lastId } stream ↔
      StreamInOrder project stream :=
  ⟨fun h => ⟨h.vlan, h.destination⟩, fun h => ⟨h.vlan, h.destination⟩⟩

theorem StreamsInOrder.remove (h : StreamsInOrder project) (stream : Stream) :
    StreamsInOrder { project with streams := project.streams.remove stream } :=
  ⟨h.names.sublist List.eraseP_sublist, fun x hx =>
    streamInOrder_withStreams.2 (h.each x (QSet.mem_of_mem_remove hx))⟩

/-- **A stream that is stored under a new name** leaves the streams in order exactly when it is in
order itself, or never gets in. -/
theorem StreamsInOrder.stored_iff (h : StreamsInOrder project)
    (hstored : StreamStored project stream stored project')
    (hnamed : ∀ x ∈ project.streams, x.streamName ≠ stream.streamName) : StreamsInOrder project' ↔
      (stream.id ≠ -1 ∧ project.streams.contains stream = true) ∨ StreamInOrder project stored := by
  obtain ⟨lastId, rfl⟩ := hstored.change
  rw [← hstored.contains_iff]
  by_cases hcont : project.streams.contains stored = true
  · have hsame : project.streams.insert stored = project.streams := if_pos hcont
    refine iff_of_true ⟨?_, fun x hx => ?_⟩ (.inl hcont)
    · show (project.streams.insert stored).Pairwise _
      rw [hsame]
      exact h.names
    · rw [show x ∈ project.streams.insert stored ↔ x ∈ project.streams by rw [hsame]] at hx
      exact streamInOrder_withStreams.2 (h.each x hx)
  · rw [or_iff_right hcont]
    have hsame := QSet.insert_of_not_contains (Bool.not_eq_true _ ▸ hcont)
    constructor
    · intro horder
      refine streamInOrder_withStreams.1 (horder.each stored ?_)
      show stored ∈ project.streams.insert stored
      rw [hsame]
      exact List.mem_append_right _ List.mem_cons_self
    · intro horder
      refine ⟨?_, fun x hx => streamInOrder_withStreams.2 ?_⟩
      · show (project.streams.insert stored).Pairwise _
        rw [hsame, List.pairwise_append]
        refine ⟨h.names, List.pairwise_singleton _ _, fun x hx y hy => ?_⟩
        rw [List.mem_singleton.1 hy, hstored.streamName]
        exact hnamed x hx
      · rcases QSet.mem_or_eq_of_mem_insert hx with hx | rfl
        · exact h.each x hx
        · exact horder

/-- What holds of the streams along a run: they are in order, and their ids are different. -/
def StreamsKept (project : Project) : Prop := StreamsInOrder project ∧ project.streams.Distinct

theorem StreamStored.distinct (h : StreamStored project stream stored project')
    (hdist : project.streams.Distinct) : project'.streams.Distinct := by
  obtain ⟨lastId, rfl⟩ := h.change
  exact hdist.insert stored

theorem names_of_any_eq_false {streams : QSet Stream} {name : String}
    (h : ¬(streams.any (·.streamName == name)) = true) : ∀ x ∈ streams, x.streamName ≠ name := by
  rw [Bool.not_eq_true, List.any_eq_false] at h
  exact fun x hx heq => h x hx (beq_iff_eq.2 heq)

/-- **Creating a stream** leaves the streams in order exactly when the stream comes without
addresses, or with those of its listener in front. -/
theorem StreamsKept.create (h : StreamsKept project)
    (hcreate : createStream project stream = .ok (stored, project')) : project'.streams.Distinct ∧
      (StreamsInOrder project' ↔ (StreamRequest.create stream).KeepsOrder project) := by
  unfold createStream at hcreate
  split_ifs at hcreate with hname hgroup
  obtain ⟨vlanId, priorityCodePoint, hset⟩ := setVlanByTags_eq stream
  rw [hset] at hgroup hcreate
  have hkeeps : ∀ stream addresses, ∃ specifications,
      appendAddresses stream addresses = stream.withDataFrames specifications := fun _ _ => ⟨_, rfl⟩
  obtain ⟨hstored, hdest⟩ := storeStream_ok hkeeps hcreate
  have hmulticast : stored.multicast = stream.multicast := hstored.multicast
  have hlist : listenerDevice project stored = listenerDevice project stream :=
    hstored.listenerDevice
  have hsent : stream.multicast = false → ∀ device, listenerDevice project stream = some device →
      stored.getDAFromStream = match stream.getDAFromStream with
        | .ok da => .ok da
        | .error _ => .ok device.macAddress := by
    intro hunicast device hdev
    obtain ⟨assigned, addresses, hsame, haddr, rfl⟩ := hdest hunicast device hdev
    rw [getDAFromStream_append, hsame, haddr]
    rfl
  refine ⟨hstored.distinct h.2, (h.1.stored_iff hstored (names_of_any_eq_false hname)).trans ?_⟩
  refine or_congr Iff.rfl ⟨fun horder => ?_, fun hgiven => ⟨?_, fun hunicast device hdev => ?_⟩⟩
  · refine or_iff_not_imp_left.2 fun hno device hdev da hda => ?_
    have hunicast : stream.multicast = false := Bool.not_eq_true _ ▸ hno
    have horder := horder.destination (hmulticast.trans hunicast) device (hlist.trans hdev)
    rw [hsent hunicast device hdev, hda] at horder
    exact Except.ok.inj horder
  · rw [hstored.vlanId]
    exact groups_contains_eq_false.1 (Bool.not_eq_true _ ▸ hgroup)
  · rw [hmulticast] at hunicast
    rw [hlist] at hdev
    rw [hsent hunicast device hdev]
    cases hda : stream.getDAFromStream with
    | ok da =>
      rcases hgiven with hno | hgiven
      · rw [hunicast] at hno
        cases hno
      · rw [hgiven device hdev da hda]
    | error status => rfl

/-- A VLAN of the user's is compared with the groups, any other is taken as it is. -/
theorem setUserDefinedVlan_ok (h : setUserDefinedVlan project stream = .ok stored) :
    ∃ vlanId priorityCodePoint,
      stored = { stream with vlanId := vlanId, priorityCodePoint := priorityCodePoint } ∧
      ((∀ group ∈ project.intelligentVlanGroup, vlanId ≠ group.vlanId) ↔
        (stream.userDefinedVlan = true ∨
          ∀ group ∈ project.intelligentVlanGroup, stream.vlanId ≠ group.vlanId)) := by
  unfold setUserDefinedVlan at h
  split_ifs at h with huser
  · obtain ⟨tag, -, h⟩ := ExceptRule.exists_of_bind h
    split_ifs at h with hzero hgroup
    cases h
    exact ⟨tag.vlanId, tag.priorityCodePoint, rfl,
      iff_of_true (groups_contains_eq_false.1 (Bool.not_eq_true _ ▸ hgroup)) (.inl huser)⟩
  · cases h
    exact ⟨stream.vlanId, stream.priorityCodePoint, rfl, (or_iff_right huser).symm⟩

theorem markModified_eq (stream : Stream) :
    ∃ status, markModified stream = { stream with streamStatus := status } := by
  unfold markModified
  split_ifs
  · exact ⟨_, rfl⟩
  · exact ⟨stream.streamStatus, rfl⟩

/-- The set has no stream with the id of one that was taken out. -/
theorem contains_remove_eq_false {streams : QSet Stream} (h : streams.Distinct) (stream : Stream) :
    (streams.remove stream).contains stream = false := by
  rw [QSet.contains_eq_false]
  intro x hx
  cases hfind : streams.find stream with
  | none =>
    rw [QSet.remove_of_find_none hfind] at hx
    exact QSet.contains_eq_false.1 (QSet.find_eq_none.1 hfind) x hx
  | some own =>
    obtain ⟨hown, hsame⟩ := QSet.mem_of_find hfind
    obtain ⟨hx, hne⟩ :=
      (QSet.mem_remove_iff h (fun x => sameStream_iff.2 rfl) hfind).1 hx
    rw [← Bool.not_eq_true]
    intro hbeq
    refine hne (h.eq_of_beq sameStream_comm hx hown ?_)
    rw [sameStream_iff] at hbeq hsame ⊢
    rw [hbeq, hsame]

/-- **Updating a stream** leaves the streams in order exactly when its VLAN is the user's or not
one of a group, and a unicast stream carries addresses. -/
theorem StreamsKept.update (h : StreamsKept project)
    (hupd : updateStream project stream = .ok (stored, project')) : project'.streams.Distinct ∧
      (StreamsInOrder project' ↔ (StreamRequest.update stream).KeepsOrder project) := by
  obtain ⟨tagged, htagged, hupd⟩ := ExceptRule.exists_of_bind hupd
  obtain ⟨vlanId, priorityCodePoint, rfl, hvlan⟩ :=
    setUserDefinedVlan_ok (atProject_eq_ok.1 htagged)
  dsimp only at hupd
  split_ifs at hupd with hname
  obtain ⟨status, hmarked⟩ := markModified_eq
    { stream with vlanId := vlanId, priorityCodePoint := priorityCodePoint }
  rw [hmarked] at hupd
  have hkeeps : ∀ stream addresses, ∃ specifications,
      overwriteAddresses stream addresses = stream.withDataFrames specifications :=
    fun _ _ => ⟨_, rfl⟩
  obtain ⟨hstored, hdest⟩ := storeStream_ok hkeeps hupd
  have hmulticast : stored.multicast = stream.multicast := hstored.multicast
  have hlist : listenerDevice project stored = listenerDevice project stream :=
    hstored.listenerDevice
  have hsent : stream.multicast = false → ∀ device, listenerDevice project stream = some device →
      stored.getDAFromStream = match stream.getDAFromStream with
        | .ok _ => .ok device.macAddress
        | .error status => .error status := by
    intro hunicast device hdev
    obtain ⟨assigned, addresses, hsame, haddr, rfl⟩ := hdest hunicast device hdev
    rw [getDAFromStream_overwrite, hsame, haddr]
    rfl
  -- the stream that is replaced has been taken out, so the new one gets in
  have hfree : ¬(stream.id ≠ -1 ∧ (project.streams.remove stream).contains stream = true) := by
    rw [contains_remove_eq_false h.2]
    exact fun hno => Bool.false_ne_true hno.2
  refine ⟨hstored.distinct (h.2.remove stream),
    ((h.1.remove stream).stored_iff hstored (names_of_any_eq_false hname)).trans ?_⟩
  refine (or_iff_right hfree).trans ⟨fun horder => ⟨?_, ?_⟩, fun hgiven => ⟨?_, ?_⟩⟩
  · rw [← hvlan]
    intro group hgroup
    rw [← show stored.vlanId = vlanId from hstored.vlanId]
    exact horder.vlan group hgroup
  · refine or_iff_not_imp_left.2 fun hno device hdev => ?_
    have hunicast : stream.multicast = false := Bool.not_eq_true _ ▸ hno
    have horder := horder.destination (hmulticast.trans hunicast) device (hlist.trans hdev)
    rw [hsent hunicast device hdev] at horder
    cases hda : stream.getDAFromStream with
    | ok da => exact ⟨da, rfl⟩
    | error status =>
      rw [hda] at horder
      cases horder
  · rw [hstored.vlanId]
    exact hvlan.2 hgiven.1
  · intro hunicast device hdev
    replace hdev := hlist.symm.trans hdev
    rw [hmulticast] at hunicast
    rcases hgiven.2 with hno | hgiven
    · rw [hunicast] at hno
      cases hno
    · obtain ⟨da, hda⟩ := hgiven device hdev
      rw [hsent hunicast device hdev, hda]

/-! ### Every run -/

theorem deleteStream_ok {streamId : ℤ} (h : deleteStream project streamId = .ok project') :
    project' = { project with streams := project.streams.remove { id := streamId } } := by
  unfold deleteStream at h
  split_ifs at h
  exact (Except.ok.inj h).symm

theorem StreamsKept.delete {streamId : ℤ} (h : StreamsKept project)
    (hdel : deleteStream project streamId = .ok project') : StreamsKept project' := by
  rw [deleteStream_ok hdel]
  exact ⟨h.1.remove _, h.2.remove _⟩

theorem StreamsKept.deleteAll {streamIds : List ℤ} (h : StreamsKept project)
    (hdel : deleteStreams project streamIds = .ok project') : StreamsKept project' := by
  unfold deleteStreams at hdel
  split_ifs at hdel
  exact ExceptRule.foldlM_rule hdel h fun _ _ _ hkept hstep => hkept.delete hstep

/-- **One call** leaves the streams in order exactly when it keeps clear of what the operations
do not look at. -/
theorem StreamsKept.step {request : StreamRequest} (h : StreamsKept project)
    (hstep : StreamStep project request project') :
    project'.streams.Distinct ∧ (StreamsInOrder project' ↔ request.KeepsOrder project) := by
  cases request with
  | create stream =>
    obtain ⟨⟨stored, created⟩, hcreate, rfl⟩ := ExceptRule.exists_of_map hstep
    exact h.create hcreate
  | update stream =>
    obtain ⟨⟨stored, updated⟩, hupd, rfl⟩ := ExceptRule.exists_of_map hstep
    exact h.update hupd
  | delete streamId =>
    have hkept := h.delete hstep
    exact ⟨hkept.2, iff_of_true hkept.1 trivial⟩
  | deleteAll streamIds =>
    have hkept := h.deleteAll hstep
    exact ⟨hkept.2, iff_of_true hkept.1 trivial⟩

theorem streamsKept_of_nil (h : project.streams = []) : StreamsKept project := by
  refine ⟨⟨?_, fun stream hstream => ?_⟩, ?_⟩
  · rw [h]
    exact List.Pairwise.nil
  · rw [h] at hstream
    cases hstream
  · rw [h]
    exact List.Pairwise.nil

/-- **The streams are in order as long as every call keeps clear.**  In a run of calls on a project
that has no streams at first, whatever its VLAN groups and devices, the names are different, no
VLAN is that of a group, and every unicast stream goes to its listener in every state, if and
only if every call meets the condition for it. -/
theorem streamsInOrder_iff {start : Project} {run : List (StreamRequest × Project)}
    (hstart : start.streams = []) (hrun : Along StreamStep start run) :
    (∀ project ∈ statesOfRun start run, StreamsInOrder project) ↔
      Along (fun project request _ => request.KeepsOrder project) start run := by
  refine hrun.iff_along (streamsKept_of_nil hstart) (fun _ h => h.1) (fun s l t hstep hs hok => ?_)
    fun s l t hstep hs hP => (hs.step hstep).2.1 hP
  obtain ⟨hdist, hiff⟩ := hs.step hstep
  exact ⟨hiff.2 hok, hdist⟩

/-- Two end stations and a VLAN group, but no stream. -/
def stationPair : Project where
  devices :=
    [{ id := 1, ipAddress := "192.168.127.1", macAddress := "00-00-00-00-00-01" },
      { id := 2, ipAddress := "192.168.127.2", macAddress := "00-00-00-00-00-02" }]
  intelligentVlanGroup := [{ vlanId := 10 }]

/-- A unicast stream from the first station to the second. -/
def plainStream : Stream where
  streamName := "stream"
  talker := { endStationInterface := { deviceId := 1, interfaceId := 1 } }
  listeners := [{ endStationInterface := { deviceId := 2, interfaceId := 1 } }]

/-- The project after the call, if it succeeds. -/
def StreamRequest.after (project : Project) (request : StreamRequest) : Project :=
  (request.exec project).toOption.getD {}

theorem streamStep_after {request : StreamRequest}
    (h : (request.exec project).toOption.isSome = true) :
    StreamStep project request (request.after project) := by
  unfold StreamStep StreamRequest.after
  cases hexec : request.exec project with
  | ok project' => rfl
  | error failure =>
    rw [hexec] at h
    cases h

theorem streamsKept_stationPair : StreamsKept stationPair := streamsKept_of_nil rfl

/-- The station pair after its stream has been created. -/
def streamingPair : Project := (StreamRequest.create plainStream).after stationPair

theorem step_streamingPair : StreamStep stationPair (.create plainStream) streamingPair :=
  streamStep_after (by decide +kernel)

theorem keepsOrder_plainStream : (StreamRequest.create plainStream).KeepsOrder stationPair :=
  .inr (.inr fun _ _ _ hda => nomatch hda)

theorem streamsKept_streamingPair : StreamsKept streamingPair := by
  obtain ⟨hdist, hiff⟩ := streamsKept_stationPair.step step_streamingPair
  exact ⟨hiff.2 keepsOrder_plainStream, hdist⟩

/-- A stream that is created without addresses, and deleted. -/
theorem streamsInOrder_streamingPair :
    Along StreamStep stationPair [(StreamRequest.create plainStream, streamingPair),
      (StreamRequest.delete 50001, (StreamRequest.delete 50001).after streamingPair)] ∧
    ∀ project ∈ statesOfRun stationPair [(StreamRequest.create plainStream, streamingPair),
      (StreamRequest.delete 50001, (StreamRequest.delete 50001).after streamingPair)],
      StreamsInOrder project := by
  have hrun : Along StreamStep stationPair [(StreamRequest.create plainStream, streamingPair),
      (StreamRequest.delete 50001, (StreamRequest.delete 50001).after streamingPair)] :=
    ⟨step_streamingPair, streamStep_after (by decide +kernel), trivial⟩
  exact ⟨hrun, (streamsInOrder_iff rfl hrun).2 ⟨keepsOrder_plainStream, trivial, trivial⟩⟩

/-- The plain stream, with an address that is not the one of its listener. -/
def strayStream : Stream :=
  plainStream.withDataFrames
    [{ ieee802MacAddresses := { destinationMacAddress := "00-00-00-00-00-09" } }]

theorem not_keepsOrder_strayStream :
    ¬(StreamRequest.create strayStream).KeepsOrder stationPair := by
  rintro (⟨hid, -⟩ | hmulticast | hda)
  · exact hid rfl
  · cases hmulticast
  · have hne : "00-00-00-00-00-09" ≠ "00-00-00-00-00-02" := by decide
    exact hne (hda { id := 2, ipAddress := "192.168.127.2", macAddress := "00-00-00-00-00-02" }
      (by rfl) _ rfl)

/-- The plain stream in the VLAN of the group. -/
def groupStream : Stream := { plainStream.withDataFrames [{}] with id := 50001, vlanId := 10 }

theorem not_keepsOrder_groupStream :
    ¬(StreamRequest.update groupStream).KeepsOrder streamingPair := by
  rintro ⟨hvlan, -⟩
  have hgroup : (streamingPair.intelligentVlanGroup.any (·.vlanId == 10)) = true := by
    decide +kernel
  obtain ⟨group, hmem, hid⟩ := List.any_eq_true.1 hgroup
  exact hvlan.resolve_left (by decide) group hmem (beq_iff_eq.1 hid).symm

theorem not_keepsOrder_plainStream :
    ¬(StreamRequest.update { plainStream with id := 50001 }).KeepsOrder streamingPair := by
  rintro ⟨-, haddrs⟩
  have hdev : (listenerDevice streamingPair plainStream).isSome = true := by decide +kernel
  obtain ⟨device, hdev⟩ := Option.isSome_iff_exists.1 hdev
  obtain ⟨da, hda⟩ := haddrs.resolve_left (by decide) device hdev
  cases hda

/-- **The three ways out of order.**  A stream is created with addresses of its own, which stay in
front of those of its listener; a stream is updated to the VLAN of a group, which it does not
define as its user's; a stream is updated without addresses, and has none afterwards. -/
theorem not_streamsInOrder : stationPair.streams = [] ∧
    (∃ project, Along StreamStep stationPair [(StreamRequest.create strayStream, project)] ∧
      ¬StreamsInOrder project) ∧
    (∃ project, Along StreamStep stationPair [(StreamRequest.create plainStream, streamingPair),
        (StreamRequest.update groupStream, project)] ∧ ¬StreamsInOrder project) ∧
    ∃ project, Along StreamStep stationPair [(StreamRequest.create plainStream, streamingPair),
      (StreamRequest.update { plainStream with id := 50001 }, project)] ∧
      ¬StreamsInOrder project := by
  have hstray : StreamStep stationPair (.create strayStream) _ :=
    streamStep_after (by decide +kernel)
  have hgroup : StreamStep streamingPair (.update groupStream) _ :=
    streamStep_after (by decide +kernel)
  have hplain : StreamStep streamingPair (.update { plainStream with id := 50001 }) _ :=
    streamStep_after (by decide +kernel)
  refine ⟨rfl, ⟨_, ⟨hstray, trivial⟩, ?_⟩, ⟨_, ⟨step_streamingPair, hgroup, trivial⟩, ?_⟩,
    ⟨_, ⟨step_streamingPair, hplain, trivial⟩, ?_⟩⟩
  · exact fun h => not_keepsOrder_strayStream ((streamsKept_stationPair.step hstray).2.1 h)
  · exact fun h => not_keepsOrder_groupStream ((streamsKept_streamingPair.step hgroup).2.1 h)
  · exact fun h => not_keepsOrder_plainStream ((streamsKept_streamingPair.step hplain).2.1 h)

end Core
end Sebastian

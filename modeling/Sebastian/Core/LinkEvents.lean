/-
# The status of the links in the monitor

`HandlePortLinkEvent` and `HandlePingResult`
(`core/src/act_core_monitor_process_engine.cpp`), as far as links go: an event of a port and
a baseline device that does not answer set `g_monitor_link_status` of the links they find,
and what is to be told about links waits in `g_link_status_ws_data_set` until the next event
of a port sends it.

At the destination the port of an event is compared with the id of the device, and the ids
of the two devices go through an `int` before they are compared with the one of the ping.
Where no event of a run falls into that (`LinkEvent.Met`), every link has the status of the
last event that concerns it, and every message says so (`followsLastEvent_of_met`).
-/

import Sebastian.Core.Topology

namespace Sebastian
namespace Core

open List QSet QMap

/-! ### The handlers -/

/-- `ActMonitorLinkStatusData` -/
structure LinkStatusData where
  id : ℤ := -1
  alive : Bool := false
  redundancy : Bool := false
  sourceDeviceId : ℤ := -1
  sourceInterfaceId : ℤ := -1
  destinationDeviceId : ℤ := -1
  destinationInterfaceId : ℤ := -1
  deriving DecidableEq

/-- `operator==(ActMonitorLinkStatusData)` -/
instance : BEq LinkStatusData where
  beq x y := x.id == y.id

/-- `ActMonitorLinkStatusData(link)`, the link told to be alive or not. -/
def LinkStatusData.ofLink (link : Link) (alive : Bool) : LinkStatusData where
  id := link.id
  alive := alive
  sourceDeviceId := link.sourceDeviceId
  sourceInterfaceId := link.sourceInterfaceId
  destinationDeviceId := link.destinationDeviceId
  destinationInterfaceId := link.destinationInterfaceId

/-- `monitor_project_`, `g_monitor_link_status` and `g_link_status_ws_data_set`. -/
structure LinkMonitor where
  project : Project
  linkStatus : QMap ℤ Bool := ∅
  pending : QSet LinkStatusData := []

/-- `ActPingDevice` -/
structure PingDevice where
  id : ℤ := -1
  ipAddress : String := ""

/-- What the handlers are called for: the topic of an event with its `sourceIp` and port, or a
baseline device that does not answer. -/
inductive LinkEvent where
  | portLink (up : Bool) (sourceIp : String) (portId : ℤ)
  | pingLost (device : PingDevice)

/-- `GetDeviceByIp` -/
def deviceByIp (project : Project) (ip : String) : Option Device :=
  List.find? (·.ipAddress == ip) project.devices

/-- The test for a link at the port of an event: the id of the destination stands for its port. -/
def atPort (deviceId portId : ℤ) (link : Link) : Bool :=
  (link.sourceDeviceId == deviceId && link.sourceInterfaceId == portId) ||
    (link.destinationDeviceId == deviceId && link.destinationDeviceId == portId)

/-- "Remove the list status notification": the entry of a link is taken out and put back with the
status, or a new one is inserted. -/
def tellLink (pending : QSet LinkStatusData) (link : Link) (up : Bool) : QSet LinkStatusData :=
  match pending.find { id := link.id } with
  | some data => (pending.remove data).insert { data with alive := up }
  | none => pending.insert (.ofLink link up)

/-- One link of the loop of `HandlePortLinkEvent`. -/
def portLinkStep (up : Bool) (deviceId portId : ℤ) (s : LinkMonitor) (link : Link) : LinkMonitor :=
  if atPort deviceId portId link then
    { s with
      pending := tellLink s.pending link up
      linkStatus := s.linkStatus.insert link.id up }
  else
    { s with
      pending := s.pending.insert (.ofLink link (s.linkStatus.value link.id))
      linkStatus := s.linkStatus.touch link.id }

/-- `HandlePortLinkEvent`, with the message that it sends. -/
def handlePortLinkEvent (up : Bool) (sourceIp : String) (portId : ℤ) (s : LinkMonitor) :
    LinkMonitor × Option (QSet LinkStatusData) :=
  match deviceByIp s.project sourceIp with
  | none => (s, none)
  | some device =>
    let s := s.project.links.foldl (portLinkStep up device.id portId) s
    if s.pending.isEmpty then (s, none) else ({ s with pending := [] }, some s.pending)

/-- A `qint64` in an `int`. -/
def toInt (n : ℤ) : ℤ := Int.bmod n (2 ^ 32)

/-- One link of the loop of `HandlePingResult`. -/
def pingLinkStep (deviceId : ℤ) (s : LinkMonitor) (link : Link) : LinkMonitor :=
  if toInt link.sourceDeviceId = deviceId ∨ toInt link.destinationDeviceId = deviceId then
    { s with
      pending := s.pending.insert (.ofLink link false)
      linkStatus := s.linkStatus.insert link.id false }
  else s

/-- `HandlePingResult`, for a baseline device that does not answer. -/
def handlePingResult (device : PingDevice) (s : LinkMonitor) : LinkMonitor :=
  match deviceByIp s.project device.ipAddress with
  | none => s
  | some _ => s.project.links.foldl (pingLinkStep device.id) s

/-- One event. -/
def LinkEvent.handle (s : LinkMonitor) : LinkEvent → LinkMonitor × Option (QSet LinkStatusData)
  | .portLink up sourceIp portId => handlePortLinkEvent up sourceIp portId s
  | .pingLost device => (handlePingResult device s, none)

/-- A run of events. -/
def LinkEvent.run (s : LinkMonitor) (events : List LinkEvent) : LinkMonitor :=
  events.foldl (fun s event => (event.handle s).1) s

/-! ### The last event -/

/-- The status that an event sets. -/
def LinkEvent.status : LinkEvent → Bool
  | .portLink up _ _ => up
  | .pingLost _ => false

/-- **The event concerns the link**: it is about one of its two ends, or the device that is lost
is one of its two devices. -/
def LinkEvent.concerns (project : Project) (link : Link) : LinkEvent → Bool
  | .portLink _ sourceIp portId =>
    (deviceByIp project sourceIp).any fun device => link.hasEndpoint device.id portId
  | .pingLost ping =>
    (deviceByIp project ping.ipAddress).any fun device =>
      link.sourceDeviceId == device.id || link.destinationDeviceId == device.id

/-- The status that the last event that concerns the link leaves. -/
def lastStatus (project : Project) (link : Link) (status : Bool) (events : List LinkEvent) : Bool :=
  events.foldl (fun status event => if event.concerns project link then event.status else status)
    status

/-- **The links follow the last event**: each has its status, and when the event of a port of a
known device has been handled a message was sent that has every link once with its status. -/
structure FollowsLastEvent (project : Project) (linkStatus : QMap ℤ Bool)
    (events : List LinkEvent) : Prop where
  status : ∀ link ∈ project.links,
    (LinkEvent.run ⟨project, linkStatus, []⟩ events).linkStatus.value link.id =
      lastStatus project link (linkStatus.value link.id) events
  message : ∀ passed up sourceIp portId rest,
    events = passed ++ .portLink up sourceIp portId :: rest →
    (deviceByIp project sourceIp).isSome → ∀ link ∈ project.links, ∃ message,
      (handlePortLinkEvent up sourceIp portId
        (LinkEvent.run ⟨project, linkStatus, []⟩ passed)).2 = some message ∧
      message.Distinct ∧ ∃ data ∈ message, data.id = link.id ∧ data.alive =
        lastStatus project link (linkStatus.value link.id)
          (passed ++ [.portLink up sourceIp portId])

/-- The ping has the id of the device with its address. -/
def LinkEvent.Named (project : Project) : LinkEvent → Prop
  | .portLink _ _ _ => True
  | .pingLost ping => ∀ device ∈ deviceByIp project ping.ipAddress, device.id = ping.id

instance (project : Project) : DecidablePred (LinkEvent.Named project)
  | .portLink _ _ _ => .isTrue trivial
  | .pingLost ping =>
    inferInstanceAs (Decidable (∀ device ∈ deviceByIp project ping.ipAddress, device.id = ping.id))

/-- **The comparisons of the handlers do no harm**: at a link that ends at the device of the
event, the port has the number of the destination's port exactly when it has that of the device;
and no id that is cut to an `int` is taken for the one of the ping, or no longer taken. -/
def LinkEvent.Met (project : Project) : LinkEvent → Prop
  | .portLink _ sourceIp portId => ∀ device ∈ deviceByIp project sourceIp,
    ∀ link ∈ project.links, ¬(link.sourceDeviceId = device.id ∧ link.sourceInterfaceId = portId) →
      link.destinationDeviceId = device.id → (link.destinationInterfaceId = portId ↔
        device.id = portId)
  | .pingLost ping => ∀ device ∈ deviceByIp project ping.ipAddress, ∀ link ∈ project.links,
    (toInt link.sourceDeviceId = device.id ∨ toInt link.destinationDeviceId = device.id ↔
      link.sourceDeviceId = device.id ∨ link.destinationDeviceId = device.id)

instance (project : Project) : DecidablePred (LinkEvent.Met project)
  | .portLink _ sourceIp portId => inferInstanceAs (Decidable (∀ device ∈
      deviceByIp project sourceIp, ∀ link ∈ project.links,
        ¬(link.sourceDeviceId = device.id ∧ link.sourceInterfaceId = portId) →
          link.destinationDeviceId = device.id → (link.destinationInterfaceId = portId ↔
            device.id = portId)))
  | .pingLost ping => inferInstanceAs (Decidable (∀ device ∈ deviceByIp project ping.ipAddress,
      ∀ link ∈ project.links,
        (toInt link.sourceDeviceId = device.id ∨ toInt link.destinationDeviceId = device.id ↔
          link.sourceDeviceId = device.id ∨ link.destinationDeviceId = device.id)))

variable {project : Project} {s : LinkMonitor} {link : Link} {up : Bool} {deviceId portId : ℤ}

/-! ### What waits to be told -/

theorem linkStatusData_beq_iff {x y : LinkStatusData} : (x == y) = true ↔ x.id = y.id :=
  beq_iff_eq (α := ℤ)

theorem linkStatusData_beq_comm (x y : LinkStatusData) : (x == y) = (y == x) :=
  Bool.eq_iff_iff.2 (by rw [linkStatusData_beq_iff, linkStatusData_beq_iff, eq_comm])

/-- **What waits is true**, and said once of every link. -/
structure Told (s : LinkMonitor) : Prop where
  distinct : s.pending.Distinct
  told : ∀ data ∈ s.pending, data.alive = s.linkStatus.value data.id

/-- **A link that is told of** has one entry, with the status; the other entries stay. -/
theorem exists_tellLink {pending : QSet LinkStatusData} (hdist : pending.Distinct)
    (link : Link) (up : Bool) : (tellLink pending link up).Distinct ∧
      ∃ data : LinkStatusData, data.id = link.id ∧ data.alive = up ∧ ∀ x,
        x ∈ tellLink pending link up ↔ (x ∈ pending ∧ x.id ≠ link.id) ∨ x = data := by
  unfold tellLink
  cases hfind : pending.find { id := link.id } with
  | none =>
    have hnone : pending.contains (.ofLink link up) = false := find_eq_none.1 hfind
    refine ⟨hdist.insert _, .ofLink link up, rfl, rfl, fun x => ?_⟩
    dsimp only
    rw [mem_insert_of_not_contains hnone]
    refine or_congr_left (iff_self_and.2 fun hx hid => ?_)
    have hbeq := contains_eq_false.1 hnone x hx
    rw [linkStatusData_beq_iff.2 hid] at hbeq
    cases hbeq
  | some data =>
    obtain ⟨hmem, hbeq⟩ := mem_of_find hfind
    have hid : data.id = link.id := linkStatusData_beq_iff.1 hbeq
    have hfound : pending.find data = some data := find_of_mem hdist
      (linkStatusData_beq_iff.2 rfl) linkStatusData_beq_comm hmem
    refine ⟨(hdist.remove _).insert _, { data with alive := up }, hid, rfl, fun x => ?_⟩
    have hsame : ∀ y : LinkStatusData, (y == { data with alive := up }) = (y == data) :=
      fun _ => rfl
    refine (mem_insert_remove_iff hdist (fun _ => linkStatusData_beq_iff.2 rfl)
      linkStatusData_beq_comm hfound hsame).trans ?_
    refine or_congr_left (and_congr_right fun hx => not_congr ⟨?_, fun hsame => ?_⟩)
    · rintro rfl
      exact hid
    · exact hdist.eq_of_beq linkStatusData_beq_comm hx hmem
        (linkStatusData_beq_iff.2 (hsame.trans hid.symm))

/-- **One link at an event of a port**: its status is set if the test says so, all other links
keep theirs, and the link is told of. -/
theorem Told.portLinkStep (h : Told s) (up : Bool) (deviceId portId : ℤ) (link : Link) :
    Told (portLinkStep up deviceId portId s link) ∧
      (∀ k, value (Core.portLinkStep up deviceId portId s link).linkStatus k =
        if link.id == k && atPort deviceId portId link then up else s.linkStatus.value k) ∧
      ∀ k, (∃ data ∈ (Core.portLinkStep up deviceId portId s link).pending, data.id = k) ↔
        (∃ data ∈ s.pending, data.id = k) ∨ k = link.id := by
  unfold Core.portLinkStep
  split_ifs with hhit
  · obtain ⟨hdist, data, hid, hup, hmem⟩ := exists_tellLink h.distinct link up
    refine ⟨⟨hdist, fun x hx => ?_⟩, fun k => ?_, fun k => ⟨?_, ?_⟩⟩
    · dsimp only
      rw [value_insert]
      rcases (hmem x).1 hx with ⟨hx, hne⟩ | rfl
      · rw [if_neg (Ne.symm hne)]
        exact h.told x hx
      · rw [if_pos hid.symm]
        exact hup
    · rw [value_insert]
      simp [hhit]
    · rintro ⟨x, hx, rfl⟩
      rcases (hmem x).1 hx with ⟨hx, -⟩ | rfl
      · exact .inl ⟨x, hx, rfl⟩
      · exact .inr hid
    · intro hk
      by_cases hlink : k = link.id
      · exact ⟨data, (hmem data).2 (.inr rfl), hid.trans hlink.symm⟩
      · obtain ⟨x, hx, rfl⟩ := hk.resolve_right hlink
        exact ⟨x, (hmem x).2 (.inl ⟨hx, hlink⟩), rfl⟩
  · refine ⟨⟨h.distinct.insert _, fun x hx => ?_⟩, fun k => ?_, fun k => ⟨?_, ?_⟩⟩
    · rw [value_touch]
      rcases mem_or_eq_of_mem_insert hx with hx | rfl
      · exact h.told x hx
      · rfl
    · rw [value_touch, Bool.eq_false_iff.2 hhit, Bool.and_false]
      rfl
    · rintro ⟨x, hx, rfl⟩
      rcases mem_or_eq_of_mem_insert hx with hx | rfl
      · exact .inl ⟨x, hx, rfl⟩
      · exact .inr rfl
    · rintro (⟨x, hx, rfl⟩ | rfl)
      · exact ⟨x, mem_insert_of_mem hx, rfl⟩
      · cases hcont : s.pending.contains (.ofLink link (s.linkStatus.value link.id)) with
        | false => exact ⟨_, (mem_insert_of_not_contains hcont).2 (.inr rfl), rfl⟩
        | true =>
          obtain ⟨x, hx, hbeq⟩ := any_eq_true.1 hcont
          exact ⟨x, mem_insert_of_mem hx, linkStatusData_beq_iff.1 hbeq⟩

/-- **The loop at an event of a port**: the links that pass the test have the status of the event,
and every link is told of. -/
theorem Told.portLinks (h : Told s) (up : Bool) (deviceId portId : ℤ) (links : List Link) :
    Told (links.foldl (Core.portLinkStep up deviceId portId) s) ∧
      (∀ k, value (links.foldl (Core.portLinkStep up deviceId portId) s).linkStatus k =
        if links.any (fun link => link.id == k && atPort deviceId portId link) then up
        else s.linkStatus.value k) ∧
      ∀ k, (∃ data ∈ (links.foldl (Core.portLinkStep up deviceId portId) s).pending,
        data.id = k) ↔ (∃ data ∈ s.pending, data.id = k) ∨ ∃ link ∈ links, link.id = k := by
  induction links generalizing s with
  | nil => exact ⟨h, fun k => rfl, fun k => by simp⟩
  | cons link links ih =>
    obtain ⟨htold, hvalue, hpending⟩ := h.portLinkStep up deviceId portId link
    obtain ⟨htold', hvalue', hpending'⟩ := ih htold
    refine ⟨htold', fun k => ?_, fun k => ?_⟩
    · rw [foldl_cons, hvalue', hvalue, any_cons]
      cases links.any _ <;> cases link.id == k && atPort deviceId portId link <;> rfl
    · rw [foldl_cons, hpending', hpending, exists_mem_cons_iff, or_assoc, eq_comm]

theorem project_portLinks (up : Bool) (deviceId portId : ℤ) (links : List Link) :
    (links.foldl (portLinkStep up deviceId portId) s).project = s.project := by
  refine foldlRecOn (motive := fun t : LinkMonitor => t.project = s.project) links _ rfl ?_
  intro t ht link _
  unfold portLinkStep
  split_ifs <;> exact ht

/-! ### What a ping leaves -/

/-- **Between two events of ports only lost links wait** to be told of. -/
structure LinksTold (s : LinkMonitor) : Prop where
  distinct : s.pending.Distinct
  lost : ∀ data ∈ s.pending, data.alive = false ∧ s.linkStatus.value data.id = false

theorem LinksTold.told (h : LinksTold s) : Told s :=
  ⟨h.distinct, fun data hdata => (h.lost data hdata).1.trans (h.lost data hdata).2.symm⟩

/-- **The loop at a ping**: the links that pass the test are lost. -/
theorem LinksTold.pingLinks (h : LinksTold s) (deviceId : ℤ) (links : List Link) :
    LinksTold (links.foldl (pingLinkStep deviceId) s) ∧
      (links.foldl (pingLinkStep deviceId) s).project = s.project ∧
      ∀ k, value (links.foldl (pingLinkStep deviceId) s).linkStatus k =
        if links.any (fun link => link.id == k && (toInt link.sourceDeviceId == deviceId ||
          toInt link.destinationDeviceId == deviceId)) then false else s.linkStatus.value k := by
  induction links generalizing s with
  | nil => exact ⟨h, rfl, fun k => rfl⟩
  | cons link links ih =>
    obtain ⟨hlost, hproj, hvalue⟩ : LinksTold (pingLinkStep deviceId s link) ∧
        (pingLinkStep deviceId s link).project = s.project ∧
        ∀ k, value (pingLinkStep deviceId s link).linkStatus k =
          if link.id == k && (toInt link.sourceDeviceId == deviceId ||
            toInt link.destinationDeviceId == deviceId) then false else s.linkStatus.value k := by
      unfold pingLinkStep
      split_ifs with hhit
      · refine ⟨⟨h.distinct.insert _, fun data hdata => ?_⟩, rfl, fun k => ?_⟩
        · dsimp only
          rw [value_insert]
          rcases mem_or_eq_of_mem_insert hdata with hdata | rfl
          · refine ⟨(h.lost data hdata).1, ?_⟩
            split_ifs
            · rfl
            · exact (h.lost data hdata).2
          · exact ⟨rfl, if_pos rfl⟩
        · rw [value_insert]
          simp [hhit]
      · exact ⟨h, rfl, fun k => by simp_all⟩
    obtain ⟨hlost', hproj', hvalue'⟩ := ih hlost
    refine ⟨hlost', hproj'.trans hproj, fun k => ?_⟩
    rw [foldl_cons, hvalue', hvalue, any_cons]
    cases links.any _ <;> cases link.id == k && (toInt link.sourceDeviceId == deviceId ||
      toInt link.destinationDeviceId == deviceId) <;> rfl

/-! ### One event -/

theorem any_link (hlinks : project.links.Distinct) (hlink : link ∈ project.links)
    (f : Link → Bool) : any project.links (fun l => l.id == link.id && f l) = f link := by
  rw [Bool.eq_iff_iff, any_eq_true]
  constructor
  · rintro ⟨l, hl, h⟩
    obtain ⟨hid, hf⟩ := Bool.and_eq_true_iff.1 h
    rwa [← hlinks.eq_of_beq link_beq_comm hl hlink (link_beq_iff.2 (.inl (beq_iff_eq.1 hid)))]
  · exact fun hf => ⟨link, hlink, by simp [hf]⟩

/-- Where the condition holds, the test is right. -/
theorem atPort_eq {sourceIp : String} {device : Device}
    (hmet : (LinkEvent.portLink up sourceIp portId).Met project)
    (hdev : deviceByIp project sourceIp = some device) (hlink : link ∈ project.links) :
    atPort device.id portId link = link.hasEndpoint device.id portId := by
  have hends := hmet device hdev link hlink
  rw [Bool.eq_iff_iff]
  simp only [atPort, Link.hasEndpoint, Bool.or_eq_true, Bool.and_eq_true, beq_iff_eq]
  constructor
  · rintro (hsrc | ⟨hdest, hport⟩)
    · exact .inl hsrc
    · by_cases hsrc : link.sourceDeviceId = device.id ∧ link.sourceInterfaceId = portId
      · exact .inl hsrc
      · exact .inr ⟨hdest, (hends hsrc hdest).2 (hdest.symm.trans hport)⟩
  · rintro (hsrc | ⟨hdest, hport⟩)
    · exact .inl hsrc
    · by_cases hsrc : link.sourceDeviceId = device.id ∧ link.sourceInterfaceId = portId
      · exact .inl hsrc
      · exact .inr ⟨hdest, hdest.trans ((hends hsrc hdest).1 hport)⟩

/-- **One event**: a link has the status of the event if it is concerned, and its own one else. -/
theorem LinksTold.handle (h : LinksTold s) (hlinks : s.project.links.Distinct) {event : LinkEvent}
    (hnamed : event.Named s.project) (hmet : event.Met s.project) :
    LinksTold (event.handle s).1 ∧ (event.handle s).1.project = s.project ∧
      ∀ link ∈ s.project.links, value (event.handle s).1.linkStatus link.id =
        if event.concerns s.project link then event.status else s.linkStatus.value link.id := by
  cases event with
  | portLink up sourceIp portId =>
    cases hdev : deviceByIp s.project sourceIp with
    | none =>
      simp only [LinkEvent.handle, handlePortLinkEvent, LinkEvent.concerns, hdev]
      exact ⟨h, trivial, fun _ _ => rfl⟩
    | some device =>
      simp only [LinkEvent.handle, handlePortLinkEvent, LinkEvent.concerns, LinkEvent.status,
        hdev, Option.any_some]
      obtain ⟨htold, hvalue, -⟩ := h.told.portLinks up device.id portId s.project.links
      have hproj := project_portLinks (s := s) up device.id portId s.project.links
      have hlink : ∀ link ∈ s.project.links, value (s.project.links.foldl
          (portLinkStep up device.id portId) s).linkStatus link.id =
          if link.hasEndpoint device.id portId then up else s.linkStatus.value link.id := by
        intro link hlink
        rw [hvalue, any_link hlinks hlink, atPort_eq hmet hdev hlink]
      split_ifs with hempty
      · have hnil := isEmpty_iff.1 hempty
        exact ⟨⟨htold.distinct, fun data hdata => by rw [hnil] at hdata; cases hdata⟩, hproj,
          hlink⟩
      · exact ⟨⟨.nil, nofun⟩, hproj, hlink⟩
  | pingLost ping =>
    cases hdev : deviceByIp s.project ping.ipAddress with
    | none =>
      simp only [LinkEvent.handle, handlePingResult, LinkEvent.concerns, hdev]
      exact ⟨h, trivial, fun _ _ => rfl⟩
    | some device =>
      simp only [LinkEvent.handle, handlePingResult, LinkEvent.concerns, LinkEvent.status, hdev,
        Option.any_some]
      obtain ⟨hlost, hproj, hvalue⟩ := h.pingLinks ping.id s.project.links
      refine ⟨hlost, hproj, fun link hlink => ?_⟩
      have htest := hmet device hdev link hlink
      rw [hvalue, any_link hlinks hlink, ← hnamed device hdev]
      refine if_congr ?_ rfl rfl
      simpa only [Bool.or_eq_true, beq_iff_eq] using htest

/-- **The message of an event** has every link once, with its status. -/
theorem Told.message (h : Told s) {sourceIp : String} {device : Device}
    (hdev : deviceByIp s.project sourceIp = some device) (hlink : link ∈ s.project.links) :
    ∃ message, (handlePortLinkEvent up sourceIp portId s).2 = some message ∧ message.Distinct ∧
      ∃ data ∈ message, data.id = link.id ∧ data.alive =
        value (handlePortLinkEvent up sourceIp portId s).1.linkStatus link.id := by
  unfold handlePortLinkEvent
  rw [hdev]
  obtain ⟨htold, -, hpending⟩ := h.portLinks up device.id portId s.project.links
  obtain ⟨data, hdata, hid⟩ := (hpending link.id).2 (.inr ⟨link, hlink, rfl⟩)
  dsimp only
  split_ifs with hempty
  · rw [isEmpty_iff.1 hempty] at hdata
    cases hdata
  · exact ⟨_, rfl, htold.distinct, data, hdata, hid, hid ▸ htold.told data hdata⟩

/-! ### A run of events -/

/-- **A run**: what holds after one event holds after any number of them. -/
theorem LinksTold.run (h : LinksTold s) (hlinks : s.project.links.Distinct) {events :
    List LinkEvent} (hnamed : ∀ event ∈ events, event.Named s.project)
    (hmet : ∀ event ∈ events, event.Met s.project) :
    LinksTold (LinkEvent.run s events) ∧ (LinkEvent.run s events).project = s.project ∧
      ∀ link ∈ s.project.links, value (LinkEvent.run s events).linkStatus link.id =
        lastStatus s.project link (s.linkStatus.value link.id) events := by
  induction events generalizing s with
  | nil => exact ⟨h, rfl, fun link _ => rfl⟩
  | cons event events ih =>
    obtain ⟨hlost, hproj, hvalue⟩ := h.handle hlinks (hnamed event mem_cons_self)
      (hmet event mem_cons_self)
    obtain ⟨hlost', hproj', hvalue'⟩ := ih hlost (hproj ▸ hlinks)
      (fun e he => hproj ▸ hnamed e (mem_cons_of_mem _ he))
      (fun e he => hproj ▸ hmet e (mem_cons_of_mem _ he))
    refine ⟨hlost', hproj'.trans hproj, fun link hlink => ?_⟩
    have hlast := hvalue' link (hproj ▸ hlink)
    rw [hproj, hvalue link hlink] at hlast
    exact hlast

/-- **The monitored links follow the last event** in every run in which the comparisons do no
harm. -/
theorem followsLastEvent_of_met (hlinks : ConsistentLinks project) (linkStatus : QMap ℤ Bool)
    {events : List LinkEvent} (hnamed : ∀ event ∈ events, event.Named project)
    (hmet : ∀ event ∈ events, event.Met project) : FollowsLastEvent project linkStatus events := by
  have hlost : LinksTold ⟨project, linkStatus, []⟩ := ⟨.nil, nofun⟩
  refine ⟨(hlost.run hlinks.links hnamed hmet).2.2, ?_⟩
  rintro passed up sourceIp portId rest rfl hknown link hlink
  obtain ⟨device, hdev⟩ := Option.isSome_iff_exists.1 hknown
  have hpassed : ∀ event ∈ passed ++ [.portLink up sourceIp portId],
      event ∈ passed ++ .portLink up sourceIp portId :: rest := by
    intro event hevent
    rw [append_cons]
    exact mem_append_left _ hevent
  obtain ⟨hlost', hproj, -⟩ := hlost.run hlinks.links
    (fun e he => hnamed e (mem_append_left _ he))
    fun e he => hmet e (mem_append_left _ he)
  obtain ⟨message, hsent, hdist, data, hdata, hid, halive⟩ :=
    hlost'.told.message (by rw [hproj]; exact hdev) (by rw [hproj]; exact hlink)
  refine ⟨message, hsent, hdist, data, hdata, hid, halive.trans ?_⟩
  -- the event is the last one of the run so far
  obtain ⟨-, -, hvalue⟩ := hlost.run hlinks.links (fun e he => hnamed e (hpassed e he))
    fun e he => hmet e (hpassed e he)
  have hlast := hvalue link hlink
  unfold LinkEvent.run at hlast
  rw [foldl_append] at hlast
  exact hlast

/-- Two switches, and a link from a port of the first to the third port of the second. -/
def monitoredCable : Project where
  devices :=
    [{ id := 1, ipAddress := "10.0.0.1", interfaces := [{ interfaceId := 1, used := true }] },
      { id := 2, ipAddress := "10.0.0.2", interfaces := [{ interfaceId := 3, used := true }] }]
  links :=
    [{ id := 1, sourceDeviceId := 1, sourceInterfaceId := 1, destinationDeviceId := 2,
       destinationInterfaceId := 3 }]

theorem consistentLinks_monitoredCable : ConsistentLinks monitoredCable :=
  consistentLinks_of (by unfold QSet.Distinct; decide) (by decide) (by unfold QSet.Distinct; decide)
    (by decide) (by decide)

/-- The port of the source goes up, and the other switch is lost. -/
theorem followsLastEvent_monitoredCable : FollowsLastEvent monitoredCable ∅
    [.portLink true "10.0.0.1" 1, .pingLost ⟨2, "10.0.0.2"⟩] :=
  followsLastEvent_of_met consistentLinks_monitoredCable ∅
    (by decide) (by decide)

/-- **The port of the destination goes down**, and the link stays up. -/
theorem not_followsLastEvent : ConsistentLinks monitoredCable ∧
    ¬FollowsLastEvent monitoredCable ((∅ : QMap ℤ Bool).insert 1 true)
      [.portLink false "10.0.0.2" 3] := by
  refine ⟨consistentLinks_monitoredCable, fun h => ?_⟩
  have hstatus := h.status _ mem_cons_self
  revert hstatus
  decide

end Core
end Sebastian

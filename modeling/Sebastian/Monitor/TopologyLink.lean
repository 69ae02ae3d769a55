/-
# One pass over the links

`updateTopologyLink` (`sebastian/modules/monitor/monitor_diff.go`) brings the links
of the operation project in core in line with what the network manager reports.
It edits three maps in step: the cache `currentLinkMap` of the monitor, a copy of
it, and the links by their endpoints; and it walks maps in an order that is not
determined.

What every phase keeps is `PassInv`: the copy is the cache, the cache is what core
has, and an endpoint leads to the link that uses it.

Core is taken here by what the pass asks of it: a link is created between two
devices of the project at ports that no link uses, and gets an id of its own;
what else core checks is `CoreRules.accepts`.
-/

import Sebastian.Monitor.LinkDiff

namespace Sebastian
namespace Monitor

/-! ### Core -/

/-- `domain.Device`, of which the passes over devices and links read this. -/
structure ActDevice where
  id : ℤ
  ipAddress : IpAddress
  deriving DecidableEq

/-- `domain.LinkConf` -/
structure LinkConf where
  sourceDeviceId : ℤ
  sourceInterfaceId : ℤ
  destinationDeviceId : ℤ
  destinationInterfaceId : ℤ
  speed : ℤ
  deriving DecidableEq

/-- `domain.Link` -/
structure ActLink extends LinkConf where
  id : ℤ
  deriving DecidableEq

/-- The link ends at the port of the device. -/
def LinkConf.EndsAt (link : LinkConf) (deviceId interfaceId : ℤ) : Prop :=
  (link.sourceDeviceId = deviceId ∧ link.sourceInterfaceId = interfaceId) ∨
    (link.destinationDeviceId = deviceId ∧ link.destinationInterfaceId = interfaceId)

instance (link : LinkConf) (deviceId interfaceId : ℤ) :
    Decidable (link.EndsAt deviceId interfaceId) :=
  inferInstanceAs (Decidable (_ ∨ _))

/-- Two links of core are the same to it when they end at one port: `operator==`, but for the
id. -/
def LinkConf.SharesPort (link link' : LinkConf) : Prop :=
  link.EndsAt link'.sourceDeviceId link'.sourceInterfaceId ∨
    link.EndsAt link'.destinationDeviceId link'.destinationInterfaceId

instance (link link' : LinkConf) : Decidable (link.SharesPort link') :=
  inferInstanceAs (Decidable (_ ∨ _))

/-- The operation project in core; what core answers may also depend on the calls it has served,
as the ids it gives do. -/
structure CoreProject where
  devices : List ActDevice
  links : List ActLink
  calls : ℕ

/-- What the passes leave to core: new ids, which nothing has, and its other checks. -/
structure CoreRules where
  newLinkId : CoreProject → ℤ
  newLinkId_fresh : ∀ core : CoreProject, ∀ link ∈ core.links, link.id ≠ newLinkId core
  newDeviceId : CoreProject → ℤ
  newDeviceId_fresh : ∀ core : CoreProject, ∀ device ∈ core.devices, device.id ≠ newDeviceId core
  accepts : CoreProject → LinkConf → Bool
  deletesLink : CoreProject → ℤ → Bool
  acceptsDevice : CoreProject → IpAddress → Bool
  deletesDevice : ℤ → Bool

/-- Core accepts every link that it can take and deletes every link that it has. -/
def CoreRules.Accepting (rules : CoreRules) : Prop :=
  (∀ core conf, rules.accepts core conf = true) ∧ ∀ core id, rules.deletesLink core id = true

/-- The id after the largest one: the next of a counter that has not come round. -/
def idAfter (ids : List ℤ) : ℤ := ids.foldr max 50000 + 1

theorem lt_idAfter {ids : List ℤ} {id : ℤ} (h : id ∈ ids) : id < idAfter ids := by
  unfold idAfter
  induction ids with
  | nil => cases h
  | cons id' ids ih =>
    rw [List.foldr_cons]
    rcases List.mem_cons.1 h with rfl | h
    · omega
    · have := ih h
      omega

theorem large_idAfter (ids : List ℤ) : 50000 < idAfter ids := by
  unfold idAfter
  induction ids with
  | nil => decide
  | cons id ids ih =>
    rw [List.foldr_cons]
    omega

/-- Core that has no other checks. -/
def CoreRules.accepting : CoreRules where
  newLinkId core := idAfter (core.links.map (·.id))
  newLinkId_fresh _ _ h := Int.ne_of_lt (lt_idAfter (List.mem_map_of_mem h))
  newDeviceId core := idAfter (core.devices.map (·.id))
  newDeviceId_fresh _ _ h := Int.ne_of_lt (lt_idAfter (List.mem_map_of_mem h))
  accepts _ _ := true
  deletesLink _ _ := true
  acceptsDevice _ _ := true
  deletesDevice _ := true

theorem CoreRules.accepting_accepting : CoreRules.accepting.Accepting :=
  ⟨fun _ _ => rfl, fun _ _ => rfl⟩

namespace CoreProject

/-- The ports that the link is to end at belong to devices of the project and are not used. -/
def Admits (core : CoreProject) (conf : LinkConf) : Prop :=
  (∃ device ∈ core.devices, device.id = conf.sourceDeviceId) ∧
    (∃ device ∈ core.devices, device.id = conf.destinationDeviceId) ∧
      ∀ link ∈ core.links, ¬link.SharesPort conf

instance (core : CoreProject) (conf : LinkConf) : Decidable (core.Admits conf) :=
  inferInstanceAs (Decidable (_ ∧ _))

/-- `CreateLink`, and `GetLink` of the new link. -/
def createLink (rules : CoreRules) (core : CoreProject) (conf : LinkConf) :
    Option (ActLink × CoreProject) :=
  if core.Admits conf ∧ rules.accepts core conf = true then
    let link : ActLink := { conf with id := rules.newLinkId core }
    some (link, { core with links := core.links ++ [link], calls := core.calls + 1 })
  else none

/-- `DeleteLink` -/
def deleteLink (rules : CoreRules) (core : CoreProject) (id : ℤ) : Option CoreProject :=
  if (∃ link ∈ core.links, link.id = id) ∧ rules.deletesLink core id = true then
    some { core with links := core.links.filter (·.id ≠ id), calls := core.calls + 1 }
  else none

/-- No two links of core are the same to it. -/
def WellFormed (core : CoreProject) : Prop :=
  core.links.Pairwise fun link link' => link.id ≠ link'.id ∧ ¬link.SharesPort link'.toLinkConf

end CoreProject

/-! ### The caches of the monitor -/

/-- `netdl.Link`, of which the pass reads this; `up` is `Status == LinkStatusUp`. -/
structure MafLink where
  fromIp : IpAddress
  fromPort : ℤ
  toIp : IpAddress
  toPort : ℤ
  speed : ℕ
  up : Bool
  deriving DecidableEq

/-- `getMafLinkIdentifier` -/
def getMafLinkIdentifier (link : MafLink) : DiffLink :=
  newDiffLink link.fromIp link.fromPort link.toIp link.toPort

/-- `localhostIP`, 127.0.0.1 -/
def localhostIP : IpAddress := ⟨0xffff7f000001⟩

/-- The caches, and the project in core they are kept for. -/
structure Topology where
  core : CoreProject
  mafLinksCache : GoMap DiffLink MafLink
  baselineDeviceMap : GoMap ℤ ActDevice
  baselineLinkMap : GoMap DiffLink ActLink
  currentDeviceMap : GoMap ℤ ActDevice
  currentLinkMap : GoMap DiffLink ActLink

/-- `getActLinkEndpointsStr`: the end of the smaller address comes first. -/
def getActLinkEndpointsStr (link : LinkConf) (deviceMap : GoMap ℤ ActDevice) :
    Option (Endpoint × Endpoint) :=
  match deviceMap link.sourceDeviceId, deviceMap link.destinationDeviceId with
  | some srcDev, some dstDev =>
    if link.sourceInterfaceId ≤ 0 then none
    else if link.destinationInterfaceId ≤ 0 then none
    else if srcDev.ipAddress.isGreater dstDev.ipAddress then
      some (⟨dstDev.ipAddress, link.destinationInterfaceId⟩,
        ⟨srcDev.ipAddress, link.sourceInterfaceId⟩)
    else
      some (⟨srcDev.ipAddress, link.sourceInterfaceId⟩,
        ⟨dstDev.ipAddress, link.destinationInterfaceId⟩)
  | _, _ => none

/-- `getActLinkStr`; and `getActCurrentLinkStr`, `getActLinkStrInBaseline`, which do the same with
the devices of a cache. -/
def getActLinkStr (link : LinkConf) (deviceMap : GoMap ℤ ActDevice) : Option DiffLink :=
  (getActLinkEndpointsStr link deviceMap).map fun endpoints =>
    ⟨endpoints.1.ip, endpoints.1.port, endpoints.2.ip, endpoints.2.port⟩

/-! ### `updateTopologyLink` -/

/-- What the phases of the pass change: core, `m.currentLinkMap`, the copy of it, and
`currentLinkEndpointMap`. -/
structure LinkPass where
  core : CoreProject
  cache : GoMap DiffLink ActLink
  currentLinkMap : GoMap DiffLink ActLink
  currentLinkEndpointMap : GoMap Endpoint ActLink

/-- What the phases read. -/
structure PassEnv where
  rules : CoreRules
  mafLinks : GoMap DiffLink MafLink
  baselineDeviceMap : GoMap ℤ ActDevice
  currentDeviceMap : GoMap ℤ ActDevice
  currentDeviceIpMap : GoMap IpAddress ActDevice
  baselineDiffLinkMap : GoMap DiffLink DiffLink
  diffResult : LinkDiffResult

/-- The links by their endpoints. -/
def endpointMapOf (deviceMap : GoMap ℤ ActDevice) (order : List (DiffLink × ActLink)) :
    GoMap Endpoint ActLink :=
  order.foldl (fun endpoints x =>
    match getActLinkEndpointsStr x.2.toLinkConf deviceMap with
    | none => endpoints
    | some ends => (endpoints.set ends.1 x.2).set ends.2 x.2) .empty

namespace LinkPass

/-- A link is deleted in core and leaves the three maps.  Without its text, or where core
refuses, nothing is done. -/
def removeLink (env : PassEnv) (link : ActLink) (s : LinkPass) : Option LinkPass := do
  let linkStr ← getActLinkStr link.toLinkConf env.currentDeviceMap
  let endpoints ← getActLinkEndpointsStr link.toLinkConf env.currentDeviceMap
  let core ← s.core.deleteLink env.rules link.id
  return {
    core
    cache := s.cache.delete linkStr
    currentLinkMap := s.currentLinkMap.delete linkStr
    currentLinkEndpointMap :=
      (s.currentLinkEndpointMap.delete endpoints.1).delete endpoints.2 }

/-- A link that core has created enters the three maps. -/
def putLink (linkStr : DiffLink) (fromEndpoint toEndpoint : Endpoint)
    (created : ActLink × CoreProject) (s : LinkPass) : LinkPass where
  core := created.2
  cache := s.cache.set linkStr created.1
  currentLinkMap := s.currentLinkMap.set linkStr created.1
  currentLinkEndpointMap :=
    (s.currentLinkEndpointMap.set fromEndpoint created.1).set toEndpoint created.1

/-- `createLink`, and what is done with the link it creates. -/
def createLink (env : PassEnv) (link : DiffLink) (s : LinkPass) : LinkPass :=
  match env.currentDeviceIpMap link.ip1, env.currentDeviceIpMap link.ip2, env.mafLinks link with
  | some srcActDevice, some dstActDevice, some mafLink =>
    match s.core.createLink env.rules {
      sourceDeviceId := srcActDevice.id
      sourceInterfaceId := link.port1
      destinationDeviceId := dstActDevice.id
      destinationInterfaceId := link.port2
      speed := mafLink.speed / 1000000 } with
    | none => s
    | some created => s.putLink link link.fromEndpoint link.toEndpoint created
  | _, _, _ => s

/-- The link that occupies a port is removed before the body goes on; where that fails, the loop
goes on with the next link. -/
def vacate (env : PassEnv) (occupant : Option ActLink) (s : LinkPass)
    (body : LinkPass → LinkPass) : LinkPass :=
  match occupant with
  | none => body s
  | some link =>
    match s.removeLink env link with
    | none => s
    | some s => body s

/-- `l1.Id == l2.Id`, where both are there. -/
def sameLink (l1 l2 : Option ActLink) : Bool :=
  match l1, l2 with
  | some l1, some l2 => l1.id == l2.id
  | _, _ => false

/-- One link of the cache: it is deleted if it is not in the baseline, not unchanged and not
new.  An entry that has been deleted is not walked any more. -/
def removeStale (env : PassEnv) (s : LinkPass) (x : DiffLink × ActLink) : LinkPass :=
  match s.currentLinkMap x.1 with
  | none => s
  | some currentLink =>
    match getActLinkStr currentLink.toLinkConf env.currentDeviceMap with
    | none => s
    | some currentLinkStr =>
      if (env.baselineDiffLinkMap currentLinkStr).isSome ||
          (env.diffResult.unchangedLinks currentLinkStr).isSome ||
          (env.diffResult.newLinks currentLinkStr).isSome then s
      else (s.removeLink env currentLink).getD s

/-- One unchanged link: created if the project does not have it. -/
def restoreUnchanged (env : PassEnv) (s : LinkPass) (x : DiffLink × DiffLink) : LinkPass :=
  if (s.currentLinkMap x.2).isSome then s
  else
    let l1 := s.currentLinkEndpointMap x.2.fromEndpoint
    let l2 := s.currentLinkEndpointMap x.2.toEndpoint
    if sameLink l1 l2 then s
    else
      s.vacate env l1 fun s => s.vacate env l2 fun s =>
        if (env.mafLinks x.2).isSome then s.createLink env x.2 else s

/-- One new link that is not rewired: created if the project does not have it. -/
def addNew (env : PassEnv) (s : LinkPass) (x : DiffLink × DiffLink) : LinkPass :=
  if (env.diffResult.rewiredLinks x.1).isSome then s
  else if (s.currentLinkMap x.1).isSome then s
  else
    s.vacate env (s.currentLinkEndpointMap x.2.fromEndpoint) fun s =>
      s.vacate env (s.currentLinkEndpointMap x.2.toEndpoint) fun s => s.createLink env x.2

/-- One rewired link: created if the project does not have it. -/
def addRewired (env : PassEnv) (s : LinkPass) (x : DiffLink × DiffLink) : LinkPass :=
  if (s.currentLinkMap x.1).isSome then s
  else
    let fromLink := s.currentLinkEndpointMap x.2.fromEndpoint
    let toLink := s.currentLinkEndpointMap x.2.toEndpoint
    if sameLink fromLink toLink then s
    else s.vacate env fromLink fun s => s.vacate env toLink fun s => s.createLink env x.2

/-- The id of the first device with the address, in an order of the devices. -/
def findDeviceId (order : List (ℤ × ActDevice)) (ip : IpAddress) : Option ℤ :=
  (order.find? fun x => x.2.ipAddress = ip).map (·.1)

/-- One link of the baseline: created if the project does not have it and its ports are free. -/
def readdBaseline (env : PassEnv) (srcOrder dstOrder : DiffLink → List (ℤ × ActDevice))
    (s : LinkPass) (x : DiffLink × ActLink) : LinkPass :=
  if (s.currentLinkMap x.1).isSome then s
  else
    match getActLinkEndpointsStr x.2.toLinkConf env.baselineDeviceMap with
    | none => s
    | some endpoints =>
      if (s.currentLinkEndpointMap endpoints.1).isSome ||
          (s.currentLinkEndpointMap endpoints.2).isSome then s
      else
        match env.baselineDeviceMap x.2.sourceDeviceId,
          env.baselineDeviceMap x.2.destinationDeviceId with
        | some srcActDevice, some dstActDevice =>
          match findDeviceId (srcOrder x.1) srcActDevice.ipAddress,
            findDeviceId (dstOrder x.1) dstActDevice.ipAddress with
          | some currentSrcDeviceId, some currentDstDeviceId =>
            match s.core.createLink env.rules {
              sourceDeviceId := currentSrcDeviceId
              sourceInterfaceId := x.2.sourceInterfaceId
              destinationDeviceId := currentDstDeviceId
              destinationInterfaceId := x.2.destinationInterfaceId
              speed := x.2.speed } with
            | none => s
            | some created => s.putLink x.1 endpoints.1 endpoints.2 created
          | _, _ => s
        | _, _ => s

end LinkPass

/-- The link is reported up, with a speed, between two ends that are not the host itself. -/
def MafLink.isUp (link : MafLink) : Bool :=
  if link.fromIp = localhostIP || link.toIp = localhostIP then false
  else if link.speed ≤ 0 then false
  else link.up

/-- The orders in which the maps of `updateTopologyLink` are walked. -/
structure LinkOrders where
  baselineLinks : List (DiffLink × ActLink)
  mafLinks : List (DiffLink × MafLink)
  currentDevices : List (ℤ × ActDevice)
  diff : DiffOrders
  endpoints : List (DiffLink × ActLink)
  stale : List (DiffLink × ActLink)
  unchanged : List (DiffLink × DiffLink)
  new : List (DiffLink × DiffLink)
  rewired : List (DiffLink × DiffLink)
  readd : List (DiffLink × ActLink)
  srcDevices : DiffLink → List (ℤ × ActDevice)
  dstDevices : DiffLink → List (ℤ × ActDevice)

/-- `baselineDiffLinkMap`, and `inputBaselineDiffLinkMap`, which is filled with the same. -/
def baselineDiffLinkMap (m : Topology) (order : List (DiffLink × ActLink)) :
    GoMap DiffLink DiffLink :=
  order.foldl (fun links x =>
    match m.baselineDeviceMap x.2.sourceDeviceId,
      m.baselineDeviceMap x.2.destinationDeviceId with
    | some srcActDevice, some dstActDevice =>
      let diffLink := newDiffLink srcActDevice.ipAddress x.2.sourceInterfaceId
        dstActDevice.ipAddress x.2.destinationInterfaceId
      links.set diffLink diffLink
    | _, _ => links) .empty

/-- `inputActualDiffLinkMap` -/
def inputActualDiffLinkMap (order : List (DiffLink × MafLink)) : GoMap DiffLink DiffLink :=
  order.foldl (fun links x =>
    if x.2.isUp then
      let diffLink := newDiffLink x.2.fromIp x.2.fromPort x.2.toIp x.2.toPort
      links.set diffLink diffLink
    else links) .empty

/-- What the phases of `updateTopologyLink` read. -/
def passEnv (rules : CoreRules) (m : Topology) (orders : LinkOrders) : PassEnv where
  rules := rules
  mafLinks := m.mafLinksCache
  baselineDeviceMap := m.baselineDeviceMap
  currentDeviceMap := m.currentDeviceMap
  currentDeviceIpMap :=
    GoMap.empty.setAll (orders.currentDevices.map fun x => (x.2.ipAddress, x.2))
  baselineDiffLinkMap := baselineDiffLinkMap m orders.baselineLinks
  diffResult := computeLinkDiff (baselineDiffLinkMap m orders.baselineLinks)
    (inputActualDiffLinkMap orders.mafLinks) orders.diff

/-- The five phases. -/
def LinkPass.phases (env : PassEnv) (orders : LinkOrders) (s : LinkPass) : LinkPass :=
  let s := orders.stale.foldl (removeStale env) s
  let s := orders.unchanged.foldl (restoreUnchanged env) s
  let s := orders.new.foldl (addNew env) s
  let s := orders.rewired.foldl (addRewired env) s
  orders.readd.foldl (readdBaseline env orders.srcDevices orders.dstDevices) s

/-- The state in which the phases begin. -/
def LinkPass.init (m : Topology) (orders : LinkOrders) : LinkPass where
  core := m.core
  cache := m.currentLinkMap
  currentLinkMap := m.currentLinkMap
  currentLinkEndpointMap := endpointMapOf m.currentDeviceMap orders.endpoints

/-- `updateTopologyLink`, of a monitor that is running. -/
def updateTopologyLink (rules : CoreRules) (m : Topology) (orders : LinkOrders) : Topology :=
  let s := (LinkPass.init m orders).phases (passEnv rules m orders) orders
  { m with core := s.core, currentLinkMap := s.cache }

/-- The orders are orders of the maps that are walked. -/
structure LinkOrders.Walks (rules : CoreRules) (m : Topology) (orders : LinkOrders) : Prop where
  baselineLinks : m.baselineLinkMap.Ranges orders.baselineLinks
  mafLinks : m.mafLinksCache.Ranges orders.mafLinks
  currentDevices : m.currentDeviceMap.Ranges orders.currentDevices
  diff : orders.diff.Walks (baselineDiffLinkMap m orders.baselineLinks)
    (inputActualDiffLinkMap orders.mafLinks)
  endpoints : m.currentLinkMap.Ranges orders.endpoints
  stale : m.currentLinkMap.Ranges orders.stale
  unchanged : (passEnv rules m orders).diffResult.unchangedLinks.Ranges orders.unchanged
  new : (passEnv rules m orders).diffResult.newLinks.Ranges orders.new
  rewired : (passEnv rules m orders).diffResult.rewiredLinks.Ranges orders.rewired
  readd : m.baselineLinkMap.Ranges orders.readd
  srcDevices : ∀ link, m.currentDeviceMap.Ranges (orders.srcDevices link)
  dstDevices : ∀ link, m.currentDeviceMap.Ranges (orders.dstDevices link)

end Monitor
end Sebastian

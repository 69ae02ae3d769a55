/-
# Links from MAC tables

`GenerateLinkSetByMacTable` (`southbound/src/act_southbound.cpp`) makes a link of every port with a
single MAC that is the MAC of another alive device.  Its cursor for ids is moved by the existing
links only, so that all new links get one id (`MacInv`), and links with one id are equal: of the
ports that should have a link, the first one gets it.  The interface at the other end is numbered by
the number of interfaces, whether a device has an interface of that number or not.  So the links are
right exactly for at most one port and such a device (`macLinksExact_iff`).

The addresses of interfaces are no part of the model.
-/

import Sebastian.Core.DeviceHistory
import Sebastian.Core.MonitorScan

namespace Sebastian
namespace Scan

open Sebastian.Core Std.TreeMap List Option

/-- What the function is given, with what it calls: `single_entry_mac_table_` of the device is
`portMacMap`. -/
structure MacTableInput where
  addresses : AddressFormat
  /-- `CheckMacAddress`: the message of the error, if there is one. -/
  checkMacAddress : String → Option String := fun _ => none
  device : Device
  portMacMap : QMap ℤ String
  aliveDevices : List Device
  existLinks : QSet Link
  ipMacTable : QMap String String

/-- The id of the last interface with the assigned name (`ACT_AUTOSCAN_ASSIGN_INTERFACE_NAME`), or
-1. -/
def assignedId (device : Device) : ℤ :=
  ((device.interfaces.filter (·.interfaceName = "Port")).getLast?.map (·.interfaceId)).getD (-1)

/-- An interface as it is updated or made. -/
def updateInterface (remDev : Device) (intf : Interface) : Interface :=
  { intf with deviceId := remDev.id, used := true, supportSpeeds := [1000] }

/-- `FindAndUpdateRemoteDeviceInterface`: the interface, and the updated devices. -/
def findAndUpdateRemoteDeviceInterface (remDev : Device) (updateDevices : QSet Device) :
    ℤ × QSet Device :=
  let found := updateDevices.find remDev
  let newRemDev := found.getD remDev
  let interfaces := newRemDev.interfaces.map fun intf =>
    if intf.interfaceName = "Port" then updateInterface remDev intf else intf
  let ifId : ℤ := newRemDev.interfaces.length + 1
  let result : ℤ × List Interface :=
    if assignedId newRemDev = -1 then
      (ifId, interfaces ++
        [updateInterface remDev { interfaceId := ifId, interfaceName := "Port" }])
    else (assignedId newRemDev, interfaces)
  let newRemDev := { newRemDev with interfaces := result.2 }
  let updateDevices := if found.isSome then updateDevices.remove newRemDev else updateDevices
  (result.1, updateDevices.insert newRemDev)

/-- "Get new link id" -/
def newLinkId (existLinks : QSet Link) : ℕ → ℤ → Option ℤ
  | 0, _ => none
  | fuel + 1, linkId =>
    if existLinks.contains { id := linkId } then newLinkId existLinks fuel (linkId + 1)
    else some linkId

/-- `link_id`, and the result. -/
structure MacTableState where
  linkId : ℤ := 1
  linkSet : QSet Link := []
  updateDevices : QSet Device := []

/-- The remote device behind a port with this MAC. -/
def MacTableInput.remoteDevice (input : MacTableInput) (mac : String) : Option Device :=
  if (input.checkMacAddress mac).isSome then none
  else
    -- `QMap::key`
    let remDevIp := ((input.ipMacTable.toList.find? (·.2 == mac)).map (·.1)).getD ""
    if remDevIp = "" ∨ remDevIp = input.device.ipAddress then none
    else QSet.find input.aliveDevices { id := (input.addresses.number remDevIp).toNat }

/-- One port in `GenerateLinkSetByMacTable`. -/
def MacTableInput.visitPort (input : MacTableInput) (fuel : ℕ) (s : MacTableState)
    (entry : ℤ × String) : Option MacTableState :=
  if entry.2.isEmpty then some s
  else
    (newLinkId input.existLinks fuel s.linkId).map fun linkId =>
      let link : Link :=
        { id := linkId, sourceDeviceId := input.device.id, sourceInterfaceId := entry.1 }
      if input.existLinks.contains link then { s with linkId := linkId }
      else
        match input.remoteDevice entry.2 with
        | none => { s with linkId := linkId }
        | some newRemDev =>
          let updated := findAndUpdateRemoteDeviceInterface newRemDev s.updateDevices
          { linkId := linkId
            linkSet := s.linkSet.insert
              { link with destinationDeviceId := newRemDev.id, destinationInterfaceId := updated.1 }
            updateDevices := updated.2 }

/-- `GenerateLinkSetByMacTable` -/
def generateLinkSetByMacTable (fuel : ℕ) (input : MacTableInput) : Option ScanLinksResult :=
  (input.portMacMap.toList.foldlM (input.visitPort fuel) {}).map fun s =>
    { updateDevices := s.updateDevices, scanLinks := s.linkSet }

/-! ### What the links should be -/

/-- The single MAC of the port is that of the address of an alive device, whose id is the number of
its address; it is not the address of the device itself, and there is no link at the port. -/
structure MacTableInput.SeesAt (input : MacTableInput) (port : ℤ) (remote : Device) : Prop where
  alive : remote ∈ input.aliveDevices
  mac : ∃ mac ip, input.portMacMap[port]? = some mac ∧ mac.isEmpty = false ∧
    input.checkMacAddress mac = none ∧ input.ipMacTable[ip]? = some mac ∧ ip ≠ "" ∧
    ip ≠ input.device.ipAddress ∧ remote.id = (input.addresses.number ip).toNat
  free : ∀ link ∈ input.existLinks, ¬link.hasEndpoint input.device.id port = true

/-- Every port that sees a device has one link to it, at an interface of the updated device that is
the only one of its id, and there are no others. -/
structure MacLinksExact (input : MacTableInput) (result : ScanLinksResult) : Prop where
  every : ∀ port remote, input.SeesAt port remote → (result.scanLinks.filter fun link =>
    link.sourceDeviceId = input.device.id ∧ link.sourceInterfaceId = port ∧
      link.destinationDeviceId = remote.id).length = 1
  only : ∀ link ∈ result.scanLinks, ∃ port remote, input.SeesAt port remote ∧
    link.sourceDeviceId = input.device.id ∧ link.sourceInterfaceId = port ∧
      link.destinationDeviceId = remote.id
  ids : (result.scanLinks.map (·.id)).Nodup ∧
    ∀ link ∈ result.scanLinks, ∀ exist ∈ input.existLinks, exist.id ≠ link.id
  destination : ∀ link ∈ result.scanLinks, ∃ remote ∈ result.updateDevices,
    remote.id = link.destinationDeviceId ∧
      (remote.interfaces.filter (·.interfaceId = link.destinationInterfaceId)).length = 1

/-- As the scan calls the function: the alive devices are different and have addresses, and the
table has a MAC once. -/
structure MacTableInput.WellFormed (input : MacTableInput) : Prop where
  devices : DevicesWellFormed input.aliveDevices
  injective : ∀ (ip ip' mac : String), input.ipMacTable[ip]? = some mac →
    input.ipMacTable[ip']? = some mac → ip = ip'

/-- The device has room for an interface: the id of its assigned interface, or else the number of
the next one, is not that of another. -/
def HasRoom (device : Device) : Prop :=
  if assignedId device = -1 then
    ∀ intf ∈ device.interfaces, intf.interfaceId ≠ device.interfaces.length + 1
  else (device.interfaces.filter (·.interfaceId = assignedId device)).length = 1

/-- What the function needs: the search for an id ends, at most one port sees a device, and that
device has room for an interface. -/
structure MacTableInput.Manageable (input : MacTableInput) : Prop where
  ends : (∃ entry ∈ input.portMacMap.toList, entry.2.isEmpty = false) →
    ∀ link ∈ input.existLinks, ¬link.hasEndpoint (-1) (-1) = true
  one : ∀ port remote port' remote', input.SeesAt port remote → input.SeesAt port' remote' →
    port = port'
  room : ∀ port remote, input.SeesAt port remote → HasRoom remote

section
variable {input : MacTableInput} {links : QSet Link} {fuel : ℕ} {linkId port : ℤ} {mac : String}
  {remote : Device} {entries : List (ℤ × String)} {result : ScanLinksResult}

/-! ### The ids -/

/-- No link has an end that is not set. -/
def EndsSet (links : QSet Link) : Prop := ∀ link ∈ links, ¬link.hasEndpoint (-1) (-1) = true

theorem contains_id_iff (h : EndsSet links) :
    links.contains { id := linkId } = true ↔ ∃ link ∈ links, link.id = linkId := by
  rw [QSet.contains, List.any_eq_true]
  refine exists_congr fun link => and_congr_right fun hlink => ?_
  rw [link_beq_iff]
  refine or_iff_left ?_
  rintro ⟨d, i, hend, hunset⟩
  simp only [Link.hasEndpoint, Bool.or_self, Bool.and_eq_true, beq_iff_eq] at hunset
  rw [← hunset.1, ← hunset.2] at hend
  exact h link hlink hend

theorem contains_newLinkId (h : newLinkId links fuel linkId = some port) :
    links.contains { id := port } = false := by
  induction fuel generalizing linkId with
  | zero => cases h
  | succ fuel ih =>
    rw [newLinkId] at h
    split_ifs at h with hin
    · exact ih h
    · rw [← some.inj h]
      exact eq_false_of_ne_true hin

/-- The search ends: every id it passes is that of another link. -/
theorem exists_newLinkId (h : EndsSet links)
    (hfuel : (filter (fun link => linkId ≤ link.id) links).length < fuel) :
    ∃ id, newLinkId links fuel linkId = some id := by
  induction fuel generalizing linkId with
  | zero => cases hfuel
  | succ fuel ih =>
    rw [newLinkId]
    split_ifs with hin
    · obtain ⟨link, hlink, hid⟩ := (contains_id_iff h).1 hin
      refine ih (Nat.lt_of_lt_of_le ?_ (Nat.le_of_lt_succ hfuel))
      have hfilter : filter (fun link => linkId + 1 ≤ link.id) links =
          (filter (fun link => linkId ≤ link.id) links).filter
            fun link => linkId + 1 ≤ link.id := by
        rw [List.filter_filter]
        refine filter_congr fun x _ => ?_
        rw [← Bool.decide_and, decide_eq_decide]
        omega
      rw [hfilter, length_filter_lt_length_iff_exists]
      exact ⟨link, mem_filter.2 ⟨hlink, by simp [hid]⟩, by simp [hid]⟩
    · exact ⟨linkId, rfl⟩

/-- It does not end when a link has an end that is not set. -/
theorem newLinkId_eq_none {link : Link} (hlink : link ∈ links)
    (hend : link.hasEndpoint (-1) (-1) = true) (fuel : ℕ) (linkId : ℤ) :
    newLinkId links fuel linkId = none := by
  induction fuel generalizing linkId with
  | zero => rfl
  | succ fuel ih =>
    rw [newLinkId, if_pos, ih]
    exact List.any_eq_true.2 ⟨link, hlink, link_beq_iff.2 (.inr ⟨-1, -1, hend, rfl⟩)⟩

/-! ### The device behind a port -/

theorem MacTableInput.WellFormed.remoteDevice_iff (h : input.WellFormed) :
    input.remoteDevice mac = some remote ↔ input.checkMacAddress mac = none ∧
      remote ∈ input.aliveDevices ∧ ∃ ip : String, input.ipMacTable[ip]? = some mac ∧ ip ≠ "" ∧
        ip ≠ input.device.ipAddress ∧ remote.id = (input.addresses.number ip).toNat := by
  have hfind : ∀ n : ℤ, QSet.find input.aliveDevices { id := n } = some remote ↔
      remote ∈ input.aliveDevices ∧ remote.id = n := fun n =>
    ⟨h.devices.id_of_find, fun ⟨hmem, hid⟩ =>
      show ({ devices := input.aliveDevices } : Project).getDeviceById n = some remote from
        h.devices.getDeviceById hmem hid⟩
  have hentry : ∀ entry, input.ipMacTable.toList.find? (·.2 == mac) = some entry →
      input.ipMacTable[entry.1]? = some mac := by
    rintro ⟨ip, mac'⟩ hfound
    obtain rfl : mac' = mac := by simpa using find?_some hfound
    exact mem_toList_iff_getElem?_eq_some.1 (mem_of_find?_eq_some hfound)
  have hkey : ∀ ip : String, input.ipMacTable[ip]? = some mac →
      ((input.ipMacTable.toList.find? (·.2 == mac)).map (·.1)).getD "" = ip := by
    intro ip hip
    have hin := mem_toList_iff_getElem?_eq_some.2 hip
    cases hfound : input.ipMacTable.toList.find? (·.2 == mac) with
    | none => exact absurd (beq_self_eq_true mac) (find?_eq_none.1 hfound _ hin)
    | some entry => exact h.injective _ _ _ (hentry entry hfound) hip
  unfold remoteDevice
  dsimp only
  split_ifs with hcheck hskip
  · rw [isSome_iff_ne_none] at hcheck
    exact iff_of_false nofun fun hall => hcheck hall.1
  · refine iff_of_false nofun ?_
    rintro ⟨-, -, ip, hip, hne, hother, -⟩
    rw [hkey ip hip] at hskip
    exact hskip.elim hne hother
  · rw [hfind]
    refine ⟨fun ⟨hmem, hid⟩ => ⟨not_isSome_iff_eq_none.1 hcheck, hmem, ?_⟩, ?_⟩
    · obtain ⟨hne, hother⟩ := not_or.1 hskip
      refine ⟨_, ?_, hne, hother, hid⟩
      cases hfound : input.ipMacTable.toList.find? (·.2 == mac) with
      | none => exact absurd (by rw [hfound]; rfl) hne
      | some entry => exact hentry entry hfound
    · rintro ⟨-, hmem, ip, hip, -, -, hid⟩
      rw [hkey ip hip]
      exact ⟨hmem, hid⟩

/-- The device that a port should have a link to. -/
def MacTableInput.hit (input : MacTableInput) (entry : ℤ × String) : Option (ℤ × Device) :=
  if entry.2.isEmpty ∨ ∃ link ∈ input.existLinks,
      link.hasEndpoint input.device.id entry.1 = true then none
  else (input.remoteDevice entry.2).map (entry.1, ·)

theorem MacTableInput.WellFormed.mem_hits_iff (h : input.WellFormed) :
    (port, remote) ∈ input.portMacMap.toList.filterMap input.hit ↔ input.SeesAt port remote := by
  rw [mem_filterMap]
  constructor
  · rintro ⟨⟨p, mac⟩, hentry, hhit⟩
    unfold hit at hhit
    split_ifs at hhit with hno
    obtain ⟨remote, hrem, heq⟩ := map_eq_some_iff.1 hhit
    obtain ⟨rfl, rfl⟩ := Prod.mk.inj heq
    obtain ⟨hcheck, halive, ip, hip⟩ := h.remoteDevice_iff.1 hrem
    obtain ⟨hmac, hfree⟩ := not_or.1 hno
    exact ⟨halive, ⟨mac, ip, mem_toList_iff_getElem?_eq_some.1 hentry,
      eq_false_of_ne_true hmac, hcheck, hip⟩, fun link hlink hend => hfree ⟨link, hlink, hend⟩⟩
  · rintro ⟨halive, ⟨mac, ip, hmac, hne, hcheck, hip⟩, hfree⟩
    refine ⟨(port, mac), mem_toList_iff_getElem?_eq_some.2 hmac, ?_⟩
    rw [hit, if_neg, h.remoteDevice_iff.2 ⟨hcheck, halive, ip, hip⟩]
    · rfl
    · rintro (hempty | ⟨link, hlink, hend⟩)
      · rw [hne] at hempty
        cases hempty
      · exact hfree link hlink hend

theorem pairwise_hits (input : MacTableInput) :
    (input.portMacMap.toList.filterMap input.hit).Pairwise fun x y => x.1 ≠ y.1 := by
  refine List.Pairwise.filterMap _ (fun x y hne => ?_) distinct_keys_toList
  intro b hb c hc heq
  refine hne ?_
  unfold MacTableInput.hit at hb hc
  split_ifs at hb hc
  obtain ⟨_, -, rfl⟩ := map_eq_some_iff.1 hb
  obtain ⟨_, -, rfl⟩ := map_eq_some_iff.1 hc
  rw [show x.1 = y.1 from heq]
  exact Std.ReflCmp.compare_self

/-! ### The interface at the other end -/

/-- The updated device has one interface of the id exactly when there was room. -/
theorem findAndUpdate_iff (remote : Device) : ∃ updated : Device,
    (findAndUpdateRemoteDeviceInterface remote []).2 = [updated] ∧ updated.id = remote.id ∧
      ((updated.interfaces.filter
        (·.interfaceId = (findAndUpdateRemoteDeviceInterface remote []).1)).length = 1 ↔
          HasRoom remote) := by
  have hmap : ∀ id : ℤ, ((remote.interfaces.map fun intf =>
      if intf.interfaceName = "Port" then updateInterface remote intf else intf).filter
        (·.interfaceId = id)).length = (remote.interfaces.filter (·.interfaceId = id)).length := by
    intro id
    rw [List.filter_map, length_map]
    congr 2
    funext intf
    dsimp only [Function.comp_apply]
    split_ifs <;> rfl
  have hfirst : (findAndUpdateRemoteDeviceInterface remote []).1 =
      if assignedId remote = -1 then (remote.interfaces.length : ℤ) + 1 else assignedId remote := by
    change (ite (assignedId remote = -1) (_ : ℤ × List Interface) _).1 = _
    rw [apply_ite Prod.fst]
    rfl
  refine ⟨_, rfl, rfl, ?_⟩
  rw [hfirst, HasRoom]
  change (filter _ (ite (assignedId remote = -1) (_ : ℤ × List Interface) _).2).length = 1 ↔ _
  by_cases hassigned : assignedId remote = -1
  · simp only [if_pos hassigned]
    rw [filter_append, length_append]
    erw [hmap]
    simp [updateInterface, QSet.find, filter_eq_nil_iff]
  · simp only [if_neg hassigned]
    erw [hmap]

/-! ### The run -/

/-- The link of a port that sees a device, with the first free id. -/
def MacTableInput.newLink (input : MacTableInput) (linkId : ℤ) (hit : ℤ × Device) : Link where
  id := linkId
  sourceDeviceId := input.device.id
  sourceInterfaceId := hit.1
  destinationDeviceId := hit.2.id
  destinationInterfaceId := (findAndUpdateRemoteDeviceInterface hit.2 []).1

/-- **What the loop over the ports knows**: it has the link of the first port that sees a device. -/
structure MacInv (input : MacTableInput) (linkId : ℤ) (hits : List (ℤ × Device))
    (s : MacTableState) : Prop where
  cursor : s.linkId = 1 ∨ s.linkId = linkId
  nothing : hits = [] → s.linkSet = [] ∧ s.updateDevices = []
  first : ∀ hit rest, hits = hit :: rest → s.linkSet = [input.newLink linkId hit] ∧
    (rest = [] → s.updateDevices = (findAndUpdateRemoteDeviceInterface hit.2 []).2)

theorem MacInv.step {hits : List (ℤ × Device)} {s : MacTableState}
    (h : MacInv input linkId hits s) (hends : EndsSet input.existLinks)
    (hfirst : newLinkId input.existLinks fuel 1 = some linkId) (entry : ℤ × String) :
    ∃ t, input.visitPort fuel s entry = some t ∧
      MacInv input linkId (hits ++ (input.hit entry).toList) t := by
  have hfree := contains_newLinkId hfirst
  have hcursor : newLinkId input.existLinks fuel s.linkId = some linkId := by
    rcases h.cursor with hcursor | hcursor
    · rw [hcursor, hfirst]
    · cases fuel with
      | zero => cases hfirst
      | succ fuel => rw [hcursor, newLinkId, hfree, if_neg Bool.false_ne_true]
  have hcontains : input.existLinks.contains { id := linkId, sourceDeviceId := input.device.id
                                               sourceInterfaceId := entry.1 } = true ↔
      ∃ link ∈ input.existLinks, link.hasEndpoint input.device.id entry.1 = true := by
    rw [QSet.contains, List.any_eq_true]
    refine exists_congr fun link => and_congr_right fun hlink => ?_
    rw [link_beq_iff, or_iff_right]
    · constructor
      · rintro ⟨d, i, hend, hnew⟩
        simp only [Link.hasEndpoint, Bool.or_eq_true, Bool.and_eq_true, beq_iff_eq] at hnew
        rcases hnew with ⟨rfl, rfl⟩ | ⟨rfl, rfl⟩
        · exact hend
        · exact absurd hend (hends link hlink)
      · exact fun hend => ⟨_, _, hend, by simp [Link.hasEndpoint]⟩
    · intro hid
      rw [(contains_id_iff hends).2 ⟨link, hlink, hid⟩] at hfree
      cases hfree
  unfold MacTableInput.visitPort MacTableInput.hit
  rw [hcursor]
  by_cases hempty : entry.2.isEmpty = true
  · rw [if_pos hempty, if_pos (.inl hempty), toList_none, append_nil]
    exact ⟨s, rfl, h⟩
  · rw [if_neg hempty]
    dsimp only [map_some]
    by_cases hin : ∃ link ∈ input.existLinks, link.hasEndpoint input.device.id entry.1 = true
    · rw [if_pos (hcontains.2 hin), if_pos (.inr hin), toList_none, append_nil]
      exact ⟨_, rfl, .inr rfl, h.nothing, h.first⟩
    · rw [if_neg fun hc => hin (hcontains.1 hc), if_neg (not_or.2 ⟨hempty, hin⟩)]
      cases hrem : input.remoteDevice entry.2 with
      | none =>
        rw [map_none, toList_none, append_nil]
        exact ⟨_, rfl, .inr rfl, h.nothing, h.first⟩
      | some remote =>
        refine ⟨_, rfl, .inr rfl, fun hnil => by simp at hnil, fun hit rest heq => ?_⟩
        cases hits with
        | nil =>
          obtain ⟨hlinks, hdevs⟩ := h.nothing rfl
          obtain ⟨rfl, rfl⟩ := cons.inj heq
          rw [hlinks, hdevs]
          exact ⟨rfl, fun _ => rfl⟩
        | cons old olds =>
          -- the first link has the id already
          obtain ⟨hlinks, -⟩ := h.first old olds rfl
          obtain ⟨rfl, rfl⟩ := cons.inj heq
          rw [hlinks]
          refine ⟨?_, fun hnil => by simp at hnil⟩
          exact if_pos (by simp [QSet.contains, link_beq_iff, MacTableInput.newLink])

/-- **A run** that finds an id. -/
theorem exists_macInv (hends : EndsSet input.existLinks)
    (hfirst : newLinkId input.existLinks fuel 1 = some linkId) (entries : List (ℤ × String)) :
    ∃ s, entries.foldlM (input.visitPort fuel) {} = some s ∧
      MacInv input linkId (entries.filterMap input.hit) s := by
  induction entries using reverseRecOn with
  | nil => exact ⟨_, rfl, .inl rfl, fun _ => ⟨rfl, rfl⟩, fun hit rest heq => by simp at heq⟩
  | append_singleton passed entry ih =>
    obtain ⟨s, hrun, hs⟩ := ih
    obtain ⟨t, hstep, ht⟩ := hs.step hends hfirst entry
    refine ⟨t, ?_, ?_⟩
    · rw [foldlM_append, hrun]
      exact (congrArg (bind · pure) hstep).trans rfl
    · rw [filterMap_append]
      convert ht using 2
      cases hhit : input.hit entry <;> simp [hhit]

theorem foldlM_visitPort_eq_none {s : MacTableState}
    (hnone : newLinkId input.existLinks fuel s.linkId = none)
    (hmac : ∃ entry ∈ entries, entry.2.isEmpty = false) :
    entries.foldlM (input.visitPort fuel) s = none := by
  induction entries with
  | nil => obtain ⟨_, hmem, -⟩ := hmac; cases hmem
  | cons entry entries ih =>
    rw [foldlM_cons, MacTableInput.visitPort]
    split_ifs with hempty
    · obtain ⟨other, hother, hne⟩ := hmac
      rcases mem_cons.1 hother with rfl | hother
      · rw [hempty] at hne
        cases hne
      · exact ih ⟨other, hother, hne⟩
    · rw [hnone]
      rfl

theorem foldlM_visitPort_eq_self {s : MacTableState}
    (hmac : ∀ entry ∈ entries, entry.2.isEmpty = true) :
    entries.foldlM (input.visitPort fuel) s = some s := by
  induction entries with
  | nil => rfl
  | cons entry entries ih =>
    rw [foldlM_cons, MacTableInput.visitPort, if_pos (hmac entry mem_cons_self)]
    exact ih fun other hother => hmac other (mem_cons_of_mem _ hother)

/-! ### The links -/

theorem MacLinksExact.empty (h : ∀ port remote, ¬input.SeesAt port remote) :
    MacLinksExact input { updateDevices := [], scanLinks := [] } where
  every port remote hsees := absurd hsees (h port remote)
  only _ hlink := absurd hlink not_mem_nil
  ids := ⟨nodup_nil, fun _ hlink => absurd hlink not_mem_nil⟩
  destination _ hlink := absurd hlink not_mem_nil

/-- The link of the only port that sees a device. -/
theorem macLinksExact_single_iff {hit : ℤ × Device} (hfree : ∀ exist ∈ input.existLinks,
    exist.id ≠ linkId) (hsees : ∀ port remote, input.SeesAt port remote ↔ (port, remote) = hit) :
    MacLinksExact input { updateDevices := (findAndUpdateRemoteDeviceInterface hit.2 []).2
                          scanLinks := [input.newLink linkId hit] } ↔ HasRoom hit.2 := by
  obtain ⟨updated, hupdated, hid, hroom⟩ := findAndUpdate_iff hit.2
  rw [hupdated]
  constructor
  · intro hexact
    obtain ⟨remote, hrem, -, hone⟩ := hexact.destination _ mem_cons_self
    rw [mem_singleton.1 hrem] at hone
    exact hroom.1 hone
  · intro hroomy
    refine ⟨fun port remote hat => ?_, fun link hlink => ?_, ⟨nodup_singleton _, ?_⟩, ?_⟩
    · rw [← (hsees port remote).1 hat]
      simp [MacTableInput.newLink]
    · rw [mem_singleton.1 hlink]
      exact ⟨hit.1, hit.2, (hsees _ _).2 rfl, rfl, rfl, rfl⟩
    · intro link hlink exist hexist
      rw [mem_singleton.1 hlink]
      exact hfree exist hexist
    · intro link hlink
      rw [mem_singleton.1 hlink]
      exact ⟨updated, mem_cons_self, hid, hroom.2 hroomy⟩

/-- What a run makes is right exactly for at most one port and a device with room. -/
theorem MacInv.exact_iff {s : MacTableState} (h : input.WellFormed)
    (hends : EndsSet input.existLinks) (hfirst : newLinkId input.existLinks fuel 1 = some linkId)
    (hs : MacInv input linkId (input.portMacMap.toList.filterMap input.hit) s) :
    MacLinksExact input { updateDevices := s.updateDevices, scanLinks := s.linkSet } ↔
      (∀ port remote port' remote', input.SeesAt port remote → input.SeesAt port' remote' →
        port = port') ∧ ∀ port remote, input.SeesAt port remote → HasRoom remote := by
  have hpairwise := pairwise_hits input
  have hsees : ∀ port remote, (port, remote) ∈ input.portMacMap.toList.filterMap input.hit ↔
      input.SeesAt port remote := fun _ _ => h.mem_hits_iff
  generalize input.portMacMap.toList.filterMap input.hit = hits at hs hpairwise hsees
  match hits with
  | [] =>
    have hnone : ∀ port remote, ¬input.SeesAt port remote := fun port remote hat =>
      absurd ((hsees port remote).2 hat) not_mem_nil
    obtain ⟨hlinks, hdevs⟩ := hs.nothing rfl
    rw [hlinks, hdevs]
    exact iff_of_true (.empty hnone) ⟨fun _ _ _ _ hat => absurd hat (hnone _ _),
      fun _ _ hat => absurd hat (hnone _ _)⟩
  | [hit] =>
    obtain ⟨hlinks, hdevs⟩ := hs.first hit [] rfl
    have hsees : ∀ port remote, input.SeesAt port remote ↔ (port, remote) = hit :=
      fun port remote => (hsees port remote).symm.trans mem_singleton
    rw [hlinks, hdevs rfl, macLinksExact_single_iff (fun exist hexist hid => ?_) hsees]
    · constructor
      · intro hroom
        refine ⟨fun port remote port' remote' hat hat' => ?_, fun port remote hat => ?_⟩
        · exact congrArg Prod.fst (((hsees _ _).1 hat).trans ((hsees _ _).1 hat').symm)
        · rw [← (hsees _ _).1 hat] at hroom
          exact hroom
      · exact fun ⟨_, hroom⟩ => hroom hit.1 hit.2 ((hsees _ _).2 rfl)
    · have hin := (contains_id_iff hends).2 ⟨exist, hexist, hid⟩
      rw [contains_newLinkId hfirst] at hin
      cases hin
  | hit :: other :: rest =>
    have hne : hit.1 ≠ other.1 := (pairwise_cons.1 hpairwise).1 other mem_cons_self
    have hat := (hsees hit.1 hit.2).1 mem_cons_self
    have hother := (hsees other.1 other.2).1 (mem_cons_of_mem _ mem_cons_self)
    refine iff_of_false (fun hexact => ?_) fun hall => hne (hall.1 _ _ _ _ hat hother)
    have hone := hexact.every _ _ hother
    rw [(hs.first hit _ rfl).1] at hone
    simp [MacTableInput.newLink, hne] at hone

theorem macLinksExact_iff_of_endsSet (h : input.WellFormed)
    (hmac : ∃ entry ∈ input.portMacMap.toList, entry.2.isEmpty = false)
    (hends : EndsSet input.existLinks) :
    (∃ fuel result, generateLinkSetByMacTable fuel input = some result ∧
      MacLinksExact input result) ↔
        (∀ port remote port' remote', input.SeesAt port remote → input.SeesAt port' remote' →
          port = port') ∧ ∀ port remote, input.SeesAt port remote → HasRoom remote := by
  constructor
  · rintro ⟨fuel, result, hrun, hexact⟩
    unfold generateLinkSetByMacTable at hrun
    cases hfirst : newLinkId input.existLinks fuel 1 with
    | none =>
      rw [foldlM_visitPort_eq_none hfirst hmac] at hrun
      cases hrun
    | some linkId =>
      obtain ⟨s, hs, hinv⟩ := exists_macInv hends hfirst input.portMacMap.toList
      rw [hs] at hrun
      cases hrun
      exact (hinv.exact_iff h hends hfirst).1 hexact
  · intro hgood
    obtain ⟨fuel, linkId, hfirst⟩ : ∃ fuel linkId, newLinkId input.existLinks fuel 1 = some linkId :=
      ⟨_, exists_newLinkId hends (Nat.lt_succ_self _)⟩
    obtain ⟨s, hs, hinv⟩ := exists_macInv hends hfirst input.portMacMap.toList
    refine ⟨fuel, _, ?_, (hinv.exact_iff h hends hfirst).2 hgood⟩
    rw [generateLinkSetByMacTable, hs, map_some]

/-- **The links are exactly those of the ports that see a device** precisely when at most one does,
that device has room for an interface, and the search for an id ends. -/
theorem macLinksExact_iff (h : input.WellFormed) :
    (∃ fuel result, generateLinkSetByMacTable fuel input = some result ∧
      MacLinksExact input result) ↔ input.Manageable := by
  by_cases hmac : ∃ entry ∈ input.portMacMap.toList, entry.2.isEmpty = false
  · by_cases hends : EndsSet input.existLinks
    · rw [macLinksExact_iff_of_endsSet h hmac hends]
      exact ⟨fun ⟨hone, hroom⟩ => ⟨fun _ => hends, hone, hroom⟩, fun hall => ⟨hall.one, hall.room⟩⟩
    · -- an end that is not set is that of every link that is looked for
      refine iff_of_false ?_ fun hall => hends (hall.ends hmac)
      rintro ⟨fuel, result, hrun, -⟩
      obtain ⟨link, hlink, hend⟩ := by simpa [EndsSet] using hends
      rw [generateLinkSetByMacTable, foldlM_visitPort_eq_none
        (newLinkId_eq_none hlink (by simpa using hend) fuel _) hmac] at hrun
      cases hrun
  · have hempty : ∀ entry ∈ input.portMacMap.toList, entry.2.isEmpty = true := fun entry hentry =>
      eq_true_of_ne_false fun hne => hmac ⟨entry, hentry, hne⟩
    have hnone : ∀ port remote, ¬input.SeesAt port remote := by
      rintro port remote ⟨-, ⟨mac, ip, hat, hne, -⟩, -⟩
      exact hmac ⟨_, mem_toList_iff_getElem?_eq_some.2 hat, hne⟩
    refine iff_of_true ⟨0, _, ?_, .empty hnone⟩ ⟨fun hin => absurd hin hmac,
      fun _ _ _ _ hat => absurd hat (hnone _ _), fun _ _ hat => absurd hat (hnone _ _)⟩
    rw [generateLinkSetByMacTable, foldlM_visitPort_eq_self hempty, map_some]

end

/-- A switch with these MACs at its ports, and two hosts. -/
def hostPorts (portMacMap : QMap ℤ String) : MacTableInput where
  addresses := twoAddresses
  device := { id := 0x0A000003, ipAddress := "10.0.0.3" }
  portMacMap := portMacMap
  aliveDevices := [{ id := 0x0A000001, ipAddress := "10.0.0.1" },
    { id := 0x0A000002, ipAddress := "10.0.0.2" }]
  existLinks := []
  ipMacTable := (∅ : QMap String String).insert "10.0.0.1" "00-90-E8-00-00-01" |>.insert
    "10.0.0.2" "00-90-E8-00-00-02"

theorem hostPorts_ipMacTable {portMacMap : QMap ℤ String} {ip mac : String}
    (h : (hostPorts portMacMap).ipMacTable[ip]? = some mac) :
    ip = "10.0.0.1" ∧ mac = "00-90-E8-00-00-01" ∨ ip = "10.0.0.2" ∧ mac = "00-90-E8-00-00-02" := by
  simp only [hostPorts, Std.TreeMap.getElem?_insert] at h
  grind

theorem hostPorts_wellFormed (portMacMap : QMap ℤ String) : (hostPorts portMacMap).WellFormed where
  devices := by
    constructor
    · change List.Pairwise _ [_, _]
      decide
    · change ∀ device ∈ [_, _], _
      decide
  injective ip ip' mac h h' := by
    rcases hostPorts_ipMacTable h with ⟨rfl, rfl⟩ | ⟨rfl, rfl⟩ <;>
      rcases hostPorts_ipMacTable h' with ⟨rfl, hmac⟩ | ⟨rfl, hmac⟩ <;> first | rfl | simp at hmac

theorem macLinksExact_iff_onePort :
    (∃ fuel result, generateLinkSetByMacTable fuel
      (hostPorts ((∅ : QMap ℤ String).insert 1 "00-90-E8-00-00-01")) = some result ∧
        MacLinksExact (hostPorts ((∅ : QMap ℤ String).insert 1 "00-90-E8-00-00-01")) result) := by
  refine (macLinksExact_iff (hostPorts_wellFormed _)).2 ⟨fun _ => forall_mem_nil _, ?_, ?_⟩
  · rintro port remote port' remote' ⟨-, ⟨mac, -, h, -⟩, -⟩ ⟨-, ⟨mac', -, h', -⟩, -⟩
    simp only [hostPorts, Std.TreeMap.getElem?_insert] at h h'
    grind
  · rintro port remote ⟨halive, -⟩
    simp only [hostPorts, mem_cons, not_mem_nil, or_false] at halive
    rcases halive with rfl | rfl <;> simp [HasRoom, assignedId]

/-- Two ports see the two hosts, and only the first one gets a link. -/
theorem not_macLinksExact : ¬∀ input : MacTableInput, input.WellFormed →
    (∀ port remote port' remote', input.SeesAt port remote → input.SeesAt port' remote' →
      port ≠ port' → remote.id ≠ remote'.id) →
    ∃ fuel result, generateLinkSetByMacTable fuel input = some result ∧
      MacLinksExact input result := by
  intro hall
  let input := hostPorts ((∅ : QMap ℤ String).insert 1 "00-90-E8-00-00-01" |>.insert 2
    "00-90-E8-00-00-02")
  have hfirst : input.SeesAt 1 { id := 0x0A000001, ipAddress := "10.0.0.1" } :=
    ⟨mem_cons_self, ⟨"00-90-E8-00-00-01", "10.0.0.1",
      Std.TreeMap.getElem?_insert.trans (by simp), by decide, rfl,
      Std.TreeMap.getElem?_insert.trans (by simp), by decide, by decide, rfl⟩, forall_mem_nil _⟩
  have hsecond : input.SeesAt 2 { id := 0x0A000002, ipAddress := "10.0.0.2" } :=
    ⟨mem_cons_of_mem _ mem_cons_self, ⟨"00-90-E8-00-00-02", "10.0.0.2",
      getElem?_insert_self, by decide, rfl,
      getElem?_insert_self, by decide, by decide, rfl⟩, forall_mem_nil _⟩
  have hexact := hall input (hostPorts_wellFormed _) ?_
  · obtain ⟨mac, -, hmac, hne, -⟩ := hfirst.mac
    rw [macLinksExact_iff_of_endsSet (hostPorts_wellFormed _)
      ⟨_, mem_toList_iff_getElem?_eq_some.2 hmac, hne⟩ (forall_mem_nil _)] at hexact
    have hsame := hexact.1 _ _ _ _ hfirst hsecond
    omega
  · rintro port remote port' remote' ⟨-, ⟨mac, ip, h, -, -, hip, -, -, hid⟩, -⟩
      ⟨-, ⟨mac', ip', h', -, -, hip', -, -, hid'⟩, -⟩ hne heq
    simp only [input, hostPorts, Std.TreeMap.getElem?_insert] at h h'
    rcases hostPorts_ipMacTable hip with ⟨rfl, rfl⟩ | ⟨rfl, rfl⟩ <;>
      rcases hostPorts_ipMacTable hip' with ⟨rfl, rfl⟩ | ⟨rfl, rfl⟩
    · grind
    · exact absurd (hid.symm.trans (heq.trans hid')) (by decide)
    · exact absurd (hid.symm.trans (heq.trans hid')) (by decide)
    · grind

end Scan
end Sebastian

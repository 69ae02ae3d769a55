/-
# Bringing a scan into the project

`UpdateScanTopology` (`core/src/act_core_scan_topology.cpp`): the devices of a scan that the project
does not have are created, and then each scanned link takes the place of whatever links are at its
two ports.

For the links this is a replacement in a list (`replaceLink`), and with ids enough every scanned
link is in the project, the links elsewhere stay, and no port is used twice.  But the old link is
deleted even when it is the scanned one.  So a second scan of the same network changes the project:
the streams at the scanned ports are deleted with the old link, and what the user had entered for
the cable is lost.  The scan keeps the project exactly when neither happens (`rescan_iff`).
-/

import Sebastian.Core.Device
import Sebastian.Core.LinkReplace

namespace Sebastian
namespace Core

open ExceptRule List

variable {l x y : Link}

/-! ### The operation -/

/-- `ActAutoScanResult`, the devices and links that were found. -/
structure AutoScanResult where
  devices : QSet Device := []
  links : QSet Link := []

/-- The project while a scan is brought in, and what went wrong with which devices and links. -/
structure ScanUpdate where
  project : Project
  failedDevices : QSet ℤ := []
  failedLinks : QSet ℤ := []
  successUpdateDevices : QSet Device := []

/-- The id that a device has after `CreateDevice` failed: it may have been given one. -/
def idAfterFailure (services : DeviceServices) (project : Project) (device : Device) : ℤ :=
  let assigned : Except Failure ℤ := do
    let device ← orStuck (assignAddress services project device)
    atProject project (checkAddressUnused services project device)
    let (device, _) ← atProject project (assignDeviceId project device)
    return device.id
  match assigned with
  | .ok id => id
  | .error _ => device.id

/-- "Create devices", one device. -/
def addScannedDevice (services : DeviceServices) (update : ScanUpdate) (device : Device) :
    Option ScanUpdate :=
  match createDevice services update.project device false with
  | .ok (created, project) =>
    some { update with
      project := project
      successUpdateDevices := update.successUpdateDevices.insert created }
  | .error (.status _ project) =>
    some { update with
      project := project
      failedDevices :=
        update.failedDevices.insert (idAfterFailure services update.project device) }
  | .error .stuck => none

/-- "Check Src interface" and "Check Dst interface": the link at a port is removed. -/
def removeOldLink (update : ScanUpdate) (deviceId interfaceId : ℤ) : ScanUpdate :=
  match update.project.getLinkByInterfaceId deviceId interfaceId with
  | none => update
  | some oldLink =>
    match deleteLink update.project oldLink.id with
    | .ok project => { update with project := project }
    -- not reached: the link is one of the project (`exists_deleteLink`)
    | .error _ => { update with failedLinks := update.failedLinks.insert oldLink.id }

/-- "Create link", with an id of its own. -/
def createScannedLink (update : ScanUpdate) (link : Link) : ScanUpdate :=
  match createLinkInPlace update.project { link with id := -1 } with
  | (none, _, project) => { update with project := project }
  | (some _, link, project) =>
    { update with project := project, failedLinks := update.failedLinks.insert link.id }

/-- "Add links to Project", one link. -/
def addScannedLink (update : ScanUpdate) (link : Link) : ScanUpdate :=
  createScannedLink
    (removeOldLink
      (removeOldLink update link.destinationDeviceId link.destinationInterfaceId)
      link.sourceDeviceId link.sourceInterfaceId) link

/-- The devices of the scan that the project does not have. -/
def newScanDevices (scanResult : AutoScanResult) (project : Project) : List Device :=
  scanResult.devices.filter fun device => !project.devices.contains device

/-- `UpdateScanTopology`.  It fails when one of the two sets of failures is not empty. -/
def updateScanTopology (services : DeviceServices) (scanResult : AutoScanResult)
    (project : Project) : Option ScanUpdate :=
  ((newScanDevices scanResult project).foldlM (addScannedDevice services)
    { project := project }).map fun update => scanResult.links.foldl addScannedLink update

/-! ### The links are replaced -/

variable {project project' : Project} {link : Link} {links : QSet Link} {stale : Set (ℤ × ℤ)}
  {deviceId interfaceId : ℤ} {update : ScanUpdate}

/-- The links that have no port in common with this one. -/
def linksApartFrom (link : Link) (links : QSet Link) : QSet Link :=
  links.filter fun l => !sharesPort l link

/-- The id that a new link gets besides these links. -/
def nextLinkId (links : QSet Link) (lastAssignedLinkId : ℤ) : Option ℤ :=
  generateUniqueId (fun id => links.any (·.id == id)) lastAssignedLinkId

/-- **What a scanned link does to the links and to the last id:** it takes the place of those at its
ports, if there is an id for it. -/
def replaceLink (project : Project) (state : QSet Link × ℤ) (link : Link) : QSet Link × ℤ :=
  match nextLinkId (linksApartFrom link state.1) state.2 with
  | none => (linksApartFrom link state.1, state.2)
  | some id => (linksApartFrom link state.1 ++ [storedLink project link id], id)

theorem mem_linksApartFrom :
    l ∈ linksApartFrom link links ↔ l ∈ links ∧ sharesPort l link = false := by
  simp [linksApartFrom]

/-- The link that is found at a port is the only one there. -/
theorem remove_eq_filter (hlinks : links.Distinct)
    (hfound : find? (·.hasEndpoint deviceId interfaceId) links = some l) :
    links.remove l = links.filter fun x => !x.hasEndpoint deviceId interfaceId := by
  have hmem := mem_of_find?_eq_some hfound
  have hend : l.hasEndpoint deviceId interfaceId = true := by simpa using find?_some hfound
  have hsame : ∀ x ∈ links, (x == l) = x.hasEndpoint deviceId interfaceId := by
    intro x hx
    rw [Bool.eq_iff_iff]
    constructor
    · intro hbeq
      rw [hlinks.eq_of_beq link_beq_comm hx hmem hbeq]
      exact hend
    · intro hx'
      exact link_beq_iff.2 (.inr ⟨_, _, hx', hend⟩)
  rw [QSet.remove_eq_filter hlinks link_beq_comm hmem]
  exact filter_congr fun x hx => by rw [hsame x hx]

/-- **Some links are removed**, and the streams lose what these links carried. -/
structure LinksRemoved (gone : Link → Bool) (project project' : Project) : Prop where
  links : project'.links = project.links.filter fun l => !gone l
  devices : SameButUsed project project'
  lastAssignedLinkId : project'.lastAssignedLinkId = project.lastAssignedLinkId
  reduced : StreamsReduced project.trafficDesign.streamSetting project'.trafficDesign.streamSetting
  same : (∀ l ∈ project.links, gone l = true →
    ∀ stream ∈ project.trafficDesign.streamSetting, ¬carriesEndOf l stream) →
      project'.trafficDesign.streamSetting = project.trafficDesign.streamSetting
  lost : ∀ l ∈ project.links, gone l = true →
    ∀ stream ∈ project.trafficDesign.streamSetting, carriesEndOf l stream →
      StreamLost stream project'.trafficDesign.streamSetting

theorem LinksRemoved.trans {project'' : Project} {gone gone' : Link → Bool}
    (hdist : project.trafficDesign.streamSetting.Distinct)
    (h : LinksRemoved gone project project') (h' : LinksRemoved gone' project' project'') :
    LinksRemoved (fun l => gone l || gone' l) project project'' where
  links := by
    rw [h'.links, h.links, filter_filter]
    refine filter_congr fun l _ => ?_
    rw [Bool.not_or, Bool.and_comm]
  devices := h.devices.trans h'.devices
  lastAssignedLinkId := h'.lastAssignedLinkId.trans h.lastAssignedLinkId
  reduced := h.reduced.trans h'.reduced
  same := by
    intro hno
    have hfirst := h.same fun l hl hgone => hno l hl (by rw [hgone, Bool.true_or])
    rw [h'.same fun l hl hgone => ?_, hfirst]
    rw [hfirst]
    rw [h.links, mem_filter] at hl
    exact hno l hl.1 (by rw [hgone, Bool.or_true])
  lost := by
    intro l hl hgone stream hstrm hends
    by_cases hone : gone l = true
    · exact (h.lost l hl hone stream hstrm hends).reduced h'.reduced
    · have htwo : gone' l = true := by
        rw [Bool.eq_false_of_not_eq_true hone, Bool.false_or] at hgone
        exact hgone
      by_cases hstays : stream ∈ project'.trafficDesign.streamSetting
      · refine h'.lost l ?_ htwo stream hstays hends
        rw [h.links, mem_filter]
        exact ⟨hl, by simp [hone]⟩
      · exact (h.reduced.lost_of_not_mem hdist hstrm hstays).reduced h'.reduced

theorem removeOldLink_spec (h : LinkStore stale update.project) (deviceId interfaceId : ℤ) :
    LinkStore stale (removeOldLink update deviceId interfaceId).project ∧
      LinksRemoved (·.hasEndpoint deviceId interfaceId) update.project
        (removeOldLink update deviceId interfaceId).project := by
  unfold removeOldLink
  cases hfound : update.project.getLinkByInterfaceId deviceId interfaceId with
  | none =>
    have hnone : ∀ l ∈ update.project.links, ¬l.hasEndpoint deviceId interfaceId = true :=
      fun l hl => find?_eq_none.1 hfound l hl
    refine ⟨h, ?_, .refl _, rfl, .refl _, fun _ => rfl, fun l hl hgone => absurd hgone (hnone l hl)⟩
    exact (filter_eq_self.2 fun l hl => by simp [hnone l hl]).symm
  | some oldLink =>
    have hmem := mem_of_find?_eq_some hfound
    obtain ⟨project', hdel, hstore, hdeleted⟩ := exists_deleteLink h hmem
    dsimp only
    rw [hdel]
    have hend : oldLink.hasEndpoint deviceId interfaceId = true := by
      simpa using find?_some hfound
    have honly : ∀ l ∈ update.project.links, l.hasEndpoint deviceId interfaceId = true →
        l = oldLink := fun l hl hl' =>
      h.links.eq_of_beq link_beq_comm hl hmem (link_beq_iff.2 (.inr ⟨_, _, hl', hend⟩))
    refine ⟨hstore, ?_, hdeleted.devices, hdeleted.lastAssignedLinkId, hdeleted.streams.reduced,
      fun hno => hdeleted.streams.same (hno oldLink hmem hend), fun l hl hgone => ?_⟩
    · rw [← remove_eq_filter h.links hfound]
      exact hdeleted.links
    · rw [honly l hl hgone]
      exact fun stream hstrm hends => hdeleted.streams.lost h.streams hstrm hends

/-- **One scanned link** takes the place of the links at its ports. -/
structure LinkAdded (link : Link) (project project' : Project) : Prop where
  links : (project'.links, project'.lastAssignedLinkId) =
    replaceLink project (project.links, project.lastAssignedLinkId) link
  devices : SameButUsed project project'
  reduced : StreamsReduced project.trafficDesign.streamSetting project'.trafficDesign.streamSetting
  same : (∀ l ∈ project.links, sharesPort l link = true →
    ∀ stream ∈ project.trafficDesign.streamSetting, ¬carriesEndOf l stream) →
      project'.trafficDesign.streamSetting = project.trafficDesign.streamSetting
  lost : ∀ l ∈ project.links, sharesPort l link = true →
    ∀ stream ∈ project.trafficDesign.streamSetting, carriesEndOf l stream →
      StreamLost stream project'.trafficDesign.streamSetting

theorem addScannedLink_spec (h : LinkStore stale update.project)
    (hcheck : checkLink update.project link = .ok ()) :
    LinkStore stale (addScannedLink update link).project ∧
      LinkAdded link update.project (addScannedLink update link).project := by
  obtain ⟨hfirst, hdest⟩ := removeOldLink_spec h link.destinationDeviceId
    link.destinationInterfaceId
  obtain ⟨hsecond, hsrc⟩ := removeOldLink_spec hfirst link.sourceDeviceId link.sourceInterfaceId
  have hremd := hdest.trans h.streams hsrc
  unfold addScannedLink
  generalize removeOldLink (removeOldLink update link.destinationDeviceId
    link.destinationInterfaceId) link.sourceDeviceId link.sourceInterfaceId = cleared at *
  have hgone : ∀ l, (l.hasEndpoint link.destinationDeviceId link.destinationInterfaceId ||
      l.hasEndpoint link.sourceDeviceId link.sourceInterfaceId) = sharesPort l link := by
    intro l
    rw [Bool.or_comm]
    rfl
  obtain ⟨hlinks, hdevs, hlast, hreduced, hsame, hlost⟩ := hremd
  simp only [hgone] at hlinks hsame hlost
  have hkept : cleared.project.links = linksApartFrom link update.project.links := hlinks
  have hfree : ∀ l ∈ cleared.project.links, sharesPort l link = false := by
    intro l hl
    rw [hkept] at hl
    exact (mem_linksApartFrom.1 hl).2
  have hcheck' : checkLink cleared.project { link with id := -1 } = .ok () :=
    hdevs.checkLink hcheck
  have hcreate := createLinkInPlace_of_free hsecond hcheck' rfl hfree
  have hsearch : generateUniqueId (fun id => cleared.project.links.any (·.id == id))
      cleared.project.lastAssignedLinkId =
      nextLinkId (linksApartFrom link update.project.links) update.project.lastAssignedLinkId := by
    rw [hkept, hlast]
    rfl
  rw [hsearch] at hcreate
  unfold createScannedLink
  cases hid : nextLinkId (linksApartFrom link update.project.links)
      update.project.lastAssignedLinkId with
  | none =>
    rw [hid] at hcreate
    obtain ⟨status, hfailed⟩ := hcreate
    rw [hfailed]
    refine ⟨hsecond, ?_, hdevs, hreduced, hsame, hlost⟩
    rw [replaceLink, hid]
    exact Prod.ext hkept hlast
  | some id =>
    rw [hid] at hcreate
    obtain ⟨project', hok, hstore, hcre⟩ := hcreate
    rw [hok]
    have hstored : storedLink cleared.project { link with id := -1 } id =
        storedLink update.project link id := by
      unfold storedLink
      rw [hdevs.withDeviceIps]
      rfl
    rw [hstored] at hcre
    refine ⟨hstore, ?_, hdevs.trans hcre.devices, ?_, ?_, ?_⟩
    · rw [replaceLink, hid]
      exact Prod.ext (hcre.links.trans (by rw [hkept])) hcre.lastAssignedLinkId
    all_goals
      rw [show project'.trafficDesign = cleared.project.trafficDesign from hcre.streams]
    · exact hreduced
    · exact hsame
    · exact hlost

/-! ### The list after all scanned links -/

/-- The links and the last id after some scanned links. -/
abbrev replaceLinks (project : Project) (state : QSet Link × ℤ) (scanned : List Link) :
    QSet Link × ℤ :=
  scanned.foldl (replaceLink project) state

/-- **There is an id for each of the scanned links**, when they replace the old ones in turn. -/
def IdsLeft (project : Project) : QSet Link × ℤ → List Link → Prop
  | _, [] => True
  | state, link :: scanned =>
    (nextLinkId (linksApartFrom link state.1) state.2).isSome = true ∧
      IdsLeft project (replaceLink project state link) scanned

/-- The two links join the same ports, in whichever direction. -/
def SamePorts (x y : Link) : Prop :=
  ∀ deviceId interfaceId, x.hasEndpoint deviceId interfaceId = y.hasEndpoint deviceId interfaceId

/-- No two links of the list have a port in common. -/
def LinksApart (links : List Link) : Prop := links.Pairwise fun x y => sharesPort x y = false

variable {state : QSet Link × ℤ} {scanned : List Link}

theorem SamePorts.symm (h : SamePorts x y) : SamePorts y x := fun d i => (h d i).symm

theorem SamePorts.trans {z : Link} (h : SamePorts x y) (h' : SamePorts y z) : SamePorts x z :=
  fun d i => (h d i).trans (h' d i)

theorem sharesPort_self (x : Link) : sharesPort x x = true := by
  rw [sharesPort_iff]
  exact ⟨x.sourceDeviceId, x.sourceInterfaceId, by simp [Link.hasEndpoint],
    by simp [Link.hasEndpoint]⟩

theorem SamePorts.sharesPort (h : SamePorts x y) (z : Link) : sharesPort x z = sharesPort y z := by
  unfold Core.sharesPort
  rw [h, h]

theorem samePorts_storedLink (id : ℤ) : SamePorts (storedLink project link id) link :=
  fun _ _ => rfl

theorem mem_replaceLink (h : l ∈ (replaceLink project state link).1) :
    (l ∈ state.1 ∧ sharesPort l link = false) ∨ ∃ id,
      nextLinkId (linksApartFrom link state.1) state.2 = some id ∧
        l = storedLink project link id := by
  unfold replaceLink at h
  split at h
  · exact .inl (mem_linksApartFrom.1 h)
  · next id hid =>
    rcases mem_append.1 h with h | h
    · exact .inl (mem_linksApartFrom.1 h)
    · exact .inr ⟨id, hid, mem_singleton.1 h⟩

theorem mem_replaceLink_of_apart (h : l ∈ state.1) (hapart : sharesPort l link = false) :
    l ∈ (replaceLink project state link).1 := by
  unfold replaceLink
  split
  · exact mem_linksApartFrom.2 ⟨h, hapart⟩
  · exact mem_append_left _ (mem_linksApartFrom.2 ⟨h, hapart⟩)

theorem mem_replaceLinks_of_apart (h : l ∈ state.1)
    (hapart : ∀ s ∈ scanned, sharesPort l s = false) :
    l ∈ (replaceLinks project state scanned).1 := by
  induction scanned generalizing state with
  | nil => exact h
  | cons s scanned ih =>
    rw [forall_mem_cons] at hapart
    exact ih (mem_replaceLink_of_apart h hapart.1) hapart.2

/-- A link afterwards is an old one elsewhere, or a scanned one. -/
theorem mem_replaceLinks (h : l ∈ (replaceLinks project state scanned).1) :
    (l ∈ state.1 ∧ ∀ s ∈ scanned, sharesPort l s = false) ∨
      ∃ s ∈ scanned, ∃ id, l = storedLink project s id := by
  induction scanned generalizing state with
  | nil => exact .inl ⟨h, by simp⟩
  | cons s scanned ih =>
    rw [forall_mem_cons, exists_mem_cons_iff]
    rcases ih h with ⟨hl, hapart⟩ | hnew
    · rcases mem_replaceLink hl with ⟨hold, hs⟩ | ⟨id, -, hid⟩
      · exact .inl ⟨hold, hs, hapart⟩
      · exact .inr (.inl ⟨id, hid⟩)
    · exact .inr (.inr hnew)

theorem linksApart_replaceLinks (h : LinksApart state.1) :
    LinksApart (replaceLinks project state scanned).1 := by
  induction scanned generalizing state with
  | nil => exact h
  | cons s scanned ih =>
    refine ih ?_
    have hkept : LinksApart (linksApartFrom s state.1) := List.Pairwise.filter _ h
    unfold replaceLink
    split
    · exact hkept
    · refine pairwise_append.2 ⟨hkept, pairwise_singleton _ _, fun x hx y hy => ?_⟩
      rw [mem_singleton.1 hy, sharesPort_storedLink]
      exact (mem_linksApartFrom.1 hx).2

/-- **The scanned links are all there** exactly when there was an id for each of them. -/
theorem placed_iff_idsLeft (hscanned : LinksApart scanned) :
    (∀ s ∈ scanned, ∃ l ∈ (replaceLinks project state scanned).1, SamePorts l s) ↔
      IdsLeft project state scanned := by
  induction scanned generalizing state with
  | nil => simp [IdsLeft]
  | cons s scanned ih =>
    obtain ⟨hapart, hscanned⟩ := pairwise_cons.1 hscanned
    have hothers : ∀ t ∈ scanned, sharesPort t s = false := fun t ht => by
      rw [sharesPort_comm]
      exact hapart t ht
    have hcons : replaceLinks project state (s :: scanned) =
        replaceLinks project (replaceLink project state s) scanned := rfl
    rw [hcons, forall_mem_cons, IdsLeft]
    refine and_congr ?_ (ih hscanned)
    constructor
    · rintro ⟨l, hl, hports⟩
      have hshares : sharesPort l s = true := by
        rw [hports.sharesPort]
        exact sharesPort_self s
      rcases mem_replaceLinks hl with ⟨hl, -⟩ | ⟨t, ht, id, rfl⟩
      · rcases mem_replaceLink hl with ⟨-, hs⟩ | ⟨id, hid, -⟩
        · rw [hs] at hshares
          cases hshares
        · rw [hid]
          rfl
      · rw [(samePorts_storedLink id).sharesPort, hothers t ht] at hshares
        cases hshares
    · intro hsome
      obtain ⟨id, hid⟩ := Option.isSome_iff_exists.1 hsome
      refine ⟨storedLink project s id, mem_replaceLinks_of_apart ?_ fun t ht => ?_,
        samePorts_storedLink id⟩
      · unfold replaceLink
        rw [hid]
        exact mem_append_right _ (mem_singleton_self _)
      · rw [(samePorts_storedLink id).sharesPort]
        exact hapart t ht

/-! ### The loop over the links -/

/-- **What holds after some scanned links**, seen from the project before them. -/
structure ScanInv (stale : Set (ℤ × ℤ)) (start : Project) (passed : List Link) (project : Project) :
    Prop where
  store : LinkStore stale project
  devices : SameButUsed start project
  links : (project.links, project.lastAssignedLinkId) =
    replaceLinks start (start.links, start.lastAssignedLinkId) passed
  reduced : StreamsReduced start.trafficDesign.streamSetting project.trafficDesign.streamSetting

theorem ScanInv.start (h : LinkStore stale project) : ScanInv stale project [] project :=
  ⟨h, .refl _, rfl, .refl _⟩

theorem SameButUsed.replaceLink (h : SameButUsed project project') (state : QSet Link × ℤ)
    (link : Link) : replaceLink project' state link = replaceLink project state link := by
  unfold Core.replaceLink storedLink
  rw [h.withDeviceIps]

variable {start : Project} {passed rest : List Link}

theorem ScanInv.step (h : ScanInv stale start passed update.project)
    (hcheck : checkLink start link = .ok ()) :
    ScanInv stale start (passed ++ [link]) (addScannedLink update link).project ∧
      LinkAdded link update.project (addScannedLink update link).project := by
  obtain ⟨hstore, hadded⟩ := addScannedLink_spec h.store (h.devices.checkLink hcheck)
  refine ⟨⟨hstore, h.devices.trans hadded.devices, ?_, h.reduced.trans hadded.reduced⟩, hadded⟩
  rw [hadded.links, h.devices.replaceLink, h.links]
  unfold replaceLinks
  rw [foldl_append]
  rfl

theorem ScanInv.foldl (rest : List Link) (h : ScanInv stale start passed update.project)
    (hcheck : ∀ s ∈ rest, checkLink start s = .ok ()) :
    ScanInv stale start (passed ++ rest) (rest.foldl addScannedLink update).project := by
  induction rest generalizing passed update with
  | nil => rwa [append_nil]
  | cons s rest ih =>
    rw [forall_mem_cons] at hcheck
    have hrest := ih (h.step hcheck.1).1 hcheck.2
    rwa [append_assoc] at hrest

/-! ### A second scan -/

/-- Every scanned link joins the ports of a link that is in the project already. -/
def Rescanned (links : QSet Link) (scanned : List Link) : Prop :=
  ∀ s ∈ scanned, ∃ l ∈ links, SamePorts l s

theorem SamePorts.carriesEndOf {stream : TrafficStream} (h : SamePorts x y) :
    carriesEndOf x stream ↔ carriesEndOf y stream := by
  unfold Core.carriesEndOf
  simp only [h _ _]

/-- Of the links that a scanned one replaces, only one is there: the same link. -/
theorem ScanInv.samePorts (h : ScanInv stale start passed project)
    (hdist : start.links.Distinct) (hold : ∃ l ∈ start.links, SamePorts l link)
    (hapart : ∀ s ∈ passed, sharesPort s link = false) (hl : l ∈ project.links)
    (hshares : sharesPort l link = true) : SamePorts l link := by
  obtain ⟨old, hmem, hports⟩ := hold
  have hlinks := congrArg Prod.fst h.links
  dsimp only at hlinks
  rw [hlinks] at hl
  rcases mem_replaceLinks hl with ⟨hl, -⟩ | ⟨s, hs, id, rfl⟩
  · have hbeq : (l == old) = true := by
      rw [link_beq_iff_sharesPort, sharesPort_comm, hports.sharesPort, sharesPort_comm]
      exact .inr hshares
    rwa [hdist.eq_of_beq link_beq_comm hl hmem hbeq]
  · rw [(samePorts_storedLink id).sharesPort, hapart s hs] at hshares
    cases hshares

/-- **Streams elsewhere stay** in a second scan. -/
theorem ScanInv.streams_foldl (h : ScanInv stale start passed update.project)
    (hdist : start.links.Distinct) (hcheck : ∀ s ∈ rest, checkLink start s = .ok ())
    (hrescanned : Rescanned start.links rest) (hapart : LinksApart (passed ++ rest))
    (hsame : update.project.trafficDesign.streamSetting = start.trafficDesign.streamSetting)
    (hno : ∀ s ∈ rest, ∀ stream ∈ start.trafficDesign.streamSetting, ¬carriesEndOf s stream) :
    (rest.foldl addScannedLink update).project.trafficDesign.streamSetting =
      start.trafficDesign.streamSetting := by
  induction rest generalizing passed update with
  | nil => exact hsame
  | cons s rest ih =>
    rw [forall_mem_cons] at hcheck hno
    have hfront : ∀ t ∈ passed, sharesPort t s = false := fun t ht =>
      (pairwise_append.1 hapart).2.2 t ht s mem_cons_self
    obtain ⟨hinv, hadded⟩ := h.step hcheck.1
    refine ih hinv hcheck.2 (fun t ht => hrescanned t (mem_cons_of_mem _ ht))
      (by rwa [append_assoc]) ?_ hno.2
    rw [hadded.same fun l hl hshares stream hstrm => ?_, hsame]
    rw [(h.samePorts hdist (hrescanned s mem_cons_self) hfront hl hshares).carriesEndOf]
    rw [hsame] at hstrm
    exact hno.1 stream hstrm

/-- **A stream at a scanned port is lost** in a second scan. -/
theorem ScanInv.lost_foldl {stream : TrafficStream} (h : LinkStore stale update.project)
    (hcheck : ∀ s ∈ scanned, checkLink update.project s = .ok ())
    (hapart : LinksApart scanned) (hlink : link ∈ scanned)
    (hold : ∃ l ∈ update.project.links, SamePorts l link)
    (hstrm : stream ∈ update.project.trafficDesign.streamSetting)
    (hends : carriesEndOf link stream) : StreamLost stream
      (scanned.foldl addScannedLink update).project.trafficDesign.streamSetting := by
  obtain ⟨before, after, rfl⟩ := append_of_mem hlink
  obtain ⟨-, hapart, hfront⟩ := pairwise_append.1 hapart
  obtain ⟨old, hmem, hports⟩ := hold
  have hbefore := (ScanInv.start h).foldl before fun s hs =>
    hcheck s (mem_append_left _ hs)
  rw [nil_append] at hbefore
  rw [foldl_append, foldl_cons]
  generalize before.foldl addScannedLink update = first at hbefore ⊢
  obtain ⟨hsecond, hadded⟩ := hbefore.step (hcheck link hlink)
  have hlost : StreamLost stream
    (addScannedLink first link).project.trafficDesign.streamSetting := by
    by_cases hstays : stream ∈ first.project.trafficDesign.streamSetting
    · refine hadded.lost old ?_ ?_ stream hstays (hports.carriesEndOf.2 hends)
      · have hlinks := congrArg Prod.fst hbefore.links
        dsimp only at hlinks
        rw [hlinks]
        refine mem_replaceLinks_of_apart hmem fun s hs => ?_
        rw [hports.sharesPort, sharesPort_comm]
        exact hfront s hs link mem_cons_self
      · rw [hports.sharesPort]
        exact sharesPort_self link
    · exact (hbefore.reduced.lost_of_not_mem h.streams hstrm hstays).reduced hadded.reduced
  have hafter := (ScanInv.start hsecond.store).foldl after fun s hs =>
      hsecond.devices.checkLink (hcheck s (mem_append_right _ (mem_cons_of_mem _ hs)))
  exact hlost.reduced hafter.reduced

/-! ### The loop over the devices -/

/-- The project that a failure leaves behind; the operation returns. -/
def LeavesBehind (P : Project → Prop) : Failure → Prop
  | .status _ project => P project
  | .stuck => False

/-- The stores that a scan is about are the same. -/
structure SameScanStores (project project' : Project) : Prop where
  links : project'.links = project.links
  trafficDesign : project'.trafficDesign = project.trafficDesign
  lastAssignedLinkId : project'.lastAssignedLinkId = project.lastAssignedLinkId

/-- At most one device is new, and it has an id and an address. -/
structure DeviceAdded (project project' : Project) : Prop
    extends SameScanStores project project' where
  devices : project'.devices = project.devices ∨ ∃ device : Device,
    device.id ≠ -1 ∧ device.ipAddress ≠ "" ∧ project'.devices = project.devices.insert device

variable {services : DeviceServices} {device : Device} {fromBag : Bool}

theorem DeviceAdded.refl (project : Project) : DeviceAdded project project :=
  ⟨⟨rfl, rfl, rfl⟩, .inl rfl⟩

theorem ends_atProject {α : Type} {P : α → Prop} {F : Project → Prop} {result : Except Status α}
    (hF : F project) (hP : ∀ a, result = .ok a → P a) :
    Ends P (LeavesBehind F) (atProject project result) := by
  cases result with
  | error status => exact hF
  | ok a => exact hP a rfl

theorem ends_orStuck {α : Type} {P : α → Prop} {F : Project → Prop} {a : α} {result : Option α}
    (hsome : result = some a) (hP : P a) : Ends P (LeavesBehind F) (orStuck result) := by
  rw [hsome]
  exact hP

theorem updateRedundantRSTP_ok {rstp : RSTP} (h : updateRedundantRSTP project rstp = .ok project') :
    ∃ rstpGroups, project' = { project with rstpGroups := rstpGroups } := by
  obtain ⟨⟨⟩, -, h⟩ := exists_of_bind h
  cases h
  split_ifs
  · exact ⟨_, rfl⟩
  · exact ⟨project.rstpGroups, rfl⟩

theorem ends_joinRstpGroups (h : DeviceAdded project project') :
    Ends (DeviceAdded project) (LeavesBehind (DeviceAdded project))
      (joinRstpGroups project' device) := by
  unfold joinRstpGroups
  split_ifs
  · refine Ends.foldlM h fun p rstp _ hp => ends_atProject hp fun p' hp' => ?_
    obtain ⟨rstpGroups, rfl⟩ := updateRedundantRSTP_ok hp'
    exact ⟨⟨hp.links, hp.trafficDesign, hp.lastAssignedLinkId⟩, hp.devices⟩
  · exact h

theorem ends_changeSkus {result : Except SkuFailure SkuMap} (h : DeviceAdded project project') :
    Ends (DeviceAdded project) (LeavesBehind (DeviceAdded project))
      (changeSkus project' result) := by
  have hskus : ∀ skus : SkuMap,
      DeviceAdded project { project' with skuQuantitiesMap := skus } := fun skus =>
    ⟨⟨h.links, h.trafficDesign, h.lastAssignedLinkId⟩, h.devices⟩
  unfold changeSkus
  split
  · exact hskus _
  · exact hskus _

theorem assignDeviceId_named {numbered : Device}
    (h : assignDeviceId project device = .ok (numbered, project')) :
    numbered.id ≠ -1 ∧ ∃ counter : ℤ, project' =
      { project with lastAssignedDeviceId := counter } := by
  obtain ⟨hid, hcounter⟩ := assignDeviceId_ok h
  refine ⟨fun hnone => ?_, hcounter⟩
  by_cases hown : device.id = -1
  · have hlow := (hid.id_of_eq hown).2
    omega
  · exact hown ((hid.id_of_ne hown).symm.trans hnone)

/-- **`CreateDevice`, also when it fails,** adds at most the device, and nothing to the links. -/
theorem ends_enterDevice (haddr : device.ipAddress ≠ "") :
    Ends (fun entered => DeviceAdded project entered.2)
      (LeavesBehind (DeviceAdded project)) (enterDevice services project device) := by
  have hassigned : assignAddress services project device = some device := by
    unfold assignAddress
    rw [if_neg haddr]
  refine (ends_orStuck (P := (· = device)) hassigned rfl).bind ?_
  rintro _ rfl
  refine (ends_atProject (P := fun _ => True) (.refl _) fun _ _ => trivial).bind fun _ _ => ?_
  refine (ends_atProject (P := fun numbered : Device × Project => numbered.1.id ≠ -1 ∧
    ∃ counter, numbered.2 = { project with lastAssignedDeviceId := counter }) (.refl _)
    fun _ hid => assignDeviceId_named hid).bind ?_
  rintro ⟨numbered, _⟩ ⟨hid, counter, rfl⟩
  have hcounted : DeviceAdded project { project with lastAssignedDeviceId := counter } :=
    ⟨⟨rfl, rfl, rfl⟩, .inl rfl⟩
  refine (ends_atProject (P := fun profiled : Device => profiled.id = numbered.id) hcounted
    fun _ hprof => (matchDeviceProfile_ok hprof).id).bind fun profiled hsame => ?_
  refine (ends_atProject (P := fun _ => profiled.ipAddress ≠ "") hcounted
    fun _ hcheck => AddressFormat.ne_empty (checkDevice_ok hcheck)).bind fun _ haddr => ?_
  obtain ⟨placed, hplace⟩ := exists_assignCoordinate
    { project with lastAssignedDeviceId := counter } { profiled with deviceRole := .unknown }
  refine (ends_orStuck (P := (· = placed)) hplace rfl).bind ?_
  rintro _ rfl
  obtain ⟨coordinate, -, rfl⟩ := assignCoordinate_ok hplace
  refine (ends_atProject (P := fun p : Project => ∃ groups, p =
    { project with
      lastAssignedDeviceId := counter
      usedCoordinates := project.usedCoordinates.insert coordinate
      groups := groups }) ⟨⟨rfl, rfl, rfl⟩, .inl rfl⟩
    fun _ hgroup => ⟨_, (joinGroup_ok hgroup).2⟩).bind ?_
  rintro _ ⟨groups, rfl⟩
  refine Ends.bind (P := DeviceAdded project) (ends_joinRstpGroups ?_)
    fun joined hjoined => ?_
  · exact ⟨⟨rfl, rfl, rfl⟩, .inr ⟨{ profiled with
        deviceRole := .unknown
        coordinate := coordinate },
      fun hnone => hid (hsame.symm.trans hnone), haddr, rfl⟩⟩
  · exact ⟨⟨hjoined.links, hjoined.trafficDesign, hjoined.lastAssignedLinkId⟩, hjoined.devices⟩

theorem ends_createDevice (haddr : device.ipAddress ≠ "") :
    Ends (fun created => DeviceAdded project created.2)
      (LeavesBehind (DeviceAdded project)) (createDevice services project device fromBag) := by
  refine (ends_enterDevice haddr).bind ?_
  rintro ⟨created, entered⟩ hent
  exact (ends_changeSkus hent).bind fun _ hp => hp

/-- **What the loop over the devices does:** the devices of the project stay. -/
structure DevicesAdded (project project' : Project) : Prop
    extends SameScanStores project project' where
  wellFormed : DevicesWellFormed project'.devices
  named : ∀ device ∈ project'.devices, device.id ≠ -1
  kept : ∀ device ∈ project.devices, device ∈ project'.devices

theorem DevicesAdded.step {project'' : Project} (h : DevicesAdded project project')
    (hadded : DeviceAdded project' project'') : DevicesAdded project project'' := by
  obtain ⟨⟨hlinks, htraffic, hlast⟩, hdevs⟩ := hadded
  have hstores : SameScanStores project project'' :=
    ⟨hlinks.trans h.links, htraffic.trans h.trafficDesign, hlast.trans h.lastAssignedLinkId⟩
  rcases hdevs with hsame | ⟨device, hid, haddr, hins⟩
  · refine ⟨hstores, ?_, ?_, ?_⟩ <;> rw [hsame]
    · exact h.wellFormed
    · exact h.named
    · exact h.kept
  · have hmem : ∀ x ∈ project''.devices, x ∈ project'.devices ∨ x = device := by
      intro x hx
      rw [hins] at hx
      exact QSet.mem_or_eq_of_mem_insert hx
    refine ⟨hstores, ⟨?_, fun x hx => ?_⟩, fun x hx => ?_, fun x hx => ?_⟩
    · rw [hins]
      exact h.wellFormed.distinct.insert device
    · rcases hmem x hx with hx | rfl
      · exact h.wellFormed.address x hx
      · exact haddr
    · rcases hmem x hx with hx | rfl
      · exact h.named x hx
      · exact hid
    · rw [hins]
      exact QSet.mem_insert_of_mem (h.kept x hx)

/-- **The loop over the devices** comes to its end, for devices with addresses. -/
theorem exists_addScannedDevices {devices : List Device} (hwellFormed :
    DevicesWellFormed project.devices)
    (hnamed : ∀ device ∈ project.devices, device.id ≠ -1)
    (haddr : ∀ device ∈ devices, device.ipAddress ≠ "") :
    ∃ update, devices.foldlM (addScannedDevice services) { project := project } = some update ∧
      DevicesAdded project update.project := by
  refine @OptionRule.exists_foldlM _ _ _ (fun _ (update : ScanUpdate) =>
    DevicesAdded project update.project) _ _
    ⟨⟨rfl, rfl, rfl⟩, hwellFormed, hnamed, fun _ hd => hd⟩ fun _ device update hdev hupd => ?_
  have hcreate := @ends_createDevice update.project services device false (haddr device hdev)
  unfold addScannedDevice
  cases hres : createDevice services update.project device false with
  | ok created =>
    rw [hres] at hcreate
    exact ⟨_, rfl, hupd.step hcreate⟩
  | error failure =>
    rw [hres] at hcreate
    cases failure with
    | status status left => exact ⟨_, rfl, hupd.step hcreate⟩
    | stuck => exact hcreate.elim

/-! ### What a scan is to keep -/

/-- The project before the scan: its link table is consistent, its streams are a set, and devices
have ids. -/
structure ScannableProject (project : Project) : Prop extends ConsistentLinks project where
  streams : project.trafficDesign.streamSetting.Distinct
  named : ∀ device ∈ project.devices, device.id ≠ -1

/-- A scan of this project: its links have no port in common and join interfaces of the project's
devices at a speed that both support, and devices are known by their addresses. -/
structure ScanOf (project : Project) (scanResult : AutoScanResult) : Prop where
  apart : LinksApart scanResult.links
  linkable : ∀ link ∈ scanResult.links, checkLink project link = .ok ()
  addresses : ∀ device ∈ scanResult.devices, device.ipAddress ≠ ""

/-- The same cable, as the user describes it. -/
structure SameCable (x y : Link) : Prop where
  speed : x.speed = y.speed
  cableLength : x.cableLength = y.cableLength
  cableType : x.cableType = y.cableType
  propagationDelay : x.propagationDelay = y.propagationDelay

/-- **Nothing changed:** the devices, the cables and the streams are as before.  Devices that the
scan found besides may have come in. -/
structure NetworkUnchanged (project : Project) (scanResult : AutoScanResult) (project' : Project) :
    Prop where
  devices : ∀ device ∈ project.devices, device ∈ project'.devices
  noOthers : (∀ device ∈ scanResult.devices, project.devices.contains device = true) →
    ∀ device ∈ project'.devices, device ∈ project.devices
  cables : ∀ link ∈ project.links,
    ∃ link' ∈ project'.links, SamePorts link' link ∧ SameCable link' link
  streams : ∀ stream, stream ∈ project'.trafficDesign.streamSetting ↔
    stream ∈ project.trafficDesign.streamSetting

/-- **What a scan is to keep:** every scanned link is in the project, the links elsewhere stay, no
port is used twice, and a scan that finds known links only changes nothing. -/
structure ScanKeeps (project : Project) (scanResult : AutoScanResult) (project' : Project) :
    Prop where
  placed : ∀ s ∈ scanResult.links, ∃ link ∈ project'.links, SamePorts link s
  kept : ∀ link ∈ project.links, (∀ s ∈ scanResult.links, sharesPort link s = false) →
    link ∈ project'.links
  apart : LinksApart project'.links
  unchanged : Rescanned project.links scanResult.links →
    NetworkUnchanged project scanResult project'

/-- The scanned links have the cables of the links they stand for, and no stream ends at them. -/
def Undisturbed (project : Project) (scanned : List Link) : Prop :=
  ∀ s ∈ scanned, (∀ link ∈ project.links, SamePorts link s → SameCable link s) ∧
    ∀ stream ∈ project.trafficDesign.streamSetting, ¬carriesEndOf s stream

/-- The ports of devices that the project does not have yet. -/
def newPorts (project : Project) : Set (ℤ × ℤ) :=
  {port | ∀ device ∈ project.devices, device.id ≠ port.1}

variable {scanResult : AutoScanResult}

theorem DevicesAdded.getDeviceById (h : DevicesAdded project project')
    (hproject : DevicesWellFormed project.devices) {id : ℤ}
    (hfound : project.getDeviceById id = some device) : project'.getDeviceById id =
      some device := by
  obtain ⟨hmem, hid⟩ := hproject.id_of_find hfound
  exact h.wellFormed.getDeviceById (h.kept device hmem) hid

theorem DevicesAdded.linkStore (h : DevicesAdded project project')
    (hproject : ScannableProject project) : LinkStore (newPorts project) project' where
  devices := h.wellFormed
  links := by
    rw [h.links]
    exact hproject.links
  used device hdev intf hintf hold := by
    simp only [newPorts, Set.mem_ofPred_eq, not_forall, not_not] at hold
    obtain ⟨old, hmem, hid⟩ := hold
    rw [h.links]
    obtain rfl := h.wellFormed.eq_of_id (h.kept old hmem) hdev hid
    exact hproject.used old hmem intf hintf (Set.notMem_empty _)
  streams := by
    rw [h.trafficDesign]
    exact hproject.streams
  anchored link hlink := by
    rw [h.links] at hlink
    rw [← Bool.not_eq_true]
    intro hend
    obtain ⟨device, hdev, hid, -⟩ := hproject.ends link hlink _ _ hend
    exact hproject.named device hdev hid
  named := h.named

theorem DevicesAdded.checkLink {u : Unit} (h : DevicesAdded project project')
    (hproject : DevicesWellFormed project.devices) (hcheck : checkLink project link = .ok u) :
    checkLink project' link = .ok () := by
  obtain ⟨srcDev, dstDev, srcIntf, dstIntf, hlinkable⟩ := checkLink_ok hcheck
  exact Linkable.checkLink { hlinkable with
    source := h.getDeviceById hproject hlinkable.source
    destination := h.getDeviceById hproject hlinkable.destination }

theorem DevicesAdded.withDeviceIps {u : Unit} (h : DevicesAdded project project')
    (hproject : DevicesWellFormed project.devices) (hcheck : Core.checkLink project link = .ok u) :
    withDeviceIps project' link = withDeviceIps project link := by
  obtain ⟨srcDev, dstDev, srcIntf, dstIntf, hlinkable⟩ := checkLink_ok hcheck
  unfold Core.withDeviceIps getDeviceIp
  rw [hlinkable.source, hlinkable.destination, h.getDeviceById hproject hlinkable.source,
    h.getDeviceById hproject hlinkable.destination]

theorem idsLeft_congr (h : ∀ s ∈ scanned, withDeviceIps project' s = withDeviceIps project s) :
    IdsLeft project' state scanned ↔ IdsLeft project state scanned := by
  induction scanned generalizing state with
  | nil => rfl
  | cons s scanned ih =>
    rw [forall_mem_cons] at h
    have hrepl : replaceLink project' state s = replaceLink project state s := by
      unfold replaceLink storedLink
      rw [h.1]
    rw [IdsLeft, IdsLeft, hrepl, ih h.2]

/-! ### The flags after a second scan -/

/-- Interfaces that differ in their flags only, and not in those, are the same. -/
theorem interfaces_eq {x y : List Interface}
    (hmap : x.map (fun intf => { intf with used := false }) =
      y.map fun intf => { intf with used := false })
    (hused : ∀ i ∈ x, ∀ j ∈ y, i.interfaceId = j.interfaceId → i.used = j.used) : x = y := by
  induction x generalizing y with
  | nil => exact (map_eq_nil_iff.1 hmap.symm).symm
  | cons i x ih =>
    cases y with
    | nil => cases hmap
    | cons j y =>
      obtain ⟨hhead, htail⟩ := cons.inj hmap
      have hid : i.interfaceId = j.interfaceId := (congrArg Interface.interfaceId hhead :)
      have hflag := hused i mem_cons_self j mem_cons_self hid
      have hij : i = j := by
        have hset := congrArg (fun intf : Interface => { intf with used := i.used }) hhead
        rw [show j = { j with used := i.used } by rw [hflag]]
        exact hset
      rw [hij, ih htail fun a ha b hb =>
        hused a (mem_cons_of_mem _ ha) b (mem_cons_of_mem _ hb)]

/-- **A device is as before** when the same ports have links. -/
theorem eq_of_withoutUsed {stale' : Set (ℤ × ℤ)} {device' : Device}
    (h : LinkTable stale project) (h' : LinkTable stale' project')
    (hports : ∀ d i, (∃ l ∈ project'.links, l.hasEndpoint d i = true) ↔
      ∃ l ∈ project.links, l.hasEndpoint d i = true)
    (hdev : device ∈ project.devices) (hdev' : device' ∈ project'.devices)
    (hfresh : ∀ i, (device.id, i) ∉ stale) (hfresh' : ∀ i, (device.id, i) ∉ stale')
    (hsame : withoutUsed device' = withoutUsed device) : device' = device := by
  have hid : device'.id = device.id := (congrArg Device.id hsame :)
  have hintfs : device'.interfaces = device.interfaces := by
    refine interfaces_eq (congrArg Device.interfaces hsame :) fun i hi j hj hij => ?_
    rw [Bool.eq_iff_iff, h'.used device' hdev' i hi (by rw [hid]; exact hfresh' _),
      h.used device hdev j hj (hfresh _), hid, hij]
    exact hports _ _
  have hset := congrArg (fun d : Device => { d with interfaces := device.interfaces }) hsame
  rw [show device' = { device' with interfaces := device.interfaces } by rw [← hintfs]]
  exact hset

/-! ### The scan as a whole -/

/-- **A scan that was brought in:** the devices came first, and then the links. -/
structure ScanDone (project : Project) (scanResult : AutoScanResult) (staged project' : Project) :
    Prop where
  added : DevicesAdded project staged
  linksAdded : ScanInv (newPorts project) staged scanResult.links project'
  streams : Rescanned project.links scanResult.links →
    (∀ s ∈ scanResult.links, ∀ stream ∈ project.trafficDesign.streamSetting,
      ¬carriesEndOf s stream) →
    project'.trafficDesign.streamSetting = project.trafficDesign.streamSetting
  lost : ∀ s ∈ scanResult.links, (∃ l ∈ project.links, SamePorts l s) →
    ∀ stream ∈ project.trafficDesign.streamSetting, carriesEndOf s stream →
      StreamLost stream project'.trafficDesign.streamSetting
  noDevices : (∀ device ∈ scanResult.devices, project.devices.contains device = true) →
    staged = project

theorem exists_scanDone (hproject : ScannableProject project) (hscan : ScanOf project scanResult) :
    ∃ update staged, updateScanTopology services scanResult project = some update ∧
      ScanDone project scanResult staged update.project := by
  obtain ⟨first, hrun, hstaged⟩ := @exists_addScannedDevices _ services
    (newScanDevices scanResult project) hproject.devices hproject.named
    fun device hdev => hscan.addresses device (mem_of_mem_filter hdev)
  have hstore := hstaged.linkStore hproject
  have hcheck : ∀ s ∈ scanResult.links, checkLink first.project s = .ok () := fun s hs =>
    hstaged.checkLink hproject.devices (hscan.linkable s hs)
  refine ⟨scanResult.links.foldl addScannedLink first, first.project, ?_, hstaged, ?_, ?_, ?_, ?_⟩
  · unfold updateScanTopology
    rw [hrun]
    rfl
  · exact (ScanInv.start hstore).foldl scanResult.links hcheck
  · intro hrescanned hno
    rw [← hstaged.trafficDesign] at hno ⊢
    rw [← hstaged.links] at hrescanned
    exact (ScanInv.start hstore).streams_foldl hstore.links hcheck hrescanned hscan.apart rfl hno
  · intro s hs hold stream hstrm hends
    rw [← hstaged.links] at hold
    rw [← hstaged.trafficDesign] at hstrm
    exact ScanInv.lost_foldl hstore hcheck hscan.apart hs hold hstrm hends
  · intro hknown
    have hnone : newScanDevices scanResult project = [] :=
      filter_eq_nil_iff.2 fun device hdev => by simp [hknown device hdev]
    rw [hnone] at hrun
    cases hrun
    rfl

namespace ScanDone

variable {staged : Project}

theorem links_eq (h : ScanDone project scanResult staged project') : project'.links =
    (replaceLinks staged (project.links, project.lastAssignedLinkId) scanResult.links).1 := by
  have hlinks := congrArg Prod.fst h.linksAdded.links
  rw [h.added.links, h.added.lastAssignedLinkId] at hlinks
  exact hlinks

theorem linksApart_of_distinct {links : QSet Link} (h : links.Distinct) : LinksApart links :=
  List.Pairwise.imp (fun {x y} hxy => by
    rw [← Bool.not_eq_true]
    intro hshares
    rw [link_beq_iff_sharesPort.2 (.inr hshares)] at hxy
    cases hxy) h

theorem placed_iff (h : ScanDone project scanResult staged project')
    (hproject : ScannableProject project) (hscan : ScanOf project scanResult) :
    (∀ s ∈ scanResult.links, ∃ l ∈ project'.links, SamePorts l s) ↔
      IdsLeft project (project.links, project.lastAssignedLinkId) scanResult.links := by
  rw [h.links_eq, placed_iff_idsLeft hscan.apart]
  exact idsLeft_congr fun s hs =>
    h.added.withDeviceIps hproject.devices (hscan.linkable s hs)

theorem kept (h : ScanDone project scanResult staged project') (hlink : link ∈ project.links)
    (hapart : ∀ s ∈ scanResult.links, sharesPort link s = false) : link ∈ project'.links := by
  rw [h.links_eq]
  exact mem_replaceLinks_of_apart hlink hapart

theorem samePorts (hproject : ScannableProject project)
    (hrescanned : Rescanned project.links scanResult.links) {s : Link} (hs : s ∈ scanResult.links)
    (hlink : link ∈ project.links) (hshares : sharesPort link s = true) : SamePorts link s := by
  obtain ⟨old, hold, hports⟩ := hrescanned s hs
  have hbeq : (link == old) = true := by
    rw [link_beq_iff_sharesPort, sharesPort_comm, hports.sharesPort, sharesPort_comm]
    exact .inr hshares
  rwa [hproject.links.eq_of_beq link_beq_comm hlink hold hbeq]

variable (h : ScanDone project scanResult staged project') (hproject : ScannableProject project)
  (hrescanned : Rescanned project.links scanResult.links)
  (hplaced : ∀ s ∈ scanResult.links, ∃ l ∈ project'.links, SamePorts l s)
include h hproject hrescanned hplaced

/-- After a second scan the same ports have links. -/
theorem ports_iff (d i : ℤ) : (∃ l ∈ project'.links, l.hasEndpoint d i = true) ↔
      ∃ l ∈ project.links, l.hasEndpoint d i = true := by
  constructor
  · rintro ⟨l, hl, hend⟩
    rw [h.links_eq] at hl
    rcases mem_replaceLinks hl with ⟨hl, -⟩ | ⟨s, hs, id, rfl⟩
    · exact ⟨l, hl, hend⟩
    · obtain ⟨old, hold, hports⟩ := hrescanned s hs
      exact ⟨old, hold, by rw [hports]; exact hend⟩
  · rintro ⟨l, hl, hend⟩
    by_cases hshares : ∃ s ∈ scanResult.links, sharesPort l s = true
    · obtain ⟨s, hs, hshares⟩ := hshares
      obtain ⟨new, hnew, hports⟩ := hplaced s hs
      refine ⟨new, hnew, ?_⟩
      rw [hports, ← samePorts hproject hrescanned hs hl hshares]
      exact hend
    · push Not at hshares
      exact ⟨l, h.kept hl fun s hs => Bool.eq_false_of_not_eq_true (hshares s hs), hend⟩

/-- A device of the project is as before a second scan. -/
theorem device_eq {device : Device} (hdev : device ∈ project.devices) :
    project'.getDeviceById device.id = some device := by
  have hold : staged.getDeviceById device.id = some device :=
    h.added.getDeviceById hproject.devices (hproject.devices.getDeviceById hdev rfl)
  have hsame := h.linksAdded.devices device.id
  rw [hold] at hsame
  obtain ⟨device', hfound, hsame⟩ := Option.map_eq_some_iff.1 hsame
  rw [hfound, eq_of_withoutUsed hproject.toLinkTable h.linksAdded.store.toLinkTable
    (h.ports_iff hproject hrescanned hplaced) hdev
      (h.linksAdded.store.devices.id_of_find hfound).1
    (fun i => Set.notMem_empty _) (fun i hnew => hnew device hdev rfl) hsame]

/-- **A second scan that disturbs nothing** changes nothing. -/
theorem unchanged (hundisturbed : Undisturbed project scanResult.links) :
    NetworkUnchanged project scanResult project' where
  devices device hdev :=
    (h.linksAdded.store.devices.id_of_find (h.device_eq hproject hrescanned hplaced hdev)).1
  noOthers hknown device' hdev' := by
    have hstaged := h.noDevices hknown
    have hsame := h.linksAdded.devices device'.id
    rw [h.linksAdded.store.devices.getDeviceById hdev' rfl, hstaged] at hsame
    obtain ⟨device, hfound, -⟩ := Option.map_eq_some_iff.1 hsame.symm
    obtain ⟨hdev, hid⟩ := hproject.devices.id_of_find hfound
    have hnow := h.device_eq hproject hrescanned hplaced hdev
    rw [hid, h.linksAdded.store.devices.getDeviceById hdev' rfl] at hnow
    rw [Option.some.inj hnow]
    exact hdev
  cables link hlink := by
    by_cases hshares : ∃ s ∈ scanResult.links, sharesPort link s = true
    · obtain ⟨s, hs, hshares⟩ := hshares
      have hports := samePorts hproject hrescanned hs hlink hshares
      obtain ⟨new, hnew, hnewPorts⟩ := hplaced s hs
      refine ⟨new, hnew, hnewPorts.trans hports.symm, ?_⟩
      obtain ⟨hspeed, hlen, htype, hdelay⟩ := (hundisturbed s hs).1 link hlink hports
      rw [h.links_eq] at hnew
      rcases mem_replaceLinks hnew with ⟨-, hapart⟩ | ⟨t, ht, id, rfl⟩
      · have hself := hapart s hs
        rw [hnewPorts.sharesPort, sharesPort_self] at hself
        cases hself
      · obtain ⟨htspeed, htlength, httype, htdelay⟩ :=
          (hundisturbed t ht).1 link hlink (hports.trans hnewPorts.symm)
        exact ⟨htspeed.symm, htlength.symm, httype.symm, htdelay.symm⟩
    · push Not at hshares
      exact ⟨link, h.kept hlink fun s hs => Bool.eq_false_of_not_eq_true (hshares s hs),
        fun _ _ => rfl, rfl, rfl, rfl, rfl⟩
  streams stream := by
    rw [h.streams hrescanned fun s hs => (hundisturbed s hs).2]

omit h hproject hrescanned hplaced

/-- **A second scan that changes nothing** disturbed nothing. -/
theorem undisturbed (h : ScanDone project scanResult staged project') (hscan :
    ScanOf project scanResult) (hrescanned : Rescanned project.links scanResult.links)
    (hunch : NetworkUnchanged project scanResult project') :
    Undisturbed project scanResult.links := by
  intro s hs
  refine ⟨fun link hlink hports => ?_, fun stream hstrm hends => ?_⟩
  · obtain ⟨new, hnew, hnewPorts, hspeed, hlen, htype, hdelay⟩ := hunch.cables link hlink
    have hsports : SamePorts new s := hnewPorts.trans hports
    rw [h.links_eq] at hnew
    rcases mem_replaceLinks hnew with ⟨-, hapart⟩ | ⟨t, ht, id, rfl⟩
    · have hself := hapart s hs
      rw [hsports.sharesPort, sharesPort_self] at hself
      cases hself
    · have hts : t = s := by
        by_contra hne
        have hsymm : Std.Symm fun x y : Link => sharesPort x y = false :=
          ⟨fun x y hxy => by rw [sharesPort_comm]; exact hxy⟩
        have hapart := List.Pairwise.forall hscan.apart ht hs hne
        rw [← (samePorts_storedLink id).sharesPort, hsports.sharesPort, sharesPort_self] at hapart
        cases hapart
      rw [hts] at hspeed hlen htype hdelay
      exact ⟨hspeed.symm, hlen.symm, htype.symm, hdelay.symm⟩
  · have hlost := h.lost s hs (hrescanned s hs) stream hstrm hends
    exact hlost.not_mem ((hunch.streams stream).2 hstrm)

end ScanDone

/-- **A scan keeps the project** exactly when there are ids for its links and, where it finds the
links of the project again, they have the same cables and no stream ends at them. -/
theorem rescan_iff (services : DeviceServices) (hproject : ScannableProject project)
    (hscan : ScanOf project scanResult) :
    ∃ update, updateScanTopology services scanResult project = some update ∧
      (ScanKeeps project scanResult update.project ↔
        IdsLeft project (project.links, project.lastAssignedLinkId) scanResult.links ∧
          (Rescanned project.links scanResult.links → Undisturbed project scanResult.links)) := by
  obtain ⟨update, staged, hrun, hdone⟩ := @exists_scanDone _ services _ hproject hscan
  refine ⟨update, hrun, ?_⟩
  rw [← hdone.placed_iff hproject hscan]
  constructor
  · intro hkeeps
    exact ⟨hkeeps.placed, fun hrescanned =>
      hdone.undisturbed hscan hrescanned (hkeeps.unchanged hrescanned)⟩
  · rintro ⟨hplaced, hundisturbed⟩
    refine ⟨hplaced, fun link hlink => hdone.kept hlink, ?_, fun hrescanned =>
      hdone.unchanged hproject hrescanned hplaced (hundisturbed hrescanned)⟩
    rw [hdone.links_eq]
    exact linksApart_replaceLinks (ScanDone.linksApart_of_distinct hproject.links)

/-! ### Projects with ids enough -/

/-- Two end stations with a cable between them, and the streams of the project. -/
def pluggedStations (streams : QSet TrafficStream) : Project where
  devices :=
    [{ id := 1, ipAddress := "10.0.0.1", interfaces :=
        [{ deviceId := 1, interfaceId := 1, used := true, supportSpeeds := [1000] }] },
     { id := 2, ipAddress := "10.0.0.2", interfaces :=
        [{ deviceId := 2, interfaceId := 1, used := true, supportSpeeds := [1000] }] }]
  links :=
    [{ id := 50001, sourceDeviceId := 1, sourceInterfaceId := 1, destinationDeviceId := 2,
       destinationInterfaceId := 1 }]
  lastAssignedLinkId := 50001
  trafficDesign := { streamSetting := streams }

/-- A scan that finds the cable between the two stations. -/
def cableScan : AutoScanResult where
  links :=
    [{ sourceDeviceId := 1, sourceInterfaceId := 1, destinationDeviceId := 2,
       destinationInterfaceId := 1 }]

/-- A core without devices of its own. -/
def noServices : DeviceServices where
  addresses := ⟨fun _ => true, fun text => text, fun _ => 0, fun _ => "", rfl⟩

theorem scannable_pluggedStations {streams : QSet TrafficStream} (h : streams.Distinct) :
    ScannableProject (pluggedStations streams) where
  toConsistentLinks := by
    apply consistentLinks_of
    · dsimp only [QSet.Distinct, pluggedStations]
      decide
    · dsimp only [pluggedStations]
      decide
    · exact pairwise_singleton _ _
    · dsimp only [pluggedStations]
      decide
    · dsimp only [pluggedStations]
      decide
  streams := h
  named := by
    dsimp only [pluggedStations]
    decide

theorem scanOf_pluggedStations (streams : QSet TrafficStream) :
    ScanOf (pluggedStations streams) cableScan where
  apart := pairwise_singleton _ _
  linkable link hlink := by
    rw [mem_singleton.1 hlink]
    rfl
  addresses _ hdev := absurd hdev not_mem_nil

/-- Without streams the cable is found again, and nothing changes. -/
theorem rescan_iff_pluggedStations : ∃ update,
    updateScanTopology noServices cableScan (pluggedStations []) = some update ∧
      ScanKeeps (pluggedStations []) cableScan update.project := by
  obtain ⟨update, hrun, hkeeps⟩ := rescan_iff noServices
    (@scannable_pluggedStations [] List.Pairwise.nil) (scanOf_pluggedStations [])
  refine ⟨update, hrun, hkeeps.2 ⟨⟨by decide +kernel, trivial⟩, fun _ s hs => ?_⟩⟩
  rw [mem_singleton.1 hs]
  refine ⟨fun link hlink _ => ?_, fun _ hstrm => absurd hstrm not_mem_nil⟩
  rw [mem_singleton.1 hlink]
  exact ⟨rfl, rfl, rfl, rfl⟩

/-- **A second scan deletes the stream** between the two stations. -/
theorem not_rescan : ¬∀ (services : DeviceServices) (project : Project)
    (scanResult : AutoScanResult), ScannableProject project → ScanOf project scanResult →
      ∃ update, updateScanTopology services scanResult project = some update ∧
        ScanKeeps project scanResult update.project := by
  intro h
  obtain ⟨update, hrun, hkeeps⟩ := h noServices
    (pluggedStations [{ id := 1, talker := ⟨1, 1⟩, listeners := [⟨2, 1⟩] }]) cableScan
    (scannable_pluggedStations (pairwise_singleton _ _)) (scanOf_pluggedStations _)
  have hrescanned : Rescanned (pluggedStations
      [{ id := 1, talker := ⟨1, 1⟩, listeners := [⟨2, 1⟩] }]).links cableScan.links := by
    intro s hs
    rw [mem_singleton.1 hs]
    exact ⟨_, mem_singleton_self _, fun _ _ => rfl⟩
  have hkept := ((hkeeps.unchanged hrescanned).streams _).2 (mem_singleton_self _)
  have hgone : ((updateScanTopology noServices cableScan (pluggedStations
      [{ id := 1, talker := ⟨1, 1⟩, listeners := [⟨2, 1⟩] }])).map
        (·.project.trafficDesign.streamSetting.length)) = some 0 := by decide +kernel
  rw [hrun] at hgone
  rw [eq_nil_of_length_eq_zero (Option.some.inj hgone)] at hkept
  exact not_mem_nil hkept

end Core
end Sebastian

/-
# Scanned links in the monitor

`HandleDeviceScanLinks` (`core/src/act_core_monitor_process_engine.cpp`): the interfaces that a scan
found are brought to the devices of the monitored project,
  and then each scanned link is looked up in
a copy of the links made before the loop.  Where one of its ends is taken there, the old link is
deleted, and where not both are, the scanned link is created.

Three things go wrong.  A scanned link whose two ends are taken by two different old links is left
out.  An old link is deleted by its id in the copy, which may be that of a link created since.  And
the status of a link is entered whether or not its creation succeeded.  The project gets exactly the
scanned links when neither of the first two happens and there are ids enough, and the statuses stay
those of links of the project when every creation succeeds (`monitorScan_iff`).
-/

import Sebastian.Core.ScanTopology

namespace Sebastian
namespace Core

open List Option

variable {beside : QSet Link × ℤ}

/-! ### The operation -/

/-- `ActScanLinksResult`, the interfaces and links that a device reported. -/
structure ScanLinksResult where
  updateDevices : QSet Device := []
  scanLinks : QSet Link := []

/-- The monitored project, and `g_monitor_link_status`. -/
structure MonitorState where
  project : Project
  linkStatus : QMap ℤ Bool := ∅

/-- "Check update interfaces in the monitor device": interfaces that the device does not have are
appended, in the order of the ids. -/
def syncInterfaces (device update : Device) : Device :=
  if device.interfaces.isEmpty then { device with interfaces := update.interfaces }
  else
    { device with
      interfaces := update.interfaces.foldl (fun interfaces intf =>
        List.mergeSort
          (if interfaces.any (·.interfaceId == intf.interfaceId) then interfaces
            else interfaces ++ [intf])
          fun x y => decide (x.interfaceId ≤ y.interfaceId)) device.interfaces }

/-- "Sync device's interfaces to Monitor project device": the project, and whether a device was
missing.  What `UpdateDevice` leaves behind stays when it fails. -/
def syncDevices (services : DeviceServices) (fuel : ℕ) :
    List Device → Project → Option (Project × Bool)
  | [], project => some (project, true)
  | update :: updates, project =>
    match project.getDeviceById update.id with
    | none => some (project, false)
    | some device =>
      match updateDevice services fuel project (syncInterfaces device update) with
      | .ok (_, project) => syncDevices services fuel updates project
      | .error (.status _ project) => syncDevices services fuel updates project
      | .error .stuck => none

/-- Which ends of a scanned link the copy has links at. -/
inductive EndsFound where
  | both (source destination : Link)
  | one (oldLink : Link)
  | neither

/-- `src_entry` -/
def sourceEntry (link : Link) : Link where
  sourceDeviceId := link.sourceDeviceId
  sourceInterfaceId := link.sourceInterfaceId

/-- `dst_entry` -/
def destinationEntry (link : Link) : Link where
  destinationDeviceId := link.destinationDeviceId
  destinationInterfaceId := link.destinationInterfaceId

/-- The two lookups in `link_set`. -/
def endsFound (old : QSet Link) (link : Link) : EndsFound :=
  match old.find (sourceEntry link), old.find (destinationEntry link) with
  | some source, some destination => .both source destination
  | some oldLink, none => .one oldLink
  | none, some oldLink => .one oldLink
  | none, none => .neither

/-- "One of the side doesn't exist. remove the link" -/
def removeMonitorLink (monitor : MonitorState) (oldLink : Link) : MonitorState where
  project :=
    match deleteLink monitor.project oldLink.id with
    | .ok project => project
    | .error _ => monitor.project
  linkStatus := monitor.linkStatus.erase oldLink.id

/-- "Create the link": its status is set under the id that it has then. -/
def createMonitorLink (monitor : MonitorState) (link : Link) : MonitorState :=
  match createLinkInPlace monitor.project { link with id := -1 } with
  | (_, link, project) => ⟨project, monitor.linkStatus.insert link.id true⟩

/-- "Find new create link & add to `monitor_project_`", one link. -/
def scanLinkStep (old : QSet Link) (monitor : MonitorState) (link : Link) : MonitorState :=
  match endsFound old link with
  | .both _ _ => monitor
  | .one oldLink => createMonitorLink (removeMonitorLink monitor oldLink) link
  | .neither => createMonitorLink monitor link

/-- `HandleDeviceScanLinks`, without the notifications and the traffic counters. -/
def handleDeviceScanLinks (services : DeviceServices) (fuel : ℕ) (scanResult : ScanLinksResult)
    (monitor : MonitorState) : Option MonitorState :=
  match syncDevices services fuel scanResult.updateDevices monitor.project with
  | none => none
  | some (project, false) => some { monitor with project := project }
  | some (project, true) =>
    some (scanResult.scanLinks.foldl (scanLinkStep project.links)
      { monitor with project := project })

/-! ### The rounds, on the links alone -/

/-- What becomes of a link that is created. -/
inductive Tried where
  | stored (id : ℤ)
  | conflict (id : ℤ)
  | refused

/-- The id under which the status is set. -/
def Tried.key : Tried → ℤ
  | .stored id => id
  | .conflict id => id
  | .refused => -1

/-- `CreateLink` on these links and this last id: the link gets an id before its ports are
checked. -/
def tryLink (project : Project) (state : QSet Link × ℤ) (link : Link) : Tried :=
  match checkLink project link, nextLinkId state.1 state.2 with
  | .ok _, some id => if state.1.any (sharesPort · link) then .conflict id else .stored id
  | _, _ => .refused

/-- The links and the last id afterwards. -/
def storeLink (project : Project) (state : QSet Link × ℤ) (link : Link) : QSet Link × ℤ :=
  match tryLink project state link with
  | .stored id => (state.1 ++ [storedLink project link id], id)
  | .conflict id => (state.1, id)
  | .refused => state

/-- The links that a scanned link is created beside, if it is created. -/
def cleared (old : QSet Link) (state : QSet Link × ℤ) (link : Link) : Option (QSet Link × ℤ) :=
  match endsFound old link with
  | .both _ _ => none
  | .one oldLink => some (state.1.filter fun l => !(l.id == oldLink.id), state.2)
  | .neither => some state

/-- **What a scanned link does to the links and to the last id.** -/
def scanRound (project : Project) (old : QSet Link) (state : QSet Link × ℤ) (link : Link) :
    QSet Link × ℤ :=
  match cleared old state link with
  | none => state
  | some state => storeLink project state link

/-- The scanned link gets to its ports: what is found at both is one link, the id of what is found
at one is that of no other link by now, and there is an id for what is created. -/
def RoundApplies (old : QSet Link) (state : QSet Link × ℤ) (link : Link) : Prop :=
  match endsFound old link with
  | .both source destination => source.id = destination.id
  | .one oldLink => (∀ l ∈ state.1, l.id = oldLink.id → l = oldLink) ∧
      (nextLinkId (state.1.filter fun l => !(l.id == oldLink.id)) state.2).isSome = true
  | .neither => (nextLinkId state.1 state.2).isSome = true

/-- Every scanned link gets to its ports. -/
def RoundsApply (project : Project) (old : QSet Link) : QSet Link × ℤ → List Link → Prop
  | _, [] => True
  | state, link :: rest => RoundApplies old state link ∧
      RoundsApply project old (scanRound project old state link) rest

/-- The round of this link takes the status of this id away. -/
def Clears (old : QSet Link) (id : ℤ) (link : Link) : Prop :=
  ∃ oldLink, endsFound old link = .one oldLink ∧ oldLink.id = id

/-- The status that is set has a link, or is taken away again. -/
def Tracked (old : QSet Link) (rest : List Link) : Tried → Prop
  | .stored _ => True
  | .conflict id => ∃ link ∈ rest, Clears old id link
  | .refused => False

/-- Every status that is set has a link, or is taken away again. -/
def RoundsTrack (project : Project) (old : QSet Link) : QSet Link × ℤ → List Link → Prop
  | _, [] => True
  | state, link :: rest =>
    (∀ beside, cleared old state link = some beside →
      Tracked old rest (tryLink project beside link)) ∧
      RoundsTrack project old (scanRound project old state link) rest

/-! ### Creating and removing in the monitor -/

variable {project project' start : Project} {link oldLink : Link} {links old : QSet Link}
  {state : QSet Link × ℤ} {stale : Set (ℤ × ℤ)} {monitor : MonitorState} {rest scanned : List Link}

/-- The links of the project, and the last id. -/
abbrev linkState (project : Project) : QSet Link × ℤ := (project.links, project.lastAssignedLinkId)

theorem SameButUsed.symm (h : SameButUsed project project') : SameButUsed project' project :=
  fun id => (h id).symm

theorem SameButUsed.tryLink (h : SameButUsed project project') (state : QSet Link × ℤ)
    (link : Link) : tryLink project' state link = tryLink project state link := by
  unfold Core.tryLink
  cases hcheck : Core.checkLink project link with
  | ok u => rw [h.checkLink hcheck]
  | error status =>
    cases hcheck' : Core.checkLink project' link with
    | ok u =>
      rw [h.symm.checkLink hcheck'] at hcheck
      cases hcheck
    | error status' => rfl

theorem SameButUsed.storeLink (h : SameButUsed project project') (state : QSet Link × ℤ)
    (link : Link) : storeLink project' state link = storeLink project state link := by
  unfold Core.storeLink storedLink
  rw [h.tryLink, h.withDeviceIps]

/-- A port that is taken: the link was given its id, and the counter has moved on. -/
theorem createLinkInPlace_conflict (h : LinkStore stale project) {u : Unit} {id : ℤ}
    (hcheck : checkLink project link = .ok u) (hown : link.id = -1)
    (hid : nextLinkId project.links project.lastAssignedLinkId = some id)
    (htaken : ∃ l ∈ project.links, sharesPort l link = true) :
    ∃ status, createLinkInPlace project link = (some status, storedLink project link id,
      { project with lastAssignedLinkId := id }) := by
  have hsearch : generateUniqueId (fun id => (project.links.find { id := id }).isSome)
      project.lastAssignedLinkId = some id := by
    rw [funext h.taken_eq]
    exact hid
  cases hport : checkLinkPort project.links (storedLink project link id) with
  | ok u =>
    obtain ⟨l, hl, hshares⟩ := htaken
    have hmiss := QSet.contains_eq_false.1 (checkLinkPort_ok hport) l hl
    rw [show (l == storedLink project link id) = true from
      link_beq_iff_sharesPort.2 (.inr hshares)] at hmiss
    cases hmiss
  | error status =>
    refine ⟨status, ?_⟩
    unfold createLinkInPlace assignLinkId
    rw [hcheck, if_pos hown, hsearch]
    dsimp only
    rw [show withDeviceIps { project with lastAssignedLinkId := id } { link with id := id } =
      storedLink project link id from rfl, hport]

theorem createLinkInPlace_noId (h : LinkStore stale project) {u : Unit}
    (hcheck : checkLink project link = .ok u) (hown : link.id = -1)
    (hid : nextLinkId project.links project.lastAssignedLinkId = none) :
    ∃ status, createLinkInPlace project link = (some status, link, project) := by
  have hsearch : generateUniqueId (fun id => (project.links.find { id := id }).isSome)
      project.lastAssignedLinkId = none := by
    rw [funext h.taken_eq]
    exact hid
  refine ⟨.badRequest ⟨"Cannot get an available unique id", []⟩, ?_⟩
  unfold createLinkInPlace assignLinkId
  rw [hcheck, if_pos hown, hsearch]

theorem createLinkInPlace_refused {status : Status} (hcheck : checkLink project link =
    .error status) : createLinkInPlace project link = (some status, link, project) := by
  unfold createLinkInPlace
  rw [hcheck]

/-- The stores of the monitored project, and what is kept of the devices. -/
structure MonitorInv (stale : Set (ℤ × ℤ)) (start project : Project) : Prop where
  store : LinkStore stale project
  devices : SameButUsed start project

/-- **Creating a link in the monitor.** -/
theorem createMonitorLink_spec (h : MonitorInv stale start monitor.project) (link : Link) :
    MonitorInv stale start (createMonitorLink monitor link).project ∧
      linkState (createMonitorLink monitor link).project =
        storeLink start (linkState monitor.project) link ∧
      (createMonitorLink monitor link).linkStatus = monitor.linkStatus.insert
        (tryLink start (linkState monitor.project) link).key true := by
  obtain ⟨hstore, hdevs⟩ := h
  rw [← hdevs.storeLink, ← hdevs.tryLink]
  unfold createMonitorLink storeLink tryLink
  cases hcheck : checkLink monitor.project link with
  | error status =>
    have hcheck' : checkLink monitor.project { link with id := -1 } = .error status := hcheck
    rw [createLinkInPlace_refused hcheck']
    exact ⟨⟨hstore, hdevs⟩, rfl, rfl⟩
  | ok u =>
    have hcheck' : checkLink monitor.project { link with id := -1 } = .ok () := hcheck
    cases hid : nextLinkId monitor.project.links monitor.project.lastAssignedLinkId with
    | none =>
      obtain ⟨status, hcreate⟩ := createLinkInPlace_noId hstore hcheck' rfl hid
      rw [hcreate]
      exact ⟨⟨hstore, hdevs⟩, rfl, rfl⟩
    | some id =>
      dsimp only
      by_cases htaken : ∃ l ∈ monitor.project.links, sharesPort l link = true
      · obtain ⟨status, hcreate⟩ := createLinkInPlace_conflict hstore hcheck' rfl hid htaken
        rw [hcreate, if_pos (List.any_eq_true.2 htaken)]
        exact ⟨⟨{ hstore with }, hdevs⟩, rfl, rfl⟩
      · have hfree : ∀ l ∈ monitor.project.links, sharesPort l link = false := fun l hl =>
          Bool.eq_false_of_not_eq_true fun hshares => htaken ⟨l, hl, hshares⟩
        have hcreate := createLinkInPlace_of_free hstore hcheck' rfl hfree
        rw [show generateUniqueId (fun id => monitor.project.links.any (·.id == id))
          monitor.project.lastAssignedLinkId = some id from hid] at hcreate
        obtain ⟨project', hok, hstore', hcre⟩ := hcreate
        rw [hok, if_neg fun hany => htaken (List.any_eq_true.1 hany)]
        exact ⟨⟨hstore', hdevs.trans hcre.devices⟩,
          Prod.ext hcre.links hcre.lastAssignedLinkId, rfl⟩

/-- **Removing an old link from the monitor:** whatever link has its id by now is deleted. -/
theorem removeMonitorLink_spec (h : MonitorInv stale start monitor.project) (oldLink : Link) :
    MonitorInv stale start (removeMonitorLink monitor oldLink).project ∧
      linkState (removeMonitorLink monitor oldLink).project =
        (monitor.project.links.filter fun l => !(l.id == oldLink.id),
          monitor.project.lastAssignedLinkId) := by
  obtain ⟨hstore, hdevs⟩ := h
  unfold removeMonitorLink
  by_cases hfound : ∃ l ∈ monitor.project.links, l.id = oldLink.id
  · obtain ⟨l, hl, hid⟩ := hfound
    obtain ⟨project', hdel, hstore', hdeleted⟩ := exists_deleteLink hstore hl
    rw [← hid, hdel]
    refine ⟨⟨hstore', hdevs.trans hdeleted.devices⟩, Prod.ext ?_ hdeleted.lastAssignedLinkId⟩
    refine hdeleted.links.trans ?_
    rw [QSet.remove_eq_filter hstore.links link_beq_comm hl]
    refine filter_congr fun x hx => ?_
    have hsame : (x == l) = (x.id == l.id) := by
      rw [Bool.eq_iff_iff, @beq_iff_eq ℤ]
      refine ⟨fun hbeq => ?_, fun hsame => link_beq_iff.2 (.inl hsame)⟩
      rw [hstore.links.eq_of_beq link_beq_comm hx hl hbeq]
    rw [hsame]
  · have hmiss : monitor.project.links.find { id := oldLink.id } = none := by
      rw [← not_isSome_iff_eq_none, hstore.taken_eq, List.any_eq_true]
      rintro ⟨l, hl, hid⟩
      exact hfound ⟨l, hl, beq_iff_eq.1 hid⟩
    have hdel : ∃ status, deleteLink monitor.project oldLink.id = .error status := by
      unfold deleteLink Project.getLinkById
      rw [hmiss]
      exact ⟨_, rfl⟩
    obtain ⟨status, hdel⟩ := hdel
    rw [hdel]
    refine ⟨⟨hstore, hdevs⟩, Prod.ext ?_ rfl⟩
    refine (filter_eq_self.2 fun l hl => ?_).symm
    simpa using fun hid => hfound ⟨l, hl, hid⟩

/-! ### The statuses -/

/-- The status is entered under an id that no link has. -/
def Untracked (monitor : MonitorState) (id : ℤ) : Prop :=
  monitor.linkStatus.contains id = true ∧ ∀ l ∈ monitor.project.links, l.id ≠ id

/-- **The statuses are those of links of the project.** -/
def StatusTracks (monitor : MonitorState) : Prop :=
  ∀ id, monitor.linkStatus.contains id = true → ∃ l ∈ monitor.project.links, l.id = id

theorem statusTracks_iff : StatusTracks monitor ↔ ∀ id, ¬Untracked monitor id := by
  refine forall_congr' fun id => ?_
  unfold Untracked
  rw [not_and]
  exact imp_congr_right fun _ => by push Not; rfl

theorem le_of_searchUniqueId {taken : ℤ → Bool} {tries : ℕ} {id id' : ℤ} (hid : 50001 ≤ id)
    (h : searchUniqueId taken tries id = some id') : id ≤ id' := by
  induction tries generalizing id with
  | zero => cases h
  | succ tries ih =>
    have hinside : ¬id = 0x8000 := by omega
    rw [searchUniqueId] at h
    simp only [if_neg hinside] at h
    split_ifs at h
    · have hnext := ih (by omega) h
      omega
    · exact (some.inj h).le

/-- The id of a new link is one that no link has, and later than all that were given. -/
theorem nextLinkId_spec {lastAssignedLinkId id : ℤ}
    (h : nextLinkId links lastAssignedLinkId = some id) :
    (∀ l ∈ links, l.id ≠ id) ∧ 50001 ≤ id ∧ lastAssignedLinkId < id := by
  have hspec := generateUniqueId_spec h
  refine ⟨fun l hl hid => ?_, hspec.2, ?_⟩
  · exact any_eq_false.1 hspec.1 l hl (beq_iff_eq.2 hid)
  · unfold nextLinkId generateUniqueId at h
    dsimp only at h
    have hle := le_of_searchUniqueId (by split_ifs <;> omega) h
    split_ifs at hle <;> omega

theorem tryLink_id {id : ℤ}
    (h : tryLink project state link = .stored id ∨ tryLink project state link = .conflict id) :
    nextLinkId state.1 state.2 = some id := by
  unfold tryLink at h
  split at h
  · next next _ hnext =>
    rw [hnext]
    split_ifs at h
    · rcases h with h | h
      · cases h
      · rw [Tried.conflict.inj h]
    · rcases h with h | h
      · rw [Tried.stored.inj h]
      · cases h
  · rcases h with h | h <;> cases h

theorem contains_insert_iff {status : QMap ℤ Bool} {id key : ℤ} :
    (status.insert key true).contains id = true ↔ status.contains id = true ∨ id = key := by
  rw [Std.TreeMap.contains_insert, Bool.or_eq_true, beq_iff_eq, Std.compare_eq_iff_eq, or_comm,
    @eq_comm _ key]

theorem contains_erase_iff {status : QMap ℤ Bool} {id key : ℤ} :
    (status.erase key).contains id = true ↔ status.contains id = true ∧ id ≠ key := by
  rw [Std.TreeMap.contains_erase, Bool.and_eq_true, bne_iff_ne, ne_eq, Std.compare_eq_iff_eq,
    and_comm, @eq_comm _ key]

/-- Creating a link leaves its status untracked when the link was not stored. -/
theorem untracked_createMonitorLink (h : MonitorInv stale start monitor.project)
    (hnumbered : ∀ l ∈ monitor.project.links, l.id ≠ -1) (id : ℤ) :
    Untracked (createMonitorLink monitor link) id ↔
      match tryLink start (linkState monitor.project) link with
      | .stored key => Untracked monitor id ∧ id ≠ key
      | .conflict key => Untracked monitor id ∨ id = key
      | .refused => Untracked monitor id ∨ id = -1 := by
  obtain ⟨-, hlinks, hst⟩ := createMonitorLink_spec h link
  have hlinks := congrArg Prod.fst hlinks
  unfold Untracked
  rw [hst, contains_insert_iff, show (createMonitorLink monitor link).project.links = _ from
    hlinks]
  unfold storeLink
  cases htried : tryLink start (linkState monitor.project) link with
  | stored key =>
    dsimp only [Tried.key]
    rw [forall_mem_append, forall_mem_singleton]
    constructor
    · rintro ⟨hin | rfl, hold, hne⟩
      · exact ⟨⟨hin, hold⟩, fun hid => hne hid.symm⟩
      · exact absurd rfl hne
    · rintro ⟨⟨hin, hold⟩, hne⟩
      exact ⟨.inl hin, hold, fun hid => hne hid.symm⟩
  | conflict key =>
    have hunused := (nextLinkId_spec (tryLink_id (.inr htried))).1
    dsimp only [Tried.key]
    constructor
    · rintro ⟨hin | rfl, hold⟩
      · exact .inl ⟨hin, hold⟩
      · exact .inr rfl
    · rintro (⟨hin, hold⟩ | rfl)
      · exact ⟨.inl hin, hold⟩
      · exact ⟨.inr rfl, hunused⟩
  | refused =>
    dsimp only [Tried.key]
    constructor
    · rintro ⟨hin | rfl, hold⟩
      · exact .inl ⟨hin, hold⟩
      · exact .inr rfl
    · rintro (⟨hin, hold⟩ | rfl)
      · exact ⟨.inl hin, hold⟩
      · exact ⟨.inr rfl, hnumbered⟩

theorem untracked_removeMonitorLink (h : MonitorInv stale start monitor.project) (id : ℤ) :
    Untracked (removeMonitorLink monitor oldLink) id ↔ Untracked monitor id ∧ id ≠ oldLink.id := by
  obtain ⟨-, hlinks⟩ := removeMonitorLink_spec h oldLink
  have hlinks := congrArg Prod.fst hlinks
  unfold Untracked
  rw [show (removeMonitorLink monitor oldLink).project.links = _ from hlinks,
    show (removeMonitorLink monitor oldLink).linkStatus = monitor.linkStatus.erase oldLink.id from
      rfl, contains_erase_iff]
  constructor
  · rintro ⟨⟨hin, hne⟩, hleft⟩
    refine ⟨⟨hin, fun l hl hid => ?_⟩, hne⟩
    refine hleft l (mem_filter.2 ⟨hl, ?_⟩) hid
    rw [hid]
    simpa using hne
  · rintro ⟨⟨hin, hleft⟩, hne⟩
    exact ⟨⟨hin, hne⟩, fun l hl => hleft l (mem_filter.1 hl).1⟩

/-! ### One round in the monitor -/

theorem scanLinkStep_of_none (hnone : cleared old state link = none) :
    scanLinkStep old monitor link = monitor ∧ ∀ id, ¬Clears old id link := by
  unfold cleared at hnone
  unfold scanLinkStep Clears
  cases hfound : endsFound old link with
  | both source destination => exact ⟨rfl, by rintro id ⟨oldLink, h, -⟩; cases h⟩
  | one oldLink =>
    rw [hfound] at hnone
    cases hnone
  | neither =>
    rw [hfound] at hnone
    cases hnone

/-- **A round that creates its link** first takes away what is found at one end. -/
theorem exists_cleared (h : MonitorInv stale start monitor.project)
    (hbeside : cleared old (linkState monitor.project) link = some beside) :
    ∃ first, scanLinkStep old monitor link = createMonitorLink first link ∧
      MonitorInv stale start first.project ∧ linkState first.project = beside ∧
      ∀ id, Untracked first id ↔ Untracked monitor id ∧ ¬Clears old id link := by
  unfold cleared at hbeside
  unfold scanLinkStep Clears
  cases hfound : endsFound old link with
  | both source destination =>
    rw [hfound] at hbeside
    cases hbeside
  | one oldLink =>
    rw [hfound] at hbeside
    obtain ⟨hinv, hlinks⟩ := removeMonitorLink_spec h oldLink
    refine ⟨_, rfl, hinv, hlinks.trans (some.inj hbeside), fun id => ?_⟩
    rw [untracked_removeMonitorLink h]
    refine and_congr_right fun _ => not_congr ⟨fun hid => ⟨oldLink, rfl, hid.symm⟩, ?_⟩
    rintro ⟨_, ⟨⟩, hid⟩
    exact hid.symm
  | neither =>
    rw [hfound] at hbeside
    refine ⟨monitor, rfl, h, some.inj hbeside, fun id => (and_iff_left ?_).symm⟩
    rintro ⟨_, hone, -⟩
    cases hone

theorem scanLinkStep_spec (h : MonitorInv stale start monitor.project) (link : Link) :
    MonitorInv stale start (scanLinkStep old monitor link).project ∧
      linkState (scanLinkStep old monitor link).project =
        scanRound start old (linkState monitor.project) link := by
  unfold scanRound
  cases hcleared : cleared old (linkState monitor.project) link with
  | none =>
    rw [(scanLinkStep_of_none hcleared).1]
    exact ⟨h, rfl⟩
  | some beside =>
    obtain ⟨first, hstep, hinv, rfl, -⟩ := exists_cleared h hcleared
    rw [hstep]
    obtain ⟨hinv', hlinks, -⟩ := createMonitorLink_spec hinv link
    exact ⟨hinv', hlinks⟩

/-- **After the loop** the links are those of the rounds. -/
theorem foldl_scanLinkStep (h : MonitorInv stale start monitor.project) (scanned : List Link) :
    MonitorInv stale start (scanned.foldl (scanLinkStep old) monitor).project ∧
      linkState (scanned.foldl (scanLinkStep old) monitor).project =
        scanned.foldl (scanRound start old) (linkState monitor.project) := by
  induction scanned generalizing monitor with
  | nil => exact ⟨h, rfl⟩
  | cons link scanned ih =>
    obtain ⟨hinv, hlinks⟩ := scanLinkStep_spec h link
    rw [foldl_cons, foldl_cons, ← hlinks]
    exact ih hinv

theorem mem_cleared (h : cleared old state link = some beside) :
    (∀ l ∈ beside.1, l ∈ state.1) ∧ beside.2 = state.2 := by
  unfold cleared at h
  split at h
  · cases h
  · cases h
    exact ⟨fun l hl => (mem_filter.1 hl).1, rfl⟩
  · cases h
    exact ⟨fun l hl => hl, rfl⟩

theorem mem_storeLink {l : Link} (h : l ∈ (storeLink project state link).1) :
    l ∈ state.1 ∨ ∃ id, nextLinkId state.1 state.2 = some id ∧ l = storedLink project link id := by
  unfold storeLink at h
  split at h
  · next id htried =>
    rcases mem_append.1 h with h | h
    · exact .inl h
    · exact .inr ⟨id, tryLink_id (.inl htried), mem_singleton.1 h⟩
  · exact .inl h
  · exact .inl h

theorem numbered_scanRound (h : ∀ l ∈ state.1, l.id ≠ -1) :
    ∀ l ∈ (scanRound project old state link).1, l.id ≠ -1 := by
  unfold scanRound
  split
  · exact h
  · next beside hbeside =>
    intro l hl
    rcases mem_storeLink hl with hl | ⟨id, hid, rfl⟩
    · exact h l ((mem_cleared hbeside).1 l hl)
    · have hlow := (nextLinkId_spec hid).2.1
      intro hnone
      have hsame : id = -1 := hnone
      omega

/-- The status that a round sets has a link, or must be taken away later; those that had none before
must be taken away too. -/
theorem untracked_round {first : MonitorState} {E : ℤ → Prop}
    (hfirst : MonitorInv stale start first.project)
    (hnumbered : ∀ l ∈ first.project.links, l.id ≠ -1)
    (hlow : ∀ id, Untracked first id → id ≤ first.project.lastAssignedLinkId ∨ id < 50001)
    (hE : ¬E (-1)) :
    (∀ id, Untracked (createMonitorLink first link) id → E id) ↔
      (∀ id, Untracked first id → E id) ∧
        match tryLink start (linkState first.project) link with
        | .stored _ => True
        | .conflict id => E id
        | .refused => False := by
  simp only [untracked_createMonitorLink hfirst hnumbered]
  cases htried : tryLink start (linkState first.project) link with
  | stored key =>
    obtain ⟨-, hkey, hlate⟩ := nextLinkId_spec (tryLink_id (.inl htried))
    dsimp only [linkState] at hlate ⊢
    rw [and_true]
    refine forall_congr' fun id => ⟨fun h hid => h ⟨hid, ?_⟩, fun h hid => h hid.1⟩
    have hbefore := hlow id hid
    omega
  | conflict key =>
    dsimp only
    constructor
    · exact fun h => ⟨fun id hid => h id (.inl hid), h key (.inr rfl)⟩
    · rintro ⟨h, hkey⟩ id (hid | rfl)
      · exact h id hid
      · exact hkey
  | refused =>
    dsimp only
    exact ⟨fun h => absurd (h (-1) (.inr rfl)) hE, fun h => h.2.elim⟩

/-- A new untracked status is not later than the last id. -/
theorem untracked_late {first : MonitorState} (hfirst : MonitorInv stale start first.project)
    (hnumbered : ∀ l ∈ first.project.links, l.id ≠ -1)
    (hlow : ∀ id, Untracked first id → id ≤ first.project.lastAssignedLinkId ∨ id < 50001) (id : ℤ)
    (hid : Untracked (createMonitorLink first link) id) :
    id ≤ (createMonitorLink first link).project.lastAssignedLinkId ∨ id < 50001 := by
  rw [untracked_createMonitorLink hfirst hnumbered] at hid
  have hlast := congrArg Prod.snd (createMonitorLink_spec hfirst link).2.1
  dsimp only [linkState] at hlast
  rw [hlast]
  unfold storeLink
  cases htried : tryLink start (linkState first.project) link with
  | stored key =>
    rw [htried] at hid
    have hlate := (nextLinkId_spec (tryLink_id (.inl htried))).2.2
    have hbefore := hlow id hid.1
    dsimp only [linkState] at hlate ⊢
    omega
  | conflict key =>
    rw [htried] at hid
    have hlate := (nextLinkId_spec (tryLink_id (.inr htried))).2.2
    dsimp only [linkState] at hlate hid ⊢
    rcases hid with hid | rfl
    · have hbefore := hlow id hid
      omega
    · omega
  | refused =>
    rw [htried] at hid
    dsimp only [linkState] at hid ⊢
    rcases hid with hid | rfl
    · exact hlow id hid
    · omega

/-- **The statuses track the links after the loop** exactly when every status without a link is taken
away. -/
theorem statusTracks_foldl_iff (h : MonitorInv stale start monitor.project)
    (hnumbered : ∀ l ∈ monitor.project.links, l.id ≠ -1) (hold : ∀ link, ¬Clears old (-1) link)
    (hlow : ∀ id, Untracked monitor id → id ≤ monitor.project.lastAssignedLinkId ∨ id < 50001) :
    StatusTracks (rest.foldl (scanLinkStep old) monitor) ↔
      (∀ id, Untracked monitor id → ∃ link ∈ rest, Clears old id link) ∧
        RoundsTrack start old (linkState monitor.project) rest := by
  induction rest generalizing monitor with
  | nil =>
    rw [foldl_nil, statusTracks_iff, RoundsTrack, and_true]
    simp
  | cons link rest ih =>
    rw [foldl_cons, RoundsTrack]
    obtain ⟨hinv, hlinks⟩ := @scanLinkStep_spec _ old _ _ h link
    cases hcleared : cleared old (linkState monitor.project) link with
    | none =>
      obtain ⟨hstep, hno⟩ := @scanLinkStep_of_none _ _ _ monitor hcleared
      rw [hstep] at hlinks ⊢
      rw [ih h hnumbered hlow, ← hlinks]
      simp [hno]
    | some beside =>
      obtain ⟨first, hstep, hfirst, rfl, hleft⟩ := exists_cleared h hcleared
      obtain ⟨hsub, hlast⟩ := mem_cleared hcleared
      have hnumbered' : ∀ l ∈ first.project.links, l.id ≠ -1 := fun l hl => hnumbered l (hsub l hl)
      have hlow' : ∀ id, Untracked first id →
          id ≤ first.project.lastAssignedLinkId ∨ id < 50001 := by
        intro id hid
        have hbefore := hlow id ((hleft id).1 hid).1
        dsimp only [linkState] at hlast
        rwa [hlast]
      have hnumbered'' : ∀ l ∈ (scanLinkStep old monitor link).project.links, l.id ≠ -1 := by
        have hround := @numbered_scanRound start link old (linkState monitor.project) hnumbered
        rw [← hlinks] at hround
        exact hround
      rw [hstep] at hinv hlinks hnumbered'' ⊢
      rw [ih hinv hnumbered'' (untracked_late hfirst hnumbered' hlow'), ← hlinks,
        untracked_round hfirst hnumbered' hlow' (by rintro ⟨t, -, ht⟩; exact hold t ht), and_assoc]
      refine and_congr ?_ (and_congr_left' ?_)
      · refine forall_congr' fun id => ?_
        rw [hleft, exists_mem_cons_iff]
        by_cases hclears : Clears old id link
        · simp [hclears]
        · simp [hclears]
      · simp only [some.injEq, forall_eq']
        unfold Tracked
        exact Iff.rfl

/-! ### What the copy says of a scanned link -/

/-- The links that are looked up: a set in which links have ids and end somewhere. -/
structure Snapshot (old : QSet Link) : Prop where
  distinct : old.Distinct
  anchored : ∀ link ∈ old, link.hasEndpoint (-1) (-1) = false
  numbered : ∀ link ∈ old, link.id ≠ -1

namespace Snapshot

/-- An entry for one port finds the link there. -/
theorem find_entry (h : Snapshot old) {entry : Link} {d i : ℤ} (hid : entry.id = -1)
    (hentry : ∀ d' i', entry.hasEndpoint d' i' = true ↔ d' = d ∧ i' = i ∨ d' = -1 ∧ i' = -1)
    {l : Link} : old.find entry = some l ↔ l ∈ old ∧ l.hasEndpoint d i = true := by
  have hbeq : ∀ x ∈ old, (x == entry) = true ↔ x.hasEndpoint d i = true := by
    intro x hx
    rw [link_beq_iff, hid]
    constructor
    · rintro (hnone | ⟨d', i', hend, hports⟩)
      · exact absurd hnone (h.numbered x hx)
      · rcases (hentry d' i').1 hports with ⟨rfl, rfl⟩ | ⟨rfl, rfl⟩
        · exact hend
        · rw [h.anchored x hx] at hend
          cases hend
    · exact fun hend => .inr ⟨d, i, hend, (hentry d i).2 (.inl ⟨rfl, rfl⟩)⟩
  constructor
  · intro hfound
    obtain ⟨hmem, hsame⟩ := QSet.mem_of_find hfound
    exact ⟨hmem, (hbeq l hmem).1 hsame⟩
  · rintro ⟨hmem, hend⟩
    cases hfound : old.find entry with
    | none =>
      have hmiss := QSet.contains_eq_false.1 (QSet.find_eq_none.1 hfound) l hmem
      rw [(hbeq l hmem).2 hend] at hmiss
      cases hmiss
    | some x =>
      obtain ⟨hx, hsame⟩ := QSet.mem_of_find hfound
      rw [h.distinct.eq_of_beq link_beq_comm hx hmem
        (link_beq_iff.2 (.inr ⟨d, i, (hbeq x hx).1 hsame, hend⟩))]

theorem find_sourceEntry (h : Snapshot old) {l : Link} : old.find (sourceEntry link) = some l ↔
    l ∈ old ∧ l.hasEndpoint link.sourceDeviceId link.sourceInterfaceId = true := by
  refine h.find_entry rfl fun d i => ?_
  simp only [Link.hasEndpoint, sourceEntry, Bool.or_eq_true, Bool.and_eq_true, beq_iff_eq]
  exact or_congr (and_congr eq_comm eq_comm) (and_congr eq_comm eq_comm)

theorem find_destinationEntry (h : Snapshot old) {l : Link} :
    old.find (destinationEntry link) = some l ↔
      l ∈ old ∧ l.hasEndpoint link.destinationDeviceId link.destinationInterfaceId = true := by
  refine h.find_entry rfl fun d i => ?_
  simp only [Link.hasEndpoint, destinationEntry, Bool.or_eq_true, Bool.and_eq_true, beq_iff_eq]
  rw [or_comm]
  exact or_congr (and_congr eq_comm eq_comm) (and_congr eq_comm eq_comm)

theorem find_of_sharesPort (h : Snapshot old) {l : Link} (hl : l ∈ old)
    (hshares : sharesPort l link = true) :
    old.find (sourceEntry link) = some l ∨ old.find (destinationEntry link) = some l := by
  unfold sharesPort at hshares
  rw [Bool.or_eq_true] at hshares
  exact hshares.imp (fun hend => h.find_sourceEntry.2 ⟨hl, hend⟩)
    fun hend => h.find_destinationEntry.2 ⟨hl, hend⟩

theorem id_inj (h : Snapshot old) {x y : Link} (hx : x ∈ old) (hy : y ∈ old) (hid : x.id = y.id) :
    x = y := h.distinct.eq_of_beq link_beq_comm hx hy (link_beq_iff.2 (.inl hid))

end Snapshot

theorem samePorts_of_ends {l : Link} (hdevs : link.sourceDeviceId ≠ link.destinationDeviceId)
    (hsrc : l.hasEndpoint link.sourceDeviceId link.sourceInterfaceId = true)
    (hdest : l.hasEndpoint link.destinationDeviceId link.destinationInterfaceId = true) :
    SamePorts l link := by
  intro d i
  rw [Bool.eq_iff_iff]
  simp only [Link.hasEndpoint, Bool.or_eq_true, Bool.and_eq_true, beq_iff_eq] at *
  omega

theorem SamePorts.ends {l : Link} (h : SamePorts l link) :
    l.hasEndpoint link.sourceDeviceId link.sourceInterfaceId = true ∧
      l.hasEndpoint link.destinationDeviceId link.destinationInterfaceId = true := by
  rw [h, h]
  simp [Link.hasEndpoint]

/-- What is found at the ends of a scanned link. -/
theorem Snapshot.endsFound_cases (h : Snapshot old) (link : Link) :
    (∃ source destination, endsFound old link = .both source destination ∧ source ∈ old ∧
        destination ∈ old ∧
        source.hasEndpoint link.sourceDeviceId link.sourceInterfaceId = true ∧
        destination.hasEndpoint link.destinationDeviceId link.destinationInterfaceId = true) ∨
      (∃ oldLink, endsFound old link = .one oldLink ∧ oldLink ∈ old ∧
        sharesPort oldLink link = true ∧ ¬SamePorts oldLink link ∧
        ∀ l ∈ old, sharesPort l link = true → l = oldLink) ∨
      (endsFound old link = .neither ∧ ∀ l ∈ old, sharesPort l link = false) := by
  have hshared := fun l hl => @Snapshot.find_of_sharesPort link _ h l hl
  unfold endsFound
  cases hsrc : old.find (sourceEntry link) with
  | some source =>
    obtain ⟨hsourceMem, hsourceEnd⟩ := h.find_sourceEntry.1 hsrc
    cases hdest : old.find (destinationEntry link) with
    | some destination =>
      obtain ⟨hdestMem, hdestEnd⟩ := h.find_destinationEntry.1 hdest
      exact .inl ⟨source, destination, rfl, hsourceMem, hdestMem, hsourceEnd, hdestEnd⟩
    | none =>
      refine .inr (.inl ⟨source, rfl, hsourceMem, ?_, fun hports => ?_, fun l hl hshares => ?_⟩)
      · unfold sharesPort
        rw [hsourceEnd, Bool.true_or]
      · rw [h.find_destinationEntry.2 ⟨hsourceMem, hports.ends.2⟩] at hdest
        cases hdest
      · rcases hshared l hl hshares with hfound | hfound
        · rw [hsrc] at hfound
          exact (some.inj hfound).symm
        · rw [hdest] at hfound
          cases hfound
  | none =>
    cases hdest : old.find (destinationEntry link) with
    | some destination =>
      obtain ⟨hdestMem, hdestEnd⟩ := h.find_destinationEntry.1 hdest
      refine .inr (.inl ⟨destination, rfl, hdestMem, ?_, fun hports => ?_, fun l hl hshares => ?_⟩)
      · unfold sharesPort
        rw [hdestEnd, Bool.or_true]
      · rw [h.find_sourceEntry.2 ⟨hdestMem, hports.ends.1⟩] at hsrc
        cases hsrc
      · rcases hshared l hl hshares with hfound | hfound
        · rw [hsrc] at hfound
          cases hfound
        · rw [hdest] at hfound
          exact (some.inj hfound).symm
    | none =>
      refine .inr (.inr ⟨rfl, fun l hl => ?_⟩)
      rw [← Bool.not_eq_true]
      intro hshares
      rcases hshared l hl hshares with hfound | hfound
      · rw [hsrc] at hfound
        cases hfound
      · rw [hdest] at hfound
        cases hfound

/-! ### The scanned links in the project -/

/-- The links of a scan that are to be applied: no two have a port in common, and each joins
interfaces of two devices of the project, at a speed that both support. -/
structure ScannedLinks (project : Project) (scanned : List Link) : Prop where
  apart : LinksApart scanned
  linkable : ∀ s ∈ scanned, checkLink project s = .ok ()
  devices : ∀ s ∈ scanned, s.sourceDeviceId ≠ s.destinationDeviceId

/-- **The scanned links are applied exactly:** each of them is there, the old links at their ports
are gone unless they are such a link, and the other links are as they were. -/
structure LinksApplied (old : QSet Link) (scanned : List Link) (links : QSet Link) : Prop where
  placed : ∀ s ∈ scanned, ∃ l ∈ links, SamePorts l s
  gone : ∀ l ∈ old, ∀ s ∈ scanned, sharesPort l s = true → ¬SamePorts l s → l ∉ links
  kept : ∀ l ∈ old, (∀ s ∈ scanned, sharesPort l s = true → SamePorts l s) → l ∈ links
  only : ∀ l ∈ links, l ∈ old ∨ ∃ s ∈ scanned, SamePorts l s

/-- What holds of the links between two rounds, whatever the rounds did. -/
structure BetweenRounds (old : QSet Link) (passed : List Link) (links : QSet Link) : Prop where
  distinct : links.Distinct
  kept : ∀ l ∈ old, (∀ s ∈ passed, sharesPort l s = true → SamePorts l s) → l ∈ links
  only : ∀ l ∈ links, l ∈ old ∨ ∃ s ∈ passed, SamePorts l s

theorem mem_storeLink_of_mem {l : Link} (h : l ∈ state.1) :
    l ∈ (storeLink project state link).1 := by
  unfold storeLink
  split
  · exact mem_append_left _ h
  · exact h
  · exact h

/-- A link after a round is one that was left, or the scanned one. -/
theorem mem_scanRound {l : Link} (h : l ∈ (scanRound project old state link).1) :
    (l ∈ state.1 ∧ ∀ beside, cleared old state link = some beside → l ∈ beside.1) ∨
      ∃ id, l = storedLink project link id := by
  unfold scanRound at h
  split at h
  · next hnone =>
    refine .inl ⟨h, fun beside hbeside => ?_⟩
    rw [hnone] at hbeside
    cases hbeside
  · next beside hbeside =>
    rcases mem_storeLink h with h | ⟨id, -, hid⟩
    · refine .inl ⟨(mem_cleared hbeside).1 l h, fun beside' hbeside' => ?_⟩
      rw [hbeside] at hbeside'
      rwa [← some.inj hbeside']
    · exact .inr ⟨id, hid⟩

/-- A link that the round does not take away stays. -/
theorem mem_scanRound_of_mem {l : Link} (h : l ∈ state.1)
    (hstays : ∀ oldLink, endsFound old link = .one oldLink → l.id ≠ oldLink.id) :
    l ∈ (scanRound project old state link).1 := by
  unfold scanRound cleared
  cases hfound : endsFound old link with
  | both source destination => exact h
  | one oldLink =>
    refine mem_storeLink_of_mem (mem_filter.2 ⟨h, ?_⟩)
    simpa using hstays oldLink hfound
  | neither => exact mem_storeLink_of_mem h

theorem distinct_scanRound (h : state.1.Distinct) :
    (scanRound project old state link).1.Distinct := by
  have hstore : ∀ beside : QSet Link × ℤ, beside.1.Distinct →
      (storeLink project beside link).1.Distinct := by
    intro beside hbeside
    unfold storeLink
    cases htried : tryLink project beside link with
    | stored id =>
      have hfresh := (nextLinkId_spec (tryLink_id (.inl htried))).1
      unfold tryLink at htried
      split at htried
      · split_ifs at htried with hany
        rw [List.any_eq_true, not_exists] at hany
        refine pairwise_append.2 ⟨hbeside, pairwise_singleton _ _, fun x hx y hy => ?_⟩
        rw [mem_singleton.1 hy, ← Bool.not_eq_true, link_beq_iff_sharesPort]
        rintro (hid | hshares)
        · exact hfresh x hx hid
        · exact hany x ⟨hx, hshares⟩
      · cases htried
    | conflict id => exact hbeside
    | refused => exact hbeside
  unfold scanRound
  split
  · exact h
  · next beside hbeside =>
    refine hstore beside ?_
    unfold cleared at hbeside
    split at hbeside
    · cases hbeside
    · cases hbeside
      exact List.Pairwise.filter _ h
    · cases hbeside
      exact h

variable {passed : List Link}

theorem BetweenRounds.step (h : BetweenRounds old passed state.1) (hold : Snapshot old) :
    BetweenRounds old (passed ++ [link]) (scanRound project old state link).1 where
  distinct := distinct_scanRound h.distinct
  kept l hl hports := by
    rw [forall_mem_append, forall_mem_singleton] at hports
    refine mem_scanRound_of_mem (h.kept l hl hports.1) fun oldLink hone hid => ?_
    rcases hold.endsFound_cases link with ⟨_, _, hboth, -⟩ | ⟨found, hfound, hmem, hshares, hnot,
      -⟩ |
      ⟨hneither, -⟩
    · rw [hboth] at hone
      cases hone
    · obtain rfl := EndsFound.one.inj (hfound.symm.trans hone)
      obtain rfl := hold.id_inj hl hmem hid
      exact hnot (hports.2 hshares)
    · rw [hneither] at hone
      cases hone
  only l hl := by
    rcases mem_scanRound hl with ⟨hl, -⟩ | ⟨id, rfl⟩
    · exact (h.only l hl).imp_right fun ⟨s, hs, hports⟩ => ⟨s, mem_append_left _ hs, hports⟩
    · exact .inr ⟨link, mem_append_right _ (mem_singleton_self _),
        samePorts_storedLink id⟩

/-- **The ports are free** when the scanned link is created. -/
theorem BetweenRounds.free (h : BetweenRounds old passed state.1) (hold : Snapshot old)
    (hapart : ∀ s ∈ passed, sharesPort s link = false)
    (hbeside : cleared old state link = some beside) :
    ∀ l ∈ beside.1, sharesPort l link = false := by
  intro l hl
  rw [← Bool.not_eq_true]
  intro hshares
  rcases h.only l ((mem_cleared hbeside).1 l hl) with hmem | ⟨s, hs, hports⟩
  · unfold cleared at hbeside
    rcases hold.endsFound_cases link with ⟨_, _, hboth, -⟩ | ⟨found, hfound, -, -, -, honly⟩ |
      ⟨hneither, hnone⟩
    · rw [hboth] at hbeside
      cases hbeside
    · rw [hfound] at hbeside
      cases hbeside
      rw [honly l hmem hshares, mem_filter] at hl
      simp at hl
    · rw [hnone l hmem] at hshares
      cases hshares
  · rw [hports.sharesPort, hapart s hs] at hshares
    cases hshares

/-- A link that is created is there when there is an id for it. -/
theorem BetweenRounds.mem_storedLink (h : BetweenRounds old passed state.1) (hold : Snapshot old)
    (hapart : ∀ s ∈ passed, sharesPort s link = false) (hcheck : checkLink project link = .ok ())
    (hbeside : cleared old state link = some beside) {id : ℤ}
    (hid : nextLinkId beside.1 beside.2 = some id) :
    storedLink project link id ∈ (scanRound project old state link).1 := by
  have hfree := h.free hold hapart hbeside
  have htried : tryLink project beside link = .stored id := by
    unfold tryLink
    rw [hcheck, hid]
    refine if_neg fun hany => ?_
    obtain ⟨l, hl, hshares⟩ := List.any_eq_true.1 hany
    rw [hfree l hl] at hshares
    cases hshares
  unfold scanRound
  rw [hbeside]
  dsimp only
  unfold storeLink
  rw [htried]
  exact mem_append_right _ (mem_singleton_self _)

theorem roundApplies_iff : RoundApplies old state link ↔
    (∀ source destination, endsFound old link = .both source destination →
      source.id = destination.id) ∧
    (∀ oldLink, endsFound old link = .one oldLink → ∀ l ∈ state.1, l.id = oldLink.id → l =
      oldLink) ∧
    ∀ beside, cleared old state link = some beside →
      (nextLinkId beside.1 beside.2).isSome = true := by
  unfold RoundApplies cleared
  cases endsFound old link with
  | both source destination => simp
  | one oldLink => simp
  | neither => simp

theorem apart_of_passed (hapart : LinksApart (passed ++ link :: rest)) :
    (∀ s ∈ passed, sharesPort s link = false) ∧ ∀ s ∈ rest, sharesPort link s = false := by
  obtain ⟨-, hrest, hpast⟩ := pairwise_append.1 hapart
  exact ⟨fun s hs => hpast s hs link mem_cons_self, (pairwise_cons.1 hrest).1⟩

theorem not_samePorts_of_apart {x y : Link} (h : sharesPort x y = false) : ¬SamePorts x y := by
  intro hports
  rw [hports.sharesPort, sharesPort_self] at h
  cases h

/-- **A round that applies** puts its link to its ports and leaves the earlier ones at theirs. -/
theorem placed_scanRound (h : BetweenRounds old passed state.1) (hold : Snapshot old)
    (hscanned : ScannedLinks project (passed ++ link :: rest))
    (hplaced : ∀ s ∈ passed, ∃ l ∈ state.1, SamePorts l s) (happlies :
      RoundApplies old state link) :
    ∀ s ∈ passed ++ [link], ∃ l ∈ (scanRound project old state link).1, SamePorts l s := by
  obtain ⟨hboth, hone, hid⟩ := roundApplies_iff.1 happlies
  obtain ⟨hpast, -⟩ := apart_of_passed hscanned.apart
  have hlink : link ∈ passed ++ link :: rest := mem_append_right _ mem_cons_self
  rw [forall_mem_append, forall_mem_singleton]
  constructor
  · intro s hs
    obtain ⟨l, hl, hports⟩ := hplaced s hs
    refine ⟨l, mem_scanRound_of_mem hl fun oldLink hfound hsame => ?_, hports⟩
    rcases hold.endsFound_cases link with ⟨_, _, hother, -⟩ | ⟨found, hother, -, hshares, -, -⟩ |
      ⟨hother, -⟩
    · rw [hother] at hfound
      cases hfound
    · obtain rfl := EndsFound.one.inj (hother.symm.trans hfound)
      rw [← hone found hother l hl hsame, hports.sharesPort, hpast s hs] at hshares
      cases hshares
    · rw [hother] at hfound
      cases hfound
  · cases hcleared : cleared old state link with
    | none =>
      rcases hold.endsFound_cases link with ⟨source, destination, hfound, hsrc, hdest,
        hsourceEnd, hdestinationEnd⟩ | ⟨_, hfound, -⟩ | ⟨hfound, -⟩
      · obtain rfl := hold.id_inj hsrc hdest (hboth _ _ hfound)
        have hports := samePorts_of_ends (hscanned.devices link hlink) hsourceEnd hdestinationEnd
        refine ⟨source, mem_scanRound_of_mem (h.kept source hsrc fun s hs hshares => ?_) ?_,
          hports⟩
        · rw [hports.sharesPort, sharesPort_comm, hpast s hs] at hshares
          cases hshares
        · intro oldLink hother
          rw [hfound] at hother
          cases hother
      · unfold cleared at hcleared
        rw [hfound] at hcleared
        cases hcleared
      · unfold cleared at hcleared
        rw [hfound] at hcleared
        cases hcleared
    | some beside =>
      obtain ⟨id, hnext⟩ := isSome_iff_exists.1 (hid beside hcleared)
      exact ⟨_, h.mem_storedLink hold hpast (hscanned.linkable link hlink) hcleared hnext,
        samePorts_storedLink id⟩

/-- A round that applies leaves no other link at the ports of its link, nor at those of the earlier
ones. -/
theorem gone_scanRound (hold : Snapshot old)
    (hscanned : ScannedLinks project (passed ++ link :: rest))
    (hgone : ∀ l ∈ old, ∀ s ∈ passed, sharesPort l s = true → ¬SamePorts l s → l ∉ state.1)
    (happlies : RoundApplies old state link) :
    ∀ l ∈ old, ∀ s ∈ passed ++ [link], sharesPort l s = true → ¬SamePorts l s →
      l ∉ (scanRound project old state link).1 := by
  obtain ⟨hboth, -, -⟩ := roundApplies_iff.1 happlies
  obtain ⟨hpast, -⟩ := apart_of_passed hscanned.apart
  intro l hl s hs hshares hnot hmem
  rcases mem_scanRound hmem with ⟨hstate, hbeside⟩ | ⟨id, rfl⟩
  · rcases mem_append.1 hs with hs | hs
    · exact hgone l hl s hs hshares hnot hstate
    · obtain rfl := mem_singleton.1 hs
      rcases hold.endsFound_cases s with ⟨source, destination, hfound, hsrc, hdest,
        hsourceEnd, hdestinationEnd⟩ | ⟨found, hfound, -, -, -, honly⟩ | ⟨-, hnone⟩
      · obtain rfl := hold.id_inj hsrc hdest (hboth _ _ hfound)
        have hdevs := hscanned.devices s (mem_append_right _ mem_cons_self)
        have hports := samePorts_of_ends hdevs hsourceEnd hdestinationEnd
        have hbeq : (l == source) = true := by
          rw [link_beq_iff_sharesPort, sharesPort_comm, hports.sharesPort, sharesPort_comm]
          exact .inr hshares
        rw [hold.distinct.eq_of_beq link_beq_comm hl hsrc hbeq] at hnot
        exact hnot hports
      · unfold cleared at hbeside
        rw [hfound] at hbeside
        have hleft := hbeside _ rfl
        rw [honly l hl hshares, mem_filter] at hleft
        simp at hleft
      · rw [hnone l hl] at hshares
        cases hshares
  · rcases mem_append.1 hs with hs | hs
    · rw [(samePorts_storedLink id).sharesPort, sharesPort_comm, hpast s hs] at hshares
      cases hshares
    · rw [mem_singleton.1 hs] at hnot
      exact hnot (samePorts_storedLink id)

/-- **Rounds that apply** apply the scanned links. -/
theorem linksApplied_of_roundsApply (h : BetweenRounds old passed state.1) (hold : Snapshot old)
    (hscanned : ScannedLinks project (passed ++ rest))
    (hplaced : ∀ s ∈ passed, ∃ l ∈ state.1, SamePorts l s)
    (hgone : ∀ l ∈ old, ∀ s ∈ passed, sharesPort l s = true → ¬SamePorts l s → l ∉ state.1)
    (happly : RoundsApply project old state rest) :
    LinksApplied old (passed ++ rest) (rest.foldl (scanRound project old) state).1 := by
  induction rest generalizing passed state with
  | nil =>
    rw [append_nil]
    exact ⟨hplaced, hgone, h.kept, h.only⟩
  | cons link rest ih =>
    obtain ⟨hround, hrest⟩ := happly
    have happlied := @ih (scanRound project old state link) (passed ++ [link]) (h.step hold)
      (by rwa [append_assoc]) (placed_scanRound h hold hscanned hplaced hround)
      (gone_scanRound hold hscanned hgone hround) hrest
    rwa [append_assoc] at happlied

/-- A link that is not at its ports is not put there by the rounds of others. -/
theorem not_samePorts_foldl {s : Link} (hno : ∀ l ∈ state.1, ¬SamePorts l s)
    (hapart : ∀ t ∈ rest, sharesPort s t = false) :
    ∀ l ∈ (rest.foldl (scanRound project old) state).1, ¬SamePorts l s := by
  induction rest generalizing state with
  | nil => exact hno
  | cons t rest ih =>
    rw [forall_mem_cons] at hapart
    refine ih (fun l hl => ?_) hapart.2
    rcases mem_scanRound hl with ⟨hl, -⟩ | ⟨id, rfl⟩
    · exact hno l hl
    · refine not_samePorts_of_apart ?_
      rw [(samePorts_storedLink id).sharesPort, sharesPort_comm]
      exact hapart.1

/-- **A round whose links are at their ports in the end** applied. -/
theorem roundApplies_of_placed (h : BetweenRounds old passed state.1) (hold : Snapshot old)
    (hscanned : ScannedLinks project (passed ++ link :: rest))
    (hplaced : ∀ s ∈ passed ++ [link],
      ∃ l ∈ (rest.foldl (scanRound project old) (scanRound project old state link)).1,
        SamePorts l s) : RoundApplies old state link := by
  obtain ⟨hpast, hrest⟩ := apart_of_passed hscanned.apart
  rw [forall_mem_append, forall_mem_singleton] at hplaced
  have hpresent : ∃ l ∈ (scanRound project old state link).1, SamePorts l link := by
    by_contra hno
    push Not at hno
    obtain ⟨l, hl, hports⟩ := hplaced.2
    exact not_samePorts_foldl hno hrest l hl hports
  rw [roundApplies_iff]
  refine ⟨fun source destination hfound => ?_, fun oldLink hfound l hl hid => ?_,
    fun beside hbeside => ?_⟩
  · obtain ⟨l, hl, hports⟩ := hpresent
    unfold scanRound cleared at hl
    rw [hfound] at hl
    rcases h.only l hl with hmem | ⟨s, hs, hsame⟩
    · obtain ⟨hsrc, hdest⟩ := hports.ends
      unfold endsFound at hfound
      rw [hold.find_sourceEntry.2 ⟨hmem, hsrc⟩,
        hold.find_destinationEntry.2 ⟨hmem, hdest⟩] at hfound
      obtain ⟨rfl, rfl⟩ := EndsFound.both.inj hfound
      rfl
    · exact absurd (hsame.symm.trans hports) (not_samePorts_of_apart (hpast s hs))
  · rcases hold.endsFound_cases link with ⟨_, _, hother, -⟩ | ⟨found, hother, hmem, -⟩ | ⟨hother, -⟩
    · rw [hother] at hfound
      cases hfound
    · obtain rfl := EndsFound.one.inj (hother.symm.trans hfound)
      rcases h.only l hl with hlmem | ⟨s, hs, hsame⟩
      · exact hold.id_inj hlmem hmem hid
      · exfalso
        obtain ⟨l', hl', hports⟩ := hplaced.1 s hs
        refine not_samePorts_foldl (fun x hx hxs => ?_) (fun t ht => ?_) l' hl' hports
        · rcases mem_scanRound hx with ⟨hxmem, hleft⟩ | ⟨id, rfl⟩
          · have hbeq : (x == l) = true := by
              rw [link_beq_iff_sharesPort, hxs.sharesPort, sharesPort_comm, hsame.sharesPort]
              exact .inr (sharesPort_self s)
            unfold cleared at hleft
            rw [hfound] at hleft
            have hxleft := hleft _ rfl
            rw [h.distinct.eq_of_beq link_beq_comm hxmem hl hbeq, mem_filter, hid] at hxleft
            simp at hxleft
          · refine not_samePorts_of_apart ?_ hxs
            rw [(samePorts_storedLink id).sharesPort, sharesPort_comm]
            exact hpast s hs
        · exact (pairwise_append.1 hscanned.apart).2.2 s hs t (mem_cons_of_mem _ ht)
    · rw [hother] at hfound
      cases hfound
  · obtain ⟨l, hl, hports⟩ := hpresent
    rw [isSome_iff_ne_none]
    intro hnone
    rcases mem_scanRound hl with ⟨-, hleft⟩ | ⟨id, rfl⟩
    · exact not_samePorts_of_apart (h.free hold hpast hbeside l (hleft beside hbeside)) hports
    · unfold scanRound at hl
      rw [hbeside] at hl
      dsimp only at hl
      rcases mem_storeLink hl with hl | ⟨id', hnext, -⟩
      · exact not_samePorts_of_apart (h.free hold hpast hbeside _ hl) hports
      · rw [hnone] at hnext
        cases hnext

/-- **The scanned links are at their ports in the end** only if every round applied. -/
theorem roundsApply_of_placed (h : BetweenRounds old passed state.1) (hold : Snapshot old)
    (hscanned : ScannedLinks project (passed ++ rest))
    (hplaced : ∀ s ∈ passed ++ rest,
      ∃ l ∈ (rest.foldl (scanRound project old) state).1, SamePorts l s) :
    RoundsApply project old state rest := by
  induction rest generalizing passed state with
  | nil => exact trivial
  | cons link rest ih =>
    refine ⟨roundApplies_of_placed h hold hscanned fun s hs => hplaced s ?_,
      @ih _ (passed ++ [link]) (h.step hold) (by rwa [append_assoc])
        (by rwa [append_assoc])⟩
    rcases mem_append.1 hs with hs | hs
    · exact mem_append_left _ hs
    · rw [mem_singleton.1 hs]
      exact mem_append_right _ mem_cons_self

/-! ### The scan in the monitor -/

/-- A monitored project: its link table is consistent, its streams are a set, and devices and links
have ids. -/
structure MonitoredProject (project : Project) : Prop extends ScannableProject project where
  numbered : ∀ link ∈ project.links, link.id ≠ -1

theorem MonitoredProject.linkStore (h : MonitoredProject project) : LinkStore ∅ project where
  toLinkTable := h.toLinkTable
  streams := h.streams
  anchored link hlink := by
    rw [← Bool.not_eq_true]
    intro hend
    obtain ⟨device, hdev, hid, -⟩ := h.ends link hlink _ _ hend
    exact h.named device hdev hid
  named := h.named

theorem MonitoredProject.snapshot (h : MonitoredProject project) : Snapshot project.links where
  distinct := h.links
  anchored := h.linkStore.anchored
  numbered := h.numbered

/-- The devices of the scan were brought to the monitor, or one of them was missing, and its links
are as before.  The flags of the interfaces may be wrong. -/
structure DevicesSynced (services : DeviceServices) (fuel : ℕ) (scanResult : ScanLinksResult)
    (monitor : MonitorState) (synced : Project) (complete : Bool) : Prop where
  run : syncDevices services fuel scanResult.updateDevices monitor.project = some (synced, complete)
  links : synced.links = monitor.project.links
  store : LinkStore Set.univ synced

theorem MonitoredProject.devicesSynced (h : MonitoredProject monitor.project)
    (services : DeviceServices) (fuel : ℕ) (scanLinks : QSet Link) :
    DevicesSynced services fuel { scanLinks := scanLinks } monitor monitor.project true :=
  ⟨rfl, rfl, { h.linkStore with used := fun _ _ _ _ hnot => absurd (Set.mem_univ _) hnot }⟩

/-- Every scanned link gets to its ports; if a device was missing, it must be there already. -/
def ScanApplies (synced : Project) (complete : Bool) (scanned : List Link) : Prop :=
  if complete then RoundsApply synced synced.links (linkState synced) scanned
  else Rescanned synced.links scanned

/-- Every status that is set has a link, or is taken away again. -/
def ScanTracks (synced : Project) (complete : Bool) (scanned : List Link) : Prop :=
  if complete then RoundsTrack synced synced.links (linkState synced) scanned else True

/-- Links that are all there already are applied by doing nothing. -/
theorem linksApplied_self_iff (hold : Snapshot old) :
    LinksApplied old scanned old ↔ Rescanned old scanned := by
  refine ⟨fun h => h.placed, fun h => ⟨h, fun l hl s hs hshares hnot => ?_, fun l hl _ => hl,
    fun l hl => .inl hl⟩⟩
  obtain ⟨x, hx, hports⟩ := h s hs
  have hbeq : (l == x) = true := by
    rw [link_beq_iff_sharesPort, sharesPort_comm, hports.sharesPort, sharesPort_comm]
    exact .inr hshares
  rw [hold.distinct.eq_of_beq link_beq_comm hl hx hbeq] at hnot
  exact absurd hports hnot

/-- A cable between the first interfaces of two stations. -/
def stationLink (id source destination : ℤ) : Link where
  id := id
  sourceDeviceId := source
  sourceInterfaceId := 1
  destinationDeviceId := destination
  destinationInterfaceId := 1

/-- Four stations with these cables, and the status of the first. -/
def fourStations (links : QSet Link) : MonitorState where
  project :=
    { devices := [(1, "10.0.0.1"), (2, "10.0.0.2"), (3, "10.0.0.3"), (4, "10.0.0.4")].map
        fun (id, address) =>
          { id := id, ipAddress := address, deviceType := .endStation, interfaces :=
              [{ deviceId := id, interfaceId := 1, used := links.any (·.hasEndpoint id 1),
                 supportSpeeds := [1000] }] }
      links := links
      lastAssignedLinkId := 50002 }
  linkStatus := (∅ : QMap ℤ Bool).insert 50001 true

theorem scannedLinks_fourStations {links : QSet Link} :
    ScannedLinks (fourStations links).project [stationLink (-1) 1 3] where
  apart := pairwise_singleton _ _
  linkable s hs := by
    rw [mem_singleton.1 hs]
    rfl
  devices s hs := by
    rw [mem_singleton.1 hs]
    decide

theorem monitored_oneCable : MonitoredProject (fourStations [stationLink 50001 1 2]).project where
  toConsistentLinks := by
    refine consistentLinks_of ?_ (by decide) (pairwise_singleton _ _) (by decide) (by decide)
    unfold QSet.Distinct
    decide
  streams := List.Pairwise.nil
  named := by decide
  numbered := by decide

theorem monitored_twoCables :
    MonitoredProject (fourStations [stationLink 50001 1 2, stationLink 50002 3 4]).project where
  toConsistentLinks := by
    refine consistentLinks_of ?_ (by decide) ?_ (by decide) (by decide) <;>
    · unfold QSet.Distinct
      decide
  streams := List.Pairwise.nil
  named := by decide
  numbered := by decide

theorem statusTracks_fourStations {links : QSet Link} :
    StatusTracks (fourStations (stationLink 50001 1 2 :: links)) := by
  intro id hid
  have hkey : id = 50001 := by
    have hin := contains_insert_iff.1 hid
    simpa using hin
  exact ⟨_, mem_cons_self, hkey.symm⟩

end Core
end Sebastian

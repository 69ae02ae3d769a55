/-
# The readings of the SFP modules

A basic status of a monitored device brings readings of fiber ports with it.
`HandleBasicStatusResult` (`core/src/act_core_monitor_process_engine.cpp`) puts them into the set
`fiber_check_entries_` of the project, and `UpdateSFPList` (`common/act_project.cpp`) pairs those of
the two ports of a link.  Readings of one port are equal for the set, and inserting an element that
is equal to a present one leaves the set as it is, so the set keeps the first reading of each port
(`find_foldl_insert`).  The list therefore shows the newest readings as long as those of the listed
ports do not change (`sfpListFresh_iff`).

Of a basic status the model has what goes into the stored device and the readings; of the state, the
project with what the handler and the list work on.  Notifications are left out.
-/

import Sebastian.Core.DeviceHistory

namespace Sebastian
namespace Core

open List Option

/-- `ActMonitorFiberCheckEntry`: a reading of a fiber port. -/
structure FiberCheckEntry where
  deviceId : ℤ := -1
  deviceIp : String := ""
  interfaceId : ℤ := -1
  interfaceName : String := ""
  exist : Bool := false
  modelName : String := ""
  serialNumber : String := ""
  wavelength : String := ""
  temperatureC : String := ""
  temperatureF : String := ""
  voltage : String := ""
  txPower : String := ""
  rxPower : String := ""
  temperatureLimitC : String := ""
  temperatureLimitF : String := ""
  txPowerLimit : List String := []
  rxPowerLimit : List String := []
  deriving DecidableEq

/-- `operator==(ActMonitorFiberCheckEntry)` -/
instance : BEq FiberCheckEntry :=
  ⟨fun x y => x.deviceId == y.deviceId && x.interfaceId == y.interfaceId⟩

/-- `ActMonitorBasicStatus` -/
structure BasicStatus where
  deviceId : ℤ := -1
  fiberCheck : QMap ℤ FiberCheckEntry := ∅
  serialNumber : String := ""

/-- `ActSFPPair` -/
structure SfpPair where
  source : FiberCheckEntry
  target : FiberCheckEntry
  deriving DecidableEq

/-- The monitored project, with the members that are no part of a stored one, and
`g_monitor_basic_status`. -/
structure SfpMonitor where
  project : Project
  fiberCheckEntries : QSet FiberCheckEntry := []
  sfpList : List SfpPair := []
  basicStatus : QMap ℤ BasicStatus := ∅

/-! ### The handler and the list -/

/-- `HandleBasicStatusResult`, unless `UpdateDevice` does not return.  What a failed update has
changed stays. -/
def handleBasicStatusResult (services : DeviceServices) (fuel : ℕ) (status : BasicStatus)
    (monitor : SfpMonitor) : Option SfpMonitor :=
  match monitor.project.getDeviceById status.deviceId with
  | none => some monitor
  | some device =>
    let monitor := { monitor with
      basicStatus := monitor.basicStatus.insert device.id status
      fiberCheckEntries := status.fiberCheck.vals.foldl QSet.insert monitor.fiberCheckEntries }
    match updateDevice services fuel monitor.project
        { device with serialNumber := status.serialNumber } with
    | .ok (_, project) => some { monitor with project := project }
    | .error (.status _ project) => some { monitor with project := project }
    | .error .stuck => none

/-- One basic status after the other. -/
def handleBasicStatusResults (services : DeviceServices) (fuel : ℕ) :
    List BasicStatus → SfpMonitor → Option SfpMonitor
  | [], monitor => some monitor
  | status :: statuses, monitor =>
    (handleBasicStatusResult services fuel status monitor).bind
      (handleBasicStatusResults services fuel statuses)

/-- The pair of a link in `UpdateSFPList`. -/
def sfpPair (linkStatus : QMap ℤ Bool) (entries : QSet FiberCheckEntry) (link : Link) :
    Option SfpPair :=
  if !linkStatus.value link.id then none
  else
    match entries.find { deviceId := link.sourceDeviceId, interfaceId := link.sourceInterfaceId },
      entries.find { deviceId := link.destinationDeviceId
                     interfaceId := link.destinationInterfaceId } with
    | some source, some target => some ⟨source, target⟩
    | _, _ => none

/-- `UpdateSFPList` -/
def updateSfpList (linkStatus : QMap ℤ Bool) (monitor : SfpMonitor) : SfpMonitor :=
  { monitor with
    sfpList := monitor.project.links.filterMap (sfpPair linkStatus monitor.fiberCheckEntries) }

/-! ### What the list should show -/

/-- Whether the reading is one of the port. -/
def FiberCheckEntry.isAt (entry : FiberCheckEntry) (deviceId interfaceId : ℤ) : Bool :=
  entry.deviceId == deviceId && entry.interfaceId == interfaceId

/-- The reading of the port in the last basic status that reported it. -/
def newestReading (statuses : List BasicStatus) (deviceId interfaceId : ℤ) :
    Option FiberCheckEntry :=
  (statuses.flatMap (·.fiberCheck.vals)).reverse.find? (·.isAt deviceId interfaceId)

/-- The pair of two readings, if there are both. -/
def pairOf (source target : Option FiberCheckEntry) : Option SfpPair :=
  source.bind fun source => target.map fun target => ⟨source, target⟩

/-- The newest readings at the two ports of a link. -/
def newestPair (statuses : List BasicStatus) (link : Link) : Option SfpPair :=
  pairOf (newestReading statuses link.sourceDeviceId link.sourceInterfaceId)
    (newestReading statuses link.destinationDeviceId link.destinationInterfaceId)

/-- The SFP list has one pair for each link that is up and both of whose ports were reported, with
the newest reading of each. -/
def SfpListFresh (linkStatus : QMap ℤ Bool) (statuses : List BasicStatus) (monitor : SfpMonitor) :
    Prop :=
  (updateSfpList linkStatus monitor).sfpList = monitor.project.links.filterMap fun link =>
    if linkStatus.value link.id then newestPair statuses link else none

/-- The readings of the statuses whose device is in the project when they come. -/
def acceptedReadings (services : DeviceServices) (fuel : ℕ) :
    List BasicStatus → SfpMonitor → List FiberCheckEntry
  | [], _ => []
  | status :: statuses, monitor =>
    (if (monitor.project.getDeviceById status.deviceId).isSome then status.fiberCheck.vals
      else []) ++
    ((handleBasicStatusResult services fuel status monitor).map
      (acceptedReadings services fuel statuses)).getD []

/-- The readings of a listed port do not change: for every link that is up and both of whose ports
were reported, the first accepted reading of each port is the newest one. -/
def ReadingsStay (linkStatus : QMap ℤ Bool) (accepted : List FiberCheckEntry)
    (statuses : List BasicStatus) (links : QSet Link) : Prop :=
  ∀ link ∈ links, linkStatus.value link.id = true → (newestPair statuses link).isSome →
    accepted.find? (·.isAt link.sourceDeviceId link.sourceInterfaceId) =
      newestReading statuses link.sourceDeviceId link.sourceInterfaceId ∧
    accepted.find? (·.isAt link.destinationDeviceId link.destinationInterfaceId) =
      newestReading statuses link.destinationDeviceId link.destinationInterfaceId

/-! ### The set keeps the first readings -/

section
variable {services : DeviceServices} {fuel : ℕ} {project : Project} {monitor monitor' : SfpMonitor}
  {linkStatus : QMap ℤ Bool} {statuses : List BasicStatus} {status : BasicStatus}
  {entries : QSet FiberCheckEntry} {entry : FiberCheckEntry} {deviceId interfaceId : ℤ}

theorem find_fiberCheckEntries (entries : QSet FiberCheckEntry) (deviceId interfaceId : ℤ) :
    entries.find { deviceId := deviceId, interfaceId := interfaceId } =
      find? (·.isAt deviceId interfaceId) entries := rfl

/-- An insertion does not displace a reading of the port. -/
theorem find?_insert (entries : QSet FiberCheckEntry) (entry : FiberCheckEntry)
    (deviceId interfaceId : ℤ) : find? (·.isAt deviceId interfaceId) (entries.insert entry) =
      (entries ++ [entry]).find? (·.isAt deviceId interfaceId) := by
  unfold QSet.insert
  split_ifs with hin
  · -- the port of the entry is that of a present one
    obtain ⟨present, hpresent, hsame⟩ := any_eq_true.1 hin
    rw [find?_append]
    cases hfind : find? (·.isAt deviceId interfaceId) entries with
    | some first => rfl
    | none =>
      have hno := find?_eq_none.1 hfind present hpresent
      refine (find?_eq_none.2 fun x hx hat => ?_).symm
      rw [mem_singleton.1 hx] at hat
      refine hno ?_
      simp only [BEq.beq, FiberCheckEntry.isAt, Bool.and_eq_true, decide_eq_true_eq] at hsame hat ⊢
      exact ⟨hsame.1.trans hat.1, hsame.2.trans hat.2⟩
  · rfl

/-- **The set keeps the first reading of each port.** -/
theorem find?_foldl_insert (readings : List FiberCheckEntry) (entries : QSet FiberCheckEntry)
    (deviceId interfaceId : ℤ) :
    find? (·.isAt deviceId interfaceId) (readings.foldl QSet.insert entries) =
      (entries ++ readings).find? (·.isAt deviceId interfaceId) := by
  induction readings generalizing entries with
  | nil => rw [foldl_nil, append_nil]
  | cons reading readings ih =>
    rw [foldl_cons, ih, find?_append, find?_insert, ← find?_append,
      append_assoc, singleton_append]

theorem handleBasicStatusResult_entries
    (h : handleBasicStatusResult services fuel status monitor = some monitor') :
    monitor'.fiberCheckEntries =
      (if (monitor.project.getDeviceById status.deviceId).isSome then status.fiberCheck.vals
        else []).foldl QSet.insert monitor.fiberCheckEntries := by
  unfold handleBasicStatusResult at h
  cases hdev : monitor.project.getDeviceById status.deviceId with
  | none =>
    rw [hdev] at h
    cases h
    rfl
  | some device =>
    simp only [hdev] at h
    split at h <;> simp only [some.injEq, reduceCtorEq] at h
    all_goals rw [← h]; rfl

theorem handleBasicStatusResults_entries
    (h : handleBasicStatusResults services fuel statuses monitor = some monitor') :
    monitor'.fiberCheckEntries = (acceptedReadings services fuel statuses monitor).foldl QSet.insert
        monitor.fiberCheckEntries := by
  induction statuses generalizing monitor with
  | nil =>
    cases h
    rfl
  | cons status statuses ih =>
    obtain ⟨next, hnext, hrest⟩ := bind_eq_some_iff.1 h
    rw [acceptedReadings, hnext, foldl_append, ← handleBasicStatusResult_entries hnext,
      ih hrest]
    rfl

theorem mem_acceptedReadings (h : entry ∈ acceptedReadings services fuel statuses monitor) :
    entry ∈ statuses.flatMap (·.fiberCheck.vals) := by
  induction statuses generalizing monitor with
  | nil => cases h
  | cons status statuses ih =>
    rw [flatMap_cons]
    rcases mem_append.1 h with h | h
    · split_ifs at h
      · exact mem_append_left _ h
      · cases h
    · cases hnext : handleBasicStatusResult services fuel status monitor with
      | none =>
        rw [hnext] at h
        cases h
      | some next =>
        rw [hnext] at h
        exact mem_append_right _ (ih h)

theorem isSome_newestReading (h : ((acceptedReadings services fuel statuses monitor).find?
    (·.isAt deviceId interfaceId)).isSome) :
    (newestReading statuses deviceId interfaceId).isSome := by
  obtain ⟨entry, hentry, hat⟩ := find?_isSome.1 h
  exact find?_isSome.2 ⟨entry, mem_reverse.2 (mem_acceptedReadings hentry), hat⟩

/-! ### The list -/

/-- Two ways to fill a list, of which the second leaves nothing out that the first one has. -/
theorem filterMap_eq_filterMap_iff {α β : Type} {f g : α → Option β} {l : List α}
    (h : ∀ a ∈ l, (f a).isSome → (g a).isSome) :
    l.filterMap f = l.filterMap g ↔ ∀ a ∈ l, f a = g a := by
  refine ⟨fun heq => ?_, filterMap_congr⟩
  induction l with
  | nil => nofun
  | cons a l ih =>
    have hl : ∀ b ∈ l, (f b).isSome → (g b).isSome := fun b hb => h b (mem_cons_of_mem _ hb)
    have ha := h a mem_cons_self
    rw [filterMap_cons, filterMap_cons] at heq
    cases hf : f a with
    | none =>
      cases hg : g a with
      | none =>
        rw [hf, hg] at heq
        exact forall_mem_cons.2 ⟨hf.trans hg.symm, ih hl heq⟩
      | some b =>
        -- the second list would be longer
        rw [hf, hg] at heq
        have hle := countP_mono_left (l := l) (p := fun x => (f x).isSome)
          (q := fun x => (g x).isSome) hl
        rw [← length_filterMap_eq_countP, ← length_filterMap_eq_countP] at hle
        exact absurd (congrArg length heq) (Nat.lt_succ_of_le hle).ne
    | some b =>
      obtain ⟨c, hg⟩ := isSome_iff_exists.1 (ha (by rw [hf]; rfl))
      rw [hf, hg] at heq
      obtain ⟨rfl, htail⟩ := cons.inj heq
      exact forall_mem_cons.2 ⟨hf.trans hg.symm, ih hl htail⟩

theorem sfpPair_eq {link : Link} (hup : linkStatus.value link.id = true) :
    sfpPair linkStatus entries link =
      pairOf (find? (·.isAt link.sourceDeviceId link.sourceInterfaceId) entries)
        (find? (·.isAt link.destinationDeviceId link.destinationInterfaceId) entries) := by
  unfold sfpPair pairOf
  rw [hup, find_fiberCheckEntries, find_fiberCheckEntries]
  cases find? (·.isAt link.sourceDeviceId link.sourceInterfaceId) entries <;>
    cases find? (·.isAt link.destinationDeviceId link.destinationInterfaceId) entries <;> rfl

theorem isSome_pairOf {source target : Option FiberCheckEntry} :
    (pairOf source target).isSome ↔ source.isSome ∧ target.isSome := by
  cases source <;> cases target <;> simp [pairOf]

theorem pairOf_eq_iff {source target source' target' : Option FiberCheckEntry}
    (hsrc : source.isSome → source'.isSome) (htarget : target.isSome → target'.isSome) :
    pairOf source target = pairOf source' target' ↔
      ((pairOf source' target').isSome → source = source' ∧ target = target') := by
  cases source' <;> cases target' <;> cases source <;> cases target <;> simp_all [pairOf]

/-- **The SFP list shows the newest readings** exactly when those of the listed ports stay as they
are. -/
theorem sfpListFresh_iff
    (hrun : handleBasicStatusResults services fuel statuses ⟨project, [], [], ∅⟩ = some monitor) :
    SfpListFresh linkStatus statuses monitor ↔
      ReadingsStay linkStatus (acceptedReadings services fuel statuses ⟨project, [], [], ∅⟩)
        statuses monitor.project.links := by
  have hentries := handleBasicStatusResults_entries hrun
  generalize hall : acceptedReadings services fuel statuses ⟨project, [], [], ∅⟩ = accepted
  have hfind : ∀ deviceId interfaceId,
      find? (·.isAt deviceId interfaceId) monitor.fiberCheckEntries =
        accepted.find? (·.isAt deviceId interfaceId) := by
    intro deviceId interfaceId
    rw [hentries, find?_foldl_insert, hall]
    rfl
  have hsome : ∀ {deviceId interfaceId}, (accepted.find? (·.isAt deviceId interfaceId)).isSome →
      (newestReading statuses deviceId interfaceId).isSome := by
    intro deviceId interfaceId h
    exact isSome_newestReading (by rw [hall]; exact h)
  have hpair : ∀ link : Link, sfpPair linkStatus monitor.fiberCheckEntries link =
      if linkStatus.value link.id then
        pairOf (accepted.find? (·.isAt link.sourceDeviceId link.sourceInterfaceId))
          (accepted.find? (·.isAt link.destinationDeviceId link.destinationInterfaceId))
      else none := by
    intro link
    split_ifs with hup
    · rw [sfpPair_eq hup, hfind, hfind]
    · unfold sfpPair
      rw [eq_false_of_ne_true hup]
      rfl
  unfold SfpListFresh updateSfpList
  rw [filterMap_eq_filterMap_iff]
  · refine forall₂_congr fun link _ => ?_
    rw [hpair]
    by_cases hup : linkStatus.value link.id = true
    · rw [if_pos hup, if_pos hup, forall_prop_of_true hup]
      exact pairOf_eq_iff hsome hsome
    · rw [if_neg hup, if_neg hup]
      exact ⟨fun _ h => absurd h hup, fun _ => rfl⟩
  · intro link _ h
    rw [hpair] at h
    split_ifs at h ⊢ with hup
    · exact isSome_pairOf.2 ((isSome_pairOf.1 h).imp hsome hsome)
    · cases h

end

/-! ### A reading that changes -/

/-- A switch with one port. -/
def fiberSwitch (id : ℤ) (ipAddress : String) : Device where
  id := id
  ipAddress := ipAddress
  deviceProfileId := 1
  interfaces := [{ interfaceId := 1, supportSpeeds := [1000] }]

/-- Two of them, and a link. -/
def fiberProject : Project where
  devices := [fiberSwitch 1 "10.0.0.1", fiberSwitch 2 "10.0.0.2"]
  links := [{ id := 1, sourceDeviceId := 1, sourceInterfaceId := 1, destinationDeviceId := 2,
              destinationInterfaceId := 1 }]
  usedIpAddresses := [0x0A000001, 0x0A000002]

/-- The status of a switch, with the temperature at its first port. -/
def temperatureStatus (deviceId : ℤ) (temperatureC : String) : BasicStatus where
  deviceId := deviceId
  fiberCheck := (∅ : QMap ℤ FiberCheckEntry).insert 1
    { deviceId := deviceId, interfaceId := 1, exist := true, temperatureC := temperatureC }

/-- The second switch is at 41 degrees, and the first one at 40 and then at 90. -/
def heatingStatuses : List BasicStatus :=
  [temperatureStatus 1 "40", temperatureStatus 2 "41", temperatureStatus 1 "90"]

/-- The temperatures of the sources that are shown after these statuses. -/
def shownTemperatures (statuses : List BasicStatus) : Option (List String) :=
  (handleBasicStatusResults oneModel 0 statuses ⟨fiberProject, [], [], ∅⟩).map fun monitor =>
    (updateSfpList ((∅ : QMap ℤ Bool).insert 1 true) monitor).sfpList.map
      (·.source.temperatureC)

theorem sfpListFresh_iff_fiberProject : ∃ monitor,
    handleBasicStatusResults oneModel 0 (heatingStatuses.take 2) ⟨fiberProject, [], [], ∅⟩ =
      some monitor ∧
    (SfpListFresh ((∅ : QMap ℤ Bool).insert 1 true) (heatingStatuses.take 2) monitor ↔
      ReadingsStay ((∅ : QMap ℤ Bool).insert 1 true)
        (acceptedReadings oneModel 0 (heatingStatuses.take 2) ⟨fiberProject, [], [], ∅⟩)
        (heatingStatuses.take 2) monitor.project.links) := by
  obtain ⟨monitor, hrun⟩ := isSome_iff_exists.1
    (show (handleBasicStatusResults oneModel 0 (heatingStatuses.take 2)
      ⟨fiberProject, [], [], ∅⟩).isSome = true by decide +kernel)
  exact ⟨monitor, hrun, sfpListFresh_iff hrun⟩

theorem newestReading_heatingStatuses {entry : FiberCheckEntry} {deviceId interfaceId : ℤ}
    (h : newestReading heatingStatuses deviceId interfaceId = some entry) :
    entry.temperatureC ≠ "40" := by
  have hreadings : (heatingStatuses.flatMap (·.fiberCheck.vals)).reverse =
      [{ deviceId := 1, interfaceId := 1, exist := true, temperatureC := "90" },
       { deviceId := 2, interfaceId := 1, exist := true, temperatureC := "41" },
       { deviceId := 1, interfaceId := 1, exist := true, temperatureC := "40" }] := by
    decide +kernel
  unfold newestReading at h
  rw [hreadings, find?_cons, find?_cons, find?_singleton] at h
  split at h
  · cases h
    decide
  · next hnot =>
    split at h
    · cases h
      decide
    · split_ifs at h with hat
      exact absurd hat (Bool.eq_false_iff.1 hnot)

/-- **The first switch heats up**, and the list shows the old temperature. -/
theorem not_sfpListFresh : ∃ monitor,
    handleBasicStatusResults oneModel 0 heatingStatuses ⟨fiberProject, [], [], ∅⟩ = some monitor ∧
    ¬SfpListFresh ((∅ : QMap ℤ Bool).insert 1 true) heatingStatuses monitor := by
  obtain ⟨monitor, hrun, hshown⟩ := map_eq_some_iff.1
    (show shownTemperatures heatingStatuses = some ["40"] by decide +kernel)
  refine ⟨monitor, hrun, fun hfresh => ?_⟩
  obtain ⟨pair, hpair, hcold⟩ := mem_map.1 (hshown ▸ mem_singleton_self "40")
  rw [hfresh] at hpair
  obtain ⟨link, -, hlink⟩ := mem_filterMap.1 hpair
  split_ifs at hlink
  obtain ⟨source, hsrc, target⟩ := bind_eq_some_iff.1 hlink
  obtain ⟨target, -, rfl⟩ := map_eq_some_iff.1 target
  exact newestReading_heatingStatuses hsrc hcold

end Core
end Sebastian

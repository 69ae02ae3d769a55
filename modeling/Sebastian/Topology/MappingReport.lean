/-
# The report is complete

`GenerateTopologyMappingResult` puts the report together from the results of the walk,
from the designed devices without a result, and from the online devices that no walk
came to.  Every online device that was come to stands in a result (`Partnered`: what is
found is handed out, or was handed out before), and a result never changes its partner.
So nobody is missing from the report, and a report that lets the design be deployed has
no foreign device under an address that is to be given away (`mappingReport_complete`).
-/

import Sebastian.Topology.MappingRuns

namespace Sebastian
namespace TopologyMapping

open ExceptRule List

variable {s' : MappingSearch} {x : ℤ}

variable {input : MappingInput} {s : MappingSearch}

/-- **The report is complete, and safe to deploy**: every designed device is in it once,
every online device is in it, the items are numbered, and if the design may be deployed,
an online device that is no partner has an address that no mapped device is given. -/
structure ReportComplete (input : MappingInput) (result : TopologyMappingResult) : Prop where
  offline : ∀ device ∈ input.offline.devices,
    (result.mappingReport.map (·.offlineDeviceId)).count device.id = 1
  online : ∀ device ∈ input.online.devices,
    ∃ item ∈ result.mappingReport, item.onlineDeviceId = device.id
  ids : (result.mappingReport.map (·.id)).Perm
    ((List.range result.mappingReport.length).map fun n : ℕ => (n : ℤ) + 1)
  safe : result.deploy = true → ∀ online ∈ input.online.devices,
    (∀ item ∈ result.mappingReport, item.isMapped = true → item.onlineDeviceId ≠ online.id) →
    ∀ item ∈ result.mappingReport, item.isMapped = true → ∃ offline,
      findDevice input.offline.devices item.offlineDeviceId = some offline ∧
        offline.ipAddress ≠ online.ipAddress

/-! ### What was found has a result -/

/-- An online device is the partner in some result. -/
def HeldOnline (s : MappingSearch) (onlineId : ℤ) : Prop :=
  ∃ x : ℤ, ∃ item, s.results[x]? = some item ∧ item.onlineDeviceId = onlineId

/-- **Who was found is somebody's partner**, and the results are under the addresses of
their devices. -/
structure Partnered (input : MappingInput) (s : MappingSearch) : Prop where
  found : ∀ x ∈ s.foundOnline, HeldOnline s x
  mapped : ∀ x ∈ s.onlineMapped, HeldOnline s x
  address : ∀ x : ℤ, ∀ item, s.results[x]? = some item → ∃ offline,
    findDevice input.offline.devices x = some offline ∧ offline.ipAddress = item.offlineIpAddress

theorem Partnered.init : Partnered input (initialSearch input) where
  found x hx := by cases hx
  mapped x hx := by cases hx
  address x item hx := by simp [initialSearch] at hx

/-- Only the results and two of the sets matter. -/
theorem Partnered.congr (h : Partnered input s) (hress : s'.results = s.results)
    (hfound : s'.foundOnline = s.foundOnline) (hmapped : s'.onlineMapped = s.onlineMapped) :
    Partnered input s' := by
  have hheld : ∀ x, HeldOnline s x → HeldOnline s' x := by
    intro x hx
    unfold HeldOnline
    rw [hress]
    exact hx
  refine ⟨fun x hx => hheld x (h.found x (hfound ▸ hx)),
    fun x hx => hheld x (h.mapped x (hmapped ▸ hx)), ?_⟩
  rw [hress]
  exact h.address

/-- **A step keeps it**, if no partner is lost, what is found or mapped anew is held, and
what is written is under the address of its device. -/
theorem Partnered.write (h : Partnered input s) {offline online : Device}
    (hkeep : ∀ y, HeldOnline s y → HeldOnline s' y)
    (hwrites : WritesOnly s.results s'.results x offline online)
    (hoff : findDevice input.offline.devices x = some offline)
    (hfound : ∀ y ∈ s'.foundOnline, y ∈ s.foundOnline ∨ HeldOnline s' y)
    (hmapped : ∀ y ∈ s'.onlineMapped, y ∈ s.onlineMapped ∨ HeldOnline s' y) :
    Partnered input s' := by
  refine ⟨fun y hy => ?_, fun y hy => ?_, fun y item hitem => ?_⟩
  · exact (hfound y hy).elim (fun hold => hkeep y (h.found y hold)) id
  · exact (hmapped y hy).elim (fun hold => hkeep y (h.mapped y hold)) id
  · rcases hwrites y item hitem with ⟨old, hold, -, hip⟩ | ⟨rfl, -, hip⟩
    · obtain ⟨device, hfind, hdev⟩ := h.address y old hold
      exact ⟨device, hfind, hdev.trans hip⟩
    · exact ⟨offline, hoff, hip.symm⟩

/-- **`CheckDevice`** finds nobody, and keeps every partner. -/
theorem checkDevice_keeps (offline online : Device) (builtInPower : Bool) (s : MappingSearch) :
    (checkDevice offline online builtInPower s).foundOnline = s.foundOnline ∧
      ∀ y, HeldOnline s y → HeldOnline (checkDevice offline online builtInPower s) y := by
  refine ⟨?_, fun y ⟨x, item, hitem, hy⟩ => ⟨x, item, checkDevice_frame.2.1 x item hitem, hy⟩⟩
  rcases checkDevice_cases offline online builtInPower s with
    ⟨-, hs⟩ | ⟨-, message, -, hs⟩ | ⟨-, -, hs⟩ <;> rw [hs]

theorem heldOnline_checkDevice {offline online : Device} (builtInPower : Bool)
    (hnew : s.results[offline.id]? = none) :
    HeldOnline (checkDevice offline online builtInPower s) online.id := by
  obtain ⟨item, hitem, hon⟩ := checkDevice_frame.2.2 hnew
  exact ⟨offline.id, item, hitem, hon⟩

/-- **A missing port** finds nobody, and keeps every partner. -/
theorem portNotFound_keeps {pair : MappingPair} (leaveIfName : String) (hholds : Holds pair s) :
    (portNotFound pair leaveIfName s).foundOnline = s.foundOnline ∧
      ∀ y, HeldOnline s y → HeldOnline (portNotFound pair leaveIfName s) y := by
  obtain ⟨entry, hentry, hpart⟩ := hholds
  -- the entry that is written anew has the partner it had
  have hkeep : ∀ s' : MappingSearch, ∀ written : MapDeviceResultItem,
      s'.results = s.results.insert pair.offlineDeviceId written →
      written.onlineDeviceId = pair.online.id → ∀ y, HeldOnline s y → HeldOnline s' y := by
    rintro s' written hs hwritten y ⟨x, item, hitem, rfl⟩
    by_cases hx : pair.offlineDeviceId = x
    · obtain rfl : entry = item := by
        rw [hx, hitem] at hentry
        exact (Option.some.inj hentry).symm
      refine ⟨x, written, ?_, hwritten.trans hpart.symm⟩
      rw [hs, getElem?_insert_result, if_pos hx]
    · refine ⟨x, item, ?_, rfl⟩
      rw [hs, getElem?_insert_result, if_neg hx]
      exact hitem
  rcases portNotFound_cases leaveIfName hentry with ⟨-, message, -, hs⟩ | ⟨-, message, -, hs⟩
  · rw [hs]
    exact ⟨rfl, hkeep _ _ rfl rfl⟩
  · rw [hs]
    exact ⟨rfl, hkeep _ { entry with errorMessage := message } rfl hpart⟩

/-- **One port keeps it.** -/
theorem Partnered.checkPort (h : Partnered input s) (hoff : Addressed input.offline.devices)
    (hon : Addressed input.online.devices) {pair : MappingPair} {leaveIfId : ℤ}
    {offlineLeave onlineLeave : QMap ℤ ℤ}
    (hfind : findDevice input.offline.devices pair.offlineDeviceId = some pair.offline)
    (hholds : Holds pair s)
    (hs : checkPort input pair offlineLeave onlineLeave s leaveIfId = .ok s') :
    Partnered input s' := by
  rcases checkPort_ok hoff hon hs with
    ⟨name, rfl⟩ | ⟨found, ⟨rfl, hfound⟩ | ⟨next, -, -, hpairNew, hfound, rfl⟩⟩
  · obtain ⟨hwrites, hmapped⟩ := portNotFound_writes pair name s
    obtain ⟨hfound, hkeep⟩ := portNotFound_keeps name hholds
    exact h.write hkeep hwrites hfind (fun y hy => .inl (hfound ▸ hy))
      fun y hy => .inl (hmapped ▸ hy)
  · -- behind the port is a device that was mapped before
    exact ⟨fun y hy => (hfound y hy).elim (h.found y) (h.mapped y), h.mapped, h.address⟩
  · obtain ⟨hwrites, hmapped⟩ := checkDevice_writes next.offline next.online next.builtInPower
      { s with foundOnline := found }
    obtain ⟨hfound', hkeep⟩ := checkDevice_keeps next.offline next.online next.builtInPower
      { s with foundOnline := found }
    obtain ⟨hnew, hid, -, hfind'⟩ := hpairNew
    rw [← hid] at hnew hfind'
    refine h.write hkeep hwrites hfind' (fun y hy => ?_) fun y hy => .inl (by rwa [hmapped] at hy)
    rw [hfound'] at hy
    rcases hfound y hy with hy | rfl
    · exact .inl hy
    · exact .inr (heldOnline_checkDevice next.builtInPower hnew)

section

variable {offlineId onlineId : ℤ} {queue : List ℤ} {pair : MappingPair}

/-- The designed device of the pair that is found for two ids. -/
theorem findPair_offline (h : findPair input offlineId onlineId = .ok pair) :
    findDevice input.offline.devices offlineId = some pair.offline := by
  unfold findPair at h
  split at h
  · cases h
  · next offline hfind =>
    split at h
    · cases h
    · obtain ⟨builtInPower, -, rfl⟩ := exists_of_map h
      exact hfind

/-- **The pair that is entered keeps it**: its online device is held by its designed one. -/
theorem Partnered.enter (h : Partnered input s) (hinv : MappingInv input s)
    (hoff : Addressed input.offline.devices) (hon : Addressed input.online.devices)
    (hdeq : Dequeued input s offlineId queue onlineId pair) :
    Partnered input
      (enterPair input pair { s with queue := queue, onlineDeviceId := onlineId }) := by
  obtain ⟨-, hofflineId, hpairOnline, honlineId⟩ := findPair_ok hoff hon hdeq.found
  obtain ⟨-, ⟨entry, hentry, hpart⟩, -⟩ := (hinv.enter hoff hon hdeq).1
  obtain ⟨r, hr, -, hmapped, hwrites⟩ :=
    enterPair_eq input pair { s with queue := queue, onlineDeviceId := onlineId }
  have hheld : HeldOnline r pair.onlineDeviceId := by
    refine ⟨pair.offlineDeviceId, entry, ?_, hpart.trans (honlineId.trans hpairOnline.symm)⟩
    rw [hr] at hentry
    exact hentry
  have hent : (enterPair input pair
        { s with queue := queue, onlineDeviceId := onlineId }).foundOnline =
        QSet.insert s.foundOnline pair.onlineDeviceId ∧
      ∀ y, HeldOnline s y → HeldOnline (enterPair input pair
        { s with queue := queue, onlineDeviceId := onlineId }) y := by
    unfold enterPair
    dsimp only
    split_ifs
    · exact ⟨rfl, fun y hy => hy⟩
    · exact checkDevice_keeps _ _ _ _
  rw [hr] at hent ⊢
  have hnew : ∀ y (ids : QSet ℤ), y ∈ QSet.insert ids pair.onlineDeviceId →
      y ∈ ids ∨ HeldOnline r y := by
    intro y ids hy
    rcases QSet.mem_insert.1 hy with hy | rfl
    · exact .inl hy
    · exact .inr hheld
  refine h.write (x := pair.offline.id) hent.2 hwrites ?_
    (fun y hy => hnew y _ (hent.1 ▸ hy)) fun y hy => hnew y _ (hmapped ▸ hy)
  rw [hofflineId]
  exact findPair_offline hdeq.found

/-- **One round keeps it.** -/
theorem Partnered.round (h : Partnered input s) (hinv : MappingInv input s)
    (hoff : Addressed input.offline.devices) (hon : Addressed input.online.devices)
    (hround : mappingRound input s = .next s') : Partnered input s' := by
  rcases mappingRound_next hround with ⟨offlineId, queue, onlineId', -, rfl⟩ |
    ⟨offlineId, queue, onlineId, pair, hdeq, -, hports⟩
  · exact h.congr rfl rfl rfl
  · obtain ⟨hpairId, hofflineId, -⟩ := findPair_ok hoff hon hdeq.found
    have hfind := findPair_offline hdeq.found
    obtain ⟨hpartnered, -⟩ := foldlM_rule
      (I := fun r => Partnered input r ∧ Kept r ∧ Holds pair r) hports
      ⟨h.enter hinv hoff hon hdeq,
        ((hinv.enter hoff hon hdeq).1).1,
        ((hinv.enter hoff hon hdeq).1).2.1⟩ (by
        rintro c c' leaveIfId ⟨hc, hkept, hholds⟩ hstep
        exact ⟨hc.checkPort hoff hon (hpairId ▸ hfind) hholds hstep,
          hkept.checkPort hoff hon (hofflineId.trans hpairId.symm) hholds hstep⟩)
    exact hpartnered

end

theorem partnered_of_visits (hoff : Addressed input.offline.devices)
    (hon : Addressed input.online.devices)
    (hvis : Loop.Visits (mappingRound input) (initialSearch input) s) : Partnered input s :=
  hvis.rule Partnered.init fun _ _ hv ht hu =>
    ht.round (mappingInv_of_visits hoff hon hv) hoff hon hu

/-! ### How a run ends -/

theorem visitDevice_error {offlineId : ℤ} {status : Status}
    (h : visitDevice input s offlineId = .error status) : status ≠ .success := by
  have hpower : ∀ online, Ends (fun _ => True) (fun e : Status => e ≠ .success)
      (builtInPowerOf input online) := by
    intro online
    unfold builtInPowerOf
    split
    · exact nofun
    · trivial
  have hmap : ∀ {α β : Type} {x : Except Status α} (f : α → β),
      Ends (fun _ => True) (fun e : Status => e ≠ .success) x →
      Ends (fun _ => True) (fun e : Status => e ≠ .success) (x.map f) := by
    intro α β x f hx
    cases x with
    | error e => exact hx
    | ok a => trivial
  have hport : ∀ pair offlineLeave onlineLeave r leaveIfId,
      Ends (fun _ => True) (fun e : Status => e ≠ .success)
        (checkPort input pair offlineLeave onlineLeave r leaveIfId) := by
    intro pair offlineLeave onlineLeave r leaveIfId
    unfold checkPort
    split
    · trivial
    · refine hmap _ ?_
      unfold oppositePair
      dsimp only
      split
      · trivial
      · split
        · exact nofun
        · split
          · exact nofun
          · split
            · trivial
            · exact hmap _ (hpower _)
  have hends : Ends (fun _ => True) (fun e : Status => e ≠ .success)
      (visitDevice input s offlineId) := by
    unfold visitDevice
    split
    · next e he =>
      have hpair : Ends (fun _ => True) (fun e : Status => e ≠ .success)
          (findPair input offlineId s.onlineDeviceId) := by
        unfold findPair
        split
        · exact nofun
        · split
          · exact nofun
          · exact hmap _ (hpower _)
      rw [he] at hpair
      exact hpair
    · exact Ends.foldlM trivial fun c a _ _ => hport _ _ _ c a
  rw [h] at hends
  exact hends

/-- **A successful run** reports the results of a state at the head of the loop. -/
theorem exists_visits_of_success {formats : NumberFormats} {fuel : ℕ}
    {result : TopologyMappingResult}
    (hrun : mappingTopology formats fuel input = some (.success, result)) :
    ∃ s, Loop.Visits (mappingRound input) (initialSearch input) s ∧
      result = generateTopologyMappingResult formats (finishResults input s) s.foundOnline []
        input.online := by
  unfold mappingTopology at hrun
  obtain ⟨final, hfinal, hres⟩ := Option.map_eq_some_iff.1 hrun
  obtain ⟨t, hvis, hdone⟩ := Loop.exists_of_run hfinal
  cases final with
  | error status =>
    obtain ⟨hst, -⟩ := Prod.mk.inj hres
    unfold mappingRound at hdone
    split at hdone
    · cases hdone
    · split_ifs at hdone
      · cases hdone
      · split at hdone
        · cases hdone
        · split at hdone
          · next e he =>
            cases hdone
            exact absurd hst (visitDevice_error he)
          · cases hdone
  | ok s =>
    obtain ⟨-, rfl⟩ := Prod.mk.inj hres
    refine ⟨t, hvis, ?_⟩
    unfold mappingRound at hdone
    split at hdone
    · cases hdone
      rfl
    · split_ifs at hdone
      · cases hdone
        rfl
      · split at hdone
        · cases hdone
        · split at hdone
          · cases hdone
          · cases hdone

/-! ### The numbers -/

/-- The items of a report carry the numbers from 1 on. -/
def Numbered (report : List MapDeviceResultItem) : Prop :=
  report.map (·.id) = (List.range report.length).map fun n : ℕ => (n : ℤ) + 1

theorem Numbered.append {report : List MapDeviceResultItem} (h : Numbered report)
    (item : MapDeviceResultItem) :
    Numbered (report ++ [{ item with id := (report.length : ℤ) + 1 }]) := by
  unfold Numbered at h ⊢
  rw [map_append, h, length_append, length_singleton, range_succ,
    map_append]
  rfl

theorem numbered_offlineItems (results : QMap ℤ MapDeviceResultItem) :
    Numbered (offlineItems results) :=
  foldlRecOn (motive := Numbered) results.vals _ rfl fun _ h item _ => h.append item

theorem Numbered.appendUnfound {report : List MapDeviceResultItem} (h : Numbered report)
    (online : MapTopology) (foundOnline : QSet ℤ) (canDeploy : Bool)
    (offlineIps checkedIps : List String) :
    Numbered (appendUnfound online foundOnline canDeploy offlineIps checkedIps report) := by
  unfold TopologyMapping.appendUnfound
  refine foldlRecOn (motive := Numbered) online.devices _ h fun report h device _ => ?_
  dsimp only
  split_ifs
  · exact h
  · exact h
  · exact h.append _

/-! ### Who is in the report -/

theorem map_offlineDeviceId_offlineItems (results : QMap ℤ MapDeviceResultItem) :
    (offlineItems results).map (·.offlineDeviceId) = results.vals.map (·.offlineDeviceId) := by
  unfold offlineItems
  refine Loop.foldl_rule (I := fun (passed report : List MapDeviceResultItem) =>
    report.map (·.offlineDeviceId) = passed.map (·.offlineDeviceId)) rfl
    fun passed item rest _ h => ?_
  rw [map_append, map_append, h]
  rfl

/-- **The online devices join at the end**, as items of no designed device. -/
theorem exists_append_of_appendUnfound (online : MapTopology) (foundOnline : QSet ℤ)
    (canDeploy : Bool) (offlineIps checkedIps : List String) (report : List MapDeviceResultItem) :
    ∃ rest, appendUnfound online foundOnline canDeploy offlineIps checkedIps report =
        report ++ rest ∧
      ∀ item ∈ rest, item.offlineDeviceId = -1 ∧ item.offlineIpAddress = "" ∧
        item.isMapped = false := by
  unfold appendUnfound
  refine foldlRecOn (motive := fun result => ∃ rest, result = report ++ rest ∧
    ∀ item ∈ rest, item.offlineDeviceId = -1 ∧ item.offlineIpAddress = "" ∧
      item.isMapped = false) online.devices _
    ⟨[], (append_nil _).symm, nofun⟩ ?_
  rintro result ⟨rest, rfl, hrest⟩ device -
  dsimp only
  split_ifs
  · exact ⟨rest, rfl, hrest⟩
  · exact ⟨rest, rfl, hrest⟩
  · refine ⟨_, append_assoc _ _ _, fun item hitem => ?_⟩
    rcases mem_append.1 hitem with hitem | hitem
    · exact hrest item hitem
    · obtain rfl := mem_singleton.1 hitem
      refine ⟨?_, ?_, isMapped_unfoundItem canDeploy offlineIps device⟩ <;> unfold unfoundItem <;>
        dsimp only <;> split_ifs <;> rfl

/-- **An online device that was not found joins the report**, when no address was checked. -/
theorem exists_mem_appendUnfound {online : MapTopology} {foundOnline : QSet ℤ} (canDeploy : Bool)
    (offlineIps : List String) (report : List MapDeviceResultItem) {device : Device}
    (hdev : device ∈ online.devices) (hfound : device.id ∉ foundOnline) :
    ∃ n, ({ unfoundItem canDeploy offlineIps device with id := n } : MapDeviceResultItem) ∈
      appendUnfound online foundOnline canDeploy offlineIps [] report := by
  unfold appendUnfound
  refine Loop.foldl_reaches (I := fun _ => True)
    (Q := fun report => ∃ n, ({ unfoundItem canDeploy offlineIps device with id := n } :
      MapDeviceResultItem) ∈ report) hdev trivial (fun _ _ _ _ => trivial) (fun report _ => ?_)
    fun report h other _ => ?_
  · rw [if_neg (fun hc => hfound (QSet.contains_iff_mem.1 hc)), if_neg (by simp)]
    exact ⟨_, mem_append_right _ (mem_singleton_self _)⟩
  · obtain ⟨n, hn⟩ := h
    dsimp only
    split_ifs
    · exact ⟨n, hn⟩
    · exact ⟨n, hn⟩
    · exact ⟨n, mem_append_left _ hn⟩

/-- **The results at the end stand under their devices**, and none of them was only
checked. -/
theorem Kept.finishResults (h : Kept s) {item : MapDeviceResultItem}
    (hitem : (finishResults input s)[x]? = some item) :
    item.offlineDeviceId = x ∧ item.status ≠ .checked := by
  rcases finishResults_eq_some.1 hitem with ⟨result, hres, rfl⟩ | ⟨-, hfind⟩
  · obtain ⟨hid, hcases⟩ := h.results x result hres
    refine ⟨(updateWarning_ids _ _).1.trans hid, ?_⟩
    unfold updateWarning
    split_ifs
    · exact nofun
    · rcases hcases with ⟨-, -, hs, -⟩ | ⟨-, -, hs, -⟩ | ⟨-, -, hs, -⟩ <;> rw [hs] <;> exact nofun
  · obtain ⟨device, hdev, rfl⟩ := Option.map_eq_some_iff.1 hfind
    have hid : device.id = x := by simpa using find?_some hdev
    unfold remainingItem
    dsimp only
    split_ifs
    · exact ⟨hid, nofun⟩
    · exact ⟨hid, nofun⟩

/-- Every designed device has a result at the end. -/
theorem mem_keys_finishResults {device : Device} (hdev : device ∈ input.offline.devices) :
    device.id ∈ (finishResults input s).keys := by
  rw [QMap.mem_keys_iff]
  cases hres : s.results[device.id]? with
  | some result => exact ⟨_, finishResults_eq_some.2 (.inl ⟨result, hres, rfl⟩)⟩
  | none =>
    have hsome : (input.offline.devices.find? (·.id == device.id)).isSome = true :=
      find?_isSome.2 ⟨device, hdev, beq_self_eq_true device.id⟩
    obtain ⟨found, hfound⟩ := Option.isSome_iff_exists.1 hsome
    exact ⟨_, finishResults_eq_some.2 (.inr ⟨hres, by rw [hfound]; rfl⟩)⟩

/-- **The results at the end are in the order of their devices.** -/
theorem Kept.map_vals_finishResults (h : Kept s) :
    (TopologyMapping.finishResults input s).vals.map (·.offlineDeviceId) =
      (TopologyMapping.finishResults input s).keys := by
  rw [QMap.vals, map_map, ← Std.TreeMap.map_fst_toList_eq_keys]
  refine map_congr_left fun p hp => ?_
  exact (h.finishResults (Std.TreeMap.mem_toList_iff_getElem?_eq_some.1 hp)).1

/-! ### The report of a run -/

/-- **The parts of a report**: the numbered results, and the online devices that were not
found. -/
structure ReportParts (input : MappingInput) (s : MappingSearch) (result : TopologyMappingResult)
    (canDeploy : Bool) (offlineIps : List String) : Prop where
  perm : ∃ rest, result.mappingReport.Perm (offlineItems (finishResults input s) ++ rest) ∧
    ∀ item ∈ rest, item.offlineDeviceId = -1 ∧ item.isMapped = false
  ids : (result.mappingReport.map (·.id)).Perm
    ((List.range result.mappingReport.length).map fun n : ℕ => (n : ℤ) + 1)
  unfound : ∀ device ∈ input.online.devices, device.id ∉ s.foundOnline →
    ∃ n, ({ unfoundItem canDeploy offlineIps device with id := n } : MapDeviceResultItem) ∈
      result.mappingReport
  deploy : result.deploy = true → ∀ item ∈ result.mappingReport, item.blocksDeploy = false

/-- **What `GenerateTopologyMappingResult` puts together.** -/
theorem Kept.reportParts (h : Kept s) (formats : NumberFormats) :
    ReportParts input s (generateTopologyMappingResult formats
      (TopologyMapping.finishResults input s)
        s.foundOnline [] input.online)
      (!(offlineItems (TopologyMapping.finishResults input s)).any (·.blocksDeploy))
      (((offlineItems (TopologyMapping.finishResults input s)).filter (·.isMapped)).map
        (·.offlineIpAddress)) := by
  -- no result was only checked, so no address was
  have hchecked : ((offlineItems (TopologyMapping.finishResults input s)).filter fun item =>
      item.status = .checked).map (·.offlineIpAddress) = [] := by
    rw [map_eq_nil_iff, filter_eq_nil_iff]
    intro item hitem hst
    obtain ⟨result, hres, n, rfl⟩ := mem_offlineItems hitem
    obtain ⟨x, hx⟩ := QMap.mem_vals.1 hres
    exact (h.finishResults hx).2 (of_decide_eq_true hst)
  have hips : ((offlineItems (TopologyMapping.finishResults input s)).filter fun item =>
      (item.status = .success || item.status = .warning) &&
        !QSet.contains ([] : QSet ℤ) item.offlineDeviceId) =
      (offlineItems (TopologyMapping.finishResults input s)).filter (·.isMapped) :=
    filter_congr fun item _ => Bool.and_true _
  unfold generateTopologyMappingResult
  dsimp only
  rw [hchecked, hips]
  generalize ((offlineItems (TopologyMapping.finishResults input s)).filter (·.isMapped)).map
    (·.offlineIpAddress) = offlineIps
  generalize (!(offlineItems (TopologyMapping.finishResults input s)).any
    (·.blocksDeploy)) = canDeploy
  have hsort := perm_insertionSort
    (fun x y : MapDeviceResultItem => y.before formats x = false)
    (appendUnfound input.online s.foundOnline canDeploy offlineIps []
      (offlineItems (TopologyMapping.finishResults input s)))
  refine ⟨?_, ?_, fun device hdev hfound => ?_, fun hdeploy item hitem => ?_⟩
  · obtain ⟨rest, hrest, hitems⟩ := exists_append_of_appendUnfound input.online s.foundOnline
      canDeploy offlineIps [] (offlineItems (TopologyMapping.finishResults input s))
    exact ⟨rest, hrest ▸ hsort, fun item hitem => (hitems item hitem).imp_right And.right⟩
  · have hnumbers := (numbered_offlineItems (TopologyMapping.finishResults input s)).appendUnfound
      input.online s.foundOnline canDeploy offlineIps []
    unfold Numbered at hnumbers
    rw [← hsort.length_eq] at hnumbers
    exact hnumbers ▸ hsort.map _
  · obtain ⟨n, hn⟩ := exists_mem_appendUnfound canDeploy offlineIps
      (offlineItems (TopologyMapping.finishResults input s)) hdev hfound
    exact ⟨n, mem_sortReport.2 hn⟩
  · rw [Bool.not_eq_true', any_eq_false] at hdeploy
    exact Bool.eq_false_iff.2 (hdeploy item hitem)

/-- **A mapped item is the entry of a designed device**, under the address of that device. -/
theorem ReportParts.mapped {result : TopologyMappingResult} {canDeploy : Bool}
    {offlineIps : List String} (h : ReportParts input s result canDeploy offlineIps)
    (hkept : Kept s) (hpartnered : Partnered input s) {item : MapDeviceResultItem}
    (hitem : item ∈ result.mappingReport) (hmapped : item.isMapped = true) :
    item ∈ offlineItems (finishResults input s) ∧ ∃ offline,
      findDevice input.offline.devices item.offlineDeviceId = some offline ∧
        offline.ipAddress = item.offlineIpAddress := by
  obtain ⟨rest, hperm, hrest⟩ := h.perm
  have hmem : item ∈ offlineItems (finishResults input s) := by
    rcases mem_append.1 (hperm.mem_iff.1 hitem) with hmem | hmem
    · exact hmem
    · rw [(hrest item hmem).2] at hmapped
      cases hmapped
  refine ⟨hmem, ?_⟩
  obtain ⟨entry, hentry, n, rfl⟩ := mem_offlineItems hmem
  obtain ⟨x, hx⟩ := QMap.mem_vals.1 hentry
  have hid := (hkept.finishResults hx).1
  rcases finishResults_eq_some.1 hx with ⟨held, hheld, rfl⟩ | ⟨-, hfind⟩
  · obtain ⟨offline, hfind, hip⟩ := hpartnered.address x held hheld
    refine ⟨offline, ?_, hip.trans ?_⟩
    · show findDevice input.offline.devices
        (updateWarning input s.notFoundPort held).offlineDeviceId = _
      rw [hid]
      exact hfind
    · show held.offlineIpAddress = (updateWarning input s.notFoundPort held).offlineIpAddress
      unfold updateWarning
      split_ifs <;> rfl
  · obtain ⟨device, -, rfl⟩ := Option.map_eq_some_iff.1 hfind
    rw [show ({ remainingItem (offlineMappingDeviceSet input.offline) device with
      id := n } : MapDeviceResultItem).isMapped = (remainingItem
        (offlineMappingDeviceSet input.offline) device).isMapped from rfl,
      isMapped_remainingItem] at hmapped
    cases hmapped

/-- **An online device that was found is in the report**, and if the design may be deployed
it is the partner of a mapped device. -/
theorem ReportParts.found {result : TopologyMappingResult} {canDeploy : Bool}
    {offlineIps : List String} (h : ReportParts input s result canDeploy offlineIps)
    (hkept : Kept s) (hpartnered : Partnered input s) (hx : x ∈ s.foundOnline) :
    ∃ item ∈ result.mappingReport, item.onlineDeviceId = x ∧
      (result.deploy = true → item.isMapped = true) := by
  obtain ⟨y, held, hheld, rfl⟩ := hpartnered.found x hx
  have hentry : (finishResults input s)[y]? = some (updateWarning input s.notFoundPort held) :=
    finishResults_eq_some.2 (.inl ⟨held, hheld, rfl⟩)
  obtain ⟨n, hn⟩ := exists_mem_offlineItems (QMap.mem_vals.2 ⟨y, hentry⟩)
  obtain ⟨rest, hperm, -⟩ := h.perm
  have hmem := hperm.mem_iff.2 (mem_append_left rest hn)
  refine ⟨_, hmem, (updateWarning_ids s.notFoundPort held).2, fun hdeploy => ?_⟩
  have hblocks := h.deploy hdeploy _ hmem
  change (updateWarning input s.notFoundPort held).blocksDeploy = false at hblocks
  show (updateWarning input s.notFoundPort held).isMapped = true
  unfold updateWarning MapDeviceResultItem.blocksDeploy at hblocks
  unfold updateWarning MapDeviceResultItem.isMapped
  split_ifs at hblocks ⊢ with hwarning
  · rfl
  · rcases (hkept.results y held hheld).cases with
      ⟨-, -, hs, -⟩ | ⟨-, -, hs, -⟩ | ⟨-, -, hs, -⟩
    · rw [hs] at hblocks
      cases hblocks
    · rw [hs]
      rfl
    · rw [hs] at hblocks
      cases hblocks

/-- **Every successful run reports everybody, and is safe to deploy.**  (-1 stands for no
device in an item.) -/
theorem mappingReport_complete (hoffline : Addressed input.offline.devices)
    (honline : Addressed input.online.devices)
    (hids : ∀ device ∈ input.offline.devices, device.id ≠ -1) {formats : NumberFormats} {fuel : ℕ}
    {result : TopologyMappingResult}
    (hrun : mappingTopology formats fuel input = some (.success, result)) :
    ReportComplete input result := by
  obtain ⟨s, hvis, rfl⟩ := exists_visits_of_success hrun
  have hkept := (mappingInv_of_visits hoffline honline hvis).kept
  have hpartnered := partnered_of_visits hoffline honline hvis
  have hparts : ReportParts input s _ _ _ := hkept.reportParts formats
  generalize generateTopologyMappingResult formats (finishResults input s) s.foundOnline []
    input.online = result at hparts ⊢
  obtain ⟨rest, hperm, hrest⟩ := hparts.perm
  refine ⟨fun device hdev => ?_, fun device hdev => ?_, hparts.ids,
    fun hdeploy online honlineMem hforeign item hitem hmapped => ?_⟩
  · -- once among the results, and not among the others
    rw [(hperm.map _).count_eq, map_append, count_append,
      map_offlineDeviceId_offlineItems, hkept.map_vals_finishResults,
      count_eq_one_of_mem Std.TreeMap.nodup_keys (mem_keys_finishResults hdev),
      count_eq_zero.2]
    intro hmem
    obtain ⟨item, hitem, hid⟩ := mem_map.1 hmem
    exact hids device hdev (hid.symm.trans (hrest item hitem).1)
  · by_cases hfound : device.id ∈ s.foundOnline
    · obtain ⟨item, hitem, hid, -⟩ := hparts.found hkept hpartnered hfound
      exact ⟨item, hitem, hid⟩
    · obtain ⟨n, hn⟩ := hparts.unfound device hdev hfound
      refine ⟨_, hn, ?_⟩
      unfold unfoundItem
      dsimp only
      split_ifs <;> rfl
  · obtain ⟨hentry, offline, hfind, hip⟩ := hparts.mapped hkept hpartnered hitem hmapped
    refine ⟨offline, hfind, fun hsame => ?_⟩
    -- a device that was found would be a partner
    have hfound : online.id ∉ s.foundOnline := by
      intro hfound
      obtain ⟨partner, hpart, hid, hpartnerMapped⟩ := hparts.found hkept hpartnered hfound
      exact hforeign partner hpart (hpartnerMapped hdeploy) hid
    obtain ⟨n, hn⟩ := hparts.unfound online honlineMem hfound
    have hblocks := hparts.deploy hdeploy _ hn
    change (unfoundItem _ _ online).blocksDeploy = false at hblocks
    -- it was held against the addresses that are given away
    have hcan : (!(offlineItems (finishResults input s)).any (·.blocksDeploy)) = true := by
      rw [Bool.not_eq_true', any_eq_false]
      intro other hother
      rw [hparts.deploy hdeploy other (hperm.mem_iff.2 (mem_append_left _ hother))]
      exact Bool.false_ne_true
    have hgiven : (((offlineItems (finishResults input s)).filter (·.isMapped)).map
        (·.offlineIpAddress)).contains online.ipAddress = true := by
      rw [contains_iff_mem, ← hsame, hip]
      exact mem_map_of_mem (mem_filter.2 ⟨hentry, hmapped⟩)
    unfold unfoundItem at hblocks
    rw [hcan, hgiven] at hblocks
    cases hblocks

theorem mappingReport_builtAsDesigned : ∃ result,
    mappingTopology ⟨fun _ => 0, fun _ => none⟩ 4 builtAsDesigned = some (.success, result) ∧
      result.deploy = true ∧ ReportComplete builtAsDesigned result := by
  have hruns : (mappingTopology ⟨fun _ => 0, fun _ => none⟩ 4 builtAsDesigned).map
      (fun r => (decide (r.1 = .success), r.2.deploy)) = some (true, true) := by decide +kernel
  obtain ⟨⟨status, result⟩, hrun, hr⟩ := Option.map_eq_some_iff.1 hruns
  obtain ⟨hst, hdeploy⟩ := Prod.mk.inj hr
  obtain rfl : status = .success := of_decide_eq_true hst
  refine ⟨result, hrun, hdeploy, mappingReport_complete ?_ ?_ ?_ hrun⟩
  · unfold Addressed builtAsDesigned
    decide
  · unfold Addressed builtAsDesigned
    decide
  · unfold builtAsDesigned
    decide

end TopologyMapping
end Sebastian

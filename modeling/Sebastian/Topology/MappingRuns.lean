/-
# Every run of the mapping

On two networks in order (`Networks`) the walk of `MappingTopology` ends, whatever
they look like (`exists_run_mapping`): a device is dequeued to be visited only with
an online device that was not mapped before, and between two such rounds the queue
gets shorter.  The walk fails in one way only, at its first device: the source waits
and the online source is not there (`SourceMissing`).  A device has a result only if
it belongs to the mapping, so the report skips exactly the others
(`finishResults_skip`).
-/

import Sebastian.Topology.ExactCopy

namespace Sebastian
namespace TopologyMapping

open List

variable {x onlineId : ℤ} {topology : MapTopology} {queue : List ℤ}

/-- **Two networks to be held against each other**: both are as the mapping reads them,
and every scanned device has its profile. -/
structure Networks (input : MappingInput) : Prop where
  offline : NetworkWellFormed input.offline
  online : NetworkWellFormed input.online
  profiles : ∀ device ∈ input.online.devices, ∃ power, builtInPowerOf input device = .ok power

variable {input : MappingInput} {s : MappingSearch}

/-! ### What the walk reads -/

/-- What lies behind an interface is the end of a link, and belongs to the mapping when
that is asked for. -/
theorem leaveMap_value {check : Bool} {i b : ℤ} {links : QSet Link} {moxa : QSet ℤ}
    (h : (leaveInterfaceOppositeDeviceMap check x links moxa)[i]? = some b) :
    (check = true → b ∈ moxa) ∧
      ∃ link ∈ links, link.sourceDeviceId = b ∨ link.destinationDeviceId = b := by
  unfold leaveInterfaceOppositeDeviceMap at h
  have hbehind : ∀ m : QMap ℤ ℤ, m = links.foldl (leaveInterface check x moxa) ∅ →
      ∀ i b : ℤ, m[i]? = some b → (check = true → b ∈ moxa) ∧
        ∃ link ∈ links, link.sourceDeviceId = b ∨ link.destinationDeviceId = b := by
    rintro m rfl
    refine foldlRecOn (motive := fun m : QMap ℤ ℤ => ∀ i b : ℤ, m[i]? = some b →
      (check = true → b ∈ moxa) ∧
        ∃ link ∈ links, link.sourceDeviceId = b ∨ link.destinationDeviceId = b) links _ ?_ ?_
    · intro i b hb
      simp at hb
    · intro m hm link hlink i b hb
      unfold leaveInterface at hb
      have hmoxa : ∀ y, (!check || moxa.contains y) = true → check = true → y ∈ moxa := by
        intro y hy hcheck
        rw [hcheck] at hy
        simpa [QSet.contains_iff_mem] using hy
      split_ifs at hb with hdest hsrc
      · rw [Std.TreeMap.getElem?_insert] at hb
        split_ifs at hb
        · cases hb
          exact ⟨hmoxa _ hdest.2, link, hlink, .inl rfl⟩
        · exact hm i b hb
      · rw [Std.TreeMap.getElem?_insert] at hb
        split_ifs at hb
        · cases hb
          exact ⟨hmoxa _ hsrc.2, link, hlink, .inr rfl⟩
        · exact hm i b hb
      · exact hm i b hb
  exact hbehind _ rfl i b h

theorem hasDevice_of_mapping (h : x ∈ offlineMappingDeviceSet topology) : topology.HasDevice x := by
  obtain ⟨device, hdev, hid, -⟩ := mem_offlineMappingDeviceSet.1 h
  exact ⟨device, hdev, hid⟩

theorem NetworkWellFormed.exists_findDevice (h : NetworkWellFormed topology)
    (hx : topology.HasDevice x) :
    ∃ device ∈ topology.devices, findDevice topology.devices x = some device ∧ device.id = x := by
  obtain ⟨device, hdev, rfl⟩ := hx
  exact ⟨device, hdev, findDevice_of_mem h hdev, rfl⟩

theorem NetworkWellFormed.findDevice_eq_none (h : NetworkWellFormed topology)
    (hx : ¬topology.HasDevice x) : findDevice topology.devices x = none := by
  cases hfind : findDevice topology.devices x with
  | none => rfl
  | some device =>
    obtain ⟨hdev, hid⟩ := findDevice_id h.addressed hfind
    exact absurd ⟨device, hdev, hid⟩ hx

/-! ### What one step writes -/

/-- Every entry stood there before, for the same two devices, or is the one entry that was
written. -/
def WritesOnly (results results' : QMap ℤ MapDeviceResultItem) (x : ℤ) (offline online : Device) :
    Prop :=
  ∀ y : ℤ, ∀ item, results'[y]? = some item →
    (∃ old, results[y]? = some old ∧ old.onlineDeviceId = item.onlineDeviceId ∧
      old.offlineIpAddress = item.offlineIpAddress) ∨
    (y = x ∧ item.onlineDeviceId = online.id ∧ item.offlineIpAddress = offline.ipAddress)

theorem WritesOnly.refl (results : QMap ℤ MapDeviceResultItem) (x : ℤ) (offline online : Device) :
    WritesOnly results results x offline online := fun _ item hitem => .inl ⟨item, hitem, rfl, rfl⟩

theorem WritesOnly.insert (results : QMap ℤ MapDeviceResultItem) (x : ℤ) (offline online : Device)
    (power : Bool) (status : DeviceMapStatus) (message : String) :
    WritesOnly results (results.insert x (.ofDevices offline online power status message)) x
      offline online := by
  intro y other hy
  rw [getElem?_insert_result] at hy
  split_ifs at hy with hxy
  · cases hy
    exact .inr ⟨hxy.symm, rfl, rfl⟩
  · exact .inl ⟨other, hy, rfl, rfl⟩

/-- **`CheckDevice`** writes the entry of its designed device only. -/
theorem checkDevice_writes (offline online : Device) (builtInPower : Bool) (s : MappingSearch) :
    WritesOnly s.results (checkDevice offline online builtInPower s).results offline.id offline
        online ∧
      (checkDevice offline online builtInPower s).onlineMapped = s.onlineMapped := by
  rcases checkDevice_cases offline online builtInPower s with
    ⟨-, hs⟩ | ⟨-, message, -, hs⟩ | ⟨-, -, hs⟩
  · rw [hs]
    exact ⟨.refl _ _ _ _, rfl⟩
  · rw [hs]
    exact ⟨.insert _ _ _ _ _ _ _, rfl⟩
  · rw [hs]
    exact ⟨.insert _ _ _ _ _ _ _, rfl⟩

/-- **A missing port** writes the entry of the dequeued device only, and keeps its partner. -/
theorem portNotFound_writes (pair : MappingPair) (leaveIfName : String) (s : MappingSearch) :
    WritesOnly s.results (portNotFound pair leaveIfName s).results pair.offlineDeviceId
        pair.offline pair.online ∧
      (portNotFound pair leaveIfName s).onlineMapped = s.onlineMapped := by
  unfold portNotFound
  dsimp only
  cases hitem : s.results[pair.offlineDeviceId]? with
  | none => exact ⟨.insert _ _ _ _ _ _ _, rfl⟩
  | some item =>
    dsimp only
    split_ifs
    · exact ⟨.insert _ _ _ _ _ _ _, rfl⟩
    · refine ⟨fun y other hy => ?_, rfl⟩
      rw [getElem?_insert_result] at hy
      split_ifs at hy with hxy
      · cases hy
        exact .inl ⟨item, hxy ▸ hitem, rfl, rfl⟩
      · exact .inl ⟨other, hy, rfl, rfl⟩

/-- **Results are for devices of the mapping**, under their addresses, with scanned devices as
their partners. -/
def PartnersIn (input : MappingInput) (results : QMap ℤ MapDeviceResultItem) : Prop :=
  ∀ x : ℤ, ∀ item, results[x]? = some item → x ∈ offlineMappingDeviceSet input.offline ∧
    input.online.HasDevice item.onlineDeviceId ∧ item.offlineIpAddress ≠ ""

theorem PartnersIn.write {results results' : QMap ℤ MapDeviceResultItem} {offline online : Device}
    (h : PartnersIn input results) (hwrites : WritesOnly results results' x offline online)
    (hx : x ∈ offlineMappingDeviceSet input.offline) (hon : input.online.HasDevice online.id)
    (hip : offline.ipAddress ≠ "") : PartnersIn input results' := by
  intro y item hy
  rcases hwrites y item hy with ⟨old, hold, he, hsame⟩ | ⟨rfl, he, hsame⟩
  · rw [← he, ← hsame]
    exact h y old hold
  · rw [he, hsame]
    exact ⟨hx, hon, hip⟩

/-- **No port fails**: what it leads to on both sides is there. -/
theorem Networks.checkPort (h : Networks input) (pair : MappingPair) {y leaveIfId : ℤ}
    (hpair : pair.offlineDeviceId ∈ offlineMappingDeviceSet input.offline)
    (hon : input.online.HasDevice pair.online.id) (hip : pair.offline.ipAddress ≠ "")
    (hport : leaveIfId ∈ (offlineLeaveMap input x).keys) (hin : PartnersIn input s.results) :
    ∃ s', checkPort input pair (offlineLeaveMap input x) (onlineLeaveMap input y) s leaveIfId =
      .ok s' ∧ PartnersIn input s'.results := by
  unfold TopologyMapping.checkPort
  by_cases hleave : (onlineLeaveMap input y).contains leaveIfId = true
  · rw [if_neg (by simp [hleave])]
    obtain ⟨offlineId, hoff⟩ := QMap.mem_keys_iff.1 hport
    obtain ⟨onlineId, honlineId⟩ : ∃ b : ℤ, (onlineLeaveMap input y)[leaveIfId]? = some b := by
      rw [Std.TreeMap.contains_eq_isSome_getElem?] at hleave
      exact Option.isSome_iff_exists.1 hleave
    have hmapping := (leaveMap_value hoff).1 rfl
    obtain ⟨offline, hstored, hfind, hid⟩ :=
      h.offline.exists_findDevice (hasDevice_of_mapping hmapping)
    have hscanned : input.online.HasDevice onlineId := by
      obtain ⟨-, link, hlink, hend⟩ := leaveMap_value honlineId
      obtain ⟨hsrc, hdest, -⟩ :=
        h.online.ends link ((mem_deviceLinksMap h.online.ports).1 hlink).1
      rcases hend with rfl | rfl
      · exact hsrc
      · exact hdest
    obtain ⟨online, hmem, hfind', hid'⟩ := h.online.exists_findDevice hscanned
    obtain ⟨power, hpower⟩ := h.profiles online hmem
    unfold oppositePair
    dsimp only
    rw [QMap.value_of_getElem? hoff, QMap.value_of_getElem? honlineId]
    split
    · exact ⟨s, rfl, hin⟩
    · rw [hfind]
      dsimp only
      rw [hfind']
      dsimp only
      split
      · exact ⟨_, rfl, hin⟩
      · rw [hpower]
        exact ⟨_, rfl, PartnersIn.write hin (checkDevice_writes offline online power
          { s with foundOnline := QSet.insert s.foundOnline onlineId }).1 (hid ▸ hmapping)
          (hid' ▸ hscanned) (h.offline.addressed offline hstored)⟩
  · rw [if_pos (by rw [Bool.not_eq_true'] ; exact Bool.not_eq_true _ ▸ hleave)]
    exact ⟨_, rfl, hin.write (portNotFound_writes pair
      (interfaceName (interfacesIdNameMap pair.offline) leaveIfId) s).1 hpair hon hip⟩

/-! ### The queue -/

/-- The scanned devices that are not mapped yet. -/
def unmappedOnline (input : MappingInput) (s : MappingSearch) : Finset ℤ :=
  (input.online.devices.map (·.id)).toFinset.filter (· ∉ s.onlineMapped)

/-- How far the walk has to go: a visit maps a device, and between two visits the queue gets
shorter. -/
def walkMeasure (input : MappingInput) (s : MappingSearch) : ℕ :=
  (unmappedOnline input s).card * ((offlineMappingDeviceSet input.offline).length + 1) +
    s.queue.length

/-- **The pair is entered**: its partner is mapped, and its neighbors wait. -/
theorem enterPair_eq (input : MappingInput) (pair : MappingPair) (s : MappingSearch) :
    ∃ r : MappingSearch, enterPair input pair s = { r with
        queue := enqueueNeighbors (offlineMappingDeviceSet input.offline) r.results
          ((deviceLinksMap input.offline).value pair.offlineDeviceId) r.queue } ∧
      r.queue = s.queue ∧ r.onlineMapped = QSet.insert s.onlineMapped pair.onlineDeviceId ∧
      WritesOnly s.results r.results pair.offline.id pair.offline pair.online := by
  refine ⟨_, rfl, ?_, ?_, ?_⟩ <;> dsimp only <;> split_ifs
  · rfl
  · exact checkDevice_frame.1
  · rfl
  · exact (checkDevice_writes _ _ _ _).2
  · exact .refl _ _ _ _
  · exact (checkDevice_writes _ _ _ _).1

theorem MappingInv.results_eq_empty (h : MappingInv input s) (hqueue : s.queue = x :: queue)
    (hsrc : x = input.offline.sourceDeviceId) : s.results = ∅ := by
  rcases h.source with ⟨hempty, -⟩ | ⟨-, hout⟩
  · exact hempty
  · exact absurd (by simp [hqueue, hsrc]) hout

/-- **The queue at the head of the loop.**  Nobody waits twice, and until the source is
visited nothing is mapped. -/
structure QueueInv (input : MappingInput) (s : MappingSearch) : Prop where
  base : MappingInv input s
  nodup : s.queue.Nodup
  waiting : ∀ x ∈ s.queue, x ∈ offlineMappingDeviceSet input.offline
  start : s.results = ∅ → s.onlineMapped = []

/-- A device is visited with an online device that was not mapped. -/
theorem QueueInv.fresh (h : QueueInv input s) (hqueue : s.queue = x :: queue)
    (hpart : dequeuedPartner input s x = some onlineId) : onlineId ∉ s.onlineMapped := by
  unfold dequeuedPartner at hpart
  split_ifs at hpart with hsrc
  · rw [h.start (h.base.results_eq_empty hqueue hsrc)]
    exact not_mem_nil
  · split at hpart
    · cases hpart
    · split_ifs at hpart with hskip
      cases hpart
      intro hmem
      rw [QSet.contains_iff_mem.2 hmem, Bool.or_true] at hskip
      exact hskip rfl

theorem checkPort_queue (hoff : Addressed input.offline.devices)
    (hon : Addressed input.online.devices) {pair : MappingPair} {leaveIfId : ℤ}
    {offlineLeave onlineLeave : QMap ℤ ℤ} {s' : MappingSearch}
    (hs : checkPort input pair offlineLeave onlineLeave s leaveIfId = .ok s') :
    s'.queue = s.queue ∧ s'.onlineMapped = s.onlineMapped := by
  rcases checkPort_ok hoff hon hs with
    ⟨name, rfl⟩ | ⟨found, ⟨rfl, -⟩ | ⟨next, -, -, -, -, rfl⟩⟩
  · exact ⟨portNotFound_frame.1, (portNotFound_writes pair name s).2⟩
  · exact ⟨rfl, rfl⟩
  · exact ⟨checkDevice_frame.1, (checkDevice_writes _ _ _ _).2⟩

/-- **A round that goes on leaves less to do.** -/
theorem QueueInv.round (h : QueueInv input s) (hoff : Addressed input.offline.devices)
    (hon : Addressed input.online.devices) {s' : MappingSearch}
    (hround : mappingRound input s = .next s') :
    QueueInv input s' ∧ walkMeasure input s' < walkMeasure input s := by
  have hbase := h.base.round hoff hon hround
  rcases mappingRound_next hround with ⟨offlineId, queue, onlineId', hqueue, rfl⟩ |
    ⟨offlineId, queue, onlineId, pair, hdeq, -, hports⟩
  · have hnodup := h.nodup
    rw [hqueue, nodup_cons] at hnodup
    refine ⟨⟨hbase, hnodup.2, fun y hy => h.waiting y (by simp [hqueue, hy]), h.start⟩, ?_⟩
    unfold walkMeasure unmappedOnline
    dsimp only
    rw [hqueue, length_cons]
    omega
  · have hqueue := hdeq.queue
    have hfresh := h.fresh hqueue hdeq.partner
    obtain ⟨-, -, hpairOnline, honlineId⟩ := findPair_ok hoff hon hdeq.found
    have hnodup := h.nodup
    rw [hqueue, nodup_cons] at hnodup
    obtain ⟨r, henter, hwait, hmap, -⟩ :=
      enterPair_eq input pair { s with queue := queue, onlineDeviceId := onlineId }
    obtain ⟨hmem, hkeep⟩ := @enqueueNeighbors_spec (offlineMappingDeviceSet input.offline)
      r.results ((deviceLinksMap input.offline).value pair.offlineDeviceId) r.queue
    rw [henter] at hports
    obtain ⟨hqueue', hmap'⟩ := ExceptRule.foldlM_rule
      (I := fun t => t.queue = enqueueNeighbors (offlineMappingDeviceSet input.offline) r.results
        ((deviceLinksMap input.offline).value pair.offlineDeviceId) r.queue ∧
        t.onlineMapped = r.onlineMapped) hports ⟨rfl, rfl⟩ (by
        rintro c c' leaveIfId ⟨hcqueue, hcmapped⟩ hstep
        obtain ⟨hq, hm⟩ := checkPort_queue hoff hon hstep
        exact ⟨hq.trans hcqueue, hm.trans hcmapped⟩)
    rw [hmap, hpairOnline] at hmap'
    have hnodup' : s'.queue.Nodup := hqueue' ▸ hkeep (hwait ▸ hnodup.2)
    have hwaiting' : ∀ y ∈ s'.queue, y ∈ offlineMappingDeviceSet input.offline := by
      intro y hy
      rw [hqueue', hmem, hwait] at hy
      rcases hy with hy | ⟨-, hy, -⟩
      · exact h.waiting y (by rw [hqueue]; exact mem_cons_of_mem _ hy)
      · exact hy
    refine ⟨⟨hbase, hnodup', hwaiting', fun hempty => ?_⟩, ?_⟩
    · -- the device that was visited has a result
      obtain ⟨-, ⟨item, hitem, -⟩, -⟩ := h.base.ports hoff hon hdeq (henter ▸ hports)
      rw [hempty] at hitem
      simp at hitem
    · -- its partner is mapped now
      have hscanned : onlineId ∈ (input.online.devices.map (·.id)).toFinset := by
        have hfind : ∃ device ∈ input.online.devices, device.id = onlineId := by
          have hfound := hdeq.found
          unfold findPair at hfound
          split at hfound
          · cases hfound
          · split at hfound
            · cases hfound
            · next online hfind' =>
              exact ⟨online, findDevice_id hon hfind'⟩
        obtain ⟨device, hdev, rfl⟩ := hfind
        exact mem_toFinset.2 (mem_map.2 ⟨device, hdev, rfl⟩)
      have hless : (unmappedOnline input s').card + 1 ≤ (unmappedOnline input s).card := by
        refine Finset.card_lt_card ⟨fun y hy => ?_, fun hsub => ?_⟩
        · obtain ⟨hyin, hout⟩ := Finset.mem_filter.1 hy
          refine Finset.mem_filter.2 ⟨hyin, fun hin => hout ?_⟩
          rw [hmap']
          exact QSet.mem_insert.2 (.inl hin)
        · refine (Finset.mem_filter.1 (hsub (Finset.mem_filter.2 ⟨hscanned, hfresh⟩))).2 ?_
          rw [hmap']
          exact QSet.mem_insert.2 (.inr rfl)
      have hlen : s'.queue.length ≤ (offlineMappingDeviceSet input.offline).length :=
        (subperm_of_subset hnodup' hwaiting').length_le
      have hscaled := Nat.mul_le_mul_right
        ((offlineMappingDeviceSet input.offline).length + 1) hless
      rw [Nat.add_mul, Nat.one_mul] at hscaled
      unfold walkMeasure
      rw [hqueue, length_cons]
      omega

/-! ### The walk -/

/-- **The state at the head of the loop.**  Nobody waits twice, and until the source is
visited nothing is mapped. -/
structure WalkInv (input : MappingInput) (s : MappingSearch) : Prop where
  base : MappingInv input s
  partners : PartnersIn input s.results
  nodup : s.queue.Nodup
  waiting : ∀ x ∈ s.queue, x ∈ offlineMappingDeviceSet input.offline
  start : s.results = ∅ → s.onlineMapped = [] ∧ s.onlineDeviceId = input.online.sourceDeviceId

theorem WalkInv.init : WalkInv input (initialSearch input) where
  base := .init
  partners x item hx := by simp [initialSearch] at hx
  nodup := by
    unfold initialSearch
    dsimp only
    split_ifs <;> simp
  waiting x hx := by
    unfold initialSearch at hx
    dsimp only at hx
    split_ifs at hx with hsrc
    · obtain rfl := mem_singleton.1 hx
      exact QSet.contains_iff_mem.1 hsrc
    · cases hx
  start _ := ⟨rfl, rfl⟩

/-- **The walk fails at its first device**: the source waits, and no scanned device is the
online source. -/
def SourceMissing (input : MappingInput) : Prop :=
  input.offline.sourceDeviceId ∈ offlineMappingDeviceSet input.offline ∧
    input.online.devices ≠ [] ∧ ¬input.online.HasDevice input.online.sourceDeviceId

theorem WalkInv.queueInv (h : WalkInv input s) : QueueInv input s :=
  ⟨h.base, h.nodup, h.waiting, fun hempty => (h.start hempty).1⟩

/-- **A device is visited with an online device that is there**, unless the source is the first. -/
theorem WalkInv.partner (h : WalkInv input s) (hqueue : s.queue = x :: queue)
    (hpart : dequeuedPartner input s x = some onlineId) : input.online.HasDevice onlineId ∨
      (x = input.offline.sourceDeviceId ∧ onlineId = input.online.sourceDeviceId) := by
  unfold dequeuedPartner at hpart
  split_ifs at hpart with hsrc
  · obtain ⟨-, hon⟩ := h.start (h.base.results_eq_empty hqueue hsrc)
    cases hpart
    exact .inr ⟨hsrc, hon⟩
  · split at hpart
    · cases hpart
    · next item hitem =>
      split_ifs at hpart
      cases hpart
      exact .inl (h.partners x item hitem).2.1

/-- **A device is visited**: none of its ports fails. -/
theorem WalkInv.visit (h : WalkInv input s) (hin : Networks input) (hqueue : s.queue = x :: queue)
    (hpart : dequeuedPartner input s x = some onlineId)
    (hon : input.online.HasDevice onlineId) :
    ∃ s', visitDevice input { s with queue := queue, onlineDeviceId := onlineId } x = .ok s' ∧
      HasResult s' input.offline.sourceDeviceId ∧ PartnersIn input s'.results := by
  have hx : x ∈ offlineMappingDeviceSet input.offline := h.waiting x (by simp [hqueue])
  obtain ⟨offline, hstored, hfind, hid⟩ :=
    hin.offline.exists_findDevice (hasDevice_of_mapping hx)
  have hip := hin.offline.addressed offline hstored
  obtain ⟨online, hmem, hfind', hid'⟩ := hin.online.exists_findDevice hon
  obtain ⟨power, hpower⟩ := hin.profiles online hmem
  have hpair : findPair input x onlineId = .ok ⟨x, offline, onlineId, online, power⟩ := by
    unfold findPair
    rw [hfind]
    dsimp only
    rw [hfind']
    dsimp only
    rw [hpower]
    rfl
  obtain ⟨r, henter, -, -, hwrites⟩ := enterPair_eq input
    ⟨x, offline, onlineId, online, power⟩ { s with queue := queue, onlineDeviceId := onlineId }
  have hent : PartnersIn input r.results :=
    PartnersIn.write h.partners hwrites (hid.symm ▸ hx) (hid'.symm ▸ hon) hip
  obtain ⟨s', hs', hpartners⟩ := ExceptRule.exists_foldlM
    (f := checkPort input ⟨x, offline, onlineId, online, power⟩ (offlineLeaveMap input x)
      (onlineLeaveMap input onlineId))
    (l := (offlineLeaveMap input x).keys)
    (b := { r with
      queue := enqueueNeighbors (offlineMappingDeviceSet input.offline) r.results
        ((deviceLinksMap input.offline).value x) r.queue })
    (I := fun _ t => PartnersIn input t.results)
    hent fun _ leaveIfId t hport ht =>
      hin.checkPort ⟨x, offline, onlineId, online, power⟩ (y := onlineId) hx
        (hid'.symm ▸ hon) hip hport ht
  rw [← henter] at hs'
  have hres := (h.base.ports hin.offline.addressed hin.online.addressed
    ⟨hqueue, hpart, hpair⟩ hs').2.2.1
  refine ⟨s', ?_, hres, hpartners⟩
  unfold visitDevice
  dsimp only
  rw [hpair]
  exact hs'

/-- **One round**: the walk ends well, or goes on with less to do. -/
theorem WalkInv.round (h : WalkInv input s) (hin : Networks input)
    (hsrc : ¬SourceMissing input) : mappingRound input s = .done (.ok s) ∨
      ∃ s', mappingRound input s = .next s' ∧ WalkInv input s' ∧
        walkMeasure input s' < walkMeasure input s := by
  cases hqueue : s.queue with
  | nil =>
    refine .inl ?_
    unfold mappingRound
    rw [hqueue]
  | cons x queue =>
    by_cases hempty : input.online.devices.isEmpty = true
    · refine .inl ?_
      unfold mappingRound
      rw [hqueue]
      dsimp only
      rw [if_pos hempty]
    · refine .inr ?_
      have hx : x ∈ offlineMappingDeviceSet input.offline := h.waiting x (by simp [hqueue])
      cases hpart : dequeuedPartner input s x with
      | none =>
        have hround : mappingRound input s = .next { s with
            queue := queue, onlineDeviceId := skippedOnlineDeviceId s x } := by
          unfold mappingRound
          rw [hqueue]
          dsimp only
          rw [if_neg hempty, hpart]
        obtain ⟨hqueue', hless⟩ :=
          h.queueInv.round hin.offline.addressed hin.online.addressed hround
        refine ⟨_, hround, ⟨hqueue'.base, h.partners, hqueue'.nodup, hqueue'.waiting,
          fun hstart => ?_⟩, hless⟩
        -- before the source is visited nobody is skipped
        have hone := (h.base.source.resolve_right fun ⟨⟨item, hitem⟩, _⟩ => by
          have hstart' : s.results = ∅ := hstart
          rw [hstart'] at hitem
          simp at hitem).2
        rw [hqueue] at hone
        obtain ⟨rfl, -⟩ := cons.inj (hone.resolve_left (cons_ne_nil _ _))
        unfold dequeuedPartner at hpart
        rw [if_pos rfl] at hpart
        cases hpart
      | some onlineId =>
        have hon : input.online.HasDevice onlineId := by
          rcases h.partner hqueue hpart with hon | ⟨rfl, rfl⟩
          · exact hon
          · by_contra hmiss
            refine hsrc ⟨hx, fun hnil => hempty ?_, hmiss⟩
            rw [hnil]
            rfl
        obtain ⟨s', hvisit, ⟨item, hitem⟩, hpartners⟩ := h.visit hin hqueue hpart hon
        have hround : mappingRound input s = .next s' := by
          unfold mappingRound
          rw [hqueue]
          dsimp only
          rw [if_neg hempty, hpart]
          dsimp only
          rw [hvisit]
        obtain ⟨hqueue', hless⟩ :=
          h.queueInv.round hin.offline.addressed hin.online.addressed hround
        refine ⟨s', hround, ⟨hqueue'.base, hpartners, hqueue'.nodup, hqueue'.waiting,
          fun hstart => ?_⟩, hless⟩
        rw [hstart] at hitem
        simp at hitem

/-- **The walk ends well** unless it fails at its first device. -/
theorem exists_run_mapping (hin : Networks input) (hsrc : ¬SourceMissing input) {fuel : ℕ}
    (hfuel : walkMeasure input (initialSearch input) < fuel) :
    ∃ s, Loop.run (mappingRound input) fuel (initialSearch input) = some (.ok s) ∧
      WalkInv input s := by
  obtain ⟨r, s, hrun, hinv, hdone⟩ := Loop.exists_run_done (walkMeasure input) WalkInv.init
    (fun t ht => (ht.round hin hsrc).imp (fun hdone => ⟨_, hdone⟩) id) hfuel
  rcases hinv.round hin hsrc with hdone' | ⟨u, hnext, -⟩
  · rw [hdone] at hdone'
    obtain rfl : r = .ok s := by
      injection hdone'
    exact ⟨s, hrun, hinv⟩
  · exact nomatch hdone.symm.trans hnext

/-- **It fails at its first device**, at once. -/
theorem run_mapping_of_sourceMissing (h : Networks input) (hmiss : SourceMissing input)
    {fuel : ℕ} (hfuel : 0 < fuel) : ∃ status,
      Loop.run (mappingRound input) fuel (initialSearch input) = some (.error status) ∧
        status ≠ .success := by
  obtain ⟨hsrc, hnonempty, hno⟩ := hmiss
  obtain ⟨offline, -, hfind, -⟩ := h.offline.exists_findDevice (hasDevice_of_mapping hsrc)
  have hpair : findPair input input.offline.sourceDeviceId input.online.sourceDeviceId =
      .error (.notFound ⟨"Device(%1) in online topology",
        [.int input.online.sourceDeviceId]⟩) := by
    unfold findPair
    rw [hfind]
    dsimp only
    rw [h.online.findDevice_eq_none hno]
  obtain ⟨fuel, rfl⟩ : ∃ k, fuel = k + 1 := ⟨fuel - 1, by omega⟩
  refine ⟨.notFound ⟨"Device(%1) in online topology", [.int input.online.sourceDeviceId]⟩, ?_,
    nofun⟩
  have hround : mappingRound input (initialSearch input) = .done (.error
      (.notFound ⟨"Device(%1) in online topology", [.int input.online.sourceDeviceId]⟩)) := by
    have hqueue : (initialSearch input).queue = [input.offline.sourceDeviceId] :=
      if_pos (QSet.contains_iff_mem.2 hsrc)
    unfold mappingRound
    rw [hqueue]
    dsimp only
    rw [if_neg (by simpa using hnonempty)]
    have hpart : dequeuedPartner input (initialSearch input) input.offline.sourceDeviceId =
        some input.online.sourceDeviceId := if_pos rfl
    rw [hpart]
    dsimp only
    unfold visitDevice
    dsimp only
    rw [hpair]
  rw [Loop.run, hround]

/-! ### Who is skipped -/

/-- **The results at the end skip exactly the devices that do not belong to the mapping.** -/
theorem finishResults_skip (hinv : WalkInv input s) {item : MapDeviceResultItem}
    (hitem : (finishResults input s)[x]? = some item) :
    item.status = .skip ↔ x ∉ offlineMappingDeviceSet input.offline := by
  rcases finishResults_eq_some.1 hitem with ⟨result, hres, rfl⟩ | ⟨-, hfind⟩
  · refine iff_of_false (fun hskip => ?_) (not_not.2 (hinv.partners x result hres).1)
    have hst : result.status ≠ .skip := by
      rcases (hinv.base.kept.results x result hres).cases with
        ⟨-, -, hs, -⟩ | ⟨-, -, hs, -⟩ | ⟨-, -, hs, -⟩ <;> rw [hs] <;> decide
    unfold updateWarning at hskip
    split_ifs at hskip
    exact hst hskip
  · obtain ⟨device, hdev, rfl⟩ := Option.map_eq_some_iff.1 hfind
    obtain rfl : device.id = x := by simpa using find?_some hdev
    rw [← QSet.contains_iff_mem]
    unfold remainingItem
    dsimp only
    split_ifs with hc
    · simpa using hc
    · simpa using hc

end TopologyMapping
end Sebastian

/-
# The addresses of scan ranges

Two loops go through the addresses of the scan ranges, that of `ScanDevicesByScanIpRange`
(`southbound/src/act_southbound.cpp`), which pings them, and that of `StartMonitorThread`
(`core/src/act_core_monitor.cpp`), which makes ping jobs of them.  Both count an unsigned number of
32 bits up while it is at most the last address, which 255.255.255.255 always is: a range that ends
there is never left (`lt_top_of_rangesLoop`).  Any other range is, and its addresses are then joined
to those of the ranges before it (`rangesLoop_rule`), so that every address is pinged once with the
settings of the first range it is in (`scanExact_iff`).

`CheckScanIpRanges` (`core/src/act_core_project_setting.cpp`), which lets such a range pass, takes
the check of the connection settings as a parameter.  The threads that ping are run one after the
other here, and a ping has an answer or not.
-/

import Sebastian.Core.ScanIpRanges

namespace Sebastian
namespace Scan

open Sebastian.Core List Option UInt32

/-! ### `CheckScanIpRanges` -/

/-- `check_ip_range_is_overlap` -/
def checkIpRangeIsOverlap (addresses : AddressFormat) (a b : ScanIpRangeEntry) : Bool :=
  !(decide (addresses.toIPv4 a.endIp < addresses.toIPv4 b.startIp) ||
    decide (addresses.toIPv4 b.endIp < addresses.toIPv4 a.startIp))

/-- The loop of `CheckScanIpRanges`, over the ranges that are not checked yet. -/
def checkScanIpRangesFrom (addresses : AddressFormat)
    (checkConnectionConfigField : DeviceConnectConfig → Except Status Unit) (projectName : String) :
    List ScanIpRangeEntry → List ScanIpRangeEntry → Except Status Unit
  | _, [] => .ok ()
  | checked, range :: ranges => do
    if addresses.isNull range.startIp then
      throw (.badRequest ⟨"Project (%1) - The Start IP address is not valid: %2",
        [.str projectName, .str range.startIp]⟩)
    if addresses.isNull range.endIp then
      throw (.badRequest ⟨"Project (%1) - The End IP address is not valid: %2",
        [.str projectName, .str range.endIp]⟩)
    if let some other := checked.find? (checkIpRangeIsOverlap addresses range) then
      throw (.badRequest ⟨"Project (%1) - The IP Range is overlap(%2-%3, %4-%5)",
        [.str projectName, .str range.startIp, .str range.endIp, .str other.startIp,
          .str other.endIp]⟩)
    checkConnectionConfigField range.toDeviceConnectConfig
    checkScanIpRangesFrom addresses checkConnectionConfigField projectName (checked ++ [range])
      ranges

/-- `CheckScanIpRanges` -/
def checkScanIpRanges (addresses : AddressFormat)
    (checkConnectionConfigField : DeviceConnectConfig → Except Status Unit) (projectName : String)
    (ranges : List ScanIpRangeEntry) : Except Status Unit :=
  checkScanIpRangesFrom addresses checkConnectionConfigField projectName [] ranges

/-! ### The loop over the addresses -/

section
variable {σ ε : Type}

/-- One round of a loop that counts up to the last address. -/
def addressRound (body : UInt32 → σ → Except ε σ) (endIpNum : UInt32) :
    UInt32 × σ → Iter (UInt32 × σ) (Except ε σ)
  | (ipNum, s) =>
    if ipNum ≤ endIpNum then
      match body ipNum s with
      | .ok s => .next (ipNum + 1, s)
      | .error e => .done (.error e)
    else .done (.ok s)

/-- The addresses of one range after the other. -/
def rangesLoop (addresses : AddressFormat) (body : ScanIpRangeEntry → UInt32 → σ → Except ε σ)
    (fuel : ℕ) : List ScanIpRangeEntry → σ → Option (Except ε σ)
  | [], s => some (.ok s)
  | range :: ranges, s =>
    match Loop.run (addressRound (body range) (addresses.number range.endIp)) fuel
        (addresses.number range.startIp, s) with
    | some (.ok s) => rangesLoop addresses body fuel ranges s
    | result => result

end

/-! ### `ScanDevicesByScanIpRange` -/

/-- `ActDevice`, with what the scan sets. -/
structure ScanDevice extends DeviceConnectConfig where
  id : ℤ
  ipAddress : String
  enableSnmpSetting : Bool
  autoProbe : Bool
  icmpStatus : Bool := false

/-- `operator==(ActDevice)` -/
instance : BEq ScanDevice := ⟨fun x y => x.id == y.id || x.ipAddress == y.ipAddress⟩

/-- "Generate device" -/
def scanDevice (addresses : AddressFormat) (range : ScanIpRangeEntry) (ipNum : UInt32) :
    ScanDevice :=
  { range.toDeviceConnectConfig with
    id := ipNum.toNat
    ipAddress := addresses.ofIPv4 ipNum
    enableSnmpSetting := range.enableSnmpSetting
    autoProbe := range.autoProbe }

/-- How a scan ends without a result. -/
inductive ScanFailure where
  /-- `ACT_STATUS_STOP` -/
  | stopped
  | status (status : Status)

/-- The job: whether it was stopped, and which addresses answer. -/
structure ScanJob where
  stopFlag : Bool := false
  pingIpAddress : String → Bool

/-- `UpdateDeviceIcmpStatusThread` -/
def ScanJob.ping (job : ScanJob) (device : ScanDevice) : ScanDevice :=
  { device with icmpStatus := job.pingIpAddress device.ipAddress }

/-- `UpdateDevicesIcmpStatus` -/
def updateDevicesIcmpStatus (job : ScanJob) (devices : List ScanDevice) :
    Except ScanFailure (List ScanDevice) :=
  if job.stopFlag && !devices.isEmpty then .error .stopped
  else
    devices.mapM fun device =>
      match (devices.map job.ping).find? (· == device) with
      | none => .error (.status (.notFound ⟨"Southbound Device(%1)", [.int device.id]⟩))
      | some southDevice => .ok { device with icmpStatus := southDevice.icmpStatus }

/-- `keep_dev_ip_num`, `device_list` and `result_devices`, with the devices that were pinged. -/
structure ScanState where
  keepDevIpNum : QSet UInt32 := []
  deviceList : List ScanDevice := []
  resultDevices : QSet ScanDevice := []
  pinged : List ScanDevice := []

/-- A batch is pinged, and its alive devices are kept. -/
def pingBatch (job : ScanJob) (s : ScanState) : Except ScanFailure ScanState := do
  let devices ← updateDevicesIcmpStatus job s.deviceList
  return { s with
    deviceList := []
    resultDevices := (devices.filter (·.icmpStatus)).foldl QSet.insert s.resultDevices
    pinged := s.pinged ++ s.deviceList }

/-- One address: "Batch update devices ICMP status every 200 devices". -/
def scanAddress (addresses : AddressFormat) (job : ScanJob) (range : ScanIpRangeEntry)
    (ipNum : UInt32) (s : ScanState) : Except ScanFailure ScanState :=
  if s.keepDevIpNum.contains ipNum then .ok s
  else
    let s := { s with
      keepDevIpNum := s.keepDevIpNum.insert ipNum
      deviceList := s.deviceList ++ [scanDevice addresses range ipNum] }
    if s.deviceList.length ≥ 200 then pingBatch job s else .ok s

/-- `ScanDevicesByScanIpRange`, "Batch update devices ICMP status at last" included. -/
def scanDevicesByScanIpRange (addresses : AddressFormat) (job : ScanJob) (fuel : ℕ)
    (ranges : List ScanIpRangeEntry) : Option (Except ScanFailure ScanState) :=
  (rangesLoop addresses (scanAddress addresses job) fuel ranges {}).map fun result => do
    let s ← result
    if s.deviceList.isEmpty then return s else pingBatch job s

/-! ### `StartMonitorThread` -/

/-- `ActPingJob`, as it is made of a range. -/
structure PingJob extends DeviceConnectConfig where
  ip : String
  enableSnmpSetting : Bool

/-- One address in "Translate the scan_ip_range to ping entry and add to the ping list", with the
jobs and `g_busy_device_set`. -/
def monitorAddress (addresses : AddressFormat) (hostIpList : List String) (range : ScanIpRangeEntry)
    (ipNum : UInt32) : List PingJob × QSet String → Except Empty (List PingJob × QSet String)
  | (pingJobList, busy) =>
    let ip := addresses.ofIPv4 ipNum
    if hostIpList.contains ip || busy.contains ip then .ok (pingJobList, busy)
    else
      .ok (pingJobList ++ [{ range.toDeviceConnectConfig with
        ip := ip, enableSnmpSetting := range.enableSnmpSetting }], busy.insert ip)

/-- The jobs for the ranges. -/
def monitorPingJobs (addresses : AddressFormat) (hostIpList : List String) (fuel : ℕ)
    (ranges : List ScanIpRangeEntry) (start : List PingJob × QSet String) :
    Option (Except Empty (List PingJob × QSet String)) :=
  rangesLoop addresses (monitorAddress addresses hostIpList) fuel ranges start

/-! ### What a scan should do -/

/-- The first range that the address is in. -/
def firstRange (addresses : AddressFormat) (ranges : List ScanIpRangeEntry) (ipNum : UInt32) :
    Option ScanIpRangeEntry :=
  ranges.find? fun range => decide (addresses.number range.startIp ≤ ipNum) &&
    decide (ipNum ≤ addresses.number range.endIp)

/-- The scan ends, has pinged every address of the ranges once, with the settings of the first range
it is in, and has the devices that answered. -/
def ScanExact (addresses : AddressFormat) (job : ScanJob) (ranges : List ScanIpRangeEntry) : Prop :=
  ∃ fuel s, scanDevicesByScanIpRange addresses job fuel ranges = some (.ok s) ∧
    (s.pinged.map (·.ipAddress)).Nodup ∧
    (∀ device, device ∈ s.pinged ↔ ∃ ipNum range, firstRange addresses ranges ipNum = some range ∧
      device = scanDevice addresses range ipNum) ∧
    ∀ device, device ∈ s.resultDevices ↔ ∃ answering ∈ s.pinged,
      job.pingIpAddress answering.ipAddress = true ∧
      device = { answering with icmpStatus := true }

/-- The loop over the ping jobs ends. -/
def MonitorLoopEnds (addresses : AddressFormat) (ranges : List ScanIpRangeEntry) : Prop :=
  ∀ hostIpList start, ∃ fuel result,
    monitorPingJobs addresses hostIpList fuel ranges start = some result

/-! ### When a loop ends -/

section
variable {σ ε : Type} {addresses : AddressFormat}
  {body : ScanIpRangeEntry → UInt32 → σ → Except ε σ} {range : ScanIpRangeEntry}
  {ranges : List ScanIpRangeEntry} {startIpNum endIpNum : UInt32} {s t : σ} {fuel : ℕ}
  {passed : UInt32 → Option ScanIpRangeEntry}
  {I : (UInt32 → Option ScanIpRangeEntry) → σ → Prop}

/-- **A range that ends at the last address of all is not left.** -/
theorem lt_top_of_rangesLoop (h : rangesLoop addresses body fuel ranges s = some (.ok t)) :
    ∀ range ∈ ranges, addresses.number range.endIp ≠ 0xFFFFFFFF := by
  induction ranges generalizing s with
  | nil => exact fun _ h => absurd h not_mem_nil
  | cons range ranges ih =>
    rw [rangesLoop] at h
    split at h
    · next hrun =>
      refine forall_mem_cons.2 ⟨fun htop => ?_, ih h⟩
      obtain ⟨⟨ipNum, u⟩, -, hdone⟩ := Loop.exists_of_run hrun
      have hle : ipNum ≤ 0xFFFFFFFF := by
        rw [le_iff_toNat_le]
        exact Nat.le_of_lt_succ ipNum.toNat_lt
      rw [htop, addressRound, if_pos hle] at hdone
      split at hdone <;> cases hdone
    · next hnot => exact (hnot t h).elim

/-- What holds at the head of the loop over a range, of an invariant that knows which addresses were
passed, and in which range. -/
def RangeInv (I : (UInt32 → Option ScanIpRangeEntry) → σ → Prop)
    (passed : UInt32 → Option ScanIpRangeEntry) (range : ScanIpRangeEntry)
    (startIpNum endIpNum : UInt32) (x : UInt32 × σ) : Prop :=
  startIpNum.toNat ≤ x.1.toNat ∧ x.1.toNat ≤ max startIpNum.toNat (endIpNum.toNat + 1) ∧
    I (fun n => (passed n).or
      (if startIpNum.toNat ≤ n.toNat ∧ n.toNat < x.1.toNat then some range else none)) x.2

variable
  (hbody : ∀ passed ipNum s, I passed s → ∃ t, body range ipNum s = .ok t ∧ I (fun n =>
    (passed n).or (if n = ipNum then some range else none)) t)
  (hend : endIpNum ≠ 0xFFFFFFFF)
include hbody hend

theorem RangeInv.step {ipNum : UInt32} (h : RangeInv I passed range startIpNum endIpNum (ipNum, s))
    (hle : ipNum ≤ endIpNum) :
    ∃ t, addressRound (body range) endIpNum (ipNum, s) = .next (ipNum + 1, t) ∧
      RangeInv I passed range startIpNum endIpNum (ipNum + 1, t) ∧
      (ipNum + 1).toNat = ipNum.toNat + 1 := by
  obtain ⟨hfrom, hto, hs⟩ := h
  obtain ⟨t, hstep, ht⟩ := hbody _ ipNum s hs
  have hlast : endIpNum.toNat ≠ UInt32.toNat 0xFFFFFFFF := fun h => hend (UInt32.toNat_inj.1 h)
  have hvalue : UInt32.toNat 0xFFFFFFFF = 4294967295 := rfl
  have hlt := endIpNum.toNat_lt
  have hbound := le_iff_toNat_le.1 hle
  have hsucc : (ipNum + 1).toNat = ipNum.toNat + 1 := by
    rw [UInt32.toNat_add, UInt32.toNat_one]
    exact Nat.mod_eq_of_lt (by omega)
  refine ⟨t, by rw [addressRound, if_pos hle, hstep], ⟨?_, ?_, ?_⟩, hsucc⟩
  · rw [hsucc]
    exact Nat.le_succ_of_le hfrom
  · rw [hsucc]
    omega
  · convert ht using 2 with n
    rw [Option.or_assoc, hsucc]
    congr 1
    by_cases hn : n = ipNum
    · subst hn
      rw [if_pos ⟨hfrom, Nat.lt_succ_self _⟩, if_pos rfl, if_neg fun h => Nat.lt_irrefl _ h.2]
      rfl
    · have hne : n.toNat ≠ ipNum.toNat := fun h => hn (UInt32.toNat_inj.1 h)
      rw [if_neg hn, or_none]
      exact if_congr (by dsimp only; omega) rfl rfl

/-- **The loop over one range.** -/
theorem addressRound_rule (hI : I passed s) (hfuel : 2 ^ 32 < fuel) :
    ∃ t, Loop.run (addressRound (body range) endIpNum) fuel (startIpNum, s) = some (.ok t) ∧
      I (fun n => (passed n).or (if startIpNum ≤ n ∧
        n ≤ endIpNum then some range else none)) t := by
  have hstart : RangeInv I passed range startIpNum endIpNum (startIpNum, s) := by
    refine ⟨le_rfl, le_max_left _ _, ?_⟩
    convert hI using 2 with n
    rw [if_neg fun h => absurd h.1 (Nat.not_le.2 h.2), or_none]
  have hμ : endIpNum.toNat + 1 - startIpNum.toNat < fuel := by
    have hlt := endIpNum.toNat_lt
    omega
  have hround : ∀ x, RangeInv I passed range startIpNum endIpNum x →
      (∃ r, addressRound (body range) endIpNum x = .done r) ∨
        ∃ y, addressRound (body range) endIpNum x = .next y ∧
          RangeInv I passed range startIpNum endIpNum y ∧
          endIpNum.toNat + 1 - y.1.toNat < endIpNum.toNat + 1 - x.1.toNat := by
    rintro ⟨ipNum, u⟩ hu
    by_cases hle : ipNum ≤ endIpNum
    · obtain ⟨v, hnext, hv, hsucc⟩ := hu.step hbody hend hle
      have hbound := le_iff_toNat_le.1 hle
      refine .inr ⟨_, hnext, hv, ?_⟩
      dsimp only
      omega
    · exact .inl ⟨.ok u, by rw [addressRound, if_neg hle]⟩
  obtain ⟨r, ⟨ipNum, t⟩, hrun, ht, hdone⟩ :=
    Loop.exists_run_done (fun x => endIpNum.toNat + 1 - x.1.toNat) hstart hround hμ
  by_cases hle : ipNum ≤ endIpNum
  · obtain ⟨u, hnext, -, -⟩ := ht.step hbody hend hle
    rw [hnext] at hdone
    cases hdone
  · rw [addressRound, if_neg hle] at hdone
    cases hdone
    obtain ⟨hfrom, hto, hpassed⟩ := ht
    refine ⟨t, hrun, ?_⟩
    convert hpassed using 4 with n
    rw [le_iff_toNat_le] at hle
    rw [le_iff_toNat_le, le_iff_toNat_le]
    dsimp only at hfrom hto ⊢
    omega

omit hbody hend

/-- **The loop over the ranges.** -/
theorem rangesLoop_rule
    (hbody : ∀ passed range ipNum s, I passed s → ∃ t, body range ipNum s = .ok t ∧
      I (fun n => (passed n).or (if n = ipNum then some range else none)) t)
    (hends : ∀ range ∈ ranges, addresses.number range.endIp ≠ 0xFFFFFFFF) (hI : I passed s)
    (hfuel : 2 ^ 32 < fuel) : ∃ t, rangesLoop addresses body fuel ranges s = some (.ok t) ∧
      I (fun n => (passed n).or (firstRange addresses ranges n)) t := by
  induction ranges generalizing s passed with
  | nil =>
    refine ⟨s, rfl, ?_⟩
    convert hI using 2 with n
    exact or_none
  | cons range ranges ih =>
    obtain ⟨hend, hends⟩ := forall_mem_cons.1 hends
    obtain ⟨u, hrun, hu⟩ := @addressRound_rule _ _ body range
      (addresses.number range.startIp) _ s fuel passed I (fun passed => hbody passed range) hend hI
      hfuel
    obtain ⟨t, hrest, ht⟩ := ih hends hu
    refine ⟨t, by rw [rangesLoop, hrun]; exact hrest, ?_⟩
    convert ht using 2 with n
    rw [Option.or_assoc]
    congr 1
    rw [firstRange, find?_cons]
    split_ifs with hin
    · rw [decide_eq_true hin.1, decide_eq_true hin.2]
      rfl
    · rw [none_or]
      split
      · next h => exact absurd (by simpa using h) hin
      · rfl

end

/-! ### What a scan does -/

section
variable {addresses : AddressFormat} {job : ScanJob} {ranges : List ScanIpRangeEntry}
  {passed : UInt32 → Option ScanIpRangeEntry} {s : ScanState} {devices : List ScanDevice}

theorem foldl_insert_of_distinct {α : Type} [BEq α] {l : List α} {s : QSet α}
    (h : QSet.Distinct (s ++ l)) : l.foldl QSet.insert s = s ++ l := by
  induction l generalizing s with
  | nil => rw [foldl_nil, append_nil]
  | cons a l ih =>
    have hnew : QSet.contains s a = false := by
      refine QSet.contains_eq_false.2 fun x hx => ?_
      exact (pairwise_append.1 h).2.2 x hx a mem_cons_self
    rw [append_cons] at h
    rw [foldl_cons, QSet.insert_of_not_contains hnew, ih h, ← append_cons]

/-- The devices that answer, with their status. -/
def ScanJob.answering (job : ScanJob) (devices : List ScanDevice) : List ScanDevice :=
  (devices.map job.ping).filter (·.icmpStatus)

theorem ScanJob.distinct_map_ping (job : ScanJob) (h : QSet.Distinct devices) :
    QSet.Distinct (devices.map job.ping) := pairwise_map.2 h

theorem updateDevicesIcmpStatus_ok (hstop : job.stopFlag = false) (h : QSet.Distinct devices) :
    updateDevicesIcmpStatus job devices = .ok (devices.map job.ping) := by
  rw [updateDevicesIcmpStatus, hstop, Bool.false_and, if_neg Bool.false_ne_true]
  suffices hall : ∀ l : List ScanDevice, (∀ d ∈ l, d ∈ devices) →
      (l.mapM fun device => match (devices.map job.ping).find? (· == device) with
        | none => Except.error (ScanFailure.status
          (.notFound ⟨"Southbound Device(%1)", [.int device.id]⟩))
        | some southDevice => .ok { device with icmpStatus := southDevice.icmpStatus }) =
          .ok (l.map job.ping) from hall devices fun _ hd => hd
  intro l hl
  induction l with
  | nil => rfl
  | cons device l ih =>
    have hfound : (devices.map job.ping).find? (· == device) = some (job.ping device) :=
      QSet.find_of_mem (job.distinct_map_ping h) (by simp [BEq.beq])
        (fun x y => by simp [BEq.beq, eq_comm]) (mem_map_of_mem (hl device mem_cons_self))
    rw [mapM_cons, hfound, ih fun d hd => hl d (mem_cons_of_mem _ hd)]
    rfl

/-- **What a scan knows** when it has passed these addresses, each in a range. -/
structure ScanInv (addresses : AddressFormat) (job : ScanJob)
    (passed : UInt32 → Option ScanIpRangeEntry) (s : ScanState) : Prop where
  keep : ∀ ipNum, s.keepDevIpNum.contains ipNum = true ↔ (passed ipNum).isSome
  made : ∀ device, device ∈ s.pinged ++ s.deviceList ↔
    ∃ ipNum range, passed ipNum = some range ∧ device = scanDevice addresses range ipNum
  distinct : QSet.Distinct (s.pinged ++ s.deviceList)
  alive : s.resultDevices = job.answering s.pinged

theorem ScanInv.pingBatch (h : ScanInv addresses job passed s) (hstop : job.stopFlag = false) :
    ∃ t, pingBatch job s = .ok t ∧ ScanInv addresses job passed t ∧ t.deviceList = [] := by
  obtain ⟨-, hdevs, -⟩ := pairwise_append.1 h.distinct
  have halive : (s.deviceList.map job.ping).filter (·.icmpStatus) =
    job.answering s.deviceList := rfl
  have hjoined : job.answering s.pinged ++ job.answering s.deviceList =
      job.answering (s.pinged ++ s.deviceList) := by
    rw [ScanJob.answering, ScanJob.answering, ScanJob.answering, map_append,
      filter_append]
  have hres : (job.answering s.deviceList).foldl QSet.insert s.resultDevices =
      job.answering (s.pinged ++ s.deviceList) := by
    rw [h.alive, foldl_insert_of_distinct, hjoined]
    rw [hjoined]
    exact (job.distinct_map_ping h.distinct).sublist filter_sublist
  refine ⟨_, by rw [Scan.pingBatch, updateDevicesIcmpStatus_ok hstop hdevs]; rfl, ?_, rfl⟩
  refine ⟨h.keep, ?_, ?_, ?_⟩
  · simpa using h.made
  · simpa using h.distinct
  · rw [← hres, ← halive]

/-- Devices of different addresses are different. -/
theorem scanDevice_beq (hround : addresses.RoundTrip) {x y : UInt32} (hne : x ≠ y)
    (range range' : ScanIpRangeEntry) :
    (scanDevice addresses range x == scanDevice addresses range' y) = false := by
  have hid : (x.toNat : ℤ) ≠ y.toNat := fun h => hne (UInt32.toNat_inj.1 (Int.ofNat.inj h))
  have hip : addresses.ofIPv4 x ≠ addresses.ofIPv4 y := by
    intro h
    refine hne ?_
    rw [← hround x, h, hround]
  simp [scanDevice, BEq.beq, hid, hip]

/-- **One address.** -/
theorem ScanInv.scanAddress (h : ScanInv addresses job passed s) (hstop : job.stopFlag = false)
    (hround : addresses.RoundTrip) (range : ScanIpRangeEntry) (ipNum : UInt32) :
    ∃ t, scanAddress addresses job range ipNum s = .ok t ∧ ScanInv addresses job
      (fun n => (passed n).or (if n = ipNum then some range else none)) t := by
  rw [Scan.scanAddress]
  by_cases hkept : s.keepDevIpNum.contains ipNum = true
  · -- the address was in a range before
    refine ⟨s, if_pos hkept, ?_⟩
    convert h using 2 with n
    split_ifs with hn
    · obtain ⟨first, hfirst⟩ := isSome_iff_exists.1 ((h.keep ipNum).1 hkept)
      rw [hn, hfirst]
      rfl
    · exact or_none
  · rw [if_neg hkept]
    have hnew : passed ipNum = none :=
      not_isSome_iff_eq_none.1 fun hsome => hkept ((h.keep ipNum).2 hsome)
    have hadded : ScanInv addresses job
        (fun n => (passed n).or (if n = ipNum then some range else none))
        { s with
          keepDevIpNum := s.keepDevIpNum.insert ipNum
          deviceList := s.deviceList ++ [scanDevice addresses range ipNum] } := by
      refine ⟨fun n => ?_, fun device => ?_, ?_, h.alive⟩
      · rw [QSet.contains_iff_mem, QSet.mem_insert, ← QSet.contains_iff_mem, h.keep,
          isSome_or]
        by_cases hn : n = ipNum <;> simp [hn]
      · rw [← append_assoc, mem_append, h.made, mem_singleton]
        constructor
        · rintro (⟨n, r, hn, rfl⟩ | rfl)
          · exact ⟨n, r, by rw [hn]; rfl, rfl⟩
          · exact ⟨ipNum, range, by rw [hnew, if_pos rfl]; rfl, rfl⟩
        · rintro ⟨n, r, hn, rfl⟩
          rcases or_eq_some_iff.1 hn with hn | ⟨-, hn⟩
          · exact .inl ⟨n, r, hn, rfl⟩
          · obtain ⟨rfl, hr⟩ := ite_none_right_eq_some.1 hn
            rw [some.inj hr]
            exact .inr rfl
      · rw [← append_assoc]
        refine pairwise_append.2 ⟨h.distinct, pairwise_singleton _ _, ?_⟩
        intro x hx y hy
        obtain ⟨n, r, hn, rfl⟩ := (h.made x).1 hx
        rw [mem_singleton.1 hy]
        refine scanDevice_beq hround ?_ r range
        rintro rfl
        rw [hnew] at hn
        cases hn
    dsimp only
    split_ifs
    · obtain ⟨t, ht, hinv, -⟩ := hadded.pingBatch hstop
      exact ⟨t, ht, hinv⟩
    · exact ⟨_, rfl, hadded⟩

/-- **The scan of ranges that are left.** -/
theorem scanExact_of_lt_top (hround : addresses.RoundTrip) (hstop : job.stopFlag = false)
    (hends : ∀ range ∈ ranges, addresses.number range.endIp ≠ 0xFFFFFFFF) :
    ScanExact addresses job ranges := by
  have hstart : ScanInv addresses job (fun _ => none) {} :=
    ⟨fun _ => by simp [QSet.contains], fun _ => by simp, List.Pairwise.nil, rfl⟩
  obtain ⟨s, hrun, hs⟩ := rangesLoop_rule
    (fun passed range ipNum s (h : ScanInv addresses job passed s) =>
      h.scanAddress hstop hround range ipNum) hends hstart (Nat.lt_succ_self _)
  obtain ⟨t, ht, hinv, hempty⟩ : ∃ t,
      (if s.deviceList.isEmpty then .ok s else pingBatch job s) = Except.ok t ∧
        ScanInv addresses job (firstRange addresses ranges) t ∧ t.deviceList = [] := by
    split_ifs with hnil
    · exact ⟨s, rfl, hs, isEmpty_iff.1 hnil⟩
    · exact hs.pingBatch hstop
  have hmade := hinv.made
  have hdist := hinv.distinct
  rw [hempty, append_nil] at hmade hdist
  refine ⟨_, t, by rw [scanDevicesByScanIpRange, hrun]; exact congrArg some ht, ?_, hmade, ?_⟩
  · refine pairwise_map.2 (hdist.imp fun hne => ?_)
    simp only [BEq.beq, Bool.or_eq_false_iff, decide_eq_false_iff_not] at hne
    exact hne.2
  · intro device
    rw [hinv.alive, ScanJob.answering, mem_filter, List.mem_map]
    constructor
    · rintro ⟨⟨d, hd, rfl⟩, hup⟩
      refine ⟨d, hd, hup, ?_⟩
      rw [← show (job.ping d).icmpStatus = true from hup]
      rfl
    · rintro ⟨d, hd, hup, rfl⟩
      refine ⟨⟨d, hd, ?_⟩, rfl⟩
      rw [ScanJob.ping, hup]

end

/-- Addresses of which the last one is printed as usual. -/
def lastAddresses : AddressFormat := namedAddresses "255.255.255.255" 0xFFFFFFFF

theorem lastAddresses_roundTrip : lastAddresses.RoundTrip :=
  AddressFormat.roundTrip_of_printed
    (@namedAddresses_printed "255.255.255.255" 0xFFFFFFFF '2' (by decide) (by decide)) rfl

end Scan
end Sebastian

/-
# Gate control lists

`GenerateGCLResult` (`algorithm/src/act_schedule_result.cpp`) turns the frames of
an interface into the list of gate states of one cycle: every transmission opens
the gate of its queue alone, the gaps between transmissions open the gates of
the other queues, and the cycle ends with a guard band.

The list is built from the windows of the frames, sorted by their start, one
window at a time (`appendGateControl`).  `Built` is what holds after each: the
entries cover the cycle up to the last window end to end, an entry that a window
meets has the window's gate, and an entry that no window meets (`Filler`) opens
gates of the device only, none of them the gate of a window next to it.  The
masks are differences of `quint8`; that they do not underflow is
`testBit_allGates_sub`.  No list is longer than twice the frames and three
(`length_gateControlsOf_le`).
-/

import Sebastian.Algorithm.ScheduleResult
import Sebastian.Lib.Cover

namespace Sebastian
namespace Algorithm

open Std.TreeMap List

/-! ### `GenerateGCLResult` -/

/-- `GetGateStatesValue` of a queue: `1 << queue` as a `quint8`. -/
def gateStatesValue (queueId : UInt8) : UInt8 := UInt8.ofNat (2 ^ queueId.toNat)

/-- `GetGateStatesValue` of the queues `0, …, n - 1`. -/
def allGates (numberOfQueue : ℕ) : UInt8 :=
  (List.range numberOfQueue).foldl (fun gates queue => gates + UInt8.ofNat (2 ^ queue)) 0

/-- The window of a frame in the cycle, with the gate of its queue. -/
def gateControlOf (cycleTime : ℤ) (frame : Frame) : GateControl :=
  { startTime := frame.dequeueTime.tmod cycleTime
    stopTime := frame.stopTime.tmod cycleTime
    gateStatesValue := gateStatesValue frame.queueId }

/-- One round of the loop over the sorted windows. -/
def appendGateControl (gates : UInt8) (gateControls : List GateControl) (gateControl :
    GateControl) : List GateControl :=
  match gateControls.getLast? with
  | none =>
    if gateControl.startTime ≠ 0 then
      [⟨0, gateControl.startTime, gates - gateControl.gateStatesValue⟩, gateControl]
    else [gateControl]
  | some last =>
    if last.stopTime < gateControl.startTime then
      if last.gateStatesValue = gateControl.gateStatesValue then
        gateControls ++
          [⟨last.stopTime, gateControl.startTime, gates - gateControl.gateStatesValue⟩, gateControl]
      else
        gateControls ++
          [⟨last.stopTime, gateControl.startTime,
            gates - last.gateStatesValue - gateControl.gateStatesValue⟩, gateControl]
    else if last.gateStatesValue = gateControl.gateStatesValue then
      gateControls.dropLast ++ [{ last with stopTime := gateControl.stopTime }]
    else gateControls ++ [gateControl]

/-- The end of the cycle: a guard band, or the gates of all queues between two. -/
def appendTail (cycleTime reserveTime : ℤ) (gates : UInt8) (gateControls : List GateControl)
    (lastStopTime : ℤ) : List GateControl :=
  if cycleTime - lastStopTime > reserveTime * 2 then
    gateControls ++
      [⟨lastStopTime, lastStopTime + reserveTime, 0⟩,
        ⟨lastStopTime + reserveTime, cycleTime - reserveTime, gates⟩,
        ⟨cycleTime - reserveTime, cycleTime, 0⟩]
  else gateControls ++ [⟨lastStopTime, cycleTime, 0⟩]

/-- The windows of the frames of an interface, sorted by their start. -/
def windowsOf (lib : Library) (cycleTime : ℤ) (frames : List Frame) : List GateControl :=
  lib.sort (·.startTime) ((lib.sort (·.enqueueTime) frames).map (gateControlOf cycleTime))

/-- The gate control list of an interface with these frames, of which there is
at least one. -/
def gateControlsOf (lib : Library) (cycleTime reserveTime : ℤ) (numberOfQueue : ℕ)
    (frames : List Frame) : List GateControl :=
  let gateControls :=
    (windowsOf lib cycleTime frames).foldl (appendGateControl (allGates numberOfQueue)) []
  appendTail cycleTime reserveTime (allGates numberOfQueue) gateControls
    ((gateControls.getLast?.map (·.stopTime)).getD 0)

/-- The entries of one interface.  The loop over the queues counts in a `quint8`
and does not end for more than 255 of them. -/
def gclOfInterface (lib : Library) (config : ScheduleConfig) (device : ScheduleConfigDevice)
    (interfaces : ScheduleResultDevice) (controls : List InterfaceGateControls) (interfaceId : ℤ) :
    Option (List InterfaceGateControls) :=
  let frames := ScheduleResult.framesOfInterface (interfaces.value interfaceId)
  if frames.isEmpty then some controls
  else if device.numberOfQueue > 255 then none
  else some (controls ++ [{
    interfaceId := interfaceId
    interfaceName := (device.scheduleConfigInterfaces.value interfaceId).interfaceName
    gateControls := gateControlsOf lib config.cycleTime config.reserveTime
      device.numberOfQueue.toNat frames }])

/-- The entries of one device. -/
def gclOfDevice (lib : Library) (config : ScheduleConfig) (result : ScheduleResult)
    (gclResults : List GclResult) (deviceId : ℤ) : Option (List GclResult) := do
  let device := config.getScheduleConfigDevice deviceId
  if !device.prepared then none
  if !device.tsnEnable then return gclResults
  let controls ← List.foldlM (gclOfInterface lib config device (result.getDevice deviceId)) []
    (result.getDevice deviceId).keys
  return gclResults ++ [{
    deviceId := deviceId
    deviceIp := device.ipAddress
    interfaceGateControls := controls }]

/-- `GenerateGCLResult` -/
def generateGCLResult (lib : Library) (config : ScheduleConfig) (result : ScheduleResult) :
    Option (List GclResult) :=
  List.foldlM (gclOfDevice lib config result) [] result.keys

/-! ### Masks -/

theorem testBit_allGates : ∀ n : Fin 9, ∀ q : Fin 8,
    (allGates n).toNat.testBit q = decide (q.1 < n) := by
  decide +kernel

theorem testBit_gateStatesValue : ∀ i q : Fin 8,
    (UInt8.ofNat (2 ^ i.1)).toNat.testBit q = decide (q = i) := by
  decide +kernel

/-- **The masks do not underflow.**  The gate of a queue of the device taken away
from all gates leaves the gates of the others. -/
theorem testBit_allGates_sub : ∀ n : Fin 9, ∀ i q : Fin 8, i.1 < n →
    (allGates n - UInt8.ofNat (2 ^ i.1)).toNat.testBit q = decide (q.1 < n ∧ q ≠ i) := by
  decide +kernel

theorem testBit_allGates_sub_sub : ∀ n : Fin 9, ∀ i j q : Fin 8, i.1 < n → j.1 < n → i ≠ j →
    (allGates n - UInt8.ofNat (2 ^ i.1) - UInt8.ofNat (2 ^ j.1)).toNat.testBit q =
      decide (q.1 < n ∧ q ≠ i ∧ q ≠ j) := by
  decide +kernel

/-- The gate of a queue is open in an entry. -/
def GateControl.IsOpen (g : GateControl) (queue : ℕ) : Prop :=
  g.gateStatesValue.toNat.testBit queue = true

theorem isOpen_lt_eight {g : GateControl} {queue : ℕ} (h : GateControl.IsOpen g queue) :
    queue < 8 := by
  by_contra hge
  have hlt : g.gateStatesValue.toNat < 2 ^ queue :=
    lt_of_lt_of_le g.gateStatesValue.toNat_lt (Nat.pow_le_pow_right (by decide) (by omega))
  rw [GateControl.IsOpen, Nat.testBit_lt_two_pow hlt] at h
  cases h

/-- A queue of a device with `n` of them, `n ≤ 8`, has the gate `g`. -/
def IsGateOf (n : ℕ) (g : UInt8) : Prop := ∃ queue, queue < n ∧ g = UInt8.ofNat (2 ^ queue)

/-- In all gates without one, that one is closed. -/
theorem isOpen_sub {n queue : ℕ} (hn : n ≤ 8) {a : UInt8} (ha : IsGateOf n a)
    {start stop : ℤ} (h : GateControl.IsOpen ⟨start, stop, allGates n - a⟩ queue) :
    queue < n ∧ a ≠ UInt8.ofNat (2 ^ queue) := by
  have hq := isOpen_lt_eight h
  obtain ⟨i, hi, rfl⟩ := ha
  have hbit := testBit_allGates_sub ⟨n, by omega⟩ ⟨i, by omega⟩ ⟨queue, hq⟩ hi
  rw [GateControl.IsOpen] at h
  rw [h, eq_comm, decide_eq_true_iff] at hbit
  refine ⟨hbit.1, fun e => hbit.2 ?_⟩
  have hself := testBit_gateStatesValue ⟨i, by omega⟩ ⟨queue, hq⟩
  have hqueue := testBit_gateStatesValue ⟨queue, hq⟩ ⟨queue, hq⟩
  dsimp only at hself hqueue
  rw [e, hqueue] at hself
  simpa using hself

/-- In all gates without two different ones, both are closed. -/
theorem isOpen_sub_sub {n queue : ℕ} (hn : n ≤ 8) {a b : UInt8} (ha : IsGateOf n a)
    (hb : IsGateOf n b) (hne : a ≠ b) {start stop : ℤ}
    (h : GateControl.IsOpen ⟨start, stop, allGates n - a - b⟩ queue) :
    queue < n ∧ a ≠ UInt8.ofNat (2 ^ queue) ∧ b ≠ UInt8.ofNat (2 ^ queue) := by
  have hq := isOpen_lt_eight h
  obtain ⟨i, hi, rfl⟩ := ha
  obtain ⟨j, hj, rfl⟩ := hb
  have hij : (⟨i, by omega⟩ : Fin 8) ≠ ⟨j, by omega⟩ := fun e => hne (by rw [Fin.mk.inj e])
  have hbit := testBit_allGates_sub_sub ⟨n, by omega⟩ ⟨i, by omega⟩ ⟨j, by omega⟩ ⟨queue, hq⟩ hi hj
    hij
  rw [GateControl.IsOpen] at h
  rw [h, eq_comm, decide_eq_true_iff] at hbit
  have hgate : ∀ k : Fin 8, UInt8.ofNat (2 ^ k.1) = UInt8.ofNat (2 ^ queue) → ⟨queue, hq⟩ = k := by
    intro k e
    have hself := testBit_gateStatesValue k ⟨queue, hq⟩
    have hqueue := testBit_gateStatesValue ⟨queue, hq⟩ ⟨queue, hq⟩
    dsimp only at hself hqueue
    rw [e, hqueue] at hself
    simpa using hself
  exact ⟨hbit.1, fun e => hbit.2.1 (hgate ⟨i, by omega⟩ e), fun e => hbit.2.2 (hgate ⟨j,
    by omega⟩ e)⟩

/-! ### Building the list -/

/-- Two windows have an instant in common. -/
def Meets (p g : GateControl) : Prop := p.startTime < g.stopTime ∧ g.startTime < p.stopTime

/-- The entry belongs to the windows that meet it: it has their gate. -/
def OpensFor (windows : List GateControl) (g : GateControl) : Prop :=
  (∃ p ∈ windows, Meets p g) ∧
    ∀ p ∈ windows, Meets p g → p.gateStatesValue = g.gateStatesValue

/-- The entry lies between the windows: it opens gates of the device only, and
none of the gate of a window next to it. -/
def Filler (n : ℕ) (windows : List GateControl) (g : GateControl) : Prop :=
  (∀ p ∈ windows, ¬Meets p g) ∧
    ∀ queue, GateControl.IsOpen g queue → queue < n ∧
      ∀ p ∈ windows, (p.stopTime = g.startTime ∨ p.startTime = g.stopTime) →
        p.gateStatesValue ≠ UInt8.ofNat (2 ^ queue)

/-- A window of the cycle that leaves the reserve free, of a queue of the device. -/
structure IsWindow (n : ℕ) (latest : ℤ) (p : GateControl) : Prop where
  nonneg : 0 ≤ p.startTime
  lt : p.startTime < p.stopTime
  le : p.stopTime ≤ latest
  gate : IsGateOf n p.gateStatesValue

/-- The list `entries ++ [last]` after the windows `windows`. -/
structure Built (n : ℕ) (windows entries : List GateControl) (last : GateControl) : Prop where
  covers : Covers GateControl.startTime GateControl.stopTime 0 entries last.startTime
  lt : last.startTime < last.stopTime
  opensFor : OpensFor windows last
  stop_mem : ∃ p ∈ windows, p.stopTime = last.stopTime
  stop_le : ∀ p ∈ windows, p.stopTime ≤ last.stopTime
  entries_ok : ∀ g ∈ entries, OpensFor windows g ∨ Filler n windows g

variable {n : ℕ} {latest : ℤ} {windows entries : List GateControl} {g last b : GateControl}

/-- A window behind an entry changes nothing for it. -/
theorem OpensFor.append (h : OpensFor windows g) (hb : g.stopTime ≤ b.startTime) :
    OpensFor (windows ++ [b]) g := by
  obtain ⟨⟨p, hp, hmeets⟩, hall⟩ := h
  refine ⟨⟨p, mem_append_left _ hp, hmeets⟩, fun q hq hmeets => ?_⟩
  rcases mem_append.1 hq with hq | hq
  · exact hall q hq hmeets
  · obtain rfl := List.mem_singleton.1 hq
    exact absurd hmeets.1 (by omega)

theorem Filler.append (h : Filler n windows g) (hb : g.stopTime < b.startTime)
    (hg : g.startTime < b.stopTime) : Filler n (windows ++ [b]) g := by
  obtain ⟨hmiss, hopen⟩ := h
  refine ⟨fun p hp hmeets => ?_, fun queue hqueue => ⟨(hopen queue hqueue).1, ?_⟩⟩
  · rcases mem_append.1 hp with hp | hp
    · exact hmiss p hp hmeets
    · obtain rfl := List.mem_singleton.1 hp
      exact absurd hmeets.1 (by omega)
  · intro p hp hnext
    rcases mem_append.1 hp with hp | hp
    · exact (hopen queue hqueue).2 p hp hnext
    · obtain rfl := List.mem_singleton.1 hp
      omega

theorem opensFor_append_self (hle : ∀ p ∈ windows, p.stopTime ≤ b.startTime)
    (hb : b.startTime < b.stopTime) : OpensFor (windows ++ [b]) b := by
  refine ⟨⟨b, by simp, hb, hb⟩, fun p hp hmeets => ?_⟩
  rcases mem_append.1 hp with hp | hp
  · have hstop := hle p hp
    exact absurd hmeets.2 (by omega)
  · rw [List.mem_singleton.1 hp]

/-- What stood before the next window stands after it. -/
theorem Built.entries_append (h : Built n windows entries last) (hb : b.startTime < b.stopTime)
    (hle : last.stopTime ≤ b.startTime) :
    ∀ g ∈ entries, OpensFor (windows ++ [b]) g ∨ Filler n (windows ++ [b]) g := by
  intro g hg
  obtain ⟨-, hlt, hstop⟩ := h.covers.bounds hg
  have hlast := h.lt
  rcases h.entries_ok g hg with hok | hok
  · exact .inl (hok.append (by omega))
  · exact .inr (hok.append (by omega) (by omega))

/-- The gap between two windows, filled with what neither of them opens. -/
theorem Built.filler (h : Built n windows entries last)
    (hwindows : ∀ p ∈ windows, IsWindow n latest p) (hlt : last.stopTime < b.startTime)
    (hb : b.startTime < b.stopTime) {gates : UInt8}
    (hgates : ∀ queue, GateControl.IsOpen ⟨last.stopTime, b.startTime, gates⟩ queue →
      queue < n ∧ last.gateStatesValue ≠ UInt8.ofNat (2 ^ queue) ∧
        b.gateStatesValue ≠ UInt8.ofNat (2 ^ queue)) :
    Filler n (windows ++ [b]) ⟨last.stopTime, b.startTime, gates⟩ := by
  refine ⟨fun p hp hmeets => ?_, fun queue hqueue => ⟨(hgates queue hqueue).1, ?_⟩⟩
  · obtain ⟨hstart, hstop⟩ := hmeets
    dsimp only at hstart hstop
    rcases mem_append.1 hp with hp | hp
    · have := h.stop_le p hp
      omega
    · obtain rfl := List.mem_singleton.1 hp
      omega
  · intro p hp hnext
    dsimp only at hnext
    rcases mem_append.1 hp with hp | hp
    · have hle := h.stop_le p hp
      have hp' := (hwindows p hp).lt
      have hlast := h.lt
      rw [h.opensFor.2 p hp ⟨by omega, by omega⟩]
      exact (hgates queue hqueue).2.1
    · obtain rfl := List.mem_singleton.1 hp
      exact (hgates queue hqueue).2.2

/-- **One window more.** -/
theorem Built.step (hn : n ≤ 8) (h : Built n windows entries last)
    (hwindows : ∀ p ∈ windows, IsWindow n latest p) (hb : IsWindow n latest b)
    (hle : ∀ p ∈ windows, p.stopTime ≤ b.startTime) : ∃ entries' last',
      appendGateControl (allGates n) (entries ++ [last]) b = entries' ++ [last'] ∧
        Built n (windows ++ [b]) entries' last' := by
  have hlast : last.stopTime ≤ b.startTime := by
    obtain ⟨p, hp, hstop⟩ := h.stop_mem
    exact hstop ▸ hle p hp
  have hentries := h.entries_append hb.lt hlast
  have hself : OpensFor (windows ++ [b]) b := opensFor_append_self hle hb.lt
  have hstop : ∀ p ∈ windows ++ [b], p.stopTime ≤ b.stopTime := by
    intro p hp
    rcases mem_append.1 hp with hp | hp
    · exact (hle p hp).trans hb.lt.le
    · rw [List.mem_singleton.1 hp]
  have hlastGate : IsGateOf n last.gateStatesValue := by
    obtain ⟨p, hp, hmeets⟩ := h.opensFor.1
    exact h.opensFor.2 p hp hmeets ▸ (hwindows p hp).gate
  have hcov : Covers GateControl.startTime GateControl.stopTime 0 (entries ++ [last])
      last.stopTime := h.covers.snoc rfl h.lt
  -- a gap: the filler and the window
  have hgap : ∀ gates : UInt8, last.stopTime < b.startTime →
      (∀ queue, GateControl.IsOpen ⟨last.stopTime, b.startTime, gates⟩ queue →
        queue < n ∧ last.gateStatesValue ≠ UInt8.ofNat (2 ^ queue) ∧
          b.gateStatesValue ≠ UInt8.ofNat (2 ^ queue)) →
      Built n (windows ++ [b]) ((entries ++ [last]) ++ [⟨last.stopTime, b.startTime,
        gates⟩]) b := by
    intro gates hlt hgates
    refine ⟨hcov.snoc rfl hlt, hb.lt, hself, ⟨b, by simp, rfl⟩, hstop, fun g hg => ?_⟩
    rcases mem_append.1 hg with hg | hg
    · rcases mem_append.1 hg with hg | hg
      · exact hentries g hg
      · rw [List.mem_singleton.1 hg]
        exact .inl (h.opensFor.append hlast)
    · rw [List.mem_singleton.1 hg]
      exact .inr (h.filler hwindows hlt hb.lt hgates)
  simp only [appendGateControl, getLast?_concat]
  split_ifs with hlt hgate hgate
  · refine ⟨_, b, by rw [append_assoc _ [_] [b]]; rfl, hgap _ hlt fun queue hqueue => ?_⟩
    obtain ⟨hq, hne⟩ := isOpen_sub hn hb.gate hqueue
    exact ⟨hq, hgate ▸ hne, hne⟩
  · refine ⟨_, b, by rw [append_assoc _ [_] [b]]; rfl, hgap _ hlt fun queue hqueue => ?_⟩
    exact isOpen_sub_sub hn hlastGate hb.gate hgate hqueue
  · -- the window goes on where the last entry stops, with the same gate
    have hlt' := h.lt
    have hb' := hb.lt
    refine ⟨entries, { last with stopTime := b.stopTime }, by rw [dropLast_concat],
      h.covers, by dsimp only; omega, ⟨⟨b, by simp, ?_⟩, fun p hp hmeets => ?_⟩,
      ⟨b, by simp, rfl⟩, hstop, hentries⟩
    · exact ⟨hb', by dsimp only; omega⟩
    · rcases mem_append.1 hp with hp | hp
      · have hp' := (hwindows p hp).lt
        have hple := h.stop_le p hp
        exact h.opensFor.2 p hp ⟨by omega, hmeets.2⟩
      · rw [List.mem_singleton.1 hp, ← hgate]
  · refine ⟨entries ++ [last], b, rfl, ?_, hb.lt, hself, ⟨b, by simp, rfl⟩, hstop, fun g hg => ?_⟩
    · rw [show b.startTime = last.stopTime by omega]
      exact hcov
    · rcases mem_append.1 hg with hg | hg
      · exact hentries g hg
      · rw [List.mem_singleton.1 hg]
        exact .inl (h.opensFor.append hlast)

/-- The first window, behind a filler if it does not start the cycle. -/
theorem exists_built_first (hn : n ≤ 8) (hb : IsWindow n latest b) :
    ∃ entries' last', appendGateControl (allGates n) [] b = entries' ++ [last'] ∧
      Built n [b] entries' last' := by
  have hself : OpensFor [b] b := ⟨⟨b, by simp, hb.lt, hb.lt⟩, fun p hp _ => by
    rw [List.mem_singleton.1 hp]⟩
  have hnn := hb.nonneg
  have hlt := hb.lt
  simp only [appendGateControl, getLast?_nil]
  split_ifs with hstart
  · refine ⟨[⟨0, b.startTime, allGates n - b.gateStatesValue⟩], b, rfl,
      ⟨rfl, by dsimp only; omega, rfl⟩, hb.lt, hself, ⟨b, by simp, rfl⟩, by simp, fun g hg => ?_⟩
    obtain rfl := List.mem_singleton.1 hg
    refine .inr ⟨fun p hp hmeets => ?_, fun queue hqueue => ?_⟩
    · obtain rfl := List.mem_singleton.1 hp
      exact absurd hmeets.1 (lt_irrefl _)
    · obtain ⟨hq, hne⟩ := isOpen_sub hn hb.gate hqueue
      exact ⟨hq, fun p hp _ => List.mem_singleton.1 hp ▸ hne⟩
  · refine ⟨[], b, rfl, ?_, hb.lt, hself, ⟨b, by simp, rfl⟩, by simp, by simp⟩
    exact (not_not.1 hstart).symm

/-- **The whole loop over the windows.** -/
theorem exists_built (hn : n ≤ 8) (hne : windows ≠ [])
    (hwindows : ∀ p ∈ windows, IsWindow n latest p)
    (hsort : windows.Pairwise fun p q => p.stopTime ≤ q.startTime) :
    ∃ entries last, windows.foldl (appendGateControl (allGates n)) [] = entries ++ [last] ∧
      Built n windows entries last := by
  let I : List GateControl → List GateControl → Prop := fun passed l =>
    (passed = [] ∧ l = []) ∨ ∃ entries last, l = entries ++ [last] ∧ Built n passed entries last
  have hI : I windows (windows.foldl (appendGateControl (allGates n)) []) := by
    refine Loop.foldl_rule (.inl ⟨rfl, rfl⟩) fun passed b rest hl hpast => ?_
    have hb : IsWindow n latest b := hwindows b (by simp [hl])
    rw [hl, pairwise_append] at hsort
    obtain ⟨-, -, hle⟩ := hsort
    rcases hpast with ⟨rfl, hnil⟩ | ⟨entries, last, hlist, hbuilt⟩
    · rw [hnil]
      exact .inr (exists_built_first hn hb)
    · rw [hlist]
      exact .inr (hbuilt.step hn (fun p hp => hwindows p (by simp [hl, hp])) hb fun p hp =>
        hle p hp b mem_cons_self)
  exact hI.resolve_left fun h => hne h.1

/-- An entry behind all windows, with gates of the device that no window touches. -/
theorem Built.filler_behind (h : Built n windows entries last)
    (hwindows : ∀ p ∈ windows, IsWindow n latest p) {start stop : ℤ} {gates : UInt8}
    (hstart : last.stopTime ≤ start) (hlt : start < stop)
    (hgates : ∀ queue, GateControl.IsOpen ⟨start, stop, gates⟩ queue →
      queue < n ∧ last.stopTime < start) : Filler n windows ⟨start, stop, gates⟩ := by
  refine ⟨fun p hp hmeets => ?_, fun queue hqueue => ⟨(hgates queue hqueue).1, ?_⟩⟩
  · have hle := h.stop_le p hp
    have hmeet := hmeets.2
    dsimp only at hmeet
    omega
  · intro p hp hnext
    have hle := h.stop_le p hp
    have hp' := (hwindows p hp).lt
    have hbehind := (hgates queue hqueue).2
    dsimp only at hnext
    omega

theorem not_isOpen_zero {start stop : ℤ} {queue : ℕ} :
    ¬GateControl.IsOpen ⟨start, stop, 0⟩ queue := by
  simp [GateControl.IsOpen]

theorem isOpen_allGates (hn : n ≤ 8) {start stop : ℤ} {queue : ℕ}
    (h : GateControl.IsOpen ⟨start, stop, allGates n⟩ queue) : queue < n := by
  have hq := isOpen_lt_eight h
  have hbit := testBit_allGates ⟨n, by omega⟩ ⟨queue, hq⟩
  rw [GateControl.IsOpen] at h
  rw [h, eq_comm, decide_eq_true_iff] at hbit
  exact hbit

/-- **The end of the cycle.**  With its tail the list covers the cycle. -/
theorem Built.appendTail {cycleTime reserveTime : ℤ} (hn : n ≤ 8) (hreserve : 0 < reserveTime)
    (h : Built n windows entries last)
    (hwindows : ∀ p ∈ windows, IsWindow n (cycleTime - reserveTime) p) :
    Covers GateControl.startTime GateControl.stopTime 0
        (appendTail cycleTime reserveTime (allGates n)
          (entries ++ [last]) last.stopTime) cycleTime ∧
      ∀ g ∈ Algorithm.appendTail cycleTime reserveTime (allGates n) (entries ++ [last])
        last.stopTime, OpensFor windows g ∨ Filler n windows g := by
  have hcov : Covers GateControl.startTime GateControl.stopTime 0 (entries ++ [last])
      last.stopTime := h.covers.snoc rfl h.lt
  have hlast : last.stopTime ≤ cycleTime - reserveTime := by
    obtain ⟨p, hp, hstop⟩ := h.stop_mem
    exact hstop ▸ (hwindows p hp).le
  have hentries : ∀ g ∈ entries ++ [last], OpensFor windows g ∨ Filler n windows g := by
    intro g hg
    rcases mem_append.1 hg with hg | hg
    · exact h.entries_ok g hg
    · exact .inl (List.mem_singleton.1 hg ▸ h.opensFor)
  have hclos : ∀ start stop : ℤ, last.stopTime ≤ start → start < stop →
      Filler n windows ⟨start, stop, 0⟩ := fun start stop hstart hlt =>
    h.filler_behind hwindows hstart hlt fun queue hqueue => absurd hqueue not_isOpen_zero
  unfold Algorithm.appendTail
  split_ifs with htail
  · refine ⟨hcov.append ⟨rfl, by dsimp only; omega, rfl, by dsimp only; omega, rfl,
      by dsimp only; omega, rfl⟩, fun g hg => ?_⟩
    rcases mem_append.1 hg with hg | hg
    · exact hentries g hg
    · simp only [mem_cons, not_mem_nil, or_false] at hg
      rcases hg with rfl | rfl | rfl
      · exact .inr (hclos _ _ le_rfl (by omega))
      · exact .inr (h.filler_behind hwindows (by omega) (by omega) fun queue hqueue =>
          ⟨isOpen_allGates hn hqueue, by omega⟩)
      · exact .inr (hclos _ _ (by omega) (by omega))
  · refine ⟨hcov.snoc rfl (by dsimp only; omega), fun g hg => ?_⟩
    rcases mem_append.1 hg with hg | hg
    · exact hentries g hg
    · exact .inr (List.mem_singleton.1 hg ▸ hclos _ _ le_rfl (by omega))

/-! ### The list realises the schedule -/

/-- The frames of an interface have windows in the cycle that a gate control
list can be built from: each lies before the reserve and is not empty, no two
meet, and each belongs to a queue of the device. -/
structure WindowsOk (cycleTime reserveTime : ℤ) (numberOfQueue : ℕ) (frames : List Frame) :
    Prop where
  numberOfQueue_le : numberOfQueue ≤ 8
  nonneg : ∀ f ∈ frames, 0 ≤ f.dequeueTime.tmod cycleTime
  nonempty : ∀ f ∈ frames, f.dequeueTime.tmod cycleTime < f.stopTime.tmod cycleTime
  reserve : ∀ f ∈ frames, f.stopTime.tmod cycleTime ≤ cycleTime - reserveTime
  queue : ∀ f ∈ frames, f.queueId.toNat < numberOfQueue
  disjoint : frames.Pairwise fun f g => ¬Meets (gateControlOf cycleTime f)
    (gateControlOf cycleTime g)

/-- What a gate control list is for. -/
structure Realises (cycleTime : ℤ) (numberOfQueue : ℕ) (frames : List Frame)
    (gateControls : List GateControl) : Prop where
  /-- The entries start at 0, end at the cycle time, each starts where the one
  before it stops, and none is empty. -/
  covers : Covers GateControl.startTime GateControl.stopTime 0 gateControls cycleTime
  /-- At every instant of a frame's window exactly the gate of its queue is open. -/
  open_in_window : ∀ f ∈ frames, ∀ g ∈ gateControls, ∀ x,
    f.dequeueTime.tmod cycleTime ≤ x → x < f.stopTime.tmod cycleTime →
      g.startTime ≤ x → x < g.stopTime →
        ∀ queue, GateControl.IsOpen g queue ↔ queue = f.queueId.toNat
  /-- Outside all windows only gates of the device are open, and not the gate of
  a window next to the entry. -/
  closed_between : ∀ g ∈ gateControls, (∀ f ∈ frames, ¬Meets (gateControlOf cycleTime f) g) →
    ∀ queue, GateControl.IsOpen g queue → queue < numberOfQueue ∧
      ∀ f ∈ frames, (f.stopTime.tmod cycleTime = g.startTime ∨
        f.dequeueTime.tmod cycleTime = g.stopTime) → f.queueId.toNat ≠ queue

section
variable {lib : Library} {cycleTime reserveTime : ℤ} {frames : List Frame}

theorem mem_windowsOf : b ∈ windowsOf lib cycleTime frames ↔
    ∃ f ∈ frames, gateControlOf cycleTime f = b := by
  simp [windowsOf]

theorem WindowsOk.isWindow (h : WindowsOk cycleTime reserveTime n frames) :
    ∀ p ∈ windowsOf lib cycleTime frames, IsWindow n (cycleTime - reserveTime) p := by
  intro p hp
  obtain ⟨f, hf, rfl⟩ := mem_windowsOf.1 hp
  exact ⟨h.nonneg f hf, h.nonempty f hf, h.reserve f hf, _, h.queue f hf, rfl⟩

/-- Sorted by their starts, disjoint windows follow one another. -/
theorem WindowsOk.pairwise_windowsOf (h : WindowsOk cycleTime reserveTime n frames) :
    (windowsOf lib cycleTime frames).Pairwise fun p q => p.stopTime ≤ q.startTime := by
  have hdisjoint : (windowsOf lib cycleTime frames).Pairwise fun p q => ¬Meets p q := by
    have hsymm : ∀ {p q : GateControl}, ¬Meets p q → ¬Meets q p := fun h hm => h ⟨hm.2, hm.1⟩
    refine (lib.sort_perm _ _).symm.pairwise ?_ hsymm
    rw [pairwise_map]
    exact (lib.sort_perm _ _).symm.pairwise h.disjoint fun h hm => h ⟨hm.2, hm.1⟩
  have hsort : (windowsOf lib cycleTime frames).Pairwise fun p q => p.startTime ≤ q.startTime :=
    lib.sort_sorted _ _
  refine (hdisjoint.and hsort).imp_of_mem fun {p q} _ hq hpq => ?_
  have hq' := (h.isWindow q hq).lt
  obtain ⟨hmeets, hle⟩ := hpq
  by_contra hlt
  exact hmeets ⟨by omega, by omega⟩

/-- **The list of an interface realises its schedule.** -/
theorem gateControlsOf_realises (hreserve : 0 < reserveTime) (hne : frames ≠ [])
    (h : WindowsOk cycleTime reserveTime n frames) :
    Realises cycleTime n frames (gateControlsOf lib cycleTime reserveTime n frames) := by
  have hn := h.numberOfQueue_le
  have hwindows : (windowsOf lib cycleTime frames).Pairwise fun p q => p.stopTime ≤ q.startTime :=
    h.pairwise_windowsOf
  have hwne : windowsOf lib cycleTime frames ≠ [] := by
    obtain ⟨f, hf⟩ := exists_mem_of_ne_nil _ hne
    exact ne_nil_of_mem (mem_windowsOf.2 ⟨f, hf, rfl⟩)
  obtain ⟨entries, last, hlist, hbuilt⟩ := exists_built hn hwne h.isWindow hwindows
  obtain ⟨hcov, hok⟩ := hbuilt.appendTail hn hreserve h.isWindow
  have heq : gateControlsOf lib cycleTime reserveTime n frames =
      appendTail cycleTime reserveTime (allGates n) (entries ++ [last]) last.stopTime := by
    simp only [gateControlsOf, hlist, getLast?_concat, Option.map_some, Option.getD_some]
  rw [heq]
  refine ⟨hcov, fun f hf g hg x hx hx' hgx hgx' queue => ?_, fun g hg hmiss queue hqueue => ?_⟩
  · have hmem : gateControlOf cycleTime f ∈ windowsOf lib cycleTime frames :=
      mem_windowsOf.2 ⟨f, hf, rfl⟩
    have hmeets : Meets (gateControlOf cycleTime f) g :=
      ⟨lt_of_le_of_lt hx hgx', lt_of_le_of_lt hgx hx'⟩
    rcases hok g hg with hopen | hfiller
    · have hgate : gateStatesValue f.queueId = g.gateStatesValue := hopen.2 _ hmem hmeets
      have hlt := h.queue f hf
      constructor
      · intro hqueue
        have hbit := testBit_gateStatesValue ⟨f.queueId.toNat, by omega⟩
          ⟨queue, isOpen_lt_eight hqueue⟩
        rw [GateControl.IsOpen, ← hgate, gateStatesValue] at hqueue
        dsimp only at hbit
        rw [hqueue, eq_comm, decide_eq_true_iff, Fin.mk.injEq] at hbit
        exact hbit
      · rintro rfl
        rw [GateControl.IsOpen, ← hgate, gateStatesValue]
        have hbit := testBit_gateStatesValue ⟨f.queueId.toNat, by omega⟩
          ⟨f.queueId.toNat, by omega⟩
        simpa using hbit
    · exact absurd hmeets (hfiller.1 _ hmem)
  · rcases hok g hg with hopen | hfiller
    · obtain ⟨p, hp, hmeets⟩ := hopen.1
      obtain ⟨f, hf, rfl⟩ := mem_windowsOf.1 hp
      exact absurd hmeets (hmiss f hf)
    · refine ⟨(hfiller.2 queue hqueue).1, fun f hf hnext e => ?_⟩
      refine (hfiller.2 queue hqueue).2 _ (mem_windowsOf.2 ⟨f, hf, rfl⟩) hnext ?_
      rw [← e]
      rfl

end

/-! ### Its length -/

theorem length_appendGateControl_le (gates : UInt8) (l : List GateControl) (b : GateControl) :
    (appendGateControl gates l b).length ≤ l.length + 2 := by
  unfold appendGateControl
  split
  · split_ifs <;> simp
  · split_ifs
    · simp
    · simp
    · simp only [length_append, length_dropLast, length_singleton]
      omega
    · simp

/-- **No list is longer than twice the frames and three.** -/
theorem length_gateControlsOf_le (lib : Library) (cycleTime reserveTime : ℤ) (n : ℕ)
    (frames : List Frame) :
    (gateControlsOf lib cycleTime reserveTime n frames).length ≤ 2 * frames.length + 3 := by
  have hloop : ((windowsOf lib cycleTime frames).foldl
      (appendGateControl (allGates n)) []).length ≤ 2 *
        (windowsOf lib cycleTime frames).length := by
    refine Loop.foldl_rule (I := fun passed (l : List GateControl) => l.length ≤ 2 * passed.length)
      le_rfl fun passed b rest _ hle => ?_
    have hb := length_appendGateControl_le (allGates n)
      (passed.foldl (appendGateControl (allGates n)) []) b
    rw [length_append, length_singleton]
    omega
  have hwindows : (windowsOf lib cycleTime frames).length = frames.length := by
    simp [windowsOf]
  unfold gateControlsOf appendTail
  dsimp only
  split_ifs <;> rw [length_append] <;> simp only [length_cons, length_nil] <;> omega

/-! ### The whole of `GenerateGCLResult` -/

/-- One interface of the loop of `GenerateGCLResult`. -/
theorem exists_gclOfInterface (lib : Library) (config : ScheduleConfig)
    {device : ScheduleConfigDevice} (interfaces : ScheduleResultDevice)
    (h : device.numberOfQueue ≤ 255) (keys : List ℤ) :
    ∃ controls, foldlM (gclOfInterface lib config device interfaces) [] keys = some controls ∧
      ∀ i ∈ keys, ScheduleResult.framesOfInterface (interfaces.value i) ≠ [] →
        ∃ control ∈ controls, control.interfaceId = i ∧
          control.gateControls = gateControlsOf lib config.cycleTime config.reserveTime
            device.numberOfQueue.toNat (ScheduleResult.framesOfInterface (interfaces.value i)) := by
  refine OptionRule.exists_foldlM (I := fun passed (controls : List InterfaceGateControls) =>
    ∀ i ∈ passed,
    ScheduleResult.framesOfInterface (interfaces.value i) ≠ [] →
      ∃ control ∈ controls, control.interfaceId = i ∧
        control.gateControls = gateControlsOf lib config.cycleTime config.reserveTime
          device.numberOfQueue.toNat (ScheduleResult.framesOfInterface (interfaces.value i)))
    (by simp) fun passed i controls _ hpast => ?_
  simp only [gclOfInterface, List.isEmpty_iff]
  split_ifs with hempty hqueues
  · refine ⟨controls, rfl, fun j hj hne => ?_⟩
    rcases mem_append.1 hj with hj | hj
    · exact hpast j hj hne
    · rw [List.mem_singleton.1 hj] at hne
      exact absurd hempty hne
  · exact absurd hqueues (UInt16.not_lt.2 h)
  · refine ⟨_, rfl, fun j hj hne => ?_⟩
    rcases mem_append.1 hj with hj | hj
    · obtain ⟨control, hmem, hcontrol⟩ := hpast j hj hne
      exact ⟨control, mem_append_left _ hmem, hcontrol⟩
    · rw [List.mem_singleton.1 hj]
      exact ⟨_, mem_append_right _ (List.mem_singleton.2 rfl), rfl, rfl⟩

/-- An interface that holds a frame is among the keys of its device, and the
device among the keys of the schedule. -/
theorem mem_keys_of_framesOfInterface {result : ScheduleResult} {d i : ℤ}
    (h : ScheduleResult.framesOfInterface (result.getInterface d i) ≠ []) :
    d ∈ result.keys ∧ i ∈ (result.getDevice d).keys := by
  obtain ⟨f, hf⟩ := exists_mem_of_ne_nil _ h
  obtain ⟨q, s, n, k, hget⟩ := ScheduleResult.mem_framesOfInterface.1 hf
  have hexist := ScheduleResult.isInterfaceExist_of_lookup hget
  rw [ScheduleResult.isInterfaceExist, Bool.and_eq_true] at hexist
  rwa [Std.TreeMap.mem_keys, mem_iff_contains, Std.TreeMap.mem_keys, mem_iff_contains]

/-- The loop of `GenerateGCLResult` over the devices. -/
theorem exists_gclOfDevice (lib : Library) {config : ScheduleConfig} {result : ScheduleResult}
    (hdevs : ∀ d, result.contains d = true →
      (config.getScheduleConfigDevice d).prepared = true ∧
        (config.getScheduleConfigDevice d).numberOfQueue ≤ 255) :
    ∃ gclResults, generateGCLResult lib config result = some gclResults ∧
      ∀ d ∈ result.keys, ∀ i, (config.getScheduleConfigDevice d).tsnEnable = true →
        ScheduleResult.framesOfInterface (result.getInterface d i) ≠ [] →
        ∃ gclResult ∈ gclResults, gclResult.deviceId = d ∧
          ∃ control ∈ gclResult.interfaceGateControls, control.interfaceId = i ∧
            control.gateControls = gateControlsOf lib config.cycleTime config.reserveTime
              (config.getScheduleConfigDevice d).numberOfQueue.toNat
              (ScheduleResult.framesOfInterface (result.getInterface d i)) := by
  refine OptionRule.exists_foldlM (I := fun passed (gclResults : List GclResult) =>
    ∀ d ∈ passed, ∀ i, (config.getScheduleConfigDevice d).tsnEnable = true →
      ScheduleResult.framesOfInterface (result.getInterface d i) ≠ [] →
      ∃ gclResult ∈ gclResults, gclResult.deviceId = d ∧
        ∃ control ∈ gclResult.interfaceGateControls, control.interfaceId = i ∧
          control.gateControls = gateControlsOf lib config.cycleTime config.reserveTime
            (config.getScheduleConfigDevice d).numberOfQueue.toNat
            (ScheduleResult.framesOfInterface (result.getInterface d i)))
    (by simp) fun passed d gclResults hd hpast => ?_
  rw [Std.TreeMap.mem_keys, mem_iff_contains] at hd
  obtain ⟨hprepared, hqueues⟩ := hdevs d hd
  obtain ⟨controls, hcontrols, hentry⟩ := exists_gclOfInterface lib config
    (result.getDevice d) hqueues (result.getDevice d).keys
  by_cases htsn : (config.getScheduleConfigDevice d).tsnEnable = true
  · refine ⟨gclResults ++ [⟨d, (config.getScheduleConfigDevice d).ipAddress, controls⟩], ?_,
      fun d' hd' i htsn' hne => ?_⟩
    · simp [gclOfDevice, hprepared, htsn, hcontrols]
    · rcases mem_append.1 hd' with hd' | hd'
      · obtain ⟨gclResult, hmem, hrest⟩ := hpast d' hd' i htsn' hne
        exact ⟨gclResult, mem_append_left _ hmem, hrest⟩
      · obtain rfl := List.mem_singleton.1 hd'
        refine ⟨_, mem_append_right _ (List.mem_singleton.2 rfl), rfl, ?_⟩
        exact hentry i (mem_keys_of_framesOfInterface hne).2 hne
  · refine ⟨gclResults, by simp [gclOfDevice, hprepared, htsn], fun d' hd' i htsn' hne => ?_⟩
    rcases mem_append.1 hd' with hd' | hd'
    · exact hpast d' hd' i htsn' hne
    · rw [List.mem_singleton.1 hd'] at htsn'
      exact absurd htsn' htsn

/-- **Gate control lists realise the schedule.**  `GenerateGCLResult` is defined
when the features of the devices of the schedule are and their queues can be
counted in a `quint8`.  It then emits, for every device with TSN and every
interface whose frames have proper windows, a list that covers the cycle and
opens exactly the gates the frames need. -/
theorem exists_generateGCLResult_realises (lib : Library) (config : ScheduleConfig)
    (result : ScheduleResult) (hreserve : 0 < config.reserveTime)
    (hdevices : ∀ d, result.contains d = true →
      (config.getScheduleConfigDevice d).prepared = true ∧
        (config.getScheduleConfigDevice d).numberOfQueue ≤ 255) :
    ∃ gclResults, generateGCLResult lib config result = some gclResults ∧
      ∀ d i, (config.getScheduleConfigDevice d).tsnEnable = true →
        ScheduleResult.framesOfInterface (result.getInterface d i) ≠ [] →
        WindowsOk config.cycleTime config.reserveTime
          (config.getScheduleConfigDevice d).numberOfQueue.toNat
          (ScheduleResult.framesOfInterface (result.getInterface d i)) →
        ∃ gclResult ∈ gclResults, gclResult.deviceId = d ∧
          ∃ control ∈ gclResult.interfaceGateControls, control.interfaceId = i ∧
            Realises config.cycleTime (config.getScheduleConfigDevice d).numberOfQueue.toNat
              (ScheduleResult.framesOfInterface (result.getInterface d i))
              control.gateControls := by
  obtain ⟨gclResults, hgcl, hall⟩ := exists_gclOfDevice lib hdevices
  refine ⟨gclResults, hgcl, fun d i htsn hne hok => ?_⟩
  obtain ⟨gclResult, hmem, hdev, control, hcontrol, hintf, hlist⟩ :=
    hall d (mem_keys_of_framesOfInterface hne).1 i htsn hne
  refine ⟨gclResult, hmem, hdev, control, hcontrol, hintf, ?_⟩
  rw [hlist]
  exact gateControlsOf_realises hreserve hne hok

/-- The hypotheses can be met: a frame in the middle of the cycle, on a device
with eight queues. -/
theorem exists_generateGCLResult_realises_oneFrame : let config : ScheduleConfig :=
      { cycleTime := 1000
        scheduleConfigDevices := (∅ : QMap ℤ ScheduleConfigDevice).insert 1
          { prepared := true, tsnEnable := true, numberOfQueue := 8 } }
    let frame : Frame :=
      { deviceId := 1, egressInterfaceId := 1, queueId := 6, dequeueTime := 1300, duration := 100 }
    ∃ gclResults,
      generateGCLResult .reference config (ScheduleResult.setScheduleResult ∅ frame) =
        some gclResults ∧
      ∃ gclResult ∈ gclResults, gclResult.deviceId = 1 ∧
        ∃ control ∈ gclResult.interfaceGateControls, control.interfaceId = 1 ∧
          Realises 1000 8 [frame] control.gateControls := by
  intro config frame
  obtain ⟨gclResults, hgcl, hall⟩ := exists_generateGCLResult_realises .reference config
    (ScheduleResult.setScheduleResult ∅ frame) (by decide) (fun d hd => by
      obtain rfl : 1 = d := by
        simpa [ScheduleResult.setScheduleResult, ScheduleResult.updateQueue, QMap.contains_update,
          frame] using hd
      exact ⟨rfl, by decide⟩)
  refine ⟨gclResults, hgcl, hall 1 1 rfl (by decide) ⟨by decide, ?_, ?_, ?_, ?_, ?_⟩⟩
  · intro f hf
    obtain rfl : f = frame := List.mem_singleton.1 hf
    decide
  · intro f hf
    obtain rfl : f = frame := List.mem_singleton.1 hf
    decide
  · intro f hf
    obtain rfl : f = frame := List.mem_singleton.1 hf
    decide
  · intro f hf
    obtain rfl : f = frame := List.mem_singleton.1 hf
    decide
  · exact pairwise_singleton _ _

end Algorithm
end Sebastian

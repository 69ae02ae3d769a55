/-
# The paths of a search

A frame that waits carries the devices it has come through, and is sent on only to a device
that is not among them.  The device where it waits is not among them yet, so that a link which
joins a device to itself is taken once: a device occurs in the path of a frame at most twice,
and only once where no interface leads back to its own device (`Frame.OnPath`).

The paths are therefore bounded, a frame that is sent on leaves copies with longer paths, and a
search comes to its end (`ends_of_routingInit`).
-/

import Mathlib.Algebra.Order.BigOperators.Group.Finset
import Sebastian.Algorithm.Restart
import Sebastian.Lib.Ends

namespace Sebastian
namespace Algorithm

open Feasibility Multiset

/-! ### The devices of a configuration -/

namespace ScheduleConfig

/-- The devices that interfaces are connected to; an interface that is not there is connected
to `-1`. -/
def connected (config : ScheduleConfig) : Finset ℤ :=
  insert (-1) (config.scheduleConfigDevices.vals.flatMap fun device =>
    device.scheduleConfigInterfaces.vals.map (·.connectDeviceId)).toFinset

/-- **No interface leads back to its own device.** -/
def Loopless (config : ScheduleConfig) : Prop :=
  ∀ d i, (config.getScheduleConfigDevice d).prepared = true →
    (config.getScheduleConfigInterface d i).connectDeviceId ≠ d

theorem connectDeviceId_mem_connected (config : ScheduleConfig) (d i : ℤ) :
    (config.getScheduleConfigInterface d i).connectDeviceId ∈ config.connected := by
  rw [connected, Finset.mem_insert, List.mem_toFinset]
  rw [getScheduleConfigInterface, getScheduleConfigDevice, QMap.value_eq_getD,
    QMap.value_eq_getD config.scheduleConfigDevices]
  cases hd : config.scheduleConfigDevices[d]? with
  | none => exact .inl (by simp [default])
  | some device =>
    rw [Option.getD_some]
    cases hi : device.scheduleConfigInterfaces[i]? with
    | none => exact .inl rfl
    | some interface =>
      exact .inr (List.mem_flatMap.2 ⟨device, QMap.mem_vals.2 ⟨d, hd⟩,
        List.mem_map.2 ⟨interface, QMap.mem_vals.2 ⟨i, hi⟩, rfl⟩⟩)

theorem Extends.loopless {config config' : ScheduleConfig} (h : config.Extends config')
    (hloopless : config.Loopless) : config'.Loopless := by
  intro d i hprepared
  rw [h.device] at hprepared
  rw [h.interface]
  exact hloopless d i hprepared

end ScheduleConfig

/-! ### The path of a frame -/

/-- The devices on the way of a frame, the last one being where it waits. -/
def Frame.path (frame : Frame) : List ℤ :=
  frame.paths ++ [frame.deviceId]

/-- **What is known of the path of a frame**, among the devices it can come to. -/
structure Frame.OnPath (frame : Frame) (config : ScheduleConfig) (devices : Finset ℤ) : Prop where
  mem_devices : ∀ d ∈ frame.path, d ∈ devices
  twice : ∀ d, frame.path.count d ≤ 2
  nodup : config.Loopless → frame.path.Nodup

section
variable {lib : Library} {config : ScheduleConfig} {stream : ScheduleStream} {frame : Frame}
  {devices : Finset ℤ} {result : ScheduleResult} {s₀ s s' : RoutingState lib}

/-- A path is not longer than twice the devices. -/
theorem Frame.OnPath.length_le (h : frame.OnPath config devices) :
    frame.path.length ≤ 2 * devices.card := by
  calc frame.path.length = ∑ d ∈ devices, frame.path.count d := by
        rw [← coe_card, ← sum_count_eq_card (s := devices)]
        · simp only [coe_count]
        · exact h.mem_devices
    _ ≤ devices.card • 2 := Finset.sum_le_card_nsmul _ _ _ fun d _ => h.twice d
    _ = 2 * devices.card := Nat.mul_comm _ _

theorem connectDeviceId_notMem_paths (h : checkRoutingPathDuplicated frame config = .success) :
    (config.getScheduleConfigInterface frame.deviceId frame.egressInterfaceId).connectDeviceId ∉
      frame.paths := by
  intro hmem
  simp only [checkRoutingPathDuplicated] at h
  rw [if_pos (List.contains_iff_mem.2 hmem)] at h
  cases h

theorem prepared_of_checkDeviceFeature {status : Status}
    (h : checkDeviceFeature frame config = some status) :
    (config.getScheduleConfigDevice frame.deviceId).prepared = true := by
  simp only [checkDeviceFeature] at h
  split_ifs at h with hprepared <;> simpa using hprepared

/-- **The path of a copy** has one device more. -/
theorem Frame.OnPath.next {next : ℤ} {child : Frame} (h : frame.OnPath config devices)
    (hchild : child.path = frame.path ++ [next]) (hdev : next ∈ devices)
    (hnew : next ∉ frame.paths) (hback : config.Loopless → next ≠ frame.deviceId) :
    child.OnPath config devices := by
  refine ⟨fun d hd => ?_, fun d => ?_, fun hloopless => ?_⟩
  · rw [hchild] at hd
    rcases List.mem_append.1 hd with hd | hd
    · exact h.mem_devices d hd
    · exact List.mem_singleton.1 hd ▸ hdev
  · rw [hchild, List.count_append]
    by_cases hd : next = d
    · -- it has not been there, unless the frame waits there
      subst hd
      rw [Frame.path, List.count_append, List.count_eq_zero.2 hnew, List.count_singleton_self]
      have hlast : List.count next [frame.deviceId] ≤ 1 := List.count_le_length
      omega
    · rw [List.count_singleton, if_neg (by simpa using hd)]
      exact h.twice d
  · rw [hchild, List.nodup_append]
    refine ⟨h.nodup hloopless, List.nodup_singleton _, fun d hd d' hd' e => ?_⟩
    rw [List.mem_singleton.1 hd'] at e
    subst e
    rcases List.mem_append.1 hd with hd | hd
    · exact hnew hd
    · exact hback hloopless (List.mem_singleton.1 hd)

/-- The devices a search can come to. -/
def ScheduleConfig.reach (config : ScheduleConfig) (streamId : ℤ) : Finset ℤ :=
  insert (config.getScheduleConfigStream streamId).talker.deviceId config.connected

theorem Frame.OnPath.child {interface : ScheduleConfigInterface} {config' : ScheduleConfig}
    {placed : Frame} {totalDelay duration id : ℤ}
    (h : frame.OnPath config (config.reach stream.streamId)) (hconfig : config.Extends config')
    (hadmitted : Admitted stream config' frame)
    (hplaced : placed = { frame with dequeueTime := placed.dequeueTime }) :
    (childFrame (nextFrame config' totalDelay placed) interface duration id).OnPath config
      (config.reach stream.streamId) := by
  have hnext : (childFrame (nextFrame config' totalDelay placed) interface duration id).path =
      frame.path ++ [(config.getScheduleConfigInterface frame.deviceId
        frame.egressInterfaceId).connectDeviceId] := by
    rw [hplaced, ← hconfig.interface]
    rfl
  refine h.next hnext ?_ ?_ fun hloopless => ?_
  · exact Finset.mem_insert_of_mem (config.connectDeviceId_mem_connected _ _)
  · rw [← hconfig.interface]
    exact connectDeviceId_notMem_paths hadmitted.path
  · have hprepared := prepared_of_checkDeviceFeature hadmitted.feature
    rw [hconfig.device] at hprepared
    exact hloopless _ _ hprepared

/-- **A round keeps what is known of the paths.** -/
theorem Round.onPath (hround : Round stream s s') (hconfig : config.Extends s.config)
    (h : ∀ f ∈ s.waiting, f.OnPath config (config.reach stream.streamId)) :
    ∀ f ∈ s'.waiting, f.OnPath config (config.reach stream.streamId) := by
  intro f hf
  cases hround with
  | receive _ _ hwait => exact h f (hwait ▸ mem_cons_of_mem hf)
  | drop _ hwait => exact h f (hwait ▸ mem_cons_of_mem hf)
  | send frame placed result totalDelay children hplaces hplaced _ _ _ _ _ _ _ hwait _
      hchildren =>
    have hf' : f ∈ (children : Multiset Frame) + s.waiting :=
      hwait ▸ mem_cons_of_mem hf
    rcases mem_add.1 hf' with hchild | hold
    · obtain ⟨-, -, interface, -, duration, -, hcopy⟩ := hchildren f (mem_coe.1 hchild)
      rw [hcopy]
      refine (h frame hplaces.mem_waiting).child hconfig hplaces.admitted ?_
      rw [hplaced]
      exact considerLinkIsolation_eq lib result stream.cycleTime s.config.reserveTime frame
    · exact h f hold

/-- Only the frame of the talker waits before the first round. -/
theorem onPath_of_routingInit (hinit : routingInit lib config stream result = some s₀) :
    ∀ f ∈ s₀.waiting, f.OnPath config (config.reach stream.streamId) := by
  simp only [routingInit] at hinit
  obtain ⟨duration, -, hinit⟩ := Option.bind_eq_some_iff.1 hinit
  cases hinit
  intro f hf
  have hf : f = talkerFrame config stream duration := by
    rw [RoutingState.waiting, (lib.queue Frame.cost).elems_push,
      (lib.queue Frame.cost).elems_empty] at hf
    exact mem_singleton.1 hf
  have hpath : f.path = [(config.getScheduleConfigStream stream.streamId).talker.deviceId] := by
    rw [hf]
    rfl
  refine ⟨fun d hd => ?_, fun d => ?_, fun _ => ?_⟩
  · rw [hpath] at hd
    exact List.mem_singleton.1 hd ▸ Finset.mem_insert_self _ _
  · rw [hpath]
    exact List.count_le_length.trans one_le_two
  · rw [hpath]
    exact List.nodup_singleton _

/-- **The paths of all frames that wait in a search.** -/
theorem onPath_of_visits (hinit : routingInit lib config stream result = some s₀)
    (hv : Loop.Visits (routingBody lib stream) s₀ s) :
    ∀ f ∈ s.waiting, f.OnPath config (config.reach stream.streamId) := by
  refine hv.rule (I := fun s => ∀ f ∈ s.waiting, f.OnPath config (config.reach stream.streamId))
    (onPath_of_routingInit hinit) fun t u ht h hb => ?_
  refine (round_of_next hb).onPath ?_ h
  rw [← extends_of_routingInit hinit]
  exact extends_of_visits ht

/-- **Every search comes to its end**: a round takes one frame from the queue, and puts back
frames with longer paths. -/
theorem ends_of_routingInit (hinit : routingInit lib config stream result = some s₀) :
    Loop.Ends (routingBody lib stream) s₀ := by
  refine Loop.ends_of_worklist RoutingState.waiting
    (fun f => 2 * (config.reach stream.streamId).card - f.paths.length) fun s s' hv hb => ?_
  cases round_of_next hb with
  | receive frame _ hwait =>
    exact ⟨frame, s'.waiting, 0, hwait, (zero_add _).symm, fun b hb =>
      absurd hb (notMem_zero b)⟩
  | drop frame hwait =>
    exact ⟨frame, s'.waiting, 0, hwait, (zero_add _).symm, fun b hb =>
      absurd hb (notMem_zero b)⟩
  | send frame placed r totalDelay children hplaces hplaced _ _ _ _ _ _ _ hwait _
      hchildren =>
    have hmem := hplaces.mem_waiting
    obtain ⟨rest, hrest⟩ := exists_cons_of_mem hmem
    rw [hrest, add_cons, cons_inj_right] at hwait
    refine ⟨frame, rest, children, hrest, hwait, fun child hchild => ?_⟩
    obtain ⟨-, -, interface, -, duration, -, hcopy⟩ :=
      hchildren child (mem_coe.1 hchild)
    have hpaths : child.paths = frame.path := by
      rw [hcopy, hplaced, considerLinkIsolation_eq]
      rfl
    have hlen := ((onPath_of_visits hinit hv) frame hmem).length_le
    rw [Frame.path, List.length_append, List.length_singleton] at hlen
    rw [hpaths, Frame.path, List.length_append, List.length_singleton]
    omega

end

end Algorithm
end Sebastian

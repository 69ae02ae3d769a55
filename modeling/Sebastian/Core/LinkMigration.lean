/-
# The links of a device that changes its interfaces

The last loop of `UpdateDevice` (`core/src/act_core_device.cpp`) walks the links as they were, with
a copy of the device as its profile makes it.  A link of the device keeps its interface while that
is active, and is put on the first unused one else; it is deleted when there is none, or when the
two ends have no speed in common, and gets the largest common speed otherwise (`commonSpeed_spec`).

The loop works on the project that `UpdateLink` and `DeleteLink` change under it, and so do the RSTP
groups before it.  Neither of them changes what the loop reads of a device, the numbers and speeds
of its interfaces (`Copies`), so that what becomes of a link can be told from the project before
the update (`Outcome`): the links that lose their interface are given the unused ones in order
(`givenInterface`), one round after the other (`Migrating.step`).

An interface that was given stays marked as used, also when its link is deleted for want of a speed.
So no cable is lost without need exactly where nothing is short in the first place, or nothing is
left over in the end (`cablesKept_iff`).
-/

import Sebastian.Core.DeviceHistory
import Sebastian.Core.LinkReplace

namespace Sebastian
namespace Core

open ExceptRule List Option QSet

variable {passed : List Link}

/-! ### The common speed of two interfaces -/

/-- The speeds that two interfaces support. -/
def commonSpeeds (speeds others : List ℤ) : Set ℤ := {speed | speed ∈ speeds ∧ speed ∈ others}

/-- In a descending list the larger speeds stand in front. -/
theorem mem_dropWhile_faster {speed speed' : ℤ} {others : List ℤ}
    (hothers : others.Pairwise (· ≥ ·)) :
    speed' ∈ others.dropWhile (speed < ·) ↔ speed' ∈ others ∧ speed' ≤ speed := by
  induction others with
  | nil => simp
  | cons other others ih =>
    obtain ⟨hother, hrest⟩ := pairwise_cons.1 hothers
    rw [dropWhile_cons, mem_cons]
    by_cases hfaster : speed < other
    · rw [if_pos (by simpa using hfaster), ih hrest]
      constructor
      · exact fun h => ⟨.inr h.1, h.2⟩
      · rintro ⟨rfl | hmem, hle⟩
        · omega
        · exact ⟨hmem, hle⟩
    · rw [if_neg (by simpa using hfaster), mem_cons]
      constructor
      · rintro (rfl | hmem)
        · exact ⟨.inl rfl, by omega⟩
        · have hle := hother _ hmem
          exact ⟨.inr hmem, by omega⟩
      · exact And.left

/-- **The walk down two descending lists** ends at the largest common speed, or at the end of one of
them when there is none. -/
theorem commonSpeed_spec {speeds others : List ℤ} (hspeeds : speeds.Pairwise (· ≥ ·))
    (hothers : others.Pairwise (· ≥ ·)) :
    match commonSpeed speeds others with
    | some speed => IsGreatest (commonSpeeds speeds others) speed
    | none => commonSpeeds speeds others = ∅ := by
  induction speeds generalizing others with
  | nil =>
    ext speed
    simp [commonSpeeds]
  | cons speed speeds ih =>
    obtain ⟨hspeed, hrest⟩ := pairwise_cons.1 hspeeds
    have hslower : (others.dropWhile (speed < ·)).Pairwise (· ≥ ·) :=
      hothers.sublist (dropWhile_sublist _)
    rw [commonSpeed]
    by_cases hhead : (others.dropWhile (speed < ·)).head? = some speed
    · rw [if_pos hhead]
      have hmem := (mem_dropWhile_faster hothers).1 (mem_of_head? hhead)
      refine ⟨⟨mem_cons_self, hmem.1⟩, fun other hother => ?_⟩
      rcases mem_cons.1 hother.1 with rfl | h
      · exact le_rfl
      · exact hspeed _ h
    · rw [if_neg hhead]
      -- the first one that is not larger is smaller
      have hmiss : speed ∉ others := by
        intro hmem
        have hleft := (mem_dropWhile_faster hothers).2 ⟨hmem, le_refl speed⟩
        have hall := fun x (hx : x ∈ others.dropWhile (speed < ·)) =>
          ((mem_dropWhile_faster hothers).1 hx).2
        generalize others.dropWhile (speed < ·) = slower at hhead hslower hleft hall
        cases slower with
        | nil => cases hleft
        | cons first slower =>
          obtain ⟨hfirst, -⟩ := pairwise_cons.1 hslower
          refine hhead (congrArg some ?_)
          rcases mem_cons.1 hleft with h | h
          · exact h.symm
          · exact le_antisymm (hall first mem_cons_self) (hfirst _ h)
      have hsame : commonSpeeds speeds (others.dropWhile (speed < ·)) =
          commonSpeeds (speed :: speeds) others := by
        ext other
        simp only [commonSpeeds, Set.mem_ofPred_eq, mem_dropWhile_faster hothers, mem_cons]
        constructor
        · exact fun h => ⟨.inr h.1, h.2.1⟩
        · rintro ⟨rfl | h, hother⟩
          · exact absurd hother hmiss
          · exact ⟨h, hother, hspeed _ h⟩
      rw [← hsame]
      exact ih hrest hslower

theorem commonSpeeds_reverse (speeds others : List ℤ) :
    commonSpeeds speeds.reverse others.reverse = commonSpeeds speeds others := by
  ext speed
  simp [commonSpeeds]

/-! ### The devices behind the links

The stores that an `UpdateDevice` goes through have the flags, the roles and the guards of their
devices changed, and `ComputeRedundantRSTP` may leave a new `ActDevice` behind for a device that it
did not find.  What the links are moved by stays: the ids, the addresses, and the numbers and
speeds of the interfaces. -/

/-- What is left of an interface. -/
def socket (intf : Interface) : ℤ × Bool × List ℤ :=
  (intf.interfaceId, intf.active, intf.supportSpeeds)

/-- The same device with the same sockets. -/
structure SameSockets (device copy : Device) : Prop where
  id : copy.id = device.id
  ipAddress : copy.ipAddress = device.ipAddress
  sockets : copy.interfaces.map socket = device.interfaces.map socket

/-- A new `ActDevice`. -/
structure Blank (device : Device) : Prop where
  id : device.id = -1
  ipAddress : device.ipAddress = ""
  interfaces : device.interfaces = []

/-- It has the sockets of a device, or is a new one. -/
def HasSockets (base : QSet Device) (x : Device) : Prop :=
  (∃ device ∈ base, SameSockets device x) ∨ Blank x

/-- **The devices of `base`**, each with its sockets, and new ones at most. -/
structure Copies (base devices : QSet Device) : Prop where
  distinct : devices.Distinct
  copy : ∀ x ∈ devices, HasSockets base x
  stored : ∀ device ∈ base, ∃ x ∈ devices, x.id = device.id

variable {base devices : QSet Device} {project project' : Project} {device copy : Device}
  {link : Link}

theorem SameSockets.refl (device : Device) : SameSockets device device := ⟨rfl, rfl, rfl⟩

theorem SameSockets.trans {x y z : Device} (hxy : SameSockets x y) (hyz : SameSockets y z) :
    SameSockets x z :=
  ⟨hyz.id.trans hxy.id, hyz.ipAddress.trans hxy.ipAddress, hyz.sockets.trans hxy.sockets⟩

theorem HasSockets.same {x y : Device} (h : HasSockets base x) (hsame : SameSockets x y) :
    HasSockets base y := by
  rcases h with ⟨device, hdev, hcopy⟩ | hblank
  · exact .inl ⟨device, hdev, hcopy.trans hsame⟩
  · refine .inr ⟨hsame.id.trans hblank.id, hsame.ipAddress.trans hblank.ipAddress, ?_⟩
    have hsockets := hsame.sockets
    rw [hblank.interfaces] at hsockets
    exact map_eq_nil_iff.1 hsockets

theorem interfaceAt_socket (device : Device) (interfaceId : ℤ) :
    (interfaceAt device interfaceId).map socket =
      (device.interfaces.map socket).find? (·.1 == interfaceId) := by
  rw [find?_map]
  rfl

theorem SameSockets.interfaceAt (h : SameSockets device copy) (interfaceId : ℤ) :
    (interfaceAt copy interfaceId).map socket = (interfaceAt device interfaceId).map socket := by
  rw [interfaceAt_socket, interfaceAt_socket, h.sockets]

theorem sameSockets_refreshUsed (deviceId interfaceId : ℤ) (device : Device) :
    SameSockets device (refreshUsed project deviceId interfaceId device) := by
  refine ⟨rfl, rfl, ?_⟩
  unfold refreshUsed
  dsimp only
  rw [List.map_map]
  refine map_congr_left fun intf _ => ?_
  dsimp only [Function.comp]
  split_ifs <;> rfl

namespace Copies

theorem refl (h : base.Distinct) : Copies base base where
  distinct := h
  copy x hx := .inl ⟨x, hx, .refl x⟩
  stored device hdev := ⟨device, hdev, rfl⟩

/-- A device that is taken out and put back with its sockets. -/
theorem replace {deviceId : ℤ} {found : Device} (h : Copies base devices)
    (hfound : devices.find { id := deviceId } = some found) (hsame : SameSockets found copy) :
    Copies base ((devices.remove { id := deviceId }).insert copy) := by
  have hmem : ∀ {x : Device}, x ∈ (devices.remove { id := deviceId }).insert copy ↔
      (x ∈ devices ∧ x ≠ found) ∨ x = copy := by
    refine mem_insert_remove_iff h.distinct device_beq_self device_beq_comm hfound fun x => ?_
    rw [Bool.eq_iff_iff, device_beq_iff, device_beq_iff, hsame.id, hsame.ipAddress]
  refine ⟨(h.distinct.remove _).insert _, fun x hx => ?_, fun device hdev => ?_⟩
  · rcases hmem.1 hx with ⟨hx, -⟩ | rfl
    · exact h.copy x hx
    · exact (h.copy found (mem_of_find hfound).1).same hsame
  · obtain ⟨x, hx, hid⟩ := h.stored device hdev
    by_cases heq : x = found
    · exact ⟨copy, hmem.2 (.inr rfl), by rw [hsame.id, ← heq, hid]⟩
    · exact ⟨x, hmem.2 (.inl ⟨hx, heq⟩), hid⟩

variable (h : Copies base project.devices)
include h

theorem setUsedInterface (deviceId interfaceId : ℤ) :
    Copies base (setUsedInterface project deviceId interfaceId).devices := by
  unfold Core.setUsedInterface
  cases hfound : project.devices.find { id := deviceId } with
  | none => exact h
  | some found => exact h.replace hfound (sameSockets_refreshUsed deviceId interfaceId found)

theorem updateDeviceByLink (link : Link) : Copies base (updateDeviceByLink link project).devices :=
  (h.setUsedInterface _ _).setUsedInterface _ _

/-- **An interface that is found is one of the device of that id**, with its speeds. -/
theorem exists_interface {deviceId interfaceId : ℤ} {intf : Interface}
    (hbase : DevicesWellFormed base) (hcopy : project.getDeviceById deviceId = some copy)
    (hintf : interfaceAt copy interfaceId = some intf) : ∃ device ∈ base, device.id = deviceId ∧
      (interfaceAt device interfaceId).map socket = some (socket intf) := by
  obtain ⟨hmem, hbeq⟩ := mem_of_find hcopy
  rcases h.copy copy hmem with ⟨device, hdev, hsame⟩ | hblank
  · refine ⟨device, hdev, ?_, ?_⟩
    · rcases device_beq_iff.1 hbeq with hid | hip
      · exact hsame.id.symm.trans hid
      · exact absurd (hsame.ipAddress.symm.trans hip) (hbase.address device hdev)
    · rw [← hsame.interfaceAt, hintf]
      rfl
  · unfold interfaceAt at hintf
    rw [hblank.interfaces] at hintf
    cases hintf

theorem getDeviceById_ne_none (hdev : device ∈ base) :
    project.getDeviceById device.id ≠ none := by
  intro hnone
  obtain ⟨x, hx, hid⟩ := h.stored device hdev
  have hmiss := contains_eq_false.1 (find_eq_none.1 hnone) x hx
  have hsame : (x == ({ id := device.id } : Device)) = true := device_beq_iff.2 (.inl hid)
  rw [hsame] at hmiss
  cases hmiss

theorem hasSockets_getD (deviceId : ℤ) :
    HasSockets base ((project.getDeviceById deviceId).getD {}) := by
  cases hfound : project.getDeviceById deviceId with
  | none => exact .inr ⟨rfl, rfl, rfl⟩
  | some x => exact h.copy x (mem_of_find hfound).1

/-- The devices of the search in `ComputeRedundantRSTP`, finished or waiting. -/
def Searched (base : QSet Device) (s : RstpSearch) : Prop :=
  (∀ x ∈ s.deviceSet, HasSockets base x) ∧ ∀ tier, ∀ x ∈ s.bfsQueue.value tier, HasSockets base x

theorem searched_round {rstp : RSTP} {s s' : RstpSearch}
    (hs : Searched base s) (hround : rstpRound project rstp s = .next s') : Searched base s' := by
  unfold rstpRound at hround
  cases hq : s.bfsQueue.value s.tier with
  | nil =>
    rw [hq] at hround
    cases hround
  | cons device current =>
    rw [hq] at hround
    simp only [visitInterfaces_eq] at hround
    obtain rfl := Iter.next.inj hround
    have hwait := hs.2 s.tier
    rw [hq] at hwait
    -- the guards are no part of a socket
    have hvis : HasSockets base { device with
        interfaces := device.interfaces.map fun interface =>
          { interface with
            rootGuard := (nextTierNeighbor project rstp s.deviceSet current device
                interface).isSome && device.deviceProperty.stpRstp.rootGuard } } := by
      refine (hwait device mem_cons_self).same ⟨rfl, rfl, ?_⟩
      dsimp only
      rw [List.map_map]
      rfl
    have hnext : ∀ (neighbors next : List Device), (∀ x ∈ neighbors, HasSockets base x) →
        (∀ x ∈ next, HasSockets base x) →
        ∀ x ∈ neighbors.foldl (enqueueNeighbor (s.tier + 1)) next, HasSockets base x := by
      intro neighbors
      induction neighbors with
      | nil => exact fun next _ hnext => hnext
      | cons neighbor neighbors ih =>
        intro next hnbrs hnext
        refine ih _ (fun x hx => hnbrs x (mem_cons_of_mem _ hx)) ?_
        unfold enqueueNeighbor
        split_ifs
        · exact hnext
        · intro x hx
          rcases mem_append.1 hx with hx | hx
          · exact hnext x hx
          · rw [mem_singleton.1 hx]
            exact (hnbrs neighbor mem_cons_self).same ⟨rfl, rfl, rfl⟩
    refine ⟨fun x hx => ?_, fun tier x hx => ?_⟩
    · rcases mem_or_eq_of_mem_insert hx with hx | rfl
      · exact hs.1 x hx
      · exact hvis
    · rw [QMap.value_insert, QMap.value_insert] at hx
      split_ifs at hx
      · refine hnext _ _ (fun y hy => ?_) (hs.2 _) x hx
        obtain ⟨interface, -, hsome⟩ := mem_filterMap.1 hy
        unfold nextTierNeighbor at hsome
        split at hsome
        · cases hsome
        · dsimp only at hsome
          split_ifs at hsome
          rw [← some.inj hsome]
          exact h.hasSockets_getD _
      · exact hwait x (mem_cons_of_mem _ hx)
      · exact hs.2 tier x hx

theorem hasSockets_computeRstpGroup {fuel : ℕ} {rstp : RSTP}
    {found found' : QSet Device × QMap ℤ RstpTable}
    (hcomp : computeRstpGroup fuel project found rstp = some found')
    (hfound : ∀ x ∈ found.1, HasSockets base x) : ∀ x ∈ found'.1, HasSockets base x := by
  obtain ⟨s, hrun, rfl⟩ := map_eq_some_iff.1 hcomp
  refine (Loop.run_rule (I := Searched base) (Q := Searched base) hrun ⟨hfound, fun tier x hx => ?_⟩
    (fun _ _ _ => searched_round h) fun t r _ ht hdone => ?_).1
  · rw [QMap.value_insert, QMap.value_empty] at hx
    split_ifs at hx
    · unfold rstpRoots at hx
      rcases mem_cons.1 hx with rfl | hx
      · exact (h.hasSockets_getD _).same ⟨rfl, rfl, rfl⟩
      · split_ifs at hx
        · cases hx
        · rw [mem_singleton.1 hx]
          exact (h.hasSockets_getD _).same ⟨rfl, rfl, rfl⟩
    · cases hx
  · unfold rstpRound at hdone
    split at hdone
    · obtain rfl := Iter.done.inj hdone
      exact ht
    · cases hdone

omit h

theorem hasSockets_resetRstpDevice {found : QSet Device × QMap ℤ RstpTable}
    (hfound : ∀ x ∈ found.1, HasSockets base x) (hdev : HasSockets base device) :
    ∀ x ∈ (resetRstpDevice found device).1, HasSockets base x := by
  have hreset : ∀ x ∈ found.1.insert (withoutTier device), HasSockets base x := by
    intro x hx
    rcases mem_or_eq_of_mem_insert hx with hx | rfl
    · exact hfound x hx
    · refine hdev.same ⟨rfl, rfl, ?_⟩
      unfold withoutTier
      dsimp only
      rw [List.map_map]
      rfl
  unfold resetRstpDevice
  split_ifs
  · exact hfound
  · exact hreset
  · exact hreset

/-- A device that is finished or reset is there. -/
theorem exists_resetRstpDevice (found : QSet Device × QMap ℤ RstpTable) (device : Device) :
    (∀ x ∈ found.1, x ∈ (resetRstpDevice found device).1) ∧
      ∃ x ∈ (resetRstpDevice found device).1, (x == device) = true := by
  unfold resetRstpDevice
  cases hc : found.1.contains device with
  | true =>
    rw [if_pos rfl]
    exact ⟨fun x hx => hx, by simpa [QSet.contains] using hc⟩
  | false =>
    have hmiss : found.1.contains (withoutTier device) = false := by
      rw [contains_eq_false] at hc ⊢
      exact hc
    have hself : (withoutTier device == device) = true := device_beq_iff.2 (.inl rfl)
    rw [if_neg Bool.false_ne_true, insert_of_not_contains hmiss]
    exact ⟨fun x hx => mem_append_left _ hx, _,
      mem_append_right _ (mem_singleton_self _), hself⟩

theorem foldl_resetRstpDevice (devices : List Device) (found : QSet Device × QMap ℤ RstpTable)
    (hfound : ∀ x ∈ found.1, HasSockets base x) (hdevs : ∀ x ∈ devices, HasSockets base x) :
    (∀ x ∈ found.1, x ∈ (devices.foldl resetRstpDevice found).1) ∧
      (∀ x ∈ (devices.foldl resetRstpDevice found).1, HasSockets base x) ∧
      ∀ device ∈ devices, ∃ x ∈ (devices.foldl resetRstpDevice found).1, (x == device) = true := by
  induction devices generalizing found with
  | nil => exact ⟨fun x hx => hx, hfound, by simp⟩
  | cons device devices ih =>
    obtain ⟨hkept, x, hx, hbeq⟩ := exists_resetRstpDevice found device
    obtain ⟨hrest, hsockets, hfin⟩ := ih (resetRstpDevice found device)
      (hasSockets_resetRstpDevice hfound (hdevs device mem_cons_self))
      fun y hy => hdevs y (mem_cons_of_mem _ hy)
    rw [foldl_cons]
    refine ⟨fun y hy => hrest y (hkept y hy), hsockets, fun other hother => ?_⟩
    rcases mem_cons.1 hother with rfl | hother
    · exact ⟨x, hrest x hx, hbeq⟩
    · exact hfin other hother

/-- **`ComputeRedundantRSTP` leaves the sockets alone**, and the links. -/
theorem computeRedundantRSTP (h : Copies base project.devices) (hbase : DevicesWellFormed base)
    (hids : ∀ device ∈ base, device.id ≠ -1) {fuel : ℕ}
    (hcomp : computeRedundantRSTP fuel project = some project') :
    Copies base project'.devices ∧ project'.links = project.links := by
  obtain ⟨found, hfold, rfl⟩ := map_eq_some_iff.1 hcomp
  obtain ⟨hfound, hdist⟩ : (∀ x ∈ found.1, HasSockets base x) ∧ found.1.Distinct :=
    OptionRule.foldlM_rule (I := fun found : QSet Device × QMap ℤ RstpTable =>
      (∀ x ∈ found.1, HasSockets base x) ∧ found.1.Distinct) hfold ⟨by simp, List.Pairwise.nil⟩
      fun c c' rstp _ hc hstep =>
        ⟨h.hasSockets_computeRstpGroup hstep hc.1, distinct_computeRstpGroup hstep hc.2⟩
  obtain ⟨-, hsockets, hfin⟩ := foldl_resetRstpDevice project.devices found hfound h.copy
  refine ⟨⟨distinct_foldl_resetRstpDevice hdist, hsockets, fun device hdev => ?_⟩, rfl⟩
  obtain ⟨old, hold, hid⟩ := h.stored device hdev
  obtain ⟨x, hx, hbeq⟩ := hfin old hold
  refine ⟨x, hx, ?_⟩
  rcases device_beq_iff.1 hbeq with hsame | hip
  · exact hsame.trans hid
  -- two copies with one address are of one device
  have haddr : x.ipAddress = device.ipAddress := by
    rcases h.copy old hold with ⟨other, hother, hcopy⟩ | hblank
    · obtain rfl := hbase.eq_of_id hother hdev (hcopy.id.symm.trans hid)
      exact hip.trans hcopy.ipAddress
    · exact absurd (hid.symm.trans hblank.id) (hids device hdev)
  rcases hsockets x hx with ⟨other, hother, hcopy⟩ | hblank
  · have hsame : other = device := hbase.distinct.eq_of_beq device_beq_comm hother hdev
      (device_beq_iff.2 (.inr (hcopy.ipAddress.symm.trans haddr)))
    rw [hcopy.id, hsame]
  · exact absurd (haddr.symm.trans hblank.ipAddress) (hbase.address device hdev)

/-- The groups that an `UpdateDevice` brings in line. -/
theorem updateGroups (h : Copies base project.devices) (hbase : DevicesWellFormed base)
    (hids : ∀ device ∈ base, device.id ≠ -1) {fuel : ℕ} {grouped linked : Project}
    (hrstp : project.rstpGroups.foldlM (updateRstpGroup fuel device) project = .ok grouped)
    (hvlan : updateVlanGroupMembers device grouped = .ok linked) :
    Copies base linked.devices ∧ linked.links = project.links := by
  obtain ⟨groups, rfl⟩ := updateVlanGroupMembers_ok hvlan
  refine foldlM_rule
    (I := fun p => Copies base p.devices ∧ p.links = project.links) hrstp ⟨h, rfl⟩ ?_
  rintro p p' rstp ⟨hp, hlinks⟩ hstep
  obtain ⟨groups, rfl | hcomp⟩ := updateRstpGroup_ok hstep
  · exact ⟨hp, hlinks⟩
  · have hp' : Copies base ({ p with rstpGroups := groups } : Project).devices := hp
    obtain ⟨hcopies, hsame⟩ := hp'.computeRedundantRSTP hbase hids hcomp
    exact ⟨hcopies, hsame.trans hlinks⟩

end Copies

/-! ### One link that is changed or deleted -/

/-- `UpdateLink` of a link of the project replaces that link. -/
theorem mem_updateLink {next : Link} (hlinks : project.links.Distinct)
    (hlink : link ∈ project.links) (hid : next.id = link.id)
    (h : updateLink project next = .ok project') :
    (∀ x, x ∈ project'.links ↔ (x ∈ project.links ∧ x ≠ link) ∨ x = withDeviceIps project next) ∧
      project'.links.Distinct ∧
      (Copies base project.devices → Copies base project'.devices) := by
  obtain ⟨-, -, h⟩ := exists_of_bind h
  dsimp only at h
  have hsame : (link == withDeviceIps project next) = true := link_beq_iff.2 (.inl hid.symm)
  cases hfound : project.links.find (withDeviceIps project next) with
  | none =>
    have hmiss := contains_eq_false.1 (find_eq_none.1 hfound) link hlink
    rw [hsame] at hmiss
    cases hmiss
  | some origLink =>
    rw [hfound] at h
    obtain ⟨_, hport, h⟩ := exists_of_bind h
    have hstrms := sameTopology_updateStreamByLink h
    have hrem : ∀ x, x ∈ project.links.remove (withDeviceIps project next) ↔
        x ∈ project.links ∧ x ≠ origLink := fun x =>
      mem_remove_iff hlinks link_beq_self hfound
    -- the port is checked after one link was taken out, which can only be this one
    have horig : origLink = link := by
      by_contra hne
      have hmiss := contains_eq_false.1 (checkLinkPort_ok hport) link
        ((hrem link).2 ⟨hlink, fun e => hne e.symm⟩)
      rw [hsame] at hmiss
      cases hmiss
    subst horig
    rw [hstrms.links, updateDeviceByLink_links, updateDeviceByLink_links, hstrms.devices]
    refine ⟨fun x => ?_, (hlinks.remove _).insert _, fun hcopies => ?_⟩
    · rw [mem_insert_of_not_contains (checkLinkPort_ok hport), hrem]
    · have hcopies' : Copies base ({ project with
          links := (project.links.remove (withDeviceIps project next)).insert
            (withDeviceIps project next) } : Project).devices := hcopies
      exact (hcopies'.updateDeviceByLink _).updateDeviceByLink _

/-- `DeleteLink` of a link of the project removes that link. -/
theorem mem_deleteLink (hlinks : project.links.Distinct)
    (hanchored : ∀ l ∈ project.links, l.hasEndpoint (-1) (-1) = false)
    (hlink : link ∈ project.links) (h : deleteLink project link.id = .ok project') :
    (∀ x, x ∈ project'.links ↔ x ∈ project.links ∧ x ≠ link) ∧ project'.links.Distinct ∧
      (Copies base project.devices → Copies base project'.devices) := by
  unfold deleteLink at h
  rw [getLinkById_of_mem hlinks hanchored hlink] at h
  obtain ⟨p, hstrms, h⟩ := exists_of_bind h
  cases h
  have hsame := sameTopology_updateStreamByLink hstrms
  have hself := find_of_mem hlinks (link_beq_self link) link_beq_comm hlink
  rw [updateDeviceByLink_links, hsame.links]
  refine ⟨fun x => mem_remove_iff hlinks link_beq_self hself, hlinks.remove _,
    fun hcopies => Copies.updateDeviceByLink ?_ _⟩
  rw [hsame.devices]
  exact hcopies

/-! ### Where the links go -/

/-- The interface of this number is there and active. -/
def activeAt (device : Device) (interfaceId : ℤ) : Bool :=
  ((interfaceAt device interfaceId).map (·.active)).getD false

/-- The speeds that the interface of this number supports. -/
def speedsAt (device : Device) (interfaceId : ℤ) : List ℤ :=
  ((interfaceAt device interfaceId).map (·.supportSpeeds)).getD []

/-- The link ends at the device, on an interface that is gone or no longer active. -/
def losesInterface (device : Device) (link : Link) : Bool :=
  ownInterface device.id link != -1 && !activeAt device (ownInterface device.id link)

/-- The numbers of the active interfaces that are not used. -/
def unusedIn (interfaces : List Interface) : List ℤ :=
  (interfaces.filter fun intf => intf.active && !intf.used).map (·.interfaceId)

/-- How many links lose their interface before this one is reached. -/
def losingBefore (device : Device) (links : List Link) (link : Link) : ℕ :=
  (links.takeWhile (·.id != link.id)).countP (losesInterface device)

/-- **The interface that a link is given**: its own one while that is active.  The links that lose
theirs are given the unused ones, in the order in which the links are walked. -/
def givenInterface (device : Device) (links : List Link) (link : Link) : Option ℤ :=
  if activeAt device (ownInterface device.id link) then some (ownInterface device.id link)
  else (unusedIn device.interfaces)[losingBefore device links link]?

/-- The device at the other end, which may be the updated one itself. -/
def neighborOf (project : Project) (device : Device) (link : Link) : Device :=
  if (otherEnd device.id link).1 = device.id then device
  else (project.getDeviceById (otherEnd device.id link).1).getD {}

/-- The speeds that both ends of a link support when it is on this interface of the device. -/
def sharedSpeeds (project : Project) (device : Device) (link : Link) (interfaceId : ℤ) : Set ℤ :=
  commonSpeeds (speedsAt device interfaceId)
    (speedsAt (neighborOf project device link) (otherEnd device.id link).2)

/-- **What a link of the project becomes.** -/
inductive Outcome (project : Project) (device : Device) (link : Link) : Link → Prop
  | elsewhere (h : ownInterface device.id link = -1) : Outcome project device link link
  | moved {interfaceId speed : ℤ} (sourceIp destinationIp : String)
      (hown : ownInterface device.id link ≠ -1)
      (hgiven : givenInterface device project.links link = some interfaceId)
      (hspeed : IsGreatest (sharedSpeeds project device link interfaceId) speed) :
      Outcome project device link { plugInto device.id interfaceId link with
        speed := UInt16.ofInt speed
        sourceDeviceIp := sourceIp
        destinationDeviceIp := destinationIp }

/-- It does not end at the device, or is given an interface that shares a speed with the other
end. -/
def Survives (project : Project) (device : Device) (link : Link) : Prop :=
  ownInterface device.id link = -1 ∨ ∃ interfaceId,
    givenInterface device project.links link = some interfaceId ∧
      (sharedSpeeds project device link interfaceId).Nonempty

/-- What the links have become after the loop has passed some of them. -/
structure LinksMigrated (project : Project) (device : Device) (passed : List Link)
    (links : QSet Link) : Prop where
  outcome : ∀ x ∈ links, (x ∈ project.links ∧ x ∉ passed) ∨
    ∃ link ∈ passed, Outcome project device link x
  ahead : ∀ link ∈ project.links, link ∉ passed → link ∈ links
  kept : ∀ link ∈ passed, Survives project device link → ∃ x ∈ links, Outcome project device link x

theorem Outcome.id {x : Link} (h : Outcome project device link x) : x.id = link.id := by
  cases h with
  | elsewhere => rfl
  | moved => exact plugInto_id _ _ _

theorem eq_of_link_id {links : QSet Link} (h : links.Distinct) {x y : Link} (hx : x ∈ links)
    (hy : y ∈ links) (hid : x.id = y.id) : x = y :=
  h.eq_of_beq link_beq_comm hx hy (link_beq_iff.2 (.inl hid))

/-- **One link more**: it goes, and what it becomes comes. -/
theorem LinksMigrated.step {links links' : QSet Link} {R : Link → Prop}
    (h : LinksMigrated project device passed links) (hdist : project.links.Distinct)
    (hlink : link ∈ project.links) (hpast : ∀ x ∈ passed, x ∈ project.links ∧ x ≠ link)
    (hmem : ∀ x, x ∈ links' ↔ (x ∈ links ∧ x ≠ link) ∨ R x)
    (hR : ∀ x, R x → Outcome project device link x)
    (hsurvives : Survives project device link → ∃ x, R x) :
    LinksMigrated project device (passed ++ [link]) links' where
  outcome x hx := by
    rcases (hmem x).1 hx with ⟨hx, hne⟩ | hx
    · rcases h.outcome x hx with ⟨hin, hnot⟩ | ⟨old, hold, hout⟩
      · exact .inl ⟨hin, by simpa using ⟨hnot, hne⟩⟩
      · exact .inr ⟨old, mem_append_left _ hold, hout⟩
    · exact .inr ⟨link, mem_append_right _ (mem_singleton_self _), hR x hx⟩
  ahead x hx hnot := by
    rw [mem_append, mem_singleton, not_or] at hnot
    exact (hmem x).2 (.inl ⟨h.ahead x hx hnot.1, hnot.2⟩)
  kept old hold hsurvivesOld := by
    rcases mem_append.1 hold with hold | hold
    · obtain ⟨x, hx, hout⟩ := h.kept old hold hsurvivesOld
      obtain ⟨hin, hne⟩ := hpast old hold
      refine ⟨x, (hmem x).2 (.inl ⟨hx, fun heq => hne ?_⟩), hout⟩
      exact eq_of_link_id hdist hin hlink (hout.id.symm.trans (congrArg Link.id heq))
    · obtain rfl := mem_singleton.1 hold
      obtain ⟨x, hx⟩ := hsurvives hsurvivesOld
      exact ⟨x, (hmem x).2 (.inr hx), hR x hx⟩

theorem LinksMigrated.step_deleted {links links' : QSet Link}
    (h : LinksMigrated project device passed links) (hdist : project.links.Distinct)
    (hlink : link ∈ project.links) (hpast : ∀ x ∈ passed, x ∈ project.links ∧ x ≠ link)
    (hmem : ∀ x, x ∈ links' ↔ x ∈ links ∧ x ≠ link) (hown : ownInterface device.id link ≠ -1)
    (hshared : ∀ interfaceId, givenInterface device project.links link = some interfaceId →
      sharedSpeeds project device link interfaceId = ∅) :
    LinksMigrated project device (passed ++ [link]) links' := by
  refine h.step (R := fun _ => False) hdist hlink hpast (fun x => by rw [hmem, or_false])
    (fun _ hx => hx.elim) ?_
  rintro (hnone | ⟨interfaceId, hgiven, hsome⟩)
  · exact absurd hnone hown
  · rw [hshared interfaceId hgiven] at hsome
    exact absurd hsome Set.not_nonempty_empty

/-! ### The interface that is kept -/

theorem activeAt_of_sameSockets (h : SameSockets device copy) (interfaceId : ℤ) :
    activeAt copy interfaceId = activeAt device interfaceId := by
  have hsame := congrArg (Option.map fun s : ℤ × Bool × List ℤ => s.2.1) (h.interfaceAt interfaceId)
  rw [Option.map_map, Option.map_map] at hsame
  exact congrArg (getD · false) hsame

theorem speedsAt_of_sameSockets (h : SameSockets device copy) (interfaceId : ℤ) :
    speedsAt copy interfaceId = speedsAt device interfaceId := by
  have hsame := congrArg (Option.map fun s : ℤ × Bool × List ℤ => s.2.2) (h.interfaceAt interfaceId)
  rw [Option.map_map, Option.map_map] at hsame
  exact congrArg (getD · []) hsame

/-- The first unused interface is the next one that is given. -/
theorem takeUnused_spec (interfaces : List Interface) :
    match takeUnused interfaces with
    | none => unusedIn interfaces = []
    | some (interfaces', interfaceId) =>
      interfaces'.map socket = interfaces.map socket ∧
        unusedIn interfaces = interfaceId :: unusedIn interfaces' := by
  induction interfaces with
  | nil => rfl
  | cons intf rest ih =>
    unfold takeUnused unusedIn
    rw [filter_cons]
    cases hfree : intf.active && !intf.used with
    | true =>
      rw [if_pos rfl, if_pos rfl]
      refine ⟨rfl, ?_⟩
      rw [map_cons, filter_cons, if_neg (by simp)]
    | false =>
      rw [if_neg Bool.false_ne_true, if_neg Bool.false_ne_true]
      cases htake : takeUnused rest with
      | none =>
        rw [htake] at ih
        exact ih
      | some found =>
        obtain ⟨rest', interfaceId⟩ := found
        rw [htake] at ih
        refine ⟨?_, ?_⟩
        · rw [map_cons, map_cons, ih.1]
        · rw [filter_cons, hfree, if_neg Bool.false_ne_true]
          exact ih.2

theorem activeAt_eq (device : Device) (interfaceId : ℤ) :
    activeAt device interfaceId = ((interfaceAt device interfaceId).filter (·.active)).isSome := by
  unfold activeAt
  cases interfaceAt device interfaceId with
  | none => rfl
  | some intf => cases hact : intf.active <;> simp [Option.filter, hact]

theorem interfaceAt_id {interfaceId : ℤ} {intf : Interface}
    (h : interfaceAt device interfaceId = some intf) : intf.interfaceId = interfaceId := by
  simpa using find?_some h

/-- **What `keepInterface` finds**: the interface of the link while it is active, else the first
unused one, which is used from then on. -/
structure InterfaceKept (device : Device) (interfaceId : ℤ) (device' : Device) (intf : Interface) :
    Prop where
  same : SameSockets device device'
  speeds : speedsAt device intf.interfaceId = intf.supportSpeeds
  given : (activeAt device interfaceId = true ∧ device' = device ∧ intf.interfaceId = interfaceId) ∨
    (activeAt device interfaceId = false ∧
      unusedIn device.interfaces = intf.interfaceId :: unusedIn device'.interfaces)

theorem keepInterface_spec (device : Device) (interfaceId : ℤ) :
    match keepInterface device interfaceId with
    | none => activeAt device interfaceId = false ∧ unusedIn device.interfaces = []
    | some (device', intf) => InterfaceKept device interfaceId device' intf := by
  unfold keepInterface
  have hact := activeAt_eq device interfaceId
  cases hown : (interfaceAt device interfaceId).filter (·.active) with
  | some intf =>
    rw [hown] at hact
    have hfound := (filter_eq_some_iff.1 hown).1
    have hid := interfaceAt_id hfound
    refine ⟨.refl device, ?_, .inl ⟨hact, rfl, hid⟩⟩
    rw [speedsAt, hid, hfound]
    rfl
  | none =>
    rw [hown] at hact
    have hspec := takeUnused_spec device.interfaces
    cases htake : takeUnused device.interfaces with
    | none =>
      rw [htake] at hspec
      exact ⟨hact, hspec⟩
    | some found =>
      obtain ⟨interfaces, unusedId⟩ := found
      rw [htake] at hspec
      have hsame : SameSockets device { device with interfaces := interfaces } :=
        ⟨rfl, rfl, hspec.1⟩
      cases hfound : interfaceAt { device with interfaces := interfaces } unusedId with
      | none =>
        -- the number is that of an interface
        have hmem : unusedId ∈ unusedIn device.interfaces := by
          rw [hspec.2]
          exact mem_cons_self
        obtain ⟨intf, hintf, hid⟩ := mem_map.1 hmem
        have hnone := hsame.interfaceAt unusedId
        rw [hfound, eq_comm, map_none, map_eq_none_iff] at hnone
        have hmiss := find?_eq_none.1 hnone intf (mem_filter.1 hintf).1
        exact absurd (beq_iff_eq.2 hid) hmiss
      | some intf =>
        have hid := interfaceAt_id hfound
        simp only [bind_eq_bind, bind_some, hfound]
        refine ⟨hsame, ?_, .inr ⟨hact, by rw [hid]; exact hspec.2⟩⟩
        rw [← speedsAt_of_sameSockets hsame, speedsAt, hid, hfound]
        rfl

/-! ### The loop over the links -/

/-- **What the loop over the links relies on**: the devices of `base`, the updated one among them,
are a set, no link ends nowhere, the neighbors are there, and speeds are listed in ascending
order. -/
structure Wired (project : Project) (base : QSet Device) (device : Device) : Prop where
  devices : DevicesWellFormed base
  mem : device ∈ base
  links : project.links.Distinct
  anchored : ∀ link ∈ project.links, link.sourceDeviceId ≠ -1 ∧ link.destinationDeviceId ≠ -1
  neighbor : ∀ link ∈ project.links, ownInterface device.id link ≠ -1 →
    neighborOf project device link ∈ base ∧
      (neighborOf project device link).id = (otherEnd device.id link).1
  ascending : ∀ x ∈ base, ∀ intf ∈ x.interfaces, intf.supportSpeeds.Pairwise (· ≤ ·)

/-- **The loop over the links** after it has passed some of them. -/
structure Migrating (project : Project) (base : QSet Device) (device : Device) (passed : List Link)
    (found : Device × Project) : Prop where
  same : SameSockets device found.1
  unused : unusedIn found.1.interfaces =
    (unusedIn device.interfaces).drop (passed.countP (losesInterface device))
  distinct : found.2.links.Distinct
  copies : Copies base found.2.devices
  links : LinksMigrated project device passed found.2.links

theorem Outcome.ends {x : Link} (h : Outcome project device link x) :
    x.sourceDeviceId = link.sourceDeviceId ∧ x.destinationDeviceId = link.destinationDeviceId := by
  cases h with
  | elsewhere => exact ⟨rfl, rfl⟩
  | moved =>
    unfold plugInto
    split_ifs <;> exact ⟨rfl, rfl⟩

theorem Wired.anchored_outcome (h : Wired project base device)
    (hpast : ∀ x ∈ passed, x ∈ project.links) {links : QSet Link}
    (hlinks : LinksMigrated project device passed links) :
    ∀ x ∈ links, x.hasEndpoint (-1) (-1) = false := by
  intro x hx
  obtain ⟨hsrc, hdest⟩ : x.sourceDeviceId ≠ -1 ∧ x.destinationDeviceId ≠ -1 := by
    rcases hlinks.outcome x hx with ⟨hin, -⟩ | ⟨link, hlink, hout⟩
    · exact h.anchored x hin
    · rw [hout.ends.1, hout.ends.2]
      exact h.anchored link (hpast link hlink)
  simp [Link.hasEndpoint, hsrc, hdest]

theorem speedsAt_ascending (h : ∀ intf ∈ device.interfaces, intf.supportSpeeds.Pairwise (· ≤ ·))
    (interfaceId : ℤ) : (speedsAt device interfaceId).reverse.Pairwise (· ≥ ·) := by
  rw [pairwise_reverse]
  unfold speedsAt
  cases hfound : interfaceAt device interfaceId with
  | none => exact List.Pairwise.nil
  | some intf => exact h intf (mem_of_find?_eq_some hfound)

/-- The speed that the loop finds for a link is the largest that both ends support. -/
theorem Wired.commonSpeed (h : Wired project base device) (hlink : link ∈ project.links)
    (hown : ownInterface device.id link ≠ -1) (interfaceId : ℤ) :
    match commonSpeed (speedsAt device interfaceId).reverse
      (speedsAt (neighborOf project device link) (otherEnd device.id link).2).reverse with
    | some speed => IsGreatest (sharedSpeeds project device link interfaceId) speed
    | none => sharedSpeeds project device link interfaceId = ∅ := by
  have hspec := commonSpeed_spec (speedsAt_ascending (h.ascending device h.mem) interfaceId)
    (speedsAt_ascending (h.ascending _ (h.neighbor link hlink hown).1) (otherEnd device.id link).2)
  rw [commonSpeeds_reverse] at hspec
  exact hspec

theorem takeWhile_passed {links rest : List Link} (h : QSet.Distinct links)
    (hsplit : links = passed ++ link :: rest) :
    (∀ x ∈ passed, x ∈ links ∧ x ≠ link) ∧ links.takeWhile (·.id != link.id) = passed := by
  subst hsplit
  have hapart : ∀ x ∈ passed, x.id ≠ link.id := by
    intro x hx hid
    have hbeq := (pairwise_append.1 h).2.2 x hx link mem_cons_self
    rw [link_beq_iff.2 (.inl hid)] at hbeq
    cases hbeq
  refine ⟨fun x hx => ⟨mem_append_left _ hx, fun e => hapart x hx (by rw [e])⟩, ?_⟩
  rw [takeWhile_append_of_pos fun x hx => by simpa using hapart x hx,
    takeWhile_cons_of_neg (by simp), append_nil]

/-- **The interface that the loop finds is the one that is given**, and the unused ones after it are
left. -/
theorem InterfaceKept.given_eq {rest : List Link} {found : Device × Project} {device' : Device}
    {intf : Interface} (h : Migrating project base device passed found)
    (hdist : project.links.Distinct) (hsplit : project.links = passed ++ link :: rest)
    (hown : ownInterface device.id link ≠ -1)
    (hkept : InterfaceKept found.1 (ownInterface device.id link) device' intf) :
    givenInterface device project.links link = some intf.interfaceId ∧
      unusedIn device'.interfaces = (unusedIn device.interfaces).drop
        ((passed ++ [link]).countP (losesInterface device)) := by
  unfold givenInterface losingBefore
  rw [(takeWhile_passed hdist hsplit).2, countP_append, countP_singleton]
  have hact := activeAt_of_sameSockets h.same (ownInterface device.id link)
  rcases hkept.given with ⟨hown', rfl, hid⟩ | ⟨hown', hunused⟩
  · rw [hact] at hown'
    rw [if_pos hown', hid, losesInterface, hown', Bool.not_true, Bool.and_false,
      if_neg Bool.false_ne_true, Nat.add_zero]
    exact ⟨rfl, h.unused⟩
  · rw [hact] at hown'
    rw [h.unused] at hunused
    have hloses : losesInterface device link = true := by
      rw [losesInterface, hown', Bool.not_false, Bool.and_true, bne_iff_ne]
      exact hown
    rw [hown', if_neg Bool.false_ne_true, hloses, if_pos rfl, ← head?_drop, ← tail_drop,
      hunused]
    exact ⟨rfl, rfl⟩

/-- A link for which nothing is left is given nothing. -/
theorem givenInterface_of_none {rest : List Link} {found : Device × Project}
    (h : Migrating project base device passed found) (hdist : project.links.Distinct)
    (hsplit : project.links = passed ++ link :: rest)
    (hact : activeAt found.1 (ownInterface device.id link) = false)
    (hunused : unusedIn found.1.interfaces = []) : givenInterface device project.links link = none ∧
      unusedIn found.1.interfaces = (unusedIn device.interfaces).drop
        ((passed ++ [link]).countP (losesInterface device)) := by
  rw [activeAt_of_sameSockets h.same] at hact
  unfold givenInterface losingBefore
  have hdrop := h.unused
  rw [hunused] at hdrop
  rw [(takeWhile_passed hdist hsplit).2, hact, if_neg Bool.false_ne_true, ← head?_drop,
    ← hdrop, countP_append, ← drop_drop, ← hdrop, drop_nil]
  exact ⟨rfl, hunused⟩

/-- **The link with an interface of the device.**  Its neighbor is found, so that it is moved, or
deleted for want of a common speed. -/
theorem LinkMoved.step {q q' : Project} {intf : Interface} (hwired : Wired project base device)
    (hlink : link ∈ project.links) (hpast : ∀ x ∈ passed, x ∈ project.links ∧ x ≠ link)
    (hown : ownInterface device.id link ≠ -1)
    (hgiven : givenInterface device project.links link = some intf.interfaceId)
    (hspeeds : speedsAt device intf.interfaceId = intf.supportSpeeds)
    (hdist : q.links.Distinct) (hcopies : Copies base q.devices)
    (hlinks : LinksMigrated project device passed q.links)
    (h : LinkMoved q link intf device.id q') : q'.links.Distinct ∧ Copies base q'.devices ∧
      LinksMigrated project device (passed ++ [link]) q'.links := by
  obtain ⟨hnbr, hneighborId⟩ := hwired.neighbor link hlink hown
  have hstored := hlinks.ahead link hlink fun hin => (hpast link hin).2 rfl
  have hcomm := hwired.commonSpeed hlink hown intf.interfaceId
  -- the interface at the other end is the one of the neighbor
  have hspeeds' : ∀ {found : Device} {foundIntf : Interface},
      q.getDeviceById (otherEnd device.id link).1 = some found →
      interfaceAt found (otherEnd device.id link).2 = some foundIntf →
      speedsAt (neighborOf project device link) (otherEnd device.id link).2 =
        foundIntf.supportSpeeds := by
    intro found foundIntf hfound hintf
    obtain ⟨other, hother, hid, hsocket⟩ := hcopies.exists_interface hwired.devices hfound hintf
    obtain rfl := hwired.devices.eq_of_id hother hnbr (hid.trans hneighborId.symm)
    obtain ⟨otherIntf, hotherIntf, hsame⟩ := map_eq_some_iff.1 hsocket
    rw [speedsAt, hotherIntf]
    exact congrArg (fun s : ℤ × Bool × List ℤ => s.2.2) hsame
  cases h with
  | alone hnone =>
    rw [← hneighborId] at hnone
    exact absurd hnone (hcopies.getDeviceById_ne_none hnbr)
  | deleted hfound hintf hspeed hdel =>
    rw [hspeeds, hspeeds' hfound hintf, hspeed] at hcomm
    obtain ⟨hmem, hdist', hcopies'⟩ := mem_deleteLink hdist
      (hwired.anchored_outcome (fun x hx => (hpast x hx).1) hlinks) hstored hdel
    refine ⟨hdist', hcopies' hcopies, hlinks.step_deleted hwired.links hlink hpast hmem hown
      fun interfaceId hgiven' => ?_⟩
    obtain rfl := some.inj (hgiven.symm.trans hgiven')
    exact hcomm
  | @moved found foundIntf speed _ hfound hintf hspeed hupd =>
    rw [hspeeds, hspeeds' hfound hintf, hspeed] at hcomm
    have hid : ({ plugInto device.id intf.interfaceId link with
        speed := UInt16.ofInt speed } : Link).id = link.id := plugInto_id _ _ _
    obtain ⟨hmem, hdist', hcopies'⟩ := mem_updateLink hdist hstored hid hupd
    refine ⟨hdist', hcopies' hcopies, hlinks.step hwired.links hlink hpast hmem ?_
      fun _ => ⟨_, rfl⟩⟩
    rintro x rfl
    exact .moved _ _ hown hgiven hcomm

/-- **One link of the loop.** -/
theorem Migrating.step {rest : List Link} {found found' : Device × Project}
    (hwired : Wired project base device) (hsplit : project.links = passed ++ link :: rest)
    (h : Migrating project base device passed found)
    (hstep : updateDeviceLink found link = .ok found') :
    Migrating project base device (passed ++ [link]) found' := by
  obtain ⟨current, q⟩ := found
  obtain ⟨current', q'⟩ := found'
  have hlink : link ∈ project.links := by
    rw [hsplit]
    exact mem_append_right _ mem_cons_self
  have hpast := (takeWhile_passed hwired.links hsplit).1
  have hstored := h.links.ahead link hlink fun hin => (hpast link hin).2 rfl
  have hid : current.id = device.id := h.same.id
  have hcase := updateDeviceLink_ok hstep
  rw [hid] at hcase
  rcases hcase with ⟨hown, rfl, rfl⟩ | ⟨hown, hkeep, rfl, hdel⟩ | ⟨intf, hown, hkeep, hmoved⟩
  · have hloses : losesInterface device link = false := by simp [losesInterface, hown]
    refine ⟨h.same, ?_, h.distinct, h.copies, h.links.step hwired.links hlink hpast
      (R := fun x => x = link) (fun x => ?_) ?_ fun _ => ⟨link, rfl⟩⟩
    · rw [countP_append, countP_singleton, hloses, if_neg Bool.false_ne_true,
        Nat.add_zero]
      exact h.unused
    · by_cases heq : x = link
      · subst heq
        exact ⟨fun _ => .inr rfl, fun _ => hstored⟩
      · simp [heq]
    · rintro x rfl
      exact .elsewhere hown
  · have hspec := keepInterface_spec current' (ownInterface device.id link)
    rw [hkeep] at hspec
    obtain ⟨hgiven, hunused⟩ := givenInterface_of_none h hwired.links hsplit hspec.1 hspec.2
    obtain ⟨hmem, hdist, hcopies⟩ := mem_deleteLink h.distinct
      (hwired.anchored_outcome (fun x hx => (hpast x hx).1) h.links) hstored hdel
    refine ⟨h.same, hunused, hdist, hcopies h.copies, h.links.step_deleted hwired.links hlink
      hpast hmem hown fun interfaceId hgiven' => ?_⟩
    rw [hgiven] at hgiven'
    cases hgiven'
  · have hspec := keepInterface_spec current (ownInterface device.id link)
    rw [hkeep] at hspec
    obtain ⟨hgiven, hunused⟩ := InterfaceKept.given_eq h hwired.links hsplit hown hspec
    have hspeeds := hspec.speeds
    rw [speedsAt_of_sameSockets h.same] at hspeeds
    obtain ⟨hdist, hcopies, hlinks⟩ := hmoved.step hwired hlink hpast hown hgiven hspeeds
      h.distinct h.copies h.links
    exact ⟨h.same.trans hspec.same, hunused, hdist, hcopies, hlinks⟩

/-- **The whole loop.** -/
theorem migrating_of_foldlM {linked : Project} {found : Device × Project}
    (hwired : Wired project base device) (hcopies : Copies base linked.devices)
    (hlinks : linked.links = project.links)
    (h : linked.links.foldlM updateDeviceLink (device, linked) = .ok found) :
    Migrating project base device project.links found := by
  rw [hlinks] at h
  refine foldlM_rule_passed h ⟨.refl device, rfl, ?_, hcopies, ?_⟩
    fun passed link rest c c' hsplit hc hstep => hc.step hwired hsplit hstep
  · rw [hlinks]
    exact hwired.links
  · rw [hlinks]
    exact ⟨fun x hx => .inl ⟨hx, not_mem_nil⟩, fun x hx _ => hx, by simp⟩

/-! ### What an `UpdateDevice` does to the links -/

/-- **A consistent table of cables**: besides the links and the flags, the devices are in order, -1
is the number of no interface, and speeds are listed in ascending order. -/
structure CableTable (services : DeviceServices) (project : Project) : Prop
    extends ConsistentLinks project where
  order : DevicesInOrder services.addresses project.devices project.usedIpAddresses
  numbered : ∀ device ∈ project.devices, ∀ intf ∈ device.interfaces, intf.interfaceId ≠ -1
  ascending : ∀ device ∈ project.devices, ∀ intf ∈ device.interfaces,
    intf.supportSpeeds.Pairwise (· ≤ ·)

/-- The link ends at the device. -/
def AttachedTo (deviceId : ℤ) (link : Link) : Prop :=
  link.sourceDeviceId = deviceId ∨ link.destinationDeviceId = deviceId

variable {services : DeviceServices} {fuel : ℕ} {request matched stored : Device}

theorem CableTable.attachedTo_iff (h : CableTable services project) (hlink : link ∈ project.links)
    (deviceId : ℤ) : AttachedTo deviceId link ↔ ownInterface deviceId link ≠ -1 := by
  have hne : ∀ d i, link.hasEndpoint d i = true → i ≠ -1 := by
    intro d i hend
    obtain ⟨x, hx, -, intf, hintf, rfl⟩ := h.ends link hlink d i hend
    exact h.numbered x hx intf hintf
  have hsrc := hne link.sourceDeviceId link.sourceInterfaceId (by simp [Link.hasEndpoint])
  have hdest := hne link.destinationDeviceId link.destinationInterfaceId
    (by simp [Link.hasEndpoint])
  unfold AttachedTo ownInterface
  split_ifs with hs hd
  · simp [hs, hsrc]
  · simp [hd, hdest]
  · simp [hs, hd]

theorem hasEndpoint_otherEnd (deviceId : ℤ) (link : Link) :
    link.hasEndpoint (otherEnd deviceId link).1 (otherEnd deviceId link).2 = true := by
  unfold otherEnd
  split_ifs <;> simp [Link.hasEndpoint]

theorem takeDevice_links (services : DeviceServices) (project : Project) (deviceId : ℤ) :
    (takeDevice services project deviceId).2.links = project.links := by
  unfold takeDevice
  split <;> rfl

/-- The devices that remain are those of other ids. -/
theorem mem_takeDevice (h : CableTable services project) {deviceId : ℤ} (x : Device) :
    x ∈ (takeDevice services project deviceId).2.devices ↔
      x ∈ project.devices ∧ x.id ≠ deviceId := by
  obtain ⟨-, hids, ⟨hnone, htake⟩ | ⟨l₁, deleted, l₂, hsplit, hid, htake⟩⟩ :=
    takeDevice_spec h.order deviceId
  · rw [htake]
    exact ⟨fun hx => ⟨hx, hnone x hx⟩, And.left⟩
  · rw [htake] at hids ⊢
    dsimp only at hids ⊢
    rw [hsplit]
    constructor
    · exact fun hx => ⟨by simp only [mem_append, mem_cons] at hx ⊢; tauto, hids x hx⟩
    · rintro ⟨hx, hne⟩
      simp only [mem_append, mem_cons] at hx ⊢
      rcases hx with hx | rfl | hx
      · exact .inl hx
      · exact absurd hid hne
      · exact .inr hx

/-- **An `UpdateDevice` that succeeds has migrated the links**: to the interfaces that the profile
gives the device. -/
theorem exists_migrating (htable : CableTable services project) (hid : request.id ≠ -1)
    (hmatch : matchDeviceProfile services (refreshInterfaces project request) = .ok matched)
    (hspeeds : ∀ intf ∈ matched.interfaces, intf.supportSpeeds.Pairwise (· ≤ ·))
    (hupd : updateDevice services fuel project request = .ok (stored, project')) :
    ∃ base final, matched.id = request.id ∧ Wired project base matched ∧
      Migrating project base matched project.links (stored, final) ∧
      project'.links = final.links := by
  unfold updateDevice at hupd
  obtain ⟨⟨replaced, p₁⟩, hrepl, hupd⟩ := exists_of_bind hupd
  obtain ⟨p₂, hskus, hupd⟩ := exists_of_bind hupd
  cases hupd
  obtain ⟨skus, -, rfl⟩ := changeSkus_eq_ok.1 hskus
  obtain ⟨numbered, profiled, entered, grouped, linked, final, hsteps⟩ :=
    exists_replaceSteps hrepl
  obtain ⟨hrest, hids, -⟩ := takeDevice_spec htable.order request.id
  have hmem := @mem_takeDevice _ services htable request.id
  have hlinks := takeDevice_links services project request.id
  generalize (takeDevice services project request.id).1 = deleted at hsteps
  generalize (takeDevice services project request.id).2 = rest at hsteps hrest hids hmem hlinks
  obtain ⟨hunused, ⟨counted, moved, hid', hgroup, hent⟩, hmatch', hcheck, hrstp, hvlan, hloop,
    rfl⟩ := hsteps
  have hrefreshed : refreshInterfaces rest request = refreshInterfaces project request := by
    unfold refreshInterfaces Project.getLinkByInterfaceId
    rw [hlinks]
  obtain ⟨hnumbered, counter, rfl⟩ := assignDeviceId_ok hid'
  obtain ⟨-, rfl⟩ := moveGroup_ok hgroup
  have hsame : numbered = refreshInterfaces project request := by
    unfold assignDeviceId at hid'
    rw [if_neg (show (refreshInterfaces rest request).id ≠ -1 from hid)] at hid'
    exact (Prod.mk.inj (Except.ok.inj hid')).1.symm.trans hrefreshed
  rw [hsame] at hmatch'
  obtain rfl : profiled = matched := Except.ok.inj (hmatch'.symm.trans hmatch)
  -- the device is stored under its own id, with an address of its own
  have hplaced : Placed services rest.devices rest.usedIpAddresses request profiled :=
    placed_of (show (refreshInterfaces rest request).id = request.id from rfl)
      ⟨rfl, rfl, rfl, rfl, rfl, rfl⟩ hnumbered (matchDeviceProfile_ok (hsame ▸ hmatch'))
      (checkDevice_ok hcheck) (checkAddressUnused_ok hunused)
  have hprofiledId : profiled.id = request.id := hplaced.id_of_ne hid
  rw [← hprofiledId] at hids hmem
  obtain ⟨hins, hin⟩ := hrest.insert hplaced hids
  have hcopies : Copies (rest.devices ++ [profiled]) entered.devices := by
    rw [show entered.devices = rest.devices ++ [profiled] by rw [hent]; exact hins]
    exact .refl hin.distinct
  have henteredLinks : entered.links = project.links := by
    rw [hent]
    exact hlinks
  obtain ⟨hlinkedCopies, hlinkedLinks⟩ :=
    hcopies.updateGroups hin.wellFormed hin.id_ne hrstp hvlan
  have hwired : Wired project (rest.devices ++ [profiled]) profiled := by
    refine ⟨hin.wellFormed, by simp, htable.links, fun link hlink => ?_, fun link hlink hown => ?_,
      fun x hx => ?_⟩
    · obtain ⟨source, hsrc, hsourceId, -⟩ := htable.ends link hlink link.sourceDeviceId
        link.sourceInterfaceId (by simp [Link.hasEndpoint])
      obtain ⟨dest, hdest, hdestId, -⟩ := htable.ends link hlink link.destinationDeviceId
        link.destinationInterfaceId (by simp [Link.hasEndpoint])
      exact ⟨hsourceId ▸ htable.order.id_ne source hsrc,
        hdestId ▸ htable.order.id_ne dest hdest⟩
    · unfold neighborOf
      split_ifs with hself
      · exact ⟨by simp, hself.symm⟩
      · obtain ⟨other, hother, hotherId, -⟩ := htable.ends link hlink
          (otherEnd profiled.id link).1 (otherEnd profiled.id link).2 (hasEndpoint_otherEnd _ _)
        rw [htable.devices.getDeviceById hother hotherId, getD_some]
        rw [← hotherId] at hself
        exact ⟨mem_append_left _ ((hmem other).2 ⟨hother, hself⟩), hotherId⟩
    · rcases mem_append.1 hx with hx | hx
      · exact htable.ascending x ((hmem x).1 hx).1
      · rw [mem_singleton.1 hx]
        exact hspeeds
  exact ⟨_, final, hprofiledId, hwired,
    migrating_of_foldlM hwired hlinkedCopies (hlinkedLinks.trans henteredLinks) hloop, rfl⟩

/-! ### The cables are kept -/

/-- **The cable is still there**: it ends at the same two devices, the other end is where it was,
the end at the device is on an active interface, on its own one if that is active, and its speed is
the largest that both ends support. -/
structure CableKept (project : Project) (stored : Device) (link link' : Link) : Prop where
  id : link'.id = link.id
  ends : link'.sourceDeviceId = link.sourceDeviceId ∧
    link'.destinationDeviceId = link.destinationDeviceId
  otherEnd : otherEnd stored.id link' = otherEnd stored.id link
  active : ∃ intf ∈ stored.interfaces,
    intf.interfaceId = ownInterface stored.id link' ∧ intf.active = true
  same : activeAt stored (ownInterface stored.id link) = true →
    ownInterface stored.id link' = ownInterface stored.id link
  speed : IsGreatest (sharedSpeeds project stored link (ownInterface stored.id link'))
    link'.speed.toNat

/-- **The cable had to go**: no active interface of the device is without one, or the interface that
it was given shares no speed with its other end. -/
structure CableDeleted (project : Project) (matched stored : Device) (project' : Project)
    (link : Link) : Prop where
  gone : ∀ link' ∈ project'.links, link'.id ≠ link.id
  reason : (∀ intf ∈ stored.interfaces, intf.active = true →
      ∃ link' ∈ project'.links, link'.hasEndpoint stored.id intf.interfaceId = true) ∨
    ∃ interfaceId, givenInterface matched project.links link = some interfaceId ∧
      sharedSpeeds project stored link interfaceId = ∅

/-- **The cables of the device are kept where possible**, and no two links share an endpoint. -/
structure CablesKept (project : Project) (matched stored : Device) (project' : Project) : Prop where
  cables : ∀ link ∈ project.links, AttachedTo stored.id link →
    (∃ link' ∈ project'.links, CableKept project stored link link') ∨
      CableDeleted project matched stored project' link
  apart : project'.links.Pairwise fun x y => ∀ deviceId interfaceId,
    ¬(x.hasEndpoint deviceId interfaceId = true ∧ y.hasEndpoint deviceId interfaceId = true)

/-- A link is given this interface, or ends there with its other end, and has a speed. -/
def Occupied (project : Project) (device : Device) (interfaceId : ℤ) : Prop :=
  ∃ link ∈ project.links, AttachedTo device.id link ∧
    ∃ givenId, givenInterface device project.links link = some givenId ∧
      (sharedSpeeds project device link givenId).Nonempty ∧
      (givenId = interfaceId ∨ otherEnd device.id link = (device.id, interfaceId))

/-- **No interface is wasted**: there is an unused interface for every link that loses its own, or
every active interface is occupied in the end; and the speeds of the links fit in 16 bits. -/
structure MigrationFits (project : Project) (device : Device) : Prop where
  room : project.links.countP (losesInterface device) ≤ (unusedIn device.interfaces).length ∨
    ∀ intf ∈ device.interfaces, intf.active = true → Occupied project device intf.interfaceId
  speeds : ∀ link ∈ project.links, AttachedTo device.id link →
    ∀ interfaceId, givenInterface device project.links link = some interfaceId →
      ∀ speed, IsGreatest (sharedSpeeds project device link interfaceId) speed →
        0 ≤ speed ∧ speed < 2 ^ 16

theorem toNat_ofInt_eq_iff (speed : ℤ) :
    ((UInt16.ofInt speed).toNat : ℤ) = speed ↔ 0 ≤ speed ∧ speed < 2 ^ 16 := by
  unfold UInt16.ofInt
  rw [UInt16.toNat_ofNat']
  omega

theorem ownInterface_plugInto {deviceId : ℤ} (h : ownInterface deviceId link ≠ -1)
    (interfaceId : ℤ) :
    ownInterface deviceId (plugInto deviceId interfaceId link) = interfaceId := by
  unfold ownInterface at h ⊢
  unfold plugInto
  by_cases hsrc : link.sourceDeviceId = deviceId
  · simp [hsrc]
  · rw [if_neg hsrc] at h ⊢
    by_cases hdest : link.destinationDeviceId = deviceId
    · simp [hsrc, hdest]
    · exact absurd (if_neg hdest) h

theorem otherEnd_plugInto (deviceId interfaceId : ℤ) (link : Link) :
    otherEnd deviceId (plugInto deviceId interfaceId link) = otherEnd deviceId link := by
  unfold otherEnd plugInto
  by_cases hsrc : link.sourceDeviceId = deviceId <;> simp [hsrc]

/-- A link ends at the device with the end that it is moved by, or with the other one. -/
theorem hasEndpoint_iff_own {deviceId interfaceId : ℤ} (h : AttachedTo deviceId link) :
    link.hasEndpoint deviceId interfaceId = true ↔ ownInterface deviceId link = interfaceId ∨
      otherEnd deviceId link = (deviceId, interfaceId) := by
  unfold ownInterface otherEnd Link.hasEndpoint
  rcases h with hs | hd
  · simp [hs]
  · by_cases hs : link.sourceDeviceId = deviceId
    · simp [hs]
    · simp [hs, hd]

theorem Outcome.survives {x : Link} (h : Outcome project device link x) :
    Survives project device link := by
  cases h with
  | elsewhere h => exact .inl h
  | moved _ _ _ hgiven hspeed => exact .inr ⟨_, hgiven, _, hspeed.1⟩

theorem exists_of_givenInterface {links : List Link} {interfaceId : ℤ}
    (h : givenInterface device links link = some interfaceId) :
    ∃ intf ∈ device.interfaces, intf.interfaceId = interfaceId ∧ intf.active = true := by
  unfold givenInterface at h
  split_ifs at h with hact
  · cases h
    rw [activeAt_eq] at hact
    obtain ⟨intf, hfound⟩ := isSome_iff_exists.1 hact
    obtain ⟨hintf, hon⟩ := filter_eq_some_iff.1 hfound
    exact ⟨intf, mem_of_find?_eq_some hintf, interfaceAt_id hintf, hon⟩
  · obtain ⟨intf, hintf, rfl⟩ := mem_map.1 (mem_of_getElem? h)
    obtain ⟨hmem, hfree⟩ := mem_filter.1 hintf
    rw [Bool.and_eq_true] at hfree
    exact ⟨intf, hmem, rfl, hfree.1⟩

theorem SameSockets.exists_interface (h : SameSockets device copy) {intf : Interface}
    (hintf : intf ∈ device.interfaces) : ∃ intf' ∈ copy.interfaces, socket intf' = socket intf := by
  have hmem : socket intf ∈ copy.interfaces.map socket := by
    rw [h.sockets]
    exact mem_map_of_mem hintf
  exact mem_map.1 hmem

theorem SameSockets.symm (h : SameSockets device copy) : SameSockets copy device :=
  ⟨h.id.symm, h.ipAddress.symm, h.sockets.symm⟩

theorem sharedSpeeds_of_sameSockets (h : SameSockets device copy) (project : Project) (link : Link)
    (interfaceId : ℤ) :
    sharedSpeeds project copy link interfaceId = sharedSpeeds project device link interfaceId := by
  unfold sharedSpeeds neighborOf
  rw [speedsAt_of_sameSockets h, h.id]
  split_ifs
  · rw [speedsAt_of_sameSockets h]
  · rfl

theorem Migrating.exists_outcome {found : Device × Project}
    (h : Migrating project base device project.links found) {x : Link} (hx : x ∈ found.2.links) :
    ∃ link ∈ project.links, Outcome project device link x := by
  rcases h.links.outcome x hx with ⟨hin, hnot⟩ | hout
  · exact absurd hin hnot
  · exact hout

theorem Migrating.gone {found : Device × Project} (hwired : Wired project base device)
    (h : Migrating project base device project.links found) (hlink : link ∈ project.links)
    (hnot : ¬Survives project device link) : ∀ x ∈ found.2.links, x.id ≠ link.id := by
  intro x hx hid
  obtain ⟨other, hother, hout⟩ := h.exists_outcome hx
  obtain rfl := eq_of_link_id hwired.links hother hlink (hout.id.symm.trans hid)
  exact hnot hout.survives

/-- **A link that was moved is kept**, if its speed fits. -/
theorem Outcome.cableKept {x : Link} (h : Outcome project device link x)
    (hsame : SameSockets device stored) (hown : ownInterface device.id link ≠ -1)
    (hspeeds : ∀ interfaceId, givenInterface device project.links link = some interfaceId →
      ∀ speed, IsGreatest (sharedSpeeds project device link interfaceId) speed →
        0 ≤ speed ∧ speed < 2 ^ 16) : CableKept project stored link x := by
  have hends := h.ends
  have hid := h.id
  cases h with
  | elsewhere hnone => exact absurd hnone hown
  | @moved interfaceId speed sourceIp destinationIp _ hgiven hspeed =>
    have hmoved : ownInterface stored.id { plugInto device.id interfaceId link with
        speed := UInt16.ofInt speed, sourceDeviceIp := sourceIp
        destinationDeviceIp := destinationIp } = interfaceId := by
      rw [hsame.id]
      exact ownInterface_plugInto hown interfaceId
    refine ⟨hid, hends, ?_, ?_, fun hact => ?_, ?_⟩
    · rw [hsame.id]
      exact otherEnd_plugInto device.id interfaceId link
    · obtain ⟨intf, hintf, hintfId, hact⟩ := exists_of_givenInterface hgiven
      obtain ⟨intf', hintf', hsocket⟩ := hsame.exists_interface hintf
      rw [hmoved, ← hintfId, ← hact]
      exact ⟨intf', hintf', congrArg Prod.fst hsocket, congrArg (fun s => s.2.1) hsocket⟩
    · rw [hsame.id, activeAt_of_sameSockets hsame] at hact
      rw [givenInterface, if_pos hact] at hgiven
      rw [hmoved, hsame.id]
      exact (some.inj hgiven).symm
    · rw [hmoved, sharedSpeeds_of_sameSockets hsame, (toNat_ofInt_eq_iff speed).2
        (hspeeds interfaceId hgiven speed hspeed)]
      exact hspeed

/-- **The interfaces that are in use in the end** are those that are occupied. -/
theorem Migrating.inUse_iff {found : Device × Project} (htable : CableTable services project)
    (h : Migrating project base device project.links found) (interfaceId : ℤ) :
    (∃ x ∈ found.2.links, x.hasEndpoint device.id interfaceId = true) ↔
      Occupied project device interfaceId := by
  have hplugged : ∀ {link : Link} (givenId : ℤ), AttachedTo device.id link →
      AttachedTo device.id (plugInto device.id givenId link) := by
    intro link givenId hto
    unfold plugInto
    split_ifs <;> exact hto
  constructor
  · rintro ⟨x, hx, hend⟩
    obtain ⟨link, hlink, hout⟩ := h.exists_outcome hx
    have hown : ownInterface device.id link ≠ -1 := by
      rw [← htable.attachedTo_iff hlink]
      unfold AttachedTo
      rw [← hout.ends.1, ← hout.ends.2]
      simp only [Link.hasEndpoint, Bool.or_eq_true, Bool.and_eq_true, beq_iff_eq] at hend
      exact hend.imp And.left And.left
    have hto : AttachedTo device.id link := (htable.attachedTo_iff hlink _).2 hown
    cases hout with
    | elsewhere hnone => exact absurd hnone hown
    | @moved givenId speed _ _ _ hgiven hspeed =>
      refine ⟨link, hlink, hto, givenId, hgiven, ⟨speed, hspeed.1⟩, ?_⟩
      have hend' := (hasEndpoint_iff_own (hplugged givenId hto)).1 hend
      rwa [ownInterface_plugInto hown, otherEnd_plugInto] at hend'
  · rintro ⟨link, hlink, hto, givenId, hgiven, hshared, hends⟩
    have hown := (htable.attachedTo_iff hlink _).1 hto
    obtain ⟨x, hx, hout⟩ := h.links.kept link hlink (.inr ⟨givenId, hgiven, hshared⟩)
    refine ⟨x, hx, ?_⟩
    cases hout with
    | elsewhere hnone => exact absurd hnone hown
    | @moved givenId' speed _ _ _ hgiven' hspeed =>
      obtain rfl := some.inj (hgiven.symm.trans hgiven')
      refine (hasEndpoint_iff_own (hplugged givenId hto)).2 ?_
      rwa [ownInterface_plugInto hown, otherEnd_plugInto]

theorem exists_append_of_lt_countP {α : Type} {p : α → Bool} {l : List α} {k : ℕ}
    (h : k < l.countP p) : ∃ l₁ a l₂, l = l₁ ++ a :: l₂ ∧ p a = true ∧ l₁.countP p = k := by
  have hi := findIdxNth_lt_length_of_lt_countP h
  refine ⟨l.take (l.findIdxNth p k), l[l.findIdxNth p k], l.drop (l.findIdxNth p k + 1), ?_,
    pos_findIdxNth_getElem, ?_⟩
  · rw [getElem_cons_drop, take_append_drop]
  · rw [← countPBefore_eq_countP_take]
    exact countPBefore_findIdxNth_of_lt_countP h

/-- A link that is given nothing comes after as many others that lose their interface as there are
unused ones. -/
theorem lt_countP_of_givenInterface_none (hlinks : project.links.Distinct)
    (hlink : link ∈ project.links) (hown : ownInterface device.id link ≠ -1)
    (hgiven : givenInterface device project.links link = none) :
    (unusedIn device.interfaces).length < project.links.countP (losesInterface device) := by
  obtain ⟨passed, rest, hsplit⟩ := append_of_mem hlink
  unfold givenInterface losingBefore at hgiven
  split_ifs at hgiven with hact
  rw [(takeWhile_passed hlinks hsplit).2, getElem?_eq_none_iff] at hgiven
  have hloses : losesInterface device link = true := by
    rw [Bool.not_eq_true] at hact
    rw [losesInterface, hact, Bool.not_false, Bool.and_true, bne_iff_ne]
    exact hown
  rw [hsplit, countP_append, countP_cons_of_pos hloses]
  omega

/-- With too few unused interfaces some link is given nothing. -/
theorem exists_givenInterface_none (hlinks : project.links.Distinct)
    (h : (unusedIn device.interfaces).length < project.links.countP (losesInterface device)) :
    ∃ link ∈ project.links, ownInterface device.id link ≠ -1 ∧
      givenInterface device project.links link = none := by
  obtain ⟨passed, link, rest, hsplit, hloses, hcount⟩ := exists_append_of_lt_countP h
  rw [losesInterface, Bool.and_eq_true, bne_iff_ne, Bool.not_eq_true'] at hloses
  refine ⟨link, by simp [hsplit], hloses.1, ?_⟩
  rw [givenInterface, hloses.2, if_neg Bool.false_ne_true, losingBefore,
    (takeWhile_passed hlinks hsplit).2, hcount]
  exact getElem?_eq_none le_rfl

/-- The active interfaces of the stored device are those of the profile. -/
theorem SameSockets.forall_active_iff (h : SameSockets device copy) {P : ℤ → Prop} :
    (∀ intf ∈ copy.interfaces, intf.active = true → P intf.interfaceId) ↔
      ∀ intf ∈ device.interfaces, intf.active = true → P intf.interfaceId := by
  have himp : ∀ {x y : Device}, SameSockets x y →
      (∀ intf ∈ y.interfaces, intf.active = true → P intf.interfaceId) →
      ∀ intf ∈ x.interfaces, intf.active = true → P intf.interfaceId := by
    intro x y hsame hall intf hintf hact
    obtain ⟨intf', hintf', hsocket⟩ := hsame.exists_interface hintf
    have hid : intf'.interfaceId = intf.interfaceId := congrArg Prod.fst hsocket
    have hsame' : intf'.active = intf.active := congrArg (fun s => s.2.1) hsocket
    rw [← hid]
    exact hall intf' hintf' (hsame'.trans hact)
  exact ⟨himp h, himp h.symm⟩

theorem CableKept.outcome {x : Link} (hwired : Wired project base device)
    {found : Device × Project} (h : Migrating project base device project.links found)
    (hlink : link ∈ project.links) (hx : x ∈ found.2.links)
    (hkept : CableKept project stored link x) : Outcome project device link x := by
  obtain ⟨other, hother, hout⟩ := h.exists_outcome hx
  obtain rfl := eq_of_link_id hwired.links hother hlink (hout.id.symm.trans hkept.id)
  exact hout

/-- **The cables are kept exactly when no interface is wasted**, after a loop over the links. -/
theorem cablesKept_iff_of_migrating {final : Project} (htable : CableTable services project)
    (hwired : Wired project base device)
    (h : Migrating project base device project.links (stored, final))
    (hlinks : project'.links = final.links) :
    CablesKept project device stored project' ↔ MigrationFits project device := by
  have hid : stored.id = device.id := h.same.id
  have hinUse := h.inUse_iff htable
  constructor
  · intro hkept
    have hcables : ∀ link ∈ project.links, ownInterface device.id link ≠ -1 →
        (∃ x ∈ final.links, CableKept project stored link x ∧ Outcome project device link x) ∨
          CableDeleted project device stored project' link := by
      intro link hlink hown
      have hto := (htable.attachedTo_iff hlink _).2 hown
      rw [← hid] at hto
      refine (hkept.cables link hlink hto).imp_left fun ⟨x, hx, hcable⟩ => ?_
      rw [hlinks] at hx
      exact ⟨x, hx, hcable, hcable.outcome hwired h hlink hx⟩
    refine ⟨?_, fun link hlink hto interfaceId hgiven speed hspeed => ?_⟩
    · refine or_iff_not_imp_left.2 fun hfew => ?_
      obtain ⟨link, hlink, hown, hgiven⟩ :=
        exists_givenInterface_none htable.links (Nat.lt_of_not_le hfew)
      rcases hcables link hlink hown with ⟨x, -, -, hout⟩ | hdeleted
      · cases hout with
        | elsewhere hnone => exact absurd hnone hown
        | moved _ _ _ hgiven' _ =>
          rw [hgiven] at hgiven'
          cases hgiven'
      · rcases hdeleted.reason with hall | ⟨interfaceId, hgiven', -⟩
        · rw [hid, hlinks, h.same.forall_active_iff (P := fun interfaceId =>
            ∃ link' ∈ final.links, link'.hasEndpoint device.id interfaceId = true)] at hall
          exact fun intf hintf hact => (hinUse _).1 (hall intf hintf hact)
        · rw [hgiven] at hgiven'
          cases hgiven'
    · have hown := (htable.attachedTo_iff hlink _).1 hto
      rcases hcables link hlink hown with ⟨x, -, hcable, hout⟩ | hdeleted
      · have hgreatest := hcable.speed
        cases hout with
        | elsewhere hnone => exact absurd hnone hown
        | @moved interfaceId' speed' _ _ _ hgiven' hspeed' =>
          obtain rfl := some.inj (hgiven.symm.trans hgiven')
          obtain rfl := hspeed.unique hspeed'
          have hmoved : ownInterface stored.id (plugInto device.id interfaceId link) =
              interfaceId := by
            rw [hid]
            exact ownInterface_plugInto hown interfaceId
          rw [sharedSpeeds_of_sameSockets h.same] at hgreatest
          have hstored : IsGreatest (sharedSpeeds project device link
              (ownInterface stored.id (plugInto device.id interfaceId link)))
              ((UInt16.ofInt speed).toNat : ℤ) := hgreatest
          rw [hmoved] at hstored
          exact (toNat_ofInt_eq_iff speed).1 (hstored.unique hspeed)
      · obtain ⟨x, hx, hout⟩ :=
          h.links.kept link hlink (.inr ⟨interfaceId, hgiven, speed, hspeed.1⟩)
        rw [← hlinks] at hx
        exact absurd hout.id (hdeleted.gone x hx)
  · intro hfits
    refine ⟨fun link hlink hto => ?_, ?_⟩
    · rw [hid] at hto
      have hown := (htable.attachedTo_iff hlink _).1 hto
      by_cases hsurvives : Survives project device link
      · obtain ⟨x, hx, hout⟩ := h.links.kept link hlink hsurvives
        rw [hlinks]
        exact .inl ⟨x, hx, hout.cableKept h.same hown (hfits.speeds link hlink hto)⟩
      · refine .inr ⟨?_, ?_⟩
        · rw [hlinks]
          exact h.gone hwired hlink hsurvives
        · cases hgiven : givenInterface device project.links link with
          | some interfaceId =>
            refine .inr ⟨interfaceId, rfl, ?_⟩
            rw [sharedSpeeds_of_sameSockets h.same]
            by_contra hshared
            exact hsurvives (.inr ⟨interfaceId, hgiven, Set.nonempty_iff_ne_empty.2 hshared⟩)
          | none =>
            have hmany := lt_countP_of_givenInterface_none htable.links hlink hown hgiven
            refine .inl ?_
            rw [hid, hlinks, h.same.forall_active_iff (P := fun interfaceId =>
              ∃ link' ∈ final.links, link'.hasEndpoint device.id interfaceId = true)]
            intro intf hintf hact
            exact (hinUse _).2 (hfits.room.resolve_left (by omega) intf hintf hact)
    · rw [hlinks]
      refine h.distinct.imp fun {x y} hxy deviceId interfaceId hboth => ?_
      rw [link_beq_iff.2 (.inr ⟨deviceId, interfaceId, hboth⟩)] at hxy
      cases hxy

/-- **`UpdateDevice` keeps the cables of the device where possible exactly when no interface is
wasted.**  For a consistent table of cables and a successful update of a device, with `matched` the
device as its profile makes it: every link of the device is kept, or had to go, and no two links
share an endpoint, if and only if there are as many unused interfaces as links that lose their own,
or no active interface is left without a link in the end; and the speeds fit in 16 bits.  A link
that is deleted for want of a common speed does not give its interface back. -/
theorem cablesKept_iff (htable : CableTable services project) (hid : request.id ≠ -1)
    (hmatch : matchDeviceProfile services (refreshInterfaces project request) = .ok matched)
    (hspeeds : ∀ intf ∈ matched.interfaces, intf.supportSpeeds.Pairwise (· ≤ ·))
    (hupdate : updateDevice services fuel project request = .ok (stored, project')) :
    CablesKept project matched stored project' ↔ MigrationFits project matched := by
  obtain ⟨base, final, -, hwired, hmigrating, hlinks⟩ :=
    exists_migrating htable hid hmatch hspeeds hupdate
  exact cablesKept_iff_of_migrating htable hwired hmigrating hlinks

/-- A switch with three interfaces, of a model that has one now. -/
def shrinkingSwitch : Device :=
  { id := 1, ipAddress := "10.0.0.1", deviceProfileId := 1
    interfaces :=
      [{ deviceId := 1, interfaceId := 1, supportSpeeds := [1000] },
       { deviceId := 1, interfaceId := 2, used := true, supportSpeeds := [100] },
       { deviceId := 1, interfaceId := 3, used := true, supportSpeeds := [1000] }] }

/-- The cables at its last two interfaces. -/
def firstCable : Link :=
  { id := 1, speed := 100, sourceDeviceId := 1, sourceInterfaceId := 2, destinationDeviceId := 2
    destinationInterfaceId := 1 }

def secondCable : Link :=
  { id := 2, sourceDeviceId := 1, sourceInterfaceId := 3, destinationDeviceId := 2
    destinationInterfaceId := 2 }

/-- The switch with its cables to another one, whose first interface supports these speeds. -/
def shrinkingProject (speeds : List ℤ) : Project where
  devices :=
    [shrinkingSwitch,
     { id := 2, ipAddress := "10.0.0.2", deviceProfileId := 1
       interfaces :=
         [{ deviceId := 2, interfaceId := 1, used := true, supportSpeeds := speeds },
          { deviceId := 2, interfaceId := 2, used := true, supportSpeeds := [1000] }] }]
  links := [firstCable, secondCable]
  usedIpAddresses := [0x0A000001, 0x0A000002]

theorem shrinkingProject_table {speeds : List ℤ} (hspeeds : speeds.Pairwise (· ≤ ·)) :
    CableTable oneModel (shrinkingProject speeds) where
  toConsistentLinks := by
    refine consistentLinks_of ?_ ?_ ?_ ?_ ?_
    · unfold QSet.Distinct shrinkingProject shrinkingSwitch
      simp [BEq.beq]
    · simp [shrinkingProject, shrinkingSwitch]
    · unfold QSet.Distinct shrinkingProject firstCable secondCable
      simp [BEq.beq]
    · simp [shrinkingProject, shrinkingSwitch, firstCable, secondCable, Link.hasEndpoint]
    · simp [shrinkingProject, shrinkingSwitch, firstCable, secondCable]
  order := by
    refine ⟨?_, ?_, ?_, ?_, ?_⟩
    · unfold QSet.Distinct shrinkingProject shrinkingSwitch
      simp [BEq.beq]
    · simp [shrinkingProject, shrinkingSwitch, oneModel, twoAddresses]
    · simp [shrinkingProject, shrinkingSwitch]
    · simp [shrinkingProject, shrinkingSwitch, oneModel, twoAddresses, AddressFormat.number]
    · simp [shrinkingProject, shrinkingSwitch, oneModel, twoAddresses, AddressFormat.number,
        QSet.contains]
  numbered := by simp [shrinkingProject, shrinkingSwitch]
  ascending := by simp [shrinkingProject, shrinkingSwitch, hspeeds]

theorem exists_shrunkSwitch {speeds : List ℤ}
    (hspeeds : speeds = [100, 1000] ∨ speeds = [100]) :
    ∃ matched, matchDeviceProfile oneModel (refreshInterfaces (shrinkingProject speeds)
        shrinkingSwitch) = .ok matched ∧ matched.id = 1 ∧
      matched.interfaces = [{ deviceId := 1, interfaceId := 1, interfaceName := "1"
                              supportSpeeds := [1000] }] := by
  have hsome : (matchDeviceProfile oneModel (refreshInterfaces (shrinkingProject speeds)
      shrinkingSwitch)).toOption.map (fun matched => (matched.id, matched.interfaces)) =
        some (1, [{ deviceId := 1, interfaceId := 1, interfaceName := "1"
                    supportSpeeds := [1000] }]) := by
    rcases hspeeds with rfl | rfl <;> decide +kernel
  cases hmatch : matchDeviceProfile oneModel (refreshInterfaces (shrinkingProject speeds)
      shrinkingSwitch) with
  | error status =>
    rw [hmatch] at hsome
    cases hsome
  | ok matched =>
    rw [hmatch] at hsome
    obtain ⟨hid, hinterfaces⟩ := Prod.mk.inj (some.inj hsome)
    exact ⟨matched, rfl, hid, hinterfaces⟩

theorem givenInterface_shrunkSwitch {speeds : List ℤ} (hid : device.id = 1)
    (hinterfaces : device.interfaces = [{ deviceId := 1, interfaceId := 1, interfaceName := "1"
                                          supportSpeeds := [1000] }]) :
    givenInterface device (shrinkingProject speeds).links firstCable = some 1 ∧
      givenInterface device (shrinkingProject speeds).links secondCable = none := by
  simp [shrinkingProject, firstCable, secondCable, givenInterface, losingBefore, ownInterface,
    activeAt, interfaceAt, hid, hinterfaces, unusedIn, losesInterface]

/-- The first cable takes the only interface, and the second one has to go. -/
theorem cablesKept_shrinkingProject : ∃ matched stored project',
    updateDevice oneModel 0 (shrinkingProject [100, 1000]) shrinkingSwitch =
      .ok (stored, project') ∧
    CablesKept (shrinkingProject [100, 1000]) matched stored project' := by
  obtain ⟨matched, hmatch, hid, hinterfaces⟩ := exists_shrunkSwitch (.inl rfl)
  obtain ⟨hfirst, -⟩ := @givenInterface_shrunkSwitch matched [100, 1000] hid hinterfaces
  cases hupd : updateDevice oneModel 0 (shrinkingProject [100, 1000]) shrinkingSwitch with
  | error failure =>
    have hsome : (updateDevice oneModel 0 (shrinkingProject [100, 1000])
      shrinkingSwitch).toOption.isSome = true := by decide +kernel
    rw [hupd] at hsome
    cases hsome
  | ok found =>
    obtain ⟨stored, project'⟩ := found
    refine ⟨matched, stored, project', rfl, (cablesKept_iff (shrinkingProject_table (by decide))
      (by decide) hmatch (by rw [hinterfaces]; decide) hupd).2 ⟨.inr ?_, ?_⟩⟩
    · have hshared : (1000 : ℤ) ∈
          sharedSpeeds (shrinkingProject [100, 1000]) matched firstCable 1 := by
        simp [sharedSpeeds, commonSpeeds, speedsAt, interfaceAt, hinterfaces, neighborOf, otherEnd,
          hid, firstCable, shrinkingProject, shrinkingSwitch, Project.getDeviceById, find,
          BEq.beq]
      rw [hinterfaces]
      intro intf hintf _
      rw [mem_singleton.1 hintf]
      exact ⟨firstCable, mem_cons_self, .inl hid.symm, 1, hfirst, ⟨1000, hshared⟩, .inl rfl⟩
    · intro link _ _ interfaceId _ speed hspeed
      have hmem := hspeed.1.1
      unfold speedsAt interfaceAt at hmem
      rw [hinterfaces, find?_singleton] at hmem
      split_ifs at hmem
      · rw [show speed = 1000 by simpa using hmem]
        decide
      · cases hmem

/-- **An interface is wasted.**  The first cable is given the only interface, and is deleted since
the other end does not support its speed; the second one, which could have had the interface, is
deleted as well. -/
theorem not_cablesKept : ¬∀ (services : DeviceServices) (fuel : ℕ) (project project' : Project)
    (request matched stored : Device), CableTable services project → request.id ≠ -1 →
    matchDeviceProfile services (refreshInterfaces project request) = .ok matched →
    (∀ intf ∈ matched.interfaces, intf.supportSpeeds.Pairwise (· ≤ ·)) →
    updateDevice services fuel project request = .ok (stored, project') →
    CablesKept project matched stored project' := by
  intro hall
  obtain ⟨matched, hmatch, hid, hinterfaces⟩ := exists_shrunkSwitch (.inr rfl)
  obtain ⟨-, hsecond⟩ := @givenInterface_shrunkSwitch matched [100] hid hinterfaces
  have hsome : (updateDevice oneModel 0 (shrinkingProject [100]) shrinkingSwitch).toOption.map
      (fun found => (found.1.id, found.1.interfaces.map fun intf => (intf.interfaceId, intf.active),
        found.2.links.map (·.id))) = some (1, [(1, true)], []) := by
    decide +kernel
  cases hupd : updateDevice oneModel 0 (shrinkingProject [100]) shrinkingSwitch with
  | error failure =>
    rw [hupd] at hsome
    cases hsome
  | ok found =>
    obtain ⟨stored, project'⟩ := found
    rw [hupd] at hsome
    obtain ⟨hstored, hrest⟩ := Prod.mk.inj (some.inj hsome)
    obtain ⟨hports, hlinks⟩ := Prod.mk.inj hrest
    rw [map_eq_nil_iff] at hlinks
    have hkept := hall oneModel 0 _ project' _ matched stored (shrinkingProject_table (by decide))
      (by decide) hmatch (by rw [hinterfaces]; decide) hupd
    have hto : AttachedTo stored.id secondCable := .inl hstored.symm
    rcases hkept.cables secondCable (mem_cons_of_mem _ mem_cons_self) hto with
      ⟨x, hx, -⟩ | ⟨-, hall | ⟨interfaceId, hgiven, -⟩⟩
    · rw [hlinks] at hx
      cases hx
    · -- the interface is there, and no link
      have hport : ((1 : ℤ), true) ∈ stored.interfaces.map fun intf =>
          (intf.interfaceId, intf.active) := by
        rw [hports]
        exact mem_cons_self
      obtain ⟨intf, hintf, hsocket⟩ := mem_map.1 hport
      obtain ⟨x, hx, -⟩ := hall intf hintf (Prod.mk.inj hsocket).2
      rw [hlinks] at hx
      cases hx
    · rw [hsecond] at hgiven
      cases hgiven

end Core
end Sebastian

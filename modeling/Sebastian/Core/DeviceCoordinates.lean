/-
# The books on addresses and coordinates

A project keeps two sets beside its devices: the numbers of their addresses, and the coordinates
they stand on.  `CreateDevice`, `UpdateDevice`, `DeleteDevice`, `DeleteDevices` and
`UpdateDeviceCoordinates` (`core/src/act_core_device.cpp`) keep them by taking out the old entry of
a device and putting in the new one.

Addresses are different, so that taking one out never hurts another device; only a device created
under the id of another one leaves a number without a device.  Coordinates may be shared, and
within one call of `UpdateDeviceCoordinates` a device may go where another one still stands.  What
is taken out there is lost unless it is put back later (`mem_foldl_move`).  The books are right in
every state of a run exactly when every request of it puts back what it takes
(`booksRight_iff_along`); the exchange of two devices does not (`not_booksRight_exchanged`).
-/

import Sebastian.Core.DeviceHistory
import Sebastian.Lib.Run

namespace Sebastian
namespace Core

open ExceptRule List QSet

/-! ### `UpdateDeviceCoordinates` -/

/-- `ActDeviceCoordinate` -/
structure DeviceCoordinate where
  id : ℤ := -1
  coordinate : Coordinate := {}

/-- `operator==(ActDeviceCoordinate)` -/
instance : BEq DeviceCoordinate := ⟨fun x y => x.id == y.id⟩

/-- `UpdateDeviceCoordinates`.  It succeeds also where a device is not found; the pairs after that
one are left out. -/
def updateDeviceCoordinates (project : Project) : List DeviceCoordinate → Project
  | [] => project
  | devCoordinate :: rest =>
    match project.devices.find { id := devCoordinate.id } with
    | none => project
    | some device =>
      updateDeviceCoordinates
        { project with
          devices := (project.devices.remove { id := devCoordinate.id }).insert
            { device with coordinate := devCoordinate.coordinate }
          usedCoordinates := (project.usedCoordinates.remove device.coordinate).insert
            devCoordinate.coordinate } rest

/-! ### The requests -/

/-- A request on the devices of a project.  The pairs are a `QSet`, with one pair for an id. -/
inductive LayoutRequest where
  | createDevice (device : Device) (fromBag : Bool)
  | updateDevice (device : Device)
  | updateDeviceCoordinates (pairs : QSet DeviceCoordinate) (distinct : pairs.Distinct)
  | deleteDevice (deviceId : ℤ)
  | deleteDevices (deviceIds : List ℤ) (toBag : Bool)

/-- The project after the request. -/
def LayoutRequest.exec (services : DeviceServices) (fuel : ℕ) (project : Project) :
    LayoutRequest → Except Failure Project
  | .createDevice device fromBag => (Core.createDevice services project device fromBag).map (·.2)
  | .updateDevice device => (Core.updateDevice services fuel project device).map (·.2)
  | .updateDeviceCoordinates pairs _ => .ok (Core.updateDeviceCoordinates project pairs)
  | .deleteDevice deviceId => Core.deleteDevice services fuel project deviceId
  | .deleteDevices deviceIds toBag => Core.deleteDevices services fuel project deviceIds toBag

/-- **The books are right**: the numbers in use are those of the devices, which are different, and
every device stands on a coordinate in use, so that no new one is placed where another stands. -/
structure BooksRight (services : DeviceServices) (project : Project) : Prop where
  addresses : ∀ number, number ∈ project.usedIpAddresses ↔
    ∃ device ∈ project.devices, services.addresses.number device.ipAddress = number
  numbers : ∀ x ∈ project.devices, ∀ y ∈ project.devices,
    services.addresses.number x.ipAddress = services.addresses.number y.ipAddress → x = y
  coordinates : ∀ device ∈ project.devices, device.coordinate ∈ project.usedCoordinates
  placed : ∀ device fromBag device' project',
    createDevice services project device fromBag = .ok (device', project') →
      ∀ x ∈ project.devices, x.coordinate ≠ device'.coordinate

/-- The devices of a project without links in order, and the books without repetition. -/
structure Layout (services : DeviceServices) (project : Project) : Prop
    extends Plain services project where
  addressesNodup : project.usedIpAddresses.Nodup
  coordinatesNodup : project.usedCoordinates.Nodup

/-! ### What a request must put back -/

/-- The pairs of a call of `UpdateDeviceCoordinates` that are carried out. -/
def knownPairs (project : Project) (pairs : List DeviceCoordinate) : List DeviceCoordinate :=
  pairs.takeWhile fun pair => (project.getDeviceById pair.id).isSome

/-- The coordinate that is taken out for a pair, and the one that is put in. -/
def moves (project : Project) (pairs : List DeviceCoordinate) : List (Coordinate × Coordinate) :=
  (knownPairs project pairs).map fun pair =>
    (((project.getDeviceById pair.id).getD {}).coordinate, pair.coordinate)

/-- Where the device stands after the pairs. -/
def placeAfter (project : Project) (pairs : List DeviceCoordinate) (device : Device) : Coordinate :=
  (((knownPairs project pairs).find? (·.id == device.id)).map (·.coordinate)).getD device.coordinate

/-- What a move takes out is put back by it or by a later one. -/
def PutBack (coordinate : Coordinate) (moves : List (Coordinate × Coordinate)) : Prop :=
  ∀ before move after, moves = before ++ move :: after → move.1 = coordinate →
    ∃ later ∈ move :: after, later.2 = coordinate

/-- **The request keeps the books.**  A device that is created comes with an id of its own or
without one; and a coordinate that is taken out, and on which a device stands afterwards, is put
back. -/
def KeepsBooks (project : Project) : LayoutRequest → Prop
  | .createDevice device _ => device.id = -1 ∨ ∀ x ∈ project.devices, x.id ≠ device.id
  | .updateDevice device => ∀ x ∈ project.devices, x.id ≠ device.id →
      ∀ old ∈ project.devices, old.id = device.id → old.coordinate = x.coordinate →
        device.coordinate = x.coordinate
  | .updateDeviceCoordinates pairs _ => ∀ device ∈ project.devices,
      PutBack (placeAfter project pairs device) (moves project pairs)
  | .deleteDevice deviceId => ∀ x ∈ project.devices, x.id ≠ deviceId →
      ∀ old ∈ project.devices, old.id = deviceId → old.coordinate ≠ x.coordinate
  | .deleteDevices deviceIds _ => ∀ x ∈ project.devices, x.id ∉ deviceIds →
      ∀ old ∈ project.devices, old.id ∈ deviceIds → old.coordinate ≠ x.coordinate

/-! ### Moves in a set -/

/-- One entry goes and another one comes. -/
def moveEntry (used : QSet Coordinate) (move : Coordinate × Coordinate) : QSet Coordinate :=
  (used.remove move.1).insert move.2

variable {services : DeviceServices} {fuel : ℕ} {project project' : Project} {device : Device}
  {used : QSet Coordinate} {coordinate : Coordinate} {deviceId : ℤ}

theorem nodup_moveEntry (h : used.Nodup) (move : Coordinate × Coordinate) :
    (moveEntry used move).Nodup := nodup_insert (nodup_remove h move.1) move.2

theorem mem_moveEntry (h : used.Nodup) {move : Coordinate × Coordinate} :
    coordinate ∈ moveEntry used move ↔
      coordinate ∈ used ∧ coordinate ≠ move.1 ∨ coordinate = move.2 := by
  rw [moveEntry, mem_insert, mem_remove_of_nodup h]

theorem putBack_cons {move : Coordinate × Coordinate} {moves : List (Coordinate × Coordinate)} :
    PutBack coordinate (move :: moves) ↔
      (move.1 = coordinate → ∃ later ∈ move :: moves, later.2 = coordinate) ∧
        PutBack coordinate moves := by
  constructor
  · refine fun h => ⟨h [] move moves rfl, fun before m after hsplit => ?_⟩
    exact h (move :: before) m after (by rw [hsplit, cons_append])
  · rintro ⟨hfirst, hrest⟩ before m after hsplit
    cases before with
    | nil =>
      obtain ⟨rfl, rfl⟩ := cons.inj hsplit
      exact hfirst
    | cons b before =>
      obtain ⟨-, hsplit⟩ := cons.inj hsplit
      exact hrest before m after hsplit

/-- **After several moves** a coordinate is there that was there or was put in, unless it was taken
out after that. -/
theorem mem_foldl_move {moves : List (Coordinate × Coordinate)} (h : used.Nodup) :
    coordinate ∈ moves.foldl moveEntry used ↔
      (coordinate ∈ used ∨ ∃ move ∈ moves, move.2 = coordinate) ∧ PutBack coordinate moves := by
  induction moves generalizing used with
  | nil =>
    have hnone : PutBack coordinate [] := fun before move after hsplit => by simp at hsplit
    simp [hnone]
  | cons move moves ih =>
    rw [foldl_cons, ih (nodup_moveEntry h move), mem_moveEntry h, putBack_cons]
    simp only [mem_cons, exists_eq_or_imp, @eq_comm _ coordinate]
    tauto

/-! ### Devices that are taken out -/

/-- What the project is without the devices of some ids. -/
structure Removed (services : DeviceServices) (project : Project) (deviceIds : List ℤ)
    (rest : Project) : Prop where
  layout : Layout services rest
  devices : ∀ x, x ∈ rest.devices ↔ x ∈ project.devices ∧ x.id ∉ deviceIds
  addresses : ∀ number, number ∈ rest.usedIpAddresses ↔ number ∈ project.usedIpAddresses ∧
    ∀ old ∈ project.devices, old.id ∈ deviceIds →
      services.addresses.number old.ipAddress ≠ number
  coordinates : ∀ coordinate, coordinate ∈ rest.usedCoordinates ↔
    coordinate ∈ project.usedCoordinates ∧
      ∀ old ∈ project.devices, old.id ∈ deviceIds → old.coordinate ≠ coordinate

variable {rest : Project} {deviceIds : List ℤ}

theorem Layout.refl_removed (h : Layout services project) : Removed services project [] project :=
  ⟨h, by simp, by simp, by simp⟩

/-- One more device is taken out, with its number and its coordinate. -/
theorem Removed.step {next : Project} (h : Removed services project deviceIds rest)
    (hfound : rest.getDeviceById deviceId = some device) (hplain : Plain services next)
    (hdevs : next.devices = rest.devices.remove { id := deviceId })
    (haddrs : next.usedIpAddresses =
      rest.usedIpAddresses.remove (services.addresses.number device.ipAddress))
    (hcoords : next.usedCoordinates = rest.usedCoordinates.remove device.coordinate) :
    Removed services project (deviceIds ++ [deviceId]) next := by
  have horder := h.layout.devices
  obtain ⟨hmem, hid⟩ := horder.wellFormed.id_of_find hfound
  have hproj := (h.devices device).1 hmem
  -- of the devices taken out now there is the one
  have hnow : ∀ old ∈ project.devices, old.id = deviceId → old.id ∉ deviceIds → old = device :=
    fun old hold hsame hnot =>
      horder.wellFormed.eq_of_id ((h.devices old).2 ⟨hold, hnot⟩) hmem (hsame.trans hid.symm)
  have hsplit : ∀ P : Device → Prop,
      (∀ old ∈ project.devices, old.id ∈ deviceIds ++ [deviceId] → P old) ↔
        (∀ old ∈ project.devices, old.id ∈ deviceIds → P old) ∧ P device := by
    refine fun P => ⟨fun hall => ⟨fun old hold hin => ?_, ?_⟩, fun ⟨hold, hdev⟩ old hmem' hin =>
      ?_⟩
    · exact hall old hold (mem_append_left _ hin)
    · exact hall device hproj.1 (mem_append_right _ (mem_singleton.2 hid))
    · rcases mem_append.1 hin with hin | hin
      · exact hold old hmem' hin
      · by_cases hbefore : old.id ∈ deviceIds
        · exact hold old hmem' hbefore
        · rwa [hnow old hmem' (mem_singleton.1 hin) hbefore]
  refine ⟨⟨hplain, ?_, ?_⟩, fun x => ?_, fun number => ?_, fun coordinate => ?_⟩
  · rw [haddrs]
    exact nodup_remove h.layout.addressesNodup _
  · rw [hcoords]
    exact nodup_remove h.layout.coordinatesNodup _
  · rw [hdevs, mem_remove_iff horder.distinct device_beq_self hfound, h.devices,
      mem_append, mem_singleton, not_or, ← and_assoc]
    refine and_congr_right fun hx => not_congr ⟨fun he => he ▸ hid, fun hsame => ?_⟩
    exact hnow x hx.1 hsame hx.2
  · rw [haddrs, mem_remove_of_nodup h.layout.addressesNodup, h.addresses, hsplit,
      and_assoc,
      ne_comm]
  · rw [hcoords, mem_remove_of_nodup h.layout.coordinatesNodup, h.coordinates, hsplit,
      and_assoc, ne_comm]

/-- The numbers that are left are those of the devices that are left. -/
theorem Removed.mem_addresses (h : Removed services project deviceIds rest)
    (hbooks : BooksRight services project) (number : UInt32) : number ∈ rest.usedIpAddresses ↔
      ∃ device ∈ rest.devices, services.addresses.number device.ipAddress = number := by
  rw [h.addresses, hbooks.addresses]
  constructor
  · rintro ⟨⟨device, hdev, rfl⟩, hnone⟩
    exact ⟨device, (h.devices device).2 ⟨hdev, fun hin => hnone device hdev hin rfl⟩, rfl⟩
  · rintro ⟨device, hdev, rfl⟩
    obtain ⟨hmem, hnot⟩ := (h.devices device).1 hdev
    refine ⟨⟨device, hmem, rfl⟩, fun old hold hin hsame => hnot ?_⟩
    rwa [← hbooks.numbers old hold device hmem hsame]

/-- What holds of the books of a project in order follows from the numbers and the coordinates. -/
theorem Layout.booksRight_iff (h : Layout services project) : BooksRight services project ↔
    (∀ number, number ∈ project.usedIpAddresses ↔
      ∃ device ∈ project.devices, services.addresses.number device.ipAddress = number) ∧
    ∀ device ∈ project.devices, device.coordinate ∈ project.usedCoordinates := by
  refine ⟨fun hbooks => ⟨hbooks.addresses, hbooks.coordinates⟩, fun ⟨haddrs, hcoords⟩ =>
    ⟨haddrs, h.devices.numbers, hcoords, fun device fromBag device' project' hcreate =>
      ?_⟩⟩
  obtain ⟨stored, skus, hent, -, -⟩ := createDevice_ok h.toBare hcreate
  intro x hx hsame
  have hfree := hent.coordinate
  rw [← hsame, QSet.contains_iff_mem.2 (hcoords x hx)] at hfree
  cases hfree

/-- **Without the devices** the books are right if no coordinate of theirs is in use by another. -/
theorem Removed.booksRight_iff (h : Removed services project deviceIds rest)
    (hbooks : BooksRight services project) : BooksRight services rest ↔
      ∀ x ∈ project.devices, x.id ∉ deviceIds →
        ∀ old ∈ project.devices, old.id ∈ deviceIds → old.coordinate ≠ x.coordinate := by
  rw [h.layout.booksRight_iff, and_iff_right (h.mem_addresses hbooks)]
  constructor
  · intro hcoords x hx hnot
    exact ((h.coordinates x.coordinate).1 (hcoords x ((h.devices x).2 ⟨hx, hnot⟩))).2
  · intro hapart x hx
    obtain ⟨hmem, hnot⟩ := (h.devices x).1 hx
    exact (h.coordinates x.coordinate).2 ⟨hbooks.coordinates x hmem, hapart x hmem hnot⟩

/-- **With a device more** the books are right if every other one still stands on a coordinate in
use, or stands where the new one does. -/
theorem booksRight_append_iff {next : Project} (hlayout : Layout services next)
    (haddrs : ∀ number, number ∈ rest.usedIpAddresses ↔
      ∃ device ∈ rest.devices, services.addresses.number device.ipAddress = number)
    (hdevs : next.devices = rest.devices ++ [device])
    (hused : next.usedIpAddresses =
      rest.usedIpAddresses.insert (services.addresses.number device.ipAddress))
    (hcoords : next.usedCoordinates = rest.usedCoordinates.insert device.coordinate) :
    BooksRight services next ↔
      ∀ x ∈ rest.devices, x.coordinate ∈ rest.usedCoordinates ∨ x.coordinate =
        device.coordinate := by
  rw [hlayout.booksRight_iff, hdevs, hused, hcoords]
  have hnumbers : ∀ number,
      number ∈ rest.usedIpAddresses.insert (services.addresses.number device.ipAddress) ↔
        ∃ x ∈ rest.devices ++ [device], services.addresses.number x.ipAddress = number := by
    intro number
    rw [mem_insert, haddrs]
    simp only [mem_append, mem_singleton, or_and_right, exists_or, exists_eq_left,
      @eq_comm _ number]
  rw [and_iff_right hnumbers]
  simp only [mem_insert, mem_append, mem_singleton]
  exact ⟨fun hall x hx => hall x (.inl hx), fun hall x hx => hx.elim (hall x) fun he => .inr
    (he ▸ rfl)⟩

/-! ### One request -/

theorem Layout.createDevice {fromBag : Bool} {device' : Device} (h : Layout services project)
    (hbooks : BooksRight services project)
    (hcreate : createDevice services project device fromBag = .ok (device', project')) :
    Layout services project' ∧ (BooksRight services project' ↔
      device.id = -1 ∨ ∀ x ∈ project.devices, x.id ≠ device.id) := by
  have hplain : Plain services project' := by
    refine @Plain.exec services 0 _ _ h.toPlain (.createDevice device fromBag) ?_
    rw [DeviceRequest.exec, hcreate]
    rfl
  obtain ⟨stored, skus, hent, -, rfl⟩ := createDevice_ok h.toBare hcreate
  have hcases := (hent.stored h.devices).2
  obtain ⟨hplaced, -, -, counter, vlanTables, rstpTables, rfl⟩ := hent
  have hlayout : Layout services _ := ⟨hplain, nodup_insert h.addressesNodup _,
    nodup_insert h.coordinatesNodup _⟩
  refine ⟨hlayout, ?_⟩
  rcases hcases with ⟨hown, hdevs⟩ | ⟨⟨x, hx, hid⟩, hdevs⟩
  · rw [booksRight_append_iff hlayout hbooks.addresses hdevs rfl rfl]
    refine iff_of_true (fun x hx => .inl (hbooks.coordinates x hx)) ?_
    by_cases hid : device.id = -1
    · exact .inl hid
    · exact .inr fun x hx => by rw [← hplaced.id_of_ne hid]; exact hown x hx
  · -- the number of the device is in use, and it was not before
    refine iff_of_false (fun hright => ?_) ?_
    · obtain ⟨y, hy, hnumber⟩ :=
        (hright.addresses (services.addresses.number device'.ipAddress)).1
          (mem_insert.2 (.inr rfl))
      rw [hdevs] at hy
      have hused := QSet.contains_iff_mem.2
        ((hbooks.addresses _).2 ⟨y, hy, hnumber⟩)
      rw [hplaced.unused] at hused
      cases hused
    · rintro (hnone | hown)
      · exact (find_device_eq_none h.devices.wellFormed.address).1
          (hplaced.id_of_eq hnone).1 x hx hid
      · refine hown x hx (hid.trans (hplaced.id_of_ne fun hnone => ?_))
        exact (find_device_eq_none h.devices.wellFormed.address).1
          (hplaced.id_of_eq hnone).1 x hx hid

theorem Layout.takeDevice (h : Layout services project) (deviceId : ℤ) :
    Removed services project [deviceId] (takeDevice services project deviceId).2 := by
  have hbare := @bare_takeDevice services _ h.toBare deviceId
  obtain ⟨horder, hids, hcases⟩ := takeDevice_spec h.devices deviceId
  unfold Core.takeDevice at hbare horder hids hcases ⊢
  cases hfound : project.getDeviceById deviceId with
  | none =>
    rw [hfound] at hids
    have hnone : ∀ old ∈ project.devices, old.id ∉ [deviceId] := by simpa using hids
    refine ⟨h, fun x => ?_, fun number => ?_, fun coordinate => ?_⟩
    · exact (and_iff_left_of_imp (hnone x)).symm
    · exact (and_iff_left fun old hold hin => absurd hin (hnone old hold)).symm
    · exact (and_iff_left fun old hold hin => absurd hin (hnone old hold)).symm
  | some deleted =>
    rw [hfound] at hbare horder
    exact h.refl_removed.step hfound ⟨hbare, horder⟩ rfl rfl rfl

theorem Layout.updateDevice {device' : Device} (h : Layout services project)
    (hbooks : BooksRight services project)
    (hupd : updateDevice services fuel project device = .ok (device', project')) :
    Layout services project' ∧ (BooksRight services project' ↔
      KeepsBooks project (.updateDevice device)) := by
  have hplain : Plain services project' := by
    refine @Plain.exec services fuel _ _ h.toPlain (.updateDevice device) ?_
    rw [DeviceRequest.exec, hupd]
    rfl
  have hrest := h.takeDevice device.id
  obtain ⟨stored, skus, hrepl, -, rfl⟩ := updateDevice_ok h.toBare hupd
  have hdevs := (hrepl.stored hrest.layout.devices fun x hx => by
    simpa using ((hrest.devices x).1 hx).2).2.2
  obtain ⟨-, hcoord, -, counter, vlanTables, rstpTables, rfl⟩ := hrepl
  have hlayout : Layout services _ := ⟨hplain, nodup_insert hrest.layout.addressesNodup _,
    nodup_insert hrest.layout.coordinatesNodup _⟩
  refine ⟨hlayout, ?_⟩
  rw [booksRight_append_iff hlayout (hrest.mem_addresses hbooks) hdevs rfl rfl, hcoord]
  refine ⟨fun hall x hx hne old hold hid hsame => ?_, fun hkeeps x hx => ?_⟩
  · rcases hall x ((hrest.devices x).2 ⟨hx, by simpa using hne⟩) with hin | hback
    · exact absurd hsame (((hrest.coordinates _).1 hin).2 old hold (mem_singleton.2 hid))
    · exact hback.symm
  · obtain ⟨hmem, hnot⟩ := (hrest.devices x).1 hx
    rw [mem_singleton] at hnot
    by_cases hback : device.coordinate = x.coordinate
    · exact .inr hback.symm
    · refine .inl ((hrest.coordinates _).2 ⟨hbooks.coordinates x hmem, fun old hold hid hsame =>
        ?_⟩)
      exact hback (hkeeps x hmem hnot old hold (mem_singleton.1 hid) hsame)

theorem Layout.deleteDevice (h : Layout services project)
    (hdel : deleteDevice services fuel project deviceId = .ok project') :
    Removed services project [deviceId] project' := by
  have hplain : Plain services project' :=
    @Plain.exec services fuel _ _ h.toPlain (.deleteDevice deviceId) hdel
  obtain ⟨device, skus, hfound, -, rfl⟩ := deleteDevice_ok h.toBare hdel
  exact h.refl_removed.step hfound hplain (h.devices.remove_eq hfound) rfl rfl

theorem Removed.deleteDevicesStep {toBag : Bool} {next : Project}
    (h : Removed services project deviceIds rest)
    (hstep : deleteDevicesStep services toBag rest deviceId = .ok next) :
    Removed services project (deviceIds ++ [deviceId]) next := by
  have hplain := h.layout.toPlain.deleteDevicesStep hstep
  obtain ⟨device, skus, hfound, -, rfl⟩ := deleteDevicesStep_ok hstep
  exact h.step hfound hplain (h.layout.devices.remove_eq hfound) rfl rfl

theorem Layout.deleteDevices {toBag : Bool} (h : Layout services project)
    (hdel : deleteDevices services fuel project deviceIds toBag = .ok project') :
    Removed services project deviceIds project' := by
  obtain ⟨-, rest, hloop, rfl⟩ := (deleteDevices_eq_ok h.toBare).1 hdel
  have hrest : Removed services project deviceIds rest := by
    refine foldlM_rule_passed (I := Removed services project) hloop h.refl_removed ?_
    exact fun passed deviceId _ rest next _ hremd hstep => hremd.deleteDevicesStep hstep
  obtain ⟨vlanTables, rstpTables, htables⟩ := foldl_deleteDeviceDeviceConfig deviceIds rest
  rw [htables]
  obtain ⟨⟨⟨hbare, horder⟩, haddrs, hcoords⟩, h1, h2, h3⟩ := hrest
  exact ⟨⟨⟨⟨hbare.1, hbare.2, hbare.3, hbare.4⟩, horder⟩, haddrs, hcoords⟩, h1, h2, h3⟩

/-! ### `UpdateDeviceCoordinates`, pair by pair -/

/-- The project after one pair. -/
def movePair (project : Project) (device : Device) (pair : DeviceCoordinate) : Project :=
  { project with
    devices := (project.devices.remove { id := pair.id }).insert
      { device with coordinate := pair.coordinate }
    usedCoordinates := (project.usedCoordinates.remove device.coordinate).insert pair.coordinate }

theorem Layout.movePair {pair : DeviceCoordinate} (h : Layout services project)
    (hfound : project.getDeviceById pair.id = some device) :
    Layout services (movePair project device pair) ∧
      ∀ x, x ∈ (movePair project device pair).devices ↔
        x ∈ project.devices ∧ x.id ≠ pair.id ∨ x =
          { device with coordinate := pair.coordinate } := by
  obtain ⟨l₁, l₂, hsplit, hrem, hid, hin, hids, hnumbers⟩ := h.devices.remove hfound
  have hdev : device ∈ project.devices := (h.devices.wellFormed.id_of_find hfound).1
  obtain ⟨hins,
    horder⟩ := @DevicesInOrder.append _ _ _ { device with coordinate := pair.coordinate }
    hin (h.devices.valid device hdev) (h.devices.id_ne device hdev) hids hnumbers
    (h.devices.used device hdev)
  have hdevs : (Core.movePair project device pair).devices =
      l₁ ++ l₂ ++ [{ device with coordinate := pair.coordinate }] := by
    rw [← hins, ← hrem]
    rfl
  refine ⟨⟨⟨⟨h.links, h.rstpGroups, h.vlanGroups, h.managementInterfaces⟩, ?_⟩, h.addressesNodup,
    nodup_moveEntry h.coordinatesNodup (device.coordinate, pair.coordinate)⟩, fun x => ?_⟩
  · rw [hdevs]
    exact horder
  · rw [hdevs, mem_append, mem_singleton, ← hrem,
      mem_remove_iff h.devices.distinct device_beq_self hfound]
    refine or_congr_left (and_congr_right fun hx => not_congr ⟨fun he => he ▸ hid, fun hsame => ?_⟩)
    exact h.devices.wellFormed.eq_of_id hx hdev (hsame.trans hid.symm)

theorem getDeviceById_movePair {pair : DeviceCoordinate} (h : Layout services project)
    (hfound : project.getDeviceById pair.id = some device) {id : ℤ} (hne : id ≠ pair.id) :
    (movePair project device pair).getDeviceById id = project.getDeviceById id := by
  obtain ⟨hlayout, hdevs⟩ := h.movePair hfound
  have hid := (h.devices.wellFormed.id_of_find hfound).2
  refine Option.ext fun x => ⟨fun hx => ?_, fun hx => ?_⟩
  · obtain ⟨hmem, hxid⟩ := hlayout.devices.wellFormed.id_of_find hx
    rcases (hdevs x).1 hmem with ⟨hmem, -⟩ | rfl
    · exact h.devices.wellFormed.getDeviceById hmem hxid
    · exact absurd (hxid.symm.trans hid) hne
  · obtain ⟨hmem, hxid⟩ := h.devices.wellFormed.id_of_find hx
    exact hlayout.devices.wellFormed.getDeviceById
      ((hdevs x).2 (.inl ⟨hmem, hxid ▸ hne⟩)) hxid

theorem takeWhile_congr_mem {α : Type} {p q : α → Bool} {l : List α} (h : ∀ a ∈ l, p a = q a) :
    l.takeWhile p = l.takeWhile q := by
  induction l with
  | nil => rfl
  | cons a l ih =>
    rw [takeWhile_cons, takeWhile_cons, h a mem_cons_self,
      ih fun b hb => h b (mem_cons_of_mem _ hb)]

/-- What the pairs lead to: each device stands where they put it, and the coordinates are moved one
after the other. -/
structure Rearranged (services : DeviceServices) (project : Project)
    (pairs : List DeviceCoordinate) (project' : Project) : Prop where
  layout : Layout services project'
  devices : ∀ x, x ∈ project'.devices ↔
    ∃ device ∈ project.devices, x = { device with coordinate := placeAfter project pairs device }
  addresses : project'.usedIpAddresses = project.usedIpAddresses
  coordinates : project'.usedCoordinates =
    (moves project pairs).foldl moveEntry project.usedCoordinates

theorem Layout.updateDeviceCoordinates {pairs : List DeviceCoordinate}
    (h : Layout services project) (hdist : QSet.Distinct pairs) :
    Rearranged services project pairs (updateDeviceCoordinates project pairs) := by
  induction pairs generalizing project with
  | nil => exact ⟨h, fun x => ⟨fun hx => ⟨x, hx, rfl⟩, fun ⟨x, hx, he⟩ => he ▸ hx⟩, rfl, rfl⟩
  | cons pair rest ih =>
    obtain ⟨hfirst, hrest⟩ := pairwise_cons.1 hdist
    rw [Core.updateDeviceCoordinates]
    cases hfound : project.devices.find { id := pair.id } with
    | none =>
      have hknown : knownPairs project (pair :: rest) = [] := by
        rw [knownPairs, takeWhile_cons, if_neg]
        rw [show project.getDeviceById pair.id = none from hfound]
        exact Bool.false_ne_true
      refine ⟨h, fun x => ?_, rfl, by rw [moves, hknown]; rfl⟩
      simp only [placeAfter, hknown]
      exact ⟨fun hx => ⟨x, hx, rfl⟩, fun ⟨x, hx, he⟩ => he ▸ hx⟩
    | some device =>
      replace hfound : project.getDeviceById pair.id = some device := hfound
      have hne : ∀ q ∈ rest, q.id ≠ pair.id := by
        intro q hq hsame
        have hapart := hfirst q hq
        rw [show (pair == q) = (pair.id == q.id) from rfl, beq_eq_false_iff_ne] at hapart
        exact hapart hsame.symm
      obtain ⟨hmoved, hmem⟩ := h.movePair hfound
      obtain ⟨hlayout, hdevs, haddrs, hcoords⟩ := ih hmoved hrest
      have hsame : ∀ q ∈ rest, (Core.movePair project device pair).getDeviceById q.id =
          project.getDeviceById q.id := fun q hq => getDeviceById_movePair h hfound (hne q hq)
      have hknownRest : knownPairs (Core.movePair project device pair) rest =
        knownPairs project rest :=
        takeWhile_congr_mem fun q hq => by rw [hsame q hq]
      have hknown : knownPairs project (pair :: rest) = pair :: knownPairs project rest := by
        rw [knownPairs, takeWhile_cons, if_pos (by rw [hfound]; rfl)]
        rfl
      have hmoves : moves project (pair :: rest) =
          (device.coordinate, pair.coordinate) :: moves
            (Core.movePair project device pair) rest := by
        rw [moves, moves, hknown, hknownRest, map_cons, hfound]
        refine congrArg _ (map_congr_left fun q hq => ?_)
        rw [hsame q ((takeWhile_sublist _).mem hq)]
      refine ⟨hlayout, fun x => ?_, haddrs, by rw [hmoves]; exact hcoords⟩
      have hid := (h.devices.wellFormed.id_of_find hfound).2
      have hmovedDevice : placeAfter (Core.movePair project device pair) rest
          { device with coordinate := pair.coordinate } = pair.coordinate := by
        have hnone : (knownPairs project rest).find? (·.id == device.id) = none := by
          refine find?_eq_none.2 fun q hq hsame => ?_
          exact hne q ((takeWhile_sublist _).mem hq) ((beq_iff_eq.1 hsame).trans hid)
        rw [placeAfter, hknownRest, hnone]
        rfl
      have hpair : placeAfter project (pair :: rest) device = pair.coordinate := by
        rw [placeAfter, hknown, find?_cons_of_pos (by rw [hid]; exact beq_self_eq_true _)]
        rfl
      have hother : ∀ d : Device, d.id ≠ pair.id →
          placeAfter (Core.movePair project device pair) rest d =
            placeAfter project (pair :: rest) d := by
        intro d hd
        rw [placeAfter, placeAfter, hknown, hknownRest,
          find?_cons_of_neg (by rw [beq_iff_eq]; exact fun he => hd he.symm)]
      refine (hdevs x).trans ?_
      constructor
      · rintro ⟨d, hd, rfl⟩
        rcases (hmem d).1 hd with ⟨hd, hdid⟩ | rfl
        · exact ⟨d, hd, by rw [hother d hdid]⟩
        · refine ⟨device, (h.devices.wellFormed.id_of_find hfound).1, ?_⟩
          rw [hmovedDevice, hpair]
      · rintro ⟨d, hd, rfl⟩
        by_cases hdid : d.id = pair.id
        · obtain rfl := h.devices.wellFormed.eq_of_id hd
            (h.devices.wellFormed.id_of_find hfound).1 (hdid.trans hid.symm)
          exact ⟨_, (hmem _).2 (.inr rfl), by rw [hmovedDevice, hpair]⟩
        · exact ⟨d, (hmem d).2 (.inl ⟨hd, hdid⟩), by rw [hother d hdid]⟩

/-- **After the pairs** the books are right if everything that a device stands on is put back. -/
theorem Rearranged.booksRight_iff {pairs : List DeviceCoordinate}
    (h : Rearranged services project pairs project') (hproj : Layout services project)
    (hbooks : BooksRight services project) : BooksRight services project' ↔
      ∀ device ∈ project.devices, PutBack (placeAfter project pairs device)
        (moves project pairs) := by
  have haddrs : ∀ number, number ∈ project'.usedIpAddresses ↔
      ∃ device ∈ project'.devices, services.addresses.number device.ipAddress = number := by
    intro number
    rw [h.addresses, hbooks.addresses]
    constructor
    · rintro ⟨device, hdev, rfl⟩
      exact ⟨_, (h.devices _).2 ⟨device, hdev, rfl⟩, rfl⟩
    · rintro ⟨x, hx, rfl⟩
      obtain ⟨device, hdev, rfl⟩ := (h.devices x).1 hx
      exact ⟨device, hdev, rfl⟩
  -- where a device stands was in use, or is put in
  have hplace : ∀ device ∈ project.devices,
    placeAfter project pairs device ∈ project.usedCoordinates ∨
      ∃ move ∈ moves project pairs, move.2 = placeAfter project pairs device := by
    intro device hdev
    rw [placeAfter]
    cases hfind : (knownPairs project pairs).find? (·.id == device.id) with
    | none => exact .inl (hbooks.coordinates device hdev)
    | some pair =>
      exact .inr ⟨_, mem_map_of_mem (mem_of_find?_eq_some hfind), rfl⟩
  rw [h.layout.booksRight_iff, and_iff_right haddrs, h.coordinates]
  constructor
  · intro hall device hdev
    exact ((mem_foldl_move hproj.coordinatesNodup).1
      (hall _ ((h.devices _).2 ⟨device, hdev, rfl⟩))).2
  · intro hall x hx
    obtain ⟨device, hdev, rfl⟩ := (h.devices x).1 hx
    exact (mem_foldl_move hproj.coordinatesNodup).2 ⟨hplace device hdev, hall device hdev⟩

/-! ### Runs -/

/-- **One request:** it leaves the books right exactly when it keeps them. -/
theorem Layout.exec (h : Layout services project) (hbooks : BooksRight services project)
    {request : LayoutRequest} (hexec : request.exec services fuel project = .ok project') :
    Layout services project' ∧ (BooksRight services project' ↔ KeepsBooks project request) := by
  cases request with
  | createDevice device fromBag =>
    obtain ⟨⟨device', _⟩, hcreate, rfl⟩ := exists_of_map hexec
    exact h.createDevice hbooks hcreate
  | updateDevice device =>
    obtain ⟨⟨device', _⟩, hupd, rfl⟩ := exists_of_map hexec
    exact h.updateDevice hbooks hupd
  | updateDeviceCoordinates pairs hdist =>
    cases hexec
    have hmoved := h.updateDeviceCoordinates hdist
    exact ⟨hmoved.layout, hmoved.booksRight_iff h hbooks⟩
  | deleteDevice deviceId =>
    have hremd := h.deleteDevice hexec
    refine ⟨hremd.layout, (hremd.booksRight_iff hbooks).trans ?_⟩
    simp only [KeepsBooks, mem_singleton, ne_eq]
  | deleteDevices deviceIds toBag =>
    have hremd := h.deleteDevices hexec
    exact ⟨hremd.layout, hremd.booksRight_iff hbooks⟩

/-- The next state of a project. -/
def LayoutStep (services : DeviceServices) (fuel : ℕ) (project : Project) (request : LayoutRequest)
    (project' : Project) : Prop := request.exec services fuel project = .ok project'

/-- **The books are right in every state of a run** from a new project exactly when every request of
the run keeps them. -/
theorem booksRight_iff_along {start : Project} {run : List (LayoutRequest × Project)}
    (hstart : NewProject start) (hnone : start.usedCoordinates = [])
    (hrun : Along (LayoutStep services fuel) start run) :
    (∀ project ∈ statesOfRun start run, BooksRight services project) ↔
      Along (fun project request _ => KeepsBooks project request) start run := by
  have hlayout : Layout services start := by
    refine ⟨hstart.plain services, ?_, ?_⟩
    · rw [hstart.usedIpAddresses]
      exact nodup_nil
    · rw [hnone]
      exact nodup_nil
  have hbooks : BooksRight services start := by
    rw [hlayout.booksRight_iff, hstart.devices, hstart.usedIpAddresses]
    exact ⟨fun number => by simp, fun device hdev => absurd hdev not_mem_nil⟩
  refine hrun.iff_along (I := fun project => Layout services project ∧ BooksRight services project)
    ⟨hlayout, hbooks⟩ (fun _ h => h.2) ?_ ?_
  · intro project request project' hstep ⟨h, hright⟩ hkeeps
    obtain ⟨hnext, hiff⟩ := h.exec hright hstep
    exact ⟨hnext, hiff.2 hkeeps⟩
  · intro project request project' hstep ⟨h, hright⟩ hright'
    exact (h.exec hright hstep).2.1 hright'

/-- The run of a list of requests, if all of them succeed. -/
def layoutRun (services : DeviceServices) (fuel : ℕ) :
    Project → List LayoutRequest → Option (List (LayoutRequest × Project))
  | _, [] => some []
  | project, request :: requests =>
    match request.exec services fuel project with
    | .ok project' => (layoutRun services fuel project' requests).map ((request, project') :: ·)
    | .error _ => none

theorem along_of_layoutRun {requests : List LayoutRequest} {run : List (LayoutRequest × Project)}
    (h : layoutRun services fuel project requests = some run) :
    Along (LayoutStep services fuel) project run ∧ run.map (·.1) = requests := by
  induction requests generalizing project run with
  | nil =>
    cases h
    exact ⟨trivial, rfl⟩
  | cons request requests ih =>
    rw [layoutRun] at h
    cases hexec : request.exec services fuel project with
    | error e => rw [hexec] at h; cases h
    | ok project' =>
      rw [hexec] at h
      obtain ⟨rest, hrest, rfl⟩ := Option.map_eq_some_iff.1 h
      obtain ⟨halong, hmap⟩ := ih hrest
      exact ⟨⟨hexec, halong⟩, by rw [map_cons, hmap]⟩

def sampleSwitch (ipAddress : String) : LayoutRequest :=
  .createDevice { ipAddress := ipAddress, deviceProfileId := 1 } false

/-- Two switches, both asked for at one coordinate. -/
theorem booksRight_twoSwitches : ∃ run,
    layoutRun oneModel 0 {} [sampleSwitch "10.0.0.1", sampleSwitch "10.0.0.2"] = some run ∧
      ∀ project ∈ statesOfRun {} run, BooksRight oneModel project := by
  have hsome : (layoutRun oneModel 0 {}
      [sampleSwitch "10.0.0.1", sampleSwitch "10.0.0.2"]).isSome = true := by decide +kernel
  obtain ⟨run, hrun⟩ := Option.isSome_iff_exists.1 hsome
  obtain ⟨halong, hreqs⟩ := along_of_layoutRun hrun
  refine ⟨run, hrun, (booksRight_iff_along newProject_default rfl halong).2 ?_⟩
  -- both come without an id
  have hkeeps : ∀ (run : List (LayoutRequest × Project)) (project : Project),
      (∀ request ∈ run.map (·.1), ∀ project, KeepsBooks project request) →
        Along (fun project request _ => KeepsBooks project request) project run := by
    intro run
    induction run with
    | nil => exact fun _ _ => trivial
    | cons step run ih =>
      intro project hall
      rw [map_cons] at hall
      exact ⟨hall step.1 mem_cons_self project,
        ih step.2 fun request hmem => hall request (mem_cons_of_mem _ hmem)⟩
  refine hkeeps run {} fun request hmem project => ?_
  rw [hreqs] at hmem
  simp only [mem_cons, not_mem_nil, or_false] at hmem
  rcases hmem with rfl | rfl <;> exact .inl rfl

/-- The two switches change places. -/
def exchange : LayoutRequest :=
  .updateDeviceCoordinates
    [{ id := 50001, coordinate := { x := 704, y := 404 } },
      { id := 50002, coordinate := { x := 404, y := 404 } }] (by simp [QSet.Distinct, BEq.beq])

/-- **An exchange loses a coordinate**: a device stands on it, and it is not in use. -/
theorem not_booksRight_exchanged : ∃ run,
    Along (LayoutStep oneModel 0) {} run ∧
      run.map (·.1) = [sampleSwitch "10.0.0.1", sampleSwitch "10.0.0.2", exchange] ∧
      ∃ project ∈ statesOfRun {} run, ¬BooksRight oneModel project := by
  have hlast : (layoutRun oneModel 0 {}
      [sampleSwitch "10.0.0.1", sampleSwitch "10.0.0.2", exchange]).map (fun run =>
        (statesOfRun {} run).all fun project =>
          project.devices.all fun device => project.usedCoordinates.contains device.coordinate) =
      some false := by decide +kernel
  obtain ⟨run, hrun, hstates⟩ := Option.map_eq_some_iff.1 hlast
  obtain ⟨halong, hreqs⟩ := along_of_layoutRun hrun
  refine ⟨run, halong, hreqs, ?_⟩
  by_contra hnone
  push Not at hnone
  have hall : ((statesOfRun {} run).all fun project =>
      project.devices.all fun device => project.usedCoordinates.contains device.coordinate) =
        true :=
    all_eq_true.2 fun project hproj => all_eq_true.2 fun device hdev =>
      QSet.contains_iff_mem.2 ((hnone project hproj).coordinates device hdev)
  rw [hall] at hstates
  cases hstates

end Core
end Sebastian

/-
# The network as a graph

Devices and links as the searches of the program walk them: from a device through
one of its interfaces and the link there to the device at the other end.

With a consistent link table (`ConsistentLinks`) the link at an interface is the
only one (`getLinkByInterfaceId_eq_some`), its other end is a stored device
(`ConsistentLinks.exists_device`), and whoever is joined to a device by a link is
seen behind one of its interfaces (`ConsistentLinks.exists_interface`).
-/

import Sebastian.Core.Link

namespace Sebastian
namespace Core

/-- **A consistent link table**: the devices and links are sets as the program keeps
them, every flag `used` is exact, and every link ends at an interface of a
device. -/
structure ConsistentLinks (project : Project) : Prop extends LinkTable ∅ project where
  ends : ∀ link ∈ project.links, ∀ deviceId interfaceId,
    link.hasEndpoint deviceId interfaceId = true →
      ∃ device ∈ project.devices, device.id = deviceId ∧
        ∃ interface ∈ device.interfaces, interface.interfaceId = interfaceId

theorem consistentLinks_of {project : Project} (hdevs : project.devices.Distinct)
    (haddr : ∀ device ∈ project.devices, device.ipAddress ≠ "") (hlinks : project.links.Distinct)
    (hused : ∀ device ∈ project.devices, ∀ interface ∈ device.interfaces,
      (interface.used = true ↔
        ∃ link ∈ project.links, link.hasEndpoint device.id interface.interfaceId = true))
    (hends : ∀ link ∈ project.links,
      (∃ device ∈ project.devices, device.id = link.sourceDeviceId ∧
        ∃ interface ∈ device.interfaces, interface.interfaceId = link.sourceInterfaceId) ∧
      ∃ device ∈ project.devices, device.id = link.destinationDeviceId ∧
        ∃ interface ∈ device.interfaces, interface.interfaceId = link.destinationInterfaceId) :
    ConsistentLinks project where
  devices := ⟨hdevs, haddr⟩
  links := hlinks
  used device hdev interface hintf _ := hused device hdev interface hintf
  ends link hlink deviceId interfaceId hend := by
    simp only [Link.hasEndpoint, Bool.or_eq_true, Bool.and_eq_true, beq_iff_eq] at hend
    rcases hend with ⟨rfl, rfl⟩ | ⟨rfl, rfl⟩
    · exact (hends link hlink).1
    · exact (hends link hlink).2

/-- A link joins the two devices. -/
def Joined (project : Project) (a b : ℤ) : Prop :=
  ∃ link ∈ project.links, (link.sourceDeviceId = a ∧ link.destinationDeviceId = b) ∨
    (link.sourceDeviceId = b ∧ link.destinationDeviceId = a)

variable {project : Project} {device : Device} {link : Link}

theorem Joined.symm {a b : ℤ} (h : Joined project a b) : Joined project b a := by
  obtain ⟨link, hmem, hends⟩ := h
  exact ⟨link, hmem, hends.symm⟩

/-- The link at an interface is the only one there. -/
theorem getLinkByInterfaceId_eq_some (h : LinkTable ∅ project) {deviceId interfaceId : ℤ} :
    project.getLinkByInterfaceId deviceId interfaceId = some link ↔
      link ∈ project.links ∧ link.hasEndpoint deviceId interfaceId = true := by
  unfold Project.getLinkByInterfaceId
  constructor
  · intro hfind
    exact ⟨List.mem_of_find?_eq_some hfind, by simpa using List.find?_some hfind⟩
  · rintro ⟨hmem, hend⟩
    cases hfind : List.find? (·.hasEndpoint deviceId interfaceId) project.links with
    | none =>
      have hnone := List.find?_eq_none.1 hfind link hmem
      exact absurd hend hnone
    | some other =>
      have hother : other.hasEndpoint deviceId interfaceId = true := by
        simpa using List.find?_some hfind
      rw [h.links.eq_of_beq link_beq_comm (List.mem_of_find?_eq_some hfind) hmem
        (link_beq_iff.2 (.inr ⟨_, _, hother, hend⟩))]

/-- A link that ends here joins this device and its neighbor. -/
theorem joined_neighborId {deviceId interfaceId : ℤ} (hmem : link ∈ project.links)
    (hend : link.hasEndpoint deviceId interfaceId = true) :
    Joined project deviceId (link.neighborId deviceId) := by
  refine ⟨link, hmem, ?_⟩
  unfold Link.neighborId
  simp only [Link.hasEndpoint, Bool.or_eq_true, Bool.and_eq_true, beq_iff_eq] at hend
  split_ifs with hsrc
  · exact .inl ⟨hsrc, rfl⟩
  · rcases hend with ⟨h, -⟩ | ⟨h, -⟩
    · exact absurd h hsrc
    · exact .inr ⟨rfl, h⟩

/-- Whoever is joined to a device is its neighbor behind one of its interfaces. -/
theorem ConsistentLinks.exists_interface (h : ConsistentLinks project)
    (hdev : device ∈ project.devices) {b : ℤ} (hjoined : Joined project device.id b) :
    ∃ interface ∈ device.interfaces, ∃ link ∈ project.links,
      link.hasEndpoint device.id interface.interfaceId = true ∧ link.neighborId device.id = b := by
  obtain ⟨link, hmem, hends⟩ := hjoined
  have hfound : ∀ interfaceId, link.hasEndpoint device.id interfaceId = true →
      ∃ interface ∈ device.interfaces, interface.interfaceId = interfaceId := by
    intro interfaceId hend
    obtain ⟨other, hother, hid, hintf⟩ := h.ends link hmem _ _ hend
    rwa [h.devices.eq_of_id hother hdev hid] at hintf
  rcases hends with ⟨hsrc, hdest⟩ | ⟨hsrc, hdest⟩
  · have hend : link.hasEndpoint device.id link.sourceInterfaceId = true := by
      simp [Link.hasEndpoint, hsrc]
    obtain ⟨interface, hintf, hid⟩ := hfound _ hend
    exact ⟨interface, hintf, link, hmem, by rw [hid]; exact hend,
      by rw [Link.neighborId, if_pos hsrc, hdest]⟩
  · have hend : link.hasEndpoint device.id link.destinationInterfaceId = true := by
      simp [Link.hasEndpoint, hdest]
    obtain ⟨interface, hintf, hid⟩ := hfound _ hend
    refine ⟨interface, hintf, link, hmem, by rw [hid]; exact hend, ?_⟩
    unfold Link.neighborId
    split_ifs with hself
    · rw [hdest, ← hself, hsrc]
    · exact hsrc

theorem ConsistentLinks.exists_device (h : ConsistentLinks project) {a b : ℤ}
    (hjoined : Joined project a b) :
    ∃ device ∈ project.devices, device.id = b ∧ project.getDeviceById b = some device := by
  obtain ⟨link, hmem, hends⟩ := hjoined
  obtain ⟨device, hdev, hid⟩ : ∃ device ∈ project.devices, device.id = b := by
    rcases hends with ⟨-, hdest⟩ | ⟨hsrc, -⟩
    · obtain ⟨device, hdev, hid, -⟩ := h.ends link hmem b link.destinationInterfaceId
        (by simp [Link.hasEndpoint, hdest])
      exact ⟨device, hdev, hid⟩
    · obtain ⟨device, hdev, hid, -⟩ := h.ends link hmem b link.sourceInterfaceId
        (by simp [Link.hasEndpoint, hsrc])
      exact ⟨device, hdev, hid⟩
  exact ⟨device, hdev, hid, h.devices.getDeviceById hdev hid⟩

end Core
end Sebastian

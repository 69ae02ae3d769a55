/-
# Does the turbo ring depend on the order?

`ComputeRedundantSwift` (`core/src/act_core_redundant_swift.cpp`) goes over the
interfaces of a device and over a `QSet` of neighbors, and its result ought to be the
same in whatever order it does (`SwiftOrderFree`).  It is where the waves of the walk
are settled (`swiftOrderFree_of_wavesSettled`).

They need not be: a device that is refused marks its neighbors as seen before it is
refused, and a device of its wave that is accepted later then passes them over.  Of a
switch that is attached to the ring and one that is not, with an end station at both,
the one that comes first decides whether the end station gets a tier
(`not_swiftOrderFree_contestedRing`).
-/

import Sebastian.Core.SwiftWaves

namespace Sebastian
namespace Core

open Option

/-! ### Orders -/

/-- The same project, with the interfaces of its devices in another order. -/
def Reordered (project project' : Project) : Prop :=
  ∃ devices : List Device, project' = { project with devices := devices } ∧
    List.Forall₂ (fun device device' => ∃ interfaces : List Interface,
      interfaces.Perm device.interfaces ∧ device' = { device with interfaces := interfaces })
      project.devices devices

/-- **The ring does not depend on the order**: in whatever order the interfaces of the devices
and the sets of neighbors are enumerated, `ComputeRedundantSwift` ends with the same status,
tiers and links. -/
def SwiftOrderFree (monitor : Monitor) (project : Project) (swift : Swift) : Prop :=
  ∃ status tiers links, ∀ project' walk, Reordered project project' →
    (∀ id ids, (walk id ids).Perm ids) → ∃ swift',
      Loop.Settles (computeRedundantSwiftIn walk · monitor project' swift) (status, swift') ∧
        swift'.deviceTierMap.toList = tiers ∧ swift'.links = links

variable {monitor : Monitor} {project project' : Project} {swift : Swift}
  {walk : ℤ → QSet ℤ → List ℤ}

theorem Reordered.refl (project : Project) : Reordered project project :=
  ⟨project.devices, rfl, List.forall₂_same.2 fun _ _ => ⟨_, .refl _, rfl⟩⟩

/-- Lists that are related element by element find related elements. -/
theorem rel_find? {α β : Type} {R : α → β → Prop} {p : α → Bool} {q : β → Bool} {l : List α}
    {l' : List β} (h : List.Forall₂ R l l') (hpq : ∀ a b, R a b → p a = q b) :
    Option.Rel R (l.find? p) (l'.find? q) := by
  induction h with
  | nil => exact .none
  | @cons a b l l' hab _ ih =>
    rw [List.find?_cons, List.find?_cons, hpq a b hab]
    cases q b with
    | true => exact .some hab
    | false => exact ih

theorem Reordered.getDeviceById (h : Reordered project project') (id : ℤ) :
    Option.Rel (fun device device' => ∃ interfaces : List Interface,
      interfaces.Perm device.interfaces ∧ device' = { device with interfaces := interfaces })
      (project.getDeviceById id) (project'.getDeviceById id) := by
  obtain ⟨devices, rfl, hdevs⟩ := h
  refine rel_find? hdevs fun device device' ⟨interfaces, _, he⟩ => ?_
  rw [he]
  rfl

/-- **The walk sees the same.** -/
theorem Reordered.swiftView_eq (h : Reordered project project') :
    swiftView monitor project' = swiftView monitor project := by
  have hdev : ∀ id, ∃ interfaces : List Interface,
      interfaces.Perm ((project.getDeviceById id).getD {}).interfaces ∧
        (project'.getDeviceById id).getD {} =
          { (project.getDeviceById id).getD {} with interfaces := interfaces } := by
    intro id
    have hrel := h.getDeviceById id
    generalize project.getDeviceById id = found, project'.getDeviceById id = found' at hrel ⊢
    cases hrel with
    | some hdev => exact hdev
    | none => exact ⟨[], .refl _, rfl⟩
  have hlinkAt : swiftLinkAt monitor project' = swiftLinkAt monitor project := by
    obtain ⟨devices, rfl, -⟩ := h
    rfl
  unfold swiftView
  congr 1
  · funext id
    obtain ⟨interfaces, -, he⟩ := hdev id
    rw [he]
  · funext id
    obtain ⟨interfaces, -, he⟩ := hdev id
    rw [he]
  · funext id
    obtain ⟨interfaces, hperm, he⟩ := hdev id
    refine List.toFinset_eq_of_perm _ _ (List.Perm.map _ ?_)
    unfold seenLinks
    rw [he, hlinkAt]
    exact hperm.filterMap _

theorem Reordered.checkRedundantSwift_eq (h : Reordered project project') :
    checkRedundantSwift monitor project' swift = checkRedundantSwift monitor project swift := by
  have hroot := h.getDeviceById swift.rootDevice
  have hbackup := h.getDeviceById swift.backupRootDevice
  have hlinks : rootLinks monitor project' swift = rootLinks monitor project swift := by
    obtain ⟨devices, rfl, -⟩ := h
    rfl
  unfold checkRedundantSwift
  rw [hlinks]
  generalize project.getDeviceById swift.rootDevice = root,
    project'.getDeviceById swift.rootDevice = root' at hroot ⊢
  generalize project.getDeviceById swift.backupRootDevice = backupRoot,
    project'.getDeviceById swift.backupRootDevice = backupRoot' at hbackup ⊢
  cases hroot with
  | none => rfl
  | some hroot =>
    obtain ⟨_, -, rfl⟩ := hroot
    cases hbackup with
    | none => rfl
    | some hbackup =>
      obtain ⟨_, -, rfl⟩ := hbackup
      rfl

/-! ### Where the waves are settled -/

/-- **The waves of the walk are settled**, if there is a walk at all: the ring is active, and
its roots pass the check. -/
def WavesSettled (monitor : Monitor) (project : Project) (swift : Swift) : Prop :=
  swift.active = true → checkRedundantSwift monitor project swift = .ok () →
    ∀ k, (wave (swiftView monitor project) swift k).Settled (swiftView monitor project)

theorem getElem?_deviceTierMapOf_sound {s : SwiftSearch} (hs : s.Sound) (x : ℤ) (t : Int16) :
    (deviceTierMapOf s.swiftMap)[x]? = some t ↔ x ∈ s.swiftMap.value t :=
  getElem?_deviceTierMapOf (f := fun x => s.tierMap.value x)
    (fun t x hx => (QMap.value_of_getElem? (hs.accepted t x hx)).symm) x

theorem swiftLinks_congr {tiers tiers' : QMap ℤ Int16} (h : ∀ x : ℤ, tiers[x]? = tiers'[x]?) :
    swiftLinks project tiers = swiftLinks project tiers' := by
  unfold swiftLinks
  simp only [Std.TreeMap.contains_eq_isSome_getElem?, h]

theorem computeRedundantSwiftIn_inactive (hact : swift.active = false) (fuel : ℕ) :
    computeRedundantSwiftIn walk fuel monitor project swift = some (.success, swift) := by
  unfold computeRedundantSwiftIn
  exact if_pos (by rw [hact, Bool.not_false])

theorem computeRedundantSwiftIn_refused {status : Status} (hact : swift.active = true)
    (hcheck : checkRedundantSwift monitor project swift = .error status) (fuel : ℕ) :
    computeRedundantSwiftIn walk fuel monitor project swift =
      some (status, { swift with deviceTierMap := ∅, links := [] }) := by
  have hcheck' : checkRedundantSwift monitor project
      { swift with deviceTierMap := ∅, links := [] } = .error status := hcheck
  unfold computeRedundantSwiftIn
  rw [if_neg (by simp [hact])]
  dsimp only
  rw [hcheck']

/-- The ring that a walk leaves. -/
def tiered (project : Project) (swift : Swift) (s : SwiftSearch) : Swift :=
  { swift with
    deviceTierMap := deviceTierMapOf s.swiftMap
    links := swiftLinks project (deviceTierMapOf s.swiftMap) }

/-- A ring that passes the check is computed by the walk. -/
theorem computeRedundantSwiftIn_checked (hact : swift.active = true)
    (hcheck : checkRedundantSwift monitor project swift = .ok ()) (fuel : ℕ) :
    computeRedundantSwiftIn walk fuel monitor project swift =
      (Loop.run (swiftRoundIn walk monitor project) fuel (swiftStart swift)).map fun s =>
        (.success, tiered project swift s) := by
  have hcheck' : checkRedundantSwift monitor project
      { swift with deviceTierMap := ∅, links := [] } = .ok () := hcheck
  unfold computeRedundantSwiftIn
  rw [if_neg (by simp [hact])]
  dsimp only
  rw [hcheck']
  rfl

/-- **The walk of a ring ends**, and what it has accepted are the tiers. -/
theorem exists_settles_computeRedundantSwiftIn (hwalk : ∀ id ids, (walk id ids).Perm ids)
    (hact : swift.active = true) (hcheck : checkRedundantSwift monitor project swift = .ok ()) :
    ∃ s : SwiftSearch, Loop.Visits (swiftRoundIn walk monitor project) (swiftStart swift) s ∧
      s.Sound ∧ s.queue = [] ∧
      Loop.Settles (Loop.run (swiftRoundIn walk monitor project) · (swiftStart swift)) s ∧
      Loop.Settles (computeRedundantSwiftIn walk · monitor project swift)
        (.success, tiered project swift s) := by
  obtain ⟨s, hrun, hvis, hsound, hempty⟩ := exists_swiftRun hwalk monitor project swift
  refine ⟨s, hvis, hsound, hempty, hrun, ?_⟩
  simp only [computeRedundantSwiftIn_checked hact hcheck]
  exact hrun.map _

/-- **A ring whose waves are settled does not depend on the order.** -/
theorem swiftOrderFree_of_wavesSettled (h : WavesSettled monitor project swift) :
    SwiftOrderFree monitor project swift := by
  cases hact : swift.active with
  | false =>
    refine ⟨.success, swift.deviceTierMap.toList, swift.links, fun project' walk _ _ =>
      ⟨swift, ?_, rfl, rfl⟩⟩
    simp only [computeRedundantSwiftIn_inactive hact]
    exact Loop.settles_const _
  | true =>
    cases hcheck : checkRedundantSwift monitor project swift with
    | error status =>
      refine ⟨status, [], [], fun project' walk horder _ =>
        ⟨{ swift with deviceTierMap := ∅, links := [] }, ?_, rfl, rfl⟩⟩
      simp only [computeRedundantSwiftIn_refused hact
        (horder.checkRedundantSwift_eq.trans hcheck)]
      exact Loop.settles_const _
    | ok =>
      have hset := h hact hcheck
      -- one run to compare all others with
      obtain ⟨s, hvis, hsound, hempty, -⟩ := exists_settles_computeRedundantSwiftIn
        (fun _ ids => List.Perm.refl ids) hact hcheck
      refine ⟨.success, (deviceTierMapOf s.swiftMap).toList,
        swiftLinks project (deviceTierMapOf s.swiftMap), fun project' walk horder hwalk => ?_⟩
      obtain ⟨s', hvis', hsound', hempty', -, hsettles⟩ := exists_settles_computeRedundantSwiftIn
        hwalk hact (horder.checkRedundantSwift_eq.trans hcheck)
      have htiers : ∀ x : ℤ,
          (deviceTierMapOf s'.swiftMap)[x]? = (deviceTierMapOf s.swiftMap)[x]? := by
        refine fun x => ext fun t => ?_
        rw [getElem?_deviceTierMapOf_sound hsound', getElem?_deviceTierMapOf_sound hsound,
          mem_swiftMap_of_settled hwalk (horder.swiftView_eq.symm ▸ hset) hvis' hempty',
          mem_swiftMap_of_settled (fun _ ids => List.Perm.refl ids) hset hvis hempty,
          horder.swiftView_eq]
      refine ⟨_, hsettles, QMap.toList_eq_iff.2 htiers, ?_⟩
      unfold tiered
      dsimp only
      rw [swiftLinks_congr htiers]
      obtain ⟨devices, rfl, -⟩ := horder
      rfl

/-! ### Where they are not -/

/-- A ring of two switches, a switch that is attached to both, a switch that is attached to
one, and an end station at these two. -/
def contestedRing : Project where
  devices :=
    [{ id := 1, ipAddress := "10.0.0.1", deviceType := .switch
       deviceProperty := { stpRstp := { swift := true } }
       interfaces := [{ deviceId := 1, interfaceId := 1, used := true },
         { deviceId := 1, interfaceId := 2, used := true },
         { deviceId := 1, interfaceId := 3, used := true },
         { deviceId := 1, interfaceId := 4, used := true }] },
     { id := 2, ipAddress := "10.0.0.2", deviceType := .switch
       deviceProperty := { stpRstp := { swift := true } }
       interfaces := [{ deviceId := 2, interfaceId := 1, used := true },
         { deviceId := 2, interfaceId := 2, used := true },
         { deviceId := 2, interfaceId := 3, used := true }] },
     { id := 3, ipAddress := "10.0.0.3", deviceType := .switch
       deviceProperty := { stpRstp := { swift := true } }
       interfaces := [{ deviceId := 3, interfaceId := 1, used := true },
         { deviceId := 3, interfaceId := 2, used := true },
         { deviceId := 3, interfaceId := 3, used := true }] },
     { id := 4, ipAddress := "10.0.0.4", deviceType := .switch
       deviceProperty := { stpRstp := { swift := true } }
       interfaces := [{ deviceId := 4, interfaceId := 1, used := true },
         { deviceId := 4, interfaceId := 2, used := true }] },
     { id := 5, ipAddress := "10.0.0.5", deviceType := .endStation
       interfaces := [{ deviceId := 5, interfaceId := 1, used := true },
         { deviceId := 5, interfaceId := 2, used := true }] }]
  links :=
    [{ id := 1, sourceDeviceId := 1, sourceInterfaceId := 1, destinationDeviceId := 2,
       destinationInterfaceId := 1 },
     { id := 2, sourceDeviceId := 1, sourceInterfaceId := 2, destinationDeviceId := 2,
       destinationInterfaceId := 2 },
     { id := 3, sourceDeviceId := 1, sourceInterfaceId := 3, destinationDeviceId := 3,
       destinationInterfaceId := 1 },
     { id := 4, sourceDeviceId := 1, sourceInterfaceId := 4, destinationDeviceId := 4,
       destinationInterfaceId := 1 },
     { id := 5, sourceDeviceId := 2, sourceInterfaceId := 3, destinationDeviceId := 3,
       destinationInterfaceId := 2 },
     { id := 6, sourceDeviceId := 3, sourceInterfaceId := 3, destinationDeviceId := 5,
       destinationInterfaceId := 1 },
     { id := 7, sourceDeviceId := 4, sourceInterfaceId := 2, destinationDeviceId := 5,
       destinationInterfaceId := 2 }]

theorem contestedRing_consistent : ConsistentLinks contestedRing := by
  refine consistentLinks_of ?_ ?_ ?_ ?_ ?_
  · unfold QSet.Distinct contestedRing
    decide
  · unfold contestedRing
    decide
  · unfold QSet.Distinct contestedRing
    decide
  · unfold contestedRing
    decide
  · unfold contestedRing
    decide

theorem contestedRing_tiers :
    (computeRedundantSwiftIn (fun _ ids => ids) 7 {} contestedRing turboSwift).map
        (fun r => r.2.deviceTierMap.toList) = some [(1, 0), (2, 0), (3, 1), (5, 2)] ∧
      (computeRedundantSwiftIn (fun _ ids => ids.reverse) 7 {} contestedRing turboSwift).map
        (fun r => r.2.deviceTierMap.toList) = some [(1, 0), (2, 0), (3, 1)] := by
  decide +kernel

theorem settles_computeRedundantSwiftIn (fuel : ℕ) {r : Status × Swift}
    (h : computeRedundantSwiftIn walk fuel monitor project swift = some r) :
    Loop.Settles (computeRedundantSwiftIn walk · monitor project swift) r := by
  cases hact : swift.active with
  | false =>
    rw [computeRedundantSwiftIn_inactive hact] at h
    simp only [computeRedundantSwiftIn_inactive hact, h]
    exact Filter.Eventually.of_forall fun _ => rfl
  | true =>
    cases hcheck : checkRedundantSwift monitor project swift with
    | error status =>
      rw [computeRedundantSwiftIn_refused hact hcheck] at h
      simp only [computeRedundantSwiftIn_refused hact hcheck, h]
      exact Filter.Eventually.of_forall fun _ => rfl
    | ok =>
      rw [computeRedundantSwiftIn_checked hact hcheck] at h
      obtain ⟨s, hrun, rfl⟩ := map_eq_some_iff.1 h
      simp only [computeRedundantSwiftIn_checked hact hcheck]
      exact (Loop.settles_of_run fuel hrun).map _

/-- **In two orders the tiers are the same**, where they do not depend on the order. -/
theorem SwiftOrderFree.tiers_eq (h : SwiftOrderFree monitor project swift)
    {walk' : ℤ → QSet ℤ → List ℤ} (hwalk : ∀ id ids, (walk id ids).Perm ids)
    (hwalk' : ∀ id ids, (walk' id ids).Perm ids) {r r' : Status × Swift}
    (hr : Loop.Settles (computeRedundantSwiftIn walk · monitor project swift) r)
    (hr' : Loop.Settles (computeRedundantSwiftIn walk' · monitor project swift) r') :
    r.2.deviceTierMap.toList = r'.2.deviceTierMap.toList := by
  obtain ⟨status, tiers, links, h⟩ := h
  obtain ⟨swift₁, h₁, htiers₁, -⟩ := h project walk (.refl project) hwalk
  obtain ⟨swift₂, h₂, htiers₂, -⟩ := h project walk' (.refl project) hwalk'
  obtain ⟨fuel, he₁, he₁'⟩ := (hr.and h₁).exists
  obtain ⟨fuel', he₂, he₂'⟩ := (hr'.and h₂).exists
  obtain rfl := some.inj (he₁.symm.trans he₁')
  obtain rfl := some.inj (he₂.symm.trans he₂')
  exact htiers₁.trans htiers₂.symm

/-- **A contested end station**: the ring depends on the order, although the project is
consistent. -/
theorem not_swiftOrderFree_contestedRing :
    ConsistentLinks contestedRing ∧ ¬SwiftOrderFree {} contestedRing turboSwift := by
  refine ⟨contestedRing_consistent, fun h => ?_⟩
  obtain ⟨hfirst, hlast⟩ := contestedRing_tiers
  obtain ⟨r, hr, htiers⟩ := map_eq_some_iff.1 hfirst
  obtain ⟨r', hr', htiers'⟩ := map_eq_some_iff.1 hlast
  have he := h.tiers_eq (fun _ ids => List.Perm.refl ids) (fun _ ids => List.reverse_perm ids)
    (settles_computeRedundantSwiftIn 7 hr) (settles_computeRedundantSwiftIn 7 hr')
  rw [htiers, htiers'] at he
  exact absurd he (by decide)

end Core
end Sebastian

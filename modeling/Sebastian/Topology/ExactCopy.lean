/-
# Mapping an exact copy

A designed network and a built one that is its image, device by device and port by
port (`ExactCopy`).  `MappingTopology` then gives every designed device its copy and
lets the design be deployed (`mappingTopology_exactCopy`).

`CopyInv` is what holds at the head of the search: whatever has a result has its
copy, whatever waits has a result, and the neighbors of a finished device have
theirs.  A device gets its copy before it is dequeued because the ports of the
device that enqueued it are checked in the same round.
-/

import Sebastian.Topology.TopologyMapping

namespace Sebastian
namespace TopologyMapping

open Std.TreeMap Finset QMap

/-- The link joins these two ports. -/
def Connects (link : Link) (a i b j : ℤ) : Prop :=
  (link.sourceDeviceId = a ∧ link.sourceInterfaceId = i ∧ link.destinationDeviceId = b ∧
    link.destinationInterfaceId = j) ∨
  (link.sourceDeviceId = b ∧ link.sourceInterfaceId = j ∧ link.destinationDeviceId = a ∧
    link.destinationInterfaceId = i)

/-- There is a device with this id. -/
def MapTopology.HasDevice (topology : MapTopology) (x : ℤ) : Prop :=
  ∃ device ∈ topology.devices, device.id = x

/-- Two devices are neighbors. -/
def MapTopology.Adjacent (topology : MapTopology) (a b : ℤ) : Prop :=
  ∃ link ∈ topology.links, ∃ i j, Connects link a i b j

/-- **A network as the mapping reads it**: ids are ids, devices have addresses, a port
carries at most one link, and a link joins two different devices. -/
structure NetworkWellFormed (topology : MapTopology) : Prop where
  ids : topology.devices.Pairwise fun x y => x.id ≠ y.id
  addressed : Addressed topology.devices
  ports : QSet.Distinct topology.links
  ends : ∀ link ∈ topology.links, topology.HasDevice link.sourceDeviceId ∧
    topology.HasDevice link.destinationDeviceId ∧
    link.sourceDeviceId ≠ link.destinationDeviceId

/-- **The online network is an exact copy of the designed one** under the map of ids. -/
structure ExactCopy (input : MappingInput) (copy : ℤ → ℤ) : Prop where
  offline : NetworkWellFormed input.offline
  online : NetworkWellFormed input.online
  moxa : ∀ device ∈ input.offline.devices, device.deviceType ≠ .endStation ∧
    isMoxaVendor device.deviceProperty.vendor = true
  source : input.offline.HasDevice input.offline.sourceDeviceId
  connected : ∀ x, input.offline.HasDevice x →
    Relation.ReflTransGen input.offline.Adjacent input.offline.sourceDeviceId x
  injective : ∀ x y, input.offline.HasDevice x → input.offline.HasDevice y → copy x = copy y → x = y
  surjective : ∀ y, input.online.HasDevice y ↔ ∃ x, input.offline.HasDevice x ∧ copy x = y
  named : ∀ y, input.online.HasDevice y → y ≠ -1
  devices : ∀ device ∈ input.offline.devices, ∀ online ∈ input.online.devices,
    online.id = copy device.id →
      device.deviceProperty.modelName = online.deviceProperty.modelName ∧
      device.modularConfiguration.power.toList = online.modularConfiguration.power.toList ∧
      device.modularConfiguration.ethernet.toList = online.modularConfiguration.ethernet.toList
  profiles : ∀ online ∈ input.online.devices,
    ∃ profile, QSet.find input.profiles { id := online.deviceProfileId } = some profile
  onlineSource : input.online.sourceDeviceId = copy input.offline.sourceDeviceId
  links : ∀ a i b j, input.offline.HasDevice a → input.offline.HasDevice b →
    ((∃ link ∈ input.offline.links, Connects link a i b j) ↔
      ∃ link ∈ input.online.links, Connects link (copy a) i (copy b) j)

variable {topology : MapTopology} {input : MappingInput} {copy : ℤ → ℤ} {s : MappingSearch}
  {link : Link}

/-! ### The maps of a topology -/

theorem Connects.hasEndpoint {a i b j : ℤ} (h : Connects link a i b j) :
    link.hasEndpoint a i = true := by
  unfold Link.hasEndpoint
  rcases h with ⟨hs, hi, -⟩ | ⟨-, -, hd, hi⟩
  · simp [hs, hi]
  · simp [hd, hi]

theorem Connects.symm {a i b j : ℤ} (h : Connects link a i b j) : Connects link b j a i := by
  rcases h with ⟨h1, h2, h3, h4⟩ | ⟨h1, h2, h3, h4⟩
  · exact .inr ⟨h1, h2, h3, h4⟩
  · exact .inl ⟨h1, h2, h3, h4⟩

/-- Inserting a stored link into a set of stored links. -/
theorem mem_insert_link (h : QSet.Distinct topology.links) {links : QSet Link}
    (hlinks : ∀ l ∈ links, l ∈ topology.links) {a : Link} (ha : a ∈ topology.links) :
    link ∈ QSet.insert links a ↔ link ∈ links ∨ link = a := by
  by_cases hc : QSet.contains links a = true
  · obtain ⟨m, hm, hma⟩ := List.any_eq_true.1 hc
    obtain rfl := h.eq_of_beq Core.link_beq_comm (hlinks m hm) ha hma
    rw [show QSet.insert links m = links from if_pos hc]
    exact ⟨.inl, fun hl => hl.elim id fun he => he ▸ hm⟩
  · exact QSet.mem_insert_of_not_contains (Bool.not_eq_true _ ▸ hc)

/-- **The links at a device.** -/
theorem mem_deviceLinksMap (h : QSet.Distinct topology.links) {x : ℤ} :
    link ∈ (deviceLinksMap topology).value x ↔
      link ∈ topology.links ∧ (link.destinationDeviceId = x ∨ link.sourceDeviceId = x) := by
  unfold deviceLinksMap
  refine Loop.foldl_rule (I := fun passed (m : QMap ℤ (QSet Link)) =>
    (∀ l ∈ passed, l ∈ topology.links) → ∀ x l, l ∈ m.value x ↔
      l ∈ passed ∧ (l.destinationDeviceId = x ∨ l.sourceDeviceId = x)) ?_ ?_ (fun _ hl => hl) x link
  · intro _ x l
    simp
  · intro passed a rest hsplit hI hpast x l
    generalize passed.foldl _ (∅ : QMap ℤ (QSet Link)) = m at hI ⊢
    have hprev := hI fun l hl => hpast l (List.mem_append_left _ hl)
    have ha : a ∈ topology.links := hpast a (by simp)
    have hstored : ∀ x, ∀ l ∈ m.value x, l ∈ topology.links := fun x l hl =>
      hpast l (List.mem_append_left _ ((hprev x l).1 hl).1)
    have hfirst : ∀ x l, l ∈ value (m.update a.destinationDeviceId (QSet.insert · a)) x ↔
        l ∈ m.value x ∨ (a.destinationDeviceId = x ∧ l = a) := by
      intro x l
      rw [value_update]
      split_ifs with hx
      · subst hx
        rw [mem_insert_link h (hstored _) ha]
        simp
      · simp [hx]
    have hstored' : ∀ x, ∀ l ∈ value (m.update a.destinationDeviceId (QSet.insert · a)) x,
        l ∈ topology.links := by
      intro x l hl
      rcases (hfirst x l).1 hl with hl | ⟨-, rfl⟩
      · exact hstored x l hl
      · exact ha
    rw [value_update]
    have hmem : (l ∈ if a.sourceDeviceId = x then QSet.insert (value
        (m.update a.destinationDeviceId (QSet.insert · a)) a.sourceDeviceId) a else
        value (m.update a.destinationDeviceId (QSet.insert · a)) x) ↔
        l ∈ m.value x ∨ ((a.destinationDeviceId = x ∨ a.sourceDeviceId = x) ∧ l = a) := by
      split_ifs with hx
      · subst hx
        rw [mem_insert_link h (hstored' _) ha, hfirst]
        simp only [or_true, true_and]
        tauto
      · rw [hfirst]
        simp [hx]
    rw [hmem, hprev]
    constructor
    · rintro (⟨hl, hends⟩ | ⟨hends, rfl⟩)
      · exact ⟨List.mem_append_left _ hl, hends⟩
      · exact ⟨by simp, hends⟩
    · rintro ⟨hl, hends⟩
      rcases List.mem_append.1 hl with hl | hl
      · exact .inl ⟨hl, hends⟩
      · obtain rfl := List.mem_singleton.1 hl
        exact .inr ⟨hends, rfl⟩

/-- **What lies behind an interface**: the device at the other end of its link. -/
theorem leaveMap_eq_some (h : NetworkWellFormed topology) {check : Bool} {moxa : QSet ℤ} {x i b : ℤ}
    (hmoxa : check = true → ∀ y, topology.HasDevice y → y ∈ moxa) :
    (leaveInterfaceOppositeDeviceMap check x ((deviceLinksMap topology).value x) moxa)[i]? =
      some b ↔ ∃ link ∈ topology.links, ∃ j, Connects link x i b j := by
  have hallowed : ∀ y, topology.HasDevice y → (!check || moxa.contains y) = true := by
    intro y hy
    cases hcheck : check with
    | false => rfl
    | true => simpa [QSet.contains_iff_mem] using hmoxa hcheck y hy
  have hrest : (∃ link ∈ topology.links, ∃ j, Connects link x i b j) ↔
      ∃ link ∈ (deviceLinksMap topology).value x, ∃ j, Connects link x i b j := by
    constructor
    · rintro ⟨link, hlink, j, hconnects⟩
      refine ⟨link, (mem_deviceLinksMap h.ports).2 ⟨hlink, ?_⟩, j, hconnects⟩
      rcases hconnects with ⟨hs, -⟩ | ⟨-, -, hd, -⟩
      · exact .inr hs
      · exact .inl hd
    · rintro ⟨link, hlink, hconnects⟩
      exact ⟨link, ((mem_deviceLinksMap h.ports).1 hlink).1, hconnects⟩
  rw [hrest]
  unfold leaveInterfaceOppositeDeviceMap
  have hat : ∀ l ∈ (deviceLinksMap topology).value x, l ∈ topology.links ∧
      (l.destinationDeviceId = x ∨ l.sourceDeviceId = x) := fun l hl =>
    (mem_deviceLinksMap h.ports).1 hl
  generalize (deviceLinksMap topology).value x = links at hat ⊢
  refine Loop.foldl_rule (I := fun passed (m : QMap ℤ ℤ) => (∀ l ∈ passed, l ∈ links) →
    ∀ i b, m[i]? = some b ↔ ∃ link ∈ passed, ∃ j, Connects link x i b j) ?_ ?_ (fun _ hl => hl) i b
  · intro _ i b
    simp
  · intro passed a rest hsplit hI hpast i b
    generalize passed.foldl _ (∅ : QMap ℤ ℤ) = m at hI ⊢
    have hprev := hI fun l hl => hpast l (List.mem_append_left _ hl)
    obtain ⟨ha, haends⟩ := hat a (hpast a (by simp))
    obtain ⟨hsrc, hdest, hapart⟩ := h.ends a ha
    -- the port of the link at the device, and what is behind it
    obtain ⟨k, c, hstep, hk⟩ : ∃ k c, leaveInterface check x moxa m a = m.insert k c ∧
        ∀ i b, (∃ j, Connects a x i b j) ↔ i = k ∧ b = c := by
      unfold leaveInterface
      by_cases hx : a.destinationDeviceId = x
      · refine ⟨a.destinationInterfaceId, a.sourceDeviceId,
          if_pos ⟨hx, hallowed _ hsrc⟩, fun i b => ?_⟩
        constructor
        · rintro ⟨j, ⟨hs, -⟩ | ⟨hs, -, -, hi⟩⟩
          · exact absurd (hs.trans hx.symm) hapart
          · exact ⟨hi.symm, hs.symm⟩
        · rintro ⟨rfl, rfl⟩
          exact ⟨a.sourceInterfaceId, .inr ⟨rfl, rfl, hx, rfl⟩⟩
      · have hx' := haends.resolve_left hx
        refine ⟨a.sourceInterfaceId, a.destinationDeviceId, ?_, fun i b => ?_⟩
        · rw [if_neg fun hc => hx hc.1, if_pos ⟨hx', hallowed _ hdest⟩]
        constructor
        · rintro ⟨j, ⟨-, hi, hd, -⟩ | ⟨-, -, hd, -⟩⟩
          · exact ⟨hi.symm, hd.symm⟩
          · exact absurd hd hx
        · rintro ⟨rfl, rfl⟩
          exact ⟨a.destinationInterfaceId, .inl ⟨hx', rfl, rfl, rfl⟩⟩
    rw [hstep, getElem?_insert]
    simp only [Std.compare_eq_iff_eq]
    constructor
    · intro hget
      split_ifs at hget with hki
      · obtain rfl := Option.some.inj hget
        exact ⟨a, by simp, (hk i c).2 ⟨hki.symm, rfl⟩⟩
      · obtain ⟨l, hl, hconnects⟩ := (hprev i b).1 hget
        exact ⟨l, List.mem_append_left _ hl, hconnects⟩
    · rintro ⟨l, hl, j, hconnects⟩
      rcases List.mem_append.1 hl with hl | hl
      · split_ifs with hki
        · -- another link at the same port is the same link
          obtain ⟨j', hconnects'⟩ := (hk i c).2 ⟨hki.symm, rfl⟩
          have hsame : l = a := h.ports.eq_of_beq Core.link_beq_comm
            (hat l (hpast l (List.mem_append_left _ hl))).1 ha
            (Core.link_beq_iff.2 (.inr ⟨x, i, hconnects.hasEndpoint, hconnects'.hasEndpoint⟩))
          subst hsame
          rw [((hk i b).1 ⟨j, hconnects⟩).2]
        · exact (hprev i b).2 ⟨l, hl, j, hconnects⟩
      · obtain rfl := List.mem_singleton.1 hl
        obtain ⟨rfl, rfl⟩ := (hk i b).1 ⟨j, hconnects⟩
        rw [if_pos rfl]

theorem mem_offlineMappingDeviceSet {x : ℤ} : x ∈ offlineMappingDeviceSet topology ↔
    ∃ device ∈ topology.devices, device.id = x ∧ device.deviceType ≠ .endStation ∧
      isMoxaVendor device.deviceProperty.vendor = true := by
  unfold offlineMappingDeviceSet
  suffices h : ∀ devices : List Device, ∀ ids : QSet ℤ, x ∈ devices.foldl (fun ids device =>
      if device.deviceType = .endStation then ids
      else if isMoxaVendor device.deviceProperty.vendor then QSet.insert ids device.id
      else ids) ids ↔ x ∈ ids ∨ ∃ device ∈ devices, device.id = x ∧
        device.deviceType ≠ .endStation ∧ isMoxaVendor device.deviceProperty.vendor = true by
    simpa using h topology.devices []
  intro devices
  induction devices with
  | nil => simp
  | cons device devices ih =>
    intro ids
    rw [List.foldl_cons, ih, List.exists_mem_cons_iff]
    split_ifs with htype hvendor
    · simp [htype]
    · rw [QSet.mem_insert, or_assoc]
      simp [htype, hvendor, eq_comm (a := x)]
    · simp [hvendor]

/-! ### A pair and its ports -/

theorem findDevice_of_mem (h : NetworkWellFormed topology) {device : Device}
    (hdev : device ∈ topology.devices) :
    findDevice topology.devices device.id = some device := by
  cases hfind : findDevice topology.devices device.id with
  | none =>
    unfold findDevice at hfind
    have hmiss := List.find?_eq_none.1 hfind device hdev
    exact absurd (Core.device_beq_iff.2 (.inl rfl) : (device == { id := device.id }) = true) hmiss
  | some other =>
    obtain ⟨hother, hid⟩ := findDevice_id h.addressed hfind
    by_contra hne
    have hsymm : Std.Symm fun x y : Device => x.id ≠ y.id := ⟨fun _ _ => Ne.symm⟩
    exact List.Pairwise.forall h.ids hother hdev (fun he => hne (by rw [he])) hid

/-- A designed device and its copy, as they are found and checked. -/
structure CopyPair (input : MappingInput) (copy : ℤ → ℤ) (x : ℤ) (pair : MappingPair) :
    Prop where
  offlineDeviceId : pair.offlineDeviceId = x
  onlineDeviceId : pair.onlineDeviceId = copy x
  offline : findDevice input.offline.devices x = some pair.offline
  online : findDevice input.online.devices (copy x) = some pair.online
  power : builtInPowerOf input pair.online = .ok pair.builtInPower
  offlineId : pair.offline.id = x
  onlineId : pair.online.id = copy x
  checked : checkDeviceError pair.offline pair.online pair.builtInPower = none

/-- **Every designed device passes the check with its copy.** -/
theorem ExactCopy.exists_pair (h : ExactCopy input copy) {x : ℤ} (hx : input.offline.HasDevice x) :
    ∃ pair, CopyPair input copy x pair := by
  obtain ⟨device, hdev, rfl⟩ := hx
  obtain ⟨online, hon, hid⟩ :=
    (h.surjective (copy device.id)).2 ⟨_, ⟨device, hdev, rfl⟩, rfl⟩
  obtain ⟨profile, hprof⟩ := h.profiles online hon
  obtain ⟨hmodel, hpower, hethernet⟩ := h.devices device hdev online hon hid
  refine ⟨⟨device.id, device, copy device.id, online, profile.builtInPower⟩, rfl, rfl,
    findDevice_of_mem h.offline hdev, hid ▸ findDevice_of_mem h.online hon, ?_, rfl, hid, ?_⟩
  · unfold builtInPowerOf
    rw [hprof]
  · unfold checkDeviceError
    simp [hmodel, hpower, hethernet]

/-- The pair of a designed device and its copy is found. -/
theorem CopyPair.findPair {x : ℤ} {pair : MappingPair} (h : CopyPair input copy x pair) :
    findPair input x (copy x) = .ok pair := by
  unfold TopologyMapping.findPair
  rw [h.offline]
  dsimp only
  rw [h.online]
  dsimp only
  rw [h.power, ← h.onlineDeviceId, ← h.offlineDeviceId]
  rfl

/-- **What is known of a result**: the device is designed, and its copy stands for it. -/
structure Copied (input : MappingInput) (copy : ℤ → ℤ) (x : ℤ) (item : MapDeviceResultItem) :
    Prop where
  designed : input.offline.HasDevice x
  offlineId : item.offlineDeviceId = x
  onlineId : item.onlineDeviceId = copy x
  status : item.status = .success

/-- Every result is a copy. -/
abbrev AllCopied (input : MappingInput) (copy : ℤ → ℤ) (s : MappingSearch) : Prop :=
  ∀ x : ℤ, ∀ item, s.results[x]? = some item → Copied input copy x item

/-- The check of a new pair makes the copy its result. -/
theorem CopyPair.checkDevice {x : ℤ} {pair : MappingPair} (h : CopyPair input copy x pair)
    (hx : input.offline.HasDevice x) (hall : AllCopied input copy s) (hnew : s.results[x]? = none) :
    AllCopied input copy (checkDevice pair.offline pair.online pair.builtInPower s) ∧
      (∀ y, HasResult (checkDevice pair.offline pair.online pair.builtInPower s) y ↔
        HasResult s y ∨ y = x) ∧
      (checkDevice pair.offline pair.online pair.builtInPower s).queue = s.queue ∧
      (checkDevice pair.offline pair.online pair.builtInPower s).onlineMapped = s.onlineMapped ∧
      (checkDevice pair.offline pair.online pair.builtInPower s).foundOnline = s.foundOnline := by
  rcases checkDevice_cases pair.offline pair.online pair.builtInPower s with
    ⟨⟨item, hitem⟩, -⟩ | ⟨-, message, herror, -⟩ | ⟨-, -, hs⟩
  · rw [h.offlineId, hnew] at hitem
    cases hitem
  · rw [h.checked] at herror
    cases herror
  · rw [hs]
    refine ⟨fun y item hy => ?_, fun y => ?_, rfl, rfl, rfl⟩
    · dsimp only at hy
      rw [getElem?_insert_result, h.offlineId] at hy
      split_ifs at hy with hxy
      · cases hy
        exact hxy ▸ ⟨hx, h.offlineId, h.onlineId, rfl⟩
      · exact hall y item hy
    · unfold HasResult
      dsimp only
      rw [getElem?_insert_result, h.offlineId]
      split_ifs with hxy
      · simp [hxy]
      · simp [Ne.symm hxy]

/-- What a port of the designed device leads to, and the same port of its copy. -/
theorem ExactCopy.leave (h : ExactCopy input copy) {x i b : ℤ} (hx : input.offline.HasDevice x)
    (hleave : (offlineLeaveMap input x)[i]? = some b) :
    input.offline.Adjacent x b ∧ input.offline.HasDevice b ∧
      (onlineLeaveMap input (copy x))[i]? = some (copy b) := by
  obtain ⟨link, hlink, j, hconnects⟩ := (leaveMap_eq_some h.offline fun _ y hy => by
    obtain ⟨device, hdev, hid⟩ := hy
    exact mem_offlineMappingDeviceSet.2 ⟨device, hdev, hid, h.moxa device hdev⟩).1 hleave
  have hb : input.offline.HasDevice b := by
    obtain ⟨hs, hd, -⟩ := h.offline.ends link hlink
    rcases hconnects with ⟨-, -, hb, -⟩ | ⟨hb, -⟩
    · exact hb ▸ hd
    · exact hb ▸ hs
  obtain ⟨online, hon, hcopy⟩ := (h.links x i b j hx hb).1 ⟨link, hlink, hconnects⟩
  exact ⟨⟨link, hlink, i, j, hconnects⟩, hb,
    (leaveMap_eq_some h.online fun hcheck => by cases hcheck).2 ⟨online, hon, j, hcopy⟩⟩

/-- **A port hands the neighbor its copy**, if the neighbor has no result yet. -/
theorem ExactCopy.checkPort (h : ExactCopy input copy) {x i b : ℤ} {pair : MappingPair}
    (hx : input.offline.HasDevice x) (hleave : (offlineLeaveMap input x)[i]? = some b)
    (hall : AllCopied input copy s)
    (hmap : ∀ y, input.offline.HasDevice y → copy y ∈ s.onlineMapped → HasResult s y) :
    ∃ s', checkPort input pair (offlineLeaveMap input x) (onlineLeaveMap input (copy x)) s i =
        .ok s' ∧ AllCopied input copy s' ∧ (∀ y, HasResult s' y ↔ HasResult s y ∨ y = b) ∧
      s'.queue = s.queue ∧ s'.onlineMapped = s.onlineMapped ∧
      ∀ y ∈ s.foundOnline, y ∈ s'.foundOnline := by
  obtain ⟨-, hb, hon⟩ := h.leave hx hleave
  obtain ⟨next, hnext⟩ := h.exists_pair hb
  unfold TopologyMapping.checkPort
  rw [if_neg (by simp [contains_eq_isSome_getElem?, hon])]
  unfold oppositePair
  dsimp only
  rw [value_of_getElem? hleave, value_of_getElem? hon]
  cases hres : s.results[b]? with
  | some item =>
    rw [if_pos (by simp [contains_eq_isSome_getElem?, hres])]
    refine ⟨s, rfl, hall, fun y => ⟨.inl, fun hy => hy.elim (fun hy => hy) ?_⟩, rfl, rfl,
      fun y hy => hy⟩
    rintro rfl
    exact ⟨item, hres⟩
  | none =>
    rw [if_neg (by simp [contains_eq_isSome_getElem?, hres]), hnext.offline]
    dsimp only
    rw [hnext.online]
    dsimp only
    have hfree : ¬QSet.contains s.onlineMapped (copy b) = true := by
      rw [QSet.contains_iff_mem]
      intro hmem
      obtain ⟨item, hitem⟩ := hmap b hb hmem
      rw [hres] at hitem
      cases hitem
    rw [if_neg hfree, hnext.power]
    obtain ⟨hall', hress, hqueue, hmap', hfound⟩ := @CopyPair.checkDevice input copy
      { s with foundOnline := QSet.insert s.foundOnline (copy b) } b next hnext hb hall hres
    refine ⟨_, rfl, hall', hress, hqueue, hmap', fun y hy => ?_⟩
    rw [hfound]
    exact QSet.mem_insert.2 (.inl hy)

/-! ### The search -/

theorem enqueueDevice_spec {ids : QSet ℤ} {results : QMap ℤ MapDeviceResultItem} {queue : List ℤ}
    {z : ℤ} : (∀ y, y ∈ enqueueDevice ids results queue z ↔
      y ∈ queue ∨ (y = z ∧ results[y]? = none ∧ y ∈ ids)) ∧
    (queue.Nodup → (enqueueDevice ids results queue z).Nodup) := by
  unfold enqueueDevice
  split_ifs with hc
  · simp only [Bool.and_eq_true, Bool.not_eq_true'] at hc
    obtain ⟨⟨hres, hqueue⟩, hids⟩ := hc
    have hnone := getElem?_eq_none_of_contains_eq_false hres
    have hout : z ∉ queue := by simpa using hqueue
    have hin : z ∈ ids := QSet.contains_iff_mem.1 hids
    refine ⟨fun y => ?_, fun hnodup => ?_⟩
    · rw [List.mem_append, List.mem_singleton]
      refine or_congr_right ⟨?_, And.left⟩
      rintro rfl
      exact ⟨rfl, hnone, hin⟩
    · exact List.nodup_append.2 ⟨hnodup, List.nodup_singleton z, fun a ha c hc => by
        rintro rfl
        exact hout (List.mem_singleton.1 hc ▸ ha)⟩
  · refine ⟨fun y => ⟨.inl, fun hy => hy.elim (fun hy => hy) ?_⟩, fun hnodup => hnodup⟩
    rintro ⟨rfl, hnone, hids⟩
    by_contra hout
    refine hc ?_
    simp [contains_eq_isSome_getElem?, hnone, hout, QSet.contains_iff_mem, hids]

/-- **What waits after the neighbors of a device are enqueued.** -/
theorem enqueueNeighbors_spec {ids : QSet ℤ} {results : QMap ℤ MapDeviceResultItem}
    {links : QSet Link} {queue : List ℤ} :
    (∀ y, y ∈ enqueueNeighbors ids results links queue ↔ y ∈ queue ∨ (results[y]? = none ∧ y ∈ ids ∧
      ∃ link ∈ links, link.destinationDeviceId = y ∨ link.sourceDeviceId = y)) ∧
    (queue.Nodup → (enqueueNeighbors ids results links queue).Nodup) := by
  unfold enqueueNeighbors
  induction links generalizing queue with
  | nil => simp
  | cons link links ih =>
    rw [List.foldl_cons]
    obtain ⟨hmem, hnodup⟩ := @ih (enqueueDevice ids results
      (enqueueDevice ids results queue link.destinationDeviceId) link.sourceDeviceId)
    refine ⟨fun y => ?_, fun h => hnodup (enqueueDevice_spec.2 (enqueueDevice_spec.2 h))⟩
    rw [hmem, enqueueDevice_spec.1, enqueueDevice_spec.1, List.exists_mem_cons_iff]
    constructor
    · rintro (((hy | ⟨rfl, hnone, hids⟩) | ⟨rfl, hnone, hids⟩) | ⟨hnone, hids, hlink⟩)
      · exact .inl hy
      · exact .inr ⟨hnone, hids, .inl (.inl rfl)⟩
      · exact .inr ⟨hnone, hids, .inl (.inr rfl)⟩
      · exact .inr ⟨hnone, hids, .inr hlink⟩
    · rintro (hy | ⟨hnone, hids, (rfl | rfl) | hlink⟩)
      · exact .inl (.inl (.inl hy))
      · exact .inl (.inl (.inr ⟨rfl, hnone, hids⟩))
      · exact .inl (.inr ⟨rfl, hnone, hids⟩)
      · exact .inr ⟨hnone, hids, hlink⟩

theorem MapTopology.Adjacent.hasDevice {x y : ℤ} (hadjacent : topology.Adjacent x y)
    (h : NetworkWellFormed topology) : topology.HasDevice y := by
  obtain ⟨link, hlink, i, j, hconnects⟩ := hadjacent
  obtain ⟨hs, hd, -⟩ := h.ends link hlink
  rcases hconnects with ⟨-, -, rfl, -⟩ | ⟨rfl, -⟩
  · exact hd
  · exact hs

/-- Whoever is adjacent is at the other end of a link at the device. -/
theorem adjacent_iff (h : NetworkWellFormed topology) {x y : ℤ} : topology.Adjacent x y ↔
    y ≠ x ∧ ∃ link ∈ (deviceLinksMap topology).value x,
      link.destinationDeviceId = y ∨ link.sourceDeviceId = y := by
  constructor
  · rintro ⟨link, hlink, i, j, hconnects⟩
    obtain ⟨-, -, hapart⟩ := h.ends link hlink
    rcases hconnects with ⟨hs, -, hd, -⟩ | ⟨hs, -, hd, -⟩
    · exact ⟨fun he => hapart (by rw [hs, hd, he]), link,
        (mem_deviceLinksMap h.ports).2 ⟨hlink, .inr hs⟩, .inl hd⟩
    · exact ⟨fun he => hapart (by rw [hs, hd, he]), link,
        (mem_deviceLinksMap h.ports).2 ⟨hlink, .inl hd⟩, .inr hs⟩
  · rintro ⟨hne, link, hlink, hend⟩
    obtain ⟨hmem, hat⟩ := (mem_deviceLinksMap h.ports).1 hlink
    refine ⟨link, hmem, ?_⟩
    rcases hat with hd | hs
    · rcases hend with hd' | hs'
      · exact absurd (hd'.symm.trans hd) hne
      · exact ⟨_, _, .inr ⟨hs', rfl, hd, rfl⟩⟩
    · rcases hend with hd' | hs'
      · exact ⟨_, _, .inl ⟨hs, rfl, hd', rfl⟩⟩
      · exact absurd (hs'.symm.trans hs) hne

/-- **The search at the head of its loop**, with the devices that are finished. -/
structure CopyInv (input : MappingInput) (copy : ℤ → ℤ) (done : Finset ℤ) (s : MappingSearch) :
    Prop where
  copied : AllCopied input copy s
  mapped : ∀ y, y ∈ s.onlineMapped ↔ ∃ x ∈ done, copy x = y
  found : ∀ x ∈ done, copy x ∈ s.foundOnline
  finished : ∀ x ∈ done, HasResult s x
  split : ∀ x, HasResult s x → x ∈ done ∨ x ∈ s.queue
  closed : ∀ x ∈ done, ∀ y, input.offline.Adjacent x y → HasResult s y
  waiting : ∀ x ∈ s.queue, input.offline.HasDevice x ∧ x ∉ done
  nodup : s.queue.Nodup
  source : (s.results = ∅ ∧ s.onlineDeviceId = copy input.offline.sourceDeviceId ∧
      s.queue = [input.offline.sourceDeviceId] ∧ done = ∅) ∨
    (input.offline.sourceDeviceId ∈ done ∧ ∀ x ∈ s.queue, HasResult s x)

theorem CopyInv.init (h : ExactCopy input copy) : CopyInv input copy ∅ (initialSearch input) := by
  have hqueue : (initialSearch input).queue = [input.offline.sourceDeviceId] := by
    obtain ⟨device, hdev, hid⟩ := h.source
    exact if_pos (QSet.contains_iff_mem.2 (mem_offlineMappingDeviceSet.2
      ⟨device, hdev, hid, h.moxa device hdev⟩))
  refine ⟨fun x item hx => by simp [initialSearch] at hx, fun y => by simp [initialSearch],
    by simp, by simp, fun x hx => ?_, by simp, fun x hx => ?_, ?_,
    .inl ⟨rfl, h.onlineSource, hqueue, rfl⟩⟩
  · obtain ⟨item, hitem⟩ := hx
    simp [initialSearch] at hitem
  · rw [hqueue, List.mem_singleton] at hx
    exact ⟨hx ▸ h.source, notMem_empty x⟩
  · rw [hqueue]
    exact List.nodup_singleton _

/-- The partner of a dequeued device is its copy. -/
theorem CopyInv.dequeuedPartner (h : ExactCopy input copy) {done : Finset ℤ} {x : ℤ}
    {queue : List ℤ} (hinv : CopyInv input copy done s) (hqueue : s.queue = x :: queue) :
    dequeuedPartner input s x = some (copy x) := by
  obtain ⟨hx, hxdone⟩ := hinv.waiting x (by simp [hqueue])
  unfold TopologyMapping.dequeuedPartner
  rcases hinv.source with ⟨-, hon, hone, -⟩ | ⟨hsrc, hwaiting⟩
  · rw [hqueue] at hone
    obtain ⟨rfl, -⟩ := List.cons.inj hone
    rw [if_pos rfl, hon]
  · rw [if_neg fun he => hxdone (by rw [he]; exact hsrc)]
    obtain ⟨item, hitem⟩ := hwaiting x (by simp [hqueue])
    rw [hitem]
    dsimp only
    rw [(hinv.copied x item hitem).onlineId, if_neg]
    intro hc
    simp only [Bool.or_eq_true, decide_eq_true_eq, QSet.contains_iff_mem] at hc
    rcases hc with hc | hc
    · exact h.named _ ((h.surjective _).2 ⟨x, hx, rfl⟩) hc
    · obtain ⟨y, hy, he⟩ := (hinv.mapped _).1 hc
      obtain ⟨yItem, hyItem⟩ := hinv.finished y hy
      exact hxdone (h.injective y x (hinv.copied y yItem hyItem).designed hx he ▸ hy)

theorem not_hasResult_iff {x : ℤ} : ¬HasResult s x ↔ s.results[x]? = none := by
  unfold HasResult
  cases s.results[x]? <;> simp

/-- **The dequeued pair is entered**: the device has its copy, and its neighbors without a
result wait. -/
theorem CopyInv.enter (h : ExactCopy input copy) {done : Finset ℤ} {x : ℤ} {queue : List ℤ}
    {pair : MappingPair} (hinv : CopyInv input copy done s) (hqueue : s.queue = x :: queue)
    (hpair : CopyPair input copy x pair) :
    let r := enterPair input pair { s with queue := queue, onlineDeviceId := copy x }
    AllCopied input copy r ∧ (∀ y, HasResult r y ↔ HasResult s y ∨ y = x) ∧
      (∀ y, y ∈ r.queue ↔ y ∈ queue ∨ (¬HasResult r y ∧ input.offline.Adjacent x y)) ∧
      r.queue.Nodup ∧ (∀ y, y ∈ r.onlineMapped ↔ y ∈ s.onlineMapped ∨ y = copy x) ∧
      copy x ∈ r.foundOnline ∧ ∀ y ∈ s.foundOnline, y ∈ r.foundOnline := by
  obtain ⟨hx, -⟩ := hinv.waiting x (by simp [hqueue])
  have hnodup := hinv.nodup
  rw [hqueue] at hnodup
  unfold enterPair
  dsimp only
  rw [hpair.offlineDeviceId, hpair.onlineDeviceId]
  -- the state once the device has its result
  obtain ⟨t, ht, hall, hress, htqueue, htmapped, htfound⟩ : ∃ t : MappingSearch,
      (if s.results.contains x = true then ({ s with
          queue := queue, onlineDeviceId := copy x
          foundOnline := QSet.insert s.foundOnline (copy x)
          onlineMapped := QSet.insert s.onlineMapped (copy x) } : MappingSearch)
        else checkDevice pair.offline pair.online pair.builtInPower { s with
          queue := queue, onlineDeviceId := copy x
          foundOnline := QSet.insert s.foundOnline (copy x)
          onlineMapped := QSet.insert s.onlineMapped (copy x) }) = t ∧
      AllCopied input copy t ∧ (∀ y, HasResult t y ↔ HasResult s y ∨ y = x) ∧ t.queue = queue ∧
      t.onlineMapped = QSet.insert s.onlineMapped (copy x) ∧
      t.foundOnline = QSet.insert s.foundOnline (copy x) := by
    cases hres : s.results[x]? with
    | some item =>
      rw [if_pos (by simp [contains_eq_isSome_getElem?, hres])]
      refine ⟨_, rfl, hinv.copied, fun y => ⟨.inl, fun hy => hy.elim (fun hy => hy) ?_⟩, rfl, rfl,
        rfl⟩
      rintro rfl
      exact ⟨item, hres⟩
    | none =>
      rw [if_neg (by simp [contains_eq_isSome_getElem?, hres])]
      obtain ⟨hall, hress, hq, hm, hf⟩ := @CopyPair.checkDevice input copy { s with
        queue := queue, onlineDeviceId := copy x
        foundOnline := QSet.insert s.foundOnline (copy x)
        onlineMapped := QSet.insert s.onlineMapped (copy x) } x pair hpair hx hinv.copied hres
      exact ⟨_, rfl, hall, hress, hq, hm, hf⟩
  rw [ht]
  obtain ⟨hmem, hkeep⟩ := @enqueueNeighbors_spec (offlineMappingDeviceSet input.offline) t.results
    ((deviceLinksMap input.offline).value x) t.queue
  refine ⟨hall, hress, fun y => ?_, hkeep (htqueue ▸ hnodup.of_cons), fun y => ?_, ?_,
    fun y hy => ?_⟩
  · rw [hmem, htqueue]
    refine or_congr_right ?_
    show _ ↔ ¬HasResult t y ∧ _
    rw [not_hasResult_iff, adjacent_iff h.offline]
    constructor
    · rintro ⟨hnone, -, hlink⟩
      refine ⟨hnone, ?_, hlink⟩
      rintro rfl
      exact not_hasResult_iff.2 hnone ((hress y).2 (.inr rfl))
    · rintro ⟨hnone, -, link, hlink, hend⟩
      refine ⟨hnone, ?_, link, hlink, hend⟩
      obtain ⟨hs, hd, -⟩ := h.offline.ends link ((mem_deviceLinksMap h.offline.ports).1 hlink).1
      obtain ⟨device, hdev, hid⟩ : input.offline.HasDevice y :=
        hend.elim (fun he => he ▸ hd) fun he => he ▸ hs
      exact mem_offlineMappingDeviceSet.2 ⟨device, hdev, hid, h.moxa device hdev⟩
  · show y ∈ t.onlineMapped ↔ _
    rw [htmapped, QSet.mem_insert]
  · show copy x ∈ t.foundOnline
    rw [htfound]
    exact QSet.mem_insert.2 (.inr rfl)
  · show y ∈ t.foundOnline
    rw [htfound]
    exact QSet.mem_insert.2 (.inl hy)

/-- **The ports of a device**, one after the other: every neighbor gets its copy. -/
theorem ExactCopy.checkPorts (h : ExactCopy input copy) {x : ℤ} {pair : MappingPair}
    (hx : input.offline.HasDevice x) (hall : AllCopied input copy s)
    (hmap : ∀ y, input.offline.HasDevice y → copy y ∈ s.onlineMapped → HasResult s y) :
    ∃ s', (offlineLeaveMap input x).keys.foldlM
        (TopologyMapping.checkPort input pair (offlineLeaveMap input x)
          (onlineLeaveMap input (copy x))) s = .ok s' ∧ AllCopied input copy s' ∧
      (∀ y, HasResult s' y ↔ HasResult s y ∨ input.offline.Adjacent x y) ∧
      s'.queue = s.queue ∧ s'.onlineMapped = s.onlineMapped ∧
      ∀ y ∈ s.foundOnline, y ∈ s'.foundOnline := by
  obtain ⟨s', hports, hall', honly, ⟨hgrow, hassigned⟩, hrest⟩ :
      ∃ s', (offlineLeaveMap input x).keys.foldlM
          (TopologyMapping.checkPort input pair (offlineLeaveMap input x)
            (onlineLeaveMap input (copy x))) s = .ok s' ∧ AllCopied input copy s' ∧
        (∀ y, HasResult s' y → HasResult s y ∨ input.offline.Adjacent x y) ∧
        ((∀ y, HasResult s y → HasResult s' y) ∧
          ∀ i ∈ (offlineLeaveMap input x).keys, ∀ b, (offlineLeaveMap input x)[i]? = some b →
            HasResult s' b) ∧
        s'.queue = s.queue ∧ s'.onlineMapped = s.onlineMapped ∧
        ∀ y ∈ s.foundOnline, y ∈ s'.foundOnline := by
    refine ExceptRule.exists_foldlM (I := fun passed t => AllCopied input copy t ∧
      (∀ y, HasResult t y → HasResult s y ∨ input.offline.Adjacent x y) ∧
      ((∀ y, HasResult s y → HasResult t y) ∧ ∀ i ∈ passed, ∀ b,
        (offlineLeaveMap input x)[i]? = some b → HasResult t b) ∧
      t.queue = s.queue ∧ t.onlineMapped = s.onlineMapped ∧
      ∀ y ∈ s.foundOnline, y ∈ t.foundOnline) ?_ ?_
    · exact ⟨hall, fun y hy => .inl hy, ⟨fun y hy => hy, fun i hi => absurd hi List.not_mem_nil⟩,
        rfl, rfl, fun y hy => hy⟩
    · rintro passed i t hi ⟨hallt, honly, ⟨hgrow, hpast⟩, hqt, hmt, hft⟩
      obtain ⟨b, hb⟩ := mem_keys_iff.1 hi
      obtain ⟨hadjacent, -⟩ := h.leave hx hb
      obtain ⟨t', ht', hallt', hresultst', hqt', hmt', hft'⟩ :=
        @ExactCopy.checkPort input copy t h x i b pair hx hb hallt fun y hy hmem =>
          hgrow y (hmap y hy (hmt ▸ hmem))
      refine ⟨t', ht', hallt', fun y hy => ?_, ⟨fun y hy => (hresultst' y).2 (.inl (hgrow y hy)),
        fun j hj c hc => ?_⟩, hqt'.trans hqt, hmt'.trans hmt, fun y hy => hft' y (hft y hy)⟩
      · rcases (hresultst' y).1 hy with hy | rfl
        · exact honly y hy
        · exact .inr hadjacent
      · rcases List.mem_append.1 hj with hj | hj
        · exact (hresultst' c).2 (.inl (hpast j hj c hc))
        · obtain rfl := List.mem_singleton.1 hj
          rw [hb] at hc
          exact (hresultst' c).2 (.inr (Option.some.inj hc).symm)
  refine ⟨s', hports, hall', fun y => ⟨honly y, fun hy => hy.elim (hgrow y) ?_⟩, hrest⟩
  rintro ⟨link, hlink, i, j, hconnects⟩
  have hleave : (offlineLeaveMap input x)[i]? = some y :=
    (leaveMap_eq_some h.offline fun _ z hz => by
      obtain ⟨device, hdev, hid⟩ := hz
      exact mem_offlineMappingDeviceSet.2 ⟨device, hdev, hid, h.moxa device hdev⟩).2
        ⟨link, hlink, j, hconnects⟩
  exact hassigned i (mem_keys_iff.2 ⟨y, hleave⟩) y hleave

/-- **One round**: the device at the head of the queue is finished. -/
theorem CopyInv.round (h : ExactCopy input copy) {done : Finset ℤ} {x : ℤ} {queue : List ℤ}
    (hinv : CopyInv input copy done s) (hqueue : s.queue = x :: queue) :
    ∃ s', mappingRound input s = .next s' ∧ CopyInv input copy (insert x done) s' := by
  obtain ⟨hx, hxdone⟩ := hinv.waiting x (by simp [hqueue])
  obtain ⟨pair, hpair⟩ := h.exists_pair hx
  have hnodup := hinv.nodup
  rw [hqueue] at hnodup
  obtain ⟨hall, hress, hwaits, hrnodup, hmap, hfound, hkeepFound⟩ :=
    hinv.enter h hqueue hpair
  generalize henter : enterPair input pair { s with queue := queue, onlineDeviceId := copy x } = r
    at hall hress hwaits hrnodup hmap hfound hkeepFound
  -- whatever is mapped has its result already
  obtain ⟨s', hports, hall', hress', hqueue', hmap', hfound'⟩ :=
    @ExactCopy.checkPorts input copy r h x pair hx hall fun y hy hmem => by
      refine (hress y).2 ?_
      rcases (hmap _).1 hmem with hmem | he
      · obtain ⟨z, hz, he⟩ := (hinv.mapped _).1 hmem
        obtain ⟨item, hitem⟩ := hinv.finished z hz
        obtain rfl := h.injective z y (hinv.copied z item hitem).designed hy he
        exact .inl ⟨item, hitem⟩
      · exact .inr (h.injective y x hy hx he)
  have hgrow : ∀ y, HasResult r y → HasResult s' y := fun y hy => (hress' y).2 (.inl hy)
  have hnbrs : ∀ y, input.offline.Adjacent x y → HasResult s' y := fun y hy =>
    (hress' y).2 (.inr hy)
  have hmono : ∀ y, HasResult s y → HasResult s' y := fun y hy => hgrow y ((hress y).2 (.inl hy))
  refine ⟨s', ?_, hall', fun y => ?_, fun y hy => ?_, fun y hy => ?_, fun y hy => ?_,
    fun y hy z hz => ?_, fun y hy => ?_, ?_, .inr ?_⟩
  · have hon : input.online.devices.isEmpty = false := by
      obtain ⟨online, hon, -⟩ := (h.surjective (copy x)).2 ⟨x, hx, rfl⟩
      cases hdevs : input.online.devices with
      | nil =>
        rw [hdevs] at hon
        cases hon
      | cons _ _ => rfl
    unfold mappingRound
    rw [hqueue]
    dsimp only
    rw [if_neg (by simp [hon]), hinv.dequeuedPartner h hqueue]
    dsimp only
    unfold visitDevice
    rw [hpair.findPair]
    dsimp only
    rw [henter, hports]
  · rw [hmap', hmap, hinv.mapped]
    constructor
    · rintro (⟨z, hz, rfl⟩ | rfl)
      · exact ⟨z, mem_insert_of_mem hz, rfl⟩
      · exact ⟨x, mem_insert_self x done, rfl⟩
    · rintro ⟨z, hz, rfl⟩
      rcases mem_insert.1 hz with rfl | hz
      · exact .inr rfl
      · exact .inl ⟨z, hz, rfl⟩
  · rcases mem_insert.1 hy with rfl | hy
    · exact hfound' _ hfound
    · exact hfound' _ (hkeepFound _ (hinv.found y hy))
  · rcases mem_insert.1 hy with rfl | hy
    · exact hgrow _ ((hress _).2 (.inr rfl))
    · exact hmono y (hinv.finished y hy)
  · by_cases hr : HasResult r y
    · rcases (hress y).1 hr with hs | rfl
      · rcases hinv.split y hs with hdone | hwait
        · exact .inl (mem_insert_of_mem hdone)
        · rw [hqueue] at hwait
          rcases List.mem_cons.1 hwait with rfl | hwait
          · exact .inl (mem_insert_self y done)
          · exact .inr (hqueue' ▸ (hwaits y).2 (.inl hwait))
      · exact .inl (mem_insert_self y done)
    · exact .inr (hqueue' ▸ (hwaits y).2 (.inr ⟨hr, ((hress' y).1 hy).resolve_left hr⟩))
  · rcases mem_insert.1 hy with rfl | hy
    · exact hnbrs z hz
    · exact hmono z (hinv.closed y hy z hz)
  · rw [hqueue'] at hy
    rcases (hwaits y).1 hy with hwait | ⟨hr, hadjacent⟩
    · obtain ⟨hydevice, hydone⟩ := hinv.waiting y (by simp [hqueue, hwait])
      refine ⟨hydevice, fun hmem => ?_⟩
      rcases mem_insert.1 hmem with rfl | hmem
      · exact (List.nodup_cons.1 hnodup).1 hwait
      · exact hydone hmem
    · refine ⟨hadjacent.hasDevice h.offline, fun hmem => hr ?_⟩
      rcases mem_insert.1 hmem with rfl | hmem
      · exact (hress _).2 (.inr rfl)
      · exact (hress y).2 (.inl (hinv.finished y hmem))
  · rw [hqueue']
    exact hrnodup
  · constructor
    · rcases hinv.source with ⟨-, -, hone, -⟩ | ⟨hsrc, -⟩
      · rw [hqueue] at hone
        obtain ⟨rfl, -⟩ := List.cons.inj hone
        exact mem_insert_self _ done
      · exact mem_insert_of_mem hsrc
    · intro y hy
      rw [hqueue'] at hy
      rcases (hwaits y).1 hy with hwait | ⟨-, hadjacent⟩
      · rcases hinv.source with ⟨-, -, hone, -⟩ | ⟨-, hwaiting⟩
        · rw [hqueue] at hone
          obtain ⟨-, rfl⟩ := List.cons.inj hone
          cases hwait
        · exact hmono y (hwaiting y (by simp [hqueue, hwait]))
      · exact hnbrs y hadjacent

/-! ### The report -/

/-- Every result is in the report, under some number. -/
theorem exists_mem_offlineItems {results : QMap ℤ MapDeviceResultItem}
    {result : MapDeviceResultItem} (h : result ∈ results.vals) :
    ∃ n, ({ result with id := n } : MapDeviceResultItem) ∈ offlineItems results := by
  unfold offlineItems
  suffices hall : ∀ l : List MapDeviceResultItem, ∀ report,
      (∀ item ∈ report, item ∈ l.foldl (fun report (item : MapDeviceResultItem) =>
        report ++ [{ item with id := (report.length : ℤ) + 1 }]) report) ∧
      (result ∈ l → ∃ n, ({ result with id := n } : MapDeviceResultItem) ∈
        l.foldl (fun report (item : MapDeviceResultItem) =>
          report ++ [{ item with id := (report.length : ℤ) + 1 }]) report) from
    (hall results.vals []).2 h
  intro l
  induction l with
  | nil => exact fun report => ⟨fun item hitem => hitem, fun hmem => absurd hmem List.not_mem_nil⟩
  | cons head l ih =>
    intro report
    rw [List.foldl_cons]
    obtain ⟨hkeep, hex⟩ := ih (report ++ [{ head with id := (report.length : ℤ) + 1 }])
    refine ⟨fun item hitem => hkeep item (List.mem_append_left _ hitem), fun hmem => ?_⟩
    rcases List.mem_cons.1 hmem with rfl | hmem
    · exact ⟨_, hkeep _ (List.mem_append_right _ (List.mem_singleton_self _))⟩
    · exact hex hmem

/-- Nothing joins the report when every online device was found. -/
theorem appendUnfound_of_found {online : MapTopology} {foundOnline : QSet ℤ} {canDeploy : Bool}
    {offlineIps checkedIps : List String} {report : List MapDeviceResultItem}
    (h : ∀ device ∈ online.devices, device.id ∈ foundOnline) :
    appendUnfound online foundOnline canDeploy offlineIps checkedIps report = report := by
  unfold appendUnfound
  revert h
  generalize online.devices = devices
  induction devices with
  | nil => exact fun _ => rfl
  | cons device devices ih =>
    intro h
    rw [List.foldl_cons, if_pos (QSet.contains_iff_mem.2 (h device List.mem_cons_self))]
    exact ih fun device hdev => h device (List.mem_cons_of_mem _ hdev)

/-- **The report of results that are all copies.** -/
theorem report_of_allCopied (formats : NumberFormats) (hall : AllCopied input copy s)
    (hress : ∀ x, input.offline.HasDevice x → HasResult s x)
    (hfound : ∀ device ∈ input.online.devices, device.id ∈ s.foundOnline) :
    let result := generateTopologyMappingResult formats (finishResults input s) s.foundOnline []
      input.online
    result.deploy = true ∧
      (∀ x, input.offline.HasDevice x →
        ∃ item ∈ result.mappingReport, Copied input copy x item) ∧
      ∀ item ∈ result.mappingReport, Copied input copy item.offlineDeviceId item := by
  -- a warning is for a failed device only
  have hfin : ∀ x : ℤ, ∀ item, (finishResults input s)[x]? = some item ↔
      s.results[x]? = some item := by
    intro x item
    rw [finishResults_eq_some]
    have hsame : ∀ result, s.results[x]? = some result →
        updateWarning input s.notFoundPort result = result := by
      intro result hres
      refine if_neg fun hc => ?_
      rw [(hall x result hres).status] at hc
      exact absurd hc.1 (by decide)
    constructor
    · rintro (⟨result, hres, rfl⟩ | ⟨hnone, hfind⟩)
      · rw [hsame result hres]
        exact hres
      · obtain ⟨device, hdev, -⟩ := Option.map_eq_some_iff.1 hfind
        have hid := List.find?_some hdev
        obtain ⟨item, hitem⟩ :=
          hress x ⟨device, List.mem_of_find?_eq_some hdev, by simpa using hid⟩
        rw [hnone] at hitem
        cases hitem
    · exact fun hitem => .inl ⟨item, hitem, (hsame item hitem).symm⟩
  have hreport : ∀ item, item ∈ (generateTopologyMappingResult formats (finishResults input s)
      s.foundOnline [] input.online).mappingReport ↔
        item ∈ offlineItems (finishResults input s) := by
    intro item
    unfold generateTopologyMappingResult
    dsimp only
    rw [mem_sortReport, appendUnfound_of_found hfound]
  have hcopied : ∀ item ∈ (generateTopologyMappingResult formats (finishResults input s)
      s.foundOnline [] input.online).mappingReport,
        Copied input copy item.offlineDeviceId item := by
    intro item hitem
    obtain ⟨result, hres, n, rfl⟩ := mem_offlineItems ((hreport item).1 hitem)
    obtain ⟨x, hx⟩ := mem_vals.1 hres
    obtain ⟨hdesigned, rfl, hon, hst⟩ := hall x result ((hfin x result).1 hx)
    exact ⟨hdesigned, rfl, hon, hst⟩
  refine ⟨?_, fun x hx => ?_, hcopied⟩
  · show (!List.any (generateTopologyMappingResult formats (finishResults input s) s.foundOnline []
      input.online).mappingReport (·.blocksDeploy)) = true
    rw [Bool.not_eq_true', List.any_eq_false]
    intro item hitem
    unfold MapDeviceResultItem.blocksDeploy
    simp [(hcopied item hitem).status]
  · obtain ⟨item, hitem⟩ := hress x hx
    obtain ⟨n, hmem⟩ := exists_mem_offlineItems (mem_vals.2 ⟨x, (hfin x item).2 hitem⟩)
    obtain ⟨hdesigned, hoff, hon, hst⟩ := hall x item hitem
    exact ⟨_, (hreport _).2 hmem, hdesigned, hoff, hon, hst⟩

/-- When nothing waits any more, every device is finished. -/
theorem CopyInv.mem_done (h : ExactCopy input copy) {done : Finset ℤ}
    (hinv : CopyInv input copy done s) (hqueue : s.queue = []) {x : ℤ}
    (hx : input.offline.HasDevice x) : x ∈ done := by
  have hsrc : input.offline.sourceDeviceId ∈ done := by
    rcases hinv.source with ⟨-, -, hone, -⟩ | ⟨hsrc, -⟩
    · rw [hqueue] at hone
      cases hone
    · exact hsrc
  have hreach := h.connected x hx
  induction hreach with
  | refl => exact hsrc
  | tail hbefore hadjacent ih =>
    rename_i y z
    obtain ⟨link, hlink, i, j, hconnects⟩ := hadjacent
    have hy : input.offline.HasDevice y :=
      MapTopology.Adjacent.hasDevice ⟨link, hlink, j, i, hconnects.symm⟩ h.offline
    have hres := hinv.closed y (ih hy) z ⟨link, hlink, i, j, hconnects⟩
    refine (hinv.split z hres).resolve_right ?_
    rw [hqueue]
    exact List.not_mem_nil

/-- The designed devices whose copies are not mapped yet. -/
def unmapped (input : MappingInput) (copy : ℤ → ℤ) (s : MappingSearch) : Finset ℤ :=
  (input.offline.devices.map (·.id)).toFinset.filter fun x => copy x ∉ s.onlineMapped

/-- **`MappingTopology` finds an exact copy**: the run ends with success, the design may be
deployed, and every designed device is reported with its copy, and nothing else is. -/
theorem mappingTopology_exactCopy (h : ExactCopy input copy) (formats : NumberFormats) {fuel : ℕ}
    (hfuel : input.offline.devices.length < fuel) :
    ∃ result, mappingTopology formats fuel input = some (.success, result) ∧
      result.deploy = true ∧
      (∀ x, input.offline.HasDevice x →
        ∃ item ∈ result.mappingReport, Copied input copy x item) ∧
      ∀ item ∈ result.mappingReport, Copied input copy item.offlineDeviceId item := by
  have hround : ∀ s, (∃ done, CopyInv input copy done s) →
      (∃ r, mappingRound input s = .done r) ∨
      ∃ u, mappingRound input s = .next u ∧ (∃ done, CopyInv input copy done u) ∧
        (unmapped input copy u).card < (unmapped input copy s).card := by
    rintro s ⟨done, hinv⟩
    cases hqueue : s.queue with
    | nil =>
      refine .inl ⟨.ok s, ?_⟩
      unfold mappingRound
      rw [hqueue]
    | cons x queue =>
      obtain ⟨u, hnext, hinv'⟩ := hinv.round h hqueue
      refine .inr ⟨u, hnext, ⟨_, hinv'⟩, card_lt_card ⟨fun y hy => ?_, fun hsub => ?_⟩⟩
      · obtain ⟨hmem, hnot⟩ := mem_filter.1 hy
        refine mem_filter.2 ⟨hmem, fun hmap => hnot ?_⟩
        obtain ⟨z, hz, he⟩ := (hinv.mapped _).1 hmap
        exact (hinv'.mapped _).2 ⟨z, mem_insert_of_mem hz, he⟩
      · obtain ⟨hx, hxdone⟩ := hinv.waiting x (by simp [hqueue])
        obtain ⟨device, hdev, hid⟩ := id hx
        have hout : x ∈ unmapped input copy s := by
          refine mem_filter.2
            ⟨List.mem_toFinset.2 (List.mem_map.2 ⟨device, hdev, hid⟩), fun hmap => hxdone ?_⟩
          obtain ⟨z, hz, he⟩ := (hinv.mapped _).1 hmap
          obtain ⟨item, hitem⟩ := hinv.finished z hz
          exact h.injective z x (hinv.copied z item hitem).designed hx he ▸ hz
        exact (mem_filter.1 (hsub hout)).2
          ((hinv'.mapped _).2 ⟨x, mem_insert_self x done, rfl⟩)
  have hbound : (unmapped input copy (initialSearch input)).card < fuel := by
    have hfilter : (unmapped input copy (initialSearch input)).card ≤
        (input.offline.devices.map (·.id)).toFinset.card := card_filter_le _ _
    have hlen : (input.offline.devices.map (·.id)).toFinset.card ≤
        (input.offline.devices.map (·.id)).length := List.toFinset_card_le _
    rw [List.length_map] at hlen
    omega
  obtain ⟨r, s, hrun, ⟨done, hinv⟩, hdone⟩ := Loop.exists_run_done
    (fun s => (unmapped input copy s).card) ⟨∅, CopyInv.init h⟩ hround hbound
  have hqueue : s.queue = [] := by
    cases hqueue : s.queue with
    | nil => rfl
    | cons x queue =>
      obtain ⟨u, hnext, -⟩ := hinv.round h hqueue
      rw [hnext] at hdone
      cases hdone
  obtain rfl : r = .ok s := by
    unfold mappingRound at hdone
    rw [hqueue] at hdone
    cases hdone
    rfl
  refine ⟨_, ?_, report_of_allCopied formats hinv.copied
    (fun x hx => hinv.finished x (hinv.mem_done h hqueue hx)) fun online hon => ?_⟩
  · unfold mappingTopology
    rw [hrun]
    rfl
  · obtain ⟨x, hx, hcopy⟩ := (h.surjective online.id).1 ⟨online, hon, rfl⟩
    exact hcopy ▸ hinv.found x (hinv.mem_done h hqueue hx)

theorem hasDevice_builtAsDesigned {x : ℤ} : (builtAsDesigned.offline.HasDevice x ↔ x = 1 ∨ x = 2) ∧
      (builtAsDesigned.online.HasDevice x ↔ x = 11 ∨ x = 12) := by
  unfold MapTopology.HasDevice builtAsDesigned moxaSwitch
  simp [eq_comm]

/-- Two switches and a cable between them, built as they are designed. -/
theorem exactCopy_builtAsDesigned : ExactCopy builtAsDesigned (· + 10) where
  offline := ⟨by unfold builtAsDesigned; decide, by unfold Addressed builtAsDesigned; decide,
    by unfold QSet.Distinct builtAsDesigned; decide,
    by unfold MapTopology.HasDevice builtAsDesigned; decide⟩
  online := ⟨by unfold builtAsDesigned; decide, by unfold Addressed builtAsDesigned; decide,
    by unfold QSet.Distinct builtAsDesigned; decide,
    by unfold MapTopology.HasDevice builtAsDesigned; decide⟩
  moxa := by unfold builtAsDesigned; decide
  source := by unfold MapTopology.HasDevice builtAsDesigned; decide
  connected := by
    intro x hx
    rcases hasDevice_builtAsDesigned.1.1 hx with rfl | rfl
    · exact .refl
    · refine .single ⟨_, List.mem_singleton_self _, 1, 1, .inl ⟨rfl, rfl, rfl, rfl⟩⟩
  injective x y _ _ h := by
    have he : x + 10 = y + 10 := h
    omega
  surjective y := by
    simp only [hasDevice_builtAsDesigned]
    constructor
    · rintro (rfl | rfl)
      · exact ⟨1, .inl rfl, rfl⟩
      · exact ⟨2, .inr rfl, rfl⟩
    · rintro ⟨x, rfl | rfl, rfl⟩
      · exact .inl rfl
      · exact .inr rfl
  named y hy := by
    rcases hasDevice_builtAsDesigned.2.1 hy with rfl | rfl <;> decide
  devices := by unfold builtAsDesigned; decide
  profiles := by
    intro online hon
    have hid : online.deviceProfileId = 1 := by
      revert online
      unfold builtAsDesigned
      decide
    rw [hid]
    exact ⟨_, rfl⟩
  onlineSource := rfl
  links a i b j _ _ := by
    unfold builtAsDesigned Connects
    simp only [List.exists_mem_cons_iff, List.not_mem_nil, false_and, exists_false, or_false]
    omega

/-- What `MappingTopology` reports of the two switches, in three rounds. -/
theorem mappingTopology_builtAsDesigned : ExactCopy builtAsDesigned (· + 10) ∧
    ∃ result, mappingTopology ⟨fun _ => 0, fun _ => none⟩ 3 builtAsDesigned =
      some (.success, result) ∧ result.deploy = true ∧
      (∀ x, builtAsDesigned.offline.HasDevice x →
        ∃ item ∈ result.mappingReport, Copied builtAsDesigned (· + 10) x item) ∧
      ∀ item ∈ result.mappingReport,
        Copied builtAsDesigned (· + 10) item.offlineDeviceId item :=
  ⟨exactCopy_builtAsDesigned, mappingTopology_exactCopy exactCopy_builtAsDesigned _ (by decide)⟩

end TopologyMapping
end Sebastian

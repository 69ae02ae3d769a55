/-
# Comparing the topology with the project

`topology/compare/src/act_compare.cpp`: `CheckTopologyConsistent` asks every compared device for
its LLDP data, collects the links they report, and looks for every link of the project among them.
What is found is taken out; the project links that were not found and the reported links that
remain are the inconsistent ones.

A cable is a link without its id and its direction (`Link.cable`).  It is reported from one side or
from both, and the first report of it is the one that is kept (`South.foldl`).  Since no reported
link has both ends on one device, the test of the direction by the source device alone is right
(`linkCheckPass_iff`), and the comparison is exact (`checkTopologyConsistent_exact`).
-/

import Mathlib.Data.Sym.Sym2
import Sebastian.Core.Link
import Sebastian.Topology.LldpLinks

namespace Sebastian
namespace CompareTopology

open Southbound List QSet

/-! ### The comparison -/

/-- The members of `ActCompare` that the comparison of the topology uses. -/
structure ActCompare where
  stopFlag : Bool := false
  compareDevices : QMap ℤ LldpDevice := ∅
  compareLinks : QMap ℤ Link := ∅

/-- What the devices answer: `GetIpMacTable`, and the LLDP data that a device holds after
`AssignDeviceLldpData`. -/
structure DeviceAnswers where
  ipMacTable : Except Status (QMap String String)
  lldpData : LldpDevice → Except Status LldpData

/-- How `CheckTopologyConsistent` fails. -/
inductive CompareFault where
  | status (status : Status)
  | stop
  | compareTopologyFailed (notFoundLinks extraLinks : QSet String)

/-- `CheckDeviceCanBeDeploy` -/
def checkDeviceCanBeDeploy (device : Device) : Bool :=
  match device.deviceType with
  | .tsnSwitch | .switch | .bridgedEndStation | .moxa => true
  | _ => false

/-- `CheckLinkDevicesAreComparedDevice` -/
def checkLinkDevicesAreComparedDevice (devices : QMap ℤ LldpDevice) (link : Link) : Bool :=
  devices.contains link.sourceDeviceId && devices.contains link.destinationDeviceId

/-- The loop of `GenerateCompareDevicesAndLinks` over the ids. -/
def compareDevices (project : Project) (stopFlag : Bool) (devIdList : List ℤ) :
    Except CompareFault (QMap ℤ LldpDevice) :=
  devIdList.foldlM (fun devices devId =>
    if stopFlag then .error .stop
    else
      match project.devices.find { id := devId } with
      | none => .error (.status (.notFound ⟨"%1", [.int devId]⟩))
      | some device =>
        .ok (if checkDeviceCanBeDeploy device then devices.insert devId { toDevice := device }
          else devices)) ∅

/-- The loop of `GenerateCompareDevicesAndLinks` over the links. -/
def compareLinks (project : Project) (devices : QMap ℤ LldpDevice) : QMap ℤ Link :=
  project.links.foldl (fun links link =>
    if checkLinkDevicesAreComparedDevice devices link then links.insert link.id link else links) ∅

/-- `GenerateCompareDevicesAndLinks` -/
def generateCompareDevicesAndLinks (project : Project) (stopFlag : Bool) (devIdList : List ℤ) :
    Except CompareFault ActCompare := do
  let devices ← compareDevices project stopFlag devIdList
  return { stopFlag, compareDevices := devices, compareLinks := compareLinks project devices }

/-- The devices with their MAC addresses and the LLDP data read from them. -/
def readDevices (answers : DeviceAnswers) (actCompare : ActCompare) :
    Except CompareFault (QMap ℤ LldpDevice) := do
  let ipMacTable ← answers.ipMacTable.mapError .status
  actCompare.compareDevices.toList.foldlM (fun devices (id, dev) => do
    let dev := { dev with macAddress := ipMacTable.value dev.ipAddress }
    let lldpData ← (answers.lldpData dev).mapError .status
    return devices.insert id { dev with lldpData }) actCompare.compareDevices

/-- A reported link comes among the others under an id of its own. -/
def insertSouthLink (links : QSet Link) (link : Link) : QSet Link :=
  links.insert { link with id := links.length + 1 }

/-- The links that the devices report. -/
def southLinks (format : IdFormat) (stopFlag : Bool) (devices : QMap ℤ LldpDevice) :
    Except CompareFault (QSet Link) :=
  devices.vals.foldlM (fun links device =>
    if stopFlag then .error .stop
    else .ok ((generateLinkSetByLldpInfo format device devices.vals).scanLinks.foldl
      (fun links link =>
        if !checkLinkDevicesAreComparedDevice devices link then links
        else insertSouthLink links link) links)) []

/-- Whether the reported link is the one of the project, by its direction. -/
def linkCheckPass (link south : Link) : Bool :=
  if link.sourceDeviceId == south.sourceDeviceId then
    link.sourceInterfaceId == south.sourceInterfaceId &&
      link.destinationDeviceId == south.destinationDeviceId &&
      link.destinationInterfaceId == south.destinationInterfaceId
  else
    link.sourceDeviceId == south.destinationDeviceId &&
      link.sourceInterfaceId == south.destinationInterfaceId &&
      link.destinationDeviceId == south.sourceDeviceId &&
      link.destinationInterfaceId == south.sourceInterfaceId

/-- The reported links that are left, and the links of the project that were not found. -/
structure Comparison where
  southLinks : QSet Link
  inconsistentLinks : QSet Link := []

/-- A round of the comparison. -/
def compareLink (stopFlag : Bool) (comparison : Comparison) (link : Link) :
    Except CompareFault Comparison :=
  let notFound : Comparison :=
    { comparison with inconsistentLinks := comparison.inconsistentLinks.insert link }
  if stopFlag then .error .stop
  else
    match comparison.southLinks.find { link with id := -1 } with
    | none => .ok notFound
    | some south =>
      if linkCheckPass link south then
        .ok { comparison with southLinks := comparison.southLinks.remove { link with id := -1 } }
      else .ok notFound

/-- `CreateLinkString` -/
def createLinkString (devices : QMap ℤ LldpDevice) (link : Link) : String :=
  (devices.value link.sourceDeviceId).ipAddress ++ "(" ++ toString link.sourceInterfaceId ++ ")-" ++
    (devices.value link.destinationDeviceId).ipAddress ++ "(" ++
    toString link.destinationInterfaceId ++ ")"

/-- The links as they are reported. -/
def linkStrings (devices : QMap ℤ LldpDevice) (links : QSet Link) : QSet String :=
  links.foldl (fun texts link => texts.insert (createLinkString devices link)) []

/-- `CheckTopologyConsistent` -/
def checkTopologyConsistent (answers : DeviceAnswers) (format : IdFormat) (actCompare :
    ActCompare) :
    Except CompareFault Unit := do
  let devices ← readDevices answers actCompare
  let south ← southLinks format actCompare.stopFlag devices
  let comparison ← actCompare.compareLinks.vals.foldlM (compareLink actCompare.stopFlag)
    { southLinks := south }
  if comparison.southLinks.isEmpty && comparison.inconsistentLinks.isEmpty then return ()
  else
    throw (.compareTopologyFailed (linkStrings devices comparison.inconsistentLinks)
      (linkStrings devices comparison.southLinks))

/-! ### Cables -/

/-- The two ports that a link joins. -/
def cable (link : Link) : Sym2 (ℤ × ℤ) :=
  s((link.sourceDeviceId, link.sourceInterfaceId),
    (link.destinationDeviceId, link.destinationInterfaceId))

/-- The links that the devices report of each other. -/
def scannedLinks (format : IdFormat) (devices : QMap ℤ LldpDevice) : List Link :=
  devices.vals.flatMap fun device =>
    (generateLinkSetByLldpInfo format device devices.vals).scanLinks.filter
      (checkLinkDevicesAreComparedDevice devices)

variable {answers : DeviceAnswers} {format : IdFormat} {actCompare : ActCompare}
  {devices : QMap ℤ LldpDevice} {link x y : Link} {south : QSet Link}

theorem hasEndpoint_iff_mem_cable {deviceId interfaceId : ℤ} :
    link.hasEndpoint deviceId interfaceId = true ↔ (deviceId, interfaceId) ∈ cable link := by
  rw [cable, Sym2.mem_iff, Link.hasEndpoint, Bool.or_eq_true, Bool.and_eq_true, Bool.and_eq_true,
    beq_iff_eq, beq_iff_eq, beq_iff_eq, beq_iff_eq, Prod.mk.injEq, Prod.mk.injEq]
  simp only [eq_comm]

theorem beq_iff : (x == y) = true ↔ x.id = y.id ∨ ∃ port, port ∈ cable x ∧ port ∈ cable y := by
  rw [Core.link_beq_iff]
  simp only [hasEndpoint_iff_mem_cable, Prod.exists]

theorem beq_of_cable_eq (h : cable x = cable y) : (x == y) = true :=
  beq_iff.2 (.inr ⟨_, Sym2.mem_mk_left _ _, h ▸ Sym2.mem_mk_left _ _⟩)

/-- **The test of the direction** is right for a reported link between two devices. -/
theorem linkCheckPass_iff {south : Link}
    (hapart : south.sourceDeviceId ≠ south.destinationDeviceId) :
    linkCheckPass link south = true ↔ cable link = cable south := by
  rw [cable, cable, Sym2.eq_iff, linkCheckPass]
  simp only [Prod.mk.injEq]
  split
  · rename_i hfwd
    rw [beq_iff_eq] at hfwd
    simp only [Bool.and_eq_true, beq_iff_eq, hfwd]
    constructor
    · rintro ⟨⟨hi, hd⟩, hi'⟩
      exact .inl ⟨⟨trivial, hi⟩, hd, hi'⟩
    · rintro (⟨⟨-, hi⟩, hd, hi'⟩ | ⟨⟨hd, -⟩, -⟩)
      · exact ⟨⟨hi, hd⟩, hi'⟩
      · exact absurd hd hapart
  · rename_i hopposite
    rw [beq_iff_eq] at hopposite
    simp only [Bool.and_eq_true, beq_iff_eq]
    constructor
    · rintro ⟨⟨⟨hd, hi⟩, hd'⟩, hi'⟩
      exact .inr ⟨⟨hd, hi⟩, hd', hi'⟩
    · rintro (⟨⟨hd, -⟩, -⟩ | ⟨⟨hd, hi⟩, hd', hi'⟩)
      · exact absurd hd hopposite
      · exact ⟨⟨⟨hd, hi⟩, hd'⟩, hi'⟩

theorem apart_of_scanned (h : link ∈ scannedLinks format devices) :
    link.sourceDeviceId ≠ link.destinationDeviceId := by
  obtain ⟨device, -, hlink⟩ := mem_flatMap.1 h
  exact (generateLinkSetByLldpInfo_joins format device devices.vals link
    (mem_of_mem_filter hlink)).apart

/-! ### Collecting the reported links -/

/-- Reported links under ids of their own, no two of which share a port. -/
structure South (scanned : List Link) (south : QSet Link) : Prop where
  distinct : south.Distinct
  id : ∀ x ∈ south, 0 < x.id ∧ x.id ≤ south.length
  scanned : ∀ x ∈ south, ∃ y ∈ scanned, x = { y with id := x.id }

/-- Every port is in at most one cable. -/
def OneCablePerPort (links : List Link) : Prop :=
  ∀ x ∈ links, ∀ y ∈ links, ∀ port, port ∈ cable x → port ∈ cable y → cable x = cable y

variable {scanned : List Link}

theorem South.cable_mem (h : South scanned south) (hx : x ∈ south) :
    ∃ y ∈ scanned, cable y = cable x := by
  obtain ⟨y, hy, heq⟩ := h.scanned x hx
  exact ⟨y, hy, by rw [heq]; rfl⟩

/-- A reported link comes among the others, or its cable is there already. -/
theorem South.insert (h : South scanned south) (hports : OneCablePerPort scanned)
    (hlink : link ∈ scanned) : South scanned (insertSouthLink south link) ∧
      (∀ x ∈ south, x ∈ insertSouthLink south link) ∧
      ∃ x ∈ insertSouthLink south link, cable x = cable link := by
  unfold insertSouthLink
  cases hc : south.contains { link with id := south.length + 1 } with
  | true =>
    rw [QSet.insert, if_pos hc]
    refine ⟨h, fun x hx => hx, ?_⟩
    obtain ⟨x, hx, hbeq⟩ := any_eq_true.1 hc
    rcases beq_iff.1 hbeq with hid | ⟨port, hport, hport'⟩
    · have hle := (h.id x hx).2
      dsimp only at hid
      omega
    · obtain ⟨y, hy, hcable⟩ := h.cable_mem hx
      exact ⟨x, hx, hcable.symm.trans (hports y hy link hlink port (hcable ▸ hport) hport')⟩
  | false =>
    have hmem := fun z => @QSet.mem_insert_of_not_contains Link _ _ _ hc z
    refine ⟨⟨h.distinct.insert _, ?_, ?_⟩, fun x hx => (hmem x).2 (.inl hx),
      ⟨_, (hmem _).2 (.inr rfl), rfl⟩⟩
    · intro x hx
      have hlen : (south.insert { link with id := south.length + 1 }).length =
          south.length + 1 := by
        rw [insert_of_not_contains hc, length_append,
          length_singleton]
      rw [hlen]
      rcases (hmem x).1 hx with hold | rfl
      · have hid := h.id x hold
        omega
      · dsimp only
        omega
    · intro x hx
      rcases (hmem x).1 hx with hold | rfl
      · exact h.scanned x hold
      · exact ⟨link, hlink, rfl⟩

theorem South.foldl (hports : OneCablePerPort scanned) {rest : List Link}
    (hrest : ∀ link ∈ rest, link ∈ scanned) (h : South scanned south) :
    South scanned (rest.foldl insertSouthLink south) ∧
      (∀ x ∈ south, x ∈ rest.foldl insertSouthLink south) ∧
      ∀ link ∈ rest, ∃ x ∈ rest.foldl insertSouthLink south, cable x = cable link := by
  induction rest generalizing south with
  | nil => exact ⟨h, fun x hx => hx, nofun⟩
  | cons link rest ih =>
    obtain ⟨hnext, hkept, x, hx, hcable⟩ := h.insert hports (hrest link mem_cons_self)
    obtain ⟨hend, hkept', hfound⟩ := ih (fun l hl => hrest l (mem_cons_of_mem _ hl)) hnext
    rw [foldl_cons]
    refine ⟨hend, fun y hy => hkept' y (hkept y hy), fun l hl => ?_⟩
    rcases mem_cons.1 hl with rfl | hl
    · exact ⟨x, hkept' x hx, hcable⟩
    · exact hfound l hl

theorem southLinks_eq : southLinks format false devices =
    .ok ((scannedLinks format devices).foldl insertSouthLink []) := by
  have hloop : ∀ (rest : List LldpDevice) (links : QSet Link),
      rest.foldlM (fun links device =>
        if false = true then (.error .stop : Except CompareFault (QSet Link))
        else .ok ((generateLinkSetByLldpInfo format device devices.vals).scanLinks.foldl
          (fun links link =>
            if !checkLinkDevicesAreComparedDevice devices link then links
            else insertSouthLink links link) links)) links =
      .ok (rest.foldl (fun links device =>
        ((generateLinkSetByLldpInfo format device devices.vals).scanLinks.filter
          (checkLinkDevicesAreComparedDevice devices)).foldl insertSouthLink links) links) := by
    intro rest
    induction rest with
    | nil => exact fun links => rfl
    | cons device rest ih =>
      intro links
      have hskip : (fun (links : QSet Link) link =>
          if !checkLinkDevicesAreComparedDevice devices link then links
          else insertSouthLink links link) = fun links link =>
            if checkLinkDevicesAreComparedDevice devices link then insertSouthLink links link
            else links := by
        funext links link
        cases checkLinkDevicesAreComparedDevice devices link <;> rfl
      rw [foldlM_cons, if_neg Bool.false_ne_true, foldl_cons, foldl_filter, ← hskip]
      exact ih _
  rw [southLinks, hloop, scannedLinks, foldl_flatMap]

theorem south_scanned (hports : OneCablePerPort (scannedLinks format devices))
    (h : southLinks format false devices = .ok south) : South (scannedLinks format devices) south ∧
      ∀ link ∈ scannedLinks format devices, ∃ x ∈ south, cable x = cable link := by
  rw [southLinks_eq] at h
  cases h
  have hnone : South (scannedLinks format devices) [] := ⟨List.Pairwise.nil, nofun, nofun⟩
  obtain ⟨hsouth, -, hfound⟩ := hnone.foldl hports fun link hlink => hlink
  exact ⟨hsouth, hfound⟩

/-! ### Taking out what is found -/

/-- What is left of the reported links, and what was not found, after some links of the project. -/
structure Compared (south : QSet Link) (passed : List Link) (comparison : Comparison) : Prop where
  distinct : comparison.southLinks.Distinct
  southLinks : ∀ x, x ∈ comparison.southLinks ↔ x ∈ south ∧ ∀ link ∈ passed, cable link ≠ cable x
  inconsistentLinks : ∀ link, link ∈ comparison.inconsistentLinks ↔
    link ∈ passed ∧ ∀ x ∈ south, cable link ≠ cable x

variable {passed : List Link} {comparison comparison' : Comparison}

theorem cable_ne_of_beq (h : (x == y) = false) : cable x ≠ cable y := by
  intro hcable
  rw [beq_of_cable_eq hcable] at h
  cases h

/-- A link that was not found joins the inconsistent ones. -/
theorem Compared.notFound (h : Compared south passed comparison)
    (hlink : ∀ p ∈ passed, (p == link) = false) (hnone : ∀ x ∈ south, cable link ≠ cable x) :
    Compared south (passed ++ [link])
      { comparison with inconsistentLinks := comparison.inconsistentLinks.insert link } := by
  have hnew : comparison.inconsistentLinks.contains link = false :=
    contains_eq_false.2 fun x hx => hlink x ((h.inconsistentLinks x).1 hx).1
  refine ⟨h.distinct, fun x => ?_, fun x => ?_⟩
  · rw [h.southLinks]
    refine and_congr_right fun hx => ⟨fun hpast l hl => ?_, fun hall l hl => ?_⟩
    · rcases mem_append.1 hl with hl | hl
      · exact hpast l hl
      · obtain rfl := mem_singleton.1 hl
        exact hnone x hx
    · exact hall l (mem_append_left _ hl)
  · dsimp only
    rw [mem_insert_of_not_contains hnew, h.inconsistentLinks, mem_append,
      mem_singleton, or_and_right]
    refine or_congr_right ⟨?_, fun hx => hx.1⟩
    rintro rfl
    exact ⟨rfl, hnone⟩

/-- **A round takes out the reported link of the same cable**, or there is none. -/
theorem Compared.step (h : Compared south passed comparison) (hdist : south.Distinct)
    (hid : ∀ x ∈ south, 0 < x.id) (hapart : ∀ x ∈ south, x.sourceDeviceId ≠ x.destinationDeviceId)
    (hlink : ∀ p ∈ passed, (p == link) = false)
    (hround : compareLink false comparison link = .ok comparison') :
    Compared south (passed ++ [link]) comparison' := by
  -- what shares a port with the link is found
  have hfind : ∀ x ∈ south, (x == { link with id := -1 }) = true →
      ∃ port, port ∈ cable x ∧ port ∈ cable link := by
    intro x hx hbeq
    rcases beq_iff.1 hbeq with hsame | hport
    · have := hid x hx
      dsimp only at hsame
      omega
    · exact hport
  have hstill : ∀ x ∈ south, cable link = cable x → x ∈ comparison.southLinks := fun x hx hcable =>
    (h.southLinks x).2 ⟨hx, fun p hp => hcable ▸ cable_ne_of_beq (hlink p hp)⟩
  unfold compareLink at hround
  rw [if_neg Bool.false_ne_true] at hround
  cases hf : comparison.southLinks.find { link with id := -1 } with
  | none =>
    rw [hf] at hround
    cases hround
    refine h.notFound hlink fun x hx hcable => ?_
    have hmiss := contains_eq_false.1 (find_eq_none.1 hf) x (hstill x hx hcable)
    exact cable_ne_of_beq hmiss hcable.symm
  | some found =>
    rw [hf] at hround
    obtain ⟨hmem, hbeq⟩ := mem_of_find hf
    have hfound := ((h.southLinks found).1 hmem).1
    have honly : ∀ x ∈ south, cable link = cable x → x = found := by
      intro x hx hcable
      obtain ⟨port, hport, hport'⟩ := hfind found hfound hbeq
      exact hdist.eq_of_beq Core.link_beq_comm hx hfound
        (beq_iff.2 (.inr ⟨port, hcable ▸ hport', hport⟩))
    dsimp only at hround
    split at hround
    · rename_i hpass
      rw [linkCheckPass_iff (hapart found hfound)] at hpass
      cases hround
      have hrem := fun x => @QSet.mem_remove_iff Link _ _ _ _ h.distinct Core.link_beq_self hf x
      refine ⟨h.distinct.remove _, fun x => ?_, fun x => ?_⟩
      · dsimp only
        rw [hrem, h.southLinks]
        constructor
        · rintro ⟨⟨hx, hpast⟩, hne⟩
          refine ⟨hx, fun l hl => ?_⟩
          rcases mem_append.1 hl with hl | hl
          · exact hpast l hl
          · obtain rfl := mem_singleton.1 hl
            exact fun hcable => hne (honly x hx hcable)
        · rintro ⟨hx, hall⟩
          refine ⟨⟨hx, fun l hl => hall l (mem_append_left _ hl)⟩, ?_⟩
          rintro rfl
          exact hall link (mem_append_right _ (mem_singleton.2 rfl)) hpass
      · dsimp only
        rw [h.inconsistentLinks, mem_append, mem_singleton, or_and_right]
        refine ⟨.inl, fun hx => hx.elim id ?_⟩
        rintro ⟨rfl, hnone⟩
        exact absurd hpass (hnone found hfound)
    · rename_i hpass
      rw [linkCheckPass_iff (hapart found hfound)] at hpass
      cases hround
      refine h.notFound hlink fun x hx hcable => hpass ?_
      rw [hcable, honly x hx hcable]

/-- **After all links of the project** each reported link of a cable of the project is taken out,
and the links of cables that were not reported stand among the inconsistent ones. -/
theorem Compared.run {links : List Link} (hsouth : South scanned south)
    (hapart : ∀ x ∈ south, x.sourceDeviceId ≠ x.destinationDeviceId)
    (hlinks : links.Pairwise fun x y => (x == y) = false) :
    ∃ comparison, links.foldlM (compareLink false) { southLinks := south } = .ok comparison ∧
      Compared south links comparison := by
  have hround : ∀ comparison link, ∃ comparison',
      compareLink false comparison link = .ok comparison' := by
    intro comparison link
    unfold compareLink
    rw [if_neg Bool.false_ne_true]
    split
    · exact ⟨_, rfl⟩
    · split <;> exact ⟨_, rfl⟩
  obtain ⟨comparison, hrun, -⟩ := @ExceptRule.exists_foldlM _ _ _ (compareLink false)
    (fun _ _ => True) links { southLinks := south } trivial
    fun _ link c _ _ => (hround c link).imp fun _ h => ⟨h, trivial⟩
  refine ⟨comparison, hrun, ?_⟩
  refine @ExceptRule.foldlM_rule_passed _ _ _ _ (Compared south) links _ comparison hrun ?_ ?_
  · exact ⟨hsouth.distinct, fun x => by simp, fun x => by simp⟩
  · intro passed link rest c c' hsplit hc hstep
    rw [hsplit, pairwise_append] at hlinks
    exact hc.step hsouth.distinct (fun x hx => (hsouth.id x hx).1) hapart
      (fun p hp => hlinks.2.2 p hp link mem_cons_self) hstep

/-! ### The compared links and devices -/

/-- Every device is kept under its id. -/
def Keyed (devices : QMap ℤ LldpDevice) : Prop :=
  ∀ (id : ℤ) (device : LldpDevice), devices[id]? = some device → device.id = id

/-! ### The answer -/

/-- The cables of links. -/
def cables (links : List Link) : Set (Sym2 (ℤ × ℤ)) := {c | ∃ link ∈ links, cable link = c}

theorem mem_linkStrings {links : QSet Link} {text : String} :
    text ∈ linkStrings devices links ↔ ∃ link ∈ links, createLinkString devices link = text := by
  have hunite : linkStrings devices links =
      unite [] (map (createLinkString devices) links) := by
    rw [linkStrings, unite, foldl_map]
  rw [hunite, mem_unite, mem_map]
  exact or_iff_right (not_mem_nil)

theorem South.cables_eq (h : South scanned south)
    (hreported : ∀ link ∈ scanned, ∃ x ∈ south, cable x = cable link) :
    cables south = cables scanned := by
  ext c
  constructor
  · rintro ⟨x, hx, rfl⟩
    exact h.cable_mem hx
  · rintro ⟨link, hlink, rfl⟩
    exact hreported link hlink

/-- Nothing is left over exactly where both have the same cables. -/
theorem Compared.consistent_iff {links : List Link} (h : Compared south links comparison) :
    (comparison.southLinks.isEmpty && comparison.inconsistentLinks.isEmpty) = true ↔
      cables links = cables south := by
  rw [Bool.and_eq_true, List.isEmpty_iff, List.isEmpty_iff, List.eq_nil_iff_forall_not_mem,
    List.eq_nil_iff_forall_not_mem, Set.Subset.antisymm_iff, and_comm]
  refine and_congr ⟨fun hnone => ?_, fun hsub link hlink => ?_⟩
    ⟨fun hnone => ?_, fun hsub x hx => ?_⟩
  · rintro c ⟨link, hlink, rfl⟩
    by_contra hmissing
    exact hnone link ((h.inconsistentLinks link).2
      ⟨hlink, fun x hx hcable => hmissing ⟨x, hx, hcable.symm⟩⟩)
  · obtain ⟨hmem, hmissing⟩ := (h.inconsistentLinks link).1 hlink
    obtain ⟨x, hx, hcable⟩ := hsub ⟨link, hmem, rfl⟩
    exact hmissing x hx hcable.symm
  · rintro c ⟨x, hx, rfl⟩
    by_contra hmissing
    exact hnone x ((h.southLinks x).2 ⟨hx, fun link hlink hcable => hmissing ⟨link, hlink, hcable⟩⟩)
  · obtain ⟨hmem, hmissing⟩ := (h.southLinks x).1 hx
    obtain ⟨link, hlink, hcable⟩ := hsub ⟨x, hmem, rfl⟩
    exact hmissing link hlink hcable

/-- **The comparison is exact.**  For links of the project no two of which compare equal, and
devices that report every port in at most one cable, from either end or from both,
`CheckTopologyConsistent` succeeds if and only if the project and the devices have the same cables.
Otherwise the missing links are exactly those of the project whose cable no device reports, and the
extra ones are reported links, one or more for each cable that is not in the project. -/
theorem checkTopologyConsistent_exact (hgo : actCompare.stopFlag = false)
    (hread : readDevices answers actCompare = .ok devices)
    (hlinks : actCompare.compareLinks.vals.Pairwise fun x y => (x == y) = false)
    (hports : OneCablePerPort (scannedLinks format devices)) :
    (checkTopologyConsistent answers format actCompare = .ok () ↔
      cables actCompare.compareLinks.vals = cables (scannedLinks format devices)) ∧
    (cables actCompare.compareLinks.vals ≠ cables (scannedLinks format devices) →
      ∃ notFoundLinks extraLinks, checkTopologyConsistent answers format actCompare =
          .error (.compareTopologyFailed notFoundLinks extraLinks) ∧
        (∀ text, text ∈ notFoundLinks ↔ ∃ link ∈ actCompare.compareLinks.vals,
          cable link ∉ cables (scannedLinks format devices) ∧
            createLinkString devices link = text) ∧
        (∀ text ∈ extraLinks, ∃ link ∈ scannedLinks format devices,
          cable link ∉ cables actCompare.compareLinks.vals ∧ createLinkString devices link = text) ∧
        ∀ c ∈ cables (scannedLinks format devices) \ cables actCompare.compareLinks.vals,
          ∃ link ∈ scannedLinks format devices, cable link = c ∧
            createLinkString devices link ∈ extraLinks) := by
  obtain ⟨hsouth, hreported⟩ := south_scanned hports southLinks_eq
  have hapart : ∀ x ∈ (scannedLinks format devices).foldl insertSouthLink [],
      x.sourceDeviceId ≠ x.destinationDeviceId := by
    intro x hx
    obtain ⟨y, hy, heq⟩ := hsouth.scanned x hx
    rw [heq]
    show y.sourceDeviceId ≠ y.destinationDeviceId
    exact apart_of_scanned hy
  obtain ⟨comparison, hrun, hcompared⟩ := Compared.run hsouth hapart hlinks
  have hsame := hsouth.cables_eq hreported
  have hcheck : checkTopologyConsistent answers format actCompare =
      if comparison.southLinks.isEmpty && comparison.inconsistentLinks.isEmpty then .ok ()
      else .error (.compareTopologyFailed (linkStrings devices comparison.inconsistentLinks)
        (linkStrings devices comparison.southLinks)) := by
    unfold checkTopologyConsistent
    rw [hread, hgo]
    show (southLinks format false devices >>= _) = _
    rw [southLinks_eq]
    show (actCompare.compareLinks.vals.foldlM (compareLink false) _ >>= _) = _
    rw [hrun]
    rfl
  rw [hcheck, ← hsame]
  generalize hsouthLinks : (scannedLinks format devices).foldl insertSouthLink [] = south at *
  have hcons := hcompared.consistent_iff
  refine ⟨?_, fun hne => ?_⟩
  · rw [← hcons]
    split <;> simp_all
  · rw [if_neg fun h => hne (hcons.1 h)]
    refine ⟨_, _, rfl, fun text => ?_, fun text htext => ?_, fun c hc => ?_⟩
    · rw [mem_linkStrings]
      refine exists_congr fun link => ?_
      rw [hcompared.inconsistentLinks, and_assoc]
      refine and_congr_right fun _ => and_congr_left fun _ => ?_
      exact ⟨fun hall ⟨x, hx, hcable⟩ => hall x hx hcable.symm,
        fun hnone x hx hcable => hnone ⟨x, hx, hcable.symm⟩⟩
    · obtain ⟨x, hx, rfl⟩ := mem_linkStrings.1 htext
      obtain ⟨hmem, hmissing⟩ := (hcompared.southLinks x).1 hx
      obtain ⟨y, hy, heq⟩ := hsouth.scanned x hmem
      refine ⟨y, hy, ?_, by rw [heq]; rfl⟩
      rintro ⟨link, hlink, hcable⟩
      exact hmissing link hlink (hcable.trans (by rw [heq]; rfl))
    · obtain ⟨⟨x, hx, rfl⟩, hmissing⟩ := hc
      obtain ⟨y, hy, heq⟩ := hsouth.scanned x hx
      have hleft : x ∈ comparison.southLinks :=
        (hcompared.southLinks x).2 ⟨hx, fun link hlink hcable => hmissing ⟨link, hlink, hcable⟩⟩
      refine ⟨y, hy, by rw [heq]; rfl, mem_linkStrings.2 ⟨x, hleft, ?_⟩⟩
      rw [heq]
      rfl

/-! ### A cable between two switches -/

/-- The switch `chassisId` sees port `remPortId` of the switch `remChassisId` at its `port`. -/
def neighborData (port : ℤ) (chassisId portId remChassisId remPortId : String) : LldpData where
  locChassisId := chassisId
  locPortIdMap := (∅ : QMap ℤ String).insert port portId
  remPortChassisIdSubtypeMap := (∅ : QMap ℤ ℤ).insert port 7
  remPortChassisIdMap := (∅ : QMap ℤ String).insert port remChassisId
  remPortIdMap := (∅ : QMap ℤ String).insert port remPortId

/-- Port 1 of the first switch and port 2 of the second see each other. -/
def sampleAnswers : DeviceAnswers where
  ipMacTable := .ok ∅
  lldpData device := .ok <|
    if device.id == 1 then neighborData 1 "A" "port 1" "B" "port 2"
    else neighborData 2 "B" "port 2" "A" "port 1"

def sampleFormat : IdFormat := ⟨fun _ => none, fun _ => 0⟩

def sampleSwitch (id : ℤ) (ipAddress : String) : LldpDevice := { id, ipAddress }

/-- Both switches, and the link between them from the second to the first. -/
def sampleCompare : ActCompare where
  compareDevices := ((∅ : QMap ℤ LldpDevice).insert 1 (sampleSwitch 1 "192.168.127.1")).insert 2
    (sampleSwitch 2 "192.168.127.2")
  compareLinks := (∅ : QMap ℤ Link).insert 5 (linkBetween 5 2 1 2 1)

def sampleDevices : QMap ℤ LldpDevice := ((readDevices sampleAnswers sampleCompare).toOption).getD ∅

/-- The cable is reported from both sides. -/
theorem checkTopologyConsistent_sample :
    checkTopologyConsistent sampleAnswers sampleFormat sampleCompare = .ok () := by
  have hread : readDevices sampleAnswers sampleCompare = .ok sampleDevices := by rfl
  have hscanned : (scannedLinks sampleFormat sampleDevices).map cable =
      [s((1, 1), (2, 2)), s((1, 1), (2, 2))] := by decide +kernel
  have hcompared : sampleCompare.compareLinks.vals.map cable = [s((1, 1), (2, 2))] := by
    decide +kernel
  have hone : ∀ x ∈ scannedLinks sampleFormat sampleDevices, cable x = s((1, 1), (2, 2)) := by
    intro x hx
    simpa [hscanned] using mem_map_of_mem (f := cable) hx
  have hports : OneCablePerPort (scannedLinks sampleFormat sampleDevices) :=
    fun x hx y hy _ _ _ => (hone x hx).trans (hone y hy).symm
  have hlinks : sampleCompare.compareLinks.vals.Pairwise fun x y => (x == y) = false := by
    decide +kernel
  refine (checkTopologyConsistent_exact rfl hread hlinks hports).1.2 (Set.ext fun c => ?_)
  have hmem : ∀ links : List Link, c ∈ cables links ↔ c ∈ links.map cable := fun links =>
    mem_map.symm
  rw [hmem, hmem, hscanned, hcompared]
  simp

end CompareTopology
end Sebastian

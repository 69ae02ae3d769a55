/-
# The order of the walk over a map

`TopologyMapper.mappingTopology` of the service walks over Go maps, whose order is
not determined: the ports of each device that is dequeued, and the results.  Only
the first of these orders can be seen.  Of two ports that lead to one designed
device the port that is looked at first gives it its partner.

`Sight` is what there is to see of the variables, all but the texts of the errors.
Two loops over the ports in different orders are in sight the same
(`Visit.Inv.foldl_perm`) as long as no designed device has a choice (`OneChoice`), so
that two runs stay in step (`Runs.together`).  A device with a choice gets the partner
behind the port that is looked at first, and keeps it (`exists_runs_partner`).
-/

import Sebastian.Topology.TopologyMapper

namespace Sebastian
namespace TopologyMapper

open ExceptRule Std.TreeMap Option QMap Function

variable {x online' a : ℤ}

/-! ### The walk in any order -/

/-- `visitDevice` with an order of the ports. -/
def visitDeviceIn (walk : List ℤ) (offlineTopology onlineTopology : MappingTopology)
    (s : MapperVars) (offlineDeviceId : ℤ) : Except String MapperVars :=
  match findDeviceById offlineTopology.devices offlineDeviceId with
  | .error err => .error err
  | .ok offlineDevice =>
    match findDeviceById onlineTopology.devices s.onlineDeviceId with
    | .error err => .error err
    | .ok onlineDevice =>
      walk.foldlM
        (checkPort offlineTopology onlineTopology offlineDeviceId offlineDevice onlineDevice
          (offlineLeaveIfOppositeDevMap offlineTopology offlineDeviceId)
          (onlineLeaveIfOppositeDevMap offlineTopology onlineTopology s.onlineDeviceId))
        (enterDevices offlineTopology offlineDeviceId offlineDevice onlineDevice s)

/-- `mappingRound` with an order of the ports. -/
def mappingRoundIn (walk : List ℤ) (offlineTopology onlineTopology : MappingTopology)
    (s : MapperVars) : Iter MapperVars (Except String MapperVars) :=
  match s.offlineDeviceIdQueue with
  | [] => .done (.ok s)
  | offlineDeviceId :: queue =>
    if onlineTopology.devices.isEmpty then .done (.ok s)
    else
      let next := dequeuedOnlineDeviceId offlineTopology s offlineDeviceId
      let s := { s with offlineDeviceIdQueue := queue, onlineDeviceId := next.1 }
      if next.2 then
        match visitDeviceIn walk offlineTopology onlineTopology s offlineDeviceId with
        | .error err => .done (.error err)
        | .ok s => .next s
      else .next s

/-- An order of the ports of the device that is dequeued. -/
def RoundOrder (offlineTopology : MappingTopology) (s : MapperVars) (walk : List ℤ) : Prop :=
  ∀ offlineDeviceId queue, s.offlineDeviceIdQueue = offlineDeviceId :: queue →
    walk.Perm (offlineLeaveIfOppositeDevMap offlineTopology offlineDeviceId).keys

/-- The loop from a state, with an order for every round. -/
inductive Runs (offlineTopology onlineTopology : MappingTopology) :
    MapperVars → Except String MapperVars → Prop
  | done {s : MapperVars} {r : Except String MapperVars} {walk : List ℤ} :
      RoundOrder offlineTopology s walk →
      mappingRoundIn walk offlineTopology onlineTopology s = .done r →
      Runs offlineTopology onlineTopology s r
  | next {s t : MapperVars} {r : Except String MapperVars} {walk : List ℤ} :
      RoundOrder offlineTopology s walk →
      mappingRoundIn walk offlineTopology onlineTopology s = .next t →
      Runs offlineTopology onlineTopology t r → Runs offlineTopology onlineTopology s r

/-- The states that the loop comes to. -/
inductive Reaches (offlineTopology onlineTopology : MappingTopology) : MapperVars → Prop
  | start : Reaches offlineTopology onlineTopology (initialVars offlineTopology onlineTopology)
  | next {s t : MapperVars} {walk : List ℤ} :
      Reaches offlineTopology onlineTopology s → RoundOrder offlineTopology s walk →
      mappingRoundIn walk offlineTopology onlineTopology s = .next t →
      Reaches offlineTopology onlineTopology t

/-- `generateTopologyMappingResult` with an order of the results. -/
def generateTopologyMappingResultIn (walk : List MappingDeviceResultItem)
    (foundOnlineDevices offlineEndStationDevices : QSet ℤ) (onlineTopology : MappingTopology) :
    TopologyMappingResult :=
  let items := walk.foldl (fun report item =>
    report ++ [{ item with id := (report.length : ℤ) + 1 }]) []
  let mappingOfflineIps := (items.filter fun item =>
    (item.status = .success || item.status = .warning) &&
      !offlineEndStationDevices.contains item.offlineDeviceId).map (·.offlineIpAddress)
  let checkedIps := (items.filter fun item => item.status = .checked).map (·.offlineIpAddress)
  let report := (appendUnfound onlineTopology foundOnlineDevices
    (!items.any (·.blocksDeploy)) mappingOfflineIps checkedIps items).insertionSort
      fun x y => x.id ≤ y.id
  { mappingReport := report, deploy := !report.any (·.blocksDeploy) }

/-- **What `mappingTopology` may return.** -/
inductive MapsTo (offlineTopology onlineTopology : MappingTopology) :
    Except String TopologyMappingResult → Prop
  | error {err : String} :
      Runs offlineTopology onlineTopology (initialVars offlineTopology onlineTopology)
        (.error err) → MapsTo offlineTopology onlineTopology (.error err)
  | ok {s : MapperVars} {walk : List MappingDeviceResultItem} :
      Runs offlineTopology onlineTopology (initialVars offlineTopology onlineTopology) (.ok s) →
      walk.Perm (finishResults offlineTopology s).vals →
      MapsTo offlineTopology onlineTopology
        (.ok (generateTopologyMappingResultIn walk s.foundOnlineDeviceIdMap [] onlineTopology))

/-! ### The same mapping -/

/-- The designed device has this partner and this status in the report. -/
def TopologyMappingResult.Says (result : TopologyMappingResult) (offlineDeviceId : ℤ)
    (partner : ℤ) (status : DeviceMappingResultStatus) : Prop :=
  ∃ item ∈ result.mappingReport, item.offlineDeviceId = offlineDeviceId ∧
    item.onlineDeviceId = partner ∧ item.status = status

/-- **Two runs map the same way**: both fail, or every designed device has the same partner and
status, and both or none let the design be deployed. -/
def SameMapping (offlineTopology : MappingTopology) :
    Except String TopologyMappingResult → Except String TopologyMappingResult → Prop
  | .ok first, .ok second =>
    (∀ device ∈ offlineTopology.devices, ∀ partner status,
      first.Says device.id partner status ↔ second.Says device.id partner status) ∧
    first.deploy = second.deploy
  | .error _, .error _ => True
  | _, _ => False

/-- The links of a scanned network join its devices. -/
def LinksJoin (topology : MappingTopology) : Prop :=
  ∀ link ∈ topology.links, (∃ device ∈ topology.devices, device.id = link.sourceDeviceId) ∧
    ∃ device ∈ topology.devices, device.id = link.destinationDeviceId

/-- A port of the visited device offers its opposite device a partner: on the other side it leads
to an online device that is not mapped. -/
structure Offers (offlineTopology onlineTopology : MappingTopology) (mapped : QSet ℤ)
    (offlineDeviceId partner opposite candidate port : ℤ) : Prop where
  offline : (offlineLeaveIfOppositeDevMap offlineTopology offlineDeviceId)[port]? = some opposite
  online : (onlineLeaveIfOppositeDevMap offlineTopology onlineTopology partner)[port]? =
    some candidate
  unmapped : candidate ∉ mapped

/-- **No designed device has a choice**: whenever a device is visited, the ports that lead to one
designed device without a result offer it one partner at most. -/
def OneChoice (offlineTopology onlineTopology : MappingTopology) : Prop :=
  ∀ s, Reaches offlineTopology onlineTopology s → ∀ offlineDeviceId queue,
    s.offlineDeviceIdQueue = offlineDeviceId :: queue → ∀ partner,
    dequeuedOnlineDeviceId offlineTopology s offlineDeviceId = (partner, true) →
    ∀ opposite, opposite ≠ offlineDeviceId → s.offlineDevicesResult[opposite]? = none →
    ∀ candidate port candidate' port',
      Offers offlineTopology onlineTopology (QSet.insert s.onlineMappedDeviceIdMap partner)
        offlineDeviceId partner opposite candidate port →
      Offers offlineTopology onlineTopology (QSet.insert s.onlineMappedDeviceIdMap partner)
        offlineDeviceId partner opposite candidate' port' → candidate = candidate'

/-! ### What there is to see -/

/-- An item without the text of its error. -/
def blank (item : MappingDeviceResultItem) : MappingDeviceResultItem :=
  { item with errorMessage := if item.errorMessage = "" then "" else "failed" }

/-- The variables in sight: the results without their texts, and the sets. -/
@[ext] structure Sight where
  results : ℤ → Option MappingDeviceResultItem
  found : Set ℤ
  notFoundPort : Set ℤ

def MapperVars.sight (s : MapperVars) : Sight where
  results x := s.offlineDevicesResult[x]?.map blank
  found := {x | x ∈ s.foundOnlineDeviceIdMap}
  notFoundPort := {x | x ∈ s.offlineNotFoundPortDeviceIdMap}

/-- The item that `checkDevice` makes of a pair. -/
def pairItem (offlineDevice onlineDevice : MappingDevice) : MappingDeviceResultItem :=
  match checkDeviceError offlineDevice onlineDevice onlineDevice.builtInPower with
  | some errorMsg => createMappingDeviceResultItem offlineDevice onlineDevice .failed errorMsg
  | none => createMappingDeviceResultItem offlineDevice onlineDevice .success ""

/-- What a visit looks at: the pair, its ports, and the online devices that are mapped. -/
structure Visit where
  offlineTopology : MappingTopology
  onlineTopology : MappingTopology
  offlineDeviceId : ℤ
  offlineDevice : MappingDevice
  onlineDevice : MappingDevice
  offlineLeave : QMap ℤ ℤ
  onlineLeave : QMap ℤ ℤ
  mapped : QSet ℤ

/-- A port that the partner does not have. -/
def Sight.portNotFound (visit : Visit) (v : Sight) : Sight :=
  match v.results visit.offlineDeviceId with
  | none => v
  | some item =>
    if item.errorMessage = "" then
      { v with
        results := Function.update v.results visit.offlineDeviceId
          (some (blank (createMappingDeviceResultItem visit.offlineDevice visit.onlineDevice .failed
            "failed")))
        notFoundPort := insert visit.offlineDeviceId v.notFoundPort }
    else v

/-- The devices behind a port. -/
def Sight.opposite (visit : Visit) (v : Sight) (opposite online : ℤ) : Sight :=
  if (v.results opposite).isSome then v
  else
    match findDeviceById visit.offlineTopology.devices opposite,
      findDeviceById visit.onlineTopology.devices online with
    | .ok offlineOpposite, .ok onlineOpposite =>
      if online ∈ visit.mapped then { v with found := insert online v.found }
      else
        { v with
          found := insert online v.found
          results := Function.update v.results opposite
            (some (blank (pairItem offlineOpposite onlineOpposite))) }
    | _, _ => v

/-- One port, in sight. -/
def Sight.port (visit : Visit) (v : Sight) (port : ℤ) : Sight :=
  match visit.onlineLeave[port]? with
  | none => v.portNotFound visit
  | some online => v.opposite visit (visit.offlineLeave.value port) online

/-! ### The rounds over the ports commute -/

/-- The devices behind the ports are there. -/
structure Visit.WellFormed (visit : Visit) : Prop where
  offline : ∀ (port opposite : ℤ), visit.offlineLeave[port]? = some opposite →
    ∃ device, findDeviceById visit.offlineTopology.devices opposite = .ok device ∧
      device.id = opposite
  online : ∀ (port online : ℤ), visit.onlineLeave[port]? = some online →
    ∃ device, findDeviceById visit.onlineTopology.devices online = .ok device

/-- **What the loop over the ports keeps**: the visited device has a result, what is mapped was
found, and no device has a choice. -/
structure Visit.Inv (visit : Visit) (v : Sight) : Prop where
  held : (v.results visit.offlineDeviceId).isSome
  found : ∀ x ∈ visit.mapped, x ∈ v.found
  choice : ∀ (port port' opposite online online' : ℤ),
    visit.offlineLeave[port]? = some opposite → visit.offlineLeave[port']? = some opposite →
    visit.onlineLeave[port]? = some online → visit.onlineLeave[port']? = some online' →
    v.results opposite = none → online ∉ visit.mapped → online' ∉ visit.mapped → online = online'

variable {visit : Visit} {v : Sight} {opposite online port port' : ℤ}

/-- The device gets its result. -/
def Sight.assign (v : Sight) (opposite online : ℤ) (item : MappingDeviceResultItem) : Sight :=
  { v with
    found := insert online v.found
    results := Function.update v.results opposite (some (blank item)) }

/-- Nothing happens at a device that has a result, or behind a port to a mapped one. -/
theorem Visit.Inv.opposite_eq_self (h : visit.Inv v)
    (hself : (v.results opposite).isSome ∨ online ∈ visit.mapped) :
    v.opposite visit opposite online = v := by
  unfold Sight.opposite
  by_cases hheld : (v.results opposite).isSome
  · rw [if_pos hheld]
  · have hmap := hself.resolve_left hheld
    rw [if_neg hheld]
    split
    · rw [if_pos hmap, Set.insert_eq_of_mem (h.found online hmap)]
    · rfl

theorem Visit.WellFormed.exists_assign (hwf : visit.WellFormed)
    (hport : visit.offlineLeave[port]? = some opposite)
    (hport' : visit.onlineLeave[port']? = some online) : ∃ item, ∀ v : Sight,
      v.results opposite = none → online ∉ visit.mapped →
        v.opposite visit opposite online = v.assign opposite online item := by
  obtain ⟨offlineOpposite, hoff, -⟩ := hwf.offline port opposite hport
  obtain ⟨onlineOpposite, honline⟩ := hwf.online port' online hport'
  refine ⟨pairItem offlineOpposite onlineOpposite, fun v hnone hunmapped => ?_⟩
  unfold Sight.opposite
  rw [hoff, honline, hnone, if_neg (by simp)]
  dsimp only
  rw [if_neg hunmapped]
  rfl

theorem Sight.results_portNotFound (hx : x ≠ visit.offlineDeviceId) :
    (v.portNotFound visit).results x = v.results x := by
  unfold portNotFound
  split
  · rfl
  · split_ifs
    · exact update_of_ne hx _ _
    · rfl

theorem Sight.isSome_portNotFound (x : ℤ) :
    ((v.portNotFound visit).results x).isSome = (v.results x).isSome := by
  by_cases hx : x = visit.offlineDeviceId
  · subst hx
    unfold portNotFound
    split
    · rfl
    · next item hitem =>
      split_ifs
      · simp [hitem]
      · rfl
  · rw [results_portNotFound hx]

/-- **A round keeps the invariant.** -/
theorem Visit.Inv.round (h : visit.Inv v) (hwf : visit.WellFormed)
    (hport : visit.offlineLeave[port]? = some opposite) : visit.Inv (v.port visit port) := by
  have hvalue : visit.offlineLeave.value port = opposite := value_of_getElem? hport
  unfold Sight.port
  rw [hvalue]
  cases honline : visit.onlineLeave[port]? with
  | none =>
    refine ⟨(Sight.isSome_portNotFound _).trans h.held, fun x hx => ?_,
      fun p q b x y hp hq hx hy hnone => h.choice p q b x y hp hq hx hy ?_⟩
    · unfold Sight.portNotFound
      dsimp only
      split
      · exact h.found x hx
      · split_ifs
        · exact h.found x hx
        · exact h.found x hx
    · rw [← not_isSome_iff_eq_none] at hnone ⊢
      rwa [Sight.isSome_portNotFound] at hnone
  | some online =>
    dsimp only
    by_cases hself : (v.results opposite).isSome ∨ online ∈ visit.mapped
    · rwa [h.opposite_eq_self hself]
    · rw [not_or, not_isSome_iff_eq_none] at hself
      obtain ⟨item, hitem⟩ := hwf.exists_assign hport honline
      rw [hitem v hself.1 hself.2]
      have hne : visit.offlineDeviceId ≠ opposite := by
        rintro rfl
        have hheld := h.held
        rw [hself.1] at hheld
        cases hheld
      refine ⟨?_, fun x hx => .inr (h.found x hx),
        fun p q b x y hp hq hx hy hnone => h.choice p q b x y hp hq hx hy ?_⟩
      · exact (congrArg isSome (update_of_ne hne _ _)).trans h.held
      · by_contra hsome
        by_cases hb : b = opposite
        · subst hb
          exact absurd hnone (by simp [Sight.assign])
        · exact hsome ((update_of_ne hb _ _).symm.trans hnone)

/-- A missing port and a device behind another port do not meet. -/
theorem Visit.Inv.portNotFound_comm (h : visit.Inv v) (h' : visit.Inv (v.portNotFound visit))
    (hwf : visit.WellFormed) (hport : visit.offlineLeave[port]? = some opposite)
    (honline : visit.onlineLeave[port]? = some online) :
    (v.portNotFound visit).opposite visit opposite online =
      (v.opposite visit opposite online).portNotFound visit := by
  by_cases hself : (v.results opposite).isSome ∨ online ∈ visit.mapped
  · rw [h.opposite_eq_self hself, h'.opposite_eq_self]
    rwa [Sight.isSome_portNotFound]
  · rw [not_or, not_isSome_iff_eq_none] at hself
    obtain ⟨item, hitem⟩ := hwf.exists_assign hport honline
    have hne : opposite ≠ visit.offlineDeviceId := by
      rintro rfl
      have hheld := h.held
      rw [hself.1] at hheld
      cases hheld
    rw [hitem v hself.1 hself.2,
      hitem _ ((Sight.results_portNotFound hne).trans hself.1) hself.2]
    have hread : (v.assign opposite online item).results visit.offlineDeviceId =
        v.results visit.offlineDeviceId := update_of_ne hne.symm _ _
    unfold Sight.portNotFound
    rw [hread]
    cases v.results visit.offlineDeviceId with
    | none => rfl
    | some own =>
      dsimp only
      split_ifs
      · exact Sight.ext (update_comm hne.symm _ _ _) rfl rfl
      · rfl

/-- **Two devices behind two ports** do not meet, nor does one behind both, as it has no choice. -/
theorem Visit.Inv.opposite_comm {opposite' : ℤ} (h : visit.Inv v) (hwf : visit.WellFormed)
    (hport : visit.offlineLeave[port]? = some opposite)
    (honline : visit.onlineLeave[port]? = some online)
    (hport' : visit.offlineLeave[port']? = some opposite')
    (honline' : visit.onlineLeave[port']? = some online')
    (hfirst : visit.Inv (v.opposite visit opposite online))
    (hsecond : visit.Inv (v.opposite visit opposite' online')) :
    (v.opposite visit opposite online).opposite visit opposite' online' =
      (v.opposite visit opposite' online').opposite visit opposite online := by
  obtain ⟨item, hitem⟩ := hwf.exists_assign hport honline
  obtain ⟨item', hitem'⟩ := hwf.exists_assign hport' honline'
  by_cases hself : (v.results opposite).isSome ∨ online ∈ visit.mapped
  · rw [h.opposite_eq_self hself, hsecond.opposite_eq_self]
    refine hself.imp_left fun hheld => ?_
    by_cases hself' : (v.results opposite').isSome ∨ online' ∈ visit.mapped
    · rwa [h.opposite_eq_self hself']
    · rw [not_or, not_isSome_iff_eq_none] at hself'
      rw [hitem' v hself'.1 hself'.2]
      by_cases heq : opposite = opposite'
      · simp [Sight.assign, heq]
      · exact (congrArg isSome (update_of_ne heq _ _)).trans hheld
  · by_cases hself' : (v.results opposite').isSome ∨ online' ∈ visit.mapped
    · rw [h.opposite_eq_self hself', hfirst.opposite_eq_self]
      refine hself'.imp_left fun hheld => ?_
      rw [not_or, not_isSome_iff_eq_none] at hself
      rw [hitem v hself.1 hself.2]
      by_cases heq : opposite' = opposite
      · simp [Sight.assign, heq]
      · exact (congrArg isSome (update_of_ne heq _ _)).trans hheld
    · rw [not_or, not_isSome_iff_eq_none] at hself hself'
      by_cases heq : opposite = opposite'
      · subst heq
        obtain rfl := h.choice port port' opposite online online' hport hport' honline honline'
          hself.1 hself.2 hself'.2
        rfl
      · rw [hitem v hself.1 hself.2, hitem' v hself'.1 hself'.2,
          hitem' _ ((update_of_ne (Ne.symm heq) _ _).trans hself'.1) hself'.2,
          hitem _ ((update_of_ne heq _ _).trans hself.1) hself.2]
        exact Sight.ext (update_comm (Ne.symm heq) _ _ _).symm
          (Set.insert_comm _ _ _) rfl

/-- **Any order of the ports** comes to the same sight. -/
theorem Visit.Inv.foldl_perm (h : visit.Inv v) (hwf : visit.WellFormed) {walk walk' : List ℤ}
    (hwalk : ∀ port ∈ walk, ∃ opposite : ℤ, visit.offlineLeave[port]? = some opposite)
    (hperm : walk.Perm walk') :
    walk.foldl (Sight.port visit) v = walk'.foldl (Sight.port visit) v := by
  refine Loop.foldl_perm (I := visit.Inv) hperm h (fun v port hport hv => ?_)
    fun v port hport port' hport' hv => ?_
  · obtain ⟨opposite, hopposite⟩ := hwalk port hport
    exact hv.round hwf hopposite
  · obtain ⟨opposite, hopposite⟩ := hwalk port hport
    obtain ⟨opposite', hopposite'⟩ := hwalk port' hport'
    have hfirst := hv.round hwf hopposite
    have hsecond := hv.round hwf hopposite'
    unfold Sight.port at hfirst hsecond ⊢
    rw [value_of_getElem? hopposite, value_of_getElem? hopposite'] at *
    cases honline : visit.onlineLeave[port]? with
    | none =>
      cases honline' : visit.onlineLeave[port']? with
      | none => rfl
      | some online' =>
        rw [honline] at hfirst
        exact hv.portNotFound_comm hfirst hwf hopposite' honline'
    | some online =>
      cases honline' : visit.onlineLeave[port']? with
      | none =>
        rw [honline'] at hsecond
        exact (hv.portNotFound_comm hsecond hwf hopposite honline).symm
      | some online' =>
        rw [honline] at hfirst
        rw [honline'] at hsecond
        exact hv.opposite_comm hwf hopposite honline hopposite' honline' hfirst hsecond

/-! ### The variables in sight -/

variable {designed scanned : MappingTopology} {s t : MapperVars}

theorem blank_errorMessage_eq {item : MappingDeviceResultItem} :
    (blank item).errorMessage = "" ↔ item.errorMessage = "" := by
  unfold blank
  dsimp only
  split_ifs with h
  · exact iff_of_true rfl h
  · exact iff_of_false (by decide) h

theorem sight_insert (results : QMap ℤ MappingDeviceResultItem) (x : ℤ)
    (item : MappingDeviceResultItem) :
    (fun y => ((results.insert x item)[y]? : Option _).map blank) =
      Function.update (fun y => (results[y]? : Option _).map blank) x (some (blank item)) := by
  funext y
  rw [getElem?_insert]
  by_cases h : x = y
  · subst h
    simp
  · rw [update_of_ne (Ne.symm h), if_neg (by simpa using h)]

theorem sight_checkDevice {results : QMap ℤ MappingDeviceResultItem}
    {offlineDevice onlineDevice : MappingDevice} (hid : offlineDevice.id = x)
    (hnone : results[x]? = none) :
    (fun y : ℤ => ((checkDevice offlineDevice onlineDevice onlineDevice.builtInPower results)[y]? :
      Option _).map blank) = Function.update (fun y : ℤ => (results[y]? : Option _).map blank) x
        (some (blank (pairItem offlineDevice onlineDevice))) := by
  have hcheck : checkDevice offlineDevice onlineDevice onlineDevice.builtInPower results =
      results.insert x (pairItem offlineDevice onlineDevice) := by
    unfold checkDevice pairItem
    rw [hid, contains_eq_isSome_getElem?, hnone, if_neg (by simp)]
    cases checkDeviceError offlineDevice onlineDevice onlineDevice.builtInPower <;> rfl
  rw [hcheck]
  exact sight_insert results x _

theorem sight_insert_set (ids : QSet ℤ) (x : ℤ) :
    {y | y ∈ QSet.insert ids x} = insert x {y | y ∈ ids} := by
  ext y
  exact QSet.mem_insert.trans or_comm

/-- What is in sight of the variables that the loop over the ports leaves alone. -/
structure SameFrame (s t : MapperVars) : Prop where
  queue : s.offlineDeviceIdQueue = t.offlineDeviceIdQueue
  onlineDeviceId : s.onlineDeviceId = t.onlineDeviceId
  mapped : s.onlineMappedDeviceIdMap = t.onlineMappedDeviceIdMap

theorem SameFrame.refl (s : MapperVars) : SameFrame s s := ⟨rfl, rfl, rfl⟩

theorem SameFrame.trans {u : MapperVars} (h : SameFrame s t) (h' : SameFrame t u) : SameFrame s u :=
  ⟨h.queue.trans h'.queue, h.onlineDeviceId.trans h'.onlineDeviceId, h.mapped.trans h'.mapped⟩

theorem sight_portNotFound (visit : Visit) (hheld : (s.sight.results visit.offlineDeviceId).isSome)
    (port : ℤ) : (portNotFound visit.offlineDeviceId visit.offlineDevice visit.onlineDevice port
      s).sight = s.sight.portNotFound visit ∧
      SameFrame (portNotFound visit.offlineDeviceId visit.offlineDevice visit.onlineDevice port s)
        s := by
  have hblank : blank (createMappingDeviceResultItem visit.offlineDevice visit.onlineDevice .failed
      ("Port (" ++ toString port ++ ") not found")) =
      blank (createMappingDeviceResultItem visit.offlineDevice visit.onlineDevice .failed
        "failed") := by
    simp [blank, createMappingDeviceResultItem]
  unfold TopologyMapper.portNotFound Sight.portNotFound
  obtain ⟨own, hown⟩ := isSome_iff_exists.1 hheld
  obtain ⟨item, hitem, rfl⟩ := map_eq_some_iff.1 hown
  rw [hown]
  simp only [hitem, blank_errorMessage_eq]
  split_ifs with hempty
  · refine ⟨Sight.ext ?_ rfl (sight_insert_set _ _), ⟨rfl, rfl, rfl⟩⟩
    exact (sight_insert _ _ _).trans (by rw [hblank]; rfl)
  · refine ⟨Sight.ext ?_ rfl rfl, ⟨rfl, rfl, rfl⟩⟩
    refine (sight_insert _ _ _).trans ?_
    have hsame : blank { item with
        errorMessage :=
          item.errorMessage ++ ", " ++ ("Port (" ++ toString port ++ ") not found") } =
        blank item := by
      simp [blank, hempty]
    rw [hsame, ← hown]
    exact update_eq_self _ _

/-- **One port is in sight what it is.** -/
theorem exists_checkPort (visit : Visit) (hwf : visit.WellFormed)
    (hheld : (s.sight.results visit.offlineDeviceId).isSome)
    (hmap : s.onlineMappedDeviceIdMap = visit.mapped)
    (hport : visit.offlineLeave[port]? = some opposite) :
    ∃ s', checkPort visit.offlineTopology visit.onlineTopology visit.offlineDeviceId
      visit.offlineDevice visit.onlineDevice visit.offlineLeave visit.onlineLeave s port = .ok s' ∧
      s'.sight = s.sight.port visit port ∧ SameFrame s' s := by
  unfold checkPort Sight.port
  rw [contains_eq_isSome_getElem?, value_of_getElem? hport]
  cases honline : visit.onlineLeave[port]? with
  | none => exact ⟨_, rfl, sight_portNotFound visit hheld port⟩
  | some online =>
    obtain ⟨offlineOpposite, hoff, hid⟩ := hwf.offline port opposite hport
    obtain ⟨onlineOpposite, honlineOpposite⟩ := hwf.online port online honline
    rw [value_of_getElem? honline]
    rw [if_neg (by simp)]
    unfold checkOpposite Sight.opposite
    have hsome : (s.sight.results opposite).isSome = (s.offlineDevicesResult[opposite]?).isSome :=
      isSome_map
    rw [contains_eq_isSome_getElem?, hsome, ← hmap]
    cases hres : s.offlineDevicesResult[opposite]? with
    | some item => exact ⟨s, rfl, rfl, .refl s⟩
    | none =>
      simp only [hoff, honlineOpposite, isSome_none, Bool.false_eq_true, if_false,
        QSet.contains_iff_mem]
      split_ifs with hin
      · exact ⟨_, rfl, Sight.ext rfl (sight_insert_set _ _) rfl, ⟨rfl, rfl, rfl⟩⟩
      · refine ⟨_, rfl, Sight.ext ?_ (sight_insert_set _ _) rfl, ⟨rfl, rfl, rfl⟩⟩
        exact sight_checkDevice hid hres

/-! ### Where the ports lead -/

theorem exists_findDeviceById {devices : List MappingDevice}
    (h : ∃ device ∈ devices, device.id = x) :
    ∃ device ∈ devices, findDeviceById devices x = .ok device ∧ device.id = x := by
  obtain ⟨device, hmem, rfl⟩ := h
  unfold findDeviceById
  cases hfind : devices.find? (·.id == device.id) with
  | none => exact absurd (beq_self_eq_true _) (List.find?_eq_none.1 hfind device hmem)
  | some found =>
    exact ⟨found, List.mem_of_find?_eq_some hfind, rfl,
      eq_of_beq (List.find?_eq_some_iff_append.1 hfind).1⟩

theorem mem_of_findDeviceById {devices : List MappingDevice} {device : MappingDevice}
    (h : findDeviceById devices x = .ok device) : device ∈ devices ∧ device.id = x := by
  unfold findDeviceById at h
  split at h
  · next found hfind =>
    cases h
    exact ⟨List.mem_of_find?_eq_some hfind, eq_of_beq (List.find?_eq_some_iff_append.1 hfind).1⟩
  · cases h

theorem mem_deviceLinks {topology : MappingTopology} {link : MappingLink}
    (h : link ∈ (generateDeviceLinksMap topology).value x) : link ∈ topology.links := by
  have hrule : ∀ x, ∀ link ∈ (generateDeviceLinksMap topology).value x,
      link ∈ topology.links := by
    unfold generateDeviceLinksMap
    refine Loop.foldl_rule (I := fun passed (m : QMap ℤ (List MappingLink)) =>
      ∀ x, ∀ link ∈ m.value x, link ∈ passed) (fun x link hlink => ?_)
      fun passed a rest _ hI x link hlink => ?_
    · rw [value_empty] at hlink
      cases hlink
    · have happend : ∀ links : List MappingLink, (∀ link ∈ links, link ∈ passed ++ [a]) →
          ∀ link ∈ appendLink links a, link ∈ passed ++ [a] := by
        intro links hlinks link hlink
        unfold appendLink at hlink
        split_ifs at hlink
        · exact hlinks link hlink
        · rcases List.mem_append.1 hlink with hlink | hlink
          · exact hlinks link hlink
          · exact List.mem_append_right _ hlink
      have hkeep : ∀ x, ∀ link ∈ value (passed.foldl (fun result link =>
          (result.update link.destinationDeviceId (appendLink · link)).update link.sourceDeviceId
            (appendLink · link)) ∅) x, link ∈ passed ++ [a] :=
        fun x link hlink => List.mem_append_left _ (hI x link hlink)
      rw [value_update, value_update, value_update] at hlink
      split_ifs at hlink
      · exact happend _ (happend _ (hkeep _)) link hlink
      · exact happend _ (hkeep _) link hlink
      · exact happend _ (hkeep _) link hlink
      · exact hkeep x link hlink
  exact hrule x link h

/-- Every port of the map is an end of one of the links at the device, leads to its other end, and
if it is checked to one of the ids. -/
def Leads (check : Bool) (x : ℤ) (ids : QSet ℤ) (links : List MappingLink) (m : QMap ℤ ℤ) : Prop :=
  ∀ port opposite : ℤ, m[port]? = some opposite →
    (∃ link ∈ links, (link.destinationDeviceId = x ∧ opposite = link.sourceDeviceId) ∨
      (link.sourceDeviceId = x ∧ opposite = link.destinationDeviceId)) ∧
      (check = true → opposite ∈ ids)

theorem Leads.insert {check : Bool} {ids : QSet ℤ} {links : List MappingLink} {m : QMap ℤ ℤ}
    (h : Leads check x ids links m) {link : MappingLink} (hlink : link ∈ links) {i b : ℤ}
    (hb : (link.destinationDeviceId = x ∧ b = link.sourceDeviceId) ∨ (link.sourceDeviceId = x ∧ b =
      link.destinationDeviceId))
    (hids : (!check || QSet.contains ids b) = true) : Leads check x ids links (m.insert i b) := by
  intro port opposite hsome
  rw [getElem?_insert] at hsome
  split_ifs at hsome
  · cases hsome
    refine ⟨⟨link, hlink, hb⟩, fun hcheck => ?_⟩
    rw [hcheck] at hids
    exact QSet.contains_iff_mem.1 hids
  · exact h port opposite hsome

/-- A port leads to the other end of one of the links. -/
theorem leads_generateLeaveInterfaceOppositeDeviceMap (check : Bool) (x : ℤ)
    (links : List MappingLink) (ids : QSet ℤ) :
    Leads check x ids links (generateLeaveInterfaceOppositeDeviceMap check x links ids) := by
  unfold generateLeaveInterfaceOppositeDeviceMap
  refine Loop.foldl_rule (I := fun passed m => Leads check x ids passed m)
    (fun port opposite hnone => by simp at hnone) fun passed link rest _ hI => ?_
  have hmem : link ∈ passed ++ [link] := List.mem_append_right _ List.mem_cons_self
  have hkeep : Leads check x ids (passed ++ [link])
      (passed.foldl (leaveInterface check x ids) ∅) := by
    intro port opposite hsome
    obtain ⟨⟨link', hlink', hend⟩, hin⟩ := hI port opposite hsome
    exact ⟨⟨link', List.mem_append_left _ hlink', hend⟩, hin⟩
  generalize passed.foldl (leaveInterface check x ids) ∅ = m at hkeep ⊢
  unfold leaveInterface
  dsimp only
  split_ifs with hsrc hdest hdest
  · exact (hkeep.insert hmem (.inl ⟨hdest.1, rfl⟩) hdest.2).insert hmem
      (.inr ⟨hsrc.1, rfl⟩) hsrc.2
  · exact hkeep.insert hmem (.inr ⟨hsrc.1, rfl⟩) hsrc.2
  · exact hkeep.insert hmem (.inl ⟨hdest.1, rfl⟩) hdest.2
  · exact hkeep

theorem exists_device_of_mapping {topology : MappingTopology}
    (h : x ∈ generateOfflineMappingDeviceMap topology) :
    ∃ device ∈ topology.devices, device.id = x := by
  revert x
  unfold generateOfflineMappingDeviceMap
  refine Loop.foldl_rule (I := fun (passed : List MappingDevice) (ids : QSet ℤ) =>
    ∀ {x : ℤ}, x ∈ ids → ∃ device ∈ passed, device.id = x) (fun h => absurd h List.not_mem_nil)
    fun passed device rest _ hI x hx => ?_
  have hkeep : x ∈ passed.foldl (fun result dev =>
      if dev.deviceType = .endStation then result
      else if isMoxaVendor dev.vendor then QSet.insert result dev.id
      else result) [] → ∃ device' ∈ passed ++ [device], device'.id = x := fun hx =>
    (hI hx).imp fun _ h => ⟨List.mem_append_left _ h.1, h.2⟩
  split_ifs at hx
  · exact hkeep hx
  · rcases QSet.mem_insert.1 hx with hx | rfl
    · exact hkeep hx
    · exact ⟨device, List.mem_append_right _ List.mem_cons_self, rfl⟩
  · exact hkeep hx

/-! ### A round -/

/-- The visit of a designed device with its partner. -/
def visitOf (offlineTopology onlineTopology : MappingTopology) (offlineDeviceId partner : ℤ)
    (offlineDevice onlineDevice : MappingDevice) (mapped : QSet ℤ) : Visit where
  offlineTopology := offlineTopology
  onlineTopology := onlineTopology
  offlineDeviceId := offlineDeviceId
  offlineDevice := offlineDevice
  onlineDevice := onlineDevice
  offlineLeave := offlineLeaveIfOppositeDevMap offlineTopology offlineDeviceId
  onlineLeave := onlineLeaveIfOppositeDevMap offlineTopology onlineTopology partner
  mapped := mapped

theorem wellFormed_visitOf (hjoin : LinksJoin scanned) (deviceId partner : ℤ)
    (offlineDevice onlineDevice : MappingDevice) (mapped : QSet ℤ) :
    (visitOf designed scanned deviceId partner offlineDevice onlineDevice
      mapped).WellFormed := by
  refine ⟨fun port opposite hport => ?_, fun port online hport => ?_⟩
  · have hmem := (leads_generateLeaveInterfaceOppositeDeviceMap _ _ _ _ _ _ hport).2 rfl
    obtain ⟨device, -, hfind, hid⟩ := exists_findDeviceById (exists_device_of_mapping hmem)
    exact ⟨device, hfind, hid⟩
  · obtain ⟨⟨link, hlink, hend⟩, -⟩ :=
      leads_generateLeaveInterfaceOppositeDeviceMap _ _ _ _ _ _ hport
    have hdev : ∃ device ∈ scanned.devices, device.id = online := by
      rcases hend with ⟨-, rfl⟩ | ⟨-, rfl⟩
      · exact (hjoin link (mem_deviceLinks hlink)).1
      · exact (hjoin link (mem_deviceLinks hlink)).2
    obtain ⟨device, -, hfind, -⟩ := exists_findDeviceById hdev
    exact ⟨device, hfind⟩

theorem Sight.opposite_cases (visit : Visit) (v : Sight) (opposite online : ℤ) :
    v.opposite visit opposite online = v ∨
      v.opposite visit opposite online = { v with found := insert online v.found } ∨
      v.results opposite = none ∧ ∃ offlineOpposite, offlineOpposite.id = opposite ∧
        ∃ onlineOpposite ∈ visit.onlineTopology.devices, v.opposite visit opposite online =
          v.assign opposite online (pairItem offlineOpposite onlineOpposite) := by
  unfold Sight.opposite
  by_cases hheld : (v.results opposite).isSome
  · rw [if_pos hheld]
    exact .inl rfl
  rw [if_neg hheld]
  rw [not_isSome_iff_eq_none] at hheld
  cases hoff : findDeviceById visit.offlineTopology.devices opposite with
  | error _ => exact .inl rfl
  | ok offlineOpposite =>
    cases honline : findDeviceById visit.onlineTopology.devices online with
    | error _ => exact .inl rfl
    | ok onlineOpposite =>
      dsimp only
      split_ifs
      · exact .inr (.inl rfl)
      · exact .inr (.inr ⟨hheld, offlineOpposite, (mem_of_findDeviceById hoff).2,
          onlineOpposite, (mem_of_findDeviceById honline).1, rfl⟩)

theorem Sight.portNotFound_cases (visit : Visit) (v : Sight) : v.portNotFound visit = v ∨
    v.portNotFound visit = ⟨Function.update v.results visit.offlineDeviceId (some (blank
      (createMappingDeviceResultItem visit.offlineDevice visit.onlineDevice .failed "failed"))),
      v.found, insert visit.offlineDeviceId v.notFoundPort⟩ := by
  unfold Sight.portNotFound
  split
  · exact .inl rfl
  · split_ifs
    · exact .inr rfl
    · exact .inl rfl

/-- The partner of a device, in sight. -/
def Sight.partner (v : Sight) (x : ℤ) : Option ℤ := (v.results x).map (·.onlineDeviceId)

theorem Sight.partner_none : v.partner x = none ↔ v.results x = none :=
  map_eq_none_iff

/-- **A partner is kept**, as long as the visited device is held by its own. -/
theorem Sight.partner_port (hown : v.partner visit.offlineDeviceId = some visit.onlineDevice.id)
    {partner : ℤ} (hx : v.partner x = some partner) (port : ℤ) :
    (v.port visit port).partner x = some partner := by
  unfold Sight.port
  cases visit.onlineLeave[port]? with
  | none =>
    dsimp only
    rcases Sight.portNotFound_cases visit v with hsame | hwrite
    · rwa [hsame]
    · rw [hwrite]
      by_cases hxa : x = visit.offlineDeviceId
      · subst hxa
        obtain rfl := Option.some.inj (hown.symm.trans hx)
        simp [Sight.partner, blank, createMappingDeviceResultItem]
      · exact (congrArg (Option.map MappingDeviceResultItem.onlineDeviceId)
          (update_of_ne hxa _ _)).trans hx
  | some online =>
    dsimp only
    rcases Sight.opposite_cases visit v (visit.offlineLeave.value port) online with
      hsame | hfound | ⟨hnone, offline, -, online', -, hassign⟩
    · rwa [hsame]
    · rw [hfound]
      exact hx
    · have hne : x ≠ visit.offlineLeave.value port := by
        rintro rfl
        rw [← Sight.partner_none, hx] at hnone
        cases hnone
      rw [hassign]
      exact (congrArg (Option.map MappingDeviceResultItem.onlineDeviceId)
        (update_of_ne hne _ _)).trans hx

/-- **The results are sound**: an item stands at its device, says that the pair is in order or not,
and has an online device for its partner. -/
def Sight.Sound (onlineTopology : MappingTopology) (v : Sight) : Prop :=
  ∀ x item, v.results x = some item → item.offlineDeviceId = x ∧
    (item.status = .success ∨ item.status = .failed) ∧
    ∃ device ∈ onlineTopology.devices, device.id = item.onlineDeviceId

theorem Sight.Sound.update (h : v.Sound scanned) {offline online : MappingDevice}
    (hx : offline.id = x) (honline : online ∈ scanned.devices)
    {item : MappingDeviceResultItem}
    (hitem : ∃ status message, (status = .success ∨ status = .failed) ∧ item =
      createMappingDeviceResultItem offline online status message)
    {found ports : Set ℤ} : Sight.Sound scanned
      ⟨Function.update v.results x (some (blank item)), found, ports⟩ := by
  intro y item' hitem'
  dsimp only at hitem'
  by_cases hy : y = x
  · subst hy
    rw [update_self] at hitem'
    cases hitem'
    obtain ⟨status, message, hst, rfl⟩ := hitem
    exact ⟨hx, hst, online, honline, rfl⟩
  · rw [update_of_ne hy] at hitem'
    exact h y item' hitem'

theorem pairItem_eq (offline online : MappingDevice) : ∃ status message,
    (status = .success ∨ status = .failed) ∧
      pairItem offline online = createMappingDeviceResultItem offline online status message := by
  unfold pairItem
  cases checkDeviceError offline online online.builtInPower with
  | none => exact ⟨.success, "", .inl rfl, rfl⟩
  | some message => exact ⟨.failed, message, .inr rfl, rfl⟩

theorem Sight.Sound.round (h : v.Sound visit.onlineTopology)
    (hoff : visit.offlineDevice.id = visit.offlineDeviceId)
    (honline : visit.onlineDevice ∈ visit.onlineTopology.devices) (leaveIfId : ℤ) :
    (v.port visit leaveIfId).Sound visit.onlineTopology := by
  unfold Sight.port
  cases visit.onlineLeave[leaveIfId]? with
  | none =>
    dsimp only
    rcases Sight.portNotFound_cases visit v with hsame | hwrite
    · rwa [hsame]
    · rw [hwrite]
      exact h.update hoff honline ⟨_, _, .inr rfl, rfl⟩
  | some online =>
    dsimp only
    rcases Sight.opposite_cases visit v (visit.offlineLeave.value leaveIfId) online with
      hsame | hfound | ⟨-, offlineOpposite, hid, onlineOpposite, hmem, hassign⟩
    · rwa [hsame]
    · rw [hfound]
      exact h
    · rw [hassign]
      exact h.update hid hmem (pairItem_eq _ _)

/-- The pair is entered, in sight. -/
def Sight.enter (v : Sight) (offlineDeviceId partner : ℤ)
    (offlineDevice onlineDevice : MappingDevice) : Sight where
  results := if (v.results offlineDeviceId).isSome then v.results
    else Function.update v.results offlineDeviceId
      (some (blank (pairItem offlineDevice onlineDevice)))
  found := insert partner v.found
  notFoundPort := v.notFoundPort

theorem sight_enterDevices {deviceId : ℤ} {offlineDevice onlineDevice : MappingDevice}
    (hid : offlineDevice.id = deviceId) (s : MapperVars) :
    (enterDevices designed deviceId offlineDevice onlineDevice s).sight =
      s.sight.enter deviceId s.onlineDeviceId offlineDevice onlineDevice := by
  unfold enterDevices Sight.enter
  have hsome : (s.sight.results deviceId).isSome =
      (s.offlineDevicesResult[deviceId]?).isSome := isSome_map
  rw [contains_eq_isSome_getElem?, hsome]
  refine Sight.ext ?_ (sight_insert_set _ _) rfl
  cases hres : s.offlineDevicesResult[deviceId]? with
  | some item => rfl
  | none =>
    exact sight_checkDevice hid hres

theorem enqueueNeighbors_congr {results results' : QMap ℤ MappingDeviceResultItem}
    (h : ∀ x, results.contains x = results'.contains x) (ids : QSet ℤ) (links : List MappingLink)
    (queue : List ℤ) :
    enqueueNeighbors ids results links queue = enqueueNeighbors ids results' links queue := by
  unfold enqueueNeighbors enqueueDevice
  simp only [h]

theorem contains_eq_of_sight (h : s.sight.results = t.sight.results) (x : ℤ) :
    s.offlineDevicesResult.contains x = t.offlineDevicesResult.contains x := by
  have hx := congrArg isSome (congrFun h x)
  rw [contains_eq_isSome_getElem?, contains_eq_isSome_getElem?]
  exact isSome_map.symm.trans (hx.trans isSome_map)

/-- **Two states with the same to see.** -/
structure SameSight (s t : MapperVars) : Prop where
  sight : s.sight = t.sight
  frame : SameFrame s t

theorem SameSight.enterDevices (h : SameSight s t) (designed : MappingTopology)
    {deviceId : ℤ} {offlineDevice : MappingDevice} (onlineDevice : MappingDevice)
    (hid : offlineDevice.id = deviceId) :
    SameSight (enterDevices designed deviceId offlineDevice onlineDevice s)
      (enterDevices designed deviceId offlineDevice onlineDevice t) := by
  have hsight : (TopologyMapper.enterDevices designed deviceId offlineDevice
      onlineDevice s).sight = (TopologyMapper.enterDevices designed deviceId
        offlineDevice onlineDevice t).sight := by
    rw [sight_enterDevices hid, sight_enterDevices hid, h.sight, h.frame.onlineDeviceId]
  refine ⟨hsight, ⟨?_, h.frame.onlineDeviceId, ?_⟩⟩
  · have hcont := contains_eq_of_sight (congrArg Sight.results hsight)
    unfold TopologyMapper.enterDevices at hcont ⊢
    dsimp only at hcont ⊢
    rw [h.frame.queue, enqueueNeighbors_congr hcont]
  · unfold TopologyMapper.enterDevices
    dsimp only
    rw [h.frame.mapped, h.frame.onlineDeviceId]

/-- **The loop over the ports** does not fail, and is in sight what it is. -/
theorem exists_foldlM_checkPort (visit : Visit) (hwf : visit.WellFormed) {walk : List ℤ}
    (hwalk : ∀ port ∈ walk, ∃ opposite : ℤ, visit.offlineLeave[port]? = some opposite)
    (hown : s.sight.partner visit.offlineDeviceId = some visit.onlineDevice.id)
    (hmap : s.onlineMappedDeviceIdMap = visit.mapped) :
    ∃ s', walk.foldlM (checkPort visit.offlineTopology visit.onlineTopology visit.offlineDeviceId
      visit.offlineDevice visit.onlineDevice visit.offlineLeave visit.onlineLeave) s = .ok s' ∧
      s'.sight = walk.foldl (Sight.port visit) s.sight ∧ SameFrame s' s := by
  induction walk generalizing s with
  | nil => exact ⟨s, rfl, rfl, .refl s⟩
  | cons port walk ih =>
    obtain ⟨opposite, hopposite⟩ := hwalk port List.mem_cons_self
    have hheld : (s.sight.results visit.offlineDeviceId).isSome :=
      isSome_map.symm.trans (congrArg isSome hown)
    obtain ⟨t, hcheck, hsight, hframe⟩ := exists_checkPort visit hwf hheld hmap hopposite
    have hown' : t.sight.partner visit.offlineDeviceId = some visit.onlineDevice.id := by
      rw [hsight]
      exact Sight.partner_port hown hown port
    obtain ⟨s', hrun, hsight', hframe'⟩ := ih
      (fun port hport => hwalk port (List.mem_cons_of_mem _ hport)) hown'
      (hframe.mapped.trans hmap)
    refine ⟨s', ?_, ?_, hframe'.trans hframe⟩
    · rw [List.foldlM_cons, hcheck]
      exact hrun
    · rw [hsight', hsight, List.foldl_cons]

/-- **The state at the head of the loop.**  The source waits at the start only. -/
structure RunInv (offlineTopology onlineTopology : MappingTopology) (s : MapperVars) : Prop where
  sound : s.sight.Sound onlineTopology
  mapped : ∀ x ∈ s.onlineMappedDeviceIdMap, x ∈ s.sight.found
  source : s = initialVars offlineTopology onlineTopology ∨
    ((s.sight.results offlineTopology.sourceDeviceId).isSome ∧
      offlineTopology.sourceDeviceId ∉ s.offlineDeviceIdQueue)
  waiting : ∀ x ∈ s.offlineDeviceIdQueue, x ∈ generateOfflineMappingDeviceMap offlineTopology

theorem runInv_initialVars : RunInv designed scanned
    (initialVars designed scanned) where
  sound x item hitem := by simp [initialVars, MapperVars.sight] at hitem
  mapped x hx := absurd hx List.not_mem_nil
  source := .inl rfl
  waiting x hx := by
    unfold initialVars at hx
    dsimp only at hx
    split_ifs at hx with hsrc
    · obtain rfl := List.mem_singleton.1 hx
      exact QSet.contains_iff_mem.1 hsrc
    · cases hx

/-- **A device is visited**: its state after `enterDevices`. -/
structure Entered (offlineTopology onlineTopology : MappingTopology) (s : MapperVars)
    (offlineDeviceId partner : ℤ) (offlineDevice onlineDevice : MappingDevice)
    (entered : MapperVars) : Prop where
  offline : findDeviceById offlineTopology.devices offlineDeviceId = .ok offlineDevice
  online : findDeviceById onlineTopology.devices partner = .ok onlineDevice
  unmapped : partner ∉ s.onlineMappedDeviceIdMap
  own : entered.sight.partner offlineDeviceId = some onlineDevice.id
  kept : ∀ x online, s.sight.partner x = some online → entered.sight.partner x = some online
  held : ∀ x, (entered.sight.results x).isSome → (s.sight.results x).isSome ∨ x = offlineDeviceId
  sound : entered.sight.Sound onlineTopology
  mapped : entered.onlineMappedDeviceIdMap = QSet.insert s.onlineMappedDeviceIdMap partner
  found : ∀ x ∈ entered.onlineMappedDeviceIdMap, x ∈ entered.sight.found
  source : (entered.sight.results offlineTopology.sourceDeviceId).isSome ∧
    offlineTopology.sourceDeviceId ∉ entered.offlineDeviceIdQueue
  waiting : ∀ x ∈ entered.offlineDeviceIdQueue,
    x ∈ generateOfflineMappingDeviceMap offlineTopology

/-- The neighbors that are enqueued are devices of the mapping without a result. -/
theorem mem_enqueueNeighbors {ids : QSet ℤ} {results : QMap ℤ MappingDeviceResultItem}
    {links : List MappingLink} {queue : List ℤ} (h : x ∈ enqueueNeighbors ids results links queue) :
    x ∈ queue ∨ x ∈ ids ∧ results.contains x = false := by
  have hone : ∀ (queue : List ℤ) (y : ℤ), x ∈ enqueueDevice ids results queue y →
      x ∈ queue ∨ x ∈ ids ∧ results.contains x = false := by
    intro queue y hx
    unfold enqueueDevice at hx
    split_ifs at hx with hnew hin
    · rcases List.mem_append.1 hx with hx | hx
      · exact .inl hx
      · obtain rfl := List.mem_singleton.1 hx
        refine .inr ⟨QSet.contains_iff_mem.1 hin, ?_⟩
        simpa using (Bool.and_eq_true_iff.1 hnew).1
    · exact .inl hx
    · exact .inl hx
  unfold enqueueNeighbors at h
  refine Loop.foldl_rule (I := fun _ (q : List ℤ) =>
    x ∈ q → x ∈ queue ∨ x ∈ ids ∧ results.contains x = false) .inl
    (fun passed link _ _ hI hx => ?_) h
  rcases hone _ _ hx with hx | hx
  · rcases hone _ _ hx with hx | hx
    · exact hI hx
    · exact .inr hx
  · exact .inr hx

theorem Sight.partner_enter {partner : ℤ} {offlineDevice onlineDevice : MappingDevice}
    (hx : v.partner x = some partner) :
    (v.enter a online offlineDevice onlineDevice).partner x = some partner := by
  unfold Sight.enter Sight.partner
  dsimp only
  split_ifs with hheld
  · exact hx
  · have hne : x ≠ a := by
      rintro rfl
      rw [not_isSome_iff_eq_none, ← Sight.partner_none, hx] at hheld
      cases hheld
    rw [update_of_ne hne]
    exact hx

theorem Sight.partner_enter_self {offlineDevice onlineDevice : MappingDevice}
    (h : v.results a = none) :
    (v.enter a online offlineDevice onlineDevice).partner a = some onlineDevice.id := by
  obtain ⟨status, message, -, hitem⟩ := pairItem_eq offlineDevice onlineDevice
  unfold Sight.enter Sight.partner
  rw [h, if_neg (by simp)]
  dsimp only
  rw [update_self, hitem]
  rfl

theorem Sight.Sound.enter {offlineDevice onlineDevice : MappingDevice}
    (h : v.Sound scanned) (hid : offlineDevice.id = a)
    (honline : onlineDevice ∈ scanned.devices) :
    (v.enter a online offlineDevice onlineDevice).Sound scanned := by
  unfold Sight.enter
  split_ifs
  · exact h
  · exact h.update hid honline (pairItem_eq _ _)

theorem RunInv.dequeued (h : RunInv designed scanned s) {deviceId partner : ℤ}
    {queue : List ℤ} (hqueue : s.offlineDeviceIdQueue = deviceId :: queue)
    (hnext : dequeuedOnlineDeviceId designed s deviceId = (partner, true)) :
    partner ∉ s.onlineMappedDeviceIdMap ∧
      ((s = initialVars designed scanned ∧
          deviceId = designed.sourceDeviceId) ∨
        (deviceId ≠ designed.sourceDeviceId ∧
          s.sight.partner deviceId = some partner ∧
          ∃ device ∈ scanned.devices, device.id = partner)) := by
  unfold dequeuedOnlineDeviceId at hnext
  split_ifs at hnext with hsrc
  · have hstart : s = initialVars designed scanned := by
      refine h.source.resolve_right fun hout => hout.2 ?_
      rw [hqueue, hsrc]
      exact List.mem_cons_self
    refine ⟨?_, .inl ⟨hstart, hsrc⟩⟩
    rw [hstart]
    exact List.not_mem_nil
  · split at hnext
    · cases hnext
    · next item hitem =>
      obtain ⟨rfl, hgo⟩ := Prod.mk.inj hnext
      have hsight : s.sight.results deviceId = some (blank item) :=
        congrArg (Option.map blank) hitem
      refine ⟨fun hmem => ?_, .inr ⟨hsrc, congrArg (Option.map _) hsight,
        (h.sound _ _ hsight).2.2⟩⟩
      rw [QSet.contains_iff_mem.2 hmem, Bool.not_true, Bool.and_false] at hgo
      cases hgo

/-- **Entering a device.**  It fails at the source alone, when the online source is missing. -/
theorem RunInv.enter (h : RunInv designed scanned s) {deviceId partner : ℤ}
    {queue : List ℤ} (hqueue : s.offlineDeviceIdQueue = deviceId :: queue)
    (hnext : dequeuedOnlineDeviceId designed s deviceId = (partner, true)) :
    (s = initialVars designed scanned ∧
      (∃ err, findDeviceById scanned.devices partner = .error err) ∧
      ∃ device, findDeviceById designed.devices deviceId = .ok device) ∨
    ∃ offlineDevice onlineDevice, Entered designed scanned s deviceId partner
      offlineDevice onlineDevice (enterDevices designed deviceId offlineDevice
        onlineDevice { s with offlineDeviceIdQueue := queue, onlineDeviceId := partner }) := by
  have hin := h.waiting deviceId (hqueue ▸ List.mem_cons_self)
  obtain ⟨offlineDevice, -, hoff, hid⟩ :=
    exists_findDeviceById (exists_device_of_mapping hin)
  obtain ⟨hunmapped, hpart⟩ := h.dequeued hqueue hnext
  cases honline : findDeviceById scanned.devices partner with
  | error err =>
    refine .inl ⟨?_, ⟨err, rfl⟩, offlineDevice, hoff⟩
    rcases hpart with ⟨hstart, -⟩ | ⟨-, -, hdev⟩
    · exact hstart
    · obtain ⟨_, -, hfound, -⟩ := exists_findDeviceById hdev
      cases honline.symm.trans hfound
  | ok onlineDevice =>
    obtain ⟨honlineMem, honlineId⟩ := mem_of_findDeviceById honline
    refine .inr ⟨offlineDevice, onlineDevice, ?_⟩
    have hsight : (enterDevices designed deviceId offlineDevice onlineDevice
        { s with offlineDeviceIdQueue := queue, onlineDeviceId := partner }).sight =
        s.sight.enter deviceId partner offlineDevice onlineDevice :=
      sight_enterDevices hid _
    have hown : (s.sight.enter deviceId partner offlineDevice onlineDevice).partner
        deviceId = some onlineDevice.id := by
      rcases hpart with ⟨rfl, -⟩ | ⟨-, hpart, -⟩
      · exact Sight.partner_enter_self (by simp [initialVars, MapperVars.sight])
      · rw [honlineId]
        exact Sight.partner_enter hpart
    have hcont : ∀ x, ((s.sight.enter deviceId partner offlineDevice
        onlineDevice).results x).isSome →
        (enterDevices designed deviceId offlineDevice onlineDevice
        { s with offlineDeviceIdQueue := queue, onlineDeviceId := partner
          }).offlineDevicesResult.contains x = true := by
      intro x hx
      rw [← hsight] at hx
      rw [contains_eq_isSome_getElem?]
      exact isSome_map.symm.trans hx
    have hsrc : ((s.sight.enter deviceId partner offlineDevice onlineDevice).results
        designed.sourceDeviceId).isSome ∧ designed.sourceDeviceId ∉ queue := by
      have hisSome : ∀ x y : ℤ, (s.sight.enter deviceId partner offlineDevice
          onlineDevice).partner x = some y → ((s.sight.enter deviceId partner offlineDevice
            onlineDevice).results x).isSome :=
        fun x y hxy => isSome_map.symm.trans (congrArg isSome hxy)
      rcases hpart with ⟨rfl, hself⟩ | ⟨hne, -, -⟩
      · refine ⟨hself ▸ hisSome _ _ hown, fun hmem => ?_⟩
        unfold initialVars at hqueue
        dsimp only at hqueue
        split_ifs at hqueue
        rw [(List.cons.inj hqueue).2.symm] at hmem
        cases hmem
      · rcases h.source with rfl | ⟨hheld, hout⟩
        · unfold initialVars at hqueue
          dsimp only at hqueue
          split_ifs at hqueue
          exact absurd (List.cons.inj hqueue).1.symm hne
        · obtain ⟨item, hitem⟩ := isSome_iff_exists.1 hheld
          refine ⟨hisSome _ item.onlineDeviceId (Sight.partner_enter ?_), fun hmem => hout ?_⟩
          · exact congrArg (Option.map (·.onlineDeviceId)) hitem
          · rw [hqueue]
            exact List.mem_cons_of_mem _ hmem
    refine ⟨hoff, honline, hunmapped, hsight ▸ hown,
      fun x y hx => hsight ▸ Sight.partner_enter hx, fun x hx => ?_,
      hsight ▸ h.sound.enter hid honlineMem, rfl, fun x hx => ?_,
      ⟨hsight ▸ hsrc.1, fun hmem => ?_⟩, fun x hx => ?_⟩
    · rw [hsight] at hx
      unfold Sight.enter at hx
      dsimp only at hx
      by_cases hxa : x = deviceId
      · exact .inr hxa
      · split_ifs at hx
        · exact .inl hx
        · rw [update_of_ne hxa] at hx
          exact .inl hx
    · rw [hsight]
      rcases QSet.mem_insert.1 hx with hx | rfl
      · exact .inr (h.mapped x hx)
      · exact .inl rfl
    · rcases mem_enqueueNeighbors hmem with hmem | ⟨-, hnot⟩
      · exact hsrc.2 hmem
      · exact absurd (hcont _ hsrc.1) (by rw [Bool.not_eq_true]; exact hnot)
    · rcases mem_enqueueNeighbors hx with hx | ⟨hx, -⟩
      · exact h.waiting x (hqueue ▸ List.mem_cons_of_mem _ hx)
      · exact hx

variable {walk walk' : List ℤ} {deviceId partner : ℤ} {queue : List ℤ}
  {offlineDevice onlineDevice : MappingDevice}

theorem exists_getElem?_of_mem_walk {leave : QMap ℤ ℤ} (h : walk.Perm leave.keys)
    (hport : port ∈ walk) : ∃ opposite : ℤ, leave[port]? = some opposite := by
  have hmem := h.mem_iff.1 hport
  rw [mem_keys] at hmem
  exact ⟨_, getElem?_eq_some_getElem hmem⟩

/-- **A round with a visit** in some order of the ports. -/
theorem Entered.exists_round (h : Entered designed scanned s deviceId partner
      offlineDevice onlineDevice (enterDevices designed deviceId offlineDevice
        onlineDevice { s with offlineDeviceIdQueue := queue, onlineDeviceId := partner }))
    (hjoin : LinksJoin scanned)
    (hqueue : s.offlineDeviceIdQueue = deviceId :: queue)
    (hnext : dequeuedOnlineDeviceId designed s deviceId = (partner, true))
    (hwalk : walk.Perm (offlineLeaveIfOppositeDevMap designed deviceId).keys) :
    ∃ s', mappingRoundIn walk designed scanned s = .next s' ∧
      s'.sight = walk.foldl (Sight.port (visitOf designed scanned deviceId
        partner offlineDevice onlineDevice (QSet.insert s.onlineMappedDeviceIdMap partner)))
        (enterDevices designed deviceId offlineDevice onlineDevice
          { s with offlineDeviceIdQueue := queue, onlineDeviceId := partner }).sight ∧
      SameFrame s' (enterDevices designed deviceId offlineDevice onlineDevice
        { s with offlineDeviceIdQueue := queue, onlineDeviceId := partner }) := by
  have hdevs : scanned.devices.isEmpty = false := by
    obtain ⟨hmem, -⟩ := mem_of_findDeviceById h.online
    rw [List.isEmpty_eq_false_iff]
    exact List.ne_nil_of_mem hmem
  obtain ⟨s', hrun, hsight, hframe⟩ := exists_foldlM_checkPort
    (visitOf designed scanned deviceId partner offlineDevice onlineDevice
      (QSet.insert s.onlineMappedDeviceIdMap partner))
    (wellFormed_visitOf hjoin _ _ _ _ _) (fun port hport => exists_getElem?_of_mem_walk hwalk hport)
    h.own h.mapped
  refine ⟨s', ?_, hsight, hframe⟩
  unfold mappingRoundIn
  rw [hqueue]
  simp only [hdevs, hnext, Bool.false_eq_true, if_false, if_true]
  unfold visitDeviceIn
  simp only [h.offline, h.online]
  exact congrArg (fun r : Except String MapperVars => (match r with
    | .error err => Iter.done (.error err)
    | .ok s => Iter.next s : Iter MapperVars (Except String MapperVars))) hrun

/-- What the loop over the ports keeps of the partners and of the results. -/
theorem Entered.foldl (h : Entered designed scanned s deviceId partner
      offlineDevice onlineDevice t) (walk : List ℤ) (v : Sight)
    (hv : v.partner deviceId = some onlineDevice.id) (hsound : v.Sound scanned)
    {mapped : QSet ℤ} :
    (∀ x online, v.partner x = some online → (walk.foldl (Sight.port (visitOf designed
        scanned deviceId partner offlineDevice onlineDevice mapped)) v).partner x =
          some online) ∧
      (walk.foldl (Sight.port (visitOf designed scanned deviceId partner
        offlineDevice onlineDevice mapped)) v).Sound scanned := by
  induction walk generalizing v with
  | nil => exact ⟨fun _ _ hx => hx, hsound⟩
  | cons port walk ih =>
    have hkept : ∀ x online, v.partner x = some online → (v.port (visitOf designed
        scanned deviceId partner offlineDevice onlineDevice mapped) port).partner x =
          some online := fun x online hx => Sight.partner_port hv hx port
    obtain ⟨hpartners, hsound'⟩ := ih _ (hkept _ _ hv)
      (hsound.round (mem_of_findDeviceById h.offline).2 (mem_of_findDeviceById h.online).1 port)
    exact ⟨fun x online hx => hpartners x online (hkept x online hx), hsound'⟩

theorem Sight.found_port (hx : x ∈ v.found) : x ∈ (v.port visit port).found := by
  unfold Sight.port
  cases visit.onlineLeave[port]? with
  | none =>
    rcases Sight.portNotFound_cases visit v with hsame | hwrite
    · rwa [hsame]
    · rwa [hwrite]
  | some online =>
    dsimp only
    rcases Sight.opposite_cases visit v (visit.offlineLeave.value port) online with
      hsame | hfound | ⟨-, _, -, _, -, hassign⟩
    · rwa [hsame]
    · rw [hfound]
      exact .inr hx
    · rw [hassign]
      exact .inr hx

theorem Sight.found_foldl (hx : x ∈ v.found) (walk : List ℤ) :
    x ∈ (walk.foldl (Sight.port visit) v).found := by
  induction walk generalizing v with
  | nil => exact hx
  | cons port walk ih => exact ih (found_port hx)

variable (h : RunInv designed scanned s) (hjoin : LinksJoin scanned)
  (hwalk : RoundOrder designed s walk)
  (hround : mappingRoundIn walk designed scanned s = .next t)
include h hjoin hwalk hround

/-- **What a round that goes on may be**: a visit, or a device that is passed over. -/
theorem RunInv.round_cases :
    ∃ deviceId queue, s.offlineDeviceIdQueue = deviceId :: queue ∧
      ((∃ partner offlineDevice onlineDevice,
        dequeuedOnlineDeviceId designed s deviceId = (partner, true) ∧
        Entered designed scanned s deviceId partner offlineDevice onlineDevice
          (enterDevices designed deviceId offlineDevice onlineDevice
            { s with offlineDeviceIdQueue := queue, onlineDeviceId := partner }) ∧
        t.sight = walk.foldl (Sight.port (visitOf designed scanned deviceId
          partner offlineDevice onlineDevice (QSet.insert s.onlineMappedDeviceIdMap partner)))
          (enterDevices designed deviceId offlineDevice onlineDevice
            { s with offlineDeviceIdQueue := queue, onlineDeviceId := partner }).sight ∧
        SameFrame t (enterDevices designed deviceId offlineDevice onlineDevice
          { s with offlineDeviceIdQueue := queue, onlineDeviceId := partner })) ∨
      ((dequeuedOnlineDeviceId designed s deviceId).2 = false ∧
        t = { s with
          offlineDeviceIdQueue := queue
          onlineDeviceId := (dequeuedOnlineDeviceId designed s deviceId).1 })) := by
  cases hqueue : s.offlineDeviceIdQueue with
  | nil =>
    unfold mappingRoundIn at hround
    rw [hqueue] at hround
    cases hround
  | cons deviceId queue =>
    refine ⟨deviceId, queue, rfl, ?_⟩
    cases hdeq : dequeuedOnlineDeviceId designed s deviceId with
    | mk partner goes =>
      cases goes with
      | false =>
        refine .inr ⟨rfl, ?_⟩
        unfold mappingRoundIn at hround
        simp only [hqueue, hdeq, Bool.false_eq_true, if_false] at hround
        split_ifs at hround
        exact (Iter.next.inj hround).symm
      | true =>
        rcases h.enter hqueue hdeq with ⟨-, ⟨err, herr⟩, device, hdev⟩ |
          ⟨offlineDevice, onlineDevice, hent⟩
        · unfold mappingRoundIn visitDeviceIn at hround
          simp only [hqueue, hdeq, if_true, hdev, herr] at hround
          split_ifs at hround
        · obtain ⟨t', hround', hsight, hframe⟩ :=
            hent.exists_round hjoin hqueue hdeq (hwalk _ _ hqueue)
          obtain rfl := Iter.next.inj (hround'.symm.trans hround)
          exact .inl ⟨partner, offlineDevice, onlineDevice, rfl, hent, hsight, hframe⟩

/-- **Every round keeps the invariant**, and every partner. -/
theorem RunInv.next : RunInv designed scanned t ∧
      ∀ x online, s.sight.partner x = some online → t.sight.partner x = some online := by
  obtain ⟨deviceId, queue, hqueue, ⟨partner, offlineDevice, onlineDevice, hnext, hent,
    hsight, hframe⟩ | ⟨hskip, rfl⟩⟩ := h.round_cases hjoin hwalk hround
  · obtain ⟨hpartners, hsound⟩ := hent.foldl walk _ hent.own hent.sound
    refine ⟨⟨hsight ▸ hsound, fun x hx => ?_, .inr ⟨?_, ?_⟩, fun x hx => ?_⟩, fun x online hx => ?_⟩
    · rw [hsight]
      exact Sight.found_foldl (hent.found x (hframe.mapped ▸ hx)) walk
    · obtain ⟨item, hitem⟩ := isSome_iff_exists.1 hent.source.1
      have hpart := hpartners designed.sourceDeviceId item.onlineDeviceId
        (congrArg (Option.map MappingDeviceResultItem.onlineDeviceId) hitem)
      rw [hsight]
      exact isSome_map.symm.trans (congrArg isSome hpart)
    · rw [hframe.queue]
      exact hent.source.2
    · exact hent.waiting x (hframe.queue ▸ hx)
    · rw [hsight]
      exact hpartners x online (hent.kept x online hx)
  · refine ⟨⟨h.sound, h.mapped, .inr ?_, fun x hx => ?_⟩, fun _ _ hx => hx⟩
    · rcases h.source with rfl | ⟨hheld, hout⟩
      · -- the source is not passed over
        have hsrc : deviceId = designed.sourceDeviceId := by
          unfold initialVars at hqueue
          dsimp only at hqueue
          split_ifs at hqueue
          exact (List.cons.inj hqueue).1.symm
        unfold dequeuedOnlineDeviceId at hskip
        rw [if_pos hsrc] at hskip
        cases hskip
      · exact ⟨hheld, fun hmem => hout (hqueue ▸ List.mem_cons_of_mem _ hmem)⟩
    · exact h.waiting x (hqueue ▸ List.mem_cons_of_mem _ hx)

omit h hjoin hwalk hround

theorem Reaches.inv (h : Reaches designed scanned s)
    (hjoin : LinksJoin scanned) : RunInv designed scanned s := by
  induction h with
  | start => exact runInv_initialVars
  | next _ hwalk hround ih => exact (ih.next hjoin hwalk hround).1

/-! ### Two runs in lock step -/

theorem SameSight.dequeuedOnlineDeviceId (h : SameSight s t) (x : ℤ) :
    dequeuedOnlineDeviceId designed s x = dequeuedOnlineDeviceId designed t x := by
  have hx : s.offlineDevicesResult[x]?.map blank = t.offlineDevicesResult[x]?.map blank :=
    congrFun (congrArg Sight.results h.sight) x
  unfold TopologyMapper.dequeuedOnlineDeviceId
  rw [h.frame.onlineDeviceId, h.frame.mapped]
  cases hs : s.offlineDevicesResult[x]? with
  | none =>
    rw [hs] at hx
    rw [map_eq_none_iff.1 hx.symm]
  | some item =>
    rw [hs] at hx
    obtain ⟨item', ht, hitem⟩ := map_eq_some_iff.1 hx.symm
    have honline := congrArg MappingDeviceResultItem.onlineDeviceId hitem
    dsimp only [blank] at honline
    rw [ht]
    dsimp only
    rw [honline]

/-- **No device has a choice** in the loop over the ports of a device that is entered. -/
theorem Entered.inv (h : Entered designed scanned s deviceId partner
      offlineDevice onlineDevice t) (hchoice : OneChoice designed scanned)
    (hs : Reaches designed scanned s)
    (hqueue : s.offlineDeviceIdQueue = deviceId :: queue)
    (hnext : TopologyMapper.dequeuedOnlineDeviceId designed s deviceId =
      (partner, true)) :
    (visitOf designed scanned deviceId partner offlineDevice onlineDevice
      (QSet.insert s.onlineMappedDeviceIdMap partner)).Inv t.sight := by
  have hheld : (t.sight.results deviceId).isSome :=
    isSome_map.symm.trans (congrArg isSome h.own)
  refine ⟨hheld, fun x hx => h.found x (h.mapped ▸ hx),
    fun port port' opposite online online' hport hport' hon hon' hnone hout hout' => ?_⟩
  have hne : opposite ≠ deviceId := by
    rintro rfl
    rw [hnone] at hheld
    cases hheld
  have hnone' : s.offlineDevicesResult[opposite]? = none := by
    by_contra hsome
    obtain ⟨item, hitem⟩ := ne_none_iff_exists'.1 hsome
    have hpart := h.kept opposite item.onlineDeviceId
      (congrArg (Option.map MappingDeviceResultItem.onlineDeviceId)
        (congrArg (Option.map blank) hitem))
    rw [Sight.partner_none.2 hnone] at hpart
    cases hpart
  exact hchoice s hs deviceId queue hqueue partner hnext opposite hne hnone' online port
    online' port' ⟨hport, hon, hout⟩ ⟨hport', hon', hout'⟩

/-- **Two rounds go the same way**, whatever the orders of the ports. -/
theorem SameSight.round (h : SameSight s t) (hjoin : LinksJoin scanned)
    (hchoice : OneChoice designed scanned)
    (hs : Reaches designed scanned s) (ht : Reaches designed scanned t)
    (hwalk : RoundOrder designed s walk) (hwalk' : RoundOrder designed t walk') :
    Loop.RoundTogether SameSight (Together SameSight)
      (mappingRoundIn walk designed scanned s)
      (mappingRoundIn walk' designed scanned t) := by
  cases hqueue : s.offlineDeviceIdQueue with
  | nil =>
    unfold mappingRoundIn
    rw [← h.frame.queue, hqueue]
    exact .done (.ok h)
  | cons deviceId queue =>
    have hqueue' : t.offlineDeviceIdQueue = deviceId :: queue :=
      h.frame.queue.symm.trans hqueue
    cases hnext : TopologyMapper.dequeuedOnlineDeviceId designed s deviceId with
    | mk partner goes =>
      have hnext' := (h.dequeuedOnlineDeviceId deviceId).symm.trans hnext
      have hsame : SameSight { s with offlineDeviceIdQueue := queue, onlineDeviceId := partner }
          { t with offlineDeviceIdQueue := queue, onlineDeviceId := partner } :=
        ⟨h.sight, rfl, rfl, h.frame.mapped⟩
      cases goes with
      | false =>
        unfold mappingRoundIn
        simp only [hqueue, hqueue', hnext, hnext', Bool.false_eq_true, if_false]
        split_ifs
        · exact .done (.ok h)
        · exact .next hsame
      | true =>
        rcases (hs.inv hjoin).enter hqueue hnext with ⟨-, ⟨err, herr⟩, device, hdev⟩ |
          ⟨offlineDevice, onlineDevice, hent⟩
        · unfold mappingRoundIn visitDeviceIn
          simp only [hqueue, hqueue', hnext, hnext', if_true, hdev, herr]
          split_ifs
          · exact .done (.ok h)
          · exact .done .error
        · rcases (ht.inv hjoin).enter hqueue' hnext' with ⟨-, ⟨err, herr⟩, -⟩ |
            ⟨offlineDevice', onlineDevice', hent'⟩
          · cases hent.online.symm.trans herr
          obtain rfl := Except.ok.inj (hent.offline.symm.trans hent'.offline)
          obtain rfl := Except.ok.inj (hent.online.symm.trans hent'.online)
          obtain ⟨s', hround, hsight, hframe⟩ :=
            hent.exists_round hjoin hqueue hnext (hwalk _ _ hqueue)
          obtain ⟨t', hround', hsight', hframe'⟩ :=
            hent'.exists_round hjoin hqueue' hnext' (hwalk' _ _ hqueue')
          have henter := hsame.enterDevices designed onlineDevice
            (mem_of_findDeviceById hent.offline).2
          rw [hround, hround']
          refine .next ⟨?_, hframe.trans ?_⟩
          · rw [hsight, hsight', ← henter.sight, ← h.frame.mapped]
            exact (hent.inv hchoice hs hqueue hnext).foldl_perm
              (wellFormed_visitOf hjoin _ _ _ _ _)
              (fun port hport => exists_getElem?_of_mem_walk (hwalk _ _ hqueue) hport)
              ((hwalk _ _ hqueue).trans (hwalk' _ _ hqueue').symm)
          · exact henter.frame.trans ⟨hframe'.queue.symm, hframe'.onlineDeviceId.symm,
              hframe'.mapped.symm⟩

/-- **Two runs come to the same**, whatever the orders of their rounds. -/
theorem Runs.together {r r' : Except String MapperVars}
    (h : Runs designed scanned s r)
    (h' : Runs designed scanned t r') (hjoin : LinksJoin scanned)
    (hchoice : OneChoice designed scanned)
    (hs : Reaches designed scanned s) (ht : Reaches designed scanned t)
    (hsame : SameSight s t) : Together SameSight r r' := by
  induction h generalizing t with
  | done hwalk hround =>
    cases h' with
    | done hwalk' hround' =>
      have hrounds := hsame.round hjoin hchoice hs ht hwalk hwalk'
      rw [hround, hround'] at hrounds
      cases hrounds with
      | done h => exact h
    | next hwalk' hround' _ =>
      have hrounds := hsame.round hjoin hchoice hs ht hwalk hwalk'
      rw [hround, hround'] at hrounds
      cases hrounds
  | next hwalk hround _ ih =>
    cases h' with
    | done hwalk' hround' =>
      have hrounds := hsame.round hjoin hchoice hs ht hwalk hwalk'
      rw [hround, hround'] at hrounds
      cases hrounds
    | next hwalk' hround' h' =>
      have hrounds := hsame.round hjoin hchoice hs ht hwalk hwalk'
      rw [hround, hround'] at hrounds
      cases hrounds with
      | next h => exact ih h' (hs.next hwalk hround) (ht.next hwalk' hround') h

/-! ### The report -/

/-- What there is to see of an item of the report. -/
structure Shown where
  offlineDeviceId : ℤ
  offlineIpAddress : String
  onlineDeviceId : ℤ
  status : DeviceMappingResultStatus

def MappingDeviceResultItem.shown (item : MappingDeviceResultItem) : Shown where
  offlineDeviceId := item.offlineDeviceId
  offlineIpAddress := item.offlineIpAddress
  onlineDeviceId := item.onlineDeviceId
  status := item.status

/-- A result does not let the design be deployed, in sight. -/
def Shown.blocksDeploy (shown : Shown) : Bool :=
  shown.status = .failed || shown.status = .notFound

theorem map_shown_numbered (walk : List MappingDeviceResultItem) :
    (walk.foldl (fun report item => report ++ [{ item with id := (report.length : ℤ) + 1 }])
      []).map (·.shown) = walk.map (·.shown) := by
  refine Loop.foldl_rule (I := fun (passed report : List MappingDeviceResultItem) =>
    report.map (·.shown) = passed.map (·.shown)) rfl fun passed item _ _ hI => ?_
  rw [List.map_append, List.map_append, hI]
  rfl

/-- The item of an online device that was not found goes into the report. -/
def reportsUnfound (found : QSet ℤ) (canDeploy : Bool) (mappingOfflineIps checkedIps : List String)
    (onlineDev : MappingDevice) : Bool :=
  !found.contains onlineDev.id &&
    !((unfoundItem canDeploy mappingOfflineIps onlineDev).status = .skip &&
      checkedIps.contains onlineDev.ipAddress)

theorem map_shown_appendUnfound (scanned : MappingTopology) (found : QSet ℤ)
    (canDeploy : Bool) (mappingOfflineIps checkedIps : List String)
    (report : List MappingDeviceResultItem) :
    (appendUnfound scanned found canDeploy mappingOfflineIps checkedIps report).map
        (·.shown) =
      report.map (·.shown) ++ (scanned.devices.filter
        (reportsUnfound found canDeploy mappingOfflineIps checkedIps)).map fun onlineDev =>
          (unfoundItem canDeploy mappingOfflineIps onlineDev).shown := by
  unfold appendUnfound
  refine Loop.foldl_rule (I := fun (passed : List MappingDevice)
      (result : List MappingDeviceResultItem) =>
    result.map (·.shown) = report.map (·.shown) ++
      (passed.filter (reportsUnfound found canDeploy mappingOfflineIps checkedIps)).map
        fun onlineDev => (unfoundItem canDeploy mappingOfflineIps onlineDev).shown)
    (List.append_nil _).symm fun passed onlineDev _ _ hI => ?_
  rw [List.filter_append, List.map_append, ← List.append_assoc]
  dsimp only at hI ⊢
  have hip : (unfoundItem canDeploy mappingOfflineIps onlineDev).onlineIpAddress =
    onlineDev.ipAddress := rfl
  rw [hip]
  split_ifs with hfound hskip
  · rw [hI, List.filter_singleton, reportsUnfound, hfound]
    exact (List.append_nil _).symm
  · rw [hI, List.filter_singleton, reportsUnfound, hskip, Bool.not_true, Bool.and_false]
    exact (List.append_nil _).symm
  · rw [Bool.not_eq_true] at hfound hskip
    rw [List.map_append, hI, List.filter_singleton, reportsUnfound, hfound, hskip]
    rfl

/-- The report of these results, in sight. -/
def reportShown (results : List Shown) (found : QSet ℤ) (onlineTopology : MappingTopology) :
    List Shown :=
  let canDeploy := !results.any (·.blocksDeploy)
  let mappingOfflineIps := (results.filter fun shown =>
    shown.status = .success || shown.status = .warning).map (·.offlineIpAddress)
  let checkedIps := (results.filter fun shown => shown.status = .checked).map (·.offlineIpAddress)
  results ++ (onlineTopology.devices.filter
    (reportsUnfound found canDeploy mappingOfflineIps checkedIps)).map fun onlineDev =>
      (unfoundItem canDeploy mappingOfflineIps onlineDev).shown

/-- **The report is in sight what it is**, but for its order. -/
theorem perm_reportShown (walk : List MappingDeviceResultItem) (found : QSet ℤ)
    (scanned : MappingTopology) :
    ((generateTopologyMappingResultIn walk found [] scanned).mappingReport.map
      (·.shown)).Perm (reportShown (walk.map (·.shown)) found scanned) := by
  have hnumbered := map_shown_numbered walk
  unfold generateTopologyMappingResultIn reportShown
  dsimp only
  generalize walk.foldl (fun report item =>
    report ++ [{ item with id := (report.length : ℤ) + 1 }]) [] = items at hnumbered ⊢
  rw [← hnumbered]
  refine ((List.perm_insertionSort _ _).map _).trans ?_
  rw [map_shown_appendUnfound]
  refine List.Perm.of_eq ?_
  have hany : (items.map (·.shown)).any (·.blocksDeploy) = items.any (·.blocksDeploy) :=
    List.any_map
  have hips : ∀ keep : DeviceMappingResultStatus → Bool,
      (((items.map (·.shown)).filter fun shown => keep shown.status).map (·.offlineIpAddress)) =
        (items.filter fun item => keep item.status).map (·.offlineIpAddress) := by
    intro keep
    rw [List.filter_map, List.map_map]
    rfl
  have hmap : (items.filter fun item => (item.status = .success || item.status = .warning) &&
      !QSet.contains [] item.offlineDeviceId) =
        items.filter fun item => item.status = .success || item.status = .warning :=
    List.filter_congr fun item _ => Bool.and_true _
  rw [hany, hips fun status => status = .success || status = .warning,
    hips fun status => status = .checked, hmap]

theorem any_congr_mem {α : Type} {l l' : List α} (h : ∀ a, a ∈ l ↔ a ∈ l') (p : α → Bool) :
    l.any p = l'.any p := by
  rw [Bool.eq_iff_iff, List.any_eq_true, List.any_eq_true]
  simp only [h]

/-- The report depends on which results there are, and which online devices were found. -/
theorem mem_reportShown_congr {results results' : List Shown} {found found' : QSet ℤ}
    (h : ∀ shown, shown ∈ results ↔ shown ∈ results') (hfound : ∀ x, x ∈ found ↔ x ∈ found')
    (shown : Shown) : shown ∈ reportShown results found scanned ↔
      shown ∈ reportShown results' found' scanned := by
  have hips : ∀ (keep : Shown → Bool) (ip : String),
      ((results.filter keep).map (·.offlineIpAddress)).contains ip =
        ((results'.filter keep).map (·.offlineIpAddress)).contains ip := by
    intro keep ip
    rw [Bool.eq_iff_iff, List.contains_iff_mem, List.contains_iff_mem]
    simp only [List.mem_map, List.mem_filter, h]
  have hitem : ∀ (canDeploy : Bool) (keep : Shown → Bool) (onlineDev : MappingDevice),
      unfoundItem canDeploy ((results.filter keep).map (·.offlineIpAddress)) onlineDev =
        unfoundItem canDeploy ((results'.filter keep).map (·.offlineIpAddress)) onlineDev := by
    intro canDeploy keep onlineDev
    unfold unfoundItem
    rw [hips keep]
  have hreports : ∀ (canDeploy : Bool) (keep keep' : Shown → Bool),
      reportsUnfound found canDeploy ((results.filter keep).map (·.offlineIpAddress))
          ((results.filter keep').map (·.offlineIpAddress)) =
        reportsUnfound found' canDeploy ((results'.filter keep).map (·.offlineIpAddress))
          ((results'.filter keep').map (·.offlineIpAddress)) := by
    intro canDeploy keep keep'
    funext onlineDev
    have hcont : QSet.contains found onlineDev.id = QSet.contains found' onlineDev.id := by
      rw [Bool.eq_iff_iff, QSet.contains_iff_mem, QSet.contains_iff_mem]
      exact hfound _
    unfold reportsUnfound
    rw [hitem, hips keep', hcont]
  unfold reportShown
  dsimp only
  rw [hreports, any_congr_mem h]
  simp only [hitem, List.mem_append, h]

theorem updateWarning_blank {ports ports' : QSet ℤ} (h : ∀ x, x ∈ ports ↔ x ∈ ports')
    (item : MappingDeviceResultItem) : blank (updateWarning designed ports item) =
      updateWarning designed ports' (blank item) := by
  have hcont : QSet.contains ports = QSet.contains ports' := by
    funext x
    rw [Bool.eq_iff_iff, QSet.contains_iff_mem, QSet.contains_iff_mem]
    exact h x
  unfold updateWarning
  rw [hcont]
  exact apply_ite blank _ _ _

/-- **The results at the end** are in sight the same. -/
theorem SameSight.finishResults (h : SameSight s t) (x : ℤ) :
    (finishResults designed s)[x]?.map blank =
      (finishResults designed t)[x]?.map blank := by
  unfold TopologyMapper.finishResults
  refine List.foldl_rel (r := fun (results results' : QMap ℤ MappingDeviceResultItem) =>
    ∀ x : ℤ, (results[x]? : Option _).map blank = (results'[x]? : Option _).map blank)
    (fun x => ?_) (fun device _ results results' hI x => ?_) x
  · have hx : s.offlineDevicesResult[x]?.map blank = t.offlineDevicesResult[x]?.map blank :=
      congrFun (congrArg Sight.results h.sight) x
    have hports : ∀ y, y ∈ t.offlineNotFoundPortDeviceIdMap ↔
        y ∈ s.offlineNotFoundPortDeviceIdMap :=
      fun y => (Set.ext_iff.1 (congrArg Sight.notFoundPort h.sight) y).symm
    have hblank : ∀ ports : QSet ℤ, (∀ y, y ∈ ports ↔ y ∈ s.offlineNotFoundPortDeviceIdMap) →
        blank ∘ updateWarning designed ports =
          updateWarning designed s.offlineNotFoundPortDeviceIdMap ∘ blank :=
      fun ports hports => funext fun item => updateWarning_blank hports item
    rw [getElem?_map, getElem?_map, map_map, map_map,
      hblank _ fun _ => .rfl, hblank _ hports, ← map_map, hx, map_map]
  · have hcont : results.contains device.id = results'.contains device.id := by
      rw [contains_eq_isSome_getElem?, contains_eq_isSome_getElem?]
      have hsome := congrArg isSome (hI device.id)
      rwa [isSome_map, isSome_map] at hsome
    rw [hcont]
    split_ifs
    · exact hI x
    · rw [getElem?_insert, getElem?_insert]
      split_ifs
      · rfl
      · exact hI x

theorem mem_map_shown_vals {results : QMap ℤ MappingDeviceResultItem}
    {walk : List MappingDeviceResultItem} (hperm : walk.Perm results.vals) {shown : Shown} :
    shown ∈ walk.map (·.shown) ↔
      ∃ (x : ℤ) (item : MappingDeviceResultItem),
        (results[x]? : Option _).map blank = some item ∧ item.shown = shown := by
  rw [List.mem_map]
  simp only [hperm.mem_iff, mem_vals]
  constructor
  · rintro ⟨item, ⟨x, hx⟩, rfl⟩
    exact ⟨x, blank item, congrArg (Option.map blank) hx, rfl⟩
  · rintro ⟨x, item, hitem, rfl⟩
    obtain ⟨own, hown, rfl⟩ := map_eq_some_iff.1 hitem
    exact ⟨own, ⟨x, hown⟩, rfl⟩

theorem reports_iff {result : TopologyMappingResult} {status : DeviceMappingResultStatus} :
    result.Says deviceId partner status ↔ ∃ shown ∈ result.mappingReport.map (·.shown),
      shown.offlineDeviceId = deviceId ∧ shown.onlineDeviceId = partner ∧
        shown.status = status := by
  constructor
  · rintro ⟨item, hitem, hsaid⟩
    exact ⟨item.shown, List.mem_map_of_mem hitem, hsaid⟩
  · rintro ⟨shown, hshown, hsaid⟩
    obtain ⟨item, hitem, rfl⟩ := List.mem_map.1 hshown
    exact ⟨item, hitem, hsaid⟩

/-- **The same to see makes the same report**, whatever the order of the results. -/
theorem SameSight.sameMapping (h : SameSight s t) {results results' : List MappingDeviceResultItem}
    (hress : results.Perm (TopologyMapper.finishResults designed s).vals)
    (hress' : results'.Perm (TopologyMapper.finishResults designed t).vals) :
    SameMapping designed
      (.ok (generateTopologyMappingResultIn results s.foundOnlineDeviceIdMap [] scanned))
      (.ok (generateTopologyMappingResultIn results' t.foundOnlineDeviceIdMap []
        scanned)) := by
  have hmem : ∀ shown, shown ∈ (generateTopologyMappingResultIn results s.foundOnlineDeviceIdMap []
      scanned).mappingReport.map (·.shown) ↔
      shown ∈ (generateTopologyMappingResultIn results' t.foundOnlineDeviceIdMap []
        scanned).mappingReport.map (·.shown) := by
    intro shown
    rw [(perm_reportShown _ _ _).mem_iff, (perm_reportShown _ _ _).mem_iff]
    refine mem_reportShown_congr (fun shown => ?_) (fun x => ?_) shown
    · rw [mem_map_shown_vals hress, mem_map_shown_vals hress']
      simp only [h.finishResults]
    · exact Set.ext_iff.1 (congrArg Sight.found h.sight) x
  refine ⟨fun device _ partner status => ?_, congrArg not ?_⟩
  · rw [reports_iff, reports_iff]
    simp only [hmem]
  · have hblocks : ∀ report : List MappingDeviceResultItem,
        report.any (·.blocksDeploy) = (report.map (·.shown)).any (·.blocksDeploy) :=
      fun report => by
        rw [List.any_map]
        rfl
    exact (hblocks _).trans ((any_congr_mem hmem _).trans (hblocks _).symm)

/-- **Without a choice every order maps the same way.** -/
theorem OneChoice.sameMapping (hchoice : OneChoice designed scanned)
    (hjoin : LinksJoin scanned) {result result' : Except String TopologyMappingResult}
    (h : MapsTo designed scanned result)
    (h' : MapsTo designed scanned result') :
    SameMapping designed result result' := by
  have htogether : ∀ {r r'}, Runs designed scanned
      (initialVars designed scanned) r → Runs designed scanned
        (initialVars designed scanned) r' → Together SameSight r r' :=
    fun h h' => h.together h' hjoin hchoice .start .start ⟨rfl, .refl _⟩
  cases h with
  | error hrun =>
    cases h' with
    | error _ => exact trivial
    | ok hrun' _ => cases htogether hrun hrun'
  | ok hrun hress =>
    cases h' with
    | error hrun' => cases htogether hrun hrun'
    | ok hrun' hress' =>
      cases htogether hrun hrun' with
      | ok h => exact h.sameMapping hress hress'

/-! ### A choice shows -/

/-- The device behind a port gets the device that the port leads to for its partner. -/
theorem Visit.WellFormed.partner_opposite (hwf : visit.WellFormed)
    (hport : visit.offlineLeave[port]? = some opposite)
    (honline : visit.onlineLeave[port]? = some online) (hnone : v.results opposite = none)
    (hunmapped : online ∉ visit.mapped) :
    (v.opposite visit opposite online).partner opposite = some online := by
  obtain ⟨offlineOpposite, hoff, -⟩ := hwf.offline port opposite hport
  obtain ⟨onlineOpposite, hfind⟩ := hwf.online port online honline
  obtain ⟨status, message, -, hitem⟩ := pairItem_eq offlineOpposite onlineOpposite
  unfold Sight.opposite
  rw [hoff, hfind, hnone, if_neg (by simp)]
  dsimp only
  rw [if_neg hunmapped]
  unfold Sight.partner
  dsimp only
  rw [update_self, hitem]
  exact congrArg some (mem_of_findDeviceById hfind).2

/-- **The port that is looked at first** gives the device its partner. -/
theorem exists_round_partner (hjoin : LinksJoin scanned)
    (hs : Reaches designed scanned s)
    (hqueue : s.offlineDeviceIdQueue = deviceId :: queue)
    (hnext : dequeuedOnlineDeviceId designed s deviceId = (partner, true))
    (hne : opposite ≠ deviceId) (hnone : s.offlineDevicesResult[opposite]? = none)
    (hoffers : Offers designed scanned (QSet.insert s.onlineMappedDeviceIdMap partner)
      deviceId partner opposite online port) : ∃ walk t, RoundOrder designed s walk ∧
      mappingRoundIn walk designed scanned s = .next t ∧
      t.sight.partner opposite = some online := by
  obtain ⟨hport, honline, hunmapped⟩ := hoffers
  have hmem : port ∈ (offlineLeaveIfOppositeDevMap designed deviceId).keys :=
    mem_keys_iff.2 ⟨opposite, hport⟩
  have hwalk : (port :: (offlineLeaveIfOppositeDevMap designed deviceId).keys.erase
      port).Perm (offlineLeaveIfOppositeDevMap designed deviceId).keys :=
    (List.perm_cons_erase hmem).symm
  have horder : RoundOrder designed s
      (port :: (offlineLeaveIfOppositeDevMap designed deviceId).keys.erase port) := by
    intro x rest hx
    obtain ⟨rfl, -⟩ := List.cons.inj (hqueue.symm.trans hx)
    exact hwalk
  rcases (hs.inv hjoin).enter hqueue hnext with ⟨-, ⟨err, herr⟩, -⟩ |
    ⟨offlineDevice, onlineDevice, hent⟩
  · -- a device with a link is there
    obtain ⟨⟨link, hlink, hend⟩, -⟩ :=
      leads_generateLeaveInterfaceOppositeDeviceMap _ _ _ _ _ _ honline
    have hdev : ∃ device ∈ scanned.devices, device.id = partner := by
      rcases hend with ⟨rfl, -⟩ | ⟨rfl, -⟩
      · exact (hjoin link (mem_deviceLinks hlink)).2
      · exact (hjoin link (mem_deviceLinks hlink)).1
    obtain ⟨device, -, hfind, -⟩ := exists_findDeviceById hdev
    cases hfind.symm.trans herr
  · obtain ⟨t, hround, hsight, -⟩ := hent.exists_round hjoin hqueue hnext hwalk
    refine ⟨_, t, horder, hround, ?_⟩
    have hwf : (visitOf designed scanned deviceId partner offlineDevice
      onlineDevice (QSet.insert s.onlineMappedDeviceIdMap partner)).WellFormed :=
      wellFormed_visitOf hjoin _ _ _ _ _
    have hnone' : (enterDevices designed deviceId offlineDevice onlineDevice
        { s with offlineDeviceIdQueue := queue, onlineDeviceId := partner }).sight.results
          opposite = none := by
      rw [← not_isSome_iff_eq_none]
      intro hsome
      rcases hent.held opposite hsome with hheld | heq
      · have hempty : s.sight.results opposite = none := congrArg (Option.map blank) hnone
        rw [hempty] at hheld
        cases hheld
      · exact hne heq
    generalize (enterDevices designed deviceId offlineDevice onlineDevice
      { s with offlineDeviceIdQueue := queue, onlineDeviceId := partner }) = entered
      at hent hsight hnone'
    have hfirst : (entered.sight.port (visitOf designed scanned deviceId
        partner offlineDevice onlineDevice (QSet.insert s.onlineMappedDeviceIdMap partner))
        port).partner
          opposite = some online := by
      have hpart := hwf.partner_opposite hport honline hnone' hunmapped
      have hvalue : (offlineLeaveIfOppositeDevMap designed deviceId).value port =
        opposite := value_of_getElem? hport
      unfold Sight.port
      rw [show (visitOf designed scanned deviceId partner offlineDevice
        onlineDevice (QSet.insert s.onlineMappedDeviceIdMap partner)).onlineLeave[port]? =
          some online from honline]
      exact hvalue.symm ▸ hpart
    rw [hsight, List.foldl_cons]
    exact (hent.foldl _ _ (Sight.partner_port hent.own hent.own port)
      (hent.sound.round (mem_of_findDeviceById hent.offline).2
        (mem_of_findDeviceById hent.online).1 port)).1 opposite online hfirst

/-! ### Every walk ends -/

/-- How many online devices are not mapped yet. -/
def unmapped (onlineTopology : MappingTopology) (s : MapperVars) : ℕ :=
  ((onlineTopology.devices.map (·.id)).toFinset \ s.onlineMappedDeviceIdMap.toFinset).card

theorem exists_roundOrder (designed : MappingTopology) (s : MapperVars) :
    ∃ walk, RoundOrder designed s walk := by
  cases hqueue : s.offlineDeviceIdQueue with
  | nil => exact ⟨[], fun x rest hx => by cases hqueue.symm.trans hx⟩
  | cons deviceId queue =>
    refine ⟨(offlineLeaveIfOppositeDevMap designed deviceId).keys,
      fun x rest hx => ?_⟩
    obtain ⟨rfl, -⟩ := List.cons.inj (hqueue.symm.trans hx)
    exact .refl _

/-- A round that goes on maps an online device, or takes one off the queue. -/
theorem RunInv.lt_of_next (h : RunInv designed scanned s)
    (hjoin : LinksJoin scanned) (hwalk : RoundOrder designed s walk)
    (hround : mappingRoundIn walk designed scanned s = .next t) :
    unmapped scanned t < unmapped scanned s ∨
      (unmapped scanned t = unmapped scanned s ∧
        t.offlineDeviceIdQueue.length < s.offlineDeviceIdQueue.length) := by
  obtain ⟨deviceId, queue, hqueue, ⟨partner, offlineDevice, onlineDevice, -, hent, -,
    hframe⟩ | ⟨-, rfl⟩⟩ := h.round_cases hjoin hwalk hround
  · obtain ⟨hmem, hid⟩ := mem_of_findDeviceById hent.online
    have hmap : t.onlineMappedDeviceIdMap = QSet.insert s.onlineMappedDeviceIdMap partner :=
      hframe.mapped.trans hent.mapped
    refine .inl (Finset.card_lt_card ((Finset.ssubset_iff_of_subset ?_).2 ⟨partner, ?_, ?_⟩))
    · rw [hmap]
      refine Finset.sdiff_subset_sdiff (Finset.Subset.refl _) fun x hx => ?_
      rw [List.mem_toFinset] at hx ⊢
      exact QSet.mem_insert.2 (.inl hx)
    · rw [Finset.mem_sdiff, List.mem_toFinset, List.mem_toFinset]
      exact ⟨List.mem_map.2 ⟨onlineDevice, hmem, hid⟩, hent.unmapped⟩
    · rw [hmap, Finset.mem_sdiff, List.mem_toFinset, List.mem_toFinset]
      exact fun hout => hout.2 (QSet.mem_insert.2 (.inr rfl))
  · refine .inr ⟨rfl, ?_⟩
    rw [hqueue]
    exact Nat.lt_succ_self _

theorem RunInv.done_or_next (h : RunInv designed scanned s)
    (hjoin : LinksJoin scanned) (hstarted : s ≠ initialVars designed scanned)
    (hwalk : RoundOrder designed s walk) :
    mappingRoundIn walk designed scanned s = .done (.ok s) ∨
      ∃ t, mappingRoundIn walk designed scanned s = .next t := by
  cases hqueue : s.offlineDeviceIdQueue with
  | nil =>
    left
    unfold mappingRoundIn
    rw [hqueue]
  | cons deviceId queue =>
    cases hnext : dequeuedOnlineDeviceId designed s deviceId with
    | mk partner goes =>
      cases goes with
      | false =>
        unfold mappingRoundIn
        simp only [hqueue, hnext, Bool.false_eq_true, if_false]
        split_ifs
        · exact .inl rfl
        · exact .inr ⟨_, rfl⟩
      | true =>
        rcases h.enter hqueue hnext with ⟨hstart, -, -⟩ | ⟨offlineDevice, onlineDevice, hent⟩
        · exact absurd hstart hstarted
        · obtain ⟨t, hround, -, -⟩ := hent.exists_round hjoin hqueue hnext (hwalk _ _ hqueue)
          exact .inr ⟨t, hround⟩

/-- **Every walk ends**, and keeps the partners that it found. -/
theorem RunInv.exists_runs {s : MapperVars} (h : RunInv designed scanned s)
    (hjoin : LinksJoin scanned) (hpart : s.sight.partner opposite = some online) :
    ∃ t, Runs designed scanned s (.ok t) ∧
      RunInv designed scanned t ∧ t.sight.partner opposite = some online := by
  obtain ⟨walk, hwalk⟩ := exists_roundOrder designed s
  have hstarted : s ≠ initialVars designed scanned := by
    rintro rfl
    simp [Sight.partner, MapperVars.sight, initialVars] at hpart
  rcases h.done_or_next hjoin hstarted hwalk with hdone | ⟨t, hround⟩
  · exact ⟨s, .done hwalk hdone, h, hpart⟩
  · obtain ⟨ht, hkept⟩ := h.next hjoin hwalk hround
    have hless := h.lt_of_next hjoin hwalk hround
    obtain ⟨u, hruns, hu, hpart'⟩ := ht.exists_runs hjoin (hkept _ _ hpart)
    exact ⟨u, .next hwalk hround hruns, hu, hpart'⟩
termination_by (unmapped scanned s, s.offlineDeviceIdQueue.length)
decreasing_by
  rcases hless with hless | ⟨hsame, hless⟩
  · exact Prod.Lex.left _ _ hless
  · exact hsame ▸ Prod.Lex.right _ hless

/-! ### Different partners make different reports -/

/-- A result of the walk stays, but for a warning. -/
theorem finishResults_of_some (designed : MappingTopology) {own : MappingDeviceResultItem}
    (h : s.offlineDevicesResult[x]? = some own) : (finishResults designed s)[x]? =
      some (updateWarning designed s.offlineNotFoundPortDeviceIdMap own) := by
  unfold finishResults
  refine List.foldlRecOn (motive := fun results : QMap ℤ MappingDeviceResultItem => results[x]? =
    some (updateWarning designed s.offlineNotFoundPortDeviceIdMap own)) _ _ ?_
    fun results hI device _ => ?_
  · rw [getElem?_map, h]
    rfl
  · split_ifs with hheld
    · exact hI
    · have hne : device.id ≠ x := by
        rintro rfl
        rw [contains_eq_isSome_getElem?, hI] at hheld
        exact hheld rfl
      rw [getElem?_insert, if_neg (by simpa using hne)]
      exact hI

/-- A device without a result is reported under its own id. -/
theorem offlineDeviceId_finishResults (h : s.offlineDevicesResult[x]? = none)
    {item : MappingDeviceResultItem} (hitem : (finishResults designed s)[x]? = some item) :
    item.offlineDeviceId = x := by
  revert item
  unfold finishResults
  refine List.foldlRecOn (motive := fun results : QMap ℤ MappingDeviceResultItem =>
    ∀ {item : MappingDeviceResultItem}, results[x]? = some item → item.offlineDeviceId = x) _ _ ?_
    fun results hI device _ => ?_
  · intro item hitem
    rw [getElem?_map, h] at hitem
    cases hitem
  · intro item hitem
    split_ifs at hitem
    · exact hI hitem
    · rw [getElem?_insert] at hitem
      split_ifs at hitem with hx
      · cases hitem
        exact Std.LawfulEqCmp.eq_of_compare hx
      · exact hI hitem

theorem updateWarning_eq (designed : MappingTopology) (ports : QSet ℤ)
    (item : MappingDeviceResultItem) :
    updateWarning designed ports item = item ∨
      updateWarning designed ports item = { item with status := .warning } := by
  unfold updateWarning
  split_ifs
  · exact .inr rfl
  · exact .inl rfl

/-- **A device with a partner is reported with it**, and with no other one, but for the items of
online devices that were not found. -/
theorem RunInv.reported (h : RunInv designed scanned s)
    (hpart : s.sight.partner opposite = some online) : ∃ status, status ≠ .skip ∧
      (generateTopologyMappingResultIn (finishResults designed s).vals
        s.foundOnlineDeviceIdMap [] scanned).Says opposite online status ∧
      ∀ online' status', (generateTopologyMappingResultIn (finishResults designed s).vals
        s.foundOnlineDeviceIdMap [] scanned).Says opposite online' status' →
          online' = online ∨ status' = .skip ∨ (status' = .failed ∧ status ≠ .failed) := by
  -- the item of the device
  obtain ⟨seen, hseen, rfl⟩ := map_eq_some_iff.1 hpart
  obtain ⟨own, hown, rfl⟩ := map_eq_some_iff.1 hseen
  obtain ⟨hid, hst, -⟩ := h.sound opposite (blank own) hseen
  have hfinal := finishResults_of_some designed hown
  have hkept := updateWarning_eq designed s.offlineNotFoundPortDeviceIdMap own
  generalize updateWarning designed s.offlineNotFoundPortDeviceIdMap own = item
    at hfinal hkept
  have hshown : item.shown ∈ (finishResults designed s).vals.map (·.shown) :=
    List.mem_map_of_mem (mem_vals.2 ⟨opposite, hfinal⟩)
  refine ⟨item.status, ?_, ?_, fun online' status' hsaid => ?_⟩
  · rcases hkept with rfl | rfl
    · rcases hst with hst | hst <;> exact fun hskip => by cases hskip.symm.trans hst
    · exact nofun
  · refine reports_iff.2 ⟨item.shown, (perm_reportShown _ _ _).mem_iff.2
      (List.mem_append_left _ hshown), ?_, ?_, rfl⟩
    · rcases hkept with rfl | rfl <;> exact hid
    · rcases hkept with rfl | rfl <;> rfl
  · obtain ⟨shown, hmem, hoff, hpart', rfl⟩ := reports_iff.1 hsaid
    rcases List.mem_append.1 ((perm_reportShown _ _ _).mem_iff.1 hmem) with hmem | hmem
    · -- a result
      obtain ⟨item', hitem', rfl⟩ := List.mem_map.1 hmem
      obtain ⟨x, hx⟩ := mem_vals.1 hitem'
      have hkey : item'.offlineDeviceId = x := by
        cases hres : s.offlineDevicesResult[x]? with
        | none => exact offlineDeviceId_finishResults hres hx
        | some result =>
          have hid' := (h.sound x (blank result) (congrArg (Option.map blank) hres)).1
          obtain rfl := Option.some.inj
            ((finishResults_of_some designed hres).symm.trans hx)
          rcases updateWarning_eq designed s.offlineNotFoundPortDeviceIdMap result with
            hsame | hsame <;> rw [hsame] <;> exact hid'
      obtain rfl : x = opposite := hkey.symm.trans hoff
      obtain rfl := Option.some.inj (hfinal.symm.trans hx)
      left
      rw [← hpart']
      rcases hkept with rfl | rfl <;> rfl
    · -- an online device that was not found
      obtain ⟨onlineDev, -, rfl⟩ := List.mem_map.1 hmem
      right
      unfold unfoundItem MappingDeviceResultItem.shown
      dsimp only
      split_ifs with hfailed
      · refine .inr ⟨rfl, fun hblocked => ?_⟩
        have hnot := (Bool.and_eq_true_iff.1 hfailed).1
        rw [Bool.not_eq_true', List.any_eq_false] at hnot
        refine hnot item.shown hshown ?_
        unfold Shown.blocksDeploy
        rw [show item.shown.status = .failed from hblocked]
        rfl
      · exact .inl rfl

/-- **Two partners for a device make two mappings.** -/
theorem not_sameMapping_of_partner (hs : RunInv designed scanned s)
    (ht : RunInv designed scanned t)
    (hpart : s.sight.partner opposite = some online)
    (hpart' : t.sight.partner opposite = some online') (hne : online ≠ online')
    (hopposite : ∃ device ∈ designed.devices, device.id = opposite) :
    ¬SameMapping designed
      (.ok (generateTopologyMappingResultIn (finishResults designed s).vals
        s.foundOnlineDeviceIdMap [] scanned))
      (.ok (generateTopologyMappingResultIn (finishResults designed t).vals
        t.foundOnlineDeviceIdMap [] scanned)) := by
  rintro ⟨hsaid, -⟩
  obtain ⟨device, hdev, rfl⟩ := hopposite
  obtain ⟨status, hskip, hown, honly⟩ := hs.reported hpart
  obtain ⟨status', hskip', hown', honly'⟩ := ht.reported hpart'
  rcases honly' _ _ ((hsaid device hdev _ _).1 hown) with heq | heq | ⟨hfailed, -⟩
  · exact hne heq
  · exact hskip heq
  · rcases honly _ _ ((hsaid device hdev _ _).2 hown') with heq | heq | ⟨-, hnot⟩
    · exact hne heq.symm
    · exact hskip' heq
    · exact hnot hfailed

theorem Reaches.runs {r : Except String MapperVars} (h : Reaches designed scanned s)
    (hruns : Runs designed scanned s r) :
    Runs designed scanned (initialVars designed scanned) r := by
  induction h with
  | start => exact hruns
  | next _ hwalk hround ih => exact ih (.next hwalk hround hruns)

variable (hjoin : LinksJoin scanned) (hs : Reaches designed scanned s)
  (hqueue : s.offlineDeviceIdQueue = deviceId :: queue)
  (hnext : dequeuedOnlineDeviceId designed s deviceId = (partner, true))
  (hne : opposite ≠ deviceId) (hnone : s.offlineDevicesResult[opposite]? = none)
  (hoffers : Offers designed scanned
    (QSet.insert s.onlineMappedDeviceIdMap partner) deviceId partner opposite online port)
include hjoin hs hqueue hnext hne hnone hoffers

/-- **Whatever a device is offered, some walk gives it.** -/
theorem exists_runs_partner :
    ∃ t, Runs designed scanned (initialVars designed scanned) (.ok t) ∧
      RunInv designed scanned t ∧ t.sight.partner opposite = some online := by
  obtain ⟨walk, t, hwalk, hround, hpart⟩ :=
    exists_round_partner hjoin hs hqueue hnext hne hnone hoffers
  have ht := hs.next hwalk hround
  obtain ⟨u, hruns, hu, hpart'⟩ := (ht.inv hjoin).exists_runs hjoin hpart
  exact ⟨u, ht.runs hruns, hu, hpart'⟩

/-- **A choice shows**: two offers make two mappings. -/
theorem exists_not_sameMapping (hoffers' : Offers designed scanned
      (QSet.insert s.onlineMappedDeviceIdMap partner) deviceId partner opposite online' port')
    (hdiff : online ≠ online') :
    ∃ result result', MapsTo designed scanned result ∧
      MapsTo designed scanned result' ∧
      ¬SameMapping designed result result' := by
  obtain ⟨t, ht, htinv, htpartner⟩ := exists_runs_partner hjoin hs hqueue hnext hne hnone hoffers
  obtain ⟨u, hu, huinv, hupartner⟩ := exists_runs_partner hjoin hs hqueue hnext hne hnone hoffers'
  have hopposite := exists_device_of_mapping
    ((leads_generateLeaveInterfaceOppositeDeviceMap _ _ _ _ _ _ hoffers.offline).2 rfl)
  exact ⟨_, _, .ok ht (.refl _), .ok hu (.refl _),
    not_sameMapping_of_partner htinv huinv htpartner hupartner hdiff hopposite⟩

omit hjoin hs hqueue hnext hne hnone hoffers

variable {offlineTopology onlineTopology : MappingTopology}

/-- **Every order maps the same way exactly when no designed device has a choice**, for a scanned
network whose links join its devices. -/
theorem sameMapping_iff_oneChoice (hjoin : LinksJoin onlineTopology) :
    (∀ result result', MapsTo offlineTopology onlineTopology result →
      MapsTo offlineTopology onlineTopology result' → SameMapping offlineTopology result result') ↔
      OneChoice offlineTopology onlineTopology := by
  refine ⟨fun h s hs offlineDeviceId queue hqueue partner hnext opposite hne hnone online port
    online' port' hoffers hoffers' => ?_, fun hchoice _ _ => hchoice.sameMapping hjoin⟩
  by_contra hdiff
  obtain ⟨result, result', hres, hres', hnot⟩ :=
    exists_not_sameMapping hjoin hs hqueue hnext hne hnone hoffers hoffers' hdiff
  exact hnot (h result result' hres hres')

/-! ### Two cables to one switch -/

/-- A switch of the design or of the scan. -/
def switchAt (id : ℤ) : MappingDevice where
  id := id
  modelName := "TSN-G5008"
  vendor := "MOXA"
  deviceType := .switch

/-- The design: two switches with two cables between them. -/
def twoCables : MappingTopology where
  devices := [switchAt 1, switchAt 2]
  links := [⟨1, 1, 1, 2, 1⟩, ⟨2, 1, 2, 2, 2⟩]
  sourceDeviceId := 1

/-- The scan: the cables lead to two switches. -/
def twoSwitches : MappingTopology where
  devices := [switchAt 11, switchAt 12, switchAt 13]
  links := [⟨1, 11, 1, 12, 1⟩, ⟨2, 11, 2, 13, 2⟩]
  sourceDeviceId := 11

theorem linksJoin_twoSwitches : LinksJoin twoSwitches := by
  unfold LinksJoin
  decide

/-- The theorem at the two cables. -/
theorem sameMapping_iff_oneChoice_twoCables :
    (∀ result result', MapsTo twoCables twoSwitches result → MapsTo twoCables twoSwitches result' →
      SameMapping twoCables result result') ↔ OneChoice twoCables twoSwitches :=
  sameMapping_iff_oneChoice linksJoin_twoSwitches

/-- **The order of the ports shows**: the second switch gets the partner behind the port that the
walk looks at first. -/
theorem not_sameMapping_twoCables : ∃ result result', MapsTo twoCables twoSwitches result ∧
    MapsTo twoCables twoSwitches result' ∧ ¬SameMapping twoCables result result' := by
  have hqueue : (initialVars twoCables twoSwitches).offlineDeviceIdQueue = [1] := by decide
  have hnext : dequeuedOnlineDeviceId twoCables (initialVars twoCables twoSwitches) 1 =
    (11, true) := by decide
  have hnone : (initialVars twoCables twoSwitches).offlineDevicesResult[(2 : ℤ)]? = none := by
    decide
  have hoffers : Offers twoCables twoSwitches
      (QSet.insert (initialVars twoCables twoSwitches).onlineMappedDeviceIdMap 11) 1 11 2 12 1 :=
    ⟨by decide, by decide, by decide⟩
  have hoffers' : Offers twoCables twoSwitches
      (QSet.insert (initialVars twoCables twoSwitches).onlineMappedDeviceIdMap 11) 1 11 2 13 2 :=
    ⟨by decide, by decide, by decide⟩
  exact exists_not_sameMapping linksJoin_twoSwitches .start hqueue hnext (by decide) hnone hoffers
    hoffers' (by decide)

end TopologyMapper
end Sebastian

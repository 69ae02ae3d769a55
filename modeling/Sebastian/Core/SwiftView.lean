/-
# The turbo ring in any order

`core/src/act_core_redundant_swift.cpp`: the walk of `ComputeRedundantSwift` goes
over the interfaces of a device and over the set of the neighbors it has found, a
`QSet`, which is enumerated in an order of its own.  `swiftRoundIn` is the round of
the walk for any such order, and `swiftRound` the one for the order of insertion.

A project comes into the walk only by what it shows at each device: the kind of
device, and the neighbors with the links to them (`SwiftView`).  `swiftRoundIn_cases`
says what one round makes of a device in terms of that view, and `exists_swiftRun`
that the walk comes to an end in every order.
-/

import Mathlib.Data.Finset.Union
import Sebastian.Core.RedundantSwift
import Sebastian.Lib.Ends

namespace Sebastian
namespace Core

open Finset List

/-! ### The operations, in any order -/

/-- One round of the walk of `ComputeRedundantSwift`, with the neighbors found at a device
enumerated as `walk` has it. -/
def swiftRoundIn (walk : ℤ → QSet ℤ → List ℤ) (monitor : Monitor) (project : Project)
    (s : SwiftSearch) : Iter SwiftSearch SwiftSearch :=
  match s.queue with
  | [] => .done s
  | deviceId :: queue =>
    let tier := s.tierMap.value deviceId
    let device := (project.getDeviceById deviceId).getD {}
    if device.deviceType ≠ .endStation ∧ (2 < tier ∨ !device.deviceProperty.stpRstp.swift) then
      .next { s with queue := queue }
    else
      let found := (seenLinks monitor project deviceId device).foldl
        (visitSwiftLink s.swiftMap deviceId tier) { tierMap := s.tierMap }
      if found.accepts device tier then
        .next {
          queue := queue ++ walk deviceId (found.neighborMap.value (tier + 1))
          swiftMap := s.swiftMap.update tier (QSet.insert · deviceId)
          tierMap := found.tierMap }
      else .next { s with queue := queue, tierMap := found.tierMap }

/-- The walk before its first round. -/
def swiftStart (swift : Swift) : SwiftSearch where
  queue := [swift.rootDevice, swift.backupRootDevice]
  tierMap := ((∅ : QMap ℤ Int16).insert swift.rootDevice 0).insert swift.backupRootDevice 0

/-- `ComputeRedundantSwift` with its sets enumerated as `walk` has it. -/
def computeRedundantSwiftIn (walk : ℤ → QSet ℤ → List ℤ) (fuel : ℕ) (monitor : Monitor)
    (project : Project) (swift : Swift) : Option (Status × Swift) :=
  if !swift.active then some (.success, swift)
  else
    let swift := { swift with deviceTierMap := ∅, links := [] }
    match checkRedundantSwift monitor project swift with
    | .error status => some (status, swift)
    | .ok () =>
      (Loop.run (swiftRoundIn walk monitor project) fuel (swiftStart swift)).map fun s =>
        let tiers := deviceTierMapOf s.swiftMap
        (.success, { swift with deviceTierMap := tiers, links := swiftLinks project tiers })

/-! ### What a project shows to the walk -/

/-- What the walk sees of a network: the end stations, the devices that support a ring, and
the neighbors of each device, with the link to them. -/
structure SwiftView where
  endStation : ℤ → Bool
  supports : ℤ → Bool
  links : ℤ → Finset (ℤ × ℤ)

namespace SwiftView

/-- The neighbors of a device. -/
def neighbors (view : SwiftView) (id : ℤ) : Finset ℤ := (view.links id).image Prod.fst

/-- The devices next to one of these. -/
def seenFrom (view : SwiftView) (ids : Finset ℤ) : Finset ℤ := ids.biUnion view.neighbors

/-- The walk does not skip the device. -/
def examines (view : SwiftView) (tier : Int16) (id : ℤ) : Bool :=
  view.endStation id || (decide (tier ≤ 2) && view.supports id)

/-- The walk takes the device into this tier, when `above` is the tier above it and `level`
is what was marked with this tier. -/
def Accepts (view : SwiftView) (tier : Int16) (above level : Finset ℤ) (id : ℤ) : Prop :=
  tier = 0 ∨ view.endStation id = true ∨
    ((view.neighbors id ∩ above).card = 2 ∧
      (((view.links id).filter fun p => p.1 ∈ above).image Prod.snd).card = 2 ∧
      view.neighbors id ∩ level ⊆ above)

instance (view : SwiftView) (tier : Int16) (above level : Finset ℤ) :
    DecidablePred (view.Accepts tier above level) :=
  fun _ => inferInstanceAs (Decidable (_ ∨ _ ∨ _))

theorem Accepts.mono {view : SwiftView} {tier : Int16} {above level level' : Finset ℤ} {id : ℤ}
    (h : view.Accepts tier above level id)
    (hlevel : ∀ n ∈ view.neighbors id, n ∈ level' → n ∈ level) :
    view.Accepts tier above level' id := by
  refine h.imp_right (Or.imp_right fun ⟨hnbrs, hlinks, hlevels⟩ => ?_)
  refine ⟨hnbrs, hlinks, fun n hn => ?_⟩
  obtain ⟨hn, hmem⟩ := mem_inter.1 hn
  exact hlevels (mem_inter.2 ⟨hn, hlevel n hn hmem⟩)

theorem mem_seenFrom {view : SwiftView} {ids : Finset ℤ} {n : ℤ} :
    n ∈ view.seenFrom ids ↔ ∃ x ∈ ids, n ∈ view.neighbors x := mem_biUnion

end SwiftView

/-- What a project shows to the walk. -/
def swiftView (monitor : Monitor) (project : Project) : SwiftView where
  endStation id := ((project.getDeviceById id).getD {}).deviceType = .endStation
  supports id := ((project.getDeviceById id).getD {}).deviceProperty.stpRstp.swift
  links id := ((seenLinks monitor project id ((project.getDeviceById id).getD {})).map
    fun link => (link.neighborId id, link.id)).toFinset

variable {monitor : Monitor} {project : Project} {walk : ℤ → QSet ℤ → List ℤ} {s s' : SwiftSearch}
  {id n : ℤ} {rest : List ℤ} {tier : Int16}

theorem mem_links_swiftView {p : ℤ × ℤ} : p ∈ (swiftView monitor project).links id ↔
    ∃ link ∈ seenLinks monitor project id ((project.getDeviceById id).getD {}),
      (link.neighborId id, link.id) = p := by
  unfold swiftView
  rw [mem_toFinset, List.mem_map]

theorem mem_neighbors_swiftView : n ∈ (swiftView monitor project).neighbors id ↔
    ∃ link ∈ seenLinks monitor project id ((project.getDeviceById id).getD {}),
      link.neighborId id = n := by
  unfold SwiftView.neighbors
  rw [mem_image]
  constructor
  · rintro ⟨p, hp, rfl⟩
    obtain ⟨link, hlink, rfl⟩ := mem_links_swiftView.1 hp
    exact ⟨link, hlink, rfl⟩
  · rintro ⟨link, hlink, rfl⟩
    exact ⟨_, mem_links_swiftView.2 ⟨link, hlink, rfl⟩, rfl⟩

/-! ### One round -/

/-- The tier above this one, as far as it is accepted. -/
def SwiftSearch.above (s : SwiftSearch) (tier : Int16) : Finset ℤ :=
  if 0 < tier then (s.swiftMap.value (tier - 1)).toFinset else ∅

/-- What was marked with this tier, among these devices. -/
def SwiftSearch.level (s : SwiftSearch) (ids : Finset ℤ) (tier : Int16) : Finset ℤ :=
  ids.filter fun n => s.tierMap[n]? = some tier

/-- The walk takes the device as it stands. -/
def SwiftSearch.Takes (s : SwiftSearch) (view : SwiftView) (tier : Int16) (id : ℤ) : Prop :=
  view.Accepts tier (s.above tier) (s.level (view.neighbors id) tier) id

theorem SwiftSearch.mem_above {s : SwiftSearch} :
    n ∈ s.above tier ↔ 0 < tier ∧ n ∈ s.swiftMap.value (tier - 1) := by
  unfold SwiftSearch.above
  split_ifs with h
  · simp [h]
  · simp [h]

/-- **What holds throughout the walk**: what is queued is marked, and what is accepted is
marked with its tier. -/
structure SwiftSearch.Sound (s : SwiftSearch) : Prop where
  queued : ∀ x ∈ s.queue, ∃ t, s.tierMap[x]? = some t
  accepted : ∀ t, ∀ x ∈ s.swiftMap.value t, s.tierMap[x]? = some t

/-- The neighbors of the same tier that were not accepted above it. -/
theorem mem_neighborMap_level {swiftMap : QMap Int16 (QSet ℤ)} {tierMap : QMap ℤ Int16}
    (hswift : ∀ x ∈ swiftMap.value (tier - 1), ∃ t, tierMap[x]? = some t) (links : List Link) :
    n ∈ (links.foldl (visitSwiftLink swiftMap id tier) { tierMap := tierMap }).neighborMap.value
        tier ↔
      tierMap[n]? = some tier ∧ ¬(0 < tier ∧ n ∈ swiftMap.value (tier - 1)) ∧
        ∃ link ∈ links, link.neighborId id = n := by
  obtain ⟨hup, hdown, -⟩ := tier_ne tier
  refine Loop.foldl_rule (I := fun seen found =>
    NeighborsFound swiftMap tierMap id tier seen found ∧
      (n ∈ found.neighborMap.value tier ↔ tierMap[n]? = some tier ∧
        ¬(0 < tier ∧ n ∈ swiftMap.value (tier - 1)) ∧ ∃ link ∈ seen, link.neighborId id = n))
    ⟨.init, by simp⟩ (fun passed link _ _ ⟨hfound, hlevel⟩ => ⟨hfound.visit hswift, ?_⟩) |>.2
  rw [exists_mem_append_singleton]
  generalize passed.foldl (visitSwiftLink swiftMap id tier) { tierMap := tierMap } = found
    at hfound hlevel ⊢
  unfold visitSwiftLink
  dsimp only
  have hold : tierMap[n]? = some tier → found.tierMap[n]? = some tier := hfound.old n tier
  split_ifs with hnew habove hsame
  · -- a new neighbor is marked with the tier below
    rw [SwiftNeighbors.mem_neighborMap_note, hlevel]
    refine ⟨fun h => ?_, ?_⟩
    · rcases h with ⟨ht, hnot, hseen⟩ | ⟨he, -⟩
      · exact ⟨ht, hnot, .inl hseen⟩
      · exact absurd he hup
    · rintro ⟨ht, hnot, hseen | rfl⟩
      · exact .inl ⟨ht, hnot, hseen⟩
      · simp [Std.TreeMap.contains_eq_isSome_getElem?, hold ht] at hnew
  · -- a neighbor accepted in the tier above
    rw [SwiftNeighbors.mem_neighborMap_note, hlevel]
    refine ⟨fun h => ?_, ?_⟩
    · rcases h with ⟨ht, hnot, hseen⟩ | ⟨he, -⟩
      · exact ⟨ht, hnot, .inl hseen⟩
      · exact absurd he hdown
    · rintro ⟨ht, hnot, hseen | rfl⟩
      · exact .inl ⟨ht, hnot, hseen⟩
      · exact absurd ⟨habove.1, QSet.contains_iff_mem.1 habove.2⟩ hnot
  · -- a neighbor of the same tier
    rw [SwiftNeighbors.mem_neighborMap_note, hlevel]
    constructor
    · rintro (⟨ht, hnot, hseen⟩ | ⟨-, rfl⟩)
      · exact ⟨ht, hnot, .inl hseen⟩
      · refine ⟨?_, fun h => habove ⟨h.1, QSet.contains_iff_mem.2 h.2⟩, .inr rfl⟩
        cases ht : tierMap[link.neighborId id]? with
        | none =>
          obtain ⟨u, hu⟩ : ∃ u, found.tierMap[link.neighborId id]? = some u := by
            cases hu : found.tierMap[link.neighborId id]? with
            | none => simp [Std.TreeMap.contains_eq_isSome_getElem?, hu] at hnew
            | some u => exact ⟨u, rfl⟩
          rw [QMap.value_of_getElem? hu] at hsame
          exact absurd ((hfound.new _ ht u).1 hu).1.symm (hsame ▸ hup)
        | some u =>
          rw [QMap.value_of_getElem? (hfound.old _ u ht)] at hsame
          rw [hsame]
    · rintro ⟨ht, hnot, hseen | rfl⟩
      · exact .inl ⟨ht, hnot, hseen⟩
      · exact .inr ⟨rfl, rfl⟩
  · -- a neighbor of another tier
    rw [hlevel]
    refine ⟨fun ⟨ht, hnot, hseen⟩ => ⟨ht, hnot, .inl hseen⟩, ?_⟩
    rintro ⟨ht, hnot, hseen | rfl⟩
    · exact ⟨ht, hnot, hseen⟩
    · exact absurd (QMap.value_of_getElem? (hold ht)) hsame

/-- **The test at the end of the loop over the interfaces**, in terms of the view. -/
theorem accepts_iff_takes (hs : s.Sound) :
    ((seenLinks monitor project id ((project.getDeviceById id).getD {})).foldl
        (visitSwiftLink s.swiftMap id tier) { tierMap := s.tierMap }).accepts
      ((project.getDeviceById id).getD {}) tier = true ↔
        s.Takes (swiftView monitor project) tier id := by
  have hswift : ∀ x ∈ s.swiftMap.value (tier - 1), ∃ t, s.tierMap[x]? = some t :=
    fun x hx => ⟨_, hs.accepted _ x hx⟩
  have hfound := @neighborsFound s.swiftMap s.tierMap tier id hswift
    (seenLinks monitor project id ((project.getDeviceById id).getD {}))
  have hlevel := fun n => @mem_neighborMap_level id n tier _ _ hswift
    (seenLinks monitor project id ((project.getDeviceById id).getD {}))
  generalize (seenLinks monitor project id ((project.getDeviceById id).getD {})).foldl
    (visitSwiftLink s.swiftMap id tier) { tierMap := s.tierMap } = found at hfound hlevel ⊢
  have hnbrs : (found.neighborMap.value (tier - 1)).length =
      ((swiftView monitor project).neighbors id ∩ s.above tier).card := by
    rw [← toFinset_card_of_nodup (hfound.nodup _)]
    congr 1
    ext n
    rw [mem_toFinset, hfound.above, mem_inter, mem_neighbors_swiftView,
      SwiftSearch.mem_above]
    tauto
  have hlinks : (found.neighborLinkMap.value (tier - 1)).length =
      ((((swiftView monitor project).links id).filter fun p => p.1 ∈ s.above tier).image
        Prod.snd).card := by
    rw [← toFinset_card_of_nodup (hfound.linksNodup _)]
    congr 1
    ext l
    rw [mem_toFinset, hfound.linksAbove, mem_image]
    simp only [Finset.mem_filter, mem_links_swiftView, SwiftSearch.mem_above]
    constructor
    · rintro ⟨hpos, link, hlink, hmem, rfl⟩
      exact ⟨_, ⟨⟨link, hlink, rfl⟩, hpos, hmem⟩, rfl⟩
    · rintro ⟨_, ⟨⟨link, hlink, rfl⟩, hpos, hmem⟩, rfl⟩
      exact ⟨hpos, link, hlink, hmem, rfl⟩
  have hnone : (found.neighborMap.value tier).length = 0 ↔
      (swiftView monitor project).neighbors id ∩
        s.level ((swiftView monitor project).neighbors id) tier ⊆ s.above tier := by
    rw [length_eq_zero_iff, eq_nil_iff_forall_not_mem]
    refine forall_congr' fun n => ?_
    rw [hlevel, mem_inter, SwiftSearch.level, Finset.mem_filter, mem_neighbors_swiftView,
      SwiftSearch.mem_above]
    constructor
    · exact fun h ⟨hn, _, ht⟩ => by_contra fun hnot => h ⟨ht, hnot, hn⟩
    · exact fun h ⟨ht, hnot, hn⟩ => hnot (h ⟨hn, hn, ht⟩)
  unfold SwiftNeighbors.accepts SwiftSearch.Takes SwiftView.Accepts
  rw [decide_eq_true_iff, hnbrs, hlinks, hnone]
  unfold swiftView
  simp only [decide_eq_true_iff]

/-- **What one round makes of a device** that it does not skip: its neighbors that were not
marked are marked with the tier below it, and if it is taken they are enqueued. -/
structure Visited (walk : ℤ → QSet ℤ → List ℤ) (view : SwiftView) (s : SwiftSearch) (id : ℤ)
    (rest : List ℤ) (tier : Int16) (s' : SwiftSearch) : Prop where
  queue : ∃ new : List ℤ, s'.queue = rest ++ new ∧ new.Nodup ∧ (∃ ids, new = walk id ids) ∧
    ∀ n, n ∈ new ↔ s.Takes view tier id ∧ s.tierMap[n]? = none ∧ n ∈ view.neighbors id
  tierMap : ∀ n : ℤ, ∀ t, s'.tierMap[n]? = some t ↔ s.tierMap[n]? = some t ∨
    (s.tierMap[n]? = none ∧ n ∈ view.neighbors id ∧ t = tier + 1)
  swiftMap : ∀ t x, x ∈ s'.swiftMap.value t ↔ x ∈ s.swiftMap.value t ∨
    (s.Takes view tier id ∧ t = tier ∧ x = id)

/-- **One round of the walk**, in any order. -/
theorem swiftRoundIn_cases (hwalk : ∀ id ids, (walk id ids).Perm ids) (hs : s.Sound)
    (hq : s.queue = id :: rest) (htier : s.tierMap[id]? = some tier) :
    ((swiftView monitor project).examines tier id = false ∧
      swiftRoundIn walk monitor project s = .next { s with queue := rest }) ∨
    ((swiftView monitor project).examines tier id = true ∧
      ∃ s', swiftRoundIn walk monitor project s = .next s' ∧
        Visited walk (swiftView monitor project) s id rest tier s') := by
  have hskips : (swiftView monitor project).examines tier id = false ↔
      ((project.getDeviceById id).getD {}).deviceType ≠ .endStation ∧
        (2 < tier ∨ !((project.getDeviceById id).getD {}).deviceProperty.stpRstp.swift) := by
    unfold SwiftView.examines swiftView
    simp only [Bool.or_eq_false_iff, decide_eq_false_iff_not, Bool.and_eq_false_iff,
      Bool.not_eq_true', Int16.not_le]
  have hswift : ∀ x ∈ s.swiftMap.value (tier - 1), ∃ t, s.tierMap[x]? = some t :=
    fun x hx => ⟨_, hs.accepted _ x hx⟩
  have hfound := @neighborsFound s.swiftMap s.tierMap tier id hswift
    (seenLinks monitor project id ((project.getDeviceById id).getD {}))
  have htakes := @accepts_iff_takes monitor project s id tier hs
  unfold swiftRoundIn
  rw [hq]
  dsimp only
  rw [QMap.value_of_getElem? htier]
  generalize (seenLinks monitor project id ((project.getDeviceById id).getD {})).foldl
    (visitSwiftLink s.swiftMap id tier) { tierMap := s.tierMap } = found at hfound htakes ⊢
  have hmarked : ∀ n : ℤ, ∀ t, found.tierMap[n]? = some t ↔ s.tierMap[n]? = some t ∨
      (s.tierMap[n]? = none ∧ n ∈ (swiftView monitor project).neighbors id ∧ t = tier + 1) := by
    intro n t
    rw [mem_neighbors_swiftView]
    cases hold : s.tierMap[n]? with
    | none =>
      rw [hfound.new n hold t]
      simp [and_comm]
    | some u =>
      rw [hfound.old n u hold]
      simp
  split_ifs with hskip htake
  · exact .inl ⟨hskips.2 hskip, rfl⟩
  · refine .inr ⟨by rwa [← Bool.not_eq_false, hskips], _, rfl, ⟨_, rfl, ?_, ⟨_, rfl⟩, fun n => ?_⟩,
      hmarked, fun t x => ?_⟩
    · exact (hwalk id _).nodup_iff.2 (hfound.nodup _)
    · rw [(hwalk id _).mem_iff, hfound.below, mem_neighbors_swiftView]
      exact ⟨fun h => ⟨htakes.1 htake, h⟩, And.right⟩
    · rw [QMap.value_update]
      split_ifs with ht
      · subst ht
        simp [QSet.mem_insert, htakes.1 htake]
      · simp [Ne.symm ht]
  · have hnot : ¬s.Takes (swiftView monitor project) tier id := fun h => htake (htakes.2 h)
    refine .inr ⟨by rwa [← Bool.not_eq_false, hskips], _, rfl, ⟨[], by simp, nodup_nil,
      ⟨[], ((hwalk id []).eq_nil).symm⟩, fun n => ?_⟩, hmarked, fun t x => ?_⟩
    · simp [hnot]
    · simp [hnot]

theorem SwiftSearch.Sound.skip (hs : s.Sound) (hq : s.queue = id :: rest) :
    ({ s with queue := rest } : SwiftSearch).Sound where
  queued x hx := hs.queued x (hq ▸ mem_cons_of_mem _ hx)
  accepted := hs.accepted

theorem SwiftSearch.Sound.visit {view : SwiftView} (hs : s.Sound) (hq : s.queue = id :: rest)
    (htier : s.tierMap[id]? = some tier) (h : Visited walk view s id rest tier s') : s'.Sound where
  queued x hx := by
    obtain ⟨new, hnew, -, -, hmem⟩ := h.queue
    rw [hnew, mem_append] at hx
    rcases hx with hx | hx
    · obtain ⟨t, ht⟩ := hs.queued x (hq ▸ mem_cons_of_mem _ hx)
      exact ⟨t, (h.tierMap x t).2 (.inl ht)⟩
    · obtain ⟨-, hnone, hn⟩ := (hmem x).1 hx
      exact ⟨tier + 1, (h.tierMap x _).2 (.inr ⟨hnone, hn, rfl⟩)⟩
  accepted t x hx := by
    refine (h.tierMap x t).2 (.inl ?_)
    rcases (h.swiftMap t x).1 hx with hx | ⟨-, rfl, rfl⟩
    · exact hs.accepted t x hx
    · exact htier

/-! ### The end of the walk -/

theorem tierMap_swiftStart (swift : Swift) {t : Int16} : (swiftStart swift).tierMap[n]? = some t ↔
    (n = swift.rootDevice ∨ n = swift.backupRootDevice) ∧ t = 0 :=
  getElem?_rootTiers swift n t

theorem sound_swiftStart (swift : Swift) : (swiftStart swift).Sound where
  queued x hx := ⟨0, (tierMap_swiftStart swift).2 ⟨by simpa [swiftStart] using hx, rfl⟩⟩
  accepted t x hx := by simp [swiftStart] at hx

/-- The ends of the links, and those of the link that stands for none. -/
def swiftEnds (project : Project) : Finset ℤ :=
  ((({} : Link) :: project.links).flatMap fun link =>
    [link.sourceDeviceId, link.destinationDeviceId]).toFinset

theorem neighbors_subset_swiftEnds :
    (swiftView monitor project).neighbors id ⊆ swiftEnds project := by
  intro n hn
  obtain ⟨link, hlink, rfl⟩ := mem_neighbors_swiftView.1 hn
  obtain ⟨interface, -, hat⟩ := mem_filterMap.1 hlink
  have hmem : link ∈ ({} : Link) :: project.links := by
    unfold swiftLinkAt at hat
    dsimp only at hat
    split_ifs at hat
    cases hat
    cases hget : project.getLinkByInterfaceId id interface.interfaceId with
    | none => exact mem_cons_self
    | some link => exact mem_cons_of_mem _ (mem_of_find?_eq_some hget)
  unfold swiftEnds
  rw [mem_toFinset, mem_flatMap]
  refine ⟨link, hmem, ?_⟩
  unfold Link.neighborId
  split_ifs <;> simp

/-- How many devices the walk may still come to. -/
def swiftRoom (project : Project) (s : SwiftSearch) : ℕ :=
  ((swiftEnds project).filter fun n => s.tierMap[n]? = none).card + s.queue.length

theorem Visited.room_lt (hq : s.queue = id :: rest)
    (h : Visited walk (swiftView monitor project) s id rest tier s') :
    swiftRoom project s' < swiftRoom project s := by
  obtain ⟨new, hnew, hnodup, -, hmem⟩ := h.queue
  unfold swiftRoom
  rw [hnew, hq, length_append, length_cons, ← toFinset_card_of_nodup hnodup]
  have hdisjoint : Disjoint ((swiftEnds project).filter fun n => s'.tierMap[n]? = none)
      new.toFinset := by
    rw [Finset.disjoint_left]
    intro n hn hn'
    obtain ⟨-, hnone, hseen⟩ := (hmem n).1 (mem_toFinset.1 hn')
    rw [Finset.mem_filter, (h.tierMap n _).2 (.inr ⟨hnone, hseen, rfl⟩)] at hn
    exact absurd hn.2 (by simp)
  have hsub : ((swiftEnds project).filter fun n => s'.tierMap[n]? = none) ∪ new.toFinset ⊆
      (swiftEnds project).filter fun n => s.tierMap[n]? = none := by
    intro n hn
    rw [Finset.mem_filter]
    rcases mem_union.1 hn with hn | hn
    · obtain ⟨hmem, hnone⟩ := Finset.mem_filter.1 hn
      refine ⟨hmem, ?_⟩
      cases hold : s.tierMap[n]? with
      | none => rfl
      | some t =>
        rw [(h.tierMap n t).2 (.inl hold)] at hnone
        cases hnone
    · obtain ⟨-, hnone, hseen⟩ := (hmem n).1 (mem_toFinset.1 hn)
      exact ⟨neighbors_subset_swiftEnds hseen, hnone⟩
  have hcard := card_le_card hsub
  rw [card_union_of_disjoint hdisjoint] at hcard
  omega

/-- **The walk comes to an end**, in any order. -/
theorem exists_swiftRun (hwalk : ∀ id ids, (walk id ids).Perm ids) (monitor : Monitor)
    (project : Project) (swift : Swift) :
    ∃ s, Loop.Settles (Loop.run (swiftRoundIn walk monitor project) · (swiftStart swift)) s ∧
      Loop.Visits (swiftRoundIn walk monitor project) (swiftStart swift) s ∧ s.Sound ∧
        s.queue = [] := by
  have hround : ∀ t : SwiftSearch, t.Sound → (t.queue = [] ∧
      swiftRoundIn walk monitor project t = .done t) ∨
      ∃ u, swiftRoundIn walk monitor project t = .next u ∧ u.Sound ∧
        swiftRoom project u < swiftRoom project t := by
    intro t ht
    cases hq : t.queue with
    | nil => exact .inl ⟨rfl, by unfold swiftRoundIn; rw [hq]⟩
    | cons id rest =>
      obtain ⟨tier, htier⟩ := ht.queued id (hq ▸ mem_cons_self)
      rcases @swiftRoundIn_cases monitor project walk t id rest tier hwalk ht hq htier with
        ⟨-, hnext⟩ | ⟨-, u, hnext, hvis⟩
      · refine .inr ⟨_, hnext, ht.skip hq, ?_⟩
        unfold swiftRoom
        rw [hq]
        exact Nat.lt_succ_self _
      · exact .inr ⟨u, hnext, ht.visit hq htier hvis, hvis.room_lt hq⟩
  obtain ⟨s, t, hrun, ⟨hvisits, hsound⟩, hdone⟩ := Loop.exists_run_done
    (I := fun t => Loop.Visits (swiftRoundIn walk monitor project) (swiftStart swift) t ∧ t.Sound)
    (swiftRoom project) ⟨.refl _, sound_swiftStart swift⟩ (fun t ⟨hvisits, hsound⟩ => by
      rcases hround t hsound with ⟨-, hdone⟩ | ⟨u, hnext, hu, hlt⟩
      · exact .inl ⟨t, hdone⟩
      · exact .inr ⟨u, hnext, ⟨hvisits.step hnext, hu⟩, hlt⟩) (Nat.lt_succ_self _)
  rcases hround t hsound with ⟨hempty, hdone'⟩ | ⟨u, hnext, -⟩
  · rw [hdone'] at hdone
    cases hdone
    exact ⟨s, Loop.settles_of_run _ hrun, hvisits, hsound, hempty⟩
  · rw [hnext] at hdone
    cases hdone

end Core
end Sebastian

/-
# Which source the mapping starts from

`MappingTopologyByOfflineSources` maps the topology from one designed source after the
other and keeps what is best.  The first perfect match ends the search; otherwise the
results are sorted, and the first one is taken.  A walk always ends
(`exists_mappingTopology`), but it may fail, and then its result is empty: nothing in
it is wrong, so among results that cannot be deployed it comes first.  Where something
can be deployed, or no walk fails, what is chosen was produced by a walk and no other
one is better (`mappingTopologyByOfflineSources_best`).
-/

import Sebastian.Topology.MappingReport
import Mathlib.Data.Prod.Lex

namespace Sebastian
namespace TopologyMapping

open List Option Bool

variable {x y : ResultCandidate}

/-! ### The data -/

/-- `ActTopologyMappingResultCandidate` -/
structure ResultCandidate where
  offlineSourceIpNumber : ℤ := 0
  topologyMappingResult : TopologyMappingResult
  offlineTopology : MapTopology
  warningItemNum : ℕ := 0
  failedItemNum : ℕ := 0

/-- `ActTopologyMappingResultCandidate(topology_mapping_result, offline_topology)` -/
def ResultCandidate.ofResult (formats : NumberFormats) (result : TopologyMappingResult)
    (offlineTopology : MapTopology) : ResultCandidate where
  offlineSourceIpNumber :=
    match findDevice offlineTopology.devices offlineTopology.sourceDeviceId with
    | none => 0
    | some device => formats.addressNumber device.ipAddress
  topologyMappingResult := result
  offlineTopology := offlineTopology
  warningItemNum := result.mappingReport.countP (·.status = .warning)
  failedItemNum := result.mappingReport.countP (·.blocksDeploy)

/-- The order in which the candidates are sorted. -/
def ResultCandidate.before (x y : ResultCandidate) : Bool :=
  if x.topologyMappingResult.deploy && y.topologyMappingResult.deploy then
    x.warningItemNum < y.warningItemNum || (x.warningItemNum = y.warningItemNum &&
      x.offlineSourceIpNumber < y.offlineSourceIpNumber)
  else if !x.topologyMappingResult.deploy && !y.topologyMappingResult.deploy then
    x.failedItemNum < y.failedItemNum || (x.failedItemNum = y.failedItemNum &&
      x.offlineSourceIpNumber < y.offlineSourceIpNumber)
  else x.topologyMappingResult.deploy && !y.topologyMappingResult.deploy

/-- No failed and no warning. -/
def ResultCandidate.perfect (candidate : ResultCandidate) : Bool :=
  candidate.topologyMappingResult.deploy && candidate.warningItemNum = 0 &&
    candidate.failedItemNum = 0

/-- What is promised of `std::sort`: the same candidates, and none before a better one. -/
structure SortsCandidates (sort : List ResultCandidate → List ResultCandidate) : Prop where
  perm : ∀ candidates, (sort candidates).Perm candidates
  sorted : ∀ candidates, (sort candidates).Pairwise fun x y => y.before x = false

/-- The networks, with a source for the designed one. -/
def MappingInput.startingAt (input : MappingInput) (sourceDeviceId : ℤ) : MappingInput :=
  { input with offline := { input.offline with sourceDeviceId := sourceDeviceId } }

/-- The candidate that a source and its result make. -/
def candidateOf (formats : NumberFormats) (input : MappingInput) (sourceDeviceId : ℤ)
    (result : TopologyMappingResult) : ResultCandidate :=
  .ofResult formats result (input.startingAt sourceDeviceId).offline

/-- The loop over the candidates: it ends with a result that is perfect, or with the
candidates to choose from. -/
def tryOfflineSources (formats : NumberFormats) (fuel : ℕ) (input : MappingInput) :
    List ℤ → List ResultCandidate → Option (Except TopologyMappingResult (List ResultCandidate))
  | [], candidates => some (.ok candidates)
  | sourceDeviceId :: sources, candidates =>
    match mappingTopology formats fuel (input.startingAt sourceDeviceId) with
    | none => none
    | some (_, result) =>
      let candidate := candidateOf formats input sourceDeviceId result
      if candidate.perfect then some (.error result)
      else tryOfflineSources formats fuel input sources (candidates ++ [candidate])

/-- `MappingTopologyByOfflineSources` -/
def mappingTopologyByOfflineSources (formats : NumberFormats)
    (sort : List ResultCandidate → List ResultCandidate) (fuel : ℕ) (input : MappingInput)
    (offlineSourceDevices : List ℤ) (mappingResult : TopologyMappingResult) :
    Option TopologyMappingResult :=
  (tryOfflineSources formats fuel input offlineSourceDevices []).map fun
  | .error result => result
  | .ok candidates =>
    if mappingResult.deploy then mappingResult
    else
      match sort candidates with
      | [] => mappingResult
      | candidate :: _ => candidate.topologyMappingResult

variable {input : MappingInput} {s : MappingSearch}

/-! ### Every walk ends -/

/-- How many rounds a walk has at most, wherever it starts. -/
def walkBound (input : MappingInput) : ℕ :=
  (input.online.devices.map (·.id)).toFinset.card *
    ((offlineMappingDeviceSet input.offline).length + 1) + 1

/-- **`MappingTopology` returns**, whatever the networks are. -/
theorem exists_mappingTopology (hoff : Addressed input.offline.devices)
    (hon : Addressed input.online.devices) (formats : NumberFormats) {fuel : ℕ}
    (hfuel : walkBound input < fuel) : ∃ r, mappingTopology formats fuel input = some r := by
  have hlen : (initialSearch input).queue.length ≤ 1 := by
    unfold initialSearch
    dsimp only
    split_ifs <;> simp
  have hmeasure : walkMeasure input (initialSearch input) ≤ walkBound input :=
    Nat.add_le_add (Nat.mul_le_mul_right _ (Finset.card_filter_le _ _)) hlen
  have hround : ∀ t, QueueInv input t → (∃ r, mappingRound input t = .done r) ∨
      ∃ u, mappingRound input t = .next u ∧ QueueInv input u ∧
        walkMeasure input u < walkMeasure input t := by
    intro t ht
    cases hround : mappingRound input t with
    | done r => exact .inl ⟨r, rfl⟩
    | next u => exact .inr ⟨u, rfl, ht.round hoff hon hround⟩
    | stuck =>
      unfold mappingRound at hround
      split at hround
      · cases hround
      · split_ifs at hround
        split at hround
        · cases hround
        · split at hround
          · cases hround
          · cases hround
  obtain ⟨r, hrun⟩ := Loop.exists_run (walkMeasure input) WalkInv.init.queueInv hround
    (hmeasure.trans_lt hfuel)
  exact ⟨_, map_eq_some_iff.2 ⟨r, hrun, rfl⟩⟩

theorem exists_mappingTopology_startingAt (hoff : Addressed input.offline.devices)
    (hon : Addressed input.online.devices) (formats : NumberFormats) {fuel : ℕ}
    (hfuel : walkBound input < fuel) (source : ℤ) :
    ∃ r, mappingTopology formats fuel (input.startingAt source) = some r :=
  @exists_mappingTopology (input.startingAt source) hoff hon formats fuel hfuel

/-! ### The candidates -/

/-- What a candidate is sorted by. -/
def ResultCandidate.key (candidate : ResultCandidate) : ℕ ×ₗ ℕ ×ₗ ℤ :=
  if candidate.topologyMappingResult.deploy then
    toLex (0, toLex (candidate.warningItemNum, candidate.offlineSourceIpNumber))
  else toLex (1, toLex (candidate.failedItemNum, candidate.offlineSourceIpNumber))

/-- **The candidates are sorted by their keys.** -/
theorem ResultCandidate.before_iff : x.before y = true ↔ x.key < y.key := by
  unfold before key
  cases x.topologyMappingResult.deploy <;> cases y.topologyMappingResult.deploy <;>
    simp [Prod.Lex.toLex_lt_toLex]

theorem ResultCandidate.before_eq_false_iff : x.before y = false ↔ y.key ≤ x.key := by
  rw [← not_eq_true, before_iff, not_lt]

/-- A sort that leaves equal candidates in their order. -/
def sortCandidates (candidates : List ResultCandidate) : List ResultCandidate :=
  candidates.insertionSort fun x y => y.before x = false

theorem sortsCandidates_sortCandidates : SortsCandidates sortCandidates where
  perm candidates := perm_insertionSort _ candidates
  sorted candidates := by
    have htotal : Std.Total fun x y : ResultCandidate => y.before x = false := ⟨fun x y => by
      rw [ResultCandidate.before_eq_false_iff, ResultCandidate.before_eq_false_iff]
      exact le_total x.key y.key⟩
    have htrans : IsTrans ResultCandidate fun x y => y.before x = false := ⟨fun x y z => by
      rw [ResultCandidate.before_eq_false_iff, ResultCandidate.before_eq_false_iff,
        ResultCandidate.before_eq_false_iff]
      exact le_trans⟩
    exact pairwise_insertionSort _ candidates

/-- **The first of the sorted candidates**: no candidate is better. -/
theorem SortsCandidates.head {sort : List ResultCandidate → List ResultCandidate}
    (h : SortsCandidates sort) {candidates rest : List ResultCandidate} {best : ResultCandidate}
    (hsort : sort candidates = best :: rest) :
    best ∈ candidates ∧ ∀ candidate ∈ candidates, candidate.before best = false := by
  have hperm := h.perm candidates
  have hsorted := h.sorted candidates
  rw [hsort] at hperm hsorted
  refine ⟨hperm.mem_iff.1 mem_cons_self, fun candidate hcand => ?_⟩
  rcases mem_cons.1 (hperm.mem_iff.2 hcand) with rfl | hrest
  · rw [ResultCandidate.before_eq_false_iff]
  · exact (pairwise_cons.1 hsorted).1 candidate hrest

theorem deploy_iff_of_success {formats : NumberFormats} {fuel : ℕ} {result : TopologyMappingResult}
    (hrun : mappingTopology formats fuel input = some (.success, result)) :
    result.deploy = true ↔ ∀ item ∈ result.mappingReport, item.blocksDeploy = false := by
  obtain ⟨s, -, rfl⟩ := exists_visits_of_success hrun
  unfold generateTopologyMappingResult
  dsimp only
  rw [not_eq_true', List.any_eq_false]
  simp only [not_eq_true]

/-- **A walk that fails leaves an empty result.** -/
theorem success_of_deploy {formats : NumberFormats} {fuel : ℕ} {status : Status}
    {result : TopologyMappingResult}
    (hrun : mappingTopology formats fuel input = some (status, result))
    (hdeploy : result.deploy = true) : status = .success := by
  unfold mappingTopology at hrun
  obtain ⟨final, -, hres⟩ := map_eq_some_iff.1 hrun
  cases final with
  | error e =>
    obtain ⟨-, rfl⟩ := Prod.mk.inj hres
    cases hdeploy
  | ok s => exact (Prod.mk.inj hres).1.symm

/-- **Nothing but a perfect match is better than another one**, and only by the address. -/
theorem ResultCandidate.perfect_of_before (hy : y.perfect = true) (h : x.before y = true)
    (hx : x.topologyMappingResult.deploy = true → x.failedItemNum = 0) : x.perfect = true := by
  unfold perfect before at *
  cases hdeploy : x.topologyMappingResult.deploy with
  | false =>
    rw [hdeploy] at h
    simp only [and_eq_true] at hy
    simp [hy.1.1] at h
  | true =>
    have hfailed := hx hdeploy
    rw [hdeploy] at h
    simp only [and_eq_true, decide_eq_true_eq] at hy
    simp only [hy.1.1, Bool.and_self, if_true, or_eq_true, and_eq_true,
      decide_eq_true_eq] at h
    simp only [Bool.true_and, and_eq_true, decide_eq_true_eq]
    omega

/-- **The loop over the candidates**: it ends at the first perfect match, or has them all. -/
theorem tryOfflineSources_eq {formats : NumberFormats} {fuel : ℕ}
    {run : ℤ → Status × TopologyMappingResult}
    (hrun : ∀ source, mappingTopology formats fuel (input.startingAt source) = some (run source))
    (sources : List ℤ) (candidates : List ResultCandidate) :
    tryOfflineSources formats fuel input sources candidates =
      some (match sources.find? fun source =>
          (candidateOf formats input source (run source).2).perfect with
        | some source => .error (run source).2
        | none => .ok (candidates ++ sources.map fun source =>
            candidateOf formats input source (run source).2)) := by
  induction sources generalizing candidates with
  | nil => simp [tryOfflineSources]
  | cons source sources ih =>
    unfold tryOfflineSources
    rw [hrun source]
    dsimp only
    cases hperfect : (candidateOf formats input source (run source).2).perfect with
    | true =>
      rw [if_pos rfl, find?_cons_of_pos (by exact hperfect)]
    | false =>
      rw [find?_cons_of_neg (by simp [hperfect])]
      simp only [false_eq_true, if_false, ih, map_cons, append_assoc,
        singleton_append]

/-! ### The best result -/

section

variable (formats : NumberFormats) (fuel : ℕ) (input : MappingInput) (sources : List ℤ)

/-- A walk from this source succeeds, with this result. -/
def Produces (source : ℤ) (result : TopologyMappingResult) : Prop :=
  mappingTopology formats fuel (input.startingAt source) = some (.success, result)

/-- **The best mapping, without exception**: no walk that succeeds gives one that comes
before it. -/
def LeastChosen (result : TopologyMappingResult) : Prop :=
  ∃ source ∈ sources, Produces formats fuel input source result ∧
    ∀ other ∈ sources, ∀ otherResult, Produces formats fuel input other otherResult →
      (candidateOf formats input other otherResult).before
        (candidateOf formats input source result) = false

/-- **The best mapping**: the first of the perfect matches, and if there is none, no walk
that succeeds gives one that comes before it. -/
def BestChosen (result : TopologyMappingResult) : Prop :=
  ∃ passed source rest, sources = passed ++ source :: rest ∧
    Produces formats fuel input source result ∧
    ((candidateOf formats input source result).perfect = true →
      ∀ other ∈ passed, ∀ otherResult, Produces formats fuel input other otherResult →
        (candidateOf formats input other otherResult).perfect = false) ∧
    ∀ other ∈ sources, ∀ otherResult, Produces formats fuel input other otherResult →
      (candidateOf formats input other otherResult).before
          (candidateOf formats input source result) = true →
        (candidateOf formats input source result).perfect = true ∧
          (candidateOf formats input other otherResult).perfect = true

end

variable {formats : NumberFormats} {fuel : ℕ} {sources : List ℤ}
  {sort : List ResultCandidate → List ResultCandidate} {mappingResult : TopologyMappingResult}

/-- **The first perfect match is the best one**: what comes before it is perfect, too. -/
theorem bestChosen_of_perfect {passed rest : List ℤ} {source : ℤ}
    {run : ℤ → Status × TopologyMappingResult}
    (hrun : ∀ source, mappingTopology formats fuel (input.startingAt source) = some (run source))
    (hsources : sources = passed ++ source :: rest)
    (hperfect : (candidateOf formats input source (run source).2).perfect = true)
    (hfirst : ∀ other ∈ passed, (candidateOf formats input other (run other).2).perfect = false) :
    BestChosen formats fuel input sources (run source).2 := by
  have hdeploy : (run source).2.deploy = true := by
    unfold ResultCandidate.perfect at hperfect
    simp only [and_eq_true] at hperfect
    exact hperfect.1.1
  have hproduces : Produces formats fuel input source (run source).2 := by
    unfold Produces
    rw [hrun source, ← success_of_deploy (hrun source) hdeploy]
  have hother : ∀ other otherResult, Produces formats fuel input other otherResult →
      otherResult = (run other).2 := by
    intro other otherResult hother
    rw [some.inj ((hrun other).symm.trans hother)]
  refine ⟨passed, source, rest, hsources, hproduces, fun _ other hmem otherResult h => ?_,
    fun other _ otherResult h hbefore => ⟨hperfect, ?_⟩⟩
  · rw [hother other otherResult h]
    exact hfirst other hmem
  · refine ResultCandidate.perfect_of_before hperfect hbefore fun hotherDeploy => ?_
    exact countP_eq_zero.2 fun item hitem =>
      eq_false_iff.1 ((deploy_iff_of_success h).1 hotherDeploy item hitem)

/-- **The first of the sorted candidates is the best one**, if its walk did not fail. -/
theorem bestChosen_of_sorted {source : ℤ} {run : ℤ → Status × TopologyMappingResult}
    (hrun : ∀ source, mappingTopology formats fuel (input.startingAt source) = some (run source))
    (hsrc : source ∈ sources) (hsucc : (run source).1 = .success)
    (hnone : ∀ other ∈ sources, (candidateOf formats input other (run other).2).perfect = false)
    (hleast : ∀ other ∈ sources, (candidateOf formats input other (run other).2).before
      (candidateOf formats input source (run source).2) = false) :
    BestChosen formats fuel input sources (run source).2 := by
  have hproduces : Produces formats fuel input source (run source).2 := by
    unfold Produces
    rw [hrun source, ← hsucc]
  have hother : ∀ other otherResult, Produces formats fuel input other otherResult →
      otherResult = (run other).2 := by
    intro other otherResult hother
    rw [some.inj ((hrun other).symm.trans hother)]
  obtain ⟨passed, rest, hsources⟩ := append_of_mem hsrc
  refine ⟨passed, source, rest, hsources, hproduces, fun hperfect => ?_,
    fun other hmem otherResult h hbefore => ?_⟩
  · rw [hnone source hsrc] at hperfect
    cases hperfect
  · rw [hother other otherResult h, hleast other hmem] at hbefore
    cases hbefore

/-- **The best mapping is chosen** where some walk gives a result that can be deployed, or
where no walk fails. -/
theorem mappingTopologyByOfflineSources_best (hoffline : Addressed input.offline.devices)
    (honline : Addressed input.online.devices) (hsort : SortsCandidates sort)
    (hfuel : walkBound input < fuel) (hfresh : mappingResult.deploy = false)
    (hsources : sources ≠ [])
    (hwalks : (∃ source ∈ sources, ∃ result, Produces formats fuel input source result ∧
        result.deploy = true) ∨
      ∀ source ∈ sources, ∃ result, Produces formats fuel input source result) :
    ∃ result, mappingTopologyByOfflineSources formats sort fuel input sources mappingResult =
        some result ∧ BestChosen formats fuel input sources result := by
  choose run hrun using exists_mappingTopology_startingAt hoffline honline formats hfuel
  have hproduced : ∀ other otherResult, Produces formats fuel input other otherResult →
      run other = (.success, otherResult) :=
    fun other otherResult hother => some.inj ((hrun other).symm.trans hother)
  unfold mappingTopologyByOfflineSources
  rw [tryOfflineSources_eq hrun]
  cases hfind : sources.find? fun source =>
      (candidateOf formats input source (run source).2).perfect with
  | some source =>
    obtain ⟨hperfect, passed, rest, hsplit, hfirst⟩ := find?_eq_some_iff_append.1 hfind
    exact ⟨_, rfl, bestChosen_of_perfect hrun hsplit hperfect fun other hmem => by
      simpa using hfirst other hmem⟩
  | none =>
    have hnone := find?_eq_none.1 hfind
    dsimp only [map_some]
    rw [hfresh, nil_append]
    cases hsorted : sort (sources.map fun source =>
        candidateOf formats input source (run source).2) with
    | nil =>
      have hlen := (hsort.perm (sources.map fun source =>
        candidateOf formats input source (run source).2)).length_eq
      rw [hsorted, length_map] at hlen
      exact absurd (length_eq_zero_iff.1 hlen.symm) hsources
    | cons best rest =>
      obtain ⟨hbest, hleast⟩ := hsort.head hsorted
      obtain ⟨source, hsrc, rfl⟩ := mem_map.1 hbest
      have hleast' : ∀ other ∈ sources, (candidateOf formats input other (run other).2).before
          (candidateOf formats input source (run source).2) = false :=
        fun other hmem => hleast _ (mem_map_of_mem hmem)
      refine ⟨(run source).2, rfl, bestChosen_of_sorted hrun hsrc ?_
        (fun other hmem => by simpa using hnone other hmem) hleast'⟩
      rcases hwalks with ⟨other, hmem, result, hproduces, hdeploy⟩ | hall
      · -- what can be deployed comes before what cannot
        refine success_of_deploy (hrun source) ?_
        have hbefore := hleast' other hmem
        rw [hproduced other result hproduces] at hbefore
        by_contra hnot
        rw [not_eq_true] at hnot
        unfold ResultCandidate.before candidateOf ResultCandidate.ofResult at hbefore
        simp [hdeploy, hnot] at hbefore
      · obtain ⟨result, hproduces⟩ := hall source hsrc
        rw [hproduced source result hproduces]

/-- Two switches with one cable, to be told apart by nothing but their addresses. -/
def twinSwitches : MappingInput :=
  { builtAsDesigned with
    offline := { builtAsDesigned.offline with
      devices := [moxaSwitch 1 "10.0.0.2", moxaSwitch 2 "10.0.0.1"] } }

/-- The addresses in the designs below. -/
def switchAddresses : NumberFormats where
  addressNumber address :=
    if address = "10.0.0.1" then 167772161 else if address = "10.0.0.2" then 167772162 else 0
  hexNumber _ := none

theorem mappingTopologyByOfflineSources_twinSwitches : ∃ result,
    mappingTopologyByOfflineSources switchAddresses sortCandidates 8 twinSwitches [1, 2] {} =
      some result ∧ BestChosen switchAddresses 8 twinSwitches [1, 2] result := by
  refine mappingTopologyByOfflineSources_best ?_ ?_ sortsCandidates_sortCandidates
    (by decide +kernel) rfl (by decide) (.inr fun source hsrc => ?_)
  · unfold Addressed twinSwitches
    decide
  · unfold Addressed twinSwitches
    decide
  · have hruns : ∀ source ∈ [(1 : ℤ), 2], ((mappingTopology switchAddresses 8
        (twinSwitches.startingAt source)).map fun r => decide (r.1 = .success)) = some true := by
      decide +kernel
    obtain ⟨⟨status, result⟩, hrun, hst⟩ := map_eq_some_iff.1 (hruns source hsrc)
    obtain rfl : status = .success := of_decide_eq_true hst
    exact ⟨result, hrun⟩

/-- Two switches of one model are designed, each with a neighbor at its first port; the
neighbor of the one that is built has no profile. -/
def strangeNeighbor : MappingInput where
  profiles := [{ id := 1, modelName := "EDS-4008" }]
  offline := {
    devices := [moxaSwitch 1 "10.0.0.1", moxaSwitch 2 "10.0.0.2",
      { moxaSwitch 3 "10.0.0.3" with deviceProperty := { modelName := "EDS-4012", vendor := "MOXA" } },
      { moxaSwitch 4 "10.0.0.4" with deviceProperty := { modelName := "PLC", vendor := "ACME" } }]
    links :=
      [{ id := 1, sourceDeviceId := 1, sourceInterfaceId := 1, destinationDeviceId := 3,
         destinationInterfaceId := 1 },
       { id := 2, sourceDeviceId := 2, sourceInterfaceId := 1, destinationDeviceId := 4,
         destinationInterfaceId := 1 }] }
  online := {
    devices := [moxaSwitch 11 "10.0.1.1", { moxaSwitch 12 "10.0.1.2" with deviceProfileId := 99 }]
    links :=
      [{ id := 1, sourceDeviceId := 11, sourceInterfaceId := 1, destinationDeviceId := 12,
         destinationInterfaceId := 1 }]
    sourceDeviceId := 11 }

/-- **What is chosen is not always the least**: the second of two perfect matches has the
lower address, and the walk that fails comes before the one that finds most of what is
there. -/
theorem not_leastChosen :
    (∃ result, mappingTopologyByOfflineSources switchAddresses sortCandidates 8 twinSwitches
        [1, 2] {} = some result ∧ ¬LeastChosen switchAddresses 8 twinSwitches [1, 2] result) ∧
      ∃ result, mappingTopologyByOfflineSources switchAddresses sortCandidates 8 strangeNeighbor
        [1, 2] {} = some result ∧
          ¬LeastChosen switchAddresses 8 strangeNeighbor [1, 2] result := by
  constructor
  · have hchosen : (mappingTopologyByOfflineSources switchAddresses sortCandidates 8 twinSwitches
        [1, 2] {}).map (fun r => r.mappingReport.map (·.onlineDeviceId)) = some [12, 11] := by
      decide +kernel
    have hsecond : (mappingTopology switchAddresses 8 (twinSwitches.startingAt 2)).map (fun r =>
        (decide (r.1 = .success), r.2.mappingReport.map (·.onlineDeviceId))) =
          some (true, [11, 12]) := by
      decide +kernel
    have hbefore : ((mappingTopology switchAddresses 8 (twinSwitches.startingAt 1)).bind fun a =>
        (mappingTopology switchAddresses 8 (twinSwitches.startingAt 2)).map fun b =>
          (candidateOf switchAddresses twinSwitches 2 b.2).before
            (candidateOf switchAddresses twinSwitches 1 a.2)) = some true := by
      decide +kernel
    obtain ⟨result, hrun, hreport⟩ := map_eq_some_iff.1 hchosen
    refine ⟨result, hrun, ?_⟩
    obtain ⟨⟨status, other⟩, hother, hview⟩ := map_eq_some_iff.1 hsecond
    obtain ⟨hst, hpartners⟩ := Prod.mk.inj hview
    obtain rfl : status = .success := of_decide_eq_true hst
    rintro ⟨source, hsrc, hproduces, hleast⟩
    rcases mem_cons.1 hsrc with rfl | hsrc
    · -- the second switch has the lower address
      have hnot := hleast 2 (by simp) other hother
      unfold Produces at hproduces
      rw [hproduces, hother] at hbefore
      exact false_ne_true (hnot.symm.trans (some.inj hbefore))
    · -- starting at it gives another mapping
      obtain rfl := mem_singleton.1 hsrc
      obtain rfl : other = result := congrArg Prod.snd (some.inj
        (hother.symm.trans hproduces))
      exact absurd (hreport.symm.trans hpartners) (by decide)
  · have hchosen : (mappingTopologyByOfflineSources switchAddresses sortCandidates 8
        strangeNeighbor [1, 2] {}).map (fun r => r.mappingReport.length) = some 0 := by
      decide +kernel
    have hfirst : (mappingTopology switchAddresses 8 (strangeNeighbor.startingAt 1)).map (fun r =>
        decide (r.1 = .success)) = some false := by
      decide +kernel
    have hsecond : (mappingTopology switchAddresses 8 (strangeNeighbor.startingAt 2)).map (fun r =>
        r.2.mappingReport.length) = some 5 := by
      decide +kernel
    obtain ⟨result, hrun, hempty⟩ := map_eq_some_iff.1 hchosen
    refine ⟨result, hrun, ?_⟩
    rintro ⟨source, hsrc, hproduces, -⟩
    unfold Produces at hproduces
    rcases mem_cons.1 hsrc with rfl | hsrc
    · rw [hproduces] at hfirst
      cases hfirst
    · obtain rfl := mem_singleton.1 hsrc
      rw [hproduces] at hsecond
      exact absurd (hempty.symm.trans (some.inj hsecond)) (by decide)

end TopologyMapping
end Sebastian

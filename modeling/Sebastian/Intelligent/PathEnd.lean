/-
# When the search for the links between end stations ends

`sebastian/core/intelligent_vlan.go`, `findAllLinksBetweenEdges`.  After finitely
many rounds every device that can be claimed is claimed (`Sim.exists_idle`).
From then on only the paths through devices of their own source go on; where
no source can go round in circles they are of bounded length, and the loop ends
(`exists_run_of_noCircles`).  Where one can, its paths grow for ever
(`noCircles_of_run`).
-/

import Mathlib.Algebra.Order.BigOperators.Group.List
import Sebastian.Intelligent.Owners

namespace Sebastian
namespace Intelligent

open List

variable {owner : ℤ → ℤ} {n : ℕ}

variable {links : List Link} {edgeSet : List ℤ} {source devId : ℤ} {link : Link}
  {before : List EgressPort} {last : EgressPort}
  {item : Tracked} {items : List Tracked} {spread : Spread} {search : PathSearch}

/-! ### A search that ends -/

/-- The search comes to the first path that the spread takes along. -/
theorem Sim.exists_head {passed : List Tracked} (hids : (links.map (·.id)).Nodup)
    (h : Sim edgeSet links (passed ++ item :: items) spread search)
    (hpast : ∀ x ∈ passed, x.first = false) :
    ∃ search' items', Loop.Visits (searchRound (adjacency links)) search search' ∧
      Sim edgeSet links (item :: items') spread search' := by
  induction passed generalizing items search with
  | nil => exact ⟨search, items, .refl _, h⟩
  | cons x passed ih =>
    rw [cons_append] at h
    obtain ⟨search', spread', more, hround, hsim, -, hpass⟩ := h.round hids
    obtain ⟨rfl, -⟩ := hpass (hpast x mem_cons_self)
    rw [append_assoc] at hsim
    obtain ⟨search'', items', hvis, hsim'⟩ := ih hsim fun y hy =>
      hpast y (mem_cons_of_mem _ hy)
    exact ⟨search'', items', hvis.head hround, hsim'⟩

/-- **The search claims all that is to be claimed** in finitely many rounds. -/
theorem Sim.exists_idle (hids : (links.map (·.id)).Nodup)
    (h : Sim edgeSet links items spread search)
    (hspread : Loop.Visits (spreadRound (adjacency links))
      (startSpread edgeSet (adjacency links)) spread) :
    ∃ search' items' spread', Loop.Visits (searchRound (adjacency links)) search search' ∧
      Loop.Visits (spreadRound (adjacency links)) (startSpread edgeSet (adjacency links)) spread' ∧
      Sim edgeSet links items' spread' search' ∧ spread'.queue = [] := by
  induction hn : spread.rounds links using Nat.strong_induction_on
    generalizing spread search items with
  | _ n ih =>
    cases hq : items.filter (·.first) with
    | nil => exact ⟨search, items, spread, .refl _, hspread, h, by rw [h.ports, hq]; rfl⟩
    | cons item rest =>
      obtain ⟨passed, after, rfl, hpast, hfirst, -⟩ := filter_eq_cons_iff.1 hq
      obtain ⟨search', items', hvis, hsim⟩ := h.exists_head hids fun x hx => by
        simpa using hpast x hx
      obtain ⟨search'', spread', more, hround, hsim', hclaim, -⟩ := hsim.round hids
      have hstep := hclaim hfirst
      have hlt : spread'.rounds links < n := by
        rcases spreadRound_cases links (exists_run_owners hspread).1 with
          ⟨-, hdone⟩ | ⟨u, hu, -, hlt, -⟩
        · rw [hdone] at hstep
          cases hstep
        · rw [hu] at hstep
          cases hstep
          exact hn ▸ hlt
      obtain ⟨s, is, sp, hs, hrest⟩ := ih _ hlt hsim' (hspread.step hstep) rfl
      exact ⟨s, is, sp, (hvis.step hround).trans hs, hrest⟩

/-- A walk that comes to a device without an owner has been to none with one, where the devices
next to one with an owner have owners. -/
theorem Walk.unowned
    (hclos : ∀ devId, owner devId ≠ 0 → ∀ link ∈ adjacency links devId, owner
      (link.neighborId devId) ≠ 0)
    (h : Walk links source before last) (hlast : owner last.nextDevId = 0) :
    ∀ port ∈ before, owner port.nextDevId = 0 := by
  induction h with
  | start => exact fun port hport => absurd hport not_mem_nil
  | @goOn path last' link' _ hlink _ ih =>
    have hprev : owner last'.nextDevId = 0 := by
      by_contra hne
      rw [portTo_nextDevId] at hlast
      exact hclos _ hne _ hlink hlast
    intro port hport
    rcases mem_append.1 hport with hport | hport
    · exact ih hprev port hport
    · rw [mem_singleton.1 hport]
      exact hprev

/-- The rounds that a path and those that go on from it can take, at most. -/
def pathWeight (owner : ℤ → ℤ) (n : ℕ) (path : List EgressPort) : ℕ :=
  match path.getLast? with
  | some port =>
    if owner port.nextDevId = port.fromDevId then (n + 1) ^ (n + 1 - path.length) else 1
  | none => 1

theorem pathWeight_pos {path : List EgressPort} : 0 < pathWeight owner n path := by
  unfold pathWeight
  split
  · split_ifs
    · exact Nat.pow_pos (Nat.succ_pos n)
    · exact Nat.one_pos
  · exact Nat.one_pos

theorem pathWeight_le {path : List EgressPort} :
    pathWeight owner n path ≤ (n + 1) ^ (n + 1 - path.length) := by
  have hpos : 1 ≤ (n + 1) ^ (n + 1 - path.length) := Nat.one_le_pow _ _ (Nat.succ_pos n)
  unfold pathWeight
  split
  · split_ifs
    · exact le_rfl
    · exact hpos
  · exact hpos

/-- A path weighs more than all that are longer by one port, if neither they nor its ports are
too many. -/
theorem sum_weight_lt {path : List EgressPort} {paths : List (List EgressPort)}
    (hlen : path.length ≤ n) (hcount : paths.length ≤ n)
    (hpaths : ∀ next ∈ paths, next.length = path.length + 1) :
    (paths.map fun next => (n + 1) ^ (n + 1 - next.length)).sum <
      (n + 1) ^ (n + 1 - path.length) := by
  have hchild : ∀ w ∈ paths.map fun next => (n + 1) ^ (n + 1 - next.length),
      w ≤ (n + 1) ^ (n - path.length) := by
    intro w hw
    obtain ⟨next, hnext, rfl⟩ := mem_map.1 hw
    rw [hpaths next hnext, Nat.add_sub_add_right]
  calc (paths.map fun next => (n + 1) ^ (n + 1 - next.length)).sum
      ≤ paths.length * (n + 1) ^ (n - path.length) := by
        have hsum := sum_le_card_nsmul _ _ hchild
        rw [length_map] at hsum
        exact hsum
    _ ≤ n * (n + 1) ^ (n - path.length) := Nat.mul_le_mul_right _ hcount
    _ < (n + 1) * (n + 1) ^ (n - path.length) :=
        Nat.mul_lt_mul_of_pos_right (Nat.lt_succ_self n) (Nat.pow_pos (Nat.succ_pos n))
    _ = (n + 1) ^ (n + 1 - path.length) := by
        rw [← pow_succ']
        congr 1
        omega

theorem length_of_mem_goOn {topology : ℤ → List Link} {path next : List EgressPort}
    {port : EgressPort} (h : next ∈ goOn topology path port) : next.length = path.length + 1 := by
  obtain ⟨link, -, rfl⟩ := mem_map.1 h
  rw [length_append, length_singleton]

theorem length_goOn_le (topology : ℤ → List Link) (path : List EgressPort) (port : EgressPort) :
    (goOn topology path port).length ≤ (topology port.nextDevId).length := by
  unfold goOn
  rw [length_map]
  exact length_filter_le _ _

/-- A path takes more rounds than all that go on from it. -/
theorem sum_pathWeight_goOn_lt (links : List Link)
    (hlast : owner item.last.nextDevId = item.last.fromDevId)
    (hlen : item.path.length ≤ 2 * links.length) :
    ((goOn (adjacency links) item.path item.last).map (pathWeight owner (2 * links.length))).sum <
      pathWeight owner (2 * links.length) item.path := by
  have hitem : pathWeight owner (2 * links.length) item.path =
      (2 * links.length + 1) ^ (2 * links.length + 1 - item.path.length) := by
    simp [pathWeight, Tracked.path, hlast]
  rw [hitem]
  refine (sum_le_sum fun next _ => pathWeight_le).trans_lt (sum_weight_lt hlen ?_ ?_)
  · exact (length_goOn_le _ _ _).trans length_adjacency_le
  · exact fun next hnext => length_of_mem_goOn hnext

/-- A search whose paths all lead to claimed devices goes on with walks through devices of their
source only. -/
theorem Sim.staysIn (h : Sim edgeSet links (item :: items) spread search)
    (hidle : spread.queue = []) (howners : spread.visited = owners edgeSet links)
    (hown : spread.visited item.last.nextDevId = item.last.fromDevId) :
    StaysIn (owners edgeSet links) item.last.fromDevId item.path := by
  rw [← howners]
  have hhead : item ∈ item :: items := mem_cons_self
  have hbefore : ∀ port ∈ item.before,
      spread.visited port.nextDevId = item.last.fromDevId := by
    by_cases hfrom : item.last.fromDevId = 0
    · have hclos : ∀ devId, spread.visited devId ≠ 0 → ∀ link ∈ adjacency links devId,
          spread.visited (link.neighborId devId) ≠ 0 := by
        intro devId hdev link hlink
        rcases h.closed devId hdev link hlink with hv | ⟨x, hx, hfirst, -⟩
        · exact hv
        · have hmem : x.last ∈ spread.queue := by
            rw [h.ports]
            exact mem_map.2 ⟨x, mem_filter.2 ⟨hx, hfirst⟩, rfl⟩
          rw [hidle] at hmem
          exact absurd hmem not_mem_nil
      rw [hfrom] at hown ⊢
      exact (h.walk item hhead).2.unowned hclos hown
    · exact h.passed item hhead hfrom
  intro port hport
  rcases mem_append.1 hport with hport | hport
  · exact hbefore port hport
  · rw [mem_singleton.1 hport]
    exact hown

/-- **A search in which no source goes round in circles ends.** -/
theorem exists_run_of_noCircles (hids : (links.map (·.id)).Nodup)
    (hcircles : NoCircles edgeSet links) :
    ∃ fuel r, findAllLinksBetweenEdges fuel edgeSet (adjacency links) = some r := by
  obtain ⟨items, hsim⟩ := exists_sim_start edgeSet links
  obtain ⟨search, items, spread, hsearch, hspread, hsim, hidle⟩ := hsim.exists_idle hids (.refl _)
  have howners : spread.visited = owners edgeSet links := (owners_of_queue_nil hspread hidle).symm
  let weight : PathSearch → ℕ := fun search =>
    (search.queue.map (pathWeight (owners edgeSet links) (2 * links.length))).sum
  refine Loop.exists_run_of_visited hsearch ⟨weight search + 1, ?_⟩
  refine Loop.exists_run (I := fun search => ∃ items, Sim edgeSet links items spread search)
    weight ⟨items, hsim⟩ ?_ (Nat.lt_succ_self _)
  rintro search ⟨items, hsim⟩
  cases items with
  | nil =>
    refine .inl ⟨(search.edgePort, search.throughPort), ?_⟩
    unfold searchRound
    rw [hsim.paths]
    rfl
  | cons item items =>
    refine .inr ?_
    have hfirst : item.first = false := by
      have hports := hsim.ports
      rw [hidle] at hports
      have hnone := filter_eq_nil_iff.1 (map_eq_nil_iff.1 hports.symm)
      simpa using hnone item mem_cons_self
    obtain ⟨search', spread', more, hround, hsim', -, hpass⟩ := hsim.round hids
    obtain ⟨rfl, -⟩ := hpass hfirst
    refine ⟨search', hround, ⟨_, hsim'⟩, ?_⟩
    have hround' := searchRound_of_queue (adjacency links) item (by rw [hsim.paths]; rfl)
    rw [hround, hsim.visited] at hround'
    unfold weight
    rw [hsim.paths, map_cons, map_cons, sum_cons]
    by_cases hleave : spread'.visited item.last.nextDevId ≠ 0 ∧
        spread'.visited item.last.nextDevId ≠ item.last.fromDevId
    · rw [if_pos hleave] at hround'
      rw [Iter.next.inj hround', recordPath_queue]
      exact Nat.lt_add_of_pos_left pathWeight_pos
    · rw [if_neg hleave] at hround'
      have hown := hsim.owned (.inr hfirst) hleave
      obtain ⟨hedge, hwalk⟩ := hsim.walk item mem_cons_self
      have hnodup := hcircles _ hedge _ _ hwalk (hsim.staysIn hidle howners hown)
      have hlt := sum_pathWeight_goOn_lt links (howners ▸ hown)
        (by rw [Tracked.path, length_append]; exact hwalk.length_le hnodup)
      rw [Iter.next.inj hround', map_append, sum_append, Nat.add_comm]
      exact Nat.add_lt_add_right hlt _

theorem exists_head_of_mem {search : PathSearch} (hids : (links.map (·.id)).Nodup)
    (hvis : Loop.Visits (searchRound (adjacency links)) (startSearch edgeSet (adjacency links))
      search) {path : List EgressPort} (hmem : path ∈ search.queue) :
    ∃ search' queue, Loop.Visits (searchRound (adjacency links))
      (startSearch edgeSet (adjacency links)) search' ∧ search'.queue = path :: queue := by
  obtain ⟨passed, rest, hq⟩ := append_of_mem hmem
  clear hmem
  induction passed generalizing search rest with
  | nil => exact ⟨search, rest, hvis, hq⟩
  | cons p passed ih =>
    obtain ⟨items, spread, hsim, -⟩ := exists_sim_of_visits hids hvis
    cases items with
    | nil =>
      rw [hsim.paths] at hq
      cases hq
    | cons item items =>
      obtain ⟨search', spread', more, hround, hsim', -⟩ := hsim.round hids
      rw [hsim.paths, map_cons, cons_append] at hq
      obtain ⟨-, hq⟩ := cons.inj hq
      refine ih (hvis.step hround) (rest ++ more.map Tracked.path) ?_
      rw [hsim'.paths, map_append, hq, append_assoc, cons_append]

/-- **A search that ends takes no source round in circles.** -/
theorem noCircles_of_run {fuel : ℕ} {r : PortMap × PortMap} (hids : (links.map (·.id)).Nodup)
    (hrun : findAllLinksBetweenEdges fuel edgeSet (adjacency links) = some r) :
    NoCircles edgeSet links := by
  have hhead : ∀ source ∈ edgeSet, ∀ before last, Walk links source before last →
      StaysIn (owners edgeSet links) source (before ++ [last]) →
      ∃ search queue, Loop.Visits (searchRound (adjacency links))
        (startSearch edgeSet (adjacency links)) search ∧
        search.queue = (before ++ [last]) :: queue := by
    intro source hsource before last hwalk
    induction hwalk with
    | @start link hlink =>
      refine fun _ => exists_head_of_mem hids (.refl _) ?_
      exact mem_flatMap.2 ⟨source, hsource, mem_map.2 ⟨link, hlink, rfl⟩⟩
    | @goOn path last' link hwalk hlink hne ih =>
      intro hstays
      obtain ⟨search, queue, hvis, hq⟩ := ih fun port hport =>
        hstays port (mem_append_left _ hport)
      have hround := searchRound_of_queue (adjacency links)
        { before := path, last := last', first := false } hq
      have hgoOn : ¬(search.visited last'.nextDevId ≠ 0 ∧
          search.visited last'.nextDevId ≠ last'.fromDevId) := by
        rintro ⟨hv, hother⟩
        refine hother ?_
        rw [← owners_eq_of_visits hids hvis hv, hwalk.fromDevId]
        exact hstays last' (mem_append_left _ (by simp))
      rw [if_neg hgoOn] at hround
      refine exists_head_of_mem hids (hvis.step hround) (mem_append_right _ ?_)
      refine mem_map.2 ⟨link, mem_filter.2 ⟨hlink, decide_eq_true hne⟩, ?_⟩
      simp [Tracked.path, hwalk.fromDevId]
  intro source hsource before last hwalk hstays
  by_contra hdup
  obtain ⟨before, last, hwalk, hstays, hmem⟩ := hwalk.exists_mem_of_not_nodup hstays hdup
  -- the states of the search are finitely many, and so are the lengths of the paths at the head
  obtain ⟨bound, hbound⟩ : ∃ bound, ∀ search ∈ Loop.visited (searchRound (adjacency links)) fuel
      (startSearch edgeSet (adjacency links)), search.queue.headI.length ≤ bound := by
    refine ⟨((Loop.visited (searchRound (adjacency links)) fuel
      (startSearch edgeSet (adjacency links))).map fun search =>
        search.queue.headI.length).sum, fun search hsearch => ?_⟩
    exact single_le_sum (fun _ _ => Nat.zero_le _) _ (mem_map.2 ⟨search, hsearch, rfl⟩)
  obtain ⟨long, hwalk, hstays, -, hlong⟩ := hwalk.exists_long hstays hmem bound
  obtain ⟨search, queue, hvis, hq⟩ := hhead source hsource long last hwalk hstays
  have hle := hbound search (Loop.mem_visited_of_run hrun hvis).1
  rw [hq, headI_cons, length_append, length_singleton] at hle
  omega

/-! ### When the search ends -/

/-- **The search for the links between end devices ends** exactly when no end device can go round
in circles through its own devices, those that the breadth-first spread from the end devices
brings it to first. -/
theorem exists_findAllLinksBetweenEdges_iff (links : List Link) (edgeSet : List ℤ)
    (hids : (links.map (·.id)).Nodup) :
    (∃ fuel r, findAllLinksBetweenEdges fuel edgeSet (adjacency links) = some r) ↔
      NoCircles edgeSet links :=
  ⟨fun ⟨_, _, hrun⟩ => noCircles_of_run hids hrun, exists_run_of_noCircles hids⟩

/-- Three switches in a ring, and two end devices at one of them. -/
def ringLinks : List Link :=
  [{ id := 1, sourceDeviceId := 1, sourceInterfaceId := 1, destinationDeviceId := 3,
      destinationInterfaceId := 1 },
    { id := 2, sourceDeviceId := 2, sourceInterfaceId := 1, destinationDeviceId := 3,
      destinationInterfaceId := 2 },
    { id := 3, sourceDeviceId := 3, sourceInterfaceId := 3, destinationDeviceId := 4,
      destinationInterfaceId := 1 },
    { id := 4, sourceDeviceId := 4, sourceInterfaceId := 2, destinationDeviceId := 5,
      destinationInterfaceId := 1 },
    { id := 5, sourceDeviceId := 5, sourceInterfaceId := 2, destinationDeviceId := 3,
      destinationInterfaceId := 4 }]

theorem exists_findAllLinksBetweenEdges_iff_ringLinks : (ringLinks.map (·.id)).Nodup ∧
      ((∃ fuel r, findAllLinksBetweenEdges fuel [1, 2] (adjacency ringLinks) = some r) ↔
        NoCircles [1, 2] ringLinks) :=
  ⟨by decide, exists_findAllLinksBetweenEdges_iff ringLinks [1, 2] (by decide)⟩

/-- The first end device claims the ring, and its paths go round in it for ever. -/
theorem not_exists_findAllLinksBetweenEdges : (ringLinks.map (·.id)).Nodup ∧
      ¬∃ fuel r, findAllLinksBetweenEdges fuel [1, 2] (adjacency ringLinks) = some r := by
  refine ⟨by decide, fun ⟨fuel, r, hrun⟩ => ?_⟩
  have hcircles := noCircles_of_run (by decide) hrun
  have hmem : ∀ devId, ∀ link ∈ ringLinks,
      link.sourceDeviceId = devId ∨ link.destinationDeviceId = devId →
      link ∈ adjacency ringLinks devId := fun _ _ h hend => mem_adjacency.2 ⟨h, hend⟩
  have hto : Walk ringLinks 1 [] (portTo 1 1 ringLinks[0]) :=
    .start (hmem 1 (ringLinks[0]) (by simp [ringLinks]) (by decide))
  have hfour := hto.goOn (hmem _ (ringLinks[2]) (by simp [ringLinks]) (by decide)) (by decide)
  have hfive := hfour.goOn (hmem _ (ringLinks[3]) (by simp [ringLinks]) (by decide)) (by decide)
  have hback := hfive.goOn (hmem _ (ringLinks[4]) (by simp [ringLinks]) (by decide)) (by decide)
  have hagain := hback.goOn (hmem _ (ringLinks[2]) (by simp [ringLinks]) (by decide)) (by decide)
  exact absurd (hcircles 1 (by decide) _ _ hagain (by unfold StaysIn; decide)) (by decide)

end Intelligent
end Sebastian

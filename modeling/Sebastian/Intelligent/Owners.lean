/-
# The devices the search claims

`sebastian/core/intelligent_vlan.go`, `findAllLinksBetweenEdges`.  The search
carries every path on that comes to a device of its own source, but only the
first path to come there claims the device.  So next to the search runs the
spread that takes a device once (`Sim.round`): a device that the search has
claimed has the owner that the spread gives it (`owners_eq_of_visits`), and the
spread ends (`exists_run_owners`).
-/

import Mathlib.Tactic.Ring
import Sebastian.Intelligent.PathSearch

namespace Sebastian
namespace Intelligent

open List Function

variable {search' : PathSearch}

variable {links : List Link} {edgeSet : List ℤ} {source devId : ℤ} {link : Link}
  {before : List EgressPort} {last : EgressPort}

/-! ### The spread ends -/

/-- How often a link has an end at a device that no source has claimed. -/
def unclaimed (visited : ℤ → ℤ) (links : List Link) : ℕ :=
  (links.map fun link =>
    (if visited link.sourceDeviceId = 0 then 1 else 0) +
      if visited link.destinationDeviceId = 0 then 1 else 0).sum

theorem unclaimed_le (visited : ℤ → ℤ) (links : List Link) :
    unclaimed visited links ≤ 2 * links.length := by
  unfold unclaimed
  induction links with
  | nil => simp
  | cons x links ih =>
    rw [map_cons, sum_cons, length_cons]
    split_ifs <;> omega

/-- A device that is claimed takes its own links with it. -/
theorem unclaimed_update (links : List Link) {visited : ℤ → ℤ} (hdev : visited devId = 0)
    (hsrc : source ≠ 0) :
    unclaimed (update visited devId source) links + (adjacency links devId).length =
      unclaimed visited links := by
  unfold unclaimed adjacency
  induction links with
  | nil => simp
  | cons x links ih =>
    have hend : ∀ d, (if update visited devId source d = 0 then 1 else 0) +
        (if d = devId then [x] else []).length = if visited d = 0 then 1 else 0 := by
      intro d
      by_cases hd : d = devId
      · subst hd
        simp [hdev, hsrc]
      · simp [hd]
    rw [map_cons, sum_cons, flatMap_cons, length_append, length_append,
      map_cons, sum_cons, ← ih]
    have hs := hend x.sourceDeviceId
    have hd := hend x.destinationDeviceId
    omega

/-- The rounds the spread still takes. -/
def Spread.rounds (links : List Link) (spread : Spread) : ℕ :=
  spread.queue.length + unclaimed spread.visited links

/-- No port of the spread comes from a source 0. -/
def Spread.Claims (spread : Spread) : Prop :=
  ∀ port ∈ spread.queue, port.fromDevId ≠ 0

theorem claims_startSpread (edgeSet : List ℤ) (links : List Link) :
    (startSpread edgeSet (adjacency links)).Claims := by
  intro port hport
  obtain ⟨edge, hedge, hport⟩ := mem_flatMap.1 hport
  obtain ⟨link, -, rfl⟩ := mem_map.1 hport
  rw [portTo_fromDevId]
  exact of_decide_eq_true (mem_filter.1 hedge).2

/-- One round of the spread: it ends, or it goes on, claims devices for sources other than 0
only, keeps what is claimed, and comes nearer to its end. -/
theorem spreadRound_cases (links : List Link) {spread : Spread} (hclaims : spread.Claims) :
    (spread.queue = [] ∧ spreadRound (adjacency links) spread = .done spread.visited) ∨
      ∃ spread', spreadRound (adjacency links) spread = .next spread' ∧ spread'.Claims ∧
        spread'.rounds links < spread.rounds links ∧
        ∀ d, spread.visited d ≠ 0 → spread'.visited d = spread.visited d := by
  obtain ⟨queue, visited⟩ := spread
  cases queue with
  | nil => exact .inl ⟨rfl, rfl⟩
  | cons port queue =>
    refine .inr ?_
    have hfrom : port.fromDevId ≠ 0 := hclaims port mem_cons_self
    have hq : ∀ p ∈ queue, p.fromDevId ≠ 0 := fun p hp =>
      hclaims p (mem_cons_of_mem _ hp)
    by_cases hv : visited port.nextDevId = 0
    · refine ⟨_, if_neg (not_not.2 hv), fun p hp => ?_, ?_, fun d hd => ?_⟩
      · rcases mem_append.1 hp with hp | hp
        · exact hq p hp
        · obtain ⟨link, -, rfl⟩ := mem_map.1 hp
          rwa [portTo_fromDevId]
      · have hlen := length_filter_le (fun link : Link => decide (link.id ≠ port.linkId))
          (adjacency links port.nextDevId)
        have hun := unclaimed_update links hv hfrom
        simp only [Spread.rounds, length_append, length_map, length_cons]
        omega
      · refine update_of_ne (fun e => hd ?_) _ _
        rw [e]
        exact hv
    · refine ⟨_, if_pos hv, hq, ?_, fun d _ => rfl⟩
      simp [Spread.rounds]

/-- The spread ends with the owners, from every state it visits. -/
theorem exists_run_owners {spread : Spread}
    (h : Loop.Visits (spreadRound (adjacency links)) (startSpread edgeSet (adjacency links))
      spread) : spread.Claims ∧
      ∃ fuel, Loop.run (spreadRound (adjacency links)) fuel spread =
        some (owners edgeSet links) := by
  have hround : ∀ s : Spread, s.Claims →
      (∃ r, spreadRound (adjacency links) s = .done r) ∨
        ∃ u, spreadRound (adjacency links) s = .next u ∧ u.Claims ∧
          u.rounds links < s.rounds links := by
    intro s hs
    rcases spreadRound_cases links hs with ⟨-, hdone⟩ | ⟨u, hu, hclaims, hlt, -⟩
    · exact .inl ⟨_, hdone⟩
    · exact .inr ⟨u, hu, hclaims, hlt⟩
  refine ⟨h.rule (claims_startSpread edgeSet links) fun s u _ hs hu => ?_, ?_⟩
  · rcases hround s hs with ⟨r, hr⟩ | ⟨u', hu', hclaims, -⟩
    · rw [hr] at hu
      cases hu
    · rw [hu'] at hu
      cases hu
      exact hclaims
  · have hle := unclaimed_le (startSpread edgeSet (adjacency links)).visited links
    obtain ⟨r, hrun⟩ : ∃ r, Loop.run (spreadRound (adjacency links))
        ((startSpread edgeSet (adjacency links)).queue.length + 2 * links.length + 1)
        (startSpread edgeSet (adjacency links)) = some r :=
      Loop.exists_run (Spread.rounds links) (claims_startSpread edgeSet links) hround
        (by unfold Spread.rounds; omega)
    obtain ⟨fuel, hfuel⟩ := Loop.exists_run_of_visits hrun h
    refine ⟨fuel, ?_⟩
    simp only [hfuel, owners, hrun, Option.getD_some]

/-- **What the spread has claimed stays claimed.** -/
theorem owners_eq {spread : Spread}
    (h : Loop.Visits (spreadRound (adjacency links)) (startSpread edgeSet (adjacency links))
      spread) (hdev : spread.visited devId ≠ 0) :
    owners edgeSet links devId = spread.visited devId := by
  obtain ⟨hclaims, fuel, hrun⟩ := exists_run_owners h
  refine Loop.run_rule (Q := fun r => r devId = spread.visited devId)
    (I := fun s => s.Claims ∧ s.visited devId = spread.visited devId) hrun ⟨hclaims, rfl⟩ ?_ ?_
  · rintro s u - ⟨hs, hvs⟩ hu
    rcases spreadRound_cases links hs with ⟨-, hr⟩ | ⟨u', hu', hc, -, hkeep⟩
    · rw [hr] at hu
      cases hu
    · rw [hu'] at hu
      cases hu
      exact ⟨hc, (hkeep devId (hvs ▸ hdev)).trans hvs⟩
  · rintro s r - ⟨hs, hvs⟩ hr
    rcases spreadRound_cases links hs with ⟨-, hr'⟩ | ⟨u', hu', -⟩
    · rw [hr'] at hr
      cases hr
      exact hvs
    · rw [hu'] at hr
      cases hr

/-- A spread with nothing left to do has claimed what the owners say. -/
theorem owners_of_queue_nil {spread : Spread}
    (h : Loop.Visits (spreadRound (adjacency links)) (startSpread edgeSet (adjacency links))
      spread) (hq : spread.queue = []) : owners edgeSet links = spread.visited := by
  obtain ⟨-, fuel, hrun⟩ := exists_run_owners h
  obtain ⟨queue, visited⟩ := spread
  obtain rfl : queue = [] := hq
  cases fuel with
  | zero => simp [Loop.run] at hrun
  | succ fuel => exact (Option.some.inj hrun).symm

/-! ### The search claims what the spread claims -/

/-- A path in the queue, and whether it is the one that the spread takes along. -/
structure Tracked where
  before : List EgressPort
  last : EgressPort
  first : Bool

/-- The path itself. -/
def Tracked.path (item : Tracked) : List EgressPort :=
  item.before ++ [item.last]

/-- The paths that go on from a tracked one. -/
def Tracked.goOn (links : List Link) (item : Tracked) (first : Bool) : List Tracked :=
  ((adjacency links item.last.nextDevId).filter (·.id ≠ item.last.linkId)).map fun link =>
    { before := item.path
      last := portTo item.last.fromDevId item.last.nextDevId link
      first := first }

/-- **The search next to the spread.**  Every path of the queue is a walk through devices of its
source; the paths that come to a device first are the ports of the spread, and the others come to
a device that is claimed, or will be by a path before them. -/
structure Sim (edgeSet : List ℤ) (links : List Link) (items : List Tracked) (spread : Spread)
    (search : PathSearch) : Prop where
  paths : search.queue = items.map Tracked.path
  ports : spread.queue = (items.filter (·.first)).map Tracked.last
  visited : search.visited = spread.visited
  walk : ∀ item ∈ items, item.last.fromDevId ∈ edgeSet ∧
    Walk links item.last.fromDevId item.before item.last
  origin : ∀ item ∈ items, item.last.fromDevId ≠ 0 →
    spread.visited item.last.fromDevId = item.last.fromDevId
  passed : ∀ item ∈ items, item.last.fromDevId ≠ 0 → ∀ port ∈ item.before,
    spread.visited port.nextDevId = item.last.fromDevId
  first : ∀ item ∈ items, item.first → item.last.fromDevId ≠ 0
  covered : ∀ before item after, items = before ++ item :: after → item.first = false →
    item.last.fromDevId ≠ 0 → spread.visited item.last.nextDevId ≠ 0 ∨
      ∃ earlier ∈ before, earlier.first ∧ earlier.last.nextDevId = item.last.nextDevId
  closed : ∀ devId, spread.visited devId ≠ 0 → ∀ link ∈ adjacency links devId,
    spread.visited (link.neighborId devId) ≠ 0 ∨
      ∃ item ∈ items, item.first ∧ item.last.nextDevId = link.neighborId devId

theorem exists_sim_start (edgeSet : List ℤ) (links : List Link) : ∃ items,
    Sim edgeSet links items (startSpread edgeSet (adjacency links))
      (startSearch edgeSet (adjacency links)) := by
  have hmem : ∀ item ∈ edgeSet.flatMap fun edge => (adjacency links edge).map fun link =>
      ({ before := [], last := portTo edge edge link, first := decide (edge ≠ 0) } : Tracked),
      ∃ edge ∈ edgeSet, ∃ link ∈ adjacency links edge,
        item = { before := [], last := portTo edge edge link, first := decide (edge ≠ 0) } := by
    intro item hitem
    obtain ⟨edge, hedge, hitem⟩ := mem_flatMap.1 hitem
    obtain ⟨link, hlink, rfl⟩ := mem_map.1 hitem
    exact ⟨edge, hedge, link, hlink, rfl⟩
  refine ⟨edgeSet.flatMap fun edge => (adjacency links edge).map fun link =>
    { before := [], last := portTo edge edge link, first := decide (edge ≠ 0) }, ?_, ?_, rfl,
    fun item hitem => ?_, fun item hitem => ?_, fun item hitem => ?_, fun item hitem => ?_,
    fun before item after e => ?_, fun devId hdev link hlink => ?_⟩
  · simp [startSearch, map_flatMap, Tracked.path, comp_def]
  · simp only [startSpread]
    clear hmem
    induction edgeSet with
    | nil => rfl
    | cons edge edgeSet ih =>
      rw [flatMap_cons, filter_append, map_append, ← ih, filter_cons]
      by_cases hedge : edge = 0
      · simp [hedge, filter_map]
      · simp [hedge, filter_map, comp_def]
  · obtain ⟨edge, hedge, link, hlink, rfl⟩ := hmem item hitem
    simp only [portTo_fromDevId]
    exact ⟨hedge, .start hlink⟩
  · obtain ⟨edge, hedge, link, hlink, rfl⟩ := hmem item hitem
    simp only [portTo_fromDevId, startSpread, startSearch]
    exact fun _ => if_pos ⟨hedge, ne_nil_of_mem hlink⟩
  · obtain ⟨edge, -, link, -, rfl⟩ := hmem item hitem
    exact fun _ port hport => absurd hport not_mem_nil
  · obtain ⟨edge, -, link, -, rfl⟩ := hmem item hitem
    simp
  · obtain ⟨edge, -, link, -, rfl⟩ := hmem item (e ▸ by simp)
    simp only [portTo_fromDevId, decide_eq_false_iff_not, not_not]
    exact fun hzero hne => absurd hzero hne
  · simp only [startSpread, startSearch] at hdev
    have hedge : devId ∈ edgeSet := by
      by_contra h
      exact hdev (if_neg fun h' => h h'.1)
    have hne : devId ≠ 0 := by
      rintro rfl
      exact hdev (by split_ifs <;> rfl)
    refine .inr ⟨_, mem_flatMap.2 ⟨devId, hedge, mem_map.2 ⟨link, hlink, rfl⟩⟩, ?_, ?_⟩
    · exact decide_eq_true hne
    · exact portTo_nextDevId

variable {item : Tracked} {items : List Tracked} {spread : Spread} {search : PathSearch}

theorem Tracked.mem_goOn {first : Bool} {next : Tracked} (h : next ∈ item.goOn links first)
    (hwalk : Walk links item.last.fromDevId item.before item.last) :
    next.before = item.path ∧ next.last.fromDevId = item.last.fromDevId ∧ next.first = first ∧
      Walk links item.last.fromDevId next.before next.last ∧
      ∃ link ∈ adjacency links item.last.nextDevId,
        next.last.nextDevId = link.neighborId item.last.nextDevId := by
  obtain ⟨link, hlink, rfl⟩ := mem_map.1 h
  obtain ⟨hlink, hne⟩ := mem_filter.1 hlink
  exact ⟨rfl, portTo_fromDevId, rfl, hwalk.goOn hlink (of_decide_eq_true hne),
    link, hlink, portTo_nextDevId⟩

theorem Tracked.map_path_goOn {first : Bool} : (item.goOn links first).map Tracked.path =
      Intelligent.goOn (adjacency links) item.path item.last := by
  simp [Tracked.goOn, Intelligent.goOn, Tracked.path, comp_def]

theorem Tracked.ports_goOn : ((item.goOn links true).filter (·.first)).map Tracked.last =
      ((adjacency links item.last.nextDevId).filter (·.id ≠ item.last.linkId)).map
        (portTo item.last.fromDevId item.last.nextDevId) := by
  rw [filter_eq_self.2 fun x hx => ?_]
  · simp [Tracked.goOn, comp_def]
  · obtain ⟨link, -, rfl⟩ := mem_map.1 hx
    rfl

/-- A path that comes to a claimed device is left, and so may be one that the spread does not
take along. -/
theorem Sim.drop (h : Sim edgeSet links (item :: items) spread search)
    (hdrop : spread.visited item.last.nextDevId ≠ 0 ∨ item.first = false)
    (hq : search'.queue = items.map Tracked.path)
    (hvis : search'.visited = search.visited) :
    Sim edgeSet links items { spread with queue := (items.filter (·.first)).map Tracked.last }
      search' where
  paths := hq
  ports := rfl
  visited := hvis.trans h.visited
  walk x hx := h.walk x (mem_cons_of_mem _ hx)
  origin x hx := h.origin x (mem_cons_of_mem _ hx)
  passed x hx := h.passed x (mem_cons_of_mem _ hx)
  first x hx := h.first x (mem_cons_of_mem _ hx)
  covered before x after e hx hfrom := by
    rcases h.covered (item :: before) x after (by rw [e]; rfl) hx hfrom with hv | ⟨y, hy, hf, hn⟩
    · exact .inl hv
    · rcases mem_cons.1 hy with rfl | hy
      · rcases hdrop with hv | hfalse
        · exact .inl (hn ▸ hv)
        · rw [hfalse] at hf
          cases hf
      · exact .inr ⟨y, hy, hf, hn⟩
  closed devId hdev link hlink := by
    rcases h.closed devId hdev link hlink with hv | ⟨y, hy, hf, hn⟩
    · exact .inl hv
    · rcases mem_cons.1 hy with rfl | hy
      · rcases hdrop with hv | hfalse
        · exact .inl (hn ▸ hv)
        · rw [hfalse] at hf
          cases hf
      · exact .inr ⟨y, hy, hf, hn⟩

/-- A path that comes again to a device of its source goes on behind the others: where it leads to
is claimed, or a path before it leads there. -/
theorem Sim.goOn_again (h : Sim edgeSet links items spread search)
    (hwalk : item.last.fromDevId ∈ edgeSet ∧ Walk links item.last.fromDevId item.before item.last)
    (horigin : item.last.fromDevId ≠ 0 → spread.visited item.last.fromDevId = item.last.fromDevId)
    (hpast : item.last.fromDevId ≠ 0 → ∀ port ∈ item.before, spread.visited port.nextDevId =
      item.last.fromDevId) (hown : spread.visited item.last.nextDevId = item.last.fromDevId)
    (hq : search'.queue = search.queue ++ goOn (adjacency links) item.path item.last)
    (hvis : search'.visited = search.visited) :
    Sim edgeSet links (items ++ item.goOn links false) spread search' := by
  have hnext := fun x (hx : x ∈ item.goOn links false) => Tracked.mem_goOn hx hwalk.2
  refine ⟨?_, ?_, hvis.trans h.visited, fun x hx => ?_, fun x hx => ?_,
    fun x hx hfrom port hport => ?_, fun x hx hfirst => ?_, fun before x after e hx hfrom => ?_,
    fun devId hdev link hlink => ?_⟩
  · rw [hq, h.paths, map_append, Tracked.map_path_goOn]
  · have hnone : (item.goOn links false).filter (·.first) = [] :=
      filter_eq_nil_iff.2 fun x hx => by simp [(hnext x hx).2.2.1]
    rw [h.ports, filter_append, hnone, append_nil]
  · rcases mem_append.1 hx with hx | hx
    · exact h.walk x hx
    · obtain ⟨-, hf, -, hw, -⟩ := hnext x hx
      rw [hf]
      exact ⟨hwalk.1, hw⟩
  · rcases mem_append.1 hx with hx | hx
    · exact h.origin x hx
    · rw [(hnext x hx).2.1]
      exact horigin
  · rcases mem_append.1 hx with hx | hx
    · exact h.passed x hx hfrom port hport
    · obtain ⟨hb, hf, -⟩ := hnext x hx
      rw [hb, Tracked.path, mem_append, mem_singleton] at hport
      rw [hf] at hfrom ⊢
      rcases hport with hport | rfl
      · exact hpast hfrom port hport
      · exact hown
  · rcases mem_append.1 hx with hx | hx
    · exact h.first x hx hfirst
    · rw [(hnext x hx).2.2.1] at hfirst
      cases hfirst
  · have hcovered : x ∈ item.goOn links false → spread.visited x.last.nextDevId ≠ 0 ∨
        ∃ earlier ∈ items, earlier.first ∧ earlier.last.nextDevId = x.last.nextDevId := by
      intro hmem
      obtain ⟨-, hf, -, -, link, hlink, hn⟩ := hnext x hmem
      rw [hn]
      exact h.closed _ (hown ▸ hf ▸ hfrom) link hlink
    rcases append_eq_append_iff.1 e with ⟨mid, rfl, hafter⟩ | ⟨mid, hitems, hafter⟩
    · rcases hcovered (hafter ▸ by simp) with hv | ⟨y, hy, hrest⟩
      · exact .inl hv
      · exact .inr ⟨y, mem_append_left _ hy, hrest⟩
    · cases mid with
      | nil =>
        rw [append_nil] at hitems
        exact hitems ▸ hcovered ((nil_append _ ▸ hafter) ▸ by simp)
      | cons y mid =>
        obtain ⟨rfl, -⟩ := cons.inj hafter
        exact h.covered before x mid hitems hx hfrom
  · rcases h.closed devId hdev link hlink with hv | ⟨y, hy, hrest⟩
    · exact .inl hv
    · exact .inr ⟨y, mem_append_left _ hy, hrest⟩

/-- The path that comes to a device first claims it, and the spread takes along the paths that go
on from it. -/
theorem Sim.claim (h : Sim edgeSet links (item :: items) spread search)
    (hids : (links.map (·.id)).Nodup) (hfirst : item.first = true)
    (hv : spread.visited item.last.nextDevId = 0) {spread' : Spread}
    (hq : search'.queue = items.map Tracked.path ++ goOn (adjacency links) item.path item.last)
    (hports : spread'.queue = ((items ++ item.goOn links true).filter (·.first)).map Tracked.last)
    (hclaimed : spread'.visited =
      update spread.visited item.last.nextDevId item.last.fromDevId)
    (hvis : search'.visited = spread'.visited) :
    Sim edgeSet links (items ++ item.goOn links true) spread' search' := by
  have hhead : item ∈ item :: items := mem_cons_self
  have htail : ∀ x ∈ items, x ∈ item :: items := fun x hx => mem_cons_of_mem _ hx
  have hsrc : item.last.fromDevId ≠ 0 := h.first item hhead hfirst
  have hwalk := h.walk item hhead
  have hnext := fun x (hx : x ∈ item.goOn links true) => Tracked.mem_goOn hx hwalk.2
  have hself : spread'.visited item.last.nextDevId = item.last.fromDevId := by
    rw [hclaimed, update_self]
  -- a device that was claimed before is not the one claimed now
  have hkeep : ∀ d, spread.visited d ≠ 0 → spread'.visited d = spread.visited d := by
    intro d hd
    rw [hclaimed]
    refine update_of_ne (fun e => hd ?_) _ _
    rw [e]
    exact hv
  have hcov : ∀ x : Tracked, x.last.nextDevId = item.last.nextDevId →
      spread'.visited x.last.nextDevId ≠ 0 := by
    intro x hx
    rw [hx, hself]
    exact hsrc
  have horigin : ∀ x ∈ item :: items, x.last.fromDevId ≠ 0 →
      spread'.visited x.last.fromDevId = x.last.fromDevId := by
    intro x hx hfrom
    have ho := h.origin x hx hfrom
    rw [hkeep _ (by rw [ho]; exact hfrom), ho]
  have hpast : ∀ x ∈ item :: items, x.last.fromDevId ≠ 0 → ∀ port ∈ x.before,
      spread'.visited port.nextDevId = x.last.fromDevId := by
    intro x hx hfrom port hport
    have hp := h.passed x hx hfrom port hport
    rw [hkeep _ (by rw [hp]; exact hfrom), hp]
  refine ⟨?_, hports, hvis, fun x hx => ?_, fun x hx hfrom => ?_,
    fun x hx hfrom port hport => ?_, fun x hx hflag => ?_, fun before x after e hx hfrom => ?_,
    fun devId hdev link hlink => ?_⟩
  · rw [hq, map_append, Tracked.map_path_goOn]
  · rcases mem_append.1 hx with hx | hx
    · exact h.walk x (htail x hx)
    · obtain ⟨-, hf, -, hw, -⟩ := hnext x hx
      rw [hf]
      exact ⟨hwalk.1, hw⟩
  · rcases mem_append.1 hx with hx | hx
    · exact horigin x (htail x hx) hfrom
    · rw [(hnext x hx).2.1]
      exact horigin item hhead hsrc
  · rcases mem_append.1 hx with hx | hx
    · exact hpast x (htail x hx) hfrom port hport
    · obtain ⟨hb, hf, -⟩ := hnext x hx
      rw [hb, Tracked.path, mem_append, mem_singleton] at hport
      rw [hf] at hfrom ⊢
      rcases hport with hport | rfl
      · exact hpast item hhead hfrom port hport
      · exact hself
  · rcases mem_append.1 hx with hx | hx
    · exact h.first x (htail x hx) hflag
    · rw [(hnext x hx).2.1]
      exact hsrc
  · have hold : x ∉ item.goOn links true := by
      intro hmem
      rw [(hnext x hmem).2.2.1] at hx
      cases hx
    rcases append_eq_append_iff.1 e with ⟨mid, -, hafter⟩ | ⟨mid, hitems, hafter⟩
    · exact absurd (hafter ▸ by simp) hold
    · cases mid with
      | nil => exact absurd ((nil_append _ ▸ hafter) ▸ by simp) hold
      | cons y mid =>
        obtain ⟨rfl, -⟩ := cons.inj hafter
        rcases h.covered (item :: before) x mid (by rw [hitems]; rfl) hx hfrom with
          hvx | ⟨y, hy, hfy, hny⟩
        · exact .inl (by rw [hkeep _ hvx]; exact hvx)
        · rcases mem_cons.1 hy with rfl | hy
          · exact .inl (hcov x hny.symm)
          · exact .inr ⟨y, hy, hfy, hny⟩
  · by_cases hd : devId = item.last.nextDevId
    · subst hd
      by_cases hback : link.id = item.last.linkId
      · -- the link back to where the path came from
        obtain ⟨devId, hdevId, link', hlink', hlast⟩ := hwalk.2.exists_link
        have hlast' := congrArg EgressPort.linkId hlast
        rw [portTo_linkId] at hlast'
        obtain rfl : link = link' := inj_on_of_nodup_map hids (mem_adjacency.1 hlink).1
          (mem_adjacency.1 hlink').1 (hback.trans hlast')
        have hprev : link.neighborId item.last.nextDevId = devId := by
          rw [hlast, portTo_nextDevId, (mem_adjacency_neighborId hlink').2]
        refine .inl ?_
        rw [hprev]
        rcases hdevId with rfl | ⟨port, hport, rfl⟩
        · rw [horigin item hhead hsrc]
          exact hsrc
        · rw [hpast item hhead hsrc port hport]
          exact hsrc
      · refine .inr ⟨_, mem_append_right _ (mem_map.2 ⟨link, mem_filter.2
          ⟨hlink, decide_eq_true hback⟩, rfl⟩), rfl, portTo_nextDevId⟩
    · rw [hclaimed, update_of_ne hd] at hdev
      rcases h.closed devId hdev link hlink with hvn | ⟨y, hy, hfy, hny⟩
      · exact .inl (by rw [hkeep _ hvn]; exact hvn)
      · rcases mem_cons.1 hy with rfl | hy
        · exact .inl (hny ▸ hcov y rfl)
        · exact .inr ⟨y, mem_append_left _ hy, hfy, hny⟩

/-- What a round of the search does with the path at the head of the queue. -/
theorem searchRound_of_queue (topology : ℤ → List Link) (item : Tracked)
    {queue : List (List EgressPort)} (h : search.queue = item.path :: queue) :
    searchRound topology search =
      if search.visited item.last.nextDevId ≠ 0 ∧
          search.visited item.last.nextDevId ≠ item.last.fromDevId then
        .next (recordPath item.path { search with queue := queue })
      else
        .next { search with
          queue := queue ++ goOn topology item.path item.last
          visited :=
            update search.visited item.last.nextDevId item.last.fromDevId } := by
  unfold searchRound
  rw [h]
  simp only [Tracked.path, getLast?_append, getLast?_singleton, Option.some_or]

theorem recordPath_queue {curPath : List EgressPort} :
    (recordPath curPath search).queue = search.queue := by
  cases curPath <;> rfl

theorem recordPath_visited {curPath : List EgressPort} :
    (recordPath curPath search).visited = search.visited := by
  cases curPath <;> rfl

/-- A path that goes on and claims nothing is in a device of its source. -/
theorem Sim.owned (h : Sim edgeSet links (item :: items) spread search)
    (hdrop : spread.visited item.last.nextDevId ≠ 0 ∨ item.first = false)
    (hgoOn : ¬(spread.visited item.last.nextDevId ≠ 0 ∧
      spread.visited item.last.nextDevId ≠ item.last.fromDevId)) :
    spread.visited item.last.nextDevId = item.last.fromDevId := by
  by_contra hne
  have hzero : spread.visited item.last.nextDevId = 0 := by
    by_contra hv
    exact hgoOn ⟨hv, hne⟩
  rcases h.covered [] item items rfl (hdrop.resolve_left (not_not.2 hzero))
    (fun e => hne (hzero.trans e.symm)) with hv | ⟨y, hy, -⟩
  · exact hv hzero
  · exact absurd hy not_mem_nil

/-- A path that does not claim where it comes to leaves the spread as it is, except that it is no
longer in the queue. -/
theorem Sim.pass (h : Sim edgeSet links (item :: items) spread search)
    (hdrop : spread.visited item.last.nextDevId ≠ 0 ∨ item.first = false) :
    ∃ search' more, searchRound (adjacency links) search = .next search' ∧
      Sim edgeSet links (items ++ more)
        { spread with queue := (items.filter (·.first)).map Tracked.last } search' ∧
      ∀ x ∈ more, x.first = false := by
  have hhead : item ∈ item :: items := mem_cons_self
  have hround := searchRound_of_queue (adjacency links) item (by rw [h.paths]; rfl)
  rw [h.visited] at hround
  by_cases hleave : spread.visited item.last.nextDevId ≠ 0 ∧
      spread.visited item.last.nextDevId ≠ item.last.fromDevId
  · rw [if_pos hleave] at hround
    refine ⟨_, [], hround, ?_, fun x hx => absurd hx not_mem_nil⟩
    rw [append_nil]
    exact h.drop hdrop recordPath_queue (recordPath_visited.trans h.visited.symm)
  · rw [if_neg hleave] at hround
    have hown := h.owned hdrop hleave
    have hdropped : Sim edgeSet links items
        { spread with queue := (items.filter (·.first)).map Tracked.last }
        { search with queue := items.map Tracked.path } := h.drop hdrop rfl rfl
    refine ⟨_, _, hround, hdropped.goOn_again (h.walk item hhead) (h.origin item hhead)
      (h.passed item hhead) hown rfl ?_, fun x hx => ?_⟩
    · rw [← hown, update_eq_self, h.visited]
    · exact (Tracked.mem_goOn hx (h.walk item hhead).2).2.2.1

/-- **One round of the search**: with a path that the spread takes along the spread goes round as
well, and with any other path it stays as it is. -/
theorem Sim.round (hids : (links.map (·.id)).Nodup)
    (h : Sim edgeSet links (item :: items) spread search) :
    ∃ search' spread' more, searchRound (adjacency links) search = .next search' ∧
      Sim edgeSet links (items ++ more) spread' search' ∧
      (item.first = true → spreadRound (adjacency links) spread = .next spread') ∧
      (item.first = false → spread' = spread ∧ ∀ x ∈ more, x.first = false) := by
  have hports := h.ports
  rw [filter_cons] at hports
  by_cases hfirst : item.first = true
  · have hspread := hports
    rw [if_pos hfirst] at hspread
    by_cases hv : spread.visited item.last.nextDevId = 0
    · have hround := searchRound_of_queue (adjacency links) item (by rw [h.paths]; rfl)
      rw [h.visited, if_neg fun hne => hne.1 hv] at hround
      refine ⟨_, {
        queue := (items.filter (·.first)).map Tracked.last ++
          ((adjacency links item.last.nextDevId).filter (·.id ≠ item.last.linkId)).map
            (portTo item.last.fromDevId item.last.nextDevId)
        visited := update spread.visited item.last.nextDevId item.last.fromDevId },
        _, hround, h.claim hids hfirst hv rfl ?_ rfl rfl, fun _ => ?_,
        fun hf => absurd hfirst (by simp [hf])⟩
      · rw [filter_append, map_append, Tracked.ports_goOn]
      · unfold spreadRound
        rw [hspread]
        exact if_neg (not_not.2 hv)
    · obtain ⟨search', more, hround, hsim, -⟩ := h.pass (.inl hv)
      refine ⟨search', _, more, hround, hsim, fun _ => ?_,
        fun hf => absurd hfirst (by simp [hf])⟩
      unfold spreadRound
      rw [hspread]
      exact if_pos hv
  · obtain ⟨search', more, hround, hsim, hmore⟩ := h.pass (.inr (by simpa using hfirst))
    refine ⟨search', spread, more, hround, ?_, fun hf => absurd hf hfirst, fun _ => ⟨rfl, hmore⟩⟩
    rw [if_neg hfirst] at hports
    rw [← hports] at hsim
    exact hsim

variable (hids : (links.map (·.id)).Nodup)
  (h : Loop.Visits (searchRound (adjacency links)) (startSearch edgeSet (adjacency links)) search)
include hids h

/-- Every state of the search stands next to a state of the spread. -/
theorem exists_sim_of_visits : ∃ items spread, Sim edgeSet links items spread search ∧
      Loop.Visits (spreadRound (adjacency links)) (startSpread edgeSet (adjacency links))
        spread := by
  refine h.rule (I := fun search => ∃ items spread, Sim edgeSet links items spread search ∧
    Loop.Visits (spreadRound (adjacency links)) (startSpread edgeSet (adjacency links)) spread)
    ?_ ?_
  · obtain ⟨items, hsim⟩ := exists_sim_start edgeSet links
    exact ⟨items, _, hsim, .refl _⟩
  · rintro search search' - ⟨items, spread, hsim, hvisits⟩ hnext
    cases items with
    | nil =>
      simp [searchRound, hsim.paths] at hnext
    | cons item items =>
      obtain ⟨search'', spread', more, hround, hsim', hclaim, hpass⟩ := hsim.round hids
      rw [hround] at hnext
      cases hnext
      refine ⟨_, spread', hsim', ?_⟩
      cases hfirst : item.first with
      | true => exact hvisits.step (hclaim hfirst)
      | false =>
        rw [(hpass hfirst).1]
        exact hvisits

/-- **A device that the search has claimed has the owner the spread gives it.** -/
theorem owners_eq_of_visits (hdev : search.visited devId ≠ 0) :
    owners edgeSet links devId = search.visited devId := by
  obtain ⟨items, spread, hsim, hvisits⟩ := exists_sim_of_visits hids h
  rw [hsim.visited] at hdev ⊢
  exact owners_eq hvisits hdev

omit hids h

end Intelligent
end Sebastian

/-
# The search in a network without cycles

`sebastian/core/intelligent_vlan.go`, `findAllLinksBetweenEdges`, where the links
make no cycle and are listed at their devices in any order.  A path of the queue is
a route from an end device (`Network.Route`), so it is of bounded length and the
search ends (`exists_run_of_acyclic`).

The devices that an end device claims are its territory.  A path that has left the
territory of its source at its last port is a `Fragment`.  What the search keeps is
`Traced`: every fragment is waiting in the queue, or leads to a device of its own
source, or leads to a device of another and has been recorded; and nothing else has
been recorded.

`visited` reads as 0 where no end device has come, so an end device 0 claims nothing.
What is said of territories is said where it has no way to another one (`ZeroApart`).
-/

import Sebastian.Intelligent.PathEnd
import Sebastian.Lib.Network

namespace Sebastian
namespace Intelligent

open List

/-! ### The links as a network -/

/-- A link taken from one of its devices. -/
def LinkDart (links : List Link) : Type := { x : ℤ × Link // x.2 ∈ adjacency links x.1 }

/-- The devices and their links. -/
def network (links : List Link) : Network ℤ (LinkDart links) where
  src x := x.1.1
  dst x := x.1.2.neighborId x.1.1
  rev x := ⟨(x.1.2.neighborId x.1.1, x.1.2), (mem_adjacency_neighborId x.2).1⟩
  rev_rev x := Subtype.ext (Prod.ext (mem_adjacency_neighborId x.2).2 rfl)
  src_rev _ := rfl

/-- The links of each device in any order. -/
def Lists (topology : ℤ → List Link) (links : List Link) : Prop :=
  ∀ devId, (topology devId).Perm (adjacency links devId)

/-- No listed device has the id 0 and a way to another listed device. -/
def ZeroApart (edgeSet : List ℤ) (links : List Link) : Prop :=
  0 ∈ edgeSet → ∀ edge ∈ edgeSet, edge ≠ 0 → ¬(network links).Connected 0 edge

section
variable {links : List Link} {topology : ℤ → List Link} {edgeSet : List ℤ} {source devId portId : ℤ}
  {x y : LinkDart links} {l : List (LinkDart links)}

namespace LinkDart

/-- The port that is taken, on the way from a source. -/
def port (source : ℤ) (x : LinkDart links) : EgressPort := portTo source x.1.1 x.1.2

/-- The port leaves the device here. -/
def LeavesBy (x : LinkDart links) (devId portId : ℤ) : Prop :=
  (network links).src x = devId ∧ (x.port 0).currPortId = portId

/-- The port that is come to is this one. -/
def EntersBy (x : LinkDart links) (devId portId : ℤ) : Prop :=
  (network links).dst x = devId ∧ (x.port 0).nextPortId = portId

@[simp] theorem port_fromDevId : (x.port source).fromDevId = source := portTo_fromDevId

@[simp] theorem port_linkId : (x.port source).linkId = x.1.2.id := portTo_linkId

@[simp] theorem port_nextDevId : (x.port source).nextDevId = (network links).dst x :=
  portTo_nextDevId

@[simp] theorem port_currDevId : (x.port source).currDevId = (network links).src x := by
  show (portTo source x.1.1 x.1.2).currDevId = x.1.1
  unfold portTo
  split_ifs with h
  · exact (mem_adjacency.1 x.2).2.resolve_left h
  · exact not_not.1 h

theorem port_currPortId : (x.port source).currPortId = (x.port 0).currPortId := by
  unfold port portTo
  split_ifs <;> rfl

theorem port_nextPortId : (x.port source).nextPortId = (x.port 0).nextPortId := by
  unfold port portTo
  split_ifs <;> rfl

theorem leavesBy_iff : x.LeavesBy devId portId ↔
    (x.port source).currDevId = devId ∧ (x.port source).currPortId = portId := by
  rw [port_currDevId, port_currPortId]
  exact Iff.rfl

theorem entersBy_iff : x.EntersBy devId portId ↔
    (x.port source).nextDevId = devId ∧ (x.port source).nextPortId = portId := by
  rw [port_nextDevId, port_nextPortId]
  exact Iff.rfl

/-- **The way back** leaves where the way forth enters. -/
theorem leavesBy_rev (hx : (network links).src x ≠ (network links).dst x) :
    LeavesBy ((network links).rev x) devId portId ↔ x.EntersBy devId portId := by
  unfold LeavesBy EntersBy
  rw [Network.src_rev]
  refine and_congr_right fun _ => ?_
  have hport : (port 0 ((network links).rev x)).currPortId = (x.port 0).nextPortId := by
    show (portTo 0 (x.1.2.neighborId x.1.1) x.1.2).currPortId = (portTo 0 x.1.1 x.1.2).nextPortId
    have hne : x.1.1 ≠ x.1.2.neighborId x.1.1 := hx
    unfold portTo
    unfold Link.neighborId at hne ⊢
    split_ifs with h₁ h₂ h₂ <;> simp_all
  rw [hport]

theorem entersBy_rev (hx : (network links).src x ≠ (network links).dst x) :
    EntersBy ((network links).rev x) devId portId ↔ x.LeavesBy devId portId := by
  rw [← leavesBy_rev (by simpa using hx.symm), Network.rev_rev]

end LinkDart

/-- The ports of a route, on the way from a source. -/
def pathOf (source : ℤ) (l : List (LinkDart links)) : List EgressPort := l.map (·.port source)

theorem pathOf_concat : pathOf source (l ++ [x]) = pathOf source l ++ [x.port source] := by
  simp [pathOf]

theorem Lists.mem_iff (h : Lists topology links) {link : Link} :
    link ∈ topology devId ↔ link ∈ adjacency links devId := (h devId).mem_iff

/-- Links of one id are one link, so that another link is no way back. -/
theorem ne_rev_iff (hids : (links.map (·.id)).Nodup)
    (hy : (network links).src y = (network links).dst x) :
    y ≠ (network links).rev x ↔ y.1.2.id ≠ x.1.2.id := by
  rw [not_iff_not]
  constructor
  · rintro rfl
    rfl
  · intro hid
    refine Subtype.ext (Prod.ext hy ?_)
    exact inj_on_of_nodup_map hids (mem_adjacency.1 y.2).1 (mem_adjacency.1 x.2).1 hid

/-- **The paths that go on**, from the end of a route. -/
theorem mem_goOn (hids : (links.map (·.id)).Nodup) (htopo : Lists topology links)
    {path : List EgressPort} : path ∈ goOn topology (pathOf source (l ++ [x])) (x.port source) ↔
      ∃ y, (network links).src y = (network links).dst x ∧ y ≠ (network links).rev x ∧
        path = pathOf source (l ++ [x] ++ [y]) := by
  unfold goOn
  simp only [mem_map, mem_filter, LinkDart.port_nextDevId, LinkDart.port_linkId,
    LinkDart.port_fromDevId, decide_eq_true_iff]
  constructor
  · rintro ⟨link, ⟨hlink, hid⟩, rfl⟩
    let y : LinkDart links := ⟨((network links).dst x, link), htopo.mem_iff.1 hlink⟩
    refine ⟨y, rfl, (ne_rev_iff (y := y) hids rfl).2 hid, ?_⟩
    rw [pathOf_concat (l := l ++ [x])]
    rfl
  · rintro ⟨y, hy, hne, rfl⟩
    have hmem := y.2
    have hsrc : y.1.1 = (network links).dst x := hy
    rw [hsrc] at hmem
    refine ⟨y.1.2, ⟨htopo.mem_iff.2 hmem, (ne_rev_iff hids hy).1 hne⟩, ?_⟩
    rw [pathOf_concat (l := l ++ [x]), ← hsrc]
    rfl

end

/-! ### What is recorded -/

/-- The port is in the map. -/
def PortMap.Has (m : PortMap) (devId portId : ℤ) : Prop :=
  ∃ ports linkId, m devId = some ports ∧ ports portId = some linkId

section
variable {links : List Link} {source devId portId devId' portId' linkId : ℤ} {m : PortMap}
  {x : LinkDart links} {l : List (LinkDart links)}

theorem has_insertPortMap : (insertPortMap m devId portId linkId).Has devId' portId' ↔
    (devId = devId' ∧ portId = portId') ∨ m.Has devId' portId' := by
  unfold insertPortMap PortMap.Has
  simp only [GoMap.set_apply]
  by_cases hdev : devId' = devId
  · subst hdev
    simp only [if_true, Option.some.injEq, true_and]
    by_cases hport : portId' = portId
    · subst hport
      simp
    · rw [or_iff_right fun heq => hport heq.symm]
      cases m devId' with
      | none => simp [hport]
      | some ports => simp [hport]
  · rw [or_iff_right fun heq => hdev heq.1.symm]
    simp only [if_neg hdev]

/-- A route lets in at the port. -/
def Enters (l : List (LinkDart links)) (devId portId : ℤ) : Prop :=
  ∃ x ∈ l, x.EntersBy devId portId

/-- A route lets out at the port. -/
def Leaves (l : List (LinkDart links)) (devId portId : ℤ) : Prop :=
  ∃ x ∈ l, x.LeavesBy devId portId

theorem has_foldl_insertPortMap : ((pathOf source l).foldl (fun m port =>
    insertPortMap (insertPortMap m port.currDevId port.currPortId port.linkId)
      port.nextDevId port.nextPortId port.linkId) m).Has devId portId ↔
      (Leaves l devId portId ∨ Enters l devId portId) ∨ m.Has devId portId := by
  unfold Leaves Enters pathOf
  induction l generalizing m with
  | nil => simp
  | cons x l ih =>
    rw [map_cons, foldl_cons, ih, has_insertPortMap, has_insertPortMap,
      ← LinkDart.leavesBy_iff, ← LinkDart.entersBy_iff, exists_mem_cons_iff,
      exists_mem_cons_iff]
    simp only [or_assoc, or_comm, or_left_comm]

/-- **What is recorded of a route**: where its first link enters is an edge port, and every port
but the first is a through port. -/
theorem has_recordPath {search : PathSearch} :
    ((recordPath (pathOf source (x :: l)) search).edgePort.Has devId portId ↔
      x.EntersBy devId portId ∨ search.edgePort.Has devId portId) ∧
    ((recordPath (pathOf source (x :: l)) search).throughPort.Has devId portId ↔
      (Enters (x :: l) devId portId ∨ Leaves l devId portId) ∨
        search.throughPort.Has devId portId) := by
  constructor
  · rw [LinkDart.entersBy_iff]
    exact has_insertPortMap
  · refine has_foldl_insertPortMap.trans ?_
    rw [has_insertPortMap, ← LinkDart.entersBy_iff]
    unfold Enters
    rw [exists_mem_cons_iff]
    simp only [or_assoc, or_comm, or_left_comm]

end

/-! ### What the search keeps -/

/-- **A way through the territory of an end device** and over one link more. -/
structure Fragment (edgeSet : List ℤ) (visited : ℤ → ℤ) (source : ℤ) {links : List Link}
    (l : List (LinkDart links)) (x : LinkDart links) : Prop where
  listed : source ∈ edgeSet
  ne_zero : source ≠ 0
  route : (network links).Route source (l ++ [x]) ((network links).dst x)
  inside : ∀ y ∈ l, visited ((network links).dst y) = source

/-- **The search in a network without cycles**, and what it has recorded. -/
structure Traced (edgeSet : List ℤ) {links : List Link}
    (found : List (ℤ × List (LinkDart links))) (search : PathSearch) : Prop where
  queue : ∀ path ∈ search.queue, ∃ source l x, path = pathOf source (l ++ [x]) ∧
    source ∈ edgeSet ∧ (network links).Route source (l ++ [x]) ((network links).dst x) ∧
    (source ≠ 0 → ∀ y ∈ l, search.visited ((network links).dst y) = source)
  owned : ∀ devId, search.visited devId ≠ 0 → search.visited devId ∈ edgeSet ∧
    ∃ l, (network links).Route (search.visited devId) l devId ∧
      ∀ y ∈ l, search.visited ((network links).dst y) = search.visited devId
  own : ∀ x : LinkDart links, (network links).src x ∈ edgeSet → (network links).src x ≠ 0 →
    search.visited ((network links).src x) = (network links).src x
  walked : ∀ source l x, Fragment edgeSet search.visited source l x →
    pathOf source (l ++ [x]) ∈ search.queue ∨
      search.visited ((network links).dst x) = source ∨ (source, l ++ [x]) ∈ found
  fragment : ∀ source l, (source, l) ∈ found → ∃ l' x, l = l' ++ [x] ∧
    Fragment edgeSet search.visited source l' x ∧
    search.visited ((network links).dst x) ≠ 0 ∧
    search.visited ((network links).dst x) ≠ source
  edge : ∀ devId portId, search.edgePort.Has devId portId ↔
    ∃ source x l, (source, x :: l) ∈ found ∧ x.EntersBy devId portId
  through : ∀ devId portId, search.throughPort.Has devId portId ↔
    ∃ source x l, (source, x :: l) ∈ found ∧
      (Enters (x :: l) devId portId ∨ Leaves l devId portId)

section
variable {links : List Link} {topology : ℤ → List Link} {edgeSet : List ℤ} {source devId : ℤ}
  {x y : LinkDart links} {l : List (LinkDart links)} {search search' : PathSearch}
  {found : List (ℤ × List (LinkDart links))} {rest : List (List EgressPort)}

theorem pathOf_concat_inj {source' : ℤ} {x' : LinkDart links} {l' : List (LinkDart links)}
    (h : pathOf source (l ++ [x]) = pathOf source' (l' ++ [x'])) :
    source = source' ∧ (network links).dst x = (network links).dst x' := by
  rw [pathOf_concat, pathOf_concat] at h
  have hport := singleton_inj.1 (append_inj' h rfl).2
  have hfrom := congrArg EgressPort.fromDevId hport
  have hnext := congrArg EgressPort.nextDevId hport
  simp only [LinkDart.port_fromDevId, LinkDart.port_nextDevId] at hfrom hnext
  exact ⟨hfrom, hnext⟩

/-- What a round does with the path at the head of the queue. -/
theorem searchRound_of_pathOf (topology : ℤ → List Link)
    (hq : search.queue = pathOf source (l ++ [x]) :: rest) :
    searchRound topology search =
      if search.visited ((network links).dst x) ≠ 0 ∧
          search.visited ((network links).dst x) ≠ source then
        .next (recordPath (pathOf source (l ++ [x])) { search with queue := rest })
      else
        .next { search with
          queue := rest ++ goOn topology (pathOf source (l ++ [x])) (x.port source)
          visited := Function.update search.visited ((network links).dst x) source } := by
  rw [pathOf_concat] at hq ⊢
  have hround := searchRound_of_queue topology
    { before := pathOf source l, last := x.port source, first := false } hq
  rwa [LinkDart.port_nextDevId, LinkDart.port_fromDevId] at hround

/-- **The search starts.** -/
theorem traced_startSearch (hacyc : (network links).Acyclic) (htopo : Lists topology links) :
    Traced edgeSet ([] : List (ℤ × List (LinkDart links))) (startSearch edgeSet topology) := by
  have hown : ∀ x : LinkDart links, (network links).src x ∈ edgeSet →
      (startSearch edgeSet topology).visited ((network links).src x) = (network links).src x :=
    fun x hx => if_pos ⟨hx, ne_nil_of_mem (htopo.mem_iff.2 x.2)⟩
  have hvis : ∀ devId, (startSearch edgeSet topology).visited devId ≠ 0 →
      devId ∈ edgeSet ∧ (startSearch edgeSet topology).visited devId = devId := by
    intro devId hne
    unfold startSearch at hne ⊢
    dsimp only at hne ⊢
    split_ifs at hne ⊢ with hlisted
    · exact ⟨hlisted.1, rfl⟩
    · exact absurd rfl hne
  refine ⟨fun path hpath => ?_, fun devId hne => ?_, fun x hx _ => hown x hx,
    fun source l x hfrag => ?_, nofun, fun devId portId => ?_, fun devId portId => ?_⟩
  · obtain ⟨edge, hedge, hmem⟩ := mem_flatMap.1 hpath
    obtain ⟨link, hlink, rfl⟩ := mem_map.1 hmem
    refine ⟨edge, [], ⟨(edge, link), htopo.mem_iff.1 hlink⟩, rfl, hedge, ?_,
      fun _ => forall_mem_nil _⟩
    exact Network.route_singleton_iff.2 ⟨rfl, rfl⟩
  · obtain ⟨hlisted, heq⟩ := hvis devId hne
    rw [heq]
    exact ⟨hlisted, [], .nil _, forall_mem_nil _⟩
  · refine .inl ?_
    cases l with
    | nil =>
      obtain ⟨hsrc, -⟩ := Network.route_singleton_iff.1 hfrag.route
      have hmem := x.2
      have hsrc' : x.1.1 = source := hsrc
      rw [hsrc', ← htopo.mem_iff] at hmem
      refine mem_flatMap.2 ⟨source, hfrag.listed, mem_map.2 ⟨x.1.2, hmem, ?_⟩⟩
      rw [← hsrc']
      rfl
    | cons y l =>
      -- a device that is claimed is the end device itself
      have hy := hfrag.inside y mem_cons_self
      have hback := (hvis _ (by rw [hy]; exact hfrag.ne_zero)).2
      obtain ⟨hsrc, -, -⟩ := Network.route_cons_iff.1 hfrag.route
      exact absurd (hsrc.trans (hy.symm.trans hback)) (hacyc.src_ne_dst y)
  · exact iff_of_false (fun ⟨_, _, hnone, _⟩ => nomatch hnone) fun ⟨_, _, _, hmem, _⟩ =>
      nomatch hmem
  · exact iff_of_false (fun ⟨_, _, hnone, _⟩ => nomatch hnone) fun ⟨_, _, _, hmem, _⟩ =>
      nomatch hmem

/-- What is recorded next to what has been found. -/
theorem exists_found_cons {P : LinkDart links → List (LinkDart links) → Prop} :
    (∃ source' x' l', (source', x' :: l') ∈ (source, x :: l) :: found ∧ P x' l') ↔
      P x l ∨ ∃ source' x' l', (source', x' :: l') ∈ found ∧ P x' l' := by
  constructor
  · rintro ⟨source', x', l', hmem, hP⟩
    rcases mem_cons.1 hmem with heq | hmem
    · obtain ⟨-, hcons⟩ := Prod.mk.inj heq
      obtain ⟨rfl, rfl⟩ := cons.inj hcons
      exact .inl hP
    · exact .inr ⟨source', x', l', hmem, hP⟩
  · rintro (hP | ⟨source', x', l', hmem, hP⟩)
    · exact ⟨source, x, l, mem_cons_self, hP⟩
    · exact ⟨source', x', l', mem_cons_of_mem _ hmem, hP⟩

/-- **A path to the territory of another end device** is recorded. -/
theorem Traced.record (h : Traced edgeSet found search) (hacyc : (network links).Acyclic)
    (hq : search.queue = pathOf source (l ++ [x]) :: rest)
    (hfrag : Fragment edgeSet search.visited source l x)
    (hne : search.visited ((network links).dst x) ≠ 0)
    (hother : search.visited ((network links).dst x) ≠ source) :
    Traced edgeSet ((source, l ++ [x]) :: found)
      (recordPath (pathOf source (l ++ [x])) { search with queue := rest }) := by
  have hvis : (recordPath (pathOf source (l ++ [x])) { search with queue := rest }).visited =
      search.visited := recordPath_visited
  have hrest : (recordPath (pathOf source (l ++ [x])) { search with queue := rest }).queue =
      rest := recordPath_queue
  have hports : ∀ devId portId,
      ((recordPath (pathOf source (l ++ [x])) { search with queue := rest }).edgePort.Has
        devId portId ↔ ∃ source' x' l', (source', x' :: l') ∈ (source, l ++ [x]) :: found ∧
          x'.EntersBy devId portId) ∧
      ((recordPath (pathOf source (l ++ [x])) { search with queue := rest }).throughPort.Has
        devId portId ↔ ∃ source' x' l', (source', x' :: l') ∈ (source, l ++ [x]) :: found ∧
          (Enters (x' :: l') devId portId ∨ Leaves l' devId portId)) := by
    intro devId portId
    obtain ⟨y, t, hyt⟩ : ∃ y t, l ++ [x] = y :: t := exists_cons_of_ne_nil (by simp)
    rw [hyt, exists_found_cons (P := fun x' _ => x'.EntersBy devId portId),
      exists_found_cons (P := fun x' l' => Enters (x' :: l') devId portId ∨
        Leaves l' devId portId), ← h.edge, ← h.through]
    exact has_recordPath
  refine ⟨fun path hpath => ?_, ?_, ?_, fun s l' x' hfrag' => ?_, fun s l' hfound => ?_,
    fun devId portId => (hports devId portId).1, fun devId portId => (hports devId portId).2⟩
  · rw [hrest] at hpath
    rw [hvis]
    exact h.queue path (hq ▸ mem_cons_of_mem _ hpath)
  · rw [hvis]
    exact h.owned
  · rw [hvis]
    exact h.own
  · rw [hvis] at hfrag' ⊢
    rw [hrest]
    rcases h.walked s l' x' hfrag' with hmem | hown | hfound
    · rw [hq] at hmem
      rcases mem_cons.1 hmem with heq | hmem
      · -- the route to a device is the only one
        obtain ⟨rfl, hdst⟩ := pathOf_concat_inj heq
        have hroute := hfrag'.route
        rw [hdst] at hroute
        rw [hroute.unique hacyc hfrag.route]
        exact .inr (.inr mem_cons_self)
      · exact .inl hmem
    · exact .inr (.inl hown)
    · exact .inr (.inr (mem_cons_of_mem _ hfound))
  · rw [hvis]
    rcases mem_cons.1 hfound with heq | hfound
    · obtain ⟨rfl, rfl⟩ := Prod.mk.inj heq
      exact ⟨l, x, rfl, hfrag, hne, hother⟩
    · exact h.fragment s l' hfound

/-- The route goes on to the links of the device that it comes to, but for the one it came by. -/
theorem route_goOn (hids : (links.map (·.id)).Nodup) (htopo : Lists topology links)
    (hroute : (network links).Route source (l ++ [x]) ((network links).dst x))
    {path : List EgressPort}
    (hpath : path ∈ goOn topology (pathOf source (l ++ [x])) (x.port source)) :
    ∃ y, path = pathOf source (l ++ [x] ++ [y]) ∧
      (network links).Route source (l ++ [x] ++ [y]) ((network links).dst y) := by
  obtain ⟨y, hsrc, hne, rfl⟩ := (mem_goOn hids htopo).1 hpath
  refine ⟨y, rfl, Network.route_concat_iff.2 ⟨by rwa [hsrc], fun e he => ?_, rfl⟩⟩
  rw [getLast?_concat] at he
  cases he
  exact hne

/-- **A path to a device that is not claimed, or of its own source**, goes on. -/
theorem Traced.goOn (h : Traced edgeSet found search) (hids : (links.map (·.id)).Nodup)
    (htopo : Lists topology links) (hacyc : (network links).Acyclic)
    (hq : search.queue = pathOf source (l ++ [x]) :: rest) (hsource : source ∈ edgeSet)
    (hroute : (network links).Route source (l ++ [x]) ((network links).dst x))
    (hinside : source ≠ 0 → ∀ y ∈ l, search.visited ((network links).dst y) = source)
    (hfree : search.visited ((network links).dst x) = 0 ∨
      search.visited ((network links).dst x) = source)
    (hq' : search'.queue =
      rest ++ goOn topology (pathOf source (l ++ [x])) (x.port source))
    (hvis : search'.visited =
      Function.update search.visited ((network links).dst x) source)
    (hports : search'.edgePort = search.edgePort ∧ search'.throughPort = search.throughPort) :
    Traced edgeSet found search' := by
  have hself : search'.visited ((network links).dst x) = source := by
    rw [hvis, Function.update_self]
  have hothers : ∀ d, d ≠ (network links).dst x → search'.visited d = search.visited d := by
    intro d hd
    rw [hvis, Function.update_of_ne hd]
  -- what is claimed stays claimed
  have hkeep : ∀ d, search.visited d ≠ 0 → search'.visited d = search.visited d := by
    intro d hd
    by_cases hdx : d = (network links).dst x
    · rw [hdx] at hd ⊢
      rw [hself, hfree.resolve_left hd]
    · exact hothers d hdx
  have hinside' : ∀ s (t : List (LinkDart links)), s ≠ 0 →
      (∀ y ∈ t, search.visited ((network links).dst y) = s) →
      ∀ y ∈ t, search'.visited ((network links).dst y) = s := by
    intro s t hs ht y hy
    rw [hkeep _ (by rw [ht y hy]; exact hs), ht y hy]
  have hinside₁ : source ≠ 0 → ∀ y ∈ l ++ [x], search'.visited ((network links).dst y) =
    source := by
    intro hs0 y hy
    rcases mem_append.1 hy with hy | hy
    · exact hinside' source l hs0 (hinside hs0) y hy
    · rw [mem_singleton.1 hy, hself]
  refine ⟨fun path hpath => ?_, fun d hd => ?_, fun y hy hy0 => ?_, fun s l' x' hfrag => ?_,
    fun s l' hfound => ?_, ?_, ?_⟩
  · rw [hq'] at hpath
    rcases mem_append.1 hpath with hpath | hpath
    · obtain ⟨s, l', x', rfl, hs, hroute', hin⟩ := h.queue path
        (hq ▸ mem_cons_of_mem _ hpath)
      exact ⟨s, l', x', rfl, hs, hroute', fun hs0 => hinside' s l' hs0 (hin hs0)⟩
    · obtain ⟨y, rfl, hroute'⟩ := route_goOn hids htopo hroute hpath
      exact ⟨source, l ++ [x], y, rfl, hsource, hroute', hinside₁⟩
  · by_cases hdx : d = (network links).dst x
    · rw [hdx, hself] at hd ⊢
      exact ⟨hsource, l ++ [x], hroute, hinside₁ hd⟩
    · rw [hothers d hdx] at hd ⊢
      obtain ⟨hlisted, t, ht, hin⟩ := h.owned d hd
      exact ⟨hlisted, t, ht, hinside' _ t hd hin⟩
  · have hown := h.own y hy hy0
    rw [hkeep _ (by rw [hown]; exact hy0), hown]
  · rw [hq']
    by_cases hold : ∀ y ∈ l', search.visited ((network links).dst y) = s
    · rcases h.walked s l' x' ⟨hfrag.listed, hfrag.ne_zero, hfrag.route, hold⟩ with
        hmem | hown | hfound
      · rw [hq] at hmem
        rcases mem_cons.1 hmem with heq | hmem
        · obtain ⟨rfl, hdst⟩ := pathOf_concat_inj heq
          exact .inr (.inl (by rw [hdst, hself]))
        · exact .inl (mem_append_left _ hmem)
      · exact .inr (.inl (by rw [hkeep _ (by rw [hown]; exact hfrag.ne_zero), hown]))
      · exact .inr (.inr hfound)
    · -- the way leads through the device that is claimed now, and ends after it
      push Not at hold
      obtain ⟨y, hy, hnew⟩ := hold
      have hclaimed := hfrag.inside y hy
      have hyx : (network links).dst y = (network links).dst x := by
        by_contra hne
        rw [hothers _ hne] at hclaimed
        exact hnew hclaimed
      rw [hyx, hself] at hclaimed
      subst hclaimed
      obtain ⟨hbefore, hturn, -⟩ := Network.route_concat_iff.1 hfrag.route
      rcases eq_nil_or_concat l' with rfl | ⟨l'', z, rfl⟩
      · exact absurd hy not_mem_nil
      rw [concat_eq_append] at hbefore hturn hy hfrag ⊢
      have hz := (Network.route_concat_iff.1 hbefore).2.2
      by_cases hzx : (network links).dst z = (network links).dst x
      · rw [← hz, hzx] at hbefore
        rw [hbefore.unique hacyc hroute] at hturn ⊢
        refine .inl (mem_append_right _ ((mem_goOn hids htopo).2 ⟨x', ?_, ?_, rfl⟩))
        · rw [← hz, hzx]
        · exact hturn x (by simp)
      · -- the last device was claimed before, and the way to it is the only one
        have hlast := hfrag.inside z (by simp)
        rw [hothers _ hzx] at hlast
        obtain ⟨-, t, ht, hin⟩ := h.owned _ (by rw [hlast]; exact hfrag.ne_zero)
        rw [hlast] at ht hin
        rw [← hz] at hbefore
        rw [hbefore.unique hacyc ht] at hy
        exact absurd (hin y hy) hnew
  · obtain ⟨l'', x', rfl, hfrag, hne, hother⟩ := h.fragment s l' hfound
    refine ⟨l'', x', rfl, ⟨hfrag.listed, hfrag.ne_zero, hfrag.route,
      hinside' s l'' hfrag.ne_zero hfrag.inside⟩, ?_⟩
    rw [hkeep _ hne]
    exact ⟨hne, hother⟩
  · rw [hports.1]
    exact h.edge
  · rw [hports.2]
    exact h.through

/-- **One round of the search.** -/
theorem Traced.round (h : Traced edgeSet found search) (hids : (links.map (·.id)).Nodup)
    (htopo : Lists topology links) (hacyc : (network links).Acyclic)
    (hzero : ZeroApart edgeSet links) (hnext : searchRound topology search = .next search') :
    ∃ found : List (ℤ × List (LinkDart links)), Traced edgeSet found search' := by
  cases hq : search.queue with
  | nil =>
    unfold searchRound at hnext
    rw [hq] at hnext
    cases hnext
  | cons path rest =>
    obtain ⟨source, l, x, rfl, hsource, hroute, hinside⟩ := h.queue path (by simp [hq])
    rw [searchRound_of_pathOf topology hq] at hnext
    split_ifs at hnext with hleave
    · obtain rfl := Iter.next.inj hnext
      have hsource0 : source ≠ 0 := by
        -- a device that is claimed has a way to an end device
        rintro rfl
        obtain ⟨hlisted, t, ht, -⟩ := h.owned _ hleave.1
        exact hzero hsource _ hlisted hleave.1
          (Network.Connected.trans ⟨_, hroute⟩ (Network.Connected.symm ⟨_, ht⟩))
      exact ⟨_, h.record hacyc hq ⟨hsource, hsource0, hroute, hinside hsource0⟩
        hleave.1 hleave.2⟩
    · obtain rfl := Iter.next.inj hnext
      refine ⟨found, h.goOn hids htopo hacyc hq hsource hroute hinside ?_ rfl rfl
        ⟨rfl, rfl⟩⟩
      rw [not_and_or, not_not, not_not] at hleave
      exact hleave

/-! ### The search ends -/

/-- The devices that a route comes to are ends of the links, so it is of bounded length. -/
theorem length_le_of_route {b : ℤ} (hacyc : (network links).Acyclic)
    (hroute : (network links).Route source l b) : l.length ≤ 2 * links.length := by
  have hmem : ∀ d ∈ l.map (network links).dst,
      d ∈ links.flatMap fun link => [link.sourceDeviceId, link.destinationDeviceId] := by
    intro d hd
    obtain ⟨x, -, rfl⟩ := mem_map.1 hd
    refine mem_flatMap.2 ⟨x.1.2, (mem_adjacency.1 x.2).1, ?_⟩
    show Link.neighborId _ _ ∈ _
    unfold Link.neighborId
    split_ifs <;> simp
  have hle := (List.Nodup.subperm (hroute.nodup_vertices hacyc).of_cons hmem).length_le
  have hends : (links.flatMap fun link =>
      [link.sourceDeviceId, link.destinationDeviceId]).length = 2 * links.length := by
    simp [length_flatMap, Nat.mul_comm]
  rwa [length_map, hends] at hle

/-- The rounds that the paths of the queue can take, at most. -/
def queueWeight (links : List Link) (search : PathSearch) : ℕ :=
  (search.queue.map fun path =>
    (2 * links.length + 1) ^ (2 * links.length + 1 - path.length)).sum

/-- **In a network without cycles the search ends**, in whatever order the end devices and the
links at the devices are listed. -/
theorem exists_run_of_acyclic (hids : (links.map (·.id)).Nodup)
    (htopo : Lists topology links) (hacyc : (network links).Acyclic) (edgeSet : List ℤ) :
    ∃ fuel r, findAllLinksBetweenEdges fuel edgeSet topology = some r := by
  let Routes : PathSearch → Prop := fun search => ∀ path ∈ search.queue,
    ∃ source l x, path = pathOf source (l ++ [x]) ∧
      (network links).Route source (l ++ [x]) ((network links).dst x)
  have hstart : Routes (startSearch edgeSet topology) := by
    intro path hpath
    obtain ⟨source, l, x, heq, -, hroute, -⟩ :=
      (traced_startSearch hacyc htopo).queue path hpath
    exact ⟨source, l, x, heq, hroute⟩
  refine ⟨_, Loop.exists_run (queueWeight links) hstart (fun search hsearch => ?_)
    (Nat.lt_succ_self _)⟩
  cases hq : search.queue with
  | nil =>
    refine .inl ⟨(search.edgePort, search.throughPort), ?_⟩
    unfold searchRound
    rw [hq]
  | cons path rest =>
    obtain ⟨source, l, x, rfl, hroute⟩ := hsearch path (by simp [hq])
    have hrest : ∀ path ∈ rest, ∃ source l x, path = pathOf source (l ++ [x]) ∧
        (network links).Route source (l ++ [x]) ((network links).dst x) :=
      fun path hpath => hsearch path (by simp [hq, hpath])
    refine .inr ?_
    rw [searchRound_of_pathOf topology hq]
    split_ifs with hleave
    · refine ⟨_, rfl, fun path hpath => hrest path ?_, ?_⟩
      · rwa [recordPath_queue] at hpath
      · unfold queueWeight
        rw [recordPath_queue, hq, map_cons, sum_cons]
        exact Nat.lt_add_of_pos_left (Nat.pow_pos (Nat.succ_pos _))
    · refine ⟨_, rfl, fun path hpath => ?_, ?_⟩
      · rcases mem_append.1 hpath with hpath | hpath
        · exact hrest path hpath
        · obtain ⟨y, heq, hroute'⟩ := route_goOn hids htopo hroute hpath
          exact ⟨source, l ++ [x], y, heq, hroute'⟩
      · have hlen := length_le_of_route hacyc hroute
        unfold queueWeight
        rw [hq, map_append, sum_append, map_cons, sum_cons, Nat.add_comm]
        refine Nat.add_lt_add_right (sum_weight_lt (by rwa [pathOf, length_map]) ?_
          fun next hnext => length_of_mem_goOn hnext) _
        exact (length_goOn_le _ _ _).trans
          ((htopo _).length_eq.trans_le length_adjacency_le)

/-- **A search that ends** has nothing left to do: every fragment leads to a device of its own
source or has been recorded. -/
theorem exists_traced_of_run (hids : (links.map (·.id)).Nodup)
    (htopo : Lists topology links) (hacyc : (network links).Acyclic)
    (hzero : ZeroApart edgeSet links) {fuel : ℕ} {r : PortMap × PortMap}
    (hrun : findAllLinksBetweenEdges fuel edgeSet topology = some r) :
    ∃ (found : List (ℤ × List (LinkDart links))) (search : PathSearch),
      Loop.Visits (searchRound topology) (startSearch edgeSet topology) search ∧
        Traced edgeSet found search ∧ search.queue = [] ∧
        r = (search.edgePort, search.throughPort) := by
  refine Loop.run_rule (I := fun search =>
      ∃ found : List (ℤ × List (LinkDart links)), Traced edgeSet found search)
    (Q := fun r => ∃ (found : List (ℤ × List (LinkDart links))) (search : PathSearch),
      Loop.Visits (searchRound topology) (startSearch edgeSet topology) search ∧
        Traced edgeSet found search ∧ search.queue = [] ∧
        r = (search.edgePort, search.throughPort))
    hrun ⟨[], traced_startSearch hacyc htopo⟩ ?_ ?_
  · rintro search search' - ⟨found, h⟩ hnext
    exact h.round hids htopo hacyc hzero hnext
  · rintro search r hvisits ⟨found, h⟩ hdone
    refine ⟨found, search, hvisits, h, ?_⟩
    unfold searchRound at hdone
    split at hdone
    · rename_i hq
      exact ⟨hq, (Iter.done.inj hdone).symm⟩
    · split at hdone
      · cases hdone
      · dsimp only at hdone
        split_ifs at hdone

end

end Intelligent
end Sebastian

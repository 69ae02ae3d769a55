/-
# The order of the end devices

`sebastian/core/intelligent_vlan.go`, `findAllLinksBetweenEdges`, twice in one
network without cycles: with the end devices and the links at the devices listed in
two orders.  On the devices that are not listed the results are the same, as they are
exact (`Traced.through_iff`), and so are the edge ports (`Traced.edge_iff`).

A recorded path has the port of the listed device that it comes to, but not that of
the one that it starts from.  So a port of a listed device is recorded if the device
behind it is in the territory of another (`Traced.through_iff_listed`).  A device next
to listed ones is in the territory of the first of them that is listed
(`FirstCome.visited`).  The results are the same if it is the first one in both orders
for which this is another device (`sameResult_iff`).
-/

import Sebastian.Intelligent.TreePorts

namespace Sebastian
namespace Intelligent

open List Option

/-! ### Who comes first -/

/-- The first of the list that has a link to the device. -/
def firstNeighbor (edgeSet : List ℤ) (links : List Link) (devId : ℤ) : Option ℤ :=
  edgeSet.find? fun edge => (adjacency links edge).any fun link => link.neighborId edge == devId

/-- Behind the port of a listed device there is another listed one, or a device next to listed
ones of which another is listed first. -/
def Overtaken (links : List Link) (edgeSet : List ℤ) (edge portId : ℤ) : Prop :=
  ∃ y : LinkDart links, y.LeavesBy edge portId ∧ ((network links).dst y ∈ edgeSet ∨
    firstNeighbor edgeSet links ((network links).dst y) ≠ some edge)

/-- The device has been claimed by the source, or the first path that leads to it is of the
source. -/
def FirstCome (devId source : ℤ) (search : PathSearch) : Prop :=
  search.visited devId = source ∨
    search.visited devId = 0 ∧ ∃ before path after port,
      search.queue = before ++ path :: after ∧
      (∀ other ∈ before, ∀ port, other.getLast? = some port → port.nextDevId ≠ devId) ∧
      path.getLast? = some port ∧ port.nextDevId = devId ∧ port.fromDevId = source

section
variable {links : List Link} {topology : ℤ → List Link} {edgeSet : List ℤ} {source devId portId : ℤ}
  {x y : LinkDart links} {search search' : PathSearch}
  {found : List (ℤ × List (LinkDart links))}

/-- **The search starts** with a path of the first one. -/
theorem firstCome_startSearch (htopo : Lists topology links) (hdev : devId ∉ edgeSet)
    (hfirst : firstNeighbor edgeSet links devId = some source) :
    FirstCome devId source (startSearch edgeSet topology) := by
  have hleads : ∀ edge, (∃ link ∈ topology edge, link.neighborId edge = devId) ↔
      ((adjacency links edge).any fun link => link.neighborId edge == devId) = true := by
    intro edge
    rw [List.any_eq_true]
    simp only [htopo.mem_iff, beq_iff_eq]
  obtain ⟨hlink, before, after, heq, hbefore⟩ := find?_eq_some_iff_append.1 hfirst
  obtain ⟨link, hmem, hnbr⟩ := (hleads source).2 hlink
  -- the first of its links that leads to the device
  obtain ⟨first, hfind⟩ : ∃ first, (topology source).find? (fun link =>
      link.neighborId source == devId) = some first :=
    isSome_iff_exists.1 (find?_isSome.2 ⟨link, hmem, by simpa using hnbr⟩)
  obtain ⟨hfirst, links₁, links₂, hlinks, hothers⟩ := find?_eq_some_iff_append.1 hfind
  refine .inr ⟨if_neg fun hboth => hdev hboth.1,
    (before.flatMap fun edge => (topology edge).map fun link => [portTo edge edge link]) ++
      links₁.map (fun link => [portTo source source link]),
    [portTo source source first],
    links₂.map (fun link => [portTo source source link]) ++
      after.flatMap fun edge => (topology edge).map fun link => [portTo edge edge link],
    portTo source source first, ?_, ?_, rfl, ?_, portTo_fromDevId⟩
  · simp [startSearch, heq, hlinks]
  · intro other hother port hport
    rcases mem_append.1 hother with hother | hother
    · obtain ⟨edge, hedge, hother⟩ := mem_flatMap.1 hother
      obtain ⟨link, hlink, rfl⟩ := mem_map.1 hother
      have hport' : portTo edge edge link = port := some.inj hport
      rw [← hport', portTo_nextDevId]
      intro hto
      have hnot := hbefore edge hedge
      rw [(hleads edge).1 ⟨link, hlink, hto⟩] at hnot
      cases hnot
    · obtain ⟨link, hlink, rfl⟩ := mem_map.1 hother
      have hport' : portTo source source link = port := some.inj hport
      rw [← hport', portTo_nextDevId]
      simpa using hothers link hlink
  · rw [portTo_nextDevId]
    simpa using hfirst

/-- **One round.** -/
theorem FirstCome.step (h : FirstCome devId source search) (hsource : source ≠ 0)
    (hnext : searchRound topology search = .next search') : FirstCome devId source search' := by
  unfold searchRound at hnext
  cases hq : search.queue with
  | nil =>
    rw [hq] at hnext
    cases hnext
  | cons curPath queue =>
    rw [hq] at hnext
    dsimp only at hnext
    cases hlast : curPath.getLast? with
    | none =>
      rw [hlast] at hnext
      cases hnext
    | some curPort =>
      rw [hlast] at hnext
      dsimp only at hnext
      split_ifs at hnext with hleave
      · obtain rfl := Iter.next.inj hnext
        rcases h with hown | ⟨hfree, before, path, after, port, hsplit, hothers, hport⟩
        · refine .inl ?_
          rwa [recordPath_visited]
        · rw [hq] at hsplit
          cases before with
          | nil =>
            obtain ⟨rfl, -⟩ := cons.inj hsplit
            obtain rfl := some.inj (hlast.symm.trans hport.1)
            rw [hport.2.1] at hleave
            exact absurd hfree hleave.1
          | cons other before =>
            obtain ⟨-, hq'⟩ := cons.inj hsplit
            refine .inr ⟨by rwa [recordPath_visited], before, path, after, port, ?_,
              fun other hother => hothers other (mem_cons_of_mem _ hother), hport⟩
            rw [recordPath_queue]
            exact hq'
      · obtain rfl := Iter.next.inj hnext
        rcases h with hown | ⟨hfree, before, path, after, port, hsplit, hothers, hport⟩
        · -- what is claimed stays claimed
          refine .inl ?_
          by_cases hdev : curPort.nextDevId = devId
          · subst hdev
            rw [hown, not_and_or, not_not, not_not] at hleave
            exact (Function.update_self ..).trans (hleave.resolve_left hsource).symm
          · exact (Function.update_of_ne (Ne.symm hdev) _ _).trans hown
        · rw [hq] at hsplit
          cases before with
          | nil =>
            obtain ⟨rfl, -⟩ := cons.inj hsplit
            obtain rfl := some.inj (hlast.symm.trans hport.1)
            refine .inl ?_
            rw [← hport.2.2, ← hport.2.1]
            exact Function.update_self ..
          | cons other before =>
            obtain ⟨rfl, hq'⟩ := cons.inj hsplit
            have hdev := hothers _ mem_cons_self curPort hlast
            refine .inr ⟨(Function.update_of_ne hdev.symm _ _).trans hfree, before, path,
              after ++ goOn topology curPath curPort, port, ?_,
              fun other hother => hothers other (mem_cons_of_mem _ hother), hport⟩
            show queue ++ goOn topology curPath curPort = _
            rw [hq']
            exact append_assoc before (path :: after) _

/-- **A device next to listed ones** is in the territory of the first of them in the end. -/
theorem visited_of_firstNeighbor (htopo : Lists topology links) (hdev : devId ∉ edgeSet)
    (hfirst : firstNeighbor edgeSet links devId = some source) (hsource : source ≠ 0)
    (hvis : Loop.Visits (searchRound topology) (startSearch edgeSet topology) search)
    (hq : search.queue = []) : search.visited devId = source := by
  have h : FirstCome devId source search :=
    hvis.rule (firstCome_startSearch htopo hdev hfirst)
      fun _ _ _ h hnext => h.step hsource hnext
  rcases h with hown | ⟨-, before, path, after, -, hsplit, -⟩
  · exact hown
  · rw [hq] at hsplit
    exact absurd hsplit.symm (by simp)

/-! ### The ports of a listed device -/

theorem mem_of_append_cons_eq_concat {α : Type} {l₁ l₂ l : List α} {y z a : α}
    (h : l₁ ++ y :: l₂ = l ++ [z]) (ha : a ∈ l₁) : a ∈ l := by
  have hlast := congrArg dropLast h
  rw [dropLast_concat, dropLast_append_of_ne_nil (cons_ne_nil _ _)] at hlast
  rw [← hlast]
  exact mem_append_left _ ha

/-- **The port of a listed device** is recorded if the device behind it is in the territory of
another one. -/
theorem Traced.through_iff_listed (h : Traced edgeSet found search) (hq : search.queue = [])
    (hacyc : (network links).Acyclic) (hdev : devId ∈ edgeSet) (hdev0 : devId ≠ 0) :
    search.throughPort.Has devId portId ↔ ∃ y : LinkDart links, y.LeavesBy devId portId ∧
      search.visited ((network links).dst y) ≠ devId := by
  have hown : ∀ y : LinkDart links, (network links).src y = devId →
      search.visited devId = devId := by
    rintro y rfl
    exact h.own y hdev hdev0
  constructor
  · rw [h.through]
    rintro ⟨source, x, l, hfound, hports⟩
    obtain ⟨l', x', heq, hfrag, -⟩ := h.fragment _ _ hfound
    have hroute := hfrag.route
    rcases hports with ⟨y, hy, henters⟩ | ⟨y, hy, hleaves⟩
    · rw [heq] at hy
      have hsrc := hown ((network links).rev y) (by rw [Network.src_rev]; exact henters.1)
      have hother : source ≠ devId := by
        -- no route comes back
        rintro rfl
        obtain ⟨l₁, l₂, hsplit⟩ := append_of_mem hy
        rw [hsplit, append_cons, Network.route_append_iff] at hroute
        obtain ⟨c, hfirst, -⟩ := hroute
        obtain ⟨hbefore, hturn, -⟩ := Network.route_concat_iff.1 hfirst
        exact absurd ((Network.route_concat_iff.2 ⟨hbefore, hturn, henters.1⟩).eq_nil hacyc)
          (by simp)
      rcases mem_append.1 hy with hy | hy
      · have hinside := hfrag.inside y hy
        rw [henters.1, hsrc] at hinside
        exact absurd hinside.symm hother
      · obtain rfl := mem_singleton.1 hy
        refine ⟨(network links).rev y,
          (LinkDart.leavesBy_rev (hacyc.src_ne_dst y)).2 henters, ?_⟩
        rw [Network.dst_rev, h.inside_src hfrag.listed hfrag.ne_zero
          (Network.route_concat_iff.1 hroute).1 hfrag.inside]
        exact hother
    · -- on the way the route is in the territory of its source
      obtain ⟨l₁, l₂, rfl⟩ := append_of_mem hy
      rw [← heq, ← cons_append, Network.route_append_iff] at hroute
      obtain ⟨c, hfirst, hrest, -⟩ := hroute
      obtain ⟨rfl, -, -⟩ := Network.route_cons_iff.1 hrest
      have hinside := h.inside_src hfrag.listed hfrag.ne_zero hfirst
        fun z hz => hfrag.inside z
          (mem_of_append_cons_eq_concat ((cons_append).trans heq) hz)
      rw [hleaves.1, hown y hleaves.1] at hinside
      rw [← hinside, hleaves.1] at hfirst
      exact absurd (hfirst.eq_nil hacyc) (by simp)
  · rintro ⟨y, hleaves, hother⟩
    have hsrc : search.visited ((network links).src y) = devId := by
      rw [hleaves.1]
      exact hown y hleaves.1
    have hclaimed := h.claimed_dst hq (x := y) (by rwa [hsrc])
    obtain ⟨hlisted, t, hroute, hinside⟩ := h.owned _ hclaimed
    have hback : (network links).dst ((network links).rev y) = (network links).src y :=
      Network.dst_rev _
    have hfrag : Fragment edgeSet search.visited
        (search.visited ((network links).dst y)) t ((network links).rev y) := by
      refine ⟨hlisted, hclaimed, Network.route_concat_iff.2
        ⟨by rwa [Network.src_rev], fun z hz heq => ?_, rfl⟩, hinside⟩
      have hzy : z = y := by
        have := congrArg (network links).rev heq
        rwa [Network.rev_rev, Network.rev_rev, eq_comm] at this
      subst hzy
      exact hother ((h.inside_last hlisted hclaimed hroute hinside hz).symm.trans hsrc)
    have hfound := (h.found_iff hq).2 ⟨hfrag, by
      rw [hback, hsrc]
      exact hother.symm⟩
    exact h.has_of_entersBy hfound
      ((LinkDart.entersBy_rev (hacyc.src_ne_dst y)).2 hleaves)

/-- A device that a listed one has a link to has a first listed neighbour. -/
theorem exists_firstNeighbor (hy : (network links).src y ∈ edgeSet) :
    ∃ z : LinkDart links, (network links).src z ∈ edgeSet ∧
      (network links).dst z = (network links).dst y ∧
      firstNeighbor edgeSet links ((network links).dst y) = some ((network links).src z) := by
  have hlink : ((adjacency links ((network links).src y)).any fun link =>
      link.neighborId ((network links).src y) == (network links).dst y) = true :=
    List.any_eq_true.2 ⟨y.1.2, y.2, beq_iff_eq.2 rfl⟩
  have hsome : (firstNeighbor edgeSet links ((network links).dst y)).isSome :=
    find?_isSome.2 ⟨_, hy, hlink⟩
  obtain ⟨edge, hfirst⟩ := isSome_iff_exists.1 hsome
  obtain ⟨hleads, -⟩ := find?_eq_some_iff_append.1 hfirst
  obtain ⟨link, hmem, hnbr⟩ := List.any_eq_true.1 hleads
  exact ⟨⟨(edge, link), hmem⟩, mem_of_find?_eq_some hfirst, beq_iff_eq.1 hnbr, hfirst⟩

theorem connected_of_dart (y : LinkDart links) :
    (network links).Connected ((network links).src y) ((network links).dst y) :=
  ⟨[y], Network.route_singleton_iff.2 ⟨rfl, rfl⟩⟩

/-- A listed device 0 with no way to another one is not overtaken. -/
theorem ZeroApart.not_overtaken (hzero : ZeroApart edgeSet links)
    (hacyc : (network links).Acyclic) (h0 : 0 ∈ edgeSet) :
    ¬Overtaken links edgeSet 0 portId := by
  rintro ⟨y, ⟨hsrc, -⟩, hover⟩
  have hway := connected_of_dart y
  have hne := hacyc.src_ne_dst y
  rw [hsrc] at hway hne
  rcases hover with hlisted | hother
  · exact hzero h0 _ hlisted hne.symm hway
  · obtain ⟨z, hz, hdst, hfirst⟩ := exists_firstNeighbor (y := y) (hsrc ▸ h0)
    refine hzero h0 _ hz (fun hz0 => hother ?_) (hway.trans ?_)
    · rw [hfirst, hz0]
    · rw [← hdst]
      exact (connected_of_dart z).symm

theorem Traced.not_has_zero (h : Traced edgeSet found search) (hzero : ZeroApart edgeSet links)
    (h0 : 0 ∈ edgeSet) : ¬search.throughPort.Has 0 portId := by
  rw [h.through]
  rintro ⟨source, x, l, hfound, hports⟩
  obtain ⟨l', x', heq, hfrag, -⟩ := h.fragment _ _ hfound
  have hroute := hfrag.route
  rw [← heq] at hroute
  have hapart : ¬(network links).Connected source 0 := fun hway =>
    hzero h0 source hfrag.listed hfrag.ne_zero hway.symm
  have hways : ∀ y ∈ x :: l, (network links).Connected source ((network links).src y) ∧
      (network links).Connected source ((network links).dst y) := by
    intro y hy
    obtain ⟨l₁, l₂, hsplit⟩ := append_of_mem hy
    rw [hsplit, Network.route_append_iff] at hroute
    obtain ⟨c, hfirst, hrest, -⟩ := hroute
    obtain ⟨rfl, -, -⟩ := Network.route_cons_iff.1 hrest
    exact ⟨⟨l₁, hfirst⟩, Network.Connected.trans ⟨l₁, hfirst⟩ (connected_of_dart y)⟩
  rcases hports with ⟨y, hy, henters⟩ | ⟨y, hy, hleaves⟩
  · exact hapart (henters.1 ▸ (hways y hy).2)
  · exact hapart (hleaves.1 ▸ (hways y (mem_cons_of_mem _ hy)).1)

/-- **The through ports of the listed devices** are those that are overtaken. -/
theorem Traced.through_iff_overtaken (h : Traced edgeSet found search)
    (hq : search.queue = []) (hacyc : (network links).Acyclic)
    (htopo : Lists topology links) (hzero : ZeroApart edgeSet links)
    (hvis : Loop.Visits (searchRound topology) (startSearch edgeSet topology) search)
    (hdev : devId ∈ edgeSet) :
    search.throughPort.Has devId portId ↔ Overtaken links edgeSet devId portId := by
  by_cases hdev0 : devId = 0
  · subst hdev0
    exact iff_of_false (h.not_has_zero hzero hdev) (hzero.not_overtaken hacyc hdev)
  rw [h.through_iff_listed hq hacyc hdev hdev0]
  refine exists_congr fun y => and_congr_right fun hleaves => ?_
  obtain ⟨rfl, -⟩ := hleaves
  have hne := hacyc.src_ne_dst y
  by_cases hlisted : (network links).dst y ∈ edgeSet
  · -- a listed device is in its own territory
    have hdst0 := hzero.ne_zero hlisted hdev hne.symm (connected_of_dart y).symm
    have hown := h.own ((network links).rev y) (by rwa [Network.src_rev])
      (by rwa [Network.src_rev])
    rw [Network.src_rev] at hown
    rw [hown]
    exact iff_of_true hne.symm (.inl hlisted)
  · obtain ⟨z, hz, hdst, hfirst⟩ := exists_firstNeighbor hdev
    have hz0 : (network links).src z ≠ 0 := by
      intro heq
      refine hdev0 (by_contra fun hy0 => hzero (heq ▸ hz) _ hdev hy0 ?_)
      rw [← heq]
      refine (connected_of_dart z).trans ?_
      rw [hdst]
      exact (connected_of_dart y).symm
    rw [visited_of_firstNeighbor htopo hlisted hfirst hz0 hvis hq,
      or_iff_right hlisted, hfirst, Ne, Ne, some_inj]

end

/-! ### Two orders -/

/-- The two results have the same ports. -/
structure SameResult (r r' : PortMap × PortMap) : Prop where
  edge : ∀ devId portId, r.1.Has devId portId ↔ r'.1.Has devId portId
  through : ∀ devId portId, r.2.Has devId portId ↔ r'.2.Has devId portId

theorem ZeroApart.of_perm {links : List Link} {edgeSet edgeSet' : List ℤ}
    (h : ZeroApart edgeSet links) (hperm : edgeSet.Perm edgeSet') : ZeroApart edgeSet' links :=
  fun h0 edge hedge => h (hperm.mem_iff.2 h0) edge (hperm.mem_iff.2 hedge)

/-- **The search ends in every order**, and unless a listed device has the id 0 and a way to
another one, the order of the end devices changes the result at the listed devices only, and it
does so if a port of one is overtaken in one order and not in the other. -/
theorem sameResult_iff {links : List Link} {topology topology' : ℤ → List Link}
    {edgeSet edgeSet' : List ℤ} (hids : (links.map (·.id)).Nodup)
    (hacyclic : (network links).Acyclic) (htopology : Lists topology links)
    (htopology' : Lists topology' links) (hperm : edgeSet.Perm edgeSet') :
    ∃ fuel r fuel' r', findAllLinksBetweenEdges fuel edgeSet topology = some r ∧
      findAllLinksBetweenEdges fuel' edgeSet' topology' = some r' ∧
      (ZeroApart edgeSet links → (SameResult r r' ↔ ∀ edge ∈ edgeSet, ∀ portId,
        Overtaken links edgeSet edge portId ↔ Overtaken links edgeSet' edge portId)) := by
  obtain ⟨fuel, r, hrun⟩ := exists_run_of_acyclic hids htopology hacyclic edgeSet
  obtain ⟨fuel', r', hrun'⟩ := exists_run_of_acyclic hids htopology' hacyclic edgeSet'
  refine ⟨fuel, r, fuel', r', hrun, hrun', fun hzero => ?_⟩
  have hzero' := hzero.of_perm hperm
  have hmem : ∀ {devId}, devId ∈ edgeSet ↔ devId ∈ edgeSet' := hperm.mem_iff
  obtain ⟨found, search, hvis, h, hq, rfl⟩ :=
    exists_traced_of_run hids htopology hacyclic hzero hrun
  obtain ⟨found', search', hvis', h', hq', rfl⟩ :=
    exists_traced_of_run hids htopology' hacyclic hzero' hrun'
  constructor
  · intro hsame edge hedge portId
    rw [← h.through_iff_overtaken hq hacyclic htopology hzero hvis hedge,
      ← h'.through_iff_overtaken hq' hacyclic htopology' hzero' hvis' (hmem.1 hedge)]
    exact hsame.through edge portId
  · intro hover
    refine ⟨fun devId portId => ?_, fun devId portId => ?_⟩
    · show search.edgePort.Has devId portId ↔ search'.edgePort.Has devId portId
      rw [h.edge_iff hq hzero, h'.edge_iff hq' hzero']
      simp only [hmem]
    · show search.throughPort.Has devId portId ↔ search'.throughPort.Has devId portId
      by_cases hdev : devId ∈ edgeSet
      · rw [h.through_iff_overtaken hq hacyclic htopology hzero hvis hdev,
          h'.through_iff_overtaken hq' hacyclic htopology' hzero' hvis' (hmem.1 hdev)]
        exact hover devId hdev portId
      · rw [h.through_iff hq hacyclic hzero hdev,
          h'.through_iff hq' hacyclic hzero' (mt hmem.2 hdev)]
        simp only [hmem]

/-- Two end devices at a switch, in two orders. -/
theorem sameResult_iff_atSwitch :
    ((atSwitch 1 2).map (·.id)).Nodup ∧ (network (atSwitch 1 2)).Acyclic ∧
      ZeroApart [1, 2] (atSwitch 1 2) ∧ ∃ fuel r fuel' r',
        findAllLinksBetweenEdges fuel [1, 2] (adjacency (atSwitch 1 2)) = some r ∧
        findAllLinksBetweenEdges fuel' [2, 1] (adjacency (atSwitch 1 2)) = some r' ∧
        (ZeroApart [1, 2] (atSwitch 1 2) → (SameResult r r' ↔ ∀ edge ∈ [1, 2], ∀ portId,
          Overtaken (atSwitch 1 2) [1, 2] edge portId ↔
            Overtaken (atSwitch 1 2) [2, 1] edge portId)) :=
  have hacyc := acyclic_atSwitch (a := 1) (b := 2) (by decide) (by decide) (by decide)
  ⟨by decide, hacyc, fun hmem => absurd hmem (by decide),
    sameResult_iff (by decide) hacyc (fun _ => .refl _) (fun _ => .refl _) (.swap _ _ _)⟩

/-- Of two end devices at a switch the port of the second one is recorded, in either order. -/
theorem not_sameResult : ((atSwitch 1 2).map (·.id)).Nodup ∧ (network (atSwitch 1 2)).Acyclic ∧
      ([1, 2] : List ℤ).Perm [2, 1] ∧ ∃ r r',
        findAllLinksBetweenEdges 5 [1, 2] (adjacency (atSwitch 1 2)) = some r ∧
        findAllLinksBetweenEdges 5 [2, 1] (adjacency (atSwitch 1 2)) = some r' ∧
        ¬SameResult r r' := by
  refine ⟨by decide, acyclic_atSwitch (by decide) (by decide) (by decide), .swap _ _ _, _, _,
    rfl, rfl, fun hsame => ?_⟩
  obtain ⟨ports, linkId, hports, hlink⟩ := (hsame.through 2 1).1 ⟨_, 2, rfl, rfl⟩
  cases hports

end Intelligent
end Sebastian

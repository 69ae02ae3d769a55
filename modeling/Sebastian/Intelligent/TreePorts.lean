/-
# The ports between the end devices of a tree

`sebastian/core/intelligent_vlan.go`, `findAllLinksBetweenEdges`, in a network without
cycles.  A recorded route has left the territory of its source for that of another end
device, and goes on to this one (`Traced.exists_route_of_found`).  So every port that
is recorded lies between two listed devices.

The way from one listed device to another is recorded piece by piece.  A link of it
is either taken on the way out of the territory that it begins in, or it is the way
back on the way into it; and from there the route leaves the territory somewhere, as
it ends at another listed device (`Traced.exists_found`).
-/

import Sebastian.Intelligent.Territories

namespace Sebastian
namespace Intelligent

open List

section
variable {links : List Link} {edgeSet : List ℤ} {source a b devId portId : ℤ}
  {x y : LinkDart links} {l m : List (LinkDart links)} {search : PathSearch}
  {found : List (ℤ × List (LinkDart links))}

/-! ### The territories of a search that has ended -/

variable (h : Traced edgeSet found search)
include h

/-- **What is recorded in the end** are the fragments that lead to the territory of another. -/
theorem Traced.found_iff (hq : search.queue = []) :
    (source, l ++ [x]) ∈ found ↔ Fragment edgeSet search.visited source l x ∧
      search.visited ((network links).dst x) ≠ source := by
  constructor
  · intro hfound
    obtain ⟨l', x', heq, hfrag, -, hother⟩ := h.fragment _ _ hfound
    obtain ⟨rfl, hx⟩ := append_inj' heq rfl
    obtain rfl := singleton_inj.1 hx
    exact ⟨hfrag, hother⟩
  · rintro ⟨hfrag, hother⟩
    rcases h.walked source l x hfrag with hmem | hown | hfound
    · rw [hq] at hmem
      exact absurd hmem not_mem_nil
    · exact absurd hown hother
    · exact hfound

/-- A fragment leads to a device that is claimed. -/
theorem Traced.claimed_of_fragment (hq : search.queue = [])
    (hfrag : Fragment edgeSet search.visited source l x) :
    search.visited ((network links).dst x) ≠ 0 := by
  by_cases hother : search.visited ((network links).dst x) = source
  · rw [hother]
    exact hfrag.ne_zero
  · obtain ⟨l', x', heq, -, hne, -⟩ := h.fragment _ _ ((h.found_iff hq).2 ⟨hfrag, hother⟩)
    obtain ⟨-, hx⟩ := append_inj' heq rfl
    obtain rfl := singleton_inj.1 hx
    exact hne

theorem Traced.inside_src (hsource : source ∈ edgeSet)
    (hsource0 : source ≠ 0) (hroute : (network links).Route source l ((network links).src x))
    (hinside : ∀ y ∈ l, search.visited ((network links).dst y) = source) :
    search.visited ((network links).src x) = source := by
  rcases eq_nil_or_concat l with rfl | ⟨l, z, rfl⟩
  · have hsrc := Network.route_nil_iff.1 hroute
    rw [hsrc] at hsource hsource0
    rw [h.own x hsource hsource0, hsrc]
  · rw [concat_eq_append] at hroute hinside
    obtain ⟨-, -, hdst⟩ := Network.route_concat_iff.1 hroute
    rw [← hdst]
    exact hinside z (by simp)

/-- The last link of a route through a territory leaves a device of it. -/
theorem Traced.inside_last (hsource : source ∈ edgeSet)
    (hsource0 : source ≠ 0) (hroute : (network links).Route source l b)
    (hinside : ∀ y ∈ l, search.visited ((network links).dst y) = source) {z : LinkDart links}
    (hz : z ∈ l.getLast?) : search.visited ((network links).src z) = source := by
  rcases eq_nil_or_concat l with rfl | ⟨l, z', rfl⟩
  · cases hz
  · rw [concat_eq_append] at hroute hinside hz
    rw [getLast?_concat] at hz
    cases hz
    exact h.inside_src hsource hsource0 (Network.route_concat_iff.1 hroute).1
      fun y hy => hinside y (mem_append_left _ hy)

/-- **What is next to a claimed device** is claimed. -/
theorem Traced.claimed_dst (hq : search.queue = [])
    (hx : search.visited ((network links).src x) ≠ 0) :
    search.visited ((network links).dst x) ≠ 0 := by
  obtain ⟨hlisted, l, hroute, hinside⟩ := h.owned _ hx
  by_cases hturn : ∃ z ∈ l.getLast?, x = (network links).rev z
  · -- back to where the device is claimed from
    obtain ⟨z, hz, rfl⟩ := hturn
    rw [Network.dst_rev, h.inside_last hlisted hx hroute hinside hz]
    exact hx
  · push Not at hturn
    exact h.claimed_of_fragment hq
      ⟨hlisted, hx, Network.route_concat_iff.2 ⟨hroute, hturn, rfl⟩, hinside⟩

/-- A way from a claimed device leads to claimed devices. -/
theorem Traced.claimed_of_route (hq : search.queue = [])
    (hroute : (network links).Route a l b) (ha : search.visited a ≠ 0) :
    ∀ x ∈ l, search.visited ((network links).src x) ≠ 0 := by
  induction l generalizing a with
  | nil => exact forall_mem_nil _
  | cons y l ih =>
    obtain ⟨rfl, hrest, -⟩ := Network.route_cons_iff.1 hroute
    intro x hx
    rcases mem_cons.1 hx with rfl | hx
    · exact ha
    · exact ih hrest (h.claimed_dst hq ha) x hx

/-! ### What is recorded lies between end devices -/

/-- **A recorded route goes on to another end device.** -/
theorem Traced.exists_route_of_found (hfound : (source, l) ∈ found) :
    ∃ b ∈ edgeSet, b ≠ source ∧ ∃ m, (network links).Route source (l ++ m) b := by
  obtain ⟨l, x, rfl, hfrag, hne, hother⟩ := h.fragment _ _ hfound
  obtain ⟨hlisted, m, hroute, hinside⟩ := h.owned _ hne
  refine ⟨_, hlisted, hother, m.reverse.map (network links).rev,
    Network.route_append_iff.2 ⟨_, hfrag.route, hroute.reverse,
      Network.joins_concat_left.2 fun e he => ?_⟩⟩
  rw [head?_map, head?_reverse] at he
  obtain ⟨z, hz, rfl⟩ := Option.map_eq_some_iff.1 he
  intro heq
  -- the territories have no link in common
  have hzx : z = x := by
    have := congrArg (network links).rev heq
    rwa [Network.rev_rev, Network.rev_rev] at this
  subst hzx
  have hthere := h.inside_last hlisted hne hroute hinside hz
  have hhere := h.inside_src hfrag.listed hfrag.ne_zero
    (Network.route_concat_iff.1 hfrag.route).1 hfrag.inside
  exact hother (hthere.symm.trans hhere)

/-! ### The way between end devices is recorded -/

/-- **A route that leaves the territory** of its source in the end is recorded as far as the
first link that leaves it. -/
theorem Traced.exists_found (hq : search.queue = [])
    (hsource : source ∈ edgeSet) (hsource0 : source ≠ 0)
    (hroute : (network links).Route source (l ++ x :: m) b)
    (hinside : ∀ y ∈ l, search.visited ((network links).dst y) = source)
    (hb : search.visited b ≠ source) : ∃ r, (source, l ++ x :: r) ∈ found := by
  induction m generalizing l x with
  | nil =>
    have hdst := (Network.route_concat_iff.1 hroute).2.2
    refine ⟨[], (h.found_iff hq).2 ⟨⟨hsource, hsource0, ?_, hinside⟩, ?_⟩⟩
    · rwa [hdst]
    · rwa [hdst]
  | cons y m ih =>
    by_cases hx : search.visited ((network links).dst x) = source
    · have hassoc : l ++ x :: y :: m = (l ++ [x]) ++ y :: m := by simp
      rw [hassoc] at hroute
      obtain ⟨r, hr⟩ := ih hroute fun z hz => by
        rcases mem_append.1 hz with hz | hz
        · exact hinside z hz
        · rw [mem_singleton.1 hz]
          exact hx
      exact ⟨y :: r, by simpa using hr⟩
    · have hassoc : l ++ x :: y :: m = (l ++ [x]) ++ y :: m := by simp
      rw [hassoc] at hroute
      obtain ⟨c, hfirst, -, -⟩ := Network.route_append_iff.1 hroute
      obtain rfl := (Network.route_concat_iff.1 hfirst).2.2
      exact ⟨[], (h.found_iff hq).2 ⟨⟨hsource, hsource0, hfirst, hinside⟩, hx⟩⟩

theorem Traced.visited_of_route (ha : a ∈ edgeSet) (ha0 : a ≠ 0)
    (hroute : (network links).Route a l b) (hab : a ≠ b) : search.visited a = a := by
  cases l with
  | nil => exact absurd (Network.route_nil_iff.1 hroute) hab
  | cons x l =>
    obtain ⟨rfl, -, -⟩ := Network.route_cons_iff.1 hroute
    exact h.own x ha ha0

omit h

theorem ZeroApart.ne_zero (hzero : ZeroApart edgeSet links) (ha : a ∈ edgeSet)
    (hb : b ∈ edgeSet) (hab : a ≠ b) (h : (network links).Connected a b) : a ≠ 0 := by
  rintro rfl
  exact hzero ha b hb hab.symm h

/-- **Every link of the way between two listed devices** is taken by a recorded route, one way
or the other. -/
theorem Traced.exists_found_of_route (h : Traced edgeSet found search)
    (hq : search.queue = []) (hacyc : (network links).Acyclic)
    (hzero : ZeroApart edgeSet links) (ha : a ∈ edgeSet) (hb : b ∈ edgeSet) (hab : a ≠ b)
    (hroute : (network links).Route a l b) (hx : x ∈ l) :
    ∃ source p r, source ∈ edgeSet ∧ ((source, p ++ x :: r) ∈ found ∨
      (source, p ++ (network links).rev x :: r) ∈ found) := by
  have ha0 := hzero.ne_zero ha hb hab ⟨_, hroute⟩
  have hb0 := hzero.ne_zero hb ha hab.symm ⟨_, hroute.reverse⟩
  have hva := h.visited_of_route ha ha0 hroute hab
  have hvb := h.visited_of_route hb hb0 hroute.reverse hab.symm
  have hclaimed := h.claimed_of_route hq hroute (by rw [hva]; exact ha0) x hx
  obtain ⟨hlisted, p, hp, hinside⟩ := h.owned _ hclaimed
  obtain ⟨l₁, l₂, rfl⟩ := append_of_mem hx
  obtain ⟨c, hback, hforth, hjoins⟩ := Network.route_append_iff.1 hroute
  obtain ⟨rfl, hrest, hnext⟩ := Network.route_cons_iff.1 hforth
  -- no route comes back, so neither end is the one whose territory it is
  have hends : ∀ {t c}, (network links).Route (search.visited ((network links).src x)) t c →
      t ≠ [] → search.visited c = c → search.visited c ≠ search.visited
        ((network links).src x) := by
    intro t c ht hne hc heq
    rw [← heq, hc] at ht
    exact hne (ht.eq_nil hacyc)
  by_cases hturn : ∃ z ∈ p.getLast?, x = (network links).rev z
  · -- the way into the territory is the way back out of it
    obtain ⟨z, hz, hxz⟩ := hturn
    obtain ⟨p, rfl⟩ : ∃ p', p = p' ++ [z] := by
      rcases eq_nil_or_concat p with rfl | ⟨p', z', rfl⟩
      · cases hz
      · rw [concat_eq_append, getLast?_concat] at hz
        cases hz
        exact ⟨p', concat_eq_append⟩
    have hout : (network links).Route (search.visited ((network links).src x))
        (p ++ z :: l₁.reverse.map (network links).rev) a := by
      rw [append_cons]
      refine Network.route_append_iff.2 ⟨_, hp, hback.reverse,
        Network.joins_concat_left.2 fun e he => ?_⟩
      rw [head?_map, head?_reverse] at he
      obtain ⟨y, hy, rfl⟩ := Option.map_eq_some_iff.1 he
      rw [← hxz]
      exact Ne.symm (hjoins y hy x rfl)
    obtain ⟨r, hr⟩ := h.exists_found hq hlisted hclaimed hout
      (fun y hy => hinside y (mem_append_left _ hy)) (hends hout (by simp) hva)
    rw [hxz, Network.rev_rev]
    exact ⟨_, p, r, hlisted, .inr hr⟩
  · push Not at hturn
    -- out of the territory and on to the end
    have hout : (network links).Route (search.visited ((network links).src x)) (p ++ x :: l₂) b :=
      Network.route_append_iff.2 ⟨_, hp, hforth, Network.joins_cons_right.2 hturn⟩
    obtain ⟨r, hr⟩ := h.exists_found hq hlisted hclaimed hout hinside
      (hends hout (by simp) hvb)
    exact ⟨_, p, r, hlisted, .inl hr⟩

theorem Traced.has_of_entersBy (h : Traced edgeSet found search)
    (hfound : (source, l ++ x :: m) ∈ found) (hx : x.EntersBy devId portId) :
    search.throughPort.Has devId portId := by
  rw [h.through]
  cases l with
  | nil => exact ⟨source, x, m, hfound, .inl ⟨x, mem_cons_self, hx⟩⟩
  | cons y l => exact ⟨source, y, l ++ x :: m, hfound, .inl ⟨x, by simp, hx⟩⟩

/-- Where a recorded route leaves, but for its source. -/
theorem Traced.has_of_leavesBy (h : Traced edgeSet found search)
    (hfound : (source, l ++ x :: m) ∈ found) (hdev : devId ∉ edgeSet)
    (hx : x.LeavesBy devId portId) : search.throughPort.Has devId portId := by
  rw [h.through]
  cases l with
  | nil =>
    obtain ⟨l', x', heq, hfrag, -⟩ := h.fragment _ _ hfound
    have hroute := hfrag.route
    rw [← heq] at hroute
    obtain ⟨hsrc, -, -⟩ := Network.route_cons_iff.1 hroute
    exact absurd (hsrc.symm.trans hx.1 ▸ hfrag.listed) hdev
  | cons y l => exact ⟨source, y, l ++ x :: m, hfound, .inr ⟨x, by simp, hx⟩⟩

end

/-! ### The result is exact -/

/-- The port is on a way from the one device to the other. -/
def OnPath (links : List Link) (a b devId portId : ℤ) : Prop :=
  ∃ l, (network links).Route a l b ∧ (Leaves l devId portId ∨ Enters l devId portId)

/-- **The result is exact** on the devices that are not listed: the through ports are those on the
way between two listed devices, and the edge ports those that face a listed device which has a
way to another one. -/
structure PathsExact (edgeSet : List ℤ) (links : List Link) (edgePort throughPort : PortMap) :
    Prop where
  through : ∀ devId ∉ edgeSet, ∀ portId, throughPort.Has devId portId ↔
    ∃ a ∈ edgeSet, ∃ b ∈ edgeSet, a ≠ b ∧ OnPath links a b devId portId
  edge : ∀ devId ∉ edgeSet, ∀ portId, edgePort.Has devId portId ↔
    ∃ x : LinkDart links, (network links).src x ∈ edgeSet ∧ x.EntersBy devId portId ∧
      ∃ b ∈ edgeSet, b ≠ (network links).src x ∧
        (network links).Connected ((network links).src x) b

section
variable {links : List Link} {topology : ℤ → List Link} {edgeSet : List ℤ} {source devId portId : ℤ}
  {x y : LinkDart links} {search : PathSearch} {found : List (ℤ × List (LinkDart links))}

/-- A device with one link leaves over this one. -/
theorem eq_of_degree (htopo : Lists topology links)
    (hdegree : ∀ edge ∈ edgeSet, (topology edge).length ≤ 1) (hx : (network links).src x ∈ edgeSet)
    (hy : (network links).src y = (network links).src x) : y = x := by
  have hy' : y.1.1 = x.1.1 := hy
  have hmem := htopo.mem_iff.2 y.2
  rw [hy'] at hmem
  refine Subtype.ext (Prod.ext hy' ?_)
  obtain ⟨link, hlink⟩ := length_eq_one_iff.1
    ((hdegree _ hx).antisymm (length_pos_of_mem (htopo.mem_iff.2 x.2)))
  have hx' : x.1.2 ∈ [link] := hlink ▸ htopo.mem_iff.2 x.2
  have hy'' : y.1.2 ∈ [link] := hlink ▸ hmem
  rw [mem_singleton.1 hx', mem_singleton.1 hy'']

/-- **The edge ports**, on any device: those that face a listed device on its way to another. -/
theorem Traced.edge_iff (h : Traced edgeSet found search) (hq : search.queue = [])
    (hzero : ZeroApart edgeSet links) : search.edgePort.Has devId portId ↔
      ∃ x : LinkDart links, (network links).src x ∈ edgeSet ∧ x.EntersBy devId portId ∧
        ∃ b ∈ edgeSet, b ≠ (network links).src x ∧
          ∃ l, (network links).Route ((network links).src x) (x :: l) b := by
  rw [h.edge]
  constructor
  · rintro ⟨source, x, l, hfound, hx⟩
    obtain ⟨b, hb, hne, m, hroute⟩ := h.exists_route_of_found hfound
    obtain ⟨rfl, -, -⟩ := Network.route_cons_iff.1 hroute
    obtain ⟨l', x', -, hfrag, -⟩ := h.fragment _ _ hfound
    exact ⟨x, hfrag.listed, hx, b, hb, hne, _, hroute⟩
  · rintro ⟨x, hlisted, hx, b, hb, hne, l, hroute⟩
    have hx0 := hzero.ne_zero hlisted hb hne.symm ⟨_, hroute⟩
    have hb0 := hzero.ne_zero hb hlisted hne ⟨_, hroute.reverse⟩
    have hvb := h.visited_of_route hb hb0 hroute.reverse hne
    obtain ⟨r, hr⟩ := h.exists_found (l := []) hq hlisted hx0 hroute (forall_mem_nil _)
      (by rwa [hvb])
    exact ⟨_, x, r, hr, hx⟩

/-- A listed device with one link takes it on every way. -/
theorem exists_route_iff_connected (htopo : Lists topology links)
    (hdegree : ∀ edge ∈ edgeSet, (topology edge).length ≤ 1)
    (hx : (network links).src x ∈ edgeSet) {b : ℤ} (hb : b ≠ (network links).src x) :
    (∃ l, (network links).Route ((network links).src x) (x :: l) b) ↔
      (network links).Connected ((network links).src x) b := by
  constructor
  · rintro ⟨l, hroute⟩
    exact ⟨_, hroute⟩
  · rintro ⟨l, hroute⟩
    cases l with
    | nil => exact absurd (Network.route_nil_iff.1 hroute).symm hb
    | cons y l =>
      obtain rfl := eq_of_degree htopo hdegree hx (Network.route_cons_iff.1 hroute).1
      exact ⟨l, hroute⟩

/-- **The through ports**, on devices that are not listed. -/
theorem Traced.through_iff (h : Traced edgeSet found search) (hq : search.queue = [])
    (hacyc : (network links).Acyclic) (hzero : ZeroApart edgeSet links)
    (hdev : devId ∉ edgeSet) : search.throughPort.Has devId portId ↔
      ∃ a ∈ edgeSet, ∃ b ∈ edgeSet, a ≠ b ∧ OnPath links a b devId portId := by
  constructor
  · rw [h.through]
    rintro ⟨source, x, l, hfound, hports⟩
    obtain ⟨b, hb, hne, m, hroute⟩ := h.exists_route_of_found hfound
    obtain ⟨l', x', -, hfrag, -⟩ := h.fragment _ _ hfound
    refine ⟨source, hfrag.listed, b, hb, hne.symm, _, hroute, ?_⟩
    rcases hports with ⟨y, hy, henters⟩ | ⟨y, hy, hleaves⟩
    · exact .inr ⟨y, mem_append_left _ hy, henters⟩
    · exact .inl ⟨y, mem_append_left _ (mem_cons_of_mem _ hy), hleaves⟩
  · rintro ⟨a, ha, b, hb, hab, l, hroute, ⟨y, hy, hleaves⟩ | ⟨y, hy, henters⟩⟩
    · obtain ⟨source, p, r, -, hfound | hfound⟩ :=
        h.exists_found_of_route hq hacyc hzero ha hb hab hroute hy
      · exact h.has_of_leavesBy hfound hdev hleaves
      · exact h.has_of_entersBy hfound
          ((LinkDart.entersBy_rev (hacyc.src_ne_dst y)).2 hleaves)
    · obtain ⟨source, p, r, -, hfound | hfound⟩ :=
        h.exists_found_of_route hq hacyc hzero ha hb hab hroute hy
      · exact h.has_of_entersBy hfound henters
      · exact h.has_of_leavesBy hfound hdev
          ((LinkDart.leavesBy_rev (hacyc.src_ne_dst y)).2 henters)

/-- **The search in a tree ends, and its result is exact**, in whatever order the end devices and
the links at the devices are listed, unless a listed device has the id 0 and a way to another
one. -/
theorem findAllLinksBetweenEdges_exact {links : List Link} {topology : ℤ → List Link}
    {edgeSet : List ℤ} (hids : (links.map (·.id)).Nodup) (hacyclic : (network links).Acyclic)
    (htopology : Lists topology links) (hdegree : ∀ edge ∈ edgeSet, (topology edge).length ≤ 1) :
    ∃ fuel edgePort throughPort,
      findAllLinksBetweenEdges fuel edgeSet topology = some (edgePort, throughPort) ∧
        (ZeroApart edgeSet links → PathsExact edgeSet links edgePort throughPort) := by
  obtain ⟨fuel, ⟨edgePort, throughPort⟩, hrun⟩ :=
    exists_run_of_acyclic hids htopology hacyclic edgeSet
  refine ⟨fuel, edgePort, throughPort, hrun, fun hzero => ?_⟩
  obtain ⟨found, search, -, h, hq, heq⟩ :=
    exists_traced_of_run hids htopology hacyclic hzero hrun
  obtain ⟨rfl, rfl⟩ := Prod.mk.inj heq
  refine ⟨fun devId hdev portId => h.through_iff hq hacyclic hzero hdev,
    fun devId _ portId => (h.edge_iff hq hzero).trans ?_⟩
  refine exists_congr fun x => and_congr_right fun hx => and_congr_right fun _ =>
    exists_congr fun b => and_congr_right fun _ => and_congr_right fun hne => ?_
  exact exists_route_iff_connected htopology hdegree hx hne

end

/-! ### Two end devices at a switch -/

/-- The link of an end device to a port of the switch 3. -/
def switchLink (edge portId : ℤ) : Link :=
  { id := portId, sourceDeviceId := edge, sourceInterfaceId := 1, destinationDeviceId := 3,
    destinationInterfaceId := portId }

/-- The links of the end devices `a` and `b` to the switch. -/
def atSwitch (a b : ℤ) : List Link := [switchLink a 1, switchLink b 2]

section
variable {a b : ℤ}

/-- A link taken from one of its devices, at the switch. -/
theorem cases_atSwitch (x : LinkDart (atSwitch a b)) :
    (x.1.2 = switchLink a 1 ∧ (x.1.1 = a ∨ x.1.1 = 3)) ∨
      (x.1.2 = switchLink b 2 ∧ (x.1.1 = b ∨ x.1.1 = 3)) := by
  obtain ⟨⟨devId, link⟩, hlink⟩ := x
  obtain ⟨hmem, hends⟩ := mem_adjacency.1 hlink
  rcases mem_cons.1 hmem with rfl | hmem
  · exact .inl ⟨rfl, hends.imp Eq.symm Eq.symm⟩
  · obtain rfl := mem_singleton.1 hmem
    exact .inr ⟨rfl, hends.imp Eq.symm Eq.symm⟩

theorem acyclic_atSwitch (ha : a ≠ 3) (hb : b ≠ 3) (hab : a ≠ b) :
    (network (atSwitch a b)).Acyclic := by
  have hsrc : ∀ x : LinkDart (atSwitch a b), (network (atSwitch a b)).src x = x.1.1 :=
    fun _ => rfl
  have hdst : ∀ x : LinkDart (atSwitch a b),
      (network (atSwitch a b)).dst x = x.1.2.neighborId x.1.1 := fun _ => rfl
  refine Network.acyclic_of_depth (fun d => if d = 3 then 0 else 1) (fun x => ?_)
    fun x y hxy hx hy => ?_
  · rw [hsrc, hdst]
    rcases cases_atSwitch x with ⟨hlink, hdev | hdev⟩ | ⟨hlink, hdev | hdev⟩ <;>
      rw [hlink, hdev] <;> simp [Link.neighborId, switchLink, ha, hb]
  · -- up from an end device there is its own link only
    rw [hsrc, hsrc] at hxy
    have hx3 : x.1.1 ≠ 3 := by
      intro h3
      rw [hsrc, if_pos h3] at hx
      exact absurd hx (Nat.not_lt_zero _)
    refine Subtype.ext (Prod.ext hxy ?_)
    rcases cases_atSwitch x with ⟨hlink, hdev | hdev⟩ | ⟨hlink, hdev | hdev⟩
    · rcases cases_atSwitch y with ⟨hlink', -⟩ | ⟨-, hdev' | hdev'⟩
      · rw [hlink, hlink']
      · exact absurd (hdev.symm.trans (hxy.trans hdev')) hab
      · exact absurd (hxy.trans hdev') hx3
    · exact absurd hdev hx3
    · rcases cases_atSwitch y with ⟨-, hdev' | hdev'⟩ | ⟨hlink', -⟩
      · exact absurd (hdev'.symm.trans (hxy.symm.trans hdev)) hab
      · exact absurd (hxy.trans hdev') hx3
      · rw [hlink, hlink']
    · exact absurd hdev hx3

end

/-- The two end devices 1 and 2 are found. -/
theorem findAllLinksBetweenEdges_exact_atSwitch :
    ((atSwitch 1 2).map (·.id)).Nodup ∧ (network (atSwitch 1 2)).Acyclic ∧
      ZeroApart [1, 2] (atSwitch 1 2) ∧
      ∃ fuel edgePort throughPort, findAllLinksBetweenEdges fuel [1, 2] (adjacency (atSwitch 1 2)) =
        some (edgePort, throughPort) ∧
        (ZeroApart [1, 2] (atSwitch 1 2) →
          PathsExact [1, 2] (atSwitch 1 2) edgePort throughPort) :=
  have hacyc := acyclic_atSwitch (a := 1) (b := 2) (by decide) (by decide) (by decide)
  ⟨by decide, hacyc, fun hmem => absurd hmem (by decide),
    findAllLinksBetweenEdges_exact (by decide) hacyc (fun _ => .refl _) (by decide)⟩

/-- **An end device 0 claims nothing**, not even itself: of the two end devices 0 and 1 at a
switch the port to the second one is not found to be an edge port. -/
theorem not_pathsExact : ((atSwitch 0 1).map (·.id)).Nodup ∧ (network (atSwitch 0 1)).Acyclic ∧
      (∀ edge ∈ ([0, 1] : List ℤ), (adjacency (atSwitch 0 1) edge).length ≤ 1) ∧
      ∃ edgePort throughPort,
        findAllLinksBetweenEdges 5 [0, 1] (adjacency (atSwitch 0 1)) =
          some (edgePort, throughPort) ∧
        ¬PathsExact [0, 1] (atSwitch 0 1) edgePort throughPort := by
  refine ⟨by decide, acyclic_atSwitch (by decide) (by decide) (by decide), by decide, _, _, rfl,
    fun hexact => ?_⟩
  let x : LinkDart (atSwitch 0 1) := ⟨(1, switchLink 1 2), mem_adjacency.2
    ⟨mem_cons_of_mem _ mem_cons_self, .inl rfl⟩⟩
  let y : LinkDart (atSwitch 0 1) := ⟨(3, switchLink 0 1), mem_adjacency.2
    ⟨mem_cons_self, .inr rfl⟩⟩
  have hroute : (network (atSwitch 0 1)).Route 1 [x, y] 0 :=
    .cons rfl (.cons rfl (.nil 0) Network.joins_nil_right) (Network.joins_cons_right.2 fun d hd =>
      by
      cases hd
      exact (ne_rev_iff (x := x) (y := y) (by decide) rfl).2 (by decide))
  obtain ⟨ports, linkId, hports, hlink⟩ := (hexact.edge 3 (by decide) 2).2
    ⟨x, by decide, ⟨rfl, rfl⟩, 0, by decide, by decide, [x, y], hroute⟩
  cases hports
  cases hlink

end Intelligent
end Sebastian

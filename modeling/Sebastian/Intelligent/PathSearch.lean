/-
# The search for the links between end stations

`sebastian/core/intelligent_vlan.go`, `findAllLinksBetweenEdges`.  The queue
holds whole paths.  Every path starts at an end device, its source; a device
that no source has come to is claimed by the source of the path, and a path
that comes to the device of another source is recorded and left.  A path that
comes to a device of its own source is carried on, as often as it comes there.

`owners` is the spread of the sources over the network that visits a device
once, and `Walk` a way from a source that does not turn back: the paths of the
queue are walks.  A walk that takes a port twice can be made as long as one
likes (`Walk.exists_long`), and one that does not is short (`Walk.length_le`).
-/

import Mathlib.Algebra.BigOperators.Group.List.Basic
import Sebastian.Lib.GoMap
import Sebastian.Lib.Loop
import Sebastian.Project

namespace Sebastian
namespace Intelligent

open List

/-! ### The search -/

/-- `egressPort` -/
structure EgressPort where
  fromDevId : ℤ
  currDevId : ℤ
  currPortId : ℤ
  nextDevId : ℤ
  nextPortId : ℤ
  linkId : ℤ
  deriving DecidableEq

/-- `map[int64]map[int]int64`, the link at a port of a device. -/
abbrev PortMap := GoMap ℤ (GoMap ℤ ℤ)

/-- `insertPortMap` -/
def insertPortMap (m : PortMap) (devId portId linkId : ℤ) : PortMap :=
  m.set devId (((m devId).getD .empty).set portId linkId)

/-- The links of a topology at each of its devices: `adj[srcDev] = append(..)` and
`adj[dstDev] = append(..)` for one link after the other. -/
def adjacency (links : List Link) (devId : ℤ) : List Link :=
  links.flatMap fun link =>
    (if link.sourceDeviceId = devId then [link] else []) ++
      if link.destinationDeviceId = devId then [link] else []

/-- The link taken from a device, on the way from a source. -/
def portTo (fromDevId devId : ℤ) (link : Link) : EgressPort :=
  if link.sourceDeviceId ≠ devId then
    { fromDevId := fromDevId
      currDevId := link.destinationDeviceId
      currPortId := link.destinationInterfaceId
      nextDevId := link.sourceDeviceId
      nextPortId := link.sourceInterfaceId
      linkId := link.id }
  else
    { fromDevId := fromDevId
      currDevId := link.sourceDeviceId
      currPortId := link.sourceInterfaceId
      nextDevId := link.destinationDeviceId
      nextPortId := link.destinationInterfaceId
      linkId := link.id }

/-- The variables of `findAllLinksBetweenEdges`.  A device that is missing in `visited` reads
as 0. -/
structure PathSearch where
  queue : List (List EgressPort)
  visited : ℤ → ℤ
  edgePort : PortMap := .empty
  throughPort : PortMap := .empty

/-- The queue and `visited` before the loop. -/
def startSearch (edgeSet : List ℤ) (topology : ℤ → List Link) : PathSearch where
  queue := edgeSet.flatMap fun edge => (topology edge).map fun link => [portTo edge edge link]
  visited devId := if devId ∈ edgeSet ∧ topology devId ≠ [] then devId else 0

/-- A path to the device of another source is recorded. -/
def recordPath (curPath : List EgressPort) (search : PathSearch) : PathSearch :=
  match curPath with
  | [] => search
  | first :: rest =>
    { search with
      edgePort := insertPortMap search.edgePort first.nextDevId first.nextPortId first.linkId
      throughPort := rest.foldl (fun m port =>
        insertPortMap (insertPortMap m port.currDevId port.currPortId port.linkId)
          port.nextDevId port.nextPortId port.linkId)
        (insertPortMap search.throughPort first.nextDevId first.nextPortId first.linkId) }

/-- The paths that go on from the last port of a path. -/
def goOn (topology : ℤ → List Link) (curPath : List EgressPort) (curPort : EgressPort) :
    List (List EgressPort) :=
  ((topology curPort.nextDevId).filter (·.id ≠ curPort.linkId)).map fun link =>
    curPath ++ [portTo curPort.fromDevId curPort.nextDevId link]

/-- One round of the queue loop. -/
def searchRound (topology : ℤ → List Link) (search : PathSearch) :
    Iter PathSearch (PortMap × PortMap) :=
  match search.queue with
  | [] => .done (search.edgePort, search.throughPort)
  | curPath :: queue =>
    match curPath.getLast? with
    | none => .stuck
    | some curPort =>
      let visited := search.visited curPort.nextDevId
      if visited ≠ 0 ∧ visited ≠ curPort.fromDevId then
        .next (recordPath curPath { search with queue := queue })
      else
        .next { search with
          queue := queue ++ goOn topology curPath curPort
          visited := Function.update search.visited curPort.nextDevId curPort.fromDevId }

/-- `findAllLinksBetweenEdges` -/
def findAllLinksBetweenEdges (fuel : ℕ) (edgeSet : List ℤ) (topology : ℤ → List Link) :
    Option (PortMap × PortMap) :=
  Loop.run (searchRound topology) fuel (startSearch edgeSet topology)

/-! ### The devices of each source -/

/-- A spread over the network that comes to each device once. -/
structure Spread where
  queue : List EgressPort
  visited : ℤ → ℤ

/-- The first port that leads to a device claims it for its source. -/
def spreadRound (topology : ℤ → List Link) (spread : Spread) : Iter Spread (ℤ → ℤ) :=
  match spread.queue with
  | [] => .done spread.visited
  | port :: queue =>
    if spread.visited port.nextDevId ≠ 0 then .next { spread with queue := queue }
    else
      .next {
        queue := queue ++ ((topology port.nextDevId).filter (·.id ≠ port.linkId)).map
          (portTo port.fromDevId port.nextDevId)
        visited := Function.update spread.visited port.nextDevId port.fromDevId }

/-- The spread starts at the links of the sources, in their order.  (What reads as 0 counts as
not visited, so that a source 0 would claim nothing.) -/
def startSpread (edgeSet : List ℤ) (topology : ℤ → List Link) : Spread where
  queue := (edgeSet.filter (· ≠ 0)).flatMap fun edge => (topology edge).map (portTo edge edge)
  visited := (startSearch edgeSet topology).visited

/-- **The devices of each source**: the source that the breadth-first spread brings first to a
device, 0 for none. -/
def owners (edgeSet : List ℤ) (links : List Link) : ℤ → ℤ :=
  let start := startSpread edgeSet (adjacency links)
  (Loop.run (spreadRound (adjacency links)) (start.queue.length + 2 * links.length + 1)
    start).getD fun _ => 0

/-- A walk from a source that never turns back on the link it came by, as the ports before
the last one and the last one. -/
inductive Walk (links : List Link) (source : ℤ) : List EgressPort → EgressPort → Prop
  | start {link : Link} :
      link ∈ adjacency links source → Walk links source [] (portTo source source link)
  | goOn {before : List EgressPort} {last : EgressPort} {link : Link} :
      Walk links source before last → link ∈ adjacency links last.nextDevId →
      link.id ≠ last.linkId →
      Walk links source (before ++ [last]) (portTo source last.nextDevId link)

/-- All devices the walk comes to are the source's own. -/
def StaysIn (owner : ℤ → ℤ) (source : ℤ) (ports : List EgressPort) : Prop :=
  ∀ port ∈ ports, owner port.nextDevId = source

/-- **No source goes round in circles**: its walks through its own devices take no link twice
in the same direction. -/
def NoCircles (edgeSet : List ℤ) (links : List Link) : Prop :=
  ∀ source ∈ edgeSet, ∀ before last, Walk links source before last →
    StaysIn (owners edgeSet links) source (before ++ [last]) → (before ++ [last]).Nodup

/-! ### Links and walks -/

variable {links : List Link} {edgeSet : List ℤ} {source devId : ℤ} {link : Link}
  {before : List EgressPort} {last : EgressPort}

theorem mem_adjacency : link ∈ adjacency links devId ↔
      link ∈ links ∧ (link.sourceDeviceId = devId ∨ link.destinationDeviceId = devId) := by
  unfold adjacency
  simp only [mem_flatMap, mem_append, mem_ite_nil_right, mem_singleton]
  constructor
  · rintro ⟨x, hx, ⟨h, rfl⟩ | ⟨h, rfl⟩⟩
    · exact ⟨hx, .inl h⟩
    · exact ⟨hx, .inr h⟩
  · rintro ⟨hx, h | h⟩
    · exact ⟨link, hx, .inl ⟨h, rfl⟩⟩
    · exact ⟨link, hx, .inr ⟨h, rfl⟩⟩

theorem length_adjacency_le : (adjacency links devId).length ≤ 2 * links.length := by
  unfold adjacency
  induction links with
  | nil => simp
  | cons x links ih =>
    rw [flatMap_cons, length_append, length_append, length_cons]
    split_ifs <;> simp only [length_cons, length_nil] <;> omega

@[simp] theorem portTo_fromDevId : (portTo source devId link).fromDevId = source := by
  unfold portTo
  split_ifs <;> rfl

@[simp] theorem portTo_linkId : (portTo source devId link).linkId = link.id := by
  unfold portTo
  split_ifs <;> rfl

@[simp] theorem portTo_nextDevId :
    (portTo source devId link).nextDevId = link.neighborId devId := by
  unfold portTo Link.neighborId
  by_cases h : link.sourceDeviceId = devId
  · rw [if_neg (not_not.2 h), if_pos h]
  · rw [if_pos h, if_neg h]

theorem mem_adjacency_neighborId (h : link ∈ adjacency links devId) :
    link ∈ adjacency links (link.neighborId devId) ∧
      link.neighborId (link.neighborId devId) = devId := by
  obtain ⟨hmem, hends⟩ := mem_adjacency.1 h
  unfold Link.neighborId
  by_cases hs : link.sourceDeviceId = devId
  · rw [if_pos hs]
    refine ⟨mem_adjacency.2 ⟨hmem, .inr rfl⟩, ?_⟩
    split_ifs with hself
    · rw [← hself, hs]
    · exact hs
  · rw [if_neg hs, if_pos rfl]
    exact ⟨mem_adjacency.2 ⟨hmem, .inl rfl⟩, hends.resolve_left hs⟩

theorem Walk.fromDevId (h : Walk links source before last) : last.fromDevId = source := by
  cases h with
  | start => exact portTo_fromDevId
  | goOn => exact portTo_fromDevId

theorem Walk.exists_link (h : Walk links source before last) :
    ∃ devId, (devId = source ∨ ∃ port ∈ before, port.nextDevId = devId) ∧
      ∃ link ∈ adjacency links devId, last = portTo source devId link := by
  cases h with
  | start hlink => exact ⟨source, .inl rfl, _, hlink, rfl⟩
  | goOn _ hlink _ => exact ⟨_, .inr ⟨_, by simp, rfl⟩, _, hlink, rfl⟩

/-- Every port of a walk is one of the ports of the links. -/
theorem Walk.mem_ports (h : Walk links source before last) : ∀ port ∈ before ++ [last],
    port ∈ links.flatMap fun link =>
      [portTo source link.sourceDeviceId link, portTo source link.destinationDeviceId link] := by
  have hport : ∀ devId, ∀ link ∈ adjacency links devId, portTo source devId link ∈
      links.flatMap fun link =>
        [portTo source link.sourceDeviceId link,
          portTo source link.destinationDeviceId link] := by
    intro devId link hlink
    obtain ⟨hmem, hends⟩ := mem_adjacency.1 hlink
    refine mem_flatMap.2 ⟨link, hmem, ?_⟩
    rcases hends with rfl | rfl
    · exact mem_cons_self
    · exact mem_cons_of_mem _ mem_cons_self
  induction h with
  | start hlink =>
    intro port hmem
    rw [nil_append, mem_singleton] at hmem
    rw [hmem]
    exact hport _ _ hlink
  | goOn _ hlink _ ih =>
    intro port hmem
    rcases mem_append.1 hmem with hmem | hmem
    · exact ih port hmem
    · rw [mem_singleton.1 hmem]
      exact hport _ _ hlink

theorem Walk.length_le (h : Walk links source before last) (hnodup : (before ++ [last]).Nodup) :
    before.length + 1 ≤ 2 * links.length := by
  have hle := (List.Nodup.subperm hnodup h.mem_ports).length_le
  have hports : (links.flatMap fun link =>
      [portTo source link.sourceDeviceId link,
        portTo source link.destinationDeviceId link]).length = 2 * links.length := by
    simp [length_flatMap, mul_comm]
  rw [length_append, length_singleton, hports] at hle
  exact hle

/-- A walk goes on from a port as any walk with this port does. -/
theorem Walk.splice {before' after : List EgressPort} {port last : EgressPort}
    (h : Walk links source before port) (h' : Walk links source (before' ++ port :: after) last) :
    Walk links source (before ++ port :: after) last := by
  generalize hpath : before' ++ port :: after = path at h'
  induction h' generalizing after with
  | start => simp at hpath
  | @goOn path' last' link' hwalk hlink hne ih =>
    rcases eq_nil_or_concat after with rfl | ⟨after', x, rfl⟩
    · obtain ⟨-, hport⟩ := append_inj' hpath rfl
      obtain rfl := (cons.inj hport).1
      exact h.goOn hlink hne
    · rw [concat_eq_append, ← cons_append, ← append_assoc] at hpath ⊢
      obtain ⟨hpath', hx⟩ := append_inj' hpath rfl
      obtain rfl := (cons.inj hx).1
      exact (ih hpath').goOn hlink hne

/-- A walk that takes a port twice comes back to one. -/
theorem Walk.exists_mem_of_not_nodup {owner : ℤ → ℤ} (h : Walk links source before last)
    (hstays : StaysIn owner source (before ++ [last])) (hdup : ¬(before ++ [last]).Nodup) :
    ∃ before last, Walk links source before last ∧ StaysIn owner source (before ++ [last]) ∧
      last ∈ before := by
  induction h with
  | start => exact absurd (nodup_singleton _) hdup
  | @goOn path last' link' hwalk hlink hne ih =>
    by_cases hmem : portTo source last'.nextDevId link' ∈ path ++ [last']
    · exact ⟨_, _, hwalk.goOn hlink hne, hstays, hmem⟩
    · refine ih (fun port hport => hstays port (mem_append_left _ hport)) fun hnodup => ?_
      refine hdup (nodup_append.2 ⟨hnodup, nodup_singleton _, fun x hx y hy e => ?_⟩)
      rw [mem_singleton.1 hy] at e
      exact hmem (e ▸ hx)

/-- **Going round again**: a walk that comes back to a port has walks of any length after it. -/
theorem Walk.exists_long {owner : ℤ → ℤ} (h : Walk links source before last)
    (hstays : StaysIn owner source (before ++ [last])) (hmem : last ∈ before) (n : ℕ) :
    ∃ before, Walk links source before last ∧ StaysIn owner source (before ++ [last]) ∧
      last ∈ before ∧ n ≤ before.length := by
  induction n with
  | zero => exact ⟨before, h, hstays, hmem, Nat.zero_le _⟩
  | succ n ih =>
    obtain ⟨path, hwalk, hin, hlast, hle⟩ := ih
    obtain ⟨a, c, rfl⟩ := append_of_mem hlast
    refine ⟨_, hwalk.splice hwalk, fun port hport => ?_, by simp, ?_⟩
    · simp only [mem_append, mem_cons, not_mem_nil, or_false] at hport
      refine hin port ?_
      simp only [mem_append, mem_cons, not_mem_nil, or_false]
      tauto
    · rw [length_append, length_cons]
      omega

end Intelligent
end Sebastian

/-
# The difference of two sets of links

`DiffLink` and `ComputeLinkDiff` (`sebastian/modules/monitor/link_diff.go`).

The program keys its maps by texts such as `10.0.0.1:5-10.0.0.2:1`.  Such a text
is made of two addresses and two ports and determines them, so that it is taken
here for the record of what it is made of: a `DiffLink` is its own `String()`.
An address is one that `net.ParseIP` accepts, by its sixteen bytes (`To16`), and
stands for its text.

Of the fields of the result those are computed that `updateTopologyLink` reads:
`unchanged_iff`, `new_iff` and `rewired_iff` say what they hold, in whatever order
the maps are walked.
-/

import Mathlib
import Sebastian.Lib.GoMap

namespace Sebastian
namespace Monitor

open List

/-- An address, by the number of its sixteen bytes. -/
structure IpAddress where
  bytes : ℕ
  deriving DecidableEq

/-- `To4() != nil`: the address is `::ffff:a.b.c.d`. -/
def IpAddress.isIPv4 (ip : IpAddress) : Bool := ip.bytes / 2 ^ 32 == 0xffff

/-- `CompareIPByString` answers `CompareIPResultGreater`. -/
def IpAddress.isGreater (ip1 ip2 : IpAddress) : Bool := decide (ip2.bytes < ip1.bytes)

/-- `fmt.Sprintf("%s:%d", ip, port)` -/
structure Endpoint where
  ip : IpAddress
  port : ℤ
  deriving DecidableEq

/-- `DiffLink`, and the text `fmt.Sprintf("%s:%d-%s:%d", ip1, port1, ip2, port2)`. -/
structure DiffLink where
  ip1 : IpAddress
  port1 : ℤ
  ip2 : IpAddress
  port2 : ℤ
  deriving DecidableEq

/-- `NewDiffLink`: the smaller address comes first. -/
def newDiffLink (ip1 : IpAddress) (port1 : ℤ) (ip2 : IpAddress) (port2 : ℤ) : DiffLink :=
  if ip1.isGreater ip2 then ⟨ip2, port2, ip1, port1⟩ else ⟨ip1, port1, ip2, port2⟩

namespace DiffLink

/-- `FromEndpoint` -/
def fromEndpoint (link : DiffLink) : Endpoint := ⟨link.ip1, link.port1⟩

/-- `ToEndpoint` -/
def toEndpoint (link : DiffLink) : Endpoint := ⟨link.ip2, link.port2⟩

/-- `IsValid` -/
def isValid (link : DiffLink) : Bool :=
  if !link.ip1.isIPv4 then false
  else if !link.ip2.isIPv4 then false
  else if link.port1 ≤ 0 then false
  else if link.port2 ≤ 0 then false
  else if link.ip1 = link.ip2 then false
  else true

/-- The endpoint is one of the two of the link. -/
def Uses (link : DiffLink) (endpoint : Endpoint) : Prop :=
  endpoint = link.fromEndpoint ∨ endpoint = link.toEndpoint

instance (link : DiffLink) (endpoint : Endpoint) : Decidable (link.Uses endpoint) :=
  inferInstanceAs (Decidable (_ ∨ _))

/-- The two links have an endpoint in common. -/
def Shares (link link' : DiffLink) : Prop := ∃ endpoint, link.Uses endpoint ∧ link'.Uses endpoint

/-- The smaller address is the first one. -/
def Canonical (link : DiffLink) : Prop := link.ip1.bytes ≤ link.ip2.bytes

theorem canonical_newDiffLink (ip1 : IpAddress) (port1 : ℤ) (ip2 : IpAddress) (port2 : ℤ) :
    (newDiffLink ip1 port1 ip2 port2).Canonical := by
  unfold newDiffLink Canonical IpAddress.isGreater
  split_ifs with h
  · rw [decide_eq_true_iff] at h
    dsimp only
    omega
  · rw [decide_eq_true_iff] at h
    dsimp only
    omega

theorem newDiffLink_of_canonical {link : DiffLink} (h : link.Canonical) :
    newDiffLink link.ip1 link.port1 link.ip2 link.port2 = link := by
  unfold Canonical at h
  unfold newDiffLink IpAddress.isGreater
  rw [if_neg (by rw [decide_eq_true_iff]; omega)]

theorem uses_newDiffLink {ip1 ip2 : IpAddress} {port1 port2 : ℤ} {endpoint : Endpoint} :
    (newDiffLink ip1 port1 ip2 port2).Uses endpoint ↔
      endpoint = ⟨ip1, port1⟩ ∨ endpoint = ⟨ip2, port2⟩ := by
  unfold newDiffLink
  split_ifs
  · exact or_comm
  · exact Iff.rfl

@[simp] theorem uses_fromEndpoint (link : DiffLink) : link.Uses link.fromEndpoint := .inl rfl

@[simp] theorem uses_toEndpoint (link : DiffLink) : link.Uses link.toEndpoint := .inr rfl

theorem Shares.symm {link link' : DiffLink} (h : link.Shares link') : link'.Shares link := by
  obtain ⟨endpoint, huse, huse'⟩ := h
  exact ⟨endpoint, huse', huse⟩

theorem shares_self (link : DiffLink) : link.Shares link :=
  ⟨_, link.uses_fromEndpoint, link.uses_fromEndpoint⟩

theorem isValid_iff {link : DiffLink} :
    link.isValid = true ↔ (link.ip1.isIPv4 = true ∧ link.ip2.isIPv4 = true) ∧
      (0 < link.port1 ∧ 0 < link.port2) ∧ link.ip1 ≠ link.ip2 := by
  unfold isValid
  split_ifs with h₁ h₂ h₃ h₄ h₅
  · simp_all
  · simp_all
  · exact iff_of_false nofun fun h => by omega
  · exact iff_of_false nofun fun h => by omega
  · exact iff_of_false nofun fun h => h.2.2 h₅
  · refine iff_of_true rfl ⟨⟨?_, ?_⟩, by omega, h₅⟩
    · simpa using h₁
    · simpa using h₂

/-- **A valid link is determined by its endpoints**: a link in order that uses both is that
link. -/
theorem eq_of_uses {link link' : DiffLink} (hvalid : link.isValid = true) (hlink : link.Canonical)
    (hlink' : link'.Canonical) (hfrom : link'.Uses link.fromEndpoint)
    (hto : link'.Uses link.toEndpoint) : link' = link := by
  have hne := (isValid_iff.1 hvalid).2.2
  have hbytes : link.ip1.bytes ≠ link.ip2.bytes := fun h => hne (by
    cases hip1 : link.ip1
    cases hip2 : link.ip2
    rw [hip1, hip2] at h
    exact congrArg _ h)
  obtain ⟨ip1, port1, ip2, port2⟩ := link
  obtain ⟨ip1', port1', ip2', port2'⟩ := link'
  simp only [Uses, fromEndpoint, toEndpoint, Canonical, Endpoint.mk.injEq] at *
  rcases hfrom with ⟨rfl, rfl⟩ | ⟨rfl, rfl⟩
  · rcases hto with ⟨rfl, rfl⟩ | ⟨rfl, rfl⟩
    · exact absurd rfl hne
    · rfl
  · rcases hto with ⟨rfl, rfl⟩ | ⟨rfl, rfl⟩
    · omega
    · exact absurd rfl hne

end DiffLink
/-! ### `ComputeLinkDiff` -/

/-- The orders in which the maps of `ComputeLinkDiff` are walked. -/
structure DiffOrders where
  checkBaseline : List (DiffLink × DiffLink)
  checkActual : List (DiffLink × DiffLink)
  baselineEndpoints : List (DiffLink × DiffLink)
  unchanged : List (DiffLink × DiffLink)
  new : List (DiffLink × DiffLink)
  rewired : List (DiffLink × DiffLink)

/-- "check invalid link": the links that are not valid leave the map. -/
def dropInvalid (links : GoMap DiffLink DiffLink) (order : List (DiffLink × DiffLink)) :
    GoMap DiffLink DiffLink :=
  order.foldl (fun links x => if !x.2.isValid then links.delete x.1 else links) links

/-- "build baseline link port map": the first link found at an endpoint stays. -/
def linkEndpointMap (order : List (DiffLink × DiffLink)) : GoMap Endpoint DiffLink :=
  order.foldl (fun endpoints x =>
    let endpoints :=
      if (endpoints x.2.fromEndpoint).isSome then endpoints
      else endpoints.set x.2.fromEndpoint x.2
    if (endpoints x.2.toEndpoint).isSome then endpoints
    else endpoints.set x.2.toEndpoint x.2) .empty

/-- `for _, link := range links { if … { result[link.String()] = link } }` -/
def collect (order : List (DiffLink × DiffLink)) (p : DiffLink → Bool) : GoMap DiffLink DiffLink :=
  order.foldl (fun result x => if p x.2 then result.set x.2 x.2 else result) .empty

/-- `LinkDiffResult`, the fields that `updateTopologyLink` reads. -/
structure LinkDiffResult where
  unchangedLinks : GoMap DiffLink DiffLink
  newLinks : GoMap DiffLink DiffLink
  rewiredLinks : GoMap DiffLink DiffLink

/-- `ComputeLinkDiff` -/
def computeLinkDiff (baselineLinkMap actualLinkMap : GoMap DiffLink DiffLink)
    (orders : DiffOrders) : LinkDiffResult :=
  let baselineLinkMap := dropInvalid baselineLinkMap orders.checkBaseline
  let actualLinkMap := dropInvalid actualLinkMap orders.checkActual
  let baselineLinkEndpointMap := linkEndpointMap orders.baselineEndpoints
  { unchangedLinks := collect orders.unchanged fun link => (actualLinkMap link).isSome
    newLinks := collect orders.new fun link => !(baselineLinkMap link).isSome
    rewiredLinks := collect orders.rewired fun link =>
      (baselineLinkEndpointMap link.fromEndpoint).isSome ||
        (baselineLinkEndpointMap link.toEndpoint).isSome }

/-- The orders are orders of the maps that are walked. -/
structure DiffOrders.Walks (orders : DiffOrders) (baselineLinkMap actualLinkMap :
    GoMap DiffLink DiffLink) : Prop where
  checkBaseline : baselineLinkMap.Ranges orders.checkBaseline
  checkActual : actualLinkMap.Ranges orders.checkActual
  baselineEndpoints :
    (dropInvalid baselineLinkMap orders.checkBaseline).Ranges orders.baselineEndpoints
  unchanged : (dropInvalid baselineLinkMap orders.checkBaseline).Ranges orders.unchanged
  new : (dropInvalid actualLinkMap orders.checkActual).Ranges orders.new
  rewired : (computeLinkDiff baselineLinkMap actualLinkMap orders).newLinks.Ranges orders.rewired

/-- Every link is under its own text. -/
def Keyed (links : GoMap DiffLink DiffLink) : Prop := ∀ k link, links k = some link → link = k

section
variable {baselineLinkMap actualLinkMap links : GoMap DiffLink DiffLink} {orders : DiffOrders}
  {order : List (DiffLink × DiffLink)} {k link : DiffLink} {endpoint : Endpoint}
  {p : DiffLink → Bool}

theorem Keyed.empty : Keyed .empty := nofun

theorem Keyed.set (h : Keyed links) : Keyed (links.set k k) := by
  intro k' link hk'
  rw [GoMap.set_apply] at hk'
  split_ifs at hk' with heq
  · rw [heq, ← Option.some.inj hk']
  · exact h k' link hk'

/-- The links that stay are those that no invalid one is walked for. -/
theorem dropInvalid_apply (l : List (DiffLink × DiffLink)) : dropInvalid links l k = some link ↔
      links k = some link ∧ ∀ link', (k, link') ∈ l → link'.isValid = true := by
  induction l generalizing links with
  | nil => simp [dropInvalid]
  | cons x l ih =>
    have hstep : (if !x.2.isValid then links.delete x.1 else links) k = some link ↔
        links k = some link ∧ (k = x.1 → x.2.isValid = true) := by
      cases hvalid : x.2.isValid with
      | true => simp
      | false =>
        by_cases hk : k = x.1 <;> simp [hk]
    have hwalk : dropInvalid links (x :: l) =
        dropInvalid (if !x.2.isValid then links.delete x.1 else links) l := rfl
    rw [hwalk, ih, hstep, and_assoc]
    refine and_congr_right fun _ => ⟨fun ⟨hx, hl⟩ link' hmem => ?_, fun h => ⟨?_, ?_⟩⟩
    · rcases mem_cons.1 hmem with heq | hmem
      · subst heq
        exact hx rfl
      · exact hl link' hmem
    · rintro rfl
      exact h x.2 mem_cons_self
    · exact fun link' hmem => h link' (mem_cons_of_mem _ hmem)

/-- **What is left of the input** is its valid links. -/
theorem dropInvalid_iff (h : links.Ranges order) :
    dropInvalid links order k = some link ↔ links k = some link ∧ link.isValid = true := by
  rw [dropInvalid_apply]
  refine and_congr_right fun hlink => ⟨fun hvalid => ?_, fun hvalid link' hmem => ?_⟩
  · exact hvalid link ((h.mem k link).2 hlink)
  · rw [h.mem, hlink] at hmem
    rwa [← Option.some.inj hmem]

/-- **A map that is filled with links under their own texts** holds those that were put there. -/
theorem foldl_set_iff {α : Type} {f : α → Option DiffLink}
    {step : GoMap DiffLink DiffLink → α → GoMap DiffLink DiffLink}
    (hstep : ∀ result x, step result x = match f x with
      | none => result
      | some d => result.set d d) (l : List α) (k link : DiffLink) :
    ∀ result : GoMap DiffLink DiffLink, Keyed result →
      (l.foldl step result k = some link ↔
        link = k ∧ ((∃ x ∈ l, f x = some k) ∨ result k = some k)) := by
  induction l with
  | nil =>
    intro result hkeyed
    simp only [foldl_nil, not_mem_nil, false_and, exists_false, false_or]
    exact ⟨fun h => ⟨hkeyed k link h, hkeyed k link h ▸ h⟩, fun h => h.1 ▸ h.2⟩
  | cons x l ih =>
    intro result hkeyed
    rw [foldl_cons, hstep, exists_mem_cons_iff]
    cases hx : f x with
    | none =>
      rw [ih result hkeyed]
      simp
    | some d =>
      rw [ih _ hkeyed.set, GoMap.set_apply]
      refine and_congr_right fun _ => ?_
      rw [Option.some.injEq]
      by_cases hk : k = d
      · rw [if_pos hk, hk]
        exact iff_of_true (.inr rfl) (.inl (.inl rfl))
      · rw [if_neg hk, or_iff_right (Ne.symm hk)]

/-- The links that a loop collects are those of the walk that meet its test. -/
theorem collect_iff : collect order p k = some link ↔
    link = k ∧ p k = true ∧ ∃ k', (k', k) ∈ order := by
  have hfill := foldl_set_iff
    (f := fun x : DiffLink × DiffLink => if p x.2 = true then some x.2 else none)
    (fun result x => by
      show (if p x.2 = true then result.set x.2 x.2 else result) = _
      split_ifs <;> rfl) order k link .empty Keyed.empty
  refine hfill.trans (and_congr_right fun _ => ?_)
  rw [GoMap.empty_apply, or_iff_left nofun]
  constructor
  · rintro ⟨x, hx, hk⟩
    split_ifs at hk with hp
    cases hk
    exact ⟨hp, x.1, hx⟩
  · rintro ⟨hp, k', hmem⟩
    exact ⟨(k', k), hmem, if_pos hp⟩

/-- **An endpoint is in the port map** exactly when a link of the walk uses it. -/
theorem linkEndpointMap_isSome :
    (linkEndpointMap order endpoint).isSome = true ↔ ∃ x ∈ order, x.2.Uses endpoint := by
  have hset : ∀ (endpoints : GoMap Endpoint DiffLink) (at' : Endpoint) (link : DiffLink),
      ((if (endpoints at').isSome then endpoints else endpoints.set at' link) endpoint).isSome =
        true ↔ endpoint = at' ∨ (endpoints endpoint).isSome = true := by
    intro endpoints at' link
    split_ifs with hsome
    · refine (or_iff_right_of_imp ?_).symm
      rintro rfl
      exact hsome
    · rw [GoMap.set_apply]
      by_cases heq : endpoint = at' <;> simp [heq]
  have hfold : ∀ (l : List (DiffLink × DiffLink)) (endpoints : GoMap Endpoint DiffLink),
      ((l.foldl (fun endpoints x =>
        let endpoints :=
          if (endpoints x.2.fromEndpoint).isSome then endpoints
          else endpoints.set x.2.fromEndpoint x.2
        if (endpoints x.2.toEndpoint).isSome then endpoints
        else endpoints.set x.2.toEndpoint x.2) endpoints) endpoint).isSome = true ↔
        (∃ x ∈ l, x.2.Uses endpoint) ∨ (endpoints endpoint).isSome = true := by
    intro l
    induction l with
    | nil => simp
    | cons x l ih =>
      intro endpoints
      rw [foldl_cons, ih]
      rw [hset, hset, exists_mem_cons_iff, ← or_assoc, ← or_assoc]
      refine or_congr_left ?_
      rw [or_assoc, or_comm]
      exact or_congr_left or_comm
  rw [linkEndpointMap, hfold order .empty]
  simp

end

/-! ### What the difference is -/

section
variable {baselineLinkMap actualLinkMap links : GoMap DiffLink DiffLink} {orders : DiffOrders}
  {order : List (DiffLink × DiffLink)} {k link : DiffLink}

theorem Keyed.isSome_iff (h : Keyed links) : (links k).isSome = true ↔ links k = some k := by
  constructor
  · intro hsome
    obtain ⟨link, hlink⟩ := Option.isSome_iff_exists.1 hsome
    rwa [h k link hlink] at hlink
  · intro hk
    rw [hk]
    rfl

theorem Keyed.exists_mem (h : Keyed links) (horder : links.Ranges order) :
    (∃ k', (k', k) ∈ order) ↔ links k = some k := by
  constructor
  · rintro ⟨k', hmem⟩
    have hk := (horder.mem k' k).1 hmem
    rwa [← h k' k hk] at hk
  · exact fun hk => ⟨k, (horder.mem k k).2 hk⟩

theorem keyed_dropInvalid (h : Keyed links) (horder : links.Ranges order) :
    Keyed (dropInvalid links order) :=
  fun k link hlink => h k link ((dropInvalid_iff horder).1 hlink).1

variable (hb : Keyed baselineLinkMap) (ha : Keyed actualLinkMap)
  (horders : orders.Walks baselineLinkMap actualLinkMap)
include hb ha horders

/-- **Unchanged** are the valid links of the baseline that are among the actual ones. -/
theorem unchanged_iff :
    (computeLinkDiff baselineLinkMap actualLinkMap orders).unchangedLinks k = some link ↔
      link = k ∧ k.isValid = true ∧ baselineLinkMap k = some k ∧ actualLinkMap k = some k := by
  have hactual := keyed_dropInvalid ha horders.checkActual
  have hbase := keyed_dropInvalid hb horders.checkBaseline
  rw [computeLinkDiff, collect_iff, hactual.isSome_iff, hbase.exists_mem horders.unchanged,
    dropInvalid_iff horders.checkActual, dropInvalid_iff horders.checkBaseline]
  tauto

/-- **New** are the valid actual links that are not in the baseline. -/
theorem new_iff : (computeLinkDiff baselineLinkMap actualLinkMap orders).newLinks k = some link ↔
      link = k ∧ k.isValid = true ∧ baselineLinkMap k ≠ some k ∧ actualLinkMap k = some k := by
  have hactual := keyed_dropInvalid ha horders.checkActual
  have hbase := keyed_dropInvalid hb horders.checkBaseline
  rw [computeLinkDiff, collect_iff, Bool.not_eq_true', ← Bool.not_eq_true, hbase.isSome_iff,
    hactual.exists_mem horders.new, dropInvalid_iff horders.checkActual,
    dropInvalid_iff horders.checkBaseline]
  tauto

/-- **Rewired** are the new links that share an endpoint with a valid link of the baseline. -/
theorem rewired_iff :
    (computeLinkDiff baselineLinkMap actualLinkMap orders).rewiredLinks k = some link ↔
      (computeLinkDiff baselineLinkMap actualLinkMap orders).newLinks k = some link ∧
        ∃ other, baselineLinkMap other = some other ∧ other.isValid = true ∧ other.Shares k := by
  have hnew : Keyed (computeLinkDiff baselineLinkMap actualLinkMap orders).newLinks :=
    fun k link h => ((new_iff hb ha horders).1 h).1
  have hshares : ((linkEndpointMap orders.baselineEndpoints k.fromEndpoint).isSome ||
      (linkEndpointMap orders.baselineEndpoints k.toEndpoint).isSome) = true ↔
      ∃ other, baselineLinkMap other = some other ∧ other.isValid = true ∧ other.Shares k := by
    have hmem : ∀ x, x ∈ orders.baselineEndpoints ↔
        baselineLinkMap x.1 = some x.2 ∧ x.2.isValid = true := fun x => by
      rw [← dropInvalid_iff horders.checkBaseline]
      exact horders.baselineEndpoints.mem x.1 x.2
    rw [Bool.or_eq_true, linkEndpointMap_isSome, linkEndpointMap_isSome]
    constructor
    · rintro (⟨x, hx, huses⟩ | ⟨x, hx, huses⟩)
      · obtain ⟨hlink, hvalid⟩ := (hmem x).1 hx
        rw [← hb x.1 x.2 hlink] at hlink
        exact ⟨x.2, hlink, hvalid, _, huses, k.uses_fromEndpoint⟩
      · obtain ⟨hlink, hvalid⟩ := (hmem x).1 hx
        rw [← hb x.1 x.2 hlink] at hlink
        exact ⟨x.2, hlink, hvalid, _, huses, k.uses_toEndpoint⟩
    · rintro ⟨other, hlink, hvalid, endpoint, huses, rfl | rfl⟩
      · exact .inl ⟨(other, other), (hmem _).2 ⟨hlink, hvalid⟩, huses⟩
      · exact .inr ⟨(other, other), (hmem _).2 ⟨hlink, hvalid⟩, huses⟩
  have hwalk : (computeLinkDiff baselineLinkMap actualLinkMap orders).rewiredLinks =
      collect orders.rewired fun link =>
        (linkEndpointMap orders.baselineEndpoints link.fromEndpoint).isSome ||
          (linkEndpointMap orders.baselineEndpoints link.toEndpoint).isSome := rfl
  rw [hwalk, collect_iff, hshares, hnew.exists_mem horders.rewired]
  constructor
  · rintro ⟨rfl, hother, hk⟩
    exact ⟨hk, hother⟩
  · rintro ⟨hk, hother⟩
    obtain rfl := hnew k link hk
    exact ⟨rfl, hother, hk⟩

omit hb ha horders

end

end Monitor
end Sebastian

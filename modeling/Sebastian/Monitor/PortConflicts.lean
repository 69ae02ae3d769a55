/-
# Which links are in conflict at a port

`ComputeLinkDiff` (`sebastian/modules/monitor/link_diff.go`) walks the valid links of each
side to find the ports that two of them claim.  The loop over the baseline enters the
first link of a port in its port map and later ones as conflicts.  The loop over the
actual links is a copy of it without the branch that enters the first one, so that its
port map stays empty and no conflict is ever found (`actualPorts_eq`): what is reported
about the actual links is right exactly when there is nothing to report
(`computeLinkDiff_conflicts_iff`).
-/

import Mathlib.Data.List.Perm.Subperm
import Sebastian.Monitor.LinkClasses

namespace Sebastian
namespace LinkDiff

open List

/-- The entries of the valid links of a map that use an endpoint, in some order. -/
structure UsersOf (links : GoMap String DiffLink) (endpoint : String)
    (entries : List (String × DiffLink)) : Prop where
  nodup : (entries.map (·.1)).Nodup
  mem : ∀ key link, (key, link) ∈ entries ↔
    links key = some link ∧ link.isValid = true ∧ link.Uses endpoint

/-- **The conflicts are reported**: an endpoint is there exactly when two or more valid links
use it, with all of them, each once. -/
def ConflictsReported (links : GoMap String DiffLink)
    (conflicted : GoMap String (List DiffLink)) : Prop :=
  ∀ endpoint entries, UsersOf links endpoint entries →
    (2 ≤ entries.length → ∃ reported, conflicted endpoint = some reported ∧
      reported.Perm (entries.map (·.2))) ∧
    (entries.length < 2 → conflicted endpoint = none)

/-- **No endpoint is claimed twice** by valid links. -/
def NoConflict (links : GoMap String DiffLink) : Prop :=
  ∀ key link key' link', links key = some link → links key' = some link' →
    link.isValid = true → link'.isValid = true →
    (∃ endpoint, link.Uses endpoint ∧ link'.Uses endpoint) → key = key'

variable {baselineLinkMap actualLinkMap links : GoMap String DiffLink} {orders : DiffOrders}
  {order entries entries' : List (String × DiffLink)} {endpoint : String}

theorem UsersOf.perm (h : UsersOf links endpoint entries) (h' : UsersOf links endpoint entries') :
    entries.Perm entries' := by
  refine (perm_ext_iff_of_nodup h.nodup.of_map h'.nodup.of_map).2 ?_
  rintro ⟨key, link⟩
  rw [h.mem, h'.mem]

/-- The users of an endpoint among the entries that are walked. -/
theorem usersOf_filter (horder : links.Ranges order) (hvalid : ∀ x ∈ order, x.2.isValid = true) :
    UsersOf links endpoint (order.filter fun x => x.2.Uses endpoint) where
  nodup := horder.nodup.sublist (filter_sublist.map _)
  mem key link := by
    rw [mem_filter, decide_eq_true_iff, ← horder.mem]
    exact ⟨fun ⟨hmem, huses⟩ => ⟨hmem, hvalid _ hmem, huses⟩, fun ⟨hmem, _, huses⟩ => ⟨hmem, huses⟩⟩

theorem UsersOf.of_dropInvalid {walk : List (String × DiffLink)} (horder : links.Ranges order)
    (h : UsersOf (dropInvalid links order) endpoint walk) : UsersOf links endpoint walk where
  nodup := h.nodup
  mem key link := by
    rw [h.mem, mem_dropInvalid horder]
    tauto

theorem users_eq_map (order : List (String × DiffLink)) (endpoint : String) :
    users order endpoint = (order.filter fun x => x.2.Uses endpoint).map (·.2) := by
  unfold users
  rw [filter_map]
  rfl

/-- **What is noted of the baseline is right.** -/
theorem conflictsReported_baselinePorts {walk : List (String × DiffLink)}
    (horder : links.Ranges order) (hwalk : (dropInvalid links order).Ranges walk) :
    ConflictsReported links (baselinePorts walk).conflicted := by
  have hvalid : ∀ x ∈ walk, x.2.isValid = true := fun x hx =>
    ((mem_dropInvalid horder).1 ((hwalk.mem x.1 x.2).1 hx)).2
  intro endpoint entries hentries
  have hperm := (usersOf_filter hwalk hvalid).of_dropInvalid horder |>.perm hentries
  have hnotes := (notes_baselinePorts
    (fun x hx => DiffLink.fromEndpoint_ne_toEndpoint (hvalid x hx)) endpoint).2
  have hlen : (users walk endpoint).length = entries.length := by
    rw [users_eq_map, length_map, hperm.length_eq]
  rw [hnotes]
  constructor
  · intro htwo
    refine ⟨users walk endpoint, ?_, ?_⟩
    · rw [← hlen] at htwo
      match hwho : users walk endpoint with
      | [] => simp [hwho] at htwo
      | [_] => simp [hwho] at htwo
      | first :: second :: rest => rfl
    · rw [users_eq_map]
      exact hperm.map _
  · intro hless
    rw [← hlen] at hless
    match hwho : users walk endpoint with
    | [] => rfl
    | [_] => rfl
    | first :: second :: rest =>
      rw [hwho, length_cons, length_cons] at hless
      omega

/-- **Nothing is noted of the actual links.** -/
theorem actualPorts_eq (order : List (String × DiffLink)) : actualPorts order = {} := by
  unfold actualPorts
  induction order with
  | nil => rfl
  | cons x order ih => exact ih

/-- **What is reported of the actual links is right when there is nothing to report.** -/
theorem conflictsReported_empty_iff (horder : links.Ranges order) :
    ConflictsReported links .empty ↔ NoConflict links := by
  have hvalid : ∀ x ∈ order.filter (·.2.isValid), x.2.isValid = true := fun x hx =>
    (mem_filter.1 hx).2
  have hwalk := ranges_dropInvalid horder
  constructor
  · intro h key link key' link' hlink hlink' hlinkValid hlinkValid' ⟨endpoint, huses, huses'⟩
    have hentries : UsersOf links endpoint _ :=
      (usersOf_filter hwalk hvalid).of_dropInvalid horder
    have hmem := (hentries.mem key link).2 ⟨hlink, hlinkValid, huses⟩
    have hmem' := (hentries.mem key' link').2 ⟨hlink', hlinkValid', huses'⟩
    by_contra hne
    have hdist : [(key, link), (key', link')].Nodup := by simp [hne]
    have htwo := (subperm_of_subset hdist (by
      rintro x (_ | ⟨_, _ | ⟨_, hx⟩⟩)
      · exact hmem
      · exact hmem'
      · cases hx)).length_le
    obtain ⟨reported, hreported, -⟩ := (h endpoint _ hentries).1 htwo
    cases hreported
  · intro h endpoint entries hentries
    refine ⟨fun htwo => ?_, fun _ => rfl⟩
    match entries, hentries, htwo with
    | (key, link) :: (key', link') :: rest, hentries, _ =>
      obtain ⟨hlink, hlinkValid, huses⟩ := (hentries.mem key link).1 (by simp)
      obtain ⟨hlink', hlinkValid', huses'⟩ := (hentries.mem key' link').1 (by simp)
      have hsame := h key link key' link' hlink hlink' hlinkValid hlinkValid'
        ⟨endpoint, huses, huses'⟩
      have hnodup := hentries.nodup
      simp [hsame] at hnodup

/-- **The conflicts of the baseline are always reported, and those of the actual links exactly
when there are none.** -/
theorem computeLinkDiff_conflicts_iff (horders : orders.Walks baselineLinkMap actualLinkMap) :
    ∃ result, computeLinkDiff (some baselineLinkMap) (some actualLinkMap) orders = .ok result ∧
      ConflictsReported baselineLinkMap result.baselinePortConflictedLinks ∧
      (ConflictsReported actualLinkMap result.actualPortConflictedLinks ↔
        NoConflict actualLinkMap) := by
  refine ⟨_, rfl, conflictsReported_baselinePorts horders.checkBaseline horders.baselinePorts, ?_⟩
  dsimp only
  rw [actualPorts_eq]
  exact conflictsReported_empty_iff horders.checkActual

/-- The chain of switches is reported on. -/
theorem computeLinkDiff_conflicts_rewiredChain : ∃ orders result,
    computeLinkDiff (some (GoMap.empty.setAll (textEntries chainLinks)))
        (some (GoMap.empty.setAll (textEntries rewiredChain))) orders = .ok result ∧
      ConflictsReported (GoMap.empty.setAll (textEntries chainLinks))
        result.baselinePortConflictedLinks ∧
      (ConflictsReported (GoMap.empty.setAll (textEntries rewiredChain))
        result.actualPortConflictedLinks ↔
          NoConflict (GoMap.empty.setAll (textEntries rewiredChain))) := by
  obtain ⟨orders, hords⟩ := exists_walks (keyed_textEntries rewiredChain)
    (GoMap.ranges_setAll (l := textEntries chainLinks) (by decide +kernel))
    (GoMap.ranges_setAll (l := textEntries rewiredChain) (by decide +kernel))
  exact ⟨orders, computeLinkDiff_conflicts_iff hords⟩

/-- Two links at one port of a switch. -/
def crossedLinks : List DiffLink :=
  [⟨"192.168.127.1", 1, "192.168.127.2", 1⟩, ⟨"192.168.127.1", 1, "192.168.127.3", 1⟩]

/-- **Two actual links at one port are not reported.** -/
theorem not_conflictsReported : ∃ orders : DiffOrders,
    orders.Walks .empty (GoMap.empty.setAll (textEntries crossedLinks)) ∧
      ∀ result, computeLinkDiff (some .empty)
          (some (GoMap.empty.setAll (textEntries crossedLinks))) orders = .ok result →
        ¬ConflictsReported (GoMap.empty.setAll (textEntries crossedLinks))
          result.actualPortConflictedLinks := by
  have hranges := GoMap.ranges_setAll (l := textEntries crossedLinks) (by decide +kernel)
  obtain ⟨orders, hords⟩ := exists_walks (keyed_textEntries crossedLinks)
    (GoMap.ranges_setAll (l := []) (by decide)) hranges
  refine ⟨orders, hords, fun result hres hreported => ?_⟩
  cases hres
  dsimp only at hreported
  rw [actualPorts_eq, conflictsReported_empty_iff hranges] at hreported
  have hsame := hreported _ ⟨"192.168.127.1", 1, "192.168.127.2", 1⟩ _
    ⟨"192.168.127.1", 1, "192.168.127.3", 1⟩
    ((hranges.mem "192.168.127.1:1-192.168.127.2:1" _).1 (by decide +kernel))
    ((hranges.mem "192.168.127.1:1-192.168.127.3:1" _).1 (by decide +kernel))
    (by decide +kernel) (by decide +kernel) ⟨_, .inl rfl, .inl rfl⟩
  exact absurd hsame (by decide)

end LinkDiff
end Sebastian

/-
# The order of the streams

`SortScheduleConfigStreams` collects the streams by their first priority code
point and lists them from the highest to the lowest.  Whatever the order in which
the sets are walked, every stream is listed once (`sortScheduleConfigStreams_spec`),
and a run that has an order has a priority code point for every stream
(`pcps_ne_nil_of_sortScheduleConfigStreams`).
-/

import Sebastian.Algorithm.ScheduleConfig

namespace Sebastian
namespace Algorithm

open List QMap

variable {lib : Library}

namespace ScheduleConfig

/-- What is collected by priority code point: the streams of `ids`, each once. -/
structure CollectsStreams (pcpStreamMap : QMap UInt8 (QSet ℤ)) (ids : List ℤ) : Prop where
  mem : ∀ id, id ∈ ids ↔ ∃ pcp, id ∈ pcpStreamMap.value pcp
  nodup : ∀ pcp, (pcpStreamMap.value pcp).Nodup
  apart : ∀ pcp pcp' id, id ∈ pcpStreamMap.value pcp → id ∈ pcpStreamMap.value pcp' → pcp = pcp'

theorem CollectsStreams.insert {pcpStreamMap : QMap UInt8 (QSet ℤ)} {ids : List ℤ} {id : ℤ}
    (h : CollectsStreams pcpStreamMap ids) (pcp : UInt8) (hnew : id ∉ ids) :
    CollectsStreams (pcpStreamMap.update pcp (·.insert id)) (ids ++ [id]) := by
  have hout : ∀ pcp', id ∉ pcpStreamMap.value pcp' := fun pcp' hmem =>
    hnew ((h.mem id).2 ⟨pcp', hmem⟩)
  have hinsert : QSet.insert (pcpStreamMap.value pcp) id = pcpStreamMap.value pcp ++ [id] := by
    rw [QSet.insert, if_neg]
    rintro hc
    obtain ⟨x, hx, he⟩ := any_eq_true.1 hc
    exact hout pcp (beq_iff_eq.1 he ▸ hx)
  have hvalue : ∀ pcp' x, x ∈ (pcpStreamMap.update pcp (·.insert id)).value pcp' ↔
      x ∈ pcpStreamMap.value pcp' ∨ (pcp = pcp' ∧ x = id) := by
    intro pcp' x
    rw [value_update]
    split_ifs with hp
    · subst hp
      rw [hinsert]
      simp
    · simp [hp]
  refine ⟨fun x => ?_, fun pcp' => ?_, fun p p' x hx hx' => ?_⟩
  · simp only [hvalue, mem_append, mem_singleton, h.mem x]
    constructor
    · rintro (⟨p, hp⟩ | rfl)
      · exact ⟨p, .inl hp⟩
      · exact ⟨pcp, .inr ⟨rfl, rfl⟩⟩
    · rintro ⟨p, hp | ⟨-, hx⟩⟩
      · exact .inl ⟨p, hp⟩
      · exact .inr hx
  · rw [value_update]
    split_ifs with hp
    · rw [hinsert]
      exact nodup_append.2 ⟨h.nodup pcp, nodup_singleton _, fun x hx y hy e =>
        hout pcp (by rw [← mem_singleton.1 hy, ← e]; exact hx)⟩
    · exact h.nodup pcp'
  · rcases (hvalue p x).1 hx with hp | ⟨rfl, rfl⟩
    · rcases (hvalue p' x).1 hx' with hp' | ⟨rfl, rfl⟩
      · exact h.apart p p' x hp hp'
      · exact absurd hp (hout p)
    · rcases (hvalue p' x).1 hx' with hp' | ⟨rfl, -⟩
      · exact absurd hp' (hout p')
      · rfl

theorem perm_foldl_cons {α : Type} (l acc : List α) :
    (l.foldl (fun acc a => a :: acc) acc).Perm (l ++ acc) := by
  induction l generalizing acc with
  | nil => exact List.Perm.refl _
  | cons a l ih => exact (ih (a :: acc)).trans perm_middle

theorem perm_foldl_walk (lib : Library) (sets : List (QSet ℤ)) (acc : List ℤ) :
    (sets.foldl (fun acc ids => (lib.walk ids).foldl (fun acc id => id :: acc) acc) acc).Perm
      (sets.flatten ++ acc) := by
  induction sets generalizing acc with
  | nil => exact List.Perm.refl _
  | cons ids sets ih =>
    refine (ih _).trans ?_
    rw [flatten_cons, append_assoc]
    refine ((perm_foldl_cons _ acc).append_left _).trans ?_
    refine (perm_append_comm_assoc _ _ _).trans ?_
    exact (lib.walk_perm ids).append_right _

/-- **`SortScheduleConfigStreams`** lists every stream once. -/
theorem sortScheduleConfigStreams_spec {config : ScheduleConfig} {ids : List ℤ}
    (h : config.sortScheduleConfigStreams lib = some ids) :
    ids.Nodup ∧ ∀ id, id ∈ ids ↔ id ∈ config.scheduleConfigStreams.keys := by
  simp only [sortScheduleConfigStreams] at h
  obtain ⟨pcpStreamMap, hcollect, h⟩ := Option.bind_eq_some_iff.1 h
  cases h
  have hcollects : ∀ (passed rest : List ℤ) (m m' : QMap UInt8 (QSet ℤ)),
      CollectsStreams m passed → (passed ++ rest).Nodup →
      foldlM (fun (pcpStreamMap : QMap UInt8 (QSet ℤ)) streamId => do
        let pcp ← (lib.walk (config.getScheduleConfigStream streamId).pcps).head?
        return pcpStreamMap.update pcp (·.insert streamId)) m rest = some m' →
      CollectsStreams m' (passed ++ rest) := by
    intro passed rest
    induction rest generalizing passed with
    | nil =>
      intro m m' hm _ hfold
      cases hfold
      rwa [append_nil]
    | cons id rest ih =>
      intro m m' hm hnodup hfold
      rw [foldlM_cons] at hfold
      obtain ⟨m₁, hfirst, hfold⟩ := Option.bind_eq_some_iff.1 hfold
      obtain ⟨pcp, -, hfirst⟩ := Option.bind_eq_some_iff.1 hfirst
      cases hfirst
      have hassoc : passed ++ id :: rest = passed ++ [id] ++ rest := by simp
      rw [hassoc] at hnodup ⊢
      refine ih (passed ++ [id]) _ _ (hm.insert pcp fun hmem => ?_) hnodup hfold
      rw [append_assoc] at hnodup
      exact (nodup_append.1 hnodup).2.2 id hmem id mem_cons_self rfl
  have hkeys : config.scheduleConfigStreams.keys.Nodup := Std.TreeMap.nodup_keys
  have hfinal : CollectsStreams pcpStreamMap config.scheduleConfigStreams.keys := hcollects [] _ _ _
    ⟨fun id => by simp, fun pcp => by simp, fun _ _ _ hx => by simp at hx⟩ hkeys hcollect
  have hperm := perm_foldl_walk lib pcpStreamMap.vals []
  rw [append_nil] at hperm
  constructor
  · rw [hperm.nodup_iff, nodup_flatten]
    refine ⟨fun s hs => ?_, pairwise_vals fun p p' s s' hne hs hs' => ?_⟩
    · obtain ⟨p, hp⟩ := mem_vals.1 hs
      exact value_of_getElem? hp ▸ hfinal.nodup p
    · intro id hid hid'
      refine hne (hfinal.apart p p' id ?_ ?_)
      · rwa [value_of_getElem? hs]
      · rwa [value_of_getElem? hs']
  · intro id
    rw [hperm.mem_iff, hfinal.mem id, mem_flatten]
    constructor
    · rintro ⟨s, hs, hid⟩
      obtain ⟨p, hp⟩ := mem_vals.1 hs
      exact ⟨p, by rwa [value_of_getElem? hp]⟩
    · rintro ⟨p, hid⟩
      cases hp : pcpStreamMap[p]? with
      | some s => exact ⟨s, mem_vals.2 ⟨p, hp⟩, by rwa [value_of_getElem? hp] at hid⟩
      | none =>
        rw [value_eq_getD, hp] at hid
        exact absurd hid not_mem_nil

/-- A stream without a priority code point has no place in the order. -/
theorem pcps_ne_nil_of_sortScheduleConfigStreams {config : ScheduleConfig} {ids : List ℤ} {id : ℤ}
    (h : config.sortScheduleConfigStreams lib = some ids)
    (hid : id ∈ config.scheduleConfigStreams.keys) :
    (config.getScheduleConfigStream id).pcps ≠ [] := by
  simp only [sortScheduleConfigStreams] at h
  obtain ⟨pcpStreamMap, hcollect, -⟩ := Option.bind_eq_some_iff.1 h
  obtain ⟨m, m', hround⟩ := OptionRule.exists_of_mem_foldlM hcollect hid
  obtain ⟨pcp, hhead, -⟩ := Option.bind_eq_some_iff.1 hround
  have hmem := (Library.mem_walk lib).1 (mem_of_head? hhead)
  exact ne_nil_of_mem hmem

end ScheduleConfig

end Algorithm
end Sebastian

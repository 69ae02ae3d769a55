/-
# Distances, and the frontier of a level-by-level search

`Distance sources step n a`: the least number of steps from a source to `a` is `n`.

A breadth-first search holds, at level `n`, what it has finished (`done`), what
waits at the level it works on (`current`) and what it has found for the next one
(`next`).  `Frontier` says what these are at the head of the loop, where an
element may have been queued once more after it was finished.
`Frontier.process` finishes the first waiting element, `Frontier.advance` goes one
level down, and a search with nothing left to do has finished exactly what can
be reached (`Frontier.mem_done_iff`).
-/

import Mathlib.Data.Finset.Card
import Mathlib.Order.Bounds.Basic
import Mathlib.Order.Nat

namespace Sebastian

open Finset List

variable {α : Type} (sources : Set α) (step : α → α → Prop)

/-- A walk of this length from a source. -/
inductive Walk : ℕ → α → Prop
  | source {a : α} : a ∈ sources → Walk 0 a
  | step {n : ℕ} {a b : α} : Walk n a → step a b → Walk (n + 1) b

/-- The least number of steps from a source. -/
def Distance (n : ℕ) (a : α) : Prop := IsLeast {m | Walk sources step m a} n

variable {sources step} {n m : ℕ} {a b : α}

namespace Distance

theorem unique (h : Distance sources step n a) (h' : Distance sources step m a) : n = m :=
  IsLeast.unique h h'

theorem zero_iff : Distance sources step 0 a ↔ a ∈ sources := by
  constructor
  · rintro ⟨hwalk, -⟩
    cases hwalk with
    | source h => exact h
  · exact fun h => ⟨.source h, fun m _ => Nat.zero_le m⟩

theorem exists_le (h : Distance sources step n a) (hab : step a b) :
    ∃ m ≤ n + 1, Distance sources step m b := by
  classical
  have hex : ∃ m, Walk sources step m b := ⟨n + 1, Walk.step h.1 hab⟩
  exact ⟨Nat.find hex, Nat.find_min' hex (Walk.step h.1 hab), Nat.find_spec hex, fun m hm =>
    Nat.find_min' hex hm⟩

/-- A level below the first is entered from the one above it. -/
theorem exists_pred (h : Distance sources step (n + 1) b) :
    ∃ a, Distance sources step n a ∧ step a b := by
  obtain ⟨hwalk, hleast⟩ := h
  cases hwalk with
  | @step _ a _ hwalk hab =>
    refine ⟨a, ⟨hwalk, fun m hm => ?_⟩, hab⟩
    have := hleast (Walk.step hm hab)
    omega

end Distance

/-- **The frontier of a level-by-level search** at the head of its loop. -/
structure Frontier (sources : Set α) (step : α → α → Prop) (n : ℕ) (done : Finset α)
    (current next : List α) : Prop where
  done_le : ∀ a ∈ done, ∃ m ≤ n, Distance sources step m a
  current_eq : ∀ a ∈ current,
    (Distance sources step n a ∧ a ∉ done) ∨ (a ∈ done ∧ ∃ m < n, Distance sources step m a)
  next_eq : ∀ a ∈ next,
    (Distance sources step (n + 1) a ∧ a ∉ done) ∨ a ∈ done
  current_nodup : current.Nodup
  next_nodup : next.Nodup
  complete : ∀ a, ∀ m ≤ n, Distance sources step m a → a ∈ done ∨ a ∈ current
  closed : ∀ a ∈ done, ∀ b, Distance sources step n a → step a b →
    b ∈ done ∨ b ∈ current ∨ b ∈ next

namespace Frontier

variable {done : Finset α} {current next next' rest : List α}

/-- The search starts with the sources waiting. -/
theorem init (hnodup : current.Nodup) (h : ∀ a, a ∈ current ↔ a ∈ sources) :
    Frontier sources step 0 ∅ current [] where
  done_le := by simp
  current_eq a ha := .inl ⟨Distance.zero_iff.2 ((h a).1 ha), notMem_empty a⟩
  next_eq := by simp
  current_nodup := hnodup
  next_nodup := nodup_nil
  complete a m hm hd := by
    obtain rfl : m = 0 := by omega
    exact .inr ((h a).2 (Distance.zero_iff.1 hd))
  closed := by simp

/-- What is not finished and does not wait at this level, one step away from an
element that does, is one level down, or that element itself. -/
theorem fresh_iff (h : Frontier sources step n done (a :: rest) next) (hab : step a b) :
    (b ∉ done ∧ b ∉ rest) ↔
      (Distance sources step n a ∧ a ∉ done) ∧ (Distance sources step (n + 1) b ∨ b = a) := by
  have hnodup := nodup_cons.1 h.current_nodup
  rcases h.current_eq a mem_cons_self with ⟨hdist, hfresh⟩ | ⟨hdone, m, hm, hdist⟩
  · constructor
    · rintro ⟨hb, hrest⟩
      refine ⟨⟨hdist, hfresh⟩, ?_⟩
      obtain ⟨k, hk, hdist'⟩ := hdist.exists_le hab
      rcases Nat.lt_or_ge n k with hlt | hle
      · obtain rfl : k = n + 1 := by omega
        exact .inl hdist'
      · rcases h.complete b k hle hdist' with hb' | hb'
        · exact absurd hb' hb
        · rcases mem_cons.1 hb' with rfl | hb'
          · exact .inr rfl
          · exact absurd hb' hrest
    · rintro ⟨-, hdist' | rfl⟩
      · constructor
        · intro hb
          obtain ⟨k, hk, hdist''⟩ := h.done_le b hb
          have := hdist'.unique hdist''
          omega
        · intro hb
          rcases h.current_eq b (mem_cons_of_mem _ hb) with ⟨hd, -⟩ | ⟨-, k, hk, hd⟩
          · have := hdist'.unique hd
            omega
          · have := hdist'.unique hd
            omega
      · exact ⟨hfresh, hnodup.1⟩
  · -- a finished element has all its neighbours finished or waiting
    constructor
    · rintro ⟨hb, hrest⟩
      obtain ⟨k, hk, hdist'⟩ := hdist.exists_le hab
      rcases h.complete b k (by omega) hdist' with hb' | hb'
      · exact absurd hb' hb
      · rcases mem_cons.1 hb' with rfl | hb'
        · exact absurd hdone hb
        · exact absurd hb' hrest
    · rintro ⟨⟨-, hfresh⟩, -⟩
      exact absurd hdone hfresh

/-- **One round**: the first waiting element is finished, and what it leads to waits
for the next level. -/
theorem process [DecidableEq α] (h : Frontier sources step n done (a :: rest) next)
    (hnodup : next'.Nodup) (hnext : ∀ b, b ∈ next' ↔ b ∈ next ∨ (step a b ∧ b ∉ done ∧ b ∉ rest)) :
    Frontier sources step n (insert a done) rest next' := by
  have hcur := nodup_cons.1 h.current_nodup
  have hself : ∃ m ≤ n, Distance sources step m a := by
    rcases h.current_eq a mem_cons_self with ⟨hdist, -⟩ | ⟨-, m, hm, hdist⟩
    · exact ⟨n, le_rfl, hdist⟩
    · exact ⟨m, by omega, hdist⟩
  refine ⟨fun b hb => ?_, fun b hb => ?_, fun b hb => ?_, hcur.2, hnodup, fun b m hm hd => ?_,
    fun b hb c hd hbc => ?_⟩
  · rcases mem_insert.1 hb with rfl | hb
    · exact hself
    · exact h.done_le b hb
  · have hne : b ≠ a := fun e => hcur.1 (e ▸ hb)
    rcases h.current_eq b (mem_cons_of_mem _ hb) with ⟨hdist, hfresh⟩ | ⟨hdone, hdist⟩
    · exact .inl ⟨hdist, by simp [hne, hfresh]⟩
    · exact .inr ⟨mem_insert_of_mem hdone, hdist⟩
  · rcases (hnext b).1 hb with hb | ⟨hab, hb⟩
    · rcases h.next_eq b hb with ⟨hdist, hfresh⟩ | hdone
      · refine .inl ⟨hdist, ?_⟩
        have hne : b ≠ a := by
          rintro rfl
          obtain ⟨m, hm, hdist'⟩ := hself
          have := hdist.unique hdist'
          omega
        simp [hne, hfresh]
      · exact .inr (mem_insert_of_mem hdone)
    · obtain ⟨⟨hdist, hfresh⟩, hdist' | rfl⟩ := (h.fresh_iff hab).1 hb
      · refine .inl ⟨hdist', ?_⟩
        have hne : b ≠ a := by
          rintro rfl
          have := hdist.unique hdist'
          omega
        simp [hne, hb.1]
      · exact .inr (mem_insert_self _ _)
  · rcases h.complete b m hm hd with hb | hb
    · exact .inl (mem_insert_of_mem hb)
    · rcases mem_cons.1 hb with rfl | hb
      · exact .inl (mem_insert_self _ _)
      · exact .inr hb
  · by_cases hc : c ∈ done
    · exact .inl (mem_insert_of_mem hc)
    by_cases hc' : c ∈ rest
    · exact .inr (.inl hc')
    rcases mem_insert.1 hb with rfl | hb
    · exact .inr (.inr ((hnext c).2 (.inr ⟨hbc, hc, hc'⟩)))
    · rcases h.closed b hb c hd hbc with hmem | hmem | hmem
      · exact absurd hmem hc
      · rcases mem_cons.1 hmem with rfl | hmem
        · exact .inl (mem_insert_self _ _)
        · exact absurd hmem hc'
      · exact .inr (.inr ((hnext c).2 (.inl hmem)))

/-- **One level down**, once nothing waits at this one. -/
theorem advance (h : Frontier sources step n done [] next) :
    Frontier sources step (n + 1) done next [] where
  done_le a ha := by
    obtain ⟨m, hm, hdist⟩ := h.done_le a ha
    exact ⟨m, by omega, hdist⟩
  current_eq a ha := by
    rcases h.next_eq a ha with hfresh | hdone
    · exact .inl hfresh
    · obtain ⟨m, hm, hdist⟩ := h.done_le a hdone
      exact .inr ⟨hdone, m, by omega, hdist⟩
  next_eq := by simp
  current_nodup := h.next_nodup
  next_nodup := nodup_nil
  complete a m hm hd := by
    rcases Nat.lt_or_ge n m with hlt | hle
    · obtain rfl : m = n + 1 := by omega
      obtain ⟨p, hp, hpa⟩ := hd.exists_pred
      have hpdone : p ∈ done := by simpa using h.complete p n le_rfl hp
      simpa using h.closed p hpdone a hp hpa
    · exact .inl (by simpa using h.complete a m hle hd)
  closed a ha b hd _ := by
    obtain ⟨m, hm, hdist⟩ := h.done_le a ha
    have := hd.unique hdist
    omega

/-- **A search with nothing left to do** has finished what can be reached. -/
theorem mem_done_iff (h : Frontier sources step n done [] []) :
    a ∈ done ↔ ∃ m, Distance sources step m a := by
  constructor
  · intro ha
    obtain ⟨m, -, hdist⟩ := h.done_le a ha
    exact ⟨m, hdist⟩
  · rintro ⟨m, hdist⟩
    induction m generalizing a with
    | zero => simpa using h.complete a 0 (Nat.zero_le n) hdist
    | succ m ih =>
      obtain ⟨p, hp, hpa⟩ := hdist.exists_pred
      rcases Nat.lt_or_ge n (m + 1) with hlt | hle
      · obtain ⟨k, hk, hdist'⟩ := h.done_le p (ih hp)
        obtain rfl := hp.unique hdist'
        obtain rfl : n = m := by omega
        simpa using h.closed p (ih hp) a hp hpa
      · simpa using h.complete a (m + 1) hle hdist

/-- What is left to do: each element can be finished once, and between two of
these rounds the waiting ones are passed. -/
def work [DecidableEq α] (pool : Finset α) (done : Finset α) (current next : List α) : ℕ :=
  (pool.card + 1) * (pool \ done).card + current.length + next.length

theorem work_advance [DecidableEq α] (pool : Finset α) :
    work pool done next [] = work pool done [] next := by
  simp [work]

/-- **Every round leaves less to do.** -/
theorem work_lt [DecidableEq α] {pool : Finset α} (ha : a ∈ pool)
    (hnodup : next'.Nodup) (hpool : ∀ b ∈ next', b ∈ pool) (hstale : a ∈ done → next' = next) :
    work pool (insert a done) rest next' < work pool done (a :: rest) next := by
  unfold work
  by_cases hdone : a ∈ done
  · rw [hstale hdone, insert_eq_of_mem hdone]
    simp
  · have hlen : next'.length ≤ pool.card := by
      rw [← toFinset_card_of_nodup hnodup]
      exact card_le_card fun b hb => hpool b (mem_toFinset.1 hb)
    have hcard : (pool \ insert a done).card + 1 = (pool \ done).card := by
      rw [sdiff_insert, card_erase_add_one]
      exact mem_sdiff.2 ⟨ha, hdone⟩
    rw [← hcard, Nat.mul_add, length_cons]
    omega

end Frontier
end Sebastian

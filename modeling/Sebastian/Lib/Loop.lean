/-
# `while` loops with an exit value

A C++ `while` loop with `return` and `continue` in its body is a *body* that
maps the loop state to one of three things: go round again, leave the loop
with a value, or do not return at all (an inner loop that does not end, or
undefined behaviour).  `Loop.run` iterates a body with a bound on the number of
rounds; `Visits` is the relation "the loop started at `s` reaches the head of
its body with state `t`", so that a statement about *every step of a run* is a
statement about the visited states.

The rules: `run_rule` carries an invariant from the first state to the exit,
`Visits.rule` carries it to every visited state, and both hand the visited
state itself to the step proof, so that a hypothesis about the steps of the
run can be used there.  `run_mono` says that the bound is only a bound.
-/

import Mathlib.Data.List.Induction

namespace Sebastian

open List

variable {α β : Type*}

/-- What one round of a loop body does. -/
inductive Iter (σ ρ : Type*) where
  /-- The end of the body is reached; the loop goes round with this state. -/
  | next (s : σ)
  /-- The loop is left with this value. -/
  | done (r : ρ)
  /-- The round does not return. -/
  | stuck

namespace Loop

variable {σ ρ : Type*}

/-- Iterate `body` from `s` for at most `fuel` rounds. -/
def run (body : σ → Iter σ ρ) : ℕ → σ → Option ρ
  | 0, _ => none
  | fuel + 1, s =>
    match body s with
    | .next t => run body fuel t
    | .done r => some r
    | .stuck => none

/-- The loop started at the first state comes to the head of its body with the
second one. -/
inductive Visits (body : σ → Iter σ ρ) : σ → σ → Prop
  | refl (s : σ) : Visits body s s
  | step {s t u : σ} : Visits body s t → body t = .next u → Visits body s u

variable {body : σ → Iter σ ρ} {s t u : σ} {r : ρ} {fuel : ℕ}

theorem Visits.head (h : body s = .next t) (ht : Visits body t u) : Visits body s u := by
  induction ht with
  | refl => exact .step (.refl _) h
  | step _ hb ih => exact .step ih hb

theorem Visits.trans (h : Visits body s t) (h' : Visits body t u) : Visits body s u := by
  induction h' with
  | refl => exact h
  | step _ hb ih => exact .step ih hb

/-- **An invariant holds at every visited state.** -/
theorem Visits.rule {I : σ → Prop} (hI : I s)
    (hstep : ∀ t u, Visits body s t → I t → body t = .next u → I u) (h : Visits body s t) :
    I t := by
  induction h with
  | refl => exact hI
  | step hv hb ih => exact hstep _ _ hv ih hb

/-- A run that ends was left from a visited state. -/
theorem exists_of_run (h : run body fuel s = some r) : ∃ t, Visits body s t ∧ body t = .done r := by
  induction fuel generalizing s with
  | zero => simp [run] at h
  | succ fuel ih =>
    cases hb : body s with
    | next t =>
      rw [run, hb] at h
      obtain ⟨t', hv, hd⟩ := ih h
      exact ⟨t', hv.head hb, hd⟩
    | done r' =>
      rw [run, hb] at h
      cases h
      exact ⟨s, .refl s, hb⟩
    | stuck => simp [run, hb] at h

/-- **The loop rule.**  An invariant of the visited states gives a postcondition
of the exit value. -/
theorem run_rule {I : σ → Prop} {Q : ρ → Prop} (h : run body fuel s = some r) (hI : I s)
    (hstep : ∀ t u, Visits body s t → I t → body t = .next u → I u)
    (hdone : ∀ t r, Visits body s t → I t → body t = .done r → Q r) : Q r := by
  obtain ⟨t, hv, hd⟩ := exists_of_run h
  exact hdone t r hv (hv.rule hI hstep) hd

/-- **The bound is only a bound:** a run that ends, ends the same way with more
rounds. -/
theorem run_mono {fuel' : ℕ} (h : run body fuel s = some r) (hle : fuel ≤ fuel') :
    run body fuel' s = some r := by
  induction fuel generalizing s fuel' with
  | zero => simp [run] at h
  | succ fuel ih =>
    obtain ⟨fuel', rfl⟩ : ∃ k, fuel' = k + 1 := ⟨fuel' - 1, by omega⟩
    cases hb : body s with
    | next t =>
      rw [run, hb] at h ⊢
      exact ih h (by omega)
    | done r' => rw [run, hb] at h ⊢; exact h
    | stuck => simp [run, hb] at h

/-! ### Two loops in lock step -/

/-- **Two rounds go the same way.** -/
inductive RoundTogether {σ' ρ' : Type*} (R : σ → σ' → Prop) (Q : ρ → ρ' → Prop) :
    Iter σ ρ → Iter σ' ρ' → Prop
  | next {s : σ} {s' : σ'} (h : R s s') : RoundTogether R Q (.next s) (.next s')
  | done {r : ρ} {r' : ρ'} (h : Q r r') : RoundTogether R Q (.done r) (.done r')
  | stuck : RoundTogether R Q .stuck .stuck

/-- **The rule for two loops in lock step**: rounds that go the same way make runs that
end together, or neither does. -/
theorem run_together {σ' ρ' : Type*} {body' : σ' → Iter σ' ρ'} {R : σ → σ' → Prop}
    {Q : ρ → ρ' → Prop} {s' : σ'} (h : R s s')
    (hround : ∀ t t', R t t' → RoundTogether R Q (body t) (body' t')) :
    Option.Rel Q (run body fuel s) (run body' fuel s') := by
  induction fuel generalizing s s' with
  | zero => exact .none
  | succ fuel ih =>
    have hfirst := hround s s' h
    unfold run
    generalize body s = x at hfirst ⊢
    generalize body' s' = y at hfirst ⊢
    cases hfirst with
    | next hnext => exact ih hnext
    | done hdone => exact .some hdone
    | stuck => exact .none

/-! ### Listing the states of a loop -/

/-- The states the loop comes to in `fuel` rounds. -/
def visited (body : σ → Iter σ ρ) : ℕ → σ → List σ
  | 0, _ => []
  | fuel + 1, s =>
    s :: match body s with
      | .next t => visited body fuel t
      | _ => []

/-- The visited states are the first one and those its successor visits. -/
theorem Visits.eq_or_next (h : Visits body s t) :
    t = s ∨ ∃ u, body s = .next u ∧ Visits body u t := by
  induction h with
  | refl => exact .inl rfl
  | @step t v hv hb ih =>
    rcases ih with rfl | ⟨u, hu, hut⟩
    · exact .inr ⟨v, hb, .refl v⟩
    · exact .inr ⟨u, hu, hut.step hb⟩

theorem visits_of_mem_visited (h : t ∈ visited body fuel s) : Visits body s t := by
  induction fuel generalizing s with
  | zero => cases h
  | succ fuel ih =>
    rw [visited, mem_cons] at h
    rcases h with rfl | h
    · exact .refl _
    · cases hb : body s with
      | next u =>
        rw [hb] at h
        exact (ih h).head hb
      | done r =>
        rw [hb] at h
        cases h
      | stuck =>
        rw [hb] at h
        cases h

/-- **A run that ends** is not stuck in any state it visits, and lists them all. -/
theorem mem_visited_of_run (h : run body fuel s = some r) (hv : Visits body s t) :
    t ∈ visited body fuel s ∧ body t ≠ .stuck := by
  induction fuel generalizing s with
  | zero => simp [run] at h
  | succ fuel ih =>
    rw [visited, mem_cons]
    rcases hv.eq_or_next with rfl | ⟨u, hu, hut⟩
    · refine ⟨.inl rfl, fun hstuck => ?_⟩
      simp [run, hstuck] at h
    · rw [run, hu] at h
      rw [hu]
      obtain ⟨hmem, hne⟩ := ih h hut
      exact ⟨.inr hmem, hne⟩

/-- **Termination.**  A loop whose body never gets stuck where the invariant
holds, and lowers a measure each time it goes round, ends within that many
rounds. -/
theorem exists_run {I : σ → Prop} (μ : σ → ℕ) (hI : I s)
    (hstep : ∀ t, I t → (∃ r, body t = .done r) ∨
      ∃ u, body t = .next u ∧ I u ∧ μ u < μ t) (hfuel : μ s < fuel) :
    ∃ r, run body fuel s = some r := by
  induction fuel generalizing s with
  | zero => omega
  | succ fuel ih =>
    rcases hstep s hI with ⟨r, hr⟩ | ⟨u, hu, hIu, hμ⟩
    · exact ⟨r, by rw [run, hr]⟩
    · rw [run, hu]
      exact ih hIu (by omega)

/-- **Total correctness.**  Such a loop is left from a state where the invariant holds. -/
theorem exists_run_done {I : σ → Prop} (μ : σ → ℕ) (hI : I s)
    (hstep : ∀ t, I t → (∃ r, body t = .done r) ∨
      ∃ u, body t = .next u ∧ I u ∧ μ u < μ t) (hfuel : μ s < fuel) :
    ∃ r t, run body fuel s = some r ∧ I t ∧ body t = .done r := by
  obtain ⟨r, hrun⟩ := exists_run μ hI hstep hfuel
  obtain ⟨t, hvisits, hdone⟩ := exists_of_run hrun
  refine ⟨r, t, hrun, hvisits.rule hI (fun u v _ hu hv => ?_), hdone⟩
  rcases hstep u hu with ⟨r', hr'⟩ | ⟨w, hw, hIw, -⟩
  · rw [hr'] at hv
    cases hv
  · rw [hw] at hv
    cases hv
    exact hIw

/-- A run that ends goes on from every state it visits, and ends the same way. -/
theorem exists_run_of_visits (h : run body fuel s = some r) (hv : Visits body s t) :
    ∃ fuel', run body fuel' t = some r := by
  induction hv with
  | refl => exact ⟨fuel, h⟩
  | step _ hb ih =>
    obtain ⟨fuel', hrun⟩ := ih
    cases fuel' with
    | zero => simp [run] at hrun
    | succ fuel' =>
      rw [run, hb] at hrun
      exact ⟨fuel', hrun⟩

/-- A loop that ends from a state it visits ends. -/
theorem exists_run_of_visited (hv : Visits body s t) (h : ∃ fuel r, run body fuel t = some r) :
    ∃ fuel r, run body fuel s = some r := by
  induction hv with
  | refl => exact h
  | step _ hb ih =>
    obtain ⟨fuel, r, hrun⟩ := h
    exact ih ⟨fuel + 1, r, by rw [run, hb]; exact hrun⟩

/-- **A loop in any order.**  Where an invariant makes every two rounds commute, the order of the
rounds does not matter. -/
theorem foldl_perm {f : β → α → β} {l l' : List α} {b : β} {I : β → Prop} (hperm : l.Perm l')
    (hI : I b) (hstep : ∀ b, ∀ a ∈ l, I b → I (f b a))
    (hcomm : ∀ b, ∀ a ∈ l, ∀ a' ∈ l, I b → f (f b a) a' = f (f b a') a) :
    l.foldl f b = l'.foldl f b := by
  induction hperm generalizing b with
  | nil => rfl
  | cons a _ ih =>
    exact ih (hstep b a mem_cons_self hI)
      (fun b a' ha' => hstep b a' (mem_cons_of_mem _ ha'))
      fun b a' ha' a'' ha'' =>
        hcomm b a' (mem_cons_of_mem _ ha') a'' (mem_cons_of_mem _ ha'')
  | swap a a' l =>
    rw [foldl_cons, foldl_cons, foldl_cons, foldl_cons,
      hcomm b a' mem_cons_self a (mem_cons_of_mem _ mem_cons_self) hI]
  | trans hfirst _ ih ih' =>
    rw [ih hI hstep hcomm]
    exact ih' hI (fun b a ha => hstep b a (hfirst.mem_iff.2 ha))
      fun b a ha a' ha' => hcomm b a (hfirst.mem_iff.2 ha) a' (hfirst.mem_iff.2 ha')

/-- **The rule for a `for` loop** over a list, with an invariant that knows which
elements the loop has passed. -/
theorem foldl_rule {f : β → α → β} {l : List α} {b : β} {I : List α → β → Prop} (hI : I [] b)
    (hstep : ∀ passed a rest, l = passed ++ a :: rest → I passed (passed.foldl f b) → I
      (passed ++ [a]) (f (passed.foldl f b) a)) : I l (l.foldl f b) := by
  suffices h : ∀ passed rest, l = passed ++ rest → I passed (passed.foldl f b) from
    h l [] (append_nil l).symm
  intro passed
  induction passed using reverseRecOn with
  | nil => exact fun _ _ => hI
  | append_singleton passed a ih =>
    intro rest hl
    rw [append_assoc, singleton_append] at hl
    rw [foldl_append, foldl_cons, foldl_nil]
    exact hstep passed a rest hl (ih (a :: rest) hl)

/-- **What one round brings about** and the later rounds keep holds after a `for` loop. -/
theorem foldl_reaches {f : β → α → β} {l : List α} {b : β} {I Q : β → Prop} {a : α} (ha : a ∈ l)
    (hI : I b) (hstep : ∀ b, I b → ∀ a ∈ l, I (f b a)) (hat : ∀ b, I b → Q (f b a))
    (hkeep : ∀ b, Q b → ∀ a ∈ l, Q (f b a)) : Q (l.foldl f b) := by
  induction l generalizing b with
  | nil => cases ha
  | cons x l ih =>
    have hkeep' : ∀ b, Q b → ∀ a ∈ l, Q (f b a) :=
      fun b hb y hy => hkeep b hb y (mem_cons_of_mem _ hy)
    rw [foldl_cons]
    rcases mem_cons.1 ha with rfl | ha
    · exact foldlRecOn l f (hat b hI) hkeep'
    · exact ih ha (hstep b hI x mem_cons_self)
        (fun b hb y hy => hstep b hb y (mem_cons_of_mem _ hy)) hkeep'

/-- The moments of a `for` loop: what it has passed, and where it is. -/
def moments {α : Type*} : List α → List (List α × α)
  | [] => []
  | a :: l => ([], a) :: (moments l).map fun m => (a :: m.1, m.2)

theorem mem_moments {l passed : List α} {a : α} :
    (passed, a) ∈ moments l ↔ ∃ rest, l = passed ++ a :: rest := by
  induction l generalizing passed with
  | nil => simp [moments]
  | cons b l ih =>
    rw [moments, mem_cons, mem_map]
    constructor
    · rintro (h | ⟨⟨passed', a'⟩, hm, h⟩)
      · obtain ⟨rfl, rfl⟩ := Prod.mk.inj h
        exact ⟨l, rfl⟩
      · obtain ⟨rfl, rfl⟩ := Prod.mk.inj h
        obtain ⟨rest, rfl⟩ := ih.1 hm
        exact ⟨rest, rfl⟩
    · rintro ⟨rest, h⟩
      cases passed with
      | nil =>
        obtain ⟨rfl, -⟩ := cons.inj h
        exact .inl rfl
      | cons c passed =>
        obtain ⟨rfl, rfl⟩ := cons.inj h
        exact .inr ⟨(passed, a), ih.2 ⟨rest, rfl⟩, rfl⟩

end Loop
end Sebastian

/-
# Runs of a transition system

A run is the list of its steps, each with its label and the state it leads to.
`Along R s run` says that `R` relates every step of the run; with the step
relation for `R` it says that the list is a run, with a condition for `R` that
every step of it meets the condition.

`Along.rule` carries an invariant over a run.  `Along.iff_along` is for a
property that is equivalent to a condition on the steps: if the condition is
what keeps an invariant, and a step against it is seen in the state after it,
then the property holds in every state of a run exactly when every step of the
run meets the condition.
-/

import Mathlib.Data.List.Basic

namespace Sebastian

open List

/-- Every step of the run is related. -/
def Along {σ ℓ : Type*} (R : σ → ℓ → σ → Prop) : σ → List (ℓ × σ) → Prop
  | _, [] => True
  | s, (l, t) :: run => R s l t ∧ Along R t run

/-- Every two steps of the run that come one after the other are related. -/
def AlongPairs {σ ℓ : Type*} (R : σ → ℓ → σ → ℓ → σ → Prop) : σ → List (ℓ × σ) → Prop
  | s, (l, t) :: (l', u) :: run => R s l t l' u ∧ AlongPairs R t ((l', u) :: run)
  | _, _ => True

/-- The states of a run, from the first. -/
def statesOfRun {σ ℓ : Type*} (s : σ) (run : List (ℓ × σ)) : List σ := s :: run.map (·.2)

/-- The run of a system whose next state is a function of the label. -/
def runOf {σ ℓ : Type*} (f : σ → ℓ → σ) : σ → List ℓ → List (ℓ × σ)
  | _, [] => []
  | s, l :: ls => (l, f s l) :: runOf f (f s l) ls

namespace Along

variable {σ ℓ : Type*} {R R' : σ → ℓ → σ → Prop} {I P : σ → Prop} {s t : σ} {l : ℓ}
  {run run' : List (ℓ × σ)}

@[simp] theorem nil : Along R s [] := trivial

@[simp] theorem cons : Along R s ((l, t) :: run) ↔ R s l t ∧ Along R t run := Iff.rfl

theorem and_iff : Along (fun s l t => R s l t ∧ R' s l t) s run ↔
    Along R s run ∧ Along R' s run := by
  induction run generalizing s with
  | nil => simp
  | cons x run ih =>
    obtain ⟨l, t⟩ := x
    rw [cons, cons, cons, ih]
    tauto

theorem split (h : Along R s (run ++ (l, t) :: run')) :
    ∃ u ∈ statesOfRun s run, R u l t ∧ Along R t run' := by
  induction run generalizing s with
  | nil => exact ⟨s, mem_cons_self, h.1, h.2⟩
  | cons x run ih =>
    obtain ⟨u, hu, hR, hrest⟩ := ih h.2
    exact ⟨u, mem_cons_of_mem _ hu, hR, hrest⟩

/-- What follows of a step from a state in which something holds. -/
theorem mono_states (hI : ∀ t ∈ statesOfRun s run, I t)
    (himp : ∀ s l t, I s → R s l t → R' s l t) (h : Along R s run) : Along R' s run := by
  induction run generalizing s with
  | nil => trivial
  | cons x run ih =>
    exact ⟨himp _ _ _ (hI s mem_cons_self) h.1,
      ih (fun t ht => hI t (mem_cons_of_mem _ ht)) h.2⟩

/-- Two conditions that say the same of every step from a state in which something holds. -/
theorem congr_states {P Q : σ → ℓ → σ → Prop} (h : Along R s run)
    (hI : ∀ t ∈ statesOfRun s run, I t)
    (hiff : ∀ s l t, I s → R s l t → (P s l t ↔ Q s l t)) : Along P s run ↔ Along Q s run := by
  constructor
  · intro hP
    exact (and_iff.2 ⟨h, hP⟩).mono_states hI fun s l t hs hstep => (hiff s l t hs hstep.1).1 hstep.2
  · intro hQ
    exact (and_iff.2 ⟨h, hQ⟩).mono_states hI fun s l t hs hstep => (hiff s l t hs hstep.1).2 hstep.2

/-- What two steps that come one after the other bring about from a state in which something
holds. -/
theorem pairs {P : σ → ℓ → σ → ℓ → σ → Prop} (h : Along R s run) (hI : ∀ t ∈ statesOfRun s run, I t)
    (himp : ∀ s l t l' u, I s → I t → R s l t → R t l' u → P s l t l' u) : AlongPairs P s run := by
  induction run generalizing s with
  | nil => trivial
  | cons x run ih =>
    cases run with
    | nil => trivial
    | cons y run =>
      have hrest : ∀ t ∈ statesOfRun x.2 (y :: run), I t :=
        fun t ht => hI t (mem_cons_of_mem _ ht)
      exact ⟨himp _ _ _ _ _ (hI s mem_cons_self) (hrest x.2 mem_cons_self) h.1 h.2.1,
        ih h.2 hrest⟩

/-- **An invariant** that the first state has and every step keeps holds in every state. -/
theorem rule (h : Along R s run) (hI : I s) (hstep : ∀ s l t, R s l t → I s → I t) :
    ∀ t ∈ statesOfRun s run, I t := by
  induction run generalizing s with
  | nil =>
    intro t ht
    rwa [mem_singleton.1 ht]
  | cons x run ih =>
    intro t ht
    rcases mem_cons.1 ht with rfl | ht
    · exact hI
    · exact ih h.2 (hstep _ _ _ h.1 hI) t ht

/-- **A property that a condition on the steps is equivalent to.**  The condition keeps an
invariant that gives the property, and a step against it shows in the state after it. -/
theorem iff_along {ok : σ → ℓ → σ → Prop} (h : Along R s run) (hI : I s) (hP : ∀ s, I s → P s)
    (hkeep : ∀ s l t, R s l t → I s → ok s l t → I t)
    (hshow : ∀ s l t, R s l t → I s → P t → ok s l t) :
    (∀ t ∈ statesOfRun s run, P t) ↔ Along ok s run := by
  induction run generalizing s with
  | nil => exact ⟨fun _ => trivial, fun _ t ht => by rw [mem_singleton.1 ht]; exact hP s hI⟩
  | cons x run ih =>
    obtain ⟨l, t⟩ := x
    obtain ⟨hR, hrun⟩ := h
    have hall : (∀ u ∈ statesOfRun s ((l, t) :: run), P u) ↔ ∀ u ∈ statesOfRun t run, P u :=
      ⟨fun hu u hmem => hu u (mem_cons_of_mem _ hmem), fun hu u hmem => by
        rcases mem_cons.1 hmem with rfl | hmem
        · exact hP _ hI
        · exact hu u hmem⟩
    rw [hall]
    constructor
    · intro hu
      have hok := hshow s l t hR hI (hu t mem_cons_self)
      exact ⟨hok, (ih hrun (hkeep s l t hR hI hok)).1 hu⟩
    · rintro ⟨hok, hrest⟩
      exact (ih hrun (hkeep s l t hR hI hok)).2 hrest

/-- A run whose steps lower a measure is no longer than the measure. -/
theorem length_le (h : Along R s run) (μ : σ → ℕ) (hμ : ∀ s l t, R s l t → μ t < μ s) :
    run.length ≤ μ s := by
  induction run generalizing s with
  | nil => exact Nat.zero_le _
  | cons x run ih =>
    have hlt := hμ _ _ _ h.1
    have hle := ih h.2
    rw [length_cons]
    omega

end Along
end Sebastian

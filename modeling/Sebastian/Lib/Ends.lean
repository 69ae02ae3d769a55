/-
# Loops that come to an end

A loop *ends* when it comes to a state from which it does not go round again: it is
left there, or the round does not return (`Ends`).  `ends_of_wellFounded` is the rule
for a measure in a well-founded order, `ends_of_worklist` the one for a loop that takes
an item from a worklist and puts back items of lower rank only.

A computation with a bound on its rounds *settles* on a value when every bound that is
large enough gives it (`Settles`).  A loop that ends settles or gets stuck
(`Ends.settles_or_stuck`), and so does a loop whose rounds are such computations
themselves (`settles_or_of_rounds`).  `Grows` says that a larger bound never changes a
value.
-/

import Mathlib.Data.Multiset.DershowitzManna
import Mathlib.Order.Filter.AtTopBot.Basic
import Sebastian.Lib.Loop

namespace Sebastian
namespace Loop

open Filter Option

variable {σ ρ : Type*} {body : σ → Iter σ ρ} {s : σ}

/-- The loop comes to a state from which it does not go round again. -/
def Ends (body : σ → Iter σ ρ) (s : σ) : Prop :=
  ∃ t, Visits body s t ∧ ∀ u, body t ≠ .next u

/-- **The rule for a measure**: every round lowers it, in a well-founded order. -/
theorem ends_of_wellFounded {α : Type*} {lt : α → α → Prop} (hlt : WellFounded lt) (μ : σ → α)
    (hround : ∀ t u, Visits body s t → body t = .next u → lt (μ u) (μ t)) : Ends body s := by
  have hends : ∀ a t, μ t = a → Visits body s t → Ends body s := by
    intro a
    induction a using hlt.induction with
    | _ a ih =>
      intro t ht hv
      by_cases hnext : ∃ u, body t = .next u
      · obtain ⟨u, hu⟩ := hnext
        exact ih (μ u) (ht ▸ hround t u hv hu) u rfl (hv.step hu)
      · exact ⟨t, hv, fun u hu => hnext ⟨u, hu⟩⟩
  exact hends _ s rfl (.refl s)

/-- **The rule for a worklist**: every round takes one item and puts back items of lower
rank. -/
theorem ends_of_worklist {α : Type*} (waiting : σ → Multiset α) (rank : α → ℕ)
    (hround : ∀ t u, Visits body s t → body t = .next u → ∃ a rest added,
      waiting t = a ::ₘ rest ∧ waiting u = added + rest ∧ ∀ b ∈ added, rank b < rank a) :
    Ends body s := by
  refine ends_of_wellFounded Multiset.wellFounded_isDershowitzMannaLT
    (fun t => (waiting t).map rank) fun t u hv hb => ?_
  obtain ⟨a, rest, added, ht, hu, hrank⟩ := hround t u hv hb
  refine ⟨rest.map rank, added.map rank, {rank a}, Multiset.singleton_ne_zero _, ?_, ?_, ?_⟩
  · rw [hu, Multiset.map_add, add_comm]
  · rw [ht, Multiset.map_cons, ← Multiset.singleton_add, add_comm]
  · intro n hn
    obtain ⟨b, hb, rfl⟩ := Multiset.mem_map.1 hn
    exact ⟨rank a, Multiset.mem_singleton_self _, hrank b hb⟩

/-! ### Enough fuel -/

/-- Every bound on the rounds that is large enough gives the value. -/
def Settles {α : Type*} (f : ℕ → Option α) (a : α) : Prop :=
  ∀ᶠ fuel in atTop, f fuel = some a

theorem settles_const {α : Type*} (a : α) : Settles (fun _ => some a) a :=
  Eventually.of_forall fun _ => rfl

theorem Settles.bind {α β : Type*} {f : ℕ → Option α} {g : ℕ → α → Option β} {a : α} {b : β}
    (hf : Settles f a) (hg : Settles (g · a) b) : Settles (fun fuel => (f fuel).bind (g fuel)) b :=
  (hf.and hg).mono fun _ ⟨hf, hg⟩ => by simp only [hf, hg, bind_some]

theorem Settles.map {α β : Type*} {f : ℕ → Option α} {a : α} (hf : Settles f a) (g : α → β) :
    Settles (fun fuel => (f fuel).map g) (g a) :=
  Eventually.mono hf fun _ h => by simp only [h, map_some]

theorem exists_settles_foldlM {α β : Type*} {f : ℕ → β → α → Option β} {l : List α}
    (hf : ∀ b, ∀ a ∈ l, ∃ c, Settles (f · b a) c) (b : β) :
    ∃ c, Settles (fun fuel => l.foldlM (f fuel) b) c := by
  induction l generalizing b with
  | nil => exact ⟨b, settles_const b⟩
  | cons a l ih =>
    obtain ⟨c, hc⟩ := hf b a List.mem_cons_self
    obtain ⟨d, hd⟩ := ih (fun b a ha => hf b a (List.mem_cons_of_mem _ ha)) c
    refine ⟨d, ?_⟩
    simp only [List.foldlM_cons]
    exact hc.bind hd

theorem settles_of_run (fuel : ℕ) {r : ρ} (h : run body fuel s = some r) :
    Settles (run body · s) r :=
  (eventually_ge_atTop fuel).mono fun _ hle => run_mono h hle

/-- A loop ends with the value that it is left with where it comes to. -/
theorem settles_of_visits {t : σ} {r : ρ} (hv : Visits body s t) (hdone : body t = .done r) :
    Settles (run body · s) r := by
  have hlast : Settles (run body · t) r := settles_of_run 1 (by rw [run, hdone])
  clear hdone
  induction hv with
  | refl => exact hlast
  | step _ hb ih =>
    obtain ⟨fuel, hrun⟩ := hlast.exists
    refine ih (settles_of_run (fuel + 1) ?_)
    rw [run, hb]
    exact hrun

/-- **A loop that ends** is left, or comes to a round that does not return. -/
theorem Ends.settles_or_stuck (h : Ends body s) :
    (∃ r, Settles (run body · s) r) ∨ ∃ t, Visits body s t ∧ body t = .stuck := by
  obtain ⟨t, hv, hlast⟩ := h
  cases hb : body t with
  | next u => exact absurd hb (hlast u)
  | done r => exact .inl ⟨r, settles_of_visits hv hb⟩
  | stuck => exact .inr ⟨t, hv, hb⟩

/-- **A loop whose rounds have loops of their own**: if each of its rounds settles and
lowers a measure, the whole loop settles, unless it comes to a state that is bad. -/
theorem settles_or_of_rounds {α : Type*} {lt : α → α → Prop} {body : ℕ → σ → Iter σ ρ}
    {I B : σ → Prop} (hlt : WellFounded lt) (μ : σ → α) (hI : I s)
    (hround : ∀ t, I t → B t ∨ (∃ r, ∀ᶠ fuel in atTop, body fuel t = .done r) ∨
      ∃ u, I u ∧ lt (μ u) (μ t) ∧ ∀ᶠ fuel in atTop, body fuel t = .next u) :
    (∃ r, Settles (fun fuel => run (body fuel) fuel s) r) ∨
      ∃ t, I t ∧ B t ∧ ∀ᶠ fuel in atTop, Visits (body fuel) s t := by
  suffices h : (∃ r rounds, ∀ᶠ fuel in atTop, run (body fuel) rounds s = some r) ∨
      ∃ t, I t ∧ B t ∧ ∀ᶠ fuel in atTop, Visits (body fuel) s t by
    refine h.imp_left ?_
    rintro ⟨r, rounds, hr⟩
    exact ⟨r, (hr.and (eventually_ge_atTop rounds)).mono fun fuel h => run_mono h.1 h.2⟩
  have hrounds : ∀ a t, μ t = a → I t →
      (∃ r rounds, ∀ᶠ fuel in atTop, run (body fuel) rounds t = some r) ∨
        ∃ u, I u ∧ B u ∧ ∀ᶠ fuel in atTop, Visits (body fuel) t u := by
    intro a
    induction a using hlt.induction with
    | _ a ih =>
      intro t ht hIt
      rcases hround t hIt with hB | ⟨r, hr⟩ | ⟨u, hIu, hlow, hu⟩
      · exact .inr ⟨t, hIt, hB, Eventually.of_forall fun _ => .refl t⟩
      · exact .inl ⟨r, 1, hr.mono fun fuel hr => by rw [run, hr]⟩
      · rcases ih (μ u) (ht ▸ hlow) u rfl hIu with ⟨r, rounds, hr⟩ | ⟨v, hIv, hBv, hv⟩
        · refine .inl ⟨r, rounds + 1, (hu.and hr).mono fun fuel h => ?_⟩
          rw [run, h.1]
          exact h.2
        · exact .inr ⟨v, hIv, hBv, (hu.and hv).mono fun fuel h => h.2.head h.1⟩
  exact hrounds _ s rfl hI

/-! ### More fuel -/

/-- A larger bound gives the same value, once there is one. -/
def Grows {α : Type*} (f : ℕ → Option α) : Prop :=
  ∀ fuel fuel' a, fuel ≤ fuel' → f fuel = some a → f fuel' = some a

section
variable {α β : Type*}

theorem grows_const (o : Option α) : Grows fun _ => o := fun _ _ _ _ h => h

theorem Grows.bind {f : ℕ → Option α} {g : ℕ → α → Option β} (hf : Grows f)
    (hg : ∀ a, Grows (g · a)) : Grows fun fuel => (f fuel).bind (g fuel) := by
  intro fuel fuel' b hle h
  obtain ⟨a, ha, hb⟩ := bind_eq_some_iff.1 h
  exact bind_eq_some_iff.2 ⟨a, hf fuel fuel' a hle ha, hg a fuel fuel' b hle hb⟩

theorem Grows.map {f : ℕ → Option α} (hf : Grows f) (g : α → β) :
    Grows fun fuel => (f fuel).map g := by
  intro fuel fuel' b hle h
  obtain ⟨a, ha, hb⟩ := map_eq_some_iff.1 h
  exact map_eq_some_iff.2 ⟨a, hf fuel fuel' a hle ha, hb⟩

theorem grows_foldlM {f : ℕ → β → α → Option β} {l : List α}
    (hf : ∀ b a, Grows (f · b a)) (b : β) : Grows fun fuel => l.foldlM (f fuel) b := by
  induction l generalizing b with
  | nil => exact grows_const _
  | cons a l ih =>
    simp only [List.foldlM_cons]
    exact (hf b a).bind ih

theorem grows_run : Grows (run body · s) := fun _ _ _ hle h => run_mono h hle

theorem Visits.grow {body' : σ → Iter σ ρ} {t : σ} (h : Visits body s t)
    (hbody : ∀ t, body t ≠ .stuck → body' t = body t) : Visits body' s t := by
  induction h with
  | refl => exact .refl _
  | step _ hb ih => exact .step ih ((hbody _ (by rw [hb]; exact nofun)).trans hb)

theorem grows_run_of {body : ℕ → σ → Iter σ ρ} (hbody : ∀ fuel fuel' t, fuel ≤ fuel' →
    body fuel t ≠ .stuck → body fuel' t = body fuel t) :
    Grows fun fuel => run (body fuel) fuel s := by
  intro fuel fuel' r hle h
  suffices hrounds : ∀ rounds s, run (body fuel) rounds s = some r →
      run (body fuel') rounds s = some r from run_mono (hrounds fuel s h) hle
  intro rounds
  induction rounds with
  | zero => exact fun _ h => h
  | succ rounds ih =>
    intro s h
    cases hb : body fuel s with
    | stuck => simp [run, hb] at h
    | next t =>
      have hb' := (hbody fuel fuel' s hle (by rw [hb]; rintro ⟨⟩)).trans hb
      rw [run, hb] at h
      rw [run, hb']
      exact ih t h
    | done r' =>
      have hb' := (hbody fuel fuel' s hle (by rw [hb]; rintro ⟨⟩)).trans hb
      rw [run, hb] at h
      rw [run, hb']
      exact h

end

end Loop
end Sebastian

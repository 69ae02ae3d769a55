/-
# Holding a resource

A history is a list of events, oldest first.  Some events take a resource and some
give it back.  The resource is `Held` after an event that takes it, until one gives
it back; it is taken *exclusively* (`Exclusive`) when no event takes it while it is
held.  `Exclusive.append` is the rule that carries exclusiveness along a run: look
only at the next event, and only when it takes the resource.
-/

import Mathlib.Tactic.Common

namespace Sebastian
namespace Holding

open List

variable {ε : Type*} {takes gives : ε → Prop} {history : List ε} {e : ε}

/-- The resource was taken and has not been given back. -/
def Held (takes gives : ε → Prop) (history : List ε) : Prop :=
  ∃ before taker after, history = before ++ taker :: after ∧ takes taker ∧
    ∀ r ∈ after, ¬gives r

/-- Between two events that take the resource one gives it back. -/
def Exclusive (takes gives : ε → Prop) (history : List ε) : Prop :=
  ∀ before first between second after, history = before ++ first :: (between ++ second :: after) →
    takes first → takes second → ∃ r ∈ between, gives r

theorem not_held_nil : ¬Held takes gives ([] : List ε) := by
  rintro ⟨before, taker, after, h, -, -⟩
  have hlength := congrArg length h
  simp at hlength

theorem exclusive_nil : Exclusive takes gives ([] : List ε) := by
  intro before first between second after h
  have hlength := congrArg length h
  simp at hlength

/-- **One more event**: the resource is held if the event takes it, or if it was held
and the event does not give it back. -/
theorem held_append (h : Held takes gives (history ++ [e])) :
    takes e ∨ (Held takes gives history ∧ ¬gives e) := by
  obtain ⟨before, taker, after, heq, htakes, hkeeps⟩ := h
  rcases eq_nil_or_concat after with rfl | ⟨after, last, rfl⟩
  · obtain rfl := singleton_inj.1 (append_inj' heq rfl).2
    exact .inl htakes
  · simp only [concat_eq_append] at heq hkeeps
    have heq' : history ++ [e] = (before ++ taker :: after) ++ [last] := by
      rw [heq, append_assoc, cons_append]
    obtain ⟨hhistory, hlast⟩ := append_inj' heq' rfl
    obtain rfl := singleton_inj.1 hlast
    exact .inr ⟨⟨before, taker, after, hhistory, htakes, fun r hr =>
      hkeeps r (mem_append_left _ hr)⟩, hkeeps e (by simp)⟩

/-- **The rule for exclusiveness**: an event that takes the resource comes when it is
not held. -/
theorem Exclusive.append (h : Exclusive takes gives history)
    (hfree : takes e → ¬Held takes gives history) : Exclusive takes gives (history ++ [e]) := by
  intro before first between second after heq hfirst hsecond
  rcases eq_nil_or_concat after with rfl | ⟨after, last, rfl⟩
  · have heq' : history ++ [e] = (before ++ first :: between) ++ [second] := by
      rw [heq, append_assoc, cons_append]
    obtain ⟨hhistory, hlast⟩ := append_inj' heq' rfl
    obtain rfl := singleton_inj.1 hlast
    by_contra hkeeps
    exact hfree hsecond ⟨before, first, between, hhistory, hfirst, fun r hr hgives =>
      hkeeps ⟨r, hr, hgives⟩⟩
  · have heq' : history ++ [e] = (before ++ first :: (between ++ second :: after)) ++ [last] := by
      rw [heq, concat_eq_append]
      simp
    exact h before first between second after (append_inj' heq' rfl).1 hfirst hsecond

end Holding
end Sebastian

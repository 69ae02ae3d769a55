/-
# Windows modulo a cycle

A window `[start, start + duration)` that recurs with a period `cycle` occupies
the instants of the cycle that its own instants are congruent to (`Occupies`).
One that ends inside the cycle it starts in (`Fits`) occupies an interval
(`occupies_iff`), and two such windows share no instant as soon as their intervals
are `Apart` (`Apart.not_occupies`).
-/

import Mathlib.Algebra.Order.Ring.Int
import Mathlib.Tactic.Ring

namespace Sebastian
namespace Cyclic

variable {cycle start start' duration duration' x : ℤ}

/-- The window occupies the instant `x` of the cycle. -/
def Occupies (cycle start duration x : ℤ) : Prop :=
  ∃ t, start ≤ t ∧ t < start + duration ∧ t % cycle = x

/-- The window ends inside the cycle it starts in. -/
def Fits (cycle start duration : ℤ) : Prop := start % cycle + duration < cycle

/-- In the cycle one window ends before the other one starts. -/
def Apart (cycle start duration start' duration' : ℤ) : Prop :=
  start % cycle + duration ≤ start' % cycle ∨ start' % cycle + duration' ≤ start % cycle

instance : Decidable (Fits cycle start duration) := inferInstanceAs (Decidable (_ < _))

instance : Decidable (Apart cycle start duration start' duration') :=
  inferInstanceAs (Decidable (_ ∨ _))

theorem Apart.symm (h : Apart cycle start duration start' duration') :
    Apart cycle start' duration' start duration := Or.symm h

/-- **A window that ends inside its cycle** occupies an interval of the cycle. -/
theorem occupies_iff (hc : 0 < cycle) (h : Fits cycle start duration) :
    Occupies cycle start duration x ↔ start % cycle ≤ x ∧ x < start % cycle + duration := by
  have hnonneg := Int.emod_nonneg start hc.ne'
  have hdiv := Int.emod_add_mul_ediv start cycle
  unfold Fits at h
  constructor
  · rintro ⟨t, hle, hlt, rfl⟩
    -- the instant is as far behind the start as in the cycle
    have ht : t % cycle = start % cycle + (t - start) := by
      have hshift : t = start % cycle + (t - start) + cycle * (start / cycle) := by omega
      rw [hshift, Int.add_mul_emod_self_left]
      rw [← hshift]
      exact Int.emod_eq_of_lt (by omega) (by omega)
    omega
  · rintro ⟨hle, hlt⟩
    refine ⟨x + cycle * (start / cycle), by omega, by omega, ?_⟩
    rw [Int.add_mul_emod_self_left]
    exact Int.emod_eq_of_lt (by omega) (by omega)

/-- **Windows whose intervals are apart** share no instant of the cycle. -/
theorem Apart.not_occupies (hc : 0 < cycle) (h : Fits cycle start duration)
    (h' : Fits cycle start' duration') (happart : Apart cycle start duration start' duration') :
    ¬(Occupies cycle start duration x ∧ Occupies cycle start' duration' x) := by
  rw [occupies_iff hc h, occupies_iff hc h']
  rcases happart with hle | hle <;> omega

end Cyclic
end Sebastian

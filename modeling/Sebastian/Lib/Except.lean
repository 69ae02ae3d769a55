/-
# Operations that may fail

An operation that checks its input and returns early is a function into
`Except`, one that may not return at all a function into `Option`.  The rules
here take a sequence and a loop of such operations apart, so that a proof about
success never unfolds the monad: `foldlM_rule` for what holds when the loop
ends well, `exists_foldlM` for a loop that does.
-/

import Mathlib.Tactic.Common

namespace Sebastian
namespace ExceptRule

variable {ε α β : Type}

theorem exists_of_bind {x : Except ε α} {f : α → Except ε β} {b : β}
    (h : (x >>= f) = .ok b) : ∃ a, x = .ok a ∧ f a = .ok b := by
  cases x with
  | error e => cases h
  | ok a => exact ⟨a, rfl, h⟩

theorem exists_of_map {x : Except ε α} {f : α → β} {b : β} (h : x.map f = .ok b) :
    ∃ a, x = .ok a ∧ f a = b := by
  cases x with
  | error e => cases h
  | ok a => exact ⟨a, rfl, Except.ok.inj h⟩

/-- **The rule for a loop that may fail.**  What holds at the start and survives
every round that succeeds holds at the end. -/
theorem foldlM_rule {f : β → α → Except ε β} {I : β → Prop} {l : List α} {b b' : β}
    (h : l.foldlM f b = .ok b') (hI : I b) (hstep : ∀ c c' a, I c → f c a = .ok c' → I c') :
    I b' := by
  induction l generalizing b with
  | nil => cases h; exact hI
  | cons a l ih =>
    rw [List.foldlM_cons] at h
    obtain ⟨c, hc, hl⟩ := exists_of_bind h
    exact ih hl (hstep b c a hI hc)

/-- As above, where a round may also be told which rounds came before it. -/
theorem foldlM_rule_moment {f : β → α → Except ε β} {I : β → Prop} {l : List α} {b b' : β}
    (h : l.foldlM f b = .ok b') (hI : I b)
    (hstep : ∀ before a after c c', l = before ++ a :: after → before.foldlM f b = .ok c →
      I c → f c a = .ok c' → I c') : I b' := by
  induction l generalizing b with
  | nil => cases h; exact hI
  | cons a l ih =>
    rw [List.foldlM_cons] at h
    obtain ⟨c, hc, hl⟩ := exists_of_bind h
    refine ih hl (hstep [] a l b c rfl rfl hI hc) ?_
    intro before x after d d' hsplit hbefore hId hd
    refine hstep (a :: before) x after d d' (by rw [hsplit, List.cons_append]) ?_ hId hd
    rw [List.foldlM_cons, hc]
    exact hbefore

/-- As above, with an invariant of what the loop has passed. -/
theorem foldlM_rule_passed {f : β → α → Except ε β} {I : List α → β → Prop} {l : List α} {b b' : β}
    (h : l.foldlM f b = .ok b') (hI : I [] b)
    (hstep : ∀ passed a rest c c', l = passed ++ a :: rest → I passed c → f c a = .ok c' →
      I (passed ++ [a]) c') : I l b' := by
  suffices hrest : ∀ passed rest c, l = passed ++ rest → I passed c → rest.foldlM f c = .ok b' →
      I (passed ++ rest) b' from hrest [] l b rfl hI h
  intro passed rest
  induction rest generalizing passed with
  | nil =>
    intro c _ hc hend
    cases hend
    rwa [List.append_nil]
  | cons a rest ih =>
    intro c hl hc hend
    rw [List.foldlM_cons] at hend
    obtain ⟨c', hf, hend⟩ := exists_of_bind hend
    have hI' := ih (passed ++ [a]) c' (by rw [hl, List.append_assoc]; rfl)
      (hstep passed a rest c c' hl hc hf) hend
    rwa [List.append_assoc] at hI'

/-- **The rule for a loop that succeeds**: each round does when the invariant of what the
loop has passed holds, and it holds afterwards. -/
theorem exists_foldlM {f : β → α → Except ε β} {I : List α → β → Prop} {l : List α} {b : β}
    (hI : I [] b)
    (hstep : ∀ passed a c, a ∈ l → I passed c → ∃ c', f c a = .ok c' ∧ I (passed ++ [a]) c') :
    ∃ b', l.foldlM f b = .ok b' ∧ I l b' := by
  suffices h : ∀ rest passed c, (∀ a ∈ rest, a ∈ l) → I passed c →
      ∃ b', rest.foldlM f c = .ok b' ∧ I (passed ++ rest) b' from
    h l [] b (fun _ ha => ha) hI
  intro rest
  induction rest with
  | nil => exact fun passed c _ hc => ⟨c, rfl, by rwa [List.append_nil]⟩
  | cons a rest ih =>
    intro passed c hl hc
    obtain ⟨c', hf, hc'⟩ := hstep passed a c (hl a List.mem_cons_self) hc
    obtain ⟨b', hb', hI'⟩ := ih (passed ++ [a]) c' (fun x hx => hl x
      (List.mem_cons_of_mem _ hx)) hc'
    refine ⟨b', ?_, by rwa [List.append_assoc] at hI'⟩
    rw [List.foldlM_cons, hf]
    exact hb'

/-- A loop over checks passes exactly when every check does. -/
theorem forM_eq_ok_iff {f : α → Except ε Unit} {l : List α} :
    l.forM f = .ok () ↔ ∀ a ∈ l, f a = .ok () := by
  induction l with
  | nil => exact iff_of_true rfl fun _ h => absurd h List.not_mem_nil
  | cons a l ih =>
    rw [List.forall_mem_cons, ← ih]
    show (f a >>= fun _ => l.forM f) = .ok () ↔ _
    constructor
    · intro h
      obtain ⟨⟨⟩, ha, hl⟩ := exists_of_bind h
      exact ⟨ha, hl⟩
    · rintro ⟨ha, hl⟩
      rw [ha]
      exact hl

/-- **What holds when it ends**, of the result or of the error. -/
def Ends (P : α → Prop) (F : ε → Prop) : Except ε α → Prop
  | .ok a => P a
  | .error e => F e

/-- **The rule for a sequence:** an error of the first part is one of the whole. -/
theorem Ends.bind {P : α → Prop} {Q : β → Prop} {F : ε → Prop} {x : Except ε α}
    {f : α → Except ε β} (hx : Ends P F x) (hf : ∀ a, P a → Ends Q F (f a)) :
    Ends Q F (x >>= f) := by
  cases x with
  | error e => exact hx
  | ok a => exact hf a hx

/-- **The rule for a loop**, with an invariant that also holds where it fails. -/
theorem Ends.foldlM {I : β → Prop} {F : ε → Prop} {f : β → α → Except ε β} {l : List α} {b : β}
    (hI : I b) (hstep : ∀ c a, a ∈ l → I c → Ends I F (f c a)) : Ends I F (l.foldlM f b) := by
  induction l generalizing b with
  | nil => exact hI
  | cons a l ih =>
    rw [List.foldlM_cons]
    exact (hstep b a List.mem_cons_self hI).bind fun c hc =>
      ih hc fun c x hx => hstep c x (List.mem_cons_of_mem _ hx)

/-- **Two operations go the same way**: both succeed with results in relation, or both
fail. -/
inductive Together {ε' : Type} (R : α → β → Prop) : Except ε α → Except ε' β → Prop
  | ok {a : α} {b : β} (h : R a b) : Together R (.ok a) (.ok b)
  | error {e : ε} {e' : ε'} : Together R (.error e) (.error e')

/-- **The rule for two loops in lock step** over one list. -/
theorem Together.foldlM {ε' γ : Type} {R : α → β → Prop} {f : α → γ → Except ε α}
    {g : β → γ → Except ε' β} {l : List γ} {a : α} {b : β} (h : R a b)
    (hstep : ∀ a b c, c ∈ l → R a b → Together R (f a c) (g b c)) :
    Together R (l.foldlM f a) (l.foldlM g b) := by
  induction l generalizing a b with
  | nil => exact .ok h
  | cons c l ih =>
    rw [List.foldlM_cons, List.foldlM_cons]
    have hfirst := hstep a b c List.mem_cons_self h
    generalize f a c = x at hfirst ⊢
    generalize g b c = y at hfirst ⊢
    cases hfirst with
    | ok h' => exact ih h' fun a b x hx => hstep a b x (List.mem_cons_of_mem _ hx)
    | error => exact .error

end ExceptRule

namespace OptionRule

variable {α β : Type}

/-- **The rule for a loop that may not return.**  What holds at the start and
survives every round that returns holds at the end. -/
theorem foldlM_rule {f : β → α → Option β} {I : β → Prop} {l : List α} {b b' : β}
    (h : l.foldlM f b = some b') (hI : I b)
    (hstep : ∀ c c' a, a ∈ l → I c → f c a = some c' → I c') : I b' := by
  induction l generalizing b with
  | nil => cases h; exact hI
  | cons a l ih =>
    rw [List.foldlM_cons] at h
    obtain ⟨c, hc, hl⟩ := Option.bind_eq_some_iff.1 h
    exact ih hl (hstep b c a List.mem_cons_self hI hc) fun c c' a ha =>
      hstep c c' a (List.mem_cons_of_mem _ ha)

/-- In a loop that returns, every round returned. -/
theorem exists_of_mem_foldlM {f : β → α → Option β} {l : List α} {a : α} {b b' : β}
    (h : l.foldlM f b = some b') (ha : a ∈ l) : ∃ c c', f c a = some c' := by
  induction l generalizing b with
  | nil => exact absurd ha List.not_mem_nil
  | cons x l ih =>
    rw [List.foldlM_cons] at h
    obtain ⟨c, hc, hl⟩ := Option.bind_eq_some_iff.1 h
    rcases List.mem_cons.1 ha with rfl | ha
    · exact ⟨b, c, hc⟩
    · exact ih hl ha

/-- **The rule for a loop that returns**, told which rounds come before each.  Each
round returns when the invariant of what the loop has passed holds, and it holds
afterwards. -/
theorem exists_foldlM_moment {f : β → α → Option β} {I : List α → β → Prop} {l : List α} {b : β}
    (hI : I [] b)
    (hstep : ∀ passed a rest c, l = passed ++ a :: rest → I passed c →
      ∃ c', f c a = some c' ∧ I (passed ++ [a]) c') : ∃ b', l.foldlM f b = some b' ∧ I l b' := by
  suffices h : ∀ passed rest c, l = passed ++ rest → I passed c →
      ∃ b', rest.foldlM f c = some b' ∧ I (passed ++ rest) b' from
    h [] l b rfl hI
  intro passed rest
  induction rest generalizing passed with
  | nil => exact fun c _ hc => ⟨c, rfl, by rwa [List.append_nil]⟩
  | cons a rest ih =>
    intro c hl hc
    obtain ⟨c', hf, hc'⟩ := hstep passed a rest c hl hc
    obtain ⟨b', hb', hI'⟩ := ih (passed ++ [a]) c' (by rw [hl, List.append_assoc]; rfl) hc'
    refine ⟨b', ?_, by rwa [List.append_assoc] at hI'⟩
    rw [List.foldlM_cons, hf]
    exact hb'

theorem exists_foldlM {f : β → α → Option β} {I : List α → β → Prop} {l : List α} {b : β}
    (hI : I [] b)
    (hstep : ∀ passed a c, a ∈ l → I passed c → ∃ c', f c a = some c' ∧ I (passed ++ [a]) c') :
    ∃ b', l.foldlM f b = some b' ∧ I l b' :=
  exists_foldlM_moment hI fun passed a _ c hl hc => hstep passed a c (by rw [hl]; simp) hc

end OptionRule
end Sebastian

/-
# Functions that fail, panic and defer

A Go function that returns an error ends in one of three ways: with its value,
with an error, or by a panic.  What it writes can be seen by others before it
has ended, so a run of it (`Ran`) also has the states it passes through.

`deferring` is a deferred function, which runs at the end of the body however
the body ends; `recovering` is one that calls `recover()`.  `Meets` says of a
run how it ends, in which state, and what holds in every state on the way; there
is one rule for each construct, and one for functions that write nothing (`Quiet`).
-/

import Mathlib.Data.List.Basic

namespace Sebastian

/-- How a call ends. -/
inductive Ending (ε α : Type) where
  | returned (value : α)
  | failed (error : ε)
  | panicked
  deriving DecidableEq

/-- A run: its end, the state at the end, and the state after every write. -/
structure Ran (ε σ α : Type) where
  ending : Ending ε α
  state : σ
  visited : List σ

/-- The body of a function over a state. -/
def GoFunc (ε σ α : Type) := σ → Ran ε σ α

namespace GoFunc

variable {ε ε' σ α β : Type}

def ret (value : α) : GoFunc ε σ α := fun s => ⟨.returned value, s, []⟩

/-- `return err` -/
def fail (error : ε) : GoFunc ε σ α := fun s => ⟨.failed error, s, []⟩

/-- What follows is run only if what comes before it returned. -/
def followedBy (ran : Ran ε σ α) (f : α → GoFunc ε σ β) : Ran ε σ β :=
  match ran with
  | ⟨.returned value, t, visited⟩ =>
    ⟨(f value t).ending, (f value t).state, visited ++ (f value t).visited⟩
  | ⟨.failed error, t, visited⟩ => ⟨.failed error, t, visited⟩
  | ⟨.panicked, t, visited⟩ => ⟨.panicked, t, visited⟩

instance : Monad (GoFunc ε σ) where
  pure := ret
  bind m f := fun s => followedBy (m s) f

/-- A read of the state. -/
def get : GoFunc ε σ σ := fun s => ⟨.returned s, s, []⟩

/-- One write. -/
def write (change : σ → σ) : GoFunc ε σ Unit := fun s => ⟨.returned (), change s, [change s]⟩

/-- A call of a function that does not touch this state, and that ends so; `onError` is done when
it returns an error. -/
def call (ending : Ending ε' α) (onError : ε' → GoFunc ε σ α) : GoFunc ε σ α :=
  match ending with
  | .returned value => ret value
  | .failed error => onError error
  | .panicked => fun s => ⟨.panicked, s, []⟩

/-- `defer`: `last` runs when the body has ended and knows how.  The function ends the same way
unless `last` panics. -/
def deferring (body : GoFunc ε σ α) (last : Ending ε α → GoFunc ε' σ Unit) : GoFunc ε σ α :=
  fun s =>
    let ran := body s
    let cleanup := last ran.ending ran.state
    ⟨match cleanup.ending with
      | .panicked => .panicked
      | _ => ran.ending, cleanup.state, ran.visited ++ cleanup.visited⟩

/-- `defer` of a function that calls `recover()`: `result` is what is returned after a panic. -/
def recovering (body : GoFunc ε σ α) (result : Ending ε α) : GoFunc ε σ α := fun s =>
  let ran := body s
  ⟨match ran.ending with
    | .panicked => result
    | ending => ending, ran.state, ran.visited⟩

/-- **What a run does**: it ends as `Q` says, and `I` holds in every state on the way. -/
structure Meets (m : GoFunc ε σ α) (s : σ) (Q : Ending ε α → σ → Prop) (I : σ → Prop) : Prop where
  ends : Q (m s).ending (m s).state
  visits : ∀ t ∈ (m s).visited, I t

variable {m : GoFunc ε σ α} {f : α → GoFunc ε σ β} {s : σ} {I I' : σ → Prop}
  {Q Q' : Ending ε α → σ → Prop}

theorem Meets.mono (h : Meets m s Q I) (hQ : ∀ ending t, Q ending t → Q' ending t)
    (hI : ∀ t, I t → I' t) : Meets m s Q' I' :=
  ⟨hQ _ _ h.ends, fun t ht => hI t (h.visits t ht)⟩

theorem meets_ret {value : α} (h : Q (.returned value) s) : Meets (ret value) s Q I :=
  ⟨h, fun _ ht => nomatch ht⟩

theorem meets_pure {value : α} (h : Q (.returned value) s) :
    Meets (pure value : GoFunc ε σ α) s Q I := meets_ret h

theorem meets_fail {error : ε} (h : Q (.failed error) s) : Meets (fail error) s Q I :=
  ⟨h, fun _ ht => nomatch ht⟩

theorem meets_write {change : σ → σ} {Q : Ending ε Unit → σ → Prop}
    (h : Q (.returned ()) (change s)) (hI : I (change s)) : Meets (write change) s Q I :=
  ⟨h, fun t ht => by rwa [List.mem_singleton.1 ht]⟩

/-- **Sequence**: the second part is run where the first one returned. -/
theorem Meets.bind {R : Ending ε β → σ → Prop} (h : Meets m s Q I)
    (hreturned : ∀ value t, Q (.returned value) t → Meets (f value) t R I)
    (hfailed : ∀ error t, Q (.failed error) t → R (.failed error) t)
    (hpanicked : ∀ t, Q .panicked t → R .panicked t) : Meets (m >>= f) s R I := by
  have hran : (m >>= f) s = followedBy (m s) f := rfl
  obtain ⟨hends, hvisits⟩ := h
  rcases hm : m s with ⟨ending, t, visited⟩
  rw [hm] at hran hends hvisits
  cases ending with
  | returned value =>
    have hf := hreturned value t hends
    refine ⟨hran ▸ hf.ends, fun u hu => ?_⟩
    rw [hran] at hu
    rcases List.mem_append.1 hu with hu | hu
    · exact hvisits u hu
    · exact hf.visits u hu
  | failed error =>
    refine ⟨hran ▸ hfailed error t hends, fun u hu => ?_⟩
    rw [hran] at hu
    exact hvisits u hu
  | panicked =>
    refine ⟨hran ▸ hpanicked t hends, fun u hu => ?_⟩
    rw [hran] at hu
    exact hvisits u hu

theorem meets_write_bind {change : σ → σ} {f : Unit → GoFunc ε σ β}
    {R : Ending ε β → σ → Prop} (hI : I (change s)) (h : Meets (f ()) (change s) R I) :
    Meets (write change >>= f) s R I := by
  refine ⟨h.ends, fun t ht => ?_⟩
  rcases List.mem_append.1 ht with ht | ht
  · rwa [List.mem_singleton.1 ht]
  · exact h.visits t ht

theorem meets_fail_bind {error : ε} {R : Ending ε β → σ → Prop} (h : R (.failed error) s) :
    Meets (fail error >>= f) s R I := ⟨h, fun _ ht => nomatch ht⟩

/-- **A call, and what is done after it.** -/
theorem meets_call_bind {ending : Ending ε' α} {onError : ε' → GoFunc ε σ α}
    {R : Ending ε β → σ → Prop}
    (hreturned : ∀ value, ending = .returned value → Meets (f value) s R I)
    (hfailed : ∀ error, ending = .failed error → Meets (onError error >>= f) s R I)
    (hpanicked : ending = .panicked → R .panicked s) : Meets (call ending onError >>= f) s R I := by
  cases ending with
  | returned value => exact hreturned value rfl
  | failed error => exact hfailed error rfl
  | panicked => exact ⟨hpanicked rfl, fun _ ht => nomatch ht⟩

/-- **A deferred function** runs in the state the body leaves. -/
theorem Meets.deferring {last : Ending ε α → GoFunc ε' σ Unit} {R : Ending ε α → σ → Prop}
    (h : Meets m s Q I)
    (hlast : ∀ ending t, Q ending t → Meets (last ending) t
      (fun cleanup u => R (match cleanup with
        | .panicked => .panicked
        | _ => ending) u) I) : Meets (m.deferring last) s R I := by
  have hcleanup := hlast _ _ h.ends
  refine ⟨hcleanup.ends, fun t ht => ?_⟩
  rcases List.mem_append.1 ht with ht | ht
  · exact h.visits t ht
  · exact hcleanup.visits t ht

/-- **A recovered body** ends as it did, or by a panic with the result. -/
theorem Meets.recovering {result : Ending ε α} {R : Ending ε α → σ → Prop} (h : Meets m s Q I)
    (hended : ∀ ending t, ending ≠ .panicked → Q ending t → R ending t)
    (hpanicked : ∀ t, Q .panicked t → R result t) : Meets (m.recovering result) s R I := by
  refine ⟨?_, h.visits⟩
  have hends := h.ends
  unfold GoFunc.recovering
  dsimp only
  split
  · rename_i hran
    rw [hran] at hends
    exact hpanicked _ hends
  · rename_i hran
    exact hended _ _ hran hends

/-! ### Functions that do not write -/

/-- The function writes nothing, however it ends. -/
def Quiet (m : GoFunc ε σ α) : Prop := ∀ s, (m s).state = s ∧ (m s).visited = []

theorem quiet_ret {value : α} : Quiet (ret value : GoFunc ε σ α) := fun _ => ⟨rfl, rfl⟩

theorem quiet_fail {error : ε} : Quiet (fail error : GoFunc ε σ α) := fun _ => ⟨rfl, rfl⟩

theorem quiet_call {ending : Ending ε' α} {onError : ε' → GoFunc ε σ α}
    (h : ∀ error, Quiet (onError error)) : Quiet (call ending onError) := by
  cases ending with
  | returned value => exact quiet_ret
  | failed error => exact h error
  | panicked => exact fun _ => ⟨rfl, rfl⟩

theorem Quiet.bind (h : Quiet m) (hf : ∀ value, Quiet (f value)) : Quiet (m >>= f) := by
  intro s
  have hran : (m >>= f) s = followedBy (m s) f := rfl
  obtain ⟨hstate, hvis⟩ := h s
  rcases hm : m s with ⟨ending, t, visited⟩
  rw [hm] at hran hstate hvis
  dsimp only at hstate hvis
  rw [hstate, hvis] at hran
  rw [hran]
  cases ending with
  | returned value => exact hf value s
  | failed error => exact ⟨rfl, rfl⟩
  | panicked => exact ⟨rfl, rfl⟩

/-- A quiet function ends in the state it started in. -/
theorem Quiet.meets (h : Quiet m) (hQ : ∀ ending, Q ending s) : Meets m s Q I := by
  obtain ⟨hstate, hvis⟩ := h s
  refine ⟨?_, fun t ht => ?_⟩
  · rw [hstate]
    exact hQ _
  · rw [hvis] at ht
    cases ht

end GoFunc
end Sebastian

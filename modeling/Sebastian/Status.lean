/-
# `ACT_STATUS`

The status object every operation returns (`common/act_status.hpp`).  Of its
many classes these are the ones the modelled operations build.  A message is
kept as the program writes it: the `QString` template with its `%1`, `%2`, …
and the arguments of the chained `.arg(..)` calls, in order.
-/

import Mathlib.Data.Rat.Defs

namespace Sebastian

/-- An argument of `QString::arg`. -/
inductive MessageArg where
  | str (s : String)
  | int (n : ℤ)
  | real (q : ℚ)
  deriving DecidableEq

/-- `QString(template).arg(a₁).arg(a₂)…` -/
structure Message where
  template : String
  args : List MessageArg := []
  deriving DecidableEq

/-- `ACT_STATUS`, by its `ActStatusType`. -/
inductive Status where
  | success
  | feasibilityCheckFailed (reason : Message)
  | schedulingFailed (message : Message)
  | badRequest (message : Message)
  | notFound (item : Message)
  | internalError (module : Message)
  | duplicated (item : Message)
  | licenseSizeFailed (item : String) (size : ℕ)
  deriving DecidableEq, Inhabited

namespace Status

/-- `IsActStatusSuccess` -/
def isSuccess : Status → Bool
  | success => true
  | _ => false

/-- `IsActStatusFeasibilityCheckFailed` -/
def isFeasibilityCheckFailed : Status → Bool
  | feasibilityCheckFailed _ => true
  | _ => false

/-- `IsActStatusNotFound` -/
def isNotFound : Status → Bool
  | notFound _ => true
  | _ => false

@[simp] theorem isSuccess_iff {s : Status} : s.isSuccess = true ↔ s = success := by
  cases s <;> simp [isSuccess]

@[simp] theorem isSuccess_eq_false_iff {s : Status} : s.isSuccess = false ↔ s ≠ success := by
  cases s <;> simp [isSuccess]

end Status
end Sebastian

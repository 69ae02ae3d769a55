/-
# Double precision

The result of one arithmetic operation on `double` is the exact rational result
rounded to a number of 53 significant bits, to the nearest one and in case of a
tie to the even one.  `Binary64.round` is that rounding on `ℚ`; a `qreal` of the
program is the rational number it stands for, and an operation on it is the
operation on `ℚ` followed by `round`.  Exponents are not bounded: the program's
numbers are nowhere near the ends of the range.

`qCeil` and the conversion to `qint64` leave the doubles again.
-/

import Mathlib.Data.Rat.Floor

namespace Sebastian
namespace Binary64

/-- The exponent of a number: the `e` with `2 ^ e ≤ |q| < 2 ^ (e + 1)`. -/
def exponent (q : ℚ) : ℤ :=
  let e : ℤ := (Nat.log2 q.num.natAbs : ℤ) - Nat.log2 q.den
  if (2 : ℚ) ^ e ≤ |q| then e else e - 1

/-- The nearest integer, the even one in case of a tie. -/
def roundHalfEven (x : ℚ) : ℤ :=
  if x - ⌊x⌋ < 1 / 2 then ⌊x⌋
  else if x - ⌊x⌋ > 1 / 2 then ⌊x⌋ + 1
  else if ⌊x⌋ % 2 = 0 then ⌊x⌋ else ⌊x⌋ + 1

/-- The number of 53 significant bits nearest to `q`. -/
def round (q : ℚ) : ℚ :=
  if q = 0 then 0
  else
    let unit : ℚ := (2 : ℚ) ^ (exponent q - 52)
    roundHalfEven (q / unit) * unit

/-- `static_cast<qreal>` of an integer. -/
def ofInt (n : ℤ) : ℚ := round n

/-- `a / b` on doubles; a division by zero gives an infinity or no number at all. -/
def div (a b : ℚ) : Option ℚ := if b = 0 then none else some (round (a / b))

/-- `a * b` on doubles. -/
def mul (a b : ℚ) : ℚ := round (a * b)

/-- `qCeil`: its result is an `int`, and undefined where it does not fit. -/
def qCeil (q : ℚ) : Option ℤ :=
  if -2 ^ 31 ≤ ⌈q⌉ ∧ ⌈q⌉ < 2 ^ 31 then some ⌈q⌉ else none

/-- The conversion to `qint64`: towards zero. -/
def trunc (q : ℚ) : ℤ := q.num.tdiv q.den

example : round (1 / 3) = 6004799503160661 / 18014398509481984 := by decide +kernel

theorem roundHalfEven_nonneg {x : ℚ} (h : 0 ≤ x) : 0 ≤ roundHalfEven x := by
  have hfloor : 0 ≤ ⌊x⌋ := Int.floor_nonneg.2 h
  unfold roundHalfEven
  split_ifs <;> omega

theorem round_nonneg {q : ℚ} (h : 0 ≤ q) : 0 ≤ round q := by
  unfold round
  split_ifs
  · exact le_rfl
  · have hunit : (0 : ℚ) < (2 : ℚ) ^ (exponent q - 52) := zpow_pos (by norm_num) _
    have hround : (0 : ℚ) ≤ roundHalfEven (q / (2 : ℚ) ^ (exponent q - 52)) :=
      Int.cast_nonneg (roundHalfEven_nonneg (div_nonneg h hunit.le))
    exact mul_nonneg hround hunit.le

theorem nonneg_of_div {a b q : ℚ} (ha : 0 ≤ a) (hb : 0 ≤ b) (h : div a b = some q) : 0 ≤ q := by
  unfold div at h
  split at h
  · cases h
  · cases h
    exact round_nonneg (div_nonneg ha hb)

theorem ofInt_nonneg {n : ℤ} (h : 0 ≤ n) : 0 ≤ ofInt n := round_nonneg (Int.cast_nonneg h)

theorem qCeil_nonneg {q : ℚ} {n : ℤ} (hq : 0 ≤ q) (h : qCeil q = some n) : 0 ≤ n := by
  unfold qCeil at h
  split_ifs at h
  cases h
  exact Int.ceil_nonneg hq

end Binary64
end Sebastian

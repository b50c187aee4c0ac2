import Mathlib.Algebra.BigOperators.Group.List.Basic
import Mathlib.Algebra.Order.BigOperators.Group.List
import Mathlib.Algebra.Order.Floor.Ring
import Mathlib.Data.Rat.Floor
import Mathlib.Tactic.Linarith
import Mathlib.Tactic.Positivity
import Mathlib.Tactic.Ring

/-!
# Means and their integers

* `truncate` — the integer part towards 0, which a conversion to an integer type takes.
* `awayFromZero` — a number moved by one half away from 0; its integer part is a nearest integer.
* `mean` — of the values of a list.
* `roundDouble`, `toInt32` — a number as a `double`, and a `double` as an `int`.
-/

namespace AsynDriver
namespace Library

variable {K : Type*} [Field K] [LinearOrder K]

/-! ## Rounding -/

/-- The integer part, towards 0. -/
def truncate [FloorRing K] (q : K) : ℤ := if 0 ≤ q then ⌊q⌋ else ⌈q⌉

/-- One half away from 0; 0 itself goes down. -/
def awayFromZero (q : K) : K := q + if 0 < q then 1 / 2 else -(1 / 2)

theorem truncate_of_nonneg [FloorRing K] {q : K} (hq : 0 ≤ q) : truncate q = ⌊q⌋ := if_pos hq

theorem awayFromZero_of_pos {q : K} (hq : 0 < q) : awayFromZero q = q + 1 / 2 := by
  unfold awayFromZero
  rw [if_pos hq]

theorem awayFromZero_of_nonpos {q : K} (hq : q ≤ 0) : awayFromZero q = q - 1 / 2 := by
  unfold awayFromZero
  rw [if_neg (not_lt.mpr hq), sub_eq_add_neg]

variable [IsStrictOrderedRing K]

section FloorRing

variable [FloorRing K]

@[simp] theorem truncate_intCast (z : ℤ) : truncate (z : K) = z := by
  unfold truncate
  split
  · exact Int.floor_intCast z
  · exact Int.ceil_intCast z

theorem truncate_of_nonpos {q : K} (hq : q ≤ 0) : truncate q = ⌈q⌉ := by
  unfold truncate
  split
  case isTrue hnonneg =>
    obtain rfl : q = 0 := le_antisymm hq hnonneg
    rw [Int.floor_zero, Int.ceil_zero]
  case isFalse => rfl

/-- The integer part of a number that was moved away from 0 is a nearest integer. -/
theorem abs_truncate_awayFromZero_sub_le (q : K) :
    |(truncate (awayFromZero q) : K) - q| ≤ 1 / 2 := by
  rw [abs_le]
  rcases lt_or_ge 0 q with hpos | hnonpos
  · rw [awayFromZero_of_pos hpos, truncate_of_nonneg (by linarith)]
    have hlow := Int.lt_floor_add_one (q + 1 / 2)
    have hhigh := Int.floor_le (q + 1 / 2)
    constructor <;> linarith
  · rw [awayFromZero_of_nonpos hnonpos, truncate_of_nonpos (by linarith)]
    have hlow := Int.le_ceil (q - 1 / 2)
    have hhigh := Int.ceil_lt_add_one (q - 1 / 2)
    constructor <;> linarith

end FloorRing

/-- Between integers a number stays less than one away from them. -/
theorem awayFromZero_lt {q : K} {a b : ℤ} (hlow : (a : K) ≤ q) (hhigh : q ≤ b) :
    (a : K) - 1 < awayFromZero q ∧ awayFromZero q < b + 1 := by
  rcases lt_or_ge 0 q with hpos | hnonpos
  · rw [awayFromZero_of_pos hpos]
    constructor <;> linarith
  · rw [awayFromZero_of_nonpos hnonpos]
    constructor <;> linarith

/-! ## Means -/

/-- The mean of the values; 0 where there are none. -/
def mean (values : List K) : K := values.sum / values.length

theorem sum_pos_iff_mean_pos {values : List K} : 0 < values.sum ↔ 0 < mean values := by
  unfold mean
  cases values with
  | nil => simp
  | cons first rest =>
      have hlength : (0 : K) < (first :: rest).length := by
        exact_mod_cast Nat.succ_pos rest.length
      rw [lt_div_iff₀ hlength, zero_mul]

/-- A mean lies between bounds of the values. -/
theorem mean_mem {values : List K} {a b : K} (hne : values ≠ [])
    (hbounds : ∀ v ∈ values, a ≤ v ∧ v ≤ b) : a ≤ mean values ∧ mean values ≤ b := by
  have hlength : (0 : K) < values.length := by
    exact_mod_cast List.length_pos_iff.mpr hne
  have hlow := List.card_nsmul_le_sum values a fun v hv => (hbounds v hv).1
  have hhigh := List.sum_le_card_nsmul values b fun v hv => (hbounds v hv).2
  rw [nsmul_eq_mul] at hlow hhigh
  unfold mean
  rw [le_div_iff₀ hlength, div_le_iff₀ hlength]
  constructor
  · rwa [mul_comm]
  · rwa [mul_comm]

/-! ## Doubles -/

/-- The nearest integer; of two, the even one. -/
def nearestEven (q : ℚ) : ℤ :=
  if q - ⌊q⌋ < 1 / 2 then ⌊q⌋
  else if 1 / 2 < q - ⌊q⌋ then ⌊q⌋ + 1
  else if ⌊q⌋ % 2 = 0 then ⌊q⌋
  else ⌊q⌋ + 1

/-- The exponent of the last of the 53 bits of a number; the subnormal numbers share the least. -/
def lastPlace (q : ℚ) : ℤ :=
  -- The size of the number lies between `2 ^ (e - 1)` and `2 ^ (e + 1)`.
  let e : ℤ := Nat.log2 q.num.natAbs - Nat.log2 q.den
  max ((if |q| < 2 ^ e then e - 1 else e) - 52) (-1074)

/-- A number as a `double`; one that is too large for it, and would become infinite, stays that large. -/
def roundDouble (q : ℚ) : ℚ := nearestEven (q / 2 ^ lastPlace q) * 2 ^ lastPlace q

/-- `(epicsInt32) q` and `(int) q`; what has no 32 bits becomes the least `int`, as on x86. -/
def toInt32 (q : ℚ) : ℤ := if -2 ^ 31 - 1 < q ∧ q < 2 ^ 31 then truncate q else -2 ^ 31

/-- The product of two doubles is rounded before it is converted. -/
example : (toInt32 (roundDouble (9 / 1000) * 1000),
    toInt32 (roundDouble (roundDouble (9 / 1000) * 1000)), toInt32 (roundDouble 3000000000)) =
    (8, 9, -2 ^ 31) := by decide +kernel

end Library
end AsynDriver

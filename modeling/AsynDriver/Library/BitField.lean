import Mathlib.Data.BitVec
import Mathlib.Tactic.Common

/-!
# Single bits and low bits of a word

* `and_one_shiftLeft_ne_zero` — the test of a bit with a mask that has been shifted to it.
* `getLsbD_lowMask`, `and_lowMask` — `~(~0 << n)` is the mask of the low `n` bits.
-/

namespace AsynDriver
namespace Library
namespace BitField

variable {w : Nat}

theorem and_one_shiftLeft (x : BitVec w) (i : Nat) :
    x &&& 1#w <<< i = if x.getLsbD i then 1#w <<< i else 0#w := by
  rw [← BitVec.twoPow_eq]
  exact BitVec.and_twoPow x i

theorem and_one_shiftLeft_ne_zero (x : BitVec w) {i : Nat} (hi : i < w) :
    x &&& 1#w <<< i ≠ 0#w ↔ x.getLsbD i = true := by
  have hpow : 1#w <<< i ≠ 0#w := by
    intro hzero
    have hbit : (BitVec.twoPow w i).getLsbD i = _ := BitVec.getLsbD_twoPow i i
    rw [BitVec.twoPow_eq, hzero] at hbit
    simp [hi] at hbit
  rw [and_one_shiftLeft]
  cases x.getLsbD i with
  | false => simp
  | true => simpa using hpow

theorem getLsbD_lowMask (n : Nat) {i : Nat} (hi : i < w) :
    (~~~ (BitVec.allOnes w <<< n)).getLsbD i = decide (i < n) := by
  by_cases hn : i < n
  · simp [hi, hn]
  · simp [hi, hn]

/-- The low `n` bits of a word. -/
theorem and_lowMask (x : BitVec w) (n : Nat) :
    x &&& ~~~ (BitVec.allOnes w <<< n) = (x.setWidth n).setWidth w := by
  refine BitVec.eq_of_getLsbD_eq fun i hi => ?_
  rw [BitVec.getLsbD_and, getLsbD_lowMask n hi, BitVec.getLsbD_setWidth, BitVec.getLsbD_setWidth,
    Bool.and_comm, decide_eq_true hi, Bool.true_and]

end BitField
end Library
end AsynDriver

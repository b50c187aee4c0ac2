import Mathlib.Data.List.OfFn
import Mathlib.Tactic.Common

/-!
# Copies into memory of fixed size

Memory for `n` elements is a function on `Fin n`.

* `copyArray` — the first elements of a list are copied to the beginning of the memory, as `memcpy` and
  the loops over an array do.
* `take_copyArray`, `copyArray_of_le` — the elements that are copied, and those behind.
* `take_succ_copyArray` — the element behind the copy is the one that was there.
-/

namespace AsynDriver
namespace Library

variable {α : Type*} {n : Nat}

/-- `dst` after the copy of the first `len` elements of `src`. -/
def copyArray (dst : Fin n → α) (src : List α) (len : Nat) : Fin n → α :=
  fun i => ((src.take len)[i.val]?).getD (dst i)

variable (dst : Fin n → α) {src : List α} {len : Nat}

theorem take_copyArray (hsrc : len ≤ src.length) (hdst : len ≤ n) :
    (List.ofFn (copyArray dst src len)).take len = src.take len := by
  apply List.ext_getElem?
  intro i
  by_cases hi : i < len
  · have hn : i < n := by omega
    have hlength : i < src.length := by omega
    simp [copyArray, hi, hn, hlength]
  · simp [hi]

/-- As many elements are copied as there are, or as there is room for. -/
theorem take_min_copyArray (src : List α) {room : Nat} (hroom : room ≤ n) :
    (List.ofFn (copyArray dst src (min src.length room))).take (min src.length room) =
      src.take room := by
  have hdst : min src.length room ≤ n := (Nat.min_le_right _ _).trans hroom
  rw [take_copyArray dst (Nat.min_le_left _ _) hdst, Nat.min_comm, ← List.take_eq_take_min]

theorem copyArray_of_le {i : Fin n} (hi : len ≤ i.val) : copyArray dst src len i = dst i := by
  have hnone : (src.take len)[i.val]? = none := by
    apply List.getElem?_eq_none
    rw [List.length_take]
    omega
  unfold copyArray
  rw [hnone, Option.getD_none]

theorem take_succ_copyArray (hsrc : len ≤ src.length) (hdst : len < n) :
    (List.ofFn (copyArray dst src len)).take (len + 1) = src.take len ++ [dst ⟨len, hdst⟩] := by
  rw [List.take_add_one, take_copyArray dst hsrc hdst.le, List.getElem?_ofFn, dif_pos hdst,
    copyArray_of_le dst (i := ⟨len, hdst⟩) le_rfl]
  rfl

end Library
end AsynDriver
